/-! The variables a process is started with. -/

namespace LoginGateway

/-- Names with their values. The first value of a name counts. -/
abbrev Environment := List (String × String)

namespace Environment

def get? (environment : Environment) (name : String) : Option String :=
  (environment.find? (·.1 = name)).map (·.2)

/-- Set a variable unless it is set. -/
def add (environment : Environment) (name value : String) : Environment :=
  if (environment.get? name).isSome then environment else environment ++ [(name, value)]

/-- The mark in front of the name of a variable that stands for its value. -/
def reference : List Char := "env:".toList

/-- A text, or the variable it refers to if that is set. -/
def resolve (environment : Environment) (text : String) : String :=
  if reference.isPrefixOf text.toList then
    (environment.get? (String.ofList (text.toList.drop 4))).getD text
  else text

end Environment

end LoginGateway
