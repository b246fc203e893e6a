/-! Cutting a list at a sign: everywhere it stands, or where it stands first. -/

namespace LoginGateway

variable {α : Type} [DecidableEq α]

/-- The pieces between the signs, one more than there are signs. -/
def pieces (sign : α) : List α → List (List α)
  | [] => [[]]
  | item :: rest =>
    if item = sign then [] :: pieces sign rest
    else match pieces sign rest with
      | piece :: others => (item :: piece) :: others
      | [] => [[item]]

def cutFirst (sign : α) : List α → List α × Option (List α)
  | [] => ([], none)
  | item :: rest =>
    if item = sign then ([], some rest)
    else
      let (before, after) := cutFirst sign rest
      (item :: before, after)

def split? (sign : α) : List α → Option (List α × List α)
  | [] => none
  | item :: rest =>
    if item = sign then some ([], rest)
    else (split? sign rest).map fun (before, after) => (item :: before, after)

end LoginGateway
