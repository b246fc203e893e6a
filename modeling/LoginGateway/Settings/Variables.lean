import LoginGateway.Number.Decimal
import LoginGateway.Settings.Environment
import LoginGateway.Settings.Mistake
import LoginGateway.Text.Blank
import LoginGateway.Text.Ranges

/-! Settings from variables. The name of a variable is a path into the settings, and
its text is a value in a small language of its own: truth values, numbers, texts,
lists in brackets and maps in braces. What does not read as a value is a text. -/

namespace LoginGateway.Variables

def isGap (char : Char) : Bool := [' ', '\t', '\n', '\r', '\x0c'].contains char

def skipGap (text : List Char) : List Char := text.dropWhile isGap

def isSeparator (char : Char) : Bool := [',', '{', '}', '[', ']'].contains char

def isKeyChar (char : Char) : Bool := char.isAlphanum || char = '_' || char = '-'

/-! Texts in double quotes. -/

def quotedRun : List Char → Option (List Char × List Char)
  | [] => none
  | '\x22' :: rest => some ([], rest)
  | '\\' :: char :: rest => (quotedRun rest).map fun (run, after) => ('\\' :: char :: run, after)
  | char :: rest => (quotedRun rest).map fun (run, after) => (char :: run, after)

def escapes : List (Char × Char) :=
  [('\x22', '\x22'), ('\\', '\\'), ('b', '\x08'), ('f', '\x0c'), ('n', '\n'), ('r', '\r'), ('t', '\t')]

def codePoint? (digits : List Char) : Option Char :=
  let code := hexNumber digits
  if digits.all isHexDigit ∧ code.isValidChar then some (Char.ofNat code) else none

def unescape? : List Char → Option (List Char)
  | [] => some []
  | '\\' :: 'u' :: a :: b :: c :: d :: rest => do
    let char ← codePoint? [a, b, c, d]
    return char :: (← unescape? rest)
  | '\\' :: 'U' :: a :: b :: c :: d :: e :: f :: g :: h :: rest => do
    let char ← codePoint? [a, b, c, d, e, f, g, h]
    return char :: (← unescape? rest)
  | '\\' :: letter :: rest => do
    let char ← escapes.lookup letter
    return char :: (← unescape? rest)
  | '\\' :: [] => none
  | char :: rest => (unescape? rest).map (char :: ·)

def quoted? (text : List Char) : Option (String × List Char) := do
  let (run, after) ← quotedRun text
  return (String.ofList (← unescape? run), after)

/-! Values. -/

/-- What a text without quotes stands for: a number with a point, a whole number, or
the text itself. -/
def bare (text : List Char) : Scalar :=
  let double := if text.contains '.' then Binary64.ofText? text else none
  match double, (naturalBelow UInt64.size text).toOption, (signed64 text).toOption with
  | some value, _, _ => .double value
  | none, some value, _ => .natural value
  | none, none, some value => .negative value.natAbs
  | none, none, none => .text (String.ofList text)

def key? (text : List Char) : Option (String × List Char) :=
  match text with
  | '\x22' :: rest => quoted? rest
  | _ =>
    let name := text.takeWhile isKeyChar
    if name = [] then none else some (String.ofList name, text.dropWhile isKeyChar)

def behind? (start : String) (text : List Char) : Option (List Char) :=
  if start.toList.isPrefixOf text then some (text.drop start.length) else none

mutual

def value? : Nat → List Char → Option (Document × List Char)
  | 0, _ => none
  | fuel + 1, text => do
    let text := skipGap text
    let (value, after) ←
      match behind? "true" text, behind? "false" text, text with
      | some after, _, _ => some (Document.scalar .variables (.bool true), after)
      | none, some after, _ => some (.scalar .variables (.bool false), after)
      | none, none, '{' :: rest =>
        (entries? fuel rest).map fun (entries, after) => (.ofEntries .variables entries, after)
      | none, none, '[' :: rest =>
        (items? fuel rest).map fun (items, after) => (.list .variables items, after)
      | none, none, '\x22' :: rest =>
        (quoted? rest).map fun (text, after) => (.scalar .variables (.text text), after)
      | none, none, '\'' :: char :: '\'' :: after => some (.scalar .variables (.letter char), after)
      | none, none, '\'' :: _ => none
      | none, none, text =>
        some (.scalar .variables (bare (trimWhile isBlankChar (text.takeWhile (!isSeparator ·)))),
          text.dropWhile (!isSeparator ·))
    return (value, skipGap after)

/-- The items of a list up to its bracket; a comma may stand behind the last. -/
def items? : Nat → List Char → Option (List Document × List Char)
  | 0, _ => none
  | fuel + 1, text =>
    match text with
    | ']' :: after => some ([], after)
    | _ => do
      let (item, after) ← value? fuel text
      match after with
      | ',' :: rest => (items? fuel rest).map fun (items, after) => (item :: items, after)
      | ']' :: after => some ([item], after)
      | _ => none

/-- The entries of a map up to its brace; a comma may stand behind the last. -/
def entries? : Nat → List Char → Option (List (String × Document) × List Char)
  | 0, _ => none
  | fuel + 1, text =>
    match text with
    | '}' :: after => some ([], after)
    | _ => do
      let (key, after) ← key? (skipGap text)
      match skipGap after with
      | '=' :: rest => do
        let (value, after) ← value? fuel rest
        match after with
        | ',' :: rest => (entries? fuel rest).map fun (entries, after) => ((key, value) :: entries, after)
        | '}' :: after => some ([(key, value)], after)
        | _ => none
      | _ => none

end

def value (text : String) : Document :=
  match value? (text.length + 1) text.toList with
  | some (document, []) => document
  | _ => .scalar .variables (.text text)

/-! Names. -/

/-- A text with two underscores in a row made a point. -/
def pointed : List Char → List Char
  | '_' :: '_' :: rest => '.' :: pointed rest
  | char :: rest => char :: pointed rest
  | [] => []

/-- The path that the name of a variable stands for. Without the mark in front, or
with a part left empty, it stands for none. -/
def path? (name : String) : Option (List String) :=
  let name := (trim name).toList
  let start := name.take Mistake.variableMark.length
  if start.map Char.toLower ≠ (lowerAscii Mistake.variableMark).toList then none
  else
    let path := trimWhile isBlankChar (pointed (name.drop start.length))
    let parts := pieces '.' (path.map Char.toLower)
    if parts.contains [] then none else some (parts.map String.ofList)

def nest : List String → Document → Document
  | [], value => value
  | key :: rest, value => .map .variables [(key, nest rest value)]

/-- The settings that the variables hold; a later variable is laid over earlier ones. -/
def document (environment : Environment) : Document :=
  environment.foldl (fun document (name, text) =>
    match path? name with
    | some path => document.merge (nest path (value text))
    | none => document) (.map .variables [])

end LoginGateway.Variables
