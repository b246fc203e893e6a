import LoginGateway.Yaml.Cursor

/-! The tokens of a YAML text. -/

namespace LoginGateway.Yaml

inductive TokenKind where
  | streamEnd
  | versionDirective (major minor : Nat)
  | tagDirective (handle start : List Char)
  | documentStart
  | documentEnd
  | blockListStart
  | blockMapStart
  | blockEnd
  | flowListStart
  | flowListEnd
  | flowMapStart
  | flowMapEnd
  | blockItem
  | flowComma
  | key
  | value
  | alias (name : List Char)
  | anchor (name : List Char)
  | tag (handle suffix : List Char)
  /-- A text; `plain` if it was written without quotes. -/
  | scalar (text : List Char) (plain : Bool)
deriving DecidableEq, Repr

structure Token where
  kind : TokenKind
  mark : Mark
deriving DecidableEq, Repr

/-- The tokens of a text up to its end, or up to the first fault in it. -/
structure Tokens where
  list : List Token
  fault : Option Fault
deriving DecidableEq, Repr

end LoginGateway.Yaml
