/-! Places in a YAML text, and what can be wrong there. -/

namespace LoginGateway.Yaml

structure Mark where
  index : Nat
  line : Nat
  column : Nat
deriving DecidableEq, Repr

namespace Mark

def start : Mark := ⟨0, 0, 0⟩

def isStart (mark : Mark) : Bool := mark.line = 0 && mark.column = 0

def text (mark : Mark) : String :=
  "line " ++ toString (mark.line + 1) ++ " column " ++ toString (mark.column + 1)

end Mark

structure Context where
  doing : String
  mark : Mark
deriving DecidableEq, Repr

inductive Fault where
  | form (problem : String) (mark : Mark) (context : Option Context)
  /-- An octet that no text of the format holds. -/
  | control (offset : Nat)
  | unknownAnchor (mark : Mark)
  | depth (mark : Mark)
  | repetition
  | documents
  /-- A value that cannot be read as what is wanted at `path`. -/
  | value (problem : String) (mark : Mark) (path : String)
deriving DecidableEq, Repr

namespace Fault

def place (mark : Mark) : String := if mark.isStart then "" else " at " ++ mark.text

def message : Fault → String
  | .form problem mark context =>
    problem ++ place mark ++ match context with
      | none => ""
      | some ⟨doing, begun⟩ =>
        ", " ++ doing ++ if begun.line = mark.line ∧ begun.column = mark.column then "" else place begun
  | .control offset =>
    "control characters are not allowed" ++ if offset = 0 then "" else " at position " ++ toString offset
  | .unknownAnchor mark => "unknown anchor" ++ place mark
  | .depth mark => "recursion limit exceeded" ++ place mark
  | .repetition => "repetition limit exceeded"
  | .documents => "deserializing from YAML containing more than one document is not supported"
  | .value problem mark path => (if path = "" then "" else path ++ ": ") ++ problem ++ place mark

end Fault

end LoginGateway.Yaml
