import LoginGateway.Log.Basic
import LoginGateway.Settings.Environment
import LoginGateway.Text.Letters
import LoginGateway.Text.Split

/-! Which records are told. A filter is a list of rules, each a level for the whole
program or for a part of it, and the rule for the narrowest part decides. -/

namespace LoginGateway.Log

/-- A level for the records from a part of the program, or for all; none silences them. -/
structure Rule where
  target : Option String
  level : Option Level
deriving DecidableEq, Repr

namespace Rule

def levels : List (String × Option Level) :=
  [("off", none), ("error", some .error), ("warn", some .warn), ("info", some .info),
    ("debug", some .debug), ("trace", some .trace), ("0", none), ("1", some .error),
    ("2", some .warn), ("3", some .info), ("4", some .debug), ("5", some .trace)]

def level? (text : List Char) : Option (Option Level) :=
  levels.lookup (String.ofList (text.map Char.toLower))

def isTargetChar (char : Char) : Bool :=
  isLetterOrDigit char || char = '_' || char = ':' || char = '-'

/-- The rule a text stands for: a level, or a part of the program with or without one.
Without one, all its records are told. -/
def read? (text : List Char) : Option Rule :=
  match level? text with
  | some level => some ⟨none, level⟩
  | none =>
    let (target, level) := cutFirst '=' text
    if target = [] ∨ !target.all isTargetChar then none
    else
      match level with
      | none | some [] => some ⟨some (String.ofList target), some .trace⟩
      | some level => (level? level).map fun level => ⟨some (String.ofList target), level⟩

def covers (rule : Rule) (target : String) : Bool :=
  match rule.target with
  | none => true
  | some start => start.toList.isPrefixOf target.toList

def width (rule : Rule) : Nat := (rule.target.map fun target => target.length + 1).getD 0

end Rule

structure Filter where
  rules : List Rule
deriving DecidableEq, Repr

namespace Filter

/-- Without any rule, errors are told. -/
def ofRules (rules : List Rule) : Filter := ⟨if rules = [] then [⟨none, some .error⟩] else rules⟩

def parts (text : String) : List (List Char) := (pieces ',' text.toList).filter (· ≠ [])

def read? (text : String) : Option Filter := ((parts text).mapM Rule.read?).map ofRules

/-- The filter of a text, and the parts of it that are no rules. -/
def readLeniently (text : String) : Filter × List String :=
  (ofRules ((parts text).filterMap Rule.read?),
    ((parts text).filter fun part => (Rule.read? part).isNone).map String.ofList)

/-- The filter for a level that was asked for, unless a variable holds another one. -/
def choose (environment : Environment) (level : String) : Filter × List String :=
  match (environment.get? "RUST_LOG").bind read? with
  | some filter => (filter, [])
  | none => readLeniently level

/-- The narrowest rule about a part of the program; of equally narrow ones the last. -/
def rule? (filter : Filter) (target : String) : Option Rule :=
  (filter.rules.filter (·.covers target)).foldl (fun best rule =>
    if best.any fun other => rule.width < other.width then best else some rule) none

def admits (filter : Filter) (record : Record) : Bool :=
  match (filter.rule? record.target).bind (·.level) with
  | some level => record.level.rank ≤ level.rank
  | none => false

end Filter

end LoginGateway.Log
