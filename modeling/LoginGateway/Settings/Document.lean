import LoginGateway.Json.Value

/-! What settings are read from: trees of lists and maps over plain values. Every
part knows where it came from, so that a mistake in it can be pointed at. -/

namespace LoginGateway

/-- Where a part of the settings came from. -/
inductive Origin where
  | given
  | file (name format : String)
  | variables
deriving DecidableEq, Repr

inductive Scalar where
  | unit
  | bool (value : Bool)
  | natural (value : Nat)
  /-- A number read with a sign, at most zero. -/
  | negative (magnitude : Nat)
  | wide (text : String)
  | double (value : Binary64)
  | letter (value : Char)
  | text (value : String)
deriving DecidableEq, Repr

inductive Document where
  | scalar (origin : Origin) (value : Scalar)
  | list (origin : Origin) (items : List Document)
  /-- The entries stand in rising order of their keys, each key once. -/
  | map (origin : Origin) (entries : List (String × Document))

namespace Document

instance : Inhabited Document := ⟨.scalar .given .unit⟩

def origin : Document → Origin
  | .scalar origin _ => origin
  | .list origin _ => origin
  | .map origin _ => origin

/-- An entry in its place among others, instead of one with the same key. -/
def insertEntry (key : String) (value : Document) :
    List (String × Document) → List (String × Document)
  | [] => [(key, value)]
  | (other, held) :: rest =>
    if key < other then (key, value) :: (other, held) :: rest
    else if key = other then (key, value) :: rest
    else (other, held) :: insertEntry key value rest

/-- A map of entries in any order; the last of a key counts. -/
def ofEntries (origin : Origin) (entries : List (String × Document)) : Document :=
  .map origin (entries.foldl (fun sorted (key, value) => insertEntry key value sorted) [])

mutual

/-- One document laid over another: maps are joined key by key, and the upper one
counts everywhere else. -/
def merge : Document → Document → Document
  | .map _ lower, .map origin upper => .map origin (mergeEntries lower upper)
  | _, upper => upper
termination_by _ upper => (sizeOf upper, 0)

def mergeEntries (lower : List (String × Document)) :
    List (String × Document) → List (String × Document)
  | [] => lower
  | (key, value) :: rest =>
    let merged := match lower.find? (·.1 = key) with
      | some (_, below) => merge below value
      | none => value
    mergeEntries (insertEntry key merged lower) rest
termination_by upper => (sizeOf upper, 1)

end

mutual

def ofJson (origin : Origin) : Json.Value → Document
  | .null => .scalar origin .unit
  | .bool value => .scalar origin (.bool value)
  | .number (.natural value) => .scalar origin (.natural value)
  | .number (.negative value) => .scalar origin (.negative value)
  | .number (.double value) => .scalar origin (.double value)
  | .string value => .scalar origin (.text value)
  | .list items => .list origin (ofJsonList origin items)
  | .object members => ofEntries origin (ofJsonMembers origin members)

def ofJsonList (origin : Origin) : List Json.Value → List Document
  | [] => []
  | item :: rest => ofJson origin item :: ofJsonList origin rest

def ofJsonMembers (origin : Origin) : List (String × Json.Value) → List (String × Document)
  | [] => []
  | (name, value) :: rest => (name, ofJson origin value) :: ofJsonMembers origin rest

end

end Document

end LoginGateway
