import LoginGateway.Settings.Mistake
import LoginGateway.Yaml.Meaning
import LoginGateway.Yaml.NodeReader

/-! A YAML text as a document: its outermost node is a map, and the keys of all maps
are texts, whatever they look like. -/

namespace LoginGateway.Yaml

structure Aliases where
  nodes : List (Nat × Node)
  limit : Nat

/-- Counts the aliases that were followed. -/
abbrev Following := StateT Nat (Except Fault)

def follow (aliases : Aliases) : Node → Following Node
  | .alias anchor => do
    let count := (← get) + 1
    set count
    if aliases.limit < count then throw .repetition
    return (aliases.nodes.lookup anchor).getD (.cut .repetition)
  | node => return node

def ownTag? : Option (List Char) → Option (List Char)
  | some ('!' :: name) => some name
  | _ => none

def taggedProblem : String := "invalid type: enum, expected any valid figment value"

def taggedMeaning (kind text : List Char) : Except String Scalar :=
  let misfit (expected : String) : Except String Scalar :=
    .error ("invalid value: string " ++ Quoted.quote (String.ofList text) ++ ", expected " ++ expected)
  match String.ofList kind with
  | "bool" => (bool? text).elim (misfit "a boolean") fun value => .ok (.bool value)
  | "int" => (integer? text).elim (misfit "an integer") .ok
  | "float" => (double? text).elim (misfit "a float") fun value => .ok (.double value)
  | "null" => if isNull text then .ok .unit else misfit "null"
  | _ => .ok (.text (String.ofList text))

def kindMark : List Char := "tag:yaml.org,2002:".toList

def meaning (tag : Option (List Char)) (text : List Char) (plain : Bool) : Except String Scalar :=
  match tag with
  | none => .ok (if plain then plainMeaning text else .text (String.ofList text))
  | some tag =>
    if kindMark.isPrefixOf tag then taggedMeaning (tag.drop kindMark.length) text
    else .ok (.text (String.ofList text))

def below (path key : String) : String := if path = "" then key else path ++ "." ++ key

def kindText (tag : Option (List Char)) (text : List Char) (plain : Bool) : String :=
  match meaning tag text plain with
  | .ok .unit => "unit value"
  | .ok value => (Found.scalar value).described
  | .error problem => problem

def textKey (path : String) : Node → Following String
  | .scalar _ _ text _ => return String.ofList text
  | .list mark _ _ => throw (.value "invalid type: sequence, expected a string" mark path)
  | .map mark _ _ => throw (.value "invalid type: map, expected a string" mark path)
  | .alias _ => throw .repetition
  | .cut fault => throw fault

/-- The path of the value behind a key. -/
def pathBehind (path : String) : Node → String
  | .scalar _ _ text _ => below path (String.ofList text)
  | _ => below path "?"

def readItems (read : String → Node → Following Document) (path : String) :
    Nat → List Node → Following (List Document)
  | _, [] => return []
  | place, item :: rest => do
    let value ← read (path ++ "[" ++ toString place ++ "]") item
    return value :: (← readItems read path (place + 1) rest)

def readEntries (aliases : Aliases) (read : String → Node → Following Document) (path : String) :
    List (Node × Node) → Following (List (String × Document))
  | [] => return []
  | (key, value) :: rest => do
    let name ← textKey path (← follow aliases key)
    let value ← read (pathBehind path key) value
    return (name, value) :: (← readEntries aliases read path rest)

def readValue (origin : Origin) (aliases : Aliases) : Nat → String → Node → Following Document
  | depth, path, node => do
    match ← follow aliases node with
    | .cut fault => throw fault
    | .alias _ => throw .repetition
    | .scalar mark tag text plain =>
      if (ownTag? tag).isSome then throw (.value taggedProblem mark path)
      match meaning tag text plain with
      | .ok value => return .scalar origin value
      | .error problem => throw (.value problem mark path)
    | .list mark tag items =>
      if (ownTag? tag).isSome then throw (.value taggedProblem mark path)
      match depth with
      | 0 => throw (.depth mark)
      | depth + 1 =>
        return .list origin (← readItems (readValue origin aliases depth) path 0 items)
    | .map mark tag entries =>
      if (ownTag? tag).isSome then throw (.value taggedProblem mark path)
      match depth with
      | 0 => throw (.depth mark)
      | depth + 1 =>
        return .ofEntries origin (← readEntries aliases (readValue origin aliases depth) path entries)

def depthLimit : Nat := 128

/-- Read the outermost node. A text that is left out is a map without entries. -/
def readRoot (origin : Origin) (aliases : Aliases) : Node → Following Document
  | .map _ _ entries => do
    return .ofEntries origin
      (← readEntries aliases (readValue origin aliases (depthLimit - 1)) "" entries)
  | .scalar mark tag text plain =>
    if text = [] ∧ plain then return .map origin []
    else throw (.value (match meaning tag text plain with
      | .ok _ => "invalid type: " ++ kindText tag text plain ++ ", expected a map"
      | .error problem => problem) mark "")
  | .list mark _ _ => throw (.value "invalid type: sequence, expected a map" mark "")
  | .alias _ => throw .repetition
  | .cut fault => throw fault

/-- The document a text holds. What is wrong with a value counts before what is wrong
with the text behind it. -/
def parse (origin : Origin) (text : List Char) : Except Fault Document :=
  match Tree.read text with
  | none => .ok (.map origin [])
  | some tree =>
    match (readRoot origin ⟨tree.anchored, 100 * tree.size⟩ tree.root).run' 0, tree.fault with
    | .error fault, _ => .error fault
    | .ok _, some fault => .error fault
    | .ok document, none => .ok document

end LoginGateway.Yaml
