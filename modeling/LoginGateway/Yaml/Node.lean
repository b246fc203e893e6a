import LoginGateway.Yaml.Token

/-! The trees a YAML text describes. -/

namespace LoginGateway.Yaml

inductive Node where
  | scalar (mark : Mark) (tag : Option (List Char)) (text : List Char) (plain : Bool)
  | list (mark : Mark) (tag : Option (List Char)) (items : List Node)
  | map (mark : Mark) (tag : Option (List Char)) (entries : List (Node × Node))
  /-- The node an anchor was set on, by the number of the anchor. -/
  | alias (anchor : Nat)
  /-- The place where the text went wrong. Nothing follows it. -/
  | cut (fault : Fault)

instance : Inhabited Node := ⟨.list .start none []⟩

/-- A tree with the nodes that anchors were set on. -/
structure Tree where
  root : Node
  anchored : List (Nat × Node)
  size : Nat
  /-- What is wrong with the text behind the tree. -/
  fault : Option Fault

end LoginGateway.Yaml
