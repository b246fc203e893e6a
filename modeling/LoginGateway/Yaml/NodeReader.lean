import LoginGateway.Yaml.Node
import LoginGateway.Yaml.TokenReader

/-! Reading a tree from tokens. A fault ends the tree where it is found, since what
stands before it counts first. -/

namespace LoginGateway.Yaml

structure NodeReader where
  tokens : List Token
  fault : Fault
  handles : List (List Char × List Char)
  anchors : List (List Char × Nat)
  anchored : List (Nat × Node)
  size : Nat

abbrev Reading := StateM NodeReader

namespace NodeReader

def peek : Reading (Except Fault Token) := do
  let reader ← get
  match reader.tokens with
  | token :: _ => return .ok token
  | [] => return .error reader.fault

def skip : Reading Unit := modify fun reader => { reader with tokens := reader.tokens.drop 1 }

/-- Nothing is read behind a fault. -/
def cut (fault : Fault) : Reading Node := do
  modify fun reader => { reader with tokens := [], fault := fault }
  return .cut fault

def grow (size : Nat) : Reading Unit := modify fun reader => { reader with size := reader.size + size }

/-- Whether a token of one of these kinds stands next. A fault is none. -/
def nextIs (kinds : List TokenKind) : Reading Bool := do
  match ← peek with
  | .ok token => return kinds.contains token.kind
  | .error _ => return false

def absent (mark : Mark) : Reading Node := do
  grow 1
  return .scalar mark none [] true

structure Properties where
  mark : Mark
  anchor : Option (List Char)
  tag : Option (Token × List Char × List Char)

def readProperties : Nat → Properties → Reading Properties
  | 0, properties => return properties
  | fuel + 1, properties => do
    match ← peek with
    | .error _ => return properties
    | .ok token =>
      match token.kind, properties.anchor, properties.tag with
      | .anchor name, none, _ => do
        skip
        readProperties fuel { properties with anchor := some name }
      | .tag handle suffix, _, none => do
        skip
        readProperties fuel { properties with tag := some (token, handle, suffix) }
      | _, _, _ => return properties

/-- The whole of a tag, none if its handle stands for nothing. -/
def wholeTag? (handles : List (List Char × List Char)) (handle suffix : List Char) : Option (List Char) :=
  if handle = [] then some suffix else (handles.lookup handle).map (· ++ suffix)

/-- The number of an anchor. A name that is set again takes the number that the next
new name will take as well. -/
def setAnchor (name : List Char) : Reading Nat := do
  let reader ← get
  let number := reader.anchors.length
  set { reader with anchors := (name, number) :: reader.anchors.filter (·.1 ≠ name) }
  return number

def keepNode (anchor : Option Nat) (node : Node) : Reading Node := do
  match anchor with
  | none => return node
  | some number =>
    modify fun reader => { reader with anchored := (number, node) :: reader.anchored }
    return node

/-- Where a node stands: in brackets, in a block, or as the key or the value of an
entry in a block. Such a value may be a list without further indentation. -/
inductive Site where
  | flow
  | block
  | entry
deriving DecidableEq

mutual

def readNode (site : Site) : Nat → Reading Node
  | 0 => do return .cut (← get).fault
  | fuel + 1 => do
    match ← peek with
    | .error fault => cut fault
    | .ok token =>
      match token.kind with
      | .alias name => do
        skip
        grow 1
        match (← get).anchors.lookup name with
        | some number => return .alias number
        | none => cut (.unknownAnchor token.mark)
      | _ => do
        let properties ← readProperties 2 ⟨token.mark, none, none⟩
        match properties.tag with
        | none => readContent site properties.mark properties.anchor none fuel
        | some (mark, handle, suffix) =>
          match wholeTag? (← get).handles handle suffix with
          | some tag => readContent site properties.mark properties.anchor (some tag) fuel
          | none => cut (.form "found undefined tag handle" mark.mark
              (some ⟨"while parsing a node", properties.mark⟩))

def readContent (site : Site) (mark : Mark) (name : Option (List Char)) (tag : Option (List Char)) :
    Nat → Reading Node
  | 0 => do return .cut (← get).fault
  | fuel + 1 => do
    match ← peek with
    | .error fault => cut fault
    | .ok token =>
      let collection := tag.filter (· ≠ [])
      match token.kind, site with
      | .blockItem, .entry => do
        let anchor ← name.mapM setAnchor
        grow 2
        keepNode anchor (.list mark collection (← readIndentless fuel))
      | .scalar text plain, _ => do
        skip
        grow 1
        let anchor ← name.mapM setAnchor
        keepNode anchor (.scalar mark (tag.filter (· ≠ ['!'])) text plain)
      | .flowListStart, _ => do
        skip
        let anchor ← name.mapM setAnchor
        grow 2
        keepNode anchor (.list mark collection (← readFlowItems token.mark true fuel))
      | .flowMapStart, _ => do
        skip
        let anchor ← name.mapM setAnchor
        grow 2
        keepNode anchor (.map mark collection (← readFlowEntries token.mark true fuel))
      | .blockListStart, .block | .blockListStart, .entry => do
        skip
        let anchor ← name.mapM setAnchor
        grow 2
        keepNode anchor (.list mark collection (← readBlockItems token.mark fuel))
      | .blockMapStart, .block | .blockMapStart, .entry => do
        skip
        let anchor ← name.mapM setAnchor
        grow 2
        keepNode anchor (.map mark collection (← readBlockEntries token.mark fuel))
      | _, _ =>
        if name.isNone ∧ tag.isNone then
          cut (.form "did not find expected node content" token.mark
            (some ⟨if site = .flow then "while parsing a flow node" else "while parsing a block node", mark⟩))
        else do
          grow 1
          let anchor ← name.mapM setAnchor
          keepNode anchor (.scalar mark tag [] true)

def readBlockItems (first : Mark) : Nat → Reading (List Node)
  | 0 => return []
  | fuel + 1 => do
    match ← peek with
    | .error fault => return [← cut fault]
    | .ok token =>
      match token.kind with
      | .blockItem => do
        skip
        let item ← if ← nextIs [.blockItem, .blockEnd] then absent token.mark
          else readNode .block fuel
        return item :: (← readBlockItems first fuel)
      | .blockEnd => do
        skip
        return []
      | _ => return [← cut (.form "did not find expected '-' indicator" token.mark
          (some ⟨"while parsing a block collection", first⟩))]

/-- The items of a list that is not indented further than the map around it. -/
def readIndentless : Nat → Reading (List Node)
  | 0 => return []
  | fuel + 1 => do
    match ← peek with
    | .error fault => return [← cut fault]
    | .ok token =>
      match token.kind with
      | .blockItem => do
        skip
        let item ← if ← nextIs [.blockItem, .key, .value, .blockEnd] then absent token.mark
          else readNode .block fuel
        return item :: (← readIndentless fuel)
      | _ => return []

def readBlockEntries (first : Mark) : Nat → Reading (List (Node × Node))
  | 0 => return []
  | fuel + 1 => do
    match ← peek with
    | .error fault => do
      let node ← cut fault
      return [(node, node)]
    | .ok token =>
      match token.kind with
      | .blockEnd => do
        skip
        return []
      | .key => do
        skip
        let key ← if ← nextIs [.key, .value, .blockEnd] then absent token.mark
          else readNode .entry fuel
        let value ← readBlockValue fuel
        return (key, value) :: (← readBlockEntries first fuel)
      | _ => do
        let node ← cut (.form "did not find expected key" token.mark
          (some ⟨"while parsing a block mapping", first⟩))
        return [(node, node)]

def readBlockValue : Nat → Reading Node
  | 0 => do return .cut (← get).fault
  | fuel + 1 => do
    match ← peek with
    | .error fault => cut fault
    | .ok token =>
      match token.kind with
      | .value => do
        skip
        if ← nextIs [.key, .value, .blockEnd] then absent token.mark
        else readNode .entry fuel
      | _ => absent token.mark

def readFlowItems (first : Mark) (opening : Bool) : Nat → Reading (List Node)
  | 0 => return []
  | fuel + 1 => do
    match ← peek with
    | .error fault => return [← cut fault]
    | .ok token =>
      if token.kind = .flowListEnd then do
        skip
        return []
      else if opening ∨ token.kind = .flowComma then do
        if !opening then skip
        match ← peek with
        | .error fault => return [← cut fault]
        | .ok token =>
          match token.kind with
          | .flowListEnd => do
            skip
            return []
          | .key => do
            skip
            let item ← readPair token.mark fuel
            return item :: (← readFlowItems first false fuel)
          | _ => do
            let item ← readNode .flow fuel
            return item :: (← readFlowItems first false fuel)
      else return [← cut (.form "did not find expected ',' or ']'" token.mark
          (some ⟨"while parsing a flow sequence", first⟩))]

/-- A map of a single entry, written as an item of a list in brackets. Where its key
is left out, the sign behind it is passed over. -/
def readPair (mark : Mark) : Nat → Reading Node
  | 0 => do return .cut (← get).fault
  | fuel + 1 => do
    grow 2
    let key ← if ← nextIs [.value, .flowComma, .flowListEnd] then do
        skip
        absent mark
      else readNode .flow fuel
    let value ← match ← peek with
      | .error fault => cut fault
      | .ok token => do
        if token.kind = .value then skip
        if token.kind ≠ .value ∨ (← nextIs [.flowComma, .flowListEnd]) then absent token.mark
        else readNode .flow fuel
    return .map mark none [(key, value)]

def readFlowEntries (first : Mark) (opening : Bool) : Nat → Reading (List (Node × Node))
  | 0 => return []
  | fuel + 1 => do
    match ← peek with
    | .error fault => do
      let node ← cut fault
      return [(node, node)]
    | .ok token =>
      if token.kind = .flowMapEnd then do
        skip
        return []
      else if opening ∨ token.kind = .flowComma then do
        if !opening then skip
        match ← peek with
        | .error fault => do
          let node ← cut fault
          return [(node, node)]
        | .ok token =>
          match token.kind with
          | .flowMapEnd => do
            skip
            return []
          | .key => do
            skip
            let key ← if ← nextIs [.value, .flowComma, .flowMapEnd] then absent token.mark
              else readNode .flow fuel
            let value ← readFlowValue fuel
            return (key, value) :: (← readFlowEntries first false fuel)
          | _ => do
            let key ← readNode .flow fuel
            let value ← absent token.mark
            return (key, value) :: (← readFlowEntries first false fuel)
      else do
        let node ← cut (.form "did not find expected ',' or '\x7d'" token.mark
          (some ⟨"while parsing a flow mapping", first⟩))
        return [(node, node)]

def readFlowValue : Nat → Reading Node
  | 0 => do return .cut (← get).fault
  | fuel + 1 => do
    match ← peek with
    | .error fault => cut fault
    | .ok token => do
      if token.kind = .value then skip
      if token.kind ≠ .value ∨ (← nextIs [.flowComma, .flowMapEnd]) then absent token.mark
      else readNode .flow fuel

end

/-- The handles that stand for something in every document. -/
def commonHandles : List (List Char × List Char) :=
  [(['!'], ['!']), (['!', '!'], "tag:yaml.org,2002:".toList)]

def readDirectives : Nat → Bool → Reading (Option Fault)
  | 0, _ => return none
  | fuel + 1, versioned => do
    match ← peek with
    | .error fault => return some fault
    | .ok token =>
      match token.kind with
      | .versionDirective major minor =>
        if versioned then return some (.form "found duplicate %YAML directive" token.mark none)
        else if major ≠ 1 ∨ (minor ≠ 1 ∧ minor ≠ 2) then
          return some (.form "found incompatible YAML document" token.mark none)
        else do
          skip
          readDirectives fuel true
      | .tagDirective handle start => do
        if ((← get).handles.lookup handle).isSome then
          return some (.form "found duplicate %TAG directive" token.mark none)
        else do
          modify fun reader => { reader with handles := (handle, start) :: reader.handles }
          skip
          readDirectives fuel versioned
      | _ => return none

def readDocument (fuel : Nat) : Reading (Option Node) := do
  match ← peek with
  | .error fault => return some (← cut fault)
  | .ok token =>
    match token.kind with
    | .streamEnd => return none
    | .versionDirective _ _ | .tagDirective _ _ | .documentStart => do
      match ← readDirectives fuel false with
      | some fault => return some (← cut fault)
      | none =>
        modify fun reader => { reader with handles := reader.handles ++ commonHandles }
        match ← peek with
        | .error fault => return some (← cut fault)
        | .ok token =>
          if token.kind ≠ .documentStart then
            return some (← cut (.form "did not find expected <document start>" token.mark none))
          skip
          match ← peek with
          | .error fault => return some (← cut fault)
          | .ok token =>
            match token.kind with
            | .versionDirective _ _ | .tagDirective _ _ | .documentStart | .documentEnd | .streamEnd =>
              return some (← absent token.mark)
            | _ => return some (← readNode .block fuel)
    | _ => do
      modify fun reader => { reader with handles := commonHandles }
      return some (← readNode .block fuel)

def readRest : Reading (Option Fault) := do
  match ← peek with
  | .error fault => return some fault
  | .ok _ =>
    let rest := (← get).tokens.dropWhile (·.kind = .documentEnd)
    return if rest.head?.any (·.kind = .streamEnd) then none else some .documents

end NodeReader

def Tree.read (text : List Char) : Option Tree :=
  let tokens := Tokens.read text
  let start : NodeReader := ⟨tokens.list, tokens.fault.getD .documents, [], [], [], 0⟩
  let (root?, reader) := (NodeReader.readDocument (4 * tokens.list.length + 8)).run start
  root?.map fun root =>
    let (fault, reader) := NodeReader.readRest.run reader
    ⟨root, reader.anchored, reader.size, fault⟩

end LoginGateway.Yaml
