import LoginGateway.Yaml.ScalarReader
import LoginGateway.Yaml.Tag

/-! Reading the tokens of a text. Where a text may turn out to be the key of a map,
its place is kept, and the tokens that begin the key are put there once the colon is
found. -/

namespace LoginGateway.Yaml

/-- A place where a key may have begun. -/
structure KeyStart where
  place : Nat
  mark : Mark
  /-- Whether nothing but a key can stand there. -/
  required : Bool

/-- Whether the text has gone on too far for a key that began here: to another line,
or by more than 1024 characters. -/
def KeyStart.isStale (start : KeyStart) (mark : Mark) : Bool :=
  start.mark.line < mark.line || start.mark.index + 1024 < mark.index

structure TokenReader where
  cursor : Cursor
  tokens : List Token
  indents : List Nat
  /-- Where a key may have begun in each open flow collection, the innermost first,
  and in the block around them. -/
  keyStarts : List (Option KeyStart)
  keyAllowed : Bool

namespace TokenReader

def start (text : List Char) : TokenReader := ⟨⟨text, .start⟩, [], [], [none], true⟩

def inFlow (reader : TokenReader) : Bool := 1 < reader.keyStarts.length

def push (reader : TokenReader) (kind : TokenKind) : TokenReader :=
  { reader with tokens := reader.tokens ++ [⟨kind, reader.cursor.mark⟩] }

/-- Add a token of `width` characters and go past it. -/
def take (reader : TokenReader) (kind : TokenKind) (width : Nat) : TokenReader :=
  { reader.push kind with cursor := reader.cursor.skip width }

def allowKey (reader : TokenReader) (allowed : Bool) : TokenReader :=
  { reader with keyAllowed := allowed }

/-- Pass over blanks, comments and line ends. A tab may not stand where a key may. -/
def skipToToken : Nat → TokenReader → TokenReader
  | 0, reader => reader
  | fuel + 1, reader =>
    let tabs := reader.inFlow || !reader.keyAllowed
    let cursor := reader.cursor.skipWhile fun char => char = ' ' || (tabs && char = '\t')
    let cursor := if cursor.has '#' then cursor.skipWhile (!isBreak ·) else cursor
    if cursor.sees isBreak then
      skipToToken fuel
        { reader with cursor := cursor.skipLine, keyAllowed := reader.keyAllowed || !reader.inFlow }
    else { reader with cursor := cursor }

def missingColon {α : Type} (reader : TokenReader) (key : KeyStart) : Except Fault α :=
  .error (reader.cursor.fault "could not find expected ':'" (some ⟨"while scanning a simple key", key.mark⟩))

def dropStale (reader : TokenReader) : Except Fault TokenReader :=
  let stale (key : KeyStart) : Bool := key.isStale reader.cursor.mark
  match (reader.keyStarts.filterMap id).find? fun key => stale key && key.required with
  | some key => reader.missingColon key
  | none => .ok { reader with keyStarts := reader.keyStarts.map (·.filter (!stale ·)) }

def dropKey (reader : TokenReader) : Except Fault TokenReader :=
  match reader.keyStarts with
  | some key :: outer => if key.required then reader.missingColon key
    else .ok { reader with keyStarts := none :: outer }
  | _ => .ok reader

def keepKey (reader : TokenReader) : Except Fault TokenReader := do
  if !reader.keyAllowed then return reader
  let required := !reader.inFlow && reader.indents.head? = some reader.cursor.mark.column
  let reader ← reader.dropKey
  return { reader with
    keyStarts := some ⟨reader.tokens.length, reader.cursor.mark, required⟩ :: reader.keyStarts.drop 1 }

/-- Open a block collection at a column further right than the one around it. Its
token goes to `place`. -/
def openBlock (reader : TokenReader) (kind : TokenKind) (mark : Mark) (place : Nat) : TokenReader :=
  if reader.inFlow || reader.indents.head?.any (mark.column ≤ ·) then reader
  else { reader with
    indents := mark.column :: reader.indents
    tokens := reader.tokens.insertIdx place ⟨kind, mark⟩ }

def openBlockHere (reader : TokenReader) (kind : TokenKind) : TokenReader :=
  reader.openBlock kind reader.cursor.mark reader.tokens.length

/-- Close the block collections that are indented further than `column`, or all. -/
def closeBlocks (reader : TokenReader) (column : Option Nat) : TokenReader :=
  if reader.inFlow then reader
  else
    let closed := reader.indents.takeWhile fun indent => column.all (· < indent)
    { reader with
      indents := reader.indents.drop closed.length
      tokens := reader.tokens ++ closed.map fun _ => ⟨.blockEnd, reader.cursor.mark⟩ }

def readEnd (reader : TokenReader) : Except Fault TokenReader := do
  let mark := reader.cursor.mark
  let mark := if mark.column = 0 then mark else ⟨mark.index, mark.line + 1, 0⟩
  let reader := { reader with cursor := { reader.cursor with mark := mark } }
  let reader ← (reader.closeBlocks none).dropKey
  return (reader.push .streamEnd).allowKey false

def leaveDocument (reader : TokenReader) : Except Fault TokenReader := do
  return (← (reader.closeBlocks none).dropKey).allowKey false

def add (reader : TokenReader) (result : TokenKind × Cursor) : TokenReader :=
  { reader.push result.1 with cursor := result.2 }

def readDirective (reader : TokenReader) : Except Fault TokenReader := do
  let reader ← reader.leaveDocument
  return reader.add (← Yaml.readDirective reader.cursor)

def readDocumentMark (reader : TokenReader) (kind : TokenKind) : Except Fault TokenReader := do
  return (← reader.leaveDocument).take kind 3

def openFlow (reader : TokenReader) (kind : TokenKind) : Except Fault TokenReader := do
  let reader ← reader.keepKey
  return ({ reader with keyStarts := none :: reader.keyStarts }.take kind 1).allowKey true

def closeFlow (reader : TokenReader) (kind : TokenKind) : Except Fault TokenReader := do
  let reader ← reader.dropKey
  let reader := if reader.inFlow then { reader with keyStarts := reader.keyStarts.drop 1 } else reader
  return (reader.take kind 1).allowKey false

def readComma (reader : TokenReader) : Except Fault TokenReader := do
  return ((← reader.dropKey).take .flowComma 1).allowKey true

def misplaced {α : Type} (reader : TokenReader) (problem : String) : Except Fault α :=
  .error (reader.cursor.fault problem none)

def readBlockItem (reader : TokenReader) : Except Fault TokenReader := do
  if !reader.inFlow && !reader.keyAllowed then
    reader.misplaced "block sequence entries are not allowed in this context"
  let reader ← (reader.openBlockHere .blockListStart).dropKey
  return (reader.take .blockItem 1).allowKey true

def readKeySign (reader : TokenReader) : Except Fault TokenReader := do
  if !reader.inFlow && !reader.keyAllowed then
    reader.misplaced "mapping keys are not allowed in this context"
  let reader ← (reader.openBlockHere .blockMapStart).dropKey
  return (reader.take .key 1).allowKey !reader.inFlow

/-- A colon. What may have been a key is one now. -/
def readColon (reader : TokenReader) : Except Fault TokenReader := do
  match reader.keyStarts with
  | some key :: outer =>
    let reader := { reader with
      keyStarts := none :: outer
      tokens := reader.tokens.insertIdx key.place ⟨.key, key.mark⟩ }
    return ((reader.openBlock .blockMapStart key.mark key.place).take .value 1).allowKey false
  | _ =>
    if !reader.inFlow && !reader.keyAllowed then
      reader.misplaced "mapping values are not allowed in this context"
    return ((reader.openBlockHere .blockMapStart).take .value 1).allowKey !reader.inFlow

def readKeyPart (reader : TokenReader) (read : Cursor → Except Fault (TokenKind × Cursor)) :
    Except Fault TokenReader := do
  let reader ← reader.keepKey
  return (reader.add (← read reader.cursor)).allowKey false

def readQuotedToken (reader : TokenReader) (single : Bool) : Except Fault TokenReader :=
  reader.readKeyPart fun cursor => do
    let (text, after) ← readQuoted single cursor
    return (.scalar text false, after)

def readAnchorToken (reader : TokenReader) (doing : String) (kind : List Char → TokenKind) :
    Except Fault TokenReader :=
  reader.readKeyPart fun cursor => do
    let (name, after) ← readAnchor doing cursor
    return (kind name, after)

def readTagToken (reader : TokenReader) : Except Fault TokenReader :=
  reader.readKeyPart fun cursor => do
    let (handle, suffix, after) ← readTag reader.inFlow cursor
    return (.tag handle suffix, after)

def readBlockText (reader : TokenReader) (literal : Bool) : Except Fault TokenReader := do
  let reader ← reader.dropKey
  let (text, after) ← readBlock literal reader.indents.head? reader.cursor
  return (reader.add (.scalar text false, after)).allowKey true

def readPlainToken (reader : TokenReader) : Except Fault TokenReader := do
  let reader ← reader.keepKey
  let indent := (reader.indents.head?.map (· + 1)).getD 0
  let plain ← readPlain reader.inFlow indent reader.cursor
  return (reader.add (.scalar plain.text true, plain.cursor)).allowKey plain.broken

def signs : List Char := "-?:,[]\x7b\x7d#&*!|>'\x22%@\x60".toList

def beginsPlain (reader : TokenReader) : Bool :=
  let cursor := reader.cursor
  !(cursor.blankOrEndAt 0 || cursor.sees signs.contains)
    || (cursor.has '-' && !(cursor.at? 1).any isBlank)
    || (!reader.inFlow && cursor.sees "?:".toList.contains && !cursor.blankOrEndAt 1)

def readToken (reader : TokenReader) : Except Fault TokenReader :=
  let cursor := reader.cursor
  let flow := reader.inFlow
  if cursor.isEnd then reader.readEnd
  else if cursor.mark.column = 0 ∧ cursor.has '%' then reader.readDirective
  else if cursor.atMark '-' then reader.readDocumentMark .documentStart
  else if cursor.atMark '.' then reader.readDocumentMark .documentEnd
  else if cursor.has '[' then reader.openFlow .flowListStart
  else if cursor.has '{' then reader.openFlow .flowMapStart
  else if cursor.has ']' then reader.closeFlow .flowListEnd
  else if cursor.has '}' then reader.closeFlow .flowMapEnd
  else if cursor.has ',' then reader.readComma
  else if cursor.has '-' ∧ cursor.blankOrEndAt 1 then reader.readBlockItem
  else if cursor.has '?' ∧ (flow ∨ cursor.blankOrEndAt 1) then reader.readKeySign
  else if cursor.has ':' ∧ (flow ∨ cursor.blankOrEndAt 1) then reader.readColon
  else if cursor.has '*' then reader.readAnchorToken "while scanning an alias" .alias
  else if cursor.has '&' then reader.readAnchorToken "while scanning an anchor" .anchor
  else if cursor.has '!' then reader.readTagToken
  else if cursor.has '|' ∧ !flow then reader.readBlockText true
  else if cursor.has '>' ∧ !flow then reader.readBlockText false
  else if cursor.has '\'' then reader.readQuotedToken true
  else if cursor.has '\x22' then reader.readQuotedToken false
  else if reader.beginsPlain then reader.readPlainToken
  else .error (cursor.fault "found character that cannot start any token"
    (some ⟨"while scanning for the next token", cursor.mark⟩))

def next (reader : TokenReader) : Except Fault TokenReader := do
  let reader ← (reader.skipToToken (reader.cursor.rest.length + 1)).dropStale
  let reader ← (reader.closeBlocks (some reader.cursor.mark.column)).readToken
  reader.dropStale

/-- The tokens in front of every place where a key may still turn out to begin. -/
def settled (reader : TokenReader) : List Token :=
  reader.tokens.take <| (reader.keyStarts.filterMap id).foldl
    (fun count key => min count key.place) reader.tokens.length

def readAll : Nat → TokenReader → Tokens
  | 0, reader => ⟨reader.tokens, none⟩
  | fuel + 1, reader =>
    if reader.tokens.getLast?.any (·.kind = .streamEnd) then ⟨reader.tokens, none⟩
    else
      match reader.next with
      | .ok next => readAll fuel next
      | .error fault => ⟨reader.settled, some fault⟩

end TokenReader

def isAllowed (char : Char) : Bool :=
  let code := char.toNat
  code = 9 || code = 10 || code = 13 || (0x20 ≤ code && code ≤ 0x7E) || code = 0x85
    || (0xA0 ≤ code && code ≤ 0xD7FF) || (0xE000 ≤ code && code ≤ 0xFFFD) || 0x10000 ≤ code

def refusedOffset? (text : List Char) : Option Nat :=
  let allowed := text.takeWhile isAllowed
  if allowed.length < text.length then some (Utf8.encode allowed).length else none

/-- A byte order mark is no part of a text. -/
def withoutByteOrderMark : List Char → List Char
  | char :: rest => if char.toNat = 0xFEFF then rest else char :: rest
  | [] => []

def Tokens.read (text : List Char) : Tokens :=
  match refusedOffset? text with
  | some offset => ⟨[], some (.control offset)⟩
  | none => (TokenReader.start (withoutByteOrderMark text)).readAll (text.length + 2)

end LoginGateway.Yaml
