import LoginGateway.Text.Ranges
import LoginGateway.Yaml.Cursor

/-! Reading texts: plain, quoted, and in blocks. Lines that belong together are
joined by a space, and an empty line between them stands for a line end. -/

namespace LoginGateway.Yaml

/-- Blanks and line ends between two pieces of a text. -/
structure Gap where
  blanks : List Char
  lineEnd : List Char
  others : List Char
  broken : Bool

namespace Gap

def empty : Gap := ⟨[], [], [], false⟩

/-- What a gap comes to in the text. -/
def folded (gap : Gap) : List Char :=
  if gap.broken then
    if gap.lineEnd.head? = some '\n' then
      if gap.others = [] then [' '] else gap.others
    else gap.lineEnd ++ gap.others
  else gap.blanks

end Gap

/-- Pass over blanks and line ends. A tab in front of a line that is indented less
than `indent` is told by its place. -/
def readGap (indent : Nat) : Nat → Gap → Cursor → Except Cursor (Gap × Cursor)
  | 0, gap, cursor => .ok (gap, cursor)
  | fuel + 1, gap, cursor =>
    match cursor.peek? with
    | none => .ok (gap, cursor)
    | some char =>
      if isBlank char then
        if gap.broken ∧ cursor.mark.column < indent ∧ char = '\t' then .error cursor
        else readGap indent fuel
          (if gap.broken then gap else { gap with blanks := gap.blanks ++ [char] }) (cursor.skip 1)
      else if isBreak char then
        let gap := if gap.broken then { gap with others := gap.others ++ cursor.lineEnd }
          else { gap with blanks := [], lineEnd := cursor.lineEnd, broken := true }
        readGap indent fuel gap cursor.skipLine
      else .ok (gap, cursor)

/-! Plain texts. -/

structure PlainText where
  text : List Char
  last : Mark
  broken : Bool
  cursor : Cursor

def isFlowSign (char : Char) : Bool :=
  char = ',' || char = '[' || char = ']' || char = '{' || char = '}'

def plainRun (flow : Bool) : List Char → List Char
  | [] => []
  | char :: rest =>
    let ends := match rest with
      | [] => true
      | next :: _ => isBlank next || isBreak next
    if isBlank char || isBreak char || (char = ':' && ends) || (flow && isFlowSign char) then []
    else char :: plainRun flow rest

/-- Whether a run holds a colon in front of a sign, which flow collections refuse. -/
def refusedColon? : List Char → List Char → Option Nat
  | [], _ => none
  | char :: run, after =>
    let next := run.head?.or after.head?
    if char = ':' ∧ next.any fun sign => isFlowSign sign || sign = '?' then some 0
    else (refusedColon? run after).map (· + 1)

def plainContext (first : Mark) : Option Context := some ⟨"while scanning a plain scalar", first⟩

/-- Read a plain text that goes on after `gap`. -/
def readPlainFrom (flow : Bool) (indent : Nat) (first : Mark) :
    Nat → List Char → Mark → Gap → Cursor → Except Fault PlainText
  | 0, text, last, gap, cursor => .ok ⟨text, last, gap.broken, cursor⟩
  | fuel + 1, text, last, gap, cursor =>
    if cursor.atDocumentMark || cursor.has '#' then .ok ⟨text, last, gap.broken, cursor⟩
    else
      let run := plainRun flow cursor.rest
      let after := cursor.skip run.length
      match if flow then refusedColon? (run ++ after.rest.take 1) (after.rest.drop 1) else none with
      | some offset => .error ((cursor.skip offset).fault "found unexpected ':'" (plainContext first))
      | none =>
        let (text, last, gap) := if run = [] then (text, last, gap)
          else (text ++ gap.folded ++ run, after.mark, Gap.empty)
        if after.sees fun char => isBlank char || isBreak char then
          match readGap indent (after.rest.length + 1) gap after with
          | .error place =>
            .error (place.fault "found a tab character that violates indentation" (plainContext first))
          | .ok (gap, next) =>
            if !flow ∧ next.mark.column < indent then .ok ⟨text, last, gap.broken, next⟩
            else readPlainFrom flow indent first fuel text last gap next
        else .ok ⟨text, last, gap.broken, after⟩

def readPlain (flow : Bool) (indent : Nat) (cursor : Cursor) : Except Fault PlainText :=
  readPlainFrom flow indent cursor.mark (cursor.rest.length + 1) [] cursor.mark .empty cursor

/-! Quoted texts. -/

def shortEscape? (letter : Char) : Option Char :=
  [('0', 0), ('a', 7), ('b', 8), ('t', 9), ('\t', 9), ('n', 10), ('v', 11), ('f', 12), ('r', 13),
    ('e', 27), (' ', 32), ('\x22', 34), ('/', 47), ('\\', 92), ('N', 0x85), ('_', 0xA0),
    ('L', 0x2028), ('P', 0x2029)].find? (·.1 = letter) |>.map fun (_, code) => Char.ofNat code

def escapeLength? (letter : Char) : Option Nat :=
  if letter = 'x' then some 2 else if letter = 'u' then some 4 else if letter = 'U' then some 8 else none

def quotedContext (doing : String) (first : Mark) : Option Context := some ⟨doing, first⟩

def readEscape (first : Mark) (cursor : Cursor) : Except Fault (Char × Cursor) :=
  let context := quotedContext "while parsing a quoted scalar" first
  match cursor.at? 1 with
  | none => .error (cursor.fault "found unknown escape character" context)
  | some letter =>
    match shortEscape? letter, escapeLength? letter with
    | some char, _ => .ok (char, cursor.skip 2)
    | none, some length =>
      let digits := (cursor.rest.drop 2).take length
      if digits.length < length ∨ !digits.all isHexDigit then
        .error ((cursor.skip 2).fault "did not find expected hexdecimal number" context)
      else
        let code := hexNumber digits
        if (0xD800 ≤ code ∧ code ≤ 0xDFFF) ∨ 0x10FFFF < code then
          .error ((cursor.skip 2).fault "found invalid Unicode character escape code" context)
        else .ok (Char.ofNat code, cursor.skip (2 + length))
    | none, none => .error (cursor.fault "found unknown escape character" context)

/-- A run of a quoted text up to a blank or the quote; `joined` if it ended in an
escaped line end. -/
def readQuotedRun (single : Bool) (first : Mark) :
    Nat → List Char → Cursor → Except Fault (List Char × Bool × Cursor)
  | 0, run, cursor => .ok (run, false, cursor)
  | fuel + 1, run, cursor =>
    match cursor.peek? with
    | none => .ok (run, false, cursor)
    | some char =>
      if isBlank char || isBreak char then .ok (run, false, cursor)
      else if single ∧ char = '\'' ∧ cursor.hasAt 1 '\'' then
        readQuotedRun single first fuel (run ++ ['\'']) (cursor.skip 2)
      else if char = (if single then '\'' else '\x22') then .ok (run, false, cursor)
      else if !single ∧ char = '\\' then
        if (cursor.at? 1).any isBreak then .ok (run, true, (cursor.skip 1).skipLine)
        else
          match readEscape first cursor with
          | .error fault => .error fault
          | .ok (char, next) => readQuotedRun single first fuel (run ++ [char]) next
      else readQuotedRun single first fuel (run ++ [char]) (cursor.skip 1)

def readQuotedFrom (single : Bool) (first : Mark) :
    Nat → List Char → Cursor → Except Fault (List Char × Cursor)
  | 0, text, cursor => .ok (text, cursor)
  | fuel + 1, text, cursor => do
    let context := quotedContext "while scanning a quoted scalar" first
    if cursor.atDocumentMark then
      .error (cursor.fault "found unexpected document indicator" context)
    if cursor.isEnd then .error (cursor.fault "found unexpected end of stream" context)
    let (run, joined, after) ← readQuotedRun single first (cursor.rest.length + 1) [] cursor
    if after.has (if single then '\'' else '\x22') then .ok (text ++ run, after.skip 1)
    else
      let start : Gap := if joined then { Gap.empty with broken := true } else .empty
      match readGap 0 (after.rest.length + 1) start after with
      | .error _ => .ok (text ++ run, after)
      | .ok (gap, next) =>
        let between := if joined then gap.others else gap.folded
        readQuotedFrom single first fuel (text ++ run ++ between) next

def readQuoted (single : Bool) (cursor : Cursor) : Except Fault (List Char × Cursor) :=
  readQuotedFrom single cursor.mark (cursor.rest.length + 1) [] (cursor.skip 1)

/-! Texts in blocks. -/

/-- What becomes of the line ends at the end of a block. -/
inductive Chomp where
  | strip
  | clip
  | keep
deriving DecidableEq

/-- The signs behind the mark of a block. -/
structure BlockHeader where
  chomp : Chomp
  /-- How much further than its surroundings a block is indented, if that is said. -/
  increment : Nat

def blockContext (first : Mark) : Option Context := some ⟨"while scanning a block scalar", first⟩

def chompSign? (char : Char) : Option Chomp :=
  if char = '+' then some .keep else if char = '-' then some .strip else none

def readIncrement (first : Mark) (cursor : Cursor) : Except Fault (Nat × Cursor) :=
  match cursor.peek? with
  | some digit =>
    if digit = '0' then
      .error (cursor.fault "found an indentation indicator equal to 0" (blockContext first))
    else if digit.isDigit then .ok (digit.toNat - 48, cursor.skip 1)
    else .ok (0, cursor)
  | none => .ok (0, cursor)

def readBlockHeader (first : Mark) (cursor : Cursor) : Except Fault (BlockHeader × Cursor) := do
  let (header, after) ← match cursor.peek?.bind chompSign? with
    | some chomp => do
      let (increment, after) ← readIncrement first (cursor.skip 1)
      .ok (BlockHeader.mk chomp increment, after)
    | none => do
      let (increment, after) ← readIncrement first cursor
      match if increment = 0 then none else after.peek?.bind chompSign? with
      | some chomp => .ok (BlockHeader.mk chomp increment, after.skip 1)
      | none => .ok (BlockHeader.mk .clip increment, after)
  let after := after.skipWhile isBlank
  let after := if after.has '#' then after.skipWhile (!isBreak ·) else after
  if after.atLineEnd then .ok (header, if after.isEnd then after else after.skipLine)
  else .error (after.fault "did not find expected comment or line break" (blockContext first))

/-- The line ends of empty lines, and the deepest column reached among them. An
indentation of zero is not known yet. -/
def readBlockBreaks (indent : Nat) (first : Mark) :
    Nat → List Char → Nat → Cursor → Except Fault (List Char × Nat × Cursor)
  | 0, breaks, deepest, cursor => .ok (breaks, deepest, cursor)
  | fuel + 1, breaks, deepest, cursor =>
    let spaces := (cursor.rest.takeWhile isSpace).length
    let after := cursor.skip (if indent = 0 then spaces else min spaces (indent - cursor.mark.column))
    let deepest := max deepest after.mark.column
    if (indent = 0 ∨ after.mark.column < indent) ∧ after.has '\t' then
      .error (after.fault "found a tab character where an indentation space is expected" (blockContext first))
    else if after.sees isBreak then
      readBlockBreaks indent first fuel (breaks ++ after.lineEnd) deepest after.skipLine
    else .ok (breaks, deepest, after)

/-- A block while it is read: the text, the line end after its last line, and the
line ends of the empty lines after that. -/
structure BlockText where
  text : List Char
  lineEnd : List Char
  breaks : List Char
  blank : Bool

def readBlockLines (literal : Bool) (indent : Nat) (first : Mark) :
    Nat → BlockText → Cursor → Except Fault (BlockText × Cursor)
  | 0, block, cursor => .ok (block, cursor)
  | fuel + 1, block, cursor =>
    if cursor.mark.column = indent ∧ !cursor.isEnd then do
      let blank := cursor.sees isBlank
      let joined := if !literal ∧ block.lineEnd.head? = some '\n' ∧ !block.blank ∧ !blank then
          if block.breaks = [] then [' '] else []
        else block.lineEnd
      let line := cursor.rest.takeWhile (!isBreak ·)
      let after := cursor.skip line.length
      let lineEnd := after.lineEnd
      let next := if after.isEnd then after else after.skipLine
      let (breaks, _, next) ← readBlockBreaks indent first (next.rest.length + 1) [] 0 next
      readBlockLines literal indent first fuel
        ⟨block.text ++ joined ++ block.breaks ++ line, lineEnd, breaks, blank⟩ next
    else .ok (block, cursor)

/-- Read a block that stands next, inside an indentation of `outer` columns; none
at the outermost level. -/
def readBlock (literal : Bool) (outer : Option Nat) (cursor : Cursor) :
    Except Fault (List Char × Cursor) := do
  let first := cursor.mark
  let (header, start) ← readBlockHeader first (cursor.skip 1)
  let known := if header.increment = 0 then 0 else outer.getD 0 + header.increment
  let (breaks, deepest, start) ← readBlockBreaks known first (start.rest.length + 1) [] 0 start
  let indent := if known = 0 then max (max deepest ((outer.map (· + 1)).getD 0)) 1 else known
  let (block, after) ← readBlockLines literal indent first (start.rest.length + 1) ⟨[], [], breaks, false⟩ start
  .ok (block.text ++ (if header.chomp = .strip then [] else block.lineEnd)
    ++ (if header.chomp = .keep then block.breaks else []), after)

end LoginGateway.Yaml
