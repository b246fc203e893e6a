import LoginGateway.Text.Utf8
import LoginGateway.Text.Ranges
import LoginGateway.Yaml.Token

/-! Reading tags, anchors and directives. -/

namespace LoginGateway.Yaml

def isNameChar (char : Char) : Bool := char.isAlphanum || char = '_' || char = '-'

def isUriChar (char : Char) : Bool := isNameChar char || ";/?:@&=+$.!~*'()".toList.contains char

def nameRun (cursor : Cursor) : List Char := cursor.rest.takeWhile isNameChar

def readAnchor (doing : String) (cursor : Cursor) : Except Fault (List Char × Cursor) :=
  let name := nameRun (cursor.skip 1)
  let after := (cursor.skip 1).skip name.length
  if name = [] ∨ !(after.blankOrEndAt 0 || after.sees "?:,]\x7d%@\x60".toList.contains) then
    .error (after.fault "did not find expected alphabetic or numeric character" (some ⟨doing, cursor.mark⟩))
  else .ok (name, after)

/-! Tags. -/

def characterWidth? (octet : UInt8) : Option Nat :=
  if octet < 0x80 then some 1
  else if 0xC0 ≤ octet ∧ octet < 0xE0 then some 2
  else if 0xE0 ≤ octet ∧ octet < 0xF0 then some 3
  else if 0xF0 ≤ octet ∧ octet < 0xF8 then some 4
  else none

def readEscapedOctet (context : Context) (cursor : Cursor) : Except Fault (UInt8 × Cursor) :=
  let digits := (cursor.rest.drop 1).take 2
  if cursor.has '%' ∧ digits.length = 2 ∧ digits.all isHexDigit then
    .ok (UInt8.ofNat (hexNumber digits), cursor.skip 3)
  else .error (cursor.fault "did not find URI escaped octet" (some context))

def readTrailingOctets (context : Context) : Nat → Cursor → Except Fault (Octets × Cursor)
  | 0, cursor => .ok ([], cursor)
  | count + 1, cursor => do
    let (octet, next) ← readEscapedOctet context cursor
    if octet < 0x80 ∨ 0xC0 ≤ octet then
      .error (cursor.fault "found an incorrect trailing UTF-8 octet" (some context))
    let (octets, after) ← readTrailingOctets context count next
    .ok (octet :: octets, after)

def readEscapedCharacter (context : Context) (cursor : Cursor) : Except Fault (List Char × Cursor) := do
  let (octet, next) ← readEscapedOctet context cursor
  match characterWidth? octet with
  | none => .error (cursor.fault "found an incorrect leading UTF-8 octet" (some context))
  | some width => do
    let (octets, after) ← readTrailingOctets context (width - 1) next
    .ok (Utf8.decodeLossy (octet :: octets), after)

/-- The characters of an address; `unbounded` where the signs of flow collections belong to it. -/
def readUriRun (context : Context) (unbounded : Bool) :
    Nat → List Char → Cursor → Except Fault (List Char × Cursor)
  | 0, text, cursor => .ok (text, cursor)
  | fuel + 1, text, cursor =>
    match cursor.peek? with
    | none => .ok (text, cursor)
    | some char =>
      if char = '%' then
        match readEscapedCharacter context cursor with
        | .error fault => .error fault
        | .ok (chars, next) => readUriRun context unbounded fuel (text ++ chars) next
      else if isUriChar char || (unbounded && (char = ',' || char = '[' || char = ']')) then
        readUriRun context unbounded fuel (text ++ [char]) (cursor.skip 1)
      else .ok (text, cursor)

/-- Read an address that goes on from `start` and is not empty. -/
def readUri (doing : String) (first : Mark) (unbounded : Bool) (start : List Char) (cursor : Cursor) :
    Except Fault (List Char × Cursor) := do
  let (text, after) ← readUriRun ⟨doing, first⟩ unbounded (cursor.rest.length + 1) [] cursor
  if start = [] ∧ text = [] then
    .error (after.fault "did not find expected tag URI" (some ⟨doing, first⟩))
  else .ok (start.drop 1 ++ text, after)

def handleRun (cursor : Cursor) : List Char × Cursor :=
  let name := nameRun (cursor.skip 1)
  let after := (cursor.skip 1).skip name.length
  if after.has '!' then ('!' :: name ++ ['!'], after.skip 1) else ('!' :: name, after)

/-- The handle and the rest of a tag that is not written in angle brackets. -/
def readShortTag (first : Mark) (cursor : Cursor) : Except Fault (List Char × List Char × Cursor) := do
  let (handle, after) := handleRun cursor
  if 1 < handle.length ∧ handle.getLast? = some '!' then
    let (suffix, after) ← readUri "while parsing a tag" first false [] after
    .ok (handle, suffix, after)
  else
    let (suffix, after) ← readUri "while parsing a tag" first false handle after
    .ok (if suffix = [] then ([], ['!'], after) else (['!'], suffix, after))

/-- A tag in angle brackets, which stands for itself. -/
def readLongTag (first : Mark) (cursor : Cursor) : Except Fault (List Char × List Char × Cursor) := do
  let (suffix, after) ← readUri "while parsing a tag" first true [] (cursor.skip 2)
  if after.has '>' then .ok ([], suffix, after.skip 1)
  else .error (after.fault "did not find the expected '>'" (some ⟨"while scanning a tag", first⟩))

def readTag (flow : Bool) (cursor : Cursor) : Except Fault (List Char × List Char × Cursor) := do
  let first := cursor.mark
  let (handle, suffix, after) ←
    if cursor.hasAt 1 '<' then readLongTag first cursor else readShortTag first cursor
  if after.blankOrEndAt 0 || (flow && after.has ',') then .ok (handle, suffix, after)
  else .error (after.fault "did not find expected whitespace or line break"
    (some ⟨"while scanning a tag", first⟩))

/-! Directives. -/

def skipBlanks (cursor : Cursor) : Cursor := cursor.skipWhile isBlank

def readVersionNumber (context : Context) (cursor : Cursor) : Except Fault (Nat × Cursor) :=
  let digits := cursor.rest.takeWhile Char.isDigit
  if 9 < digits.length then
    .error ((cursor.skip 9).fault "found extremely long version number" (some context))
  else if digits = [] then .error (cursor.fault "did not find expected version number" (some context))
  else .ok (digits.foldl (fun value digit => value * 10 + (digit.toNat - 48)) 0, cursor.skip digits.length)

def readVersion (first : Mark) (cursor : Cursor) : Except Fault (TokenKind × Cursor) := do
  let context : Context := ⟨"while scanning a %YAML directive", first⟩
  let (major, after) ← readVersionNumber context (skipBlanks cursor)
  if !after.has '.' then
    .error (after.fault "did not find expected digit or '.' character" (some context))
  let (minor, after) ← readVersionNumber context (after.skip 1)
  .ok (.versionDirective major minor, after)

def readTagDirective (first : Mark) (cursor : Cursor) : Except Fault (TokenKind × Cursor) := do
  let start := skipBlanks cursor
  if !start.has '!' then
    .error (start.fault "did not find expected '!'" (some ⟨"while scanning a tag directive", first⟩))
  let (handle, after) := handleRun start
  if handle.getLast? ≠ some '!' then
    .error (after.fault "did not find expected '!'" (some ⟨"while parsing a tag directive", first⟩))
  let context : Context := ⟨"while scanning a %TAG directive", first⟩
  if !after.sees isBlank then .error (after.fault "did not find expected whitespace" (some context))
  let (uri, after) ← readUri "while parsing a %TAG directive" first true [] (skipBlanks after)
  if !after.blankOrEndAt 0 then
    .error (after.fault "did not find expected whitespace or line break" (some context))
  .ok (.tagDirective handle uri, after)

def readDirective (cursor : Cursor) : Except Fault (TokenKind × Cursor) := do
  let first := cursor.mark
  let context : Option Context := some ⟨"while scanning a directive", first⟩
  let name := nameRun (cursor.skip 1)
  let after := (cursor.skip 1).skip name.length
  if name = [] then .error (after.fault "could not find expected directive name" context)
  if !after.blankOrEndAt 0 then .error (after.fault "found unexpected non-alphabetical character" context)
  let (kind, after) ←
    if name = "YAML".toList then readVersion first after
    else if name = "TAG".toList then readTagDirective first after
    else .error (after.fault "found unknown directive name" context)
  let after := skipBlanks after
  let after := if after.has '#' then after.skipWhile (!isBreak ·) else after
  if after.isEnd then .ok (kind, after)
  else if after.sees isBreak then .ok (kind, after.skipLine)
  else .error (after.fault "did not find expected comment or line break" context)

end LoginGateway.Yaml
