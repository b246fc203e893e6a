import LoginGateway.Domain.Composition
import LoginGateway.Domain.DirectionTable
import LoginGateway.Domain.JoiningTable
import LoginGateway.Domain.MappingTable
import LoginGateway.Domain.Punycode

/-! Domain names in the form in which hosts are compared: ASCII, small letters, and
labels beyond ASCII in their encoded spelling. -/

namespace LoginGateway.Domain

def isForbidden (char : Char) : Bool :=
  char.toNat ≤ 0x20 || char.toNat = 0x7F || "#%/:<>?@[\\]^|".toList.contains char

/-- Characters as they are read in a name; none if one of them may not stand there. -/
def mapChar? (char : Char) : Option (List Nat) :=
  if char.toNat < 0x80 then some [char.toLower.toNat]
  else if ignored.contains char then some []
  else if disallowed.contains char then none
  else some ((mappings.get? char.toNat).getD [char.toNat])

def mapText? (text : List Char) : Option (List Nat) :=
  (text.mapM mapChar?).map fun mapped => compose mapped.flatten

/-- Whether a code point is that of a character and stands for itself. -/
def isSettled (code : Nat) : Bool :=
  let char := Char.ofNat code
  if code < 0x80 then char.toLower = char
  else char.toNat = code && !ignored.contains char && !disallowed.contains char
    && (mappings.get? code).isNone

def joinsAfter (code : Nat) : Bool :=
  leftJoining.contains (Char.ofNat code) || dualJoining.contains (Char.ofNat code)

def joinsBefore (code : Nat) : Bool :=
  rightJoining.contains (Char.ofNat code) || dualJoining.contains (Char.ofNat code)

def isTransparent (code : Nat) : Bool := transparent.contains (Char.ofNat code)

/-- A joiner follows a silenced vowel; a parting mark may also stand where two
letters would join. `before` is reversed. -/
def joinersFit : List Nat → List Nat → Bool
  | _, [] => true
  | before, code :: rest =>
    let silenced := before.head?.any fun code => viramas.contains (Char.ofNat code)
    let parts := (before.dropWhile isTransparent).head?.any joinsAfter
      && (rest.dropWhile isTransparent).head?.any joinsBefore
    (if code = 0x200C then silenced || parts else code ≠ 0x200D || silenced)
      && joinersFit (code :: before) rest

/-- The most code points that a label beyond ASCII may have. -/
def longestLabel : Nat := 1000

/-- The most characters that an encoded label may have behind its mark. -/
def longestCode : Nat := 2000

def isLabel (label : List Nat) : Bool :=
  label.length ≤ longestLabel && compose label = label
    && !(label.head?.any fun code => marks.contains (Char.ofNat code))
    && label.all isSettled && joinersFit [] label

/-- Whether a code point turns a name into one that is written from right to left. -/
def turnsDirection (code : Nat) : Bool :=
  let char := Char.ofNat code
  rightToLeft.contains char || arabicLetters.contains char || arabicDigits.contains char

/-- In a name with writing from right to left, every label keeps to one direction. -/
def directionFits (label : List Nat) : Bool :=
  let all := fun (sets : List Ranges) (code : Nat) => sets.any (·.contains (Char.ofNat code))
  let ending := (label.reverse.dropWhile (all [spacingFree])).head?
  match label with
  | [] => true
  | first :: _ =>
    if all [rightToLeft, arabicLetters] first then
      label.all (all [rightToLeft, arabicLetters, arabicDigits, europeanDigits, neutralSigns, spacingFree])
        && ending.any (all [rightToLeft, arabicLetters, europeanDigits, arabicDigits])
        && !(label.any (all [europeanDigits]) && label.any (all [arabicDigits]))
    else all [leftToRight] first
      && label.all (all [leftToRight, europeanDigits, neutralSigns, spacingFree])
      && ending.any (all [leftToRight, europeanDigits])

def codesOf (text : List Char) : List Nat := text.map Char.toNat

def encodedMark : List Nat := codesOf "xn--".toList

/-- The label that a label of the name stands for; encoded ones are read. -/
def readLabel? (label : List Nat) : Option (List Nat) :=
  if encodedMark.isPrefixOf label then
    if label.all (· < 0x80) && label.length ≤ encodedMark.length + longestCode then do
      let decoded ← ofPunycode? ((label.drop 4).map Char.ofNat)
      if decoded.all (· < 0x80) || !isLabel decoded then none else some decoded
    else none
  else if label.all (· < 0x80) then some label
  else if isLabel label then some label
  else none

/-- A label as it is written in the end. -/
def writeLabel (label : List Nat) : List Char :=
  if label.all (· < 0x80) then label.map Char.ofNat
  else "xn--".toList ++ toPunycode label

/-- Whether a name needs nothing but small letters. -/
def isPlain (name : List Char) : Bool :=
  name.all (·.toNat < 0x80)
    && (pieces '.' (name.map Char.toLower)).all fun label => !("xn--".toList.isPrefixOf label)

/-- A name in its ASCII form; none for a text that is no name. An encoded label may come
out longer than one that is read. -/
def toAscii? (name : List Char) : Option (List Char) :=
  if isPlain name then
    let small := name.map Char.toLower
    if small.any isForbidden then none else some small
  else do
    let mapped ← mapText? name
    let read ← (pieces 0x2E mapped).mapM readLabel?
    if (read.flatten.any turnsDirection) && !read.all directionFits then none
    else
      let written := ((read.map writeLabel).intersperse ['.']).flatten
      if written.any fun char => isForbidden char || char.isUpper then none else some written

end LoginGateway.Domain
