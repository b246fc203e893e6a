import LoginGateway.Domain.CompositionTable

/-! The composed form of a text. Characters are taken apart, the marks after each
are put in order, and parts that have a character of their own are joined again. -/

namespace LoginGateway.Domain

/-- The syllables of Hangul are made by rule: a leading consonant, a vowel and
perhaps a trailing consonant. -/
def hangulBase : Nat := 0xAC00

def hangulParts? (code : Nat) : Option (List Nat) :=
  if hangulBase ≤ code ∧ code < hangulBase + 11172 then
    let place := code - hangulBase
    let trailing := place % 28
    some ([0x1100 + place / 588, 0x1161 + place % 588 / 28]
      ++ if trailing = 0 then [] else [0x11A7 + trailing])
  else none

def hangulWhole? (first second : Nat) : Option Nat :=
  if 0x1100 ≤ first ∧ first < 0x1113 ∧ 0x1161 ≤ second ∧ second < 0x1176 then
    some (hangulBase + ((first - 0x1100) * 21 + (second - 0x1161)) * 28)
  else if hangulBase ≤ first ∧ first < hangulBase + 11172 ∧ (first - hangulBase) % 28 = 0
      ∧ 0x11A7 < second ∧ second < 0x11C3 then
    some (first + (second - 0x11A7))
  else none

/-- Take a character apart; the parts have parts of their own at most `depth` deep. -/
def parts : Nat → Nat → List Nat
  | 0, code => [code]
  | depth + 1, code =>
    if code < 0xC0 then [code]
    else match hangulParts? code with
      | some found => found
      | none =>
        match (composites.get? code).or (expansions.get? code) with
        | some found => found.flatMap (parts depth)
        | none => [code]

def markClass (code : Nat) : Nat :=
  if code < 0x300 then 0 else ((markClasses.get? code).bind List.head?).getD 0

/-- Insert a mark before the marks at the end of higher class; `before` is reversed. -/
def insertMark (rank code : Nat) : List (Nat × Nat) → List (Nat × Nat)
  | [] => [(rank, code)]
  | (rank', code') :: rest =>
    if rank ≠ 0 ∧ rank < rank' then (rank', code') :: insertMark rank code rest
    else (rank, code) :: (rank', code') :: rest

/-- Code points with their classes, the marks after each character in order. -/
def ordered (codes : List Nat) : List (Nat × Nat) :=
  (codes.foldl (fun before code => insertMark (markClass code) code before) []).reverse

/-- Join what follows a starter. `kept` are the marks that stay, reversed, and
`last` is the class of the latest of them. -/
def join (starter : Nat) (kept : List Nat) (last : Nat) : List (Nat × Nat) → List Nat
  | [] => starter :: kept.reverse
  | (rank, code) :: rest =>
    let reachable := kept = [] ∨ (last < rank ∧ last ≠ 0)
    match if reachable then (hangulWhole? starter code).or (composites.whole? starter code) else none with
    | some whole => join whole kept last rest
    | none =>
      if rank = 0 then starter :: kept.reverse ++ join code [] 0 rest
      else join starter (code :: kept) rank rest

/-- The composed form of a list of code points. ASCII is composed as it is. -/
def compose (codes : List Nat) : List Nat :=
  if codes.all (· < 0x80) then codes
  else match ordered (codes.flatMap (parts 4)) with
    | [] => []
    | (_, code) :: rest => join code [] 0 rest

end LoginGateway.Domain
