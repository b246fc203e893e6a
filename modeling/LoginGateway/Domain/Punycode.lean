/-! Labels beyond ASCII written in ASCII. The plain characters come first, then the
places of the others as numbers of varying length. -/

namespace LoginGateway.Domain

def adapt (delta count : Nat) (first : Bool) : Nat :=
  let rec shrink : Nat → Nat → Nat → Nat
    | 0, delta, steps => steps + 36 * delta / (delta + 38)
    | fuel + 1, delta, steps =>
      if 455 < delta then shrink fuel (delta / 35) (steps + 36) else steps + 36 * delta / (delta + 38)
  let start := if first then delta / 700 else delta / 2
  shrink start (start + start / count) 0

/-- Where a digit at place `k` ends a number. -/
def threshold (k bias : Nat) : Nat := if k ≤ bias then 1 else if bias + 26 ≤ k then 26 else k - bias

def digitChar (digit : Nat) : Char := Char.ofNat (if digit < 26 then 97 + digit else 22 + digit)

def digitOf? (char : Char) : Option Nat :=
  let code := char.toNat
  if 97 ≤ code ∧ code ≤ 122 then some (code - 97)
  else if 65 ≤ code ∧ code ≤ 90 then some (code - 65)
  else if 48 ≤ code ∧ code ≤ 57 then some (code - 22)
  else none

def digits (bias : Nat) (k number : Nat) : List Char :=
  let t := threshold k bias
  if number < t then [digitChar number]
  else digitChar (t + (number - t) % (36 - t)) :: digits bias (k + 36) ((number - t) / (36 - t))
termination_by number
decreasing_by
  have bounds : 1 ≤ threshold k bias ∧ threshold k bias ≤ 26 := by
    unfold threshold
    split
    · omega
    · split <;> omega
  have := Nat.div_le_self (number - threshold k bias) (36 - threshold k bias)
  simp only [Nat.not_lt] at *
  omega

structure Encoder where
  delta : Nat
  bias : Nat
  handled : Nat
  basic : Nat
  output : List Char

/-- Look at one character of the label while the characters `code` are written. -/
def Encoder.look (code : Nat) (state : Encoder) (char : Nat) : Encoder :=
  if char < code then { state with delta := state.delta + 1 }
  else if char = code then
    { state with
      delta := 0
      bias := adapt state.delta (state.handled + 1) (state.handled = state.basic)
      handled := state.handled + 1
      output := state.output ++ digits state.bias 36 state.delta }
  else state

/-- Write all characters of the label, the code points `codes` in rising order. -/
def encodeCodes (label : List Nat) : Nat → List Nat → Encoder → Encoder
  | _, [], state => state
  | next, code :: codes, state =>
    let state := { state with delta := state.delta + (code - next) * (state.handled + 1) }
    let state := label.foldl (Encoder.look code) state
    encodeCodes label (code + 1) codes { state with delta := state.delta + 1 }

def toPunycode (label : List Nat) : List Char :=
  let basic := label.filter (· < 0x80)
  let codes := ((label.filter (0x80 ≤ ·)).mergeSort).eraseDups
  let plain := basic.map Char.ofNat ++ if basic = [] then [] else ['-']
  (encodeCodes label 0x80 codes ⟨0, 72, basic.length, basic.length, plain⟩).output

structure Decoder where
  place : Nat
  start : Nat
  weight : Nat
  k : Nat
  code : Nat
  bias : Nat
  output : List Nat

/-- Take one digit; a digit below the threshold ends a number and inserts a character. -/
def Decoder.take? (state : Decoder) (char : Char) : Option Decoder := do
  let digit ← digitOf? char
  let place := state.place + digit * state.weight
  let t := threshold state.k state.bias
  if digit < t then
    let count := state.output.length + 1
    let code := state.code + place / count
    if 0x10FFFF < code ∨ (0xD800 ≤ code ∧ code ≤ 0xDFFF) then none
    else
      let spot := place % count
      some ⟨spot + 1, spot + 1, 1, 36, code, adapt (place - state.start) count (state.start = 0),
        state.output.take spot ++ code :: state.output.drop spot⟩
  else some { state with place := place, weight := state.weight * (36 - t), k := state.k + 36 }

/-- The text before and after the last hyphen, all of it after if there is none. -/
def splitLastHyphen (text : List Char) : List Char × List Char :=
  match text.reverse.span (· ≠ '-') with
  | (_, []) => ([], text)
  | (after, _ :: before) => (before.reverse, after.reverse)

def ofPunycode? (text : List Char) : Option (List Nat) := do
  let (basic, extra) := splitLastHyphen text
  let state ← extra.foldlM Decoder.take? ⟨0, 0, 1, 36, 0x80, 72, basic.map Char.toNat⟩
  if state.k = 36 then some state.output else none

end LoginGateway.Domain
