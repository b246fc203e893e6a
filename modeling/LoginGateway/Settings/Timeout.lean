import LoginGateway.Number.Decimal
import LoginGateway.Settings.Basic

/-! Spans of time as text: a whole number of milliseconds, seconds or minutes, and
of seconds where no unit is named. -/

namespace LoginGateway.Duration

def without? (ending text : List Char) : Option (List Char) :=
  if ending.isSuffixOf text then some (text.take (text.length - ending.length)) else none

/-- The span a text stands for. The longest unit that fits is taken off first. -/
def read (text : String) : Except NumberFault Duration :=
  let chars := text.toList
  match without? ['m', 's'] chars, without? ['s'] chars, without? ['m'] chars with
  | some number, _, _ => (naturalBelow UInt64.size number).map fun n => ⟨n⟩
  | none, some number, _ => (naturalBelow UInt64.size number).map ofSeconds
  | none, none, some number => (naturalBelow UInt64.size number).map fun n => ofSeconds (n * 60)
  | none, none, none => (naturalBelow UInt64.size chars).map ofSeconds

def text (duration : Duration) : String := toString duration.seconds ++ "s"

end LoginGateway.Duration
