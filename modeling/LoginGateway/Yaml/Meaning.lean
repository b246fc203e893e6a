import LoginGateway.Number.Decimal
import LoginGateway.Settings.Document
import LoginGateway.Text.Ranges

/-! What plain texts mean: nothing, truth values, numbers, or themselves. -/

namespace LoginGateway.Yaml

def bool? (text : List Char) : Option Bool :=
  if ["true", "True", "TRUE"].contains (String.ofList text) then some true
  else if ["false", "False", "FALSE"].contains (String.ofList text) then some false
  else none

def isNull (text : List Char) : Bool := ["null", "Null", "NULL", "~"].contains (String.ofList text)

def isSign (char : Char) : Bool := char = '+' || char = '-'

/-- Whether a text has digits alone, and a zero in front that no number has. -/
def isPadded (text : List Char) : Bool :=
  match (match text with | sign :: rest => if isSign sign then rest else text | [] => []) with
  | '0' :: digit :: rest => (digit :: rest).all Char.isDigit
  | _ => false

def digits? (base : Nat) (text : List Char) : Option Nat :=
  if text ≠ [] ∧ text.all fun char => isHexDigit char && hexOf char < base then
    some (text.foldl (fun value char => value * base + hexOf char) 0)
  else none

def marked? : List Char → Option Nat
  | '0' :: 'x' :: digits => digits? 16 digits
  | '0' :: 'o' :: digits => digits? 8 digits
  | '0' :: 'b' :: digits => digits? 2 digits
  | _ => none

def unsigned? (text : List Char) : Option Nat :=
  let number := match text with
    | '+' :: rest => rest
    | _ => text
  (marked? number).or (if isPadded text then none else digits? 10 number)

def negated? : List Char → Option Nat
  | '-' :: number => (marked? number).or (if isPadded number then none else digits? 10 number)
  | _ => none

/-- A whole number, which may be too wide for 64 bits but not for 128. -/
def integer? (text : List Char) : Option Scalar :=
  match unsigned? text, negated? text with
  | some value, _ =>
    if value < UInt64.size then some (.natural value)
    else if value < UInt64.size * UInt64.size then some (.wide ("integer \x60" ++ toString value ++ "\x60 as u128"))
    else none
  | none, some value =>
    if value ≤ UInt64.size / 2 then some (.negative value)
    else if value ≤ UInt64.size * UInt64.size / 2 then some (.wide ("integer \x60-" ++ toString value ++ "\x60 as i128"))
    else none
  | none, none => none

def double? (text : List Char) : Option Binary64 :=
  let plain := match text with
    | '+' :: rest => if rest.head?.any isSign then none else some rest
    | _ => some text
  match plain with
  | none => none
  | some number =>
    if [".inf", ".Inf", ".INF"].contains (String.ofList number) then some (.infinite false)
    else if ["-.inf", "-.Inf", "-.INF"].contains (String.ofList text) then some (.infinite true)
    else if [".nan", ".NaN", ".NAN"].contains (String.ofList text) then some .notANumber
    else (Binary64.ofText? number).filter (·.isFinite)

def plainMeaning (text : List Char) : Scalar :=
  if text = [] ∨ isNull text then .unit
  else
    match bool? text, integer? text with
    | some value, _ => .bool value
    | none, some value => value
    | none, none =>
      match if isPadded text then none else double? text with
      | some value => .double value
      | none => .text (String.ofList text)

end LoginGateway.Yaml
