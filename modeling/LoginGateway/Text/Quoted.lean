import LoginGateway.Text.Hidden

/-! Text in double quotes as messages show it: everything that could be mistaken
or overlooked is escaped. -/

namespace LoginGateway.Quoted

/-- The digits of a number in base sixteen, small letters. -/
def hexDigits (n : Nat) : List Char := Nat.toDigits 16 n

def escape (char : Char) : List Char :=
  if char = '\x00' then ['\\', '0']
  else if char = '\t' then ['\\', 't']
  else if char = '\r' then ['\\', 'r']
  else if char = '\n' then ['\\', 'n']
  else if char = '\\' || char = '\x22' then ['\\', char]
  else if isHidden char then '\\' :: 'u' :: '\x7b' :: hexDigits char.toNat ++ ['\x7d']
  else [char]

def quote (text : String) : String :=
  String.ofList ('\x22' :: text.toList.flatMap escape ++ ['\x22'])

end LoginGateway.Quoted
