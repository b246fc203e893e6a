/-! Blank characters, and text without the blanks around it. -/

namespace LoginGateway

/-- Every character of the standard's white space. -/
def isBlankChar (char : Char) : Bool :=
  let code := char.toNat
  (9 ≤ code && code ≤ 13) || code = 32 || code = 0x85 || code = 0xA0 || code = 0x1680
    || (0x2000 ≤ code && code ≤ 0x200A) || code = 0x2028 || code = 0x2029 || code = 0x202F
    || code = 0x205F || code = 0x3000

def dropRightWhile {α : Type} (drop : α → Bool) (items : List α) : List α :=
  (items.reverse.dropWhile drop).reverse

def trimWhile {α : Type} (drop : α → Bool) (items : List α) : List α :=
  dropRightWhile drop (items.dropWhile drop)

def trim (text : String) : String := String.ofList (trimWhile isBlankChar text.toList)

def lowerAscii (text : String) : String := String.ofList (text.toList.map Char.toLower)

end LoginGateway
