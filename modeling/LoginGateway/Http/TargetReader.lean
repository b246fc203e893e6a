import LoginGateway.Http.Message

/-! Reading the target of a request: a path with a query, an asterisk, or a whole
URL. A fragment is dropped. An authority alone, as a request for a tunnel names it, is not
read here; such a request is served like one for the empty path of that authority. -/

namespace LoginGateway.Target

def isPathChar (char : Char) : Bool :=
  let code := char.toNat
  code = 0x21 || (0x24 ≤ code && code ≤ 0x3B) || code = 0x3D || (0x40 ≤ code && code ≤ 0x5F)
    || (0x61 ≤ code && code ≤ 0x7A) || code = 0x7C || 0x7E ≤ code
    || code = 0x22 || code = 0x7B || code = 0x7D

def isQueryChar (char : Char) : Bool :=
  let code := char.toNat
  code = 0x21 || (0x24 ≤ code && code ≤ 0x3B) || code = 0x3D || 0x3F ≤ code

def isAuthorityChar (char : Char) : Bool :=
  char.isAlphanum || "-._~!$&'()*+,;=:@[]%".toList.contains char

/-- Path and query of a text whose fragment is dropped. -/
def readPath? (authority : Option String) (text : List Char) : Option Target :=
  let kept := text.takeWhile (· ≠ '#')
  let path := kept.takeWhile (· ≠ '?')
  let query := kept.dropWhile (· ≠ '?')
  if path.all isPathChar ∧ (query.drop 1).all isQueryChar then
    some ⟨authority, String.ofList path, if query = [] then none else some (String.ofList (query.drop 1))⟩
  else none

/-- The text behind the first `://`, with the scheme in front of it. -/
def splitScheme? : List Char → Option (List Char × List Char)
  | ':' :: '/' :: '/' :: rest => some ([], rest)
  | char :: rest =>
    if char.isAlphanum || char = '+' || char = '-' || char = '.' then
      (splitScheme? rest).map fun (before, after) => (char :: before, after)
    else none
  | [] => none

def parse? (text : String) : Option Target :=
  match text.toList with
  | ['*'] => some ⟨none, "*", none⟩
  | '/' :: rest => readPath? none ('/' :: rest)
  | chars =>
    match splitScheme? chars with
    | some (_ :: _, rest) =>
      let inside := fun char : Char => char ≠ '/' && char ≠ '?' && char ≠ '#'
      let authority := rest.takeWhile inside
      if authority ≠ [] ∧ authority.all isAuthorityChar then
        readPath? (some (String.ofList authority)) (rest.dropWhile inside)
      else none
    | _ => none

end LoginGateway.Target
