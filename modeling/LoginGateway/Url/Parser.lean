import LoginGateway.Domain.Name
import LoginGateway.Text.Percent
import LoginGateway.Url.Basic

/-! Reading a URL. A text is cleaned of what no URL holds, cut at its signs, and
each part is brought to the one form in which it is written. -/

namespace LoginGateway.Url

inductive Fault where
  | emptyHost
  | domain
  | port
  | ipv4
  | ipv6
  | character
  | relative
  | plainBase
deriving DecidableEq, Repr

def Fault.message : Fault → String
  | .emptyHost => "empty host"
  | .domain => "invalid international domain name"
  | .port => "invalid port number"
  | .ipv4 => "invalid IPv4 address"
  | .ipv6 => "invalid IPv6 address"
  | .character => "invalid domain character"
  | .relative => "relative URL without a base"
  | .plainBase => "relative URL with a cannot-be-a-base base"

def isEdge (char : Char) : Bool := char.toNat ≤ 0x20

def isBreak (char : Char) : Bool := char = '\t' || char = '\n' || char = '\r'

def clean (text : List Char) : List Char :=
  ((text.dropWhile isEdge).reverse.dropWhile isEdge).reverse.filter (!isBreak ·)

def isSchemeChar (char : Char) : Bool :=
  char.isAlphanum || char = '+' || char = '-' || char = '.'

def splitScheme? (text : List Char) : Option (List Char × List Char) :=
  match text with
  | first :: _ =>
    if first.isAlpha then
      match text.dropWhile isSchemeChar with
      | ':' :: rest => some ((text.takeWhile isSchemeChar).map Char.toLower, rest)
      | _ => none
    else none
  | [] => none

/-- The text before the last `sign` if there is one, and the text after it. -/
def cutLast (sign : Char) (text : List Char) : Option (List Char) × List Char :=
  match cutFirst sign text.reverse with
  | (after, some before) => (some before.reverse, after.reverse)
  | (_, none) => (none, text)

/-- A sign that parts segments. The backslash counts where hosts are always named. -/
def isSlash (special : Bool) (char : Char) : Bool := char = '/' || (special && char = '\\')

def endsAuthority (special : Bool) (char : Char) : Bool :=
  isSlash special char || char = '?' || char = '#'

def fragmentSet (octet : UInt8) : Bool := Percent.isControl octet || Percent.isOneOf " \x22<>\x60" octet

def pathSet (octet : UInt8) : Bool := fragmentSet octet || Percent.isOneOf "#?\x7b\x7d" octet

def userSet (octet : UInt8) : Bool := pathSet octet || Percent.isOneOf "/:;=@[\\]^|" octet

def querySet (special : Bool) (octet : UInt8) : Bool :=
  Percent.isControl octet || Percent.isOneOf " \x22#<>" octet || (special && octet = 39)

def isForbiddenHostChar (char : Char) : Bool :=
  char = '\x00' || isBreak char || " #/:<>?@[\\]^|".toList.contains char

def readIpv6 (text : List Char) : Except Fault Host :=
  if text.getLast? = some ']' then
    match Ipv6.parse? text.dropLast with
    | some pieces => .ok (.ipv6 pieces)
    | none => .error .ipv6
  else .error .ipv6

def readDomain (text : List Char) : Except Fault Host :=
  match Domain.toAscii? (Utf8.decodeLossy (Percent.decode (Utf8.encode text))) with
  | none => .error .domain
  | some [] => .error .emptyHost
  | some name =>
    if Ipv4.isMeant name then
      match Ipv4.parse? name with
      | some address => .ok (.ipv4 address)
      | none => .error .ipv4
    else .ok (.domain name)

def readName (text : List Char) : Except Fault Host :=
  if text.any isForbiddenHostChar then .error .character
  else .ok (.domain (Percent.encodeText Percent.isControl text))

def readHost (special : Bool) : List Char → Except Fault Host
  | '[' :: rest => readIpv6 rest
  | text => if special then readDomain text else readName text

def cutPort : Bool → List Char → List Char × Option (List Char)
  | _, [] => ([], none)
  | inside, char :: rest =>
    if char = ':' ∧ !inside then ([], some rest)
    else
      let (before, after) := cutPort (char = '[' || (inside && char ≠ ']')) rest
      (char :: before, after)

/-- A port and what follows its digits. A port that the scheme stands for is left out. -/
def readPort (scheme digits : List Char) : Except Fault (Option Nat × List Char) :=
  let written := digits.takeWhile Char.isDigit
  let rest := digits.dropWhile Char.isDigit
  match numberIn? 10 written with
  | none => .error .port
  | some number =>
    if 65535 < number ∨ (rest ≠ [] ∧ rest.head? ≠ some '\\') then .error .port
    else .ok (if written = [] ∨ defaultPort? scheme = some number then none else some number, rest)

def isDouble (segment : List Char) : Bool :=
  ["..", ".%2e", "%2e.", "%2e%2e"].any (·.toList = segment.map Char.toLower)

def isSingle (segment : List Char) : Bool :=
  [".", "%2e"].any (·.toList = segment.map Char.toLower)

/-- A letter and a colon or bar, with which a path may name a drive. -/
def isDrive : List Char → Bool
  | [letter, sign] => letter.isAlpha && (sign = ':' || sign = '|')
  | _ => false

def goUp (file : Bool) (kept : List (List Char)) : List (List Char) :=
  match kept with
  | [only] => if file && isDrive only then [only] else []
  | _ :: rest => rest
  | [] => []

/-- Work off the segments that mean this place and the place above; `kept` is reversed. -/
def settle (file : Bool) (kept : List (List Char)) : List (List Char) → List (List Char)
  | [] => kept.reverse
  | [last] =>
    if isDouble last then ([] :: goUp file kept).reverse
    else if isSingle last then ([] :: kept).reverse
    else (last :: kept).reverse
  | segment :: rest =>
    if isDouble segment then settle file (goUp file kept) rest
    else if isSingle segment then settle file kept rest
    else settle file (segment :: kept) rest

def cutSegments (special : Bool) : List Char → List (List Char)
  | [] => [[]]
  | char :: rest =>
    if isSlash special char then [] :: cutSegments special rest
    else match cutSegments special rest with
      | segment :: others => (char :: segment) :: others
      | [] => [[char]]

def readSegments (special : Bool) (text : List Char) : List (List Char) :=
  settle false [] ((cutSegments special text).map (Percent.encodeText pathSet))

def readPath (special : Bool) : List Char → UrlPath
  | [] => .segments (if special then [[]] else [])
  | char :: rest =>
    .segments (readSegments special (if isSlash special char then rest else char :: rest))

/-- The text cut at its query and fragment. -/
structure Cut where
  path : List Char
  query : Option (List Char)
  fragment : Option (List Char)

def cut (text : List Char) : Cut :=
  let (before, fragment) := cutFirst '#' text
  let (path, query) := cutFirst '?' before
  ⟨path, query, fragment⟩

def readQuery (special : Bool) (text : Option (List Char)) : Option (List Char) :=
  text.map (Percent.encodeText (querySet special))

def readFragment (text : Option (List Char)) : Option (List Char) :=
  text.map (Percent.encodeText fragmentSet)

def readAuthority (scheme text : List Char) : Except Fault Url := do
  let special := isSpecial scheme
  let before := text.takeWhile (!endsAuthority special ·)
  let after := text.dropWhile (!endsAuthority special ·)
  let (user, hostAndPort) := cutLast '@' before
  if user = some [] ∧ hostAndPort = [] ∧ after ≠ [] then .error .emptyHost
  let (name, password) := cutFirst ':' (user.getD [])
  let username := Percent.encodeText userSet name
  let password := Percent.encodeText userSet (password.getD [])
  let (hostText, portText) := cutPort false hostAndPort
  if special ∧ hostText = [] then .error .emptyHost
  let host ← readHost special hostText
  if host = .empty ∧ portText.isSome then .error .emptyHost
  let (port, rest) ← readPort scheme (portText.getD [])
  if host = .empty ∧ (username ≠ [] ∨ password ≠ []) then .error .emptyHost
  let cut := cut (rest ++ after)
  .ok {
    scheme, username, password, port
    host := some host
    path := readPath special cut.path
    query := readQuery special cut.query
    fragment := readFragment cut.fragment }

/-- The path of a file, without empty segments in front. A drive keeps the sign that it is
written with. -/
def readFilePath (text : List Char) : List (List Char) :=
  let text := match text with
    | char :: rest => if isSlash true char then rest else char :: rest
    | [] => []
  let segments := (cutSegments true text).map (Percent.encodeText pathSet)
  match (settle true [] segments).dropWhile (· = []) with
  | [] => [[]]
  | kept => kept

/-- A URL of a file, from the text behind the colon. The host of this machine is
left out, and a drive takes the place of a host. -/
def readFile (scheme text : List Char) : Except Fault Url := do
  let build := fun (host : Host) (rest : List Char) =>
    let cut := cut rest
    let segments := readFilePath cut.path
    let drive := segments.head?.any isDrive
    ({ scheme, username := [], password := [], port := none
       host := some (if drive then .empty else host)
       path := .segments segments
       query := readQuery true cut.query
       fragment := readFragment cut.fragment } : Url)
  match text with
  | first :: second :: rest =>
    if isSlash true first ∧ isSlash true second then
      let name := rest.takeWhile (!endsAuthority true ·)
      if isDrive name then .ok (build .empty rest)
      else
        let after := rest.dropWhile (!endsAuthority true ·)
        if name = [] then .ok (build .empty after)
        else do
          let host ← readHost true name
          .ok (build (if host = .domain "localhost".toList then .empty else host) after)
    else .ok (build .empty text)
  | _ => .ok (build .empty text)

/-- A URL without a host, from the text behind the colon. -/
def readRootless (scheme text : List Char) : Url :=
  let cut := cut text
  { scheme, username := [], password := [], host := none, port := none
    path := match cut.path with
      | '/' :: rest => .segments (readSegments false rest)
      | plain => .plain (Percent.encodeText Percent.isControl plain)
    query := readQuery false cut.query
    fragment := readFragment cut.fragment }

def parse (text : List Char) : Except Fault Url :=
  match splitScheme? (clean text) with
  | none => .error .relative
  | some (scheme, rest) =>
    if scheme = "file".toList then readFile scheme rest
    else if isSpecial scheme then readAuthority scheme (rest.dropWhile (isSlash true))
    else match rest with
      | '/' :: '/' :: after => readAuthority scheme after
      | _ => .ok (readRootless scheme rest)

end LoginGateway.Url
