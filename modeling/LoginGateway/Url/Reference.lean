import LoginGateway.Url.Parser

/-! References to URLs: texts that leave out what they share with the URL of the
page they stand on. Browsers read the place of a redirect in this way. -/

namespace LoginGateway.Url

/-- The path of `base` with its last segment replaced by what `text` says. -/
def mergePath (base : Url) (text : List Char) : UrlPath :=
  let special := isSpecial base.scheme
  let file := base.scheme = "file".toList
  match base.path with
  | .segments parts => .segments (settle file parts.dropLast.reverse
      ((cutSegments special text).map (Percent.encodeText pathSet)))
  | .plain _ => readPath special text

/-- A reference without a scheme, to a page that has a path of segments. -/
def readRelative (base : Url) (text : List Char) : Except Fault Url :=
  let special := isSpecial base.scheme
  let slashes := (text.takeWhile (isSlash special)).length
  let cut := cut text
  let query := readQuery special cut.query
  let fragment := readFragment cut.fragment
  if 2 ≤ slashes then
    if base.scheme = "file".toList then readFile base.scheme text
    else readAuthority base.scheme (text.drop (if special then slashes else 2))
  else if slashes = 1 then
    .ok { base with path := readPath special cut.path, query, fragment }
  else if cut.path = [] then
    .ok { base with query := if cut.query.isSome then query else base.query, fragment }
  else .ok { base with path := mergePath base cut.path, query, fragment }

def resolve (base : Url) (text : List Char) : Except Fault Url :=
  let text := clean text
  match splitScheme? text with
  | some (scheme, rest) =>
    if isSpecial scheme ∧ scheme = base.scheme ∧ (rest.takeWhile (isSlash true)).length < 2 then
      readRelative base rest
    else parse text
  | none =>
    match text, base.path with
    | '#' :: rest, _ => .ok { base with fragment := readFragment (some rest) }
    | _, .plain _ => .error .plainBase
    | _, .segments _ => readRelative base text

end LoginGateway.Url
