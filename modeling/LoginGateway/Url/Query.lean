import LoginGateway.Text.Form
import LoginGateway.Url.Parser

/-! Pairs in the query of a URL. -/

namespace LoginGateway.Url

def appendPairs (url : Url) (pairs : List (String × String)) : Url :=
  let added := Form.serialize pairs
  match url.query with
  | some [] => { url with query := some added }
  | some before => { url with query := some (before ++ '&' :: added) }
  | none => { url with query := some added }

def queryPairs (url : Url) : List (String × String) :=
  Form.parse (Utf8.encode (url.query.getD []))

end LoginGateway.Url
