import LoginGateway.Http.Redirect
import LoginGateway.Identity.Reader
import LoginGateway.Provider.Basic

/-! The two calls to the provider: a code for an access token, and an access token
for a profile. Only a good answer of the expected shape counts. -/

namespace LoginGateway.Provider

def exchangeRequest (provider : Provider) (code : String) : Except TransportFault Outgoing := do
  let url ← requestUrl provider.tokenUrl
  let form := Form.serialize [("grant_type", "authorization_code"), ("code", code),
    ("redirect_uri", provider.redirectUri), ("client_id", provider.clientId),
    ("client_secret", provider.clientSecret)]
  .ok ⟨"POST", url, [("content-type", octets "application/x-www-form-urlencoded")],
    some (Utf8.encode form)⟩

def profileRequest (provider : Provider) (accessToken : String) :
    Except TransportFault Outgoing := do
  let credentials := octets "Bearer " ++ octets accessToken
  if (Url.parse provider.userinfoUrl.toList).isOk ∧ Headers.isValue credentials then
    let url ← requestUrl provider.userinfoUrl
    .ok ⟨"GET", url, [("authorization", credentials)], none⟩
  else .error (.request none)

def isSuccess (answer : Incoming) : Bool := 200 ≤ answer.status && answer.status < 300

def statusText (status : Nat) : String :=
  match statusWords.find? (·.1 = status) with
  | some (_, words) => toString status ++ " " ++ words
  | none => toString status ++ " <unknown status code>"
where
  statusWords : List (Nat × String) :=
    [(100, "Continue"), (101, "Switching Protocols"), (102, "Processing"), (103, "Early Hints"),
     (200, "OK"), (201, "Created"), (202, "Accepted"), (203, "Non Authoritative Information"),
     (204, "No Content"), (205, "Reset Content"), (206, "Partial Content"), (207, "Multi-Status"),
     (208, "Already Reported"), (226, "IM Used"), (300, "Multiple Choices"),
     (301, "Moved Permanently"), (302, "Found"), (303, "See Other"), (304, "Not Modified"),
     (305, "Use Proxy"), (307, "Temporary Redirect"), (308, "Permanent Redirect"),
     (400, "Bad Request"), (401, "Unauthorized"), (402, "Payment Required"), (403, "Forbidden"),
     (404, "Not Found"), (405, "Method Not Allowed"), (406, "Not Acceptable"),
     (407, "Proxy Authentication Required"), (408, "Request Timeout"), (409, "Conflict"),
     (410, "Gone"), (411, "Length Required"), (412, "Precondition Failed"),
     (413, "Payload Too Large"), (414, "URI Too Long"), (415, "Unsupported Media Type"),
     (416, "Range Not Satisfiable"), (417, "Expectation Failed"), (418, "I'm a teapot"),
     (421, "Misdirected Request"), (422, "Unprocessable Entity"), (423, "Locked"),
     (424, "Failed Dependency"), (425, "Too Early"), (426, "Upgrade Required"),
     (428, "Precondition Required"), (429, "Too Many Requests"),
     (431, "Request Header Fields Too Large"), (451, "Unavailable For Legal Reasons"),
     (500, "Internal Server Error"), (501, "Not Implemented"), (502, "Bad Gateway"),
     (503, "Service Unavailable"), (504, "Gateway Timeout"), (505, "HTTP Version Not Supported"),
     (506, "Variant Also Negotiates"), (507, "Insufficient Storage"), (508, "Loop Detected"),
     (510, "Not Extended"), (511, "Network Authentication Required")]

def accessToken (answer : Incoming) : Except Fault String :=
  if !isSuccess answer then
    let body := if answer.complete then String.ofList (Utf8.decodeLossy answer.body) else ""
    .error (.provider ("Token exchange failed: HTTP " ++ statusText answer.status ++ " - " ++ body))
  else if !answer.complete then
    .error (.provider "Failed to parse token response: error decoding response body")
  else
    match Json.record ["access_token"] "struct TokenResponse" answer.body with
    | .ok (.members [(_, token)], rest) =>
      if (Json.skipBlanks rest).isEmpty then .ok token else undecodable
    | .ok (.items [token], rest) =>
      if (Json.skipBlanks rest).isEmpty then .ok token else undecodable
    | _ => undecodable
where
  undecodable : Except Fault String :=
    .error (.provider "Failed to parse token response: error decoding response body")

def profile (answer : Incoming) : Except Fault Identity :=
  if !isSuccess answer then
    .error (.provider ("Profile fetch failed: HTTP " ++ statusText answer.status))
  else
    match if answer.complete then (Identity.parse answer.body).toOption else none with
    | some identity => .ok identity
    | none => .error (.provider "Failed to parse profile: error decoding response body")

/-- Send a request and follow redirects; the requests that were sent are told. -/
def send (wire : Wire) (request : Except TransportFault Outgoing) :
    Except TransportFault Incoming × List Outgoing :=
  match request with
  | .ok request => Redirect.follow wire Redirect.budget request
  | .error fault => (.error fault, [])

def exchange (provider : Provider) (wire : Wire) (code : String) :
    Except Fault String × List Outgoing :=
  match send wire (provider.exchangeRequest code) with
  | (.ok answer, sent) => (accessToken answer, sent)
  | (.error fault, sent) => (.error (.provider ("Token request failed: " ++ fault.message)), sent)

def fetchProfile (provider : Provider) (wire : Wire) (token : String) :
    Except Fault Identity × List Outgoing :=
  match send wire (provider.profileRequest token) with
  | (.ok answer, sent) => (profile answer, sent)
  | (.error fault, sent) => (.error (.provider ("Profile request failed: " ++ fault.message)), sent)

end LoginGateway.Provider
