import LoginGateway.Settings.Mistake
import LoginGateway.Settings.Timeout

/-! Reading settings from a document. What a document leaves out has its default;
keys that mean nothing here are passed over; a list gives the fields in turn. -/

namespace LoginGateway.Settings

abbrev Reading (α : Type) := Except Mistake α

def fail {α : Type} (document : Document) (problem : Problem) : Reading α :=
  .error ⟨problem, document.origin, []⟩

def wrongKind {α : Type} (document : Document) (expected : String) : Reading α :=
  fail document (.kind (.of document) expected)

def readText : Document → Reading String
  | .scalar _ (.text value) => .ok value
  | .scalar _ (.letter value) => .ok (String.singleton value)
  | document => wrongKind document "a string"

def readNatural (limit : Nat) (expected : String) : Document → Reading Nat
  | .scalar origin (.natural value) =>
    if value < limit then .ok value
    else fail (.scalar origin (.natural value)) (.value (.scalar (.natural value)) expected)
  | .scalar origin (.negative value) =>
    if value = 0 then .ok 0
    else fail (.scalar origin (.negative value)) (.value (.scalar (.negative value)) expected)
  | document => wrongKind document expected

def readPort (document : Document) : Reading UInt16 :=
  (readNatural UInt16.size "u16" document).map Nat.toUInt16

def readTimeout (document : Document) : Reading Duration := do
  match Duration.read (← readText document) with
  | .ok duration => .ok duration
  | .error fault => fail document (.number fault)

def readItems {α : Type} (read : Document → Reading α) : Nat → List Document → Reading (List α)
  | _, [] => .ok []
  | place, item :: rest => do
    let value ← (read item).mapError (.below (toString place))
    let values ← readItems read (place + 1) rest
    .ok (value :: values)

def readList {α : Type} (read : Document → Reading α) : Document → Reading (List α)
  | .list _ items => readItems read 0 items
  | document => wrongKind document "a sequence"

/-- A record of settings: its fields in turn, and what each key sets. -/
structure Form (α : Type) where
  expected : String
  fields : List String
  field : String → String
  set : α → String → Document → Reading α

namespace Form

/-- Read the entries of a map in turn; `seen` are the fields that were set. -/
def readEntries {α : Type} (form : Form α) (origin : Origin) :
    List String → α → List (String × Document) → Reading (α × List String)
  | seen, record, [] => .ok (record, seen)
  | seen, record, (key, value) :: rest => do
    let name := form.field key
    if !form.fields.contains name then form.readEntries origin seen record rest
    else if seen.contains name then .error ⟨.duplicate name, origin, []⟩
    else
      let record ← (form.set record name value).mapError (.below key)
      form.readEntries origin (name :: seen) record rest

/-- Read the items of a list as the fields in turn. -/
def readPlaces {α : Type} (form : Form α) :
    Nat → List String → α → List String → List Document → Reading (α × List String)
  | place, seen, record, name :: names, item :: items => do
    let record ← (form.set record name item).mapError (.below (toString place))
    form.readPlaces (place + 1) (name :: seen) record names items
  | _, seen, record, _, _ => .ok (record, seen)

/-- Read a record over the values it begins with, and the fields that were set. -/
def read {α : Type} (form : Form α) (start : α) : Document → Reading (α × List String)
  | .map origin entries => form.readEntries origin [] start entries
  | .list origin items => do
    let result ← form.readPlaces 0 [] start form.fields items
    if origin = .given ∧ form.fields.length < items.length then
      .error ⟨.size items.length "fewer elements in array", origin, []⟩
    else .ok result
  | document => wrongKind document form.expected

end Form

def serverForm : Form ServerSettings where
  expected := "struct ServerConfig"
  fields := ["bind", "port", "scheme", "connect_timeout"]
  field := id
  set server name document :=
    match name with
    | "bind" => (readText document).map fun value => { server with bind := value }
    | "port" => (readPort document).map fun value => { server with port := value }
    | "scheme" => (readText document).map fun value => { server with scheme := value }
    | "connect_timeout" =>
      (readTimeout document).map fun value => { server with connectTimeout := value }
    | _ => .ok server

def oauthForm : Form OAuthSettings where
  expected := "struct OAuthConfig"
  fields := ["client_id", "client_secret", "domain", "authorization_url", "token_url",
    "userinfo_url", "scopes"]
  field key :=
    if key = "client-id" then "client_id" else if key = "client-secret" then "client_secret" else key
  set oauth name document :=
    match name with
    | "client_id" => (readText document).map fun value => { oauth with clientId := value }
    | "client_secret" => (readText document).map fun value => { oauth with clientSecret := value }
    | "domain" => (readText document).map fun value => { oauth with domain := value }
    | "authorization_url" =>
      (readText document).map fun value => { oauth with authorizationUrl := value }
    | "token_url" => (readText document).map fun value => { oauth with tokenUrl := value }
    | "userinfo_url" => (readText document).map fun value => { oauth with userinfoUrl := value }
    | "scopes" => (readList readText document).map fun value => { oauth with scopes := value }
    | _ => .ok oauth

def routeForm : Form RouteSettings where
  expected := "struct RouteConfig"
  fields := ["from", "to"]
  field := id
  set route name document :=
    match name with
    | "from" => (readText document).map fun value => { route with source := value }
    | "to" => (readText document).map fun value => { route with backend := value }
    | _ => .ok route

/-- A route has no defaults: both of its fields have to be set. -/
def readRoute (document : Document) : Reading RouteSettings := do
  let (route, seen) ← routeForm.read ⟨"", ""⟩ document
  match document with
  | .list _ items =>
    if items.length < 2 then fail document (.size items.length "struct RouteConfig with 2 elements")
    else .ok route
  | _ =>
    match routeForm.fields.find? (!seen.contains ·) with
    | some name => fail document (.missing name)
    | none => .ok route

def sessionForm : Form Nat where
  expected := "struct SessionConfig"
  fields := ["cache_capacity"]
  field := id
  set capacity name document :=
    match name with
    | "cache_capacity" => readNatural UInt64.size "u64" document
    | _ => .ok capacity

def form : Form Settings where
  expected := "struct Config"
  fields := ["env_files", "host", "server", "oauth", "routes", "session"]
  field := id
  set settings name document :=
    match name with
    | "env_files" => (readList readText document).map fun value => { settings with envFiles := value }
    | "host" => (readText document).map fun value => { settings with host := value }
    | "server" => (serverForm.read .default document).map fun (value, _) => { settings with server := value }
    | "oauth" => (oauthForm.read .default document).map fun (value, _) => { settings with oauth := value }
    | "routes" => (readList readRoute document).map fun value => { settings with routes := value }
    | "session" => (sessionForm.read 50 document).map fun (value, _) => { settings with cacheCapacity := value }
    | _ => .ok settings

def ofDocument (document : Document) : Reading Settings :=
  (form.read .default document).map (·.1)

end LoginGateway.Settings
