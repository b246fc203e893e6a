import LoginGateway.Proofs.DurationTexts
import LoginGateway.Proofs.OverlaidFields
import LoginGateway.Settings.Printer

/-! Settings that are written and read again. Every field is read from what it is written as,
except that a timeout is written in whole seconds: what it has beyond them is lost. -/

namespace LoginGateway

namespace Duration

/-- The whole seconds of a span are read from its text. -/
theorem read_text {duration : Duration} (fits : duration.seconds < UInt64.size) :
    read duration.text = .ok (ofSeconds duration.seconds) := by
  have counts : Counts duration.text .seconds duration.seconds :=
    ⟨(toString duration.seconds).toList, String.toList_append, .plain (isNumeral_repr _)⟩
  obtain ⟨span, found, total⟩ := read_of_counts counts fits
  rw [found, eq_of_total (total.trans (total_ofSeconds _).symm)]

theorem seconds_ofSeconds (count : Nat) : (ofSeconds count).seconds = count :=
  Nat.mul_div_cancel count (by decide)

theorem ofSeconds_seconds_iff {duration : Duration} :
    ofSeconds duration.seconds = duration ↔ duration.nanoseconds = 0 := by
  obtain ⟨milliseconds⟩ := duration
  simp only [ofSeconds, seconds, nanoseconds, Duration.mk.injEq]
  omega

end Duration

namespace Settings

variable {α : Type}

theorem readItems_map {read : Document → Reading α} {write : α → Document}
    (back : ∀ value, read (write value) = .ok value) (place : Nat) (values : List α) :
    readItems read place (values.map write) = .ok values := by
  induction values generalizing place with
  | nil => rfl
  | cons value rest ih =>
    rw [List.map_cons, readItems, back, ih]
    rfl

theorem readList_textsDocument (texts : List String) :
    readList readText (textsDocument texts) = .ok texts := by
  have back (text : String) : readText (textDocument text) = .ok text := rfl
  exact readItems_map back 0 texts

theorem readNatural_naturalDocument {limit value : Nat} (fits : value < limit) (expected : String) :
    readNatural limit expected (naturalDocument value) = .ok value :=
  if_pos fits

theorem readPort_naturalDocument (port : UInt16) :
    readPort (naturalDocument port.toNat) = .ok port := by
  rw [readPort, readNatural_naturalDocument port.toNat_lt]
  exact congrArg Except.ok UInt16.ofNat_toNat

theorem readTimeout_text {duration : Duration} (fits : duration.seconds < UInt64.size) :
    readTimeout (textDocument duration.text) = .ok (.ofSeconds duration.seconds) := by
  have given : readText (textDocument duration.text) = .ok duration.text := rfl
  rw [readTimeout_of_text given, Duration.read_text fits]
  rfl

namespace Form

variable {form : Form α} {origin : Origin} {key : String} {value document : Document} {seen : List String}
  {record next : α} {rest : List (String × Document)}

theorem readEntries_of_set (known : form.field key ∈ form.fields) (unseen : form.field key ∉ seen)
    (set : form.set record (form.field key) value = .ok next) :
    form.readEntries origin seen record ((key, value) :: rest) =
      form.readEntries origin (form.field key :: seen) next rest := by
  rw [readEntries_of_field rfl known unseen, set]
  rfl

section Kept

variable {holds : α → Prop} {result : α × List String}

/-- A property of records that no field takes away when it is set. -/
def Keeps (form : Form α) (holds : α → Prop) : Prop :=
  ∀ record name document next, holds record → form.set record name document = .ok next → holds next

theorem Keeps.readEntries {entries : List (String × Document)} (keeps : form.Keeps holds)
    (start : holds record) (found : form.readEntries origin seen record entries = .ok result) :
    holds result.1 := by
  induction entries generalizing record seen with
  | nil =>
    cases found
    exact start
  | cons entry rest ih =>
    rcases readEntries_cons_iff.mp found with ⟨-, later⟩ | ⟨-, -, next, set, later⟩
    · exact ih start later
    · exact ih (keeps _ _ _ _ start set) later

theorem Keeps.readPlaces {place : Nat} {names : List String} {items : List Document}
    (keeps : form.Keeps holds) (start : holds record)
    (found : form.readPlaces place seen record names items = .ok result) : holds result.1 := by
  induction names generalizing record seen place items with
  | nil =>
    cases found
    exact start
  | cons name names ih =>
    cases items with
    | nil =>
      cases found
      exact start
    | cons item items =>
      rw [Form.readPlaces] at found
      cases set : form.set record name item with
      | error mistake =>
        rw [set] at found
        cases found
      | ok next =>
        rw [set] at found
        exact ih (keeps _ _ _ _ start set) found

theorem Keeps.read (keeps : form.Keeps holds) (start : holds record)
    (found : form.read record document = .ok result) : holds result.1 := by
  cases document with
  | scalar origin value => cases found
  | map origin entries => exact keeps.readEntries start found
  | list origin items =>
    rw [Form.read] at found
    cases places : form.readPlaces 0 [] record form.fields items with
    | error mistake =>
      rw [places] at found
      cases found
    | ok reached =>
      rw [places] at found
      change (if _ then _ else _) = _ at found
      split at found
      · cases found
      · cases found
        exact keeps.readPlaces start places

end Kept

end Form

theorem read_serverDocument {server : ServerSettings} (start : ServerSettings)
    (fits : server.connectTimeout.seconds < UInt64.size) :
    ∃ seen, serverForm.read start (serverDocument server) =
      .ok ({ server with connectTimeout := .ofSeconds server.connectTimeout.seconds }, seen) := by
  have port := readPort_naturalDocument server.port
  have timeout := readTimeout_text fits
  apply Exists.intro
  rw [serverDocument, Form.read,
    Form.readEntries_of_set (by decide) (by decide) rfl,
    Form.readEntries_of_set (by decide) (by decide) (congrArg (Except.map _) timeout),
    Form.readEntries_of_set (by decide) (by decide) (congrArg (Except.map _) port),
    Form.readEntries_of_set (by decide) (by decide) rfl]
  rfl

theorem read_oauthDocument (start oauth : OAuthSettings) :
    ∃ seen, oauthForm.read start (oauthDocument oauth) = .ok (oauth, seen) := by
  have scopes := readList_textsDocument oauth.scopes
  apply Exists.intro
  rw [oauthDocument, Form.read,
    Form.readEntries_of_set (by decide) (by decide) rfl,
    Form.readEntries_of_set (by decide) (by decide) rfl,
    Form.readEntries_of_set (by decide) (by decide) rfl,
    Form.readEntries_of_set (by decide) (by decide) rfl,
    Form.readEntries_of_set (by decide) (by decide) (congrArg (Except.map _) scopes),
    Form.readEntries_of_set (by decide) (by decide) rfl,
    Form.readEntries_of_set (by decide) (by decide) rfl]
  rfl

theorem readList_routeDocument (routes : List RouteSettings) :
    readList readRoute (.list .given (routes.map routeDocument)) = .ok routes := by
  have back (route : RouteSettings) : readRoute (routeDocument route) = .ok route := rfl
  exact readItems_map back 0 routes

/-- The settings with the timeout that is left of theirs when it is written in seconds. -/
def inSeconds (settings : Settings) : Settings :=
  { settings with server := { settings.server with
      connectTimeout := .ofSeconds settings.server.connectTimeout.seconds } }

theorem ofDocument_toDocument {settings : Settings} (capacity : settings.cacheCapacity < UInt64.size)
    (fits : settings.server.connectTimeout.seconds < UInt64.size) :
    ofDocument settings.toDocument = .ok settings.inSeconds := by
  obtain ⟨_, oauth⟩ := read_oauthDocument .default settings.oauth
  obtain ⟨_, server⟩ := read_serverDocument .default fits
  have envFiles := readList_textsDocument settings.envFiles
  have routes := readList_routeDocument settings.routes
  have session : sessionForm.read 50
      (.map .given [("cache_capacity", naturalDocument settings.cacheCapacity)]) =
        .ok (settings.cacheCapacity, ["cache_capacity"]) := by
    rw [Form.read, Form.readEntries_of_set (by decide) (by decide)
      (readNatural_naturalDocument capacity "u64")]
    rfl
  rw [ofDocument, toDocument, Form.read,
    Form.readEntries_of_set (by decide) (by decide) (congrArg (Except.map _) envFiles),
    Form.readEntries_of_set (by decide) (by decide) rfl,
    Form.readEntries_of_set (by decide) (by decide) (congrArg (Except.map _) oauth),
    Form.readEntries_of_set (by decide) (by decide) (congrArg (Except.map _) routes),
    Form.readEntries_of_set (by decide) (by decide) (congrArg (Except.map _) server),
    Form.readEntries_of_set (by decide) (by decide) (congrArg (Except.map _) session)]
  rfl

theorem lt_of_readNatural {limit value : Nat} {expected : String} {document : Document}
    (found : readNatural limit expected document = .ok value) : value < limit ∨ value = 0 := by
  unfold readNatural at found
  split at found
  · split at found
    next fits =>
      cases found
      exact .inl fits
    next => cases found
  · split at found
    · cases found
      exact .inr rfl
    · cases found
  · cases found

theorem keeps_capacity_session : sessionForm.Keeps (· < UInt64.size) := by
  intro capacity name document next held set
  simp only [sessionForm] at set
  split at set
  · rcases lt_of_readNatural set with fits | rfl
    · exact fits
    · decide
  · cases set
    exact held

theorem keeps_capacity : form.Keeps (·.cacheCapacity < UInt64.size) := by
  intro settings name document next held set
  simp only [form] at set
  split at set
  case h_6 =>
    obtain ⟨result, session, rfl⟩ := map_eq_ok.mp set
    exact keeps_capacity_session.read (by decide) session
  case h_7 =>
    cases set
    exact held
  all_goals
    obtain ⟨value, -, rfl⟩ := map_eq_ok.mp set
    exact held

theorem capacity_lt {document : Document} {settings : Settings}
    (found : ofDocument document = .ok settings) : settings.cacheCapacity < UInt64.size := by
  obtain ⟨result, read, rfl⟩ := map_eq_ok.mp found
  exact keeps_capacity.read (by decide) read

theorem inSeconds_eq_iff {settings : Settings} :
    settings.inSeconds = settings ↔ settings.server.connectTimeout.nanoseconds = 0 := by
  rw [← Duration.ofSeconds_seconds_iff]
  constructor
  · exact fun same => congrArg (fun settings : Settings => settings.server.connectTimeout) same
  · intro same
    rw [inSeconds, same]

/-- Settings that were read, whatever they were read from, are read again from what they are
written as, but with the whole seconds of their timeout. So they are the same settings exactly
if the timeout has no part below a second. Writing them once more changes nothing. -/
theorem settings_kept {document : Document} {settings : Settings}
    (found : ofDocument document = .ok settings)
    (fits : settings.server.connectTimeout.seconds < UInt64.size) :
    ofDocument settings.toDocument = .ok settings.inSeconds ∧
    (ofDocument settings.toDocument = .ok settings ↔
      settings.server.connectTimeout.nanoseconds = 0) ∧
    settings.inSeconds.toDocument = settings.toDocument := by
  have again := ofDocument_toDocument (capacity_lt found) fits
  refine ⟨again, ?_, ?_⟩
  · rw [again, Except.ok.injEq, inSeconds_eq_iff]
  · have text : (Duration.ofSeconds settings.server.connectTimeout.seconds).text =
        settings.server.connectTimeout.text := by
      rw [Duration.text, Duration.seconds_ofSeconds, Duration.text]
    simp only [toDocument, serverDocument, inSeconds, text]

end Settings

namespace OneFile
open Settings

def timed (timeout : String) : Document :=
  .map .given [("oauth", .map .given [("client-id", textDocument "id")]),
    ("server", .map .given [("connect_timeout", textDocument timeout)])]

def timedSettings (milliseconds : Nat) : Settings := { Settings.default with
  oauth := { OAuthSettings.default with clientId := "id" }
  server := { ServerSettings.default with connectTimeout := ⟨milliseconds⟩ } }

theorem settings_kept_of_minutes :
    ofDocument (timed "5m") = .ok (timedSettings 300000) ∧
      (300000 / 1000 < UInt64.size) ∧
      ofDocument (timedSettings 300000).toDocument = .ok (timedSettings 300000) := by
  have found : ofDocument (timed "5m") = .ok (timedSettings 300000) := by rfl
  have fits : 300000 / 1000 < UInt64.size := by decide
  exact ⟨found, fits, (settings_kept found fits).2.1.mpr rfl⟩

/-- A quarter of a second is read, and read again as nothing. -/
theorem quarter_lost :
    ofDocument (timed "250ms") = .ok (timedSettings 250) ∧
      ofDocument (timedSettings 250).toDocument = .ok (timedSettings 0) ∧
      timedSettings 0 ≠ timedSettings 250 := by
  have found : ofDocument (timed "250ms") = .ok (timedSettings 250) := by rfl
  have again : ofDocument (timedSettings 250).toDocument = .ok (timedSettings 250).inSeconds :=
    ofDocument_toDocument (capacity_lt found) (by decide)
  exact ⟨found, again, by decide⟩

end OneFile

end LoginGateway
