import LoginGateway.Proofs.IdentityRoundTrip
import LoginGateway.Proofs.ObjectTexts
import Mathlib.Data.List.Nodup
import Mathlib.Data.List.TakeWhile

/-! Which identity the text of an object gives. It depends on the texts of three members
alone: not on the order of the members or the blanks between them, not on how a string is
spelled, and not on members with other names, whatever their values. -/

namespace LoginGateway.Identity
open Json

/-- The text of a member, which is empty where there is no such member. -/
structure TextOf (members : List (String × Octets)) (name text : String) : Prop where
  states : ∀ value, (name, value) ∈ members → Says value text
  missing : (∀ value, (name, value) ∉ members) → text = ""

/-- These members, in any order, are an identity: no member that is asked for stands twice,
each of them is a string, and the address is there. -/
structure Tells (members : List (String × Octets)) (identity : Identity) : Prop where
  once : ((members.map Prod.fst).filter (· ∈ fieldNames)).Nodup
  address : ∃ value, ("email", value) ∈ members
  email : TextOf members "email" identity.email
  name : TextOf members "name" identity.name
  picture : TextOf members "picture" identity.picture

/-- What keeps members from being an identity. -/
inductive Flawed (members : List (String × Octets)) : Prop where
  | missing (absent : ∀ value, ("email", value) ∉ members) : Flawed members
  | repeated {name : String} (wanted : name ∈ fieldNames) (twice : 2 ≤ (members.map Prod.fst).count name) :
      Flawed members
  | unreadable {name : String} {value : Octets} (wanted : name ∈ fieldNames) (here : (name, value) ∈ members)
      (noText : ∀ text, ¬ Says value text) : Flawed members

/-- Members that differ in nothing that counts: in their order, in how a string is spelled
or what a member with another name holds, and in further members with other names. -/
inductive Varied : List (String × Octets) → List (String × Octets) → Prop where
  | reordered {members members' : List (String × Octets)} (perm : members.Perm members') :
      Varied members members'
  | rewritten {before after : List (String × Octets)} {name : String} {value value' : Octets}
      (same : name ∈ fieldNames → ∀ text, Says value text → Says value' text) :
      Varied (before ++ (name, value) :: after) (before ++ (name, value') :: after)
  | inserted {before after : List (String × Octets)} {name : String} {value : Octets}
      (other : name ∉ fieldNames) : Varied (before ++ after) (before ++ (name, value) :: after)
  | trans {members between members' : List (String × Octets)} (first : Varied members between)
      (second : Varied between members') : Varied members members'

variable {source : Octets} {members members' : List (String × Octets)} {identity : Identity}

/-! ## Reading an object -/

theorem atEnd_iff {after : Octets} : atEnd after = .ok () ↔ Blanks after := by
  have nothing : skipBlanks after = [] ↔ Blanks after := List.dropWhile_eq_nil_iff
  rw [← nothing, atEnd]
  cases skipBlanks after with
  | nil => simp only
  | cons octet tail => simp only [reduceCtorEq]

/-- The text of an object gives the identity of the fields that its members come to. -/
theorem parse_object_iff (isObject : IsObject members source) : parse source = .ok identity ↔
    ∃ fields, Gathers fieldNames [] members fields ∧ ofFields fields = .ok identity := by
  cases isObject with
  | @mk before inside after blank spaced blank' =>
    rw [parse, record, skipBlanks_append blank rfl]
    dsimp only
    rw [if_pos rfl]
    constructor
    · intro read
      obtain ⟨⟨found, rest⟩, recorded, read⟩ := bind_eq_ok.mp read
      obtain ⟨⟨fields, rest, bound⟩, gathered, same⟩ := bind_eq_ok.mp recorded
      cases same
      obtain ⟨gathers, rfl⟩ := (leaves_knownMembers_inside spaced).mp ⟨bound, gathered⟩
      refine ⟨fields, gathers, ?_⟩
      dsimp only [ofRecord] at read
      split at read
      next given =>
        rw [atEnd_iff.mpr blank'] at read
        cases read
        exact given
      next => cases read
    · rintro ⟨fields, gathers, given⟩
      obtain ⟨_, gathered⟩ := (leaves_knownMembers_inside spaced).mpr ⟨gathers, rfl⟩
      rw [gathered]
      simp only [bind, Except.bind, ofRecord]
      rw [given]
      simp only []
      rw [atEnd_iff.mpr blank']

theorem list_or_object_of_parse (read : parse source = .ok identity) :
    (∃ tail, skipBlanks source = 91 :: tail) ∨ ∃ members, IsObject members source := by
  obtain ⟨⟨found, rest⟩, recorded, read⟩ := bind_eq_ok.mp read
  have ended : atEnd rest = .ok () := by
    dsimp only at read
    split at read
    next =>
      obtain ⟨⟨⟩, ended, _⟩ := bind_eq_ok.mp read
      exact ended
    next => cases read
  unfold record at recorded
  split at recorded
  next => cases recorded
  next octet tail starts =>
    split at recorded
    next object =>
      obtain ⟨⟨fields, rest, bound⟩, gathered, same⟩ := bind_eq_ok.mp recorded
      cases same
      obtain ⟨members, after, rfl, _, spaced, _⟩ := of_knownMembers _ (Nat.lt_succ_self _) ⟨bound, gathered⟩
      obtain ⟨before, blank, rfl⟩ := of_skipBlanks starts
      exact .inr ⟨members, by rw [object]; exact .mk blank (spaced rfl) (atEnd_iff.mp ended)⟩
    split at recorded
    next list => exact .inl ⟨tail, by rw [starts, list]⟩
    next => cases recorded

/-! ## What the members come to -/

variable {fields : List (String × String)} {name text : String}

theorem ofFields_eq_ok_iff : ofFields fields = .ok identity ↔
    field? fields "email" = some identity.email ∧ identity.name = (field? fields "name").getD "" ∧
      identity.picture = (field? fields "picture").getD "" := by
  obtain ⟨email, name, picture⟩ := identity
  unfold ofFields
  split
  next found =>
    simp only [found, Except.ok.injEq, Identity.mk.injEq, Option.some.injEq]
    exact and_congr_right fun _ => and_congr eq_comm eq_comm
  next none => simp [none]

theorem field?_nil (name : String) : field? [] name = none := rfl

/-- What was gathered holds the texts of the members. -/
theorem textOf_iff (gathers : Gathers fieldNames [] members fields) (wanted : name ∈ fieldNames) :
    TextOf members name text ↔ text = (field? fields name).getD "" := by
  by_cases here : ∃ value, (name, value) ∈ members
  · obtain ⟨value, here⟩ := here
    constructor
    · intro textOf
      obtain ⟨found, states, field⟩ := gathers.states wanted here
      rw [field, (textOf.states value here).unique states]
      rfl
    · rintro rfl
      refine ⟨fun value here => ?_, fun absent => absurd here (absent value)⟩
      obtain ⟨found, states, field⟩ := gathers.states wanted here
      rw [field]
      exact states
  · have absent : ∀ value, (name, value) ∉ members := fun value inside => here ⟨value, inside⟩
    rw [gathers.absent rfl absent]
    exact ⟨fun textOf => textOf.missing absent,
      fun empty => ⟨fun value inside => absurd inside (absent value), fun _ => empty⟩⟩

theorem tells_iff : Tells members identity ↔
    ∃ fields, Gathers fieldNames [] members fields ∧ ofFields fields = .ok identity := by
  constructor
  · intro tells
    have states : ∀ name ∈ fieldNames, ∀ value, (name, value) ∈ members → ∃ text, Says value text := by
      intro name wanted value here
      simp only [fieldNames, List.mem_cons, List.not_mem_nil, or_false] at wanted
      rcases wanted with rfl | rfl | rfl
      · exact ⟨_, tells.email.states value here⟩
      · exact ⟨_, tells.name.states value here⟩
      · exact ⟨_, tells.picture.states value here⟩
    obtain ⟨fields, gathers⟩ := exists_gathers tells.once (fun name _ _ => field?_nil name) states
    obtain ⟨value, here⟩ := tells.address
    obtain ⟨email, said, field⟩ := gathers.states (by decide) here
    refine ⟨fields, gathers, ofFields_eq_ok_iff.mpr ⟨?_, ?_, ?_⟩⟩
    · rw [field, said.unique (tells.email.states value here)]
    · exact (textOf_iff gathers (by decide)).mp tells.name
    · exact (textOf_iff gathers (by decide)).mp tells.picture
  · rintro ⟨fields, gathers, given⟩
    obtain ⟨email, name, picture⟩ := ofFields_eq_ok_iff.mp given
    have address : ∃ value, ("email", value) ∈ members := by
      by_contra absent
      rw [gathers.absent rfl fun value here => absent ⟨value, here⟩] at email
      cases email
    exact {
      once := gathers.once.1
      address
      email := (textOf_iff gathers (by decide)).mpr (by rw [email]; rfl)
      name := (textOf_iff gathers (by decide)).mpr name
      picture := (textOf_iff gathers (by decide)).mpr picture }

theorem parse_object (isObject : IsObject members source) :
    parse source = .ok identity ↔ Tells members identity :=
  (parse_object_iff isObject).trans tells_iff.symm

theorem flawed_iff : Flawed members ↔ ∀ identity, ¬ Tells members identity := by
  constructor
  · intro flawed identity tells
    cases flawed with
    | missing absent =>
      obtain ⟨value, here⟩ := tells.address
      exact absent value here
    | @repeated name wanted twice =>
      have once := List.nodup_iff_count_le_one.mp tells.once name
      rw [List.count_filter (by simpa using wanted)] at once
      omega
    | unreadable wanted here noText =>
      obtain ⟨fields, gathers, _⟩ := tells_iff.mp tells
      obtain ⟨text, states, _⟩ := gathers.states wanted here
      exact noText text states
  · intro none
    by_contra sound
    have once : ((members.map Prod.fst).filter (· ∈ fieldNames)).Nodup := by
      refine List.nodup_iff_count_le_one.mpr fun name => ?_
      by_contra twice
      have inside : name ∈ (members.map Prod.fst).filter (· ∈ fieldNames) :=
        List.count_pos_iff.mp (by omega)
      have wanted : name ∈ fieldNames := of_decide_eq_true (List.mem_filter.mp inside).2
      rw [List.count_filter (by simpa using wanted)] at twice
      exact sound (.repeated wanted (by omega))
    have states : ∀ name ∈ fieldNames, ∀ value, (name, value) ∈ members → ∃ text, Says value text := by
      intro name wanted value here
      by_contra noText
      exact sound (.unreadable wanted here fun text states => noText ⟨text, states⟩)
    have address : ∃ value, ("email", value) ∈ members := by
      by_contra absent
      exact sound (.missing fun value here => absent ⟨value, here⟩)
    obtain ⟨fields, gathers⟩ := exists_gathers once (fun name _ _ => field?_nil name) states
    obtain ⟨value, here⟩ := address
    obtain ⟨email, _, field⟩ := gathers.states (by decide) here
    exact none ⟨email, (field? fields "name").getD "", (field? fields "picture").getD ""⟩
      (tells_iff.mpr ⟨fields, gathers, ofFields_eq_ok_iff.mpr ⟨field, rfl, rfl⟩⟩)

/-! ## What does not count -/

/-- Members are the same identity as others that hold the same known members with the same texts. -/
theorem Tells.congr (tells : Tells members identity)
    (once : ((members'.map Prod.fst).filter (· ∈ fieldNames)).Nodup)
    (back : ∀ name ∈ fieldNames, ∀ value', (name, value') ∈ members' →
      ∃ value, (name, value) ∈ members ∧ ∀ text, Says value text → Says value' text)
    (forth : ∀ name ∈ fieldNames, ∀ value, (name, value) ∈ members → ∃ value', (name, value') ∈ members') :
    Tells members' identity := by
  have textOf {name text : String} (wanted : name ∈ fieldNames) (textOf : TextOf members name text) :
      TextOf members' name text := by
    refine ⟨fun value' here => ?_, fun absent => textOf.missing fun value here => ?_⟩
    · obtain ⟨value, inside, same⟩ := back name wanted value' here
      exact same text (textOf.states value inside)
    · obtain ⟨value', inside⟩ := forth name wanted value here
      exact absent value' inside
  obtain ⟨value, here⟩ := tells.address
  exact {
    once
    address := forth "email" (by decide) value here
    email := textOf (by decide) tells.email
    name := textOf (by decide) tells.name
    picture := textOf (by decide) tells.picture }

theorem Tells.varied (varied : Varied members members') (tells : Tells members identity) :
    Tells members' identity := by
  induction varied with
  | reordered perm =>
    refine tells.congr (((perm.map Prod.fst).filter _).nodup_iff.mp tells.once) ?back ?forth
    case back => exact fun name _ value' here => ⟨value', perm.mem_iff.mpr here, fun _ => id⟩
    case forth => exact fun name _ value here => ⟨value, perm.mem_iff.mp here⟩
  | @rewritten before after name value value' same =>
    refine tells.congr (by simpa using tells.once) ?back ?forth
    case back =>
      intro other wanted there here
      simp only [List.mem_append, List.mem_cons, Prod.mk.injEq] at here ⊢
      rcases here with inside | ⟨rfl, rfl⟩ | inside
      · exact ⟨there, .inl inside, fun _ => id⟩
      · exact ⟨value, .inr (.inl ⟨rfl, rfl⟩), same wanted⟩
      · exact ⟨there, .inr (.inr inside), fun _ => id⟩
    case forth =>
      intro other wanted there here
      simp only [List.mem_append, List.mem_cons, Prod.mk.injEq] at here ⊢
      rcases here with inside | ⟨rfl, rfl⟩ | inside
      · exact ⟨there, .inl inside⟩
      · exact ⟨value', .inr (.inl ⟨rfl, rfl⟩)⟩
      · exact ⟨there, .inr (.inr inside)⟩
  | @inserted before after name value other =>
    have once : (((before ++ (name, value) :: after).map Prod.fst).filter (· ∈ fieldNames)).Nodup := by
      rw [List.map_append, List.filter_append, List.map_cons, List.filter_cons_of_neg (by simpa using other),
        ← List.filter_append, ← List.map_append]
      exact tells.once
    have same {known : String} {there : Octets} (wanted : known ∈ fieldNames) :
        (known, there) ∈ before ++ (name, value) :: after ↔ (known, there) ∈ before ++ after := by
      have different : known ≠ name := fun same => other (same ▸ wanted)
      simp [different]
    exact tells.congr once (fun known wanted there here => ⟨there, (same wanted).mp here, fun _ => id⟩)
      fun known wanted there here => ⟨there, (same wanted).mpr here⟩
  | trans _ _ ih ih' => exact ih' (ih tells)

theorem error_iff (isObject : IsObject members source) :
    (∃ fault, parse source = .error fault) ↔ Flawed members := by
  rw [flawed_iff]
  simp only [← parse_object isObject]
  cases parse source with
  | ok identity => exact ⟨nofun, fun none => absurd rfl (none identity)⟩
  | error fault => exact ⟨fun _ => nofun, fun _ => ⟨fault, rfl⟩⟩

/-- The text of an object is read by what its members say: each text that is accepted is
that of a list or of an object with members, and these decide. An object is refused if and
only if the address is missing, a known member stands twice, or one is no string. Members
in another order, spelled in another way, with other blanks or with further members of
other names give the same identity, and so does the object that it is written as. -/
theorem object_texts (source : Octets) :
    (∀ identity, parse source = .ok identity →
      (∃ tail, skipBlanks source = 91 :: tail) ∨ ∃ members, IsObject members source) ∧
    ∀ members, IsObject members source →
      (∀ identity, parse source = .ok identity ↔ Tells members identity) ∧
      ((∃ fault, parse source = .error fault) ↔ Flawed members) ∧
      ∀ identity, parse source = .ok identity →
        (∀ members' source', Varied members members' → IsObject members' source' →
          parse source' = .ok identity) ∧
        ∃ again, parse (Utf8.encode identity.toJson) = .ok again ∧ again = identity ∧
          again.toJson = identity.toJson := by
  refine ⟨fun identity => list_or_object_of_parse, fun members isObject =>
    ⟨fun identity => parse_object isObject, error_iff isObject, fun identity read => ⟨?_, ?_⟩⟩⟩
  · intro members' source' varied isObject'
    exact (parse_object isObject').mpr (((parse_object isObject).mp read).varied varied)
  · exact ⟨identity, parse_toJson identity, rfl, rfl⟩

example : parse (octets " \x7b\"x\": [null, \x7b\x7d], \"name\":\"A\" , \"em\\u0061il\" : \"\\ud83d\\ude00@b\"\x7d ") =
    .ok ⟨"😀@b", "A", ""⟩ := by
  cbv

end LoginGateway.Identity
