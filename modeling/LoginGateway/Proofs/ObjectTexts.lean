import LoginGateway.Proofs.SkippedValues

/-! The texts of objects, and what a record takes from them. Which members stand in an
object is a matter of the grammar alone; what the reader gathers from it is said in terms
of these members, so neither blanks nor spellings show in it. -/

namespace LoginGateway.Json

/-- A member with its name, however that is spelled. -/
inductive IsNamed : String × Octets → Octets → Prop where
  | mk {name : String} {body value text : Octets} (spells : Spells name body) (written : Written value)
      (isMember : IsMember (body, value) text) : IsNamed (name, value) text

/-- An object with these members, in this order. -/
inductive IsObject (members : List (String × Octets)) : Octets → Prop where
  | mk {before inside after : Octets} (blank : Blanks before) (spaced : Spaced IsNamed members inside)
      (blank' : Blanks after) : IsObject members (before ++ 123 :: (inside ++ 125 :: after))

/-- A value that is a string with this text. -/
def Says (value : Octets) (text : String) : Prop :=
  ∃ body, value = 34 :: (body ++ [34]) ∧ Spells text body

/-- Behind the fields that are there already, these members come to these fields: those
that are asked for say their texts, and none of them is there twice. -/
inductive Gathers (known : List String) :
    List (String × String) → List (String × Octets) → List (String × String) → Prop where
  | nil {got : List (String × String)} : Gathers known got [] got
  | known {got fields : List (String × String)} {members : List (String × Octets)} {name text : String}
      {value : Octets} (wanted : name ∈ known) (fresh : field? got name = none) (states : Says value text)
      (others : Gathers known (got ++ [(name, text)]) members fields) :
      Gathers known got ((name, value) :: members) fields
  | other {got fields : List (String × String)} {members : List (String × Octets)} {name : String}
      {value : Octets} (unknown : name ∉ known) (others : Gathers known got members fields) :
      Gathers known got ((name, value) :: members) fields

variable {source rest last behind : Octets}

theorem Passes.unique {kept : Octets → Prop} {result : Except Fault { rest : Octets // kept rest }}
    (one : Passes result rest) (other : Passes result last) : rest = last := by
  obtain ⟨_, rfl⟩ := one
  exact passes_ok_iff.mp other

theorem Takes.unique {α : Type} {result : Except Fault (Took source α)} {value value' : α}
    (one : Takes result value rest) (other : Takes result value' last) : value = value' ∧ rest = last := by
  obtain ⟨_, rfl⟩ := one
  obtain ⟨_, same⟩ := other
  cases same
  exact ⟨rfl, rfl⟩

theorem Leaves.unique {α : Type} {result : Except Fault (α × Left source)} {value value' : α}
    (one : Leaves result value rest) (other : Leaves result value' last) : value = value' ∧ rest = last := by
  obtain ⟨_, rfl⟩ := one
  obtain ⟨_, same⟩ := other
  cases same
  exact ⟨rfl, rfl⟩

/-! ## Strings -/

theorem Means.isBody {body bytes : Octets} (means : Means body bytes) : IsBody body := by
  induction means with
  | nil => exact .nil
  | literal plain _ ih => exact .literal plain ih
  | escape escape _ ih =>
    cases escape with
    | short found => exact .short (by rw [found]; rfl) ih
    | unit hex => exact .unit hex ih
    | pair hex hex' =>
      rw [List.cons_append, List.append_assoc, List.cons_append, List.cons_append]
      exact .unit hex (.unit hex' ih)

theorem IsBody.unique {body body' : Octets} (isBody : IsBody body) (isBody' : IsBody body')
    (same : body ++ 34 :: rest = body' ++ 34 :: last) : body = body' ∧ rest = last := by
  have ends := (skipString_iff.mpr ⟨body, rfl, isBody⟩).unique (skipString_iff.mpr ⟨body', same, isBody'⟩)
  subst ends
  exact ⟨List.append_cancel_right same, rfl⟩

theorem takes_stringValue_iff {text : String} : Takes (stringValue source) text rest ↔
    ∃ tail, skipBlanks source = 34 :: tail ∧ Takes (string tail) text rest := by
  constructor
  · rintro ⟨less, read⟩
    unfold stringValue at read
    split at read
    next => cases read
    next octet tail starts =>
      split at read
      next quote =>
        obtain ⟨⟨text, rest, less'⟩, taken, same⟩ := bind_eq_ok.mp read
        cases same
        exact ⟨tail, by rw [starts, quote], less', taken⟩
      next => cases read
  · rintro ⟨tail, starts, read⟩
    exact stringValue_of starts read

theorem takes_memberName_iff {name : String} : Takes (memberName source) name rest ↔
    ∃ tail, skipBlanks source = 34 :: tail ∧ Takes (string tail) name rest := by
  constructor
  · rintro ⟨less, read⟩
    unfold memberName at read
    split at read
    next => cases read
    next octet tail starts =>
      split at read
      next quote =>
        obtain ⟨⟨text, rest, less'⟩, taken, same⟩ := bind_eq_ok.mp read
        cases same
        exact ⟨tail, by rw [starts, quote], less', taken⟩
      next => cases read
  · rintro ⟨tail, starts, read⟩
    exact memberName_of starts read

theorem Written.head {value : Octets} (written : Written value) :
    ∃ octet tail, value = octet :: tail ∧ isBlank octet = false := by
  have element : IsElement .list value := written
  obtain ⟨octet, tail, same, starts⟩ := element.head
  exact ⟨octet, tail, same, starts.1⟩

theorem Written.string {tail : Octets} (written : Written (34 :: tail)) :
    ∃ body, tail = body ++ [34] ∧ IsBody body := by
  generalize same : 34 :: tail = value at written
  cases written with
  | list => cases same
  | object => cases same
  | scalar isScalar =>
    cases isScalar with
    | null => cases same
    | true => cases same
    | false => cases same
    | string isBody =>
      cases same
      exact ⟨_, rfl, isBody⟩
    | number isNumber =>
      cases isNumber with
      | mk signs isWhole =>
        rcases signs with rfl | rfl
        · cases isWhole with
          | zero => cases same
          | digits digit =>
            cases same
            cases digit
        · cases same

/-- A string is wanted where a value stands: it is taken if and only if the value says a text. -/
theorem takes_stringValue {before value : Octets} {text : String} (blank : Blanks before)
    (written : Written value) : Takes (stringValue (before ++ (value ++ behind))) text rest ↔
      Says value text ∧ rest = behind := by
  obtain ⟨octet, tail, rfl, visible⟩ := written.head
  rw [takes_stringValue_iff, List.cons_append, skipBlanks_append blank visible]
  constructor
  · rintro ⟨_, same, read⟩
    obtain ⟨rfl, rfl⟩ := List.cons.inj same
    obtain ⟨body, rfl, isBody⟩ := written.string
    obtain ⟨body', whole, spells⟩ := string_iff.mp read
    rw [List.append_assoc, List.singleton_append] at whole
    obtain ⟨rfl, rfl⟩ := isBody.unique spells.isBody whole
    exact ⟨⟨body, rfl, spells⟩, rfl⟩
  · rintro ⟨⟨body, same, spells⟩, rfl⟩
    obtain ⟨rfl, rfl⟩ := List.cons.inj same
    exact ⟨_, rfl, string_iff.mpr ⟨body, by simp, spells⟩⟩

theorem Says.unique {value : Octets} {text text' : String} (states : Says value text)
    (states' : Says value text') : text = text' := by
  obtain ⟨body, rfl, spells⟩ := states
  obtain ⟨body', same, spells'⟩ := states'
  obtain rfl := List.append_cancel_right (List.cons.inj same).2
  have read : Takes (string (body ++ [34])) text [] := string_iff.mpr ⟨body, rfl, spells⟩
  exact (read.unique (string_iff.mpr ⟨body, rfl, spells'⟩)).1

/-! ## Members -/

variable {known : List String} {got fields : List (String × String)} {first : Bool}

/-- What the reader of members does next: the object closes, or a member stands here. One
that is asked for and not there yet has to be a string, and any other is passed over. -/
theorem leaves_knownMembers_iff : Leaves (knownMembers known got first source) fields last ↔
    (Leaves (separator .object first source) false last ∧ fields = got) ∨
    ∃ opened name named tail valued, Leaves (separator .object first source) true opened ∧
      Takes (memberName opened) name named ∧ Passes (colon named) tail ∧
      ((name ∈ known ∧ field? got name = none ∧ ∃ text, Takes (stringValue tail) text valued ∧
          Leaves (knownMembers known (got ++ [(name, text)]) false valued) fields last) ∨
        (name ∉ known ∧ Passes (skipValue tail) valued ∧
          Leaves (knownMembers known got false valued) fields last)) := by
  constructor
  · rintro ⟨_, read⟩
    rw [knownMembers] at read
    obtain ⟨⟨more, opened, bound⟩, comes, read⟩ := bind_eq_ok.mp read
    cases more with
    | false =>
      cases read
      exact .inl ⟨⟨_, comes⟩, rfl⟩
    | true =>
      obtain ⟨⟨name, named, less⟩, key, read⟩ := bind_eq_ok.mp read
      dsimp only at read
      split at read
      next wanted =>
        split at read
        next => cases read
        next fresh =>
          obtain ⟨⟨tail, less'⟩, sign, read⟩ := bind_eq_ok.mp read
          obtain ⟨⟨text, valued, less''⟩, value, read⟩ := bind_eq_ok.mp read
          obtain ⟨⟨fields, last, bound'⟩, others, same⟩ := bind_eq_ok.mp read
          cases same
          exact .inr ⟨opened, name, named, tail, valued, ⟨bound, comes⟩, ⟨less, key⟩, ⟨less', sign⟩,
            .inl ⟨wanted, by simpa using fresh, text, ⟨less'', value⟩, bound', others⟩⟩
      next unknown =>
        obtain ⟨⟨tail, less'⟩, sign, read⟩ := bind_eq_ok.mp read
        obtain ⟨⟨valued, less''⟩, value, read⟩ := bind_eq_ok.mp read
        obtain ⟨⟨fields, last, bound'⟩, others, same⟩ := bind_eq_ok.mp read
        cases same
        exact .inr ⟨opened, name, named, tail, valued, ⟨bound, comes⟩, ⟨less, key⟩, ⟨less', sign⟩,
          .inr ⟨unknown, ⟨less'', value⟩, bound', others⟩⟩
  · rintro (⟨⟨_, comes⟩, rfl⟩ | ⟨opened, name, named, tail, valued, comes, key, sign,
      ⟨wanted, fresh, text, value, others⟩ | ⟨unknown, value, others⟩⟩)
    · rw [knownMembers, comes]
      exact Leaves.ok _ _
    · exact knownMembers_known wanted fresh comes key (passes_colon_iff.mp sign) value others
    · obtain ⟨_, comes⟩ := comes
      obtain ⟨_, key⟩ := key
      obtain ⟨_, sign⟩ := sign
      obtain ⟨_, value⟩ := value
      obtain ⟨_, others⟩ := others
      rw [knownMembers, comes]
      simp only [bind, Except.bind, if_true]
      rw [key]
      simp only [unknown, if_false]
      rw [sign]
      simp only []
      rw [value]
      simp only []
      rw [others]
      exact Leaves.ok fields _

theorem leaves_knownMembers_member {name : String} {value text : Octets}
    (isNamed : IsNamed (name, value) text) (stops : Stops behind)
    (comes : Leaves (separator .object first source) true (text ++ behind)) :
    Leaves (knownMembers known got first source) fields last ↔
      (name ∈ known ∧ field? got name = none ∧ ∃ said, Says value said ∧
        Leaves (knownMembers known (got ++ [(name, said)]) false behind) fields last) ∨
      (name ∉ known ∧ Leaves (knownMembers known got false behind) fields last) := by
  cases isNamed with
  | @mk _ body _ _ spells written isMember =>
    cases isMember with
    | @mk _ _ before after blank blank' =>
      have key : Takes (memberName (34 :: (body ++ 34 :: (before ++ 58 :: (after ++ value))) ++ behind)) name
          (before ++ 58 :: (after ++ (value ++ behind))) :=
        memberName_of (skipBlanks_visible rfl _) (string_iff.mpr ⟨body, by simp, spells⟩)
      have sign : Passes (colon (before ++ 58 :: (after ++ (value ++ behind))))
          (after ++ (value ++ behind)) :=
        passes_colon_iff.mpr (skipBlanks_append blank rfl)
      have skipped : Passes (skipValue (after ++ (value ++ behind))) behind :=
        passes_skipValue written blank' stops
      rw [leaves_knownMembers_iff]
      constructor
      · rintro (⟨closed, _⟩ | ⟨opened, name', named, tail, valued, comes', key', sign', member⟩)
        · cases (comes.unique closed).1
        · obtain ⟨_, rfl⟩ := comes.unique comes'
          obtain ⟨rfl, rfl⟩ := key.unique key'
          obtain rfl := sign.unique sign'
          rcases member with ⟨wanted, fresh, said, value', others⟩ | ⟨unknown, value', others⟩
          · obtain ⟨states, rfl⟩ := (takes_stringValue blank' written).mp value'
            exact .inl ⟨wanted, fresh, said, states, others⟩
          · obtain rfl := skipped.unique value'
            exact .inr ⟨unknown, others⟩
      · rintro (⟨wanted, fresh, said, states, others⟩ | ⟨unknown, others⟩)
        · exact .inr ⟨_, _, _, _, _, comes, key, sign,
            .inl ⟨wanted, fresh, said, (takes_stringValue blank' written).mpr ⟨states, rfl⟩, others⟩⟩
        · exact .inr ⟨_, _, _, _, _, comes, key, sign, .inr ⟨unknown, skipped, others⟩⟩

theorem leaves_knownMembers_closed (starts : skipBlanks source = 125 :: rest) :
    Leaves (knownMembers known got first source) fields last ↔ fields = got ∧ last = rest := by
  constructor
  · exact fun leaves => leaves.unique (knownMembers_close starts)
  · rintro ⟨rfl, rfl⟩
    exact knownMembers_close starts

variable {members : List (String × Octets)} {inside : Octets}

theorem leaves_knownMembers_cons {name : String} {value text : Octets}
    (isNamed : IsNamed (name, value) text) (stops : Stops behind)
    (comes : Leaves (separator .object first source) true (text ++ behind))
    (others : ∀ got, Leaves (knownMembers known got false behind) fields last ↔
      Gathers known got members fields ∧ last = rest) :
    Leaves (knownMembers known got first source) fields last ↔
      Gathers known got ((name, value) :: members) fields ∧ last = rest := by
  rw [leaves_knownMembers_member isNamed stops comes]
  constructor
  · rintro (⟨wanted, fresh, said, states, read⟩ | ⟨unknown, read⟩)
    · obtain ⟨gathers, ends⟩ := (others _).mp read
      exact ⟨.known wanted fresh states gathers, ends⟩
    · obtain ⟨gathers, ends⟩ := (others _).mp read
      exact ⟨.other unknown gathers, ends⟩
  · rintro ⟨gathers, ends⟩
    cases gathers with
    | known wanted fresh states gathers =>
      exact .inl ⟨wanted, fresh, _, states, (others _).mpr ⟨gathers, ends⟩⟩
    | other unknown gathers => exact .inr ⟨unknown, (others _).mpr ⟨gathers, ends⟩⟩

theorem IsNamed.head {member : String × Octets} {text : Octets} (isNamed : IsNamed member text) :
    ∃ tail, text = 34 :: tail := by
  cases isNamed with
  | mk _ _ isMember =>
    cases isMember
    exact ⟨_, rfl⟩

theorem Spaced.head (spaced : Spaced IsNamed members inside) (some : members ≠ []) (rest : Octets) :
    ∃ tail, skipBlanks (inside ++ rest) = 34 :: tail := by
  obtain ⟨first, others, rfl⟩ := List.exists_cons_of_ne_nil some
  obtain ⟨before, text, behind, blank, isNamed, rfl, _⟩ := spaced.from_first
  obtain ⟨tail, rfl⟩ := isNamed.head
  rw [List.append_assoc, List.cons_append, List.cons_append]
  exact ⟨_, skipBlanks_append blank rfl⟩

/-- From a member on, the reader gathers what the members come to and ends behind the object. -/
theorem leaves_knownMembers_spaced (spaced : Spaced IsNamed members inside) (some : members ≠ [])
    (comes : Leaves (separator .object first source) true (skipBlanks (inside ++ 125 :: rest))) :
    Leaves (knownMembers known got first source) fields last ↔
      Gathers known got members fields ∧ last = rest := by
  -- Only the first member may follow the brace, so `first` and where it stands change with each.
  induction spaced generalizing first source got with
  | none => exact absurd rfl some
  | @one member _ _ after blank isNamed blank' =>
    obtain ⟨tail, rfl⟩ := isNamed.head
    rw [List.append_assoc, List.append_assoc, List.cons_append, skipBlanks_append blank rfl] at comes
    have closes : skipBlanks (after ++ 125 :: rest) = 125 :: rest := skipBlanks_append blank' rfl
    have stops := stops_of_starts closes (.inr ⟨.object, rfl⟩)
    refine leaves_knownMembers_cons isNamed stops comes fun got => ?_
    rw [leaves_knownMembers_closed closes]
    exact and_congr_left fun _ => ⟨fun same => same ▸ .nil, fun | .nil => rfl⟩
  | @more member next others _ _ after behind blank isNamed blank' spaced ih =>
    obtain ⟨tail, rfl⟩ := isNamed.head
    rw [List.append_assoc, List.append_assoc, List.append_assoc, List.cons_append, List.cons_append,
      skipBlanks_append blank rfl] at comes
    have comma : skipBlanks (after ++ 44 :: (behind ++ 125 :: rest)) = 44 :: (behind ++ 125 :: rest) :=
      skipBlanks_append blank' rfl
    refine leaves_knownMembers_cons isNamed (stops_of_starts comma (.inl rfl)) comes fun got => ?_
    refine ih (List.cons_ne_nil _ _) ?_
    obtain ⟨tail', starts⟩ := spaced.head (List.cons_ne_nil _ _) (125 :: rest)
    rw [starts]
    exact separator_comma comma starts (by decide)

theorem leaves_knownMembers_inside (spaced : Spaced IsNamed members inside) :
    Leaves (knownMembers known got true (inside ++ 125 :: rest)) fields last ↔
      Gathers known got members fields ∧ last = rest := by
  cases members with
  | nil =>
    cases spaced with
    | none blank =>
      rw [leaves_knownMembers_closed (skipBlanks_append blank rfl)]
      exact and_congr_left fun _ => ⟨fun same => same ▸ .nil, fun | .nil => rfl⟩
  | cons member members =>
    refine leaves_knownMembers_spaced spaced (List.cons_ne_nil _ _) ?_
    obtain ⟨tail, starts⟩ := spaced.head (List.cons_ne_nil _ _) (125 :: rest)
    rw [starts]
    exact separator_first starts (by decide)

/-! ## What is read is an object -/

theorem of_separator_close {frame : Frame} (closed : Leaves (separator frame first source) false rest) :
    skipBlanks source = frame.close :: rest := by
  obtain ⟨_, read⟩ := closed
  unfold separator at read
  split at read
  next => cases read
  next octet tail starts =>
    dsimp only at read
    split at read
    next close =>
      cases read
      rw [starts, close]
    split at read
    next => cases read
    split at read
    next =>
      split at read
      next => cases read
      split at read
      all_goals cases read
    next => cases read

theorem of_separator_more {frame : Frame} (comes : Leaves (separator frame first source) true rest) :
    (first = true ∧ skipBlanks source = rest) ∨
      (first = false ∧ ∃ tail, skipBlanks source = 44 :: tail ∧ skipBlanks tail = rest) := by
  obtain ⟨_, read⟩ := comes
  unfold separator at read
  split at read
  next => cases read
  next octet tail starts =>
    dsimp only at read
    split at read
    next => cases read
    split at read
    next isFirst =>
      cases read
      exact .inl ⟨isFirst, starts⟩
    next notFirst =>
      split at read
      next comma =>
        split at read
        next => cases read
        next starts' =>
          split at read
          next => cases read
          next =>
            cases read
            exact .inr ⟨by simpa using notFirst, tail, by rw [starts, comma], starts'⟩
      next => cases read

theorem exists_member (goesOn : List (String × String) → Prop) {name : String}
    {opened named tail valued : Octets} (key : Takes (memberName opened) name named)
    (sign : Passes (colon named) tail)
    (member : (name ∈ known ∧ field? got name = none ∧ ∃ text, Takes (stringValue tail) text valued ∧
        goesOn (got ++ [(name, text)])) ∨ (name ∉ known ∧ Passes (skipValue tail) valued ∧ goesOn got)) :
    ∃ before value text got', opened = before ++ (text ++ valued) ∧ Blanks before ∧
      IsNamed (name, value) text ∧ goesOn got' ∧ ∀ members fields,
        Gathers known got' members fields → Gathers known got ((name, value) :: members) fields := by
  obtain ⟨_, opens, read⟩ := takes_memberName_iff.mp key
  obtain ⟨body, rfl, spells⟩ := string_iff.mp read
  obtain ⟨before, blank, rfl⟩ := of_skipBlanks opens
  obtain ⟨before', blank', rfl⟩ := of_skipBlanks (passes_colon_iff.mp sign)
  rcases member with ⟨wanted, fresh, text, value, others⟩ | ⟨unknown, skipped, others⟩
  · obtain ⟨_, opens', read'⟩ := takes_stringValue_iff.mp value
    obtain ⟨body', rfl, states⟩ := string_iff.mp read'
    obtain ⟨after, blank'', rfl⟩ := of_skipBlanks opens'
    exact ⟨before, 34 :: (body' ++ [34]), _, _, by simp, blank,
      .mk spells (.scalar (.string states.isBody)) (.mk blank' blank''), others,
      fun members fields => .known wanted fresh ⟨body', rfl, states⟩⟩
  · obtain ⟨after, value, rfl, blank'', written⟩ := of_skipValue skipped
    exact ⟨before, value, _, _, by simp, blank, .mk spells written (.mk blank' blank''), others,
      fun members fields => .other unknown⟩

/-- What was read up to the end of an object are its members. -/
theorem of_knownMembers (size : Nat) (short : source.length < size)
    (read : Leaves (knownMembers known got first source) fields last) : ∃ members after,
      source = after ++ 125 :: last ∧ Gathers known got members fields ∧
        (first = true → Spaced IsNamed members after) ∧ (first = false → Trails IsNamed members after) := by
  induction size generalizing source got first with
  | zero => exact absurd short (Nat.not_lt_zero _)
  | succ size ih =>
    rcases leaves_knownMembers_iff.mp read with
      ⟨closed, rfl⟩ | ⟨opened, name, named, tail, valued, comes, key, sign, member⟩
    · obtain ⟨before, blank, rfl⟩ := of_skipBlanks (of_separator_close closed)
      exact ⟨[], before, rfl, .nil, fun _ => .none blank, fun _ => .none blank⟩
    · obtain ⟨before, value, text, got', rfl, blank, isNamed, others, gathers⟩ := exists_member
        (fun got' => Leaves (knownMembers known got' false valued) fields last) key sign member
      obtain ⟨tail', rfl⟩ := isNamed.head
      have shorter : valued.length < size := by
        obtain ⟨bound, _⟩ := comes
        simp at bound
        omega
      obtain ⟨members, after, rfl, gathered, _, trails⟩ := ih shorter others
      have spaced := (trails rfl).spaced blank isNamed
      refine ⟨(name, value) :: members, ?_⟩
      rcases of_separator_more comes with ⟨rfl, starts⟩ | ⟨rfl, tail, comma, starts⟩
      · obtain ⟨blanks, blank', rfl⟩ := of_skipBlanks starts
        exact ⟨_, by simp, gathers _ _ gathered, fun _ => spaced.behind_blanks blank', nofun⟩
      · obtain ⟨blanks, blank', rfl⟩ := of_skipBlanks comma
        obtain ⟨blanks', blank'', rfl⟩ := of_skipBlanks starts
        exact ⟨blanks ++ 44 :: (blanks' ++ _), by simp, gathers _ _ gathered, nofun,
          fun _ => .more blank' (spaced.behind_blanks blank'')⟩

/-! ## What is gathered -/

theorem field?_append (got more : List (String × String)) (name : String) :
    field? (got ++ more) name = (field? got name).or (field? more name) := by
  rw [field?, field?, field?, List.find?_append, Option.map_or]

theorem field?_added (got : List (String × String)) (name text : String) :
    (field? (got ++ [(name, text)]) name).isSome := by
  rw [field?_append, Option.isSome_or]
  simp [field?]

variable {name text : String} {value : Octets}

theorem Gathers.kept (gathers : Gathers known got members fields) (there : field? got name = some text) :
    field? fields name = some text := by
  induction gathers with
  | nil => exact there
  | known _ _ _ _ ih => exact ih (by rw [field?_append, there]; rfl)
  | other _ _ ih => exact ih there

theorem Gathers.states (gathers : Gathers known got members fields) (wanted : name ∈ known)
    (here : (name, value) ∈ members) : ∃ text, Says value text ∧ field? fields name = some text := by
  induction gathers with
  | nil => cases here
  | @known got _ _ _ text _ _ fresh states others ih =>
    rcases List.mem_cons.mp here with same | later
    · cases same
      have added : field? (got ++ [(name, text)]) name = some text := by
        rw [field?_append, fresh]
        simp [field?]
      exact ⟨text, states, others.kept added⟩
    · exact ih later
  | other unknown _ ih =>
    rcases List.mem_cons.mp here with same | later
    · cases same
      exact absurd wanted unknown
    · exact ih later

theorem Gathers.absent (gathers : Gathers known got members fields) (fresh : field? got name = none)
    (absent : ∀ value, (name, value) ∉ members) : field? fields name = none := by
  induction gathers with
  | nil => exact fresh
  | @known _ _ _ name' _ value _ _ _ _ ih =>
    have other : name' ≠ name := fun same => absent value (same ▸ List.mem_cons_self)
    refine ih ?_ fun value here => absent value (List.mem_cons_of_mem _ here)
    rw [field?_append, fresh]
    simp [field?, other]
  | other _ _ ih => exact ih fresh fun value here => absent value (List.mem_cons_of_mem _ here)

/-- No member that is asked for stands twice, or stands where it is there already. -/
theorem Gathers.once (gathers : Gathers known got members fields) :
    ((members.map Prod.fst).filter (· ∈ known)).Nodup ∧
      ∀ name ∈ known, name ∈ members.map Prod.fst → field? got name = none := by
  induction gathers with
  | nil => exact ⟨.nil, nofun⟩
  | @known got _ members name text _ wanted fresh _ _ ih =>
    obtain ⟨once, later⟩ := ih
    have alone : name ∉ members.map Prod.fst := fun again => by
      have added := field?_added got name text
      rw [later name wanted again] at added
      cases added
    refine ⟨?_, fun other wanted' here => ?_⟩
    · rw [List.map_cons, List.filter_cons_of_pos (by simpa using wanted)]
      exact List.nodup_cons.mpr ⟨fun again => alone (List.mem_filter.mp again).1, once⟩
    · rcases List.mem_cons.mp here with rfl | here
      · exact fresh
      · have none := later other wanted' here
        rw [field?_append, Option.or_eq_none_iff] at none
        exact none.1
  | other unknown _ ih =>
    refine ⟨?_, fun other wanted here => ?_⟩
    · rw [List.map_cons, List.filter_cons_of_neg (by simpa using unknown)]
      exact ih.1
    · rcases List.mem_cons.mp here with rfl | here
      · exact absurd wanted unknown
      · exact ih.2 other wanted here

theorem exists_gathers (once : ((members.map Prod.fst).filter (· ∈ known)).Nodup)
    (fresh : ∀ name ∈ known, name ∈ members.map Prod.fst → field? got name = none)
    (states : ∀ name ∈ known, ∀ value, (name, value) ∈ members → ∃ text, Says value text) :
    ∃ fields, Gathers known got members fields := by
  induction members generalizing got with
  | nil => exact ⟨got, .nil⟩
  | cons member members ih =>
    obtain ⟨name, value⟩ := member
    have states' : ∀ name ∈ known, ∀ value, (name, value) ∈ members → ∃ text, Says value text :=
      fun name wanted value here => states name wanted value (List.mem_cons_of_mem _ here)
    by_cases wanted : name ∈ known
    · rw [List.map_cons, List.filter_cons_of_pos (by simpa using wanted)] at once
      obtain ⟨alone, once⟩ := List.nodup_cons.mp once
      obtain ⟨text, said⟩ := states name wanted value List.mem_cons_self
      have fresh' : ∀ other ∈ known, other ∈ members.map Prod.fst →
          field? (got ++ [(name, text)]) other = none := by
        intro other wanted' here
        have different : name ≠ other := by
          rintro rfl
          exact alone (List.mem_filter.mpr ⟨here, by simpa using wanted⟩)
        rw [field?_append, fresh other wanted' (List.mem_cons_of_mem _ here)]
        simp [field?, different]
      obtain ⟨fields, gathers⟩ := ih once fresh' states'
      exact ⟨fields, .known wanted (fresh name wanted List.mem_cons_self) said gathers⟩
    · rw [List.map_cons, List.filter_cons_of_neg (by simpa using wanted)] at once
      obtain ⟨fields, gathers⟩ :=
        ih once (fun other wanted' here => fresh other wanted' (List.mem_cons_of_mem _ here)) states'
      exact ⟨fields, .other wanted gathers⟩

end LoginGateway.Json
