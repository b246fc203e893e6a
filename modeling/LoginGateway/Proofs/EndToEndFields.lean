import LoginGateway.Proofs.DomainNames
import LoginGateway.Proofs.RelayedFields

/-! What is left of the fields of a message behind the connection it came on: those, and
only those, whose name is not for one connection, each as often and in the order in which
it came. Which names are listed is all that counts of the `connection` fields. -/

namespace LoginGateway

namespace Headers

variable {fields : List (String × Octets)} {headers : Headers} {name : String}

def joined (elements : List (List Char)) : Octets := Utf8.encode (elements.intersperse [',']).flatten

/-- An element names a field, in any case and with blanks around the name. -/
def Names (element : List Char) (name : String) : Prop :=
  ∃ front text back : List Char, element = front ++ text ++ back ∧
    (∀ char ∈ front ++ back, char = ' ' ∨ char = '\t') ∧ name? text = some name

theorem token_of_keep? (arrived : keep? fields = some headers) {field : String × Octets}
    (inside : field ∈ headers) : ∃ text, name? text = some field.1 := by
  obtain ⟨written, _, same⟩ := (Domain.mem_of_mapM arrived).2 field inside
  obtain ⟨name, named, rfl⟩ := Option.map_eq_some_iff.mp same
  exact ⟨_, named⟩

theorem endToEnd_eq_filter [DecidablePred (IsLocal fields)] (arrived : keep? fields = some headers)
    (visible : ∀ value ∈ headers.values "connection", isVisible value = true) :
    headers.endToEnd = headers.filter fun field => ¬ IsLocal fields field.1 := by
  apply List.filter_congr
  intro field inside
  obtain ⟨text, token⟩ := token_of_keep? arrived inside
  rw [Bool.eq_iff_iff, decide_eq_true_eq, isLocal_iff arrived visible token]
  simp [not_or]

def listedIn (value : Octets) : List String :=
  ((visible? value).toList.flatMap (pieces ',')).filterMap fun element =>
    name? (trimWhile isBlankChar element)

theorem listed_eq (headers : Headers) : headers.listed = (headers.values "connection").flatMap listedIn := by
  rw [listed]
  induction headers.values "connection" with
  | nil => rfl
  | cons value values ih =>
    rw [List.flatMap_cons, ← ih, List.filterMap_cons, listedIn]
    cases visible? value <;> simp

theorem listedIn_joined {elements : List (List Char)}
    (plain : ∀ element ∈ elements, ∀ char ∈ element, IsVisibleChar char ∧ char ≠ ',') :
    listedIn (joined elements) = elements.filterMap fun element => name? (trimWhile isBlankChar element) := by
  cases elements with
  | nil => decide
  | cons first others =>
    have shown : ∀ char ∈ ((first :: others).intersperse [',']).flatten, IsVisibleChar char := by
      intro char inside
      rcases mem_of_mem_intersperse inside with rfl | ⟨element, among, here⟩
      · exact .inr (by decide)
      · exact (plain element among char here).1
    obtain ⟨text, read, octets, _⟩ := visible?_of_isVisible (isVisible_encode shown)
    have cut := pieces_intersperse (List.cons_ne_nil first others)
      fun element among comma => (plain element among ',' comma).2 rfl
    rw [listedIn, joined, read, Utf8.encode_injective octets]
    simp [cut]

theorem visible_of_joined {elements : List (List Char)} (shown : isVisible (joined elements) = true)
    (apart : ∀ element ∈ elements, ∀ char ∈ element, char ≠ ',') :
    ∀ element ∈ elements, ∀ char ∈ element, IsVisibleChar char ∧ char ≠ ',' := by
  intro element among char inside
  obtain ⟨text, _, octets, visible⟩ := visible?_of_isVisible shown
  have cut := pieces_intersperse (List.ne_nil_of_mem among)
    fun element among comma => apart element among ',' comma rfl
  refine ⟨visible char ?_, apart element among char inside⟩
  rw [Utf8.encode_injective octets]
  exact (mem_pieces (cut.symm ▸ among)).2 char inside

theorem nameless_iff {element : List Char} (shown : ∀ char ∈ element, IsVisibleChar char) :
    (∀ name, ¬ Names element name) ↔ name? (trimWhile isBlankChar element) = none := by
  constructor
  · intro nameless
    by_contra named
    obtain ⟨name, named⟩ := Option.ne_none_iff_exists'.mp named
    obtain ⟨front, back, whole, blank⟩ := exists_trimWhile isBlankChar element
    refine nameless name ⟨front, _, back, whole, ?_, named⟩
    intro char around
    refine blank_of_visible (shown char ?_) (blank char around)
    rw [whole]
    rcases List.mem_append.mp around with here | here <;> simp [here]
  · rintro none name ⟨front, text, back, rfl, blank, named⟩
    have around : ∀ char ∈ front ++ back, isBlankChar char = true := by
      intro char here
      rcases blank char here with rfl | rfl <;> decide
    rw [trimWhile_between, named] at none
    · cases none
    · exact fun char here => around char (List.mem_append_left back here)
    · exact fun char here => (inner_of_isNameChar ((name?_eq_some_iff.mp named).2.1 char here)).2
    · exact fun char here => around char (List.mem_append_right front here)

/-- An element that names no field may as well be left out. -/
theorem endToEnd_of_nameless (before after : Headers) (left right : List (List Char)) {element : List Char}
    (plain : ∀ other ∈ left ++ element :: right, ∀ char ∈ other, IsVisibleChar char ∧ char ≠ ',')
    (nameless : ∀ name, ¬ Names element name) :
    endToEnd (before ++ ("connection", joined (left ++ element :: right)) :: after) =
      endToEnd (before ++ ("connection", joined (left ++ right)) :: after) := by
  have fewer : ∀ other ∈ left ++ right, ∀ char ∈ other, IsVisibleChar char ∧ char ≠ ',' := by
    intro other among
    apply plain
    rcases List.mem_append.mp among with here | here <;> simp [here]
  have none := (nameless_iff fun char inside => (plain element (by simp) char inside).1).mp nameless
  have same : listedIn (joined (left ++ element :: right)) = listedIn (joined (left ++ right)) := by
    rw [listedIn_joined plain, listedIn_joined fewer, List.filterMap_append, List.filterMap_append,
      List.filterMap_cons, none]
  have listed : Headers.listed (before ++ ("connection", joined (left ++ element :: right)) :: after) =
      Headers.listed (before ++ ("connection", joined (left ++ right)) :: after) := by
    simp [listed_eq, Headers.values, List.filter_append, same]
  have dropped : ("connection" : String) ∈ connectionFields := by decide
  rw [endToEnd, endToEnd, listed, List.filter_append, List.filter_append,
    List.filter_cons_of_neg (by simp [dropped]), List.filter_cons_of_neg (by simp [dropped])]

theorem endToEnd_endToEnd (headers : Headers) : headers.endToEnd.endToEnd = headers.endToEnd := by
  have free : headers.endToEnd.listed = [] := by
    rw [listed_eq, values_endToEnd_dropped (.inl (by decide))]
    rfl
  rw [endToEnd, free]
  apply List.filter_eq_self.mpr
  intro field inside
  have kept := (List.mem_filter.mp inside).2
  simp only [Bool.and_eq_true] at kept
  simpa using kept.1

/-- Of the fields that came on a connection those are left, and no others, whose name is
neither for one connection nor named in a `connection` field; under each name all values are,
in their order. An element that is not the name of a field has no part in this, and what is
left is left as it is when it is looked at again. -/
theorem fields_left [DecidablePred (IsLocal fields)] (arrived : keep? fields = some headers)
    (visible : ∀ value ∈ valuesOf fields "connection", isVisible value = true) :
    headers.endToEnd = headers.filter (fun field => ¬ IsLocal fields field.1) ∧
    (∀ name, headers.endToEnd.values name = if IsLocal fields name then [] else valuesOf fields name) ∧
    (∀ before after left element right,
      headers = before ++ ("connection", joined (left ++ element :: right)) :: after →
      (∀ other ∈ left ++ element :: right, ∀ char ∈ other, char ≠ ',') →
      (∀ name, ¬ Names element name) →
      headers.endToEnd = endToEnd (before ++ ("connection", joined (left ++ right)) :: after)) ∧
    headers.endToEnd.endToEnd = headers.endToEnd := by
  rw [← values_of_keep? arrived] at visible
  refine ⟨endToEnd_eq_filter arrived visible, ?_, ?_, endToEnd_endToEnd headers⟩
  · intro name
    split
    next inner => exact values_of_local arrived visible inner
    next passes => exact values_of_not_local arrived visible passes
  · rintro before after left element right rfl apart nameless
    have shown : isVisible (joined (left ++ element :: right)) = true :=
      visible _ (by simp [Headers.values])
    exact endToEnd_of_nameless before after left right (visible_of_joined shown apart) nameless

end Headers

namespace OneRoute
open Headers

def listing : List (List Char) := [" close".toList, "@x ".toList, "\tX-Trace ".toList]

def listingFields : List (String × Octets) :=
  [("Connection", joined listing), ("X-TRACE", octets "1"), ("Set-Cookie", octets "a=1"),
    ("TE", octets "trailers"), ("set-cookie", octets "b=2")]

def listingHeaders : Headers := (keep? listingFields).getD []

theorem arrived_listing : keep? listingFields = some listingHeaders := by
  decide +kernel

theorem visible_listing : ∀ value ∈ valuesOf listingFields "connection", isVisible value = true := by
  decide +kernel

theorem nameless_sign (name : String) : ¬ Names "@x ".toList name := by
  have shown : ∀ char ∈ "@x ".toList, char = '\t' ∨ 0x20 ≤ char.toNat ∧ char.toNat < 0x7F := by
    intro char inside
    have inside : char ∈ ['@', 'x', ' '] := inside
    simp only [List.mem_cons, List.not_mem_nil, or_false] at inside
    rcases inside with rfl | rfl | rfl <;> decide
  exact (nameless_iff shown).mpr (by decide) name

theorem fields_left_of_listing :
    keep? listingFields = some listingHeaders ∧
      (∀ value ∈ valuesOf listingFields "connection", isVisible value = true) ∧
      listingHeaders.endToEnd.values "x-trace" = [] ∧
      listingHeaders.endToEnd.values "set-cookie" = [octets "a=1", octets "b=2"] ∧
      listingHeaders.endToEnd = endToEnd
        (("connection", joined [" close".toList, "\tX-Trace ".toList]) :: listingHeaders.tail) ∧
      listingHeaders.endToEnd.endToEnd = listingHeaders.endToEnd := by
  have decidable : DecidablePred (IsLocal listingFields) := Classical.decPred _
  obtain ⟨_, values, without, again⟩ := fields_left arrived_listing visible_listing
  have isLocal {name : String} (token : name? name.toList = some name) :
      IsLocal listingFields name ↔ name ∈ connectionFields ∨ name ∈ listingHeaders.listed := by
    refine isLocal_iff arrived_listing ?_ token
    rw [values_of_keep? arrived_listing]
    exact visible_listing
  refine ⟨arrived_listing, visible_listing, ?_, ?_, ?_, again⟩
  · rw [values, if_pos ((isLocal (by decide)).mpr (by decide +kernel))]
  · rw [values, if_neg ((isLocal (by decide)).not.mpr (by decide +kernel))]
    decide +kernel
  · refine without [] _ [" close".toList] "@x ".toList ["\tX-Trace ".toList] ?_ ?_ nameless_sign
    · decide +kernel
    · have noComma : ∀ other ∈ [" close".toList, "@x ".toList, "\tX-Trace ".toList], ',' ∉ other := by decide
      exact fun other inside char here comma => noComma other inside (comma ▸ here)

end OneRoute

end LoginGateway
