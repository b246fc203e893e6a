import LoginGateway.Proofs.Cutting
import LoginGateway.Url.Parser
import Mathlib.Data.Bool.AllAny

/-! A host and port end where a path, a query or a fragment begins. So whatever is
written behind them, a URL leads to the same place. -/

namespace LoginGateway.Url

def isPlaceChar (char : Char) : Bool :=
  !isEdge char && !endsAuthority true char && char ≠ '@'

theorem isPlaceChar_spec {char : Char} (plain : isPlaceChar char = true) :
    isEdge char = false ∧ endsAuthority true char = false ∧ char ≠ '@' := by
  simpa only [isPlaceChar, Bool.and_eq_true, Bool.not_eq_true', decide_eq_true_eq, and_assoc]
    using plain

theorem isBreak_of_not_edge {char : Char} (inner : isEdge char = false) : isBreak char = false := by
  rw [isBreak, Bool.or_eq_false_iff, Bool.or_eq_false_iff]
  refine ⟨⟨?_, ?_⟩, ?_⟩
  all_goals
    refine decide_eq_false fun same => ?_
    rw [same] at inner
    exact absurd inner (by decide)

theorem not_edge_of_ends {char : Char} (ends : endsAuthority true char = true) :
    isEdge char = false := by
  simp only [endsAuthority, isSlash, Bool.true_and, Bool.or_eq_true, decide_eq_true_eq] at ends
  rcases ends with ((rfl | rfl) | rfl) | rfl <;> decide

/-- What may stand behind a host and port: nothing, or a text that begins like a path,
a query or a fragment. -/
def Follows (tail : List Char) : Prop :=
  ∀ first rest, tail = first :: rest → endsAuthority true first = true

theorem follows_nil : Follows [] := nofun

theorem follows_of_head {tail : List Char}
    (starts : tail.head? = some '/' ∨ tail.head? = some '?') : Follows tail := by
  rintro first rest rfl
  rcases starts with slash | question
  · cases slash
    rfl
  · cases question
    rfl

theorem follows_slash : Follows "/".toList := follows_of_head (.inl rfl)

section Tails

variable {path : List Char} {query fragment : Option (List Char)}

def behindPath (query fragment : Option (List Char)) : List Char :=
  tail '?' query ++ tail '#' fragment

theorem cut_written (plain : ∀ char ∈ path, char ≠ '#' ∧ char ≠ '?')
    (whole : ∀ text, query = some text → '#' ∉ text) :
    cut (path ++ behindPath query fragment) = ⟨path, query, fragment⟩ := by
  have noQuery : '?' ∉ path := fun inside => (plain '?' inside).2 rfl
  have front : '#' ∉ path ++ tail '?' query := by
    intro inside
    rcases List.mem_append.mp inside with before | after
    · exact (plain '#' before).1 rfl
    · cases query with
      | none => cases after
      | some text =>
        rcases List.mem_cons.mp after with sign | later
        · exact absurd sign (by decide)
        · exact whole text rfl later
  have first : cutFirst '#' (path ++ behindPath query fragment) =
      (path ++ tail '?' query, fragment) := by
    rw [behindPath, ← List.append_assoc]
    cases fragment with
    | none =>
      rw [tail, List.append_nil]
      exact cutFirst_of_not_mem front
    | some text => exact cutFirst_append front text
  have second : cutFirst '?' (path ++ tail '?' query) = (path, query) := by
    cases query with
    | none =>
      rw [tail, List.append_nil]
      exact cutFirst_of_not_mem noQuery
    | some text => exact cutFirst_append noQuery text
  simp only [cut, first, second]

theorem cut_tail (plain : ∀ char ∈ path, char ≠ '#' ∧ char ≠ '?')
    (whole : ∀ text, query = some text → '#' ∉ text) :
    cut (path ++ tail '?' query) = ⟨path, query, none⟩ := by
  have written : cut (path ++ behindPath query none) = ⟨path, query, none⟩ := cut_written plain whole
  rwa [behindPath, tail, List.append_nil] at written

theorem begins_behindPath {first : Char} {rest : List Char}
    (begins : behindPath query fragment = first :: rest) : first = '?' ∨ first = '#' := by
  cases query with
  | some text =>
    cases begins
    exact .inl rfl
  | none =>
    cases fragment with
    | some text =>
      cases begins
      exact .inr rfl
    | none => cases begins

end Tails

variable {place tail : List Char}

section Stops

variable {stops : Char → Bool}

theorem takeWhile_until (inner : ∀ char ∈ place, stops char = false)
    (follows : ∀ first rest, tail = first :: rest → stops first = true) :
    (place ++ tail).takeWhile (!stops ·) = place := by
  rw [List.takeWhile_append_of_pos fun char inside => by rw [inner char inside]; rfl]
  cases tail with
  | nil => rw [List.takeWhile_nil, List.append_nil]
  | cons first rest =>
    rw [List.takeWhile_cons_of_neg (by rw [follows first rest rfl]; decide), List.append_nil]

theorem dropWhile_until (inner : ∀ char ∈ place, stops char = false)
    (follows : ∀ first rest, tail = first :: rest → stops first = true) :
    (place ++ tail).dropWhile (!stops ·) = tail := by
  rw [List.dropWhile_append_of_pos fun char inside => by rw [inner char inside]; rfl]
  cases tail with
  | nil => rfl
  | cons first rest => rw [List.dropWhile_cons_of_neg (by rw [follows first rest rfl]; decide)]

end Stops

theorem takeWhile_place (plain : ∀ char ∈ place, isPlaceChar char = true) (follows : Follows tail) :
    (place ++ tail).takeWhile (!endsAuthority true ·) = place :=
  takeWhile_until (fun char inside => (isPlaceChar_spec (plain char inside)).2.1) follows

theorem dropWhile_place (plain : ∀ char ∈ place, isPlaceChar char = true) (follows : Follows tail) :
    (place ++ tail).dropWhile (!endsAuthority true ·) = tail :=
  dropWhile_until (fun char inside => (isPlaceChar_spec (plain char inside)).2.1) follows

theorem dropWhile_inner {text : List Char}
    (inner : ∀ first rest, text = first :: rest → isEdge first = false) :
    text.dropWhile isEdge = text := by
  cases text with
  | nil => rfl
  | cons first rest => rw [List.dropWhile_cons_of_neg (by rw [inner first rest rfl]; decide)]

/-- What cleaning leaves of a text that has something in front of it. -/
def cleanEnd (text : List Char) : List Char :=
  (text.reverse.dropWhile isEdge).reverse.filter (!isBreak ·)

theorem filter_inner {text : List Char} (inner : ∀ char ∈ text, isEdge char = false) :
    text.filter (!isBreak ·) = text :=
  List.filter_eq_self.mpr fun char inside => by rw [isBreak_of_not_edge (inner char inside)]; rfl

theorem cleanEnd_append {front : List Char} (inner : ∀ char ∈ front, isEdge char = false)
    (tail : List Char) : cleanEnd (front ++ tail) = front ++ cleanEnd tail := by
  have kept := filter_inner inner
  rw [cleanEnd, List.reverse_append, List.dropWhile_append]
  split
  next empty =>
    have ends : front.reverse.dropWhile isEdge = front.reverse :=
      dropWhile_inner fun first rest same =>
        inner first (List.mem_reverse.mp (by rw [same]; exact List.mem_cons_self))
    rw [cleanEnd, List.isEmpty_iff.mp empty, ends, List.reverse_reverse, kept, List.reverse_nil,
      List.filter_nil, List.append_nil]
  next => rw [List.reverse_append, List.reverse_reverse, List.filter_append, kept, cleanEnd]

/-- Cleaning a text touches nothing that can stand at its front. -/
theorem clean_append {front : List Char} (inner : ∀ char ∈ front, isEdge char = false)
    (some : front ≠ []) (tail : List Char) : clean (front ++ tail) = front ++ cleanEnd tail := by
  obtain ⟨first, rest, rfl⟩ := List.exists_cons_of_ne_nil some
  rw [clean, List.cons_append, List.dropWhile_cons_of_neg
    (by rw [inner first List.mem_cons_self]; decide)]
  exact cleanEnd_append inner tail

theorem cleanEnd_front (text : List Char) : cleanEnd text <+: text.filter (!isBreak ·) := by
  have first : (text.reverse.dropWhile isEdge).reverse <+: text := by
    rw [← List.reverse_suffix, List.reverse_reverse]
    exact List.dropWhile_suffix isEdge
  exact first.filter _

theorem cleanEnd_inner {text : List Char} (inner : ∀ char ∈ text, isEdge char = false) :
    cleanEnd text = text := by
  have nothing : cleanEnd [] = [] := rfl
  have whole := cleanEnd_append inner []
  rwa [nothing, List.append_nil] at whole

theorem follows_cleanEnd (follows : Follows tail) : Follows (cleanEnd tail) := by
  cases tail with
  | nil => exact follows_nil
  | cons first rest =>
    have ends := follows first rest rfl
    have inner : ∀ char ∈ [first], isEdge char = false := by
      simpa using not_edge_of_ends ends
    have whole := cleanEnd_append inner rest
    rw [List.singleton_append] at whole
    intro other others same
    rw [whole] at same
    cases same
    exact ends

def IsWeb (scheme : List Char) : Prop := scheme = "http".toList ∨ scheme = "https".toList

theorem splitScheme?_web {scheme : List Char} (web : IsWeb scheme) (rest : List Char) :
    splitScheme? (scheme ++ ':' :: rest) = some (scheme, rest) := by
  rcases web with rfl | rfl
  · rfl
  · rfl

theorem isSpecial_web {scheme : List Char} (web : IsWeb scheme) :
    isSpecial scheme = true ∧ scheme ≠ "file".toList ∧ ∀ char ∈ scheme, isEdge char = false := by
  have named : isSpecial scheme = true ∧ scheme ≠ "file".toList ∧ scheme.all (!isEdge ·) = true := by
    rcases web with rfl | rfl <;> decide
  obtain ⟨special, notFile, inner⟩ := named
  refine ⟨special, notFile, fun char inside => ?_⟩
  simpa only [Bool.not_eq_true'] using List.all_eq_true.mp inner char inside

theorem dropWhile_slashes (plain : ∀ char ∈ place, isPlaceChar char = true) (some : place ≠ [])
    (tail : List Char) : (place ++ tail).dropWhile (isSlash true) = place ++ tail := by
  obtain ⟨first, rest, rfl⟩ := List.exists_cons_of_ne_nil some
  have inner := (isPlaceChar_spec (plain first List.mem_cons_self)).2.1
  have different : isSlash true first = false := by
    simp only [endsAuthority, Bool.or_eq_false_iff] at inner
    exact inner.1.1
  rw [List.cons_append, List.dropWhile_cons_of_neg (by rw [different]; decide)]

/-- A web address is read from what follows its slashes. -/
theorem parse_web {scheme : List Char} (web : IsWeb scheme) (rest : List Char) :
    parse (scheme ++ ':' :: '/' :: '/' :: rest) =
      readAuthority scheme ((cleanEnd rest).dropWhile (isSlash true)) := by
  obtain ⟨special, notFile, inner⟩ := isSpecial_web web
  have cleaned : clean (scheme ++ ':' :: '/' :: '/' :: rest) =
      scheme ++ ':' :: '/' :: '/' :: cleanEnd rest := by
    have front : ∀ char ∈ scheme ++ [':', '/', '/'], isEdge char = false :=
      List.forall_mem_append.mpr ⟨inner, List.all_iff_forall_prop.mp (by decide)⟩
    have whole := clean_append front (by simp) rest
    simpa only [List.append_assoc, List.cons_append, List.nil_append] using whole
  rw [parse, cleaned, splitScheme?_web web]
  simp only [if_neg notFile, special, if_true]
  rw [List.dropWhile_cons_of_pos (by decide), List.dropWhile_cons_of_pos (by decide)]

theorem cutLast_place (plain : ∀ char ∈ place, isPlaceChar char = true) :
    cutLast '@' place = (none, place) := by
  have absent : '@' ∉ place.reverse := fun inside =>
    (isPlaceChar_spec (plain '@' (List.mem_reverse.mp inside))).2.2 rfl
  rw [cutLast, cutFirst_of_not_mem absent]

theorem mem_of_mem_cutPort {inside : Bool} {text : List Char} :
    ∀ char ∈ (cutPort inside text).2.getD [], char ∈ text := by
  induction text generalizing inside with
  | nil => exact fun char among => among
  | cons first rest ih =>
    intro char among
    rw [cutPort] at among
    split at among
    · exact List.mem_cons_of_mem first among
    · exact List.mem_cons_of_mem first (ih char among)

theorem rest_of_readPort {scheme digits rest : List Char} {port : Option Nat}
    (plain : ∀ char ∈ digits, isPlaceChar char = true)
    (read : readPort scheme digits = .ok (port, rest)) : rest = [] := by
  simp only [readPort] at read
  split at read
  next => cases read
  next number _ =>
    split at read
    next => cases read
    next fits =>
      obtain ⟨_, same⟩ := Prod.mk.inj (Except.ok.inj read)
      refine Decidable.byContradiction fun some => ?_
      rw [same] at fits
      refine fits (.inr ⟨some, fun slash => ?_⟩)
      have among : '\\' ∈ digits := by
        have inside := List.mem_of_head? slash
        rw [← same] at inside
        exact (List.dropWhile_suffix _).subset inside
      exact absurd (plain _ among) (by decide)

def readServer (scheme place : List Char) : Except Fault (Host × Option Nat) := do
  let (hostText, portText) := cutPort false place
  if hostText = [] then .error .emptyHost
  let host ← readHost true hostText
  if host = .empty ∧ portText.isSome then .error .emptyHost
  let (port, _) ← readPort scheme (portText.getD [])
  .ok (host, port)

theorem fragment_of_cut {text : List Char} (absent : '#' ∉ text) : (cut text).fragment = none := by
  rw [cut, cutFirst_of_not_mem absent]

def behind (scheme tail : List Char) (server : Host × Option Nat) : Url where
  scheme := scheme
  username := []
  password := []
  host := some server.1
  port := server.2
  path := readPath true (cut tail).path
  query := readQuery true (cut tail).query
  fragment := readFragment (cut tail).fragment

theorem readAuthority_place {scheme : List Char} (special : isSpecial scheme = true)
    (plain : ∀ char ∈ place, isPlaceChar char = true) (follows : Follows tail) :
    readAuthority scheme (place ++ tail) = (readServer scheme place).map (behind scheme tail) := by
  simp only [readAuthority, readServer, special, takeWhile_place plain follows,
    dropWhile_place plain follows, cutLast_place plain, bind, Except.bind]
  rw [if_neg (by rintro ⟨impossible, _⟩; cases impossible)]
  simp only [true_and]
  split
  next => rfl
  next =>
    cases readHost true (cutPort false place).1 with
    | error fault => rfl
    | ok host =>
      simp only []
      split
      next => rfl
      next =>
        cases read : readPort scheme ((cutPort false place).2.getD []) with
        | error fault => rfl
        | ok found =>
          obtain ⟨port, rest⟩ := found
          have rest := rest_of_readPort
            (fun char inside => plain char (mem_of_mem_cutPort char inside)) read
          subst rest
          simp only []
          rw [if_neg]
          · rfl
          · rintro ⟨_, name | password⟩
            · exact name rfl
            · exact password rfl

/-- A web address leads to the server that its host and port stand for, whatever is
written behind them. -/
theorem parse_place {scheme : List Char} (web : IsWeb scheme)
    (plain : ∀ char ∈ place, isPlaceChar char = true) (some : place ≠ []) (follows : Follows tail) :
    parse (scheme ++ ':' :: '/' :: '/' :: (place ++ tail)) =
      (readServer scheme place).map (behind scheme (cleanEnd tail)) := by
  rw [parse_web web, cleanEnd_append fun char inside => (isPlaceChar_spec (plain char inside)).1,
    dropWhile_slashes plain some]
  exact readAuthority_place (isSpecial_web web).1 plain (follows_cleanEnd follows)

/-- Two URLs that lead to one server. -/
structure SamePlace (url other : Url) : Prop where
  scheme : url.scheme = other.scheme
  host : url.host = other.host
  port : url.port = other.port

end LoginGateway.Url
