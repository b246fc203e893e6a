import LoginGateway.Proofs.RecognizedStates
import LoginGateway.Proofs.RouteTables

/-! Routes without a name. Behind a standard port a name that is empty or of blanks alone
names no host, and no table is made. Behind every other port the host still has the port to
its name, so that no route is refused for want of one. -/

namespace LoginGateway

/-- A route whose name is empty or of blanks alone. -/
def RouteSettings.IsBlank (setting : RouteSettings) : Prop :=
  ∀ char ∈ setting.source.toList, isBlankChar char = true

instance (setting : RouteSettings) : Decidable setting.IsBlank :=
  decidable_of_iff (setting.source.toList.all isBlankChar = true) List.all_eq_true

theorem RouteSettings.IsBlank.trim_eq {setting : RouteSettings} (blank : setting.IsBlank) :
    trim setting.source = "" := by
  have nothing : ∀ item ∈ ([] : List Char), isBlankChar item = false := nofun
  have trimmed := trimWhile_append blank nothing
  rw [List.append_nil] at trimmed
  rw [trim, trimmed]

theorem reason_of_readBackend {setting : String} {fault : Fault}
    (refused : readBackend setting = .error fault) : ∃ reason, fault = .settings reason := by
  simp only [readBackend] at refused
  split at refused
  next =>
    cases refused
    exact ⟨_, rfl⟩
  next =>
    split at refused
    next =>
      cases refused
      exact ⟨_, rfl⟩
    next =>
      split at refused
      next =>
        cases refused
        exact ⟨_, rfl⟩
      next => cases refused

namespace RouteTable

variable {port : UInt16} {setting : RouteSettings} {settings : List RouteSettings}

theorem reason_of_addAll {table : RouteTable} {fault : Fault}
    (refused : addAll port settings table = .error fault) : ∃ reason, fault = .settings reason := by
  induction settings generalizing table with
  | nil => cases refused
  | cons setting rest ih =>
    simp only [addAll, bind, Except.bind] at refused
    split at refused
    next =>
      cases refused
      exact ⟨_, rfl⟩
    next =>
      split at refused
      next unread =>
        cases refused
        exact reason_of_readBackend unread
      next =>
        split at refused
        next => exact ih refused
        next =>
          cases refused
          exact ⟨_, rfl⟩

theorem refused_iff_not_fits :
    (∃ reason, ofSettings settings port = .error (.settings reason)) ↔ ¬ Fits port settings := by
  rw [← ofSettings_iff_fits]
  constructor
  · rintro ⟨reason, refused⟩ ⟨table, made⟩
    rw [refused] at made
    cases made
  · intro unfit
    cases made : ofSettings settings port with
    | ok table => exact absurd ⟨table, made⟩ unfit
    | error fault =>
      obtain ⟨reason, rfl⟩ := reason_of_addAll made
      exact ⟨reason, rfl⟩

theorem hostOf_standard (blank : setting.IsBlank) (standard : port = 80 ∨ port = 443) :
    hostOf setting port = "" := by
  rw [hostOf, blank.trim_eq, publicHost, if_pos standard]
  decide

theorem hostOf_ne_empty (other : ¬ (port = 80 ∨ port = 443)) : hostOf setting port ≠ "" := by
  intro empty
  have ends : ':' :: (toString port.toNat).toList <:+ (hostOf setting port).toList := ends_hostOf other
  rw [empty] at ends
  cases List.suffix_nil.mp ends

theorem hostOf_other (blank : setting.IsBlank) (other : ¬ (port = 80 ∨ port = 443)) :
    hostOf setting port = ":" ++ toString port.toNat := by
  have spelled : ∀ char ∈ ':' :: (toString port.toNat).toList,
      isBlankChar char = false ∧ char.toLower = char := by
    have signs : ∀ char ∈ ':' :: decimal, isBlankChar char = false ∧ char.toLower = char :=
      List.all_iff_forall_prop.mp (by decide)
    intro char inside
    apply signs
    rcases List.mem_cons.mp inside with rfl | digit
    · exact List.mem_cons_self
    · exact List.mem_cons_of_mem _ (mem_decimal_of_repr digit).1
  have written : (publicHost (trim setting.source) port).toList = ':' :: (toString port.toNat).toList := by
    rw [publicHost, if_neg other, blank.trim_eq, String.toList_append, String.toList_append]
    rfl
  apply String.toList_inj.mp
  rw [toList_hostOf, written, trimWhile_of_kept fun char inside => (spelled char inside).1,
    map_eq_self fun char inside => (spelled char inside).2,
    withoutEnding_of_other (bare_of_ends other List.suffix_rfl), String.toList_append]
  rfl

/-- A blank name is a mistake behind a standard port. Behind any other port it stands for the
host of the port alone: the settings are then refused only if two routes, of which it may be
one, have the same host, or a backend cannot be read; and what is asked for under that host
goes to the backend of the blank name. -/
theorem blank_routes (port : UInt16) (inside : setting ∈ settings) (blank : setting.IsBlank) :
    (port = 80 ∨ port = 443 → ∃ reason, ofSettings settings port = .error (.settings reason)) ∧
    (¬ (port = 80 ∨ port = 443) →
      hostOf setting port = ":" ++ toString port.toNat ∧
      ((∃ reason, ofSettings settings port = .error (.settings reason)) ↔
        ¬ ((∀ other ∈ settings, ∃ backend, readBackend other.backend = .ok backend) ∧
          settings.Pairwise fun first second => hostOf first port ≠ hostOf second port)) ∧
      ∀ table, ofSettings settings port = .ok table →
        ∃ route, table.find? (":" ++ toString port.toNat) = some route ∧
          readBackend setting.backend = .ok route.backend) := by
  constructor
  · intro standard
    apply refused_iff_not_fits.mpr
    intro fits
    exact fits.named setting inside (hostOf_standard blank standard)
  · intro other
    have host := hostOf_other blank other
    refine ⟨host, ?_, ?_⟩
    · rw [refused_iff_not_fits, not_iff_not]
      constructor
      · exact fun fits => ⟨fits.read, fits.distinct⟩
      · exact fun ⟨read, distinct⟩ => ⟨fun _ _ => hostOf_ne_empty other, read, distinct⟩
    · intro table made
      obtain ⟨route, among, sets⟩ := (mem_of_addAll made).2 setting inside
      refine ⟨route, ?_, sets.backend⟩
      rw [← host, sets.host]
      exact find?_of_mem among

end RouteTable

namespace OneRoute

def nameless : RouteSettings := ⟨" \t", "backend:8080"⟩

theorem blank_routes_of_nameless :
    nameless ∈ [nameless] ∧ nameless.IsBlank ∧
      (∃ reason, RouteTable.ofSettings [nameless] 443 = .error (.settings reason)) ∧
      RouteTable.hostOf nameless 8080 = ":8080" := by
  have inside : nameless ∈ [nameless] := List.mem_cons_self
  have blank : nameless.IsBlank := by decide
  have refused := (RouteTable.blank_routes 443 inside blank).1 (.inr rfl)
  have taken := (RouteTable.blank_routes 8080 inside blank).2 (by decide)
  exact ⟨inside, blank, refused, taken.1⟩

/-- Behind a port of its own a table is made of a blank name. -/
theorem blank_name_taken : nameless.IsBlank ∧
    ¬ ∃ reason, RouteTable.ofSettings [nameless] 8080 = .error (.settings reason) := by
  have blank : nameless.IsBlank := by decide
  have read : readBackend nameless.backend = .ok backend := by decide +kernel
  have fits : RouteTable.Fits 8080 [nameless] := by
    refine ⟨?_, ?_, List.pairwise_singleton _ _⟩
    · intro setting _
      exact RouteTable.hostOf_ne_empty (by decide)
    · intro setting inside
      rw [List.mem_singleton.mp inside]
      exact ⟨backend, read⟩
  exact ⟨blank, fun refused => RouteTable.refused_iff_not_fits.mp refused fits⟩

end OneRoute

end LoginGateway
