import LoginGateway.Proofs.RouteHosts

/-! Addresses that are written as URLs are written. Such an address is read as the host
it begins with and, behind it, just the path and query of the request that it is the
address of. -/

namespace LoginGateway

open Url

theorem pathAndQuery_behind (scheme tail : List Char) (server : Host × Option Nat) :
    Printable (behind scheme tail server).pathAndQuery ∧
      ∃ rest, (behind scheme tail server).pathAndQuery = '/' :: rest ∧
        ∀ others, rest ≠ '\\' :: others := by
  obtain ⟨first, parts, path, plain⟩ := readPath_spec (cut tail).path
  have same : (behind scheme tail server).pathAndQuery =
      '/' :: (first ++ (parts.flatMap ('/' :: ·) ++ Url.tail '?' (readQuery true (cut tail).query))) := by
    simp [pathAndQuery, behind, path, UrlPath.text]
  have query : Printable (Url.tail '?' (readQuery true (cut tail).query)) := by
    cases (cut tail).query with
    | none => exact fun char inside => absurd inside List.not_mem_nil
    | some text =>
      exact .cons (by decide) (Percent.printable_encodeText querySet_of_control text)
  refine ⟨?_, _, same, fun others begins => ?_⟩
  · rw [same]
    have segments : Printable (parts.flatMap ('/' :: ·)) := by
      intro char inside
      obtain ⟨segment, among, here⟩ := List.mem_flatMap.mp inside
      rcases List.mem_cons.mp here with rfl | written
      · decide
      · exact (plain segment (List.mem_cons_of_mem first among)).printable char written
    have whole := (plain first List.mem_cons_self).printable.append (segments.append query)
    exact .cons (by decide) whole
  · -- The sign behind the slash belongs to a segment, to the next one or to the query.
    cases first with
    | cons char chars =>
      have inner := (plain _ List.mem_cons_self).noSlash char List.mem_cons_self
      cases begins
      exact absurd inner (by decide)
    | nil =>
      cases parts with
      | cons segment others => cases begins
      | nil =>
        cases queried : readQuery true (cut tail).query with
        | none =>
          rw [queried] at begins
          cases begins
        | some text =>
          rw [queried] at begins
          cases begins

/-- An address that is read and written again without a change. -/
def IsSettled (address : String) : Prop :=
  ∃ url, Url.parse address.toList = .ok url ∧ url.text = address.toList

instance (address : String) : Decidable (IsSettled address) := decideOk _

/-- An asterisk is read as part of the host, and then a slash is written behind it. -/
theorem not_settled_asterisk {scheme host : String} {server : Host × Option Nat}
    (web : IsWeb scheme.toList) (spells : Spells scheme.toList host.toList server) :
    ¬ IsSettled (scheme ++ "://" ++ host ++ "*") := by
  rintro ⟨url, made, unchanged⟩
  have place : ∀ char ∈ host.toList ++ ['*'], isPlaceChar char = true :=
    List.forall_mem_append.mpr
      ⟨fun char inside => isPlaceChar_of_isHostChar (spells.plain char inside),
        List.all_iff_forall_prop.mp (by decide)⟩
  have whole := parse_place web place (by simp) follows_nil
  have asterisk : "*".toList = ['*'] := by decide
  rw [List.append_nil] at whole
  rw [toList_address, asterisk] at made unchanged
  rw [whole] at made
  cases found : readServer scheme.toList (host.toList ++ ['*']) with
  | error fault =>
    rw [found] at made
    cases made
  | ok server =>
    rw [found] at made
    cases made
    have slash : (behind scheme.toList (cleanEnd []) server).text =
        (scheme.toList ++ ':' :: (behind scheme.toList (cleanEnd []) server).authority) ++ ['/'] := by
      simp [Url.text, behind, cleanEnd, cut, cutFirst, readQuery, readFragment, readPath, Url.tail,
        UrlPath.text]
    have star : scheme.toList ++ ':' :: '/' :: '/' :: (host.toList ++ ['*']) =
        (scheme.toList ++ ':' :: '/' :: '/' :: host.toList) ++ ['*'] := by
      simp
    have last := congrArg List.getLast? (slash.symm.trans (unchanged.trans star))
    rw [List.getLast?_concat, List.getLast?_concat] at last
    cases last

/-- A settled address of a request is read as the server of its host with the path and
query that were asked for. -/
theorem parse_of_settled {scheme host text : String} {target : Target}
    {server : Host × Option Nat} (web : IsWeb scheme.toList)
    (spells : Spells scheme.toList host.toList server) (read : Target.parse? text = some target)
    (settled : IsSettled (scheme ++ "://" ++ host ++ target.pathAndQuery)) :
    ∃ url, Url.parse (scheme ++ "://" ++ host ++ target.pathAndQuery).toList = .ok url ∧
      url.hostAndPort? = some host.toList ∧ url.pathAndQuery = target.pathAndQuery.toList ∧
      Printable url.pathAndQuery ∧ ∃ rest, url.pathAndQuery = '/' :: rest ∧
        ∀ others, rest ≠ '\\' :: others := by
  obtain ⟨url, made, unchanged⟩ := settled
  rcases Target.cases_of_parse? read with rfl | ⟨authority, chars, starts, found⟩
  · exact absurd ⟨url, made, unchanged⟩ (not_settled_asterisk web spells)
  · have plain := Target.plain_of_readPath? found
    have follows := Target.follows_pathAndQuery (Target.hasPath_of_readPath? starts found)
    have whole := spells.parse_eq web follows fun char inside => (plain char inside).1
    have noFragment : '#' ∉ target.pathAndQuery.toList := fun inside =>
      (plain '#' inside).2 rfl
    rw [toList_address] at made unchanged ⊢
    cases made.symm.trans whole
    rw [spells.text_behind] at unchanged
    have rest := List.append_cancel_left (List.cons.inj (List.cons.inj (List.cons.inj
      (List.append_cancel_left unchanged)).2).2).2
    have same : (behind scheme.toList target.pathAndQuery.toList server).pathAndQuery =
        target.pathAndQuery.toList := by
      simpa [behind, fragment_of_cut noFragment, readFragment, Url.tail] using rest
    obtain ⟨printable, local'⟩ := pathAndQuery_behind scheme.toList target.pathAndQuery.toList server
    exact ⟨_, whole, spells.hostAndPort? _, same, printable, local'⟩

end LoginGateway
