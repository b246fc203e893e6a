import LoginGateway.Proofs.ServerTexts

/-! A request that asks for no path but an asterisk. The asterisk is written right behind the
backend like any path. Behind a path it goes on with the path, and behind a port there is no
address any more. But behind the name of a host it goes on with the name, so that the request is
for a host of another name. -/

namespace LoginGateway

open Url Domain

namespace Domain

section Labels

theorem splitLastHyphen_asterisk (text : List Char) :
    ∃ basic numbers, splitLastHyphen (text ++ ['*']) = (basic, numbers ++ ['*']) := by
  have front : (text ++ ['*']).reverse.takeWhile (· ≠ '-') =
      '*' :: text.reverse.takeWhile (· ≠ '-') := by
    rw [List.reverse_append]
    exact List.takeWhile_cons_of_pos (by decide)
  have rest : (text ++ ['*']).reverse.dropWhile (· ≠ '-') = text.reverse.dropWhile (· ≠ '-') := by
    rw [List.reverse_append]
    exact List.dropWhile_cons_of_pos (by decide)
  rw [splitLastHyphen, List.span_eq_takeWhile_dropWhile, front, rest]
  cases text.reverse.dropWhile (· ≠ '-') with
  | nil => exact ⟨[], text, rfl⟩
  | cons hyphen before =>
    exact ⟨before.reverse, _, congrArg (Prod.mk before.reverse) List.reverse_cons⟩

/-- The numbers of an encoded label do not end in an asterisk. -/
theorem ofPunycode?_asterisk (text : List Char) : ofPunycode? (text ++ ['*']) = none := by
  obtain ⟨basic, numbers, cut⟩ := splitLastHyphen_asterisk text
  have fails (state : Decoder) : (numbers ++ ['*']).foldlM Decoder.take? state = none := by
    rw [List.foldlM_append]
    cases numbers.foldlM Decoder.take? state <;> rfl
  rw [ofPunycode?, cut]
  simp only [fails]
  rfl

theorem readLabel?_asterisk {label : List Char} (marked : "xn--".toList <+: label ++ ['*']) :
    readLabel? (codesOf (label ++ ['*'])) = none := by
  have mark := isPrefixOf_codesOf.mpr marked
  obtain ⟨rest, same⟩ := marked
  rcases List.eq_nil_or_concat rest with rfl | ⟨others, last, rfl⟩
  · have ends := congrArg List.getLast? same
    rw [List.getLast?_concat] at ends
    cases ends
  · rw [List.concat_eq_append, ← List.append_assoc] at same
    obtain ⟨rfl, _⟩ := List.append_inj' same rfl
    have behind : (codesOf ("xn--".toList ++ others ++ ['*'])).drop 4 = codesOf (others ++ ['*']) := by
      rw [List.append_assoc, codesOf, List.map_append]
      exact List.drop_left' rfl
    rw [readLabel?, if_pos mark, behind, ofNat_codesOf, ofPunycode?_asterisk]
    split <;> rfl

end Labels

section Names

variable {text name written : List Char}

theorem writeLabel_again (read : toAscii? text = some name) {label : List Char}
    (among : label ∈ pieces '.' name) {known : List Nat}
    (again : readLabel? (codesOf label) = some known) : writeLabel known = label := by
  by_cases marked : "xn--".toList <+: label
  · rcases toAscii?_cases read with ⟨plain, rfl, _⟩ | ⟨labels, made⟩
    · rw [isPlain, Bool.and_eq_true] at plain
      have unmarked := List.all_eq_true.mp plain.2 label among
      rw [List.isPrefixOf_iff_prefix.mpr marked] at unmarked
      cases unmarked
    · rw [made.pieces] at among
      obtain ⟨before, inside, rfl⟩ := List.mem_map.mp among
      obtain ⟨isRead, absent⟩ := made.read before inside
      by_cases short : (writeLabel before).length ≤ encodedMark.length + longestCode
      · cases again.symm.trans (readLabel?_writeLabel isRead absent fun _ => short)
        rfl
      · cases again.symm.trans (readLabel?_eq_none marked short)
  · have ascii : ∀ char ∈ label, char.toNat < 0x80 := fun char inside =>
      (mem_of_toAscii? read char ((mem_pieces among).2 char inside)).1
    exact writeLabel_of_plain ascii marked again

theorem map_of_mapM {α β γ : Type} {code : α → β} {read : β → Option γ} {write : γ → α}
    {items : List α} {results : List γ}
    (back : ∀ item ∈ items, ∀ result, read (code item) = some result → write result = item)
    (all : (items.map code).mapM read = some results) : results.map write = items := by
  induction items generalizing results with
  | nil =>
    cases all
    rfl
  | cons item items ih =>
    obtain ⟨here, others⟩ := List.forall_mem_cons.mp back
    rw [List.map_cons, List.mapM_cons] at all
    obtain ⟨first, found, all⟩ := Option.bind_eq_some_iff.mp all
    obtain ⟨rest, later, all⟩ := Option.bind_eq_some_iff.mp all
    cases all
    rw [List.map_cons, here first found, ih others later]

theorem eq_of_toAscii? (small : ∀ char ∈ name, char.toNat < 0x80 ∧ char.toLower = char)
    (kept : ∀ label ∈ pieces '.' name, ∀ known, readLabel? (codesOf label) = some known →
      writeLabel known = label)
    (read : toAscii? name = some written) : written = name := by
  have mapped := mapText?_of_small (fun char inside => (small char inside).1)
    fun char inside => (small char inside).2
  unfold toAscii? at read
  split at read
  next =>
    simp only [] at read
    split at read
    next => cases read
    next =>
      cases read
      exact map_eq_self fun char inside => (small char inside).2
  next =>
    rw [mapped, Option.bind_eq_bind, Option.bind_some, pieces_codesOf] at read
    obtain ⟨labels, all, read⟩ := Option.bind_eq_some_iff.mp read
    split at read
    next => cases read
    next =>
      simp only [] at read
      split at read
      next => cases read
      next =>
        cases read
        rw [map_of_mapM kept all, intersperse_pieces]

theorem toAscii?_asterisk (read : toAscii? text = some name)
    (again : toAscii? (name ++ ['*']) = some written) : written = name ++ ['*'] := by
  have small : ∀ char ∈ name ++ ['*'], char.toNat < 0x80 ∧ char.toLower = char :=
    List.forall_mem_append.mpr ⟨mem_of_toAscii? read, List.forall_mem_singleton.mpr (by decide)⟩
  refine eq_of_toAscii? small (fun label among known found => ?_) again
  have other : '*' ≠ '.' := by decide
  obtain ⟨front, last, before, after⟩ := pieces_concat name other
  rw [after] at among
  rcases List.mem_append.mp among with kept | ends
  · refine writeLabel_again read ?_ found
    rw [before]
    exact List.mem_append_left _ kept
  · rw [List.mem_singleton.mp ends] at found ⊢
    by_cases marked : "xn--".toList <+: last ++ ['*']
    · cases found.symm.trans (readLabel?_asterisk marked)
    · have ascii : ∀ char ∈ last ++ ['*'], char.toNat < 0x80 := fun char inside => by
        have piece : last ++ ['*'] ∈ pieces '.' (name ++ ['*']) := by
          rw [after]
          exact List.mem_append_right _ List.mem_cons_self
        exact (small char ((mem_pieces piece).2 char inside)).1
      exact writeLabel_of_plain ascii marked found

end Names

end Domain

namespace Ipv4

variable {digits rest : List Char} {first : Char}

theorem numberIn?_asterisk (base : Nat) (digits : List Char) :
    numberIn? base (digits ++ ['*']) = none := by
  rw [numberIn?_concat]
  cases numberIn? base digits <;> rfl

theorem exists_asterisk (same : digits ++ ['*'] = first :: rest) (other : first ≠ '*') :
    ∃ others, rest = others ++ ['*'] := by
  cases digits with
  | nil =>
    cases same
    exact absurd rfl other
  | cons head digits =>
    cases same
    exact ⟨digits, rfl⟩

theorem part?_asterisk (digits : List Char) : part? (digits ++ ['*']) = none := by
  unfold part?
  split
  next empty => exact absurd empty (List.append_ne_nil_of_right_ne_nil _ (List.cons_ne_nil _ _))
  next zero =>
    obtain ⟨others, ended⟩ := exists_asterisk zero (by decide)
    exact absurd ended.symm (List.append_ne_nil_of_right_ne_nil _ (List.cons_ne_nil _ _))
  next same =>
    obtain ⟨others, behind⟩ := exists_asterisk same (by decide)
    obtain ⟨others, rfl⟩ := exists_asterisk behind.symm (by decide)
    exact numberIn?_asterisk 16 others
  next same =>
    obtain ⟨others, behind⟩ := exists_asterisk same (by decide)
    obtain ⟨others, rfl⟩ := exists_asterisk behind.symm (by decide)
    exact numberIn?_asterisk 16 others
  next same =>
    obtain ⟨others, rfl⟩ := exists_asterisk same (by decide)
    exact numberIn?_asterisk 8 others
  next => exact numberIn?_asterisk 10 digits

theorem isMeant_asterisk (name : List Char) : isMeant (name ++ ['*']) = false := by
  have other : '*' ≠ '.' := by decide
  obtain ⟨front, last, _, cut⟩ := pieces_concat name other
  have parts : partsOf (name ++ ['*']) = front ++ [last ++ ['*']] := by
    rw [partsOf, cut]
    refine if_neg ?_
    rintro ⟨_, empty⟩
    rw [List.getLast?_concat] at empty
    exact List.append_ne_nil_of_right_ne_nil _ (List.cons_ne_nil _ _) (Option.some.inj empty)
  have digits : (last ++ ['*']).all Char.isDigit = false := by
    rw [List.all_append, Bool.and_eq_false_iff]
    exact .inr (by decide)
  rw [isMeant, parts, List.getLast?_concat]
  simp only [digits, part?_asterisk, Bool.and_false, Option.isSome_none, Bool.or_false]

end Ipv4

/-- An asterisk behind a host goes on with its name, if anything. -/
theorem Host.IsRead.readHost_asterisk {host other : Host} (known : host.IsRead)
    (read : readHost true (host.text ++ ['*']) = .ok other) :
    other = .domain (host.text ++ ['*']) := by
  have named {text : List Char} (settled : toAscii? text = some host.text) :
      other = .domain (host.text ++ ['*']) := by
    have allowed : ∀ char ∈ host.text ++ ['*'], isForbidden char = false :=
      List.forall_mem_append.mpr
        ⟨not_forbidden_of_toAscii? settled, List.forall_mem_singleton.mpr (by decide)⟩
    obtain ⟨domain, decoded⟩ := readHost_name allowed
    rw [domain, readDomain, decoded] at read
    split at read
    next => cases read
    next => cases read
    next name _ found =>
      obtain rfl := toAscii?_asterisk settled found
      rw [Ipv4.isMeant_asterisk] at read
      cases read
      rfl
  cases known with
  | domain settled filled _ => exact named settled
  | ipv4 small => exact named (Ipv4.toAscii?_text _)
  | ipv6 address =>
    rename_i pieces
    change readIpv6 ((Ipv6.text pieces ++ [']']) ++ ['*']) = _ at read
    rw [readIpv6, List.getLast?_concat, if_neg (by decide)] at read
    cases read

namespace Url

theorem readPort_asterisk {scheme digits : List Char}
    (decimal : ∀ char ∈ digits, char.isDigit = true) :
    readPort scheme (digits ++ ['*']) = .error .port := by
  have rest : (digits ++ ['*']).dropWhile Char.isDigit = ['*'] := by
    rw [List.dropWhile_append_of_pos decimal]
    rfl
  simp only [readPort, rest]
  split
  next => rfl
  next => exact if_pos (.inr ⟨List.cons_ne_nil _ _, by decide⟩)

theorem parts_of_readServer {scheme place : List Char} {server : Host × Option Nat}
    (read : readServer scheme place = .ok server) :
    readHost true (cutPort false place).1 = .ok server.1 ∧
      ∃ rest, readPort scheme ((cutPort false place).2.getD []) = .ok (server.2, rest) := by
  simp only [readServer, bind, Except.bind] at read
  split at read
  next => cases read
  next =>
    split at read
    next => cases read
    next host named =>
      split at read
      next => cases read
      next =>
        split at read
        next => cases read
        next found numbered =>
          cases read
          exact ⟨named, found.2, numbered⟩

/-- An asterisk behind a place leads to a server only if there is no port, and then to a host
that has the asterisk in its name. -/
theorem readServer_asterisk {url : Url} {host : Host} (found : url.host = some host)
    (known : host.IsRead) {server : Host × Option Nat}
    (read : readServer url.scheme (url.place ++ ['*']) = .ok server) :
    url.port = none ∧ server.1 = .domain (host.text ++ ['*']) := by
  have place : url.place ++ ['*'] = host.text ++ (url.portText ++ ['*']) := by
    rw [Url.place, found, Option.map_some, Option.getD_some, List.append_assoc]
  obtain ⟨named, rest, numbered⟩ := parts_of_readServer read
  rw [place, cutPort_host known] at named numbered
  cases port : url.port with
  | none =>
    rw [portText, port] at named
    exact ⟨rfl, known.readHost_asterisk named⟩
  | some number =>
    rw [portText, port] at numbered
    cases (readPort_asterisk (isDigit_of_mem_repr number)).symm.trans numbered

end Url

namespace Route

variable {setting : String} {route : Route} {url : Url}

/-- Without a path that is set for the backend, an asterisk leads to a host of another name, or
nowhere. -/
theorem asterisk_of_targetUrl (read : readBackend setting = .ok route.backend)
    (bare : route.pathPrefix = []) (made : Url.parse (route.targetUrl "*").toList = .ok url) :
    route.backend.port = none ∧
      url.host = some (.domain (route.backend.hostText?.getD [] ++ ['*'])) := by
  obtain ⟨web, rooted, named⟩ := readBackend_spec read
  obtain ⟨host, found, known, name⟩ := exists_host read
  have plain : ∀ char ∈ route.backend.place ++ ['*'], isPlaceChar char = true :=
    List.forall_mem_append.mpr
      ⟨plain_place web rooted, List.forall_mem_singleton.mpr (by decide)⟩
  have some : route.backend.place ++ ['*'] ≠ [] :=
    List.append_ne_nil_of_right_ne_nil _ (List.cons_ne_nil _ _)
  have text : (route.targetUrl "*").toList = route.backend.scheme ++ ':' :: '/' :: '/' ::
      ((route.backend.place ++ ['*']) ++ []) := by
    rw [toList_targetUrl, bare, List.append_nil]
    rfl
  rw [text, parse_place web plain some follows_nil] at made
  cases served : readServer route.backend.scheme (route.backend.place ++ ['*']) with
  | error fault =>
    rw [served] at made
    cases made
  | ok server =>
    rw [served] at made
    cases made
    obtain ⟨portless, other⟩ := readServer_asterisk found known served
    rw [name]
    exact ⟨portless, congrArg Option.some other⟩

end Route

end LoginGateway
