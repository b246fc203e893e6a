import LoginGateway.Proofs.Escapes
import LoginGateway.Proofs.RouteTargets

/-! The server of a URL is read again from the host and port that the URL writes. Both are in
the form in which they are written, so they are found again whatever stands behind them, unless
the name of the host has become too long to be read. -/

namespace LoginGateway

open Url Domain

namespace Host

variable {host : Host}

theorem readHost_name {name : List Char} (allowed : ∀ char ∈ name, isForbidden char = false) :
    readHost true name = readDomain name ∧
      Utf8.decodeLossy (Percent.decode (Utf8.encode name)) = name := by
  have noEscape : 37 ∉ Utf8.encode name := fun inside =>
    absurd (allowed '%' (Utf8.mem_of_mem_encode (by decide) inside)) (by decide)
  have noBracket (rest : List Char) : name ≠ '[' :: rest := by
    rintro rfl
    exact absurd (allowed '[' List.mem_cons_self) (by decide)
  constructor
  · rw [readHost]
    · rfl
    · exact noBracket
  · rw [Percent.decode_of_not_mem noEscape, Utf8.decodeLossy_encode]

theorem readIpv6_text {pieces : List Nat} (address : Ipv6.IsAddress pieces) :
    readIpv6 (Ipv6.text pieces ++ [']']) = .ok (.ipv6 pieces) := by
  rw [readIpv6, List.getLast?_concat, if_pos rfl, List.dropLast_concat, Ipv6.parse?_text address]

namespace IsRead

theorem readHost_text (known : IsRead host) (readable : HasReadableLabels host.text) :
    readHost true host.text = .ok host := by
  cases known with
  | domain read filled named =>
    rename_i text name
    obtain ⟨domain, decoded⟩ := readHost_name (not_forbidden_of_toAscii? read)
    change readHost true name = _
    rw [domain, readDomain, decoded, toAscii?_of_toAscii? read readable]
    cases name with
    | nil => exact absurd rfl filled
    | cons first rest => simp only [named, Bool.false_eq_true, if_false]
  | ipv4 small =>
    rename_i address
    have settled := Ipv4.toAscii?_text address
    have meant := Ipv4.isMeant_text address
    have found := Ipv4.parse?_text small
    obtain ⟨domain, decoded⟩ := readHost_name (not_forbidden_of_toAscii? settled)
    obtain ⟨first, rest, same⟩ := List.exists_cons_of_ne_nil (Ipv4.text_ne_nil address)
    change readHost true (Ipv4.text address) = _
    rw [domain, readDomain, decoded, settled]
    rw [same] at meant found ⊢
    simp only [meant, found, if_true]
  | ipv6 address => exact readIpv6_text address

/-- Only the name of a domain can have become too long. -/
theorem readHost_unreadable (known : IsRead host) (unreadable : ¬ HasReadableLabels host.text) :
    readHost true host.text = .error .domain := by
  cases known with
  | domain read filled named =>
    rename_i text name
    obtain ⟨domain, decoded⟩ := readHost_name (not_forbidden_of_toAscii? read)
    change readHost true name = _
    rw [domain, readDomain, decoded, toAscii?_eq_none read unreadable]
  | ipv4 small =>
    -- No label of an address is marked: there is no such letter in its text.
    refine absurd (hasReadableLabels_of_not_mem fun inside => ?_) unreadable
    exact absurd (Ipv4.mem_text inside) (by decide)
  | ipv6 address =>
    refine absurd (hasReadableLabels_of_not_mem fun inside => ?_) unreadable
    rcases List.mem_cons.mp inside with bracket | inside
    · exact absurd bracket (by decide)
    · rcases List.mem_append.mp inside with inside | last
      · exact absurd (Ipv6.mem_text inside) (by decide)
      · exact absurd last (by decide)

theorem eq_of_readHost (known : IsRead host) {other : Host}
    (again : readHost true host.text = .ok other) : other = host := by
  by_cases readable : HasReadableLabels host.text
  · exact Except.ok.inj (again.symm.trans (known.readHost_text readable))
  · rw [known.readHost_unreadable readable] at again
    cases again

end IsRead

end Host

namespace Url

section Ports

variable {scheme : List Char}

structure IsPort (scheme : List Char) (port : Nat) : Prop where
  small : port ≤ 65535
  other : defaultPort? scheme ≠ some port

theorem isPort_of_readPort {digits rest : List Char} {port : Nat}
    (read : readPort scheme digits = .ok (some port, rest)) : IsPort scheme port := by
  simp only [readPort] at read
  split at read
  next => cases read
  next number _ =>
    split at read
    next => cases read
    next fits =>
      obtain ⟨same, _⟩ := Prod.mk.inj (Except.ok.inj read)
      split at same
      next => cases same
      next written =>
        cases same
        exact ⟨Nat.not_lt.mp (not_or.mp fits).1, (not_or.mp written).2⟩

theorem readPort_repr {port : Nat} (known : IsPort scheme port) :
    readPort scheme (Nat.repr port).toList = .ok (some port, []) := by
  have number : numberIn? 10 (Nat.repr port).toList = some port := by
    rw [Nat.toList_repr]
    exact numberIn?_toDigits (by decide) (by decide) port
  have some : (Nat.repr port).toList ≠ [] := by
    rw [Nat.toList_repr]
    exact Nat.toDigits_ne_nil
  have whole : (Nat.repr port).toList.takeWhile Char.isDigit = (Nat.repr port).toList :=
    List.takeWhile_eq_self_iff.mpr (isDigit_of_mem_repr port)
  have nothing : (Nat.repr port).toList.dropWhile Char.isDigit = [] :=
    List.dropWhile_eq_nil_iff.mpr (isDigit_of_mem_repr port)
  simp only [readPort, whole, nothing, number]
  rw [if_neg, if_neg]
  · exact not_or.mpr ⟨some, known.other⟩
  · exact not_or.mpr ⟨Nat.not_lt.mpr known.small, fun both => both.1 rfl⟩

theorem readPort_written {port : Option Nat}
    (known : ∃ digits rest, readPort scheme digits = .ok (port, rest)) :
    readPort scheme ((port.map fun port => (Nat.repr port).toList).getD []) = .ok (port, []) := by
  obtain ⟨digits, rest, read⟩ := known
  cases port with
  | none => rfl
  | some port => exact readPort_repr (isPort_of_readPort read)

end Ports

section Authorities

variable {text : List Char}

theorem cutPort_behind (plain : ∀ char ∈ text, char ≠ ':' ∧ char ≠ '[') (tail : List Char) :
    cutPort false (text ++ tail) = (text ++ (cutPort false tail).1, (cutPort false tail).2) := by
  induction text with
  | nil => rfl
  | cons char text ih =>
    obtain ⟨⟨colon, bracket⟩, later⟩ := List.forall_mem_cons.mp plain
    rw [List.cons_append, cutPort, if_neg (fun same => colon same.1)]
    simp only [bracket, decide_false, Bool.false_and, Bool.or_false, ih later, List.cons_append]

/-- Within brackets a colon ends nothing. -/
theorem cutPort_bracket (plain : ']' ∉ text) (tail : List Char) :
    cutPort true (text ++ ']' :: tail) =
      (text ++ ']' :: (cutPort false tail).1, (cutPort false tail).2) := by
  induction text with
  | nil => rfl
  | cons char text ih =>
    obtain ⟨different, later⟩ := not_or.mp (mt List.mem_cons.mpr plain)
    rw [List.cons_append, cutPort, if_neg (fun same => absurd same.2 (by decide))]
    simp only [ne_eq, Ne.symm different, not_false_eq_true, decide_true, Bool.and_true, Bool.or_true,
      ih later, List.cons_append]

theorem cutPort_host {host : Host} (known : host.IsRead) (rest : List Char) :
    cutPort false (host.text ++ rest) =
      (host.text ++ (cutPort false rest).1, (cutPort false rest).2) := by
  have plain {text : List Char} (settled : toAscii? text = some host.text) :
      ∀ char ∈ host.text, char ≠ ':' ∧ char ≠ '[' := by
    intro char inside
    have allowed := not_forbidden_of_toAscii? settled char inside
    constructor
    all_goals
      rintro rfl
      exact absurd allowed (by decide)
  cases known with
  | domain settled filled _ => exact cutPort_behind (plain settled) rest
  | ipv4 small => exact cutPort_behind (plain (Ipv4.toAscii?_text _)) rest
  | ipv6 address =>
    rename_i pieces
    have closed : ']' ∉ Ipv6.text pieces := fun inside =>
      absurd (Ipv6.mem_text inside) (by decide)
    change cutPort false ('[' :: ((Ipv6.text pieces ++ [']']) ++ rest)) =
      ('[' :: (Ipv6.text pieces ++ [']']) ++ _, _)
    rw [List.append_assoc, List.singleton_append, cutPort, if_neg (by decide)]
    simp only [decide_true, Bool.true_or, cutPort_bracket closed, List.cons_append,
      List.append_assoc, List.nil_append]

theorem cutPort_tail (port : Option (List Char)) : cutPort false (tail ':' port) = ([], port) := by
  cases port <;> rfl

theorem cutPort_text {host : Host} (known : host.IsRead) (port : Option (List Char)) :
    cutPort false (host.text ++ tail ':' port) = (host.text, port) := by
  rw [cutPort_host known, cutPort_tail, List.append_nil]

end Authorities

section Servers

variable {url : Url}

theorem portText_tail (url : Url) :
    url.portText = tail ':' (url.port.map fun port => (Nat.repr port).toList) := by
  rw [portText]
  cases url.port <;> rfl

theorem readServer_place {host : Host} (found : url.host = some host) (known : host.IsRead)
    (port : ∃ digits rest, readPort url.scheme digits = .ok (url.port, rest)) :
    readServer url.scheme url.place = (readHost true host.text).map fun host => (host, url.port) := by
  have numbered := readPort_written port
  have filled := known.text_ne_nil
  rw [place, found, Option.map_some, Option.getD_some, portText_tail, readServer]
  simp only [cutPort_text known, filled, if_false, bind, Except.bind, numbered]
  cases again : readHost true host.text with
  | error fault => rfl
  | ok other =>
    have some : other ≠ .empty := by
      rintro rfl
      exact (Host.isRead_of_readHost again).text_ne_nil rfl
    simp only [some, false_and, if_false]
    rfl

end Servers

end Url

namespace Route

variable {setting : String} {route : Route} {text : String} {url : Url}

theorem exists_host (read : readBackend setting = .ok route.backend) :
    ∃ host, route.backend.host = some host ∧ host.IsRead ∧
      route.backend.hostText?.getD [] = host.text := by
  obtain ⟨web, rooted, _⟩ := readBackend_spec read
  obtain ⟨host, found, name, named⟩ := rooted.host
  rw [(isSpecial_web web).1] at named
  have known := Host.isRead_of_readHost named
  refine ⟨host, found, known, ?_⟩
  rw [hostText?, found, Option.map_some, Option.filter_some, if_pos, Option.getD_some]
  exact decide_eq_true known.text_ne_nil

/-- What follows the origin of a backend, if it does not go on with the name of the host, stands
behind the server of the backend. Only a name that is too long keeps the whole from being read. -/
theorem parse_targetUrl_cases (read : readBackend setting = .ok route.backend)
    (follows : Follows (route.pathPrefix ++ text.toList)) :
    (HasReadableLabels (route.backend.hostText?.getD []) → ∃ host, route.backend.host = some host ∧
      Url.parse (route.targetUrl text).toList = .ok (behind route.backend.scheme
        (cleanEnd (route.pathPrefix ++ text.toList)) (host, route.backend.port))) ∧
    (¬ HasReadableLabels (route.backend.hostText?.getD []) →
      Url.parse (route.targetUrl text).toList = .error .domain) := by
  obtain ⟨host, found, known, name⟩ := exists_host read
  rw [name, parse_targetUrl read follows,
    readServer_place found known (readBackend_spec read).2.1.port]
  constructor
  · intro readable
    rw [known.readHost_text readable]
    exact ⟨host, found, rfl⟩
  · intro unreadable
    rw [known.readHost_unreadable unreadable]
    rfl

/-- So a request whose place can be read goes to the server of its backend. -/
theorem samePlace_of_targetUrl (read : readBackend setting = .ok route.backend)
    (follows : Follows (route.pathPrefix ++ text.toList))
    (made : Url.parse (route.targetUrl text).toList = .ok url) : url.SamePlace route.backend := by
  obtain ⟨readable, unreadable⟩ := parse_targetUrl_cases read follows
  by_cases known : HasReadableLabels (route.backend.hostText?.getD [])
  · obtain ⟨host, found, same⟩ := readable known
    cases made.symm.trans same
    exact ⟨rfl, found.symm, rfl⟩
  · cases made.symm.trans (unreadable known)

end Route

end LoginGateway
