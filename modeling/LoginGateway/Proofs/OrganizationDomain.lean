import LoginGateway.Proofs.CallbackDecision

/-! Who belongs to an organization. The ending that is asked for has one at sign, in front,
so an address has that ending exactly if its own last at sign stands before the domain. -/

namespace LoginGateway

/-- An address has an at sign, and behind its last one stands this text. -/
def BehindLastAt (address behind : String) : Prop :=
  ∃ before, address.toList = before ++ '@' :: behind.toList ∧ '@' ∉ behind.toList

theorem suffix_iff_behindLastAt {address domain : String} (plain : '@' ∉ domain.toList) :
    '@' :: domain.toList <:+ address.toList ↔ BehindLastAt address domain := by
  constructor
  · rintro ⟨before, whole⟩
    exact ⟨before, whole.symm, plain⟩
  · rintro ⟨before, whole, _⟩
    exact ⟨before, whole.symm⟩

/-- No two texts stand behind the last at sign of an address. -/
theorem BehindLastAt.unique {address first second : String} (one : BehindLastAt address first)
    (other : BehindLastAt address second) : first = second := by
  obtain ⟨_, _, plain⟩ := id one
  obtain ⟨_, _, bare⟩ := id other
  exact String.toList_inj.mp (eq_of_suffixes plain bare ((suffix_iff_behindLastAt plain).mpr one)
    ((suffix_iff_behindLastAt bare).mpr other))

namespace OAuthSettings

/-- A domain is set, with any number of at signs in front of it. -/
def Names (oauth : OAuthSettings) (domain : String) : Prop :=
  ∃ signs, oauth.domain.toList = List.replicate signs '@' ++ domain.toList

variable {oauth : OAuthSettings} {domain : String}

theorem domainHint_of_names (named : oauth.Names domain) (plain : '@' ∉ domain.toList) :
    oauth.domainHint = domain := by
  obtain ⟨signs, written⟩ := named
  have signed : ∀ char ∈ List.replicate signs '@', decide (char = '@') = true :=
    fun char inside => decide_eq_true (List.eq_of_mem_replicate inside)
  have kept : domain.toList.dropWhile (· = '@') = domain.toList := dropWhile_of_kept
    fun char inside => decide_eq_false fun same => plain (same ▸ inside)
  rw [domainHint, written, List.dropWhile_append_of_pos signed, kept, String.ofList_toList]

theorem emailEndsWith_iff_of_names (named : oauth.Names domain) (plain : '@' ∉ domain.toList)
    (identity : Identity) :
    identity.emailEndsWith oauth.emailSuffix = true ↔ BehindLastAt identity.email domain := by
  have chars : oauth.emailSuffix.toList = '@' :: domain.toList := by
    rw [emailSuffix, domainHint_of_names named plain, String.toList_append]
    rfl
  have filled : oauth.emailSuffix ≠ "" := by
    intro empty
    rw [empty] at chars
    cases chars
  rw [Identity.emailEndsWith_iff filled, chars, suffix_iff_behindLastAt plain]

/-- An address is accepted exactly if the text behind its last at sign is the domain, however
many at signs the domain is set with; and a visitor who is handed on has such an address. -/
theorem domain_decides (named : oauth.Names domain) (plain : '@' ∉ domain.toList) :
    (∀ identity : Identity, identity.emailEndsWith oauth.emailSuffix = true ↔
      ∃ behind, BehindLastAt identity.email behind ∧ behind = domain) ∧
    (∀ other : OAuthSettings, other.Names domain → ∀ identity : Identity,
      identity.emailEndsWith other.emailSuffix = identity.emailEndsWith oauth.emailSuffix) ∧
    ∀ settings key provider gateway, settings.oauth = oauth →
      Gateway.ofSettings settings key provider = .ok gateway →
      ∀ outside query cache response,
        (gateway.callback outside query cache).reply = .value response →
        ∃ login : Login gateway outside query, BehindLastAt login.identity.email domain := by
  refine ⟨?_, ?_, ?_⟩
  · intro identity
    rw [emailEndsWith_iff_of_names named plain]
    exact exists_eq_right.symm
  · intro other also identity
    rw [Bool.eq_iff_iff, emailEndsWith_iff_of_names also plain, emailEndsWith_iff_of_names named plain]
  · rintro settings key provider gateway rfl made outside query cache response handed
    obtain ⟨login, _⟩ := Gateway.login_of_callback handed
    refine ⟨login, ?_⟩
    have accepted := login.accepted
    rwa [Gateway.emailSuffix_ofSettings made, emailEndsWith_iff_of_names named plain] at accepted

end OAuthSettings

namespace OneRoute

theorem domain_decides_of_signs :
    let signed := { OAuthSettings.default with domain := "@@org.com" }
    signed.Names "org.com" ∧ '@' ∉ "org.com".toList ∧
      Identity.emailEndsWith ⟨"\"bob@evil.com\"@org.com", "", ""⟩ signed.emailSuffix = true ∧
      Identity.emailEndsWith ⟨"mallory@evilorg.com", "", ""⟩ signed.emailSuffix = false ∧
      Identity.emailEndsWith ⟨"alice@org.com@evil.com", "", ""⟩ signed.emailSuffix = false := by
  intro signed
  have named : signed.Names "org.com" := ⟨2, by decide⟩
  have plain : '@' ∉ "org.com".toList := by decide
  obtain ⟨decides, _⟩ := OAuthSettings.domain_decides named plain
  have foreign (address behind : String) (last : BehindLastAt address behind)
      (other : behind ≠ "org.com") :
      Identity.emailEndsWith ⟨address, "", ""⟩ signed.emailSuffix = false := by
    rw [Bool.eq_false_iff]
    intro accepted
    obtain ⟨_, here, rfl⟩ := (decides _).mp accepted
    exact other (last.unique here)
  refine ⟨named, plain, (decides _).mpr ⟨_, ⟨"\"bob@evil.com\"".toList, ?_⟩, rfl⟩,
    foreign _ "evilorg.com" ⟨"mallory".toList, ?_⟩ ?_,
    foreign _ "evil.com" ⟨"alice@org.com".toList, ?_⟩ ?_⟩
  all_goals decide

end OneRoute

end LoginGateway
