import LoginGateway.Proofs.Interleaving
import LoginGateway.Proofs.Login
import LoginGateway.Proofs.TokenRoundTrip

/-! The cache decides nothing. It is filled in two places, with what a token was
read as and with the profile a new token was written for, and both times an entry
says what its token says. So whatever a look into it finds, the request goes on as
if nothing had been found. -/

namespace LoginGateway

namespace Token

theorem looksLikeToken_of_decode {token : String} {key : SigningKey} {identity : Identity}
    (accepted : decode token key = .ok identity) : looksLikeToken token = true := by
  unfold decode at accepted
  split at accepted
  next => cases accepted
  next found => exact List.contains_iff_mem.mpr (mem_of_split? found)

end Token

namespace Cache

/-- Every entry is what its token says under the key. -/
def Sound (key : SigningKey) (cache : Cache) : Prop :=
  ∀ entry ∈ cache.entries, Token.decode entry.1 key = .ok entry.2

variable {key : SigningKey} {cache : Cache}

theorem sound_empty (key : SigningKey) (capacity : Nat) : (empty capacity).Sound key := by
  simp [Sound, empty]

theorem Sound.put (sound : cache.Sound key) {token : String} {identity : Identity}
    (accepted : Token.decode token key = .ok identity) : (cache.put token identity).Sound key := by
  intro entry inside
  rcases List.mem_append.mp inside with old | new
  · exact sound entry (List.mem_filter.mp old).1
  · rw [List.mem_singleton.mp new]
    exact accepted

theorem get?_put_same (cache : Cache) (token : String) (identity : Identity) :
    (cache.put token identity).get? token = some identity := by
  have absent : (cache.entries.filter (·.1 ≠ token)).find? (·.1 = token) = none := by
    rw [List.find?_eq_none]
    intro entry inside
    have other := (List.mem_filter.mp inside).2
    simpa using other
  rw [get?, put, List.find?_append, absent]
  simp

theorem get?_put_other (cache : Cache) {token other : String} (different : other ≠ token)
    (identity : Identity) : (cache.put token identity).get? other = cache.get? other := by
  have kept : (cache.entries.filter (·.1 ≠ token)).find? (·.1 = other) =
      cache.entries.find? (·.1 = other) := by
    rw [List.find?_filter]
    congr 1
    funext entry
    by_cases same : entry.1 = other <;> simp [same, different]
  rw [get?, get?, put, List.find?_append, kept]
  simp [different.symm]

theorem Sound.keep (sound : cache.Sound key) {kept : List (String × Identity)}
    (fewer : kept ⊆ cache.entries) : Sound key { cache with entries := kept } :=
  fun entry inside => sound entry (fewer inside)

theorem Sound.decode_of_get? (sound : cache.Sound key) {token : String} {identity : Identity}
    (found : cache.get? token = some identity) : Token.decode token key = .ok identity := by
  obtain ⟨entry, first, rfl⟩ := Option.map_eq_some_iff.mp found
  have same : entry.1 = token := by simpa using List.find?_some first
  rw [← same]
  exact sound entry (List.mem_of_find?_eq_some first)

theorem Sound.resolve_iff (sound : cache.Sound key) {token : String} {identity : Identity} :
    (Session.resolve token key cache).1 = some identity ↔
      Token.decode token key = .ok identity := by
  unfold Session.resolve
  split
  next =>
    cases found : cache.get? token with
    | some known =>
      rw [sound.decode_of_get? found]
      exact ⟨fun same => congrArg _ (Option.some.inj same),
        fun same => congrArg _ (Except.ok.inj same)⟩
    | none => cases Token.decode token key <;> simp
  next shapeless =>
    constructor
    · intro impossible
      cases impossible
    · intro accepted
      exact absurd (Token.looksLikeToken_of_decode accepted) shapeless

end Cache

namespace Interleaving
open Gateway

namespace Task

/-- What a task comes to if every look into the cache finds nothing. -/
def ending (outside : Outside) : Task → Reply Response × List Call
  | .done reply => (reply, [])
  | .lookUp _ next => (next none).ending outside
  | .store _ _ next => next.ending outside
  | .exchange code next =>
    let (reply, calls) := (next (outside.exchange code)).ending outside
    (reply, .exchange code :: calls)
  | .fetchProfile accessToken next =>
    let (reply, calls) := (next (outside.fetchProfile accessToken)).ending outside
    (reply, .fetchProfile accessToken :: calls)
  | .backend request next =>
    let (reply, calls) := (next (outside.backend request)).ending outside
    (reply, .backend request :: calls)

/-- What may be found in a sound cache: nothing, or what the token says. -/
def Fits (key : SigningKey) (token : String) (found : Option Identity) : Prop :=
  ∀ identity, found = some identity → Token.decode token key = .ok identity

theorem fits_get? {key : SigningKey} {cache : Cache} (sound : cache.Sound key) (token : String) :
    Fits key token (cache.get? token) :=
  fun _ found => sound.decode_of_get? found

/-- A task that stores only what tokens say, and that ends the same way whether it
finds in the cache what a token says or nothing. -/
inductive Steady (key : SigningKey) : Task → Prop where
  | done (reply : Reply Response) : Steady key (.done reply)
  | lookUp {token : String} {next : Option Identity → Task}
      (later : ∀ found, Fits key token found → Steady key (next found))
      (same : ∀ found, Fits key token found →
        ∀ outside, (next found).ending outside = (next none).ending outside) :
      Steady key (.lookUp token next)
  | store {token : String} {identity : Identity} {next : Task}
      (accepted : Token.decode token key = .ok identity) (later : Steady key next) :
      Steady key (.store token identity next)
  | exchange {code : String} {next : Reply String → Task}
      (later : ∀ reply, Steady key (next reply)) : Steady key (.exchange code next)
  | fetchProfile {accessToken : String} {next : Reply Identity → Task}
      (later : ∀ reply, Steady key (next reply)) : Steady key (.fetchProfile accessToken next)
  | backend {request : Outgoing} {next : Except TransportFault Incoming → Task}
      (later : ∀ reply, Steady key (next reply)) : Steady key (.backend request next)

variable {key : SigningKey}

theorem steady_ofResult (result : Except Fault Response) : Steady key (ofResult result) := by
  cases result <;> exact .done _

theorem steady_resolve (token : String) {next : Option Identity → Task}
    (steady : ∀ found, Steady key (next found)) : Steady key (resolve token key next) := by
  unfold resolve
  split
  next =>
    -- A token that is not good is never found, so looking it up makes no difference.
    cases accepted : Token.decode token key with
    | error fault =>
      refine .lookUp (fun found fits => ?_) (fun found fits outside => ?_)
      all_goals
        cases found with
        | some identity => cases accepted.symm.trans (fits identity rfl)
        | none => first | exact steady none | rfl
    | ok identity =>
      refine .lookUp (fun found fits => ?_) (fun found fits outside => ?_)
      · cases found with
        | some known => exact steady (some known)
        | none => exact .store accepted (steady (some identity))
      · cases found with
        | some known =>
          cases accepted.symm.trans (fits known rfl)
          rfl
        | none => rfl
  next => exact steady none

theorem steady_visitor (headers : Headers) {next : Option Identity → Task}
    (steady : ∀ found, Steady key (next found)) : Steady key (visitor headers key next) := by
  unfold visitor
  cases Session.token? headers with
  | some token => exact steady_resolve token steady
  | none => exact steady none

variable (gateway : Gateway)

theorem steady_accept (route : Route) (back : Url) (identity : Identity) :
    Steady gateway.key (accept gateway route back identity) := by
  unfold accept
  split
  · exact .store (Token.decode_of_encode identity gateway.key) (steady_ofResult _)
  · exact steady_ofResult _

theorem steady_callback (query : Option String) :
    Steady gateway.key (callback gateway query) := by
  unfold callback
  split
  next =>
    split
    next => exact steady_ofResult _
    next back _ =>
      split
      next => exact steady_ofResult _
      next route _ =>
        refine .exchange fun reply => ?_
        cases reply with
        | crashed => exact .done _
        | failed fault => exact steady_ofResult _
        | value accessToken =>
          refine .fetchProfile fun reply => ?_
          cases reply with
          | crashed => exact .done _
          | failed fault => exact steady_ofResult _
          | value identity => exact steady_accept gateway route back identity
  next => exact steady_ofResult _

theorem steady_completeBridge (query : Option String) :
    Steady gateway.key (completeBridge gateway query) := by
  unfold completeBridge
  simp only []
  split
  · exact steady_ofResult _
  · refine steady_resolve _ fun found => ?_
    cases found <;> exact steady_ofResult _

theorem steady_forward (route : Route) (identity : Identity) (request : Request) :
    Steady key (forward route identity request) := by
  unfold forward
  split
  · exact steady_ofResult _
  · refine .backend fun reply => ?_
    cases reply <;> exact steady_ofResult _

theorem steady_ofRequest (request : Request) : Steady gateway.key (ofRequest gateway request) := by
  unfold ofRequest
  split
  next route _ =>
    unfold ofRoute
    split
    · exact steady_completeBridge gateway _
    · exact steady_ofResult _
    · refine steady_visitor _ fun found => ?_
      cases found with
      | some identity => exact steady_forward route identity request
      | none => exact steady_ofResult _
  next =>
    unfold ofHub
    split
    · exact steady_callback gateway _
    · exact steady_ofResult _
    · exact steady_visitor _ fun _ => steady_ofResult _
    · exact steady_ofResult _

/-- From a sound cache a steady task comes to its ending and leaves the cache sound. -/
theorem Steady.outcome {task : Task} (steady : Steady key task) (outside : Outside) {cache : Cache}
    (sound : cache.Sound key) :
    ((task.outcome outside cache).reply, (task.outcome outside cache).calls) = task.ending outside ∧
      (task.outcome outside cache).cache.Sound key := by
  induction steady generalizing cache with
  | done reply => exact ⟨rfl, sound⟩
  | lookUp later same ih =>
    have fits := fits_get? sound
    obtain ⟨ends, kept⟩ := ih _ (fits _) sound
    exact ⟨ends.trans (same _ (fits _) outside), kept⟩
  | store accepted later ih => exact ih (sound.put accepted)
  | exchange later ih =>
    obtain ⟨ends, kept⟩ := ih (outside.exchange _) sound
    exact ⟨by rw [ending, ← ends]; rfl, kept⟩
  | fetchProfile later ih =>
    obtain ⟨ends, kept⟩ := ih (outside.fetchProfile _) sound
    exact ⟨by rw [ending, ← ends]; rfl, kept⟩
  | backend later ih =>
    obtain ⟨ends, kept⟩ := ih (outside.backend _) sound
    exact ⟨by rw [ending, ← ends]; rfl, kept⟩

end Task

/-- A request that goes on, whatever has come between its steps, to the same reply
and through the same calls as if the cache had been empty all the time. -/
structure Serving.Faithful (gateway : Gateway) (serving : Serving) : Prop where
  steady : Task.Steady gateway.key serving.task
  ends : ((serving.task.ending serving.outside).1,
      serving.calls ++ (serving.task.ending serving.outside).2) =
    (Task.ofRequest gateway serving.request).ending serving.outside

variable {gateway : Gateway}

theorem Serving.faithful_fresh (outside : Outside) (request : Request) :
    (fresh gateway outside request).Faithful gateway :=
  ⟨Task.steady_ofRequest gateway request, rfl⟩

theorem Serving.Faithful.advance {serving : Serving} (faithful : serving.Faithful gateway)
    {cache : Cache} (sound : cache.Sound gateway.key) :
    (serving.advance cache).1.Faithful gateway ∧
      (serving.advance cache).2.Sound gateway.key := by
  obtain ⟨outside, request, calls, task⟩ := serving
  obtain ⟨steady, ends⟩ := faithful
  cases steady with
  | done reply => exact ⟨⟨.done reply, ends⟩, sound⟩
  | lookUp later same =>
    have fits := Task.fits_get? sound
    refine ⟨⟨later _ (fits _), ?_⟩, sound⟩
    simp only [Serving.advance, same _ (fits _)]
    exact ends
  | store accepted later => exact ⟨⟨later, ends⟩, sound.put accepted⟩
  | exchange later =>
    refine ⟨⟨later (outside.exchange _), ?_⟩, sound⟩
    simp only [Serving.advance, List.append_assoc]
    exact ends
  | fetchProfile later =>
    refine ⟨⟨later (outside.fetchProfile _), ?_⟩, sound⟩
    simp only [Serving.advance, List.append_assoc]
    exact ends
  | backend later =>
    refine ⟨⟨later (outside.backend _), ?_⟩, sound⟩
    simp only [Serving.advance, List.append_assoc]
    exact ends

/-- What every step keeps. -/
structure Sound (gateway : Gateway) (state : State) : Prop where
  cache : state.cache.Sound gateway.key
  servings : ∀ serving ∈ state.servings, serving.Faithful gateway

theorem Step.sound {before after : State} (step : Step gateway before after)
    (sound : Sound gateway before) : Sound gateway after := by
  obtain ⟨cacheSound, servings⟩ := sound
  cases step with
  | arrive cache old outside request =>
    refine ⟨cacheSound, fun serving inside => ?_⟩
    rcases List.mem_append.mp inside with known | new
    · exact servings serving known
    · rw [List.mem_singleton.mp new]
      exact Serving.faithful_fresh outside request
  | advance cache first serving last =>
    obtain ⟨faithful, kept⟩ := (servings serving (by simp)).advance cacheSound
    refine ⟨kept, fun other inside => ?_⟩
    rcases List.mem_append.mp inside with earlier | rest
    · exact servings other (List.mem_append_left _ earlier)
    · rcases List.mem_cons.mp rest with rfl | later
      · exact faithful
      · exact servings other (List.mem_append_right _ (List.mem_cons_of_mem _ later))
  | evict cache old kept fewer => exact ⟨cacheSound.keep fewer, servings⟩

theorem Reachable.sound {capacity : Nat} {state : State}
    (reached : Reachable gateway capacity state) : Sound gateway state := by
  induction reached with
  | refl => exact ⟨Cache.sound_empty gateway.key capacity, fun _ inside => by cases inside⟩
  | tail _ step ih => exact step.sound ih

theorem handle_of_sound {cache : Cache} (sound : cache.Sound gateway.key) (outside : Outside)
    (request : Request) (capacity : Nat) :
    (gateway.handle outside cache request).reply =
        (gateway.handle outside (.empty capacity) request).reply ∧
      (gateway.handle outside cache request).calls =
        (gateway.handle outside (.empty capacity) request).calls := by
  have steady := Task.steady_ofRequest gateway request
  have here := (steady.outcome outside sound).1
  have fresh := (steady.outcome outside (Cache.sound_empty gateway.key capacity)).1
  rw [Task.outcome_ofRequest] at here fresh
  exact Prod.mk.inj (here.trans fresh.symm)

/-- A request among others comes as far as it would come alone with an empty cache. -/
theorem Serving.Faithful.alone {serving : Serving} (faithful : serving.Faithful gateway)
    (capacity : Nat) :
    let alone := gateway.handle serving.outside (.empty capacity) serving.request
    serving.calls <+: alone.calls ∧
      ∀ reply, serving.task = .done reply → reply = alone.reply ∧ serving.calls = alone.calls := by
  have fresh := ((Task.steady_ofRequest gateway serving.request).outcome serving.outside
    (Cache.sound_empty gateway.key capacity)).1
  rw [Task.outcome_ofRequest, ← faithful.ends] at fresh
  obtain ⟨reply, calls⟩ := Prod.mk.inj fresh
  refine ⟨⟨_, calls.symm⟩, fun ended finished => ?_⟩
  rw [finished] at reply calls
  exact ⟨reply.symm, by rw [calls]; exact (List.append_nil _).symm⟩

end Interleaving

namespace OneRoute
open Interleaving

def loggedIn : State := (State.initial 0).serve gateway outside login

theorem reaches_loggedIn : Reachable gateway 0 loggedIn :=
  Reachable.serve .refl outside login

theorem cache_loggedIn : loggedIn.cache = ⟨0, [(token, alice)]⟩ := by
  rw [loggedIn, State.serve, handle_login]
  rfl

end OneRoute

open Interleaving in
/-- Under any interleaving of requests, with any entries lost at any time and any
capacity, the cache holds only what tokens say. So a token stands for an identity
exactly if it is read as that identity, every request among the others is answered
and forwarded as one that a gateway with an empty cache gets alone, and so is every
request that comes next. -/
theorem cache_transparent {gateway : Gateway} {capacity : Nat} {state : State}
    (reached : Reachable gateway capacity state) :
    (∀ token identity, (token, identity) ∈ state.cache.entries →
      Token.decode token gateway.key = .ok identity) ∧
    (∀ token identity, (Session.resolve token gateway.key state.cache).1 = some identity ↔
      Token.decode token gateway.key = .ok identity) ∧
    (∀ serving ∈ state.servings, ∀ other,
      let alone := gateway.serve serving.outside (.empty other) serving.request
      serving.calls <+: alone.2.2 ∧
        ∀ reply, serving.task = .done reply →
          (Gateway.answer reply).delivered serving.request.method = alone.1 ∧
            serving.calls = alone.2.2) ∧
    (∀ outside request other,
      let next := gateway.serve outside state.cache request
      let alone := gateway.serve outside (.empty other) request
      next.1 = alone.1 ∧ next.2.2 = alone.2.2) := by
  obtain ⟨sound, servings⟩ := reached.sound
  refine ⟨fun token identity inside => sound (token, identity) inside,
    fun token identity => sound.resolve_iff, ?_, ?_⟩
  · intro serving inside other
    obtain ⟨so_far, ended⟩ := (servings serving inside).alone other
    refine ⟨so_far, fun reply finished => ?_⟩
    obtain ⟨same, calls⟩ := ended reply finished
    exact ⟨by rw [same]; rfl, calls⟩
  · intro outside request other
    obtain ⟨reply, calls⟩ := handle_of_sound sound outside request other
    exact ⟨by simp only [Gateway.serve, reply], calls⟩

theorem cache_transparent_of_login :
    Interleaving.Reachable OneRoute.gateway 0 OneRoute.loggedIn ∧
      (OneRoute.token, OneRoute.alice) ∈ OneRoute.loggedIn.cache.entries ∧
      Token.decode OneRoute.token OneRoute.gateway.key = .ok OneRoute.alice := by
  have stored : (OneRoute.token, OneRoute.alice) ∈ OneRoute.loggedIn.cache.entries := by
    rw [OneRoute.cache_loggedIn]
    exact List.mem_cons_self
  exact ⟨OneRoute.reaches_loggedIn, stored,
    (cache_transparent OneRoute.reaches_loggedIn).1 _ _ stored⟩

end LoginGateway
