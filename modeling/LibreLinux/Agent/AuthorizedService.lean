import LibreLinux.Agent.GatedService
import LibreLinux.Agent.PolkitAuthorizer
import LibreLinux.Agent.SignOptions

/-!
# Methods behind polkit

A method that changes something checks its arguments, asks the authorizer and returns; what
follows is up to polkit, to the loop that the answer is posted to and to the completion. The
object of the methods, the store of the granted bodies and the authorizer are one system here.

The reply of polkit arrives on a thread of the authorizer, in any order and after any delay,
or as an error. A posted answer is run by the loop, or discarded with it. The destructor of
the authorizer drops the calls that are outstanding. The completion of a question is destroyed
once nothing holds it any more.
-/

namespace LibreLinux.Agent

open Runs Serial

/-- Methods with their check at the entry, and what polkit is asked for a request. -/
structure AuthorizedBodies (κ ρ σ : Type) extends GrantedBodies κ ρ σ where
  entry : κ → Option BusError
  action : κ → String
  sender : κ → String

/-- The object with its store, the authorizer, and the replies made at the entry. -/
structure AuthorizedService (κ ρ σ : Type) where
  service : GatedService κ ρ σ
  authorizer : PolkitAuthorizer := {}
  refused : List (Nat × BusError) := []

/-- A step of the bus, of polkit, of the loop or of the service. -/
inductive AuthorizedEvent (κ σ : Type) where
  | call (id : Nat) (request : κ) (facts : CallerFacts) (sent : Bool)
  | polkitReplies (index : Nat) (reply : PolkitReply)
  | dispatch (index : Nat)
  | discard (index : Nat)
  | stop
  | refuse (id : Nat)
  | enter (id : Nat)
  | runBody (id : Nat)
  | reply (id : Nat)
  | destroy (id : Nat)
  | close
  | elsewhere (store : σ)

variable {κ ρ σ : Type}

namespace AuthorizedService

/-- Whether a call with this number was taken. Each call has its own. -/
def taken (state : AuthorizedService κ ρ σ) (id : Nat) : Bool :=
  (state.service.object.questions id).isSome || state.refused.any (fun entry => entry.1 = id)

/-- A step of the service, with what the authorizer becomes. -/
def within (bodies : AuthorizedBodies κ ρ σ) (state : AuthorizedService κ ρ σ)
    (authorizer : PolkitAuthorizer) (event : ServiceEvent κ σ) :
    Option (AuthorizedService κ ρ σ) :=
  (GatedService.step bodies.toGrantedBodies state.service event).map
    (fun service => { state with service, authorizer })

/-- `authorizeAsync`: a call goes out, or the completion runs at once. -/
def authorizeAsync (bodies : AuthorizedBodies κ ρ σ) (state : AuthorizedService κ ρ σ) (id : Nat)
    (request : κ) (facts : CallerFacts) (sent : Bool) : Option (AuthorizedService κ ρ σ) :=
  match subjectFor (bodies.sender request) facts, sent with
  | some details, true => some { state with authorizer := { state.authorizer with
      calls := state.authorizer.calls ++ [⟨details, bodies.action request, id⟩] } }
  | _, _ => state.within bodies state.authorizer (.invoke id .undecided)

/-- `deliver`: the answer is posted, or the completion runs at once. -/
def deliver (bodies : AuthorizedBodies κ ρ σ) (state : AuthorizedService κ ρ σ)
    (calls : List CheckAuthorization) (id : Nat) (outcome : AuthorizationOutcome) :
    Option (AuthorizedService κ ρ σ) :=
  if state.authorizer.posts then
    some { state with authorizer := { state.authorizer with
      calls, posted := state.authorizer.posted ++ [(id, outcome)] } }
  else state.within bodies { state.authorizer with calls } (.invoke id outcome)

/-- One step. No method is called once the destructor of the authorizer ran: the object of
the methods is destroyed before. -/
def step (bodies : AuthorizedBodies κ ρ σ) (state : AuthorizedService κ ρ σ) :
    AuthorizedEvent κ σ → Option (AuthorizedService κ ρ σ)
  | .call id request facts sent =>
    if state.taken id then none
    else match bodies.entry request with
    | some error => some { state with refused := state.refused ++ [(id, error)] }
    | none =>
      if state.authorizer.stopped then none
      else (state.within bodies state.authorizer (.ask id request)).bind
        (fun asked => asked.authorizeAsync bodies id request facts sent)
  | .polkitReplies index reply =>
    (state.authorizer.calls[index]?).bind (fun call =>
      state.deliver bodies (state.authorizer.calls.eraseIdx index) call.done (outcomeOf reply))
  | .dispatch index =>
    (state.authorizer.posted[index]?).bind (fun posted =>
      state.within bodies { state.authorizer with
        posted := state.authorizer.posted.eraseIdx index } (.invoke posted.1 posted.2))
  | .discard index => some { state with authorizer := { state.authorizer with
      posted := state.authorizer.posted.eraseIdx index } }
  | .stop => some { state with authorizer := { state.authorizer with calls := [], stopped := true } }
  | .refuse id => state.within bodies state.authorizer (.refuse id)
  | .enter id => state.within bodies state.authorizer (.enter id)
  | .runBody id => state.within bodies state.authorizer (.runBody id)
  | .reply id => state.within bodies state.authorizer (.reply id)
  | .destroy id =>
    if id ∈ state.authorizer.holds then none
    else state.within bodies state.authorizer (.destroy id)
  | .close => state.within bodies state.authorizer .close
  | .elsewhere store => state.within bodies state.authorizer (.elsewhere store)

/-- What a step contributes to the serial history. -/
def command (state : AuthorizedService κ ρ σ) : AuthorizedEvent κ σ → Option (Command κ σ)
  | .runBody id => (state.service.asked id).map (.granted id)
  | .elsewhere store => some (.elsewhere store)
  | _ => none

/-- A service that a history accounts for. -/
def Serial (bodies : AuthorizedBodies κ ρ σ) (start : σ) (commands : List (Command κ σ))
    (service : GatedService κ ρ σ) : Prop :=
  ∃ past, GatedService.Serialized bodies.toGrantedBodies start past service ∧
    history GatedService.command past = commands

/-- The store is the one that the history leaves. -/
theorem Serial.store {bodies : AuthorizedBodies κ ρ σ} {start : σ} {commands : List (Command κ σ)}
    {service : GatedService κ ρ σ} (serial : Serial bodies start commands service) :
    service.store = after (GatedService.serve bodies.toGrantedBodies) start commands := by
  obtain ⟨past, serialized, rfl⟩ := serial
  exact serialized.store

/-- A step of the service extends the history by its command. -/
theorem serial_step (bodies : AuthorizedBodies κ ρ σ) (start : σ) (commands : List (Command κ σ))
    (service next : GatedService κ ρ σ) (event : ServiceEvent κ σ)
    (serial : Serial bodies start commands service)
    (stepped : GatedService.step bodies.toGrantedBodies service event = some next) :
    Serial bodies start (commands ++ (GatedService.command service event).toList) next := by
  obtain ⟨past, serialized, rfl⟩ := serial
  exact ⟨past ++ [(service, event)],
    GatedService.serialized_step bodies.toGrantedBodies start past service event next serialized
      stepped, history_concat _ past service event⟩

/-! ## Who holds a completion, and where a grant comes from -/

/-- A past of the system. -/
abbrev Past (κ ρ σ : Type) := List (AuthorizedService κ ρ σ × AuthorizedEvent κ σ)

/-- The call to polkit was made for a request that passed its check: it names the action of
the request and a subject built of what was known of the sender. -/
def Asked (bodies : AuthorizedBodies κ ρ σ) (past : Past κ ρ σ) (request : κ)
    (call : CheckAuthorization) : Prop :=
  bodies.entry request = none ∧ call.actionId = bodies.action request ∧
    ∃ origin facts, (origin, .call call.done request facts true) ∈ past ∧
      subjectFor (bodies.sender request) facts = some call.details

/-- polkit itself said yes to the call that was made for the request. -/
def Approved (bodies : AuthorizedBodies κ ρ σ) (past : Past κ ρ σ) (id : Nat) (request : κ) :
    Prop :=
  ∃ call earlier index isChallenge, call.done = id ∧ Asked bodies past request call ∧
    (earlier, .polkitReplies index (.checked true isChallenge)) ∈ past ∧
    earlier.authorizer.calls[index]? = some call

/-- The invariant. Each completion has one holder and has not run, each call outstanding was
made for its question, and each grant is polkit's. -/
structure Held (bodies : AuthorizedBodies κ ρ σ) (past : Past κ ρ σ)
    (service : GatedService κ ρ σ) (authorizer : PolkitAuthorizer) : Prop where
  distinct : authorizer.holds.Nodup
  pending : ∀ id ∈ authorizer.holds, ∃ question,
    service.object.questions id = some question ∧ question.phase = .pending
  made : ∀ call ∈ authorizer.calls, ∃ request,
    service.asked call.done = some request ∧ Asked bodies past request call
  posted : ∀ id, (id, .granted) ∈ authorizer.posted → ∃ request,
    service.asked id = some request ∧ Approved bodies past id request
  granted : ∀ id question, service.object.questions id = some question →
    question.outcome = some .granted → ∃ request,
      service.asked id = some request ∧ Approved bodies past id request

section Held

variable {bodies : AuthorizedBodies κ ρ σ} {past : Past κ ρ σ} {service next : GatedService κ ρ σ}
variable {authorizer : PolkitAuthorizer}

theorem Asked.later {request : κ} {call : CheckAuthorization} (asked : Asked bodies past request call)
    (more : Past κ ρ σ) : Asked bodies (past ++ more) request call := by
  obtain ⟨passed, action, origin, facts, member, subject⟩ := asked
  exact ⟨passed, action, origin, facts, List.mem_append_left _ member, subject⟩

theorem Approved.later {id : Nat} {request : κ} (approved : Approved bodies past id request)
    (more : Past κ ρ σ) : Approved bodies (past ++ more) id request := by
  obtain ⟨call, earlier, index, isChallenge, own, asked, member, found⟩ := approved
  exact ⟨call, earlier, index, isChallenge, own, asked.later more, List.mem_append_left _ member,
    found⟩

/-- What is held stays held as the past grows. -/
theorem Held.later (held : Held bodies past service authorizer) (more : Past κ ρ σ) :
    Held bodies (past ++ more) service authorizer where
  distinct := held.distinct
  pending := held.pending
  made := fun call member =>
    let ⟨request, recorded, asked⟩ := held.made call member
    ⟨request, recorded, asked.later more⟩
  posted := fun id member =>
    let ⟨request, recorded, approved⟩ := held.posted id member
    ⟨request, recorded, approved.later more⟩
  granted := fun id question present told =>
    let ⟨request, recorded, approved⟩ := held.granted id question present told
    ⟨request, recorded, approved.later more⟩

/-- An authorizer that gave up some of what it held. -/
theorem Held.less (held : Held bodies past service authorizer) (fewer : PolkitAuthorizer)
    (calls : fewer.calls.Sublist authorizer.calls)
    (posted : fewer.posted.Sublist authorizer.posted) : Held bodies past service fewer := by
  have holds : fewer.holds.Sublist authorizer.holds :=
    (calls.map CheckAuthorization.done).append (posted.map Prod.fst)
  exact {
    distinct := holds.nodup held.distinct
    pending := fun id member => held.pending id (holds.subset member)
    made := fun call member => held.made call (calls.subset member)
    posted := fun id member => held.posted id (posted.subset member)
    granted := held.granted }

/-- A step of the service that touches no completion the authorizer holds. -/
theorem Held.within (held : Held bodies past service authorizer) (event : ServiceEvent κ σ)
    (stepped : GatedService.step bodies.toGrantedBodies service event = some next)
    (untouched : ∀ id ∈ authorizer.holds,
      (∀ outcome, event ≠ .invoke id outcome) ∧ event ≠ .destroy id)
    (approved : ∀ id, event = .invoke id .granted → ∃ request,
      service.asked id = some request ∧ Approved bodies past id request) :
    Held bodies past next authorizer := by
  have framed := GatedService.step_framed bodies.toGrantedBodies event service next stepped
  have recorded : ∀ id ∈ authorizer.holds, next.asked id = service.asked id := by
    intro id member
    obtain ⟨question, present, _⟩ := held.pending id member
    exact framed.asked id question present
  refine ⟨held.distinct, ?_, ?_, ?_, ?_⟩
  · intro id member
    obtain ⟨question, present, waiting⟩ := held.pending id member
    exact ⟨question, framed.pending id question present waiting (untouched id member).1
      (untouched id member).2, waiting⟩
  · intro call member
    have holds : call.done ∈ authorizer.holds :=
      List.mem_append_left _ (List.mem_map_of_mem member)
    rw [recorded call.done holds]
    exact held.made call member
  · intro id member
    have holds : id ∈ authorizer.holds :=
      List.mem_append_right _ (List.mem_map_of_mem member)
    rw [recorded id holds]
    exact held.posted id member
  · intro id moved present told
    by_cases invoked : event = .invoke id .granted
    · obtain ⟨request, known, approval⟩ := approved id invoked
      refine ⟨request, ?_, approval⟩
      -- The invocation finds the question, so what it asked for is unchanged.
      subst event
      obtain ⟨object, performed, rfl⟩ := Option.map_eq_some_iff.mp stepped
      exact known
    · obtain ⟨question, earlier, before⟩ := framed.granted id moved present told invoked
      rw [framed.asked id question earlier]
      exact held.granted id question earlier before

/-- The completion of a new question goes to polkit with its call. -/
theorem Held.call (held : Held bodies past service authorizer) (call : CheckAuthorization)
    (request : κ) (question : Question ρ) (fresh : call.done ∉ authorizer.holds)
    (present : service.object.questions call.done = some question)
    (waiting : question.phase = .pending) (recorded : service.asked call.done = some request)
    (asked : Asked bodies past request call) :
    Held bodies past service { authorizer with calls := authorizer.calls ++ [call] } := by
  have moved : (PolkitAuthorizer.holds { authorizer with
      calls := authorizer.calls ++ [call] }).Perm (call.done :: authorizer.holds) := by
    simp only [PolkitAuthorizer.holds, List.map_append, List.map_cons, List.map_nil,
      List.append_assoc, List.singleton_append]
    exact List.perm_middle
  refine ⟨moved.nodup_iff.mpr (List.nodup_cons.mpr ⟨fresh, held.distinct⟩), ?_, ?_, held.posted,
    held.granted⟩
  · intro id member
    rcases List.mem_cons.mp (moved.mem_iff.mp member) with rfl | earlier
    · exact ⟨question, present, waiting⟩
    · exact held.pending id earlier
  · intro other member
    rcases List.mem_append.mp member with earlier | last
    · exact held.made other earlier
    · cases List.mem_singleton.mp last
      exact ⟨request, recorded, asked⟩

/-- A call that is answered leaves the calls, and nothing else holds its completion. -/
theorem holds_without_call (index : Nat) (call : CheckAuthorization)
    (found : authorizer.calls[index]? = some call) :
    (call.done :: PolkitAuthorizer.holds { authorizer with
      calls := authorizer.calls.eraseIdx index }).Perm authorizer.holds := by
  obtain ⟨bounded, rfl⟩ := List.getElem?_eq_some_iff.mp found
  have moved := (List.getElem_cons_eraseIdx_perm bounded).map CheckAuthorization.done
  exact moved.append_right _

/-- An answer that is run leaves the loop, and nothing else holds its completion. -/
theorem holds_without_posted (index : Nat) (answer : Nat × AuthorizationOutcome)
    (found : authorizer.posted[index]? = some answer) :
    (answer.1 :: PolkitAuthorizer.holds { authorizer with
      posted := authorizer.posted.eraseIdx index }).Perm authorizer.holds := by
  obtain ⟨bounded, rfl⟩ := List.getElem?_eq_some_iff.mp found
  have moved := (List.getElem_cons_eraseIdx_perm bounded).map Prod.fst
  exact List.perm_middle.symm.trans (moved.append_left _)

/-- polkit's yes approves the request its call was made for. -/
theorem approved_reply (state : AuthorizedService κ ρ σ) (index : Nat) (reply : PolkitReply)
    (call : CheckAuthorization) (request : κ) (found : state.authorizer.calls[index]? = some call)
    (asked : Asked bodies past request call) (yes : outcomeOf reply = .granted)
    (member : (state, .polkitReplies index reply) ∈ past) :
    Approved bodies past call.done request := by
  obtain ⟨isChallenge, rfl⟩ := (granted_iff reply).mp yes
  exact ⟨call, state, index, isChallenge, rfl, asked, member, found⟩

/-- An answer that was posted is held by the loop instead of the call. -/
theorem Held.post (held : Held bodies past service authorizer) (index : Nat)
    (call : CheckAuthorization) (outcome : AuthorizationOutcome)
    (found : authorizer.calls[index]? = some call)
    (approved : outcome = .granted → ∃ request,
      service.asked call.done = some request ∧ Approved bodies past call.done request) :
    Held bodies past service { authorizer with
      calls := authorizer.calls.eraseIdx index
      posted := authorizer.posted ++ [(call.done, outcome)] } := by
  have moved : (PolkitAuthorizer.holds { authorizer with
      calls := authorizer.calls.eraseIdx index
      posted := authorizer.posted ++ [(call.done, outcome)] }).Perm authorizer.holds := by
    refine List.Perm.trans ?_ (holds_without_call index call found)
    simp only [PolkitAuthorizer.holds, List.map_append, List.map_cons, List.map_nil,
      ← List.append_assoc]
    exact List.perm_append_singleton _ _
  refine ⟨moved.nodup_iff.mpr held.distinct,
    fun id member => held.pending id (moved.mem_iff.mp member),
    fun other member => held.made other ((List.eraseIdx_sublist _ _).subset member), ?_,
    held.granted⟩
  intro id member
  rcases List.mem_append.mp member with earlier | last
  · exact held.posted id earlier
  · obtain ⟨rfl, yes⟩ := Prod.mk.inj (List.mem_singleton.mp last)
    exact approved yes.symm

end Held

/-- A new question is on its way to polkit, or answered at once. -/
theorem held_authorize_async (bodies : AuthorizedBodies κ ρ σ) (past : Past κ ρ σ)
    (state next : AuthorizedService κ ρ σ) (id : Nat) (request : κ) (facts : CallerFacts)
    (sent : Bool) (question : Question ρ) (held : Held bodies past state.service state.authorizer)
    (fresh : id ∉ state.authorizer.holds)
    (present : state.service.object.questions id = some question)
    (waiting : question.phase = .pending) (recorded : state.service.asked id = some request)
    (passed : bodies.entry request = none)
    (called : ∃ origin, (origin, .call id request facts sent) ∈ past)
    (answered : state.authorizeAsync bodies id request facts sent = some next) :
    Held bodies past next.service next.authorizer := by
  have undecided : state.within bodies state.authorizer (.invoke id .undecided) = some next →
      Held bodies past next.service next.authorizer := by
    intro performed
    obtain ⟨service, invoked, rfl⟩ := Option.map_eq_some_iff.mp performed
    refine held.within (.invoke id .undecided) invoked ?_ (by simp)
    intro other holds
    refine ⟨fun outcome same => ?_, by simp⟩
    cases same
    exact fresh holds
  cases subject : subjectFor (bodies.sender request) facts with
  | none =>
    simp only [authorizeAsync, subject] at answered
    exact undecided answered
  | some details =>
    cases sent with
    | false =>
      simp only [authorizeAsync, subject] at answered
      exact undecided answered
    | true =>
      simp only [authorizeAsync, subject] at answered
      cases Option.some.inj answered
      obtain ⟨origin, member⟩ := called
      exact held.call ⟨details, bodies.action request, id⟩ request question fresh present waiting
        recorded ⟨passed, rfl, origin, facts, member, subject⟩

/-- A method call: refused at the entry, answered at once, or on its way to polkit. -/
theorem held_call (bodies : AuthorizedBodies κ ρ σ) (past : Past κ ρ σ)
    (state next : AuthorizedService κ ρ σ) (id : Nat) (request : κ) (facts : CallerFacts)
    (sent : Bool) (held : Held bodies past state.service state.authorizer)
    (member : (state, .call id request facts sent) ∈ past)
    (stepped : step bodies state (.call id request facts sent) = some next) :
    Held bodies past next.service next.authorizer := by
  simp only [step] at stepped
  split at stepped
  · cases stepped
  split at stepped
  · cases Option.some.inj stepped
    exact held
  rename_i passed
  split at stepped
  · cases stepped
  obtain ⟨asked, begun, answered⟩ := Option.bind_eq_some_iff.mp stepped
  obtain ⟨service, performed, rfl⟩ := Option.map_eq_some_iff.mp begun
  obtain ⟨absent, present, recorded⟩ :=
    GatedService.ask_inv bodies.toGrantedBodies state.service service id request performed
  have fresh : id ∉ state.authorizer.holds := by
    intro holds
    obtain ⟨question, earlier, _⟩ := held.pending id holds
    simp [absent] at earlier
  exact held_authorize_async bodies past { state with service } next id request facts sent _
    (held.within (.ask id request) performed (by simp) (by simp)) fresh present rfl recorded passed
    ⟨state, member⟩ answered

/-- Every step keeps the completions and the grants in order.

Proof: a completion moves from the call to the posted answer and from there to its question, and
is held once on the way. A step beside the authorizer touches nothing it holds; a grant is passed
on only with polkit's yes, which is in the past. -/
theorem held_step (bodies : AuthorizedBodies κ ρ σ) (past : Past κ ρ σ)
    (state next : AuthorizedService κ ρ σ) (event : AuthorizedEvent κ σ)
    (held : Held bodies past state.service state.authorizer)
    (stepped : step bodies state event = some next) :
    Held bodies (past ++ [(state, event)]) next.service next.authorizer := by
  have later := held.later [(state, event)]
  have member : (state, event) ∈ past ++ [(state, event)] := by simp
  -- A step of the service beside the authorizer.
  have beside : ∀ (inner : ServiceEvent κ σ), state.within bodies state.authorizer inner =
      some next → (∀ id ∈ state.authorizer.holds,
        (∀ outcome, inner ≠ .invoke id outcome) ∧ inner ≠ .destroy id) →
      (∀ id, inner ≠ .invoke id .granted) →
      Held bodies (past ++ [(state, event)]) next.service next.authorizer := by
    intro inner performed untouched noGrant
    obtain ⟨service, moved, rfl⟩ := Option.map_eq_some_iff.mp performed
    exact later.within inner moved untouched (fun id same => absurd same (noGrant id))
  -- A completion that is invoked leaves its holder.
  have invoked : ∀ (authorizer : PolkitAuthorizer) (id : Nat) (outcome : AuthorizationOutcome),
      (id :: authorizer.holds).Perm state.authorizer.holds →
      Held bodies (past ++ [(state, event)]) state.service authorizer →
      state.within bodies authorizer (.invoke id outcome) = some next →
      (outcome = .granted → ∃ request, state.service.asked id = some request ∧
        Approved bodies (past ++ [(state, event)]) id request) →
      Held bodies (past ++ [(state, event)]) next.service next.authorizer := by
    intro authorizer id outcome moved less performed approved
    obtain ⟨service, invoked, rfl⟩ := Option.map_eq_some_iff.mp performed
    have absent : id ∉ authorizer.holds :=
      (List.nodup_cons.mp (moved.nodup_iff.mpr held.distinct)).1
    refine less.within (.invoke id outcome) invoked ?_ ?_
    · intro other holds
      refine ⟨fun told same => ?_, by simp⟩
      cases same
      exact absent holds
    · intro other same
      cases same
      exact approved rfl
  cases event with
  | call id request facts sent =>
    exact held_call bodies _ state next id request facts sent later member stepped
  | polkitReplies index reply =>
    obtain ⟨call, found, delivered⟩ := Option.bind_eq_some_iff.mp stepped
    have approved : outcomeOf reply = .granted → ∃ request,
        state.service.asked call.done = some request ∧
          Approved bodies (past ++ [(state, .polkitReplies index reply)]) call.done request := by
      intro yes
      obtain ⟨request, recorded, asked⟩ := later.made call (List.mem_of_getElem? found)
      exact ⟨request, recorded, approved_reply state index reply call request found asked yes member⟩
    unfold deliver at delivered
    split at delivered
    · cases Option.some.inj delivered
      exact later.post index call (outcomeOf reply) found approved
    · exact invoked _ call.done (outcomeOf reply) (holds_without_call index call found)
        (later.less _ (List.eraseIdx_sublist _ _) (List.Sublist.refl _)) delivered approved
  | dispatch index =>
    obtain ⟨answer, found, performed⟩ := Option.bind_eq_some_iff.mp stepped
    refine invoked _ answer.1 answer.2 (holds_without_posted index answer found)
      (later.less _ (List.Sublist.refl _) (List.eraseIdx_sublist _ _)) performed ?_
    intro yes
    have posted := List.mem_of_getElem? found
    exact later.posted answer.1 (yes ▸ posted)
  | discard index =>
    cases Option.some.inj stepped
    exact later.less _ (List.Sublist.refl _) (List.eraseIdx_sublist _ _)
  | stop =>
    cases Option.some.inj stepped
    exact later.less _ (List.nil_sublist _) (List.Sublist.refl _)
  | refuse id => exact beside _ stepped (by simp) (by simp)
  | enter id => exact beside _ stepped (by simp) (by simp)
  | runBody id => exact beside _ stepped (by simp) (by simp)
  | reply id => exact beside _ stepped (by simp) (by simp)
  | destroy id =>
    simp only [step] at stepped
    split at stepped
    · cases stepped
    · rename_i free
      refine beside _ stepped ?_ (by simp)
      intro other holds
      refine ⟨by simp, fun same => ?_⟩
      cases same
      exact free holds
  | close => exact beside _ stepped (by simp) (by simp)
  | elsewhere store => exact beside _ stepped (by simp) (by simp)

/-- Every step extends the serial history by its command.

Proof: the service inside makes at most two steps for one of the system, and only the body and a
change made elsewhere are in its history. -/
theorem serial_command (bodies : AuthorizedBodies κ ρ σ) (start : σ)
    (commands : List (Command κ σ)) (state next : AuthorizedService κ ρ σ)
    (event : AuthorizedEvent κ σ) (serial : Serial bodies start commands state.service)
    (stepped : step bodies state event = some next) :
    Serial bodies start (commands ++ (command state event).toList) next.service := by
  have within : ∀ (other : AuthorizedService κ ρ σ) authorizer inner after,
      Serial bodies start commands other.service →
      other.within bodies authorizer inner = some after →
      Serial bodies start (commands ++ (GatedService.command other.service inner).toList)
        after.service := by
    intro other authorizer inner after before performed
    obtain ⟨service, moved, rfl⟩ := Option.map_eq_some_iff.mp performed
    exact serial_step bodies start commands other.service service inner before moved
  -- A step of the service without a command leaves the history.
  have silent : ∀ (other : AuthorizedService κ ρ σ) authorizer inner after,
      GatedService.command other.service inner = none →
      Serial bodies start commands other.service →
      other.within bodies authorizer inner = some after →
      Serial bodies start commands after.service := by
    intro other authorizer inner after idle before performed
    simpa [idle] using within other authorizer inner after before performed
  cases event with
  | call id request facts sent =>
    simp only [command, Option.toList_none, List.append_nil]
    simp only [step] at stepped
    split at stepped
    · cases stepped
    split at stepped
    · cases Option.some.inj stepped
      exact serial
    split at stepped
    · cases stepped
    obtain ⟨asked, begun, answered⟩ := Option.bind_eq_some_iff.mp stepped
    have asking := silent state _ _ asked rfl serial begun
    unfold authorizeAsync at answered
    split at answered
    · cases Option.some.inj answered
      exact asking
    · exact silent asked _ _ next rfl asking answered
  | polkitReplies index reply =>
    simp only [command, Option.toList_none, List.append_nil]
    obtain ⟨call, found, delivered⟩ := Option.bind_eq_some_iff.mp stepped
    unfold deliver at delivered
    split at delivered
    · cases Option.some.inj delivered
      exact serial
    · exact silent state _ _ next rfl serial delivered
  | dispatch index =>
    simp only [command, Option.toList_none, List.append_nil]
    obtain ⟨answer, found, performed⟩ := Option.bind_eq_some_iff.mp stepped
    exact silent state _ _ next rfl serial performed
  | discard index =>
    simp only [command, Option.toList_none, List.append_nil]
    cases Option.some.inj stepped
    exact serial
  | stop =>
    simp only [command, Option.toList_none, List.append_nil]
    cases Option.some.inj stepped
    exact serial
  | destroy id =>
    simp only [step] at stepped
    split at stepped
    · cases stepped
    · exact within state _ _ next serial stepped
  | refuse id => exact within state _ _ next serial stepped
  | enter id => exact within state _ _ next serial stepped
  | runBody id => exact within state _ _ next serial stepped
  | reply id => exact within state _ _ next serial stepped
  | close => exact within state _ _ next serial stepped
  | elsewhere store => exact within state _ _ next serial stepped

/-- Every run is serial, and its grants are polkit's.

Proof: by induction over the steps, with the past for the trace; the two invariants do not need
each other. -/
theorem run_authorized (bodies : AuthorizedBodies κ ρ σ) (start : σ) (posts : Bool)
    (events : List (AuthorizedEvent κ σ)) (state : AuthorizedService κ ρ σ)
    (reached : run (step bodies)
      { service := { store := start }, authorizer := { posts } } events = some state) :
    Serial bodies start (history command (trace (step bodies)
        { service := { store := start }, authorizer := { posts } } events)) state.service ∧
      Held bodies (trace (step bodies)
        { service := { store := start }, authorizer := { posts } } events)
        state.service state.authorizer := by
  refine trace_invariant (step bodies) (fun past state =>
    Serial bodies start (history command past) state.service ∧
      Held bodies past state.service state.authorizer) ?_ events _ state ?_ reached
  · rintro past before event next ⟨serial, held⟩ stepped
    refine ⟨?_, held_step bodies past before next event held stepped⟩
    rw [history_concat]
    exact serial_command bodies start _ before next event serial stepped
  · refine ⟨⟨[], ?_, rfl⟩, ?_⟩
    · exact GatedService.run_serialized bodies.toGrantedBodies start [] _ rfl
    · exact ⟨by simp [PolkitAuthorizer.holds], by simp [PolkitAuthorizer.holds], by simp, by simp,
        by simp⟩

/-- polkit said yes to a question about the action of the request and about a process that the
bus daemon described as its sender. -/
def PolkitSaidYes (bodies : AuthorizedBodies κ ρ σ) (past : Past κ ρ σ) (id : Nat) (request : κ) :
    Prop :=
  ∃ call earlier index isChallenge origin credentials procStat process, call.done = id ∧
    (origin, .call id request ⟨some credentials, procStat⟩ true) ∈ past ∧
    Describes credentials (readStartTime ⟨some credentials, procStat⟩) process ∧
    polkitReads call.details = some process ∧ call.actionId = bodies.action request ∧
    (earlier, .polkitReplies index (.checked true isChallenge)) ∈ past ∧
    earlier.authorizer.calls[index]? = some call

/-- A subject is built only of a caller with a name and with credentials. -/
theorem subject_for_inv (busName : String) (facts : CallerFacts) (details : Credentials)
    (built : subjectFor busName facts = some details) :
    busName ≠ "" ∧ ∃ credentials, facts.credentials = some credentials ∧
      unixProcessDetailsFrom credentials (readStartTime facts) = some details := by
  unfold subjectFor at built
  split at built
  · cases built
  · rename_i named
    exact ⟨named, Option.bind_eq_some_iff.mp built⟩

/-- An approved request passed its check and has a sender, and polkit said yes about it. -/
theorem Approved.saidYes {bodies : AuthorizedBodies κ ρ σ} {past : Past κ ρ σ} {id : Nat}
    {request : κ} (approved : Approved bodies past id request) :
    bodies.entry request = none ∧ bodies.sender request ≠ "" ∧
      PolkitSaidYes bodies past id request := by
  obtain ⟨call, earlier, index, isChallenge, rfl, asked, replied, found⟩ := approved
  obtain ⟨passed, action, origin, facts, called, subject⟩ := asked
  obtain ⟨named, credentials, known, built⟩ := subject_for_inv _ facts call.details subject
  obtain ⟨process, read, described⟩ := details_read credentials call.details _ built
  obtain ⟨_, procStat⟩ := facts
  cases known
  exact ⟨passed, named, call, earlier, index, isChallenge, origin, credentials, procStat, process,
    rfl, called, described, read, action, replied, found⟩

/-- Every body in the history of a run was granted to its request by polkit. -/
theorem granted_approved (bodies : AuthorizedBodies κ ρ σ) (start : σ) (past : Past κ ρ σ)
    (commands : List (Command κ σ)) (state : AuthorizedService κ ρ σ)
    (serial : Serial bodies start commands state.service)
    (held : Held bodies past state.service state.authorizer) (id : Nat) (request : κ)
    (member : .granted id request ∈ commands) : Approved bodies past id request := by
  obtain ⟨servicePast, serialized, rfl⟩ := serial
  have ran := GatedService.mem_served _ id request member
  cases present : state.service.object.questions id with
  | none => exact absurd ran (serialized.fresh id present)
  | some question =>
    obtain ⟨_, _, once, _⟩ := (serialized.accounts id question present).ran ran
    have ledger := serialized.coherent.ledgers id question present
    have permitted := (Question.ledger_bounds ledger).2.2 once
    obtain ⟨other, recorded, approved⟩ := held.granted id question present permitted.1
    cases Option.some.inj (recorded.symm.trans (serialized.requests id request member))
    exact approved

/-! ## What became of the calls -/

/-- Every call that was taken is on record: one refused at the entry has that error as its one
answer and asked nothing, any other asked its question. And every error on record answers a call
that was refused so. -/
structure Recorded (bodies : AuthorizedBodies κ ρ σ) (past : Past κ ρ σ)
    (state : AuthorizedService κ ρ σ) : Prop where
  refused : ∀ origin id request facts sent error, (origin, .call id request facts sent) ∈ past →
    bodies.entry request = some error →
    state.refused.filter (fun entry => entry.1 = id) = [(id, error)] ∧
      state.service.object.questions id = none
  asked : ∀ origin id request facts sent, (origin, .call id request facts sent) ∈ past →
    bodies.entry request = none →
    state.refused.filter (fun entry => entry.1 = id) = [] ∧
      (state.service.object.questions id).isSome
  called : ∀ id error, (id, error) ∈ state.refused → ∃ origin request facts sent,
    (origin, .call id request facts sent) ∈ past ∧ bodies.entry request = some error

section Recorded

variable {bodies : AuthorizedBodies κ ρ σ} {past : Past κ ρ σ} {state next : AuthorizedService κ ρ σ}

/-- A step of the service inside refuses nothing, and asks a question only where it asks one. -/
theorem within_present (authorizer : PolkitAuthorizer) (event : ServiceEvent κ σ)
    (stepped : state.within bodies authorizer event = some next) :
    next.refused = state.refused ∧ ∀ id, (next.service.object.questions id).isSome ↔
      (state.service.object.questions id).isSome ∨ ∃ request, event = .ask id request := by
  obtain ⟨service, moved, rfl⟩ := Option.map_eq_some_iff.mp stepped
  exact ⟨rfl, GatedService.step_present bodies.toGrantedBodies event state.service service moved⟩

/-- A call is refused at the entry, or asks its question; it has a number of its own. -/
theorem call_present (id : Nat) (request : κ) (facts : CallerFacts) (sent : Bool)
    (stepped : step bodies state (.call id request facts sent) = some next) :
    state.taken id = false ∧
      ((∃ error, bodies.entry request = some error ∧
          next = { state with refused := state.refused ++ [(id, error)] }) ∨
        (bodies.entry request = none ∧ next.refused = state.refused ∧
          ∀ other, (next.service.object.questions other).isSome ↔
            (state.service.object.questions other).isSome ∨ other = id)) := by
  simp only [step] at stepped
  split at stepped
  · cases stepped
  rename_i fresh
  refine ⟨by simpa using fresh, ?_⟩
  split at stepped
  · rename_i error refused
    exact .inl ⟨error, refused, (Option.some.inj stepped).symm⟩
  rename_i passed
  split at stepped
  · cases stepped
  obtain ⟨asked, begun, answered⟩ := Option.bind_eq_some_iff.mp stepped
  obtain ⟨same, present⟩ := within_present _ _ begun
  have kept : next.refused = asked.refused ∧ ∀ other,
      (next.service.object.questions other).isSome ↔
        (asked.service.object.questions other).isSome := by
    unfold authorizeAsync at answered
    split at answered
    · cases Option.some.inj answered
      exact ⟨rfl, fun _ => Iff.rfl⟩
    · obtain ⟨same, present⟩ := within_present _ _ answered
      exact ⟨same, fun other => by simp [present other]⟩
  refine .inr ⟨passed, kept.1.trans same, fun other => ?_⟩
  rw [kept.2 other, present other]
  simp [@eq_comm _ id other]

/-- No other step refuses or asks anything. -/
theorem other_present (event : AuthorizedEvent κ σ)
    (other : ∀ id request facts sent, event ≠ .call id request facts sent)
    (stepped : step bodies state event = some next) :
    next.refused = state.refused ∧ ∀ id, (next.service.object.questions id).isSome ↔
      (state.service.object.questions id).isSome := by
  have inside : ∀ authorizer inner, state.within bodies authorizer inner = some next →
      (∀ id request, inner ≠ .ask id request) →
      next.refused = state.refused ∧ ∀ id, (next.service.object.questions id).isSome ↔
        (state.service.object.questions id).isSome := by
    intro authorizer inner performed silent
    obtain ⟨same, present⟩ := within_present authorizer inner performed
    exact ⟨same, fun id => by simp [present id, silent id]⟩
  cases event with
  | call id request facts sent => exact absurd rfl (other id request facts sent)
  | polkitReplies index reply =>
    obtain ⟨call, found, delivered⟩ := Option.bind_eq_some_iff.mp stepped
    unfold deliver at delivered
    split at delivered
    · cases Option.some.inj delivered
      exact ⟨rfl, fun _ => Iff.rfl⟩
    · exact inside _ _ delivered (by simp)
  | dispatch index =>
    obtain ⟨answer, found, performed⟩ := Option.bind_eq_some_iff.mp stepped
    exact inside _ _ performed (by simp)
  | discard index =>
    cases Option.some.inj stepped
    exact ⟨rfl, fun _ => Iff.rfl⟩
  | stop =>
    cases Option.some.inj stepped
    exact ⟨rfl, fun _ => Iff.rfl⟩
  | destroy id =>
    simp only [step] at stepped
    split at stepped
    · cases stepped
    · exact inside _ _ stepped (by simp)
  | _ => exact inside _ _ stepped (by simp)

/-- A new number is on no record. -/
theorem taken_false (id : Nat) (fresh : state.taken id = false) :
    state.service.object.questions id = none ∧
      state.refused.filter (fun entry => entry.1 = id) = [] := by
  simp only [taken, Bool.or_eq_false_iff, List.any_eq_false, decide_eq_true_eq,
    Option.isSome_eq_false_iff, Option.isNone_iff_eq_none] at fresh
  exact ⟨fresh.1, List.filter_eq_nil_iff.mpr (by simpa using fresh.2)⟩

/-- The number of a call on record is taken. -/
theorem recorded_taken (recorded : Recorded bodies past state)
    (origin : AuthorizedService κ ρ σ) (id : Nat) (request : κ) (facts : CallerFacts) (sent : Bool)
    (called : (origin, .call id request facts sent) ∈ past) : state.taken id = true := by
  cases entry : bodies.entry request with
  | some error =>
    obtain ⟨once, -⟩ := recorded.refused origin id request facts sent error called entry
    have listed : (id, error) ∈ state.refused.filter (fun entry => entry.1 = id) :=
      once ▸ List.mem_singleton_self _
    rw [taken, Bool.or_eq_true, List.any_eq_true]
    exact .inr ⟨(id, error), (List.mem_filter.mp listed).1, by simp⟩
  | none =>
    obtain ⟨-, asked⟩ := recorded.asked origin id request facts sent called entry
    rw [taken, asked, Bool.true_or]

/-- A new number is not that of a call on record. -/
theorem recorded_apart (recorded : Recorded bodies past state) (id : Nat)
    (fresh : state.taken id = false) (origin : AuthorizedService κ ρ σ) (other : Nat)
    (request : κ) (facts : CallerFacts) (sent : Bool)
    (called : (origin, .call other request facts sent) ∈ past) : id ≠ other := by
  rintro rfl
  rw [recorded_taken recorded origin id request facts sent called] at fresh
  cases fresh

/-- A call that is refused at the entry goes on record with its error. -/
theorem recorded_refused (recorded : Recorded bodies past state) (id : Nat) (request : κ)
    (facts : CallerFacts) (sent : Bool) (error : BusError) (fresh : state.taken id = false)
    (refuses : bodies.entry request = some error) :
    Recorded bodies (past ++ [(state, .call id request facts sent)])
      { state with refused := state.refused ++ [(id, error)] } := by
  obtain ⟨absent, unrefused⟩ := taken_false id fresh
  constructor
  · intro origin other asked known sent' reason member refused
    rcases List.mem_append.mp member with earlier | latest
    · obtain ⟨once, unasked⟩ :=
        recorded.refused origin other asked known sent' reason earlier refused
      have different := recorded_apart recorded id fresh origin other asked known sent' earlier
      exact ⟨by simp [List.filter_append, once, different], unasked⟩
    · cases List.mem_singleton.mp latest
      cases refuses.symm.trans refused
      exact ⟨by simp [List.filter_append, unrefused], absent⟩
  · intro origin other asked known sent' member passed
    rcases List.mem_append.mp member with earlier | latest
    · obtain ⟨unanswered, present⟩ := recorded.asked origin other asked known sent' earlier passed
      have different := recorded_apart recorded id fresh origin other asked known sent' earlier
      exact ⟨by simp [List.filter_append, unanswered, different], present⟩
    · cases List.mem_singleton.mp latest
      cases refuses.symm.trans passed
  · intro other reason member
    rcases List.mem_append.mp member with earlier | latest
    · obtain ⟨origin, asked, known, sent', called, refused⟩ := recorded.called other reason earlier
      exact ⟨origin, asked, known, sent', List.mem_append_left _ called, refused⟩
    · cases List.mem_singleton.mp latest
      exact ⟨state, request, facts, sent, by simp, refuses⟩

/-- A call that asks its question goes on record with it. -/
theorem recorded_asked (recorded : Recorded bodies past state) (id : Nat) (request : κ)
    (facts : CallerFacts) (sent : Bool) (fresh : state.taken id = false)
    (passes : bodies.entry request = none) (same : next.refused = state.refused)
    (present : ∀ other, (next.service.object.questions other).isSome ↔
      (state.service.object.questions other).isSome ∨ other = id) :
    Recorded bodies (past ++ [(state, .call id request facts sent)]) next := by
  obtain ⟨-, unrefused⟩ := taken_false id fresh
  constructor
  · intro origin other asked known sent' reason member refused
    rcases List.mem_append.mp member with earlier | latest
    · obtain ⟨once, unasked⟩ :=
        recorded.refused origin other asked known sent' reason earlier refused
      have different := recorded_apart recorded id fresh origin other asked known sent' earlier
      refine ⟨by rw [same, once], Option.not_isSome_iff_eq_none.mp ?_⟩
      rw [present other]
      simp [unasked, different.symm]
    · cases List.mem_singleton.mp latest
      cases passes.symm.trans refused
  · intro origin other asked known sent' member passed
    rw [same, present other]
    rcases List.mem_append.mp member with earlier | latest
    · obtain ⟨unanswered, before⟩ := recorded.asked origin other asked known sent' earlier passed
      exact ⟨unanswered, .inl before⟩
    · cases List.mem_singleton.mp latest
      exact ⟨unrefused, .inr rfl⟩
  · intro other reason member
    rw [same] at member
    obtain ⟨origin, asked, known, sent', called, refused⟩ := recorded.called other reason member
    exact ⟨origin, asked, known, sent', List.mem_append_left _ called, refused⟩

/-- Every step keeps the calls on record. -/
theorem recorded_step (bodies : AuthorizedBodies κ ρ σ) (past : Past κ ρ σ)
    (state : AuthorizedService κ ρ σ) (event : AuthorizedEvent κ σ)
    (next : AuthorizedService κ ρ σ) (recorded : Recorded bodies past state)
    (stepped : step bodies state event = some next) :
    Recorded bodies (past ++ [(state, event)]) next := by
  by_cases calls : ∃ id request facts sent, event = .call id request facts sent
  · obtain ⟨id, request, facts, sent, rfl⟩ := calls
    obtain ⟨fresh, ⟨error, refuses, rfl⟩ | ⟨passes, same, present⟩⟩ :=
      call_present id request facts sent stepped
    · exact recorded_refused recorded id request facts sent error fresh refuses
    · exact recorded_asked recorded id request facts sent fresh passes same present
  · have other : ∀ id request facts sent, event ≠ .call id request facts sent :=
      fun id request facts sent same => calls ⟨id, request, facts, sent, same⟩
    obtain ⟨same, present⟩ := other_present event other stepped
    have earlier : ∀ origin id request facts sent,
        (origin, .call id request facts sent) ∈ past ++ [(state, event)] →
        (origin, .call id request facts sent) ∈ past := by
      intro origin id request facts sent member
      rcases List.mem_append.mp member with before | latest
      · exact before
      · cases List.mem_singleton.mp latest
        exact absurd rfl (other id request facts sent)
    constructor
    · intro origin id request facts sent error member refused
      obtain ⟨once, absent⟩ :=
        recorded.refused origin id request facts sent error (earlier _ _ _ _ _ member) refused
      refine ⟨by rw [same, once], Option.not_isSome_iff_eq_none.mp ?_⟩
      rw [present id, absent]
      simp
    · intro origin id request facts sent member passed
      rw [same, present id]
      exact recorded.asked origin id request facts sent (earlier _ _ _ _ _ member) passed
    · intro id error member
      rw [same] at member
      obtain ⟨origin, request, facts, sent, called, refused⟩ := recorded.called id error member
      exact ⟨origin, request, facts, sent, List.mem_append_left _ called, refused⟩

/-- In every run the calls are on record. -/
theorem run_recorded (bodies : AuthorizedBodies κ ρ σ) (start : σ) (posts : Bool)
    (events : List (AuthorizedEvent κ σ)) (state : AuthorizedService κ ρ σ)
    (reached : run (step bodies)
      { service := { store := start }, authorizer := { posts } } events = some state) :
    Recorded bodies (trace (step bodies)
      { service := { store := start }, authorizer := { posts } } events) state :=
  trace_invariant (step bodies) (Recorded bodies) (recorded_step bodies) events _ state
    ⟨by simp, by simp, by simp⟩ reached

end Recorded

/-! ## Nobody waits for nothing -/

/-- Nothing is left to do but to call further methods: polkit owes no answer, the loop has
none, and no completion can go on. -/
structure Quiescent (bodies : AuthorizedBodies κ ρ σ) (state : AuthorizedService κ ρ σ) : Prop where
  replied : ∀ index reply, step bodies state (.polkitReplies index reply) = none
  dispatched : ∀ index, step bodies state (.dispatch index) = none
  refused : ∀ id, step bodies state (.refuse id) = none
  entered : ∀ id, step bodies state (.enter id) = none
  ran : ∀ id, step bodies state (.runBody id) = none
  answered : ∀ id, step bodies state (.reply id) = none
  destroyed : ∀ id, step bodies state (.destroy id) = none

section Quiescence

variable {bodies : AuthorizedBodies κ ρ σ} {state : AuthorizedService κ ρ σ}

/-- The object refuses what a refused step of the service would do. -/
theorem refused_forward (authorizer : PolkitAuthorizer) (inner : ServiceEvent κ σ)
    (event : ReplyEvent ρ)
    (forwards : GatedService.step bodies.toGrantedBodies state.service inner =
      state.service.forward event)
    (refused : state.within bodies authorizer inner = none) :
    state.service.object.step event = none := by
  simpa [within, forwards, GatedService.forward] using refused

/-- A question that is asked of the object and can move can take its step. -/
theorem stuck_move (id : Nat) (gate : GrantGate) (question : Question ρ)
    (move : Question ρ → Option (Question ρ))
    (present : state.service.object.questions id = some question)
    (stuck : state.service.object.advance id gate move = none) : move question = none := by
  apply Option.eq_none_iff_forall_ne_some.mpr
  simpa [GatedObject.advance, present] using stuck

/-- A completion that an answer arrives for is waiting for it. -/
theorem invoke_enabled (authorizer : PolkitAuthorizer) (id : Nat) (outcome : AuthorizationOutcome)
    (question : Question ρ) (present : state.service.object.questions id = some question)
    (waiting : question.phase = .pending) :
    state.within bodies authorizer (.invoke id outcome) ≠ none := by
  intro refused
  have stuck := refused_forward authorizer (.invoke id outcome) (.invoke id outcome) rfl refused
  have none := stuck_move id _ question _ present stuck
  simp [Question.invoke, waiting] at none

/-- No answer is outstanding in a quiescent state. -/
theorem quiescent_holds {past : Past κ ρ σ} (quiescent : Quiescent bodies state)
    (held : Held bodies past state.service state.authorizer) : state.authorizer.holds = [] := by
  have noCalls : state.authorizer.calls = [] := by
    by_contra some
    obtain ⟨call, rest, calls⟩ := List.exists_cons_of_ne_nil some
    have found : state.authorizer.calls[0]? = .some call := by simp [calls]
    obtain ⟨question, present, waiting⟩ := held.pending call.done (by
      simp [PolkitAuthorizer.holds, calls])
    have refused := quiescent.replied 0 (.failed "")
    simp only [step, found, Option.bind_some, deliver] at refused
    split at refused
    · cases refused
    · exact invoke_enabled _ _ _ question present waiting refused
  have noPosted : state.authorizer.posted = [] := by
    by_contra some
    obtain ⟨answer, rest, posted⟩ := List.exists_cons_of_ne_nil some
    have found : state.authorizer.posted[0]? = .some answer := by simp [posted]
    obtain ⟨question, present, waiting⟩ := held.pending answer.1 (by
      simp [PolkitAuthorizer.holds, posted])
    have refused := quiescent.dispatched 0
    simp only [step, found, Option.bind_some] at refused
    exact invoke_enabled _ _ _ question present waiting refused
  simp [PolkitAuthorizer.holds, noCalls, noPosted]

/-- The gate is free in a quiescent state: whoever is inside can leave. -/
theorem quiescent_gate {past : List (GatedService κ ρ σ × ServiceEvent κ σ)} {start : σ}
    (quiescent : Quiescent bodies state)
    (serialized : GatedService.Serialized bodies.toGrantedBodies start past state.service) :
    state.service.object.gate.holder = none := by
  by_contra someone
  obtain ⟨id, holder⟩ := Option.ne_none_iff_exists'.mp someone
  obtain ⟨question, present⟩ := serialized.coherent.held id holder
  have inside := (serialized.coherent.locked id question present).mpr holder
  obtain ⟨request, recorded, _⟩ := serialized.asked id question present
  cases phase : question.phase with
  | inBody =>
    have refused := quiescent.ran id
    simp only [step, within, GatedService.step, recorded, Option.bind_some, Option.map_map,
      Option.map_eq_none_iff] at refused
    have stuck := stuck_move id _ question _ present refused
    simp [Question.runBody, phase] at stuck
  | ran result =>
    have stuck := refused_forward _ _ (.reply id) rfl (quiescent.answered id)
    have none := stuck_move id _ question _ present stuck
    simp [Question.reply, phase] at none
  | _ => simp [phase, Phase.holding] at inside

/-- A quiescent state has answered every question once. -/
theorem quiescent_destroyed {past : List (GatedService κ ρ σ × ServiceEvent κ σ)} {start : σ}
    {earlier : Past κ ρ σ} (quiescent : Quiescent bodies state)
    (serialized : GatedService.Serialized bodies.toGrantedBodies start past state.service)
    (held : Held bodies earlier state.service state.authorizer) (id : Nat)
    (question : Question ρ) (present : state.service.object.questions id = some question) :
    question.phase = .destroyed := by
  have free : id ∉ state.authorizer.holds := by simp [quiescent_holds quiescent held]
  have destroyable : question.destroy = none := by
    have refused := quiescent.destroyed id
    simp only [step, free, if_false] at refused
    exact stuck_move id _ question _ present (refused_forward _ _ (.destroy id) rfl refused)
  cases phase : question.phase with
  | pending => simp [Question.destroy, phase] at destroyable
  | returned => simp [Question.destroy, phase] at destroyable
  | destroyed => rfl
  | invoked outcome =>
    by_cases granted : outcome = .granted
    · have stuck := refused_forward _ _ (.enter id) rfl (quiescent.entered id)
      simp only [GatedObject.step, quiescent_gate quiescent serialized, ne_eq, not_true_eq_false,
        if_false] at stuck
      have none := stuck_move id _ question _ present stuck
      simp [Question.enter, phase, granted] at none
    · have stuck := refused_forward _ _ (.refuse id) rfl (quiescent.refused id)
      have none := stuck_move id _ question _ present stuck
      cases outcome <;> simp [Question.refuse, phase] at none granted
  | shutOut =>
    have stuck := refused_forward _ _ (.reply id) rfl (quiescent.answered id)
    have none := stuck_move id _ question _ present stuck
    simp [Question.reply, phase] at none
  | inBody =>
    have inside := (serialized.coherent.locked id question present).mp (by rw [phase]; rfl)
    simp [quiescent_gate quiescent serialized] at inside
  | ran result =>
    have inside := (serialized.coherent.locked id question present).mp (by rw [phase]; rfl)
    simp [quiescent_gate quiescent serialized] at inside

/-- Where the authorizer holds nothing and every completion is destroyed, nothing is left to
do. -/
theorem quiescent_of_destroyed (calls : state.authorizer.calls = [])
    (posted : state.authorizer.posted = [])
    (destroyed : ∀ id question, state.service.object.questions id = some question →
      question.phase = .destroyed) : Quiescent bodies state := by
  have stuck : ∀ id gate (move : Question ρ → Option (Question ρ)),
      (∀ question, question.phase = .destroyed → move question = none) →
      state.service.object.advance id gate move = none := by
    intro id gate move refuses
    cases present : state.service.object.questions id with
    | none => simp [GatedObject.advance, present]
    | some question =>
      simp [GatedObject.advance, present, refuses question (destroyed id question present)]
  refine ⟨by simp [step, calls], by simp [step, posted], ?_, ?_, ?_, ?_, ?_⟩ <;> intro id
  · simp only [step, within, GatedService.step, GatedService.forward, GatedObject.step,
      Option.map_eq_none_iff]
    exact stuck id _ _ (fun question phase => by simp [Question.refuse, phase])
  · simp only [step, within, GatedService.step, GatedService.forward, GatedObject.step,
      Option.map_eq_none_iff]
    split
    · rfl
    · exact stuck id _ _ (fun question phase => by simp [Question.enter, phase])
  · simp only [step, within, GatedService.step, GatedObject.step, Option.map_eq_none_iff,
      Option.bind_eq_none_iff]
    intro request _
    exact stuck id _ _ (fun question phase => by simp [Question.runBody, phase])
  · simp only [step, within, GatedService.step, GatedService.forward, GatedObject.step,
      Option.map_eq_none_iff]
    exact stuck id _ _ (fun question phase => by simp [Question.reply, phase])
  · simp only [step, within, GatedService.step, GatedService.forward, GatedObject.step]
    split
    · rfl
    · rw [Option.map_eq_none_iff, Option.map_eq_none_iff]
      exact stuck id _ _ (fun question phase => by simp [Question.destroy, phase])

end Quiescence

end AuthorizedService

end LibreLinux.Agent
