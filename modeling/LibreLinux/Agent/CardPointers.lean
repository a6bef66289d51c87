import LibreLinux.Agent.CardLifetimes

/-!
# Who holds which card object

The heap knows which variable points to which object, and the calls know where
they stand. These agree in every state that a run reaches: a variable points to
an object of a card exactly if its call has come to the point where it holds
that card. So no call finds its object gone, and the map has no object of a card
that is about to be published, which would be destroyed inside the mutex.

What a step does to the objects is said once, in `Effect`.
-/

namespace LibreLinux.Agent

open SharedPointers

namespace CardLifetimes

variable {π α ω : Type}

/-- The card whose object an update co-owns. -/
def held (update : TypeUpdate) : Option ObjectId :=
  if update.stage = .posted then none else some update.card

/-- The card whose object each variable holds. -/
def holding (frontend : CardVariable → Option ObjectId) (updates : Nat → Option TypeUpdate) :
    CardVariable → Option ObjectId
  | .update serial => (updates serial).bind held
  | pointer => frontend pointer

/-- The card whose object each variable holds, by where the calls stand. -/
def holds (state : CardLifetimes π α) : CardVariable → Option ObjectId :=
  holding state.frontend.heldCard state.updates

/-- The card whose object each variable holds, by the heap. -/
def points (state : CardLifetimes π α) (pointer : CardVariable) : Option ObjectId :=
  (state.heap.value pointer).map LiveCard.card

/-- A change of one of the frontend's variables. -/
theorem holding_frontend (frontend : CardVariable → Option ObjectId)
    (updates : Nat → Option TypeUpdate) (pointer : CardVariable) (card : Option ObjectId)
    (own : ∀ serial, pointer ≠ .update serial) :
    holding (Function.update frontend pointer card) updates =
      Function.update (holding frontend updates) pointer card := by
  funext other
  by_cases same : other = pointer
  · subst other
    cases pointer with
    | update serial => exact absurd rfl (own serial)
    | _ => simp [holding]
  · rw [Function.update_of_ne same]
    cases other <;> simp [holding, same]

/-- A change of one update. -/
theorem holding_update (frontend : CardVariable → Option ObjectId)
    (updates : Nat → Option TypeUpdate) (serial : Nat) (update : Option TypeUpdate) :
    holding frontend (Function.update updates serial update) =
      Function.update (holding frontend updates) (.update serial) (update.bind held) := by
  funext other
  cases other with
  | update other =>
    by_cases same : other = serial
    · simp [holding, same]
    · simp [holding, same]
  | _ => simp [holding]

/-- What was said at the path of a card. -/
def signals (state : CardLifetimes π α) (card : ObjectId) : List CardSignal :=
  state.announcements.filterMap (fun entry => if entry.card = card then some entry.signal else none)

/-- An announcement is heard at its own path. -/
theorem signals_announce (state : CardLifetimes π α) (card : ObjectId) (signal : CardSignal)
    (sent : Bool) (other : ObjectId) :
    (state.announce card signal sent).signals other =
      state.signals other ++ if card = other then [signal] else [] := by
  by_cases same : card = other
  · simp [signals, announce, same]
  · simp [signals, announce, same]

/-- An update has stored a type in the object and not announced it. -/
def Stale (state : CardLifetimes π α) (address : Nat) : Prop :=
  ∃ serial update, state.updates serial = some update ∧ update.stage = .stored ∧
    state.heap.points (.update serial) = some address

/-- The pointers are where the calls stand, and no destructor ran inside the mutex. -/
structure Placed (state : CardLifetimes π α) : Prop where
  frontend : state.frontend.Sound
  counted : state.heap.Counted
  placed : state.points = state.holds
  issued : ∀ serial, state.nextUpdate ≤ serial → state.updates serial = none
  unlocked : state.lockedTeardowns = []

/-- What the destructor of an object says at a path. -/
def lastWords (dead : Option LiveCard) (card : ObjectId) : List CardSignal :=
  match dead with
  | none => []
  | some live => if live.card = card then [.removed] else []

/-- What a step does to the objects and says about them: nothing; it lets go of a pointer; a call
constructs the object of the card it claimed; an update stores a type; an update tells it. -/
inductive Effect (cardType : π → String) (state next : CardLifetimes π α) :
    LifetimeEvent π ω → Prop
  | still (event : LifetimeEvent π ω) (objects : next.heap.valueAt = state.heap.valueAt)
      (heard : ∀ card, next.signals card = state.signals card)
      (stale : ∀ address, state.Stale address → next.Stale address) :
      Effect cardType state next event
  | released (event : LifetimeEvent π ω) (pointer : CardVariable) (dead : Option LiveCard)
      (released : state.heap.Released next.heap pointer dead)
      (heard : ∀ card, next.signals card = state.signals card ++ lastWords dead card)
      (stale : ∀ address, state.Stale address → next.Stale address) :
      Effect cardType state next event
  | made (serial : Nat) (sent : Bool) (resolve : Resolve π) (probe : π) (atrHex : String)
      (address : Nat) (present : state.frontend.resolves serial = some resolve)
      (claimed : resolve.stage = .claimed probe atrHex)
      (new : state.heap.valueAt address = none)
      (objects : next.heap.valueAt = Function.update state.heap.valueAt address
        (some ⟨resolve.card, cardType probe⟩))
      (heard : ∀ card, next.signals card = state.signals card ++
        if resolve.card = card then [.added (cardType probe)] else [])
      (begun : next.frontend.Begun resolve.card)
      (stale : ∀ address, state.Stale address → next.Stale address) :
      Effect cardType state next (.frontend (.construct serial) sent)
  | stored (serial : Nat) (update : TypeUpdate) (address : Nat) (live : LiveCard)
      (present : state.updates serial = some update)
      (alive : state.heap.valueAt address = some live) (own : live.card = update.card)
      (objects : next.heap.valueAt = Function.update state.heap.valueAt address
        (some { live with cardType := update.cardType }))
      (heard : ∀ card, next.signals card = state.signals card)
      (stale : ∀ address, state.Stale address → next.Stale address)
      (now : next.Stale address) : Effect cardType state next (.updateCardType serial)
  | changed (serial : Nat) (sent : Bool) (address : Nat) (live : LiveCard)
      (alive : state.heap.valueAt address = some live)
      (objects : next.heap.valueAt = state.heap.valueAt)
      (heard : ∀ card, next.signals card = state.signals card ++
        if live.card = card then [.changed live.cardType] else [])
      (stale : ∀ other, other ≠ address → state.Stale other → next.Stale other) :
      Effect cardType state next (.emitPropertiesChanged serial sent)

variable {state next : CardLifetimes π α}

/-- A change of one variable's object, seen from the cards. -/
theorem points_update (pointer : CardVariable) (live : Option LiveCard)
    (values : next.heap.value = Function.update state.heap.value pointer live) :
    next.points = Function.update state.points pointer (live.map LiveCard.card) := by
  funext other
  by_cases same : other = pointer
  · simp [points, values, same]
  · simp [points, values, same]

/-- Moving an object from variable to variable, seen from the cards. -/
theorem points_move (source target : CardVariable)
    (values : next.heap.value = Function.update (Function.update state.heap.value source none)
      target (state.heap.value source)) :
    next.points = Function.update (Function.update state.points source none) target
      (state.points source) := by
  funext other
  by_cases same : other = target
  · simp [points, values, same]
  · by_cases moved : other = source
    · subst other
      simp [points, values, same]
    · simp [points, values, same, moved]

/-- The destructor speaks last. -/
theorem signals_teardown (state : CardLifetimes π α) (locked sent : Bool) (dead : Option LiveCard)
    (card : ObjectId) :
    (state.teardown locked sent dead).signals card = state.signals card ++ lastWords dead card := by
  cases dead with
  | none => simp [teardown, lastWords]
  | some live => exact state.signals_announce live.card .removed sent card

/-- The steps that move or drop a pointer: the heap is this one, and whoever died was heard. -/
structure Handed (state next : CardLifetimes π α) (heap : SharedHeap CardVariable LiveCard)
    (dead : Option LiveCard) : Prop where
  heap : next.heap = heap
  updates : next.updates = state.updates
  nextUpdate : next.nextUpdate = state.nextUpdate
  locked : next.lockedTeardowns = state.lockedTeardowns
  heard : ∀ card, next.signals card = state.signals card ++ lastWords dead card

/-- Dropping a pointer outside the mutex. -/
theorem handed_drop (state : CardLifetimes π α) (pointer : CardVariable) (sent : Bool)
    (frontend : AgentFrontend π α) :
    Handed state { state.drop pointer sent with frontend } (state.heap.reset pointer)
      (state.heap.last pointer) := by
  have heard := signals_teardown { state with heap := state.heap.reset pointer } false sent
    (state.heap.last pointer)
  unfold drop
  generalize state.heap.last pointer = dead at heard ⊢
  cases dead <;> exact ⟨rfl, rfl, rfl, rfl, heard⟩

/-- Moving a pointer into an empty variable inside the mutex. -/
theorem handed_move (state : CardLifetimes π α) (source target : CardVariable) (sent : Bool)
    (frontend : AgentFrontend π α) (empty : state.heap.points target = none) :
    Handed state { state.moveLocked source target sent with frontend }
      (state.heap.moveAssign source target) (state.heap.last target) := by
  have without : state.heap.last target = none := by simp [SharedHeap.last, empty]
  unfold moveLocked
  rw [without]
  refine ⟨rfl, rfl, rfl, rfl, fun card => ?_⟩
  simp [teardown, lastWords, signals]

/-- A variable that no call uses is empty. -/
theorem empty_of_holds (placed : state.Placed) {pointer : CardVariable}
    (unused : state.holds pointer = none) : state.heap.points pointer = none := by
  by_contra pointing
  obtain ⟨address, located⟩ := Option.ne_none_iff_exists'.mp pointing
  obtain ⟨live, _, found⟩ := SharedHeap.value_of_points placed.counted located
  have seen := congrFun placed.placed pointer
  simp [points, found, unused] at seen

/-- A variable that a call uses points to an object of that call's card. -/
theorem live_of_holds (placed : state.Placed) {pointer : CardVariable} {card : ObjectId}
    (used : state.holds pointer = some card) :
    ∃ address live, state.heap.points pointer = some address ∧
      state.heap.valueAt address = some live ∧ state.heap.value pointer = some live ∧
      live.card = card := by
  have seen := congrFun placed.placed pointer
  rw [used, points, Option.map_eq_some_iff] at seen
  obtain ⟨live, found, own⟩ := seen
  obtain ⟨address, located, alive⟩ := Option.bind_eq_some_iff.mp found
  exact ⟨address, live, located, alive, found, own⟩

/-- An update that stored a type keeps its place when other variables change. -/
theorem stale_kept (updates : ∀ serial update, state.updates serial = some update →
      update.stage = .stored → next.updates serial = some update)
    (pointing : ∀ serial update, state.updates serial = some update → update.stage = .stored →
      next.heap.points (.update serial) = state.heap.points (.update serial))
    (address : Nat) (stale : state.Stale address) : next.Stale address := by
  obtain ⟨serial, update, present, stored, located⟩ := stale
  exact ⟨serial, update, updates serial update present stored, stored,
    (pointing serial update present stored).trans located⟩

/-- The frontend lets go of an object or passes it on. -/
theorem effect_handed (cardType : π → String) (event : LifetimeEvent π ω) (placed : state.Placed)
    {heap : SharedHeap CardVariable LiveCard} {dead : Option LiveCard} (pointer : CardVariable)
    (handed : Handed state next heap dead) (sound : next.frontend.Sound) (counted : heap.Counted)
    (released : state.heap.Released heap pointer dead)
    (pointing : ∀ serial, heap.points (.update serial) = state.heap.points (.update serial))
    (moved : next.points = next.holds) :
    next.Placed ∧ Effect cardType state next event := by
  refine ⟨⟨sound, handed.heap ▸ counted, moved, ?_, handed.locked.trans placed.unlocked⟩,
    .released event pointer dead (handed.heap ▸ released) handed.heard ?_⟩
  · intro serial beyond
    rw [handed.updates]
    exact placed.issued serial (handed.nextUpdate ▸ beyond)
  · refine stale_kept (fun serial update present _ => ?_) (fun serial _ _ _ => ?_)
    · rw [handed.updates]
      exact present
    · rw [handed.heap]
      exact pointing serial

/-- A variable of the frontend is dropped. -/
theorem effect_drop (cardType : π → String) (event : LifetimeEvent π ω) (placed : state.Placed)
    (pointer : CardVariable) (own : ∀ serial, pointer ≠ .update serial) (sent : Bool)
    (frontend : AgentFrontend π α) (sound : frontend.Sound)
    (held : frontend.heldCard = Function.update state.frontend.heldCard pointer none) :
    ({ state.drop pointer sent with frontend } : CardLifetimes π α).Placed ∧
      Effect cardType state { state.drop pointer sent with frontend } event := by
  have handed := state.handed_drop pointer sent frontend
  refine effect_handed cardType event placed pointer handed sound
    (SharedHeap.counted_reset placed.counted pointer)
    (SharedHeap.released_reset placed.counted pointer) ?_ ?_
  · intro serial
    rw [SharedHeap.points_reset placed.counted, Function.update_of_ne (own serial).symm]
  · rw [points_update pointer none (handed.heap ▸ SharedHeap.value_reset placed.counted pointer),
      placed.placed]
    change _ = holding frontend.heldCard _
    rw [handed.updates, held, holding_frontend _ _ _ _ own]
    rfl

/-- A variable of the frontend is moved into another, which is empty. -/
theorem effect_move (cardType : π → String) (event : LifetimeEvent π ω) (placed : state.Placed)
    (source target : CardVariable) (apart : source ≠ target)
    (ownSource : ∀ serial, source ≠ .update serial) (ownTarget : ∀ serial, target ≠ .update serial)
    (sent : Bool) (frontend : AgentFrontend π α) (sound : frontend.Sound)
    (unused : state.holds target = none)
    (held : frontend.heldCard = Function.update (Function.update state.frontend.heldCard source none)
      target (state.holds source)) :
    ({ state.moveLocked source target sent with frontend } : CardLifetimes π α).Placed ∧
      Effect cardType state { state.moveLocked source target sent with frontend } event := by
  have handed := state.handed_move source target sent frontend (empty_of_holds placed unused)
  refine effect_handed cardType event placed target handed sound
    (SharedHeap.counted_move_assign placed.counted apart)
    (SharedHeap.released_move_assign placed.counted source target) ?_ ?_
  · intro serial
    rw [SharedHeap.points_move_assign placed.counted apart,
      Function.update_of_ne (ownTarget serial).symm, Function.update_of_ne (ownSource serial).symm]
  · rw [points_move source target
        (handed.heap ▸ SharedHeap.value_move_assign placed.counted apart), placed.placed]
    change _ = holding frontend.heldCard _
    rw [handed.updates, held, holding_frontend _ _ _ _ ownTarget, holding_frontend _ _ _ _ ownSource]
    rfl

/-- The frontend leaves every card object where it is. -/
theorem effect_quiet (cardType : π → String) (event : LifetimeEvent π ω) (placed : state.Placed)
    (frontend : AgentFrontend π α) (sound : frontend.Sound)
    (held : frontend.heldCard = state.frontend.heldCard) :
    ({ state with frontend } : CardLifetimes π α).Placed ∧
      Effect cardType state { state with frontend } event := by
  refine ⟨⟨sound, placed.counted, ?_, placed.issued, placed.unlocked⟩,
    .still _ rfl (fun _ => rfl) (fun _ stale => stale)⟩
  refine placed.placed.trans ?_
  rw [holds, holds, held]

/-- A call constructs the object of the card it claimed. -/
theorem effect_construct (policy : CardResolutionPolicy π α ω) (cardType : π → String)
    (placed : state.Placed) (serial : Nat) (sent : Bool) (resolve : Resolve π) (probe : π)
    (atrHex : String) (object : CardObject π)
    (present : state.frontend.resolves serial = some resolve)
    (claimed : resolve.stage = .claimed probe atrHex) (frontend : AgentFrontend π α)
    (built : frontend = state.frontend.moveTo serial resolve (.built probe object))
    (stepped : AgentFrontend.step policy state.frontend (.construct serial) = some frontend) :
    ({ state.construct serial resolve.card (cardType probe) sent with frontend } :
      CardLifetimes π α).Placed ∧
      Effect cardType state
        { state.construct serial resolve.card (cardType probe) sent with frontend }
        (.frontend (.construct serial) sent : LifetimeEvent π ω) := by
  have unused : state.holds (.call serial) = none := by
    simp [holds, holding, AgentFrontend.heldCard, present, Resolve.object, claimed]
  have empty := empty_of_holds placed unused
  obtain ⟨pointing, objects, new⟩ := SharedHeap.make_shared_spec placed.counted (.call serial)
    (⟨resolve.card, cardType probe⟩ : LiveCard)
  have held : frontend.heldCard =
      Function.update state.frontend.heldCard (.call serial) (some resolve.card) := by
    rw [built, AgentFrontend.held_construct]
  refine ⟨⟨AgentFrontend.sound_step policy _ _ _ placed.frontend stepped,
    SharedHeap.counted_make_shared placed.counted _ _ empty, ?_, placed.issued, placed.unlocked⟩,
    .made serial sent resolve probe atrHex state.heap.next present claimed new objects ?_ ?_ ?_⟩
  · refine (points_update (.call serial) (some ⟨resolve.card, cardType probe⟩)
      (SharedHeap.value_make_shared placed.counted _ _)).trans ?_
    rw [placed.placed]
    change _ = holding frontend.heldCard state.updates
    rw [held, holding_frontend _ _ _ _ (by simp)]
    rfl
  · intro card
    exact signals_announce _ resolve.card _ sent card
  · change frontend.Begun resolve.card
    rw [built]
    exact AgentFrontend.begun_construct placed.frontend serial resolve probe atrHex object present
      claimed
  · refine stale_kept (fun _ _ present _ => present) (fun other _ _ _ => ?_)
    have apart : CardVariable.update other ≠ .call serial := by simp
    exact (congrFun pointing _).trans (Function.update_of_ne apart _ _)

/-- What a step of the frontend does to the card objects. -/
theorem effect_frontend (policy : CardResolutionPolicy π α ω) (cardType : π → String)
    (placed : state.Placed) (event : FrontendEvent π ω) (sent : Bool) (frontend : AgentFrontend π α)
    (stepped : AgentFrontend.step policy state.frontend event = some frontend) :
    ({ state.handOver cardType event sent with frontend } : CardLifetimes π α).Placed ∧
      Effect cardType state { state.handOver cardType event sent with frontend }
        (.frontend event sent : LifetimeEvent π ω) := by
  have sound := AgentFrontend.sound_step policy _ event _ placed.frontend stepped
  cases event with
  | construct serial =>
    obtain ⟨resolve, probe, atrHex, present, claimed, built⟩ :=
      AgentFrontend.construct_inv policy serial stepped
    have made := effect_construct policy cardType placed serial sent resolve probe atrHex _ present
      claimed frontend built stepped
    obtain ⟨card, reader, readerName, stage⟩ := resolve
    cases claimed
    simpa only [handOver, present] using made
  | publish serial =>
    obtain ⟨resolve, probe, object, present, stage, published⟩ :=
      AgentFrontend.publish_inv policy serial stepped
    obtain ⟨card, reader, readerName, _⟩ := resolve
    cases stage
    simp only [handOver, present]
    cases waiting : state.frontend.pendingCards card with
    | none =>
      refine effect_quiet cardType _ placed frontend sound ?_
      rw [published]
      exact AgentFrontend.held_discard serial _ probe object present rfl waiting
    | some pending =>
      -- The card was pending, so the map has no object of it to let go of.
      have unused : state.holds (.map card) = none := by
        have absent := placed.frontend.exclusive card (by simp [waiting])
        simp [holds, holding, AgentFrontend.heldCard, absent]
      refine effect_move cardType _ placed (.call serial) (.map card) (by simp) (by simp) (by simp)
        sent frontend sound unused ?_
      rw [published, AgentFrontend.held_publish serial _ probe object pending waiting]
      simp [holds, holding, AgentFrontend.heldCard, present, Resolve.object]
  | destruct serial =>
    obtain ⟨resolve, object, present, stage, rfl⟩ := AgentFrontend.destruct_inv policy serial stepped
    exact effect_drop cardType _ placed (.call serial) (by simp) sent _ sound
      (AgentFrontend.held_set_resolve serial none)
  | withdrawSection =>
    obtain ⟨card, looking, rfl⟩ := AgentFrontend.withdraw_section_inv policy stepped
    have unused : state.holds .withdrawal = none := by
      simp [holds, holding, AgentFrontend.heldCard, looking]
    simp only [handOver, looking]
    exact effect_move cardType _ placed (.map card) .withdrawal (by simp) (by simp) (by simp) sent _
      sound unused (AgentFrontend.held_withdraw_section card)
  | withdrawReturn =>
    obtain ⟨card, rfl⟩ := AgentFrontend.withdraw_return_inv policy stepped
    exact effect_drop cardType _ placed .withdrawal (by simp) sent _ sound
      (AgentFrontend.held_withdraw_return card)
  | _ =>
    refine effect_quiet cardType _ placed frontend sound ?_
    exact AgentFrontend.held_quiet policy placed.frontend _ (by simp [AgentFrontend.HandsOver])
      stepped

/-- Replacing an update uses no new serial. -/
theorem issued_set_update (placed : state.Placed) {serial : Nat} {update : TypeUpdate}
    (present : state.updates serial = some update) (after : Option TypeUpdate) (other : Nat)
    (beyond : state.nextUpdate ≤ other) :
    Function.update state.updates serial after other = none := by
  have apart : other ≠ serial := by
    rintro rfl
    simp [placed.issued other beyond] at present
  rw [Function.update_of_ne apart]
  exact placed.issued other beyond

/-- Replacing an update that stored nothing keeps those that did. -/
theorem stored_apart {serial : Nat} {update : TypeUpdate}
    (present : state.updates serial = some update) (unsaid : update.stage ≠ .stored) (other : Nat)
    (earlier : TypeUpdate) (found : state.updates other = some earlier)
    (stored : earlier.stage = .stored) : other ≠ serial := by
  rintro rfl
  rw [present, Option.some.injEq] at found
  subst earlier
  exact unsaid stored

/-- The update with this serial changes, and the objects do not. -/
theorem effect_update (cardType : π → String) (event : LifetimeEvent π ω) (placed : state.Placed)
    (serial : Nat) (update : TypeUpdate) (after : Option TypeUpdate)
    (present : state.updates serial = some update) (unsaid : update.stage ≠ .stored)
    (fits : after.bind held = state.holds (.update serial)) :
    (state.setUpdate serial after).Placed ∧
      Effect cardType state (state.setUpdate serial after) event := by
  refine ⟨⟨placed.frontend, placed.counted, ?_, issued_set_update placed present after,
    placed.unlocked⟩, .still _ rfl (fun _ => rfl) ?_⟩
  · change state.points = holding state.frontend.heldCard (Function.update state.updates serial after)
    rw [holding_update, fits, placed.placed]
    exact (Function.update_eq_self _ _).symm
  · refine stale_kept (fun other earlier found stored => ?_) (fun _ _ _ _ => rfl)
    exact (Function.update_of_ne (stored_apart present unsaid other earlier found stored) _ _).trans
      found

/-- A callback posts an update. -/
theorem effect_type_resolved (policyType : π → String) (event : LifetimeEvent π ω)
    (placed : state.Placed) (card : ObjectId) (cardType : String) :
    (state.typeResolved card cardType).Placed ∧
      Effect policyType state (state.typeResolved card cardType) event := by
  have unused := placed.issued state.nextUpdate le_rfl
  refine ⟨⟨placed.frontend, placed.counted, ?_, ?_, placed.unlocked⟩,
    .still _ rfl (fun _ => rfl) ?_⟩
  · change state.points = holding state.frontend.heldCard (Function.update state.updates _ _)
    rw [holding_update, placed.placed, eq_comm]
    refine Function.update_eq_self_iff.mpr ?_
    simp [held, holding, unused]
  · intro other beyond
    have later : state.nextUpdate + 1 ≤ other := beyond
    have apart : other ≠ state.nextUpdate := by omega
    exact (Function.update_of_ne apart _ _).trans (placed.issued other (by omega))
  · refine stale_kept (fun other update present stored => ?_) (fun _ _ _ _ => rfl)
    have apart : other ≠ state.nextUpdate := by
      rintro rfl
      simp [unused] at present
    exact (Function.update_of_ne apart _ _).trans present

/-- An update finds its card and co-owns it, or returns. -/
theorem effect_apply (cardType : π → String) (event : LifetimeEvent π ω) (placed : state.Placed)
    (serial : Nat) (update : TypeUpdate) (present : state.updates serial = some update)
    (posted : update.stage = .posted) :
    (state.applyCardTypeUpdate serial update).Placed ∧
      Effect cardType state (state.applyCardTypeUpdate serial update) event := by
  have unused : state.holds (.update serial) = none := by
    simp [holds, holding, present, held, posted]
  have apart := stored_apart present (by simp [posted])
  unfold applyCardTypeUpdate
  split
  · exact effect_update cardType event placed serial update none present (by simp [posted])
      unused.symm
  · rename_i address found
    have empty := empty_of_holds placed unused
    obtain ⟨pointing, objects⟩ :=
      SharedHeap.copy_spec placed.counted (.map update.card) (.update serial) empty
    -- The map holds an object of the card under the card's own path.
    have own : state.points (.map update.card) = some update.card := by
      obtain ⟨live, _, seen⟩ := SharedHeap.value_of_points placed.counted found
      have placedAt := congrFun placed.placed (.map update.card)
      cases exported : state.frontend.cards update.card with
      | none =>
        simp [points, seen, holds, holding, AgentFrontend.heldCard, exported] at placedAt
      | some object =>
        rw [placedAt]
        simp [holds, holding, AgentFrontend.heldCard, exported]
    refine ⟨⟨placed.frontend, SharedHeap.counted_copy placed.counted _ _ empty, ?_,
      issued_set_update placed present _, placed.unlocked⟩, .still _ objects (fun _ => rfl) ?_⟩
    · refine (points_update (.update serial) (state.heap.value (.map update.card))
        (SharedHeap.value_copy placed.counted _ _ empty)).trans ?_
      change Function.update state.points (.update serial) (state.points (.map update.card)) =
        holding state.frontend.heldCard (Function.update state.updates serial _)
      rw [holding_update, own, placed.placed]
      rfl
    · refine stale_kept (fun other earlier known stored => ?_) (fun other earlier known stored => ?_)
      · exact (Function.update_of_ne (apart other earlier known stored) _ _).trans known
      · have different : CardVariable.update other ≠ .update serial := by
          simpa using apart other earlier known stored
        exact (congrFun pointing _).trans (Function.update_of_ne different _ _)

/-- An update stores its type, unless the card has it. -/
theorem effect_update_card_type (cardType : π → String) (placed : state.Placed) (serial : Nat)
    (update : TypeUpdate) (present : state.updates serial = some update)
    (found : update.stage = .found) :
    (state.updateCardType serial update).Placed ∧
      Effect cardType state (state.updateCardType serial update)
        (.updateCardType serial : LifetimeEvent π ω) := by
  have used : state.holds (.update serial) = some update.card := by
    simp [holds, holding, present, held, found]
  have unsaid : update.stage ≠ .stored := by simp [found]
  obtain ⟨address, live, located, alive, seen, own⟩ := live_of_holds placed used
  simp only [updateCardType, seen]
  split
  · exact effect_update cardType _ placed serial update _ present unsaid (by simp [held, used])
  · obtain ⟨counted, pointing, objects⟩ := SharedHeap.modify_spec placed.counted (.update serial)
      (fun live => { live with cardType := update.cardType }) located alive
    refine ⟨⟨placed.frontend, counted, ?_, issued_set_update placed present _, placed.unlocked⟩,
      .stored serial update address live present alive own objects (fun _ => rfl) ?_ ?_⟩
    · have kept : ∀ pointer, ((state.heap.modify (.update serial)
          (fun live => { live with cardType := update.cardType })).value pointer).map
            LiveCard.card = state.points pointer :=
        SharedHeap.map_value_modify placed.counted _ _ LiveCard.card (fun _ => rfl) located alive
      refine (funext kept).trans ?_
      change state.points = holding state.frontend.heldCard (Function.update state.updates serial _)
      rw [holding_update, placed.placed, eq_comm]
      refine Function.update_eq_self_iff.mpr ?_
      exact used.symm
    · refine stale_kept (fun other earlier known stored => ?_) (fun _ _ _ _ => congrFun pointing _)
      have apart := stored_apart present unsaid other earlier known stored
      exact (Function.update_of_ne apart _ _).trans known
    · exact ⟨serial, { update with stage := .stored }, Function.update_self _ _ _, rfl,
        (congrFun pointing _).trans located⟩

/-- An update announces the type that the card now has. -/
theorem effect_emit (cardType : π → String) (placed : state.Placed) (serial : Nat)
    (update : TypeUpdate) (sent : Bool) (present : state.updates serial = some update)
    (stored : update.stage = .stored) :
    (state.emitPropertiesChanged serial update sent).Placed ∧
      Effect cardType state (state.emitPropertiesChanged serial update sent)
        (.emitPropertiesChanged serial sent : LifetimeEvent π ω) := by
  have used : state.holds (.update serial) = some update.card := by
    simp [holds, holding, present, held, stored]
  obtain ⟨address, live, located, alive, seen, own⟩ := live_of_holds placed used
  simp only [emitPropertiesChanged, seen]
  refine ⟨⟨placed.frontend, placed.counted, ?_, issued_set_update placed present _,
    placed.unlocked⟩, .changed serial sent address live alive rfl
      (fun card => signals_announce _ live.card _ sent card) ?_⟩
  · change state.points = holding state.frontend.heldCard (Function.update state.updates serial _)
    rw [holding_update, placed.placed, eq_comm]
    refine Function.update_eq_self_iff.mpr ?_
    exact used.symm
  · rintro other apart ⟨rival, earlier, known, waiting, pointing⟩
    have different : rival ≠ serial := by
      rintro rfl
      exact apart (Option.some.inj (pointing.symm.trans located))
    exact ⟨rival, earlier, (Function.update_of_ne different _ _).trans known, waiting, pointing⟩

/-- An update that returns lets go of its card. -/
theorem effect_update_return (cardType : π → String) (event : LifetimeEvent π ω)
    (placed : state.Placed) (serial : Nat) (update : TypeUpdate) (sent : Bool)
    (present : state.updates serial = some update) (leaving : update.stage = .leaving) :
    ((state.setUpdate serial none).drop (.update serial) sent).Placed ∧
      Effect cardType state ((state.setUpdate serial none).drop (.update serial) sent) event := by
  have handed := (state.setUpdate serial none).handed_drop (.update serial) sent state.frontend
  have whole : { (state.setUpdate serial none).drop (.update serial) sent with
      frontend := state.frontend } = (state.setUpdate serial none).drop (.update serial) sent := by
    unfold drop
    cases (state.setUpdate serial none).heap.last (.update serial) <;> rfl
  rw [whole] at handed
  generalize (state.setUpdate serial none).drop (.update serial) sent = next at handed whole ⊢
  have heap : next.heap = state.heap.reset (.update serial) := handed.heap
  have updates : next.updates = Function.update state.updates serial none := handed.updates
  have frontend : next.frontend = state.frontend := (congrArg CardLifetimes.frontend whole).symm
  refine ⟨⟨frontend ▸ placed.frontend, heap ▸ SharedHeap.counted_reset placed.counted _, ?_,
    fun other beyond => updates ▸ issued_set_update placed present none other
      (handed.nextUpdate ▸ beyond), handed.locked.trans placed.unlocked⟩,
    .released event (.update serial) _ (heap ▸ SharedHeap.released_reset placed.counted _)
      handed.heard ?_⟩
  · rw [points_update (.update serial) none (heap ▸ SharedHeap.value_reset placed.counted _),
      placed.placed, holds, holds, frontend, updates, holding_update]
    rfl
  · have apart := stored_apart present (by simp [leaving])
    refine stale_kept (fun other earlier known stored => ?_) (fun other earlier known stored => ?_)
    · rw [updates, Function.update_of_ne (apart other earlier known stored)]
      exact known
    · have different : CardVariable.update other ≠ .update serial := by
        simpa using apart other earlier known stored
      rw [heap, SharedHeap.points_reset placed.counted, Function.update_of_ne different]

/-- Every step keeps the pointers where the calls stand, and has one of these effects. -/
theorem step_effect (policy : CardResolutionPolicy π α ω) (cardType : π → String)
    (event : LifetimeEvent π ω) (placed : state.Placed)
    (stepped : step policy cardType state event = some next) :
    next.Placed ∧ Effect cardType state next event := by
  have updating : ∀ serial, (state.updates serial).bind
      (state.advanceUpdate event serial) = some next →
      ∃ update, state.updates serial = some update ∧
        state.advanceUpdate event serial update = some next := fun serial performed =>
    Option.bind_eq_some_iff.mp performed
  cases event with
  | frontend event sent =>
    obtain ⟨frontend, moved, rfl⟩ := Option.map_eq_some_iff.mp stepped
    exact effect_frontend policy cardType placed event sent frontend moved
  | typeResolved card resolved =>
    cases Option.some.inj stepped
    exact effect_type_resolved cardType _ placed card resolved
  | applyCardTypeUpdate serial =>
    obtain ⟨update, present, advanced⟩ := updating serial stepped
    cases stage : update.stage <;>
      simp only [advanceUpdate, stage, reduceCtorEq, Option.some.injEq] at advanced
    exact advanced ▸ effect_apply cardType _ placed serial update present stage
  | updateCardType serial =>
    obtain ⟨update, present, advanced⟩ := updating serial stepped
    cases stage : update.stage <;>
      simp only [advanceUpdate, stage, reduceCtorEq, Option.some.injEq] at advanced
    exact advanced ▸ effect_update_card_type cardType placed serial update present stage
  | emitPropertiesChanged serial sent =>
    obtain ⟨update, present, advanced⟩ := updating serial stepped
    cases stage : update.stage <;>
      simp only [advanceUpdate, stage, reduceCtorEq, Option.some.injEq] at advanced
    exact advanced ▸ effect_emit cardType placed serial update sent present stage
  | updateReturn serial sent =>
    obtain ⟨update, present, advanced⟩ := updating serial stepped
    cases stage : update.stage <;>
      simp only [advanceUpdate, stage, reduceCtorEq, Option.some.injEq] at advanced
    exact advanced ▸ effect_update_return cardType _ placed serial update sent present stage

/-- The frontend's steps leave the updates alone. -/
theorem hand_over_updates (cardType : π → String) (state : CardLifetimes π α)
    (event : FrontendEvent π ω) (sent : Bool) :
    (state.handOver cardType event sent).updates = state.updates := by
  have dropped : ∀ pointer, (state.drop pointer sent).updates = state.updates := by
    intro pointer
    unfold drop
    cases state.heap.last pointer <;> rfl
  have moved : ∀ source target, (state.moveLocked source target sent).updates = state.updates := by
    intro source target
    unfold moveLocked
    cases state.heap.last target <;> rfl
  unfold handOver
  split
  · split <;> rfl
  · split
    · split
      · rfl
      · exact moved _ _
    · rfl
  · exact dropped _
  · split
    · exact moved _ _
    · rfl
  · exact dropped _
  · rfl

/-- A step of an update leaves the frontend and the other updates alone, and the update keeps its
card and its type. -/
theorem advance_update_frame (event : LifetimeEvent π ω) (serial : Nat) (update : TypeUpdate)
    (present : state.updates serial = some update)
    (advanced : state.advanceUpdate event serial update = some next) :
    next.frontend = state.frontend ∧
      ∀ other after, next.updates other = some after → ∃ earlier,
        state.updates other = some earlier ∧ earlier.card = after.card ∧
          earlier.cardType = after.cardType := by
  have replaced : ∀ stage other after,
      Function.update state.updates serial (some { update with stage }) other = some after →
        ∃ earlier, state.updates other = some earlier ∧ earlier.card = after.card ∧
          earlier.cardType = after.cardType := by
    intro stage other after found
    by_cases same : other = serial
    · subst other
      rw [Function.update_self, Option.some.injEq] at found
      subst after
      exact ⟨update, present, rfl, rfl⟩
    · rw [Function.update_of_ne same] at found
      exact ⟨after, found, rfl, rfl⟩
  have ended : ∀ other after, Function.update state.updates serial none other = some after →
      ∃ earlier, state.updates other = some earlier ∧ earlier.card = after.card ∧
        earlier.cardType = after.cardType := by
    intro other after found
    by_cases same : other = serial
    · simp [same] at found
    · rw [Function.update_of_ne same] at found
      exact ⟨after, found, rfl, rfl⟩
  have misused : ∀ other after, state.updates other = some after → ∃ earlier,
      state.updates other = some earlier ∧ earlier.card = after.card ∧
        earlier.cardType = after.cardType := fun _ after found => ⟨after, found, rfl, rfl⟩
  unfold advanceUpdate at advanced
  split at advanced
  · cases Option.some.inj advanced
    unfold applyCardTypeUpdate
    split
    · exact ⟨rfl, ended⟩
    · exact ⟨rfl, replaced _⟩
  · cases Option.some.inj advanced
    unfold updateCardType
    split
    · exact ⟨rfl, misused⟩
    · split
      · exact ⟨rfl, replaced _⟩
      · exact ⟨rfl, replaced _⟩
  · cases Option.some.inj advanced
    unfold emitPropertiesChanged
    split
    · exact ⟨rfl, misused⟩
    · exact ⟨rfl, replaced _⟩
  · cases Option.some.inj advanced
    unfold drop
    cases (state.setUpdate serial none).heap.last (.update serial) <;> exact ⟨rfl, ended⟩
  · cases advanced

/-- What a step does beside the objects: the frontend takes a step of its own or none, and every
update was there or is posted. -/
theorem step_frame (policy : CardResolutionPolicy π α ω) (cardType : π → String)
    (event : LifetimeEvent π ω) (stepped : step policy cardType state event = some next) :
    (∀ card, state.frontend.Begun card → next.frontend.Begun card) ∧
      ∀ serial update, next.updates serial = some update →
        (∃ earlier, state.updates serial = some earlier ∧ earlier.card = update.card ∧
          earlier.cardType = update.cardType) ∨
        event = .typeResolved update.card update.cardType := by
  have moves : ∀ serial, (state.updates serial).bind (state.advanceUpdate event serial) =
      some next → (∀ card, state.frontend.Begun card → next.frontend.Begun card) ∧
        ∀ serial update, next.updates serial = some update →
          (∃ earlier, state.updates serial = some earlier ∧ earlier.card = update.card ∧
            earlier.cardType = update.cardType) ∨
          event = .typeResolved update.card update.cardType := by
    intro serial performed
    obtain ⟨update, present, advanced⟩ := Option.bind_eq_some_iff.mp performed
    obtain ⟨same, kept⟩ := advance_update_frame event serial update present advanced
    exact ⟨fun card begun => same ▸ begun, fun other after found => .inl (kept other after found)⟩
  cases event with
  | frontend event sent =>
    obtain ⟨frontend, moved, rfl⟩ := Option.map_eq_some_iff.mp stepped
    refine ⟨fun card begun => AgentFrontend.begun_step policy event moved card begun, ?_⟩
    intro serial update found
    change (state.handOver cardType event sent).updates serial = some update at found
    rw [hand_over_updates] at found
    exact .inl ⟨update, found, rfl, rfl⟩
  | typeResolved card resolved =>
    cases Option.some.inj stepped
    refine ⟨fun _ begun => begun, fun serial update found => ?_⟩
    by_cases new : serial = state.nextUpdate
    · simp only [typeResolved, setUpdate, new, Function.update_self, Option.some.injEq] at found
      subst update
      exact .inr rfl
    · simp only [typeResolved, setUpdate, Function.update_of_ne new] at found
      exact .inl ⟨update, found, rfl, rfl⟩
  | applyCardTypeUpdate serial => exact moves serial stepped
  | updateCardType serial => exact moves serial stepped
  | emitPropertiesChanged serial sent => exact moves serial stepped
  | updateReturn serial sent => exact moves serial stepped

end CardLifetimes

end LibreLinux.Agent
