import LibreLinux.Agent.CardPointers

/-!
# What the bus hears of a card

Every card is constructed once: its one resolve builds it, and its id is not
used again. So what is said at a card's path is the history of one object. It is
announced by the constructor, then the changes of its type, and it is withdrawn
by the destructor, whoever runs it. The type last told is the one that the object
serves, up to the updates that have stored a type and not told it yet.
-/

namespace LibreLinux.Agent

open SharedPointers

namespace CardLifetimes

variable {π α ω : Type} {state next : CardLifetimes π α}

/-- The type last told. -/
def told (first : String) (changes : List String) : String :=
  changes.getLast?.getD first

/-- What was said at a card's path, against the card objects. A card is announced once, then its
changes, and it is withdrawn once, with its object. While it is there its type is the one last
told, unless an update has still to tell it. -/
inductive Told (objects : Nat → Option LiveCard) (stale : Nat → Prop) (card : ObjectId) :
    List CardSignal → Prop
  | unseen (absent : ∀ address live, objects address = some live → live.card ≠ card) :
      Told objects stale card []
  | shown (first : String) (changes : List String) (address : Nat) (live : LiveCard)
      (alive : objects address = some live) (own : live.card = card)
      (current : told first changes = live.cardType ∨ stale address) :
      Told objects stale card (.added first :: changes.map .changed)
  | ended (first : String) (changes : List String)
      (absent : ∀ address live, objects address = some live → live.card ≠ card) :
      Told objects stale card (.added first :: changes.map .changed ++ [.removed])

/-- No two objects are of one card. -/
def Single (objects : Nat → Option LiveCard) : Prop :=
  ∀ first second live other, objects first = some live → objects second = some other →
    live.card = other.card → first = second

/-- Each card has one object at most, is announced before anything is said of it, and what was
said of it is so. -/
structure Truthful (state : CardLifetimes π α) : Prop where
  single : Single state.heap.valueAt
  begun : ∀ card, state.signals card ≠ [] → state.frontend.Begun card
  told : ∀ card, Told state.heap.valueAt state.Stale card (state.signals card)

/-- What is stale may become so later. -/
theorem Told.mono {objects : Nat → Option LiveCard} {stale later : Nat → Prop} {card : ObjectId}
    {signals : List CardSignal} (told : Told objects stale card signals)
    (more : ∀ address live, objects address = some live → live.card = card → stale address →
      later address) : Told objects later card signals := by
  cases told with
  | unseen absent => exact .unseen absent
  | shown first changes address live alive own current =>
    exact .shown first changes address live alive own (current.imp_right (more address live alive own))
  | ended first changes absent => exact .ended first changes absent

/-- A card with an object was announced and not withdrawn. -/
theorem Told.of_live {objects : Nat → Option LiveCard} {stale : Nat → Prop} {card : ObjectId}
    {signals : List CardSignal} (told : Told objects stale card signals) {address : Nat}
    {live : LiveCard} (alive : objects address = some live) (own : live.card = card) :
    ∃ first, ∃ changes : List String, signals = .added first :: changes.map .changed := by
  cases told with
  | unseen absent => exact absurd own (absent address live alive)
  | shown first changes => exact ⟨first, changes, rfl⟩
  | ended first changes absent => exact absurd own (absent address live alive)

/-- Letting go of a pointer keeps the objects apart. -/
theorem single_released {heap later : SharedHeap CardVariable LiveCard} {pointer : CardVariable}
    {dead : Option LiveCard} (single : Single heap.valueAt)
    (released : heap.Released later pointer dead) : Single later.valueAt := by
  cases released with
  | kept same others => exact same ▸ single
  | destroyed address live pointing stood sole same =>
    intro first second one two found other
    rw [same] at found other
    by_cases gone : first = address
    · simp [gone] at found
    · by_cases dead : second = address
      · simp [dead] at other
      · rw [Function.update_of_ne gone] at found
        rw [Function.update_of_ne dead] at other
        exact single first second one two found other

/-- An object in the only place of its card keeps the objects apart. -/
theorem single_update {objects : Nat → Option LiveCard} (single : Single objects) (address : Nat)
    (live : LiveCard)
    (only : ∀ other found, objects other = some found → found.card = live.card → other = address) :
    Single (Function.update objects address (some live)) := by
  intro first second one two found other same
  by_cases here : first = address
  · by_cases there : second = address
    · exact here.trans there.symm
    · rw [here, Function.update_self, Option.some.injEq] at found
      rw [Function.update_of_ne there] at other
      subst one
      exact absurd (only second two other same.symm) there
  · rw [Function.update_of_ne here] at found
    by_cases there : second = address
    · rw [there, Function.update_self, Option.some.injEq] at other
      subst two
      exact absurd (only first one found same) here
    · rw [Function.update_of_ne there] at other
      exact single first second one two found other same

/-- A card is withdrawn with its object, and the other cards are as they were. -/
theorem told_released {heap later : SharedHeap CardVariable LiveCard} {pointer : CardVariable}
    {dead : Option LiveCard} {stale : Nat → Prop} {card : ObjectId} {signals : List CardSignal}
    (single : Single heap.valueAt) (released : heap.Released later pointer dead)
    (told : Told heap.valueAt stale card signals) :
    Told later.valueAt stale card (signals ++ lastWords dead card) := by
  cases released with
  | kept same others =>
    rw [same]
    simpa [lastWords] using told
  | destroyed address live pointing stood sole same =>
    rw [same]
    by_cases own : live.card = card
    · obtain ⟨first, changes, rfl⟩ := told.of_live stood own
      rw [lastWords, if_pos own]
      refine .ended first changes (fun other found alive mine => ?_)
      by_cases gone : other = address
      · simp [gone] at alive
      · rw [Function.update_of_ne gone] at alive
        exact gone (single other address found live alive stood (mine.trans own.symm))
    · have kept : ∀ other found, Function.update heap.valueAt address none other = some found →
          heap.valueAt other = some found := by
        intro other found alive
        by_cases gone : other = address
        · simp [gone] at alive
        · rwa [Function.update_of_ne gone] at alive
      rw [lastWords, if_neg own, List.append_nil]
      cases told with
      | unseen absent => exact .unseen (fun other found alive => absent other found (kept _ _ alive))
      | shown first changes other found alive mine current =>
        have apart : other ≠ address := by
          rintro rfl
          rw [stood, Option.some.injEq] at alive
          exact own (alive ▸ mine)
        exact .shown first changes other found ((Function.update_of_ne apart _ _).trans alive) mine
          current
      | ended first changes absent =>
        exact .ended first changes (fun other found alive => absent other found (kept _ _ alive))

/-- An object of another card changes nothing for this one. -/
theorem told_elsewhere {objects : Nat → Option LiveCard} {stale : Nat → Prop} {card : ObjectId}
    {signals : List CardSignal} {address : Nat} {live : LiveCard}
    (before : ∀ old, objects address = some old → old.card ≠ card) (apart : live.card ≠ card)
    (told : Told objects stale card signals) :
    Told (Function.update objects address (some live)) stale card signals := by
  have still : (∀ other found, objects other = some found → found.card ≠ card) →
      ∀ other found, Function.update objects address (some live) other = some found →
        found.card ≠ card := by
    intro absent other found alive
    by_cases here : other = address
    · rw [here, Function.update_self, Option.some.injEq] at alive
      exact alive ▸ apart
    · rw [Function.update_of_ne here] at alive
      exact absent other found alive
  cases told with
  | unseen absent => exact .unseen (still absent)
  | shown first changes other found alive own current =>
    have elsewhere : other ≠ address := by
      rintro rfl
      exact before found alive own
    exact .shown first changes other found ((Function.update_of_ne elsewhere _ _).trans alive) own
      current
  | ended first changes absent => exact .ended first changes (still absent)

/-- Only a card that nothing was said of is constructed, and it has no object yet. -/
theorem unheard_of_claimed (truthful : state.Truthful) (serial : Nat) (resolve : Resolve π)
    (probe : π) (atrHex : String) (present : state.frontend.resolves serial = some resolve)
    (claimed : resolve.stage = .claimed probe atrHex) :
    state.signals resolve.card = [] ∧
      ∀ address live, state.heap.valueAt address = some live → live.card ≠ resolve.card := by
  have unheard : state.signals resolve.card = [] := by
    by_contra heard
    have built := (truthful.begun resolve.card heard).2 serial resolve present rfl
      (by simp [Resolve.outstanding, claimed])
    simp [Resolve.object, claimed] at built
  refine ⟨unheard, fun address live alive own => ?_⟩
  obtain ⟨first, changes, heard⟩ := (truthful.told resolve.card).of_live alive own
  simp [unheard] at heard

/-- Every effect keeps what was said true. -/
theorem truthful_effect (cardType : π → String) (event : LifetimeEvent π ω)
    (truthful : state.Truthful)
    (begun : ∀ card, state.frontend.Begun card → next.frontend.Begun card)
    (effect : Effect cardType state next event) : next.Truthful := by
  cases effect with
  | still _ objects heard stale =>
    refine ⟨objects ▸ truthful.single, fun card said => ?_, fun card => ?_⟩
    · exact begun card (truthful.begun card (heard card ▸ said))
    · rw [objects, heard]
      exact (truthful.told card).mono (fun address _ _ _ => stale address)
  | released _ pointer dead released heard stale =>
    refine ⟨single_released truthful.single released, fun card said => ?_, fun card => ?_⟩
    · by_cases earlier : state.signals card = []
      · -- Only an object speaks at the end, and its card was announced.
        rw [heard, earlier, List.nil_append] at said
        cases released with
        | kept => exact absurd rfl said
        | destroyed address live pointing stood sole same =>
          have own : live.card = card := by
            by_contra apart
            simp [lastWords, apart] at said
          obtain ⟨first, changes, announced⟩ := (truthful.told card).of_live stood own
          rw [earlier] at announced
          cases announced
      · exact begun card (truthful.begun card earlier)
    · rw [heard]
      exact (told_released truthful.single released (truthful.told card)).mono
        (fun address _ _ _ => stale address)
  | made serial sent resolve probe atrHex address present claimed new objects heard started stale =>
    obtain ⟨unheard, absent⟩ :=
      unheard_of_claimed truthful serial resolve probe atrHex present claimed
    refine ⟨?_, fun card said => ?_, fun card => ?_⟩
    · rw [objects]
      exact single_update truthful.single address _
        (fun other found alive own => absurd own (absent other found alive))
    · by_cases own : resolve.card = card
      · exact own ▸ started
      · rw [heard, if_neg own, List.append_nil] at said
        exact begun card (truthful.begun card said)
    · rw [heard, objects]
      by_cases own : resolve.card = card
      · subst own
        rw [if_pos rfl, unheard]
        exact .shown (cardType probe) [] address ⟨resolve.card, cardType probe⟩
          (Function.update_self _ _ _) rfl (.inl rfl)
      · rw [if_neg own, List.append_nil]
        refine told_elsewhere (by simp [new]) own ((truthful.told card).mono ?_)
        exact fun address _ _ _ => stale address
  | stored serial update address live present alive own objects heard stale now =>
    refine ⟨?_, fun card said => begun card (truthful.begun card (heard card ▸ said)),
      fun card => ?_⟩
    · rw [objects]
      exact single_update truthful.single address _
        (fun other found stood same => truthful.single other address found live stood alive same)
    · rw [heard, objects]
      by_cases mine : live.card = card
      · obtain ⟨first, changes, announced⟩ := (truthful.told card).of_live alive mine
        rw [announced]
        exact .shown first changes address _ (Function.update_self _ _ _) mine (.inr now)
      · refine told_elsewhere (fun old stood => ?_) mine ((truthful.told card).mono ?_)
        · rw [alive, Option.some.injEq] at stood
          exact stood ▸ mine
        · exact fun address _ _ _ => stale address
  | changed serial sent address live alive objects heard stale =>
    refine ⟨objects ▸ truthful.single, fun card said => ?_, fun card => ?_⟩
    · by_cases mine : live.card = card
      · obtain ⟨first, changes, announced⟩ := (truthful.told card).of_live alive mine
        exact begun card (truthful.begun card (by simp [announced]))
      · rw [heard, if_neg mine, List.append_nil] at said
        exact begun card (truthful.begun card said)
    · rw [heard, objects]
      by_cases mine : live.card = card
      · obtain ⟨first, changes, announced⟩ := (truthful.told card).of_live alive mine
        have longer : CardSignal.added first :: changes.map .changed ++ [.changed live.cardType] =
            .added first :: (changes ++ [live.cardType]).map .changed := by simp
        rw [if_pos mine, announced, longer]
        exact .shown first _ address live alive mine (.inl (by simp [told]))
      · rw [if_neg mine, List.append_nil]
        refine (truthful.told card).mono (fun other found stood own => stale other ?_)
        rintro rfl
        rw [alive, Option.some.injEq] at stood
        exact mine (stood ▸ own)

/-- The type of a card object is its own: the probe that it was constructed from found it, or an
operation on that very card resolved it. -/
def OwnType (cardType : π → String) (past : List (CardLifetimes π α × LifetimeEvent π ω))
    (live : LiveCard) : Prop :=
  (∃ before serial sent resolve probe atrHex,
    (before, .frontend (.construct serial) sent) ∈ past ∧
      before.frontend.resolves serial = some resolve ∧ resolve.card = live.card ∧
      resolve.stage = .claimed probe atrHex ∧ cardType probe = live.cardType) ∨
  ∃ before, (before, .typeResolved live.card live.cardType) ∈ past

/-- Where the types come from. -/
structure Sourced (cardType : π → String) (past : List (CardLifetimes π α × LifetimeEvent π ω))
    (state : CardLifetimes π α) : Prop where
  posted : ∀ serial update, state.updates serial = some update →
    ∃ before, (before, .typeResolved update.card update.cardType) ∈ past
  typed : ∀ address live, state.heap.valueAt address = some live → OwnType cardType past live

/-- What was resolved stays resolved. -/
theorem OwnType.later {cardType : π → String}
    {past : List (CardLifetimes π α × LifetimeEvent π ω)} {live : LiveCard}
    (typed : OwnType cardType past live) (last : CardLifetimes π α × LifetimeEvent π ω) :
    OwnType cardType (past ++ [last]) live := by
  rcases typed with ⟨before, serial, sent, resolve, probe, atrHex, member, rest⟩ | ⟨before, member⟩
  · exact .inl ⟨before, serial, sent, resolve, probe, atrHex, List.mem_append_left _ member, rest⟩
  · exact .inr ⟨before, List.mem_append_left _ member⟩

/-- Every effect keeps to the types of each card. -/
theorem sourced_effect (cardType : π → String)
    (past : List (CardLifetimes π α × LifetimeEvent π ω)) (event : LifetimeEvent π ω)
    (sourced : Sourced cardType past state) (effect : Effect cardType state next event) :
    ∀ address live, next.heap.valueAt address = some live →
      OwnType cardType (past ++ [(state, event)]) live := by
  intro address live alive
  cases effect with
  | still _ objects heard stale =>
    exact (sourced.typed address live (objects ▸ alive)).later _
  | released _ pointer dead released heard stale =>
    refine (sourced.typed address live ?_).later _
    cases released with
    | kept same others => exact same ▸ alive
    | destroyed target value pointing stood sole same =>
      by_cases gone : address = target
      · simp [same, gone] at alive
      · rwa [same, Function.update_of_ne gone] at alive
  | made serial sent resolve probe atrHex target present claimed new objects heard started stale =>
    by_cases here : address = target
    · rw [objects, here, Function.update_self, Option.some.injEq] at alive
      subst live
      exact .inl ⟨state, serial, sent, resolve, probe, atrHex, by simp, present, rfl, claimed, rfl⟩
    · rw [objects, Function.update_of_ne here] at alive
      exact (sourced.typed address live alive).later _
  | stored serial update target older present stood own objects heard stale now =>
    by_cases here : address = target
    · rw [objects, here, Function.update_self, Option.some.injEq] at alive
      subst live
      obtain ⟨before, member⟩ := sourced.posted serial update present
      exact .inr ⟨before, List.mem_append_left _ (own ▸ member)⟩
    · rw [objects, Function.update_of_ne here] at alive
      exact (sourced.typed address live alive).later _
  | changed serial sent target older stood objects heard stale =>
    exact (sourced.typed address live (objects ▸ alive)).later _

/-- The invariant of a run. -/
structure Sound (cardType : π → String) (past : List (CardLifetimes π α × LifetimeEvent π ω))
    (state : CardLifetimes π α) : Prop where
  placed : state.Placed
  truthful : state.Truthful
  sourced : Sourced cardType past state

/-- Nothing was constructed at first. -/
theorem sound_initial (cardType : π → String) :
    Sound cardType ([] : List (CardLifetimes π α × LifetimeEvent π ω)) {} where
  placed :=
    { frontend := AgentFrontend.sound_initial
      counted := SharedHeap.counted_initial
      placed := by funext pointer; cases pointer <;> rfl
      issued := fun _ _ => rfl
      unlocked := rfl }
  truthful :=
    { single := by simp [Single, SharedHeap.valueAt]
      begun := by simp [signals]
      told := fun _ => .unseen (by simp [SharedHeap.valueAt]) }
  sourced := ⟨by simp, by simp [SharedHeap.valueAt]⟩

/-- Every step keeps the invariant.

Proof: a step has at most one effect on the objects (`step_effect`), and leaves the frontend and
the updates otherwise as they were or takes a step of theirs (`step_frame`). What was told of a
card follows the effect; the type of an update is that of the step that posted it. -/
theorem sound_step (policy : CardResolutionPolicy π α ω) (cardType : π → String)
    (past : List (CardLifetimes π α × LifetimeEvent π ω)) (state : CardLifetimes π α)
    (event : LifetimeEvent π ω) (next : CardLifetimes π α) (sound : Sound cardType past state)
    (stepped : step policy cardType state event = some next) :
    Sound cardType (past ++ [(state, event)]) next := by
  obtain ⟨placed, effect⟩ := step_effect policy cardType event sound.placed stepped
  obtain ⟨begun, updates⟩ := step_frame policy cardType event stepped
  refine ⟨placed, truthful_effect cardType event sound.truthful begun effect, ?_,
    sourced_effect cardType past event sound.sourced effect⟩
  intro serial update present
  rcases updates serial update present with ⟨earlier, found, card, type⟩ | rfl
  · obtain ⟨before, member⟩ := sound.sourced.posted serial earlier found
    exact ⟨before, List.mem_append_left _ (card ▸ type ▸ member)⟩
  · exact ⟨state, by simp⟩

/-- In every run, whatever the order in which readers and cards come and go, resolves build and
publish cards and operations resolve card types:

* no pointer is used without an object behind it, each object is destroyed once, and never inside
  the mutex;
* an update works on the object of its own card from the lookup to its return;
* an object of a card lives exactly as long as a call or the map holds it. Once a withdrawal of
  the card has returned, that is a call that is building it or an update that found it;
* a card is announced once, then its changes, and is withdrawn once, with its object. The type
  last told is the one it serves, unless an update has still to tell it;
* the type is the card's own.

Proof: the invariant `Sound` places every shared pointer where the frontend, its calls and the
updates keep one, counts the pointers of each object, and follows what was told of each card. An
object is destroyed with its last pointer, so a pointer in use has an object behind it. -/
theorem card_objects_kept_and_told (policy : CardResolutionPolicy π α ω) (cardType : π → String)
    (events : List (LifetimeEvent π ω)) (state : CardLifetimes π α)
    (reached : Runs.run (step policy cardType) {} events = some state) :
    (state.heap.dangling = false ∧ state.heap.destroyed.Nodup ∧ state.lockedTeardowns = []) ∧
    (∀ serial update, state.updates serial = some update → update.stage ≠ .posted →
      ∃ live, state.heap.value (.update serial) = some live ∧ live.card = update.card) ∧
    (∀ card, (∃ address live, state.heap.valueAt address = some live ∧ live.card = card) ↔
      ∃ pointer, state.holds pointer = some card) ∧
    (∀ card ∈ state.frontend.withdrawn, ∀ pointer, state.holds pointer = some card →
      ∃ serial, pointer = .call serial ∨ pointer = .update serial) ∧
    (∀ card, Told state.heap.valueAt state.Stale card (state.signals card)) ∧
    ∀ address live, state.heap.valueAt address = some live →
      OwnType cardType (Runs.trace (step policy cardType) {} events) live := by
  have sound := Runs.trace_invariant (step policy cardType) (Sound cardType)
    (sound_step policy cardType) events {} state (sound_initial cardType) reached
  have placed := sound.placed
  refine ⟨⟨placed.counted.defined, placed.counted.once, placed.unlocked⟩, ?_, ?_, ?_,
    sound.truthful.told, sound.sourced.typed⟩
  · intro serial update present busy
    have used : state.holds (.update serial) = some update.card := by
      simp [holds, holding, present, held, busy]
    obtain ⟨_, live, _, _, seen, own⟩ := live_of_holds placed used
    exact ⟨live, seen, own⟩
  · intro card
    constructor
    · rintro ⟨address, live, alive, own⟩
      obtain ⟨pointer, pointing⟩ :=
        (SharedHeap.alive_iff placed.counted address).mp (by simp [alive])
      have seen : state.points pointer = some card := by
        simp [points, SharedHeap.value, pointing, alive, own]
      exact ⟨pointer, placed.placed ▸ seen⟩
    · rintro ⟨pointer, used⟩
      obtain ⟨address, live, _, alive, _, own⟩ := live_of_holds placed used
      exact ⟨address, live, alive, own⟩
  · intro card gone pointer used
    cases pointer with
    | call serial => exact ⟨serial, .inl rfl⟩
    | update serial => exact ⟨serial, .inr rfl⟩
    | map other =>
      have cleared := (placed.frontend.gone card gone).2.2
      cases exported : state.frontend.cards other with
      | none => simp [holds, holding, AgentFrontend.heldCard, exported] at used
      | some object =>
        simp only [holds, holding, AgentFrontend.heldCard, exported, Option.map_some,
          Option.some.injEq] at used
        simp [← used, exported] at cleared
    | withdrawal =>
      simp only [holds, holding, AgentFrontend.heldCard] at used
      split at used
      · rename_i other object taking
        cases Option.some.inj used
        exact absurd gone ((placed.frontend.cardTaken card (some object) taking).2 rfl)
      · cases used

/-- An operation has resolved the type of a card when the card is withdrawn; the update found the
card before the withdrawal took it out of the map. -/
def withdrawnWhileUpdating : List (LifetimeEvent Bool Unit) :=
  [.frontend (.materializeReader 1 "Reader") true, .frontend (.materializeCard 2 1 "3B00") true,
    .frontend (.schedule 0 true) true, .frontend (.probed 0 true) true, .frontend (.apply 0) true,
    .frontend (.construct 0) true, .frontend (.publish 0) true, .typeResolved 2 "Passport",
    .applyCardTypeUpdate 0, .frontend (.withdrawObject 2) true, .frontend .withdrawSection true,
    .frontend .withdrawReturn true, .updateCardType 0, .emitPropertiesChanged 0 true,
    .updateReturn 0 true]

/-- The update outlives the withdrawal, tells the type and only then withdraws the card. -/
theorem updated_after_withdrawal :
    ∃ state, Runs.run (step AgentFrontend.retryOnce (fun _ => "Unknown")) {}
        withdrawnWhileUpdating = some state ∧
      state.signals 2 = [.added "Unknown", .changed "Passport", .removed] ∧
      state.heap.dangling = false ∧ state.heap.destroyed.Nodup ∧ state.lockedTeardowns = [] := by
  refine ⟨(Runs.run (step AgentFrontend.retryOnce (fun _ => "Unknown")) {}
    withdrawnWhileUpdating).get (by decide +kernel), (Option.some_get _).symm, by decide +kernel, ?_⟩
  exact (card_objects_kept_and_told AgentFrontend.retryOnce _ withdrawnWhileUpdating _
    (Option.some_get _).symm).1

end CardLifetimes

end LibreLinux.Agent
