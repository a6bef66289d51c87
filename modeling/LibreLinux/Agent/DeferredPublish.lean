import LibreLinux.Agent.Frontend

/-!
# One resolve for each pending card

A pending card is served by exactly one resolve, whatever the interleaving of
presence deltas, worker probes, loop callbacks and timers. A resolve ends only
when the card is no longer pending, and publishing needs the pending entry; so a
withdrawn card, whose entry is gone for good, is never published again, and a
card object built for it lives no longer than the call that is building it.

What a step of a resolve can do is said once, in `Advanced`; the invariant and
the fate of withdrawn cards follow from that.
-/

namespace LibreLinux.Agent.AgentFrontend

variable {π α ω : Type}

/-- The resolve with this serial works for this card. -/
def Serves (state : AgentFrontend π α) (serial : Nat) (id : ObjectId) : Prop :=
  ∃ resolve, state.resolves serial = some resolve ∧ resolve.card = id ∧ resolve.outstanding = true

/-- The id is in neither card map. -/
def Cleared (state : AgentFrontend π α) (id : ObjectId) : Prop :=
  state.pendingCards id = none ∧ state.cards id = none

/-- The invariant. -/
structure Sound (state : AgentFrontend π α) : Prop where
  served : ∀ id, (state.pendingCards id).isSome = true → ∃ serial, state.Serves serial id
  single : ∀ id first second, state.Serves first id → state.Serves second id → first = second
  exclusive : ∀ id, (state.pendingCards id).isSome = true → state.cards id = none
  issued : ∀ serial, state.nextSerial ≤ serial → state.resolves serial = none
  resolved : ∀ serial resolve, state.resolves serial = some resolve → resolve.card ∈ state.used
  fresh : ∀ id, id ∉ state.used → state.Cleared id
  readersOnly : ∀ id, (state.readers id).isSome = true → id ∈ state.used ∧ state.Cleared id
  gone : ∀ id ∈ state.withdrawn, id ∈ state.used ∧ state.Cleared id
  readerTaken : ∀ id, state.withdrawing = some (id, .readerDying) → state.Cleared id
  cardTaken : ∀ id object, state.withdrawing = some (id, .cardDying object) →
    state.Cleared id ∧ (object.isSome = true → id ∉ state.withdrawn)

/-- Nothing is materialised at first. -/
theorem sound_initial : Sound ({} : AgentFrontend π α) where
  served := by simp
  single := by simp [Serves]
  exclusive := by simp
  issued := by simp
  resolved := by simp
  fresh := by simp [Cleared]
  readersOnly := by simp
  gone := by simp
  readerTaken := by simp
  cardTaken := by simp

/-- What a step of one resolve can do. It stays with its card; it touches the two
maps at that card only; a card that stays pending keeps its resolve; a card is
published only by giving up its pending entry; and construction begins only for a
pending card. -/
structure Advanced (state next : AgentFrontend π α) (serial : Nat) (resolve : Resolve π) : Prop where
  used : next.used = state.used
  withdrawn : next.withdrawn = state.withdrawn
  withdrawing : next.withdrawing = state.withdrawing
  readers : next.readers = state.readers
  nextSerial : next.nextSerial = state.nextSerial
  others : ∀ other, other ≠ serial → next.resolves other = state.resolves other
  moved : ∀ after, next.resolves serial = some after → after.card = resolve.card ∧
    (after.outstanding = true → resolve.outstanding = true) ∧
    (after.building = true →
      resolve.building = true ∨ (state.pendingCards resolve.card).isSome = true)
  elsewhere : ∀ id, id ≠ resolve.card →
    next.pendingCards id = state.pendingCards id ∧ next.cards id = state.cards id
  kept : (next.pendingCards resolve.card).isSome = true →
    (state.pendingCards resolve.card).isSome = true ∧
      (resolve.outstanding = true →
        ∃ after, next.resolves serial = some after ∧ after.outstanding = true)
  published : (next.cards resolve.card).isSome = true →
    (state.cards resolve.card).isSome = true ∨
      ((state.pendingCards resolve.card).isSome = true ∧ next.pendingCards resolve.card = none)

variable {state next : AgentFrontend π α} {serial : Nat} {resolve : Resolve π}

/-- Moving to another stage that keeps or ends the resolve's work. -/
theorem advanced_move (stage : Stage π)
    (works : ({ resolve with stage } : Resolve π).outstanding = resolve.outstanding)
    (builds : ({ resolve with stage } : Resolve π).building = true → resolve.building = true) :
    Advanced state (state.moveTo serial resolve stage) serial resolve where
  used := rfl
  withdrawn := rfl
  withdrawing := rfl
  readers := rfl
  nextSerial := rfl
  others := fun other different => by simp [moveTo, setResolve, different]
  moved := by
    intro after present
    simp only [moveTo, setResolve, Function.update_self, Option.some.injEq] at present
    subst after
    exact ⟨rfl, fun working => works ▸ working, fun building => Or.inl (builds building)⟩
  elsewhere := fun _ _ => ⟨rfl, rfl⟩
  kept := by
    intro pending
    refine ⟨pending, fun working => ?_⟩
    exact ⟨_, by simp [moveTo, setResolve], works ▸ working⟩
  published := Or.inl

/-- Ending a resolve whose card is not pending, or that no longer worked. -/
theorem advanced_end
    (idle : state.pendingCards resolve.card = none ∨ resolve.outstanding = false) :
    Advanced state (state.setResolve serial none) serial resolve where
  used := rfl
  withdrawn := rfl
  withdrawing := rfl
  readers := rfl
  nextSerial := rfl
  others := fun other different => by simp [setResolve, different]
  moved := by simp [setResolve]
  elsewhere := fun _ _ => ⟨rfl, rfl⟩
  kept := by
    intro pending
    refine ⟨pending, fun working => ?_⟩
    rcases idle with absent | ended
    · simp [setResolve, absent] at pending
    · simp [ended] at working
  published := Or.inl

/-- The first critical section drops, retries or claims. -/
theorem advanced_apply (policy : CardResolutionPolicy π α ω) (probe : π)
    (posted : resolve.stage = .posted probe) :
    Advanced state (state.applyProbe policy serial resolve probe) serial resolve := by
  have working : resolve.outstanding = true := by simp [Resolve.outstanding, posted]
  unfold applyProbe
  split
  · rename_i absent
    exact advanced_end (Or.inl absent)
  · rename_i pending present
    have counted : ∀ attempts (stage : Stage π),
        ({ resolve with stage } : Resolve π).outstanding = true →
        Advanced state ((state.setPending resolve.card (some { pending with attempts })).moveTo
          serial resolve stage) serial resolve := by
      intro attempts stage works
      refine ⟨rfl, rfl, rfl, rfl, rfl, ?_, ?_, ?_, ?_, Or.inl⟩
      · intro other different
        simp [moveTo, setResolve, setPending, different]
      · intro after moved
        simp only [moveTo, setResolve, Function.update_self, Option.some.injEq] at moved
        subst after
        exact ⟨rfl, fun _ => working, fun _ => Or.inr (by simp [present])⟩
      · intro id different
        simp [moveTo, setResolve, setPending, different]
      · intro _
        exact ⟨by simp [present], fun _ => ⟨_, by simp [moveTo, setResolve], works⟩⟩
    dsimp only
    split
    · exact counted _ (.retrying _) rfl
    · exact counted _ (.claimed probe pending.atrHex) rfl

/-- The second critical section publishes a pending card and destroys the object
of a withdrawn one. -/
theorem advanced_publish (probe : π) (object : CardObject π)
    (built : resolve.stage = .built probe object) :
    Advanced state (state.publish serial resolve probe object) serial resolve := by
  have building : resolve.building = true := by simp [Resolve.building, built]
  unfold publish
  split
  · rename_i absent
    refine ⟨rfl, rfl, rfl, rfl, rfl, ?_, ?_, fun _ _ => ⟨rfl, rfl⟩, ?_, Or.inl⟩
    · intro other different
      simp [moveTo, setResolve, different]
    · intro after moved
      simp only [moveTo, setResolve, Function.update_self, Option.some.injEq] at moved
      subst after
      exact ⟨rfl, by simp [Resolve.outstanding], fun _ => Or.inl building⟩
    · intro pending
      simp [moveTo, setResolve, absent] at pending
  · rename_i pending present
    refine ⟨rfl, rfl, rfl, rfl, rfl, ?_, ?_, ?_, ?_, ?_⟩
    · intro other different
      simp [moveTo, setResolve, setPending, different]
    · intro after moved
      simp only [moveTo, setResolve, Function.update_self, Option.some.injEq] at moved
      subst after
      exact ⟨rfl, by simp [Resolve.outstanding], by simp [Resolve.building]⟩
    · intro id different
      simp [moveTo, setResolve, setPending, different]
    · intro still
      simp [moveTo, setResolve, setPending] at still
    · intro _
      exact Or.inr ⟨by simp [present], by simp [moveTo, setResolve, setPending]⟩

/-- Every step of a resolve is such an advance. -/
theorem advance_advanced (policy : CardResolutionPolicy π α ω) (event : FrontendEvent π ω)
    (advanced : state.advance policy event serial resolve = some next) :
    Advanced state next serial resolve := by
  unfold advance at advanced
  split at advanced
  · rename_i stage
    cases Option.some.inj advanced
    exact advanced_move _ (by simp [Resolve.outstanding, stage]) (by simp [Resolve.building])
  · rename_i stage
    cases Option.some.inj advanced
    exact advanced_move _ (by simp [Resolve.outstanding, stage]) (by simp [Resolve.building])
  · rename_i stage
    cases Option.some.inj advanced
    exact advanced_move _ (by simp [Resolve.outstanding, stage]) (by simp [Resolve.building])
  · rename_i probe stage
    cases Option.some.inj advanced
    exact advanced_apply policy probe stage
  · rename_i stage
    cases Option.some.inj advanced
    exact advanced_move _ (by simp [Resolve.outstanding, stage]) (by simp [Resolve.building])
  · rename_i stage
    cases Option.some.inj advanced
    exact advanced_move _ (by simp [Resolve.outstanding, stage])
      (by simp [Resolve.building, stage])
  · rename_i probe object stage
    cases Option.some.inj advanced
    exact advanced_publish probe object stage
  · rename_i stage
    cases Option.some.inj advanced
    exact advanced_end (Or.inr (by simp [Resolve.outstanding, stage]))
  · rename_i stage
    cases Option.some.inj advanced
    have ended : Advanced state (state.setResolve serial none) serial resolve :=
      advanced_end (Or.inr (by simp [Resolve.outstanding, stage]))
    exact ⟨rfl, rfl, rfl, rfl, rfl, ended.others, ended.moved, ended.elsewhere, ended.kept,
      ended.published⟩
  · rename_i stage
    cases Option.some.inj advanced
    split
    · rename_i absent
      exact advanced_end (Or.inl absent)
    · exact advanced_move _ (by simp [Resolve.outstanding, stage]) (by simp [Resolve.building])
  · cases advanced

/-- An advance creates no new work. -/
theorem serves_before (present : state.resolves serial = some resolve)
    (advanced : Advanced state next serial resolve) (other : Nat) (id : ObjectId)
    (serves : next.Serves other id) : state.Serves other id := by
  obtain ⟨after, found, card, working⟩ := serves
  by_cases same : other = serial
  · subst other
    obtain ⟨kept, worked, _⟩ := advanced.moved after found
    exact ⟨resolve, present, kept.symm.trans card, worked working⟩
  · exact ⟨after, advanced.others other same ▸ found, card, working⟩

/-- An advance leaves a cleared id cleared. -/
theorem cleared_after (advanced : Advanced state next serial resolve) (id : ObjectId)
    (cleared : state.Cleared id) : next.Cleared id := by
  obtain ⟨unpending, unpublished⟩ := cleared
  by_cases same : id = resolve.card
  · subst id
    have stays : next.pendingCards resolve.card = none := by
      by_contra pending
      have before := (advanced.kept (Option.isSome_iff_ne_none.mpr pending)).1
      simp [unpending] at before
    refine ⟨stays, ?_⟩
    by_contra published
    rcases advanced.published (Option.isSome_iff_ne_none.mpr published) with earlier | ⟨pending, _⟩
    · simp [unpublished] at earlier
    · simp [unpending] at pending
  · obtain ⟨pending, cards⟩ := advanced.elsewhere id same
    exact ⟨pending.trans unpending, cards.trans unpublished⟩

/-- An advance keeps the invariant. -/
theorem sound_advanced (sound : state.Sound) (present : state.resolves serial = some resolve)
    (advanced : Advanced state next serial resolve) : next.Sound where
  served := by
    intro id pending
    have earlier : ∃ other, state.Serves other id := by
      by_cases same : id = resolve.card
      · subst id
        exact sound.served _ (advanced.kept pending).1
      · exact sound.served id ((advanced.elsewhere id same).1 ▸ pending)
    obtain ⟨other, before, found, card, working⟩ := earlier
    by_cases same : other = serial
    · subst other
      cases Option.some.inj (present.symm.trans found)
      obtain ⟨after, moved, works⟩ := (advanced.kept (card ▸ pending)).2 working
      exact ⟨serial, after, moved, (advanced.moved after moved).1.trans card, works⟩
    · exact ⟨other, before, (advanced.others other same).trans found, card, working⟩
  single := fun id first second one two =>
    sound.single id first second (serves_before present advanced first id one)
      (serves_before present advanced second id two)
  exclusive := by
    intro id pending
    by_cases same : id = resolve.card
    · subst id
      have before := (advanced.kept pending).1
      by_contra published
      rcases advanced.published (Option.isSome_iff_ne_none.mpr published) with earlier | ⟨_, gone⟩
      · simp [sound.exclusive _ before] at earlier
      · simp [gone] at pending
    · obtain ⟨samePending, sameCards⟩ := advanced.elsewhere id same
      exact sameCards.trans (sound.exclusive id (samePending ▸ pending))
  issued := by
    intro other beyond
    rw [advanced.nextSerial] at beyond
    have different : other ≠ serial := by
      rintro rfl
      simp [sound.issued other beyond] at present
    rw [advanced.others other different]
    exact sound.issued other beyond
  resolved := by
    intro other after found
    rw [advanced.used]
    by_cases same : other = serial
    · subst other
      rw [(advanced.moved after found).1]
      exact sound.resolved serial resolve present
    · exact sound.resolved other after (advanced.others other same ▸ found)
  fresh := by
    intro id unused
    exact cleared_after advanced id (sound.fresh id (advanced.used ▸ unused))
  readersOnly := by
    intro id reader
    obtain ⟨used, cleared⟩ := sound.readersOnly id (advanced.readers ▸ reader)
    exact ⟨advanced.used ▸ used, cleared_after advanced id cleared⟩
  gone := by
    intro id member
    obtain ⟨used, cleared⟩ := sound.gone id (advanced.withdrawn ▸ member)
    exact ⟨advanced.used ▸ used, cleared_after advanced id cleared⟩
  readerTaken := fun id taking =>
    cleared_after advanced id (sound.readerTaken id (advanced.withdrawing ▸ taking))
  cardTaken := by
    intro id object taking
    obtain ⟨cleared, apart⟩ := sound.cardTaken id object (advanced.withdrawing ▸ taking)
    exact ⟨cleared_after advanced id cleared, advanced.withdrawn ▸ apart⟩

/-- A new reader uses a new id. -/
theorem sound_reader (sound : state.Sound) (id : ObjectId) (name : String)
    (idle : state.withdrawing = none) (unused : id ∉ state.used) :
    (state.materializeReader id name).Sound where
  served := sound.served
  single := sound.single
  exclusive := sound.exclusive
  issued := sound.issued
  resolved := fun serial resolve present =>
    List.mem_cons_of_mem _ (sound.resolved serial resolve present)
  fresh := fun other absent => sound.fresh other (fun used => absent (List.mem_cons_of_mem _ used))
  readersOnly := by
    intro other reader
    by_cases same : other = id
    · subst other
      exact ⟨List.mem_cons_self, sound.fresh id unused⟩
    · simp only [materializeReader, Function.update_of_ne same] at reader
      obtain ⟨used, cleared⟩ := sound.readersOnly other reader
      exact ⟨List.mem_cons_of_mem _ used, cleared⟩
  gone := by
    intro other member
    obtain ⟨used, cleared⟩ := sound.gone other member
    exact ⟨List.mem_cons_of_mem _ used, cleared⟩
  readerTaken := by simp [materializeReader, use, idle]
  cardTaken := by simp [materializeReader, use, idle]

/-- A new card schedules one resolve, under the next serial. -/
theorem resolves_materialized (policy : CardResolutionPolicy π α ω) (id reader : ObjectId)
    (atrHex : String) :
    (state.materializeCard policy id reader atrHex).resolves =
      Function.update state.resolves state.nextSerial
        (some ⟨id, reader, (state.readers reader).getD "", .scheduling⟩) := rfl

/-- That resolve serves the card, and the others serve what they served. -/
theorem serves_materialized (policy : CardResolutionPolicy π α ω) (sound : state.Sound)
    (id reader : ObjectId) (atrHex : String) (serial : Nat) (other : ObjectId) :
    (state.materializeCard policy id reader atrHex).Serves serial other ↔
      (serial = state.nextSerial ∧ other = id) ∨ state.Serves serial other := by
  have started := state.resolves_materialized policy id reader atrHex
  by_cases same : serial = state.nextSerial
  · have absent : ¬ state.Serves serial other := by
      rintro ⟨resolve, present, _⟩
      simp [same, sound.issued state.nextSerial (Nat.le_refl _)] at present
    constructor
    · rintro ⟨resolve, present, card, _⟩
      rw [started, same, Function.update_self, Option.some.injEq] at present
      subst resolve
      exact Or.inl ⟨same, card.symm⟩
    · rintro (⟨_, rfl⟩ | serves)
      · exact ⟨_, by rw [started, same, Function.update_self], rfl, rfl⟩
      · exact absurd serves absent
  · simp [Serves, started, same]

/-- A new card uses a new id, so no resolve works for it yet, and it starts with
exactly one. -/
theorem sound_card (policy : CardResolutionPolicy π α ω) (sound : state.Sound)
    (id reader : ObjectId) (atrHex : String) (idle : state.withdrawing = none)
    (unused : id ∉ state.used) : (state.materializeCard policy id reader atrHex).Sound := by
  have started := state.resolves_materialized policy id reader atrHex
  have known : ∀ serial resolve, state.resolves serial = some resolve → resolve.card ≠ id := by
    intro serial resolve present same
    exact unused (same ▸ sound.resolved serial resolve present)
  have apart : ∀ other, other ∈ state.used → other ≠ id := by
    rintro other member rfl
    exact unused member
  have cleared : ∀ other, other ∈ state.used → state.Cleared other →
      (state.materializeCard policy id reader atrHex).Cleared other := by
    rintro other member ⟨unpending, unpublished⟩
    exact ⟨by simp [materializeCard, startResolve, setResolve, setPending, use, apart other member,
      unpending], unpublished⟩
  have serves := state.serves_materialized policy sound id reader atrHex
  constructor
  · intro other pending
    by_cases same : other = id
    · exact ⟨state.nextSerial, (serves _ _).mpr (Or.inl ⟨rfl, same⟩)⟩
    · have before : (state.pendingCards other).isSome = true := by
        simpa [materializeCard, startResolve, setResolve, setPending, use, same] using pending
      obtain ⟨serial, working⟩ := sound.served other before
      exact ⟨serial, (serves _ _).mpr (Or.inr working)⟩
  · intro other first second one two
    have notYet : ∀ serial, ¬ state.Serves serial id := by
      rintro serial ⟨resolve, present, card, _⟩
      exact known serial resolve present card
    rcases (serves _ _).mp one with ⟨rfl, rfl⟩ | first'
    · rcases (serves _ _).mp two with ⟨rfl, _⟩ | second'
      · rfl
      · exact absurd second' (notYet second)
    · rcases (serves _ _).mp two with ⟨rfl, rfl⟩ | second'
      · exact absurd first' (notYet first)
      · exact sound.single other first second first' second'
  · intro other pending
    by_cases same : other = id
    · exact same ▸ (sound.fresh id unused).2
    · apply sound.exclusive other
      simpa [materializeCard, startResolve, setResolve, setPending, use, same] using pending
  · intro serial beyond
    have later : state.nextSerial + 1 ≤ serial := beyond
    have different : serial ≠ state.nextSerial := by omega
    rw [started, Function.update_of_ne different]
    exact sound.issued serial (by omega)
  · intro serial resolve present
    by_cases same : serial = state.nextSerial
    · rw [started, same, Function.update_self, Option.some.injEq] at present
      subst resolve
      exact List.mem_cons_self
    · rw [started, Function.update_of_ne same] at present
      exact List.mem_cons_of_mem _ (sound.resolved serial resolve present)
  · intro other absent
    have different : other ≠ id := by
      rintro rfl
      exact absent List.mem_cons_self
    obtain ⟨unpending, unpublished⟩ :=
      sound.fresh other (fun used => absent (List.mem_cons_of_mem _ used))
    exact ⟨by simp [materializeCard, startResolve, setResolve, setPending, use, different,
      unpending], unpublished⟩
  · intro other present
    obtain ⟨used, before⟩ := sound.readersOnly other present
    exact ⟨List.mem_cons_of_mem _ used, cleared other used before⟩
  · intro other member
    obtain ⟨used, before⟩ := sound.gone other member
    exact ⟨List.mem_cons_of_mem _ used, cleared other used before⟩
  · simp [materializeCard, startResolve, setResolve, setPending, use, idle]
  · simp [materializeCard, startResolve, setResolve, setPending, use, idle]

/-- The reader half of a withdrawal touches no card. -/
theorem sound_withdraw_object (sound : state.Sound) (id : ObjectId) :
    (state.withdrawObject id).Sound := by
  unfold withdrawObject
  split
  · rename_i name reader
    refine ⟨sound.served, sound.single, sound.exclusive, sound.issued, sound.resolved, sound.fresh,
      ?_, sound.gone, ?_, by simp⟩
    · intro other present
      by_cases same : other = id
      · simp [same] at present
      · simp only [Function.update_of_ne same] at present
        exact sound.readersOnly other present
    · intro other taking
      simp only [Option.some.injEq, Prod.mk.injEq, and_true] at taking
      exact taking ▸ (sound.readersOnly id (by simp [reader])).2
  · exact ⟨sound.served, sound.single, sound.exclusive, sound.issued, sound.resolved, sound.fresh,
      sound.readersOnly, sound.gone, by simp, by simp⟩

/-- The card half of a withdrawal clears its id. -/
theorem sound_withdraw_section (sound : state.Sound) (id : ObjectId) :
    (state.withdrawSection id).Sound := by
  have cleared : ∀ other, state.Cleared other → (state.withdrawSection id).Cleared other := by
    rintro other ⟨unpending, unpublished⟩
    by_cases same : other = id <;> simp [Cleared, withdrawSection, same, unpending, unpublished]
  have pendingBefore : ∀ other, ((state.withdrawSection id).pendingCards other).isSome = true →
      other ≠ id ∧ (state.pendingCards other).isSome = true := by
    intro other pending
    by_cases same : other = id
    · simp [withdrawSection, same] at pending
    · exact ⟨same, by simpa [withdrawSection, same] using pending⟩
  refine ⟨?_, sound.single, ?_, sound.issued, sound.resolved, ?_, ?_, ?_, by simp [withdrawSection],
    ?_⟩
  · intro other pending
    exact sound.served other (pendingBefore other pending).2
  · intro other pending
    obtain ⟨different, before⟩ := pendingBefore other pending
    simp [withdrawSection, different, sound.exclusive other before]
  · intro other unused
    exact cleared other (sound.fresh other unused)
  · intro other reader
    obtain ⟨used, before⟩ := sound.readersOnly other reader
    exact ⟨used, cleared other before⟩
  · intro other member
    obtain ⟨used, before⟩ := sound.gone other member
    exact ⟨used, cleared other before⟩
  · intro other object taking
    simp only [withdrawSection, Option.some.injEq, Prod.mk.injEq,
      WithdrawStage.cardDying.injEq] at taking
    obtain ⟨rfl, rfl⟩ := taking
    refine ⟨by simp [Cleared, withdrawSection], ?_⟩
    intro published member
    simp [(sound.gone id member).2.2] at published

/-- A withdrawal returns with its id cleared for good. -/
theorem sound_withdraw_return (sound : state.Sound) (id : ObjectId) (cleared : state.Cleared id) :
    (state.withdrawReturn id).Sound where
  served := sound.served
  single := sound.single
  exclusive := sound.exclusive
  issued := sound.issued
  resolved := fun serial resolve present =>
    List.mem_cons_of_mem _ (sound.resolved serial resolve present)
  fresh := fun other absent => sound.fresh other (fun used => absent (List.mem_cons_of_mem _ used))
  readersOnly := by
    intro other reader
    obtain ⟨used, before⟩ := sound.readersOnly other reader
    exact ⟨List.mem_cons_of_mem _ used, before⟩
  gone := by
    intro other member
    rcases List.mem_cons.mp member with rfl | earlier
    · exact ⟨List.mem_cons_self, cleared⟩
    · obtain ⟨used, before⟩ := sound.gone other earlier
      exact ⟨List.mem_cons_of_mem _ used, before⟩
  readerTaken := by simp [withdrawReturn]
  cardTaken := by simp [withdrawReturn]

/-- What a step can do: one of the presence deltas, a section of a withdrawal,
or an advance of one resolve. -/
inductive Change (policy : CardResolutionPolicy π α ω) (state : AgentFrontend π α) :
    AgentFrontend π α → Prop
  | reader (id : ObjectId) (name : String) (idle : state.withdrawing = none)
      (unused : id ∉ state.used) : Change policy state (state.materializeReader id name)
  | card (id reader : ObjectId) (atrHex : String) (idle : state.withdrawing = none)
      (unused : id ∉ state.used) : Change policy state (state.materializeCard policy id reader atrHex)
  | withdraw (id : ObjectId) : Change policy state (state.withdrawObject id)
  | clear (id : ObjectId) (looking : state.withdrawing = some (id, .cardLookup)) :
      Change policy state (state.withdrawSection id)
  | withdrew (id : ObjectId) (stage : WithdrawStage π)
      (taking : state.withdrawing = some (id, stage))
      (ended : stage = .readerDying ∨ ∃ object, stage = .cardDying object) :
      Change policy state (state.withdrawReturn id)
  | advanced (serial : Nat) (resolve : Resolve π) (next : AgentFrontend π α)
      (present : state.resolves serial = some resolve)
      (advanced : Advanced state next serial resolve) : Change policy state next

/-- Every step is one of these. -/
theorem step_change (policy : CardResolutionPolicy π α ω) (event : FrontendEvent π ω)
    (stepped : step policy state event = some next) : Change policy state next := by
  have moves : ∀ (event : FrontendEvent π ω) serial,
      (state.resolves serial).bind (state.advance policy event serial) = some next →
      Change policy state next := by
    intro event serial moved
    obtain ⟨resolve, present, performed⟩ := Option.bind_eq_some_iff.mp moved
    exact .advanced serial resolve next present (advance_advanced policy event performed)
  cases event with
  | materializeReader id name =>
    simp only [step] at stepped
    split at stepped
    · cases stepped
    · rename_i ready
      obtain ⟨idle, unused⟩ := not_or.mp ready
      cases Option.some.inj stepped
      exact .reader id name (by simpa using idle) unused
  | materializeCard id reader atrHex =>
    simp only [step] at stepped
    split at stepped
    · cases stepped
    · rename_i ready
      obtain ⟨idle, unused⟩ := not_or.mp ready
      cases Option.some.inj stepped
      exact .card id reader atrHex (by simpa using idle) unused
  | withdrawObject id =>
    simp only [step] at stepped
    split at stepped
    · cases stepped
    · cases Option.some.inj stepped
      exact .withdraw id
  | withdrawSection =>
    simp only [step] at stepped
    split at stepped
    · rename_i id looking
      cases Option.some.inj stepped
      exact .clear id looking
    · cases stepped
  | withdrawReturn =>
    simp only [step] at stepped
    split at stepped
    · rename_i id taking
      cases Option.some.inj stepped
      exact .withdrew id _ taking (Or.inl rfl)
    · rename_i id object taking
      cases Option.some.inj stepped
      exact .withdrew id _ taking (Or.inr ⟨object, rfl⟩)
    · cases stepped
  | schedule serial queued => exact moves _ serial stepped
  | probed serial probe => exact moves _ serial stepped
  | apply serial => exact moves _ serial stepped
  | reschedule serial => exact moves _ serial stepped
  | construct serial => exact moves _ serial stepped
  | publish serial => exact moves _ serial stepped
  | destruct serial => exact moves _ serial stepped
  | hold serial roster => exact moves _ serial stepped
  | timer serial => exact moves _ serial stepped

/-- Every step keeps the invariant. -/
theorem sound_step (policy : CardResolutionPolicy π α ω) (state : AgentFrontend π α)
    (event : FrontendEvent π ω) (next : AgentFrontend π α) (sound : state.Sound)
    (stepped : step policy state event = some next) : next.Sound := by
  cases step_change policy event stepped with
  | reader id name idle unused => exact sound_reader sound id name idle unused
  | card id reader atrHex idle unused => exact sound_card policy sound id reader atrHex idle unused
  | withdraw id => exact sound_withdraw_object sound id
  | clear id looking => exact sound_withdraw_section sound id
  | withdrew id stage taking ended =>
    apply sound_withdraw_return sound id
    rcases ended with rfl | ⟨object, rfl⟩
    · exact sound.readerTaken id taking
    · exact (sound.cardTaken id object taking).1
  | advanced serial resolve _ present advanced => exact sound_advanced sound present advanced

/-- A policy that repeats a failed probe once. -/
def retryOnce : CardResolutionPolicy Bool Nat Unit where
  budget := 1
  firstDelay := 50
  retryAfter readable attempts :=
    if readable || attempts = 0 then (none, attempts) else (some 50, attempts - 1)
  holdsReader readable _ _ := readable

end LibreLinux.Agent.AgentFrontend
