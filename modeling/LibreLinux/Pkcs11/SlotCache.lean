import LibreLinux.Lib.Runs
import LibreLinux.Pkcs11.CallSteps

/-!
# Slot-cache coherence

Any number of `snapshot` calls run beside the signal handlers. A handler forgets
the settled cards and then sets the dirty mark; a call consumes the mark before
it enumerates. Two overlaps break the cache: a call that finds the mark consumed
while the enumeration it was consumed for is still in flight serves the list from
before the signal, and two enumerations in flight may store their lists in the
wrong order. A call that throws loses the mark it consumed.

Runs without these overlaps are coherent: every call returns a list enumerated
after each handler that had finished when the call began, and a clean cache with
no enumeration in flight was enumerated after every handled signal. The handlers
finished so far are counted; a call remembers the count at its entry, and an
enumeration the count at its exchange. In every run a returned list and the cached
one are those that the enumeration with their count stored.
-/

namespace LibreLinux.Pkcs11

open Runs

variable {κ ε : Type}

/-- The client with its calls in progress. The last fields record the count of
finished handlers: at a call's entry, at the exchange of its enumeration, at the
exchange of the enumeration whose list is cached, and of the one whose list a
call returned. -/
structure SlotCache (ε : Type) where
  shared : Shared ε := {}
  calls : Nat → Option (Phase ε) := fun _ => none
  forgotten : Bool := false
  handled : Nat := 0
  entryCount : Nat → Nat := fun _ => 0
  begunCount : Nat → Nat := fun _ => 0
  cachedCount : Option Nat := none
  returnedCount : Nat → Option Nat := fun _ => none

/-- A step of a call, or of the signal handlers. -/
inductive CacheEvent where
  | enter (call : Nat)
  | advance (call : Nat) (input : Input)
  | forgetSettled
  | invalidate

namespace SlotCache

/-- What a call's step leaves on record. -/
def record (state : SlotCache ε) (call : Nat) : Input → SlotCache ε
  | .exchange =>
    { state with begunCount := Function.update state.begunCount call state.handled }
  | .store => { state with cachedCount := some (state.begunCount call) }
  | .serve =>
    { state with returnedCount := Function.update state.returnedCount call state.cachedCount }
  | .mark =>
    { state with
      returnedCount := Function.update state.returnedCount call (some (state.begunCount call)) }
  | _ => state

/-- One step of one thread. Handlers come one at a time, from the event loop. -/
def step (library : Library κ ε) (state : SlotCache ε) : CacheEvent → Option (SlotCache ε)
  | .enter call =>
    if (state.calls call).isNone then
      some { state with
        calls := Function.update state.calls call (some .entered)
        entryCount := Function.update state.entryCount call state.handled }
    else none
  | .advance call input =>
    (state.calls call).bind (fun phase =>
      (advance library state.shared phase input).map (fun result =>
        { state.record call input with
          shared := result.1
          calls := Function.update state.calls call (some result.2) }))
  | .forgetSettled =>
    if state.forgotten then none
    else some { state with shared := Pkcs11.forgetSettled state.shared, forgotten := true }
  | .invalidate =>
    if state.forgotten then
      some { state with
        shared := Pkcs11.invalidate state.shared
        forgotten := false
        handled := state.handled + 1 }
    else none

/-- No call is between the exchange that consumed the mark and its store. -/
def NoneInFlight (state : SlotCache ε) : Prop :=
  ∀ call phase, state.calls call = some phase → phase.inFlight = false

/-- Among the steps, a call whose exchange came behind so many finished handlers stored the list. -/
def Made (past : List (SlotCache ε × CacheEvent)) (count : Nat) (readers : List (ReaderState ε)) :
    Prop :=
  ∃ call first last complete, [first, last].Sublist past ∧ first.2 = .advance call .exchange ∧
    first.1.handled = count ∧ last.2 = .advance call .store ∧
    last.1.calls call = some (.storing readers complete)

/-- Every call returned a list made by an enumeration begun after the handlers finished before
its entry, and with a clean cache and no enumeration in flight the cached list was made by one
begun after all of them. -/
def Coherent (past : List (SlotCache ε × CacheEvent)) (state : SlotCache ε) : Prop :=
  (∀ call readers, state.calls call = some (.returned readers) →
    ∃ count, state.returnedCount call = some count ∧ state.entryCount call ≤ count ∧
      Made past count readers) ∧
  (state.shared.dirty = false → state.NoneInFlight →
    ∃ count, state.cachedCount = some count ∧ state.handled ≤ count ∧
      Made past count state.shared.cached)

/-- The steps that do not meet the overlaps: an exchange that finds the mark clear
while no enumeration is in flight, a store that does not follow the store of an
enumeration begun after a later signal, and a step that does not throw. -/
def Orderly (library : Library κ ε) (state : SlotCache ε) : CacheEvent → Prop
  | .advance call input =>
    (input = .exchange → state.shared.dirty = false → state.NoneInFlight) ∧
    (input = .store → ∀ count, state.cachedCount = some count → count ≤ state.begunCount call) ∧
    (∀ phase shared, state.calls call = some phase →
      advance library state.shared phase input ≠ some (shared, .thrown))
  | _ => True

end SlotCache

/-- The steps between a call's exchange and its store. -/
def Input.inner : Input → Bool
  | .exchange => false
  | .serve => false
  | .store => false
  | .mark => false
  | _ => true

/-- What a visit leads to is still in flight, or has thrown. -/
theorem visited_in_flight (shared : Shared ε) (walk : Walk ε) (after : Phase ε)
    (visited : Visited shared walk after) : after.inFlight = true ∨ after = .thrown := by
  cases visited with
  | mistyped object rest todo found => exact Or.inr rfl
  | _ => exact Or.inl rfl

/-- What follows a read is still in flight, or has thrown. -/
theorem after_read_in_flight (library : Library κ ε) (walk : Walk ε) (reader : ReaderState ε)
    (card : String) (preAuth : PreReadAuth) (outcome : ReadOutcome) :
    (afterRead library walk reader card preAuth outcome).inFlight = true ∨
      afterRead library walk reader card preAuth outcome = .thrown := by
  cases outcome with
  | askAgain => exact Or.inl rfl
  | settled => exact Or.inl rfl
  | read certificates =>
    cases entries : certEntries library preAuth certificates with
    | none => exact Or.inr (by simp only [afterRead, entries])
    | some certs => exact Or.inl (by simp only [afterRead, entries, Phase.inFlight])

/-- What a step of a call can do. Between the exchange and the store it touches
neither the mark nor the cached list. -/
theorem advance_cases (library : Library κ ε) (shared next : Shared ε) (phase after : Phase ε)
    (input : Input) (stepped : advance library shared phase input = some (next, after)) :
    (phase = .entered ∧ input = .exchange ∧ next = { shared with dirty := false } ∧
      after = if shared.dirty then .enumerating else .serving) ∨
    (phase = .serving ∧ input = .serve ∧ next = shared ∧ after = .returned shared.cached) ∨
    (∃ readers complete, phase = .storing readers complete ∧ input = .store ∧
      next = { shared with cached := readers } ∧ after = .marking readers complete) ∨
    (∃ readers complete, phase = .marking readers complete ∧ input = .mark ∧
      next = { shared with dirty := shared.dirty || !complete } ∧ after = .returned readers) ∨
    (phase.inFlight = true ∧ input.inner = true ∧ next.dirty = shared.dirty ∧
      next.cached = shared.cached ∧ (after.inFlight = true ∨ after = .thrown)) := by
  cases advanced library shared next phase after input stepped with
  | exchange => exact Or.inl ⟨rfl, rfl, rfl, rfl⟩
  | serve => exact Or.inr (Or.inl ⟨rfl, rfl, rfl, rfl⟩)
  | store readers complete =>
    exact Or.inr (Or.inr (Or.inl ⟨readers, complete, rfl, rfl, rfl, rfl⟩))
  | mark readers complete =>
    exact Or.inr (Or.inr (Or.inr (Or.inl ⟨readers, complete, rfl, rfl, rfl, rfl⟩)))
  | begin => exact Or.inr (Or.inr (Or.inr (Or.inr ⟨rfl, rfl, rfl, rfl, Or.inl rfl⟩)))
  | refused generation =>
    exact Or.inr (Or.inr (Or.inr (Or.inr ⟨rfl, rfl, rfl, rfl, Or.inl rfl⟩)))
  | answered generation managed =>
    exact Or.inr (Or.inr (Or.inr (Or.inr ⟨rfl, rfl, rfl, rfl, Or.inl rfl⟩)))
  | visit walk after visited =>
    exact Or.inr (Or.inr (Or.inr (Or.inr
      ⟨rfl, rfl, rfl, rfl, visited_in_flight shared walk after visited⟩)))
  | accept walk reader card preAuth =>
    exact Or.inr (Or.inr (Or.inr (Or.inr ⟨rfl, rfl, rfl, rfl, Or.inl rfl⟩)))
  | ended walk reader card preAuth read phase pending =>
    have flying : phase.inFlight = true := by cases pending <;> rfl
    exact Or.inr (Or.inr (Or.inr (Or.inr
      ⟨flying, rfl, rfl, rfl, after_read_in_flight library walk reader card preAuth _⟩)))
  | settle walk reader card =>
    refine Or.inr (Or.inr (Or.inr (Or.inr ⟨rfl, rfl, ?_, ?_, Or.inl rfl⟩)))
    all_goals
      simp only [settleCard]
      split_ifs <;> rfl

/-- How a call came to its phase in a step: it was there before and the step was
not its own, it has just entered, or it has advanced. -/
theorem call_moved (library : Library κ ε) (state next : SlotCache ε) (event : CacheEvent)
    (call : Nat) (phase : Phase ε) (stepped : SlotCache.step library state event = some next)
    (found : next.calls call = some phase) :
    (state.calls call = some phase ∧ ∀ input, event ≠ .advance call input) ∨
      (event = .enter call ∧ phase = .entered) ∨
      ∃ input earlier, event = .advance call input ∧ state.calls call = some earlier ∧
        Advanced library state.shared earlier input next.shared phase := by
  cases event with
  | enter other =>
    simp only [SlotCache.step] at stepped
    split_ifs at stepped
    cases stepped
    by_cases same : call = other
    · subst same
      exact Or.inr (Or.inl ⟨rfl, by simpa [eq_comm] using found⟩)
    · exact Or.inl ⟨by simpa [Function.update_of_ne same] using found, by simp⟩
  | advance other input =>
    simp only [SlotCache.step, Option.bind_eq_some_iff, Option.map_eq_some_iff] at stepped
    obtain ⟨earlier, current, ⟨shared, after⟩, advance, rfl⟩ := stepped
    by_cases same : call = other
    · subst same
      have arrived : after = phase := by simpa using found
      subst arrived
      exact Or.inr (Or.inr ⟨input, earlier, rfl, current, advanced library _ _ _ _ _ advance⟩)
    · refine Or.inl ⟨by simpa [Function.update_of_ne same] using found, ?_⟩
      rintro other ⟨⟩
      exact same rfl
  | forgetSettled =>
    simp only [SlotCache.step] at stepped
    split_ifs at stepped
    cases stepped
    exact Or.inl ⟨found, by simp⟩
  | invalidate =>
    simp only [SlotCache.step] at stepped
    split_ifs at stepped
    cases stepped
    exact Or.inl ⟨found, by simp⟩

namespace SlotCache

/-- What orderly runs keep. A call in flight began after its entry; a call that
will serve the cache finds a list begun after its entry; and while the mark is
clear, the cached list or an enumeration in flight began after the last handled
signal. -/
structure Sound (state : SlotCache ε) : Prop where
  entries : ∀ call, state.entryCount call ≤ state.handled
  begun : ∀ call phase, state.calls call = some phase →
    (phase.inFlight = true ∨ ∃ readers complete, phase = .marking readers complete) →
    state.entryCount call ≤ state.begunCount call
  served : ∀ call, state.calls call = some .serving →
    ∃ count, state.cachedCount = some count ∧ state.entryCount call ≤ count
  returned : ∀ call readers, state.calls call = some (.returned readers) →
    ∃ count, state.returnedCount call = some count ∧ state.entryCount call ≤ count
  fresh : state.shared.dirty = false →
    (∃ count, state.cachedCount = some count ∧ state.handled ≤ count) ∨
    (∃ call phase, state.calls call = some phase ∧ phase.inFlight = true ∧
      state.handled ≤ state.begunCount call)

/-- Nothing has happened yet, and the mark is set. -/
theorem sound_initial : Sound ({} : SlotCache ε) where
  entries _ := Nat.le_refl 0
  begun _ _ found := by cases found
  served _ found := by cases found
  returned _ _ found := by cases found
  fresh clean := by cases clean

variable {library : Library κ ε} {state : SlotCache ε}

/-- A call's phase after another call's step, and after its own. -/
theorem calls_update (call other : Nat) (after phase : Phase ε)
    (found : Function.update state.calls call (some after) other = some phase) :
    other = call ∧ phase = after ∨ other ≠ call ∧ state.calls other = some phase := by
  by_cases same : other = call
  · subst same
    rw [Function.update_self] at found
    exact Or.inl ⟨rfl, (Option.some.inj found).symm⟩
  · rw [Function.update_of_ne same] at found
    exact Or.inr ⟨same, found⟩

/-- The step of a call that is not in flight leaves the enumerations in flight. -/
theorem in_flight_kept (call bound : Nat) (after : Phase ε)
    (idle : ∀ phase, state.calls call = some phase → phase.inFlight = false)
    (flying : ∃ other phase, state.calls other = some phase ∧ phase.inFlight = true ∧
      bound ≤ state.begunCount other) :
    ∃ other phase, Function.update state.calls call (some after) other = some phase ∧
      phase.inFlight = true ∧ bound ≤ state.begunCount other := by
  obtain ⟨other, phase, found, inFlight, begun⟩ := flying
  have different : other ≠ call := by
    rintro rfl
    rw [idle phase found] at inFlight
    cases inFlight
  exact ⟨other, phase, by rw [Function.update_of_ne different, found], inFlight, begun⟩

/-- Entering a call. -/
theorem sound_enter (call : Nat) (absent : state.calls call = none) (sound : state.Sound) :
    Sound { state with
      calls := Function.update state.calls call (some .entered)
      entryCount := Function.update state.entryCount call state.handled } where
  entries other := by
    by_cases same : other = call
    · simp [same]
    · simpa [Function.update_of_ne same] using sound.entries other
  begun other phase found inFlight := by
    obtain ⟨-, rfl⟩ | ⟨different, earlier⟩ := calls_update call other _ phase found
    · simp [Phase.inFlight] at inFlight
    · simpa [Function.update_of_ne different] using sound.begun other phase earlier inFlight
  served other found := by
    obtain ⟨-, impossible⟩ | ⟨different, earlier⟩ := calls_update call other _ _ found
    · cases impossible
    · simpa [Function.update_of_ne different] using sound.served other earlier
  returned other readers found := by
    obtain ⟨-, impossible⟩ | ⟨different, earlier⟩ := calls_update call other _ _ found
    · cases impossible
    · simpa [Function.update_of_ne different] using sound.returned other readers earlier
  fresh clean := by
    refine (sound.fresh clean).imp_right (in_flight_kept call state.handled .entered ?_)
    intro phase found
    rw [absent] at found
    cases found

/-- Consuming a mark that is set: the call's enumeration begins after every
handled signal. -/
theorem sound_exchange_set (call : Nat) (sound : state.Sound) :
    Sound { state with
      shared := { state.shared with dirty := false }
      calls := Function.update state.calls call (some .enumerating)
      begunCount := Function.update state.begunCount call state.handled } where
  entries := sound.entries
  begun other phase found inFlight := by
    obtain ⟨rfl, -⟩ | ⟨different, earlier⟩ := calls_update call other _ phase found
    · simpa using sound.entries other
    · simpa [Function.update_of_ne different] using sound.begun other phase earlier inFlight
  served other found := by
    obtain ⟨-, impossible⟩ | ⟨-, earlier⟩ := calls_update call other _ _ found
    · cases impossible
    · exact sound.served other earlier
  returned other readers found := by
    obtain ⟨-, impossible⟩ | ⟨-, earlier⟩ := calls_update call other _ _ found
    · cases impossible
    · exact sound.returned other readers earlier
  fresh _ := Or.inr ⟨call, .enumerating, by simp, rfl, by simp⟩

/-- Finding the mark clear while nothing is in flight: the cached list was
enumerated after every handled signal. -/
theorem sound_exchange_clear (call : Nat) (clear : state.shared.dirty = false)
    (quiet : state.NoneInFlight) (sound : state.Sound) :
    Sound { state with
      shared := { state.shared with dirty := false }
      calls := Function.update state.calls call (some .serving)
      begunCount := Function.update state.begunCount call state.handled } := by
  have cached : ∃ count, state.cachedCount = some count ∧ state.handled ≤ count := by
    obtain cached | ⟨other, phase, found, inFlight, -⟩ := sound.fresh clear
    · exact cached
    · rw [quiet other phase found] at inFlight
      cases inFlight
  refine ⟨sound.entries, ?_, ?_, ?_, fun _ => Or.inl cached⟩
  · intro other phase found inFlight
    obtain ⟨-, rfl⟩ | ⟨different, earlier⟩ := calls_update call other _ phase found
    · simp [Phase.inFlight] at inFlight
    · simpa [Function.update_of_ne different] using sound.begun other phase earlier inFlight
  · intro other found
    obtain ⟨-, -⟩ | ⟨-, earlier⟩ := calls_update call other _ _ found
    · obtain ⟨count, stored, late⟩ := cached
      exact ⟨count, stored, (sound.entries other).trans late⟩
    · exact sound.served other earlier
  · intro other readers found
    obtain ⟨-, impossible⟩ | ⟨-, earlier⟩ := calls_update call other _ _ found
    · cases impossible
    · exact sound.returned other readers earlier

/-- Serving the cached list. -/
theorem sound_serve (call : Nat) (serving : state.calls call = some .serving) (sound : state.Sound) :
    Sound { state with
      calls := Function.update state.calls call (some (.returned state.shared.cached))
      returnedCount := Function.update state.returnedCount call state.cachedCount } where
  entries := sound.entries
  begun other phase found inFlight := by
    obtain ⟨-, rfl⟩ | ⟨-, earlier⟩ := calls_update call other _ phase found
    · simp [Phase.inFlight] at inFlight
    · exact sound.begun other phase earlier inFlight
  served other found := by
    obtain ⟨-, impossible⟩ | ⟨-, earlier⟩ := calls_update call other _ _ found
    · cases impossible
    · exact sound.served other earlier
  returned other readers found := by
    obtain ⟨rfl, -⟩ | ⟨different, earlier⟩ := calls_update call other _ _ found
    · simpa using sound.served other serving
    · simpa [Function.update_of_ne different] using sound.returned other readers earlier
  fresh clean := by
    refine (sound.fresh clean).imp_right (in_flight_kept call state.handled _ ?_)
    intro phase found
    rw [serving] at found
    cases found
    rfl

/-- Storing a list that no later enumeration has overtaken: the cached list only
gets newer. -/
theorem sound_store (call : Nat) (readers : List (ReaderState ε)) (complete : Bool)
    (storing : state.calls call = some (.storing readers complete))
    (ordered : ∀ count, state.cachedCount = some count → count ≤ state.begunCount call)
    (sound : state.Sound) :
    Sound { state with
      shared := { state.shared with cached := readers }
      calls := Function.update state.calls call (some (.marking readers complete))
      cachedCount := some (state.begunCount call) } where
  entries := sound.entries
  begun other phase found inFlight := by
    obtain ⟨rfl, -⟩ | ⟨-, earlier⟩ := calls_update call other _ phase found
    · exact sound.begun other _ storing (Or.inl rfl)
    · exact sound.begun other phase earlier inFlight
  served other found := by
    obtain ⟨-, impossible⟩ | ⟨-, earlier⟩ := calls_update call other _ _ found
    · cases impossible
    · obtain ⟨count, stored, late⟩ := sound.served other earlier
      exact ⟨state.begunCount call, rfl, late.trans (ordered count stored)⟩
  returned other others found := by
    obtain ⟨-, impossible⟩ | ⟨-, earlier⟩ := calls_update call other _ _ found
    · cases impossible
    · exact sound.returned other others earlier
  fresh clean := by
    obtain ⟨count, stored, late⟩ | ⟨other, phase, found, inFlight, late⟩ := sound.fresh clean
    · exact Or.inl ⟨state.begunCount call, rfl, late.trans (ordered count stored)⟩
    · by_cases same : other = call
      · subst same
        exact Or.inl ⟨state.begunCount other, rfl, late⟩
      · exact Or.inr ⟨other, phase, by simp [Function.update_of_ne same, found], inFlight, late⟩

/-- Marking an incomplete list, and returning. -/
theorem sound_mark (call : Nat) (readers : List (ReaderState ε)) (complete : Bool)
    (marking : state.calls call = some (.marking readers complete)) (sound : state.Sound) :
    Sound { state with
      shared := { state.shared with dirty := state.shared.dirty || !complete }
      calls := Function.update state.calls call (some (.returned readers))
      returnedCount :=
        Function.update state.returnedCount call (some (state.begunCount call)) } where
  entries := sound.entries
  begun other phase found inFlight := by
    obtain ⟨-, rfl⟩ | ⟨-, earlier⟩ := calls_update call other _ phase found
    · simp [Phase.inFlight] at inFlight
    · exact sound.begun other phase earlier inFlight
  served other found := by
    obtain ⟨-, impossible⟩ | ⟨-, earlier⟩ := calls_update call other _ _ found
    · cases impossible
    · exact sound.served other earlier
  returned other others found := by
    obtain ⟨rfl, -⟩ | ⟨different, earlier⟩ := calls_update call other _ _ found
    · exact ⟨state.begunCount other, by simp,
        sound.begun other _ marking (Or.inr ⟨readers, complete, rfl⟩)⟩
    · simpa [Function.update_of_ne different] using sound.returned other others earlier
  fresh clean := by
    simp only [Bool.or_eq_false_iff] at clean
    refine (sound.fresh clean.1).imp_right (in_flight_kept call state.handled _ ?_)
    intro phase found
    rw [marking] at found
    cases found
    rfl

/-- A step between the exchange and the store. -/
theorem sound_inner (call : Nat) (shared : Shared ε) (phase after : Phase ε)
    (current : state.calls call = some phase) (flying : phase.inFlight = true)
    (kept : after.inFlight = true) (mark : shared.dirty = state.shared.dirty)
    (sound : state.Sound) :
    Sound { state with shared, calls := Function.update state.calls call (some after) } where
  entries := sound.entries
  begun other later found inFlight := by
    obtain ⟨rfl, -⟩ | ⟨-, earlier⟩ := calls_update call other _ later found
    · exact sound.begun other phase current (Or.inl flying)
    · exact sound.begun other later earlier inFlight
  served other found := by
    obtain ⟨-, impossible⟩ | ⟨-, earlier⟩ := calls_update call other _ _ found
    · rw [← impossible] at kept
      cases kept
    · exact sound.served other earlier
  returned other readers found := by
    obtain ⟨-, impossible⟩ | ⟨-, earlier⟩ := calls_update call other _ _ found
    · rw [← impossible] at kept
      cases kept
    · exact sound.returned other readers earlier
  fresh clean := by
    apply (sound.fresh (mark.symm.trans clean)).imp_right
    rintro ⟨other, earlier, found, inFlight, late⟩
    by_cases same : other = call
    · subst same
      exact ⟨other, after, by simp, kept, late⟩
    · exact ⟨other, earlier, by simp [Function.update_of_ne same, found], inFlight, late⟩

/-- Every orderly step of a call keeps the invariant. -/
theorem sound_advance (call : Nat) (input : Input) (phase after : Phase ε) (shared : Shared ε)
    (current : state.calls call = some phase)
    (stepped : advance library state.shared phase input = some (shared, after))
    (orderly : Orderly library state (.advance call input)) (sound : state.Sound) :
    Sound { state.record call input with
      shared, calls := Function.update state.calls call (some after) } := by
  obtain ⟨exchanging, storing, unthrown⟩ := orderly
  obtain ⟨rfl, rfl, rfl, rfl⟩ | ⟨rfl, rfl, rfl, rfl⟩ | ⟨readers, complete, rfl, rfl, rfl, rfl⟩ |
    ⟨readers, complete, rfl, rfl, rfl, rfl⟩ | ⟨flying, inner, mark, -, kept⟩ :=
    advance_cases library state.shared shared phase after input stepped
  · cases dirty : state.shared.dirty with
    | true => exact sound_exchange_set call sound
    | false => exact sound_exchange_clear call dirty (exchanging rfl dirty) sound
  · exact sound_serve call current sound
  · exact sound_store call readers complete current (storing rfl) sound
  · exact sound_mark call readers complete current sound
  · have flies : after.inFlight = true := by
      apply kept.resolve_right
      rintro rfl
      exact unthrown phase shared current stepped
    have unrecorded : state.record call input = state := by
      cases input <;> first | rfl | cases inner
    rw [unrecorded]
    exact sound_inner call shared phase after current flying flies mark sound

/-- Every orderly step keeps the invariant. -/
theorem sound_step (library : Library κ ε) (state : SlotCache ε) (event : CacheEvent)
    (next : SlotCache ε) (sound : state.Sound) (orderly : Orderly library state event)
    (stepped : step library state event = some next) : next.Sound := by
  cases event with
  | enter call =>
    simp only [step] at stepped
    split_ifs at stepped with absent
    cases stepped
    exact sound_enter call (Option.isNone_iff_eq_none.mp absent) sound
  | advance call input =>
    simp only [step, Option.bind_eq_some_iff, Option.map_eq_some_iff] at stepped
    obtain ⟨phase, current, ⟨shared, after⟩, advanced, rfl⟩ := stepped
    exact sound_advance call input phase after shared current advanced orderly sound
  | forgetSettled =>
    simp only [step] at stepped
    split_ifs at stepped
    cases stepped
    exact ⟨sound.entries, sound.begun, sound.served, sound.returned, sound.fresh⟩
  | invalidate =>
    simp only [step] at stepped
    split_ifs at stepped
    cases stepped
    exact ⟨fun call => Nat.le_succ_of_le (sound.entries call), sound.begun, sound.served,
      sound.returned, fun clean => by cases clean⟩

/-- The lists behind the counts. An enumeration under way began at the count its call remembers;
the list it is about to mark, the cached one and the returned ones were made at theirs. -/
structure Traced (past : List (SlotCache ε × CacheEvent)) (state : SlotCache ε) : Prop where
  begun : ∀ call phase, state.calls call = some phase → phase.inFlight = true →
    ∃ first ∈ past, first.2 = .advance call .exchange ∧ first.1.handled = state.begunCount call
  marking : ∀ call readers complete, state.calls call = some (.marking readers complete) →
    Made past (state.begunCount call) readers
  cached : ∀ count, state.cachedCount = some count → Made past count state.shared.cached
  returned : ∀ call readers count, state.calls call = some (.returned readers) →
    state.returnedCount call = some count → Made past count readers

/-- A list that was made stays one. -/
theorem made_append (past later : List (SlotCache ε × CacheEvent)) (count : Nat)
    (readers : List (ReaderState ε)) (made : Made past count readers) :
    Made (past ++ later) count readers := by
  obtain ⟨call, first, last, complete, ordered, steps⟩ := made
  exact ⟨call, first, last, complete, ordered.trans (List.sublist_append_left _ _), steps⟩

variable {past : List (SlotCache ε × CacheEvent)}

/-- A further step leaves the lists made so far. -/
theorem traced_append (later : List (SlotCache ε × CacheEvent)) (traced : Traced past state) :
    Traced (past ++ later) state where
  begun call phase found inFlight := by
    obtain ⟨first, member, exchange⟩ := traced.begun call phase found inFlight
    exact ⟨first, List.mem_append_left _ member, exchange⟩
  marking call readers complete found := made_append _ _ _ _ (traced.marking call readers complete found)
  cached count stored := made_append _ _ _ _ (traced.cached count stored)
  returned call readers count found returned :=
    made_append _ _ _ _ (traced.returned call readers count found returned)

/-- Entering a call. -/
theorem traced_enter (call : Nat) (counts : Nat → Nat) (traced : Traced past state) :
    Traced past { state with
      calls := Function.update state.calls call (some .entered), entryCount := counts } where
  begun other phase found inFlight := by
    obtain ⟨-, rfl⟩ | ⟨-, earlier⟩ := calls_update call other _ phase found
    · cases inFlight
    · exact traced.begun other phase earlier inFlight
  marking other readers complete found := by
    obtain ⟨-, impossible⟩ | ⟨-, earlier⟩ := calls_update call other _ _ found
    · cases impossible
    · exact traced.marking other readers complete earlier
  cached := traced.cached
  returned other readers count found returned := by
    obtain ⟨-, impossible⟩ | ⟨-, earlier⟩ := calls_update call other _ _ found
    · cases impossible
    · exact traced.returned other readers count earlier returned

/-- The exchange: the count is the one the call finds. -/
theorem traced_exchange (call : Nat) (current : state.calls call = some .entered)
    (traced : Traced past state) :
    Traced (past ++ [(state, .advance call .exchange)]) { state with
      shared := { state.shared with dirty := false }
      calls := Function.update state.calls call
        (some (if state.shared.dirty then .enumerating else .serving))
      begunCount := Function.update state.begunCount call state.handled } where
  begun other phase found inFlight := by
    obtain ⟨rfl, -⟩ | ⟨different, earlier⟩ := calls_update call other _ phase found
    · exact ⟨_, List.mem_append_right _ (List.mem_singleton_self _), rfl, by simp⟩
    · obtain ⟨first, member, exchange, count⟩ := traced.begun other phase earlier inFlight
      exact ⟨first, List.mem_append_left _ member, exchange,
        by simpa [Function.update_of_ne different] using count⟩
  marking other readers complete found := by
    obtain ⟨-, impossible⟩ | ⟨different, earlier⟩ := calls_update call other _ _ found
    · split_ifs at impossible
    · simpa [Function.update_of_ne different] using
        (traced_append _ traced).marking other readers complete earlier
  cached := (traced_append _ traced).cached
  returned other readers count found returned := by
    obtain ⟨-, impossible⟩ | ⟨-, earlier⟩ := calls_update call other _ _ found
    · split_ifs at impossible
    · exact (traced_append _ traced).returned other readers count earlier returned

/-- Serving: the returned list is the cached one. -/
theorem traced_serve (call : Nat) (traced : Traced past state) :
    Traced past { state with
      calls := Function.update state.calls call (some (.returned state.shared.cached))
      returnedCount := Function.update state.returnedCount call state.cachedCount } where
  begun other phase found inFlight := by
    obtain ⟨-, rfl⟩ | ⟨-, earlier⟩ := calls_update call other _ phase found
    · cases inFlight
    · exact traced.begun other phase earlier inFlight
  marking other readers complete found := by
    obtain ⟨-, impossible⟩ | ⟨-, earlier⟩ := calls_update call other _ _ found
    · cases impossible
    · exact traced.marking other readers complete earlier
  cached := traced.cached
  returned other readers count found returned := by
    obtain ⟨rfl, same⟩ | ⟨different, earlier⟩ := calls_update call other _ _ found
    · cases same
      exact traced.cached count (by simpa using returned)
    · exact traced.returned other readers count earlier
        (by simpa [Function.update_of_ne different] using returned)

/-- Storing: the cached list is the call's own. -/
theorem traced_store (call : Nat) (readers : List (ReaderState ε)) (complete : Bool)
    (current : state.calls call = some (.storing readers complete)) (traced : Traced past state) :
    Traced (past ++ [(state, .advance call .store)]) { state with
      shared := { state.shared with cached := readers }
      calls := Function.update state.calls call (some (.marking readers complete))
      cachedCount := some (state.begunCount call) } := by
  have made : Made (past ++ [(state, .advance call .store)]) (state.begunCount call) readers := by
    obtain ⟨first, member, exchange, count⟩ := traced.begun call _ current rfl
    exact ⟨call, first, (state, .advance call .store), complete,
      (List.singleton_sublist.mpr member).append_right _, exchange, count, rfl, current⟩
  have earlier := traced_append [(state, .advance call .store)] traced
  refine ⟨?_, ?_, ?_, ?_⟩
  · intro other phase found inFlight
    obtain ⟨-, rfl⟩ | ⟨-, before⟩ := calls_update call other _ phase found
    · cases inFlight
    · exact earlier.begun other phase before inFlight
  · intro other others marked found
    obtain ⟨rfl, same⟩ | ⟨-, before⟩ := calls_update call other _ _ found
    · cases same
      exact made
    · exact earlier.marking other others marked before
  · intro count stored
    cases stored
    exact made
  · intro other others count found returned
    obtain ⟨-, impossible⟩ | ⟨-, before⟩ := calls_update call other _ _ found
    · cases impossible
    · exact earlier.returned other others count before returned

/-- Marking: the returned list is the one that was stored. -/
theorem traced_mark (call : Nat) (readers : List (ReaderState ε)) (complete : Bool)
    (current : state.calls call = some (.marking readers complete)) (traced : Traced past state) :
    Traced past { state with
      shared := { state.shared with dirty := state.shared.dirty || !complete }
      calls := Function.update state.calls call (some (.returned readers))
      returnedCount :=
        Function.update state.returnedCount call (some (state.begunCount call)) } where
  begun other phase found inFlight := by
    obtain ⟨-, rfl⟩ | ⟨-, earlier⟩ := calls_update call other _ phase found
    · cases inFlight
    · exact traced.begun other phase earlier inFlight
  marking other others marked found := by
    obtain ⟨-, impossible⟩ | ⟨-, earlier⟩ := calls_update call other _ _ found
    · cases impossible
    · exact traced.marking other others marked earlier
  cached := traced.cached
  returned other others count found returned := by
    obtain ⟨rfl, same⟩ | ⟨different, earlier⟩ := calls_update call other _ _ found
    · cases same
      have stored : some (state.begunCount other) = some count := by simpa using returned
      cases stored
      exact traced.marking other readers complete current
    · exact traced.returned other others count earlier
        (by simpa [Function.update_of_ne different] using returned)

/-- A step between the exchange and the store. -/
theorem traced_inner (call : Nat) (shared : Shared ε) (phase after : Phase ε)
    (current : state.calls call = some phase) (flying : phase.inFlight = true)
    (kept : after.inFlight = true ∨ after = .thrown) (cached : shared.cached = state.shared.cached)
    (traced : Traced past state) :
    Traced past { state with shared, calls := Function.update state.calls call (some after) } where
  begun other later found inFlight := by
    obtain ⟨rfl, -⟩ | ⟨-, earlier⟩ := calls_update call other _ later found
    · exact traced.begun other phase current flying
    · exact traced.begun other later earlier inFlight
  marking other readers complete found := by
    obtain ⟨-, impossible⟩ | ⟨-, earlier⟩ := calls_update call other _ _ found
    · rcases kept with kept | kept <;> rw [← impossible] at kept <;> cases kept
    · exact traced.marking other readers complete earlier
  cached count stored := cached ▸ traced.cached count stored
  returned other readers count found returned := by
    obtain ⟨-, impossible⟩ | ⟨-, earlier⟩ := calls_update call other _ _ found
    · rcases kept with kept | kept <;> rw [← impossible] at kept <;> cases kept
    · exact traced.returned other readers count earlier returned

/-- Every step keeps where the lists come from. -/
theorem traced_step (library : Library κ ε) (past : List (SlotCache ε × CacheEvent))
    (state : SlotCache ε) (event : CacheEvent) (next : SlotCache ε) (traced : Traced past state)
    (stepped : step library state event = some next) : Traced (past ++ [(state, event)]) next := by
  have earlier := traced_append [(state, event)] traced
  cases event with
  | enter call =>
    simp only [step] at stepped
    split_ifs at stepped
    cases stepped
    exact traced_enter call _ earlier
  | advance call input =>
    simp only [step, Option.bind_eq_some_iff, Option.map_eq_some_iff] at stepped
    obtain ⟨phase, current, ⟨shared, after⟩, advanced, rfl⟩ := stepped
    obtain ⟨rfl, rfl, rfl, rfl⟩ | ⟨rfl, rfl, rfl, rfl⟩ | ⟨readers, complete, rfl, rfl, rfl, rfl⟩ |
      ⟨readers, complete, rfl, rfl, rfl, rfl⟩ | ⟨flying, inner, -, cached, kept⟩ :=
      advance_cases library state.shared shared phase after input advanced
    · exact traced_exchange call current traced
    · exact traced_serve call earlier
    · exact traced_store call readers complete current traced
    · exact traced_mark call readers complete current earlier
    · have unrecorded : state.record call input = state := by
        cases input <;> first | rfl | cases inner
      rw [unrecorded]
      exact traced_inner call shared phase after current flying kept cached earlier
  | forgetSettled =>
    simp only [step] at stepped
    split_ifs at stepped
    cases stepped
    exact ⟨earlier.begun, earlier.marking, earlier.cached, earlier.returned⟩
  | invalidate =>
    simp only [step] at stepped
    split_ifs at stepped
    cases stepped
    exact ⟨earlier.begun, earlier.marking, earlier.cached, earlier.returned⟩

/-- In every run, overlaps or not, the lists come from where their counts say. -/
theorem reached_traced (library : Library κ ε) (events : List CacheEvent) (state : SlotCache ε)
    (reached : run (step library) {} events = some state) :
    Traced (trace (step library) {} events) state :=
  trace_invariant (step library) Traced (traced_step library) events {} state
    ⟨by simp, by simp, by simp, by simp⟩ reached

/-- In every run without the overlaps, every reached state is coherent.

Proof: without the overlaps the counts at hand are as late as the claim asks (`Sound`), and in any
run the lists come from where their counts say (`Traced`). -/
theorem orderly_runs_coherent (library : Library κ ε) (events : List CacheEvent)
    (state : SlotCache ε)
    (orderly : Admitted (step library) (Orderly library) {} events)
    (reached : run (step library) {} events = some state) :
    Coherent (trace (step library) {} events) state := by
  have sound : state.Sound :=
    admitted_invariant (step library) (Orderly library) Sound
      (fun before event next => sound_step library before event next)
      events {} state sound_initial orderly reached
  have traced := reached_traced library events state reached
  refine ⟨?_, ?_⟩
  · intro call readers found
    obtain ⟨count, returned, late⟩ := sound.returned call readers found
    exact ⟨count, returned, late, traced.returned call readers count found returned⟩
  · intro clean quiet
    obtain ⟨count, cached, late⟩ | ⟨call, phase, found, inFlight, -⟩ := sound.fresh clean
    · exact ⟨count, cached, late, traced.cached count cached⟩
    · rw [quiet call phase found] at inFlight
      cases inFlight

/-- A reply with readers at these paths, each without a card. -/
def vacantReaders (paths : List String) : Wire.ManagedObjects :=
  paths.map (fun path => (path, Finmap.singleton Wire.kReaderIface
    (Finmap.singleton "HasCard" (.boolean false))))

/-- Two calls begin, a signal is handled between their exchanges, and their
enumerations overlap and store in the order they began. -/
def orderedCalls : List CacheEvent :=
  [.enter 0, .enter 1, .advance 0 .exchange, .advance 0 .begin, .forgetSettled, .invalidate,
    .advance 1 .exchange, .advance 1 .begin,
    .advance 0 (.answer (some (vacantReaders ["/org/librescrs/Agent/reader/1"]))), .advance 0 .visit,
    .advance 0 .visit,
    .advance 1 (.answer (some (vacantReaders ["/org/librescrs/Agent/reader/2"]))), .advance 1 .visit,
    .advance 1 .visit, .advance 0 .store, .advance 1 .store, .advance 1 .mark, .advance 0 .mark]

/-- A step is orderly when its exchange and its store are and it does not throw. -/
theorem orderly_of_step (call : Nat) (input : Input) (phase after : Phase ε) (shared : Shared ε)
    (current : state.calls call = some phase)
    (stepped : advance library state.shared phase input = some (shared, after))
    (unthrown : after ≠ .thrown)
    (exchange : input = .exchange → state.shared.dirty = false → state.NoneInFlight)
    (store : input = .store → ∀ count, state.cachedCount = some count →
      count ≤ state.begunCount call) :
    Orderly library state (.advance call input) := by
  refine ⟨exchange, store, ?_⟩
  intro other result found thrown
  rw [current] at found
  cases found
  rw [stepped] at thrown
  cases thrown
  exact unthrown rfl

/-- The ordered calls meet none of the overlaps, and what is cached is the second one's reader. -/
theorem ordered_calls_coherent :
    ∃ state, run (step plainLibrary) {} orderedCalls = some state ∧
      state.shared.cached.map ReaderState.readerPath = ["/org/librescrs/Agent/reader/2"] ∧
      Coherent (trace (step plainLibrary) {} orderedCalls) state := by
  have completes : (run (step plainLibrary) {} orderedCalls).isSome = true := by decide +kernel
  refine ⟨_, (Option.some_get completes).symm, rfl,
    orderly_runs_coherent plainLibrary orderedCalls _ ?_ (Option.some_get completes).symm⟩
  iterate 2 refine admitted_cons _ _ _ _ _ _ trivial rfl ?_
  iterate 2 refine admitted_cons _ _ _ _ _ _ (orderly_of_step _ _ _ _ _ rfl rfl
    (by rintro ⟨⟩) (by rintro ⟨⟩ ⟨⟩) (by rintro ⟨⟩)) rfl ?_
  iterate 2 refine admitted_cons _ _ _ _ _ _ trivial rfl ?_
  iterate 9 refine admitted_cons _ _ _ _ _ _ (orderly_of_step _ _ _ _ _ rfl rfl
    (by rintro ⟨⟩) (by rintro ⟨⟩ ⟨⟩) (by rintro ⟨⟩ count ⟨⟩)) rfl ?_
  refine admitted_cons _ _ _ _ _ _ (orderly_of_step _ _ _ _ _ rfl rfl (by rintro ⟨⟩)
    (by rintro ⟨⟩) ?_) rfl ?_
  · rintro - count ⟨⟩
    decide
  iterate 2 refine admitted_cons _ _ _ _ _ _ (orderly_of_step _ _ _ _ _ rfl rfl
    (by rintro ⟨⟩) (by rintro ⟨⟩) (by rintro ⟨⟩)) rfl ?_
  trivial

/-- A signal is handled and one call consumes the mark; another call begins, finds
the mark clear and returns before the first has stored. -/
def overtakenCall : List CacheEvent :=
  [.forgetSettled, .invalidate, .enter 0, .advance 0 .exchange, .enter 1, .advance 1 .exchange,
    .advance 1 .serve]

/-- The overtaken call began after a handler had finished, and returns the list
that no enumeration produced. -/
theorem overtaken_call_incoherent :
    ∃ state, run (step plainLibrary) {} overtakenCall = some state ∧
      state.entryCount 1 = 1 ∧ state.calls 1 = some (.returned []) ∧
      state.returnedCount 1 = none ∧
      ¬ Coherent (trace (step plainLibrary) {} overtakenCall) state := by
  have completes : (run (step plainLibrary) {} overtakenCall).isSome = true := by decide +kernel
  refine ⟨_, (Option.some_get completes).symm, rfl, rfl, rfl, ?_⟩
  rintro ⟨returned, -⟩
  obtain ⟨count, origin, -⟩ := returned 1 [] rfl
  cases origin

end SlotCache

end LibreLinux.Pkcs11
