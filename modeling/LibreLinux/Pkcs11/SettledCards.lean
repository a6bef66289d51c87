import LibreLinux.Lib.Counters
import LibreLinux.Pkcs11.SlotCache
import Mathlib.Data.List.DropRight

/-!
# Cards that are not asked again

A card whose read ended in a way that asking again would repeat is recorded as
settled until the next object-manager signal. An enumeration remembers the
generation it started in and records a card only in that generation, so a read
that a signal has overtaken leaves nothing behind. A recorded card is not read
again before the next signal, whatever the reads of other cards do; and after a
signal the first enumeration that starts and reaches the card reads it.

A signal counts as handled when its handler has forgotten the settled cards; the
dirty mark it sets afterwards decides which call enumerates, not what an
enumeration reads.

The generation has 64 bits. As long as fewer than `2 ^ 64` signals were handled it
tells them apart; a read that was overtaken by `2 ^ 64` of them finds its generation
again, and then it is recorded.
-/

namespace LibreLinux.Pkcs11

open Runs

variable {κ ε : Type}

/-- Whether the step is the one by which a signal is handled. -/
def CacheEvent.forgets : CacheEvent → Bool
  | .forgetSettled => true
  | _ => false

/-- The steps since the last handled signal. -/
def sinceSignal (past : List (SlotCache ε × CacheEvent)) : List (SlotCache ε × CacheEvent) :=
  past.rtakeWhile (fun taken => !taken.2.forgets)

/-- The call's enumeration starts. -/
def Begins (taken : SlotCache ε × CacheEvent) (call : Nat) : Prop :=
  taken.2 = .advance call .begin

/-- The call's enumeration reaches a card: the next object is a reader that shows
it. -/
def Reaches (taken : SlotCache ε × CacheEvent) (call : Nat) (card : String) : Prop :=
  taken.2 = .advance call .visit ∧ ∃ walk object rest reader preAuth,
    taken.1.calls call = some (.walking walk) ∧ walk.todo = object :: rest ∧
    visitObject (ε := ε) walk.managed object = .occupied reader card preAuth

/-- The step starts a certificate read of the card. -/
def StartsRead (library : Library κ ε) (taken : SlotCache ε × CacheEvent) (call : Nat)
    (card : String) : Prop :=
  taken.2 = .advance call .visit ∧ ∃ next walk reader preAuth,
    SlotCache.step library taken.1 taken.2 = some next ∧
    next.calls call = some (.calling walk reader card preAuth)

/-- The step ends the call's read of the card in a settled way. -/
def EndsSettled (library : Library κ ε) (taken : SlotCache ε × CacheEvent) (call : Nat)
    (card : String) : Prop :=
  ∃ read phase walk reader preAuth, taken.2 = .advance call (.ended read) ∧
    taken.1.calls call = some phase ∧ Pending walk reader card preAuth phase ∧
    readCerts library read = .settled

/-- The signals handled so far. -/
def signals (past : List (SlotCache ε × CacheEvent)) : Nat :=
  past.countP (fun taken => taken.2.forgets)

/-- Among the steps, an enumeration started and then started a read of the card. -/
def ReadAmong (library : Library κ ε) (steps : List (SlotCache ε × CacheEvent)) (call : Nat)
    (card : String) : Prop :=
  ∃ first second, [first, second].Sublist steps ∧ Begins first call ∧
    StartsRead library second call card

/-- Among the steps, an enumeration started, started a read of the card, and the
read ended in a settled way. -/
def SettledAmong (library : Library κ ε) (steps : List (SlotCache ε × CacheEvent))
    (card : String) : Prop :=
  ∃ call first second third, [first, second, third].Sublist steps ∧ Begins first call ∧
    StartsRead library second call card ∧ EndsSettled library third call card

/-- Another step makes no settled read undone. -/
theorem settled_among_append (library : Library κ ε) (steps later : List (SlotCache ε × CacheEvent))
    (card : String) (settled : SettledAmong library steps card) :
    SettledAmong library (steps ++ later) card := by
  obtain ⟨call, first, second, third, ordered, steps⟩ := settled
  exact ⟨call, first, second, third, ordered.trans (List.sublist_append_left _ _), steps⟩

/-- Another step makes no started read undone. -/
theorem read_among_append (library : Library κ ε) (steps later : List (SlotCache ε × CacheEvent))
    (call : Nat) (card : String) (started : ReadAmong library steps call card) :
    ReadAmong library (steps ++ later) call card := by
  obtain ⟨first, second, ordered, steps⟩ := started
  exact ⟨first, second, ordered.trans (List.sublist_append_left _ _), steps⟩

/-- A step that handles no signal is one of those since the last signal. -/
theorem since_signal_kept (past : List (SlotCache ε × CacheEvent)) (taken : SlotCache ε × CacheEvent)
    (quiet : taken.2.forgets = false) : sinceSignal (past ++ [taken]) = sinceSignal past ++ [taken] :=
  List.rtakeWhile_concat_pos _ _ _ (by simp [quiet])

/-- Nor is it one more handled signal. -/
theorem signals_kept (past : List (SlotCache ε × CacheEvent)) (taken : SlotCache ε × CacheEvent)
    (quiet : taken.2.forgets = false) : signals (past ++ [taken]) = signals past := by
  simp [signals, List.countP_append, quiet]

/-- A step that handles a signal is one more. -/
theorem signals_forgotten (past : List (SlotCache ε × CacheEvent)) (state : SlotCache ε) :
    signals (past ++ [(state, .forgetSettled)]) = signals past + 1 := by
  simp [signals, List.countP_append, CacheEvent.forgets]

/-- A step that handles no signal leaves the generation, and records at most the
card that a call of this generation has settled. -/
theorem quiet_step_shared (library : Library κ ε) (state next : SlotCache ε) (event : CacheEvent)
    (quiet : event.forgets = false) (stepped : SlotCache.step library state event = some next) :
    next.shared.generation = state.shared.generation ∧
      state.shared.settledCards ⊆ next.shared.settledCards ∧
      ∀ card ∈ next.shared.settledCards, card ∈ state.shared.settledCards ∨
        ∃ call walk reader, state.calls call = some (.settling walk reader card) ∧
          walk.generation = state.shared.generation := by
  cases event with
  | enter call =>
    simp only [SlotCache.step] at stepped
    split_ifs at stepped
    cases stepped
    exact ⟨rfl, fun _ member => member, fun _ member => Or.inl member⟩
  | advance call input =>
    simp only [SlotCache.step, Option.bind_eq_some_iff, Option.map_eq_some_iff] at stepped
    obtain ⟨phase, current, ⟨shared, after⟩, advance, rfl⟩ := stepped
    have step := advanced library _ _ _ _ _ advance
    refine ⟨(advanced_generation library _ _ _ _ _ step).1, ?_⟩
    cases step with
    | settle walk reader card =>
      simp only [settleCard]
      split_ifs with same
      · refine ⟨Finset.subset_insert _ _, ?_⟩
        intro other member
        rcases Finset.mem_insert.mp member with rfl | earlier
        · exact Or.inr ⟨call, walk, reader, current, same⟩
        · exact Or.inl earlier
      · exact ⟨fun _ member => member, fun _ member => Or.inl member⟩
    | _ => exact ⟨fun _ member => member, fun _ member => Or.inl member⟩
  | forgetSettled => cases quiet
  | invalidate =>
    simp only [SlotCache.step] at stepped
    split_ifs at stepped
    cases stepped
    exact ⟨rfl, fun _ member => member, fun _ member => Or.inl member⟩

/-- The generation against the signals handled: it counts them, an enumeration carries the count
of an earlier moment, and one that carries the present count started since the last signal. -/
structure Counted (past : List (SlotCache ε × CacheEvent)) (state : SlotCache ε) : Prop where
  counter : state.shared.generation = UInt64.ofNat (signals past)
  begun : ∀ call phase generation, state.calls call = some phase →
    phase.generation? = some generation →
    ∃ count ≤ signals past, generation = UInt64.ofNat count ∧
      (count = signals past → ∃ first ∈ sinceSignal past, Begins first call)

/-- What the record of settled cards rests on while the generation tells the signals apart. A
pending read of the current generation was started since the last signal; so was the read that
settled a card about to be recorded; and so was the one behind every recorded card. -/
structure Recorded (library : Library κ ε) (past : List (SlotCache ε × CacheEvent))
    (state : SlotCache ε) : Prop where
  settled : ∀ card ∈ state.shared.settledCards, SettledAmong library (sinceSignal past) card
  reading : ∀ call phase walk reader card preAuth, state.calls call = some phase →
    Pending walk reader card preAuth phase → walk.generation = state.shared.generation →
    ReadAmong library (sinceSignal past) call card
  settling : ∀ call walk reader card, state.calls call = some (.settling walk reader card) →
    walk.generation = state.shared.generation → SettledAmong library (sinceSignal past) card

variable {past : List (SlotCache ε × CacheEvent)} {state : SlotCache ε}

/-- Below the limit an enumeration of the current generation started since the last signal. -/
theorem begun_since (counted : Counted past state) (below : signals past < 2 ^ 64) (call : Nat)
    (phase : Phase ε) (generation : UInt64) (current : state.calls call = some phase)
    (found : phase.generation? = some generation) (same : generation = state.shared.generation) :
    ∃ first ∈ sinceSignal past, Begins first call := by
  obtain ⟨count, earlier, carried, begins⟩ := counted.begun call phase generation current found
  rw [same, counted.counter] at carried
  exact begins (Counters.count_unique count (signals past) earlier below carried.symm)

/-- Every step keeps the count.

Cases are whether the step handles a signal: only that moves the counter, and only a begin reads it. -/
theorem counted_step (library : Library κ ε) (past : List (SlotCache ε × CacheEvent))
    (state : SlotCache ε) (event : CacheEvent) (next : SlotCache ε) (counted : Counted past state)
    (stepped : SlotCache.step library state event = some next) :
    Counted (past ++ [(state, event)]) next := by
  cases forgets : event.forgets with
  | true =>
    cases event <;> cases forgets
    simp only [SlotCache.step] at stepped
    split_ifs at stepped
    cases stepped
    have older : ∀ count ≤ signals past, count ≠ signals past + 1 := by
      intro count bound
      omega
    refine ⟨?_, ?_⟩
    · rw [signals_forgotten, Counters.count_succ, ← counted.counter]
      rfl
    · intro call phase generation current found
      obtain ⟨count, bound, carried, -⟩ := counted.begun call phase generation current found
      rw [signals_forgotten]
      exact ⟨count, Nat.le_succ_of_le bound, carried, fun same => absurd same (older count bound)⟩
  | false =>
    obtain ⟨generation, -⟩ := quiet_step_shared library state next event forgets stepped
    have since := since_signal_kept past (state, event) forgets
    have handled := signals_kept past (state, event) forgets
    refine ⟨by rw [generation, handled]; exact counted.counter, ?_⟩
    intro call phase started arrived found
    rw [since, handled]
    have kept : ∀ earlier, state.calls call = some earlier → earlier.generation? = some started →
        ∃ count ≤ signals past, started = UInt64.ofNat count ∧ (count = signals past →
          ∃ first ∈ sinceSignal past ++ [(state, event)], Begins first call) := by
      intro earlier current before
      obtain ⟨count, bound, carried, begun⟩ := counted.begun call earlier started current before
      refine ⟨count, bound, carried, fun same => ?_⟩
      obtain ⟨first, member, begins⟩ := begun same
      exact ⟨first, List.mem_append_left _ member, begins⟩
    rcases call_moved library state next event call phase stepped arrived with ⟨unmoved, -⟩ |
      ⟨-, rfl⟩ | ⟨input, earlier, rfl, current, advance⟩
    · exact kept phase unmoved found
    · cases found
    · rcases (advanced_generation library _ _ _ _ _ advance).2 started found with
        before | ⟨rfl, rfl⟩
      · exact kept earlier current before
      · exact ⟨signals past, Nat.le_refl _, counted.counter,
          fun _ => ⟨(state, .advance call .begin), by simp, rfl⟩⟩

/-- A handled signal leaves nothing recorded, and no enumeration of the new
generation. -/
theorem recorded_forget (library : Library κ ε) (past : List (SlotCache ε × CacheEvent))
    (state next : SlotCache ε) (counted : Counted past state)
    (below : signals past + 1 < 2 ^ 64)
    (stepped : SlotCache.step library state .forgetSettled = some next) :
    Recorded library (past ++ [(state, .forgetSettled)]) next := by
  simp only [SlotCache.step] at stepped
  split_ifs at stepped
  cases stepped
  have older : ∀ call phase generation, state.calls call = some phase →
      phase.generation? = some generation → generation ≠ state.shared.generation + 1 := by
    intro call phase generation current found same
    obtain ⟨count, earlier, carried, -⟩ := counted.begun call phase generation current found
    rw [same, counted.counter, ← Counters.count_succ] at carried
    have equal := Counters.count_unique count (signals past + 1) (Nat.le_succ_of_le earlier) below
      carried.symm
    omega
  refine ⟨by simp [forgetSettled], ?_, ?_⟩
  · intro call phase walk reader card preAuth current pending same
    cases pending <;> exact absurd same (older call _ walk.generation current rfl)
  · intro call walk reader card current same
    exact absurd same (older call _ walk.generation current rfl)

/-- A step of a call keeps what its phase rests on. -/
theorem recorded_advanced (library : Library κ ε) (past : List (SlotCache ε × CacheEvent))
    (state next : SlotCache ε) (call : Nat) (input : Input) (phase after : Phase ε)
    (counted : Counted past state) (below : signals past < 2 ^ 64)
    (recorded : Recorded library past state) (current : state.calls call = some phase)
    (arrived : next.calls call = some after)
    (stepped : SlotCache.step library state (.advance call input) = some next)
    (advance : Advanced library state.shared phase input next.shared after) :
    (∀ walk reader card preAuth, Pending walk reader card preAuth after →
      walk.generation = state.shared.generation →
      ReadAmong library (sinceSignal past ++ [(state, .advance call input)]) call card) ∧
    (∀ walk reader card, after = .settling walk reader card →
      walk.generation = state.shared.generation →
      SettledAmong library (sinceSignal past ++ [(state, .advance call input)]) card) := by
  generalize shared : next.shared = result at advance
  cases advance with
  | visit walk after visit =>
    cases visit with
    | asked object rest reader card preAuth todo found fresh =>
      refine ⟨?_, by rintro other kept named ⟨⟩⟩
      rintro other kept named method ⟨⟩ same
      obtain ⟨first, member, begins⟩ :=
        begun_since counted below call _ walk.generation current rfl same
      exact ⟨first, (state, .advance call .visit),
        (List.singleton_sublist.mpr member).append_right _, begins, rfl, next, _, _, _, stepped,
        arrived⟩
    | known object rest reader card preAuth todo found settled =>
      refine ⟨by rintro other kept named method ⟨⟩, ?_⟩
      rintro other kept named ⟨⟩ -
      exact settled_among_append library _ _ card (recorded.settled card settled)
    | _ => exact ⟨by rintro other kept named method ⟨⟩, by rintro other kept named ⟨⟩⟩
  | accept walk reader card preAuth =>
    refine ⟨?_, by rintro other kept named ⟨⟩⟩
    rintro other kept named method ⟨⟩ same
    exact read_among_append library _ _ call card
      (recorded.reading call _ walk reader card preAuth current .calling same)
  | ended walk reader card preAuth read phase pending =>
    cases outcome : readCerts library read with
    | askAgain => exact ⟨by rintro other kept named method ⟨⟩, by rintro other kept named ⟨⟩⟩
    | settled =>
      refine ⟨by rintro other kept named method ⟨⟩, ?_⟩
      rintro other kept named ⟨⟩ same
      obtain ⟨first, second, ordered, begins, starts⟩ :=
        recorded.reading call phase walk reader card preAuth current pending same
      exact ⟨call, first, second, (state, .advance call (.ended read)), ordered.append_right _,
        begins, starts, read, phase, walk, reader, preAuth, rfl, current, pending, outcome⟩
    | read certificates =>
      simp only [afterRead]
      split
      · exact ⟨by rintro other kept named method ⟨⟩, by rintro other kept named ⟨⟩⟩
      · exact ⟨by rintro other kept named method ⟨⟩, by rintro other kept named ⟨⟩⟩
  | exchange => split_ifs <;>
      exact ⟨by rintro other kept named method ⟨⟩, by rintro other kept named ⟨⟩⟩
  | _ => exact ⟨by rintro other kept named method ⟨⟩, by rintro other kept named ⟨⟩⟩

/-- Every step below the limit keeps what the record rests on.

Cases are whether the step handles a signal, which empties the record, or not, where the record
grows by the card whose read the step settles. -/
theorem recorded_step (library : Library κ ε) (past : List (SlotCache ε × CacheEvent))
    (state : SlotCache ε) (event : CacheEvent) (next : SlotCache ε) (counted : Counted past state)
    (recorded : Recorded library past state)
    (below : signals (past ++ [(state, event)]) < 2 ^ 64)
    (stepped : SlotCache.step library state event = some next) :
    Recorded library (past ++ [(state, event)]) next := by
  cases forgets : event.forgets with
  | true =>
    cases event <;> cases forgets
    rw [signals_forgotten] at below
    exact recorded_forget library past state next counted below stepped
  | false =>
    obtain ⟨generation, -, origins⟩ := quiet_step_shared library state next event forgets stepped
    have since := since_signal_kept past (state, event) forgets
    rw [signals_kept past (state, event) forgets] at below
    constructor
    · intro card member
      rw [since]
      rcases origins card member with earlier | ⟨call, walk, reader, current, same⟩
      · exact settled_among_append library _ _ card (recorded.settled card earlier)
      · exact settled_among_append library _ _ card
          (recorded.settling call walk reader card current same)
    · intro call phase walk reader card preAuth arrived pending same
      rw [generation] at same
      rw [since]
      rcases call_moved library state next event call phase stepped arrived with ⟨unmoved, -⟩ |
        ⟨-, rfl⟩ | ⟨input, earlier, rfl, current, advance⟩
      · exact read_among_append library _ _ call card
          (recorded.reading call phase walk reader card preAuth unmoved pending same)
      · cases pending
      · exact (recorded_advanced library past state next call input earlier phase counted below
          recorded current arrived stepped advance).1 walk reader card preAuth pending same
    · intro call walk reader card arrived same
      rw [generation] at same
      rw [since]
      rcases call_moved library state next event call _ stepped arrived with ⟨unmoved, -⟩ |
        ⟨-, impossible⟩ | ⟨input, earlier, rfl, current, advance⟩
      · exact settled_among_append library _ _ card
          (recorded.settling call walk reader card unmoved same)
      · cases impossible
      · exact (recorded_advanced library past state next call input earlier _ counted below recorded
          current arrived stepped advance).2 walk reader card rfl same

/-- Every reached state is counted, and below the limit the record rests on reads since the last
signal. -/
theorem reached_recorded (library : Library κ ε) (events : List CacheEvent) (state : SlotCache ε)
    (reached : run (SlotCache.step library) {} events = some state) :
    let past := trace (SlotCache.step library) {} events
    Counted past state ∧ (signals past < 2 ^ 64 → Recorded library past state) := by
  refine trace_invariant (SlotCache.step library)
    (fun past state => Counted past state ∧ (signals past < 2 ^ 64 → Recorded library past state))
    ?_ events {} state ⟨⟨rfl, by simp⟩, fun _ => ⟨by simp, by simp, by simp⟩⟩ reached
  rintro past before event next ⟨counted, recorded⟩ stepped
  refine ⟨counted_step library past before event next counted stepped, fun below => ?_⟩
  have earlier : signals past < 2 ^ 64 := by
    refine Nat.lt_of_le_of_lt ?_ below
    simp [signals, List.countP_append]
  exact recorded_step library past before event next counted (recorded earlier) below stepped

/-- A read starts where a card is reached that is not recorded, and nowhere else. -/
theorem starts_read_iff (library : Library κ ε) (state : SlotCache ε) (event : CacheEvent)
    (call : Nat) (card : String) :
    StartsRead library (state, event) call card ↔
      Reaches (state, event) call card ∧ card ∉ state.shared.settledCards := by
  constructor
  · rintro ⟨visit, next, walk, reader, preAuth, stepped, arrived⟩
    have visit : event = .advance call .visit := visit
    subst visit
    rcases call_moved library state next _ call _ stepped arrived with ⟨-, other⟩ | ⟨impossible, -⟩ |
      ⟨input, phase, same, current, advance⟩
    · exact absurd rfl (other .visit)
    · cases impossible
    · cases same
      generalize shared : next.shared = result at advance
      cases advance with
      | visit before after visit =>
        cases visit with
        | asked object rest reader card preAuth todo found fresh =>
          exact ⟨⟨rfl, before, object, rest, reader, preAuth, current, todo, found⟩, fresh⟩
  · rintro ⟨⟨visit, walk, object, rest, reader, preAuth, current, todo, found⟩, fresh⟩
    have visit : event = .advance call .visit := visit
    subst visit
    have current : state.calls call = some (.walking walk) := current
    have asked : visitNext state.shared walk =
        .calling { walk with todo := rest } reader card preAuth := by
      simp only [visitNext, todo, found, if_neg fresh]
    have stepped : SlotCache.step library state (.advance call .visit) =
        some { state with
          calls := Function.update state.calls call
            (some (.calling { walk with todo := rest } reader card preAuth)) } := by
      simp only [SlotCache.step, current, advance, Option.bind_some, Option.map_some, asked,
        SlotCache.record]
    exact ⟨rfl, _, { walk with todo := rest }, reader, preAuth, stepped, Function.update_self ..⟩

/-- A recorded card stays recorded while no signal is handled. -/
theorem settled_kept (library : Library κ ε) (events : List CacheEvent) (state later : SlotCache ε)
    (card : String) (quiet : ∀ event ∈ events, event.forgets = false)
    (recorded : card ∈ state.shared.settledCards)
    (reached : run (SlotCache.step library) state events = some later) :
    card ∈ later.shared.settledCards := by
  induction events generalizing state with
  | nil => exact Option.some.inj reached ▸ recorded
  | cons event rest inductionHypothesis =>
    obtain ⟨next, stepped, tail⟩ := run_cons_inv (SlotCache.step library) state later event rest reached
    obtain ⟨-, kept, -⟩ := quiet_step_shared library state next event
      (quiet event List.mem_cons_self) stepped
    exact inductionHypothesis next (fun other member => quiet other (List.mem_cons_of_mem _ member))
      (kept recorded) tail

/-- Settled cards, over every run of any number of calls and signal handlers. While no
further signal is handled, no step starts a read of a recorded card. As long as fewer than
`2 ^ 64` signals were handled, a recorded card rests on a read that an enumeration started
since the last signal has started since and that ended in a settled way; and a card that no
enumeration started since the last signal has reached yet is read by the call that reaches
it.

Proof: a card is recorded in the generation its enumeration carries. Below the limit equal
generations have no signal between them, so the enumeration started since the last one, and
what a recorded card rests on is among the steps since. A card that is reached is read unless
it is recorded. -/
theorem settled_cards (library : Library κ ε) (events : List CacheEvent) (state : SlotCache ε)
    (reached : run (SlotCache.step library) {} events = some state) :
    (∀ card ∈ state.shared.settledCards, ∀ further later,
      (∀ event ∈ further, CacheEvent.forgets event = false) →
      run (SlotCache.step library) state further = some later →
      ∀ event call, ¬ StartsRead library (later, event) call card) ∧
    (signals (trace (SlotCache.step library) {} events) < 2 ^ 64 →
      (∀ card ∈ state.shared.settledCards,
        SettledAmong library (sinceSignal (trace (SlotCache.step library) {} events)) card) ∧
      ∀ event call card,
        (∀ other first second,
          [first, second].Sublist (sinceSignal (trace (SlotCache.step library) {} events)) →
          Begins first other → ¬ Reaches second other card) →
        Reaches (state, event) call card → StartsRead library (state, event) call card) := by
  have recorded := (reached_recorded library events state reached).2
  refine ⟨?_, fun below => ⟨(recorded below).settled, ?_⟩⟩
  · intro card member further later quiet continued event call starts
    have kept := settled_kept library further state later card quiet member continued
    exact ((starts_read_iff library later event call card).mp starts).2 kept
  · intro event call card unreached reaches
    refine (starts_read_iff library state event call card).mpr ⟨reaches, ?_⟩
    intro settled
    obtain ⟨other, first, second, third, ordered, begins, starts, -⟩ :=
      (recorded below).settled card settled
    have earlier : [first, second].Sublist [first, second, third] := by simp
    exact unreached other first second (earlier.trans ordered) begins
      ((starts_read_iff library second.1 second.2 other card).mp starts).1

/-- A reply with one reader and the card it shows. -/
def occupiedReader : Wire.ManagedObjects :=
  [("/org/librescrs/Agent/reader/1", Finmap.singleton Wire.kReaderIface
    ((Finmap.singleton "HasCard" (.boolean true)).insert "Card"
      (.objectPath "/org/librescrs/Agent/card/2")))]

/-- A signal is handled, and the next call's read of the card is refused for good. -/
def refusedCard : List CacheEvent :=
  [.forgetSettled, .invalidate, .enter 0, .advance 0 .exchange, .advance 0 .begin,
    .advance 0 (.answer (some occupiedReader)), .advance 0 .visit,
    .advance 0 (.ended (.error kErrUnsupportedOnThisCard)), .advance 0 .settle]

/-- The refused card is recorded, and no step starts another read of it. -/
theorem refused_card_settled :
    ∃ state, run (SlotCache.step plainLibrary) {} refusedCard = some state ∧
      "/org/librescrs/Agent/card/2" ∈ state.shared.settledCards ∧
      (∀ event call, ¬ StartsRead plainLibrary (state, event) call "/org/librescrs/Agent/card/2") ∧
      SettledAmong plainLibrary
        (sinceSignal (trace (SlotCache.step plainLibrary) {} refusedCard))
        "/org/librescrs/Agent/card/2" := by
  have completes : (run (SlotCache.step plainLibrary) {} refusedCard).isSome = true := by
    decide +kernel
  have recorded : "/org/librescrs/Agent/card/2" ∈
      ((run (SlotCache.step plainLibrary) {} refusedCard).get completes).shared.settledCards :=
    Finset.mem_insert_self _ _
  obtain ⟨unread, below⟩ := settled_cards plainLibrary refusedCard _ (Option.some_get completes).symm
  have few : signals (trace (SlotCache.step plainLibrary) {} refusedCard) < 2 ^ 64 := by
    decide +kernel
  exact ⟨_, (Option.some_get completes).symm, recorded, unread _ recorded [] _ (by simp) rfl,
    (below few).1 _ recorded⟩

/-! ## Past the counter's limit -/

/-- The steps since the last signal come behind every signal. -/
theorem since_signal_after (past later : List (SlotCache ε × CacheEvent))
    (taken : SlotCache ε × CacheEvent) (forgets : taken.2.forgets = true) :
    ∀ seen ∈ sinceSignal (past ++ taken :: later), seen ∈ later := by
  induction later using List.reverseRecOn with
  | nil =>
    intro seen member
    rw [sinceSignal, List.rtakeWhile_concat_neg _ _ _ (by simp [forgets])] at member
    exact member
  | append_singleton later last inductionHypothesis =>
    intro seen member
    rw [← List.cons_append, ← List.append_assoc] at member
    cases quiet : last.2.forgets with
    | true =>
      rw [sinceSignal, List.rtakeWhile_concat_neg _ _ _ (by simp [quiet])] at member
      cases member
    | false =>
      rw [since_signal_kept _ last quiet] at member
      rcases List.mem_append.mp member with earlier | latest
      · exact List.mem_append_left _ (inductionHypothesis seen earlier)
      · exact List.mem_append_right _ latest

/-- One signal after the other. -/
def signalled : Nat → List CacheEvent
  | 0 => []
  | count + 1 => signalled count ++ [.forgetSettled, .invalidate]

/-- The generation moves on by the signals, and no call moves. -/
theorem signalled_counted (library : Library κ ε) (state : SlotCache ε)
    (free : state.forgotten = false) (count : Nat) :
    ∃ next, run (SlotCache.step library) state (signalled count) = some next ∧
      next.calls = state.calls ∧ next.forgotten = false ∧
      next.shared.generation = state.shared.generation + UInt64.ofNat count := by
  induction count with
  | zero => exact ⟨state, rfl, rfl, free, by simp⟩
  | succ count inductionHypothesis =>
    obtain ⟨middle, reached, calls, free, generation⟩ := inductionHypothesis
    refine ⟨{ middle with
        shared := invalidate (forgetSettled middle.shared)
        forgotten := false
        handled := middle.handled + 1 }, ?_, calls, rfl, ?_⟩
    · simp [signalled, run_append, reached, run, SlotCache.step, free]
    · rw [Counters.count_succ, ← UInt64.add_assoc, ← generation]
      rfl

/-- A call asks for the certificates of a card. -/
def askedCard : List CacheEvent :=
  [.enter 0, .advance 0 .exchange, .advance 0 .begin, .advance 0 (.answer (some occupiedReader)),
    .advance 0 .visit]

/-- One more signal, and the read of the card is refused for good. -/
def refusedLate : List CacheEvent :=
  [.forgetSettled, .invalidate, .advance 0 (.ended (.error kErrUnsupportedOnThisCard)),
    .advance 0 .settle]

/-- The read of the card is refused for good behind that many signals and one more. -/
def overtakenRead (count : Nat) : List CacheEvent :=
  askedCard ++ signalled count ++ refusedLate

/-- The asked card's read carries the generation of the start. -/
theorem asked_card_generation :
    ∃ state walk reader preAuth, run (SlotCache.step plainLibrary) {} askedCard = some state ∧
      state.forgotten = false ∧ state.shared.generation = 0 ∧
      state.calls 0 = some (.calling walk reader "/org/librescrs/Agent/card/2" preAuth) ∧
      walk.generation = 0 := by
  have completes : (run (SlotCache.step plainLibrary) {} askedCard).isSome = true := by
    decide +kernel
  exact ⟨_, _, _, _, (Option.some_get completes).symm, rfl, rfl, rfl, rfl⟩

/-- A refusal that comes when the generation has come round to the read's own is recorded. -/
theorem refused_late_recorded (library : Library κ ε) (state : SlotCache ε) (walk : Walk ε)
    (reader : ReaderState ε) (card : String) (preAuth : PreReadAuth) (free : state.forgotten = false)
    (current : state.calls 0 = some (.calling walk reader card preAuth))
    (around : walk.generation = state.shared.generation + 1) :
    ∃ next, run (SlotCache.step library) state refusedLate = some next ∧
      card ∈ next.shared.settledCards := by
  have settles : readCerts library (.error kErrUnsupportedOnThisCard) = .settled := by
    simp [readCerts, refusalSettles]
  simp [refusedLate, run, SlotCache.step, free, current, advance, SlotCache.record, settles,
    afterRead, settleCard, forgetSettled, invalidate, around]

/-- When the generation has come round to the read's own, the card is recorded, though no
enumeration started since the last signal.

Proof: the read carries the generation of the start, and behind the last signal there are only the
steps that end it and record the card. -/
theorem overtaken_read_recorded (count : Nat) (around : UInt64.ofNat (count + 1) = 0) :
    ∃ state, run (SlotCache.step plainLibrary) {} (overtakenRead count) = some state ∧
      "/org/librescrs/Agent/card/2" ∈ state.shared.settledCards ∧
      ¬ SettledAmong plainLibrary
        (sinceSignal (trace (SlotCache.step plainLibrary) {} (overtakenRead count)))
        "/org/librescrs/Agent/card/2" := by
  obtain ⟨asked, walk, reader, preAuth, started, free, initial, calling, carried⟩ :=
    asked_card_generation
  obtain ⟨overtaken, moved, calls, unforgotten, generation⟩ :=
    signalled_counted plainLibrary asked free count
  have reached : run (SlotCache.step plainLibrary) {} (askedCard ++ signalled count) =
      some overtaken := by
    rw [run_append, started]
    exact moved
  have same : walk.generation = overtaken.shared.generation + 1 := by
    rw [carried, generation, initial, UInt64.zero_add, ← Counters.count_succ, around]
  obtain ⟨state, refused, recorded⟩ := refused_late_recorded plainLibrary overtaken walk reader
    "/org/librescrs/Agent/card/2" preAuth unforgotten (by rw [calls, calling]) same
  refine ⟨state, ?_, recorded, ?_⟩
  · rw [overtakenRead, run_append, reached]
    exact refused
  rintro ⟨call, first, second, third, ordered, begins, -⟩
  have since : first ∈ sinceSignal
      (trace (SlotCache.step plainLibrary) {} (overtakenRead count)) :=
    ordered.subset List.mem_cons_self
  rw [overtakenRead, trace_append _ _ overtaken _ _ reached] at since
  have events := trace_events _ _ _ _ refused
  generalize trace (SlotCache.step plainLibrary) overtaken refusedLate = late at events since
  cases late with
  | nil => cases events
  | cons signal late =>
    obtain ⟨signals, later⟩ := List.cons.inj events
    have forgets : signal.2.forgets = true := by rw [signals]; rfl
    have latest := since_signal_after _ late signal forgets first since
    have happened := List.mem_map_of_mem (f := Prod.snd) latest
    rw [later, show first.2 = .advance call .begin from begins] at happened
    simp at happened

/-- The generation of a read that is overtaken by `2 ^ 64` signals has come round. -/
theorem overtaken_read_settles :
    ∃ state, run (SlotCache.step plainLibrary) {} (overtakenRead (2 ^ 64 - 1)) = some state ∧
      "/org/librescrs/Agent/card/2" ∈ state.shared.settledCards ∧
      ¬ SettledAmong plainLibrary
        (sinceSignal (trace (SlotCache.step plainLibrary) {} (overtakenRead (2 ^ 64 - 1))))
        "/org/librescrs/Agent/card/2" :=
  overtaken_read_recorded (2 ^ 64 - 1) rfl

end LibreLinux.Pkcs11
