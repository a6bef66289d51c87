import LibreLinux.Agent.BusExporter
import LibreLinux.Lib.Runs

/-!
# Holding a reader while its card is removed

The last steps of a card's resolution run on the loop thread: the card object is
put into its map, the hold verdict is taken over the exporter's roster, and the
reader is held. None of these steps excludes the monitor thread, which removes a
card by updating the presence, withdrawing the card and releasing the reader, in
any order of the three. `Frontend` takes the verdict and the hold as one step; here
they are apart, because a whole removal can fall between them.

The monitor works on one card at a time: a removal is over before the next card is
inserted, and a card is inserted into an empty reader under a new id. Readers stay.
The verdict is the agent library's. The record of which card sits in a reader is
the monitor's own.
-/

namespace LibreLinux.Agent

open Runs

/-- A removal in progress, with the parts of it that are done. -/
structure Removal where
  reader : UInt64
  card : UInt64
  updated : Bool := false
  withdrawn : Bool := false
  released : Bool := false

/-- Where the loop thread stands in `applyCardResolution`. -/
inductive HoldStage (π : Type) where
  | idle
  | published (cardPath readerPath : String) (probe : π)
  | decided (cardPath readerPath : String)

/-- Whether no call of `applyCardResolution` is under way. -/
def HoldStage.isIdle {π : Type} : HoldStage π → Bool
  | .idle => true
  | _ => false

/-- The exporter, the frontend's card maps, the cards in the readers and the ids used
so far, the removal in progress, the loop thread, and the readers that are held. -/
structure HoldState (π : Type) where
  bus : Bus := {}
  pendingCards : Finmap (fun _ : String => String) := ∅
  cards : Finmap (fun _ : String => String) := ∅
  seated : UInt64 → Option UInt64 := fun _ => none
  used : List UInt64 := []
  removing : Option Removal := none
  loop : HoldStage π := .idle
  held : UInt64 → Bool := fun _ => false

/-- A step of the monitor or of the loop. -/
inductive HoldEvent (π ι : Type) where
  | publishReader (reader : ReaderState ι)
  | insert (reader card : UInt64)
  | showCard (reader : UInt64)
  | remove (reader : UInt64)
  | updatePresence
  | withdrawObject
  | onKeyRemoved
  | removed
  | publish (cardPath : String) (probe : π)
  | verdict
  | hold

namespace HoldState

variable {π ι : Type} (library : Identity) (readerInterfaceToken : ι → String)
  (holdsReader : π → PresenceRoster → String → Bool)

/-- A part of the removal in progress. -/
def removal (state : HoldState π) (removing : Removal) :
    HoldEvent π ι → Option (HoldState π)
  | .updatePresence =>
    if removing.updated then none
    else some { state with
      bus := state.bus.updateProperties library removing.reader { hasCard := false, card := library.unset }
      removing := some { removing with updated := true } }
  | .withdrawObject =>
    if removing.withdrawn then none
    else some { state with
      bus := state.bus.withdraw removing.card
      pendingCards := state.pendingCards.erase (agentObjectPath "card" removing.card)
      cards := state.cards.erase (agentObjectPath "card" removing.card)
      removing := some { removing with withdrawn := true } }
  | .onKeyRemoved =>
    if removing.released then none
    else some { state with
      held := Function.update state.held removing.reader false
      removing := some { removing with released := true } }
  | .removed =>
    if removing.updated && removing.withdrawn && removing.released then
      some { state with removing := none }
    else none
  | _ => none

/-- A step of the monitor outside a removal. -/
def presence (state : HoldState π) : HoldEvent π ι → Option (HoldState π)
  | .publishReader reader =>
    if reader.id ∈ state.used then none
    else some { state with
      bus := state.bus.publishReader library readerInterfaceToken reader
      used := reader.id :: state.used }
  | .insert reader card =>
    if card ∈ state.used ∨ (state.seated reader).isSome then none
    else some { state with
      pendingCards := state.pendingCards.insert (agentObjectPath "card" card)
        (agentObjectPath "reader" reader)
      seated := Function.update state.seated reader (some card)
      used := card :: state.used }
  | .showCard reader =>
    (state.seated reader).map (fun card => { state with
      bus := state.bus.updateProperties library reader { hasCard := true, card } })
  | .remove reader =>
    (state.seated reader).map (fun card => { state with
      seated := Function.update state.seated reader none
      removing := some { reader, card } })
  | _ => none

/-- The last steps of `applyCardResolution`. A card that was withdrawn meanwhile is
dropped. -/
def applyCardResolution (state : HoldState π) : HoldStage π → HoldEvent π ι → Option (HoldState π)
  | .idle, .publish cardPath probe =>
    match state.pendingCards.lookup cardPath with
    | none => some state
    | some readerPath => some { state with
        pendingCards := state.pendingCards.erase cardPath
        cards := state.cards.insert cardPath readerPath
        loop := .published cardPath readerPath probe }
  | .published cardPath readerPath probe, .verdict =>
    some { state with
      loop := if holdsReader probe state.bus.presenceRoster cardPath
        then .decided cardPath readerPath else .idle }
  | .decided _ readerPath, .hold =>
    some { state with
      held := Function.update state.held (objectIdFromPath library readerPath) true
      loop := .idle }
  | _, _ => none

/-- One step. -/
def step (state : HoldState π) (event : HoldEvent π ι) : Option (HoldState π) :=
  match event with
  | .publishReader _ | .insert _ _ | .showCard _ | .remove _ =>
    if state.removing.isSome then none else state.presence library readerInterfaceToken event
  | .updatePresence | .withdrawObject | .onKeyRemoved | .removed =>
    state.removing.bind (fun removing => state.removal library removing event)
  | .publish _ _ | .verdict | .hold =>
    state.applyCardResolution library holdsReader state.loop event

/-- Whether a reader has a card whose removal has not released the reader. -/
def occupied (state : HoldState π) (reader : UInt64) : Prop :=
  (state.seated reader).isSome = true ∨
    ∃ removing, state.removing = some removing ∧ removing.reader = reader ∧
      removing.released = false

/-- The reader the loop thread is about to hold. -/
def holding (state : HoldState π) : Option UInt64 :=
  match state.loop with
  | .decided _ readerPath => some (objectIdFromPath library readerPath)
  | _ => none

/-- The reader is held before the removal of its card releases it. -/
def InTime (state : HoldState π) (event : HoldEvent π ι) : Prop :=
  event = .hold → ∀ reader, state.holding library = some reader → state.occupied reader

/-- Only readers with such a card are held. -/
def Released (state : HoldState π) : Prop :=
  ∀ reader, state.held reader = true → state.occupied reader

variable {library} {readerInterfaceToken} {holdsReader} {state next : HoldState π}

/-- An inserted card occupies its reader. A removal that begins has not released it. -/
theorem released_presence (event : HoldEvent π ι) (released : state.Released)
    (idle : state.removing = none)
    (stepped : state.presence library readerInterfaceToken event = some next) : next.Released := by
  have seated : ∀ reader, state.held reader = true → (state.seated reader).isSome = true := by
    intro reader on
    rcases released reader on with seated | ⟨removing, begun, -⟩
    · exact seated
    · rw [idle] at begun
      cases begun
  cases event with
  | publishReader reader =>
    simp only [presence] at stepped
    split_ifs at stepped
    cases stepped
    exact released
  | insert reader card =>
    simp only [presence] at stepped
    split_ifs at stepped
    cases stepped
    intro other on
    left
    by_cases same : other = reader
    · simp [same]
    · simpa [same] using seated other on
  | showCard reader =>
    obtain ⟨card, -, rfl⟩ := Option.map_eq_some_iff.mp stepped
    exact released
  | remove reader =>
    obtain ⟨card, -, rfl⟩ := Option.map_eq_some_iff.mp stepped
    intro other on
    by_cases same : other = reader
    · exact Or.inr ⟨⟨reader, card, false, false, false⟩, rfl, same.symm, rfl⟩
    · left
      simpa [same] using seated other on
  | _ => cases stepped

/-- A removal that goes on keeps the reader it has yet to release. -/
theorem released_goes_on (released : state.Released) (before after : Removal)
    (begun : state.removing = some before) (removing : next.removing = some after)
    (held : next.held = state.held) (seated : next.seated = state.seated)
    (reader : after.reader = before.reader) (pending : after.released = before.released) :
    next.Released := by
  intro other on
  rw [held] at on
  unfold occupied
  rw [seated, removing]
  rcases released other on with sits | ⟨current, same, mine, unreleased⟩
  · exact Or.inl sits
  · cases begun.symm.trans same
    exact Or.inr ⟨after, rfl, reader.trans mine, pending.trans unreleased⟩

/-- A removal releases its reader before it is over. -/
theorem released_removal (event : HoldEvent π ι) (removing : Removal) (released : state.Released)
    (begun : state.removing = some removing)
    (stepped : state.removal library removing event = some next) : next.Released := by
  cases event with
  | updatePresence =>
    simp only [removal] at stepped
    split_ifs at stepped
    cases stepped
    exact released_goes_on released removing _ begun rfl rfl rfl rfl rfl
  | withdrawObject =>
    simp only [removal] at stepped
    split_ifs at stepped
    cases stepped
    exact released_goes_on released removing _ begun rfl rfl rfl rfl rfl
  | onKeyRemoved =>
    simp only [removal] at stepped
    split_ifs at stepped
    cases stepped
    intro reader on
    by_cases mine : reader = removing.reader
    · simp [mine] at on
    · simp only [ne_eq, mine, not_false_eq_true, Function.update_of_ne] at on
      rcases released reader on with seated | ⟨current, same, its, -⟩
      · exact Or.inl seated
      · cases begun.symm.trans same
        exact absurd its.symm mine
  | removed =>
    simp only [removal] at stepped
    split_ifs at stepped with done
    cases stepped
    rw [Bool.and_eq_true] at done
    intro reader on
    rcases released reader on with seated | ⟨current, same, -, pending⟩
    · exact Or.inl seated
    · cases begun.symm.trans same
      rw [pending] at done
      cases done.2
  | _ => cases stepped

/-- A reader that is held in time has a card that will release it. -/
theorem released_apply_card_resolution (event : HoldEvent π ι) (released : state.Released)
    (inTime : state.InTime library event)
    (stepped : state.applyCardResolution library holdsReader state.loop event = some next) :
    next.Released := by
  unfold applyCardResolution at stepped
  split at stepped
  · split at stepped
    · cases stepped
      exact released
    · cases stepped
      exact released
  · cases stepped
    exact released
  · next cardPath readerPath decided =>
    cases stepped
    intro reader on
    by_cases mine : reader = objectIdFromPath library readerPath
    · rw [mine]
      exact inTime rfl _ (by rw [holding, decided])
    · simp only [ne_eq, mine, not_false_eq_true, Function.update_of_ne] at on
      exact released reader on
  · cases stepped

/-- Every step keeps the held readers to those that will be released, when a hold
comes in time. -/
theorem released_step (state : HoldState π) (event : HoldEvent π ι) (next : HoldState π)
    (released : state.Released) (inTime : state.InTime library event)
    (stepped : state.step library readerInterfaceToken holdsReader event = some next) :
    next.Released := by
  have outside : (if state.removing.isSome then none
      else state.presence library readerInterfaceToken event) = some next → next.Released := by
    intro performed
    split_ifs at performed with busy
    exact released_presence event released (by simpa using busy) performed
  have inside : state.removing.bind (fun removing => state.removal library removing event) =
      some next → next.Released := by
    intro performed
    obtain ⟨removing, begun, performed⟩ := Option.bind_eq_some_iff.mp performed
    exact released_removal event removing released begun performed
  have resolved : state.applyCardResolution library holdsReader state.loop event = some next →
      next.Released := released_apply_card_resolution event released inTime
  cases event
  case publishReader | insert | showCard | remove => exact outside stepped
  case updatePresence | withdrawObject | onKeyRemoved | removed => exact inside stepped
  case publish | verdict | hold => exact resolved stepped

/-- No reader is left held, in every interleaving of the resolution's last steps with
the removals, when each hold comes while the reader has a card whose removal has not
released it: once no removal is in progress, a reader without a card is not held.

Proof: in a timely run a held reader has a card, or the removal that releases it is in progress. -/
theorem timely_holds_released (library : Identity) (readerInterfaceToken : ι → String)
    (holdsReader : π → PresenceRoster → String → Bool) (events : List (HoldEvent π ι))
    (state : HoldState π)
    (timely : Admitted (step library readerInterfaceToken holdsReader) (InTime library) {} events)
    (reached : run (step library readerInterfaceToken holdsReader) {} events = some state)
    (removed : state.removing = none) (reader : UInt64) (empty : state.seated reader = none) :
    state.held reader = false := by
  have released : state.Released := by
    apply admitted_invariant (step library readerInterfaceToken holdsReader) (InTime library)
      Released released_step events {} state _ timely reached
    intro reader on
    cases on
  cases on : state.held reader with
  | false => rfl
  | true =>
    rcases released reader on with seated | ⟨removing, begun, -⟩
    · rw [empty] at seated
      cases seated
    · rw [removed] at begun
      cases begun

/-- A verdict that holds the reader of every card it finds on the roster. -/
def holdsOnRoster (_ : Unit) (roster : PresenceRoster) (cardPath : String) : Bool :=
  cardPath ∈ roster.cardKeys

/-- A card is inserted, published and found on the roster. -/
def decidedHold : List (HoldEvent Unit Unit) :=
  [.publishReader { id := 1, name := "R0", hasCard := false, card := 0, model := "", iface := () },
    .insert 1 2, .showCard 1, .publish (agentObjectPath "card" 2) (), .verdict]

/-- The loop thread has decided to hold the reader. -/
theorem decided_hold_occupied :
    (run (step countedIds (fun _ => "unknown") holdsOnRoster) {} decidedHold).map
      (fun state => (state.holding countedIds, (state.seated 1).isSome)) = some (some 1, true) := by
  decide +kernel

/-- The card is removed. -/
def cardRemoved : List (HoldEvent Unit Unit) :=
  [.remove 1, .updatePresence, .withdrawObject, .onKeyRemoved, .removed]

/-- Held before the removal, the reader is released. -/
theorem held_then_removed_released :
    ∃ state, run (step countedIds (fun _ => "unknown") holdsOnRoster) {}
        (decidedHold ++ .hold :: cardRemoved) = some state ∧
      state.seated 1 = none ∧ state.held 1 = false := by
  have finished : (run (step countedIds (fun _ => "unknown") holdsOnRoster) {}
      (decidedHold ++ .hold :: cardRemoved)).map
        (fun state => (state.seated 1, state.removing.isNone)) = some (none, true) := by
    decide +kernel
  obtain ⟨state, reached, facts⟩ := Option.map_eq_some_iff.mp finished
  rw [Prod.mk.injEq, Option.isNone_iff_eq_none] at facts
  have timely : Admitted (step countedIds (fun _ => "unknown") holdsOnRoster) (InTime countedIds) {}
      (decidedHold ++ .hold :: cardRemoved) := by
    apply admitted_append
    · apply admitted_of_all
      intro event member state hold
      subst hold
      simp [decidedHold] at member
    · intro middle decided
      have occupied := decided_hold_occupied
      rw [decided, Option.map_some, Option.some.injEq, Prod.mk.injEq] at occupied
      refine ⟨fun _ reader about => ?_, fun next _ => ?_⟩
      · rw [occupied.1, Option.some.injEq] at about
        exact Or.inl (about ▸ occupied.2)
      · apply admitted_of_all
        intro event member state hold
        subst hold
        simp [cardRemoved] at member
  refine ⟨state, reached, facts.1, ?_⟩
  exact timely_holds_released countedIds (fun _ => "unknown") holdsOnRoster _ state timely reached
    facts.2 1 facts.1

/-- The verdict holds only readers of cards on the roster, and yet, when the card is
removed between the verdict and the hold, the empty reader stays held with both
threads at rest. -/
theorem removed_then_held_orphaned :
    (∀ probe roster cardPath, holdsOnRoster probe roster cardPath = true →
      cardPath ∈ roster.cardKeys) ∧
    (run (step countedIds (fun _ => "unknown") holdsOnRoster) {}
        (decidedHold ++ (cardRemoved ++ [.hold]))).map
      (fun state => (state.loop.isIdle, state.removing.isNone, state.seated 1, state.held 1)) =
      some (true, true, none, true) := by
  constructor
  · intro probe roster cardPath holds
    simpa [holdsOnRoster] using holds
  · decide +kernel

end HoldState

end LibreLinux.Agent
