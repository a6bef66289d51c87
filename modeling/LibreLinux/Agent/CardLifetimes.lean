import LibreLinux.Agent.DeferredPublish
import LibreLinux.Lib.SharedPointers

/-!
# The lifetime of a card object

A card object is on the bus from its constructor to its destructor: the one
announces it, the other withdraws it. It is co-owned. The call that builds it
passes it to the map of the frontend or, if the card was withdrawn meanwhile,
drops it; a withdrawal takes it out of the map and drops it; and an update of
the card's type, which comes from an operation on another thread at any time,
copies the map's pointer under the mutex and works through the copy after it let
go of the mutex. Whoever drops the last pointer runs the destructor.

The frontend's own steps are those of `AgentFrontend`. Beside them run the heap
of card objects and any number of updates, in any order. A destructor that runs
inside the mutex is recorded, since it takes the lock of the bus.
-/

namespace LibreLinux.Agent

open SharedPointers

/-- The variables that point to card objects: an entry of the map, the local of a
call that builds a card, the local of the withdrawal, the local of an update. -/
inductive CardVariable where
  | map (card : ObjectId)
  | call (serial : Nat)
  | withdrawal
  | update (serial : Nat)
deriving DecidableEq, Repr

/-- What changes in a card object: the type it serves. -/
structure LiveCard where
  card : ObjectId
  cardType : String
deriving DecidableEq, Repr

/-- What is said on the bus at a card's path. A change tells the value that the
property has when it is sent. -/
inductive CardSignal where
  | added (cardType : String)
  | changed (cardType : String)
  | removed
deriving DecidableEq, Repr

/-- An attempt to say it. One that fails is logged, and nothing is sent. -/
structure Announcement where
  card : ObjectId
  signal : CardSignal
  sent : Bool
deriving DecidableEq, Repr

/-- How far an update has come: waiting in the loop's queue; the card found and
co-owned; the new type stored but not announced; about to return. -/
inductive UpdateStage where
  | posted
  | found
  | stored
  | leaving
deriving DecidableEq, Repr

/-- An update of the type of one card. -/
structure TypeUpdate where
  card : ObjectId
  cardType : String
  stage : UpdateStage
deriving DecidableEq, Repr

/-- The frontend, the card objects, the updates, what was announced, and the cards
whose object was destroyed inside the mutex. -/
structure CardLifetimes (π α : Type) where
  frontend : AgentFrontend π α := {}
  heap : SharedHeap CardVariable LiveCard := {}
  updates : Nat → Option TypeUpdate := fun _ => none
  nextUpdate : Nat := 0
  announcements : List Announcement := []
  lockedTeardowns : List ObjectId := []

/-- One step of one thread. A step that announces something says whether it was
sent. -/
inductive LifetimeEvent (π ω : Type) where
  | frontend (event : FrontendEvent π ω) (sent : Bool)
  | typeResolved (card : ObjectId) (cardType : String)
  | applyCardTypeUpdate (serial : Nat)
  | updateCardType (serial : Nat)
  | emitPropertiesChanged (serial : Nat) (sent : Bool)
  | updateReturn (serial : Nat) (sent : Bool)

namespace CardLifetimes

variable {π α ω : Type}

/-- Say something at the path of a card. -/
def announce (state : CardLifetimes π α) (card : ObjectId) (signal : CardSignal) (sent : Bool) :
    CardLifetimes π α :=
  { state with announcements := state.announcements ++ [⟨card, signal, sent⟩] }

/-- Replace or end one update. -/
def setUpdate (state : CardLifetimes π α) (serial : Nat) (update : Option TypeUpdate) :
    CardLifetimes π α :=
  { state with updates := Function.update state.updates serial update }

/-- Run the destructor of an object that lost its last owner. -/
def teardown (state : CardLifetimes π α) (locked sent : Bool) :
    Option LiveCard → CardLifetimes π α
  | none => state
  | some live =>
    { state.announce live.card .removed sent with
      lockedTeardowns :=
        if locked then live.card :: state.lockedTeardowns else state.lockedTeardowns }

/-- Drop a pointer, outside the mutex. -/
def drop (state : CardLifetimes π α) (pointer : CardVariable) (sent : Bool) : CardLifetimes π α :=
  { state with heap := state.heap.reset pointer }.teardown false sent (state.heap.last pointer)

/-- Move a pointer inside the mutex. What the target pointed to is dropped there. -/
def moveLocked (state : CardLifetimes π α) (source target : CardVariable) (sent : Bool) :
    CardLifetimes π α :=
  { state with heap := state.heap.moveAssign source target }.teardown true sent
    (state.heap.last target)

/-- The constructor exports the object and announces it. -/
def construct (state : CardLifetimes π α) (serial : Nat) (card : ObjectId) (cardType : String)
    (sent : Bool) : CardLifetimes π α :=
  { state with heap := state.heap.makeShared (.call serial) ⟨card, cardType⟩ }.announce card
    (.added cardType) sent

/-- What a step of the frontend does to the card objects. -/
def handOver (cardType : π → String) (state : CardLifetimes π α) (event : FrontendEvent π ω)
    (sent : Bool) : CardLifetimes π α :=
  match event with
  | .construct serial =>
    match state.frontend.resolves serial with
    | some ⟨card, _, _, .claimed probe _⟩ => state.construct serial card (cardType probe) sent
    | _ => state
  | .publish serial =>
    match state.frontend.resolves serial with
    | some ⟨card, _, _, .built _ _⟩ =>
      match state.frontend.pendingCards card with
      | none => state
      | some _ => state.moveLocked (.call serial) (.map card) sent
    | _ => state
  | .destruct serial => state.drop (.call serial) sent
  | .withdrawSection =>
    match state.frontend.withdrawing with
    | some (card, .cardLookup) => state.moveLocked (.map card) .withdrawal sent
    | _ => state
  | .withdrawReturn => state.drop .withdrawal sent
  | _ => state

/-- The worker's callback posts an update to the loop. -/
def typeResolved (state : CardLifetimes π α) (card : ObjectId) (cardType : String) :
    CardLifetimes π α :=
  { state.setUpdate state.nextUpdate (some ⟨card, cardType, .posted⟩) with
    nextUpdate := state.nextUpdate + 1 }

/-- Look the card up under the mutex and co-own it. A card that is not in the map
needs no update. -/
def applyCardTypeUpdate (state : CardLifetimes π α) (serial : Nat) (update : TypeUpdate) :
    CardLifetimes π α :=
  match state.heap.points (.map update.card) with
  | none => state.setUpdate serial none
  | some _ =>
    { state.setUpdate serial (some { update with stage := .found }) with
      heap := state.heap.copy (.map update.card) (.update serial) }

/-- Use a pointer behind which there is no object. -/
def misuse (state : CardLifetimes π α) : CardLifetimes π α :=
  { state with heap := { state.heap with dangling := true } }

/-- Store the type under the object's own mutex, unless the object serves it already. -/
def updateCardType (state : CardLifetimes π α) (serial : Nat) (update : TypeUpdate) :
    CardLifetimes π α :=
  match state.heap.value (.update serial) with
  | none => state.misuse
  | some live =>
    if live.cardType = update.cardType then
      state.setUpdate serial (some { update with stage := .leaving })
    else
      { state.setUpdate serial (some { update with stage := .stored }) with
        heap := state.heap.modify (.update serial)
          (fun live => { live with cardType := update.cardType }) }

/-- Announce the change, outside either mutex. -/
def emitPropertiesChanged (state : CardLifetimes π α) (serial : Nat) (update : TypeUpdate)
    (sent : Bool) : CardLifetimes π α :=
  match state.heap.value (.update serial) with
  | none => state.misuse
  | some live =>
    (state.setUpdate serial (some { update with stage := .leaving })).announce live.card
      (.changed live.cardType) sent

/-- A step of an update, by the stage it is in. -/
def advanceUpdate (state : CardLifetimes π α) (event : LifetimeEvent π ω) (serial : Nat)
    (update : TypeUpdate) : Option (CardLifetimes π α) :=
  match event, update.stage with
  | .applyCardTypeUpdate _, .posted => some (state.applyCardTypeUpdate serial update)
  | .updateCardType _, .found => some (state.updateCardType serial update)
  | .emitPropertiesChanged _ sent, .stored => some (state.emitPropertiesChanged serial update sent)
  | .updateReturn _ sent, .leaving => some ((state.setUpdate serial none).drop (.update serial) sent)
  | _, _ => none

/-- The transition function. -/
def step (policy : CardResolutionPolicy π α ω) (cardType : π → String) (state : CardLifetimes π α)
    (event : LifetimeEvent π ω) : Option (CardLifetimes π α) :=
  match event with
  | .frontend event sent =>
    (AgentFrontend.step policy state.frontend event).map
      (fun frontend => { state.handOver cardType event sent with frontend })
  | .typeResolved card cardType => some (state.typeResolved card cardType)
  | .applyCardTypeUpdate serial | .updateCardType serial | .emitPropertiesChanged serial _
  | .updateReturn serial _ =>
    (state.updates serial).bind (state.advanceUpdate event serial)

end CardLifetimes

namespace AgentFrontend

variable {π α ω : Type} {frontend next : AgentFrontend π α}

/-- The card whose object a variable of the frontend holds. -/
def heldCard (frontend : AgentFrontend π α) : CardVariable → Option ObjectId
  | .map card => (frontend.cards card).map (fun _ => card)
  | .call serial =>
      (frontend.resolves serial).bind (fun resolve => resolve.object.map (fun _ => resolve.card))
  | .withdrawal =>
    match frontend.withdrawing with
    | some (card, .cardDying (some _)) => some card
    | _ => none
  | .update _ => none

/-- The events that hand a card object over. -/
def HandsOver : FrontendEvent π ω → Prop
  | .construct _ | .publish _ | .destruct _ | .withdrawSection | .withdrawReturn => True
  | _ => False

/-- Where the map and the withdrawal stay as they are, only a resolve that takes or gives up an
object changes what is held. -/
theorem held_resolve (serial : Nat) (resolve : Option (Resolve π))
    (resolves : next.resolves = Function.update frontend.resolves serial resolve)
    (cards : next.cards = frontend.cards) (withdrawing : next.withdrawing = frontend.withdrawing) :
    next.heldCard = Function.update frontend.heldCard (.call serial)
      (resolve.bind (fun resolve => resolve.object.map (fun _ => resolve.card))) := by
  funext pointer
  cases pointer with
  | map card => simp [heldCard, cards]
  | call other =>
    by_cases same : other = serial
    · simp [heldCard, resolves, same]
    · have apart : CardVariable.call other ≠ .call serial := by simpa using same
      simp [heldCard, resolves, same, apart]
  | withdrawal => simp [heldCard, withdrawing]
  | update other => simp [heldCard]

/-- A resolve that has no object before the step and none after it changes nothing. -/
theorem held_objectless (serial : Nat) (before : Resolve π) (after : Option (Resolve π))
    (present : frontend.resolves serial = some before) (without : before.object = none)
    (still : ∀ resolve, after = some resolve → resolve.object = none)
    (cards : next.cards = frontend.cards) (withdrawing : next.withdrawing = frontend.withdrawing)
    (resolves : next.resolves = Function.update frontend.resolves serial after) :
    next.heldCard = frontend.heldCard := by
  rw [held_resolve serial after resolves cards withdrawing, Function.update_eq_self_iff]
  cases after with
  | none => simp [heldCard, present, without]
  | some resolve => simp [heldCard, present, without, still resolve rfl]

/-- The first section of `applyCardResolution` builds nothing. -/
theorem held_apply_probe (policy : CardResolutionPolicy π α ω) (serial : Nat) (resolve : Resolve π)
    (probe : π) (present : frontend.resolves serial = some resolve)
    (posted : resolve.stage = .posted probe) :
    (frontend.applyProbe policy serial resolve probe).heldCard = frontend.heldCard := by
  have without : resolve.object = none := by simp [Resolve.object, posted]
  unfold applyProbe
  split
  · exact held_objectless serial resolve none present without (by simp) rfl rfl rfl
  · dsimp only
    split
    · exact held_objectless serial resolve _ present without
        (by rintro _ ⟨⟩; rfl) rfl rfl rfl
    · exact held_objectless serial resolve _ present without
        (by rintro _ ⟨⟩; rfl) rfl rfl rfl

/-- The other events leave every card object where it is. -/
theorem held_quiet (policy : CardResolutionPolicy π α ω) (sound : frontend.Sound)
    (event : FrontendEvent π ω) (quiet : ¬ HandsOver event)
    (stepped : step policy frontend event = some next) : next.heldCard = frontend.heldCard := by
  have moves : ∀ serial, (frontend.resolves serial).bind
      (frontend.advance policy event serial) = some next → next.heldCard = frontend.heldCard := by
    intro serial moved
    obtain ⟨resolve, present, advanced⟩ := Option.bind_eq_some_iff.mp moved
    have stays : ∀ stage : Stage π, resolve.object = none →
        ({ resolve with stage } : Resolve π).object = none →
        (frontend.moveTo serial resolve stage).heldCard = frontend.heldCard := by
      intro stage without still
      exact held_objectless serial resolve _ present without (by rintro _ ⟨⟩; exact still) rfl rfl rfl
    unfold advance at advanced
    split at advanced
    · rename_i stage
      cases Option.some.inj advanced
      exact stays _ (by simp [Resolve.object, stage]) rfl
    · rename_i stage
      cases Option.some.inj advanced
      exact stays _ (by simp [Resolve.object, stage]) rfl
    · rename_i stage
      cases Option.some.inj advanced
      exact stays _ (by simp [Resolve.object, stage]) rfl
    · rename_i probe stage
      cases Option.some.inj advanced
      exact held_apply_probe policy serial resolve probe present stage
    · rename_i stage
      cases Option.some.inj advanced
      exact stays _ (by simp [Resolve.object, stage]) rfl
    · exact absurd trivial quiet
    · exact absurd trivial quiet
    · exact absurd trivial quiet
    · rename_i stage
      cases Option.some.inj advanced
      exact held_objectless serial resolve none present (by simp [Resolve.object, stage])
        (by simp) rfl rfl rfl
    · rename_i stage
      cases Option.some.inj advanced
      split
      · exact held_objectless serial resolve none present (by simp [Resolve.object, stage])
          (by simp) rfl rfl rfl
      · exact stays _ (by simp [Resolve.object, stage]) rfl
    · cases advanced
  cases event with
  | materializeReader id name =>
    simp only [step] at stepped
    split at stepped
    · cases stepped
    · cases Option.some.inj stepped
      funext pointer
      cases pointer <;> rfl
  | materializeCard id reader atrHex =>
    simp only [step] at stepped
    split at stepped
    · cases stepped
    · cases Option.some.inj stepped
      have unused := sound.issued frontend.nextSerial le_rfl
      have started := frontend.resolves_materialized policy id reader atrHex
      rw [held_resolve frontend.nextSerial _ started rfl rfl, Function.update_eq_self_iff]
      simp [heldCard, unused, Resolve.object]
  | withdrawObject id =>
    simp only [step] at stepped
    split at stepped
    · cases stepped
    · rename_i idle
      have without : frontend.withdrawing = none := by simpa using idle
      cases Option.some.inj stepped
      unfold withdrawObject
      funext pointer
      split <;> cases pointer <;> simp [heldCard, without]
  | withdrawSection => exact absurd trivial quiet
  | withdrawReturn => exact absurd trivial quiet
  | construct serial => exact absurd trivial quiet
  | publish serial => exact absurd trivial quiet
  | destruct serial => exact absurd trivial quiet
  | schedule serial queued => exact moves serial stepped
  | probed serial probe => exact moves serial stepped
  | apply serial => exact moves serial stepped
  | reschedule serial => exact moves serial stepped
  | hold serial roster => exact moves serial stepped
  | timer serial => exact moves serial stepped

/-- A construction goes through the resolve that claimed the card. -/
theorem construct_inv (policy : CardResolutionPolicy π α ω) (serial : Nat)
    (stepped : step policy frontend (.construct serial) = some next) :
    ∃ resolve probe atrHex, frontend.resolves serial = some resolve ∧
      resolve.stage = .claimed probe atrHex ∧
      next = frontend.moveTo serial resolve
        (.built probe ⟨resolve.reader, resolve.readerName, probe, atrHex⟩) := by
  obtain ⟨resolve, present, advanced⟩ := Option.bind_eq_some_iff.mp stepped
  cases stage : resolve.stage with
  | claimed probe atrHex =>
    simp only [advance, stage, Option.some.injEq] at advanced
    exact ⟨resolve, probe, atrHex, present, stage, advanced.symm⟩
  | _ => simp [advance, stage] at advanced

/-- A publication goes through the resolve that built the object. -/
theorem publish_inv (policy : CardResolutionPolicy π α ω) (serial : Nat)
    (stepped : step policy frontend (.publish serial) = some next) :
    ∃ resolve probe object, frontend.resolves serial = some resolve ∧
      resolve.stage = .built probe object ∧
      next = frontend.publish serial resolve probe object := by
  obtain ⟨resolve, present, advanced⟩ := Option.bind_eq_some_iff.mp stepped
  cases stage : resolve.stage with
  | built probe object =>
    simp only [advance, stage, Option.some.injEq] at advanced
    exact ⟨resolve, probe, object, present, stage, advanced.symm⟩
  | _ => simp [advance, stage] at advanced

/-- A destruction goes through the resolve that found the card withdrawn. -/
theorem destruct_inv (policy : CardResolutionPolicy π α ω) (serial : Nat)
    (stepped : step policy frontend (.destruct serial) = some next) :
    ∃ resolve object, frontend.resolves serial = some resolve ∧
      resolve.stage = .dying object ∧ next = frontend.setResolve serial none := by
  obtain ⟨resolve, present, advanced⟩ := Option.bind_eq_some_iff.mp stepped
  cases stage : resolve.stage with
  | dying object =>
    simp only [advance, stage, Option.some.injEq] at advanced
    exact ⟨resolve, object, present, stage, advanced.symm⟩
  | _ => simp [advance, stage] at advanced

/-- The card half of a withdrawal comes after the reader half. -/
theorem withdraw_section_inv (policy : CardResolutionPolicy π α ω)
    (stepped : step policy frontend .withdrawSection = some next) :
    ∃ card, frontend.withdrawing = some (card, .cardLookup) ∧
      next = frontend.withdrawSection card := by
  simp only [step] at stepped
  split at stepped
  · rename_i card looking
    exact ⟨card, looking, (Option.some.inj stepped).symm⟩
  · cases stepped

/-- A withdrawal returns once. -/
theorem withdraw_return_inv (policy : CardResolutionPolicy π α ω)
    (stepped : step policy frontend .withdrawReturn = some next) :
    ∃ card, next = frontend.withdrawReturn card := by
  simp only [step] at stepped
  split at stepped
  · exact ⟨_, (Option.some.inj stepped).symm⟩
  · exact ⟨_, (Option.some.inj stepped).symm⟩
  · cases stepped

/-- The card was built, or is never going to be: its id is used, and what still works for it has
built its object. -/
def Begun (frontend : AgentFrontend π α) (card : ObjectId) : Prop :=
  card ∈ frontend.used ∧ ∀ serial resolve, frontend.resolves serial = some resolve →
    resolve.card = card → resolve.outstanding = true → resolve.object.isSome = true

/-- A resolve that has built its object and still works is about to publish it. -/
theorem advance_built (policy : CardResolutionPolicy π α ω) (event : FrontendEvent π ω)
    {serial : Nat} {resolve : Resolve π} (working : resolve.outstanding = true)
    (built : resolve.object.isSome = true)
    (advanced : frontend.advance policy event serial resolve = some next) :
    ∃ probe object, next = frontend.publish serial resolve probe object := by
  cases stage : resolve.stage with
  | built probe object =>
    cases event <;> simp only [advance, stage, reduceCtorEq, Option.some.injEq] at advanced
    exact ⟨probe, object, advanced.symm⟩
  | dying object => simp [Resolve.outstanding, stage] at working
  | _ => simp [Resolve.object, stage] at built

/-- Publishing ends the work of a resolve. -/
theorem publish_ended (serial : Nat) (resolve after : Resolve π) (probe : π) (object : CardObject π)
    (present : (frontend.publish serial resolve probe object).resolves serial = some after) :
    after.outstanding = false := by
  unfold publish at present
  split at present <;>
  · simp only [moveTo, setResolve, setPending, Function.update_self, Option.some.injEq] at present
    subst after
    rfl

/-- No step starts to build a card anew. -/
theorem begun_step (policy : CardResolutionPolicy π α ω) (event : FrontendEvent π ω)
    (stepped : step policy frontend event = some next) (card : ObjectId)
    (begun : frontend.Begun card) : next.Begun card := by
  obtain ⟨used, building⟩ := begun
  have moves : ∀ serial, (frontend.resolves serial).bind
      (frontend.advance policy event serial) = some next → next.Begun card := by
    intro serial moved
    obtain ⟨resolve, present, performed⟩ := Option.bind_eq_some_iff.mp moved
    have advanced := advance_advanced policy event performed
    refine ⟨advanced.used ▸ used, fun other after found own working => ?_⟩
    by_cases same : other = serial
    · subst other
      obtain ⟨kept, worked, _⟩ := advanced.moved after found
      have built := building serial resolve present (kept.symm.trans own) (worked working)
      obtain ⟨probe, object, rfl⟩ := advance_built policy event (worked working) built performed
      have ended := publish_ended serial resolve after probe object found
      rw [working] at ended
      cases ended
    · exact building other after (advanced.others other same ▸ found) own working
  cases event with
  | materializeReader id name =>
    simp only [step] at stepped
    split at stepped
    · cases stepped
    · cases Option.some.inj stepped
      exact ⟨List.mem_cons_of_mem _ used, building⟩
  | materializeCard id reader atrHex =>
    simp only [step] at stepped
    split at stepped
    · cases stepped
    · rename_i ready
      obtain ⟨_, unused⟩ := not_or.mp ready
      cases Option.some.inj stepped
      refine ⟨List.mem_cons_of_mem _ used, fun serial resolve present own working => ?_⟩
      rw [resolves_materialized] at present
      by_cases same : serial = frontend.nextSerial
      · simp only [same, Function.update_self, Option.some.injEq] at present
        subst resolve
        exact absurd ((show id = card from own) ▸ used) unused
      · rw [Function.update_of_ne same] at present
        exact building serial resolve present own working
  | withdrawObject id =>
    simp only [step] at stepped
    split at stepped
    · cases stepped
    · cases Option.some.inj stepped
      unfold withdrawObject
      split <;> exact ⟨used, building⟩
  | withdrawSection =>
    obtain ⟨_, _, rfl⟩ := withdraw_section_inv policy stepped
    exact ⟨used, building⟩
  | withdrawReturn =>
    obtain ⟨_, rfl⟩ := withdraw_return_inv policy stepped
    exact ⟨List.mem_cons_of_mem _ used, building⟩
  | construct serial => exact moves serial stepped
  | publish serial => exact moves serial stepped
  | destruct serial => exact moves serial stepped
  | schedule serial queued => exact moves serial stepped
  | probed serial probe => exact moves serial stepped
  | apply serial => exact moves serial stepped
  | reschedule serial => exact moves serial stepped
  | hold serial roster => exact moves serial stepped
  | timer serial => exact moves serial stepped

/-- The one resolve of a card that builds it makes the card begun. -/
theorem begun_construct (sound : frontend.Sound) (serial : Nat) (resolve : Resolve π) (probe : π)
    (atrHex : String) (object : CardObject π) (present : frontend.resolves serial = some resolve)
    (claimed : resolve.stage = .claimed probe atrHex) :
    (frontend.moveTo serial resolve (.built probe object)).Begun resolve.card := by
  refine ⟨sound.resolved serial resolve present, fun other after found own working => ?_⟩
  by_cases same : other = serial
  · subst other
    simp only [moveTo, setResolve, Function.update_self, Option.some.injEq] at found
    subst after
    rfl
  · simp only [moveTo, setResolve, Function.update_of_ne same] at found
    refine absurd (sound.single resolve.card other serial ⟨after, found, own, working⟩ ?_) same
    exact ⟨resolve, present, rfl, by simp [Resolve.outstanding, claimed]⟩

/-- Replacing one resolve. -/
theorem held_set_resolve (serial : Nat) (resolve : Option (Resolve π)) :
    (frontend.setResolve serial resolve).heldCard =
      Function.update frontend.heldCard (.call serial)
        (resolve.bind (fun resolve => resolve.object.map (fun _ => resolve.card))) := by
  apply held_resolve <;> rfl

/-- The call that constructs the object holds it. -/
theorem held_construct (serial : Nat) (resolve : Resolve π) (probe : π) (object : CardObject π) :
    (frontend.moveTo serial resolve (.built probe object)).heldCard =
      Function.update frontend.heldCard (.call serial) (some resolve.card) :=
  held_set_resolve serial _

/-- A call that finds its card withdrawn keeps the object to itself. -/
theorem held_discard (serial : Nat) (resolve : Resolve π) (probe : π) (object : CardObject π)
    (present : frontend.resolves serial = some resolve) (stage : resolve.stage = .built probe object)
    (absent : frontend.pendingCards resolve.card = none) :
    (frontend.publish serial resolve probe object).heldCard = frontend.heldCard := by
  have moved : frontend.publish serial resolve probe object =
      frontend.setResolve serial (some { resolve with stage := .dying object }) := by
    simp [publish, absent, moveTo]
  rw [moved, held_set_resolve, Function.update_eq_self_iff]
  simp [heldCard, present, Resolve.object, stage]

/-- A call that publishes the object hands it to the map. -/
theorem held_publish (serial : Nat) (resolve : Resolve π) (probe : π) (object : CardObject π)
    (pending : PendingCard α) (waiting : frontend.pendingCards resolve.card = some pending) :
    (frontend.publish serial resolve probe object).heldCard =
      Function.update (Function.update frontend.heldCard (.call serial) none) (.map resolve.card)
        (some resolve.card) := by
  funext pointer
  cases pointer with
  | map card =>
    by_cases same : card = resolve.card
    · simp [heldCard, publish, waiting, same]
    · simp [heldCard, publish, waiting, same, moveTo, setResolve, setPending]
  | call other =>
    by_cases same : other = serial
    · simp [heldCard, publish, waiting, same, moveTo, setResolve, Resolve.object]
    · simp [heldCard, publish, waiting, same, moveTo, setResolve, setPending]
  | withdrawal => simp [heldCard, publish, waiting, moveTo, setResolve, setPending]
  | update other => simp [heldCard]

/-- A withdrawal takes the object out of the map. -/
theorem held_withdraw_section (card : ObjectId) :
    (frontend.withdrawSection card).heldCard =
      Function.update (Function.update frontend.heldCard (.map card) none) .withdrawal
        (frontend.heldCard (.map card)) := by
  funext pointer
  cases pointer with
  | map other =>
    by_cases same : other = card
    · simp [heldCard, withdrawSection, same]
    · simp [heldCard, withdrawSection, same]
  | call other => simp [heldCard, withdrawSection]
  | withdrawal =>
    cases taken : frontend.cards card <;> simp [heldCard, withdrawSection, taken]
  | update other => simp [heldCard]

/-- A withdrawal that returns holds nothing. -/
theorem held_withdraw_return (card : ObjectId) :
    (frontend.withdrawReturn card).heldCard = Function.update frontend.heldCard .withdrawal none := by
  funext pointer
  cases pointer <;> simp [heldCard, withdrawReturn]

end AgentFrontend

end LibreLinux.Agent
