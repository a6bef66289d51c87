import LibreLinux.Lib.Runs
import Mathlib.Logic.Function.Basic

/-!
# The agent's object tree and its deferred cards

`AgentFrontend` turns presence deltas into exported objects. A reader is exported
at once. A card is first recorded as pending; a resolve then probes it on its
reader's worker, comes back to the loop thread and either asks for another probe
after a delay, finds the card withdrawn and drops, or builds the card object and
publishes it. The object is built outside the mutex, between two critical
sections, so a withdrawal can fall in between.

A resolve is a chain of continuations: being scheduled, queued on a worker,
posted to the loop, applied, waiting on a timer. Each chain carries a serial
number, the identity of the call in progress. The maps of the source are keyed
by the object path, composed from the kind and the id; here they are keyed by the
id. Presence deltas come one at a time, under the monitor's lock. Probes, retry
budgets and the hold verdict are the agent library's and enter as a policy.
-/

namespace LibreLinux.Agent

/-- The per-process counter that names readers and cards. -/
abbrev ObjectId := Nat

/-- The agent library's resolution policy: whether a probe is repeated and after
how long, with the budget it leaves; the delay after backpressure; and whether a
published card's reader is held. -/
structure CardResolutionPolicy (π α ω : Type) where
  budget : α
  firstDelay : Nat
  retryAfter : π → α → Option Nat × α
  holdsReader : π → ω → ObjectId → Bool

/-- A card waiting for its resolution. -/
structure PendingCard (α : Type) where
  reader : ObjectId
  readerName : String
  attempts : α
  atrHex : String

/-- An exported card object, with what the probe learned. -/
structure CardObject (π : Type) where
  reader : ObjectId
  readerName : String
  probe : π
  atrHex : String

/-- How far a resolve has come. From `retrying` to `published` it is inside one
call of `applyCardResolution`: told to retry, claimed and under construction,
built and exported, found withdrawn and about to be destroyed, or published with
the hold verdict still to come. -/
inductive Stage (π : Type) where
  | scheduling
  | queued
  | posted (probe : π)
  | retrying (delay : Nat)
  | claimed (probe : π) (atrHex : String)
  | built (probe : π) (object : CardObject π)
  | dying (object : CardObject π)
  | published (probe : π)
  | waiting (delay : Nat)

/-- A resolve of one card on one reader. -/
structure Resolve (π : Type) where
  card : ObjectId
  reader : ObjectId
  readerName : String
  stage : Stage π

/-- Whether the resolve still works for a pending card. -/
def Resolve.outstanding {π : Type} (resolve : Resolve π) : Bool :=
  match resolve.stage with
  | .dying _ => false
  | .published _ => false
  | _ => true

/-- Whether the resolve is in the part of `applyCardResolution` that builds the
card object. -/
def Resolve.building {π : Type} (resolve : Resolve π) : Bool :=
  match resolve.stage with
  | .claimed _ _ => true
  | .built _ _ => true
  | .dying _ => true
  | _ => false

/-- The card object a resolve owns. -/
def Resolve.object {π : Type} (resolve : Resolve π) : Option (CardObject π) :=
  match resolve.stage with
  | .built _ object => some object
  | .dying object => some object
  | _ => none

/-- Where a withdrawal stands. -/
inductive WithdrawStage (π : Type) where
  | readerDying
  | cardLookup
  | cardDying (object : Option (CardObject π))

/-- The frontend: its maps, the resolves in flight, the withdrawal in progress,
and the ids used and withdrawn so far. -/
structure AgentFrontend (π α : Type) where
  readers : ObjectId → Option String := fun _ => none
  pendingCards : ObjectId → Option (PendingCard α) := fun _ => none
  cards : ObjectId → Option (CardObject π) := fun _ => none
  holds : ObjectId → Bool := fun _ => false
  resolves : Nat → Option (Resolve π) := fun _ => none
  nextSerial : Nat := 0
  withdrawing : Option (ObjectId × WithdrawStage π) := none
  used : List ObjectId := []
  withdrawn : List ObjectId := []

/-- One step of one thread. Loop, worker and timer steps name their resolve. -/
inductive FrontendEvent (π ω : Type) where
  | materializeReader (id : ObjectId) (name : String)
  | materializeCard (id reader : ObjectId) (atrHex : String)
  | withdrawObject (id : ObjectId)
  | withdrawSection
  | withdrawReturn
  | schedule (serial : Nat) (queued : Bool)
  | probed (serial : Nat) (probe : π)
  | apply (serial : Nat)
  | reschedule (serial : Nat)
  | construct (serial : Nat)
  | publish (serial : Nat)
  | destruct (serial : Nat)
  | hold (serial : Nat) (roster : ω)
  | timer (serial : Nat)

namespace AgentFrontend

variable {π α ω : Type}

/-- Replace or end one resolve. -/
def setResolve (state : AgentFrontend π α) (serial : Nat) (resolve : Option (Resolve π)) :
    AgentFrontend π α :=
  { state with resolves := Function.update state.resolves serial resolve }

/-- Record or forget a pending card. -/
def setPending (state : AgentFrontend π α) (id : ObjectId) (pending : Option (PendingCard α)) :
    AgentFrontend π α :=
  { state with pendingCards := Function.update state.pendingCards id pending }

/-- Hand an id out; the counter never repeats one. -/
def use (state : AgentFrontend π α) (id : ObjectId) : AgentFrontend π α :=
  { state with used := id :: state.used }

/-- Start the resolve of a card. -/
def startResolve (state : AgentFrontend π α) (resolve : Resolve π) : AgentFrontend π α :=
  { state.setResolve state.nextSerial (some resolve) with nextSerial := state.nextSerial + 1 }

/-- Export a reader. -/
def materializeReader (state : AgentFrontend π α) (id : ObjectId) (name : String) :
    AgentFrontend π α :=
  { state.use id with readers := Function.update state.readers id (some name) }

/-- Record a card as pending under its reader's name and schedule its resolve. -/
def materializeCard (policy : CardResolutionPolicy π α ω) (state : AgentFrontend π α)
    (id reader : ObjectId) (atrHex : String) : AgentFrontend π α :=
  let readerName := (state.readers reader).getD ""
  ((state.use id).setPending id (some ⟨reader, readerName, policy.budget, atrHex⟩)).startResolve
    ⟨id, reader, readerName, .scheduling⟩

/-- The reader half of a withdrawal, under the readers' mutex. -/
def withdrawObject (state : AgentFrontend π α) (id : ObjectId) : AgentFrontend π α :=
  match state.readers id with
  | some _ => { state with
      readers := Function.update state.readers id none, withdrawing := some (id, .readerDying) }
  | none => { state with withdrawing := some (id, .cardLookup) }

/-- The card half of a withdrawal, under the cards' mutex: forget a pending card,
and take an exported one out of its map. -/
def withdrawSection (state : AgentFrontend π α) (id : ObjectId) : AgentFrontend π α :=
  { state with
    pendingCards := Function.update state.pendingCards id none
    cards := Function.update state.cards id none
    withdrawing := some (id, .cardDying (state.cards id)) }

/-- The withdrawal destroys what it took and returns. -/
def withdrawReturn (state : AgentFrontend π α) (id : ObjectId) : AgentFrontend π α :=
  { state with withdrawing := none, used := id :: state.used, withdrawn := id :: state.withdrawn }

/-- Move one resolve to another stage. -/
def moveTo (state : AgentFrontend π α) (serial : Nat) (resolve : Resolve π) (stage : Stage π) :
    AgentFrontend π α :=
  state.setResolve serial (some { resolve with stage })

/-- The first critical section of `applyCardResolution`: drop, retry or claim.
The pending entry stays until the card is published or withdrawn. -/
def applyProbe (policy : CardResolutionPolicy π α ω) (state : AgentFrontend π α) (serial : Nat)
    (resolve : Resolve π) (probe : π) : AgentFrontend π α :=
  match state.pendingCards resolve.card with
  | none => state.setResolve serial none
  | some pending =>
    let verdict := policy.retryAfter probe pending.attempts
    let counted := state.setPending resolve.card (some { pending with attempts := verdict.2 })
    match verdict.1 with
    | some delay => counted.moveTo serial resolve (.retrying delay)
    | none => counted.moveTo serial resolve (.claimed probe pending.atrHex)

/-- The second critical section: publish the object just built, unless the card
was withdrawn meanwhile. -/
def publish (state : AgentFrontend π α) (serial : Nat) (resolve : Resolve π) (probe : π)
    (object : CardObject π) : AgentFrontend π α :=
  match state.pendingCards resolve.card with
  | none => state.moveTo serial resolve (.dying object)
  | some _ =>
    { (state.setPending resolve.card none).moveTo serial resolve (.published probe) with
      cards := Function.update state.cards resolve.card (some object) }

/-- A step of a resolve, by the stage it is in. -/
def advance (policy : CardResolutionPolicy π α ω) (state : AgentFrontend π α)
    (event : FrontendEvent π ω) (serial : Nat) (resolve : Resolve π) : Option (AgentFrontend π α) :=
  match event, resolve.stage with
  | .schedule _ true, .scheduling => some (state.moveTo serial resolve .queued)
  | .schedule _ false, .scheduling => some (state.moveTo serial resolve (.waiting policy.firstDelay))
  | .probed _ probe, .queued => some (state.moveTo serial resolve (.posted probe))
  | .apply _, .posted probe => some (state.applyProbe policy serial resolve probe)
  | .reschedule _, .retrying delay => some (state.moveTo serial resolve (.waiting delay))
  | .construct _, .claimed probe atrHex =>
      some (state.moveTo serial resolve
        (.built probe ⟨resolve.reader, resolve.readerName, probe, atrHex⟩))
  | .publish _, .built probe object => some (state.publish serial resolve probe object)
  | .destruct _, .dying _ => some (state.setResolve serial none)
  | .hold _ roster, .published probe =>
      some { state.setResolve serial none with
        holds := if policy.holdsReader probe roster resolve.card
          then Function.update state.holds resolve.reader true else state.holds }
  | .timer _, .waiting _ =>
      some (match state.pendingCards resolve.card with
        | none => state.setResolve serial none
        | some _ => state.moveTo serial resolve .scheduling)
  | _, _ => none

/-- The transition function. Presence deltas wait for a withdrawal in progress,
and an id is materialised only if it was never used. -/
def step (policy : CardResolutionPolicy π α ω) (state : AgentFrontend π α)
    (event : FrontendEvent π ω) : Option (AgentFrontend π α) :=
  match event with
  | .materializeReader id name =>
    if state.withdrawing.isSome ∨ id ∈ state.used then none
    else some (state.materializeReader id name)
  | .materializeCard id reader atrHex =>
    if state.withdrawing.isSome ∨ id ∈ state.used then none
    else some (state.materializeCard policy id reader atrHex)
  | .withdrawObject id =>
    if state.withdrawing.isSome then none else some (state.withdrawObject id)
  | .withdrawSection =>
    match state.withdrawing with
    | some (id, .cardLookup) => some (state.withdrawSection id)
    | _ => none
  | .withdrawReturn =>
    match state.withdrawing with
    | some (id, .readerDying) => some (state.withdrawReturn id)
    | some (id, .cardDying _) => some (state.withdrawReturn id)
    | _ => none
  | .schedule serial _ | .probed serial _ | .apply serial | .reschedule serial
  | .construct serial | .publish serial | .destruct serial | .hold serial _ | .timer serial =>
    (state.resolves serial).bind (state.advance policy event serial)

end AgentFrontend

end LibreLinux.Agent
