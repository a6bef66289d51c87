import Mathlib.Algebra.Group.Nat.Defs
import Mathlib.Data.List.Basic

/-!
# Posting callbacks to the event loop

Any thread hands callbacks to the loop thread: it pushes them on a queue under a
mutex and then writes the wakeup eventfd. The loop reads the eventfd, swaps the
queue out and runs the batch. A delayed callback hops through the queue first and
is handed to a timer source on the loop thread; when the clock or the timer source
is not to be had, it runs at once or is posted again.

Pushing and writing are separate steps, as are reading and swapping, and threads
may post between any two of them. The loop thread posts too, from its callbacks
and its other handlers, and takes no other step until its post is over. Memory is
always to be had, and the destructor is not modelled: the loop runs. Every
non-empty callback has its own number, that of the call that gave it.
-/

namespace LibreLinux.Agent

/-- A thread that posts. -/
inductive Thread where
  | loop
  | other (id : Nat)
deriving DecidableEq

/-- What the queue holds: a callback, or the closure that arms its timer. -/
inductive Item where
  | fn (token : Nat)
  | armTimer (delay : Int64) (token : Nat)
deriving DecidableEq

/-- The callback an item owns. -/
def Item.token : Item → Nat
  | .fn token => token
  | .armTimer _ token => token

/-- The callback of an immediate post. -/
def Item.immediate : Item → Option Nat
  | .fn token => some token
  | .armTimer _ _ => none

/-- A timer source that has not fired, with the callback it owns. -/
structure Timer where
  token : Nat
  due : UInt64
deriving DecidableEq

/-- Why a callback ran: the loop drained it, its timer fired, or the clock could
not be read. -/
inductive Cause where
  | drained
  | fired (due clock : UInt64)
  | clockFailed
deriving DecidableEq

/-- A callback that ran. -/
structure Ran where
  token : Nat
  cause : Cause

/-- The callback of a drained immediate post. -/
def Ran.immediate (ran : Ran) : Option Nat :=
  if ran.cause = .drained then some ran.token else none

/-- Where the loop thread stands. While a callback runs, the rest of its batch
waits. -/
inductive LoopPhase where
  | idle
  | woken
  | draining (batch : List Item)
  | running (batch : List Item)
  | firing
  | arming (delay : Int64) (token : Nat) (batch : List Item)
  | adding (now : UInt64) (delay : Int64) (token : Nat) (batch : List Item)

/-- The batch being drained, with the item that is being dealt with. -/
def LoopPhase.batch : LoopPhase → List Item
  | .draining batch => batch
  | .running batch => batch
  | .arming delay token batch => .armTimer delay token :: batch
  | .adding _ delay token batch => .armTimer delay token :: batch
  | _ => []

/-- Whether the loop thread may be in a callback or a handler that posts. -/
def LoopPhase.posts : LoopPhase → Bool
  | .idle => true
  | .running _ => true
  | .firing => true
  | _ => false

/-- The poster: the counter of the eventfd, the queue, the threads between push
and write, the loop thread and the armed timers. The rest is its history: the
number of callbacks given, the items pushed, the delayed callbacks with their
delays, the readings of the clock for their timers, those the clock or the timer
source failed, and the callbacks that ran. -/
structure EventLoopPoster where
  counter : Nat := 0
  pending : List Item := []
  posting : List (Thread × Item) := []
  phase : LoopPhase := .idle
  timers : List Timer := []
  given : Nat := 0
  pushed : List Item := []
  delayed : List (Nat × Int64) := []
  readings : List (Nat × Int64 × UInt64) := []
  failed : List Nat := []
  ran : List Ran := []

/-- A step of a posting thread or of the loop. -/
inductive PosterEvent where
  | post (thread : Thread) (fn : Bool)
  | postAfter (thread : Thread) (delay : Int64) (fn : Bool)
  | write (thread : Thread)
  | readEventfd
  | swap
  | next
  | returned
  | now (result : Option UInt64)
  | addTime (accepted : Bool)
  | fire (timer : Timer) (clock : UInt64)

namespace EventLoopPoster

/-- Push an item under the mutex; the thread has yet to wake the loop. -/
def push (state : EventLoopPoster) (thread : Thread) (item : Item) : EventLoopPoster :=
  { state with
    pending := state.pending ++ [item]
    posting := state.posting ++ [(thread, item)]
    pushed := state.pushed ++ [item] }

/-- `post`, up to the write. `fn` says whether the function is non-empty. -/
def post (state : EventLoopPoster) (thread : Thread) (fn : Bool) : EventLoopPoster :=
  if !fn then state
  else { state.push thread (.fn state.given) with given := state.given + 1 }

/-- `postAfter`, up to the write. A delay that is not positive is none. -/
def postAfter (state : EventLoopPoster) (thread : Thread) (delay : Int64) (fn : Bool) :
    EventLoopPoster :=
  if !fn then state
  else if delay ≤ 0 then state.post thread fn
  else { state.push thread (.armTimer delay state.given) with
    given := state.given + 1
    delayed := state.delayed ++ [(state.given, delay)] }

/-- The largest value of an eventfd's counter. A write that would exceed it fails
and changes nothing. -/
def kEventfdMax : Nat := 2 ^ 64 - 2

/-- Write one to the eventfd. -/
def write (state : EventLoopPoster) (thread : Thread) : EventLoopPoster :=
  { state with
    counter := if state.counter < kEventfdMax then state.counter + 1 else state.counter
    posting := state.posting.filter (fun post => post.1 ≠ thread) }

/-- Whether a thread is between push and write. -/
def isPosting (state : EventLoopPoster) (thread : Thread) : Bool :=
  state.posting.any (fun post => post.1 = thread)

/-- Whether a thread may begin a post. -/
def mayPost (state : EventLoopPoster) (thread : Thread) : Bool :=
  !state.isPosting thread && (thread ≠ .loop || state.phase.posts)

/-- The loop's step in its phase. A callback that throws is one that returns. -/
def advance (state : EventLoopPoster) : LoopPhase → PosterEvent → Option EventLoopPoster
  -- onReadable: an eventfd at zero answers EAGAIN and stays at zero
  | .idle, .readEventfd => some { state with counter := 0, phase := .woken }
  -- drain
  | .woken, .swap => some { state with pending := [], phase := .draining state.pending }
  | .draining [], .next => some { state with phase := .idle }
  | .draining (.fn token :: batch), .next =>
    some { state with ran := state.ran ++ [⟨token, .drained⟩], phase := .running batch }
  | .draining (.armTimer delay token :: batch), .next =>
    some { state with phase := .arming delay token batch }
  | .running batch, .returned => some { state with phase := .draining batch }
  -- armTimer
  | .arming _ token batch, .now none =>
    some { state with
      ran := state.ran ++ [⟨token, .clockFailed⟩]
      failed := state.failed ++ [token]
      phase := .running batch }
  | .arming delay token batch, .now (some now) =>
    some { state with
      readings := state.readings ++ [(token, delay, now)]
      phase := .adding now delay token batch }
  | .adding now delay token batch, .addTime true =>
    some { state with
      timers := state.timers ++ [⟨token, now + delay.toUInt64⟩]
      phase := .draining batch }
  | .adding _ _ token batch, .addTime false =>
    some { state.push .loop (.fn token) with
      failed := state.failed ++ [token]
      phase := .draining batch }
  -- onTimer: the source is one-shot and fires when it is due
  | .idle, .fire timer clock =>
    if timer ∈ state.timers ∧ timer.due ≤ clock then
      some { state with
        timers := state.timers.erase timer
        ran := state.ran ++ [⟨timer.token, .fired timer.due clock⟩]
        phase := .firing }
    else none
  | .firing, .returned => some { state with phase := .idle }
  | _, _ => none

/-- One step. -/
def step (state : EventLoopPoster) (event : PosterEvent) : Option EventLoopPoster :=
  match event with
  | .post thread fn => if state.mayPost thread then some (state.post thread fn) else none
  | .postAfter thread delay fn =>
    if state.mayPost thread then some (state.postAfter thread delay fn) else none
  | .write thread => if state.isPosting thread then some (state.write thread) else none
  | .readEventfd | .swap | .next | .returned | .now _ | .addTime _ | .fire _ _ =>
    if state.isPosting .loop then none else state.advance state.phase event

end EventLoopPoster

end LibreLinux.Agent
