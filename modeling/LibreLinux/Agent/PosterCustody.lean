import LibreLinux.Agent.EventLoopPoster
import LibreLinux.Lib.Runs
import Mathlib.Data.List.Nodup
import Mathlib.Data.List.Perm.Basic
import Mathlib.Data.List.Range

/-!
# Every posted callback is kept until it runs

A given callback is in one place: it has run, or it waits in the batch or in the
queue, or an armed timer owns it. A step moves it from one place to the next, so the
places together are a permutation of the callbacks given so far. That nothing is
lost and nothing runs twice follows, whatever the interleaving.

What waits in the queue also has a wakeup, because a push is followed by a write and
a read of the eventfd by a swap. The order of the immediate posts is that of the
queue. A delayed callback leaves the queue for a timer, and comes back to it as an
immediate post only when the clock or the timer source has failed it.
-/

namespace LibreLinux.Agent

open Runs

namespace EventLoopPoster

/-- The items the loop has still to deal with, in their order. -/
def queue (state : EventLoopPoster) : List Item := state.phase.batch ++ state.pending

/-- Every place a callback can be. -/
def places (state : EventLoopPoster) : List Nat :=
  state.ran.map Ran.token ++ (state.queue.map Item.token ++ state.timers.map Timer.token)

/-- What a step does to the callbacks. -/
inductive Moved (state : EventLoopPoster) : EventLoopPoster → Prop where
  | skips : Moved state state
  | posts (thread : Thread) :
      Moved state { state.push thread (.fn state.given) with given := state.given + 1 }
  | postsAfter (thread : Thread) (delay : Int64) :
      Moved state { state.push thread (.armTimer delay state.given) with
        given := state.given + 1
        delayed := state.delayed ++ [(state.given, delay)] }
  | writes (thread : Thread) : Moved state (state.write thread)
  | wakes (idle : state.phase = .idle) : Moved state { state with counter := 0, phase := .woken }
  | swaps (woken : state.phase = .woken) :
      Moved state { state with pending := [], phase := .draining state.pending }
  | goesOn (phase : LoopPhase) (awake : state.phase ≠ .woken)
      (same : phase.batch = state.phase.batch)
      (unread : ∀ now delay token batch, phase ≠ .adding now delay token batch) :
      Moved state { state with phase }
  | reads (now : UInt64) (delay : Int64) (token : Nat) (batch : List Item)
      (head : state.phase = .arming delay token batch) :
      Moved state { state with
        readings := state.readings ++ [(token, delay, now)]
        phase := .adding now delay token batch }
  | drains (token : Nat) (batch : List Item)
      (head : state.phase = .draining (.fn token :: batch)) :
      Moved state { state with
        ran := state.ran ++ [⟨token, .drained⟩], phase := .running batch }
  | runsUnclocked (delay : Int64) (token : Nat) (batch : List Item)
      (head : state.phase = .arming delay token batch) :
      Moved state { state with
        ran := state.ran ++ [⟨token, .clockFailed⟩]
        failed := state.failed ++ [token]
        phase := .running batch }
  | arms (now : UInt64) (delay : Int64) (token : Nat) (batch : List Item)
      (head : state.phase = .adding now delay token batch) :
      Moved state { state with
        timers := state.timers ++ [⟨token, now + delay.toUInt64⟩], phase := .draining batch }
  | reposts (now : UInt64) (delay : Int64) (token : Nat) (batch : List Item)
      (head : state.phase = .adding now delay token batch) :
      Moved state { state.push .loop (.fn token) with
        failed := state.failed ++ [token], phase := .draining batch }
  | fires (timer : Timer) (clock : UInt64) (idle : state.phase = .idle)
      (armed : timer ∈ state.timers) (due : timer.due ≤ clock) :
      Moved state { state with
        timers := state.timers.erase timer
        ran := state.ran ++ [⟨timer.token, .fired timer.due clock⟩]
        phase := .firing }

/-- Every step of the loop is one of these. -/
theorem advance_moved (state next : EventLoopPoster) (event : PosterEvent)
    (stepped : state.advance state.phase event = some next) : Moved state next := by
  unfold advance at stepped
  split at stepped
  case h_1 phase =>
    cases stepped
    exact .wakes phase
  case h_2 phase =>
    cases stepped
    exact .swaps phase
  case h_4 token batch phase =>
    cases stepped
    exact .drains token batch phase
  case h_7 delay token batch phase =>
    cases stepped
    exact .runsUnclocked delay token batch phase
  case h_8 delay token batch now phase =>
    cases stepped
    exact .reads now delay token batch phase
  case h_9 now delay token batch phase =>
    cases stepped
    exact .arms now delay token batch phase
  case h_10 now delay token batch phase =>
    cases stepped
    exact .reposts now delay token batch phase
  case h_11 timer clock phase =>
    split_ifs at stepped with fireable
    cases stepped
    exact .fires timer clock phase fireable.1 fireable.2
  case h_13 => cases stepped
  all_goals
    rename_i phase
    cases stepped
    exact .goesOn _ (by simp [phase]) (by rw [phase]; rfl) (by simp)

/-- A post gives the loop a callback, unless the callback is empty. -/
theorem post_moved (state : EventLoopPoster) (thread : Thread) (fn : Bool) :
    Moved state (state.post thread fn) := by
  unfold post
  cases fn with
  | false => exact .skips
  | true => exact .posts thread

/-- Every step is one of these. -/
theorem step_moved (state next : EventLoopPoster) (event : PosterEvent)
    (stepped : state.step event = some next) : Moved state next := by
  cases event with
  | post thread fn =>
    simp only [step] at stepped
    split_ifs at stepped
    cases stepped
    exact post_moved state thread fn
  | postAfter thread delay fn =>
    simp only [step] at stepped
    split_ifs at stepped
    cases stepped
    unfold postAfter
    split_ifs
    · exact .skips
    · exact post_moved state thread fn
    · exact .postsAfter thread delay
  | write thread =>
    simp only [step] at stepped
    split_ifs at stepped
    cases stepped
    exact .writes thread
  | _ =>
    simp only [step] at stepped
    split_ifs at stepped
    exact advance_moved state next _ stepped

variable {state next : EventLoopPoster}

/-- Every given callback is in one place. -/
def Conserved (state : EventLoopPoster) : Prop := state.places.Perm (List.range state.given)

/-- How often a callback is in each kind of place. -/
theorem count_places (state : EventLoopPoster) (token : Nat) :
    state.places.count token = (state.ran.map Ran.token).count token +
      (state.phase.batch.map Item.token).count token +
      (state.pending.map Item.token).count token + (state.timers.map Timer.token).count token := by
  simp only [places, queue, List.map_append, List.count_append]
  omega

/-- One more place at the end. -/
theorem count_concat {α : Type} (token : α → Nat) (items : List α) (item : α) (other : Nat) :
    ((items ++ [item]).map token).count other =
      (items.map token).count other + [token item].count other := by
  rw [List.map_append, List.count_append]
  rfl

/-- One more place at the head. -/
theorem count_head {α : Type} (token : α → Nat) (items : List α) (item : α) (other : Nat) :
    ((item :: items).map token).count other =
      [token item].count other + (items.map token).count other := by
  rw [← List.singleton_append, List.map_append, List.count_append]
  rfl

/-- A step moves a callback from one place to another, or gives a new one a place. -/
theorem conserved_moved (conserved : state.Conserved) (moved : Moved state next) :
    next.Conserved := by
  unfold Conserved at conserved ⊢
  rw [List.perm_iff_count] at conserved ⊢
  intro token
  specialize conserved token
  rw [count_places] at conserved ⊢
  cases moved with
  | skips => exact conserved
  | writes thread => exact conserved
  | posts thread =>
    simp only [push, count_concat, Item.token, List.range_succ, List.count_append]
    omega
  | postsAfter thread delay =>
    simp only [push, count_concat, Item.token, List.range_succ, List.count_append]
    omega
  | wakes idle =>
    rw [idle] at conserved
    exact conserved
  | swaps woken =>
    simp only [woken, LoopPhase.batch, List.map_nil, List.count_nil] at conserved ⊢
    omega
  | goesOn phase awake same unread => simpa only [same] using conserved
  | reads now delay pick batch head => simpa only [head, LoopPhase.batch] using conserved
  | drains pick batch head =>
    simp only [head, LoopPhase.batch, count_head, Item.token] at conserved
    simp only [LoopPhase.batch, count_concat]
    omega
  | runsUnclocked delay pick batch head =>
    simp only [head, LoopPhase.batch, count_head, Item.token] at conserved
    simp only [LoopPhase.batch, count_concat]
    omega
  | arms now delay pick batch head =>
    simp only [head, LoopPhase.batch, count_head, Item.token] at conserved
    simp only [LoopPhase.batch, count_concat]
    omega
  | reposts now delay pick batch head =>
    simp only [head, LoopPhase.batch, count_head, Item.token] at conserved
    simp only [push, LoopPhase.batch, count_concat, Item.token]
    omega
  | fires timer clock idle armed due =>
    have taken := ((List.perm_cons_erase armed).map Timer.token).count_eq token
    rw [count_head] at taken
    rw [idle] at conserved
    simp only [LoopPhase.batch, count_concat] at conserved ⊢
    omega

/-- A pending item has a wakeup on its way to the loop, or the loop is about to
swap it out. -/
def Woken (state : EventLoopPoster) : Prop :=
  ∀ item ∈ state.pending, 0 < state.counter ∨
    (∃ thread, (thread, item) ∈ state.posting) ∨ state.phase = .woken

/-- A thread that pushed its item is between push and write. -/
theorem woken_push (woken : state.Woken) (thread : Thread) (item : Item) :
    (state.push thread item).Woken := by
  intro other member
  rcases List.mem_append.mp member with old | new
  · rcases woken other old with counted | ⟨poster, between⟩ | asleep
    · exact Or.inl counted
    · exact Or.inr (Or.inl ⟨poster, List.mem_append_left _ between⟩)
    · exact Or.inr (Or.inr asleep)
  · rw [List.mem_singleton] at new
    exact Or.inr (Or.inl ⟨thread, List.mem_append_right _ (by simp [new])⟩)

/-- Outside the window between read and swap the phase does not matter. -/
theorem woken_phase (woken : state.Woken) (awake : state.phase ≠ .woken) (item : Item)
    (pending : item ∈ state.pending) (phase : LoopPhase) :
    0 < state.counter ∨ (∃ thread, (thread, item) ∈ state.posting) ∨ phase = .woken := by
  rcases woken item pending with counted | between | asleep
  · exact Or.inl counted
  · exact Or.inr (Or.inl between)
  · exact absurd asleep awake

/-- A write leaves the eventfd readable, also when the counter is at its end. -/
theorem write_counter_pos (state : EventLoopPoster) (thread : Thread) :
    0 < (state.write thread).counter := by
  unfold write kEventfdMax
  dsimp only
  split_ifs <;> omega

/-- Every step keeps the wakeup. -/
theorem woken_moved (woken : state.Woken) (moved : Moved state next) : next.Woken := by
  cases moved with
  | skips => exact woken
  | posts thread => exact woken_push woken thread _
  | postsAfter thread delay => exact woken_push woken thread _
  | writes thread => exact fun _ _ => Or.inl (write_counter_pos state thread)
  | wakes idle => exact fun _ _ => Or.inr (Or.inr rfl)
  | swaps asleep => simp [Woken]
  | goesOn phase awake same unread =>
    exact fun item member => woken_phase woken awake item member phase
  | reads now delay pick batch head =>
    exact fun item member => woken_phase woken (by simp [head]) item member _
  | drains pick batch head =>
    exact fun item member => woken_phase woken (by simp [head]) item member _
  | runsUnclocked delay pick batch head =>
    exact fun item member => woken_phase woken (by simp [head]) item member _
  | arms now delay pick batch head =>
    exact fun item member => woken_phase woken (by simp [head]) item member _
  | reposts now delay pick batch head =>
    have awake : (state.push .loop (.fn pick)).phase ≠ .woken := by simp [push, head]
    exact fun item member =>
      woken_phase (woken_push woken .loop (.fn pick)) awake item member _
  | fires timer clock idle armed due =>
    exact fun item member => woken_phase woken (by simp [idle]) item member _

/-- The immediate posts are the drained ones followed by the waiting ones. -/
def Ordered (state : EventLoopPoster) : Prop :=
  state.pushed.filterMap Item.immediate =
    state.ran.filterMap Ran.immediate ++ state.queue.filterMap Item.immediate

/-- A pushed item waits behind all others. -/
theorem ordered_push (ordered : state.Ordered) (thread : Thread) (item : Item) :
    (state.push thread item).Ordered := by
  unfold Ordered at ordered ⊢
  simp only [push, queue, List.filterMap_append] at ordered ⊢
  rw [ordered]
  simp only [List.append_assoc]

/-- Every step keeps the order. -/
theorem ordered_moved (ordered : state.Ordered) (moved : Moved state next) : next.Ordered := by
  cases moved with
  | skips => exact ordered
  | posts thread => exact ordered_push ordered thread _
  | postsAfter thread delay => exact ordered_push ordered thread _
  | writes thread => exact ordered
  | wakes idle => simpa [Ordered, queue, idle, LoopPhase.batch] using ordered
  | swaps woken => simpa [Ordered, queue, woken, LoopPhase.batch] using ordered
  | goesOn phase awake same unread => simpa only [Ordered, queue, same] using ordered
  | reads now delay pick batch head =>
    simpa only [Ordered, queue, head, LoopPhase.batch] using ordered
  | drains pick batch head =>
    simpa [Ordered, queue, head, LoopPhase.batch, Item.immediate, Ran.immediate] using ordered
  | runsUnclocked delay pick batch head =>
    simpa [Ordered, queue, head, LoopPhase.batch, List.filterMap_cons, Item.immediate,
      Ran.immediate] using ordered
  | arms now delay pick batch head =>
    simpa [Ordered, queue, head, LoopPhase.batch, List.filterMap_cons, Item.immediate] using ordered
  | reposts now delay pick batch head =>
    simpa [Ordered, queue, push, head, LoopPhase.batch, List.filterMap_cons, Item.immediate] using
      ordered_push ordered .loop (.fn pick)
  | fires timer clock idle armed due =>
    simpa [Ordered, queue, idle, LoopPhase.batch, Ran.immediate] using ordered

/-- The clock's reading for a timer that is about to be armed is on record. -/
def Read (state : EventLoopPoster) : Prop :=
  ∀ now delay token batch, state.phase = .adding now delay token batch →
    (token, delay, now) ∈ state.readings

/-- Every step keeps the record of the reading. -/
theorem read_moved (read : state.Read) (moved : Moved state next) : next.Read := by
  intro now delay token batch adding
  cases moved with
  | goesOn phase awake same unread => exact absurd adding (unread now delay token batch)
  | reads =>
    cases adding
    exact List.mem_append_right _ (List.mem_singleton_self _)
  | wakes => cases adding
  | swaps => cases adding
  | drains => cases adding
  | runsUnclocked => cases adding
  | arms => cases adding
  | reposts => cases adding
  | fires => cases adding
  | _ => exact read now delay token batch adding

/-- The time a delayed callback is due: its delay after the clock's reading for its timer. -/
def Due (state : EventLoopPoster) (token : Nat) (due : UInt64) : Prop :=
  ∃ delay now, (token, delay) ∈ state.delayed ∧ (token, delay, now) ∈ state.readings ∧
    due = now + delay.toUInt64

/-- Why an item waits: its callback was delayed and is on its way to a timer, or
it is immediate and was not delayed unless the clock or the timer source failed. -/
def Justified (state : EventLoopPoster) : Item → Prop
  | .fn token => token ∈ state.delayed.map Prod.fst → token ∈ state.failed
  | .armTimer delay token => (token, delay) ∈ state.delayed

/-- A delayed callback that ran was due, or the clock or its timer source failed. -/
def InTime (state : EventLoopPoster) (ran : Ran) : Prop :=
  ran.token ∈ state.delayed.map Prod.fst → ran.token ∈ state.failed ∨
    ∃ due clock, ran.cause = .fired due clock ∧ due ≤ clock ∧ state.Due ran.token due

/-- What the places of the delayed callbacks say about them. -/
structure Timely (state : EventLoopPoster) : Prop where
  delayed : ∀ token ∈ state.delayed.map Prod.fst, token < state.given
  waiting : ∀ item ∈ state.queue, state.Justified item
  armed : ∀ timer ∈ state.timers, state.Due timer.token timer.due
  ran : ∀ ran ∈ state.ran, state.InTime ran
  failed : ∀ token ∈ state.failed,
    token ∈ state.ran.map Ran.token ∨ Item.fn token ∈ state.queue

/-- A later history: nothing is taken back, and only new callbacks are delayed. -/
structure Extends (state next : EventLoopPoster) : Prop where
  failed : state.failed ⊆ next.failed
  delayed : state.delayed ⊆ next.delayed
  readings : state.readings ⊆ next.readings
  fresh : ∀ token < state.given, token ∈ next.delayed.map Prod.fst →
    token ∈ state.delayed.map Prod.fst

/-- Every step extends the history. -/
theorem extends_moved (moved : Moved state next) : Extends state next := by
  cases moved with
  | postsAfter thread delay =>
    refine ⟨List.Subset.refl _, List.subset_append_left _ _, List.Subset.refl _, ?_⟩
    intro token old member
    simp only [List.map_append, List.map_cons, List.map_nil, List.mem_append,
      List.mem_singleton] at member
    exact member.resolve_right (by omega)
  | reads now delay pick batch head =>
    exact ⟨List.Subset.refl _, List.Subset.refl _, List.subset_append_left _ _,
      fun _ _ member => member⟩
  | runsUnclocked delay pick batch head =>
    exact ⟨List.subset_append_left _ _, List.Subset.refl _, List.Subset.refl _,
      fun _ _ member => member⟩
  | reposts now delay pick batch head =>
    exact ⟨List.subset_append_left _ _, List.Subset.refl _, List.Subset.refl _,
      fun _ _ member => member⟩
  | _ =>
    exact ⟨List.Subset.refl _, List.Subset.refl _, List.Subset.refl _, fun _ _ member => member⟩

/-- A callback in one of the places was given. -/
theorem token_lt (conserved : state.Conserved) (token : Nat) (placed : token ∈ state.places) :
    token < state.given :=
  List.mem_range.mp (conserved.mem_iff.mp placed)

/-- What a due time rests on stays. -/
theorem due_extends (extension : Extends state next) (token : Nat) (due : UInt64)
    (armed : state.Due token due) : next.Due token due := by
  obtain ⟨delay, now, recorded, read, sum⟩ := armed
  exact ⟨delay, now, extension.delayed recorded, extension.readings read, sum⟩

/-- What a waiting item rests on stays. -/
theorem justified_extends (extension : Extends state next) (item : Item)
    (old : item.token < state.given) (justified : state.Justified item) : next.Justified item := by
  cases item with
  | fn token => exact fun late => extension.failed (justified (extension.fresh token old late))
  | armTimer delay token => exact extension.delayed justified

/-- What a callback that ran rests on stays. -/
theorem in_time_extends (extension : Extends state next) (ran : Ran)
    (old : ran.token < state.given) (inTime : state.InTime ran) : next.InTime ran := by
  intro late
  rcases inTime (extension.fresh ran.token old late) with failed | ⟨due, clock, cause, passed, armed⟩
  · exact Or.inl (extension.failed failed)
  · exact Or.inr ⟨due, clock, cause, passed, due_extends extension ran.token due armed⟩

/-- The obligations of a step: what is new in each place. -/
theorem timely_extends (conserved : state.Conserved) (timely : state.Timely)
    (extension : Extends state next)
    (delayed : ∀ token ∈ next.delayed.map Prod.fst, token < next.given)
    (waiting : ∀ item ∈ next.queue, item ∈ state.queue ∨ next.Justified item)
    (armed : ∀ timer ∈ next.timers, timer ∈ state.timers ∨ next.Due timer.token timer.due)
    (ran : ∀ ran ∈ next.ran, ran ∈ state.ran ∨ next.InTime ran)
    (failed : ∀ token ∈ next.failed,
      token ∈ next.ran.map Ran.token ∨ Item.fn token ∈ next.queue) : next.Timely := by
  refine ⟨delayed, ?_, ?_, ?_, failed⟩
  · intro item member
    rcases waiting item member with old | new
    · have placed : item.token ∈ state.places :=
        List.mem_append_right _ (List.mem_append_left _ (List.mem_map_of_mem old))
      exact justified_extends extension item (token_lt conserved _ placed)
        (timely.waiting item old)
    · exact new
  · intro timer member
    rcases armed timer member with old | new
    · exact due_extends extension _ _ (timely.armed timer old)
    · exact new
  · intro one member
    rcases ran one member with old | new
    · have placed : one.token ∈ state.places := List.mem_append_left _ (List.mem_map_of_mem old)
      exact in_time_extends extension one (token_lt conserved _ placed) (timely.ran one old)
    · exact new

/-- A callback given now was not delayed before. -/
theorem given_not_delayed (timely : state.Timely) :
    state.given ∉ state.delayed.map Prod.fst :=
  fun member => Nat.lt_irrefl _ (timely.delayed state.given member)

/-- The head of the batch is what waits first. -/
theorem queue_cons (item : Item) (batch : List Item) (head : state.phase.batch = item :: batch) :
    state.queue = item :: (batch ++ state.pending) := by
  simp [queue, head]

/-- A step that leaves every callback where it is. -/
theorem timely_still (timely : state.Timely) (counter : Nat) (pending : List Item)
    (posting : List (Thread × Item)) (phase : LoopPhase)
    (same : phase.batch ++ pending = state.queue) :
    Timely { state with counter, pending, posting, phase } where
  delayed := timely.delayed
  waiting := fun item member => timely.waiting item (same ▸ member)
  armed := timely.armed
  ran := timely.ran
  failed := by
    intro token member
    rcases timely.failed token member with ran | waits
    · exact Or.inl ran
    · rw [← same] at waits
      exact Or.inr waits

/-- A step that only adds an item behind the queue. -/
theorem timely_given (conserved : state.Conserved) (timely : state.Timely)
    (extension : Extends state next) (item : Item)
    (delayed : ∀ token ∈ next.delayed.map Prod.fst, token < next.given)
    (failed : next.failed = state.failed) (queue : next.queue = state.queue ++ [item])
    (justified : next.Justified item) (timers : next.timers = state.timers)
    (ran : next.ran = state.ran) : next.Timely := by
  apply timely_extends conserved timely extension delayed
  · intro other member
    rw [queue, List.mem_append, List.mem_singleton] at member
    rcases member with old | rfl
    · exact Or.inl old
    · exact Or.inr justified
  · exact fun timer member => Or.inl (timers ▸ member)
  · exact fun one member => Or.inl (ran ▸ member)
  · intro token member
    rw [failed] at member
    rw [ran, queue]
    exact (timely.failed token member).imp_right (List.mem_append_left _)

/-- A callback that failed waits behind one whose timer is being armed. -/
theorem failed_behind (timely : state.Timely) (delay : Int64) (pick : Nat) (rest : List Item)
    (waiting : state.queue = .armTimer delay pick :: rest) (token : Nat)
    (failed : token ∈ state.failed) :
    token ∈ state.ran.map Ran.token ∨ Item.fn token ∈ rest := by
  rcases timely.failed token failed with ran | waits
  · exact Or.inl ran
  · rw [waiting, List.mem_cons] at waits
    exact Or.inr (waits.resolve_left (by simp))

/-- One more callback has run, in time. -/
theorem in_time_concat (one : Ran) (concat : next.ran = state.ran ++ [one])
    (inTime : next.InTime one) : ∀ ran ∈ next.ran, ran ∈ state.ran ∨ next.InTime ran := by
  intro ran member
  rw [concat, List.mem_append, List.mem_singleton] at member
  rcases member with old | rfl
  · exact Or.inl old
  · exact Or.inr inTime

/-- A post adds an immediate item, which was not delayed. -/
theorem timely_posts (conserved : state.Conserved) (timely : state.Timely) (thread : Thread) :
    Timely { state.push thread (.fn state.given) with given := state.given + 1 } := by
  have extension := extends_moved (.posts thread : Moved state _)
  apply timely_given conserved timely extension (.fn state.given)
  · exact fun token member => Nat.lt_succ_of_lt (timely.delayed token member)
  · rfl
  · simp [queue, push]
  · exact fun late => absurd late (given_not_delayed timely)
  · rfl
  · rfl

/-- A delayed post adds an item on its way to a timer. -/
theorem timely_posts_after (conserved : state.Conserved) (timely : state.Timely) (thread : Thread)
    (delay : Int64) :
    Timely { state.push thread (.armTimer delay state.given) with
      given := state.given + 1
      delayed := state.delayed ++ [(state.given, delay)] } := by
  have extension := extends_moved (.postsAfter thread delay : Moved state _)
  apply timely_given conserved timely extension (.armTimer delay state.given)
  · intro token member
    simp only [List.map_append, List.map_cons, List.map_nil, List.mem_append,
      List.mem_singleton] at member
    rcases member with old | rfl
    · exact Nat.lt_succ_of_lt (timely.delayed token old)
    · exact Nat.lt_succ_self _
  · rfl
  · simp [queue, push]
  · exact List.mem_append_right _ (List.mem_singleton_self _)
  · rfl
  · rfl

/-- A drained callback was not delayed, or had failed. -/
theorem timely_drains (conserved : state.Conserved) (timely : state.Timely) (pick : Nat)
    (batch : List Item) (head : state.phase = .draining (.fn pick :: batch)) :
    Timely { state with ran := state.ran ++ [⟨pick, .drained⟩], phase := .running batch } := by
  have extension := extends_moved (.drains pick batch head)
  have waiting := queue_cons (.fn pick) batch (by rw [head]; rfl)
  have justified : state.Justified (.fn pick) := timely.waiting _ (waiting ▸ List.mem_cons_self)
  apply timely_extends conserved timely extension timely.delayed
  · exact fun item member => Or.inl (waiting ▸ List.mem_cons_of_mem _ member)
  · exact fun timer member => Or.inl member
  · exact in_time_concat ⟨pick, .drained⟩ rfl (fun late => Or.inl (justified late))
  · intro token member
    simp only [List.map_append, List.map_cons, List.map_nil, List.mem_append, List.mem_singleton]
    rcases timely.failed token member with ran | waits
    · exact Or.inl (Or.inl ran)
    · rw [waiting, List.mem_cons, Item.fn.injEq] at waits
      exact waits.imp_left Or.inr

/-- A callback whose clock cannot be read runs, and has failed. -/
theorem timely_unclocked (conserved : state.Conserved) (timely : state.Timely) (delay : Int64)
    (pick : Nat) (batch : List Item) (head : state.phase = .arming delay pick batch) :
    Timely { state with
      ran := state.ran ++ [⟨pick, .clockFailed⟩]
      failed := state.failed ++ [pick]
      phase := .running batch } := by
  have extension := extends_moved (.runsUnclocked delay pick batch head)
  have waiting := queue_cons (.armTimer delay pick) batch (by rw [head]; rfl)
  apply timely_extends conserved timely extension timely.delayed
  · exact fun item member => Or.inl (waiting ▸ List.mem_cons_of_mem _ member)
  · exact fun timer member => Or.inl member
  · exact in_time_concat ⟨pick, .clockFailed⟩ rfl
      (fun _ => Or.inl (List.mem_append_right _ (List.mem_singleton_self _)))
  · intro token member
    simp only [List.map_append, List.map_cons, List.map_nil, List.mem_append, List.mem_singleton]
      at member ⊢
    rcases member with old | rfl
    · exact (failed_behind timely delay pick _ waiting token old).imp_left Or.inl
    · exact Or.inl (Or.inr rfl)

/-- A step that reads the clock leaves every callback where it is. -/
theorem timely_reads (conserved : state.Conserved) (timely : state.Timely) (now : UInt64)
    (delay : Int64) (pick : Nat) (batch : List Item)
    (head : state.phase = .arming delay pick batch) :
    Timely { state with
      readings := state.readings ++ [(pick, delay, now)]
      phase := .adding now delay pick batch } := by
  have extension := extends_moved (.reads now delay pick batch head)
  have same : (LoopPhase.adding now delay pick batch).batch = state.phase.batch := by
    rw [head]
    rfl
  apply timely_extends conserved timely extension timely.delayed
  · exact fun item member => Or.inl (by simpa only [queue, same] using member)
  · exact fun timer member => Or.inl member
  · exact fun ran member => Or.inl member
  · intro token member
    simpa only [queue, same] using timely.failed token member

/-- A timer is armed for the delay its callback was given with, after the clock's reading. -/
theorem timely_arms (conserved : state.Conserved) (read : state.Read) (timely : state.Timely)
    (now : UInt64) (delay : Int64) (pick : Nat) (batch : List Item)
    (head : state.phase = .adding now delay pick batch) :
    Timely { state with
      timers := state.timers ++ [⟨pick, now + delay.toUInt64⟩], phase := .draining batch } := by
  have extension := extends_moved (.arms now delay pick batch head)
  have waiting := queue_cons (.armTimer delay pick) batch (by rw [head]; rfl)
  have justified : state.Justified (.armTimer delay pick) :=
    timely.waiting _ (waiting ▸ List.mem_cons_self)
  apply timely_extends conserved timely extension timely.delayed
  · exact fun item member => Or.inl (waiting ▸ List.mem_cons_of_mem _ member)
  · intro timer member
    rcases List.mem_append.mp member with old | new
    · exact Or.inl old
    · rw [List.mem_singleton] at new
      subst new
      exact Or.inr ⟨delay, now, justified, read now delay pick batch head, rfl⟩
  · exact fun ran member => Or.inl member
  · exact failed_behind timely delay pick _ waiting

/-- A callback whose timer source cannot be had waits as an immediate post, and has
failed. -/
theorem timely_reposts (conserved : state.Conserved) (timely : state.Timely) (now : UInt64)
    (delay : Int64) (pick : Nat) (batch : List Item)
    (head : state.phase = .adding now delay pick batch) :
    Timely { state.push .loop (.fn pick) with
      failed := state.failed ++ [pick], phase := .draining batch } := by
  have extension := extends_moved (.reposts now delay pick batch head)
  have waiting := queue_cons (.armTimer delay pick) batch (by rw [head]; rfl)
  have queued : queue { state.push .loop (.fn pick) with
      failed := state.failed ++ [pick], phase := .draining batch } =
      (batch ++ state.pending) ++ [.fn pick] := by
    simp [queue, push, LoopPhase.batch]
  apply timely_extends conserved timely extension timely.delayed
  · intro item member
    rw [queued, List.mem_append, List.mem_singleton] at member
    rcases member with old | rfl
    · exact Or.inl (waiting ▸ List.mem_cons_of_mem _ old)
    · exact Or.inr fun _ => List.mem_append_right _ (List.mem_singleton_self _)
  · exact fun timer member => Or.inl member
  · exact fun ran member => Or.inl member
  · intro token member
    rw [queued, List.mem_append]
    rcases List.mem_append.mp member with old | new
    · exact (failed_behind timely delay pick _ waiting token old).imp_right Or.inl
    · rw [List.mem_singleton] at new
      exact Or.inr (Or.inr (new ▸ List.mem_singleton_self _))

/-- A timer that fires is due. -/
theorem timely_fires (conserved : state.Conserved) (timely : state.Timely) (timer : Timer)
    (clock : UInt64) (idle : state.phase = .idle) (armed : timer ∈ state.timers)
    (due : timer.due ≤ clock) :
    Timely { state with
      timers := state.timers.erase timer
      ran := state.ran ++ [⟨timer.token, .fired timer.due clock⟩]
      phase := .firing } := by
  have extension := extends_moved (.fires timer clock idle armed due)
  have same : LoopPhase.firing.batch = state.phase.batch := by rw [idle]; rfl
  have expected := due_extends extension _ _ (timely.armed timer armed)
  apply timely_extends conserved timely extension timely.delayed
  · exact fun item member => Or.inl (by simpa only [queue, same] using member)
  · exact fun other member => Or.inl (List.mem_of_mem_erase member)
  · exact in_time_concat ⟨timer.token, .fired timer.due clock⟩ rfl
      (fun _ => Or.inr ⟨timer.due, clock, rfl, due, expected⟩)
  · intro token member
    simp only [List.map_append, List.mem_append]
    rcases timely.failed token member with ran | waits
    · exact Or.inl (Or.inl ran)
    · exact Or.inr (by simpa only [queue, same] using waits)

/-- Every step keeps the delayed callbacks to their time. -/
theorem timely_moved (conserved : state.Conserved) (read : state.Read) (timely : state.Timely)
    (moved : Moved state next) : next.Timely := by
  cases moved with
  | skips => exact timely
  | writes thread => exact timely_still timely _ state.pending _ state.phase rfl
  | posts thread => exact timely_posts conserved timely thread
  | postsAfter thread delay => exact timely_posts_after conserved timely thread delay
  | wakes idle =>
    have same : LoopPhase.woken.batch ++ state.pending = state.queue := by rw [queue, idle]; rfl
    exact timely_still timely 0 state.pending state.posting .woken same
  | swaps woken =>
    have same : (LoopPhase.draining state.pending).batch ++ [] = state.queue := by
      simp [queue, woken, LoopPhase.batch]
    exact timely_still timely state.counter [] state.posting (.draining state.pending) same
  | goesOn phase awake same unread =>
    exact timely_still timely state.counter state.pending state.posting phase (by rw [same]; rfl)
  | drains pick batch head => exact timely_drains conserved timely pick batch head
  | runsUnclocked delay pick batch head =>
    exact timely_unclocked conserved timely delay pick batch head
  | reads now delay pick batch head => exact timely_reads conserved timely now delay pick batch head
  | arms now delay pick batch head =>
    exact timely_arms conserved read timely now delay pick batch head
  | reposts now delay pick batch head =>
    exact timely_reposts conserved timely now delay pick batch head
  | fires timer clock idle armed due => exact timely_fires conserved timely timer clock idle armed due

/-- What every reachable state keeps. -/
structure Sound (state : EventLoopPoster) : Prop where
  conserved : state.Conserved
  woken : state.Woken
  ordered : state.Ordered
  read : state.Read
  timely : state.Timely

/-- The poster starts empty. -/
theorem sound_initial : Sound {} where
  conserved := List.Perm.refl []
  woken := by simp [Woken]
  ordered := rfl
  read := by rintro now delay token batch ⟨⟩
  timely := ⟨by simp, by simp [queue, LoopPhase.batch], by simp, by simp, by simp⟩

/-- Every step keeps the invariant.

Proof: a step moves one callback between the places that own one, or none (`Moved`). -/
theorem sound_step (state : EventLoopPoster) (event : PosterEvent) (next : EventLoopPoster)
    (sound : state.Sound) (stepped : state.step event = some next) : next.Sound := by
  have moved := step_moved state next event stepped
  constructor
  · exact conserved_moved sound.conserved moved
  · exact woken_moved sound.woken moved
  · exact ordered_moved sound.ordered moved
  · exact read_moved sound.read moved
  · exact timely_moved sound.conserved sound.read sound.timely moved

/-- Every reachable state keeps the invariant. -/
theorem sound_reached (events : List PosterEvent) (state : EventLoopPoster)
    (reached : run step {} events = some state) : state.Sound :=
  run_invariant step Sound sound_step events {} state sound_initial reached

/-- No callback is in two places. -/
theorem places_nodup (sound : state.Sound) : state.places.Nodup :=
  sound.conserved.nodup_iff.mpr List.nodup_range

/-- A callback the clock or the timer source failed has run or waits as an
immediate post, once in all. -/
theorem failed_once (sound : state.Sound) (token : Nat) (failed : token ∈ state.failed) :
    (state.ran.map Ran.token).count token + state.queue.count (.fn token) = 1 := by
  have once := List.nodup_iff_count_le_one.mp (places_nodup sound) token
  rw [places, List.count_append, List.count_append] at once
  have within : state.queue.count (.fn token) ≤ (state.queue.map Item.token).count token :=
    List.count_le_count_map (f := Item.token) (x := .fn token)
  have somewhere : 0 < (state.ran.map Ran.token).count token + state.queue.count (.fn token) := by
    rcases sound.timely.failed token failed with ran | waits
    · exact Nat.add_pos_left (List.count_pos_iff.mpr ran) _
    · exact Nat.add_pos_right _ (List.count_pos_iff.mpr waits)
  omega

end EventLoopPoster

end LibreLinux.Agent
