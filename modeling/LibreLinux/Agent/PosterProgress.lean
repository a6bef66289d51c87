import LibreLinux.Agent.PosterCustody

/-!
# What becomes of a posted callback

From every reachable state the loop gets to every callback that was given and has not
run: it ends what it is at, wakes when something is pending, drains, and fires the
timers. Nothing else is needed than that a thread between push and write goes on.

The history that the poster keeps is that of the steps: a callback was delayed by its
`postAfter`, the clock was read for it while its timer was being armed, and it fell
back to an immediate run where the clock or the timer source was not to be had.
-/

namespace LibreLinux.Agent

open Runs

/-- Whether the step gives a callback. -/
def PosterEvent.gives : PosterEvent → Bool
  | .post _ _ => true
  | .postAfter _ _ _ => true
  | _ => false

/-- Whether the step is one of the loop other than reading the eventfd. -/
def PosterEvent.fromLoop : PosterEvent → Bool
  | .post _ _ => false
  | .postAfter _ _ _ => false
  | .write _ => false
  | .readEventfd => false
  | _ => true

namespace EventLoopPoster

variable {state next : EventLoopPoster}

/-! ## The loop gets to it -/

/-- A step that gives no callback. The loop reads the eventfd when it is readable. -/
def Onward (state : EventLoopPoster) (event : PosterEvent) : Prop :=
  event.gives = false ∧ (event = .readEventfd → 0 < state.counter)

/-- The loop and the threads in the middle of a post lead on from one state to another. -/
def LeadsOn (state later : EventLoopPoster) : Prop := Leads step Onward state later

/-- The loop waits for events. -/
def Rested (state : EventLoopPoster) : Prop := state.phase = .idle ∧ state.isPosting .loop = false

/-- A callback that has run, or is owned by a timer. -/
def Owned (state : EventLoopPoster) (token : Nat) : Prop :=
  token ∈ state.ran.map Ran.token ∨ token ∈ state.timers.map Timer.token

/-- No step takes back a given callback. -/
theorem given_step (state : EventLoopPoster) (event : PosterEvent) (next : EventLoopPoster)
    (stepped : state.step event = some next) : state.given ≤ next.given := by
  cases step_moved state next event stepped with
  | posts thread => exact Nat.le_succ _
  | postsAfter thread delay => exact Nat.le_succ _
  | _ => exact Nat.le_refl _

/-- What follows is sound, and the callback is still one that was given. -/
theorem sound_leads (later : EventLoopPoster) (token : Nat) (sound : state.Sound)
    (given : token < state.given) (leads : state.LeadsOn later) :
    later.Sound ∧ token < later.given := by
  obtain ⟨events, -, completed⟩ := leads
  exact ⟨run_invariant step Sound sound_step events state later sound completed,
    Nat.lt_of_lt_of_le given
      (run_grows step EventLoopPoster.given given_step events state later completed)⟩

/-- A step of the loop that is not in a post. -/
theorem loop_step (event : PosterEvent) (free : state.isPosting .loop = false)
    (loops : event.fromLoop = true) :
    state.step event = state.advance state.phase event ∧ state.Onward event := by
  cases event with
  | post => cases loops
  | postAfter => cases loops
  | write => cases loops
  | readEventfd => cases loops
  | _ => simp [step, free, Onward, PosterEvent.gives]

/-- A step of the loop, and what it leads to. -/
theorem leads_advance (next later : EventLoopPoster) (event : PosterEvent)
    (free : state.isPosting .loop = false) (loops : event.fromLoop = true)
    (advanced : state.advance state.phase event = some next) (leads : next.LeadsOn later) :
    state.LeadsOn later := by
  obtain ⟨stepped, onward⟩ := loop_step event free loops
  exact leads_step _ _ _ _ _ event onward (stepped.trans advanced) leads

/-- The loop thread ends its post. -/
theorem leads_written (state : EventLoopPoster) :
    ∃ later, state.LeadsOn later ∧ later.isPosting .loop = false ∧ later.phase = state.phase := by
  cases posting : state.isPosting .loop with
  | false => exact ⟨state, leads_refl _ _ _, posting, rfl⟩
  | true =>
    have stepped : state.step (.write .loop) = some (state.write .loop) := by simp [step, posting]
    refine ⟨state.write .loop, leads_step _ _ _ _ _ (.write .loop) ⟨rfl, by simp⟩ stepped
      (leads_refl _ _ _), ?_, rfl⟩
    simp [isPosting, write]

/-- The loop drains its batch: each callback has run then, or a timer owns it.

Induct over the batch; a delayed callback takes a reading of the clock and its timer. -/
theorem leads_drained (batch : List Item) (state : EventLoopPoster)
    (draining : state.phase = .draining batch) (free : state.isPosting .loop = false) :
    ∃ later, state.LeadsOn later ∧ later.Rested ∧ (∀ token, state.Owned token → later.Owned token) ∧
      ∀ item ∈ batch, later.Owned item.token := by
  induction batch generalizing state with
  | nil =>
    refine ⟨{ state with phase := .idle }, ?_, ⟨rfl, free⟩, fun _ owned => owned, by simp⟩
    exact leads_advance _ _ .next free rfl (by rw [draining]; rfl) (leads_refl _ _ _)
  | cons item batch inductionHypothesis =>
    cases item with
    | fn pick =>
      obtain ⟨later, leads, rested, kept, each⟩ := inductionHypothesis
        { state with ran := state.ran ++ [⟨pick, .drained⟩], phase := .draining batch } rfl free
      refine ⟨later, ?_, rested, fun token owned => kept token (owned.imp_left ?_), ?_⟩
      · refine leads_advance { state with
          ran := state.ran ++ [⟨pick, .drained⟩], phase := .running batch } _ .next free rfl ?_
          (leads_advance _ _ .returned free rfl rfl leads)
        rw [draining]
        rfl
      · intro earlier
        simp [earlier]
      · exact List.forall_mem_cons.mpr ⟨kept pick (Or.inl (by simp)), each⟩
    | armTimer delay pick =>
      obtain ⟨later, leads, rested, kept, each⟩ := inductionHypothesis
        { state with
          readings := state.readings ++ [(pick, delay, 0)]
          timers := state.timers ++ [⟨pick, 0 + delay.toUInt64⟩]
          phase := .draining batch } rfl free
      refine ⟨later, ?_, rested, fun token owned => kept token (owned.imp_right ?_), ?_⟩
      · refine leads_advance { state with phase := .arming delay pick batch } _ .next free rfl ?_
          (leads_advance _ _ (.now (some 0)) free rfl rfl
            (leads_advance _ _ (.addTime true) free rfl rfl leads))
        rw [draining]
        rfl
      · intro earlier
        simp [earlier]
      · exact List.forall_mem_cons.mpr ⟨kept pick (Or.inr (by simp)), each⟩

/-- Whatever the loop is at, it gets back to waiting for events. -/
theorem leads_rested (state : EventLoopPoster) : ∃ later, state.LeadsOn later ∧ later.Rested := by
  obtain ⟨written, leads, free, -⟩ := leads_written state
  have onwards : ∃ later, written.LeadsOn later ∧ later.Rested := by
    cases phase : written.phase with
    | idle => exact ⟨written, leads_refl _ _ _, phase, free⟩
    | woken =>
      obtain ⟨later, drained, rested, -⟩ := leads_drained written.pending
        { written with pending := [], phase := .draining written.pending } rfl free
      exact ⟨later, leads_advance _ _ .swap free rfl (by rw [phase]; rfl) drained, rested⟩
    | draining batch =>
      obtain ⟨later, drained, rested, -⟩ := leads_drained batch written phase free
      exact ⟨later, drained, rested⟩
    | running batch =>
      obtain ⟨later, drained, rested, -⟩ := leads_drained batch
        { written with phase := .draining batch } rfl free
      exact ⟨later, leads_advance _ _ .returned free rfl (by rw [phase]; rfl) drained, rested⟩
    | firing =>
      exact ⟨{ written with phase := .idle },
        leads_advance _ _ .returned free rfl (by rw [phase]; rfl) (leads_refl _ _ _), rfl, free⟩
    | arming delay token batch =>
      obtain ⟨later, drained, rested, -⟩ := leads_drained batch
        { written with
          readings := written.readings ++ [(token, delay, 0)]
          timers := written.timers ++ [⟨token, 0 + delay.toUInt64⟩]
          phase := .draining batch } rfl free
      refine ⟨later, leads_advance { written with
        readings := written.readings ++ [(token, delay, 0)]
        phase := .adding 0 delay token batch } _ (.now (some 0)) free rfl (by rw [phase]; rfl) ?_,
        rested⟩
      exact leads_advance _ _ (.addTime true) free rfl rfl drained
    | adding now delay token batch =>
      obtain ⟨later, drained, rested, -⟩ := leads_drained batch
        { written with
          timers := written.timers ++ [⟨token, now + delay.toUInt64⟩]
          phase := .draining batch } rfl free
      exact ⟨later, leads_advance _ _ (.addTime true) free rfl (by rw [phase]; rfl) drained, rested⟩
  obtain ⟨later, further, rested⟩ := onwards
  exact ⟨later, leads_trans _ _ _ _ _ leads further, rested⟩

/-- A timer's callback runs when the timer is due. -/
theorem owned_runs (token : Nat) (rested : state.Rested) (owned : state.Owned token) :
    ∃ later, state.LeadsOn later ∧ token ∈ later.ran.map Ran.token := by
  rcases owned with ran | armed
  · exact ⟨state, leads_refl _ _ _, ran⟩
  · obtain ⟨timer, member, rfl⟩ := List.mem_map.mp armed
    refine ⟨{ state with
      timers := state.timers.erase timer
      ran := state.ran ++ [⟨timer.token, .fired timer.due timer.due⟩]
      phase := .firing }, ?_, by simp⟩
    refine leads_advance _ _ (.fire timer timer.due) rested.2 rfl ?_ (leads_refl _ _ _)
    rw [rested.1, advance, if_pos ⟨member, UInt64.le_refl _⟩]

/-- What is pending when the eventfd is readable has run after the next drain, or a timer owns
it. -/
theorem readable_drained (state : EventLoopPoster) (item : Item) (rested : state.Rested)
    (readable : 0 < state.counter) (pending : item ∈ state.pending) :
    ∃ later, state.LeadsOn later ∧ later.Rested ∧ later.Owned item.token := by
  obtain ⟨idle, free⟩ := rested
  obtain ⟨later, drained, again, -, each⟩ := leads_drained state.pending
    { state with counter := 0, pending := [], phase := .draining state.pending } rfl free
  have read : state.step .readEventfd = some { state with counter := 0, phase := .woken } := by
    simp [step, free, idle, advance]
  refine ⟨later, ?_, again, each item pending⟩
  exact leads_step _ _ _ _ _ .readEventfd ⟨rfl, fun _ => readable⟩ read
    (leads_advance _ _ .swap free rfl rfl drained)

/-- A pending callback has run after the next drain, or a timer owns it.

Proof: the eventfd is readable, or the thread that pushed has yet to write it. -/
theorem pending_drained (item : Item) (sound : state.Sound) (rested : state.Rested)
    (pending : item ∈ state.pending) :
    ∃ later, state.LeadsOn later ∧ later.Rested ∧ later.Owned item.token := by
  rcases sound.woken item pending with readable | ⟨thread, posting⟩ | asleep
  · exact readable_drained state item rested readable pending
  · have stepped : state.step (.write thread) = some (state.write thread) := by
      have between : state.isPosting thread = true :=
        List.any_eq_true.mpr ⟨(thread, item), posting, by simp⟩
      simp [step, between]
    have free : (state.write thread).isPosting .loop = false := by
      have before := rested.2
      simp only [isPosting, List.any_eq_false] at before ⊢
      exact fun post member => before post (List.mem_of_mem_filter member)
    obtain ⟨later, leads, again, owned⟩ := readable_drained (state.write thread) item
      ⟨rested.1, free⟩ (write_counter_pos state thread) pending
    exact ⟨later, leads_step _ _ _ _ _ (.write thread) ⟨rfl, by simp⟩ stepped leads, again, owned⟩
  · rw [rested.1] at asleep
    cases asleep

/-- The loop gets to every callback that was given. -/
theorem given_runs (token : Nat) (sound : state.Sound) (given : token < state.given) :
    ∃ later, state.LeadsOn later ∧ token ∈ later.ran.map Ran.token := by
  obtain ⟨rested, toRest, rests⟩ := leads_rested state
  obtain ⟨soundRested, givenRested⟩ := sound_leads rested token sound given toRest
  have placed : token ∈ rested.places :=
    soundRested.conserved.mem_iff.mpr (List.mem_range.mpr givenRested)
  have owned : ∃ later, rested.LeadsOn later ∧ later.Rested ∧ later.Owned token := by
    simp only [places, queue, rests.1, LoopPhase.batch, List.nil_append, List.mem_append] at placed
    rcases placed with ran | pending | armed
    · exact ⟨rested, leads_refl _ _ _, rests, Or.inl ran⟩
    · obtain ⟨item, member, rfl⟩ := List.mem_map.mp pending
      exact pending_drained item soundRested rests member
    · exact ⟨rested, leads_refl _ _ _, rests, Or.inr armed⟩
  obtain ⟨later, toLater, again, owned⟩ := owned
  obtain ⟨final, toFinal, ran⟩ := owned_runs token again owned
  exact ⟨final, leads_trans _ _ _ _ _ toRest (leads_trans _ _ _ _ _ toLater toFinal), ran⟩

/-! ## The history is that of the steps -/

/-- The step gives the callback with a delay. -/
def Delays (taken : EventLoopPoster × PosterEvent) (token : Nat) (delay : Int64) : Prop :=
  ∃ thread, taken.2 = .postAfter thread delay true ∧ ¬ delay ≤ 0 ∧ token = taken.1.given

/-- The step reads the clock for the callback's timer. -/
def ReadsClock (taken : EventLoopPoster × PosterEvent) (token : Nat) (delay : Int64) (now : UInt64) :
    Prop :=
  taken.2 = .now (some now) ∧ ∃ batch, taken.1.phase = .arming delay token batch

/-- In the step the clock cannot be read for the callback's timer, or the timer source is not to
be had. -/
def FallsBack (taken : EventLoopPoster × PosterEvent) (token : Nat) : Prop :=
  (taken.2 = .now none ∧ ∃ delay batch, taken.1.phase = .arming delay token batch) ∨
    (taken.2 = .addTime false ∧ ∃ now delay batch, taken.1.phase = .adding now delay token batch)

/-- The history the poster keeps is that of the steps. -/
structure Remembered (past : List (EventLoopPoster × PosterEvent)) (state : EventLoopPoster) :
    Prop where
  delayed : ∀ token delay, (token, delay) ∈ state.delayed ↔ ∃ taken ∈ past, Delays taken token delay
  readings : ∀ token delay now,
    (token, delay, now) ∈ state.readings ↔ ∃ taken ∈ past, ReadsClock taken token delay now
  failed : ∀ token, token ∈ state.failed ↔ ∃ taken ∈ past, FallsBack taken token

/-- What the history is behind a step. -/
structure Adds (taken : EventLoopPoster × PosterEvent) (next : EventLoopPoster) : Prop where
  delayed : ∀ token delay, (token, delay) ∈ next.delayed ↔
    (token, delay) ∈ taken.1.delayed ∨ Delays taken token delay
  readings : ∀ token delay now, (token, delay, now) ∈ next.readings ↔
    (token, delay, now) ∈ taken.1.readings ∨ ReadsClock taken token delay now
  failed : ∀ token, token ∈ next.failed ↔ token ∈ taken.1.failed ∨ FallsBack taken token

/-- What a post adds. -/
theorem post_adds (thread : Thread) (fn : Bool) :
    Adds (state, .post thread fn) (state.post thread fn) := by
  unfold post
  split_ifs <;> constructor <;> simp [Delays, ReadsClock, FallsBack, push]

/-- What a delayed post adds. -/
theorem post_after_adds (thread : Thread) (delay : Int64) (fn : Bool) :
    Adds (state, .postAfter thread delay fn) (state.postAfter thread delay fn) := by
  cases fn with
  | false => constructor <;> simp [Delays, ReadsClock, FallsBack, postAfter]
  | true =>
    by_cases late : delay ≤ 0
    · constructor
      · intro token other
        have none : ¬ Delays (state, .postAfter thread delay true) token other := by
          rintro ⟨poster, same, positive, -⟩
          cases same
          exact positive late
        simp [postAfter, post, push, late, none]
      all_goals simp [ReadsClock, FallsBack, postAfter, post, push, late]
    · constructor
      · intro token other
        have one : Delays (state, .postAfter thread delay true) token other ↔
            token = state.given ∧ other = delay := by
          constructor
          · rintro ⟨poster, same, -, given⟩
            cases same
            exact ⟨given, rfl⟩
          · rintro ⟨rfl, rfl⟩
            exact ⟨thread, rfl, late, rfl⟩
        simp [postAfter, push, late, one]
      all_goals simp [ReadsClock, FallsBack, postAfter, push, late]

/-- What a step of the loop adds. -/
theorem advance_adds (event : PosterEvent) (stepped : state.advance state.phase event = some next) :
    Adds (state, event) next := by
  unfold advance at stepped
  split at stepped
  case h_8 delay pick batch now phase =>
    cases stepped
    constructor
    · simp [Delays]
    · intro token other clock
      have one : ReadsClock (state, .now (some now)) token other clock ↔
          token = pick ∧ other = delay ∧ clock = now := by
        simp only [ReadsClock, phase]
        grind
      simp [one]
    · simp [FallsBack]
  case h_11 timer clock phase =>
    split_ifs at stepped
    cases stepped
    constructor <;> simp [Delays, ReadsClock, FallsBack]
  case h_13 => cases stepped
  all_goals
    rename_i phase
    cases stepped
    constructor <;> simp [Delays, ReadsClock, FallsBack, push, phase, eq_comm]

/-- What a step adds to the history. -/
theorem step_adds (state next : EventLoopPoster) (event : PosterEvent)
    (stepped : state.step event = some next) : Adds (state, event) next := by
  cases event with
  | post thread fn =>
    simp only [step] at stepped
    split_ifs at stepped
    cases stepped
    exact post_adds thread fn
  | postAfter thread delay fn =>
    simp only [step] at stepped
    split_ifs at stepped
    cases stepped
    exact post_after_adds thread delay fn
  | write thread =>
    simp only [step] at stepped
    split_ifs at stepped
    cases stepped
    constructor <;> simp [Delays, ReadsClock, FallsBack, write]
  | _ =>
    simp only [step] at stepped
    split_ifs at stepped
    exact advance_adds _ stepped

/-- Every step keeps the history. -/
theorem remembered_step (past : List (EventLoopPoster × PosterEvent)) (state : EventLoopPoster)
    (event : PosterEvent) (next : EventLoopPoster) (remembered : Remembered past state)
    (stepped : state.step event = some next) : Remembered (past ++ [(state, event)]) next := by
  obtain ⟨delayed, readings, failed⟩ := step_adds state next event stepped
  constructor
  · intro token delay
    simp [delayed, remembered.delayed]
  · intro token delay now
    simp [readings, remembered.readings]
  · intro token
    simp [failed, remembered.failed]

/-- In every reachable state the history is that of the steps. -/
theorem reached_remembered (events : List PosterEvent) (state : EventLoopPoster)
    (reached : run step {} events = some state) : Remembered (trace step {} events) state :=
  trace_invariant step Remembered remembered_step events {} state
    ⟨by simp, by simp, by simp⟩ reached

/-! ## Nothing is lost -/

/-- The time a delayed callback is due: its delay after the clock's reading for its timer, both
among the steps. -/
def DueAt (past : List (EventLoopPoster × PosterEvent)) (token : Nat) (due : UInt64) : Prop :=
  ∃ delay now, (∃ taken ∈ past, Delays taken token delay) ∧
    (∃ taken ∈ past, ReadsClock taken token delay now) ∧ due = now + delay.toUInt64

/-- What the loop does with the callback whose turn it is: it runs a drained one and one whose
timer is due, it runs one whose clock cannot be read in that step, and it posts one whose timer
source is not to be had. -/
structure Served (state : EventLoopPoster) : Prop where
  drained : ∀ token batch, state.phase = .draining (.fn token :: batch) →
    ∃ next, state.step .next = some next ∧ next.ran = state.ran ++ [⟨token, .drained⟩]
  due : state.phase = .idle → ∀ timer ∈ state.timers, ∀ clock, timer.due ≤ clock →
    ∃ next, state.step (.fire timer clock) = some next ∧
      next.ran = state.ran ++ [⟨timer.token, .fired timer.due clock⟩]
  unclocked : ∀ delay token batch, state.phase = .arming delay token batch →
    ∃ next, state.step (.now none) = some next ∧ next.ran = state.ran ++ [⟨token, .clockFailed⟩]
  unsourced : ∀ now delay token batch, state.phase = .adding now delay token batch →
    ∃ next, state.step (.addTime false) = some next ∧
      next.pending = state.pending ++ [.fn token] ∧ (.loop, .fn token) ∈ next.posting

/-- A loop that is not in a post serves the callback whose turn it is. -/
theorem served_free (free : state.isPosting .loop = false) : state.Served where
  drained token batch phase := ⟨_, by simp only [step, free, phase, advance]; rfl, rfl⟩
  due phase timer armed clock passed :=
    ⟨_, by simp only [step, free, phase, advance, if_pos (And.intro armed passed)]; rfl, rfl⟩
  unclocked delay token batch phase := ⟨_, by simp only [step, free, phase, advance]; rfl, rfl⟩
  unsourced now delay token batch phase :=
    ⟨_, by simp only [step, free, phase, advance]; rfl, rfl, by simp [push]⟩

/-- What is due by the history is due by the steps. -/
theorem due_remembered (past : List (EventLoopPoster × PosterEvent)) (token : Nat) (due : UInt64)
    (remembered : Remembered past state) (armed : state.Due token due) : DueAt past token due := by
  obtain ⟨delay, now, delayed, read, sum⟩ := armed
  exact ⟨delay, now, (remembered.delayed token delay).mp delayed,
    (remembered.readings token delay now).mp read, sum⟩

/-- The poster loses nothing, in every interleaving of posts, drains, timers and
callbacks that post. A callback runs at most once. One that has not run is pending
with a wakeup, in the batch being drained, or owned by a timer armed for its time.
Immediate posts run in the order of their pushes. A delayed callback runs when its
timer is due, unless the clock or its timer source failed; then it still runs once.
The loop runs the callback whose turn it is, and gets to every one that was given.

Proof: each step moves a callback from one place to the next, so the places are a
permutation of the callbacks given; what is pending has a wakeup; and the loop ends
what it is at, wakes, drains and fires. -/
theorem nothing_lost (events : List PosterEvent) (state : EventLoopPoster)
    (reached : run step {} events = some state) :
    (state.ran.map Ran.token).Nodup ∧
    (∀ token < state.given, token ∉ state.ran.map Ran.token →
      (∃ item ∈ state.pending, item.token = token ∧
        (0 < state.counter ∨ (∃ thread, (thread, item) ∈ state.posting) ∨ state.phase = .woken)) ∨
      (∃ item ∈ state.phase.batch, item.token = token) ∨
      ∃ timer ∈ state.timers, timer.token = token ∧ DueAt (trace step {} events) token timer.due) ∧
    state.ran.filterMap Ran.immediate <+: state.pushed.filterMap Item.immediate ∧
    (∀ ran ∈ state.ran, ∀ taken ∈ trace step {} events, ∀ delay, Delays taken ran.token delay →
      (∃ taken ∈ trace step {} events, FallsBack taken ran.token) ∨
      ∃ due clock, ran.cause = .fired due clock ∧ due ≤ clock ∧
        DueAt (trace step {} events) ran.token due) ∧
    (∀ taken ∈ trace step {} events, ∀ token, FallsBack taken token →
      (state.ran.map Ran.token).count token + state.queue.count (.fn token) = 1) ∧
    (state.isPosting .loop = false → state.Served) ∧
    ∀ token < state.given, ∃ later, state.LeadsOn later ∧ token ∈ later.ran.map Ran.token := by
  have sound := sound_reached events state reached
  have remembered := reached_remembered events state reached
  refine ⟨?_, ?_, ?_, ?_, ?_, served_free, fun token => given_runs token sound⟩
  · exact (List.nodup_append.mp (places_nodup sound)).1
  · intro token given waits
    have placed : token ∈ state.places := sound.conserved.mem_iff.mpr (List.mem_range.mpr given)
    simp only [places, queue, List.map_append, List.mem_append] at placed
    rcases placed.resolve_left waits with (batched | pending) | armed
    · exact Or.inr (Or.inl (List.mem_map.mp batched))
    · obtain ⟨item, member, same⟩ := List.mem_map.mp pending
      exact Or.inl ⟨item, member, same, sound.woken item member⟩
    · obtain ⟨timer, member, rfl⟩ := List.mem_map.mp armed
      exact Or.inr (Or.inr ⟨timer, member, rfl,
        due_remembered _ timer.token timer.due remembered (sound.timely.armed timer member)⟩)
  · exact ⟨_, sound.ordered.symm⟩
  · intro ran member taken step delay delays
    have delayed := (remembered.delayed ran.token delay).mpr ⟨taken, step, delays⟩
    rcases sound.timely.ran ran member (List.mem_map_of_mem delayed) with
      failed | ⟨due, clock, cause, passed, armed⟩
    · exact Or.inl ((remembered.failed ran.token).mp failed)
    · exact Or.inr ⟨due, clock, cause, passed, due_remembered _ ran.token due remembered armed⟩
  · intro taken step token fell
    exact failed_once sound token ((remembered.failed token).mpr ⟨taken, step, fell⟩)

/-- A callback posted while the loop is between read and swap, a delayed one whose timer
source cannot be had, and one whose timer is armed. -/
def postedWhileWaking : List PosterEvent :=
  [.postAfter (.other 0) 5 true, .write (.other 0), .readEventfd, .post (.other 1) true, .swap,
    .next, .now (some 10), .addTime false, .write .loop, .next, .returned, .next, .write (.other 1),
    .postAfter (.other 0) 7 true, .write (.other 0), .readEventfd, .swap, .next, .returned, .next,
    .now (some 20), .addTime true]

/-- The first delayed callback was posted instead and ran once, the second has a timer for its
time. -/
theorem posted_while_waking_once :
    ∃ state, run step {} postedWhileWaking = some state ∧ state.ran.map Ran.token = [1, 0] ∧
      (state.ran.map Ran.token).count 0 + state.queue.count (.fn 0) = 1 ∧
      ∃ timer ∈ state.timers, timer.due = 27 ∧ DueAt (trace step {} postedWhileWaking) 2 timer.due ∧
        ∃ later, state.LeadsOn later ∧ 2 ∈ later.ran.map Ran.token := by
  have completes : (run step {} postedWhileWaking).isSome = true := by decide +kernel
  have reached := (Option.some_get completes).symm
  obtain ⟨-, places, -, -, once, -, runs⟩ := nothing_lost postedWhileWaking _ reached
  obtain ⟨taken, member, fell⟩ :=
    ((reached_remembered postedWhileWaking _ reached).failed 0).mp (List.mem_singleton_self 0)
  refine ⟨_, reached, rfl, once taken member 0 fell, ⟨2, 27⟩, List.mem_singleton_self _, rfl, ?_,
    runs 2 (Nat.lt_succ_self 2)⟩
  rcases places 2 (Nat.lt_succ_self 2) (show 2 ∉ [1, 0] by decide) with
    ⟨item, pending, -⟩ | ⟨item, batched, -⟩ | ⟨timer, armed, -, due⟩
  · cases pending
  · cases batched
  · rw [List.mem_singleton.mp armed] at due
    exact due

end EventLoopPoster

end LibreLinux.Agent
