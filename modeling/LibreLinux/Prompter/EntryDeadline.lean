import LibreLinux.Prompter.Service

/-!
# The entry clock of a window

A window with an entry budget closes itself when the budget is used up. Its clock
starts when the window is first shown. Taking the offered switch re-bases the running
clock on the other form's budget, which counts from the same instant; switching back,
or switching again, finds nothing left to grant.

Time is counted in milliseconds, the unit of the budgets and of the timer. The budgets
are below 2 ^ 31, as the toolkit's timer takes a signed 32-bit interval. The instant of
the first show is not the window's: it is recorded beside it.
-/

namespace LibreLinux.Prompter

open Runs Wire

/-- A window of this kind with its clock armed, before it is shown. The alternative
budget is set only where the switch is offered. -/
def armedDialog (kind : Kind) (opts : DialogOptions) (entryBudget altEntryBudget : Nat) :
    PromptDialog :=
  let dialog := PromptDialog.create kind opts
  let armed := dialog.clock.setEntryDeadline entryBudget
  { dialog with
    clock := if opts.offerMrzSwitch then armed.setAlternateEntryDeadline altEntryBudget
      else armed }

/-- What a request raises is such a window, shown. -/
theorem new_dialog_armed (request : RaiseRequest) (now : Nat)
    (offered : request.opts.offerMrzSwitch = request.offerMrzSwitch) :
    newDialog request now =
      (armedDialog request.kind request.opts request.entryBudget request.altEntryBudget).showEvent
        now := by
  rw [newDialog, armedDialog, offered]

/-- A window, the time, and the instant of its first show. -/
structure WindowClock where
  dialog : PromptDialog
  now : Nat
  firstShow : Option Nat := none

/-- What happens to a window before it is answered. -/
inductive ClockEvent where
  | shown
  | advance (elapsed : Nat)
  | swap
  | edit (widget : InputWidget)

namespace WindowClock

/-- One step. The switch is there only where it is offered. -/
def step (state : WindowClock) : ClockEvent → Option WindowClock
  | .shown => (state.dialog.interact (.shown state.now)).map (fun dialog =>
      { state with dialog, firstShow := state.firstShow.or (some state.now) })
  | .advance elapsed => some { state with now := state.now + elapsed }
  | .swap => (state.dialog.interact (.swap state.now)).map (fun dialog => { state with dialog })
  | .edit widget => (state.dialog.interact (.edit widget)).map (fun dialog =>
      { state with dialog })

/-- The deadline in force. -/
def deadline (state : WindowClock) : Option Nat := state.dialog.clock.timer.join

/-- Whether the window's time is over: its timer may fire. -/
def timeOver (state : WindowClock) : Bool := Service.due state.dialog state.now

/-- How a clock with these budgets stands at a time, by the first show. -/
inductive Standing (entryBudget altEntryBudget now : Nat) : Option Nat → EntryClock → Prop
  | unset (firstShow : Option Nat) (clock : EntryClock) (zero : entryBudget = 0)
      (timer : clock.timer = none) : Standing entryBudget altEntryBudget now firstShow clock
  | idle (clock : EntryClock) (positive : 0 < entryBudget) (timer : clock.timer = some none)
      (budget : clock.entryBudget = entryBudget)
      (alternative : clock.altEntryBudget = altEntryBudget ∨ clock.altEntryBudget = 0) :
      Standing entryBudget altEntryBudget now none clock
  | running (shownAt : Nat) (clock : EntryClock) (positive : 0 < entryBudget)
      (timer : clock.timer = some (some (shownAt + clock.entryBudget)))
      (shown : clock.shownAt = shownAt) (past : shownAt ≤ now)
      (budget : clock.entryBudget = entryBudget ∨
        entryBudget < altEntryBudget ∧ clock.entryBudget = altEntryBudget)
      (alternative : clock.altEntryBudget = altEntryBudget ∨ clock.altEntryBudget = 0) :
      Standing entryBudget altEntryBudget now (some shownAt) clock

/-- The clock of a window stands as its first show says. -/
def Sound (entryBudget altEntryBudget : Nat) (state : WindowClock) : Prop :=
  Standing entryBudget altEntryBudget state.now state.firstShow state.dialog.clock

variable {entryBudget altEntryBudget now : Nat} {firstShow : Option Nat} {clock : EntryClock}

/-- An armed window that was not shown stands idle, or has no clock. -/
theorem standing_armed (kind : Kind) (opts : DialogOptions) :
    Standing entryBudget altEntryBudget now none
      (armedDialog kind opts entryBudget altEntryBudget).clock := by
  by_cases unset : entryBudget = 0
  · apply Standing.unset
    · exact unset
    · cases offered : opts.offerMrzSwitch <;> simp [armedDialog, PromptDialog.create,
        EntryClock.setEntryDeadline, EntryClock.setAlternateEntryDeadline, unset, offered]
  · have armed : (armedDialog kind opts entryBudget altEntryBudget).clock.timer = some none ∧
        (armedDialog kind opts entryBudget altEntryBudget).clock.entryBudget = entryBudget ∧
        ((armedDialog kind opts entryBudget altEntryBudget).clock.altEntryBudget = altEntryBudget ∨
          (armedDialog kind opts entryBudget altEntryBudget).clock.altEntryBudget = 0) := by
      cases offered : opts.offerMrzSwitch <;> simp [armedDialog, PromptDialog.create,
        EntryClock.setEntryDeadline, EntryClock.setAlternateEntryDeadline, unset, offered]
    exact .idle _ (by omega) armed.1 armed.2.1 armed.2.2

/-- Time passes without a change of the clock. -/
theorem standing_advance (elapsed : Nat)
    (standing : Standing entryBudget altEntryBudget now firstShow clock) :
    Standing entryBudget altEntryBudget (now + elapsed) firstShow clock := by
  cases standing with
  | unset _ _ zero timer => exact .unset _ _ zero timer
  | idle _ positive timer budget alternative => exact .idle _ positive timer budget alternative
  | running shownAt _ positive timer shown past budget alternative =>
    exact .running shownAt _ positive timer shown (by omega) budget alternative

/-- The first show starts the clock; a later one leaves it alone. -/
theorem standing_shown (standing : Standing entryBudget altEntryBudget now firstShow clock) :
    Standing entryBudget altEntryBudget now (firstShow.or (some now)) (clock.showEvent now) := by
  cases standing with
  | unset _ _ zero timer =>
    apply Standing.unset
    · exact zero
    · simp [EntryClock.showEvent, timer]
  | idle _ positive timer budget alternative =>
    have started : clock.showEvent now =
        { clock with shownAt := now, timer := some (some (now + clock.entryBudget)) } := by
      simp only [EntryClock.showEvent, timer]
    rw [started]
    exact .running now _ positive rfl rfl le_rfl (Or.inl budget) alternative
  | running shownAt _ positive timer shown past budget alternative =>
    have unchanged : clock.showEvent now = clock := by simp only [EntryClock.showEvent, timer]
    rw [unchanged]
    exact .running shownAt _ positive timer shown past budget alternative

/-- A re-based clock stands on the alternative budget, from the first show on. What was
left of that budget when the switch was taken, counted from then, ends at the same
instant. -/
theorem standing_rebased (standing : Standing entryBudget altEntryBudget now firstShow clock) :
    Standing entryBudget altEntryBudget now firstShow
      (clock.rebaseEntryDeadlineOnAlternative now) := by
  cases standing with
  | unset _ _ zero timer =>
    apply Standing.unset
    · exact zero
    · simp [EntryClock.rebaseEntryDeadlineOnAlternative, timer]
  | idle _ positive timer budget alternative =>
    have unchanged : clock.rebaseEntryDeadlineOnAlternative now = clock := by
      simp only [EntryClock.rebaseEntryDeadlineOnAlternative, timer]
    rw [unchanged]
    exact .idle _ positive timer budget alternative
  | running shownAt _ positive timer shown past budget alternative =>
    simp only [EntryClock.rebaseEntryDeadlineOnAlternative, timer]
    by_cases granted : EntryClock.rebasedRemaining clock.entryBudget clock.altEntryBudget
        (now - clock.shownAt) = 0
    · rw [if_pos granted]
      exact .running shownAt _ positive timer shown past budget alternative
    · rw [if_neg granted]
      simp only [EntryClock.rebasedRemaining, ite_eq_left_iff, not_forall] at granted
      obtain ⟨longer, remaining⟩ := granted
      have rebased : EntryClock.rebasedRemaining clock.entryBudget clock.altEntryBudget
          (now - clock.shownAt) = clock.altEntryBudget - (now - clock.shownAt) := by
        simp only [EntryClock.rebasedRemaining, longer, if_false]
      apply Standing.running shownAt
      · exact positive
      · simp only [rebased]
        congr 2
        omega
      · exact shown
      · exact past
      · right
        simp only
        omega
      · exact alternative

/-- What an interaction does to the clock. -/
theorem interact_clock (dialog next : PromptDialog) (action : PromptDialog.Interaction)
    (acted : dialog.interact action = some next) :
    next.clock =
      match action with
      | .edit _ => dialog.clock
      | .swap now => dialog.clock.rebaseEntryDeadlineOnAlternative now
      | .shown now => dialog.clock.showEvent now := by
  cases action with
  | edit widget =>
    simp only [PromptDialog.interact, PromptDialog.edit] at acted
    split_ifs at acted
    exact Option.some.inj acted ▸ rfl
  | swap now =>
    simp only [PromptDialog.interact] at acted
    split_ifs at acted
    exact Option.some.inj acted ▸ rfl
  | shown now => exact Option.some.inj acted ▸ rfl

/-- Every step keeps the standing of the clock. -/
theorem sound_step (state : WindowClock) (event : ClockEvent) (next : WindowClock)
    (sound : Sound entryBudget altEntryBudget state) (stepped : state.step event = some next) :
    Sound entryBudget altEntryBudget next := by
  unfold Sound at sound ⊢
  unfold step at stepped
  cases event with
  | shown =>
    obtain ⟨dialog, acted, rfl⟩ := Option.map_eq_some_iff.mp stepped
    simp only [interact_clock _ _ _ acted]
    exact standing_shown sound
  | advance elapsed =>
    cases stepped
    exact standing_advance elapsed sound
  | swap =>
    obtain ⟨dialog, acted, rfl⟩ := Option.map_eq_some_iff.mp stepped
    simp only [interact_clock _ _ _ acted]
    exact standing_rebased sound
  | edit widget =>
    obtain ⟨dialog, acted, rfl⟩ := Option.map_eq_some_iff.mp stepped
    simp only [interact_clock _ _ _ acted]
    exact sound

/-- The deadline of a window that was shown is its budget, counted from the first show. -/
theorem deadline_eq (state : WindowClock) (shownAt : Nat)
    (sound : Sound entryBudget altEntryBudget state) (positive : 0 < entryBudget)
    (shown : state.firstShow = some shownAt) :
    state.deadline = some (shownAt + state.dialog.clock.entryBudget) ∧
      (state.dialog.clock.entryBudget = entryBudget ∨
        entryBudget < altEntryBudget ∧ state.dialog.clock.entryBudget = altEntryBudget) := by
  unfold Sound at sound
  rw [shown] at sound
  cases sound with
  | unset _ _ zero timer => omega
  | running _ _ positive timer shown past budget alternative =>
    exact ⟨by simp [deadline, timer], budget⟩

/-- A window with a deadline in force has a budget and was shown. -/
theorem deadline_shown (state : WindowClock) (deadline : Nat)
    (sound : Sound entryBudget altEntryBudget state) (inForce : state.deadline = some deadline) :
    0 < entryBudget ∧ ∃ shownAt, state.firstShow = some shownAt := by
  unfold Sound at sound
  rw [WindowClock.deadline] at inForce
  generalize state.firstShow = firstShow at sound
  cases sound with
  | unset _ _ zero timer => simp [timer] at inForce
  | idle _ positive timer budget alternative => simp [timer] at inForce
  | running shownAt _ positive timer shown past budget alternative => exact ⟨positive, shownAt, rfl⟩

/-- A switch never shortens the budget. -/
theorem budget_rebased (clock : EntryClock) (now : Nat) :
    clock.entryBudget ≤ (clock.rebaseEntryDeadlineOnAlternative now).entryBudget := by
  unfold EntryClock.rebaseEntryDeadlineOnAlternative
  split
  · by_cases granted : EntryClock.rebasedRemaining clock.entryBudget clock.altEntryBudget
        (now - clock.shownAt) = 0
    · rw [if_pos granted]
    · rw [if_neg granted]
      simp only [EntryClock.rebasedRemaining, ite_eq_left_iff, not_forall] at granted
      obtain ⟨longer, -⟩ := granted
      exact Nat.le_of_not_le longer
  · exact le_rfl

/-- A show never changes the budget. -/
theorem budget_shown (clock : EntryClock) (now : Nat) :
    (clock.showEvent now).entryBudget = clock.entryBudget := by
  unfold EntryClock.showEvent
  split <;> rfl

/-- No step shortens the budget, and none forgets the first show. -/
theorem step_budget (state next : WindowClock) (event : ClockEvent)
    (stepped : state.step event = some next) :
    state.dialog.clock.entryBudget ≤ next.dialog.clock.entryBudget ∧
      ∀ shownAt, state.firstShow = some shownAt → next.firstShow = some shownAt := by
  unfold step at stepped
  cases event with
  | shown =>
    obtain ⟨dialog, acted, rfl⟩ := Option.map_eq_some_iff.mp stepped
    simp only [interact_clock _ _ _ acted, budget_shown]
    exact ⟨le_rfl, fun shownAt shown => by simp [shown]⟩
  | advance elapsed =>
    cases stepped
    exact ⟨le_rfl, fun _ shown => shown⟩
  | swap =>
    obtain ⟨dialog, acted, rfl⟩ := Option.map_eq_some_iff.mp stepped
    simp only [interact_clock _ _ _ acted]
    exact ⟨budget_rebased _ _, fun _ shown => shown⟩
  | edit widget =>
    obtain ⟨dialog, acted, rfl⟩ := Option.map_eq_some_iff.mp stepped
    simp only [interact_clock _ _ _ acted]
    exact ⟨le_rfl, fun _ shown => shown⟩

/-- No step moves a deadline to an earlier time. -/
theorem deadline_kept (state next : WindowClock) (event : ClockEvent) (deadline : Nat)
    (sound : Sound entryBudget altEntryBudget state) (stepped : state.step event = some next)
    (inForce : state.deadline = some deadline) :
    ∃ later, next.deadline = some later ∧ deadline ≤ later := by
  obtain ⟨positive, shownAt, shown⟩ := deadline_shown state deadline sound inForce
  obtain ⟨longer, remembered⟩ := step_budget state next event stepped
  have here := (deadline_eq state shownAt sound positive shown).1
  have there := (deadline_eq next shownAt (sound_step state event next sound stepped) positive
    (remembered shownAt shown)).1
  rw [here] at inForce
  cases inForce
  exact ⟨_, there, by omega⟩

/-- The time of a window is over exactly when a deadline is in force and has come. -/
theorem time_over_iff (state : WindowClock) :
    state.timeOver = true ↔ ∃ deadline, state.deadline = some deadline ∧ deadline ≤ state.now := by
  unfold timeOver deadline Service.due
  split
  · next at_ timer => simp [timer]
  · next other =>
    cases timer : state.dialog.clock.timer with
    | none => simp
    | some inner =>
      cases inner with
      | none => simp
      | some at_ => exact absurd timer (other at_)

/-- A switch does not end a time that is not over: a deadline that it leaves was in
force before, and not later. -/
theorem swap_in_time (state next : WindowClock) (sound : Sound entryBudget altEntryBudget state)
    (stepped : state.step .swap = some next) (remains : state.timeOver = false) :
    next.timeOver = false := by
  by_contra ended
  obtain ⟨later, inForce, come⟩ := (time_over_iff next).mp (by simpa using ended)
  have swapped := stepped
  obtain ⟨dialog, -, rfl⟩ := Option.map_eq_some_iff.mp swapped
  obtain ⟨positive, shownAt, shown⟩ :=
    deadline_shown _ later (sound_step state .swap _ sound stepped) inForce
  have before := (deadline_eq state shownAt sound positive shown).1
  obtain ⟨same, kept, earlier⟩ := deadline_kept state _ .swap _ sound stepped before
  rw [inForce] at kept
  cases kept
  have already : state.timeOver = true :=
    (time_over_iff state).mpr ⟨_, before, le_trans earlier come⟩
  rw [remains] at already
  cases already

/-- The clock of a window over every sequence of shows, swaps, edits and passing time.
Once a window with a budget was shown, its deadline is the entry budget or the greater
of the two, counted from the first show. No switch and no further show moves it to an
earlier time, and no switch ends a time that was not over. Without a budget there is no
deadline, and the time is never over.

Proof: the deadline is armed by the first show and then only moved by a switch, from the budget of
the shown form to the greater one; `Sound` says which of the two stands. -/
theorem entry_clock (entryBudget altEntryBudget : Fin (2 ^ 31)) (kind : Kind) (opts : DialogOptions)
    (start : Nat) (events : List ClockEvent) (state : WindowClock)
    (reached : run step ⟨armedDialog kind opts entryBudget altEntryBudget, start, none⟩ events =
      some state) :
    (0 < entryBudget.val → ∀ shownAt, state.firstShow = some shownAt →
      ∃ deadline, state.deadline = some deadline ∧
        (deadline = shownAt + entryBudget ∨ deadline = shownAt + max entryBudget.val altEntryBudget)) ∧
    (∀ event next, event = .swap ∨ event = .shown → state.step event = some next →
      ∀ deadline, state.deadline = some deadline →
        ∃ later, next.deadline = some later ∧ deadline ≤ later) ∧
    (∀ next, state.step .swap = some next → state.timeOver = false → next.timeOver = false) ∧
    (entryBudget.val = 0 → state.deadline = none ∧ state.timeOver = false) := by
  have armed : Sound entryBudget altEntryBudget
      ⟨armedDialog kind opts entryBudget altEntryBudget, start, none⟩ := standing_armed kind opts
  have sound : Sound entryBudget altEntryBudget state :=
    run_invariant step (Sound entryBudget altEntryBudget) sound_step events _ state armed reached
  refine ⟨?_, ?_, ?_, ?_⟩
  · intro positive shownAt shown
    obtain ⟨inForce, budget⟩ := deadline_eq state shownAt sound positive shown
    refine ⟨_, inForce, ?_⟩
    omega
  · intro event next _ stepped deadline inForce
    exact deadline_kept state next event deadline sound stepped inForce
  · intro next stepped remains
    exact swap_in_time state next sound stepped remains
  · intro zero
    have none : state.deadline = none := by
      by_contra armed
      obtain ⟨deadline, inForce⟩ := Option.ne_none_iff_exists'.mp armed
      have positive := (deadline_shown state deadline sound inForce).1
      omega
    refine ⟨none, ?_⟩
    by_contra ended
    obtain ⟨deadline, inForce, -⟩ := (time_over_iff state).mp (by simpa using ended)
    rw [none] at inForce
    cases inForce

/-- A CAN window of two minutes that offers the MRZ form for five. -/
def offeringDialog : PromptDialog := armedDialog .can { offerMrzSwitch := true } 120000 300000

/-- It is shown at some time, and switched after nearly all of its two minutes, back,
and over again. -/
def lateSwitches : List ClockEvent :=
  [.advance 50, .shown, .advance 110000, .swap, .advance 20000, .shown, .swap, .swap]

/-- Its deadline is the MRZ form's, counted from the first show. -/
theorem late_switches_deadline :
    ∃ state, run step ⟨offeringDialog, 7, none⟩ lateSwitches = some state ∧
      state.deadline = some (57 + 300000) ∧
      ∃ deadline, state.deadline = some deadline ∧
        (deadline = 57 + 120000 ∨ deadline = 57 + max 120000 300000) := by
  refine ⟨_, rfl, rfl, ?_⟩
  exact (entry_clock ⟨120000, by decide⟩ ⟨300000, by decide⟩ .can { offerMrzSwitch := true } 7
    lateSwitches _ rfl).1 (by decide) 57 rfl

end WindowClock

end LibreLinux.Prompter
