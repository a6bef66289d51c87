import LibreLinux.Lib.Runs
import LibreLinux.Prompter.Registry
import Mathlib.Algebra.Group.Nat.Defs

/-!
# The registry over whole runs

The registry is used by three mutating operations, in any order: a window is added, one is
taken by its handle, or all are taken.

A run is compared with the registrations it made, each an issued handle with the entry it was
issued for. What is live is always a part of them, in their order, and the vectors stay
aligned. Only where the counter of handles matters does it have to be below its limit: as long
as fewer than `2 ^ 64` windows were ever registered, handles increase, none is issued twice,
and a prompt id leads to the entry that carries it.
-/

namespace LibreLinux.Prompter

open Runs

/-- A mutating operation of the registry. -/
inductive RegistryCall where
  | add (window : Option WindowId) (ownerPid : Pid) (promptId : String)
  | take (handle : Handle)
  | takeAll
deriving DecidableEq, Repr

namespace PromptRegistry

/-- Perform an operation. None is ever refused a turn. -/
def call (registry : PromptRegistry) : RegistryCall → Option PromptRegistry
  | .add window ownerPid promptId => some (registry.add window ownerPid promptId).2
  | .take handle => some (registry.take handle).2
  | .takeAll => some registry.takeAll.2

/-- What an operation registers: the handle it issues and the entry it issues it for. -/
def registered (registry : PromptRegistry) : RegistryCall → Option (Handle × Entry)
  | .add (some window) ownerPid promptId =>
    (registry.add (some window) ownerPid promptId).1.map
      (fun handle => (handle, ⟨window, ownerPid, promptId⟩))
  | _ => none

/-- What a run has registered. -/
def registrations (past : List (PromptRegistry × RegistryCall)) : List (Handle × Entry) :=
  past.filterMap (fun performed => performed.1.registered performed.2)

variable {registry : PromptRegistry} {past : List (PromptRegistry × RegistryCall)}

/-- One more operation, with what it registers. -/
theorem registrations_snoc (performed : RegistryCall) :
    registrations (past ++ [(registry, performed)]) =
      registrations past ++ (registry.registered performed).toList := by
  cases made : registry.registered performed <;> simp [registrations, made]

/-- An addition keeps the record. -/
theorem recorded_add (window : Option WindowId) (ownerPid : Pid) (promptId : String)
    (recorded : registry.Recorded (registrations past)) :
    (registry.add window ownerPid promptId).2.Recorded
      (registrations (past ++ [(registry, .add window ownerPid promptId)])) := by
  rw [registrations_snoc]
  cases window with
  | none => simpa [add, registered] using recorded
  | some shown =>
    cases claimed : registry.findByPromptId promptId with
    | some handle =>
      have refused := add_claimed recorded.aligned shown ownerPid promptId handle claimed
      simpa [registered, refused] using recorded
    | none =>
      obtain ⟨next, added, aligned, counter, live⟩ :=
        add_fresh recorded.aligned shown ownerPid promptId claimed
      simpa [registered, added] using recorded_more recorded next _ aligned counter live

/-- Every operation keeps the record. -/
theorem recorded_call (past : List (PromptRegistry × RegistryCall)) (registry : PromptRegistry)
    (performed : RegistryCall) (next : PromptRegistry)
    (recorded : registry.Recorded (registrations past))
    (stepped : registry.call performed = some next) :
    next.Recorded (registrations (past ++ [(registry, performed)])) := by
  cases performed with
  | add window ownerPid promptId =>
    cases stepped
    exact recorded_add window ownerPid promptId recorded
  | take handle =>
    cases stepped
    rw [registrations_snoc]
    simpa [registered] using recorded_take handle recorded
  | takeAll =>
    cases stepped
    rw [registrations_snoc]
    simpa [registered] using
      recorded_fewer recorded registry.takeAll.2 ⟨rfl, List.Pairwise.nil⟩ rfl (List.nil_sublist _)

/-- Below the counter's limit a live handle stands for the one entry it was issued for. -/
theorem find_issued {made : List (Handle × Entry)} (recorded : registry.Recorded made)
    (below : made.length < 2 ^ 64) (handle : Handle) (entry : Entry)
    (issued : (handle, entry) ∈ made) (member : handle ∈ registry.handles) :
    registry.find handle = some entry := by
  rw [← live_handles recorded.aligned] at member
  obtain ⟨⟨other, shown⟩, live, rfl⟩ := List.mem_map.mp member
  cases issued_once recorded below other shown entry (recorded.kept.mem live) issued
  exact (find_iff recorded.aligned (handles_distinct recorded below) other entry).mpr live

/-- The registry after every sequence of operations. Its vectors have one length and live
prompt ids are distinct; what is live was registered, in this order. A refused registration
and a take of an unknown handle change nothing; a take of a live handle returns an entry that
the handle was issued for and removes this one association; taking all leaves none. As long as
fewer than `2 ^ 64` windows were registered, the issued handles strictly increase, and so do
the live ones, each stands for the one entry it was issued for, and a prompt id leads to the
entry that carries it.

The record of the registrations made is the invariant: an addition extends it at its end, and
the other operations only let go of what is live. -/
theorem registry_represented (calls : List RegistryCall) (registry : PromptRegistry)
    (reached : run call {} calls = some registry) :
    (registry.entries.length = registry.handles.length ∧ Named registry.entries ∧
      registry.live.Sublist (registrations (trace call {} calls))) ∧
    (∀ window ownerPid promptId, (registry.add window ownerPid promptId).1 = none →
      (registry.add window ownerPid promptId).2 = registry) ∧
    (∀ handle, registry.find handle = none → registry.take handle = (none, registry)) ∧
    (∀ handle entry, registry.find handle = some entry →
      (registry.take handle).1 = some entry ∧
      (handle, entry) ∈ registrations (trace call {} calls) ∧
      ∃ before after, registry.live = before ++ (handle, entry) :: after ∧
        (registry.take handle).2.live = before ++ after) ∧
    (registry.takeAll.1 = registry.live.map Prod.snd ∧ registry.takeAll.2.live = []) ∧
    ((registrations (trace call {} calls)).length < 2 ^ 64 →
      ((registrations (trace call {} calls)).map Prod.fst).Pairwise (· < ·) ∧
      registry.handles.Pairwise (· < ·) ∧
      (∀ handle entry, (handle, entry) ∈ registrations (trace call {} calls) →
        handle ∈ registry.handles → registry.find handle = some entry) ∧
      ∀ promptId handle, registry.findByPromptId promptId = some handle →
        ∃ entry, registry.find handle = some entry ∧ entry.promptId = promptId) := by
  have recorded : registry.Recorded (registrations (trace call {} calls)) :=
    trace_invariant call (fun past registry => registry.Recorded (registrations past))
      recorded_call calls {} registry recorded_initial reached
  refine ⟨⟨recorded.aligned.lengths, recorded.aligned.named, recorded.kept⟩, ?_, ?_, ?_,
    ⟨(live_entries recorded.aligned).symm, rfl⟩, ?_⟩
  · intro window ownerPid promptId refused
    exact add_refused window ownerPid promptId refused
  · intro handle unknown
    exact take_unknown recorded.aligned.lengths handle unknown
  · intro handle entry found
    obtain ⟨next, before, after, taken, -, -, split, removed⟩ :=
      take_live recorded.aligned handle entry found
    rw [taken]
    exact ⟨rfl, recorded.kept.mem (find_live recorded.aligned handle entry found), before, after,
      split, removed⟩
  · intro below
    refine ⟨issued_increasing recorded below,
      (issued_increasing recorded below).sublist (handles_sublist recorded),
      find_issued recorded below, ?_⟩
    intro promptId handle found
    obtain ⟨-, entry, live, carried⟩ :=
      (find_by_prompt_id_iff recorded.aligned promptId handle).mp found
    exact ⟨entry,
      (find_iff recorded.aligned (handles_distinct recorded below) handle entry).mpr live, carried⟩

/-- Two windows, the first of them answered, and a third under its prompt id. -/
def answeredAndReplaced : List RegistryCall :=
  [.add (some 10) 7 "a", .add (some 11) 7 "b", .take 1, .add (some 12) 7 "a"]

/-- The third is found by the prompt id, under a handle of its own. -/
theorem answered_prompt_replaced :
    ∃ registry, run call {} answeredAndReplaced = some registry ∧
      registry.handles = [2, 3] ∧ registry.findByPromptId "a" = some 3 ∧
      ∃ entry, registry.find 3 = some entry ∧ entry.promptId = "a" := by
  have found : PromptRegistry.findByPromptId
      ⟨[⟨11, 7, "b"⟩, ⟨12, 7, "a"⟩], [2, 3], 4⟩ "a" = some 3 := by decide
  refine ⟨⟨[⟨11, 7, "b"⟩, ⟨12, 7, "a"⟩], [2, 3], 4⟩, by decide, rfl, found, ?_⟩
  obtain ⟨-, -, -, -, -, below⟩ := registry_represented answeredAndReplaced
    ⟨[⟨11, 7, "b"⟩, ⟨12, 7, "a"⟩], [2, 3], 4⟩ (by decide)
  exact (below (by decide)).2.2.2 "a" 3 found

/-- One window after the other, from a handle on, each taken before the next, and then one with a
prompt id. -/
def rounds : Nat → Handle → List RegistryCall
  | 0, _ => [.add (some 2) 7 "b"]
  | count + 1, handle => .add (some 1) 7 "" :: .take handle :: rounds count (handle + 1)

/-- A window that stands meanwhile stays, and the counter moves on by the rounds. -/
theorem rounds_counted (count : Nat) (handle : Handle)
    (apart : ∀ index < count, handle + UInt64.ofNat index ≠ 1) :
    run call ⟨[⟨0, 7, ""⟩], [1], handle⟩ (rounds count handle) =
      some ⟨[⟨0, 7, ""⟩, ⟨2, 7, "b"⟩], [1, handle + UInt64.ofNat count],
        handle + UInt64.ofNat count + 1⟩ := by
  induction count generalizing handle with
  | zero => simp [rounds, run, call, add, indexOfPromptId]
  | succ count inductionHypothesis =>
    have other : handle ≠ 1 := by simpa using apart 0 (Nat.succ_pos count)
    have round : run call ⟨[⟨0, 7, ""⟩], [1], handle⟩ (rounds (count + 1) handle) =
        run call ⟨[⟨0, 7, ""⟩], [1], handle + 1⟩ (rounds count (handle + 1)) := by
      simp [rounds, run, call, add, take, List.findIdx?_cons, other.symm]
    rw [round, inductionHypothesis _ ?_, Counters.count_from handle count]
    intro index member
    rw [Counters.count_from handle index]
    exact apart (index + 1) (Nat.succ_lt_succ member)

/-- A window that stands while the counter goes through all its values. -/
def overrun : List RegistryCall :=
  .add (some 0) 7 "" :: rounds (2 ^ 64 - 1) 2

/-- The counter issues the first handle again, and the prompt id of the last window then leads
to the first. -/
theorem handle_issued_twice :
    ∃ registry, run call {} overrun = some registry ∧
      ¬ ((registrations (trace call {} overrun)).map Prod.fst).Nodup ∧
      ¬ registry.handles.Pairwise (· < ·) ∧
      registry.findByPromptId "b" = some 1 ∧ registry.find 1 = some ⟨0, 7, ""⟩ := by
  have apart : ∀ index < 2 ^ 64 - 1, (2 : Handle) + UInt64.ofNat index ≠ 1 := by
    intro index member
    rw [show (2 : Handle) = 1 + 1 from rfl, Counters.count_from]
    exact Counters.count_apart 1 (index + 1) (Nat.succ_pos index) (Nat.succ_lt_of_lt_pred member)
  have counted := rounds_counted (2 ^ 64 - 1) 2 apart
  have first : (2 : Handle) + UInt64.ofNat (2 ^ 64 - 1) = 1 := by decide
  have begun : ∀ rest, run call {} (.add (some 0) 7 "" :: rest) =
      run call ⟨[⟨0, 7, ""⟩], [1], 2⟩ rest := by
    intro rest
    simp [run, call, add]
  have reached : run call {} overrun = some ⟨[⟨0, 7, ""⟩, ⟨2, 7, "b"⟩], [1, 1], 2⟩ := by
    rw [overrun, begun, counted, first]
    rfl
  refine ⟨_, reached, ?_, by decide, by decide, by decide⟩
  intro distinct
  have recorded := trace_invariant call (fun past registry => registry.Recorded (registrations past))
    recorded_call _ {} _ recorded_initial reached
  have twice := distinct.sublist (handles_sublist recorded)
  revert twice
  decide

end PromptRegistry

end LibreLinux.Prompter
