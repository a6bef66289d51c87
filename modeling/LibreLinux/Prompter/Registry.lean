import LibreLinux.Lib.Counters
import LibreLinux.Lib.ParallelVectors
import Mathlib.Data.List.Nodup
import Mathlib.Data.List.Pairwise

/-!
# The prompter's window registry

`PromptRegistry` keeps the credential windows on screen in two vectors of one
length: the entries and the handles they were issued, with a counter for the
next handle. The mutex of the source is held for one container operation, so
each operation is one step here. The counter has 64 bits: it starts at one and
goes back to zero behind its last value, with no look at the handles in use.

The vectors are read as one association list, `live`. While they are aligned an
addition appends one association, a take removes the first association of its
handle, and a search by prompt id finds the one association that carries the id.
Which entry a handle stands for depends on the registrations made so far: as long
as these are fewer than `2 ^ 64`, it is the one entry the handle was issued for.
-/

namespace LibreLinux.Prompter

/-- Internal identity of a registration; zero is reserved as "no handle". -/
abbrev Handle := UInt64

/-- A process id as the bus credentials report it; zero means unresolved. -/
abbrev Pid := Int

/-- A window's identity. It stands for the object, not its address: a queued
event for a deleted window is dropped by the toolkit, never delivered to a
successor that reuses the address. -/
abbrev WindowId := Nat

/-- What the registry knows of one window. -/
structure Entry where
  window : WindowId
  ownerPid : Pid
  promptId : String
deriving DecidableEq, Repr

/-- The two vectors of the source and the counter of issued handles. -/
structure PromptRegistry where
  entries : List Entry := []
  handles : List Handle := []
  nextHandle : Handle := 1
deriving DecidableEq, Repr

namespace PromptRegistry

/-- Index of the entry a prompt id names. An empty id never matches. -/
def indexOfPromptId (registry : PromptRegistry) (promptId : String) : Option Nat :=
  if promptId = "" then none
  else registry.entries.findIdx? (fun entry => decide (entry.promptId = promptId))

/-- Register a window. A null window and a live non-empty id are refused; an
empty id never collides. -/
def add (registry : PromptRegistry) (window : Option WindowId) (ownerPid : Pid)
    (promptId : String) : Option Handle × PromptRegistry :=
  match window with
  | none => (none, registry)
  | some window =>
    if promptId ≠ "" ∧ (registry.indexOfPromptId promptId).isSome then (none, registry)
    else (some registry.nextHandle,
      { entries := registry.entries ++ [{ window, ownerPid, promptId }]
        handles := registry.handles ++ [registry.nextHandle]
        nextHandle := registry.nextHandle + 1 })

/-- The handle a prompt id names, read from the handle vector at its index. -/
def findByPromptId (registry : PromptRegistry) (promptId : String) : Option Handle :=
  (registry.indexOfPromptId promptId).bind (fun index => registry.handles[index]?)

/-- The entry at a handle's position. -/
def find (registry : PromptRegistry) (handle : Handle) : Option Entry :=
  (registry.handles.findIdx? (fun other => decide (other = handle))).bind
    (fun index => registry.entries[index]?)

/-- Remove and return the entry of a handle, so a second take finds nothing. -/
def take (registry : PromptRegistry) (handle : Handle) : Option Entry × PromptRegistry :=
  match registry.handles.findIdx? (fun other => decide (other = handle)) with
  | none => (none, registry)
  | some index =>
    (registry.entries[index]?,
      { registry with
        entries := registry.entries.eraseIdx index
        handles := registry.handles.eraseIdx index })

/-- Remove and return every entry. -/
def takeAll (registry : PromptRegistry) : List Entry × PromptRegistry :=
  (registry.entries, { registry with entries := [], handles := [] })

/-- The registrations in the order the windows were raised. -/
def live (registry : PromptRegistry) : List (Handle × Entry) :=
  registry.handles.zip registry.entries

/-- Pairwise distinct prompt ids, apart from empty ones. -/
def Named (entries : List Entry) : Prop :=
  entries.Pairwise (fun first second => first.promptId ≠ "" → first.promptId ≠ second.promptId)

/-- The representation invariant: vectors of one length, and distinct live prompt
ids. -/
structure Aligned (registry : PromptRegistry) : Prop where
  lengths : registry.entries.length = registry.handles.length
  named : Named registry.entries

/-- The empty registry is aligned. -/
theorem aligned_empty : Aligned {} where
  lengths := rfl
  named := List.Pairwise.nil

variable {registry : PromptRegistry}

/-- The association list's keys are the handle vector. -/
theorem live_handles (aligned : registry.Aligned) :
    registry.live.map Prod.fst = registry.handles :=
  List.map_fst_zip (Nat.le_of_eq aligned.lengths.symm)

/-- The association list's values are the entry vector. -/
theorem live_entries (aligned : registry.Aligned) :
    registry.live.map Prod.snd = registry.entries :=
  List.map_snd_zip (Nat.le_of_eq aligned.lengths)

/-- What is found by handle is live. -/
theorem find_live (aligned : registry.Aligned) (handle : Handle) (entry : Entry)
    (found : registry.find handle = some entry) : (handle, entry) ∈ registry.live := by
  rw [find, ParallelVectors.lookup_at_index _ _ aligned.lengths] at found
  obtain ⟨before, after, split, -⟩ := ParallelVectors.lookup_split registry.live handle entry found
  rw [split]
  exact List.mem_append_right before List.mem_cons_self

/-- With distinct handles, finding by handle is membership in the association list. -/
theorem find_iff (aligned : registry.Aligned) (distinct : registry.handles.Nodup)
    (handle : Handle) (entry : Entry) :
    registry.find handle = some entry ↔ (handle, entry) ∈ registry.live := by
  rw [find, ParallelVectors.lookup_at_index _ _ aligned.lengths]
  rw [← live_handles aligned] at distinct
  exact ParallelVectors.lookup_eq_some_iff registry.live distinct handle entry

/-- Two live associations that carry one non-empty prompt id are the same. -/
theorem live_named (aligned : registry.Aligned) (first second : Handle × Entry)
    (firstLive : first ∈ registry.live) (secondLive : second ∈ registry.live)
    (filled : first.2.promptId ≠ "") (same : first.2.promptId = second.2.promptId) :
    first = second := by
  have symmetric : Std.Symm (fun left right : Handle × Entry =>
      left.2.promptId ≠ "" → left.2.promptId ≠ right.2.promptId) := by
    constructor
    intro left right apart filledRight equal
    exact apart (equal ▸ filledRight) equal.symm
  have distinct : registry.live.Pairwise (fun left right =>
      left.2.promptId ≠ "" → left.2.promptId ≠ right.2.promptId) := by
    have entries := aligned.named
    rw [← live_entries aligned, Named, List.pairwise_map] at entries
    exact entries
  by_contra different
  exact distinct.forall firstLive secondLive different filled same

/-- A prompt id names exactly the live association that carries it. The id is
non-empty, and distinct ids make the first match the only one. -/
theorem find_by_prompt_id_iff (aligned : registry.Aligned) (promptId : String) (handle : Handle) :
    registry.findByPromptId promptId = some handle ↔
      promptId ≠ "" ∧ ∃ entry, (handle, entry) ∈ registry.live ∧ entry.promptId = promptId := by
  by_cases vacant : promptId = ""
  · simp [findByPromptId, indexOfPromptId, vacant]
  · have searched : registry.findByPromptId promptId =
        (registry.live.find? (fun pair => decide (pair.2.promptId = promptId))).map Prod.fst := by
      simp only [findByPromptId, indexOfPromptId, vacant, ↓reduceIte]
      exact ParallelVectors.key_at_index _ _ aligned.lengths _
    rw [searched]
    simp only [ne_eq, vacant, not_false_eq_true, true_and, Option.map_eq_some_iff]
    constructor
    · rintro ⟨⟨first, entry⟩, found, rfl⟩
      exact ⟨entry, List.mem_of_find?_eq_some found, by simpa using List.find?_some found⟩
    · rintro ⟨entry, member, carried⟩
      have present : ∃ pair ∈ registry.live, pair.2.promptId = promptId :=
        ⟨(handle, entry), member, carried⟩
      obtain ⟨first, found⟩ := Option.isSome_iff_exists.mp (List.find?_isSome.mpr
        (show ∃ pair ∈ registry.live, decide (pair.2.promptId = promptId) = true by
          simpa using present))
      refine ⟨first, found, ?_⟩
      have firstCarried : first.2.promptId = promptId := by simpa using List.find?_some found
      have same := live_named aligned first (handle, entry) (List.mem_of_find?_eq_some found) member
        (firstCarried ▸ vacant) (firstCarried.trans carried.symm)
      rw [same]

/-- A refused registration leaves the registry as it was. -/
theorem add_refused (window : Option WindowId) (ownerPid : Pid) (promptId : String)
    (refused : (registry.add window ownerPid promptId).1 = none) :
    (registry.add window ownerPid promptId).2 = registry := by
  unfold add at refused ⊢
  split at refused
  · rfl
  · split at refused
    · simp [*]
    · simp at refused

/-- An id is live exactly when a search for it succeeds. -/
theorem index_is_some_iff (aligned : registry.Aligned) (promptId : String) :
    (registry.indexOfPromptId promptId).isSome ↔
      ∃ handle, registry.findByPromptId promptId = some handle := by
  constructor
  · intro indexed
    obtain ⟨index, found⟩ := Option.isSome_iff_exists.mp indexed
    have bounded : index < registry.handles.length := by
      rw [← aligned.lengths]
      unfold indexOfPromptId at found
      split at found
      · cases found
      · exact (List.findIdx?_eq_some_iff_getElem.mp found).1
    exact ⟨registry.handles[index], by simp [findByPromptId, found, bounded]⟩
  · rintro ⟨handle, found⟩
    cases indexed : registry.indexOfPromptId promptId with
    | none => simp [findByPromptId, indexed] at found
    | some index => rfl

/-- A window whose id is not live is registered under the next handle, at the
end of the association list, and the invariant is kept. -/
theorem add_fresh (aligned : registry.Aligned) (window : WindowId) (ownerPid : Pid)
    (promptId : String) (fresh : registry.findByPromptId promptId = none) :
    ∃ next, registry.add (some window) ownerPid promptId = (some registry.nextHandle, next) ∧
      next.Aligned ∧ next.nextHandle = registry.nextHandle + 1 ∧
      next.live = registry.live ++ [(registry.nextHandle, ⟨window, ownerPid, promptId⟩)] := by
  have unclaimed : ¬ (promptId ≠ "" ∧ (registry.indexOfPromptId promptId).isSome) := by
    rintro ⟨_, indexed⟩
    obtain ⟨handle, found⟩ := (index_is_some_iff aligned promptId).mp indexed
    simp [fresh] at found
  refine ⟨_, by rw [add, if_neg unclaimed], ⟨?_, ?_⟩, rfl, ?_⟩
  · simp [aligned.lengths]
  · refine List.pairwise_append.mpr ⟨aligned.named, by simp, ?_⟩
    intro entry member latest last filled equal
    rw [List.mem_singleton.mp last] at equal
    rw [← live_entries aligned] at member
    obtain ⟨⟨handle, stored⟩, kept, rfl⟩ := List.mem_map.mp member
    have claimed : stored.promptId = promptId := equal
    have found := (find_by_prompt_id_iff aligned promptId handle).mpr
      ⟨claimed ▸ filled, stored, kept, claimed⟩
    simp [fresh] at found
  · exact List.zip_append (by simpa using aligned.lengths.symm)

/-- A live id refuses the registration. -/
theorem add_claimed (aligned : registry.Aligned) (window : WindowId) (ownerPid : Pid)
    (promptId : String) (handle : Handle)
    (claimed : registry.findByPromptId promptId = some handle) :
    registry.add (some window) ownerPid promptId = (none, registry) := by
  have filled := ((find_by_prompt_id_iff aligned promptId handle).mp claimed).1
  have indexed := (index_is_some_iff aligned promptId).mpr ⟨handle, claimed⟩
  rw [add, if_pos ⟨filled, indexed⟩]

/-- Taking an unknown handle changes nothing. -/
theorem take_unknown (lengths : registry.entries.length = registry.handles.length) (handle : Handle)
    (unknown : registry.find handle = none) : registry.take handle = (none, registry) := by
  unfold find at unknown
  unfold take
  cases position : registry.handles.findIdx? (fun other => decide (other = handle)) with
  | none => rfl
  | some index =>
    have bounded : index < registry.entries.length := by
      rw [lengths]
      exact (List.findIdx?_eq_some_iff_getElem.mp position).1
    simp [position, bounded] at unknown

/-- Taking a live handle returns the entry at its first position and removes that
one association; the order and the association of all others are unchanged. -/
theorem take_live (aligned : registry.Aligned) (handle : Handle) (entry : Entry)
    (found : registry.find handle = some entry) :
    ∃ next before after, registry.take handle = (some entry, next) ∧ next.Aligned ∧
      next.nextHandle = registry.nextHandle ∧
      registry.live = before ++ (handle, entry) :: after ∧ next.live = before ++ after := by
  have looked : registry.live.lookup handle = some entry := by
    rw [← found, find, ParallelVectors.lookup_at_index _ _ aligned.lengths]
    rfl
  obtain ⟨before, after, split, erased⟩ := ParallelVectors.lookup_split registry.live handle entry looked
  cases position : registry.handles.findIdx? (fun other => decide (other = handle)) with
  | none => simp [find, position] at found
  | some index =>
    have at_index : registry.entries[index]? = some entry := by simpa [find, position] using found
    refine ⟨{ registry with
        entries := registry.entries.eraseIdx index, handles := registry.handles.eraseIdx index },
      before, after, ?_, ⟨?_, ?_⟩, rfl, split, ?_⟩
    · simp only [take, position, at_index]
    · simp [List.length_eraseIdx, aligned.lengths]
    · exact aligned.named.sublist (List.eraseIdx_sublist _ _)
    · exact (ParallelVectors.zip_erase_at_index _ _ aligned.lengths handle index position).trans erased

/-! ## The registrations made -/

/-- A registry against the registrations made so far: it is aligned, what is live was
registered in this order, and the counter has issued the handles one by one. -/
structure Recorded (made : List (Handle × Entry)) (registry : PromptRegistry) : Prop where
  aligned : registry.Aligned
  kept : registry.live.Sublist made
  counter : registry.nextHandle = UInt64.ofNat (made.length + 1)
  issued : made.map Prod.fst =
    (List.range made.length).map (fun index => UInt64.ofNat (index + 1))

/-- Nothing is registered at first. -/
theorem recorded_initial : Recorded [] {} where
  aligned := aligned_empty
  kept := List.Sublist.refl []
  counter := rfl
  issued := rfl

variable {made : List (Handle × Entry)}

/-- A window registered under the counter's handle adds one registration. -/
theorem recorded_more (recorded : registry.Recorded made) (next : PromptRegistry) (entry : Entry)
    (aligned : next.Aligned) (counter : next.nextHandle = registry.nextHandle + 1)
    (live : next.live = registry.live ++ [(registry.nextHandle, entry)]) :
    next.Recorded (made ++ [(registry.nextHandle, entry)]) where
  aligned := aligned
  kept := by
    rw [live]
    exact recorded.kept.append (List.Sublist.refl _)
  counter := by
    rw [counter, recorded.counter, ← Counters.count_succ]
    simp
  issued := by
    rw [List.map_append, recorded.issued, List.length_append, List.length_singleton,
      List.range_succ, List.map_append, recorded.counter]
    rfl

/-- What only lets go of live associations registers nothing. -/
theorem recorded_fewer (recorded : registry.Recorded made) (next : PromptRegistry)
    (aligned : next.Aligned) (counter : next.nextHandle = registry.nextHandle)
    (live : next.live.Sublist registry.live) : next.Recorded made where
  aligned := aligned
  kept := live.trans recorded.kept
  counter := counter.trans recorded.counter
  issued := recorded.issued

/-- A take keeps the record. -/
theorem recorded_take (handle : Handle) (recorded : registry.Recorded made) :
    (registry.take handle).2.Recorded made := by
  cases found : registry.find handle with
  | none =>
    rw [take_unknown recorded.aligned.lengths handle found]
    exact recorded
  | some entry =>
    obtain ⟨next, before, after, taken, aligned, counter, split, removed⟩ :=
      take_live recorded.aligned handle entry found
    rw [taken]
    refine recorded_fewer recorded next aligned counter ?_
    rw [removed, split]
    exact (List.Sublist.refl before).append (List.sublist_cons_self _ after)

/-- Below the counter's limit the handles increase in the order they were issued. -/
theorem issued_increasing (recorded : registry.Recorded made) (below : made.length < 2 ^ 64) :
    (made.map Prod.fst).Pairwise (· < ·) := by
  rw [recorded.issued]
  exact Counters.counts_increasing made.length below

/-- The handles of the vector are issued ones, in the same order. -/
theorem handles_sublist (recorded : registry.Recorded made) :
    registry.handles.Sublist (made.map Prod.fst) := by
  rw [← live_handles recorded.aligned]
  exact recorded.kept.map Prod.fst

/-- Below the counter's limit no handle is issued twice. -/
theorem issued_distinct (recorded : registry.Recorded made) (below : made.length < 2 ^ 64) :
    (made.map Prod.fst).Nodup :=
  (issued_increasing recorded below).imp (fun before => UInt64.ne_of_lt before)

/-- Below the counter's limit the live handles are distinct. -/
theorem handles_distinct (recorded : registry.Recorded made) (below : made.length < 2 ^ 64) :
    registry.handles.Nodup :=
  (issued_distinct recorded below).sublist (handles_sublist recorded)

/-- Below the counter's limit a handle was issued for one entry. -/
theorem issued_once (recorded : registry.Recorded made) (below : made.length < 2 ^ 64)
    (handle : Handle) (first second : Entry) (one : (handle, first) ∈ made)
    (two : (handle, second) ∈ made) : first = second := by
  have same := List.inj_on_of_nodup_map (issued_distinct recorded below) one two rfl
  exact congrArg Prod.snd same

end PromptRegistry

end LibreLinux.Prompter
