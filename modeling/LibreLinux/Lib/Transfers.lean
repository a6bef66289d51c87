import Mathlib.Data.List.TakeDrop

/-!
# Loops of partial transfers

A loop moves a list of items in calls to an environment that answers each of them
as it likes: it moves as many of the requested items as it wants, or it fails. One
error means that the call was interrupted and is made again; every other error ends
the loop, and so does a call that moves nothing. The answers are numbered by the
calls, so an environment is a sequence.

A loop that ends well has moved exactly what it was asked for, whatever the answers.
It ends at all when only finitely many calls are interrupted, and it ends well when
no call fails otherwise. The fuel counts calls; the bound is the interruptions left
and the items left.
-/

namespace LibreLinux.Transfers

universe u v
variable {β : Type u} {ε : Type v} [DecidableEq ε]

/-- The answer to one call. -/
inductive Answer (ε : Type v) where
  | failed (error : ε)
  | moved (count : Nat)

/-- Why a loop gave up. -/
inductive Failure (ε : Type v) where
  | error (error : ε)
  | stalled

/-- How a loop ended, and how many calls it made. -/
structure Ended (β : Type u) (ε : Type v) where
  result : Except (Failure ε) (List β)
  calls : Nat

/-- The items one call moves: at most as many as are still requested. -/
def chunk (source : List β) (size : Nat) (moved : List β) (count : Nat) : List β :=
  (source.drop moved.length).take (min count (size - moved.length))

/-- Move `size` items of the source, `calls` calls having moved the given ones. -/
def transfer (interrupted : ε) (answers : Nat → Answer ε) (source : List β) (size : Nat) :
    Nat → Nat → List β → Option (Ended β ε)
  | 0, _, _ => none
  | fuel + 1, calls, moved =>
    if size ≤ moved.length then some ⟨.ok moved, calls⟩
    else
      match answers calls with
      | .failed error =>
        if error = interrupted then
          transfer interrupted answers source size fuel (calls + 1) moved
        else some ⟨.error (.error error), calls + 1⟩
      | .moved count =>
        if chunk source size moved count = [] then some ⟨.error .stalled, calls + 1⟩
        else
          transfer interrupted answers source size fuel (calls + 1)
            (moved ++ chunk source size moved count)

variable {interrupted : ε} {answers : Nat → Answer ε} {source : List β} {size : Nat}

/-- A moved chunk continues the source. -/
theorem take_append_chunk (moved : List β) (count : Nat) (done : moved = source.take moved.length)
    (short : moved.length < size) :
    moved ++ chunk source size moved count =
        source.take (moved ++ chunk source size moved count).length ∧
      (moved ++ chunk source size moved count).length ≤ size := by
  have length : (chunk source size moved count).length =
      min (min count (size - moved.length)) (source.length - moved.length) := by
    simp [chunk]
  constructor
  · rw [List.length_append, List.take_add, ← done, length]
    congr 1
    unfold chunk
    rw [List.take_eq_take_iff]
    simp
  · rw [List.length_append, length]
    omega

/-- What a loop that ended well moved is the beginning of the source of the size it
was asked for.

Induct over the fuel: what was moved is always a beginning of the source, and never
longer than asked for. -/
theorem transfer_exact (fuel calls : Nat) (moved result : List β) (total : Nat)
    (done : moved = source.take moved.length) (within : moved.length ≤ size)
    (ended : transfer interrupted answers source size fuel calls moved = some ⟨.ok result, total⟩) :
    result = source.take size ∧ result.length = size := by
  induction fuel generalizing calls moved with
  | zero => cases ended
  | succ fuel inductionHypothesis =>
    rw [transfer] at ended
    split_ifs at ended with full
    · cases ended
      have exact : result.length = size := Nat.le_antisymm within full
      exact ⟨exact ▸ done, exact⟩
    · split at ended
      · split_ifs at ended
        · exact inductionHypothesis (calls + 1) moved done within ended
        · cases ended
      · split_ifs at ended
        · cases ended
        · obtain ⟨continued, bounded⟩ := take_append_chunk moved _ done (Nat.lt_of_not_le full)
          exact inductionHypothesis (calls + 1) _ continued bounded ended

/-- From some call on none is interrupted. -/
def FinitelyInterrupted (interrupted : ε) (answers : Nat → Answer ε) (last : Nat) : Prop :=
  ∀ call, last ≤ call → answers call ≠ .failed interrupted

/-- A loop with finitely many interruptions ends.

Induct over the fuel: an interrupted call uses up an interruption, and every other
call that does not end the loop moves an item. -/
theorem transfer_ends (last : Nat) (finite : FinitelyInterrupted interrupted answers last)
    (fuel calls : Nat) (moved : List β)
    (enough : (last - calls) + (size - moved.length) < fuel) :
    ∃ ended, transfer interrupted answers source size fuel calls moved = some ended := by
  induction fuel generalizing calls moved with
  | zero => omega
  | succ fuel inductionHypothesis =>
    rw [transfer]
    split_ifs with full
    · exact ⟨_, rfl⟩
    · split
      · next error failed =>
        split_ifs with again
        · have early : calls < last := by
            by_contra late
            exact finite calls (Nat.le_of_not_lt late) (again ▸ failed)
          exact inductionHypothesis (calls + 1) moved (by omega)
        · exact ⟨_, rfl⟩
      · next count answered =>
        split_ifs with stalled
        · exact ⟨_, rfl⟩
        · have progress : 0 < (chunk source size moved count).length :=
            List.length_pos_iff.mpr stalled
          apply inductionHypothesis (calls + 1)
          rw [List.length_append]
          omega

/-- More fuel does not change how a loop ended. -/
theorem transfer_mono (fuel more calls : Nat) (moved : List β) (final : Ended β ε)
    (ended : transfer interrupted answers source size fuel calls moved = some final) :
    transfer interrupted answers source size (fuel + more) calls moved = some final := by
  induction fuel generalizing calls moved with
  | zero => cases ended
  | succ fuel inductionHypothesis =>
    rw [Nat.add_right_comm, transfer]
    rw [transfer] at ended
    split_ifs at ended ⊢ with full
    · exact ended
    · split at ended
      · split_ifs at ended ⊢
        · exact inductionHypothesis (calls + 1) moved ended
        · exact ended
      · split_ifs at ended ⊢
        · exact ended
        · exact inductionHypothesis (calls + 1) _ ended

/-- An environment in which no call fails for good. -/
structure Smooth (interrupted : ε) (answers : Nat → Answer ε) : Prop where
  retried : ∀ call error, answers call = .failed error → error = interrupted
  progress : ∀ call count, answers call = .moved count → 0 < count
  finite : ∃ last, FinitelyInterrupted interrupted answers last

/-- In such an environment a loop that ends has moved everything.

Induct over the fuel: a call either is made again or moves at least one item. -/
theorem transfer_smooth_ok (smooth : Smooth interrupted answers) (covered : size ≤ source.length)
    (fuel calls : Nat) (moved : List β) (final : Ended β ε)
    (ended : transfer interrupted answers source size fuel calls moved = some final) :
    ∃ result, final.result = .ok result := by
  induction fuel generalizing calls moved with
  | zero => cases ended
  | succ fuel inductionHypothesis =>
    rw [transfer] at ended
    split_ifs at ended with full
    · cases ended
      exact ⟨moved, rfl⟩
    · split at ended
      · next error failed =>
        rw [if_pos (smooth.retried calls error failed)] at ended
        exact inductionHypothesis (calls + 1) moved ended
      · next count answered =>
        have positive := smooth.progress calls count answered
        have progress : chunk source size moved count ≠ [] := by
          rw [← List.length_pos_iff]
          simp only [chunk, List.length_take, List.length_drop]
          omega
        rw [if_neg progress] at ended
        exact inductionHypothesis (calls + 1) _ ended

/-- In such an environment a loop moves everything, with enough fuel. -/
theorem transfer_smooth (smooth : Smooth interrupted answers) (covered : size ≤ source.length) :
    ∃ bound calls, ∀ fuel, bound ≤ fuel →
      transfer interrupted answers source size fuel 0 [] = some ⟨.ok (source.take size), calls⟩ := by
  obtain ⟨last, finite⟩ := smooth.finite
  have ends : ∃ ended, transfer interrupted answers source size (last + size + 1) 0 [] = some ended :=
    transfer_ends last finite _ _ _ (by simp)
  obtain ⟨⟨result, calls⟩, ended⟩ := ends
  obtain ⟨moved, well⟩ := transfer_smooth_ok smooth covered _ _ _ _ ended
  have same : result = .ok moved := well
  subst same
  obtain ⟨exact, -⟩ := transfer_exact _ _ _ _ _ (by simp) (by simp) ended
  refine ⟨last + size + 1, calls, fun fuel enough => ?_⟩
  obtain ⟨more, rfl⟩ := Nat.exists_eq_add_of_le enough
  rw [← exact]
  exact transfer_mono _ _ _ _ _ ended

end LibreLinux.Transfers
