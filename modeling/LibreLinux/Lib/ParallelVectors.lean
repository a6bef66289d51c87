import Mathlib.Data.List.Basic
import Mathlib.Data.List.Perm.Basic

/-!
# Two vectors kept in step

A key vector and a value vector of one length, indexed alike, are read as one
list of associations, their zip. Looking up by the position of a key, finding a
key by the position of a value and erasing the same position from both vectors
are then the ordinary lookup, search and erasure of that list. Keys may repeat;
every operation concerns the first matching position, as the indexed code does.
-/

namespace LibreLinux.ParallelVectors

universe u v
variable {κ : Type u} {ν : Type v}

/-- The value at a key's first position is the list's lookup of that key. -/
theorem lookup_at_index [DecidableEq κ] (keys : List κ) (values : List ν)
    (aligned : values.length = keys.length) (key : κ) :
    (keys.findIdx? (fun other => decide (other = key))).bind (fun index => values[index]?) =
      (keys.zip values).lookup key := by
  induction keys generalizing values with
  | nil => simp
  | cons first rest inductionHypothesis =>
    cases values with
    | nil => simp at aligned
    | cons value tail =>
      have tailAligned : tail.length = rest.length := by simpa using aligned
      by_cases same : first = key
      · simp [List.findIdx?_cons, same]
      · have different : (key == first) = false := by simpa using fun equal => same equal.symm
        simp only [List.findIdx?_cons, same, decide_false, Bool.false_eq_true, ↓reduceIte,
          List.zip_cons_cons, List.lookup_cons, different, Option.bind_map]
        simpa only [Function.comp_def, List.getElem?_cons_succ] using
          inductionHypothesis tail tailAligned

/-- The key at a value's first position is the first association's key. -/
theorem key_at_index (keys : List κ) (values : List ν)
    (aligned : values.length = keys.length) (wanted : ν → Bool) :
    (values.findIdx? wanted).bind (fun index => keys[index]?) =
      ((keys.zip values).find? (fun pair => wanted pair.2)).map Prod.fst := by
  induction keys generalizing values with
  | nil =>
    have vacant : values = [] := List.eq_nil_of_length_eq_zero (by simpa using aligned)
    simp [vacant]
  | cons first rest inductionHypothesis =>
    cases values with
    | nil => simp at aligned
    | cons value tail =>
      have tailAligned : tail.length = rest.length := by simpa using aligned
      cases matched : wanted value with
      | true => simp [List.findIdx?_cons, matched]
      | false =>
        simp only [List.findIdx?_cons, matched, Bool.false_eq_true, ↓reduceIte,
          List.zip_cons_cons, Option.bind_map, List.find?_cons]
        simpa only [Function.comp_def, List.getElem?_cons_succ] using
          inductionHypothesis tail tailAligned

/-- Erasing a key's first position from both vectors erases its association. -/
theorem zip_erase_at_index [DecidableEq κ] (keys : List κ) (values : List ν)
    (aligned : values.length = keys.length) (key : κ) (index : Nat)
    (found : keys.findIdx? (fun other => decide (other = key)) = some index) :
    (keys.eraseIdx index).zip (values.eraseIdx index) =
      (keys.zip values).eraseP (fun pair => decide (pair.1 = key)) := by
  induction keys generalizing values index with
  | nil => simp at found
  | cons first rest inductionHypothesis =>
    cases values with
    | nil => simp at aligned
    | cons value tail =>
      have tailAligned : tail.length = rest.length := by simpa using aligned
      by_cases same : first = key
      · have front : index = 0 := by
          simpa [List.findIdx?_cons, same, eq_comm] using found
        simp [front, same]
      · simp only [List.findIdx?_cons, same, decide_false, Bool.false_eq_true, ↓reduceIte,
          Option.map_eq_some_iff] at found
        obtain ⟨position, later, rfl⟩ := found
        simp [same, inductionHypothesis tail tailAligned position later]

/-- A found lookup splits the associations around the key's first occurrence. -/
theorem lookup_split [DecidableEq κ] (pairs : List (κ × ν)) (key : κ) (value : ν)
    (found : pairs.lookup key = some value) :
    ∃ before after, pairs = before ++ (key, value) :: after ∧
      pairs.eraseP (fun pair => decide (pair.1 = key)) = before ++ after := by
  induction pairs with
  | nil => simp at found
  | cons pair rest inductionHypothesis =>
    obtain ⟨first, stored⟩ := pair
    by_cases same : first = key
    · have stored_eq : stored = value := by simpa [List.lookup_cons, same] using found
      exact ⟨[], rest, by simp [same, stored_eq], by simp [same]⟩
    · have different : (key == first) = false := by simpa using fun equal => same equal.symm
      obtain ⟨before, after, split, erased⟩ :=
        inductionHypothesis (by simpa only [List.lookup_cons, different] using found)
      exact ⟨(first, stored) :: before, after, by simp [split], by simp [same, erased]⟩

/-- With distinct keys, lookup is membership. -/
theorem lookup_eq_some_iff [DecidableEq κ] (pairs : List (κ × ν))
    (distinct : (pairs.map Prod.fst).Nodup) (key : κ) (value : ν) :
    pairs.lookup key = some value ↔ (key, value) ∈ pairs := by
  induction pairs with
  | nil => simp
  | cons pair rest inductionHypothesis =>
    obtain ⟨first, stored⟩ := pair
    rw [List.map_cons, List.nodup_cons] at distinct
    by_cases same : key = first
    · subst same
      have absent : ∀ other, (key, other) ∉ rest := fun other member =>
        distinct.1 (List.mem_map.mpr ⟨(key, other), member, rfl⟩)
      simp [absent, eq_comm]
    · have different : (key == first) = false := by simpa using same
      simp [List.lookup_cons, different, same, inductionHypothesis distinct.2]

end LibreLinux.ParallelVectors
