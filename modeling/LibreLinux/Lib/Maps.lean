import Mathlib.Data.Finmap
import Mathlib.Data.Finset.Sort

/-!
# Insertion that keeps what is there, and the order of the keys

Mathlib's `Finmap` is an ordered map seen up to its contents: finite,
extensional and executable. Its own `insert` replaces, like assignment through
an index; the insertion added here keeps an entry that is already present, and
its guarded form does nothing unless a condition holds. Building a map from a
list by either insertion is described by its lookups, which are all that two
maps can be told apart by. A walk over an ordered map meets its keys in their
order, each once.
-/

namespace LibreLinux.Maps

universe u v
variable {κ : Type u} {ν : Type v} [DecidableEq κ]

/-- Insert unless the key is present. -/
def emplace (map : Finmap (fun _ : κ => ν)) (key : κ) (value : ν) : Finmap (fun _ : κ => ν) :=
  if key ∈ map then map else map.insert key value

/-- Insert under a condition, unless the key is present. -/
def emplaceIf (condition : Bool) (key : κ) (value : ν) (map : Finmap (fun _ : κ => ν)) :
    Finmap (fun _ : κ => ν) :=
  if condition then emplace map key value else map

/-- The first value stored at a key wins; other keys are untouched. -/
theorem lookup_emplace (map : Finmap (fun _ : κ => ν)) (key other : κ) (value : ν) :
    (emplace map key value).lookup other =
      if other = key then some ((map.lookup key).getD value) else map.lookup other := by
  by_cases same : other = key
  · subst other
    by_cases present : key ∈ map
    · obtain ⟨stored, found⟩ := Finmap.mem_iff.mp present
      simp [emplace, present, found]
    · simp [emplace, present, Finmap.lookup_eq_none.mpr present]
  · by_cases present : key ∈ map <;> simp [emplace, present, same]

/-- After an insertion the map is not empty. -/
theorem emplace_ne_empty (map : Finmap (fun _ : κ => ν)) (key : κ) (value : ν) :
    emplace map key value ≠ ∅ := by
  intro empty
  have stored := lookup_emplace map key key value
  rw [empty, if_pos rfl, Finmap.lookup_empty] at stored
  cases stored

/-- A guarded insertion leaves every other key alone. -/
theorem lookup_emplaceIf_ne (condition : Bool) (key other : κ) (value : ν)
    (map : Finmap (fun _ : κ => ν)) (different : other ≠ key) :
    (emplaceIf condition key value map).lookup other = map.lookup other := by
  cases condition with
  | false => simp [emplaceIf]
  | true => simp [emplaceIf, lookup_emplace, different]

/-- At its own key a guarded insertion is seen under its condition. -/
theorem lookup_emplaceIf_self (condition : Bool) (key : κ) (value : ν)
    (map : Finmap (fun _ : κ => ν)) :
    (emplaceIf condition key value map).lookup key =
      if condition = true then some ((map.lookup key).getD value) else map.lookup key := by
  cases condition with
  | false => simp [emplaceIf]
  | true => simp [emplaceIf, lookup_emplace]

/-- Insert the entries that have a value, one after the other. -/
def emplaceEach (map : Finmap (fun _ : κ => ν)) : List (κ × Option ν) → Finmap (fun _ : κ => ν)
  | [] => map
  | entry :: rest => emplaceEach (entry.2.elim map (emplace map entry.1)) rest

/-- The first value that the entries have for a key. -/
def firstOf (key : κ) : List (κ × Option ν) → Option ν
  | [] => none
  | entry :: rest => (if entry.1 = key then entry.2 else none).or (firstOf key rest)

/-- What was there wins, then the first entry that has a value. -/
theorem lookup_emplaceEach (entries : List (κ × Option ν)) (map : Finmap (fun _ : κ => ν)) (key : κ) :
    (emplaceEach map entries).lookup key = (map.lookup key).or (firstOf key entries) := by
  induction entries generalizing map with
  | nil => simp [emplaceEach, firstOf]
  | cons entry rest inductionHypothesis =>
    rw [emplaceEach, inductionHypothesis, firstOf, ← Option.or_assoc]
    congr 1
    obtain ⟨name, value⟩ := entry
    cases value with
    | none => simp
    | some value =>
      rw [Option.elim_some, lookup_emplace]
      by_cases same : key = name
      · subst same
        cases map.lookup key <;> simp
      · simp [same, Ne.symm same]

/-- After assignments through an index, one after the other, a key holds the value
of the last of them that names it. -/
theorem lookup_assigned {α : Type u} (key : α → κ) (value : α → ν) (entries : List α)
    (map : Finmap (fun _ : κ => ν)) (other : κ) :
    (entries.foldl (fun map entry => map.insert (key entry) (value entry)) map).lookup other =
      ((entries.filter (fun entry => key entry = other)).getLast?.map value).or
        (map.lookup other) := by
  induction entries using List.reverseRecOn with
  | nil => rfl
  | append_singleton entries last inductionHypothesis =>
    rw [List.foldl_concat, List.filter_append]
    by_cases same : key last = other
    · subst same
      simp
    · rw [Finmap.lookup_insert_of_ne _ (Ne.symm same), inductionHypothesis]
      simp [same]

section Order

variable {κ : Type u} {ν : Type v} [LinearOrder κ]

/-- The keys of a map, in their order. -/
def sortedKeys (map : Finmap (fun _ : κ => ν)) : List κ := map.keys.sort (· ≤ ·)

/-- They are the keys that are present. -/
@[simp]
theorem mem_sortedKeys (map : Finmap (fun _ : κ => ν)) (key : κ) :
    key ∈ sortedKeys map ↔ key ∈ map :=
  (Finset.mem_sort _).trans Finmap.mem_keys

/-- Each is there once. -/
theorem sortedKeys_nodup (map : Finmap (fun _ : κ => ν)) : (sortedKeys map).Nodup :=
  Finset.sort_nodup _ _

end Order

end LibreLinux.Maps
