import Mathlib.Data.Finmap

/-!
# Maps of maps

A two-level map is read cell by cell. Storing at a key and a field creates the
key's inner map when it is missing, so a map built by stores alone has no empty
inner map; such maps are equal when their cells are. Storing every field of
another map at one key gives that map's fields precedence over what was there.
-/

namespace LibreLinux.NestedMaps

universe u v w
variable {κ : Type u} {ι : Type v} {ν : Type w} [DecidableEq κ]

/-- A map from keys to maps from fields to values. -/
abbrev Nested (κ : Type u) (ι : Type v) (ν : Type w) := Finmap (fun _ : κ => Finmap (fun _ : ι => ν))

/-- No key has an empty inner map. -/
def Tidy (map : Nested κ ι ν) : Prop := ∀ key inner, map.lookup key = some inner → inner ≠ ∅

/-- Nothing stored yet. -/
theorem tidy_empty : Tidy (∅ : Nested κ ι ν) := by
  intro key inner found
  simp at found

/-- Replacing a key's inner map by one that is not empty keeps a map tidy. -/
theorem tidy_insert (map : Nested κ ι ν) (key : κ) (inner : Finmap (fun _ : ι => ν))
    (filled : inner ≠ ∅) (tidy : Tidy map) : Tidy (map.insert key inner) := by
  intro other stored found
  by_cases same : other = key
  · subst same
    rw [Finmap.lookup_insert] at found
    cases found
    exact filled
  · rw [Finmap.lookup_insert_of_ne _ same] at found
    exact tidy other stored found

variable [DecidableEq ι]

/-- The value at a key and a field. -/
def cell (map : Nested κ ι ν) (key : κ) (field : ι) : Option ν :=
  (map.lookup key).bind (fun inner => inner.lookup field)

/-- Assign the value at a key and a field, as `map[key][field] = value` does. -/
def store (map : Nested κ ι ν) (key : κ) (field : ι) (value : ν) : Nested κ ι ν :=
  map.insert key (((map.lookup key).getD ∅).insert field value)

/-- Nothing is stored in the empty map. -/
@[simp] theorem cell_empty (key : κ) (field : ι) : cell (∅ : Nested κ ι ν) key field = none := by
  simp [cell]

/-- The cells under a key that was replaced. -/
theorem cell_insert (map : Nested κ ι ν) (key other : κ) (inner : Finmap (fun _ : ι => ν))
    (field : ι) :
    cell (map.insert key inner) other field =
      if other = key then inner.lookup field else cell map other field := by
  by_cases same : other = key
  · subst same
    simp [cell]
  · simp [cell, same]

/-- A store is seen at its own cell only. -/
theorem cell_store (map : Nested κ ι ν) (key other : κ) (field named : ι) (value : ν) :
    cell (store map key field value) other named =
      if other = key ∧ named = field then some value else cell map other named := by
  rw [store, cell_insert]
  by_cases same : other = key
  · subst same
    by_cases here : named = field
    · subst here
      simp
    · rw [if_pos rfl, Finmap.lookup_insert_of_ne _ here, if_neg (fun both => here both.2), cell]
      cases map.lookup other with
      | none => simp
      | some inner => simp
  · simp [same]

/-- A store leaves no empty inner map. -/
theorem tidy_store (map : Nested κ ι ν) (key : κ) (field : ι) (value : ν) (tidy : Tidy map) :
    Tidy (store map key field value) := by
  apply tidy_insert _ _ _ _ tidy
  intro empty
  have stored := Finmap.lookup_insert (a := field) (b := value) ((map.lookup key).getD ∅)
  rw [empty, Finmap.lookup_empty] at stored
  cases stored

/-- Tidy maps with the same cells are equal. -/
theorem ext_cells (first second : Nested κ ι ν) (tidyFirst : Tidy first) (tidySecond : Tidy second)
    (same : ∀ key field, cell first key field = cell second key field) : first = second := by
  -- an inner map that only one side has would be empty
  have missing : ∀ (left right : Nested κ ι ν) (key : κ), Tidy right →
      (∀ field, cell left key field = cell right key field) → left.lookup key = none →
      right.lookup key = none := by
    intro left right key tidy cells absent
    cases found : right.lookup key with
    | none => rfl
    | some inner =>
      refine absurd (Finmap.ext_lookup ?_) (tidy key inner found)
      intro field
      simpa [cell, absent, found, eq_comm] using cells field
  apply Finmap.ext_lookup
  intro key
  cases left : first.lookup key with
  | none => exact (missing first second key tidySecond (same key) left).symm
  | some inner =>
    cases right : second.lookup key with
    | none =>
      rw [missing second first key tidyFirst (fun field => (same key field).symm) right] at left
      cases left
    | some other =>
      have equal : inner = other := by
        apply Finmap.ext_lookup
        intro field
        simpa [cell, left, right] using same key field
      rw [equal]

/-- Store the listed fields of a map at one key, in order. -/
def storeEach (map : Nested κ ι ν) (key : κ) (order : List ι) (fields : Finmap (fun _ : ι => ν)) :
    Nested κ ι ν :=
  order.foldl (fun map field =>
    match fields.lookup field with
    | none => map
    | some value => store map key field value) map

/-- A listed field of the stored map takes precedence at its key; every other
cell stays. -/
theorem cell_store_each (map : Nested κ ι ν) (key other : κ) (order : List ι)
    (fields : Finmap (fun _ : ι => ν)) (named : ι) :
    cell (storeEach map key order fields) other named =
      if other = key ∧ named ∈ order then (fields.lookup named).or (cell map other named)
      else cell map other named := by
  induction order generalizing map with
  | nil => simp [storeEach]
  | cons field rest inductionHypothesis =>
    rw [storeEach, List.foldl_cons, ← storeEach, inductionHypothesis]
    cases found : fields.lookup field with
    | none =>
      by_cases here : named = field
      · subst here
        simp [found]
      · simp [here]
    | some value =>
      simp only [cell_store, List.mem_cons]
      by_cases here : named = field
      · subst here
        by_cases same : other = key <;> simp [same, found]
      · simp [here]

/-- Storing fields leaves no empty inner map. -/
theorem tidy_store_each (map : Nested κ ι ν) (key : κ) (order : List ι)
    (fields : Finmap (fun _ : ι => ν)) (tidy : Tidy map) : Tidy (storeEach map key order fields) := by
  induction order generalizing map with
  | nil => exact tidy
  | cons field rest inductionHypothesis =>
    rw [storeEach, List.foldl_cons, ← storeEach]
    apply inductionHypothesis
    split
    · exact tidy
    · exact tidy_store map key field _ tidy

end LibreLinux.NestedMaps
