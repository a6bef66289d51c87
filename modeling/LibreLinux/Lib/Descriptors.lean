import Mathlib.Data.List.Perm.Basic
import Mathlib.Data.List.Range

/-!
# Accounting for owned descriptors

A table numbers the descriptors a computation creates, remembers the immutable
content of each, and records which of them were closed and which were given to
an owner that closes them itself. The law is a permutation: the closed, the
adopted and the held descriptors together are exactly the created ones, each
once. Under it nothing is leaked, nothing is closed twice, and nothing is given
away after it was closed. A computation that forgets something it holds breaks
the law, and the break is visible in the lengths.
-/

namespace LibreLinux.Descriptors

universe u

/-- The descriptors of one computation. -/
structure Table (β : Type u) where
  contents : List β := []
  closed : List Nat := []
  adopted : List Nat := []

namespace Table

variable {β : Type u}

/-- Create a descriptor, unless the creation fails. -/
def create (table : Table β) (content : β) (fails : Bool) : Option Nat × Table β :=
  if fails then (none, table)
  else (some table.contents.length, { table with contents := table.contents ++ [content] })

/-- Close descriptors. -/
def close (table : Table β) (fds : List Nat) : Table β :=
  { table with closed := table.closed ++ fds }

/-- Give a descriptor to an owner that closes it. -/
def adopt (table : Table β) (fd : Nat) : Table β :=
  { table with adopted := table.adopted ++ [fd] }

/-- Give several descriptors to owners that close them. -/
def give (table : Table β) (fds : List Nat) : Table β :=
  { table with adopted := table.adopted ++ fds }

/-- What a descriptor holds. -/
def content? (table : Table β) (fd : Nat) : Option β := table.contents[fd]?

/-- Every created descriptor is closed, adopted or held, once. -/
def Conserved (table : Table β) (held : List Nat) : Prop :=
  (table.closed ++ (table.adopted ++ held)).Perm (List.range table.contents.length)

instance (table : Table β) (held : List Nat) : Decidable (table.Conserved held) :=
  inferInstanceAs (Decidable (List.Perm _ _))

/-- Nothing was created yet. -/
theorem conserved_empty : Conserved ({} : Table β) [] := List.Perm.refl []

variable {table : Table β} {held : List Nat}

/-- A new descriptor is held. -/
theorem conserved_create (content : β) (conserved : table.Conserved held) :
    Conserved (table.create content false).2 (held ++ [table.contents.length]) := by
  simp only [Conserved, create, Bool.false_eq_true, if_false, List.length_append,
    List.length_singleton, List.range_succ, ← List.append_assoc]
  apply List.Perm.append_right
  rw [List.append_assoc]
  exact conserved

/-- What is closed is no longer held. -/
theorem conserved_close (fds : List Nat) (conserved : table.Conserved (fds ++ held)) :
    (table.close fds).Conserved held := by
  refine List.Perm.trans ?_ conserved
  simp only [close, List.append_assoc]
  apply List.Perm.append_left
  simp only [← List.append_assoc]
  exact List.perm_append_comm.append_right _

/-- What is adopted is no longer held. -/
theorem conserved_adopt (fd : Nat) (conserved : table.Conserved (fd :: held)) :
    (table.adopt fd).Conserved held := by
  refine List.Perm.trans ?_ conserved
  simp only [adopt, List.append_assoc, List.singleton_append]
  exact List.Perm.refl _

/-- What is given away is no longer held. -/
theorem conserved_give (fds : List Nat) (conserved : table.Conserved (fds ++ held)) :
    (table.give fds).Conserved held := by
  refine List.Perm.trans ?_ conserved
  simp only [give, List.append_assoc]
  exact List.Perm.refl _

/-- An attempted creation: what came of it is held. -/
theorem conserved_attempt (content : β) (fails : Bool) (conserved : table.Conserved held) :
    Conserved (table.create content fails).2 (held ++ (table.create content fails).1.toList) := by
  cases fails with
  | false => exact conserved_create content conserved
  | true => simpa [create] using conserved

/-- A successful creation holds the content it was given. -/
theorem content_created (content : β) (fails : Bool) (fd : Nat)
    (created : (table.create content fails).1 = some fd) :
    (table.create content fails).2.content? fd = some content := by
  cases fails with
  | false =>
    cases Option.some.inj created
    simp [create, content?]
  | true => simp [create] at created

/-- A creation leaves the descriptors before it as they are. -/
theorem content_kept (content : β) (fails : Bool) (fd : Nat) (stored : β)
    (held : table.content? fd = some stored) :
    (table.create content fails).2.content? fd = some stored := by
  cases fails with
  | false =>
    obtain ⟨bounded, _⟩ := List.getElem?_eq_some_iff.mp held
    rw [← held]
    exact List.getElem?_append_left bounded
  | true => exact held

/-- What is held has a content. -/
theorem content_held (conserved : table.Conserved held) (fd : Nat) (member : fd ∈ held) :
    ∃ content, table.content? fd = some content := by
  have created : fd ∈ List.range table.contents.length := by
    apply conserved.mem_iff.mp
    simp [member]
  exact ⟨_, List.getElem?_eq_getElem (List.mem_range.mp created)⟩

@[simp]
theorem content_closed (fds : List Nat) (fd : Nat) :
    (table.close fds).content? fd = table.content? fd := rfl

@[simp]
theorem content_given (fds : List Nat) (fd : Nat) :
    (table.give fds).content? fd = table.content? fd := rfl

/-- Two accounts of one table hold equally many descriptors, so a forgotten
descriptor breaks the law. -/
theorem conserved_length (other : List Nat) (first : table.Conserved held)
    (second : table.Conserved other) : held.length = other.length := by
  have lengths := first.length_eq.trans second.length_eq.symm
  simp only [List.length_append] at lengths
  omega

/-- A forgotten descriptor is a leak. -/
theorem not_conserved_forgotten (nonempty : held ≠ []) (conserved : table.Conserved held) :
    ¬ table.Conserved [] := by
  intro forgotten
  have lengths := conserved_length [] conserved forgotten
  exact nonempty (List.eq_nil_of_length_eq_zero lengths)

/-- The order in which descriptors are held does not matter. -/
theorem conserved_perm (other : List Nat) (same : other.Perm held) (conserved : table.Conserved held) :
    table.Conserved other :=
  ((same.append_left _).append_left _).trans conserved

end Table

end LibreLinux.Descriptors
