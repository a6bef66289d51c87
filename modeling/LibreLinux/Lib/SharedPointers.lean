import Mathlib.Data.Finset.Card
import Mathlib.Logic.Function.Basic

/-!
# Shared pointers

A heap of objects with a use count each, and the variables that point to them.
Copying a pointer counts one more user, resetting one counts one less, and the
object is destroyed with its last user. The count is a number and knows nothing
of the variables; that it is the number of variables pointing to the object is
an invariant of the operations. From it follows what the counting is for: an
object is alive exactly as long as some variable points to it.

Going through a variable whose object is gone, or that is empty where an object
is needed, is undefined in the language. Here it raises a flag that stays up.
-/

namespace LibreLinux.SharedPointers

/-- An object with the number of its users. -/
structure Block (α : Type) where
  value : α
  useCount : Nat

/-- The variables, the objects, the address of the next object, the addresses
whose object was destroyed, and whether a pointer was used without an object. -/
structure SharedHeap (ν α : Type) where
  points : ν → Option Nat := fun _ => none
  blocks : Nat → Option (Block α) := fun _ => none
  next : Nat := 0
  destroyed : List Nat := []
  dangling : Bool := false

namespace SharedHeap

variable {ν α : Type}

/-- The object at an address. -/
def valueAt (heap : SharedHeap ν α) (address : Nat) : Option α :=
  (heap.blocks address).map Block.value

/-- The object a variable points to. -/
def value (heap : SharedHeap ν α) (pointer : ν) : Option α :=
  (heap.points pointer).bind heap.valueAt

/-- The object that would be destroyed if the variable let go of it. -/
def last (heap : SharedHeap ν α) (pointer : ν) : Option α :=
  ((heap.points pointer).bind heap.blocks).bind
    (fun block => if block.useCount ≤ 1 then some block.value else none)

section Operations

variable [DecidableEq ν]

/-- A new object, with one variable pointing to it. -/
def makeShared (heap : SharedHeap ν α) (pointer : ν) (value : α) : SharedHeap ν α :=
  { heap with
    points := Function.update heap.points pointer (some heap.next)
    blocks := Function.update heap.blocks heap.next (some ⟨value, 1⟩)
    next := heap.next + 1 }

/-- Copy a pointer into an empty variable. -/
def copy (heap : SharedHeap ν α) (source target : ν) : SharedHeap ν α :=
  match heap.points source with
  | none => heap
  | some address =>
    match heap.blocks address with
    | none => { heap with dangling := true }
    | some block =>
      { heap with
        points := Function.update heap.points target (some address)
        blocks := Function.update heap.blocks address
          (some { block with useCount := block.useCount + 1 }) }

/-- Empty a variable. The last user destroys the object. -/
def reset (heap : SharedHeap ν α) (pointer : ν) : SharedHeap ν α :=
  match heap.points pointer with
  | none => heap
  | some address =>
    match heap.blocks address with
    | none => { heap with dangling := true }
    | some block =>
      if block.useCount ≤ 1 then
        { heap with
          points := Function.update heap.points pointer none
          blocks := Function.update heap.blocks address none
          destroyed := address :: heap.destroyed }
      else
        { heap with
          points := Function.update heap.points pointer none
          blocks := Function.update heap.blocks address
            (some { block with useCount := block.useCount - 1 }) }

/-- Move a pointer into another variable, which lets go of what it pointed to. -/
def moveAssign (heap : SharedHeap ν α) (source target : ν) : SharedHeap ν α :=
  let released := heap.reset target
  { released with
    points := Function.update (Function.update released.points source none) target
      (released.points source) }

/-- Change the object behind a variable. -/
def modify (heap : SharedHeap ν α) (pointer : ν) (change : α → α) : SharedHeap ν α :=
  match (heap.points pointer).bind (fun address => (heap.blocks address).map (address, ·)) with
  | none => { heap with dangling := true }
  | some (address, block) =>
    { heap with
      blocks := Function.update heap.blocks address
        (some { block with value := change block.value }) }

end Operations

/-- The variables that point to an address. -/
def Users (heap : SharedHeap ν α) (address : Nat) (users : Finset ν) : Prop :=
  ∀ pointer, pointer ∈ users ↔ heap.points pointer = some address

/-- The invariant. Every object has as many users as its count says, and at least
one; every variable points to an object; each address is destroyed once and not
used again; and no pointer was used without an object. -/
structure Counted (heap : SharedHeap ν α) : Prop where
  counts : ∀ address block, heap.blocks address = some block →
    ∃ users, heap.Users address users ∧ users.card = block.useCount ∧ users.Nonempty
  targets : ∀ pointer address, heap.points pointer = some address →
    (heap.blocks address).isSome = true
  issued : ∀ address, heap.next ≤ address → heap.blocks address = none
  gone : ∀ address, address ∈ heap.destroyed ↔
    address < heap.next ∧ heap.blocks address = none
  once : heap.destroyed.Nodup
  defined : heap.dangling = false

/-- Nothing is allocated at first. -/
theorem counted_initial : Counted ({} : SharedHeap ν α) where
  counts := by simp
  targets := by simp
  issued := by simp
  gone := by simp
  once := List.nodup_nil
  defined := rfl

variable {heap : SharedHeap ν α}

/-- An object is alive exactly as long as some variable points to it. -/
theorem alive_iff (counted : heap.Counted) (address : Nat) :
    (heap.valueAt address).isSome = true ↔ ∃ pointer, heap.points pointer = some address := by
  simp only [valueAt, Option.isSome_map]
  constructor
  · intro alive
    obtain ⟨block, present⟩ := Option.isSome_iff_exists.mp alive
    obtain ⟨users, exactly, _, pointer, member⟩ := counted.counts address block present
    exact ⟨pointer, (exactly pointer).mp member⟩
  · rintro ⟨pointer, pointing⟩
    exact counted.targets pointer address pointing

/-- A variable that points somewhere has an object behind it. -/
theorem value_of_points (counted : heap.Counted) {pointer : ν} {address : Nat}
    (pointing : heap.points pointer = some address) :
    ∃ value, heap.valueAt address = some value ∧ heap.value pointer = some value := by
  obtain ⟨value, present⟩ := Option.isSome_iff_exists.mp
    ((alive_iff counted address).mpr ⟨pointer, pointing⟩)
  exact ⟨value, present, by simpa [SharedHeap.value, pointing] using present⟩

/-- Changing where one variable points changes the users of the address it left and of the one
it came to. -/
theorem users_update [DecidableEq ν] {users : Finset ν} {address : Nat}
    (exactly : heap.Users address users) (pointer : ν) (target : Option Nat) (other : ν) :
    Function.update heap.points pointer target other = some address ↔
      other ∈ (if target = some address then insert pointer users else users.erase pointer) := by
  by_cases same : other = pointer
  · subst other
    split <;> simp_all
  · rw [Function.update_of_ne same, ← exactly other]
    split <;> simp [same]

/-- Changing an object goes through a variable that points to it. -/
theorem modify_spec (counted : heap.Counted) (pointer : ν) (change : α → α) {address : Nat}
    {value : α} (pointing : heap.points pointer = some address)
    (stood : heap.valueAt address = some value) :
    (heap.modify pointer change).Counted ∧ (heap.modify pointer change).points = heap.points ∧
      (heap.modify pointer change).valueAt =
        Function.update heap.valueAt address (some (change value)) := by
  obtain ⟨block, present, rfl⟩ := Option.map_eq_some_iff.mp stood
  have located : (heap.points pointer).bind
      (fun address => (heap.blocks address).map (address, ·)) = some (address, block) := by
    simp [pointing, present]
  simp only [modify, located, true_and]
  have isSome : ∀ other, (Function.update heap.blocks address
      (some { block with value := change block.value }) other).isSome =
        (heap.blocks other).isSome := by
    intro other
    by_cases same : other = address
    · simp [same, present]
    · simp [same]
  have isNone : ∀ other, Function.update heap.blocks address
      (some { block with value := change block.value }) other = none ↔
        heap.blocks other = none := by
    intro other
    by_cases same : other = address
    · simp [same, present]
    · simp [same]
  refine ⟨⟨?_, ?_, ?_, ?_, counted.once, counted.defined⟩, ?_⟩
  · intro other found located
    by_cases same : other = address
    · subst other
      simp only [Function.update_self, Option.some.injEq] at located
      subst found
      exact counted.counts address block present
    · exact counted.counts other found (by simpa [same] using located)
  · intro other target pointed
    exact (isSome target).trans (counted.targets other target pointed)
  · intro other beyond
    exact (isNone other).mpr (counted.issued other beyond)
  · intro other
    rw [counted.gone, isNone other]
  · funext other
    by_cases same : other = address
    · simp [valueAt, same]
    · simp [valueAt, same]

/-- What letting go of a pointer does: another variable keeps the object as it is, or the object
is destroyed and no variable pointed to it but this one. -/
inductive Released (heap next : SharedHeap ν α) (pointer : ν) : Option α → Prop
  | kept (same : next.valueAt = heap.valueAt)
      (others : ∀ address, heap.points pointer = some address →
        ∃ other, other ≠ pointer ∧ heap.points other = some address) : Released heap next pointer none
  | destroyed (address : Nat) (value : α) (pointing : heap.points pointer = some address)
      (stood : heap.valueAt address = some value)
      (sole : ∀ other, heap.points other = some address → other = pointer)
      (same : next.valueAt = Function.update heap.valueAt address none) :
      Released heap next pointer (some value)

/-- The other addresses are as they were. -/
theorem Released.elsewhere {next : SharedHeap ν α} {pointer : ν} {dead : Option α}
    (released : Released heap next pointer dead) {other : ν} {address : Nat}
    (apart : other ≠ pointer) (pointing : heap.points other = some address) :
    next.valueAt address = heap.valueAt address := by
  cases released with
  | kept same others => rw [same]
  | destroyed target value pointed stood sole same =>
    have different : address ≠ target := by
      rintro rfl
      exact apart (sole other pointing)
    rw [same, Function.update_of_ne different]

section Kept

variable [DecidableEq ν]

/-- Making an object keeps the counts. -/
theorem counted_make_shared (counted : heap.Counted) (pointer : ν) (value : α)
    (empty : heap.points pointer = none) : (heap.makeShared pointer value).Counted where
  counts := by
    intro address block present
    by_cases new : address = heap.next
    · subst address
      simp only [makeShared, Function.update_self, Option.some.injEq] at present
      subst block
      refine ⟨{pointer}, fun other => ?_, by simp, by simp⟩
      by_cases same : other = pointer
      · simp [makeShared, same]
      · have elsewhere : heap.points other ≠ some heap.next := by
          intro pointing
          have alive := counted.targets other _ pointing
          simp [counted.issued heap.next le_rfl] at alive
        simp [makeShared, same, elsewhere]
    · simp only [makeShared, Function.update_of_ne new] at present
      obtain ⟨users, exactly, count, nonempty⟩ := counted.counts address block present
      refine ⟨users, fun other => ?_, count, nonempty⟩
      by_cases same : other = pointer
      · subst other
        simp [makeShared, exactly pointer, empty, Ne.symm new]
      · simp [makeShared, same, exactly other]
  targets := by
    intro other address pointing
    by_cases new : address = heap.next
    · simp [makeShared, new]
    · by_cases same : other = pointer
      · subst other
        simp [makeShared, Ne.symm new] at pointing
      · simp only [makeShared, Function.update_of_ne same] at pointing
        simpa [makeShared, new] using counted.targets other address pointing
  issued := by
    intro address beyond
    have later : heap.next + 1 ≤ address := beyond
    have new : address ≠ heap.next := by omega
    simpa [makeShared, new] using counted.issued address (by omega)
  gone := by
    intro address
    by_cases new : address = heap.next
    · subst address
      simp [makeShared, counted.gone]
    · have bound : address < heap.next + 1 ↔ address < heap.next := by omega
      simp [makeShared, new, counted.gone, bound]
  once := counted.once
  defined := counted.defined

/-- Copying into an empty variable keeps the counts. -/
theorem counted_copy (counted : heap.Counted) (source target : ν)
    (empty : heap.points target = none) : (heap.copy source target).Counted := by
  unfold copy
  split
  · exact counted
  · rename_i address pointing
    obtain ⟨block, present⟩ := Option.isSome_iff_exists.mp (counted.targets source address pointing)
    simp only [present]
    refine ⟨?_, ?_, ?_, ?_, counted.once, counted.defined⟩
    · intro other found located
      by_cases same : other = address
      · subst other
        simp only [Function.update_self, Option.some.injEq] at located
        subst found
        obtain ⟨users, exactly, count, _⟩ := counted.counts address block present
        have outside : target ∉ users := by simp [exactly target, empty]
        refine ⟨insert target users, fun pointer => ?_, ?_, Finset.insert_nonempty _ _⟩
        · simpa using (users_update exactly target (some address) pointer).symm
        · rw [Finset.card_insert_of_notMem outside, count]
      · simp only [Function.update_of_ne same] at located
        obtain ⟨users, exactly, count, nonempty⟩ := counted.counts other found located
        have outside : target ∉ users := by simp [exactly target, empty]
        refine ⟨users, fun pointer => ?_, count, nonempty⟩
        have updated := users_update exactly target (some address) pointer
        rw [if_neg (by simpa using Ne.symm same), Finset.erase_eq_of_notMem outside] at updated
        exact updated.symm
    · intro pointer other pointed
      by_cases same : other = address
      · simp [same]
      · by_cases new : pointer = target
        · subst pointer
          simp [Ne.symm same] at pointed
        · simp only [Function.update_of_ne new] at pointed
          simpa [same] using counted.targets pointer other pointed
    · intro other beyond
      have same : other ≠ address := by
        rintro rfl
        simp [counted.issued other beyond] at present
      simpa [same] using counted.issued other beyond
    · intro other
      by_cases same : other = address
      · subst other
        simp [counted.gone, present]
      · simp [same, counted.gone]

/-- Resetting a variable keeps the counts. -/
theorem counted_reset (counted : heap.Counted) (pointer : ν) : (heap.reset pointer).Counted := by
  unfold reset
  split
  · exact counted
  · rename_i address pointing
    obtain ⟨block, present⟩ :=
      Option.isSome_iff_exists.mp (counted.targets pointer address pointing)
    obtain ⟨users, exactly, count, nonempty⟩ := counted.counts address block present
    have member : pointer ∈ users := (exactly pointer).mpr pointing
    have fresh : ∀ other, heap.next ≤ other → other ≠ address := by
      rintro other beyond rfl
      simp [counted.issued other beyond] at present
    have bound : address < heap.next := by
      by_contra beyond
      exact fresh address (by omega) rfl
    -- The users of the other addresses stay as they are.
    have beside : ∀ other found, other ≠ address → heap.blocks other = some found →
        ∃ users : Finset ν,
          (∀ other', other' ∈ users ↔
            Function.update heap.points pointer none other' = some other) ∧
          users.card = found.useCount ∧ users.Nonempty := by
      intro other found apart located
      obtain ⟨theirs, exact, sum, some⟩ := counted.counts other found located
      have outside : pointer ∉ theirs := by simp [exact pointer, pointing, Ne.symm apart]
      refine ⟨theirs, fun pointer' => ?_, sum, some⟩
      have updated := users_update exact pointer none pointer'
      rw [if_neg (by simp), Finset.erase_eq_of_notMem outside] at updated
      exact updated.symm
    simp only [present]
    split
    · rename_i last
      have sole : ∀ other, heap.points other = some address → other = pointer := by
        intro other pointed
        exact Finset.card_le_one.mp (count ▸ last) other ((exactly other).mpr pointed) pointer member
      refine ⟨?_, ?_, ?_, ?_, ?_, counted.defined⟩
      · intro other found located
        by_cases same : other = address
        · simp [same] at located
        · exact beside other found same (by simpa [same] using located)
      · intro other target pointed
        by_cases same : other = pointer
        · simp [same] at pointed
        · simp only [Function.update_of_ne same] at pointed
          have apart : target ≠ address := by
            rintro rfl
            exact same (sole other pointed)
          simpa [apart] using counted.targets other target pointed
      · intro other beyond
        simpa [fresh other beyond] using counted.issued other beyond
      · intro other
        by_cases same : other = address
        · simp [same, bound]
        · simp [same, counted.gone]
      · exact List.nodup_cons.mpr ⟨by simp [counted.gone, present], counted.once⟩
    · rename_i more
      refine ⟨?_, ?_, ?_, ?_, counted.once, counted.defined⟩
      · intro other found located
        by_cases same : other = address
        · subst other
          simp only [Function.update_self, Option.some.injEq] at located
          subst found
          refine ⟨users.erase pointer, fun other => ?_, ?_, ?_⟩
          · simpa using (users_update exactly pointer none other).symm
          · rw [Finset.card_erase_of_mem member, count]
          · rw [← Finset.card_pos, Finset.card_erase_of_mem member]
            omega
        · exact beside other found same (by simpa [same] using located)
      · intro other target pointed
        by_cases same : other = pointer
        · simp [same] at pointed
        · simp only [Function.update_of_ne same] at pointed
          by_cases apart : target = address
          · simp [apart]
          · simpa [apart] using counted.targets other target pointed
      · intro other beyond
        simpa [fresh other beyond] using counted.issued other beyond
      · intro other
        by_cases same : other = address
        · simp [same, counted.gone, present]
        · simp [same, counted.gone]

/-- A reset variable is empty, and the others point where they pointed. -/
theorem points_reset (counted : heap.Counted) (pointer : ν) :
    (heap.reset pointer).points = Function.update heap.points pointer none := by
  unfold reset
  split
  · rename_i empty
    rw [← empty, Function.update_eq_self]
  · rename_i address pointing
    obtain ⟨block, present⟩ :=
      Option.isSome_iff_exists.mp (counted.targets pointer address pointing)
    simp only [present]
    split <;> rfl

/-- Every reset is such a release. -/
theorem released_reset (counted : heap.Counted) (pointer : ν) :
    Released heap (heap.reset pointer) pointer (heap.last pointer) := by
  unfold reset last
  cases pointing : heap.points pointer with
  | none => exact .kept rfl (by simp [pointing])
  | some address =>
    obtain ⟨block, present⟩ :=
      Option.isSome_iff_exists.mp (counted.targets pointer address pointing)
    obtain ⟨users, exactly, count, nonempty⟩ := counted.counts address block present
    have member : pointer ∈ users := (exactly pointer).mpr pointing
    have updated : ∀ block' : Option (Block α), ∀ other,
        (Function.update heap.blocks address block' other).map Block.value =
          Function.update heap.valueAt address (block'.map Block.value) other := by
      intro block' other
      by_cases same : other = address
      · simp [same]
      · simp [same, valueAt]
    simp only [present, Option.bind_some]
    split
    · rename_i last
      refine .destroyed address block.value pointing (by simp [valueAt, present]) ?_ ?_
      · intro other pointed
        exact Finset.card_le_one.mp (count ▸ last) other ((exactly other).mpr pointed) pointer member
      · funext other
        exact updated none other
    · rename_i more
      refine .kept ?_ ?_
      · funext other
        refine (updated _ other).trans ?_
        rw [Option.map_some, show some block.value = heap.valueAt address by simp [valueAt, present],
          Function.update_eq_self]
      · intro target same
        cases Option.some.inj (pointing.symm.trans same)
        obtain ⟨other, user, apart⟩ := Finset.exists_mem_ne (show 1 < users.card by omega) pointer
        exact ⟨other, apart, (exactly other).mp user⟩

/-- A variable with nothing to move into it lets go first. -/
theorem points_move_assign (counted : heap.Counted) {source target : ν} (apart : source ≠ target) :
    (heap.moveAssign source target).points =
      Function.update (Function.update heap.points source none) target (heap.points source) := by
  simp only [moveAssign, points_reset counted, Function.update_of_ne apart]
  funext pointer
  by_cases same : pointer = target
  · simp [same]
  · by_cases moved : pointer = source
    · simp [moved, apart]
    · simp [same, moved]

/-- Moving a pointer keeps the counts: the source gives up the use that the target takes over. -/
theorem counted_move_assign (counted : heap.Counted) {source target : ν} (apart : source ≠ target) :
    (heap.moveAssign source target).Counted := by
  have released := counted_reset counted target
  have empty : (heap.reset target).points target = none := by
    rw [points_reset counted, Function.update_self]
  unfold moveAssign
  generalize heap.reset target = next at released empty
  refine ⟨?_, ?_, released.issued, released.gone, released.once, released.defined⟩
  · intro address block present
    obtain ⟨users, exactly, count, nonempty⟩ := released.counts address block present
    have outside : target ∉ users := by simp [exactly target, empty]
    by_cases moving : source ∈ users
    · have pointing := (exactly source).mp moving
      refine ⟨insert target (users.erase source), fun pointer => ?_, ?_, Finset.insert_nonempty _ _⟩
      · by_cases same : pointer = target
        · simp [same, pointing]
        · by_cases moved : pointer = source
          · simp [moved, apart]
          · simp [same, moved, exactly pointer]
      · rw [Finset.card_insert_of_notMem (by simp [outside]), Finset.card_erase_of_mem moving, count]
        have positive := Finset.card_pos.mpr nonempty
        omega
    · have elsewhere : next.points source ≠ some address := fun pointing =>
        moving ((exactly source).mpr pointing)
      refine ⟨users, fun pointer => ?_, count, nonempty⟩
      by_cases same : pointer = target
      · simp [same, outside, elsewhere]
      · by_cases moved : pointer = source
        · simp [moved, apart, moving]
        · simp [same, moved, exactly pointer]
  · intro pointer address pointing
    by_cases same : pointer = target
    · simp only [same, Function.update_self] at pointing
      exact released.targets source address pointing
    · by_cases moved : pointer = source
      · simp [moved, apart] at pointing
      · simp only [Function.update_of_ne same, Function.update_of_ne moved] at pointing
        exact released.targets pointer address pointing

/-- A move lets go of what the target pointed to, and of nothing else. -/
theorem released_move_assign (counted : heap.Counted) (source target : ν) :
    Released heap (heap.moveAssign source target) target (heap.last target) := by
  have released := released_reset counted target
  generalize heap.last target = dead at released ⊢
  cases released with
  | kept same others => exact .kept same others
  | destroyed address value pointing stood sole same =>
    exact .destroyed address value pointing stood sole same

/-- A copy points to the same object, and changes no object. -/
theorem copy_spec (counted : heap.Counted) (source target : ν) (empty : heap.points target = none) :
    (heap.copy source target).points = Function.update heap.points target (heap.points source) ∧
      (heap.copy source target).valueAt = heap.valueAt := by
  unfold copy
  cases pointing : heap.points source with
  | none =>
    refine ⟨?_, rfl⟩
    funext pointer
    by_cases same : pointer = target
    · simp [same, empty]
    · simp [same]
  | some address =>
    obtain ⟨block, present⟩ := Option.isSome_iff_exists.mp (counted.targets source address pointing)
    simp only [present, true_and]
    funext other
    by_cases same : other = address
    · simp [valueAt, same, present]
    · simp [valueAt, same]

/-- A new object is at a new address. -/
theorem make_shared_spec (counted : heap.Counted) (pointer : ν) (value : α) :
    (heap.makeShared pointer value).points =
        Function.update heap.points pointer (some heap.next) ∧
      (heap.makeShared pointer value).valueAt =
        Function.update heap.valueAt heap.next (some value) ∧
      heap.valueAt heap.next = none := by
  refine ⟨rfl, ?_, by simp [valueAt, counted.issued heap.next le_rfl]⟩
  funext other
  by_cases same : other = heap.next
  · simp [valueAt, makeShared, same]
  · simp [valueAt, makeShared, same]

/-- Resetting a variable is invisible to the others. -/
theorem value_reset (counted : heap.Counted) (pointer : ν) :
    (heap.reset pointer).value = Function.update heap.value pointer none := by
  funext other
  by_cases same : other = pointer
  · simp [SharedHeap.value, points_reset counted, same]
  · rw [Function.update_of_ne same]
    simp only [SharedHeap.value, points_reset counted, Function.update_of_ne same]
    cases pointing : heap.points other with
    | none => rfl
    | some address => exact (released_reset counted pointer).elsewhere same pointing

/-- Moving a pointer is invisible to the variables that take no part in it. -/
theorem value_move_assign (counted : heap.Counted) {source target : ν} (apart : source ≠ target) :
    (heap.moveAssign source target).value =
      Function.update (Function.update heap.value source none) target (heap.value source) := by
  have released := released_move_assign counted source target
  funext other
  by_cases same : other = target
  · simp only [SharedHeap.value, points_move_assign counted apart, same, Function.update_self]
    cases pointing : heap.points source with
    | none => rfl
    | some address => exact released.elsewhere apart pointing
  · rw [Function.update_of_ne same]
    by_cases moved : other = source
    · simp [SharedHeap.value, points_move_assign counted apart, moved, apart]
    · rw [Function.update_of_ne moved]
      simp only [SharedHeap.value, points_move_assign counted apart, Function.update_of_ne same,
        Function.update_of_ne moved]
      cases pointing : heap.points other with
      | none => rfl
      | some address => exact released.elsewhere same pointing

/-- A copy sees the object of its source. -/
theorem value_copy (counted : heap.Counted) (source target : ν) (empty : heap.points target = none) :
    (heap.copy source target).value = Function.update heap.value target (heap.value source) := by
  obtain ⟨points, values⟩ := copy_spec counted source target empty
  funext other
  by_cases same : other = target
  · simp [SharedHeap.value, points, values, same]
  · simp [SharedHeap.value, points, values, same]

/-- A new object is seen by the variable it was made for. -/
theorem value_make_shared (counted : heap.Counted) (pointer : ν) (value : α) :
    (heap.makeShared pointer value).value = Function.update heap.value pointer (some value) := by
  obtain ⟨points, values, _⟩ := make_shared_spec counted pointer value
  funext other
  by_cases same : other = pointer
  · simp [SharedHeap.value, points, values, same]
  · rw [Function.update_of_ne same]
    simp only [SharedHeap.value, points, values, Function.update_of_ne same]
    cases pointing : heap.points other with
    | none => rfl
    | some address =>
      have old : address ≠ heap.next := by
        rintro rfl
        have alive := counted.targets other _ pointing
        simp [counted.issued heap.next le_rfl] at alive
      simp [old]

end Kept

/-- What a change of an object leaves alone is as it was for every variable. -/
theorem map_value_modify {β : Type} (counted : heap.Counted) (pointer : ν) (change : α → α)
    (view : α → β) (kept : ∀ value, view (change value) = view value) {address : Nat} {value : α}
    (pointing : heap.points pointer = some address) (stood : heap.valueAt address = some value)
    (other : ν) : ((heap.modify pointer change).value other).map view =
      (heap.value other).map view := by
  obtain ⟨_, points, values⟩ := modify_spec counted pointer change pointing stood
  simp only [SharedHeap.value, points, values]
  cases pointed : heap.points other with
  | none => rfl
  | some target =>
    by_cases same : target = address
    · simp [same, stood, kept]
    · simp [same]

end SharedHeap

end LibreLinux.SharedPointers
