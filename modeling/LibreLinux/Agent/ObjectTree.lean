import LibreLinux.Lib.Runs
import LibreLinux.Wire.Variant
import Mathlib.Data.List.Sort
import Mathlib.Data.String.Basic

/-!
# The agent's objects on the bus

A reader or card object is registered and then announces itself; it is withdrawn
by announcing its removal and then unregistering. Other calls can be served
between the two steps, and `GetManagedObjects` lists what is registered at that
moment. A card's path is known before its object exists, and the object may never
come to exist. A reader shows its card by properties whose change is not
announced to the object manager.

Object paths are unique and never used again. A path carries its stage to the
end, so every question about the past of an object is one about its stage.
-/

namespace LibreLinux.Agent

open Wire (Variant Dict Interfaces ManagedObjects kReaderIface kCardIface)

/-- How far an object has come: its path is known, it is registered, announced,
its removal is announced, or it is unregistered. -/
inductive ExportStage where
  | pending
  | registered
  | announced
  | removing
  | gone
deriving DecidableEq, Repr

/-- Whether the bus serves the object. -/
def ExportStage.served : ExportStage → Bool
  | .pending => false
  | .registered => true
  | .announced => true
  | .removing => true
  | .gone => false

/-- What an object is: a reader with the card it shows, or a card with its reader
and the method it asks for before it can be read. -/
inductive ObjectContent where
  | reader (name : String) (card : Option String)
  | card (reader : String) (preReadAuthMethod : String)
deriving DecidableEq, Repr

/-- An object of the tree. -/
structure TreeObject where
  stage : ExportStage
  content : ObjectContent
deriving DecidableEq, Repr

/-- The interfaces and properties a client reads. A reader without a card has the
root path in its card property. -/
def ObjectContent.interfaces : ObjectContent → Interfaces
  | .reader name shown =>
    Finmap.singleton kReaderIface
      ((((∅ : Dict).insert "Name" (.string name)).insert "HasCard" (.boolean shown.isSome)).insert
        "Card" (.objectPath (shown.getD "/")))
  | .card _ preReadAuthMethod =>
    Finmap.singleton kCardIface
      ((∅ : Dict).insert "PreReadAuthMethod" (.string preReadAuthMethod))

/-- The objects by path, and the paths in order. -/
structure ObjectTree where
  paths : List String := []
  objects : String → Option TreeObject := fun _ => none

/-- An object-manager signal. -/
inductive TreeSignal where
  | interfacesAdded (path : String)
  | interfacesRemoved (path : String)
deriving DecidableEq, Repr

/-- A step of the agent. -/
inductive TreeEvent where
  | registerReader (path name : String) (card : Option String)
  | insertCard (path reader preReadAuthMethod : String)
  | dropCard (path : String)
  | registerCard (path : String)
  | announce (path : String)
  | withdraw (path : String)
  | unregister (path : String)
  | updateCardPresence (reader : String) (card : Option String)

namespace ObjectTree

/-- Put an object at a path. -/
def set (tree : ObjectTree) (path : String) (object : TreeObject) : ObjectTree :=
  { tree with objects := Function.update tree.objects path (some object) }

/-- Put an object at a new path. -/
def add (tree : ObjectTree) (path : String) (object : TreeObject) : ObjectTree :=
  { tree.set path object with paths := tree.paths.orderedInsert (· ≤ ·) path }

/-- The stage of a reader. -/
def readerStage (tree : ObjectTree) (path : String) : Option ExportStage :=
  match tree.objects path with
  | some ⟨stage, .reader _ _⟩ => some stage
  | _ => none

/-- The stage of a card of a reader. -/
def cardStage (tree : ObjectTree) (reader path : String) : Option ExportStage :=
  match tree.objects path with
  | some ⟨stage, .card owner _⟩ => if owner = reader then some stage else none
  | _ => none

/-- Whether the bus serves an object at the path. -/
def serves (tree : ObjectTree) (path : String) : Bool :=
  match tree.objects path with
  | some object => object.stage.served
  | none => false

/-- The reply to `GetManagedObjects`. -/
def managedObjects (tree : ObjectTree) : ManagedObjects :=
  tree.paths.filterMap (fun path => (tree.objects path).bind (fun object =>
    if object.stage.served then some (path, object.content.interfaces) else none))

/-- A path that can be given to a new object. -/
def fresh (tree : ObjectTree) (path : String) : Bool :=
  path != "" && (tree.objects path).isNone

/-- Whether a reader may show this card: one of its own, or none. -/
def showable (tree : ObjectTree) (reader : String) (card : Option String) : Bool :=
  match card with
  | none => true
  | some path => (tree.cardStage reader path).isSome

/-- Move an object from one stage to the next. -/
def move (tree : ObjectTree) (path : String) (source target : ExportStage) : Option ObjectTree :=
  (tree.objects path).bind (fun object =>
    if object.stage = source then some (tree.set path { object with stage := target }) else none)

/-- One step, with the signals it emits. -/
def step (tree : ObjectTree) : TreeEvent → Option (ObjectTree × List TreeSignal)
  | .registerReader path name card =>
    if tree.fresh path && tree.showable path card then
      some (tree.add path ⟨.registered, .reader name card⟩, [])
    else none
  | .insertCard path reader preReadAuthMethod =>
    if tree.fresh path then
      some (tree.add path ⟨.pending, .card reader preReadAuthMethod⟩, [])
    else none
  | .dropCard path => (tree.move path .pending .gone).map (fun next => (next, []))
  | .registerCard path => (tree.move path .pending .registered).map (fun next => (next, []))
  | .announce path =>
    (tree.move path .registered .announced).map (fun next => (next, [.interfacesAdded path]))
  | .withdraw path =>
    (tree.move path .announced .removing).map (fun next => (next, [.interfacesRemoved path]))
  | .unregister path => (tree.move path .removing .gone).map (fun next => (next, []))
  | .updateCardPresence reader card =>
    match tree.objects reader with
    | some ⟨stage, .reader name _⟩ =>
      if stage.served && tree.showable reader card then
        some (tree.set reader ⟨stage, .reader name card⟩, [])
      else none
    | _ => none

/-- A reader's stage is that of a reader object. -/
theorem reader_stage_known (tree : ObjectTree) (path : String) (stage : ExportStage)
    (known : tree.readerStage path = some stage) :
    ∃ name shown, tree.objects path = some ⟨stage, .reader name shown⟩ := by
  simp only [readerStage] at known
  split at known
  case h_1 current name shown found =>
    cases known
    exact ⟨name, shown, found⟩
  case h_2 => cases known

/-- A known card of a reader is a card object that names the reader. -/
theorem card_stage_known (tree : ObjectTree) (reader card : String)
    (known : (tree.cardStage reader card).isSome = true) :
    ∃ stage method, tree.objects card = some ⟨stage, .card reader method⟩ ∧
      tree.cardStage reader card = some stage := by
  simp only [cardStage] at known ⊢
  split at known
  case h_1 stage owner method found =>
    by_cases same : owner = reader
    · subst same
      exact ⟨stage, method, found, by simp⟩
    · simp [same] at known
  case h_2 => cases known

/-- A move changes the stage of one object. -/
theorem move_inv (tree next : ObjectTree) (path : String) (source target : ExportStage)
    (moved : tree.move path source target = some next) :
    ∃ object, tree.objects path = some object ∧ object.stage = source ∧
      next = tree.set path { object with stage := target } := by
  simp only [move, Option.bind_eq_some_iff] at moved
  obtain ⟨object, found, moved⟩ := moved
  split_ifs at moved with current
  cases moved
  exact ⟨object, found, current, rfl⟩

/-- What a step can do: add an object at a fresh path, move an object to its next
stage, or change the card a reader shows. A move that emits nothing leads from
pending to registered, or to the end. -/
theorem step_cases (tree next : ObjectTree) (event : TreeEvent) (signals : List TreeSignal)
    (stepped : tree.step event = some (next, signals)) :
    (∃ path object, tree.fresh path = true ∧ next = tree.add path object ∧
      (object.stage = .registered ∨ object.stage = .pending) ∧
      ∀ name card, object.content = .reader name (some card) →
        (tree.cardStage path card).isSome = true) ∨
    (∃ path object target, tree.objects path = some object ∧
      next = tree.set path { object with stage := target } ∧
      (signals = [] → object.stage = .pending ∧ (target = .registered ∨ target = .gone) ∨
        object.stage = .removing ∧ target = .gone)) ∨
    (∃ path stage name shown card, tree.objects path = some ⟨stage, .reader name shown⟩ ∧
      tree.showable path card = true ∧ next = tree.set path ⟨stage, .reader name card⟩) := by
  cases event with
  | registerReader path name card =>
    simp only [step] at stepped
    split_ifs at stepped with allowed
    cases stepped
    obtain ⟨fresh, showable⟩ := Bool.and_eq_true_iff.mp allowed
    refine Or.inl ⟨path, _, fresh, rfl, Or.inl rfl, ?_⟩
    intro shown other content
    cases content
    exact showable
  | insertCard path reader method =>
    simp only [step] at stepped
    split_ifs at stepped with fresh
    cases stepped
    refine Or.inl ⟨path, _, fresh, rfl, Or.inr rfl, ?_⟩
    intro shown other content
    cases content
  | updateCardPresence reader card =>
    simp only [step] at stepped
    split at stepped
    case h_1 stage name shown found =>
      split_ifs at stepped with allowed
      cases stepped
      exact Or.inr (Or.inr ⟨reader, stage, name, shown, card, found,
        (Bool.and_eq_true_iff.mp allowed).2, rfl⟩)
    case h_2 => cases stepped
  | dropCard path =>
    obtain ⟨moved, result, same⟩ := Option.map_eq_some_iff.mp stepped
    cases same
    obtain ⟨object, found, stage, rfl⟩ := move_inv tree next path _ _ result
    exact Or.inr (Or.inl ⟨path, object, _, found, rfl, fun _ => Or.inl ⟨stage, Or.inr rfl⟩⟩)
  | registerCard path =>
    obtain ⟨moved, result, same⟩ := Option.map_eq_some_iff.mp stepped
    cases same
    obtain ⟨object, found, stage, rfl⟩ := move_inv tree next path _ _ result
    exact Or.inr (Or.inl ⟨path, object, _, found, rfl, fun _ => Or.inl ⟨stage, Or.inl rfl⟩⟩)
  | unregister path =>
    obtain ⟨moved, result, same⟩ := Option.map_eq_some_iff.mp stepped
    cases same
    obtain ⟨object, found, stage, rfl⟩ := move_inv tree next path _ _ result
    exact Or.inr (Or.inl ⟨path, object, _, found, rfl, fun _ => Or.inr ⟨stage, rfl⟩⟩)
  | announce path =>
    obtain ⟨moved, result, same⟩ := Option.map_eq_some_iff.mp stepped
    cases same
    obtain ⟨object, found, stage, rfl⟩ := move_inv tree next path _ _ result
    exact Or.inr (Or.inl ⟨path, object, _, found, rfl, fun silent => by cases silent⟩)
  | withdraw path =>
    obtain ⟨moved, result, same⟩ := Option.map_eq_some_iff.mp stepped
    cases same
    obtain ⟨object, found, stage, rfl⟩ := move_inv tree next path _ _ result
    exact Or.inr (Or.inl ⟨path, object, _, found, rfl, fun silent => by cases silent⟩)

/-- Paths are distinct and not empty, every object's path is listed, and a reader
shows only cards of its own. -/
structure Formed (tree : ObjectTree) : Prop where
  nodup : tree.paths.Nodup
  listed : ∀ path object, tree.objects path = some object → path ∈ tree.paths
  known : ∀ path, path ∈ tree.paths → (tree.objects path).isSome = true
  nonempty : tree.objects "" = none
  owned : ∀ path stage name card, tree.objects path = some ⟨stage, .reader name (some card)⟩ →
    (tree.cardStage path card).isSome = true

/-- The empty tree is formed. -/
theorem formed_initial : Formed {} where
  nodup := List.nodup_nil
  listed _ _ found := by cases found
  known _ member := by cases member
  nonempty := rfl
  owned _ _ _ _ found := by cases found

end ObjectTree

/-- Registered, and the removal is still to be announced. -/
def Up (stage : Option ExportStage) : Prop := stage = some .registered ∨ stage = some .announced

/-- An object that is served and not being removed is up. -/
theorem up_of_served (stage : ExportStage) (served : stage.served = true)
    (staying : some stage ≠ some .removing) : Up (some stage) := by
  cases stage with
  | registered => exact Or.inl rfl
  | announced => exact Or.inr rfl
  | removing => exact absurd rfl staying
  | pending => cases served
  | gone => cases served

/-- What a step without a signal does to an object seen from outside: it stays up
if it was, and neither an announcement nor a removal is news. -/
structure Quiet (before after : Option ExportStage) : Prop where
  up : Up before → Up after
  announced : after = some .announced → before = some .announced
  removing : after = some .removing → before = some .removing
  known : before.isSome = true → after.isSome = true

/-- Nothing changed. -/
theorem quiet_refl (stage : Option ExportStage) : Quiet stage stage := ⟨id, id, id, id⟩

namespace ObjectTree

/-- Every object seen from outside is quiet. -/
structure Silent (tree next : ObjectTree) : Prop where
  readers : ∀ path, Quiet (tree.readerStage path) (next.readerStage path)
  cards : ∀ reader path, Quiet (tree.cardStage reader path) (next.cardStage reader path)

/-- Putting an object at a path is silent if it is quiet there. -/
theorem silent_set (tree : ObjectTree) (path : String) (object : TreeObject)
    (reader : Quiet (tree.readerStage path) ((tree.set path object).readerStage path))
    (cards : ∀ owner, Quiet (tree.cardStage owner path) ((tree.set path object).cardStage owner path)) :
    tree.Silent (tree.set path object) where
  readers other := by
    by_cases same : other = path
    · exact same ▸ reader
    · simp only [readerStage, set, Function.update_of_ne same]
      exact quiet_refl _
  cards owner other := by
    by_cases same : other = path
    · exact same ▸ cards owner
    · simp only [cardStage, set, Function.update_of_ne same]
      exact quiet_refl _

/-- A new object that is neither announced nor being removed is quiet. -/
theorem quiet_new (stage : ExportStage) (new : stage = .registered ∨ stage = .pending) :
    Quiet none (some stage) := by
  obtain rfl | rfl := new <;> constructor <;> simp [Up]

/-- A move without a signal is quiet. -/
theorem quiet_move (source target : ExportStage)
    (moved : source = .pending ∧ (target = .registered ∨ target = .gone) ∨
      source = .removing ∧ target = .gone) : Quiet (some source) (some target) := by
  obtain ⟨rfl, rfl | rfl⟩ | ⟨rfl, rfl⟩ := moved <;> constructor <;> simp [Up]

/-- A fresh path has no object. -/
theorem fresh_absent (tree : ObjectTree) (path : String) (fresh : tree.fresh path = true) :
    path ≠ "" ∧ tree.objects path = none := by
  simpa [ObjectTree.fresh] using fresh

/-- A step that emits nothing is silent. -/
theorem silent_step (tree next : ObjectTree) (event : TreeEvent)
    (stepped : tree.step event = some (next, [])) : tree.Silent next := by
  obtain ⟨path, object, fresh, rfl, new, -⟩ | ⟨path, object, target, found, rfl, moved⟩ |
    ⟨path, stage, name, shown, card, found, -, rfl⟩ := step_cases tree next event [] stepped
  · obtain ⟨-, absent⟩ := fresh_absent tree path fresh
    have silent : tree.Silent (tree.set path object) := by
      obtain ⟨stage, content⟩ := object
      refine silent_set tree path _ ?_ (fun owner => ?_)
      · cases content with
        | reader name card => simpa [readerStage, set, absent] using quiet_new stage new
        | card reader method => simpa [readerStage, set, absent] using quiet_refl none
      · cases content with
        | reader name card => simpa [cardStage, set, absent] using quiet_refl none
        | card reader method =>
          by_cases same : reader = owner
          · simpa [cardStage, set, absent, same] using quiet_new stage new
          · simpa [cardStage, set, absent, same] using quiet_refl none
    exact ⟨silent.readers, silent.cards⟩
  · obtain ⟨stage, content⟩ := object
    refine silent_set tree path _ ?_ (fun owner => ?_)
    · cases content with
      | reader name card => simpa [readerStage, set, found] using quiet_move stage target (moved rfl)
      | card reader method => simpa [readerStage, set, found] using quiet_refl none
    · cases content with
      | reader name card => simpa [cardStage, set, found] using quiet_refl none
      | card reader method =>
        by_cases same : reader = owner
        · simpa [cardStage, set, found, same] using quiet_move stage target (moved rfl)
        · simpa [cardStage, set, found, same] using quiet_refl none
  · refine silent_set tree path _ ?_ (fun owner => ?_)
    · simpa [readerStage, set, found] using quiet_refl (some stage)
    · simpa [cardStage, set, found] using quiet_refl none

/-- Once known, a card stays its reader's: putting an object at a path keeps it if
it is a card of the same reader there. -/
theorem card_known_set (tree : ObjectTree) (path : String) (object : TreeObject)
    (here : ∀ reader, (tree.cardStage reader path).isSome = true →
      ((tree.set path object).cardStage reader path).isSome = true)
    (reader card : String) (known : (tree.cardStage reader card).isSome = true) :
    ((tree.set path object).cardStage reader card).isSome = true := by
  by_cases same : card = path
  · subst same
    exact here reader known
  · simpa only [cardStage, set, Function.update_of_ne same] using known

/-- Once known, a card stays its reader's. -/
theorem card_known_step (tree next : ObjectTree) (event : TreeEvent) (signals : List TreeSignal)
    (stepped : tree.step event = some (next, signals)) (reader card : String)
    (known : (tree.cardStage reader card).isSome = true) :
    (next.cardStage reader card).isSome = true := by
  obtain ⟨path, object, fresh, rfl, -, -⟩ | ⟨path, object, target, found, rfl, -⟩ |
    ⟨path, stage, name, shown, other, found, -, rfl⟩ := step_cases tree next event signals stepped
  · refine card_known_set tree path object (fun owner present => ?_) reader card known
    simp [cardStage, (fresh_absent tree path fresh).2] at present
  · refine card_known_set tree path _ (fun owner present => ?_) reader card known
    obtain ⟨stage, content⟩ := object
    cases content with
    | reader name shown => simp [cardStage, found] at present
    | card holder method =>
      by_cases same : holder = owner
      · simp [cardStage, set, same]
      · simp [cardStage, found, same] at present
  · refine card_known_set tree path _ (fun owner present => ?_) reader card known
    simp [cardStage, found] at present

/-- Putting an object at a path keeps the tree formed, if the path is listed
with the others. -/
theorem formed_put (tree : ObjectTree) (path : String) (object : TreeObject) (paths : List String)
    (nodup : paths.Nodup) (members : ∀ other, other ∈ paths ↔ other = path ∨ other ∈ tree.paths)
    (nonempty : path ≠ "")
    (known : ∀ reader card, (tree.cardStage reader card).isSome = true →
      ((tree.set path object).cardStage reader card).isSome = true)
    (owned : ∀ name card, object.content = .reader name (some card) →
      (tree.cardStage path card).isSome = true)
    (formed : tree.Formed) : Formed { tree.set path object with paths } where
  nodup := nodup
  listed other found present := by
    rw [members]
    by_cases same : other = path
    · exact Or.inl same
    · simp only [set, Function.update_of_ne same] at present
      exact Or.inr (formed.listed other found present)
  known other member := by
    by_cases same : other = path
    · simp [set, same]
    · simp only [set, Function.update_of_ne same]
      exact formed.known other (((members other).mp member).resolve_left same)
  nonempty := by
    simp only [set, Function.update_of_ne nonempty.symm]
    exact formed.nonempty
  owned other stage name card present := by
    apply known other card
    by_cases same : other = path
    · subst same
      simp only [set, Function.update_self, Option.some.injEq] at present
      exact owned name card (by rw [present])
    · simp only [set, Function.update_of_ne same] at present
      exact formed.owned other stage name card present

/-- Putting an object in place of another keeps the tree formed. -/
theorem formed_set (tree : ObjectTree) (path : String) (old object : TreeObject)
    (found : tree.objects path = some old)
    (known : ∀ reader card, (tree.cardStage reader card).isSome = true →
      ((tree.set path object).cardStage reader card).isSome = true)
    (owned : ∀ name card, object.content = .reader name (some card) →
      (tree.cardStage path card).isSome = true)
    (formed : tree.Formed) : (tree.set path object).Formed := by
  have nonempty : path ≠ "" := by
    rintro rfl
    rw [formed.nonempty] at found
    cases found
  have listed := formed.listed path old found
  refine formed_put tree path object tree.paths formed.nodup ?_ nonempty known owned formed
  intro other
  constructor
  · exact Or.inr
  · rintro (rfl | member)
    · exact listed
    · exact member

/-- Every step keeps the tree formed. -/
theorem formed_step (tree next : ObjectTree) (event : TreeEvent) (signals : List TreeSignal)
    (formed : tree.Formed) (stepped : tree.step event = some (next, signals)) : next.Formed := by
  have known := card_known_step tree next event signals stepped
  obtain ⟨path, object, fresh, rfl, -, owned⟩ | ⟨path, object, target, found, rfl, -⟩ |
    ⟨path, stage, name, shown, card, found, showable, rfl⟩ :=
    step_cases tree next event signals stepped
  · obtain ⟨nonempty, absent⟩ := fresh_absent tree path fresh
    have unlisted : path ∉ tree.paths := by
      intro member
      have present := formed.known path member
      simp [absent] at present
    have nodup : (tree.paths.orderedInsert (· ≤ ·) path).Nodup :=
      (List.perm_orderedInsert (· ≤ ·) path tree.paths).nodup_iff.mpr
        (List.nodup_cons.mpr ⟨unlisted, formed.nodup⟩)
    exact formed_put tree path object _ nodup (fun other => by rw [List.mem_orderedInsert])
      nonempty known owned formed
  · refine formed_set tree path object _ found known ?_ formed
    intro name card content
    exact formed.owned path object.stage name card (by rw [found, ← content])
  · refine formed_set tree path _ _ found known ?_ formed
    intro label other content
    cases content
    exact showable

/-- The reply lists the served objects. -/
theorem mem_managed_objects (tree : ObjectTree) (formed : tree.Formed) (path : String)
    (interfaces : Interfaces) :
    (path, interfaces) ∈ tree.managedObjects ↔
      ∃ object, tree.objects path = some object ∧ object.stage.served = true ∧
        interfaces = object.content.interfaces := by
  simp only [managedObjects, List.mem_filterMap, Option.bind_eq_some_iff,
    Option.ite_none_right_eq_some, Option.some.injEq, Prod.mk.injEq]
  constructor
  · rintro ⟨other, -, object, found, served, rfl, rfl⟩
    exact ⟨object, found, served, rfl⟩
  · rintro ⟨object, found, served, rfl⟩
    exact ⟨path, formed.listed path object found, object, found, served, rfl, rfl⟩

/-- The reply's paths are distinct. -/
theorem managed_objects_nodup (tree : ObjectTree) (formed : tree.Formed) :
    (tree.managedObjects.map Prod.fst).Nodup := by
  refine List.Nodup.sublist ?_ formed.nodup
  simp only [managedObjects]
  induction tree.paths with
  | nil => exact List.Sublist.slnil
  | cons path rest inductionHypothesis =>
    cases found : tree.objects path with
    | none => simpa [found] using inductionHypothesis.cons path
    | some object =>
      by_cases served : object.stage.served = true
      · simpa [found, served] using inductionHypothesis.cons_cons path
      · simpa [found, served] using inductionHypothesis.cons path

end ObjectTree

end LibreLinux.Agent
