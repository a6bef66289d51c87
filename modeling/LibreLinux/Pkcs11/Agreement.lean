import LibreLinux.Lib.Counters
import LibreLinux.Pkcs11.CallSteps
import LibreLinux.Pkcs11.Link

/-!
# Agreement of the kept slot list with the tree

The kept list need not match the tree while changes are still to be announced.
Agreement is what is left: what the list has is up, what is announced is in the
list. Every step of the agent that emits no signal keeps it, and every other step
makes the next call enumerate. A reply agrees with a calm tree, one in which no
announced change is still to be made, and a walk over it keeps agreeing: a card
that is not served fails its read, and a card settled earlier is up unless the
signal that forgets it is on its way.

A card is settled if the generation is the one its enumeration began in. The
generation counts signals modulo `2 ^ 64`, so this says that none came between
only while fewer of them were handled.
-/

namespace LibreLinux.Pkcs11

open Agent (ObjectTree ObjectContent ExportStage TreeObject TreeEvent TreeSignal Quiet Up)
open Runs

section Agreement

variable {ε : Type}

/-- A kept reader is up; if it has a card, a card of it is up, and if it has none,
no card of it is announced. -/
structure ReaderAgrees (tree : ObjectTree) (reader : ReaderState ε) : Prop where
  up : Up (tree.readerStage reader.readerPath)
  occupied : reader.hasCard = true → ∃ card, Up (tree.cardStage reader.readerPath card)
  vacant : reader.hasCard = false →
    ∀ card, tree.cardStage reader.readerPath card ≠ some .announced

/-- A kept list agrees with the tree up to changes that are still to be announced:
its readers agree, and no announced reader is missing. -/
structure ListAgrees (tree : ObjectTree) (kept : List (ReaderState ε)) : Prop where
  readers : ∀ reader ∈ kept, ReaderAgrees tree reader
  announced : ∀ path, tree.readerStage path = some .announced →
    path ∈ kept.map ReaderState.readerPath

/-- An object of a reply that is still to be visited. A card that its reader shows
is not being removed; it may not be registered yet, or not any more. -/
inductive Listed (tree : ObjectTree) : String × Wire.Interfaces → Prop where
  | card (path owner method : String) (other : tree.readerStage path ≠ some .announced) :
      Listed tree (path, (ObjectContent.card owner method).interfaces)
  | vacant (path name : String) (up : Up (tree.readerStage path))
      (unannounced : ∀ card, tree.cardStage path card ≠ some .announced) :
      Listed tree (path, (ObjectContent.reader name none).interfaces)
  | occupied (path name card : String) (up : Up (tree.readerStage path)) (nonempty : card ≠ "")
      (known : (tree.cardStage path card).isSome = true)
      (staying : tree.cardStage path card ≠ some .removing) :
      Listed tree (path, (ObjectContent.reader name (some card)).interfaces)

/-- A walk agrees with the tree, apart from the readers at hand. -/
structure WalkAgrees (tree : ObjectTree) (walk : Walk ε) (current : List String) : Prop where
  readers : walk.complete = true → ∀ reader ∈ walk.readers, ReaderAgrees tree reader
  todo : ∀ object ∈ walk.todo, Listed tree object
  announced : ∀ path, tree.readerStage path = some .announced →
    path ∈ walk.readers.map ReaderState.readerPath ++ (current ++ walk.todo.map Prod.fst)

/-- What is left to visit has the shape the agent writes. -/
def FromAgent (walk : Walk ε) : Prop :=
  ∀ object ∈ walk.todo, ∃ content : ObjectContent, object.2 = content.interfaces

/-- A reader whose card is asked for its certificates. -/
structure AskAgrees (tree : ObjectTree) (reader : ReaderState ε) (card : String) : Prop where
  up : Up (tree.readerStage reader.readerPath)
  hasCard : reader.hasCard = true
  known : (tree.cardStage reader.readerPath card).isSome = true
  staying : tree.cardStage reader.readerPath card ≠ some .removing

/-- A reader whose card has answered. -/
structure ReadAgrees (tree : ObjectTree) (reader : ReaderState ε) (card : String) : Prop where
  up : Up (tree.readerStage reader.readerPath)
  hasCard : reader.hasCard = true
  card : Up (tree.cardStage reader.readerPath card)

variable {tree next : ObjectTree}

/-- Silent steps keep a reader in agreement. -/
theorem reader_agrees_silent (silent : tree.Silent next) (reader : ReaderState ε)
    (agrees : ReaderAgrees tree reader) : ReaderAgrees next reader where
  up := (silent.readers _).up agrees.up
  occupied hasCard := by
    obtain ⟨card, up⟩ := agrees.occupied hasCard
    exact ⟨card, (silent.cards _ card).up up⟩
  vacant hasCard card announced :=
    agrees.vacant hasCard card ((silent.cards _ card).announced announced)

/-- Silent steps keep a list in agreement. -/
theorem list_agrees_silent (silent : tree.Silent next) (readers : List (ReaderState ε))
    (agrees : ListAgrees tree readers) : ListAgrees next readers where
  readers reader member := reader_agrees_silent silent reader (agrees.readers reader member)
  announced path announced := agrees.announced path ((silent.readers path).announced announced)

/-- Silent steps keep an object to be visited in agreement. -/
theorem listed_silent (silent : tree.Silent next) (object : String × Wire.Interfaces)
    (listed : Listed tree object) : Listed next object := by
  cases listed with
  | card path owner method other =>
    exact .card path owner method
      (fun announced => other ((silent.readers path).announced announced))
  | vacant path name up unannounced =>
    exact .vacant path name ((silent.readers path).up up)
      (fun card announced => unannounced card ((silent.cards path card).announced announced))
  | occupied path name card up nonempty known staying =>
    exact .occupied path name card ((silent.readers path).up up) nonempty
      ((silent.cards path card).known known)
      (fun removing => staying ((silent.cards path card).removing removing))

/-- Silent steps keep a walk in agreement. -/
theorem walk_agrees_silent (silent : tree.Silent next) (walk : Walk ε) (current : List String)
    (agrees : WalkAgrees tree walk current) : WalkAgrees next walk current where
  readers complete reader member :=
    reader_agrees_silent silent reader (agrees.readers complete reader member)
  todo object member := listed_silent silent object (agrees.todo object member)
  announced path announced := agrees.announced path ((silent.readers path).announced announced)

/-- Silent steps keep a reader that is asked in agreement. -/
theorem ask_agrees_silent (silent : tree.Silent next) (reader : ReaderState ε) (card : String)
    (agrees : AskAgrees tree reader card) : AskAgrees next reader card where
  up := (silent.readers _).up agrees.up
  hasCard := agrees.hasCard
  known := (silent.cards _ card).known agrees.known
  staying removing := agrees.staying ((silent.cards _ card).removing removing)

/-- Silent steps keep a reader that has answered in agreement. -/
theorem read_agrees_silent (silent : tree.Silent next) (reader : ReaderState ε) (card : String)
    (agrees : ReadAgrees tree reader card) : ReadAgrees next reader card where
  up := (silent.readers _).up agrees.up
  hasCard := agrees.hasCard
  card := (silent.cards _ card).up agrees.card

/-- A card belongs to one reader. -/
theorem card_owner_unique (first second card : String)
    (one : (tree.cardStage first card).isSome = true)
    (two : (tree.cardStage second card).isSome = true) : first = second := by
  obtain ⟨stage, method, found, -⟩ := ObjectTree.card_stage_known tree first card one
  obtain ⟨_, _, same, -⟩ := ObjectTree.card_stage_known tree second card two
  rw [found] at same
  cases same
  rfl

/-- An object that is up is known. -/
theorem known_of_up (stage : Option ExportStage) (up : Up stage) : stage.isSome = true := by
  obtain rfl | rfl := up <;> rfl

/-- A served card that is not being removed is up. -/
theorem card_up_of_served (reader card : String) (known : (tree.cardStage reader card).isSome = true)
    (staying : tree.cardStage reader card ≠ some .removing) (served : tree.serves card = true) :
    Up (tree.cardStage reader card) := by
  obtain ⟨stage, method, found, current⟩ := ObjectTree.card_stage_known tree reader card known
  simp only [ObjectTree.serves, found] at served
  rw [current] at staying ⊢
  exact Agent.up_of_served stage served staying

/-- The reader at hand is kept, and the walk goes on. -/
theorem walk_agrees_keep (walk : Walk ε) (reader kept : ReaderState ε) (complete : Bool)
    (agrees : WalkAgrees tree walk [reader.readerPath]) (same : kept.readerPath = reader.readerPath)
    (fewer : complete = true → walk.complete = true ∧ ReaderAgrees tree kept) :
    WalkAgrees tree { walk.keep kept with complete } [] where
  readers done other member := by
    rcases List.mem_append.mp member with earlier | newest
    · exact agrees.readers (fewer done).1 other earlier
    · rw [List.mem_singleton.mp newest]
      exact (fewer done).2
  todo := agrees.todo
  announced path announced := by
    have listed := agrees.announced path announced
    simpa [Walk.keep, same] using listed

/-- The card that answered is a card of the kept reader. -/
theorem reader_agrees_read (reader kept : ReaderState ε) (card : String)
    (agrees : ReadAgrees tree reader card) (path : kept.readerPath = reader.readerPath)
    (hasCard : kept.hasCard = reader.hasCard) : ReaderAgrees tree kept where
  up := path ▸ agrees.up
  occupied _ := ⟨card, path ▸ agrees.card⟩
  vacant none := by
    rw [hasCard, agrees.hasCard] at none
    cases none

/-- The tree has no change announced and not yet made: no reader is being removed,
no reader shows a card that is being removed, and no reader without a card has an
announced one. -/
structure Calm (tree : ObjectTree) : Prop where
  readers : ∀ path, tree.readerStage path ≠ some .removing
  shown : ∀ path stage name card, tree.objects path = some ⟨stage, .reader name (some card)⟩ →
    stage.served = true → tree.cardStage path card ≠ some .removing
  unshown : ∀ path stage name, tree.objects path = some ⟨stage, .reader name none⟩ →
    stage.served = true → ∀ card, tree.cardStage path card ≠ some .announced

/-- A served reader that is not being removed is up. -/
theorem reader_up_of_served (calm : Calm tree) (path name : String) (stage : ExportStage)
    (shown : Option String) (found : tree.objects path = some ⟨stage, .reader name shown⟩)
    (served : stage.served = true) : Up (tree.readerStage path) := by
  have staying := calm.readers path
  simp only [ObjectTree.readerStage, found] at staying ⊢
  exact Agent.up_of_served stage served staying

/-- A reply from a calm tree agrees with it. -/
theorem walk_agrees_reply (formed : tree.Formed) (calm : Calm tree) (generation : UInt64) :
    WalkAgrees tree
      ({ generation, managed := tree.managedObjects, todo := tree.managedObjects } : Walk ε) [] where
  readers _ reader member := by cases member
  todo object member := by
    obtain ⟨path, interfaces⟩ := object
    obtain ⟨⟨stage, content⟩, found, served, rfl⟩ :=
      (ObjectTree.mem_managed_objects tree formed path interfaces).mp member
    cases content with
    | card owner method =>
      refine .card path owner method ?_
      simp [ObjectTree.readerStage, found]
    | reader name shown =>
      have up := reader_up_of_served calm path name stage shown found served
      cases shown with
      | none => exact .vacant path name up (calm.unshown path stage name found served)
      | some card =>
        have known := formed.owned path stage name card found
        refine .occupied path name card up ?_ known (calm.shown path stage name card found served)
        rintro rfl
        simp [ObjectTree.cardStage, formed.nonempty] at known
  announced path announced := by
    simp only [ObjectTree.readerStage] at announced
    split at announced
    case h_1 stage name shown found =>
      cases announced
      have listed := (ObjectTree.mem_managed_objects tree formed path _).mpr
        ⟨_, found, rfl, rfl⟩
      simpa using List.mem_map_of_mem (f := Prod.fst) listed
    case h_2 => cases announced

end Agreement

namespace Link

variable {κ ι ε : Type}

/-- The next call will enumerate: the mark is set, or a signal has yet to set it. -/
def Stale (link : Link ε) : Prop :=
  link.shared.dirty = true ∨ link.forgotten = true ∨ link.signals ≠ []

/-- An enumeration under way: a signal came since it began and sets the mark, or
none did and it agrees, unless one is still on its way. -/
def Flying (link : Link ε) (agrees : Prop) : Prop :=
  (link.begunCount < link.handled ∧ (link.shared.dirty = true ∨ link.forgotten = true)) ∨
  (link.begunCount = link.handled ∧ (link.signals ≠ [] ∨ agrees))

/-- What holds of a call under way. -/
def PhaseSound (link : Link ε) : Phase ε → Prop
  | .enumerating => True
  | .asking _ => link.Flying True
  | .walking walk =>
    FromAgent walk ∧ link.Flying (WalkAgrees link.tree walk [])
  | .calling walk reader card _ =>
    FromAgent walk ∧ link.Flying
      (WalkAgrees link.tree walk [reader.readerPath] ∧ AskAgrees link.tree reader card)
  | .reading walk reader card _ =>
    FromAgent walk ∧ link.Flying
      (WalkAgrees link.tree walk [reader.readerPath] ∧ ReadAgrees link.tree reader card)
  | .settling walk reader card =>
    FromAgent walk ∧ link.Flying
      (WalkAgrees link.tree walk [reader.readerPath] ∧ ReadAgrees link.tree reader card)
  | .storing readers complete => link.Stale ∨ (complete = true → ListAgrees link.tree readers)
  | .marking _ complete => link.Stale ∨ (complete = true → ListAgrees link.tree link.shared.cached)
  | .thrown => False
  | _ => link.Stale ∨ ListAgrees link.tree link.shared.cached

/-- What the runs keep: a formed tree, settled cards that are up or about to be
forgotten, and a cached list or a call that agrees with the tree. -/
structure Sound (link : Link ε) : Prop where
  formed : link.tree.Formed
  settled : ∀ card ∈ link.shared.settledCards,
    link.signals ≠ [] ∨ ∃ reader, Up (link.tree.cardStage reader card)
  idle : link.call = none → link.Stale ∨ ListAgrees link.tree link.shared.cached
  calling : ∀ phase, link.call = some phase → link.PhaseSound phase

/-- Nothing is exported, nothing is kept, and the mark is set. -/
theorem sound_initial : Sound ({} : Link ε) where
  formed := ObjectTree.formed_initial
  settled card member := by simp at member
  idle _ := Or.inl (Or.inl rfl)
  calling phase found := by cases found

variable {link : Link ε}

/-- What an enumeration agrees with may be replaced by what follows from it. -/
theorem flying_imp (first second : Prop) (implied : first → second)
    (flying : link.Flying first) : link.Flying second :=
  flying.imp_right (And.imp_right (Or.imp_right implied))

/-- A step without a signal keeps what holds of a call. -/
theorem phase_sound_silent (next : ObjectTree) (silent : link.tree.Silent next) (phase : Phase ε)
    (sound : link.PhaseSound phase) : PhaseSound { link with tree := next } phase := by
  cases phase with
  | enumerating => trivial
  | asking generation => exact sound
  | walking walk =>
    exact sound.imp_right (flying_imp _ _ (walk_agrees_silent silent walk []))
  | calling walk reader card preAuth =>
    exact sound.imp_right (flying_imp _ _ (And.imp (walk_agrees_silent silent walk _)
      (ask_agrees_silent silent reader card)))
  | reading walk reader card preAuth =>
    exact sound.imp_right (flying_imp _ _ (And.imp (walk_agrees_silent silent walk _)
      (read_agrees_silent silent reader card)))
  | settling walk reader card =>
    exact sound.imp_right (flying_imp _ _ (And.imp (walk_agrees_silent silent walk _)
      (read_agrees_silent silent reader card)))
  | storing readers complete =>
    exact sound.imp_right (fun agrees done => list_agrees_silent silent readers (agrees done))
  | marking readers complete =>
    exact sound.imp_right (fun agrees done => list_agrees_silent silent _ (agrees done))
  | thrown => exact sound
  | entered => exact sound.imp_right (list_agrees_silent silent _)
  | serving => exact sound.imp_right (list_agrees_silent silent _)
  | returned readers => exact sound.imp_right (list_agrees_silent silent _)

/-- Once the next call will enumerate, nothing is asked of the cached list, and a
call under way is sound if its enumeration is. -/
theorem phase_sound_stale (after : Link ε) (stale : after.Stale)
    (flying : ∀ agrees : ObjectTree → Prop,
      link.Flying (agrees link.tree) → after.Flying (agrees after.tree))
    (phase : Phase ε) (sound : link.PhaseSound phase) : after.PhaseSound phase := by
  cases phase with
  | enumerating => trivial
  | asking generation => exact flying (fun _ => True) sound
  | walking walk => exact sound.imp_right (flying (fun tree => WalkAgrees tree walk []))
  | calling walk reader card preAuth =>
    exact sound.imp_right
      (flying (fun tree => WalkAgrees tree walk _ ∧ AskAgrees tree reader card))
  | reading walk reader card preAuth =>
    exact sound.imp_right
      (flying (fun tree => WalkAgrees tree walk _ ∧ ReadAgrees tree reader card))
  | settling walk reader card =>
    exact sound.imp_right
      (flying (fun tree => WalkAgrees tree walk _ ∧ ReadAgrees tree reader card))
  | thrown => exact sound
  | storing readers complete => exact Or.inl stale
  | marking readers complete => exact Or.inl stale
  | entered => exact Or.inl stale
  | serving => exact Or.inl stale
  | returned readers => exact Or.inl stale

/-- The agent's steps keep the invariant. -/
theorem sound_agent (event : TreeEvent) (next : ObjectTree) (signals : List TreeSignal)
    (stepped : link.tree.step event = some (next, signals)) (sound : link.Sound) :
    Sound { link with tree := next, signals := link.signals ++ signals } := by
  have formed := ObjectTree.formed_step link.tree next event signals sound.formed stepped
  by_cases emitted : signals = []
  · subst emitted
    have silent := ObjectTree.silent_step link.tree next event stepped
    rw [List.append_nil]
    refine ⟨formed, ?_, ?_, ?_⟩
    · intro card member
      apply (sound.settled card member).imp_right
      rintro ⟨reader, up⟩
      exact ⟨reader, (silent.cards reader card).up up⟩
    · intro none
      exact (sound.idle none).imp_right (list_agrees_silent silent _)
    · intro phase found
      exact phase_sound_silent next silent phase (sound.calling phase found)
  · have pending : link.signals ++ signals ≠ [] := by simp [emitted]
    have stale : Stale { link with tree := next, signals := link.signals ++ signals } :=
      Or.inr (Or.inr pending)
    refine ⟨formed, fun _ _ => Or.inl pending, fun _ => Or.inl stale, ?_⟩
    intro phase found
    refine phase_sound_stale _ stale ?_ phase (sound.calling phase found)
    intro agrees before
    exact before.imp_right (And.imp_right (fun _ => Or.inl pending))

/-- The first half of a handler: what is under way has begun before it. -/
theorem sound_forget (signals : List TreeSignal) (sound : link.Sound) :
    Sound { link with
      signals, shared := Pkcs11.forgetSettled link.shared, forgotten := true
      handled := link.handled + 1 } := by
  have stale : Stale { link with
      signals, shared := Pkcs11.forgetSettled link.shared, forgotten := true
      handled := link.handled + 1 } := Or.inr (Or.inl rfl)
  refine ⟨sound.formed, fun card member => by simp [Pkcs11.forgetSettled] at member,
    fun _ => Or.inl stale, ?_⟩
  intro phase found
  refine phase_sound_stale _ stale ?_ phase (sound.calling phase found)
  intro agrees before
  refine Or.inl ⟨?_, Or.inr rfl⟩
  obtain ⟨earlier, -⟩ | ⟨same, -⟩ := before
  · exact Nat.lt_succ_of_lt earlier
  · exact Nat.lt_succ_of_le (Nat.le_of_eq same)

/-- The second half of a handler sets the mark. -/
theorem sound_invalidate (sound : link.Sound) :
    Sound { link with shared := Pkcs11.invalidate link.shared, forgotten := false } := by
  have stale : Stale
      { link with shared := Pkcs11.invalidate link.shared, forgotten := false } := Or.inl rfl
  refine ⟨sound.formed, sound.settled, fun _ => Or.inl stale, ?_⟩
  intro phase found
  refine phase_sound_stale _ stale ?_ phase (sound.calling phase found)
  intro agrees before
  exact before.imp_left (And.imp_right (fun _ => Or.inl rfl))

/-- An enumeration is overtaken by a signal, and then nothing is asked of it, or it
agrees. -/
theorem flying_cases (agrees : Prop) (flying : link.Flying agrees) :
    (link.Stale ∧ ∀ other, link.Flying other) ∨ link.begunCount = link.handled ∧ agrees := by
  obtain ⟨earlier, marked | forgotten⟩ | ⟨same, pending | agreed⟩ := flying
  · exact Or.inl ⟨Or.inl marked, fun _ => Or.inl ⟨earlier, Or.inl marked⟩⟩
  · exact Or.inl ⟨Or.inr (Or.inl forgotten), fun _ => Or.inl ⟨earlier, Or.inr forgotten⟩⟩
  · exact Or.inl ⟨Or.inr (Or.inr pending), fun _ => Or.inr ⟨same, Or.inl pending⟩⟩
  · exact Or.inr ⟨same, agreed⟩

/-- A visit of a walk that a signal has overtaken. -/
theorem phase_sound_visit_overtaken (walk : Walk ε) (written : FromAgent walk) (stale : link.Stale)
    (free : ∀ agrees, link.Flying agrees) :
    link.PhaseSound (visitNext link.shared walk) := by
  cases todo : walk.todo with
  | nil =>
    simp only [visitNext, todo]
    exact Or.inl stale
  | cons object rest =>
    have later : FromAgent { walk with todo := rest } := fun other member =>
      written other (by rw [todo]; exact List.mem_cons_of_mem _ member)
    obtain ⟨path, interfaces⟩ := object
    obtain ⟨content, rfl⟩ := written _ (by rw [todo]; exact List.mem_cons_self)
    cases content with
    | card owner method =>
      simp only [visitNext, todo, visit_card]
      exact ⟨later, free _⟩
    | reader name shown =>
      simp only [visitNext, todo, visit_reader]
      by_cases occupied : (shown.isSome && shown.getD "/" != "") = true
      · simp only [occupied, if_true]
        split_ifs <;> exact ⟨later, free _⟩
      · simp only [occupied]
        exact ⟨later, free _⟩

/-- A visit to an object that agrees. -/
theorem phase_sound_visit (walk : Walk ε) (sound : link.Sound)
    (before : link.PhaseSound (.walking walk)) :
    link.PhaseSound (visitNext link.shared walk) := by
  obtain ⟨written, flying⟩ := before
  obtain ⟨stale, free⟩ | ⟨same, agrees⟩ := flying_cases _ flying
  · exact phase_sound_visit_overtaken walk written stale free
  cases todo : walk.todo with
  | nil =>
    simp only [visitNext, todo]
    refine Or.inr (fun complete => ⟨agrees.readers complete, fun path announced => ?_⟩)
    simpa [todo] using agrees.announced path announced
  | cons object rest =>
    have later : FromAgent { walk with todo := rest } := fun other member =>
      written other (by rw [todo]; exact List.mem_cons_of_mem _ member)
    have remaining : ∀ other ∈ rest, Listed link.tree other := fun other member =>
      agrees.todo other (by rw [todo]; exact List.mem_cons_of_mem _ member)
    have walked : WalkAgrees link.tree { walk with todo := rest } [object.1] :=
      ⟨agrees.readers, remaining, fun path announced => by
        simpa [todo] using agrees.announced path announced⟩
    have listed := agrees.todo object (by rw [todo]; exact List.mem_cons_self)
    cases listed with
    | card path owner method other =>
      simp only [visitNext, todo, visit_card]
      refine ⟨later, Or.inr ⟨same, Or.inr ⟨agrees.readers, remaining, ?_⟩⟩⟩
      intro reader announced
      have member := walked.announced reader announced
      have different : reader ≠ path := by
        rintro rfl
        exact other announced
      simpa [different] using member
    | vacant path name up unannounced =>
      simp only [visitNext, todo, visit_vacant]
      refine ⟨later, Or.inr ⟨same, Or.inr ?_⟩⟩
      apply walk_agrees_keep _ ⟨path, name, false, [], "", ""⟩ _ walk.complete walked rfl
      intro complete
      exact ⟨complete, ⟨up, fun none => (by cases none), fun _ => unannounced⟩⟩
    | occupied path name card up nonempty known staying =>
      simp only [visitNext, todo, visit_occupied _ path name card nonempty]
      split_ifs with settled
      · -- a card settled earlier is up, or the signal that forgets it is on its way
        refine ⟨later, Or.inr ⟨same, ?_⟩⟩
        apply (sound.settled card settled).imp_right
        rintro ⟨owner, cardUp⟩
        have own := card_owner_unique owner path card (known_of_up _ cardUp) known
        subst own
        exact ⟨walked, up, rfl, cardUp⟩
      · exact ⟨later, Or.inr ⟨same, Or.inr ⟨walked, up, rfl, known, staying⟩⟩⟩

/-- A card that accepts the question is up. -/
theorem phase_sound_accept (walk : Walk ε) (reader : ReaderState ε) (card : String)
    (preAuth : PreReadAuth) (served : link.tree.serves card = true)
    (before : link.PhaseSound (.calling walk reader card preAuth)) :
    link.PhaseSound (.reading walk reader card preAuth) := by
  refine before.imp_right (flying_imp _ _ (And.imp_right (fun asked => ?_)))
  exact ⟨asked.up, asked.hasCard, card_up_of_served _ card asked.known asked.staying served⟩

/-- A read that failed on its way leaves the list incomplete. -/
theorem phase_sound_ask_again (library : Library ι ε) (walk : Walk ε) (reader : ReaderState ε)
    (card : String) (preAuth : PreReadAuth)
    (before : link.PhaseSound (.calling walk reader card preAuth)) :
    link.PhaseSound (afterRead library walk reader card preAuth .askAgain) := by
  refine before.imp_right (flying_imp _ _ (fun agrees => ?_))
  exact walk_agrees_keep walk reader _ false agrees.1 rfl (fun done => by cases done)

/-- A card that was up when it answered, whatever its read gave. -/
theorem phase_sound_after_read (library : Library ι ε) (walk : Walk ε) (reader : ReaderState ε)
    (card : String) (preAuth : PreReadAuth) (outcome : ReadOutcome)
    (typed : ∀ certs, outcome = .read certs →
      ∃ entries, certEntries library preAuth certs = some entries)
    (before : link.PhaseSound (.reading walk reader card preAuth)) :
    link.PhaseSound (afterRead library walk reader card preAuth outcome) := by
  cases outcome with
  | askAgain =>
    refine before.imp_right (flying_imp _ _ (fun agrees => ?_))
    exact walk_agrees_keep walk reader _ false agrees.1 rfl (fun done => by cases done)
  | settled => exact before
  | read certs =>
    obtain ⟨entries, found⟩ := typed certs rfl
    simp only [afterRead, found]
    refine before.imp_right (flying_imp _ _ (fun agrees => ?_))
    refine walk_agrees_keep walk reader _ walk.complete agrees.1 rfl (fun done => ⟨done, ?_⟩)
    exact reader_agrees_read reader _ card agrees.2 rfl rfl

/-- A step of the client that leaves the settled cards as they are. -/
theorem sound_of_phase (link : Link ε) (shared : Shared ε) (after : Phase ε) (begunCount : Nat)
    (settled : shared.settledCards = link.shared.settledCards) (sound : link.Sound)
    (phase : PhaseSound { link with shared, begunCount } after) :
    Sound { link with shared, call := some after, begunCount } where
  formed := sound.formed
  settled card member := sound.settled card (settled ▸ member)
  idle none := by cases none
  calling other found := by
    cases found
    cases after <;> exact phase

end Link

namespace Link

variable {κ ι ε : Type} {link : Link ε}

/-- What the agent's part in an input is. -/
theorem input_cases (keyTypeToken : κ → String) (tree : ObjectTree) (phase : Phase ε)
    (step : ClientStep κ) (input : Input)
    (inputs : step.input keyTypeToken tree phase = some input) :
    match input with
    | .answer (some managed) => step = .answer true ∧ managed = tree.managedObjects
    | .accept => phase.asksUnserved tree = false
    | .ended (.error errorName) =>
      phase.asksUnserved tree = true → refusalSettles errorName = false
    | .ended (.finished read) =>
      ∃ certs, read.certificates = Results.buildCertificates1Wire keyTypeToken certs
    | _ => True := by
  cases step with
  | answer served => cases served <;> cases inputs <;> trivial
  | accept =>
    simp only [ClientStep.input] at inputs
    split_ifs at inputs with unserved
    cases inputs
    simpa using unserved
  | refuse errorName =>
    simp only [ClientStep.input] at inputs
    split_ifs at inputs with refused
    cases inputs
    intro unserved
    simpa [unserved] using refused
  | finish timedOut status errorCode certs =>
    cases inputs
    exact ⟨certs, rfl⟩
  | _ => cases inputs; trivial

/-- A read of certificates the agent built gives entries. -/
theorem read_typed (library : Library ι ε) (keyTypeToken : κ → String) (preAuth : PreReadAuth)
    (read : CertificateRead) (certs : List (Results.CertSnapshot κ))
    (built : read.certificates = Results.buildCertificates1Wire keyTypeToken certs)
    (certificates : List Results.Certificates1CertTuple)
    (outcome : readCerts library (.finished read) = .read certificates) :
    ∃ entries, certEntries library preAuth certificates = some entries := by
  simp only [readCerts] at outcome
  split_ifs at outcome
  cases outcome
  rw [built]
  exact cert_entries_built library keyTypeToken preAuth certs

/-- An error is never a read. -/
theorem error_not_read (library : Library ι ε) (errorName : String)
    (certificates : List Results.Certificates1CertTuple) :
    readCerts library (.error errorName) ≠ .read certificates := by
  simp only [readCerts]
  split_ifs <;> simp

/-- A reply read while the tree is calm, or with a signal on its way. -/
theorem phase_sound_reply (generation : UInt64) (calm : link.signals = [] → Calm link.tree)
    (sound : link.Sound) (before : link.PhaseSound (.asking generation)) :
    link.PhaseSound (.walking
      { generation, managed := link.tree.managedObjects, todo := link.tree.managedObjects }) := by
  constructor
  · rintro ⟨path, interfaces⟩ member
    obtain ⟨object, -, -, same⟩ :=
      (ObjectTree.mem_managed_objects link.tree sound.formed path interfaces).mp member
    exact ⟨object.content, same⟩
  · obtain ⟨-, free⟩ | ⟨same, -⟩ := flying_cases _ before
    · exact free _
    · refine Or.inr ⟨same, ?_⟩
      by_cases quiet : link.signals = []
      · exact Or.inr (walk_agrees_reply sound.formed (calm quiet) generation)
      · exact Or.inl quiet

/-- Recording a settled card. It is recorded only while no signal was handled
since the walk began, and then the card is up unless one is on its way. -/
theorem sound_settle (library : Library ι ε) (walk : Walk ε) (reader : ReaderState ε) (card : String)
    (fresh : walk.generation = link.shared.generation → link.begunCount = link.handled)
    (sound : link.Sound) (before : link.PhaseSound (.settling walk reader card)) :
    Sound { link with
      shared := settleCard link.shared card walk.generation
      call := some (.walking (walk.keep (tokenTexts library card reader))) } := by
  have kept : link.PhaseSound (.walking (walk.keep (tokenTexts library card reader))) := by
    refine before.imp_right (flying_imp _ _ (fun agrees => ?_))
    refine walk_agrees_keep walk reader _ walk.complete agrees.1 rfl (fun done => ⟨done, ?_⟩)
    exact reader_agrees_read reader _ card agrees.2 rfl rfl
  by_cases current : walk.generation = link.shared.generation
  · simp only [settleCard, current, if_true]
    have recorded : link.signals ≠ [] ∨ ∃ reader, Up (link.tree.cardStage reader card) := by
      obtain ⟨earlier, -⟩ | ⟨-, pending | agrees⟩ := before.2
      · exact absurd (fresh current) (Nat.ne_of_lt earlier)
      · exact Or.inl pending
      · exact Or.inr ⟨_, agrees.2.card⟩
    refine ⟨sound.formed, ?_, fun none => (by cases none), ?_⟩
    · intro other member
      rcases Finset.mem_insert.mp member with rfl | earlier
      · exact recorded
      · exact sound.settled other earlier
    · intro phase found
      cases found
      exact kept
  · simp only [settleCard, current, if_false]
    exact sound_of_phase link _ _ link.begunCount rfl sound kept

/-- The steps of the client keep the invariant. -/
theorem sound_client (library : Library ι ε) (keyTypeToken : κ → String) (step : ClientStep κ)
    (input : Input) (phase after : Phase ε) (shared : Shared ε) (current : link.call = some phase)
    (inputs : step.input keyTypeToken link.tree phase = some input)
    (stepped : advance library link.shared phase input = some (shared, after))
    (calm : step = .answer true → link.signals = [] → Calm link.tree)
    (fresh : input = .settle → ∀ walk reader card, phase = .settling walk reader card →
      walk.generation = link.shared.generation → link.begunCount = link.handled)
    (sound : link.Sound) : Sound { link.record input with shared, call := some after } := by
  have before := sound.calling phase current
  have agent := input_cases keyTypeToken link.tree phase step input inputs
  cases advanced library link.shared shared phase after input stepped with
  | exchange =>
    refine sound_of_phase link _ _ link.begunCount rfl sound ?_
    cases marked : link.shared.dirty with
    | true => trivial
    | false => exact before.imp_left (fun stale => by simpa [Stale, marked] using stale)
  | serve => exact sound_of_phase link _ _ link.begunCount rfl sound before
  | begin => exact sound_of_phase link _ _ link.handled rfl sound (Or.inr ⟨rfl, Or.inr trivial⟩)
  | refused generation =>
    exact sound_of_phase link _ _ link.begunCount rfl sound (Or.inr (fun done => by cases done))
  | answered generation managed =>
    obtain ⟨rfl, rfl⟩ := agent
    exact sound_of_phase link _ _ link.begunCount rfl sound
      (phase_sound_reply generation (calm rfl) sound before)
  | visit walk after visited =>
    cases stepped
    exact sound_of_phase link _ _ link.begunCount rfl sound (phase_sound_visit walk sound before)
  | accept walk reader card preAuth =>
    refine sound_of_phase link _ _ link.begunCount rfl sound
      (phase_sound_accept walk reader card preAuth ?_ before)
    simpa [Phase.asksUnserved] using agent
  | ended walk reader card preAuth read phase pending reading =>
    apply sound_of_phase link _ _ link.begunCount rfl sound
    cases pending with
    | calling =>
      cases read with
      | finished read => cases reading ⟨read, rfl⟩
      | exception => exact phase_sound_ask_again library walk reader card preAuth before
      | error errorName =>
        cases served : link.tree.serves card with
        | true =>
          refine phase_sound_after_read library walk reader card preAuth _ ?_
            (phase_sound_accept walk reader card preAuth served before)
          intro certs read
          exact absurd read (error_not_read library errorName certs)
        | false =>
          have unsettled : refusalSettles errorName = false :=
            agent (by simp [Phase.asksUnserved, served])
          simp only [readCerts, unsettled, Bool.false_eq_true, if_false]
          exact phase_sound_ask_again library walk reader card preAuth before
    | reading =>
      refine phase_sound_after_read library walk reader card preAuth _ ?_ before
      intro certificates outcome
      cases read with
      | finished read =>
        obtain ⟨certs, built⟩ := agent
        exact read_typed library keyTypeToken preAuth read certs built certificates outcome
      | error errorName => exact absurd outcome (error_not_read library errorName certificates)
      | exception => cases outcome
  | settle walk reader card =>
    exact sound_settle library walk reader card (fresh rfl walk reader card rfl) sound before
  | store readers complete => exact sound_of_phase link _ _ link.begunCount rfl sound before
  | mark readers complete =>
    refine sound_of_phase link _ _ link.begunCount rfl sound ?_
    cases complete with
    | true => simpa [PhaseSound, Stale] using before
    | false => exact Or.inl (Or.inl (by simp))

/-- A list is read while every signal is handled only in a calm tree. -/
def CalmlyRead (link : Link ε) : LinkEvent κ → Prop
  | .client step => step = .answer true → link.signals = [] → Calm link.tree
  | _ => True

/-- A card is recorded only if no signal was handled since its enumeration began. The source
asks this of the generation, which has come round to the same value after `2 ^ 64` signals. -/
def CurrentlySettled (link : Link ε) : LinkEvent κ → Prop
  | .client step => step = .settle → ∀ walk reader card,
      link.call = some (.settling walk reader card) →
      walk.generation = link.shared.generation → link.begunCount = link.handled
  | _ => True

/-- The steps that do not meet a wrong moment. -/
def Timely (link : Link ε) (event : LinkEvent κ) : Prop :=
  link.CalmlyRead event ∧ link.CurrentlySettled event

/-- Every timely step keeps the invariant.

Proof: a step of the agent keeps agreement or emits a signal, which makes the link stale; a step of
the client keeps what its phase has collected, by the reply of a calm tree. -/
theorem sound_step (library : Library ι ε) (keyTypeToken : κ → String) (link : Link ε)
    (event : LinkEvent κ) (next : Link ε) (sound : link.Sound) (timely : link.Timely event)
    (stepped : step library keyTypeToken link event = some next) : next.Sound := by
  rcases step_cases library keyTypeToken link event next stepped with
    ⟨performed, tree, signals, rfl, result, rfl⟩ | ⟨rfl, idle, rfl⟩ |
    ⟨made, phase, input, shared, after, rfl, current, inputs, advanced, rfl⟩ |
    ⟨signal, rest, rfl, -, -, rfl⟩ | ⟨rfl, -, rfl⟩
  · exact sound_agent performed tree signals result sound
  · have cached : link.Stale ∨ ListAgrees link.tree link.shared.cached := by
      rcases idle with idle | ⟨readers, returned⟩
      · exact sound.idle idle
      · exact sound.calling (.returned readers) returned
    exact sound_of_phase link link.shared .entered link.begunCount rfl sound cached
  · refine sound_client library keyTypeToken made input phase after shared current inputs advanced
      timely.1 ?_ sound
    rintro rfl walk reader card rfl
    refine timely.2 ?_ walk reader card current
    cases made <;> simp_all [ClientStep.input]
  · exact sound_forget rest sound
  · exact sound_invalidate sound

/-- The generation against the signals handled: it counts them, and a call under way has the
count of when its enumeration began. -/
structure Counted (link : Link ε) : Prop where
  counter : link.shared.generation = UInt64.ofNat link.handled
  earlier : link.begunCount ≤ link.handled
  begun : ∀ phase generation, link.call = some phase → phase.generation? = some generation →
    generation = UInt64.ofNat link.begunCount

/-- Nothing was handled yet. -/
theorem counted_initial : Counted ({} : Link ε) where
  counter := rfl
  earlier := Nat.le_refl 0
  begun phase generation found := by cases found

/-- Every step keeps the count.

Cases follow the step: only a handled signal moves the generation, and only the begin of an
enumeration reads it. -/
theorem counted_step (library : Library ι ε) (keyTypeToken : κ → String) (link : Link ε)
    (event : LinkEvent κ) (next : Link ε) (counted : link.Counted)
    (stepped : step library keyTypeToken link event = some next) : next.Counted := by
  rcases step_cases library keyTypeToken link event next stepped with
    ⟨performed, tree, signals, rfl, result, rfl⟩ | ⟨rfl, idle, rfl⟩ |
    ⟨made, phase, input, shared, after, rfl, current, inputs, taken, rfl⟩ |
    ⟨signal, rest, rfl, -, -, rfl⟩ | ⟨rfl, -, rfl⟩
  · exact ⟨counted.counter, counted.earlier, counted.begun⟩
  · refine ⟨counted.counter, counted.earlier, ?_⟩
    rintro phase generation ⟨⟩ found
    cases found
  · obtain ⟨same, carried⟩ := advanced_generation library link.shared shared phase after input
      (advanced library link.shared shared phase after input taken)
    by_cases begins : input = .begin
    · subst begins
      refine ⟨same.trans counted.counter, Nat.le_refl _, ?_⟩
      rintro other generation ⟨⟩ found
      cases phase <;> cases taken
      cases found
      exact counted.counter
    · have unrecorded : link.record input = link := by
        cases input <;> first | rfl | exact absurd rfl begins
      rw [unrecorded]
      refine ⟨same.trans counted.counter, counted.earlier, ?_⟩
      rintro other generation ⟨⟩ found
      rcases carried generation found with before | ⟨begun, -⟩
      · exact counted.begun phase generation current before
      · exact absurd begun begins
  · refine ⟨?_, Nat.le_succ_of_le counted.earlier, counted.begun⟩
    rw [Counters.count_succ, ← counted.counter]
    rfl
  · exact ⟨counted.counter, counted.earlier, counted.begun⟩

/-- No signal is taken back. -/
theorem handled_grows (library : Library ι ε) (keyTypeToken : κ → String) (link : Link ε)
    (event : LinkEvent κ) (next : Link ε)
    (stepped : step library keyTypeToken link event = some next) : link.handled ≤ next.handled := by
  rcases step_cases library keyTypeToken link event next stepped with
    ⟨_, _, _, -, -, rfl⟩ | ⟨-, -, rfl⟩ | ⟨_, _, _, _, _, -, -, -, -, rfl⟩ | ⟨_, _, -, -, -, rfl⟩ |
    ⟨-, -, rfl⟩
  · exact Nat.le_refl _
  · exact Nat.le_refl _
  · simp
  · exact Nat.le_succ _
  · exact Nat.le_refl _

/-- As long as fewer than `2 ^ 64` signals were handled the generation tells them apart, so only
calm reading has to be asked of a run. -/
theorem calm_runs_timely (library : Library ι ε) (keyTypeToken : κ → String)
    (events : List (LinkEvent κ)) (link : Link ε)
    (calm : Admitted (step library keyTypeToken) CalmlyRead {} events)
    (reached : run (step library keyTypeToken) {} events = some link)
    (below : link.handled < 2 ^ 64) : Admitted (step library keyTypeToken) Timely {} events := by
  refine admitted_below (step library keyTypeToken) CalmlyRead Timely Link.handled (2 ^ 64) Counted
    (handled_grows library keyTypeToken) ?_ ?_ events {} link counted_initial calm reached below
  · exact fun before event next => counted_step library keyTypeToken before event next
  · intro state event counted bounded read
    refine ⟨read, ?_⟩
    cases event with
    | client made =>
      intro _ walk reader card current same
      have begun := counted.begun _ walk.generation current rfl
      rw [same, counted.counter] at begun
      exact Counters.count_unique state.begunCount state.handled counted.earlier bounded begun.symm
    | _ => trivial

end Link

end LibreLinux.Pkcs11
