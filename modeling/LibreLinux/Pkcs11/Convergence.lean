import LibreLinux.Pkcs11.Agreement

/-!
# Convergence of the kept slot list

A list read in the wrong moment is kept. Between the announcement of a reader's
removal and its unregistration the reader is still listed, and nothing is
announced when it goes; likewise for a card its reader still shows, and for a
card that is announced before its reader shows it. When no list is read in such
a moment with every signal handled, and no card is recorded for a read that so
many signals overtook that the generation came round, the kept list converges:
once the agent has finished, all signals are handled, the mark is clear and no
call is under way, the cached readers and their flags are those of the tree.
-/

namespace LibreLinux.Pkcs11

open Agent (ObjectTree ExportStage TreeObject Up)
open Runs

section Distinct

variable {κ ι ε : Type}

/-- The paths a call has collected and is still to visit. -/
def Phase.paths : Phase ε → List String
  | .walking walk => walk.readers.map ReaderState.readerPath ++ walk.todo.map Prod.fst
  | .calling walk reader _ _ =>
    walk.readers.map ReaderState.readerPath ++ reader.readerPath :: walk.todo.map Prod.fst
  | .reading walk reader _ _ =>
    walk.readers.map ReaderState.readerPath ++ reader.readerPath :: walk.todo.map Prod.fst
  | .settling walk reader _ =>
    walk.readers.map ReaderState.readerPath ++ reader.readerPath :: walk.todo.map Prod.fst
  | .storing readers _ => readers.map ReaderState.readerPath
  | _ => []

/-- Keeping the reader at hand keeps the paths. -/
theorem keep_paths (walk : Walk ε) (reader : ReaderState ε) :
    (Phase.walking (walk.keep reader)).paths =
      walk.readers.map ReaderState.readerPath ++ reader.readerPath :: walk.todo.map Prod.fst := by
  simp [Phase.paths, Walk.keep]

/-- A visited reader has the object's path. -/
theorem visit_path (managed : Wire.ManagedObjects) (object : String × Wire.Interfaces)
    (reader : ReaderState ε)
    (found : visitObject managed object = .vacant reader ∨
      ∃ card preAuth, visitObject managed object = .occupied reader card preAuth) :
    reader.readerPath = object.1 := by
  simp only [visitObject] at found
  split at found
  case h_1 => simp at found
  case h_2 props =>
    split at found
    case h_1 hasCard card _ _ =>
      split_ifs at found
      · simp only [Visit.occupied.injEq, false_or] at found
        obtain ⟨_, _, rfl, -⟩ := found
        rfl
      · simp only [Visit.vacant.injEq, exists_false, or_false] at found
        rw [← found]
    case h_2 => simp at found

/-- A visit moves a path or drops it. -/
theorem visited_paths (shared : Shared ε) (walk : Walk ε) (after : Phase ε)
    (visited : Visited shared walk after) : after.paths.Sublist (Phase.walking walk).paths := by
  cases visited with
  | finished todo =>
    simp only [Phase.paths, todo, List.map_nil, List.append_nil]
    exact List.Sublist.refl _
  | mistyped object rest todo found => exact List.nil_sublist _
  | other object rest todo found =>
    simp only [Phase.paths, todo, List.map_cons]
    exact (List.sublist_cons_self _ _).append_left _
  | vacant object rest reader todo found =>
    have path := visit_path walk.managed object reader (Or.inl found)
    simp only [keep_paths, path]
    simp only [Phase.paths, todo, List.map_cons]
    exact List.Sublist.refl _
  | known object rest reader card preAuth todo found settled =>
    have path := visit_path walk.managed object reader (Or.inr ⟨card, preAuth, found⟩)
    simp only [Phase.paths, todo, path, List.map_cons]
    exact List.Sublist.refl _
  | asked object rest reader card preAuth todo found unsettled =>
    have path := visit_path walk.managed object reader (Or.inr ⟨card, preAuth, found⟩)
    simp only [Phase.paths, todo, path, List.map_cons]
    exact List.Sublist.refl _

/-- A read keeps its reader's path. -/
theorem after_read_paths (library : Library ι ε) (walk : Walk ε) (reader : ReaderState ε)
    (card : String) (preAuth : PreReadAuth) (outcome : ReadOutcome) :
    (afterRead library walk reader card preAuth outcome).paths.Sublist
      (walk.readers.map ReaderState.readerPath ++ reader.readerPath :: walk.todo.map Prod.fst) := by
  cases outcome with
  | askAgain =>
    have same : (afterRead library walk reader card preAuth .askAgain).paths = _ :=
      keep_paths walk (tokenTexts library card reader)
    rw [same]
    exact List.Sublist.refl _
  | settled => exact List.Sublist.refl _
  | read certificates =>
    cases entries : certEntries library preAuth certificates with
    | none =>
      simp only [afterRead, entries]
      exact List.nil_sublist _
    | some certs =>
      simp only [afterRead, entries, keep_paths]
      exact List.Sublist.refl _

/-- A step of a call adds no path but a reply's, and stores what it collected. -/
theorem advance_paths (library : Library ι ε) (shared next : Shared ε) (phase after : Phase ε)
    (input : Input) (stepped : advance library shared phase input = some (next, after)) :
    (after.paths.Sublist phase.paths ∨
      ∃ managed, input = .answer (some managed) ∧ after.paths = managed.map Prod.fst) ∧
    (next.cached = shared.cached ∨ next.cached.map ReaderState.readerPath = phase.paths) := by
  cases advanced library shared next phase after input stepped with
  | exchange =>
    refine ⟨Or.inl ?_, Or.inl rfl⟩
    split_ifs <;> exact List.Sublist.refl _
  | serve => exact ⟨Or.inl (List.nil_sublist _), Or.inl rfl⟩
  | begin => exact ⟨Or.inl (List.nil_sublist _), Or.inl rfl⟩
  | refused generation => exact ⟨Or.inl (List.nil_sublist _), Or.inl rfl⟩
  | answered generation managed => exact ⟨Or.inr ⟨managed, rfl, rfl⟩, Or.inl rfl⟩
  | visit walk after visited => exact ⟨Or.inl (visited_paths shared walk after visited), Or.inl rfl⟩
  | accept walk reader card preAuth => exact ⟨Or.inl (List.Sublist.refl _), Or.inl rfl⟩
  | ended walk reader card preAuth read phase pending =>
    have kept := after_read_paths library walk reader card preAuth (readCerts library read)
    cases pending with
    | calling => exact ⟨Or.inl kept, Or.inl rfl⟩
    | reading => exact ⟨Or.inl kept, Or.inl rfl⟩
  | settle walk reader card =>
    refine ⟨Or.inl ?_, Or.inl ?_⟩
    · rw [keep_paths]
      exact List.Sublist.refl _
    · simp only [settleCard]
      split_ifs <;> rfl
  | store readers complete => exact ⟨Or.inl (List.nil_sublist _), Or.inr rfl⟩
  | mark readers complete => exact ⟨Or.inl (List.nil_sublist _), Or.inl rfl⟩

end Distinct

namespace Link

variable {κ ι ε : Type}

/-- No path is kept twice. -/
structure Distinct (link : Link ε) : Prop where
  formed : link.tree.Formed
  cached : (link.shared.cached.map ReaderState.readerPath).Nodup
  calling : ∀ phase, link.call = some phase → phase.paths.Nodup

/-- Every step keeps the paths distinct. -/
theorem distinct_step (library : Library ι ε) (keyTypeToken : κ → String) (link : Link ε)
    (event : LinkEvent κ) (next : Link ε) (distinct : link.Distinct)
    (stepped : step library keyTypeToken link event = some next) : next.Distinct := by
  rcases step_cases library keyTypeToken link event next stepped with
    ⟨performed, tree, signals, rfl, result, rfl⟩ | ⟨rfl, -, rfl⟩ |
    ⟨made, phase, input, shared, after, rfl, current, inputs, advanced, rfl⟩ |
    ⟨signal, rest, rfl, -, -, rfl⟩ | ⟨rfl, -, rfl⟩
  · exact ⟨ObjectTree.formed_step link.tree tree performed signals distinct.formed result,
      distinct.cached, distinct.calling⟩
  · refine ⟨distinct.formed, distinct.cached, ?_⟩
    intro phase found
    cases found
    exact List.nodup_nil
  · have before := distinct.calling phase current
    have agent := input_cases keyTypeToken link.tree phase made input inputs
    obtain ⟨paths, kept⟩ := advance_paths library link.shared shared phase after input advanced
    refine ⟨by simpa using distinct.formed, ?_, ?_⟩
    · obtain same | stored := kept
      · rw [same]
        exact distinct.cached
      · rw [stored]
        exact before
    · intro other found
      cases found
      obtain fewer | ⟨managed, rfl, collected⟩ := paths
      · exact before.sublist fewer
      · obtain ⟨-, rfl⟩ := agent
        rw [collected]
        exact ObjectTree.managed_objects_nodup link.tree distinct.formed
  · exact ⟨distinct.formed, distinct.cached, distinct.calling⟩
  · exact ⟨distinct.formed, distinct.cached, distinct.calling⟩

/-- Nothing is kept yet. -/
theorem distinct_initial : Distinct ({} : Link ε) where
  formed := ObjectTree.formed_initial
  cached := List.nodup_nil
  calling phase found := by cases found

/-- Every run keeps the paths distinct. -/
theorem reached_distinct (library : Library ι ε) (keyTypeToken : κ → String)
    (events : List (LinkEvent κ)) (link : Link ε)
    (reached : run (step library keyTypeToken) {} events = some link) : link.Distinct :=
  run_invariant (step library keyTypeToken) Distinct
    (fun before event next => distinct_step library keyTypeToken before event next)
    events {} link distinct_initial reached

end Link

section Finished

/-- The agent has finished what it began: no object is between its two steps, a
shown card is announced, and a reader without a card has no announced one. -/
structure Finished (tree : ObjectTree) : Prop where
  objects : ∀ path object, tree.objects path = some object →
    object.stage ≠ .registered ∧ object.stage ≠ .removing
  shown : ∀ path name card, tree.objects path = some ⟨.announced, .reader name (some card)⟩ →
    tree.cardStage path card = some .announced
  unshown : ∀ path name, tree.objects path = some ⟨.announced, .reader name none⟩ →
    ∀ card, tree.cardStage path card ≠ some .announced

/-- The registered readers, each with whether it has a card. -/
def readerFlags (tree : ObjectTree) : List (String × Bool) :=
  tree.paths.filterMap (fun path =>
    match tree.objects path with
    | some ⟨stage, .reader _ shown⟩ => if stage.served then some (path, shown.isSome) else none
    | _ => none)

variable {tree : ObjectTree}

/-- The flags are those of the served readers. -/
theorem mem_reader_flags (formed : tree.Formed) (path : String) (hasCard : Bool) :
    (path, hasCard) ∈ readerFlags tree ↔
      ∃ stage name shown, tree.objects path = some ⟨stage, .reader name shown⟩ ∧
        stage.served = true ∧ shown.isSome = hasCard := by
  simp only [readerFlags, List.mem_filterMap]
  constructor
  · rintro ⟨other, -, flagged⟩
    split at flagged
    case h_1 stage name shown found =>
      split_ifs at flagged with served
      cases flagged
      exact ⟨stage, name, shown, found, served, rfl⟩
    case h_2 => cases flagged
  · rintro ⟨stage, name, shown, found, served, rfl⟩
    exact ⟨path, formed.listed path _ found, by simp [found, served]⟩

/-- No reader has two flags. -/
theorem reader_flags_nodup (formed : tree.Formed) : (readerFlags tree).Nodup := by
  refine List.Nodup.filterMap ?_ formed.nodup
  intro first second flag one two
  have path (path : String) (flagged : flag ∈ (match tree.objects path with
      | some ⟨stage, .reader _ shown⟩ => if stage.served then some (path, shown.isSome) else none
      | _ => none)) : flag.1 = path := by
    split at flagged
    · split_ifs at flagged
      · cases flagged
        rfl
      · cases flagged
    · cases flagged
  exact (path first one).symm.trans (path second two)

/-- What is up in a finished tree is announced. -/
theorem announced_of_up (finished : Finished tree) (path : String) (object : TreeObject)
    (found : tree.objects path = some object) (up : Up (some object.stage)) :
    object.stage = .announced := by
  obtain registered | announced := up
  · exact absurd (Option.some.inj registered) (finished.objects path object found).1
  · exact Option.some.inj announced

/-- A card that is up in a finished tree is announced. -/
theorem card_announced_of_up (finished : Finished tree) (reader card : String)
    (up : Up (tree.cardStage reader card)) : tree.cardStage reader card = some .announced := by
  obtain ⟨stage, method, found, current⟩ :=
    ObjectTree.card_stage_known tree reader card (known_of_up _ up)
  rw [current] at up ⊢
  exact congrArg some (announced_of_up finished card _ found up)

/-- A reader that agrees with a finished tree is announced there, with its flag. -/
theorem reader_flag_agrees {ε : Type} (finished : Finished tree) (reader : ReaderState ε)
    (agrees : ReaderAgrees tree reader) :
    ∃ name shown, tree.objects reader.readerPath = some ⟨.announced, .reader name shown⟩ ∧
      shown.isSome = reader.hasCard := by
  obtain ⟨stage, current⟩ := Option.isSome_iff_exists.mp (known_of_up _ agrees.up)
  obtain ⟨name, shown, found⟩ := ObjectTree.reader_stage_known tree reader.readerPath stage current
  have up := agrees.up
  rw [current] at up
  have announced : stage = .announced := announced_of_up finished _ _ found up
  subst announced
  refine ⟨name, shown, found, ?_⟩
  cases hasCard : reader.hasCard with
  | true =>
    obtain ⟨card, cardUp⟩ := agrees.occupied hasCard
    cases shown with
    | some _ => rfl
    | none =>
      exact absurd (card_announced_of_up finished _ card cardUp)
        (finished.unshown reader.readerPath name found card)
  | false =>
    cases shown with
    | none => rfl
    | some card =>
      exact absurd (finished.shown reader.readerPath name card found)
        (agrees.vacant hasCard card)

/-- A list that agrees with a finished tree has its readers and flags. -/
theorem flags_perm_of_agrees {ε : Type} (formed : tree.Formed) (finished : Finished tree)
    (kept : List (ReaderState ε)) (distinct : (kept.map ReaderState.readerPath).Nodup)
    (agrees : ListAgrees tree kept) :
    (kept.map (fun reader => (reader.readerPath, reader.hasCard))).Perm (readerFlags tree) := by
  have pairs : (kept.map (fun reader => (reader.readerPath, reader.hasCard))).Nodup := by
    apply List.Nodup.of_map Prod.fst
    rw [List.map_map]
    exact distinct
  apply (List.perm_ext_iff_of_nodup pairs (reader_flags_nodup formed)).mpr
  rintro ⟨path, hasCard⟩
  rw [mem_reader_flags formed, List.mem_map]
  constructor
  · rintro ⟨reader, member, same⟩
    cases same
    obtain ⟨name, shown, found, flag⟩ :=
      reader_flag_agrees finished reader (agrees.readers reader member)
    exact ⟨.announced, name, shown, found, rfl, flag⟩
  · rintro ⟨stage, name, shown, found, served, rfl⟩
    have staying : some stage ≠ some .removing :=
      fun removing => (finished.objects path _ found).2 (Option.some.inj removing)
    have announced : stage = .announced :=
      announced_of_up finished path _ found (Agent.up_of_served stage served staying)
    subst announced
    obtain ⟨reader, member, rfl⟩ := List.mem_map.mp (agrees.announced path (by
      simp [ObjectTree.readerStage, found]))
    obtain ⟨label, card, same, flag⟩ :=
      reader_flag_agrees finished reader (agrees.readers reader member)
    rw [found] at same
    cases same
    exact ⟨reader, member, by rw [flag]⟩

/-- Check one path of a calm tree. -/
def calmAt (tree : ObjectTree) (path : String) : Bool :=
  match tree.objects path with
  | some ⟨stage, .reader _ (some card)⟩ =>
    stage ≠ .removing && (!stage.served || tree.cardStage path card ≠ some .removing)
  | some ⟨stage, .reader _ none⟩ =>
    stage ≠ .removing &&
      (!stage.served || tree.paths.all (fun card => tree.cardStage path card ≠ some .announced))
  | _ => true

/-- A tree is calm if each of its paths is. -/
theorem calm_of_paths (formed : tree.Formed) (checked : tree.paths.all (calmAt tree) = true) :
    Calm tree := by
  have each (path : String) (object : TreeObject) (found : tree.objects path = some object) :
      calmAt tree path = true :=
    List.all_eq_true.mp checked path (formed.listed path object found)
  constructor
  · intro path removing
    obtain ⟨name, shown, found⟩ := ObjectTree.reader_stage_known tree path _ removing
    have here := each path _ found
    cases shown <;> simp [calmAt, found] at here
  · intro path stage name card found served
    have here := each path _ found
    simp only [calmAt, found, served, Bool.not_true, Bool.false_or, Bool.and_eq_true,
      decide_eq_true_eq] at here
    exact here.2
  · intro path stage name found served card announced
    have here := each path _ found
    simp only [calmAt, found, served, Bool.not_true, Bool.false_or, Bool.and_eq_true,
      decide_eq_true_eq, List.all_eq_true] at here
    obtain ⟨_, _, object, -⟩ :=
      ObjectTree.card_stage_known tree path card (by rw [announced]; rfl)
    exact here.2 card (formed.listed card _ object) announced

/-- Check one path of a finished tree. -/
def finishedAt (tree : ObjectTree) (path : String) : Bool :=
  match tree.objects path with
  | some ⟨.registered, _⟩ => false
  | some ⟨.removing, _⟩ => false
  | some ⟨.announced, .reader _ (some card)⟩ => tree.cardStage path card = some .announced
  | some ⟨.announced, .reader _ none⟩ =>
    tree.paths.all (fun card => tree.cardStage path card ≠ some .announced)
  | _ => true

/-- A tree is finished if each of its paths is. -/
theorem finished_of_paths (formed : tree.Formed)
    (checked : tree.paths.all (finishedAt tree) = true) : Finished tree := by
  have each (path : String) (object : TreeObject) (found : tree.objects path = some object) :
      finishedAt tree path = true :=
    List.all_eq_true.mp checked path (formed.listed path object found)
  constructor
  · intro path object found
    have here := each path object found
    constructor
    · intro registered
      obtain ⟨stage, content⟩ := object
      simp only at registered
      subst registered
      simp [finishedAt, found] at here
    · intro removing
      obtain ⟨stage, content⟩ := object
      simp only at removing
      subst removing
      simp [finishedAt, found] at here
  · intro path name card found
    have here := each path _ found
    simpa [finishedAt, found] using here
  · intro path name found card announced
    have here := each path _ found
    obtain ⟨stage, method, object, -⟩ :=
      ObjectTree.card_stage_known tree path card (by rw [announced]; rfl)
    simp only [finishedAt, found, List.all_eq_true, decide_eq_true_eq] at here
    exact here card (formed.listed card _ object) announced

end Finished

/-- Whether a call is between its exchange and its return. -/
def Phase.busy {ε : Type} : Phase ε → Bool
  | .marking _ _ => true
  | phase => phase.inFlight

namespace Link

variable {κ ι ε : Type}

/-- The agent has finished, every signal is handled, the mark is clear and no
enumeration is in flight. -/
structure Quiescent (link : Link ε) : Prop where
  finished : Finished link.tree
  delivered : link.signals = []
  handled : link.forgotten = false
  clean : link.shared.dirty = false
  idle : ∀ phase, link.call = some phase → phase.busy = false

/-- In a quiescent state the cached readers and their flags are those of the
tree. -/
def Converged (link : Link ε) : Prop :=
  link.Quiescent →
    (link.shared.cached.map (fun reader => (reader.readerPath, reader.hasCard))).Perm
      (readerFlags link.tree)

/-- In every timely run, every reached state has converged if it is quiescent.

Proof: in a timely run the kept list agrees with the tree unless the next call enumerates. A
quiescent link has no call to come, and a finished tree leaves no change to be announced, so
agreement is equality. -/
theorem timely_runs_converge (library : Library ι ε) (keyTypeToken : κ → String)
    (events : List (LinkEvent κ)) (link : Link ε)
    (timely : Admitted (step library keyTypeToken) Timely {} events)
    (reached : run (step library keyTypeToken) {} events = some link) : link.Converged := by
  have sound : link.Sound :=
    admitted_invariant (step library keyTypeToken) Timely Sound
      (fun before event next => sound_step library keyTypeToken before event next)
      events {} link sound_initial timely reached
  have distinct := reached_distinct library keyTypeToken events link reached
  intro quiescent
  have fresh : ¬ link.Stale := by
    rintro (marked | forgotten | pending)
    · rw [quiescent.clean] at marked
      cases marked
    · rw [quiescent.handled] at forgotten
      cases forgotten
    · exact pending quiescent.delivered
  have agrees : ListAgrees link.tree link.shared.cached := by
    cases current : link.call with
    | none => exact (sound.idle current).resolve_left fresh
    | some phase =>
      have idle := quiescent.idle phase current
      have holds := sound.calling phase current
      cases phase with
      | entered => exact holds.resolve_left fresh
      | serving => exact holds.resolve_left fresh
      | returned readers => exact holds.resolve_left fresh
      | thrown => exact holds.elim
      | _ => cases idle
  exact flags_perm_of_agrees sound.formed quiescent.finished link.shared.cached distinct.cached
    agrees

/-- A reader and its card are exported and their signals handled; a call begins. -/
def beforeReply : List (LinkEvent String) :=
  let reader := "/org/librescrs/Agent/reader/1"
  let card := "/org/librescrs/Agent/card/1"
  [.agent (.registerReader reader "Reader" none), .agent (.announce reader),
    .agent (.insertCard card reader "None"), .agent (.registerCard card),
    .agent (.updateCardPresence reader (some card)), .agent (.announce card), .forgetSettled,
    .invalidate, .forgetSettled, .invalidate, .enter, .client .exchange, .client .begin]

/-- The call reads the card's certificates, stores its list and returns. -/
def afterReply : List (LinkEvent String) :=
  [.client .visit, .client .visit, .client .accept, .client (.finish false 0 0 []), .client .visit,
    .client .store, .client .mark]

/-- The state in which the call asks for the list. -/
def askingLink : Link Unit := (run (step plainLibrary id) {} beforeReply).get (by decide +kernel)

/-- The state in which the call has returned. -/
def insertedLink : Link Unit :=
  (run (step plainLibrary id) {} (beforeReply ++ .client (.answer true) :: afterReply)).get
    (by decide +kernel)

/-- The inserted card is in the kept list. -/
theorem inserted_card_converges :
    insertedLink.Quiescent ∧
      (insertedLink.shared.cached.map (fun reader => (reader.readerPath, reader.hasCard))).Perm
        (readerFlags insertedLink.tree) ∧
      readerFlags insertedLink.tree = [("/org/librescrs/Agent/reader/1", true)] := by
  have asked : run (step plainLibrary id) {} beforeReply = some askingLink :=
    (Option.some_get _).symm
  have reached : run (step plainLibrary id) {} (beforeReply ++ .client (.answer true) :: afterReply) =
      some insertedLink := (Option.some_get _).symm
  have calm : Admitted (step plainLibrary id) CalmlyRead {}
      (beforeReply ++ .client (.answer true) :: afterReply) := by
    refine admitted_append _ _ _ _ _ (admitted_of_all _ _ _ ?_ _) ?_
    · simp [beforeReply, CalmlyRead]
    · intro middle passed
      rw [asked] at passed
      cases passed
      refine ⟨fun _ _ => ?_, fun next _ => admitted_of_all _ _ _ ?_ _⟩
      · have distinct := reached_distinct plainLibrary id beforeReply askingLink asked
        exact calm_of_paths distinct.formed (by decide +kernel)
      · simp [afterReply, CalmlyRead]
  have timely := calm_runs_timely plainLibrary id _ insertedLink calm reached (by decide +kernel)
  have distinct := reached_distinct plainLibrary id _ insertedLink reached
  have quiescent : insertedLink.Quiescent := by
    refine ⟨finished_of_paths distinct.formed (by decide +kernel), by decide +kernel,
      by decide +kernel, by decide +kernel, ?_⟩
    intro phase found
    cases found
    rfl
  exact ⟨quiescent, timely_runs_converge plainLibrary id _ insertedLink timely reached quiescent,
    by decide +kernel⟩

/-- A reader's removal is announced and handled, and the list is read before the
reader is unregistered. -/
def withdrawnReader : List (LinkEvent String) :=
  let reader := "/org/librescrs/Agent/reader/1"
  [.agent (.registerReader reader "Reader" none), .agent (.announce reader), .forgetSettled,
    .invalidate, .agent (.withdraw reader), .forgetSettled, .invalidate, .enter, .client .exchange,
    .client .begin, .client (.answer true), .client .visit, .client .visit, .client .store,
    .client .mark, .agent (.unregister reader)]

/-- The state the withdrawn reader leads to. -/
def keptReader : Link Unit :=
  (run (step plainLibrary id) {} withdrawnReader).get (by decide +kernel)

/-- The reader is kept although the tree has no reader any more. -/
theorem withdrawn_reader_kept :
    run (step plainLibrary id) {} withdrawnReader = some keptReader ∧ keptReader.Quiescent ∧
      keptReader.shared.cached.map ReaderState.readerPath = ["/org/librescrs/Agent/reader/1"] ∧
      readerFlags keptReader.tree = [] ∧ ¬ keptReader.Converged := by
  have reached : run (step plainLibrary id) {} withdrawnReader = some keptReader :=
    (Option.some_get _).symm
  have distinct := reached_distinct plainLibrary id withdrawnReader keptReader reached
  have kept : keptReader.shared.cached.map ReaderState.readerPath =
      ["/org/librescrs/Agent/reader/1"] := by decide +kernel
  have flags : readerFlags keptReader.tree = [] := by decide +kernel
  have quiescent : keptReader.Quiescent := by
    refine ⟨finished_of_paths distinct.formed (by decide +kernel), by decide +kernel,
      by decide +kernel, by decide +kernel, ?_⟩
    intro phase found
    cases found
    rfl
  refine ⟨reached, quiescent, kept, flags, ?_⟩
  intro converged
  have same := (converged quiescent).length_eq
  have lengths := congrArg List.length kept
  rw [flags, List.length_map] at same
  rw [List.length_map, same] at lengths
  cases lengths

end Link

end LibreLinux.Pkcs11
