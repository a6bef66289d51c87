import LibreLinux.Pkcs11.SlotCache

/-!
# Replies of unexpected types

A call that enumerates consumes the dirty mark first and sets it again when its
list is incomplete. A value of an unexpected type is read in three places without
a guard: a reader's presence, a reader's card path, and a certificate's subject
name. Each of them throws past the end of the call, where the mark is not set
again. A call whose replies have the expected types never throws, so a failed one
is asked for again by the next call.

The method a card asks for before it can be read is looked up in the reply under
a guard, with a default for every way the lookup can end without one.
-/

namespace LibreLinux.Pkcs11

open Wire (Variant Interfaces ManagedObjects kReaderIface kCardIface)
open Runs

variable {κ ε : Type}

/-- An object that is a reader has a boolean presence and a path as its card, or
leaves them out. -/
def ReaderTyped (object : String × Interfaces) : Prop :=
  ∀ props, object.2.lookup kReaderIface = some props →
    (readProperty props "HasCard" Variant.getBool false).isSome = true ∧
      (readProperty props "Card" Variant.getObjectPath "").isSome = true

/-- The agent's answer has the types the call reads without a guard. -/
def Input.Typed : Input → Prop
  | .answer (some managed) => ∀ object ∈ managed, ReaderTyped object
  | .ended (.finished read) =>
    read.ok = true → ∀ cert ∈ read.certificates, (subjectCn cert).isSome = true
  | _ => True

/-- The same, apart from objects the call has yet to visit. -/
def Input.TypedBut (unvisited : ManagedObjects) : Input → Prop
  | .answer (some managed) => ∀ object ∈ managed, ReaderTyped object ∨ object ∈ unvisited
  | input => input.Typed

/-- One step of a call that no other thread interrupts. -/
def callStep (library : Library κ ε) (state : Shared ε × Phase ε) (input : Input) :
    Option (Shared ε × Phase ε) :=
  advance library state.1 state.2 input

/-- The objects of the reply a call has yet to visit. -/
def Phase.unvisited : Phase ε → ManagedObjects
  | .walking walk => walk.todo
  | .calling walk _ _ _ => walk.todo
  | .reading walk _ _ _ => walk.todo
  | .settling walk _ _ => walk.todo
  | _ => []

/-- Whether the call is over. -/
def Phase.ended : Phase ε → Bool
  | .returned _ => true
  | .thrown => true
  | _ => false

/-- The call left by an exception, or with an incomplete list. -/
def LeftFailing (past : List ((Shared ε × Phase ε) × Input)) (phase : Phase ε) : Prop :=
  phase = .thrown ∨ ∃ taken ∈ past, ∃ readers, taken.1.2 = .marking readers false

/-- The next call enumerates. -/
def EnumeratesNext (library : Library κ ε) (shared : Shared ε) : Prop :=
  ∃ next, advance library shared .entered .exchange = some (next, .enumerating)

/-- Only the mark decides whether the next call enumerates. -/
theorem enumerates_next_iff (library : Library κ ε) (shared : Shared ε) :
    EnumeratesNext library shared ↔ shared.dirty = true := by
  constructor
  · rintro ⟨next, exchanged⟩
    simp only [advance, Option.some.injEq, Prod.mk.injEq] at exchanged
    by_contra clear
    rw [if_neg clear] at exchanged
    cases exchanged.2
  · intro due
    exact ⟨{ shared with dirty := false }, by simp [advance, due]⟩

/-- A visit throws exactly at a mistyped reader. -/
theorem visit_mistyped_iff (managed : ManagedObjects) (object : String × Interfaces) :
    visitObject (ε := ε) managed object = .mistyped ↔ ¬ ReaderTyped object := by
  unfold visitObject ReaderTyped
  cases reader : object.2.lookup kReaderIface with
  | none => simp
  | some props =>
    simp only [Option.some.injEq, forall_eq']
    cases hasCard : readProperty props "HasCard" Variant.getBool false with
    | none => simp
    | some present =>
      cases card : readProperty props "Card" Variant.getObjectPath "" with
      | none => simp
      | some path =>
        simp only [Option.isSome_some, and_self, not_true, iff_false]
        split_ifs <;> simp

/-- A certificate list throws exactly at a subject name that is not a string. -/
theorem cert_entries_fail_iff (library : Library κ ε) (preAuth : PreReadAuth)
    (certs : List Results.Certificates1CertTuple) :
    certEntries library preAuth certs = none ↔ ∃ cert ∈ certs, subjectCn cert = none := by
  rw [certEntries, Option.map_eq_none_iff]
  induction certs with
  | nil => simp
  | cons cert rest inductionHypothesis =>
    rw [List.mapM_cons]
    cases named : subjectCn cert with
    | none => simp [neutralCert, named]
    | some text =>
      cases tail : rest.mapM (neutralCert library) with
      | none => simpa [neutralCert, named, tail] using inductionHypothesis.mp tail
      | some neutral =>
        have none : ¬ ∃ cert ∈ rest, subjectCn cert = none := by
          rw [← inductionHypothesis, tail]
          simp
        simpa [neutralCert, named, tail] using none

/-- What follows a read has thrown exactly for a mistyped answer. -/
theorem after_read_thrown_iff (library : Library κ ε) (walk : Walk ε) (reader : ReaderState ε)
    (card : String) (preAuth : PreReadAuth) (read : ReadEnd) :
    afterRead library walk reader card preAuth (readCerts library read) = .thrown ↔
      ¬ (Input.ended read).Typed := by
  cases read with
  | error errorName =>
    simp only [readCerts, Input.Typed, not_true, iff_false]
    split_ifs <;> simp [afterRead]
  | exception => simp [readCerts, Input.Typed, afterRead]
  | finished read =>
    simp only [readCerts, Input.Typed]
    cases good : read.ok with
    | false =>
      simp only [Bool.false_eq_true, if_false, false_implies, not_true, iff_false]
      split_ifs <;> simp [afterRead]
    | true =>
      have failing := cert_entries_fail_iff library preAuth read.certificates
      simp only [if_true, true_implies, afterRead]
      cases entries : certEntries library preAuth read.certificates with
      | none =>
        obtain ⟨cert, member, untyped⟩ := failing.mp entries
        simp only [true_iff]
        intro typed
        have named := typed cert member
        rw [untyped] at named
        cases named
      | some certs =>
        simp only [reduceCtorEq, false_iff, not_not]
        intro cert member
        rw [Option.isSome_iff_ne_none]
        intro untyped
        rw [failing.mpr ⟨cert, member, untyped⟩] at entries
        cases entries

/-- Fewer objects to visit, if the ones visited meanwhile were typed. -/
theorem typed_but_visited (input : Input) (before after : ManagedObjects)
    (visited : ∀ object ∈ before, ReaderTyped object ∨ object ∈ after)
    (typed : input.TypedBut before) : input.TypedBut after := by
  cases input with
  | answer reply =>
    cases reply with
    | none => exact typed
    | some managed =>
      intro object member
      rcases typed object member with good | left
      · exact Or.inl good
      · exact visited object left
  | _ => exact typed

/-- With nothing left to visit, an answer is typed. -/
theorem typed_but_nothing (input : Input) (typed : input.TypedBut []) : input.Typed := by
  cases input with
  | answer reply =>
    cases reply with
    | none => trivial
    | some managed =>
      intro object member
      exact (typed object member).resolve_right (by simp)
  | _ => exact typed

/-- The objects still to visit after a visit, unless it throws. -/
theorem visited_unvisited (shared : Shared ε) (walk : Walk ε) (after : Phase ε)
    (visit : Visited shared walk after) (unthrown : after ≠ .thrown) :
    ∀ object ∈ walk.todo, ReaderTyped object ∨ object ∈ after.unvisited := by
  have rest_left : ∀ (object : String × Interfaces) (rest : ManagedObjects),
      walk.todo = object :: rest → visitObject (ε := ε) walk.managed object ≠ .mistyped →
      ∀ other ∈ walk.todo, ReaderTyped other ∨ other ∈ rest := by
    intro object rest todo found other member
    rw [todo] at member
    rcases List.mem_cons.mp member with rfl | later
    · exact Or.inl (not_not.mp (fun untyped => found ((visit_mistyped_iff _ _).mpr untyped)))
    · exact Or.inr later
  cases visit with
  | finished todo => simp [todo]
  | other object rest todo found => exact rest_left object rest todo (by simp [found])
  | mistyped object rest todo found => exact absurd rfl unthrown
  | vacant object rest reader todo found => exact rest_left object rest todo (by simp [found])
  | known object rest reader card preAuth todo found settled =>
    exact rest_left object rest todo (by simp [found])
  | asked object rest reader card preAuth todo found fresh =>
    exact rest_left object rest todo (by simp [found])

/-- What is left to visit after a visit was left before it. -/
theorem visited_left (shared : Shared ε) (walk : Walk ε) (after : Phase ε)
    (visit : Visited shared walk after) : ∀ object ∈ after.unvisited, object ∈ walk.todo := by
  have rest_listed : ∀ (object : String × Interfaces) (rest : ManagedObjects),
      walk.todo = object :: rest → ∀ other ∈ rest, other ∈ walk.todo := by
    intro object rest todo other member
    rw [todo]
    exact List.mem_cons_of_mem _ member
  cases visit with
  | finished todo => simp [Phase.unvisited]
  | mistyped object rest todo found => simp [Phase.unvisited]
  | other object rest todo found => exact rest_listed object rest todo
  | vacant object rest reader todo found => exact rest_listed object rest todo
  | known object rest reader card preAuth todo found settled => exact rest_listed object rest todo
  | asked object rest reader card preAuth todo found fresh => exact rest_listed object rest todo

/-- What is left to visit after a read. -/
theorem after_read_unvisited (library : Library κ ε) (walk : Walk ε) (reader : ReaderState ε)
    (card : String) (preAuth : PreReadAuth) (outcome : ReadOutcome)
    (unthrown : afterRead library walk reader card preAuth outcome ≠ .thrown) :
    (afterRead library walk reader card preAuth outcome).unvisited = walk.todo := by
  cases outcome with
  | askAgain => rfl
  | settled => rfl
  | read certificates =>
    simp only [afterRead] at unthrown ⊢
    split
    · rename_i failed
      exact absurd (by simp only [failed]) unthrown
    · rfl

/-- A pending read leaves the walk's objects to visit. -/
theorem pending_unvisited (walk : Walk ε) (reader : ReaderState ε) (card : String)
    (preAuth : PreReadAuth) (phase : Phase ε) (pending : Pending walk reader card preAuth phase) :
    phase.unvisited = walk.todo := by
  cases pending <;> rfl

/-- A step that does not throw has met a typed answer, and visited typed objects. -/
theorem advanced_typed (library : Library κ ε) (shared next : Shared ε) (phase after : Phase ε)
    (input : Input) (stepped : Advanced library shared phase input next after)
    (unthrown : after ≠ .thrown) :
    (∀ object ∈ phase.unvisited, ReaderTyped object ∨ object ∈ after.unvisited) ∧
      input.TypedBut after.unvisited := by
  cases stepped with
  | answered generation managed =>
    exact ⟨by simp [Phase.unvisited], fun object member => Or.inr member⟩
  | visit walk after visit => exact ⟨visited_unvisited shared walk after visit unthrown, trivial⟩
  | accept walk reader card preAuth => exact ⟨fun object member => Or.inr member, trivial⟩
  | ended walk reader card preAuth read phase pending =>
    rw [pending_unvisited walk reader card preAuth phase pending,
      after_read_unvisited library walk reader card preAuth _ unthrown]
    refine ⟨fun object member => Or.inr member, ?_⟩
    exact not_not.mp (fun untyped =>
      unthrown ((after_read_thrown_iff library walk reader card preAuth read).mpr untyped))
  | settle walk reader card => exact ⟨fun object member => Or.inr member, trivial⟩
  | _ => exact ⟨by simp [Phase.unvisited], trivial⟩

/-- A step that throws has met a mistyped answer, or visited a mistyped object. It
leaves the mark as it was. -/
theorem advanced_thrown (library : Library κ ε) (shared next : Shared ε) (phase : Phase ε)
    (input : Input) (stepped : Advanced library shared phase input next .thrown) :
    next = shared ∧ phase ≠ .entered ∧ (∀ readers, phase ≠ .returned readers) ∧
      (¬ input.Typed ∨ ∃ object ∈ phase.unvisited, ¬ ReaderTyped object) := by
  generalize thrown : Phase.thrown = after at stepped
  cases stepped with
  | visit walk after visit =>
    subst thrown
    refine ⟨rfl, by simp, by simp, Or.inr ?_⟩
    cases visit with
    | mistyped object rest todo found =>
      exact ⟨object, by simp [Phase.unvisited, todo], (visit_mistyped_iff _ _).mp found⟩
  | ended walk reader card preAuth read phase pending =>
    have untyped := (after_read_thrown_iff library walk reader card preAuth read).mp thrown.symm
    cases pending with
    | calling => exact ⟨rfl, by simp, by simp, Or.inl untyped⟩
    | reading => exact ⟨rfl, by simp, by simp, Or.inl untyped⟩
  | exchange => split_ifs at thrown
  | _ => cases thrown

/-- What is left to visit came with an answer. -/
theorem advanced_listed (library : Library κ ε) (shared next : Shared ε) (phase after : Phase ε)
    (input : Input) (stepped : Advanced library shared phase input next after) :
    ∀ object ∈ after.unvisited, object ∈ phase.unvisited ∨
      ∃ managed, input = .answer (some managed) ∧ object ∈ managed := by
  intro object member
  cases stepped with
  | exchange => split_ifs at member <;> cases member
  | answered generation managed => exact Or.inr ⟨managed, rfl, member⟩
  | visit walk after visit => exact Or.inl (visited_left shared walk after visit object member)
  | accept walk reader card preAuth => exact Or.inl member
  | ended walk reader card preAuth read phase pending =>
    rw [pending_unvisited walk reader card preAuth phase pending]
    by_cases thrown : afterRead library walk reader card preAuth (readCerts library read) = .thrown
    · rw [thrown] at member
      cases member
    · rw [after_read_unvisited library walk reader card preAuth _ thrown] at member
      exact Or.inl member
  | settle walk reader card => exact Or.inl member
  | _ => cases member

/-- What a call that runs alone knows of its past. One under way has consumed the
mark and met no mistyped answer but in the objects still to visit; one that threw
has met one; and one that left an incomplete list has set the mark. -/
structure Judged (past : List ((Shared ε × Phase ε) × Input)) (state : Shared ε × Phase ε) : Prop where
  consumed : state.2 = .entered ∨ state.1.dirty = false ∨ ∃ readers, state.2 = .returned readers
  typed : state.2 ≠ .thrown → ∀ taken ∈ past, taken.2.TypedBut state.2.unvisited
  mistyped : state.2 = .thrown → state.1.dirty = false ∧ ∃ taken ∈ past, ¬ taken.2.Typed
  marked : ∀ taken ∈ past, ∀ readers, taken.1.2 = .marking readers false →
    state.1.dirty = true ∧ ∃ readers, state.2 = .returned readers
  listed : ∀ object ∈ state.2.unvisited, ∃ taken ∈ past, ∃ managed,
    taken.2 = .answer (some managed) ∧ object ∈ managed

/-- A call over, or not yet begun, has no step but the first. -/
theorem advanced_from (library : Library κ ε) (shared next : Shared ε) (phase after : Phase ε)
    (input : Input) (stepped : Advanced library shared phase input next after) :
    (∀ readers, phase ≠ .returned readers) ∧ phase ≠ .thrown ∧ after ≠ .entered := by
  cases stepped with
  | exchange => split_ifs <;> simp
  | visit walk after visit => cases visit <;> simp
  | ended walk reader card preAuth read phase pending =>
    have left : afterRead library walk reader card preAuth (readCerts library read) ≠ .entered := by
      rcases after_read_in_flight library walk reader card preAuth (readCerts library read) with
        flying | thrown
      · intro entered
        rw [entered] at flying
        cases flying
      · simp [thrown]
    cases pending <;> exact ⟨by simp, by simp, left⟩
  | _ => simp

/-- The mark after a step: consumed, left alone, or set for an incomplete list. -/
theorem advanced_mark (library : Library κ ε) (shared next : Shared ε) (phase after : Phase ε)
    (input : Input) (stepped : Advanced library shared phase input next after) :
    (phase = .entered ∧ next.dirty = false) ∨
      (∃ readers complete, phase = .marking readers complete ∧ after = .returned readers ∧
        next.dirty = (shared.dirty || !complete)) ∨
      (phase ≠ .entered ∧ (∀ readers complete, phase ≠ .marking readers complete) ∧
        next.dirty = shared.dirty) := by
  cases stepped with
  | exchange => exact Or.inl ⟨rfl, rfl⟩
  | mark readers complete => exact Or.inr (Or.inl ⟨readers, complete, rfl, rfl, rfl⟩)
  | ended walk reader card preAuth read phase pending =>
    cases pending <;> exact Or.inr (Or.inr ⟨by simp, by simp, rfl⟩)
  | settle walk reader card =>
    refine Or.inr (Or.inr ⟨by simp, by simp, ?_⟩)
    rw [settleCard]
    split_ifs <;> rfl
  | _ => exact Or.inr (Or.inr ⟨by simp, by simp, rfl⟩)

/-- Every step of a call that runs alone keeps what it knows of its past. -/
theorem judged_step (library : Library κ ε) (past : List ((Shared ε × Phase ε) × Input))
    (state : Shared ε × Phase ε) (input : Input) (next : Shared ε × Phase ε)
    (judged : Judged past state) (stepped : callStep library state input = some next) :
    Judged (past ++ [(state, input)]) next := by
  obtain ⟨shared, phase⟩ := state
  obtain ⟨shared', after⟩ := next
  have advance := advanced library shared shared' phase after input stepped
  obtain ⟨unreturned, unthrown, -⟩ := advanced_from library shared shared' phase after input advance
  have clear : phase = .entered ∨ shared.dirty = false := by
    rcases judged.consumed with entered | clear | ⟨readers, returned⟩
    · exact Or.inl entered
    · exact Or.inr clear
    · exact absurd returned (unreturned readers)
  constructor
  · rcases advanced_mark library shared shared' phase after input advance with ⟨-, consumed⟩ |
      ⟨readers, complete, -, rfl, -⟩ | ⟨begun, -, same⟩
    · exact Or.inr (Or.inl consumed)
    · exact Or.inr (Or.inr ⟨readers, rfl⟩)
    · exact Or.inr (Or.inl (same.trans (clear.resolve_left begun)))
  · intro unthrown' taken member
    obtain ⟨visited, typed⟩ := advanced_typed library shared shared' phase after input advance
      unthrown'
    rcases List.mem_append.mp member with earlier | latest
    · exact typed_but_visited taken.2 _ _ visited (judged.typed unthrown taken earlier)
    · rw [List.mem_singleton.mp latest]
      exact typed
  · intro thrown
    have thrown : after = .thrown := thrown
    subst thrown
    obtain ⟨rfl, begun, -, cause⟩ := advanced_thrown library shared shared' phase input advance
    refine ⟨clear.resolve_left begun, ?_⟩
    rcases cause with untyped | ⟨object, left, untyped⟩
    · exact ⟨((shared', phase), input), by simp, untyped⟩
    · obtain ⟨taken, member, managed, answered, listed⟩ := judged.listed object left
      refine ⟨taken, List.mem_append_left _ member, ?_⟩
      rw [answered]
      exact fun typed => untyped (typed object listed)
  · intro taken member readers marking
    rcases List.mem_append.mp member with earlier | latest
    · obtain ⟨-, others, returned⟩ := judged.marked taken earlier readers marking
      exact absurd returned (unreturned others)
    · rw [List.mem_singleton.mp latest] at marking
      have marking : phase = .marking readers false := marking
      rcases advanced_mark library shared shared' phase after input advance with ⟨entered, -⟩ |
        ⟨others, complete, same, rfl, marked⟩ | ⟨-, unmarked, -⟩
      · rw [marking] at entered
        cases entered
      · rw [marking] at same
        cases same
        exact ⟨by simpa using marked, readers, rfl⟩
      · exact absurd marking (unmarked readers false)
  · intro object left
    rcases advanced_listed library shared shared' phase after input advance object left with
      before | ⟨managed, answered, listed⟩
    · obtain ⟨taken, member, managed, answered, listed⟩ := judged.listed object before
      exact ⟨taken, List.mem_append_left _ member, managed, answered, listed⟩
    · exact ⟨((shared, phase), input), by simp, managed, answered, listed⟩

/-- A call that leaves by an exception or with an incomplete list is followed by
an enumeration exactly when the answers it met have the types it reads without a
guard.

A mistyped answer ends the call by an exception, with the mark consumed; typed
answers leave only the incomplete list, which sets the mark. -/
theorem failed_call_asked_again_iff (library : Library κ ε) (shared final : Shared ε)
    (inputs : List Input) (phase : Phase ε)
    (completed : run (callStep library) (shared, .entered) inputs = some (final, phase))
    (ended : phase.ended = true) :
    (LeftFailing (trace (callStep library) (shared, .entered) inputs) phase →
      EnumeratesNext library final) ↔ ∀ input ∈ inputs, input.Typed := by
  have judged : Judged (trace (callStep library) (shared, .entered) inputs) (final, phase) := by
    refine trace_invariant (callStep library) Judged (judged_step library) inputs _ _ ?_ completed
    exact ⟨Or.inl rfl, by simp, by simp, by simp, by simp [Phase.unvisited]⟩
  have events := trace_events (callStep library) inputs (shared, .entered) (final, phase) completed
  rw [enumerates_next_iff]
  cases phase with
  | thrown =>
    obtain ⟨clear, taken, member, untyped⟩ := judged.mistyped rfl
    have clear : final.dirty = false := clear
    have met : taken.2 ∈ inputs := events ▸ List.mem_map_of_mem member
    constructor
    · intro asked
      rw [asked (Or.inl rfl)] at clear
      cases clear
    · intro typed
      exact absurd (typed taken.2 met) untyped
  | returned readers =>
    constructor
    · intro _ input member
      rw [← events] at member
      obtain ⟨taken, listed, rfl⟩ := List.mem_map.mp member
      exact typed_but_nothing taken.2 (judged.typed (by simp) taken listed)
    · rintro - (thrown | ⟨taken, member, others, marking⟩)
      · cases thrown
      · exact (judged.marked taken member others marking).1
  | _ => cases ended

/-- The agent cannot be reached, so the call returns an incomplete list. -/
def unreachableAgent : List Input := [.exchange, .begin, .answer none, .store, .mark]

/-- The incomplete list is asked for again. -/
theorem unreachable_agent_asked_again :
    EnumeratesNext plainLibrary
      ((run (callStep plainLibrary) ({}, .entered) unreachableAgent).get (by decide +kernel)).1 := by
  refine (failed_call_asked_again_iff plainLibrary {} _ unreachableAgent (.returned [])
    rfl rfl).mpr ?_ (Or.inr ?_)
  · intro input member
    simp only [unreachableAgent, List.mem_cons, List.not_mem_nil, or_false] at member
    rcases member with rfl | rfl | rfl | rfl | rfl <;> trivial
  · exact ⟨(_, .mark), List.mem_of_getElem? (i := 4) rfl, [], rfl⟩

/-- One reader whose presence is a word. -/
def mistypedPresence : ManagedObjects :=
  [("/org/librescrs/Agent/reader/1",
    Finmap.singleton kReaderIface (Finmap.singleton "HasCard" (.string "yes")))]

/-- The agent answers with that reader. -/
def mistypedReply : List Input := [.exchange, .begin, .answer (some mistypedPresence), .visit]

/-- The call throws, and the next one serves the list from before it. -/
theorem mistyped_reply_forgotten :
    ∃ final, run (callStep plainLibrary) ({}, .entered) mistypedReply = some (final, .thrown) ∧
      final.dirty = false ∧
      ¬ (LeftFailing (trace (callStep plainLibrary) ({}, .entered) mistypedReply) .thrown →
        EnumeratesNext plainLibrary final) := by
  have completed : run (callStep plainLibrary) ({}, .entered) mistypedReply =
      some ({ dirty := false }, .thrown) := rfl
  refine ⟨{ dirty := false }, completed, rfl, ?_⟩
  intro asked
  have due := (enumerates_next_iff plainLibrary _).mp (asked (Or.inl rfl))
  cases due

/-- The method the reply itself states for a card: a string in the entry of the
card's own object. -/
def statedMethod (managed : ManagedObjects) (card : String) : Option String :=
  (((managed.lookup card).bind (fun ifaces => ifaces.lookup kCardIface)).bind
    (fun props => props.lookup "PreReadAuthMethod")).bind Variant.getString

/-- The walk of a phase over its reply. -/
def Phase.walk? : Phase ε → Option (Walk ε)
  | .walking walk => some walk
  | .calling walk _ _ _ => some walk
  | .reading walk _ _ _ => some walk
  | .settling walk _ _ => some walk
  | _ => none

/-- A call's walk is over the reply the call was given, and the card it reads was
found in that reply, with its method. -/
structure Informed (past : List CacheEvent) (call : Nat) (phase : Phase ε) : Prop where
  reply : ∀ walk, phase.walk? = some walk →
    .advance call (.answer (some walk.managed)) ∈ past
  shown : ∀ walk reader card preAuth, Pending walk reader card preAuth phase →
    ∃ object, visitObject walk.managed object = .occupied reader card preAuth

/-- A phase without a walk knows nothing. -/
theorem informed_idle (past : List CacheEvent) (call : Nat) (phase : Phase ε)
    (idle : phase.walk? = none) : Informed past call phase := by
  refine ⟨by simp [idle], ?_⟩
  rintro walk reader card preAuth (_ | _) <;> cases idle

/-- A walk that reads no card knows its reply. -/
theorem informed_walk (past : List CacheEvent) (call : Nat) (phase : Phase ε) (walk : Walk ε)
    (walks : phase.walk? = some walk)
    (unread : ∀ walk reader card preAuth, ¬ Pending walk reader card preAuth phase)
    (answered : .advance call (.answer (some walk.managed)) ∈ past) : Informed past call phase := by
  refine ⟨?_, fun walk reader card preAuth pending => absurd pending (unread _ _ _ _)⟩
  intro other found
  rw [walks] at found
  cases found
  exact answered

/-- A longer past knows as much. -/
theorem informed_mono (past : List CacheEvent) (event : CacheEvent) (call : Nat) (phase : Phase ε)
    (informed : Informed past call phase) : Informed (past ++ [event]) call phase where
  reply walk found := List.mem_append_left _ (informed.reply walk found)
  shown := informed.shown

/-- A step of a call keeps what the call knows. -/
theorem informed_advanced (library : Library κ ε) (shared next : Shared ε) (phase after : Phase ε)
    (input : Input) (past : List CacheEvent) (call : Nat) (informed : Informed past call phase)
    (stepped : Advanced library shared phase input next after) :
    Informed (past ++ [.advance call input]) call after := by
  have unread : ∀ walk : Walk ε, ∀ other reader card preAuth,
      ¬ Pending other reader card preAuth (.walking walk) := by
    rintro walk other reader card preAuth ⟨⟩
  have unsettled : ∀ (walk : Walk ε) (kept : ReaderState ε) (named : String),
      ∀ other reader card preAuth, ¬ Pending other reader card preAuth (.settling walk kept named) := by
    rintro walk kept named other reader card preAuth ⟨⟩
  have earlier : ∀ walk, phase.walk? = some walk →
      .advance call (.answer (some walk.managed)) ∈ past ++ [.advance call input] :=
    fun walk found => List.mem_append_left _ (informed.reply walk found)
  cases stepped with
  | exchange => exact informed_idle _ _ _ (by split_ifs <;> rfl)
  | answered generation managed =>
    exact informed_walk _ _ _ _ rfl (unread _) (by simp)
  | visit walk after visit =>
    have answered := earlier walk rfl
    cases visit with
    | finished todo => exact informed_idle _ _ _ rfl
    | mistyped object rest todo found => exact informed_idle _ _ _ rfl
    | other object rest todo found => exact informed_walk _ _ _ _ rfl (unread _) answered
    | vacant object rest reader todo found => exact informed_walk _ _ _ _ rfl (unread _) answered
    | known object rest reader card preAuth todo found settled =>
      exact informed_walk _ _ _ _ rfl (unsettled _ _ _) answered
    | asked object rest reader card preAuth todo found fresh =>
      constructor
      · rintro other ⟨⟩
        exact answered
      · rintro other kept named method ⟨⟩
        exact ⟨object, found⟩
  | accept walk reader card preAuth =>
    refine ⟨fun other found => earlier other found, ?_⟩
    rintro other kept named method ⟨⟩
    exact informed.shown walk reader card preAuth .calling
  | ended walk reader card preAuth read phase pending =>
    have answered : .advance call (.answer (some walk.managed)) ∈ past ++ [.advance call (.ended read)] := by
      cases pending <;> exact earlier walk rfl
    cases outcome : readCerts library read with
    | askAgain => exact informed_walk _ _ _ _ rfl (unread _) answered
    | settled => exact informed_walk _ _ _ _ rfl (unsettled _ _ _) answered
    | read certificates =>
      simp only [afterRead]
      split
      · exact informed_idle _ _ _ rfl
      · exact informed_walk _ _ _ _ rfl (unread _) answered
  | settle walk reader card => exact informed_walk _ _ _ _ rfl (unread _) (earlier walk rfl)
  | _ => exact informed_idle _ _ _ rfl

/-- Every call of a run knows its reply. -/
theorem reached_informed (library : Library κ ε) (events : List CacheEvent) (state : SlotCache ε)
    (reached : run (SlotCache.step library) {} events = some state) (call : Nat) (phase : Phase ε)
    (current : state.calls call = some phase) : Informed events call phase := by
  have informed : ∀ call phase, state.calls call = some phase →
      Informed ((trace (SlotCache.step library) {} events).map Prod.snd) call phase := by
    refine trace_invariant (SlotCache.step library)
      (fun past (state : SlotCache ε) => ∀ call phase, state.calls call = some phase →
        Informed (past.map Prod.snd) call phase) ?_ events {} state (by simp) reached
    intro past before event next known stepped call phase found
    rw [List.map_append, List.map_singleton]
    rcases call_moved library before next event call phase stepped found with ⟨unmoved, -⟩ |
      ⟨-, rfl⟩ | ⟨input, earlier, rfl, current, advance⟩
    · exact informed_mono _ _ _ _ (known call phase unmoved)
    · exact informed_idle _ _ _ rfl
    · exact informed_advanced library _ _ earlier phase input _ call (known call earlier current)
        advance
  have known := informed call phase current
  rwa [trace_events (SlotCache.step library) events {} state reached] at known

/-- A card found by a visit comes with the method of the reply, or with the
default. -/
theorem occupied_method (managed : ManagedObjects) (object : String × Interfaces)
    (reader : ReaderState ε) (card : String) (preAuth : PreReadAuth)
    (found : visitObject managed object = .occupied reader card preAuth) :
    preAuth = preReadAuthFromToken ((statedMethod managed card).getD "None") := by
  unfold visitObject at found
  split at found
  · cases found
  · split at found
    · dsimp only at found
      split_ifs at found
      cases found
      rfl
    · cases found

/-- A card is read as one that asks for no secret only if the reply states so. -/
def FailsClosed (managed : ManagedObjects) (card : String) (preAuth : PreReadAuth) : Prop :=
  (preAuth = .none → statedMethod managed card = some "None") ∧
    (statedMethod managed card ≠ some "None" → preAuth = .can ∨ preAuth = .mrz)

/-- The lookup fails closed exactly when the reply states a method. -/
theorem fails_closed_iff (managed : ManagedObjects) (card : String) :
    FailsClosed managed card (preReadAuthFromToken ((statedMethod managed card).getD "None")) ↔
      (statedMethod managed card).isSome = true := by
  cases stated : statedMethod managed card with
  | none => simp [FailsClosed, stated, preReadAuthFromToken]
  | some token =>
    simp only [FailsClosed, stated, Option.getD_some, Option.some.injEq, ne_eq, Option.isSome_some,
      iff_true, preReadAuthFromToken]
    by_cases plain : token = "None"
    · simp [plain]
    · by_cases can : token = "Can"
      · simp [can]
      · simp [plain, can]

/-- In every run, the certificates of a read are classified with the method looked
up in the reply of the same call, and that classification fails closed exactly
when the reply states the card's method. -/
theorem pre_read_fails_closed_iff (library : Library κ ε) (events : List CacheEvent)
    (state next : SlotCache ε) (call : Nat) (read : ReadEnd)
    (certs : List Results.Certificates1CertTuple)
    (reached : run (SlotCache.step library) {} events = some state)
    (stepped : SlotCache.step library state (.advance call (.ended read)) = some next)
    (success : readCerts library read = .read certs) :
    ∃ walk reader card preAuth,
      state.calls call = some (.reading walk reader card preAuth) ∧
      .advance call (.answer (some walk.managed)) ∈ events ∧
      next.calls call = some (match certEntries library preAuth certs with
        | none => .thrown
        | some entries =>
          .walking (walk.keep (tokenTexts library card { reader with certs := entries }))) ∧
      (FailsClosed walk.managed card preAuth ↔ (statedMethod walk.managed card).isSome = true) := by
  simp only [SlotCache.step, Option.bind_eq_some_iff, Option.map_eq_some_iff] at stepped
  obtain ⟨phase, current, ⟨shared, after⟩, advance, rfl⟩ := stepped
  have step := advanced library _ _ _ _ _ advance
  cases step with
  | ended walk reader card preAuth read phase pending finished =>
    have reading : phase = .reading walk reader card preAuth := by
      cases read with
      | finished read => exact finished ⟨read, rfl⟩
      | error errorName =>
        simp only [readCerts] at success
        split_ifs at success
      | exception => cases success
    subst reading
    have informed := reached_informed library events state reached call _ current
    obtain ⟨object, found⟩ := informed.shown walk reader card preAuth .reading
    refine ⟨walk, reader, card, preAuth, current, informed.reply walk rfl, ?_, ?_⟩
    · simp only [success, Function.update_self]
      rfl
    · rw [occupied_method walk.managed object reader card preAuth found]
      exact fails_closed_iff walk.managed card

/-- A reply with one reader and its card, whose object is there or not yet. -/
def readerReply (card : ManagedObjects) : ManagedObjects :=
  card ++ [("/org/librescrs/Agent/reader/1", Finmap.singleton kReaderIface
    ((Finmap.singleton "HasCard" (.boolean true)).insert "Card"
      (.objectPath "/org/librescrs/Agent/card/2")))]

/-- The entry of a card that asks for its CAN. -/
def canCard : ManagedObjects :=
  [("/org/librescrs/Agent/card/2", Finmap.singleton kCardIface
    (Finmap.singleton "PreReadAuthMethod" (.string "Can")))]

/-- One call up to the end of its read, which finds no certificate. -/
def readAfter (managed : ManagedObjects) : List CacheEvent :=
  [.enter 0, .advance 0 .exchange, .advance 0 .begin, .advance 0 (.answer (some managed))] ++
    List.replicate managed.length (.advance 0 .visit) ++ [.advance 0 .accept]

/-- A library whose entries show the method they were derived with. -/
def showingLibrary : Library Unit PreReadAuth :=
  { plainLibrary with
    certEntryFrom := fun _ preAuth => some preAuth
    tokenLabelFor := fun _ readerName => readerName }

/-- One certificate. -/
def signingCert : Results.Certificates1CertTuple where
  certId := "sign"
  signingCapable := true
  fields := ∅
  keyUsageBits := 64
  ekuOids := []
  chainSubjectCns := []
  trustStatus := 0
  alwaysAuthenticate := true
  keyId := [1]
  keyType := "RSA"
  keyBits := 2048
  canDerive := false

/-- A read that ends well, with that certificate. -/
def signingRead : ReadEnd := .finished { status := 0, certificates := [signingCert] }

/-- The card whose object is in the reply is read as one that asks for its CAN. -/
theorem exported_card_fails_closed :
    ∃ managed card preAuth, statedMethod managed card = some "Can" ∧
      FailsClosed managed card preAuth := by
  have completes : (run (SlotCache.step showingLibrary) {}
      (readAfter (readerReply canCard))).isSome = true := by decide +kernel
  have continues : (SlotCache.step showingLibrary ((run (SlotCache.step showingLibrary) {}
      (readAfter (readerReply canCard))).get completes) (.advance 0 (.ended signingRead))).isSome =
        true := rfl
  obtain ⟨walk, reader, card, preAuth, current, -, -, closed⟩ :=
    pre_read_fails_closed_iff showingLibrary (readAfter (readerReply canCard)) _ _ 0 signingRead _
      (Option.some_get completes).symm (Option.some_get continues).symm rfl
  have shown : ((run (SlotCache.step showingLibrary) {}
      (readAfter (readerReply canCard))).get completes).calls 0 =
        some (.reading { generation := 0, managed := readerReply canCard, todo := [] }
          { readerPath := "/org/librescrs/Agent/reader/1", hasCard := true }
          "/org/librescrs/Agent/card/2" .can) := rfl
  rw [shown] at current
  cases current
  have stated : statedMethod (readerReply canCard) "/org/librescrs/Agent/card/2" = some "Can" := by
    decide +kernel
  exact ⟨readerReply canCard, _, .can, stated, closed.mpr (by rw [stated]; rfl)⟩

/-- While the card's object is not exported, its certificates are classified as
those of a card that asks for no secret. -/
theorem unexported_card_open :
    ∃ state walk, run (SlotCache.step showingLibrary) {}
        (readAfter (readerReply []) ++ [.advance 0 (.ended signingRead)]) = some state ∧
      state.calls 0 = some (.walking walk) ∧ walk.managed = readerReply [] ∧
      walk.readers.map ReaderState.certs = [[.none]] ∧
      statedMethod (readerReply []) "/org/librescrs/Agent/card/2" = none ∧
      ¬ FailsClosed (readerReply []) "/org/librescrs/Agent/card/2" .none := by
  have completes : (run (SlotCache.step showingLibrary) {}
      (readAfter (readerReply []) ++ [.advance 0 (.ended signingRead)])).isSome = true := by
    decide +kernel
  have unstated : statedMethod (readerReply []) "/org/librescrs/Agent/card/2" = none := by
    decide +kernel
  refine ⟨_, _, (Option.some_get completes).symm, rfl, rfl, rfl, unstated, ?_⟩
  intro closed
  have stated := closed.1 rfl
  rw [unstated] at stated
  cases stated

end LibreLinux.Pkcs11
