import LibreLinux.Lib.Descriptors
import LibreLinux.Lib.Runs
import Mathlib.Logic.Function.Basic

/-!
# Reads of a process that cannot be mistaken for another

A process number may be given to another process once its owner was reaped. A pinned
read therefore opens a descriptor of the process first, reads its file by number, and
probes the process through the descriptor afterwards. The probe succeeds only while
the pinned process is not reaped, and then the number was its own all the time.

The processes and the kernel take their steps between any two steps of the read: a
process exits, it is reaped, its number is given to a new process, and what its files
show changes. Each system call of the read may fail, and so may an allocation. A file
of `stat` belongs to the process that owned the number when it was opened; its content
is read later and may be cut short. The link of `exe` is opened and read in one call.

Processes are numbered in the order they are created, unlike the numbers they own.
-/

namespace LibreLinux.Common

open Descriptors Runs

/-- Which file of a process is read. -/
inductive ProcFile where
  | stat
  | exe
deriving DecidableEq, Repr

/-- A process, as against its number. -/
abbrev Process := Nat

/-- Where a pinned read stands: `pin` is the descriptor of the process and `source` the
process whose file was opened. -/
inductive PinPhase where
  | idle
  | called (file : ProcFile) (pid : Int)
  | pinned (file : ProcFile) (pid : Int) (pin : Nat)
  | opened (pid : Int) (pin : Nat) (source : Process)
  | read (pid : Int) (pin : Nat) (source : Process) (value : List Char)
  | returned (value : Option (List Char))
  | thrown

/-- The owners of the numbers, the processes that exited and those that were reaped,
what their files show, the descriptors of the reader and where it stands. -/
structure PinState where
  owner : Int → Option Process := fun _ => none
  created : Nat := 0
  exited : Process → Bool := fun _ => false
  reaped : Process → Bool := fun _ => false
  shown : ProcFile → Process → List Char := fun _ _ => []
  pidfds : Table Process := {}
  phase : PinPhase := .idle

/-- A step of the kernel, of a process or of the reader. -/
inductive PinEvent where
  | fork (pid : Int)
  | exit (pid : Int)
  | reap (pid : Int)
  | show (file : ProcFile) (process : Process) (text : List Char)
  | call (file : ProcFile) (pid : Int)
  | pidfdOpen (fails : Bool)
  | openStat (fails : Bool)
  | readStat (count : Nat)
  | readSymlink (fails : Bool)
  | pidfdSendSignal (fails : Bool)
  | throws

/-- The number that a read is called with. -/
def PinEvent.asks : PinEvent → Option Int
  | .call _ pid => some pid
  | _ => none

namespace PinState

/-- The end of the read: its pin is destroyed and the descriptor closed. -/
def leave (state : PinState) (pin : Nat) (phase : PinPhase) : PinState :=
  { state with pidfds := state.pidfds.close [pin], phase }

/-- A step of the reader, by where it stands. `readProcStatPinned` opens the file and
reads its content, `readProcExePinned` reads the link; the rest is the same. -/
def reader (state : PinState) : PinPhase → PinEvent → Option PinState
  | .idle, .call file pid =>
    some { state with phase := if pid ≤ 0 then .returned none else .called file pid }
  | .called file pid, .pidfdOpen fails =>
    if fails then some { state with phase := .returned none }
    else (state.owner pid).map (fun process => { state with
      pidfds := (state.pidfds.create process false).2
      phase := .pinned file pid state.pidfds.contents.length })
  | .called _ _, .throws => some { state with phase := .thrown }
  | .pinned .stat pid pin, .openStat fails =>
    if fails then some (state.leave pin (.returned none))
    else (state.owner pid).map (fun source => { state with phase := .opened pid pin source })
  | .opened pid pin source, .readStat count =>
    some { state with phase := .read pid pin source ((state.shown .stat source).take count) }
  | .pinned .exe pid pin, .readSymlink fails =>
    if fails then some (state.leave pin (.returned none))
    else (state.owner pid).map (fun source => { state with
      phase := .read pid pin source (state.shown .exe source) })
  | .read _ pin _ value, .pidfdSendSignal fails =>
    if fails then some (state.leave pin (.returned none))
    else
      match state.pidfds.content? pin with
      | none => none
      | some process =>
        if state.reaped process then none else some (state.leave pin (.returned (some value)))
  | .pinned _ _ pin, .throws => some (state.leave pin .thrown)
  | .opened _ pin _, .throws => some (state.leave pin .thrown)
  | .read _ pin _ _, .throws => some (state.leave pin .thrown)
  | _, _ => none

/-- One step. A number is given away only while nobody owns it, and a process is reaped
only after it exited. -/
def step (state : PinState) : PinEvent → Option PinState
  | .fork pid =>
    if (state.owner pid).isSome then none
    else some { state with
      owner := Function.update state.owner pid (some state.created)
      created := state.created + 1 }
  | .exit pid => (state.owner pid).map (fun process => { state with
      exited := Function.update state.exited process true })
  | .reap pid =>
    match state.owner pid with
    | none => none
    | some process =>
      if state.exited process then some { state with
        owner := Function.update state.owner pid none
        reaped := Function.update state.reaped process true }
      else none
  | .show file process text => some { state with
      shown := Function.update state.shown file
        (Function.update (state.shown file) process text) }
  | event => state.reader state.phase event

/-! ## What the kernel's steps leave alone -/

/-- A step beside the reader: it stays where it is, and a process that owns a number
keeps it unless it was reaped. -/
structure Beside (state next : PinState) : Prop where
  phase : next.phase = state.phase
  pidfds : next.pidfds = state.pidfds
  unreaped : ∀ process, next.reaped process = false → state.reaped process = false
  owned : ∀ pid process, next.reaped process = false → state.owner pid = some process →
    next.owner pid = some process

/-- A step is one beside the reader or one of the reader. -/
theorem step_cases (state next : PinState) (event : PinEvent)
    (stepped : state.step event = some next) :
    state.Beside next ∧ event.asks = none ∨ state.reader state.phase event = some next := by
  unfold step at stepped
  split at stepped
  case h_1 pid =>
    split_ifs at stepped with owned
    cases stepped
    refine Or.inl ⟨⟨rfl, rfl, fun _ unreaped => unreaped, fun other process _ kept => ?_⟩, rfl⟩
    have elsewhere : other ≠ pid := by
      rintro rfl
      simp [kept] at owned
    simp [Function.update_of_ne elsewhere, kept]
  case h_2 pid =>
    obtain ⟨process, -, rfl⟩ := Option.map_eq_some_iff.mp stepped
    exact Or.inl ⟨⟨rfl, rfl, fun _ unreaped => unreaped, fun _ _ _ kept => kept⟩, rfl⟩
  case h_3 pid =>
    cases owned : state.owner pid with
    | none => simp [owned] at stepped
    | some gone =>
      simp only [owned] at stepped
      split_ifs at stepped
      cases stepped
      refine Or.inl
        ⟨⟨rfl, rfl, fun process unreaped => ?_, fun other process unreaped kept => ?_⟩, rfl⟩
      · by_cases same : process = gone
        · simp [same] at unreaped
        · simpa [Function.update_of_ne same] using unreaped
      · have elsewhere : other ≠ pid := by
          rintro rfl
          rw [owned] at kept
          cases kept
          simp at unreaped
        simpa [Function.update_of_ne elsewhere] using kept
  case h_4 file process text =>
    cases stepped
    exact Or.inl ⟨⟨rfl, rfl, fun _ unreaped => unreaped, fun _ _ _ kept => kept⟩, rfl⟩
  case h_5 => exact Or.inr stepped

/-! ## The invariant of a read -/

/-- The past of a state. -/
abbrev Past := List (PinState × PinEvent)

/-- The numbers that reads were called with. -/
def asked (past : Past) : List Int := past.filterMap (fun seen => seen.2.asks)

/-- The descriptor was opened while this process owned the number. -/
def PinnedAt (past : Past) (pid : Int) (process : Process) : Prop :=
  ∃ seen ∈ past, seen.2 = .pidfdOpen false ∧ (∃ file, seen.1.phase = .called file pid) ∧
    seen.1.owner pid = some process

/-- The value was read from a file of this process. -/
def ReadFrom (past : Past) (pid : Int) (process : Process) (value : List Char) : Prop :=
  ∃ seen ∈ past, ∃ pin,
    (∃ count, seen.2 = .readStat count ∧ seen.1.phase = .opened pid pin process ∧
      value = (seen.1.shown .stat process).take count) ∨
    (seen.2 = .readSymlink false ∧ seen.1.phase = .pinned .exe pid pin ∧
      seen.1.owner pid = some process ∧ value = seen.1.shown .exe process)

/-- The descriptor is one of this process, which was its number's owner when it was
opened and still is unless it was reaped. -/
structure Pins (past : Past) (state : PinState) (pid : Int) (pin : Nat) (process : Process) :
    Prop where
  pinned : state.pidfds.content? pin = some process
  owned : state.reaped process = false → state.owner pid = some process
  past : PinnedAt past pid process

/-- What holds by where the read stands. -/
def PhaseSound (past : Past) (state : PinState) : PinPhase → Prop
  | .pinned _ pid pin => ∃ process, Pins past state pid pin process
  | .opened pid pin source =>
    ∃ process, Pins past state pid pin process ∧ (state.reaped process = false → source = process)
  | .read pid pin source value =>
    ∃ process, Pins past state pid pin process ∧ (state.reaped process = false → source = process) ∧
      ReadFrom past pid source value
  | .returned (some value) =>
    ∃ pid process, asked past = [pid] ∧ PinnedAt past pid process ∧
      ReadFrom past pid process value
  | _ => True

/-- The read was called once, with its number. -/
def AskedOnce (past : Past) : PinPhase → Prop
  | .idle => asked past = []
  | .called _ pid => asked past = [pid]
  | .pinned _ pid _ => asked past = [pid]
  | .opened pid _ _ => asked past = [pid]
  | .read pid _ _ _ => asked past = [pid]
  | _ => True

/-- The descriptor that the read holds. -/
def held : PinPhase → List Nat
  | .pinned _ _ pin => [pin]
  | .opened _ pin _ => [pin]
  | .read _ pin _ _ => [pin]
  | _ => []

/-- The invariant: what the phase says, the number it stands for, and no descriptor but its own
is open. -/
structure Sound (past : Past) (state : PinState) : Prop where
  phase : PhaseSound past state state.phase
  once : AskedOnce past state.phase
  conserved : state.pidfds.Conserved (held state.phase)

variable {past : Past} {state next : PinState}

/-- Only a call asks. -/
theorem asked_quiet (past : Past) (state : PinState) (event : PinEvent)
    (quiet : event.asks = none) : asked (past ++ [(state, event)]) = asked past := by
  simp [asked, quiet]

/-- What the past holds, a longer past holds. -/
theorem PinnedAt.later {pid : Int} {process : Process} (pinned : PinnedAt past pid process)
    (more : Past) : PinnedAt (past ++ more) pid process := by
  obtain ⟨seen, member, facts⟩ := pinned
  exact ⟨seen, List.mem_append_left more member, facts⟩

/-- What was read in the past was read in a longer past. -/
theorem ReadFrom.later {pid : Int} {process : Process} {value : List Char}
    (read : ReadFrom past pid process value) (more : Past) :
    ReadFrom (past ++ more) pid process value := by
  obtain ⟨seen, member, facts⟩ := read
  exact ⟨seen, List.mem_append_left more member, facts⟩

/-- A step that keeps the descriptors, and the number of a process that is not reaped,
keeps the pin. -/
theorem Pins.kept {pid : Int} {pin : Nat} {process : Process}
    (pins : Pins past state pid pin process) (more : Past) (beside : state.Beside next) :
    Pins (past ++ more) next pid pin process where
  pinned := by rw [beside.pidfds, pins.pinned]
  owned := fun unreaped =>
    beside.owned pid process unreaped (pins.owned (beside.unreaped process unreaped))
  past := pins.past.later more

/-- The kernel and the processes keep the invariant. -/
theorem sound_beside (event : PinEvent) (sound : Sound past state) (beside : state.Beside next)
    (quiet : event.asks = none) : Sound (past ++ [(state, event)]) next where
  phase := by
    have held := sound.phase
    rw [beside.phase]
    generalize state.phase = phase at held
    cases phase with
    | idle => trivial
    | called file pid => trivial
    | thrown => trivial
    | pinned file pid pin =>
      obtain ⟨process, pins⟩ := held
      exact ⟨process, pins.kept _ beside⟩
    | opened pid pin source =>
      obtain ⟨process, pins, same⟩ := held
      exact ⟨process, pins.kept _ beside, fun unreaped => same (beside.unreaped _ unreaped)⟩
    | read pid pin source value =>
      obtain ⟨process, pins, same, read⟩ := held
      exact ⟨process, pins.kept _ beside, fun unreaped => same (beside.unreaped _ unreaped),
        read.later _⟩
    | returned value =>
      cases value with
      | none => trivial
      | some value =>
        obtain ⟨pid, process, once, pinned, read⟩ := held
        exact ⟨pid, process, (asked_quiet past state event quiet).trans once, pinned.later _,
          read.later _⟩
  once := by
    have once := sound.once
    rw [beside.phase]
    generalize state.phase = phase at once
    cases phase <;> simp_all [AskedOnce, asked_quiet]
  conserved := by
    rw [beside.phase, beside.pidfds]
    exact sound.conserved

/-- A read that ends closes the descriptor that it holds. -/
theorem conserved_leave (pin : Nat) (phase : PinPhase) (conserved : state.pidfds.Conserved [pin]) :
    (state.leave pin phase).pidfds.Conserved [] :=
  Table.conserved_close [pin] (by simpa using conserved)

/-- A reader that moves on with its descriptor keeps the pin. -/
theorem Pins.moved {pid : Int} {pin : Nat} {process : Process}
    (pins : Pins past state pid pin process) (more : Past) (phase : PinPhase) :
    Pins (past ++ more) { state with phase } pid pin process :=
  ⟨pins.pinned, pins.owned, pins.past.later more⟩

/-- The process whose file is opened is the pinned one, unless that was reaped. -/
theorem Pins.source {pid : Int} {pin : Nat} {process source : Process}
    (pins : Pins past state pid pin process) (opened : state.owner pid = some source)
    (unreaped : state.reaped process = false) : source = process := by
  rw [pins.owned unreaped] at opened
  exact (Option.some.inj opened).symm

/-- The reader keeps the invariant.

Cases follow where it stands. A file opened by number belongs to the pinned process, unless that
was reaped, and then the probe fails. -/
theorem sound_reader (event : PinEvent) (sound : Sound past state)
    (stepped : state.reader state.phase event = some next) :
    Sound (past ++ [(state, event)]) next := by
  obtain ⟨held, once, conserved⟩ := sound
  have here : (state, event) ∈ past ++ [(state, event)] := by simp
  have quiet := asked_quiet past state event
  generalize at_ : state.phase = phase at held once conserved stepped
  unfold reader at stepped
  split at stepped
  · -- The call itself; a number that is not positive is refused at once.
    next file pid =>
    have first : asked (past ++ [(state, .call file pid)]) = [pid] := by
      rw [asked, List.filterMap_append, show past.filterMap (fun seen => seen.2.asks) = [] from once]
      rfl
    cases stepped
    split_ifs
    · exact ⟨trivial, trivial, conserved⟩
    · exact ⟨trivial, first, conserved⟩
  · next file pid fails =>
    split_ifs at stepped with failed
    · cases stepped
      exact ⟨trivial, trivial, conserved⟩
    · obtain ⟨process, owned, rfl⟩ := Option.map_eq_some_iff.mp stepped
      have unfailing : fails = false := by simpa using failed
      subst unfailing
      refine ⟨?_, (quiet rfl).trans once, ?_⟩
      · refine ⟨process, ⟨?_, fun _ => owned, (state, _), here, rfl, ⟨file, at_⟩, owned⟩⟩
        simp [Table.create, Table.content?]
      · exact Table.conserved_create process conserved
  · cases stepped
    exact ⟨trivial, trivial, conserved⟩
  · next pid pin fails =>
    split_ifs at stepped with failed
    · cases stepped
      exact ⟨trivial, trivial, conserved_leave pin _ conserved⟩
    · obtain ⟨source, opened, rfl⟩ := Option.map_eq_some_iff.mp stepped
      obtain ⟨process, pins⟩ := held
      exact ⟨⟨process, pins.moved _ _, pins.source opened⟩, (quiet rfl).trans once, conserved⟩
  · next pid pin source count =>
    cases stepped
    obtain ⟨process, pins, same⟩ := held
    refine ⟨⟨process, pins.moved _ _, same, (state, _), here, pin, Or.inl ?_⟩,
      (quiet rfl).trans once, conserved⟩
    exact ⟨count, rfl, at_, rfl⟩
  · next pid pin fails =>
    split_ifs at stepped with failed
    · cases stepped
      exact ⟨trivial, trivial, conserved_leave pin _ conserved⟩
    · obtain ⟨source, opened, rfl⟩ := Option.map_eq_some_iff.mp stepped
      have unfailing : fails = false := by simpa using failed
      subst unfailing
      obtain ⟨process, pins⟩ := held
      refine ⟨⟨process, pins.moved _ _, pins.source opened, (state, _), here, pin, Or.inr ?_⟩,
        (quiet rfl).trans once, conserved⟩
      exact ⟨rfl, at_, opened, rfl⟩
  · next pid pin source value fails =>
    split_ifs at stepped with failed
    · cases stepped
      exact ⟨trivial, trivial, conserved_leave pin _ conserved⟩
    · obtain ⟨process, pins, same, read⟩ := held
      simp only [pins.pinned] at stepped
      split_ifs at stepped with reaped
      cases stepped
      have unreaped : state.reaped process = false := by simpa using reaped
      rw [same unreaped] at read
      exact ⟨⟨pid, process, (quiet rfl).trans once, pins.past.later _, read.later _⟩, trivial,
        conserved_leave pin _ conserved⟩
  · next file pid pin =>
    cases stepped
    exact ⟨trivial, trivial, conserved_leave pin _ conserved⟩
  · next pid pin source =>
    cases stepped
    exact ⟨trivial, trivial, conserved_leave pin _ conserved⟩
  · next pid pin source value =>
    cases stepped
    exact ⟨trivial, trivial, conserved_leave pin _ conserved⟩
  · cases stepped

/-- Whatever the processes and the kernel do between its steps, a value that a pinned
read returns was read from a file of the process that owned the number that the read was
called with when the descriptor was opened. However the read ends, the descriptor is
closed.

Proof: the invariant `Sound` says of each phase which process the descriptor pins. A process
that is not reaped keeps its number, so the file was its own if the probe still finds it. -/
theorem pinned_reads (events : List PinEvent) (state : PinState)
    (reached : run step {} events = some state) :
    (∀ value, state.phase = .returned (some value) → ∃ pid process,
      asked (trace step {} events) = [pid] ∧ PinnedAt (trace step {} events) pid process ∧
        ReadFrom (trace step {} events) pid process value) ∧
    ((state.phase = .thrown ∨ ∃ result, state.phase = .returned result) →
      state.pidfds.Conserved []) := by
  have sound : Sound (trace step {} events) state := by
    refine trace_invariant step Sound ?_ events {} state ⟨trivial, rfl, Table.conserved_empty⟩
      reached
    intro past state event next sound stepped
    rcases step_cases state next event stepped with ⟨beside, quiet⟩ | moved
    · exact sound_beside event sound beside quiet
    · exact sound_reader event sound moved
  obtain ⟨held, -, conserved⟩ := sound
  constructor
  · intro value returned
    rw [returned] at held
    exact held
  · rintro (thrown | ⟨result, returned⟩)
    · rw [thrown] at conserved
      exact conserved
    · rw [returned] at conserved
      exact conserved

/-- A process that exits after its file was read is still pinned by the probe; its
number goes to another one later. -/
def exitedMeanwhile : List PinEvent :=
  [.fork 7, .show .stat 0 "7 (cat) R".toList, .call .stat 7, .pidfdOpen false, .openStat false,
    .readStat 9, .exit 7, .pidfdSendSignal false, .reap 7, .fork 7]

/-- Its read returns what its file showed. -/
theorem exited_meanwhile_read :
    ∃ state, run step {} exitedMeanwhile = some state ∧
      state.phase = .returned (some "7 (cat) R".toList) ∧
      (∃ pid process, asked (trace step {} exitedMeanwhile) = [pid] ∧
        PinnedAt (trace step {} exitedMeanwhile) pid process ∧
          ReadFrom (trace step {} exitedMeanwhile) pid process "7 (cat) R".toList) ∧
      state.pidfds.Conserved [] := by
  refine ⟨_, rfl, rfl, ?_, ?_⟩
  · exact (pinned_reads exitedMeanwhile _ rfl).1 _ rfl
  · exact (pinned_reads exitedMeanwhile _ rfl).2 (Or.inr ⟨_, rfl⟩)

end PinState

end LibreLinux.Common
