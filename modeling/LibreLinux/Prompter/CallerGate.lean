import LibreLinux.Common.ProcPidPin
import LibreLinux.Prompter.Provenance

/-!
# The prompter serves the agent only

Every bus call that could raise or dismiss a window first asks who is calling. The
bus names the number of the caller's process; the process that owns the number is
pinned, the path of its binary is read from the kernel and compared with the path
of the agent. Processes come and go all the while, numbers are given to other
processes, the file system changes, and windows that stand already go on.

One bus call is handled at a time. The windows live on another thread.
-/

namespace LibreLinux.Prompter

open Common Runs Wire

/-- The elements of a path, which decide whether two paths are equal: its root, its
names, and an empty name after a trailing separator. -/
def pathElements (native : List Char) : List (List Char) :=
  let names := (native.splitOn '/').filter (fun name => name ≠ [])
  (if native.head? = some '/' then [['/']] else []) ++ names ++
    (if names ≠ [] ∧ native.getLast? = some '/' then [[]] else [])

/-- The calls of the prompter's interface. -/
inductive BusCall where
  | requestSecret (kind : String) (options : Dict)
  | requestSecrets (kind : String) (options : Dict)
  | cancel (promptId : String)
  | reset

/-- The call as the service handles it once the caller is known; zero is an
unauthorised one. -/
def BusCall.event (call : BusCall) (callerPid : Pid) (delivery : Delivery) (now : Nat)
    (memfds : Memfds) : Service.Event :=
  match call with
  | .requestSecret kind options => .requestSecret callerPid kind options delivery now memfds
  | .requestSecrets kind options => .requestSecrets callerPid kind options delivery now memfds
  | .cancel promptId => .cancel promptId callerPid delivery now memfds
  | .reset => .reset callerPid delivery now memfds

/-- The window that a call asks for. -/
def BusCall.Asks (call : BusCall) (request : RaiseRequest) : Prop :=
  match call with
  | .requestSecret kind options => ∃ parsed, parseKind kind = some parsed ∧
      request = raiseRequest request.request request.ownerPid parsed options
  | .requestSecrets kind options => kind = kKindChangePin ∧
      request = raiseChangePinRequest request.request request.ownerPid options
  | .cancel _ => False
  | .reset => False

/-- The caller of a call. The other events come from the windows. -/
def callerOf : Service.Event → Option Pid
  | .requestSecret callerPid _ _ _ _ _ => some callerPid
  | .requestSecrets callerPid _ _ _ _ _ => some callerPid
  | .cancel _ callerPid _ _ _ => some callerPid
  | .reset callerPid _ _ _ => some callerPid
  | _ => none

/-- The path behind a process, with every further link resolved as far as the file
system allows. -/
def resolvePidExePath {φ : Type} (weaklyCanonical : φ → List Char → Option (List Char)) (files : φ)
    (target : Option (List Char)) : Option (List Char) :=
  target.map (fun target => (weaklyCanonical files target).getD target)

/-- The path is the agent's, or that of an agent whose binary was replaced while it runs. -/
def isAuthorizedCaller {φ : Type} (weaklyCanonical : φ → List Char → Option (List Char))
    (callerFiles expectedFiles : φ) (target : Option (List Char)) (expectedPeer : List Char) :
    Bool :=
  match resolvePidExePath weaklyCanonical callerFiles target with
  | none => false
  | some callerExe =>
    let expectedCanonical := (weaklyCanonical expectedFiles expectedPeer).getD expectedPeer
    decide (pathElements callerExe = pathElements expectedCanonical) ||
      decide (callerExe = expectedCanonical ++ " (deleted)".toList)

/-- The processes, the service, and the call whose sender is being looked at. -/
structure CallerGate where
  kernel : PinState := {}
  service : Service := {}
  checking : Option (BusCall × Pid) := none

/-- A step of a process or the kernel, the arrival of a call with the number that the bus
has for its sender, the verdict on it, a check that throws, or a step of a window. The
verdict resolves two paths, each in the file system of that moment. -/
inductive GateEvent (φ : Type) where
  | process (event : PinEvent)
  | arrive (call : BusCall) (credsPid : Option Pid) (delivery : Delivery) (now : Nat)
      (memfds : Memfds)
  | decide (callerFiles expectedFiles : φ) (delivery : Delivery) (now : Nat) (memfds : Memfds)
  | thrown
  | gui (event : Service.Event)

/-- A call arrives. -/
def GateEvent.arrives {φ : Type} : GateEvent φ → Bool
  | .arrive _ _ _ _ _ => true
  | _ => false

namespace CallerGate

variable {φ : Type} (weaklyCanonical : φ → List Char → Option (List Char))
variable (expectedPeer : List Char)

/-- The call whose sender was looked at, with the number that `authorizeCaller` returns. -/
def authorizeCaller (gate : CallerGate) (callerFiles expectedFiles : φ) : Option (BusCall × Pid) :=
  match gate.checking, gate.kernel.phase with
  | some (call, pid), .returned target =>
    if isAuthorizedCaller weaklyCanonical callerFiles expectedFiles target expectedPeer
    then some (call, pid) else some (call, 0)
  | _, _ => none

/-- What the service is told by a step. -/
def serviceEvent (gate : CallerGate) : GateEvent φ → Option Service.Event
  | .arrive call none delivery now memfds => some (call.event 0 delivery now memfds)
  | .decide callerFiles expectedFiles delivery now memfds =>
    (gate.authorizeCaller weaklyCanonical expectedPeer callerFiles expectedFiles).map
      (fun (call, callerPid) => call.event callerPid delivery now memfds)
  | .gui event => some event
  | _ => none

/-- What the kernel is told by a step. -/
def kernelEvent : GateEvent φ → Option PinEvent
  | .process event => some event
  | .arrive _ (some pid) _ _ _ => some (.call .exe pid)
  | _ => none

/-- The transition function. A call waits until the one before it is decided. -/
def step (gate : CallerGate) (event : GateEvent φ) : Option CallerGate :=
  match event with
  | .process (.call _ _) => none
  | .process event => (gate.kernel.step event).map (fun kernel => { gate with kernel })
  | .arrive call credsPid delivery now memfds =>
    if gate.checking.isSome then none
    else
      match credsPid with
      | none => (gate.service.step (call.event 0 delivery now memfds)).map
          (fun service => { gate with service })
      | some pid => (gate.kernel.step (.call .exe pid)).map
          (fun kernel => { gate with kernel, checking := some (call, pid) })
  | .decide callerFiles expectedFiles delivery now memfds =>
    (gate.authorizeCaller weaklyCanonical expectedPeer callerFiles expectedFiles).bind
      (fun (call, callerPid) => (gate.service.step (call.event callerPid delivery now memfds)).map
        (fun service => { kernel := { gate.kernel with phase := .idle }, service, checking := none }))
  | .thrown =>
    match gate.checking, gate.kernel.phase with
    | some _, .thrown =>
      some { gate with kernel := { gate.kernel with phase := .idle }, checking := none }
    | _, _ => none
  | .gui event =>
    if (callerOf event).isSome then none
    else (gate.service.step event).map (fun service => { gate with service })

/-- What the service did in a past of the gate. -/
def servicePast (past : List (CallerGate × GateEvent φ)) : Service.Past :=
  past.filterMap (fun (gate, event) =>
    (gate.serviceEvent weaklyCanonical expectedPeer event).map (fun told => (gate.service, told)))

/-- What the processes and the reader did in it. -/
def kernelPast (past : List (CallerGate × GateEvent φ)) : PinState.Past :=
  past.filterMap (fun (gate, event) => (kernelEvent event).map (fun told => (gate.kernel, told)))

/-- The process owned the number when its descriptor was opened and when its link was read,
and the link showed this path. -/
def Showed (past : PinState.Past) (pid : Pid) (process : Process) (path : List Char) : Prop :=
  PinState.PinnedAt past pid process ∧
    ∃ seen ∈ past, seen.2 = .readSymlink false ∧ seen.1.owner pid = some process ∧
      seen.1.shown .exe process = path

/-- The steps up to a verdict end with a check of the number: the call arrived, no other did
since, and meanwhile the process that owned the number showed the path of the agent. -/
def Checked (earlier : List (CallerGate × GateEvent φ)) (call : BusCall) (pid : Pid)
    (callerFiles expectedFiles : φ) : Prop :=
  ∃ before gate delivery now memfds rest process path,
    earlier = before ++ (gate, .arrive call (some pid) delivery now memfds) :: rest ∧
      (∀ seen ∈ rest, seen.2.arrives = false) ∧
      Showed (kernelPast ((gate, .arrive call (some pid) delivery now memfds) :: rest)) pid process
        path ∧
      isAuthorizedCaller weaklyCanonical callerFiles expectedFiles (some path) expectedPeer = true

/-- What a step tells the service for a caller is the verdict on a call that was checked for it. -/
def Vouched (earlier : List (CallerGate × GateEvent φ)) (gate : CallerGate) (event : GateEvent φ) :
    Prop :=
  ∀ told pid, gate.serviceEvent weaklyCanonical expectedPeer event = some told →
    callerOf told = some pid → pid ≠ 0 →
    ∃ call callerFiles expectedFiles delivery now memfds,
      event = .decide callerFiles expectedFiles delivery now memfds ∧
        told = call.event pid delivery now memfds ∧
        Checked weaklyCanonical expectedPeer earlier call pid callerFiles expectedFiles

/-- The window of a request was asked for by a call that was checked for its caller, at the verdict
on that call. -/
def AskedFor (past : List (CallerGate × GateEvent φ)) (request : RaiseRequest) : Prop :=
  ∃ earlier gate callerFiles expectedFiles delivery now memfds later call,
    past = earlier ++ (gate, .decide callerFiles expectedFiles delivery now memfds) :: later ∧
      gate.service.nextRequest = request.request ∧ BusCall.Asks call request ∧
      Checked weaklyCanonical expectedPeer earlier call request.ownerPid callerFiles expectedFiles

/-- The reader is at the link of this number. -/
def AtLink (pid : Pid) : PinPhase → Prop
  | .called file number => file = .exe ∧ number = pid
  | .pinned file number _ => file = .exe ∧ number = pid
  | .opened _ _ _ => False
  | .read number _ _ _ => number = pid
  | _ => True

/-- The reader stays at the link of its number. -/
theorem at_link_step {pid : Pid} {kernel next : PinState} (event : PinEvent)
    (reading : ∀ file number, event ≠ .call file number) (link : AtLink pid kernel.phase)
    (stepped : kernel.step event = some next) : AtLink pid next.phase := by
  rcases PinState.step_cases kernel next event stepped with ⟨beside, -⟩ | moved
  · exact beside.phase ▸ link
  · generalize kernel.phase = phase at link moved
    unfold PinState.reader at moved
    split at moved
    · exact absurd rfl (reading _ _)
    · split_ifs at moved
      · cases moved
        trivial
      · obtain ⟨_, _, rfl⟩ := Option.map_eq_some_iff.mp moved
        exact link
    · cases moved
      trivial
    · exact absurd link.1 (by simp)
    · exact link.elim
    · split_ifs at moved
      · cases moved
        trivial
      · obtain ⟨_, _, rfl⟩ := Option.map_eq_some_iff.mp moved
        exact link.2
    · split_ifs at moved
      · cases moved
        trivial
      · split at moved
        · cases moved
        · split_ifs at moved
          cases moved
          trivial
    · cases moved
      trivial
    · cases moved
      trivial
    · cases moved
      trivial
    · cases moved

/-- What a read of that link returns was shown by the owner of the number. -/
theorem showed_of_returned {past : PinState.Past} {pid : Pid} {kernel : PinState} {path : List Char}
    (sound : PinState.Sound past kernel) (links : ∀ seen ∈ past, AtLink pid seen.1.phase)
    (returned : kernel.phase = .returned (some path)) : ∃ process, Showed past pid process path := by
  have held := sound.phase
  rw [returned] at held
  obtain ⟨number, process, -, pinned, seen, member, pin, stat | link⟩ := held
  · obtain ⟨_, _, opened, _⟩ := stat
    have impossible := links seen member
    rw [opened] at impossible
    exact impossible.elim
  · obtain ⟨symlink, phase, owned, rfl⟩ := link
    have same := links seen member
    rw [phase] at same
    obtain ⟨_, rfl⟩ := same
    exact ⟨process, pinned, seen, member, symlink, owned, rfl⟩

variable {weaklyCanonical expectedPeer}

/-- A check in progress: its steps since the call arrived, and the reader at the link of the
caller. -/
structure InProgress (past : List (CallerGate × GateEvent φ)) (gate : CallerGate) (call : BusCall)
    (pid : Pid) (recent : List (CallerGate × GateEvent φ)) : Prop where
  latest : ∃ before, past = before ++ recent
  arrived : ∃ before delivery now memfds rest,
    recent = (before, .arrive call (some pid) delivery now memfds) :: rest ∧
      ∀ seen ∈ rest, seen.2.arrives = false
  sound : PinState.Sound (kernelPast recent) gate.kernel
  link : AtLink pid gate.kernel.phase
  links : ∀ seen ∈ kernelPast recent, AtLink pid seen.1.phase

/-- The invariant: between calls the reader is idle and holds nothing, and whatever the
service was told for a caller was checked. -/
structure Guarded (weaklyCanonical : φ → List Char → Option (List Char)) (expectedPeer : List Char)
    (past : List (CallerGate × GateEvent φ)) (gate : CallerGate) : Prop where
  idle : gate.checking = none → gate.kernel.phase = .idle ∧ gate.kernel.pidfds.Conserved []
  checking : ∀ call pid, gate.checking = some (call, pid) →
    ∃ recent, InProgress past gate call pid recent
  traced : Service.Traced (servicePast weaklyCanonical expectedPeer past) gate.service
  calls : EachStep (Vouched weaklyCanonical expectedPeer) past

variable {past : List (CallerGate × GateEvent φ)} {gate next : CallerGate}

/-- The past of the service grows by what it is told. -/
theorem service_past_concat (event : GateEvent φ) :
    servicePast weaklyCanonical expectedPeer (past ++ [(gate, event)]) =
      servicePast weaklyCanonical expectedPeer past ++
        ((gate.serviceEvent weaklyCanonical expectedPeer event).map
          (fun told => (gate.service, told))).toList := by
  rw [servicePast, List.filterMap_append]
  cases told : gate.serviceEvent weaklyCanonical expectedPeer event <;> simp [servicePast, told]

/-- The past of the kernel grows by what it is told. -/
theorem kernel_past_concat (event : GateEvent φ) :
    kernelPast (past ++ [(gate, event)]) =
      kernelPast past ++ ((kernelEvent event).map (fun told => (gate.kernel, told))).toList := by
  rw [kernelPast, List.filterMap_append]
  cases told : kernelEvent event <;> simp [kernelPast, told]

/-- The caller of a call is the one that it was authorised as. -/
@[simp] theorem caller_of_event (call : BusCall) (pid : Pid) (delivery : Delivery) (now : Nat)
    (memfds : Memfds) : callerOf (call.event pid delivery now memfds) = some pid := by
  cases call <;> rfl

/-- The service keeps its part of the invariant if what it is told for a caller was checked. -/
theorem guarded_service (event : GateEvent φ)
    (guarded : Guarded weaklyCanonical expectedPeer past gate)
    (idle : next.checking = none → next.kernel.phase = .idle ∧ next.kernel.pidfds.Conserved [])
    (checking : ∀ call pid, next.checking = some (call, pid) →
      ∃ recent, InProgress (past ++ [(gate, event)]) next call pid recent)
    (silent : gate.serviceEvent weaklyCanonical expectedPeer event = none →
      next.service = gate.service)
    (moved : ∀ told, gate.serviceEvent weaklyCanonical expectedPeer event = some told →
      gate.service.step told = some next.service)
    (vouched : Vouched weaklyCanonical expectedPeer past gate event) :
    Guarded weaklyCanonical expectedPeer (past ++ [(gate, event)]) next := by
  refine ⟨idle, checking, ?_, each_step_snoc _ past gate event guarded.calls vouched⟩
  cases told : gate.serviceEvent weaklyCanonical expectedPeer event with
  | none =>
    have grown : servicePast weaklyCanonical expectedPeer (past ++ [(gate, event)]) =
        servicePast weaklyCanonical expectedPeer past := by
      simp [service_past_concat, told]
    rw [grown, silent told]
    exact guarded.traced
  | some other =>
    have grown : servicePast weaklyCanonical expectedPeer (past ++ [(gate, event)]) =
        servicePast weaklyCanonical expectedPeer past ++ [(gate.service, other)] := by
      simp [service_past_concat, told]
    rw [grown]
    exact Service.traced_step _ gate.service other next.service guarded.traced (moved other told)

/-- A check goes on with a step that is no arrival. -/
theorem in_progress_later (event : GateEvent φ) (call : BusCall) (pid : Pid)
    (recent : List (CallerGate × GateEvent φ)) (other : event.arrives = false)
    (progress : InProgress past gate call pid recent) :
    (∃ before, past ++ [(gate, event)] = before ++ (recent ++ [(gate, event)])) ∧
      ∃ before delivery now memfds rest,
        recent ++ [(gate, event)] = (before, .arrive call (some pid) delivery now memfds) :: rest ∧
          ∀ seen ∈ rest, seen.2.arrives = false := by
  obtain ⟨earlier, split⟩ := progress.latest
  obtain ⟨before, delivery, now, memfds, rest, begun, alone⟩ := progress.arrived
  refine ⟨⟨earlier, by simp [split]⟩, before, delivery, now, memfds, rest ++ [(gate, event)],
    by simp [begun], ?_⟩
  intro seen member
  rcases List.mem_append.mp member with old | new
  · exact alone seen old
  · cases List.mem_singleton.mp new
    exact other

/-- A check goes on beside a step that the kernel is not told of. -/
theorem in_progress_beside (event : GateEvent φ) (call : BusCall) (pid : Pid)
    (recent : List (CallerGate × GateEvent φ)) (quiet : kernelEvent event = none)
    (other : event.arrives = false) (same : next.kernel = gate.kernel)
    (progress : InProgress past gate call pid recent) :
    InProgress (past ++ [(gate, event)]) next call pid (recent ++ [(gate, event)]) := by
  have grown : kernelPast (recent ++ [(gate, event)]) = kernelPast recent := by
    simp [kernel_past_concat, quiet]
  obtain ⟨latest, arrived⟩ := in_progress_later event call pid recent other progress
  refine ⟨latest, arrived, ?_, same ▸ progress.link, ?_⟩
  · rw [grown, same]
    exact progress.sound
  · rw [grown]
    exact progress.links

/-- A check goes on with a step of a process, the kernel or the reader. -/
theorem in_progress_process (event : PinEvent) (call : BusCall) (pid : Pid)
    (recent : List (CallerGate × GateEvent φ)) (kernel : PinState)
    (reading : ∀ file number, event ≠ .call file number)
    (stepped : gate.kernel.step event = some kernel)
    (progress : InProgress past gate call pid recent) :
    InProgress (past ++ [(gate, .process event)]) { gate with kernel } call pid
      (recent ++ [(gate, .process event)]) := by
  have grown : kernelPast (recent ++ [(gate, .process event)]) =
      kernelPast recent ++ [(gate.kernel, event)] := by
    simp [kernel_past_concat, kernelEvent]
  obtain ⟨latest, arrived⟩ := in_progress_later (.process event) call pid recent rfl progress
  refine ⟨latest, arrived, ?_, at_link_step event reading progress.link stepped, ?_⟩
  · rw [grown]
    rcases PinState.step_cases gate.kernel kernel event stepped with ⟨beside, quiet⟩ | moved
    · exact PinState.sound_beside event progress.sound beside quiet
    · exact PinState.sound_reader event progress.sound moved
  · rw [grown]
    intro seen member
    rcases List.mem_append.mp member with old | new
    · exact progress.links seen old
    · cases List.mem_singleton.mp new
      exact progress.link

/-- A verdict for a caller rests on what its process showed since its call arrived. -/
theorem checked_of_verdict (callerFiles expectedFiles : φ) (call : BusCall) (pid : Pid)
    (guarded : Guarded weaklyCanonical expectedPeer past gate)
    (verdict : gate.authorizeCaller weaklyCanonical expectedPeer callerFiles expectedFiles =
      some (call, pid)) (authorized : pid ≠ 0) :
    Checked weaklyCanonical expectedPeer past call pid callerFiles expectedFiles := by
  unfold authorizeCaller at verdict
  split at verdict
  · rename_i asked number target busy returned
    split_ifs at verdict with agent
    · cases verdict
      obtain ⟨recent, progress⟩ := guarded.checking call pid busy
      obtain ⟨earlier, split⟩ := progress.latest
      obtain ⟨before, delivery, now, memfds, rest, begun, alone⟩ := progress.arrived
      cases target with
      | none => simp [isAuthorizedCaller, resolvePidExePath] at agent
      | some path =>
        obtain ⟨process, showed⟩ := showed_of_returned progress.sound progress.links returned
        exact ⟨earlier, before, delivery, now, memfds, rest, process, path, begun ▸ split, alone,
          begun ▸ showed, agent⟩
    · cases verdict
      exact absurd rfl authorized
  · cases verdict

/-- A step that tells the service nothing, or nothing for a caller, has nothing to vouch for. -/
theorem vouched_nobody (event : GateEvent φ)
    (nobody : ∀ told, gate.serviceEvent weaklyCanonical expectedPeer event = some told →
      ∀ pid, callerOf told = some pid → pid = 0) :
    Vouched weaklyCanonical expectedPeer past gate event :=
  fun told pid tells caller authorized => absurd (nobody told tells pid caller) authorized

/-- Without a call the reader does not move. -/
theorem idle_process {kernel later : PinState} (event : PinEvent)
    (reading : ∀ file number, event ≠ .call file number) (idle : kernel.phase = .idle)
    (stepped : kernel.step event = some later) :
    later.phase = .idle ∧ later.pidfds = kernel.pidfds := by
  rcases PinState.step_cases kernel later event stepped with ⟨beside, -⟩ | moved
  · exact ⟨beside.phase.trans idle, beside.pidfds⟩
  · rw [idle] at moved
    cases event with
    | call file number => exact absurd rfl (reading file number)
    | _ => cases moved

/-- A process, the kernel or the reader takes a step. -/
theorem guarded_process (event : PinEvent) (kernel : PinState)
    (reading : ∀ file number, event ≠ .call file number)
    (stepped : gate.kernel.step event = some kernel)
    (guarded : Guarded weaklyCanonical expectedPeer past gate) :
    Guarded weaklyCanonical expectedPeer (past ++ [(gate, .process event)]) { gate with kernel } := by
  refine guarded_service (.process event) guarded ?_ ?_ (fun _ => rfl) (by simp [serviceEvent])
    (vouched_nobody _ (by simp [serviceEvent]))
  · intro free
    obtain ⟨phase, conserved⟩ := guarded.idle free
    obtain ⟨still, same⟩ := idle_process event reading phase stepped
    exact ⟨still, same ▸ conserved⟩
  · intro call pid busy
    obtain ⟨recent, progress⟩ := guarded.checking call pid busy
    exact ⟨_, in_progress_process event call pid recent kernel reading stepped progress⟩

/-- A call arrives with a number, and the reader is sent to its link. -/
theorem guarded_arrive (call : BusCall) (pid : Pid) (delivery : Delivery) (now : Nat)
    (memfds : Memfds) (kernel : PinState) (free : gate.checking = none)
    (stepped : gate.kernel.step (.call .exe pid) = some kernel)
    (guarded : Guarded weaklyCanonical expectedPeer past gate) :
    Guarded weaklyCanonical expectedPeer
      (past ++ [(gate, .arrive call (some pid) delivery now memfds)])
      { gate with kernel, checking := some (call, pid) } := by
  refine guarded_service (.arrive call (some pid) delivery now memfds) guarded (by simp) ?_
    (fun _ => rfl) (by simp [serviceEvent]) (vouched_nobody _ (by simp [serviceEvent]))
  intro asked number busy
  cases busy
  obtain ⟨phase, conserved⟩ := guarded.idle free
  have sound : PinState.Sound [] gate.kernel :=
    ⟨by rw [phase]; trivial, by rw [phase]; rfl, by rw [phase]; exact conserved⟩
  have called : kernel = { gate.kernel with
      phase := if pid ≤ 0 then .returned none else .called .exe pid } := by
    have moved : gate.kernel.reader gate.kernel.phase (.call .exe pid) = some kernel := stepped
    rw [phase] at moved
    exact (Option.some.inj moved).symm
  refine ⟨[(gate, .arrive call (some pid) delivery now memfds)], ⟨past, rfl⟩,
    ⟨gate, delivery, now, memfds, [], rfl, by simp⟩, ?_, ?_, ?_⟩
  · exact PinState.sound_reader (.call .exe pid) sound stepped
  · change AtLink pid kernel.phase
    rw [called]
    dsimp only
    split_ifs
    · trivial
    · exact ⟨rfl, rfl⟩
  · intro seen member
    cases List.mem_singleton.mp (show seen ∈ [(gate.kernel, .call .exe pid)] from member)
    rw [phase]
    trivial

/-- The verdict is passed to the service. -/
theorem guarded_decide (callerFiles expectedFiles : φ) (delivery : Delivery) (now : Nat)
    (memfds : Memfds) (call : BusCall) (pid : Pid) (service : Service)
    (verdict : gate.authorizeCaller weaklyCanonical expectedPeer callerFiles expectedFiles =
      some (call, pid))
    (stepped : gate.service.step (call.event pid delivery now memfds) = some service)
    (guarded : Guarded weaklyCanonical expectedPeer past gate) :
    Guarded weaklyCanonical expectedPeer
      (past ++ [(gate, .decide callerFiles expectedFiles delivery now memfds)])
      { kernel := { gate.kernel with phase := .idle }, service, checking := none } := by
  have told : gate.serviceEvent weaklyCanonical expectedPeer
      (.decide callerFiles expectedFiles delivery now memfds) =
        some (call.event pid delivery now memfds) := by
    simp [serviceEvent, verdict]
  refine guarded_service _ guarded (fun _ => ⟨rfl, ?_⟩) (by simp) ?_ ?_ ?_
  · -- The read has returned, so it holds no descriptor.
    unfold authorizeCaller at verdict
    split at verdict
    · rename_i asked number target busy returned
      obtain ⟨recent, progress⟩ := guarded.checking asked number busy
      have conserved := progress.sound.conserved
      rwa [returned] at conserved
    · cases verdict
  · rw [told]
    simp
  · rw [told]
    rintro other ⟨⟩
    exact stepped
  · intro other number tells caller authorized
    cases Option.some.inj (told.symm.trans tells)
    rw [caller_of_event, Option.some.injEq] at caller
    subst number
    exact ⟨call, callerFiles, expectedFiles, delivery, now, memfds, rfl, rfl,
      checked_of_verdict callerFiles expectedFiles call pid guarded verdict authorized⟩

/-- The service takes a step that is nobody's call. -/
theorem guarded_told (event : GateEvent φ) (told : Service.Event) (service : Service)
    (quiet : kernelEvent event = none)
    (arriving : event.arrives = true → gate.checking = none)
    (tells : gate.serviceEvent weaklyCanonical expectedPeer event = some told)
    (nobody : ∀ pid, callerOf told = some pid → pid = 0)
    (stepped : gate.service.step told = some service)
    (guarded : Guarded weaklyCanonical expectedPeer past gate) :
    Guarded weaklyCanonical expectedPeer (past ++ [(gate, event)]) { gate with service } := by
  refine guarded_service event guarded guarded.idle ?_ ?_ ?_ (vouched_nobody event ?_)
  · intro call pid busy
    obtain ⟨recent, progress⟩ := guarded.checking call pid busy
    have other : event.arrives = false := by
      by_contra arrives
      have free := arriving (Bool.not_eq_false _ ▸ arrives)
      exact absurd (free.symm.trans busy) (by simp)
    exact ⟨_, in_progress_beside event call pid recent quiet other rfl progress⟩
  · rw [tells]
    simp
  · rw [tells]
    rintro other ⟨⟩
    exact stepped
  · rw [tells]
    rintro other ⟨⟩
    exact nobody

/-- Every step keeps the invariant.

Cases follow the event. A process does not touch the check; an arrival starts one; a step of the
check pins the number of the caller or reads its link; the decision ends it. -/
theorem guarded_step (past : List (CallerGate × GateEvent φ)) (gate : CallerGate)
    (event : GateEvent φ) (next : CallerGate)
    (guarded : Guarded weaklyCanonical expectedPeer past gate)
    (stepped : step weaklyCanonical expectedPeer gate event = some next) :
    Guarded weaklyCanonical expectedPeer (past ++ [(gate, event)]) next := by
  cases event with
  | process event =>
    have reading : ∀ file number, event ≠ .call file number := by
      rintro file number rfl
      simp [step] at stepped
    have moved : (gate.kernel.step event).map (fun kernel => { gate with kernel }) = some next := by
      cases event with
      | call file number => exact absurd rfl (reading file number)
      | _ => exact stepped
    obtain ⟨kernel, performed, rfl⟩ := Option.map_eq_some_iff.mp moved
    exact guarded_process event kernel reading performed guarded
  | arrive call credsPid delivery now memfds =>
    simp only [step] at stepped
    split_ifs at stepped with busy
    have free : gate.checking = none := by simpa using busy
    cases credsPid with
    | none =>
      obtain ⟨service, performed, rfl⟩ := Option.map_eq_some_iff.mp stepped
      exact guarded_told _ _ service rfl (fun _ => free) rfl (by simp) performed guarded
    | some pid =>
      obtain ⟨kernel, performed, rfl⟩ := Option.map_eq_some_iff.mp stepped
      exact guarded_arrive call pid delivery now memfds kernel free performed guarded
  | decide callerFiles expectedFiles delivery now memfds =>
    obtain ⟨⟨call, pid⟩, verdict, passed⟩ := Option.bind_eq_some_iff.mp stepped
    obtain ⟨service, performed, rfl⟩ := Option.map_eq_some_iff.mp passed
    exact guarded_decide callerFiles expectedFiles delivery now memfds call pid service verdict
      performed guarded
  | thrown =>
    simp only [step] at stepped
    split at stepped
    · rename_i asked busy failed
      cases Option.some.inj stepped
      obtain ⟨recent, progress⟩ := guarded.checking asked.1 asked.2 busy
      have conserved := progress.sound.conserved
      rw [failed] at conserved
      exact guarded_service .thrown guarded (fun _ => ⟨rfl, conserved⟩) (by simp) (fun _ => rfl)
        (by simp [serviceEvent]) (vouched_nobody _ (by simp [serviceEvent]))
    · cases stepped
  | gui told =>
    simp only [step] at stepped
    split_ifs at stepped with called
    obtain ⟨service, performed, rfl⟩ := Option.map_eq_some_iff.mp stepped
    refine guarded_told _ told service rfl (by simp [GateEvent.arrives]) rfl
      (fun pid caller => ?_) performed guarded
    simp [caller] at called

/-- Nothing was asked at first. -/
theorem guarded_initial : Guarded weaklyCanonical expectedPeer [] {} where
  idle := fun _ => ⟨rfl, Descriptors.Table.conserved_empty⟩
  checking := by simp
  traced := Service.traced_initial
  calls := by simp [EachStep]

/-- What the service was told for a caller, it was told at the verdict on a checked call. -/
theorem told_checked (guarded : Guarded weaklyCanonical expectedPeer past gate) (service : Service)
    (told : Service.Event) (pid : Pid)
    (member : (service, told) ∈ servicePast weaklyCanonical expectedPeer past)
    (caller : callerOf told = some pid) (authorized : pid ≠ 0) :
    ∃ earlier before callerFiles expectedFiles delivery now memfds later call,
      past = earlier ++ (before, .decide callerFiles expectedFiles delivery now memfds) :: later ∧
        before.service = service ∧ told = call.event pid delivery now memfds ∧
        Checked weaklyCanonical expectedPeer earlier call pid callerFiles expectedFiles := by
  obtain ⟨⟨before, event⟩, seen, listed⟩ := List.mem_filterMap.mp member
  obtain ⟨earlier, later, split⟩ := List.append_of_mem seen
  obtain ⟨other, tells, same⟩ := Option.map_eq_some_iff.mp listed
  obtain ⟨rfl, rfl⟩ := Prod.mk.inj same
  obtain ⟨call, callerFiles, expectedFiles, delivery, now, memfds, rfl, named, checked⟩ :=
    guarded.calls earlier before event later split other pid tells caller authorized
  exact ⟨earlier, before, callerFiles, expectedFiles, delivery, now, memfds, later, call, split, rfl,
    named, checked⟩

/-- A window that was requested was asked for by a checked call of its owner. -/
theorem requested_checked (guarded : Guarded weaklyCanonical expectedPeer past gate)
    {request : RaiseRequest}
    (requested : Service.Requested (servicePast weaklyCanonical expectedPeer past) request) :
    AskedFor weaklyCanonical expectedPeer past request := by
  cases requested with
  | single state callerPid kind options delivery now memfds parsed member authorized known =>
    obtain ⟨earlier, before, callerFiles, expectedFiles, arrival, time, fds, later, call, split, rfl,
      same, checked⟩ := told_checked guarded _ _ callerPid member rfl authorized
    refine ⟨earlier, before, callerFiles, expectedFiles, arrival, time, fds, later, call, split, rfl,
      ?_, checked⟩
    cases call with
    | requestSecret asked given =>
      cases same
      exact ⟨parsed, known, rfl⟩
    | _ => cases same
  | pinChange state callerPid options delivery now memfds member authorized =>
    obtain ⟨earlier, before, callerFiles, expectedFiles, arrival, time, fds, later, call, split, rfl,
      same, checked⟩ := told_checked guarded _ _ callerPid member rfl authorized
    refine ⟨earlier, before, callerFiles, expectedFiles, arrival, time, fds, later, call, split, rfl,
      ?_, checked⟩
    cases call with
    | requestSecrets asked given =>
      cases same
      exact ⟨rfl, rfl⟩
    | _ => cases same

/-- In every run, whatever processes start, exit, are reaped and get each other's numbers,
whatever the file system resolves and however the windows go on:

* whatever the service is told for a caller, it is told by the verdict on a call, and behind the
  arrival of that very call, with no other arriving in between, the process that owned the number
  when it was pinned owned it when its link was read, and the link showed the path of the agent or
  that of its replaced binary;
* every window was asked for by such a call of its owner, and every secret that is handed out
  answers one;
* between two calls no descriptor of a process is left open.

Proof: the steps since a call arrived are kept beside the call that is looked at, and over them the
reader is sound as for a run of its own. The verdict reads the check off these steps; no other step
tells the service anything for a caller. -/
theorem only_the_agent_served (weaklyCanonical : φ → List Char → Option (List Char))
    (expectedPeer : List Char) (events : List (GateEvent φ)) (gate : CallerGate)
    (reached : run (step weaklyCanonical expectedPeer) {} events = some gate) :
    let past := trace (step weaklyCanonical expectedPeer) {} events
    EachStep (Vouched weaklyCanonical expectedPeer) past ∧
    (∀ id window, gate.service.windows id = some window →
      ∃ request, request.request = id ∧ Service.Shows request window ∧
        AskedFor weaklyCanonical expectedPeer past request) ∧
    (∀ answer ∈ gate.service.answers, answer.granted = true →
      ∃ request, request.request = answer.request ∧
        AskedFor weaklyCanonical expectedPeer past request) ∧
    (gate.checking = none → gate.kernel.pidfds.Conserved []) := by
  intro past
  have guarded := trace_invariant (step weaklyCanonical expectedPeer)
    (Guarded weaklyCanonical expectedPeer) guarded_step events {} gate guarded_initial reached
  refine ⟨guarded.calls, ?_, ?_, fun free => (guarded.idle free).2⟩
  · intro id window standing
    obtain ⟨request, requested, own, shows⟩ := guarded.traced.windows id window standing
    exact ⟨request, own, shows, requested_checked guarded requested⟩
  · intro answer member granted
    obtain ⟨request, window, requested, own, shows, accepted⟩ :=
      guarded.traced.granted answer member granted
    exact ⟨request, own, requested_checked guarded requested⟩

/-- A file system without links. -/
def withoutLinks (_ : Unit) (path : List Char) : Option (List Char) := some path

/-- Where the agent is installed. -/
def agentPath : List Char := "/usr/libexec/librescrs-agent".toList

/-- A stranger asks for a PIN, and then an agent whose binary was replaced. -/
def strangerThenAgent : List (GateEvent Unit) :=
  [.process (.fork 7), .process (.show .exe 0 (agentPath ++ " (deleted)".toList)),
    .process (.fork 9), .process (.show .exe 1 "/tmp/librescrs-agent".toList),
    .arrive (.requestSecret kKindPin ∅) (some 9) .queued 0 {}, .process (.pidfdOpen false),
    .process (.readSymlink false), .process (.pidfdSendSignal false), .decide () () .queued 0 {},
    .arrive (.requestSecret kKindPin ∅) (some 7) .queued 0 {}, .process (.pidfdOpen false),
    .process (.readSymlink false), .process (.pidfdSendSignal false), .decide () () .queued 0 {},
    .gui (.perform 0 0 {}), .gui (.interact 1 (.edit (.pin "2468"))), .gui (.accept 1 {})]

/-- The stranger is refused, and the agent gets the PIN. -/
theorem stranger_refused_agent_served :
    ∃ gate, run (step withoutLinks agentPath) {} strangerThenAgent = some gate ∧
      gate.service.answers.map Answer.status = [.unauthorized, .ok] ∧
      ∃ request, request.request = 1 ∧
        AskedFor withoutLinks agentPath (trace (step withoutLinks agentPath) {} strangerThenAgent)
          request := by
  refine ⟨(run (step withoutLinks agentPath) {} strangerThenAgent).get (by decide +kernel),
    (Option.some_get _).symm, by decide +kernel, ?_⟩
  obtain ⟨_, _, secrets, _⟩ := only_the_agent_served withoutLinks agentPath strangerThenAgent _
    (Option.some_get (by decide +kernel)).symm
  exact secrets ⟨1, .ok, [some ⟨"2468", some .pin⟩]⟩ (by decide +kernel) (by decide +kernel)

end CallerGate

end LibreLinux.Prompter
