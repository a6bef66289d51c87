import LibreLinux.Agent.AuthorizedReply
import LibreLinux.Agent.ProcStat
import LibreLinux.Wire.Variant

/-!
# Whom and what polkit is asked

The bus daemon describes the caller of a method by its credentials. The subject of a question
to polkit is built from them: the descriptor of the calling process with its user where the
bus hands both out, else the process number with the time at which its process started. A
member of another type than expected leaves nothing to ask about.

polkit's own reading of a subject is stated beside the construction, as the authorizer relies
on it: a user is a signed number of 32 bits and any other type is as good as no user, and a
descriptor without a user is refused.

A question is a call to polkit that holds the completion of the method. Its answer is handed
to the loop of the dispatcher where that was set up, and to the completion at once otherwise.
The destructor drops the calls that are outstanding.
-/

namespace LibreLinux.Agent

open Maps Wire

/-- The variant types of credentials and of subjects. -/
inductive CredentialValue where
  | uint32 (value : UInt32)
  | int32 (value : Int)
  | uint64 (value : UInt64)
  | unixFd (fd : Nat)
  | other (signature : String)
deriving DecidableEq, Repr

/-- A dictionary of credentials, or of the details of a subject. -/
abbrev Credentials := Finmap (fun _ : String => CredentialValue)

namespace CredentialValue

/-- Read a member as an unsigned 32-bit number. -/
def getUInt32 : CredentialValue → Option UInt32
  | .uint32 value => some value
  | _ => none

/-- Read a member as a descriptor. -/
def getUnixFd : CredentialValue → Option Nat
  | .unixFd fd => some fd
  | _ => none

/-- A member read as a number is one. -/
theorem get_uint32_iff (member : CredentialValue) (value : UInt32) :
    member.getUInt32 = some value ↔ member = .uint32 value := by
  cases member <;> simp [getUInt32]

/-- A member read as a descriptor is one. -/
theorem get_unix_fd_iff (member : CredentialValue) (fd : Nat) :
    member.getUnixFd = some fd ↔ member = .unixFd fd := by
  cases member <;> simp [getUnixFd]

end CredentialValue

/-- The user of a subject, in the type polkit reads. -/
def uidDetail (uid : UInt32) : CredentialValue := .int32 (staticCastInt uid)

/-- The details of a process number. -/
def buildUnixProcessDetails (pid : UInt32) (startTime : UInt64) (uid : Option UInt32) :
    Credentials :=
  let details := emplace (emplace ∅ "pid" (.uint32 pid)) "start-time" (.uint64 startTime)
  match uid with
  | some uid => emplace details "uid" (uidDetail uid)
  | none => details

/-- The user of the credentials, if there is one; a member of another type is an error. -/
def uidMember (credentials : Credentials) : Option (Option UInt32) :=
  match credentials.lookup "UnixUserID" with
  | some member => member.getUInt32.map some
  | none => some none

/-- The details of the process that the credentials describe. -/
def unixProcessDetailsFrom (credentials : Credentials) (startTimeOf : UInt32 → Option UInt64) :
    Option Credentials := do
  let uid ← uidMember credentials
  match credentials.lookup "ProcessFD", uid with
  | some member, some uid =>
    let fd ← member.getUnixFd
    some (emplace (emplace ∅ "pidfd" (.unixFd fd)) "uid" (uidDetail uid))
  | _, _ =>
    let member ← credentials.lookup "ProcessID"
    let pid ← member.getUInt32
    let startTime ← startTimeOf pid
    some (buildUnixProcessDetails pid startTime uid)

/-! ## What polkit takes from a subject -/

/-- A process as polkit takes it from a subject. -/
inductive PolkitProcess where
  | pidfd (fd : Nat) (uid : UInt32)
  | pid (pid : UInt32) (startTime : UInt64) (uid : Option UInt32)
deriving DecidableEq, Repr

/-- The user of a subject, as polkit reads it. -/
def polkitUid (details : Credentials) : Option UInt32 :=
  match details.lookup "uid" with
  | some (.int32 value) => some (UInt32.ofInt value)
  | _ => none

/-- The process of a subject, as polkit reads it. -/
def polkitReads (details : Credentials) : Option PolkitProcess :=
  match details.lookup "pidfd" with
  | some (.unixFd fd) => (polkitUid details).map (.pidfd fd)
  | _ =>
    match details.lookup "pid", details.lookup "start-time" with
    | some (.uint32 pid), some (.uint64 startTime) => some (.pid pid startTime (polkitUid details))
    | _, _ => none

/-- The process the credentials are about: by descriptor and user, or by its number, with the
user where there is one. -/
def Describes (credentials : Credentials) (startTimeOf : UInt32 → Option UInt64) :
    PolkitProcess → Prop
  | .pidfd fd uid =>
      credentials.lookup "ProcessFD" = some (.unixFd fd) ∧
        credentials.lookup "UnixUserID" = some (.uint32 uid)
  | .pid pid startTime uid =>
      credentials.lookup "ProcessID" = some (.uint32 pid) ∧ startTimeOf pid = some startTime ∧
        credentials.lookup "UnixUserID" = uid.map .uint32 ∧
        (credentials.lookup "ProcessFD" = none ∨ uid = none)

/-- The signed user is the unsigned one bit for bit. -/
theorem of_int_static_cast (uid : UInt32) : UInt32.ofInt (staticCastInt uid) = uid := by
  have bounded := uid.toNat_lt
  apply UInt32.toNat_inj.mp
  change (staticCastInt uid % 4294967296).toNat % 4294967296 = uid.toNat
  unfold staticCastInt
  split <;> omega

/-- polkit reads the descriptor and the user that were put in. -/
theorem reads_pidfd (fd : Nat) (uid : UInt32) :
    polkitReads (emplace (emplace ∅ "pidfd" (.unixFd fd)) "uid" (uidDetail uid)) =
      some (.pidfd fd uid) := by
  simp [polkitReads, polkitUid, lookup_emplace, uidDetail, of_int_static_cast]

/-- polkit reads the number, the time and the user that were put in. -/
theorem reads_pid (pid : UInt32) (startTime : UInt64) (uid : Option UInt32) :
    polkitReads (buildUnixProcessDetails pid startTime uid) = some (.pid pid startTime uid) := by
  cases uid with
  | none => simp [polkitReads, polkitUid, buildUnixProcessDetails, lookup_emplace]
  | some uid =>
    simp [polkitReads, polkitUid, buildUnixProcessDetails, lookup_emplace, uidDetail,
      of_int_static_cast]

/-- The user is the one the credentials name. -/
theorem uid_member_iff (credentials : Credentials) (uid : Option UInt32) :
    uidMember credentials = some uid ↔
      credentials.lookup "UnixUserID" = uid.map .uint32 := by
  unfold uidMember
  cases credentials.lookup "UnixUserID" with
  | none => cases uid <;> simp
  | some member => cases uid <;> simp [CredentialValue.get_uint32_iff]

/-- A subject is built exactly of a process that the credentials describe, and polkit reads
that process from it.

Split as the source does: the descriptor is taken only with a user, and the number otherwise. -/
theorem details_from_iff (credentials details : Credentials)
    (startTimeOf : UInt32 → Option UInt64) :
    unixProcessDetailsFrom credentials startTimeOf = some details ↔
      (∃ fd uid, Describes credentials startTimeOf (.pidfd fd uid) ∧
        details = emplace (emplace ∅ "pidfd" (.unixFd fd)) "uid" (uidDetail uid)) ∨
      (∃ pid startTime uid, Describes credentials startTimeOf (.pid pid startTime uid) ∧
        details = buildUnixProcessDetails pid startTime uid) := by
  simp only [unixProcessDetailsFrom, Option.bind_eq_bind, Option.bind_eq_some_iff,
    uid_member_iff]
  constructor
  · rintro ⟨uid, user, built⟩
    have byNumber : credentials.lookup "ProcessFD" = none ∨ uid = none →
        (∃ member, credentials.lookup "ProcessID" = some member ∧ ∃ pid,
          member.getUInt32 = some pid ∧ ∃ startTime, startTimeOf pid = some startTime ∧
            some (buildUnixProcessDetails pid startTime uid) = some details) →
        ∃ pid startTime uid, Describes credentials startTimeOf (.pid pid startTime uid) ∧
          details = buildUnixProcessDetails pid startTime uid := by
      rintro alone ⟨member, number, pid, read, startTime, started, result⟩
      rw [CredentialValue.get_uint32_iff] at read
      exact ⟨pid, startTime, uid, ⟨read ▸ number, started, user, alone⟩,
        (Option.some.inj result).symm⟩
    cases descriptor : credentials.lookup "ProcessFD" with
    | none =>
      right
      simp only [descriptor, Option.bind_eq_some_iff] at built
      exact byNumber (.inl descriptor) built
    | some member =>
      cases uid with
      | none =>
        right
        simp only [descriptor, Option.bind_eq_some_iff] at built
        exact byNumber (.inr rfl) built
      | some uid =>
        left
        simp only [descriptor, Option.bind_eq_some_iff, CredentialValue.get_unix_fd_iff] at built
        obtain ⟨fd, rfl, result⟩ := built
        exact ⟨fd, uid, ⟨descriptor, user⟩, (Option.some.inj result).symm⟩
  · rintro (⟨fd, uid, ⟨descriptor, user⟩, rfl⟩ | ⟨pid, startTime, uid, described, rfl⟩)
    · exact ⟨some uid, user, by simp [descriptor, CredentialValue.getUnixFd]⟩
    · obtain ⟨number, started, user, alone⟩ := described
      refine ⟨uid, user, ?_⟩
      rcases alone with absent | rfl
      · simp [absent, number, CredentialValue.getUInt32, started]
      · simp [number, CredentialValue.getUInt32, started]

/-- Every subject names one process that the credentials describe. -/
theorem details_read (credentials details : Credentials) (startTimeOf : UInt32 → Option UInt64)
    (built : unixProcessDetailsFrom credentials startTimeOf = some details) :
    ∃ process, polkitReads details = some process ∧ Describes credentials startTimeOf process := by
  rcases (details_from_iff credentials details startTimeOf).mp built with
    ⟨fd, uid, described, rfl⟩ | ⟨pid, startTime, uid, described, rfl⟩
  · exact ⟨.pidfd fd uid, reads_pidfd fd uid, described⟩
  · exact ⟨.pid pid startTime uid, reads_pid pid startTime uid, described⟩

/-! ## Questions and answers -/

/-- What the bus daemon answers about a caller, if it does, and what pinned reads of
processes return. -/
structure CallerFacts where
  credentials : Option Credentials
  procStat : UInt32 → Option (List Char)

/-- The time at which a process started. -/
def readStartTime (facts : CallerFacts) (pid : UInt32) : Option UInt64 :=
  (facts.procStat pid).bind parseProcStartTime

/-- The details of the subject of a caller. -/
def subjectFor (busName : String) (facts : CallerFacts) : Option Credentials :=
  if busName = "" then none
  else facts.credentials.bind (unixProcessDetailsFrom · (readStartTime facts))

/-- How a call to polkit ends. -/
inductive PolkitReply where
  | failed (message : String)
  | checked (isAuthorized isChallenge : Bool)
deriving DecidableEq, Repr

/-- A challenge that was not met is no authorization. -/
def interpretReply (isAuthorized _isChallenge : Bool) : Bool := isAuthorized

/-- The outcome of a call to polkit. -/
def outcomeOf : PolkitReply → AuthorizationOutcome
  | .failed _ => .undecided
  | .checked isAuthorized isChallenge =>
    if interpretReply isAuthorized isChallenge then .granted else .denied

/-- A grant is polkit's own yes. -/
theorem granted_iff (reply : PolkitReply) :
    outcomeOf reply = .granted ↔ ∃ isChallenge, reply = .checked true isChallenge := by
  cases reply with
  | failed message => simp [outcomeOf]
  | checked isAuthorized isChallenge => cases isAuthorized <;> simp [outcomeOf, interpretReply]

/-- A call to polkit that holds the completion `done`. -/
structure CheckAuthorization where
  details : Credentials
  actionId : String
  done : Nat

/-- The authorizer: whether its answers go through a loop, the calls outstanding, the answers
posted to the loop, and whether its destructor ran. -/
structure PolkitAuthorizer where
  posts : Bool := false
  calls : List CheckAuthorization := []
  posted : List (Nat × AuthorizationOutcome) := []
  stopped : Bool := false

/-- The completions of which the authorizer or the loop holds the copy. -/
def PolkitAuthorizer.holds (authorizer : PolkitAuthorizer) : List Nat :=
  authorizer.calls.map CheckAuthorization.done ++ authorizer.posted.map Prod.fst

end LibreLinux.Agent
