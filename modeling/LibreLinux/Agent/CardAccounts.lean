import LibreLinux.Agent.CardOperations

/-!
# Where the operations of a card come from

The store of the card object is accounted for by the past of a run: each operation was launched
for one granted body or one reading call, the limiter was charged for the granted bodies, and
what was cancelled was cancelled for its owner. The numbers of the operations only grow, so a
path answers one call, whether its body was granted or it is one that reads.
-/

namespace LibreLinux.Agent.Card1

open Runs Serial

variable {ς σ : Type}

namespace CardObject

/-! ## What the past says about the store -/

/-- A past of the card object. -/
abbrev History (ς σ : Type) := List (Service ς σ × Event σ (CardStore ς σ))

/-- The past as the authorized methods see it. -/
def authorizedPast (library : CardLibrary ς σ) (card : CardObject) (past : History ς σ) :
    AuthorizedService.Past Request String (CardStore ς σ) :=
  past.map (fun entry => (entry.1, card.translate library entry.1 entry.2))

/-- The serial history: the granted bodies and the changes of the store beside them. -/
def commands (library : CardLibrary ς σ) (card : CardObject) (past : History ς σ) :
    List (Command Request (CardStore ς σ)) :=
  history AuthorizedService.command (card.authorizedPast library past)

/-- The clients whose bodies were granted, in order. -/
def grantedSenders (commands : List (Command Request (CardStore ς σ))) : List String :=
  commands.filterMap (fun entry =>
    match entry with
    | .granted _ request => some request.caller.sender
    | .elsewhere _ => none)

/-- The operation was launched for a granted call, as its body prepared it. -/
def ForCall (library : CardLibrary ς σ) (card : CardObject) (request : Request)
    (row : CardLaunch ς) : Prop :=
  LaunchedFor library card request.caller row ∧
    ∃ agent, (request.prepare library card agent).1 = .ok row.operation

/-- The operation was launched for a reading call that passed its check and was answered with
the operation's path. -/
def ForReading (library : CardLibrary ς σ) (card : CardObject) (past : History ς σ)
    (row : CardLaunch ς) : Prop :=
  ∃ earlier reading caller, (earlier, .read reading caller) ∈ past ∧
    card.readingRefusal library reading = none ∧ LaunchedFor library card caller row ∧
    row.operation = readingOperation reading ∧
    (card.read library reading caller earlier.service.store).1 = .ok (opObjectPath row.id)

/-- The path that a step answered a reading call with. -/
def readPath (library : CardLibrary ς σ) (card : CardObject)
    (taken : Service ς σ × Event σ (CardStore ς σ)) : Option String :=
  match taken.2 with
  | .read reading caller =>
      (card.read library reading caller taken.1.service.store).1.toOption
  | _ => none

/-- The paths that reading calls were answered with, in the order of the calls. -/
def readPaths (library : CardLibrary ς σ) (card : CardObject) (past : History ς σ) : List String :=
  past.filterMap (card.readPath library)

/-- The operation is the one that a reading call launched, which passed its check. -/
structure LaunchedByReading (library : CardLibrary ς σ) (card : CardObject) (reading : Reading)
    (caller : Caller) (store : CardStore ς σ) (row : CardLaunch ς) : Prop where
  passed : card.readingRefusal library reading = none
  launched : (card.read library reading caller store).2.launched = store.launched ++ [row]
  own : LaunchedFor library card caller row
  operation : row.operation = readingOperation reading

/-- The owner of an operation asked for it to be cancelled. -/
def CancelledByOwner (past : History ς σ) (launched : List (CardLaunch ς))
    (entry : Nat × String) : Prop :=
  entry.2 ≠ "" ∧ (∃ row ∈ launched, row.id = entry.1 ∧ row.owner = entry.2) ∧
    ∃ earlier, (earlier, .cancel (opObjectPath entry.1) (some entry.2)) ∈ past

/-- What the past, the history and its results say about the store. -/
structure Accounted (library : CardLibrary ς σ) (card : CardObject) (past : History ς σ)
    (commands : List (Command Request (CardStore ς σ)))
    (results : List (Nat × BodyResult String)) (store : CardStore ς σ) : Prop where
  bounded : ∀ row ∈ store.launched, row.id < library.issued store.agent
  distinct : (store.launched.map CardLaunch.id).Nodup
  exported : store.channels ⊆ store.launched
  charges : store.charges = grantedSenders commands
  origins : ∀ row ∈ store.launched,
    (∃ id request, .granted id request ∈ commands ∧ ForCall library card request row) ∨
      ForReading library card past row
  answered : ∀ id path, (id, .results path) ∈ results → ∃ request, ∃ row ∈ store.launched,
    .granted id request ∈ commands ∧ path = opObjectPath row.id ∧ ForCall library card request row
  once : ∀ id other path, (id, .results path) ∈ results → (other, .results path) ∈ results →
    id = other
  cancels : ∀ entry ∈ store.cancelled, CancelledByOwner past store.launched entry

/-- Different numbers are spelled differently behind one stem. -/
theorem numbered_inj (stem : String) (id other : Nat)
    (same : stem ++ toString id = stem ++ toString other) : id = other := by
  have spelled : stem.toList ++ Nat.toDigits 10 id = stem.toList ++ Nat.toDigits 10 other := by
    simpa [Nat.toString_eq_repr, Nat.toList_repr] using congrArg String.toList same
  have digits := List.append_cancel_left spelled
  calc id = Nat.ofDigitChars 10 (Nat.toDigits 10 id) 0 := Nat.ofDigitChars_ten_toDigits.symm
    _ = Nat.ofDigitChars 10 (Nat.toDigits 10 other) 0 := by rw [digits]
    _ = other := Nat.ofDigitChars_ten_toDigits

/-- Different operations have different paths. -/
theorem op_object_path_inj (id other : Nat) (same : opObjectPath id = opObjectPath other) :
    id = other :=
  numbered_inj _ id other same

/-- Nothing that is accounted for is lost as the past grows. -/
theorem Accounted.later {library : CardLibrary ς σ} {card : CardObject} {past : History ς σ}
    {commands : List (Command Request (CardStore ς σ))} {results : List (Nat × BodyResult String)}
    {store : CardStore ς σ} (accounted : Accounted library card past commands results store)
    (more : History ς σ) : Accounted library card (past ++ more) commands results store where
  bounded := accounted.bounded
  distinct := accounted.distinct
  exported := accounted.exported
  charges := accounted.charges
  origins := fun row member => (accounted.origins row member).imp_right
    (fun ⟨earlier, reading, caller, called, rest⟩ =>
      ⟨earlier, reading, caller, List.mem_append_left _ called, rest⟩)
  answered := accounted.answered
  once := accounted.once
  cancels := fun entry member =>
    let ⟨named, owned, earlier, asked⟩ := accounted.cancels entry member
    ⟨named, owned, earlier, List.mem_append_left _ asked⟩

section Accounts

variable {library : CardLibrary ς σ} {card : CardObject} {past : History ς σ}
variable {commands : List (Command Request (CardStore ς σ))}
variable {results : List (Nat × BodyResult String)} {store next : CardStore ς σ}

/-- Launches are numbered apart, and channels are exported for launches only. -/
theorem Launched.numbered {launch : Option (CardLaunch ς)}
    (launched : Launched library store next launch)
    (accounted : Accounted library card past commands results store) :
    (∀ row ∈ next.launched, row.id < library.issued next.agent) ∧
      (next.launched.map CardLaunch.id).Nodup ∧ next.channels ⊆ next.launched := by
  rw [launched.launched, launched.channels]
  cases launch with
  | none =>
    simp only [Option.toList_none, List.append_nil]
    exact ⟨fun row member => (accounted.bounded row member).trans_le launched.counted,
      accounted.distinct, accounted.exported⟩
  | some row =>
    obtain ⟨above, below⟩ := launched.fresh row rfl
    simp only [Option.toList_some, List.map_append, List.map_cons, List.map_nil]
    refine ⟨?_, ?_, List.append_subset.mpr ⟨?_, List.subset_append_right _ _⟩⟩
    · intro other member
      rcases List.mem_append.mp member with earlier | last
      · exact (accounted.bounded other earlier).trans_le launched.counted
      · rw [List.mem_singleton.mp last]
        exact below
    · refine List.nodup_append.mpr ⟨accounted.distinct, by simp, ?_⟩
      rintro id member other single rfl
      obtain ⟨earlier, present, rfl⟩ := List.mem_map.mp member
      have known := accounted.bounded earlier present
      rw [List.mem_singleton.mp single] at known
      omega
    · exact List.subset_append_of_subset_left _ accounted.exported

/-- The answers of the reading calls: a path is that of the operation the call itself launched,
and neither another reading call nor a granted body was answered with it. -/
structure ReadsAnswered (library : CardLibrary ς σ) (card : CardObject) (past : History ς σ)
    (results : List (Nat × BodyResult String)) (launched : List (CardLaunch ς)) : Prop where
  row : ∀ earlier reading caller path, (earlier, .read reading caller) ∈ past →
    (card.read library reading caller earlier.service.store).1 = .ok path →
    ∃ row ∈ launched, path = opObjectPath row.id ∧
      LaunchedByReading library card reading caller earlier.service.store row
  once : (card.readPaths library past).Nodup
  apart : ∀ id path, (id, .results path) ∈ results → path ∉ card.readPaths library past

/-- A path that a reading call got is that of an operation. -/
theorem ReadsAnswered.operation {launched : List (CardLaunch ς)}
    (answered : ReadsAnswered library card past results launched) (path : String)
    (member : path ∈ card.readPaths library past) :
    ∃ row ∈ launched, path = opObjectPath row.id := by
  obtain ⟨⟨earlier, event⟩, taken, found⟩ := List.mem_filterMap.mp member
  cases event with
  | read reading caller =>
    simp only [readPath] at found
    cases outcome : (card.read library reading caller earlier.service.store).1 with
    | error error =>
      rw [outcome] at found
      cases found
    | ok other =>
      rw [outcome] at found
      cases found
      obtain ⟨row, present, same, -⟩ := answered.row earlier reading caller path taken outcome
      exact ⟨row, present, same⟩
  | _ => cases found

/-- A step that reads nothing: what a body answers with is the path of an operation launched
after all those before. -/
theorem reads_beside {state : Service ς σ} {launched later : List (CardLaunch ς)}
    {produced : List (Nat × BodyResult String)} (event : Event σ (CardStore ς σ))
    (silent : ∀ reading caller, event ≠ .read reading caller)
    (answered : ReadsAnswered library card past results launched) (grown : launched ⊆ later)
    (fresh : ∀ id path, (id, .results path) ∈ produced → (id, .results path) ∈ results ∨
      ∀ row ∈ launched, path ≠ opObjectPath row.id) :
    ReadsAnswered library card (past ++ [(state, event)]) produced later := by
  have quiet : card.readPath library (state, event) = none := by
    cases event with
    | read reading caller => exact absurd rfl (silent reading caller)
    | _ => rfl
  have same : card.readPaths library (past ++ [(state, event)]) = card.readPaths library past := by
    simp [readPaths, quiet]
  refine ⟨?_, same ▸ answered.once, ?_⟩
  · intro earlier reading caller path member outcome
    rcases List.mem_append.mp member with before | latest
    · obtain ⟨row, present, rest⟩ := answered.row earlier reading caller path before outcome
      exact ⟨row, grown present, rest⟩
    · cases List.mem_singleton.mp latest
      exact absurd rfl (silent reading caller)
  · intro id path member told
    rw [same] at told
    rcases fresh id path member with before | new
    · exact answered.apart id path before told
    · obtain ⟨row, present, path⟩ := answered.operation path told
      exact new row present path

/-- A cancellation stays one by the owner as the launches grow. -/
theorem CancelledByOwner.grown {launched : List (CardLaunch ς)} {entry : Nat × String}
    (cancelled : CancelledByOwner past launched entry) (more : List (CardLaunch ς)) :
    CancelledByOwner past (launched ++ more) entry := by
  obtain ⟨named, ⟨row, member, own⟩, asked⟩ := cancelled
  exact ⟨named, ⟨row, List.mem_append_left _ member, own⟩, asked⟩

/-- What was launched keeps its origin, and what was answered its operation. -/
theorem Accounted.kept (accounted : Accounted library card past commands results store)
    (more : List (Command Request (CardStore ς σ))) (launched : List (CardLaunch ς)) :
    (∀ row ∈ store.launched,
      (∃ id request, .granted id request ∈ commands ++ more ∧ ForCall library card request row) ∨
        ForReading library card past row) ∧
    (∀ id path, (id, .results path) ∈ results → ∃ request, ∃ row ∈ store.launched ++ launched,
      .granted id request ∈ commands ++ more ∧ path = opObjectPath row.id ∧
        ForCall library card request row) := by
  constructor
  · intro row member
    refine (accounted.origins row member).imp_left ?_
    rintro ⟨id, request, granted, own⟩
    exact ⟨id, request, List.mem_append_left _ granted, own⟩
  · intro id path answered
    obtain ⟨request, row, member, granted, rest⟩ := accounted.answered id path answered
    exact ⟨request, row, List.mem_append_left _ member, List.mem_append_left _ granted, rest⟩

/-- A granted body is accounted for by its place in the history. -/
theorem accounted_body (id : Nat) (request : Request) (outcome : BodyResult String × CardStore ς σ)
    (accounted : Accounted library card past commands results store)
    (effect : BodyEffect library card request.caller (request.prepare library card) store outcome) :
    Accounted library card past (commands ++ [.granted id request]) (results ++ [(id, outcome.1)])
      outcome.2 := by
  have charges : outcome.2.charges = grantedSenders (commands ++ [.granted id request]) := by
    rw [effect.charges, accounted.charges]
    simp [grantedSenders]
  obtain ⟨name, message, refused, launched⟩ | ⟨row, path, launched, own, agent, prepared⟩ :=
    effect.ends
  · obtain ⟨bounded, distinct, exported⟩ := launched.numbered accounted
    obtain ⟨origins, answered⟩ := accounted.kept [.granted id request] []
    have same : outcome.2.launched = store.launched := by simpa using launched.launched
    have produced : ∀ other path, (other, .results path) ∈ results ++ [(id, outcome.1)] →
        (other, .results path) ∈ results := by
      intro other path member
      simpa [refused] using member
    refine ⟨bounded, distinct, exported, charges, same ▸ origins, ?_, ?_, ?_⟩
    · intro other path member
      rw [same]
      simpa using answered other path (produced other path member)
    · intro other another path member again
      exact accounted.once other another path (produced other path member)
        (produced another path again)
    · rw [same, launched.cancelled]
      exact accounted.cancels
  · obtain ⟨bounded, distinct, exported⟩ := launched.numbered accounted
    obtain ⟨origins, answered⟩ := accounted.kept [.granted id request] [row]
    have same : outcome.2.launched = store.launched ++ [row] := launched.launched
    have granted : .granted id request ∈ commands ++ [.granted id request] := by simp
    have mine : ForCall library card request row := ⟨own, agent, prepared⟩
    have produced : ∀ other path, (other, .results path) ∈ results ++ [(id, outcome.1)] →
        (other, .results path) ∈ results ∨ other = id ∧ path = opObjectPath row.id := by
      intro other found member
      simpa [path] using member
    -- The number of the new operation is above all those that were answered before.
    have unanswered : ∀ other, (other, .results (opObjectPath row.id)) ∉ results := by
      intro other member
      obtain ⟨_, earlier, present, _, samePath, _⟩ := accounted.answered other _ member
      have below := accounted.bounded earlier present
      have above := (launched.fresh row rfl).1
      rw [op_object_path_inj _ _ samePath] at above
      omega
    refine ⟨bounded, distinct, exported, charges, ?_, ?_, ?_, ?_⟩
    · intro other member
      rw [same] at member
      rcases List.mem_append.mp member with earlier | last
      · exact origins other earlier
      · exact .inl ⟨id, request, granted, List.mem_singleton.mp last ▸ mine⟩
    · intro other found member
      rw [same]
      rcases produced other found member with earlier | ⟨rfl, rfl⟩
      · exact answered other found earlier
      · exact ⟨request, row, by simp, granted, rfl, mine⟩
    · intro other another found member again
      rcases produced other found member with earlier | ⟨rfl, rfl⟩
      · rcases produced another found again with before | ⟨rfl, rfl⟩
        · exact accounted.once other another found earlier before
        · exact absurd earlier (unanswered other)
      · rcases produced another _ again with before | ⟨rfl, _⟩
        · exact absurd before (unanswered another)
        · rfl
    · rw [same, launched.cancelled]
      exact fun entry member => (accounted.cancels entry member).grown [row]

/-- A change of the store beside the bodies, with at most one launch, for a reading call. -/
theorem accounted_beside (launch : Option (CardLaunch ς)) (changed : CardStore ς σ)
    (accounted : Accounted library card past commands results store)
    (launched : Launched library store next launch) (charges : next.charges = store.charges)
    (reading : ∀ row, launch = some row → ForReading library card past row) :
    Accounted library card past (commands ++ [.elsewhere changed]) results next := by
  obtain ⟨bounded, distinct, exported⟩ := launched.numbered accounted
  obtain ⟨origins, answered⟩ := accounted.kept [.elsewhere changed] launch.toList
  refine ⟨bounded, distinct, exported, ?_, ?_, ?_, accounted.once, ?_⟩
  · rw [charges, accounted.charges]
    simp [grantedSenders]
  · intro row member
    rw [launched.launched] at member
    rcases List.mem_append.mp member with earlier | last
    · exact origins row earlier
    · exact .inr (reading row (Option.mem_toList.mp last))
  · rw [launched.launched]
    exact answered
  · rw [launched.launched, launched.cancelled]
    exact fun entry member => (accounted.cancels entry member).grown launch.toList

/-- A change of the store beside the bodies that launches nothing. -/
theorem accounted_quiet (changed : CardStore ς σ)
    (accounted : Accounted library card past commands results store)
    (launched : next.launched = store.launched) (charges : next.charges = store.charges)
    (channels : next.channels ⊆ store.channels)
    (counted : library.issued store.agent ≤ library.issued next.agent)
    (cancels : ∀ entry ∈ next.cancelled, CancelledByOwner past store.launched entry) :
    Accounted library card past (commands ++ [.elsewhere changed]) results next := by
  obtain ⟨origins, answered⟩ := accounted.kept [.elsewhere changed] []
  rw [List.append_nil] at answered
  refine ⟨?_, launched ▸ accounted.distinct, ?_, ?_, launched ▸ origins, launched ▸ answered,
    accounted.once, launched ▸ cancels⟩
  · rw [launched]
    exact fun row member => (accounted.bounded row member).trans_le counted
  · rw [launched]
    exact fun row member => accounted.exported (channels member)
  · rw [charges, accounted.charges]
    simp [grantedSenders]

/-- A reading call: its path is that of the operation it launches, after all those before. -/
theorem reads_read (lawful : library.Lawful) (state : Service ς σ) (reading : Reading)
    (caller : Caller) (accounted : Accounted library card past commands results state.service.store)
    (answered : ReadsAnswered library card past results state.service.store.launched) :
    ReadsAnswered library card (past ++ [(state, .read reading caller)]) results
      (card.read library reading caller state.service.store).2.launched := by
  have one : card.readPaths library (past ++ [(state, .read reading caller)]) =
      card.readPaths library past ++
        ((card.read library reading caller state.service.store).1.toOption).toList := by
    simp only [readPaths, List.filterMap_append]
    cases outcome : (card.read library reading caller state.service.store).1 <;>
      simp [readPath, outcome, Except.toOption]
  obtain ⟨-, ⟨error, refused, effect⟩ | ⟨row, path, effect, passed, own, same⟩⟩ :=
    read_effect lawful card reading caller state.service.store
  · have kept : (card.read library reading caller state.service.store).2.launched =
        state.service.store.launched := by simpa using effect.launched
    rw [refused, Except.toOption, Option.toList_none, List.append_nil] at one
    refine ⟨?_, one ▸ answered.once, fun id path member => one ▸ answered.apart id path member⟩
    intro earlier other another path member outcome
    rw [kept]
    rcases List.mem_append.mp member with before | latest
    · exact answered.row earlier other another path before outcome
    · cases List.mem_singleton.mp latest
      rw [refused] at outcome
      cases outcome
  · have grown : (card.read library reading caller state.service.store).2.launched =
        state.service.store.launched ++ [row] := effect.launched
    rw [path, Except.toOption, Option.toList_some] at one
    have above : ∀ other ∈ state.service.store.launched, opObjectPath row.id ≠ opObjectPath other.id := by
      intro other present equal
      have below := accounted.bounded other present
      have fresh := (effect.fresh row rfl).1
      rw [op_object_path_inj _ _ equal] at fresh
      omega
    refine ⟨?_, ?_, ?_⟩
    · intro earlier other another found member outcome
      rw [grown]
      rcases List.mem_append.mp member with before | latest
      · obtain ⟨earlierRow, present, rest⟩ :=
          answered.row earlier other another found before outcome
        exact ⟨earlierRow, List.mem_append_left _ present, rest⟩
      · cases List.mem_singleton.mp latest
        rw [path] at outcome
        cases outcome
        exact ⟨row, List.mem_append_right _ (List.mem_singleton_self _), rfl, passed, grown, own, same⟩
    · rw [one]
      refine List.nodup_append.mpr ⟨answered.once, by simp, ?_⟩
      rintro told member other single rfl
      obtain ⟨earlier, present, equal⟩ := answered.operation told member
      rw [List.mem_singleton.mp single] at equal
      exact above earlier present equal
    · intro id found member told
      rw [one] at told
      rcases List.mem_append.mp told with before | latest
      · exact answered.apart id found member before
      · obtain ⟨_, earlier, present, _, equal, _⟩ := accounted.answered id found member
        rw [List.mem_singleton.mp latest] at equal
        exact above earlier present equal

/-- A cancellation is heard from the owner of the operation only. -/
theorem accounted_cancel (lawful : library.Lawful) (path : String) (sender : Option String)
    (changed : CardStore ς σ) (accounted : Accounted library card past commands results store)
    (asked : ∃ earlier, (earlier, .cancel path sender) ∈ past) :
    Accounted library card past (commands ++ [.elsewhere changed]) results
      (cancel library path sender store) := by
  have kept : Accounted library card past (commands ++ [.elsewhere changed]) results store :=
    accounted_quiet changed accounted rfl rfl (List.Subset.refl _) (le_refl _) accounted.cancels
  unfold cancel
  split
  · exact kept
  rename_i channel found
  split
  · exact kept
  rename_i named
  split
  · rename_i owner
    have exported := List.mem_of_find?_eq_some found
    have there := List.find?_some found
    simp only [decide_eq_true_eq] at there
    refine accounted_quiet changed accounted rfl rfl (List.Subset.refl _)
      (lawful.cancel channel.id store.agent) ?_
    intro entry member
    rcases List.mem_append.mp member with earlier | last
    · exact accounted.cancels entry earlier
    · cases List.mem_singleton.mp last
      subst owner there
      exact ⟨named, ⟨channel, accounted.exported exported, rfl, rfl⟩, asked⟩
  · exact kept

end Accounts

/-! ## Whole runs -/

/-- The card object as it is created. -/
def initially (start : σ) (posts : Bool) : Service ς σ :=
  { service := { store := { agent := start } }, authorizer := { posts } }

/-- The results of the bodies of a history. -/
def results (library : CardLibrary ς σ) (card : CardObject) (start : σ)
    (commands : List (Command Request (CardStore ς σ))) : List (Nat × BodyResult String) :=
  GatedService.results (card.bodies library).toGrantedBodies { agent := start } commands

/-- What a run keeps: the history accounts for the questions, polkit for the grants, and the
past for the store. -/
structure Sound (library : CardLibrary ς σ) (card : CardObject) (start : σ) (past : History ς σ)
    (state : Service ς σ) : Prop where
  serial : AuthorizedService.Serial (card.bodies library) { agent := start }
    (card.commands library past) state.service
  held : AuthorizedService.Held (card.bodies library) (card.authorizedPast library past)
    state.service state.authorizer
  accounted : Accounted library card past (card.commands library past)
    (card.results library start (card.commands library past)) state.service.store
  answered : ReadsAnswered library card past
    (card.results library start (card.commands library past)) state.service.store.launched

/-- The history grows by what a step is to the authorized methods. -/
theorem commands_concat (library : CardLibrary ς σ) (card : CardObject) (past : History ς σ)
    (state : Service ς σ) (event : Event σ (CardStore ς σ)) :
    card.commands library (past ++ [(state, event)]) = card.commands library past ++
      (AuthorizedService.command state (card.translate library state event)).toList := by
  simp only [commands, authorizedPast, List.map_append, List.map_cons, List.map_nil]
  exact history_concat _ _ _ _

section Steps

variable {library : CardLibrary ς σ} (lawful : library.Lawful) {card : CardObject} {start : σ}
variable {past : History ς σ} {state next : Service ς σ}

include lawful

/-- A change of the store beside the bodies is accounted for. -/
theorem accounted_elsewhere (event : Event σ (CardStore ς σ)) (changed : CardStore ς σ)
    (possibly : possible library state event = true)
    (commanded : AuthorizedService.command state (card.translate library state event) =
      some (.elsewhere changed))
    (accounted : Accounted library card past (card.commands library past)
      (card.results library start (card.commands library past)) state.service.store) :
    Accounted library card (past ++ [(state, event)])
      (card.commands library past ++ [.elsewhere changed])
      (card.results library start (card.commands library past)) changed := by
  have later := accounted.later [(state, event)]
  have member : (state, event) ∈ past ++ [(state, event)] := by simp
  cases event with
  | method inner =>
    cases inner with
    | elsewhere store => simp [possible] at possibly
    | runBody id =>
      simp only [translate, AuthorizedService.command, Option.map_eq_some_iff] at commanded
      obtain ⟨_, _, impossible⟩ := commanded
      cases impossible
    | _ => cases commanded
  | read reading caller =>
    cases commanded
    obtain ⟨charges, ⟨_, _, launched⟩ | ⟨row, path, launched, passed, own, same⟩⟩ :=
      read_effect lawful card reading caller state.service.store
    · exact accounted_beside none _ later launched charges (by simp)
    · refine accounted_beside (some row) _ later launched charges ?_
      intro other launch
      cases Option.some.inj launch
      exact ⟨state, reading, caller, member, passed, own, same, path⟩
  | cancel path sender =>
    cases commanded
    exact accounted_cancel lawful path sender _ later ⟨state, member⟩
  | retire id =>
    cases commanded
    exact accounted_quiet _ later rfl rfl (fun _ kept => (List.mem_filter.mp kept).1) (le_refl _)
      later.cancels
  | library agent =>
    cases commanded
    exact accounted_quiet _ later rfl rfl (List.Subset.refl _)
      (by simpa [possible] using possibly) later.cancels

omit lawful in
/-- A cancellation launches nothing. -/
theorem cancel_launched (path : String) (sender : Option String) (store : CardStore ς σ) :
    (cancel library path sender store).launched = store.launched := by
  unfold cancel
  split
  · rfl
  split
  · rfl
  split <;> rfl

/-- The reading calls' answers after a change of the store beside the bodies. -/
theorem reads_elsewhere (event : Event σ (CardStore ς σ)) (changed : CardStore ς σ)
    (possibly : possible library state event = true)
    (commanded : AuthorizedService.command state (card.translate library state event) =
      some (.elsewhere changed))
    (accounted : Accounted library card past (card.commands library past)
      (card.results library start (card.commands library past)) state.service.store)
    (answered : ReadsAnswered library card past
      (card.results library start (card.commands library past)) state.service.store.launched) :
    ReadsAnswered library card (past ++ [(state, event)])
      (card.results library start (card.commands library past)) changed.launched := by
  have beside : (∀ reading caller, event ≠ .read reading caller) →
      state.service.store.launched = changed.launched →
      ReadsAnswered library card (past ++ [(state, event)])
        (card.results library start (card.commands library past)) changed.launched :=
    fun silent same => reads_beside event silent answered (same ▸ List.Subset.refl _)
      (fun _ _ member => .inl member)
  cases event with
  | method inner =>
    cases inner with
    | elsewhere store => simp [possible] at possibly
    | runBody id =>
      simp only [translate, AuthorizedService.command, Option.map_eq_some_iff] at commanded
      obtain ⟨_, _, impossible⟩ := commanded
      cases impossible
    | _ => cases commanded
  | read reading caller =>
    cases commanded
    exact reads_read lawful state reading caller accounted answered
  | cancel path sender =>
    cases commanded
    exact beside (by simp) (cancel_launched path sender state.service.store).symm
  | retire id =>
    cases commanded
    exact beside (by simp) rfl
  | library agent =>
    cases commanded
    exact beside (by simp) rfl

omit lawful in
/-- The reading calls' answers after a granted body: the path it answers with is new. -/
theorem reads_body (event : Event σ (CardStore ς σ)) (id : Nat) (request : Request)
    (outcome : BodyResult String × CardStore ς σ)
    (silent : ∀ reading caller, event ≠ .read reading caller)
    (accounted : Accounted library card past (card.commands library past)
      (card.results library start (card.commands library past)) state.service.store)
    (answered : ReadsAnswered library card past
      (card.results library start (card.commands library past)) state.service.store.launched)
    (effect : BodyEffect library card request.caller (request.prepare library card)
      state.service.store outcome) :
    ReadsAnswered library card (past ++ [(state, event)])
      (card.results library start (card.commands library past) ++ [(id, outcome.1)])
      outcome.2.launched := by
  obtain ⟨name, message, refused, launched⟩ | ⟨row, path, launched, -⟩ := effect.ends
  · refine reads_beside event silent answered ?_ ?_
    · rw [launched.launched]
      exact List.subset_append_left _ _
    · intro other found member
      refine .inl ?_
      simpa [refused] using member
  · refine reads_beside event silent answered ?_ ?_
    · rw [launched.launched]
      exact List.subset_append_left _ _
    · intro other found member
      rcases List.mem_append.mp member with earlier | latest
      · exact .inl earlier
      · rw [List.mem_singleton, path] at latest
        cases latest
        refine .inr fun earlier present equal => ?_
        have below := accounted.bounded earlier present
        have above := (launched.fresh row rfl).1
        rw [op_object_path_inj _ _ equal] at above
        omega

/-- Every step keeps the run sound.

Proof: the step is one of the authorized methods or a change of the store beside them, so the
history grows by at most one entry, and what the entry does to the store is accounted for. -/
theorem sound_step (event : Event σ (CardStore ς σ)) (sound : Sound library card start past state)
    (stepped : step library card state event = some next) :
    Sound library card start (past ++ [(state, event)]) next := by
  unfold step at stepped
  split at stepped
  · rename_i possibly
    have serial := AuthorizedService.serial_command _ _ _ state next _ sound.serial stepped
    have held := AuthorizedService.held_step _ _ state next _ sound.held stepped
    have grown := commands_concat library card past state event
    have before : state.service.store = after _ _ _ := sound.serial.store
    have store : next.service.store = after _ _ _ := serial.store
    have answers : Accounted library card (past ++ [(state, event)])
        (card.commands library (past ++ [(state, event)])) (card.results library start
          (card.commands library (past ++ [(state, event)]))) next.service.store ∧
        ReadsAnswered library card (past ++ [(state, event)]) (card.results library start
          (card.commands library (past ++ [(state, event)]))) next.service.store.launched := by
      rw [grown, store]
      cases commanded : AuthorizedService.command state (card.translate library state event) with
      | none =>
        simp only [Option.toList_none, List.append_nil]
        rw [← before]
        refine ⟨sound.accounted.later _, reads_beside event ?_ sound.answered
          (List.Subset.refl _) (fun _ _ member => .inl member)⟩
        rintro reading caller rfl
        cases commanded
      | some entry =>
        simp only [Option.toList_some, after_concat]
        rw [← before]
        cases entry with
        | granted id request =>
          have effect := body_effect lawful card request state.service.store
          have accounted := accounted_body id request _ (sound.accounted.later [(state, event)])
            effect
          have answered := reads_body event id request _ (by
            rintro reading caller rfl
            cases commanded) sound.accounted sound.answered effect
          simp only [results, GatedService.results_granted] at answered ⊢
          rw [← before]
          exact ⟨accounted, answered⟩
        | elsewhere changed =>
          simp only [results, GatedService.results_elsewhere]
          exact ⟨accounted_elsewhere lawful event changed possibly commanded sound.accounted,
            reads_elsewhere lawful event changed possibly commanded sound.accounted sound.answered⟩
    refine ⟨grown ▸ serial, ?_, answers.1, answers.2⟩
    simpa only [authorizedPast, List.map_append, List.map_cons, List.map_nil] using held
  · cases stepped

end Steps

/-- Every run is sound.

Proof: the empty past is sound, and every step keeps it so. -/
theorem run_sound (library : CardLibrary ς σ) (lawful : library.Lawful) (card : CardObject)
    (start : σ) (posts : Bool) (events : List (Event σ (CardStore ς σ))) (state : Service ς σ)
    (reached : run (step library card) (initially start posts) events = some state) :
    Sound library card start (trace (step library card) (initially start posts) events) state := by
  refine trace_invariant (step library card) (Sound library card start)
    (fun past before event next sound stepped => sound_step lawful event sound stepped)
    events _ state ?_ reached
  obtain ⟨serial, held⟩ := AuthorizedService.run_authorized (card.bodies library)
    { agent := start } posts [] (initially start posts) rfl
  exact ⟨serial, held, ⟨by simp [initially], by simp [initially], by simp [initially], rfl,
    by simp [initially], by simp [results, commands, authorizedPast, history,
      GatedService.results, answers], by simp [results, commands, authorizedPast, history,
      GatedService.results, answers], by simp [initially]⟩, ⟨by simp, by simp [readPaths],
      by simp [readPaths]⟩⟩

/-- A reply with a path is what a body of the history produced. -/
theorem path_produced (bodies : AuthorizedBodies Request String (CardStore ς σ))
    (start : CardStore ς σ) (commands : List (Command Request (CardStore ς σ)))
    (service : GatedService Request String (CardStore ς σ))
    (serial : AuthorizedService.Serial bodies start commands service) (id : Nat)
    (question : Question String) (path : String)
    (present : service.object.questions id = some question)
    (replied : .results path ∈ question.sent) :
    (id, .results path) ∈ GatedService.results bodies.toGrantedBodies start commands := by
  obtain ⟨past, serialized, rfl⟩ := serial
  have ended := Question.sent_ended (serialized.coherent.ledgers id question present)
    (List.ne_nil_of_mem replied)
  rcases GatedService.settled_reply _ start past service serialized id question present ended with
    ⟨_, result, produced, sent⟩ | ⟨_, _, name, message, sent⟩
  · rw [sent, List.mem_singleton] at replied
    cases result with
    | results other => cases replied; exact produced
    | busError name message => cases replied
    | exception what => cases replied
  · rw [sent, List.mem_singleton] at replied
    cases replied

/-- In every run, whatever the order in which clients call and cancel, polkit answers, bodies
run and the agent works on its own store:

* every operation was launched for one call. Either the call was granted: it passed the check
  of its entry, and polkit said yes to a question about its action and about a process that
  the bus daemon described as its sender. Or it was a reading call that the card has the
  capability for. The operation is owned by that client, on this card;
* no two operations have one path, and a client that was answered with a path, by a granted body
  or by a reading call, got the one of the operation launched for its call, and no other call got
  it;
* the rate limiter was charged once for each granted body, and for nothing else;
* what was cancelled over the bus was cancelled by the client that owns it;
* a change of a credential was launched with the listing that it was checked against. -/
theorem operations_authorized_and_owned (library : CardLibrary ς σ) (lawful : library.Lawful)
    (card : CardObject) (start : σ) (posts : Bool) (events : List (Event σ (CardStore ς σ)))
    (state : Service ς σ)
    (reached : run (step library card) (initially start posts) events = some state) :
    let past := trace (step library card) (initially start posts) events
    (∀ row ∈ state.service.store.launched,
      (∃ id request, state.service.asked id = some request ∧ ForCall library card request row ∧
        (card.bodies library).entry request = none ∧
        AuthorizedService.PolkitSaidYes (card.bodies library) (card.authorizedPast library past)
          id request) ∨
      ForReading library card past row) ∧
    (state.service.store.launched.map (fun row => opObjectPath row.id)).Nodup ∧
    (∀ id question path, state.service.object.questions id = some question →
      .results path ∈ question.sent →
      (∃ request, ∃ row ∈ state.service.store.launched, state.service.asked id = some request ∧
        path = opObjectPath row.id ∧ ForCall library card request row) ∧
      (∀ other another, state.service.object.questions other = some another →
        .results path ∈ another.sent → other = id) ∧
      path ∉ card.readPaths library past) ∧
    (∀ earlier reading caller path, (earlier, .read reading caller) ∈ past →
      (card.read library reading caller earlier.service.store).1 = .ok path →
      ∃ row ∈ state.service.store.launched, path = opObjectPath row.id ∧
        LaunchedByReading library card reading caller earlier.service.store row) ∧
    (card.readPaths library past).Nodup ∧
    state.service.store.charges = grantedSenders (card.commands library past) ∧
    (∀ entry ∈ state.service.store.cancelled,
      CancelledByOwner past state.service.store.launched entry) ∧
    ∀ row ∈ state.service.store.launched, ∀ managed snapshot,
      row.operation = .managePin managed snapshot → ∃ listing, snapshot = some listing ∧
        library.validatePinManageRequest managed (some listing) = .ok () := by
  intro past
  obtain ⟨serial, held, accounted, answered⟩ :=
    run_sound library lawful card start posts events state reached
  have asked : ∀ id request, .granted id request ∈ card.commands library past →
      state.service.asked id = some request := by
    obtain ⟨servicePast, serialized, history⟩ := serial
    exact fun id request granted => serialized.requests id request (history ▸ granted)
  refine ⟨?_, ?_, ?_, answered.row, answered.once, accounted.charges, accounted.cancels, ?_⟩
  · intro row member
    refine (accounted.origins row member).imp_left ?_
    rintro ⟨id, request, granted, own⟩
    obtain ⟨passed, _, saidYes⟩ := (AuthorizedService.granted_approved _ _ _ _ state serial held id
      request granted).saidYes
    exact ⟨id, request, asked id request granted, own, passed, saidYes⟩
  · have paths := accounted.distinct.map (f := opObjectPath) op_object_path_inj
    rwa [List.map_map] at paths
  · intro id question path present replied
    have produced := path_produced _ _ _ _ serial id question path present replied
    obtain ⟨request, row, member, granted, same, own⟩ := accounted.answered id path produced
    refine ⟨⟨request, row, member, asked id request granted, same, own⟩, ?_,
      answered.apart id path produced⟩
    intro other another known told
    exact accounted.once other id path
      (path_produced _ _ _ _ serial other another path known told) produced
  · intro row member managed snapshot same
    rcases accounted.origins row member with ⟨_, request, _, _, agent, prepared⟩ |
      ⟨_, reading, _, _, _, _, launched, _⟩
    · exact managed_listed lawful card request agent managed snapshot (same ▸ prepared)
    · rw [same] at launched
      cases reading <;> cases launched

/-- An agent that counts its operations and knows one credential. -/
def countingLibrary : CardLibrary Unit Nat where
  identityBit := 1
  pkiBit := 2
  pinManagementBit := 8
  identity := countedIds
  params := documentedParams
  casts := documentedCasts
  sanitizeLabel label := label
  isValidBatchDocumentCount count := decide (1 ≤ count ∧ count ≤ 12)
  kMinBatchDocuments := 1
  kMaxBatchDocuments := 12
  config _ := baselineConfig
  allow _ agent := (true, agent)
  credentialSnapshot _ agent := (some (), agent)
  validatePinManageRequest request snapshot :=
    if request.pinId = "signature" ∧ snapshot.isSome then .ok () else .error .unknownCredential
  entryErrorName
    | .unknownCredential => "UnknownCredential"
    | _ => "InvalidRequest"
  admits _ agent := .ok agent
  enqueue _ _ _ agent := agent + 1
  cancel _ agent := agent
  issued agent := agent

/-- It keeps what the agent library promises. -/
theorem counting_library_lawful : countingLibrary.Lawful where
  fresh := fun _ agent id admitted => (Except.ok.inj admitted).le
  issues := fun _ agent id _ admitted => Nat.lt_succ_of_le (Except.ok.inj admitted).ge
  allow := fun _ _ => le_refl _
  snapshot := fun _ _ => le_refl _
  cancel := fun _ _ => le_refl _
  listed := fun request => by simp [countingLibrary]

/-- A card with credentials. -/
def credentialCard : CardObject := ⟨8, "/org/librescrs/Agent/reader/1", "Reader 1", "card-1"⟩

/-- The bus hands out a descriptor of the caller's process and its user. -/
def describedClient : CallerFacts where
  credentials := some (((∅ : Credentials).insert "UnixUserID" (.uint32 1000)).insert "ProcessFD"
    (.unixFd 9))
  procStat _ := none

/-- One client changes its PIN while another lists the credentials. The other tries to cancel
the change, then the first does. -/
def cancelledChange : List (Event Nat (CardStore Unit Nat)) :=
  [.method (.call 0 (.managePin ⟨":1.7", "app"⟩ "signature" "change" []) describedClient true),
    .read .listCredentials ⟨":1.8", ""⟩, .method (.polkitReplies 0 (.checked true false)),
    .method (.dispatch 0), .method (.enter 0), .method (.runBody 0), .method (.reply 0),
    .cancel "/org/librescrs/Agent/op/1" (some ":1.8"),
    .cancel "/org/librescrs/Agent/op/1" (some ":1.7")]

/-- The change was cancelled once, by its owner, and the other client got the path of its
listing. -/
theorem change_cancelled_by_owner :
    (run (step countingLibrary credentialCard) (initially 0 true) cancelledChange).map
        (fun state => state.service.store.cancelled) = some [(1, ":1.7")] ∧
      credentialCard.readPaths countingLibrary (trace (step countingLibrary credentialCard)
        (initially 0 true) cancelledChange) = ["/org/librescrs/Agent/op/0"] ∧
      ∃ launched, CancelledByOwner (trace (step countingLibrary credentialCard) (initially 0 true)
        cancelledChange) launched (1, ":1.7") := by
  have cancelled : (run (step countingLibrary credentialCard) (initially 0 true)
      cancelledChange).map (fun state => state.service.store.cancelled) = some [(1, ":1.7")] := by
    decide +kernel
  refine ⟨cancelled, by decide +kernel, ?_⟩
  obtain ⟨state, reached, entries⟩ := Option.map_eq_some_iff.mp cancelled
  have owned := operations_authorized_and_owned countingLibrary counting_library_lawful
    credentialCard 0 true cancelledChange state reached
  exact ⟨_, owned.2.2.2.2.2.2.1 (1, ":1.7") (by rw [entries]; exact List.mem_singleton_self _)⟩

end CardObject

end LibreLinux.Agent.Card1
