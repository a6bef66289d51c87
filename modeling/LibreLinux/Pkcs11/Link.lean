import LibreLinux.Agent.ObjectTree
import LibreLinux.Pkcs11.Enumerate

/-!
# The agent and the module on one bus

The agent's object tree and a client with one thread, linked by a bus that
delivers object-manager signals in order and as late as it likes.
`GetManagedObjects` is answered from the tree at that moment; a certificate read
of a card that is not served fails. The agent's replies have the types the agent
writes, so no call throws.
-/

namespace LibreLinux.Pkcs11

open Agent (ObjectTree ObjectContent TreeEvent TreeSignal)
open Wire (ManagedObjects kReaderIface kCardIface)
open Results (CertSnapshot GroupSnapshot FieldSnapshot CertificateCell Certificates1CertTuple
  Certificates1FieldMap certificateGroup buildCertificates1Wire)

/-- The agent, the signals on their way, and the client. The last fields record the count of
handled signals, now and when the enumeration under way began. -/
structure Link (ε : Type) where
  tree : ObjectTree := {}
  signals : List TreeSignal := []
  forgotten : Bool := false
  shared : Shared ε := {}
  call : Option (Phase ε) := none
  handled : Nat := 0
  begunCount : Nat := 0

/-- A step of the client's thread, with what the agent has to say. -/
inductive ClientStep (κ : Type) where
  | exchange
  | serve
  | begin
  | answer (served : Bool)
  | visit
  | accept
  | refuse (errorName : String)
  | fail
  | finish (timedOut : Bool) (status errorCode : UInt32) (certs : List (CertSnapshot κ))
  | settle
  | store
  | mark

/-- A step of the agent, of the client's thread, or of its signal handlers. -/
inductive LinkEvent (κ : Type) where
  | agent (event : TreeEvent)
  | enter
  | client (step : ClientStep κ)
  | forgetSettled
  | invalidate

/-- Whether the call under way asks a card that the tree does not serve. -/
def Phase.asksUnserved {ε : Type} (tree : ObjectTree) : Phase ε → Bool
  | .calling _ _ card _ => !tree.serves card
  | _ => false

/-- The input of a client's step: the agent answers from its tree, a card that is
not served can neither accept a read nor refuse it as its own, and certificates
have the wire shape the agent builds. -/
def ClientStep.input {κ ε : Type} (keyTypeToken : κ → String) (tree : ObjectTree)
    (phase : Phase ε) : ClientStep κ → Option Input
  | .exchange => some .exchange
  | .serve => some .serve
  | .begin => some .begin
  | .answer served => some (.answer (if served then some tree.managedObjects else none))
  | .visit => some .visit
  | .accept => if phase.asksUnserved tree then none else some .accept
  | .refuse errorName =>
    if phase.asksUnserved tree && refusalSettles errorName then none
    else some (.ended (.error errorName))
  | .fail => some (.ended .exception)
  | .finish timedOut status errorCode certs =>
    some (.ended (.finished
      { timedOut, status, errorCode, certificates := buildCertificates1Wire keyTypeToken certs }))
  | .settle => some .settle
  | .store => some .store
  | .mark => some .mark

namespace Link

variable {κ ι ε : Type}

/-- What a call's step leaves on record. -/
def record (link : Link ε) : Input → Link ε
  | .begin => { link with begunCount := link.handled }
  | _ => link

/-- The record touches neither the agent nor what is kept. -/
@[simp] theorem record_tree (link : Link ε) (input : Input) : (link.record input).tree = link.tree := by
  cases input <;> rfl

@[simp] theorem record_handled (link : Link ε) (input : Input) :
    (link.record input).handled = link.handled := by
  cases input <;> rfl

/-- One step. The client's thread makes one call at a time, and a handler takes
the oldest signal. -/
def step (library : Library ι ε) (keyTypeToken : κ → String) (link : Link ε) :
    LinkEvent κ → Option (Link ε)
  | .agent event =>
    (link.tree.step event).map (fun result =>
      { link with tree := result.1, signals := link.signals ++ result.2 })
  | .enter =>
    match link.call with
    | none => some { link with call := some .entered }
    | some (.returned _) => some { link with call := some .entered }
    | some _ => none
  | .client step =>
    link.call.bind (fun phase =>
      (step.input keyTypeToken link.tree phase).bind (fun input =>
        (advance library link.shared phase input).map (fun result =>
          { link.record input with shared := result.1, call := some result.2 })))
  | .forgetSettled =>
    match link.signals with
    | [] => none
    | _ :: rest =>
      if link.forgotten then none
      else some { link with
        signals := rest, shared := Pkcs11.forgetSettled link.shared, forgotten := true
        handled := link.handled + 1 }
  | .invalidate =>
    if link.forgotten then
      some { link with shared := Pkcs11.invalidate link.shared, forgotten := false }
    else none

/-- What a step can do, and when. -/
theorem step_cases (library : Library ι ε) (keyTypeToken : κ → String) (link : Link ε)
    (event : LinkEvent κ) (next : Link ε) (stepped : step library keyTypeToken link event = some next) :
    (∃ performed tree signals, event = .agent performed ∧
      link.tree.step performed = some (tree, signals) ∧
      next = { link with tree, signals := link.signals ++ signals }) ∨
    (event = .enter ∧ (link.call = none ∨ ∃ readers, link.call = some (.returned readers)) ∧
      next = { link with call := some .entered }) ∨
    (∃ made phase input shared after, event = .client made ∧ link.call = some phase ∧
      made.input keyTypeToken link.tree phase = some input ∧
      advance library link.shared phase input = some (shared, after) ∧
      next = { link.record input with shared, call := some after }) ∨
    (∃ signal rest, event = .forgetSettled ∧ link.signals = signal :: rest ∧ link.forgotten = false ∧
      next = { link with
        signals := rest, shared := Pkcs11.forgetSettled link.shared, forgotten := true
        handled := link.handled + 1 }) ∨
    event = .invalidate ∧ link.forgotten = true ∧
      next = { link with shared := Pkcs11.invalidate link.shared, forgotten := false } := by
  cases event with
  | agent performed =>
    simp only [step, Option.map_eq_some_iff] at stepped
    obtain ⟨⟨tree, signals⟩, result, rfl⟩ := stepped
    exact .inl ⟨performed, tree, signals, rfl, result, rfl⟩
  | enter =>
    refine .inr (.inl ?_)
    simp only [step] at stepped
    split at stepped
    case h_1 idle => exact ⟨rfl, .inl idle, (Option.some.inj stepped).symm⟩
    case h_2 readers returned =>
      exact ⟨rfl, .inr ⟨readers, returned⟩, (Option.some.inj stepped).symm⟩
    case h_3 => cases stepped
  | client made =>
    simp only [step, Option.bind_eq_some_iff, Option.map_eq_some_iff] at stepped
    obtain ⟨phase, current, input, inputs, ⟨shared, after⟩, advanced, rfl⟩ := stepped
    exact .inr (.inr (.inl ⟨made, phase, input, shared, after, rfl, current, inputs, advanced, rfl⟩))
  | forgetSettled =>
    simp only [step] at stepped
    split at stepped
    case h_1 => cases stepped
    case h_2 signal rest waiting =>
      split_ifs at stepped with busy
      exact .inr (.inr (.inr (.inl ⟨signal, rest, rfl, waiting, by simpa using busy,
        (Option.some.inj stepped).symm⟩)))
  | invalidate =>
    simp only [step] at stepped
    split_ifs at stepped with begun
    exact .inr (.inr (.inr (.inr ⟨rfl, begun, (Option.some.inj stepped).symm⟩)))

end Link

section Replies

variable {ε : Type}

/-- A card object is not a reader. -/
theorem visit_card (managed : ManagedObjects) (path owner method : String) :
    visitObject managed (path, (ObjectContent.card owner method).interfaces) =
      (.other : Visit ε) := by
  have absent : (ObjectContent.card owner method).interfaces.lookup kReaderIface = none := by
    rw [Finmap.lookup_eq_none, ObjectContent.interfaces, Finmap.mem_singleton]
    decide
  simp only [visitObject, absent]

/-- A reader object is visited with the properties the agent writes. -/
theorem visit_reader (managed : ManagedObjects) (path name : String) (card : Option String) :
    visitObject managed (path, (ObjectContent.reader name card).interfaces) =
      if card.isSome && card.getD "/" != "" then
        (.occupied { readerPath := path, readerName := name, hasCard := card.isSome }
          (card.getD "/") (preReadAuthFromToken (preReadToken managed (card.getD "/"))) : Visit ε)
      else .vacant { readerPath := path, readerName := name, hasCard := card.isSome } := by
  have hasCard : "HasCard" ≠ "Card" := by decide
  have label : "Name" ≠ "Card" ∧ "Name" ≠ "HasCard" := by decide
  simp only [visitObject, ObjectContent.interfaces, Finmap.lookup_singleton_eq, readProperty,
    Finmap.lookup_insert, Finmap.lookup_insert_of_ne _ hasCard, Finmap.lookup_insert_of_ne _ label.1,
    Finmap.lookup_insert_of_ne _ label.2, Wire.Variant.getBool, Wire.Variant.getObjectPath,
    Wire.Variant.getString, Option.getD_some]

/-- A reader that shows no card. -/
theorem visit_vacant (managed : ManagedObjects) (path name : String) :
    visitObject managed (path, (ObjectContent.reader name none).interfaces) =
      (.vacant { readerPath := path, readerName := name } : Visit ε) := by
  rw [visit_reader]
  rfl

/-- A reader that shows a card. -/
theorem visit_occupied (managed : ManagedObjects) (path name card : String) (nonempty : card ≠ "") :
    visitObject managed (path, (ObjectContent.reader name (some card)).interfaces) =
      (.occupied { readerPath := path, readerName := name, hasCard := true } card
        (preReadAuthFromToken (preReadToken managed card)) : Visit ε) := by
  simp [visit_reader, nonempty]

end Replies

section Certificates

variable {κ ι ε : Type}

/-- Every value of a group is a string. -/
def StringGroup (group : Finmap (fun _ : String => CertificateCell)) : Prop :=
  ∀ key cell, group.lookup key = some cell → cell.2.2.getString.isSome = true

/-- Every value of every group is a string. -/
def StringFields (fields : Certificates1FieldMap) : Prop :=
  ∀ key group, fields.lookup key = some group → StringGroup group

/-- Storing a group's fields stores strings. -/
theorem string_group_fold (fields : List FieldSnapshot)
    (group : Finmap (fun _ : String => CertificateCell)) (strings : StringGroup group) :
    StringGroup (fields.foldl (fun map field =>
      map.insert field.fieldKey (field.labelKey, field.labelFallback, .string field.textValue))
      group) := by
  induction fields generalizing group with
  | nil => exact strings
  | cons field rest inductionHypothesis =>
    apply inductionHypothesis
    intro key cell found
    by_cases same : key = field.fieldKey
    · subst same
      rw [Finmap.lookup_insert] at found
      cases found
      rfl
    · rw [Finmap.lookup_insert_of_ne _ same] at found
      exact strings key cell found

/-- A certificate's groups hold strings.

Induct over the groups: a group continues the map an earlier one of its key
began. -/
theorem string_fields_fold (groups : List GroupSnapshot) (fields : Certificates1FieldMap)
    (strings : StringFields fields) : StringFields (groups.foldl certificateGroup fields) := by
  induction groups generalizing fields with
  | nil => exact strings
  | cons group rest inductionHypothesis =>
    apply inductionHypothesis
    intro key map found
    by_cases same : key = group.groupKey
    · subst same
      rw [certificateGroup, Finmap.lookup_insert] at found
      cases found
      apply string_group_fold group.fields
      cases begun : fields.lookup group.groupKey with
      | none =>
        intro key cell stored
        simp at stored
      | some earlier => exact strings group.groupKey earlier begun
    · rw [certificateGroup, Finmap.lookup_insert_of_ne _ same] at found
      exact strings key map found

/-- The common name of a certificate the agent built can be read. -/
theorem subject_cn_built (keyTypeToken : κ → String) (certs : List (CertSnapshot κ))
    (cert : Certificates1CertTuple) (member : cert ∈ buildCertificates1Wire keyTypeToken certs) :
    (subjectCn cert).isSome = true := by
  simp only [buildCertificates1Wire, List.mem_map] at member
  obtain ⟨source, -, rfl⟩ := member
  have strings : StringFields (source.fields.foldl certificateGroup ∅) :=
    string_fields_fold source.fields ∅ (fun key group found => by simp at found)
  simp only [subjectCn]
  cases found : ((source.fields.foldl certificateGroup ∅).lookup "subject").bind
      (fun group => group.lookup "cn") with
  | none => rfl
  | some cell =>
    obtain ⟨group, stored, present⟩ := Option.bind_eq_some_iff.mp found
    exact strings "subject" group stored "cn" cell present

/-- Certificates whose common names can be read have neutral forms. -/
theorem neutral_certs_exist (library : Library ι ε) (certs : List Certificates1CertTuple)
    (typed : ∀ cert ∈ certs, (subjectCn cert).isSome = true) :
    ∃ neutral, certs.mapM (neutralCert library) = some neutral := by
  induction certs with
  | nil => exact ⟨[], rfl⟩
  | cons cert rest inductionHypothesis =>
    obtain ⟨name, found⟩ := Option.isSome_iff_exists.mp (typed cert List.mem_cons_self)
    obtain ⟨first, known⟩ : ∃ first, neutralCert library cert = some first :=
      ⟨_, by rw [neutralCert, found]; rfl⟩
    obtain ⟨neutral, mapped⟩ := inductionHypothesis
      (fun other member => typed other (List.mem_cons_of_mem _ member))
    exact ⟨first :: neutral, by simp [List.mapM_cons, known, mapped]⟩

/-- The certificates the agent built have entries, so a read of them does not
throw. -/
theorem cert_entries_built (library : Library ι ε) (keyTypeToken : κ → String)
    (preAuth : PreReadAuth) (certs : List (CertSnapshot κ)) :
    ∃ entries, certEntries library preAuth (buildCertificates1Wire keyTypeToken certs) =
      some entries := by
  obtain ⟨neutral, mapped⟩ :=
    neutral_certs_exist library _ (subject_cn_built keyTypeToken certs)
  exact ⟨_, by rw [certEntries, mapped]; rfl⟩

end Certificates

end LibreLinux.Pkcs11
