import LibreLinux.Lib.Maps
import LibreLinux.Lib.NestedMaps
import LibreLinux.Pkcs11.SettledCards
import Mathlib.Data.List.ReduceOption

/-!
# What a token shows

The agent reads a card's certificates, writes them to the wire and the module
reads them back into the entries of a token. A field that the card names twice is
overwritten on the way, so the label a token shows is the last common name of the
subject.

A list that a call returns is the walk over one reply of the agent: a reader for
each reader object of the reply, in its order, with the entries of the
certificates that the call itself read from the card that reader shows. Other
calls, their reads and the signal handlers put nothing into it; a call that
serves the cache serves the list of one such walk.
-/

namespace LibreLinux.Pkcs11

open Maps (lookup_assigned)
open NestedMaps (cell cell_insert)
open Results (CertSnapshot GroupSnapshot FieldSnapshot CertificateCell certificateGroup
  buildCertificates1Wire)
open Runs
open Wire (ManagedObjects Interfaces)

variable {κ ι ε : Type}

section Certificates

/-- The fields of a card's certificate in the order it has them, each with its
group. -/
def groupedFields (groups : List GroupSnapshot) : List (String × FieldSnapshot) :=
  groups.flatMap (fun group => group.fields.map (fun field => (group.groupKey, field)))

/-- The last field under a group and a key. -/
def lastField (groups : List GroupSnapshot) (groupKey fieldKey : String) : Option FieldSnapshot :=
  ((groupedFields groups).filter
    (fun entry => entry.1 = groupKey && entry.2.fieldKey = fieldKey)).getLast?.map Prod.snd

/-- The cell a certificate's field is written to. -/
def certificateCell (field : FieldSnapshot) : CertificateCell :=
  (field.labelKey, field.labelFallback, .string field.textValue)

/-- The last field of two lists of groups is looked for in the second one first. -/
theorem last_field_append (earlier later : List GroupSnapshot) (groupKey fieldKey : String) :
    lastField (earlier ++ later) groupKey fieldKey =
      (lastField later groupKey fieldKey).or (lastField earlier groupKey fieldKey) := by
  simp only [lastField, groupedFields, List.flatMap_append, List.filter_append, List.getLast?_append,
    Option.map_or]

/-- A group's fields are seen in front of what the map had. -/
theorem cell_certificate_group (fields : Results.Certificates1FieldMap) (group : GroupSnapshot)
    (groupKey fieldKey : String) :
    cell (certificateGroup fields group) groupKey fieldKey =
      ((lastField [group] groupKey fieldKey).map certificateCell).or
        (cell fields groupKey fieldKey) := by
  rw [certificateGroup, cell_insert]
  by_cases same : groupKey = group.groupKey
  · subst same
    have begun : ((fields.lookup group.groupKey).getD ∅).lookup fieldKey =
        cell fields group.groupKey fieldKey := by
      rw [cell]
      cases fields.lookup group.groupKey <;> simp
    have assigned := lookup_assigned FieldSnapshot.fieldKey certificateCell group.fields
      ((fields.lookup group.groupKey).getD ∅) fieldKey
    rw [begun] at assigned
    rw [if_pos rfl]
    refine assigned.trans ?_
    simp [lastField, groupedFields, List.filter_map, Function.comp_def]
  · rw [if_neg same]
    have absent : lastField [group] groupKey fieldKey = none := by
      simp [lastField, groupedFields, List.filter_map, Function.comp_def, Ne.symm same]
    rw [absent]
    rfl

/-- Every cell of a certificate on the wire is the card's last field of that group
and key.

Induct over the groups from the last one, which is in front of the others. -/
theorem cell_certificate_fields (groups : List GroupSnapshot) (groupKey fieldKey : String) :
    cell (groups.foldl certificateGroup ∅) groupKey fieldKey =
      (lastField groups groupKey fieldKey).map certificateCell := by
  induction groups using List.reverseRecOn with
  | nil => simp [lastField, groupedFields]
  | append_singleton groups last inductionHypothesis =>
    rw [List.foldl_concat, cell_certificate_group, inductionHypothesis, last_field_append,
      Option.map_or]

/-- A card's certificate as the library judges it: the key's type is what the
module reads out of the word the agent writes, and the name the last common name
of the subject. -/
def cardCert (library : Library ι ε) (keyTypeToken : κ → String) (cert : CertSnapshot κ) :
    NeutralCert ι where
  certId := cert.certId
  signingCapable := cert.signingCapable
  keyUsageBits := cert.keyUsageBits
  alwaysAuthenticate := cert.alwaysAuthenticate
  keyId := cert.keyId
  keyType := library.keyTypeFromToken (keyTypeToken cert.keyType)
  keyBits := cert.keyBits
  canDerive := cert.canDerive
  subjectCn := ((lastField cert.fields "subject" "cn").map FieldSnapshot.textValue).getD ""

/-- The entries of a card's certificates, in the card's order. -/
def cardEntries (library : Library ι ε) (keyTypeToken : κ → String) (preAuth : PreReadAuth)
    (certs : List (CertSnapshot κ)) : List ε :=
  certs.filterMap (fun cert => library.certEntryFrom (cardCert library keyTypeToken cert) preAuth)

/-- The module reads the card's certificates back from the wire. -/
theorem neutral_certs_built (library : Library ι ε) (keyTypeToken : κ → String)
    (certs : List (CertSnapshot κ)) :
    (buildCertificates1Wire keyTypeToken certs).mapM (neutralCert library) =
      some (certs.map (cardCert library keyTypeToken)) := by
  induction certs with
  | nil => rfl
  | cons cert rest inductionHypothesis =>
    have named := cell_certificate_fields cert.fields "subject" "cn"
    rw [cell] at named
    rw [buildCertificates1Wire, List.map_cons, List.mapM_cons, ← buildCertificates1Wire,
      inductionHypothesis]
    cases found : lastField cert.fields "subject" "cn" with
    | none => simp [neutralCert, subjectCn, named, found, cardCert]
    | some field =>
      simp [neutralCert, subjectCn, named, found, cardCert, certificateCell, Wire.Variant.getString]

/-- A read of what the agent built gives the entries of the card's certificates. -/
theorem cert_entries_card (library : Library ι ε) (keyTypeToken : κ → String)
    (preAuth : PreReadAuth) (certs : List (CertSnapshot κ)) :
    certEntries library preAuth (buildCertificates1Wire keyTypeToken certs) =
      some (cardEntries library keyTypeToken preAuth certs) := by
  rw [certEntries, neutral_certs_built, Option.map_some, List.filterMap_map, cardEntries]
  rfl

end Certificates

/-- A read that an operation ended carries certificates the agent wrote. -/
def CacheEvent.AgentBuilt (keyTypeToken : κ → String) : CacheEvent → Prop
  | .advance _ (.ended (.finished read)) =>
    ∃ certs, read.certificates = buildCertificates1Wire keyTypeToken certs
  | _ => True

section Listings

/-- Among the steps, the call's read of the card that a reader of its reply shows
ended so. -/
def ReadEnded (past : List (SlotCache ε × CacheEvent)) (call : Nat) (managed : ManagedObjects)
    (reader : ReaderState ε) (card : String) (preAuth : PreReadAuth) (read : ReadEnd) : Prop :=
  ∃ taken ∈ past, ∃ phase walk, taken.2 = .advance call (.ended read) ∧
    taken.1.calls call = some phase ∧ Pending walk reader card preAuth phase ∧
    walk.managed = managed

/-- Among the steps, the call reached a card that was recorded as settled. -/
def FoundSettled (past : List (SlotCache ε × CacheEvent)) (call : Nat) (card : String) : Prop :=
  ∃ taken ∈ past, Reaches taken call card ∧ card ∈ taken.1.shared.settledCards

variable (library : Library ι ε) (keyTypeToken : κ → String)

/-- What a call makes of an object of its reply: nothing of one that is no reader;
a reader without a card as the reply has it; one whose card was settled, or whose
read brought no certificates, with the texts of its card alone; and one whose read
ended well with the entries of that card's certificates. -/
inductive Shown (past : List (SlotCache ε × CacheEvent)) (call : Nat) (managed : ManagedObjects)
    (object : String × Interfaces) : Option (ReaderState ε) → Prop where
  | other : visitObject (ε := ε) managed object = .other → Shown past call managed object none
  | vacant (reader : ReaderState ε) : visitObject managed object = .vacant reader →
      Shown past call managed object (some reader)
  | settled (reader : ReaderState ε) (card : String) (preAuth : PreReadAuth) :
      visitObject managed object = .occupied reader card preAuth → FoundSettled past call card →
      Shown past call managed object (some (tokenTexts library card reader))
  | unread (reader : ReaderState ε) (card : String) (preAuth : PreReadAuth) (read : ReadEnd) :
      visitObject managed object = .occupied reader card preAuth →
      ReadEnded past call managed reader card preAuth read →
      (∀ certificates, readCerts library read ≠ .read certificates) →
      Shown past call managed object (some (tokenTexts library card reader))
  | read (reader : ReaderState ε) (card : String) (preAuth : PreReadAuth) (read : CertificateRead)
      (certs : List (CertSnapshot κ)) :
      visitObject managed object = .occupied reader card preAuth →
      ReadEnded past call managed reader card preAuth (.finished read) → read.ok = true →
      read.certificates = buildCertificates1Wire keyTypeToken certs →
      Shown past call managed object (some (tokenTexts library card
        { reader with certs := cardEntries library keyTypeToken preAuth certs }))

/-- The list of a call's own enumeration: empty when the agent did not answer,
else one reader for each reader object of the reply, in its order. -/
def Listing (past : List (SlotCache ε × CacheEvent)) (call : Nat)
    (readers : List (ReaderState ε)) : Prop :=
  (.advance call (.answer none) ∈ past.map Prod.snd ∧ readers = []) ∨
  ∃ managed listed, .advance call (.answer (some managed)) ∈ past.map Prod.snd ∧
    List.Forall₂ (Shown library keyTypeToken past call managed) managed listed ∧
    readers = listed.reduceOption

/-- The call that the step stores the list of. -/
def CacheEvent.stores : CacheEvent → Option Nat
  | .advance call .store => some call
  | _ => none

/-- The call whose list was stored last. -/
def lastStore (past : List (SlotCache ε × CacheEvent)) : Option Nat :=
  (past.filterMap (fun taken => taken.2.stores)).getLast?

/-- The cached list: the empty one of the start while nothing was stored, then the list of
the enumeration that was stored last. -/
def Kept (past : List (SlotCache ε × CacheEvent)) (readers : List (ReaderState ε)) : Prop :=
  match lastStore past with
  | none => readers = []
  | some origin => Listing library keyTypeToken past origin readers

/-- A returned list: the one of the call's own enumeration, or the one that was cached when the
call served it. -/
def Returned (past : List (SlotCache ε × CacheEvent)) (call : Nat)
    (readers : List (ReaderState ε)) : Prop :=
  Listing library keyTypeToken past call readers ∨
    ∃ before state after, past = before ++ (state, .advance call .serve) :: after ∧
      Kept library keyTypeToken before readers

/-- A walk has made of the objects before the rest of its reply what they show. -/
def Walked (past : List (SlotCache ε × CacheEvent)) (call : Nat) (walk : Walk ε)
    (rest : ManagedObjects) : Prop :=
  .advance call (.answer (some walk.managed)) ∈ past.map Prod.snd ∧
    ∃ done listed, walk.managed = done ++ rest ∧
      List.Forall₂ (Shown library keyTypeToken past call walk.managed) done listed ∧
      walk.readers = listed.reduceOption

/-- What the phase of a call holds of its list. -/
def PhaseShown (past : List (SlotCache ε × CacheEvent)) (call : Nat) : Phase ε → Prop
  | .walking walk => Walked library keyTypeToken past call walk walk.todo
  | .calling walk reader card preAuth => ∃ object,
      Walked library keyTypeToken past call walk (object :: walk.todo) ∧
      visitObject walk.managed object = .occupied reader card preAuth
  | .reading walk reader card preAuth => ∃ object,
      Walked library keyTypeToken past call walk (object :: walk.todo) ∧
      visitObject walk.managed object = .occupied reader card preAuth
  | .settling walk reader card => ∃ object,
      Walked library keyTypeToken past call walk (object :: walk.todo) ∧
      Shown library keyTypeToken past call walk.managed object
        (some (tokenTexts library card reader))
  | .storing readers _ => Listing library keyTypeToken past call readers
  | .marking readers _ => Listing library keyTypeToken past call readers
  | .returned readers => Returned library keyTypeToken past call readers
  | _ => True

variable {library keyTypeToken}
variable (past : List (SlotCache ε × CacheEvent)) (taken : SlotCache ε × CacheEvent) (call : Nat)

/-- Another step changes nothing of what an object showed. -/
theorem shown_mono (managed : ManagedObjects) (object : String × Interfaces)
    (reader : Option (ReaderState ε))
    (shown : Shown library keyTypeToken past call managed object reader) :
    Shown library keyTypeToken (past ++ [taken]) call managed object reader := by
  have earlier : ∀ reader card preAuth read,
      ReadEnded past call managed reader card preAuth read →
      ReadEnded (past ++ [taken]) call managed reader card preAuth read := by
    rintro reader card preAuth read ⟨step, member, ended⟩
    exact ⟨step, List.mem_append_left _ member, ended⟩
  cases shown with
  | other found => exact .other found
  | vacant reader found => exact .vacant reader found
  | settled reader card preAuth found settled =>
    obtain ⟨step, member, reached⟩ := settled
    exact .settled reader card preAuth found ⟨step, List.mem_append_left _ member, reached⟩
  | unread reader card preAuth read found ended without =>
    exact .unread reader card preAuth read found (earlier _ _ _ _ ended) without
  | read reader card preAuth read certs found ended ok built =>
    exact .read reader card preAuth read certs found (earlier _ _ _ _ ended) ok built

/-- An event of the past stays one. -/
theorem happened_mono (event : CacheEvent) (happened : event ∈ past.map Prod.snd) :
    event ∈ (past ++ [taken]).map Prod.snd := by
  rw [List.map_append]
  exact List.mem_append_left _ happened

/-- Another step changes nothing of a list. -/
theorem listing_mono (readers : List (ReaderState ε))
    (listing : Listing library keyTypeToken past call readers) :
    Listing library keyTypeToken (past ++ [taken]) call readers := by
  rcases listing with ⟨unanswered, empty⟩ | ⟨managed, listed, answered, shown, same⟩
  · exact .inl ⟨happened_mono past taken _ unanswered, empty⟩
  · exact .inr ⟨managed, listed, happened_mono past taken _ answered,
      shown.imp (fun object reader => shown_mono past taken call managed object reader), same⟩

/-- A step that stores nothing leaves the cached list. -/
theorem kept_quiet (readers : List (ReaderState ε)) (quiet : taken.2.stores = none)
    (kept : Kept library keyTypeToken past readers) :
    Kept library keyTypeToken (past ++ [taken]) readers := by
  have same : lastStore (past ++ [taken]) = lastStore past := by simp [lastStore, quiet]
  rw [Kept, same]
  rw [Kept] at kept
  cases stored : lastStore past with
  | none =>
    rw [stored] at kept
    exact kept
  | some origin =>
    rw [stored] at kept
    exact listing_mono past taken origin readers kept

/-- A stored list is the cached one. -/
theorem kept_stored (readers : List (ReaderState ε)) (stores : taken.2.stores = some call)
    (listing : Listing library keyTypeToken past call readers) :
    Kept library keyTypeToken (past ++ [taken]) readers := by
  have last : lastStore (past ++ [taken]) = some call := by simp [lastStore, stores]
  rw [Kept, last]
  exact listing_mono past taken call readers listing

/-- Another step changes nothing of a walk. -/
theorem walked_mono (walk : Walk ε) (rest : ManagedObjects)
    (walked : Walked library keyTypeToken past call walk rest) :
    Walked library keyTypeToken (past ++ [taken]) call walk rest := by
  obtain ⟨answered, done, listed, split, shown, same⟩ := walked
  exact ⟨happened_mono past taken _ answered, done, listed, split,
    shown.imp (fun object reader => shown_mono past taken call walk.managed object reader), same⟩

/-- A step of another thread leaves what a call holds. -/
theorem phase_shown_mono (phase : Phase ε) (holds : PhaseShown library keyTypeToken past call phase) :
    PhaseShown library keyTypeToken (past ++ [taken]) call phase := by
  cases phase with
  | walking walk => exact walked_mono past taken call walk walk.todo holds
  | calling walk reader card preAuth =>
    obtain ⟨object, walked, found⟩ := holds
    exact ⟨object, walked_mono past taken call walk _ walked, found⟩
  | reading walk reader card preAuth =>
    obtain ⟨object, walked, found⟩ := holds
    exact ⟨object, walked_mono past taken call walk _ walked, found⟩
  | settling walk reader card =>
    obtain ⟨object, walked, shown⟩ := holds
    exact ⟨object, walked_mono past taken call walk _ walked,
      shown_mono past taken call walk.managed object _ shown⟩
  | storing readers complete => exact listing_mono past taken call readers holds
  | marking readers complete => exact listing_mono past taken call readers holds
  | returned readers =>
    rcases holds with listing | ⟨before, state, after, rfl, kept⟩
    · exact .inl (listing_mono past taken call readers listing)
    · exact .inr ⟨before, state, after ++ [taken], by simp, kept⟩
  | _ => trivial

/-- A walk that has made what it shows of one more object. -/
theorem walked_next (walk : Walk ε) (object : String × Interfaces) (rest : ManagedObjects)
    (reader : Option (ReaderState ε)) (after : Walk ε)
    (walked : Walked library keyTypeToken past call walk (object :: rest))
    (shown : Shown library keyTypeToken past call walk.managed object reader)
    (managed : after.managed = walk.managed)
    (readers : after.readers = walk.readers ++ reader.toList) :
    Walked library keyTypeToken past call after rest := by
  obtain ⟨answered, done, listed, split, before, same⟩ := walked
  refine ⟨managed ▸ answered, done ++ [object], listed ++ [reader], ?_, ?_, ?_⟩
  · rw [managed, split, List.append_assoc, List.singleton_append]
  · rw [managed]
    exact List.rel_append before (.cons shown .nil)
  · rw [readers, same, List.reduceOption_append, List.reduceOption_singleton]

/-- What a visit leads to. -/
theorem phase_shown_visit (state : SlotCache ε) (walk : Walk ε) (after : Phase ε)
    (current : state.calls call = some (.walking walk))
    (holds : Walked library keyTypeToken (past ++ [(state, .advance call .visit)]) call walk walk.todo)
    (visit : Visited state.shared walk after) :
    PhaseShown library keyTypeToken (past ++ [(state, .advance call .visit)]) call after := by
  cases visit with
  | finished todo =>
    obtain ⟨answered, done, listed, split, shown, same⟩ := holds
    rw [todo, List.append_nil] at split
    exact .inr ⟨walk.managed, listed, answered, split ▸ shown, same⟩
  | other object rest todo found =>
    rw [todo] at holds
    exact walked_next _ call walk object rest none _ holds (.other found) rfl (by simp)
  | mistyped object rest todo found => trivial
  | vacant object rest reader todo found =>
    rw [todo] at holds
    exact walked_next _ call walk object rest (some reader) _ holds (.vacant reader found) rfl rfl
  | known object rest reader card preAuth todo found settled =>
    have reached : Reaches (state, .advance call .visit) call card :=
      ⟨rfl, walk, object, rest, reader, preAuth, current, todo, found⟩
    rw [todo] at holds
    exact ⟨object, holds, .settled reader card preAuth found ⟨_, by simp, reached, settled⟩⟩
  | asked object rest reader card preAuth todo found fresh =>
    rw [todo] at holds
    exact ⟨object, holds, found⟩

/-- Certificates come from an operation that ended well. -/
theorem read_finished (library : Library ι ε) (read : ReadEnd)
    (certificates : List Results.Certificates1CertTuple)
    (outcome : readCerts library read = .read certificates) :
    ∃ finished, read = .finished finished ∧ finished.ok = true ∧
      finished.certificates = certificates := by
  unfold readCerts at outcome
  split at outcome
  case h_1 finished =>
    split_ifs at outcome with ok
    cases outcome
    exact ⟨finished, rfl, ok, rfl⟩
  case h_2 => split_ifs at outcome
  case h_3 => cases outcome

/-- What the end of a read leads to. -/
theorem phase_shown_ended (state : SlotCache ε) (walk : Walk ε) (reader : ReaderState ε)
    (card : String) (preAuth : PreReadAuth) (read : ReadEnd) (phase : Phase ε)
    (object : String × Interfaces) (current : state.calls call = some phase)
    (pending : Pending walk reader card preAuth phase)
    (built : (CacheEvent.advance call (.ended read)).AgentBuilt keyTypeToken)
    (walked : Walked library keyTypeToken (past ++ [(state, .advance call (.ended read))]) call walk
      (object :: walk.todo))
    (found : visitObject walk.managed object = .occupied reader card preAuth) :
    PhaseShown library keyTypeToken (past ++ [(state, .advance call (.ended read))]) call
      (afterRead library walk reader card preAuth (readCerts library read)) := by
  have ended : ReadEnded (past ++ [(state, .advance call (.ended read))]) call walk.managed reader
      card preAuth read :=
    ⟨(state, .advance call (.ended read)), by simp, phase, walk, rfl, current, pending, rfl⟩
  cases outcome : readCerts library read with
  | askAgain =>
    have shown : Shown library keyTypeToken _ call walk.managed object
        (some (tokenTexts library card reader)) :=
      .unread reader card preAuth read found ended (by simp [outcome])
    exact walked_next _ call walk object walk.todo _ _ walked shown rfl rfl
  | settled =>
    exact ⟨object, walked, .unread reader card preAuth read found ended (by simp [outcome])⟩
  | read certificates =>
    obtain ⟨finished, rfl, ok, rfl⟩ := read_finished library read certificates outcome
    obtain ⟨certs, wire⟩ := built
    have shown : Shown library keyTypeToken _ call walk.managed object (some (tokenTexts library card
        { reader with certs := cardEntries library keyTypeToken preAuth certs })) :=
      .read reader card preAuth finished certs found ended ok wire
    simp only [afterRead, wire, cert_entries_card]
    exact walked_next _ call walk object walk.todo _ _ walked shown rfl rfl

/-- What a step of the call leads to. -/
theorem phase_shown_advanced (state : SlotCache ε) (shared : Shared ε) (phase after : Phase ε)
    (input : Input) (current : state.calls call = some phase)
    (built : (CacheEvent.advance call input).AgentBuilt keyTypeToken)
    (kept : Kept library keyTypeToken past state.shared.cached)
    (holds : PhaseShown library keyTypeToken past call phase)
    (stepped : Advanced library state.shared phase input shared after) :
    PhaseShown library keyTypeToken (past ++ [(state, .advance call input)]) call after := by
  have later := phase_shown_mono past (state, .advance call input) call phase holds
  cases stepped with
  | exchange => split_ifs <;> trivial
  | serve => exact .inr ⟨past, state, [], rfl, kept⟩
  | begin => trivial
  | refused generation => exact .inl ⟨by simp, rfl⟩
  | answered generation managed => exact ⟨by simp, [], [], rfl, .nil, rfl⟩
  | visit walk after visit => exact phase_shown_visit past call state walk after current later visit
  | accept walk reader card preAuth => exact later
  | ended walk reader card preAuth read phase pending =>
    obtain ⟨object, walked, found⟩ : ∃ object,
        Walked library keyTypeToken (past ++ [(state, .advance call (.ended read))]) call walk
          (object :: walk.todo) ∧
        visitObject walk.managed object = .occupied reader card preAuth := by
      cases pending <;> exact later
    exact phase_shown_ended past call state walk reader card preAuth read phase object current
      pending built walked found
  | settle walk reader card =>
    obtain ⟨object, walked, shown⟩ := later
    exact walked_next _ call walk object walk.todo _ _ walked shown rfl rfl
  | store readers complete => exact later
  | mark readers complete => exact .inl later

end Listings

/-- What a run holds of its lists: of each call's and of the cached one. -/
structure Contents (library : Library ι ε) (keyTypeToken : κ → String)
    (past : List (SlotCache ε × CacheEvent)) (state : SlotCache ε) : Prop where
  calls : ∀ call phase, state.calls call = some phase →
    PhaseShown library keyTypeToken past call phase
  cached : Kept library keyTypeToken past state.shared.cached

/-- The cached list changes by a store only. -/
theorem cached_step (library : Library ι ε) (state next : SlotCache ε) (event : CacheEvent)
    (stepped : SlotCache.step library state event = some next) :
    (event.stores = none ∧ next.shared.cached = state.shared.cached) ∨
      ∃ call complete, event.stores = some call ∧
        state.calls call = some (.storing next.shared.cached complete) := by
  cases event with
  | enter call =>
    simp only [SlotCache.step] at stepped
    split_ifs at stepped
    cases stepped
    exact .inl ⟨rfl, rfl⟩
  | advance call input =>
    simp only [SlotCache.step, Option.bind_eq_some_iff, Option.map_eq_some_iff] at stepped
    obtain ⟨phase, current, ⟨shared, after⟩, advance, rfl⟩ := stepped
    cases advanced library _ _ _ _ _ advance with
    | store readers complete => exact .inr ⟨call, complete, rfl, current⟩
    | settle walk reader card =>
      refine .inl ⟨rfl, ?_⟩
      simp only [settleCard]
      split_ifs <;> rfl
    | _ => exact .inl ⟨rfl, rfl⟩
  | forgetSettled =>
    simp only [SlotCache.step] at stepped
    split_ifs at stepped
    cases stepped
    exact .inl ⟨rfl, rfl⟩
  | invalidate =>
    simp only [SlotCache.step] at stepped
    split_ifs at stepped
    cases stepped
    exact .inl ⟨rfl, rfl⟩

/-- Every step keeps where the lists come from. -/
theorem contents_step (library : Library ι ε) (keyTypeToken : κ → String)
    (past : List (SlotCache ε × CacheEvent)) (state : SlotCache ε) (event : CacheEvent)
    (next : SlotCache ε) (contents : Contents library keyTypeToken past state)
    (built : event.AgentBuilt keyTypeToken)
    (stepped : SlotCache.step library state event = some next) :
    Contents library keyTypeToken (past ++ [(state, event)]) next := by
  constructor
  · intro call phase found
    rcases call_moved library state next event call phase stepped found with ⟨unmoved, -⟩ |
      ⟨-, rfl⟩ | ⟨input, earlier, rfl, current, advance⟩
    · exact phase_shown_mono past _ call phase (contents.calls call phase unmoved)
    · trivial
    · exact phase_shown_advanced past call state next.shared earlier phase input current built
        contents.cached (contents.calls call earlier current) advance
  · rcases cached_step library state next event stepped with ⟨quiet, same⟩ |
      ⟨call, complete, stores, storing⟩
    · rw [same]
      exact kept_quiet past (state, event) _ quiet contents.cached
    · exact kept_stored past (state, event) call _ stores (contents.calls call _ storing)

/-- What tokens show, over every run of any number of calls and signal handlers
against an agent. The list of an enumeration has for each reader object of one reply
the reader as the reply has it, with the texts of the card it shows and with the
entries of the certificates that the call walking over that reply read from that card,
in the card's order and labelled as the card is; it is empty when the agent did not
answer. The cached list is empty until a list is stored, and then the list stored last.
A call returns the list of its own enumeration, or the one that was cached when it
served.

Proof: a phase of a call holds what the walk has made of the objects before the rest of
its reply, and every step keeps it. -/
theorem token_contents (library : Library ι ε) (keyTypeToken : κ → String)
    (events : List CacheEvent) (state : SlotCache ε)
    (built : ∀ event ∈ events, CacheEvent.AgentBuilt keyTypeToken event)
    (reached : run (SlotCache.step library) {} events = some state) :
    (∀ call readers, state.calls call = some (.returned readers) →
      Returned library keyTypeToken (trace (SlotCache.step library) {} events) call readers) ∧
    Kept library keyTypeToken (trace (SlotCache.step library) {} events) state.shared.cached := by
  have written : ∀ taken ∈ trace (SlotCache.step library) {} events,
      CacheEvent.AgentBuilt keyTypeToken taken.2 := by
    intro taken member
    apply built
    rw [← trace_events (SlotCache.step library) events {} state reached]
    exact List.mem_map_of_mem member
  have contents : Contents library keyTypeToken (trace (SlotCache.step library) {} events) state := by
    refine trace_invariant (SlotCache.step library)
      (fun past state => (∀ taken ∈ past, CacheEvent.AgentBuilt keyTypeToken taken.2) →
        Contents library keyTypeToken past state) ?_ events {} state ?_ reached written
    · intro past before event next holds stepped each
      have earlier := holds (fun taken member => each taken (List.mem_append_left _ member))
      exact contents_step library keyTypeToken past before event next earlier
        (each (before, event) (by simp)) stepped
    · intro _
      exact ⟨by simp, rfl⟩
  exact ⟨fun call readers found => contents.calls call _ found, contents.cached⟩

/-- A library that shows a certificate by its common name. -/
def namingLibrary : Library String String where
  keyTypeFromToken := id
  certEntryFrom cert _ := some cert.subjectCn
  tokenLabelFor certs readerName := certs.headD readerName
  tokenSerialFor := id
  cardRemoved := 1
  communicationError := 2
  watchdogTimeout := 3
  rateLimited := 4

/-- A certificate whose subject names itself twice. -/
def renamedCert : CertSnapshot String where
  certId := "cert-1"
  signingCapable := true
  fields := [⟨"subject", [⟨"cn", "", "", .text, "Ana", []⟩, ⟨"cn", "", "", .text, "Ana Anić", []⟩]⟩]
  keyUsageBits := 0
  ekuOids := []
  chainSubjectCns := []
  trustStatus := 0
  alwaysAuthenticate := false
  keyId := []
  keyType := "rsa"
  keyBits := 2048
  canDerive := false

/-- A call reads the card, while a second one serves the list of the start. -/
def overlappingCalls : List CacheEvent :=
  [.enter 0, .advance 0 .exchange, .advance 0 .begin, .advance 0 (.answer (some occupiedReader)),
    .advance 0 .visit, .advance 0 .accept, .enter 1, .advance 1 .exchange, .advance 1 .serve,
    .advance 0 (.ended (.finished
      { status := 0, certificates := buildCertificates1Wire id [renamedCert] })),
    .advance 0 .visit, .advance 0 .store, .advance 0 .mark]

/-- The token has the last name, and the list that has it is the call's own. -/
theorem renamed_token_shown :
    ∃ state readers, run (SlotCache.step namingLibrary) {} overlappingCalls = some state ∧
      state.calls 0 = some (.returned readers) ∧
      readers.map (fun reader => (reader.certs, reader.tokenLabel, reader.tokenSerial)) =
        [(["Ana Anić"], "Ana Anić", "/org/librescrs/Agent/card/2")] ∧
      Returned namingLibrary id (trace (SlotCache.step namingLibrary) {} overlappingCalls) 0
        readers := by
  have completes : (run (SlotCache.step namingLibrary) {} overlappingCalls).isSome = true := by
    decide +kernel
  have built : ∀ event ∈ overlappingCalls, CacheEvent.AgentBuilt (id : String → String) event := by
    simp only [overlappingCalls, List.forall_mem_cons, CacheEvent.AgentBuilt, true_and]
    exact ⟨⟨[renamedCert], rfl⟩, by simp⟩
  have contents := token_contents namingLibrary id overlappingCalls _ built
    (Option.some_get completes).symm
  refine ⟨_, _, (Option.some_get completes).symm, rfl, ?_, contents.1 0 _ rfl⟩
  decide +kernel

end LibreLinux.Pkcs11
