import LibreLinux.Agent.BusExporter

/-!
# The two copies of the presence agree

What the deltas say of a reader does not depend on paths or maps: the reader is
there from its publication to its withdrawal, under the name it was published with,
with the card of its publication or of the last change of its properties. A label
says nothing about the card. The exporter's map and the exported objects both show
exactly this for every reader, and every lookup by a client's string follows from it.

The maps are keyed by paths, and a path belongs to one id, so a delta of one reader
leaves the others alone. An object is emplaced where an entry is assigned; the two
differ only for an id that is published while it is in use.
-/

namespace LibreLinux.Agent

open Maps

/-- What the deltas say of a reader that is there. -/
structure Shown where
  name : String
  hasCard : Bool
  card : UInt64

section Agreement

variable {ι : Type} (library : Identity) (readerInterfaceToken : ι → String)

/-- What one delta says of a reader. -/
def shownAfter (id : UInt64) (shown : Option Shown) : Delta ι → Option Shown
  | .publishReader reader =>
    if reader.id = id then some ⟨reader.name, reader.hasCard, reader.card⟩ else shown
  | .publishCard _ _ => shown
  | .updateProperties reader delta =>
    if reader = id then shown.map (fun old => ⟨old.name, delta.hasCard, delta.card⟩) else shown
  | .relabelReader _ => shown
  | .withdraw gone => if gone = id then none else shown

/-- What a sequence of deltas says of a reader; nothing when the reader is not there. -/
def latest (deltas : List (Delta ι)) (id : UInt64) : Option Shown :=
  deltas.foldl (shownAfter id) none

/-- Whether the reader holds a valid card. -/
def Shown.holdsCard (shown : Shown) : Bool := shown.hasCard && library.valid shown.card

/-- The entry that shows a reader. -/
def Shown.entry (shown : Shown) : PresenceEntry :=
  { name := shown.name, hasCard := shown.hasCard, cardPath := cardPathOf library shown.card }

/-- The card a roster pairs with the reader. -/
def Shown.cardKey (shown : Shown) : String :=
  if shown.holdsCard library then agentObjectPath "card" shown.card else ""

/-- Both copies show what is said of every reader, and the exporter's map holds
nothing but readers. -/
structure Agrees (shown : UInt64 → Option Shown) (bus : Bus) : Prop where
  entries : ∀ id, bus.presence.lookup (agentObjectPath "reader" id) =
    (shown id).map (Shown.entry library)
  objects : ∀ id, (bus.readers.lookup (agentObjectPath "reader" id)).map ReaderObject.snapshot =
    (shown id).map (Shown.entry library)
  keys : ∀ path entry, bus.presence.lookup path = some entry →
    ∃ id, path = agentObjectPath "reader" id

variable {library} {shown : UInt64 → Option Shown} {bus : Bus}

/-- Paths of different readers are different keys. -/
theorem reader_path_ne (id other : UInt64) (different : other ≠ id) :
    agentObjectPath "reader" other ≠ agentObjectPath "reader" id :=
  fun same => different (agent_object_path_inj "reader" other id same)

/-- A published reader is shown by both copies when its id was not in use. -/
theorem agrees_publish_reader (agrees : Agrees library shown bus) (reader : ReaderState ι)
    (fresh : shown reader.id = none) :
    Agrees library (fun id => shownAfter id (shown id) (.publishReader reader))
      (bus.publishReader library readerInterfaceToken reader) := by
  have untaken : bus.readers.lookup (agentObjectPath "reader" reader.id) = none := by
    have objects := agrees.objects reader.id
    rw [fresh] at objects
    exact Option.map_eq_none_iff.mp objects
  constructor
  · intro id
    by_cases same : reader.id = id
    · subst same
      simp [Bus.publishReader, Bus.materializeReader, shownAfter, Shown.entry]
    · simp only [shownAfter, if_neg same, ← agrees.entries id]
      exact Finmap.lookup_insert_of_ne _ (reader_path_ne reader.id id (Ne.symm same))
  · intro id
    simp only [Bus.publishReader, Bus.materializeReader, lookup_emplace]
    by_cases same : reader.id = id
    · subst same
      simp [untaken, shownAfter, Shown.entry, ReaderObject.snapshot]
    · rw [if_neg (reader_path_ne reader.id id (Ne.symm same))]
      simpa only [shownAfter, if_neg same] using agrees.objects id
  · intro path entry found
    by_cases same : path = agentObjectPath "reader" reader.id
    · exact ⟨reader.id, same⟩
    · exact agrees.keys path entry (Finmap.lookup_insert_of_ne _ same ▸ found)

/-- A changed card is shown by both copies, and an unknown reader is passed over by
both. -/
theorem agrees_update_properties (agrees : Agrees library shown bus) (reader : UInt64)
    (delta : PropertyDelta) :
    Agrees library (fun id => shownAfter id (shown id) (.updateProperties reader delta : Delta ι))
      (bus.updateProperties library reader delta) := by
  constructor
  · intro id
    simp only [Bus.updateProperties, Bus.presence_update_reader, Bus.lookup_set_card]
    by_cases same : reader = id
    · subst same
      simp only [if_true, shownAfter, agrees.entries reader, Option.map_map]
      rfl
    · rw [if_neg (reader_path_ne reader id (Ne.symm same))]
      simpa only [shownAfter, if_neg same] using agrees.entries id
  · intro id
    simp only [Bus.updateProperties, Bus.lookup_update_reader, Bus.readers_set_card]
    by_cases same : reader = id
    · subst same
      have objects := agrees.objects reader
      simp only [if_true, shownAfter, Option.map_map]
      cases found : bus.readers.lookup (agentObjectPath "reader" reader) with
      | none =>
        rw [found, Option.map_none, eq_comm, Option.map_eq_none_iff] at objects
        simp [objects]
      | some object =>
        rw [found, Option.map_some, eq_comm, Option.map_eq_some_iff] at objects
        obtain ⟨old, said, snapshot⟩ := objects
        have name : object.name = old.name := (congrArg PresenceEntry.name snapshot).symm
        simp [said, name, Shown.entry]
    · rw [if_neg (reader_path_ne reader id (Ne.symm same))]
      simpa only [shownAfter, if_neg same] using agrees.objects id
  · intro path entry found
    simp only [Bus.updateProperties, Bus.presence_update_reader, Bus.lookup_set_card] at found
    split_ifs at found with same
    · exact ⟨reader, same⟩
    · exact agrees.keys path entry found

/-- A label changes nothing that is shown. -/
theorem agrees_relabel_reader (agrees : Agrees library shown bus) (reader : ReaderState ι) :
    Agrees library shown (bus.relabelReader readerInterfaceToken reader) := by
  constructor
  · simpa only [Bus.relabelReader, Bus.presence_update_reader] using agrees.entries
  · intro id
    simp only [Bus.relabelReader, Bus.lookup_update_reader, ← agrees.objects id]
    split_ifs with same
    · rw [same, Option.map_map]
      apply Option.map_congr
      intro object _
      exact ReaderObject.snapshot_update_label object _ _
    · rfl
  · simpa only [Bus.relabelReader, Bus.presence_update_reader] using agrees.keys

/-- A withdrawn reader is shown by neither copy; a withdrawn card is no key. -/
theorem agrees_withdraw (agrees : Agrees library shown bus) (gone : UInt64) :
    Agrees library (fun id => shownAfter id (shown id) (.withdraw gone : Delta ι))
      (bus.withdraw gone) := by
  constructor
  · intro id
    by_cases same : gone = id
    · subst same
      simp [Bus.withdraw, shownAfter]
    · simp only [Bus.withdraw, shownAfter, if_neg same, ← agrees.entries id]
      exact Finmap.lookup_erase_ne (reader_path_ne gone id (Ne.symm same))
  · intro id
    by_cases same : gone = id
    · subst same
      simp [Bus.withdraw, shownAfter]
    · simp only [Bus.withdraw, shownAfter, if_neg same, ← agrees.objects id]
      rw [Finmap.lookup_erase_ne (reader_path_ne gone id (Ne.symm same))]
  · intro path entry found
    by_cases same : path = agentObjectPath "reader" gone
    · exact ⟨gone, same⟩
    · exact agrees.keys path entry (Finmap.lookup_erase_ne same ▸ found)

/-- Every delta keeps the agreement, a published id being new. -/
theorem agrees_deliver (agrees : Agrees library shown bus) (delta : Delta ι)
    (fresh : ∀ id, delta.published = some id → shown id = none) :
    Agrees library (fun id => shownAfter id (shown id) delta)
      (bus.deliver library readerInterfaceToken delta) := by
  cases delta with
  | publishReader reader => exact agrees_publish_reader readerInterfaceToken agrees reader (fresh reader.id rfl)
  | publishCard id reader => exact agrees
  | updateProperties reader delta => exact agrees_update_properties agrees reader delta
  | relabelReader reader => exact agrees_relabel_reader readerInterfaceToken agrees reader
  | withdraw gone => exact agrees_withdraw agrees gone

/-- What one more delta says. -/
theorem latest_concat (earlier : List (Delta ι)) (delta : Delta ι) :
    latest (earlier ++ [delta]) = fun id => shownAfter id (latest earlier id) delta := by
  funext id
  simp only [latest, List.foldl_append, List.foldl_cons, List.foldl_nil]

/-- Nothing is said of a reader that was never published.

Induct over the deltas from the end: none of them publishes the id. -/
theorem latest_unpublished (deltas : List (Delta ι)) (id : UInt64)
    (unpublished : id ∉ deltas.filterMap Delta.published) : latest deltas id = none := by
  induction deltas using List.reverseRecOn with
  | nil => rfl
  | append_singleton earlier delta inductionHypothesis =>
    simp only [List.filterMap_append, List.mem_append, not_or] at unpublished
    obtain ⟨before, now⟩ := unpublished
    simp only [latest_concat, inductionHypothesis before]
    cases delta with
    | publishReader reader =>
      have other : reader.id ≠ id := by simpa [Delta.published, eq_comm] using now
      simp [shownAfter, other]
    | _ => simp [shownAfter]

/-- After every sequence of deltas with unique ids both copies show what is said.

Induct over the deltas from the end: the ids published before are those of the
readers that are there, so a newly published one is not in use. -/
theorem agrees_deliver_all (deltas : List (Delta ι))
    (unique : (deltas.filterMap Delta.published).Nodup) :
    Agrees library (latest deltas) (Bus.deliverAll library readerInterfaceToken deltas) := by
  induction deltas using List.reverseRecOn with
  | nil => exact ⟨fun _ => rfl, fun _ => rfl, by simp [Bus.deliverAll]⟩
  | append_singleton earlier delta inductionHypothesis =>
    rw [List.filterMap_append, List.nodup_append] at unique
    obtain ⟨before, -, apart⟩ := unique
    have agrees := agrees_deliver readerInterfaceToken (inductionHypothesis before) delta (by
        intro id published
        apply latest_unpublished earlier id
        intro member
        exact apart id member id (by simp [published]) rfl)
    rw [latest_concat]
    simpa only [Bus.deliverAll, List.foldl_append, List.foldl_cons, List.foldl_nil] using agrees

/-- An entry names a card exactly when the reader is said to hold a valid one. -/
theorem entry_holds_card (said : Shown) :
    (said.entry library).holdsCard = said.holdsCard library := by
  obtain ⟨filled, rooted⟩ := agent_object_path_proper "card" said.card
  unfold PresenceEntry.holdsCard Shown.entry Shown.holdsCard cardPathOf
  cases valid : library.valid said.card with
  | true => simp [filled, rooted]
  | false => simp

/-- A string is answered when it is the path of a reader that holds a valid card,
and then by the name of that reader and the path of that card. -/
theorem resolve_reader_card_iff (agrees : Agrees library shown bus) (path : String)
    (found : ReaderCard) :
    bus.resolveReaderCard path = some found ↔
      ∃ id said, path = agentObjectPath "reader" id ∧ shown id = some said ∧
        said.holdsCard library = true ∧ found = ⟨said.name, agentObjectPath "card" said.card⟩ := by
  have keyed : ∀ said : Shown, said.holdsCard library = true →
      (said.entry library).cardPath = agentObjectPath "card" said.card := by
    intro said holds
    rw [Shown.holdsCard, Bool.and_eq_true] at holds
    simp [Shown.entry, cardPathOf, holds.2]
  constructor
  · intro resolved
    unfold Bus.resolveReaderCard at resolved
    cases entered : bus.presence.lookup path with
    | none => simp [entered] at resolved
    | some entry =>
      obtain ⟨id, rfl⟩ := agrees.keys path entry entered
      have shows := agrees.entries id
      rw [entered, eq_comm, Option.map_eq_some_iff] at shows
      obtain ⟨said, latest, rfl⟩ := shows
      simp only [entered, entry_holds_card] at resolved
      split_ifs at resolved with holds
      refine ⟨id, said, rfl, latest, holds, ?_⟩
      rw [← Option.some.inj resolved, keyed said holds]
      rfl
  · rintro ⟨id, said, rfl, latest, holds, rfl⟩
    have entered := agrees.entries id
    rw [latest, Option.map_some] at entered
    simp only [Bus.resolveReaderCard, entered, entry_holds_card, holds, if_true, keyed said holds]
    rfl

/-- The roster lists the readers that are there, each once and with its own card.

The paths in their order are the paths of the ids recovered from them. -/
theorem presence_roster_lists (agrees : Agrees library shown bus) :
    ∃ ids : List UInt64, ids.Nodup ∧ (∀ id, id ∈ ids ↔ (shown id).isSome = true) ∧
      bus.presenceRoster.readerNames = (ids.filterMap shown).map Shown.name ∧
      bus.presenceRoster.cardKeys = (ids.filterMap shown).map (Shown.cardKey library) := by
  let paths := Maps.sortedKeys bus.presence
  have present : ∀ path, path ∈ paths ↔ path ∈ bus.presence := Maps.mem_sortedKeys bus.presence
  have recovered : (paths.map (objectIdFromPath library)).map (agentObjectPath "reader") = paths := by
    rw [List.map_map]
    nth_rewrite 2 [← List.map_id paths]
    apply List.map_congr_left
    intro path member
    obtain ⟨entry, found⟩ := Finmap.mem_iff.mp ((present path).mp member)
    obtain ⟨id, rfl⟩ := agrees.keys path entry found
    simp
  have entries : bus.entries =
      ((paths.map (objectIdFromPath library)).filterMap shown).map (Shown.entry library) := by
    calc bus.entries
        = ((paths.map (objectIdFromPath library)).map (agentObjectPath "reader")).filterMap
            bus.presence.lookup := by rw [recovered]; rfl
      _ = (paths.map (objectIdFromPath library)).filterMap
            (fun id => (shown id).map (Shown.entry library)) := by
          rw [List.filterMap_map]
          exact List.filterMap_congr (fun id _ => agrees.entries id)
      _ = _ := (List.map_filterMap ..).symm
  refine ⟨paths.map (objectIdFromPath library), ?_, ?_, ?_, ?_⟩
  · apply List.Nodup.of_map (agentObjectPath "reader")
    rw [recovered]
    exact Maps.sortedKeys_nodup bus.presence
  · intro id
    have shows := agrees.entries id
    have listed : id ∈ paths.map (objectIdFromPath library) ↔ agentObjectPath "reader" id ∈ paths := by
      constructor
      · intro member
        exact recovered ▸ List.mem_map_of_mem member
      · intro member
        simpa using List.mem_map_of_mem (f := objectIdFromPath library) member
    rw [listed, present, Finmap.mem_iff, ← Option.isSome_iff_exists, shows, Option.isSome_map]
  · simp only [Bus.presenceRoster, entries, List.map_map]
    rfl
  · simp only [Bus.presenceRoster, entries, List.map_map]
    apply List.map_congr_left
    intro said _
    simp only [Function.comp_apply, entry_holds_card, Shown.cardKey]
    split_ifs with holds
    · rw [Shown.holdsCard, Bool.and_eq_true] at holds
      simp [Shown.entry, cardPathOf, holds.2]
    · rfl

/-- The exporter's map and the exported reader objects agree on every reader that is
there, after every sequence of deltas with unique ids. A client's string is answered
if and only if it is exactly the path of a reader whose latest delta says it holds a
valid card, and then by that reader's name and that card's path, from which the core
recovers the ids of that reader and card. The roster lists exactly the readers that
are there, each with its own latest card. -/
theorem presence_agreement (deltas : List (Delta ι))
    (unique : (deltas.filterMap Delta.published).Nodup) (bus : Bus)
    (delivered : Bus.deliverAll library readerInterfaceToken deltas = bus) :
    (∀ id said, latest deltas id = some said → ∃ entry object,
      bus.presence.lookup (agentObjectPath "reader" id) = some entry ∧
      bus.readers.lookup (agentObjectPath "reader" id) = some object ∧
      entry.name = object.name ∧ entry.hasCard = object.hasCard ∧ entry.cardPath = object.card) ∧
    (∀ path, (bus.resolveReaderCard path).isSome ↔
      ∃ id said, path = agentObjectPath "reader" id ∧ latest deltas id = some said ∧
        said.hasCard = true ∧ library.valid said.card = true) ∧
    (∀ id said, latest deltas id = some said → said.hasCard = true →
      library.valid said.card = true →
      bus.resolveReaderCard (agentObjectPath "reader" id) =
        some ⟨said.name, agentObjectPath "card" said.card⟩ ∧
      bus.makeResolveReaderCard library (agentObjectPath "reader" id) =
        some ⟨id, said.name, agentObjectPath "card" said.card⟩ ∧
      bus.makeResolveCardKey library (agentObjectPath "reader" id) = some said.card) ∧
    ∃ ids : List UInt64, ids.Nodup ∧ (∀ id, id ∈ ids ↔ (latest deltas id).isSome = true) ∧
      bus.presenceRoster.readerNames = (ids.filterMap (latest deltas)).map Shown.name ∧
      bus.presenceRoster.cardKeys = (ids.filterMap (latest deltas)).map (Shown.cardKey library) := by
  have agrees : Agrees library (latest deltas) bus :=
    delivered ▸ agrees_deliver_all readerInterfaceToken deltas unique
  refine ⟨?_, ?_, ?_, presence_roster_lists agrees⟩
  · intro id said latest
    have entered := agrees.entries id
    have exported := agrees.objects id
    rw [latest, Option.map_some] at entered exported
    obtain ⟨object, found, snapshot⟩ := Option.map_eq_some_iff.mp exported
    refine ⟨said.entry library, object, entered, found, ?_⟩
    rw [← snapshot]
    exact ⟨rfl, rfl, rfl⟩
  · intro path
    rw [Option.isSome_iff_exists]
    constructor
    · rintro ⟨found, resolved⟩
      obtain ⟨id, said, named, latest, holds, -⟩ :=
        (resolve_reader_card_iff agrees path found).mp resolved
      rw [Shown.holdsCard, Bool.and_eq_true] at holds
      exact ⟨id, said, named, latest, holds⟩
    · rintro ⟨id, said, named, latest, hasCard, valid⟩
      refine ⟨_, (resolve_reader_card_iff agrees path _).mpr ⟨id, said, named, latest, ?_, rfl⟩⟩
      rw [Shown.holdsCard, hasCard, valid, Bool.and_self]
  · intro id said latest hasCard valid
    have resolved := (resolve_reader_card_iff agrees (agentObjectPath "reader" id)
      ⟨said.name, agentObjectPath "card" said.card⟩).mpr
        ⟨id, said, rfl, latest, by rw [Shown.holdsCard, hasCard, valid, Bool.and_self], rfl⟩
    refine ⟨resolved, ?_, ?_⟩
    · simp only [Bus.makeResolveReaderCard, resolved, Option.map_some, object_id_from_path]
    · simp only [Bus.makeResolveCardKey, resolved, Option.map_some, object_id_from_path]

end Agreement

/-- A reader appears, then its card, then the reader shows it. -/
def cardInserted : List (Delta Unit) :=
  [.publishReader { id := 1, name := "R0", hasCard := false, card := 0, model := "", iface := () },
    .publishCard 2 1, .updateProperties 1 { hasCard := true, card := 2 }]

/-- The reader's path leads to the inserted card. -/
theorem card_inserted_resolved :
    (Bus.deliverAll countedIds (fun _ => "unknown") cardInserted).makeResolveCardKey countedIds
      (agentObjectPath "reader" 1) = some 2 := by
  have agreement := presence_agreement (fun _ => "unknown") cardInserted (by decide)
    (Bus.deliverAll countedIds (fun _ => "unknown") cardInserted) rfl
  exact (agreement.2.2.1 1 ⟨"R0", true, 2⟩ rfl rfl (by decide)).2.2

end LibreLinux.Agent
