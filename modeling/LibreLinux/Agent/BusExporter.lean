import LibreLinux.Agent.ObjectPath
import LibreLinux.Lib.Maps
import Mathlib.Data.String.Basic

/-!
# Presence on the bus

The agent's registry reports readers and cards by deltas, one at a time. The
exporter keeps a map from reader paths to the name of the reader and the card it
holds, and forwards each delta to the frontend, which keeps the exported reader
objects. Both copies are updated from the same delta, but not in the same way: the
exporter's map assigns where the frontend's emplaces, and only the objects carry the
label. Clients name a reader by a string of their own.

The cards' objects are the frontend's and do not enter here. The frontend is there
for the whole sequence.
-/

namespace LibreLinux.Agent

open Maps

/-- A reader as the registry reports it, with its label. -/
structure ReaderState (ι : Type) where
  id : UInt64
  name : String
  hasCard : Bool
  card : UInt64
  model : String
  iface : ι

/-- A change of the card a reader holds. -/
structure PropertyDelta where
  hasCard : Bool
  card : UInt64

/-- A delta of the registry. -/
inductive Delta (ι : Type) where
  | publishReader (reader : ReaderState ι)
  | publishCard (id reader : UInt64)
  | updateProperties (reader : UInt64) (delta : PropertyDelta)
  | relabelReader (reader : ReaderState ι)
  | withdraw (id : UInt64)

/-- The id a delta brings into use. -/
def Delta.published {ι : Type} : Delta ι → Option UInt64
  | .publishReader reader => some reader.id
  | .publishCard id _ => some id
  | _ => none

/-- What the exporter knows of a reader, and what a reader object shows. -/
structure PresenceEntry where
  name : String
  hasCard : Bool
  cardPath : String
deriving DecidableEq, Repr

/-- An exported reader object. -/
structure ReaderObject where
  name : String
  hasCard : Bool
  card : String
  model : String
  interface : String

namespace ReaderObject

/-- The presence a reader object shows. -/
def snapshot (object : ReaderObject) : PresenceEntry :=
  { name := object.name, hasCard := object.hasCard, cardPath := object.card }

/-- Change the card, and name the properties that changed. -/
def updateCardPresence (object : ReaderObject) (hasCard : Bool) (card : String) :
    ReaderObject × List String :=
  ({ object with
      hasCard := if object.hasCard ≠ hasCard then hasCard else object.hasCard
      card := if object.card ≠ card then card else object.card },
    (if object.hasCard ≠ hasCard then ["HasCard"] else []) ++
      if object.card ≠ card then ["Card"] else [])

/-- Change the label, and name the properties that changed. -/
def updateLabel (object : ReaderObject) (model interface : String) :
    ReaderObject × List String :=
  if object.model = model ∧ object.interface = interface then (object, [])
  else ({ object with model, interface }, ["Model", "Interface"])

/-- After a change of the card the object shows the card it was given. -/
@[simp]
theorem snapshot_update_card_presence (object : ReaderObject) (hasCard : Bool) (card : String) :
    (object.updateCardPresence hasCard card).1.snapshot = ⟨object.name, hasCard, card⟩ := by
  have chosen : ∀ {α : Type} [DecidableEq α] (old new : α), (if old ≠ new then new else old) = new := by
    intro α _ old new
    split_ifs with differs
    · rfl
    · exact not_not.mp differs
  simp only [updateCardPresence, snapshot, chosen]

/-- A label is not part of the presence. -/
@[simp]
theorem snapshot_update_label (object : ReaderObject) (model interface : String) :
    (object.updateLabel model interface).1.snapshot = object.snapshot := by
  unfold updateLabel
  split_ifs <;> rfl

end ReaderObject

/-- The exporter's map, the frontend's reader objects, and the change signals that
the objects emitted. -/
structure Bus where
  presence : Finmap (fun _ : String => PresenceEntry) := ∅
  readers : Finmap (fun _ : String => ReaderObject) := ∅
  propertiesChanged : List (String × List String) := []

/-- A reader's path and the card it holds, answered to a client's path. -/
structure ReaderCard where
  readerName : String
  cardKey : String
deriving DecidableEq, Repr

/-- The same with the reader's id. -/
structure CoreReaderCard where
  readerId : UInt64
  readerName : String
  cardKey : String
deriving DecidableEq, Repr

/-- The readers' names and the cards they hold, side by side. -/
structure PresenceRoster where
  readerNames : List String
  cardKeys : List String

/-- Whether an entry names a card. -/
def PresenceEntry.holdsCard (entry : PresenceEntry) : Bool :=
  entry.hasCard && entry.cardPath ≠ "" && entry.cardPath ≠ "/"

section Deltas

variable {ι : Type} (library : Identity) (readerInterfaceToken : ι → String)

/-- The path of the card a reader holds, the root when it is not valid. -/
def cardPathOf (card : UInt64) : String :=
  if library.valid card then agentObjectPath "card" card else "/"

namespace Bus

/-- Change one exported reader object and emit what changed. An unknown reader is
passed over. -/
def updateReader (bus : Bus) (path : String) (change : ReaderObject → ReaderObject × List String) :
    Bus :=
  match bus.readers.lookup path with
  | none => bus
  | some object =>
    { bus with
      readers := bus.readers.insert path (change object).1
      propertiesChanged := if (change object).2 = [] then bus.propertiesChanged
        else bus.propertiesChanged ++ [(path, (change object).2)] }

/-- Export a reader object, unless its path is taken. -/
def materializeReader (bus : Bus) (reader : ReaderState ι) : Bus :=
  { bus with
    readers := emplace bus.readers (agentObjectPath "reader" reader.id)
      { name := reader.name, hasCard := reader.hasCard, card := cardPathOf library reader.card,
        model := reader.model, interface := readerInterfaceToken reader.iface } }

/-- A reader appears. -/
def publishReader (bus : Bus) (reader : ReaderState ι) : Bus :=
  materializeReader library readerInterfaceToken
    { bus with
      presence := bus.presence.insert (agentObjectPath "reader" reader.id)
        { name := reader.name, hasCard := reader.hasCard,
          cardPath := cardPathOf library reader.card } } reader

/-- Change the card of a known reader in the exporter's map. -/
def setCard (bus : Bus) (path : String) (hasCard : Bool) (cardPath : String) : Bus :=
  match bus.presence.lookup path with
  | none => bus
  | some entry => { bus with presence := bus.presence.insert path { entry with hasCard, cardPath } }

/-- A reader's card changes. -/
def updateProperties (bus : Bus) (reader : UInt64) (delta : PropertyDelta) : Bus :=
  (bus.setCard (agentObjectPath "reader" reader) delta.hasCard
      (cardPathOf library delta.card)).updateReader (agentObjectPath "reader" reader)
    (fun object => object.updateCardPresence delta.hasCard (cardPathOf library delta.card))

/-- A reader's label changes. -/
def relabelReader (bus : Bus) (reader : ReaderState ι) : Bus :=
  bus.updateReader (agentObjectPath "reader" reader.id)
    (fun object => object.updateLabel reader.model (readerInterfaceToken reader.iface))

/-- A reader or a card disappears. -/
def withdraw (bus : Bus) (id : UInt64) : Bus :=
  { bus with
    presence := bus.presence.erase (agentObjectPath "reader" id)
    readers := bus.readers.erase (agentObjectPath "reader" id) }

/-- One delta. A published card is materialised by the frontend, beside the reader
objects and the exporter's map. -/
def deliver (bus : Bus) : Delta ι → Bus
  | .publishReader reader => bus.publishReader library readerInterfaceToken reader
  | .publishCard _ _ => bus
  | .updateProperties reader delta => bus.updateProperties library reader delta
  | .relabelReader reader => bus.relabelReader readerInterfaceToken reader
  | .withdraw id => bus.withdraw id

/-- A sequence of deltas. -/
def deliverAll (deltas : List (Delta ι)) : Bus :=
  deltas.foldl (deliver library readerInterfaceToken) {}

/-- The card the reader at a path holds, with the reader's name. -/
def resolveReaderCard (bus : Bus) (readerPath : String) : Option ReaderCard :=
  match bus.presence.lookup readerPath with
  | none => none
  | some entry =>
    if entry.holdsCard then some { readerName := entry.name, cardKey := entry.cardPath } else none

/-- The entries of the exporter's map in the order of their paths. -/
def entries (bus : Bus) : List PresenceEntry :=
  (Maps.sortedKeys bus.presence).filterMap bus.presence.lookup

/-- All readers with the cards they hold. -/
def presenceRoster (bus : Bus) : PresenceRoster where
  readerNames := bus.entries.map PresenceEntry.name
  cardKeys := bus.entries.map (fun entry => if entry.holdsCard then entry.cardPath else "")

/-- Only the reader at the path changes. -/
theorem lookup_update_reader (bus : Bus) (path other : String)
    (change : ReaderObject → ReaderObject × List String) :
    (bus.updateReader path change).readers.lookup other =
      if other = path then (bus.readers.lookup path).map (fun object => (change object).1)
      else bus.readers.lookup other := by
  unfold updateReader
  cases found : bus.readers.lookup path with
  | none =>
    by_cases same : other = path
    · subst same
      simp [found]
    · simp [same]
  | some object =>
    by_cases same : other = path
    · subst same
      simp
    · simp [same]

/-- A change of a reader object is none of the exporter's map. -/
@[simp]
theorem presence_update_reader (bus : Bus) (path : String)
    (change : ReaderObject → ReaderObject × List String) :
    (bus.updateReader path change).presence = bus.presence := by
  unfold updateReader
  split <;> rfl

/-- Only the entry at the path changes. -/
theorem lookup_set_card (bus : Bus) (path other : String) (hasCard : Bool) (cardPath : String) :
    (bus.setCard path hasCard cardPath).presence.lookup other =
      if other = path then (bus.presence.lookup path).map (fun entry => ⟨entry.name, hasCard, cardPath⟩)
      else bus.presence.lookup other := by
  unfold setCard
  cases found : bus.presence.lookup path with
  | none =>
    by_cases same : other = path
    · subst same
      simp [found]
    · simp [same]
  | some entry =>
    by_cases same : other = path
    · subst same
      simp
    · simp [same]

/-- A change of an entry is none of the reader objects. -/
@[simp]
theorem readers_set_card (bus : Bus) (path : String) (hasCard : Bool) (cardPath : String) :
    (bus.setCard path hasCard cardPath).readers = bus.readers := by
  unfold setCard
  split <;> rfl

/-- The core's lookup of a reader's card. -/
def makeResolveReaderCard (bus : Bus) (readerPath : String) : Option CoreReaderCard :=
  (bus.resolveReaderCard readerPath).map (fun found =>
    { readerId := objectIdFromPath library readerPath, readerName := found.readerName,
      cardKey := found.cardKey })

/-- The core's lookup of a reader's card id. -/
def makeResolveCardKey (bus : Bus) (readerPath : String) : Option UInt64 :=
  (bus.resolveReaderCard readerPath).map (fun found => objectIdFromPath library found.cardKey)

end Bus

end Deltas

end LibreLinux.Agent
