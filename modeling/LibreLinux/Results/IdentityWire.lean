import LibreLinux.Lib.Maps
import LibreLinux.Lib.NestedMaps
import LibreLinux.Results.Payload
import Mathlib.Data.String.Basic

/-!
# What the identity wire keeps

The identity result is a map of maps. `buildIdentity1Wire` builds each group's
map on its own and assigns it to the group's key, so of two groups under one key
only the later one's fields remain. The plain double loop assigns field by field
and keeps both; so does a client that stores the fields of the progressive group
signals as they arrive. The two agree exactly when, under every key, the last
group that has a field for the wire repeats the fields of the earlier ones.
-/

namespace LibreLinux.Results

open NestedMaps

/-- Store the fields of a group one by one; photos travel on their own. -/
def storeFields (groupKey : String) (wire : Identity1Wire) (fields : List FieldSnapshot) :
    Identity1Wire :=
  fields.foldl (fun wire field =>
    if field.type = .photo then wire
    else store wire groupKey field.fieldKey (identityCell field)) wire

/-- The plain double loop over groups and fields. -/
def storeEveryField (snapshot : CardReadSnapshot) : Identity1Wire :=
  snapshot.groups.foldl (fun wire group => storeFields group.groupKey wire group.fields) ∅

/-- The signal of one group, sent ahead of the result. -/
def emitIdentity1Group (group : GroupSnapshot) : String × Identity1GroupFieldsWire :=
  (group.groupKey, buildIdentity1GroupWire group)

/-- A client stores what the signals of the groups carry, as they arrive. -/
def storeGroupSignals (snapshot : CardReadSnapshot) : Identity1Wire :=
  (snapshot.groups.map emitIdentity1Group).foldl (fun wire signal =>
    storeEach wire signal.1 (Maps.sortedKeys signal.2) signal.2) ∅

/-- The group has a field of this key for the wire. -/
def GroupSnapshot.Carries (group : GroupSnapshot) (fieldKey : String) : Prop :=
  ∃ field ∈ group.fields, field.type ≠ .photo ∧ field.fieldKey = fieldKey

/-- None of the groups has a field for the wire under this key. -/
def Silent (key : String) (groups : List GroupSnapshot) : Prop :=
  ∀ group ∈ groups, group.groupKey = key → ∀ fieldKey, ¬ group.Carries fieldKey

/-- A group's map grows by its last field, unless that is a photo. -/
theorem group_wire_concat (groupKey : String) (fields : List FieldSnapshot) (last : FieldSnapshot) :
    buildIdentity1GroupWire ⟨groupKey, fields ++ [last]⟩ =
      if last.type = .photo then buildIdentity1GroupWire ⟨groupKey, fields⟩
      else (buildIdentity1GroupWire ⟨groupKey, fields⟩).insert last.fieldKey (identityCell last) := by
  simp [buildIdentity1GroupWire, List.foldl_append]

/-- A field that a group's map holds is a field of the group. -/
theorem group_wire_origin (group : GroupSnapshot) (fieldKey : String) (cell : IdentityCell)
    (found : (buildIdentity1GroupWire group).lookup fieldKey = some cell) :
    ∃ field ∈ group.fields, field.type ≠ .photo ∧ field.fieldKey = fieldKey ∧
      cell = identityCell field := by
  obtain ⟨groupKey, fields⟩ := group
  induction fields using List.reverseRecOn with
  | nil => simp [buildIdentity1GroupWire] at found
  | append_singleton fields last inductionHypothesis =>
    rw [group_wire_concat] at found
    have earlier : (buildIdentity1GroupWire ⟨groupKey, fields⟩).lookup fieldKey = some cell →
        ∃ field ∈ fields ++ [last], field.type ≠ .photo ∧ field.fieldKey = fieldKey ∧
          cell = identityCell field := by
      intro held
      obtain ⟨field, member, origin⟩ := inductionHypothesis held
      exact ⟨field, List.mem_append_left _ member, origin⟩
    split_ifs at found with photo
    · exact earlier found
    · by_cases same : fieldKey = last.fieldKey
      · subst same
        rw [Finmap.lookup_insert] at found
        cases found
        exact ⟨last, by simp, photo, rfl, rfl⟩
      · rw [Finmap.lookup_insert_of_ne _ same] at found
        exact earlier found

/-- A group's map holds every field of the group but its photos. -/
theorem group_wire_holds (group : GroupSnapshot) (fieldKey : String)
    (carried : group.Carries fieldKey) : fieldKey ∈ buildIdentity1GroupWire group := by
  obtain ⟨groupKey, fields⟩ := group
  obtain ⟨field, member, wired, named⟩ := carried
  induction fields using List.reverseRecOn with
  | nil => cases member
  | append_singleton fields last inductionHypothesis =>
    rw [group_wire_concat]
    split_ifs with photo
    · rcases List.mem_append.mp member with earlier | latest
      · exact inductionHypothesis earlier
      · rw [List.mem_singleton.mp latest] at wired
        exact absurd photo wired
    · rw [Finmap.mem_insert]
      rcases List.mem_append.mp member with earlier | latest
      · exact Or.inr (inductionHypothesis earlier)
      · rw [List.mem_singleton.mp latest] at named
        exact Or.inl named.symm

/-- The keys of a group's map. -/
theorem mem_group_wire (group : GroupSnapshot) (fieldKey : String) :
    fieldKey ∈ buildIdentity1GroupWire group ↔ group.Carries fieldKey := by
  constructor
  · intro member
    obtain ⟨cell, found⟩ := Finmap.mem_iff.mp member
    obtain ⟨field, listed, wired, named, -⟩ := group_wire_origin group fieldKey cell found
    exact ⟨field, listed, wired, named⟩
  · exact group_wire_holds group fieldKey

/-- A group's map is empty exactly when the group has no field for the wire. -/
theorem group_wire_empty_iff (group : GroupSnapshot) :
    buildIdentity1GroupWire group = ∅ ↔ ∀ fieldKey, ¬ group.Carries fieldKey := by
  constructor
  · intro empty fieldKey carried
    have member := (mem_group_wire group fieldKey).mpr carried
    rw [empty] at member
    exact Finmap.notMem_empty member
  · intro vacant
    apply Finmap.ext_lookup
    intro fieldKey
    rw [Finmap.lookup_empty, Finmap.lookup_eq_none, mem_group_wire]
    exact vacant fieldKey

/-- Storing a group's fields one by one puts its map in front of what its key had. -/
theorem cell_store_fields (groupKey other fieldKey : String) (wire : Identity1Wire)
    (fields : List FieldSnapshot) :
    cell (storeFields groupKey wire fields) other fieldKey =
      if other = groupKey then
        ((buildIdentity1GroupWire ⟨groupKey, fields⟩).lookup fieldKey).or (cell wire other fieldKey)
      else cell wire other fieldKey := by
  induction fields using List.reverseRecOn with
  | nil => simp [storeFields, buildIdentity1GroupWire]
  | append_singleton fields last inductionHypothesis =>
    rw [group_wire_concat, storeFields, List.foldl_concat, ← storeFields]
    by_cases same : other = groupKey
    · subst same
      simp only [if_true] at inductionHypothesis ⊢
      split_ifs with photo
      · exact inductionHypothesis
      · by_cases here : fieldKey = last.fieldKey
        · subst here
          simp [cell_store]
        · simp [cell_store, here, inductionHypothesis]
    · simp only [same, if_false] at inductionHypothesis ⊢
      split_ifs with photo
      · exact inductionHypothesis
      · simp [cell_store, same, inductionHypothesis]

/-- Storing fields one by one leaves no empty group. -/
theorem tidy_store_fields (groupKey : String) (wire : Identity1Wire) (fields : List FieldSnapshot)
    (tidy : Tidy wire) : Tidy (storeFields groupKey wire fields) := by
  induction fields generalizing wire with
  | nil => exact tidy
  | cons field rest inductionHypothesis =>
    rw [storeFields, List.foldl_cons]
    apply inductionHypothesis
    split_ifs with photo
    · exact tidy
    · exact tidy_store wire groupKey _ _ tidy

/-- The double loop leaves no empty group. -/
theorem tidy_store_every_field (groups : List GroupSnapshot) (wire : Identity1Wire)
    (tidy : Tidy wire) :
    Tidy (groups.foldl (fun wire group => storeFields group.groupKey wire group.fields) wire) := by
  induction groups generalizing wire with
  | nil => exact tidy
  | cons group rest inductionHypothesis =>
    exact inductionHypothesis _ (tidy_store_fields group.groupKey wire group.fields tidy)

/-- Storing a group's signal is storing its fields: both put the group's own map
in front of what its key had. -/
theorem store_signal_eq (group : GroupSnapshot) (wire : Identity1Wire) (tidy : Tidy wire) :
    storeEach wire group.groupKey (Maps.sortedKeys (buildIdentity1GroupWire group))
      (buildIdentity1GroupWire group) = storeFields group.groupKey wire group.fields := by
  refine ext_cells _ _ (tidy_store_each _ _ _ _ tidy) (tidy_store_fields _ _ _ tidy) ?_
  intro other fieldKey
  rw [cell_store_each, cell_store_fields]
  by_cases same : other = group.groupKey
  · by_cases held : fieldKey ∈ buildIdentity1GroupWire group
    · simp [same, held]
    · simp [same, Finmap.lookup_eq_none.mpr held]
  · simp [same]

/-- The client that stores the group signals ends with the double loop's map. -/
theorem store_group_signals_eq (snapshot : CardReadSnapshot) :
    storeGroupSignals snapshot = storeEveryField snapshot := by
  have all : ∀ (groups : List GroupSnapshot) (wire : Identity1Wire), Tidy wire →
      (groups.map emitIdentity1Group).foldl (fun wire signal =>
        storeEach wire signal.1 (Maps.sortedKeys signal.2) signal.2) wire =
      groups.foldl (fun wire group => storeFields group.groupKey wire group.fields) wire := by
    intro groups
    induction groups with
    | nil => exact fun _ _ => rfl
    | cons group rest inductionHypothesis =>
      intro wire tidy
      rw [List.map_cons, List.foldl_cons, List.foldl_cons, emitIdentity1Group,
        store_signal_eq group wire tidy]
      exact inductionHypothesis _ (tidy_store_fields group.groupKey wire group.fields tidy)
  exact all snapshot.groups ∅ tidy_empty

/-- The cells of the double loop after one more group. -/
theorem cell_every_field_concat (groups : List GroupSnapshot) (last : GroupSnapshot)
    (key fieldKey : String) :
    cell (storeEveryField ⟨groups ++ [last]⟩) key fieldKey =
      if key = last.groupKey then
        ((buildIdentity1GroupWire last).lookup fieldKey).or
          (cell (storeEveryField ⟨groups⟩) key fieldKey)
      else cell (storeEveryField ⟨groups⟩) key fieldKey := by
  rw [storeEveryField, List.foldl_concat, cell_store_fields, storeEveryField]

/-- The groups of the wire after one more group. -/
theorem lookup_identity_concat (groups : List GroupSnapshot) (last : GroupSnapshot) (key : String) :
    (buildIdentity1Wire ⟨groups ++ [last]⟩).lookup key =
      if key = last.groupKey ∧ buildIdentity1GroupWire last ≠ ∅ then
        some (buildIdentity1GroupWire last)
      else (buildIdentity1Wire ⟨groups⟩).lookup key := by
  rw [buildIdentity1Wire, List.foldl_concat]
  by_cases empty : buildIdentity1GroupWire last = ∅
  · simp [empty, buildIdentity1Wire]
  · by_cases same : key = last.groupKey
    · subst same
      simp [empty]
    · simp [empty, same, buildIdentity1Wire]

/-- What a silent group adds to a key: nothing, on either path. -/
theorem silent_group_wire (key : String) (group : GroupSnapshot) (silent : Silent key [group])
    (same : key = group.groupKey) : buildIdentity1GroupWire group = ∅ :=
  (group_wire_empty_iff group).mpr (silent group (by simp) same.symm)

/-- Silent groups at the end change nothing under their key. -/
theorem silent_tail (key : String) (groups later : List GroupSnapshot) (silent : Silent key later) :
    (buildIdentity1Wire ⟨groups ++ later⟩).lookup key = (buildIdentity1Wire ⟨groups⟩).lookup key ∧
      ∀ fieldKey, cell (storeEveryField ⟨groups ++ later⟩) key fieldKey =
        cell (storeEveryField ⟨groups⟩) key fieldKey := by
  induction later using List.reverseRecOn with
  | nil => simp
  | append_singleton later last inductionHypothesis =>
    have before : Silent key later := fun group member => silent group (by simp [member])
    have here : Silent key [last] := fun group member =>
      silent group (by simp [List.mem_singleton.mp member])
    obtain ⟨lookups, cells⟩ := inductionHypothesis before
    rw [← List.append_assoc]
    constructor
    · rw [lookup_identity_concat, lookups]
      by_cases same : key = last.groupKey
      · simp [silent_group_wire key last here same]
      · simp [same]
    · intro fieldKey
      rw [cell_every_field_concat, cells]
      by_cases same : key = last.groupKey
      · simp [silent_group_wire key last here same]
      · simp [same]

/-- Under one key, either no group has a field for the wire, or one is the last
that has. -/
theorem last_group (key : String) (groups : List GroupSnapshot) :
    Silent key groups ∨ ∃ before group after, groups = before ++ group :: after ∧
      group.groupKey = key ∧ (∃ fieldKey, group.Carries fieldKey) ∧ Silent key after := by
  induction groups using List.reverseRecOn with
  | nil => exact Or.inl (fun group member => by cases member)
  | append_singleton groups last inductionHypothesis =>
    by_cases carrying : last.groupKey = key ∧ ∃ fieldKey, last.Carries fieldKey
    · exact Or.inr ⟨groups, last, [], rfl, carrying.1, carrying.2, fun group member => by cases member⟩
    · have here : last.groupKey = key → ∀ fieldKey, ¬ last.Carries fieldKey :=
        fun same fieldKey carried => carrying ⟨same, fieldKey, carried⟩
      rcases inductionHypothesis with silent | ⟨before, group, after, rfl, named, carried, silent⟩
      · left
        intro group member
        rcases List.mem_append.mp member with earlier | latest
        · exact silent group earlier
        · rw [List.mem_singleton.mp latest]
          exact here
      · right
        refine ⟨before, group, after ++ [last], by simp, named, carried, ?_⟩
        intro other member
        rcases List.mem_append.mp member with earlier | latest
        · exact silent other earlier
        · rw [List.mem_singleton.mp latest]
          exact here

/-- With silent groups after it, a group that carries a field decides its key. -/
theorem last_group_cells (before after : List GroupSnapshot) (group : GroupSnapshot)
    (carried : ∃ fieldKey, group.Carries fieldKey) (silent : Silent group.groupKey after)
    (fieldKey : String) :
    cell (buildIdentity1Wire ⟨before ++ group :: after⟩) group.groupKey fieldKey =
        (buildIdentity1GroupWire group).lookup fieldKey ∧
      cell (storeEveryField ⟨before ++ group :: after⟩) group.groupKey fieldKey =
        ((buildIdentity1GroupWire group).lookup fieldKey).or
          (cell (storeEveryField ⟨before⟩) group.groupKey fieldKey) := by
  obtain ⟨lookups, cells⟩ := silent_tail group.groupKey (before ++ [group]) after silent
  have filled : buildIdentity1GroupWire group ≠ ∅ := by
    intro empty
    obtain ⟨named, held⟩ := carried
    exact (group_wire_empty_iff group).mp empty named held
  rw [List.append_cons]
  constructor
  · rw [cell, lookups, lookup_identity_concat]
    simp [filled]
  · rw [cells, cell_every_field_concat]
    simp

/-- The double loop has a cell exactly where a group carries a field. -/
theorem every_field_holds_iff (groups : List GroupSnapshot) (key fieldKey : String) :
    (cell (storeEveryField ⟨groups⟩) key fieldKey).isSome ↔
      ∃ group ∈ groups, group.groupKey = key ∧ group.Carries fieldKey := by
  induction groups using List.reverseRecOn with
  | nil => simp [storeEveryField]
  | append_singleton groups last inductionHypothesis =>
    rw [cell_every_field_concat]
    by_cases same : key = last.groupKey
    · subst same
      simp only [if_true, Option.isSome_or, Bool.or_eq_true, Finmap.lookup_isSome, mem_group_wire,
        inductionHypothesis, List.mem_append, List.mem_singleton]
      constructor
      · rintro (carried | ⟨group, member, named, carried⟩)
        · exact ⟨last, Or.inr rfl, rfl, carried⟩
        · exact ⟨group, Or.inl member, named, carried⟩
      · rintro ⟨group, member | rfl, named, carried⟩
        · exact Or.inr ⟨group, member, named, carried⟩
        · exact Or.inl carried
    · simp only [same, if_false, inductionHypothesis, List.mem_append, List.mem_singleton]
      constructor
      · rintro ⟨group, member, named, carried⟩
        exact ⟨group, Or.inl member, named, carried⟩
      · rintro ⟨group, member | rfl, named, carried⟩
        · exact ⟨group, member, named, carried⟩
        · exact absurd named.symm same

/-- The wire has no empty group. -/
theorem tidy_identity_wire (groups : List GroupSnapshot) : Tidy (buildIdentity1Wire ⟨groups⟩) := by
  induction groups using List.reverseRecOn with
  | nil => exact tidy_empty
  | append_singleton groups last inductionHypothesis =>
    intro key fields found
    rw [lookup_identity_concat] at found
    split_ifs at found with replaced
    · cases found
      exact replaced.2
    · exact inductionHypothesis key fields found

/-- A cell of the wire is that of a field of the snapshot, and no photo. -/
theorem identity_cell_origin (groups : List GroupSnapshot) (key fieldKey : String)
    (stored : IdentityCell)
    (found : cell (buildIdentity1Wire ⟨groups⟩) key fieldKey = some stored) :
    ∃ group ∈ groups, ∃ field ∈ group.fields, group.groupKey = key ∧ field.type ≠ .photo ∧
      field.fieldKey = fieldKey ∧ stored = identityCell field := by
  rcases last_group key groups with silent | ⟨before, group, after, rfl, rfl, carried, silent⟩
  · have vacant := (silent_tail key [] groups silent).1
    rw [List.nil_append] at vacant
    rw [cell, vacant] at found
    simp [buildIdentity1Wire] at found
  · rw [(last_group_cells before after group carried silent fieldKey).1] at found
    obtain ⟨field, member, wired, named, origin⟩ := group_wire_origin group fieldKey stored found
    exact ⟨group, by simp, field, member, rfl, wired, named, origin⟩

/-- No field is lost: the result is the double loop's map and the one that the
group signals add up to; every field but the photos is in it, and nothing else. -/
structure LosesNoField (snapshot : CardReadSnapshot) : Prop where
  doubleLoop : buildIdentity1Wire snapshot = storeEveryField snapshot
  present : ∀ group ∈ snapshot.groups, ∀ field ∈ group.fields, field.type ≠ .photo →
    (cell (buildIdentity1Wire snapshot) group.groupKey field.fieldKey).isSome
  photosAbsent : ∀ key fieldKey stored,
    cell (buildIdentity1Wire snapshot) key fieldKey = some stored →
    ∃ group ∈ snapshot.groups, ∃ field ∈ group.fields, group.groupKey = key ∧
      field.type ≠ .photo ∧ field.fieldKey = fieldKey ∧ stored = identityCell field
  omitted : ∀ key ∈ buildIdentity1Wire snapshot,
    ∃ group ∈ snapshot.groups, group.groupKey = key ∧ ∃ fieldKey, group.Carries fieldKey
  signals : storeGroupSignals snapshot = buildIdentity1Wire snapshot

/-- Under every key, the last group that has a field for the wire repeats the
field keys of all earlier groups of that key. -/
def LastGroupRepeats (snapshot : CardReadSnapshot) : Prop :=
  ∀ before group after, snapshot.groups = before ++ group :: after →
    (∃ fieldKey, group.Carries fieldKey) → Silent group.groupKey after →
    ∀ earlier ∈ before, earlier.groupKey = group.groupKey →
      ∀ fieldKey, earlier.Carries fieldKey → group.Carries fieldKey

/-- The two paths agree under the condition: what the earlier groups of a key have
is hidden by the last one. -/
theorem identity_wire_eq (snapshot : CardReadSnapshot) (repeats : LastGroupRepeats snapshot) :
    buildIdentity1Wire snapshot = storeEveryField snapshot := by
  obtain ⟨groups⟩ := snapshot
  refine ext_cells _ _ (tidy_identity_wire groups) (tidy_store_every_field groups ∅ tidy_empty) ?_
  intro key fieldKey
  rcases last_group key groups with silent | ⟨before, group, after, rfl, rfl, carried, silent⟩
  · obtain ⟨lookups, cells⟩ := silent_tail key [] groups silent
    rw [List.nil_append] at lookups cells
    rw [cells, cell, lookups]
    simp [buildIdentity1Wire, storeEveryField]
  · obtain ⟨built, looped⟩ := last_group_cells before after group carried silent fieldKey
    rw [built, looped]
    by_cases held : group.Carries fieldKey
    · obtain ⟨stored, found⟩ := Finmap.mem_iff.mp ((mem_group_wire group fieldKey).mpr held)
      simp [found]
    · have unheld : cell (storeEveryField ⟨before⟩) group.groupKey fieldKey = none := by
        rw [← Option.not_isSome_iff_eq_none, every_field_holds_iff]
        rintro ⟨earlier, member, named, carries⟩
        exact held (repeats before group after rfl carried silent earlier member named fieldKey
          carries)
      rw [unheld, Option.or_none]

/-- The identity wire loses no field exactly when the last group of each key
repeats the fields of the earlier ones.

For the converse, a field of an earlier group is in the double loop's map, so it
is in the wire, and there only the last group can have put it. -/
theorem loses_no_field_iff (snapshot : CardReadSnapshot) :
    LosesNoField snapshot ↔ LastGroupRepeats snapshot := by
  constructor
  · intro kept before group after split carried silent earlier member named fieldKey carries
    obtain ⟨groups⟩ := snapshot
    subst split
    have looped := (every_field_holds_iff (before ++ group :: after) group.groupKey fieldKey).mpr
      ⟨earlier, by simp [member], named, carries⟩
    rw [← kept.doubleLoop, (last_group_cells before after group carried silent fieldKey).1,
      Finmap.lookup_isSome, mem_group_wire] at looped
    exact looped
  · intro repeats
    have same := identity_wire_eq snapshot repeats
    refine ⟨same, ?_, identity_cell_origin snapshot.groups, ?_, ?_⟩
    · intro group member field listed wired
      rw [same]
      exact (every_field_holds_iff snapshot.groups _ _).mpr
        ⟨group, member, rfl, field, listed, wired, rfl⟩
    · intro key member
      obtain ⟨fields, found⟩ := Finmap.mem_iff.mp member
      rcases last_group key snapshot.groups with silent | ⟨before, group, after, split, named, carried, -⟩
      · have vacant := (silent_tail key [] snapshot.groups silent).1
        rw [List.nil_append] at vacant
        rw [vacant] at found
        simp [buildIdentity1Wire] at found
      · exact ⟨group, by simp [split], named, carried⟩
    · rw [store_group_signals_eq, same]

/-- A snapshot whose two groups share their key and no field. -/
def splitDocument : CardReadSnapshot where
  groups := [⟨"document", [{ fieldKey := "number", textValue := "008042" }]⟩,
    ⟨"document", [{ fieldKey := "expiry", type := .date, textValue := "2031-05-17" }]⟩]

/-- The first group's field is missing from the result, though its signal was sent. -/
theorem split_document_loses_number :
    cell (buildIdentity1Wire splitDocument) "document" "number" = none ∧
      (cell (storeGroupSignals splitDocument) "document" "number").isSome = true ∧
      ¬ LosesNoField splitDocument := by
  have missing : cell (buildIdentity1Wire splitDocument) "document" "number" = none := by
    decide +kernel
  refine ⟨missing, ?_, ?_⟩
  · rw [store_group_signals_eq]
    decide +kernel
  · intro kept
    have present := kept.present ⟨"document", [{ fieldKey := "number", textValue := "008042" }]⟩
      (by simp [splitDocument]) { fieldKey := "number", textValue := "008042" } (by simp) (by simp)
    rw [missing] at present
    cases present

end LibreLinux.Results
