import LibreLinux.Wire.PromptOptions

/-!
# Which prompt options survive the wire

Texts, lists, the retry context and the reader's identity always come back as
they were sent. The length ranges do not: a minimum from the upper half of the
32-bit range comes back negative, and a lone maximum below the prompter's own
default minimum is raised to that default. Both failures concern the bounds
alone, and nothing else goes wrong.
-/

namespace LibreLinux.Wire

open Maps (lookup_emplaceIf_ne lookup_emplaceIf_self)

/-- Reading an optional string that only its own entry wrote. -/
theorem read_text (text : String) :
    ((if decide (text ≠ "") = true then some (Option.getD none (Variant.string text))
      else none).bind Variant.getString).getD "" = text := by
  by_cases vacant : text = "" <;> simp [vacant, Variant.getString]

/-- Reading an optional list that only its own entry wrote. -/
theorem read_texts (texts : List String) :
    ((if decide (texts ≠ []) = true then some (Option.getD none (Variant.strings texts))
      else none).bind Variant.getStrings).getD [] = texts := by
  by_cases vacant : texts = [] <;> simp [vacant, Variant.getStrings]

/-- Reading an optional number that only its own entry wrote. -/
theorem read_number (value fallback : UInt32) :
    ((if decide (0 < value) = true then some (Option.getD none (Variant.uint32 value))
      else none).bind Variant.getUInt32).getD fallback = if 0 < value then value else fallback := by
  by_cases positive : 0 < value <;> simp [positive, Variant.getUInt32]

/-- Reading the optional interface token. -/
theorem read_interface (vocabulary : Vocabulary) (iface : ReaderInterface) :
    ((if decide (iface ≠ .unknown) = true then
        some (Option.getD none (Variant.string (vocabulary.readerInterfaceToken iface)))
      else none).bind Variant.getString).getD "" =
      if iface = .unknown then "" else vocabulary.readerInterfaceToken iface := by
  by_cases absent : iface = .unknown <;> simp [absent, Variant.getString]

/-- The lower bound a dialog ends up with. -/
def readMin (options : PromptOptions) : Int :=
  staticCastInt (if 0 < options.minLength then options.minLength else 4)

/-- The upper bound a dialog ends up with. -/
def readMax (options : PromptOptions) : Int :=
  clampMax (readMin options)
    (staticCastInt (if 0 < options.maxLength then options.maxLength else 8))

/-- A range a dialog may enforce for these options: well formed, and admitting
no length the agent forbade. -/
structure RangeSound (options : PromptOptions) (minLength maxLength : Int) : Prop where
  nonnegative : 0 ≤ minLength
  ordered : minLength ≤ maxLength
  aboveMin : 0 < options.minLength → (options.minLength.toNat : Int) ≤ minLength
  belowMax : 0 < options.maxLength → maxLength ≤ (options.maxLength.toNat : Int)

/-- The lengths that survive: a minimum the signed type can hold, and no lone
maximum below the prompter's default minimum of four. -/
def LengthsSafe (options : PromptOptions) : Prop :=
  options.minLength.toNat < 2 ^ 31 ∧
    (options.minLength = 0 → options.maxLength = 0 ∨ 4 ≤ options.maxLength)

instance (options : PromptOptions) : Decidable (LengthsSafe options) :=
  inferInstanceAs (Decidable (_ ∧ _))

/-- The bounds are ordered when both are set. -/
def BoundsOrdered (options : PromptOptions) : Prop :=
  0 < options.minLength → 0 < options.maxLength → options.minLength ≤ options.maxLength

instance (options : PromptOptions) : Decidable (BoundsOrdered options) :=
  inferInstanceAs (Decidable (_ → _))

/-- Without a minimum of its own a request gets the default of four. -/
theorem readMin_unset (options : PromptOptions) (unset : options.minLength = 0) :
    readMin options = 4 := by
  simp [readMin, unset, staticCastInt]

/-- A set minimum is kept while the signed type holds it and is negative beyond. -/
theorem readMin_set (options : PromptOptions) (set : 0 < options.minLength.toNat) :
    readMin options = if options.minLength.toNat < 2 ^ 31 then (options.minLength.toNat : Int)
      else (options.minLength.toNat : Int) - 2 ^ 32 := by
  have positive : 0 < options.minLength := by simpa [UInt32.lt_iff_toNat_lt] using set
  simp [readMin, positive, staticCastInt]

/-- The upper bound is never below the lower one. -/
theorem readMin_le_readMax (options : PromptOptions) : readMin options ≤ readMax options := by
  unfold readMax clampMax
  split <;> omega

/-- With a minimum it does not undercut, a set maximum is not exceeded. -/
theorem readMax_le (options : PromptOptions) (set : 0 < options.maxLength.toNat)
    (covered : readMin options ≤ (options.maxLength.toNat : Int)) :
    readMax options ≤ (options.maxLength.toNat : Int) := by
  have positive : 0 < options.maxLength := by simpa [UInt32.lt_iff_toNat_lt] using set
  have narrowed : staticCastInt options.maxLength ≤ (options.maxLength.toNat : Int) := by
    unfold staticCastInt
    split <;> omega
  simp only [readMax, positive, if_true, clampMax]
  split <;> omega

/-- The range computed for ordered bounds is sound exactly for safe lengths.

A maximum from the upper half of the range only turns into a raised one, so the
two failures are a minimum narrowed to a negative number and the default minimum
overriding a smaller lone maximum. -/
theorem range_sound_iff (options : PromptOptions) (ordered : BoundsOrdered options) :
    RangeSound options (readMin options) (readMax options) ↔ LengthsSafe options := by
  have minUnset : options.minLength = 0 ↔ options.minLength.toNat = 0 := UInt32.toNat_inj.symm
  have maxUnset : options.maxLength = 0 ↔ options.maxLength.toNat = 0 := UInt32.toNat_inj.symm
  have minBound : options.minLength.toNat < 2 ^ 32 := options.minLength.toNat_lt
  have le := readMin_le_readMax options
  simp only [BoundsOrdered, UInt32.lt_iff_toNat_lt, UInt32.le_iff_toNat_le, UInt32.toNat_zero]
    at ordered
  constructor
  · rintro ⟨nonnegative, _, _, belowMax⟩
    simp only [UInt32.lt_iff_toNat_lt, UInt32.toNat_zero] at belowMax
    constructor
    · by_contra large
      rw [readMin_set options (by omega), if_neg large] at nonnegative
      omega
    · intro unset
      by_contra small
      simp only [maxUnset, UInt32.le_iff_toNat_le, not_or, not_le] at small
      have raised := readMin_unset options unset
      have exceeded := belowMax (by omega)
      have four : (4 : UInt32).toNat = 4 := rfl
      omega
  · rintro ⟨held, lone⟩
    rcases Nat.eq_zero_or_pos options.minLength.toNat with unset | set
    · have four := readMin_unset options (minUnset.mpr unset)
      have covered := lone (minUnset.mpr unset)
      refine ⟨by omega, le, fun positive => ?_, fun positive => readMax_le options ?_ ?_⟩
      · simp only [UInt32.lt_iff_toNat_lt, UInt32.toNat_zero] at positive
        omega
      · simpa [UInt32.lt_iff_toNat_lt] using positive
      · simp only [UInt32.lt_iff_toNat_lt, UInt32.toNat_zero] at positive
        rcases covered with absent | atLeast
        · exact absurd (maxUnset.mp absent) (by omega)
        · have bound : 4 ≤ options.maxLength.toNat := by
            simpa [UInt32.le_iff_toNat_le] using atLeast
          omega
    · have kept := readMin_set options set
      rw [if_pos held] at kept
      refine ⟨by omega, le, fun _ => by omega, fun positive => readMax_le options ?_ ?_⟩
      · simpa [UInt32.lt_iff_toNat_lt] using positive
      · simp only [UInt32.lt_iff_toNat_lt, UInt32.toNat_zero] at positive
        have below := ordered set positive
        omega

/-- The reader's identity as a dialog shows it: the two names and the token as
sent, the token naming the interface the agent meant. -/
structure ReaderSurvives (vocabulary : Vocabulary) (reader : ReaderIdentity)
    (read : DialogOptions) : Prop where
  model : read.readerModel = reader.model
  token : read.readerInterface =
    if reader.iface = .unknown then "" else vocabulary.readerInterfaceToken reader.iface
  iface : readerInterfaceOf vocabulary read.readerInterface = reader.iface
  full : read.readerFull = reader.full

/-- What a single-secret dialog must have recovered. -/
structure SingleSurvives (vocabulary : Vocabulary) (options : PromptOptions)
    (read : DialogOptions) : Prop where
  title : read.title = options.title
  description : read.description = options.description
  requester : read.requester = options.requester
  artifact : read.artifact = options.artifact
  artifacts : read.artifacts = options.artifacts
  lastError : read.lastError = options.lastError
  altKinds : read.altKinds = options.altKinds
  reader : ReaderSurvives vocabulary options.reader read
  attempt : options.attempt.toNat < 2 ^ 31 → read.attempt = (options.attempt.toNat : Int)
  range : RangeSound options read.minLength read.maxLength

/-- What a PIN-change dialog must have recovered. Its single-secret range is not
sent and not used; it only has to be well formed. -/
structure MultiSurvives (vocabulary : Vocabulary) (options : PromptOptions)
    (read : DialogOptions) : Prop where
  title : read.title = options.title
  description : read.description = options.description
  requester : read.requester = options.requester
  artifact : read.artifact = options.artifact
  cardLabel : read.cardLabel = options.cardLabel
  pinLabel : read.pinLabel = options.pinLabel
  reader : ReaderSurvives vocabulary options.reader read
  single : 0 ≤ read.minLength ∧ read.minLength ≤ read.maxLength
  primary : RangeSound options read.primaryMinLength read.primaryMaxLength
  new : RangeSound options read.newMinLength read.newMaxLength

/-- Both dialogs recover what the agent meant by these options. -/
def OptionsSurvive (vocabulary : Vocabulary) (options : PromptOptions) : Prop :=
  SingleSurvives vocabulary options (buildOptions (buildOptionsDict vocabulary options)) ∧
    MultiSurvives vocabulary options (buildMultiOptions (buildChangePinOptionsDict vocabulary options))

/-- The token of every interface names it again. -/
theorem interface_recovered (vocabulary : Vocabulary) (lawful : vocabulary.Lawful)
    (iface : ReaderInterface) :
    readerInterfaceOf vocabulary
      (if iface = .unknown then "" else vocabulary.readerInterfaceToken iface) = iface := by
  by_cases absent : iface = .unknown
  · simp only [absent, if_true, readerInterfaceOf]
    exact lawful.interfaceAbsent
  · simp [absent, readerInterfaceOf, lawful.interfaceRoundTrip]

/-- Every text of a single-secret request comes back, and its range is the one
computed above. -/
theorem single_read (vocabulary : Vocabulary) (options : PromptOptions) :
    buildOptions (buildOptionsDict vocabulary options) =
      { title := options.title
        description := options.description
        requester := options.requester
        artifact := options.artifact
        artifacts := options.artifacts
        minLength := readMin options
        maxLength := readMax options
        attempt := staticCastInt options.attempt
        lastError := options.lastError
        altKinds := options.altKinds
        readerModel := options.reader.model
        readerInterface := if options.reader.iface = .unknown then ""
          else vocabulary.readerInterfaceToken options.reader.iface
        readerFull := options.reader.full } := by
  have attempt : (if 0 < options.attempt then options.attempt else 0) = options.attempt := by
    by_cases positive : 0 < options.attempt
    · simp [positive]
    · simpa [positive] using (UInt32.le_zero_iff.mp (UInt32.not_lt.mp positive)).symm
  -- The keys are unfolded to their texts, which are told apart as literals.
  simp only [buildOptions, optionString, optionStringList, optionLength, optionUInt,
    buildOptionsDict, emplaceReaderIdentity, emplaceText, emplaceTexts, emplaceNumber,
    kOptPromptId, kOptDeadlineMs, kOptReaderModel, kOptReaderInterface, kOptReaderFull, kOptTitle,
    kOptDescription, kOptRequester, kOptArtifact, kOptArtifacts, kOptMinLength, kOptMaxLength,
    kOptAttempt, kOptLastError, kOptAltKinds, kOptAltDeadlineMs, ne_eq, String.reduceEq,
    not_false_eq_true, lookup_emplaceIf_ne, lookup_emplaceIf_self, Finmap.lookup_empty, read_text,
    read_texts, read_number, read_interface, attempt, readMin, readMax]

/-- Every text of a PIN change comes back, both roles get the computed range,
and the unsent single-secret range stays at its default. -/
theorem multi_read (vocabulary : Vocabulary) (options : PromptOptions) :
    buildMultiOptions (buildChangePinOptionsDict vocabulary options) =
      { title := options.title
        description := options.description
        requester := options.requester
        artifact := options.artifact
        readerModel := options.reader.model
        readerInterface := if options.reader.iface = .unknown then ""
          else vocabulary.readerInterfaceToken options.reader.iface
        readerFull := options.reader.full
        primaryMinLength := readMin options
        primaryMaxLength := readMax options
        newMinLength := readMin options
        newMaxLength := readMax options
        cardLabel := options.cardLabel
        pinLabel := options.pinLabel } := by
  simp only [buildMultiOptions, buildOptions, optionString, optionStringList, optionLength,
    optionUInt, buildChangePinOptionsDict, emplaceReaderIdentity, emplaceText, emplaceNumber,
    kOptPromptId, kOptDeadlineMs, kOptReaderModel, kOptReaderInterface, kOptReaderFull, kOptTitle,
    kOptDescription, kOptRequester, kOptArtifact, kOptArtifacts, kOptMinLength, kOptMaxLength,
    kOptAttempt, kOptLastError, kOptAltKinds, kOptPrimaryMinLength, kOptPrimaryMaxLength,
    kOptNewMinLength, kOptNewMaxLength, kOptCardLabel, kOptPinLabel, ne_eq, String.reduceEq,
    not_false_eq_true, lookup_emplaceIf_ne, lookup_emplaceIf_self, Finmap.lookup_empty, read_text,
    read_number, read_interface, readMin, readMax]
  rfl

/-- Prompt options survive both dialogs exactly when their lengths are safe.

Everything but the ranges survives unconditionally, by the two readings; each of
the three ranges is the computed one, which is sound for safe lengths and for no
others. -/
theorem options_survive_iff (vocabulary : Vocabulary) (lawful : vocabulary.Lawful)
    (options : PromptOptions) (ordered : BoundsOrdered options) :
    OptionsSurvive vocabulary options ↔ LengthsSafe options := by
  have iface := interface_recovered vocabulary lawful options.reader.iface
  rw [OptionsSurvive, single_read, multi_read]
  constructor
  · rintro ⟨single, _⟩
    exact (range_sound_iff options ordered).mp single.range
  · intro safe
    have range := (range_sound_iff options ordered).mpr safe
    refine ⟨⟨rfl, rfl, rfl, rfl, rfl, rfl, rfl, ⟨rfl, rfl, iface, rfl⟩, ?_, range⟩,
      ⟨rfl, rfl, rfl, rfl, rfl, rfl, ⟨rfl, rfl, iface, rfl⟩, by simp, range, range⟩⟩
    intro small
    exact if_pos small

/-- A PIN prompt with both bounds and a reader, as the signing flows send it. -/
def boundedPrompt : PromptOptions :=
  { title := "Signature", reader := { model := "Reader", iface := .contact, full := "Reader 00" }
    minLength := 4, maxLength := 8, attempt := 2 }

theorem bounded_prompt_survives :
    BoundsOrdered boundedPrompt ∧ LengthsSafe boundedPrompt ∧
      OptionsSurvive agentVocabulary boundedPrompt :=
  ⟨by decide, by decide, (options_survive_iff agentVocabulary agentVocabulary_lawful boundedPrompt
    (by decide)).mpr (by decide)⟩

/-- A request that only forbids more than three digits is answered by a dialog
that accepts exactly four. -/
theorem lone_maximum_overridden :
    BoundsOrdered { maxLength := 3 } ∧
      (buildOptions (buildOptionsDict agentVocabulary { maxLength := 3 })).maxLength = 4 ∧
      ¬ OptionsSurvive agentVocabulary { maxLength := 3 } := by
  refine ⟨by decide, by rw [single_read]; decide, ?_⟩
  rintro ⟨single, _⟩
  have exceeded := single.range.belowMax (by decide)
  rw [single_read] at exceeded
  exact absurd exceeded (by decide)

end LibreLinux.Wire
