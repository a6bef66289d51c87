import LibreLinux.Prompter.CheckDigit
import LibreLinux.Prompter.Dialog
import Mathlib.Data.List.DropRight

/-!
# The payload of the MRZ form

The holder types a document number and picks two dates. The form seals three lines:
the number in upper case, padded with fillers to nine characters, and the dates as
`yyMMdd`, each followed by its check digit. The consumer derives the chip's key from
them. Nothing of what was entered is lost in the lines: without the check digits and
the padding they are the number in upper case and the two short dates.

The number field accepts ASCII letters and digits only, so case mapping is that of
single characters. The encoding to UTF-8 is the toolkit's and leaves ASCII as it is.
-/

namespace LibreLinux.Prompter

/-- The days of a month. -/
def daysInMonth (year month : Nat) : Nat :=
  if month = 2 then
    if year % 4 = 0 ∧ (year % 100 ≠ 0 ∨ year % 400 = 0) then 29 else 28
  else if month = 4 ∨ month = 6 ∨ month = 9 ∨ month = 11 then 30
  else 31

/-- A date of the calendar. -/
structure QDate where
  year : Nat
  month : Nat
  day : Nat
  monthRange : 1 ≤ month ∧ month ≤ 12
  dayRange : 1 ≤ day ∧ day ≤ daysInMonth year month
deriving DecidableEq, Repr

/-- The date of an entry that nobody touched. -/
def kSentinelDate : QDate := ⟨1900, 1, 1, by decide, by decide⟩

/-- The document number has this many characters. -/
def kDocumentNumberWidth : Nat := 9

/-- The filler. -/
def kFiller : QChar := qchar '<'

/-- The line end between the fields. -/
def kNewline : QChar := qchar '\n'

/-- The last two decimal digits of a number. -/
def twoDigits (number : Nat) : List QChar :=
  [UInt16.ofNat (48 + number / 10 % 10), UInt16.ofNat (48 + number % 10)]

/-- A date as `yyMMdd`. -/
def mrzDate (date : QDate) : List QChar :=
  twoDigits (date.year % 100) ++ twoDigits date.month ++ twoDigits date.day

/-- The fields of the form. -/
structure MrzInputWidget where
  documentNumber : List QChar := []
  dateOfBirth : QDate := kSentinelDate
  dateOfExpiry : QDate := kSentinelDate
deriving DecidableEq, Repr

/-- Pad a text on its right. -/
def leftJustified (text : List QChar) (width : Nat) (fill : QChar) : List QChar :=
  text ++ List.replicate (width - text.length) fill

section Form

variable (tables : CharTables) (toUtf8 : List QChar → List UInt8)

/-- A text in upper case. -/
def upperCased (text : List QChar) : List QChar := text.map tables.toUpper

/-- A field with its check digit behind it. -/
def checkedField (field : List QChar) : Option (List QChar) :=
  (computeCheckDigit tables field).map (fun digit => field ++ [digit])

namespace MrzInputWidget

/-- The three lines. -/
def joined (widget : MrzInputWidget) : Option (List QChar) := do
  let doc ← checkedField tables
    (leftJustified (upperCased tables widget.documentNumber) kDocumentNumberWidth kFiller)
  let dob ← checkedField tables (mrzDate widget.dateOfBirth)
  let exp ← checkedField tables (mrzDate widget.dateOfExpiry)
  pure (doc ++ kNewline :: (dob ++ kNewline :: exp))

/-- Seal the lines and clear the form. `created` tells whether the memfd could be made. -/
def captureSecretFd (widget : MrzInputWidget) (created : Bool) :
    Option (Option (List UInt8) × MrzInputWidget) :=
  (widget.joined tables).map (fun lines => (if created then some (toUtf8 lines) else none, {}))

end MrzInputWidget

end Form

/-- The dates in the order of the calendar. -/
def QDate.notAfter (date other : QDate) : Bool :=
  decide (date.year < other.year ∨ date.year = other.year ∧
    (date.month < other.month ∨ date.month = other.month ∧ date.day ≤ other.day))

/-- The number field's validator. -/
def hasAcceptableInput (text : List QChar) : Bool :=
  decide (1 ≤ text.length) && decide (text.length ≤ 9) &&
    text.all (fun char => decide (AsciiDigit char ∨ AsciiUpper char ∨ AsciiLower char))

/-- Whether the form may be accepted today. -/
def MrzInputWidget.isValid (today : QDate) (widget : MrzInputWidget) : Bool :=
  if widget.documentNumber.isEmpty || !hasAcceptableInput widget.documentNumber then false
  else
    decide (widget.dateOfBirth ≠ kSentinelDate) && widget.dateOfBirth.notAfter today &&
      decide (widget.dateOfExpiry ≠ kSentinelDate)

/-- A number of one to nine ASCII letters or digits, and two dates of four-digit years. -/
structure MrzInputWidget.Entered (widget : MrzInputWidget) : Prop where
  length : 1 ≤ widget.documentNumber.length ∧ widget.documentNumber.length ≤ 9
  alphanumeric : ∀ char ∈ widget.documentNumber,
    AsciiDigit char ∨ AsciiUpper char ∨ AsciiLower char
  birthYear : 1000 ≤ widget.dateOfBirth.year ∧ widget.dateOfBirth.year ≤ 9999
  expiryYear : 1000 ≤ widget.dateOfExpiry.year ∧ widget.dateOfExpiry.year ≤ 9999

/-- A valid form was filled in; its date entries hold the years up to 9999. -/
theorem entered_of_valid (today : QDate) (widget : MrzInputWidget)
    (valid : widget.isValid today = true)
    (birthYear : 1000 ≤ widget.dateOfBirth.year ∧ widget.dateOfBirth.year ≤ 9999)
    (expiryYear : 1000 ≤ widget.dateOfExpiry.year ∧ widget.dateOfExpiry.year ≤ 9999) :
    widget.Entered := by
  unfold MrzInputWidget.isValid at valid
  split_ifs at valid with refused
  have accepted : hasAcceptableInput widget.documentNumber = true := by
    simp only [Bool.or_eq_true, Bool.not_eq_true', not_or, Bool.not_eq_false] at refused
    exact refused.2
  simp only [hasAcceptableInput, Bool.and_eq_true, List.all_eq_true, decide_eq_true_eq] at accepted
  exact ⟨accepted.1, accepted.2, birthYear, expiryYear⟩

/-- UTF-8 leaves ASCII as it is. -/
def KeepsAscii (toUtf8 : List QChar → List UInt8) : Prop :=
  ∀ text : List QChar, (∀ char ∈ text, char.toNat < 128) → toUtf8 text = text.map UInt16.toUInt8

/-- The fields of a payload, as its consumer separates them. -/
def payloadFields (payload : List UInt8) : List (List QChar) :=
  (payload.map UInt8.toUInt16).splitOnP (fun char => decide (char = kNewline))

/-- A field whose last character is accepted as the check digit of the rest. -/
def FieldChecked (tables : CharTables) (field : List QChar) : Prop :=
  ∃ body digit, field = body ++ [digit] ∧ checkDigitOk tables body digit = some true

/-- A field without its check digit and its padding. -/
def stripped (field : List QChar) : List QChar :=
  field.dropLast.rdropWhile (fun char => decide (char = kFiller))

/-! ## Characters and short fields -/

/-- The alphabet is in ASCII and has no line end. -/
theorem mrz_char_ascii (char : QChar) (mrz : MrzChar char) :
    char.toNat < 128 ∧ char ≠ kNewline := by
  have newline : kNewline.toNat = 10 := by decide
  have filler := qchar_filler
  have bounds : 48 ≤ char.toNat ∧ char.toNat < 128 := by
    rcases mrz with digit | rfl | upper | lower
    · unfold AsciiDigit at digit
      omega
    · omega
    · unfold AsciiUpper at upper
      omega
    · unfold AsciiLower at lower
      omega
  refine ⟨bounds.2, ?_⟩
  rintro rfl
  omega

/-- A digit of a number is an ASCII digit. -/
theorem ascii_digit_of_nat (digit : Nat) (small : digit < 10) :
    AsciiDigit (UInt16.ofNat (48 + digit)) := by
  have exact_ : (UInt16.ofNat (48 + digit)).toNat = 48 + digit := by
    rw [UInt16.toNat_ofNat']
    omega
  omega

/-- The digit of a sum is an ASCII digit. -/
theorem ascii_digit_of_sum (sum : Int) : AsciiDigit (digitOf sum) :=
  ascii_digit_of_nat _ (by omega)

/-- A short date has six characters, all of them digits. -/
theorem mrz_date_digits (date : QDate) :
    (mrzDate date).length = 6 ∧ ∀ char ∈ mrzDate date, AsciiDigit char := by
  constructor
  · rfl
  · intro char member
    simp only [mrzDate, twoDigits, List.cons_append, List.nil_append, List.mem_cons,
      List.not_mem_nil, or_false] at member
    rcases member with rfl | rfl | rfl | rfl | rfl | rfl <;>
      exact ascii_digit_of_nat _ (Nat.mod_lt _ (by decide))

variable {tables : CharTables}

/-- A sum of few characters is small. -/
theorem weighted_sum_le (value : QChar → Int) (chars : List QChar) (index : Nat)
    (bounded : ∀ char ∈ chars, 0 ≤ value char ∧ value char ≤ 35) :
    weightedSum value index chars ≤ 245 * chars.length := by
  induction chars generalizing index with
  | nil => simp [weightedSum]
  | cons char rest inductionHypothesis =>
    have here := bounded char List.mem_cons_self
    have weight : kWeights index ≤ 7 := by
      unfold kWeights
      split <;> decide
    have product : value char * kWeights index ≤ 35 * 7 :=
      Int.mul_le_mul here.2 weight (weights_nonneg index) (by decide)
    have later := inductionHypothesis (index + 1)
      (fun other member => bounded other (List.mem_cons_of_mem char member))
    simp only [weightedSum, List.length_cons]
    omega

/-- A short field of the alphabet fits. -/
theorem fits_short (lawful : tables.Lawful) (field : List QChar) (short : field.length ≤ 9)
    (mrz : ∀ char ∈ field, MrzChar char) : Fits tables field 0 0 := by
  have whole : walked tables field = field := (walked_whole_iff field).mpr
    (fun char member => (char_value_accepts_iff lawful char).mpr (Or.inl (mrz char member)))
  have bounded : ∀ char ∈ field, 0 ≤ charValue tables char ∧ charValue tables char ≤ 35 := by
    intro char member
    rw [char_value_mrz lawful char (mrz char member)]
    exact mrz_value_range char
  have small := weighted_sum_le (charValue tables) field 0 bounded
  have range : kIntMax = 2147483647 := by decide
  rw [Fits, whole]
  omega

/-- A short field of the alphabet gets the digit of its weighted sum. -/
theorem checked_field_eq (lawful : tables.Lawful) (field : List QChar) (short : field.length ≤ 9)
    (mrz : ∀ char ∈ field, MrzChar char) :
    checkedField tables field = some (field ++ [digitOf (weightedSum mrzValue 0 field)]) := by
  rw [checkedField, compute_check_digit_mrz lawful field mrz (fits_short lawful field short mrz),
    Option.map_some]

/-- The check digit of a short field is accepted as such. -/
theorem checked_field_short (lawful : tables.Lawful) (field : List QChar) (short : field.length ≤ 9)
    (mrz : ∀ char ∈ field, MrzChar char) :
    ∃ digit, AsciiDigit digit ∧ checkedField tables field = some (field ++ [digit]) ∧
      checkDigitOk tables field digit = some true := by
  have computed := compute_check_digit_mrz lawful field mrz (fits_short lawful field short mrz)
  have ascii := ascii_digit_of_sum (weightedSum mrzValue 0 field)
  have isDigit := (lawful.asciiDigit _ (by omega)).mpr ascii
  refine ⟨digitOf (weightedSum mrzValue 0 field), ascii, checked_field_eq lawful field short mrz, ?_⟩
  rw [checkDigitOk, if_pos isDigit, computed, Option.map_some]
  simp [digit_of_ne_null]

/-! ## The fields of a form -/

/-- A letter or digit in upper case is a digit or an upper case letter, no filler. -/
theorem to_upper_alphanumeric (lawful : tables.Lawful) (char : QChar)
    (alphanumeric : AsciiDigit char ∨ AsciiUpper char ∨ AsciiLower char) :
    (AsciiDigit (tables.toUpper char) ∨ AsciiUpper (tables.toUpper char)) ∧
      tables.toUpper char ≠ kFiller := by
  have filler : kFiller.toNat = 60 := qchar_filler
  have upper : AsciiDigit (tables.toUpper char) ∨ AsciiUpper (tables.toUpper char) := by
    by_cases lower : AsciiLower char
    · have mapped := lawful.upperOfLower char lower
      omega
    · rw [lawful.upperOfAscii char (by omega) lower]
      omega
  refine ⟨upper, fun same => ?_⟩
  rw [same] at upper
  omega

/-- The padded number of a form: nine characters of the alphabet. -/
theorem padded_number (lawful : tables.Lawful) (widget : MrzInputWidget) (entered : widget.Entered) :
    (leftJustified (upperCased tables widget.documentNumber) kDocumentNumberWidth kFiller).length = 9 ∧
      ∀ char ∈ leftJustified (upperCased tables widget.documentNumber) kDocumentNumberWidth kFiller,
        MrzChar char := by
  have short := entered.length
  constructor
  · simp only [leftJustified, upperCased, List.length_append, List.length_map,
      List.length_replicate, kDocumentNumberWidth]
    omega
  · intro char member
    rcases List.mem_append.mp member with typed | padding
    · obtain ⟨original, present, rfl⟩ := List.mem_map.mp typed
      have upper := (to_upper_alphanumeric lawful original
        (entered.alphanumeric original present)).1
      rcases upper with digit | upper
      · exact Or.inl digit
      · exact Or.inr (Or.inr (Or.inl upper))
    · exact Or.inr (Or.inl (List.eq_of_mem_replicate padding))

/-- Padding is removed up to the last character that is none. -/
theorem rdrop_padding (text : List QChar) (count : Nat) (unpadded : ∀ char ∈ text, char ≠ kFiller) :
    (text ++ List.replicate count kFiller).rdropWhile (fun char => decide (char = kFiller)) =
      text := by
  induction count with
  | zero =>
    rw [List.replicate_zero, List.append_nil, List.rdropWhile_eq_self_iff]
    intro nonempty
    simpa using unpadded _ (List.getLast_mem nonempty)
  | succ count inductionHypothesis =>
    rw [List.replicate_succ', ← List.append_assoc, List.rdropWhile_concat_pos _ _ _ (by simp)]
    exact inductionHypothesis

/-- A checked number without its digit and its padding is the number in upper case. -/
theorem stripped_number (lawful : tables.Lawful) (widget : MrzInputWidget)
    (entered : widget.Entered) (digit : QChar) :
    stripped (leftJustified (upperCased tables widget.documentNumber) kDocumentNumberWidth kFiller ++
      [digit]) = upperCased tables widget.documentNumber := by
  rw [stripped, List.dropLast_concat]
  apply rdrop_padding
  intro char member
  obtain ⟨original, present, rfl⟩ := List.mem_map.mp member
  exact (to_upper_alphanumeric lawful original (entered.alphanumeric original present)).2

/-- A checked date without its digit is the date. -/
theorem stripped_date (date : QDate) (digit : QChar) :
    stripped (mrzDate date ++ [digit]) = mrzDate date := by
  have filler : kFiller.toNat = 60 := qchar_filler
  rw [stripped, List.dropLast_concat]
  have unpadded := rdrop_padding (mrzDate date) 0
  rw [List.replicate_zero, List.append_nil] at unpadded
  apply unpadded
  rintro char member rfl
  have ascii := (mrz_date_digits date).2 _ member
  omega

/-! ## The payload -/

/-- A payload of three checked fields of ten, seven and seven ASCII characters, which
are the number and the dates of a form. -/
structure Spells (tables : CharTables) (widget : MrzInputWidget) (payload : List UInt8)
    (doc dob exp : List QChar) : Prop where
  ascii : ∀ byte ∈ payload, byte.toNat < 128
  fields : payloadFields payload = [doc, dob, exp]
  docLength : doc.length = 9 + 1
  dobLength : dob.length = 6 + 1
  expLength : exp.length = 6 + 1
  docChecked : FieldChecked tables doc
  dobChecked : FieldChecked tables dob
  expChecked : FieldChecked tables exp
  number : stripped doc = upperCased tables widget.documentNumber
  birth : stripped dob = mrzDate widget.dateOfBirth
  expiry : stripped exp = mrzDate widget.dateOfExpiry

/-- An ASCII unit survives the way through a byte. -/
theorem ascii_through_byte (char : QChar) (ascii : char.toNat < 128) :
    char.toUInt8.toUInt16 = char ∧ char.toUInt8.toNat < 128 := by
  have byte : char.toUInt8.toNat = char.toNat := by
    rw [UInt16.toNat_toUInt8]
    omega
  constructor
  · apply UInt16.toNat_inj.mp
    rw [UInt8.toNat_toUInt16, byte]
  · omega

/-- The fields of three ASCII lines without line ends in them are the lines. -/
theorem payload_fields_lines (doc dob exp : List QChar)
    (clean : ∀ field ∈ [doc, dob, exp], ∀ char ∈ field, char.toNat < 128 ∧ char ≠ kNewline) :
    (∀ char ∈ doc ++ kNewline :: (dob ++ kNewline :: exp), char.toNat < 128) ∧
      payloadFields ((doc ++ kNewline :: (dob ++ kNewline :: exp)).map UInt16.toUInt8) =
        [doc, dob, exp] := by
  have ascii : ∀ char ∈ doc ++ kNewline :: (dob ++ kNewline :: exp), char.toNat < 128 := by
    intro char member
    have newline : kNewline.toNat < 128 := by decide
    simp only [List.mem_append, List.mem_cons] at member
    rcases member with inside | rfl | inside | rfl | inside
    · exact (clean doc (by simp) char inside).1
    · exact newline
    · exact (clean dob (by simp) char inside).1
    · exact newline
    · exact (clean exp (by simp) char inside).1
  have unbroken : ∀ field ∈ [doc, dob, exp], ∀ char ∈ field,
      decide (char = kNewline) = false := by
    intro field listed char member
    simpa using (clean field listed char member).2
  refine ⟨ascii, ?_⟩
  have restored : ((doc ++ kNewline :: (dob ++ kNewline :: exp)).map UInt16.toUInt8).map
      UInt8.toUInt16 = doc ++ kNewline :: (dob ++ kNewline :: exp) := by
    rw [List.map_map]
    calc (doc ++ kNewline :: (dob ++ kNewline :: exp)).map (UInt8.toUInt16 ∘ UInt16.toUInt8)
        = (doc ++ kNewline :: (dob ++ kNewline :: exp)).map id :=
          List.map_congr_left
            (fun char member => (ascii_through_byte char (ascii char member)).1)
      _ = doc ++ kNewline :: (dob ++ kNewline :: exp) := List.map_id _
  rw [payloadFields, restored,
    List.splitOnP_append_cons_of_forall_mem (unbroken doc (by simp)) _ (by simp),
    List.splitOnP_append_cons_of_forall_mem (unbroken dob (by simp)) _ (by simp),
    List.splitOnP_eq_singleton (unbroken exp (by simp))]

/-- A form that was filled in seals a payload that spells it. -/
theorem captured_spells (lawful : tables.Lawful) (toUtf8 : List QChar → List UInt8)
    (keeps : KeepsAscii toUtf8) (widget : MrzInputWidget) (entered : widget.Entered) :
    ∃ payload doc dob exp,
      widget.captureSecretFd tables toUtf8 true = some (some payload, {}) ∧
        Spells tables widget payload doc dob exp := by
  obtain ⟨numberLength, numberMrz⟩ := padded_number lawful widget entered
  obtain ⟨birthLength, birthDigits⟩ := mrz_date_digits widget.dateOfBirth
  obtain ⟨expiryLength, expiryDigits⟩ := mrz_date_digits widget.dateOfExpiry
  obtain ⟨docDigit, docAscii, docChecked, docOk⟩ :=
    checked_field_short lawful _ (by omega) numberMrz
  obtain ⟨dobDigit, dobAscii, dobChecked, dobOk⟩ := checked_field_short lawful
    (mrzDate widget.dateOfBirth) (by omega) (fun char member => Or.inl (birthDigits char member))
  obtain ⟨expDigit, expAscii, expChecked, expOk⟩ := checked_field_short lawful
    (mrzDate widget.dateOfExpiry) (by omega) (fun char member => Or.inl (expiryDigits char member))
  generalize number : leftJustified (upperCased tables widget.documentNumber) kDocumentNumberWidth
    kFiller = padded at *
  have clean : ∀ field ∈ [padded ++ [docDigit], mrzDate widget.dateOfBirth ++ [dobDigit],
      mrzDate widget.dateOfExpiry ++ [expDigit]], ∀ char ∈ field,
        char.toNat < 128 ∧ char ≠ kNewline := by
    intro field listed char member
    apply mrz_char_ascii
    simp only [List.mem_cons, List.not_mem_nil, or_false] at listed
    rcases listed with rfl | rfl | rfl
    · rcases List.mem_append.mp member with inside | last
      · exact numberMrz char inside
      · rw [List.mem_singleton.mp last]
        exact Or.inl docAscii
    · rcases List.mem_append.mp member with inside | last
      · exact Or.inl (birthDigits char inside)
      · rw [List.mem_singleton.mp last]
        exact Or.inl dobAscii
    · rcases List.mem_append.mp member with inside | last
      · exact Or.inl (expiryDigits char inside)
      · rw [List.mem_singleton.mp last]
        exact Or.inl expAscii
  obtain ⟨ascii, separated⟩ := payload_fields_lines _ _ _ clean
  refine ⟨_, _, _, _, ?_, ?_, separated, ?_, ?_, ?_, ?_, ?_, ?_, ?_, ?_, ?_⟩
  · simp only [MrzInputWidget.captureSecretFd, MrzInputWidget.joined, number, docChecked,
      dobChecked, expChecked, Option.bind_eq_bind, Option.bind_some, Option.pure_def,
      Option.map_some, if_true, keeps _ ascii]
  · intro byte member
    obtain ⟨char, present, rfl⟩ := List.mem_map.mp member
    exact (ascii_through_byte char (ascii char present)).2
  · rw [List.length_append, numberLength, List.length_singleton]
  · rw [List.length_append, birthLength, List.length_singleton]
  · rw [List.length_append, expiryLength, List.length_singleton]
  · exact ⟨_, _, rfl, docOk⟩
  · exact ⟨_, _, rfl, dobOk⟩
  · exact ⟨_, _, rfl, expOk⟩
  · rw [← number]
    exact stripped_number lawful widget entered docDigit
  · exact stripped_date widget.dateOfBirth dobDigit
  · exact stripped_date widget.dateOfExpiry expDigit

/-- The payload of a filled-in form is three checked ASCII fields that give back the
number in upper case and the two short dates; and two forms seal the same payload
exactly when they agree on these. -/
theorem mrz_payload_round_trip (lawful : tables.Lawful) (toUtf8 : List QChar → List UInt8)
    (keeps : KeepsAscii toUtf8) (widget : MrzInputWidget) (entered : widget.Entered) :
    (∃ payload doc dob exp,
      widget.captureSecretFd tables toUtf8 true = some (some payload, {}) ∧
        Spells tables widget payload doc dob exp) ∧
    ∀ other : MrzInputWidget, other.Entered →
      ((widget.captureSecretFd tables toUtf8 true).map Prod.fst =
          (other.captureSecretFd tables toUtf8 true).map Prod.fst ↔
        upperCased tables widget.documentNumber = upperCased tables other.documentNumber ∧
          mrzDate widget.dateOfBirth = mrzDate other.dateOfBirth ∧
          mrzDate widget.dateOfExpiry = mrzDate other.dateOfExpiry) := by
  refine ⟨captured_spells lawful toUtf8 keeps widget entered, fun other otherEntered => ?_⟩
  constructor
  · intro same
    obtain ⟨payload, doc, dob, exp, captured, spells⟩ :=
      captured_spells lawful toUtf8 keeps widget entered
    obtain ⟨otherPayload, otherDoc, otherDob, otherExp, otherCaptured, otherSpells⟩ :=
      captured_spells lawful toUtf8 keeps other otherEntered
    rw [captured, otherCaptured] at same
    simp only [Option.map_some, Option.some.injEq] at same
    have fields : [doc, dob, exp] = [otherDoc, otherDob, otherExp] := by
      rw [← spells.fields, ← otherSpells.fields, same]
    simp only [List.cons.injEq, and_true] at fields
    obtain ⟨rfl, rfl, rfl⟩ := fields
    refine ⟨?_, ?_, ?_⟩
    · rw [← spells.number, ← otherSpells.number]
    · rw [← spells.birth, ← otherSpells.birth]
    · rw [← spells.expiry, ← otherSpells.expiry]
  · rintro ⟨number, birth, expiry⟩
    simp only [MrzInputWidget.captureSecretFd, MrzInputWidget.joined, number, birth, expiry]

/-- The form of a published example. -/
def publishedForm : MrzInputWidget where
  documentNumber := fieldOf "l898902c3"
  dateOfBirth := ⟨1974, 8, 12, by decide, by decide⟩
  dateOfExpiry := ⟨2012, 4, 15, by decide, by decide⟩

/-- Its payload, and what it gives back. -/
theorem published_form_round_trip :
    ∃ payload doc dob exp,
      publishedForm.captureSecretFd sampleTables (List.map UInt16.toUInt8) true =
          some (some payload, {}) ∧
        payload = "L898902C36\n7408122\n1204159".toUTF8.toList ∧
        Spells sampleTables publishedForm payload doc dob exp := by
  have entered : publishedForm.Entered :=
    entered_of_valid publishedForm.dateOfExpiry publishedForm (by decide) (by decide) (by decide)
  obtain ⟨payload, doc, dob, exp, captured, spells⟩ :=
    (mrz_payload_round_trip sampleTables_lawful (List.map UInt16.toUInt8) (fun _ _ => rfl)
      publishedForm entered).1
  refine ⟨payload, doc, dob, exp, captured, ?_, spells⟩
  have computed : publishedForm.captureSecretFd sampleTables (List.map UInt16.toUInt8) true =
      some (some "L898902C36\n7408122\n1204159".toUTF8.toList, {}) := by
    decide +kernel
  rw [computed] at captured
  simpa using captured.symm

/-! ## The dialog's view of the form -/

/-- The text of ASCII units. -/
def textOf (chars : List QChar) : String :=
  String.ofList (chars.map (fun char => Char.ofNat char.toNat))

/-- The form as the dialog sees it: by the lines that its capture would seal. -/
def MrzInputWidget.asInput (tables : CharTables) (widget : MrzInputWidget) : Option InputWidget :=
  (widget.joined tables).map (fun lines => .mrz (textOf lines))

/-- The form that a capture leaves is the fresh form of the dialog. -/
theorem cleared_form_input (lawful : tables.Lawful) :
    ({} : MrzInputWidget).asInput tables = some (widgetFor .mrz) := by
  have number := checked_field_eq lawful (leftJustified [] kDocumentNumberWidth kFiller)
    (by decide) (by decide)
  have date := checked_field_eq lawful (mrzDate kSentinelDate) (by decide) (by decide)
  simp only [MrzInputWidget.asInput, MrzInputWidget.joined, upperCased, List.map_nil, number, date,
    Option.bind_eq_bind, Option.bind_some, Option.pure_def, Option.map_some]
  decide +kernel

end LibreLinux.Prompter
