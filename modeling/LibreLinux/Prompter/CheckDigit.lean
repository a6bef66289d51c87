import Mathlib.Algebra.Group.Nat.Defs
import Mathlib.Data.List.TakeWhile
import Mathlib.Tactic.SplitIfs

/-!
# The check digit of a machine-readable field

The prompter computes the check digits of the MRZ form itself. It walks the UTF-16
units of a field, gives every character a value, and sums the values under the
weights 7, 3 and 1. A character that is not of the MRZ alphabet is to be rejected.

The walk asks the toolkit what a digit and a letter is, and the toolkit answers for
all of Unicode. A decimal digit of another script has a value, and so have the two
letters outside ASCII whose upper case is an ASCII letter. Such a character is
accepted. The sum and the index are signed 32-bit numbers; a walk that would overflow
one of them has no defined result, which is `none` here.

The tables of the toolkit are not part of this tree and enter as parameters, together
with the signedness of the platform's plain characters.
-/

namespace LibreLinux.Prompter

/-- A UTF-16 unit. -/
abbrev QChar := UInt16

/-- The unit of an ASCII character. -/
def qchar (char : Char) : QChar := UInt16.ofNat char.toNat

/-- The null unit. -/
def nullChar : QChar := 0

/-- What the toolkit and the platform answer about characters. -/
structure CharTables where
  isDigit : QChar → Bool
  digitValue : QChar → Int
  isLetter : QChar → Bool
  toUpper : QChar → QChar
  charSigned : Bool

/-- An ASCII digit. -/
abbrev AsciiDigit (char : QChar) : Prop := 48 ≤ char.toNat ∧ char.toNat ≤ 57

/-- An ASCII letter in upper case. -/
abbrev AsciiUpper (char : QChar) : Prop := 65 ≤ char.toNat ∧ char.toNat ≤ 90

/-- An ASCII letter in lower case. -/
abbrev AsciiLower (char : QChar) : Prop := 97 ≤ char.toNat ∧ char.toNat ≤ 122

/-- The toolkit's tables are those of Unicode: exact on ASCII, a digit has a value
from zero to nine, and the upper case of a letter outside ASCII is outside ASCII too
or an ASCII letter in upper case. -/
structure CharTables.Lawful (tables : CharTables) : Prop where
  asciiDigit : ∀ char : QChar, char.toNat < 128 → (tables.isDigit char = true ↔ AsciiDigit char)
  asciiValue : ∀ char : QChar, AsciiDigit char → tables.digitValue char = char.toNat - 48
  digitRange : ∀ char : QChar, tables.isDigit char = true →
    0 ≤ tables.digitValue char ∧ tables.digitValue char ≤ 9
  asciiLetter : ∀ char : QChar, char.toNat < 128 →
    (tables.isLetter char = true ↔ AsciiUpper char ∨ AsciiLower char)
  upperOfAscii : ∀ char : QChar, char.toNat < 128 → ¬ AsciiLower char → tables.toUpper char = char
  upperOfLower : ∀ char : QChar, AsciiLower char → (tables.toUpper char).toNat = char.toNat - 32
  upperOutside : ∀ char : QChar, 128 ≤ char.toNat → tables.isLetter char = true →
    128 ≤ (tables.toUpper char).toNat ∨ AsciiUpper (tables.toUpper char)

section Walk

variable (tables : CharTables)

/-- `toLatin1` as an integer: zero outside Latin-1, and negative in its upper half
where plain characters are signed. -/
def toLatin1 (char : QChar) : Int :=
  if 255 < char.toNat then 0
  else if tables.charSigned = true ∧ 128 ≤ char.toNat then (char.toNat : Int) - 256
  else char.toNat

/-- The value of a character; a negative one rejects it. -/
def charValue (char : QChar) : Int :=
  if tables.isDigit char then tables.digitValue char
  else if char = qchar '<' then 0
  else if tables.isLetter char then toLatin1 tables (tables.toUpper char) - 65 + 10
  else -1

/-- The weight at an index. -/
def kWeights (index : Nat) : Int :=
  match index % 3 with
  | 0 => 7
  | 1 => 3
  | _ => 1

/-- The greatest signed 32-bit number. -/
def kIntMax : Nat := 2 ^ 31 - 1

/-- The walk over a field from an index on, with the sum so far. A sum or an index
that would overflow leaves it undefined. -/
def checkDigitWalk : List QChar → Nat → Int → Option QChar
  | [], _, sum => some (UInt16.ofNat (48 + (sum % 10).toNat))
  | char :: rest, index, sum =>
    let value := charValue tables char
    if value < 0 then some nullChar
    else if (kIntMax : Int) < sum + value * kWeights index then none
    else if kIntMax < index + 1 then none
    else checkDigitWalk rest (index + 1) (sum + value * kWeights index)

/-- The check digit of a field, or the null character. -/
def computeCheckDigit (fieldValue : List QChar) : Option QChar :=
  checkDigitWalk tables fieldValue 0 0

/-- Whether a character is the check digit of a field. -/
def checkDigitOk (fieldValue : List QChar) (checkChar : QChar) : Option Bool :=
  if tables.isDigit checkChar then
    (computeCheckDigit tables fieldValue).map (fun computed =>
      decide (computed ≠ nullChar ∧ computed = checkChar))
  else some false

end Walk

/-- The values of the characters under the weights from an index on. -/
def weightedSum (value : QChar → Int) : Nat → List QChar → Int
  | _, [] => 0
  | index, char :: rest => value char * kWeights index + weightedSum value (index + 1) rest

/-- A character of the MRZ alphabet. -/
def MrzChar (char : QChar) : Prop :=
  AsciiDigit char ∨ char = qchar '<' ∨ AsciiUpper char ∨ AsciiLower char

instance (char : QChar) : Decidable (MrzChar char) := inferInstanceAs (Decidable (_ ∨ _))

/-- Only the characters of the field are looked at, not all of the type. -/
instance (fieldValue : List QChar) : Decidable (∀ char ∈ fieldValue, MrzChar char) :=
  List.decidableBAll _ fieldValue

/-- Its value: digits count as themselves, letters from ten on, the filler as zero. -/
def mrzValue (char : QChar) : Int :=
  if AsciiDigit char then char.toNat - 48
  else if AsciiUpper char then char.toNat - 65 + 10
  else if AsciiLower char then char.toNat - 97 + 10
  else 0

/-- The digit of a sum. -/
def digitOf (sum : Int) : QChar := UInt16.ofNat (48 + (sum % 10).toNat)

/-- A character outside the alphabet that the walk takes for one of it: a decimal digit
of another script, a letter whose upper case is an ASCII letter and, where plain
characters are unsigned, one whose upper case is in Latin-1. -/
def Impostor (tables : CharTables) (char : QChar) : Prop :=
  128 ≤ char.toNat ∧ (tables.isDigit char = true ∨ tables.isLetter char = true ∧
    (AsciiUpper (tables.toUpper char) ∨
      tables.charSigned = false ∧ (tables.toUpper char).toNat ≤ 255))

/-! ## One character -/

/-- The filler is an ASCII character that is neither a digit nor a letter. -/
theorem qchar_filler : (qchar '<').toNat = 60 := by decide

variable {tables : CharTables}

/-- An ASCII character is read as a Latin-1 one. -/
theorem to_latin1_ascii (char : QChar) (ascii : char.toNat < 128) :
    toLatin1 tables char = char.toNat := by
  unfold toLatin1
  rw [if_neg (by omega), if_neg (by omega)]

/-- A character that is neither an ASCII digit nor the filler is read as a letter or
rejected, as long as it is in ASCII. -/
theorem char_value_ascii (lawful : tables.Lawful) (char : QChar) (ascii : char.toNat < 128)
    (undigit : ¬ AsciiDigit char) (unfilled : char ≠ qchar '<') :
    charValue tables char =
      if AsciiUpper char ∨ AsciiLower char then toLatin1 tables (tables.toUpper char) - 65 + 10
      else -1 := by
  have digit : tables.isDigit char = false := by
    simpa using mt (lawful.asciiDigit char ascii).mp undigit
  simp only [charValue, digit, unfilled, lawful.asciiLetter char ascii, Bool.false_eq_true,
    if_false]

/-- A character of the alphabet has its own value. -/
theorem char_value_mrz (lawful : tables.Lawful) (char : QChar) (mrz : MrzChar char) :
    charValue tables char = mrzValue char := by
  have filler := qchar_filler
  by_cases digit : AsciiDigit char
  · have ascii : char.toNat < 128 := by omega
    rw [charValue, if_pos ((lawful.asciiDigit char ascii).mpr digit), mrzValue, if_pos digit]
    exact lawful.asciiValue char digit
  · by_cases unfilled : char = qchar '<'
    · subst unfilled
      have unlisted : tables.isDigit (qchar '<') = false := by
        simpa using mt (lawful.asciiDigit (qchar '<') (by omega)).mp digit
      simp only [charValue, unlisted, Bool.false_eq_true, if_false, if_true]
      decide
    · rcases mrz with isDigit | isFiller | upper | lower
      · exact absurd isDigit digit
      · exact absurd isFiller unfilled
      · have notLower : ¬ AsciiLower char := by
          omega
        rw [char_value_ascii lawful char (by omega) digit unfilled, if_pos (Or.inl upper),
          lawful.upperOfAscii char (by omega) notLower, to_latin1_ascii char (by omega)]
        rw [mrzValue, if_neg digit, if_pos upper]
      · have notUpper : ¬ AsciiUpper char := by
          omega
        have upper := lawful.upperOfLower char lower
        rw [char_value_ascii lawful char (by omega) digit unfilled, if_pos (Or.inr lower),
          to_latin1_ascii _ (by omega), upper]
        rw [mrzValue, if_neg digit, if_neg notUpper, if_pos lower]
        omega

/-- A value is from zero to that of the last letter. -/
theorem mrz_value_range (char : QChar) : 0 ≤ mrzValue char ∧ mrzValue char ≤ 35 := by
  unfold mrzValue
  split_ifs with digit upper lower
  · unfold AsciiDigit at digit
    omega
  · unfold AsciiUpper at upper
    omega
  · unfold AsciiLower at lower
    omega
  · omega

/-- Beyond ASCII a letter is accepted exactly when its upper case is an ASCII letter,
or a Latin-1 one where plain characters are unsigned. -/
theorem to_latin1_accepts_iff (lawful : tables.Lawful) (char : QChar) (outside : 128 ≤ char.toNat)
    (letter : tables.isLetter char = true) :
    0 ≤ toLatin1 tables (tables.toUpper char) - 65 + 10 ↔
      AsciiUpper (tables.toUpper char) ∨
        tables.charSigned = false ∧ (tables.toUpper char).toNat ≤ 255 := by
  have cases := lawful.upperOutside char outside letter
  generalize tables.toUpper char = upper at cases
  unfold toLatin1 AsciiUpper at *
  by_cases signed : tables.charSigned = true
  · simp only [signed, true_and, Bool.true_eq_false, false_and, or_false]
    split_ifs <;> omega
  · simp only [Bool.not_eq_true] at signed
    simp only [signed, Bool.false_eq_true, false_and, if_false, true_and]
    split_ifs <;> omega

/-- The walk accepts the characters of the alphabet and the impostors. -/
theorem char_value_accepts_iff (lawful : tables.Lawful) (char : QChar) :
    0 ≤ charValue tables char ↔ MrzChar char ∨ Impostor tables char := by
  by_cases mrz : MrzChar char
  · simp only [mrz, true_or, iff_true, char_value_mrz lawful char mrz]
    exact (mrz_value_range char).1
  · have filler := qchar_filler
    have unfilled : char ≠ qchar '<' := fun same => mrz (Or.inr (Or.inl same))
    simp only [mrz, false_or, Impostor]
    by_cases outside : 128 ≤ char.toNat
    · by_cases digit : tables.isDigit char = true
      · simp only [outside, digit, charValue, true_or, and_true, if_true, iff_true]
        exact (lawful.digitRange char digit).1
      · by_cases letter : tables.isLetter char = true
        · simp only [charValue, digit, unfilled, letter, outside, if_true, if_false, true_and,
            Bool.false_eq_true, false_or]
          exact to_latin1_accepts_iff lawful char outside letter
        · simp [charValue, digit, unfilled, letter]
    · have undigit : ¬ AsciiDigit char := fun digit => mrz (Or.inl digit)
      have unlettered : ¬ (AsciiUpper char ∨ AsciiLower char) :=
        fun letter => mrz (Or.inr (Or.inr letter))
      rw [char_value_ascii lawful char (by omega) undigit unfilled, if_neg unlettered]
      simp [outside]

/-! ## The walk -/

/-- Weights are positive. -/
theorem weights_nonneg (index : Nat) : 0 ≤ kWeights index := by
  unfold kWeights
  split <;> decide

/-- A sum of accepted characters is not negative. -/
theorem weighted_sum_nonneg (value : QChar → Int) (chars : List QChar) (index : Nat)
    (accepted : ∀ char ∈ chars, 0 ≤ value char) : 0 ≤ weightedSum value index chars := by
  induction chars generalizing index with
  | nil => exact Int.le_refl 0
  | cons char rest inductionHypothesis =>
    have here := Int.mul_nonneg (accepted char List.mem_cons_self) (weights_nonneg index)
    have later := inductionHypothesis (index + 1)
      (fun other member => accepted other (List.mem_cons_of_mem char member))
    simp only [weightedSum]
    omega

/-- Characters of equal values have equal sums. -/
theorem weighted_sum_congr (value other : QChar → Int) (chars : List QChar) (index : Nat)
    (same : ∀ char ∈ chars, value char = other char) :
    weightedSum value index chars = weightedSum other index chars := by
  induction chars generalizing index with
  | nil => rfl
  | cons char rest inductionHypothesis =>
    simp only [weightedSum, same char List.mem_cons_self]
    rw [inductionHypothesis (index + 1)
      (fun item member => same item (List.mem_cons_of_mem char member))]

/-- The part of a field in front of its first rejected character. -/
def walked (tables : CharTables) (chars : List QChar) : List QChar :=
  chars.takeWhile (fun char => decide (0 ≤ charValue tables char))

/-- A rejected character ends the walk. -/
theorem walked_rejected (char : QChar) (rest : List QChar)
    (rejected : charValue tables char < 0) : walked tables (char :: rest) = [] := by
  rw [walked, List.takeWhile_cons_of_neg]
  simpa using rejected

/-- An accepted character is walked over. -/
theorem walked_accepted (char : QChar) (rest : List QChar)
    (accepted : 0 ≤ charValue tables char) :
    walked tables (char :: rest) = char :: walked tables rest := by
  rw [walked, List.takeWhile_cons_of_pos]
  · rfl
  · simpa using accepted

/-- What is walked over is accepted. -/
theorem mem_walked_accepted (chars : List QChar) :
    ∀ char ∈ walked tables chars, 0 ≤ charValue tables char := by
  intro char member
  have kept := List.mem_takeWhile_imp member
  simpa using kept

/-- A field is walked over as a whole exactly when none of its characters is rejected. -/
theorem walked_whole_iff (chars : List QChar) :
    walked tables chars = chars ↔ ∀ char ∈ chars, 0 ≤ charValue tables char := by
  simp [walked, List.takeWhile_eq_self_iff]

/-- The walked part stays within the signed numbers, from an index and a sum on. -/
def Fits (tables : CharTables) (chars : List QChar) (index : Nat) (sum : Int) : Prop :=
  index + (walked tables chars).length ≤ kIntMax ∧
    sum + weightedSum (charValue tables) index (walked tables chars) ≤ kIntMax

instance (tables : CharTables) (chars : List QChar) (index : Nat) (sum : Int) :
    Decidable (Fits tables chars index sum) :=
  inferInstanceAs (Decidable (_ ∧ _))

/-- A walk that fits ends with the digit of the sum, or with the null character at a
rejected one; a walk that does not fit is undefined.

Induct over the field: an accepted character moves its part of the sum from what is to
be summed to what was summed, and the sums only grow, so an overflow here is one of
the whole walk. -/
theorem check_digit_walk_eq (chars : List QChar) (index : Nat) (sum : Int)
    (indexed : index ≤ kIntMax) (summed : sum ≤ kIntMax) :
    (Fits tables chars index sum →
      checkDigitWalk tables chars index sum =
        some (if walked tables chars = chars
          then digitOf (sum + weightedSum (charValue tables) index chars) else nullChar)) ∧
    (¬ Fits tables chars index sum → checkDigitWalk tables chars index sum = none) := by
  induction chars generalizing index sum with
  | nil =>
    constructor
    · intro _
      simp [checkDigitWalk, walked, weightedSum, digitOf]
    · intro overflows
      simp [Fits, walked, weightedSum, indexed, summed] at overflows
  | cons char rest inductionHypothesis =>
    simp only [checkDigitWalk]
    by_cases rejected : charValue tables char < 0
    · rw [if_pos rejected]
      constructor
      · intro _
        simp [walked_rejected char rest rejected]
      · intro overflows
        simp [Fits, walked_rejected char rest rejected, weightedSum, indexed, summed] at overflows
    · have accepted : 0 ≤ charValue tables char := by omega
      have later := weighted_sum_nonneg (charValue tables) (walked tables rest) (index + 1)
        (mem_walked_accepted rest)
      rw [if_neg rejected]
      have shift : Fits tables (char :: rest) index sum ↔
          Fits tables rest (index + 1) (sum + charValue tables char * kWeights index) := by
        simp only [Fits, walked_accepted char rest accepted, List.length_cons, weightedSum,
          Int.add_assoc]
        constructor
        · intro fits
          exact ⟨by omega, fits.2⟩
        · intro fits
          exact ⟨by omega, fits.2⟩
      have total : sum + weightedSum (charValue tables) index (char :: rest) =
          sum + charValue tables char * kWeights index +
            weightedSum (charValue tables) (index + 1) rest := by
        simp only [weightedSum, Int.add_assoc]
      have whole : walked tables (char :: rest) = char :: rest ↔ walked tables rest = rest := by
        simp [walked_accepted char rest accepted]
      rw [shift, total]
      simp only [whole]
      by_cases sumOverflows : (kIntMax : Int) < sum + charValue tables char * kWeights index
      · rw [if_pos sumOverflows]
        constructor
        · intro fits
          have bound := fits.2
          omega
        · intro _
          rfl
      · by_cases indexOverflows : kIntMax < index + 1
        · rw [if_neg sumOverflows, if_pos indexOverflows]
          constructor
          · intro fits
            have bound := fits.1
            omega
          · intro _
            rfl
        · rw [if_neg sumOverflows, if_neg indexOverflows]
          exact inductionHypothesis (index + 1) _ (by omega) (by omega)

/-- A check digit that fits is that of the whole field, or the null character. -/
theorem compute_check_digit_fits (fieldValue : List QChar) (fits : Fits tables fieldValue 0 0) :
    computeCheckDigit tables fieldValue =
      some (if walked tables fieldValue = fieldValue
        then digitOf (weightedSum (charValue tables) 0 fieldValue) else nullChar) := by
  have walk := (check_digit_walk_eq fieldValue 0 0 (Nat.zero_le _) (Int.natCast_nonneg _)).1 fits
  rw [Int.zero_add] at walk
  exact walk

/-- A digit is not the null character. -/
theorem digit_of_ne_null (sum : Int) : digitOf sum ≠ nullChar := by
  intro same
  have numbers := congrArg UInt16.toNat same
  have null : nullChar.toNat = 0 := by decide
  rw [null, digitOf, UInt16.toNat_ofNat'] at numbers
  omega

/-- The contract of the check digit: a field of the MRZ alphabet has the digit of its
weighted sum, and every other one has the null character. -/
def CheckDigitExact (tables : CharTables) (fieldValue : List QChar) : Prop :=
  ((∀ char ∈ fieldValue, MrzChar char) →
    computeCheckDigit tables fieldValue = some (digitOf (weightedSum mrzValue 0 fieldValue))) ∧
  ((∃ char ∈ fieldValue, ¬ MrzChar char) →
    computeCheckDigit tables fieldValue = some nullChar)

/-- A field of the alphabet that fits has the digit of its weighted sum. -/
theorem compute_check_digit_mrz (lawful : tables.Lawful) (fieldValue : List QChar)
    (mrz : ∀ char ∈ fieldValue, MrzChar char) (fits : Fits tables fieldValue 0 0) :
    computeCheckDigit tables fieldValue = some (digitOf (weightedSum mrzValue 0 fieldValue)) := by
  have whole : walked tables fieldValue = fieldValue := (walked_whole_iff fieldValue).mpr
    (fun char member => (char_value_accepts_iff lawful char).mpr (Or.inl (mrz char member)))
  rw [compute_check_digit_fits fieldValue fits, if_pos whole,
    weighted_sum_congr (charValue tables) mrzValue fieldValue 0
      (fun char member => char_value_mrz lawful char (mrz char member))]

/-- The check digit keeps its contract exactly for the fields that hold a character
which is rejected or only characters of the alphabet, and whose part in front of the
first rejected character has a length and a weighted sum below 2 ^ 31. -/
theorem check_digit_exact_iff (lawful : tables.Lawful) (fieldValue : List QChar) :
    CheckDigitExact tables fieldValue ↔
      ((∃ char ∈ fieldValue, ¬ MrzChar char ∧ ¬ Impostor tables char) ∨
        ∀ char ∈ fieldValue, MrzChar char) ∧ Fits tables fieldValue 0 0 := by
  have rejected : (∃ char ∈ fieldValue, ¬ MrzChar char ∧ ¬ Impostor tables char) ↔
      walked tables fieldValue ≠ fieldValue := by
    rw [Ne, walked_whole_iff]
    simp only [char_value_accepts_iff lawful, not_forall, not_or, exists_prop]
  rw [rejected]
  constructor
  · rintro ⟨alphabet, other⟩
    have defined : Fits tables fieldValue 0 0 := by
      by_contra overflows
      have undefined : computeCheckDigit tables fieldValue = none :=
        (check_digit_walk_eq fieldValue 0 0 (Nat.zero_le _) (Int.natCast_nonneg _)).2 overflows
      by_cases mrz : ∀ char ∈ fieldValue, MrzChar char
      · have digit := alphabet mrz
        rw [undefined] at digit
        cases digit
      · simp only [not_forall, exists_prop] at mrz
        have null := other mrz
        rw [undefined] at null
        cases null
    refine ⟨?_, defined⟩
    by_contra neither
    rw [not_or, not_not] at neither
    obtain ⟨whole, strange⟩ := neither
    simp only [not_forall, exists_prop] at strange
    have null := other strange
    rw [compute_check_digit_fits fieldValue defined, if_pos whole] at null
    exact digit_of_ne_null _ (Option.some.inj null)
  · rintro ⟨either, fits⟩
    constructor
    · intro mrz
      exact compute_check_digit_mrz lawful fieldValue mrz fits
    · rintro ⟨char, member, strange⟩
      have cut : walked tables fieldValue ≠ fieldValue := by
        rcases either with cut | mrz
        · exact cut
        · exact absurd (mrz char member) strange
      rw [compute_check_digit_fits fieldValue fits, if_neg cut]

/-- A part of the tables: the digits of ASCII and the Arabic-Indic ones, the letters of
ASCII and the dotless i, whose upper case is the ASCII letter. -/
def sampleTables : CharTables where
  isDigit char := decide (AsciiDigit char ∨ 0x660 ≤ char.toNat ∧ char.toNat ≤ 0x669)
  digitValue char := if char.toNat < 128 then char.toNat - 48 else char.toNat - 0x660
  isLetter char := decide (AsciiUpper char ∨ AsciiLower char ∨ char.toNat = 0x131)
  toUpper char :=
    if AsciiLower char then UInt16.ofNat (char.toNat - 32)
    else if char.toNat = 0x131 then qchar 'I'
    else char
  charSigned := true

theorem sampleTables_lawful : sampleTables.Lawful where
  asciiDigit := by
    intro char ascii
    simp only [sampleTables, decide_eq_true_eq]
    omega
  asciiValue := by
    intro char digit
    simp only [sampleTables]
    rw [if_pos (by omega)]
  digitRange := by
    intro char digit
    simp only [sampleTables, decide_eq_true_eq] at digit
    simp only [sampleTables]
    split_ifs <;> omega
  asciiLetter := by
    intro char ascii
    have dotted : char.toNat ≠ 0x131 := by omega
    simp only [sampleTables, decide_eq_true_eq, dotted, or_false]
  upperOfAscii := by
    intro char ascii notLower
    simp only [sampleTables, notLower, if_false]
    rw [if_neg (by omega)]
  upperOfLower := by
    intro char lower
    simp only [sampleTables]
    rw [if_pos lower, UInt16.toNat_ofNat']
    omega
  upperOutside := by
    intro char outside letter
    simp only [sampleTables, decide_eq_true_eq] at letter
    have notLower : ¬ AsciiLower char := by omega
    have dotless : char.toNat = 0x131 := by omega
    simp only [sampleTables, notLower, if_false, dotless, if_true]
    exact Or.inr (by decide)

/-- The units of an ASCII text. -/
def fieldOf (text : String) : List QChar := text.toList.map qchar

/-- A padded document number of a published example has its published digit. -/
theorem published_field_exact :
    CheckDigitExact sampleTables (fieldOf "L898902C<") ∧
      computeCheckDigit sampleTables (fieldOf "L898902C<") = some (qchar '3') := by
  constructor
  · exact (check_digit_exact_iff sampleTables_lawful _).mpr ⟨Or.inr (by decide), by decide⟩
  · decide

/-- An Arabic-Indic three has a check digit, although it is not of the MRZ alphabet. -/
theorem foreign_digit_accepted : ¬ CheckDigitExact sampleTables [0x663] := by
  rintro ⟨-, other⟩
  have null := other ⟨0x663, by decide, by decide⟩
  revert null
  decide

end LibreLinux.Prompter
