import LibreLinux.Agent.ObjectPath

/-!
# The start time in a stat line

The kernel describes a process by a line of its number, its command name in
parentheses and further fields. The name may hold anything, so the parser counts the
fields behind the last closing parenthesis and stops once it has more than it needs.
The start time is the twentieth of them, and the standard library converts it.

The library accepts more than a numeral: it takes a sign in front, and a minus
negates modulo the range. A field of a sign and digits is therefore a start time to
the parser. For every other line it returns exactly the numeral.

A text is the list of its characters. The parser singles out the blanks, the digits,
the signs and the closing parenthesis, and passes over every other character alike.
-/

namespace LibreLinux.Agent

open Words

/-- `isspace` of the C locale. -/
def isSpace (char : Char) : Bool :=
  [' ', '\t', '\n', Char.ofNat 11, Char.ofNat 12, '\r'].contains char

/-- The sign in front of a number, if there is one. -/
def signOf : List Char → List Char
  | '+' :: _ => ['+']
  | '-' :: _ => ['-']
  | _ => []

/-- `std::stoull` in base ten: the number, and how many characters spell it. Blanks in
front and a sign are accepted, and a minus negates modulo the range. Without a digit,
or with a number that does not fit, it throws. -/
def stoull (chars : List Char) : Option (UInt64 × Nat) :=
  let trimmed := chars.dropWhile isSpace
  let sign := signOf trimmed
  (fromChars (trimmed.drop sign.length)).map (fun (magnitude, rest) =>
    (if sign = ['-'] then -magnitude else magnitude, chars.length - rest.length))

/-- The index of the start time behind the command name. -/
def kStartTimeIndex : Nat := 19

/-- The start time of a stat line. The loop stops after its twenty-first field. -/
def parseProcStartTime (statContent : List Char) : Option UInt64 :=
  match behindLast ')' statContent with
  | none => none
  | some rest =>
    if rest = [] then none
    else
      let fields := extractWords isSpace 21 rest
      match fields[kStartTimeIndex]? with
      | none => none
      | some field =>
        match stoull field with
        | none => none
        | some (value, consumed) => if consumed ≠ field.length then none else some value

/-- The stat line of a process: its number, its command name and the other fields. -/
def statLine (pid comm tail : List Char) : List Char :=
  pid ++ ' ' :: '(' :: comm ++ ')' :: tail

/-- A sign in front of a numeral that fits 64 bits. -/
def Signed (token : List Char) : Prop :=
  ∃ sign digits value, (sign = '+' ∨ sign = '-') ∧ token = sign :: digits ∧ Plain digits value

/-- A text without a sign in front has none, and one with a sign has that. -/
theorem sign_of_cases (chars : List Char) :
    (signOf chars = [] ∧ ∀ sign digits, (sign = '+' ∨ sign = '-') → chars ≠ sign :: digits) ∨
      ∃ sign digits, (sign = '+' ∨ sign = '-') ∧ chars = sign :: digits ∧ signOf chars = [sign] := by
  unfold signOf
  split
  · exact Or.inr ⟨'+', _, Or.inl rfl, rfl, rfl⟩
  · exact Or.inr ⟨'-', _, Or.inr rfl, rfl, rfl⟩
  · next noPlus noMinus =>
    refine Or.inl ⟨rfl, ?_⟩
    rintro sign digits (rfl | rfl) same
    · exact noPlus digits same
    · exact noMinus digits same

/-- A sign is no digit, so a signed text is no numeral. -/
theorem not_plain_signed (sign : Char) (digits : List Char) (value : UInt64)
    (signs : sign = '+' ∨ sign = '-') : ¬ Plain (sign :: digits) value := by
  rintro ⟨-, all, -⟩
  have digit := all sign List.mem_cons_self
  rcases signs with rfl | rfl
  · revert digit
    decide
  · revert digit
    decide

/-- What `fromChars` leaves is a rest of the text that lacks at least a digit. -/
theorem from_chars_shorter (chars rest : List Char) (value : UInt64)
    (read : fromChars chars = some (value, rest)) : rest.length < chars.length := by
  simp only [fromChars] at read
  split_ifs at read with empty fits
  rw [Option.some.injEq, Prod.mk.injEq] at read
  have split := congrArg List.length
    (List.takeWhile_append_dropWhile (p := Char.isDigit) (l := chars))
  have some := List.length_pos_iff.mpr empty
  rw [List.length_append, read.2] at split
  omega

/-- A token without blanks is consumed to its end exactly when a numeral follows its
sign. -/
theorem stoull_whole_iff (token : List Char) (value : UInt64)
    (unblanked : ∀ char ∈ token, isSpace char = false) :
    stoull token = some (value, token.length) ↔
      ∃ magnitude, Plain (token.drop (signOf token).length) magnitude ∧
        value = if signOf token = ['-'] then -magnitude else magnitude := by
  have trimmed : token.dropWhile isSpace = token := by
    cases token with
    | nil => rfl
    | cons first rest =>
      rw [List.dropWhile_cons_of_neg]
      simp [unblanked first List.mem_cons_self]
  simp only [stoull, trimmed, Option.map_eq_some_iff, Prod.exists, Prod.mk.injEq]
  constructor
  · rintro ⟨magnitude, rest, read, same, consumed⟩
    have shorter := from_chars_shorter _ rest magnitude read
    have inside : (token.drop (signOf token).length).length ≤ token.length := by simp
    have ended : rest = [] := List.eq_nil_of_length_eq_zero (by omega)
    subst ended
    exact ⟨magnitude, (from_chars_whole_iff _ _).mp read, same.symm⟩
  · rintro ⟨magnitude, plain, same⟩
    exact ⟨magnitude, [], (from_chars_whole_iff _ _).mpr plain, same.symm, by simp⟩

/-- The start time that a tail spells, as the line's format has it: its twentieth word
is a numeral of digits only, and the number fits 64 bits. -/
def StartTime (tail : List Char) (value : UInt64) : Prop :=
  ∃ token, (words isSpace tail)[kStartTimeIndex]? = some token ∧ Plain token value

/-- Whatever stands in front, a line is parsed by the twentieth word of its tail. -/
theorem parse_proc_start_time_eq (pid comm tail : List Char) (unclosed : ')' ∉ tail)
    (value : UInt64) :
    parseProcStartTime (statLine pid comm tail) = some value ↔
      ∃ token, (words isSpace tail)[kStartTimeIndex]? = some token ∧
        stoull token = some (value, token.length) := by
  have behind : behindLast ')' (statLine pid comm tail) = some tail := by
    have split : statLine pid comm tail = (pid ++ ' ' :: '(' :: comm) ++ ')' :: tail := by
      simp [statLine]
    rw [split]
    exact behind_last_append _ tail unclosed
  have fields : (extractWords isSpace 21 tail)[kStartTimeIndex]? =
      (words isSpace tail)[kStartTimeIndex]? := by
    rw [extract_words_eq_take, List.getElem?_take_of_lt (by decide)]
  simp only [parseProcStartTime, behind]
  by_cases empty : tail = []
  · simp [empty, words_nil]
  · rw [if_neg empty]
    simp only [fields]
    cases (words isSpace tail)[kStartTimeIndex]? with
    | none => simp
    | some token =>
      cases read : stoull token with
      | none => simp [read]
      | some result =>
        obtain ⟨number, consumed⟩ := result
        by_cases whole : consumed = token.length
        · simp [read, whole]
        · simp [read, whole]

/-- A token without a sign is read as the numeral that it is, or not at all. -/
theorem stoull_unsigned_iff (token : List Char) (value : UInt64)
    (unblanked : ∀ char ∈ token, isSpace char = false) (unsigned : signOf token = []) :
    stoull token = some (value, token.length) ↔ Plain token value := by
  rw [stoull_whole_iff token value unblanked, unsigned]
  simp

/-- A token with a sign is read as a number exactly when a numeral follows the sign. -/
theorem stoull_signed_iff (sign : Char) (digits : List Char) (signs : sign = '+' ∨ sign = '-')
    (unblanked : ∀ char ∈ sign :: digits, isSpace char = false)
    (signed : signOf (sign :: digits) = [sign]) :
    (∃ value, stoull (sign :: digits) = some (value, (sign :: digits).length)) ↔
      Signed (sign :: digits) := by
  simp only [stoull_whole_iff _ _ unblanked, signed, List.length_singleton, List.drop_one,
    List.tail_cons]
  constructor
  · rintro ⟨value, magnitude, plain, -⟩
    exact ⟨sign, digits, magnitude, signs, rfl, plain⟩
  · rintro ⟨other, rest, magnitude, -, same, plain⟩
    cases same
    exact ⟨_, magnitude, plain, rfl⟩

/-- The parser returns exactly the start time that the line spells if and only if the
twentieth word of its tail is not a numeral with a sign. -/
theorem start_time_parsed_iff (pid comm tail : List Char) (unclosed : ')' ∉ tail) :
    (∀ value, parseProcStartTime (statLine pid comm tail) = some value ↔ StartTime tail value) ↔
      ∀ token, (words isSpace tail)[kStartTimeIndex]? = some token → ¬ Signed token := by
  simp only [parse_proc_start_time_eq pid comm tail unclosed, StartTime]
  cases found : (words isSpace tail)[kStartTimeIndex]? with
  | none => simp
  | some token =>
    have unblanked := mem_words_unseparated tail token (List.mem_of_getElem? found)
    simp only [Option.some.injEq, exists_eq_left', forall_eq']
    rcases sign_of_cases token with ⟨unsigned, other⟩ | ⟨sign, digits, signs, rfl, signed⟩
    · constructor
      · rintro - ⟨sign, digits, value, signs, same, -⟩
        exact other sign digits signs same
      · intro _ value
        exact stoull_unsigned_iff token value unblanked unsigned
    · -- No signed token is a plain numeral, so the parser must read none of them.
      have read := stoull_signed_iff sign digits signs unblanked signed
      constructor
      · intro agrees numeral
        obtain ⟨value, taken⟩ := read.mpr numeral
        exact not_plain_signed sign digits value signs ((agrees value).mp taken)
      · intro refused value
        constructor
        · intro taken
          exact absurd (read.mp ⟨value, taken⟩) refused
        · intro plain
          exact absurd plain (not_plain_signed sign digits value signs)

/-- The tail of a stat line with a start time of this spelling. -/
def tailWith (startTime : String) : List Char :=
  " R 1000 1234 1000 34816 1234 4194304 100 0 0 0 1 2 3 4 20 0 1 0 ".toList ++
    startTime.toList ++ " 5 6 7\n".toList

/-- A line whose command name holds blanks, parentheses and a line end is parsed. -/
theorem odd_name_parsed :
    parseProcStartTime (statLine "4321".toList "weird )( \n name".toList (tailWith "987654")) =
      some 987654 := by
  have twentieth : (words isSpace (tailWith "987654"))[kStartTimeIndex]? =
      some "987654".toList := by
    decide +kernel
  have unsigned : ∀ token, (words isSpace (tailWith "987654"))[kStartTimeIndex]? = some token →
      ¬ Signed token := by
    intro token found
    rw [twentieth] at found
    cases found
    rintro ⟨sign, digits, value, signs, same, -⟩
    cases same
    revert signs
    decide
  refine ((start_time_parsed_iff _ _ _ (by decide +kernel)).mpr unsigned 987654).mpr ?_
  exact ⟨"987654".toList, twentieth, by decide, List.all_eq_true.mp (by decide), by decide⟩

/-- A negative start time is taken for the number it is congruent to. -/
theorem negative_start_time_parsed :
    ¬ ∀ value, parseProcStartTime (statLine "4321".toList "cat".toList (tailWith "-1")) =
      some value ↔ StartTime (tailWith "-1") value := by
  intro agrees
  have parsed : parseProcStartTime (statLine "4321".toList "cat".toList (tailWith "-1")) =
      some 18446744073709551615 := by
    decide +kernel
  have twentieth : (words isSpace (tailWith "-1"))[kStartTimeIndex]? = some ['-', '1'] := by
    decide +kernel
  obtain ⟨token, found, plain⟩ := (agrees _).mp parsed
  rw [twentieth] at found
  cases found
  exact not_plain_signed '-' ['1'] _ (Or.inr rfl) plain

end LibreLinux.Agent
