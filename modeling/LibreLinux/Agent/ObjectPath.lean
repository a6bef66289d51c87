import LibreLinux.Lib.Words
import Mathlib.Algebra.Group.Nat.Defs

/-!
# Object ids and object paths

The agent names readers and cards by 64-bit numbers; the bus names them by object
paths. A path is composed of the root, the kind of the object and the number in
decimal, and the number is recovered from the segment behind the last slash. The
recovery accepts a segment of digits only, without a sign, a blank or a rest, and
of a value that fits; everything else is the id that names nothing.
-/

namespace LibreLinux.Agent

/-- The agent library's object ids: the number a default-constructed id holds, and
which numbers are valid. -/
structure Identity where
  unset : UInt64
  valid : UInt64 → Bool

/-- Ids from one on, as the library counts them. -/
def countedIds : Identity := { unset := 0, valid := fun id => id ≠ 0 }

/-- The path of the agent's root object. -/
def kRootPath : String := "/org/librescrs/Agent"

/-- The path of an object of a kind. -/
def agentObjectPath (kind : String) (id : UInt64) : String :=
  kRootPath ++ "/" ++ kind ++ "/" ++ toString id.toNat

/-- The text behind the last slash. -/
def behindLastSlash : List Char → Option (List Char)
  | [] => none
  | char :: rest =>
    match behindLastSlash rest with
    | some tail => some tail
    | none => if char = '/' then some rest else none

/-- `std::from_chars` for an unsigned 64-bit number in base ten: the number that the
leading digits spell and the rest behind them. Without a digit, or with a number
that does not fit, it fails. -/
def fromChars (chars : List Char) : Option (UInt64 × List Char) :=
  let digits := chars.takeWhile Char.isDigit
  if digits = [] then none
  else if Nat.ofDigitChars 10 digits 0 < 2 ^ 64 then
    some (UInt64.ofNat (Nat.ofDigitChars 10 digits 0), chars.dropWhile Char.isDigit)
  else none

/-- The id of a path that `agentObjectPath` composed. -/
def objectIdFromPath (library : Identity) (path : String) : UInt64 :=
  match behindLastSlash path.toList with
  | none => library.unset
  | some [] => library.unset
  | some (first :: last) =>
    match fromChars (first :: last) with
    | some (value, []) => value
    | _ => library.unset

/-- The slash is a mark like any other. -/
theorem behind_last_slash_eq (chars : List Char) :
    behindLastSlash chars = Words.behindLast '/' chars := by
  induction chars with
  | nil => rfl
  | cons char rest inductionHypothesis =>
    simp only [behindLastSlash, Words.behindLast, inductionHypothesis]
    cases Words.behindLast '/' rest with
    | none => rfl
    | some tail => rfl

/-- What follows a slash and holds none is behind the last slash. -/
theorem behind_last_slash_append (front tail : List Char) (unslashed : '/' ∉ tail) :
    behindLastSlash (front ++ '/' :: tail) = some tail := by
  rw [behind_last_slash_eq]
  exact Words.behind_last_append front tail unslashed

/-- A numeral of digits only, and the 64-bit number that it spells. -/
def Plain (token : List Char) (value : UInt64) : Prop :=
  token ≠ [] ∧ (∀ char ∈ token, char.isDigit = true) ∧ Nat.ofDigitChars 10 token 0 = value.toNat

/-- A text is read to its end exactly when it is a numeral, and then as its number. -/
theorem from_chars_whole_iff (chars : List Char) (value : UInt64) :
    fromChars chars = some (value, []) ↔ Plain chars value := by
  constructor
  · intro read
    simp only [fromChars] at read
    split_ifs at read with empty fits
    rw [Option.some.injEq, Prod.mk.injEq, List.dropWhile_eq_nil_iff] at read
    have all : chars.takeWhile Char.isDigit = chars := List.takeWhile_eq_self_iff.mpr read.2
    rw [all] at empty fits read
    refine ⟨empty, read.2, ?_⟩
    rw [← read.1, UInt64.toNat_ofNat_of_lt' fits]
  · rintro ⟨nonempty, digits, spelled⟩
    have all : chars.takeWhile Char.isDigit = chars := List.takeWhile_eq_self_iff.mpr digits
    have rest : chars.dropWhile Char.isDigit = [] := List.dropWhile_eq_nil_iff.mpr digits
    simp only [fromChars, all, rest, nonempty, if_false, spelled]
    rw [if_pos value.toNat_lt, UInt64.ofNat_toNat]

/-- The decimal digits of a 64-bit number spell it, with no rest. -/
theorem from_chars_digits (id : UInt64) :
    fromChars (Nat.toDigits 10 id.toNat) = some (id, []) := by
  apply (from_chars_whole_iff _ _).mpr
  refine ⟨Nat.toDigits_ne_nil, ?_, Nat.ofDigitChars_ten_toDigits⟩
  intro char member
  exact Nat.isDigit_of_mem_toDigits (by decide) (by decide) member

/-- The decimal digits of a number have no slash among them. -/
theorem digits_unslashed (number : Nat) : '/' ∉ Nat.toDigits 10 number := by
  intro member
  have digit := Nat.isDigit_of_mem_toDigits (by decide) (by decide) member
  revert digit
  decide

/-- A composed path ends with a slash and the digits of its id. -/
theorem agent_object_path_split (kind : String) (id : UInt64) :
    (agentObjectPath kind id).toList =
      (kRootPath ++ "/" ++ kind).toList ++ '/' :: Nat.toDigits 10 id.toNat := by
  simp [agentObjectPath, String.toList_append, Nat.toString_eq_repr, Nat.toList_repr]

/-- The recovery inverts the composition. -/
@[simp]
theorem object_id_from_path (library : Identity) (kind : String) (id : UInt64) :
    objectIdFromPath library (agentObjectPath kind id) = id := by
  unfold objectIdFromPath
  rw [agent_object_path_split, behind_last_slash_append _ _ (digits_unslashed id.toNat)]
  cases spelled : Nat.toDigits 10 id.toNat with
  | nil => exact absurd spelled Nat.toDigits_ne_nil
  | cons first last => simp only [← spelled, from_chars_digits]

/-- Different ids of a kind have different paths. -/
theorem agent_object_path_inj (kind : String) (id other : UInt64)
    (same : agentObjectPath kind id = agentObjectPath kind other) : id = other := by
  have recovered := congrArg (objectIdFromPath ⟨0, fun _ => true⟩) same
  simpa using recovered

/-- An object's path is neither empty nor the root's mark of nothing. -/
theorem agent_object_path_proper (kind : String) (id : UInt64) :
    agentObjectPath kind id ≠ "" ∧ agentObjectPath kind id ≠ "/" := by
  have long : 2 ≤ (agentObjectPath kind id).toList.length := by
    simp only [agentObjectPath, kRootPath, String.toList_append, List.length_append]
    have root : "/org/librescrs/Agent".toList.length = 20 := by decide
    omega
  constructor <;> intro same <;> rw [same] at long <;> simp at long

/-! ## Paths that were not composed -/

/-- A path ends with a number: behind its last slash there are digits only, and what they
spell has 64 bits. -/
def Denotes (path : String) (value : UInt64) : Prop :=
  ∃ front tail, path.toList = front ++ '/' :: tail ∧ '/' ∉ tail ∧ Plain tail value

/-- A path that ends with no such number: it has no slash, or nothing behind the last one, or
something there that is no digit, or a number beyond 64 bits. -/
def Malformed (path : String) : Prop :=
  '/' ∉ path.toList ∨ ∃ front tail, path.toList = front ++ '/' :: tail ∧ '/' ∉ tail ∧
    (tail = [] ∨ (∃ char ∈ tail, char.isDigit = false) ∨ 2 ^ 64 ≤ Nat.ofDigitChars 10 tail 0)

/-- What is behind the last slash decides the recovery: it is a numeral, read as its number,
or the id names nothing. -/
theorem object_id_behind_slash (library : Identity) (path : String) (front tail : List Char)
    (split : path.toList = front ++ '/' :: tail) (unslashed : '/' ∉ tail) :
    Plain tail (objectIdFromPath library path) ∨
      objectIdFromPath library path = library.unset ∧ ∀ value, ¬ Plain tail value := by
  unfold objectIdFromPath
  rw [split, behind_last_slash_append front tail unslashed]
  cases tail with
  | nil => exact Or.inr ⟨rfl, fun value plain => plain.1 rfl⟩
  | cons first last =>
    dsimp only
    split
    · rename_i value read
      exact Or.inl ((from_chars_whole_iff _ value).mp read)
    · rename_i unread
      refine Or.inr ⟨rfl, fun value plain => ?_⟩
      exact unread value ((from_chars_whole_iff _ value).mpr plain)

/-- A path without a slash names nothing. -/
theorem object_id_unslashed (library : Identity) (path : String) (unslashed : '/' ∉ path.toList) :
    objectIdFromPath library path = library.unset := by
  unfold objectIdFromPath
  rw [behind_last_slash_eq, Words.behind_last_none path.toList unslashed]

/-- A malformed path names nothing. -/
theorem object_id_malformed (library : Identity) (path : String) (malformed : Malformed path) :
    objectIdFromPath library path = library.unset := by
  rcases malformed with unslashed | ⟨front, tail, split, unslashed, broken⟩
  · exact object_id_unslashed library path unslashed
  · rcases object_id_behind_slash library path front tail split unslashed with
      ⟨nonempty, digits, spelled⟩ | ⟨unset, -⟩
    · rcases broken with empty | ⟨char, member, other⟩ | large
      · exact absurd empty nonempty
      · rw [digits char member] at other
        cases other
      · have bounded := (objectIdFromPath library path).toNat_lt
        omega
    · exact unset

/-- An id that names something is the number the path ends with. -/
theorem object_id_denoted (library : Identity) (path : String)
    (named : objectIdFromPath library path ≠ library.unset) :
    Denotes path (objectIdFromPath library path) := by
  by_cases slashed : '/' ∈ path.toList
  · obtain ⟨front, tail, split, unslashed⟩ := Words.last_mark_split path.toList slashed
    rcases object_id_behind_slash library path front tail split unslashed with plain | ⟨unset, -⟩
    · exact ⟨front, tail, split, unslashed, plain⟩
    · exact absurd unset named
  · exact absurd (object_id_unslashed library path slashed) named

/-- Kind and id are both told by a composed path, whatever the kind: the id has no slash, so
the last slash is the one between them. -/
theorem agent_object_path_injective :
    Function.Injective (fun object : String × UInt64 => agentObjectPath object.1 object.2) := by
  rintro ⟨kind, id⟩ ⟨other, number⟩ same
  have lists := congrArg String.toList same
  simp only [agent_object_path_split] at lists
  obtain ⟨front, -⟩ := Words.last_mark_unique _ _ _ _ (digits_unslashed _) (digits_unslashed _) lists
  have kinds : kind = other := by
    simp only [String.toList_append] at front
    exact String.toList_injective (List.append_cancel_left front)
  subst kinds
  rw [agent_object_path_inj kind id number same]

/-- The codec of object paths. An id is recovered from its path, of whatever kind; different
kinds or ids have different paths; a malformed path gives the id that names nothing; and any
other id that is recovered is the number behind the last slash, all of it and unchanged. -/
theorem object_path_codec (library : Identity) :
    (∀ kind id, objectIdFromPath library (agentObjectPath kind id) = id) ∧
    Function.Injective (fun object : String × UInt64 => agentObjectPath object.1 object.2) ∧
    (∀ path, Malformed path → objectIdFromPath library path = library.unset) ∧
    ∀ path, objectIdFromPath library path ≠ library.unset →
      Denotes path (objectIdFromPath library path) :=
  ⟨object_id_from_path library, agent_object_path_injective, object_id_malformed library,
    object_id_denoted library⟩

/-- One beyond the greatest id is no id. -/
theorem overflowing_tail_unset :
    Malformed "/org/librescrs/Agent/reader/18446744073709551616" ∧
      objectIdFromPath countedIds "/org/librescrs/Agent/reader/18446744073709551616" = 0 ∧
      objectIdFromPath countedIds (agentObjectPath "reader" 18446744073709551615) =
        18446744073709551615 := by
  have malformed : Malformed "/org/librescrs/Agent/reader/18446744073709551616" := by
    refine Or.inr ⟨"/org/librescrs/Agent/reader".toList, "18446744073709551616".toList, ?_, ?_, ?_⟩
    · decide +kernel
    · decide +kernel
    · exact Or.inr (Or.inr (by decide +kernel))
  exact ⟨malformed, (object_path_codec countedIds).2.2.1 _ malformed,
    (object_path_codec countedIds).1 _ _⟩

end LibreLinux.Agent
