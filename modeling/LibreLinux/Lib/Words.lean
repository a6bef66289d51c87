import Mathlib.Data.List.TakeWhile

/-!
# Words of a text, and what follows a mark

The words of a text are its maximal runs without a separator. A reader extracts them
one at a time: it skips separators, takes what follows up to the next separator, and
leaves the rest. A reader that stops after a bounded number of extractions has read
that many of the first words, whatever separates them.

What follows the last occurrence of a mark is found from the end of the text, so
that earlier marks do not matter.
-/

namespace LibreLinux.Words

universe u
variable {α : Type u}

section Words

variable (separator : α → Bool)

/-- The words of a text. -/
def words (text : List α) : List (List α) :=
  (text.splitOnP separator).filter (fun word => !word.isEmpty)

/-- One extraction: the next word and the rest, unless only separators are left. -/
def extract (text : List α) : Option (List α × List α) :=
  match text.dropWhile separator with
  | [] => none
  | first :: rest =>
    some ((first :: rest).takeWhile (fun item => !separator item),
      (first :: rest).dropWhile (fun item => !separator item))

/-- Extract at most `limit` words. -/
def extractWords : Nat → List α → List (List α)
  | 0, _ => []
  | limit + 1, text =>
    match extract separator text with
    | none => []
    | some (word, rest) => word :: extractWords limit rest

variable {separator}

/-- An empty text has no words. -/
theorem words_nil : words separator [] = [] := by
  simp [words]

/-- A separator in front adds no word. -/
theorem words_separator (item : α) (rest : List α) (separates : separator item = true) :
    words separator (item :: rest) = words separator rest := by
  simp [words, List.splitOnP_cons_eq_if_modifyHead, separates]

/-- Separators in front add no word. -/
theorem words_drop_separators (text : List α) :
    words separator (text.dropWhile separator) = words separator text := by
  induction text with
  | nil => rfl
  | cons item rest inductionHypothesis =>
    by_cases separates : separator item = true
    · rw [List.dropWhile_cons_of_pos separates, inductionHypothesis,
        words_separator item rest separates]
    · rw [List.dropWhile_cons_of_neg separates]

/-- A run without separators that nothing continues is the first word. -/
theorem words_run (run rest : List α) (nonempty : run ≠ [])
    (unseparated : ∀ item ∈ run, separator item = false)
    (ended : ∀ item, rest.head? = some item → separator item = true) :
    words separator (run ++ rest) = run :: words separator rest := by
  cases rest with
  | nil => simp [words, List.splitOnP_eq_singleton unseparated, nonempty]
  | cons item rest =>
    have separates : separator item = true := ended item rfl
    rw [words_separator item rest separates, words,
      List.splitOnP_append_cons_of_forall_mem unseparated item separates, List.filter_cons_of_pos]
    · rfl
    · simpa using nonempty

/-- The words are what the next extraction takes and the words of what it leaves. -/
theorem words_extract (text : List α) :
    words separator text =
      match extract separator text with
      | none => []
      | some (word, rest) => word :: words separator rest := by
  rw [← words_drop_separators text]
  unfold extract
  cases left : text.dropWhile separator with
  | nil => simp [words]
  | cons first rest =>
    have starts : separator first = false := by
      have stopped := List.dropWhile_get_zero_not separator text (by simp [left])
      simpa [left] using stopped
    have split : (first :: rest).takeWhile (fun item => !separator item) ++
        (first :: rest).dropWhile (fun item => !separator item) = first :: rest :=
      List.takeWhile_append_dropWhile
    have ended : ∀ item, ((first :: rest).dropWhile (fun item => !separator item)).head? =
        some item → separator item = true := by
      intro item headed
      have stopped := List.head?_dropWhile_not (fun item => !separator item) (first :: rest)
      rw [headed] at stopped
      simpa using stopped
    have unseparated : ∀ item ∈ (first :: rest).takeWhile (fun item => !separator item),
        separator item = false := by
      intro item member
      have kept := List.mem_takeWhile_imp member
      simpa using kept
    have run := words_run ((first :: rest).takeWhile (fun item => !separator item)) _
      (by simp [starts]) unseparated ended
    rw [split] at run
    exact run

/-- A bounded reader has read the first words. -/
theorem extract_words_eq_take (limit : Nat) (text : List α) :
    extractWords separator limit text = (words separator text).take limit := by
  induction limit generalizing text with
  | zero => simp [extractWords]
  | succ limit inductionHypothesis =>
    rw [words_extract text, extractWords]
    cases extract separator text with
    | none => simp
    | some taken => simp [inductionHypothesis]

/-- A word has no separator in it. -/
theorem mem_words_unseparated (text word : List α) (member : word ∈ words separator text) :
    ∀ item ∈ word, separator item = false := by
  have pieces : ∀ piece ∈ text.splitOnP separator, ∀ item ∈ piece, separator item = false := by
    clear member
    induction text with
    | nil => simp
    | cons first rest inductionHypothesis =>
      rw [List.splitOnP_cons_eq_if_modifyHead]
      by_cases separates : separator first = true
      · simpa [separates] using inductionHypothesis
      · cases split : rest.splitOnP separator with
        | nil => exact absurd split (List.splitOnP_ne_nil separator rest)
        | cons piece pieces =>
          simp only [split, List.forall_mem_cons] at inductionHypothesis
          simpa [separates] using inductionHypothesis
  exact pieces word (List.mem_filter.mp member).1

end Words

section Mark

variable [DecidableEq α] (mark : α)

/-- The text behind the last mark. -/
def behindLast : List α → Option (List α)
  | [] => none
  | item :: rest =>
    match behindLast rest with
    | some tail => some tail
    | none => if item = mark then some rest else none

variable {mark}

/-- A text without the mark holds no last mark. -/
theorem behind_last_none (text : List α) (unmarked : mark ∉ text) :
    behindLast mark text = none := by
  induction text with
  | nil => rfl
  | cons item rest inductionHypothesis =>
    rw [List.mem_cons, not_or] at unmarked
    simp only [behindLast, inductionHypothesis unmarked.2, Ne.symm unmarked.1, if_false]

/-- What follows a mark and holds none is behind the last mark. -/
theorem behind_last_append (front tail : List α) (unmarked : mark ∉ tail) :
    behindLast mark (front ++ mark :: tail) = some tail := by
  induction front with
  | nil => simp [behindLast, behind_last_none tail unmarked]
  | cons item rest inductionHypothesis =>
    simp only [List.cons_append, behindLast, inductionHypothesis]

/-- A text with the mark has a last one. -/
theorem last_mark_split (text : List α) (marked : mark ∈ text) :
    ∃ front tail, text = front ++ mark :: tail ∧ mark ∉ tail := by
  induction text with
  | nil => cases marked
  | cons item rest inductionHypothesis =>
    by_cases later : mark ∈ rest
    · obtain ⟨front, tail, split, unmarked⟩ := inductionHypothesis later
      exact ⟨item :: front, tail, by rw [split, List.cons_append], unmarked⟩
    · rcases List.mem_cons.mp marked with rfl | deeper
      · exact ⟨[], rest, rfl, later⟩
      · exact absurd deeper later

/-- It splits the text in one way. -/
theorem last_mark_unique (front other tail rest : List α) (unmarked : mark ∉ tail)
    (unmarkedToo : mark ∉ rest) (same : front ++ mark :: tail = other ++ mark :: rest) :
    front = other ∧ tail = rest := by
  have found := behind_last_append front tail unmarked
  rw [same, behind_last_append other rest unmarkedToo] at found
  cases found
  exact ⟨List.append_cancel_right same, rfl⟩

end Mark

end LibreLinux.Words
