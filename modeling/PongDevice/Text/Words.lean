import PongDevice.Text.CString

/-! The words that a stream reads from a text, one after the other until there is none left. A text
that goes on after a space keeps its words, and those of what follows come after them.
-/

namespace PongDevice.Text

/-- `stream >> word`: the word after the spaces, and the text after it. -/
def nextWord (text : List Char) : Option (List Char × List Char) :=
  let rest := text.dropWhile isSpace
  if rest.isEmpty then none
  else some (rest.takeWhile (!isSpace ·), rest.dropWhile (!isSpace ·))

/-- There is no word in a text of spaces only. -/
theorem nextWord_eq_none {text : List Char}
    : nextWord text = none ↔ text.dropWhile isSpace = [] := by
  simp [nextWord]

/-- The word and what follows it are what is left of the text after the spaces. -/
theorem nextWord_eq_some {text word rest : List Char}
    : nextWord text = some (word, rest)
      ↔ text.dropWhile isSpace ≠ []
        ∧ (text.dropWhile isSpace).takeWhile (!isSpace ·) = word
        ∧ (text.dropWhile isSpace).dropWhile (!isSpace ·) = rest := by
  simp [nextWord]

/-- A word takes a character at least. -/
theorem length_of_nextWord {text word rest : List Char} (read : nextWord text = some (word, rest))
    : rest.length < text.length := by
  obtain ⟨shown, -, rfl⟩ := nextWord_eq_some.mp read
  have first : isSpace ((text.dropWhile isSpace).head shown) = false :=
    List.head_dropWhile_not isSpace shown
  obtain ⟨char, later, begins⟩ := List.exists_cons_of_ne_nil shown
  have past : later.length < text.length := by
    have whole := (List.dropWhile_sublist (l := text) isSpace).length_le
    rw [begins, List.length_cons] at whole
    exact whole
  have skipped : isSpace char = false := by simpa [begins] using first
  rw [begins, List.dropWhile_cons_of_pos (by simp [skipped])]
  exact Nat.lt_of_le_of_lt (List.dropWhile_sublist _).length_le past

/-- `while (stream >> word)`. -/
def words (text : List Char) : List (List Char) :=
  match _read : nextWord text with
  | none => []
  | some (word, rest) => word :: words rest
termination_by text.length
decreasing_by exact length_of_nextWord _read

theorem words_of_none {text : List Char} (ended : nextWord text = none) : words text = [] := by
  rw [words]
  split
  · rfl
  · rename_i read
    rw [ended] at read
    cases read

theorem words_of_some {text word rest : List Char} (read : nextWord text = some (word, rest))
    : words text = word :: words rest := by
  rw [words]
  split
  · rename_i ended
    rw [read] at ended
    cases ended
  · rename_i found
    rw [read] at found
    cases found
    rfl

/-- Spaces before a text are nothing to its words. -/
theorem words_append_of_blank {blank text : List Char} (spaces : blank.dropWhile isSpace = [])
    : words (blank ++ text) = words text := by
  have same : nextWord (blank ++ text) = nextWord text := by
    simp [nextWord, List.dropWhile_append, spaces]
  cases read : nextWord text with
  | none => rw [words_of_none read, words_of_none (same.trans read)]
  | some found => rw [words_of_some read, words_of_some (same.trans read)]

/-- A word is read in the same way however the text goes on after a space. -/
theorem nextWord_append {text word rest : List Char} (read : nextWord text = some (word, rest))
    {space : Char} (blank : isSpace space = true) (later : List Char)
    : nextWord (text ++ space :: later) = some (word, rest ++ space :: later) := by
  obtain ⟨shown, rfl, rfl⟩ := nextWord_eq_some.mp read
  have skipped
      : (text ++ space :: later).dropWhile isSpace
        = text.dropWhile isSpace ++ space :: later := by
    rw [List.dropWhile_append, if_neg (by simpa using shown)]
  refine nextWord_eq_some.mpr ⟨by simp [skipped, shown], ?_, ?_⟩
  · rw [skipped, List.takeWhile_append]
    split
    · rename_i whole
      rw [List.takeWhile_cons_of_neg (by simp [blank]), List.append_nil]
      exact ((List.takeWhile_prefix _).eq_of_length whole).symm
    · rfl
  · rw [skipped, List.dropWhile_append]
    split
    · rename_i none
      rw [List.dropWhile_cons_of_neg (by simp [blank]), List.isEmpty_iff.mp none, List.nil_append]
    · rfl

/-- The words of a text that goes on after a space, by induction over the words. -/
theorem words_append (text : List Char) {space : Char} (blank : isSpace space = true)
    (later : List Char)
    : words (text ++ space :: later) = words text ++ words later := by
  induction text using words.induct with
  | case1 text ended =>
      have spaces : (text ++ [space]).dropWhile isSpace = [] := by
        rw [List.dropWhile_append, nextWord_eq_none.mp ended]
        simp [blank]
      rw [words_of_none ended, List.nil_append, List.append_cons]
      exact words_append_of_blank spaces
  | case2 text word rest read ih =>
      rw [words_of_some read, words_of_some (nextWord_append read blank later), ih,
        List.cons_append]

/-- A text has no more words than characters, by induction over the words. -/
theorem length_words_le (text : List Char) : (words text).length ≤ text.length := by
  induction text using words.induct with
  | case1 text ended => simp [words_of_none ended]
  | case2 text word rest read ih =>
      have shorter := length_of_nextWord read
      rw [words_of_some read, List.length_cons]
      omega

end PongDevice.Text
