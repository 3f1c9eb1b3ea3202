import ErSchema.Text.Ranges

/-!
# White space in names

A character is blank when it has the Unicode property White_Space. `trim` drops blanks at both
ends of a text, `isBlankText` asks whether nothing else is in it, and `underscored` writes each
run of blanks as one underscore, which is how a name becomes an SQL identifier.

* `not_isBlank_of_mem_underscored`: no blank is left in an underscored text.
-/

namespace ErSchema.Text

/-- The ranges of the property White_Space. -/
def blankRanges : List (Nat × Nat) :=
  [(0x0009, 0x000D), (0x0020, 0x0020), (0x0085, 0x0085), (0x00A0, 0x00A0), (0x1680, 0x1680),
    (0x2000, 0x200A), (0x2028, 0x2029), (0x202F, 0x202F), (0x205F, 0x205F), (0x3000, 0x3000)]

/-- Whether a character is white space. -/
def isBlank (c : Char) : Bool := covers blankRanges c.toNat

/-- A text without the blanks at its two ends. -/
def trim (cs : List Char) : List Char :=
  ((cs.dropWhile isBlank).reverse.dropWhile isBlank).reverse

/-- Whether a text holds blanks only. -/
def isBlankText (s : String) : Bool := s.toList.all isBlank

/-- Writes each run of blanks as one underscore; `inRun` tells that a run has been written. -/
def underscoredFrom (inRun : Bool) : List Char → List Char
  | [] => []
  | c :: cs =>
    if isBlank c then
      if inRun then underscoredFrom true cs else '_' :: underscoredFrom true cs
    else c :: underscoredFrom false cs

/-- A text with each run of blanks written as one underscore. -/
def underscored (cs : List Char) : List Char := underscoredFrom false cs

/-! ## Lemmas -/

theorem isBlank_underscore : isBlank '_' = false := by decide

theorem not_isBlank_of_mem_underscoredFrom {inRun : Bool} {cs : List Char} {c : Char}
    (h : c ∈ underscoredFrom inRun cs) : isBlank c = false := by
  induction cs generalizing inRun with
  | nil => simp [underscoredFrom] at h
  | cons d cs ih =>
    simp only [underscoredFrom] at h
    split at h
    · split at h
      · exact ih h
      · rcases List.mem_cons.mp h with rfl | h
        · exact isBlank_underscore
        · exact ih h
    · rename_i hd
      rcases List.mem_cons.mp h with rfl | h
      · simpa using hd
      · exact ih h

theorem not_isBlank_of_mem_underscored {cs : List Char} {c : Char} (h : c ∈ underscored cs) :
    isBlank c = false :=
  not_isBlank_of_mem_underscoredFrom h

end ErSchema.Text
