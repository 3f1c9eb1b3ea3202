import ErSchema.Ddl
import ErSchema.Proofs.Text.Folding
import Mathlib.Data.List.TakeWhile

/-!
# Names that are written as they are

On its way to SQL a name is folded and its blanks are underscored. Neither changes a plain name, one
of ASCII characters that are not blank. Folding makes no blanks either: only blanks decompose to
blanks, so a name without them has none when it is underscored, and stays as it is.

* `writtenName_of_isPlain`: a plain name is written as it is.
* `hasBlank_foldDiacritics`: folding makes no blanks.
* `identifier_of_not_hasBlank`: a name without blanks is not changed by underscoring.
-/

namespace ErSchema

namespace Text

/-! ## Letters and digits -/

theorem isDigit_of_mem_toString {n : Nat} {c : Char} (hc : c ∈ (toString n).toList) :
    c.isDigit = true := by
  rw [Nat.toString_eq_ofList_toDigits, String.toList_ofList] at hc
  exact Nat.isDigit_of_mem_toDigits (by decide) (by decide) hc

theorem toNat_of_isDigit {c : Char} (hc : c.isDigit = true) : 0x20 < c.toNat ∧ c.toNat < 0x80 := by
  simp only [Char.isDigit, Bool.and_eq_true, decide_eq_true_eq, UInt32.le_iff_toNat_le] at hc
  have hlow : 48 ≤ c.toNat := hc.1
  have hhigh : c.toNat ≤ 57 := hc.2
  omega

theorem toNat_of_isAlphanum {c : Char} (hc : c.isAlphanum = true) :
    0x20 < c.toNat ∧ c.toNat < 0x80 := by
  have hval : c.toNat = c.val.toNat := rfl
  have hupper : c.isUpper = true → 65 ≤ c.val ∧ c.val ≤ 90 := of_decide_eq_true
  have hlower : c.isLower = true → 97 ≤ c.val ∧ c.val ≤ 122 :=
    fun h => (Bool.and_eq_true_iff.mp h).imp of_decide_eq_true of_decide_eq_true
  simp only [UInt32.le_iff_toNat_le] at hupper hlower
  rcases Bool.or_eq_true_iff.mp hc with h | h
  · rcases Bool.or_eq_true_iff.mp h with h | h
    · obtain ⟨hlow, hhigh⟩ := hupper h
      exact hval ▸ ⟨Nat.lt_of_lt_of_le (by decide) hlow, Nat.lt_of_le_of_lt hhigh (by decide)⟩
    · obtain ⟨hlow, hhigh⟩ := hlower h
      exact hval ▸ ⟨Nat.lt_of_lt_of_le (by decide) hlow, Nat.lt_of_le_of_lt hhigh (by decide)⟩
  · exact toNat_of_isDigit h

/-! ## Blanks -/

/-- Whether a text holds a blank. -/
def hasBlank (s : String) : Bool := s.toList.any isBlank

theorem hasBlank_append (s t : String) : hasBlank (s ++ t) = (hasBlank s || hasBlank t) := by
  unfold hasBlank
  rw [String.toList_append, List.any_append]

/-- A code point between ranges is in none of them. -/
theorem covers_eq_false_of_gap {ranges : List (Nat × Nat)} {low high n : Nat}
    (h : ∀ r ∈ ranges, r.2 < low ∨ high ≤ r.1) (hn : low ≤ n ∧ n < high) :
    covers ranges n = false := by
  refine Bool.eq_false_iff.mpr fun hcovers => ?_
  obtain ⟨r, hr, hlow, hhigh⟩ := exists_mem_of_covers hcovers
  have := h r hr
  omega

theorem isBlank_eq_false_of_ascii {c : Char} (hc : 0x20 < c.toNat ∧ c.toNat < 0x80) :
    isBlank c = false :=
  covers_eq_false_of_gap (show ∀ r ∈ blankRanges, r.2 < 0x21 ∨ 0x80 ≤ r.1 by decide) hc

theorem hasBlank_toString (n : Nat) : hasBlank (toString n) = false := by
  unfold hasBlank
  rw [List.any_eq_false]
  intro c hc
  simp [isBlank_eq_false_of_ascii (toNat_of_isDigit (isDigit_of_mem_toString hc))]

theorem underscoredFrom_of_not_isBlank {inRun : Bool} {cs : List Char}
    (h : ∀ c ∈ cs, isBlank c = false) : underscoredFrom inRun cs = cs := by
  induction cs generalizing inRun with
  | nil => rfl
  | cons c cs ih =>
    rw [underscoredFrom, if_neg (by simp [h c List.mem_cons_self]),
      ih fun x hx => h x (List.mem_cons_of_mem c hx)]

/-- **A text of blanks alone is one that trimming empties.** -/
theorem isBlankText_iff_trim (s : String) : isBlankText s = true ↔ trim s.toList = [] := by
  unfold isBlankText trim
  generalize s.toList = cs
  rw [List.reverse_eq_nil_iff, List.dropWhile_eq_nil_iff, List.all_eq_true]
  constructor
  · intro h
    simp [List.dropWhile_eq_nil_iff.mpr h]
  · intro h c hc
    rw [← List.takeWhile_append_dropWhile (p := isBlank) (l := cs)] at hc
    rcases List.mem_append.mp hc with hc | hc
    · exact List.mem_takeWhile_imp hc
    · exact h c (List.mem_reverse.mpr hc)

/-! ## Blanks in decompositions -/

theorem isBlank_ofNat {n : Nat} (h : isBlank (Char.ofNat n) = true) :
    covers blankRanges n = true := by
  unfold isBlank at h
  rcases toNat_ofNat_cases n with hn | hn
  · rwa [hn] at h
  · rw [hn] at h
    exact absurd h (by decide)

theorem le_of_covers_blankRanges {n : Nat} (h : covers blankRanges n = true) : n ≤ 0x3000 := by
  obtain ⟨r, hr, -, hhigh⟩ := exists_mem_of_covers h
  exact Nat.le_trans hhigh ((show ∀ r ∈ blankRanges, r.2 ≤ 0x3000 by decide) r hr)

/-- In the tables only blanks have blanks in their rows. -/
theorem blank_rows : ∀ b ∈ Decomposition.blocks, ∀ e ∈ b.entries,
    (e.2.all (fun n => Nat.blt 0x3000 n || !covers blankRanges n) ||
      covers blankRanges e.1) = true := by
  decide +kernel

/-- **Only blanks decompose to blanks.** -/
theorem isBlank_of_mem_decompose {c x : Char} (hx : x ∈ decompose c) (hb : isBlank x = true) :
    isBlank c = true := by
  rcases mem_decompose_cases hx with ⟨-, rfl⟩ | ⟨n, hn, rfl⟩ | ⟨b, hbm, e, he, hc, n, hn, rfl⟩
  · exact hb
  · have hletters : ∀ r ∈ blankRanges, r.2 < 0x1100 ∨ 0x1200 ≤ r.1 := by decide
    have hblank := isBlank_ofNat hb
    rw [covers_eq_false_of_gap hletters hn] at hblank
    exact absurd hblank (by simp)
  · rcases (Bool.or_eq_true _ _).mp (blank_rows b hbm e he) with hnone | hcovers
    · have hblank := isBlank_ofNat hb
      have hle := le_of_covers_blankRanges hblank
      have hnot := List.all_eq_true.mp hnone n hn
      rw [hblank, Bool.not_true, Bool.or_false, Nat.blt_eq] at hnot
      omega
    · rwa [hc] at hcovers

/-- **Folding makes no blanks.** -/
theorem hasBlank_foldDiacritics {s : String} (h : hasBlank s = false) :
    hasBlank (foldDiacritics s) = false := by
  unfold hasBlank at h ⊢
  rw [List.any_eq_false] at h ⊢
  intro x hx hb
  rw [toList_foldDiacritics] at hx
  obtain ⟨c, hc, hmem⟩ := List.mem_flatMap.mp (List.mem_filter.mp hx).1
  exact h c hc (isBlank_of_mem_decompose hmem hb)

/-! ## Plain characters -/

/-- The tables of decompositions begin behind ASCII. -/
theorem decompose_of_ascii {c : Char} (hc : c.toNat < 0x80) : decompose c = [c] := by
  have hrow : Decomposition.row? Decomposition.blocks c.toNat = none :=
    if_pos (Nat.lt_trans hc (by decide))
  unfold decompose
  rw [if_neg (by omega), hrow]

/-- The tables of marks begin behind ASCII. -/
theorem isMark_of_ascii {c : Char} (hc : c.toNat < 0x80) : isMark c = false :=
  Bool.or_eq_false_iff.mpr
    ⟨if_pos (Nat.lt_trans hc (by decide)), if_pos (Nat.lt_trans hc (by decide))⟩

theorem isFolded_of_ascii {s : String} (h : ∀ c ∈ s.toList, c.toNat < 0x80) : IsFolded s :=
  isFolded_of_forall fun c hc => ⟨decompose_of_ascii (h c hc), isMark_of_ascii (h c hc)⟩

theorem isFolded_underscore : IsFolded "_" :=
  isFolded_of_ascii fun c hc => by
    obtain rfl : c = '_' := List.mem_singleton.mp hc
    decide

theorem isFolded_toString (n : Nat) : IsFolded (toString n) :=
  isFolded_of_ascii fun _ hc => (toNat_of_isDigit (isDigit_of_mem_toString hc)).2

end Text

open Text

/-! ## Written names -/

/-- A name without blanks is written as it is. -/
theorem identifier_of_not_hasBlank {s : String} (h : hasBlank s = false) : identifier s = s := by
  unfold hasBlank at h
  rw [List.any_eq_false] at h
  unfold identifier underscored
  rw [underscoredFrom_of_not_isBlank fun c hc => Bool.eq_false_iff.mpr (h c hc),
    String.ofList_toList]

/-- How the name of a table comes to be written. -/
def writtenName (name : String) : String := identifier (foldDiacritics name)

/-- Whether a name is of ASCII characters other than blanks. -/
def IsPlain (name : String) : Prop := ∀ c ∈ name.toList, c.toNat < 0x80 ∧ isBlank c = false

/-- **A plain name is written as it is.** -/
theorem writtenName_of_isPlain {name : String} (h : IsPlain name) : writtenName name = name := by
  have hblank : hasBlank name = false :=
    List.any_eq_false.mpr fun c hc => by simp [(h c hc).2]
  have hfolded : IsFolded name := isFolded_of_ascii fun c hc => (h c hc).1
  unfold writtenName
  rw [hfolded, identifier_of_not_hasBlank hblank]

end ErSchema
