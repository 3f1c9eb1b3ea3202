import Mathlib.Data.List.Basic

/-!
# Counting occurrences

How often a text occurs in a longer one, at any position. A longer text is cut where no occurrence
can lie across: at a character that the pattern does not have. A pattern of two words is found where
two words meet, of which the first ends and the second begins like its own.

* `occurrences_append`: a character that is not in the pattern separates.
* `occurrences_words`: a pattern of two words occurs where words meet.
* `occurrences_intercalate`: items between separators are counted one by one.
* `precedes_of_append`: patterns that occur on the two sides of a character come one before the
  other.
-/

namespace ErSchema.Text

/-- The number of positions of a text at which a pattern, not an empty one, occurs. -/
def occurrences (p : List Char) : List Char → Nat
  | [] => 0
  | c :: cs => (if p.isPrefixOf (c :: cs) then 1 else 0) + occurrences p cs

/-- The number of occurrences of a pattern in several texts. -/
def occurrencesAll (p : List Char) : List (List Char) → Nat
  | [] => 0
  | s :: ss => occurrences p s + occurrencesAll p ss

variable {p : List Char} {c : Char}

theorem isPrefixOf_append_cons (hc : c ∉ p) (a b : List Char) :
    p.isPrefixOf (a ++ c :: b) = p.isPrefixOf a := by
  induction p generalizing a with
  | nil => simp
  | cons x p ih =>
    cases a with
    | nil => simp [List.isPrefixOf, Ne.symm (List.ne_of_not_mem_cons hc)]
    | cons y a => simp [List.isPrefixOf, ih (List.not_mem_of_not_mem_cons hc)]

/-- **A character that is not in the pattern separates.** -/
theorem occurrences_append (hp : p ≠ []) (hc : c ∉ p) (a b : List Char) :
    occurrences p (a ++ c :: b) = occurrences p a + occurrences p b := by
  induction a with
  | nil =>
    have h : p.isPrefixOf (c :: b) = p.isPrefixOf [] := isPrefixOf_append_cons hc [] b
    cases p with
    | nil => exact absurd rfl hp
    | cons x p =>
      simp only [List.nil_append, occurrences, h]
      rfl
  | cons x a ih =>
    rw [List.cons_append, occurrences, occurrences, ih, ← List.cons_append,
      isPrefixOf_append_cons hc, Nat.add_assoc]

/-- A text without some character of the pattern has no occurrence. -/
theorem occurrences_of_not_mem (hc : c ∈ p) {s : List Char} (hs : c ∉ s) : occurrences p s = 0 := by
  induction s with
  | nil => rfl
  | cons x s ih =>
    have h : ¬ p.isPrefixOf (x :: s) = true := fun h =>
      hs ((List.isPrefixOf_iff_prefix.mp h).subset hc)
    rw [occurrences, if_neg h, ih fun hm => hs (List.mem_cons_of_mem x hm)]

/-- Text without the first character of the pattern is left out. -/
theorem occurrences_append_of_head {x : Char} (hp : p.head? = some x) {a : List Char} (ha : x ∉ a)
    (b : List Char) : occurrences p (a ++ b) = occurrences p b := by
  induction a with
  | nil => rfl
  | cons y a ih =>
    have h : ¬ p.isPrefixOf (y :: a ++ b) = true := by
      intro h
      cases p with
      | nil => exact absurd hp (by simp)
      | cons z p =>
        have hzy := (List.cons_prefix_cons.mp (List.isPrefixOf_iff_prefix.mp h)).1
        have hzx : z = x := Option.some.inj hp
        exact ha (by rw [← hzx, hzy]; exact List.mem_cons_self)
    rw [List.cons_append, occurrences, ← List.cons_append, if_neg h,
      ih fun hm => ha (List.mem_cons_of_mem y hm), Nat.zero_add]

/-! ## Words -/

/-- Where the text up to the first `c` is cut off, the pattern is cut off too. -/
theorem prefix_word_iff {q r w b : List Char} (hq : c ∉ q) (hw : c ∉ w) :
    q ++ c :: r <+: w ++ c :: b ↔ q = w ∧ r <+: b := by
  induction q generalizing w with
  | nil =>
    cases w with
    | nil => simp
    | cons y w =>
      have hne : c ≠ y := List.ne_of_not_mem_cons hw
      simp [hne]
  | cons x q ih =>
    cases w with
    | nil =>
      have hne : x ≠ c := (List.ne_of_not_mem_cons hq).symm
      simp [hne]
    | cons y w =>
      rw [List.cons_append, List.cons_append, List.cons_prefix_cons,
        ih (List.not_mem_of_not_mem_cons hq) (List.not_mem_of_not_mem_cons hw), List.cons.injEq,
        and_assoc]

/-- **A pattern of two words occurs at the end of a word** if that ends with the first, and what
follows begins with the second. -/
theorem occurrences_word {q r w b : List Char} (hq : c ∉ q) (hw : c ∉ w) :
    occurrences (q ++ c :: r) (w ++ c :: b) =
      (if q <:+ w ∧ r <+: b then 1 else 0) + occurrences (q ++ c :: r) b := by
  induction w with
  | nil =>
    simp only [List.nil_append, occurrences, List.isPrefixOf_iff_prefix, List.suffix_nil]
    exact congrArg (· + _) (if_congr (prefix_word_iff hq hw) rfl rfl)
  | cons x w ih =>
    have hstart : (q ++ c :: r).isPrefixOf (x :: w ++ c :: b) = true ↔ q = x :: w ∧ r <+: b := by
      rw [List.isPrefixOf_iff_prefix, prefix_word_iff hq hw]
    rw [List.cons_append] at hstart ⊢
    rw [occurrences, ih (List.not_mem_of_not_mem_cons hw), if_congr hstart rfl rfl]
    simp only [List.suffix_cons_iff]
    by_cases hwhole : q = x :: w
    · -- a whole word is no end of the rest of it
      have hlonger : ¬ q <:+ w := fun h => by
        have hle := h.length_le
        rw [hwhole, List.length_cons] at hle
        omega
      simp [hwhole, hwhole ▸ hlonger]
    · simp [hwhole]

/-- The number of words that end like the first of two and have behind them one that begins like the
second. -/
def meetings (q r : List Char) : List (List Char) → Nat
  | w :: v :: ws => (if q <:+ w ∧ r <+: v then 1 else 0) + meetings q r (v :: ws)
  | _ => 0

/-- **A pattern of two words occurs where words meet.** -/
theorem occurrences_words {q r : List Char} (hq : c ∉ q) (hr : c ∉ r) {ws : List (List Char)}
    (hws : ∀ w ∈ ws, c ∉ w) : occurrences (q ++ c :: r) ([c].intercalate ws) = meetings q r ws := by
  have hmem : c ∈ q ++ c :: r := by simp
  induction ws with
  | nil => rfl
  | cons w ws ih =>
    obtain ⟨hw, hws⟩ := List.forall_mem_cons.mp hws
    cases ws with
    | nil =>
      rw [List.intercalate_singleton, occurrences_of_not_mem hmem hw]
      rfl
    | cons v ws =>
      have hnext : r <+: [c].intercalate (v :: ws) ↔ r <+: v := by
        cases ws with
        | nil => rw [List.intercalate_singleton]
        | cons u us =>
          rw [List.intercalate_cons_cons, List.append_assoc, ← List.isPrefixOf_iff_prefix,
            ← List.isPrefixOf_iff_prefix]
          exact iff_of_eq (congrArg (· = true) (isPrefixOf_append_cons hr v _))
      rw [List.intercalate_cons_cons, List.append_assoc, List.singleton_append,
        occurrences_word hq hw, ih hws, meetings, if_congr (and_congr_right fun _ => hnext) rfl rfl]

/-! ## Separators -/

/-- **Items between separators are counted one by one**, if the separators begin with a character
that is not in the pattern and go on without the first character of the pattern. -/
theorem occurrences_intercalate {x : Char} (hp : p.head? = some x) (hc : c ∉ p) {s : List Char}
    (hs : x ∉ s) (xs : List (List Char)) :
    occurrences p ((c :: s).intercalate xs) = occurrencesAll p xs := by
  have hne : p ≠ [] := by
    rintro rfl
    exact absurd hp (by simp)
  induction xs with
  | nil => rfl
  | cons x xs ih =>
    cases xs with
    | nil => simp [occurrencesAll]
    | cons y ys =>
      rw [List.intercalate_cons_cons, List.append_assoc, List.cons_append,
        occurrences_append hne hc, occurrences_append_of_head hp hs, ih]
      rfl

theorem occurrencesAll_append (xs ys : List (List Char)) :
    occurrencesAll p (xs ++ ys) = occurrencesAll p xs + occurrencesAll p ys := by
  induction xs with
  | nil => simp [occurrencesAll]
  | cons x xs ih => rw [List.cons_append, occurrencesAll, occurrencesAll, ih, Nat.add_assoc]

/-! ## Positions -/

/-- Whether a pattern occurs at a position of a text. -/
def OccursAt (p s : List Char) (i : Nat) : Prop := p <+: s.drop i

theorem not_occursAt (hp : p ≠ []) {s : List Char} (hs : occurrences p s = 0) (i : Nat) :
    ¬ OccursAt p s i := by
  induction s generalizing i with
  | nil => simpa [OccursAt] using hp
  | cons x s ih =>
    rw [occurrences, Nat.add_eq_zero_iff] at hs
    cases i with
    | zero =>
      intro h
      have hstart : p.isPrefixOf (x :: s) = true := List.isPrefixOf_iff_prefix.mpr h
      rw [if_pos hstart] at hs
      exact absurd hs.1 (by simp)
    | succ i => exact ih hs.2 i

theorem OccursAt.le_length (hp : p ≠ []) {s : List Char} {i : Nat} (h : OccursAt p s i) :
    i + p.length ≤ s.length := by
  have hle := h.length_le
  have hpos := List.length_pos_of_ne_nil hp
  rw [List.length_drop] at hle
  omega

/-- **A pattern occurs on one side** of a character that it does not have. -/
theorem occursAt_append (hc : c ∉ p) {a b : List Char} {i : Nat}
    (h : OccursAt p (a ++ c :: b) i) :
    OccursAt p a i ∨ ∃ j, i = a.length + 1 + j ∧ OccursAt p b j := by
  unfold OccursAt at h ⊢
  rw [List.drop_append] at h
  by_cases hi : i ≤ a.length
  · rw [Nat.sub_eq_zero_of_le hi, List.drop_zero, ← List.isPrefixOf_iff_prefix,
      isPrefixOf_append_cons hc, List.isPrefixOf_iff_prefix] at h
    exact Or.inl h
  · obtain ⟨j, rfl⟩ := Nat.exists_eq_add_of_le (Nat.lt_of_not_le hi)
    have hpast : a.length + 1 + j - a.length = j + 1 := by omega
    rw [List.drop_eq_nil_of_le (by omega), List.nil_append, hpast, List.drop_succ_cons] at h
    exact Or.inr ⟨j, rfl, h⟩

/-- **A pattern occurs before another** if a character that neither has parts a text so that the one
does not occur behind it, nor the other in front. -/
theorem precedes_of_append {p' : List Char} (hp : p ≠ []) (hp' : p' ≠ []) (hc : c ∉ p)
    (hc' : c ∉ p') {a b : List Char} (hb : occurrences p b = 0) (ha : occurrences p' a = 0)
    {i j : Nat} (hi : OccursAt p (a ++ c :: b) i) (hj : OccursAt p' (a ++ c :: b) j) :
    i + p.length ≤ j := by
  rcases occursAt_append hc hi with hi | ⟨i, -, hi⟩
  · rcases occursAt_append hc' hj with hj | ⟨j, rfl, -⟩
    · exact absurd hj (not_occursAt hp' ha j)
    · have hle := hi.le_length hp
      omega
  · exact absurd hi (not_occursAt hp hb i)

end ErSchema.Text
