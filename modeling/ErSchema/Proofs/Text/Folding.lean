import ErSchema.Proofs.Text.CharacterData
import ErSchema.Text.Fold
import Mathlib.Data.List.Basic

/-!
# Folding character by character

Normal form D moves no characters but those of a class other than 0, and these are marks. Marks are
dropped when a name is folded, so folding does not see their order: each character is decomposed by
itself, and what is no mark stays of it. A decomposition does not decompose any further, so a name
that is folded once is left alone by further folding. What this says of the tables is checked row by
row, with searches that the kernel computes at once.

* `isMark_of_combiningClass`: a character that is moved is a mark.
* `decompose_of_mem_decompose`: a decomposition is a full one.
* `characterTables`: with these two, the laws of folding hold by the tables of this library.
* `foldDiacritics_append`: texts fold piece by piece.
* `isFolded_foldDiacritics`: a folded name is one that folding leaves alone.
* `foldDiacritics_lawful`: folding is a homomorphism and idempotent, by these and by other tables.
-/

namespace ErSchema.Text

/-! ## Characters that are moved -/

theorem mem_of_valueAt {α : Type} {table : List (Nat × Nat × α)} {n : Nat} {a : α}
    (h : valueAt table n = some a) : ∃ r ∈ table, r.1 ≤ n ∧ n ≤ r.2.1 := by
  induction table with
  | nil => simp [valueAt] at h
  | cons r rest ih =>
    obtain ⟨first, last, b⟩ := r
    simp only [valueAt] at h
    split at h
    · contradiction
    · split at h
      · exact ⟨_, List.mem_cons_self, by omega, by omega⟩
      · obtain ⟨r, hr, hn⟩ := ih h
        exact ⟨r, List.mem_cons_of_mem _ hr, hn⟩

/-- A code point is covered if it lies in a range, since the ranges before it begin further below.
-/
theorem covers_of_mem {ranges : List (Nat × Nat)} (hranges : ranges.Pairwise (·.1 ≤ ·.1)) {n : Nat}
    {r : Nat × Nat} (hr : r ∈ ranges) (hlow : r.1 ≤ n) (hhigh : n ≤ r.2) :
    covers ranges n = true := by
  induction ranges with
  | nil => exact absurd hr List.not_mem_nil
  | cons m rest ih =>
    obtain ⟨first, last⟩ := m
    obtain ⟨hfirst, hrest⟩ := List.pairwise_cons.mp hranges
    simp only [covers]
    rcases List.mem_cons.mp hr with rfl | hr
    · rw [if_neg (by simpa using hlow), if_pos hhigh]
    · have hle : first ≤ r.1 := hfirst r hr
      rw [if_neg (by omega), ih hrest hr]
      split <;> rfl

/-- What is left of an ascending table when ascending ranges take off its front what lies in them.
-/
def outside (table : List (Nat × Nat × Nat)) (ranges : List (Nat × Nat)) :
    List (Nat × Nat × Nat) :=
  ranges.foldl (fun rest m => rest.dropWhile fun r => Nat.ble m.1 r.1 && Nat.ble r.2.1 m.2) table

theorem within_or_mem_outside {table : List (Nat × Nat × Nat)} (ranges : List (Nat × Nat))
    {r : Nat × Nat × Nat} (hr : r ∈ table) :
    (∃ m ∈ ranges, m.1 ≤ r.1 ∧ r.2.1 ≤ m.2) ∨ r ∈ outside table ranges := by
  induction ranges generalizing table with
  | nil => exact Or.inr hr
  | cons m ranges ih =>
    rw [← List.takeWhile_append_dropWhile
      (p := fun r => Nat.ble m.1 r.1 && Nat.ble r.2.1 m.2) (l := table)] at hr
    rcases List.mem_append.mp hr with hr | hr
    · have hwithin := List.all_eq_true.mp List.all_takeWhile r hr
      simp only [Bool.and_eq_true, Nat.ble_eq] at hwithin
      exact Or.inl ⟨m, List.mem_cons_self, hwithin⟩
    · exact (ih hr).imp_left fun ⟨m', hm', hwithin⟩ => ⟨m', List.mem_cons_of_mem m hm', hwithin⟩

theorem covers_of_outside_eq_nil {table : List (Nat × Nat × Nat)} {ranges : List (Nat × Nat)}
    (hranges : ranges.Pairwise (·.1 ≤ ·.1)) (h : outside table ranges = []) {n a : Nat}
    (hn : valueAt table n = some a) : covers ranges n = true := by
  obtain ⟨r, hr, hlow, hhigh⟩ := mem_of_valueAt hn
  rcases within_or_mem_outside ranges hr with ⟨m, hm, hfirst, hlast⟩ | hout
  · exact covers_of_mem hranges hm (Nat.le_trans hfirst hlow) (Nat.le_trans hhigh hlast)
  · rw [h] at hout
    exact absurd hout List.not_mem_nil

theorem markRanges_ascend : markRanges.Pairwise (·.1 ≤ ·.1) :=
  List.isChain_iff_pairwise.mp (by decide +kernel)

theorem supplementaryMarkRanges_ascend : supplementaryMarkRanges.Pairwise (·.1 ≤ ·.1) :=
  List.isChain_iff_pairwise.mp (by decide +kernel)

theorem outside_markRanges : outside classRanges markRanges = [] := by decide +kernel

theorem outside_supplementaryMarkRanges :
    outside supplementaryClassRanges supplementaryMarkRanges = [] := by
  decide +kernel

/-- **A character that is moved is a mark.** -/
theorem isMark_of_combiningClass {c : Char} (hc : combiningClass c ≠ 0) : isMark c = true := by
  unfold isMark
  rw [Bool.or_eq_true]
  unfold combiningClass at hc
  split at hc
  · rename_i n hn
    exact Or.inl (covers_of_outside_eq_nil markRanges_ascend outside_markRanges hn)
  · cases hv : valueAt supplementaryClassRanges c.toNat with
    | some n =>
      exact Or.inr
        (covers_of_outside_eq_nil supplementaryMarkRanges_ascend outside_supplementaryMarkRanges hv)
    | none =>
      rw [hv] at hc
      exact absurd rfl hc

/-! ## Decompositions -/

theorem mem_of_row? {bs : List Decomposition.Block} {n : Nat} {row : List Nat}
    (h : Decomposition.row? bs n = some row) : ∃ b ∈ bs, (n, row) ∈ b.entries := by
  induction bs with
  | nil => exact absurd h (by simp [Decomposition.row?])
  | cons b bs ih =>
    simp only [Decomposition.row?] at h
    split at h
    · exact absurd h (by simp)
    · split at h
      · exact ⟨b, List.mem_cons_self, mem_of_entryAt h⟩
      · obtain ⟨b', hb', hmem⟩ := ih h
        exact ⟨b', List.mem_cons_of_mem b hb', hmem⟩

/-- The letters of a Hangul syllable lie in one range of the code space. -/
theorem hangulLetters_bounds {n m : Nat} (hn : 0xAC00 ≤ n ∧ n ≤ 0xD7A3)
    (hm : m ∈ hangulLetters n) : 0x1100 ≤ m ∧ m < 0x1200 := by
  simp only [hangulLetters] at hm
  split at hm <;> simp only [List.mem_cons, List.not_mem_nil, or_false] at hm <;> omega

/-- **What a decomposition gives**: the character itself, a letter of a Hangul syllable, or a
character of its row in the tables. -/
theorem mem_decompose_cases {c x : Char} (hx : x ∈ decompose c) :
    (decompose c = [c] ∧ x = c) ∨ (∃ n, (0x1100 ≤ n ∧ n < 0x1200) ∧ x = Char.ofNat n) ∨
      ∃ b ∈ Decomposition.blocks, ∃ e ∈ b.entries, e.1 = c.toNat ∧ ∃ n ∈ e.2, x = Char.ofNat n := by
  unfold decompose at hx ⊢
  split at hx
  · rename_i hc
    obtain ⟨n, hn, rfl⟩ := List.mem_map.mp hx
    exact Or.inr (Or.inl ⟨n, hangulLetters_bounds hc hn, rfl⟩)
  · rename_i hc
    rw [if_neg hc]
    split at hx
    · rename_i row hrow
      obtain ⟨n, hn, rfl⟩ := List.mem_map.mp hx
      obtain ⟨b, hb, he⟩ := mem_of_row? hrow
      exact Or.inr (Or.inr ⟨b, hb, _, he, rfl, n, hn, rfl⟩)
    · exact Or.inl ⟨rfl, List.mem_singleton.mp hx⟩

/-- A number that is no code point makes the character of code point 0. -/
theorem toNat_ofNat_cases (n : Nat) : (Char.ofNat n).toNat = n ∨ (Char.ofNat n).toNat = 0 := by
  unfold Char.ofNat
  by_cases hn : n.isValidChar
  · rw [dif_pos hn]
    exact Or.inl rfl
  · rw [dif_neg hn]
    exact Or.inr rfl

theorem decompose_ofNat {n : Nat} (hn : n < 0xAC00 ∨ 0xD7A3 < n)
    (hrow : Decomposition.row? Decomposition.blocks n = none) :
    decompose (Char.ofNat n) = [Char.ofNat n] := by
  have hzero : Decomposition.row? Decomposition.blocks 0 = none := rfl
  unfold decompose
  rcases toNat_ofNat_cases n with h | h
  · rw [h, if_neg (by omega), hrow]
  · rw [h, if_neg (by omega), hzero]

/-! ## Rows of the tables -/

/-- No letter of a Hangul syllable has a row. -/
theorem keys_bounds : ∀ b ∈ Decomposition.blocks, ∀ e ∈ b.entries, e.1 < 0x1100 ∨ 0x1200 ≤ e.1 := by
  decide +kernel

theorem row?_eq_none_of_letter {n : Nat} (hn : 0x1100 ≤ n ∧ n < 0x1200) :
    Decomposition.row? Decomposition.blocks n = none := by
  cases hrow : Decomposition.row? Decomposition.blocks n with
  | none => rfl
  | some row =>
    obtain ⟨b, hb, he⟩ := mem_of_row? hrow
    have hkey : n < 0x1100 ∨ 0x1200 ≤ n := keys_bounds b hb _ he
    omega

/-- Whether a code point has an entry, asked by comparisons that the kernel computes at once. -/
def isKey {α : Type} : List (Nat × α) → Nat → Bool
  | [], _ => false
  | e :: rest, n => Nat.ble e.1 n && (Nat.beq e.1 n || isKey rest n)

theorem entryAt_eq_none {α : Type} {table : List (Nat × α)} {n : Nat} (h : isKey table n = false) :
    entryAt table n = none := by
  induction table with
  | nil => rfl
  | cons e rest ih =>
    rw [entryAt]
    split
    · rfl
    · rename_i hle
      rw [isKey, Nat.ble_eq_true_of_le (by omega), Bool.true_and, Bool.or_eq_false_iff] at h
      rw [if_neg fun heq => Nat.ne_of_beq_eq_false h.1 heq.symm, ih h.2]

/-- Whether a code point has a row, asked in the same way. -/
def hasRow : List Decomposition.Block → Nat → Bool
  | [], _ => false
  | b :: rest, n =>
    Nat.ble b.first n && bif Nat.ble n b.last then isKey b.entries n else hasRow rest n

theorem row?_eq_none {bs : List Decomposition.Block} {n : Nat} (h : hasRow bs n = false) :
    Decomposition.row? bs n = none := by
  induction bs with
  | nil => rfl
  | cons b bs ih =>
    rw [Decomposition.row?]
    split
    · rfl
    · rename_i hfirst
      rw [hasRow, Nat.ble_eq_true_of_le (by omega), Bool.true_and] at h
      split
      · rename_i hlast
        rw [Nat.ble_eq_true_of_le hlast, cond_true] at h
        exact entryAt_eq_none h
      · rename_i hlast
        rw [Bool.eq_false_iff.mpr (mt Nat.le_of_ble_eq_true hlast), cond_false] at h
        exact ih h

/-- No row of the tables has a character that decomposes. -/
theorem rows_decompose : ∀ b ∈ Decomposition.blocks, ∀ e ∈ b.entries, e.2.all (fun n =>
    (Nat.blt n 0xAC00 || Nat.blt 0xD7A3 n) && !hasRow Decomposition.blocks n) = true := by
  decide +kernel

/-- **A decomposition is a full one.** -/
theorem decompose_of_mem_decompose {c x : Char} (hx : x ∈ decompose c) : decompose x = [x] := by
  rcases mem_decompose_cases hx with ⟨hc, rfl⟩ | ⟨n, hn, rfl⟩ | ⟨b, hb, e, he, -, n, hn, rfl⟩
  · exact hc
  · exact decompose_ofNat (by omega) (row?_eq_none_of_letter hn)
  · have hrow := List.all_eq_true.mp (rows_decompose b hb e he) n hn
    simp only [Bool.and_eq_true, Bool.or_eq_true, Nat.blt_eq, Bool.not_eq_true'] at hrow
    exact decompose_ofNat hrow.1 (row?_eq_none hrow.2)

/-! ## Texts without their marks -/

/-- The tables of this library. -/
def characterTables : CharacterData where
  decompose := decompose
  combiningClass := combiningClass
  isMark := isMark
  isMark_of_moved := isMark_of_combiningClass
  decompose_of_mem := decompose_of_mem_decompose

/-- **Normal form D** is what exchanges lead to. -/
theorem eq_normalD_iff {cs ds : List Char} :
    ds = normalD cs ↔ characterTables.IsNormalForm cs ds :=
  eq_reorder_iff

/-- Where two texts meet, their normal forms are put in order again. -/
theorem normalD_append (as bs : List Char) :
    normalD (as ++ bs) = reorder (normalD as ++ normalD bs) := by
  unfold normalD
  rw [decomposeAll_append, reorder_append]

theorem folds_foldDiacritics (s : String) : characterTables.Folds s (foldDiacritics s) :=
  ⟨normalD s.toList, eq_normalD_iff.mp rfl, by rw [foldDiacritics, String.toList_ofList]; rfl⟩

theorem lawfulFold_foldDiacritics : characterTables.LawfulFold foldDiacritics :=
  CharacterData.lawfulFold folds_foldDiacritics

/-- A text without its marks. -/
def unmarked (cs : List Char) : List Char := cs.filter fun c => !isMark c

/-- **A folded text** is the decomposed one without its marks, in whatever order these are put. -/
theorem toList_foldDiacritics (s : String) :
    (foldDiacritics s).toList = unmarked (decomposeAll s.toList) :=
  lawfulFold_foldDiacritics.inAnyOrder s .refl

/-- **Texts fold piece by piece.** -/
theorem foldDiacritics_append (a b : String) :
    foldDiacritics (a ++ b) = foldDiacritics a ++ foldDiacritics b :=
  lawfulFold_foldDiacritics.append a b

/-! ## Folded names -/

/-- Whether folding leaves a name alone. -/
def IsFolded (s : String) : Prop := foldDiacritics s = s

/-- A name of characters that do not decompose and are no marks is folded. -/
theorem isFolded_of_forall {s : String}
    (h : ∀ c ∈ s.toList, decompose c = [c] ∧ isMark c = false) : IsFolded s := by
  have hdecompose : decomposeAll s.toList = s.toList := by
    unfold decomposeAll
    rw [List.flatMap_congr fun c hc => (h c hc).1, List.flatMap_singleton']
  have hmarks : unmarked s.toList = s.toList :=
    List.filter_eq_self.mpr fun c hc => by simp [(h c hc).2]
  unfold IsFolded
  rw [← String.toList_inj, toList_foldDiacritics, hdecompose, hmarks]

theorem IsFolded.append {a b : String} (ha : IsFolded a) (hb : IsFolded b) : IsFolded (a ++ b) := by
  unfold IsFolded at ha hb ⊢
  rw [foldDiacritics_append, ha, hb]

/-- **A folded name is one that folding leaves alone.** -/
theorem isFolded_foldDiacritics (s : String) : IsFolded (foldDiacritics s) :=
  lawfulFold_foldDiacritics.idempotent s

/-! ## The laws of folding -/

/-- **Folding is a homomorphism and idempotent.** Normal form D is what exchanging marks leads to
when none are left to exchange, and no homomorphism: where two texts meet, their normal forms are
put in order again. Folding keeps the laws all the same. It takes nothing to nothing and texts
behind each other to folded texts behind each other, goes character by character, leaves no marks,
changes nothing when it is done again, and gives the same in whatever order exchanges have put the
marks. So does everything that folds by any other tables in which the characters that can be moved
are marks and decompositions are full. -/
theorem foldDiacritics_lawful :
    (∀ cs ds : List Char, ds = normalD cs ↔ characterTables.IsNormalForm cs ds) ∧
      (∀ as bs : List Char, normalD (as ++ bs) = reorder (normalD as ++ normalD bs)) ∧
      characterTables.LawfulFold foldDiacritics ∧
      ∀ (D : CharacterData) (fold : String → String), (∀ s, D.Folds s (fold s)) →
        D.LawfulFold fold :=
  ⟨fun _ _ => eq_normalD_iff, normalD_append, lawfulFold_foldDiacritics,
    fun _ _ hfolds => CharacterData.lawfulFold hfolds⟩

/-- Where a text that ends with an accent meets one that begins with a dot below, the two change
places, so that normal form D is no homomorphism. Folding does not see it. -/
theorem accents_change_places :
    normalD ("Relació".toList ++ "\u0323n".toList) ≠
        normalD "Relació".toList ++ normalD "\u0323n".toList ∧
      (∀ s, characterTables.Folds s (foldDiacritics s)) ∧
      foldDiacritics ("Relació" ++ "\u0323n") =
        foldDiacritics "Relació" ++ foldDiacritics "\u0323n" ∧
      foldDiacritics (foldDiacritics "각각") = foldDiacritics "각각" ∧
      'o' ∈ (foldDiacritics "ó\u0323").toList ∧ characterTables.isMark 'o' = false ∧
      Exchanges combiningClass (decomposeAll "ó\u0323".toList) ['o', '\u0323', '\u0301'] ∧
      (foldDiacritics "ó\u0323").toList = unmarked ['o', '\u0323', '\u0301'] := by
  have hfolds : ∀ s, characterTables.Folds s (foldDiacritics s) := folds_foldDiacritics
  have hlaws := foldDiacritics_lawful.2.2.2 characterTables foldDiacritics hfolds
  have hmem : 'o' ∈ (foldDiacritics "ó\u0323").toList := by decide +kernel
  have hexchange : Exchanges combiningClass (decomposeAll "ó\u0323".toList)
      ['o', '\u0323', '\u0301'] := by
    have hdecomposed : decomposeAll "ó\u0323".toList = ['o', '\u0301', '\u0323'] := by
      decide +kernel
    have hdescends : Descends combiningClass '\u0301' '\u0323' :=
      ⟨by decide +kernel, by decide +kernel⟩
    rw [hdecomposed]
    exact .single (.swap hdescends ['o'] [])
  exact ⟨by decide +kernel, hfolds, hlaws.append _ _, hlaws.idempotent _, hmem,
    hlaws.noMarks _ _ hmem, hexchange, hlaws.inAnyOrder _ hexchange⟩

end ErSchema.Text
