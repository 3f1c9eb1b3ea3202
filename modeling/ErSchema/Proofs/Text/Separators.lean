import ErSchema.Proofs.Text.Plain
import Mathlib.Data.Bool.AllAny

/-!
# Separators in names

Brackets, commas and semicolons keep the parts of a script apart, and no quotes keep them out of the
names. Underscoring neither takes them out of a name nor puts them in, and folding puts in one only:
a semicolon comes of a Greek question mark. So a name that has none of these five characters, and of
which folding leaves something, stands in the script as one word.

* `mem_identifier_iff`: what underscoring does with a character that is no blank.
* `mem_foldDiacritics_iff`, `semicolon_mem_foldDiacritics_iff`: the names that have a separator once
  they are folded.
* `isSafe_writtenName_iff`: the names that are written safely.
-/

namespace ErSchema

namespace Text

/-! ## Underscoring -/

theorem mem_underscoredFrom_iff {c : Char} (hblank : isBlank c = false) (hline : c ≠ '_')
    {inRun : Bool} {cs : List Char} : c ∈ underscoredFrom inRun cs ↔ c ∈ cs := by
  induction cs generalizing inRun with
  | nil => rfl
  | cons x cs ih =>
    rw [underscoredFrom, List.mem_cons]
    split
    · rename_i hx
      have hne : c ≠ x := by
        rintro rfl
        rw [hblank] at hx
        exact absurd hx (by simp)
      split <;> simp [ih, hne, hline]
    · rw [List.mem_cons, ih]

theorem underscoredFrom_eq_nil {cs : List Char} : underscoredFrom false cs = [] ↔ cs = [] := by
  cases cs with
  | nil => exact Iff.rfl
  | cons x cs =>
    rw [underscoredFrom]
    split <;> simp

/-- Text without blanks stays as it is behind any other. -/
theorem underscoredFrom_append {inRun : Bool} {cs ds : List Char}
    (hds : ∀ c ∈ ds, isBlank c = false) :
    underscoredFrom inRun (cs ++ ds) = underscoredFrom inRun cs ++ ds := by
  induction cs generalizing inRun with
  | nil => exact underscoredFrom_of_not_isBlank hds
  | cons x cs ih =>
    rw [List.cons_append, underscoredFrom, underscoredFrom]
    split
    · split <;> simp [ih]
    · rw [ih, List.cons_append]

/-! ## Separators in decompositions -/

/-- The characters that are separators or underscores and come of no other character. -/
def lonelySigns : List Char := ['(', ')', ',', '_']

/-- In the tables no row has one of these characters, and one row has a semicolon. -/
theorem sign_rows : ∀ b ∈ Decomposition.blocks, ∀ e ∈ b.entries, e.2.all (fun n =>
    !(Nat.beq n 0x28 || Nat.beq n 0x29 || Nat.beq n 0x2C || Nat.beq n 0x5F) &&
      (!Nat.beq n 0x3B || Nat.beq e.1 0x37E)) = true := by
  decide +kernel

/-- What is known of a character of a decomposition that is below the letters of Hangul: it is the
character itself or from a row. -/
theorem mem_decompose_low {c x : Char} (hx : x ∈ decompose c) (hpos : 0 < x.toNat)
    (hlow : x.toNat < 0x1100) :
    x = c ∨ ∃ b ∈ Decomposition.blocks, ∃ e ∈ b.entries, e.1 = c.toNat ∧ x.toNat ∈ e.2 := by
  rcases mem_decompose_cases hx with ⟨-, rfl⟩ | ⟨n, hn, rfl⟩ | ⟨b, hb, e, he, hc, n, hn, rfl⟩
  · exact Or.inl rfl
  · rcases toNat_ofNat_cases n with h | h <;> omega
  · rcases toNat_ofNat_cases n with h | h
    · exact Or.inr ⟨b, hb, e, he, hc, by rwa [h]⟩
    · omega

theorem eq_of_mem_decompose {c x : Char} (hx : x ∈ decompose c) (hsign : x ∈ lonelySigns) :
    x = c := by
  have hrange : ∀ x ∈ lonelySigns, 0 < x.toNat ∧ x.toNat < 0x1100 :=
    List.all_iff_forall_prop.mp (by decide)
  obtain ⟨hpos, hlow⟩ := hrange x hsign
  refine (mem_decompose_low hx hpos hlow).resolve_right ?_
  rintro ⟨b, hb, e, he, -, hn⟩
  have hrow := List.all_eq_true.mp (sign_rows b hb e he) _ hn
  have hcodes : ∀ x ∈ lonelySigns, (Nat.beq x.toNat 0x28 || Nat.beq x.toNat 0x29 ||
      Nat.beq x.toNat 0x2C || Nat.beq x.toNat 0x5F) = true :=
    List.all_iff_forall_prop.mp (by decide)
  rw [hcodes x hsign] at hrow
  exact absurd hrow (by simp)

theorem semicolon_of_mem_decompose {c : Char} (hx : ';' ∈ decompose c) :
    c = ';' ∨ c = '\u037e' := by
  rcases mem_decompose_low hx (by decide) (by decide) with rfl | ⟨b, hb, e, he, hc, hn⟩
  · exact Or.inl rfl
  · have hrow := List.all_eq_true.mp (sign_rows b hb e he) _ hn
    have hcode : Nat.beq e.1 0x37E = true := (Bool.and_eq_true_iff.mp hrow).2
    exact Or.inr (Char.toNat_inj.mp (hc ▸ Nat.eq_of_beq_eq_true hcode))

theorem mem_foldDiacritics {s : String} {x : Char} :
    x ∈ (foldDiacritics s).toList ↔ (∃ c ∈ s.toList, x ∈ decompose c) ∧ isMark x = false := by
  rw [toList_foldDiacritics]
  simp [unmarked, decomposeAll]

/-- A character of ASCII stays when a name is folded. -/
theorem mem_foldDiacritics_of_ascii {s : String} {x : Char} (hx : x.toNat < 0x80)
    (h : x ∈ s.toList) : x ∈ (foldDiacritics s).toList :=
  mem_foldDiacritics.mpr
    ⟨⟨x, h, by rw [decompose_of_ascii hx]; exact List.mem_cons_self⟩, isMark_of_ascii hx⟩

/-- **Folding neither makes nor drops brackets, commas and underscores.** -/
theorem mem_foldDiacritics_iff {s : String} {x : Char} (hx : x ∈ lonelySigns) :
    x ∈ (foldDiacritics s).toList ↔ x ∈ s.toList := by
  constructor
  · intro h
    obtain ⟨⟨c, hc, hmem⟩, -⟩ := mem_foldDiacritics.mp h
    rwa [eq_of_mem_decompose hmem hx]
  · have hascii : ∀ x ∈ lonelySigns, x.toNat < 0x80 := List.all_iff_forall_prop.mp (by decide)
    exact mem_foldDiacritics_of_ascii (hascii x hx)

/-- **A semicolon is in a folded name** if it was there or in the place of it a Greek question
mark. -/
theorem semicolon_mem_foldDiacritics_iff {s : String} :
    ';' ∈ (foldDiacritics s).toList ↔ ';' ∈ s.toList ∨ '\u037e' ∈ s.toList := by
  constructor
  · intro h
    obtain ⟨⟨c, hc, hmem⟩, -⟩ := mem_foldDiacritics.mp h
    rcases semicolon_of_mem_decompose hmem with rfl | rfl
    · exact Or.inl hc
    · exact Or.inr hc
  · rintro (h | h)
    · exact mem_foldDiacritics_of_ascii (by decide) h
    · exact mem_foldDiacritics.mpr ⟨⟨_, h, by decide +kernel⟩, by decide⟩

end Text

open Text

/-! ## Written names -/

/-- The characters that keep the parts of a script apart. -/
def separators : List Char := ['(', ')', ',', ';']

/-- The characters that are written as separators: these and the Greek question mark. -/
def separatorSources : List Char := '\u037e' :: separators

/-- Whether a text has none of the separators. -/
def IsWhole (s : String) : Prop := ∀ c ∈ s.toList, c ∉ separators

/-- Whether a text can stand in a script as one word. -/
def IsSafe (s : String) : Prop := s ≠ "" ∧ hasBlank s = false ∧ IsWhole s

/-- Whether something is left of a name when it is folded, and nothing in it that is written as a
separator. -/
def IsDrawnSafely (name : String) : Prop :=
  foldDiacritics name ≠ "" ∧ ∀ c ∈ name.toList, c ∉ separatorSources

instance (s : String) : Decidable (IsWhole s) :=
  decidable_of_iff (s.toList.all fun c => decide (c ∉ separators)) List.all_iff_forall_prop

instance (s : String) : Decidable (IsSafe s) := inferInstanceAs (Decidable (_ ∧ _))

instance (name : String) : Decidable (IsDrawnSafely name) :=
  decidable_of_iff
    (foldDiacritics name ≠ "" ∧ name.toList.all fun c => decide (c ∉ separatorSources))
    (and_congr_right fun _ => List.all_iff_forall_prop)

/-- **Underscoring** keeps every character that is no blank. -/
theorem mem_identifier_iff {c : Char} (hblank : isBlank c = false) (hline : c ≠ '_') {s : String} :
    c ∈ (identifier s).toList ↔ c ∈ s.toList := by
  unfold identifier
  rw [String.toList_ofList]
  exact mem_underscoredFrom_iff hblank hline

theorem identifier_eq_empty {s : String} : identifier s = "" ↔ s = "" := by
  unfold identifier underscored
  rw [← String.toList_inj, ← String.toList_inj, String.toList_ofList]
  exact underscoredFrom_eq_nil

theorem hasBlank_identifier (s : String) : hasBlank (identifier s) = false := by
  unfold hasBlank identifier
  rw [String.toList_ofList, List.any_eq_false]
  exact fun c hc => by simp [not_isBlank_of_mem_underscored hc]

theorem identifier_append {s t : String} (ht : hasBlank t = false) :
    identifier (s ++ t) = identifier s ++ t := by
  have hchars : ∀ c ∈ t.toList, isBlank c = false := by
    simpa [hasBlank, List.any_eq_false] using ht
  unfold identifier underscored
  rw [String.toList_append, underscoredFrom_append hchars, String.ofList_append,
    String.ofList_toList]

theorem separator_mem_identifier {c : Char} (hc : c ∈ separators) {s : String} :
    c ∈ (identifier s).toList ↔ c ∈ s.toList := by
  have hsign : ∀ c ∈ separators, isBlank c = false ∧ c ≠ '_' :=
    List.all_iff_forall_prop.mp (by decide)
  exact mem_identifier_iff (hsign c hc).1 (hsign c hc).2

theorem isWhole_identifier {s : String} : IsWhole (identifier s) ↔ IsWhole s :=
  ⟨fun h c hc hsep => h c ((separator_mem_identifier hsep).mpr hc) hsep,
    fun h c hc hsep => h c ((separator_mem_identifier hsep).mp hc) hsep⟩

theorem isWhole_append {s t : String} : IsWhole (s ++ t) ↔ IsWhole s ∧ IsWhole t := by
  unfold IsWhole
  rw [String.toList_append, List.forall_mem_append]

/-- **A separator is in a folded name** if it was there, or for a semicolon a Greek question
mark. -/
theorem separator_mem_foldDiacritics_iff {c : Char} (hc : c ∈ separators) {s : String} :
    c ∈ (foldDiacritics s).toList ↔ c ∈ s.toList ∨ (c = ';' ∧ '\u037e' ∈ s.toList) := by
  have hcases : ∀ c ∈ separators, (c ∈ lonelySigns ∧ c ≠ ';') ∨ c = ';' :=
    List.all_iff_forall_prop.mp (by decide)
  rcases hcases c hc with ⟨hsign, hne⟩ | rfl
  · rw [mem_foldDiacritics_iff hsign]
    simp [hne]
  · rw [semicolon_mem_foldDiacritics_iff]
    simp

theorem isWhole_foldDiacritics {s : String} :
    IsWhole (foldDiacritics s) ↔ ∀ c ∈ s.toList, c ∉ separatorSources := by
  constructor
  · intro h c hc hsource
    rcases List.mem_cons.mp hsource with rfl | hsep
    · exact h ';' (semicolon_mem_foldDiacritics_iff.mpr (Or.inr hc)) (by decide)
    · exact h c ((separator_mem_foldDiacritics_iff hsep).mpr (Or.inl hc)) hsep
  · intro h c hc hsep
    rcases (separator_mem_foldDiacritics_iff hsep).mp hc with hc | ⟨-, hc⟩
    · exact h c hc (List.mem_cons_of_mem _ hsep)
    · exact h _ hc List.mem_cons_self

/-- **The names that are written safely.** -/
theorem isSafe_writtenName_iff {name : String} :
    IsSafe (writtenName name) ↔ IsDrawnSafely name := by
  unfold IsSafe IsDrawnSafely writtenName
  rw [isWhole_identifier, isWhole_foldDiacritics, Ne, identifier_eq_empty]
  simp [hasBlank_identifier]

end ErSchema
