import ErSchema.Proofs.Table.Sanitizing
import ErSchema.Proofs.Text.Plain
import Mathlib.Data.List.Nodup
import Std.Data.String.ToNat

/-!
# Names of sanitized columns

Sanitizing gives every column a name that none of those before it has. The search for a number ends,
since a base and its numbered forms are all different, one more than there are names taken. What is
written in the end can still agree where names differ in blanks only.

* `freshName_of_mem`, `freshName_not_mem`: a base that is taken gets the least number that is free,
  and a fresh name is not taken.
* `exists_freshName_eq`: a fresh name is the base with a numbering.
* `names_sanitize_nodup`: the columns of a sanitized table have different names.
* `mem_names_sanitize`: the folded name of each column is one of these.
* `written_nodup_iff`: they are written differently unless one that holds blanks is written like
  another.
* `Column.Sanitizes.hasBlank_eq_false`: sanitizing puts no blanks into names.
-/

namespace ErSchema

open Text

/-! ## Fresh names -/

theorem numbered_inj {base : String} {m n : Nat} : numbered base m = numbered base n ↔ m = n := by
  unfold numbered
  rw [String.append_right_inj]
  exact Nat.repr_inj

theorem numbered_ne_base (base : String) (n : Nat) : numbered base n ≠ base := by
  intro h
  have hlength := congrArg String.length h
  unfold numbered at hlength
  rw [String.length_append, String.length_append] at hlength
  have hone : "_".length = 1 := rfl
  omega

/-- **Some number is free**, among as many as there are names taken. Otherwise all these numbered
forms would be taken and the base with them, more names than there are. -/
theorem exists_free_number {taken : List String} {base : String} (hbase : base ∈ taken) :
    ∃ i < taken.length, numbered base (i + 1) ∉ taken := by
  by_contra hnone
  have hall : ∀ i < taken.length, numbered base (i + 1) ∈ taken := by simpa using hnone
  have hnodup : (base :: (List.range taken.length).map fun i =>
      numbered base (i + 1)).Nodup := by
    refine List.nodup_cons.mpr ⟨fun hmem => ?_, List.nodup_range.map fun i j hij => ?_⟩
    · obtain ⟨i, -, hi⟩ := List.mem_map.mp hmem
      exact numbered_ne_base base _ hi
    · exact Nat.succ.inj (numbered_inj.mp hij)
  have hsub : (base :: (List.range taken.length).map fun i =>
      numbered base (i + 1)) ⊆ taken := by
    intro n hn
    rcases List.mem_cons.mp hn with rfl | hn
    · exact hbase
    · obtain ⟨i, hi, rfl⟩ := List.mem_map.mp hn
      exact hall i (List.mem_range.mp hi)
  have hle := hnodup.length_le_of_subset hsub
  rw [List.length_cons, List.length_map, List.length_range] at hle
  omega

/-- **A base that is taken gets the least number that is free.** -/
theorem freshName_of_mem {taken : List String} {base : String} (hbase : base ∈ taken) :
    ∃ i < taken.length, freshName taken base = numbered base (i + 1) ∧
      numbered base (i + 1) ∉ taken ∧ ∀ j < i, numbered base (j + 1) ∈ taken := by
  unfold freshName
  rw [if_pos (List.contains_iff_mem.mpr hbase)]
  cases hfind : (List.range taken.length).find?
      fun i => !taken.contains (numbered base (i + 1)) with
  | some i =>
    obtain ⟨hfree, hi, hleast⟩ := List.find?_range_eq_some.mp hfind
    exact ⟨i, List.mem_range.mp hi, rfl, by simpa using hfree, by simpa using hleast⟩
  | none =>
    obtain ⟨i, hi, hfree⟩ := exists_free_number hbase
    have htaken := List.find?_eq_none.mp hfind i (List.mem_range.mpr hi)
    exact absurd (by simpa using htaken) hfree

/-- **A fresh name is not taken.** -/
theorem freshName_not_mem (taken : List String) (base : String) : freshName taken base ∉ taken := by
  by_cases hbase : base ∈ taken
  · obtain ⟨i, -, hname, hfree, -⟩ := freshName_of_mem hbase
    rwa [hname]
  · rwa [freshName_of_not_mem hbase]

/-- A fresh name is the base or a numbered form of it. -/
theorem freshName_cases (taken : List String) (base : String) :
    freshName taken base = base ∨ ∃ n, freshName taken base = numbered base n := by
  by_cases hbase : base ∈ taken
  · obtain ⟨i, -, hname, -⟩ := freshName_of_mem hbase
    exact Or.inr ⟨i + 1, hname⟩
  · exact Or.inl (freshName_of_not_mem hbase)

/-- Whether a text is nothing, or a number with an underscore before it. -/
def IsNumbering (s : String) : Prop := s = "" ∨ ∃ n : Nat, s = "_" ++ toString n

theorem IsNumbering.isFolded {s : String} (h : IsNumbering s) : IsFolded s := by
  rcases h with rfl | ⟨n, rfl⟩
  · exact isFolded_of_ascii fun c hc => absurd hc (by simp)
  · exact isFolded_underscore.append (isFolded_toString n)

theorem IsNumbering.hasBlank_eq_false {s : String} (h : IsNumbering s) : hasBlank s = false := by
  rcases h with rfl | ⟨n, rfl⟩
  · rfl
  · rw [hasBlank_append, hasBlank_toString]
    rfl

/-- A fresh name is the base with a numbering. -/
theorem exists_freshName_eq (taken : List String) (base : String) :
    ∃ number, IsNumbering number ∧ freshName taken base = base ++ number := by
  rcases freshName_cases taken base with heq | ⟨n, heq⟩
  · exact ⟨"", Or.inl rfl, by rw [heq, String.append_empty]⟩
  · exact ⟨"_" ++ toString n, Or.inr ⟨n, rfl⟩, by rw [heq, numbered, String.append_assoc]⟩

/-! ## Sanitized columns -/

theorem not_mem_taken (taken : List String) (cs : List Column) :
    ∀ c ∈ sanitizeColumns taken cs, c.name ∉ taken := by
  induction cs generalizing taken with
  | nil => exact fun _ hc => absurd hc List.not_mem_nil
  | cons c cs ih =>
    intro x hx
    rcases List.mem_cons.mp hx with rfl | hx
    · exact freshName_not_mem taken _
    · exact List.not_mem_of_not_mem_cons (ih _ x hx)

theorem names_sanitizeColumns_nodup (taken : List String) (cs : List Column) :
    ((sanitizeColumns taken cs).map (·.name)).Nodup := by
  induction cs generalizing taken with
  | nil => exact List.nodup_nil
  | cons c cs ih =>
    refine List.nodup_cons.mpr ⟨fun hmem => ?_, ih _⟩
    obtain ⟨x, hx, hn⟩ := List.mem_map.mp hmem
    exact not_mem_taken _ cs x hx (hn ▸ List.mem_cons_self)

/-- **The columns of a sanitized table have different names.** -/
theorem names_sanitize_nodup (t : Table) : (t.sanitize.columns.map (·.name)).Nodup :=
  names_sanitizeColumns_nodup [] t.columns

theorem mem_names_sanitizeColumns (taken : List String) {cs : List Column} {c : Column}
    (hc : c ∈ cs) : foldDiacritics c.name ∈ taken ∨
      foldDiacritics c.name ∈ (sanitizeColumns taken cs).map (·.name) := by
  induction cs generalizing taken with
  | nil => exact absurd hc List.not_mem_nil
  | cons x cs ih =>
    have hname : ((sanitizeColumns taken (x :: cs)).map (·.name)) =
        freshName taken (foldDiacritics x.name) ::
          (sanitizeColumns (freshName taken (foldDiacritics x.name) :: taken) cs).map (·.name) :=
      rfl
    rw [hname]
    rcases List.mem_cons.mp hc with rfl | hc
    · by_cases hbase : foldDiacritics c.name ∈ taken
      · exact Or.inl hbase
      · rw [freshName_of_not_mem hbase]
        exact Or.inr List.mem_cons_self
    · rcases ih (freshName taken (foldDiacritics x.name) :: taken) hc with hmem | hmem
      · rcases List.mem_cons.mp hmem with heq | hmem
        · exact Or.inr (heq ▸ List.mem_cons_self)
        · exact Or.inl hmem
      · exact Or.inr (List.mem_cons_of_mem _ hmem)

/-- **The folded name of a column is in the sanitized table**, there or at a column before it. -/
theorem mem_names_sanitize {t : Table} {c : Column} (hc : c ∈ t.columns) :
    foldDiacritics c.name ∈ t.sanitize.columns.map (·.name) :=
  (mem_names_sanitizeColumns [] hc).resolve_left List.not_mem_nil

/-- **Sanitizing puts no blanks into names.** -/
theorem Column.Sanitizes.hasBlank_eq_false {c c' : Column} (h : c.Sanitizes c')
    (hc : hasBlank c.name = false) : hasBlank c'.name = false := by
  obtain ⟨taken, rfl⟩ := h
  obtain ⟨number, hnumber, heq⟩ := exists_freshName_eq taken (foldDiacritics c.name)
  change hasBlank (freshName taken (foldDiacritics c.name)) = false
  rw [heq, hasBlank_append, hasBlank_foldDiacritics hc, hnumber.hasBlank_eq_false]
  rfl

/-! ## Written names -/

/-- **Different names are written differently** unless one that holds blanks is written like
another. -/
theorem written_nodup_iff {cs : List Column} (hnames : (cs.map (·.name)).Nodup) :
    (cs.map fun c => identifier c.name).Nodup ↔
      ∀ x ∈ cs, hasBlank x.name = true →
        ∀ y ∈ cs, identifier y.name = identifier x.name → y.name = x.name := by
  have hwritten : (cs.map fun c => identifier c.name) = (cs.map (·.name)).map identifier := by
    rw [List.map_map]
    rfl
  rw [hwritten, List.nodup_map_iff_inj_on hnames]
  simp only [List.forall_mem_map]
  constructor
  · exact fun h x hx _ y hy heq => h y hy x hx heq
  · intro h x hx y hy heq
    by_cases hbx : hasBlank x.name = true
    · exact (h x hx hbx y hy heq.symm).symm
    · by_cases hby : hasBlank y.name = true
      · exact h y hy hby x hx heq
      · rwa [identifier_of_not_hasBlank (Bool.eq_false_iff.mpr hbx),
          identifier_of_not_hasBlank (Bool.eq_false_iff.mpr hby)] at heq

end ErSchema
