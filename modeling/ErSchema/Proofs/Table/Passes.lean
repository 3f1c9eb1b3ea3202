import ErSchema.Proofs.Table.Naming
import Mathlib.Logic.Function.Iterate

/-!
# Sanitizing once is enough

A numbered name is folded if its base is, so all names of a sanitized table are folded, and those of
its columns are different. Another pass finds nothing to fold and no name that is taken: a table is
left alone by sanitizing if and only if it is like that, and every further pass changes nothing.

* `isSanitized_sanitize`: what holds of the names of a sanitized table.
* `sanitize_eq_self_iff`: the tables that sanitizing leaves alone.
* `Table.sanitize_passes`: one pass gives the same tables as any number of them.
-/

namespace ErSchema

open Text

/-! ## Folded names -/

theorem isFolded_numbered {base : String} (h : IsFolded base) (n : Nat) :
    IsFolded (numbered base n) :=
  (h.append isFolded_underscore).append (isFolded_toString n)

theorem isFolded_freshName {taken : List String} {base : String} (h : IsFolded base) :
    IsFolded (freshName taken base) := by
  rcases freshName_cases taken base with heq | ⟨n, heq⟩
  · rwa [heq]
  · rw [heq]
    exact isFolded_numbered h n

/-- Whether the names of a column are folded: its own and that of the table it refers to. -/
structure Column.IsFolded (c : Column) : Prop where
  name : Text.IsFolded c.name
  target : ∀ n, c.foreignKey = some n → Text.IsFolded n

/-- **Sanitizing folds the names of a column.** -/
theorem Column.Sanitizes.isFolded {c c' : Column} (h : c.Sanitizes c') : c'.IsFolded where
  name := by
    obtain ⟨taken, rfl⟩ := h
    exact isFolded_freshName (isFolded_foldDiacritics c.name)
  target n hn := by
    rw [h.foreignKey, Option.map_eq_some_iff] at hn
    obtain ⟨m, -, rfl⟩ := hn
    exact isFolded_foldDiacritics m

theorem Column.renamed_eq_self {c : Column} (h : c.IsFolded) : c.renamed c.name = c := by
  have htarget : c.foreignKey.map foldDiacritics = c.foreignKey := by
    cases hc : c.foreignKey with
    | none => rfl
    | some n => exact congrArg some (h.target n hc)
  unfold Column.renamed
  rw [htarget]

/-! ## Tables that are left alone -/

/-- Folded columns with different names are left alone, where none of these is taken. -/
theorem sanitizeColumns_eq_self {taken : List String} {cs : List Column}
    (hfolded : ∀ c ∈ cs, c.IsFolded) (hnames : (cs.map (·.name)).Nodup)
    (hfree : ∀ c ∈ cs, c.name ∉ taken) : sanitizeColumns taken cs = cs := by
  induction cs generalizing taken with
  | nil => rfl
  | cons c cs ih =>
    obtain ⟨hc, hcs⟩ := List.forall_mem_cons.mp hfolded
    obtain ⟨hname, hnames⟩ := List.nodup_cons.mp hnames
    have hfresh : freshName taken (foldDiacritics c.name) = c.name := by
      rw [hc.name]
      exact freshName_of_not_mem (hfree c List.mem_cons_self)
    rw [sanitizeColumns, hfresh, Column.renamed_eq_self hc]
    refine congrArg (c :: ·) (ih hcs hnames fun x hx hmem => ?_)
    -- the name that is taken now is that of no later column
    rcases List.mem_cons.mp hmem with heq | hmem
    · exact hname (List.mem_map.mpr ⟨x, hx, heq⟩)
    · exact hfree x (List.mem_cons_of_mem c hx) hmem

namespace Table

/-- Whether the names of a table are as sanitizing makes them. -/
structure IsSanitized (t : Table) : Prop where
  name : Text.IsFolded t.name
  columns : ∀ c ∈ t.columns, c.IsFolded
  distinct : (t.columns.map (·.name)).Nodup

theorem isSanitized_sanitize (t : Table) : t.sanitize.IsSanitized where
  name := isFolded_foldDiacritics t.name
  columns _ hc := by
    obtain ⟨_, -, hs⟩ := exists_of_mem_sanitize hc
    exact hs.isFolded
  distinct := names_sanitize_nodup t

/-- **The tables that sanitizing leaves alone** are the sanitized ones. -/
theorem sanitize_eq_self_iff {t : Table} : t.sanitize = t ↔ t.IsSanitized := by
  constructor
  · intro h
    rw [← h]
    exact isSanitized_sanitize t
  · intro h
    have hcolumns : sanitizeColumns [] t.columns = t.columns :=
      sanitizeColumns_eq_self h.columns h.distinct fun _ _ => List.not_mem_nil
    unfold sanitize
    rw [hcolumns, h.name]

/-- **One pass is enough.** The tables that it gives have folded names throughout, and different
ones in each table, so that any further pass gives them again. -/
theorem sanitize_passes (ts : List Table) :
    (∀ t ∈ ts.map sanitize, t.IsSanitized) ∧
      ∀ n, (List.map sanitize)^[n + 1] ts = ts.map sanitize := by
  have hsanitized : ∀ t ∈ ts.map sanitize, t.IsSanitized :=
    List.forall_mem_map.mpr fun t _ => isSanitized_sanitize t
  refine ⟨hsanitized, fun n => ?_⟩
  have hfixed : (ts.map sanitize).map sanitize = ts.map sanitize := by
    conv_rhs => rw [← List.map_id (ts.map sanitize)]
    exact List.map_congr_left fun t ht => sanitize_eq_self_iff.mpr (hsanitized t ht)
  rw [Function.iterate_succ_apply]
  exact Function.iterate_fixed hfixed n

end Table

end ErSchema
