import ErSchema.Proofs.Lists
import ErSchema.Table.Sanitize

/-!
# What sanitizing keeps

Sanitizing goes through the columns of a table and changes names and the names referred to. Flags
stay, and so does the place of each column, so the key and the foreign keys of a sanitized table are
those of the table, each `Sanitizes`.

* `sanitizes_sanitizeColumns`: column by column.
* `keyColumns_sanitize`, `foreignKeys_sanitize`: the key and the foreign keys.
* `sanitizeColumns_append`: the first columns are sanitized as if they were alone.
-/

namespace ErSchema

open Text

namespace Column

/-- Whether a column becomes another when it is sanitized behind some columns. -/
def Sanitizes (c c' : Column) : Prop :=
  ∃ taken, c' = c.renamed (freshName taken (foldDiacritics c.name))

variable {c c' : Column}

theorem Sanitizes.key (h : c.Sanitizes c') : c'.key = c.key := by
  obtain ⟨taken, rfl⟩ := h
  rfl

theorem Sanitizes.notNull (h : c.Sanitizes c') : c'.notNull = c.notNull := by
  obtain ⟨taken, rfl⟩ := h
  rfl

theorem Sanitizes.foreignKey (h : c.Sanitizes c') :
    c'.foreignKey = c.foreignKey.map foldDiacritics := by
  obtain ⟨taken, rfl⟩ := h
  rfl

theorem Sanitizes.isForeignKey (h : c.Sanitizes c') : c'.isForeignKey = c.isForeignKey := by
  unfold Column.isForeignKey
  rw [h.foreignKey, Option.isSome_map]

end Column

/-! ## Columns -/

theorem sanitizes_sanitizeColumns (taken : List String) (cs : List Column) :
    List.Forall₂ Column.Sanitizes cs (sanitizeColumns taken cs) := by
  induction cs generalizing taken with
  | nil => exact List.Forall₂.nil
  | cons c cs ih => exact List.Forall₂.cons ⟨taken, rfl⟩ (ih _)

/-- **The first columns are sanitized as if they were alone**, and those behind them make way. -/
theorem sanitizeColumns_append (taken : List String) (cs ds : List Column) :
    ∃ names, sanitizeColumns taken (cs ++ ds) =
      sanitizeColumns taken cs ++ sanitizeColumns names ds := by
  induction cs generalizing taken with
  | nil => exact ⟨taken, rfl⟩
  | cons c cs ih =>
    obtain ⟨names, h⟩ := ih (freshName taken (foldDiacritics c.name) :: taken)
    exact ⟨names, by rw [List.cons_append, sanitizeColumns, sanitizeColumns, h]; rfl⟩

/-! ## Tables -/

namespace Table

theorem exists_of_mem_sanitize {t : Table} {c' : Column} (h : c' ∈ t.sanitize.columns) :
    ∃ c ∈ t.columns, c.Sanitizes c' :=
  exists_of_forall₂_right (sanitizes_sanitizeColumns [] t.columns) h

/-- A filter that looks at flags takes the same columns from a sanitized table. -/
theorem filter_sanitize (t : Table) {p : Column → Bool}
    (hp : ∀ c c' : Column, c.Sanitizes c' → p c' = p c) :
    List.Forall₂ Column.Sanitizes (t.columns.filter p) (t.sanitize.columns.filter p) :=
  List.rel_filter (fun c c' h => by simp [hp c c' h]) (sanitizes_sanitizeColumns [] t.columns)

/-- **The key columns stay**, in order. -/
theorem keyColumns_sanitize (t : Table) :
    List.Forall₂ Column.Sanitizes t.keyColumns t.sanitize.keyColumns :=
  t.filter_sanitize fun _ _ h => h.key

/-- **The foreign keys stay**, in order. -/
theorem foreignKeys_sanitize (t : Table) :
    List.Forall₂ Column.Sanitizes t.foreignKeys t.sanitize.foreignKeys :=
  t.filter_sanitize fun _ _ h => h.isForeignKey

end Table

end ErSchema
