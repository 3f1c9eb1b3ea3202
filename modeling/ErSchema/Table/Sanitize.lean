import ErSchema.Table.Basic
import ErSchema.Text.Fold

/-!
# Sanitizing names

Before tables are written their names, the names of their columns and the tables they refer to lose
their diacritics. Columns of one table that come to share a name are told apart: a later one gets
the least number, from 1, that makes its name new.

* `sanitizeColumns_length`: every column stays.
-/

namespace ErSchema

open Text

/-- A name with a number behind it. -/
def numbered (base : String) (n : Nat) : String := base ++ "_" ++ toString n

/-- A name that is not among those taken: the base, or the base with the least number that makes it
new. As many numbers as there are names taken are enough, since the base is one of these. -/
def freshName (taken : List String) (base : String) : String :=
  if taken.contains base then
    match (List.range taken.length).find? fun i => !taken.contains (numbered base (i + 1)) with
    | some i => numbered base (i + 1)
    | none => base
  else base

/-- A column under its final name, with the folded name of the table it refers to. -/
def Column.renamed (c : Column) (name : String) : Column :=
  { c with name := name, foreignKey := c.foreignKey.map foldDiacritics }

/-- Sanitizes columns of which those before have taken names: the loop of `sanitize_table`. -/
def sanitizeColumns (taken : List String) : List Column → List Column
  | [] => []
  | c :: cs =>
    let name := freshName taken (foldDiacritics c.name)
    c.renamed name :: sanitizeColumns (name :: taken) cs

/-- A table with sanitized names (`sanitize_table`). -/
def Table.sanitize (t : Table) : Table := ⟨foldDiacritics t.name, sanitizeColumns [] t.columns⟩

/-! ## Lemmas -/

theorem freshName_of_not_mem {taken : List String} {base : String} (h : base ∉ taken) :
    freshName taken base = base := by
  simp [freshName, h]

theorem sanitizeColumns_length (taken : List String) (cs : List Column) :
    (sanitizeColumns taken cs).length = cs.length := by
  induction cs generalizing taken with
  | nil => rfl
  | cons c cs ih => simp [sanitizeColumns, ih]

end ErSchema
