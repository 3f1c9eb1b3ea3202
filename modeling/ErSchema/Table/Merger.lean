import ErSchema.Table.Basic
import Std.Data.TreeMap.Lemmas

/-!
# Merging drafts of tables

Several relations may each contribute a draft of the same table. A `TableMerger` keeps one table for
each name, in the order in which the names came first, and the position of each name. A later draft
adds the columns whose names the table does not have yet.

* `mem_absorb`: the columns of a table after a draft.
* `size_add_of_absent`, `size_add_of_present`: when a draft makes a new table.
-/

namespace ErSchema

/-- A table with those of the drafted columns whose names it does not have, which is what
`TableMerger::add` makes of a table that is there. -/
def Table.absorb (t : Table) (draft : List Column) : Table :=
  { t with columns := t.columns ++ draft.filter fun c => !t.columns.any (·.name = c.name) }

/-- One table for each name, and the position of each name. -/
structure TableMerger where
  tables : Array Table
  positions : Std.TreeMap String Nat

namespace TableMerger

/-- No tables (`TableMerger::new`). -/
def empty : TableMerger := ⟨#[], ∅⟩

/-- Merges a draft (`TableMerger::add`). -/
def add (m : TableMerger) (draft : Table) : TableMerger :=
  match m.positions[draft.name]? with
  | some i => { m with tables := m.tables.modify i (·.absorb draft.columns) }
  | none => ⟨m.tables.push draft, m.positions.insert draft.name m.tables.size⟩

/-- Merges drafts, one after the other (`TableMerger::extend`). -/
def extend (m : TableMerger) (drafts : List Table) : TableMerger := drafts.foldl add m

/-- The number of tables (`TableMerger::len`). -/
def size (m : TableMerger) : Nat := m.tables.size

/-- Whether there are no tables (`TableMerger::is_empty`). -/
def isEmpty (m : TableMerger) : Bool := m.tables.isEmpty

/-- The tables, in the order in which their names came first (`TableMerger::finish`). -/
def toList (m : TableMerger) : List Table := m.tables.toList

/-! ## Lemmas -/

theorem mem_absorb {t : Table} {draft : List Column} {c : Column} :
    c ∈ (t.absorb draft).columns ↔
      c ∈ t.columns ∨ (c ∈ draft ∧ ∀ d ∈ t.columns, d.name ≠ c.name) := by
  simp [Table.absorb]

theorem size_add_of_absent {m : TableMerger} {draft : Table}
    (h : m.positions[draft.name]? = none) : (m.add draft).size = m.size + 1 := by
  simp [add, h, size]

theorem size_add_of_present {m : TableMerger} {draft : Table} {i : Nat}
    (h : m.positions[draft.name]? = some i) : (m.add draft).size = m.size := by
  simp [add, h, size]

end TableMerger

end ErSchema
