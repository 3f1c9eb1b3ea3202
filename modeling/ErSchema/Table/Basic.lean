import ErSchema.Diagram.Basic

/-!
# Tables

What a diagram is compiled to, before it is written as SQL: tables with columns, each with its
flags and, if it is a foreign key, the name of the table that it refers to.

* `hasCompositeKey_iff`: when the key of a table is composite.
-/

namespace ErSchema

/-- A column of a table. -/
structure Column where
  name : String
  key : Bool := false
  notNull : Bool := false
  unique : Bool := false
  foreignKey : Option String := none
  deriving DecidableEq, Repr, Inhabited

namespace Column

/-- The column of an attribute, of which the key flag is kept (`Column::from_attribute`). -/
def ofAttribute (a : Attribute) : Column := { name := a.name, key := a.key }

/-- Whether a column refers to a table (`Column::is_foreign_key`). -/
def isForeignKey (c : Column) : Bool := c.foreignKey.isSome

end Column

/-- A table. -/
structure Table where
  name : String
  columns : List Column
  deriving DecidableEq, Repr, Inhabited

namespace Table

/-- The first column of a name (`Table::column`). -/
def column? (t : Table) (name : String) : Option Column := t.columns.find? (·.name = name)

/-- Whether a key column is a foreign key (`Table::has_composite_key`). All key columns then make up
one composite key. -/
def hasCompositeKey (t : Table) : Bool := t.columns.any fun c => c.key && c.isForeignKey

/-- The key columns (`Table::key_columns`). -/
def keyColumns (t : Table) : List Column := t.columns.filter (·.key)

/-- The foreign keys (`Table::foreign_keys`). -/
def foreignKeys (t : Table) : List Column := t.columns.filter (·.isForeignKey)

theorem hasCompositeKey_iff {t : Table} :
    t.hasCompositeKey = true ↔ ∃ c ∈ t.keyColumns, c.isForeignKey = true := by
  simp [hasCompositeKey, keyColumns, and_assoc]

end Table

end ErSchema
