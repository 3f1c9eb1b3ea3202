import ErSchema.Table.Basic

/-!
# Tables as SQL

`emit` writes every table as a `CREATE TABLE` statement and then, behind all of them, every foreign
key as an `ALTER TABLE` statement, so that no statement refers to a table that comes later. In a
name each run of white space becomes an underscore; nothing is quoted.

* `foreignKeyStatements_length`: there is one statement for each foreign key.
-/

namespace ErSchema

/-- A name as it is written in SQL (`identifier`). -/
def identifier (name : String) : String := String.ofList (Text.underscored name.toList)

/-- The type of every column (`column_type`). -/
def columnType : String := "VARCHAR(40)"

/-- The definition of a column (`column_definition`). A composite key is declared behind the
columns. -/
def Column.definition (composite : Bool) (c : Column) : String :=
  identifier c.name ++ " " ++ columnType
    ++ (if c.key && !c.isForeignKey && !composite then " PRIMARY KEY" else "")
    ++ (if c.unique then " UNIQUE" else "")
    ++ (if c.notNull then " NOT NULL" else "")

/-- The declaration of the composite key of a table. -/
def Table.compositeKeyClause (t : Table) : String :=
  "PRIMARY KEY (" ++ ", ".intercalate (t.keyColumns.map fun c => identifier c.name) ++ ")"

/-- The lines between the parentheses of a table. -/
def Table.definitions (t : Table) : List String :=
  t.columns.map (Column.definition t.hasCompositeKey)
    ++ if t.hasCompositeKey then [t.compositeKeyClause] else []

/-- The statement that creates a table (`create_table`). -/
def Table.createStatement (t : Table) : String :=
  "CREATE TABLE " ++ identifier t.name ++ " (\n  " ++ ",\n  ".intercalate t.definitions ++ "\n);"

/-- The statement that declares a column of a table to refer to another table. -/
def foreignKeyStatement (table column target : String) : String :=
  "ALTER TABLE " ++ table ++ " ADD CONSTRAINT FK_" ++ column ++ " FOREIGN KEY (" ++ column
    ++ ") REFERENCES " ++ target ++ ";"

/-- The statements for the foreign keys of a table (`alter_table_statements`). -/
def Table.foreignKeyStatements (t : Table) : List String :=
  t.columns.filterMap fun c =>
    c.foreignKey.map fun target =>
      foreignKeyStatement (identifier t.name) (identifier c.name) (identifier target)

/-- The script that creates tables (`emit_sql`). -/
def emit (ts : List Table) : String :=
  let alters := ts.flatMap (·.foreignKeyStatements)
  "\n\n".intercalate (ts.map (·.createStatement))
    ++ if alters.isEmpty then "" else "\n\n" ++ "\n".intercalate alters

/-! ## Lemmas -/

theorem foreignKeyStatements_length (t : Table) :
    t.foreignKeyStatements.length = t.foreignKeys.length := by
  obtain ⟨name, columns⟩ := t
  simp only [Table.foreignKeyStatements, Table.foreignKeys]
  generalize identifier name = table
  induction columns with
  | nil => rfl
  | cons c cs ih => cases h : c.foreignKey <;> simp_all [Column.isForeignKey]

end ErSchema
