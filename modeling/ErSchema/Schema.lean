import ErSchema.Ddl
import ErSchema.Diagram.Document
import ErSchema.Mapping
import ErSchema.Table.Merger
import ErSchema.Table.Sanitize
import ErSchema.Validation

/-!
# From diagrams to schemas

The compilation as a whole: the records of a diagram are mapped to drafts, the drafts are merged,
the merged tables are sanitized and written as SQL. `Diagram.deriveTables` gives the tables of any
diagram that can be mapped, `Diagram.generateSql` writes those of a valid one. `validateSource` and
`compileSource` start from the document of a diagram and report errors as text.

* `generateSql_of_invalid`: an invalid diagram is refused with its diagnostics.
* `deriveTables_eq_ok`: the derived tables are the merged ones, sanitized.
-/

namespace ErSchema

namespace Diagram

/-- The drafts of all records, in order, as `derive_tables` maps them. -/
def drafts (d : Diagram) : Except CompileError (List Table) := do
  let index := Index.ofDiagram d
  let records ← ErSchema.classify index d
  let tables ← records.mapM (Classified.tables index)
  pure tables.flatten

/-- The tables of a diagram, one for each name, with the names as they were drawn: what
`derive_tables` has before it sanitizes them. -/
def mergedTables (d : Diagram) : Except CompileError (List Table) := do
  let drafts ← d.drafts
  pure (TableMerger.empty.extend drafts).toList

/-- The tables of a diagram, ready to be written (`derive_tables`). -/
def deriveTables (d : Diagram) : Except CompileError (List Table) := do
  let tables ← d.mergedTables
  pure (tables.map (·.sanitize))

/-- The SQL of a diagram, whether it is valid or not. -/
def generateUnchecked (d : Diagram) : Except CompileError String := do
  let tables ← d.deriveTables
  pure (emit tables)

/-- The SQL of a valid diagram (`generate_sql`). -/
def generateSql (d : Diagram) : Except CompileError String :=
  let diagnostics := d.validate
  if diagnostics.isValid then d.generateUnchecked else .error (.invalidDiagram diagnostics)

/-- The diagram that a source holds (`Diagram::from_json`). -/
def load (source : String) : Except CompileError Diagram :=
  match Diagram.ofSource source with
  | .ok d => .ok d
  | .error e => .error (.unreadable e)

end Diagram

/-! ## Documents -/

/-- The diagnostics of a document as compact JSON (`validate_diagram`). -/
def validateSource (source : String) : Except String String :=
  match Diagram.load source with
  | .ok d => .ok d.validate.toJson.compact
  | .error e => .error e.message

/-- The SQL of a document (`diagram_to_sql`). -/
def compileSource (source : String) : Except String String :=
  match Diagram.load source >>= Diagram.generateSql with
  | .ok sql => .ok sql
  | .error e => .error e.message

/-! ## Lemmas -/

theorem generateSql_of_invalid {d : Diagram} (h : d.validate.isValid = false) :
    d.generateSql = .error (.invalidDiagram d.validate) := by
  simp [Diagram.generateSql, h]

theorem deriveTables_eq_ok {d : Diagram} {ts : List Table} (h : d.mergedTables = .ok ts) :
    d.deriveTables = .ok (ts.map (·.sanitize)) := by
  rw [Diagram.deriveTables, h]
  rfl

end ErSchema
