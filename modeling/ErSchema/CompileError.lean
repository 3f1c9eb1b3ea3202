import ErSchema.Diagnostics
import ErSchema.Text.Quoted

/-!
# Errors of the compilation

Why no SQL comes out of a document: it cannot be read, its diagram fails checks, or, where the
checks are left out, a relation or an entity does not allow the mapping.
-/

namespace ErSchema

/-- Why a document or a diagram is not compiled. -/
inductive CompileError where
  | invalidDiagram (diagnostics : Diagnostics)
  | unknownEntity (relation entity : String)
  | invalidCardinality (relation value : String)
  | missingPrimaryKey (entity : String)
  | unreadable (error : Json.Error)

/-- The message of an error. -/
def CompileError.message : CompileError → String
  | invalidDiagram d => "Invalid diagram, failed checks: " ++ ", ".intercalate d.failedNames
  | unknownEntity relation entity =>
    "Relation " ++ relation ++ " references unknown entity " ++ Text.quoted entity
  | invalidCardinality relation value =>
    "Relation " ++ relation ++ " has invalid cardinality " ++ Text.quoted value
  | missingPrimaryKey entity => "Entity " ++ entity ++ " has no primary key"
  | unreadable error => "JSON error: " ++ error.message

end ErSchema
