import ErSchema.Json.Records
import ErSchema.Json.Render

/-!
# Diagnostics

The checks that a diagram has to pass before it is compiled, each with the name it is reported under
and a message for when it fails. `Diagnostics` holds the outcome of every check and the overall
verdict. A diagram editor exchanges them as a flat JSON record.

* `Check.mem_all`: the list of checks is complete.
* `Diagnostics.ofChecks_isValid`: the verdict is that every check passed.
* `Diagnostics.mem_failed`: the failed checks are those that did not pass.
-/

namespace ErSchema

open Json

/-! ## Checks -/

/-- A check on a diagram. -/
inductive Check where
  | notEmpty
  | noRepeatedNames
  | noRepeatedAttributeNames
  | noEntitiesWithoutAttributes
  | noEntitiesWithoutKey
  | noEntitiesWithSeveralKeys
  | noKeysOnManyToMany
  | noAttributesElsewhere
  | noUnconnectedRelations
  | noInvalidCardinalities
  | noInvalidRelationNames
  | noWeakWithKey
  | noWeakWithWrongRelationCount
  | noWeakWithWrongCardinality
  | noWeakWithoutDiscriminant
  | noWeakWithoutIdentifyingRelation
  | noWeakOwnedByWeak
  deriving DecidableEq, Repr

namespace Check

/-- Every check, in the order of reports (`Check::ALL`). -/
def all : List Check :=
  [.notEmpty, .noRepeatedNames, .noRepeatedAttributeNames, .noEntitiesWithoutAttributes,
    .noEntitiesWithoutKey, .noEntitiesWithSeveralKeys, .noKeysOnManyToMany,
    .noAttributesElsewhere, .noUnconnectedRelations, .noInvalidCardinalities,
    .noInvalidRelationNames, .noWeakWithKey, .noWeakWithWrongRelationCount,
    .noWeakWithWrongCardinality, .noWeakWithoutDiscriminant, .noWeakWithoutIdentifyingRelation,
    .noWeakOwnedByWeak]

/-- The name under which a check is reported (`Check::name`). -/
def name : Check → String
  | notEmpty => "notEmpty"
  | noRepeatedNames => "noRepeatedNames"
  | noRepeatedAttributeNames => "noRepeatedAttrNames"
  | noEntitiesWithoutAttributes => "noEntitiesWithoutAttributes"
  | noEntitiesWithoutKey => "noEntitiesWithoutPK"
  | noEntitiesWithSeveralKeys => "noEntitiesWithMoreThanOnePK"
  | noKeysOnManyToMany => "noNMRelationsWithPK"
  | noAttributesElsewhere => "noNotNMRelationsWithAttributes"
  | noUnconnectedRelations => "noUnconnectedRelations"
  | noInvalidCardinalities => "noNotValidCardinalities"
  | noInvalidRelationNames => "noInvalidRelationNames"
  | noWeakWithKey => "noWeakEntityWithPrimaryKey"
  | noWeakWithWrongRelationCount => "noWeakEntityInvalidRelationCount"
  | noWeakWithWrongCardinality => "noWeakEntityWrongCardinality"
  | noWeakWithoutDiscriminant => "noWeakEntityNoDiscriminant"
  | noWeakWithoutIdentifyingRelation => "noWeakEntityConnectedToNonIdentifyingRelation"
  | noWeakOwnedByWeak => "noWeakEntityOwnedByWeakEntity"

/-- What is wrong with a diagram that fails a check (`Check::message`). -/
def message : Check → String
  | notEmpty => "The diagram is empty"
  | noRepeatedNames => "Two entities or relations share a name"
  | noRepeatedAttributeNames => "An entity or N:M relation has two attributes with the same name"
  | noEntitiesWithoutAttributes => "An entity has no attributes"
  | noEntitiesWithoutKey => "An entity has no primary key"
  | noEntitiesWithSeveralKeys => "An entity has more than one primary key"
  | noKeysOnManyToMany => "An N:M relation attribute is marked as key"
  | noAttributesElsewhere => "A relation that is not N:M carries attributes"
  | noUnconnectedRelations => "A relation is not connected to two entities"
  | noInvalidCardinalities => "A relation has an invalid cardinality"
  | noInvalidRelationNames => "A relation name is empty or contains special characters"
  | noWeakWithKey => "A weak entity has a primary key"
  | noWeakWithWrongRelationCount => "A weak entity is not connected to exactly one relation"
  | noWeakWithWrongCardinality =>
    "A weak entity relation must be 0:N or 1:N on the weak side and 1:1 on the owner side"
  | noWeakWithoutDiscriminant => "A weak entity has no discriminant attribute"
  | noWeakWithoutIdentifyingRelation =>
    "A weak entity must be connected through exactly one identifying relation"
  | noWeakOwnedByWeak => "A weak entity is owned by another weak entity"

theorem mem_all (c : Check) : c ∈ all := by
  cases c <;> decide

end Check

/-! ## Outcomes -/

/-- The outcome of every check, and whether the diagram is valid. -/
structure Diagnostics where
  passed : Check → Bool
  isValid : Bool

namespace Diagnostics

/-- The diagnostics of a diagram that passes the given checks: it is valid if these are all. -/
def ofChecks (passed : Check → Bool) : Diagnostics := ⟨passed, Check.all.all passed⟩

/-- The failed checks, in the order of reports (`Diagnostics::failed_checks`). -/
def failed (d : Diagnostics) : List Check := Check.all.filter fun c => !d.passed c

/-- The names of the failed checks (`Diagnostics::failed_names`). -/
def failedNames (d : Diagnostics) : List String := d.failed.map Check.name

/-- The lines of a report: one for a valid diagram, and one for each failed check. -/
def lines (d : Diagnostics) : List String :=
  (if d.isValid then ["Diagram is valid"] else [])
    ++ d.failed.map fun c => c.name ++ ": " ++ c.message

/-! ## JSON -/

/-- The name of the verdict among the names of the checks. -/
def verdictName : String := "isValid"

/-- Diagnostics as a record of the checks and the verdict. -/
def toJson (d : Diagnostics) : Json :=
  .object (Check.all.map (fun c => (c.name, .boolean (d.passed c)))
    ++ [(verdictName, .boolean d.isValid)])

/-- The record of diagnostics, of which no field may be missing. -/
def record : Record Diagnostics where
  name := "Diagnostics"
  fields :=
    Check.all.map (fun c =>
      .plain c.name true Reader.boolean fun x d =>
        { d with passed := fun c' => if c' = c then x else d.passed c' })
    ++ [.plain verdictName true Reader.boolean fun x d => { d with isValid := x }]
  blank := ⟨fun _ => false, false⟩

/-- The diagnostics that a source holds. -/
def ofSource (source : String) : Except Json.Error Diagnostics := record.ofSource source

/-! ## Lemmas -/

theorem ofChecks_isValid {passed : Check → Bool} :
    (ofChecks passed).isValid = true ↔ ∀ c, passed c = true := by
  simp [ofChecks, Check.mem_all]

theorem mem_failed {d : Diagnostics} {c : Check} : c ∈ d.failed ↔ d.passed c = false := by
  simp [failed, Check.mem_all]

end Diagnostics

end ErSchema
