import ErSchema.Diagnostics
import ErSchema.Diagram.Index

/-!
# Validation of diagrams

`Check.holds` says of each check when a diagram passes it. The checks do not depend on one another,
so a report names all that is wrong at once. `Diagram.validate` runs them all over one index.

* `validate_isValid`: a diagram is valid iff every check holds.
-/

namespace ErSchema

/-! ## Conditions -/

/-- Whether a name occurs twice. -/
def hasRepeat : List String → Bool
  | [] => false
  | name :: rest => rest.contains name || hasRepeat rest

/-- Whether a relation is between two entities that may both take part many times (`is_nm`). One
that was drawn to hold attributes counts as such. -/
def Relation.isManyToMany (r : Relation) : Bool :=
  r.canHoldAttributes || r.sides.all fun s => s.cardinality?.any (·.isMany)

/-- Whether an entity takes part exactly once. -/
def Cardinality.isExactlyOne (c : Cardinality) : Bool := c.isMandatory && !c.isMany

/-- Whether both cardinalities of a relation are ones, and not both exactly one
(`valid_cardinalities`). -/
def Relation.hasValidCardinalities (r : Relation) : Bool :=
  match r.side1.cardinality?, r.side2.cardinality? with
  | some a, some b => !(a.isExactlyOne && b.isExactlyOne)
  | _, _ => false

/-- Whether a character may stand in the name of a relation. -/
def isNameChar (c : Char) : Bool := c.isAlphanum || c = ' ' || c = '_'

/-- Whether the name of a relation, but for the blanks around it, is made of letters, digits, spaces
and underscores (`RELATION_NAME`). -/
def Relation.hasValidName (r : Relation) : Bool :=
  let name := Text.trim r.name.toList
  !name.isEmpty && name.all isNameChar

/-- Whether an id is that of a weak entity. -/
def Index.isWeak (index : Index) (id : String) : Bool := (index.entity? id).any (·.isWeak)

/-- Whether a weak entity may be on one side and its owner on the other. -/
def Side.isWeakOf (weak owner : Side) : Bool :=
  weak.cardinality?.any (·.isMany) && owner.cardinality?.any (·.isExactlyOne)

/-- Whether the cardinalities of a relation suit the weak entity on its first or, failing that, on
its second side (`valid_weak_cardinalities`). -/
def Index.hasWeakCardinalities (index : Index) (r : Relation) : Bool :=
  if index.isWeak r.side1.entity then r.side1.isWeakOf r.side2
  else if index.isWeak r.side2.entity then r.side2.isWeakOf r.side1
  else true

/-! ## Checks -/

/-- The entities that are not weak. -/
def Diagram.strongEntities (d : Diagram) : List Entity := d.entities.filter (!·.isWeak)

/-- The weak entities. -/
def Diagram.weakEntities (d : Diagram) : List Entity := d.entities.filter (·.isWeak)

/-- The names of all entities and relations, of which `repeated_names` asks whether one stands
twice. -/
def Diagram.names (d : Diagram) : List String :=
  d.entities.map (·.name) ++ d.relations.map (·.name)

/-- Whether a list of attributes names one twice (`repeated_attribute_names`). -/
def hasRepeatedAttribute (attributes : List Attribute) : Bool :=
  hasRepeat (attributes.map (·.name))

/-- Whether a diagram with its index passes a check. -/
def Check.holds (d : Diagram) (index : Index) : Check → Bool
  | .notEmpty => !d.isEmpty
  | .noRepeatedNames => !hasRepeat d.names
  | .noRepeatedAttributeNames =>
    !(d.entities.any (hasRepeatedAttribute ·.attributes)
      || (d.relations.filter (·.canHoldAttributes)).any (hasRepeatedAttribute ·.attributes))
  | .noEntitiesWithoutAttributes => d.strongEntities.all (!·.attributes.isEmpty)
  | .noEntitiesWithoutKey => d.strongEntities.all (0 < ·.primaryKeys.length)
  | .noEntitiesWithSeveralKeys => d.strongEntities.all (·.primaryKeys.length ≤ 1)
  | .noKeysOnManyToMany => !(d.relations.filter (·.isManyToMany)).any (·.attributes.any (·.key))
  | .noAttributesElsewhere => d.relations.all fun r => r.canHoldAttributes || r.attributes.isEmpty
  | .noUnconnectedRelations =>
    d.relations.all fun r => r.sides.all fun s => s.isConnected && (index.entity? s.entity).isSome
  | .noInvalidCardinalities => d.relations.all (·.hasValidCardinalities)
  | .noInvalidRelationNames => d.relations.all (·.hasValidName)
  | .noWeakWithKey => d.weakEntities.all (·.primaryKeys.isEmpty)
  | .noWeakWithWrongRelationCount => d.weakEntities.all fun e => (index.relationsOf e.id).length = 1
  | .noWeakWithWrongCardinality => d.relations.all index.hasWeakCardinalities
  | .noWeakWithoutDiscriminant => d.weakEntities.all (0 < ·.discriminants.length)
  | .noWeakWithoutIdentifyingRelation =>
    d.weakEntities.all fun e => (index.identifyingRelationsOf e.id).length = 1
  | .noWeakOwnedByWeak =>
    d.weakEntities.all fun e =>
      (index.identifyingRelationsOf e.id).all fun r => !index.isWeak (r.sideAcross e.id).entity

/-- The diagnostics of a diagram (`validate`). -/
def Diagram.validate (d : Diagram) : Diagnostics :=
  let index := Index.ofDiagram d
  .ofChecks (Check.holds d index)

/-! ## Lemmas -/

theorem hasRepeat_eq_false {names : List String} : hasRepeat names = false ↔ names.Nodup := by
  induction names with
  | nil => simp [hasRepeat]
  | cons name rest ih => simp [hasRepeat, ih]

theorem validate_isValid {d : Diagram} :
    d.validate.isValid = true ↔ ∀ c, Check.holds d (Index.ofDiagram d) c = true :=
  Diagnostics.ofChecks_isValid

end ErSchema
