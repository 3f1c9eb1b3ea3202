import ErSchema.Validation

/-!
# Checks item by item

A check asks something of the diagram as a whole, of each entity or of each relation, and what it
asks of an entity or a relation depends on the rest of the diagram through the index only.

* `Check.holds_eq`: a diagram passes a check iff it does as a whole, and each entity and each
  relation does.
-/

namespace ErSchema

namespace Check

/-- Whether a diagram as a whole passes a check. -/
def passesDiagram (d : Diagram) : Check → Bool
  | notEmpty => !d.isEmpty
  | noRepeatedNames => !hasRepeat d.names
  | _ => true

/-- Whether an entity passes a check. -/
def passesEntity (index : Index) (e : Entity) : Check → Bool
  | noRepeatedAttributeNames => !hasRepeatedAttribute e.attributes
  | noEntitiesWithoutAttributes => e.isWeak || !e.attributes.isEmpty
  | noEntitiesWithoutKey => e.isWeak || 0 < e.primaryKeys.length
  | noEntitiesWithSeveralKeys => e.isWeak || e.primaryKeys.length ≤ 1
  | noWeakWithKey => !e.isWeak || e.primaryKeys.isEmpty
  | noWeakWithWrongRelationCount => !e.isWeak || (index.relationsOf e.id).length = 1
  | noWeakWithoutDiscriminant => !e.isWeak || 0 < e.discriminants.length
  | noWeakWithoutIdentifyingRelation =>
    !e.isWeak || (index.identifyingRelationsOf e.id).length = 1
  | noWeakOwnedByWeak =>
    !e.isWeak ||
      (index.identifyingRelationsOf e.id).all fun r => !index.isWeak (r.sideAcross e.id).entity
  | _ => true

/-- Whether a relation passes a check. -/
def passesRelation (index : Index) (r : Relation) : Check → Bool
  | noRepeatedAttributeNames => !r.canHoldAttributes || !hasRepeatedAttribute r.attributes
  | noKeysOnManyToMany => !r.isManyToMany || !r.attributes.any (·.key)
  | noAttributesElsewhere => r.canHoldAttributes || r.attributes.isEmpty
  | noUnconnectedRelations =>
    r.sides.all fun s => s.isConnected && (index.entity? s.entity).isSome
  | noInvalidCardinalities => r.hasValidCardinalities
  | noInvalidRelationNames => r.hasValidName
  | noWeakWithWrongCardinality => index.hasWeakCardinalities r
  | _ => true

end Check

/-! ## Filtered lists -/

theorem all_strongEntities (d : Diagram) (p : Entity → Bool) :
    d.strongEntities.all p = d.entities.all fun e => e.isWeak || p e := by
  simp [Diagram.strongEntities, List.all_filter]

theorem all_weakEntities (d : Diagram) (p : Entity → Bool) :
    d.weakEntities.all p = d.entities.all fun e => !e.isWeak || p e := by
  simp [Diagram.weakEntities, List.all_filter]

/-- **A check is passed as a whole and item by item.** -/
theorem Check.holds_eq (d : Diagram) (index : Index) (c : Check) :
    c.holds d index = (c.passesDiagram d && d.entities.all (c.passesEntity index ·)
      && d.relations.all (c.passesRelation index ·)) := by
  rw [Bool.eq_iff_iff]
  cases c <;>
    simp [Check.holds, passesDiagram, passesEntity, passesRelation, all_strongEntities,
      all_weakEntities, Decidable.imp_iff_not_or]

end ErSchema
