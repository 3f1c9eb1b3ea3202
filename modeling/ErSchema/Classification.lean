import ErSchema.CompileError
import ErSchema.Diagram.Index

/-!
# Classification of relations

Before tables are drawn up, every relation is resolved: its sides get their entities and their
cardinalities, and the two maxima put it into a class. `classify` gives one record for each relation
and then one for each entity that still needs a table of its own: those on no relation, and all
weak ones.

* `resolveSide_eq_ok`: a side resolves iff it names an entity and its cardinality is one.
* `ofSides_comm`: the class does not depend on the order of the sides.
-/

namespace ErSchema

/-! ## Classes -/

/-- The class of a relation by the maxima of its sides (`CardinalityClass`). -/
inductive RelationClass where
  | oneToOne
  | oneToMany
  | manyToMany
  deriving DecidableEq, Repr

namespace RelationClass

/-- A class as it is written. -/
def text : RelationClass → String
  | oneToOne => "1:1"
  | oneToMany => "1:N"
  | manyToMany => "N:M"

/-- The class of two cardinalities (`CardinalityClass::from_sides`). -/
def ofSides (a b : Cardinality) : RelationClass :=
  match a.isMany, b.isMany with
  | false, false => oneToOne
  | true, true => manyToMany
  | _, _ => oneToMany

end RelationClass

/-! ## Records -/

/-- A side with its entity and its cardinality. -/
structure ClassifiedSide where
  entity : Entity
  cardinality : Cardinality
  deriving DecidableEq, Repr

/-- A relation whose sides are resolved. -/
structure ClassifiedRelation where
  name : String
  side1 : ClassifiedSide
  side2 : ClassifiedSide
  isIdentifying : Bool
  attributes : List Attribute
  deriving DecidableEq, Repr

namespace ClassifiedRelation

/-- The class of a relation. -/
def relationClass (r : ClassifiedRelation) : RelationClass :=
  .ofSides r.side1.cardinality r.side2.cardinality

/-- Whether both sides have one entity (`ClassifiedRelation::is_reflexive`). -/
def isReflexive (r : ClassifiedRelation) : Bool := r.side1.entity.id = r.side2.entity.id

/-- The ids of the entities on both sides. -/
def entityIds (r : ClassifiedRelation) : List String := [r.side1.entity.id, r.side2.entity.id]

end ClassifiedRelation

/-- What is mapped to tables: a relation with its entities, or an entity by itself. -/
inductive Classified where
  | relation (r : ClassifiedRelation)
  | entity (e : Entity)
  deriving DecidableEq, Repr

/-- The name of a record (`Classified::name`). -/
def Classified.name : Classified → String
  | relation r => r.name
  | entity e => e.name

/-! ## Classifying -/

/-- Resolves a side of a relation (`classify_side`). -/
def resolveSide (index : Index) (r : Relation) (s : Side) : Except CompileError ClassifiedSide :=
  match index.entity? s.entity with
  | none => .error (.unknownEntity r.name s.entity)
  | some entity =>
    match s.cardinality? with
    | none => .error (.invalidCardinality r.name s.cardinality)
    | some cardinality => .ok ⟨entity, cardinality⟩

/-- Resolves a relation, its first side first. -/
def resolveRelation (index : Index) (r : Relation) : Except CompileError ClassifiedRelation := do
  let side1 ← resolveSide index r r.side1
  let side2 ← resolveSide index r r.side2
  pure ⟨r.name, side1, side2, r.isIdentifying, r.attributes⟩

/-- The entities that need a table of their own next to the relations. -/
def remainingEntities (rs : List ClassifiedRelation) (es : List Entity) : List Entity :=
  let taken := rs.flatMap (·.entityIds)
  es.filter fun e => e.isWeak || !taken.contains e.id

/-- The records of a diagram over its index (`classify`): its relations, then the entities that
remain. -/
def classify (index : Index) (d : Diagram) : Except CompileError (List Classified) := do
  let rs ← d.relations.mapM (resolveRelation index)
  pure (rs.map .relation ++ (remainingEntities rs d.entities).map .entity)

/-- The records of a diagram (`filter_tables`). -/
def Diagram.classify (d : Diagram) : Except CompileError (List Classified) :=
  ErSchema.classify (Index.ofDiagram d) d

/-! ## Lemmas -/

theorem resolveSide_eq_ok {index : Index} {r : Relation} {s : Side} {c : ClassifiedSide} :
    resolveSide index r s = .ok c ↔
      index.entity? s.entity = some c.entity ∧ s.cardinality? = some c.cardinality := by
  obtain ⟨entity, cardinality⟩ := c
  unfold resolveSide
  split
  · simp_all
  · split <;> simp_all

theorem ofSides_comm (a b : Cardinality) :
    RelationClass.ofSides a b = RelationClass.ofSides b a := by
  unfold RelationClass.ofSides
  cases a.isMany <;> cases b.isMany <;> rfl

end ErSchema
