import ErSchema.Diagram.Basic
import Std.Data.TreeMap.Lemmas

/-!
# Looking up entities and relations by id

An `Index` is built once from a diagram and answers which entity has an id and which relations touch
it. Where several entities share an id the last one is found. The relations come in the order of the
diagram, and one that is reflexive comes once.

* `getElem?_insert_entity`, `toList_getD_list`: what one entity or one listed relation adds to its
  table.
-/

namespace ErSchema

/-- Entities and relations by entity id (`DiagramIndex`). -/
structure Index where
  entities : Std.TreeMap String Entity
  relations : Std.TreeMap String (Array Relation)

namespace Index

/-- The table of entities by id, where a later entity takes the place of an earlier one. -/
def entityTable (es : List Entity) : Std.TreeMap String Entity :=
  es.foldl (fun table e => table.insert e.id e) ∅

/-- Lists a relation last among those of an id. -/
def list (table : Std.TreeMap String (Array Relation)) (id : String) (r : Relation) :
    Std.TreeMap String (Array Relation) :=
  table.insert id ((table.getD id #[]).push r)

/-- Lists a relation under the ids of its sides. -/
def listSides (table : Std.TreeMap String (Array Relation)) (r : Relation) :
    Std.TreeMap String (Array Relation) :=
  let table := list table r.side1.entity r
  if r.isReflexive then table else list table r.side2.entity r

/-- The table of relations by the ids of their sides. -/
def relationTable (rs : List Relation) : Std.TreeMap String (Array Relation) :=
  rs.foldl listSides ∅

/-- The index of a diagram (`DiagramIndex::new`). -/
def ofDiagram (d : Diagram) : Index := ⟨entityTable d.entities, relationTable d.relations⟩

/-- The entity with an id (`DiagramIndex::entity`). -/
def entity? (index : Index) (id : String) : Option Entity := index.entities[id]?

/-- The relations that touch an id, in the order of the diagram (`DiagramIndex::relations_of`). -/
def relationsOf (index : Index) (id : String) : List Relation :=
  (index.relations.getD id #[]).toList

/-- The identifying relations that touch an id, in the order of the diagram
(`DiagramIndex::identifying_relations_of`). -/
def identifyingRelationsOf (index : Index) (id : String) : List Relation :=
  (index.relationsOf id).filter (·.isIdentifying)

/-! ## Lemmas -/

theorem getElem?_insert_entity (table : Std.TreeMap String Entity) (e : Entity) (id : String) :
    (table.insert e.id e)[id]? = if e.id = id then some e else table[id]? := by
  simp [Std.TreeMap.getElem?_insert]

theorem toList_getD_list (table : Std.TreeMap String (Array Relation)) (id : String) (r : Relation)
    (x : String) :
    ((list table id r).getD x #[]).toList =
      (table.getD x #[]).toList ++ if id = x then [r] else [] := by
  by_cases h : id = x
  · subst h
    simp [list]
  · simp [list, Std.TreeMap.getD_insert, h]

end Index

end ErSchema
