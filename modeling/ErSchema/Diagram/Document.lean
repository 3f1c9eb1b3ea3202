import ErSchema.Diagram.Basic
import ErSchema.Json.Records
import ErSchema.Json.Render

/-!
# Diagrams as JSON documents

`Diagram.ofSource` reads the document that a diagram editor keeps. An id may stand under `idMx`, a
side may name its entity by the bare id or by an object around it, and members that only concern
the drawing are passed. `Diagram.toJson` is the document with all fields and bare ids.

* `reference?_string`: a bare id refers to itself.
-/

namespace ErSchema

open Json

/-! ## Reading -/

/-- The second key of an id. -/
def drawnId : String := "idMx"

/-- An attribute. -/
def Attribute.record : Record Attribute where
  name := "Attribute"
  fields :=
    [.plain "name" true Reader.text fun x a => { a with name := x },
      .plain "key" false Reader.boolean fun x a => { a with key := x },
      .plain "discriminant" false Reader.boolean fun x a => { a with discriminant := x }]
  blank := { name := "" }

/-- An entity. -/
def Entity.record : Record Entity where
  name := "Entity"
  fields :=
    [(Field.plain "id" true Reader.text fun x e => { e with id := x }).withAlias drawnId,
      .plain "name" true Reader.text fun x e => { e with name := x },
      .plain "isWeak" false Reader.boolean fun x e => { e with isWeak := x },
      .plain "attributes" false (Reader.list Attribute.record.read) fun x e =>
        { e with attributes := x }]
  blank := { id := "", name := "" }

/-- The id that a value refers to (`entity_ref`): a string itself, or the id in an object, which is
empty when it is absent. -/
def reference? : Json → Option String
  | .string s => some s
  | .object ms =>
    match ms.filter fun m => m.1 = "id" || m.1 = drawnId with
    | [] => some ""
    | [(_, .string s)] => some s
    | _ => none
  | _ => none

/-- The depth to which the reference of a side may nest: at most 127 lists and objects are open at
once, and a reference stands inside four of them. -/
def referenceDepth : Nat := 123

/-- A side. -/
def Side.record : Record Side where
  name := "Side"
  fields :=
    [{ label := "entity"
       aliases := []
       required := false
       read := do
        let v ← value referenceDepth
        pure fun s =>
          match reference? v with
          | some id => .ok { s with entity := id }
          | none => .error .notReference },
      .plain "cardinality" false Reader.text fun x s => { s with cardinality := x }]
  blank := {}

/-- A relation. -/
def Relation.record : Record Relation where
  name := "Relation"
  fields :=
    [(Field.plain "id" true Reader.text fun x r => { r with id := x }).withAlias drawnId,
      .plain "name" true Reader.text fun x r => { r with name := x },
      .plain "side1" true Side.record.read fun x r => { r with side1 := x },
      .plain "side2" true Side.record.read fun x r => { r with side2 := x },
      .plain "isIdentifying" false Reader.boolean fun x r => { r with isIdentifying := x },
      .plain "canHoldAttributes" false Reader.boolean fun x r => { r with canHoldAttributes := x },
      .plain "attributes" false (Reader.list Attribute.record.read) fun x r =>
        { r with attributes := x }]
  blank := { id := "", name := "", side1 := {}, side2 := {} }

/-- A diagram. -/
def Diagram.record : Record Diagram where
  name := "Diagram"
  fields :=
    [.plain "entities" false (Reader.list Entity.record.read) fun x d => { d with entities := x },
      .plain "relations" false (Reader.list Relation.record.read) fun x d =>
        { d with relations := x }]
  blank := {}

/-- The diagram that a source holds. -/
def Diagram.ofSource (source : String) : Except Json.Error Diagram :=
  Diagram.record.ofSource source

/-! ## Writing -/

/-- An attribute with all its fields. -/
def Attribute.toJson (a : Attribute) : Json :=
  .object [("name", .string a.name), ("key", .boolean a.key),
    ("discriminant", .boolean a.discriminant)]

/-- An entity with all its fields. -/
def Entity.toJson (e : Entity) : Json :=
  .object [("id", .string e.id), ("name", .string e.name), ("isWeak", .boolean e.isWeak),
    ("attributes", .array (e.attributes.map Attribute.toJson))]

/-- A side with its bare id. -/
def Side.toJson (s : Side) : Json :=
  .object [("entity", .string s.entity), ("cardinality", .string s.cardinality)]

/-- A relation with all its fields. -/
def Relation.toJson (r : Relation) : Json :=
  .object [("id", .string r.id), ("name", .string r.name), ("side1", r.side1.toJson),
    ("side2", r.side2.toJson), ("isIdentifying", .boolean r.isIdentifying),
    ("canHoldAttributes", .boolean r.canHoldAttributes),
    ("attributes", .array (r.attributes.map Attribute.toJson))]

/-- A diagram with all its fields. -/
def Diagram.toJson (d : Diagram) : Json :=
  .object [("entities", .array (d.entities.map Entity.toJson)),
    ("relations", .array (d.relations.map Relation.toJson))]

/-- The document of a diagram. -/
def Diagram.toSource (d : Diagram) : String := d.toJson.compact

/-! ## Lemmas -/

theorem reference?_string (s : String) : reference? (.string s) = some s := rfl

theorem reference?_id (key s : String) (h : key = "id" ∨ key = drawnId) :
    reference? (.object [(key, .string s)]) = some s := by
  rcases h with rfl | rfl <;> rfl

end ErSchema
