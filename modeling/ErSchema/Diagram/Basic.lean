import ErSchema.Cardinality
import ErSchema.Text.Blank

/-!
# Entity-relationship diagrams

A diagram lists entities with their attributes and relations between two sides. A side names its
entity by id and keeps its cardinality as the text that was drawn, so that a diagram may be
incomplete or wrong; the checks and the classification say where it is.
-/

namespace ErSchema

/-- An attribute of an entity or of a relation. Being a discriminant only matters on weak
entities. -/
structure Attribute where
  name : String
  key : Bool := false
  discriminant : Bool := false
  deriving DecidableEq, Repr, Inhabited

/-- A plain attribute (`Attribute::new`). -/
def Attribute.ofName (name : String) : Attribute := { name }

/-- An attribute of the primary key (`Attribute::key`). -/
def Attribute.ofKey (name : String) : Attribute := { name, key := true }

/-- A discriminant (`Attribute::discriminant`). -/
def Attribute.ofDiscriminant (name : String) : Attribute := { name, discriminant := true }

/-- An entity. A weak one is told apart only together with its owner. -/
structure Entity where
  id : String
  name : String
  isWeak : Bool := false
  attributes : List Attribute := []
  deriving DecidableEq, Repr, Inhabited

namespace Entity

/-- The attributes of the primary key (`Entity::primary_keys`). -/
def primaryKeys (e : Entity) : List Attribute := e.attributes.filter (·.key)

/-- The discriminants (`Entity::discriminants`). -/
def discriminants (e : Entity) : List Attribute := e.attributes.filter (·.discriminant)

end Entity

/-- An end of a relation: the id of an entity, blank while the end is not connected, and a
cardinality as it was drawn. -/
structure Side where
  entity : String := ""
  cardinality : String := ""
  deriving DecidableEq, Repr, Inhabited

namespace Side

/-- Whether an entity is named (`Side::is_connected`). -/
def isConnected (s : Side) : Bool := !Text.isBlankText s.entity

/-- The cardinality that is drawn, if it is one (`Side::cardinality`). -/
def cardinality? (s : Side) : Option Cardinality := Cardinality.parse? s.cardinality

end Side

/-- A relation between two sides. An identifying one ties a weak entity to its owner. -/
structure Relation where
  id : String
  name : String
  side1 : Side
  side2 : Side
  isIdentifying : Bool := false
  canHoldAttributes : Bool := false
  attributes : List Attribute := []
  deriving DecidableEq, Repr, Inhabited

namespace Relation

/-- Both sides, in order (`Relation::sides`). -/
def sides (r : Relation) : List Side := [r.side1, r.side2]

/-- Whether a side names the entity id (`Relation::touches`). -/
def touches (r : Relation) (id : String) : Bool := r.side1.entity = id || r.side2.entity = id

/-- Whether both sides name one entity (`Relation::is_reflexive`). -/
def isReflexive (r : Relation) : Bool := r.side1.entity = r.side2.entity

/-- The side across from an entity id: the second if the first names that id, and otherwise the
first. -/
def sideAcross (r : Relation) (id : String) : Side :=
  if r.side1.entity = id then r.side2 else r.side1

end Relation

/-- A diagram. -/
structure Diagram where
  entities : List Entity := []
  relations : List Relation := []
  deriving DecidableEq, Repr, Inhabited

namespace Diagram

/-- Whether nothing is drawn (`Diagram::is_empty`). -/
def isEmpty (d : Diagram) : Bool := d.entities.isEmpty && d.relations.isEmpty

end Diagram

end ErSchema
