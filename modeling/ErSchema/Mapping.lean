import ErSchema.Classification
import ErSchema.Table.Basic

/-!
# Mapping records to tables

Each class of relations has its own rule for which drafts of tables it contributes and which column
refers to which table:

* `oneToManyTables`: the many side refers to the one side;
* `oneToOneTables`: an optional side refers to the other, and where both are mandatory they are one
  table;
* `manyToManyTables`: a junction table refers to both sides;
* `weakEntityTables`: a weak entity is keyed by its owner's key and its own discriminants.

The rules assume a valid diagram; an entity without a primary key where one is referred to is an
error.

* `requiredKeys_eq_ok`: the key columns that can be referred to.
-/

namespace ErSchema

/-- The table of an entity by itself (`entity_table`). -/
def Entity.table (e : Entity) : Table := ⟨e.name, e.attributes.map .ofAttribute⟩

/-- The primary key of an entity, which must have one (`primary_keys`). -/
def Entity.requiredKeys (e : Entity) : Except CompileError (List Attribute) :=
  if e.primaryKeys.isEmpty then .error (.missingPrimaryKey e.name) else .ok e.primaryKeys

/-- The name of the column that an attribute becomes on behalf of a relation (`relation_column`). -/
def relationColumnName (a : Attribute) (relation : String) : String := a.name ++ "_" ++ relation

/-- The columns by which an entity is referred to on behalf of a relation, under names and flags of
their own. -/
def Entity.referenceColumns (e : Entity) (column : Attribute → Column) :
    Except CompileError (List Column) := do
  let keys ← e.requiredKeys
  pure (keys.map fun a => { column a with foreignKey := some e.name })

/-! ## Relations -/

namespace ClassifiedRelation

/-- The one side and the many side of a relation, as `process_1n` takes them. -/
def oneAndMany (r : ClassifiedRelation) : ClassifiedSide × ClassifiedSide :=
  if r.side1.cardinality.isMany then (r.side2, r.side1) else (r.side1, r.side2)

/-- The drafts of a one-to-many relation (`process_1n`). The many side gets a reference to the one
side, not null where that is mandatory. A weak entity on the many side has a table of its own
instead. -/
def oneToManyTables (r : ClassifiedRelation) : Except CompileError (List Table) := do
  let (one, many) := r.oneAndMany
  let references ← one.entity.referenceColumns fun a =>
    { name := relationColumnName a r.name, notNull := one.cardinality.isMandatory }
  let manyTable : Table := ⟨many.entity.name, many.entity.table.columns ++ references⟩
  if r.isReflexive then pure [manyTable]
  else if r.isIdentifying && many.entity.isWeak then pure [one.entity.table]
  else pure [one.entity.table, manyTable]

/-- The one table of two entities that always come together, as `process_11` merges them: the key
stays with the first, and that of the second is unique. -/
def mergedTable (r : ClassifiedRelation) : Table :=
  ⟨r.name,
    r.side1.entity.attributes.map (fun a => { name := relationColumnName a r.name, key := a.key })
    ++ r.side2.entity.attributes.map fun a =>
      { name := relationColumnName a r.name, notNull := a.key, unique := a.key }⟩

/-- The side that refers and the side that is referred to in a one-to-one relation, as `process_11`
takes them: an optional side refers, the first before the second. -/
def holderAndTarget (r : ClassifiedRelation) : ClassifiedSide × ClassifiedSide :=
  if r.side1.cardinality.isMandatory then (r.side2, r.side1) else (r.side1, r.side2)

/-- The drafts of a one-to-one relation (`process_11`). The reference is unique, and not null where
its target is mandatory. -/
def oneToOneTables (r : ClassifiedRelation) : Except CompileError (List Table) := do
  if r.side1.cardinality.isMandatory && r.side2.cardinality.isMandatory then
    pure [r.mergedTable]
  else
    let (holder, target) := r.holderAndTarget
    let references ← target.entity.referenceColumns fun a =>
      { name := relationColumnName a r.name, notNull := target.cardinality.isMandatory,
        unique := true }
    let holderTable : Table := ⟨holder.entity.name, holder.entity.table.columns ++ references⟩
    if r.isReflexive then pure [holderTable] else pure [target.entity.table, holderTable]

/-- The references of a junction table to one side, told apart by the position of that side
(`junction_keys`). -/
def junctionKeys (r : ClassifiedRelation) (side : ClassifiedSide) (position : Nat) :
    Except CompileError (List Column) :=
  side.entity.referenceColumns fun a =>
    { name := relationColumnName a r.name ++ "_" ++ toString position, key := true }

/-- The drafts of a many-to-many relation (`process_nm`): the junction table is keyed by its
references and also holds the attributes of the relation. -/
def manyToManyTables (r : ClassifiedRelation) : Except CompileError (List Table) := do
  let first ← r.junctionKeys r.side1 1
  let second ← r.junctionKeys r.side2 2
  let own := r.attributes.map fun a => ({ name := a.name } : Column)
  let junction : Table := ⟨r.name, first ++ second ++ own⟩
  if r.isReflexive then pure [r.side1.entity.table, junction]
  else pure [r.side1.entity.table, r.side2.entity.table, junction]

end ClassifiedRelation

/-! ## Weak entities -/

/-- The table of a weak entity (`process_weak_entity`): a not-null reference to its owner and the
discriminants make up the key, and the other attributes follow. Without an identifying relation
there is no table. -/
def weakEntityTables (index : Index) (e : Entity) : Except CompileError (List Table) :=
  match (index.identifyingRelationsOf e.id).head? with
  | none => .ok []
  | some r =>
    let ownerId := (r.sideAcross e.id).entity
    match index.entity? ownerId with
    | none => .error (.unknownEntity r.name ownerId)
    | some owner => do
      let references ← owner.referenceColumns fun a =>
        { name := relationColumnName a r.name, key := true, notNull := true }
      let keys := e.discriminants.map fun a =>
        ({ name := a.name, key := true, notNull := true } : Column)
      let others := (e.attributes.filter (!·.discriminant)).map fun a =>
        ({ name := a.name } : Column)
      pure [⟨e.name, references ++ keys ++ others⟩]

/-! ## Records -/

/-- The drafts of a record, by the class of its relation or the kind of its entity
(`map_classified`). -/
def Classified.tables (index : Index) : Classified → Except CompileError (List Table)
  | relation r =>
    match r.relationClass with
    | .oneToOne => r.oneToOneTables
    | .oneToMany => r.oneToManyTables
    | .manyToMany => r.manyToManyTables
  | entity e => if e.isWeak then weakEntityTables index e else .ok [e.table]

/-! ## Lemmas -/

theorem requiredKeys_eq_ok {e : Entity} {keys : List Attribute} :
    e.requiredKeys = .ok keys ↔ keys = e.primaryKeys ∧ keys ≠ [] := by
  unfold Entity.requiredKeys
  split
  · rename_i h
    simp only [List.isEmpty_iff] at h
    simp_all
  · rename_i h
    simp only [List.isEmpty_iff] at h
    constructor
    · intro h'
      cases h'
      exact ⟨rfl, h⟩
    · rintro ⟨rfl, -⟩
      rfl

end ErSchema
