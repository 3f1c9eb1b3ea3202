import ErSchema.Mapping
import ErSchema.Proofs.Diagram.Checks
import ErSchema.Proofs.Diagram.Lookup
import ErSchema.Proofs.Diagram.Validity
import ErSchema.Proofs.Lists
import Mathlib.Data.Set.Function

/-!
# Diagrams inside others

A diagram `Embeds` into another along a map of ids if the lookups of the other, at the ids of the
first, give what the lookups of the first give. The other may be the diagram itself under different
ids, or a larger one of which the diagram is a part that nothing else touches. Either way each
relation resolves to the same, each record is mapped to the same tables, and each entity and each
relation passes the same checks.

* `Embeds.resolveRelation_eq_ok`, `Embeds.relation_tables`, `Embeds.entity_tables_eq_ok`: the rules,
  record by record.
* `Embeds.passesEntity`, `Embeds.passesRelation`: the checks, item by item.
-/

namespace ErSchema

variable {f : String → String}

/-! ## Relabeling -/

/-- An entity under another id. -/
def Entity.relabel (f : String → String) (e : Entity) : Entity := { e with id := f e.id }

/-- A side that names its entity by another id. -/
def Side.relabel (f : String → String) (s : Side) : Side := { s with entity := f s.entity }

/-- Whether a relation becomes another when its sides are relabeled. Its own id may become any. -/
structure Relation.Relabels (f : String → String) (r r' : Relation) : Prop where
  name : r'.name = r.name
  side1 : r'.side1 = r.side1.relabel f
  side2 : r'.side2 = r.side2.relabel f
  isIdentifying : r'.isIdentifying = r.isIdentifying
  canHoldAttributes : r'.canHoldAttributes = r.canHoldAttributes
  attributes : r'.attributes = r.attributes

instance (f : String → String) (r r' : Relation) : Decidable (r.Relabels f r') :=
  decidable_of_iff (r'.name = r.name ∧ r'.side1 = r.side1.relabel f ∧
      r'.side2 = r.side2.relabel f ∧ r'.isIdentifying = r.isIdentifying ∧
      r'.canHoldAttributes = r.canHoldAttributes ∧ r'.attributes = r.attributes)
    ⟨fun ⟨h₁, h₂, h₃, h₄, h₅, h₆⟩ => ⟨h₁, h₂, h₃, h₄, h₅, h₆⟩,
      fun ⟨h₁, h₂, h₃, h₄, h₅, h₆⟩ => ⟨h₁, h₂, h₃, h₄, h₅, h₆⟩⟩

/-- A resolved side whose entity is relabeled. -/
def ClassifiedSide.relabel (f : String → String) (s : ClassifiedSide) : ClassifiedSide :=
  { s with entity := s.entity.relabel f }

/-- A resolved relation whose entities are relabeled. -/
def ClassifiedRelation.relabel (f : String → String) (c : ClassifiedRelation) :
    ClassifiedRelation :=
  { c with side1 := c.side1.relabel f, side2 := c.side2.relabel f }

@[simp] theorem relabel_id (c : ClassifiedRelation) : c.relabel id = c := rfl

theorem map_relabel_id (es : List Entity) : es.map (Entity.relabel id) = es := List.map_id es

theorem relabels_id (r : Relation) : r.Relabels id r := ⟨rfl, rfl, rfl, rfl, rfl, rfl⟩

namespace Relation.Relabels

variable {r r' : Relation}

theorem isManyToMany (h : r.Relabels f r') : r'.isManyToMany = r.isManyToMany := by
  unfold Relation.isManyToMany Relation.sides
  rw [h.canHoldAttributes, h.side1, h.side2]
  rfl

theorem hasValidCardinalities (h : r.Relabels f r') :
    r'.hasValidCardinalities = r.hasValidCardinalities := by
  unfold Relation.hasValidCardinalities
  rw [h.side1, h.side2]
  rfl

theorem hasValidName (h : r.Relabels f r') : r'.hasValidName = r.hasValidName := by
  unfold Relation.hasValidName
  rw [h.name]

end Relation.Relabels

/-! ## Tables under other ids -/

namespace ClassifiedRelation

variable (c : ClassifiedRelation)

theorem oneAndMany_relabel :
    (c.relabel f).oneAndMany = (c.oneAndMany.1.relabel f, c.oneAndMany.2.relabel f) := by
  unfold oneAndMany
  have hmany : (c.relabel f).side1.cardinality.isMany = c.side1.cardinality.isMany := rfl
  rw [hmany]
  split <;> rfl

theorem holderAndTarget_relabel :
    (c.relabel f).holderAndTarget =
      (c.holderAndTarget.1.relabel f, c.holderAndTarget.2.relabel f) := by
  unfold holderAndTarget
  have hmandatory :
      (c.relabel f).side1.cardinality.isMandatory = c.side1.cardinality.isMandatory := rfl
  rw [hmandatory]
  split <;> rfl

variable {c}

theorem oneToManyTables_relabel (hrefl : (c.relabel f).isReflexive = c.isReflexive) :
    (c.relabel f).oneToManyTables = c.oneToManyTables := by
  unfold oneToManyTables
  rw [oneAndMany_relabel, hrefl]
  rfl

theorem oneToOneTables_relabel (hrefl : (c.relabel f).isReflexive = c.isReflexive) :
    (c.relabel f).oneToOneTables = c.oneToOneTables := by
  unfold oneToOneTables
  rw [holderAndTarget_relabel, hrefl]
  rfl

theorem manyToManyTables_relabel (hrefl : (c.relabel f).isReflexive = c.isReflexive) :
    (c.relabel f).manyToManyTables = c.manyToManyTables := by
  unfold manyToManyTables
  rw [hrefl]
  rfl

end ClassifiedRelation

/-! ## Ids -/

namespace Diagram

/-- The ids of the entities. -/
def entityIds (d : Diagram) : List String := d.entities.map (·.id)

/-- The ids that sides refer to. -/
def sideIds (d : Diagram) : List String := d.relations.flatMap fun r => r.sides.map (·.entity)

/-- All ids of entities, given or referred to. -/
def ids (d : Diagram) : List String := d.entityIds ++ d.sideIds

variable {d : Diagram}

theorem mem_entityIds {e : Entity} (he : e ∈ d.entities) : e.id ∈ d.entityIds :=
  List.mem_map.mpr ⟨e, he, rfl⟩

theorem mem_ids_of_entity {e : Entity} (he : e ∈ d.entities) : e.id ∈ d.ids :=
  List.mem_append_left _ (mem_entityIds he)

theorem mem_ids_of_side {r : Relation} (hr : r ∈ d.relations) {s : Side} (hs : s ∈ r.sides) :
    s.entity ∈ d.ids :=
  List.mem_append_right _ (List.mem_flatMap.mpr ⟨r, hr, List.mem_map.mpr ⟨s, hs, rfl⟩⟩)

theorem mem_ids_of_side1 {r : Relation} (hr : r ∈ d.relations) : r.side1.entity ∈ d.ids :=
  mem_ids_of_side hr List.mem_cons_self

theorem mem_ids_of_side2 {r : Relation} (hr : r ∈ d.relations) : r.side2.entity ∈ d.ids :=
  mem_ids_of_side hr (List.mem_cons_of_mem _ List.mem_cons_self)

theorem mem_ids_of_across {r : Relation} (hr : r ∈ d.relations) (id : String) :
    (r.sideAcross id).entity ∈ d.ids := by
  unfold Relation.sideAcross
  split
  · exact mem_ids_of_side2 hr
  · exact mem_ids_of_side1 hr

theorem Resolves.entityIds_subset {r : Relation} {c : ClassifiedRelation} (hr : d.Resolves r c) :
    c.entityIds ⊆ d.ids := by
  intro x hx
  rcases List.mem_pair.mp hx with rfl | rfl
  · exact mem_ids_of_entity (hr.face (Or.inl ⟨rfl, rfl⟩)).1
  · exact mem_ids_of_entity (hr.face (Or.inr ⟨rfl, rfl⟩)).1

/-- What the relations of a diagram resolve to takes entities of that diagram. -/
theorem entityIds_subset_of_resolved {cs : List ClassifiedRelation}
    (hcs : List.Forall₂ d.Resolves d.relations cs) : cs.flatMap (·.entityIds) ⊆ d.ids := by
  intro x hx
  obtain ⟨c, hc, hx⟩ := List.mem_flatMap.mp hx
  obtain ⟨r, -, hr⟩ := exists_of_forall₂_right hcs hc
  exact hr.entityIds_subset hx

/-! ## Embeddings -/

/-- Whether a diagram is found in another along a map of its ids. -/
structure Embeds (f : String → String) (d u : Diagram) : Prop where
  injOn : Set.InjOn f {x | x ∈ d.ids}
  blank : ∀ x ∈ d.ids, Text.isBlankText (f x) = Text.isBlankText x
  entity : ∀ x ∈ d.ids,
    (Index.ofDiagram u).entity? (f x) = ((Index.ofDiagram d).entity? x).map (Entity.relabel f)
  relations : ∀ x ∈ d.entityIds, List.Forall₂ (Relation.Relabels f)
    ((Index.ofDiagram d).relationsOf x) ((Index.ofDiagram u).relationsOf (f x))

namespace Embeds

variable {u : Diagram} {r r' : Relation} {e : Entity}

theorem eq_iff (h : d.Embeds f u) {x y : String} (hx : x ∈ d.ids) (hy : y ∈ d.ids) :
    f x = f y ↔ x = y :=
  h.injOn.eq_iff hx hy

/-! ## Resolving -/

theorem resolveSide_eq_ok (h : d.Embeds f u) {s : Side} (hs : s.entity ∈ d.ids)
    {c' : ClassifiedSide} :
    resolveSide (Index.ofDiagram u) r' (s.relabel f) = .ok c' ↔
      ∃ c, resolveSide (Index.ofDiagram d) r s = .ok c ∧ c.relabel f = c' := by
  simp only [ErSchema.resolveSide_eq_ok]
  have hentity : (Index.ofDiagram u).entity? (s.relabel f).entity = _ := h.entity _ hs
  rw [hentity]
  constructor
  · rintro ⟨he, hc⟩
    obtain ⟨e, he, heq⟩ := Option.map_eq_some_iff.mp he
    refine ⟨⟨e, c'.cardinality⟩, ⟨he, hc⟩, ?_⟩
    unfold ClassifiedSide.relabel
    rw [heq]
  · rintro ⟨c, ⟨he, hc⟩, rfl⟩
    exact ⟨by rw [he]; rfl, hc⟩

/-- **A relation resolves to the same**, with its entities relabeled. -/
theorem resolveRelation_eq_ok (h : d.Embeds f u) (hr : r ∈ d.relations) (hrel : r.Relabels f r')
    {c' : ClassifiedRelation} :
    resolveRelation (Index.ofDiagram u) r' = .ok c' ↔
      ∃ c, resolveRelation (Index.ofDiagram d) r = .ok c ∧ c.relabel f = c' := by
  simp only [ErSchema.resolveRelation_eq_ok]
  rw [hrel.side1, hrel.side2, h.resolveSide_eq_ok (r := r) (mem_ids_of_side1 hr),
    h.resolveSide_eq_ok (r := r) (mem_ids_of_side2 hr), hrel.name, hrel.isIdentifying,
    hrel.attributes]
  constructor
  · rintro ⟨⟨c1, h1, heq1⟩, ⟨c2, h2, heq2⟩, hname, hid, hattributes⟩
    refine ⟨⟨r.name, c1, c2, r.isIdentifying, r.attributes⟩, ⟨h1, h2, rfl, rfl, rfl⟩, ?_⟩
    unfold ClassifiedRelation.relabel
    rw [heq1, heq2, ← hname, ← hid, ← hattributes]
  · rintro ⟨c, ⟨h1, h2, hname, hid, hattributes⟩, rfl⟩
    exact ⟨⟨c.side1, h1, rfl⟩, ⟨c.side2, h2, rfl⟩, hname, hid, hattributes⟩

/-! ## Rules -/

theorem isReflexive_relabel (h : d.Embeds f u) {c : ClassifiedRelation} (hr : d.Resolves r c) :
    (c.relabel f).isReflexive = c.isReflexive := by
  have h1 : c.side1.entity.id ∈ d.ids := hr.entityIds_subset List.mem_cons_self
  have h2 : c.side2.entity.id ∈ d.ids :=
    hr.entityIds_subset (List.mem_cons_of_mem _ List.mem_cons_self)
  exact decide_eq_decide.mpr (h.eq_iff h1 h2)

/-- **A relation is mapped to the same tables.** -/
theorem relation_tables (h : d.Embeds f u) {c : ClassifiedRelation} (hr : d.Resolves r c) :
    (Classified.relation (c.relabel f)).tables (Index.ofDiagram u) =
      (Classified.relation c).tables (Index.ofDiagram d) := by
  have hrefl := h.isReflexive_relabel hr
  have hclass : (c.relabel f).relationClass = c.relationClass := rfl
  simp only [Classified.tables, hclass]
  cases c.relationClass with
  | oneToOne => exact ClassifiedRelation.oneToOneTables_relabel hrefl
  | oneToMany => exact ClassifiedRelation.oneToManyTables_relabel hrefl
  | manyToMany => exact ClassifiedRelation.manyToManyTables_relabel hrefl

/-- The identifying relations of an entity are the same, one by one. -/
theorem forall₂_identifying (h : d.Embeds f u) (he : e ∈ d.entities) :
    List.Forall₂ (fun r r' => r ∈ d.relations ∧ r.Relabels f r')
      ((Index.ofDiagram d).identifyingRelationsOf e.id)
      ((Index.ofDiagram u).identifyingRelationsOf (f e.id)) := by
  have hall := h.relations _ (mem_entityIds he)
  have hfilter : List.Forall₂ (Relation.Relabels f)
      ((Index.ofDiagram d).identifyingRelationsOf e.id)
      ((Index.ofDiagram u).identifyingRelationsOf (f e.id)) :=
    List.rel_filter (fun r r' hrel => by simp [hrel.isIdentifying]) hall
  refine (forall₂_with_mem hfilter).imp fun r r' ⟨hr, _, hrel⟩ => ⟨?_, hrel⟩
  rw [Index.identifyingRelationsOf_ofDiagram] at hr
  exact (List.mem_filter.mp (List.mem_filter.mp hr).1).1

theorem sideAcross_entity (h : d.Embeds f u) (hr : r ∈ d.relations) (hrel : r.Relabels f r')
    {x : String} (hx : x ∈ d.ids) :
    (r'.sideAcross (f x)).entity = f (r.sideAcross x).entity := by
  have hiff : f r.side1.entity = f x ↔ r.side1.entity = x := h.eq_iff (mem_ids_of_side1 hr) hx
  unfold Relation.sideAcross
  rw [hrel.side1, hrel.side2]
  simp only [Side.relabel, hiff]
  split <;> rfl

/-- What is across from an entity is looked up to the same. -/
theorem entity_across (h : d.Embeds f u) (hr : r ∈ d.relations) (hrel : r.Relabels f r')
    (he : e ∈ d.entities) :
    (Index.ofDiagram u).entity? (r'.sideAcross (f e.id)).entity =
      ((Index.ofDiagram d).entity? (r.sideAcross e.id).entity).map (Entity.relabel f) := by
  rw [h.sideAcross_entity hr hrel (mem_ids_of_entity he), h.entity _ (mem_ids_of_across hr _)]

theorem weakEntityTables_eq_ok (h : d.Embeds f u) (he : e ∈ d.entities) {ts : List Table} :
    weakEntityTables (Index.ofDiagram u) (e.relabel f) = .ok ts ↔
      weakEntityTables (Index.ofDiagram d) e = .ok ts := by
  have hid : (e.relabel f).id = f e.id := rfl
  have hrelations := h.forall₂_identifying he
  unfold weakEntityTables
  rw [hid]
  -- the relations match one by one, so there is none in either list or the first ones match
  generalize (Index.ofDiagram d).identifyingRelationsOf e.id = rs at hrelations
  generalize (Index.ofDiagram u).identifyingRelationsOf (f e.id) = rs' at hrelations
  cases hrelations with
  | nil => rfl
  | @cons r r' _ _ hrel _ =>
    simp only [List.head?_cons]
    rw [h.entity_across hrel.1 hrel.2 he, hrel.2.name]
    cases (Index.ofDiagram d).entity? (r.sideAcross e.id).entity with
    | none => simp
    | some owner => rfl

/-- **An entity is mapped to the same tables.** -/
theorem entity_tables_eq_ok (h : d.Embeds f u) (he : e ∈ d.entities) {ts : List Table} :
    (Classified.entity (e.relabel f)).tables (Index.ofDiagram u) = .ok ts ↔
      (Classified.entity e).tables (Index.ofDiagram d) = .ok ts := by
  have hweak : (e.relabel f).isWeak = e.isWeak := rfl
  simp only [Classified.tables, hweak]
  split
  · exact h.weakEntityTables_eq_ok he
  · rfl

/-! ## Checks -/

theorem isWeak_eq (h : d.Embeds f u) {x : String} (hx : x ∈ d.ids) :
    (Index.ofDiagram u).isWeak (f x) = (Index.ofDiagram d).isWeak x := by
  unfold Index.isWeak
  rw [h.entity x hx, Option.any_map]
  rfl

/-- **An entity passes the same checks.** -/
theorem passesEntity (h : d.Embeds f u) (he : e ∈ d.entities) (c : Check) :
    c.passesEntity (Index.ofDiagram u) (e.relabel f) =
      c.passesEntity (Index.ofDiagram d) e := by
  have hid : (e.relabel f).id = f e.id := rfl
  have hidentifying := h.forall₂_identifying he
  cases c
  case noWeakWithWrongRelationCount =>
    unfold Check.passesEntity
    rw [hid, (h.relations _ (mem_entityIds he)).length_eq]
    rfl
  case noWeakWithoutIdentifyingRelation =>
    unfold Check.passesEntity
    rw [hid, hidentifying.length_eq]
    rfl
  case noWeakOwnedByWeak =>
    have hacross : ∀ r r', r ∈ d.relations ∧ r.Relabels f r' →
        (Index.ofDiagram u).isWeak (r'.sideAcross (f e.id)).entity =
          (Index.ofDiagram d).isWeak (r.sideAcross e.id).entity := by
      rintro r r' ⟨hr, hrel⟩
      rw [h.sideAcross_entity hr hrel (mem_ids_of_entity he), h.isWeak_eq (mem_ids_of_across hr _)]
    unfold Check.passesEntity
    rw [hid, all_eq_of_forall₂ hidentifying fun r r' hrel => by rw [hacross r r' hrel]]
    rfl
  all_goals rfl

theorem hasWeakCardinalities_eq (h : d.Embeds f u) (hr : r ∈ d.relations)
    (hrel : r.Relabels f r') :
    (Index.ofDiagram u).hasWeakCardinalities r' = (Index.ofDiagram d).hasWeakCardinalities r := by
  have h1 := h.isWeak_eq (mem_ids_of_side1 hr)
  have h2 := h.isWeak_eq (mem_ids_of_side2 hr)
  unfold Index.hasWeakCardinalities
  rw [hrel.side1, hrel.side2]
  simp only [Side.relabel, h1, h2]
  rfl

theorem connects_eq (h : d.Embeds f u) {s : Side} (hs : s.entity ∈ d.ids) :
    ((s.relabel f).isConnected && ((Index.ofDiagram u).entity? (s.relabel f).entity).isSome) =
      (s.isConnected && ((Index.ofDiagram d).entity? s.entity).isSome) := by
  unfold Side.isConnected Side.relabel
  rw [h.blank _ hs, h.entity _ hs, Option.isSome_map]

/-- **A relation passes the same checks.** -/
theorem passesRelation (h : d.Embeds f u) (hr : r ∈ d.relations) (hrel : r.Relabels f r')
    (c : Check) :
    c.passesRelation (Index.ofDiagram u) r' = c.passesRelation (Index.ofDiagram d) r := by
  cases c
  case noUnconnectedRelations =>
    simp only [Check.passesRelation, Relation.sides, List.all_cons, List.all_nil]
    rw [hrel.side1, hrel.side2, h.connects_eq (mem_ids_of_side1 hr),
      h.connects_eq (mem_ids_of_side2 hr)]
  case noWeakWithWrongCardinality => exact h.hasWeakCardinalities_eq hr hrel
  -- the other checks look at what is not relabeled
  all_goals
    simp only [Check.passesRelation, hrel.isManyToMany, hrel.hasValidCardinalities,
      hrel.hasValidName, hrel.canHoldAttributes, hrel.attributes]

theorem all_passesEntity (h : d.Embeds f u) (c : Check) :
    (d.entities.map (Entity.relabel f)).all (c.passesEntity (Index.ofDiagram u) ·) =
      d.entities.all (c.passesEntity (Index.ofDiagram d) ·) := by
  rw [List.all_map]
  exact all_eq_of_forall₂ (forall₂_with_mem (List.forall₂_same.mpr fun e _ => rfl))
    fun e _ ⟨hmem, _, heq⟩ => heq ▸ h.passesEntity hmem c

theorem all_passesRelation (h : d.Embeds f u) {rs : List Relation}
    (hrs : List.Forall₂ (Relation.Relabels f) d.relations rs) (c : Check) :
    rs.all (c.passesRelation (Index.ofDiagram u) ·) =
      d.relations.all (c.passesRelation (Index.ofDiagram d) ·) :=
  all_eq_of_forall₂ (forall₂_with_mem hrs) fun _ _ ⟨hr, _, hrel⟩ => h.passesRelation hr hrel c

end Embeds

end Diagram

end ErSchema
