import ErSchema.Classification
import ErSchema.Proofs.Diagram.Lookup
import ErSchema.Validation
import Mathlib.Data.List.Nodup

/-!
# What validity gives

The checks look at one thing each. Read together, and with the lookups as scans, they say that a
diagram is `WellFormed`: names are distinct, a strong entity has one key attribute, every relation
resolves, and a weak entity hangs on one relation, which ties it to a strong owner.

* `wellFormed_of_isValid`: a valid diagram is well formed.
* `Resolves.across`: the side across from an entity is the other side of its relation.
* `WellFormed.weak_face`: a weak entity is on the many side and faces a strong one that takes part
  exactly once. No single check says so: it takes the cardinality check, both counts and the check
  on owners.
-/

namespace ErSchema

/-! ## Resolved relations -/

/-- A relation of a diagram and what it resolves to. -/
structure Diagram.Resolves (d : Diagram) (r : Relation) (c : ClassifiedRelation) : Prop where
  mem : r ∈ d.relations
  resolved : resolveRelation (Index.ofDiagram d) r = .ok c

/-- The two sides of a relation, in either order. -/
def ClassifiedRelation.Faces (c : ClassifiedRelation) (s t : ClassifiedSide) : Prop :=
  (s = c.side1 ∧ t = c.side2) ∨ (s = c.side2 ∧ t = c.side1)

theorem ClassifiedRelation.Faces.symm {c : ClassifiedRelation} {s t : ClassifiedSide}
    (h : c.Faces s t) : c.Faces t s := by
  rcases h with ⟨hs, ht⟩ | ⟨hs, ht⟩
  · exact Or.inr ⟨ht, hs⟩
  · exact Or.inl ⟨ht, hs⟩

theorem resolveRelation_eq_ok {index : Index} {r : Relation} {c : ClassifiedRelation} :
    resolveRelation index r = .ok c ↔
      resolveSide index r r.side1 = .ok c.side1 ∧ resolveSide index r r.side2 = .ok c.side2 ∧
        c.name = r.name ∧ c.isIdentifying = r.isIdentifying ∧ c.attributes = r.attributes := by
  obtain ⟨name, side1, side2, isIdentifying, attributes⟩ := c
  unfold resolveRelation
  cases h1 : resolveSide index r r.side1 with
  | error e => simp [bind, Except.bind]
  | ok s1 =>
    cases h2 : resolveSide index r r.side2 with
    | error e => simp [bind, Except.bind]
    | ok s2 =>
      simp only [bind, Except.bind, pure, Except.pure, Except.ok.injEq,
        ClassifiedRelation.mk.injEq]
      constructor
      · rintro ⟨rfl, rfl, rfl, rfl, rfl⟩
        exact ⟨rfl, rfl, rfl, rfl, rfl⟩
      · rintro ⟨rfl, rfl, rfl, rfl, rfl⟩
        exact ⟨rfl, rfl, rfl, rfl, rfl⟩

namespace Diagram.Resolves

variable {d : Diagram} {r : Relation} {c : ClassifiedRelation}

theorem name (h : d.Resolves r c) : c.name = r.name :=
  (resolveRelation_eq_ok.mp h.resolved).2.2.1

theorem isIdentifying (h : d.Resolves r c) : c.isIdentifying = r.isIdentifying :=
  (resolveRelation_eq_ok.mp h.resolved).2.2.2.1

theorem attributes (h : d.Resolves r c) : c.attributes = r.attributes :=
  (resolveRelation_eq_ok.mp h.resolved).2.2.2.2

theorem side1 (h : d.Resolves r c) :
    (Index.ofDiagram d).entity? r.side1.entity = some c.side1.entity ∧
      r.side1.cardinality? = some c.side1.cardinality :=
  resolveSide_eq_ok.mp (resolveRelation_eq_ok.mp h.resolved).1

theorem side2 (h : d.Resolves r c) :
    (Index.ofDiagram d).entity? r.side2.entity = some c.side2.entity ∧
      r.side2.cardinality? = some c.side2.cardinality :=
  resolveSide_eq_ok.mp (resolveRelation_eq_ok.mp h.resolved).2.1

theorem unique {c' : ClassifiedRelation} (h : d.Resolves r c) (h' : d.Resolves r c') : c = c' :=
  Except.ok.inj (h.resolved.symm.trans h'.resolved)

/-- An entity on a side is the one that its own id finds, and its relation touches that id. -/
theorem face (h : d.Resolves r c) {s t : ClassifiedSide} (hf : c.Faces s t) :
    s.entity ∈ d.entities ∧ (Index.ofDiagram d).entity? s.entity.id = some s.entity ∧
      r.touches s.entity.id = true := by
  rcases hf with ⟨rfl, -⟩ | ⟨rfl, -⟩
  · obtain ⟨hm, hid⟩ := Index.mem_of_entity? h.side1.1
    exact ⟨hm, hid ▸ h.side1.1, by simp [Relation.touches, hid]⟩
  · obtain ⟨hm, hid⟩ := Index.mem_of_entity? h.side2.1
    exact ⟨hm, hid ▸ h.side2.1, by simp [Relation.touches, hid]⟩

/-- The ids that a relation touches are those of the entities on its sides. -/
theorem touches_iff (h : d.Resolves r c) {id : String} :
    r.touches id = true ↔ id ∈ c.entityIds := by
  have hid1 := (Index.mem_of_entity? h.side1.1).2
  have hid2 := (Index.mem_of_entity? h.side2.1).2
  unfold Relation.touches ClassifiedRelation.entityIds
  rw [Bool.or_eq_true, decide_eq_true_eq, decide_eq_true_eq, List.mem_pair, hid1, hid2,
    eq_comm (a := id), eq_comm (a := id)]

/-- Sides whose entities share an id have one entity. -/
theorem entity_eq_of_id (h : d.Resolves r c) {s t : ClassifiedSide} (hf : c.Faces s t)
    (hid : s.entity.id = t.entity.id) : s.entity = t.entity := by
  have hs := (h.face hf).2.1
  rw [hid, (h.face hf.symm).2.1] at hs
  exact (Option.some.inj hs).symm

/-- **The side across from an entity is the other side**, also where the relation is reflexive. -/
theorem across (h : d.Resolves r c) {s t : ClassifiedSide} (hf : c.Faces s t) :
    (Index.ofDiagram d).entity? (r.sideAcross s.entity.id).entity = some t.entity := by
  have h1 := h.side1.1
  have h2 := h.side2.1
  have hid1 := (Index.mem_of_entity? h1).2
  have hid2 := (Index.mem_of_entity? h2).2
  unfold Relation.sideAcross
  rcases hf with ⟨rfl, rfl⟩ | ⟨rfl, rfl⟩
  · rw [if_pos hid1.symm, h2]
  · by_cases hr : r.side1.entity = c.side2.entity.id
    · rw [if_pos hr, ← hid2, ← hr, h1]
    · rw [if_neg hr, h1]

end Diagram.Resolves

/-! ## Classes -/

theorem Cardinality.isMany_of_isExactlyOne {c : Cardinality} (h : c.isExactlyOne = true) :
    c.isMany = false := by
  unfold Cardinality.isExactlyOne at h
  simpa using (Bool.and_eq_true_iff.mp h).2

namespace ClassifiedRelation

variable {c : ClassifiedRelation}

theorem isMany_of_oneToOne (h : c.relationClass = .oneToOne) {s t : ClassifiedSide}
    (hf : c.Faces s t) : s.cardinality.isMany = false := by
  unfold relationClass RelationClass.ofSides at h
  rcases hf with ⟨rfl, -⟩ | ⟨rfl, -⟩ <;>
    cases h1 : c.side1.cardinality.isMany <;> cases h2 : c.side2.cardinality.isMany <;> simp_all

theorem relationClass_of_faces {s t : ClassifiedSide} (hf : c.Faces s t)
    (hs : s.cardinality.isMany = true) (ht : t.cardinality.isMany = false) :
    c.relationClass = .oneToMany := by
  unfold relationClass RelationClass.ofSides
  rcases hf with ⟨rfl, rfl⟩ | ⟨rfl, rfl⟩ <;> simp [hs, ht]

end ClassifiedRelation

/-! ## Well-formed diagrams -/

/-- What the checks say of a diagram when they are read together. -/
structure Diagram.WellFormed (d : Diagram) : Prop where
  names_nodup : d.names.Nodup
  key_of_strong : ∀ e ∈ d.strongEntities, ∃ a, e.primaryKeys = [a]
  resolves : ∀ r ∈ d.relations, ∃ c, d.Resolves r c
  optional : ∀ r c, d.Resolves r c →
    ¬ (c.side1.cardinality.isExactlyOne = true ∧ c.side2.cardinality.isExactlyOne = true)
  keyless_of_weak : ∀ e ∈ d.weakEntities, e.primaryKeys = []
  discriminant_of_weak : ∀ e ∈ d.weakEntities, e.discriminants ≠ []
  /-- One relation touches a weak entity: an identifying one, with no weak entity across. -/
  tied_of_weak : ∀ e ∈ d.weakEntities, ∃ r, d.relations.filter (·.touches e.id) = [r] ∧
    r.isIdentifying = true ∧ (Index.ofDiagram d).isWeak (r.sideAcross e.id).entity = false
  weak_cardinalities : ∀ r ∈ d.relations, (Index.ofDiagram d).hasWeakCardinalities r = true

/-- A relation that passes the checks on sides resolves, and not with both cardinalities exactly
one. -/
theorem resolves_of_holds {d : Diagram} {r : Relation} (hr : r ∈ d.relations)
    (h1 : ((Index.ofDiagram d).entity? r.side1.entity).isSome = true)
    (h2 : ((Index.ofDiagram d).entity? r.side2.entity).isSome = true)
    (hc : r.hasValidCardinalities = true) :
    ∃ c, d.Resolves r c ∧
      ¬ (c.side1.cardinality.isExactlyOne = true ∧ c.side2.cardinality.isExactlyOne = true) := by
  obtain ⟨e1, he1⟩ := Option.isSome_iff_exists.mp h1
  obtain ⟨e2, he2⟩ := Option.isSome_iff_exists.mp h2
  unfold Relation.hasValidCardinalities at hc
  cases ha : r.side1.cardinality? with
  | none => rw [ha] at hc; exact absurd hc (by simp)
  | some a =>
    cases hb : r.side2.cardinality? with
    | none => rw [ha, hb] at hc; exact absurd hc (by simp)
    | some b =>
      rw [ha, hb] at hc
      refine ⟨⟨r.name, ⟨e1, a⟩, ⟨e2, b⟩, r.isIdentifying, r.attributes⟩, ⟨hr, ?_⟩, ?_⟩
      · rw [resolveRelation_eq_ok]
        exact ⟨resolveSide_eq_ok.mpr ⟨he1, ha⟩, resolveSide_eq_ok.mpr ⟨he2, hb⟩, rfl, rfl, rfl⟩
      · rintro ⟨h1, h2⟩
        simp only at h1 h2 hc
        rw [h1, h2] at hc
        exact absurd hc (by simp)

/-- A weak entity that passes both counts and the check on owners is tied to its owner. -/
theorem tied_of_holds {d : Diagram} {e : Entity}
    (h1 : ((Index.ofDiagram d).relationsOf e.id).length = 1)
    (h2 : ((Index.ofDiagram d).identifyingRelationsOf e.id).length = 1)
    (h3 : ∀ r ∈ (Index.ofDiagram d).identifyingRelationsOf e.id,
      (Index.ofDiagram d).isWeak (r.sideAcross e.id).entity = false) :
    ∃ r, d.relations.filter (·.touches e.id) = [r] ∧ r.isIdentifying = true ∧
      (Index.ofDiagram d).isWeak (r.sideAcross e.id).entity = false := by
  rw [Index.relationsOf_ofDiagram] at h1
  rw [Index.identifyingRelationsOf_ofDiagram] at h2 h3
  obtain ⟨r, hr⟩ := List.length_eq_one_iff.mp h1
  rw [hr] at h2 h3
  by_cases hi : r.isIdentifying = true
  · exact ⟨r, hr, hi, h3 r (by simp [hi])⟩
  · exact absurd h2 (by simp [hi])

/-- **A valid diagram is well formed.** -/
theorem wellFormed_of_isValid {d : Diagram} (h : d.validate.isValid = true) : d.WellFormed := by
  have hall := validate_isValid.mp h
  have hsides := hall .noUnconnectedRelations
  simp only [Check.holds, Relation.sides, List.all_eq_true, List.mem_cons, List.not_mem_nil,
    or_false, forall_eq_or_imp, forall_eq, Bool.and_eq_true] at hsides
  have hcards := hall .noInvalidCardinalities
  simp only [Check.holds, List.all_eq_true] at hcards
  have hres := fun r hr =>
    resolves_of_holds hr (hsides r hr).1.2 (hsides r hr).2.2 (hcards r hr)
  constructor
  case names_nodup =>
    have hn := hall .noRepeatedNames
    exact hasRepeat_eq_false.mp (by simpa [Check.holds] using hn)
  case key_of_strong =>
    intro e he
    have hpos := hall .noEntitiesWithoutKey
    have hle := hall .noEntitiesWithSeveralKeys
    simp only [Check.holds, List.all_eq_true, decide_eq_true_eq] at hpos hle
    exact List.length_eq_one_iff.mp (Nat.le_antisymm (hle e he) (hpos e he))
  case resolves =>
    intro r hr
    obtain ⟨c, hc, -⟩ := hres r hr
    exact ⟨c, hc⟩
  case optional =>
    intro r c hc
    obtain ⟨c', hc', hopt⟩ := hres r hc.mem
    exact hc.unique hc' ▸ hopt
  case keyless_of_weak =>
    have hk := hall .noWeakWithKey
    simpa only [Check.holds, List.all_eq_true, List.isEmpty_iff] using hk
  case discriminant_of_weak =>
    intro e he hnil
    have hd := hall .noWeakWithoutDiscriminant
    simp only [Check.holds, List.all_eq_true, decide_eq_true_eq] at hd
    have := hd e he
    rw [hnil] at this
    exact absurd this (by simp)
  case tied_of_weak =>
    intro e he
    have h1 := hall .noWeakWithWrongRelationCount
    have h2 := hall .noWeakWithoutIdentifyingRelation
    have h3 := hall .noWeakOwnedByWeak
    simp only [Check.holds, List.all_eq_true, decide_eq_true_eq, Bool.not_eq_true'] at h1 h2 h3
    exact tied_of_holds (h1 e he) (h2 e he) (h3 e he)
  case weak_cardinalities =>
    have hw := hall .noWeakWithWrongCardinality
    simpa only [Check.holds, List.all_eq_true] using hw

namespace Diagram.WellFormed

variable {d : Diagram}

/-! ## Names -/

theorem entity_eq_of_name (h : d.WellFormed) {e e' : Entity} (he : e ∈ d.entities)
    (he' : e' ∈ d.entities) (hn : e.name = e'.name) : e = e' := by
  have hnd := (List.nodup_append.mp h.names_nodup).1
  exact List.inj_on_of_nodup_map hnd he he' hn

theorem relation_eq_of_name (h : d.WellFormed) {r r' : Relation} (hr : r ∈ d.relations)
    (hr' : r' ∈ d.relations) (hn : r.name = r'.name) : r = r' := by
  have hnd := (List.nodup_append.mp h.names_nodup).2.1
  exact List.inj_on_of_nodup_map hnd hr hr' hn

theorem entity_name_ne (h : d.WellFormed) {e : Entity} {r : Relation} (he : e ∈ d.entities)
    (hr : r ∈ d.relations) : e.name ≠ r.name :=
  (List.nodup_append.mp h.names_nodup).2.2 _ (List.mem_map.mpr ⟨e, he, rfl⟩) _
    (List.mem_map.mpr ⟨r, hr, rfl⟩)

/-! ## Weak entities -/

theorem mem_strongEntities {e : Entity} :
    e ∈ d.strongEntities ↔ e ∈ d.entities ∧ e.isWeak = false := by
  simp [Diagram.strongEntities]

theorem mem_weakEntities {e : Entity} :
    e ∈ d.weakEntities ↔ e ∈ d.entities ∧ e.isWeak = true := by
  simp [Diagram.weakEntities]

/-- **A weak entity is on the many side of an identifying relation and faces a strong entity that
takes part exactly once.** -/
theorem weak_face (h : d.WellFormed) {r : Relation} {c : ClassifiedRelation} (hr : d.Resolves r c)
    {s t : ClassifiedSide} (hf : c.Faces s t) (hw : s.entity.isWeak = true) :
    s.cardinality.isMany = true ∧ t.cardinality.isExactlyOne = true ∧ t.entity.isWeak = false ∧
      c.isIdentifying = true := by
  obtain ⟨hmem, -, htouch⟩ := hr.face hf
  obtain ⟨r', hr', hid, hacross⟩ := h.tied_of_weak _ (mem_weakEntities.mpr ⟨hmem, hw⟩)
  have hrr : r ∈ [r'] := hr' ▸ List.mem_filter.mpr ⟨hr.mem, htouch⟩
  obtain rfl := List.mem_singleton.mp hrr
  have ht : t.entity.isWeak = false := by
    unfold Index.isWeak at hacross
    rw [hr.across hf] at hacross
    simpa using hacross
  have hcards := h.weak_cardinalities r hr.mem
  unfold Index.hasWeakCardinalities Index.isWeak Side.isWeakOf at hcards
  rw [hr.side1.1, hr.side2.1, hr.side1.2, hr.side2.2] at hcards
  have hcard : s.cardinality.isMany = true ∧ t.cardinality.isExactlyOne = true := by
    rcases hf with ⟨rfl, rfl⟩ | ⟨rfl, rfl⟩
    · simpa [hw] using hcards
    · simpa [hw, ht] using hcards
  exact ⟨hcard.1, hcard.2, ht, hr.isIdentifying.trans hid⟩

theorem oneToMany_of_weak (h : d.WellFormed) {r : Relation} {c : ClassifiedRelation}
    (hr : d.Resolves r c) {s t : ClassifiedSide} (hf : c.Faces s t)
    (hw : s.entity.isWeak = true) : c.relationClass = .oneToMany := by
  obtain ⟨hs, ht, -, -⟩ := h.weak_face hr hf hw
  exact ClassifiedRelation.relationClass_of_faces hf hs (Cardinality.isMany_of_isExactlyOne ht)

/-- Both entities of a relation with two ones or two manys are strong. -/
theorem strong_of_not_oneToMany (h : d.WellFormed) {r : Relation} {c : ClassifiedRelation}
    (hr : d.Resolves r c) (hc : c.relationClass ≠ .oneToMany) {s t : ClassifiedSide}
    (hf : c.Faces s t) : s.entity ∈ d.strongEntities := by
  refine mem_strongEntities.mpr ⟨(hr.face hf).1, Bool.eq_false_iff.mpr fun hw => hc ?_⟩
  exact h.oneToMany_of_weak hr hf hw

theorem strong_of_manyToMany (h : d.WellFormed) {r : Relation} {c : ClassifiedRelation}
    (hr : d.Resolves r c) (hc : c.relationClass = .manyToMany) {s t : ClassifiedSide}
    (hf : c.Faces s t) : s.entity ∈ d.strongEntities :=
  h.strong_of_not_oneToMany hr (by rw [hc]; simp) hf

/-- The entity on a side of at most one is strong. -/
theorem strong_of_not_many (h : d.WellFormed) {r : Relation} {c : ClassifiedRelation}
    (hr : d.Resolves r c) {s t : ClassifiedSide} (hf : c.Faces s t)
    (hs : s.cardinality.isMany = false) : s.entity ∈ d.strongEntities := by
  refine mem_strongEntities.mpr ⟨(hr.face hf).1, Bool.eq_false_iff.mpr fun hw => ?_⟩
  rw [(h.weak_face hr hf hw).1] at hs
  exact absurd hs (by simp)

end Diagram.WellFormed

end ErSchema
