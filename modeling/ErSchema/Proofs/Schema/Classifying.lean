import ErSchema.Proofs.Diagram.Embedding
import ErSchema.Proofs.Schema.Stages

/-!
# What a diagram is classified as

A relation is recorded if both its sides are sound: they name the id of an entity and carry the text
of a cardinality. Otherwise it is at fault, and the fault that is reported is the first one: of the
first relation, on its first side, for its id before its cardinality. A diagram without a fault has
one record for each relation and then one for each entity that is weak or that no side names. None
of this needs the diagram to be valid.

* `resolveRelation_eq_error`, `exists_resolveRelation_iff`: when a relation is at fault.
* `resolves_iff`: what its record says.
* `remainingEntities_eq`: which entities have records of their own.
* `classify_exact`: when a diagram is classified, as what, and with which error it is not.
-/

namespace ErSchema

/-! ## Sides and relations -/

/-- The texts of the cardinalities. -/
def Cardinality.texts : List String := ["0:1", "0:N", "1:1", "1:N"]

theorem Cardinality.texts_eq : texts = all.map text := by decide

theorem Cardinality.exists_parse?_iff {s : String} : (∃ c, parse? s = some c) ↔ s ∈ texts := by
  rw [texts_eq]
  constructor
  · rintro ⟨c, hc⟩
    exact List.mem_map.mpr ⟨c, mem_all c, text_eq_of_parse? hc⟩
  · intro hs
    obtain ⟨c, -, rfl⟩ := List.mem_map.mp hs
    exact ⟨c, parse?_text c⟩

theorem Cardinality.parse?_eq_some_iff {s : String} {c : Cardinality} :
    parse? s = some c ↔ c.text = s :=
  ⟨text_eq_of_parse?, fun h => h ▸ parse?_text c⟩

/-- Whether a side names the id of an entity and carries the text of a cardinality. -/
structure Side.IsSound (d : Diagram) (s : Side) : Prop where
  entity : s.entity ∈ d.entityIds
  cardinality : s.cardinality ∈ Cardinality.texts

/-- What is wrong with a side of a relation. Its id comes before its cardinality. -/
inductive Side.Fault (d : Diagram) (r : Relation) (s : Side) : CompileError → Prop
  | unknownEntity (h : s.entity ∉ d.entityIds) : s.Fault d r (.unknownEntity r.name s.entity)
  | invalidCardinality (h : s.entity ∈ d.entityIds) (hc : s.cardinality ∉ Cardinality.texts) :
      s.Fault d r (.invalidCardinality r.name s.cardinality)

/-- What is wrong with a relation. Its first side comes before its second. -/
inductive Relation.Fault (d : Diagram) (r : Relation) : CompileError → Prop
  | first {error : CompileError} (h : r.side1.Fault d r error) : r.Fault d error
  | second {error : CompileError} (h1 : r.side1.IsSound d) (h2 : r.side2.Fault d r error) :
      r.Fault d error

theorem Relation.forall_mem_sides {r : Relation} {p : Side → Prop} :
    (∀ s ∈ r.sides, p s) ↔ p r.side1 ∧ p r.side2 := by
  simp [sides]

/-- Whether a resolved side has the last entity with the id that the side names, and the cardinality
that is written on it. -/
structure Side.IsRecordedAs (d : Diagram) (s : Side) (c : ClassifiedSide) : Prop where
  entity : (d.entities.filter (·.id = s.entity)).getLast? = some c.entity
  cardinality : c.cardinality.text = s.cardinality

/-- Whether a resolved relation is the record of a relation, with the class that the two maxima
determine. -/
structure Relation.IsRecordedAs (d : Diagram) (r : Relation) (c : ClassifiedRelation) : Prop where
  name : c.name = r.name
  side1 : r.side1.IsRecordedAs d c.side1
  side2 : r.side2.IsRecordedAs d c.side2
  isIdentifying : c.isIdentifying = r.isIdentifying
  attributes : c.attributes = r.attributes
  oneToOne : c.relationClass = .oneToOne ↔
    c.side1.cardinality.maximum = .one ∧ c.side2.cardinality.maximum = .one
  oneToMany : c.relationClass = .oneToMany ↔
    c.side1.cardinality.maximum ≠ c.side2.cardinality.maximum
  manyToMany : c.relationClass = .manyToMany ↔
    c.side1.cardinality.maximum = .many ∧ c.side2.cardinality.maximum = .many

/-! ## Classes -/

namespace ClassifiedRelation

variable (c : ClassifiedRelation)

theorem relationClass_eq_oneToOne_iff : c.relationClass = .oneToOne ↔
    c.side1.cardinality.maximum = .one ∧ c.side2.cardinality.maximum = .one := by
  unfold relationClass RelationClass.ofSides Cardinality.isMany
  cases c.side1.cardinality.maximum <;> cases c.side2.cardinality.maximum <;> decide

theorem relationClass_eq_oneToMany_iff : c.relationClass = .oneToMany ↔
    c.side1.cardinality.maximum ≠ c.side2.cardinality.maximum := by
  unfold relationClass RelationClass.ofSides Cardinality.isMany
  cases c.side1.cardinality.maximum <;> cases c.side2.cardinality.maximum <;> decide

theorem relationClass_eq_manyToMany_iff : c.relationClass = .manyToMany ↔
    c.side1.cardinality.maximum = .many ∧ c.side2.cardinality.maximum = .many := by
  unfold relationClass RelationClass.ofSides Cardinality.isMany
  cases c.side1.cardinality.maximum <;> cases c.side2.cardinality.maximum <;> decide

end ClassifiedRelation

namespace Diagram

variable {d : Diagram} {r : Relation} {s : Side}

theorem entity?_eq_none_iff {id : String} :
    (Index.ofDiagram d).entity? id = none ↔ id ∉ d.entityIds :=
  Index.entity?_eq_none_iff

theorem exists_entity?_iff {id : String} :
    (∃ e, (Index.ofDiagram d).entity? id = some e) ↔ id ∈ d.entityIds := by
  rw [← Option.isSome_iff_exists, ← not_iff_not, Option.not_isSome_iff_eq_none,
    entity?_eq_none_iff]

/-! ## Soundness and faults -/

/-- A side resolves iff it is sound. -/
theorem exists_resolveSide_iff :
    (∃ c, resolveSide (Index.ofDiagram d) r s = .ok c) ↔ s.IsSound d := by
  simp only [resolveSide_eq_ok]
  constructor
  · rintro ⟨c, he, hc⟩
    exact ⟨exists_entity?_iff.mp ⟨_, he⟩, Cardinality.exists_parse?_iff.mp ⟨_, hc⟩⟩
  · rintro ⟨he, hc⟩
    obtain ⟨e, he⟩ := exists_entity?_iff.mpr he
    obtain ⟨k, hk⟩ := Cardinality.exists_parse?_iff.mpr hc
    exact ⟨⟨e, k⟩, he, hk⟩

theorem cardinality?_eq_none_iff : s.cardinality? = none ↔ s.cardinality ∉ Cardinality.texts := by
  rw [← Cardinality.exists_parse?_iff, ← Option.isSome_iff_exists, Option.not_isSome_iff_eq_none]
  rfl

/-- A side that does not resolve is at fault. -/
theorem resolveSide_eq_error {error : CompileError} :
    resolveSide (Index.ofDiagram d) r s = .error error ↔ s.Fault d r error := by
  unfold resolveSide
  constructor
  · intro h
    split at h
    · rename_i he
      cases h
      exact .unknownEntity (entity?_eq_none_iff.mp he)
    · rename_i e he
      split at h
      · rename_i hc
        cases h
        exact .invalidCardinality (exists_entity?_iff.mp ⟨e, he⟩) (cardinality?_eq_none_iff.mp hc)
      · exact absurd h (by simp)
  · rintro (he | ⟨he, hc⟩)
    · rw [entity?_eq_none_iff.mpr he]
    · obtain ⟨e, he⟩ := exists_entity?_iff.mpr he
      rw [he, cardinality?_eq_none_iff.mpr hc]

/-- **A relation resolves iff both its sides are sound.** -/
theorem exists_resolveRelation_iff :
    (∃ c, resolveRelation (Index.ofDiagram d) r = .ok c) ↔ ∀ s ∈ r.sides, s.IsSound d := by
  rw [Relation.forall_mem_sides, ← exists_resolveSide_iff (r := r),
    ← exists_resolveSide_iff (r := r)]
  simp only [resolveRelation_eq_ok]
  constructor
  · rintro ⟨c, h1, h2, -⟩
    exact ⟨⟨_, h1⟩, _, h2⟩
  · rintro ⟨⟨c1, h1⟩, c2, h2⟩
    exact ⟨⟨r.name, c1, c2, r.isIdentifying, r.attributes⟩, h1, h2, rfl, rfl, rfl⟩

/-- **A relation that does not resolve is at fault**, and reports that. -/
theorem resolveRelation_eq_error {error : CompileError} :
    resolveRelation (Index.ofDiagram d) r = .error error ↔ r.Fault d error := by
  unfold resolveRelation
  simp only [bind_eq_error, pure, Except.pure, reduceCtorEq, and_false, exists_false, or_false,
    resolveSide_eq_error]
  constructor
  · rintro (h1 | ⟨c, h1, h2⟩)
    · exact .first h1
    · exact .second (exists_resolveSide_iff.mp ⟨c, h1⟩) h2
  · rintro (h1 | ⟨h1, h2⟩)
    · exact Or.inl h1
    · obtain ⟨c, hc⟩ := exists_resolveSide_iff.mpr h1
      exact Or.inr ⟨c, hc, h2⟩

/-! ## Records -/

theorem resolveSide_iff {c : ClassifiedSide} :
    resolveSide (Index.ofDiagram d) r s = .ok c ↔ s.IsRecordedAs d c := by
  rw [resolveSide_eq_ok, Index.entity?_ofDiagram]
  unfold Side.cardinality?
  rw [Cardinality.parse?_eq_some_iff]
  exact ⟨fun ⟨he, hc⟩ => ⟨he, hc⟩, fun ⟨he, hc⟩ => ⟨he, hc⟩⟩

/-- **What a relation resolves to is its record.** -/
theorem resolves_iff {c : ClassifiedRelation} :
    d.Resolves r c ↔ r ∈ d.relations ∧ r.IsRecordedAs d c := by
  constructor
  · rintro ⟨hr, hc⟩
    obtain ⟨h1, h2, hname, hid, hattributes⟩ := resolveRelation_eq_ok.mp hc
    exact ⟨hr, hname, resolveSide_iff.mp h1, resolveSide_iff.mp h2, hid, hattributes,
      c.relationClass_eq_oneToOne_iff, c.relationClass_eq_oneToMany_iff,
      c.relationClass_eq_manyToMany_iff⟩
  · rintro ⟨hr, h⟩
    exact ⟨hr, resolveRelation_eq_ok.mpr ⟨resolveSide_iff.mpr h.side1, resolveSide_iff.mpr h.side2,
      h.name, h.isIdentifying, h.attributes⟩⟩

theorem mem_sideIds {id : String} :
    id ∈ d.sideIds ↔ ∃ r ∈ d.relations, r.touches id = true := by
  simp [sideIds, Relation.sides, Relation.touches, eq_comm (a := id)]

/-- The ids that resolved relations take are those that sides name. -/
theorem mem_taken_iff {cs : List ClassifiedRelation} (hcs : List.Forall₂ d.Resolves d.relations cs)
    {id : String} : id ∈ cs.flatMap (·.entityIds) ↔ id ∈ d.sideIds := by
  rw [mem_sideIds, List.mem_flatMap]
  constructor
  · rintro ⟨c, hc, hid⟩
    obtain ⟨r, hr, hres⟩ := exists_of_forall₂_right hcs hc
    exact ⟨r, hr, hres.touches_iff.mpr hid⟩
  · rintro ⟨r, hr, htouch⟩
    obtain ⟨c, hc, hres⟩ := exists_of_forall₂_right hcs.flip hr
    exact ⟨c, hc, hres.touches_iff.mp htouch⟩

/-- **The entities with records of their own** are the weak ones and those that no side names. -/
theorem remainingEntities_eq {cs : List ClassifiedRelation}
    (hcs : List.Forall₂ d.Resolves d.relations cs) :
    remainingEntities cs d.entities =
      d.entities.filter fun e => e.isWeak || !d.sideIds.contains e.id := by
  unfold remainingEntities
  simp only [List.contains_eq_mem, mem_taken_iff hcs]

/-! ## Diagrams -/

theorem classify_eq_ok {records : List Classified} :
    d.classify = .ok records ↔ ∃ cs, List.Forall₂ (Relation.IsRecordedAs d) d.relations cs ∧
      records = cs.map .relation ++
        (d.entities.filter fun e => e.isWeak || !d.sideIds.contains e.id).map .entity := by
  have hresolved : ∀ cs, List.Forall₂ d.Resolves d.relations cs ↔
      List.Forall₂ (Relation.IsRecordedAs d) d.relations cs := fun cs =>
    forall₂_congr fun r hr c => resolves_iff.trans (and_iff_right hr)
  unfold classify ErSchema.classify
  simp only [bind_eq_ok, mapM_resolve_eq_ok, pure, Except.pure, Except.ok.injEq]
  constructor
  · rintro ⟨cs, hcs, rfl⟩
    exact ⟨cs, (hresolved cs).mp hcs, by rw [remainingEntities_eq hcs]⟩
  · rintro ⟨cs, hcs, rfl⟩
    have hcs := (hresolved cs).mpr hcs
    exact ⟨cs, hcs, by rw [remainingEntities_eq hcs]⟩

theorem classify_eq_error {error : CompileError} :
    d.classify = .error error ↔ ∃ before r after, d.relations = before ++ r :: after ∧
      (∀ x ∈ before, ∀ s ∈ x.sides, s.IsSound d) ∧ r.Fault d error := by
  unfold classify ErSchema.classify
  simp only [bind_eq_error, pure, Except.pure, reduceCtorEq, and_false, exists_false, or_false,
    mapM_eq_error, exists_resolveRelation_iff, resolveRelation_eq_error]

theorem exists_classify_iff :
    (∃ records, d.classify = .ok records) ↔
      ∀ r ∈ d.relations, ∀ s ∈ r.sides, s.IsSound d := by
  constructor
  · rintro ⟨records, hrecords⟩ r hr
    obtain ⟨cs, hcs, -⟩ := bind_eq_ok.mp hrecords
    obtain ⟨c, -, hc⟩ := exists_of_forall₂_right (mapM_resolve_eq_ok.mp hcs).flip hr
    exact exists_resolveRelation_iff.mp ⟨c, hc.resolved⟩
  · intro h
    obtain ⟨cs, hcs⟩ := exists_mapM_eq_ok fun r hr => exists_resolveRelation_iff.mpr (h r hr)
    exact ⟨_, bind_eq_ok.mpr ⟨cs, hcs, rfl⟩⟩

/-- **Classification is exact**, for every diagram. It succeeds iff all sides are sound. It fails
with the first fault of the first relation that has one. Where it succeeds there is one record for
each relation, in order, and then one for each entity that is weak or that no side names, in
order. -/
theorem classify_exact (d : Diagram) :
    ((∃ records, d.classify = .ok records) ↔
        ∀ r ∈ d.relations, ∀ s ∈ r.sides, s.IsSound d) ∧
      (∀ error, d.classify = .error error ↔
        ∃ before r after, d.relations = before ++ r :: after ∧
          (∀ x ∈ before, ∀ s ∈ x.sides, s.IsSound d) ∧ r.Fault d error) ∧
      ∀ records, d.classify = .ok records ↔
        ∃ cs, List.Forall₂ (Relation.IsRecordedAs d) d.relations cs ∧
          records = cs.map .relation ++
            (d.entities.filter fun e => e.isWeak || !d.sideIds.contains e.id).map .entity :=
  ⟨exists_classify_iff, fun _ => classify_eq_error, fun _ => classify_eq_ok⟩

end Diagram

end ErSchema
