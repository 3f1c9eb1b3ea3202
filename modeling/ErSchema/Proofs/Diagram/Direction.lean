import ErSchema.Proofs.Diagram.Checks
import ErSchema.Proofs.Diagram.Validity
import ErSchema.Proofs.Lists

/-!
# The direction of relations

A relation has a first and a second side because it was drawn from one end to the other. A diagram
is redrawn when some of its relations are drawn from the other end. The lookups then find what they
found, and every check but one asks the same of both drawings. The check on the cardinalities of
weak entities looks at the first side first, which matters only where both sides are weak; but then
other checks fail.

* `entity_sideAcross_reversed`: the same entity is across.
* `Redraws.holds_eq`: the checks that do not depend on directions.
* `not_both_weak`: a diagram that passes the checks on owners ties no two weak entities together.
* `Redraws.validate_redrawn`: a redrawn diagram is valid iff the diagram is.
-/

namespace ErSchema

/-! ## Relations -/

namespace Relation

/-- A relation that is drawn from its other end. -/
def reversed (r : Relation) : Relation := { r with side1 := r.side2, side2 := r.side1 }

@[simp] theorem reversed_reversed (r : Relation) : r.reversed.reversed = r := rfl

/-- Whether a relation is another or that one drawn from its other end. -/
def Redraws (r r' : Relation) : Prop := r' = r ∨ r' = r.reversed

theorem touches_reversed (r : Relation) (id : String) : r.reversed.touches id = r.touches id :=
  Bool.or_comm _ _

/-- **The same entity is across** from one that a relation touches, whichever end comes first. -/
theorem entity_sideAcross_reversed {r : Relation} {id : String} (h : r.touches id = true) :
    (r.reversed.sideAcross id).entity = (r.sideAcross id).entity := by
  simp only [touches, Bool.or_eq_true, decide_eq_true_eq] at h
  by_cases h1 : r.side1.entity = id <;> by_cases h2 : r.side2.entity = id
  · simp [sideAcross, reversed, h1, h2]
  · simp [sideAcross, reversed, h1, h2]
  · simp [sideAcross, reversed, h1, h2]
  · exact absurd h (by simp [h1, h2])

theorem isManyToMany_reversed (r : Relation) : r.reversed.isManyToMany = r.isManyToMany := by
  simp [isManyToMany, sides, reversed, Bool.and_comm]

theorem hasValidCardinalities_reversed (r : Relation) :
    r.reversed.hasValidCardinalities = r.hasValidCardinalities := by
  unfold hasValidCardinalities reversed
  cases r.side1.cardinality? <;> cases r.side2.cardinality? <;> simp [Bool.or_comm]

namespace Redraws

variable {r r' : Relation}

theorem symm (h : r.Redraws r') : r'.Redraws r := by
  rcases h with rfl | rfl
  · exact Or.inl rfl
  · exact Or.inr r.reversed_reversed.symm

theorem name (h : r.Redraws r') : r'.name = r.name := by
  rcases h with rfl | rfl <;> rfl

theorem isIdentifying (h : r.Redraws r') : r'.isIdentifying = r.isIdentifying := by
  rcases h with rfl | rfl <;> rfl

theorem touches (h : r.Redraws r') (id : String) : r'.touches id = r.touches id := by
  rcases h with rfl | rfl
  · rfl
  · exact touches_reversed r id

theorem entity_sideAcross (h : r.Redraws r') {id : String} (ht : r.touches id = true) :
    (r'.sideAcross id).entity = (r.sideAcross id).entity := by
  rcases h with rfl | rfl
  · rfl
  · exact entity_sideAcross_reversed ht

end Redraws

end Relation

/-! ## Diagrams -/

namespace Diagram

/-- Whether a diagram becomes another when some of its relations are drawn from the other end, each
of which is as `p` asks. -/
structure Redraws (p : Relation → Prop) (d d' : Diagram) : Prop where
  entities : d'.entities = d.entities
  relations : List.Forall₂ (fun r r' => r' = r ∨ p r ∧ r' = r.reversed) d.relations d'.relations

variable {p : Relation → Prop} {d d' : Diagram}

namespace Redraws

theorem forall₂_redraws (h : d.Redraws p d') :
    List.Forall₂ Relation.Redraws d.relations d'.relations :=
  h.relations.imp fun _ _ hr => hr.imp_right And.right

/-- A diagram is what its drawing is redrawn to. -/
theorem symm (h : d.Redraws p d') : d'.Redraws (fun _ => True) d := by
  refine ⟨h.entities.symm, h.forall₂_redraws.flip.imp fun r' r hr => ?_⟩
  exact (Relation.Redraws.symm hr).imp_right fun heq => ⟨trivial, heq⟩

/-! ### Lookups -/

theorem entity? (h : d.Redraws p d') (id : String) :
    (Index.ofDiagram d').entity? id = (Index.ofDiagram d).entity? id := by
  rw [Index.entity?_ofDiagram, Index.entity?_ofDiagram, h.entities]

theorem isWeak_eq (h : d.Redraws p d') (id : String) :
    (Index.ofDiagram d').isWeak id = (Index.ofDiagram d).isWeak id := by
  unfold Index.isWeak
  rw [h.entity?]

theorem relationsOf (h : d.Redraws p d') (id : String) :
    List.Forall₂ (fun r r' => r.touches id = true ∧ r.Redraws r')
      ((Index.ofDiagram d).relationsOf id) ((Index.ofDiagram d').relationsOf id) := by
  rw [Index.relationsOf_ofDiagram, Index.relationsOf_ofDiagram]
  have hfilter : List.Forall₂ Relation.Redraws (d.relations.filter (·.touches id))
      (d'.relations.filter (·.touches id)) :=
    List.rel_filter (fun r r' hr => by simp [hr.touches]) h.forall₂_redraws
  exact (forall₂_with_mem hfilter).imp fun r r' ⟨hmem, _, hr⟩ =>
    ⟨(List.mem_filter.mp hmem).2, hr⟩

theorem identifyingRelationsOf (h : d.Redraws p d') (id : String) :
    List.Forall₂ (fun r r' => r.touches id = true ∧ r.Redraws r')
      ((Index.ofDiagram d).identifyingRelationsOf id)
      ((Index.ofDiagram d').identifyingRelationsOf id) :=
  List.rel_filter (fun r r' hr => by simp [hr.2.isIdentifying]) (h.relationsOf id)

/-! ### Checks -/

theorem passesDiagram_eq (h : d.Redraws p d') (c : Check) :
    c.passesDiagram d' = c.passesDiagram d := by
  have hnames : d'.relations.map (·.name) = d.relations.map (·.name) := by
    rw [eq_comm, map_eq_iff_forall₂]
    exact h.forall₂_redraws.imp fun _ _ hr => hr.name.symm
  unfold Check.passesDiagram Diagram.isEmpty Diagram.names
  rw [h.entities, hnames, isEmpty_eq_of_length_eq h.relations.length_eq.symm]

/-- **An entity passes the same checks.** -/
theorem passesEntity_eq (h : d.Redraws p d') (e : Entity) (c : Check) :
    c.passesEntity (Index.ofDiagram d') e = c.passesEntity (Index.ofDiagram d) e := by
  cases c
  case noWeakWithWrongRelationCount =>
    simp only [Check.passesEntity, (h.relationsOf e.id).length_eq]
  case noWeakWithoutIdentifyingRelation =>
    simp only [Check.passesEntity, (h.identifyingRelationsOf e.id).length_eq]
  case noWeakOwnedByWeak =>
    unfold Check.passesEntity
    rw [all_eq_of_forall₂ (h.identifyingRelationsOf e.id) fun r r' hr => ?_]
    rw [h.isWeak_eq, hr.2.entity_sideAcross hr.1]
  all_goals rfl

theorem connects_reversed (h : d.Redraws p d') (r : Relation) :
    Check.noUnconnectedRelations.passesRelation (Index.ofDiagram d') r.reversed =
      Check.noUnconnectedRelations.passesRelation (Index.ofDiagram d) r := by
  simp only [Check.passesRelation, Relation.sides, Relation.reversed, h.entity?, List.all_cons,
    List.all_nil, Bool.and_true]
  exact Bool.and_comm _ _

theorem hasWeakCardinalities_eq (h : d.Redraws p d') (r : Relation) :
    (Index.ofDiagram d').hasWeakCardinalities r =
      (Index.ofDiagram d).hasWeakCardinalities r := by
  unfold Index.hasWeakCardinalities
  simp only [h.isWeak_eq]

/-- **A relation passes the same checks**, but for the one that looks at its first side first. -/
theorem passesRelation_eq (h : d.Redraws p d') {r r' : Relation} (hr : r.Redraws r') {c : Check}
    (hc : c ≠ .noWeakWithWrongCardinality) :
    c.passesRelation (Index.ofDiagram d') r' = c.passesRelation (Index.ofDiagram d) r := by
  rcases hr with rfl | rfl
  · cases c
    case noUnconnectedRelations => simp only [Check.passesRelation, h.entity?]
    case noWeakWithWrongCardinality => exact absurd rfl hc
    all_goals rfl
  · cases c
    case noKeysOnManyToMany => exact congrArg (!· || _) r.isManyToMany_reversed
    case noUnconnectedRelations => exact h.connects_reversed r
    case noInvalidCardinalities => exact r.hasValidCardinalities_reversed
    case noWeakWithWrongCardinality => exact absurd rfl hc
    all_goals rfl

/-- **The checks come out the same**, but for one. -/
theorem holds_eq (h : d.Redraws p d') {c : Check} (hc : c ≠ .noWeakWithWrongCardinality) :
    c.holds d' (Index.ofDiagram d') = c.holds d (Index.ofDiagram d) := by
  rw [Check.holds_eq, Check.holds_eq, h.passesDiagram_eq, h.entities,
    funext fun e => h.passesEntity_eq e c,
    all_eq_of_forall₂ h.forall₂_redraws fun r r' hr => h.passesRelation_eq hr hc]

end Redraws

/-! ## Weak entities on both sides -/

/-- **No relation ties two weak entities together** in a diagram that passes both counts and the
check on owners. -/
theorem not_both_weak {r : Relation} (hr : r ∈ d.relations)
    (h1 : Check.noWeakWithWrongRelationCount.holds d (Index.ofDiagram d) = true)
    (h2 : Check.noWeakWithoutIdentifyingRelation.holds d (Index.ofDiagram d) = true)
    (h3 : Check.noWeakOwnedByWeak.holds d (Index.ofDiagram d) = true) :
    ¬ ((Index.ofDiagram d).isWeak r.side1.entity = true ∧
      (Index.ofDiagram d).isWeak r.side2.entity = true) := by
  rintro ⟨hw1, hw2⟩
  obtain ⟨e, he, hweak⟩ := (Option.any_eq_true _ _).mp hw1
  obtain ⟨hmem, hid⟩ := Index.mem_of_entity? he
  have hmem : e ∈ d.weakEntities := List.mem_filter.mpr ⟨hmem, hweak⟩
  simp only [Check.holds, List.all_eq_true, decide_eq_true_eq, Bool.not_eq_true'] at h1 h2 h3
  obtain ⟨r', honly, -, hacross⟩ := tied_of_holds (h1 e hmem) (h2 e hmem) (h3 e hmem)
  have hmem' : r ∈ [r'] := honly ▸ List.mem_filter.mpr ⟨hr, by simp [Relation.touches, hid]⟩
  obtain rfl := List.mem_singleton.mp hmem'
  rw [Relation.sideAcross, if_pos hid.symm, hw2] at hacross
  exact absurd hacross (by simp)

theorem hasWeakCardinalities_reversed {index : Index} {r : Relation}
    (h : ¬ (index.isWeak r.side1.entity = true ∧ index.isWeak r.side2.entity = true)) :
    index.hasWeakCardinalities r.reversed = index.hasWeakCardinalities r := by
  unfold Index.hasWeakCardinalities Relation.reversed
  cases h1 : index.isWeak r.side1.entity <;> cases h2 : index.isWeak r.side2.entity <;> simp_all

namespace Redraws

/-- **All checks come out the same** where no relation is between two weak entities. -/
theorem holds_eq_of_not_both_weak (h : d.Redraws p d')
    (hweak : ∀ r ∈ d.relations, ¬ ((Index.ofDiagram d).isWeak r.side1.entity = true ∧
      (Index.ofDiagram d).isWeak r.side2.entity = true)) (c : Check) :
    c.holds d' (Index.ofDiagram d') = c.holds d (Index.ofDiagram d) := by
  by_cases hc : c = .noWeakWithWrongCardinality
  · subst hc
    rw [Check.holds, Check.holds, all_eq_of_forall₂ (forall₂_with_mem h.forall₂_redraws)]
    rintro r r' ⟨hmem, -, hr⟩
    rw [h.hasWeakCardinalities_eq]
    rcases hr with rfl | rfl
    · rfl
    · exact hasWeakCardinalities_reversed (hweak r hmem)
  · exact h.holds_eq hc

/-- **A redrawn diagram of a valid one is valid.** -/
theorem isValid_of_isValid (h : d.Redraws p d') (hv : d.validate.isValid = true) :
    d'.validate.isValid = true := by
  have hall := validate_isValid.mp hv
  refine validate_isValid.mpr fun c => ?_
  rw [h.holds_eq_of_not_both_weak fun r hr => not_both_weak hr (hall _) (hall _) (hall _)]
  exact hall c

/-- **Validity does not depend on directions**, and neither does any check but the one on the
cardinalities of weak entities. That one depends on them only where a relation is between two weak
entities. -/
theorem validate_redrawn (h : d.Redraws p d') :
    d'.validate.isValid = d.validate.isValid ∧
      (∀ c, c ≠ .noWeakWithWrongCardinality → d'.validate.passed c = d.validate.passed c) ∧
      ((∀ r ∈ d.relations, ¬ ((Index.ofDiagram d).isWeak r.side1.entity = true ∧
          (Index.ofDiagram d).isWeak r.side2.entity = true)) →
        ∀ c, d'.validate.passed c = d.validate.passed c) := by
  refine ⟨?_, fun c hc => h.holds_eq hc, h.holds_eq_of_not_both_weak⟩
  rw [Bool.eq_iff_iff]
  exact ⟨h.symm.isValid_of_isValid, h.isValid_of_isValid⟩

end Redraws

/-- Wards and their beds, both drawn as weak, and doctors who head others. -/
def wards : Diagram where
  entities := [
    ⟨"w", "Ward", true, [.ofDiscriminant "number"]⟩,
    ⟨"b", "Bed", true, [.ofDiscriminant "place"]⟩,
    ⟨"d", "Doctor", false, [.ofKey "name"]⟩]
  relations := [
    ⟨"r1", "has", ⟨"w", "1:N"⟩, ⟨"b", "1:1"⟩, true, false, []⟩,
    ⟨"r2", "heads", ⟨"d", "0:1"⟩, ⟨"d", "0:N"⟩, false, false, []⟩]

/-- The wards, with the relation to their beds drawn from the beds. -/
def redrawnWards : Diagram where
  entities := wards.entities
  relations := [
    ⟨"r1", "has", ⟨"b", "1:1"⟩, ⟨"w", "1:N"⟩, true, false, []⟩,
    ⟨"r2", "heads", ⟨"d", "0:1"⟩, ⟨"d", "0:N"⟩, false, false, []⟩]

theorem redrawnWards_validate :
    wards.Redraws (fun _ => True) redrawnWards ∧
      redrawnWards.validate.isValid = wards.validate.isValid ∧
      (∀ c, c ≠ .noWeakWithWrongCardinality →
        redrawnWards.validate.passed c = wards.validate.passed c) ∧
      ((∀ r ∈ wards.relations, ¬ ((Index.ofDiagram wards).isWeak r.side1.entity = true ∧
          (Index.ofDiagram wards).isWeak r.side2.entity = true)) →
        ∀ c, redrawnWards.validate.passed c = wards.validate.passed c) := by
  have h : wards.Redraws (fun _ => True) redrawnWards := ⟨rfl, by decide +kernel⟩
  exact ⟨h, h.validate_redrawn⟩

-- the check that is left out above does depend on the direction here
example : wards.validate.passed .noWeakWithWrongCardinality = true ∧
    redrawnWards.validate.passed .noWeakWithWrongCardinality = false := by
  decide +kernel

end Diagram

end ErSchema
