import ErSchema.Proofs.Diagram.Checks
import ErSchema.Proofs.Diagram.Embedding
import ErSchema.Proofs.Diagram.Lookup
import ErSchema.Proofs.Lists

/-!
# The order of lists

A diagram lists its entities, its relations and their attributes in some order. A diagram is
reordered when these lists are put in another one; entities may change places only where no two of
them share an id, since among those that do the last is found. Then an id finds the same entity up
to the order of its attributes and is touched by the same relations up to their order, and no check
looks at more than that.

* `Reorders.rel_entity?`, `Reorders.relationsOf`: what the lookups give.
* `Reorders.passesDiagram_eq`, `Reorders.passesEntity_eq`, `Reorders.passesRelation_eq`: the checks,
  item by item.
* `Reorders.validate_reordered`: the diagnostics are the same.
-/

namespace ErSchema

/-! ## Attributes -/

/-- Whether an entity becomes another when its attributes are put in another order. -/
structure Entity.Reorders (e e' : Entity) : Prop where
  id : e'.id = e.id
  name : e'.name = e.name
  isWeak : e'.isWeak = e.isWeak
  attributes : e.attributes.Perm e'.attributes

/-- Whether a relation becomes another when its attributes are put in another order. -/
structure Relation.Reorders (r r' : Relation) : Prop where
  id : r'.id = r.id
  name : r'.name = r.name
  side1 : r'.side1 = r.side1
  side2 : r'.side2 = r.side2
  isIdentifying : r'.isIdentifying = r.isIdentifying
  canHoldAttributes : r'.canHoldAttributes = r.canHoldAttributes
  attributes : r.attributes.Perm r'.attributes

instance (e e' : Entity) : Decidable (e.Reorders e') :=
  decidable_of_iff (e'.id = e.id ∧ e'.name = e.name ∧ e'.isWeak = e.isWeak ∧
      e.attributes.Perm e'.attributes)
    ⟨fun ⟨h₁, h₂, h₃, h₄⟩ => ⟨h₁, h₂, h₃, h₄⟩, fun ⟨h₁, h₂, h₃, h₄⟩ => ⟨h₁, h₂, h₃, h₄⟩⟩

instance (r r' : Relation) : Decidable (r.Reorders r') :=
  decidable_of_iff (r'.id = r.id ∧ r'.name = r.name ∧ r'.side1 = r.side1 ∧ r'.side2 = r.side2 ∧
      r'.isIdentifying = r.isIdentifying ∧ r'.canHoldAttributes = r.canHoldAttributes ∧
      r.attributes.Perm r'.attributes)
    ⟨fun ⟨h₁, h₂, h₃, h₄, h₅, h₆, h₇⟩ => ⟨h₁, h₂, h₃, h₄, h₅, h₆, h₇⟩,
      fun ⟨h₁, h₂, h₃, h₄, h₅, h₆, h₇⟩ => ⟨h₁, h₂, h₃, h₄, h₅, h₆, h₇⟩⟩

theorem hasRepeat_of_perm {names names' : List String} (h : names.Perm names') :
    hasRepeat names' = hasRepeat names := by
  have hiff : hasRepeat names' = false ↔ hasRepeat names = false := by
    rw [hasRepeat_eq_false, hasRepeat_eq_false, h.nodup_iff]
  cases hn : hasRepeat names <;> cases hn' : hasRepeat names' <;> simp_all

theorem hasRepeatedAttribute_of_perm {as as' : List Attribute} (h : as.Perm as') :
    hasRepeatedAttribute as' = hasRepeatedAttribute as :=
  hasRepeat_of_perm (h.map _)

namespace Entity.Reorders

variable {e e' : Entity}

theorem primaryKeys (h : e.Reorders e') : e.primaryKeys.Perm e'.primaryKeys :=
  h.attributes.filter _

theorem discriminants (h : e.Reorders e') : e.discriminants.Perm e'.discriminants :=
  h.attributes.filter _

end Entity.Reorders

namespace Relation.Reorders

variable {r r' : Relation}

theorem touches (h : r.Reorders r') (id : String) : r'.touches id = r.touches id := by
  unfold Relation.touches
  rw [h.side1, h.side2]

theorem sideAcross (h : r.Reorders r') (id : String) : r'.sideAcross id = r.sideAcross id := by
  unfold Relation.sideAcross
  rw [h.side1, h.side2]

end Relation.Reorders

namespace Diagram

/-! ## Diagrams -/

/-- Whether a diagram becomes another when its lists are put in another order. Its entities stay in
their places unless their ids are distinct. -/
structure Reorders (d d' : Diagram) : Prop where
  entities : MatchesReordered Entity.Reorders d.entities d'.entities
  inPlace : d.entityIds.Nodup ∨ List.Forall₂ Entity.Reorders d.entities d'.entities
  relations : MatchesReordered Relation.Reorders d.relations d'.relations

variable {d d' : Diagram}

/-- Where ids are not shared, an id is that of one entity at most. -/
theorem length_filter_id_le_one (hids : d.entityIds.Nodup) (x : String) :
    (d.entities.filter (·.id = x)).length ≤ 1 := by
  have hcount := List.nodup_iff_count_le_one.mp hids x
  rwa [entityIds, List.count_eq_countP, List.countP_map, List.countP_eq_length_filter] at hcount

namespace Reorders

/-! ### Lookups -/

/-- The entities of an id are the same, one by one. -/
theorem forall₂_id (h : d.Reorders d') (x : String) :
    List.Forall₂ Entity.Reorders (d.entities.filter (·.id = x))
      (d'.entities.filter (·.id = x)) := by
  rcases h.inPlace with hids | hplace
  · have hfilter := h.entities.filter (p := (·.id = x)) (q := (·.id = x)) fun e e' he => by
      rw [he.id]
    exact hfilter.forall₂_of_length_le_one (length_filter_id_le_one hids x)
  · exact List.rel_filter (fun e e' he => by simp [he.id]) hplace

/-- **An id finds the same entity**, up to the order of its attributes. -/
theorem rel_entity? (h : d.Reorders d') (x : String) :
    Option.Rel Entity.Reorders ((Index.ofDiagram d).entity? x)
      ((Index.ofDiagram d').entity? x) := by
  rw [Index.entity?_ofDiagram, Index.entity?_ofDiagram]
  exact getLast?_of_forall₂ (h.forall₂_id x)

theorem isSome_entity? (h : d.Reorders d') (x : String) :
    ((Index.ofDiagram d').entity? x).isSome = ((Index.ofDiagram d).entity? x).isSome :=
  isSome_eq_of_rel (h.rel_entity? x)

theorem isWeak_eq (h : d.Reorders d') (x : String) :
    (Index.ofDiagram d').isWeak x = (Index.ofDiagram d).isWeak x :=
  any_eq_of_rel (h.rel_entity? x) fun _ _ he => he.isWeak

/-- **An id is touched by the same relations**, up to their order and that of their attributes. -/
theorem relationsOf (h : d.Reorders d') (x : String) :
    MatchesReordered Relation.Reorders ((Index.ofDiagram d).relationsOf x)
      ((Index.ofDiagram d').relationsOf x) := by
  rw [Index.relationsOf_ofDiagram, Index.relationsOf_ofDiagram]
  exact h.relations.filter fun _ _ hr => hr.touches x

theorem identifyingRelationsOf (h : d.Reorders d') (x : String) :
    MatchesReordered Relation.Reorders ((Index.ofDiagram d).identifyingRelationsOf x)
      ((Index.ofDiagram d').identifyingRelationsOf x) :=
  (h.relationsOf x).filter fun _ _ hr => hr.isIdentifying

/-! ### Checks -/

theorem names_perm (h : d.Reorders d') : d.names.Perm d'.names :=
  (h.entities.map_perm fun _ _ he => he.name).append (h.relations.map_perm fun _ _ hr => hr.name)

theorem isEmpty_eq (h : d.Reorders d') : d'.isEmpty = d.isEmpty := by
  unfold Diagram.isEmpty
  rw [isEmpty_eq_of_length_eq h.entities.length_eq, isEmpty_eq_of_length_eq h.relations.length_eq]

theorem passesDiagram_eq (h : d.Reorders d') (c : Check) :
    c.passesDiagram d' = c.passesDiagram d := by
  unfold Check.passesDiagram
  rw [h.isEmpty_eq, hasRepeat_of_perm h.names_perm]

/-- **An entity passes the same checks.** -/
theorem passesEntity_eq (h : d.Reorders d') {e e' : Entity} (he : e.Reorders e') (c : Check) :
    c.passesEntity (Index.ofDiagram d') e' = c.passesEntity (Index.ofDiagram d) e := by
  cases c
  case noRepeatedAttributeNames => exact congrArg (!·) (hasRepeatedAttribute_of_perm he.attributes)
  case noEntitiesWithoutAttributes =>
    simp only [Check.passesEntity, he.isWeak, he.attributes.isEmpty_eq]
  case noEntitiesWithoutKey =>
    simp only [Check.passesEntity, he.isWeak, he.primaryKeys.length_eq]
  case noEntitiesWithSeveralKeys =>
    simp only [Check.passesEntity, he.isWeak, he.primaryKeys.length_eq]
  case noWeakWithKey => simp only [Check.passesEntity, he.isWeak, he.primaryKeys.isEmpty_eq]
  case noWeakWithWrongRelationCount =>
    simp only [Check.passesEntity, he.isWeak, he.id, (h.relationsOf e.id).length_eq]
  case noWeakWithoutDiscriminant =>
    simp only [Check.passesEntity, he.isWeak, he.discriminants.length_eq]
  case noWeakWithoutIdentifyingRelation =>
    simp only [Check.passesEntity, he.isWeak, he.id, (h.identifyingRelationsOf e.id).length_eq]
  case noWeakOwnedByWeak =>
    unfold Check.passesEntity
    rw [he.isWeak, he.id, (h.identifyingRelationsOf e.id).all_eq fun r r' hr => ?_]
    rw [h.isWeak_eq, hr.sideAcross]
  -- the other checks ask nothing of an entity
  all_goals rfl

theorem hasWeakCardinalities_eq (h : d.Reorders d') {r r' : Relation} (hr : r.Reorders r') :
    (Index.ofDiagram d').hasWeakCardinalities r' =
      (Index.ofDiagram d).hasWeakCardinalities r := by
  unfold Index.hasWeakCardinalities
  rw [hr.side1, hr.side2, h.isWeak_eq, h.isWeak_eq]

/-- **A relation passes the same checks.** -/
theorem passesRelation_eq (h : d.Reorders d') {r r' : Relation} (hr : r.Reorders r') (c : Check) :
    c.passesRelation (Index.ofDiagram d') r' = c.passesRelation (Index.ofDiagram d) r := by
  have hsides : r'.sides = r.sides := by
    unfold Relation.sides
    rw [hr.side1, hr.side2]
  cases c
  case noRepeatedAttributeNames =>
    simp only [Check.passesRelation, hr.canHoldAttributes,
      hasRepeatedAttribute_of_perm hr.attributes]
  case noKeysOnManyToMany =>
    simp only [Check.passesRelation, Relation.isManyToMany, hr.canHoldAttributes, hsides,
      hr.attributes.any_eq]
  case noAttributesElsewhere =>
    simp only [Check.passesRelation, hr.canHoldAttributes, hr.attributes.isEmpty_eq]
  case noUnconnectedRelations => simp only [Check.passesRelation, hsides, h.isSome_entity?]
  case noInvalidCardinalities =>
    simp only [Check.passesRelation, Relation.hasValidCardinalities, hr.side1, hr.side2]
  case noInvalidRelationNames => simp only [Check.passesRelation, Relation.hasValidName, hr.name]
  case noWeakWithWrongCardinality => exact h.hasWeakCardinalities_eq hr
  -- the other checks ask nothing of a relation
  all_goals rfl

/-- **Diagnostics do not depend on the order of lists.** -/
theorem validate_reordered (h : d.Reorders d') : d'.validate = d.validate := by
  refine congrArg Diagnostics.ofChecks (funext fun c => ?_)
  rw [Check.holds_eq, Check.holds_eq, h.passesDiagram_eq,
    h.entities.all_eq fun _ _ he => h.passesEntity_eq he c,
    h.relations.all_eq fun _ _ hr => h.passesRelation_eq hr c]

end Reorders

/-- Courses with weak sections, and teachers. -/
def courses : Diagram where
  entities := [
    ⟨"c", "Course", false, [.ofKey "code", .ofName "title", .ofName "hours"]⟩,
    ⟨"s", "Section", true, [.ofDiscriminant "number", .ofName "room"]⟩,
    ⟨"t", "Teacher", false, [.ofKey "name"]⟩]
  relations := [
    ⟨"r1", "splits into", ⟨"c", "1:1"⟩, ⟨"s", "1:N"⟩, true, false, []⟩,
    ⟨"r2", "teaches", ⟨"t", "0:N"⟩, ⟨"c", "1:N"⟩, false, true, [.ofName "since", .ofName "share"]⟩,
    ⟨"r3", "heads", ⟨"t", "0:1"⟩, ⟨"t", "0:N"⟩, false, false, []⟩]

/-- The courses, with every list in another order. -/
def reorderedCourses : Diagram where
  entities := [
    ⟨"t", "Teacher", false, [.ofKey "name"]⟩,
    ⟨"c", "Course", false, [.ofName "hours", .ofName "title", .ofKey "code"]⟩,
    ⟨"s", "Section", true, [.ofName "room", .ofDiscriminant "number"]⟩]
  relations := [
    ⟨"r3", "heads", ⟨"t", "0:1"⟩, ⟨"t", "0:N"⟩, false, false, []⟩,
    ⟨"r2", "teaches", ⟨"t", "0:N"⟩, ⟨"c", "1:N"⟩, false, true, [.ofName "share", .ofName "since"]⟩,
    ⟨"r1", "splits into", ⟨"c", "1:1"⟩, ⟨"s", "1:N"⟩, true, false, []⟩]

theorem reorderedCourses_validate :
    courses.Reorders reorderedCourses ∧ reorderedCourses.validate = courses.validate := by
  have hids : courses.entityIds.Nodup := by decide +kernel
  have h : courses.Reorders reorderedCourses := {
    entities := ⟨courses.entities.rotateRight, by decide +kernel, by decide +kernel⟩
    inPlace := Or.inl hids
    relations := ⟨courses.relations.reverse, by decide +kernel, by decide +kernel⟩ }
  exact ⟨h, h.validate_reordered⟩

end Diagram

end ErSchema
