import ErSchema.Proofs.Schema.Forms
import ErSchema.Proofs.Schema.Gate

/-!
# Weak entities and their owners

The checks on weak entities look at one thing each: the cardinalities of a relation, how many
relations there are, how many of them identify, and whether an owner is weak. Together they leave
one drawing: a weak entity is on the many side of its only relation, an identifying one, and across
from it, exactly once, stands a strong entity with one key attribute.

* `Diagram.Depends`: that drawing, side by side.
* `WellFormed.exists_depends`: a weak entity that its id finds is drawn so.
* `WellFormed.oneToManyTables_of_weak`: its relation drafts the table of the owner only.
* `weak_depends`: so it is in every valid diagram, and the rule for the weak entity finds that
  relation and that owner.
-/

namespace ErSchema

/-! ## Sides -/

/-- The two sides of a relation as it is drawn, in either order. -/
def Relation.Faces (r : Relation) (s t : Side) : Prop :=
  (s = r.side1 ∧ t = r.side2) ∨ (s = r.side2 ∧ t = r.side1)

instance (r : Relation) (s t : Side) : Decidable (r.Faces s t) :=
  inferInstanceAs (Decidable (_ ∨ _))

theorem Relation.entity_eq_of_isReflexive {r : Relation} {s t : Side} (hf : r.Faces s t)
    (hr : r.isReflexive = true) : s.entity = t.entity := by
  have hsides : r.side1.entity = r.side2.entity := of_decide_eq_true hr
  rcases hf with ⟨rfl, rfl⟩ | ⟨rfl, rfl⟩
  · exact hsides
  · exact hsides.symm

theorem Side.cardinality_of_isMany {s : Side} {k : Cardinality} (hk : s.cardinality? = some k)
    (hm : k.isMany = true) : s.cardinality = "0:N" ∨ s.cardinality = "1:N" := by
  rw [← Cardinality.text_eq_of_parse? hk]
  obtain ⟨minimum, maximum⟩ := k
  obtain rfl := Cardinality.isMany_iff.mp hm
  cases minimum with
  | zero => exact Or.inl rfl
  | one => exact Or.inr rfl

theorem Side.cardinality_of_isExactlyOne {s : Side} {k : Cardinality}
    (hk : s.cardinality? = some k) (ho : k.isExactlyOne = true) : s.cardinality = "1:1" := by
  rw [← Cardinality.text_eq_of_parse? hk]
  obtain ⟨minimum, maximum⟩ := k
  obtain rfl := Cardinality.isMandatory_iff.mp (Bool.and_eq_true_iff.mp ho).1
  cases maximum with
  | one => rfl
  | many => exact absurd (Cardinality.isMany_of_isExactlyOne ho) (by decide)

/-- A side faces one side only. -/
theorem ClassifiedRelation.Faces.unique {c : ClassifiedRelation} {s t u : ClassifiedSide}
    (h : c.Faces s t) (h' : c.Faces s u) : t = u := by
  rcases h with ⟨rfl, rfl⟩ | ⟨rfl, rfl⟩ <;> rcases h' with ⟨hs, rfl⟩ | ⟨hs, rfl⟩
  · rfl
  · exact hs.symm
  · exact hs.symm
  · rfl

namespace Diagram

variable {d : Diagram}

/-- Behind the two sides of a resolved relation are the two that were drawn. -/
theorem Resolves.exists_faces {r : Relation} {c : ClassifiedRelation} (hr : d.Resolves r c)
    {s t : ClassifiedSide} (hf : c.Faces s t) :
    ∃ x y, r.Faces x y ∧
      ((Index.ofDiagram d).entity? x.entity = some s.entity ∧
        x.cardinality? = some s.cardinality) ∧
      (Index.ofDiagram d).entity? y.entity = some t.entity ∧
        y.cardinality? = some t.cardinality := by
  rcases hf with ⟨rfl, rfl⟩ | ⟨rfl, rfl⟩
  · exact ⟨r.side1, r.side2, Or.inl ⟨rfl, rfl⟩, hr.side1, hr.side2⟩
  · exact ⟨r.side2, r.side1, Or.inr ⟨rfl, rfl⟩, hr.side2, hr.side1⟩

/-! ## Dependence -/

/-- How a weak entity hangs on its owner: one relation touches it, an identifying one between two
ids, with the weak entity on a side of many and the owner on the side across, which takes part
exactly once. -/
structure Depends (d : Diagram) (e owner : Entity) (r : Relation) (s t : Side) : Prop where
  only : d.relations.filter (·.touches e.id) = [r]
  identifying : r.isIdentifying = true
  irreflexive : r.isReflexive = false
  faces : r.Faces s t
  side : s.entity = e.id
  many : s.cardinality = "0:N" ∨ s.cardinality = "1:N"
  once : t.cardinality = "1:1"
  across : (Index.ofDiagram d).entity? t.entity = some owner
  strong : owner.isWeak = false
  key : ∃ a, owner.primaryKeys = [a]

namespace WellFormed

variable {e owner : Entity} {r : Relation} {c : ClassifiedRelation}

/-- A weak entity that its id finds and its owner are the two sides of the relation between them. -/
theorem face_of_found (h : d.WellFormed) (ho : d.Owns owner r e)
    (hfound : (Index.ofDiagram d).entity? e.id = some e) :
    ∃ c s t, d.Resolves r c ∧ c.Faces s t ∧ s.entity = e ∧ t.entity = owner := by
  obtain ⟨c, s, t, hc, hf, hid, ht⟩ := h.face_of_owns ho
  have hs := (hc.face hf).2.1
  rw [hid, hfound] at hs
  exact ⟨c, s, t, hc, hf, (Option.some.inj hs).symm, ht⟩

/-- **A weak entity that its id finds hangs on its owner.** -/
theorem exists_depends (h : d.WellFormed) (ho : d.Owns owner r e)
    (hfound : (Index.ofDiagram d).entity? e.id = some e) : ∃ s t, d.Depends e owner r s t := by
  obtain ⟨c, s, t, hc, hf, rfl, rfl⟩ := h.face_of_found ho hfound
  have hw := (mem_weakEntities.mp ho.weak).2
  obtain ⟨hmany, honce, hstrong, -⟩ := h.weak_face hc hf hw
  obtain ⟨x, y, hxy, hx, hy⟩ := hc.exists_faces hf
  refine ⟨x, y, ho.only, ho.identifying, ?_, hxy, (Index.mem_of_entity? hx.1).2.symm,
    Side.cardinality_of_isMany hx.2 hmany, Side.cardinality_of_isExactlyOne hy.2 honce, hy.1,
    hstrong, h.key_of_strong _ ho.strong⟩
  -- a reflexive relation would find the weak entity across as well
  refine Bool.eq_false_iff.mpr fun hrefl => ?_
  have hsame := hy.1
  rw [← Relation.entity_eq_of_isReflexive hxy hrefl, hx.1] at hsame
  rw [Option.some.inj hsame, hstrong] at hw
  exact absurd hw (by simp)

/-- **A relation with a weak entity on a side is one-to-many and drafts the table of the entity
across only.** -/
theorem oneToManyTables_of_weak (h : d.WellFormed) (hr : d.Resolves r c) {s t : ClassifiedSide}
    (hf : c.Faces s t) (hw : s.entity.isWeak = true) :
    c.relationClass = .oneToMany ∧ c.oneToManyTables = .ok [t.entity.table] := by
  have hclass := h.oneToMany_of_weak hr hf hw
  have htarget := h.target_strong hr (by rw [hclass]; simp)
  -- what is referred to is strong, so the weak entity is the holder
  obtain rfl : s = c.holder := by
    refine (ClassifiedRelation.holder_or_target hf).resolve_right ?_
    rintro rfl
    exact absurd hw (by simp [(mem_strongEntities.mp htarget).2])
  obtain rfl : t = c.target := hf.unique c.link_faces
  obtain ⟨hties, hrefl⟩ := h.tiesWeak_of_weak_holder hr hw
  refine ⟨hclass, (ClassifiedRelation.oneToManyTables_eq_ok hclass).mpr
    ⟨h.key_ne_nil htarget, ?_⟩⟩
  simp [ClassifiedRelation.linkDrafts, hrefl, hties]

end WellFormed

/-- **The checks on weak entities force the structure they are meant for.** In a valid diagram, a
weak entity that its id finds hangs on a strong owner by its only relation. That relation is
one-to-many and drafts the table of the owner only, and the rule for the weak entity finds that
relation and that owner. -/
theorem weak_depends (hv : d.validate.isValid = true) {e : Entity} (hw : e.isWeak = true)
    (hfound : (Index.ofDiagram d).entity? e.id = some e) :
    ∃ owner r s t c, d.Depends e owner r s t ∧
      d.Resolves r c ∧ c.relationClass = .oneToMany ∧ c.oneToManyTables = .ok [owner.table] ∧
      ((Index.ofDiagram d).identifyingRelationsOf e.id).head? = some r ∧
      (Index.ofDiagram d).entity? (r.sideAcross e.id).entity = some owner ∧
      weakEntityTables (Index.ofDiagram d) e = .ok [e.weakTable r owner] := by
  have h := wellFormed_of_isValid hv
  have hmem := WellFormed.mem_weakEntities.mpr ⟨(Index.mem_of_entity? hfound).1, hw⟩
  obtain ⟨owner, r, ho⟩ := h.exists_owner hmem
  obtain ⟨s, t, hdepends⟩ := h.exists_depends ho hfound
  obtain ⟨c, s', t', hc, hf, hs, ht⟩ := h.face_of_found ho hfound
  obtain ⟨hclass, htables⟩ := h.oneToManyTables_of_weak hc hf (hs ▸ hw)
  have hlist := ho.identifyingRelationsOf_eq
  exact ⟨owner, r, s, t, c, hdepends, hc, hclass, ht ▸ htables, by rw [hlist]; rfl, ho.across,
    ho.tables_eq (h.key_ne_nil ho.strong)⟩

/-- The lines of the orders of the shop. -/
def orderLine : Entity := ⟨"l", "Line", true, [.ofDiscriminant "position", .ofName "amount"]⟩

theorem orderLine_depends :
    shop.validate.isValid = true ∧ orderLine.isWeak = true ∧
      (Index.ofDiagram shop).entity? orderLine.id = some orderLine ∧
      ∃ owner r s t c, shop.Depends orderLine owner r s t ∧
        shop.Resolves r c ∧ c.relationClass = .oneToMany ∧
        c.oneToManyTables = .ok [owner.table] ∧
        ((Index.ofDiagram shop).identifyingRelationsOf orderLine.id).head? = some r ∧
        (Index.ofDiagram shop).entity? (r.sideAcross orderLine.id).entity = some owner ∧
        weakEntityTables (Index.ofDiagram shop) orderLine = .ok [orderLine.weakTable r owner] := by
  have hv : shop.validate.isValid = true := by decide +kernel
  have hfound : (Index.ofDiagram shop).entity? orderLine.id = some orderLine := by decide +kernel
  exact ⟨hv, rfl, hfound, weak_depends hv rfl hfound⟩

end Diagram

end ErSchema
