import ErSchema.Proofs.Diagram.Direction
import ErSchema.Proofs.Schema.Gate
import ErSchema.Proofs.Schema.Stages

/-!
# The direction of a drawing does not matter

A relation is directed if its cardinalities tell its sides apart: one is the many side, or one has
to take part and the other need not. Then the rules find the same one side and many side, or the
same holder and target, from whichever end the relation is drawn. So a valid diagram of which
directed relations are redrawn is valid and has the same SQL.

* `ClassifiedRelation.tables_reversed`: a directed relation is mapped to the same tables.
* `Redraws.weakEntityTables_eq`: a weak entity finds the same owner.
* `Redraws.exists_draftsTo`, `Redraws.drafts_eq_ok`: the drafts are the same, in the same order.
* `Redraws.generateSql_redrawn`: so is the SQL.
-/

namespace ErSchema

/-! ## Directed relations -/

/-- Whether a relation with these cardinalities on its sides is one-to-many, or one-to-one with
exactly one side that need not take part. -/
def Cardinality.directs (a b : Cardinality) : Bool :=
  match RelationClass.ofSides a b with
  | .oneToOne => a.isMandatory != b.isMandatory
  | .oneToMany => true
  | .manyToMany => false

/-- Whether the cardinalities of a relation tell its sides apart. -/
def Relation.isDirected (r : Relation) : Bool :=
  match r.side1.cardinality?, r.side2.cardinality? with
  | some a, some b => a.directs b
  | _, _ => false

namespace ClassifiedRelation

/-- A resolved relation that is drawn from its other end. -/
def reversed (c : ClassifiedRelation) : ClassifiedRelation :=
  { c with side1 := c.side2, side2 := c.side1 }

/-- Whether the cardinalities of a resolved relation tell its sides apart. -/
def isDirected (c : ClassifiedRelation) : Bool := c.side1.cardinality.directs c.side2.cardinality

variable {c : ClassifiedRelation}

theorem relationClass_reversed (c : ClassifiedRelation) :
    c.reversed.relationClass = c.relationClass :=
  ofSides_comm _ _

theorem isReflexive_reversed (c : ClassifiedRelation) :
    c.reversed.isReflexive = c.isReflexive :=
  decide_eq_decide.mpr eq_comm

theorem mem_entityIds_reversed (c : ClassifiedRelation) (id : String) :
    id ∈ c.reversed.entityIds ↔ id ∈ c.entityIds := by
  simp [entityIds, reversed, or_comm]

/-- One side of a one-to-many relation is the many side, from either end. -/
theorem oneAndMany_reversed (h : c.relationClass = .oneToMany) :
    c.reversed.oneAndMany = c.oneAndMany := by
  unfold relationClass RelationClass.ofSides at h
  unfold oneAndMany reversed
  cases h1 : c.side1.cardinality.isMany <;> cases h2 : c.side2.cardinality.isMany <;> simp_all

/-- The side that need not take part refers to the other, from either end. -/
theorem holderAndTarget_reversed
    (h : c.side1.cardinality.isMandatory ≠ c.side2.cardinality.isMandatory) :
    c.reversed.holderAndTarget = c.holderAndTarget := by
  unfold holderAndTarget reversed
  cases h1 : c.side1.cardinality.isMandatory <;>
    cases h2 : c.side2.cardinality.isMandatory <;> simp_all

theorem oneToManyTables_reversed (h : c.relationClass = .oneToMany) :
    c.reversed.oneToManyTables = c.oneToManyTables := by
  unfold oneToManyTables
  rw [oneAndMany_reversed h, isReflexive_reversed]
  rfl

theorem oneToOneTables_reversed
    (h : c.side1.cardinality.isMandatory ≠ c.side2.cardinality.isMandatory) :
    c.reversed.oneToOneTables = c.oneToOneTables := by
  -- not both sides are mandatory, so there is a reference
  have hboth : (c.side1.cardinality.isMandatory && c.side2.cardinality.isMandatory) = false := by
    cases h1 : c.side1.cardinality.isMandatory <;> simp_all
  have hboth' : (c.reversed.side1.cardinality.isMandatory &&
      c.reversed.side2.cardinality.isMandatory) = false :=
    (Bool.and_comm _ _).trans hboth
  unfold oneToOneTables
  rw [hboth, hboth', holderAndTarget_reversed h, isReflexive_reversed]
  rfl

/-- **A directed relation is mapped to the same tables**, from whichever end it is drawn. -/
theorem tables_reversed (h : c.isDirected = true) (index index' : Index) :
    (Classified.relation c.reversed).tables index' = (Classified.relation c).tables index := by
  simp only [Classified.tables, relationClass_reversed]
  have hdirects : c.side1.cardinality.directs c.side2.cardinality = true := h
  unfold Cardinality.directs at hdirects
  cases hclass : c.relationClass with
  | oneToOne =>
    rw [show RelationClass.ofSides _ _ = .oneToOne from hclass] at hdirects
    exact oneToOneTables_reversed (bne_iff_ne.mp hdirects)
  | oneToMany => exact oneToManyTables_reversed hclass
  | manyToMany =>
    rw [show RelationClass.ofSides _ _ = .manyToMany from hclass] at hdirects
    exact absurd hdirects (by simp)

end ClassifiedRelation

namespace Diagram

variable {p : Relation → Prop} {d d' : Diagram}

theorem Resolves.isDirected {r : Relation} {c : ClassifiedRelation} (h : d.Resolves r c) :
    c.isDirected = r.isDirected := by
  unfold Relation.isDirected
  rw [h.side1.2, h.side2.2]
  rfl

namespace Redraws

/-! ## Resolving -/

theorem resolveSide_eq_ok (h : d.Redraws p d') {r r' : Relation} {s : Side} {c : ClassifiedSide} :
    resolveSide (Index.ofDiagram d') r' s = .ok c ↔
      resolveSide (Index.ofDiagram d) r s = .ok c := by
  rw [ErSchema.resolveSide_eq_ok, ErSchema.resolveSide_eq_ok, h.entity?]

theorem resolveRelation_eq_ok (h : d.Redraws p d') {r : Relation} {c : ClassifiedRelation} :
    resolveRelation (Index.ofDiagram d') r = .ok c ↔
      resolveRelation (Index.ofDiagram d) r = .ok c := by
  simp only [ErSchema.resolveRelation_eq_ok, h.resolveSide_eq_ok (r := r)]

/-- **A relation that is drawn from its other end resolves to what it did**, drawn so. -/
theorem resolveRelation_reversed (h : d.Redraws p d') {r : Relation} {c : ClassifiedRelation}
    (hc : resolveRelation (Index.ofDiagram d) r = .ok c) :
    resolveRelation (Index.ofDiagram d') r.reversed = .ok c.reversed := by
  rw [ErSchema.resolveRelation_eq_ok] at hc ⊢
  obtain ⟨h1, h2, hname, hid, hattributes⟩ := hc
  exact ⟨h.resolveSide_eq_ok.mpr h2, h.resolveSide_eq_ok.mpr h1, hname, hid, hattributes⟩

/-! ## Weak entities -/

/-- **A weak entity finds the same owner** and has the same table. -/
theorem weakEntityTables_eq (h : d.Redraws p d') (e : Entity) :
    weakEntityTables (Index.ofDiagram d') e = weakEntityTables (Index.ofDiagram d) e := by
  have hrelations := h.identifyingRelationsOf e.id
  unfold weakEntityTables
  -- the relations match one by one, so there is none in either list or the first ones match
  generalize (Index.ofDiagram d).identifyingRelationsOf e.id = rs at hrelations
  generalize (Index.ofDiagram d').identifyingRelationsOf e.id = rs' at hrelations
  cases hrelations with
  | nil => rfl
  | cons hr _ =>
    simp only [List.head?_cons]
    rw [hr.2.entity_sideAcross hr.1, h.entity?, hr.2.name]

theorem entity_tables_eq (h : d.Redraws p d') (e : Entity) :
    (Classified.entity e).tables (Index.ofDiagram d') =
      (Classified.entity e).tables (Index.ofDiagram d) := by
  simp only [Classified.tables, h.weakEntityTables_eq]

/-! ## Drafts -/

/-- What the relations resolve to when directed ones are redrawn. -/
theorem exists_resolved (h : d.Redraws (·.isDirected = true) d') {cs : List ClassifiedRelation}
    (hcs : List.Forall₂ d.Resolves d.relations cs) :
    ∃ cs', List.Forall₂ d'.Resolves d'.relations cs' ∧
      List.Forall₂ (fun c' c => c' = c ∨ c.isDirected = true ∧ c' = c.reversed) cs' cs := by
  refine exists_forall₂_between ?_
  refine (forall₂_with_mem (forall₂_through h.relations hcs)).imp ?_
  rintro r' c ⟨hmem, -, r, rfl | ⟨hdir, rfl⟩, hr⟩
  · exact ⟨c, ⟨hmem, h.resolveRelation_eq_ok.mpr hr.resolved⟩, Or.inl rfl⟩
  · exact ⟨c.reversed, ⟨hmem, h.resolveRelation_reversed hr.resolved⟩,
      Or.inr ⟨hr.isDirected.trans hdir, rfl⟩⟩

/-- The same entities remain. -/
theorem remainingEntities_eq {cs cs' : List ClassifiedRelation}
    (hcs : List.Forall₂ (fun c' c => c' = c ∨ c.isDirected = true ∧ c' = c.reversed) cs' cs)
    (es : List Entity) : remainingEntities cs' es = remainingEntities cs es := by
  have hmem : ∀ id, id ∈ cs'.flatMap (·.entityIds) ↔ id ∈ cs.flatMap (·.entityIds) := by
    intro id
    induction hcs with
    | nil => exact Iff.rfl
    | @cons c' c _ _ hc _ ih =>
      have hhead : id ∈ c'.entityIds ↔ id ∈ c.entityIds := by
        rcases hc with rfl | ⟨-, rfl⟩
        · exact Iff.rfl
        · exact c.mem_entityIds_reversed id
      rw [List.flatMap_cons, List.flatMap_cons, List.mem_append, List.mem_append, hhead, ih]
  unfold remainingEntities
  refine List.filter_congr fun e _ => ?_
  simp only [List.contains_eq_mem, hmem]

/-- **The drafts come out the same**, record by record. -/
theorem exists_draftsTo (h : d.Redraws (·.isDirected = true) d') {cs : List ClassifiedRelation}
    {relations entities : List (List Table)} (hd : d.DraftsTo cs relations entities) :
    ∃ cs', d'.DraftsTo cs' relations entities := by
  obtain ⟨cs', hresolved, hcs⟩ := h.exists_resolved hd.resolved
  refine ⟨cs', hresolved, ?_, ?_⟩
  · refine (forall₂_through hcs.flip hd.relation_tables).imp ?_
    rintro c' ts ⟨c, rfl | ⟨hdir, rfl⟩, hts⟩
    · exact hts
    · rw [ClassifiedRelation.tables_reversed hdir (Index.ofDiagram d), hts]
  · rw [h.entities, remainingEntities_eq hcs]
    exact hd.entity_tables.imp fun e ts hts => (h.entity_tables_eq e).trans hts

theorem drafts_eq_ok (h : d.Redraws (·.isDirected = true) d') {ts : List Table}
    (hd : d.drafts = .ok ts) : d'.drafts = .ok ts := by
  obtain ⟨cs, relations, entities, hdrafts, rfl⟩ := Diagram.drafts_eq_ok.mp hd
  obtain ⟨cs', hdrafts'⟩ := h.exists_draftsTo hdrafts
  exact Diagram.drafts_eq_ok.mpr ⟨cs', relations, entities, hdrafts', rfl⟩

/-- **The direction of a drawing does not matter.** A valid diagram of which relations are drawn
from the other end, each one-to-many or one-to-one with exactly one side that need not take part, is
valid and has the same SQL. -/
theorem generateSql_redrawn (h : d.Redraws (·.isDirected = true) d')
    (hv : d.validate.isValid = true) :
    d'.validate.isValid = true ∧
      ∃ sql, d.generateSql = .ok sql ∧ d'.generateSql = .ok sql := by
  have hv' := h.isValid_of_isValid hv
  obtain ⟨ts, hts, htables⟩ := (wellFormed_of_isValid hv).deriveTables_eq
  have htables' := deriveTables_ok_iff.mpr ⟨ts, h.drafts_eq_ok hts, rfl⟩
  refine ⟨hv', emit ((mergeDrafts ts).map (·.sanitize)), ?_, ?_⟩
  · rw [generateSql_of_valid hv, generateUnchecked, htables]
    rfl
  · rw [generateSql_of_valid hv', generateUnchecked, htables']
    rfl

end Redraws

/-- The shop, in which every relation that is directed is drawn from its other end: the one that
ties the lines to their orders, one between products, and a one-to-one relation. -/
def redrawnShop : Diagram where
  entities := shop.entities
  relations := [
    ⟨"r1", "lists", ⟨"l", "0:N"⟩, ⟨"o", "1:1"⟩, true, false, []⟩,
    ⟨"r2", "part", ⟨"p", "0:N"⟩, ⟨"p", "0:1"⟩, false, false, []⟩,
    ⟨"r3", "marks", ⟨"t", "0:N"⟩, ⟨"p", "1:N"⟩, false, true, [.ofName "since"]⟩,
    ⟨"r4", "main", ⟨"p", "1:1"⟩, ⟨"o", "0:1"⟩, false, false, []⟩]

theorem redrawnShop_generateSql :
    shop.Redraws (·.isDirected = true) redrawnShop ∧ shop.validate.isValid = true ∧
      redrawnShop.validate.isValid = true ∧
        ∃ sql, shop.generateSql = .ok sql ∧ redrawnShop.generateSql = .ok sql := by
  have h : shop.Redraws (·.isDirected = true) redrawnShop := ⟨rfl, by decide +kernel⟩
  have hv : shop.validate.isValid = true := by decide +kernel
  exact ⟨h, hv, h.generateSql_redrawn hv⟩

end Diagram

end ErSchema
