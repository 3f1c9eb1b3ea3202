import ErSchema.Proofs.Schema.Stages

/-!
# The drafts of a well-formed diagram

What the mapping rules contribute when none of them fails. A relation that is not many-to-many has a
`holder` and a `target`, whatever its class and the order of its sides: the holder's table gets the
`references` to the target. A many-to-many relation has a `junctionTable`, and a weak entity that an
owner `Owns` has its `weakTable`.

* `Resolves.tables_eq`, `Owns.tables_eq`: no rule fails on a well-formed diagram.
* `WellFormed.tables_ok`: so none fails on a record.
* `WellFormed.drafts_eq`: all drafts, in order.
-/

namespace ErSchema

/-! ## References -/

/-- **An entity is referred to by one column for each key attribute**, and without a key it is not
referred to. -/
theorem referenceColumns_eq_ok {e : Entity} {column : Attribute → Column} {xs : List Column} :
    e.referenceColumns column = .ok xs ↔ e.primaryKeys ≠ [] ∧
      (e.primaryKeys.map fun a => { column a with foreignKey := some e.name }) = xs := by
  unfold Entity.referenceColumns
  simp only [bind_eq_ok, requiredKeys_eq_ok, pure, Except.pure, Except.ok.injEq]
  constructor
  · rintro ⟨_, ⟨rfl, hk⟩, hxs⟩
    exact ⟨hk, hxs⟩
  · rintro ⟨hk, hxs⟩
    exact ⟨_, ⟨rfl, hk⟩, hxs⟩

namespace ClassifiedRelation

/-- The side that refers and the side that is referred to, in a relation that is not
many-to-many. -/
def link (c : ClassifiedRelation) : ClassifiedSide × ClassifiedSide :=
  if c.relationClass = .oneToMany then (c.oneAndMany.2, c.oneAndMany.1) else c.holderAndTarget

/-- The side whose table refers. -/
def holder (c : ClassifiedRelation) : ClassifiedSide := c.link.1

/-- The side that is referred to. -/
def target (c : ClassifiedRelation) : ClassifiedSide := c.link.2

/-- The columns by which the holder refers to the target. -/
def references (c : ClassifiedRelation) : List Column :=
  c.target.entity.primaryKeys.map fun a =>
    { name := relationColumnName a c.name
      notNull := c.target.cardinality.isMandatory
      unique := !c.holder.cardinality.isMany
      foreignKey := some c.target.entity.name }

/-- The table of the holder with its references. -/
def holderTable (c : ClassifiedRelation) : Table :=
  ⟨c.holder.entity.name, c.holder.entity.table.columns ++ c.references⟩

/-- Whether the relation ties a weak entity to its owner, so that the holder has a table of its
own. -/
def tiesWeak (c : ClassifiedRelation) : Bool :=
  c.relationClass = .oneToMany && c.isIdentifying && c.holder.entity.isWeak

/-- Whether a relation is kept by references in the table of its holder. -/
def isLink (c : ClassifiedRelation) : Bool := c.relationClass ≠ .manyToMany && !c.tiesWeak

/-- Whether an entity is on a side. -/
def involves (c : ClassifiedRelation) (e : Entity) : Bool :=
  c.side1.entity = e || c.side2.entity = e

/-- The drafts of a relation that is not many-to-many. -/
def linkDrafts (c : ClassifiedRelation) : List Table :=
  if c.isReflexive then [c.holderTable]
  else if c.tiesWeak then [c.target.entity.table]
  else [c.target.entity.table, c.holderTable]

/-- The columns by which a junction table refers to a side. -/
def junctionColumns (c : ClassifiedRelation) (s : ClassifiedSide) (position : Nat) : List Column :=
  s.entity.primaryKeys.map fun a =>
    { name := relationColumnName a c.name ++ "_" ++ toString position
      key := true
      foreignKey := some s.entity.name }

/-- The table of a many-to-many relation. -/
def junctionTable (c : ClassifiedRelation) : Table :=
  ⟨c.name, c.junctionColumns c.side1 1 ++ c.junctionColumns c.side2 2
    ++ c.attributes.map fun a => { name := a.name }⟩

/-- The drafts of a many-to-many relation. -/
def junctionDrafts (c : ClassifiedRelation) : List Table :=
  if c.isReflexive then [c.side1.entity.table, c.junctionTable]
  else [c.side1.entity.table, c.side2.entity.table, c.junctionTable]

/-- The drafts of a relation. -/
def drafts (c : ClassifiedRelation) : List Table :=
  if c.relationClass = .manyToMany then c.junctionDrafts else c.linkDrafts

theorem link_faces (c : ClassifiedRelation) : c.Faces c.holder c.target := by
  unfold holder target link oneAndMany holderAndTarget
  split <;> split <;> simp [Faces]

theorem holder_or_target {c : ClassifiedRelation} {s t : ClassifiedSide} (hf : c.Faces s t) :
    s = c.holder ∨ s = c.target := by
  rcases c.link_faces with ⟨hl, hr⟩ | ⟨hl, hr⟩ <;> rcases hf with ⟨rfl, -⟩ | ⟨rfl, -⟩
  · exact Or.inl hl.symm
  · exact Or.inr hr.symm
  · exact Or.inr hr.symm
  · exact Or.inl hl.symm

theorem involves_iff {c : ClassifiedRelation} {e : Entity} :
    c.involves e = true ↔ c.holder.entity = e ∨ c.target.entity = e := by
  have hsides : c.involves e = true ↔ c.side1.entity = e ∨ c.side2.entity = e := by
    simp [ClassifiedRelation.involves]
  rw [hsides]
  rcases c.link_faces with ⟨hs, ht⟩ | ⟨hs, ht⟩
  · rw [hs, ht]
  · rw [hs, ht, or_comm]

theorem target_not_many {c : ClassifiedRelation} (hc : c.relationClass ≠ .manyToMany) :
    c.target.cardinality.isMany = false := by
  unfold target link oneAndMany holderAndTarget
  unfold relationClass RelationClass.ofSides at hc ⊢
  cases h1 : c.side1.cardinality.isMany <;> cases h2 : c.side2.cardinality.isMany <;>
    simp_all
  split <;> simp_all

theorem tiesWeak_of_strong {c : ClassifiedRelation} (hs : c.holder.entity.isWeak = false) :
    c.tiesWeak = false := by
  unfold tiesWeak
  rw [hs, Bool.and_false]

theorem isLink_of_strong {c : ClassifiedRelation} (hc : c.relationClass ≠ .manyToMany)
    (hs : c.holder.entity.isWeak = false) : c.isLink = true := by
  unfold isLink
  rw [tiesWeak_of_strong hs]
  simpa using hc

theorem isWeak_of_tiesWeak {c : ClassifiedRelation} (h : c.tiesWeak = true) :
    c.holder.entity.isWeak = true := by
  unfold tiesWeak at h
  exact (Bool.and_eq_true_iff.mp h).2

theorem holder_many {c : ClassifiedRelation} (hc : c.relationClass = .oneToMany) :
    c.holder.cardinality.isMany = true := by
  unfold holder link oneAndMany
  rw [if_pos hc]
  unfold relationClass RelationClass.ofSides at hc
  split
  · assumption
  · cases h1 : c.side1.cardinality.isMany <;> cases h2 : c.side2.cardinality.isMany <;> simp_all

/-! ## Rules that do not fail -/

theorem oneAndMany_eq {c : ClassifiedRelation} (hc : c.relationClass = .oneToMany) :
    c.oneAndMany = (c.target, c.holder) := by
  unfold target holder link
  rw [if_pos hc]

theorem holderAndTarget_eq {c : ClassifiedRelation} (hc : c.relationClass = .oneToOne) :
    c.holderAndTarget = (c.holder, c.target) := by
  unfold target holder link
  rw [if_neg (by rw [hc]; simp)]

theorem oneToManyTables_eq_ok {c : ClassifiedRelation} (hc : c.relationClass = .oneToMany)
    {ts : List Table} :
    c.oneToManyTables = .ok ts ↔ c.target.entity.primaryKeys ≠ [] ∧ c.linkDrafts = ts := by
  have hties : c.tiesWeak = (c.isIdentifying && c.holder.entity.isWeak) := by
    simp [tiesWeak, hc]
  unfold oneToManyTables linkDrafts holderTable references
  rw [oneAndMany_eq hc, hties, holder_many hc]
  simp only [bind_eq_ok, referenceColumns_eq_ok, pure, Except.pure, ← apply_ite (Except.ok),
    Except.ok.injEq]
  constructor
  · rintro ⟨_, ⟨hk, rfl⟩, hts⟩
    exact ⟨hk, hts⟩
  · rintro ⟨hk, hts⟩
    exact ⟨_, ⟨hk, rfl⟩, hts⟩

theorem oneToOneTables_of_mandatory {c : ClassifiedRelation}
    (h1 : c.side1.cardinality.isMandatory = true) (h2 : c.side2.cardinality.isMandatory = true) :
    c.oneToOneTables = .ok [c.mergedTable] := by
  unfold oneToOneTables
  rw [h1, h2]
  rfl

theorem oneToOneTables_eq_ok {c : ClassifiedRelation} (hc : c.relationClass = .oneToOne)
    (hopt : ¬ (c.side1.cardinality.isMandatory = true ∧ c.side2.cardinality.isMandatory = true))
    {ts : List Table} :
    c.oneToOneTables = .ok ts ↔ c.target.entity.primaryKeys ≠ [] ∧ c.linkDrafts = ts := by
  have hone : c.holder.cardinality.isMany = false := isMany_of_oneToOne hc c.link_faces
  have hties : c.tiesWeak = false := by simp [tiesWeak, hc]
  unfold oneToOneTables linkDrafts holderTable references
  rw [if_neg (by simpa using hopt), holderAndTarget_eq hc, hties, hone]
  simp only [bind_eq_ok, referenceColumns_eq_ok, pure, Except.pure, ← apply_ite (Except.ok),
    Except.ok.injEq, Bool.false_eq_true, if_false]
  constructor
  · rintro ⟨_, ⟨hk, rfl⟩, hts⟩
    exact ⟨hk, hts⟩
  · rintro ⟨hk, hts⟩
    exact ⟨_, ⟨hk, rfl⟩, hts⟩

theorem manyToManyTables_eq_ok {c : ClassifiedRelation} {ts : List Table} :
    c.manyToManyTables = .ok ts ↔ (c.side1.entity.primaryKeys ≠ [] ∧
      c.side2.entity.primaryKeys ≠ []) ∧ c.junctionDrafts = ts := by
  unfold manyToManyTables junctionKeys junctionDrafts junctionTable junctionColumns
  simp only [bind_eq_ok, referenceColumns_eq_ok, pure, Except.pure, ← apply_ite (Except.ok),
    Except.ok.injEq]
  constructor
  · rintro ⟨_, ⟨h1, rfl⟩, _, ⟨h2, rfl⟩, hts⟩
    exact ⟨⟨h1, h2⟩, hts⟩
  · rintro ⟨⟨h1, h2⟩, hts⟩
    exact ⟨_, ⟨h1, rfl⟩, _, ⟨h2, rfl⟩, hts⟩

end ClassifiedRelation

namespace Diagram.Resolves

variable {d : Diagram} {r : Relation} {c : ClassifiedRelation}

/-- A reflexive relation has one entity on both sides, and not only one id. -/
theorem isReflexive_iff (hr : d.Resolves r c) :
    c.isReflexive = true ↔ c.side1.entity = c.side2.entity := by
  unfold ClassifiedRelation.isReflexive
  rw [decide_eq_true_eq]
  exact ⟨hr.entity_eq_of_id (Or.inl ⟨rfl, rfl⟩), congrArg Entity.id⟩

theorem holder_eq_target_iff (hr : d.Resolves r c) :
    c.holder.entity = c.target.entity ↔ c.isReflexive = true := by
  rw [hr.isReflexive_iff]
  rcases c.link_faces with ⟨hs, ht⟩ | ⟨hs, ht⟩
  · rw [hs, ht]
  · rw [hs, ht, eq_comm]

end Diagram.Resolves

/-! ## Owners -/

/-- An owner, the relation by which it owns a weak entity, and that entity. -/
structure Diagram.Owns (d : Diagram) (owner : Entity) (r : Relation) (e : Entity) : Prop where
  weak : e ∈ d.weakEntities
  strong : owner ∈ d.strongEntities
  only : d.relations.filter (·.touches e.id) = [r]
  identifying : r.isIdentifying = true
  across : (Index.ofDiagram d).entity? (r.sideAcross e.id).entity = some owner

/-- The columns of the discriminants. -/
def Entity.discriminantColumns (e : Entity) : List Column :=
  e.discriminants.map fun a => { name := a.name, key := true, notNull := true }

/-- The columns by which a weak entity refers to its owner. -/
def Entity.ownerColumns (owner : Entity) (r : Relation) : List Column :=
  owner.primaryKeys.map fun a =>
    { name := relationColumnName a r.name
      key := true
      notNull := true
      foreignKey := some owner.name }

/-- The table of a weak entity. -/
def Entity.weakTable (e : Entity) (r : Relation) (owner : Entity) : Table :=
  ⟨e.name, owner.ownerColumns r ++ e.discriminantColumns
    ++ (e.attributes.filter (!·.discriminant)).map fun a => { name := a.name }⟩

namespace Diagram.WellFormed

variable {d : Diagram}

theorem key_ne_nil (h : d.WellFormed) {e : Entity} (he : e ∈ d.strongEntities) :
    e.primaryKeys ≠ [] := by
  obtain ⟨a, ha⟩ := h.key_of_strong e he
  rw [ha]
  exact List.cons_ne_nil a []

/-- What a holder refers to is a strong entity. -/
theorem target_strong (h : d.WellFormed) {r : Relation} {c : ClassifiedRelation}
    (hr : d.Resolves r c) (hc : c.relationClass ≠ .manyToMany) :
    c.target.entity ∈ d.strongEntities :=
  h.strong_of_not_many hr c.link_faces.symm (ClassifiedRelation.target_not_many hc)

/-- **Every weak entity has an owner.** -/
theorem exists_owner (h : d.WellFormed) {e : Entity} (he : e ∈ d.weakEntities) :
    ∃ owner r, d.Owns owner r e := by
  obtain ⟨r, hr, hid, hacross⟩ := h.tied_of_weak e he
  have hmem : r ∈ d.relations := by
    have hr' : r ∈ d.relations.filter (·.touches e.id) := by rw [hr]; exact List.mem_cons_self
    exact (List.mem_filter.mp hr').1
  obtain ⟨c, hc⟩ := h.resolves r hmem
  -- whichever side is across, the relation resolves it
  have hside : ∃ owner, (Index.ofDiagram d).entity? (r.sideAcross e.id).entity = some owner := by
    unfold Relation.sideAcross
    split
    · exact ⟨_, hc.side2.1⟩
    · exact ⟨_, hc.side1.1⟩
  obtain ⟨owner, ho⟩ := hside
  have hstrong : owner.isWeak = false := by
    unfold Index.isWeak at hacross
    rw [ho] at hacross
    simpa using hacross
  exact ⟨owner, r, he, mem_strongEntities.mpr ⟨(Index.mem_of_entity? ho).1, hstrong⟩, hr, hid, ho⟩

end Diagram.WellFormed

namespace Diagram.Owns

variable {d : Diagram} {owner : Entity} {r : Relation} {e : Entity}

theorem mem (h : d.Owns owner r e) : r ∈ d.relations ∧ r.touches e.id = true := by
  have hr : r ∈ d.relations.filter (·.touches e.id) := by rw [h.only]; exact List.mem_cons_self
  exact List.mem_filter.mp hr

theorem unique {owner' : Entity} {r' : Relation} (h : d.Owns owner r e)
    (h' : d.Owns owner' r' e) : owner = owner' ∧ r = r' := by
  have hr : r = r' := by
    have := h.only.symm.trans h'.only
    simpa using this
  subst hr
  exact ⟨Option.some.inj (h.across.symm.trans h'.across), rfl⟩

theorem identifyingRelationsOf_eq (h : d.Owns owner r e) :
    (Index.ofDiagram d).identifyingRelationsOf e.id = [r] := by
  rw [Index.identifyingRelationsOf_ofDiagram, h.only]
  simp [h.identifying]

/-- **The rule for a weak entity does not fail** and gives its one table. -/
theorem tables_eq (h : d.Owns owner r e) (hk : owner.primaryKeys ≠ []) :
    weakEntityTables (Index.ofDiagram d) e = .ok [e.weakTable r owner] := by
  unfold weakEntityTables Entity.weakTable Entity.ownerColumns Entity.discriminantColumns
  rw [h.identifyingRelationsOf_eq]
  simp only [List.head?_cons]
  rw [h.across]
  simp only
  rw [referenceColumns_eq_ok.mpr ⟨hk, rfl⟩]
  rfl

end Diagram.Owns

/-- A weak entity and its owner are the sides of the relation between them. -/
theorem Diagram.WellFormed.face_of_owns {d : Diagram} (h : d.WellFormed) {owner : Entity}
    {r : Relation} {e : Entity} (ho : d.Owns owner r e) :
    ∃ c s t, d.Resolves r c ∧ c.Faces s t ∧ s.entity.id = e.id ∧ t.entity = owner := by
  obtain ⟨hmem, htouch⟩ := ho.mem
  obtain ⟨c, hc⟩ := h.resolves r hmem
  have hid1 := (Index.mem_of_entity? hc.side1.1).2
  have hid2 := (Index.mem_of_entity? hc.side2.1).2
  have hside : ∃ s t, c.Faces s t ∧ s.entity.id = e.id := by
    simp only [Relation.touches, Bool.or_eq_true, decide_eq_true_eq] at htouch
    rcases htouch with ht | ht
    · exact ⟨c.side1, c.side2, Or.inl ⟨rfl, rfl⟩, hid1.trans ht⟩
    · exact ⟨c.side2, c.side1, Or.inr ⟨rfl, rfl⟩, hid2.trans ht⟩
  obtain ⟨s, t, hf, hid⟩ := hside
  have hacross := hc.across hf
  rw [hid, ho.across] at hacross
  exact ⟨c, s, t, hc, hf, hid, (Option.some.inj hacross).symm⟩

/-! ## All drafts -/

/-- **The rule for a relation does not fail**, whatever its class. -/
theorem Diagram.Resolves.tables_eq {d : Diagram} {r : Relation} {c : ClassifiedRelation}
    (hr : d.Resolves r c) (h : d.WellFormed) :
    (Classified.relation c).tables (Index.ofDiagram d) = .ok c.drafts := by
  have hoptional := h.optional r c hr
  cases hc : c.relationClass with
  | oneToOne =>
    have htarget := h.target_strong hr (by rw [hc]; simp)
    have h1 := ClassifiedRelation.isMany_of_oneToOne hc (Or.inl ⟨rfl, rfl⟩)
    have h2 := ClassifiedRelation.isMany_of_oneToOne hc (Or.inr ⟨rfl, rfl⟩)
    simp only [Classified.tables, ClassifiedRelation.drafts, hc, reduceCtorEq, if_false]
    refine (ClassifiedRelation.oneToOneTables_eq_ok hc fun hm => hoptional ?_).mpr
      ⟨h.key_ne_nil htarget, rfl⟩
    simp [Cardinality.isExactlyOne, h1, h2, hm]
  | oneToMany =>
    have htarget := h.target_strong hr (by rw [hc]; simp)
    simp only [Classified.tables, ClassifiedRelation.drafts, hc, reduceCtorEq, if_false]
    exact (ClassifiedRelation.oneToManyTables_eq_ok hc).mpr ⟨h.key_ne_nil htarget, rfl⟩
  | manyToMany =>
    simp only [Classified.tables, ClassifiedRelation.drafts, hc, if_true]
    exact ClassifiedRelation.manyToManyTables_eq_ok.mpr
      ⟨⟨h.key_ne_nil (h.strong_of_manyToMany hr hc (Or.inl ⟨rfl, rfl⟩)),
        h.key_ne_nil (h.strong_of_manyToMany hr hc (Or.inr ⟨rfl, rfl⟩))⟩, rfl⟩

namespace Diagram

/-- The resolved relations of a diagram, where all of them resolve. -/
def resolved (d : Diagram) : List ClassifiedRelation :=
  (d.relations.mapM (resolveRelation (Index.ofDiagram d))).toOption.getD []

/-- The drafts of an entity that stands next to the relations. -/
def ownDrafts (d : Diagram) (e : Entity) : List Table :=
  ((Classified.entity e).tables (Index.ofDiagram d)).toOption.getD []

namespace WellFormed

variable {d : Diagram}

theorem mapM_resolve (h : d.WellFormed) :
    d.relations.mapM (resolveRelation (Index.ofDiagram d)) = .ok d.resolved := by
  obtain ⟨cs, hcs⟩ := exists_mapM_eq_ok (f := resolveRelation (Index.ofDiagram d))
    fun r (hr : r ∈ d.relations) => (h.resolves r hr).imp fun _ hc => hc.resolved
  unfold resolved
  rw [hcs]
  rfl

/-- The resolved relations are those of the diagram, one by one. -/
theorem forall₂_resolved (h : d.WellFormed) : List.Forall₂ d.Resolves d.relations d.resolved :=
  mapM_resolve_eq_ok.mp h.mapM_resolve

theorem mem_resolved (h : d.WellFormed) {c : ClassifiedRelation} :
    c ∈ d.resolved ↔ ∃ r, d.Resolves r c := by
  have hmap := mapM_eq_ok.mp h.mapM_resolve
  have hiff : c ∈ d.resolved ↔ Except.ok c ∈ d.resolved.map (Except.ok (ε := CompileError)) := by
    simp
  rw [hiff, ← hmap, List.mem_map]
  constructor
  · rintro ⟨r, hr, hc⟩
    exact ⟨r, hr, hc⟩
  · rintro ⟨r, hr, hc⟩
    exact ⟨r, hr, hc⟩

theorem ownDrafts_strong {e : Entity} (he : e.isWeak = false) : d.ownDrafts e = [e.table] := by
  simp [ownDrafts, Classified.tables, he, Except.toOption]

theorem ownDrafts_weak (h : d.WellFormed) {owner : Entity} {r : Relation} {e : Entity}
    (ho : d.Owns owner r e) : d.ownDrafts e = [e.weakTable r owner] := by
  have hw := (mem_weakEntities.mp ho.weak).2
  simp [ownDrafts, Classified.tables, hw, ho.tables_eq (h.key_ne_nil ho.strong), Except.toOption]

theorem entity_tables_eq (h : d.WellFormed) {e : Entity} (he : e ∈ d.entities) :
    (Classified.entity e).tables (Index.ofDiagram d) = .ok (d.ownDrafts e) := by
  cases hw : e.isWeak with
  | false => simp [ownDrafts_strong hw, Classified.tables, hw]
  | true =>
    obtain ⟨owner, r, ho⟩ := h.exists_owner (mem_weakEntities.mpr ⟨he, hw⟩)
    rw [h.ownDrafts_weak ho, ← ho.tables_eq (h.key_ne_nil ho.strong)]
    simp [Classified.tables, hw]

/-- The records of a diagram that is well formed. -/
theorem classify_eq (h : d.WellFormed) :
    d.classify = .ok (d.resolved.map .relation
      ++ (remainingEntities d.resolved d.entities).map .entity) := by
  unfold classify ErSchema.classify
  rw [h.mapM_resolve]
  rfl

/-- **No rule fails on a record of a well-formed diagram.** -/
theorem tables_ok (h : d.WellFormed) {records : List Classified}
    (hrecords : d.classify = .ok records) :
    ∀ x ∈ records, ∃ ts, x.tables (Index.ofDiagram d) = .ok ts := by
  rw [h.classify_eq] at hrecords
  cases hrecords
  intro x hx
  rcases List.mem_append.mp hx with hx | hx
  · obtain ⟨c, hc, rfl⟩ := List.mem_map.mp hx
    obtain ⟨r, hr⟩ := h.mem_resolved.mp hc
    exact ⟨_, hr.tables_eq h⟩
  · obtain ⟨e, he, rfl⟩ := List.mem_map.mp hx
    exact ⟨_, h.entity_tables_eq (List.mem_filter.mp he).1⟩

theorem draftsTo (h : d.WellFormed) :
    d.DraftsTo d.resolved (d.resolved.map (·.drafts))
      ((remainingEntities d.resolved d.entities).map d.ownDrafts) where
  resolved := h.forall₂_resolved
  relation_tables := by
    refine List.forall₂_map_right_iff.mpr (List.forall₂_same.mpr fun c hc => ?_)
    obtain ⟨r, hr⟩ := h.mem_resolved.mp hc
    exact hr.tables_eq h
  entity_tables :=
    List.forall₂_map_right_iff.mpr (List.forall₂_same.mpr fun _ he =>
      h.entity_tables_eq (List.mem_filter.mp he).1)

/-- **The drafts of a well-formed diagram**: those of its relations, then those of the entities that
stand next to them. -/
theorem drafts_eq (h : d.WellFormed) :
    d.drafts = .ok (d.resolved.flatMap (·.drafts)
      ++ (remainingEntities d.resolved d.entities).flatMap d.ownDrafts) :=
  drafts_eq_ok.mpr ⟨_, _, _, h.draftsTo, by rw [List.flatMap_def, List.flatMap_def]⟩

end WellFormed

end Diagram

end ErSchema
