import ErSchema.Proofs.Schema.Gate
import ErSchema.Proofs.Schema.Taken

/-!
# Counting references

Each relation offers references: two in a junction table, one in the table of a holder, and none if
it ties a weak entity, since the table of that entity has the reference. Junction tables and tables
of weak entities keep what they are offered. The table of a strong entity loses a reference whose
name is taken when it comes, so what is kept and what is lost add up to what is offered.

* `countP_addedFrom_relations`, `countP_addedFrom_entities`: the accounts of both kinds of records.
* `countP_tiesWeak_le`: weak entities make up for the relations that tie them.
* `foreignKeys_count`: the foreign keys of a valid diagram.
-/

namespace ErSchema

/-! ## Lost references -/

/-- The references that find their names taken behind some relations. -/
def lostBehind (before : List ClassifiedRelation) (c : ClassifiedRelation) : List Column :=
  if c.isLink then
    c.references.filter fun x => (takenNames before c.holder.entity).contains x.name
  else []

/-- The references of some relations that find their names taken, one relation after the other. -/
def lostFrom (before : List ClassifiedRelation) : List ClassifiedRelation → List Column
  | [] => []
  | c :: cs => lostBehind before c ++ lostFrom (before ++ [c]) cs

/-- The references of a diagram that are lost, in order. -/
def Diagram.lostReferences (d : Diagram) : List Column := lostFrom [] d.resolved

/-! ## Columns that are added -/

theorem countP_map_of_none {f : Attribute → Column} (hf : ∀ a, (f a).isForeignKey = false)
    (as : List Attribute) : (as.map f).countP (·.isForeignKey) = 0 := by
  rw [List.countP_eq_zero]
  intro x hx
  obtain ⟨a, -, rfl⟩ := List.mem_map.mp hx
  rw [hf a]
  simp

theorem countP_addedColumns_of_none {t : Table} (ht : ∀ x ∈ t.columns, x.isForeignKey = false)
    (before : List Table) : (addedColumns before t).countP (·.isForeignKey) = 0 := by
  rw [List.countP_eq_zero]
  intro x hx
  rw [ht x (List.mem_filter.mp hx).1]
  simp

theorem isForeignKey_of_mem_table {e : Entity} {x : Column} (hx : x ∈ e.table.columns) :
    x.isForeignKey = false := by
  obtain ⟨a, -, rfl⟩ := List.mem_map.mp hx
  rfl

theorem countP_addedFrom_tables (before : List Table) (es : List Entity) :
    (addedFrom before (es.map Entity.table)).countP (·.isForeignKey) = 0 := by
  induction es generalizing before with
  | nil => rfl
  | cons e es ih =>
    rw [List.map_cons, addedFrom, List.countP_append, ih,
      countP_addedColumns_of_none fun _ => isForeignKey_of_mem_table]

/-- **Of the references to a holder's table, those are added whose names are not taken.** -/
theorem countP_addedColumns_holderTable {before : List Table} {c : ClassifiedRelation}
    {taken : List String}
    (htaken : ∀ n, n ∈ draftedNames before c.holder.entity.name ↔ n ∈ taken) :
    (addedColumns before c.holderTable).countP (·.isForeignKey) +
      (c.references.filter fun x => taken.contains x.name).length = c.references.length := by
  have hcontains : ∀ x : Column,
      (!(draftedNames before c.holder.entity.name).contains x.name) = !taken.contains x.name := by
    intro x
    congr 1
    rw [Bool.eq_iff_iff, List.contains_iff_mem, List.contains_iff_mem, htaken]
  have hadded : addedColumns before c.holderTable =
      addedColumns before c.holder.entity.table ++
        c.references.filter fun x => !taken.contains x.name := by
    unfold addedColumns ClassifiedRelation.holderTable
    rw [List.filter_append]
    congr 1
    exact List.filter_congr fun x _ => hcontains x
  have hall : (c.references.filter fun x => !taken.contains x.name).countP (·.isForeignKey) =
      (c.references.filter fun x => !taken.contains x.name).length := by
    rw [List.countP_eq_length]
    intro x hx
    obtain ⟨a, -, rfl⟩ := List.mem_map.mp (List.mem_filter.mp hx).1
    rfl
  have hsplit := List.length_eq_length_filter_add (l := c.references)
    fun x => taken.contains x.name
  rw [hadded, List.countP_append, hall,
    countP_addedColumns_of_none fun _ => isForeignKey_of_mem_table]
  omega

/-! ## The account of relations -/

namespace Diagram

variable {d : Diagram}

namespace WellFormed

theorem length_references (h : d.WellFormed) {r : Relation} {c : ClassifiedRelation}
    (hr : d.Resolves r c) (hc : c.relationClass ≠ .manyToMany) : c.references.length = 1 := by
  obtain ⟨a, ha⟩ := h.key_of_strong _ (h.target_strong hr hc)
  unfold ClassifiedRelation.references
  rw [ha]
  rfl

theorem countP_junctionTable (h : d.WellFormed) {r : Relation} {c : ClassifiedRelation}
    (hr : d.Resolves r c) (hc : c.relationClass = .manyToMany) :
    c.junctionTable.columns.countP (·.isForeignKey) = 2 := by
  obtain ⟨a, ha⟩ := h.key_of_strong _ (h.strong_of_manyToMany hr hc (Or.inl ⟨rfl, rfl⟩))
  obtain ⟨b, hb⟩ := h.key_of_strong _ (h.strong_of_manyToMany hr hc (Or.inr ⟨rfl, rfl⟩))
  have hown := countP_map_of_none (f := fun a => { name := a.name }) (fun _ => rfl) c.attributes
  unfold ClassifiedRelation.junctionTable ClassifiedRelation.junctionColumns
  rw [ha, hb, List.countP_append, hown]
  rfl

/-- A junction table is drafted once. -/
theorem junction_absent (h : d.WellFormed) {before : List ClassifiedRelation}
    (hb : ∀ c ∈ before, ∃ r, d.Resolves r c) {r : Relation} {c : ClassifiedRelation}
    (hr : d.Resolves r c) (hfresh : c.name ∉ before.map (·.name)) {es : List Entity}
    (hes : ∀ e ∈ es, e ∈ d.entities) :
    c.junctionTable.name ∉ tableNames (before.flatMap (·.drafts) ++ es.map Entity.table) := by
  intro hmem
  obtain ⟨t, ht, hn⟩ := List.mem_map.mp hmem
  have hname : t.name = r.name := hn.trans hr.name
  rcases List.mem_append.mp ht with ht | ht
  · obtain ⟨b, hbm, htb⟩ := List.mem_flatMap.mp ht
    obtain ⟨r', hr'⟩ := hb b hbm
    rcases h.name_of_mem_drafts hr' htb with hb' | ⟨e, he, hte⟩
    · exact hfresh (List.mem_map.mpr ⟨b, hbm, hb'.symm.trans hn⟩)
    · exact h.entity_name_ne (mem_strongEntities.mp he).1 hr.mem (hte.symm.trans hname)
  · obtain ⟨e, he, rfl⟩ := List.mem_map.mp ht
    exact h.entity_name_ne (hes e he) hr.mem hname

/-- **The account of one relation**: what it adds and what it loses is what it offers. -/
theorem countP_addedFrom_relation (h : d.WellFormed) {before : List ClassifiedRelation}
    (hb : ∀ c ∈ before, ∃ r, d.Resolves r c) {r : Relation} {c : ClassifiedRelation}
    (hr : d.Resolves r c) (hfresh : c.name ∉ before.map (·.name)) :
    (addedFrom (before.flatMap (·.drafts)) c.drafts).countP (·.isForeignKey) +
      (lostBehind before c).length =
        (if c.isLink then 1 else 0) + 2 * (if c.relationClass = .manyToMany then 1 else 0) := by
  unfold lostBehind
  rcases h.drafts_cases hr with ⟨hc, es, heq, hes⟩ | ⟨hc, hs, es, heq, hes⟩ | ⟨hc, hties, heq⟩
  · have hlink : c.isLink = false := by simp [ClassifiedRelation.isLink, hc]
    have habsent := h.junction_absent hb hr hfresh fun e (he : e ∈ es) =>
      (mem_strongEntities.mp (h.strong_of_involves hr hc ((hes e).mp he))).1
    rw [heq, addedFrom_append, List.countP_append, countP_addedFrom_tables, hlink]
    simp only [addedFrom, List.append_nil, addedColumns_of_absent habsent,
      h.countP_junctionTable hr hc, hc]
    rfl
  · have hlink := ClassifiedRelation.isLink_of_strong hc (mem_strongEntities.mp hs).2
    have hnames : ∀ n, n ∈ draftedNames (before.flatMap (·.drafts) ++ es.map Entity.table)
        c.holder.entity.name ↔ n ∈ takenNames before c.holder.entity := by
      intro n
      have hnone : c.holder.entity.name ∉ tableNames (es.map Entity.table) := by
        intro hmem
        obtain ⟨t, ht, hn⟩ := List.mem_map.mp hmem
        obtain ⟨e, he, rfl⟩ := List.mem_map.mp ht
        obtain ⟨rfl, hne⟩ := (hes e).mp he
        exact hne (h.entity_eq_of_name (hr.face c.link_faces.symm).1 (hr.face c.link_faces).1 hn)
      rw [draftedNames_append, draftedNames_of_absent hnone, List.append_nil,
        h.mem_draftedNames_relations hb hs]
    have hadded := countP_addedColumns_holderTable hnames
    rw [h.length_references hr hc] at hadded
    rw [heq, addedFrom_append, List.countP_append, countP_addedFrom_tables, hlink]
    simp only [addedFrom, List.append_nil, hc, if_true, if_false]
    omega
  · have hlink : c.isLink = false := by simp [ClassifiedRelation.isLink, hties]
    have hone : c.drafts = [c.target.entity].map Entity.table := heq
    rw [hone, countP_addedFrom_tables, hlink]
    simp [hc]

/-- **The account of relations, one after the other.** -/
theorem countP_addedFrom_relations (h : d.WellFormed) (before cs : List ClassifiedRelation)
    (hres : ∀ c ∈ before ++ cs, ∃ r, d.Resolves r c)
    (hnames : ((before ++ cs).map (·.name)).Nodup) :
    (addedFrom (before.flatMap (·.drafts)) (cs.flatMap (·.drafts))).countP (·.isForeignKey) +
      (lostFrom before cs).length =
        cs.countP (·.isLink) + 2 * cs.countP (·.relationClass = .manyToMany) := by
  induction cs generalizing before with
  | nil => rfl
  | cons c cs ih =>
    obtain ⟨r, hr⟩ := hres c (List.mem_append_right _ List.mem_cons_self)
    have hb : ∀ b ∈ before, ∃ r, d.Resolves r b := fun b hb => hres b (List.mem_append_left _ hb)
    have hfresh : c.name ∉ before.map (·.name) := by
      rw [List.map_append, List.map_cons, List.nodup_append] at hnames
      exact fun hmem => hnames.2.2 _ hmem _ List.mem_cons_self rfl
    have hstep := h.countP_addedFrom_relation hb hr hfresh
    rw [List.append_cons] at hres hnames
    have hrest := ih (before ++ [c]) hres hnames
    rw [List.flatMap_append, List.flatMap_singleton] at hrest
    rw [List.flatMap_cons, addedFrom_append, List.countP_append, lostFrom, List.length_append]
    simp only [List.countP_cons, decide_eq_true_eq]
    omega

/-! ## The account of entities -/

/-- The table of an entity by itself: a weak one has one reference, a strong one has none. -/
theorem exists_ownDrafts (h : d.WellFormed) {e : Entity} (he : e ∈ d.entities) :
    ∃ t, d.ownDrafts e = [t] ∧ t.name = e.name ∧
      t.columns.countP (·.isForeignKey) = if e.isWeak then 1 else 0 := by
  cases hw : e.isWeak with
  | false =>
    refine ⟨e.table, ownDrafts_strong hw, rfl, ?_⟩
    exact countP_map_of_none (fun _ => rfl) e.attributes
  | true =>
    obtain ⟨owner, r, ho⟩ := h.exists_owner (mem_weakEntities.mpr ⟨he, hw⟩)
    obtain ⟨a, ha⟩ := h.key_of_strong owner ho.strong
    refine ⟨e.weakTable r owner, h.ownDrafts_weak ho, rfl, ?_⟩
    have hkeys : e.discriminantColumns.countP (·.isForeignKey) = 0 :=
      countP_map_of_none (fun _ => rfl) e.discriminants
    have hothers := countP_map_of_none (f := fun a => { name := a.name }) (fun _ => rfl)
      (e.attributes.filter (!·.discriminant))
    unfold Entity.weakTable Entity.ownerColumns
    rw [ha, List.countP_append, List.countP_append, hkeys, hothers]
    rfl

/-- **The account of entities**: weak ones are drafted once and keep their reference. -/
theorem countP_addedFrom_entities (h : d.WellFormed) (before : List Table) (es : List Entity)
    (hes : ∀ e ∈ es, e ∈ d.entities) (hnames : (es.map (·.name)).Nodup)
    (hfresh : ∀ e ∈ es, e.isWeak = true → e.name ∉ tableNames before) :
    (addedFrom before (es.flatMap d.ownDrafts)).countP (·.isForeignKey) =
      es.countP (·.isWeak) := by
  induction es generalizing before with
  | nil => rfl
  | cons e es ih =>
    obtain ⟨t, ht, hn, hcount⟩ := h.exists_ownDrafts (hes e List.mem_cons_self)
    obtain ⟨hne, hnames⟩ := List.nodup_cons.mp hnames
    have hrest := ih (before ++ [t]) (fun x hx => hes x (List.mem_cons_of_mem e hx))
      hnames fun x hx hw hmem => by
        unfold tableNames at hmem
        rw [List.map_append, List.mem_append, List.map_singleton, List.mem_singleton, hn] at hmem
        rcases hmem with hmem | heq
        · exact hfresh x (List.mem_cons_of_mem e hx) hw hmem
        · exact hne (List.mem_map.mpr ⟨x, hx, heq⟩)
    have hadded : (addedColumns before t).countP (·.isForeignKey) = if e.isWeak then 1 else 0 := by
      by_cases hw : e.isWeak = true
      · rw [addedColumns_of_absent (hn ▸ hfresh e List.mem_cons_self hw), hcount]
      · rw [if_neg hw] at hcount ⊢
        refine countP_addedColumns_of_none (fun x hx => ?_) before
        simpa using List.countP_eq_zero.mp hcount x hx
    rw [List.flatMap_cons, ht, List.singleton_append, addedFrom, List.countP_append, hadded, hrest,
      List.countP_cons, Nat.add_comm]

/-- No relation drafts the table of a weak entity. -/
theorem weak_absent (h : d.WellFormed) {e : Entity} (he : e ∈ d.weakEntities) :
    e.name ∉ tableNames (d.resolved.flatMap (·.drafts)) := by
  obtain ⟨hmem, hw⟩ := mem_weakEntities.mp he
  intro hname
  obtain ⟨t, ht, hn⟩ := List.mem_map.mp hname
  obtain ⟨c, hc, htc⟩ := List.mem_flatMap.mp ht
  obtain ⟨r, hr⟩ := h.mem_resolved.mp hc
  rcases h.name_of_mem_drafts hr htc with heq | ⟨e', he', heq⟩
  · exact h.entity_name_ne hmem hr.mem (hn.symm.trans (heq.trans hr.name))
  · obtain ⟨hmem', hs⟩ := mem_strongEntities.mp he'
    rw [h.entity_eq_of_name hmem hmem' (hn.symm.trans heq), hs] at hw
    exact absurd hw (by simp)

/-! ## Totals -/

theorem names_resolved (h : d.WellFormed) :
    d.resolved.map (·.name) = d.relations.map (·.name) := by
  rw [map_eq_iff_forall₂]
  exact h.forall₂_resolved.flip.imp fun _ _ hr => hr.name

/-- **What is kept and what is lost adds up to what is offered.** -/
theorem countP_merged (h : d.WellFormed) {drafts : List Table} (hd : d.drafts = .ok drafts) :
    ((mergeDrafts drafts).flatMap (·.columns)).countP (·.isForeignKey) + d.lostReferences.length =
      d.resolved.countP (·.isLink) + 2 * d.resolved.countP (·.relationClass = .manyToMany) +
        d.weakEntities.length := by
  have hnames := List.nodup_append.mp h.names_nodup
  have hrelations := h.countP_addedFrom_relations [] d.resolved
    (fun c hc => h.mem_resolved.mp hc) (by rw [List.nil_append, h.names_resolved]; exact hnames.2.1)
  have hentities := h.countP_addedFrom_entities (d.resolved.flatMap (·.drafts))
    (remainingEntities d.resolved d.entities) (fun e he => (List.mem_filter.mp he).1)
    (hnames.1.sublist (List.filter_sublist.map _)) fun e he hw =>
      h.weak_absent (mem_weakEntities.mpr ⟨(List.mem_filter.mp he).1, hw⟩)
  have hweak : (remainingEntities d.resolved d.entities).countP (·.isWeak) =
      d.weakEntities.length := by
    unfold remainingEntities weakEntities
    rw [List.countP_filter, ← List.countP_eq_length_filter]
    refine List.countP_congr fun e _ => ?_
    cases e.isWeak <;> simp
  rw [h.drafts_eq] at hd
  cases hd
  rw [(columns_mergeDrafts_perm _).countP_eq, addedFrom_append, List.countP_append,
    List.nil_append, hentities, hweak, ← hrelations]
  unfold lostReferences
  rw [List.flatMap_nil]
  omega

/-! ## Weak entities and the relations that tie them -/

theorem nodup_resolved (h : d.WellFormed) : d.resolved.Nodup := by
  refine List.Nodup.of_map (·.name) ?_
  rw [h.names_resolved]
  exact (List.nodup_append.mp h.names_nodup).2.1

/-- The weak entities that relations tie are distinct. -/
theorem nodup_tied (h : d.WellFormed) :
    ((d.resolved.filter (·.tiesWeak)).map (·.holder.entity)).Nodup := by
  refine List.Nodup.map_on (fun c hc c' hc' heq => ?_) (h.nodup_resolved.filter _)
  obtain ⟨hmem, hties⟩ := List.mem_filter.mp hc
  obtain ⟨hmem', -⟩ := List.mem_filter.mp hc'
  obtain ⟨r, hr⟩ := h.mem_resolved.mp hmem
  obtain ⟨r', hr'⟩ := h.mem_resolved.mp hmem'
  have hw := ClassifiedRelation.isWeak_of_tiesWeak hties
  -- both relations touch the weak entity, and only one relation does
  obtain ⟨he, -, htouch⟩ := hr.face c.link_faces
  obtain ⟨-, -, htouch'⟩ := hr'.face c'.link_faces
  obtain ⟨r₀, hr₀, -⟩ := h.tied_of_weak _ (mem_weakEntities.mpr ⟨he, hw⟩)
  have h1 : r ∈ [r₀] := hr₀ ▸ List.mem_filter.mpr ⟨hr.mem, htouch⟩
  have h2 : r' ∈ [r₀] := hr₀ ▸ List.mem_filter.mpr ⟨hr'.mem, by rw [heq]; exact htouch'⟩
  rw [List.mem_singleton.mp h1] at hr
  rw [List.mem_singleton.mp h2] at hr'
  exact hr.unique hr'

theorem tied_subset (h : d.WellFormed) :
    (d.resolved.filter (·.tiesWeak)).map (·.holder.entity) ⊆ d.weakEntities := by
  intro e he
  obtain ⟨c, hc, rfl⟩ := List.mem_map.mp he
  obtain ⟨hmem, hties⟩ := List.mem_filter.mp hc
  obtain ⟨r, hr⟩ := h.mem_resolved.mp hmem
  exact mem_weakEntities.mpr ⟨(hr.face c.link_faces).1, ClassifiedRelation.isWeak_of_tiesWeak hties⟩

/-- Where ids are distinct, each weak entity is tied by its relation. -/
theorem subset_tied (h : d.WellFormed) (hids : (d.entities.map (·.id)).Nodup) :
    d.weakEntities ⊆ (d.resolved.filter (·.tiesWeak)).map (·.holder.entity) := by
  intro e he
  obtain ⟨hmem, hw⟩ := mem_weakEntities.mp he
  obtain ⟨owner, r, ho⟩ := h.exists_owner he
  obtain ⟨c, s, t, hr, hf, hid, -⟩ := h.face_of_owns ho
  have hse : s.entity = e := List.inj_on_of_nodup_map hids (hr.face hf).1 hmem hid
  subst hse
  have hclass := h.oneToMany_of_weak hr hf hw
  rcases ClassifiedRelation.holder_or_target hf with rfl | rfl
  · exact List.mem_map.mpr ⟨c, List.mem_filter.mpr ⟨h.mem_resolved.mpr ⟨r, hr⟩,
      (h.tiesWeak_of_weak_holder hr hw).1⟩, rfl⟩
  · have hstrong := (mem_strongEntities.mp (h.target_strong hr (by rw [hclass]; simp))).2
    rw [hstrong] at hw
    exact absurd hw (by simp)

theorem countP_tiesWeak_le (h : d.WellFormed) :
    d.resolved.countP (·.tiesWeak) ≤ d.weakEntities.length := by
  have hle := h.nodup_tied.length_le_of_subset h.tied_subset
  rw [List.length_map, ← List.countP_eq_length_filter] at hle
  exact hle

theorem countP_tiesWeak_of_nodup (h : d.WellFormed) (hids : (d.entities.map (·.id)).Nodup) :
    d.resolved.countP (·.tiesWeak) = d.weakEntities.length := by
  have hnodup : d.weakEntities.Nodup := (List.Nodup.of_map _ hids).filter _
  have hle := hnodup.length_le_of_subset (h.subset_tied hids)
  rw [List.length_map, ← List.countP_eq_length_filter] at hle
  exact Nat.le_antisymm h.countP_tiesWeak_le hle

end WellFormed

/-! ## Relations by class -/

/-- The class of a relation of a diagram. -/
def class? (d : Diagram) (r : Relation) : Option RelationClass :=
  (resolveRelation (Index.ofDiagram d) r).toOption.map (·.relationClass)

/-- The relations of a class. -/
def relationsOfClass (d : Diagram) (k : RelationClass) : List Relation :=
  d.relations.filter (d.class? · = some k)

/-- The references that the relations of a diagram ask for: one for each of two ones or of one and
many, and two for each of two manys. -/
def askedReferences (d : Diagram) : Nat :=
  (d.relationsOfClass .oneToOne).length + (d.relationsOfClass .oneToMany).length +
    2 * (d.relationsOfClass .manyToMany).length

theorem WellFormed.length_relationsOfClass (h : d.WellFormed) (k : RelationClass) :
    (d.relationsOfClass k).length = d.resolved.countP (·.relationClass = k) := by
  have hclasses : d.relations.map d.class? = d.resolved.map (some ·.relationClass) := by
    rw [map_eq_iff_forall₂]
    refine h.forall₂_resolved.imp fun r c hr => ?_
    simp [class?, hr.resolved, Except.toOption]
  have hcount := congrArg (List.countP (· = some k)) hclasses
  rw [List.countP_map, List.countP_map, List.countP_eq_length_filter] at hcount
  exact hcount.trans (List.countP_congr fun c _ => by simp)

theorem WellFormed.askedReferences_eq (h : d.WellFormed) :
    d.askedReferences = d.resolved.countP (·.relationClass = .oneToOne) +
      d.resolved.countP (·.relationClass = .oneToMany) +
        2 * d.resolved.countP (·.relationClass = .manyToMany) := by
  unfold askedReferences
  rw [h.length_relationsOfClass, h.length_relationsOfClass, h.length_relationsOfClass]

/-- A relation that is not many-to-many is a link or ties a weak entity. -/
theorem countP_isLink (cs : List ClassifiedRelation) :
    cs.countP (·.isLink) + cs.countP (·.tiesWeak) =
      cs.countP (·.relationClass = .oneToOne) + cs.countP (·.relationClass = .oneToMany) := by
  induction cs with
  | nil => rfl
  | cons c cs ih =>
    have hc : (if c.isLink then 1 else 0) + (if c.tiesWeak then 1 else 0) =
        (if c.relationClass = .oneToOne then 1 else 0) +
          (if c.relationClass = .oneToMany then 1 else 0) := by
      unfold ClassifiedRelation.isLink
      cases hclass : c.relationClass with
      | oneToMany => cases c.tiesWeak <;> rfl
      | oneToOne => simp [ClassifiedRelation.tiesWeak, hclass]
      | manyToMany => simp [ClassifiedRelation.tiesWeak, hclass]
    simp only [List.countP_cons, decide_eq_true_eq]
    omega

theorem length_foreignKeys_sanitize (ts : List Table) :
    ((ts.map (·.sanitize)).flatMap (·.foreignKeys)).length =
      (ts.flatMap (·.columns)).countP (·.isForeignKey) := by
  induction ts with
  | nil => rfl
  | cons t ts ih =>
    have ht : t.sanitize.foreignKeys.length = t.columns.countP (·.isForeignKey) :=
      t.foreignKeys_sanitize.length_eq.symm.trans List.countP_eq_length_filter.symm
    rw [List.map_cons, List.flatMap_cons, List.flatMap_cons, List.length_append,
      List.countP_append, ih, ht]

/-- **The foreign keys of a valid diagram.** What is kept and what is lost are at least the
references that the relations ask for, and just as many where no two entities share an id. -/
theorem foreignKeys_count (hv : d.validate.isValid = true) :
    ∃ ts, d.deriveTables = .ok ts ∧
      d.askedReferences ≤ (ts.flatMap (·.foreignKeys)).length + d.lostReferences.length ∧
      ((d.entities.map (·.id)).Nodup →
        d.askedReferences = (ts.flatMap (·.foreignKeys)).length + d.lostReferences.length) := by
  have h := wellFormed_of_isValid hv
  obtain ⟨drafts, hd, hts⟩ := h.deriveTables_eq
  have hmerged := h.countP_merged hd
  have hlinks := countP_isLink d.resolved
  have hle := h.countP_tiesWeak_le
  refine ⟨_, hts, ?_, fun hids => ?_⟩
  · rw [h.askedReferences_eq, length_foreignKeys_sanitize]
    omega
  · have heq := h.countP_tiesWeak_of_nodup hids
    rw [h.askedReferences_eq, length_foreignKeys_sanitize]
    omega

theorem shop_foreignKeys :
    ∃ ts, shop.deriveTables = .ok ts ∧
      shop.askedReferences ≤ (ts.flatMap (·.foreignKeys)).length + shop.lostReferences.length ∧
      ((shop.entities.map (·.id)).Nodup →
        shop.askedReferences =
          (ts.flatMap (·.foreignKeys)).length + shop.lostReferences.length) :=
  foreignKeys_count (by decide +kernel)

/-- Two relations between the same entities, the later under a name that an attribute of the holder
foretells. -/
def clash : Diagram where
  entities := [
    ⟨"a", "A", false, [.ofKey "id"]⟩,
    ⟨"b", "B", false, [.ofKey "id", .ofName "id_R"]⟩]
  relations := [
    ⟨"s", "S", ⟨"a", "0:1"⟩, ⟨"b", "0:N"⟩, false, false, []⟩,
    ⟨"r", "R", ⟨"a", "0:1"⟩, ⟨"b", "0:N"⟩, false, false, []⟩]

/-- **References can be lost**, on a valid diagram. -/
theorem clash_loses :
    clash.validate.isValid = true ∧ ∃ ts, clash.deriveTables = .ok ts ∧
      (ts.flatMap (·.foreignKeys)).length < clash.askedReferences := by
  have hvalid : clash.validate.isValid = true := by decide +kernel
  have hcount : clash.deriveTables.toOption.map (fun ts => (ts.flatMap (·.foreignKeys)).length) =
      some 1 := by decide +kernel
  have hasked : clash.askedReferences = 2 := by decide +kernel
  refine ⟨hvalid, ?_⟩
  cases hts : clash.deriveTables with
  | error e =>
    rw [hts] at hcount
    exact absurd hcount (by simp [Except.toOption])
  | ok ts =>
    rw [hts] at hcount
    have hone : (ts.flatMap (·.foreignKeys)).length = 1 := Option.some.inj hcount
    exact ⟨ts, rfl, by omega⟩

end Diagram

end ErSchema
