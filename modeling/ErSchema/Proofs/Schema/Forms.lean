import ErSchema.Proofs.Schema.Drafts
import ErSchema.Proofs.Table.Naming

/-!
# The forms of merged tables

Drafts of one name come from many relations, but on a well-formed diagram their names tell them
apart: every draft, and every table after merging, is that of a strong entity with references behind
its attributes, a junction table, or the table of a weak entity. Merging adds references to the
first kind and nothing to the other two.

* `drafts_cases`: all that a relation drafts, the one place where its rules are opened.
* `Form.strong_of_name`, `Form.junction_of_name`, `Form.weak_of_name`: the name gives the form.
* `form_of_mem_drafts`, `form_of_mem_merged`: every draft and every merged table has a form.
* `Form.columnOf`, `RefersFor.exists_face`: what a column of a table is and what a reference says.
* `Form.refersTo`, `exists_merged_of_face`: a column refers to a strong entity on a side of a
  relation, and each of these has a table.
* `keyColumns_strong`, `keyColumns_junctionTable`, `keyColumns_weakTable`: the key of each form.
* `key_sanitize_strong`: the key of a strong entity stays a single column.
-/

namespace ErSchema

namespace Diagram

variable {d : Diagram}

/-! ## Forms -/

/-- A column by which the table of an entity refers on behalf of a relation. -/
def Refers (d : Diagram) (e : Entity) (x : Column) : Prop :=
  ∃ r c, d.Resolves r c ∧ c.relationClass ≠ .manyToMany ∧ c.holder.entity = e ∧ x ∈ c.references

/-- **What a table of a well-formed diagram is.** -/
inductive Form (d : Diagram) : Table → Prop
  | strong (e : Entity) (refs : List Column) (he : e ∈ d.strongEntities)
      (hrefs : ∀ x ∈ refs, d.Refers e x) : Form d ⟨e.name, e.table.columns ++ refs⟩
  | junction (r : Relation) (c : ClassifiedRelation) (hr : d.Resolves r c)
      (hc : c.relationClass = .manyToMany) : Form d c.junctionTable
  | weak (owner : Entity) (r : Relation) (e : Entity) (ho : d.Owns owner r e) :
      Form d (e.weakTable r owner)

/-- **How a column of a table refers on behalf of a relation**: from the table of the holder, from
the junction table, or from the table of a weak entity. -/
inductive RefersFor (d : Diagram) (r : Relation) (t : Table) (x : Column) : Prop
  | link (c : ClassifiedRelation) (hr : d.Resolves r c) (hc : c.relationClass ≠ .manyToMany)
      (hs : c.holder.entity ∈ d.strongEntities) (ht : t.name = c.holder.entity.name)
      (hx : x ∈ c.references)
  | junction (c : ClassifiedRelation) (s u : ClassifiedSide) (position : Nat)
      (hr : d.Resolves r c) (hc : c.relationClass = .manyToMany) (ht : t = c.junctionTable)
      (hf : c.Faces s u) (hx : x ∈ c.junctionColumns s position)
  | tie (owner e : Entity) (ho : d.Owns owner r e) (ht : t.name = e.name)
      (hx : x ∈ owner.ownerColumns r)

/-- **What a column of a table is**: that of an attribute of the entity or the relation for which
the table is named, or a reference on behalf of a relation. -/
inductive ColumnOf (d : Diagram) (t : Table) (x : Column) : Prop
  | entity (e : Entity) (a : Attribute) (he : e ∈ d.entities) (ht : t.name = e.name)
      (ha : a ∈ e.attributes) (hx : x.name = a.name) (hnone : x.foreignKey = none)
  | relation (r : Relation) (c : ClassifiedRelation) (a : Attribute) (hr : d.Resolves r c)
      (hc : c.relationClass = .manyToMany) (ht : t.name = r.name) (ha : a ∈ r.attributes)
      (hx : x.name = a.name) (hnone : x.foreignKey = none)
  | reference (r : Relation) (hx : d.RefersFor r t x)

theorem Form.table {e : Entity} (he : e ∈ d.strongEntities) : d.Form e.table := by
  have h := Form.strong e [] he fun _ hx => absurd hx List.not_mem_nil
  rw [List.append_nil] at h
  exact h

/-- Absorbing a draft of an entity with references adds some of these references. -/
theorem absorb_strong (e : Entity) (refs more : List Column) :
    ∃ kept : List Column, kept.Sublist more ∧
      (⟨e.name, e.table.columns ++ refs⟩ : Table).absorb (e.table.columns ++ more) =
        ⟨e.name, e.table.columns ++ (refs ++ kept)⟩ := by
  refine ⟨more.filter fun c => !(e.table.columns ++ refs).any (·.name = c.name),
    List.filter_sublist, ?_⟩
  have hknown : e.table.columns.filter
      (fun c => !(e.table.columns ++ refs).any (·.name = c.name)) = [] := by
    rw [List.filter_eq_nil_iff]
    intro c hc
    have hany : (e.table.columns ++ refs).any (·.name = c.name) = true :=
      List.any_eq_true.mpr ⟨c, List.mem_append_left _ hc, by simp⟩
    simp [hany]
  rw [Table.absorb, List.filter_append, hknown, List.nil_append, List.append_assoc]

namespace Form

/-! ## Forms by name -/

/-- **A table named for a strong entity** is the table of that entity with references. -/
theorem strong_of_name (h : d.WellFormed) {t : Table} (ht : d.Form t) {e : Entity}
    (he : e ∈ d.strongEntities) (hn : t.name = e.name) :
    ∃ refs, t = ⟨e.name, e.table.columns ++ refs⟩ ∧ ∀ x ∈ refs, d.Refers e x := by
  have hs := WellFormed.mem_strongEntities.mp he
  cases ht with
  | strong e' refs he' hrefs =>
    have hee := h.entity_eq_of_name (WellFormed.mem_strongEntities.mp he').1 hs.1 hn
    subst hee
    exact ⟨refs, rfl, hrefs⟩
  | junction r c hr hc => exact absurd (hn.symm.trans hr.name) (h.entity_name_ne hs.1 hr.mem)
  | weak owner r e' ho =>
    have hw := WellFormed.mem_weakEntities.mp ho.weak
    have hee := h.entity_eq_of_name hw.1 hs.1 hn
    exact absurd hw.2 (by simp [hee, hs.2])

/-- **A table named for a relation** is its junction table. -/
theorem junction_of_name (h : d.WellFormed) {t : Table} (ht : d.Form t) {r : Relation}
    {c : ClassifiedRelation} (hr : d.Resolves r c) (hn : t.name = c.name) :
    t = c.junctionTable := by
  have hname := hn.trans hr.name
  cases ht with
  | strong e refs he hrefs =>
    exact absurd hname (h.entity_name_ne (WellFormed.mem_strongEntities.mp he).1 hr.mem)
  | junction r' c' hr' hc' =>
    have hrr := h.relation_eq_of_name hr'.mem hr.mem (hr'.name.symm.trans hname)
    subst hrr
    rw [hr.unique hr']
  | weak owner r' e ho =>
    exact absurd hname (h.entity_name_ne (WellFormed.mem_weakEntities.mp ho.weak).1 hr.mem)

/-- **A table named for a weak entity** is the one table of that entity. -/
theorem weak_of_name (h : d.WellFormed) {t : Table} (ht : d.Form t) {owner : Entity} {r : Relation}
    {e : Entity} (ho : d.Owns owner r e) (hn : t.name = e.name) : t = e.weakTable r owner := by
  have hw := WellFormed.mem_weakEntities.mp ho.weak
  cases ht with
  | strong e' refs he hrefs =>
    have hs := WellFormed.mem_strongEntities.mp he
    have hee := h.entity_eq_of_name hs.1 hw.1 hn
    exact absurd hw.2 (by simp [← hee, hs.2])
  | junction r' c hr hc => exact absurd (hn.symm.trans hr.name) (h.entity_name_ne hw.1 hr.mem)
  | weak owner' r' e' ho' =>
    have hee := h.entity_eq_of_name (WellFormed.mem_weakEntities.mp ho'.weak).1 hw.1 hn
    subst hee
    obtain ⟨rfl, rfl⟩ := ho.unique ho'
    rfl

end Form

namespace WellFormed

/-- **Absorbing a draft of the same name keeps the form.** -/
theorem form_absorb (h : d.WellFormed) {t u : Table} (ht : d.Form t) (hu : d.Form u)
    (hn : t.name = u.name) : d.Form (t.absorb u.columns) := by
  cases ht with
  | strong e refs he hrefs =>
    obtain ⟨more, rfl, hmore⟩ := hu.strong_of_name h he hn.symm
    obtain ⟨kept, hkept, heq⟩ := absorb_strong e refs more
    rw [heq]
    refine Form.strong e _ he fun x hx => ?_
    rcases List.mem_append.mp hx with hx | hx
    · exact hrefs x hx
    · exact hmore x (hkept.subset hx)
  | junction r c hr hc =>
    rw [hu.junction_of_name h hr hn.symm, absorb_self]
    exact Form.junction r c hr hc
  | weak owner r e ho =>
    rw [hu.weak_of_name h ho hn.symm, absorb_self]
    exact Form.weak owner r e ho

/-! ## Drafts -/

/-- A weak holder is tied to its owner, so that its relation does not draft its table. -/
theorem tiesWeak_of_weak_holder (h : d.WellFormed) {r : Relation} {c : ClassifiedRelation}
    (hr : d.Resolves r c) (hw : c.holder.entity.isWeak = true) :
    c.tiesWeak = true ∧ c.isReflexive = false := by
  obtain ⟨-, -, hstrong, hid⟩ := h.weak_face hr c.link_faces hw
  have hclass := h.oneToMany_of_weak hr c.link_faces hw
  refine ⟨by simp [ClassifiedRelation.tiesWeak, hclass, hid, hw], ?_⟩
  -- one entity on both sides would be weak and strong
  refine Bool.eq_false_iff.mpr fun hrefl => ?_
  rw [hr.holder_eq_target_iff.mpr hrefl, hstrong] at hw
  exact absurd hw (by simp)

theorem junctionDrafts_eq {r : Relation} {c : ClassifiedRelation} (hr : d.Resolves r c) :
    ∃ es : List Entity, c.junctionDrafts = es.map Entity.table ++ [c.junctionTable] ∧
      ∀ e, e ∈ es ↔ c.involves e = true := by
  have hsides : ∀ e, c.involves e = true ↔ e = c.side1.entity ∨ e = c.side2.entity := by
    intro e
    simp only [ClassifiedRelation.involves, Bool.or_eq_true, decide_eq_true_eq]
    exact or_congr eq_comm eq_comm
  unfold ClassifiedRelation.junctionDrafts
  by_cases hrefl : c.isReflexive = true
  · rw [if_pos hrefl]
    refine ⟨[c.side1.entity], rfl, fun e => ?_⟩
    rw [hsides, ← hr.isReflexive_iff.mp hrefl, or_self, List.mem_singleton]
  · rw [if_neg hrefl]
    refine ⟨[c.side1.entity, c.side2.entity], rfl, fun e => ?_⟩
    rw [hsides, List.mem_pair]

theorem linkDrafts_eq {r : Relation} {c : ClassifiedRelation} (hr : d.Resolves r c)
    (hties : c.tiesWeak = false) :
    ∃ es : List Entity, c.linkDrafts = es.map Entity.table ++ [c.holderTable] ∧
      ∀ e, e ∈ es ↔ e = c.target.entity ∧ e ≠ c.holder.entity := by
  unfold ClassifiedRelation.linkDrafts
  rw [hties]
  by_cases hrefl : c.isReflexive = true
  · rw [if_pos hrefl]
    refine ⟨[], rfl, fun e => ⟨fun he => absurd he List.not_mem_nil, ?_⟩⟩
    rintro ⟨rfl, hne⟩
    exact absurd (hr.holder_eq_target_iff.mpr hrefl).symm hne
  · rw [if_neg hrefl]
    refine ⟨[c.target.entity], rfl, fun e => ?_⟩
    rw [List.mem_singleton]
    refine ⟨fun he => ⟨he, fun hs => hrefl ?_⟩, fun he => he.1⟩
    exact hr.holder_eq_target_iff.mp (hs.symm.trans he)

/-- **What a relation drafts**: tables of entities and then its junction table or the table of its
holder, or the table of the owner alone. -/
theorem drafts_cases (h : d.WellFormed) {r : Relation} {c : ClassifiedRelation}
    (hr : d.Resolves r c) :
    (c.relationClass = .manyToMany ∧ ∃ es : List Entity,
        c.drafts = es.map Entity.table ++ [c.junctionTable] ∧
          ∀ e, e ∈ es ↔ c.involves e = true) ∨
      (c.relationClass ≠ .manyToMany ∧ c.holder.entity ∈ d.strongEntities ∧ ∃ es : List Entity,
        c.drafts = es.map Entity.table ++ [c.holderTable] ∧
          ∀ e, e ∈ es ↔ e = c.target.entity ∧ e ≠ c.holder.entity) ∨
      (c.relationClass ≠ .manyToMany ∧ c.tiesWeak = true ∧ c.drafts = [c.target.entity.table]) := by
  unfold ClassifiedRelation.drafts
  by_cases hc : c.relationClass = .manyToMany
  · rw [if_pos hc]
    exact Or.inl ⟨hc, junctionDrafts_eq hr⟩
  · rw [if_neg hc]
    by_cases hw : c.holder.entity.isWeak = true
    · obtain ⟨hties, hrefl⟩ := h.tiesWeak_of_weak_holder hr hw
      refine Or.inr (Or.inr ⟨hc, hties, ?_⟩)
      simp [ClassifiedRelation.linkDrafts, hrefl, hties]
    · have hs : c.holder.entity.isWeak = false := by simpa using hw
      exact Or.inr (Or.inl ⟨hc, mem_strongEntities.mpr ⟨(hr.face c.link_faces).1, hs⟩,
        linkDrafts_eq hr (ClassifiedRelation.tiesWeak_of_strong hs)⟩)

theorem strong_of_involves (h : d.WellFormed) {r : Relation} {c : ClassifiedRelation}
    (hr : d.Resolves r c) (hc : c.relationClass = .manyToMany) {e : Entity}
    (he : c.involves e = true) : e ∈ d.strongEntities := by
  simp only [ClassifiedRelation.involves, Bool.or_eq_true, decide_eq_true_eq] at he
  rcases he with rfl | rfl
  · exact h.strong_of_manyToMany hr hc (Or.inl ⟨rfl, rfl⟩)
  · exact h.strong_of_manyToMany hr hc (Or.inr ⟨rfl, rfl⟩)

/-- A draft of a relation is the table of a strong entity, its junction table, or the table of its
strong holder. -/
theorem mem_drafts_cases (h : d.WellFormed) {r : Relation} {c : ClassifiedRelation}
    (hr : d.Resolves r c) {t : Table} (ht : t ∈ c.drafts) :
    (∃ e ∈ d.strongEntities, t = e.table) ∨
      (c.relationClass = .manyToMany ∧ t = c.junctionTable) ∨
      (c.relationClass ≠ .manyToMany ∧ c.holder.entity ∈ d.strongEntities ∧ t = c.holderTable) := by
  rcases h.drafts_cases hr with ⟨hc, es, heq, hes⟩ | ⟨hc, hs, es, heq, hes⟩ | ⟨hc, -, heq⟩
  · rw [heq, List.mem_append, List.mem_singleton] at ht
    rcases ht with ht | rfl
    · obtain ⟨e, he, rfl⟩ := List.mem_map.mp ht
      exact Or.inl ⟨e, h.strong_of_involves hr hc ((hes e).mp he), rfl⟩
    · exact Or.inr (Or.inl ⟨hc, rfl⟩)
  · rw [heq, List.mem_append, List.mem_singleton] at ht
    rcases ht with ht | rfl
    · obtain ⟨e, he, rfl⟩ := List.mem_map.mp ht
      exact Or.inl ⟨e, ((hes e).mp he).1 ▸ h.target_strong hr hc, rfl⟩
    · exact Or.inr (Or.inr ⟨hc, hs, rfl⟩)
  · rw [heq, List.mem_singleton] at ht
    exact Or.inl ⟨_, h.target_strong hr hc, ht⟩

theorem form_of_mem_relation (h : d.WellFormed) {r : Relation} {c : ClassifiedRelation}
    (hr : d.Resolves r c) {t : Table} (ht : t ∈ c.drafts) : d.Form t := by
  rcases h.mem_drafts_cases hr ht with ⟨e, he, rfl⟩ | ⟨hc, rfl⟩ | ⟨hc, he, rfl⟩
  · exact Form.table he
  · exact Form.junction r c hr hc
  · exact Form.strong c.holder.entity c.references he fun x hx => ⟨r, c, hr, hc, rfl, hx⟩

/-- A draft of a relation is named for the relation or for a strong entity. -/
theorem name_of_mem_drafts (h : d.WellFormed) {r : Relation} {c : ClassifiedRelation}
    (hr : d.Resolves r c) {t : Table} (ht : t ∈ c.drafts) :
    t.name = c.name ∨ ∃ e ∈ d.strongEntities, t.name = e.name := by
  rcases h.mem_drafts_cases hr ht with ⟨e, he, rfl⟩ | ⟨-, rfl⟩ | ⟨-, he, rfl⟩
  · exact Or.inr ⟨e, he, rfl⟩
  · exact Or.inl rfl
  · exact Or.inr ⟨_, he, rfl⟩

/-- **Every draft has a form.** -/
theorem form_of_mem_drafts (h : d.WellFormed) {drafts : List Table} (hd : d.drafts = .ok drafts)
    {t : Table} (ht : t ∈ drafts) : d.Form t := by
  rw [h.drafts_eq] at hd
  cases hd
  rcases List.mem_append.mp ht with ht | ht
  · obtain ⟨c, hc, htc⟩ := List.mem_flatMap.mp ht
    obtain ⟨r, hr⟩ := h.mem_resolved.mp hc
    exact h.form_of_mem_relation hr htc
  · obtain ⟨e, he, hte⟩ := List.mem_flatMap.mp ht
    have hmem : e ∈ d.entities := (List.mem_filter.mp he).1
    cases hw : e.isWeak with
    | false =>
      rw [ownDrafts_strong hw, List.mem_singleton] at hte
      exact hte ▸ Form.table (mem_strongEntities.mpr ⟨hmem, hw⟩)
    | true =>
      obtain ⟨owner, r, ho⟩ := h.exists_owner (mem_weakEntities.mpr ⟨hmem, hw⟩)
      rw [h.ownDrafts_weak ho, List.mem_singleton] at hte
      exact hte ▸ Form.weak owner r e ho

/-- **Every merged table has a form.** -/
theorem form_of_mem_merged (h : d.WellFormed) {drafts : List Table} (hd : d.drafts = .ok drafts) :
    ∀ t ∈ mergeDrafts drafts, d.Form t :=
  forall_mergeDrafts (fun _ ht => h.form_of_mem_drafts hd ht) fun _ _ => h.form_absorb

/-! ## Columns -/

/-- **Each strong entity of a relation is drafted by it.** -/
theorem exists_draft_of_face (h : d.WellFormed) {r : Relation} {c : ClassifiedRelation}
    (hr : d.Resolves r c) {s t : ClassifiedSide} (hf : c.Faces s t)
    (hs : s.entity.isWeak = false) : ∃ u ∈ c.drafts, u.name = s.entity.name := by
  rcases h.drafts_cases hr with ⟨-, es, heq, hes⟩ | ⟨-, -, es, heq, hes⟩ | ⟨-, hties, heq⟩
  · have hmem : s.entity ∈ es := by
      rw [hes, ClassifiedRelation.involves_iff]
      rcases ClassifiedRelation.holder_or_target hf with rfl | rfl
      · exact Or.inl rfl
      · exact Or.inr rfl
    rw [heq]
    exact ⟨_, List.mem_append_left _ (List.mem_map.mpr ⟨_, hmem, rfl⟩), rfl⟩
  · rw [heq]
    by_cases hh : s.entity = c.holder.entity
    · exact ⟨c.holderTable, by simp, congrArg Entity.name hh.symm⟩
    · rcases ClassifiedRelation.holder_or_target hf with rfl | rfl
      · exact absurd rfl hh
      · have hmem := (hes _).mpr ⟨rfl, hh⟩
        exact ⟨_, List.mem_append_left _ (List.mem_map.mpr ⟨_, hmem, rfl⟩), rfl⟩
  · rw [heq]
    rcases ClassifiedRelation.holder_or_target hf with rfl | rfl
    · rw [ClassifiedRelation.isWeak_of_tiesWeak hties] at hs
      exact absurd hs (by simp)
    · exact ⟨_, List.mem_cons_self, rfl⟩

/-- A strong entity that takes part in a relation has a table after merging. -/
theorem exists_merged_of_face (h : d.WellFormed) {drafts : List Table}
    (hd : d.drafts = .ok drafts) {r : Relation} {c : ClassifiedRelation} (hr : d.Resolves r c)
    {s t : ClassifiedSide} (hf : c.Faces s t) (hs : s.entity.isWeak = false) :
    ∃ u ∈ mergeDrafts drafts, u.name = s.entity.name := by
  obtain ⟨u, hu, hn⟩ := h.exists_draft_of_face hr hf hs
  rw [h.drafts_eq] at hd
  have hmem : u ∈ drafts := by
    cases hd
    exact List.mem_append_left _ (List.mem_flatMap.mpr ⟨c, h.mem_resolved.mpr ⟨r, hr⟩, hu⟩)
  obtain ⟨t, ht, htn, -⟩ := exists_mem_mergeDrafts hmem
  exact ⟨t, ht, htn.trans hn⟩

end WellFormed

/-- **The columns of a table** of each form. -/
theorem Form.columnOf {t : Table} (ht : d.Form t) {x : Column} (hx : x ∈ t.columns) :
    d.ColumnOf t x := by
  cases ht with
  | strong e refs he hrefs =>
    have hmem := (WellFormed.mem_strongEntities.mp he).1
    rcases List.mem_append.mp hx with hx | hx
    · obtain ⟨a, ha, rfl⟩ := List.mem_map.mp hx
      exact .entity e a hmem rfl ha rfl rfl
    · obtain ⟨r, c, hr, hc, rfl, href⟩ := hrefs x hx
      exact .reference r (.link c hr hc he rfl href)
  | junction r c hr hc =>
    simp only [ClassifiedRelation.junctionTable, List.mem_append] at hx
    rcases hx with (hx | hx) | hx
    · exact .reference r (.junction c c.side1 c.side2 1 hr hc rfl (Or.inl ⟨rfl, rfl⟩) hx)
    · exact .reference r (.junction c c.side2 c.side1 2 hr hc rfl (Or.inr ⟨rfl, rfl⟩) hx)
    · obtain ⟨a, ha, rfl⟩ := List.mem_map.mp hx
      exact .relation r c a hr hc hr.name (hr.attributes ▸ ha) rfl rfl
  | weak owner r e ho =>
    have hmem := (WellFormed.mem_weakEntities.mp ho.weak).1
    simp only [Entity.weakTable, List.mem_append] at hx
    rcases hx with (hx | hx) | hx
    · exact .reference r (.tie owner e ho rfl hx)
    · obtain ⟨a, ha, rfl⟩ := List.mem_map.mp hx
      exact .entity e a hmem rfl (List.mem_filter.mp ha).1 rfl rfl
    · obtain ⟨a, ha, rfl⟩ := List.mem_map.mp hx
      exact .entity e a hmem rfl (List.mem_filter.mp ha).1 rfl rfl

/-- **What a reference says**: it is named for a key attribute of a strong entity on a side of the
relation and for the relation, in a junction table with the position of the side behind, and it
refers to that entity. -/
theorem RefersFor.exists_face (h : d.WellFormed) {r : Relation} {t : Table} {x : Column}
    (hx : d.RefersFor r t x) : ∃ c s u a, d.Resolves r c ∧ c.Faces s u ∧
      s.entity ∈ d.strongEntities ∧ a ∈ s.entity.primaryKeys ∧
      (∃ position, IsNumbering position ∧ x.name = relationColumnName a r.name ++ position) ∧
      x.foreignKey = some s.entity.name := by
  cases hx with
  | link c hr hc hs ht hx =>
    obtain ⟨a, ha, rfl⟩ := List.mem_map.mp hx
    exact ⟨c, c.target, c.holder, a, hr, c.link_faces.symm, h.target_strong hr hc, ha,
      ⟨"", Or.inl rfl, by rw [hr.name, String.append_empty]⟩, rfl⟩
  | junction c s u position hr hc ht hf hx =>
    obtain ⟨a, ha, rfl⟩ := List.mem_map.mp hx
    exact ⟨c, s, u, a, hr, hf, h.strong_of_manyToMany hr hc hf, ha,
      ⟨"_" ++ toString position, Or.inr ⟨position, rfl⟩,
        by rw [hr.name, ← String.append_assoc]⟩, rfl⟩
  | tie owner e ho ht hx =>
    obtain ⟨a, ha, rfl⟩ := List.mem_map.mp hx
    obtain ⟨c, s, u, hr, hf, -, rfl⟩ := h.face_of_owns ho
    exact ⟨c, u, s, a, hr, hf.symm, ho.strong, ha,
      ⟨"", Or.inl rfl, by rw [String.append_empty]⟩, rfl⟩

/-- **A column refers to a strong entity on a side of a relation.** -/
theorem Form.refersTo (h : d.WellFormed) {t : Table} (ht : d.Form t) {x : Column}
    (hx : x ∈ t.columns) {n : String} (hn : x.foreignKey = some n) :
    ∃ r c s u, d.Resolves r c ∧ c.Faces s u ∧ s.entity ∈ d.strongEntities ∧
      s.entity.name = n := by
  cases ht.columnOf hx with
  | entity e a he ht ha hx hnone => exact absurd (hnone.symm.trans hn) (by simp)
  | relation r c a hr hc ht ha hx hnone => exact absurd (hnone.symm.trans hn) (by simp)
  | reference r hx =>
    obtain ⟨c, s, u, a, hr, hf, hs, -, -, hforeign⟩ := hx.exists_face h
    exact ⟨r, c, s, u, hr, hf, hs, Option.some.inj (hforeign.symm.trans hn)⟩

/-! ## Keys -/

/-- A reference is not a key column of the table that refers. -/
theorem Refers.not_key {e : Entity} {x : Column} (hx : d.Refers e x) : x.key = false := by
  obtain ⟨r, c, -, -, -, hmem⟩ := hx
  obtain ⟨a, -, rfl⟩ := List.mem_map.mp hmem
  rfl

/-- The key columns of an entity with references are those of its key attributes. -/
theorem keyColumns_strong {e : Entity} {refs : List Column} (hrefs : ∀ x ∈ refs, d.Refers e x) :
    (⟨e.name, e.table.columns ++ refs⟩ : Table).keyColumns =
      e.primaryKeys.map Column.ofAttribute := by
  have hnone : refs.filter (·.key) = [] :=
    List.filter_eq_nil_iff.mpr fun x hx => by simp [(hrefs x hx).not_key]
  unfold Table.keyColumns Entity.table Entity.primaryKeys
  rw [List.filter_append, hnone, List.append_nil, List.filter_map]
  rfl

/-- **The key of a strong entity is one column** after sanitizing, and no foreign key. -/
theorem WellFormed.key_sanitize_strong (h : d.WellFormed) {e : Entity}
    (he : e ∈ d.strongEntities) {refs : List Column} (hrefs : ∀ x ∈ refs, d.Refers e x) :
    ∃ a k, e.primaryKeys = [a] ∧ (Column.ofAttribute a).Sanitizes k ∧
      (⟨e.name, e.table.columns ++ refs⟩ : Table).sanitize.keyColumns = [k] := by
  obtain ⟨a, ha⟩ := h.key_of_strong e he
  have hkeys := (⟨e.name, e.table.columns ++ refs⟩ : Table).keyColumns_sanitize
  rw [keyColumns_strong hrefs, ha] at hkeys
  obtain ⟨k, ks, hk, hks, heq⟩ := List.forall₂_cons_left_iff.mp hkeys
  rw [List.forall₂_nil_left_iff.mp hks] at heq
  exact ⟨a, k, ha, hk, heq⟩

end Diagram

/-- The key columns of a junction table are its references to both sides. -/
theorem ClassifiedRelation.keyColumns_junctionTable (c : ClassifiedRelation) :
    c.junctionTable.keyColumns = c.junctionColumns c.side1 1 ++ c.junctionColumns c.side2 2 := by
  simp [junctionTable, Table.keyColumns, junctionColumns, List.filter_map, Function.comp_def]

/-- The key columns of a weak entity are its reference to the owner and its discriminants. -/
theorem Entity.keyColumns_weakTable (e : Entity) (r : Relation) (owner : Entity) :
    (e.weakTable r owner).keyColumns = owner.ownerColumns r ++ e.discriminantColumns := by
  simp [weakTable, Table.keyColumns, ownerColumns, discriminantColumns, List.filter_map,
    Function.comp_def]

end ErSchema
