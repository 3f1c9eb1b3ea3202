import ErSchema.Proofs.Schema.Tabled

/-!
# Adding a relation

One more relation at the end of a diagram moves drafts about: entities that stood by themselves are
drafted by the relation, and there are new drafts between the old ones. Still every table stays and
only grows. A table that relations draft has the same first drafts as before, and a table that an
entity drafts by itself starts with the attributes of that entity wherever its drafts come from.
Sanitizing goes from left to right, so the new columns make way for the old ones.

* `Owns.withRelation`: a weak entity keeps its owner.
* `exists_growsTo_merged`: each merged table grows.
* `tables_grow`: each table of a valid diagram grows, and comes from the same entity or relation.
-/

namespace ErSchema

open Text

/-! ## Origins -/

/-- What a table comes from. -/
inductive Origin where
  | entity (e : Entity)
  | relation (r : Relation)

namespace Origin

/-- The name as it was drawn. -/
def name : Origin → String
  | entity e => e.name
  | relation r => r.name

/-- Whether an entity or a relation is drawn in a diagram. -/
def IsIn (d : Diagram) : Origin → Prop
  | entity e => e ∈ d.entities
  | relation r => r ∈ d.relations

end Origin

theorem Table.GrowsTo.sanitize {t t' : Table} (h : t.GrowsTo t') :
    t.sanitize.GrowsTo t'.sanitize := by
  obtain ⟨more, hmore⟩ := h.columns
  obtain ⟨names, heq⟩ := sanitizeColumns_append [] t.columns more
  refine ⟨congrArg foldDiacritics h.name, ?_⟩
  unfold Table.sanitize
  rw [← hmore, heq]
  exact List.prefix_append _ _

namespace Diagram

/-- Whether a table that is written comes from an entity or a relation of a diagram: it is the
merged table that has the name of that, sanitized. -/
def ComesFrom (d : Diagram) (o : Origin) (t : Table) : Prop :=
  o.IsIn d ∧ ∃ ts, d.mergedTables = .ok ts ∧ ∃ u ∈ ts, u.name = o.name ∧ u.sanitize = t

/-- A diagram with one more relation. -/
def withRelation (d : Diagram) (r : Relation) : Diagram :=
  { d with relations := d.relations ++ [r] }

variable {d : Diagram} {r : Relation}

/-! ## What stays -/

/-- What a relation of a diagram resolves to stays. -/
theorem resolves_withRelation_iff {r₀ : Relation} (hmem : r₀ ∈ d.relations)
    {c : ClassifiedRelation} : (d.withRelation r).Resolves r₀ c ↔ d.Resolves r₀ c :=
  ⟨fun hr => ⟨hmem, hr.resolved⟩, fun hr => ⟨List.mem_append_left _ hmem, hr.resolved⟩⟩

/-- The resolved relations stay, and one comes behind them. -/
theorem exists_resolved_withRelation (h : d.WellFormed) (h' : (d.withRelation r).WellFormed) :
    ∃ c, (d.withRelation r).resolved = d.resolved ++ [c] := by
  obtain ⟨us, vs, heq, hus, hvs⟩ := forall₂_append_left_iff.mp h'.forall₂_resolved
  obtain ⟨c, vs', -, hnil, rfl⟩ := List.forall₂_cons_left_iff.mp hvs
  rw [List.forall₂_nil_left_iff.mp hnil] at heq
  rw [forall₂_congr fun r₀ hr₀ c => resolves_withRelation_iff hr₀, ← mapM_resolve_eq_ok,
    h.mapM_resolve] at hus
  exact ⟨c, by rw [heq, Except.ok.inj hus]⟩

/-- **A weak entity keeps its owner.** -/
theorem Owns.withRelation (h' : (d.withRelation r).WellFormed) {owner : Entity} {r₀ : Relation}
    {e : Entity} (ho : d.Owns owner r₀ e) : (d.withRelation r).Owns owner r₀ e := by
  obtain ⟨owner', r₁, ho'⟩ := h'.exists_owner (e := e) ho.weak
  -- one relation touches the entity, so it is the one that did before
  have honly := ho'.only
  have hsplit : (d.withRelation r).relations.filter (·.touches e.id) =
      r₀ :: [r].filter (·.touches e.id) := by
    unfold Diagram.withRelation
    rw [List.filter_append, ho.only]
    rfl
  obtain ⟨rfl, hnone⟩ := List.cons.inj (hsplit.symm.trans honly)
  exact ⟨ho.weak, ho.strong, honly, ho.identifying, ho.across⟩

/-! ## Merged tables -/

namespace WellFormed

/-- A strong entity that stands by itself is on no side of a relation. -/
theorem not_involves_of_remaining (h : d.WellFormed) {e : Entity}
    (he : e ∈ remainingEntities d.resolved d.entities) (hs : e.isWeak = false) {r₀ : Relation}
    {c : ClassifiedRelation} (hr : d.Resolves r₀ c) : c.involves e = false := by
  refine Bool.eq_false_iff.mpr fun hi => ?_
  have hfree := (h.mem_remaining.mp he).2.resolve_left (by simp [hs])
  have htouch : r₀.touches e.id = true := by
    simp only [ClassifiedRelation.involves, Bool.or_eq_true, decide_eq_true_eq] at hi
    rcases hi with rfl | rfl
    · exact (hr.face (Or.inl ⟨rfl, rfl⟩)).2.2
    · exact (hr.face (Or.inr ⟨rfl, rfl⟩)).2.2
  rw [hfree r₀ hr.mem] at htouch
  exact absurd htouch (by simp)

/-- The table of an entity that stands by itself is the one that it drafts. -/
theorem merged_of_remaining (h : d.WellFormed) {e : Entity}
    (he : e ∈ remainingEntities d.resolved d.entities) (hs : e.isWeak = false) {t : Table}
    (ht : d.Form t) (hn : t.name = e.name) : t = e.table := by
  obtain ⟨refs, rfl, hrefs⟩ := ht.strong_of_name h
    (mem_strongEntities.mpr ⟨(h.mem_remaining.mp he).1, hs⟩) hn
  have hnone : refs = [] := by
    refine List.eq_nil_iff_forall_not_mem.mpr fun x hx => ?_
    obtain ⟨r₀, c, hr, -, hholder, -⟩ := hrefs x hx
    have hi := ClassifiedRelation.involves_iff.mpr (Or.inl hholder)
    rw [h.not_involves_of_remaining he hs hr] at hi
    exact absurd hi (by simp)
  rw [hnone, List.append_nil]
  rfl

/-- **A table that an entity drafts by itself grows.** -/
theorem exists_growsTo_of_remaining (h : d.WellFormed) (h' : (d.withRelation r).WellFormed)
    (hids : (d.entities.map (·.id)).Nodup) {drafts' : List Table}
    (hd' : (d.withRelation r).drafts = .ok drafts') {e : Entity}
    (he : e ∈ remainingEntities d.resolved d.entities) {t : Table} (ht : d.Form t)
    (hn : t.name = e.name) : ∃ t' ∈ mergeDrafts drafts', t.GrowsTo t' := by
  have hmem := (h.mem_remaining.mp he).1
  have htabled : e.name ∈ tableNames (mergeDrafts drafts') :=
    (h'.mem_tableNames_merged hd').mpr
      (mem_tabledNames.mpr (Or.inl ⟨e, hmem,
        hasTable_of_nodup (d := d.withRelation r) hids hmem, rfl⟩))
  obtain ⟨t', ht', hn'⟩ := List.mem_map.mp htabled
  have hform' := h'.form_of_mem_merged hd' t' ht'
  refine ⟨t', ht', ?_⟩
  cases hw : e.isWeak with
  | true =>
    obtain ⟨owner, r₀, ho⟩ := h.exists_owner (mem_weakEntities.mpr ⟨hmem, hw⟩)
    rw [ht.weak_of_name h ho hn, hform'.weak_of_name h' (ho.withRelation h') hn']
    exact .refl _
  | false =>
    obtain ⟨refs, rfl, -⟩ := hform'.strong_of_name h'
      (mem_strongEntities.mpr ⟨hmem, hw⟩) hn'
    rw [h.merged_of_remaining he hw ht hn]
    exact ⟨rfl, List.prefix_append _ _⟩

/-- **Each merged table grows.** -/
theorem exists_growsTo_merged (h : d.WellFormed) (h' : (d.withRelation r).WellFormed)
    (hids : (d.entities.map (·.id)).Nodup) {drafts drafts' : List Table}
    (hd : d.drafts = .ok drafts) (hd' : (d.withRelation r).drafts = .ok drafts') :
    ∀ t ∈ mergeDrafts drafts, ∃ t' ∈ mergeDrafts drafts', t.GrowsTo t' := by
  intro t ht
  have hform := h.form_of_mem_merged hd t ht
  by_cases hown : ∃ e ∈ remainingEntities d.resolved d.entities, e.name = t.name
  · obtain ⟨e, he, hn⟩ := hown
    exact h.exists_growsTo_of_remaining h' hids hd' he hform hn.symm
  · -- no entity drafts the table by itself, so the drafts of the relations make it
    obtain ⟨c, hresolved⟩ := exists_resolved_withRelation h h'
    rw [h.drafts_eq, Except.ok.injEq] at hd
    rw [h'.drafts_eq, hresolved, List.flatMap_append, List.append_assoc, Except.ok.injEq] at hd'
    rw [← hd, mem_mergeDrafts_append] at ht
    · rw [← hd']
      exact exists_growsTo_mergeDrafts _ _ ht
    · intro u hu hn
      obtain ⟨e, he, hue⟩ := List.mem_flatMap.mp hu
      obtain ⟨v, hv, hvn, -⟩ := h.exists_ownDrafts (h.mem_remaining.mp he).1
      rw [hv, List.mem_singleton] at hue
      exact hown ⟨e, he, hvn.symm.trans (hue ▸ hn)⟩

end WellFormed

/-! ## Tables that are written -/

theorem exists_comesFrom (h : d.WellFormed) {drafts : List Table} (hd : d.drafts = .ok drafts)
    (hts : d.mergedTables = .ok (mergeDrafts drafts)) :
    ∀ t ∈ (mergeDrafts drafts).map (·.sanitize), ∃ o, d.ComesFrom o t := by
  intro t ht
  obtain ⟨u, hu, rfl⟩ := List.mem_map.mp ht
  have hname := (h.mem_tableNames_merged hd).mp (List.mem_map.mpr ⟨u, hu, rfl⟩)
  rcases mem_tabledNames.mp hname with ⟨e, he, -, hn⟩ | ⟨r, hr, hn⟩
  · exact ⟨.entity e, he, _, hts, u, hu, hn.symm, rfl⟩
  · exact ⟨.relation r, (List.mem_filter.mp hr).1, _, hts, u, hu, hn.symm, rfl⟩

theorem isIn_withRelation {o : Origin} (ho : o.IsIn d) : o.IsIn (d.withRelation r) := by
  cases o with
  | entity e => exact ho
  | relation r₀ => exact List.mem_append_left _ ho

/-- **Adding a relation never disturbs what is there.** Where ids are not shared, each table of a
valid diagram is there when a relation is added that keeps the diagram valid: it comes from the same
entity or relation, has the same name, and its columns come first. -/
theorem tables_grow (hv : d.validate.isValid = true) (hids : (d.entities.map (·.id)).Nodup)
    (hv' : (d.withRelation r).validate.isValid = true) :
    ∃ ts ts', d.deriveTables = .ok ts ∧ (d.withRelation r).deriveTables = .ok ts' ∧
      ∀ t ∈ ts, (∃ o, d.ComesFrom o t) ∧ ∀ o, d.ComesFrom o t →
        ∃ t' ∈ ts', (d.withRelation r).ComesFrom o t' ∧ t'.name = t.name ∧
          t.columns <+: t'.columns := by
  have h := wellFormed_of_isValid hv
  have h' := wellFormed_of_isValid hv'
  obtain ⟨drafts, hd, hts⟩ := h.mergedTables_eq
  obtain ⟨drafts', hd', hts'⟩ := h'.mergedTables_eq
  refine ⟨_, _, deriveTables_eq_ok hts, deriveTables_eq_ok hts', fun t ht =>
    ⟨exists_comesFrom h hd hts t ht, fun o ho => ?_⟩⟩
  obtain ⟨hin, ts, hts₀, u, hu, hn, rfl⟩ := ho
  obtain rfl := Except.ok.inj (hts.symm.trans hts₀)
  obtain ⟨u', hu', hgrows⟩ := h.exists_growsTo_merged h' hids hd hd' u hu
  refine ⟨u'.sanitize, List.mem_map.mpr ⟨u', hu', rfl⟩,
    ⟨isIn_withRelation hin, _, hts', u', hu', hgrows.name.trans hn, rfl⟩, ?_⟩
  exact ⟨hgrows.sanitize.name, hgrows.sanitize.columns⟩

/-- Painters and pictures that nothing ties yet. -/
def gallery : Diagram where
  entities := [
    ⟨"a", "Painter", false, [.ofKey "id"]⟩,
    ⟨"b", "Picture", false, [.ofKey "id", .ofName "id_paints"]⟩]

/-- A relation for the gallery. Its reference takes the name of an attribute that is there. -/
def paints : Relation := ⟨"r", "paints", ⟨"a", "1:1"⟩, ⟨"b", "0:N"⟩, false, false, []⟩

theorem gallery_grows :
    gallery.validate.isValid = true ∧ (gallery.entities.map (·.id)).Nodup ∧
      (gallery.withRelation paints).validate.isValid = true ∧
      ∃ ts ts', gallery.deriveTables = .ok ts ∧
        (gallery.withRelation paints).deriveTables = .ok ts' ∧
        ∀ t ∈ ts, (∃ o, gallery.ComesFrom o t) ∧ ∀ o, gallery.ComesFrom o t →
          ∃ t' ∈ ts', (gallery.withRelation paints).ComesFrom o t' ∧ t'.name = t.name ∧
            t.columns <+: t'.columns := by
  have hv : gallery.validate.isValid = true := by decide +kernel
  have hids : (gallery.entities.map (·.id)).Nodup := by decide +kernel
  have hv' : (gallery.withRelation paints).validate.isValid = true := by decide +kernel
  exact ⟨hv, hids, hv', tables_grow hv hids hv'⟩

end Diagram

end ErSchema
