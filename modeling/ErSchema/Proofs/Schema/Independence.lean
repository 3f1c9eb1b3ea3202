import ErSchema.Proofs.Diagram.Embedding
import ErSchema.Proofs.Schema.Gate
import ErSchema.Proofs.Schema.Stages

/-!
# Independent diagrams

Diagrams that share no ids and no names do not see each other. Side by side each of them embeds into
both together, so its relations resolve and its records are drafted as before. The drafts of the two
interleave, all relations before all entities, but drafts of different names do not meet. So the
tables of both are those of each, in some order.

* `Independent.embeds_left`, `Independent.embeds_right`: each embeds into both together.
* `Independent.draftsTo_append`, `Independent.exists_draftsTo`: the drafts of both are those of
  each.
* `Independent.holds_append`: both pass a check iff each does.
* `Independent.compile_apart`: both compile iff each does, to the same tables.
-/

namespace ErSchema

namespace Diagram

/-- Two diagrams side by side. -/
instance : Append Diagram := ⟨fun d e => ⟨d.entities ++ e.entities, d.relations ++ e.relations⟩⟩

/-- Whether two diagrams share nothing: no id of an entity of one is given or referred to in the
other, and no name of one is a name of the other. -/
structure Independent (d e : Diagram) : Prop where
  ids_left : ∀ x ∈ d.entityIds, x ∉ e.ids
  ids_right : ∀ x ∈ e.entityIds, x ∉ d.ids
  names : ∀ n ∈ d.names, n ∉ e.names

instance (d e : Diagram) : Decidable (d.Independent e) :=
  decidable_of_iff ((∀ x ∈ d.entityIds, x ∉ e.ids) ∧ (∀ x ∈ e.entityIds, x ∉ d.ids) ∧
      ∀ n ∈ d.names, n ∉ e.names)
    ⟨fun ⟨h₁, h₂, h₃⟩ => ⟨h₁, h₂, h₃⟩, fun ⟨h₁, h₂, h₃⟩ => ⟨h₁, h₂, h₃⟩⟩

variable {d e u : Diagram}

@[simp] theorem entities_append : (d ++ e).entities = d.entities ++ e.entities := rfl

@[simp] theorem relations_append : (d ++ e).relations = d.relations ++ e.relations := rfl

/-! ## Parts -/

/-- A diagram embeds into another that has no more entities under its ids, and no more relations
that touch its entities. -/
theorem embeds_of_filter (hentities : ∀ x ∈ d.ids,
      u.entities.filter (·.id = x) = d.entities.filter (·.id = x))
    (hrelations : ∀ x ∈ d.entityIds,
      u.relations.filter (·.touches x) = d.relations.filter (·.touches x)) : d.Embeds id u where
  injOn := Set.injOn_id _
  blank _ _ := rfl
  entity x hx := by
    rw [Index.entity?_ofDiagram, Index.entity?_ofDiagram, id_eq, hentities x hx]
    exact Option.map_id'.symm
  relations x hx := by
    rw [Index.relationsOf_ofDiagram, Index.relationsOf_ofDiagram, id_eq, hrelations x hx]
    exact List.forall₂_same.mpr fun r _ => relabels_id r

theorem not_touches_of_not_mem {x : String} (hx : x ∉ d.ids) {r : Relation}
    (hr : r ∈ d.relations) : r.touches x = false := by
  have h1 : r.side1.entity ≠ x := fun h => hx (h ▸ mem_ids_of_side1 hr)
  have h2 : r.side2.entity ≠ x := fun h => hx (h ▸ mem_ids_of_side2 hr)
  simp [Relation.touches, h1, h2]

namespace Independent

theorem filter_id_eq_nil (h : ∀ x ∈ d.entityIds, x ∉ e.ids) {x : String} (hx : x ∈ e.ids) :
    d.entities.filter (·.id = x) = [] :=
  List.filter_eq_nil_iff.mpr fun y hy => by
    simpa using fun heq : y.id = x => h y.id (mem_entityIds hy) (heq ▸ hx)

theorem filter_touches_eq_nil {x : String} (hx : x ∉ d.ids) :
    d.relations.filter (·.touches x) = [] :=
  List.filter_eq_nil_iff.mpr fun r hr => by simp [not_touches_of_not_mem hx hr]

theorem embeds_left (h : d.Independent e) : d.Embeds id (d ++ e) := by
  refine embeds_of_filter (fun x hx => ?_) fun x hx => ?_
  · rw [entities_append, List.filter_append, filter_id_eq_nil h.ids_right hx, List.append_nil]
  · rw [relations_append, List.filter_append, filter_touches_eq_nil (h.ids_left x hx),
      List.append_nil]

theorem embeds_right (h : d.Independent e) : e.Embeds id (d ++ e) := by
  refine embeds_of_filter (fun x hx => ?_) fun x hx => ?_
  · rw [entities_append, List.filter_append, filter_id_eq_nil h.ids_left hx, List.nil_append]
  · rw [relations_append, List.filter_append, filter_touches_eq_nil (h.ids_right x hx),
      List.nil_append]

end Independent

/-! ## Drafts -/

theorem Embeds.resolves_iff (h : d.Embeds id u) (hsub : d.relations ⊆ u.relations) {r : Relation}
    (hr : r ∈ d.relations) {c : ClassifiedRelation} : d.Resolves r c ↔ u.Resolves r c := by
  have hiff : resolveRelation (Index.ofDiagram u) r = .ok c ↔ _ :=
    h.resolveRelation_eq_ok hr (relabels_id r)
  simp only [relabel_id, exists_eq_right] at hiff
  exact ⟨fun hc => ⟨hsub hr, hiff.mpr hc.resolved⟩, fun hc => ⟨hr, hiff.mp hc.resolved⟩⟩

/-- **A part is drafted as in the whole.** -/
theorem Embeds.draftsTo_iff (h : d.Embeds id u) (hsub : d.relations ⊆ u.relations)
    {cs : List ClassifiedRelation} {relations entities : List (List Table)} :
    d.DraftsTo cs relations entities ↔
      List.Forall₂ u.Resolves d.relations cs ∧
      List.Forall₂ (fun c ts => (Classified.relation c).tables (Index.ofDiagram u) = .ok ts)
        cs relations ∧
      List.Forall₂ (fun e ts => (Classified.entity e).tables (Index.ofDiagram u) = .ok ts)
        (remainingEntities cs d.entities) entities := by
  have hresolved : List.Forall₂ d.Resolves d.relations cs ↔
      List.Forall₂ u.Resolves d.relations cs :=
    forall₂_congr fun r hr c => h.resolves_iff hsub hr
  have htables : List.Forall₂ d.Resolves d.relations cs → ∀ c ∈ cs, ∀ ts,
      (Classified.relation c).tables (Index.ofDiagram d) = .ok ts ↔
        (Classified.relation c).tables (Index.ofDiagram u) = .ok ts := by
    intro hcs c hc ts
    obtain ⟨r, -, hr⟩ := exists_of_forall₂_right hcs hc
    rw [← h.relation_tables hr, relabel_id]
  have hentities : ∀ e ∈ remainingEntities cs d.entities, ∀ ts,
      (Classified.entity e).tables (Index.ofDiagram d) = .ok ts ↔
        (Classified.entity e).tables (Index.ofDiagram u) = .ok ts :=
    fun e he ts => (h.entity_tables_eq_ok (List.mem_filter.mp he).1).symm
  constructor
  · rintro ⟨h1, h2, h3⟩
    exact ⟨hresolved.mp h1, (forall₂_congr (htables h1)).mp h2, (forall₂_congr hentities).mp h3⟩
  · rintro ⟨h1, h2, h3⟩
    have h1' := hresolved.mpr h1
    exact ⟨h1', (forall₂_congr (htables h1')).mpr h2, (forall₂_congr hentities).mpr h3⟩

namespace Independent

/-- What remains of both is what remains of each. -/
theorem remainingEntities_append (h : d.Independent e) {cs₁ cs₂ : List ClassifiedRelation}
    (h₁ : cs₁.flatMap (·.entityIds) ⊆ d.ids) (h₂ : cs₂.flatMap (·.entityIds) ⊆ e.ids) :
    remainingEntities (cs₁ ++ cs₂) (d.entities ++ e.entities) =
      remainingEntities cs₁ d.entities ++ remainingEntities cs₂ e.entities := by
  unfold remainingEntities
  simp only [List.flatMap_append, List.filter_append]
  congr 1
  · refine List.filter_congr fun x hx => ?_
    have hnot : x.id ∉ cs₂.flatMap (·.entityIds) :=
      fun hmem => h.ids_left _ (mem_entityIds hx) (h₂ hmem)
    simp [hnot]
  · refine List.filter_congr fun x hx => ?_
    have hnot : x.id ∉ cs₁.flatMap (·.entityIds) :=
      fun hmem => h.ids_right _ (mem_entityIds hx) (h₁ hmem)
    simp [hnot]

variable {cs₁ cs₂ cs : List ClassifiedRelation}
  {relations₁ relations₂ entities₁ entities₂ relations entities : List (List Table)}

theorem subset_left : d.relations ⊆ (d ++ e).relations := List.subset_append_left _ _

theorem subset_right : e.relations ⊆ (d ++ e).relations := List.subset_append_right _ _

/-- **The drafts of both are those of each**, relations before entities. -/
theorem draftsTo_append (h : d.Independent e) (hd : d.DraftsTo cs₁ relations₁ entities₁)
    (he : e.DraftsTo cs₂ relations₂ entities₂) :
    (d ++ e).DraftsTo (cs₁ ++ cs₂) (relations₁ ++ relations₂) (entities₁ ++ entities₂) := by
  have hremaining := h.remainingEntities_append (entityIds_subset_of_resolved hd.resolved)
    (entityIds_subset_of_resolved he.resolved)
  obtain ⟨hr₁, ht₁, he₁⟩ := (h.embeds_left.draftsTo_iff subset_left).mp hd
  obtain ⟨hr₂, ht₂, he₂⟩ := (h.embeds_right.draftsTo_iff subset_right).mp he
  refine ⟨List.rel_append hr₁ hr₂, List.rel_append ht₁ ht₂, ?_⟩
  rw [entities_append, hremaining]
  exact List.rel_append he₁ he₂

/-- Where both have drafts, each has its part of them. -/
theorem exists_draftsTo (h : d.Independent e) (hde : (d ++ e).DraftsTo cs relations entities) :
    (∃ cs₁ relations₁ entities₁, d.DraftsTo cs₁ relations₁ entities₁) ∧
      ∃ cs₂ relations₂ entities₂, e.DraftsTo cs₂ relations₂ entities₂ := by
  obtain ⟨cs₁, cs₂, rfl, hr₁, hr₂⟩ := forall₂_append_left_iff.mp hde.resolved
  obtain ⟨relations₁, relations₂, -, ht₁, ht₂⟩ := forall₂_append_left_iff.mp hde.relation_tables
  have hresolved₁ : List.Forall₂ d.Resolves d.relations cs₁ :=
    (forall₂_congr fun r hr c => h.embeds_left.resolves_iff subset_left hr).mpr hr₁
  have hresolved₂ : List.Forall₂ e.Resolves e.relations cs₂ :=
    (forall₂_congr fun r hr c => h.embeds_right.resolves_iff subset_right hr).mpr hr₂
  have hentities := hde.entity_tables
  rw [entities_append, h.remainingEntities_append (entityIds_subset_of_resolved hresolved₁)
    (entityIds_subset_of_resolved hresolved₂)] at hentities
  obtain ⟨entities₁, entities₂, -, he₁, he₂⟩ := forall₂_append_left_iff.mp hentities
  exact ⟨⟨cs₁, relations₁, entities₁,
      (h.embeds_left.draftsTo_iff subset_left).mpr ⟨hr₁, ht₁, he₁⟩⟩,
    cs₂, relations₂, entities₂, (h.embeds_right.draftsTo_iff subset_right).mpr ⟨hr₂, ht₂, he₂⟩⟩

/-! ## Tables -/

/-- Drafts of two diagrams that share no names are merged apart. -/
theorem mergeDrafts_perm (h : d.Independent e) {rs₁ rs₂ es₁ es₂ : List Table}
    (hd : ∀ t ∈ rs₁ ++ es₁, t.name ∈ d.names) (he : ∀ t ∈ rs₂ ++ es₂, t.name ∈ e.names) :
    (mergeDrafts (rs₁ ++ rs₂ ++ (es₁ ++ es₂))).Perm
      (mergeDrafts (rs₁ ++ es₁) ++ mergeDrafts (rs₂ ++ es₂)) := by
  have hleft : ∀ ts : List Table, (∀ t ∈ ts, t.name ∈ d.names) →
      ts.filter (d.names.contains ·.name) = ts ∧ ts.filter (!d.names.contains ·.name) = [] := by
    intro ts hts
    exact ⟨List.filter_eq_self.mpr (by simpa using hts),
      List.filter_eq_nil_iff.mpr (by simpa using hts)⟩
  have hright : ∀ ts : List Table, (∀ t ∈ ts, t.name ∈ e.names) →
      ts.filter (d.names.contains ·.name) = [] ∧ ts.filter (!d.names.contains ·.name) = ts := by
    intro ts hts
    have hnot : ∀ t ∈ ts, t.name ∉ d.names := fun t ht hmem => h.names _ hmem (hts t ht)
    exact ⟨List.filter_eq_nil_iff.mpr (by simpa using hnot),
      List.filter_eq_self.mpr (by simpa using hnot)⟩
  -- the names tell the drafts of one from those of the other, wherever they stand
  rw [List.forall_mem_append] at hd he
  obtain ⟨hrs₁, hrs₁'⟩ := hleft rs₁ hd.1
  obtain ⟨hes₁, hes₁'⟩ := hleft es₁ hd.2
  obtain ⟨hrs₂, hrs₂'⟩ := hright rs₂ he.1
  obtain ⟨hes₂, hes₂'⟩ := hright es₂ he.2
  have hsplit := mergeDrafts_perm_split d.names.contains (rs₁ ++ rs₂ ++ (es₁ ++ es₂))
  simp only [List.filter_append, hrs₁, hrs₂, hes₁, hes₂, hrs₁', hrs₂', hes₁', hes₂',
    List.append_nil, List.nil_append] at hsplit
  exact hsplit

/-- **The tables of both are those of each**, in some order. -/
theorem deriveTables_perm (h : d.Independent e) {ts us : List Table}
    (hd : d.deriveTables = .ok ts) (he : e.deriveTables = .ok us) :
    ∃ vs, (d ++ e).deriveTables = .ok vs ∧ vs.Perm (ts ++ us) := by
  obtain ⟨_, hts, rfl⟩ := deriveTables_ok_iff.mp hd
  obtain ⟨_, hus, rfl⟩ := deriveTables_ok_iff.mp he
  obtain ⟨cs₁, relations₁, entities₁, hdrafts₁, rfl⟩ := drafts_eq_ok.mp hts
  obtain ⟨cs₂, relations₂, entities₂, hdrafts₂, rfl⟩ := drafts_eq_ok.mp hus
  have hboth := h.draftsTo_append hdrafts₁ hdrafts₂
  refine ⟨_, deriveTables_ok_iff.mpr ⟨_, drafts_eq_ok.mpr ⟨_, _, _, hboth, rfl⟩, rfl⟩, ?_⟩
  rw [← List.map_append, List.flatten_append, List.flatten_append]
  exact (h.mergeDrafts_perm hdrafts₁.name_mem hdrafts₂.name_mem).map _

/-- Where both have tables, each has. -/
theorem exists_deriveTables (h : d.Independent e) {vs : List Table}
    (hde : (d ++ e).deriveTables = .ok vs) :
    (∃ ts, d.deriveTables = .ok ts) ∧ ∃ us, e.deriveTables = .ok us := by
  obtain ⟨_, hvs, rfl⟩ := deriveTables_ok_iff.mp hde
  obtain ⟨cs, relations, entities, hdrafts, rfl⟩ := drafts_eq_ok.mp hvs
  obtain ⟨⟨cs₁, relations₁, entities₁, h₁⟩, cs₂, relations₂, entities₂, h₂⟩ :=
    h.exists_draftsTo hdrafts
  exact ⟨⟨_, deriveTables_ok_iff.mpr ⟨_, drafts_eq_ok.mpr ⟨_, _, _, h₁, rfl⟩, rfl⟩⟩,
    _, deriveTables_ok_iff.mpr ⟨_, drafts_eq_ok.mpr ⟨_, _, _, h₂, rfl⟩, rfl⟩⟩

/-! ## Checks -/

theorem isEmpty_append (d e : Diagram) : (d ++ e).isEmpty = (d.isEmpty && e.isEmpty) := by
  rw [Bool.eq_iff_iff]
  simp only [Diagram.isEmpty, entities_append, relations_append, Bool.and_eq_true,
    List.isEmpty_iff, List.append_eq_nil_iff]
  exact and_and_and_comm

theorem names_append_perm (d e : Diagram) : (d ++ e).names.Perm (d.names ++ e.names) := by
  unfold Diagram.names
  rw [entities_append, relations_append, List.map_append, List.map_append, List.append_assoc,
    List.append_assoc]
  refine List.Perm.append_left _ ?_
  rw [← List.append_assoc, ← List.append_assoc]
  exact List.perm_append_comm.append_right _

theorem hasRepeat_names_append (h : d.Independent e) :
    hasRepeat (d ++ e).names = (hasRepeat d.names || hasRepeat e.names) := by
  have hdisjoint : ∀ m ∈ d.names, ∀ n ∈ e.names, m ≠ n :=
    fun m hm n hn heq => h.names m hm (heq ▸ hn)
  have hiff : hasRepeat (d ++ e).names = false ↔
      hasRepeat d.names = false ∧ hasRepeat e.names = false := by
    rw [hasRepeat_eq_false, hasRepeat_eq_false, hasRepeat_eq_false,
      (names_append_perm d e).nodup_iff, List.nodup_append]
    exact ⟨fun ⟨hd, he, _⟩ => ⟨hd, he⟩, fun ⟨hd, he⟩ => ⟨hd, he, hdisjoint⟩⟩
  cases hd : hasRepeat d.names <;> cases he : hasRepeat e.names <;> simp_all

theorem passesDiagram_append (h : d.Independent e) (hd : d.isEmpty = false)
    (he : e.isEmpty = false) (c : Check) :
    c.passesDiagram (d ++ e) = (c.passesDiagram d && c.passesDiagram e) := by
  cases c
  case notEmpty => simp [Check.passesDiagram, isEmpty_append, hd, he]
  case noRepeatedNames => simp [Check.passesDiagram, h.hasRepeat_names_append]
  all_goals rfl

/-- **Both pass a check iff each does**, where neither is empty. -/
theorem holds_append (h : d.Independent e) (hd : d.isEmpty = false) (he : e.isEmpty = false)
    (c : Check) :
    c.holds (d ++ e) (Index.ofDiagram (d ++ e)) =
      (c.holds d (Index.ofDiagram d) && c.holds e (Index.ofDiagram e)) := by
  have hentities₁ := h.embeds_left.all_passesEntity c
  have hentities₂ := h.embeds_right.all_passesEntity c
  have hrelations₁ := h.embeds_left.all_passesRelation
    (List.forall₂_same.mpr fun r _ => relabels_id r) c
  have hrelations₂ := h.embeds_right.all_passesRelation
    (List.forall₂_same.mpr fun r _ => relabels_id r) c
  rw [map_relabel_id] at hentities₁ hentities₂
  rw [Check.holds_eq, Check.holds_eq, Check.holds_eq, h.passesDiagram_append hd he,
    entities_append, relations_append, List.all_append, List.all_append, hentities₁, hentities₂,
    hrelations₁, hrelations₂]
  ac_rfl

/-- **Independent diagrams compile apart.** -/
theorem compile_apart (h : d.Independent e) :
    ((∃ vs, (d ++ e).deriveTables = .ok vs) ↔
        (∃ ts, d.deriveTables = .ok ts) ∧ ∃ us, e.deriveTables = .ok us) ∧
      (∀ ts us vs, d.deriveTables = .ok ts → e.deriveTables = .ok us →
        (d ++ e).deriveTables = .ok vs → vs.Perm (ts ++ us)) ∧
      (d.isEmpty = false → e.isEmpty = false →
        ((d ++ e).validate.isValid = true ↔
          d.validate.isValid = true ∧ e.validate.isValid = true)) := by
  refine ⟨⟨fun ⟨vs, hvs⟩ => h.exists_deriveTables hvs, ?_⟩, ?_, fun hd he => ?_⟩
  · rintro ⟨⟨ts, hts⟩, us, hus⟩
    obtain ⟨vs, hvs, -⟩ := h.deriveTables_perm hts hus
    exact ⟨vs, hvs⟩
  · intro ts us vs hts hus hvs
    obtain ⟨vs', hvs', hperm⟩ := h.deriveTables_perm hts hus
    rwa [Except.ok.inj (hvs.symm.trans hvs')]
  · simp only [validate_isValid, h.holds_append hd he, Bool.and_eq_true, forall_and]

end Independent

/-- A depot with weak shelves, which knows nothing of the shop. -/
def depot : Diagram where
  entities := [
    ⟨"d", "Depot", false, [.ofKey "town", .ofName "size"]⟩,
    ⟨"s", "Shelf", true, [.ofDiscriminant "row"]⟩,
    ⟨"k", "Keeper", false, [.ofKey "number"]⟩]
  relations := [
    ⟨"r1", "holds", ⟨"s", "1:N"⟩, ⟨"d", "1:1"⟩, true, false, []⟩,
    ⟨"r2", "keeps", ⟨"k", "0:1"⟩, ⟨"d", "1:1"⟩, false, false, []⟩]

theorem shop_and_depot :
    shop.Independent depot ∧
      ((∃ vs, (shop ++ depot).deriveTables = .ok vs) ↔
        (∃ ts, shop.deriveTables = .ok ts) ∧ ∃ us, depot.deriveTables = .ok us) ∧
      (∀ ts us vs, shop.deriveTables = .ok ts → depot.deriveTables = .ok us →
        (shop ++ depot).deriveTables = .ok vs → vs.Perm (ts ++ us)) ∧
      (shop.isEmpty = false → depot.isEmpty = false →
        ((shop ++ depot).validate.isValid = true ↔
          shop.validate.isValid = true ∧ depot.validate.isValid = true)) := by
  have h : shop.Independent depot := by decide +kernel
  exact ⟨h, h.compile_apart⟩

end Diagram

end ErSchema
