import ErSchema.Proofs.Diagram.Validity
import ErSchema.Proofs.Lists
import ErSchema.Proofs.Table.Merging
import ErSchema.Schema

/-!
# The stages of the compilation

What the stages give one another in any diagram that can be mapped, valid or not: each relation its
resolved form, each record its drafts, and all drafts the tables. A draft is named for an entity or
a relation of the diagram.

* `drafts_eq_ok`: the drafts are those of the relations and then those of the entities that remain.
* `deriveTables_ok_iff`: the tables are the drafts, merged and sanitized.
* `DraftsTo.name_mem`: what drafts are named.
-/

namespace ErSchema

namespace Diagram

/-! ## Drafts -/

/-- The drafts of a diagram, record by record: those of its relations, which are resolved first, and
those of the entities that remain. -/
structure DraftsTo (d : Diagram) (cs : List ClassifiedRelation) (relations entities :
    List (List Table)) : Prop where
  resolved : List.Forall₂ d.Resolves d.relations cs
  relation_tables : List.Forall₂
    (fun c ts => (Classified.relation c).tables (Index.ofDiagram d) = .ok ts) cs relations
  entity_tables : List.Forall₂
    (fun e ts => (Classified.entity e).tables (Index.ofDiagram d) = .ok ts)
    (remainingEntities cs d.entities) entities

variable {d : Diagram}

theorem mapM_resolve_eq_ok {cs : List ClassifiedRelation} :
    d.relations.mapM (resolveRelation (Index.ofDiagram d)) = .ok cs ↔
      List.Forall₂ d.Resolves d.relations cs := by
  rw [mapM_eq_ok_iff_forall₂]
  constructor
  · exact fun h => (forall₂_with_mem h).imp fun _ _ ⟨hr, _, hc⟩ => ⟨hr, hc⟩
  · exact fun h => h.imp fun _ _ hr => hr.resolved

/-- **All drafts**, where all relations resolve and no rule fails. -/
theorem drafts_eq_ok {ts : List Table} :
    d.drafts = .ok ts ↔
      ∃ cs relations entities, d.DraftsTo cs relations entities ∧
        ts = relations.flatten ++ entities.flatten := by
  unfold drafts ErSchema.classify
  simp only [bind_eq_ok, mapM_resolve_eq_ok, pure, Except.pure, Except.ok.injEq]
  simp only [mapM_eq_ok_iff_forall₂]
  constructor
  · rintro ⟨records, ⟨cs, hcs, rfl⟩, tables, htables, rfl⟩
    obtain ⟨relations, entities, rfl, hrelations, hentities⟩ := forall₂_append_left_iff.mp htables
    rw [List.forall₂_map_left_iff] at hrelations hentities
    exact ⟨cs, relations, entities, ⟨hcs, hrelations, hentities⟩, List.flatten_append⟩
  · rintro ⟨cs, relations, entities, ⟨hcs, hrelations, hentities⟩, rfl⟩
    refine ⟨_, ⟨cs, hcs, rfl⟩, relations ++ entities, ?_, List.flatten_append⟩
    exact List.rel_append (List.forall₂_map_left_iff.mpr hrelations)
      (List.forall₂_map_left_iff.mpr hentities)

/-- **The tables are the drafts, merged and sanitized.** -/
theorem deriveTables_ok_iff {us : List Table} :
    d.deriveTables = .ok us ↔
      ∃ ts, d.drafts = .ok ts ∧ (mergeDrafts ts).map (·.sanitize) = us := by
  unfold deriveTables mergedTables
  simp only [bind_eq_ok, pure, Except.pure, Except.ok.injEq, TableMerger.toList_extend]
  constructor
  · rintro ⟨_, ⟨ts, hts, rfl⟩, hus⟩
    exact ⟨ts, hts, hus⟩
  · rintro ⟨ts, hts, hus⟩
    exact ⟨_, ⟨ts, hts, rfl⟩, hus⟩

end Diagram

/-! ## Names of drafts -/

namespace ClassifiedRelation

variable {c : ClassifiedRelation} {ts : List Table} {t : Table}

/-- Whether a table is named for a relation or for an entity on one of its sides. -/
def Names (c : ClassifiedRelation) (t : Table) : Prop :=
  t.name = c.name ∨ ∃ s u, c.Faces s u ∧ t.name = s.entity.name

theorem Names.of_relation (hn : t.name = c.name) : c.Names t := Or.inl hn

theorem Names.of_face {s u : ClassifiedSide} (hf : c.Faces s u) (hn : t.name = s.entity.name) :
    c.Names t :=
  Or.inr ⟨s, u, hf, hn⟩

theorem faces_oneAndMany (c : ClassifiedRelation) : c.Faces c.oneAndMany.1 c.oneAndMany.2 := by
  unfold oneAndMany
  split <;> simp [Faces]

theorem faces_holderAndTarget (c : ClassifiedRelation) :
    c.Faces c.holderAndTarget.1 c.holderAndTarget.2 := by
  unfold holderAndTarget
  split <;> simp [Faces]

theorem names_of_oneToMany (h : c.oneToManyTables = .ok ts) : ∀ t ∈ ts, c.Names t := by
  have hone := c.faces_oneAndMany
  unfold oneToManyTables at h
  obtain ⟨references, -, h⟩ := bind_eq_ok.mp h
  split at h
  · cases h
    simpa using Names.of_face hone.symm rfl
  · split at h <;> cases h
    · simpa using Names.of_face hone rfl
    · simpa using ⟨Names.of_face hone rfl, Names.of_face hone.symm rfl⟩

theorem names_of_oneToOne (h : c.oneToOneTables = .ok ts) : ∀ t ∈ ts, c.Names t := by
  have hholder := c.faces_holderAndTarget
  unfold oneToOneTables at h
  split at h
  · cases h
    simpa using Names.of_relation rfl
  · obtain ⟨references, -, h⟩ := bind_eq_ok.mp h
    split at h <;> cases h
    · simpa using Names.of_face hholder rfl
    · simpa using ⟨Names.of_face hholder.symm rfl, Names.of_face hholder rfl⟩

theorem names_of_manyToMany (h : c.manyToManyTables = .ok ts) : ∀ t ∈ ts, c.Names t := by
  have h1 : c.Faces c.side1 c.side2 := Or.inl ⟨rfl, rfl⟩
  unfold manyToManyTables at h
  obtain ⟨first, -, h⟩ := bind_eq_ok.mp h
  obtain ⟨second, -, h⟩ := bind_eq_ok.mp h
  split at h <;> cases h
  · simpa using ⟨Names.of_face h1 rfl, Names.of_relation rfl⟩
  · simpa using ⟨Names.of_face h1 rfl, Names.of_face h1.symm rfl, Names.of_relation rfl⟩

/-- **A draft of a relation is named for it or for an entity on one of its sides.** -/
theorem names_of_tables {index : Index} (h : (Classified.relation c).tables index = .ok ts) :
    ∀ t ∈ ts, c.Names t := by
  simp only [Classified.tables] at h
  split at h
  · exact names_of_oneToOne h
  · exact names_of_oneToMany h
  · exact names_of_manyToMany h

end ClassifiedRelation

/-- **A draft of an entity is named for it.** -/
theorem name_of_entity_tables {index : Index} {e : Entity} {ts : List Table}
    (h : (Classified.entity e).tables index = .ok ts) : ∀ t ∈ ts, t.name = e.name := by
  simp only [Classified.tables] at h
  split at h
  · unfold weakEntityTables at h
    split at h
    · cases h
      simp
    · simp only at h
      split at h
      · exact absurd h (by simp)
      · obtain ⟨references, -, h⟩ := bind_eq_ok.mp h
        cases h
        simp
  · cases h
    simp [Entity.table]

namespace Diagram

variable {d : Diagram}

theorem mem_names_of_entity {e : Entity} (he : e ∈ d.entities) : e.name ∈ d.names :=
  List.mem_append_left _ (List.mem_map.mpr ⟨e, he, rfl⟩)

theorem mem_names_of_relation {r : Relation} (hr : r ∈ d.relations) : r.name ∈ d.names :=
  List.mem_append_right _ (List.mem_map.mpr ⟨r, hr, rfl⟩)

theorem Resolves.mem_names {r : Relation} {c : ClassifiedRelation} (hr : d.Resolves r c) {t : Table}
    (ht : c.Names t) : t.name ∈ d.names := by
  rcases ht with hn | ⟨s, u, hf, hn⟩
  · rw [hn, hr.name]
    exact mem_names_of_relation hr.mem
  · rw [hn]
    exact mem_names_of_entity (hr.face hf).1

/-- **A draft is named for an entity or a relation of its diagram.** -/
theorem DraftsTo.name_mem {cs : List ClassifiedRelation} {relations entities : List (List Table)}
    (h : d.DraftsTo cs relations entities) :
    ∀ t ∈ relations.flatten ++ entities.flatten, t.name ∈ d.names := by
  intro t ht
  rcases List.mem_append.mp ht with ht | ht
  · obtain ⟨ts, hts, ht⟩ := List.mem_flatten.mp ht
    obtain ⟨c, hc, htables⟩ := exists_of_forall₂_right h.relation_tables hts
    obtain ⟨r, -, hr⟩ := exists_of_forall₂_right h.resolved hc
    exact hr.mem_names (ClassifiedRelation.names_of_tables htables t ht)
  · obtain ⟨ts, hts, ht⟩ := List.mem_flatten.mp ht
    obtain ⟨e, he, htables⟩ := exists_of_forall₂_right h.entity_tables hts
    rw [name_of_entity_tables htables t ht]
    exact mem_names_of_entity (List.mem_filter.mp he).1

end Diagram

end ErSchema
