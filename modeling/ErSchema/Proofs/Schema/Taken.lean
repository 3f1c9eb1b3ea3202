import ErSchema.Proofs.Schema.Forms

/-!
# Names taken in tables

The table of a strong entity has columns for the attributes of the entity and for the references
that it holds, and it has them from the first relation on that involves the entity. A later draft
adds a column only under a name that is not taken by then.

* `mem_drafts_iff`: what one relation drafts for a strong entity.
* `mem_draftedNames_relations`: the names that relations draft for it are `takenNames`.
-/

namespace ErSchema

/-- The names of the columns that an entity's table has behind some relations: those of its
attributes and of the references that it holds. Before the first relation that involves the entity
there is no table. -/
def takenNames (before : List ClassifiedRelation) (e : Entity) : List String :=
  if before.any (·.involves e) then
    e.attributes.map (·.name) ++
      (before.filter fun c => c.isLink && c.holder.entity = e).flatMap (·.references.map (·.name))
  else []

namespace Diagram

variable {d : Diagram}

namespace WellFormed

/-! ## What relations draft for a strong entity -/

theorem face_name_iff (h : d.WellFormed) {r : Relation} {c : ClassifiedRelation}
    (hr : d.Resolves r c) {e : Entity} (he : e ∈ d.entities) {s t : ClassifiedSide}
    (hf : c.Faces s t) : s.entity.name = e.name ↔ s.entity = e :=
  ⟨h.entity_eq_of_name (hr.face hf).1 he, congrArg Entity.name⟩

/-- **A relation drafts one table for each strong entity on its sides**, with its references if that
entity holds them. -/
theorem mem_drafts_iff (h : d.WellFormed) {r : Relation} {c : ClassifiedRelation}
    (hr : d.Resolves r c) {e : Entity} (he : e ∈ d.strongEntities) {t : Table} :
    t ∈ c.drafts ∧ t.name = e.name ↔
      c.involves e = true ∧
        t = if c.isLink && c.holder.entity = e then c.holderTable else e.table := by
  obtain ⟨hmem, hstrong⟩ := mem_strongEntities.mp he
  rcases h.drafts_cases hr with ⟨hc, es, heq, hes⟩ | ⟨hc, hs, es, heq, hes⟩ | ⟨hc, hties, heq⟩
  · have hlink : c.isLink = false := by simp [ClassifiedRelation.isLink, hc]
    rw [heq, hlink, Bool.false_and, if_neg (by simp), List.mem_append, List.mem_singleton]
    constructor
    · rintro ⟨ht | rfl, hn⟩
      · obtain ⟨e', he', rfl⟩ := List.mem_map.mp ht
        have hi := (hes e').mp he'
        have hee := h.entity_eq_of_name
          (mem_strongEntities.mp (h.strong_of_involves hr hc hi)).1 hmem hn
        exact ⟨hee ▸ hi, congrArg Entity.table hee⟩
      · exact absurd (hn.symm.trans hr.name) (h.entity_name_ne hmem hr.mem)
    · rintro ⟨hi, rfl⟩
      exact ⟨Or.inl (List.mem_map.mpr ⟨e, (hes e).mpr hi, rfl⟩), rfl⟩
  · have hlink := ClassifiedRelation.isLink_of_strong hc (mem_strongEntities.mp hs).2
    have hholder := h.face_name_iff hr hmem c.link_faces
    rw [heq, hlink, Bool.true_and, ClassifiedRelation.involves_iff, List.mem_append,
      List.mem_singleton]
    simp only [decide_eq_true_eq]
    constructor
    · rintro ⟨ht | rfl, hn⟩
      · obtain ⟨e', he', rfl⟩ := List.mem_map.mp ht
        obtain ⟨rfl, hne⟩ := (hes e').mp he'
        have hee := (h.face_name_iff hr hmem c.link_faces.symm).mp hn
        exact ⟨Or.inr hee, by rw [if_neg fun hh => hne (hee.trans hh.symm), hee]⟩
      · exact ⟨Or.inl (hholder.mp hn), by rw [if_pos (hholder.mp hn)]⟩
    · rintro ⟨hi, rfl⟩
      by_cases hh : c.holder.entity = e
      · rw [if_pos hh]
        exact ⟨Or.inr rfl, congrArg Entity.name hh⟩
      · have hee : e = c.target.entity := (hi.resolve_left hh).symm
        rw [if_neg hh]
        exact ⟨Or.inl (List.mem_map.mpr ⟨e, (hes e).mpr ⟨hee, Ne.symm hh⟩, rfl⟩), rfl⟩
  · -- only the owner's table is drafted, and the holder is not the entity
    have hlink : c.isLink = false := by simp [ClassifiedRelation.isLink, hties]
    have hne : c.holder.entity ≠ e := by
      rintro rfl
      rw [ClassifiedRelation.isWeak_of_tiesWeak hties] at hstrong
      exact absurd hstrong (by simp)
    have htarget := h.face_name_iff hr hmem c.link_faces.symm
    rw [heq, hlink, Bool.false_and, if_neg (by simp), ClassifiedRelation.involves_iff,
      List.mem_singleton]
    constructor
    · rintro ⟨rfl, hn⟩
      exact ⟨Or.inr (htarget.mp hn), congrArg Entity.table (htarget.mp hn)⟩
    · rintro ⟨hi, rfl⟩
      exact ⟨congrArg Entity.table (hi.resolve_left hne).symm, rfl⟩

theorem mem_draftedNames_relation (h : d.WellFormed) {r : Relation} {c : ClassifiedRelation}
    (hr : d.Resolves r c) {e : Entity} (he : e ∈ d.strongEntities) {n : String} :
    n ∈ draftedNames c.drafts e.name ↔
      c.involves e = true ∧ (n ∈ e.attributes.map (·.name) ∨
        (c.isLink && c.holder.entity = e) = true ∧ n ∈ c.references.map (·.name)) := by
  have hown : n ∈ e.table.columns.map (·.name) ↔ n ∈ e.attributes.map (·.name) := by
    simp [Entity.table, Column.ofAttribute]
  have htable : (∃ t ∈ c.drafts, t.name = e.name ∧ n ∈ t.columns.map (·.name)) ↔
      c.involves e = true ∧ n ∈ (if c.isLink && c.holder.entity = e then c.holderTable
        else e.table).columns.map (·.name) := by
    constructor
    · rintro ⟨t, ht, hn, hc⟩
      obtain ⟨hi, rfl⟩ := (h.mem_drafts_iff hr he).mp ⟨ht, hn⟩
      exact ⟨hi, hc⟩
    · rintro ⟨hi, hc⟩
      obtain ⟨ht, hn⟩ := (h.mem_drafts_iff hr he).mpr ⟨hi, rfl⟩
      exact ⟨_, ht, hn, hc⟩
  have hiff : n ∈ draftedNames c.drafts e.name ↔
      ∃ t ∈ c.drafts, t.name = e.name ∧ n ∈ t.columns.map (·.name) := by
    simp [mem_draftedNames]
  rw [hiff, htable]
  refine and_congr_right fun _ => ?_
  by_cases hl : (c.isLink && c.holder.entity = e) = true
  · have hs : c.holder.entity = e := by simpa using (Bool.and_eq_true_iff.mp hl).2
    rw [if_pos hl]
    simp only [hl, true_and]
    unfold ClassifiedRelation.holderTable
    rw [List.map_append, List.mem_append, hs, hown]
  · rw [if_neg hl, hown]
    simp only [hl, Bool.false_eq_true, false_and, or_false]

/-- **The names that relations draft for a strong entity are taken.** -/
theorem mem_draftedNames_relations (h : d.WellFormed) {before : List ClassifiedRelation}
    (hb : ∀ c ∈ before, ∃ r, d.Resolves r c) {e : Entity} (he : e ∈ d.strongEntities) {n : String} :
    n ∈ draftedNames (before.flatMap (·.drafts)) e.name ↔ n ∈ takenNames before e := by
  have hiff : n ∈ draftedNames (before.flatMap (·.drafts)) e.name ↔
      ∃ c ∈ before, n ∈ draftedNames c.drafts e.name := by
    simp only [mem_draftedNames, List.mem_flatMap]
    constructor
    · rintro ⟨t, ⟨c, hc, ht⟩, hrest⟩
      exact ⟨c, hc, t, ht, hrest⟩
    · rintro ⟨c, hc, t, ht, hrest⟩
      exact ⟨t, ⟨c, hc, ht⟩, hrest⟩
  rw [hiff]
  unfold takenNames
  constructor
  · rintro ⟨c, hc, hn⟩
    obtain ⟨r, hr⟩ := hb c hc
    obtain ⟨hi, hn⟩ := (h.mem_draftedNames_relation hr he).mp hn
    rw [if_pos (List.any_eq_true.mpr ⟨c, hc, hi⟩), List.mem_append, List.mem_flatMap]
    rcases hn with hn | ⟨hl, hn⟩
    · exact Or.inl hn
    · exact Or.inr ⟨c, List.mem_filter.mpr ⟨hc, hl⟩, hn⟩
  · intro hn
    by_cases hany : before.any (·.involves e) = true
    · rw [if_pos hany, List.mem_append, List.mem_flatMap] at hn
      rcases hn with hn | ⟨c, hc, hn⟩
      · obtain ⟨c, hc, hi⟩ := List.any_eq_true.mp hany
        obtain ⟨r, hr⟩ := hb c hc
        exact ⟨c, hc, (h.mem_draftedNames_relation hr he).mpr ⟨hi, Or.inl hn⟩⟩
      · obtain ⟨hc, hl⟩ := List.mem_filter.mp hc
        obtain ⟨r, hr⟩ := hb c hc
        have hs : c.holder.entity = e := by simpa using (Bool.and_eq_true_iff.mp hl).2
        exact ⟨c, hc, (h.mem_draftedNames_relation hr he).mpr
          ⟨ClassifiedRelation.involves_iff.mpr (Or.inl hs), Or.inr ⟨hl, hn⟩⟩⟩
    · rw [if_neg hany] at hn
      exact absurd hn List.not_mem_nil

end WellFormed

end Diagram

end ErSchema
