import ErSchema.Proofs.Schema.Growth

/-!
# The columns of a strong entity

The table of a strong entity may be drafted by any number of relations, for which the entity is on
the one side or the other, or on both. Each of these drafts starts with the attributes of the
entity, and what is merged behind them are references. Sanitizing goes from left to right, so the
references make way for the attributes: these come out as if the entity stood alone.

* `Entity.shows_sanitize_table`: what the attributes of an entity come out as.
* `WellFormed.contributes_of_refers`: what else is in its table comes from a relation on its sides.
* `attributes_stable`: the columns of a strong entity.
-/

namespace ErSchema

/-- What the column of an attribute is, under whatever name: part of the key if the attribute is,
and not constrained otherwise. -/
structure Column.Shows (a : Attribute) (c : Column) : Prop where
  key : c.key = a.key
  notNull : c.notNull = false
  unique : c.unique = false
  foreignKey : c.foreignKey = none

/-- **What the attributes of an entity come out as**, one by one. -/
theorem Entity.shows_sanitize_table (e : Entity) :
    List.Forall₂ Column.Shows e.attributes e.table.sanitize.columns := by
  have h := sanitizes_sanitizeColumns [] e.table.columns
  refine (List.forall₂_map_left_iff.mp h).imp fun a c hs => ?_
  obtain ⟨taken, rfl⟩ := hs
  exact ⟨rfl, rfl, rfl, rfl⟩

namespace Diagram

/-- Whether a relation puts a column into the table of an entity: it touches the id of the entity,
and among its drafts there is one for that table with the foreign key that the column comes from. -/
structure Contributes (d : Diagram) (r : Relation) (e : Entity) (x : Column) : Prop where
  mem : r ∈ d.relations
  touches : r.touches e.id = true
  drafted : ∃ c ts, d.Resolves r c ∧ (Classified.relation c).tables (Index.ofDiagram d) = .ok ts ∧
    ∃ t ∈ ts, t.name = e.name ∧ ∃ y ∈ t.columns, y.isForeignKey = true ∧ y.Sanitizes x

variable {d : Diagram}

/-- **A reference comes from a relation** that has the entity on a side. -/
theorem WellFormed.contributes_of_refers (h : d.WellFormed) {e : Entity}
    (he : e ∈ d.strongEntities) {y x : Column} (hy : d.Refers e y) (hs : y.Sanitizes x) :
    x.key = false ∧ x.isForeignKey = true ∧ ∃ r, d.Contributes r e x := by
  have hkey := hy.not_key
  obtain ⟨r, c, hr, hc, rfl, hmem⟩ := hy
  have hforeign : y.isForeignKey = true := by
    obtain ⟨a, -, rfl⟩ := List.mem_map.mp hmem
    rfl
  have hlink : (c.isLink && c.holder.entity = c.holder.entity) = true := by
    rw [ClassifiedRelation.isLink_of_strong hc (WellFormed.mem_strongEntities.mp he).2]
    exact decide_eq_true rfl
  have hinvolves := ClassifiedRelation.involves_iff.mpr (Or.inl (rfl : c.holder.entity = _))
  have hdraft := (h.mem_drafts_iff hr he).mpr ⟨hinvolves, (if_pos hlink).symm⟩
  refine ⟨hs.key.trans hkey, hs.isForeignKey.trans hforeign, r, hr.mem,
    (hr.face c.link_faces).2.2, c, c.drafts, hr, hr.tables_eq h, c.holderTable, hdraft.1, rfl, y,
    List.mem_append_right _ hmem, hforeign, hs⟩

/-- **The columns of a strong entity are stable.** In a valid diagram the table that comes from a
strong entity starts with the columns that the entity has alone, under the names that these have
there: one for each attribute, in order. All other columns are foreign keys outside the key, each
put there by a relation that touches the entity. -/
theorem attributes_stable (hv : d.validate.isValid = true) :
    ∃ ts, d.deriveTables = .ok ts ∧ ∀ t ∈ ts, ∀ e ∈ d.strongEntities, d.ComesFrom (.entity e) t →
      ∃ more, t.columns = e.table.sanitize.columns ++ more ∧
        List.Forall₂ Column.Shows e.attributes e.table.sanitize.columns ∧
        ∀ x ∈ more, x.key = false ∧ x.isForeignKey = true ∧ ∃ r, d.Contributes r e x := by
  have h := wellFormed_of_isValid hv
  obtain ⟨drafts, hd, hts⟩ := h.mergedTables_eq
  refine ⟨_, deriveTables_eq_ok hts, fun t _ e he hcomes => ?_⟩
  obtain ⟨-, ts, hts', u, hu, hname, rfl⟩ := hcomes
  obtain rfl := Except.ok.inj (hts.symm.trans hts')
  obtain ⟨refs, rfl, hrefs⟩ := (h.form_of_mem_merged hd u hu).strong_of_name h he hname
  obtain ⟨names, hcolumns⟩ := sanitizeColumns_append [] e.table.columns refs
  refine ⟨sanitizeColumns names refs, hcolumns, e.shows_sanitize_table, fun x hx => ?_⟩
  obtain ⟨y, hy, hs⟩ := exists_of_forall₂_right (sanitizes_sanitizeColumns names refs) hx
  exact h.contributes_of_refers he (hrefs y hy) hs

theorem gallery_attributes :
    (gallery.withRelation paints).validate.isValid = true ∧
      ∃ ts, (gallery.withRelation paints).deriveTables = .ok ts ∧
        ∀ t ∈ ts, ∀ e ∈ (gallery.withRelation paints).strongEntities,
          (gallery.withRelation paints).ComesFrom (.entity e) t →
            ∃ more, t.columns = e.table.sanitize.columns ++ more ∧
              List.Forall₂ Column.Shows e.attributes e.table.sanitize.columns ∧
              ∀ x ∈ more, x.key = false ∧ x.isForeignKey = true ∧
                ∃ r, (gallery.withRelation paints).Contributes r e x := by
  have hv : (gallery.withRelation paints).validate.isValid = true := by decide +kernel
  exact ⟨hv, attributes_stable hv⟩

example : (gallery.withRelation paints).deriveTables.toOption.map
      (fun ts => ts.map fun t => t.columns.map (·.name)) =
    some [["id"], ["id", "id_paints", "id_paints_1"]] := by
  decide +kernel

end Diagram

end ErSchema
