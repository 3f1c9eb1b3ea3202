import ErSchema.Proofs.Schema.Forms
import ErSchema.Proofs.Schema.Gate
import ErSchema.Proofs.Table.Keys

/-!
# References between derived tables

A foreign key names the table of a strong entity, and that table is always among those derived: it
is drafted by the very relation that the reference is for, also where the relation is reflexive or
ties a weak entity. The key of the table referred to is one column, so that a reference of one
column is enough.

* `WellFormed.target_of_merged`: what a column refers to, before names are sanitized.
* `references_resolve`: no reference of a valid diagram dangles.
-/

namespace ErSchema

/-- No reference between tables dangles: each foreign key, and each statement that declares one,
names a table with a single key. -/
structure ReferencesResolve (ts : List Table) : Prop where
  columns : ∀ t ∈ ts, ∀ x ∈ t.columns, ∀ n, x.foreignKey = some n →
    ∃ u ∈ ts, u.name = n ∧ u.HasSingleKey
  statements : ∀ s ∈ ts.flatMap (·.foreignKeyStatements), ∃ t ∈ ts, ∃ x ∈ t.columns, ∃ u ∈ ts,
    u.HasSingleKey ∧
      s = foreignKeyStatement (identifier t.name) (identifier x.name) (identifier u.name)

namespace Diagram

variable {d : Diagram}

/-- **What a merged column refers to is the merged table of a strong entity.** -/
theorem WellFormed.target_of_merged (h : d.WellFormed) {drafts : List Table}
    (hd : d.drafts = .ok drafts) {t : Table} (ht : t ∈ mergeDrafts drafts) {x : Column}
    (hx : x ∈ t.columns) {n : String} (hn : x.foreignKey = some n) :
    ∃ e ∈ d.strongEntities, e.name = n ∧ ∃ refs, (∀ y ∈ refs, d.Refers e y) ∧
      ⟨e.name, e.table.columns ++ refs⟩ ∈ mergeDrafts drafts := by
  obtain ⟨r, c, s, s', hr, hf, he, hname⟩ := (h.form_of_mem_merged hd t ht).refersTo h hx hn
  have hstrong := (WellFormed.mem_strongEntities.mp he).2
  obtain ⟨u, hu, hun⟩ := h.exists_merged_of_face hd hr hf hstrong
  obtain ⟨refs, rfl, hrefs⟩ := (h.form_of_mem_merged hd u hu).strong_of_name h he hun
  exact ⟨s.entity, he, hname, refs, hrefs, hu⟩

/-- **What a derived column refers to is a derived table with a single key.** -/
theorem WellFormed.target_of_derived (h : d.WellFormed) {drafts : List Table}
    (hd : d.drafts = .ok drafts) {t : Table} (ht : t ∈ (mergeDrafts drafts).map (·.sanitize))
    {x : Column} (hx : x ∈ t.columns) {n : String} (hn : x.foreignKey = some n) :
    ∃ u ∈ (mergeDrafts drafts).map (·.sanitize), u.name = n ∧ u.HasSingleKey := by
  obtain ⟨t', ht', rfl⟩ := List.mem_map.mp ht
  obtain ⟨y, hy, hs⟩ := Table.exists_of_mem_sanitize hx
  rw [hs.foreignKey, Option.map_eq_some_iff] at hn
  obtain ⟨m, hm, rfl⟩ := hn
  obtain ⟨e, he, hname, refs, hrefs, hu⟩ := h.target_of_merged hd ht' hy hm
  obtain ⟨a, k, -, hk, hkeys⟩ := h.key_sanitize_strong he hrefs
  exact ⟨_, List.mem_map.mpr ⟨_, hu, rfl⟩, congrArg Text.foldDiacritics hname, k, hkeys,
    hk.isForeignKey⟩

/-- **No reference of a valid diagram dangles.** -/
theorem references_resolve (hv : d.validate.isValid = true) :
    ∃ ts, d.deriveTables = .ok ts ∧ ReferencesResolve ts := by
  have h := wellFormed_of_isValid hv
  obtain ⟨drafts, hd, hts⟩ := h.deriveTables_eq
  refine ⟨_, hts, ⟨fun t ht x hx n hn => h.target_of_derived hd ht hx hn, fun s hs => ?_⟩⟩
  obtain ⟨t, ht, hs⟩ := List.mem_flatMap.mp hs
  obtain ⟨x, hx, hxs⟩ := List.mem_filterMap.mp hs
  obtain ⟨n, hn, rfl⟩ := Option.map_eq_some_iff.mp hxs
  obtain ⟨u, hu, hun, hkey⟩ := h.target_of_derived hd ht hx hn
  exact ⟨t, ht, x, hx, u, hu, hkey, by rw [hun]⟩

theorem shop_references : ∃ ts, shop.deriveTables = .ok ts ∧ ReferencesResolve ts :=
  references_resolve (by decide +kernel)

end Diagram

end ErSchema
