import ErSchema.Proofs.Schema.Forms
import ErSchema.Proofs.Schema.Gate
import ErSchema.Proofs.Table.Keys

/-!
# Primary keys of derived tables

Each derived table has one primary key, of the kind that its form asks for: one column of its own
for a strong entity, the references to both sides for a junction table, and the reference to the
owner with the discriminants for a weak entity. The statement of the table declares it once.

* `WellFormed.keyed_of_form`: the key of each form, after sanitizing.
* `keyed_of_derived`: every table of a valid diagram is keyed.
-/

namespace ErSchema

namespace Diagram

/-- **What the primary key of a derived table is and how it is declared.** -/
inductive Keyed (d : Diagram) (t : Table) : Prop
  | strong (e : Entity) (refs : List Column) (k : Column) (he : e ∈ d.strongEntities)
      (ht : t = (⟨e.name, e.table.columns ++ refs⟩ : Table).sanitize)
      (hkeys : t.keyColumns = [k]) (hk : k.isForeignKey = false) (hdecl : t.DeclaredInline)
  | junction (r : Relation) (c : ClassifiedRelation) (k₁ k₂ : Column) (hr : d.Resolves r c)
      (hc : c.relationClass = .manyToMany) (ht : t = c.junctionTable.sanitize)
      (hkeys : t.keyColumns = [k₁, k₂])
      (hk₁ : k₁.foreignKey = some (Text.foldDiacritics c.side1.entity.name))
      (hk₂ : k₂.foreignKey = some (Text.foldDiacritics c.side2.entity.name))
      (hdecl : t.DeclaredBehind)
  | weak (owner : Entity) (r : Relation) (e : Entity) (k : Column) (ks : List Column)
      (ho : d.Owns owner r e) (ht : t = (e.weakTable r owner).sanitize)
      (hkeys : t.keyColumns = k :: ks)
      (howner : List.Forall₂ Column.Sanitizes (owner.ownerColumns r) [k])
      (hk : k.foreignKey = some (Text.foldDiacritics owner.name) ∧ k.notNull = true)
      (hdiscriminants : List.Forall₂ Column.Sanitizes e.discriminantColumns ks) (hne : ks ≠ [])
      (hks : ∀ x ∈ ks, x.isForeignKey = false ∧ x.notNull = true) (hdecl : t.DeclaredBehind)

variable {d : Diagram}

namespace WellFormed

theorem keyed_strong (h : d.WellFormed) {e : Entity} (he : e ∈ d.strongEntities)
    {refs : List Column} (hrefs : ∀ x ∈ refs, d.Refers e x) :
    d.Keyed (⟨e.name, e.table.columns ++ refs⟩ : Table).sanitize := by
  obtain ⟨a, k, -, hk, hkeys⟩ := h.key_sanitize_strong he hrefs
  have hfk : k.isForeignKey = false := hk.isForeignKey
  exact Keyed.strong e refs k he rfl hkeys hfk
    (Table.declaredInline_of_hasSingleKey ⟨k, hkeys, hfk⟩)

theorem keyed_junction (h : d.WellFormed) {r : Relation} {c : ClassifiedRelation}
    (hr : d.Resolves r c) (hc : c.relationClass = .manyToMany) :
    d.Keyed c.junctionTable.sanitize := by
  obtain ⟨a₁, h₁⟩ := h.key_of_strong _ (h.strong_of_manyToMany hr hc (Or.inl ⟨rfl, rfl⟩))
  obtain ⟨a₂, h₂⟩ := h.key_of_strong _ (h.strong_of_manyToMany hr hc (Or.inr ⟨rfl, rfl⟩))
  have hkeys := c.junctionTable.keyColumns_sanitize
  rw [c.keyColumns_junctionTable] at hkeys
  unfold ClassifiedRelation.junctionColumns at hkeys
  rw [h₁, h₂] at hkeys
  -- one key column for each side
  obtain ⟨k₁, ks, hk₁, hks, heq⟩ := List.forall₂_cons_left_iff.mp hkeys
  obtain ⟨k₂, ks, hk₂, hnil, rfl⟩ := List.forall₂_cons_left_iff.mp hks
  rw [List.forall₂_nil_left_iff.mp hnil] at heq
  have hcomposite : c.junctionTable.sanitize.hasCompositeKey = true :=
    Table.hasCompositeKey_iff.mpr
      ⟨k₁, by rw [heq]; exact List.mem_cons_self, by rw [hk₁.isForeignKey]; rfl⟩
  exact Keyed.junction r c k₁ k₂ hr hc rfl heq hk₁.foreignKey hk₂.foreignKey
    (Table.declaredBehind_of_hasCompositeKey hcomposite)

theorem keyed_weak (h : d.WellFormed) {owner : Entity} {r : Relation} {e : Entity}
    (ho : d.Owns owner r e) : d.Keyed (e.weakTable r owner).sanitize := by
  obtain ⟨a, ha⟩ := h.key_of_strong owner ho.strong
  have hkeys := (e.weakTable r owner).keyColumns_sanitize
  have howner : owner.ownerColumns r = [
      { name := relationColumnName a r.name
        key := true
        notNull := true
        foreignKey := some owner.name }] := by
    unfold Entity.ownerColumns
    rw [ha]
    rfl
  rw [e.keyColumns_weakTable, howner, List.singleton_append] at hkeys
  obtain ⟨k, ks, hk, hks, heq⟩ := List.forall₂_cons_left_iff.mp hkeys
  have hne : ks ≠ [] := by
    intro hnil
    rw [hnil, List.forall₂_nil_right_iff] at hks
    exact h.discriminant_of_weak e ho.weak (List.map_eq_nil_iff.mp hks)
  have hcomposite : (e.weakTable r owner).sanitize.hasCompositeKey = true :=
    Table.hasCompositeKey_iff.mpr
      ⟨k, by rw [heq]; exact List.mem_cons_self, by rw [hk.isForeignKey]; rfl⟩
  refine Keyed.weak owner r e k ks ho rfl heq ?_ ⟨hk.foreignKey, hk.notNull⟩ hks hne ?_
    (Table.declaredBehind_of_hasCompositeKey hcomposite)
  · rw [howner]
    exact List.Forall₂.cons hk List.Forall₂.nil
  · intro x hx
    obtain ⟨y, hy, hs⟩ := exists_of_forall₂_right hks hx
    obtain ⟨b, -, rfl⟩ := List.mem_map.mp hy
    exact ⟨hs.isForeignKey, hs.notNull⟩

/-- **A table of each form is keyed.** -/
theorem keyed_of_form (h : d.WellFormed) {t : Table} (ht : d.Form t) : d.Keyed t.sanitize := by
  cases ht with
  | strong e refs he hrefs => exact h.keyed_strong he hrefs
  | junction r c hr hc => exact h.keyed_junction hr hc
  | weak owner r e ho => exact h.keyed_weak ho

end WellFormed

/-- **Every table of a valid diagram has one primary key**, of the right form. -/
theorem keyed_of_derived (hv : d.validate.isValid = true) :
    ∃ ts, d.deriveTables = .ok ts ∧ ∀ t ∈ ts, d.Keyed t := by
  have h := wellFormed_of_isValid hv
  obtain ⟨drafts, hd, hts⟩ := h.deriveTables_eq
  refine ⟨_, hts, fun t ht => ?_⟩
  obtain ⟨u, hu, rfl⟩ := List.mem_map.mp ht
  exact h.keyed_of_form (h.form_of_mem_merged hd u hu)

theorem shop_keyed : ∃ ts, shop.deriveTables = .ok ts ∧ ∀ t ∈ ts, shop.Keyed t :=
  keyed_of_derived (by decide +kernel)

end Diagram

end ErSchema
