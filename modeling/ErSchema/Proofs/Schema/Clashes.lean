import ErSchema.Proofs.Schema.Tabled
import ErSchema.Proofs.Table.Naming

/-!
# Names that clash

Names are told apart as they are drawn, and columns once more when they are folded, but they are
written with their blanks underscored. So two tables clash iff their names are written alike, and
two columns of a table clash only if one of them has blanks in its name. Plain names never clash.

* `Form.columnName`: columns are named after attributes, alone or with relations.
* `createdNames_perm`: the names of created tables are those of the merged ones, written.
* `createdNames_apart`: when no two created tables of a valid diagram have one name.
* `columnNames_apart`: when no two columns of a created table have one name.
-/

namespace ErSchema

open Text

/-- The names behind `CREATE TABLE`. -/
def createdNames (ts : List Table) : List String := ts.map fun t => identifier t.name

/-- The names of the columns between the parentheses. -/
def Table.writtenColumns (t : Table) : List String := t.columns.map fun c => identifier c.name

namespace Diagram

/-! ## Names of columns -/

/-- The names of all attributes of entities and relations. -/
def attributeNames (d : Diagram) : List String :=
  d.entities.flatMap (·.attributes.map (·.name)) ++ d.relations.flatMap (·.attributes.map (·.name))

/-- **The names of columns**: those of attributes, alone, with a relation, or with a relation and
the position of a side. -/
inductive ColumnName (d : Diagram) : String → Prop
  | own (a : String) (ha : a ∈ d.attributeNames) : ColumnName d a
  | reference (a r : String) (ha : a ∈ d.attributeNames) (hr : r ∈ d.relations.map (·.name)) :
      ColumnName d (a ++ "_" ++ r)
  | junction (a r : String) (position : Nat) (ha : a ∈ d.attributeNames)
      (hr : r ∈ d.relations.map (·.name)) : ColumnName d (a ++ "_" ++ r ++ "_" ++ toString position)

/-- Whether no attribute and no relation has a blank in its name. -/
def BlankFree (d : Diagram) : Prop :=
  (∀ n ∈ d.attributeNames, hasBlank n = false) ∧
    ∀ r ∈ d.relations, hasBlank r.name = false

variable {d : Diagram}

theorem mem_attributeNames_of_entity {e : Entity} (he : e ∈ d.entities) {a : Attribute}
    (ha : a ∈ e.attributes) : a.name ∈ d.attributeNames :=
  List.mem_append_left _ (List.mem_flatMap.mpr ⟨e, he, List.mem_map.mpr ⟨a, ha, rfl⟩⟩)

theorem mem_attributeNames_of_relation {r : Relation} (hr : r ∈ d.relations) {a : Attribute}
    (ha : a ∈ r.attributes) : a.name ∈ d.attributeNames :=
  List.mem_append_right _ (List.mem_flatMap.mpr ⟨r, hr, List.mem_map.mpr ⟨a, ha, rfl⟩⟩)

theorem mem_attributeNames_of_key {e : Entity} (he : e ∈ d.entities) {a : Attribute}
    (ha : a ∈ e.primaryKeys) : a.name ∈ d.attributeNames :=
  mem_attributeNames_of_entity he (List.mem_filter.mp ha).1

/-- **The columns of a table are named after attributes**, alone or with relations. -/
theorem Form.columnName (h : d.WellFormed) {t : Table} (ht : d.Form t) :
    ∀ x ∈ t.columns, d.ColumnName x.name := by
  intro x hx
  cases ht.columnOf hx with
  | entity e a he ht ha hx hnone => exact hx ▸ .own a.name (mem_attributeNames_of_entity he ha)
  | relation r c a hr hc ht ha hx hnone =>
    exact hx ▸ .own a.name (mem_attributeNames_of_relation hr.mem ha)
  | reference r hx =>
    obtain ⟨c, s, u, a, hr, hf, -, ha, hname, -⟩ := hx.exists_face h
    have hkey := mem_attributeNames_of_key (hr.face hf).1 ha
    have hrelation : r.name ∈ d.relations.map (·.name) := List.mem_map.mpr ⟨r, hr.mem, rfl⟩
    obtain ⟨_, rfl | ⟨position, rfl⟩, hn⟩ := hname
    · rw [hn, String.append_empty]
      exact .reference a.name r.name hkey hrelation
    · rw [hn, ← String.append_assoc]
      exact .junction a.name r.name position hkey hrelation

theorem ColumnName.hasBlank_eq_false {n : String} (hn : d.ColumnName n) (hd : d.BlankFree) :
    hasBlank n = false := by
  have hline : hasBlank "_" = false := by decide
  have hrelation : ∀ r ∈ d.relations.map (·.name), hasBlank r = false := by
    simpa using hd.2
  cases hn with
  | own _ ha => exact hd.1 _ ha
  | reference a r ha hr =>
    rw [hasBlank_append, hasBlank_append, hd.1 a ha, hline, hrelation r hr]
    rfl
  | junction a r position ha hr =>
    rw [hasBlank_append, hasBlank_append, hasBlank_append, hasBlank_append, hd.1 a ha, hline,
      hrelation r hr, hasBlank_toString]
    rfl

/-! ## Tables -/

/-- **The names of created tables** are those for which there are tables, as they are written. -/
theorem WellFormed.createdNames_perm (h : d.WellFormed) {drafts : List Table}
    (hd : d.drafts = .ok drafts) :
    (createdNames ((mergeDrafts drafts).map (·.sanitize))).Perm
      (d.tabledNames.map writtenName) := by
  have hnames : createdNames ((mergeDrafts drafts).map (·.sanitize)) =
      (tableNames (mergeDrafts drafts)).map writtenName := by
    unfold createdNames tableNames
    rw [List.map_map, List.map_map]
    rfl
  rw [hnames]
  exact (h.tableNames_merged_perm hd).map writtenName

/-- **When no two created tables of a valid diagram have one name**: iff no two of the different
names for which there are tables are written alike, and so whenever names are plain. -/
theorem createdNames_apart (hv : d.validate.isValid = true) :
    d.tabledNames.Nodup ∧ ∃ ts, d.deriveTables = .ok ts ∧
      (createdNames ts).Perm (d.tabledNames.map writtenName) ∧
      ((createdNames ts).Nodup ↔
        ∀ m ∈ d.tabledNames, ∀ n ∈ d.tabledNames, writtenName m = writtenName n → m = n) ∧
      ((∀ n ∈ d.names, IsPlain n) → (createdNames ts).Nodup) := by
  have h := wellFormed_of_isValid hv
  obtain ⟨drafts, hd, hts⟩ := h.deriveTables_eq
  have hperm := h.createdNames_perm hd
  have hiff := hperm.nodup_iff.trans (List.nodup_map_iff_inj_on h.tabledNames_nodup)
  refine ⟨h.tabledNames_nodup, _, hts, hperm, hiff, fun hplain => ?_⟩
  refine hiff.mpr fun m hm n hn heq => ?_
  rwa [writtenName_of_isPlain (hplain m (d.tabledNames_sublist.subset hm)),
    writtenName_of_isPlain (hplain n (d.tabledNames_sublist.subset hn))] at heq

theorem shop_createdNames :
    shop.tabledNames.Nodup ∧ ∃ ts, shop.deriveTables = .ok ts ∧
      (createdNames ts).Perm (shop.tabledNames.map writtenName) ∧
      ((createdNames ts).Nodup ↔
        ∀ m ∈ shop.tabledNames, ∀ n ∈ shop.tabledNames, writtenName m = writtenName n → m = n) ∧
      ((∀ n ∈ shop.names, IsPlain n) → (createdNames ts).Nodup) :=
  createdNames_apart (by decide +kernel)

/-- Two entities whose names differ in a diacritic. -/
def accents : Diagram where
  entities := [⟨"a", "Año", false, [.ofKey "id"]⟩, ⟨"b", "Ano", false, [.ofKey "id"]⟩]

/-- **Two created tables can have one name**, on a valid diagram. -/
theorem accents_clash :
    accents.validate.isValid = true ∧ ∃ ts, accents.deriveTables = .ok ts ∧
      ¬ (createdNames ts).Nodup := by
  have hnames : accents.deriveTables.toOption.map createdNames = some ["Ano", "Ano"] := by
    decide +kernel
  obtain ⟨ts, hts, heq⟩ := exists_of_map_toOption hnames
  exact ⟨by decide +kernel, ts, hts, by rw [heq]; decide⟩

/-! ## Columns -/

theorem WellFormed.hasBlank_of_derived (h : d.WellFormed) {drafts : List Table}
    (hd : d.drafts = .ok drafts) (hblank : d.BlankFree) :
    ∀ t ∈ (mergeDrafts drafts).map (·.sanitize), ∀ x ∈ t.columns, hasBlank x.name = false := by
  intro t ht x hx
  obtain ⟨u, hu, rfl⟩ := List.mem_map.mp ht
  obtain ⟨y, hy, hs⟩ := Table.exists_of_mem_sanitize hx
  have hname := (h.form_of_mem_merged hd u hu).columnName h y hy
  exact hs.hasBlank_eq_false (hname.hasBlank_eq_false hblank)

/-- **When no two columns of a created table have one name.** Columns of a derived table have
different names, and these are written differently iff no column with a blank in its name is written
like another. So they are where no attribute and no relation has a blank in its name. -/
theorem columnNames_apart (hv : d.validate.isValid = true) :
    ∃ ts, d.deriveTables = .ok ts ∧ ∀ t ∈ ts,
      (t.columns.map (·.name)).Nodup ∧
      (t.writtenColumns.Nodup ↔
        ∀ x ∈ t.columns, hasBlank x.name = true →
          ∀ y ∈ t.columns, identifier y.name = identifier x.name → y.name = x.name) ∧
      (d.BlankFree → t.writtenColumns.Nodup) := by
  have h := wellFormed_of_isValid hv
  obtain ⟨drafts, hd, hts⟩ := h.deriveTables_eq
  refine ⟨_, hts, fun t ht => ?_⟩
  have hnames : (t.columns.map (·.name)).Nodup := by
    obtain ⟨u, -, rfl⟩ := List.mem_map.mp ht
    exact names_sanitize_nodup u
  refine ⟨hnames, written_nodup_iff hnames, fun hblank => ?_⟩
  refine (written_nodup_iff hnames).mpr fun x hx hb => ?_
  rw [h.hasBlank_of_derived hd hblank t ht x hx] at hb
  exact absurd hb (by simp)

theorem shop_columnNames :
    ∃ ts, shop.deriveTables = .ok ts ∧ ∀ t ∈ ts,
      (t.columns.map (·.name)).Nodup ∧
      (t.writtenColumns.Nodup ↔
        ∀ x ∈ t.columns, hasBlank x.name = true →
          ∀ y ∈ t.columns, identifier y.name = identifier x.name → y.name = x.name) ∧
      (shop.BlankFree → t.writtenColumns.Nodup) :=
  columnNames_apart (by decide +kernel)

/-- An entity with two attributes of which one has a blank where the other has an underscore. -/
def spacing : Diagram where
  entities := [⟨"a", "A", false, [.ofKey "id", .ofName "x y", .ofName "x_y"]⟩]

/-- **Two columns of a created table can have one name**, on a valid diagram. -/
theorem spacing_clashes :
    spacing.validate.isValid = true ∧ ∃ ts, spacing.deriveTables = .ok ts ∧
      ∃ t ∈ ts, ¬ t.writtenColumns.Nodup := by
  have hcolumns : spacing.deriveTables.toOption.map (fun ts => ts.map (·.writtenColumns)) =
      some [["id", "x_y", "x_y"]] := by decide +kernel
  obtain ⟨ts, hts, heq⟩ := exists_of_map_toOption hcolumns
  obtain ⟨t, ht, hwritten⟩ := List.mem_map.mp (heq ▸ List.mem_cons_self)
  exact ⟨by decide +kernel, ts, hts, t, ht, by rw [hwritten]; decide⟩

end Diagram

end ErSchema
