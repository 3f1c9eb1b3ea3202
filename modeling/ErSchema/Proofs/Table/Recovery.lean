import ErSchema.Proofs.Lists
import ErSchema.Proofs.Table.Script
import ErSchema.Table.Sanitize
import Mathlib.Data.List.Nodup

/-!
# Tables from their script

What a script says determines the tables it was written from, although it tells the key of a table
in one of two places, and its foreign keys far away from its columns. A key column that is no
foreign key is named in its own line or in that of the composite key, and a foreign key that is not
named there is no key column. So different tables are written as different texts.

* `toList_emit`: the text of tables is that of their script.
* `Table.eq_of_lines`: a table is determined by its name, its lines and its references.
* `ofTables_inj`: tables are determined by their script.
* `tables_of_emit`: tables are determined by their text.
-/

namespace ErSchema

open Text

/-! ## The script of tables -/

/-- The line of a column. -/
def Column.line (composite : Bool) (c : Column) : Script.Line :=
  .column c.name (c.key && !c.isForeignKey && !composite) c.unique c.notNull

namespace Table

/-- The lines of a table. -/
def lines (t : Table) : List Script.Line :=
  t.columns.map (Column.line t.hasCompositeKey)
    ++ if t.hasCompositeKey then [.keys (t.keyColumns.map (·.name))] else []

/-- A table as it is created. -/
def creation (t : Table) : Script.Creation := ⟨t.name, t.lines⟩

/-- The references of a table. -/
def references (t : Table) : List Script.Reference :=
  t.columns.filterMap fun c => c.foreignKey.map fun target => ⟨t.name, c.name, target⟩

/-- Whether the names of a table, of its columns and of the tables referred to are words, and no two
columns share one. -/
structure IsLegible (t : Table) : Prop where
  name : IsWord t.name
  columns : ∀ c ∈ t.columns, IsWord c.name
  targets : ∀ c ∈ t.columns, ∀ n ∈ c.foreignKey, IsWord n
  columns_nodup : (t.columns.map (·.name)).Nodup

instance (t : Table) : Decidable t.IsLegible :=
  decidable_of_iff (IsWord t.name ∧ (∀ c ∈ t.columns, IsWord c.name) ∧
      (∀ c ∈ t.columns, ∀ n ∈ c.foreignKey, IsWord n) ∧ (t.columns.map (·.name)).Nodup)
    ⟨fun ⟨h₁, h₂, h₃, h₄⟩ => ⟨h₁, h₂, h₃, h₄⟩, fun ⟨h₁, h₂, h₃, h₄⟩ => ⟨h₁, h₂, h₃, h₄⟩⟩

end Table

/-- Whether the names in tables are words, and no two tables share one. -/
structure Legible (ts : List Table) : Prop where
  tables : ∀ t ∈ ts, t.IsLegible
  nodup : (ts.map (·.name)).Nodup

instance (ts : List Table) : Decidable (Legible ts) :=
  decidable_of_iff ((∀ t ∈ ts, t.IsLegible) ∧ (ts.map (·.name)).Nodup)
    ⟨fun ⟨h₁, h₂⟩ => ⟨h₁, h₂⟩, fun ⟨h₁, h₂⟩ => ⟨h₁, h₂⟩⟩

/-- The script of tables. -/
def Script.ofTables (ts : List Table) : Script := ⟨ts.map (·.creation), ts.flatMap (·.references)⟩

/-! ## The text of tables -/

theorem toNat_of_isWordChar {c : Char} (hc : isWordChar c = true) :
    0x20 < c.toNat ∧ c.toNat < 0x80 := by
  rcases Bool.or_eq_true_iff.mp hc with h | h
  · exact toNat_of_isAlphanum h
  · rw [of_decide_eq_true h]
    decide

theorem identifier_of_isWord {s : String} (hs : IsWord s) : identifier s = s :=
  identifier_of_not_hasBlank (List.any_eq_false.mpr fun c hc => by
    simp [isBlank_eq_false_of_ascii (toNat_of_isWordChar (hs.2 c hc))])

theorem toList_flag (flag : Bool) (text : String) :
    (if flag then text else "").toList = flagged text.toList flag := by
  cases flag <;> rfl

theorem toList_definition {c : Column} (hc : IsWord c.name) (composite : Bool) :
    (c.definition composite).toList = (c.line composite).text := by
  have htype : " ".toList ++ columnType.toList = " VARCHAR(40)".toList := by decide
  unfold Column.definition Column.line Script.Line.text Script.columnText Script.flagsText
  rw [identifier_of_isWord hc]
  simp only [String.toList_append, toList_flag, List.append_assoc, ← htype]

theorem toList_compositeKeyClause {t : Table} (ht : t.IsLegible) :
    t.compositeKeyClause.toList = Script.keysText (t.keyColumns.map (·.name)) := by
  have hnames : (t.keyColumns.map fun c => identifier c.name) = t.keyColumns.map (·.name) :=
    List.map_congr_left fun c hc =>
      identifier_of_isWord (ht.columns c (List.mem_filter.mp hc).1)
  unfold Table.compositeKeyClause Script.keysText
  rw [hnames, String.toList_append, String.toList_append, String.toList_intercalate,
    List.append_assoc]

theorem toList_definitions {t : Table} (ht : t.IsLegible) :
    t.definitions.map String.toList = t.lines.map Script.Line.text := by
  have hcolumns : (t.columns.map (Column.definition t.hasCompositeKey)).map String.toList =
      (t.columns.map (Column.line t.hasCompositeKey)).map Script.Line.text := by
    rw [List.map_map, List.map_map]
    exact List.map_congr_left fun c hc => toList_definition (ht.columns c hc) _
  have hclause : [t.compositeKeyClause].map String.toList =
      [Script.Line.keys (t.keyColumns.map (·.name))].map Script.Line.text :=
    congrArg (fun text => [text]) (toList_compositeKeyClause ht)
  unfold Table.definitions Table.lines
  rw [List.map_append, List.map_append, hcolumns]
  split
  · rw [hclause]
  · rfl

theorem toList_createStatement {t : Table} (ht : t.IsLegible) :
    t.createStatement.toList = t.creation.text := by
  unfold Table.createStatement Table.creation Script.Creation.text
  rw [identifier_of_isWord ht.name]
  simp only [String.toList_append, String.toList_intercalate, toList_definitions ht,
    List.append_assoc]

theorem toList_foreignKeyStatements {t : Table} (ht : t.IsLegible) :
    t.foreignKeyStatements.map String.toList = t.references.map Script.Reference.text := by
  unfold Table.foreignKeyStatements Table.references
  rw [List.map_filterMap, List.map_filterMap]
  refine List.filterMap_congr fun c hc => ?_
  rw [Option.map_map, Option.map_map]
  refine Option.map_congr fun n hn => ?_
  simp only [Function.comp_apply]
  unfold foreignKeyStatement Script.Reference.text
  rw [identifier_of_isWord ht.name, identifier_of_isWord (ht.columns c hc),
    identifier_of_isWord (ht.targets c hc n hn)]
  simp only [String.toList_append, List.append_assoc]

/-- **The text of tables is that of their script.** -/
theorem toList_emit {ts : List Table} (hts : Legible ts) :
    (emit ts).toList = (Script.ofTables ts).text := by
  have hcreate : (ts.map (·.createStatement)).map String.toList =
      (ts.map (·.creation)).map Script.Creation.text := by
    rw [List.map_map, List.map_map]
    exact List.map_congr_left fun t ht => toList_createStatement (hts.tables t ht)
  have hrefer : (ts.flatMap (·.foreignKeyStatements)).map String.toList =
      (ts.flatMap (·.references)).map Script.Reference.text := by
    rw [List.map_flatMap, List.map_flatMap, List.flatMap_def, List.flatMap_def]
    exact congrArg _ (List.map_congr_left fun t ht => toList_foreignKeyStatements (hts.tables t ht))
  have hempty : (ts.flatMap (·.foreignKeyStatements)).isEmpty =
      (ts.flatMap (·.references)).isEmpty := by
    have hmap := congrArg List.isEmpty hrefer
    rwa [List.isEmpty_map, List.isEmpty_map] at hmap
  unfold emit Script.text Script.referencesText Script.ofTables
  simp only [String.toList_append, String.toList_intercalate, hcreate, hempty]
  congr 1
  split
  · rfl
  · rw [String.toList_append, String.toList_intercalate, hrefer]

/-! ## Tables from their lines -/

namespace Table

variable {t u : Table}

theorem mem_references {r : Script.Reference} :
    r ∈ t.references ↔ ∃ c ∈ t.columns, ∃ n, c.foreignKey = some n ∧ ⟨t.name, c.name, n⟩ = r := by
  simp [references]

/-- A composite key is told by its line. -/
theorem keys_mem_lines {names : List String} :
    .keys names ∈ t.lines ↔ t.hasCompositeKey = true ∧ names = t.keyColumns.map (·.name) := by
  have hnone : Script.Line.keys names ∉ t.columns.map (Column.line t.hasCompositeKey) := by
    intro hmem
    obtain ⟨c, -, hc⟩ := List.mem_map.mp hmem
    exact absurd hc (by simp [Column.line])
  unfold lines
  rw [List.mem_append]
  constructor
  · intro hmem
    have hclause := hmem.resolve_left hnone
    split at hclause
    · rename_i hcomposite
      exact ⟨hcomposite, Script.Line.keys.inj (List.mem_singleton.mp hclause)⟩
    · exact absurd hclause List.not_mem_nil
  · rintro ⟨hcomposite, rfl⟩
    exact Or.inr (by rw [if_pos hcomposite]; exact List.mem_singleton.mpr rfl)

/-- In a composite key the key columns are those that are named. -/
theorem name_mem_keyColumns (ht : t.IsLegible) {c : Column} (hc : c ∈ t.columns) :
    c.name ∈ t.keyColumns.map (·.name) ↔ c.key = true := by
  constructor
  · intro hmem
    obtain ⟨c', hc', hn⟩ := List.mem_map.mp hmem
    obtain ⟨hmem', hkey⟩ := List.mem_filter.mp hc'
    exact List.inj_on_of_nodup_map ht.columns_nodup hmem' hc hn ▸ hkey
  · exact fun hkey => List.mem_map.mpr ⟨c, List.mem_filter.mpr ⟨hc, hkey⟩, rfl⟩

/-- In a table without a composite key, the key columns are those whose line says so. -/
theorem key_eq_inline (ht : t.hasCompositeKey = false) {c : Column} (hc : c ∈ t.columns) :
    (c.key && !c.isForeignKey && !t.hasCompositeKey) = c.key := by
  rw [ht]
  cases hkey : c.key with
  | false => rfl
  | true =>
    cases hfk : c.isForeignKey with
    | false => rfl
    | true =>
      have hcomposite : t.hasCompositeKey = true :=
        hasCompositeKey_iff.mpr ⟨c, List.mem_filter.mpr ⟨hc, hkey⟩, hfk⟩
      rw [ht] at hcomposite
      exact absurd hcomposite (by simp)

/-- Lines tell whether the key is composite, and of which columns. -/
theorem keys_of_lines (hlines : t.lines = u.lines) :
    t.hasCompositeKey = u.hasCompositeKey ∧ (t.hasCompositeKey = true →
      t.keyColumns.map (·.name) = u.keyColumns.map (·.name)) := by
  have hkeys : ∀ {t u : Table}, t.lines = u.lines → t.hasCompositeKey = true →
      u.hasCompositeKey = true ∧ t.keyColumns.map (·.name) = u.keyColumns.map (·.name) := by
    intro t u hlines ht
    have hmem := keys_mem_lines.mpr ⟨ht, rfl⟩
    rw [hlines] at hmem
    exact keys_mem_lines.mp hmem
  refine ⟨?_, fun ht => (hkeys hlines ht).2⟩
  rw [Bool.eq_iff_iff]
  exact ⟨fun ht => (hkeys hlines ht).1, fun hu => (hkeys hlines.symm hu).1⟩

/-- Lines tell the columns one by one, but for keys and foreign keys. -/
theorem forall₂_of_lines (hlines : t.lines = u.lines) :
    List.Forall₂ (fun c c' => c.line t.hasCompositeKey = c'.line u.hasCompositeKey)
      t.columns u.columns := by
  obtain ⟨hcomposite, hnames⟩ := keys_of_lines hlines
  have hclauses : (if t.hasCompositeKey then [Script.Line.keys (t.keyColumns.map (·.name))] else [])
      = if u.hasCompositeKey then [Script.Line.keys (u.keyColumns.map (·.name))] else [] := by
    by_cases ht : t.hasCompositeKey = true
    · rw [if_pos ht, if_pos (hcomposite ▸ ht), hnames ht]
    · rw [if_neg ht, if_neg (hcomposite ▸ ht)]
  unfold lines at hlines
  rw [hclauses] at hlines
  exact map_eq_iff_forall₂.mp (List.append_cancel_right hlines)

/-- **A table is determined by its name, its lines and its foreign keys.** -/
theorem eq_of_lines (ht : t.IsLegible) (hu : u.IsLegible) (hname : t.name = u.name)
    (hlines : t.lines = u.lines)
    (hforeign : ∀ c ∈ t.columns, ∀ c' ∈ u.columns, c.name = c'.name →
      c.foreignKey = c'.foreignKey) : t = u := by
  obtain ⟨hcomposite, hnames⟩ := keys_of_lines hlines
  have hcolumns : t.columns = u.columns := by
    refine eq_of_forall₂ (forall₂_of_lines hlines) ?_
    rintro ⟨name, key, notNull, unique, foreignKey⟩ hc ⟨name', key', notNull', unique',
      foreignKey'⟩ hc' hline
    obtain ⟨rfl, hinline, rfl, rfl⟩ := Script.Line.column.inj hline
    obtain rfl : foreignKey = foreignKey' := hforeign _ hc _ hc' rfl
    have hkey : key = key' := by
      by_cases hkeys : t.hasCompositeKey = true
      · have hiff := name_mem_keyColumns ht hc
        rw [hnames hkeys, name_mem_keyColumns hu hc'] at hiff
        exact (Bool.eq_iff_iff.mpr hiff).symm
      · have hnone := Bool.eq_false_iff.mpr hkeys
        have hinline' := key_eq_inline (hcomposite ▸ hnone) hc'
        rw [← hinline, key_eq_inline hnone hc] at hinline'
        exact hinline'
    rw [hkey]
  obtain ⟨name, columns⟩ := t
  obtain ⟨name', columns'⟩ := u
  exact congrArg₂ Table.mk hname hcolumns

end Table

/-! ## Tables from their script -/

/-- Where names are distinct, a reference is that of one column. -/
theorem foreignKey_iff_mem {ts : List Table} (hts : Legible ts) {t : Table} (ht : t ∈ ts)
    {c : Column} (hc : c ∈ t.columns) {n : String} :
    c.foreignKey = some n ↔ ⟨t.name, c.name, n⟩ ∈ (Script.ofTables ts).references := by
  unfold Script.ofTables
  simp only [List.mem_flatMap, Table.mem_references]
  constructor
  · exact fun hn => ⟨t, ht, c, hc, n, hn, rfl⟩
  · rintro ⟨u, hu, c', hc', n', hn', heq⟩
    obtain ⟨hname, hcolumn, rfl⟩ := Script.Reference.mk.inj heq
    obtain rfl := List.inj_on_of_nodup_map hts.nodup hu ht hname
    obtain rfl := List.inj_on_of_nodup_map (hts.tables u hu).columns_nodup hc' hc hcolumn
    exact hn'

/-- **Tables are determined by what their script says.** -/
theorem ofTables_inj {ts us : List Table} (hts : Legible ts) (hus : Legible us)
    (heq : Script.ofTables ts = Script.ofTables us) : ts = us := by
  have hcreations : ts.map (·.creation) = us.map (·.creation) := congrArg Script.creations heq
  have hreferences := congrArg Script.references heq
  refine eq_of_forall₂ (map_eq_iff_forall₂.mp hcreations) fun t ht u hu hcreation => ?_
  obtain ⟨hname, hlines⟩ := Script.Creation.mk.inj hcreation
  refine Table.eq_of_lines (hts.tables t ht) (hus.tables u hu) hname hlines
    fun c hc c' hc' hcolumn => ?_
  refine Option.ext fun n => ?_
  rw [foreignKey_iff_mem hts ht hc, foreignKey_iff_mem hus hu hc', hreferences, hname, hcolumn]

theorem isLegible_ofTables {ts : List Table} (hts : Legible ts) :
    (Script.ofTables ts).IsLegible := by
  constructor
  case creations =>
    intro c hc
    obtain ⟨t, ht, rfl⟩ := List.mem_map.mp hc
    have hlegible := hts.tables t ht
    refine ⟨hlegible.name, fun l hl => ?_⟩
    rcases List.mem_append.mp hl with hl | hl
    · obtain ⟨x, hx, rfl⟩ := List.mem_map.mp hl
      exact hlegible.columns x hx
    · split at hl
      · obtain rfl := List.mem_singleton.mp hl
        intro n hn
        obtain ⟨x, hx, rfl⟩ := List.mem_map.mp hn
        exact hlegible.columns x (List.mem_filter.mp hx).1
      · exact absurd hl List.not_mem_nil
  case references =>
    intro r hr
    obtain ⟨t, ht, hr⟩ := List.mem_flatMap.mp hr
    obtain ⟨c, hc, n, hn, rfl⟩ := Table.mem_references.mp hr
    have hlegible := hts.tables t ht
    exact ⟨hlegible.name, hlegible.columns c hc, hlegible.targets c hc n hn⟩

/-- **Tables are determined by their text**, where names are words and no two tables, and no two
columns of a table, share one. -/
theorem tables_of_emit {ts us : List Table} (hts : Legible ts) (hus : Legible us)
    (heq : emit ts = emit us) : ts = us := by
  refine ofTables_inj hts hus (Script.text_inj (isLegible_ofTables hts) (isLegible_ofTables hus) ?_)
  rw [← toList_emit hts, ← toList_emit hus, heq]

/-- A table with a single key and one with a composite key, each with a column named like a
keyword. -/
def enrolment : List Table := [
  ⟨"Student", [{ name := "id", key := true }, { name := "PRIMARY", unique := true }]⟩,
  ⟨"Takes", [
    { name := "id_Takes", key := true, notNull := true, foreignKey := some "Student" },
    { name := "PRIMARY", key := true },
    { name := "of", foreignKey := some "Takes" }]⟩,
  ⟨"Empty", []⟩]

/-- Sanitizing changes nothing in these tables, since it does not change their text. -/
theorem enrolment_recovered :
    Legible (enrolment.map (·.sanitize)) ∧ Legible enrolment ∧
      emit (enrolment.map (·.sanitize)) = emit enrolment ∧
        enrolment.map (·.sanitize) = enrolment := by
  have hts : Legible (enrolment.map (·.sanitize)) := by decide +kernel
  have hus : Legible enrolment := by decide +kernel
  have heq : emit (enrolment.map (·.sanitize)) = emit enrolment := by decide +kernel
  exact ⟨hts, hus, heq, tables_of_emit hts hus heq⟩

end ErSchema
