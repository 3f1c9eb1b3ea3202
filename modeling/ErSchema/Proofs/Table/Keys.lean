import ErSchema.Proofs.Table.Phrases

/-!
# How keys are declared

A table with a single key declares it in the line of its column; where a key column is a foreign
key, the key is composite and declared behind the columns. Names cannot disturb the count of the
words `PRIMARY KEY` in a statement, since no name has a blank in it.

* `primaryKeyCount_createStatement`: the words are counted definition by definition.
* `declaredInline_of_hasSingleKey`, `declaredBehind_of_hasCompositeKey`: the words occur once, and
  where.
-/

namespace ErSchema

open Text

/-- How often the words `PRIMARY KEY` occur in a text. -/
def primaryKeyCount (s : String) : Nat := occurrences "PRIMARY KEY".toList s.toList

/-- How often the words occur in several texts. -/
def primaryKeyCounts (ss : List String) : Nat :=
  occurrencesAll "PRIMARY KEY".toList (ss.map String.toList)

theorem primaryKeyCount_eq (s : String) : primaryKeyCount s = Phrase.primaryKey.count s := by
  have htext : Phrase.primaryKey.text = "PRIMARY KEY" := by decide
  unfold primaryKeyCount Phrase.count
  rw [htext]

theorem primaryKeyCounts_eq (ss : List String) :
    primaryKeyCounts ss = Phrase.primaryKey.counts ss := by
  have htext : Phrase.primaryKey.text = "PRIMARY KEY" := by decide
  unfold primaryKeyCounts Phrase.counts
  rw [htext]

/-! ## Statements -/

/-- The words stand in the line of a key column that is no foreign key, unless the key is
composite. -/
theorem primaryKeyCount_definition (composite : Bool) (c : Column) :
    primaryKeyCount (c.definition composite) =
      if c.key && !c.isForeignKey && !composite then 1 else 0 := by
  rw [primaryKeyCount_eq, Phrase.count_definition]
  simp only [true_and]

theorem primaryKeyCounts_definitions (composite : Bool) (cs : List Column) :
    primaryKeyCounts (cs.map (Column.definition composite)) =
      cs.countP fun c => c.key && !c.isForeignKey && !composite := by
  induction cs with
  | nil => rfl
  | cons c cs ih =>
    have hcons : primaryKeyCounts ((c :: cs).map (Column.definition composite)) =
        primaryKeyCount (c.definition composite) +
          primaryKeyCounts (cs.map (Column.definition composite)) := rfl
    rw [hcons, primaryKeyCount_definition, ih, List.countP_cons, Nat.add_comm]

theorem primaryKeyCount_compositeKeyClause (t : Table) :
    primaryKeyCount t.compositeKeyClause = 1 := by
  rw [primaryKeyCount_eq, Phrase.count_compositeKeyClause, if_pos rfl]

/-- **The words are counted definition by definition.** -/
theorem primaryKeyCount_createStatement (t : Table) :
    primaryKeyCount t.createStatement = primaryKeyCounts t.definitions := by
  rw [primaryKeyCount_eq, primaryKeyCounts_eq, Phrase.count_createStatement, if_neg (by decide),
    Nat.zero_add]

/-! ## Keys -/

namespace Table

/-- Whether the key of a table is one column, and no foreign key. -/
def HasSingleKey (t : Table) : Prop := ∃ k, t.keyColumns = [k] ∧ k.isForeignKey = false

/-- The key is declared once, in the line of each key column. -/
structure DeclaredInline (t : Table) : Prop where
  once : primaryKeyCount t.createStatement = 1
  definitions : t.definitions = t.columns.map (Column.definition false)
  columns : ∀ c ∈ t.columns, primaryKeyCount (c.definition false) = if c.key then 1 else 0

/-- The key is declared once, in a clause behind the columns that lists the key columns. -/
structure DeclaredBehind (t : Table) : Prop where
  once : primaryKeyCount t.createStatement = 1
  definitions : t.definitions = t.columns.map (Column.definition true) ++
    ["PRIMARY KEY (" ++ ", ".intercalate (t.keyColumns.map fun c => identifier c.name) ++ ")"]
  columns : ∀ c ∈ t.columns, primaryKeyCount (c.definition true) = 0

variable {t : Table}

theorem foreignKey_of_mem_keyColumns (h : t.HasSingleKey) :
    ∀ c ∈ t.columns, c.key = true → c.isForeignKey = false := by
  obtain ⟨k, hk, hf⟩ := h
  intro c hc hkey
  have hmem : c ∈ t.keyColumns := List.mem_filter.mpr ⟨hc, hkey⟩
  rw [hk, List.mem_singleton] at hmem
  exact hmem ▸ hf

theorem hasCompositeKey_of_hasSingleKey (h : t.HasSingleKey) : t.hasCompositeKey = false := by
  refine Bool.eq_false_iff.mpr fun hc => ?_
  obtain ⟨c, hc, hfk⟩ := hasCompositeKey_iff.mp hc
  obtain ⟨hmem, hkey⟩ := List.mem_filter.mp hc
  rw [foreignKey_of_mem_keyColumns h c hmem hkey] at hfk
  exact absurd hfk (by simp)

/-- **A single key is declared in line.** -/
theorem declaredInline_of_hasSingleKey (h : t.HasSingleKey) : t.DeclaredInline := by
  have hcomposite := hasCompositeKey_of_hasSingleKey h
  have hdefs : t.definitions = t.columns.map (Column.definition false) := by
    unfold definitions
    rw [hcomposite]
    simp
  have hinline : ∀ c ∈ t.columns,
      primaryKeyCount (c.definition false) = if c.key then 1 else 0 := by
    intro c hc
    rw [primaryKeyCount_definition]
    cases hk : c.key with
    | false => rfl
    | true => simp [foreignKey_of_mem_keyColumns h c hc hk]
  refine ⟨?_, hdefs, hinline⟩
  have hcount : t.columns.countP (fun c => c.key && !c.isForeignKey && !false) =
      t.keyColumns.length := by
    unfold keyColumns
    rw [← List.countP_eq_length_filter]
    refine List.countP_congr fun c hc => ?_
    cases hk : c.key with
    | false => simp
    | true => simp [foreignKey_of_mem_keyColumns h c hc hk]
  obtain ⟨k, hk, -⟩ := h
  rw [primaryKeyCount_createStatement, hdefs, primaryKeyCounts_definitions, hcount, hk]
  rfl

/-- **A composite key is declared behind the columns.** -/
theorem declaredBehind_of_hasCompositeKey (h : t.hasCompositeKey = true) : t.DeclaredBehind := by
  have hdefs : t.definitions =
      t.columns.map (Column.definition true) ++ [t.compositeKeyClause] := by
    unfold definitions
    rw [h]
    simp
  have hinline : ∀ c ∈ t.columns, primaryKeyCount (c.definition true) = 0 := by
    intro c _
    rw [primaryKeyCount_definition]
    simp
  refine ⟨?_, hdefs, hinline⟩
  have happ : primaryKeyCounts (t.columns.map (Column.definition true) ++ [t.compositeKeyClause]) =
      primaryKeyCounts (t.columns.map (Column.definition true)) +
        primaryKeyCount t.compositeKeyClause := by
    rw [primaryKeyCounts_eq, Phrase.counts_append, ← primaryKeyCounts_eq, primaryKeyCount_eq]
    rfl
  rw [primaryKeyCount_createStatement, hdefs, happ, primaryKeyCounts_definitions,
    primaryKeyCount_compositeKeyClause]
  simp

end Table

end ErSchema
