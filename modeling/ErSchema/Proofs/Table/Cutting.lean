import ErSchema.Proofs.Lists
import ErSchema.Proofs.Text.Separators

/-!
# Cutting a script into its statements

Every statement ends with a semicolon, and between two of them stand line breaks only. So the script
is cut into its statements at its semicolons, one piece for each, as long as no statement has
another semicolon. Only a name can bring one in.

* `writtenNames`: the names that stand in the statements.
* `isCutInto_iff`: a script of statements is cut into them iff each has one semicolon, at its end.
* `emit_isCutInto_iff`: so it is for the script of some tables iff no name in it has a semicolon.
-/

namespace ErSchema

open Text

/-! ## Statements -/

/-- The statements of a script, in order. -/
def statements (ts : List Table) : List String :=
  ts.map (·.createStatement) ++ ts.flatMap (·.foreignKeyStatements)

/-- The names that stand in the statements of a table: its own, those of its columns and those of
the tables that it refers to. -/
def Table.writtenNames (t : Table) : List String :=
  identifier t.name :: t.columns.flatMap fun c =>
    identifier c.name :: (c.foreignKey.map identifier).toList

/-- The names that stand in the statements of a script. -/
def writtenNames (ts : List Table) : List String := ts.flatMap (·.writtenNames)

theorem length_statements (ts : List Table) :
    (statements ts).length = ts.length + (ts.flatMap (·.foreignKeys)).length := by
  have hforeign : (ts.flatMap (·.foreignKeyStatements)).length =
      (ts.flatMap (·.foreignKeys)).length := by
    simp only [List.length_flatMap, foreignKeyStatements_length]
  unfold statements
  rw [List.length_append, List.length_map, hforeign]

theorem mem_writtenNames {ts : List Table} {n : String} :
    n ∈ writtenNames ts ↔ ∃ t ∈ ts, n = identifier t.name ∨ ∃ c ∈ t.columns,
      n = identifier c.name ∨ ∃ target, c.foreignKey = some target ∧ n = identifier target := by
  simp [writtenNames, Table.writtenNames, eq_comm]

/-! ## Pieces -/

/-- Whether a statement has one semicolon, at its end. -/
def EndsOnce (s : String) : Prop := ∃ body, s.toList = body ++ [';'] ∧ ';' ∉ body

/-- Whether a script is cut at its semicolons into statements: the last one ends the script, and
each piece before it is a statement with line breaks in front. -/
def IsCutInto (script : String) (ss : List String) : Prop :=
  ∃ pieces, script.toList.splitOn ';' = pieces ++ [[]] ∧
    List.Forall₂ (fun piece s => ∃ gap, (∀ c ∈ gap, c = '\n') ∧ piece ++ [';'] = gap ++ s.toList)
      pieces ss

/-- A text of statements, each with line breaks in front. -/
inductive Spaced : List Char → List String → Prop
  | nil : Spaced [] []
  | cons (gap : List Char) (s : String) {rest : List Char} {ss : List String}
      (hgap : ∀ c ∈ gap, c = '\n') (hrest : Spaced rest ss) :
      Spaced (gap ++ s.toList ++ rest) (s :: ss)

theorem Spaced.append {text rest : List Char} {ss us : List String} (h : Spaced text ss)
    (hrest : Spaced rest us) : Spaced (text ++ rest) (ss ++ us) := by
  induction h with
  | nil => exact hrest
  | cons gap s hgap _ ih =>
    rw [List.append_assoc]
    exact .cons gap s hgap ih

/-- Line breaks between and before statements. -/
theorem Spaced.intercalate {gap before : List Char} (hgap : ∀ c ∈ gap, c = '\n')
    (hbefore : ∀ c ∈ before, c = '\n') {ss : List String} (hne : ss ≠ []) :
    Spaced (before ++ gap.intercalate (ss.map String.toList)) ss := by
  induction ss generalizing before with
  | nil => exact absurd rfl hne
  | cons s ss ih =>
    cases ss with
    | nil => simpa using Spaced.cons before s hbefore .nil
    | cons u us =>
      have hrest := ih hgap (by simp)
      rw [List.map_cons, List.map_cons, List.intercalate_cons_cons, ← List.map_cons,
        List.append_assoc, ← List.append_assoc]
      exact .cons before s hbefore hrest

theorem not_mem_of_mem_splitOn {α : Type} [BEq α] [LawfulBEq α] {a : α} {xs : List α} :
    ∀ piece ∈ xs.splitOn a, a ∉ piece := by
  induction xs with
  | nil => simp
  | cons x xs ih =>
    rw [List.splitOn_cons_eq_if_modifyHead]
    by_cases hx : x = a
    · rw [if_pos (beq_iff_eq.mpr hx)]
      exact List.forall_mem_cons.mpr ⟨List.not_mem_nil, ih⟩
    · rw [if_neg (by simpa using hx)]
      cases hpieces : xs.splitOn a with
      | nil => simp
      | cons piece rest =>
        rw [hpieces] at ih
        obtain ⟨hpiece, hrest⟩ := List.forall_mem_cons.mp ih
        exact List.forall_mem_cons.mpr
          ⟨List.not_mem_cons_of_ne_of_not_mem (Ne.symm hx) hpiece, hrest⟩

/-- A piece with its semicolon that is a statement behind line breaks. -/
theorem endsOnce_of_piece {piece gap : List Char} {s : String} (hgap : ∀ c ∈ gap, c = '\n')
    (hpiece : ';' ∉ piece) (heq : piece ++ [';'] = gap ++ s.toList) : EndsOnce s := by
  rcases List.eq_nil_or_concat s.toList with hnil | ⟨body, c, hs⟩
  · rw [hnil, List.append_nil] at heq
    have hbreak := hgap ';' (heq ▸ List.mem_append_right _ List.mem_cons_self)
    exact absurd hbreak (by decide)
  · rw [hs, List.concat_eq_append, ← List.append_assoc] at heq
    obtain ⟨rfl, hc⟩ := List.append_inj' heq rfl
    obtain rfl := List.singleton_inj.mp hc
    exact ⟨body, by rw [hs, List.concat_eq_append],
      fun hmem => hpiece (List.mem_append_right _ hmem)⟩

/-- The pieces of a text of statements that each have one semicolon, at their end. -/
theorem Spaced.exists_pieces {text : List Char} {ss : List String} (h : Spaced text ss)
    (hends : ∀ s ∈ ss, EndsOnce s) : ∃ pieces, text.splitOn ';' = pieces ++ [[]] ∧
      List.Forall₂ (fun piece s => ∃ gap, (∀ c ∈ gap, c = '\n') ∧
        piece ++ [';'] = gap ++ s.toList) pieces ss := by
  induction h with
  | nil => exact ⟨[], List.splitOn_nil ';', .nil⟩
  | cons gap s hgap _ ih =>
    obtain ⟨⟨body, hs, hbody⟩, hends⟩ := List.forall_mem_cons.mp hends
    obtain ⟨pieces, hsplit, hpieces⟩ := ih hends
    have hnone : ';' ∉ gap ++ body := by
      refine List.not_mem_append (fun hmem => ?_) hbody
      exact absurd (hgap ';' hmem) (by decide)
    refine ⟨(gap ++ body) :: pieces, ?_, .cons ⟨gap, hgap, by rw [hs, List.append_assoc]⟩ hpieces⟩
    rw [hs, ← List.append_assoc, List.append_assoc (gap ++ body), List.singleton_append,
      List.splitOn_append_cons_self_of_not_mem hnone, hsplit, List.cons_append]

/-- **A script of statements is cut into them** iff each has one semicolon, at its end. -/
theorem isCutInto_iff {script : String} {ss : List String} (h : Spaced script.toList ss) :
    IsCutInto script ss ↔ ∀ s ∈ ss, EndsOnce s := by
  constructor
  · rintro ⟨pieces, hsplit, hpieces⟩ s hs
    obtain ⟨piece, hmem, gap, hgap, heq⟩ := exists_of_forall₂_right hpieces hs
    have hnone := not_mem_of_mem_splitOn piece (hsplit ▸ List.mem_append_left _ hmem)
    exact endsOnce_of_piece hgap hnone heq
  · exact h.exists_pieces

/-- The statements of a script have line breaks only between them. -/
theorem spaced_emit (ts : List Table) : Spaced (emit ts).toList (statements ts) := by
  have htwo : ∀ c ∈ "\n\n".toList, c = '\n' := List.all_iff_forall_prop.mp (by decide)
  have hone : ∀ c ∈ "\n".toList, c = '\n' := List.all_iff_forall_prop.mp (by decide)
  have hcreations : Spaced ("\n\n".intercalate (ts.map (·.createStatement))).toList
      (ts.map (·.createStatement)) := by
    rw [String.toList_intercalate]
    by_cases hts : ts.map (·.createStatement) = []
    · rw [hts]
      exact .nil
    · exact Spaced.intercalate htwo (fun _ h => absurd h List.not_mem_nil) hts
  unfold emit statements
  simp only [String.toList_append]
  refine hcreations.append ?_
  by_cases hrefs : ts.flatMap (·.foreignKeyStatements) = []
  · rw [hrefs]
    exact .nil
  · rw [if_neg (by simpa using hrefs), String.toList_append, String.toList_intercalate]
    exact Spaced.intercalate hone htwo hrefs

/-! ## Semicolons -/

theorem mem_intercalate {c : Char} {sep : List Char} (hsep : c ∉ sep) {xs : List (List Char)} :
    c ∈ sep.intercalate xs ↔ ∃ x ∈ xs, c ∈ x := by
  induction xs with
  | nil => simp
  | cons x xs ih =>
    cases xs with
    | nil => simp
    | cons y ys =>
      rw [List.intercalate_cons_cons, List.mem_append, List.mem_append, ih]
      simp [hsep]

theorem endsOnce_append {s : String} : EndsOnce (s ++ ";") ↔ ';' ∉ s.toList := by
  have hend : ";".toList = [';'] := rfl
  unfold EndsOnce
  rw [String.toList_append, hend]
  constructor
  · rintro ⟨body, hs, hbody⟩
    rwa [List.append_cancel_right hs]
  · exact fun h => ⟨_, rfl, h⟩

theorem semicolon_mem_definition (composite : Bool) (c : Column) :
    ';' ∈ (c.definition composite).toList ↔ ';' ∈ (identifier c.name).toList := by
  have hspace : ';' ∉ " ".toList := by decide
  have htype : ';' ∉ columnType.toList := by decide
  have hflag : ∀ flag : Bool, ∀ text : String, ';' ∉ text.toList →
      ';' ∉ (if flag = true then text else "").toList := by
    intro flag text htext
    cases flag
    · simp
    · exact htext
  unfold Column.definition
  simp only [String.toList_append, List.mem_append, hspace, htype,
    hflag _ " PRIMARY KEY" (by decide), hflag _ " UNIQUE" (by decide),
    hflag _ " NOT NULL" (by decide), or_false]

theorem semicolon_mem_compositeKeyClause (t : Table) :
    ';' ∈ t.compositeKeyClause.toList ↔ ∃ c ∈ t.keyColumns, ';' ∈ (identifier c.name).toList := by
  unfold Table.compositeKeyClause
  rw [String.toList_append, String.toList_append, String.toList_intercalate, List.mem_append,
    List.mem_append, mem_intercalate (by decide)]
  simp

/-- The line breaks, brackets and commas of a statement are not those of a name. -/
theorem endsOnce_createStatement (t : Table) :
    EndsOnce t.createStatement ↔ ';' ∉ (identifier t.name).toList ∧
      ∀ c ∈ t.columns, ';' ∉ (identifier c.name).toList := by
  have hsplit : t.createStatement = "CREATE TABLE " ++ identifier t.name ++ " (\n  " ++
      ",\n  ".intercalate t.definitions ++ "\n)" ++ ";" := by
    have hend : "\n);" = "\n)" ++ ";" := by decide
    unfold Table.createStatement
    rw [hend, ← String.append_assoc]
  have hcreate : ';' ∉ "CREATE TABLE ".toList := by decide
  have hopen : ';' ∉ " (\n  ".toList := by decide
  have hclose : ';' ∉ "\n)".toList := by decide
  have hdefinitions : (∃ line ∈ t.definitions.map String.toList, ';' ∈ line) ↔
      ∃ c ∈ t.columns, ';' ∈ (identifier c.name).toList := by
    constructor
    · rintro ⟨_, htext, hmem⟩
      obtain ⟨line, hline, rfl⟩ := List.mem_map.mp htext
      unfold Table.definitions at hline
      rcases List.mem_append.mp hline with hline | hline
      · obtain ⟨c, hc, rfl⟩ := List.mem_map.mp hline
        exact ⟨c, hc, (semicolon_mem_definition _ c).mp hmem⟩
      · split at hline
        · obtain rfl := List.mem_singleton.mp hline
          obtain ⟨c, hc, hmem⟩ := (semicolon_mem_compositeKeyClause t).mp hmem
          exact ⟨c, (List.mem_filter.mp hc).1, hmem⟩
        · exact absurd hline List.not_mem_nil
    · rintro ⟨c, hc, hmem⟩
      exact ⟨_, List.mem_map.mpr ⟨_, List.mem_append_left _ (List.mem_map.mpr ⟨c, hc, rfl⟩), rfl⟩,
        (semicolon_mem_definition _ c).mpr hmem⟩
  rw [hsplit, endsOnce_append]
  simp only [String.toList_append, String.toList_intercalate, List.mem_append, hcreate, hopen,
    hclose, mem_intercalate (show ';' ∉ ",\n  ".toList by decide), hdefinitions, false_or, or_false,
    not_or, not_exists, not_and]

theorem endsOnce_foreignKeyStatement (table column target : String) :
    EndsOnce (foreignKeyStatement table column target) ↔
      ';' ∉ table.toList ∧ ';' ∉ column.toList ∧ ';' ∉ target.toList := by
  have halter : ';' ∉ "ALTER TABLE ".toList := by decide
  have hadd : ';' ∉ " ADD CONSTRAINT FK_".toList := by decide
  have hforeign : ';' ∉ " FOREIGN KEY (".toList := by decide
  have hreferences : ';' ∉ ") REFERENCES ".toList := by decide
  unfold foreignKeyStatement
  rw [endsOnce_append]
  simp only [String.toList_append, List.mem_append, halter, hadd, hforeign, hreferences, false_or,
    or_false, not_or]
  tauto

/-- **The script of some tables is cut into its statements** iff no name in it has a semicolon. -/
theorem emit_isCutInto_iff (ts : List Table) :
    IsCutInto (emit ts) (statements ts) ↔ ∀ n ∈ writtenNames ts, ';' ∉ n.toList := by
  rw [isCutInto_iff (spaced_emit ts)]
  constructor
  · intro h n hn
    obtain ⟨t, ht, hcases⟩ := mem_writtenNames.mp hn
    have hcreate := (endsOnce_createStatement t).mp
      (h _ (List.mem_append_left _ (List.mem_map.mpr ⟨t, ht, rfl⟩)))
    rcases hcases with rfl | ⟨c, hc, rfl | ⟨target, hforeign, rfl⟩⟩
    · exact hcreate.1
    · exact hcreate.2 c hc
    · have hmem : foreignKeyStatement (identifier t.name) (identifier c.name) (identifier target) ∈
          t.foreignKeyStatements := List.mem_filterMap.mpr ⟨c, hc, by rw [hforeign]; rfl⟩
      have hends := h _ (List.mem_append_right _ (List.mem_flatMap.mpr ⟨t, ht, hmem⟩))
      exact ((endsOnce_foreignKeyStatement _ _ _).mp hends).2.2
  · intro h s hs
    rcases List.mem_append.mp hs with hs | hs
    · obtain ⟨t, ht, rfl⟩ := List.mem_map.mp hs
      exact (endsOnce_createStatement t).mpr
        ⟨h _ (mem_writtenNames.mpr ⟨t, ht, Or.inl rfl⟩),
          fun c hc => h _ (mem_writtenNames.mpr ⟨t, ht, Or.inr ⟨c, hc, Or.inl rfl⟩⟩)⟩
    · obtain ⟨t, ht, hs⟩ := List.mem_flatMap.mp hs
      obtain ⟨c, hc, hstatement⟩ := List.mem_filterMap.mp hs
      obtain ⟨target, hforeign, rfl⟩ := Option.map_eq_some_iff.mp hstatement
      exact (endsOnce_foreignKeyStatement _ _ _).mpr
        ⟨h _ (mem_writtenNames.mpr ⟨t, ht, Or.inl rfl⟩),
          h _ (mem_writtenNames.mpr ⟨t, ht, Or.inr ⟨c, hc, Or.inl rfl⟩⟩),
          h _ (mem_writtenNames.mpr ⟨t, ht, Or.inr ⟨c, hc, Or.inr ⟨target, hforeign, rfl⟩⟩⟩)⟩

end ErSchema
