import ErSchema.Ddl
import ErSchema.Proofs.Text.Occurrences

/-!
# Phrases of a script

What a script does can be told by phrases of two words: those that begin its statements, and the one
that declares a key. A name cannot disturb the count of a phrase, whatever it is. There is no blank
in a name as it is written, so a name is a word between blanks or a part of one, and the words on
its two sides are none of the phrase, or not the one that would be wanted there.

* `Phrase.count_words`: a phrase occurs where its two words meet.
* `Phrase.count_definition`, `Phrase.count_compositeKeyClause`: the lines of a table.
* `Phrase.count_createStatement`, `Phrase.count_foreignKeyStatement`: the statements.
* `emit_statements`: the statements of a script, by their phrases.
-/

namespace ErSchema

open Text

/-- The phrases by which a script is told. -/
inductive Phrase where
  | createTable
  | alterTable
  | primaryKey
  deriving DecidableEq

namespace Phrase

/-- The word that a phrase begins with. -/
def first : Phrase → String
  | createTable => "CREATE"
  | alterTable => "ALTER"
  | primaryKey => "PRIMARY"

/-- The character that a phrase begins with. -/
def initial : Phrase → Char
  | createTable => 'C'
  | alterTable => 'A'
  | primaryKey => 'P'

/-- The word that a phrase ends with. -/
def second : Phrase → String
  | createTable => "TABLE"
  | alterTable => "TABLE"
  | primaryKey => "KEY"

/-- A phrase as it is written. -/
def text (p : Phrase) : String := p.first ++ " " ++ p.second

/-- How often a phrase occurs in a text. -/
def count (p : Phrase) (s : String) : Nat := occurrences p.text.toList s.toList

/-- How often a phrase occurs in several texts. -/
def counts (p : Phrase) (ss : List String) : Nat :=
  occurrencesAll p.text.toList (ss.map String.toList)

variable (p : Phrase)

/-! ## Texts -/

theorem toList_text : p.text.toList = p.first.toList ++ ' ' :: p.second.toList := by
  cases p <;> decide

theorem text_ne_nil : p.text.toList ≠ [] := by
  cases p <;> decide

theorem counts_cons (s : String) (ss : List String) :
    p.counts (s :: ss) = p.count s + p.counts ss := rfl

theorem counts_append (ss ts : List String) : p.counts (ss ++ ts) = p.counts ss + p.counts ts := by
  unfold counts
  rw [List.map_append, occurrencesAll_append]

/-- Where a phrase occurs equally often in all of some texts. -/
theorem counts_eq_mul {n : Nat} {ss : List String} (h : ∀ s ∈ ss, p.count s = n) :
    p.counts ss = ss.length * n := by
  induction ss with
  | nil => exact (Nat.zero_mul n).symm
  | cons s ss ih =>
    obtain ⟨hs, hss⟩ := List.forall_mem_cons.mp h
    rw [counts_cons, hs, ih hss, List.length_cons, Nat.succ_mul, Nat.add_comm]

/-- A text is cut at a character that the phrase does not have. -/
theorem count_cut {s : String} {c : Char} (hs : s.toList = [c]) (hc : c ∉ p.text.toList)
    (a b : String) : p.count (a ++ (s ++ b)) = p.count a + p.count b := by
  unfold count
  rw [String.toList_append, String.toList_append, hs, List.singleton_append,
    occurrences_append p.text_ne_nil hc]

theorem head?_text : p.text.toList.head? = some p.initial := by
  cases p <;> rfl

/-- Text in which the phrase cannot begin is left out. -/
theorem count_skip {a : String} (ha : p.initial ∉ a.toList) (b : String) :
    p.count (a ++ b) = p.count b := by
  unfold count
  rw [String.toList_append, occurrences_append_of_head p.head?_text ha]

theorem count_intercalate {s : String} {c : Char} {r : List Char} (hs : s.toList = c :: r)
    (hc : c ∉ p.text.toList) (hr : p.initial ∉ r) (ss : List String) :
    p.count (s.intercalate ss) = p.counts ss := by
  unfold count counts
  rw [String.toList_intercalate, hs, occurrences_intercalate p.head?_text hc hr]

/-! ## Words -/

/-- The number of places where two of some words meet that are those of a phrase. -/
def meetings (ws : List String) : Nat :=
  Text.meetings p.first.toList p.second.toList (ws.map String.toList)

/-- **A phrase occurs where its words meet.** -/
theorem count_words {ws : List String} (hws : ∀ w ∈ ws, ' ' ∉ w.toList) :
    p.count (" ".intercalate ws) = p.meetings ws := by
  have hfirst : ' ' ∉ p.first.toList := by cases p <;> decide
  have hsecond : ' ' ∉ p.second.toList := by cases p <;> decide
  have hblank : " ".toList = [' '] := rfl
  unfold count meetings
  rw [String.toList_intercalate, toList_text, hblank,
    occurrences_words hfirst hsecond (List.forall_mem_map.mpr hws)]

end Phrase

/-! ## Names -/

theorem blank_not_mem_identifier (name : String) : ' ' ∉ (identifier name).toList := by
  unfold identifier
  rw [String.toList_ofList]
  intro h
  exact absurd (not_isBlank_of_mem_underscored h) (by decide)

theorem Phrase.count_identifier (p : Phrase) (name : String) : p.count (identifier name) = 0 :=
  occurrences_of_not_mem (c := ' ') (by cases p <;> decide) (blank_not_mem_identifier name)

/-! ## Lines -/

/-- The words of a column that are declared along with its name. -/
def columnWords (inline unique notNull : Bool) : List String :=
  columnType :: ((if inline then ["PRIMARY", "KEY"] else []) ++
    ((if unique then ["UNIQUE"] else []) ++ if notNull then ["NOT", "NULL"] else []))

theorem definition_eq_words (composite : Bool) (c : Column) :
    c.definition composite = " ".intercalate (identifier c.name ::
      columnWords (c.key && !c.isForeignKey && !composite) c.unique c.notNull) := by
  have hkey : " PRIMARY KEY" = " " ++ "PRIMARY" ++ " " ++ "KEY" := by decide
  have hunique : " UNIQUE" = " " ++ "UNIQUE" := by decide
  have hnotNull : " NOT NULL" = " " ++ "NOT" ++ " " ++ "NULL" := by decide
  unfold Column.definition columnWords
  generalize (c.key && !c.isForeignKey && !composite) = inline
  rw [hkey, hunique, hnotNull]
  cases inline <;> cases c.unique <;> cases c.notNull <;>
    simp only [Bool.false_eq_true, if_true, if_false, List.append_nil, List.cons_append,
      List.nil_append, String.intercalate_cons_cons, String.intercalate_singleton,
      String.append_assoc, String.append_empty]

theorem createStatement_eq_words (t : Table) :
    t.createStatement = " ".intercalate ["CREATE", "TABLE", identifier t.name, "("] ++
      ("\n" ++ ("  " ++ (",\n  ".intercalate t.definitions ++ ("\n" ++ ");")))) := by
  have hcreate : "CREATE TABLE " = "CREATE" ++ " " ++ "TABLE" ++ " " := by decide
  have hopen : " (\n  " = " " ++ "(" ++ "\n" ++ "  " := by decide
  have hclose : "\n);" = "\n" ++ ");" := by decide
  unfold Table.createStatement
  rw [hcreate, hopen, hclose]
  simp only [String.intercalate_cons_cons, String.intercalate_singleton, String.append_assoc]

theorem foreignKeyStatement_eq_words (table column target : String) :
    foreignKeyStatement table column target = " ".intercalate
      ["ALTER", "TABLE", table, "ADD", "CONSTRAINT", "FK_" ++ column, "FOREIGN", "KEY",
        "(" ++ column ++ ")", "REFERENCES", target ++ ";"] := by
  have halter : "ALTER TABLE " = "ALTER" ++ " " ++ "TABLE" ++ " " := by decide
  have hadd : " ADD CONSTRAINT FK_" = " " ++ "ADD" ++ " " ++ "CONSTRAINT" ++ " " ++ "FK_" := by
    decide
  have hkey : " FOREIGN KEY (" = " " ++ "FOREIGN" ++ " " ++ "KEY" ++ " " ++ "(" := by decide
  have hrefer : ") REFERENCES " = ")" ++ " " ++ "REFERENCES" ++ " " := by decide
  unfold foreignKeyStatement
  rw [halter, hadd, hkey, hrefer]
  simp only [String.intercalate_cons_cons, String.intercalate_singleton, String.append_assoc]

namespace Phrase

variable (p : Phrase)

/-- **The line of a column** declares its key in line or has none of the phrases. -/
theorem count_definition (composite : Bool) (c : Column) :
    p.count (c.definition composite) =
      if p = primaryKey ∧ (c.key && !c.isForeignKey && !composite) = true then 1 else 0 := by
  rw [definition_eq_words]
  generalize (c.key && !c.isForeignKey && !composite) = inline
  have hblank : ∀ w ∈ columnWords inline c.unique c.notNull, ' ' ∉ w.toList := by
    cases inline <;> cases c.unique <;> cases c.notNull <;> decide
  rw [count_words _ (List.forall_mem_cons.mpr ⟨blank_not_mem_identifier c.name, hblank⟩)]
  unfold meetings columnWords
  cases p <;> cases inline <;> cases c.unique <;> cases c.notNull <;>
    simp +decide [Text.meetings, first, second, columnType]

/-- **The clause of a composite key** declares it. -/
theorem count_compositeKeyClause (t : Table) :
    p.count t.compositeKeyClause = if p = primaryKey then 1 else 0 := by
  have hclause : t.compositeKeyClause = "PRIMARY KEY " ++ ("(" ++
      (", ".intercalate (t.keyColumns.map fun c => identifier c.name) ++ (")" ++ ""))) := by
    have hopen : "PRIMARY KEY (" = "PRIMARY KEY " ++ "(" := by decide
    unfold Table.compositeKeyClause
    simp only [hopen, String.append_empty, String.append_assoc]
  have hname : ∀ s ∈ t.keyColumns.map fun c => identifier c.name, p.count s = 0 :=
    List.forall_mem_map.mpr fun c _ => p.count_identifier c.name
  have hnames : p.count (", ".intercalate (t.keyColumns.map fun c => identifier c.name)) = 0 := by
    rw [count_intercalate p (c := ',') (r := [' ']) rfl (by cases p <;> decide)
      (by cases p <;> decide), counts_eq_mul p hname, Nat.mul_zero]
  rw [hclause, count_cut p (c := '(') rfl (by cases p <;> decide),
    count_cut p (c := ')') rfl (by cases p <;> decide), hnames]
  cases p <;> decide

/-- No line of a table has the phrase of a statement. -/
theorem counts_definitions (hp : p ≠ primaryKey) (t : Table) : p.counts t.definitions = 0 := by
  have hzero : ∀ s ∈ t.definitions, p.count s = 0 := by
    unfold Table.definitions
    refine List.forall_mem_append.mpr ⟨List.forall_mem_map.mpr fun c _ => ?_, fun s hs => ?_⟩
    · rw [count_definition, if_neg fun h => hp h.1]
    · split at hs
      · rw [List.mem_singleton.mp hs, count_compositeKeyClause, if_neg hp]
      · exact absurd hs List.not_mem_nil
  rw [counts_eq_mul p hzero, Nat.mul_zero]

/-! ## Statements -/

/-- **The statement that creates a table** begins with its phrase and goes on with the lines. -/
theorem count_createStatement (t : Table) :
    p.count t.createStatement = (if p = createTable then 1 else 0) + p.counts t.definitions := by
  have hwords : ∀ w ∈ ["CREATE", "TABLE", identifier t.name, "("], ' ' ∉ w.toList := by
    have hname := blank_not_mem_identifier t.name
    simp +decide [hname]
  have hhead : p.meetings ["CREATE", "TABLE", identifier t.name, "("] =
      if p = createTable then 1 else 0 := by
    unfold meetings
    cases p <;> simp +decide [Text.meetings, first, second]
  have hend : p.count ");" = 0 := by cases p <;> decide
  rw [createStatement_eq_words, count_cut p (c := '\n') rfl (by cases p <;> decide),
    count_words p hwords, hhead, count_skip p (by cases p <;> decide),
    count_cut p (c := '\n') rfl (by cases p <;> decide), hend,
    count_intercalate p (c := ',') (r := ['\n', ' ', ' ']) rfl (by cases p <;> decide)
      (by cases p <;> decide)]
  rfl

/-- **The statement that declares a reference** begins with its phrase and has none other. -/
theorem count_foreignKeyStatement (table column target : String) :
    p.count (foreignKeyStatement (identifier table) (identifier column) (identifier target)) =
      if p = alterTable then 1 else 0 := by
  rw [foreignKeyStatement_eq_words, count_words]
  · unfold meetings
    cases p <;> simp +decide [Text.meetings, first, second]
  · have htable := blank_not_mem_identifier table
    have hcolumn := blank_not_mem_identifier column
    have htarget := blank_not_mem_identifier target
    simp +decide [htable, hcolumn, htarget]

theorem counts_createStatements (hp : p ≠ primaryKey) (ts : List Table) :
    p.counts (ts.map (·.createStatement)) = ts.length * if p = createTable then 1 else 0 := by
  have hcount : ∀ s ∈ ts.map (·.createStatement), p.count s = if p = createTable then 1 else 0 :=
    List.forall_mem_map.mpr fun t _ => by
      rw [count_createStatement, counts_definitions p hp, Nat.add_zero]
  rw [counts_eq_mul p hcount, List.length_map]

theorem counts_foreignKeyStatements (ts : List Table) :
    p.counts (ts.flatMap (·.foreignKeyStatements)) =
      (ts.flatMap (·.foreignKeys)).length * if p = alterTable then 1 else 0 := by
  have hcount : ∀ s ∈ ts.flatMap (·.foreignKeyStatements),
      p.count s = if p = alterTable then 1 else 0 := by
    intro s hs
    obtain ⟨t, -, hs⟩ := List.mem_flatMap.mp hs
    obtain ⟨c, -, hs⟩ := List.mem_filterMap.mp hs
    obtain ⟨target, -, rfl⟩ := Option.map_eq_some_iff.mp hs
    exact p.count_foreignKeyStatement t.name c.name target
  have hlength : (ts.flatMap (·.foreignKeyStatements)).length =
      (ts.flatMap (·.foreignKeys)).length := by
    simp only [List.length_flatMap, foreignKeyStatements_length]
  rw [counts_eq_mul p hcount, hlength]

end Phrase

/-! ## Scripts -/

/-- A script is its creations, with the references behind an empty line where there are any. -/
theorem emit_cases (ts : List Table) :
    (ts.flatMap (·.foreignKeyStatements) = [] ∧
        emit ts = "\n\n".intercalate (ts.map (·.createStatement))) ∨
      emit ts = "\n\n".intercalate (ts.map (·.createStatement)) ++
        ("\n" ++ ("\n" ++ "\n".intercalate (ts.flatMap (·.foreignKeyStatements)))) := by
  have hlines : "\n\n" = "\n" ++ "\n" := by decide
  unfold emit
  simp only
  split
  · rename_i hnone
    exact Or.inl ⟨List.isEmpty_iff.mp hnone, String.append_empty⟩
  · refine Or.inr (congrArg (_ ++ ·) ?_)
    rw [hlines, String.append_assoc]

namespace Phrase

variable (p : Phrase)

theorem newline_not_mem_text : '\n' ∉ p.text.toList := by
  cases p <;> decide

theorem count_creations (ts : List Table) :
    p.count ("\n\n".intercalate (ts.map (·.createStatement))) =
      p.counts (ts.map (·.createStatement)) :=
  count_intercalate p (c := '\n') (r := ['\n']) rfl p.newline_not_mem_text
    (by cases p <;> decide) _

theorem count_references (ts : List Table) :
    p.count ("\n" ++ "\n".intercalate (ts.flatMap (·.foreignKeyStatements))) =
      p.counts (ts.flatMap (·.foreignKeyStatements)) := by
  rw [count_skip p (by cases p <;> decide), count_intercalate p (c := '\n') (r := []) rfl
    p.newline_not_mem_text (by cases p <;> decide)]

/-- The phrases of a script are counted statement by statement. -/
theorem count_emit (ts : List Table) :
    p.count (emit ts) = p.counts (ts.map (·.createStatement)) +
      p.counts (ts.flatMap (·.foreignKeyStatements)) := by
  rcases emit_cases ts with ⟨hnone, heq⟩ | heq
  · rw [heq, count_creations, hnone]
    rfl
  · rw [heq, count_cut p (c := '\n') rfl p.newline_not_mem_text, count_creations,
      count_references]

end Phrase

/-- **Creations come before references**: where the two phrases occur, the one that creates ends
before the one that alters begins. -/
theorem create_precedes_alter (ts : List Table) {i j : Nat}
    (hi : OccursAt Phrase.createTable.text.toList (emit ts).toList i)
    (hj : OccursAt Phrase.alterTable.text.toList (emit ts).toList j) :
    i + Phrase.createTable.text.toList.length ≤ j := by
  have hcreations :
      Phrase.alterTable.count ("\n\n".intercalate (ts.map (·.createStatement))) = 0 := by
    rw [Phrase.count_creations, Phrase.counts_createStatements _ (by decide), if_neg (by decide),
      Nat.mul_zero]
  have hreferences : Phrase.createTable.count
      ("\n" ++ "\n".intercalate (ts.flatMap (·.foreignKeyStatements))) = 0 := by
    rw [Phrase.count_references, Phrase.counts_foreignKeyStatements, if_neg (by decide),
      Nat.mul_zero]
  rcases emit_cases ts with ⟨-, heq⟩ | heq
  · rw [heq] at hj
    exact absurd hj (not_occursAt Phrase.alterTable.text_ne_nil hcreations j)
  · rw [heq, String.toList_append, String.toList_append] at hi hj
    exact precedes_of_append Phrase.createTable.text_ne_nil Phrase.alterTable.text_ne_nil
      Phrase.createTable.newline_not_mem_text Phrase.alterTable.newline_not_mem_text hreferences
      hcreations hi hj

/-- **Every statement is counted**, whatever the names. The phrase that begins the creation of a
table occurs as often as there are tables, that of an alteration as often as there are foreign keys,
and each of the former ends before any of the latter begins. -/
theorem emit_statements (ts : List Table) :
    occurrences "CREATE TABLE".toList (emit ts).toList = ts.length ∧
      occurrences "ALTER TABLE".toList (emit ts).toList = (ts.flatMap (·.foreignKeys)).length ∧
      ∀ i j, OccursAt "CREATE TABLE".toList (emit ts).toList i →
        OccursAt "ALTER TABLE".toList (emit ts).toList j → i + "CREATE TABLE".length ≤ j := by
  have hcreate : Phrase.createTable.text = "CREATE TABLE" := by decide
  have halter : Phrase.alterTable.text = "ALTER TABLE" := by decide
  rw [← hcreate, ← halter]
  refine ⟨?_, ?_, fun i j hi hj => create_precedes_alter ts hi hj⟩
  · have hcount := Phrase.createTable.count_emit ts
    rwa [Phrase.counts_createStatements _ (by decide), Phrase.counts_foreignKeyStatements,
      if_pos rfl, if_neg (by decide), Nat.mul_one, Nat.mul_zero] at hcount
  · have hcount := Phrase.alterTable.count_emit ts
    rwa [Phrase.counts_createStatements _ (by decide), Phrase.counts_foreignKeyStatements,
      if_neg (by decide), if_pos rfl, Nat.mul_one, Nat.mul_zero, Nat.zero_add] at hcount

end ErSchema
