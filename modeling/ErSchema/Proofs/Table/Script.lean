import ErSchema.Ddl
import ErSchema.Proofs.Text.Plain
import ErSchema.Proofs.Text.Readable
import Mathlib.Data.List.Forall2

/-!
# What a script says

A script creates tables, line by line, and declares references behind them. Where names are words,
all that it says can be read back from its text: the separators cannot be taken for the lines
between them, and a column named `PRIMARY` not for a key.

* `readable_line`, `readable_creation`, `readable_reference`: the parts of a script.
* `Script.text_inj`: scripts of one text say the same.
-/

namespace ErSchema

open Text

/-! ## Scripts -/

namespace Script

/-- What a line of a table says: a column with what is declared along with it, or the columns of a
composite key. -/
inductive Line where
  | column (name : String) (key unique notNull : Bool)
  | keys (names : List String)

/-- A table that is created. -/
structure Creation where
  table : String
  lines : List Line

/-- A column that is declared to refer to a table. -/
structure Reference where
  table : String
  column : String
  target : String

/-- What is declared along with a column. -/
def flagsText (key unique notNull : Bool) : List Char :=
  flagged " PRIMARY KEY".toList key ++
    (flagged " UNIQUE".toList unique ++ flagged " NOT NULL".toList notNull)

/-- The text of a column. -/
def columnText (name : String) (key unique notNull : Bool) : List Char :=
  name.toList ++ (" VARCHAR(40)".toList ++ flagsText key unique notNull)

/-- The text of a composite key. -/
def keysText (names : List String) : List Char :=
  "PRIMARY KEY (".toList ++ (", ".toList.intercalate (names.map String.toList) ++ ")".toList)

/-- The text of a line. -/
def Line.text : Line → List Char
  | .column name key unique notNull => columnText name key unique notNull
  | .keys names => keysText names

/-- The text of a statement that creates a table. -/
def Creation.text (c : Creation) : List Char :=
  "CREATE TABLE ".toList ++ (c.table.toList ++ (" (\n  ".toList ++
    (",\n  ".toList.intercalate (c.lines.map Line.text) ++ "\n);".toList)))

/-- The text of a statement that declares a reference. -/
def Reference.text (r : Reference) : List Char :=
  "ALTER TABLE ".toList ++ (r.table.toList ++ (" ADD CONSTRAINT FK_".toList ++
    (r.column.toList ++ (" FOREIGN KEY (".toList ++ (r.column.toList ++ (") REFERENCES ".toList ++
      (r.target.toList ++ ";".toList)))))))

/-- Whether all names of a line are words. -/
def Line.IsLegible : Line → Prop
  | .column name _ _ _ => IsWord name
  | .keys names => ∀ n ∈ names, IsWord n

/-- Whether all names of a created table are words. -/
def Creation.IsLegible (c : Creation) : Prop := IsWord c.table ∧ ∀ l ∈ c.lines, l.IsLegible

/-- Whether all names of a reference are words. -/
def Reference.IsLegible (r : Reference) : Prop := IsWord r.table ∧ IsWord r.column ∧ IsWord r.target

/-! ## Lines -/

theorem not_prefix_of_avoids {r text : List Char} (hr : Avoids (· = ' ') r) :
    ¬ ' ' :: text <+: r := by
  rintro ⟨s, rfl⟩
  exact absurd (hr ' ' rfl) (by simp)

/-- **The flags of a column are readable**: no piece begins like those behind it. -/
theorem flagsText_inj {k u n k' u' n' : Bool} {r s : List Char} (hr : Avoids (· = ' ') r)
    (hs : Avoids (· = ' ') s) (heq : flagsText k u n ++ r = flagsText k' u' n' ++ s) :
    k = k' ∧ u = u' ∧ n = n' ∧ r = s := by
  have hunique : ∀ n {r}, Avoids (· = ' ') r →
      ¬ " UNIQUE".toList <+: flagged " NOT NULL".toList n ++ r :=
    fun n _ hr => not_prefix_flagged (by decide) (not_prefix_of_avoids hr) n
  have hkey : ∀ u n {r}, Avoids (· = ' ') r → ¬ " PRIMARY KEY".toList <+:
      flagged " UNIQUE".toList u ++ (flagged " NOT NULL".toList n ++ r) := fun u n _ hr =>
    not_prefix_flagged (by decide)
      (not_prefix_flagged (by decide) (not_prefix_of_avoids hr) n) u
  unfold flagsText at heq
  simp only [List.append_assoc] at heq
  obtain ⟨hk, h₁⟩ := readable_flag _ k k' _ _ trivial trivial (hkey u n hr) (hkey u' n' hs) heq
  obtain ⟨hu, h₂⟩ := readable_flag _ u u' _ _ trivial trivial (hunique n hr) (hunique n' hs) h₁
  obtain ⟨hn, h₃⟩ := readable_flag _ n n' _ _ trivial trivial (not_prefix_of_avoids hr)
    (not_prefix_of_avoids hs) h₂
  exact ⟨hk, hu, hn, h₃⟩

/-- The columns of a key are kept apart by commas, up to the bracket. -/
theorem separates_words :
    Separates IsWord (Avoids isWordChar) (")".toList <+: ·) ", ".toList String.toList :=
  .of_stop readable_word (by decide) (by decide) (by decide) fun _ r ha =>
    not_prefix_word (by decide) ha r

/-- A column is not taken for a key, also if its name is that of a keyword. -/
theorem columnText_ne_keysText {name : String} (hname : IsWord name) (k u n : Bool)
    (names : List String) (r s : List Char) :
    columnText name k u n ++ r ≠ keysText names ++ s := by
  have hsplit : "PRIMARY KEY (".toList = "PRIMARY".toList ++ " KEY (".toList := by decide
  unfold columnText keysText
  intro heq
  rw [hsplit] at heq
  simp only [List.append_assoc] at heq
  have hprimary : IsWord "PRIMARY" := by decide
  obtain ⟨-, hrest⟩ := readable_word name "PRIMARY" _ _ hname hprimary
    (avoids_append (by decide) _) (avoids_append (by decide) _) heq
  have hapart : Apart " VARCHAR(40)".toList " KEY (".toList := by decide
  exact hapart.append_ne _ _ hrest

theorem columnText_inj {name name' : String} {k u n k' u' n' : Bool} {r s : List Char}
    (hname : IsWord name) (hname' : IsWord name') (hr : Avoids (· = ' ') r)
    (hs : Avoids (· = ' ') s) (heq : columnText name k u n ++ r = columnText name' k' u' n' ++ s) :
    name = name' ∧ (k = k' ∧ u = u' ∧ n = n') ∧ r = s := by
  unfold columnText at heq
  simp only [List.append_assoc] at heq
  obtain ⟨hnames, h₁⟩ := readable_word name name' _ _ hname hname' (avoids_append (by decide) _)
    (avoids_append (by decide) _) heq
  obtain ⟨hk, hu, hn, hrest⟩ := flagsText_inj hr hs (List.append_cancel_left h₁)
  exact ⟨hnames, ⟨hk, hu, hn⟩, hrest⟩

theorem keysText_inj {names names' : List String} {r s : List Char} (hnames : ∀ n ∈ names, IsWord n)
    (hnames' : ∀ n ∈ names', IsWord n) (heq : keysText names ++ r = keysText names' ++ s) :
    names = names' ∧ r = s := by
  unfold keysText at heq
  simp only [List.append_assoc] at heq
  obtain ⟨hlist, h₁⟩ := separates_words.readable names names' _ _ hnames hnames'
    (List.prefix_append _ _) (List.prefix_append _ _) (List.append_cancel_left heq)
  exact ⟨hlist, List.append_cancel_left h₁⟩

/-- **Lines are readable.** -/
theorem readable_line : Readable Line.IsLegible (Avoids (· = ' ')) Line.text := by
  intro a b r s ha hb hr hs heq
  cases a with
  | column name k u n =>
    cases b with
    | column name' k' u' n' =>
      obtain ⟨rfl, ⟨rfl, rfl, rfl⟩, rfl⟩ := columnText_inj ha hb hr hs heq
      exact ⟨rfl, rfl⟩
    | keys names => exact absurd heq (columnText_ne_keysText ha k u n names r s)
  | keys names =>
    cases b with
    | column name' k' u' n' =>
      exact absurd heq.symm (columnText_ne_keysText hb k' u' n' names s r)
    | keys names' =>
      obtain ⟨rfl, rfl⟩ := keysText_inj ha hb heq
      exact ⟨rfl, rfl⟩

/-- Lines are kept apart by commas and line breaks, up to the closing bracket. -/
theorem separates_lines :
    Separates Line.IsLegible (Avoids (· = ' ')) ("\n);".toList <+: ·) ",\n  ".toList Line.text := by
  refine .of_stop readable_line (by decide) (by decide) (by decide) fun a r ha => ?_
  cases a with
  | column name k u n =>
    unfold Line.text columnText
    rw [List.append_assoc]
    exact not_prefix_word (by decide) ha _
  | keys names =>
    unfold Line.text keysText
    rw [List.append_assoc]
    exact Apart.not_prefix (by decide) _

/-! ## Statements -/

/-- **Created tables are readable**, whatever follows them. -/
theorem readable_creation : Readable Creation.IsLegible (fun _ => True) Creation.text := by
  rintro ⟨name, lines⟩ ⟨name', lines'⟩ r s ha hb _ _ heq
  unfold Creation.text at heq
  simp only [List.append_assoc] at heq
  obtain ⟨rfl, h₁⟩ := readable_word name name' _ _ ha.1 hb.1 (avoids_append (by decide) _)
    (avoids_append (by decide) _) (List.append_cancel_left heq)
  obtain ⟨rfl, h₂⟩ := separates_lines.readable lines lines' _ _ ha.2 hb.2
    (List.prefix_append _ _) (List.prefix_append _ _) (List.append_cancel_left h₁)
  exact ⟨rfl, List.append_cancel_left h₂⟩

/-- **References are readable**, whatever follows them. -/
theorem readable_reference : Readable Reference.IsLegible (fun _ => True) Reference.text := by
  rintro ⟨table, column, target⟩ ⟨table', column', target'⟩ r s ⟨ht, hc, hg⟩ ⟨ht', hc', hg'⟩ _ _ heq
  unfold Reference.text at heq
  simp only [List.append_assoc] at heq
  obtain ⟨rfl, h₁⟩ := readable_word table table' _ _ ht ht' (avoids_append (by decide) _)
    (avoids_append (by decide) _) (List.append_cancel_left heq)
  obtain ⟨rfl, h₂⟩ := readable_word column column' _ _ hc hc' (avoids_append (by decide) _)
    (avoids_append (by decide) _) (List.append_cancel_left h₁)
  have h₃ := List.append_cancel_left (List.append_cancel_left (List.append_cancel_left h₂))
  obtain ⟨rfl, h₄⟩ := readable_word target target' _ _ hg hg' (avoids_append (by decide) _)
    (avoids_append (by decide) _) h₃
  exact ⟨rfl, List.append_cancel_left h₄⟩

end Script

/-! ## Whole scripts -/

/-- What a script says: the tables that it creates and then the references. -/
structure Script where
  creations : List Script.Creation
  references : List Script.Reference

namespace Script

/-- The text of the references, behind the created tables. -/
def referencesText (rs : List Reference) : List Char :=
  if rs.isEmpty then [] else "\n\n".toList ++ "\n".toList.intercalate (rs.map Reference.text)

/-- The text of a script. -/
def text (s : Script) : List Char :=
  "\n\n".toList.intercalate (s.creations.map Creation.text) ++ referencesText s.references

/-- Whether all names of a script are words. -/
structure IsLegible (s : Script) : Prop where
  creations : ∀ c ∈ s.creations, c.IsLegible
  references : ∀ r ∈ s.references, r.IsLegible

theorem Creation.exists_text_append (c : Creation) (s : List Char) :
    ∃ t, c.text ++ s = "CREATE TABLE ".toList ++ t := by
  unfold Creation.text
  rw [List.append_assoc]
  exact ⟨_, rfl⟩

theorem Reference.exists_text_append (r : Reference) (s : List Char) :
    ∃ t, r.text ++ s = "ALTER TABLE ".toList ++ t := by
  unfold Reference.text
  rw [List.append_assoc]
  exact ⟨_, rfl⟩

/-- Created tables are kept apart by empty lines, up to the first reference. -/
theorem separates_creations : Separates Creation.IsLegible (fun _ => True)
    (fun r => r = [] ∨ "\n\nALTER TABLE ".toList <+: r) "\n\n".toList Creation.text where
  item := readable_creation
  follows_sep _ := trivial
  follows_end _ _ := trivial
  no_more := by
    rintro r c s hr -
    obtain ⟨t, ht⟩ := c.exists_text_append s
    rw [ht, ← List.append_assoc]
    rcases hr with rfl | ⟨u, rfl⟩
    · exact fun heq => absurd heq.symm (by simp)
    · exact Apart.append_ne (by decide) u t
  no_first := by
    rintro r c s hr -
    obtain ⟨t, ht⟩ := c.exists_text_append s
    rw [ht]
    rcases hr with rfl | ⟨u, rfl⟩
    · exact fun heq => absurd heq.symm (by simp)
    · exact Apart.append_ne (by decide) u t

/-- References are kept apart by line breaks, up to the end. -/
theorem separates_references : Separates Reference.IsLegible (fun _ => True) (· = [])
    "\n".toList Reference.text where
  item := readable_reference
  follows_sep _ := trivial
  follows_end _ _ := trivial
  no_more := by
    rintro _ r s rfl - heq
    exact absurd heq.symm (by simp)
  no_first := by
    rintro _ r s rfl - heq
    obtain ⟨t, ht⟩ := r.exists_text_append s
    rw [ht] at heq
    exact absurd heq.symm (by simp)

theorem referencesText_cases (rs : List Reference) :
    referencesText rs = [] ∨ "\n\nALTER TABLE ".toList <+: referencesText rs := by
  have hsplit : "\n\nALTER TABLE ".toList = "\n\n".toList ++ "ALTER TABLE ".toList := by decide
  unfold referencesText
  cases rs with
  | nil => exact Or.inl rfl
  | cons r rs =>
    have hlist : "\n".toList.intercalate ((r :: rs).map Reference.text) ++ [] = _ :=
      intercalate_cons_append r rs []
    obtain ⟨t, ht⟩ := r.exists_text_append (behind "\n".toList Reference.text rs ++ [])
    rw [List.append_nil, ht] at hlist
    refine Or.inr ⟨t, ?_⟩
    rw [if_neg (by simp), hlist, hsplit, List.append_assoc]

theorem referencesText_inj {rs rs' : List Reference} (hrs : ∀ r ∈ rs, r.IsLegible)
    (hrs' : ∀ r ∈ rs', r.IsLegible) (heq : referencesText rs = referencesText rs') : rs = rs' := by
  have hne : ∀ r rs, referencesText (r :: rs) ≠ [] := by
    intro r rs
    unfold referencesText
    rw [if_neg (by simp)]
    exact fun h => absurd h (by simp)
  cases rs with
  | nil =>
    cases rs' with
    | nil => rfl
    | cons r' rs' => exact absurd heq.symm (hne r' rs')
  | cons r rs =>
    cases rs' with
    | nil => exact absurd heq (hne r rs)
    | cons r' rs' =>
      unfold referencesText at heq
      rw [if_neg (by simp), if_neg (by simp)] at heq
      have hlists := List.append_cancel_left heq
      exact (separates_references.readable (r :: rs) (r' :: rs') [] [] hrs hrs' rfl rfl
        (congrArg (· ++ []) hlists)).1

/-- **Scripts of one text say the same.** -/
theorem text_inj {s s' : Script} (hs : s.IsLegible) (hs' : s'.IsLegible)
    (heq : s.text = s'.text) : s = s' := by
  obtain ⟨creations, references⟩ := s
  obtain ⟨creations', references'⟩ := s'
  obtain ⟨rfl, hrest⟩ := separates_creations.readable creations creations' _ _ hs.creations
    hs'.creations (referencesText_cases references) (referencesText_cases references') heq
  have href : references = references' := referencesText_inj hs.references hs'.references hrest
  rw [href]

end Script

end ErSchema
