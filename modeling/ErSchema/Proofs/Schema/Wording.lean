import ErSchema.Proofs.Schema.Tabled
import ErSchema.Proofs.Table.Cutting
import ErSchema.Proofs.Table.Naming

/-!
# Names as words of the script

The names of relations are checked, those of entities and attributes are drawn freely, and no name
is quoted. So a name stands in the script as one word iff the entities that have tables, their
attributes and those of many-to-many relations are named safely, and the script is cut into its
statements iff none of these names has a semicolon.

* `WellFormed.written_of_drawn`: the drawn names that come to be written by themselves.
* `WellFormed.drawn_of_written`: what a written name is made of.
* `identifiers_safe`: when the names in the script of a valid diagram are words.
-/

namespace ErSchema

open Text

/-! ## Names of relations -/

theorem mem_of_mem_dropWhile {p : Char → Bool} {cs : List Char} {c : Char} (hc : c ∈ cs) :
    p c = true ∨ c ∈ cs.dropWhile p := by
  rw [← List.takeWhile_append_dropWhile (p := p) (l := cs)] at hc
  exact (List.mem_append.mp hc).imp_left (List.all_eq_true.mp List.all_takeWhile c)

/-- Trimming drops blanks only. -/
theorem mem_trim {cs : List Char} {c : Char} (hc : c ∈ cs) : isBlank c = true ∨ c ∈ trim cs := by
  unfold trim
  rcases mem_of_mem_dropWhile (p := isBlank) hc with hblank | hc
  · exact Or.inl hblank
  · rw [List.mem_reverse]
    exact mem_of_mem_dropWhile (List.mem_reverse.mpr hc)

theorem mem_of_mem_trim {cs : List Char} {c : Char} (hc : c ∈ trim cs) : c ∈ cs := by
  unfold trim at hc
  have hmem := (List.dropWhile_sublist _).subset (List.mem_reverse.mp hc)
  exact (List.dropWhile_sublist _).subset (List.mem_reverse.mp hmem)

theorem ascii_of_isNameChar {c : Char} (hc : isNameChar c = true) : c.toNat < 0x80 := by
  simp only [isNameChar, Bool.or_eq_true, decide_eq_true_eq] at hc
  rcases hc with ((h | rfl) | rfl)
  · exact (toNat_of_isAlphanum h).2
  · decide
  · decide

/-- The characters of a valid name of a relation: blanks and others, of which there is one. -/
theorem Relation.chars_of_hasValidName {r : Relation} (h : r.hasValidName = true) :
    (∀ c ∈ r.name.toList, isBlank c = true ∨ isNameChar c = true) ∧
      ∃ c ∈ r.name.toList, isNameChar c = true := by
  unfold Relation.hasValidName at h
  obtain ⟨hne, hall⟩ := Bool.and_eq_true_iff.mp h
  have hchars := List.all_eq_true.mp hall
  refine ⟨fun c hc => (mem_trim hc).imp_right (hchars c), ?_⟩
  obtain ⟨c, hc⟩ := List.exists_mem_of_ne_nil (trim r.name.toList) (by simpa using hne)
  exact ⟨c, mem_of_mem_trim hc, hchars c hc⟩

/-- **A relation is named safely.** -/
theorem Relation.isDrawnSafely {r : Relation} (h : r.hasValidName = true) :
    IsDrawnSafely r.name := by
  have hsources : ∀ c ∈ separatorSources, isBlank c = false ∧ isNameChar c = false :=
    List.all_iff_forall_prop.mp (by decide)
  obtain ⟨hchars, c, hc, hname⟩ := chars_of_hasValidName h
  refine ⟨fun hempty => ?_, fun c hc hsource => ?_⟩
  · have hmem := mem_foldDiacritics_of_ascii (ascii_of_isNameChar hname) hc
    rw [hempty] at hmem
    exact absurd hmem (by simp)
  · obtain ⟨hblank, hnot⟩ := hsources c hsource
    rcases hchars c hc with hb | hn
    · exact absurd (hb.symm.trans hblank) (by simp)
    · exact absurd (hn.symm.trans hnot) (by simp)

/-- The folded name of a column that refers on behalf of a relation. -/
theorem foldDiacritics_relationColumnName (a : Attribute) (relation : String) {position : String}
    (h : IsNumbering position) : foldDiacritics (relationColumnName a relation ++ position) =
      foldDiacritics a.name ++ "_" ++ foldDiacritics relation ++ position := by
  have hline := isFolded_underscore
  rw [relationColumnName, foldDiacritics_append, foldDiacritics_append, foldDiacritics_append,
    hline, h.isFolded]

theorem IsNumbering.isWhole {s : String} (h : IsNumbering s) : IsWhole s := by
  rcases h with rfl | ⟨n, rfl⟩
  · exact fun c hc => absurd hc (by simp)
  · refine isWhole_append.mpr ⟨by decide, fun c hc hsep => ?_⟩
    have hdigits : ∀ c ∈ separators, c.isDigit = false := List.all_iff_forall_prop.mp (by decide)
    exact absurd ((isDigit_of_mem_toString hc).symm.trans (hdigits c hsep)) (by simp)

namespace Diagram

variable {d : Diagram}

theorem hasValidName_of_isValid (hv : d.validate.isValid = true) {r : Relation}
    (hr : r ∈ d.relations) : r.hasValidName = true := by
  have hnames := validate_isValid.mp hv .noInvalidRelationNames
  exact List.all_eq_true.mp hnames r hr

/-! ## Drawn names -/

/-- The names that are drawn freely and come to be written: those of the entities that have tables,
of their attributes, and of the attributes of many-to-many relations. -/
def drawnNames (d : Diagram) : List String :=
  (d.entities.filter d.hasTable).flatMap (fun e => e.name :: e.attributes.map (·.name)) ++
    (d.relationsOfClass .manyToMany).flatMap fun r => r.attributes.map (·.name)

theorem mem_drawnNames {n : String} :
    n ∈ d.drawnNames ↔
      (∃ e ∈ d.entities, d.hasTable e = true ∧ (n = e.name ∨ ∃ a ∈ e.attributes, a.name = n)) ∨
        ∃ r ∈ d.relationsOfClass .manyToMany, ∃ a ∈ r.attributes, a.name = n := by
  simp [drawnNames, and_assoc]

namespace WellFormed

variable {drafts : List Table}

theorem exists_column_written {t : Table} (ht : t ∈ mergeDrafts drafts) {x : Column}
    (hx : x ∈ t.columns) :
    writtenName x.name ∈ writtenNames ((mergeDrafts drafts).map (·.sanitize)) := by
  obtain ⟨y, hy, hn⟩ := List.mem_map.mp (mem_names_sanitize hx)
  exact mem_writtenNames.mpr ⟨t.sanitize, List.mem_map.mpr ⟨t, ht, rfl⟩,
    Or.inr ⟨y, hy, Or.inl (by rw [hn]; rfl)⟩⟩

/-- **A drawn name is written**, by itself. -/
theorem written_of_drawn (h : d.WellFormed) (hd : d.drafts = .ok drafts) {n : String}
    (hn : n ∈ d.drawnNames) :
    writtenName n ∈ writtenNames ((mergeDrafts drafts).map (·.sanitize)) := by
  rcases mem_drawnNames.mp hn with ⟨e, he, htable, hn⟩ | ⟨r, hr, a, ha, rfl⟩
  · have hname := (h.mem_tableNames_merged hd).mpr
      (mem_tabledNames.mpr (Or.inl ⟨e, he, htable, rfl⟩))
    obtain ⟨t, ht, htn⟩ := List.mem_map.mp hname
    rcases hn with rfl | ⟨a, ha, rfl⟩
    · exact mem_writtenNames.mpr
        ⟨t.sanitize, List.mem_map.mpr ⟨t, ht, rfl⟩, Or.inl (by rw [← htn]; rfl)⟩
    · obtain ⟨x, hx, hxn⟩ := (h.keeps_of_name hd ht he htn).2 a ha
      exact hxn ▸ exists_column_written ht hx
  · have hname := (h.mem_tableNames_merged hd).mpr (mem_tabledNames.mpr (Or.inr ⟨r, hr, rfl⟩))
    obtain ⟨t, ht, htn⟩ := List.mem_map.mp hname
    have hmem := (List.mem_filter.mp hr).1
    obtain ⟨x, hx, hxn, -⟩ := (h.keepsRelation_of_name hd ht hmem htn).2 a ha
    exact hxn ▸ exists_column_written ht hx

/-- An entity on a side of a relation has a table. -/
theorem hasTable_of_face {r : Relation} {c : ClassifiedRelation} (hr : d.Resolves r c)
    {s t : ClassifiedSide} (hf : c.Faces s t) : d.hasTable s.entity = true :=
  hasTable_eq_true.mpr (Or.inr (Or.inr (hr.face hf).2.1))

/-- The name of a column begins with a drawn name, and a relation is named in the rest at most. -/
theorem drawn_of_column (h : d.WellFormed) (hd : d.drafts = .ok drafts)
    (hrelations : ∀ r ∈ d.relations, IsDrawnSafely r.name) {t : Table}
    (ht : t ∈ mergeDrafts drafts) {x : Column} (hx : x ∈ t.columns) :
    (∃ n ∈ d.drawnNames, ∃ tail, foldDiacritics x.name = foldDiacritics n ++ tail ∧
      IsWhole tail) ∧ ∀ target, x.foreignKey = some target → target ∈ d.drawnNames := by
  have htabled := (h.mem_tableNames_merged hd).mp (List.mem_map.mpr ⟨t, ht, rfl⟩)
  have hwhole : IsWhole "" := by decide
  cases (h.form_of_mem_merged hd t ht).columnOf hx with
  | entity e a he htn ha hx hnone =>
    have htable : d.hasTable e = true := by
      rcases mem_tabledNames.mp htabled with ⟨e', he', htable, hn⟩ | ⟨r, hr, hn⟩
      · rwa [h.entity_eq_of_name he he' (htn.symm.trans hn.symm)]
      · exact absurd (htn.symm.trans hn.symm) (h.entity_name_ne he (List.mem_filter.mp hr).1)
    refine ⟨⟨a.name, mem_drawnNames.mpr (Or.inl ⟨e, he, htable, Or.inr ⟨a, ha, rfl⟩⟩), "", ?_,
      hwhole⟩, fun target hforeign => absurd (hnone.symm.trans hforeign) (by simp)⟩
    rw [hx, String.append_empty]
  | relation r c a hr hc htn ha hx hnone =>
    have hmany := mem_relationsOfClass.mpr ⟨c, hr, hc⟩
    refine ⟨⟨a.name, mem_drawnNames.mpr (Or.inr ⟨r, hmany, a, ha, rfl⟩), "", ?_, hwhole⟩,
      fun target hforeign => absurd (hnone.symm.trans hforeign) (by simp)⟩
    rw [hx, String.append_empty]
  | reference r hx =>
    obtain ⟨c, s, u, a, hr, hf, -, ha, ⟨position, hposition, hname⟩, hforeign⟩ := hx.exists_face h
    have he := (hr.face hf).1
    have htable := hasTable_of_face hr hf
    have hattribute := (List.mem_filter.mp ha).1
    have hdrawn := mem_drawnNames.mpr (Or.inl ⟨_, he, htable, Or.inr ⟨a, hattribute, rfl⟩⟩)
    have hrelation := isWhole_foldDiacritics.mpr (hrelations r hr.mem).2
    refine ⟨⟨a.name, hdrawn, "_" ++ (foldDiacritics r.name ++ position), ?_, ?_⟩, ?_⟩
    · rw [hname, foldDiacritics_relationColumnName a r.name hposition, String.append_assoc,
        String.append_assoc]
    · exact isWhole_append.mpr
        ⟨by decide, isWhole_append.mpr ⟨hrelation, hposition.isWhole⟩⟩
    · intro target htarget
      obtain rfl := Option.some.inj (hforeign.symm.trans htarget)
      exact mem_drawnNames.mpr (Or.inl ⟨_, he, htable, Or.inl rfl⟩)

/-- **What a written name is made of**: the folded name of an entity, an attribute or a relation
and, behind it, text without separators. -/
theorem drawn_of_written (h : d.WellFormed) (hd : d.drafts = .ok drafts)
    (hrelations : ∀ r ∈ d.relations, IsDrawnSafely r.name) {w : String}
    (hw : w ∈ writtenNames ((mergeDrafts drafts).map (·.sanitize))) :
    ∃ n tail, w = identifier (foldDiacritics n ++ tail) ∧ IsWhole tail ∧
      (n ∈ d.drawnNames ∨ ∃ r ∈ d.relations, n = r.name) := by
  have hwhole : IsWhole "" := by decide
  obtain ⟨t', ht', hcases⟩ := mem_writtenNames.mp hw
  obtain ⟨t, ht, rfl⟩ := List.mem_map.mp ht'
  rcases hcases with rfl | ⟨x', hx', hcases⟩
  · refine ⟨t.name, "", by rw [String.append_empty]; rfl, hwhole, ?_⟩
    rcases mem_tabledNames.mp ((h.mem_tableNames_merged hd).mp (List.mem_map.mpr ⟨t, ht, rfl⟩)) with
      ⟨e, he, htable, hn⟩ | ⟨r, hr, hn⟩
    · exact Or.inl (mem_drawnNames.mpr (Or.inl ⟨e, he, htable, Or.inl hn.symm⟩))
    · exact Or.inr ⟨r, (List.mem_filter.mp hr).1, hn.symm⟩
  · obtain ⟨x, hx, hs⟩ := Table.exists_of_mem_sanitize hx'
    obtain ⟨⟨n, hn, tail, heq, htail⟩, htargets⟩ := h.drawn_of_column hd hrelations ht hx
    rcases hcases with rfl | ⟨target, htarget, rfl⟩
    · obtain ⟨taken, rfl⟩ := hs
      obtain ⟨number, hnumber, hfresh⟩ := exists_freshName_eq taken (foldDiacritics x.name)
      refine ⟨n, tail ++ number, ?_, isWhole_append.mpr ⟨htail, hnumber.isWhole⟩, Or.inl hn⟩
      rw [← String.append_assoc, ← heq, ← hfresh]
      rfl
    · rw [hs.foreignKey, Option.map_eq_some_iff] at htarget
      obtain ⟨name, hname, rfl⟩ := htarget
      exact ⟨name, "", by rw [String.append_empty], hwhole, Or.inl (htargets name hname)⟩

/-- **The names in the script are as the drawn names are**, for what a name has if it is written
from one that has it, perhaps with more behind it, and if the names of relations have it. -/
theorem forall_written_iff (h : d.WellFormed) (hd : d.drafts = .ok drafts)
    (hrelations : ∀ r ∈ d.relations, IsDrawnSafely r.name) {P Q : String → Prop}
    (hdrawn : ∀ n, P (writtenName n) → Q n) (hsafe : ∀ n, IsDrawnSafely n → Q n)
    (hwritten : ∀ n tail, IsWhole tail → Q n → P (identifier (foldDiacritics n ++ tail))) :
    (∀ w ∈ writtenNames ((mergeDrafts drafts).map (·.sanitize)), P w) ↔
      ∀ n ∈ d.drawnNames, Q n := by
  constructor
  · exact fun hall n hn => hdrawn n (hall _ (h.written_of_drawn hd hn))
  · intro hall w hw
    obtain ⟨n, tail, rfl, htail, hn⟩ := h.drawn_of_written hd hrelations hw
    refine hwritten n tail htail ?_
    rcases hn with hn | ⟨r, hr, rfl⟩
    · exact hall n hn
    · exact hsafe _ (hrelations r hr)

end WellFormed

/-- **When the names in the script of a valid diagram are words of it.** None has a blank. They have
no separator either, and each has a character, iff so it is, once they are folded, for the names of
the entities that have tables, of their attributes and of the attributes of many-to-many relations.
The script is cut at its semicolons into one piece for each table and one for each foreign key iff
none of these names has a semicolon or a Greek question mark. -/
theorem identifiers_safe (hv : d.validate.isValid = true) :
    ∃ ts, d.deriveTables = .ok ts ∧ d.generateSql = .ok (emit ts) ∧
      (∀ n ∈ writtenNames ts, hasBlank n = false) ∧
      ((∀ n ∈ writtenNames ts, IsSafe n) ↔ ∀ n ∈ d.drawnNames, IsDrawnSafely n) ∧
      (statements ts).length = ts.length + (ts.flatMap (·.foreignKeys)).length ∧
      (IsCutInto (emit ts) (statements ts) ↔
        ∀ n ∈ d.drawnNames, ';' ∉ n.toList ∧ '\u037e' ∉ n.toList) := by
  have h := wellFormed_of_isValid hv
  obtain ⟨drafts, hd, hts⟩ := h.deriveTables_eq
  have hrelations : ∀ r ∈ d.relations, IsDrawnSafely r.name := fun r hr =>
    r.isDrawnSafely (hasValidName_of_isValid hv hr)
  have hsql : d.generateSql = .ok (emit ((mergeDrafts drafts).map (·.sanitize))) := by
    rw [generateSql_of_valid hv, generateUnchecked, hts]
    rfl
  refine ⟨_, hts, hsql, fun n hn => ?_, ?_, length_statements _, ?_⟩
  · obtain ⟨_, tail, rfl, -, -⟩ := h.drawn_of_written hd hrelations hn
    exact hasBlank_identifier _
  · refine h.forall_written_iff hd hrelations (fun n => isSafe_writtenName_iff.mp) (fun _ hn => hn)
      fun n tail htail hn => ⟨?_, hasBlank_identifier _, ?_⟩
    · rw [Ne, identifier_eq_empty, String.append_eq_empty_iff]
      exact fun hempty => hn.1 hempty.1
    · exact isWhole_identifier.mpr (isWhole_append.mpr ⟨isWhole_foldDiacritics.mpr hn.2, htail⟩)
  · rw [emit_isCutInto_iff]
    have hsign : ';' ∈ separators := by decide
    have hfolded : ∀ n : String, ';' ∉ (foldDiacritics n).toList ↔
        ';' ∉ n.toList ∧ '\u037e' ∉ n.toList := by
      intro n
      rw [semicolon_mem_foldDiacritics_iff, not_or]
    refine h.forall_written_iff hd hrelations (fun n hn => ?_) (fun n hn => ?_)
      fun n tail htail hn => ?_
    · rw [← hfolded]
      exact fun hmem => hn ((separator_mem_identifier hsign).mpr hmem)
    · exact ⟨fun hmem => hn.2 _ hmem (by decide), fun hmem => hn.2 _ hmem (by decide)⟩
    · rw [separator_mem_identifier hsign, String.toList_append, List.mem_append, not_or]
      exact ⟨(hfolded n).mpr hn, fun hmem => htail _ hmem hsign⟩

theorem shop_identifiers :
    ∃ ts, shop.deriveTables = .ok ts ∧ shop.generateSql = .ok (emit ts) ∧
      (∀ n ∈ writtenNames ts, IsSafe n) ∧
      (statements ts).length = ts.length + (ts.flatMap (·.foreignKeys)).length ∧
      IsCutInto (emit ts) (statements ts) := by
  obtain ⟨ts, hts, hsql, -, hsafe, hlength, hcut⟩ :=
    identifiers_safe (d := shop) (by decide +kernel)
  have hdrawn : ∀ n ∈ shop.drawnNames, IsDrawnSafely n := by decide +kernel
  exact ⟨ts, hts, hsql, hsafe.mpr hdrawn, hlength, hcut.mpr (by decide +kernel)⟩

/-- An entity whose name looks like two statements. -/
def twoStatements : Diagram where
  entities := [⟨"a", "A;B", false, [.ofKey "id"]⟩]

/-- **A name need not be a word of the script**, on a valid diagram, and the script is then not cut
into its statements. -/
theorem twoStatements_cut :
    twoStatements.validate.isValid = true ∧ ∃ ts, twoStatements.deriveTables = .ok ts ∧
      (∃ n ∈ writtenNames ts, ¬ IsSafe n) ∧ ¬ IsCutInto (emit ts) (statements ts) := by
  have hnames : twoStatements.deriveTables.toOption.map writtenNames = some ["A;B", "id"] := by
    decide +kernel
  obtain ⟨ts, hts, heq⟩ := exists_of_map_toOption hnames
  have hmem : "A;B" ∈ writtenNames ts := heq ▸ List.mem_cons_self
  refine ⟨by decide +kernel, ts, hts, ⟨_, hmem, by decide⟩, fun hcut => ?_⟩
  exact absurd ((emit_isCutInto_iff ts).mp hcut _ hmem) (by decide)

end Diagram

end ErSchema
