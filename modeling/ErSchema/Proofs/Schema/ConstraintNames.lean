import ErSchema.Proofs.Schema.Wording

/-!
# Names of constraints

A foreign key is declared by a constraint, named for the column alone: for the key attribute that is
referred to, the relation on behalf of which it is, in a junction table the position of the side,
and a number where the table had a column of that name. The name of the table is not part of it, so
two constraints of a script can share a name, but not two on behalf of one relation; and none do
where underscores and blanks are left out of the names of relations and keys, so that a name can be
read.

* `RefersFor.name_place`, `RefersFor.name_eq`: a relation has its references in one table, under one
  name but for a junction table.
* `IsKeyFor`, `IsKeyFor.relation_eq`: what a foreign key is named for, and when that can be read.
* `StandsFor`, `WellFormed.exists_keys`: the foreign keys of tables, each with its relation.
* `constraintNames_apart`: when no two constraints of a valid diagram have one name.
-/

namespace ErSchema

open Text

/-! ## Constraints -/

/-- The name of the constraint that declares a foreign key. -/
def Column.constraintName (c : Column) : String := "FK_" ++ identifier c.name

/-- The names of the constraints of a script, in order. -/
def constraintNames (ts : List Table) : List String :=
  (ts.flatMap (·.foreignKeys)).map (·.constraintName)

/-- Whether a statement adds a constraint of a name. -/
def AddsConstraint (statement name : String) : Prop :=
  ∃ table column target, statement = "ALTER TABLE " ++ table ++ " ADD CONSTRAINT " ++ name ++
    " FOREIGN KEY (" ++ column ++ ") REFERENCES " ++ target ++ ";"

theorem Column.constraintName_inj {c c' : Column} :
    c.constraintName = c'.constraintName ↔ identifier c.name = identifier c'.name := by
  unfold Column.constraintName
  exact String.append_right_inj "FK_"

theorem addsConstraint_foreignKeyStatement (table target : String) (c : Column) :
    AddsConstraint (foreignKeyStatement table (identifier c.name) target) c.constraintName := by
  have hsplit : " ADD CONSTRAINT FK_" = " ADD CONSTRAINT " ++ "FK_" := by decide
  refine ⟨table, identifier c.name, target, ?_⟩
  unfold foreignKeyStatement Column.constraintName
  rw [hsplit]
  simp only [String.append_assoc]

theorem Table.addsConstraints (t : Table) : List.Forall₂ AddsConstraint t.foreignKeyStatements
    (t.foreignKeys.map (·.constraintName)) := by
  obtain ⟨name, columns⟩ := t
  simp only [Table.foreignKeyStatements, Table.foreignKeys]
  induction columns with
  | nil => exact .nil
  | cons c cs ih =>
    cases hc : c.foreignKey with
    | none =>
      have hnot : c.isForeignKey = false := by simp [Column.isForeignKey, hc]
      rw [List.filterMap_cons_none (by rw [hc]; rfl), List.filter_cons_of_neg (by simp [hnot])]
      exact ih
    | some target =>
      have his : c.isForeignKey = true := by simp [Column.isForeignKey, hc]
      rw [List.filterMap_cons_some (by rw [hc]; rfl), List.filter_cons_of_pos his, List.map_cons]
      exact .cons (addsConstraint_foreignKeyStatement _ _ c) ih

/-- **The alterations of a script add constraints of these names**, one by one. -/
theorem addsConstraints (ts : List Table) :
    List.Forall₂ AddsConstraint (ts.flatMap (·.foreignKeyStatements)) (constraintNames ts) := by
  unfold constraintNames
  induction ts with
  | nil => exact .nil
  | cons t ts ih =>
    rw [List.flatMap_cons, List.flatMap_cons, List.map_append]
    exact List.rel_append t.addsConstraints ih

/-! ## Names that can be read -/

/-- Whether a name has neither underscores nor blanks. -/
def IsOneWord (s : String) : Prop := '_' ∉ s.toList ∧ hasBlank s = false

theorem splitOn_append_numbering {s number : String} {rest : List Char} (hs : '_' ∉ s.toList)
    (hnumber : IsNumbering number) (hrest : rest = [] ∨ ∃ more, rest = '_' :: more) :
    ((s.toList ++ (number.toList ++ rest)).splitOn '_').head? = some s.toList := by
  have hword : ∀ more, ((s.toList ++ '_' :: more).splitOn '_').head? = some s.toList := by
    intro more
    rw [List.splitOn_append_cons_self_of_not_mem hs, List.head?_cons]
  rcases hnumber with rfl | ⟨n, rfl⟩
  · rcases hrest with rfl | ⟨more, rfl⟩
    · simp [List.splitOn_eq_singleton hs]
    · simpa using hword more
  · have hline : "_".toList = ['_'] := rfl
    rw [String.toList_append, hline, List.append_assoc, List.singleton_append]
    exact hword _

/-- **The relation can be read** from a name, where there are no underscores in its parts: it stands
between the first underscore and the second, or the end. -/
theorem read_relation {a r position number : String} (ha : '_' ∉ a.toList) (hr : '_' ∉ r.toList)
    (hposition : IsNumbering position) (hnumber : IsNumbering number) :
    ((a ++ "_" ++ r ++ position ++ number).toList.splitOn '_').tail.head? = some r.toList := by
  have hline : "_".toList = ['_'] := rfl
  have hrest : number.toList = [] ∨ ∃ more, number.toList = '_' :: more := by
    rcases hnumber with rfl | ⟨n, rfl⟩
    · exact Or.inl rfl
    · exact Or.inr ⟨(toString n).toList, by rw [String.toList_append]; rfl⟩
  simp only [String.toList_append, hline, List.append_assoc, List.cons_append, List.nil_append]
  rw [List.splitOn_append_cons_self_of_not_mem ha, List.tail_cons]
  exact splitOn_append_numbering hr hposition hrest

/-! ## References of a relation -/

/-- The name of the table in which a relation has its references. -/
def ClassifiedRelation.place (c : ClassifiedRelation) : String :=
  if c.relationClass = .manyToMany then c.name else c.holder.entity.name

/-- The column by which a junction table refers to a side by a key attribute. -/
def ClassifiedRelation.junctionColumn (c : ClassifiedRelation) (s : ClassifiedSide) (position : Nat)
    (a : Attribute) : Column where
  name := relationColumnName a c.name ++ "_" ++ toString position
  key := true
  foreignKey := some s.entity.name

theorem ClassifiedRelation.foreignKeys_holderTable (c : ClassifiedRelation) :
    c.holderTable.foreignKeys = c.references := by
  have hown : c.holder.entity.table.columns.filter (·.isForeignKey) = [] :=
    List.filter_eq_nil_iff.mpr fun x hx => by simp [isForeignKey_of_mem_table hx]
  have hall : c.references.filter (·.isForeignKey) = c.references := by
    refine List.filter_eq_self.mpr fun x hx => ?_
    obtain ⟨a, -, rfl⟩ := List.mem_map.mp hx
    rfl
  unfold Table.foreignKeys ClassifiedRelation.holderTable
  rw [List.filter_append, hown, hall, List.nil_append]

theorem ClassifiedRelation.foreignKeys_junctionTable (c : ClassifiedRelation) :
    c.junctionTable.foreignKeys = c.junctionColumns c.side1 1 ++ c.junctionColumns c.side2 2 := by
  simp [junctionTable, Table.foreignKeys, junctionColumns,
    List.filter_map, Function.comp_def, Column.isForeignKey]

/-- Texts with different positions behind are different. -/
theorem positions_apart (s s' : String) : s ++ "_" ++ toString 1 ≠ s' ++ "_" ++ toString 2 := by
  intro heq
  have hlists := congrArg String.toList heq
  rw [String.toList_append, String.toList_append (s := s' ++ "_")] at hlists
  exact absurd (List.append_inj_right' hlists rfl) (by decide)

theorem foldDiacritics_position (s : String) (n : Nat) :
    foldDiacritics (s ++ "_" ++ toString n) = foldDiacritics s ++ "_" ++ toString n := by
  have hposition : IsNumbering ("_" ++ toString n) := Or.inr ⟨n, rfl⟩
  rw [String.append_assoc, foldDiacritics_append, hposition.isFolded, String.append_assoc]

theorem identifier_position (s : String) (n : Nat) :
    identifier (s ++ "_" ++ toString n) = identifier s ++ "_" ++ toString n := by
  rw [identifier_append (hasBlank_toString n), identifier_append (by decide)]

/-- A column under its folded name. -/
def Column.folded (c : Column) : Column := c.renamed (foldDiacritics c.name)

theorem Column.sanitizes_folded (c : Column) : c.Sanitizes c.folded :=
  ⟨[], by rw [freshName_of_not_mem List.not_mem_nil]; rfl⟩

theorem Column.isForeignKey_folded (c : Column) : c.folded.isForeignKey = c.isForeignKey :=
  c.sanitizes_folded.isForeignKey

/-- Two references at the front of a table keep their folded names, if these are different. -/
theorem foreignKeys_sanitize_pair {name : String} {x y : Column} {rest : List Column}
    (hne : foldDiacritics y.name ≠ foldDiacritics x.name) (hx : x.isForeignKey = true)
    (hy : y.isForeignKey = true) (hrest : ∀ z ∈ rest, z.isForeignKey = false) :
    (⟨name, x :: y :: rest⟩ : Table).sanitize.foreignKeys = [x.folded, y.folded] := by
  have hcolumns : ∃ taken, (⟨name, x :: y :: rest⟩ : Table).sanitize.columns =
      x.folded :: y.folded :: sanitizeColumns taken rest := by
    refine ⟨[foldDiacritics y.name, foldDiacritics x.name], ?_⟩
    unfold Table.sanitize Column.folded
    rw [sanitizeColumns, sanitizeColumns, freshName_of_not_mem List.not_mem_nil,
      freshName_of_not_mem (by simpa using hne)]
  obtain ⟨taken, hcolumns⟩ := hcolumns
  have hnone : (sanitizeColumns taken rest).filter (·.isForeignKey) = [] := by
    refine List.filter_eq_nil_iff.mpr fun z hz => ?_
    obtain ⟨w, hw, hs⟩ := exists_of_forall₂_right (sanitizes_sanitizeColumns taken rest) hz
    simp [hs.isForeignKey, hrest w hw]
  unfold Table.foreignKeys
  rw [hcolumns, List.filter_cons_of_pos (by rw [x.isForeignKey_folded, hx]),
    List.filter_cons_of_pos (by rw [y.isForeignKey_folded, hy]), hnone]

/-- The names of the references of a junction table end in the positions of their sides. -/
theorem ClassifiedRelation.name_folded_junctionColumn (c : ClassifiedRelation) (s : ClassifiedSide)
    (position : Nat) (a : Attribute) : (c.junctionColumn s position a).folded.name =
      foldDiacritics (relationColumnName a c.name) ++ "_" ++ toString position :=
  foldDiacritics_position _ position

/-- **The foreign keys of a junction table**, where each side has one key attribute. -/
theorem ClassifiedRelation.foreignKeys_sanitize_junctionTable {c : ClassifiedRelation}
    {a₁ a₂ : Attribute} (h₁ : c.side1.entity.primaryKeys = [a₁])
    (h₂ : c.side2.entity.primaryKeys = [a₂]) :
    c.junctionTable.sanitize.foreignKeys =
      [(c.junctionColumn c.side1 1 a₁).folded, (c.junctionColumn c.side2 2 a₂).folded] := by
  have htable : c.junctionTable = ⟨c.name, c.junctionColumn c.side1 1 a₁ ::
      c.junctionColumn c.side2 2 a₂ :: c.attributes.map fun a => { name := a.name }⟩ := by
    unfold junctionTable junctionColumns
    rw [h₁, h₂]
    rfl
  rw [htable]
  refine foreignKeys_sanitize_pair ?_ rfl rfl fun z hz => ?_
  · change (c.junctionColumn c.side2 2 a₂).folded.name ≠ (c.junctionColumn c.side1 1 a₁).folded.name
    rw [name_folded_junctionColumn, name_folded_junctionColumn]
    exact (positions_apart _ _).symm
  · obtain ⟨a, -, rfl⟩ := List.mem_map.mp hz
    rfl

/-- The constraints of a junction table have different names. -/
theorem ClassifiedRelation.constraintName_ne_of_junction (c : ClassifiedRelation)
    (a₁ a₂ : Attribute) : (c.junctionColumn c.side1 1 a₁).folded.constraintName ≠
      (c.junctionColumn c.side2 2 a₂).folded.constraintName := by
  rw [Ne, Column.constraintName_inj, name_folded_junctionColumn, name_folded_junctionColumn,
    identifier_position, identifier_position]
  exact positions_apart _ _

namespace Diagram

variable {d : Diagram}

/-- **What a foreign key is named for**: a key attribute of a strong entity on a side of a relation,
the relation, and up to two numbers behind. It refers to that entity. -/
def IsKeyFor (d : Diagram) (r : Relation) (x : Column) : Prop :=
  r ∈ d.relations ∧ ∃ e ∈ d.strongEntities, r.touches e.id = true ∧ ∃ a ∈ e.primaryKeys,
    ∃ position number, IsNumbering position ∧ IsNumbering number ∧
      x.name = foldDiacritics a.name ++ "_" ++ foldDiacritics r.name ++ position ++ number ∧
      x.foreignKey = some (foldDiacritics e.name)

/-- Whether the names of relations and of keys have neither underscores nor blanks. -/
def IsLegibleInKeys (d : Diagram) : Prop :=
  (∀ r ∈ d.relations, IsOneWord r.name) ∧
    ∀ e ∈ d.strongEntities, ∀ a ∈ e.primaryKeys, IsOneWord a.name

theorem RefersFor.isKeyFor (h : d.WellFormed) {r : Relation} {t : Table} {x y : Column}
    (hx : d.RefersFor r t x) (hs : x.Sanitizes y) : d.IsKeyFor r y := by
  obtain ⟨c, s, u, a, hr, hf, he, ha, ⟨position, hposition, hname⟩, hforeign⟩ := hx.exists_face h
  have hkey := hs.foreignKey
  obtain ⟨taken, rfl⟩ := hs
  obtain ⟨number, hnumber, hfresh⟩ := exists_freshName_eq taken (foldDiacritics x.name)
  refine ⟨hr.mem, s.entity, he, (hr.face hf).2.2, a, ha, position, number, hposition, hnumber, ?_,
    by rw [hkey, hforeign]; rfl⟩
  change freshName taken (foldDiacritics x.name) = _
  rw [hfresh, hname, foldDiacritics_relationColumnName a r.name hposition]

/-- **The relation of a foreign key can be read** from the name of its constraint, where the names
of relations and of keys are single words. -/
theorem IsKeyFor.relation_eq (h : d.WellFormed) (hvalid : ∀ r ∈ d.relations, r.hasValidName = true)
    (hwords : d.IsLegibleInKeys) {r r' : Relation} {x y : Column} (hx : d.IsKeyFor r x)
    (hy : d.IsKeyFor r' y) (heq : x.constraintName = y.constraintName) : r = r' := by
  have hread : ∀ {r : Relation} {x : Column}, d.IsKeyFor r x → identifier x.name = x.name ∧
      (x.name.toList.splitOn '_').tail.head? = some r.name.toList := by
    rintro r x ⟨hr, e, he, -, a, ha, position, number, hposition, hnumber, hname, -⟩
    obtain ⟨hrline, hrblank⟩ := hwords.1 r hr
    obtain ⟨haline, hablank⟩ := hwords.2 e he a ha
    have hfolded : IsFolded r.name := isFolded_of_ascii fun c hc => by
      rcases (r.chars_of_hasValidName (hvalid r hr)).1 c hc with hblank | hchar
      · exact absurd hblank (List.any_eq_false.mp hrblank c hc)
      · exact ascii_of_isNameChar hchar
    rw [hfolded] at hname
    constructor
    · refine identifier_of_not_hasBlank ?_
      rw [hname]
      simp only [hasBlank_append, hasBlank_foldDiacritics hablank, hrblank,
        hposition.hasBlank_eq_false, hnumber.hasBlank_eq_false]
      rfl
    · rw [hname]
      exact read_relation (mt (mem_foldDiacritics_iff (by decide)).mp haline) hrline hposition
        hnumber
  obtain ⟨hidx, hreadx⟩ := hread hx
  obtain ⟨hidy, hready⟩ := hread hy
  rw [Column.constraintName_inj, hidx, hidy] at heq
  rw [heq, hready] at hreadx
  exact h.relation_eq_of_name hx.1 hy.1 (String.toList_inj.mp (Option.some.inj hreadx)).symm

/-! ## References of one relation -/

namespace RefersFor

variable {r : Relation} {c : ClassifiedRelation} {t : Table} {x y : Column}

/-- **A relation has its references in one table**, where ids are not shared. -/
theorem name_place (h : d.WellFormed) (hids : (d.entities.map (·.id)).Nodup)
    (hr : d.Resolves r c) (hx : d.RefersFor r t x) : t.name = c.place := by
  unfold ClassifiedRelation.place
  cases hx with
  | link c' hr' hc hs ht hx =>
    obtain rfl := hr.unique hr'
    rw [if_neg hc, ht]
  | junction c' s u position hr' hc ht hf hx =>
    obtain rfl := hr.unique hr'
    rw [if_pos hc, ht]
    rfl
  | tie owner e ho ht hx =>
    obtain ⟨c', s, u, hr', hf, hid, -⟩ := h.face_of_owns ho
    obtain rfl := hr.unique hr'
    obtain ⟨he, hw⟩ := WellFormed.mem_weakEntities.mp ho.weak
    obtain rfl : s.entity = e := List.inj_on_of_nodup_map hids (hr.face hf).1 he hid
    have hclass := h.oneToMany_of_weak hr hf hw
    rw [if_neg (by rw [hclass]; simp), ht]
    -- the target is strong, so the weak entity is the holder
    rcases ClassifiedRelation.holder_or_target hf with rfl | rfl
    · rfl
    · have hstrong := h.target_strong hr (by rw [hclass]; simp)
      rw [(WellFormed.mem_strongEntities.mp hstrong).2] at hw
      exact absurd hw (by simp)

/-- **A relation has its references in a table under one name**, but for its junction table. -/
theorem name_eq (h : d.WellFormed) (hx : d.RefersFor r t x) (hy : d.RefersFor r t y)
    (ht : ∀ c, d.Resolves r c → c.relationClass = .manyToMany → t ≠ c.junctionTable) :
    x.name = y.name := by
  have hweak : ∀ {e e' : Entity}, e ∈ d.strongEntities → e' ∈ d.weakEntities →
      e.name ≠ e'.name := by
    intro e e' he he' hn
    obtain ⟨hmem, hs⟩ := WellFormed.mem_strongEntities.mp he
    obtain ⟨hmem', hw⟩ := WellFormed.mem_weakEntities.mp he'
    rw [h.entity_eq_of_name hmem hmem' hn, hw] at hs
    exact absurd hs (by simp)
  cases hx with
  | junction c s u position hr hc htable hf hx => exact absurd htable (ht c hr hc)
  | link c hr hc hs htn hx =>
    cases hy with
    | junction c' s u position hr' hc' htable hf hy => exact absurd htable (ht c' hr' hc')
    | tie owner e ho htn' hy => exact absurd (htn.symm.trans htn') (hweak hs ho.weak)
    | link c' hr' hc' hs' htn' hy =>
      obtain rfl := hr.unique hr'
      obtain ⟨z, hz⟩ := List.length_eq_one_iff.mp (h.length_references hr hc)
      rw [hz, List.mem_singleton] at hx hy
      rw [hx, hy]
  | tie owner e ho htn hx =>
    cases hy with
    | junction c' s u position hr' hc' htable hf hy => exact absurd htable (ht c' hr' hc')
    | link c' hr' hc' hs' htn' hy => exact absurd (htn'.symm.trans htn) (hweak hs' ho.weak)
    | tie owner' e' ho' htn' hy =>
      have hmem := (WellFormed.mem_weakEntities.mp ho.weak).1
      have hmem' := (WellFormed.mem_weakEntities.mp ho'.weak).1
      obtain rfl := h.entity_eq_of_name hmem hmem' (htn.symm.trans htn')
      obtain ⟨rfl, -⟩ := ho.unique ho'
      obtain ⟨a, ha⟩ := h.key_of_strong owner ho.strong
      unfold Entity.ownerColumns at hx hy
      rw [ha, List.map_singleton, List.mem_singleton] at hx hy
      rw [hx, hy]

end RefersFor

/-! ## Foreign keys of one table -/

namespace WellFormed

variable {drafts : List Table}

/-- The references of a draft have different names. -/
theorem nodup_of_draft (h : d.WellFormed) (hd : d.drafts = .ok drafts) {t : Table}
    (ht : t ∈ drafts) : (t.foreignKeys.map (·.name)).Nodup := by
  have hfew : ∀ t : Table, t.columns.countP (·.isForeignKey) ≤ 1 →
      (t.foreignKeys.map (·.name)).Nodup := by
    intro t hle
    rw [List.countP_eq_length_filter] at hle
    unfold Table.foreignKeys
    generalize t.columns.filter (·.isForeignKey) = xs at hle ⊢
    match xs, hle with
    | [], _ => exact List.nodup_nil
    | [x], _ => exact List.nodup_singleton x.name
  rw [h.drafts_eq] at hd
  cases hd
  rcases List.mem_append.mp ht with ht | ht
  · obtain ⟨c, hc, ht⟩ := List.mem_flatMap.mp ht
    obtain ⟨r, hr⟩ := h.mem_resolved.mp hc
    rcases h.mem_drafts_cases hr ht with ⟨e, -, rfl⟩ | ⟨hclass, rfl⟩ | ⟨hclass, -, rfl⟩
    · have hnone : e.table.columns.countP (·.isForeignKey) = 0 :=
        List.countP_eq_zero.mpr fun x hx => by simp [isForeignKey_of_mem_table hx]
      exact hfew _ (by omega)
    · obtain ⟨a₁, h₁⟩ := h.key_of_strong _ (h.strong_of_manyToMany hr hclass (Or.inl ⟨rfl, rfl⟩))
      obtain ⟨a₂, h₂⟩ := h.key_of_strong _ (h.strong_of_manyToMany hr hclass (Or.inr ⟨rfl, rfl⟩))
      rw [ClassifiedRelation.foreignKeys_junctionTable]
      unfold ClassifiedRelation.junctionColumns
      rw [h₁, h₂]
      simpa using positions_apart _ _
    · obtain ⟨z, hz⟩ := List.length_eq_one_iff.mp (h.length_references hr hclass)
      rw [ClassifiedRelation.foreignKeys_holderTable, hz]
      simp
  · obtain ⟨e, he, ht⟩ := List.mem_flatMap.mp ht
    obtain ⟨u, hu, -, hcount⟩ := h.exists_ownDrafts (h.mem_remaining.mp he).1
    rw [hu, List.mem_singleton] at ht
    refine hfew t ?_
    rw [ht, hcount]
    split <;> omega

/-- **The references in a merged table have different names.** -/
theorem foreignKeyNames_nodup (h : d.WellFormed) (hd : d.drafts = .ok drafts) :
    ∀ t ∈ mergeDrafts drafts, (t.foreignKeys.map (·.name)).Nodup := by
  refine forall_mergeDrafts (fun t ht => h.nodup_of_draft hd ht) fun t u ht hu _ => ?_
  unfold Table.foreignKeys Table.absorb at *
  rw [List.filter_append, List.map_append, List.nodup_append]
  refine ⟨ht, ?_, ?_⟩
  · rw [List.filter_comm]
    exact hu.sublist (List.filter_sublist.map _)
  · intro n hn m hm
    obtain ⟨x, hx, rfl⟩ := List.mem_map.mp hn
    obtain ⟨y, hy, rfl⟩ := List.mem_map.mp hm
    have hnew := (List.mem_filter.mp (List.mem_filter.mp hy).1).2
    simp only [Bool.not_eq_true', List.any_eq_false, decide_eq_true_eq] at hnew
    exact hnew x (List.mem_filter.mp hx).1

end WellFormed

/-- **The foreign keys of a table, each with its relation**: those of one relation have constraints
of different names. -/
structure KeysOf (d : Diagram) (t : Table) (keys : List (Relation × Column)) : Prop where
  columns : keys.map (·.2) = t.sanitize.foreignKeys
  refers : ∀ k ∈ keys, ∃ x ∈ t.foreignKeys, d.RefersFor k.1 t x ∧ x.Sanitizes k.2
  apart : keys.Pairwise fun k l => k.1 = l.1 → k.2.constraintName ≠ l.2.constraintName

/-- Columns of different names that refer on behalf of relations do so for different ones, if each
relation has one name. -/
theorem exists_labels {t : Table} {xs ys : List Column}
    (hname : ∀ r x y, d.RefersFor r t x → d.RefersFor r t y → x.name = y.name)
    (hs : List.Forall₂ Column.Sanitizes xs ys) (hrefers : ∀ x ∈ xs, ∃ r, d.RefersFor r t x)
    (hnames : (xs.map (·.name)).Nodup) :
    ∃ keys : List (Relation × Column), keys.map (·.2) = ys ∧
      (∀ k ∈ keys, ∃ x ∈ xs, d.RefersFor k.1 t x ∧ x.Sanitizes k.2) ∧
      keys.Pairwise fun k l => k.1 ≠ l.1 := by
  induction hs with
  | nil => exact ⟨[], rfl, fun k hk => absurd hk List.not_mem_nil, .nil⟩
  | @cons x y xs ys hxy _ ih =>
    obtain ⟨⟨r, hr⟩, hrefers⟩ := List.forall_mem_cons.mp hrefers
    obtain ⟨hfresh, hnames⟩ := List.nodup_cons.mp hnames
    obtain ⟨keys, hkeys, hall, hapart⟩ := ih hrefers hnames
    refine ⟨(r, y) :: keys, by rw [List.map_cons, hkeys], ?_, List.pairwise_cons.mpr ⟨?_, hapart⟩⟩
    · refine List.forall_mem_cons.mpr ⟨⟨x, List.mem_cons_self, hr, hxy⟩, fun k hk => ?_⟩
      obtain ⟨x', hx', hk⟩ := hall k hk
      exact ⟨x', List.mem_cons_of_mem x hx', hk⟩
    · intro l hl heq
      obtain ⟨x', hx', hl, -⟩ := hall l hl
      obtain rfl : r = l.1 := heq
      exact hfresh (List.mem_map.mpr ⟨x', hx', (hname _ x x' hr hl).symm⟩)

/-- The references of a junction table are told apart by the positions of the sides. -/
theorem WellFormed.keysOf_junction (h : d.WellFormed) {r : Relation} {c : ClassifiedRelation}
    (hr : d.Resolves r c) (hc : c.relationClass = .manyToMany) :
    ∃ keys, d.KeysOf c.junctionTable keys := by
  obtain ⟨a₁, h₁⟩ := h.key_of_strong _ (h.strong_of_manyToMany hr hc (Or.inl ⟨rfl, rfl⟩))
  obtain ⟨a₂, h₂⟩ := h.key_of_strong _ (h.strong_of_manyToMany hr hc (Or.inr ⟨rfl, rfl⟩))
  have hmem₁ : c.junctionColumn c.side1 1 a₁ ∈ c.junctionColumns c.side1 1 :=
    List.mem_map.mpr ⟨a₁, by rw [h₁]; exact List.mem_cons_self, rfl⟩
  have hmem₂ : c.junctionColumn c.side2 2 a₂ ∈ c.junctionColumns c.side2 2 :=
    List.mem_map.mpr ⟨a₂, by rw [h₂]; exact List.mem_cons_self, rfl⟩
  have hall := c.foreignKeys_junctionTable
  refine
    ⟨[(r, (c.junctionColumn c.side1 1 a₁).folded), (r, (c.junctionColumn c.side2 2 a₂).folded)],
    (ClassifiedRelation.foreignKeys_sanitize_junctionTable h₁ h₂).symm, ?_, ?_⟩
  · simp only [List.forall_mem_cons, List.not_mem_nil, false_imp_iff, implies_true, and_true]
    constructor
    · exact ⟨_, hall ▸ List.mem_append_left _ hmem₁,
        .junction c c.side1 c.side2 1 hr hc rfl (Or.inl ⟨rfl, rfl⟩) hmem₁,
        Column.sanitizes_folded _⟩
    · exact ⟨_, hall ▸ List.mem_append_right _ hmem₂,
        .junction c c.side2 c.side1 2 hr hc rfl (Or.inr ⟨rfl, rfl⟩) hmem₂,
        Column.sanitizes_folded _⟩
  · exact List.pairwise_pair.mpr fun _ => c.constraintName_ne_of_junction a₁ a₂

/-- **The foreign keys of a merged table, each with its relation.** -/
theorem WellFormed.exists_keysOf (h : d.WellFormed) {drafts : List Table}
    (hd : d.drafts = .ok drafts) {t : Table} (ht : t ∈ mergeDrafts drafts) :
    ∃ keys, d.KeysOf t keys := by
  have hform := h.form_of_mem_merged hd t ht
  by_cases hjunction : ∃ r c, d.Resolves r c ∧ c.relationClass = .manyToMany ∧ t = c.junctionTable
  · obtain ⟨r, c, hr, hc, rfl⟩ := hjunction
    exact h.keysOf_junction hr hc
  · have hrefers : ∀ x ∈ t.foreignKeys, ∃ r, d.RefersFor r t x := by
      intro x hx
      obtain ⟨hmem, hforeign⟩ := List.mem_filter.mp hx
      cases hform.columnOf hmem with
      | entity e a he htn ha hxn hnone => simp [Column.isForeignKey, hnone] at hforeign
      | relation r c a hr hc htn ha hxn hnone => simp [Column.isForeignKey, hnone] at hforeign
      | reference r hx => exact ⟨r, hx⟩
    obtain ⟨keys, hkeys, hall, hapart⟩ := exists_labels
      (fun r x y hx hy => hx.name_eq h hy fun c hr hc htable => hjunction ⟨r, c, hr, hc, htable⟩)
      t.foreignKeys_sanitize hrefers (h.foreignKeyNames_nodup hd t ht)
    exact ⟨keys, hkeys, hall, hapart.imp fun hne heq => absurd heq hne⟩

/-! ## Foreign keys of a diagram -/

/-- **Whether a foreign key stands in merged tables on behalf of a relation**: it is in one of them
once that is sanitized, and came from a column by which that table refers for the relation. -/
def StandsFor (d : Diagram) (ts : List Table) (r : Relation) (y : Column) : Prop :=
  ∃ t ∈ ts, y ∈ t.sanitize.foreignKeys ∧
    ∃ x ∈ t.foreignKeys, d.RefersFor r t x ∧ x.Sanitizes y

theorem KeysOf.standsFor {t : Table} {keys : List (Relation × Column)} (h : d.KeysOf t keys)
    {ts : List Table} (ht : t ∈ ts) {k : Relation × Column} (hk : k ∈ keys) :
    d.StandsFor ts k.1 k.2 :=
  ⟨t, ht, h.columns ▸ List.mem_map_of_mem hk, h.refers k hk⟩

theorem StandsFor.mono {ts us : List Table} (hsubset : ts ⊆ us) {r : Relation} {y : Column}
    (h : d.StandsFor ts r y) : d.StandsFor us r y := by
  obtain ⟨t, ht, hy⟩ := h
  exact ⟨t, hsubset ht, hy⟩

theorem StandsFor.isKeyFor (h : d.WellFormed) {ts : List Table} {r : Relation} {y : Column}
    (hy : d.StandsFor ts r y) : d.IsKeyFor r y := by
  obtain ⟨t, -, -, x, -, hx, hs⟩ := hy
  exact hx.isKeyFor h hs

/-- **The foreign keys of tables of different names, each with its relation.** Those of one relation
are in one table, where ids are not shared. -/
theorem WellFormed.exists_keys (h : d.WellFormed) {ts : List Table}
    (hts : ∀ t ∈ ts, ∃ keys, d.KeysOf t keys) (hnames : (tableNames ts).Nodup) :
    ∃ keys : List (Relation × Column),
      keys.map (·.2) = (ts.map (·.sanitize)).flatMap (·.foreignKeys) ∧
      (∀ k ∈ keys, d.StandsFor ts k.1 k.2) ∧
      ((d.entities.map (·.id)).Nodup →
        keys.Pairwise fun k l => k.1 = l.1 → k.2.constraintName ≠ l.2.constraintName) := by
  induction ts with
  | nil => exact ⟨[], rfl, fun k hk => absurd hk List.not_mem_nil, fun _ => .nil⟩
  | cons t ts ih =>
    obtain ⟨⟨first, hfirst⟩, hts⟩ := List.forall_mem_cons.mp hts
    obtain ⟨hfresh, hnames⟩ := List.nodup_cons.mp hnames
    obtain ⟨rest, hrest, hall, hapart⟩ := ih hts hnames
    refine ⟨first ++ rest, ?_, ?_, fun hids => ?_⟩
    · rw [List.map_append, hfirst.columns, hrest, List.map_cons, List.flatMap_cons]
    · exact List.forall_mem_append.mpr
        ⟨fun k hk => hfirst.standsFor List.mem_cons_self hk,
          fun k hk => (hall k hk).mono (List.subset_cons_self t ts)⟩
    · refine List.pairwise_append.mpr ⟨hfirst.apart, hapart hids, fun k hk l hl heq => ?_⟩
      obtain ⟨x, -, hx, -⟩ := hfirst.refers k hk
      obtain ⟨u, hu, -, y, -, hy, -⟩ := hall l hl
      obtain ⟨c, s, s', a, hr, -⟩ := hx.exists_face h
      have hplace := hx.name_place h hids hr
      rw [← (heq ▸ hy : d.RefersFor k.1 u y).name_place h hids hr] at hplace
      exact absurd (List.mem_map.mpr ⟨u, hu, hplace.symm⟩) hfresh

/-- **When no two constraints of a valid diagram have one name.** Each is that of a foreign key that
stands in its table on behalf of a relation and is named for a key attribute and that relation, with
numbers behind. Where no two entities share an id, those of one relation have different names, the
names are all different iff those of different relations are, and so they are if the names of
relations and of keys have neither underscores nor blanks. -/
theorem constraintNames_apart (hv : d.validate.isValid = true) :
    ∃ merged ts, ∃ keys : List (Relation × Column),
      d.mergedTables = .ok merged ∧ d.deriveTables = .ok ts ∧
      List.Forall₂ AddsConstraint (ts.flatMap (·.foreignKeyStatements)) (constraintNames ts) ∧
      keys.map (·.2) = ts.flatMap (·.foreignKeys) ∧
      (∀ k ∈ keys, d.StandsFor merged k.1 k.2 ∧ d.IsKeyFor k.1 k.2) ∧
      ((d.entities.map (·.id)).Nodup →
        (keys.Pairwise fun k l => k.1 = l.1 → k.2.constraintName ≠ l.2.constraintName) ∧
        ((constraintNames ts).Nodup ↔
          keys.Pairwise fun k l => k.1 ≠ l.1 → k.2.constraintName ≠ l.2.constraintName) ∧
        (d.IsLegibleInKeys → (constraintNames ts).Nodup)) := by
  have h := wellFormed_of_isValid hv
  obtain ⟨drafts, hd, hmerged⟩ := h.mergedTables_eq
  obtain ⟨keys, hkeys, hall, hone⟩ := h.exists_keys (fun t ht => h.exists_keysOf hd ht)
    (names_mergeDrafts_nodup drafts)
  refine ⟨_, _, keys, hmerged, deriveTables_eq_ok hmerged, addsConstraints _, hkeys,
    fun k hk => ⟨hall k hk, (hall k hk).isKeyFor h⟩, fun hids => ⟨hone hids, ?_⟩⟩
  have hiff : (constraintNames ((mergeDrafts drafts).map (·.sanitize))).Nodup ↔
      keys.Pairwise fun k l => k.1 ≠ l.1 → k.2.constraintName ≠ l.2.constraintName := by
    unfold constraintNames
    rw [← hkeys, List.map_map, List.nodup_iff_pairwise_ne, List.pairwise_map]
    constructor
    · exact fun hall => hall.imp fun hne _ heq => hne heq
    · refine fun hdifferent => ((hone hids).and hdifferent).imp fun {k l} ⟨hsame, hother⟩ => ?_
      by_cases heq : k.1 = l.1
      · exact hsame heq
      · exact hother heq
  refine ⟨hiff, fun hwords => hiff.mpr ?_⟩
  have hvalid := fun r (hr : r ∈ d.relations) => hasValidName_of_isValid hv hr
  refine List.Pairwise.imp_of_mem ?_ (hone hids)
  exact fun {k l} hk hl _ hne heq =>
    hne (((hall k hk).isKeyFor h).relation_eq h hvalid hwords ((hall l hl).isKeyFor h) heq)

theorem shop_constraintNames :
    ∃ merged ts, ∃ keys : List (Relation × Column),
      shop.mergedTables = .ok merged ∧ shop.deriveTables = .ok ts ∧
      List.Forall₂ AddsConstraint (ts.flatMap (·.foreignKeyStatements)) (constraintNames ts) ∧
      keys.map (·.2) = ts.flatMap (·.foreignKeys) ∧
      (∀ k ∈ keys, shop.StandsFor merged k.1 k.2 ∧ shop.IsKeyFor k.1 k.2) ∧
      (keys.Pairwise fun k l => k.1 = l.1 → k.2.constraintName ≠ l.2.constraintName) ∧
      (keys.Pairwise fun k l => k.1 ≠ l.1 → k.2.constraintName ≠ l.2.constraintName) ∧
      (constraintNames ts).Nodup := by
  obtain ⟨merged, ts, keys, hmerged, hts, hadds, hkeys, hfor, hnodup⟩ :=
    constraintNames_apart (d := shop) (by decide +kernel)
  obtain ⟨hone, hiff, hwords⟩ := hnodup (by decide)
  have hall := hwords (by unfold IsLegibleInKeys IsOneWord; decide +kernel)
  exact ⟨merged, ts, keys, hmerged, hts, hadds, hkeys, hfor, hone, hiff.mp hall, hall⟩

/-- A many-to-many relation, and another relation that is named like it with a position behind. -/
def positions : Diagram where
  entities := [⟨"a", "A", false, [.ofKey "id"]⟩, ⟨"b", "B", false, [.ofKey "id"]⟩]
  relations := [
    ⟨"r", "R", ⟨"a", "0:N"⟩, ⟨"b", "0:N"⟩, false, false, []⟩,
    ⟨"s", "R_1", ⟨"a", "0:1"⟩, ⟨"b", "0:N"⟩, false, false, []⟩]

/-- **Two constraints can have one name**, on a valid diagram: those of different relations. -/
theorem positions_clash :
    positions.validate.isValid = true ∧ ∃ ts, positions.deriveTables = .ok ts ∧
      ¬ (constraintNames ts).Nodup := by
  have hnames : positions.deriveTables.toOption.map constraintNames =
      some ["FK_id_R_1", "FK_id_R_1", "FK_id_R_2"] := by decide +kernel
  obtain ⟨ts, hts, heq⟩ := exists_of_map_toOption hnames
  exact ⟨by decide +kernel, ts, hts, by rw [heq]; decide⟩

/-- Two weak entities of one id, which one relation ties to their owner. -/
def siblings : Diagram where
  entities := [
    ⟨"a", "A", false, [.ofKey "id"]⟩,
    ⟨"w", "V", true, [.ofDiscriminant "n"]⟩,
    ⟨"w", "W", true, [.ofDiscriminant "n"]⟩]
  relations := [⟨"r", "R", ⟨"a", "1:1"⟩, ⟨"w", "0:N"⟩, true, false, []⟩]

/-- **Two constraints of one relation can have one name** where entities share an id, also if the
names of relations and keys are single words. -/
theorem siblings_clash :
    siblings.validate.isValid = true ∧ siblings.IsLegibleInKeys ∧
      ∃ ts, siblings.deriveTables = .ok ts ∧ ¬ (constraintNames ts).Nodup := by
  have hnames : siblings.deriveTables.toOption.map constraintNames =
      some ["FK_id_R", "FK_id_R"] := by decide +kernel
  obtain ⟨ts, hts, heq⟩ := exists_of_map_toOption hnames
  exact ⟨by decide +kernel, by unfold IsLegibleInKeys IsOneWord; decide +kernel, ts, hts,
    by rw [heq]; decide⟩

end Diagram

end ErSchema
