import ErSchema.Proofs.Schema.Gate

/-!
# Constraints and cardinalities

Each class of relations has a rule of its own, and the rules find the side that refers in different
ways. What they do about foreign keys is one law all the same: the key of the other side is referred
to, column by column, the minimum of that side makes the columns not null, and the maximum of the
side that refers makes them unique. It holds of every relation that can be mapped, also in a diagram
that is not valid, and for keys of any number of attributes.

* `placedKeys_holderTable`, `placedKeys_junctionTable`: the tables that refer.
* `encodes_of_oneToOneTables`, `encodes_of_oneToManyTables`, `encodes_of_manyToManyTables`: the law
  for each rule.
* `encodes_cardinalities`: the law for the records of a diagram.
-/

namespace ErSchema

/-! ## Foreign keys in their places -/

/-- The foreign keys of some tables, each with the name of the table that it sits in. -/
def placedKeys (ts : List Table) : List (String × Column) :=
  ts.flatMap fun t => t.foreignKeys.map fun x => (t.name, x)

theorem placedKeys_nil : placedKeys [] = [] := rfl

theorem placedKeys_cons (t : Table) (ts : List Table) :
    placedKeys (t :: ts) = (t.foreignKeys.map fun x => (t.name, x)) ++ placedKeys ts :=
  rfl

theorem foreignKeys_append (name : String) (xs ys : List Column) :
    Table.foreignKeys ⟨name, xs ++ ys⟩ =
      Table.foreignKeys ⟨name, xs⟩ ++ Table.foreignKeys ⟨name, ys⟩ :=
  List.filter_append xs ys

theorem foreignKeys_map_of_none (name : String) {f : Attribute → Column}
    (hf : ∀ a, (f a).foreignKey = none) (as : List Attribute) :
    Table.foreignKeys ⟨name, as.map f⟩ = [] := by
  refine List.filter_eq_nil_iff.mpr fun x hx => ?_
  obtain ⟨a, -, rfl⟩ := List.mem_map.mp hx
  simp [Column.isForeignKey, hf a]

theorem foreignKeys_map_of_some (name : String) {f : Attribute → Column} {target : String}
    (hf : ∀ a, (f a).foreignKey = some target) (as : List Attribute) :
    Table.foreignKeys ⟨name, as.map f⟩ = as.map f := by
  refine List.filter_eq_self.mpr fun x hx => ?_
  obtain ⟨a, -, rfl⟩ := List.mem_map.mp hx
  simp [Column.isForeignKey, hf a]

/-- An entity by itself refers to nothing. -/
theorem Entity.foreignKeys_table (e : Entity) : e.table.foreignKeys = [] :=
  foreignKeys_map_of_none e.name (fun _ => rfl) e.attributes

namespace ClassifiedRelation

/-! ## The law -/

/-- The references of a holder to the key of a target, in the table of the holder. -/
def linkKeys (c : ClassifiedRelation) (holder target : ClassifiedSide) : List (String × Column) :=
  target.entity.primaryKeys.map fun a => (holder.entity.name,
    { name := relationColumnName a c.name
      key := false
      notNull := decide (target.cardinality.minimum = .one)
      unique := decide (holder.cardinality.maximum = .one)
      foreignKey := some target.entity.name })

/-- The references of a many-to-many relation to the key of a side, in the table of the relation. -/
def positionKeys (c : ClassifiedRelation) (s : ClassifiedSide) (position : Nat) :
    List (String × Column) :=
  s.entity.primaryKeys.map fun a => (c.name,
    { name := relationColumnName a c.name ++ "_" ++ toString position
      key := true
      notNull := false
      unique := false
      foreignKey := some s.entity.name })

/-- Which relations ask for no reference: both sides become one table, or the table of a weak entity
has the reference already. -/
inductive IsExempt (c : ClassifiedRelation) : Prop
  | merged (hc : c.relationClass = .oneToOne) (h1 : c.side1.cardinality.minimum = .one)
      (h2 : c.side2.cardinality.minimum = .one)
  | tied (hc : c.relationClass = .oneToMany) {one many : ClassifiedSide} (hf : c.Faces many one)
      (hmany : many.cardinality.maximum = .many) (hr : c.isReflexive = false)
      (hid : c.isIdentifying = true) (hw : many.entity.isWeak = true)

/-- **How foreign keys encode the cardinalities of a relation.** Outside of many-to-many relations
the holder is the many side or, where there is none, a side that need not take part. -/
inductive Encodes (c : ClassifiedRelation) : List (String × Column) → Prop
  | exempt (he : c.IsExempt) : c.Encodes []
  | link (he : ¬ c.IsExempt) (hc : c.relationClass ≠ .manyToMany) {holder target : ClassifiedSide}
      (hf : c.Faces holder target)
      (hmany : c.relationClass = .oneToMany → holder.cardinality.maximum = .many)
      (hoptional : c.relationClass = .oneToOne → holder.cardinality.minimum = .zero) :
      c.Encodes (c.linkKeys holder target)
  | junction (hc : c.relationClass = .manyToMany) :
      c.Encodes (c.positionKeys c.side1 1 ++ c.positionKeys c.side2 2)

variable {c : ClassifiedRelation} {ts : List Table}

/-! ## Tables that refer -/

theorem placedKeys_holderTable (c : ClassifiedRelation) :
    placedKeys [c.holderTable] = c.linkKeys c.holder c.target := by
  have hkeys : c.holderTable.foreignKeys = c.references := by
    unfold holderTable
    rw [foreignKeys_append]
    exact (congrArg (· ++ _) (Entity.foreignKeys_table c.holder.entity)).trans
      (foreignKeys_map_of_some _ (fun _ => rfl) _)
  rw [placedKeys_cons, placedKeys_nil, List.append_nil, hkeys]
  unfold references linkKeys
  rw [List.map_map, Cardinality.not_isMany]
  rfl

theorem placedKeys_junctionTable (c : ClassifiedRelation) :
    placedKeys [c.junctionTable] = c.positionKeys c.side1 1 ++ c.positionKeys c.side2 2 := by
  have hkeys : c.junctionTable.foreignKeys =
      c.junctionColumns c.side1 1 ++ c.junctionColumns c.side2 2 := by
    unfold junctionTable junctionColumns
    rw [foreignKeys_append, foreignKeys_append, foreignKeys_map_of_some _ (fun _ => rfl),
      foreignKeys_map_of_some _ (fun _ => rfl), foreignKeys_map_of_none _ (fun _ => rfl),
      List.append_nil]
  rw [placedKeys_cons, placedKeys_nil, List.append_nil, hkeys, List.map_append]
  unfold junctionColumns positionKeys
  rw [List.map_map, List.map_map]
  rfl

theorem placedKeys_mergedTable (c : ClassifiedRelation) : placedKeys [c.mergedTable] = [] := by
  have hkeys : c.mergedTable.foreignKeys = [] := by
    unfold mergedTable
    rw [foreignKeys_append, foreignKeys_map_of_none _ (fun _ => rfl),
      foreignKeys_map_of_none _ (fun _ => rfl), List.append_nil]
  rw [placedKeys_cons, placedKeys_nil, List.append_nil, hkeys, List.map_nil]

/-- The tables of entities that come first add nothing. -/
theorem placedKeys_entity_cons (e : Entity) (ts : List Table) :
    placedKeys (e.table :: ts) = placedKeys ts := by
  rw [placedKeys_cons, e.foreignKeys_table, List.map_nil, List.nil_append]

theorem placedKeys_linkDrafts (c : ClassifiedRelation) :
    placedKeys c.linkDrafts =
      if c.isReflexive = false ∧ c.tiesWeak = true then [] else c.linkKeys c.holder c.target := by
  unfold linkDrafts
  cases c.isReflexive with
  | true => simp [placedKeys_holderTable]
  | false =>
    cases c.tiesWeak with
    | true => simp [placedKeys_entity_cons, placedKeys_nil]
    | false => simp [placedKeys_entity_cons, placedKeys_holderTable]

theorem placedKeys_junctionDrafts (c : ClassifiedRelation) :
    placedKeys c.junctionDrafts = c.positionKeys c.side1 1 ++ c.positionKeys c.side2 2 := by
  unfold junctionDrafts
  split <;> simp only [placedKeys_entity_cons, placedKeys_junctionTable]

/-! ## The law for each rule -/

theorem isExempt_iff_of_oneToMany (hc : c.relationClass = .oneToMany) :
    c.IsExempt ↔ c.isReflexive = false ∧ c.tiesWeak = true := by
  have hties : c.tiesWeak = true ↔ c.isIdentifying = true ∧ c.holder.entity.isWeak = true := by
    simp [tiesWeak, hc]
  rw [hties]
  constructor
  · intro he
    cases he with
    | merged h => exact absurd (hc.symm.trans h) (by simp)
    | tied _ hf hmany hr hid hw =>
      obtain rfl : _ = c.holder := (holder_or_target hf).resolve_right fun ht => by
        have hone := target_not_many (c := c) (by rw [hc]; simp)
        rw [← ht, Cardinality.isMany_iff.mpr hmany] at hone
        exact absurd hone (by simp)
      exact ⟨hr, hid, hw⟩
  · rintro ⟨hr, hid, hw⟩
    exact .tied hc c.link_faces (Cardinality.isMany_iff.mp (holder_many hc)) hr hid hw

theorem encodes_of_oneToManyTables (hc : c.relationClass = .oneToMany)
    (h : c.oneToManyTables = .ok ts) : c.Encodes (placedKeys ts) := by
  obtain ⟨-, rfl⟩ := (oneToManyTables_eq_ok hc).mp h
  rw [placedKeys_linkDrafts]
  by_cases he : c.IsExempt
  · rw [if_pos ((isExempt_iff_of_oneToMany hc).mp he)]
    exact .exempt he
  · rw [if_neg (mt (isExempt_iff_of_oneToMany hc).mpr he)]
    exact .link he (by rw [hc]; simp) c.link_faces
      (fun _ => Cardinality.isMany_iff.mp (holder_many hc))
      fun h => absurd (hc.symm.trans h) (by simp)

theorem isExempt_iff_of_oneToOne (hc : c.relationClass = .oneToOne) :
    c.IsExempt ↔
      c.side1.cardinality.isMandatory = true ∧ c.side2.cardinality.isMandatory = true := by
  rw [Cardinality.isMandatory_iff, Cardinality.isMandatory_iff]
  constructor
  · intro he
    cases he with
    | merged _ h1 h2 => exact ⟨h1, h2⟩
    | tied h => exact absurd (hc.symm.trans h) (by simp)
  · rintro ⟨h1, h2⟩
    exact .merged hc h1 h2

theorem holder_optional (hc : c.relationClass = .oneToOne)
    (hopt : ¬ (c.side1.cardinality.isMandatory = true ∧ c.side2.cardinality.isMandatory = true)) :
    c.holder.cardinality.minimum = .zero := by
  have hholder : c.holder = c.holderAndTarget.1 := by rw [holderAndTarget_eq hc]
  rw [hholder, ← Cardinality.isMandatory_eq_false]
  unfold holderAndTarget
  split
  · rename_i h1
    exact Bool.eq_false_iff.mpr fun h2 => hopt ⟨h1, h2⟩
  · rename_i h1
    exact Bool.eq_false_iff.mpr h1

theorem encodes_of_oneToOneTables (hc : c.relationClass = .oneToOne)
    (h : c.oneToOneTables = .ok ts) : c.Encodes (placedKeys ts) := by
  by_cases he : c.IsExempt
  · obtain ⟨h1, h2⟩ := (isExempt_iff_of_oneToOne hc).mp he
    rw [oneToOneTables_of_mandatory h1 h2] at h
    cases h
    rw [placedKeys_mergedTable]
    exact .exempt he
  · have hopt := mt (isExempt_iff_of_oneToOne hc).mpr he
    obtain ⟨-, rfl⟩ := (oneToOneTables_eq_ok hc hopt).mp h
    rw [placedKeys_linkDrafts, if_neg (by simp [tiesWeak, hc])]
    exact .link he (by rw [hc]; simp) c.link_faces
      (fun h => absurd (hc.symm.trans h) (by simp)) fun _ => holder_optional hc hopt

theorem encodes_of_manyToManyTables (hc : c.relationClass = .manyToMany)
    (h : c.manyToManyTables = .ok ts) : c.Encodes (placedKeys ts) := by
  obtain ⟨-, rfl⟩ := manyToManyTables_eq_ok.mp h
  rw [placedKeys_junctionDrafts]
  exact .junction hc

theorem encodes_of_tables {index : Index} (h : (Classified.relation c).tables index = .ok ts) :
    c.Encodes (placedKeys ts) := by
  simp only [Classified.tables] at h
  split at h
  case h_1 hc => exact encodes_of_oneToOneTables hc h
  case h_2 hc => exact encodes_of_oneToManyTables hc h
  case h_3 hc => exact encodes_of_manyToManyTables hc h

end ClassifiedRelation

namespace Diagram

variable {d : Diagram}

theorem exists_resolves_of_mem_classify {records : List Classified}
    (hrecords : d.classify = .ok records) {c : ClassifiedRelation} (hc : .relation c ∈ records) :
    ∃ r, d.Resolves r c := by
  obtain ⟨cs, hcs, hrest⟩ := bind_eq_ok.mp hrecords
  obtain rfl := Except.ok.inj hrest
  have hmem : c ∈ cs := by simpa using hc
  obtain ⟨r, -, hr⟩ := exists_of_forall₂_right (mapM_resolve_eq_ok.mp hcs) hmem
  exact ⟨r, hr⟩

/-- **The foreign keys of a relation encode its cardinalities**, in every diagram and for every
relation that can be mapped. -/
theorem encodes_cardinalities {records : List Classified} (hrecords : d.classify = .ok records)
    {c : ClassifiedRelation} (hc : .relation c ∈ records) {ts : List Table}
    (hts : (Classified.relation c).tables (Index.ofDiagram d) = .ok ts) :
    (∃ r, d.Resolves r c) ∧ c.Encodes (placedKeys ts) :=
  ⟨exists_resolves_of_mem_classify hrecords hc, ClassifiedRelation.encodes_of_tables hts⟩

/-- Items that are kept in bins. The key of a bin has two attributes, so the diagram is not valid.
-/
def storeroom : Diagram where
  entities := [
    ⟨"b", "Bin", false, [.ofKey "row", .ofKey "shelf"]⟩,
    ⟨"i", "Item", false, [.ofKey "id"]⟩]
  relations := [⟨"r", "keeps", ⟨"b", "1:1"⟩, ⟨"i", "0:N"⟩, false, false, []⟩]

/-- What the relation of the storeroom resolves to. -/
def keeps : ClassifiedRelation where
  name := "keeps"
  side1 := ⟨⟨"b", "Bin", false, [.ofKey "row", .ofKey "shelf"]⟩, ⟨.one, .one⟩⟩
  side2 := ⟨⟨"i", "Item", false, [.ofKey "id"]⟩, ⟨.zero, .many⟩⟩
  isIdentifying := false
  attributes := []

theorem storeroom_encodes :
    storeroom.classify = .ok [.relation keeps] ∧ .relation keeps ∈ [Classified.relation keeps] ∧
      (Classified.relation keeps).tables (Index.ofDiagram storeroom) = .ok keeps.linkDrafts ∧
      (∃ r, storeroom.Resolves r keeps) ∧ keeps.Encodes (placedKeys keeps.linkDrafts) := by
  have hrecords : storeroom.classify = .ok [.relation keeps] := by rfl
  have hmem : Classified.relation keeps ∈ [Classified.relation keeps] := List.mem_singleton_self _
  have htables : (Classified.relation keeps).tables (Index.ofDiagram storeroom) =
      .ok keeps.linkDrafts := by rfl
  exact ⟨hrecords, hmem, htables, encodes_cardinalities hrecords hmem htables⟩

example : placedKeys keeps.linkDrafts =
    [("Item", { name := "row_keeps", notNull := true, foreignKey := some "Bin" }),
      ("Item", { name := "shelf_keeps", notNull := true, foreignKey := some "Bin" })] := by
  rfl

end Diagram

end ErSchema
