import ErSchema.Proofs.Schema.Classifying
import ErSchema.Proofs.Schema.Counting

/-!
# Which tables there are

The merged tables of a well-formed diagram are named for its entities and for its many-to-many
relations. An entity goes without a table only if it is strong, a relation touches its id, and a
later entity has the same id: the relation then drafts the table of the later one, and the earlier
one is taken to be covered. Ids do not have to be distinct, so this can happen; where they are,
every entity has its table.

* `mem_tableNames_merged`, `tableNames_merged_perm`: the names of the merged tables.
* `WellFormed.keeps_of_name`: a table named for an entity has a column for each of its attributes.
* `entities_kept`: which entities of a valid diagram have their tables.
* `relationAttributes_kept`: which relations of a valid diagram keep their attributes.
-/

namespace ErSchema

/-- A table of an entity: it has the name of the entity and a column for each attribute. -/
def Table.Keeps (t : Table) (e : Entity) : Prop :=
  t.name = e.name ∧ ∀ a ∈ e.attributes, ∃ x ∈ t.columns, x.name = a.name

/-- A table of a relation: it has the name of the relation and, for each attribute, a column that is
not part of the key. -/
def Table.KeepsRelation (t : Table) (r : Relation) : Prop :=
  t.name = r.name ∧ ∀ a ∈ r.attributes, ∃ x ∈ t.columns, x.name = a.name ∧ x.key = false

namespace Diagram

/-- Whether an entity has a table: it is weak, or no relation touches its id, or it is the one that
its id finds. -/
def hasTable (d : Diagram) (e : Entity) : Bool :=
  e.isWeak || !d.relations.any (·.touches e.id) || (Index.ofDiagram d).entity? e.id = some e

/-- The names for which there are tables. -/
def tabledNames (d : Diagram) : List String :=
  (d.entities.filter d.hasTable).map (·.name) ++ (d.relationsOfClass .manyToMany).map (·.name)

variable {d : Diagram}

theorem hasTable_eq_true {e : Entity} :
    d.hasTable e = true ↔ e.isWeak = true ∨ (∀ r ∈ d.relations, r.touches e.id = false) ∨
      (Index.ofDiagram d).entity? e.id = some e := by
  simp [hasTable, or_assoc]

/-- Where ids are not shared every entity has a table. -/
theorem hasTable_of_nodup (hids : (d.entities.map (·.id)).Nodup) {e : Entity}
    (he : e ∈ d.entities) : d.hasTable e = true :=
  hasTable_eq_true.mpr (Or.inr (Or.inr (Index.entity?_of_nodup hids he)))

theorem mem_tabledNames {n : String} :
    n ∈ d.tabledNames ↔ (∃ e ∈ d.entities, d.hasTable e = true ∧ e.name = n) ∨
      ∃ r ∈ d.relationsOfClass .manyToMany, r.name = n := by
  simp [tabledNames, and_assoc]

theorem tabledNames_sublist (d : Diagram) : d.tabledNames.Sublist d.names :=
  (List.filter_sublist.map _).append (List.filter_sublist.map _)

theorem mem_relationsOfClass {k : RelationClass} {r : Relation} :
    r ∈ d.relationsOfClass k ↔ ∃ c, d.Resolves r c ∧ c.relationClass = k := by
  unfold relationsOfClass class?
  rw [List.mem_filter, decide_eq_true_eq]
  constructor
  · rintro ⟨hr, hk⟩
    cases hc : resolveRelation (Index.ofDiagram d) r with
    | error e => rw [hc] at hk; exact absurd hk (by simp [Except.toOption])
    | ok c => rw [hc] at hk; exact ⟨c, ⟨hr, hc⟩, Option.some.inj hk⟩
  · rintro ⟨c, hr, hk⟩
    rw [hr.resolved, ← hk]
    exact ⟨hr.mem, rfl⟩

/-- The entity that an id finds is on a side of every relation that touches the id. -/
theorem Resolves.involves_of_found {r : Relation} {c : ClassifiedRelation} (hr : d.Resolves r c)
    {e : Entity} (htouch : r.touches e.id = true)
    (hfound : (Index.ofDiagram d).entity? e.id = some e) : c.involves e = true := by
  simp only [Relation.touches, Bool.or_eq_true, decide_eq_true_eq] at htouch
  simp only [ClassifiedRelation.involves, Bool.or_eq_true, decide_eq_true_eq]
  rcases htouch with ht | ht
  · have h1 := hr.side1.1
    rw [ht, hfound] at h1
    exact Or.inl (Option.some.inj h1).symm
  · have h2 := hr.side2.1
    rw [ht, hfound] at h2
    exact Or.inr (Option.some.inj h2).symm

theorem Resolves.found_of_involves {r : Relation} {c : ClassifiedRelation} (hr : d.Resolves r c)
    {e : Entity} (he : c.involves e = true) : (Index.ofDiagram d).entity? e.id = some e := by
  simp only [ClassifiedRelation.involves, Bool.or_eq_true, decide_eq_true_eq] at he
  rcases he with rfl | rfl
  · exact (hr.face (Or.inl ⟨rfl, rfl⟩)).2.1
  · exact (hr.face (Or.inr ⟨rfl, rfl⟩)).2.1

namespace WellFormed

/-! ## Names of tables -/

theorem mem_remaining (h : d.WellFormed) {e : Entity} :
    e ∈ remainingEntities d.resolved d.entities ↔
      e ∈ d.entities ∧ (e.isWeak = true ∨ ∀ r ∈ d.relations, r.touches e.id = false) := by
  rw [remainingEntities_eq h.forall₂_resolved]
  simp [mem_sideIds]

/-- **An entity has a table iff it stands next to the relations or is on a side of one.** -/
theorem hasTable_iff (h : d.WellFormed) {e : Entity} (he : e ∈ d.entities) :
    d.hasTable e = true ↔ e ∈ remainingEntities d.resolved d.entities ∨
      ∃ c ∈ d.resolved, c.involves e = true := by
  rw [hasTable_eq_true, h.mem_remaining]
  constructor
  · rintro (hw | hnone | hfound)
    · exact Or.inl ⟨he, Or.inl hw⟩
    · exact Or.inl ⟨he, Or.inr hnone⟩
    · by_cases hany : ∃ r ∈ d.relations, r.touches e.id = true
      · obtain ⟨r, hr, htouch⟩ := hany
        obtain ⟨c, hc⟩ := h.resolves r hr
        exact Or.inr ⟨c, h.mem_resolved.mpr ⟨r, hc⟩, hc.involves_of_found htouch hfound⟩
      · exact Or.inl ⟨he, Or.inr fun r hr => Bool.eq_false_iff.mpr fun ht => hany ⟨r, hr, ht⟩⟩
  · rintro (⟨-, hw | hnone⟩ | ⟨c, hc, hi⟩)
    · exact Or.inl hw
    · exact Or.inr (Or.inl hnone)
    · obtain ⟨r, hr⟩ := h.mem_resolved.mp hc
      exact Or.inr (Or.inr (hr.found_of_involves hi))

/-- **A relation drafts tables for the strong entities on its sides**, and one for itself if it is
many-to-many. -/
theorem mem_tableNames_relation (h : d.WellFormed) {r : Relation} {c : ClassifiedRelation}
    (hr : d.Resolves r c) {n : String} :
    n ∈ tableNames c.drafts ↔
      (∃ e ∈ d.strongEntities, c.involves e = true ∧ e.name = n) ∨
        (c.relationClass = .manyToMany ∧ c.name = n) := by
  constructor
  · intro hn
    obtain ⟨t, ht, rfl⟩ := List.mem_map.mp hn
    rcases h.mem_drafts_cases hr ht with ⟨e, he, rfl⟩ | ⟨hc, rfl⟩ | ⟨-, he, rfl⟩
    · exact Or.inl ⟨e, he, ((h.mem_drafts_iff hr he).mp ⟨ht, rfl⟩).1, rfl⟩
    · exact Or.inr ⟨hc, rfl⟩
    · exact Or.inl ⟨_, he, ClassifiedRelation.involves_iff.mpr (Or.inl rfl), rfl⟩
  · rintro (⟨e, he, hi, rfl⟩ | ⟨hc, rfl⟩)
    · obtain ⟨ht, hn⟩ := (h.mem_drafts_iff hr he).mpr ⟨hi, rfl⟩
      exact List.mem_map.mpr ⟨_, ht, hn⟩
    · rcases h.drafts_cases hr with ⟨-, es, heq, -⟩ | ⟨hne, -⟩ | ⟨hne, -⟩
      · rw [heq]
        exact List.mem_map.mpr ⟨c.junctionTable, by simp, rfl⟩
      · exact absurd hc hne
      · exact absurd hc hne

/-- **The names of the drafts** of a well-formed diagram. -/
theorem mem_tableNames_drafts (h : d.WellFormed) {drafts : List Table} (hd : d.drafts = .ok drafts)
    {n : String} : n ∈ tableNames drafts ↔ n ∈ d.tabledNames := by
  have hsplit : n ∈ tableNames drafts ↔ (∃ c ∈ d.resolved, n ∈ tableNames c.drafts) ∨
      ∃ e ∈ remainingEntities d.resolved d.entities, e.name = n := by
    rw [h.drafts_eq] at hd
    cases hd
    unfold tableNames
    rw [List.map_append, List.mem_append, List.map_flatMap, List.map_flatMap, List.mem_flatMap,
      List.mem_flatMap]
    refine or_congr_right (exists_congr fun e => and_congr_right fun he => ?_)
    obtain ⟨t, ht, hn, -⟩ := h.exists_ownDrafts (h.mem_remaining.mp he).1
    rw [ht, List.map_singleton, List.mem_singleton, hn, eq_comm]
  rw [hsplit, mem_tabledNames]
  constructor
  · rintro (⟨c, hc, hn⟩ | ⟨e, he, rfl⟩)
    · obtain ⟨r, hr⟩ := h.mem_resolved.mp hc
      rcases (h.mem_tableNames_relation hr).mp hn with ⟨e, he, hi, rfl⟩ | ⟨hclass, rfl⟩
      · have hmem := (mem_strongEntities.mp he).1
        exact Or.inl ⟨e, hmem, (h.hasTable_iff hmem).mpr (Or.inr ⟨c, hc, hi⟩), rfl⟩
      · exact Or.inr ⟨r, mem_relationsOfClass.mpr ⟨c, hr, hclass⟩, hr.name.symm⟩
    · have hmem := (h.mem_remaining.mp he).1
      exact Or.inl ⟨e, hmem, (h.hasTable_iff hmem).mpr (Or.inl he), rfl⟩
  · rintro (⟨e, he, ht, rfl⟩ | ⟨r, hr, rfl⟩)
    · rcases (h.hasTable_iff he).mp ht with hrem | ⟨c, hc, hi⟩
      · exact Or.inr ⟨e, hrem, rfl⟩
      · by_cases hw : e.isWeak = true
        · exact Or.inr ⟨e, h.mem_remaining.mpr ⟨he, Or.inl hw⟩, rfl⟩
        · obtain ⟨r, hr⟩ := h.mem_resolved.mp hc
          have hs : e ∈ d.strongEntities := mem_strongEntities.mpr ⟨he, by simpa using hw⟩
          exact Or.inl ⟨c, hc, (h.mem_tableNames_relation hr).mpr (Or.inl ⟨e, hs, hi, rfl⟩)⟩
    · obtain ⟨c, hc, hclass⟩ := mem_relationsOfClass.mp hr
      exact Or.inl ⟨c, h.mem_resolved.mpr ⟨r, hc⟩,
        (h.mem_tableNames_relation hc).mpr (Or.inr ⟨hclass, hc.name⟩)⟩

/-- **The names of the merged tables** are those of the entities that have one and of the
many-to-many relations. -/
theorem mem_tableNames_merged (h : d.WellFormed) {drafts : List Table} (hd : d.drafts = .ok drafts)
    {n : String} : n ∈ tableNames (mergeDrafts drafts) ↔ n ∈ d.tabledNames :=
  (mem_names_mergeDrafts drafts n).trans (h.mem_tableNames_drafts hd)

theorem tabledNames_nodup (h : d.WellFormed) : d.tabledNames.Nodup :=
  h.names_nodup.sublist d.tabledNames_sublist

theorem tableNames_merged_perm (h : d.WellFormed) {drafts : List Table}
    (hd : d.drafts = .ok drafts) : (tableNames (mergeDrafts drafts)).Perm d.tabledNames :=
  (List.perm_ext_iff_of_nodup (names_mergeDrafts_nodup drafts) h.tabledNames_nodup).mpr
    fun _ => h.mem_tableNames_merged hd

/-! ## What the tables keep -/

/-- **A merged table named for an entity** has a column for each of its attributes. -/
theorem keeps_of_name (h : d.WellFormed) {drafts : List Table} (hd : d.drafts = .ok drafts)
    {t : Table} (ht : t ∈ mergeDrafts drafts) {e : Entity} (he : e ∈ d.entities)
    (hn : t.name = e.name) : t.Keeps e := by
  refine ⟨hn, fun a ha => ?_⟩
  have hform := h.form_of_mem_merged hd t ht
  cases hw : e.isWeak with
  | false =>
    obtain ⟨refs, rfl, -⟩ := hform.strong_of_name h (mem_strongEntities.mpr ⟨he, hw⟩) hn
    exact ⟨.ofAttribute a, List.mem_append_left _ (List.mem_map.mpr ⟨a, ha, rfl⟩), rfl⟩
  | true =>
    obtain ⟨owner, r, ho⟩ := h.exists_owner (mem_weakEntities.mpr ⟨he, hw⟩)
    rw [hform.weak_of_name h ho hn]
    unfold Entity.weakTable Entity.discriminantColumns
    by_cases hdisc : a.discriminant = true
    · refine ⟨_, List.mem_append_left _ (List.mem_append_right _ (List.mem_map.mpr
        ⟨a, List.mem_filter.mpr ⟨ha, hdisc⟩, rfl⟩)), rfl⟩
    · refine ⟨_, List.mem_append_right _ (List.mem_map.mpr
        ⟨a, List.mem_filter.mpr ⟨ha, by simpa using hdisc⟩, rfl⟩), rfl⟩

/-- **A merged table named for a relation** has a column for each of its attributes. -/
theorem keepsRelation_of_name (h : d.WellFormed) {drafts : List Table}
    (hd : d.drafts = .ok drafts) {t : Table} (ht : t ∈ mergeDrafts drafts) {r : Relation}
    (hr : r ∈ d.relations) (hn : t.name = r.name) : t.KeepsRelation r := by
  obtain ⟨c, hc⟩ := h.resolves r hr
  refine ⟨hn, fun a ha => ?_⟩
  rw [(h.form_of_mem_merged hd t ht).junction_of_name h hc (hn.trans hc.name.symm)]
  rw [← hc.attributes] at ha
  exact ⟨{ name := a.name }, List.mem_append_right _ (List.mem_map.mpr ⟨a, ha, rfl⟩), rfl, rfl⟩

end WellFormed

/-- **The entities of a valid diagram that have a table** are kept with all their attributes. The
others are in no table; there are none where no two entities share an id. -/
theorem entities_kept (hv : d.validate.isValid = true) :
    ∃ ts, d.mergedTables = .ok ts ∧
      (∀ e ∈ d.entities, d.hasTable e = true → ∃ t ∈ ts, t.Keeps e) ∧
      (∀ e ∈ d.entities, d.hasTable e = false → ∀ t ∈ ts, t.name ≠ e.name) ∧
      ((d.entities.map (·.id)).Nodup → ∀ e ∈ d.entities, ∃ t ∈ ts, t.Keeps e) := by
  have h := wellFormed_of_isValid hv
  obtain ⟨drafts, hd, hts⟩ := h.mergedTables_eq
  have hkept : ∀ e ∈ d.entities, d.hasTable e = true → ∃ t ∈ mergeDrafts drafts, t.Keeps e := by
    intro e he ht
    have hname := (h.mem_tableNames_merged hd).mpr (mem_tabledNames.mpr (Or.inl ⟨e, he, ht, rfl⟩))
    obtain ⟨t, htm, hn⟩ := List.mem_map.mp hname
    exact ⟨t, htm, h.keeps_of_name hd htm he hn⟩
  refine ⟨_, hts, hkept, fun e he hnone t ht hn => ?_, fun hids e he =>
    hkept e he (hasTable_of_nodup hids he)⟩
  have hname := (h.mem_tableNames_merged hd).mp (List.mem_map.mpr ⟨t, ht, hn⟩)
  rcases mem_tabledNames.mp hname with ⟨e', he', ht', hn'⟩ | ⟨r, hr, hn'⟩
  · rw [h.entity_eq_of_name he' he hn', hnone] at ht'
    exact absurd ht' (by simp)
  · exact h.entity_name_ne he (List.mem_filter.mp hr).1 hn'.symm

theorem shop_entities :
    ∃ ts, shop.mergedTables = .ok ts ∧
      (∀ e ∈ shop.entities, shop.hasTable e = true → ∃ t ∈ ts, t.Keeps e) ∧
      (∀ e ∈ shop.entities, shop.hasTable e = false → ∀ t ∈ ts, t.name ≠ e.name) ∧
      ((shop.entities.map (·.id)).Nodup → ∀ e ∈ shop.entities, ∃ t ∈ ts, t.Keeps e) :=
  entities_kept (by decide +kernel)

/-- Two entities of one id, which a relation touches. -/
def twins : Diagram where
  entities := [⟨"a", "A", false, [.ofKey "id"]⟩, ⟨"a", "B", false, [.ofKey "id"]⟩]
  relations := [⟨"r", "R", ⟨"a", "0:1"⟩, ⟨"a", "0:N"⟩, false, false, []⟩]

/-- **An entity can be lost**, on a valid diagram. -/
theorem twins_lose :
    twins.validate.isValid = true ∧ ∃ ts, twins.mergedTables = .ok ts ∧
      ∃ e ∈ twins.entities, ∀ t ∈ ts, t.name ≠ e.name := by
  have hnames : twins.mergedTables.toOption.map tableNames = some ["B"] := by decide +kernel
  obtain ⟨ts, hts, heq⟩ := exists_of_map_toOption hnames
  refine ⟨by decide +kernel, ts, hts, _, List.mem_cons_self, fun t ht hn => ?_⟩
  have hmem : t.name ∈ tableNames ts := List.mem_map.mpr ⟨t, ht, rfl⟩
  rw [heq, hn] at hmem
  exact absurd hmem (by decide)

/-- **The relations of a valid diagram that keep their attributes** are the many-to-many ones. Only
a relation that is drawn to hold attributes has any. -/
theorem relationAttributes_kept (hv : d.validate.isValid = true) :
    ∃ ts, d.mergedTables = .ok ts ∧ ∀ r ∈ d.relations,
      (r.attributes ≠ [] → r.canHoldAttributes = true) ∧
        ((∃ t ∈ ts, t.KeepsRelation r) ↔ d.class? r = some .manyToMany) := by
  have h := wellFormed_of_isValid hv
  obtain ⟨drafts, hd, hts⟩ := h.mergedTables_eq
  refine ⟨_, hts, fun r hr => ⟨fun hne => ?_, fun ⟨t, ht, hkeeps⟩ => ?_, fun hclass => ?_⟩⟩
  · have hflag := validate_isValid.mp hv .noAttributesElsewhere
    simp only [Check.holds, List.all_eq_true, Bool.or_eq_true, List.isEmpty_iff] at hflag
    exact (hflag r hr).resolve_right hne
  · have hname := (h.mem_tableNames_merged hd).mp (List.mem_map.mpr ⟨t, ht, hkeeps.1⟩)
    rcases mem_tabledNames.mp hname with ⟨e, he, -, hn⟩ | ⟨r', hr', hn⟩
    · exact absurd hn (h.entity_name_ne he hr)
    · obtain ⟨hmem, hclass⟩ := List.mem_filter.mp hr'
      rw [h.relation_eq_of_name hmem hr hn] at hclass
      exact of_decide_eq_true hclass
  · have hmany : r ∈ d.relationsOfClass .manyToMany :=
      List.mem_filter.mpr ⟨hr, decide_eq_true hclass⟩
    have hname := (h.mem_tableNames_merged hd).mpr
      (mem_tabledNames.mpr (Or.inr ⟨r, hmany, rfl⟩))
    obtain ⟨t, ht, hn⟩ := List.mem_map.mp hname
    exact ⟨t, ht, h.keepsRelation_of_name hd ht hr hn⟩

theorem shop_relationAttributes :
    ∃ ts, shop.mergedTables = .ok ts ∧ ∀ r ∈ shop.relations,
      (r.attributes ≠ [] → r.canHoldAttributes = true) ∧
        ((∃ t ∈ ts, t.KeepsRelation r) ↔ shop.class? r = some .manyToMany) :=
  relationAttributes_kept (by decide +kernel)

/-- A one-to-many relation that is drawn to hold an attribute. -/
def remark : Diagram where
  entities := [⟨"a", "A", false, [.ofKey "id"]⟩, ⟨"b", "B", false, [.ofKey "id"]⟩]
  relations := [⟨"r", "R", ⟨"a", "0:1"⟩, ⟨"b", "0:N"⟩, false, true, [.ofName "nota"]⟩]

/-- **An attribute of a relation can be lost**, on a valid diagram: no table has its column. -/
theorem remark_loses :
    remark.validate.isValid = true ∧ ∃ ts, remark.mergedTables = .ok ts ∧
      ∃ r ∈ remark.relations, ∃ a ∈ r.attributes, ∀ t ∈ ts, ∀ x ∈ t.columns, x.name ≠ a.name := by
  have hnames : remark.mergedTables.toOption.map
      (fun ts => ts.flatMap fun t => t.columns.map (·.name)) = some ["id", "id", "id_R"] := by
    decide +kernel
  obtain ⟨ts, hts, heq⟩ := exists_of_map_toOption hnames
  refine ⟨by decide +kernel, ts, hts, _, List.mem_cons_self, _, List.mem_cons_self,
    fun t ht x hx hn => ?_⟩
  have hmem : x.name ∈ ts.flatMap fun t => t.columns.map (·.name) :=
    List.mem_flatMap.mpr ⟨t, ht, List.mem_map.mpr ⟨x, hx, rfl⟩⟩
  rw [heq, hn] at hmem
  exact absurd hmem (by decide)

end Diagram

end ErSchema
