import ErSchema.Proofs.Table.Merging

/-!
# The tables of a merger in closed form

What a merger holds can be told from its drafts without going through its states. Each drafted name
has one table, in the order in which the names came first. Its columns are those of the first draft
of that name, as they are, and behind them what the later drafts of that name add. So only the order
of drafts of one name matters, and a draft that has been merged is absorbed for good.

* `mergeDrafts_eq_map`: the closed form.
* `TableMerger.ofCalls_unites`: what a merger holds after any calls.
* `TableMerger.schedule_and_replay`: drafts of different names commute, and old drafts change
  nothing.
-/

namespace ErSchema

/-! ## The closed form -/

/-- The drafts of a name, in order. -/
def draftsOf (name : String) (drafts : List Table) : List Table := drafts.filter (·.name = name)

/-- What later drafts add behind columns: from each of them, in order, the columns whose names are
not there before it. -/
def additions (cs : List Column) : List Table → List Column
  | [] => []
  | draft :: later =>
    let new := draft.columns.filter fun c => c.name ∉ cs.map (·.name)
    new ++ additions (cs ++ new) later

/-- The columns that drafts of one table come to. -/
def unitedColumns : List Table → List Column
  | [] => []
  | first :: later => first.columns ++ additions first.columns later

theorem absorb_eq (t : Table) (draft : List Column) :
    t.absorb draft =
      ⟨t.name, t.columns ++ draft.filter fun c => c.name ∉ t.columns.map (·.name)⟩ := by
  unfold Table.absorb
  congr 2
  refine List.filter_congr fun c _ => ?_
  rw [Bool.eq_iff_iff]
  simp

/-- Drafts of the name of a table are merged into it, one after the other. -/
theorem foldl_mergeDraft_of_name {t : Table} {later : List Table}
    (h : ∀ draft ∈ later, draft.name = t.name) :
    later.foldl mergeDraft [t] = [⟨t.name, t.columns ++ additions t.columns later⟩] := by
  induction later generalizing t with
  | nil => simp [additions]
  | cons draft later ih =>
    have hstep : mergeDraft [t] draft = [t.absorb draft.columns] := by
      unfold mergeDraft
      rw [if_pos (h draft List.mem_cons_self).symm]
    have hrest := ih (t := t.absorb draft.columns) fun d hd => h d (List.mem_cons_of_mem _ hd)
    rw [List.foldl_cons, hstep, hrest, absorb_eq]
    simp only [additions, List.append_assoc]

/-- **A merged table has the columns of the drafts of its name**, of which there is one at least. -/
theorem columns_mergeDrafts {drafts : List Table} {t : Table} (ht : t ∈ mergeDrafts drafts) :
    ∃ first later, draftsOf t.name drafts = first :: later ∧
      t.columns = first.columns ++ additions first.columns later := by
  have hmem : t ∈ mergeDrafts (draftsOf t.name drafts) := by
    unfold draftsOf
    rw [← filter_mergeDrafts (fun n => decide (n = t.name)), List.mem_filter]
    exact ⟨ht, by simp⟩
  cases hdrafts : draftsOf t.name drafts with
  | nil =>
    rw [hdrafts] at hmem
    exact absurd hmem List.not_mem_nil
  | cons first later =>
    have hname : ∀ draft ∈ first :: later, draft.name = t.name := by
      intro draft hd
      rw [← hdrafts] at hd
      simpa using (List.mem_filter.mp hd).2
    have hmerged : mergeDrafts (first :: later) =
        [⟨first.name, first.columns ++ additions first.columns later⟩] := by
      have hfirst := hname first List.mem_cons_self
      exact foldl_mergeDraft_of_name fun d hd =>
        (hname d (List.mem_cons_of_mem _ hd)).trans hfirst.symm
    rw [hdrafts, hmerged] at hmem
    exact ⟨first, later, rfl, congrArg Table.columns (List.mem_singleton.mp hmem)⟩

/-- **Names stand in the order in which they came first.** -/
theorem tableNames_mergeDrafts (drafts : List Table) :
    tableNames (mergeDrafts drafts) = (tableNames drafts).eraseDups := by
  refine mergeDrafts_induction (P := fun ds ts => tableNames ts = (tableNames ds).eraseDups)
    rfl ?_ drafts
  intro before draft ih
  have happ : tableNames (before ++ [draft]) = tableNames before ++ [draft.name] := by
    simp [tableNames]
  rw [tableNames_mergeDraft (names_mergeDrafts_nodup before), happ, List.eraseDups_append, ih]
  by_cases h : draft.name ∈ tableNames before <;> simp [h, List.removeAll, List.eraseDups_cons]

/-- **The closed form of merged tables.** -/
theorem mergeDrafts_eq_map (drafts : List Table) :
    mergeDrafts drafts =
      (tableNames drafts).eraseDups.map fun n => ⟨n, unitedColumns (draftsOf n drafts)⟩ := by
  rw [← tableNames_mergeDrafts, tableNames, List.map_map]
  have heach : ∀ t ∈ mergeDrafts drafts,
      t = ⟨t.name, unitedColumns (draftsOf t.name drafts)⟩ := by
    intro t ht
    obtain ⟨first, later, hdrafts, hcolumns⟩ := columns_mergeDrafts ht
    rw [hdrafts, unitedColumns, ← hcolumns]
  calc mergeDrafts drafts = (mergeDrafts drafts).map id := (List.map_id _).symm
    _ = _ := List.map_congr_left heach

/-- **Merged tables do not depend on how drafts of different names are interleaved**, but for their
order. -/
theorem mergeDrafts_perm_of_draftsOf {ds es : List Table}
    (h : ∀ n, draftsOf n ds = draftsOf n es) : (mergeDrafts ds).Perm (mergeDrafts es) := by
  have hmem : ∀ (drafts : List Table) (n : String),
      n ∈ tableNames drafts ↔ draftsOf n drafts ≠ [] := by
    intro drafts n
    simp [tableNames, draftsOf]
  have hnames : (tableNames ds).eraseDups.Perm (tableNames es).eraseDups := by
    rw [List.perm_ext_iff_of_nodup (tableNames_mergeDrafts ds ▸ names_mergeDrafts_nodup ds)
      (tableNames_mergeDrafts es ▸ names_mergeDrafts_nodup es)]
    intro n
    rw [List.mem_eraseDups, List.mem_eraseDups, hmem, hmem, h]
  rw [mergeDrafts_eq_map, mergeDrafts_eq_map]
  simp only [h]
  exact hnames.map _

namespace TableMerger

/-! ## Calls -/

/-- A call on a merger. -/
inductive Call where
  | add (draft : Table)
  | extend (drafts : List Table)
  deriving DecidableEq, Repr

/-- The drafts that a call brings, in order. -/
def Call.drafts : Call → List Table
  | add draft => [draft]
  | extend drafts => drafts

/-- A merger after a call. -/
def after (m : TableMerger) : Call → TableMerger
  | .add draft => m.add draft
  | .extend drafts => m.extend drafts

/-- A new merger after calls. -/
def ofCalls (calls : List Call) : TableMerger := calls.foldl after empty

/-- The drafts that calls bring, in order. -/
def draftsOfCalls (calls : List Call) : List Table := calls.flatMap (·.drafts)

theorem extend_append (m : TableMerger) (ds es : List Table) :
    m.extend (ds ++ es) = (m.extend ds).extend es := List.foldl_append

theorem after_eq_extend (m : TableMerger) (call : Call) : m.after call = m.extend call.drafts := by
  cases call <;> rfl

/-- **How drafts are spread over calls does not matter.** -/
theorem ofCalls_eq_extend (calls : List Call) :
    ofCalls calls = empty.extend (draftsOfCalls calls) := by
  have h : ∀ m : TableMerger, calls.foldl after m = m.extend (draftsOfCalls calls) := by
    induction calls with
    | nil => exact fun _ => rfl
    | cons call calls ih =>
      intro m
      rw [List.foldl_cons, ih, after_eq_extend, ← extend_append]
      rfl
  exact h empty

theorem consistent_extend (drafts : List Table) {m : TableMerger} (hm : m.Consistent) :
    (m.extend drafts).Consistent := by
  induction drafts generalizing m with
  | nil => exact hm
  | cons draft drafts ih => exact ih (consistent_add hm draft)

/-- **A merger is what its drafts say, after any calls.** No two tables share a name, the position
of a name is that of the table of that name, and the tables stand in the order in which their names
came first. The columns of a table are those of the first draft of its name, as they are, and what
the later ones add, so every drafted column is there by name. Further calls leave each table in its
place with its columns, and only put others behind them. -/
theorem ofCalls_unites (calls more : List Call) :
    let m := ofCalls calls
    let drafts := draftsOfCalls calls
    (tableNames m.toList).Nodup ∧
    (∀ (n : String) (i : Nat),
      m.positions[n]? = some i ↔ ∃ t : Table, m.tables[i]? = some t ∧ t.name = n) ∧
    tableNames m.toList = (tableNames drafts).eraseDups ∧
    (∀ t ∈ m.toList, ∃ first later, draftsOf t.name drafts = first :: later ∧
      t.columns = first.columns ++ additions first.columns later) ∧
    (∀ draft ∈ drafts, ∃ t ∈ m.toList, t.name = draft.name ∧
      ∀ c ∈ draft.columns, c.name ∈ t.columns.map (·.name)) ∧
    (∀ (i : Nat) (t : Table), m.tables[i]? = some t →
      ∃ t', (ofCalls (calls ++ more)).tables[i]? = some t' ∧ t'.name = t.name ∧
        t.columns <+: t'.columns) := by
  intro m drafts
  have hm : m = empty.extend drafts := ofCalls_eq_extend calls
  have hlist : m.toList = mergeDrafts drafts := by rw [hm, toList_extend]
  have hconsistent : m.Consistent := hm ▸ consistent_extend drafts consistent_empty
  refine ⟨?_, hconsistent, ?_, ?_, ?_, ?_⟩
  · rw [hlist]
    exact names_mergeDrafts_nodup drafts
  · rw [hlist]
    exact tableNames_mergeDrafts drafts
  · rw [hlist]
    exact fun t ht => columns_mergeDrafts ht
  · rw [hlist]
    exact fun draft hd => exists_mem_mergeDrafts hd
  · intro i t ht
    have hmore : ofCalls (calls ++ more) = empty.extend (drafts ++ draftsOfCalls more) := by
      rw [ofCalls_eq_extend]
      exact congrArg _ List.flatMap_append
    have htable : (mergeDrafts drafts)[i]? = some t := by
      rw [← hlist]
      simpa [toList] using ht
    obtain ⟨t', ht', hgrows⟩ := growsTo_mergeDrafts drafts (draftsOfCalls more) htable
    rw [← toList_extend, ← hmore] at ht'
    exact ⟨t', by simpa [toList] using ht', hgrows.name, hgrows.columns⟩

/-- The columns of the first draft stay as they are, and those of a later one only join by name. -/
example :
    (ofCalls [.add ⟨"Person", [⟨"id", true, false, false, none⟩, { name := "name" }]⟩,
      .extend [⟨"Other", [⟨"id", true, false, false, none⟩]⟩,
        ⟨"Person", [{ name := "id" }, ⟨"id_Chief", false, false, false, some "Person"⟩]⟩]]).toList =
      [⟨"Person", [⟨"id", true, false, false, none⟩, { name := "name" },
          ⟨"id_Chief", false, false, false, some "Person"⟩]⟩,
        ⟨"Other", [⟨"id", true, false, false, none⟩]⟩] := by
  decide

/-! ## Schedules and replays -/

/-- A draft that has been merged changes nothing. -/
theorem add_of_mem {drafts : List Table} {draft : Table} (h : draft ∈ drafts) :
    (empty.extend drafts).add draft = empty.extend drafts := by
  have hm : (empty.extend drafts).Consistent := consistent_extend drafts consistent_empty
  obtain ⟨t, ht, hname, hcolumns⟩ := exists_mem_mergeDrafts h
  rw [← toList_extend] at ht
  generalize empty.extend drafts = m at ht hm ⊢
  obtain ⟨i, hi⟩ := List.mem_iff_getElem?.mp ht
  have htable : m.tables[i]? = some t := by simpa [toList] using hi
  have hposition : m.positions[draft.name]? = some i := (hm draft.name i).mpr ⟨t, htable, hname⟩
  have habsorb : t.absorb draft.columns = t :=
    absorb_of_known fun c hc => List.mem_map.mp (hcolumns c hc)
  have htables : m.tables.modify i (·.absorb draft.columns) = m.tables := by
    apply Array.ext_getElem?
    intro j
    rw [Array.getElem?_modify]
    by_cases hj : i = j
    · rw [if_pos hj, ← hj, htable, Option.map_some, habsorb]
    · rw [if_neg hj]
  unfold add
  rw [hposition]
  simp only [htables]

/-- Drafts that have been merged change nothing. -/
theorem extend_of_subset {drafts again : List Table} (h : ∀ draft ∈ again, draft ∈ drafts) :
    (empty.extend drafts).extend again = empty.extend drafts := by
  induction again with
  | nil => rfl
  | cons draft again ih =>
    obtain ⟨hdraft, hagain⟩ := List.forall_mem_cons.mp h
    have hcons : (empty.extend drafts).extend (draft :: again) =
        ((empty.extend drafts).add draft).extend again := rfl
    rw [hcons, add_of_mem hdraft, ih hagain]

/-- **Unrelated drafts commute, and old ones are absorbed.** Where two sequences have the same
drafts of each name in the same order, the merged tables are the same but for their order. And
drafts that are among those of a merger leave its whole state as it is. -/
theorem schedule_and_replay :
    (∀ ds es : List Table, (∀ n, draftsOf n ds = draftsOf n es) →
      (empty.extend ds).toList.Perm (empty.extend es).toList) ∧
    (∀ ds again : List Table, (∀ draft ∈ again, draft ∈ ds) →
      (empty.extend ds).extend again = empty.extend ds) := by
  refine ⟨fun ds es h => ?_, fun ds again h => extend_of_subset h⟩
  rw [toList_extend, toList_extend]
  exact mergeDrafts_perm_of_draftsOf h

/-- Drafts of people, and of the tags they use, before and after the tags move to the front; and a
replay of some of them. -/
theorem people_and_tags :
    let person : Table := ⟨"Person", [⟨"id", true, false, false, none⟩, { name := "name" }]⟩
    let chief : Table := ⟨"Person", [{ name := "id" }, ⟨"id_Chief", false, false, false, "Person"⟩]⟩
    let tag : Table := ⟨"Tag", [{ name := "label" }, { name := "label" }]⟩
    (∀ n, draftsOf n [person, tag, chief] = draftsOf n [tag, person, chief]) ∧
      (empty.extend [person, tag, chief]).toList.Perm (empty.extend [tag, person, chief]).toList ∧
      (empty.extend [person, tag, chief]).extend [tag, chief, tag] =
        empty.extend [person, tag, chief] := by
  intro person chief tag
  have hsame : ∀ n, draftsOf n [person, tag, chief] = draftsOf n [tag, person, chief] := by
    intro n
    by_cases hn : "Tag" = n
    · subst hn
      rfl
    · simp [draftsOf, List.filter_cons, tag, hn]
  exact ⟨hsame, schedule_and_replay.1 _ _ hsame, schedule_and_replay.2 _ _ (by decide)⟩

end TableMerger

end ErSchema
