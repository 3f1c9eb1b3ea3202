import ErSchema.Table.Merger

/-!
# Merging on plain lists

A `TableMerger` finds the table of a name by its position. `mergeDraft` walks the list instead, and
the two agree on every state that a merger can reach (`toList_extend`). What is proved of merged
tables is proved of the walk, one lemma for each thing that a draft can change.

* `mergeDraft_cases`: a draft is a new table or is absorbed by the one of its name.
* `names_mergeDrafts_nodup`, `mem_names_mergeDrafts`: one table for each drafted name.
* `forall_mergeDrafts`: what every draft has and absorbing a draft of the same name keeps holds of
  every merged table.
* `filter_mergeDrafts`, `mergeDrafts_perm_split`: drafts of different names do not meet.
* `growsTo_mergeDrafts`: further drafts only add columns behind those that are there.
* `mem_columnNames_mergeDrafts`, `exists_mem_mergeDrafts`: the columns of a merged table, by name.
* `columns_mergeDrafts_perm`: all merged columns are what each draft adds to those before it.
-/

namespace ErSchema

/-! ## The walk -/

/-- Merges a draft into the table of its name, or puts it behind the others. -/
def mergeDraft : List Table → Table → List Table
  | [], draft => [draft]
  | t :: ts, draft =>
    if t.name = draft.name then t.absorb draft.columns :: ts else t :: mergeDraft ts draft

/-- The tables that drafts are merged to. -/
def mergeDrafts (drafts : List Table) : List Table := drafts.foldl mergeDraft []

theorem mergeDrafts_append_singleton (drafts : List Table) (t : Table) :
    mergeDrafts (drafts ++ [t]) = mergeDraft (mergeDrafts drafts) t := by
  simp [mergeDrafts]

theorem mergeDraft_of_absent {ts : List Table} {draft : Table}
    (h : ∀ t ∈ ts, t.name ≠ draft.name) : mergeDraft ts draft = ts ++ [draft] := by
  induction ts with
  | nil => rfl
  | cons t ts ih =>
    unfold mergeDraft
    rw [if_neg (h t List.mem_cons_self), ih fun u hu => h u (List.mem_cons_of_mem t hu)]
    rfl

/-- The first table of the name is the one that absorbs. -/
theorem mergeDraft_of_first {draft : Table} : ∀ {ts : List Table} {i : Nat} {t : Table},
    ts[i]? = some t → t.name = draft.name →
    (∀ j u, j < i → ts[j]? = some u → u.name ≠ draft.name) →
    mergeDraft ts draft = ts.modify i (·.absorb draft.columns)
  | [], _, _, h, _, _ => by simp at h
  | x :: ts, 0, t, h, hn, _ => by
    obtain rfl : x = t := by simpa using h
    unfold mergeDraft
    rw [if_pos hn, List.modify_zero_cons]
  | x :: ts, i + 1, t, h, hn, hlt => by
    unfold mergeDraft
    rw [if_neg (hlt 0 x (Nat.succ_pos i) rfl), List.modify_succ_cons]
    congr 1
    exact mergeDraft_of_first (by simpa using h) hn fun j u hj hu =>
      hlt (j + 1) u (Nat.succ_lt_succ hj) (by simpa using hu)

/-! ## The merger walks -/

namespace TableMerger

/-- The positions are those of the tables: each name has one, and it is right. -/
def Consistent (m : TableMerger) : Prop :=
  ∀ (n : String) (i : Nat),
    m.positions[n]? = some i ↔ ∃ t : Table, m.tables[i]? = some t ∧ t.name = n

theorem consistent_empty : Consistent empty := by
  intro n i
  simp [empty]

theorem consistent_add {m : TableMerger} (hm : m.Consistent) (draft : Table) :
    (m.add draft).Consistent := by
  intro n i
  unfold add
  cases hp : m.positions[draft.name]? with
  | some k =>
    rw [hm n i]
    simp only [Array.getElem?_modify]
    by_cases hk : k = i
    · subst hk
      cases m.tables[k]? <;> simp [Table.absorb]
    · simp [hk]
  | none =>
    simp only [Std.TreeMap.getElem?_insert, Array.getElem?_push]
    have hsize : ∀ t, ¬ m.tables[m.tables.size]? = some t := by simp
    by_cases hn : draft.name = n
    · subst hn
      have hnone : ∀ t, m.tables[i]? = some t → t.name ≠ draft.name := by
        intro t ht he
        rw [(hm draft.name i).mpr ⟨t, ht, he⟩] at hp
        exact absurd hp (by simp)
      by_cases hi : i = m.tables.size
      · simp [hi]
      · simp only [hi, if_false, Std.compare_self, if_true, Option.some.injEq]
        constructor
        · intro h
          exact absurd h.symm hi
        · rintro ⟨t, ht, he⟩
          exact absurd he (hnone t ht)
    · by_cases hi : i = m.tables.size
      · subst hi
        rw [if_pos rfl]
        constructor
        · intro h
          have h' : m.positions[n]? = some m.tables.size := by simpa [hn] using h
          obtain ⟨t, ht, -⟩ := (hm n _).mp h'
          exact absurd ht (hsize t)
        · rintro ⟨t, ht, he⟩
          exact absurd (by simpa using (Option.some.inj ht) ▸ he) hn
      · simpa [hn, hi] using hm n i

/-- **Adding a draft is the walk.** -/
theorem toList_add {m : TableMerger} (hm : m.Consistent) (draft : Table) :
    (m.add draft).toList = mergeDraft m.toList draft := by
  unfold add toList
  cases hp : m.positions[draft.name]? with
  | none =>
    have habs : ∀ t ∈ m.tables.toList, t.name ≠ draft.name := by
      intro t ht he
      obtain ⟨i, hi⟩ := List.mem_iff_getElem?.mp ht
      rw [(hm draft.name i).mpr ⟨t, by simpa using hi, he⟩] at hp
      exact absurd hp (by simp)
    rw [mergeDraft_of_absent habs]
    simp
  | some i =>
    obtain ⟨t, ht, hn⟩ := (hm draft.name i).mp hp
    -- two positions of one name would be equal, so `i` is the first
    have hfirst : ∀ j u, j < i → m.tables.toList[j]? = some u → u.name ≠ draft.name := by
      intro j u hj hu he
      have := (hm draft.name j).mpr ⟨u, by simpa using hu, he⟩
      rw [hp] at this
      exact absurd (Option.some.inj this) (by omega)
    rw [mergeDraft_of_first (by simpa using ht) hn hfirst]
    simp

theorem toList_foldl_add (drafts : List Table) {m : TableMerger} (hm : m.Consistent) :
    (drafts.foldl add m).toList = drafts.foldl mergeDraft m.toList := by
  induction drafts generalizing m with
  | nil => rfl
  | cons draft drafts ih =>
    rw [List.foldl_cons, List.foldl_cons, ih (consistent_add hm draft), toList_add hm]

/-- **A run of the merger is the walk over all drafts.** -/
theorem toList_extend (drafts : List Table) : (empty.extend drafts).toList = mergeDrafts drafts :=
  toList_foldl_add drafts consistent_empty

end TableMerger

/-! ## What a draft does -/

/-- The names of tables, in order. -/
def tableNames (ts : List Table) : List String := ts.map (·.name)

/-- **One draft either is a new table behind the others or is absorbed by the one of its name.** -/
theorem mergeDraft_cases {ts : List Table} (hts : (tableNames ts).Nodup) (draft : Table) :
    ((∀ t ∈ ts, t.name ≠ draft.name) ∧ mergeDraft ts draft = ts ++ [draft]) ∨
      ∃ l t r, ts = l ++ t :: r ∧ t.name = draft.name ∧ (∀ u ∈ l ++ r, u.name ≠ draft.name) ∧
        mergeDraft ts draft = l ++ t.absorb draft.columns :: r := by
  induction ts with
  | nil => exact Or.inl ⟨fun _ h => absurd h List.not_mem_nil, rfl⟩
  | cons x ts ih =>
    obtain ⟨hx, hts⟩ := List.nodup_cons.mp hts
    unfold mergeDraft
    by_cases h : x.name = draft.name
    · rw [if_pos h]
      refine Or.inr ⟨[], x, ts, rfl, h, fun u hu e => hx ?_, rfl⟩
      exact List.mem_map.mpr ⟨u, hu, e.trans h.symm⟩
    · rw [if_neg h]
      rcases ih hts with ⟨habs, heq⟩ | ⟨l, t, r, rfl, hn, hne, heq⟩
      · refine Or.inl ⟨fun t ht => ?_, by rw [heq]; rfl⟩
        rcases List.mem_cons.mp ht with rfl | ht
        · exact h
        · exact habs t ht
      · refine Or.inr ⟨x :: l, t, r, rfl, hn, fun u hu => ?_, by rw [heq]; rfl⟩
        rcases List.mem_cons.mp hu with rfl | hu
        · exact h
        · exact hne u hu

theorem tableNames_mergeDraft {ts : List Table} (hts : (tableNames ts).Nodup) (draft : Table) :
    tableNames (mergeDraft ts draft) =
      if draft.name ∈ tableNames ts then tableNames ts else tableNames ts ++ [draft.name] := by
  rcases mergeDraft_cases hts draft with ⟨habs, heq⟩ | ⟨l, t, r, rfl, hn, -, heq⟩
  · rw [heq, if_neg (by simpa [tableNames] using habs)]
    simp [tableNames]
  · rw [heq, if_pos (by simp [tableNames, hn])]
    simp [tableNames, Table.absorb]

theorem nodup_mergeDraft {ts : List Table} (hts : (tableNames ts).Nodup) (draft : Table) :
    (tableNames (mergeDraft ts draft)).Nodup := by
  rw [tableNames_mergeDraft hts]
  split
  · exact hts
  · rename_i h
    refine List.nodup_append.mpr ⟨hts, by simp, fun a ha b hb e => h ?_⟩
    rw [← List.mem_singleton.mp hb, ← e]
    exact ha

/-! ## What a run does -/

/-- A property that one draft after the other keeps holds once all are merged. -/
theorem mergeDrafts_induction {P : List Table → List Table → Prop} (h0 : P [] [])
    (hstep : ∀ before draft, P before (mergeDrafts before) →
      P (before ++ [draft]) (mergeDraft (mergeDrafts before) draft)) (drafts : List Table) :
    P drafts (mergeDrafts drafts) := by
  have h : ∀ drafts before : List Table, P before (mergeDrafts before) →
      P (before ++ drafts) (mergeDrafts (before ++ drafts)) := by
    intro drafts
    induction drafts with
    | nil => exact fun before hp => by simpa using hp
    | cons t drafts ih =>
      intro before hp
      rw [List.append_cons before t drafts]
      refine ih _ ?_
      rw [mergeDrafts_append_singleton]
      exact hstep before t hp
  exact h drafts [] h0

theorem names_mergeDrafts_nodup (drafts : List Table) : (tableNames (mergeDrafts drafts)).Nodup :=
  mergeDrafts_induction (P := fun _ ts => (tableNames ts).Nodup) List.nodup_nil
    (fun _ draft ih => nodup_mergeDraft ih draft) drafts

/-- **Each drafted name has a table**, and no other name has one. -/
theorem mem_names_mergeDrafts (drafts : List Table) (n : String) :
    n ∈ tableNames (mergeDrafts drafts) ↔ n ∈ tableNames drafts := by
  refine mergeDrafts_induction (P := fun ds ts => n ∈ tableNames ts ↔ n ∈ tableNames ds)
    Iff.rfl ?_ drafts
  intro before draft ih
  rw [tableNames_mergeDraft (names_mergeDrafts_nodup before)]
  have happ : tableNames (before ++ [draft]) = tableNames before ++ [draft.name] := by
    simp [tableNames]
  split
  · rename_i h
    rw [happ, List.mem_append, ← ih, List.mem_singleton]
    constructor
    · exact Or.inl
    · rintro (hn | rfl)
      · exact hn
      · exact h
  · rw [happ, List.mem_append, List.mem_append, ih]

/-- A draft whose columns are all there by name changes nothing. -/
theorem absorb_of_known {t : Table} {draft : List Column}
    (h : ∀ c ∈ draft, ∃ d ∈ t.columns, d.name = c.name) : t.absorb draft = t := by
  have hnone : draft.filter (fun c => !t.columns.any (·.name = c.name)) = [] := by
    rw [List.filter_eq_nil_iff]
    intro c hc
    simpa using h c hc
  rw [Table.absorb, hnone, List.append_nil]

theorem absorb_self (t : Table) : t.absorb t.columns = t :=
  absorb_of_known fun c hc => ⟨c, hc, rfl⟩

/-- **What drafts have, merged tables have**, if absorbing a draft of the same name keeps it. -/
theorem forall_mergeDrafts {P : Table → Prop} {drafts : List Table} (hd : ∀ t ∈ drafts, P t)
    (habs : ∀ t u, P t → P u → t.name = u.name → P (t.absorb u.columns)) :
    ∀ t ∈ mergeDrafts drafts, P t := by
  refine mergeDrafts_induction (P := fun ds ts => (∀ t ∈ ds, P t) → ∀ t ∈ ts, P t)
    (fun _ _ h => absurd h List.not_mem_nil) ?_ drafts hd
  intro before draft ih hd t ht
  have hold := ih fun x hx => hd x (List.mem_append_left _ hx)
  have hnew := hd draft (List.mem_append_right _ List.mem_cons_self)
  rcases mergeDraft_cases (names_mergeDrafts_nodup before) draft with
    ⟨-, heq⟩ | ⟨l, u, r, hts, hn, -, heq⟩
  · rw [heq] at ht
    rcases List.mem_append.mp ht with ht | ht
    · exact hold t ht
    · exact List.mem_singleton.mp ht ▸ hnew
  · rw [heq] at ht
    rw [hts] at hold
    have hu := hold u (List.mem_append_right _ List.mem_cons_self)
    rcases List.mem_append.mp ht with ht | ht
    · exact hold t (List.mem_append_left _ ht)
    · rcases List.mem_cons.mp ht with rfl | ht
      · exact habs u draft hu hnew hn
      · exact hold t (List.mem_append_right _ (List.mem_cons_of_mem u ht))

/-! ## Drafts by name -/

/-- A draft changes nothing among the tables of other names. -/
theorem filter_mergeDraft (p : String → Bool) (ts : List Table) (draft : Table) :
    (mergeDraft ts draft).filter (p ·.name) =
      if p draft.name then mergeDraft (ts.filter (p ·.name)) draft
      else ts.filter (p ·.name) := by
  induction ts with
  | nil => cases hp : p draft.name <;> simp [mergeDraft, hp]
  | cons t ts ih =>
    by_cases hn : t.name = draft.name
    · have habsorb : (t.absorb draft.columns).name = t.name := rfl
      cases hp : p draft.name <;> simp [mergeDraft, hn, hp, habsorb]
    · cases ht : p t.name <;> cases hp : p draft.name <;> simp [mergeDraft, hn, ht, hp, ih]

/-- **The tables of some names are merged from the drafts of these names.** -/
theorem filter_mergeDrafts (p : String → Bool) (drafts : List Table) :
    (mergeDrafts drafts).filter (p ·.name) = mergeDrafts (drafts.filter (p ·.name)) := by
  refine mergeDrafts_induction
    (P := fun ds ts => ts.filter (p ·.name) = mergeDrafts (ds.filter (p ·.name))) rfl ?_ drafts
  intro before draft ih
  rw [filter_mergeDraft, ih, List.filter_append]
  cases hp : p draft.name with
  | false => simp [hp]
  | true => simp [hp, mergeDrafts_append_singleton]

/-- **Drafts of two kinds of names are merged apart**, in whichever order they come. -/
theorem mergeDrafts_perm_split (p : String → Bool) (drafts : List Table) :
    (mergeDrafts drafts).Perm
      (mergeDrafts (drafts.filter (p ·.name)) ++ mergeDrafts (drafts.filter (!p ·.name))) := by
  rw [← filter_mergeDrafts, ← filter_mergeDrafts (!p ·)]
  exact (List.filter_append_perm _ _).symm

/-- Drafts of other names do not take part in a merged table. -/
theorem mem_mergeDrafts_append {ds es : List Table} {t : Table}
    (hes : ∀ u ∈ es, u.name ≠ t.name) : t ∈ mergeDrafts (ds ++ es) ↔ t ∈ mergeDrafts ds := by
  have hmem : ∀ drafts : List Table,
      t ∈ mergeDrafts drafts ↔ t ∈ mergeDrafts (drafts.filter fun u => u.name = t.name) := by
    intro drafts
    rw [← filter_mergeDrafts (fun n => decide (n = t.name)), List.mem_filter]
    simp
  have hnone : es.filter (fun u => u.name = t.name) = [] :=
    List.filter_eq_nil_iff.mpr fun u hu => by simpa using hes u hu
  rw [hmem, hmem ds, List.filter_append, hnone, List.append_nil]

/-! ## Growth -/

/-- Whether a table becomes another when columns are added behind its own. -/
structure Table.GrowsTo (t t' : Table) : Prop where
  name : t'.name = t.name
  columns : t.columns <+: t'.columns

theorem Table.GrowsTo.refl (t : Table) : t.GrowsTo t := ⟨rfl, List.prefix_rfl⟩

theorem Table.GrowsTo.trans {t u v : Table} (h : t.GrowsTo u) (h' : u.GrowsTo v) : t.GrowsTo v :=
  ⟨h'.name.trans h.name, h.columns.trans h'.columns⟩

theorem Table.growsTo_absorb (t : Table) (draft : List Column) : t.GrowsTo (t.absorb draft) :=
  ⟨rfl, List.prefix_append _ _⟩

theorem growsTo_mergeDraft (draft : Table) {ts : List Table} {i : Nat} {t : Table}
    (h : ts[i]? = some t) : ∃ t', (mergeDraft ts draft)[i]? = some t' ∧ t.GrowsTo t' := by
  induction ts generalizing i with
  | nil => exact absurd h (by simp)
  | cons x ts ih =>
    unfold mergeDraft
    by_cases hn : x.name = draft.name
    · rw [if_pos hn]
      cases i with
      | zero => exact ⟨_, rfl, Option.some.inj h ▸ x.growsTo_absorb draft.columns⟩
      | succ i => exact ⟨t, h, .refl t⟩
    · rw [if_neg hn]
      cases i with
      | zero => exact ⟨t, h, .refl t⟩
      | succ i => exact ih h

/-- **Further drafts only add columns** behind those of the tables that are there, and each table
keeps its place. -/
theorem growsTo_mergeDrafts (ds es : List Table) {i : Nat} {t : Table}
    (h : (mergeDrafts ds)[i]? = some t) :
    ∃ t', (mergeDrafts (ds ++ es))[i]? = some t' ∧ t.GrowsTo t' := by
  induction es generalizing ds t with
  | nil => exact ⟨t, by rwa [List.append_nil], .refl t⟩
  | cons draft es ih =>
    obtain ⟨u, hu, hgrows⟩ := growsTo_mergeDraft draft h
    rw [← mergeDrafts_append_singleton] at hu
    obtain ⟨t', ht', hgrows'⟩ := ih (ds ++ [draft]) hu
    rw [List.append_cons]
    exact ⟨t', ht', hgrows.trans hgrows'⟩

theorem exists_growsTo_mergeDrafts (ds es : List Table) {t : Table} (ht : t ∈ mergeDrafts ds) :
    ∃ t' ∈ mergeDrafts (ds ++ es), t.GrowsTo t' := by
  obtain ⟨i, hi⟩ := List.mem_iff_getElem?.mp ht
  obtain ⟨t', ht', hgrows⟩ := growsTo_mergeDrafts ds es hi
  exact ⟨t', List.mem_of_getElem? ht', hgrows⟩

/-! ## Columns -/

/-- The names of the columns that drafts give the table of a name. -/
def draftedNames (drafts : List Table) (name : String) : List String :=
  (drafts.filter (·.name = name)).flatMap fun t => t.columns.map (·.name)

theorem mem_draftedNames {drafts : List Table} {name n : String} :
    n ∈ draftedNames drafts name ↔
      ∃ t ∈ drafts, t.name = name ∧ ∃ c ∈ t.columns, c.name = n := by
  simp [draftedNames, and_assoc]

theorem draftedNames_of_absent {drafts : List Table} {name : String}
    (h : name ∉ tableNames drafts) : draftedNames drafts name = [] := by
  refine List.eq_nil_iff_forall_not_mem.mpr fun n hn => h ?_
  obtain ⟨t, ht, htn, -⟩ := mem_draftedNames.mp hn
  exact List.mem_map.mpr ⟨t, ht, htn⟩

theorem draftedNames_append (ts us : List Table) (name : String) :
    draftedNames (ts ++ us) name = draftedNames ts name ++ draftedNames us name := by
  simp [draftedNames]

theorem mem_names_absorb {t : Table} {draft : List Column} {n : String} :
    n ∈ (t.absorb draft).columns.map (·.name) ↔
      n ∈ t.columns.map (·.name) ∨ n ∈ draft.map (·.name) := by
  simp only [List.mem_map]
  constructor
  · rintro ⟨c, hc, hn⟩
    rcases TableMerger.mem_absorb.mp hc with hc | ⟨hc, -⟩
    · exact Or.inl ⟨c, hc, hn⟩
    · exact Or.inr ⟨c, hc, hn⟩
  · rintro (⟨c, hc, hn⟩ | ⟨c, hc, hn⟩)
    · exact ⟨c, TableMerger.mem_absorb.mpr (Or.inl hc), hn⟩
    · by_cases hk : ∃ d ∈ t.columns, d.name = n
      · obtain ⟨d, hd, hdn⟩ := hk
        exact ⟨d, TableMerger.mem_absorb.mpr (Or.inl hd), hdn⟩
      · refine ⟨c, TableMerger.mem_absorb.mpr (Or.inr ⟨hc, fun d hd e => hk ?_⟩), hn⟩
        exact ⟨d, hd, e.trans hn⟩

/-- **The columns of a merged table, by name**, are those of the drafts of its name. -/
theorem mem_columnNames_mergeDrafts (drafts : List Table) (n : String) :
    ∀ t ∈ mergeDrafts drafts,
      (n ∈ t.columns.map (·.name) ↔ n ∈ draftedNames drafts t.name) := by
  refine mergeDrafts_induction (P := fun ds ts => ∀ t ∈ ts,
    (n ∈ t.columns.map (·.name) ↔ n ∈ draftedNames ds t.name))
    (fun _ h => absurd h List.not_mem_nil) ?_ drafts
  intro before draft ih t ht
  have hself : n ∈ draftedNames [draft] draft.name ↔ n ∈ draft.columns.map (·.name) := by
    simp [draftedNames]
  have hother : ∀ {x : String}, x ≠ draft.name → draftedNames [draft] x = [] := by
    intro x hx
    simp [draftedNames, Ne.symm hx]
  rw [draftedNames_append, List.mem_append]
  rcases mergeDraft_cases (names_mergeDrafts_nodup before) draft with
    ⟨habs, heq⟩ | ⟨l, u, r, hts, hn, hne, heq⟩
  · rw [heq] at ht
    rcases List.mem_append.mp ht with ht | ht
    · rw [ih t ht, hother (habs t ht)]
      simp
    · -- a table of a new name: nothing before it was drafted under that name
      obtain rfl := List.mem_singleton.mp ht
      have hnot : t.name ∉ tableNames before := by
        rw [← mem_names_mergeDrafts]
        simpa [tableNames] using habs
      rw [hself, draftedNames_of_absent hnot]
      simp
  · rw [heq] at ht
    have hmem : ∀ x ∈ l ++ r, x ∈ mergeDrafts before := by
      intro x hx
      rw [hts]
      rcases List.mem_append.mp hx with hx | hx
      · exact List.mem_append_left _ hx
      · exact List.mem_append_right _ (List.mem_cons_of_mem u hx)
    by_cases h : t ∈ l ++ r
    · rw [ih t (hmem t h), hother (hne t h)]
      simp
    · have htu : t = u.absorb draft.columns := by
        rcases List.mem_append.mp ht with ht | ht
        · exact absurd (List.mem_append_left _ ht) h
        · rcases List.mem_cons.mp ht with ht | ht
          · exact ht
          · exact absurd (List.mem_append_right _ ht) h
      have hu : u ∈ mergeDrafts before := by rw [hts]; simp
      have hname : (u.absorb draft.columns).name = draft.name := hn
      rw [htu, mem_names_absorb, ih u hu, hn, hname, hself]

/-- **Each draft has its table**, with all its columns by name. -/
theorem exists_mem_mergeDrafts {drafts : List Table} {draft : Table} (h : draft ∈ drafts) :
    ∃ t ∈ mergeDrafts drafts, t.name = draft.name ∧
      ∀ c ∈ draft.columns, c.name ∈ t.columns.map (·.name) := by
  have hname : draft.name ∈ tableNames (mergeDrafts drafts) :=
    (mem_names_mergeDrafts drafts _).mpr (List.mem_map.mpr ⟨draft, h, rfl⟩)
  obtain ⟨t, ht, htn⟩ := List.mem_map.mp hname
  refine ⟨t, ht, htn, fun c hc => ?_⟩
  rw [mem_columnNames_mergeDrafts drafts _ t ht]
  exact mem_draftedNames.mpr ⟨draft, h, htn.symm, c, hc, rfl⟩

/-- The columns that a draft adds to those before it: the ones whose names are not drafted yet for
its table. -/
def addedColumns (before : List Table) (draft : Table) : List Column :=
  draft.columns.filter fun c => !(draftedNames before draft.name).contains c.name

/-- A draft of a new name adds all its columns, also several of one name. -/
theorem addedColumns_of_absent {before : List Table} {draft : Table}
    (h : draft.name ∉ tableNames before) : addedColumns before draft = draft.columns := by
  unfold addedColumns
  rw [draftedNames_of_absent h]
  simp

/-- What each of several drafts adds to those before it. -/
def addedFrom (before : List Table) : List Table → List Column
  | [] => []
  | t :: ts => addedColumns before t ++ addedFrom (before ++ [t]) ts

theorem addedFrom_append (before ts us : List Table) :
    addedFrom before (ts ++ us) = addedFrom before ts ++ addedFrom (before ++ ts) us := by
  induction ts generalizing before with
  | nil => simp [addedFrom]
  | cons t ts ih =>
    have happ : before ++ [t] ++ ts = before ++ t :: ts := (List.append_cons before t ts).symm
    rw [List.cons_append, addedFrom, addedFrom, ih, happ, List.append_assoc]

theorem columns_mergeDraft_perm (before : List Table) (draft : Table) :
    ((mergeDraft (mergeDrafts before) draft).flatMap (·.columns)).Perm
      ((mergeDrafts before).flatMap (·.columns) ++ addedColumns before draft) := by
  rcases mergeDraft_cases (names_mergeDrafts_nodup before) draft with
    ⟨habs, heq⟩ | ⟨l, u, r, hts, hn, -, heq⟩
  · have hnot : draft.name ∉ tableNames before := by
      rw [← mem_names_mergeDrafts]
      simpa [tableNames] using habs
    rw [heq, addedColumns_of_absent hnot]
    simp
  · have hu : u ∈ mergeDrafts before := by rw [hts]; simp
    have hfilter : draft.columns.filter (fun c => !u.columns.any (·.name = c.name)) =
        addedColumns before draft := by
      apply List.filter_congr
      intro c _
      have hiff := mem_columnNames_mergeDrafts before c.name u hu
      rw [hn] at hiff
      congr 1
      rw [Bool.eq_iff_iff, List.contains_iff_mem, ← hiff]
      simp
    rw [heq, hts, ← hfilter]
    simp only [List.flatMap_append, List.flatMap_cons, Table.absorb, List.append_assoc]
    refine List.Perm.append_left _ (List.Perm.append_left _ ?_)
    exact List.perm_append_comm

/-- **All merged columns are what each draft adds** to those before it. -/
theorem columns_mergeDrafts_perm (drafts : List Table) :
    ((mergeDrafts drafts).flatMap (·.columns)).Perm (addedFrom [] drafts) := by
  refine mergeDrafts_induction
    (P := fun ds ts => (ts.flatMap (·.columns)).Perm (addedFrom [] ds)) (List.Perm.refl _) ?_ drafts
  intro before draft ih
  rw [addedFrom_append, List.nil_append, addedFrom, addedFrom, List.append_nil]
  exact (columns_mergeDraft_perm before draft).trans (ih.append_right _)

end ErSchema
