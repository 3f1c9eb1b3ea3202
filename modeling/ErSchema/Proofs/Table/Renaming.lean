import ErSchema.Proofs.Table.Naming
import Mathlib.Order.Bounds.Defs

/-!
# How columns are told apart

Columns are renamed from left to right. Each one asks for its folded name, and while the name that
it asks for is that of a column before it, it asks for the next numbered one. `Search` is this
search, with its tries. Nothing in it bounds them, but numbered names are all different, so that
there are no more tries than columns before.

* `Search.unique`, `search_freshName`: the search has one end, the fresh name, after as many tries
  as there are names taken at most.
* `getElem?_sanitizeColumns`: each column gets the name that is fresh among those before it.
* `Table.sanitize_settles`: what sanitizing makes of a table.
-/

namespace ErSchema

open Text

/-! ## Searching -/

/-- A search for a name, from the name that is asked for and the number to try next: it ends with
the first one that is not taken, after some tries. -/
inductive Search (taken : List String) (base : String) : String → Nat → Nat → String → Prop
  | found {name : String} {n : Nat} (h : name ∉ taken) : Search taken base name n 0 name
  | next {name result : String} {n tries : Nat} (h : name ∈ taken)
      (rest : Search taken base (numbered base n) (n + 1) tries result) :
      Search taken base name n (tries + 1) result

variable {taken : List String} {base : String}

/-- **A search has one end.** -/
theorem Search.unique {name result result' : String} {n tries tries' : Nat}
    (h : Search taken base name n tries result) (h' : Search taken base name n tries' result') :
    tries' = tries ∧ result' = result := by
  induction h generalizing tries' with
  | found hfree =>
    cases h' with
    | found => exact ⟨rfl, rfl⟩
    | next htaken => exact absurd htaken hfree
  | next htaken _ ih =>
    cases h' with
    | found hfree => exact absurd htaken hfree
    | next _ rest' =>
      obtain ⟨htries, hresult⟩ := ih rest'
      exact ⟨congrArg (· + 1) htries, hresult⟩

/-- Numbers that are taken are passed, one try for each. -/
theorem search_numbered {n tries : Nat} (hfree : numbered base (n + tries) ∉ taken)
    (htaken : ∀ j < tries, numbered base (n + j) ∈ taken) :
    Search taken base (numbered base n) (n + 1) tries (numbered base (n + tries)) := by
  induction tries generalizing n with
  | zero => exact .found hfree
  | succ tries ih =>
    have hnext : n + (tries + 1) = n + 1 + tries := by omega
    refine .next (htaken 0 (Nat.succ_pos tries)) ?_
    rw [hnext] at hfree ⊢
    refine ih hfree fun j hj => ?_
    have := htaken (j + 1) (Nat.succ_lt_succ hj)
    rwa [← Nat.add_assoc, Nat.add_right_comm] at this

/-- What a search for a base comes to: the base without a try, or the base with the least number
that is free, which is then the count of tries. -/
def Settles (taken : List String) (base : String) (tries : Nat) (result : String) : Prop :=
  (base ∉ taken ∧ tries = 0 ∧ result = base) ∨
    (base ∈ taken ∧ IsLeast {k | 1 ≤ k ∧ numbered base k ∉ taken} tries ∧
      result = numbered base tries)

/-- **The search ends** with the fresh name, after as many tries as there are names taken at most.
-/
theorem search_freshName (taken : List String) (base : String) :
    ∃ tries ≤ taken.length, Search taken base base 1 tries (freshName taken base) ∧
      Settles taken base tries (freshName taken base) := by
  by_cases hbase : base ∈ taken
  · obtain ⟨i, hi, hname, hfree, hleast⟩ := freshName_of_mem hbase
    rw [hname]
    refine ⟨i + 1, hi, .next hbase ?_, Or.inr ⟨hbase, ⟨⟨Nat.succ_pos i, hfree⟩, ?_⟩, rfl⟩⟩
    · rw [Nat.add_comm i 1] at hfree ⊢
      refine search_numbered hfree fun j hj => ?_
      rw [Nat.add_comm]
      exact hleast j hj
    · rintro k ⟨hk, hkfree⟩
      by_contra hlt
      refine hkfree ?_
      rw [← Nat.sub_add_cancel hk]
      exact hleast (k - 1) (by omega)
  · rw [freshName_of_not_mem hbase]
    exact ⟨0, Nat.zero_le _, .found hbase, Or.inl ⟨hbase, rfl, rfl⟩⟩

/-- The order of the names taken does not matter. -/
theorem freshName_perm {taken' : List String} (h : taken.Perm taken') (base : String) :
    freshName taken base = freshName taken' base := by
  have hcontains : ∀ name, taken.contains name = taken'.contains name := fun name => by
    rw [Bool.eq_iff_iff, List.contains_iff_mem, List.contains_iff_mem, h.mem_iff]
  unfold freshName
  simp only [hcontains, h.length_eq]

/-! ## Renaming -/

/-- **Each column gets the name that is fresh** among the names taken and those before it. -/
theorem getElem?_sanitizeColumns (taken : List String) {cs : List Column} {i : Nat} {c : Column}
    (h : cs[i]? = some c) :
    (sanitizeColumns taken cs)[i]? = some (c.renamed
      (freshName (((sanitizeColumns taken cs).take i).map (·.name) ++ taken)
        (foldDiacritics c.name))) := by
  induction cs generalizing taken i with
  | nil => exact absurd h (by simp)
  | cons x cs ih =>
    cases i with
    | zero =>
      cases h
      rfl
    | succ i =>
      rw [sanitizeColumns, List.getElem?_cons_succ, ih _ h, List.take_succ_cons, List.map_cons]
      -- the name of the first column moves to the front of those that are taken
      rw [freshName_perm List.perm_middle]
      rfl

/-- **What sanitizing makes of a table.** The table and the tables referred to are under their
folded names, every column stays in its place with its flags, and its name is settled by a search
among the names of the columns before it, which ends after as many tries as these are at most. So
the names of the columns are all different. -/
theorem Table.sanitize_settles (t : Table) :
    t.sanitize.name = foldDiacritics t.name ∧
    t.sanitize.columns.length = t.columns.length ∧
    (∀ (i : Nat) (c : Column), t.columns[i]? = some c →
      ∃ c', t.sanitize.columns[i]? = some c' ∧ c'.key = c.key ∧ c'.notNull = c.notNull ∧
        c'.unique = c.unique ∧ c'.foreignKey = c.foreignKey.map foldDiacritics ∧
        let earlier := (t.sanitize.columns.take i).map (·.name)
        let base := foldDiacritics c.name
        ∃ tries ≤ i, Settles earlier base tries c'.name ∧
          ∀ n name, Search earlier base base 1 n name ↔ n = tries ∧ name = c'.name) ∧
    (t.sanitize.columns.map (·.name)).Nodup := by
  refine ⟨rfl, sanitizeColumns_length [] t.columns, fun i c hc => ?_, names_sanitize_nodup t⟩
  have hcolumn := getElem?_sanitizeColumns [] hc
  rw [List.append_nil] at hcolumn
  refine ⟨_, hcolumn, rfl, rfl, rfl, rfl, ?_⟩
  intro earlier base
  obtain ⟨tries, htries, hsearch, hsettles⟩ := search_freshName earlier base
  have hearlier : earlier.length ≤ i := by
    rw [List.length_map]
    exact List.length_take_le i _
  refine ⟨tries, Nat.le_trans htries hearlier, hsettles, fun n name => ⟨hsearch.unique, ?_⟩⟩
  rintro ⟨rfl, rfl⟩
  exact hsearch

/-- A numbered name may be in the way of a column that has it by itself. -/
example :
    (Table.sanitize ⟨"Relación", ["Año", "Ano", "Ano_1"].map fun name => { name }⟩).columns.map
      (·.name) = ["Ano", "Ano_1", "Ano_1_1"] := by
  decide +kernel

end ErSchema
