import Mathlib.Data.List.Forall2

/-!
# Lists item by item

Lists that match item by item, in their order or in another one, and lists of results, which succeed
with the values of their items or fail with their first error.

* `forall₂_with_mem`: items that match are items of their lists.
* `all_eq_of_forall₂`, `map_eq_iff_forall₂`, `eq_of_forall₂`: what follows for the lists as wholes.
* `MatchesReordered`: lists whose items match in another order.
* `getLast?_filter_eq_some_iff`: the last item that passes a test.
* `mapM_eq_ok`, `mapM_eq_ok_iff_forall₂`: when a list of results succeeds.
* `mapM_eq_error`: when it fails, and with which error.
-/

namespace ErSchema

/-! ## Items that match -/

section Matching

variable {α β : Type} {R : α → β → Prop} {xs : List α} {ys : List β}

theorem forall₂_with_mem (h : List.Forall₂ R xs ys) :
    List.Forall₂ (fun x y => x ∈ xs ∧ y ∈ ys ∧ R x y) xs ys := by
  obtain ⟨hlength, hzip⟩ := List.forall₂_iff_zip.mp h
  refine List.forall₂_iff_zip.mpr ⟨hlength, fun hmem => ?_⟩
  obtain ⟨hx, hy⟩ := List.of_mem_zip hmem
  exact ⟨hx, hy, hzip hmem⟩

theorem forall₂_congr {S : α → β → Prop} (hrs : ∀ x ∈ xs, ∀ y, R x y ↔ S x y) :
    List.Forall₂ R xs ys ↔ List.Forall₂ S xs ys := by
  constructor
  · exact fun h => (forall₂_with_mem h).imp fun x y ⟨hx, _, hxy⟩ => (hrs x hx y).mp hxy
  · exact fun h => (forall₂_with_mem h).imp fun x y ⟨hx, _, hxy⟩ => (hrs x hx y).mpr hxy

/-- Two lists that match a third match each other through its items. -/
theorem forall₂_through {γ : Type} {S : α → γ → Prop} {zs : List γ} (h : List.Forall₂ R xs ys)
    (h' : List.Forall₂ S xs zs) : List.Forall₂ (fun y z => ∃ x, R x y ∧ S x z) ys zs := by
  induction h generalizing zs with
  | nil => cases h'; exact .nil
  | cons hxy _ ih =>
    obtain ⟨z, zs, hxz, hrest, rfl⟩ := List.forall₂_cons_left_iff.mp h'
    exact .cons ⟨_, hxy, hxz⟩ (ih hrest)

/-- Two lists that match through other items both match a list of those. -/
theorem exists_forall₂_between {γ : Type} {S : β → γ → Prop} {zs : List γ}
    (h : List.Forall₂ (fun x z => ∃ y, R x y ∧ S y z) xs zs) :
    ∃ ys, List.Forall₂ R xs ys ∧ List.Forall₂ S ys zs := by
  induction h with
  | nil => exact ⟨[], .nil, .nil⟩
  | cons hxz _ ih =>
    obtain ⟨y, hxy, hyz⟩ := hxz
    obtain ⟨ys, hxs, hzs⟩ := ih
    exact ⟨y :: ys, .cons hxy hxs, .cons hyz hzs⟩

/-- In lists that match item by item, each item of the second matches one of the first. -/
theorem exists_of_forall₂_right (h : List.Forall₂ R xs ys) {y : β} (hy : y ∈ ys) :
    ∃ x ∈ xs, R x y := by
  induction h with
  | nil => exact absurd hy List.not_mem_nil
  | cons hxy _ ih =>
    rcases List.mem_cons.mp hy with rfl | hy
    · exact ⟨_, List.mem_cons_self, hxy⟩
    · obtain ⟨x, hx, hr⟩ := ih hy
      exact ⟨x, List.mem_cons_of_mem _ hx, hr⟩

/-- Lists that match item by item are equal if items that match are. -/
theorem eq_of_forall₂ {R : α → α → Prop} {xs ys : List α} (h : List.Forall₂ R xs ys)
    (heq : ∀ x ∈ xs, ∀ y ∈ ys, R x y → x = y) : xs = ys := by
  rw [← List.forall₂_eq_eq_eq]
  exact (forall₂_with_mem h).imp fun x y ⟨hx, hy, hxy⟩ => heq x hx y hy hxy

theorem isEmpty_eq_of_length_eq (h : ys.length = xs.length) : ys.isEmpty = xs.isEmpty := by
  rw [Bool.eq_iff_iff, List.isEmpty_iff_length_eq_zero, List.isEmpty_iff_length_eq_zero, h]

theorem map_eq_iff_forall₂ {γ : Type} {f : α → γ} {g : β → γ} :
    xs.map f = ys.map g ↔ List.Forall₂ (fun x y => f x = g y) xs ys := by
  rw [← List.forall₂_eq_eq_eq, List.forall₂_map_left_iff, List.forall₂_map_right_iff]

/-- Lists that match item by item pass tests that agree on what matches. -/
theorem all_eq_of_forall₂ {p : α → Bool} {q : β → Bool} (h : List.Forall₂ R xs ys)
    (hpq : ∀ x y, R x y → q y = p x) : ys.all q = xs.all p := by
  induction h with
  | nil => rfl
  | cons hxy _ ih => rw [List.all_cons, List.all_cons, hpq _ _ hxy, ih]

theorem getLast?_of_forall₂ (h : List.Forall₂ R xs ys) : Option.Rel R xs.getLast? ys.getLast? := by
  have hreverse := List.rel_reverse h
  rw [List.getLast?_eq_head?_reverse, List.getLast?_eq_head?_reverse]
  generalize xs.reverse = us at hreverse ⊢
  generalize ys.reverse = vs at hreverse ⊢
  cases hreverse with
  | nil => exact .none
  | cons hxy _ => exact .some hxy

theorem isSome_eq_of_rel {x : Option α} {y : Option β} (h : Option.Rel R x y) :
    y.isSome = x.isSome := by
  cases h <;> rfl

theorem any_eq_of_rel {p : α → Bool} {q : β → Bool} {x : Option α} {y : Option β}
    (h : Option.Rel R x y) (hpq : ∀ x y, R x y → q y = p x) : y.any q = x.any p := by
  cases h with
  | some hxy => exact hpq _ _ hxy
  | none => rfl

theorem forall₂_append_left_iff {xs' : List α} :
    List.Forall₂ R (xs ++ xs') ys ↔
      ∃ us vs, ys = us ++ vs ∧ List.Forall₂ R xs us ∧ List.Forall₂ R xs' vs := by
  constructor
  · intro h
    induction xs generalizing ys with
    | nil => exact ⟨[], ys, rfl, .nil, h⟩
    | cons x xs ih =>
      obtain ⟨y, ys', hxy, hrest, rfl⟩ := List.forall₂_cons_left_iff.mp h
      obtain ⟨us, vs, rfl, hus, hvs⟩ := ih hrest
      exact ⟨y :: us, vs, rfl, .cons hxy hus, hvs⟩
  · rintro ⟨us, vs, rfl, hus, hvs⟩
    exact List.rel_append hus hvs

end Matching

/-! ## Items that match in another order -/

/-- Whether two lists match item by item once the first is put in another order. -/
def MatchesReordered {α β : Type} (R : α → β → Prop) (xs : List α) (ys : List β) : Prop :=
  ∃ zs, xs.Perm zs ∧ List.Forall₂ R zs ys

namespace MatchesReordered

variable {α β : Type} {R : α → β → Prop} {xs : List α} {ys : List β}

theorem length_eq (h : MatchesReordered R xs ys) : ys.length = xs.length := by
  obtain ⟨zs, hperm, hmatch⟩ := h
  rw [← hmatch.length_eq, hperm.length_eq]

/-- A test of all items does not depend on their order. -/
theorem all_eq {p : α → Bool} {q : β → Bool} (h : MatchesReordered R xs ys)
    (hpq : ∀ x y, R x y → q y = p x) : ys.all q = xs.all p := by
  obtain ⟨zs, hperm, hmatch⟩ := h
  rw [all_eq_of_forall₂ hmatch hpq, hperm.all_eq]

theorem filter {p : α → Bool} {q : β → Bool} (h : MatchesReordered R xs ys)
    (hpq : ∀ x y, R x y → q y = p x) : MatchesReordered R (xs.filter p) (ys.filter q) := by
  obtain ⟨zs, hperm, hmatch⟩ := h
  exact ⟨zs.filter p, hperm.filter p, List.rel_filter (fun x y hxy => by simp [hpq x y hxy]) hmatch⟩

theorem map_perm {γ : Type} {f : α → γ} {g : β → γ} (h : MatchesReordered R xs ys)
    (hfg : ∀ x y, R x y → g y = f x) : (xs.map f).Perm (ys.map g) := by
  obtain ⟨zs, hperm, hmatch⟩ := h
  have heq : zs.map f = ys.map g :=
    map_eq_iff_forall₂.mpr (hmatch.imp fun x y hxy => (hfg x y hxy).symm)
  exact heq ▸ hperm.map f

/-- One item has one order. -/
theorem forall₂_of_length_le_one (h : MatchesReordered R xs ys) (hle : xs.length ≤ 1) :
    List.Forall₂ R xs ys := by
  obtain ⟨zs, hperm, hmatch⟩ := h
  match xs, hle with
  | [], _ => rwa [hperm.symm.eq_nil] at hmatch
  | [x], _ => rwa [List.perm_singleton.mp hperm.symm] at hmatch

end MatchesReordered

/-! ## The last of some items -/

/-- The last item that passes a test is the one that passes and has none behind it that does. -/
theorem getLast?_filter_eq_some_iff {α : Type} {p : α → Bool} {xs : List α} {x : α} :
    (xs.filter p).getLast? = some x ↔
      ∃ before after, xs = before ++ x :: after ∧ p x = true ∧ ∀ y ∈ after, p y = false := by
  rw [List.getLast?_eq_head?_reverse, ← List.filter_reverse, List.head?_filter,
    List.find?_eq_some_iff_append]
  constructor
  · rintro ⟨hx, as, bs, hreverse, has⟩
    refine ⟨bs.reverse, as.reverse, ?_, hx, by simpa using has⟩
    rw [← List.reverse_reverse xs, hreverse]
    simp
  · rintro ⟨before, after, rfl, hx, hafter⟩
    exact ⟨hx, after.reverse, before.reverse, by simp, by simpa using hafter⟩

/-! ## Lists of results -/

section Results

variable {α β ε : Type}

/-- A list of results succeeds with the values of its items. -/
theorem mapM_eq_ok {f : α → Except ε β} {xs : List α} {ys : List β} :
    xs.mapM f = .ok ys ↔ xs.map f = ys.map .ok := by
  induction xs generalizing ys with
  | nil => cases ys <;> simp [pure, Except.pure]
  | cons x xs ih =>
    rw [List.mapM_cons, List.map_cons]
    cases hx : f x with
    | error e => cases ys <;> simp [bind, Except.bind]
    | ok y =>
      cases hxs : xs.mapM f with
      | error e =>
        cases ys with
        | nil => simp [bind, Except.bind]
        | cons z zs => simp [bind, Except.bind, ← ih, hxs]
      | ok zs =>
        cases ys with
        | nil => simp [bind, Except.bind, pure, Except.pure]
        | cons w ws => simp [bind, Except.bind, pure, Except.pure, ← ih, hxs]

theorem mapM_eq_ok_iff_forall₂ {f : α → Except ε β} {xs : List α} {ys : List β} :
    xs.mapM f = .ok ys ↔ List.Forall₂ (fun x y => f x = .ok y) xs ys := by
  rw [mapM_eq_ok, map_eq_iff_forall₂]

theorem exists_mapM_eq_ok {f : α → Except ε β} {xs : List α} (h : ∀ x ∈ xs, ∃ y, f x = .ok y) :
    ∃ ys, xs.mapM f = .ok ys := by
  induction xs with
  | nil => exact ⟨[], rfl⟩
  | cons x xs ih =>
    obtain ⟨y, hy⟩ := h x List.mem_cons_self
    obtain ⟨ys, hys⟩ := ih fun z hz => h z (List.mem_cons_of_mem x hz)
    rw [mapM_eq_ok] at hys
    exact ⟨y :: ys, mapM_eq_ok.mpr (by rw [List.map_cons, List.map_cons, hy, hys])⟩

/-- What is known of a value that a result gives is known of a result that gives one. -/
theorem exists_of_map_toOption {x : Except ε α} {f : α → β} {b : β}
    (h : x.toOption.map f = some b) : ∃ a, x = .ok a ∧ f a = b := by
  cases x with
  | error e => exact absurd h (by simp [Except.toOption])
  | ok a => exact ⟨a, rfl, Option.some.inj h⟩

theorem bind_eq_ok {x : Except ε α} {f : α → Except ε β} {b : β} :
    (x >>= f) = .ok b ↔ ∃ a, x = .ok a ∧ f a = .ok b := by
  cases x <;> simp [bind, Except.bind]

theorem bind_eq_error {x : Except ε α} {f : α → Except ε β} {e : ε} :
    (x >>= f) = .error e ↔ x = .error e ∨ ∃ a, x = .ok a ∧ f a = .error e := by
  cases x <;> simp [bind, Except.bind]

/-- **A list of results fails with the error of the first item that fails.** -/
theorem mapM_eq_error {f : α → Except ε β} {xs : List α} {e : ε} :
    xs.mapM f = .error e ↔ ∃ before x after, xs = before ++ x :: after ∧
      (∀ y ∈ before, ∃ b, f y = .ok b) ∧ f x = .error e := by
  induction xs with
  | nil => simp [pure, Except.pure]
  | cons x xs ih =>
    rw [List.mapM_cons, bind_eq_error]
    constructor
    · rintro (hx | ⟨b, hx, hrest⟩)
      · exact ⟨[], x, xs, rfl, by simp, hx⟩
      · have hxs : xs.mapM f = .error e := by simpa [bind_eq_error, pure, Except.pure] using hrest
        obtain ⟨before, y, after, rfl, hbefore, hy⟩ := ih.mp hxs
        exact ⟨x :: before, y, after, rfl, List.forall_mem_cons.mpr ⟨⟨b, hx⟩, hbefore⟩, hy⟩
    · rintro ⟨before, y, after, hsplit, hbefore, hy⟩
      cases before with
      | nil =>
        obtain ⟨rfl, rfl⟩ := List.cons.inj hsplit
        exact Or.inl hy
      | cons z before =>
        obtain ⟨rfl, rfl⟩ := List.cons.inj hsplit
        obtain ⟨⟨b, hx⟩, hbefore⟩ := List.forall_mem_cons.mp hbefore
        have hxs := ih.mpr ⟨before, y, after, rfl, hbefore, hy⟩
        exact Or.inr ⟨b, hx, by rw [hxs]; rfl⟩

end Results

end ErSchema
