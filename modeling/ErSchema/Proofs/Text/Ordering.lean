import ErSchema.Text.Normal
import Mathlib.Data.List.Chain
import Mathlib.Logic.Relation

/-!
# Canonical order

Two neighbours descend when the second is of a class other than 0 and the first of a greater one.
Putting a text in canonical order is exchanging neighbours that descend until none are left. An
exchange moves no character of class 0, and all ways of exchanging come to the same end, which is
what `reorder` gives.

* `filter_eq_of_exchanges`: characters of class 0 do not see exchanges.
* `exchanges_reorder`, `isOrdered_reorder`: `reorder` exchanges until no neighbours descend.
* `reorder_eq_of_exchanges`, `reorder_append`: exchanges made before it change nothing.
* `eq_reorder_iff`: the ordered text that exchanges lead to is the only one.
-/

namespace ErSchema.Text

/-! ## Exchanges -/

section Exchanges

variable (cls : Char → Nat)

/-- Whether `c` right before `d` has to change places with it. -/
def Descends (c d : Char) : Prop := cls d ≠ 0 ∧ cls d < cls c

/-- One exchange of neighbours that descend. -/
inductive Exchange : List Char → List Char → Prop
  | swap {c d : Char} (h : Descends cls c d) (before after : List Char) :
      Exchange (before ++ c :: d :: after) (before ++ d :: c :: after)

/-- Any number of exchanges, one after the other. -/
abbrev Exchanges : List Char → List Char → Prop := Relation.ReflTransGen (Exchange cls)

/-- Whether no neighbours descend. -/
def IsOrdered (cs : List Char) : Prop := cs.IsChain fun c d => ¬ Descends cls c d

variable {cls}

theorem Exchange.within {cs ds : List Char} (h : Exchange cls cs ds) (before after : List Char) :
    Exchange cls (before ++ cs ++ after) (before ++ ds ++ after) := by
  cases h with
  | swap h front back =>
    have hswap := Exchange.swap h (before ++ front) (back ++ after)
    simpa only [List.append_assoc, List.cons_append] using hswap

/-- Exchanges can be made inside a longer text. -/
theorem exchanges_within {cs ds : List Char} (h : Exchanges cls cs ds) (before after : List Char) :
    Exchanges cls (before ++ cs ++ after) (before ++ ds ++ after) :=
  h.lift (fun xs => before ++ xs ++ after) fun _ _ hstep => hstep.within before after

theorem Exchange.filter_eq {p : Char → Bool} (hp : ∀ {c}, cls c ≠ 0 → p c = false)
    {cs ds : List Char} (h : Exchange cls cs ds) : cs.filter p = ds.filter p := by
  cases h with
  | @swap c d h before after =>
    have hc : p c = false := hp (Nat.ne_of_gt (Nat.zero_lt_of_lt h.2))
    have hd : p d = false := hp h.1
    simp [List.filter_append, hc, hd]

/-- **What is left without the characters that can be moved** does not see exchanges. -/
theorem filter_eq_of_exchanges {p : Char → Bool} (hp : ∀ {c}, cls c ≠ 0 → p c = false)
    {cs ds : List Char} (h : Exchanges cls cs ds) : cs.filter p = ds.filter p := by
  induction h with
  | refl => rfl
  | tail _ hstep ih => exact ih.trans (hstep.filter_eq hp)

/-- A character moves to the front of a text of greater classes. -/
theorem exchanges_to_front {c : Char} (hc : cls c ≠ 0) {run : List Char}
    (hrun : ∀ d ∈ run, cls c < cls d) : Exchanges cls (run ++ [c]) (c :: run) := by
  induction run with
  | nil => exact .refl
  | cons d run ih =>
    have hrest : Exchanges cls (d :: (run ++ [c])) (d :: c :: run) := by
      simpa using exchanges_within (ih fun x hx => hrun x (List.mem_cons_of_mem d hx)) [d] []
    exact hrest.tail (.swap ⟨hc, hrun d List.mem_cons_self⟩ [] run)

end Exchanges

/-! ## Runs -/

/-- An ordered run of characters that can be moved. -/
structure IsRun (run : List Char) : Prop where
  moved : ∀ d ∈ run, combiningClass d ≠ 0
  ascends : run.Pairwise fun c d => combiningClass c ≤ combiningClass d

theorem isRun_nil : IsRun [] := ⟨fun _ h => absurd h List.not_mem_nil, .nil⟩

theorem IsRun.tail {d : Char} {run : List Char} (h : IsRun (d :: run)) : IsRun run :=
  ⟨fun x hx => h.moved x (List.mem_cons_of_mem d hx), h.ascends.of_cons⟩

theorem IsRun.isOrdered {run : List Char} (h : IsRun run) : IsOrdered combiningClass run :=
  List.Pairwise.isChain
    (h.ascends.imp fun {_ _} hle (hdesc : Descends _ _ _) => Nat.not_le_of_lt hdesc.2 hle)

theorem mem_insertByClass {c x : Char} {run : List Char} :
    x ∈ insertByClass c run ↔ x = c ∨ x ∈ run := by
  rw [(insertByClass_perm c run).mem_iff, List.mem_cons]

theorem isRun_insertByClass {c : Char} (hc : combiningClass c ≠ 0) {run : List Char}
    (h : IsRun run) : IsRun (insertByClass c run) := by
  refine ⟨fun x hx => ?_, ?_⟩
  · rcases mem_insertByClass.mp hx with rfl | hx
    · exact hc
    · exact h.moved x hx
  · induction run with
    | nil => exact List.pairwise_singleton _ _
    | cons d run ih =>
      obtain ⟨hd, -⟩ := List.pairwise_cons.mp h.ascends
      rw [insertByClass]
      split
      · rename_i hle
        refine List.pairwise_cons.mpr ⟨fun x hx => ?_, ih h.tail⟩
        rcases mem_insertByClass.mp hx with rfl | hx
        · exact hle
        · exact hd x hx
      · rename_i hlt
        refine List.pairwise_cons.mpr ⟨fun x hx => ?_, h.ascends⟩
        rcases List.mem_cons.mp hx with rfl | hx
        · omega
        · have := hd x hx
          omega

/-- A character behind a run is exchanged up to its place. -/
theorem exchanges_insertByClass {c : Char} (hc : combiningClass c ≠ 0) {run : List Char}
    (h : IsRun run) : Exchanges combiningClass (run ++ [c]) (insertByClass c run) := by
  induction run with
  | nil => exact .refl
  | cons d run ih =>
    rw [insertByClass]
    split
    · simpa using exchanges_within (ih h.tail) [d] []
    · rename_i hlt
      refine exchanges_to_front hc fun x hx => ?_
      rcases List.mem_cons.mp hx with rfl | hx
      · omega
      · have := (List.pairwise_cons.mp h.ascends).1 x hx
        omega

/-! ## Reordering -/

theorem exchanges_reorderFrom {run : List Char} (hrun : IsRun run) (cs : List Char) :
    Exchanges combiningClass (run ++ cs) (reorderFrom run cs) := by
  induction cs generalizing run with
  | nil =>
    rw [reorderFrom, List.append_nil]
  | cons c cs ih =>
    rw [reorderFrom]
    split
    · simpa using exchanges_within (ih isRun_nil) (run ++ [c]) []
    · rename_i hc
      have hplace : Exchanges combiningClass (run ++ c :: cs) (insertByClass c run ++ cs) := by
        simpa using exchanges_within (exchanges_insertByClass hc hrun) [] cs
      exact hplace.trans (ih (isRun_insertByClass hc hrun))

theorem isOrdered_reorderFrom {run : List Char} (hrun : IsRun run) (cs : List Char) :
    IsOrdered combiningClass (reorderFrom run cs) := by
  induction cs generalizing run with
  | nil => exact hrun.isOrdered
  | cons c cs ih =>
    rw [reorderFrom]
    split
    · rename_i hc
      -- A character of class 0 descends neither from what stands before it nor to what is behind.
      have hbehind : IsOrdered combiningClass (c :: reorderFrom [] cs) :=
        List.isChain_cons.mpr
          ⟨fun d _ hdesc => Nat.not_lt_zero _ (hc ▸ hdesc.2), ih isRun_nil⟩
      refine List.isChain_append.mpr ⟨hrun.isOrdered, hbehind, fun x _ y hy hdesc => ?_⟩
      obtain rfl : c = y := by simpa using hy
      exact hdesc.1 hc
    · rename_i hc
      exact ih (isRun_insertByClass hc hrun)

/-- **Reordering is exchanging neighbours that descend.** -/
theorem exchanges_reorder (cs : List Char) : Exchanges combiningClass cs (reorder cs) :=
  exchanges_reorderFrom isRun_nil cs

/-- **After reordering no neighbours descend.** -/
theorem isOrdered_reorder (cs : List Char) : IsOrdered combiningClass (reorder cs) :=
  isOrdered_reorderFrom isRun_nil cs

/-! ## One end only -/

/-- Characters of different classes find the same places in either turn. -/
theorem insertByClass_comm {c d : Char} (h : combiningClass d < combiningClass c)
    (run : List Char) :
    insertByClass d (insertByClass c run) = insertByClass c (insertByClass d run) := by
  induction run with
  | nil => simp [insertByClass, Nat.le_of_lt h, Nat.not_le_of_lt h]
  | cons e run ih =>
    by_cases hd : combiningClass e ≤ combiningClass d
    · have hc : combiningClass e ≤ combiningClass c := Nat.le_trans hd (Nat.le_of_lt h)
      simp [insertByClass, hd, hc, ih]
    · by_cases hc : combiningClass e ≤ combiningClass c
      · simp [insertByClass, hd, hc, Nat.le_of_lt h]
      · simp [insertByClass, hd, hc, Nat.le_of_lt h, Nat.not_le_of_lt h]

theorem reorderFrom_exchange {c d : Char} (h : Descends combiningClass c d)
    (run before after : List Char) :
    reorderFrom run (before ++ c :: d :: after) = reorderFrom run (before ++ d :: c :: after) := by
  induction before generalizing run with
  | nil =>
    have hc : combiningClass c ≠ 0 := Nat.ne_of_gt (Nat.zero_lt_of_lt h.2)
    simp only [List.nil_append, reorderFrom, if_neg hc, if_neg h.1, insertByClass_comm h.2]
  | cons x before ih =>
    simp only [List.cons_append, reorderFrom]
    split
    · rw [ih]
    · exact ih _

/-- **Exchanges before reordering** change nothing. -/
theorem reorder_eq_of_exchanges {cs ds : List Char} (h : Exchanges combiningClass cs ds) :
    reorder cs = reorder ds := by
  induction h with
  | refl => rfl
  | tail _ hstep ih =>
    cases hstep with
    | swap h before after => exact ih.trans (reorderFrom_exchange h [] before after)

/-- **Texts behind each other** may be reordered before they are put together. -/
theorem reorder_append (cs ds : List Char) :
    reorder (cs ++ ds) = reorder (reorder cs ++ reorder ds) := by
  refine reorder_eq_of_exchanges ?_
  have hfirst : Exchanges combiningClass (cs ++ ds) (reorder cs ++ ds) :=
    exchanges_within (exchanges_reorder cs) [] ds
  have hsecond : Exchanges combiningClass (reorder cs ++ ds) (reorder cs ++ reorder ds) := by
    simpa using exchanges_within (exchanges_reorder ds) (reorder cs) []
  exact hfirst.trans hsecond

theorem insertByClass_eq_append {c : Char} {run : List Char}
    (h : ∀ d ∈ run, combiningClass d ≤ combiningClass c) : insertByClass c run = run ++ [c] := by
  induction run with
  | nil => rfl
  | cons d run ih =>
    rw [insertByClass, if_pos (h d List.mem_cons_self),
      ih fun x hx => h x (List.mem_cons_of_mem d hx), List.cons_append]

/-- What stands behind a run in an ordered text is of no smaller class, if it can be moved. -/
theorem IsRun.le_of_isOrdered {run : List Char} (hrun : IsRun run) {c : Char}
    (hc : combiningClass c ≠ 0) {cs : List Char} (h : IsOrdered combiningClass (run ++ c :: cs)) :
    ∀ d ∈ run, combiningClass d ≤ combiningClass c := by
  intro d hd
  obtain ⟨front, last, rfl⟩ :=
    (List.eq_nil_or_concat' run).resolve_left (List.ne_nil_of_mem hd)
  have hlast : ¬ Descends combiningClass last c :=
    (List.isChain_append.mp h).2.2 last (by simp) c (by simp)
  have hle : combiningClass last ≤ combiningClass c :=
    Nat.le_of_not_lt fun hlt => hlast ⟨hc, hlt⟩
  rcases List.mem_append.mp hd with hd | hd
  · exact Nat.le_trans ((List.pairwise_append.mp hrun.ascends).2.2 d hd last (by simp)) hle
  · obtain rfl := List.mem_singleton.mp hd
    exact hle

theorem reorderFrom_eq_append {run cs : List Char} (hrun : IsRun run)
    (h : IsOrdered combiningClass (run ++ cs)) : reorderFrom run cs = run ++ cs := by
  induction cs generalizing run with
  | nil => rw [reorderFrom, List.append_nil]
  | cons c cs ih =>
    by_cases hc : combiningClass c = 0
    · have hrest : IsOrdered combiningClass cs := (List.isChain_append.mp h).2.1.tail
      rw [reorderFrom, if_pos hc, ih isRun_nil hrest, List.nil_append]
    · have hplace := insertByClass_eq_append (hrun.le_of_isOrdered hc h)
      have hnext := isRun_insertByClass hc hrun
      rw [hplace] at hnext
      rw [reorderFrom, if_neg hc, hplace, ih hnext (by simpa using h)]
      simp

/-- An ordered text is left alone. -/
theorem reorder_eq_self {cs : List Char} (h : IsOrdered combiningClass cs) : reorder cs = cs :=
  reorderFrom_eq_append isRun_nil h

/-- **The ordered text that exchanges lead to** is the only one. -/
theorem eq_reorder_iff {cs ds : List Char} :
    ds = reorder cs ↔ Exchanges combiningClass cs ds ∧ IsOrdered combiningClass ds := by
  constructor
  · rintro rfl
    exact ⟨exchanges_reorder cs, isOrdered_reorder cs⟩
  · rintro ⟨hexchanges, hordered⟩
    rw [reorder_eq_of_exchanges hexchanges, reorder_eq_self hordered]

end ErSchema.Text
