import ErSchema.Proofs.Text.Ordering
import Mathlib.Data.List.Basic

/-!
# Folding under any tables of characters

Folding reads three things of a character: its decomposition, its class, and whether it is a mark.
The tables of these grow from edition to edition, but in each of them the characters that can be
moved are marks and decompositions are full. Nothing else is needed for the laws of folding. They
are proved here for any such tables and for any way to bring a text into canonical order, since what
is left of a text without its marks does not see that order.

* `CharacterData.Folds`: what folding gives, told by exchanges.
* `CharacterData.toList_of_folds`: it is given character by character.
* `CharacterData.LawfulFold`: the laws of folding, which hold of everything that folds
  (`CharacterData.lawfulFold`).
-/

namespace ErSchema.Text

/-- What folding reads of the characters, with what holds of it in every edition of the tables. -/
structure CharacterData where
  /-- The full canonical decomposition of a character. -/
  decompose : Char → List Char
  /-- The canonical combining class of a character. -/
  combiningClass : Char → Nat
  /-- Whether a character is of category Mn, Mc or Me. -/
  isMark : Char → Bool
  /-- A character that can be moved is a mark. -/
  isMark_of_moved : ∀ {c : Char}, combiningClass c ≠ 0 → isMark c = true
  /-- What a decomposition consists of does not decompose. -/
  decompose_of_mem : ∀ {c x : Char}, x ∈ decompose c → decompose x = [x]

namespace CharacterData

variable (D : CharacterData)

/-- A text with its characters decomposed, before any of them is moved. -/
def decomposed (cs : List Char) : List Char := cs.flatMap D.decompose

/-- A text without its marks. -/
def withoutMarks (cs : List Char) : List Char := cs.filter fun c => !D.isMark c

/-- **Normal form D of a text**: its characters decomposed and brought into canonical order. -/
def IsNormalForm (cs ds : List Char) : Prop :=
  Exchanges D.combiningClass (D.decomposed cs) ds ∧ IsOrdered D.combiningClass ds

/-- Whether `t` is what is left of normal form D of `s` without its marks. -/
def Folds (s t : String) : Prop :=
  ∃ ds, D.IsNormalForm s.toList ds ∧ t.toList = D.withoutMarks ds

/-- **The laws of folding.** -/
structure LawfulFold (fold : String → String) : Prop where
  empty : fold "" = ""
  append (a b : String) : fold (a ++ b) = fold a ++ fold b
  idempotent (a : String) : fold (fold a) = fold a
  noMarks (a : String) : ∀ c ∈ (fold a).toList, D.isMark c = false
  /-- Each character is folded by itself. -/
  byCharacter (a : String) :
    (fold a).toList = a.toList.flatMap fun c => D.withoutMarks (D.decompose c)
  /-- The marks may be dropped before, during or after reordering. -/
  inAnyOrder (a : String) {ds : List Char}
    (h : Exchanges D.combiningClass (D.decomposed a.toList) ds) :
    (fold a).toList = D.withoutMarks ds

variable {D}

/-- What is left without the marks does not see exchanges. -/
theorem withoutMarks_eq_of_exchanges {cs ds : List Char} (h : Exchanges D.combiningClass cs ds) :
    D.withoutMarks cs = D.withoutMarks ds :=
  filter_eq_of_exchanges (fun hc => by simp [D.isMark_of_moved hc]) h

theorem withoutMarks_decomposed (cs : List Char) :
    D.withoutMarks (D.decomposed cs) = cs.flatMap fun c => D.withoutMarks (D.decompose c) :=
  List.filter_flatMap

/-- **Folding goes character by character.** -/
theorem toList_of_folds {s t : String} (h : D.Folds s t) :
    t.toList = s.toList.flatMap fun c => D.withoutMarks (D.decompose c) := by
  obtain ⟨ds, ⟨hexchanges, -⟩, ht⟩ := h
  rw [ht, ← withoutMarks_eq_of_exchanges hexchanges, withoutMarks_decomposed]

theorem not_isMark_of_mem {cs : List Char} {x : Char} (hx : x ∈ D.withoutMarks cs) :
    D.isMark x = false := by
  simpa using List.of_mem_filter hx

/-- What is left of a character folds to itself. -/
theorem withoutMarks_decompose_of_mem {c x : Char} (hx : x ∈ D.withoutMarks (D.decompose c)) :
    D.withoutMarks (D.decompose x) = [x] := by
  rw [D.decompose_of_mem (List.mem_of_mem_filter hx)]
  simp [withoutMarks, not_isMark_of_mem hx]

/-- **Everything that folds keeps the laws.** -/
theorem lawfulFold {fold : String → String} (h : ∀ s, D.Folds s (fold s)) : D.LawfulFold fold := by
  have hchars : ∀ a, (fold a).toList = a.toList.flatMap fun c => D.withoutMarks (D.decompose c) :=
    fun a => toList_of_folds (h a)
  constructor
  case empty => rw [← String.toList_inj, hchars]; rfl
  case append =>
    intro a b
    rw [← String.toList_inj, String.toList_append, hchars, hchars, hchars, String.toList_append,
      List.flatMap_append]
  case idempotent =>
    intro a
    have hfixed : ∀ x ∈ (fold a).toList, D.withoutMarks (D.decompose x) = [x] := by
      intro x hx
      rw [hchars] at hx
      obtain ⟨c, -, hxc⟩ := List.mem_flatMap.mp hx
      exact withoutMarks_decompose_of_mem hxc
    rw [← String.toList_inj, hchars, List.flatMap_congr hfixed, List.flatMap_singleton']
  case noMarks =>
    intro a x hx
    obtain ⟨ds, -, ha⟩ := h a
    rw [ha] at hx
    exact not_isMark_of_mem hx
  case byCharacter => exact hchars
  case inAnyOrder =>
    intro a ds hexchanges
    rw [hchars, ← withoutMarks_decomposed, withoutMarks_eq_of_exchanges hexchanges]

end CharacterData

end ErSchema.Text
