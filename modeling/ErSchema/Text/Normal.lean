import ErSchema.Text.CombiningClass
import ErSchema.Text.Decomposition

/-!
# Normal form D

A text is in normal form D when every character is decomposed and, in each run of characters of a
class other than 0, the classes do not descend. `reorder` brings a text into that order: it moves
each such character to the left past those of a greater class, and keeps the rest where it was.

* `reorder_perm`: ordering moves characters and loses none.
-/

namespace ErSchema.Text

/-- Puts `c` behind the last character of an ordered run whose class is not greater. -/
def insertByClass (c : Char) : List Char → List Char
  | [] => [c]
  | d :: run =>
    if combiningClass d ≤ combiningClass c then d :: insertByClass c run else c :: d :: run

/-- Orders a text; `run` is the ordered run of marks that stands right before it. -/
def reorderFrom (run : List Char) : List Char → List Char
  | [] => run
  | c :: cs =>
    if combiningClass c = 0 then run ++ c :: reorderFrom [] cs
    else reorderFrom (insertByClass c run) cs

/-- A text with every run of marks in canonical order. -/
def reorder (cs : List Char) : List Char := reorderFrom [] cs

/-- Normal form D of a text. -/
def normalD (cs : List Char) : List Char := reorder (decomposeAll cs)

/-! ## Lemmas -/

theorem insertByClass_perm (c : Char) (run : List Char) :
    (insertByClass c run).Perm (c :: run) := by
  induction run with
  | nil => exact .refl _
  | cons d run ih =>
    simp only [insertByClass]
    split
    · exact (ih.cons d).trans (.swap c d run)
    · exact .refl _

theorem reorderFrom_perm (run cs : List Char) : (reorderFrom run cs).Perm (run ++ cs) := by
  induction cs generalizing run with
  | nil => simp [reorderFrom]
  | cons c cs ih =>
    simp only [reorderFrom]
    split
    · exact List.Perm.append_left run ((ih []).cons c)
    · exact (ih _).trans (((insertByClass_perm c run).append_right cs).trans
        List.perm_middle.symm)

theorem reorder_perm (cs : List Char) : (reorder cs).Perm cs :=
  reorderFrom_perm [] cs

end ErSchema.Text
