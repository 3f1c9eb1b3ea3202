import Mathlib.Data.List.Basic

/-!
# Readable texts

A way of writing values is readable when a written value can be told, and where it ends, from any
text that goes on behind it in an allowed way. Readable parts make readable wholes, as long as each
part is followed by what may follow it.

* `readable_word`: words end where another character comes.
* `readable_flag`: a piece of text that is there or not.
* `Separates.readable`: items with separators between them.
-/

namespace ErSchema.Text

variable {α : Type}

/-- **A way of writing values is readable**: behind values that are good, with what may follow, the
text gives away the value and the rest. -/
def Readable (Good : α → Prop) (Follows : List Char → Prop) (write : α → List Char) : Prop :=
  ∀ a b r s, Good a → Good b → Follows r → Follows s → write a ++ r = write b ++ s → a = b ∧ r = s

/-! ## Texts apart -/

/-- Whether neither of two texts begins with the other. -/
def Apart (x y : List Char) : Prop := ¬ x <+: y ∧ ¬ y <+: x

instance (x y : List Char) : Decidable (Apart x y) := inferInstanceAs (Decidable (_ ∧ _))

theorem Apart.append_ne {x y : List Char} (h : Apart x y) (r s : List Char) : x ++ r ≠ y ++ s := by
  intro heq
  rcases List.prefix_or_prefix_of_prefix ⟨r, heq⟩ ⟨s, rfl⟩ with hxy | hyx
  · exact h.1 hxy
  · exact h.2 hyx

theorem Apart.not_prefix {x y : List Char} (h : Apart x y) (s : List Char) : ¬ x <+: y ++ s :=
  fun ⟨r, heq⟩ => h.append_ne r s heq

/-- Whether a text does not begin with a character of a kind. -/
def Avoids (p : Char → Bool) (r : List Char) : Prop := ∀ c ∈ r.head?, p c = false

theorem avoids_append {p : Char → Bool} {text : List Char} (h : text.head?.any (!p ·) = true)
    (r : List Char) : Avoids p (text ++ r) := by
  cases text with
  | nil => exact absurd h (by simp)
  | cons x xs =>
    intro c hc
    obtain rfl : x = c := by simpa using hc
    simpa using h

/-! ## Words -/

/-- Whether a character may stand in a word. -/
def isWordChar (c : Char) : Bool := c.isAlphanum || c = '_'

/-- Whether a text is made of letters, digits and underscores, of one at least. -/
def IsWord (s : String) : Prop := s ≠ "" ∧ ∀ c ∈ s.toList, isWordChar c = true

instance (s : String) : Decidable (IsWord s) :=
  decidable_of_iff (s ≠ "" ∧ s.toList.all isWordChar = true) (by simp [IsWord])

/-- **Words are readable.** -/
theorem readable_word : Readable IsWord (Avoids isWordChar) String.toList := by
  intro a b r s ha hb hr hs heq
  have hread : ∀ (w : String) (t : List Char), IsWord w → Avoids isWordChar t →
      (w.toList ++ t).takeWhile isWordChar = w.toList := by
    intro w t hw ht
    rw [List.takeWhile_append_of_pos hw.2]
    cases t with
    | nil => simp
    | cons c t => simp [ht c (by simp)]
  have hwords : a.toList = b.toList := by
    rw [← hread a r ha hr, heq, hread b s hb hs]
  rw [hwords] at heq
  exact ⟨String.toList_inj.mp hwords, List.append_cancel_left heq⟩

theorem not_prefix_word {text : List Char} (htext : text.head?.any (!isWordChar ·) = true)
    {w : String} (hw : IsWord w) (r : List Char) : ¬ text <+: w.toList ++ r := by
  rintro ⟨s, hs⟩
  have hends := avoids_append htext s
  rw [hs] at hends
  cases hlist : w.toList with
  | nil => exact hw.1 (String.toList_inj.mp hlist)
  | cons c cs =>
    have hc := hw.2 c (hlist ▸ List.mem_cons_self)
    rw [hends c (by simp [hlist])] at hc
    exact absurd hc (by simp)

/-! ## Flags -/

/-- A piece of text that is there if a flag is set. -/
def flagged (text : List Char) (flag : Bool) : List Char := if flag then text else []

/-- **A flag is readable** where its text cannot follow it. -/
theorem readable_flag (text : List Char) :
    Readable (fun _ => True) (fun r => ¬ text <+: r) (flagged text) := by
  intro a b r s _ _ hr hs heq
  cases a <;> cases b
  · exact ⟨rfl, heq⟩
  · exact absurd ⟨s, heq.symm⟩ hr
  · exact absurd ⟨r, heq⟩ hs
  · exact ⟨rfl, List.append_cancel_left heq⟩

theorem not_prefix_flagged {text piece r : List Char} (hpiece : Apart text piece)
    (hr : ¬ text <+: r) (flag : Bool) : ¬ text <+: flagged piece flag ++ r := by
  cases flag
  · exact hr
  · exact hpiece.not_prefix r

/-! ## Lists -/

/-- What keeps the items of a list apart from the separator and from what follows the list. -/
structure Separates (Good : α → Prop) (FollowsItem Follows : List Char → Prop) (sep : List Char)
    (write : α → List Char) : Prop where
  item : Readable Good FollowsItem write
  follows_sep : ∀ r, FollowsItem (sep ++ r)
  follows_end : ∀ r, Follows r → FollowsItem r
  /-- What follows the list is not taken for another item. -/
  no_more : ∀ r a s, Follows r → Good a → r ≠ sep ++ (write a ++ s)
  /-- What follows the list is not taken for a first item. -/
  no_first : ∀ r a s, Follows r → Good a → r ≠ write a ++ s

/-- Items that each have the separator before them. -/
def behind (sep : List Char) (write : α → List Char) (as : List α) : List Char :=
  as.flatMap fun a => sep ++ write a

variable {Good : α → Prop} {FollowsItem Follows : List Char → Prop} {sep : List Char}
  {write : α → List Char}

theorem behind_cons_append (a : α) (as : List α) (r : List Char) :
    behind sep write (a :: as) ++ r = sep ++ (write a ++ (behind sep write as ++ r)) := by
  simp [behind]

theorem intercalate_cons_append (a : α) (as : List α) (r : List Char) :
    sep.intercalate ((a :: as).map write) ++ r = write a ++ (behind sep write as ++ r) := by
  induction as generalizing a with
  | nil => simp [behind]
  | cons b bs ih =>
    rw [List.map_cons, List.map_cons, List.intercalate_cons_cons, ← List.map_cons,
      List.append_assoc, List.append_assoc, ih, behind_cons_append]

namespace Separates

/-- A list that a closing text stops. -/
theorem of_stop {p : Char → Bool} {stop : List Char} (item : Readable Good (Avoids p) write)
    (hsep : sep.head?.any (!p ·) = true) (hstop : stop.head?.any (!p ·) = true)
    (hapart : Apart stop sep) (hfirst : ∀ a r, Good a → ¬ stop <+: write a ++ r) :
    Separates Good (Avoids p) (stop <+: ·) sep write where
  item := item
  follows_sep := avoids_append hsep
  follows_end := by
    rintro _ ⟨r, rfl⟩
    exact avoids_append hstop r
  no_more := by
    rintro _ a s ⟨r, rfl⟩ _
    exact hapart.append_ne r _
  no_first := by
    rintro _ a s ⟨r, rfl⟩ ha heq
    exact hfirst a s ha ⟨r, heq⟩

theorem follows_behind (h : Separates Good FollowsItem Follows sep write) (as : List α)
    {r : List Char} (hr : Follows r) : FollowsItem (behind sep write as ++ r) := by
  cases as with
  | nil => exact h.follows_end r hr
  | cons a as =>
    rw [behind_cons_append]
    exact h.follows_sep _

/-- Behind an item there is another one, or what follows the list. -/
theorem readable_behind (h : Separates Good FollowsItem Follows sep write) :
    Readable (fun as => ∀ a ∈ as, Good a) Follows (behind sep write) := by
  intro as
  induction as with
  | nil =>
    intro bs r s _ hb hr _ heq
    cases bs with
    | nil => exact ⟨rfl, heq⟩
    | cons b bs =>
      rw [behind_cons_append] at heq
      exact absurd heq (h.no_more r b _ hr (hb b List.mem_cons_self))
  | cons a as ih =>
    intro bs r s ha hb hr hs heq
    rw [behind_cons_append] at heq
    cases bs with
    | nil => exact absurd heq.symm (h.no_more s a _ hs (ha a List.mem_cons_self))
    | cons b bs =>
      rw [behind_cons_append] at heq
      obtain ⟨ha, has⟩ := List.forall_mem_cons.mp ha
      obtain ⟨hb, hbs⟩ := List.forall_mem_cons.mp hb
      obtain ⟨rfl, hrest⟩ := h.item a b _ _ ha hb (h.follows_behind as hr)
        (h.follows_behind bs hs) (List.append_cancel_left heq)
      obtain ⟨rfl, rfl⟩ := ih bs r s has hbs hr hs hrest
      exact ⟨rfl, rfl⟩

/-- **Lists are readable** if their items are kept apart. -/
theorem readable (h : Separates Good FollowsItem Follows sep write) :
    Readable (fun as => ∀ a ∈ as, Good a) Follows
      fun as : List α => sep.intercalate (as.map write) := by
  intro as bs r s ha hb hr hs heq
  cases as with
  | nil =>
    cases bs with
    | nil => exact ⟨rfl, heq⟩
    | cons b bs =>
      rw [intercalate_cons_append] at heq
      exact absurd heq (h.no_first r b _ hr (hb b List.mem_cons_self))
  | cons a as =>
    rw [intercalate_cons_append] at heq
    cases bs with
    | nil => exact absurd heq.symm (h.no_first s a _ hs (ha a List.mem_cons_self))
    | cons b bs =>
      rw [intercalate_cons_append] at heq
      obtain ⟨ha, has⟩ := List.forall_mem_cons.mp ha
      obtain ⟨hb, hbs⟩ := List.forall_mem_cons.mp hb
      obtain ⟨rfl, hrest⟩ := h.item a b _ _ ha hb (h.follows_behind as hr)
        (h.follows_behind bs hs) heq
      obtain ⟨rfl, rfl⟩ := h.readable_behind as bs r s has hbs hr hs hrest
      exact ⟨rfl, rfl⟩

end Separates

end ErSchema.Text
