import ErSchema.Json.Render
import ErSchema.Proofs.Json.Records
import Mathlib.Data.List.Forall2

/-!
# What is written is a document

The compact text of a value is the text of a document: a `Tree` is given beside the value, and the
two texts agree part by part. A record is written as an object of all its fields under their labels,
which holds what a list of their values does.

* `text?_literalOf`: a written text stands for itself.
* `text_list`, `text_object`: lists and objects are written part by part.
* `Record.tree?_written`: an object of all fields holds the record that a list of their values does.
-/

namespace ErSchema.Json

variable {α β : Type}

/-! ## Strings -/

theorem fourDigits?_control : ∀ n < 32,
    fourDigits? ['0', '0', Nat.digitChar (n / 16), Nat.digitChar (n % 16)] = some n := by
  decide

/-- A character as it is written: the quote, the backslash and the controls with an escape, and
every other as it is. -/
def pieceOf (c : Char) : Piece :=
  if hquote : c = '\"' then .letter '\"' '\"' rfl
  else if hback : c = '\\' then .letter '\\' '\\' rfl
  else if c = '\x08' then .letter 'b' '\x08' rfl
  else if c = '\t' then .letter 't' '\t' rfl
  else if c = '\n' then .letter 'n' '\n' rfl
  else if c = '\x0c' then .letter 'f' '\x0c' rfl
  else if c = '\r' then .letter 'r' '\r' rfl
  else if hcontrol : c.toNat < 32 then
    .code '0' '0' (Nat.digitChar (c.toNat / 16)) (Nat.digitChar (c.toNat % 16)) c.toNat
      (fourDigits?_control c.toNat hcontrol)
  else .plain c ⟨hquote, hback, hcontrol⟩

/-- A text as it is written. -/
def literalOf (s : String) : Literal := ⟨s.toList.map pieceOf⟩

theorem text_pieceOf (c : Char) : (pieceOf c).text = escapedChar c := by
  unfold pieceOf escapedChar
  repeat' split
  all_goals rfl

theorem body_literalOf (s : String) : '\"' :: (literalOf s).body = stringText s := by
  simp [Literal.body, literalOf, stringText, List.flatMap_map, text_pieceOf]

/-- A written character stands for itself: no control is half of a pair. -/
theorem chars?_pieceOf (c : Char) (ps : List Piece) :
    chars? (pieceOf c :: ps) = (chars? ps).map (c :: ·) := by
  unfold pieceOf
  repeat' split
  iterate 7
    · rename_i h
      subst h
      rfl
  · rename_i hcontrol
    have hlow : isLowSurrogate c.toNat = false := by simp [isLowSurrogate]; omega
    have hhigh : isHighSurrogate c.toNat = false := by simp [isHighSurrogate]; omega
    conv_lhs => unfold chars?
    simp only [hlow, hhigh, Char.ofNat_toNat, Bool.false_eq_true, if_false]
  · rfl

theorem chars?_map_pieceOf (cs : List Char) : chars? (cs.map pieceOf) = some cs := by
  induction cs with
  | nil => rfl
  | cons c cs ih => rw [List.map_cons, chars?_pieceOf, ih, Option.map_some]

/-- **A written text stands for itself.** -/
theorem text?_literalOf (s : String) : (literalOf s).text? = some s := by
  simp [Literal.text?, literalOf, chars?_map_pieceOf]

/-! ## Values -/

/-- The document of a text. -/
def textTree (s : String) : Tree := .scalar (.string (literalOf s))

/-- The document of a boolean. -/
def booleanTree (b : Bool) : Tree := .scalar (.boolean b)

theorem text_textTree (s : String) : (textTree s).text = compactText (.string s) := by
  simp [textTree, Tree.text, Tree.tokens, Token.text, Scalar.text, compactText, body_literalOf]

theorem text_booleanTree (b : Bool) : (booleanTree b).text = compactText (.boolean b) := by
  cases b <;> rfl

theorem flatMap_separated_items {ts : List Tree} {vs : List Json}
    (h : List.Forall₂ (fun t v => t.text = compactText v) ts vs) :
    (separated .closeList (ts.map Tree.tokens)).flatMap Token.text =
      compactItems vs ++ [']'] := by
  induction h with
  | nil => rfl
  | cons htv _ ih =>
    simp only [Tree.text] at htv
    simp [separated, compactItems, Token.text, Mark.char, htv, ih]

/-- **A list is written as the list of what is written for its items.** -/
theorem text_list {ts : List Tree} {vs : List Json}
    (h : List.Forall₂ (fun t v => t.text = compactText v) ts vs) :
    (Tree.list ts).text = compactText (.array vs) := by
  rw [Tree.text, Tree.tokens, itemTokens_eq_map]
  cases h with
  | nil => rfl
  | cons htv hrest =>
    have hitems := flatMap_separated_items hrest
    simp only [Tree.text] at htv
    simp [enclosed, compactText, Token.text, Mark.char, htv, hitems]

theorem text_list_map {tree : α → Tree} {value : α → Json}
    (h : ∀ a, (tree a).text = compactText (value a)) (as : List α) :
    (Tree.list (as.map tree)).text = compactText (.array (as.map value)) := by
  refine text_list ?_
  rw [List.forall₂_map_left_iff, List.forall₂_map_right_iff, List.forall₂_same]
  exact fun a _ => h a

theorem flatMap_separated_members {ms : List (Literal × Tree)} {ps : List (String × Json)}
    (h : List.Forall₂ (fun m p => m.1 = literalOf p.1 ∧ m.2.text = compactText p.2) ms ps) :
    (separated .closeObject
      (ms.map fun m => .scalar (.string m.1) :: .mark .colon :: m.2.tokens)).flatMap Token.text =
      compactMembers ps ++ ['}'] := by
  induction h with
  | nil => rfl
  | @cons m p _ _ hmp _ ih =>
    obtain ⟨hkey, hvalue⟩ := hmp
    simp only [Tree.text] at hvalue
    simp [separated, compactMembers, Token.text, Scalar.text, Mark.char, hkey, hvalue, ih,
      ← body_literalOf]

/-- **An object is written as the object of what is written for its members.** -/
theorem text_object {ms : List (Literal × Tree)} {ps : List (String × Json)}
    (h : List.Forall₂ (fun m p => m.1 = literalOf p.1 ∧ m.2.text = compactText p.2) ms ps) :
    (Tree.object ms).text = compactText (.object ps) := by
  rw [Tree.text, Tree.tokens, memberTokens_eq_map]
  cases h with
  | nil => rfl
  | @cons m p _ _ hmp hrest =>
    obtain ⟨hkey, hvalue⟩ := hmp
    have hmembers := flatMap_separated_members hrest
    simp only [Tree.text] at hvalue
    simp [enclosed, compactText, Token.text, Scalar.text, Mark.char, hkey, hvalue, hmembers,
      ← body_literalOf]

/-! ## Records -/

namespace Record

/-- The members of an object, each under the label of its field. -/
def labelled (fs : List (Field α)) (vs : List Tree) : List (Literal × Tree) :=
  (fs.zip vs).map fun m => (literalOf m.1.label, m.2)

/-- An object of all fields in their order. -/
def written (rec : Record α) (vs : List Tree) : Tree := .object (labelled rec.fields vs)

variable {rec : Record α}

theorem named?_literalOf {k : String} {f : Field α} (h : rec.field? k = some f) :
    rec.named? (literalOf k) = some f := by
  simp [named?, text?_literalOf, h]

/-- Members of fields that have not been seen put what items of a list do. -/
theorem foldlM_labelled (hkeys : rec.KeysApart) {fs : List (Field α)} (hfs : fs ⊆ rec.fields)
    (hlabels : (fs.map (·.label)).Nodup) {vs : List Tree} (hlength : vs.length = fs.length)
    {d : Draft α} (hnew : ∀ f ∈ fs, f.label ∉ d.seen)
    (hseen : ∀ f ∈ rec.fields, f ∈ fs ∨ f.label ∈ d.seen) :
    ((labelled fs vs).foldlM rec.member? d).bind rec.finish? = elements? fs vs d.record := by
  induction fs generalizing vs d with
  | nil =>
    obtain rfl := List.length_eq_zero_iff.mp hlength
    have hcomplete : ∀ f ∈ rec.fields, f.required = true → f.label ∈ d.seen :=
      fun f hf _ => by simpa using hseen f hf
    simpa [labelled, finish?, elements?] using hcomplete
  | cons f fs ih =>
    obtain ⟨v, vs, rfl⟩ := List.exists_cons_of_length_eq_add_one hlength
    obtain ⟨hfirst, hrest⟩ := List.nodup_cons.mp (List.map_cons ▸ hlabels)
    have hnamed := named?_literalOf (hkeys.field?_label (hfs List.mem_cons_self))
    rw [show labelled (f :: fs) (v :: vs) = (literalOf f.label, v) :: labelled fs vs from rfl,
      List.foldlM_cons, member?_of_named hnamed, if_neg (hnew f List.mem_cons_self), elements?]
    cases f.put? v d.record with
    | none => rfl
    | some a =>
      refine ih (List.subset_of_cons_subset hfs) hrest (Nat.succ.inj hlength) ?_ ?_
      · intro g hg
        simp only [List.mem_cons, not_or]
        exact ⟨fun h => hfirst (h ▸ List.mem_map_of_mem hg), hnew g (List.mem_cons_of_mem f hg)⟩
      · intro g hg
        rcases hseen g hg with hmem | hmem
        · rcases List.mem_cons.mp hmem with rfl | hmem
          · exact Or.inr List.mem_cons_self
          · exact Or.inl hmem
        · exact Or.inr (List.mem_cons_of_mem _ hmem)

/-- **An object of all fields holds the record that a list of their values does.** -/
theorem tree?_written (hkeys : rec.KeysApart) {vs : List Tree}
    (hlength : vs.length = rec.fields.length) :
    rec.tree? (rec.written vs) = elements? rec.fields vs rec.blank :=
  foldlM_labelled hkeys (List.Subset.refl _) hkeys.labels hlength
    (fun _ _ => List.not_mem_nil) fun _ hf => Or.inl hf

end Record

theorem list?_map {read : Tree → Option α} {tree : α → Tree} (h : ∀ a, read (tree a) = some a)
    (as : List α) : (Tree.list (as.map tree)).list? read = some as := by
  rw [Tree.list?]
  induction as with
  | nil => rfl
  | cons a as ih => rw [List.map_cons, List.mapM_cons, h, ih]; rfl

theorem on_textTree (s : String) : Reader.text.on (textTree s) = some s := by
  rw [(text_reads _).on_eq]
  exact text?_literalOf s

theorem on_booleanTree (b : Bool) : Reader.boolean.on (booleanTree b) = some b :=
  (boolean_reads _).on_eq

theorem on_list_map {item : Reader α} (hitem : item.Faithful) {tree : α → Tree}
    (h : ∀ a, item.on (tree a) = some a) (as : List α) :
    (Reader.list item).on (.list (as.map tree)) = some as := by
  rw [(list_reads hitem _).on_eq]
  exact list?_map h as

end ErSchema.Json
