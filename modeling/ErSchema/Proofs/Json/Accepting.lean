import ErSchema.Proofs.Json.Records

/-!
# What is read is a document

Where a reader succeeds, the text that it has passed is a row of tokens: the tokens of a document
for a reader of values. This is the converse of what readers make of documents; here it is told of
the signs and the scalars.

* `Spans`: tokens stand between two texts, one of which is the end of the other.
* `exists_pieces_of_contentFrom`: the content of a string is pieces.
* `exists_number_of_numeralFrom`: what is read as a numeral is a number.
* `exists_scalar_of_scalarFrom?`: what is read as a scalar is one.
-/

namespace ErSchema.Json

open Reader

variable {α β σ : Type}

/-! ## Rows of tokens between texts -/

/-- From `s` on the tokens `us` stand before `r`. -/
def Spans (us : List Token) (s r : List Char) : Prop := ∀ toks, Laid toks r → Laid (us ++ toks) s

theorem Spans.refl (s : List Char) : Spans [] s s := fun _ h => h

theorem Spans.trans {us vs : List Token} {s r t : List Char} (h : Spans us s r)
    (h' : Spans vs r t) : Spans (us ++ vs) s t := by
  intro toks ht
  rw [List.append_assoc]
  exact h _ (h' toks ht)

theorem spans_token (tok : Token) (r : List Char) : Spans [tok] (tok.text ++ r) r :=
  fun _ h => ⟨[], r, by simp, rfl, h⟩

theorem spans_scalar {sc : Scalar} {s r : List Char} (h : s = sc.text ++ r) :
    Spans [.scalar sc] s r :=
  h ▸ spans_token (.scalar sc) r

theorem spans_mark (m : Mark) (r : List Char) : Spans [.mark m] (m.char :: r) r :=
  spans_token (.mark m) r

theorem spans_blanks {blanks : List Char} (h : ∀ c ∈ blanks, isSpace c = true) (s : List Char) :
    Spans [] (blanks ++ s) s := by
  intro toks hs
  cases toks with
  | nil => exact List.forall_mem_append.mpr ⟨h, hs⟩
  | cons tok toks =>
    obtain ⟨blanks', r, hblanks, rfl, hr⟩ := hs
    exact ⟨blanks ++ blanks', r, List.forall_mem_append.mpr ⟨h, hblanks⟩,
      (List.append_assoc _ _ _).symm, hr⟩

/-- A reader that looks for a token goes on behind white space. -/
theorem exists_of_peekToken {f : Option Char → Reader α} {s r : List Char} {a : α}
    (h : (peekToken >>= f).run s = .ok (a, r)) :
    ∃ t, Spans [] s t ∧ (f t.head?).run t = .ok (a, r) := by
  refine ⟨s.dropWhile isSpace, ?_, h⟩
  have hblanks : ∀ c ∈ s.takeWhile isSpace, isSpace c = true :=
    fun c hc => List.mem_takeWhile_imp hc
  have hspans := spans_blanks hblanks (s.dropWhile isSpace)
  rwa [List.takeWhile_append_dropWhile] at hspans

/-- A reader that asks for a token finds its first character behind white space. -/
theorem exists_cons_of_peekToken {f : Option Char → Reader α} {s r : List Char} {a : α}
    (h : (peekToken >>= f).run s = .ok (a, r))
    (hend : ∀ {t}, (f none).run t = .ok (a, r) → False) :
    ∃ c t, Spans [] s (c :: t) ∧ (f (some c)).run (c :: t) = .ok (a, r) := by
  obtain ⟨t, ht, h⟩ := exists_of_peekToken h
  cases t with
  | nil => exact (hend h).elim
  | cons c t => exact ⟨c, t, ht, h⟩

/-! ## Strings -/

theorem exists_pieces_of_escape {coded : Reader Char}
    (hcoded : ∀ {s c r}, coded.run s = .ok (c, r) →
      ∃ ps : List Piece, '\\' :: 'u' :: s = ps.flatMap Piece.text ++ r)
    {s r : List Char} {c : Char} (h : (escape coded).run s = .ok (c, r)) :
    ∃ ps : List Piece, '\\' :: s = ps.flatMap Piece.text ++ r := by
  cases s with
  | nil => contradiction
  | cons d s =>
    unfold escape at h
    rw [run_peek_bind] at h
    simp only [List.head?_cons] at h
    cases hd : letterEscape? d with
    | some m =>
      rw [hd] at h
      cases h
      exact ⟨[.letter d c hd], rfl⟩
    | none =>
      rw [hd] at h
      simp only at h
      split at h
      · rename_i hu
        subst hu
        exact hcoded h
      · contradiction

theorem exists_pieces_of_contentFrom {coded : Reader Char}
    (hcoded : ∀ {s c r}, coded.run s = .ok (c, r) →
      ∃ ps : List Piece, '\\' :: 'u' :: s = ps.flatMap Piece.text ++ r)
    {ahead : Nat} {done s cs r : List Char} (h : contentFrom coded ahead done s = .ok (cs, r)) :
    ∃ ps : List Piece, s = ps.flatMap Piece.text ++ '\"' :: r := by
  fun_induction contentFrom coded ahead done s with
  | case1 => contradiction
  | case2 =>
    cases h
    exact ⟨[], rfl⟩
  | case3 => contradiction
  | case4 _ _ _ _ ht _ ih =>
    obtain ⟨ps, hps⟩ := exists_pieces_of_escape hcoded ht
    obtain ⟨qs, rfl⟩ := ih h
    exact ⟨ps ++ qs, by rw [hps, List.flatMap_append, List.append_assoc]⟩
  | case5 => contradiction
  | case6 _ c r hquote hback hcontrol ih =>
    obtain ⟨ps, rfl⟩ := ih h
    exact ⟨.plain c ⟨hquote, hback, hcontrol⟩ :: ps, rfl⟩

theorem exists_piece_of_hexEscape {s r : List Char} {n : Nat}
    (h : hexEscape.run s = .ok (n, r)) : ∃ p : Piece, '\\' :: 'u' :: s = p.text ++ r := by
  unfold hexEscape at h
  simp only at h
  split at h
  · rename_i m hm
    cases h
    rcases s with _ | ⟨a, _ | ⟨b, _ | ⟨c, _ | ⟨d, t⟩⟩⟩⟩
    iterate 4 contradiction
    exact ⟨.code a b c d n hm, rfl⟩
  · split at h <;> contradiction

theorem eq_cons_of_pairMark {c : Char} {s r : List Char} {u : Unit}
    (h : (pairMark c).run s = .ok (u, r)) : s = c :: r := by
  cases s with
  | nil => contradiction
  | cons d s =>
    change Reader.run (if d = c then advance else _) (d :: s) = _ at h
    split at h
    · rename_i hd
      cases h
      rw [hd]
      rfl
    · contradiction

theorem exists_pieces_of_unicodeEscape {s r : List Char} {c : Char}
    (h : unicodeEscape.run s = .ok (c, r)) :
    ∃ ps : List Piece, '\\' :: 'u' :: s = ps.flatMap Piece.text ++ r := by
  obtain ⟨n, r₁, hn, h⟩ := run_bind_eq_ok h
  obtain ⟨p, hp⟩ := exists_piece_of_hexEscape hn
  split at h
  · contradiction
  · split at h
    · obtain ⟨_, r₂, hback, h⟩ := run_bind_eq_ok h
      obtain ⟨_, r₃, hu, h⟩ := run_bind_eq_ok h
      obtain ⟨m, r₄, hm, h⟩ := run_bind_eq_ok h
      obtain ⟨q, hq⟩ := exists_piece_of_hexEscape hm
      split at h
      · -- the character is not opened: its code is a sum of large numbers
        rw [run_pure, Except.ok.injEq, Prod.mk.injEq] at h
        obtain ⟨-, rfl⟩ := h
        refine ⟨[p, q], ?_⟩
        rw [hp, eq_cons_of_pairMark hback, eq_cons_of_pairMark hu, hq]
        simp
      · contradiction
    · cases h
      exact ⟨[p], by simpa using hp⟩

theorem exists_literal_of_stringBody {s r : List Char} {text : String}
    (h : stringBody.run s = .ok (text, r)) : ∃ l : Literal, s = l.body ++ r := by
  obtain ⟨cs, r', hcs, h⟩ := run_bind_eq_ok h
  cases h
  obtain ⟨ps, rfl⟩ := exists_pieces_of_contentFrom exists_pieces_of_unicodeEscape hcs
  exact ⟨⟨ps⟩, by simp [Literal.body]⟩

theorem exists_literal_of_skipStringBody {s r : List Char} {u : Unit}
    (h : skipStringBody.run s = .ok (u, r)) : ∃ l : Literal, s = l.body ++ r := by
  obtain ⟨cs, r', hcs, h⟩ := run_bind_eq_ok h
  cases h
  obtain ⟨ps, rfl⟩ := exists_pieces_of_contentFrom (fun hc => by
    obtain ⟨n, r, hn, hc⟩ := run_bind_eq_ok hc
    cases hc
    obtain ⟨p, hp⟩ := exists_piece_of_hexEscape hn
    exact ⟨[p], by simpa using hp⟩) hcs
  exact ⟨⟨ps⟩, by simp [Literal.body]⟩

/-! ## Numbers -/

theorem eq_append_of_takeWhile {s r ds : List Char}
    (h : (takeWhile Char.isDigit).run s = .ok (ds, r)) :
    s = ds ++ r ∧ ∀ d ∈ ds, d.isDigit = true := by
  cases h
  exact ⟨List.takeWhile_append_dropWhile.symm, fun d hd => List.mem_takeWhile_imp hd⟩

theorem eq_append_of_someDigits {atEnd : Cause} {s r ds : List Char}
    (h : (someDigits atEnd).run s = .ok (ds, r)) : s = ds ++ r ∧ IsDigits ds := by
  obtain ⟨es, r', hes, hrest⟩ := run_bind_eq_ok h
  obtain ⟨rfl, hdigits⟩ := eq_append_of_takeWhile hes
  split at hrest
  · obtain ⟨c?, t, hc, hrest⟩ := run_bind_eq_ok hrest
    cases c? <;> contradiction
  · rename_i hne
    cases hrest
    exact ⟨rfl, by simpa using hne, hdigits⟩

theorem eq_append_of_fraction? {atEnd : Cause} {s r : List Char} {f : Option (List Char)}
    (h : (fraction? atEnd).run s = .ok (f, r)) :
    s = f.elim [] (fun ds => '.' :: ds) ++ r ∧ ∀ ds ∈ f, IsDigits ds := by
  unfold fraction? at h
  rw [run_peek_bind] at h
  split at h
  · rename_i hpoint
    obtain ⟨t, rfl⟩ := List.head?_eq_some_iff.mp hpoint
    rw [run_advance_bind] at h
    obtain ⟨ds, r', hds, hrest⟩ := run_bind_eq_ok h
    cases hrest
    obtain ⟨rfl, hdigits⟩ := eq_append_of_someDigits hds
    exact ⟨rfl, fun es hes => by cases hes; exact hdigits⟩
  · cases h
    exact ⟨rfl, fun es hes => by cases hes⟩

theorem exists_of_exponentSign {s r : List Char} {negative : Bool}
    (h : exponentSign.run s = .ok (negative, r)) :
    ∃ sign : Option Char, s = sign.toList ++ r ∧ ∀ c ∈ sign, c = '+' ∨ c = '-' := by
  unfold exponentSign at h
  rw [run_peek_bind] at h
  split at h
  · rename_i hhead
    obtain ⟨t, rfl⟩ := List.head?_eq_some_iff.mp hhead
    cases h
    exact ⟨some '-', rfl, by simp⟩
  · rename_i hhead
    obtain ⟨t, rfl⟩ := List.head?_eq_some_iff.mp hhead
    cases h
    exact ⟨some '+', rfl, by simp⟩
  · cases h
    exact ⟨none, rfl, by simp⟩

theorem exists_of_exponent? {atEnd : Cause} {s r : List Char} {e : Option (Bool × List Char)}
    (h : (exponent? atEnd).run s = .ok (e, r)) :
    ∃ e : Option Exponent, s = e.elim [] Exponent.text ++ r := by
  unfold exponent? at h
  rw [run_peek_bind] at h
  split at h
  · rename_i hmark
    obtain ⟨c, t, rfl, hc⟩ : ∃ c t, s = c :: t ∧ (c = 'e' ∨ c = 'E') := by
      rcases hmark with hmark | hmark <;>
        obtain ⟨t, rfl⟩ := List.head?_eq_some_iff.mp hmark
      · exact ⟨'e', t, rfl, Or.inl rfl⟩
      · exact ⟨'E', t, rfl, Or.inr rfl⟩
    rw [run_advance_bind] at h
    obtain ⟨negative, r₁, hsign, h⟩ := run_bind_eq_ok h
    obtain ⟨ds, r₂, hds, h⟩ := run_bind_eq_ok h
    cases h
    obtain ⟨sign, rfl, hsigns⟩ := exists_of_exponentSign hsign
    obtain ⟨rfl, hdigits⟩ := eq_append_of_someDigits hds
    exact ⟨some ⟨c, sign, ds, hc, hsigns, hdigits⟩, by simp [Exponent.text]⟩
  · cases h
    exact ⟨none, rfl⟩

theorem exists_of_wholeFrom {lead : Char} (hlead : lead.isDigit = true) {s r whole : List Char}
    (h : (wholeFrom lead).run s = .ok (whole, r)) :
    lead :: s = whole ++ r ∧ IsDigits whole ∧ (whole.head? = some '0' → whole = ['0']) := by
  unfold wholeFrom at h
  split at h
  · rename_i hzero
    subst hzero
    rw [run_peek_bind] at h
    have hrest : whole = ['0'] ∧ r = s := by
      split at h
      · split at h
        · contradiction
        · cases h
          exact ⟨rfl, rfl⟩
      · cases h
        exact ⟨rfl, rfl⟩
    obtain ⟨rfl, rfl⟩ := hrest
    exact ⟨rfl, ⟨List.cons_ne_nil _ _, by simp⟩, fun _ => rfl⟩
  · rename_i hzero
    obtain ⟨ds, r', hds, hrest⟩ := run_bind_eq_ok h
    cases hrest
    obtain ⟨rfl, hdigits⟩ := eq_append_of_takeWhile hds
    refine ⟨rfl, ⟨List.cons_ne_nil _ _, List.forall_mem_cons.mpr ⟨hlead, hdigits⟩⟩, fun h => ?_⟩
    exact absurd (Option.some.inj h) hzero

theorem eq_cons_of_leadDigit {atEnd : Cause} {d : Char} {s r : List Char}
    (h : (leadDigit atEnd).run s = .ok (d, r)) : s = d :: r ∧ d.isDigit = true := by
  cases s with
  | nil => contradiction
  | cons c s =>
    unfold leadDigit at h
    rw [run_peek_bind] at h
    simp only [List.head?_cons] at h
    split at h
    · cases h
      exact ⟨rfl, ‹_›⟩
    · contradiction

/-- The text of a numeral behind its sign is the digits before the point and what follows them. -/
theorem exists_number_of_lead {lead : Char} (hlead : lead.isDigit = true) (negative : Bool)
    {atEnd : Cause} {s r : List Char} {n : Numeral}
    (h : (do
      let whole ← wholeFrom lead
      let fraction ← fraction? atEnd
      let exponent ← exponent? atEnd
      pure (⟨negative, whole, fraction, exponent⟩ : Numeral)).run s = .ok (n, r)) :
    ∃ l : NumberLiteral, (if negative then ['-'] else []) ++ lead :: s = l.text ++ r := by
  obtain ⟨whole, r₁, hwhole, h⟩ := run_bind_eq_ok h
  obtain ⟨f, r₂, hf, h⟩ := run_bind_eq_ok h
  obtain ⟨e, r₃, he, h⟩ := run_bind_eq_ok h
  cases h
  obtain ⟨hs, hdigits, hzero⟩ := exists_of_wholeFrom hlead hwhole
  obtain ⟨rfl, hfraction⟩ := eq_append_of_fraction? hf
  obtain ⟨e, rfl⟩ := exists_of_exponent? he
  refine ⟨⟨negative, whole, f, e, hdigits, hzero, hfraction⟩, ?_⟩
  rw [hs]
  simp [NumberLiteral.text, NumberLiteral.ending]

/-- **What is read as a numeral is a number.** -/
theorem exists_number_of_numeralFrom {first : Char} (hfirst : first = '-' ∨ first.isDigit = true)
    {atEnd : Cause} {s r : List Char} {n : Numeral}
    (h : (numeralFrom first atEnd).run s = .ok (n, r)) :
    ∃ l : NumberLiteral, first :: s = l.text ++ r := by
  unfold numeralFrom at h
  rcases hfirst with rfl | hdigit
  · simp only [if_true] at h
    obtain ⟨d, r₁, hd, hrest⟩ := run_bind_eq_ok h
    obtain ⟨rfl, hdigit⟩ := eq_cons_of_leadDigit hd
    exact exists_number_of_lead hdigit true hrest
  · have hminus : first ≠ '-' := digit_ne hdigit rfl
    simp only [hminus, if_false, decide_false] at h
    exact exists_number_of_lead hdigit false h

/-! ## Scalars -/

theorem eq_append_of_word {cs s r : List Char} {u : Unit} (h : (word cs).run s = .ok (u, r)) :
    s = cs ++ r := by
  induction cs generalizing s with
  | nil => cases h; rfl
  | cons c cs ih =>
    cases s with
    | nil => contradiction
    | cons d s =>
      change Reader.run (if d = c then advance >>= fun _ => word cs else _) (d :: s) = _ at h
      split at h
      · rename_i hd
        rw [run_advance_bind] at h
        rw [hd, ih h, List.cons_append]
      · contradiction

/-- **What is read as a scalar is one.** -/
theorem exists_scalar_of_scalarFrom? {c : Char} {x : Reader Json} (hx : scalarFrom? c = some x)
    {s r : List Char} {v : Json} (h : x.run s = .ok (v, r)) :
    ∃ sc : Scalar, c :: s = sc.text ++ r := by
  unfold scalarFrom? at hx
  split at hx
  · rename_i hc
    cases hx
    obtain ⟨text, r', htext, hrest⟩ := run_bind_eq_ok h
    cases hrest
    obtain ⟨l, rfl⟩ := exists_literal_of_stringBody htext
    exact ⟨.string l, by rw [hc]; rfl⟩
  split at hx
  · rename_i hc
    cases hx
    obtain ⟨_, r', hword, hrest⟩ := run_bind_eq_ok h
    cases hrest
    exact ⟨.boolean true, by rw [hc, eq_append_of_word hword]; rfl⟩
  split at hx
  · rename_i hc
    cases hx
    obtain ⟨_, r', hword, hrest⟩ := run_bind_eq_ok h
    cases hrest
    exact ⟨.boolean false, by rw [hc, eq_append_of_word hword]; rfl⟩
  split at hx
  · rename_i hc
    cases hx
    obtain ⟨_, r', hword, hrest⟩ := run_bind_eq_ok h
    cases hrest
    exact ⟨.null, by rw [hc, eq_append_of_word hword]; rfl⟩
  split at hx
  · rename_i hc
    cases hx
    obtain ⟨number, r₁, hnumber, hrest⟩ := run_bind_eq_ok h
    cases hrest
    obtain ⟨n, r₂, hn, hvalue⟩ := run_bind_eq_ok hnumber
    split at hvalue
    · cases hvalue
      obtain ⟨l, hl⟩ := exists_number_of_numeralFrom hc hn
      exact ⟨.number l, hl⟩
    · contradiction
  · contradiction

/-- What is passed as a scalar is one. -/
theorem exists_scalar_of_skipScalarFrom? {c : Char} {x : Reader Unit}
    (hx : skipScalarFrom? c = some x) {s r : List Char} {u : Unit}
    (h : x.run s = .ok (u, r)) : ∃ sc : Scalar, c :: s = sc.text ++ r := by
  unfold skipScalarFrom? at hx
  split at hx
  · rename_i hc
    cases hx
    obtain ⟨l, rfl⟩ := exists_literal_of_skipStringBody h
    exact ⟨.string l, by rw [hc]; rfl⟩
  split at hx
  · rename_i hc
    cases hx
    exact ⟨.boolean true, by rw [hc, eq_append_of_word h]; rfl⟩
  split at hx
  · rename_i hc
    cases hx
    exact ⟨.boolean false, by rw [hc, eq_append_of_word h]; rfl⟩
  split at hx
  · rename_i hc
    cases hx
    exact ⟨.null, by rw [hc, eq_append_of_word h]; rfl⟩
  split at hx
  · rename_i hc
    cases hx
    obtain ⟨n, r', hn, hrest⟩ := run_bind_eq_ok h
    cases hrest
    obtain ⟨l, hl⟩ := exists_number_of_numeralFrom hc hn
    exact ⟨.number l, hl⟩
  · contradiction

/-! ## Signs -/

theorem firstItem_spans {b : Bool} {s r : List Char} (h : firstItem.run s = .ok (b, r)) :
    Spans (if b then [] else [.mark .closeList]) s r := by
  obtain ⟨c, t, ht, h⟩ := exists_cons_of_peekToken h fun h => by contradiction
  dsimp only at h
  split at h
  · rename_i hc
    cases h
    subst hc
    exact ht.trans (spans_mark .closeList t)
  · cases h
    exact ht

theorem anotherItem_spans {b : Bool} {s r : List Char} (h : anotherItem.run s = .ok (b, r)) :
    Spans [.mark (if b then .comma else .closeList)] s r := by
  obtain ⟨c, t, ht, h⟩ := exists_cons_of_peekToken h fun h => by contradiction
  dsimp only at h
  split at h
  · rename_i hc
    cases h
    subst hc
    exact ht.trans (spans_mark .closeList t)
  · split at h
    · rename_i hc
      subst hc
      rw [run_advance_bind] at h
      obtain ⟨d, t', ht', h⟩ := exists_cons_of_peekToken h fun h => by contradiction
      dsimp only at h
      split at h
      · contradiction
      · cases h
        exact ht.trans ((spans_mark .comma t).trans ht')
    · contradiction

theorem firstMember_spans {b : Bool} {s r : List Char} (h : firstMember.run s = .ok (b, r)) :
    Spans (if b then [] else [.mark .closeObject]) s (if b then '\"' :: r else r) := by
  obtain ⟨c, t, ht, h⟩ := exists_cons_of_peekToken h fun h => by contradiction
  dsimp only at h
  split at h
  · rename_i hc
    cases h
    subst hc
    exact ht.trans (spans_mark .closeObject t)
  · split at h
    · rename_i hc
      cases h
      subst hc
      exact ht
    · contradiction

theorem anotherMember_spans {b : Bool} {s r : List Char} (h : anotherMember.run s = .ok (b, r)) :
    Spans [.mark (if b then .comma else .closeObject)] s (if b then '\"' :: r else r) := by
  obtain ⟨c, t, ht, h⟩ := exists_cons_of_peekToken h fun h => by contradiction
  dsimp only at h
  split at h
  · rename_i hc
    cases h
    subst hc
    exact ht.trans (spans_mark .closeObject t)
  · split at h
    · rename_i hc
      subst hc
      rw [run_advance_bind] at h
      obtain ⟨d, t', ht', h⟩ := exists_cons_of_peekToken h fun h => by contradiction
      dsimp only at h
      split at h
      · rename_i hd
        cases h
        subst hd
        exact ht.trans ((spans_mark .comma t).trans ht')
      · split at h <;> contradiction
    · contradiction

theorem colon_spans {u : Unit} {s r : List Char} (h : colon.run s = .ok (u, r)) :
    Spans [.mark .colon] s r := by
  obtain ⟨c, t, ht, h⟩ := exists_cons_of_peekToken h fun h => by contradiction
  dsimp only at h
  split at h
  · rename_i hc
    cases h
    subst hc
    exact ht.trans (spans_mark .colon t)
  · contradiction

end ErSchema.Json
