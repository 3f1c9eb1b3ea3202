import ErSchema.Json.Skip
import ErSchema.Proofs.Json.Scanning

/-!
# What readers make of scalars

A string is read piece by piece to the characters that its pieces stand for, and refused where they
stand for none; where it is only passed, its codes need not pair up. A number is read to its end if
nothing follows that would go on with it, which is so behind every value of a document.

* `contentFrom_outcome`: the content of a string is the characters that its pieces stand for.
* `run_numeralFrom`: a number is read as it is written.
* `Laid.notInNumber`: where a value may end, nothing goes on with a number.
* `scalarFrom?_yields`, `skipScalarFrom?_yields`: a scalar is read as what it stands for, and passed
  whatever it stands for.
-/

namespace ErSchema.Json

open Reader

theorem run_peek_bind {α : Type} (f : Option Char → Reader α) (s : List Char) :
    (peek >>= f).run s = (f s.head?).run s := rfl

/-! ## Strings -/

section Strings

variable {coded : Reader Char} {ahead : Nat} {done r : List Char}

theorem contentFrom_quote : contentFrom coded ahead done ('\"' :: r) = .ok (done.reverse, r) := by
  rw [contentFrom]
  rfl

theorem contentFrom_plain {c : Char} (bare : c ≠ '\"' ∧ c ≠ '\\' ∧ ¬ c.toNat < 32) :
    contentFrom coded ahead done (c :: r) = contentFrom coded ahead (c :: done) r := by
  rw [contentFrom, if_neg bare.1, if_neg bare.2.1, if_neg bare.2.2]

theorem contentFrom_escape {d : Char} {t : List Char} (h : (escape coded).run r = .ok (d, t)) :
    contentFrom coded ahead done ('\\' :: r) = contentFrom coded ahead (d :: done) t := by
  rw [contentFrom, if_neg (by decide), if_pos rfl]
  split <;> simp_all

theorem contentFrom_error {e : Fault} (h : (escape coded).run r = .error e) :
    contentFrom coded ahead done ('\\' :: r) = .error e := by
  rw [contentFrom, if_neg (by decide), if_pos rfl]
  split <;> simp_all

theorem run_escape_letter {c meaning : Char} (h : letterEscape? c = some meaning) :
    (escape coded).run (c :: r) = .ok (meaning, r) := by
  unfold escape
  rw [run_peek_bind]
  simp only [List.head?_cons, h]
  rfl

theorem run_escape_code : (escape coded).run ('u' :: r) = coded.run r := rfl

theorem run_hexEscape {a b c d : Char} {n : Nat} (h : fourDigits? [a, b, c, d] = some n) :
    hexEscape.run (a :: b :: c :: d :: r) = .ok (n, r) := by
  have hdigits : fourDigits? (a :: b :: c :: d :: r) = some n := h
  unfold hexEscape
  simp only [hdigits]
  rfl

theorem run_unicodeEscape {a b c d : Char} {n : Nat} (h : fourDigits? [a, b, c, d] = some n)
    (hlow : isLowSurrogate n = false) (hhigh : isHighSurrogate n = false) :
    unicodeEscape.run (a :: b :: c :: d :: r) = .ok (Char.ofNat n, r) := by
  unfold unicodeEscape
  rw [run_bind_ok (run_hexEscape h), hlow, hhigh]
  rfl

theorem exists_run_unicodeEscape_eq_error {a b c d : Char} {n : Nat}
    (h : fourDigits? [a, b, c, d] = some n) (hlow : isLowSurrogate n = true) :
    ∃ e, unicodeEscape.run (a :: b :: c :: d :: r) = .error e := by
  unfold unicodeEscape
  rw [run_bind_ok (run_hexEscape h), hlow]
  exact ⟨_, rfl⟩

/-- Behind the first code of a pair its second one is read. -/
theorem run_unicodeEscape_pair {a b c d : Char} {n : Nat} (h : fourDigits? [a, b, c, d] = some n)
    (hlow : isLowSurrogate n = false) (hhigh : isHighSurrogate n = true) {a' b' c' d' : Char}
    {m : Nat} (h' : fourDigits? [a', b', c', d'] = some m) :
    unicodeEscape.run (a :: b :: c :: d :: '\\' :: 'u' :: a' :: b' :: c' :: d' :: r) =
      if isLowSurrogate m then
        .ok (Char.ofNat (0x10000 + (n - 0xD800) * 0x400 + (m - 0xDC00)), r)
      else .error ⟨.loneSurrogate, r, 0⟩ := by
  unfold unicodeEscape
  rw [run_bind_ok (run_hexEscape h), hlow, hhigh]
  change Reader.run (hexEscape >>= _) ('\\' :: 'u' :: a' :: b' :: c' :: d' :: r).tail.tail = _
  rw [List.tail_cons, List.tail_cons, run_bind_ok (run_hexEscape h')]
  cases isLowSurrogate m <;> rfl

/-- Behind the first code of a pair nothing but a code is read. -/
theorem exists_run_unicodeEscape_eq_error_of_single {a b c d : Char} {n : Nat}
    (h : fourDigits? [a, b, c, d] = some n) (hlow : isLowSurrogate n = false)
    (hhigh : isHighSurrogate n = true) {s : List Char} (hs : s.take 2 ≠ ['\\', 'u']) :
    ∃ e, unicodeEscape.run (a :: b :: c :: d :: s) = .error e := by
  unfold unicodeEscape
  rw [run_bind_ok (run_hexEscape h), hlow, hhigh]
  match s with
  | [] => exact ⟨_, rfl⟩
  | x :: s =>
    by_cases hx : x = '\\'
    · subst hx
      match s with
      | [] => exact ⟨_, rfl⟩
      | y :: s =>
        have hy : y ≠ 'u' := by rintro rfl; exact hs rfl
        refine ⟨⟨.unfinishedPair, y :: s, 1⟩, ?_⟩
        simp [pairMark, run_bind, peek, advance, fail, hy]
    · refine ⟨⟨.unfinishedPair, x :: s, 1⟩, ?_⟩
      simp [pairMark, run_bind, peek, fail, hx]

/-- Pieces do not start with the signs of a code unless the first of them is a code. -/
theorem take_two_ne {ps : List Piece}
    (h : ∀ a b c d n known qs, ps = .code a b c d n known :: qs → False) :
    (ps.flatMap Piece.text ++ '\"' :: r).take 2 ≠ ['\\', 'u'] := by
  match ps with
  | [] => simp
  | .plain c bare :: ps => simp [Piece.text, bare.2.1]
  | .letter c meaning known :: ps =>
    have : c ≠ 'u' := by rintro rfl; simp [letterEscape?] at known
    simp [Piece.text, this]
  | .code a b c d n known :: ps => exact (h a b c d n known ps rfl).elim

/-- **The content of a string is the characters that its pieces stand for.** -/
theorem contentFrom_outcome (ps : List Piece) (ahead : Nat) (done r : List Char) :
    Outcome ((chars? ps).map (done.reverse ++ ·)) (· = r)
      (contentFrom unicodeEscape ahead done (ps.flatMap Piece.text ++ '\"' :: r)) := by
  fun_induction chars? ps generalizing done with
  | case1 =>
    rw [List.flatMap_nil, List.nil_append, contentFrom_quote]
    exact ⟨by simp, rfl⟩
  | case2 c bare ps ih =>
    rw [List.flatMap_cons, Piece.text, List.append_assoc, List.singleton_append,
      contentFrom_plain bare]
    simpa [Function.comp_def] using ih (c :: done)
  | case3 c meaning known ps ih =>
    simp only [List.flatMap_cons, Piece.text, List.cons_append, List.nil_append]
    rw [contentFrom_escape (run_escape_letter known)]
    simpa [Function.comp_def] using ih (meaning :: done)
  | case4 a b c d n known ps hlow =>
    simp only [List.flatMap_cons, Piece.text, List.cons_append, List.nil_append]
    obtain ⟨e, he⟩ := exists_run_unicodeEscape_eq_error known hlow
    rw [contentFrom_error (run_escape_code.trans he)]
    rfl
  | case5 a b c d n known hlow hhigh a' b' c' d' m known' ps hm ih =>
    simp only [List.flatMap_cons, Piece.text, List.cons_append, List.nil_append]
    rw [contentFrom_escape (run_escape_code.trans ((run_unicodeEscape_pair known
      (Bool.eq_false_iff.mpr hlow) hhigh known').trans (if_pos hm)))]
    simpa [Function.comp_def] using
      ih (Char.ofNat (0x10000 + (n - 0xD800) * 0x400 + (m - 0xDC00)) :: done)
  | case6 a b c d n known hlow hhigh a' b' c' d' m known' ps hm =>
    simp only [List.flatMap_cons, Piece.text, List.cons_append, List.nil_append]
    rw [contentFrom_error (run_escape_code.trans ((run_unicodeEscape_pair known
      (Bool.eq_false_iff.mpr hlow) hhigh known').trans (if_neg hm)))]
    rfl
  | case7 a b c d n known ps hlow hhigh hps =>
    simp only [List.flatMap_cons, Piece.text, List.cons_append, List.nil_append]
    obtain ⟨e, he⟩ := exists_run_unicodeEscape_eq_error_of_single known
      (Bool.eq_false_iff.mpr hlow) hhigh (take_two_ne (r := r) hps)
    rw [contentFrom_error (run_escape_code.trans he)]
    rfl
  | case8 a b c d n known ps hlow hhigh ih =>
    simp only [List.flatMap_cons, Piece.text, List.cons_append, List.nil_append]
    rw [contentFrom_escape (run_escape_code.trans (run_unicodeEscape known
      (Bool.eq_false_iff.mpr hlow) (Bool.eq_false_iff.mpr hhigh)))]
    simpa [Function.comp_def] using ih (Char.ofNat n :: done)

/-- A string of which the codes need not be paired is passed whatever it stands for. -/
theorem exists_contentFrom_eq_ok (ps : List Piece) (ahead : Nat) (done r : List Char) :
    ∃ cs, contentFrom (do let n ← hexEscape; pure (Char.ofNat n)) ahead done
      (ps.flatMap Piece.text ++ '\"' :: r) = .ok (cs, r) := by
  induction ps generalizing done with
  | nil => exact ⟨_, contentFrom_quote⟩
  | cons p ps ih =>
    cases p with
    | plain c bare => exact (contentFrom_plain bare).symm ▸ ih (c :: done)
    | letter c meaning known =>
      exact (contentFrom_escape (run_escape_letter known)).symm ▸ ih (meaning :: done)
    | code a b c d n known =>
      have h : ∀ t, (escape (do let n ← hexEscape; pure (Char.ofNat n))).run
          ('u' :: a :: b :: c :: d :: t) = .ok (Char.ofNat n, t) :=
        fun t => run_escape_code.trans (run_bind_ok (run_hexEscape known))
      exact (contentFrom_escape (h _)).symm ▸ ih (Char.ofNat n :: done)

theorem stringBody_yields (l : Literal) (toks : List Token) :
    stringBody.Yields (Behind (.scalar (.string l)) toks) l.text? (Laid toks) := by
  refine Yields.map (o := chars? l.pieces) ?_
  rintro _ ⟨r, rfl, hr⟩
  have h := contentFrom_outcome l.pieces 1 [] r
  simp only [List.reverse_nil, List.nil_append, Option.map_id'] at h
  change Outcome _ _ (contentFrom unicodeEscape 1 [] (l.body ++ r))
  rw [Literal.body, List.append_assoc]
  exact h.mono fun s hs => hs ▸ hr

theorem skipStringBody_yields (l : Literal) (toks : List Token) :
    skipStringBody.Yields (Behind (.scalar (.string l)) toks) (some ()) (Laid toks) := by
  refine Yields.of_run_eq ?_
  rintro _ ⟨r, rfl, hr⟩
  obtain ⟨cs, h⟩ := exists_contentFrom_eq_ok l.pieces 0 [] r
  refine ⟨r, ?_, hr⟩
  change skipStringBody.run (l.body ++ r) = _
  rw [Literal.body, List.append_assoc]
  exact run_bind_ok h

end Strings

/-! ## Numbers -/

section Numbers

variable {r : List Char}

/-- Whether no digit comes next. -/
def NotDigit (s : List Char) : Prop := ∀ c ∈ s.head?, c.isDigit = false

/-- Whether nothing comes next that would go on with a number. -/
def NotInNumber (s : List Char) : Prop :=
  ∀ c ∈ s.head?, c.isDigit = false ∧ c ≠ '.' ∧ c ≠ 'e' ∧ c ≠ 'E'

theorem run_takeWhile_isDigit {ds : List Char} (hds : ∀ d ∈ ds, d.isDigit = true)
    (hr : NotDigit r) : (takeWhile Char.isDigit).run (ds ++ r) = .ok (ds, r) := by
  change Except.ok ((ds ++ r).takeWhile Char.isDigit, (ds ++ r).dropWhile Char.isDigit) = _
  rw [List.takeWhile_append_of_pos hds, List.dropWhile_append_of_pos hds]
  cases r with
  | nil => simp
  | cons c r => simp [hr c rfl]

theorem run_someDigits {ds : List Char} (hds : IsDigits ds) (hr : NotDigit r) (atEnd : Cause) :
    (someDigits atEnd).run (ds ++ r) = .ok (ds, r) := by
  unfold someDigits
  rw [run_bind_ok (run_takeWhile_isDigit hds.2 hr)]
  cases ds with
  | nil => exact absurd rfl hds.1
  | cons d ds => rfl

theorem run_exponentSign {sign : Option Char} (hsign : ∀ c ∈ sign, c = '+' ∨ c = '-')
    {d : Char} (hd : d.isDigit = true) :
    exponentSign.run (sign.toList ++ d :: r) = .ok (decide (sign = some '-'), d :: r) := by
  match sign with
  | none =>
    unfold exponentSign
    rw [run_peek_bind]
    simp only [Option.toList_none, List.nil_append, List.head?_cons]
    split
    · rename_i h; cases h; exact absurd hd (by decide)
    · rename_i h; cases h; exact absurd hd (by decide)
    · rfl
  | some c =>
    rcases hsign c rfl with rfl | rfl <;> rfl

theorem run_exponent? (e : Option Exponent) (hr : NotInNumber r) (atEnd : Cause) :
    (exponent? atEnd).run (e.elim [] Exponent.text ++ r) =
      .ok (e.map fun e => (decide (e.sign = some '-'), e.digits), r) := by
  unfold exponent?
  match e with
  | none =>
    rw [run_peek_bind, Option.elim_none, List.nil_append, if_neg]
    · rfl
    · rintro (h | h)
      · exact (hr 'e' h).2.2.1 rfl
      · exact (hr 'E' h).2.2.2 rfl
  | some e =>
    obtain ⟨d, ds, hds⟩ := List.exists_cons_of_ne_nil e.isDigits.1
    have hd : d.isDigit = true := e.isDigits.2 d (by rw [hds]; exact List.mem_cons_self)
    rw [run_peek_bind, if_pos]
    · change Reader.run (exponentSign >>= _) (e.sign.toList ++ e.digits ++ r) = _
      rw [List.append_assoc, hds, List.cons_append, run_bind_ok (run_exponentSign e.sign_eq hd),
        ← List.cons_append, ← hds,
        run_bind_ok (run_someDigits e.isDigits (fun c hc => (hr c hc).1) atEnd)]
      rfl
    · exact e.mark_eq.imp (congrArg some) (congrArg some)

theorem run_fraction? {f : Option (List Char)} (hf : ∀ ds ∈ f, IsDigits ds) (hr : NotDigit r)
    (hpoint : r.head? ≠ some '.') (atEnd : Cause) :
    (fraction? atEnd).run (f.elim [] (fun ds => '.' :: ds) ++ r) = .ok (f, r) := by
  unfold fraction?
  match f with
  | none =>
    rw [run_peek_bind, Option.elim_none, List.nil_append, if_neg hpoint]
    rfl
  | some ds =>
    rw [run_peek_bind, Option.elim_some, List.cons_append, List.head?_cons, if_pos rfl]
    change Reader.run (someDigits atEnd >>= _) (ds ++ r) = _
    rw [run_bind_ok (run_someDigits (hf ds rfl) hr atEnd)]
    rfl

theorem run_wholeFrom {d : Char} {ds : List Char} (hds : IsDigits (d :: ds))
    (hzero : d = '0' → ds = []) (hr : NotDigit r) :
    (wholeFrom d).run (ds ++ r) = .ok (d :: ds, r) := by
  unfold wholeFrom
  split
  · rename_i hd
    rw [hzero hd, List.nil_append, run_peek_bind]
    match hhead : r.head? with
    | none => rfl
    | some c =>
      simp only [hr c hhead]
      rfl
  · rw [run_bind_ok (run_takeWhile_isDigit (fun c hc => hds.2 c (List.mem_cons_of_mem d hc)) hr)]
    rfl

theorem head_exponent (e : Option Exponent) (hr : NotInNumber r) :
    ∀ c ∈ (e.elim [] Exponent.text ++ r).head?, c.isDigit = false ∧ c ≠ '.' := by
  match e with
  | none => exact fun c hc => ⟨(hr c hc).1, (hr c hc).2.1⟩
  | some e =>
    rintro c hc
    cases hc
    rcases e.mark_eq with h | h <;> rw [h] <;> exact ⟨rfl, by decide⟩

theorem NumberLiteral.notDigit_ending (n : NumberLiteral) (hr : NotInNumber r) :
    NotDigit (n.ending ++ r) := by
  unfold NumberLiteral.ending
  rw [List.append_assoc]
  cases n.fraction with
  | none => exact fun c hc => (head_exponent n.exponent hr c hc).1
  | some ds => rintro c hc; cases hc; rfl

/-- What stands behind the digits before the point is read as it is written. -/
theorem NumberLiteral.run_whole (n : NumberLiteral) (hr : NotInNumber r) {d : Char}
    {ds : List Char} (hwhole : n.whole = d :: ds) (atEnd : Cause) :
    (do
      let whole ← wholeFrom d
      let fraction ← fraction? atEnd
      let exponent ← exponent? atEnd
      pure (⟨n.negative, whole, fraction, exponent⟩ : Numeral)).run (ds ++ (n.ending ++ r)) =
      .ok (n.numeral, r) := by
  have hzero : d = '0' → ds = [] := by
    intro hd
    have := n.whole_eq (by rw [hwhole, hd]; rfl)
    rw [hwhole] at this
    exact (List.cons.inj this).2
  rw [run_bind_ok (run_wholeFrom (hwhole ▸ n.whole_isDigits) hzero (n.notDigit_ending hr))]
  unfold NumberLiteral.ending
  rw [List.append_assoc, run_bind_ok (run_fraction? n.fraction_isDigits
    (fun c hc => (head_exponent n.exponent hr c hc).1)
    (fun h => (head_exponent n.exponent hr _ h).2 rfl) _),
    run_bind_ok (run_exponent? n.exponent hr _), ← hwhole]
  rfl

/-- **A number is read as it is written**, where nothing goes on with it. -/
theorem run_numeralFrom (n : NumberLiteral) (hr : NotInNumber r) {first : Char} {rest : List Char}
    (htext : n.text = first :: rest) (atEnd : Cause) :
    (numeralFrom first atEnd).run (rest ++ r) = .ok (n.numeral, r) := by
  obtain ⟨d, ds, hwhole⟩ := List.exists_cons_of_ne_nil n.whole_isDigits.1
  have hd : d.isDigit = true := n.whole_isDigits.2 d (by rw [hwhole]; exact List.mem_cons_self)
  have hrun := n.run_whole hr hwhole atEnd
  unfold NumberLiteral.text at htext
  rw [hwhole] at htext
  unfold numeralFrom
  cases hneg : n.negative with
  | true =>
    rw [hneg] at htext hrun
    obtain ⟨rfl, rfl⟩ : first = '-' ∧ rest = d :: (ds ++ n.ending) := by simpa using htext.symm
    have hlead : (leadDigit atEnd).run (d :: (ds ++ (n.ending ++ r))) =
        .ok (d, ds ++ (n.ending ++ r)) := by
      unfold leadDigit
      rw [run_peek_bind]
      simp only [List.head?_cons, hd]
      rfl
    rw [List.cons_append, List.append_assoc]
    exact (run_bind_ok hlead).trans hrun
  | false =>
    rw [hneg] at htext hrun
    obtain ⟨rfl, rfl⟩ : first = d ∧ rest = ds ++ n.ending := by simpa [eq_comm] using htext
    have hminus : first ≠ '-' := digit_ne hd rfl
    simp only [hminus, if_false, decide_false]
    rw [List.append_assoc]
    exact hrun

/-- Where a value may end, nothing comes next that would go on with a number. -/
theorem Laid.notInNumber {toks : List Token} {s : List Char} (h : Laid toks s)
    (hstops : Stops toks) : NotInNumber s := by
  have hblank : ∀ c, isSpace c = true → c.isDigit = false ∧ c ≠ '.' ∧ c ≠ 'e' ∧ c ≠ 'E' := by
    intro c hc
    simp only [isSpace, Bool.or_eq_true, decide_eq_true_eq] at hc
    rcases hc with ((rfl | rfl) | rfl) | rfl <;> decide
  cases toks with
  | nil => exact fun c hc => hblank c (h c (List.mem_of_mem_head? hc))
  | cons tok toks =>
    obtain ⟨m, rfl⟩ := hstops tok rfl
    obtain ⟨blanks, r, hblanks, rfl, -⟩ := h
    cases blanks with
    | cons b blanks =>
      rintro c hc
      cases hc
      exact hblank b (hblanks b List.mem_cons_self)
    | nil =>
      rintro c hc
      cases hc
      cases m <;> exact ⟨rfl, by decide⟩

theorem numeralFrom_yields (n : NumberLiteral) {toks : List Token} (h : Stops toks)
    {first : Char} (hfirst : firstChar (.scalar (.number n) :: toks) = some first)
    (atEnd : Cause) :
    (numeralFrom first atEnd).Yields (Behind (.scalar (.number n)) toks) (some n.numeral)
      (Laid toks) := by
  refine Yields.of_run_eq ?_
  rintro _ ⟨r, rfl, hr⟩
  refine ⟨r, ?_, hr⟩
  obtain ⟨c, cs, htext, -⟩ := n.exists_text_eq
  have hc : c = first := by simpa [firstChar, Token.text, Scalar.text, htext] using hfirst
  subst hc
  rw [show (Token.scalar (.number n)).text = c :: cs from htext]
  exact run_numeralFrom n (hr.notInNumber h) htext atEnd

/-- What a number is read as, unless it is too great. -/
def NumberLiteral.value? (n : NumberLiteral) : Option Number := n.numeral.value.toOption

theorem numberFrom_yields (n : NumberLiteral) {toks : List Token} (h : Stops toks)
    {first : Char} (hfirst : firstChar (.scalar (.number n) :: toks) = some first) :
    (numberFrom first).Yields (Behind (.scalar (.number n)) toks) n.value? (Laid toks) := by
  refine (numeralFrom_yields n h hfirst _).andThen ?_
  unfold NumberLiteral.value?
  match n.numeral.value with
  | .ok v => exact pure_yields v _
  | .error unread => exact fun _ _ => rfl

theorem skipNumberFrom_yields (n : NumberLiteral) {toks : List Token} (h : Stops toks)
    {first : Char} (hfirst : firstChar (.scalar (.number n) :: toks) = some first) :
    (skipNumberFrom first).Yields (Behind (.scalar (.number n)) toks) (some ()) (Laid toks) :=
  (numeralFrom_yields n h hfirst _).andThen (pure_yields () _)

end Numbers

/-! ## Scalars -/

/-- What a scalar is read as, if it can be read. -/
def Scalar.json? : Scalar → Option Json
  | .null => some .null
  | .boolean b => some (.boolean b)
  | .number n => n.value?.map .number
  | .string l => l.text?.map .string

/-- A word is read to its end. -/
theorem word_yields (cs : List Char) (toks : List Token) :
    (word cs).Yields (fun s => ∃ r, s = cs ++ r ∧ Laid toks r) (some ()) (Laid toks) := by
  induction cs with
  | nil =>
    rintro _ ⟨r, rfl, hr⟩
    exact ⟨rfl, hr⟩
  | cons c cs ih =>
    rintro _ ⟨r, rfl, hr⟩
    unfold word
    rw [run_peek_bind]
    simp only [List.cons_append, List.head?_cons, if_true]
    exact ih _ ⟨r, rfl, hr⟩

theorem word_yields_behind (s : Scalar) (toks : List Token) :
    (word s.text.tail).Yields (Behind (.scalar s) toks) (some ()) (Laid toks) :=
  word_yields s.text.tail toks

/-- A number starts with a minus sign or a digit, so with no letter and no quote. -/
theorem firstChar_number {n : NumberLiteral} {toks : List Token} {first : Char}
    (h : firstChar (.scalar (.number n) :: toks) = some first) :
    (first = '-' ∨ first.isDigit = true) ∧ first ≠ '\"' ∧ first ≠ 't' ∧ first ≠ 'f' ∧
      first ≠ 'n' := by
  obtain ⟨c, cs, htext, hc⟩ := n.exists_text_eq
  obtain rfl : c = first := by simpa [firstChar, Token.text, Scalar.text, htext] using h
  refine ⟨hc, ?_⟩
  rcases hc with rfl | hc
  · decide
  · exact ⟨digit_ne hc rfl, digit_ne hc rfl, digit_ne hc rfl, digit_ne hc rfl⟩

/-- **A scalar is read as what it stands for**, by the reader that its first character calls for. -/
theorem scalarFrom?_yields (s : Scalar) {toks : List Token} (h : Stops toks) {first : Char}
    (hfirst : firstChar (.scalar s :: toks) = some first) :
    ∃ x, scalarFrom? first = some x ∧ x.Yields (Behind (.scalar s) toks) s.json? (Laid toks) := by
  match s with
  | .null =>
    cases hfirst
    exact ⟨_, rfl, (word_yields_behind .null toks).andThen (pure_yields _ _)⟩
  | .boolean true =>
    cases hfirst
    exact ⟨_, rfl, (word_yields_behind (.boolean true) toks).andThen (pure_yields _ _)⟩
  | .boolean false =>
    cases hfirst
    exact ⟨_, rfl, (word_yields_behind (.boolean false) toks).andThen (pure_yields _ _)⟩
  | .string l =>
    cases hfirst
    exact ⟨_, rfl, (stringBody_yields l toks).map⟩
  | .number n =>
    obtain ⟨hnumber, hquote, ht, hf, hn⟩ := firstChar_number hfirst
    refine ⟨_, ?_, (numberFrom_yields n h hfirst).map⟩
    rw [scalarFrom?, if_neg hquote, if_neg ht, if_neg hf, if_neg hn, if_pos hnumber]

/-- **A scalar is passed whatever it stands for.** -/
theorem skipScalarFrom?_yields (s : Scalar) {toks : List Token} (h : Stops toks) {first : Char}
    (hfirst : firstChar (.scalar s :: toks) = some first) :
    ∃ x, skipScalarFrom? first = some x ∧
      x.Yields (Behind (.scalar s) toks) (some ()) (Laid toks) := by
  match s with
  | .null =>
    cases hfirst
    exact ⟨_, rfl, word_yields_behind .null toks⟩
  | .boolean true =>
    cases hfirst
    exact ⟨_, rfl, word_yields_behind (.boolean true) toks⟩
  | .boolean false =>
    cases hfirst
    exact ⟨_, rfl, word_yields_behind (.boolean false) toks⟩
  | .string l =>
    cases hfirst
    exact ⟨_, rfl, skipStringBody_yields l toks⟩
  | .number n =>
    obtain ⟨hnumber, hquote, ht, hf, hn⟩ := firstChar_number hfirst
    refine ⟨_, ?_, skipNumberFrom_yields n h hfirst⟩
    rw [skipScalarFrom?, if_neg hquote, if_neg ht, if_neg hf, if_neg hn, if_pos hnumber]

end ErSchema.Json
