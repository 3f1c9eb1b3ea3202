import ErSchema.Proofs.Json.Scalars

/-!
# What readers make of documents

`x.Reads t o` says what a reader makes of a document wherever it stands in a text, and `x.on t` is
what it makes of its text alone. The loops over items and members are told once, for any item: such
a loop is a fold over the items.

* `Reader.Reads.on_eq`: what a reader makes of a document somewhere, it makes of it by itself.
* `loop_yields`, `enclosed_yields`: a loop over items is a fold over them.
* `value_reads`, `text_reads`, `boolean_reads`, `list_reads`: what the readers of values make of a
  document.
-/

namespace ErSchema.Json

open Reader

variable {α β σ χ : Type}

/-! ## Documents in a text -/

/-- What a reader makes of a document, wherever in a text the document stands. -/
def Reader.Reads (x : Reader α) (t : Tree) (o : Option α) : Prop :=
  ∀ toks, Stops toks → x.Yields (Laid (t.tokens ++ toks)) o (Laid toks)

/-- The text of a document without white space. -/
def Tree.text (t : Tree) : List Char := t.tokens.flatMap Token.text

/-- The value that a reader makes of a document by itself. -/
def Reader.on (x : Reader α) (t : Tree) : Option α :=
  match x.run t.text with
  | .ok (a, _) => some a
  | .error _ => none

theorem laid_flatMap_text (toks : List Token) : Laid toks (toks.flatMap Token.text) := by
  induction toks with
  | nil => exact fun c hc => absurd hc List.not_mem_nil
  | cons tok toks ih => exact ⟨[], _, by simp, List.flatMap_cons, ih⟩

/-- **What a reader makes of a document somewhere, it makes of it by itself.** -/
theorem Reader.Reads.on_eq {x : Reader α} {t : Tree} {o : Option α} (h : x.Reads t o) :
    x.on t = o := by
  have hrun := h [] stops_nil t.text (by rw [List.append_nil]; exact laid_flatMap_text _)
  unfold Reader.on
  match x.run t.text, hrun with
  | .ok (a, r), ⟨ho, _⟩ => exact ho.symm
  | .error e, ho => exact ho.symm

theorem At.laid {toks : List Token} {s : List Char} (h : At toks s) : Laid toks s := by
  cases toks with
  | nil => rw [show s = [] from h]; exact fun c hc => absurd hc List.not_mem_nil
  | cons tok toks =>
    obtain ⟨r, rfl, hr⟩ := h
    exact ⟨[], r, by simp, rfl, hr⟩

/-! ## Signs -/

section Signs

variable {toks : List Token}

theorem advance_mark (m : Mark) (toks : List Token) :
    advance.Yields (At (.mark m :: toks)) (some ()) (Laid toks) :=
  behind_mark m toks ▸ advance_yields (.mark m) toks

/-- What a first character says about the value that it opens. -/
structure Opens (c : Char) (t : Tree) : Prop where
  quote : c = '\"' → ∃ l, t = .scalar (.string l)
  letter_t : c = 't' → t = .scalar (.boolean true)
  letter_f : c = 'f' → t = .scalar (.boolean false)
  bracket : c = '[' → ∃ ts, t = .list ts
  brace : c = '{' → ∃ ms, t = .object ms
  ne_bracket : c ≠ ']'
  ne_brace : c ≠ '}'

/-- **A value is told by its first character**, which closes nothing. -/
theorem exists_opens (t : Tree) (toks : List Token) :
    ∃ c, firstChar (t.tokens ++ toks) = some c ∧ Opens c t := by
  match t with
  | .list ts => exact ⟨'[', rfl, by constructor <;> simp⟩
  | .object ms => exact ⟨'{', rfl, by constructor <;> simp⟩
  | .scalar .null => exact ⟨'n', rfl, by constructor <;> simp⟩
  | .scalar (.boolean true) => exact ⟨'t', rfl, by constructor <;> simp⟩
  | .scalar (.boolean false) => exact ⟨'f', rfl, by constructor <;> simp⟩
  | .scalar (.string l) => exact ⟨'\"', rfl, by constructor <;> simp⟩
  | .scalar (.number n) =>
    obtain ⟨c, cs, htext, hc⟩ := n.exists_text_eq
    have hne (d : Char) (hd : d.isDigit = false) (hminus : d ≠ '-') : c ≠ d := by
      rcases hc with rfl | hc
      · exact hminus.symm
      · exact digit_ne hc hd
    refine ⟨c, by simp [firstChar, Tree.tokens, Token.text, Scalar.text, htext], ?_⟩
    exact {
      quote := fun h => (hne '\"' rfl (by decide) h).elim
      letter_t := fun h => (hne 't' rfl (by decide) h).elim
      letter_f := fun h => (hne 'f' rfl (by decide) h).elim
      bracket := fun h => (hne '[' rfl (by decide) h).elim
      brace := fun h => (hne '{' rfl (by decide) h).elim
      ne_bracket := hne ']' rfl (by decide)
      ne_brace := hne '}' rfl (by decide) }

theorem firstItem_close (toks : List Token) :
    firstItem.Yields (Laid (.mark .closeList :: toks)) (some false) (Laid toks) :=
  (peekToken_yields _).andThen ((advance_mark .closeList toks).andThen (pure_yields _ _))

theorem firstItem_value (t : Tree) (toks : List Token) :
    firstItem.Yields (Laid (t.tokens ++ toks)) (some true) (Laid (t.tokens ++ toks)) := by
  obtain ⟨c, hc, hopens⟩ := exists_opens t toks
  refine (peekToken_yields _).andThen ?_
  simp only [hc, if_neg hopens.ne_bracket]
  exact (pure_yields true _).mono (fun _ h => h) fun _ h => h.laid

theorem anotherItem_close (toks : List Token) :
    anotherItem.Yields (Laid (.mark .closeList :: toks)) (some false) (Laid toks) :=
  (peekToken_yields _).andThen ((advance_mark .closeList toks).andThen (pure_yields _ _))

theorem anotherItem_comma (t : Tree) (toks : List Token) :
    anotherItem.Yields (Laid (.mark .comma :: (t.tokens ++ toks))) (some true)
      (Laid (t.tokens ++ toks)) := by
  obtain ⟨c, hc, hopens⟩ := exists_opens t toks
  refine (peekToken_yields _).andThen ((advance_mark .comma _).andThen ?_)
  refine (peekToken_yields _).andThen ?_
  simp only [hc, if_neg hopens.ne_bracket]
  exact (pure_yields true _).mono (fun _ h => h) fun _ h => h.laid

theorem firstMember_close (toks : List Token) :
    firstMember.Yields (Laid (.mark .closeObject :: toks)) (some false) (Laid toks) :=
  (peekToken_yields _).andThen ((advance_mark .closeObject toks).andThen (pure_yields _ _))

theorem firstMember_key (key : Literal) (toks : List Token) :
    firstMember.Yields (Laid (.scalar (.string key) :: toks)) (some true)
      (Behind (.scalar (.string key)) toks) :=
  (peekToken_yields _).andThen ((advance_yields _ _).andThen (pure_yields _ _))

theorem anotherMember_close (toks : List Token) :
    anotherMember.Yields (Laid (.mark .closeObject :: toks)) (some false) (Laid toks) :=
  (peekToken_yields _).andThen ((advance_mark .closeObject toks).andThen (pure_yields _ _))

theorem anotherMember_comma (key : Literal) (toks : List Token) :
    anotherMember.Yields (Laid (.mark .comma :: .scalar (.string key) :: toks)) (some true)
      (Behind (.scalar (.string key)) toks) :=
  (peekToken_yields _).andThen <| (advance_mark .comma _).andThen <|
    (peekToken_yields _).andThen <| (advance_yields _ _).andThen (pure_yields _ _)

theorem colon_yields (toks : List Token) :
    colon.Yields (Laid (.mark .colon :: toks)) (some ()) (Laid toks) :=
  (peekToken_yields _).andThen (advance_mark .colon toks)

end Signs

/-! ## Loops over items -/

section Loops

variable {first more : Reader Bool}
  {progress : ∀ {s r}, more.run s = .ok (true, r) → r.length < s.length} {body : σ → Reader σ}
  {close : Mark} {tokens : χ → List Token} {step : σ → χ → Option σ}

/-- **A loop behind an item is a fold over the items to come.** The closing sign ends it; behind a
comma the text is as the body expects it. -/
theorem loop_yields
    (hclose : ∀ toks, more.Yields (Laid (.mark close :: toks)) (some false) (Laid toks))
    {xs : List χ}
    (hbody : ∀ x ∈ xs, ∀ toks, Stops toks → ∃ M,
      more.Yields (Laid (.mark .comma :: (tokens x ++ toks))) (some true) M ∧
        ∀ s, (body s).Yields M (step s x) (Laid toks))
    (s : σ) (toks : List Token) :
    (loop more progress body s).Yields (Laid (separated close (xs.map tokens) ++ toks))
      (xs.foldlM step s) (Laid toks) := by
  induction xs generalizing s with
  | nil =>
    rw [loop_eq]
    exact (hclose toks).andThen (pure_yields s _)
  | cons x xs ih =>
    obtain ⟨M, hmore, hstep⟩ := hbody x List.mem_cons_self
      (separated close (xs.map tokens) ++ toks) (stops_separated _ _ _)
    rw [loop_eq, List.foldlM_cons, List.map_cons, separated, List.cons_append, List.append_assoc]
    refine hmore.andThen ((hstep s).bind fun next _ => ?_)
    exact ih (fun y hy => hbody y (List.mem_cons_of_mem x hy)) next

/-- What opens, loops over items and closes is a fold over the items and what comes after it. -/
theorem enclosed_yields
    (hclose : ∀ toks, more.Yields (Laid (.mark close :: toks)) (some false) (Laid toks))
    (hempty : ∀ toks, first.Yields (Laid (.mark close :: toks)) (some false) (Laid toks))
    {xs : List χ}
    (hbody : ∀ x ∈ xs, ∀ toks, Stops toks → ∃ M,
      first.Yields (Laid (tokens x ++ toks)) (some true) M ∧
        more.Yields (Laid (.mark .comma :: (tokens x ++ toks))) (some true) M ∧
          ∀ s, (body s).Yields M (step s x) (Laid toks))
    {finish : σ → Reader β} {out : σ → Option β} {toks : List Token} {Q : List Char → Prop}
    (hfinish : ∀ s, (finish s).Yields (Laid toks) (out s) Q) (s : σ) :
    (first >>= fun b =>
      if b then body s >>= fun a => loop more progress body a >>= finish else finish s).Yields
      (Laid (enclosed close (xs.map tokens) ++ toks)) ((xs.foldlM step s).bind out) Q := by
  cases xs with
  | nil => exact (hempty toks).andThen (hfinish s)
  | cons x xs =>
    obtain ⟨M, hfirst, -, hstep⟩ := hbody x List.mem_cons_self
      (separated close (xs.map tokens) ++ toks) (stops_separated _ _ _)
    have hloop : ∀ s, (loop more progress body s).Yields
        (Laid (separated close (xs.map tokens) ++ toks)) (xs.foldlM step s) (Laid toks) :=
      fun s => loop_yields hclose (fun y hy toks htoks =>
        (hbody y (List.mem_cons_of_mem x hy) toks htoks).imp fun _ h => h.2) s toks
    rw [List.map_cons, enclosed, List.append_assoc, List.foldlM_cons, Option.bind_eq_bind,
      Option.bind_assoc]
    exact hfirst.andThen ((hstep s).bind fun next _ =>
      (hloop next).bind fun last _ => hfinish last)

/-- Values that are put onto those before them, the last one first. -/
theorem foldlM_onto (read : χ → Option β) (xs : List χ) (done : List β) :
    (xs.foldlM (fun done x => (read x).map (· :: done)) done).map List.reverse =
      (xs.mapM read).map (done.reverse ++ ·) := by
  induction xs generalizing done with
  | nil => simp
  | cons x xs ih =>
    rw [List.foldlM_cons, List.mapM_cons]
    cases read x with
    | none => rfl
    | some b =>
      simp only [Option.map_some, Option.bind_eq_bind, Option.bind_some, ih]
      cases xs.mapM read <;> simp

end Loops

/-! ## Values -/

section Values

variable {item : Reader α} {read : Tree → Option α}

/-- **The items of a list are read one by one.** -/
theorem items_yields {ts : List Tree} (h : ∀ t ∈ ts, item.Reads t (read t)) (toks : List Token) :
    (items item).Yields (Laid (enclosed .closeList (ts.map Tree.tokens) ++ toks))
      (ts.mapM read) (Laid toks) := by
  have hfold := foldlM_onto read ts []
  simp only [List.reverse_nil, List.nil_append, Option.map_id'] at hfold
  rw [← hfold, Option.map_eq_bind]
  refine enclosed_yields anotherItem_close firstItem_close (fun t ht toks htoks => ?_)
    (fun done => pure_yields _ _) []
  exact ⟨_, firstItem_value t toks, anotherItem_comma t toks,
    fun done => (h t ht toks htoks).map⟩

/-- A member of an object as it is read: its key and its value, if both can be read. -/
def memberOf? (read : Tree → Option α) (m : Literal × Tree) : Option (String × α) :=
  m.1.text?.bind fun key => (read m.2).map (key, ·)

/-- **The members of an object are read one by one.** -/
theorem members_yields {ms : List (Literal × Tree)} (h : ∀ m ∈ ms, item.Reads m.2 (read m.2))
    (toks : List Token) :
    (members item).Yields
      (Laid (enclosed .closeObject
        (ms.map fun m => .scalar (.string m.1) :: .mark .colon :: m.2.tokens) ++ toks))
      (ms.mapM (memberOf? read)) (Laid toks) := by
  have hfold := foldlM_onto (memberOf? read) ms []
  simp only [List.reverse_nil, List.nil_append, Option.map_id'] at hfold
  rw [← hfold, Option.map_eq_bind]
  refine enclosed_yields anotherMember_close firstMember_close (fun m hm toks htoks => ?_)
    (fun done => pure_yields _ _) []
  refine ⟨_, firstMember_key m.1 _, anotherMember_comma m.1 _, fun done => ?_⟩
  unfold memberOf?
  rw [Option.map_bind]
  refine (stringBody_yields m.1 _).bind fun key _ => (colon_yields _).andThen ?_
  simp only [Function.comp_apply, Option.map_map]
  exact (h m hm toks htoks).map

/-- What a document is read as, if its lists and objects nest no deeper than `depth`. -/
def Tree.json? : (depth : Nat) → Tree → Option Json
  | _, .scalar s => s.json?
  | 0, .list _ => none
  | 0, .object _ => none
  | depth + 1, .list ts => (ts.mapM (Tree.json? depth)).map .array
  | depth + 1, .object ms => (ms.mapM (memberOf? (Tree.json? depth))).map .object

theorem valueWith_scalar (list map : Reader Json) (s : Scalar) :
    (valueWith list map).Reads (.scalar s) s.json? := by
  intro toks htoks
  obtain ⟨c, hc, -⟩ := exists_opens (.scalar s) toks
  obtain ⟨x, hx, hscalar⟩ := scalarFrom?_yields s htoks hc
  refine (peekToken_yields _).andThen ?_
  simp only [hc, hx]
  exact (advance_yields _ _).andThen hscalar

/-- **A value is read as what it stands for**, or refused where it nests too deep. -/
theorem value_reads (depth : Nat) (t : Tree) : (value depth).Reads t (t.json? depth) := by
  induction depth generalizing t with
  | zero =>
    match t with
    | .scalar s => exact valueWith_scalar _ _ s
    | .list ts => exact fun toks _ => (peekToken_yields _).andThen (fail_yields _ _ _ _)
    | .object ms => exact fun toks _ => (peekToken_yields _).andThen (fail_yields _ _ _ _)
  | succ depth ih =>
    match t with
    | .scalar s => exact valueWith_scalar _ _ s
    | .list ts =>
      intro toks _
      rw [Tree.tokens, itemTokens_eq_map]
      exact (peekToken_yields _).andThen <| (advance_mark .openList _).andThen <|
        (items_yields (fun t _ => ih t) toks).map
    | .object ms =>
      intro toks _
      rw [Tree.tokens, memberTokens_eq_map]
      exact (peekToken_yields _).andThen <| (advance_mark .openObject _).andThen <|
        (members_yields (fun m _ => ih m.2) toks).map

end Values

/-! ## Values of one type -/

/-- The text of a string. -/
def Tree.string? : Tree → Option String
  | .scalar (.string l) => l.text?
  | _ => none

/-- The value of a boolean. -/
def Tree.boolean? : Tree → Option Bool
  | .scalar (.boolean b) => some b
  | _ => none

/-- The values of the items of a list. -/
def Tree.list? (read : Tree → Option α) : Tree → Option (List α)
  | .list ts => ts.mapM read
  | _ => none

theorem refuse_yields (expected : Expected) (P Q : List Char → Prop) :
    (refuse expected : Reader α).Yields P none Q := by
  refine Yields.bind_none fun c => ?_
  match c with
  | none => exact fail_yields _ _ _ _
  | some c =>
    simp only
    split
    · exact Yields.bind_none fun _ => Yields.bind_none fun _ => fail_yields _ _ _ _
    · repeat' split
      all_goals exact fail_yields _ _ _ _

theorem text_reads (t : Tree) : Reader.text.Reads t t.string? := by
  intro toks _
  obtain ⟨c, hc, hopens⟩ := exists_opens t toks
  refine (peekToken_yields _).andThen ?_
  rw [hc]
  split
  · rename_i h
    obtain ⟨l, rfl⟩ := hopens.quote (Option.some.inj h)
    exact (advance_yields _ _).andThen (stringBody_yields l toks)
  · rename_i h
    have hnone : t.string? = none := by
      match t with
      | .scalar (.string l) => exact absurd hc.symm h
      | .scalar .null | .scalar (.boolean _) | .scalar (.number _) | .list _ | .object _ => rfl
    rw [hnone]
    exact refuse_yields _ _ _

theorem boolean_reads (t : Tree) : Reader.boolean.Reads t t.boolean? := by
  intro toks _
  obtain ⟨c, hc, hopens⟩ := exists_opens t toks
  refine (peekToken_yields _).andThen ?_
  rw [hc]
  split
  · rename_i h
    obtain rfl := hopens.letter_t (Option.some.inj h)
    exact (advance_yields _ _).andThen
      ((word_yields_behind (.boolean true) toks).andThen (pure_yields _ _))
  · split
    · rename_i h
      obtain rfl := hopens.letter_f (Option.some.inj h)
      exact (advance_yields _ _).andThen
        ((word_yields_behind (.boolean false) toks).andThen (pure_yields _ _))
    · rename_i ht hf
      have hnone : t.boolean? = none := by
        match t with
        | .scalar (.boolean true) => exact absurd hc.symm ht
        | .scalar (.boolean false) => exact absurd hc.symm hf
        | .scalar .null | .scalar (.string _) | .scalar (.number _) | .list _ | .object _ => rfl
      rw [hnone]
      exact refuse_yields _ _ _

theorem list_reads {item : Reader α} {read : Tree → Option α}
    (h : ∀ t, item.Reads t (read t)) (t : Tree) : (Reader.list item).Reads t (t.list? read) := by
  intro toks _
  obtain ⟨c, hc, hopens⟩ := exists_opens t toks
  refine (peekToken_yields _).andThen ?_
  rw [hc]
  split
  · rename_i hbracket
    obtain ⟨ts, rfl⟩ := hopens.bracket (Option.some.inj hbracket)
    rw [Tree.tokens, itemTokens_eq_map]
    exact (advance_mark .openList _).andThen (items_yields (fun t _ => h t) toks)
  · rename_i hbracket
    have hnone : t.list? read = none := by
      match t with
      | .list _ => exact absurd hc.symm hbracket
      | .scalar _ | .object _ => rfl
    rw [hnone]
    exact refuse_yields _ _ _

end ErSchema.Json
