import ErSchema.Proofs.Json.Accepting

/-!
# Every source that is accepted is a spelling

A reader of values covers documents: what it has passed where it succeeds is the tokens of one. This
goes from the items of a list to the list and from the fields of a record to the record. For values
that are passed by a stack of frames, `Completes` says what the frames still ask for, and a step
leaves what it has passed less to ask for.

* `enclosed_spans`: what opens, loops over items and closes passes items with commas between them.
* `value_covers`, `list_covers`, `skipValue_covers`, `Record.read_covers`: readers cover documents.
* `Record.exists_spells`: every source that is accepted is a spelling of a document.
-/

namespace ErSchema.Json

open Reader

variable {α β σ : Type}

/-- Wherever a reader succeeds, it has passed the tokens of a document. -/
def Reader.Covers (x : Reader α) : Prop :=
  ∀ {s a r}, x.run s = .ok (a, r) → ∃ t : Tree, Spans t.tokens s r

theorem Reader.Yields.run_ne_ok {x : Reader α}
    (h : x.Yields (fun _ => True) none fun _ => True) {s r : List Char} {a : α} :
    x.run s ≠ .ok (a, r) := by
  intro hrun
  have := h s trivial
  rw [hrun] at this
  exact absurd this.1 (by simp)

/-! ## Lists and objects -/

/-- The tokens of an item of a list, or of a member of an object. -/
def Frame.Entry : Frame → List Token → Prop
  | .list, us => ∃ t : Tree, us = t.tokens
  | .object, us => ∃ (key : Literal) (t : Tree),
    us = .scalar (.string key) :: .mark .colon :: t.tokens

/-- **Items or members between the signs of their frame are a document.** -/
theorem Frame.exists_tree (f : Frame) (xss : List (List Token)) (h : ∀ us ∈ xss, f.Entry us) :
    ∃ t : Tree, t.tokens = .mark f.openMark :: enclosed f.closeMark xss := by
  cases f with
  | list =>
    obtain ⟨ts, hts⟩ : ∃ ts : List Tree, xss = ts.map Tree.tokens := by
      induction xss with
      | nil => exact ⟨[], rfl⟩
      | cons us xss ih =>
        obtain ⟨t, rfl⟩ := h us List.mem_cons_self
        obtain ⟨ts, rfl⟩ := ih fun vs hvs => h vs (List.mem_cons_of_mem _ hvs)
        exact ⟨t :: ts, rfl⟩
    exact ⟨.list ts, by rw [Tree.tokens, itemTokens_eq_map, hts]; rfl⟩
  | object =>
    obtain ⟨ms, hms⟩ : ∃ ms : List (Literal × Tree),
        xss = ms.map fun m => .scalar (.string m.1) :: .mark .colon :: m.2.tokens := by
      induction xss with
      | nil => exact ⟨[], rfl⟩
      | cons us xss ih =>
        obtain ⟨key, t, rfl⟩ := h us List.mem_cons_self
        obtain ⟨ms, rfl⟩ := ih fun vs hvs => h vs (List.mem_cons_of_mem _ hvs)
        exact ⟨(key, t) :: ms, rfl⟩
    exact ⟨.object ms, by rw [Tree.tokens, memberTokens_eq_map, hms]; rfl⟩

section Loops

variable {f : Frame} {first more : Reader Bool}
  {progress : ∀ {s r}, more.run s = .ok (true, r) → r.length < s.length} {body : σ → Reader σ}

/-- **What a loop passes behind an item** is the items to come and the closing sign. -/
theorem loop_spans
    (hclose : ∀ {s r}, more.run s = .ok (false, r) → Spans [.mark f.closeMark] s r)
    (hmore : ∀ {s r state next t}, more.run s = .ok (true, r) →
      (body state).run r = .ok (next, t) → ∃ us, f.Entry us ∧ Spans (.mark .comma :: us) s t)
    {state last : σ} {s r : List Char}
    (h : (loop more progress body state).run s = .ok (last, r)) :
    ∃ xss, (∀ us ∈ xss, f.Entry us) ∧ Spans (separated f.closeMark xss) s r := by
  induction hn : s.length using Nat.strong_induction_on generalizing s state with
  | _ n ih =>
    rw [loop_eq] at h
    obtain ⟨b, r₁, hb, h⟩ := run_bind_eq_ok h
    cases b with
    | false =>
      cases h
      exact ⟨[], by simp, hclose hb⟩
    | true =>
      obtain ⟨next, r₂, hnext, h⟩ := run_bind_eq_ok h
      obtain ⟨us, hus, hspans⟩ := hmore hb hnext
      have hlt : r₂.length < n := by
        have := (body state).rest_le hnext
        have := progress hb
        omega
      obtain ⟨xss, hxss, hrest⟩ := ih _ hlt h rfl
      exact ⟨us :: xss, List.forall_mem_cons.mpr ⟨hus, hxss⟩, hspans.trans hrest⟩

/-- **What opens, loops over items and closes passes items** with commas between them and the
closing sign. -/
theorem enclosed_spans {finish : σ → Reader β}
    (hfinish : ∀ {state s a r}, (finish state).run s = .ok (a, r) → r = s)
    (hempty : ∀ {s r}, first.run s = .ok (false, r) → Spans [.mark f.closeMark] s r)
    (hfirst : ∀ {s r state next t}, first.run s = .ok (true, r) →
      (body state).run r = .ok (next, t) → ∃ us, f.Entry us ∧ Spans us s t)
    (hclose : ∀ {s r}, more.run s = .ok (false, r) → Spans [.mark f.closeMark] s r)
    (hmore : ∀ {s r state next t}, more.run s = .ok (true, r) →
      (body state).run r = .ok (next, t) → ∃ us, f.Entry us ∧ Spans (.mark .comma :: us) s t)
    {state : σ} {s r : List Char} {a : β}
    (h : (first >>= fun b =>
      if b then body state >>= fun a => loop more progress body a >>= finish
      else finish state).run s = .ok (a, r)) :
    ∃ xss, (∀ us ∈ xss, f.Entry us) ∧ Spans (enclosed f.closeMark xss) s r := by
  obtain ⟨b, r₁, hb, h⟩ := run_bind_eq_ok h
  cases b with
  | false =>
    rw [hfinish h]
    exact ⟨[], by simp, hempty hb⟩
  | true =>
    obtain ⟨next, r₂, hnext, h⟩ := run_bind_eq_ok h
    obtain ⟨last, r₃, hloop, h⟩ := run_bind_eq_ok h
    rw [hfinish h]
    obtain ⟨us, hus, hspans⟩ := hfirst hb hnext
    obtain ⟨xss, hxss, hrest⟩ := loop_spans hclose hmore hloop
    exact ⟨us :: xss, List.forall_mem_cons.mpr ⟨hus, hxss⟩, hspans.trans hrest⟩

end Loops

theorem pure_run {a b : α} {s r : List Char} (h : (pure a : Reader α).run s = .ok (b, r)) :
    r = s := by
  cases h
  rfl

theorem items_spans {item : Reader α} (hitem : item.Covers) {s r : List Char} {as : List α}
    (h : (items item).run s = .ok (as, r)) :
    ∃ xss, (∀ us ∈ xss, Frame.list.Entry us) ∧ Spans (enclosed .closeList xss) s r := by
  have hentry : ∀ {r done next t}, (itemOnto item done).run r = .ok (next, t) →
      ∃ us, Frame.list.Entry us ∧ Spans us r t := by
    intro r done next t h
    obtain ⟨a, r', ha, h⟩ := run_bind_eq_ok h
    cases h
    obtain ⟨tree, htree⟩ := hitem ha
    exact ⟨_, ⟨tree, rfl⟩, htree⟩
  refine enclosed_spans (f := .list) pure_run firstItem_spans (fun hb hnext => ?_) anotherItem_spans
    (fun hb hnext => ?_) h
  · obtain ⟨us, hus, hspans⟩ := hentry hnext
    exact ⟨us, hus, (firstItem_spans hb).trans hspans⟩
  · obtain ⟨us, hus, hspans⟩ := hentry hnext
    exact ⟨us, hus, (anotherItem_spans hb).trans hspans⟩

/-- **What is passed as an object**, from behind its opening brace, is its members and the closing
brace. -/
theorem object_spans {body : σ → Reader σ} {finish : σ → Reader β}
    (hbody : ∀ state s next r, (body state).run s = .ok (next, r) →
      ∃ (key : Literal) (t : Tree) (r' : List Char), s = key.body ++ r' ∧
        Spans (.mark .colon :: t.tokens) r' r)
    (hfinish : ∀ state s a r, (finish state).run s = .ok (a, r) → r = s)
    {state : σ} {s r : List Char} {a : β}
    (h : (firstMember >>= fun b =>
      if b then body state >>= fun a =>
        loop anotherMember anotherMember_progress body a >>= finish
      else finish state).run s = .ok (a, r)) :
    ∃ xss, (∀ us ∈ xss, Frame.object.Entry us) ∧ Spans (enclosed .closeObject xss) s r := by
  have hentry : ∀ {s state next r}, (body state).run s = .ok (next, r) →
      ∃ us, Frame.object.Entry us ∧ Spans us ('\"' :: s) r := by
    intro s state next r h
    obtain ⟨key, t, r', rfl, hspans⟩ := hbody _ _ _ _ h
    have hkey : Spans [.scalar (.string key)] ('\"' :: (key.body ++ r')) r' := spans_scalar rfl
    exact ⟨_, ⟨key, t, rfl⟩, hkey.trans hspans⟩
  refine enclosed_spans (f := .object) (hfinish _ _ _ _) firstMember_spans (fun hb hnext => ?_)
    anotherMember_spans (fun hb hnext => ?_) h
  · obtain ⟨us, hus, hspans⟩ := hentry hnext
    exact ⟨us, hus, (firstMember_spans hb).trans hspans⟩
  · obtain ⟨us, hus, hspans⟩ := hentry hnext
    exact ⟨us, hus, (anotherMember_spans hb).trans hspans⟩

theorem members_spans {item : Reader α} (hitem : item.Covers) {s r : List Char}
    {ms : List (String × α)} (h : (members item).run s = .ok (ms, r)) :
    ∃ xss, (∀ us ∈ xss, Frame.object.Entry us) ∧ Spans (enclosed .closeObject xss) s r := by
  refine object_spans (fun done s next r hnext => ?_) (fun done s ms r hend => pure_run hend) h
  obtain ⟨key, r₁, hkey, hnext⟩ := run_bind_eq_ok hnext
  obtain ⟨_, r₂, hcolon, hnext⟩ := run_bind_eq_ok hnext
  obtain ⟨a, r₃, ha, hnext⟩ := run_bind_eq_ok hnext
  cases hnext
  obtain ⟨l, rfl⟩ := exists_literal_of_stringBody hkey
  obtain ⟨t, ht⟩ := hitem ha
  exact ⟨l, t, r₁, rfl, (colon_spans hcolon).trans ht⟩

/-- Entries behind the opening sign of their frame are a document. -/
theorem exists_tree_of_enclosed (f : Frame) {s t r : List Char}
    (ht : Spans [] s (f.openMark.char :: t))
    (h : ∃ xss, (∀ us ∈ xss, f.Entry us) ∧ Spans (enclosed f.closeMark xss) t r) :
    ∃ tree : Tree, Spans tree.tokens s r := by
  obtain ⟨xss, hxss, hspans⟩ := h
  obtain ⟨tree, htree⟩ := f.exists_tree _ hxss
  refine ⟨tree, ?_⟩
  rw [htree]
  exact ht.trans ((spans_mark f.openMark t).trans hspans)

/-! ## Values -/

theorem exists_tree_of_scalar {s t r : List Char} {sc : Scalar} (ht : Spans [] s t)
    (h : t = sc.text ++ r) : ∃ tree : Tree, Spans tree.tokens s r :=
  ⟨.scalar sc, ht.trans (spans_scalar h)⟩

theorem valueWith_covers {list map : Reader Json}
    (hlist : ∀ {t v r}, list.run ('[' :: t) = .ok (v, r) →
      ∃ xss, (∀ us ∈ xss, Frame.list.Entry us) ∧ Spans (enclosed .closeList xss) t r)
    (hmap : ∀ {t v r}, map.run ('{' :: t) = .ok (v, r) →
      ∃ xss, (∀ us ∈ xss, Frame.object.Entry us) ∧ Spans (enclosed .closeObject xss) t r) :
    (valueWith list map).Covers := by
  intro s v r h
  obtain ⟨c, t, ht, h⟩ := exists_cons_of_peekToken h fun h => by contradiction
  dsimp only at h
  split at h
  · rename_i scalar hscalar
    rw [run_advance_bind] at h
    obtain ⟨sc, hsc⟩ := exists_scalar_of_scalarFrom? hscalar h
    exact exists_tree_of_scalar ht hsc
  · split at h
    · rename_i hc
      subst hc
      exact exists_tree_of_enclosed .list ht (hlist h)
    · split at h
      · rename_i hc
        subst hc
        exact exists_tree_of_enclosed .object ht (hmap h)
      · contradiction

theorem value_covers (depth : Nat) : (value depth).Covers := by
  induction depth with
  | zero => exact valueWith_covers (fun h => by contradiction) fun h => by contradiction
  | succ depth ih =>
    refine valueWith_covers (fun h => ?_) fun h => ?_
    · rw [run_advance_bind] at h
      obtain ⟨vs, r', hvs, h⟩ := run_bind_eq_ok h
      cases h
      exact items_spans ih hvs
    · rw [run_advance_bind] at h
      obtain ⟨ms, r', hms, h⟩ := run_bind_eq_ok h
      cases h
      exact members_spans ih hms

theorem text_covers : Reader.text.Covers := by
  intro s a r h
  obtain ⟨t, ht, h⟩ := exists_of_peekToken h
  split at h
  · rename_i hquote
    obtain ⟨t, rfl⟩ := List.head?_eq_some_iff.mp hquote
    rw [run_advance_bind] at h
    obtain ⟨l, rfl⟩ := exists_literal_of_stringBody h
    exact ⟨.scalar (.string l), ht.trans (spans_token _ r)⟩
  · exact absurd h (refuse_yields _ _ _).run_ne_ok

theorem boolean_covers : Reader.boolean.Covers := by
  intro s a r h
  obtain ⟨t, ht, h⟩ := exists_of_peekToken h
  split at h
  · rename_i hc
    obtain ⟨t, rfl⟩ := List.head?_eq_some_iff.mp hc
    rw [run_advance_bind] at h
    obtain ⟨_, r', hword, h⟩ := run_bind_eq_ok h
    cases h
    rw [eq_append_of_word hword] at ht
    exact ⟨.scalar (.boolean true), ht.trans (spans_token _ r)⟩
  · split at h
    · rename_i hc
      obtain ⟨t, rfl⟩ := List.head?_eq_some_iff.mp hc
      rw [run_advance_bind] at h
      obtain ⟨_, r', hword, h⟩ := run_bind_eq_ok h
      cases h
      rw [eq_append_of_word hword] at ht
      exact ⟨.scalar (.boolean false), ht.trans (spans_token _ r)⟩
    · exact absurd h (refuse_yields _ _ _).run_ne_ok

theorem list_covers {item : Reader α} (hitem : item.Covers) : (Reader.list item).Covers := by
  intro s a r h
  obtain ⟨t, ht, h⟩ := exists_of_peekToken h
  split at h
  · rename_i hc
    obtain ⟨t, rfl⟩ := List.head?_eq_some_iff.mp hc
    rw [run_advance_bind] at h
    exact exists_tree_of_enclosed .list ht (items_spans hitem h)
  · exact absurd h (refuse_yields _ _ _).run_ne_ok

/-! ## Values that are passed -/

/-- What is missing inside frames, the innermost first: the entries to come in each and its closing
sign. -/
def Completes : List Frame → List Token → Prop
  | [], us => us = []
  | f :: fs, us => ∃ xss vs, (∀ ws ∈ xss, f.Entry ws) ∧ us = separated f.closeMark xss ++ vs ∧
    Completes fs vs

/-- What is missing after a step: the next value and what is missing behind it, or nothing. -/
def Missing : List Frame ⊕ Unit → List Token → Prop
  | .inl fs, us => ∃ (t : Tree) (vs : List Token), us = t.tokens ++ vs ∧ Completes fs vs
  | .inr (), us => us = []

/-- What a frame asks for before a value makes the value an entry of it. -/
theorem skipLabel_spans {f : Frame} {s r : List Char} {u : Unit}
    (h : (skipLabel f).run s = .ok (u, r)) :
    ∃ label, (∀ t : Tree, f.Entry (label ++ t.tokens)) ∧ Spans label s r := by
  cases f with
  | list =>
    cases h
    exact ⟨[], fun t => ⟨t, rfl⟩, .refl _⟩
  | object =>
    obtain ⟨c, t, ht, h⟩ := exists_cons_of_peekToken h fun h => by contradiction
    dsimp only at h
    split at h
    · rename_i hc
      subst hc
      rw [run_advance_bind] at h
      obtain ⟨_, r', hkey, hcolon⟩ := run_bind_eq_ok h
      obtain ⟨l, rfl⟩ := exists_literal_of_skipStringBody hkey
      exact ⟨_, fun t => ⟨l, t, rfl⟩,
        (ht.trans (spans_token (.scalar (.string l)) r')).trans (colon_spans hcolon)⟩
    · contradiction

/-- **What is passed behind a value** closes frames, and goes on to the next value of the one that
stays open. -/
theorem closeFrames_spans {fs : List Frame} {s r : List Char} {next : List Frame ⊕ Unit}
    (h : (closeFrames fs).run s = .ok (next, r)) :
    ∃ vs, Spans vs s r ∧ ∀ us, Missing next us → Completes fs (vs ++ us) := by
  induction fs generalizing s with
  | nil =>
    cases h
    exact ⟨[], .refl _, fun us hus => hus⟩
  | cons f fs ih =>
    obtain ⟨c, t, ht, h⟩ := exists_cons_of_peekToken h fun h => by contradiction
    dsimp only at h
    split at h
    · rename_i hc
      subst hc
      rw [run_advance_bind] at h
      obtain ⟨_, r', hlabel, h⟩ := run_bind_eq_ok h
      cases h
      obtain ⟨label, hentry, hspans⟩ := skipLabel_spans hlabel
      refine ⟨_, ht.trans ((spans_mark .comma t).trans hspans), ?_⟩
      rintro _ ⟨tree, _, rfl, xss, ws, hxss, rfl, hws⟩
      exact ⟨(label ++ tree.tokens) :: xss, ws, List.forall_mem_cons.mpr ⟨hentry tree, hxss⟩,
        by simp [separated], hws⟩
    · split at h
      · rename_i hc
        have hclose : c = f.closeMark.char := by rw [hc]; cases f <;> rfl
        subst hclose
        rw [run_advance_bind] at h
        obtain ⟨vs, hspans, hrest⟩ := ih h
        refine ⟨_, ht.trans ((spans_mark f.closeMark t).trans hspans), fun us hus => ?_⟩
        exact ⟨[], vs ++ us, by simp, rfl, hrest us hus⟩
      · contradiction

/-- What is passed behind an opening sign goes on to the first value of the frame, or closes it. -/
theorem openFrame_spans {f : Frame} {fs : List Frame} {s t r : List Char}
    {next : List Frame ⊕ Unit} (ht : Spans [] s (f.openMark.char :: t))
    (h : (openFrame f fs).run t = .ok (next, r)) :
    ∃ vs, Spans vs s r ∧ ∀ us, Missing next us → Missing (.inl fs) (vs ++ us) := by
  have hopen := ht.trans (spans_mark f.openMark t)
  obtain ⟨c, t', ht', h⟩ := exists_cons_of_peekToken h fun h => by contradiction
  dsimp only at h
  split at h
  · rename_i hc
    have hclose : c = f.closeMark.char := by rw [hc]; cases f <;> rfl
    subst hclose
    rw [run_advance_bind] at h
    obtain ⟨vs, hspans, hrest⟩ := closeFrames_spans h
    obtain ⟨tree, htree⟩ := f.exists_tree [] (by simp)
    refine ⟨_, hopen.trans (ht'.trans ((spans_mark f.closeMark t').trans hspans)), ?_⟩
    exact fun us hus => ⟨tree, vs ++ us, by rw [htree]; rfl, hrest us hus⟩
  · obtain ⟨_, r', hlabel, h⟩ := run_bind_eq_ok h
    cases h
    obtain ⟨label, hentry, hspans⟩ := skipLabel_spans hlabel
    refine ⟨_, hopen.trans (ht'.trans hspans), ?_⟩
    rintro _ ⟨first, _, rfl, xss, ws, hxss, rfl, hws⟩
    obtain ⟨tree, htree⟩ := f.exists_tree ((label ++ first.tokens) :: xss)
      (List.forall_mem_cons.mpr ⟨hentry first, hxss⟩)
    exact ⟨tree, ws, by rw [htree]; simp [enclosed], hws⟩

theorem skipStep_spans {fs : List Frame} {s r : List Char} {next : List Frame ⊕ Unit}
    (h : (skipStep fs).run s = .ok (next, r)) :
    ∃ vs, Spans vs s r ∧ ∀ us, Missing next us → Missing (.inl fs) (vs ++ us) := by
  obtain ⟨c, t, ht, h⟩ := exists_cons_of_peekToken h fun h => by contradiction
  dsimp only at h
  split at h
  · rename_i scalar hscalar
    rw [run_advance_bind] at h
    obtain ⟨_, r', hsc, h⟩ := run_bind_eq_ok h
    obtain ⟨sc, hsc⟩ := exists_scalar_of_skipScalarFrom? hscalar hsc
    obtain ⟨vs, hspans, hrest⟩ := closeFrames_spans h
    refine ⟨_, (ht.trans (spans_scalar hsc)).trans hspans, fun us hus => ?_⟩
    exact ⟨.scalar sc, vs ++ us, rfl, hrest us hus⟩
  · split at h
    · rename_i hc
      subst hc
      rw [run_advance_bind] at h
      exact openFrame_spans (f := .list) ht h
    · split at h
      · rename_i hc
        subst hc
        rw [run_advance_bind] at h
        exact openFrame_spans (f := .object) ht h
      · contradiction

/-- What is passed inside frames is a value and what is missing behind it. -/
theorem iterateFrom_skipStep_spans {fs : List Frame} {s r : List Char} {u : Unit}
    (h : iterateFrom skipStep skipStep_progress fs s = .ok (u, r)) :
    ∃ vs, Spans vs s r ∧ Missing (.inl fs) vs := by
  fun_induction iterateFrom skipStep skipStep_progress fs s with
  | case1 => contradiction
  | case2 fs s a t hstep =>
    cases h
    obtain ⟨vs, hspans, hrest⟩ := skipStep_spans hstep
    have := hrest [] rfl
    rw [List.append_nil] at this
    exact ⟨vs, hspans, this⟩
  | case3 fs s next t hstep ih =>
    obtain ⟨vs, hspans, hrest⟩ := skipStep_spans hstep
    obtain ⟨us, hspans', hmissing⟩ := ih h
    exact ⟨vs ++ us, hspans.trans hspans', hrest us hmissing⟩

theorem skipValue_covers : skipValue.Covers := by
  intro s u r h
  obtain ⟨vs, hspans, t, ws, rfl, rfl⟩ := iterateFrom_skipStep_spans h
  rw [List.append_nil] at hspans
  exact ⟨t, hspans⟩

/-! ## Records -/

/-- The readers of a record's fields pass documents. -/
def Record.Covers (rec : Record α) : Prop := ∀ f ∈ rec.fields, f.read.Covers

namespace Record

variable {rec : Record α}

theorem member_spans (hrec : rec.Covers) (d : Draft α) (s : List Char) (e : Draft α)
    (r : List Char) (h : (rec.member d).run s = .ok (e, r)) :
    ∃ (key : Literal) (t : Tree) (r' : List Char), s = key.body ++ r' ∧
      Spans (.mark .colon :: t.tokens) r' r := by
  obtain ⟨key, r₁, hkey, hrest⟩ := run_bind_eq_ok h
  obtain ⟨l, rfl⟩ := exists_literal_of_stringBody hkey
  refine ⟨l, ?_⟩
  split at hrest
  · obtain ⟨_, r₂, hcolon, hrest⟩ := run_bind_eq_ok hrest
    obtain ⟨_, r₃, hskip, hrest⟩ := run_bind_eq_ok hrest
    cases hrest
    obtain ⟨t, ht⟩ := skipValue_covers hskip
    exact ⟨t, r₁, rfl, (colon_spans hcolon).trans ht⟩
  · rename_i f hf
    split at hrest
    · exact absurd hrest (refuseInObject_yields _ _ _).run_ne_ok
    · obtain ⟨_, r₂, hcolon, hrest⟩ := run_bind_eq_ok hrest
      obtain ⟨update, r₃, hread, hrest⟩ := run_bind_eq_ok hrest
      obtain ⟨t, ht⟩ := hrec f (List.mem_of_find?_eq_some hf) hread
      split at hrest
      · cases hrest
        exact ⟨t, r₁, rfl, (colon_spans hcolon).trans ht⟩
      · exact absurd hrest (refuseInObject_yields _ _ _).run_ne_ok

theorem finish_run (rec : Record α) (d : Draft α) (s : List Char) (a : α) (r : List Char)
    (h : (rec.finish d).run s = .ok (a, r)) : r = s := by
  unfold finish at h
  split at h
  · contradiction
  · exact pure_run h

theorem endOfRecord_spans {s r : List Char} {u : Unit} (h : endOfRecord.run s = .ok (u, r)) :
    Spans [.mark .closeList] s r := by
  obtain ⟨c, t, ht, h⟩ := exists_cons_of_peekToken h fun h => by contradiction
  dsimp only at h
  split at h
  · rename_i hc
    cases h
    subst hc
    exact ht.trans (spans_mark .closeList t)
  · split at h
    · rw [run_advance_bind] at h
      obtain ⟨t', -, h⟩ := exists_of_peekToken h
      split at h <;> contradiction
    · contradiction

theorem nextItem_spans {present : Nat} {b : Bool} {s r : List Char}
    (h : (if present = 0 then firstItem else anotherItem).run s = .ok (b, r)) :
    if b then ∀ (t : Tree) (ts : List Tree) (q : List Char),
      Spans (t.tokens ++ itemsFrom (present + 1) ts) r q → Spans (itemsFrom present (t :: ts)) s q
    else Spans (itemsFrom present []) s r := by
  cases present with
  | zero =>
    have hfirst := firstItem_spans h
    cases b with
    | false => exact hfirst
    | true => exact fun t ts q hrest => hfirst.trans hrest
  | succ present =>
    have hanother := anotherItem_spans h
    cases b with
    | false => exact hanother
    | true => exact fun t ts q hrest => hanother.trans hrest

/-- **What is passed as the items of a record** is items and the closing bracket. -/
theorem elements_spans (hrec : rec.Covers) {fs : List (Field α)} (hfs : fs ⊆ rec.fields)
    {present : Nat} {a b : α} {s r : List Char}
    (h : (rec.elements present a fs).run s = .ok (b, r)) :
    ∃ ts : List Tree, Spans (itemsFrom present ts) s r := by
  induction fs generalizing present a s with
  | nil =>
    obtain ⟨_, r', hend, hrest⟩ := run_bind_eq_ok h
    cases hrest
    exact ⟨[], by cases present <;> exact endOfRecord_spans hend⟩
  | cons f fs ih =>
    obtain ⟨more, r₁, hmore, hrest⟩ := run_bind_eq_ok h
    have hnext := nextItem_spans hmore
    cases more with
    | false =>
      simp only [Bool.false_eq_true, if_false] at hrest hnext
      split at hrest
      · contradiction
      · rw [pure_run hrest]
        exact ⟨[], hnext⟩
    | true =>
      simp only [if_true] at hrest hnext
      obtain ⟨update, r₂, hread, hrest⟩ := run_bind_eq_ok hrest
      obtain ⟨t, ht⟩ := hrec f (hfs List.mem_cons_self) hread
      split at hrest
      · obtain ⟨ts, hts⟩ := ih (List.subset_of_cons_subset hfs) hrest
        exact ⟨t :: ts, hnext t ts r (ht.trans hts)⟩
      · exact absurd hrest (refuseInList_yields _ _ _).run_ne_ok

theorem read_covers (hrec : rec.Covers) : rec.read.Covers := by
  intro s a r h
  obtain ⟨t, ht, h⟩ := exists_of_peekToken h
  split at h
  · rename_i hc
    obtain ⟨t, rfl⟩ := List.head?_eq_some_iff.mp hc
    rw [run_advance_bind] at h
    obtain ⟨ts, hts⟩ := elements_spans hrec (List.Subset.refl _) h
    refine ⟨.list ts, ?_⟩
    rw [Tree.tokens, itemTokens_eq_map]
    exact ht.trans ((spans_mark .openList t).trans hts)
  · split at h
    · rename_i hc
      obtain ⟨t, rfl⟩ := List.head?_eq_some_iff.mp hc
      rw [run_advance_bind] at h
      exact exists_tree_of_enclosed .object ht
        (object_spans (member_spans hrec) (finish_run rec) h)
    · exact absurd h (refuse_yields _ _ _).run_ne_ok

/-- **Every source that is accepted is a spelling of a document.** -/
theorem exists_spells (hrec : rec.Covers) {source : String} {a : α}
    (h : rec.ofSource source = .ok a) : ∃ t : Tree, t.Spells source := by
  unfold ofSource at h
  split at h
  · rename_i hrun
    obtain ⟨b, r₁, hb, hend⟩ := run_bind_eq_ok hrun
    obtain ⟨t, ht⟩ := read_covers hrec hb
    obtain ⟨r₂, hblanks, hend⟩ := exists_of_peekToken hend
    refine ⟨t, ?_⟩
    have hlaid : Laid [] r₂ := by
      cases r₂ with
      | nil => exact fun c hc => absurd hc List.not_mem_nil
      | cons c r₂ => contradiction
    have := ht [] (hblanks [] hlaid)
    rwa [List.append_nil] at this
  · contradiction

end Record

theorem covers_map {x : Reader α} (h : x.Covers) (g : α → β) :
    (x >>= fun a => pure (g a)).Covers := by
  intro s b r hrun
  obtain ⟨a, r', ha, hrun⟩ := run_bind_eq_ok hrun
  cases hrun
  exact h ha

end ErSchema.Json
