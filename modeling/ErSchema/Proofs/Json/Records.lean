import ErSchema.Json.Records
import ErSchema.Proofs.Json.Skipping
import Mathlib.Data.List.Nodup
import Mathlib.Data.List.Pairwise

/-!
# What records make of documents

A record makes of an object what its members put into a draft one after the other, and of a list
what its items put into the fields in their order. Both are told here without a text: by what each
field makes of a document. `Record.read_reads` says that the reader of a record does just that.

* `Record.object?`, `Record.elements?`: a record from the members of an object or the items of a
  list.
* `Record.ofSource_toOption`: **what a source is read as depends on its document alone.**
-/

namespace ErSchema.Json

open Reader

variable {α β : Type}

/-! ## Readers of documents -/

/-- What a reader makes of a document, it makes of it wherever in a text the document stands. -/
def Reader.Faithful (x : Reader α) : Prop := ∀ t, x.Reads t (x.on t)

theorem faithful_of_reads {x : Reader α} {read : Tree → Option α} (h : ∀ t, x.Reads t (read t)) :
    x.Faithful := by
  intro t
  rw [(h t).on_eq]
  exact h t

theorem faithful_text : Reader.text.Faithful := faithful_of_reads text_reads

theorem faithful_boolean : Reader.boolean.Faithful := faithful_of_reads boolean_reads

theorem faithful_list {item : Reader α} (h : item.Faithful) : (Reader.list item).Faithful :=
  faithful_of_reads (list_reads h)

theorem faithful_value (depth : Nat) : (value depth).Faithful :=
  faithful_of_reads (value_reads depth)

theorem faithful_map {x : Reader α} (h : x.Faithful) (g : α → β) :
    (x >>= fun a => pure (g a)).Faithful := by
  have hreads : ∀ t, (x >>= fun a => pure (g a)).Reads t ((x.on t).map g) :=
    fun t toks htoks => (h t toks htoks).map
  exact faithful_of_reads hreads

theorem on_map {x : Reader α} (h : x.Faithful) (g : α → β) (t : Tree) :
    (x >>= fun a => pure (g a)).on t = (x.on t).map g :=
  Reads.on_eq fun toks htoks => (h t toks htoks).map

/-! ## Fields -/

/-- What a field makes of a record by the document of its value. -/
def Field.put? (f : Field α) (t : Tree) (a : α) : Option α :=
  (f.read.on t).bind fun update => (update a).toOption

theorem Field.put?_plain {item : Reader β} (h : item.Faithful) (label : String) (required : Bool)
    (set : β → α → α) :
    (Field.plain label required item set).put? = fun t a => (item.on t).map (set · a) := by
  funext t a
  unfold Field.put? Field.plain
  rw [on_map h]
  cases item.on t <;> rfl

theorem Field.put?_withAlias (f : Field α) (key : String) : (f.withAlias key).put? = f.put? := rfl

/-- The fields of a record make of a document what they make of it anywhere. -/
def Record.Faithful (rec : Record α) : Prop := ∀ f ∈ rec.fields, f.read.Faithful

/-- The keys that a field goes by. -/
def Field.keys (f : Field α) : List String := f.label :: f.aliases

theorem Field.mem_keys_of_answersTo {f : Field α} {key : String} (h : f.answersTo key = true) :
    key ∈ f.keys := by
  rcases Bool.or_eq_true_iff.mp h with h | h
  · exact of_decide_eq_true h ▸ List.mem_cons_self
  · exact List.mem_cons_of_mem _ (List.contains_iff_mem.mp h)

/-- No key is one of two fields. -/
abbrev Record.KeysApart (rec : Record α) : Prop := (rec.fields.flatMap Field.keys).Nodup

namespace Record.KeysApart

variable {rec : Record α} {f g : Field α}

theorem labels (h : rec.KeysApart) : (rec.fields.map (·.label)).Nodup := by
  refine List.pairwise_map.mpr ((List.nodup_flatMap.mp h).2.imp fun hdisjoint heq => ?_)
  exact hdisjoint List.mem_cons_self (heq ▸ List.mem_cons_self)

theorem eq_of_mem (h : rec.KeysApart) (hf : f ∈ rec.fields) (hg : g ∈ rec.fields) {key : String}
    (hkf : key ∈ f.keys) (hkg : key ∈ g.keys) : f = g := by
  by_contra hne
  have : Std.Symm fun f g : Field α => f.keys.Disjoint g.keys := ⟨fun _ _ h _ hf hg => h hg hf⟩
  exact (List.nodup_flatMap.mp h).2.forall hf hg hne hkf hkg

/-- **A label finds its field.** -/
theorem field?_label (h : rec.KeysApart) (hf : f ∈ rec.fields) : rec.field? f.label = some f := by
  cases hfind : rec.field? f.label with
  | none =>
    have hnone := List.find?_eq_none.mp hfind f hf
    exact absurd (by simp [Field.answersTo]) hnone
  | some g =>
    have hkey := Field.mem_keys_of_answersTo (Record.field?_label hfind)
    rw [h.eq_of_mem (List.mem_of_find?_eq_some hfind) hf hkey List.mem_cons_self]

end Record.KeysApart

/-! ## Objects -/

namespace Record

variable {rec : Record α} {d e : Draft α} {m : Literal × Tree} {f : Field α}

/-- The field that a key as it is written names. -/
def named? (rec : Record α) (key : Literal) : Option (Field α) := key.text?.bind rec.field?

/-- A key as it is written that names no field. -/
def Unknown (rec : Record α) (key : Literal) : Prop :=
  ∃ k, key.text? = some k ∧ rec.field? k = none

/-- What a member puts into a draft. -/
def member? (rec : Record α) (d : Draft α) (m : Literal × Tree) : Option (Draft α) :=
  m.1.text?.bind fun key =>
    match rec.field? key with
    | none => some d
    | some f =>
      if d.seen.contains f.label then none
      else (f.put? m.2 d.record).map fun a => ⟨f.label :: d.seen, a⟩

theorem mem_of_named? {key : Literal} (h : rec.named? key = some f) : f ∈ rec.fields := by
  obtain ⟨k, -, hf⟩ := Option.bind_eq_some_iff.mp h
  exact List.mem_of_find?_eq_some hf

theorem member?_of_named (h : rec.named? m.1 = some f) :
    rec.member? d m =
      if f.label ∈ d.seen then none
      else (f.put? m.2 d.record).map fun a => ⟨f.label :: d.seen, a⟩ := by
  obtain ⟨k, hk, hf⟩ := Option.bind_eq_some_iff.mp h
  simp [member?, hk, hf]

theorem member?_of_unknown (h : rec.Unknown m.1) : rec.member? d m = some d := by
  obtain ⟨k, hk, hf⟩ := h
  simp [member?, hk, hf]

/-- **What a member can put into a draft**: nothing if it is of no field, and otherwise its value
for a field that has not been seen. -/
theorem member?_eq_some : rec.member? d m = some e ↔
    rec.Unknown m.1 ∧ e = d ∨
      ∃ f a, rec.named? m.1 = some f ∧ f.label ∉ d.seen ∧ f.put? m.2 d.record = some a ∧
        e = ⟨f.label :: d.seen, a⟩ := by
  constructor
  · intro h
    obtain ⟨k, hk, hmember⟩ := Option.bind_eq_some_iff.mp h
    cases hf : rec.field? k with
    | none =>
      rw [member?_of_unknown ⟨k, hk, hf⟩] at h
      exact Or.inl ⟨⟨k, hk, hf⟩, (Option.some.inj h).symm⟩
    | some f =>
      have hnamed : rec.named? m.1 = some f := Option.bind_eq_some_iff.mpr ⟨k, hk, hf⟩
      rw [member?_of_named hnamed] at h
      split at h
      · contradiction
      · obtain ⟨a, ha, rfl⟩ := Option.map_eq_some_iff.mp h
        exact Or.inr ⟨f, a, hnamed, ‹_›, ha, rfl⟩
  · rintro (⟨hunknown, rfl⟩ | ⟨f, a, hnamed, hseen, ha, rfl⟩)
    · exact member?_of_unknown hunknown
    · rw [member?_of_named hnamed, if_neg hseen, ha]
      rfl

/-- The record of a draft, if no required field is missing. -/
def finish? (rec : Record α) (d : Draft α) : Option α :=
  if rec.fields.any fun f => f.required && !d.seen.contains f.label then none else some d.record

/-- The record of an object. -/
def object? (rec : Record α) (ms : List (Literal × Tree)) : Option α :=
  (ms.foldlM rec.member? ⟨[], rec.blank⟩).bind rec.finish?

theorem refuseInObject_yields (cause : Cause) (P Q : List Char → Prop) :
    (refuseInObject cause : Reader α).Yields P none Q := by
  refine Yields.bind_none fun c => ?_
  split
  · exact Yields.bind_none fun _ => fail_yields _ _ _ _
  · exact fail_yields _ _ _ _

theorem refuseInList_yields (cause : Cause) (P Q : List Char → Prop) :
    (refuseInList cause : Reader α).Yields P none Q := by
  refine Yields.bind_none fun c => ?_
  split
  · exact Yields.bind_none fun _ => fail_yields _ _ _ _
  · split
    · exact Yields.bind_none fun _ => Yields.bind_none fun _ => fail_yields _ _ _ _
    · exact fail_yields _ _ _ _

theorem member_yields (h : rec.Faithful) (d : Draft α) (m : Literal × Tree) {toks : List Token}
    (htoks : Stops toks) :
    (rec.member d).Yields
      (Behind (.scalar (.string m.1)) (.mark .colon :: (m.2.tokens ++ toks))) (rec.member? d m)
      (Laid toks) := by
  refine (stringBody_yields m.1 _).bind fun key _ => ?_
  cases hf : rec.field? key with
  | none =>
    exact (colon_yields _).andThen ((skipValue_reads m.2 toks htoks).andThen (pure_yields d _))
  | some f =>
    simp only
    split
    · exact refuseInObject_yields _ _ _
    · have hread := h f (List.mem_of_find?_eq_some hf) m.2 toks htoks
      refine (colon_yields _).andThen ?_
      unfold Field.put?
      rw [Option.map_bind]
      refine hread.bind fun update _ => ?_
      simp only [Function.comp_apply]
      cases update d.record with
      | ok a => exact pure_yields _ _
      | error cause => exact refuseInObject_yields _ _ _

theorem finish_yields (d : Draft α) (P : List Char → Prop) :
    (rec.finish d).Yields P (rec.finish? d) P := by
  unfold finish finish?
  cases hfind : rec.fields.find? fun f => f.required && !d.seen.contains f.label with
  | none =>
    rw [if_neg (by simpa using hfind)]
    exact pure_yields _ _
  | some f =>
    rw [if_pos (List.any_eq_true.mpr ⟨f, List.mem_of_find?_eq_some hfind,
      List.find?_some hfind⟩)]
    exact fail_yields _ _ _ _

theorem fromObject_yields (h : rec.Faithful) (ms : List (Literal × Tree)) (toks : List Token) :
    rec.fromObject.Yields
      (Laid (enclosed .closeObject
        (ms.map fun m => .scalar (.string m.1) :: .mark .colon :: m.2.tokens) ++ toks))
      (rec.object? ms) (Laid toks) := by
  refine enclosed_yields anotherMember_close firstMember_close (fun m _ toks htoks => ?_)
    (fun d => finish_yields d _) ⟨[], rec.blank⟩
  exact ⟨_, firstMember_key m.1 _, anotherMember_comma m.1 _,
    fun d => member_yields h d m htoks⟩

/-! ## Lists -/

/-- The record that fields make of the items of a list, each of its own. -/
def elements? : List (Field α) → List Tree → α → Option α
  | [], [], a => some a
  | [], _ :: _, _ => none
  | f :: fs, [], a => if (f :: fs).any (·.required) then none else some a
  | f :: fs, t :: ts, a => (f.put? t a).bind (elements? fs ts)

/-- The items to come in a list of which `present` items have been read. -/
def itemsFrom : (present : Nat) → List Tree → List Token
  | 0, ts => enclosed .closeList (ts.map Tree.tokens)
  | _ + 1, ts => separated .closeList (ts.map Tree.tokens)

theorem nextItem_close (present : Nat) (toks : List Token) :
    (if present = 0 then firstItem else anotherItem).Yields (Laid (itemsFrom present [] ++ toks))
      (some false) (Laid toks) := by
  cases present with
  | zero => exact firstItem_close toks
  | succ present => exact anotherItem_close toks

theorem nextItem_value (present : Nat) (t : Tree) (ts : List Tree) (toks : List Token) :
    (if present = 0 then firstItem else anotherItem).Yields
      (Laid (itemsFrom present (t :: ts) ++ toks)) (some true)
      (Laid (t.tokens ++ (itemsFrom (present + 1) ts ++ toks))) := by
  cases present with
  | zero =>
    rw [itemsFrom, List.map_cons, enclosed, List.append_assoc]
    exact firstItem_value t _
  | succ present =>
    rw [itemsFrom, List.map_cons, separated, List.cons_append, List.append_assoc]
    exact anotherItem_comma t _

theorem endOfRecord_close (present : Nat) (toks : List Token) :
    endOfRecord.Yields (Laid (itemsFrom present [] ++ toks)) (some ()) (Laid toks) := by
  cases present <;> exact (peekToken_yields _).andThen (advance_mark .closeList toks)

/-- A list with more items than fields is refused. -/
theorem endOfRecord_value (present : Nat) (t : Tree) (ts : List Tree) (toks : List Token)
    (Q : List Char → Prop) :
    endOfRecord.Yields (Laid (itemsFrom present (t :: ts) ++ toks)) none Q := by
  have hfirst : ∃ c, firstChar (itemsFrom present (t :: ts) ++ toks) = some c ∧ c ≠ ']' := by
    cases present with
    | zero =>
      rw [itemsFrom, List.map_cons, enclosed, List.append_assoc]
      obtain ⟨c, hc, hopens⟩ := exists_opens t (separated .closeList (ts.map Tree.tokens) ++ toks)
      exact ⟨c, hc, hopens.ne_bracket⟩
    | succ present => exact ⟨',', rfl, by decide⟩
  obtain ⟨c, hc, hclose⟩ := hfirst
  refine (peekToken_yields _).andThen ?_
  simp only [hc, if_neg hclose]
  split
  · refine Yields.bind_none fun _ => Yields.bind_none fun _ => ?_
    split <;> exact fail_yields _ _ _ _
  · exact fail_yields _ _ _ _

theorem elements_yields (hrec : rec.Faithful) {fs : List (Field α)} (hfs : fs ⊆ rec.fields)
    (present : Nat) (a : α) (ts : List Tree) (toks : List Token) :
    (rec.elements present a fs).Yields (Laid (itemsFrom present ts ++ toks)) (elements? fs ts a)
      (Laid toks) := by
  induction fs generalizing present a ts with
  | nil =>
    cases ts with
    | nil => exact (endOfRecord_close present toks).andThen (pure_yields a _)
    | cons t ts => exact (endOfRecord_value present t ts toks (Laid toks)).none_bind
  | cons f fs ih =>
    cases ts with
    | nil =>
      refine (nextItem_close present toks).andThen ?_
      rw [if_neg (by decide), elements?]
      split
      · exact fail_yields _ _ _ _
      · exact pure_yields a _
    | cons t ts =>
      have hread := hrec f (hfs List.mem_cons_self) t (itemsFrom (present + 1) ts ++ toks)
        (stops_separated _ _ _)
      refine (nextItem_value present t ts toks).andThen ?_
      rw [if_pos rfl, elements?, Field.put?, Option.bind_assoc]
      refine hread.bind fun update _ => ?_
      cases update a with
      | ok b => exact ih (List.subset_of_cons_subset hfs) (present + 1) b ts
      | error cause => exact refuseInList_yields _ _ _

/-! ## Records -/

/-- What a record makes of a document. -/
def tree? (rec : Record α) : Tree → Option α
  | .scalar _ => none
  | .list ts => elements? rec.fields ts rec.blank
  | .object ms => rec.object? ms

/-- **The reader of a record makes of a document what its fields make of the parts.** -/
theorem read_reads (hrec : rec.Faithful) (t : Tree) : rec.read.Reads t (rec.tree? t) := by
  intro toks _
  match t with
  | .list ts =>
    rw [Tree.tokens, itemTokens_eq_map]
    exact (peekToken_yields _).andThen <| (advance_mark .openList _).andThen <|
      elements_yields hrec (List.Subset.refl _) 0 rec.blank ts toks
  | .object ms =>
    rw [Tree.tokens, memberTokens_eq_map]
    exact (peekToken_yields _).andThen <| (advance_mark .openObject _).andThen <|
      fromObject_yields hrec ms toks
  | .scalar s =>
    obtain ⟨c, hc, hopens⟩ := exists_opens (.scalar s) toks
    have hlist : some c ≠ some '[' := fun h => by
      obtain ⟨ts, h⟩ := hopens.bracket (Option.some.inj h)
      cases h
    have hobject : some c ≠ some '{' := fun h => by
      obtain ⟨ms, h⟩ := hopens.brace (Option.some.inj h)
      cases h
    refine (peekToken_yields _).andThen ?_
    rw [hc, if_neg hlist, if_neg hobject]
    exact refuse_yields _ _ _

theorem faithful_read (hrec : rec.Faithful) : rec.read.Faithful :=
  faithful_of_reads (read_reads hrec)

/-- **What a source is read as depends on its document alone.** -/
theorem ofSource_toOption (hrec : rec.Faithful) {t : Tree} {source : String}
    (h : t.Spells source) : (rec.ofSource source).toOption = rec.tree? t := by
  have hread : (document rec.read).Yields (Laid t.tokens) (rec.tree? t) (At []) := by
    have ht := read_reads hrec t [] stops_nil
    rw [List.append_nil] at ht
    rw [← Option.bind_fun_some (rec.tree? t)]
    exact ht.bind fun a _ => (peekToken_yields []).andThen (pure_yields a _)
  have hrun := hread source.toList h
  unfold ofSource
  match (document rec.read).run source.toList, hrun with
  | .ok (a, _), ⟨ho, _⟩ => exact ho.symm
  | .error _, ho => exact ho.symm

end Record

end ErSchema.Json
