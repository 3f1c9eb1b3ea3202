import ErSchema.Proofs.Json.Records
import Mathlib.Data.List.Nodup
import Mathlib.Data.List.Pairwise

/-!
# Records do not depend on how they are spelled

The object of a record may have its members in another order and under other keys of their fields,
members of no field in any number, and members that only say what holds without them. A record is
read to the same value however its document is respelled in this way, if its fields are independent:
what one of them puts into the record another leaves as it is.

* `Record.Respells`: one step of respelling, at the members of an object or inside one value.
* `Record.foldlM_perm`: members may be read in any order.
* `Record.foldlM_agree`: members do not depend on what has been seen of the fields of others.
* `Record.keeps_read`: **a respelled document holds the same record.**
-/

namespace ErSchema.Json

variable {α β : Type}

/-! ## Respellings -/

namespace Record

/-- A value that says of a field what holds without it. -/
structure IsDefault (rec : Record α) (f : Field α) (v : Tree) : Prop where
  not_required : f.required = false
  put : f.put? v rec.blank = some rec.blank

/-- Whether for each field that may be absent some value says what holds without it. -/
def HasDefaults (rec : Record α) : Prop :=
  ∀ f ∈ rec.fields, f.required = false → ∃ v, rec.IsDefault f v

/-- A document of a record is respelled in one place. The relation `inner` holds the respellings of
the values of a field, which is given by its label. -/
inductive Respells (rec : Record α) (inner : String → Tree → Tree → Prop) : Tree → Tree → Prop
  /-- The members of an object are put in another order. -/
  | permuted {ms ms' : List (Literal × Tree)} (perm : ms.Perm ms') :
    Respells rec inner (.object ms) (.object ms')
  /-- A member goes by another key of its field. -/
  | renamed {before after : List (Literal × Tree)} {key key' : Literal} {v : Tree} {f : Field α}
    (named : rec.named? key = some f) (named' : rec.named? key' = some f) :
    Respells rec inner (.object (before ++ (key, v) :: after))
      (.object (before ++ (key', v) :: after))
  /-- A member of no field is inserted. -/
  | inserted {before after : List (Literal × Tree)} {key : Literal} {v : Tree}
    (unknown : rec.Unknown key) :
    Respells rec inner (.object (before ++ after)) (.object (before ++ (key, v) :: after))
  /-- A member that says what holds without it is left out. -/
  | omitted {before after : List (Literal × Tree)} {key : Literal} {v : Tree} {f : Field α}
    (named : rec.named? key = some f) (default : rec.IsDefault f v) :
    Respells rec inner (.object (before ++ (key, v) :: after)) (.object (before ++ after))
  /-- A member that says what holds without it is put in, where none of its field stands. -/
  | supplied {before after : List (Literal × Tree)} {key : Literal} {v : Tree} {f : Field α}
    (named : rec.named? key = some f) (default : rec.IsDefault f v)
    (absent : ∀ m ∈ before ++ after, rec.named? m.1 ≠ some f) :
    Respells rec inner (.object (before ++ after)) (.object (before ++ (key, v) :: after))
  /-- The value of a member is respelled. -/
  | member {before after : List (Literal × Tree)} {key : Literal} {v v' : Tree} {f : Field α}
    (named : rec.named? key = some f) (value : inner f.label v v') :
    Respells rec inner (.object (before ++ (key, v) :: after))
      (.object (before ++ (key, v') :: after))
  /-- An item of a record that is written as a list is respelled. -/
  | item {before after : List Tree} {v v' : Tree} {f : Field α}
    (field : rec.fields[before.length]? = some f) (value : inner f.label v v') :
    Respells rec inner (.list (before ++ v :: after)) (.list (before ++ v' :: after))

/-- A value that is read as what the blank record has in a field says what holds without it. -/
theorem isDefault_plain {rec : Record α} {item : Reader β} (hitem : item.Faithful) {v : Tree}
    {x : β} (hv : item.on v = some x) {set : β → α → α} (hset : set x rec.blank = rec.blank)
    (label : String) : rec.IsDefault (Field.plain label false item set) v where
  not_required := rfl
  put := by simp only [Field.put?_plain hitem, hv, Option.map_some, hset]

end Record

/-- An item of a list is respelled. -/
inductive ItemRespells (inner : Tree → Tree → Prop) : Tree → Tree → Prop
  | item {before after : List Tree} {v v' : Tree} (value : inner v v') :
    ItemRespells inner (.list (before ++ v :: after)) (.list (before ++ v' :: after))

/-! ## What respelling keeps -/

/-- A reader makes of a respelled document what it made of it before. -/
def Reader.Keeps (x : Reader α) (R : Tree → Tree → Prop) : Prop :=
  ∀ t t', R t t' → ∀ a, x.on t = some a → x.on t' = some a

/-- A field puts by a respelled value what it put before. -/
def Field.Keeps (f : Field α) (R : Tree → Tree → Prop) : Prop :=
  ∀ t t', R t t' → ∀ a b, f.put? t a = some b → f.put? t' a = some b

theorem Field.keeps_plain {item : Reader β} (h : item.Faithful) {R : Tree → Tree → Prop}
    (hkeeps : item.Keeps R) (label : String) (required : Bool) (set : β → α → α) :
    (Field.plain label required item set).Keeps R := by
  intro t t' hR a b hb
  rw [Field.put?_plain h] at hb ⊢
  obtain ⟨x, hx, rfl⟩ := Option.map_eq_some_iff.mp hb
  exact Option.map_eq_some_iff.mpr ⟨x, hkeeps t t' hR x hx, rfl⟩

theorem Field.keeps_of_forall_not (f : Field α) {R : Tree → Tree → Prop} (h : ∀ t t', ¬R t t') :
    f.Keeps R :=
  fun t t' hR => absurd hR (h t t')

/-- **A list holds the same values** if the item that is respelled does. -/
theorem Reader.Keeps.list {item : Reader α} (h : item.Faithful) {R : Tree → Tree → Prop}
    (hkeeps : item.Keeps R) : (Reader.list item).Keeps (ItemRespells R) := by
  rintro _ _ ⟨value⟩ as has
  rw [(list_reads h _).on_eq] at has ⊢
  simp only [Tree.list?, List.mapM_append, List.mapM_cons] at has ⊢
  rename_i before after v v'
  cases hv : item.on v with
  | none => simp [hv] at has
  | some a => rwa [hkeeps v v' value a hv, ← hv]

/-! ## Drafts that agree -/

/-- Drafts of the same record in which the same fields have been seen, of those in question. -/
structure Draft.Agree (p : String → Prop) (d d' : Draft α) : Prop where
  record : d.record = d'.record
  seen : ∀ label, p label → (label ∈ d.seen ↔ label ∈ d'.seen)

theorem Draft.Agree.refl (p : String → Prop) (d : Draft α) : d.Agree p d :=
  ⟨rfl, fun _ _ => Iff.rfl⟩

theorem Draft.Agree.symm {p : String → Prop} {d d' : Draft α} (h : d.Agree p d') :
    d'.Agree p d :=
  ⟨h.record.symm, fun label hl => (h.seen label hl).symm⟩

theorem Draft.Agree.trans {p : String → Prop} {d d' d'' : Draft α} (h : d.Agree p d')
    (h' : d'.Agree p d'') : d.Agree p d'' :=
  ⟨h.record.trans h'.record, fun label hl => (h.seen label hl).trans (h'.seen label hl)⟩

namespace Record

variable {rec : Record α} {d d' e : Draft α} {m m' : Literal × Tree} {f : Field α}
  {p : String → Prop}

/-- A member puts the same into drafts that agree on its field. -/
theorem member?_agree (hp : ∀ f, rec.named? m.1 = some f → p f.label) (h : d.Agree p d')
    (he : rec.member? d m = some e) : ∃ e', rec.member? d' m = some e' ∧ e.Agree p e' := by
  rcases member?_eq_some.mp he with ⟨hunknown, rfl⟩ | ⟨f, a, hnamed, hseen, ha, rfl⟩
  · exact ⟨d', member?_of_unknown hunknown, h⟩
  · have hseen' : f.label ∉ d'.seen := fun hmem => hseen ((h.seen _ (hp f hnamed)).mpr hmem)
    refine ⟨_, member?_eq_some.mpr (Or.inr ⟨f, a, hnamed, hseen', h.record ▸ ha, rfl⟩), rfl, ?_⟩
    intro label hl
    simp only [List.mem_cons, h.seen label hl]

/-- **Members do not depend on what has been seen of the fields of others.** -/
theorem foldlM_agree {ms : List (Literal × Tree)}
    (hp : ∀ m ∈ ms, ∀ f, rec.named? m.1 = some f → p f.label) (h : d.Agree p d')
    (he : ms.foldlM rec.member? d = some e) :
    ∃ e', ms.foldlM rec.member? d' = some e' ∧ e.Agree p e' := by
  induction ms generalizing d d' with
  | nil =>
    cases he
    exact ⟨d', rfl, h⟩
  | cons m ms ih =>
    rw [List.foldlM_cons] at he
    obtain ⟨d₁, hd₁, he⟩ := Option.bind_eq_some_iff.mp he
    obtain ⟨d₂, hd₂, hagree⟩ := member?_agree (hp m List.mem_cons_self) h hd₁
    obtain ⟨e', he', hagree'⟩ := ih (fun n hn => hp n (List.mem_cons_of_mem m hn)) hagree he
    refine ⟨e', ?_, hagree'⟩
    rw [List.foldlM_cons, hd₂]
    exact he'

/-- A record is complete in drafts that agree on the required fields. -/
theorem finish?_agree (hp : ∀ f ∈ rec.fields, f.required = true → p f.label) (h : d.Agree p d') :
    rec.finish? d' = rec.finish? d := by
  have hany : (rec.fields.any fun f => f.required && !d'.seen.contains f.label) =
      rec.fields.any fun f => f.required && !d.seen.contains f.label := by
    rw [Bool.eq_iff_iff, List.any_eq_true, List.any_eq_true]
    refine exists_congr fun f => and_congr_right fun hf => ?_
    simp only [Bool.and_eq_true, Bool.not_eq_true', List.contains_eq_mem, decide_eq_false_iff_not]
    exact and_congr_right fun hrequired => not_congr (h.seen _ (hp f hf hrequired)).symm
  unfold finish?
  rw [hany, h.record]

/-! ## The order of members -/

/-- A record of which no two fields have one key and each leaves what the others put into it. -/
structure Lawful (rec : Record α) : Prop where
  keys : rec.KeysApart
  commute : rec.fields.Pairwise fun f g => ∀ u v a,
    (f.put? u a).bind (g.put? v) = (g.put? v a).bind (f.put? u)

theorem Lawful.commute_of_ne (hrec : rec.Lawful) {g : Field α} (hf : f ∈ rec.fields)
    (hg : g ∈ rec.fields) (hne : f.label ≠ g.label) (u v : Tree) (a : α) :
    (f.put? u a).bind (g.put? v) = (g.put? v a).bind (f.put? u) := by
  have : Std.Symm fun f g : Field α => ∀ u v a,
      (f.put? u a).bind (g.put? v) = (g.put? v a).bind (f.put? u) :=
    ⟨fun f g h u v a => (h v u a).symm⟩
  exact hrec.commute.forall hf hg (fun h => hne (congrArg _ h)) u v a

theorem Lawful.eq_of_label (hrec : rec.Lawful) {g : Field α} (hf : f ∈ rec.fields)
    (hg : g ∈ rec.fields) (h : f.label = g.label) : f = g :=
  hrec.keys.eq_of_mem hf hg List.mem_cons_self (h ▸ List.mem_cons_self)

/-- A field that is found by its label keeps what respelling its values keeps. -/
theorem Lawful.keeps_plain (hrec : rec.Lawful) {label : String} (hf : f ∈ rec.fields)
    (hlabel : f.label = label) {required : Bool} {item : Reader β} {set : β → α → α}
    (hfield : rec.field? label = some (Field.plain label required item set))
    (hitem : item.Faithful) {R : Tree → Tree → Prop} (hkeeps : item.Keeps R) : f.Keeps R := by
  obtain rfl := hrec.eq_of_label hf (List.mem_of_find?_eq_some hfield) hlabel
  exact Field.keeps_plain hitem hkeeps label required set

/-- Two members may be read in either order. -/
theorem member?_swap (hrec : rec.Lawful) (hd : rec.member? d m = some d')
    (he : rec.member? d' m' = some e) :
    ∃ d'' e', rec.member? d m' = some d'' ∧ rec.member? d'' m = some e' ∧
      e.Agree (fun _ => True) e' := by
  rcases member?_eq_some.mp hd with ⟨hunknown, rfl⟩ | ⟨f, a, hnamed, hseen, ha, rfl⟩
  · exact ⟨e, e, he, member?_of_unknown hunknown, .refl _ e⟩
  · rcases member?_eq_some.mp he with ⟨hunknown, rfl⟩ | ⟨g, b, hnamed', hseen', hb, rfl⟩
    · exact ⟨d, _, member?_of_unknown hunknown, hd, .refl _ _⟩
    · obtain ⟨hne, hseen''⟩ : g.label ≠ f.label ∧ g.label ∉ d.seen := by simpa using hseen'
      have hcommute := hrec.commute_of_ne (mem_of_named? hnamed) (mem_of_named? hnamed')
        (Ne.symm hne) m.2 m'.2 d.record
      rw [ha, Option.bind_some, hb] at hcommute
      obtain ⟨c, hc, hfc⟩ := Option.bind_eq_some_iff.mp hcommute.symm
      refine ⟨⟨g.label :: d.seen, c⟩, ⟨f.label :: g.label :: d.seen, b⟩, ?_, ?_, rfl, ?_⟩
      · exact member?_eq_some.mpr (Or.inr ⟨g, c, hnamed', hseen'', hc, rfl⟩)
      · refine member?_eq_some.mpr (Or.inr ⟨f, b, hnamed, ?_, hfc, rfl⟩)
        simp [Ne.symm hne, hseen]
      · intro label _
        simp [or_left_comm]

/-- **Members may be read in any order.** -/
theorem foldlM_perm (hrec : rec.Lawful) {ms ms' : List (Literal × Tree)} (hperm : ms.Perm ms')
    (he : ms.foldlM rec.member? d = some e) :
    ∃ e', ms'.foldlM rec.member? d = some e' ∧ e.Agree (fun _ => True) e' := by
  induction hperm generalizing d e with
  | nil => exact ⟨e, he, .refl _ e⟩
  | cons m _ ih =>
    obtain ⟨d', hd', he⟩ := Option.bind_eq_some_iff.mp he
    obtain ⟨e', he', hagree⟩ := ih he
    exact ⟨e', Option.bind_eq_some_iff.mpr ⟨d', hd', he'⟩, hagree⟩
  | swap m m' ms =>
    obtain ⟨d₁, hd₁, he⟩ := Option.bind_eq_some_iff.mp he
    obtain ⟨d₂, hd₂, he⟩ := Option.bind_eq_some_iff.mp he
    obtain ⟨d₃, d₄, hd₃, hd₄, hagree⟩ := member?_swap hrec hd₁ hd₂
    obtain ⟨e', he', hagree'⟩ := foldlM_agree (fun _ _ _ _ => trivial) hagree he
    exact ⟨e', Option.bind_eq_some_iff.mpr
      ⟨d₃, hd₃, Option.bind_eq_some_iff.mpr ⟨d₄, hd₄, he'⟩⟩, hagree'⟩
  | trans _ _ ih ih' =>
    obtain ⟨e', he', hagree⟩ := ih he
    obtain ⟨e'', he'', hagree'⟩ := ih' he'
    exact ⟨e'', he'', hagree.trans hagree'⟩

/-! ## Respelled records -/

theorem object?_perm (hrec : rec.Lawful) {ms ms' : List (Literal × Tree)} (hperm : ms.Perm ms')
    {a : α} (ha : rec.object? ms = some a) : rec.object? ms' = some a := by
  obtain ⟨e, he, ha⟩ := Option.bind_eq_some_iff.mp ha
  obtain ⟨e', he', hagree⟩ := foldlM_perm hrec hperm he
  exact Option.bind_eq_some_iff.mpr
    ⟨e', he', (finish?_agree (fun _ _ _ => trivial) hagree).trans ha⟩

/-- Members that put the same into every draft may stand for each other. -/
theorem object?_replace {before after : List (Literal × Tree)}
    (h : ∀ d e, rec.member? d m = some e → rec.member? d m' = some e) {a : α}
    (ha : rec.object? (before ++ m :: after) = some a) :
    rec.object? (before ++ m' :: after) = some a := by
  unfold object? at ha ⊢
  simp only [List.foldlM_append, List.foldlM_cons] at ha ⊢
  obtain ⟨e, he, ha⟩ := Option.bind_eq_some_iff.mp ha
  obtain ⟨d, hd, he⟩ := Option.bind_eq_some_iff.mp he
  obtain ⟨d', hd', he⟩ := Option.bind_eq_some_iff.mp he
  exact Option.bind_eq_some_iff.mpr ⟨e, Option.bind_eq_some_iff.mpr
    ⟨d, hd, Option.bind_eq_some_iff.mpr ⟨d', h d d' hd', he⟩⟩, ha⟩

/-- A member of no field may stand or not. -/
theorem object?_insert_unknown {before after : List (Literal × Tree)} (h : rec.Unknown m.1) :
    rec.object? (before ++ m :: after) = rec.object? (before ++ after) := by
  unfold object?
  rw [List.foldlM_append, List.foldlM_append]
  simp only [List.foldlM_cons, member?_of_unknown h, Option.bind_eq_bind, Option.bind_some]

/-- Where a field has been seen, no member of it follows. -/
theorem named?_ne_of_seen {ms : List (Literal × Tree)} (hseen : f.label ∈ d.seen)
    (he : ms.foldlM rec.member? d = some e) : ∀ m ∈ ms, rec.named? m.1 ≠ some f := by
  induction ms generalizing d with
  | nil => exact fun m hm => absurd hm List.not_mem_nil
  | cons m ms ih =>
    obtain ⟨d', hd', he'⟩ := Option.bind_eq_some_iff.mp he
    refine List.forall_mem_cons.mpr ⟨fun hnamed => ?_, ?_⟩
    · rw [member?_of_named hnamed, if_pos hseen] at hd'
      contradiction
    · rcases member?_eq_some.mp hd' with ⟨-, rfl⟩ | ⟨g, b, -, -, -, rfl⟩
      · exact ih hseen he'
      · exact ih (List.mem_cons_of_mem _ hseen) he'

/-- **A member that says what holds without it may stand or not**, where no other of its field
stands. -/
theorem object?_insert_default (hrec : rec.Lawful) {before after : List (Literal × Tree)}
    {key : Literal} {v : Tree} (hnamed : rec.named? key = some f) (hdefault : rec.IsDefault f v)
    {a : α} :
    rec.object? (before ++ (key, v) :: after) = some a ↔
      rec.object? (before ++ after) = some a ∧ ∀ m ∈ before ++ after, rec.named? m.1 ≠ some f := by
  have hmove : (before ++ (key, v) :: after).Perm ((key, v) :: (before ++ after)) :=
    List.perm_middle
  generalize before ++ after = ms at hmove ⊢
  have hfirst : rec.object? ((key, v) :: ms) =
      (ms.foldlM rec.member? ⟨[f.label], rec.blank⟩).bind rec.finish? := by
    unfold object?
    rw [List.foldlM_cons, member?_of_named hnamed, if_neg List.not_mem_nil, hdefault.put]
    rfl
  -- but for `f` the draft is blank with the member and without it
  have hagree : Draft.Agree (· ≠ f.label) ⟨[f.label], rec.blank⟩ ⟨[], rec.blank⟩ :=
    ⟨rfl, fun label hl => by simp [hl]⟩
  have hrequired : ∀ g ∈ rec.fields, g.required = true → g.label ≠ f.label := by
    intro g hg hreq hlabel
    rw [hrec.eq_of_label hg (mem_of_named? hnamed) hlabel, hdefault.not_required] at hreq
    exact Bool.noConfusion hreq
  have hothers : (∀ m ∈ ms, rec.named? m.1 ≠ some f) →
      ∀ m ∈ ms, ∀ g, rec.named? m.1 = some g → g.label ≠ f.label := by
    intro habsent m hm g hg hlabel
    rw [hrec.eq_of_label (mem_of_named? hg) (mem_of_named? hnamed) hlabel] at hg
    exact habsent m hm hg
  constructor
  · intro ha
    have ha := object?_perm hrec hmove ha
    rw [hfirst] at ha
    obtain ⟨e, he, ha⟩ := Option.bind_eq_some_iff.mp ha
    have habsent := named?_ne_of_seen List.mem_cons_self he
    obtain ⟨e', he', hagree'⟩ := foldlM_agree (hothers habsent) hagree he
    exact ⟨Option.bind_eq_some_iff.mpr ⟨e', he', (finish?_agree hrequired hagree').trans ha⟩,
      habsent⟩
  · rintro ⟨ha, habsent⟩
    refine object?_perm hrec hmove.symm ?_
    obtain ⟨e, he, ha⟩ := Option.bind_eq_some_iff.mp ha
    obtain ⟨e', he', hagree'⟩ := foldlM_agree (hothers habsent) hagree.symm he
    rw [hfirst]
    exact Option.bind_eq_some_iff.mpr ⟨e', he', (finish?_agree hrequired hagree').trans ha⟩

/-- An item of a list that puts the same into every record may be respelled. -/
theorem elements?_replace {fs : List (Field α)} {before after : List Tree} {v v' : Tree}
    (hf : fs[before.length]? = some f) (h : ∀ a b, f.put? v a = some b → f.put? v' a = some b)
    {a b : α} (hb : elements? fs (before ++ v :: after) a = some b) :
    elements? fs (before ++ v' :: after) a = some b := by
  induction before generalizing fs a with
  | nil =>
    cases fs with
    | nil => contradiction
    | cons g fs =>
      obtain rfl : g = f := by simpa using hf
      obtain ⟨c, hc, hb⟩ := Option.bind_eq_some_iff.mp hb
      exact Option.bind_eq_some_iff.mpr ⟨c, h a c hc, hb⟩
  | cons t before ih =>
    cases fs with
    | nil => contradiction
    | cons g fs =>
      obtain ⟨c, hc, hb⟩ := Option.bind_eq_some_iff.mp hb
      exact Option.bind_eq_some_iff.mpr ⟨c, hc, ih hf hb⟩

/-- **A respelled document holds the same record**, if respelled values put the same into it. -/
theorem keeps_read (hfaithful : rec.Faithful) (hrec : rec.Lawful)
    {inner : String → Tree → Tree → Prop} (hinner : ∀ f ∈ rec.fields, f.Keeps (inner f.label)) :
    rec.read.Keeps (rec.Respells inner) := by
  intro t t' h a ha
  rw [(read_reads hfaithful _).on_eq] at ha ⊢
  cases h with
  | permuted perm => exact object?_perm hrec perm ha
  | renamed named named' =>
    refine object?_replace (fun d e he => ?_) ha
    rw [member?_of_named named] at he
    rwa [member?_of_named named']
  | inserted unknown => exact (object?_insert_unknown unknown).trans ha
  | omitted named default => exact ((object?_insert_default hrec named default).mp ha).1
  | supplied named default absent =>
    exact (object?_insert_default hrec named default).mpr ⟨ha, absent⟩
  | member named value =>
    refine object?_replace (fun d e he => ?_) ha
    have hput := hinner _ (mem_of_named? named) _ _ value d.record
    rw [member?_of_named named] at he ⊢
    split at he
    · contradiction
    · rw [if_neg ‹_›]
      obtain ⟨b, hb, rfl⟩ := Option.map_eq_some_iff.mp he
      exact Option.map_eq_some_iff.mpr ⟨b, hput b hb, rfl⟩
  | item field value =>
    exact elements?_replace field (hinner _ (List.mem_of_getElem? field) _ _ value) ha

end Record

end ErSchema.Json
