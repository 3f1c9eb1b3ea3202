import ErSchema.Proofs.Json.Writing

/-!
# Values over several lines

A value that is written over several lines spells the document that its compact text spells: the
tokens are the same, with new lines and spaces before them. `Tree.IsLaidOutAs` says so of a document
and a value wherever they stand in a text, so that objects are laid out member by member. An object
of booleans is given line by line.

* `isLaidOutAs_boolean`, `isLaidOutAs_object`: booleans and objects, from their members.
* `spells_pretty`: what is written over several lines, with the end of a line, is a document.
* `pretty_booleans`: the lines of an object of booleans.
-/

namespace ErSchema.Json

variable {toks : List Token} {r : List Char}

/-! ## White space -/

theorem laid_blanks {blanks : List Char} (hblanks : ∀ c ∈ blanks, isSpace c = true)
    (h : Laid toks r) : Laid toks (blanks ++ r) := by
  cases toks with
  | nil => exact List.forall_mem_append.mpr ⟨hblanks, h⟩
  | cons tok toks =>
    obtain ⟨more, rest, hmore, rfl, hrest⟩ := h
    exact ⟨blanks ++ more, rest, List.forall_mem_append.mpr ⟨hblanks, hmore⟩,
      (List.append_assoc _ _ _).symm, hrest⟩

theorem laid_newline (level : Nat) (h : Laid toks r) : Laid toks (newline level ++ r) := by
  refine laid_blanks (fun c hc => ?_) h
  rcases List.mem_cons.mp hc with rfl | hc
  · rfl
  · rw [List.eq_of_mem_replicate hc]
    rfl

theorem laid_cons (tok : Token) (h : Laid toks r) : Laid (tok :: toks) (tok.text ++ r) :=
  ⟨[], r, fun _ hc => absurd hc List.not_mem_nil, rfl, h⟩

/-! ## Values -/

/-- Whether what is written for a value at a level of nesting spells a document, wherever it stands
in a text. -/
def Tree.IsLaidOutAs (t : Tree) (level : Nat) (v : Json) : Prop :=
  ∀ toks r, Laid toks r → Laid (t.tokens ++ toks) (prettyText level v ++ r)

theorem isLaidOutAs_boolean (level : Nat) (b : Bool) :
    (booleanTree b).IsLaidOutAs level (.boolean b) := by
  intro toks r h
  cases b <;> exact laid_cons _ h

/-- Whether a member of a document is written for a member of an object. -/
def IsMemberAs (level : Nat) (m : Literal × Tree) (p : String × Json) : Prop :=
  m.1 = literalOf p.1 ∧ m.2.IsLaidOutAs level p.2

/-- A member is its key, a colon with a space behind it, and its value. -/
theorem laid_member {level : Nat} {m : Literal × Tree} {p : String × Json}
    (hm : IsMemberAs level m p) (h : Laid toks r) :
    Laid (.scalar (.string m.1) :: .mark .colon :: (m.2.tokens ++ toks))
      (stringText p.1 ++ ':' :: ' ' :: (prettyText level p.2 ++ r)) := by
  obtain ⟨hkey, hvalue⟩ := hm
  have hspace : Laid (m.2.tokens ++ toks) (' ' :: (prettyText level p.2 ++ r)) :=
    laid_blanks (by simp [isSpace] : ∀ c ∈ [' '], isSpace c = true) (hvalue toks r h)
  rw [hkey, ← body_literalOf]
  exact laid_cons _ (laid_cons (.mark .colon) hspace)

theorem laid_members {level : Nat} {ms : List (Literal × Tree)} {ps : List (String × Json)}
    (hms : List.Forall₂ (IsMemberAs (level + 1)) ms ps) (h : Laid toks r) :
    Laid (separated .closeObject
        (ms.map fun m => .scalar (.string m.1) :: .mark .colon :: m.2.tokens) ++ toks)
      (prettyMembers (level + 1) ps ++ (newline level ++ '}' :: r)) := by
  induction hms with
  | nil => exact laid_newline level (laid_cons (.mark .closeObject) h)
  | cons hm _ ih =>
    have hfirst := laid_cons (.mark .comma) (laid_newline (level + 1) (laid_member hm ih))
    simpa [separated, prettyMembers, Token.text, Mark.char] using hfirst

/-- **An object is laid out member by member.** -/
theorem isLaidOutAs_object {level : Nat} {ms : List (Literal × Tree)} {ps : List (String × Json)}
    (hms : List.Forall₂ (IsMemberAs (level + 1)) ms ps) :
    (Tree.object ms).IsLaidOutAs level (.object ps) := by
  intro toks r h
  rw [Tree.tokens, memberTokens_eq_map]
  cases hms with
  | nil => exact laid_cons (.mark .openObject) (laid_cons (.mark .closeObject) h)
  | cons hm hrest =>
    have hmembers := laid_member hm (laid_members hrest h)
    have hobject := laid_cons (.mark .openObject) (laid_newline (level + 1) hmembers)
    simpa [enclosed, prettyText, Token.text, Mark.char] using hobject

/-- **What is written over several lines is a document**, with the end of a line behind it. -/
theorem spells_pretty {t : Tree} {v : Json} (h : t.IsLaidOutAs 0 v) :
    t.Spells (v.pretty ++ "\n") := by
  have hend : Laid [] ['\n'] := by simp [Laid, isSpace]
  unfold Tree.Spells pretty
  rw [String.toList_append, String.toList_ofList, ← List.append_nil t.tokens]
  exact h [] ['\n'] hend

/-! ## Lines -/

/-- The line of a boolean in an object. -/
def memberLine (m : String × Bool) : String :=
  "  \"" ++ m.1 ++ "\": " ++ if m.2 then "true" else "false"

/-- Whether a text is written as it is. -/
def IsUnescaped (s : String) : Prop := ∀ c ∈ s.toList, escapedChar c = [c]

instance (s : String) : Decidable (IsUnescaped s) :=
  List.decidableBAll (fun c => escapedChar c = [c]) s.toList

theorem stringText_of_isUnescaped {s : String} (h : IsUnescaped s) :
    stringText s = '\"' :: s.toList ++ ['\"'] := by
  unfold stringText
  rw [List.flatMap_congr h, List.flatMap_singleton']

theorem toList_memberLine {m : String × Bool} (h : IsUnescaped m.1) :
    (memberLine m).toList =
      ' ' :: ' ' :: (stringText m.1 ++ ':' :: ' ' :: prettyText 1 (.boolean m.2)) := by
  rw [stringText_of_isUnescaped h]
  cases hm : m.2 <;> simp [memberLine, hm, prettyText]

/-- The lines of an object are set apart by commas. -/
theorem intercalate_memberLine {m : String × Bool} {ms : List (String × Bool)}
    (h : ∀ p ∈ m :: ms, IsUnescaped p.1) :
    [',', '\n'].intercalate ((m :: ms).map fun p => (memberLine p).toList) =
      (memberLine m).toList ++ prettyMembers 1 (ms.map fun p => (p.1, .boolean p.2)) := by
  induction ms generalizing m with
  | nil => simp [prettyMembers]
  | cons p ms ih =>
    obtain ⟨hm, hrest⟩ := List.forall_mem_cons.mp h
    have hp : IsUnescaped p.1 := hrest p List.mem_cons_self
    have hlines := ih hrest
    rw [List.map_cons] at hlines
    rw [List.map_cons, List.map_cons, List.intercalate_cons_cons, hlines, toList_memberLine hp]
    simp [prettyMembers, newline, List.replicate]

/-- **An object of booleans is written line by line.** -/
theorem pretty_booleans {ms : List (String × Bool)} (hne : ms ≠ [])
    (h : ∀ m ∈ ms, IsUnescaped m.1) :
    (Json.object (ms.map fun m => (m.1, .boolean m.2))).pretty =
      "\x7b\n" ++ ",\n".intercalate (ms.map memberLine) ++ "\n\x7d" := by
  obtain ⟨m, ms, rfl⟩ := List.exists_cons_of_ne_nil hne
  rw [← String.toList_inj]
  have hlines := intercalate_memberLine h
  have hm := toList_memberLine (h m List.mem_cons_self)
  simp only [pretty, String.toList_ofList, String.toList_append, String.toList_intercalate,
    List.map_map, Function.comp_def, String.reduceToList] at hlines ⊢
  rw [hlines, hm]
  simp [prettyText, newline, List.replicate]

end ErSchema.Json
