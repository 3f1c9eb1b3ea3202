import ErSchema.Proofs.Json.Reading

/-!
# Any document is passed

A value that no field reads is passed without recursion: a stack holds the lists and objects that
are open, and each step passes a scalar or opens a frame, and then closes what ends there. A
document is passed inside any frames (`passing_tree`), by induction on the document: what is left to
do behind it is what the frames around it ask for.

* `closing_separated`, `passing_enclosed`: a frame is passed if each value in it is.
* `skipValue_reads`: any document is passed, to any depth.
-/

namespace ErSchema.Json

open Reader

/-- Passes values inside frames until no frame is left. -/
def passing (fs : List Frame) : Reader Unit := iterate skipStep skipStep_progress fs

/-- Goes on with the next value, if there is one. -/
def goOn : List Frame ⊕ Unit → Reader Unit
  | .inl next => passing next
  | .inr a => pure a

/-- What is done behind a value inside frames. -/
def closing (fs : List Frame) : Reader Unit := closeFrames fs >>= goOn

theorem passing_eq (fs : List Frame) : passing fs = skipStep fs >>= goOn := by
  refine (@iterate_eq _ _ skipStep skipStep_progress fs).trans (bind_congr fun next => ?_)
  cases next <;> rfl

theorem passing_scalar (s : Scalar) (fs : List Frame) {toks : List Token} (htoks : Stops toks) :
    (passing fs).Becomes (Laid (.scalar s :: toks)) (closing fs) (Laid toks) := by
  obtain ⟨c, hc, -⟩ := exists_opens (.scalar s) toks
  obtain ⟨x, hx, hscalar⟩ := skipScalarFrom?_yields s htoks hc
  have hstep : (skipStep fs).Becomes (Laid (.scalar s :: toks)) (closeFrames fs) (Laid toks) := by
    refine (peekToken_yields _).becomes.trans ?_
    simp only [show firstChar (.scalar s :: toks) = some c from hc, hx]
    exact (advance_yields _ _).becomes.trans hscalar.becomes
  rw [passing_eq]
  exact hstep.bind _

/-- The sign that opens a frame. -/
def Frame.openMark : Frame → Mark
  | .list => .openList
  | .object => .openObject

/-- The sign that closes a frame. -/
def Frame.closeMark : Frame → Mark
  | .list => .closeList
  | .object => .closeObject

section Frames

variable {χ : Type} {f : Frame} {tokens : χ → List Token} {xs : List χ}

theorem closing_close (f : Frame) (fs : List Frame) (toks : List Token) :
    (closing (f :: fs)).Becomes (Laid (.mark f.closeMark :: toks)) (closing fs) (Laid toks) := by
  refine Becomes.bind ?_ _
  refine (peekToken_yields _).becomes.trans ?_
  cases f <;> exact (advance_mark _ toks).becomes

theorem closing_comma (f : Frame) (fs : List Frame) (toks : List Token) :
    (closing (f :: fs)).Becomes (Laid (.mark .comma :: toks))
      (skipLabel f >>= fun _ => passing (f :: fs)) (Laid toks) := by
  have h : (closeFrames (f :: fs)).Becomes (Laid (.mark .comma :: toks))
      (skipLabel f >>= fun _ => pure (.inl (f :: fs))) (Laid toks) :=
    (peekToken_yields _).becomes.trans (advance_mark .comma toks).becomes
  have hnext := h.bind goOn
  rwa [bind_assoc] at hnext

/-- **Behind a value the others of its frame are passed** and the frame is closed, if each of them
is passed inside it. -/
theorem closing_separated (f : Frame) (fs : List Frame)
    (h : ∀ x ∈ xs, ∀ toks, Stops toks →
      (skipLabel f >>= fun _ => passing (f :: fs)).Becomes (Laid (tokens x ++ toks))
        (closing (f :: fs)) (Laid toks))
    (toks : List Token) :
    (closing (f :: fs)).Becomes (Laid (separated f.closeMark (xs.map tokens) ++ toks))
      (closing fs) (Laid toks) := by
  induction xs with
  | nil => exact closing_close f fs toks
  | cons x xs ih =>
    rw [List.map_cons, separated, List.cons_append, List.append_assoc]
    refine (closing_comma f fs _).trans ?_
    refine (h x List.mem_cons_self _ (stops_separated _ _ _)).trans ?_
    exact ih fun y hy => h y (List.mem_cons_of_mem x hy)

theorem passing_open (f : Frame) (fs : List Frame) (toks : List Token) :
    (passing fs).Becomes (Laid (.mark f.openMark :: toks))
      (openFrame f fs >>= goOn) (Laid toks) := by
  rw [passing_eq]
  refine Becomes.bind ?_ _
  refine (peekToken_yields _).becomes.trans ?_
  cases f <;> exact (advance_mark _ toks).becomes

/-- **A frame is passed if each value in it is passed inside it.** -/
theorem passing_enclosed (f : Frame) (fs : List Frame)
    (hopen : ∀ x ∈ xs, ∀ toks, ∃ c, firstChar (tokens x ++ toks) = some c ∧ c ≠ f.close)
    (h : ∀ x ∈ xs, ∀ toks, Stops toks →
      (skipLabel f >>= fun _ => passing (f :: fs)).Becomes (Laid (tokens x ++ toks))
        (closing (f :: fs)) (Laid toks))
    (toks : List Token) :
    (passing fs).Becomes
      (Laid (.mark f.openMark :: (enclosed f.closeMark (xs.map tokens) ++ toks)))
      (closing fs) (Laid toks) := by
  refine (passing_open f fs _).trans ?_
  cases xs with
  | nil =>
    refine Becomes.bind ?_ _
    refine (peekToken_yields _).becomes.trans ?_
    cases f <;> exact (advance_mark _ toks).becomes
  | cons x xs =>
    rw [List.map_cons, enclosed, List.append_assoc]
    obtain ⟨c, hc, hclose⟩ := hopen x List.mem_cons_self
      (separated f.closeMark (xs.map tokens) ++ toks)
    have hfirst : (openFrame f fs).Becomes
        (Laid (tokens x ++ (separated f.closeMark (xs.map tokens) ++ toks)))
        (skipLabel f >>= fun _ => pure (.inl (f :: fs)))
        (Laid (tokens x ++ (separated f.closeMark (xs.map tokens) ++ toks))) := by
      refine (peekToken_yields _).becomes.trans ?_
      simp only [hc, if_neg hclose]
      exact fun s hs => ⟨s, hs.laid, rfl⟩
    have hnext := hfirst.bind goOn
    rw [bind_assoc] at hnext
    refine hnext.trans ?_
    refine (h x List.mem_cons_self _ (stops_separated _ _ _)).trans ?_
    exact closing_separated f fs (fun y hy => h y (List.mem_cons_of_mem x hy)) toks

end Frames

/-! ## Documents -/

theorem skipKey_yields (key : Literal) (toks : List Token) :
    skipKey.Yields (Laid (.scalar (.string key) :: .mark .colon :: toks)) (some ())
      (Laid toks) :=
  (peekToken_yields _).andThen <| (advance_yields _ _).andThen <|
    (skipStringBody_yields key _).andThen (colon_yields toks)

/-- **A document is passed inside any frames**, and what is left to do is what comes behind it. -/
theorem passing_tree (t : Tree) (fs : List Frame) {toks : List Token} (htoks : Stops toks) :
    (passing fs).Becomes (Laid (t.tokens ++ toks)) (closing fs) (Laid toks) := by
  induction t generalizing fs toks with
  | scalar s => exact passing_scalar s fs htoks
  | list ts ih =>
    rw [Tree.tokens, itemTokens_eq_map]
    refine passing_enclosed .list fs (fun t _ toks => ?_) (fun t ht toks htoks => ?_) toks
    · obtain ⟨c, hc, hopens⟩ := exists_opens t toks
      exact ⟨c, hc, hopens.ne_bracket⟩
    · exact ih t ht (.list :: fs) htoks
  | object ms ih =>
    rw [Tree.tokens, memberTokens_eq_map]
    refine passing_enclosed .object fs (fun m _ toks => ⟨_, rfl, by decide⟩)
      (fun m hm toks htoks => ?_) toks
    exact (skipKey_yields m.1 _).becomes.trans (ih m hm (.object :: fs) htoks)

/-- **Any document is passed**, to any depth. -/
theorem skipValue_reads (t : Tree) : skipValue.Reads t (some ()) := by
  intro toks htoks
  exact (passing_tree t [] htoks).yields (pure_yields () _)

end ErSchema.Json
