import ErSchema.Proofs.Json.Spelling
import Mathlib.Data.List.TakeWhile

/-!
# What readers make of tokens

`x.Yields P o Q` says what a reader does wherever `P` holds of the text that is left: for
`o = some a` it reads `a` and leaves a text of which `Q` holds, and for `o = none` it stops with a
fault. The texts are rows of tokens (`Laid`), such rows from the start of a token (`At`), and what
is left behind the first character of a token (`Behind`).

* `Reader.Yields.bind`: readers one after the other.
* `iterate_eq`, `loop_eq`: a loop is its first round and the loop after it.
* `peekToken_yields`, `advance_yields`: a token is seen by its first character.
-/

namespace ErSchema.Json

open Reader

variable {α β σ : Type}

/-! ## Outcomes -/

/-- What a reader gives: the value `o` with a rest of which `Q` holds, or a fault where there is no
value. -/
def Outcome (o : Option α) (Q : List Char → Prop) : Except Fault (α × List Char) → Prop
  | .ok (a, r) => o = some a ∧ Q r
  | .error _ => o = none

theorem Outcome.mono {o : Option α} {Q Q' : List Char → Prop}
    {result : Except Fault (α × List Char)} (h : Outcome o Q result) (hQ : ∀ s, Q s → Q' s) :
    Outcome o Q' result :=
  match result, h with
  | .ok _, ⟨ho, hr⟩ => ⟨ho, hQ _ hr⟩
  | .error _, ho => ho

/-- What a reader gives wherever `P` holds of the text that is left. -/
def Reader.Yields (x : Reader α) (P : List Char → Prop) (o : Option α) (Q : List Char → Prop) :
    Prop :=
  ∀ s, P s → Outcome o Q (x.run s)

namespace Reader.Yields

variable {x : Reader α} {f : α → Reader β} {P Q R : List Char → Prop} {o : Option α}

theorem exists_run_eq {a : α} (h : x.Yields P (some a) Q) {s : List Char} (hs : P s) :
    ∃ r, x.run s = .ok (a, r) ∧ Q r := by
  have hx := h s hs
  match hrun : x.run s with
  | .ok (b, r) =>
    rw [hrun] at hx
    obtain ⟨hb, hr⟩ := hx
    cases hb
    exact ⟨r, rfl, hr⟩
  | .error e =>
    rw [hrun] at hx
    exact absurd hx (by simp [Outcome])

theorem of_run_eq {a : α} (h : ∀ s, P s → ∃ r, x.run s = .ok (a, r) ∧ Q r) :
    x.Yields P (some a) Q := by
  intro s hs
  obtain ⟨r, hrun, hr⟩ := h s hs
  rw [hrun]
  exact ⟨rfl, hr⟩

theorem mono {P' Q' : List Char → Prop} (h : x.Yields P o Q) (hP : ∀ s, P' s → P s)
    (hQ : ∀ s, Q s → Q' s) : x.Yields P' o Q' :=
  fun s hs => (h s (hP s hs)).mono hQ

/-- **Readers one after the other**: the second starts where the first has left the text. -/
theorem bind {g : α → Option β} (hx : x.Yields P o Q)
    (hf : ∀ a, o = some a → (f a).Yields Q (g a) R) : (x >>= f).Yields P (o.bind g) R := by
  intro s hs
  have hfirst := hx s hs
  rw [run_bind]
  match hrun : x.run s with
  | .ok (a, r) =>
    rw [hrun] at hfirst
    obtain ⟨rfl, hr⟩ := hfirst
    exact hf a rfl r hr
  | .error e =>
    rw [hrun] at hfirst
    cases hfirst
    rfl

theorem andThen {a : α} {b : Option β} (hx : x.Yields P (some a) Q) (hf : (f a).Yields Q b R) :
    (x >>= f).Yields P b R :=
  hx.bind (g := fun _ => b) fun _ h => by cases h; exact hf

theorem none_bind (hx : x.Yields P none Q) : (x >>= f).Yields P none R :=
  hx.bind (g := fun _ => none) fun _ h => by cases h

/-- A reader stops if what it ends with does. -/
theorem bind_none (hf : ∀ a, (f a).Yields (fun _ => True) none R) :
    (x >>= f).Yields P none R := by
  intro s _
  rw [run_bind]
  match x.run s with
  | .ok (a, r) => exact hf a r trivial
  | .error e => rfl

theorem map {g : α → β} (hx : x.Yields P o Q) :
    (x >>= fun a => pure (g a)).Yields P (o.map g) Q := by
  have h : (x >>= fun a => pure (g a)).Yields P (o.bind fun a => some (g a)) Q :=
    hx.bind fun a _ s hs => ⟨rfl, hs⟩
  rwa [show o.bind (fun a => some (g a)) = o.map g from Option.map_eq_bind.symm] at h

end Reader.Yields

theorem pure_yields (a : α) (P : List Char → Prop) : (pure a : Reader α).Yields P (some a) P :=
  fun _ hs => ⟨rfl, hs⟩

theorem fail_yields (cause : Cause) (ahead : Nat) (P Q : List Char → Prop) :
    (fail cause ahead : Reader α).Yields P none Q :=
  fun _ _ => rfl

@[ext]
theorem Reader.ext {x y : Reader α} (h : ∀ s, x.run s = y.run s) : x = y := by
  cases x
  cases y
  congr
  exact funext h

instance : LawfulMonad Reader :=
  LawfulMonad.mk' Reader
    (fun x => by
      ext s
      change (x >>= fun a => pure a).run s = _
      rw [run_bind]
      match x.run s with
      | .ok _ | .error _ => rfl)
    (fun _ _ => rfl)
    (fun x f g => by
      ext s
      simp only [run_bind]
      match x.run s with
      | .ok _ | .error _ => rfl)

/-! ## What is left to do -/

/-- Wherever `P` holds of the text that is left, `x` goes on as `y` does at a text of which `Q`
holds. -/
def Reader.Becomes (x : Reader α) (P : List Char → Prop) (y : Reader α) (Q : List Char → Prop) :
    Prop :=
  ∀ s, P s → ∃ r, Q r ∧ x.run s = y.run r

namespace Reader.Becomes

variable {x y z : Reader α} {f : α → Reader β} {P Q R : List Char → Prop}

theorem trans (hxy : x.Becomes P y Q) (hyz : y.Becomes Q z R) : x.Becomes P z R := by
  intro s hs
  obtain ⟨r, hr, hx⟩ := hxy s hs
  obtain ⟨t, ht, hy⟩ := hyz r hr
  exact ⟨t, ht, hx.trans hy⟩

theorem bind (h : x.Becomes P y Q) (f : α → Reader β) : (x >>= f).Becomes P (y >>= f) Q := by
  intro s hs
  obtain ⟨r, hr, hx⟩ := h s hs
  exact ⟨r, hr, by rw [run_bind, run_bind, hx]⟩

theorem yields {o : Option α} (h : x.Becomes P y Q) (hy : y.Yields Q o R) : x.Yields P o R := by
  intro s hs
  obtain ⟨r, hr, hx⟩ := h s hs
  exact hx ▸ hy r hr

end Reader.Becomes

theorem Reader.Yields.becomes {x : Reader α} {f : α → Reader β} {P Q : List Char → Prop} {a : α}
    (h : x.Yields P (some a) Q) : (x >>= f).Becomes P (f a) Q := by
  intro s hs
  obtain ⟨r, hrun, hr⟩ := h.exists_run_eq hs
  exact ⟨r, hr, run_bind_ok hrun⟩

/-! ## Loops -/

/-- Steps are the first step and those after it. -/
theorem iterate_eq {step : σ → Reader (σ ⊕ α)}
    (progress : ∀ {state s next r}, (step state).run s = .ok (.inl next, r) → r.length < s.length)
    (state : σ) :
    iterate step progress state = (step state >>= fun
      | .inl next => iterate step progress next
      | .inr a => pure a) := by
  ext s
  change iterateFrom step progress state s = _
  rw [run_bind, iterateFrom]
  split <;> rename_i h <;> simp only [h] <;> rfl

/-- **A loop is its first round and the loop after it.** -/
theorem loop_eq {more : Reader Bool}
    {progress : ∀ {s r}, more.run s = .ok (true, r) → r.length < s.length}
    {body : σ → Reader σ} (state : σ) :
    loop more progress body state = (more >>= fun b =>
      if b then body state >>= loop more progress body else pure state) := by
  refine (iterate_eq (round_progress progress) state).trans ?_
  ext s
  simp only [Reader.round, run_bind]
  rcases more.run s with e | ⟨b, r⟩
  · rfl
  · cases b with
    | false => rfl
    | true =>
      simp only [if_true, run_bind]
      rcases (body state).run r with e | ⟨next, t⟩ <;> rfl

/-! ## Tokens -/

/-- A row of tokens, from the start of its first one. -/
def At : List Token → List Char → Prop
  | [], s => s = []
  | tok :: toks, s => ∃ r, s = tok.text ++ r ∧ Laid toks r

/-- A row of tokens, from behind the first character of its first one. -/
def Behind (tok : Token) (toks : List Token) (s : List Char) : Prop :=
  ∃ r, s = tok.text.tail ++ r ∧ Laid toks r

/-- The first character of a row of tokens. -/
def firstChar (toks : List Token) : Option Char := toks.head?.bind (·.text.head?)

/-- A row of tokens whose first one is not a scalar. -/
def Stops (toks : List Token) : Prop := ∀ tok ∈ toks.head?, ∃ m, tok = .mark m

theorem stops_nil : Stops [] := by simp [Stops]

theorem stops_mark (m : Mark) (toks : List Token) : Stops (.mark m :: toks) := by simp [Stops]

theorem stops_separated (close : Mark) (xss : List (List Token)) (toks : List Token) :
    Stops (separated close xss ++ toks) := by
  cases xss <;> exact stops_mark _ _

theorem peekToken_yields (toks : List Token) :
    peekToken.Yields (Laid toks) (some (firstChar toks)) (At toks) := by
  intro s hs
  change Outcome _ _ (.ok ((s.dropWhile isSpace).head?, s.dropWhile isSpace))
  cases toks with
  | nil =>
    rw [show s.dropWhile isSpace = [] from List.dropWhile_eq_nil_iff.mpr hs]
    exact ⟨rfl, rfl⟩
  | cons tok toks =>
    obtain ⟨blanks, r, hblanks, rfl, hr⟩ := hs
    obtain ⟨c, cs, htext, hc⟩ := tok.exists_text_eq
    have : (blanks ++ (tok.text ++ r)).dropWhile isSpace = tok.text ++ r := by
      rw [List.dropWhile_append_of_pos hblanks, htext, List.cons_append,
        List.dropWhile_cons_of_neg (by simp [hc])]
    rw [this]
    refine ⟨?_, r, rfl, hr⟩
    simp [firstChar, htext]

theorem advance_yields (tok : Token) (toks : List Token) :
    advance.Yields (At (tok :: toks)) (some ()) (Behind tok toks) := by
  rintro _ ⟨r, rfl, hr⟩
  obtain ⟨c, cs, htext, -⟩ := tok.exists_text_eq
  refine ⟨rfl, r, ?_, hr⟩
  rw [htext]
  rfl

theorem behind_mark (m : Mark) (toks : List Token) : Behind (.mark m) toks = Laid toks := by
  funext s
  simp [Behind, Token.text]

end ErSchema.Json
