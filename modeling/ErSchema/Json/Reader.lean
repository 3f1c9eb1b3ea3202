import ErSchema.Json.Fault

/-!
# Readers

A reader takes a value from the front of a text and gives back the rest, or stops with a fault. The
rest is never longer than the text; that law is part of the type, so it holds of every reader that
is put together from others, and a loop that takes at least one character a round ends.

* `run_pure`, `run_bind`: what the two building blocks read.
* `Reader.iterate`: runs a step from state to state; `Reader.loop`: repeats a body for as long as
  a test says that more follows.
* `run_loop_false`, `run_loop_true`: one round of a loop.
-/

namespace ErSchema.Json

variable {α β σ : Type}

/-- Reads an `α` from the front of a text. -/
structure Reader (α : Type) where
  run : List Char → Except Fault (α × List Char)
  rest_le : ∀ {s a r}, run s = .ok (a, r) → r.length ≤ s.length

namespace Reader

/-! ## Building blocks -/

/-- Reads nothing. -/
protected def pure (a : α) : Reader α where
  run s := .ok (a, s)
  rest_le h := by cases h; exact Nat.le_refl _

/-- Reads with `x`, then with what its value asks for. -/
protected def bind (x : Reader α) (f : α → Reader β) : Reader β where
  run s :=
    match x.run s with
    | .error e => .error e
    | .ok (a, r) => (f a).run r
  rest_le {s b t} h := by
    split at h
    · contradiction
    · rename_i a r hr
      exact Nat.le_trans ((f a).rest_le h) (x.rest_le hr)

instance : Monad Reader where
  pure := Reader.pure
  bind := Reader.bind

/-- Stops with a fault `ahead` bytes into what is left. -/
def fail (cause : Cause) (ahead : Nat) : Reader α where
  run s := .error ⟨cause, s, ahead⟩
  rest_le h := by contradiction

/-- Stops with a fault that lies before characters that have been passed. -/
def failBefore (cause : Cause) (passed : List Char) : Reader α where
  run s := .error ⟨cause, passed ++ s, 0⟩
  rest_le h := by contradiction

/-- The next character, which stays. -/
def peek : Reader (Option Char) where
  run s := .ok (s.head?, s)
  rest_le h := by cases h; exact Nat.le_refl _

/-- Passes the next character. -/
def advance : Reader Unit where
  run s := .ok ((), s.tail)
  rest_le h := by cases h; simp

theorem length_dropWhile_le (p : Char → Bool) (s : List Char) :
    (s.dropWhile p).length ≤ s.length :=
  (List.dropWhile_sublist p).length_le

/-- The characters up to the first that fails `p`. -/
def takeWhile (p : Char → Bool) : Reader (List Char) where
  run s := .ok (s.takeWhile p, s.dropWhile p)
  rest_le h := by cases h; exact length_dropWhile_le p _

/-- Passes the white space of JSON: spaces, tabs, line feeds and carriage returns. -/
def skipBlanks : Reader Unit where
  run s := .ok ((), s.dropWhile fun c => c = ' ' || c = '\t' || c = '\n' || c = '\r')
  rest_le h := by cases h; exact length_dropWhile_le _ _

/-- The next character after white space, which stays. -/
def peekToken : Reader (Option Char) := do
  skipBlanks
  peek

/-! ## What the building blocks read -/

theorem run_pure (a : α) (s : List Char) : (pure a : Reader α).run s = .ok (a, s) := rfl

theorem run_bind (x : Reader α) (f : α → Reader β) (s : List Char) :
    (x >>= f).run s =
      match x.run s with
      | .error e => .error e
      | .ok (a, r) => (f a).run r := rfl

theorem run_bind_ok {x : Reader α} {f : α → Reader β} {s r : List Char} {a : α}
    (h : x.run s = .ok (a, r)) : (x >>= f).run s = (f a).run r := by
  rw [run_bind, h]

theorem run_bind_eq_ok {x : Reader α} {f : α → Reader β} {s t : List Char} {b : β}
    (h : (x >>= f).run s = .ok (b, t)) :
    ∃ a r, x.run s = .ok (a, r) ∧ (f a).run r = .ok (b, t) := by
  rw [run_bind] at h
  split at h
  · contradiction
  · exact ⟨_, _, ‹_›, h⟩

/-- A token that is seen is the first character left. -/
theorem peekToken_eq_some {s r : List Char} {c : Char} (h : peekToken.run s = .ok (some c, r)) :
    ∃ t, r = c :: t ∧ t.length < s.length := by
  have hle := peekToken.rest_le h
  obtain ⟨_, r', -, h⟩ := run_bind_eq_ok h
  cases r' with
  | nil => simp [peek] at h
  | cons d t =>
    simp only [peek, List.head?_cons, Except.ok.injEq, Prod.mk.injEq, Option.some.injEq] at h
    obtain ⟨rfl, rfl⟩ := h
    exact ⟨t, rfl, hle⟩

theorem run_advance_bind (f : Unit → Reader α) (c : Char) (t : List Char) :
    (advance >>= f).run (c :: t) = (f ()).run t := rfl

/-! ## Loops -/

/-- Runs `step` from state to state until it gives a result. -/
def iterateFrom (step : σ → Reader (σ ⊕ α))
    (progress : ∀ {state s next r}, (step state).run s = .ok (.inl next, r) → r.length < s.length)
    (state : σ) (s : List Char) : Except Fault (α × List Char) :=
  match _ : (step state).run s with
  | .error e => .error e
  | .ok (.inr a, r) => .ok (a, r)
  | .ok (.inl next, r) => iterateFrom step progress next r
termination_by s.length
decreasing_by exact progress ‹_›

section Iterate

variable {step : σ → Reader (σ ⊕ α)}
  {progress : ∀ {state s next r}, (step state).run s = .ok (.inl next, r) → r.length < s.length}

theorem iterateFrom_inr {state : σ} {s r : List Char} {a : α}
    (h : (step state).run s = .ok (.inr a, r)) :
    iterateFrom step progress state s = .ok (a, r) := by
  rw [iterateFrom]
  split <;> simp_all

theorem iterateFrom_inl {state next : σ} {s r : List Char}
    (h : (step state).run s = .ok (.inl next, r)) :
    iterateFrom step progress state s = iterateFrom step progress next r := by
  rw [iterateFrom]
  split <;> simp_all

theorem iterateFrom_rest_le {state : σ} {s r : List Char} {a : α}
    (h : iterateFrom step progress state s = .ok (a, r)) : r.length ≤ s.length := by
  fun_induction iterateFrom step progress state s with
  | case1 => contradiction
  | case2 state s b t ht =>
    cases h
    exact (step state).rest_le ht
  | case3 state s next t ht ih => exact Nat.le_of_lt (Nat.lt_of_le_of_lt (ih h) (progress ht))

end Iterate

/-- Runs `step` from state to state until it gives a result. -/
def iterate (step : σ → Reader (σ ⊕ α))
    (progress : ∀ {state s next r}, (step state).run s = .ok (.inl next, r) → r.length < s.length)
    (state : σ) : Reader α where
  run := iterateFrom step progress state
  rest_le := iterateFrom_rest_le

/-- One round of a loop: `body`, if `more` says that more follows. -/
def round (more : Reader Bool) (body : σ → Reader σ) (state : σ) : Reader (σ ⊕ σ) := do
  if ← more then
    let next ← body state
    pure (.inl next)
  else
    pure (.inr state)

theorem round_progress {more : Reader Bool}
    (progress : ∀ {s r}, more.run s = .ok (true, r) → r.length < s.length) {body : σ → Reader σ}
    {state next : σ} {s t : List Char} (h : (round more body state).run s = .ok (.inl next, t)) :
    t.length < s.length := by
  obtain ⟨b, r, hm, h⟩ := run_bind_eq_ok h
  cases b with
  | false => simp [run_pure] at h
  | true =>
    obtain ⟨_, _, hb, h⟩ := run_bind_eq_ok h
    cases h
    exact Nat.lt_of_le_of_lt ((body state).rest_le hb) (progress hm)

/-- Repeats `body` for as long as `more` says that more follows. -/
def loop (more : Reader Bool)
    (progress : ∀ {s r}, more.run s = .ok (true, r) → r.length < s.length)
    (body : σ → Reader σ) : σ → Reader σ :=
  iterate (round more body) (round_progress progress)

section Loop

variable {more : Reader Bool}
  {progress : ∀ {s r}, more.run s = .ok (true, r) → r.length < s.length}
  {body : σ → Reader σ}

theorem run_loop_false {state : σ} {s r : List Char} (h : more.run s = .ok (false, r)) :
    (loop more progress body state).run s = .ok (state, r) :=
  iterateFrom_inr (by rw [round, run_bind_ok h]; rfl)

theorem run_loop_true {state next : σ} {s r t : List Char} (h : more.run s = .ok (true, r))
    (hb : (body state).run r = .ok (next, t)) :
    (loop more progress body state).run s = (loop more progress body next).run t :=
  iterateFrom_inl (by rw [round, run_bind_ok h]; exact run_bind_ok hb)

end Loop

end Reader

end ErSchema.Json
