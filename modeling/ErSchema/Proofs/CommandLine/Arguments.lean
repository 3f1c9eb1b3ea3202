import ErSchema.CommandLine
import ErSchema.Proofs.Lists

/-!
# What arguments ask for

Behind the path of the diagram, a command line is a list of options, of which some take the argument
behind them as their value, whatever it looks like. `givenOptions` cuts it into these pieces without
any judgement, and reading the options is judging the pieces one after the other. So what accepted
options come to can be read off the pieces: the last output path that is given, and whether only a
check is wanted.

* `parseMore_eq_foldlM`: options are read piece by piece.
* `extends_of_foldlM`: what accepted options come to.
* `asked_of_parse`: what an accepted command line asks for.
-/

namespace ErSchema.CommandLine

/-! ## Options with their values -/

/-- Whether a word asks for an output path. -/
def isOutputWord (word : String) : Bool := word = "-o" || word = "--output"

/-- Whether a word asks for a check only. -/
def isCheckWord (word : String) : Bool := word = "-c" || word = "--check"

/-- Whether a word asks for a format of diagnostics. -/
def isFormatWord (word : String) : Bool := word = "-f" || word = "--diagnostics"

/-- Whether an option takes the argument behind it as its value. -/
def takesValue (word : String) : Bool := isOutputWord word || isFormatWord word

/-- An option with the value that stands behind it, if it takes one and there is one. -/
structure Given where
  word : String
  value : Option String
  deriving DecidableEq, Repr

/-- The options in a list of arguments. -/
def givenOptions : List String → List Given
  | [] => []
  | [word] => [⟨word, none⟩]
  | word :: value :: rest =>
    if takesValue word then ⟨word, some value⟩ :: givenOptions rest
    else ⟨word, none⟩ :: givenOptions (value :: rest)

theorem givenOptions_of_takesValue {word : String} (h : takesValue word = true) (value : String)
    (rest : List String) :
    givenOptions (word :: value :: rest) = ⟨word, some value⟩ :: givenOptions rest := by
  rw [givenOptions, if_pos h]

theorem givenOptions_of_not_takesValue {word : String} (h : takesValue word = false)
    (rest : List String) : givenOptions (word :: rest) = ⟨word, none⟩ :: givenOptions rest := by
  cases rest with
  | nil => rfl
  | cons value rest => rw [givenOptions, if_neg (by simp [h])]

/-! ## Reading them -/

/-- Reads an option onto those before it. One that takes a value and has none is ignored. -/
def Given.onto (o : Options) (g : Given) : Except UsageError Options :=
  if isOutputWord g.word then
    match g.value with
    | none => .ok o
    | some path => .ok { o with output := some path }
  else if isCheckWord g.word then .ok { o with checkOnly := true }
  else if g.word = "--no-validate" then .ok { o with skipValidation := true }
  else if isFormatWord g.word then
    match g.value with
    | none => .ok o
    | some word =>
      match Format.parse? word with
      | some format => .ok { o with format := format }
      | none => .error (.invalidFormat word)
  else .error (.unknownOption g.word)

theorem foldlM_cons_of_onto {o o' : Options} {g : Given} (h : g.onto o = .ok o')
    (gs : List Given) : (g :: gs).foldlM Given.onto o = gs.foldlM Given.onto o' := by
  rw [List.foldlM_cons, h]
  rfl

theorem foldlM_cons_of_onto_error {o : Options} {g : Given} {e : UsageError}
    (h : g.onto o = .error e) (gs : List Given) : (g :: gs).foldlM Given.onto o = .error e := by
  rw [List.foldlM_cons, h]
  rfl

/-- **Options are read piece by piece.** -/
theorem parseMore_eq_foldlM (o : Options) (args : List String) :
    Options.parseMore o args = (givenOptions args).foldlM Given.onto o := by
  fun_induction Options.parseMore o args with
  | case1 o => rfl
  | case2 o arg ho => rcases ho with rfl | rfl <;> rfl
  | case3 o arg ho path rest ih =>
    rw [givenOptions_of_takesValue (by rcases ho with rfl | rfl <;> rfl), ih]
    exact (foldlM_cons_of_onto (by rcases ho with rfl | rfl <;> rfl) _).symm
  | case4 o arg rest ho hc ih =>
    rw [givenOptions_of_not_takesValue (by rcases hc with rfl | rfl <;> rfl), ih]
    exact (foldlM_cons_of_onto (by rcases hc with rfl | rfl <;> rfl) _).symm
  | case5 o rest ho hc ih =>
    rw [givenOptions_of_not_takesValue rfl, ih]
    exact (foldlM_cons_of_onto rfl _).symm
  | case6 o arg ho hc hn hf => rcases hf with rfl | rfl <;> rfl
  | case7 o arg ho hc hn hf word rest format hword ih =>
    rw [givenOptions_of_takesValue (by rcases hf with rfl | rfl <;> rfl), ih]
    refine (foldlM_cons_of_onto ?_ _).symm
    rcases hf with rfl | rfl <;> simp [Given.onto, isOutputWord, isCheckWord, isFormatWord, hword]
  | case8 o arg ho hc hn hf word rest hword =>
    rw [givenOptions_of_takesValue (by rcases hf with rfl | rfl <;> rfl)]
    refine (foldlM_cons_of_onto_error ?_ _).symm
    rcases hf with rfl | rfl <;> simp [Given.onto, isOutputWord, isCheckWord, isFormatWord, hword]
  | case9 o arg rest ho hc hn hf =>
    rw [givenOptions_of_not_takesValue (by simp_all [takesValue, isOutputWord, isFormatWord])]
    refine (foldlM_cons_of_onto_error ?_ _).symm
    simp_all [Given.onto, isOutputWord, isCheckWord, isFormatWord]

/-! ## What they come to -/

/-- The output path that an option gives. -/
def Given.output? (g : Given) : Option String := if isOutputWord g.word then g.value else none

/-- The output paths that are given, in order. -/
def outputs (gs : List Given) : List String := gs.filterMap (·.output?)

/-- Whether an option asks for a check only. -/
def asksCheck (gs : List Given) : Bool := gs.any fun g => isCheckWord g.word

/-- The last output path is that of a later option, if one gives any. -/
theorem getLast?_outputs_cons (g : Given) (gs : List Given) :
    (outputs (g :: gs)).getLast? = (outputs gs).getLast?.or g.output? := by
  unfold outputs
  cases h : g.output? with
  | none => rw [List.filterMap_cons_none h, Option.or_none]
  | some path =>
    rw [List.filterMap_cons_some h, List.getLast?_cons]
    cases (gs.filterMap (·.output?)).getLast? <;> rfl

/-- What options are once others have been read onto them. -/
structure Options.Extends (o : Options) (gs : List Given) (o' : Options) : Prop where
  input : o'.input = o.input
  output : o'.output = (outputs gs).getLast?.or o.output
  checkOnly : o'.checkOnly = (o.checkOnly || asksCheck gs)

/-- One option gives a new output path, asks for a check, or does neither. -/
theorem extends_of_onto {o o' : Options} {g : Given} (h : g.onto o = .ok o') :
    o.Extends [g] o' := by
  have hcheck : isOutputWord g.word = true → isCheckWord g.word = false := by
    simp only [isOutputWord, isCheckWord, Bool.or_eq_true, decide_eq_true_eq]
    rintro (hw | hw) <;> rw [hw] <;> rfl
  unfold Given.onto at h
  split at h
  · rename_i hw
    cases hv : g.value <;> rw [hv] at h <;> cases h <;>
      exact ⟨rfl, by simp [outputs, Given.output?, hw, hv], by simp [asksCheck, hcheck hw]⟩
  · rename_i hw
    have hout : (outputs [g]).getLast? = none := by simp [outputs, Given.output?, hw]
    split at h
    · rename_i hc
      cases h
      exact ⟨rfl, by rw [hout]; rfl, by simp [asksCheck, hc]⟩
    · rename_i hc
      have hnone : asksCheck [g] = false := by simp [asksCheck, hc]
      have hsame : ∀ o₁ : Options, o₁.input = o.input → o₁.output = o.output →
          o₁.checkOnly = o.checkOnly → o.Extends [g] o₁ := fun o₁ h₁ h₂ h₃ =>
        ⟨h₁, by rw [hout, h₂]; rfl, by rw [hnone, h₃, Bool.or_false]⟩
      split at h
      · cases h
        exact hsame _ rfl rfl rfl
      · split at h
        · cases hv : g.value with
          | none =>
            rw [hv] at h
            cases h
            exact hsame _ rfl rfl rfl
          | some word =>
            simp only [hv] at h
            split at h <;> cases h
            exact hsame _ rfl rfl rfl
        · cases h

/-- **What accepted options come to**: the last output path that is given, and a check only if one
asks for it. -/
theorem extends_of_foldlM {gs : List Given} {o o' : Options}
    (h : gs.foldlM Given.onto o = .ok o') : o.Extends gs o' := by
  induction gs generalizing o with
  | nil =>
    cases h
    exact ⟨rfl, rfl, (Bool.or_false _).symm⟩
  | cons g gs ih =>
    rw [List.foldlM_cons] at h
    obtain ⟨o₁, hg, hgs⟩ := bind_eq_ok.mp h
    have hfirst := extends_of_onto hg
    have hrest := ih hgs
    refine ⟨hrest.input.trans hfirst.input, ?_, ?_⟩
    · have hone : (outputs [g]).getLast? = g.output? := getLast?_outputs_cons g []
      rw [hrest.output, hfirst.output, hone, getLast?_outputs_cons, Option.or_assoc]
    · rw [hrest.checkOnly, hfirst.checkOnly, Bool.or_assoc]
      simp [asksCheck]

/-! ## Command lines -/

/-- The last output path that a command line gives. -/
def outputPath? (args : List String) : Option String :=
  (outputs (givenOptions args.tail)).getLast?

/-- Whether a command line asks for a check only. -/
def asksCheckOnly (args : List String) : Bool := asksCheck (givenOptions args.tail)

/-- **What an accepted command line asks for.** -/
theorem asked_of_parse {args : List String} {o : Options} (h : Options.parse args = .ok o) :
    args.head? = some o.input ∧ o.output = outputPath? args ∧
      o.checkOnly = asksCheckOnly args := by
  cases args with
  | nil => contradiction
  | cons input rest =>
    rw [Options.parse, parseMore_eq_foldlM] at h
    have hasked := extends_of_foldlM h
    refine ⟨congrArg some hasked.input.symm, ?_, ?_⟩
    · rw [hasked.output, Option.or_none]
      rfl
    · rw [hasked.checkOnly, Bool.false_or]
      rfl

end ErSchema.CommandLine
