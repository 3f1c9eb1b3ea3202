import ErSchema.Proofs.CommandLine.Arguments
import ErSchema.Proofs.CommandLine.Outcomes

/-!
# Options in another order

A complete option is a word with the value behind it, if it takes one. Complete options are cut
apart in one way only, since what stands behind a word that takes a value is that value, also where
it looks like an option itself. Each sets a field of its own. So options may change places as long
as those that set one field stay in order, of which the last one counts.

* `givenOptions_arguments`: complete options are cut apart where they were put together.
* `foldl_onto`: what they come to, field by field.
* `parse_arguments`: what a command line of complete options asks for.
* `run_reordered`: a run does not depend on the order of options that set different fields.
-/

namespace ErSchema.CommandLine

/-- A format as it is named on the command line. -/
def Format.word : Format → String
  | .text => "text"
  | .json => "json"

/-- An option with the value that it takes, by its short or by its long word. -/
inductive CompleteOption where
  | output (long : Bool) (path : String)
  | check (long : Bool)
  | noValidate
  | format (long : Bool) (format : Format)
  deriving DecidableEq, Repr

namespace CompleteOption

/-- The word of an option. -/
def word : CompleteOption → String
  | output long _ => if long then "--output" else "-o"
  | check long => if long then "--check" else "-c"
  | noValidate => "--no-validate"
  | format long _ => if long then "--diagnostics" else "-f"

/-- The value of an option, which may be any text for an output path. -/
def value? : CompleteOption → Option String
  | output _ path => some path
  | format _ f => some f.word
  | _ => none

/-- An option as one piece of a command line. -/
def given (g : CompleteOption) : Given := ⟨g.word, g.value?⟩

/-- Options with one more set. -/
def onto (o : Options) : CompleteOption → Options
  | output _ path => { o with output := some path }
  | check _ => { o with checkOnly := true }
  | noValidate => { o with skipValidation := true }
  | format _ f => { o with format := f }

/-- The output path that an option sets. -/
def path? : CompleteOption → Option String
  | output _ path => some path
  | _ => none

/-- The format that an option sets. -/
def format? : CompleteOption → Option Format
  | format _ f => some f
  | _ => none

/-- Whether an option asks for a check only. -/
def isCheck : CompleteOption → Bool
  | check _ => true
  | _ => false

/-- Whether an option leaves the checks out. -/
def isNoValidate : CompleteOption → Bool
  | noValidate => true
  | _ => false

end CompleteOption

open CompleteOption

/-! ## Cutting them apart -/

/-- The arguments that complete options make. -/
def arguments (gs : List CompleteOption) : List String :=
  gs.flatMap fun g => g.word :: g.value?.toList

/-- **An option is cut off with its value**, whatever that is and whatever comes behind. -/
theorem givenOptions_word (g : CompleteOption) (rest : List String) :
    givenOptions (g.word :: (g.value?.toList ++ rest)) = g.given :: givenOptions rest := by
  cases g with
  | output long path => cases long <;> exact givenOptions_of_takesValue rfl path rest
  | check long => cases long <;> exact givenOptions_of_not_takesValue rfl rest
  | noValidate => exact givenOptions_of_not_takesValue rfl rest
  | format long f => cases long <;> exact givenOptions_of_takesValue rfl f.word rest

/-- **Complete options are cut apart where they were put together.** -/
theorem givenOptions_arguments (gs : List CompleteOption) (rest : List String) :
    givenOptions (arguments gs ++ rest) = gs.map given ++ givenOptions rest := by
  induction gs with
  | nil => rfl
  | cons g gs ih =>
    have hcut : arguments (g :: gs) ++ rest =
        g.word :: (g.value?.toList ++ (arguments gs ++ rest)) := by
      simp [arguments]
    rw [hcut, givenOptions_word, ih]
    rfl

/-! ## What they come to -/

theorem given_onto (g : CompleteOption) (o : Options) : g.given.onto o = .ok (g.onto o) := by
  cases g with
  | output long path => cases long <;> rfl
  | check long => cases long <;> rfl
  | noValidate => rfl
  | format long f => cases long <;> cases f <;> rfl

theorem foldlM_given (gs : List CompleteOption) (o : Options) :
    (gs.map given).foldlM Given.onto o = .ok (gs.foldl onto o) := by
  induction gs generalizing o with
  | nil => rfl
  | cons g gs ih => rw [List.map_cons, foldlM_cons_of_onto (given_onto g o), ih, List.foldl_cons]

/-- The output paths that options set, in order. -/
def paths (gs : List CompleteOption) : List String := gs.filterMap (·.path?)

/-- The formats that options set, in order. -/
def formats (gs : List CompleteOption) : List Format := gs.filterMap (·.format?)

/-- **What complete options come to, field by field**: the last path and the last format that are
set, and whether a check is asked for or left out at all. -/
theorem foldl_onto (gs : List CompleteOption) (o : Options) :
    gs.foldl onto o =
      { input := o.input
        output := (paths gs).getLast?.or o.output
        checkOnly := o.checkOnly || gs.any (·.isCheck)
        skipValidation := o.skipValidation || gs.any (·.isNoValidate)
        format := (formats gs).getLast?.getD o.format } := by
  induction gs generalizing o with
  | nil => simp [paths, formats]
  | cons g gs ih =>
    rw [List.foldl_cons, ih]
    cases g <;>
      simp [onto, paths, formats, path?, format?, isCheck, isNoValidate, List.getLast?_cons]

/-- What complete options ask for: the last path and the last format that they set count. -/
def requested (input : String) (gs : List CompleteOption) : Options where
  input := input
  output := (paths gs).getLast?
  checkOnly := gs.any (·.isCheck)
  skipValidation := gs.any (·.isNoValidate)
  format := (formats gs).getLast?.getD .text

/-- Behind complete options the rest of a command line is read onto what they ask for. -/
theorem parse_arguments_append (input : String) (gs : List CompleteOption) (rest : List String) :
    Options.parse (input :: (arguments gs ++ rest)) =
      (givenOptions rest).foldlM Given.onto (requested input gs) := by
  have hfold : gs.foldl onto { input } = requested input gs := by
    rw [foldl_onto]
    simp [requested]
  rw [Options.parse, parseMore_eq_foldlM, givenOptions_arguments, List.foldlM_append,
    foldlM_given, hfold]
  rfl

theorem parse_arguments (input : String) (gs : List CompleteOption) :
    Options.parse (input :: arguments gs) = .ok (requested input gs) := by
  have hparse := parse_arguments_append input gs []
  rwa [List.append_nil] at hparse

/-- What stands behind a word for a format is taken for a format, also where it looks like an
option. -/
theorem parse_invalid_format (input : String) (gs : List CompleteOption) {word value : String}
    (hword : isFormatWord word = true) (hvalue : Format.parse? value = none) (rest : List String) :
    Options.parse (input :: (arguments gs ++ word :: value :: rest)) =
      .error (.invalidFormat value) := by
  have htakes : takesValue word = true := by simp [takesValue, hword]
  have honto : (⟨word, some value⟩ : Given).onto (requested input gs) =
      .error (.invalidFormat value) := by
    simp only [isFormatWord, Bool.or_eq_true, decide_eq_true_eq] at hword
    rcases hword with rfl | rfl <;>
      simp [Given.onto, isOutputWord, isCheckWord, isFormatWord, hvalue]
  rw [parse_arguments_append, givenOptions_of_takesValue htakes, foldlM_cons_of_onto_error honto]

/-! ## Another order -/

/-- The same options in another order, in which those that set a path and those that set a format
each come as before. -/
structure Reorders (gs gs' : List CompleteOption) : Prop where
  perm : gs.Perm gs'
  paths : paths gs = paths gs'
  formats : formats gs = formats gs'

theorem Reorders.requested_eq {gs gs' : List CompleteOption} (h : Reorders gs gs')
    (input : String) : requested input gs' = requested input gs := by
  unfold requested
  rw [h.paths, h.formats, h.perm.any_eq, h.perm.any_eq]

/-- **A run does not depend on the order of its options**, as long as paths and formats each stay in
order: over any file system, it reports the same and leaves the same files. What it comes to is told
by the last path and the last format. What stands behind a word that takes a value is never read as
an option: a path may look like one, and what is no format is refused as a format. -/
theorem run_reordered {σ φ : Type} (fs : FileSystem σ φ) (program input : String) (s : σ)
    {gs gs' : List CompleteOption} (h : Reorders gs gs') :
    runIn fs program (input :: arguments gs') s = runIn fs program (input :: arguments gs) s ∧
      Options.parse (input :: arguments gs) = .ok (requested input gs) ∧
      runIn fs program (input :: arguments gs) s =
        (((requested input gs).action (fs.textAt s input)).perform fs.toFileAccess).run s ∧
      Performs fs (requested input gs) s (runIn fs program (input :: arguments gs) s) ∧
      ∀ word value rest, isFormatWord word = true → Format.parse? value = none →
        runIn fs program (input :: (arguments gs ++ word :: value :: rest)) s =
          (failure ("Invalid diagnostics format: " ++ value), s) := by
  have hparse := parse_arguments input gs
  have hparse' : Options.parse (input :: arguments gs') = .ok (requested input gs) := by
    rw [parse_arguments, h.requested_eq]
  refine ⟨?_, hparse, runIn_of_parse fs hparse, performs_runIn fs program s hparse, ?_⟩
  · rw [runIn_of_parse fs hparse, runIn_of_parse fs hparse']
  · intro word value rest hword hvalue
    exact runIn_of_parse_error fs (parse_invalid_format input gs hword hvalue rest)

/-- Options of which the values look like options. -/
def entangled : List CompleteOption :=
  [.output false "--check", .format true .text, .output true "-o", .format false .json, .noValidate]

/-- The same, with the paths and the formats in order. -/
def disentangled : List CompleteOption :=
  [.format true .text, .noValidate, .output false "--check", .format false .json, .output true "-o"]

/-- A run that writes the file `-o`. -/
theorem entangled_run :
    let fs := Directory.fileSystem
    let run (args : List String) := runIn fs "er" ("diagrams/tags.json" :: args) drawings
    Reorders entangled disentangled ∧
      run (arguments disentangled) = run (arguments entangled) ∧
      (∃ ts, tags.deriveTables = .ok ts ∧
        run (arguments entangled) =
          ({ exitCode := 0 }, drawings.insert ["work", "-o"] (.file (emit ts).toUTF8))) ∧
      run (arguments entangled ++ ["-f", "-c"]) =
        (failure "Invalid diagnostics format: -c", drawings) := by
  have h : Reorders entangled disentangled := ⟨by decide, rfl, rfl⟩
  obtain ⟨hrun, -, -, hperforms, hformat⟩ :=
    run_reordered Directory.fileSystem "er" "diagrams/tags.json" drawings h
  have hvalid : tags.validate.isValid = true := by decide +kernel
  obtain ⟨ts, hts⟩ := Diagram.exists_tables hvalid
  have hwritten := hperforms.written holds_tags rfl (Or.inr hvalid) hts rfl
  rw [Directory.run_writeText rfl rfl] at hwritten
  exact ⟨h, hrun, ⟨_, hts, hwritten⟩, hformat "-f" "-c" [] rfl rfl⟩

end ErSchema.CommandLine
