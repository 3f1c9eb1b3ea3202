import ErSchema.Proofs.CommandLine.Outcomes

/-!
# The modes of the command line

Without an output path, a run may compile its diagram, check it only, or compile it without the
checks. The three read their input in the same way and fail alike where it holds no diagram. Where
it holds one, a check says beforehand how compiling ends, since nothing fails behind a check that is
passed; and compiling without the checks differs on invalid diagrams only.

* `parse_of_mem_commandLines`: what the command lines of a mode ask for.
* `report_of_unreadable`: an input that holds no diagram is reported alike by all modes.
* `report_of_check`, `report_of_isValid`, `report_of_invalid`: what checking and compiling come to.
* `exitCode_eq_zero_iff`: when a run with the checks succeeds.
* `modes_agree`: the modes side by side.
-/

namespace ErSchema.CommandLine

/-! ## Command lines -/

/-- What a run does with its diagram. -/
inductive Mode where
  | compile
  | check
  | compileUnchecked
  deriving DecidableEq, Repr

/-- The options of a mode, with no output path. -/
def Mode.options (mode : Mode) (input : String) (format : Format) : Options where
  input := input
  checkOnly := mode = .check
  skipValidation := mode = .compileUnchecked
  format := format

/-- The words for a mode. -/
def Mode.words : Mode → List (List String)
  | compile => [[]]
  | check => [["-c"], ["--check"]]
  | compileUnchecked => [["--no-validate"]]

/-- The words for a format of diagnostics, of which text needs none. -/
def Format.words : Format → List (List String)
  | .text => [[], ["-f", "text"], ["--diagnostics", "text"]]
  | .json => [["-f", "json"], ["--diagnostics", "json"]]

/-- The command lines for a mode and a format, which may stand in either order. -/
def commandLines (input : String) (mode : Mode) (format : Format) : List (List String) :=
  mode.words.flatMap fun m => format.words.flatMap fun f => [input :: (m ++ f), input :: (f ++ m)]

theorem parse_of_mem_commandLines {input : String} {mode : Mode} {format : Format}
    {args : List String} (h : args ∈ commandLines input mode format) :
    Options.parse args = .ok (mode.options input format) := by
  have hall : ∀ args ∈ commandLines input mode format,
      Options.parse args = .ok (mode.options input format) := by
    cases mode <;> cases format <;>
      simp [commandLines, Mode.words, Format.words, Mode.options, Options.parse,
        Options.parseMore, Format.parse?]
  exact hall args h

/-! ## Reports by mode -/

section Reports

variable {σ φ : Type} {fs : FileSystem σ φ} {s : σ} {input : String} {mode : Mode} {format : Format}
  {args : List String} {d : Diagram}

/-- What a command line of a mode comes to. -/
theorem performs_of_mem (fs : FileSystem σ φ) (program : String) (s : σ)
    (hargs : args ∈ commandLines input mode format) :
    Performs fs (mode.options input format) s (runIn fs program args s) :=
  performs_runIn fs program s (parse_of_mem_commandLines hargs)

/-- The message of a run for an input that holds no diagram. -/
inductive Unreadable (input : String) (read : Except PathFault String) : String → Prop
  | unread (e : PathFault) (h : read = .error e) :
    Unreadable input read ("Failed to read " ++ input ++ ": " ++ e.message)
  | unloaded (source : String) (e : CompileError) (h : read = .ok source)
    (hload : Diagram.load source = .error e) :
    Unreadable input read ("Failed to load diagram: " ++ e.message)

/-- **What is read holds a diagram, or there is a message for it.** -/
theorem holds_or_unreadable (input : String) (read : Except PathFault String) :
    (∃ d, Holds read d) ∨ ∃ message, Unreadable input read message := by
  cases read with
  | error e => exact Or.inr ⟨_, .unread e rfl⟩
  | ok source =>
    cases hload : Diagram.load source with
    | error e => exact Or.inr ⟨_, .unloaded source e rfl hload⟩
    | ok d => exact Or.inl ⟨d, source, rfl, hload⟩

/-- An input that holds no diagram is reported alike by all modes. -/
theorem report_of_unreadable (program : String) (hargs : args ∈ commandLines input mode format)
    {message : String} (h : Unreadable input (fs.textAt s input) message) :
    (runIn fs program args s).1 = failure message := by
  have hrun := performs_of_mem fs program s hargs
  cases h with
  | unread e hread => rw [hrun.unread hread]; rfl
  | unloaded source e hread hload => rw [hrun.unloaded hread hload]

/-- A check prints the diagnostics, and its exit code is the verdict. -/
theorem report_of_check (program : String) (hargs : args ∈ commandLines input .check format)
    (hd : Holds (fs.textAt s input) d) :
    d.validate.PrintsAs format (runIn fs program args s).1.stdout ∧
      (runIn fs program args s).1.exitCode = if d.validate.isValid then 0 else 1 := by
  obtain ⟨printed, hprinted, hrun⟩ := (performs_of_mem fs program s hargs).checked hd rfl
  rw [hrun]
  exact ⟨hprinted, rfl⟩

/-- **Compiling a valid diagram prints its SQL**, with the checks and without. -/
theorem report_of_isValid (program : String) (hargs : args ∈ commandLines input mode format)
    (hmode : mode ≠ .check) (hd : Holds (fs.textAt s input) d) (hv : d.validate.isValid = true)
    {ts : List Table} (hts : d.deriveTables = .ok ts) :
    (runIn fs program args s).1 = { exitCode := 0, stdout := emit ts ++ "\n" } := by
  have hcheck : (mode.options input format).checkOnly = false := by simpa [Mode.options] using hmode
  rw [(performs_of_mem fs program s hargs).printed hd hcheck (Or.inr hv) hts rfl]

/-- **Compiling an invalid diagram prints its diagnostics** and fails. -/
theorem report_of_invalid (program : String) (hargs : args ∈ commandLines input .compile format)
    (hd : Holds (fs.textAt s input) d) (hv : d.validate.isValid = false) :
    d.validate.PrintsAs format (runIn fs program args s).1.stdout ∧
      (runIn fs program args s).1.exitCode = 1 := by
  have hgate : ¬ (Mode.compile.options input format).Admits d := by
    rintro (hskip | hvalid)
    · exact Bool.false_ne_true hskip
    · rw [hv] at hvalid
      contradiction
  obtain ⟨printed, hprinted, hrun⟩ := (performs_of_mem fs program s hargs).refused hd rfl hgate
  rw [hrun]
  exact ⟨hprinted, rfl⟩

/-- With the checks, the exit code is the verdict. -/
theorem exitCode_of_holds (program : String) (hargs : args ∈ commandLines input mode format)
    (hmode : mode ≠ .compileUnchecked) (hd : Holds (fs.textAt s input) d) :
    (runIn fs program args s).1.exitCode = if d.validate.isValid then 0 else 1 := by
  cases mode with
  | compile =>
    cases hv : d.validate.isValid with
    | true =>
      obtain ⟨ts, hts⟩ := Diagram.exists_tables hv
      rw [report_of_isValid program hargs (by decide) hd hv hts]
      rfl
    | false => exact (report_of_invalid program hargs hd hv).2
  | check => exact (report_of_check program hargs hd).2
  | compileUnchecked => exact absurd rfl hmode

/-- **With the checks, a run succeeds on the inputs that hold a valid diagram**, and on no
others. -/
theorem exitCode_eq_zero_iff (fs : FileSystem σ φ) (program : String) (s : σ)
    (hargs : args ∈ commandLines input mode format) (hmode : mode ≠ .compileUnchecked) :
    (runIn fs program args s).1.exitCode = 0 ↔
      ∃ d, Holds (fs.textAt s input) d ∧ d.validate.isValid = true := by
  constructor
  · intro hcode
    rcases holds_or_unreadable input (fs.textAt s input) with ⟨d, hd⟩ | ⟨message, h⟩
    · refine ⟨d, hd, ?_⟩
      rw [exitCode_of_holds program hargs hmode hd] at hcode
      by_contra hv
      rw [if_neg hv] at hcode
      exact absurd hcode (by decide)
    · rw [report_of_unreadable program hargs h] at hcode
      exact absurd hcode (by simp [failure])
  · rintro ⟨d, hd, hv⟩
    rw [exitCode_of_holds program hargs hmode hd, if_pos hv]

end Reports

/-! ## The modes side by side -/

/-- **The modes agree.** Checking succeeds iff compiling does, which is the case iff the input holds
a valid diagram, and compiling without the checks then reports the same. Where the input holds a
diagram, a check prints its diagnostics; if it is valid, compiling prints the SQL of its tables, and
if not, both fail and compiling prints the diagnostics as well. On an input that holds no diagram
all three fail with one message, which says why, and print nothing else. -/
theorem modes_agree {σ φ : Type} (fs : FileSystem σ φ) (program : String) (s : σ) {input : String}
    {format : Format} {plain check unchecked : List String}
    (hplain : plain ∈ commandLines input .compile format)
    (hcheck : check ∈ commandLines input .check format)
    (hunchecked : unchecked ∈ commandLines input .compileUnchecked format) :
    let read := fs.textAt s input
    let compiledRun := (runIn fs program plain s).1
    let checkedRun := (runIn fs program check s).1
    let uncheckedRun := (runIn fs program unchecked s).1
    (checkedRun.exitCode = 0 ↔ compiledRun.exitCode = 0) ∧
    (compiledRun.exitCode = 0 ↔ ∃ d, Holds read d ∧ d.validate.isValid = true) ∧
    (compiledRun.exitCode = 0 → uncheckedRun = compiledRun) ∧
    (∀ d, Holds read d →
      d.validate.PrintsAs format checkedRun.stdout ∧
      (d.validate.isValid = true → ∃ ts, d.deriveTables = .ok ts ∧
        compiledRun = { exitCode := 0, stdout := emit ts ++ "\n" }) ∧
      (d.validate.isValid = false → checkedRun.exitCode = 1 ∧ compiledRun.exitCode = 1 ∧
        compiledRun.stdout = checkedRun.stdout)) ∧
    ((¬ ∃ d, Holds read d) → ∃ message, Unreadable input read message ∧
      ∀ report ∈ [compiledRun, checkedRun, uncheckedRun],
        report = { exitCode := 1, stdout := "", stderr := message ++ "\n" }) := by
  have hcompiles := exitCode_eq_zero_iff fs program s hplain (by decide)
  have hchecks := exitCode_eq_zero_iff fs program s hcheck (by decide)
  refine ⟨hchecks.trans hcompiles.symm, hcompiles, fun hcode => ?_, fun d hd => ?_, fun hnone => ?_⟩
  · obtain ⟨d, hd, hv⟩ := hcompiles.mp hcode
    obtain ⟨ts, hts⟩ := Diagram.exists_tables hv
    rw [report_of_isValid program hplain (by decide) hd hv hts,
      report_of_isValid program hunchecked (by decide) hd hv hts]
  · obtain ⟨hprinted, hcode⟩ := report_of_check program hcheck hd
    refine ⟨hprinted, fun hv => ?_, fun hv => ?_⟩
    · obtain ⟨ts, hts⟩ := Diagram.exists_tables hv
      exact ⟨_, hts, report_of_isValid program hplain (by decide) hd hv hts⟩
    · obtain ⟨hprinted', hcode'⟩ := report_of_invalid program hplain hd hv
      rw [hv] at hcode
      exact ⟨hcode, hcode', hprinted'.unique hprinted⟩
  · obtain hholds | ⟨message, h⟩ := holds_or_unreadable input (fs.textAt s input)
    · exact absurd hholds hnone
    · refine ⟨message, h, ?_⟩
      rw [← unlines_singleton]
      simp only [List.forall_mem_cons]
      exact ⟨report_of_unreadable program hplain h, report_of_unreadable program hcheck h,
        report_of_unreadable program hunchecked h, fun _ h => absurd h List.not_mem_nil⟩

/-- The arguments of a run with options, with the diagnostics as JSON. -/
def jsonArguments (input : String) (options : List String) : List String :=
  input :: (options ++ ["-f", "json"])

/-- The report of a run among the drawings, with the diagnostics as JSON. -/
def jsonReport (input : String) (options : List String) : Report :=
  (runIn Directory.fileSystem "er" (jsonArguments input options) drawings).1

/-- The modes over a valid diagram, an empty one and a path that leads nowhere. -/
theorem drawings_modes :
    ((jsonReport "diagrams/tags.json" ["--check"]).exitCode = 0 ∧
      (∃ ts, tags.deriveTables = .ok ts ∧
        jsonReport "diagrams/tags.json" [] = { exitCode := 0, stdout := emit ts ++ "\n" }) ∧
      jsonReport "diagrams/tags.json" ["--no-validate"] = jsonReport "diagrams/tags.json" []) ∧
    (blank.validate.PrintsAs .json
        (jsonReport "out/../diagrams/blank.json" ["--check"]).stdout ∧
      (jsonReport "out/../diagrams/blank.json" ["--check"]).exitCode = 1 ∧
      (jsonReport "out/../diagrams/blank.json" []).exitCode = 1 ∧
      (jsonReport "out/../diagrams/blank.json" []).stdout =
        (jsonReport "out/../diagrams/blank.json" ["--check"]).stdout) ∧
    ∃ message, Unreadable "drafts/tags.json" (.error .notFound) message ∧
      ∀ options ∈ [[], ["--check"], ["--no-validate"]],
        jsonReport "drafts/tags.json" options =
          { exitCode := 1, stdout := "", stderr := message ++ "\n" } := by
  have hplain (input : String) :
      jsonArguments input [] ∈ commandLines input .compile .json := by
    simp [jsonArguments, commandLines, Mode.words, Format.words]
  have hcheck (input : String) :
      jsonArguments input ["--check"] ∈ commandLines input .check .json := by
    simp [jsonArguments, commandLines, Mode.words, Format.words]
  have hunchecked (input : String) :
      jsonArguments input ["--no-validate"] ∈ commandLines input .compileUnchecked .json := by
    simp [jsonArguments, commandLines, Mode.words, Format.words]
  have hagree (input : String) := modes_agree Directory.fileSystem "er" drawings (hplain input)
    (hcheck input) (hunchecked input)
  -- With the definition unfolded instead, the kernel would run the program.
  have hreport (input : String) (options : List String) : jsonReport input options =
      (runIn Directory.fileSystem "er" (jsonArguments input options) drawings).1 := rfl
  simp only [hreport]
  refine ⟨?valid, ?invalid, ?unreadable⟩
  case valid =>
    have hvalid : tags.validate.isValid = true := by decide +kernel
    obtain ⟨hchecks, hcompiles, hsame, hholds, -⟩ := hagree "diagrams/tags.json"
    have hcode := hcompiles.mpr ⟨tags, holds_tags, hvalid⟩
    exact ⟨hchecks.mpr hcode, (hholds tags holds_tags).2.1 hvalid, hsame hcode⟩
  case invalid =>
    have hinvalid : blank.validate.isValid = false := by decide +kernel
    obtain ⟨-, -, -, hholds, -⟩ := hagree "out/../diagrams/blank.json"
    obtain ⟨hprinted, -, hfails⟩ := hholds blank holds_blank
    exact ⟨hprinted, hfails hinvalid⟩
  case unreadable =>
    obtain ⟨-, -, -, -, hnone⟩ := hagree "drafts/tags.json"
    have hno : ¬ ∃ d, Holds (Directory.fileSystem.textAt drawings "drafts/tags.json") d := by
      rintro ⟨d, source, hread, -⟩
      rw [textAt_missing] at hread
      contradiction
    obtain ⟨message, hmessage, hreports⟩ := hnone hno
    rw [textAt_missing] at hmessage
    simp only [List.forall_mem_cons] at hreports ⊢
    obtain ⟨hcompiled, hchecked, hunchecked, -⟩ := hreports
    exact ⟨message, hmessage, hcompiled, hchecked, hunchecked,
      fun _ h => absurd h List.not_mem_nil⟩

end ErSchema.CommandLine
