import ErSchema.Directory
import ErSchema.Schema

/-!
# The command line

The first argument is the path of a diagram, the others are options in any order. `Options.parse`
reads them, `Options.action` says what a run does once its input has been read, and `runOn` is a
whole run, with whatever gives access to files: those of the machine, or those of a state. The SQL
goes to the standard output or, with an output path, to that file; a run that fails or only checks
writes no file.

A report has what the run itself writes to the two outputs. Lines of a log, which a program may
write to the error output as well, are no part of it.

* `runIn_of_parse`: what a run over a file system comes to, once its arguments are accepted.
-/

namespace ErSchema.CommandLine

/-! ## Options -/

/-- How diagnostics are written (`DiagnosticsFormat`). -/
inductive Format where
  | text
  | json
  deriving DecidableEq, Repr

/-- The format that a word names (`DiagnosticsFormat::from_str`). -/
def Format.parse? (word : String) : Option Format :=
  if word = "text" then some .text else if word = "json" then some .json else none

/-- What a run is asked to do. -/
structure Options where
  input : String
  output : Option String := none
  checkOnly : Bool := false
  skipValidation : Bool := false
  format : Format := .text
  deriving DecidableEq, Repr

/-- Why arguments are refused. -/
inductive UsageError where
  | noInput
  | invalidFormat (word : String)
  | unknownOption (word : String)
  deriving DecidableEq, Repr

/-- Reads options onto those before them: the loop of `main` over its arguments. An option that
takes a value is ignored where there is none behind it. -/
def Options.parseMore (o : Options) : List String → Except UsageError Options
  | [] => .ok o
  | arg :: rest =>
    if arg = "-o" ∨ arg = "--output" then
      match rest with
      | [] => .ok o
      | path :: rest => parseMore { o with output := some path } rest
    else if arg = "-c" ∨ arg = "--check" then parseMore { o with checkOnly := true } rest
    else if arg = "--no-validate" then parseMore { o with skipValidation := true } rest
    else if arg = "-f" ∨ arg = "--diagnostics" then
      match rest with
      | [] => .ok o
      | word :: rest =>
        match Format.parse? word with
        | some format => parseMore { o with format := format } rest
        | none => .error (.invalidFormat word)
    else .error (.unknownOption arg)

/-- The options that arguments ask for. -/
def Options.parse : List String → Except UsageError Options
  | [] => .error .noInput
  | input :: rest => parseMore { input } rest

/-! ## Reports -/

/-- What a run leaves behind besides files. -/
structure Report where
  exitCode : UInt8
  stdout : String := ""
  stderr : String := ""
  deriving DecidableEq, Repr

/-- Lines of text, each with its end. -/
def unlines (lines : List String) : String := String.join (lines.map (· ++ "\n"))

/-- How the program is used (`usage`). -/
def usage (program : String) : List String :=
  ["Usage: " ++ program ++ " <diagram.json> [options]",
    "",
    "Options:",
    "  -o, --output <file>          Output file (default: stdout)",
    "  -c, --check                  Only validate the diagram",
    "  -f, --diagnostics <format>   Diagnostics format: text, json (default: text)",
    "      --no-validate            Compile without the validation gate"]

/-- The report on arguments that are refused. -/
def UsageError.report (program : String) : UsageError → Report
  | noInput => { exitCode := 1, stderr := unlines (usage program) }
  | invalidFormat word =>
    { exitCode := 1, stderr := unlines ["Invalid diagnostics format: " ++ word] }
  | unknownOption word =>
    { exitCode := 1, stderr := unlines (("Unknown option: " ++ word) :: usage program) }

/-- The report on a run that fails with a message. -/
def failure (message : String) : Report := { exitCode := 1, stderr := unlines [message] }

/-- Diagnostics as they are printed (`print_diagnostics`). -/
def diagnosticsText (format : Format) (d : Diagnostics) : String :=
  match format with
  | .text => unlines d.lines
  | .json => unlines [d.toJson.pretty]

/-! ## Runs -/

/-- What a run comes to: a report, or a file to write. -/
inductive Action where
  | report (r : Report)
  | write (path text : String)
  deriving DecidableEq, Repr

/-- The report of a run that only checks. -/
def Options.check (o : Options) (d : Diagram) : Report :=
  { exitCode := if d.validate.isValid then 0 else 1
    stdout := diagnosticsText o.format d.validate }

/-- What a run with a diagram comes to when it compiles. -/
def Options.compile (o : Options) (d : Diagram) : Action :=
  match if o.skipValidation then d.generateUnchecked else d.generateSql with
  | .ok sql =>
    match o.output with
    | some path => .write path sql
    | none => .report { exitCode := 0, stdout := unlines [sql] }
  | .error (.invalidDiagram diagnostics) =>
    .report
      { exitCode := 1
        stdout := diagnosticsText o.format diagnostics
        stderr := unlines ["Diagram is not valid:"] }
  | .error e => .report (failure ("Compile error: " ++ e.message))

/-- What a run comes to, by what reading its input gave. -/
def Options.action (o : Options) (input : Except PathFault String) : Action :=
  match input with
  | .error e => .report (failure ("Failed to read " ++ o.input ++ ": " ++ e.message))
  | .ok source =>
    match Diagram.load source with
    | .error e => .report (failure ("Failed to load diagram: " ++ e.message))
    | .ok d => if o.checkOnly then .report (o.check d) else o.compile d

/-- The report of a run that has written a file, or could not. -/
def writeReport (path : String) : Except PathFault Unit → Report
  | .ok () => { exitCode := 0 }
  | .error e => failure ("Failed to write " ++ path ++ ": " ++ e.message)

/-- Does what a run comes to. -/
def Action.perform {m : Type → Type} [Monad m] (files : FileAccess m) : Action → m Report
  | .report r => pure r
  | .write path text => do
    let written ← files.writeText path text
    pure (writeReport path written)

/-- A run (`main`): arguments that are refused are reported at once, and otherwise the input is
read. -/
def runOn {m : Type → Type} [Monad m] (files : FileAccess m) (program : String)
    (args : List String) : m Report :=
  match Options.parse args with
  | .error e => pure (e.report program)
  | .ok o => do
    let input ← files.readText o.input
    (o.action input).perform files

/-- A run in a state of files: its report, and the state after it. -/
def runIn {σ φ : Type} (fs : FileSystem σ φ) (program : String) (args : List String) (s : σ) :
    Report × σ :=
  (runOn fs.toFileAccess program args).run s

/-- A run in a directory. -/
def run (program : String) (args : List String) (dir : Directory) : Report × Directory :=
  runIn Directory.fileSystem program args dir

/-! ## Lemmas -/

section Lemmas

variable {σ φ : Type} (fs : FileSystem σ φ) {program : String} {args : List String} {s : σ}

theorem runIn_of_parse_error {e : UsageError} (h : Options.parse args = .error e) :
    runIn fs program args s = (e.report program, s) := by
  unfold runIn runOn
  rw [h]
  rfl

theorem runIn_of_parse {o : Options} (h : Options.parse args = .ok o) :
    runIn fs program args s =
      ((o.action (fs.textAt s o.input)).perform fs.toFileAccess).run s := by
  unfold runIn runOn
  rw [h, StateT.run_bind, fs.readText_eq]
  rfl

end Lemmas

end ErSchema.CommandLine
