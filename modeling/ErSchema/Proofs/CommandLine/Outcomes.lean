import ErSchema.Proofs.CommandLine.Printing
import ErSchema.Proofs.Diagram.RoundTrip
import ErSchema.Proofs.Schema.Gate

/-!
# What a run comes to

A run with options reads its input, and from there on what it comes to is told by a few facts:
whether the input is the document of a diagram, whether only a check is wanted, whether the checks
stand before the tables, and where the SQL goes. `Performs` tells it case by case, over any file
system, and nothing else about a run is used from there on.

* `performs_runIn`: **what a run comes to**, once its arguments are accepted.
* `drawings`: a directory with diagrams in one folder and room for SQL in another.
-/

namespace ErSchema.CommandLine

/-- Whether what was read is the document of a diagram. -/
def Holds (read : Except PathFault String) (d : Diagram) : Prop :=
  ∃ source, read = .ok source ∧ Diagram.load source = .ok d

/-- Whether the checks, unless they are left out, let a diagram pass to its tables. -/
def Options.Admits (o : Options) (d : Diagram) : Prop :=
  o.skipValidation = true ∨ d.validate.isValid = true

/-- **What a run with given options comes to**, by its report and the state of files after it. -/
structure Performs {σ φ : Type} (fs : FileSystem σ φ) (o : Options) (s : σ)
    (outcome : Report × σ) : Prop where
  /-- An input that cannot be read is reported. -/
  unread {e : PathFault} (hread : fs.textAt s o.input = .error e) :
    outcome = (failure ("Failed to read " ++ o.input ++ ": " ++ e.message), s)
  /-- An input that is no diagram is reported. -/
  unloaded {source : String} {e : CompileError} (hread : fs.textAt s o.input = .ok source)
    (hload : Diagram.load source = .error e) :
    outcome = (failure ("Failed to load diagram: " ++ e.message), s)
  /-- A check prints the diagnostics, and its exit code is the verdict. -/
  checked {d : Diagram} (hd : Holds (fs.textAt s o.input) d) (hcheck : o.checkOnly = true) :
    ∃ printed, d.validate.PrintsAs o.format printed ∧
      outcome = ({ exitCode := if d.validate.isValid then 0 else 1, stdout := printed }, s)
  /-- A diagram that is not admitted is reported with its diagnostics. -/
  refused {d : Diagram} (hd : Holds (fs.textAt s o.input) d) (hcheck : o.checkOnly = false)
    (hgate : ¬ o.Admits d) :
    ∃ printed, d.validate.PrintsAs o.format printed ∧
      outcome = ({ exitCode := 1, stdout := printed, stderr := "Diagram is not valid:\n" }, s)
  /-- A diagram that has no tables is reported. -/
  untabled {d : Diagram} {e : CompileError} (hd : Holds (fs.textAt s o.input) d)
    (hcheck : o.checkOnly = false) (hgate : o.Admits d) (hts : d.deriveTables = .error e) :
    ∃ r : Report, r.exitCode = 1 ∧ outcome = (r, s)
  /-- Without an output path the SQL is printed. -/
  printed {d : Diagram} {ts : List Table} (hd : Holds (fs.textAt s o.input) d)
    (hcheck : o.checkOnly = false) (hgate : o.Admits d) (hts : d.deriveTables = .ok ts)
    (hout : o.output = none) :
    outcome = ({ exitCode := 0, stdout := emit ts ++ "\n" }, s)
  /-- With an output path the SQL is written there. -/
  written {d : Diagram} {ts : List Table} {path : String} (hd : Holds (fs.textAt s o.input) d)
    (hcheck : o.checkOnly = false) (hgate : o.Admits d) (hts : d.deriveTables = .ok ts)
    (hout : o.output = some path) :
    outcome =
      let write := (fs.writeText path (emit ts)).run s
      (writeReport path write.1, write.2)

/-! ## Actions -/

section Actions

variable {read : Except PathFault String} {d : Diagram} {o : Options}

theorem unlines_singleton (line : String) : unlines [line] = line ++ "\n" := by
  simp [unlines, String.join]

theorem action_of_holds (h : Holds read d) (o : Options) :
    o.action read = if o.checkOnly then .report (o.check d) else o.compile d := by
  obtain ⟨source, hread, hload⟩ := h
  unfold Options.action
  simp only [hread, hload]

theorem action_of_check (h : Holds read d) (hcheck : o.checkOnly = true) :
    o.action read = .report (o.check d) := by
  rw [action_of_holds h, if_pos hcheck]

theorem action_of_compile (h : Holds read d) (hcheck : o.checkOnly = false) :
    o.action read = o.compile d := by
  rw [action_of_holds h, if_neg (Bool.eq_false_iff.mp hcheck)]

/-- Behind the checks the SQL is that of the tables. -/
theorem sql_of_admits (h : o.Admits d) :
    (if o.skipValidation then d.generateUnchecked else d.generateSql) =
      d.deriveTables.map emit := by
  have hunchecked : d.generateUnchecked = d.deriveTables.map emit := by
    unfold Diagram.generateUnchecked
    cases d.deriveTables <;> rfl
  rcases h with hskip | hv
  · rw [if_pos hskip, hunchecked]
  · rw [Diagram.generateSql_of_valid hv, hunchecked, ite_self]

/-- A diagram that is not admitted is reported with its diagnostics. -/
theorem compile_of_not_admits (h : ¬ o.Admits d) :
    o.compile d = .report
      { exitCode := 1
        stdout := diagnosticsText o.format d.validate
        stderr := unlines ["Diagram is not valid:"] } := by
  obtain ⟨hskip, hv⟩ := not_or.mp h
  simp only [Options.compile, hskip, Bool.false_eq_true, if_false,
    generateSql_of_invalid (Bool.eq_false_iff.mpr hv)]

/-- A diagram without tables is reported. -/
theorem exists_report_of_untabled (h : o.Admits d) {e : CompileError}
    (hts : d.deriveTables = .error e) : ∃ r, o.compile d = .report r ∧ r.exitCode = 1 := by
  have hsql := sql_of_admits h
  rw [hts] at hsql
  unfold Options.compile
  rw [hsql]
  cases e <;> exact ⟨_, rfl, rfl⟩

theorem compile_of_admits (h : o.Admits d) {ts : List Table} (hts : d.deriveTables = .ok ts) :
    o.compile d =
      match o.output with
      | some path => .write path (emit ts)
      | none => .report { exitCode := 0, stdout := unlines [emit ts] } := by
  have hsql := sql_of_admits h
  rw [hts] at hsql
  unfold Options.compile
  rw [hsql]
  rfl

end Actions

/-! ## Runs -/

section Runs

variable {σ φ : Type} {o : Options}

/-- **What a run comes to**, once its arguments are accepted. -/
theorem performs_runIn (fs : FileSystem σ φ) (program : String) (s : σ) {args : List String}
    (h : Options.parse args = .ok o) : Performs fs o s (runIn fs program args s) := by
  rw [runIn_of_parse fs h]
  constructor
  case unread =>
    intro e hread
    rw [hread]
    rfl
  case unloaded =>
    intro source e hread hload
    rw [hread, Options.action]
    simp only [hload]
    rfl
  case checked =>
    intro d hd hcheck
    rw [action_of_check hd hcheck]
    exact ⟨_, d.validate.printsAs_diagnosticsText o.format, rfl⟩
  case refused =>
    intro d hd hcheck hgate
    rw [action_of_compile hd hcheck, compile_of_not_admits hgate, unlines_singleton]
    exact ⟨_, d.validate.printsAs_diagnosticsText o.format, rfl⟩
  case untabled =>
    intro d e hd hcheck hgate hts
    obtain ⟨r, hr, hcode⟩ := exists_report_of_untabled hgate hts
    rw [action_of_compile hd hcheck, hr]
    exact ⟨r, hcode, rfl⟩
  case printed =>
    intro d ts hd hcheck hgate hts hout
    rw [action_of_compile hd hcheck, compile_of_admits hgate hts, hout, unlines_singleton]
    rfl
  case written =>
    intro d ts path hd hcheck hgate hts hout
    rw [action_of_compile hd hcheck, compile_of_admits hgate hts, hout]
    rfl

end Runs

/-! ## A directory of diagrams -/

/-- A diagram of one entity. -/
def tags : Diagram where
  entities := [⟨"t", "Tag", false, [.ofKey "label"]⟩]

/-- A diagram with nothing in it, which is not valid. -/
def blank : Diagram := {}

/-- The content of the file of a diagram. -/
@[irreducible]
def fileOf (d : Diagram) : ByteArray := d.toSource.toUTF8

/-- A directory with a valid and an empty diagram in one folder and a file in another. -/
def drawings : Directory :=
  .ofList [("diagrams/tags.json", fileOf tags), ("diagrams/blank.json", fileOf blank),
    ("out/old.sql", ByteArray.empty)]

/-- What is written for a diagram holds it. -/
theorem load_toSource (d : Diagram) : Diagram.load d.toSource = .ok d := by
  unfold Diagram.load
  rw [d.ofSource_written]

theorem holds_of_readBytes {dir : Directory} {path : String} {d : Diagram}
    (h : dir.readBytes path = .ok (fileOf d)) :
    Holds (Directory.fileSystem.textAt dir path) d := by
  refine ⟨d.toSource, ?_, load_toSource d⟩
  have htext : Directory.fileSystem.textAt dir path = (dir.readBytes path).bind decode := rfl
  rw [htext, h, fileOf]
  exact decode_toUTF8 _

theorem holds_tags :
    Holds (Directory.fileSystem.textAt drawings "diagrams/tags.json") tags :=
  holds_of_readBytes rfl

theorem holds_blank :
    Holds (Directory.fileSystem.textAt drawings "out/../diagrams/blank.json") blank :=
  holds_of_readBytes rfl

theorem textAt_missing :
    Directory.fileSystem.textAt drawings "drafts/tags.json" = .error .notFound := rfl

end ErSchema.CommandLine
