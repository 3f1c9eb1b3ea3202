import ErSchema.Proofs.CommandLine.Arguments
import ErSchema.Proofs.CommandLine.Outcomes

/-!
# What a run does to files

A run may end at many points: the arguments are refused, the input cannot be read or is no diagram,
the diagram is not valid or cannot be mapped, the output cannot be written. All of them come before
the one write, which puts the whole SQL in place or fails. So a run that fails or only checks
changes nothing, and one that succeeds has compiled the diagram and touched at most one file. This
holds over any file system, whatever its folders, links and permissions are.

* `Ends`, `ends_runIn`: the ways in which a run may end, and that every run ends in one of them.
* `exitCode_of_goesThrough`: when a run succeeds.
* `run_effects`: what a run changes, prints and leaves.
-/

namespace ErSchema.CommandLine

variable {σ φ : Type} {fs : FileSystem σ φ} {args : List String} {s : σ}

/-! ## Endings -/

/-- Whether the file that a command line names as its input holds a diagram with the given
tables. -/
def Derives (fs : FileSystem σ φ) (args : List String) (s : σ) (ts : List Table) : Prop :=
  ∃ input source d, args.head? = some input ∧ fs.bytesAt? s input = some source.toUTF8 ∧
    Diagram.load source = .ok d ∧ d.deriveTables = .ok ts

theorem derives_of_holds {input : String} {d : Diagram} {ts : List Table}
    (hinput : args.head? = some input) (hd : Holds (fs.textAt s input) d)
    (hts : d.deriveTables = .ok ts) : Derives fs args s ts := by
  obtain ⟨source, hread, hload⟩ := hd
  exact ⟨input, source, d, hinput, fs.bytesAt?_of_textAt hread, hload, hts⟩

/-- How a run may end: it fails, it has only checked, or its SQL is printed or written. -/
inductive Ends (fs : FileSystem σ φ) (args : List String) (s : σ) : Report × σ → Prop
  | failed (r : Report) (h : r.exitCode ≠ 0) : Ends fs args s (r, s)
  | checked (r : Report) (h : asksCheckOnly args = true) : Ends fs args s (r, s)
  | printed (hcheck : asksCheckOnly args = false) (ts : List Table) (hts : Derives fs args s ts)
      (h : outputPath? args = none) :
      Ends fs args s ({ exitCode := 0, stdout := emit ts ++ "\n" }, s)
  | written (hcheck : asksCheckOnly args = false) (ts : List Table) (hts : Derives fs args s ts)
      (path : String) (h : outputPath? args = some path) (after : σ)
      (hwrite : (fs.writeText path (emit ts)).run s = (.ok (), after)) :
      Ends fs args s ({ exitCode := 0 }, after)

theorem exitCode_failure (message : String) : (failure message).exitCode ≠ 0 := by
  simp [failure]

/-- A run that writes its SQL fails or has it written. -/
theorem ends_of_write (hcheck : asksCheckOnly args = false) {ts : List Table}
    (hts : Derives fs args s ts) {path : String} (h : outputPath? args = some path) :
    Ends fs args s
      (writeReport path ((fs.writeText path (emit ts)).run s).1,
        ((fs.writeText path (emit ts)).run s).2) := by
  cases hwrite : (fs.writeText path (emit ts)).run s with
  | mk result after =>
    cases result with
    | ok => exact .written hcheck ts hts path h after hwrite
    | error e =>
      have hsame := fs.write_fault (congrArg Prod.fst hwrite)
      rw [hwrite] at hsame
      simp only at hsame
      rw [hsame]
      exact .failed _ (exitCode_failure _)

/-- A run that has found a diagram and does not only check it fails, or prints or writes the
SQL. -/
theorem ends_of_holds {o : Options} {d : Diagram} {outcome : Report × σ}
    (hrun : Performs fs o s outcome) (hinput : args.head? = some o.input)
    (houtput : o.output = outputPath? args) (hcheck : o.checkOnly = asksCheckOnly args)
    (hd : Holds (fs.textAt s o.input) d) (honly : o.checkOnly = false) :
    Ends fs args s outcome := by
  by_cases hgate : o.Admits d
  · cases hts : d.deriveTables with
    | error e =>
      obtain ⟨r, hcode, rfl⟩ := hrun.untabled hd honly hgate hts
      exact .failed r (by simp [hcode])
    | ok ts =>
      have hderives := derives_of_holds hinput hd hts
      cases hout : o.output with
      | none =>
        rw [hrun.printed hd honly hgate hts hout]
        exact .printed (hcheck.symm.trans honly) ts hderives (houtput.symm.trans hout)
      | some path =>
        rw [hrun.written hd honly hgate hts hout]
        exact ends_of_write (hcheck.symm.trans honly) hderives (houtput.symm.trans hout)
  · obtain ⟨printed, -, rfl⟩ := hrun.refused hd honly hgate
    exact .failed _ (by simp)

/-- **Every run ends in one of these ways.** -/
theorem ends_runIn (fs : FileSystem σ φ) (program : String) (args : List String) (s : σ) :
    Ends fs args s (runIn fs program args s) := by
  cases hparse : Options.parse args with
  | error e =>
    rw [runIn_of_parse_error fs hparse]
    cases e <;> exact .failed _ (by simp [UsageError.report])
  | ok o =>
    obtain ⟨hinput, houtput, hcheck⟩ := asked_of_parse hparse
    have hrun := performs_runIn fs program s hparse
    cases hread : fs.textAt s o.input with
    | error e =>
      rw [hrun.unread hread]
      exact .failed _ (exitCode_failure _)
    | ok source =>
      cases hload : Diagram.load source with
      | error e =>
        rw [hrun.unloaded hread hload]
        exact .failed _ (exitCode_failure _)
      | ok d =>
        have hd : Holds (fs.textAt s o.input) d := ⟨source, hread, hload⟩
        cases honly : o.checkOnly with
        | true =>
          obtain ⟨printed, -, hchecked⟩ := hrun.checked hd honly
          rw [hchecked]
          exact .checked _ (hcheck.symm.trans honly)
        | false => exact ends_of_holds hrun hinput houtput hcheck hd honly

/-- Whether a run can go through: its arguments are accepted and do not ask for a check only, its
input holds a diagram that has tables and is admitted, and its output, if it has one, can be
written. -/
def GoesThrough (fs : FileSystem σ φ) (args : List String) (s : σ) : Prop :=
  ∃ o d ts, Options.parse args = .ok o ∧ o.checkOnly = false ∧ Holds (fs.textAt s o.input) d ∧
    o.Admits d ∧ d.deriveTables = .ok ts ∧
      ∀ path ∈ o.output, ∃ after, (fs.writeText path (emit ts)).run s = (.ok (), after)

/-- **A run that can go through succeeds.** -/
theorem exitCode_of_goesThrough (h : GoesThrough fs args s) (program : String) :
    (runIn fs program args s).1.exitCode = 0 := by
  obtain ⟨o, d, ts, hparse, hcheck, hd, hgate, hts, hwrite⟩ := h
  have hrun := performs_runIn fs program s hparse
  cases hout : o.output with
  | none => rw [hrun.printed hd hcheck hgate hts hout]
  | some path =>
    obtain ⟨after, hafter⟩ := hwrite path hout
    rw [hrun.written hd hcheck hgate hts hout, hafter]
    rfl

/-- **What a run does to files.** None changes but the one that the last output path given leads to,
and none at all if the run fails or is asked to check only. A run that succeeds without being asked
to check has found a diagram in its input and derived its tables; with an output path, the file
there holds exactly their SQL and nothing is printed, and without one exactly their SQL and the end
of a line are printed. And a run that can go through does succeed. -/
theorem run_effects (fs : FileSystem σ φ) (program : String) (args : List String) (s : σ) :
    let report := (runIn fs program args s).1
    let after := (runIn fs program args s).2
    (∀ f, fs.content? after f ≠ fs.content? s f →
      ∃ path, outputPath? args = some path ∧ fs.fileAt? s path = some f) ∧
    (report.exitCode ≠ 0 ∨ asksCheckOnly args = true → after = s) ∧
    (report.exitCode = 0 ∧ asksCheckOnly args = false → ∃ ts, Derives fs args s ts ∧
      match outputPath? args with
      | some path => fs.bytesAt? after path = some (emit ts).toUTF8 ∧ report.stdout = ""
      | none => report.stdout = emit ts ++ "\n") ∧
    (GoesThrough fs args s → report.exitCode = 0) := by
  have hends := ends_runIn fs program args s
  have hsucceeds (h : GoesThrough fs args s) := exitCode_of_goesThrough h program
  generalize runIn fs program args s = outcome at hends hsucceeds ⊢
  cases hends with
  | failed r h =>
    exact ⟨fun _ hne => absurd rfl hne, fun _ => rfl, fun h₀ => absurd h₀.1 h, hsucceeds⟩
  | checked r h =>
    refine ⟨fun _ hne => absurd rfl hne, fun _ => rfl, fun h₀ => ?_, hsucceeds⟩
    exact absurd h (by simp [h₀.2])
  | printed hcheck ts hts h =>
    refine ⟨fun _ hne => absurd rfl hne, fun _ => rfl, fun _ => ⟨ts, hts, ?_⟩, hsucceeds⟩
    rw [h]
  | written hcheck ts hts path h after hwrite =>
    refine ⟨fun f hne => ⟨path, h, fs.write_frame hwrite hne⟩, ?_, fun _ => ?_, hsucceeds⟩
    · rintro (hcode | honly)
      · exact absurd rfl hcode
      · exact absurd honly (by simp [hcheck])
    · refine ⟨ts, hts, ?_⟩
      rw [h]
      exact ⟨fs.write_content hwrite, rfl⟩

/-- A run that reads from one folder and writes into another. -/
theorem drawings_effects :
    let fs := Directory.fileSystem
    let args := ["diagrams/tags.json", "-o", "out/tags.sql"]
    let report := (runIn fs "er" args drawings).1
    let after := (runIn fs "er" args drawings).2
    report.exitCode = 0 ∧ report.stdout = "" ∧
      (∃ ts, Derives fs args drawings ts ∧
        fs.bytesAt? after "out/tags.sql" = some (emit ts).toUTF8) ∧
      ∀ f ≠ ["work", "out", "tags.sql"], fs.content? after f = fs.content? drawings f := by
  obtain ⟨hframe, -, hdone, hsucceeds⟩ := run_effects Directory.fileSystem "er"
    ["diagrams/tags.json", "-o", "out/tags.sql"] drawings
  have hvalid : tags.validate.isValid = true := by decide +kernel
  obtain ⟨ts, hts⟩ := Diagram.exists_tables hvalid
  have hcode := hsucceeds ⟨_, tags, _, rfl, rfl, holds_tags, Or.inr hvalid, hts, fun path hpath => by
    cases hpath
    exact ⟨_, Directory.run_writeText rfl rfl _⟩⟩
  obtain ⟨us, hderives, hbytes, hout⟩ := hdone ⟨hcode, rfl⟩
  refine ⟨hcode, hout, ⟨us, hderives, hbytes⟩, fun f hf => ?_⟩
  by_contra hchanged
  obtain ⟨path, hpath, hfile⟩ := hframe f hchanged
  obtain rfl : "out/tags.sql" = path := Option.some.inj hpath
  have hsql : Directory.fileSystem.fileAt? drawings "out/tags.sql" =
      some ["work", "out", "tags.sql"] := rfl
  exact hf (Option.some.inj (hfile.symm.trans hsql))

end ErSchema.CommandLine
