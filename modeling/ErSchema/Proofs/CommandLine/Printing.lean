import ErSchema.CommandLine
import ErSchema.Proofs.Json.Layout

/-!
# Diagnostics as they are printed

As text, diagnostics are a line for each check that failed, in the order of the checks, with its
name and what is wrong; before them a line says so if the diagram is valid. As JSON they are an
object over several lines with the outcome of every check and the verdict, which is read back as the
same diagnostics. `Diagnostics.PrintsAs` says this of a printed text.

* `Diagnostics.ofSource_pretty`: **what is printed as JSON is read back.**
* `Diagnostics.printsAs_diagnosticsText`: what a run prints.
-/

namespace ErSchema

open Json CommandLine

namespace Diagnostics

variable {d : Diagnostics}

/-! ## Reading back -/

/-- The field of a check. -/
def checkField (c : Check) : Json.Field Diagnostics :=
  .plain c.name true Reader.boolean fun x d =>
    { d with passed := fun c' => if c' = c then x else d.passed c' }

/-- The field of the verdict. -/
def verdictField : Json.Field Diagnostics :=
  .plain verdictName true Reader.boolean fun x d => { d with isValid := x }

theorem fields_record : record.fields = Check.all.map checkField ++ [verdictField] := rfl

theorem faithful_record : record.Faithful := by
  unfold Record.Faithful
  rw [fields_record]
  refine List.forall_mem_append.mpr ⟨List.forall_mem_map.mpr fun c _ => ?_, ?_⟩
  · exact faithful_map faithful_boolean _
  · exact List.forall_mem_singleton.mpr (faithful_map faithful_boolean _)

theorem keysApart_record : record.KeysApart := by decide

/-- The outcomes of checks and the verdict, under their names. -/
def outcomes (d : Diagnostics) : List (String × Bool) :=
  Check.all.map (fun c => (c.name, d.passed c)) ++ [(verdictName, d.isValid)]

theorem toJson_eq (d : Diagnostics) :
    d.toJson = .object (d.outcomes.map fun m => (m.1, .boolean m.2)) := by
  simp [toJson, outcomes]

/-- The document that is written for diagnostics. -/
def tree (d : Diagnostics) : Tree := record.written (d.outcomes.map fun m => booleanTree m.2)

theorem isLaidOutAs_tree (d : Diagnostics) : d.tree.IsLaidOutAs 0 d.toJson := by
  have hlabelled : Record.labelled record.fields (d.outcomes.map fun m => booleanTree m.2) =
      d.outcomes.map fun m => (literalOf m.1, booleanTree m.2) := rfl
  unfold tree Record.written
  rw [toJson_eq, hlabelled]
  refine isLaidOutAs_object ?_
  rw [List.forall₂_map_left_iff, List.forall₂_map_right_iff, List.forall₂_same]
  exact fun m _ => ⟨rfl, isLaidOutAs_boolean 1 m.2⟩

/-- Checks that are read one after the other leave what is read of each. -/
theorem elements?_checks (p : Check → Bool) (cs : List Check) {fs : List (Json.Field Diagnostics)}
    {vs : List Tree} (d : Diagnostics) :
    Record.elements? (cs.map checkField ++ fs) (cs.map (fun c => booleanTree (p c)) ++ vs) d =
      Record.elements? fs vs { d with passed := fun c => if c ∈ cs then p c else d.passed c } := by
  induction cs generalizing d with
  | nil => simp
  | cons c cs ih =>
    have hput : (checkField c).put? (booleanTree (p c)) d =
        some { d with passed := fun c' => if c' = c then p c else d.passed c' } := by
      simp only [checkField, Field.put?_plain faithful_boolean, on_booleanTree, Option.map_some]
    have hpassed : (fun c' => if c' ∈ cs then p c' else if c' = c then p c else d.passed c') =
        fun c' => if c' ∈ c :: cs then p c' else d.passed c' := by
      funext c'
      by_cases hc : c' = c <;> simp [hc]
    rw [List.map_cons, List.map_cons, List.cons_append, List.cons_append, Record.elements?, hput,
      Option.bind_some, ih, hpassed]

/-- The document that is written for diagnostics holds them. -/
theorem tree?_tree (d : Diagnostics) : record.tree? d.tree = some d := by
  have hvalues : (d.outcomes.map fun m => booleanTree m.2) =
      Check.all.map (fun c => booleanTree (d.passed c)) ++ [booleanTree d.isValid] := by
    simp [outcomes]
  rw [tree, Record.tree?_written keysApart_record rfl, fields_record, hvalues, elements?_checks,
    verdictField]
  simp [Record.elements?, Field.put?_plain faithful_boolean, on_booleanTree, Check.mem_all]

/-- **What is printed as JSON is read back.** -/
theorem ofSource_pretty (d : Diagnostics) : ofSource (d.toJson.pretty ++ "\n") = .ok d := by
  have hread := Record.ofSource_toOption faithful_record (spells_pretty d.isLaidOutAs_tree)
  rw [tree?_tree] at hread
  unfold ofSource
  cases h : record.ofSource (d.toJson.pretty ++ "\n") with
  | ok d' =>
    rw [h] at hread
    rw [Option.some.inj hread]
  | error e =>
    rw [h] at hread
    contradiction

/-! ## Printing -/

/-- **Whether a text is what diagnostics print as.** -/
def PrintsAs (d : Diagnostics) : Format → String → Prop
  | .text, printed =>
    printed = unlines ((if d.isValid then ["Diagram is valid"] else []) ++
      (Check.all.filter fun c => d.passed c = false).map fun c => c.name ++ ": " ++ c.message)
  | .json, printed =>
    printed = "\x7b\n" ++ ",\n".intercalate (d.outcomes.map memberLine) ++ "\n\x7d\n" ∧
      ofSource printed = .ok d

theorem PrintsAs.unique {format : Format} {printed printed' : String}
    (h : d.PrintsAs format printed) (h' : d.PrintsAs format printed') : printed = printed' := by
  cases format with
  | text => exact h.trans h'.symm
  | json => exact h.1.trans h'.1.symm

theorem pretty_toJson (d : Diagnostics) :
    d.toJson.pretty = "\x7b\n" ++ ",\n".intercalate (d.outcomes.map memberLine) ++ "\n\x7d" := by
  have hplain : ∀ m ∈ d.outcomes, IsUnescaped m.1 := by
    have hnames : ∀ c ∈ Check.all, IsUnescaped c.name := by decide +kernel
    refine List.forall_mem_append.mpr ⟨List.forall_mem_map.mpr hnames, ?_⟩
    have hverdict : IsUnescaped verdictName := by decide +kernel
    exact List.forall_mem_singleton.mpr hverdict
  rw [toJson_eq, pretty_booleans (by simp [outcomes]) hplain]

/-- **What a run prints of diagnostics.** -/
theorem printsAs_diagnosticsText (format : Format) (d : Diagnostics) :
    d.PrintsAs format (diagnosticsText format d) := by
  cases format with
  | text => simp [PrintsAs, diagnosticsText, lines, failed]
  | json =>
    have hline : diagnosticsText .json d = d.toJson.pretty ++ "\n" := by
      simp [diagnosticsText, unlines, String.join]
    rw [hline]
    refine ⟨?_, ofSource_pretty d⟩
    rw [pretty_toJson, String.append_assoc]
    rfl

end Diagnostics

end ErSchema
