import ErSchema.Proofs.Schema.Drafts

/-!
# The gate of the compilation

`generateSql` runs the checks first, and behind them nothing fails: the checks are strong enough for
every rule, whatever the classes of the relations, whether they are reflexive, and also where ids of
entities repeat. The errors of the rules are there for `generateUnchecked` only.

* `WellFormed.mergedTables_eq`, `WellFormed.deriveTables_eq`: the tables of a well-formed diagram.
* `generateSql_gate`: SQL comes out iff the diagram is valid, and the one error is that it is not.
-/

namespace ErSchema

namespace Diagram

variable {d : Diagram}

/-- **The tables of a well-formed diagram are its drafts, merged.** -/
theorem WellFormed.mergedTables_eq (h : d.WellFormed) :
    ∃ drafts, d.drafts = .ok drafts ∧ d.mergedTables = .ok (mergeDrafts drafts) := by
  refine ⟨_, h.drafts_eq, ?_⟩
  unfold mergedTables
  rw [h.drafts_eq, ← TableMerger.toList_extend]
  rfl

/-- The tables that are written are the merged ones, sanitized. -/
theorem WellFormed.deriveTables_eq (h : d.WellFormed) :
    ∃ drafts, d.drafts = .ok drafts ∧
      d.deriveTables = .ok ((mergeDrafts drafts).map (·.sanitize)) := by
  obtain ⟨drafts, hd, hm⟩ := h.mergedTables_eq
  exact ⟨drafts, hd, deriveTables_eq_ok hm⟩

theorem exists_tables (hv : d.validate.isValid = true) : ∃ ts, d.deriveTables = .ok ts := by
  obtain ⟨drafts, -, hts⟩ := (wellFormed_of_isValid hv).deriveTables_eq
  exact ⟨_, hts⟩

theorem WellFormed.generateUnchecked_ok (h : d.WellFormed) :
    ∃ sql, d.generateUnchecked = .ok sql := by
  obtain ⟨drafts, -, hts⟩ := h.deriveTables_eq
  unfold generateUnchecked
  rw [hts]
  exact ⟨_, rfl⟩

theorem generateSql_of_valid (h : d.validate.isValid = true) :
    d.generateSql = d.generateUnchecked := by
  simp [generateSql, h]

/-- **The gate is exact.** SQL comes out of a diagram iff it is valid, the only error is the report
of its failed checks, and every record of a valid diagram has tables. -/
theorem generateSql_gate (d : Diagram) :
    ((∃ sql, d.generateSql = .ok sql) ↔ d.validate.isValid = true) ∧
      (∀ error, d.generateSql = .error error → error = .invalidDiagram d.validate) ∧
      (d.validate.isValid = true → ∃ records, d.classify = .ok records ∧
        ∀ x ∈ records, ∃ ts, x.tables (Index.ofDiagram d) = .ok ts) := by
  by_cases hv : d.validate.isValid = true
  · have h := wellFormed_of_isValid hv
    obtain ⟨sql, hsql⟩ := h.generateUnchecked_ok
    have hgate : d.generateSql = .ok sql := (generateSql_of_valid hv).trans hsql
    refine ⟨⟨fun _ => hv, fun _ => ⟨sql, hgate⟩⟩, fun error he => ?_, fun _ => ?_⟩
    · rw [hgate] at he
      exact absurd he (by simp)
    · exact ⟨_, h.classify_eq, h.tables_ok h.classify_eq⟩
  · have hgate := generateSql_of_invalid (Bool.eq_false_iff.mpr hv)
    refine ⟨⟨fun ⟨sql, hsql⟩ => ?_, fun h => absurd h hv⟩, fun error he => ?_,
      fun h => absurd h hv⟩
    · rw [hgate] at hsql
      exact absurd hsql (by simp)
    · rw [hgate] at he
      exact (Except.error.inj he).symm

/-- A shop that keeps orders with weak lines, products that are parts of others, and tags. -/
def shop : Diagram where
  entities := [
    ⟨"o", "Order", false, [.ofKey "number", .ofName "date"]⟩,
    ⟨"l", "Line", true, [.ofDiscriminant "position", .ofName "amount"]⟩,
    ⟨"p", "Producto Básico", false, [.ofKey "código"]⟩,
    ⟨"t", "Tag", false, [.ofKey "label"]⟩]
  relations := [
    ⟨"r1", "lists", ⟨"o", "1:1"⟩, ⟨"l", "0:N"⟩, true, false, []⟩,
    ⟨"r2", "part", ⟨"p", "0:1"⟩, ⟨"p", "0:N"⟩, false, false, []⟩,
    ⟨"r3", "marks", ⟨"t", "0:N"⟩, ⟨"p", "1:N"⟩, false, true, [.ofName "since"]⟩,
    ⟨"r4", "main", ⟨"o", "0:1"⟩, ⟨"p", "1:1"⟩, false, false, []⟩]

theorem shop_compiles : ∃ sql, shop.generateSql = .ok sql :=
  (generateSql_gate shop).1.mpr (by decide +kernel)

end Diagram

end ErSchema
