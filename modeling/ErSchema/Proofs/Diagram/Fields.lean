import ErSchema.Diagram.Document
import ErSchema.Proofs.Json.Covering
import ErSchema.Proofs.Json.Respelling

/-!
# The fields of diagrams

What the fields of attributes, entities, sides, relations and diagrams make of the documents of
their values. Each of them sets what it reads and leaves what the others set.

* `Side.put?_entity`: a side is set to the id that a document refers to.
* `faithful_record`, `covers_read`, `lawful_record` of each type: the laws of its record.
* `Diagram.ofSource_eq_ok`: what a source holds depends on its document alone.
-/

namespace ErSchema

open Json

/-! ## Fields -/

/-- Two updates of a record, each by what a document is read as, may be made in either order if the
updates by any values may. -/
theorem map_bind_map_comm {α β γ : Type} {o : Option β} {o' : Option γ} {set : β → α}
    {set' : α → γ → α} {first' : γ → α} {first : α → β → α}
    (h : ∀ x y, set' (set x) y = first (first' y) x) :
    ((o.map set).bind fun b => o'.map (set' b)) =
      (o'.map first').bind fun b => o.map (first b) := by
  cases o <;> cases o' <;> simp [h]

namespace Attribute

theorem faithful_record : record.Faithful := by
  simp only [Record.Faithful, record, List.forall_mem_cons, Field.plain]
  exact ⟨faithful_map faithful_text _, faithful_map faithful_boolean _,
    faithful_map faithful_boolean _, fun _ h => absurd h List.not_mem_nil⟩

theorem faithful_read : record.read.Faithful := Record.faithful_read faithful_record

theorem covers_read : record.read.Covers := by
  refine Record.read_covers ?_
  simp only [Record.Covers, record, List.forall_mem_cons, Field.plain]
  exact ⟨covers_map text_covers _, covers_map boolean_covers _, covers_map boolean_covers _,
    fun _ h => absurd h List.not_mem_nil⟩

theorem lawful_record : record.Lawful where
  keys := by decide
  commute := by
    simp only [record, List.pairwise_cons, List.forall_mem_cons, List.not_mem_nil,
      IsEmpty.forall_iff, implies_true, and_true, List.Pairwise.nil, Field.put?_plain,
      faithful_text, faithful_boolean]
    and_intros <;> exact fun u v a => by
      refine map_bind_map_comm ?_
      exact fun _ _ => rfl

end Attribute

namespace Entity

theorem faithful_record : record.Faithful := by
  simp only [Record.Faithful, record, List.forall_mem_cons, Field.plain, Field.withAlias]
  exact ⟨faithful_map faithful_text _, faithful_map faithful_text _,
    faithful_map faithful_boolean _, faithful_map (faithful_list Attribute.faithful_read) _,
    fun _ h => absurd h List.not_mem_nil⟩

theorem faithful_read : record.read.Faithful := Record.faithful_read faithful_record

theorem covers_read : record.read.Covers := by
  refine Record.read_covers ?_
  simp only [Record.Covers, record, List.forall_mem_cons, Field.plain, Field.withAlias]
  exact ⟨covers_map text_covers _, covers_map text_covers _, covers_map boolean_covers _,
    covers_map (list_covers Attribute.covers_read) _, fun _ h => absurd h List.not_mem_nil⟩

theorem lawful_record : record.Lawful where
  keys := by decide
  commute := by
    simp only [record, List.pairwise_cons, List.forall_mem_cons, List.not_mem_nil,
      IsEmpty.forall_iff, implies_true, and_true, List.Pairwise.nil, Field.put?_withAlias,
      Field.put?_plain, faithful_text, faithful_boolean, faithful_list, Attribute.faithful_read]
    and_intros <;> exact fun u v a => by
      refine map_bind_map_comm ?_
      exact fun _ _ => rfl

end Entity

namespace Side

theorem faithful_record : record.Faithful := by
  simp only [Record.Faithful, record, List.forall_mem_cons, Field.plain]
  exact ⟨faithful_map (faithful_value _) _, faithful_map faithful_text _,
    fun _ h => absurd h List.not_mem_nil⟩

theorem faithful_read : record.read.Faithful := Record.faithful_read faithful_record

theorem covers_read : record.read.Covers := by
  refine Record.read_covers ?_
  simp only [Record.Covers, record, List.forall_mem_cons, Field.plain]
  exact ⟨covers_map (value_covers _) _, covers_map text_covers _,
    fun _ h => absurd h List.not_mem_nil⟩

/-- The id that a document refers to. -/
def refersTo? (t : Tree) : Option String := (t.json? referenceDepth).bind reference?

theorem put?_entity {f : Json.Field Side} (hf : f ∈ record.fields) (hlabel : f.label = "entity") :
    f.put? = fun t s => (refersTo? t).map fun id => { s with entity := id } := by
  simp only [record, List.mem_cons, List.not_mem_nil, or_false] at hf
  rcases hf with rfl | rfl
  · funext t s
    unfold Field.put? refersTo?
    simp only [on_map (faithful_value referenceDepth), (value_reads referenceDepth t).on_eq]
    cases t.json? referenceDepth with
    | none => rfl
    | some v => cases h : reference? v <;> simp [h, Except.toOption]
  · exact absurd hlabel (by decide)

theorem lawful_record : record.Lawful where
  keys := by decide
  commute := by
    refine List.pairwise_pair.mpr fun u v a => ?_
    rw [put?_entity List.mem_cons_self rfl, Field.put?_plain faithful_text]
    refine map_bind_map_comm ?_
    exact fun _ _ => rfl

end Side

namespace Relation

theorem faithful_record : record.Faithful := by
  simp only [Record.Faithful, record, List.forall_mem_cons, Field.plain, Field.withAlias]
  exact ⟨faithful_map faithful_text _, faithful_map faithful_text _,
    faithful_map Side.faithful_read _, faithful_map Side.faithful_read _,
    faithful_map faithful_boolean _, faithful_map faithful_boolean _,
    faithful_map (faithful_list Attribute.faithful_read) _,
    fun _ h => absurd h List.not_mem_nil⟩

theorem faithful_read : record.read.Faithful := Record.faithful_read faithful_record

theorem covers_read : record.read.Covers := by
  refine Record.read_covers ?_
  simp only [Record.Covers, record, List.forall_mem_cons, Field.plain, Field.withAlias]
  exact ⟨covers_map text_covers _, covers_map text_covers _, covers_map Side.covers_read _,
    covers_map Side.covers_read _, covers_map boolean_covers _, covers_map boolean_covers _,
    covers_map (list_covers Attribute.covers_read) _, fun _ h => absurd h List.not_mem_nil⟩

theorem lawful_record : record.Lawful where
  keys := by decide
  commute := by
    simp only [record, List.pairwise_cons, List.forall_mem_cons, List.not_mem_nil,
      IsEmpty.forall_iff, implies_true, and_true, List.Pairwise.nil, Field.put?_withAlias,
      Field.put?_plain, faithful_text, faithful_boolean, faithful_list, Attribute.faithful_read,
      Side.faithful_read]
    and_intros <;> exact fun u v a => by
      refine map_bind_map_comm ?_
      exact fun _ _ => rfl

end Relation

namespace Diagram

theorem faithful_record : record.Faithful := by
  simp only [Record.Faithful, record, List.forall_mem_cons, Field.plain]
  exact ⟨faithful_map (faithful_list Entity.faithful_read) _,
    faithful_map (faithful_list Relation.faithful_read) _, fun _ h => absurd h List.not_mem_nil⟩

theorem covers_record : record.Covers := by
  simp only [Record.Covers, record, List.forall_mem_cons, Field.plain]
  exact ⟨covers_map (list_covers Entity.covers_read) _,
    covers_map (list_covers Relation.covers_read) _, fun _ h => absurd h List.not_mem_nil⟩

theorem lawful_record : record.Lawful where
  keys := by decide
  commute := by
    refine List.pairwise_pair.mpr fun u v a => ?_
    rw [Field.put?_plain (faithful_list Entity.faithful_read),
      Field.put?_plain (faithful_list Relation.faithful_read)]
    refine map_bind_map_comm ?_
    exact fun _ _ => rfl

/-- **What a source holds depends on its document alone.** -/
theorem ofSource_eq_ok {t : Tree} {source : String} (h : t.Spells source) {d : Diagram} :
    ofSource source = .ok d ↔ record.tree? t = some d := by
  rw [← Record.ofSource_toOption faithful_record h]
  unfold ofSource
  cases record.ofSource source <;> simp [Except.toOption]

end Diagram

end ErSchema
