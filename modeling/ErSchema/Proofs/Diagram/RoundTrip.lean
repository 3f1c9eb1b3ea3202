import ErSchema.Proofs.Diagram.Fields
import ErSchema.Proofs.Json.Writing

/-!
# Reading back what is written

Each type has a `tree`, the document that is written for a value of it. Its text is the text of the
JSON that is written (`text_tree`), and the reader of the type makes of it that value (`on_tree`).

* `Diagram.spells_toSource`: what is written for a diagram spells its document.
* `Diagram.ofSource_toSource`: the document of a diagram holds that diagram.
-/

namespace ErSchema

open Json

namespace Attribute

/-- The document that is written for an attribute. -/
def tree (a : Attribute) : Tree :=
  record.written [textTree a.name, booleanTree a.key, booleanTree a.discriminant]

theorem text_tree (a : Attribute) : a.tree.text = compactText a.toJson :=
  text_object <| .cons ⟨rfl, text_textTree _⟩ <| .cons ⟨rfl, text_booleanTree _⟩ <|
    .cons ⟨rfl, text_booleanTree _⟩ .nil

theorem on_tree (a : Attribute) : record.read.on a.tree = some a := by
  rw [(Record.read_reads faithful_record _).on_eq, tree,
    Record.tree?_written lawful_record.keys rfl]
  simp [record, Record.elements?, Field.put?_plain, faithful_text, faithful_boolean, on_textTree,
    on_booleanTree]

end Attribute

namespace Entity

/-- The document that is written for an entity. -/
def tree (e : Entity) : Tree :=
  record.written
    [textTree e.id, textTree e.name, booleanTree e.isWeak, .list (e.attributes.map Attribute.tree)]

theorem text_tree (e : Entity) : e.tree.text = compactText e.toJson :=
  text_object <| .cons ⟨rfl, text_textTree _⟩ <| .cons ⟨rfl, text_textTree _⟩ <|
    .cons ⟨rfl, text_booleanTree _⟩ <| .cons ⟨rfl, text_list_map Attribute.text_tree _⟩ .nil

theorem on_tree (e : Entity) : record.read.on e.tree = some e := by
  rw [(Record.read_reads faithful_record _).on_eq, tree,
    Record.tree?_written lawful_record.keys rfl]
  simp [record, Record.elements?, Field.put?_plain, Field.put?_withAlias, faithful_text,
    faithful_boolean, faithful_list, Attribute.faithful_read, on_textTree, on_booleanTree,
    on_list_map, Attribute.on_tree]

end Entity

namespace Side

/-- The document that is written for a side. -/
def tree (s : Side) : Tree := record.written [textTree s.entity, textTree s.cardinality]

theorem text_tree (s : Side) : s.tree.text = compactText s.toJson :=
  text_object <| .cons ⟨rfl, text_textTree _⟩ <| .cons ⟨rfl, text_textTree _⟩ .nil

theorem refersTo?_textTree (id : String) : refersTo? (textTree id) = some id := by
  simp [refersTo?, textTree, Tree.json?, Scalar.json?, text?_literalOf, reference?_string]

theorem on_tree (s : Side) : record.read.on s.tree = some s := by
  rw [(Record.read_reads faithful_record _).on_eq, tree,
    Record.tree?_written lawful_record.keys rfl]
  change (Field.put? _ (textTree s.entity) _).bind (Record.elements? _ _) = some s
  rw [put?_entity List.mem_cons_self rfl]
  simp [record, Record.elements?, Field.put?_plain, faithful_text, on_textTree, refersTo?_textTree]

end Side

namespace Relation

/-- The document that is written for a relation. -/
def tree (r : Relation) : Tree :=
  record.written
    [textTree r.id, textTree r.name, r.side1.tree, r.side2.tree, booleanTree r.isIdentifying,
      booleanTree r.canHoldAttributes, .list (r.attributes.map Attribute.tree)]

theorem text_tree (r : Relation) : r.tree.text = compactText r.toJson :=
  text_object <| .cons ⟨rfl, text_textTree _⟩ <| .cons ⟨rfl, text_textTree _⟩ <|
    .cons ⟨rfl, r.side1.text_tree⟩ <| .cons ⟨rfl, r.side2.text_tree⟩ <|
    .cons ⟨rfl, text_booleanTree _⟩ <| .cons ⟨rfl, text_booleanTree _⟩ <|
    .cons ⟨rfl, text_list_map Attribute.text_tree _⟩ .nil

theorem on_tree (r : Relation) : record.read.on r.tree = some r := by
  rw [(Record.read_reads faithful_record _).on_eq, tree,
    Record.tree?_written lawful_record.keys rfl]
  simp [record, Record.elements?, Field.put?_plain, Field.put?_withAlias, faithful_text,
    faithful_boolean, faithful_list, Attribute.faithful_read, Side.faithful_read, on_textTree,
    on_booleanTree, on_list_map, Attribute.on_tree, Side.on_tree]

end Relation

namespace Diagram

/-- The document that is written for a diagram. -/
def tree (d : Diagram) : Tree :=
  record.written [.list (d.entities.map Entity.tree), .list (d.relations.map Relation.tree)]

theorem text_tree (d : Diagram) : d.tree.text = compactText d.toJson :=
  text_object <| .cons ⟨rfl, text_list_map Entity.text_tree _⟩ <|
    .cons ⟨rfl, text_list_map Relation.text_tree _⟩ .nil

theorem on_tree (d : Diagram) : record.read.on d.tree = some d := by
  rw [(Record.read_reads faithful_record _).on_eq, tree,
    Record.tree?_written lawful_record.keys rfl]
  simp [record, Record.elements?, Field.put?_plain, faithful_list, Entity.faithful_read,
    Relation.faithful_read, on_list_map, Entity.on_tree, Relation.on_tree]

theorem spells_toSource (d : Diagram) : d.tree.Spells d.toSource := by
  unfold Tree.Spells toSource compact
  rw [String.toList_ofList, ← d.text_tree]
  exact laid_flatMap_text _

/-- The document that is written for a diagram holds it. -/
theorem ofSource_written (d : Diagram) : ofSource d.toSource = .ok d := by
  rw [ofSource_eq_ok d.spells_toSource, ← (Record.read_reads faithful_record _).on_eq]
  exact d.on_tree

/-- **Reading back what is written**: what is written for a diagram is a document of all its fields
under their labels, and that document holds the diagram. -/
theorem ofSource_toSource (d : Diagram) :
    d.tree.Spells d.toSource ∧ ofSource d.toSource = .ok d :=
  ⟨d.spells_toSource, d.ofSource_written⟩

end Diagram

end ErSchema
