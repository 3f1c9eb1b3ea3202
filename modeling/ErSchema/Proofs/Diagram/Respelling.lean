import ErSchema.Proofs.Diagram.RoundTrip
import Mathlib.Logic.Relation

/-!
# Diagrams do not depend on how their documents are spelled

A document of a diagram may be respelled at the members of its objects, in the references of its
sides and in its white space. `Diagram.Respelled` is one such step between two sources, anywhere in
their documents: each type says which of its fields hold values that may be respelled in turn.

* `ReferenceRespells.refersTo?_eq`: respelled references are to the same id.
* `Diagram.hasDefaults_record`, `Diagram.keeps_read`, and those of the other types: a field that may
  be absent has a value that says as much, and a respelled document holds the same value.
* `Diagram.ofSource_respelled`: the same diagram is read after any steps of respelling.
-/

open Relation (ReflTransGen)

namespace ErSchema

open Json

/-! ## References -/

/-- A key under which an object around an id may have it. -/
def IsIdKey (k : String) : Prop := k = "id" ∨ k = drawnId

/-- A document that refers to an id by itself or by an object around it. -/
inductive RefersTo (id : String) : Tree → Prop
  | bare {l : Literal} (text : l.text? = some id) : RefersTo id (.scalar (.string l))
  | keyed {key l : Literal} {k : String} (label : key.text? = some k) (isId : IsIdKey k)
    (text : l.text? = some id) : RefersTo id (.object [(key, .scalar (.string l))])

/-- A reference is respelled: it is exchanged for another to the same id, or the id in an object
goes by its other key. -/
inductive ReferenceRespells : Tree → Tree → Prop
  | exchanged {id : String} {t t' : Tree} (refers : RefersTo id t) (refers' : RefersTo id t') :
    ReferenceRespells t t'
  | renamed {before after : List (Literal × Tree)} {key key' : Literal} {k k' : String} {v : Tree}
    (label : key.text? = some k) (isId : IsIdKey k)
    (label' : key'.text? = some k') (isId' : IsIdKey k') :
    ReferenceRespells (.object (before ++ (key, v) :: after))
      (.object (before ++ (key', v) :: after))

theorem RefersTo.refersTo?_eq {id : String} {t : Tree} (h : RefersTo id t) :
    Side.refersTo? t = some id := by
  cases h with
  | bare text => simp [Side.refersTo?, Tree.json?, Scalar.json?, text, reference?_string]
  | @keyed key l k label isId text =>
    simp [Side.refersTo?, referenceDepth, Tree.json?, memberOf?, Scalar.json?, label, text,
      reference?_id k id isId]

/-- An id is found under either of its keys. -/
theorem reference?_rename {before after : List (String × Json)} {k k' : String} (hk : IsIdKey k)
    (hk' : IsIdKey k') (v : Json) :
    reference? (.object (before ++ (k', v) :: after)) =
      reference? (.object (before ++ (k, v) :: after)) := by
  have hid : (k = "id" || k = drawnId : Bool) = true := by simpa [IsIdKey] using hk
  have hid' : (k' = "id" || k' = drawnId : Bool) = true := by simpa [IsIdKey] using hk'
  unfold reference?
  simp only [List.filter_append, List.filter_cons, hid, hid', if_true]
  generalize before.filter (fun m => m.1 = "id" || m.1 = drawnId) = ids
  generalize after.filter (fun m => m.1 = "id" || m.1 = drawnId) = ids'
  -- where the id is not the only one, there is no reference under either key
  cases ids with
  | nil => cases v <;> cases ids' <;> rfl
  | cons m ids =>
    obtain ⟨_, w⟩ := m
    cases w <;> cases ids <;> rfl

theorem ReferenceRespells.refersTo?_eq {t t' : Tree} (h : ReferenceRespells t t') :
    Side.refersTo? t' = Side.refersTo? t := by
  cases h with
  | exchanged refers refers' => rw [refers.refersTo?_eq, refers'.refersTo?_eq]
  | @renamed before after key key' k k' v label isId label' isId' =>
    simp only [Side.refersTo?, referenceDepth, Tree.json?, List.mapM_append, List.mapM_cons,
      memberOf?, label, label', Option.bind_some]
    cases before.mapM (memberOf? (Tree.json? 122)) with
    | none => rfl
    | some bs =>
      cases v.json? 122 with
      | none => rfl
      | some w =>
        cases after.mapM (memberOf? (Tree.json? 122)) with
        | none => rfl
        | some as => simpa using reference?_rename isId isId' w

/-! ## Respelled documents -/

/-- The document of an attribute is respelled. -/
def Attribute.Respells : Tree → Tree → Prop := Attribute.record.Respells fun _ _ _ => False

/-- The document of an entity is respelled, or that of one of its attributes. -/
def Entity.Respells : Tree → Tree → Prop :=
  Entity.record.Respells fun label t t' =>
    label = "attributes" ∧ ItemRespells Attribute.Respells t t'

/-- The document of a side is respelled, or its reference to an entity. -/
def Side.Respells : Tree → Tree → Prop :=
  Side.record.Respells fun label t t' => label = "entity" ∧ ReferenceRespells t t'

/-- The document of a relation is respelled, or that of a side or of an attribute. -/
def Relation.Respells : Tree → Tree → Prop :=
  Relation.record.Respells fun label t t' =>
    (label = "side1" ∨ label = "side2") ∧ Side.Respells t t' ∨
      label = "attributes" ∧ ItemRespells Attribute.Respells t t'

/-- The document of a diagram is respelled, or that of an entity or of a relation. -/
def Diagram.Respells : Tree → Tree → Prop :=
  Diagram.record.Respells fun label t t' =>
    label = "entities" ∧ ItemRespells Entity.Respells t t' ∨
      label = "relations" ∧ ItemRespells Relation.Respells t t'

theorem Attribute.hasDefaults_record : Attribute.record.HasDefaults := by
  simp only [Record.HasDefaults, record, List.forall_mem_cons]
  refine ⟨Bool.noConfusion, fun _ => ?_, fun _ => ?_, fun _ h => absurd h List.not_mem_nil⟩
  · exact ⟨_, Record.isDefault_plain faithful_boolean (on_booleanTree false) rfl "key"⟩
  · exact ⟨_, Record.isDefault_plain faithful_boolean (on_booleanTree false) rfl "discriminant"⟩

theorem Entity.hasDefaults_record : Entity.record.HasDefaults := by
  simp only [Record.HasDefaults, record, List.forall_mem_cons]
  refine ⟨Bool.noConfusion, Bool.noConfusion, fun _ => ?_, fun _ => ?_,
    fun _ h => absurd h List.not_mem_nil⟩
  · exact ⟨_, Record.isDefault_plain faithful_boolean (on_booleanTree false) rfl "isWeak"⟩
  · exact ⟨_, Record.isDefault_plain (faithful_list Attribute.faithful_read)
      (on_list_map Attribute.faithful_read Attribute.on_tree []) rfl "attributes"⟩

theorem Side.hasDefaults_record : Side.record.HasDefaults := by
  simp only [Record.HasDefaults, record, List.forall_mem_cons]
  refine ⟨fun _ => ⟨textTree "", rfl, ?_⟩, fun _ => ?_, fun _ h => absurd h List.not_mem_nil⟩
  · rw [put?_entity List.mem_cons_self rfl]
    simp only [refersTo?_textTree, Option.map_some]
  · exact ⟨_, Record.isDefault_plain faithful_text (on_textTree "") rfl "cardinality"⟩

theorem Relation.hasDefaults_record : Relation.record.HasDefaults := by
  simp only [Record.HasDefaults, record, List.forall_mem_cons]
  refine ⟨Bool.noConfusion, Bool.noConfusion, Bool.noConfusion, Bool.noConfusion, fun _ => ?_,
    fun _ => ?_, fun _ => ?_, fun _ h => absurd h List.not_mem_nil⟩
  · exact ⟨_, Record.isDefault_plain faithful_boolean (on_booleanTree false) rfl "isIdentifying"⟩
  · exact ⟨_, Record.isDefault_plain faithful_boolean (on_booleanTree false) rfl
      "canHoldAttributes"⟩
  · exact ⟨_, Record.isDefault_plain (faithful_list Attribute.faithful_read)
      (on_list_map Attribute.faithful_read Attribute.on_tree []) rfl "attributes"⟩

theorem Diagram.hasDefaults_record : Diagram.record.HasDefaults := by
  simp only [Record.HasDefaults, record, List.forall_mem_cons]
  refine ⟨fun _ => ?_, fun _ => ?_, fun _ h => absurd h List.not_mem_nil⟩
  · exact ⟨_, Record.isDefault_plain (faithful_list Entity.faithful_read)
      (on_list_map Entity.faithful_read Entity.on_tree []) rfl "entities"⟩
  · exact ⟨_, Record.isDefault_plain (faithful_list Relation.faithful_read)
      (on_list_map Relation.faithful_read Relation.on_tree []) rfl "relations"⟩

theorem Attribute.keeps_read : Attribute.record.read.Keeps Attribute.Respells :=
  Record.keeps_read Attribute.faithful_record Attribute.lawful_record
    fun f _ => f.keeps_of_forall_not fun _ _ => id

theorem Entity.keeps_read : Entity.record.read.Keeps Entity.Respells := by
  refine Record.keeps_read faithful_record lawful_record fun f hf => ?_
  rintro t t' ⟨hlabel, h⟩
  exact lawful_record.keeps_plain hf hlabel rfl (faithful_list Attribute.faithful_read)
    (Attribute.keeps_read.list Attribute.faithful_read) t t' h

theorem Side.keeps_read : Side.record.read.Keeps Side.Respells := by
  refine Record.keeps_read faithful_record lawful_record fun f hf => ?_
  rintro t t' ⟨hlabel, h⟩ s s' hs
  rw [put?_entity hf hlabel] at hs ⊢
  exact (congrArg _ h.refersTo?_eq).trans hs

theorem Relation.keeps_read : Relation.record.read.Keeps Relation.Respells := by
  refine Record.keeps_read faithful_record lawful_record fun f hf => ?_
  rintro t t' (⟨hside1 | hside2, h⟩ | ⟨hattributes, h⟩)
  · exact lawful_record.keeps_plain hf hside1 rfl Side.faithful_read Side.keeps_read t t' h
  · exact lawful_record.keeps_plain hf hside2 rfl Side.faithful_read Side.keeps_read t t' h
  · exact lawful_record.keeps_plain hf hattributes rfl (faithful_list Attribute.faithful_read)
      (Attribute.keeps_read.list Attribute.faithful_read) t t' h

theorem Diagram.keeps_read : Diagram.record.read.Keeps Diagram.Respells := by
  refine Record.keeps_read faithful_record lawful_record fun f hf => ?_
  rintro t t' (⟨hentities, h⟩ | ⟨hrelations, h⟩)
  · exact lawful_record.keeps_plain hf hentities rfl (faithful_list Entity.faithful_read)
      (Entity.keeps_read.list Entity.faithful_read) t t' h
  · exact lawful_record.keeps_plain hf hrelations rfl (faithful_list Relation.faithful_read)
      (Relation.keeps_read.list Relation.faithful_read) t t' h

/-! ## Respelled sources -/

namespace Diagram

/-- A source is respelled in one step: the white space of its document is changed, or its document
is respelled in one place. -/
def Respelled (source source' : String) : Prop :=
  ∃ t t', t.Spells source ∧ t'.Spells source' ∧ (t = t' ∨ Diagram.Respells t t')

theorem Respelled.ofSource_eq {source source' : String} (h : Respelled source source')
    {d : Diagram} (hd : ofSource source = .ok d) : ofSource source' = .ok d := by
  obtain ⟨t, t', ht, ht', hstep⟩ := h
  rw [ofSource_eq_ok ht] at hd
  rw [ofSource_eq_ok ht']
  rcases hstep with rfl | hstep
  · exact hd
  · rw [← (Record.read_reads faithful_record _).on_eq] at hd ⊢
    exact keeps_read t t' hstep d hd

/-- **A diagram does not depend on how its document is spelled.** Every source that is accepted is a
spelling of a document, and the same diagram is read after any steps of respelling. -/
theorem ofSource_respelled {source : String} {d : Diagram} (h : ofSource source = .ok d) :
    (∃ t : Tree, t.Spells source) ∧
      ∀ source', ReflTransGen Respelled source source' → ofSource source' = .ok d := by
  refine ⟨Record.exists_spells covers_record h, fun source' hsteps => ?_⟩
  induction hsteps with
  | refl => exact h
  | tail _ hstep ih => exact hstep.ofSource_eq ih

open Record (named?_literalOf)

/-- A relation of which one side refers to an entity. -/
def sketch : Diagram where
  relations := [{ id := "r", name := "R", side1 := { entity := "e" }, side2 := {} }]

/-- A document of the sketch without its entities, with a key of the id and a reference. -/
def sketchTree (key : String) (reference : Tree) : Tree :=
  .object [(literalOf "relations", .list [.object [(literalOf key, textTree "r"),
    (literalOf "name", textTree "R"),
    (literalOf "side1",
      .object [(literalOf "entity", reference), (literalOf "cardinality", textTree "")]),
    (literalOf "side2", Side.tree {}), (literalOf "isIdentifying", booleanTree false),
    (literalOf "canHoldAttributes", booleanTree false), (literalOf "attributes", .list [])]])]

theorem sketch_omitted : Diagram.Respells sketch.tree (sketchTree "id" (textTree "e")) :=
  @Record.Respells.omitted _ _ _ [] _ (literalOf "entities") _ _ (named?_literalOf rfl) <|
    Record.isDefault_plain (faithful_list Entity.faithful_read)
      (on_list_map Entity.faithful_read Entity.on_tree []) rfl "entities"

theorem sketch_renamed (t : Tree) : Diagram.Respells (sketchTree "id" t) (sketchTree "idMx" t) :=
  @Record.Respells.member _ _ _ [] _ _ _ _ _ (named?_literalOf rfl) <| Or.inr ⟨rfl,
    @ItemRespells.item _ [] _ _ _ <|
      @Record.Respells.renamed _ _ _ [] _ _ _ _ _ (named?_literalOf rfl) (named?_literalOf rfl)⟩

/-- An object around the id that the sketch refers to. -/
def sketchReference : Tree := .object [(literalOf "idMx", textTree "e")]

theorem sketch_exchanged (key : String) :
    Diagram.Respells (sketchTree key (textTree "e")) (sketchTree key sketchReference) := by
  have hreference : ReferenceRespells (textTree "e") sketchReference :=
    .exchanged (.bare (text?_literalOf "e"))
      (.keyed (text?_literalOf "idMx") (Or.inr rfl) (text?_literalOf "e"))
  have hside : Side.Respells
      (.object [(literalOf "entity", textTree "e"), (literalOf "cardinality", textTree "")])
      (.object [(literalOf "entity", sketchReference), (literalOf "cardinality", textTree "")]) :=
    @Record.Respells.member _ _ _ [] _ _ _ _ _ (named?_literalOf rfl) ⟨rfl, hreference⟩
  exact @Record.Respells.member _ _ _ [] _ _ _ _ _ (named?_literalOf rfl) <| Or.inr ⟨rfl,
    @ItemRespells.item _ [] _ _ _ <|
      @Record.Respells.member _ _ _ [_, _] _ _ _ _ _ (named?_literalOf rfl)
        (Or.inl ⟨Or.inl rfl, hside⟩)⟩

/-- The text of a document behind white space. -/
def spaced (t : Tree) : String := String.ofList (' ' :: t.text)

theorem spells_spaced (t : Tree) : t.Spells (spaced t) := by
  unfold Tree.Spells spaced
  rw [String.toList_ofList]
  have hspace : ∀ c ∈ [' '], isSpace c = true := by simp [isSpace]
  exact spans_blanks hspace _ _ (laid_flatMap_text _)

theorem spaced_sketch_ofSource :
    ofSource sketch.toSource = .ok sketch ∧
      ofSource (spaced (sketchTree "idMx" sketchReference)) = .ok sketch := by
  have h : ofSource sketch.toSource = .ok sketch := by
    rw [ofSource_eq_ok sketch.spells_toSource, ← (Record.read_reads faithful_record _).on_eq]
    exact sketch.on_tree
  refine ⟨h, (ofSource_respelled h).2 _ ?_⟩
  refine .head ⟨_, _, sketch.spells_toSource, spells_spaced _, Or.inr sketch_omitted⟩ ?_
  refine .head ⟨_, _, spells_spaced _, spells_spaced _, Or.inr (sketch_renamed _)⟩ ?_
  exact .single ⟨_, _, spells_spaced _, spells_spaced _, Or.inr (sketch_exchanged _)⟩

end Diagram

end ErSchema
