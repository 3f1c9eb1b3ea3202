import ErSchema.Proofs.Diagram.Embedding
import ErSchema.Proofs.Schema.Gate
import ErSchema.Proofs.Schema.Stages

/-!
# Ids do not matter

An id says which entity is meant and nothing else. A diagram whose ids are replaced, so that
different ones stay different and blank ones stay blank, embeds into what it becomes and is all of
it. So it passes the same checks and is drafted to the same tables. Only errors quote ids, and
behind the gate there are none.

* `Relabels.embeds`: a diagram embeds into itself under other ids.
* `Relabels.validate_eq`, `Relabels.drafts_eq_ok`: its checks and its drafts.
* `Relabels.outcome_eq`: the diagnostics and the SQL, or the refusal, are the same.
-/

namespace ErSchema

namespace Diagram

/-- Whether a diagram becomes another when the ids of its entities are replaced. The ids of its
relations may become any. -/
structure Relabels (f : String → String) (d d' : Diagram) : Prop where
  entities : d'.entities = d.entities.map (Entity.relabel f)
  relations : List.Forall₂ (Relation.Relabels f) d.relations d'.relations

variable {f : String → String} {d d' : Diagram}

namespace Relabels

/-! ## Lookups -/

theorem entity? (h : d.Relabels f d') (hf : Set.InjOn f {x | x ∈ d.ids}) {x : String}
    (hx : x ∈ d.ids) :
    (Index.ofDiagram d').entity? (f x) =
      ((Index.ofDiagram d).entity? x).map (Entity.relabel f) := by
  have hfilter : (d.entities.map (Entity.relabel f)).filter (·.id = f x) =
      (d.entities.filter (·.id = x)).map (Entity.relabel f) := by
    rw [List.filter_map]
    congr 1
    refine List.filter_congr fun e he => decide_eq_decide.mpr ?_
    exact hf.eq_iff (mem_ids_of_entity he) hx
  rw [Index.entity?_ofDiagram, Index.entity?_ofDiagram, h.entities, hfilter, List.getLast?_map]

theorem relationsOf (h : d.Relabels f d') (hf : Set.InjOn f {x | x ∈ d.ids}) {x : String}
    (hx : x ∈ d.ids) :
    List.Forall₂ (Relation.Relabels f) ((Index.ofDiagram d).relationsOf x)
      ((Index.ofDiagram d').relationsOf (f x)) := by
  rw [Index.relationsOf_ofDiagram, Index.relationsOf_ofDiagram]
  refine (List.rel_filter ?_ (forall₂_with_mem h.relations)).imp fun _ _ ⟨_, _, hrel⟩ => hrel
  rintro r r' ⟨hr, -, hrel⟩
  have h1 := hf.eq_iff (mem_ids_of_side1 hr) hx
  have h2 := hf.eq_iff (mem_ids_of_side2 hr) hx
  simp [Relation.touches, hrel.side1, hrel.side2, Side.relabel, h1, h2]

/-- **A diagram embeds into itself under other ids.** -/
theorem embeds (h : d.Relabels f d') (hf : Set.InjOn f {x | x ∈ d.ids})
    (hblank : ∀ x ∈ d.ids, Text.isBlankText (f x) = Text.isBlankText x) : d.Embeds f d' where
  injOn := hf
  blank := hblank
  entity _ hx := h.entity? hf hx
  relations _ hx := h.relationsOf hf (List.mem_append_left _ hx)

/-! ## Checks -/

theorem names_eq (h : d.Relabels f d') : d'.names = d.names := by
  have hentities : d'.entities.map (·.name) = d.entities.map (·.name) := by
    rw [h.entities, List.map_map]
    rfl
  have hrelations : d'.relations.map (·.name) = d.relations.map (·.name) := by
    rw [eq_comm, map_eq_iff_forall₂]
    exact h.relations.imp fun _ _ hr => hr.name.symm
  unfold names
  rw [hentities, hrelations]

theorem isEmpty_eq (h : d.Relabels f d') : d'.isEmpty = d.isEmpty := by
  unfold isEmpty
  rw [h.entities, List.isEmpty_map, isEmpty_eq_of_length_eq h.relations.length_eq.symm]

theorem passesDiagram_eq (h : d.Relabels f d') (c : Check) :
    c.passesDiagram d' = c.passesDiagram d := by
  unfold Check.passesDiagram
  rw [h.isEmpty_eq, h.names_eq]

/-- **The checks come out the same.** -/
theorem validate_eq (h : d.Relabels f d') (he : d.Embeds f d') : d'.validate = d.validate := by
  refine congrArg Diagnostics.ofChecks (funext fun c => ?_)
  rw [Check.holds_eq, Check.holds_eq, h.passesDiagram_eq, he.all_passesRelation h.relations,
    h.entities, he.all_passesEntity]

/-! ## Drafts -/

theorem remainingEntities_relabel (he : d.Embeds f d') {cs : List ClassifiedRelation}
    (hcs : List.Forall₂ d.Resolves d.relations cs) :
    remainingEntities (cs.map (·.relabel f)) (d.entities.map (Entity.relabel f)) =
      (remainingEntities cs d.entities).map (Entity.relabel f) := by
  have htaken : (cs.map (·.relabel f)).flatMap (·.entityIds) =
      (cs.flatMap (·.entityIds)).map f := by
    rw [List.flatMap_map, List.map_flatMap]
    rfl
  unfold remainingEntities
  simp only [htaken]
  rw [List.filter_map]
  congr 1
  refine List.filter_congr fun e hmem => ?_
  have hcontains : ((cs.flatMap (·.entityIds)).map f).contains (f e.id) =
      (cs.flatMap (·.entityIds)).contains e.id := by
    rw [Bool.eq_iff_iff, List.contains_iff_mem, List.contains_iff_mem, List.mem_map]
    constructor
    · rintro ⟨x, hx, heq⟩
      rwa [← he.injOn (entityIds_subset_of_resolved hcs hx) (mem_ids_of_entity hmem) heq]
    · exact fun hx => ⟨_, hx, rfl⟩
  simp only [Function.comp_apply, Entity.relabel, hcontains]

/-- **The drafts come out the same.** -/
theorem draftsTo (h : d.Relabels f d') (he : d.Embeds f d') {cs : List ClassifiedRelation}
    {relations entities : List (List Table)} (hd : d.DraftsTo cs relations entities) :
    d'.DraftsTo (cs.map (·.relabel f)) relations entities := by
  constructor
  case resolved =>
    rw [List.forall₂_map_right_iff]
    refine (forall₂_with_mem (forall₂_through h.relations hd.resolved)).imp ?_
    rintro r' c ⟨hr', -, r, hrel, hr⟩
    exact ⟨hr', (he.resolveRelation_eq_ok hr.mem hrel).mpr ⟨c, hr.resolved, rfl⟩⟩
  case relation_tables =>
    rw [List.forall₂_map_left_iff]
    refine (forall₂_with_mem hd.relation_tables).imp fun c ts ⟨hc, _, hts⟩ => ?_
    obtain ⟨r, -, hr⟩ := exists_of_forall₂_right hd.resolved hc
    rw [he.relation_tables hr, hts]
  case entity_tables =>
    rw [h.entities, remainingEntities_relabel he hd.resolved, List.forall₂_map_left_iff]
    refine (forall₂_with_mem hd.entity_tables).imp fun e ts ⟨hmem, _, hts⟩ => ?_
    exact (he.entity_tables_eq_ok (List.mem_filter.mp hmem).1).mpr hts

theorem drafts_eq_ok (h : d.Relabels f d') (he : d.Embeds f d') {ts : List Table}
    (hd : d.drafts = .ok ts) : d'.drafts = .ok ts := by
  obtain ⟨cs, relations, entities, hdrafts, rfl⟩ := Diagram.drafts_eq_ok.mp hd
  exact Diagram.drafts_eq_ok.mpr ⟨_, relations, entities, h.draftsTo he hdrafts, rfl⟩

/-- **Ids do not matter.** Under other ids, which tell the same entities apart and are blank where
the first ones are, a diagram has the same diagnostics, and the same SQL or the same refusal. -/
theorem outcome_eq (h : d.Relabels f d') (hf : Set.InjOn f {x | x ∈ d.ids})
    (hblank : ∀ x ∈ d.ids, Text.isBlankText (f x) = Text.isBlankText x) :
    d'.validate = d.validate ∧ d'.generateSql = d.generateSql := by
  have he := h.embeds hf hblank
  have hvalidate := h.validate_eq he
  refine ⟨hvalidate, ?_⟩
  by_cases hv : d.validate.isValid = true
  · have hv' : d'.validate.isValid = true := hvalidate ▸ hv
    obtain ⟨ts, hts, htables⟩ := (wellFormed_of_isValid hv).deriveTables_eq
    have htables' := deriveTables_ok_iff.mpr ⟨ts, h.drafts_eq_ok he hts, rfl⟩
    rw [generateSql_of_valid hv, generateSql_of_valid hv']
    unfold generateUnchecked
    rw [htables, htables']
  · have hnot : d.validate.isValid = false := Bool.eq_false_iff.mpr hv
    rw [generateSql_of_invalid hnot, generateSql_of_invalid (hvalidate ▸ hnot), hvalidate]

end Relabels

/-- The ids of the shop, each in the place of another. -/
def exchanged : String → String
  | "o" => "l"
  | "l" => "p"
  | "p" => "t"
  | "t" => "o"
  | x => x

/-- The shop under exchanged ids, and with other ids for its relations. -/
def exchangedShop : Diagram where
  entities := [
    ⟨"l", "Order", false, [.ofKey "number", .ofName "date"]⟩,
    ⟨"p", "Line", true, [.ofDiscriminant "position", .ofName "amount"]⟩,
    ⟨"t", "Producto Básico", false, [.ofKey "código"]⟩,
    ⟨"o", "Tag", false, [.ofKey "label"]⟩]
  relations := [
    ⟨"1", "lists", ⟨"l", "1:1"⟩, ⟨"p", "0:N"⟩, true, false, []⟩,
    ⟨"1", "part", ⟨"t", "0:1"⟩, ⟨"t", "0:N"⟩, false, false, []⟩,
    ⟨"", "marks", ⟨"o", "0:N"⟩, ⟨"t", "1:N"⟩, false, true, [.ofName "since"]⟩,
    ⟨"r1", "main", ⟨"l", "0:1"⟩, ⟨"t", "1:1"⟩, false, false, []⟩]

theorem exchangedShop_outcome :
    shop.Relabels exchanged exchangedShop ∧
      (∀ x ∈ shop.ids, ∀ y ∈ shop.ids, exchanged x = exchanged y → x = y) ∧
      (∀ x ∈ shop.ids, Text.isBlankText (exchanged x) = Text.isBlankText x) ∧
      exchangedShop.validate = shop.validate ∧ exchangedShop.generateSql = shop.generateSql := by
  have h : shop.Relabels exchanged exchangedShop := ⟨by decide +kernel, by decide +kernel⟩
  have hinj : ∀ x ∈ shop.ids, ∀ y ∈ shop.ids, exchanged x = exchanged y → x = y := by
    decide +kernel
  have hblank : ∀ x ∈ shop.ids, Text.isBlankText (exchanged x) = Text.isBlankText x := by
    decide +kernel
  exact ⟨h, hinj, hblank, h.outcome_eq (fun x hx y hy => hinj x hx y hy) hblank⟩

end Diagram

end ErSchema
