import ErSchema.Diagram.Index
import ErSchema.Proofs.Lists

/-!
# Lookups agree with scans

An `Index` is a pair of tables filled by inserting one entity and one relation after the other. What
they answer is what a scan of the diagram answers, so no later proof opens the tables.

* `entity?_ofDiagram`: the entity with an id is the last one of the diagram that has it.
* `relationsOf_ofDiagram`, `identifyingRelationsOf_ofDiagram`: the relations of an id are those that
  touch it, in order and each once.
* `lookups_agree`: every answer of the index, told by the lists of the diagram.
-/

namespace ErSchema.Index

/-! ## Entities -/

/-- Filling on from any table: an id that is inserted at all has its last entity. -/
theorem getElem?_foldl_insert (es : List Entity) (table : Std.TreeMap String Entity)
    (id : String) :
    (es.foldl (fun table e => table.insert e.id e) table)[id]? =
      ((es.filter (·.id = id)).getLast?).or table[id]? := by
  induction es generalizing table with
  | nil => simp
  | cons e es ih =>
    rw [List.foldl_cons, ih, getElem?_insert_entity]
    by_cases h : e.id = id
    · rw [if_pos h, List.filter_cons_of_pos (by simpa using h), List.getLast?_cons]
      cases (es.filter (·.id = id)).getLast? <;> simp
    · rw [if_neg h, List.filter_cons_of_neg (by simpa using h)]

/-- **The entity with an id is the last one that has it.** -/
theorem entity?_ofDiagram (d : Diagram) (id : String) :
    (ofDiagram d).entity? id = (d.entities.filter (·.id = id)).getLast? := by
  unfold entity? ofDiagram entityTable
  rw [getElem?_foldl_insert]
  simp

theorem mem_of_entity? {d : Diagram} {id : String} {e : Entity}
    (h : (ofDiagram d).entity? id = some e) : e ∈ d.entities ∧ e.id = id := by
  rw [entity?_ofDiagram] at h
  have hm := List.mem_filter.mp (List.mem_of_getLast? h)
  exact ⟨hm.1, by simpa using hm.2⟩

theorem entity?_eq_none_iff {d : Diagram} {id : String} :
    (ofDiagram d).entity? id = none ↔ id ∉ d.entities.map (·.id) := by
  rw [entity?_ofDiagram, List.getLast?_eq_none_iff, List.filter_eq_nil_iff]
  simp

/-- Where ids are not shared, every entity is found under its own. -/
theorem entity?_of_nodup {d : Diagram} (hd : (d.entities.map (·.id)).Nodup) {e : Entity}
    (he : e ∈ d.entities) : (ofDiagram d).entity? e.id = some e := by
  rw [entity?_ofDiagram]
  generalize d.entities = es at hd he
  induction es with
  | nil => exact absurd he List.not_mem_nil
  | cons x es ih =>
    rw [List.map_cons, List.nodup_cons] at hd
    have hx : ∀ y ∈ es, y.id ≠ x.id := fun y hy h => hd.1 (List.mem_map.mpr ⟨y, hy, h⟩)
    rcases List.mem_cons.mp he with rfl | he
    · rw [List.filter_cons_of_pos (by simp),
        List.filter_eq_nil_iff.mpr fun y hy => by simpa using hx y hy]
      rfl
    · rw [List.filter_cons_of_neg (by simpa using (hx e he).symm)]
      exact ih hd.2 he

/-! ## Relations -/

theorem toList_getD_listSides (table : Std.TreeMap String (Array Relation)) (r : Relation)
    (x : String) :
    ((listSides table r).getD x #[]).toList =
      (table.getD x #[]).toList ++ if r.touches x then [r] else [] := by
  unfold listSides Relation.touches
  by_cases hr : r.isReflexive = true
  · have hs : r.side1.entity = r.side2.entity := by simpa [Relation.isReflexive] using hr
    simp [hr, toList_getD_list, ← hs]
  · have hs : r.side1.entity ≠ r.side2.entity := by simpa [Relation.isReflexive] using hr
    simp only [hr, Bool.false_eq_true, if_false, toList_getD_list]
    by_cases h1 : r.side1.entity = x
    · subst h1
      simp [Ne.symm hs]
    · simp [h1]

theorem toList_getD_foldl (rs : List Relation) (table : Std.TreeMap String (Array Relation))
    (x : String) :
    ((rs.foldl listSides table).getD x #[]).toList =
      (table.getD x #[]).toList ++ rs.filter (·.touches x) := by
  induction rs generalizing table with
  | nil => simp
  | cons r rs ih =>
    rw [List.foldl_cons, ih, toList_getD_listSides, List.append_assoc, List.filter_cons]
    by_cases h : r.touches x = true
    · rw [if_pos h, if_pos h, List.singleton_append]
    · rw [if_neg h, if_neg h, List.nil_append]

/-- **The relations of an id are those that touch it**, in the order of the diagram. -/
theorem relationsOf_ofDiagram (d : Diagram) (id : String) :
    (ofDiagram d).relationsOf id = d.relations.filter (·.touches id) := by
  unfold relationsOf ofDiagram relationTable
  rw [toList_getD_foldl]
  simp

theorem identifyingRelationsOf_ofDiagram (d : Diagram) (id : String) :
    (ofDiagram d).identifyingRelationsOf id =
      (d.relations.filter (·.touches id)).filter (·.isIdentifying) := by
  unfold identifyingRelationsOf
  rw [relationsOf_ofDiagram]

/-! ## All answers -/

/-- **The index answers every id as a scan does.** It finds the entity behind which no other has the
id, and none only where there is none. It lists the relations with a side on the id in the order of
the diagram, a reflexive one once, and of these the identifying ones. -/
theorem lookups_agree (d : Diagram) (id : String) :
    (∀ e, (ofDiagram d).entity? id = some e ↔ ∃ before after,
        d.entities = before ++ e :: after ∧ e.id = id ∧ ∀ x ∈ after, x.id ≠ id) ∧
      ((ofDiagram d).entity? id = none ↔ ∀ e ∈ d.entities, e.id ≠ id) ∧
      (ofDiagram d).relationsOf id = d.relations.filter (·.touches id) ∧
      (ofDiagram d).identifyingRelationsOf id =
        (d.relations.filter (·.touches id)).filter (·.isIdentifying) := by
  refine ⟨fun e => ?_, ?_, relationsOf_ofDiagram d id, identifyingRelationsOf_ofDiagram d id⟩
  · rw [entity?_ofDiagram, getLast?_filter_eq_some_iff]
    simp
  · rw [entity?_eq_none_iff]
    simp

end ErSchema.Index
