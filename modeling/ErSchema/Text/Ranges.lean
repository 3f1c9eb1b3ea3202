/-!
# Code ranges: properties of characters as sorted tables

A property of characters is given by closed ranges of code points in ascending order. `covers`
asks whether a code point lies in one of them, `valueAt` reads the value of the range it lies in,
and `entryAt` the value of a single code point. All three stop at the first entry that lies
above the code point, so a small code point is answered at once.

* `exists_mem_of_covers`: a covered code point lies in a range of the table.
* `mem_of_entryAt`: a value that is found stands in the table.
-/

namespace ErSchema.Text

variable {α : Type}

/-- Whether `n` lies in one of the ascending ranges. -/
def covers : List (Nat × Nat) → Nat → Bool
  | [], _ => false
  | (first, last) :: rest, n =>
    if n < first then false else if n ≤ last then true else covers rest n

/-- The value of the ascending range in which `n` lies. -/
def valueAt : List (Nat × Nat × α) → Nat → Option α
  | [], _ => none
  | (first, last, a) :: rest, n =>
    if n < first then none else if n ≤ last then some a else valueAt rest n

/-- The value that an ascending list of single code points gives to `n`. -/
def entryAt : List (Nat × α) → Nat → Option α
  | [], _ => none
  | (k, a) :: rest, n => if n < k then none else if n = k then some a else entryAt rest n

theorem exists_mem_of_covers {ranges : List (Nat × Nat)} {n : Nat} (h : covers ranges n = true) :
    ∃ r ∈ ranges, r.1 ≤ n ∧ n ≤ r.2 := by
  induction ranges with
  | nil => simp [covers] at h
  | cons r rest ih =>
    obtain ⟨first, last⟩ := r
    simp only [covers] at h
    split at h
    · contradiction
    split at h
    · exact ⟨_, List.mem_cons_self, by omega, by omega⟩
    · obtain ⟨r, hr, hn⟩ := ih h
      exact ⟨r, List.mem_cons_of_mem _ hr, hn⟩

theorem mem_of_entryAt {table : List (Nat × α)} {n : Nat} {a : α} (h : entryAt table n = some a) :
    (n, a) ∈ table := by
  induction table with
  | nil => simp [entryAt] at h
  | cons e rest ih =>
    obtain ⟨k, b⟩ := e
    simp only [entryAt] at h
    split at h
    · contradiction
    split at h
    · simp_all
    · exact List.mem_cons_of_mem _ (ih h)

end ErSchema.Text
