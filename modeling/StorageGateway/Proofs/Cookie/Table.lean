import Mathlib.Data.List.Nodup
import StorageGateway.Cookie.Jar

/-!
# Tables of cookies

A table is a finite map from names to values: after a change of one name that name has its new
value, every other name keeps its value, and no name occurs twice. A table that is filled from a
list of pairs has for each name the value of the last pair of that name, so that it does not
depend on the pairs of other names.

## Main definitions

* `Cookie.Table.IsMap`: no name occurs twice.
* `Cookie.Table.ofPairs`: the table that a list of pairs fills.

## Main results

* `Cookie.Table.get?_put`, `Cookie.Table.get?_drop`: look-up after a change.
* `Cookie.Table.mem_iff_get?`: the entries of a map.
* `Cookie.Table.get?_ofPairs_congr`: the pairs that a look-up depends on.
-/

namespace StorageGateway.Cookie.Table

variable {α : Type} {t : Table α} {name other : String} {value : α}

/-! ### Looking up -/

@[simp] theorem get?_nil (name : String) : get? ([] : Table α) name = none := rfl

theorem get?_cons (entry : String × α) (t : Table α) (name : String) :
    get? (entry :: t) name = if entry.1 = name then some entry.2 else get? t name := by
  rw [get?, List.find?_cons]
  by_cases h : entry.1 = name
  · simp [h]
  · simp [beq_false_of_ne h, h, get?]

theorem get?_append (s t : Table α) (name : String) :
    get? (s ++ t) name = (get? s name).or (get? t name) := by
  simp only [get?, List.find?_append]
  cases s.find? (·.1 == name) <;> rfl

theorem get?_eq_none_iff : get? t name = none ↔ ∀ p ∈ t, p.1 ≠ name := by
  simp [get?]

theorem mem_of_get? (h : get? t name = some value) : (name, value) ∈ t := by
  obtain ⟨p, hp, rfl⟩ := Option.map_eq_some_iff.mp h
  have hname : p.1 = name := by simpa using List.find?_some hp
  exact hname ▸ List.mem_of_find?_eq_some hp

/-- A look-up depends on the entries of its name only. -/
theorem get?_eq_of_filter_eq {s t : Table α}
    (h : s.filter (·.1 == name) = t.filter (·.1 == name)) : get? s name = get? t name := by
  have hfilter (u : Table α) : (u.filter (·.1 == name)).find? (·.1 == name) =
      u.find? (·.1 == name) := by
    rw [List.find?_filter]
    congr 1
    funext p
    by_cases hp : p.1 = name <;> simp [hp]
  rw [get?, get?, ← hfilter s, h, hfilter t]

/-! ### Changing -/

theorem get?_drop (t : Table α) (name other : String) :
    get? (drop t name) other = if other = name then none else get? t other := by
  by_cases h : other = name
  · rw [if_pos h, get?_eq_none_iff]
    intro p hp hpother
    have hne := (List.mem_filter.mp hp).2
    exact absurd (hpother.trans h) (by simpa using hne)
  · rw [if_neg h]
    apply get?_eq_of_filter_eq
    rw [drop, List.filter_filter]
    refine List.filter_congr fun p _ => ?_
    by_cases hp : p.1 = other
    · simp [hp, h]
    · simp [hp]

theorem get?_put (t : Table α) (name : String) (value : α) (other : String) :
    get? (put t name value) other = if other = name then some value else get? t other := by
  rw [put, get?_append, get?_drop, get?_cons]
  by_cases h : other = name
  · simp [h]
  · simp [h, Ne.symm h]

@[simp] theorem drop_nil (name : String) : drop ([] : Table α) name = [] := rfl

theorem put_singleton_self (name : String) (old value : α) :
    put [(name, old)] name value = [(name, value)] := by
  simp [put, drop]

theorem mem_drop {p : String × α} : p ∈ drop t name ↔ p ∈ t ∧ p.1 ≠ name := by
  simp [drop]

theorem mem_put {p : String × α} :
    p ∈ put t name value ↔ (p ∈ t ∧ p.1 ≠ name) ∨ p = (name, value) := by
  simp [put, mem_drop]

/-- Two tables with the same entries apart from one name have the same entries apart from it after
a change of that name. -/
theorem drop_put (t : Table α) (name : String) (value : α) :
    drop (put t name value) name = drop t name := by
  simp [put, drop, List.filter_append, List.filter_filter]

theorem drop_drop (t : Table α) (name : String) : drop (drop t name) name = drop t name := by
  simp [drop, List.filter_filter]

/-! ### Maps -/

/-- No name occurs twice. -/
def IsMap (t : Table α) : Prop := (t.map Prod.fst).Nodup

theorem isMap_nil : IsMap ([] : Table α) := List.nodup_nil

theorem IsMap.drop (h : IsMap t) (name : String) : IsMap (drop t name) :=
  h.sublist (List.filter_sublist.map Prod.fst)

theorem IsMap.put (h : IsMap t) (name : String) (value : α) : IsMap (put t name value) := by
  rw [IsMap, Table.put, List.map_append, List.nodup_append]
  refine ⟨h.drop name, by simp, ?_⟩
  intro x hx y hy hxy
  obtain ⟨p, hp, rfl⟩ := List.mem_map.mp hx
  exact (mem_drop.mp hp).2 (hxy.trans (by simpa using hy))

/-- In a map the entries are what is found. -/
theorem mem_iff_get? (h : IsMap t) : (name, value) ∈ t ↔ get? t name = some value := by
  refine ⟨fun hmem => ?_, mem_of_get?⟩
  induction t with
  | nil => exact absurd hmem (by simp)
  | cons p t ih =>
    rw [IsMap, List.map_cons, List.nodup_cons] at h
    rw [get?_cons]
    rcases List.mem_cons.mp hmem with rfl | hmem
    · simp
    · have hne : p.1 ≠ name := fun hp => h.1 (hp ▸ List.mem_map_of_mem hmem)
      rw [if_neg hne]
      exact ih h.2 hmem

/-! ### Filling -/

/-- The table that a list of pairs fills, one after another. -/
def ofPairs (pairs : List (String × α)) : Table α :=
  pairs.foldl (fun t p => put t p.1 p.2) []

theorem get?_foldl_put (pairs : List (String × α)) (t : Table α) (name : String) :
    get? (pairs.foldl (fun t p => put t p.1 p.2) t) name =
      (get? pairs.reverse name).or (get? t name) := by
  induction pairs generalizing t with
  | nil => simp
  | cons p pairs ih =>
    rw [List.foldl_cons, ih, get?_put, List.reverse_cons, get?_append, get?_cons, get?_nil]
    by_cases h : name = p.1
    · cases get? pairs.reverse name <;> simp [h]
    · cases get? pairs.reverse name <;> simp [h, Ne.symm h]

/-- The last pair of a name counts. -/
theorem get?_ofPairs (pairs : List (String × α)) (name : String) :
    get? (ofPairs pairs) name = get? pairs.reverse name := by
  rw [ofPairs, get?_foldl_put, get?_nil, Option.or_none]

/-- A look-up depends on the pairs of its name only. -/
theorem get?_ofPairs_congr {pairs others : List (String × α)}
    (h : pairs.filter (·.1 == name) = others.filter (·.1 == name)) :
    get? (ofPairs pairs) name = get? (ofPairs others) name := by
  rw [get?_ofPairs, get?_ofPairs]
  apply get?_eq_of_filter_eq
  rw [List.filter_reverse, List.filter_reverse, h]

end StorageGateway.Cookie.Table
