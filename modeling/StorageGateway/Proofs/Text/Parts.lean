import Mathlib.Data.List.Basic
import Mathlib.Data.List.Forall2

/-!
# Parts of texts

Texts are cut at marks and put together with marks between their parts, and what is asked of a text
is asked of its parts one by one.

## Main results

* `forall_mem_of_mem_splitOnP`: the parts between marks hold no mark.
* `eq_or_mem_of_mem_intercalate`: what texts put together consist of.
* `mapM_eq_some_iff`, `mapM_eq_some_iff_forall₂`: reading all parts succeeds when reading each one
  does.
* `exists_mem_of_mapM`: what is read of all parts is read of single ones.
-/

namespace StorageGateway

/-- What a check finds for each member holds of all members. -/
theorem forall_mem_of_all {α : Type} {l : List α} {p : α → Prop} [DecidablePred p]
    (h : (l.all fun a => decide (p a)) = true) : ∀ a ∈ l, p a :=
  fun a ha => of_decide_eq_true (List.all_eq_true.mp h a ha)

/-- The parts between marks hold no mark. -/
theorem forall_mem_of_mem_splitOnP {α : Type} {p : α → Bool} {xs part : List α}
    (h : part ∈ xs.splitOnP p) : ∀ x ∈ part, p x = false := by
  induction xs generalizing part with
  | nil =>
    rw [List.splitOnP_nil, List.mem_singleton] at h
    rw [h]
    exact List.forall_mem_nil _
  | cons x xs ih =>
    rw [List.splitOnP_cons_eq_if_modifyHead] at h
    split at h
    · rcases List.mem_cons.mp h with rfl | h
      · exact List.forall_mem_nil _
      · exact ih h
    · next hx =>
      obtain ⟨first, others, hsplit⟩ := List.exists_cons_of_ne_nil (List.splitOnP_ne_nil p xs)
      rw [hsplit, List.modifyHead_cons] at h
      rcases List.mem_cons.mp h with rfl | h
      · have hfirst := ih (hsplit ▸ List.mem_cons_self)
        exact List.forall_mem_cons.mpr ⟨by simpa using hx, hfirst⟩
      · exact ih (hsplit ▸ List.mem_cons_of_mem first h)

/-- What texts put together with a mark between them consist of. -/
theorem eq_or_mem_of_mem_intercalate {α : Type} {c mark : α} {parts : List (List α)}
    (h : c ∈ [mark].intercalate parts) : c = mark ∨ ∃ part ∈ parts, c ∈ part := by
  induction parts with
  | nil => exact absurd h List.not_mem_nil
  | cons part parts ih =>
    rcases parts with - | ⟨next, parts⟩
    · rw [List.intercalate_singleton] at h
      exact .inr ⟨part, List.mem_singleton_self _, h⟩
    · rw [List.intercalate_cons_cons, List.mem_append, List.mem_append, List.mem_singleton] at h
      rcases h with (h | h) | h
      · exact .inr ⟨part, List.mem_cons_self, h⟩
      · exact .inl h
      · rcases ih h with rfl | ⟨part', hpart', hc⟩
        · exact .inl rfl
        · exact .inr ⟨part', List.mem_cons_of_mem _ hpart', hc⟩

/-- Reading all parts succeeds when reading each one does. -/
theorem mapM_eq_some_iff {α β : Type} {f : α → Option β} {xs : List α} {ys : List β} :
    xs.mapM f = some ys ↔ xs.map f = ys.map some := by
  induction xs generalizing ys with
  | nil => cases ys <;> simp
  | cons x xs ih =>
    rw [List.mapM_cons]
    cases hx : f x with
    | none => cases ys <;> simp [hx]
    | some y =>
      cases ys with
      | nil => cases hxs : xs.mapM f <;> simp
      | cons z zs =>
        cases hxs : xs.mapM f with
        | none =>
          have hne : xs.map f ≠ zs.map some := fun h => by
            rw [ih.mpr h] at hxs
            cases hxs
          simp [hx, hne]
        | some ys' =>
          have hinj : Function.Injective (List.map (some : β → Option β)) :=
            List.map_injective_iff.mpr fun _ _ => Option.some.inj
          simp [hx, ih.mp hxs, hinj.eq_iff]

/-- What is read of all parts is read of single ones. -/
theorem exists_mem_of_mapM {α β : Type} {f : α → Option β} {xs : List α} {ys : List β}
    (h : xs.mapM f = some ys) {y : β} (hy : y ∈ ys) : ∃ x ∈ xs, f x = some y := by
  have hmem : some y ∈ xs.map f := by
    rw [mapM_eq_some_iff.mp h]
    exact List.mem_map_of_mem hy
  exact List.mem_map.mp hmem

/-- Reading all parts reads each one. -/
theorem mapM_eq_some_iff_forall₂ {α β : Type} {f : α → Option β} {xs : List α} {ys : List β} :
    xs.mapM f = some ys ↔ List.Forall₂ (fun x y => f x = some y) xs ys := by
  rw [mapM_eq_some_iff, ← List.forall₂_eq_eq_eq, List.forall₂_map_left_iff,
    List.forall₂_map_right_iff]

end StorageGateway
