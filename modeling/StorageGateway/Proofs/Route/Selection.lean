import Mathlib.Data.List.TakeWhile
import StorageGateway.Proofs.Route.Captures
import StorageGateway.Proofs.Text.Percent
import StorageGateway.Route.Target

/-!
# The route of an address

Several patterns may match a path. The selection is settled by naming the best of them: the pattern
that is more definite than every other one that matches. An address is a path of encoded names
between slashes, and it is cut at its slashes into these names again, since an encoded name holds
no slash and nothing that would end the path.

## Main definitions

* `Route.IsPathByte`: the bytes that neither divide nor end a path.
* `Route.segmentBy`, `Route.segmentOf`: a name as a segment of an address.

## Main results

* `Route.select?_eq_of_forall_beats`: the best of the patterns that match is selected.
* `Route.segments_pathOf`: the segments of an address.
* `Route.segmentBy_eq_iff`: names among the plain words of an address.
-/

namespace StorageGateway

namespace Route

/-! ### The best match -/

theorem beats_asymm {p q : Pattern} (h : beats p q = true) : beats q p = false := by
  induction p generalizing q with
  | nil => cases h
  | cons a p ih =>
    cases q with
    | nil => cases h
    | cons b q =>
      rw [beats, Bool.or_eq_true, Bool.and_eq_true, decide_eq_true_eq, beq_iff_eq] at h
      rw [beats, Bool.or_eq_false_iff, Bool.and_eq_false_iff, decide_eq_false_iff_not,
        beq_eq_false_iff_ne]
      rcases h with hless | ⟨heq, hrest⟩
      · exact ⟨by omega, .inl (by omega)⟩
      · exact ⟨by omega, .inr (ih hrest)⟩

section Best

variable {α : Type} {pattern : α → Pattern}

/-- The better of two matches is the one that beats the other. -/
theorem better_eq {x first next : α × Captures} (hmem : x = first ∨ x = next)
    (hfirst : first = x ∨ beats (pattern x.1) (pattern first.1) = true)
    (hnext : next = x ∨ beats (pattern x.1) (pattern next.1) = true) :
    better pattern first next = x := by
  rw [better]
  split
  · next hbeats =>
    rcases hmem with rfl | rfl
    · rcases hnext with heq | hless
      · exact heq
      · rw [beats_asymm hless] at hbeats
        cases hbeats
    · rfl
  · next hbeats =>
    rcases hmem with rfl | rfl
    · rfl
    · exact hfirst.resolve_right hbeats

/-- Of some matches the one that beats all others is left. -/
theorem foldl_better_eq {x first : α × Captures} {others : List (α × Captures)}
    (hmem : x ∈ first :: others)
    (hbest : ∀ y ∈ first :: others, y = x ∨ beats (pattern x.1) (pattern y.1) = true) :
    others.foldl (better pattern) first = x := by
  induction others generalizing first with
  | nil => exact (List.mem_singleton.mp hmem).symm
  | cons next others ih =>
    have hfirst := hbest first List.mem_cons_self
    have hnext := hbest next (List.mem_cons_of_mem first List.mem_cons_self)
    rw [List.foldl_cons]
    -- The best match is still among what is kept and what is to come.
    refine ih ?_ fun y hy => ?_
    · rw [List.mem_cons, List.mem_cons, ← or_assoc] at hmem
      exact hmem.elim (fun h => List.mem_cons.mpr (.inl (better_eq h hfirst hnext).symm))
        (List.mem_cons_of_mem _)
    · rcases List.mem_cons.mp hy with rfl | hy
      · rcases better_cases pattern first next with heq | heq
        · rwa [heq]
        · rwa [heq]
      · exact hbest y (List.mem_cons_of_mem first (List.mem_cons_of_mem next hy))

/-- The item is selected whose pattern matches and beats every other one that matches. -/
theorem select?_eq_of_forall_beats {items : List α} {path : Bytes} {item : α} {captures : Captures}
    (hmem : item ∈ items) (hmatch : matchPath? (pattern item) path = some captures)
    (hbest : ∀ other ∈ items, (matchPath? (pattern other) path).isSome →
      other = item ∨ beats (pattern item) (pattern other) = true) :
    select? pattern items path = some (item, captures) := by
  let found (item : α) := (matchPath? (pattern item) path).map ((item, ·))
  have hfound : (item, captures) ∈ items.filterMap found :=
    List.mem_filterMap.mpr ⟨item, hmem, by simp only [found, hmatch, Option.map_some]⟩
  have hall : ∀ y ∈ items.filterMap found,
      y = (item, captures) ∨ beats (pattern item) (pattern y.1) = true := by
    intro y hy
    obtain ⟨other, hother, hy⟩ := List.mem_filterMap.mp hy
    obtain ⟨captures', hcaptures', rfl⟩ := Option.map_eq_some_iff.mp hy
    rcases hbest other hother (by rw [hcaptures', Option.isSome_some]) with rfl | hbeats
    · rw [hmatch] at hcaptures'
      exact .inl (by rw [Option.some.inj hcaptures'])
    · exact .inr hbeats
  rw [select?]
  split
  · next hnone =>
    rw [show items.filterMap found = [] from hnone] at hfound
    cases hfound
  · next first others hmatches =>
    rw [show items.filterMap found = first :: others from hmatches] at hfound hall
    rw [foldl_better_eq hfound hall]

end Best

/-! ### Addresses -/

/-- The bytes that neither divide nor end a path. -/
def IsPathByte (b : UInt8) : Prop := b ≠ 0x2F ∧ b ≠ 0x3F ∧ b ≠ 0x23

instance (b : UInt8) : Decidable (IsPathByte b) := inferInstanceAs (Decidable (_ ∧ _ ∧ _))

/-- The segments of an address are the parts that it is put together from. -/
theorem segments_pathOf {parts : List Bytes} (hne : parts ≠ [])
    (h : ∀ part ∈ parts, ∀ b ∈ part, IsPathByte b) :
    segments (pathOf (0x2F :: [0x2F].intercalate parts)) = parts := by
  have hinside : ∀ b ∈ (0x2F : UInt8) :: [0x2F].intercalate parts,
      (b != 0x3F && b != 0x23) = true := by
    intro b hb
    rcases List.mem_cons.mp hb with rfl | hb
    · rfl
    · rcases eq_or_mem_of_mem_intercalate hb with rfl | ⟨part, hpart, hb⟩
      · rfl
      · obtain ⟨-, hquery, hfragment⟩ := h part hpart b hb
        simp [hquery, hfragment]
  have hpath : pathOf (0x2F :: [0x2F].intercalate parts) = 0x2F :: [0x2F].intercalate parts := by
    rw [pathOf, leadingPath, beforeQuery, List.takeWhile_eq_self_iff.mpr hinside]
    rfl
  rw [hpath, segments]
  exact List.splitOn_intercalate _ (fun part hpart hslash => (h part hpart _ hslash).1 rfl) hne

/-! ### Names as segments -/

section Names

variable {keep : UInt8 → Bool} {name word : String}

/-- A name as a segment under a set of kept bytes. -/
def segmentBy (keep : UInt8 → Bool) (name : String) : Bytes :=
  Bytes.ofAscii (Percent.encodeString keep name)

/-- Where no kept byte divides or ends a path, no name does. -/
theorem isPathByte_of_mem_segmentBy (hkeep : ∀ b, keep b → IsPathByte b) {b : UInt8}
    (h : b ∈ segmentBy keep name) : IsPathByte b := by
  obtain ⟨c, hc, rfl⟩ := List.mem_map.mp h
  refine Percent.forall_mem_encodeString (p := fun c => IsPathByte (UInt8.ofNat c.toNat)) ?_
    (forall_mem_of_all (by decide)) name c hc
  intro b hb
  rw [Bytes.ofNat_toNat_ofNat]
  exact hkeep b hb

/-- A segment is read as the name that was written. -/
theorem toString?_decode_segmentBy (hkeep : Percent.IsSound keep) (name : String) :
    Utf8.toString? (Percent.decode (segmentBy keep name)) = some name := by
  rw [segmentBy, Percent.decode_encodeString hkeep, Utf8.toString?_ofString]

/-- A word that is its own encoded form is the segment of no other name. -/
theorem segmentBy_eq_iff (hkeep : Percent.IsSound keep)
    (hword : Percent.encodeString keep word = word) :
    segmentBy keep name = Bytes.ofAscii word ↔ name = word := by
  constructor
  · intro h
    have hsame : segmentBy keep name = segmentBy keep word :=
      h.trans (congrArg Bytes.ofAscii hword.symm)
    rw [← Option.some_inj, ← toString?_decode_segmentBy hkeep name, hsame,
      toString?_decode_segmentBy hkeep]
  · rintro rfl
    rw [segmentBy, hword]

end Names

/-- A name as a segment of an address. -/
def segmentOf (name : String) : Bytes := Bytes.ofAscii (Percent.encodeComponent name)

theorem isPathByte_of_keptInComponent (b : UInt8) (hb : Percent.keptInComponent b) :
    IsPathByte b := by
  refine ⟨?_, ?_, ?_⟩
  · rintro rfl
    cases hb
  · rintro rfl
    cases hb
  · rintro rfl
    cases hb

/-- A name that is written as a segment neither divides nor ends a path. -/
theorem isPathByte_of_mem {name : String} {b : UInt8} (h : b ∈ segmentOf name) : IsPathByte b :=
  isPathByte_of_mem_segmentBy isPathByte_of_keptInComponent h

@[simp] theorem toString?_decode_segmentOf (name : String) :
    Utf8.toString? (Percent.decode (segmentOf name)) = some name :=
  toString?_decode_segmentBy Percent.isSound_keptInComponent name

theorem segmentOf_eq_iff {name word : String} (hword : Percent.encodeComponent word = word) :
    segmentOf name = Bytes.ofAscii word ↔ name = word :=
  segmentBy_eq_iff Percent.isSound_keptInComponent hword

@[simp] theorem segmentOf_eq_nil {name : String} : segmentOf name = [] ↔ name = "" := by
  have hempty : Percent.encodeComponent "" = "" := rfl
  exact segmentOf_eq_iff hempty

end Route

end StorageGateway
