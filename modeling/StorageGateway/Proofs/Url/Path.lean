import Mathlib.Data.List.DropRight
import StorageGateway.Proofs.Url.Base

/-!
# Paths round trip

The segments of a path that was read hold no mark of a URL, are encoded, and none of them stands for
a directory: what the encoding leaves of a segment is a dot only if the segment was one. A path of
such segments is read back from its text.

## Main definitions

* `Url.IsCleanSegment`: segments as they are read.
* `Url.pathText`: the bytes of a path.

## Main results

* `Url.isCleanSegment_pathAfterAuthority`: what is read has this form.
* `Url.pathAfterAuthority_pathText`: a path of this form is read back.
* `Url.trimSlashes_pathText`: a path without the slashes at its end.
-/

namespace StorageGateway.Url

/-! ### Segments -/

theorem keptInPath_ascii : ∀ b, keptInPath b → b.toNat < 0x80 := by
  intro b hb
  have hgraphic := isGraphic_of_keptInPath hb
  rw [Ascii.isGraphic, Bool.and_eq_true, decide_eq_true_eq, decide_eq_true_eq] at hgraphic
  have hle : b.toNat ≤ 0x7E := hgraphic.2
  omega

/-- Segments of a path as they are read. -/
structure IsCleanSegment (s : String) : Prop where
  kept : IsKept keptInPath s
  whole : ∀ b ∈ Utf8.ofString s, isSlash true b = false
  notHere : isHere (Utf8.ofString s) = false
  notAbove : isAbove (Utf8.ofString s) = false

theorem isCleanSegment_empty : IsCleanSegment "" where
  kept := fun c hc => absurd hc (by simp)
  whole := fun b hb => absurd hb (by simp [Utf8.ofString, Utf8.encode])
  notHere := by decide
  notAbove := by decide

/-- The spellings of the segments that stand for directories. -/
def directoryForms : List String := [".", "%2e", "..", ".%2e", "%2e.", "%2e%2e"]

/-- The escape of a byte that is not kept occurs in no spelling of a directory. -/
theorem escape_not_infix {b : UInt8} (hb : keptInPath b = false) {form : String}
    (hform : form ∈ directoryForms) :
    ¬Bytes.toLower ((Percent.escape b).map fun c => UInt8.ofNat c.toNat) <:+:
      Bytes.ofAscii form := by
  have hall : ∀ n < 256, keptInPath (UInt8.ofNat n) = false → ∀ form ∈ directoryForms,
      ¬Bytes.toLower ((Percent.escape (UInt8.ofNat n)).map fun c => UInt8.ofNat c.toNat) <:+:
        Bytes.ofAscii form := by decide +kernel
  have hread := hall b.toNat b.toNat_lt
  rw [UInt8.ofNat_toNat] at hread
  exact hread hb form hform

/-- The bytes of an encoded text. -/
theorem ofString_encodeText {keep : UInt8 → Bool} (hascii : ∀ b, keep b → b.toNat < 0x80)
    (bs : Bytes) : Utf8.ofString (encodeText keep bs) =
      bs.flatMap fun b =>
        if keep b then [b] else (Percent.escape b).map fun c => UInt8.ofNat c.toNat := by
  have hdigits : ∀ c ∈ "%0123456789ABCDEF".toList, c.toNat < 0x80 :=
    forall_mem_of_all (by decide)
  have htext : Utf8.IsAscii (encodeText keep bs).toList := by
    rw [Utf8.IsAscii, encodeText, String.toList_ofList]
    refine Percent.forall_mem_encode (fun b hb => ?_) hdigits bs
    rw [Bytes.toNat_ofNat_toNat]
    exact hascii b hb
  rw [htext.ofString_eq, encodeText, Bytes.ofAscii_ofList, Percent.encode, List.map_flatMap]
  refine List.flatMap_congr fun b _ => ?_
  split
  · rw [List.map_singleton, Bytes.ofNat_toNat_ofNat]
  · rfl

/-- Bytes that are all kept are their own encoding. -/
theorem ofString_encodeText_of_forall {keep : UInt8 → Bool} (hascii : ∀ b, keep b → b.toNat < 0x80)
    {bs : Bytes} (h : ∀ b ∈ bs, keep b = true) : Utf8.ofString (encodeText keep bs) = bs := by
  rw [ofString_encodeText hascii]
  exact (List.flatMap_congr fun b hb => if_pos (h b hb)).trans (List.flatMap_singleton' bs)

/-- An encoded segment spells a directory only if the segment did. -/
theorem spells_of_spells_encode {forms : List String}
    (hforms : ∀ form ∈ forms, form ∈ directoryForms) {segment : Bytes}
    (h : spells forms (Utf8.ofString (encodeText keptInPath segment)) = true) :
    spells forms segment = true := by
  obtain ⟨form, hform, hspelled⟩ := List.any_eq_true.mp h
  have hkept : ∀ b ∈ segment, keptInPath b = true := by
    intro b hb
    by_contra hnot
    rw [Bool.not_eq_true] at hnot
    refine escape_not_infix hnot (hforms form hform) ?_
    rw [← eq_of_beq hspelled, ofString_encodeText keptInPath_ascii, Bytes.toLower, Bytes.toLower]
    have hescape := List.infix_flatMap_of_mem hb fun b => if keptInPath b then [b]
      else (Percent.escape b).map fun c => UInt8.ofNat c.toNat
    rw [if_neg (by simp [hnot])] at hescape
    exact hescape.map _
  rwa [ofString_encodeText_of_forall keptInPath_ascii hkept] at h

theorem isKept_path (bs : Bytes) : IsKept keptInPath (encodeText keptInPath bs) :=
  isKept_encodeText keptInPath_ascii (forall_mem_of_all (by decide)) bs

/-- A segment between slashes that stands for no directory, as it is read. -/
theorem isCleanSegment_encodeText {segment : Bytes} (hwhole : ∀ b ∈ segment, isSlash true b = false)
    (hhere : isHere segment = false) (habove : isAbove segment = false) :
    IsCleanSegment (encodeText keptInPath segment) where
  kept := isKept_path segment
  whole := by
    intro b hb
    rw [ofString_encodeText keptInPath_ascii] at hb
    obtain ⟨c, hc, hb⟩ := List.mem_flatMap.mp hb
    split at hb
    · rw [List.mem_singleton.mp hb]
      exact hwhole c hc
    · have hescape : ∀ c ∈ "%0123456789ABCDEF".toList,
          isSlash true (UInt8.ofNat c.toNat) = false := forall_mem_of_all (by decide)
      obtain ⟨d, hd, rfl⟩ := List.mem_map.mp hb
      exact Percent.forall_mem_escape hescape c d hd
  notHere := by
    rw [← Bool.not_eq_true] at hhere ⊢
    exact fun h => hhere (spells_of_spells_encode (by decide) h)
  notAbove := by
    rw [← Bool.not_eq_true] at habove ⊢
    exact fun h => habove (spells_of_spells_encode (by decide) h)

/-- The segments of a path that was read. -/
theorem isCleanSegment_pathAfterAuthority (bs : Bytes) :
    ∀ s ∈ pathAfterAuthority true bs, IsCleanSegment s :=
  forall_mem_pathAfterAuthority isCleanSegment_empty
    (fun _ hwhole habove hhere => isCleanSegment_encodeText hwhole hhere habove) bs

theorem cleanSegments_ne_nil (above : List String) {segments : List Bytes} (hne : segments ≠ []) :
    cleanSegments above segments ≠ [] := by
  induction segments generalizing above with
  | nil => exact absurd rfl hne
  | cons segment rest ih =>
    rcases rest with - | ⟨next, rest⟩
    · simp only [cleanSegments, List.isEmpty_nil, if_true]
      split
      · simp
      · split <;> simp
    · have hrest (above : List String) := ih above (List.cons_ne_nil next rest)
      rw [cleanSegments]
      split
      · exact hrest _
      · split <;> exact hrest _

/-- A path of the web has at least one segment. -/
theorem pathAfterAuthority_ne_nil (bs : Bytes) : pathAfterAuthority true bs ≠ [] := by
  rw [pathAfterAuthority.eq_def]
  split
  · simp
  · exact cleanSegments_ne_nil _ (List.splitOnP_ne_nil _ _)

/-! ### Paths -/

/-- The bytes of a path: its segments, each after a slash. -/
def pathText (list : List String) : Bytes := list.flatMap fun s => 0x2F :: Utf8.ofString s

theorem ofString_render_segments (list : List String) :
    Utf8.ofString (Path.segments list).render = pathText list := by
  have hslash : Utf8.ofString "/" = [0x2F] := by decide
  rw [Path.render]
  induction list with
  | nil => rfl
  | cons s list ih =>
    rw [List.map_cons, String.join_cons, Utf8.ofString_append, Utf8.ofString_append, ih, hslash]
    rfl

theorem pathText_append (list more : List String) :
    pathText (list ++ more) = pathText list ++ pathText more := List.flatMap_append

theorem pathText_concat (list : List String) (s : String) :
    pathText (list ++ [s]) = pathText list ++ 0x2F :: Utf8.ofString s := by
  rw [pathText_append]
  simp [pathText]

/-- The parts between the slashes of a path. -/
theorem splitSlashes_pathText {s : String} {list : List String}
    (h : ∀ t ∈ s :: list, IsCleanSegment t) :
    splitSlashes true (Utf8.ofString s ++ pathText list) = (s :: list).map Utf8.ofString := by
  induction list generalizing s with
  | nil =>
    rw [pathText, List.flatMap_nil, List.append_nil, splitSlashes,
      List.splitOnP_eq_singleton (h s List.mem_cons_self).whole]
    rfl
  | cons t list ih =>
    have hrest := ih fun r hr => h r (List.mem_cons_of_mem s hr)
    rw [splitSlashes] at hrest
    rw [pathText, List.flatMap_cons, List.cons_append, ← pathText, splitSlashes,
      List.splitOnP_append_cons_of_forall_mem (h s List.mem_cons_self).whole _ rfl, hrest]
    rfl

/-- Segments that were read are read again as they are. -/
theorem cleanSegments_map {list : List String} (h : ∀ s ∈ list, IsCleanSegment s)
    (above : List String) :
    cleanSegments above (list.map Utf8.ofString) = above.reverse ++ list := by
  induction list generalizing above with
  | nil => rw [List.map_nil, cleanSegments, List.append_nil]
  | cons s list ih =>
    have hs := h s List.mem_cons_self
    rw [List.map_cons, cleanSegments, if_neg (by simp [hs.notAbove]), if_neg (by simp [hs.notHere]),
      hs.kept.encodeText_eq, ih fun t ht => h t (List.mem_cons_of_mem s ht), List.reverse_cons,
      List.append_assoc, List.singleton_append]

/-- A path that was read is read from its text as it is. -/
theorem pathAfterAuthority_pathText {list : List String} (hne : list ≠ [])
    (h : ∀ s ∈ list, IsCleanSegment s) : pathAfterAuthority true (pathText list) = list := by
  obtain ⟨s, list, rfl⟩ := List.exists_cons_of_ne_nil hne
  have htext : pathText (s :: list) = 0x2F :: (Utf8.ofString s ++ pathText list) := rfl
  have hslash : isSlash true 0x2F = true := rfl
  rw [htext, pathAfterAuthority, if_pos hslash, pathFrom, splitSlashes_pathText h,
    cleanSegments_map h]
  rfl

/-- A path holds no mark of a query or a fragment. -/
theorem notMem_pathText {list : List String} (h : ∀ s ∈ list, IsCleanSegment s) :
    0x23 ∉ pathText list ∧ 0x3F ∉ pathText list := by
  have hbyte {b : UInt8} (hb : b ∈ pathText list) : b = 0x2F ∨ keptInPath b = true := by
    obtain ⟨s, hs, hb⟩ := List.mem_flatMap.mp hb
    rcases List.mem_cons.mp hb with rfl | hb
    · exact .inl rfl
    · exact .inr ((h s hs).kept.keep_of_mem b hb)
  constructor
  · intro hb
    rcases hbyte hb with hb | hb <;> exact absurd hb (by decide)
  · intro hb
    rcases hbyte hb with hb | hb <;> exact absurd hb (by decide)

end StorageGateway.Url

namespace StorageGateway.Backend

open Url

/-- A path without the slashes at its end is a path. -/
theorem trimSlashes_pathText {list : List String} (h : ∀ s ∈ list, IsCleanSegment s) :
    trimSlashes (pathText list) = pathText (list.rdropWhile (·.isEmpty)) := by
  induction list using List.reverseRecOn with
  | nil => rfl
  | append_singleton list s ih =>
    have hs := h s (by simp)
    rw [pathText_concat]
    by_cases hempty : s = ""
    · subst hempty
      have hslash : pathText list ++ 0x2F :: Utf8.ofString "" = pathText list ++ [0x2F] := rfl
      rw [List.rdropWhile_concat_pos _ _ _ rfl, ← ih fun t ht => h t (by simp [ht]), hslash,
        trimSlashes, List.reverse_concat, List.dropWhile_cons_of_pos rfl, ← trimSlashes]
    · have hbytes : Utf8.ofString s ≠ [] := by simpa using hempty
      have hlast : ∀ b ∈ (pathText list ++ 0x2F :: Utf8.ofString s).getLast?, b ≠ 0x2F := by
        intro b hb
        rw [List.append_cons, List.getLast?_append_of_ne_nil _ hbytes] at hb
        rintro rfl
        exact absurd (hs.whole _ (List.mem_of_mem_getLast? hb)) (by decide)
      have htrim := trimSlashes_append (by simp) hlast []
      rw [List.append_nil] at htrim
      rw [List.rdropWhile_concat_neg _ _ _ (by simpa using hempty), pathText_concat, htrim]
      exact List.append_nil _

/-- The path of an endpoint below a path that was read. -/
theorem below_segments {list : List String} (h : ∀ s ∈ list, IsCleanSegment s) (endpoint : String) :
    below (Path.segments list).render endpoint =
      pathText (list.rdropWhile (·.isEmpty) ++ [endpoint, ""]) := by
  rw [below, ofString_render_segments, trimSlashes_pathText h, pathText_append]
  simp [pathText, Utf8.ofString, Utf8.encode]

end StorageGateway.Backend
