import StorageGateway.Multipart.Reader

/-!
# The boundary that a media type names

The boundary of an upload stands in its content type, so that it holds no line break.

## Main results

* `MediaType.mem_of_parse?`: values of parameters stand in the text of the media type.
* `Multipart.notMem_boundary?`: a boundary holds no line break.
-/

namespace StorageGateway

namespace MediaType

variable {bs value rest : Bytes}

theorem mem_of_quoted? (h : quoted? bs = some (value, rest)) :
    (∀ b ∈ value, b ∈ bs) ∧ ∀ b ∈ rest, b ∈ bs := by
  rcases bs with - | ⟨c, bs⟩
  · cases h
  · rw [quoted?] at h
    split at h
    · next after hafter =>
      split at h
      · cases h
        constructor
        · intro b hb
          rcases List.mem_cons.mp hb with rfl | hb
          · exact List.mem_cons_self
          · exact List.mem_cons_of_mem c ((List.takeWhile_prefix _).subset hb)
        · intro b hb
          exact List.mem_cons_of_mem c (List.mem_of_mem_drop (hafter ▸ List.mem_cons_of_mem _ hb))
      · cases h
    · cases h

theorem mem_of_value? (h : value? bs = some (value, rest)) :
    (∀ b ∈ value, b ∈ bs) ∧ ∀ b ∈ rest, b ∈ bs := by
  rw [value?.eq_def] at h
  split at h
  · next inner =>
    obtain ⟨⟨quoted, after⟩, hquoted, h⟩ := Option.bind_eq_some_iff.mp h
    obtain ⟨hvalue, hafter⟩ := mem_of_quoted? hquoted
    dsimp only at h
    split at h
    · cases h
      exact ⟨fun b hb => List.mem_cons_of_mem _ (hvalue b hb), by simp⟩
    · next tail htail =>
      cases h
      refine ⟨fun b hb => List.mem_cons_of_mem _ (hvalue b hb), fun b hb => ?_⟩
      have hmem : b ∈ after := (List.dropWhile_suffix (· == 0x20)).subset
        (htail ▸ List.mem_cons_of_mem _ hb)
      exact List.mem_cons_of_mem _ (hafter b hmem)
    · cases h
  · dsimp only at h
    have htoken (b : UInt8) (hb : b ∈ bs.takeWhile Ascii.isTokenChar) : b ∈ bs :=
      (List.takeWhile_prefix _).subset hb
    split at h
    · cases h
      exact ⟨htoken, by simp⟩
    · next tail htail =>
      split at h
      · cases h
      · cases h
        exact ⟨htoken, fun b hb => List.mem_of_mem_drop (htail ▸ List.mem_cons_of_mem _ hb)⟩
    · cases h

theorem mem_of_parametersFrom {fuel : Nat} {ps : List (Bytes × Bytes)}
    (h : parametersFrom fuel bs = some ps) : ∀ p ∈ ps, ∀ b ∈ p.2, b ∈ bs := by
  induction fuel generalizing bs ps with
  | zero =>
    rw [parametersFrom] at h
    split at h
    · cases h
      simp
    · cases h
  | succ fuel ih =>
    have hdrop (b : UInt8) (hb : b ∈ bs.dropWhile (· == 0x20)) : b ∈ bs :=
      (List.dropWhile_suffix (· == 0x20)).subset hb
    rw [parametersFrom] at h
    split at h
    · cases h
      simp
    · dsimp only at h
      split at h
      · next tail _ htail =>
        obtain ⟨⟨value, after⟩, hvalue, h⟩ := Option.bind_eq_some_iff.mp h
        obtain ⟨others, hothers, rfl⟩ := Option.map_eq_some_iff.mp h
        obtain ⟨hmem, hrest⟩ := mem_of_value? hvalue
        have htail' (b : UInt8) (hb : b ∈ tail) : b ∈ bs :=
          hdrop b (List.mem_of_mem_drop (htail ▸ List.mem_cons_of_mem _ hb))
        intro p hp b hb
        rcases List.mem_cons.mp hp with rfl | hp
        · exact htail' b (hmem b hb)
        · exact htail' b (hrest b (ih hothers p hp b hb))
      · cases h

/-- Values of parameters stand in the text of the media type. -/
theorem mem_of_parse? {m : MediaType} (h : parse? bs = some m) :
    ∀ p ∈ m.parameters, ∀ b ∈ p.2, b ∈ bs := by
  rw [parse?] at h
  split at h
  · next tail _ htail =>
    dsimp only at h
    split at h
    · cases h
      simp
    · next c after hafter =>
      split at h
      · obtain ⟨ps, hps, rfl⟩ := Option.map_eq_some_iff.mp h
        intro p hp b hb
        have hmem := mem_of_parametersFrom hps p hp b hb
        exact List.mem_of_mem_drop (htail ▸ List.mem_cons_of_mem _
          (List.mem_of_mem_drop (hafter ▸ List.mem_cons_of_mem _ hmem)))
      · cases h
  · cases h

end MediaType

namespace Multipart

/-- A boundary holds no line break. -/
theorem notMem_boundary? {contentType boundary : Bytes}
    (h : boundary? contentType = some boundary) : 0x0D ∉ boundary := by
  obtain ⟨text, htext, h⟩ := Option.bind_eq_some_iff.mp h
  obtain ⟨m, hm, h⟩ := Option.bind_eq_some_iff.mp h
  split at h
  · obtain ⟨p, hp, rfl⟩ := Option.map_eq_some_iff.mp h
    intro hmem
    have hbyte := MediaType.mem_of_parse? hm p (List.mem_of_find?_eq_some hp) _ hmem
    rw [Header.text?] at htext
    split at htext
    · next hall =>
      exact absurd (List.all_eq_true.mp hall _ hbyte) (by decide)
    · cases htext
  · cases h

end Multipart

end StorageGateway
