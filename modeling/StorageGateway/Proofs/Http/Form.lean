import Mathlib.Data.List.Count
import Mathlib.Data.List.Nodup
import StorageGateway.Http.Form
import StorageGateway.Proofs.Http.Chunk

/-!
# Which forms are read

A form is read when it is announced, arrives as a whole and within its size, and holds none of the
fields that are asked for twice. The values are then those of the fields of the whole body, and
empty for a field that is missing. Otherwise the form is of no use, whatever it holds.

## Main definitions

* `Form.value`: the value of a field.
* `Form.IsUnusable`: forms of no use.

## Main results

* `Form.read_eq_ok_iff`: when a form is read, and how.
* `Form.exists_refusal_iff`: when it is not.
-/

namespace StorageGateway

namespace Form

/-- The value of the first field of that name, empty when there is none. -/
def value (fields : List (String × String)) (name : String) : String :=
  ((fields.find? (·.1 == name)).map (·.2)).getD ""

/-- Forms of no use to a reader that asks for the fields of these names. -/
inductive IsUnusable (headers : Headers) (body : List Chunk) (names : List String) : Prop
  | otherFormat (unannounced : isAnnounced headers = false)
  | streamBroken (broken : .broken ∈ body)
  | tooLong (size : maxSize < (Chunk.allBytes body).length)
  | repeatedField {name} (asked : name ∈ names)
      (repeated : 1 < ((FormData.decode (Chunk.allBytes body)).map (·.1)).count name)

/-- A body is collected when it does not break off and stays within the limit. -/
theorem collectFrom_eq_ok_iff {limit size : Nat} {seen : List Bytes} {body : List Chunk}
    {bs : Bytes} (hsize : size ≤ limit) : collectFrom limit size seen body = .ok bs ↔
      .broken ∉ body ∧ size + (Chunk.allBytes body).length ≤ limit ∧
        seen.reverse.flatten ++ Chunk.allBytes body = bs := by
  induction body generalizing size seen with
  | nil => simp [collectFrom, Chunk.allBytes, hsize]
  | cons chunk body ih =>
    cases chunk with
    | broken => simp [collectFrom]
    | data piece =>
      have hlength : (Chunk.allBytes (.data piece :: body)).length =
          piece.length + (Chunk.allBytes body).length := List.length_append
      have hbytes : seen.reverse.flatten ++ Chunk.allBytes (.data piece :: body) =
          (piece :: seen).reverse.flatten ++ Chunk.allBytes body := by
        simp [Chunk.allBytes, Chunk.bytes]
      rw [collectFrom, hlength, hbytes]
      split
      · next hlimit =>
        refine iff_of_false (by simp) fun h => ?_
        have hwithin := h.2.1
        omega
      · next hlimit =>
        rw [ih (Nat.le_of_not_lt hlimit), Nat.add_assoc, List.mem_cons]
        simp

theorem collect_eq_ok_iff {limit : Nat} {body : List Chunk} {bs : Bytes} :
    collect limit body = .ok bs ↔ .broken ∉ body ∧ (Chunk.allBytes body).length ≤ limit ∧
      Chunk.allBytes body = bs := by
  rw [collect, collectFrom_eq_ok_iff (Nat.zero_le limit), Nat.zero_add]
  rfl

theorem firstRepeated?_eq_none_iff {seen names : List String} :
    firstRepeated? seen names = none ↔ names.Nodup ∧ ∀ name ∈ names, name ∉ seen := by
  induction names generalizing seen with
  | nil => simp [firstRepeated?]
  | cons name names ih =>
    rw [firstRepeated?, List.nodup_cons, List.forall_mem_cons]
    split
    · next hseen =>
      refine ⟨fun h => (nomatch h), fun h => absurd ?_ h.2.1⟩
      simpa using hseen
    · next hseen =>
      rw [ih]
      have hnew : name ∉ seen := by simpa using hseen
      constructor
      · rintro ⟨hnodup, hrest⟩
        refine ⟨⟨fun hmem => hrest name hmem List.mem_cons_self, hnodup⟩, hnew, fun other h => ?_⟩
        exact fun hmem => hrest other h (List.mem_cons_of_mem name hmem)
      · rintro ⟨⟨hname, hnodup⟩, -, hrest⟩
        refine ⟨hnodup, fun other hother hmem => ?_⟩
        rcases List.mem_cons.mp hmem with rfl | hmem
        · exact hname hother
        · exact hrest other hother hmem

/-- Of the fields that are asked for none occurs twice. -/
theorem firstRepeated?_known {names : List String} {fields : List (String × String)} :
    firstRepeated? [] ((fields.filter fun f => names.contains f.1).map (·.1)) = none ↔
      ∀ name ∈ names, (fields.map (·.1)).count name ≤ 1 := by
  have hknown : (fields.filter fun f => names.contains f.1).map (·.1) =
      (fields.map (·.1)).filter names.contains := by
    rw [List.filter_map]
    rfl
  rw [firstRepeated?_eq_none_iff, List.nodup_iff_count_le_one, hknown]
  refine ⟨fun h name hname => ?_, fun h => ⟨fun name => ?_, by simp⟩⟩
  · rw [← List.count_filter (List.contains_iff_mem.mpr hname)]
    exact h.1 name
  · by_cases hname : name ∈ names
    · rw [List.count_filter (List.contains_iff_mem.mpr hname)]
      exact h name hname
    · rw [List.count_eq_zero.mpr (by simp [hname])]
      exact Nat.zero_le 1

/-- Fields are picked out when none of the names occurs twice. -/
theorem pick_eq_ok_iff {names : List String} {fields : List (String × String)}
    {values : List String} : pick names fields = .ok values ↔
      (∀ name ∈ names, (fields.map (·.1)).count name ≤ 1) ∧ names.map (value fields) = values := by
  have hvalues : (names.map fun name => (((fields.filter fun f => names.contains f.1).find?
      (·.1 == name)).map (·.2)).getD "") = names.map (value fields) := by
    refine List.map_congr_left fun name hname => ?_
    rw [value, List.find?_filter]
    congr 3
    funext f
    by_cases hf : f.1 = name
    · simp [hf, hname]
    · simp [hf]
  rw [pick, ← firstRepeated?_known, hvalues]
  generalize firstRepeated? [] _ = repeated
  cases repeated <;> simp

variable {headers : Headers} {body : List Chunk} {names : List String}

theorem not_isUnusable_iff : ¬IsUnusable headers body names ↔
    isAnnounced headers = true ∧ .broken ∉ body ∧ (Chunk.allBytes body).length ≤ maxSize ∧
      ∀ name ∈ names, ((FormData.decode (Chunk.allBytes body)).map (·.1)).count name ≤ 1 := by
  constructor
  · intro h
    refine ⟨?_, fun hbroken => h (.streamBroken hbroken), Nat.le_of_not_lt fun hsize =>
      h (.tooLong hsize), fun name hname => Nat.le_of_not_lt fun hrepeated =>
      h (.repeatedField hname hrepeated)⟩
    rw [← Bool.not_eq_false]
    exact fun hformat => h (.otherFormat hformat)
  · rintro ⟨hformat, hbroken, hsize, hdistinct⟩ h
    cases h with
    | otherFormat h => exact Bool.false_ne_true (h.symm.trans hformat)
    | streamBroken h => exact hbroken h
    | tooLong h => exact Nat.not_lt_of_le hsize h
    | repeatedField hname h => exact Nat.not_lt_of_le (hdistinct _ hname) h

/-- A form is read when it is of use, as the fields of the whole body. -/
theorem read_eq_ok_iff {values : List String} : read headers body names = .ok values ↔
    ¬IsUnusable headers body names ∧
      names.map (value (FormData.decode (Chunk.allBytes body))) = values := by
  have hsteps : read headers body names = .ok values ↔ isAnnounced headers = true ∧
      ∃ bs, collect maxSize body = .ok bs ∧ pick names (FormData.decode bs) = .ok values := by
    rw [read]
    cases isAnnounced headers with
    | false => exact ⟨fun h => (nomatch h), fun h => absurd h.1 Bool.false_ne_true⟩
    | true =>
      change (collect maxSize body).bind (fun bs => pick names (FormData.decode bs)) = _ ↔ _
      cases collect maxSize body <;> simp [Except.bind]
  rw [hsteps, not_isUnusable_iff]
  constructor
  · rintro ⟨hformat, bs, hcollect, hpick⟩
    obtain ⟨hbroken, hsize, rfl⟩ := collect_eq_ok_iff.mp hcollect
    obtain ⟨hdistinct, hvalues⟩ := pick_eq_ok_iff.mp hpick
    exact ⟨⟨hformat, hbroken, hsize, hdistinct⟩, hvalues⟩
  · rintro ⟨⟨hformat, hbroken, hsize, hdistinct⟩, hvalues⟩
    exact ⟨hformat, _, collect_eq_ok_iff.mpr ⟨hbroken, hsize, rfl⟩,
      pick_eq_ok_iff.mpr ⟨hdistinct, hvalues⟩⟩

/-- A form of no use is refused, and no other one is. -/
theorem exists_refusal_iff :
    (∃ r, read headers body names = .error r) ↔ IsUnusable headers body names := by
  constructor
  · rintro ⟨r, hr⟩
    by_contra huse
    rw [read_eq_ok_iff.mpr ⟨huse, rfl⟩] at hr
    cases hr
  · intro huse
    cases hread : read headers body names with
    | error r => exact ⟨r, rfl⟩
    | ok values => exact absurd huse (read_eq_ok_iff.mp hread).1

end Form

end StorageGateway
