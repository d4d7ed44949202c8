import Mathlib.Data.List.Basic
import StorageGateway.Http.Chunk

/-!
# The bytes of a body

The bytes of a body are those of its pieces in a row, whichever way they arrive. Nothing of a body
is lost when it is cut into bursts.

## Main definitions

* `Chunk.allBytes`: the bytes of some pieces.
* `Chunk.arrived`: the bytes of some pieces up to where they break off.

## Main results

* `BodyStream.flatten_bursts`: the bursts of a body in a row.
-/

namespace StorageGateway

namespace Chunk

/-- The bytes of a piece. -/
def bytes : Chunk → Bytes
  | .data bs => bs
  | .broken => []

/-- The bytes of some pieces. -/
def allBytes (chunks : List Chunk) : Bytes := chunks.flatMap bytes

/-- The bytes of some pieces up to where they break off. -/
def arrived : List Chunk → Bytes
  | .data bs :: rest => bs ++ arrived rest
  | _ => []

@[simp]
theorem allBytes_map_data (pieces : List Bytes) : allBytes (pieces.map .data) = pieces.flatten := by
  rw [allBytes, List.flatMap_map]
  exact List.flatMap_id

/-- The bytes of a body that starts with some pieces. -/
theorem allBytes_append (pieces : List Bytes) (rest : List Chunk) :
    allBytes (pieces.map .data ++ rest) = pieces.flatten ++ allBytes rest := by
  rw [← allBytes_map_data]
  exact List.flatMap_append

@[simp]
theorem arrived_map_data (pieces : List Bytes) : arrived (pieces.map .data) = pieces.flatten := by
  induction pieces with
  | nil => rfl
  | cons piece pieces ih => rw [List.map_cons, arrived, ih, List.flatten_cons]

@[simp]
theorem broken_notMem_map_data (pieces : List Bytes) : .broken ∉ pieces.map Chunk.data := by simp

/-- Pieces that do not break off. -/
theorem exists_eq_map_data {chunks : List Chunk} (h : .broken ∉ chunks) :
    ∃ pieces : List Bytes, chunks = pieces.map .data := by
  induction chunks with
  | nil => exact ⟨[], rfl⟩
  | cons chunk chunks ih =>
    obtain ⟨pieces, rfl⟩ := ih (List.not_mem_of_not_mem_cons h)
    cases chunk with
    | broken => exact absurd List.mem_cons_self h
    | data bs => exact ⟨bs :: pieces, rfl⟩

end Chunk

/-- Nothing of a body is lost when it is cut into bursts. -/
theorem BodyStream.flatten_bursts (body : BodyStream) : body.bursts.flatten = body.chunks := by
  have hfrom (burst : List Chunk) (early : List Bool) (chunks : List Chunk) :
      (burstsFrom burst early chunks).flatten = burst.reverse ++ chunks := by
    induction chunks generalizing burst early with
    | nil => simp [burstsFrom]
    | cons chunk chunks ih =>
      rw [burstsFrom]
      split <;> simp [ih]
  exact hfrom [] body.early body.chunks

end StorageGateway
