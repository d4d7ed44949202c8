import StorageGateway.Bytes

/-!
# Bodies that arrive in pieces

The body of a request arrives piece by piece and may break off at any point. Some pieces are there
as soon as the ones before them, others arrive only when the reader has to wait. What is there does
not change while the reader works, so a reader sees a body as a list of bursts: it takes all that
is there before it looks at any of it.

## Main definitions

* `Chunk`: a piece of a body, or its breaking off.
* `BodyStream`: a body that arrives in pieces.
* `BodyStream.bursts`: its pieces, those together that arrive together.
-/

namespace StorageGateway

/-- A piece of a request body that arrives as a stream. -/
inductive Chunk where
  | data (bs : Bytes)
  /-- The stream breaks. -/
  | broken
  deriving DecidableEq, Repr

/-- A request body that arrives as a stream. -/
structure BodyStream where
  chunks : List Chunk := []
  /-- Which pieces are there without waiting, in the order of the pieces; those that the list does
  not reach are not. -/
  early : List Bool := []
  deriving DecidableEq, Repr

namespace BodyStream

/-- A body of which each piece arrives only when its reader waits. -/
instance : Coe (List Chunk) BodyStream := ⟨fun chunks => { chunks }⟩

/-- Cuts a body where its reader has to wait; `burst` holds what has arrived since the last wait,
last piece first. -/
def burstsFrom (burst : List Chunk) : List Bool → List Chunk → List (List Chunk)
  | _, [] => [burst.reverse]
  | early, chunk :: rest =>
    if early.headD false then burstsFrom (chunk :: burst) early.tail rest
    else burst.reverse :: burstsFrom [chunk] early.tail rest

/-- The pieces of a body, those together that arrive together. The first burst is there from the
start and may be empty. -/
def bursts (body : BodyStream) : List (List Chunk) := burstsFrom [] body.early body.chunks

end BodyStream

end StorageGateway
