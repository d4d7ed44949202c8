import StorageGateway.Fault
import StorageGateway.Http.Chunk
import StorageGateway.Http.MediaType
import StorageGateway.Multipart.PartHeader

/-!
# Reading uploads

A multipart body is cut by its delimiter lines into parts. Parts with a file name are kept, all
others are skipped. The reader works on a buffer: it takes every piece that is there, goes as far
as the buffer allows, and waits for the next burst of pieces when the buffer settles nothing
further. While it is in the data of a part it does not keep that data in the buffer but releases
it, except for the bytes at the end with which a delimiter may start.

The size limit counts the bytes of the pieces as they are taken, whichever part of the body they
belong to, and a piece that goes beyond it ends the reading at once. It is reported as going beyond
the limit also when the reader has waited for it in the data of a file, whereas a body that breaks
off or ends is reported as what the reader was waiting for.

## Main definitions

* `FilePart`: a file of an upload.
* `Multipart.boundary?`: the delimiter named by a media type.
* `Multipart.Reader`: a reader with its buffer.
* `Multipart.Reader.step`, `Multipart.Reader.run`: what a reader makes of its buffer.
* `Multipart.Reader.receive`: taking the pieces of a burst.
* `Multipart.read`: the files of a body that arrives in pieces.
-/

namespace StorageGateway

/-- A file of an upload. -/
structure FilePart where
  name : String
  data : Bytes
  deriving DecidableEq, Repr

/-- A file with more data at its end. -/
def FilePart.extend (more : Bytes) (f : FilePart) : FilePart := { f with data := f.data ++ more }

namespace Multipart

/-- Where a reader stands: between files, or inside the data of a file. -/
inductive Place where
  | between
  | inFile
  deriving DecidableEq, Repr

/-- The cause of failing at a place. -/
def Place.cause : Place → Cause
  | .between => .partUnreadable
  | .inFile => .dataUnreadable

/-- The two dashes before a boundary and after the last one. -/
def dashes : Bytes := [0x2D, 0x2D]

/-- A line break. -/
def crlf : Bytes := [0x0D, 0x0A]

/-- The delimiter that stands before the first part. -/
def delimiter (boundary : Bytes) : Bytes := dashes ++ boundary

/-- The delimiter that ends the data of a part. -/
abbrev dataEnd (boundary : Bytes) : Bytes := crlf ++ delimiter boundary

/-- The header of a part, and what follows it. -/
inductive HeaderEnd where
  | header (fileName : Option String) (rest : Bytes)
  | failed
  | hungry

/-- Reads up to the first empty line. -/
def headerEnd (bs : Bytes) : HeaderEnd :=
  match Bytes.cut? (crlf ++ crlf) bs with
  | none => .hungry
  | some (lines, rest) =>
    match parseHeader? (lines ++ crlf ++ crlf) with
    | none => .failed
    | some header => .header ((fileName? header).filter fun name => !name.isEmpty) rest

/-- The bytes at the end of a text that cannot be released, as a mark may start with them: the text
from its last carriage return on, when that is close enough to the end and the mark starts so. -/
def heldBack (mark bs : Bytes) : Bytes :=
  let window := bs.drop (bs.length - (mark.length - 1))
  let tail := (window.reverse.takeWhile (· != 0x0D)).reverse
  if tail.length < window.length && (0x0D :: tail).isPrefixOf mark then 0x0D :: tail else []

/-- The part of a body that a reader is in. -/
inductive Stage where
  /-- Before the first delimiter. -/
  | preamble
  /-- Right behind a delimiter. -/
  | delimiter
  /-- On the line of a delimiter that another part follows. -/
  | padding
  /-- In the header of a part. -/
  | header
  /-- In the data of a part. Of a file this is what was released so far; the data of other parts is
  dropped. -/
  | data (file : Option FilePart)
  deriving DecidableEq, Repr

/-- The place of a part of a body. -/
def Stage.place : Stage → Place
  | .data (some _) => .inFile
  | _ => .between

/-- A reader with the bytes that it has taken but not used. -/
structure Reader where
  stage : Stage := .preamble
  buffer : Bytes := []
  /-- The number of bytes taken so far. -/
  size : Nat := 0
  /-- The complete files, last one first. -/
  files : List FilePart := []
  deriving DecidableEq, Repr

/-- How far a reader comes with its buffer. -/
inductive Outcome where
  /-- The body is complete. -/
  | done (files : List FilePart)
  /-- The body is malformed. -/
  | failed
  /-- The buffer settles nothing further. -/
  | hungry (r : Reader)
  deriving DecidableEq, Repr

/-- What one step of a reader leads to. -/
inductive Turn where
  | next (r : Reader)
  | ends (outcome : Outcome)
  deriving DecidableEq, Repr

namespace Reader

/-- One step of a reader. Bytes before the first delimiter are skipped, a delimiter is followed by
two dashes or by blanks and a line break, and a header by the data of its part. -/
def step (boundary : Bytes) (r : Reader) : Turn :=
  match r.stage with
  | .preamble =>
    match Bytes.cut? (delimiter boundary) r.buffer with
    | none => .ends (.hungry r)
    | some (_, rest) => .next { r with stage := .delimiter, buffer := rest }
  | .delimiter =>
    match r.buffer with
    | a :: b :: _ =>
      if [a, b] = dashes then .ends (.done r.files.reverse) else .next { r with stage := .padding }
    | _ => .ends (.hungry r)
  | .padding =>
    match r.buffer.dropWhile Ascii.isBlank with
    | a :: b :: rest =>
      if [a, b] = crlf then .next { r with stage := .header, buffer := rest } else .ends .failed
    | rest => .ends (.hungry { r with buffer := rest })
  | .header =>
    match headerEnd r.buffer with
    | .hungry => .ends (.hungry r)
    | .failed => .ends .failed
    | .header name rest =>
      .next { r with stage := .data (name.map fun name => ⟨name, []⟩), buffer := rest }
  | .data file =>
    match Bytes.cut? (dataEnd boundary) r.buffer with
    | some (data, rest) =>
      let files := (file.map (·.extend data)).toList ++ r.files
      .next { r with stage := .delimiter, buffer := rest, files }
    | none =>
      let held := heldBack (dataEnd boundary) r.buffer
      let released := r.buffer.take (r.buffer.length - held.length)
      .ends (.hungry { r with stage := .data (file.map (·.extend released)), buffer := held })

/-- Goes as far as the buffer allows. `fuel` bounds the number of steps; twice the size of the
buffer and two are enough. -/
def runFrom (boundary : Bytes) : Nat → Reader → Outcome
  | 0, r => .hungry r
  | fuel + 1, r =>
    match r.step boundary with
    | .next r => runFrom boundary fuel r
    | .ends outcome => outcome

/-- Goes as far as the buffer allows. -/
def run (boundary : Bytes) (r : Reader) : Outcome :=
  runFrom boundary (2 * r.buffer.length + 2) r

end Reader

/-- Whether more bytes are delivered than allowed; a limit of zero allows any number. -/
def exceeds (limit size : Nat) : Bool := limit != 0 && limit < size

/-- Takes the pieces of a burst. An excess is the same fault at every place. -/
def Reader.receive (limit : Nat) (r : Reader) : List Chunk → Except Fault Reader
  | [] => .ok r
  | .broken :: _ => .error r.stage.place.cause.fault
  | .data bs :: rest =>
    let size := r.size + bs.length
    if exceeds limit size then .error Cause.uploadTooLarge.fault
    else receive limit { r with buffer := r.buffer ++ bs, size } rest

/-- Takes one burst after another until the result is settled. A body that ends before fails where
the reader stands. -/
def readFrom (boundary : Bytes) (limit : Nat) (r : Reader) :
    List (List Chunk) → Except Fault (List FilePart)
  | [] => .error r.stage.place.cause.fault
  | burst :: rest =>
    match r.receive limit burst with
    | .error f => .error f
    | .ok r =>
      match r.run boundary with
      | .done files => .ok files
      | .failed => .error Cause.partUnreadable.fault
      | .hungry r => readFrom boundary limit r rest

/-- The delimiter that a content type names; the type has to be `multipart/form-data`. -/
def boundary? (contentType : Bytes) : Option Bytes :=
  (Header.text? contentType).bind fun _ =>
    (MediaType.parse? contentType).bind fun m =>
      if m.type = Bytes.ofAscii "multipart" ∧ m.subtype = Bytes.ofAscii "form-data" then
        m.parameter? "boundary"
      else none

/-- The files of an upload. -/
def read (headers : Headers) (limit : Nat) (body : BodyStream) : Except Fault (List FilePart) :=
  match (headers.first? "content-type").bind boundary? with
  | none => .error Cause.notMultipart.fault
  | some boundary => readFrom boundary limit {} body.bursts

end Multipart

end StorageGateway
