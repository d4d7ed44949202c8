import Mathlib.Data.List.DropRight
import StorageGateway.Proofs.Http.Chunk
import StorageGateway.Proofs.Multipart.Boundary
import StorageGateway.Proofs.Multipart.Release
import StorageGateway.Proofs.Multipart.Scan

/-!
# A reader follows the meaning of an upload

A reader remembers of the bytes it has taken only its stage, the files so far and a buffer. That
is enough: at every moment the bytes that are still to come mean, from its stage on, what they mean
behind all the bytes that it has taken. Each step of the reader keeps this, the release of data
included, and when the reader stops, the bytes taken so far settle exactly what it reports. So a
reader that waits is determined, as far as its results go, by the bytes that it has taken, and it
does not matter in which pieces and bursts they arrived.

## Main definitions

* `Multipart.Reader.scan`: what further bytes mean to a reader.
* `Multipart.Reader.Waits`: a reader that has taken some bytes and waits for more.

## Main results

* `Multipart.Reader.step_isFaithful`, `Multipart.Reader.run_isFaithful`: a step and a run.
* `Multipart.readFrom_cases`: a reader that is given further pieces.
* `Multipart.read_of_pieces`: the files of a body that does not break off.
-/

namespace StorageGateway

namespace Multipart

variable {boundary bs : Bytes} {limit : Nat}

namespace Reader

/-- What further bytes mean to a reader. -/
def scan (boundary : Bytes) (r : Reader) (more : Bytes) : Progress :=
  match r.stage with
  | .preamble =>
    match Bytes.cut? (delimiter boundary) (r.buffer ++ more) with
    | none => .hungry .between
    | some (_, rest) => scanRest boundary r.files rest
  | .delimiter => scanRest boundary r.files (r.buffer ++ more)
  | .padding => scanLine boundary r.files (paddingEnd (r.buffer ++ more))
  | .header => scanHeader boundary r.files (r.buffer ++ more)
  | .data file => scanData boundary r.files file (r.buffer ++ more)

/-- Each step of a reader makes this smaller. -/
def todo (r : Reader) : Nat :=
  2 * r.buffer.length + if r.stage = .delimiter then 1 else 0

end Reader

/-- An outcome that is what the bytes taken by a reader mean. -/
def Outcome.IsFaithful (boundary : Bytes) (r : Reader) : Outcome → Prop
  | .done files => ∀ more, r.scan boundary more = .done files
  | .failed => ∀ more, r.scan boundary more = .failed
  | .hungry r' => r'.size = r.size ∧ (∀ more, r'.scan boundary more = r.scan boundary more) ∧
    r.scan boundary [] = .hungry r'.stage.place

/-- A step that keeps what further bytes mean. -/
def Turn.IsFaithful (boundary : Bytes) (r : Reader) : Turn → Prop
  | .next r' => r'.size = r.size ∧ r'.todo < r.todo ∧
    ∀ more, r'.scan boundary more = r.scan boundary more
  | .ends outcome => outcome.IsFaithful boundary r

namespace Reader

/-! ### Steps -/

variable (buffer : Bytes) (size : Nat) (files : List FilePart)

theorem step_preamble : (step boundary ⟨.preamble, buffer, size, files⟩).IsFaithful boundary
    ⟨.preamble, buffer, size, files⟩ := by
  rw [step]
  cases hcut : Bytes.cut? (delimiter boundary) buffer with
  | none =>
    refine ⟨rfl, fun _ => rfl, ?_⟩
    simp only [scan, List.append_nil, hcut, Stage.place]
  | some parts =>
    obtain ⟨before, rest⟩ := parts
    refine ⟨rfl, ?_, fun more => ?_⟩
    · have hlength := Bytes.cut?_length hcut
      simp only [delimiter, dashes, List.length_append, List.length_cons] at hlength
      simp only [todo, if_true, reduceCtorEq, if_false]
      omega
    · simp only [scan, Bytes.cut?_append_right more hcut]

theorem step_delimiter : (step boundary ⟨.delimiter, buffer, size, files⟩).IsFaithful boundary
    ⟨.delimiter, buffer, size, files⟩ := by
  have hshort (h : lineEnd buffer = .hungry) :
      (Outcome.hungry ⟨.delimiter, buffer, size, files⟩).IsFaithful boundary
        ⟨.delimiter, buffer, size, files⟩ := by
    refine ⟨rfl, fun _ => rfl, ?_⟩
    simp only [scan, List.append_nil, scanRest_eq, h, scanLine, Stage.place]
  rcases buffer with - | ⟨a, - | ⟨b, bs⟩⟩
  · exact hshort rfl
  · exact hshort rfl
  · rw [step]
    by_cases hdashes : [a, b] = dashes
    · simp only [if_pos hdashes]
      intro more
      simp only [scan, scanRest_eq, List.cons_append, lineEnd, if_pos hdashes, scanLine]
    · simp only [if_neg hdashes]
      refine ⟨rfl, ?_, fun more => ?_⟩
      · simp [todo]
      · simp only [scan, scanRest_eq, List.cons_append, lineEnd, if_neg hdashes]

/-- Blanks may be dropped before more of a line arrives. -/
theorem paddingEnd_dropWhile_append (bs more : Bytes) :
    paddingEnd (bs.dropWhile Ascii.isBlank ++ more) = paddingEnd (bs ++ more) := by
  rw [paddingEnd, paddingEnd, List.dropWhile_append, List.dropWhile_append,
    List.dropWhile_idempotent]

theorem step_padding : (step boundary ⟨.padding, buffer, size, files⟩).IsFaithful boundary
    ⟨.padding, buffer, size, files⟩ := by
  have hshort (h : paddingEnd buffer = .hungry) :
      (Outcome.hungry ⟨.padding, buffer.dropWhile Ascii.isBlank, size, files⟩).IsFaithful boundary
        ⟨.padding, buffer, size, files⟩ := by
    refine ⟨rfl, fun more => ?_, ?_⟩
    · simp only [scan, paddingEnd_dropWhile_append]
    · simp only [scan, List.append_nil, h, scanLine, Stage.place]
  rw [step]
  rcases hdrop : buffer.dropWhile Ascii.isBlank with - | ⟨a, - | ⟨b, rest⟩⟩
  · rw [hdrop] at hshort
    exact hshort (by rw [paddingEnd, hdrop])
  · rw [hdrop] at hshort
    exact hshort (by rw [paddingEnd, hdrop])
  · by_cases hcrlf : [a, b] = crlf
    · have hline : paddingEnd buffer = .part rest := by simp only [paddingEnd, hdrop, if_pos hcrlf]
      simp only [if_pos hcrlf]
      refine ⟨rfl, ?_, fun more => ?_⟩
      · have hlength := paddingEnd_length hline
        simp only [todo, reduceCtorEq, if_false]
        omega
      · simp only [scan, (paddingEnd_append buffer more).1 rest hline, scanLine]
    · have hline : paddingEnd buffer = .failed := by simp only [paddingEnd, hdrop, if_neg hcrlf]
      simp only [if_neg hcrlf]
      intro more
      simp only [scan, (paddingEnd_append buffer more).2 hline, scanLine]

theorem step_header : (step boundary ⟨.header, buffer, size, files⟩).IsFaithful boundary
    ⟨.header, buffer, size, files⟩ := by
  rw [step]
  cases hend : headerEnd buffer with
  | hungry =>
    refine ⟨rfl, fun _ => rfl, ?_⟩
    simp only [scan, List.append_nil, scanHeader, hend, Stage.place]
  | failed =>
    intro more
    simp only [scan, scanHeader, (headerEnd_append buffer more).2 hend]
  | header name rest =>
    refine ⟨rfl, ?_, fun more => ?_⟩
    · have hlength := headerEnd_length hend
      simp only [todo, reduceCtorEq, if_false]
      omega
    · simp only [scan, scanHeader, (headerEnd_append buffer more).1 name rest hend]

/-- Data that was released and data that stands before the end of a part make the same file. -/
theorem extend_extend (file : Option FilePart) (first second : Bytes) :
    (file.map (·.extend first)).map (·.extend second) =
      file.map (·.extend (first ++ second)) := by
  rw [Option.map_map]
  congr 1
  funext f
  simp [FilePart.extend]

theorem step_data (hboundary : 0x0D ∉ boundary) (file : Option FilePart) :
    (step boundary ⟨.data file, buffer, size, files⟩).IsFaithful boundary
      ⟨.data file, buffer, size, files⟩ := by
  rw [step]
  cases hcut : Bytes.cut? (dataEnd boundary) buffer with
  | none =>
    have htail : (0x0D : UInt8) ∉ 0x0A :: delimiter boundary := by
      simp [delimiter, dashes, hboundary]
    refine ⟨rfl, fun more => ?_, ?_⟩
    · let held := heldBack (dataEnd boundary) buffer
      have hreleased : Bytes.cut? (dataEnd boundary) (buffer ++ more) =
          (Bytes.cut? (dataEnd boundary) (held ++ more)).map
            fun r => (buffer.take (buffer.length - held.length) ++ r.1, r.2) :=
        cut?_append_of_released htail hcut more
      simp only [scan, scanData, hreleased]
      cases Bytes.cut? (dataEnd boundary) (held ++ more) with
      | none => cases file <;> rfl
      | some parts =>
        simp only [Option.map_some, extend_extend]
        rfl
    · simp only [scan, List.append_nil, scanData, hcut]
      cases file <;> rfl
  | some parts =>
    obtain ⟨data, rest⟩ := parts
    refine ⟨rfl, ?_, fun more => ?_⟩
    · have hlength := Bytes.cut?_length hcut
      simp only [dataEnd, crlf, List.length_append, List.length_cons] at hlength
      simp only [todo, if_true, reduceCtorEq, if_false]
      omega
    · simp only [scan, scanData, Bytes.cut?_append_right more hcut]

/-- A step keeps what further bytes mean. -/
theorem step_isFaithful (hboundary : 0x0D ∉ boundary) (r : Reader) :
    (r.step boundary).IsFaithful boundary r := by
  obtain ⟨stage, buffer, size, files⟩ := r
  cases stage with
  | preamble => exact step_preamble buffer size files
  | delimiter => exact step_delimiter buffer size files
  | padding => exact step_padding buffer size files
  | header => exact step_header buffer size files
  | data file => exact step_data buffer size files hboundary file

/-! ### Runs -/

/-- What is faithful after a step is faithful before it. -/
theorem isFaithful_of_next {r r' : Reader} {outcome : Outcome} (hsize : r'.size = r.size)
    (hsame : ∀ more, r'.scan boundary more = r.scan boundary more)
    (h : outcome.IsFaithful boundary r') : outcome.IsFaithful boundary r := by
  cases outcome with
  | done files => exact fun more => (hsame more).symm.trans (h more)
  | failed => exact fun more => (hsame more).symm.trans (h more)
  | hungry last =>
    obtain ⟨hlast, hmore, hhungry⟩ := h
    exact ⟨hlast.trans hsize, fun more => (hmore more).trans (hsame more),
      (hsame []).symm.trans hhungry⟩

theorem runFrom_isFaithful (hboundary : 0x0D ∉ boundary) {fuel : Nat} {r : Reader}
    (hfuel : r.todo < fuel) : (runFrom boundary fuel r).IsFaithful boundary r := by
  induction fuel generalizing r with
  | zero => omega
  | succ fuel ih =>
    have hstep := step_isFaithful hboundary r
    rw [runFrom]
    cases hturn : r.step boundary with
    | ends outcome =>
      rw [hturn] at hstep
      exact hstep
    | next r' =>
      rw [hturn] at hstep
      obtain ⟨hsize, htodo, hsame⟩ := hstep
      exact isFaithful_of_next hsize hsame (ih (by omega))

/-- A run ends with what the bytes taken so far mean. -/
theorem run_isFaithful (hboundary : 0x0D ∉ boundary) (r : Reader) :
    (r.run boundary).IsFaithful boundary r := by
  refine runFrom_isFaithful hboundary ?_
  rw [todo]
  split <;> omega

/-! ### Readers that wait -/

/-- A reader that has taken some bytes and waits for more. -/
structure Waits (boundary bs : Bytes) (r : Reader) : Prop where
  size : r.size = bs.length
  same : ∀ more, r.scan boundary more = Multipart.scan boundary (bs ++ more)
  hungry : Multipart.scan boundary bs = .hungry r.stage.place

/-- A reader that has taken nothing yet. -/
theorem waits_nil (boundary : Bytes) : Waits boundary [] {} where
  size := rfl
  same _ := rfl
  hungry := rfl

/-- A reader with more bytes in its buffer. -/
def push (r : Reader) (bs : Bytes) : Reader :=
  { r with buffer := r.buffer ++ bs, size := r.size + bs.length }

theorem scan_push (r : Reader) (bs more : Bytes) :
    (r.push bs).scan boundary more = r.scan boundary (bs ++ more) := by
  simp only [scan, push, List.append_assoc]

/-- A reader that waits goes as far as more bytes allow. -/
theorem Waits.run_push {r : Reader} (hboundary : 0x0D ∉ boundary) (h : Waits boundary bs r)
    (more : Bytes) :
    (∃ files, Multipart.scan boundary (bs ++ more) = .done files ∧
        (r.push more).run boundary = .done files) ∨
      (Multipart.scan boundary (bs ++ more) = .failed ∧ (r.push more).run boundary = .failed) ∨
      ∃ r', Waits boundary (bs ++ more) r' ∧ (r.push more).run boundary = .hungry r' := by
  have hsame (rest : Bytes) :
      (r.push more).scan boundary rest = Multipart.scan boundary (bs ++ more ++ rest) := by
    rw [scan_push, h.same, List.append_assoc]
  have hnow := hsame []
  rw [List.append_nil] at hnow
  have hrun := run_isFaithful hboundary (r.push more)
  cases houtcome : (r.push more).run boundary with
  | done files =>
    rw [houtcome] at hrun
    exact .inl ⟨files, hnow.symm.trans (hrun []), rfl⟩
  | failed =>
    rw [houtcome] at hrun
    exact .inr (.inl ⟨hnow.symm.trans (hrun []), rfl⟩)
  | hungry r' =>
    rw [houtcome] at hrun
    obtain ⟨hsize, hrest, hhungry⟩ := hrun
    refine .inr (.inr ⟨r', ⟨?_, fun rest => (hrest rest).trans (hsame rest), ?_⟩, rfl⟩)
    · rw [hsize, List.length_append, ← h.size]
      rfl
    · exact hnow.symm.trans hhungry

end Reader

theorem exceeds_mono {limit size more : Nat} (h : exceeds limit (size + more) = false) :
    exceeds limit size = false := by
  simp only [exceeds, Bool.and_eq_false_iff, bne_eq_false_iff_eq, decide_eq_false_iff_not] at h ⊢
  omega

/-- The size of a body does not matter where there is no limit. -/
theorem exceeds_zero (size : Nat) : exceeds 0 size = false := rfl

/-- A burst is taken as a whole when it stays within the limit and does not break off. -/
theorem Reader.receive_eq (r : Reader) (burst : List Chunk)
    (hlimit : exceeds limit r.size = false) :
    r.receive limit burst =
      if exceeds limit (r.size + (Chunk.arrived burst).length) then
        .error Cause.uploadTooLarge.fault
      else if .broken ∈ burst then .error r.stage.place.cause.fault
      else .ok (r.push (Chunk.allBytes burst)) := by
  induction burst generalizing r with
  | nil => simp [receive, Chunk.arrived, Chunk.allBytes, push, hlimit]
  | cons chunk burst ih =>
    cases chunk with
    | broken => simp [receive, Chunk.arrived, hlimit]
    | data bs =>
      rw [receive, Chunk.arrived, List.length_append, ← Nat.add_assoc]
      cases hsize : exceeds limit (r.size + bs.length) with
      | true =>
        have hmore : exceeds limit (r.size + bs.length + (Chunk.arrived burst).length) = true := by
          by_contra hwithin
          exact Bool.false_ne_true ((exceeds_mono (by simpa using hwithin)).symm.trans hsize)
        simp only [if_true, hmore]
      | false =>
        have hpush : (r.push bs).push (Chunk.allBytes burst) =
            r.push (Chunk.allBytes (.data bs :: burst)) := by
          simp [push, Chunk.allBytes, Chunk.bytes, Nat.add_assoc]
        simp only [Bool.false_eq_true, if_false]
        refine (ih (r.push bs) hsize).trans ?_
        rw [hpush]
        by_cases hbroken : .broken ∈ burst <;> simp [hbroken, push]

/-- Pieces within the limit are taken. -/
theorem Reader.receive_map_data (r : Reader) (pieces : List Bytes)
    (hlimit : exceeds limit (r.size + pieces.flatten.length) = false) :
    r.receive limit (pieces.map .data) = .ok (r.push pieces.flatten) := by
  rw [r.receive_eq _ (exceeds_mono hlimit), Chunk.arrived_map_data, hlimit,
    if_neg (Chunk.broken_notMem_map_data pieces), Chunk.allBytes_map_data]
  rfl

/-- A reader that is given further pieces within the limit comes to an end with what the bytes
mean, or it waits again. -/
theorem readFrom_cases {r : Reader} (hboundary : 0x0D ∉ boundary) (h : r.Waits boundary bs)
    {front : List (List Chunk)} {pieces : List Bytes} (hfront : front.flatten = pieces.map .data)
    (hlimit : exceeds limit (bs ++ pieces.flatten).length = false) (rest : List (List Chunk)) :
    (∃ files, scan boundary (bs ++ pieces.flatten) = .done files ∧
        readFrom boundary limit r (front ++ rest) = .ok files) ∨
      (scan boundary (bs ++ pieces.flatten) = .failed ∧
        readFrom boundary limit r (front ++ rest) = .error Cause.partUnreadable.fault) ∨
      ∃ r', Reader.Waits boundary (bs ++ pieces.flatten) r' ∧
        readFrom boundary limit r (front ++ rest) = readFrom boundary limit r' rest := by
  induction front generalizing r bs pieces with
  | nil =>
    obtain rfl : pieces = [] := List.map_eq_nil_iff.mp hfront.symm
    exact .inr (.inr ⟨r, by simpa using h, rfl⟩)
  | cons burst front ih =>
    obtain ⟨first, later, rfl, rfl, hlater⟩ := List.map_eq_append_iff.mp hfront.symm
    rw [List.flatten_append, ← List.append_assoc] at hlimit ⊢
    have hfirst : exceeds limit (r.size + first.flatten.length) = false := by
      rw [List.length_append, List.length_append] at hlimit
      exact h.size ▸ exceeds_mono hlimit
    rw [List.cons_append, readFrom, r.receive_map_data first hfirst]
    have hsettled (hne : ∀ place, scan boundary (bs ++ first.flatten) ≠ .hungry place) :=
      scan_append boundary (bs ++ first.flatten) later.flatten hne
    rcases h.run_push hboundary first.flatten with ⟨files, hscan, hrun⟩ | ⟨hscan, hrun⟩ |
      ⟨r', hwaits, hrun⟩
    · exact .inl ⟨files, (hsettled (by simp [hscan])).trans hscan, by simp only [hrun]⟩
    · exact .inr (.inl ⟨(hsettled (by simp [hscan])).trans hscan, by simp only [hrun]⟩)
    · simp only [hrun]
      exact ih hwaits hlater.symm hlimit

/-! ### Bodies that do not break off -/

/-- The result of reading a body of which nothing more arrives. -/
def Progress.result : Progress → Except Fault (List FilePart)
  | .done files => .ok files
  | .failed => .error Cause.partUnreadable.fault
  | .hungry place => .error place.cause.fault

/-- Reading starts with nothing taken. -/
theorem read_of_named {headers : Headers} {body : BodyStream}
    (named : (headers.first? "content-type").bind boundary? = some boundary) :
    read headers limit body = readFrom boundary limit {} body.bursts := by
  rw [read, named]

/-- A body that does not break off is read as what its bytes mean, whatever the pieces and bursts
in which it arrives. -/
theorem read_of_pieces {headers : Headers} {boundary : Bytes}
    (named : (headers.first? "content-type").bind boundary? = some boundary)
    (pieces : List Bytes) (early : List Bool) :
    read headers 0 ⟨pieces.map .data, early⟩ = (scan boundary pieces.flatten).result := by
  obtain ⟨contentType, -, hboundary⟩ := Option.bind_eq_some_iff.mp named
  rw [read_of_named named, ← List.append_nil (BodyStream.bursts _)]
  rcases readFrom_cases (notMem_boundary? hboundary) (Reader.waits_nil boundary)
      (BodyStream.flatten_bursts ⟨pieces.map .data, early⟩) (exceeds_zero _) [] with
    ⟨files, hscan, hread⟩ | ⟨hscan, hread⟩ | ⟨r, hwaits, hread⟩
  · rw [hread, ← List.nil_append pieces.flatten, hscan]
    rfl
  · rw [hread, ← List.nil_append pieces.flatten, hscan]
    rfl
  · rw [hread, ← List.nil_append pieces.flatten, hwaits.hungry]
    rfl

end Multipart

end StorageGateway
