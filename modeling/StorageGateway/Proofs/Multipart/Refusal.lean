import StorageGateway.Proofs.Multipart.Reading

/-!
# Which uploads are read

An upload is read when the bursts in which it arrives, up to one of them, stay within the limit and
hold a complete body. Otherwise it is of no use: its headers name no boundary, what has arrived is
malformed, it breaks off before it is complete, or it exceeds the limit before it is complete. What
arrives after the burst with which the body is complete plays no role.

## Main definitions

* `Multipart.StartsWith`: the first bursts of a body.
* `Multipart.BreaksOff`: bursts with which a body comes to no good end.
* `Multipart.IsComplete`, `Multipart.IsUnusable`: uploads of use and of no use.

## Main results

* `Multipart.read_eq_ok_iff`: when an upload is read, and as which files.
* `Multipart.exists_fault_iff`: when it is not.
-/

namespace StorageGateway.Multipart

/-- A body of which these pieces arrive in the first bursts, and then the rest. -/
def StartsWith (body : BodyStream) (pieces : List Bytes) (rest : List (List Chunk)) : Prop :=
  ∃ front, body.bursts = front ++ rest ∧ front.flatten = pieces.map .data

/-- Nothing more arrives, or the stream breaks in the next burst. -/
def BreaksOff (rest : List (List Chunk)) : Prop :=
  rest = [] ∨ ∃ burst later, rest = burst :: later ∧ .broken ∈ burst

/-- A body that is complete within the limit, with these files. -/
def IsComplete (boundary : Bytes) (limit : Nat) (body : BodyStream) (files : List FilePart) :
    Prop :=
  ∃ pieces rest, StartsWith body pieces rest ∧ scan boundary pieces.flatten = .done files ∧
    exceeds limit pieces.flatten.length = false

/-- Uploads of no use. -/
inductive IsUnusable (headers : Headers) (limit : Nat) (body : BodyStream) : Prop
  /-- The headers name no boundary. -/
  | notMultipart (unnamed : (headers.first? "content-type").bind boundary? = none)
  /-- What has arrived is malformed. -/
  | malformed {boundary pieces rest}
      (named : (headers.first? "content-type").bind boundary? = some boundary)
      (starts : StartsWith body pieces rest)
      (failed : scan boundary pieces.flatten = .failed)
  /-- The body ends or breaks off before it is complete, possibly behind complete files. -/
  | breaksOff {boundary pieces rest place}
      (named : (headers.first? "content-type").bind boundary? = some boundary)
      (starts : StartsWith body pieces rest) (ends : BreaksOff rest)
      (hungry : scan boundary pieces.flatten = .hungry place)
  /-- The bytes exceed the limit before the body is complete. -/
  | tooLarge {boundary pieces burst rest place}
      (named : (headers.first? "content-type").bind boundary? = some boundary)
      (starts : StartsWith body pieces (burst :: rest))
      (hungry : scan boundary pieces.flatten = .hungry place)
      (size : exceeds limit (pieces.flatten ++ Chunk.allBytes burst).length = true)

/-! ### Bursts of one body -/

variable {boundary : Bytes} {limit : Nat} {headers : Headers} {body : BodyStream}
  {rest rest' : List (List Chunk)} {pieces pieces' : List Bytes}

/-- Before its first burst nothing of a body has arrived. -/
theorem StartsWith.nil (body : BodyStream) : StartsWith body [] body.bursts := ⟨[], rfl, rfl⟩

/-- The pieces of a body are those that arrive first and those that follow. -/
theorem StartsWith.chunks (h : StartsWith body pieces rest) :
    body.chunks = pieces.map .data ++ rest.flatten := by
  obtain ⟨front, hbody, hfront⟩ := h
  rw [← body.flatten_bursts, hbody, List.flatten_append, hfront]

/-- Another burst. -/
theorem StartsWith.append {burst : List Chunk} {more : List Bytes}
    (h : StartsWith body pieces (burst :: rest)) (hburst : burst = more.map .data) :
    StartsWith body (pieces ++ more) rest := by
  obtain ⟨front, hbody, hfront⟩ := h
  refine ⟨front ++ [burst], ?_, ?_⟩
  · rw [hbody, List.append_assoc, List.singleton_append]
  · rw [List.flatten_append, hfront, hburst, List.map_append, List.flatten_singleton]

/-- Of two beginnings of a body one goes on as the other. -/
theorem StartsWith.total (h : StartsWith body pieces rest) (h' : StartsWith body pieces' rest') :
    (∃ more front, pieces' = pieces ++ more ∧ front.flatten = more.map .data ∧
        rest = front ++ rest') ∨
      ∃ more front, pieces = pieces' ++ more ∧ front.flatten = more.map .data ∧
        rest' = front ++ rest := by
  have hsplit {pieces pieces' : List Bytes} {before front : List (List Chunk)}
      (hbefore : before.flatten = pieces.map .data)
      (hwhole : (before ++ front).flatten = pieces'.map .data) :
      ∃ more, pieces' = pieces ++ more ∧ front.flatten = more.map .data := by
    rw [List.flatten_append, hbefore] at hwhole
    obtain ⟨first, more, rfl, hfirst, hmore⟩ := List.map_eq_append_iff.mp hwhole.symm
    have hinjective : Function.Injective Chunk.data := fun _ _ heq => Chunk.data.inj heq
    obtain rfl := hinjective.list_map hfirst
    exact ⟨more, rfl, hmore.symm⟩
  obtain ⟨before, hbody, hbefore⟩ := h
  obtain ⟨before', hbody', hbefore'⟩ := h'
  rcases List.append_eq_append_iff.mp (hbody.symm.trans hbody') with ⟨front, rfl, rfl⟩ |
    ⟨front, rfl, rfl⟩
  · obtain ⟨more, rfl, hmore⟩ := hsplit hbefore hbefore'
    exact .inl ⟨more, front, rfl, hmore, rfl⟩
  · obtain ⟨more, rfl, hmore⟩ := hsplit hbefore' hbefore
    exact .inr ⟨more, front, rfl, hmore, rfl⟩

/-- What is settled by some pieces is settled by more of them in the same way. -/
theorem scan_flatten_append (more : List Bytes)
    (h : ∀ place, scan boundary pieces.flatten ≠ .hungry place) :
    scan boundary (pieces ++ more).flatten = scan boundary pieces.flatten := by
  rw [List.flatten_append, scan_append boundary _ _ h]

/-- Pieces that settle nothing are followed by a burst without a break when the body is complete. -/
theorem StartsWith.hungry_lt {files : List FilePart} {place : Place}
    (h : StartsWith body pieces rest) (hdone : scan boundary pieces.flatten = .done files)
    (h' : StartsWith body pieces' rest') (hhungry : scan boundary pieces'.flatten = .hungry place) :
    ∃ (next more : List Bytes) (later : List (List Chunk)),
      pieces = pieces' ++ (next ++ more) ∧ rest' = next.map .data :: later := by
  rcases h.total h' with ⟨more, front, rfl, -⟩ | ⟨more, front, rfl, hfront, rfl⟩
  · rw [scan_flatten_append more (by simp [hdone]), hdone] at hhungry
    cases hhungry
  · cases front with
    | nil =>
      obtain rfl : more = [] := List.map_eq_nil_iff.mp hfront.symm
      rw [List.append_nil, hhungry] at hdone
      cases hdone
    | cons burst front =>
      obtain ⟨next, more, rfl, rfl, -⟩ := List.map_eq_append_iff.mp hfront.symm
      exact ⟨next, more, _, rfl, rfl⟩

/-! ### Reading -/

/-- Reading from some bursts on succeeds, or it meets a reason to fail. -/
theorem readFrom_settles (named : (headers.first? "content-type").bind boundary? = some boundary)
    (hlimit : exceeds limit pieces.flatten.length = false) (h : StartsWith body pieces rest)
    {r : Reader} (hr : r.Waits boundary pieces.flatten) :
    (∃ files, readFrom boundary limit r rest = .ok files ∧ IsComplete boundary limit body files) ∨
      (∃ f, readFrom boundary limit r rest = .error f) ∧ IsUnusable headers limit body := by
  obtain ⟨contentType, -, hboundary⟩ := Option.bind_eq_some_iff.mp named
  induction rest generalizing pieces r with
  | nil => exact .inr ⟨⟨_, rfl⟩, .breaksOff named h (.inl rfl) hr.hungry⟩
  | cons burst rest ih =>
    have hreceive := r.receive_eq burst (hr.size ▸ hlimit)
    by_cases hbroken : .broken ∈ burst
    · refine .inr ⟨?_, .breaksOff named h (.inr ⟨burst, rest, rfl, hbroken⟩) hr.hungry⟩
      rw [if_pos hbroken] at hreceive
      rw [readFrom]
      split at hreceive <;> exact ⟨_, by rw [hreceive]⟩
    · obtain ⟨more, hmore⟩ := Chunk.exists_eq_map_data hbroken
      rw [hmore, Chunk.arrived_map_data, hr.size, ← List.length_append] at hreceive
      cases hsize : exceeds limit (pieces.flatten ++ more.flatten).length with
      | true =>
        refine .inr ⟨⟨Cause.uploadTooLarge.fault, ?_⟩, .tooLarge named h hr.hungry ?_⟩
        · rw [readFrom, hmore, hreceive, hsize]
          rfl
        · rw [hmore, Chunk.allBytes_map_data, hsize]
      | false =>
        have hnext := h.append hmore
        have hflatten : (pieces ++ more).flatten = pieces.flatten ++ more.flatten :=
          List.flatten_append
        have hfront : [burst].flatten = more.map .data := by rw [hmore, List.flatten_singleton]
        rw [← hflatten] at hsize
        rcases readFrom_cases (notMem_boundary? hboundary) hr hfront (hflatten ▸ hsize) rest with
          ⟨files, hscan, hread⟩ | ⟨hscan, hread⟩ | ⟨r', hwaits, hread⟩
        · exact .inl ⟨files, hread, pieces ++ more, rest, hnext, hflatten ▸ hscan, hsize⟩
        · exact .inr ⟨⟨_, hread⟩, .malformed named hnext (hflatten ▸ hscan)⟩
        · rw [← List.singleton_append, hread]
          exact ih hsize hnext (hflatten ▸ hwaits)

/-- A complete body within the limit is of use. -/
theorem IsComplete.not_isUnusable {files : List FilePart}
    (named : (headers.first? "content-type").bind boundary? = some boundary)
    (h : IsComplete boundary limit body files) : ¬IsUnusable headers limit body := by
  obtain ⟨pieces, rest, hstarts, hdone, hlimit⟩ := h
  intro huse
  cases huse with
  | notMultipart hunnamed =>
    rw [named] at hunnamed
    cases hunnamed
  | @malformed _ pieces' _ hnamed hstarts' hfailed =>
    obtain rfl := Option.some.inj (named.symm.trans hnamed)
    rcases hstarts.total hstarts' with ⟨more, _, rfl, -⟩ | ⟨more, _, rfl, -⟩
    · rw [scan_flatten_append more (by simp [hdone]), hdone] at hfailed
      cases hfailed
    · rw [scan_flatten_append more (by simp [hfailed]), hfailed] at hdone
      cases hdone
  | breaksOff hnamed hstarts' hends hhungry =>
    obtain rfl := Option.some.inj (named.symm.trans hnamed)
    obtain ⟨next, more, later, -, rfl⟩ := hstarts.hungry_lt hdone hstarts' hhungry
    rcases hends with hends | ⟨burst, _, hburst, hbroken⟩
    · cases hends
    · cases hburst
      exact Chunk.broken_notMem_map_data next hbroken
  | tooLarge hnamed hstarts' hhungry hsize =>
    obtain rfl := Option.some.inj (named.symm.trans hnamed)
    obtain ⟨next, more, later, rfl, hnext⟩ := hstarts.hungry_lt hdone hstarts' hhungry
    cases hnext
    rw [List.flatten_append, List.flatten_append, ← List.append_assoc, List.length_append]
      at hlimit
    rw [Chunk.allBytes_map_data, exceeds_mono hlimit] at hsize
    cases hsize

/-- An upload that names a boundary is read, or it is of no use. -/
theorem read_cases (named : (headers.first? "content-type").bind boundary? = some boundary) :
    (∃ files, read headers limit body = .ok files ∧ IsComplete boundary limit body files) ∨
      (∃ f, read headers limit body = .error f) ∧ IsUnusable headers limit body := by
  have hstart : exceeds limit ([] : List Bytes).flatten.length = false := by simp [exceeds]
  rw [read_of_named named]
  exact readFrom_settles named hstart (.nil body) (Reader.waits_nil boundary)

/-- An upload is read when it is complete within the limit. -/
theorem read_eq_ok_iff {files : List FilePart}
    (named : (headers.first? "content-type").bind boundary? = some boundary) :
    read headers limit body = .ok files ↔ IsComplete boundary limit body files := by
  constructor
  · intro hread
    rcases read_cases named with ⟨found, hok, hcomplete⟩ | ⟨⟨f, herror⟩, -⟩
    · obtain rfl := Except.ok.inj (hok.symm.trans hread)
      exact hcomplete
    · rw [hread] at herror
      cases herror
  · intro hcomplete
    obtain ⟨contentType, -, hboundary⟩ := Option.bind_eq_some_iff.mp named
    obtain ⟨pieces, rest, ⟨front, hbody, hfront⟩, hdone, hlimit⟩ := hcomplete
    rw [read_of_named named, hbody]
    rw [← List.nil_append pieces.flatten] at hdone hlimit
    rcases readFrom_cases (notMem_boundary? hboundary) (Reader.waits_nil boundary) hfront hlimit
        rest with ⟨found, hscan, hread⟩ | ⟨hscan, -⟩ | ⟨r, hwaits, -⟩
    · cases hdone.symm.trans hscan
      exact hread
    · cases hdone.symm.trans hscan
    · cases hdone.symm.trans hwaits.hungry

/-- An upload of no use is refused, and no other one is. -/
theorem exists_fault_iff :
    (∃ f, read headers limit body = .error f) ↔ IsUnusable headers limit body := by
  cases hnamed : (headers.first? "content-type").bind boundary? with
  | none =>
    refine ⟨fun _ => .notMultipart hnamed, fun _ => ⟨Cause.notMultipart.fault, ?_⟩⟩
    rw [read, hnamed]
  | some boundary =>
    rcases read_cases hnamed with ⟨files, hok, hcomplete⟩ | ⟨herror, huse⟩
    · refine ⟨?_, fun huse => absurd huse (hcomplete.not_isUnusable hnamed)⟩
      rintro ⟨f, hf⟩
      rw [hok] at hf
      cases hf
    · exact ⟨fun _ => huse, fun _ => herror⟩

end StorageGateway.Multipart
