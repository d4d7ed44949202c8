import StorageGateway.Proofs.Multipart.Form
import StorageGateway.Proofs.Multipart.Reading

/-!
# Uploads that arrive in part

A body arrives in pieces, and its sender may stop at any point. The files that are read depend on
the bytes alone, not on the places where the body was cut into pieces and not on which of them
arrived together. Of a form, the bytes up to the closing delimiter decide: as long as some of them
are missing, nothing is read and the upload fails, however many of its files have arrived; with all
of them, the whole form is read.

## Main definitions

* `FormField.closed`: the body of a form up to its closing delimiter.

## Main results

* `Bytes.cut?_eq_none_of_prefix`: a pattern that has not arrived as a whole is not found.
* `FormField.scan_prefix`: what the first bytes of a form mean.
* `Multipart.read_eq_of_flatten_eq`: reading depends neither on the pieces nor on the bursts.
* `Multipart.read_of_broken`: a body that breaks off before it settles anything.
* `Multipart.read_first_bytes_of_form`: a form is read when it has arrived up to its closing
  delimiter.
-/

namespace StorageGateway

/-- A text that starts like two texts in a row ends inside the first one or reaches into the
second one. -/
theorem Bytes.prefix_append_cases {bs first second : Bytes} (h : bs <+: first ++ second) :
    bs.length < first.length ∨ ∃ rest, bs = first ++ rest ∧ rest <+: second := by
  obtain ⟨more, hmore⟩ := h
  rcases List.append_eq_append_iff.mp hmore with ⟨missing, rfl, -⟩ | ⟨rest, rfl, rfl⟩
  · rcases missing with - | ⟨b, missing⟩
    · exact .inr ⟨[], by simp, List.nil_prefix⟩
    · exact .inl (by simp)
  · exact .inr ⟨rest, rfl, List.prefix_append _ _⟩

/-- A pattern that has not arrived as a whole is not found. -/
theorem Bytes.cut?_eq_none_of_prefix {pattern whole before after bs : Bytes}
    (h : cut? pattern whole = some (before, after)) (hp : bs <+: whole)
    (hshort : bs.length < (before ++ pattern).length) : cut? pattern bs = none := by
  obtain ⟨more, rfl⟩ := hp
  cases hcut : cut? pattern bs with
  | none => rfl
  | some r =>
    obtain ⟨before', after'⟩ := r
    have hlength := cut?_length hcut
    cases (cut?_append_right more hcut).symm.trans h
    rw [List.length_append] at hshort
    omega

open Multipart

/-! ### Forms of which the end is missing -/

namespace FormField

/-- A field with the delimiter behind it. -/
def part (boundary : Bytes) (f : FormField) : Bytes :=
  crlf ++ ((f.header ++ crlf ++ crlf) ++ (f.data ++ (crlf ++ delimiter boundary)))

/-- What stands behind the first delimiter of a form, up to its closing delimiter. -/
def closedFrom (boundary : Bytes) (fields : List FormField) : Bytes :=
  fields.flatMap (part boundary) ++ dashes

/-- The body of a form up to its closing delimiter. -/
def closed (boundary : Bytes) (fields : List FormField) : Bytes :=
  delimiter boundary ++ closedFrom boundary fields

/-- Behind the closing delimiter stands a line break. -/
theorem encode_eq_closed (boundary : Bytes) (fields : List FormField) :
    encode boundary fields = closed boundary fields ++ crlf := by
  have hfrom : assembleFrom boundary (fields.map toSection) =
      closedFrom boundary fields ++ crlf := by
    induction fields with
    | nil => rfl
    | cons f fields ih =>
      rw [List.map_cons, assembleFrom, ih]
      simp only [closedFrom, List.flatMap_cons, part, toSection, List.append_assoc]
  rw [encode, assemble, closed, hfrom, List.append_assoc]

variable {boundary : Bytes} {fields : List FormField}

/-- Two bytes at least tell how a delimiter line goes on. -/
theorem scanParts_short {bs : Bytes} (h : bs.length < 2) (fuel : Nat) (files : List FilePart) :
    scanParts boundary (fuel + 1) files bs = .hungry .between := by
  rcases bs with - | ⟨a, - | ⟨b, bs⟩⟩
  · rfl
  · rfl
  · simp only [List.length_cons] at h
    omega

/-- A header that has not arrived as a whole settles nothing. -/
theorem headerEnd_short {f : FormField} (hf : f.IsWritable) {bs more : Bytes}
    (hp : bs <+: f.header ++ crlf ++ crlf ++ more)
    (hshort : bs.length < (f.header ++ crlf ++ crlf).length) : headerEnd bs = .hungry := by
  rw [List.append_assoc f.header] at hshort
  rw [headerEnd, Bytes.cut?_eq_none_of_prefix (cut?_header hf more) hp hshort]

/-- A field of a form has not arrived as a whole, or it is read and the rest is still to come. -/
theorem scanParts_part {f : FormField} (hboundary : 0x0D ∉ boundary) (hf : f.IsWritable)
    (hdata : ¬(crlf ++ delimiter boundary) <:+: f.data) {bs more : Bytes}
    (hp : bs <+: part boundary f ++ more) (fuel : Nat) (files : List FilePart) :
    (bs.length < (part boundary f).length ∧
        ∃ place, scanParts boundary (fuel + 1) files bs = .hungry place) ∨
      ∃ rest, bs = part boundary f ++ rest ∧ rest <+: more ∧
        scanParts boundary (fuel + 1) files bs =
          scanParts boundary fuel (f.found?.toList ++ files) rest := by
  rw [part, List.append_assoc crlf, List.append_assoc (f.header ++ crlf ++ crlf)] at hp
  rcases Bytes.prefix_append_cases hp with hshort | ⟨lines, rfl, hlines⟩
  · refine .inl ⟨?_, _, scanParts_short hshort fuel files⟩
    rw [part, List.length_append]
    omega
  have hline : lineEnd (crlf ++ lines) = .part lines := rfl
  rw [scanParts, hline]
  rcases Bytes.prefix_append_cases hlines with hshort | ⟨content, rfl, hcontent⟩
  · refine .inl ⟨?_, .between, ?_⟩
    · rw [part, List.length_append, List.length_append, List.length_append]
      omega
    · simp only [headerEnd_short hf hlines hshort]
  have hheader := headerEnd_header hf _ (cut?_header hf content)
  have hcut (rest : Bytes) :
      Bytes.cut? (crlf ++ delimiter boundary) (f.data ++ (crlf ++ delimiter boundary) ++ rest) =
        some (f.data, rest) := by
    have hwhole := cut?_content hboundary hdata rest
    rwa [List.append_assoc f.data] at hwhole
  simp only [hheader]
  rcases Bytes.prefix_append_cases hcontent with hshort | ⟨rest, rfl, hrest⟩
  · refine .inl ⟨?_, ?_⟩
    · rw [part]
      simp only [List.length_append] at hshort ⊢
      omega
    · rw [Bytes.cut?_eq_none_of_prefix (hcut more) hcontent hshort]
      cases f.foundName? with
      | none => exact ⟨_, rfl⟩
      | some name => exact ⟨_, rfl⟩
  · refine .inr ⟨rest, by simp only [part, List.append_assoc], hrest, ?_⟩
    rw [hcut, found?]
    cases f.foundName? with
    | none => rfl
    | some name => rfl

/-- What the first of the bytes behind the first delimiter of a form mean. -/
theorem scanParts_prefix (hboundary : 0x0D ∉ boundary) (h : ∀ f ∈ fields, f.IsWritable)
    (hdata : ∀ f ∈ fields, ¬(crlf ++ delimiter boundary) <:+: f.data) {bs : Bytes}
    (hp : bs <+: closedFrom boundary fields ++ crlf) {fuel : Nat} (hfuel : bs.length < fuel)
    (files : List FilePart) :
    (closedFrom boundary fields <+: bs ∧
        scanParts boundary fuel files bs = .done (files.reverse ++ fields.filterMap found?)) ∨
      ¬closedFrom boundary fields <+: bs ∧
        ∃ place, scanParts boundary fuel files bs = .hungry place := by
  obtain ⟨fuel, rfl⟩ : ∃ n, fuel = n + 1 := ⟨fuel - 1, by omega⟩
  induction fields generalizing bs fuel files with
  | nil =>
    rcases Bytes.prefix_append_cases hp with hshort | ⟨rest, rfl, -⟩
    · exact .inr ⟨fun hc => Nat.not_lt.mpr hc.length_le hshort, _, scanParts_short hshort _ _⟩
    · refine .inl ⟨List.prefix_append _ _, ?_⟩
      rw [List.filterMap_nil, List.append_nil]
      rfl
  | cons f fields ih =>
    have hsplit : closedFrom boundary (f :: fields) =
        part boundary f ++ closedFrom boundary fields := by
      simp only [closedFrom, List.flatMap_cons, List.append_assoc]
    rw [hsplit, List.append_assoc] at hp
    rw [hsplit]
    rcases scanParts_part hboundary (h f List.mem_cons_self) (hdata f List.mem_cons_self) hp fuel
      files with ⟨hshort, hhungry⟩ | ⟨rest, rfl, hrest, hscan⟩
    · refine .inr ⟨fun hc => ?_, hhungry⟩
      have hle := hc.length_le
      rw [List.length_append] at hle
      omega
    · have hpart : 0 < (part boundary f).length := by simp [part, crlf]
      rw [List.length_append] at hfuel
      obtain ⟨fuel, rfl⟩ : ∃ n, fuel = n + 1 := ⟨fuel - 1, by omega⟩
      rw [List.prefix_append_right_inj, hscan]
      have hfound : (f.found?.toList ++ files).reverse ++ fields.filterMap found? =
          files.reverse ++ (f :: fields).filterMap found? := by
        rw [List.filterMap_cons]
        cases f.found? <;> simp
      rw [← hfound]
      exact ih (fun g hg => h g (List.mem_cons_of_mem f hg))
        (fun g hg => hdata g (List.mem_cons_of_mem f hg)) hrest _ fuel (by omega)

/-- What the first bytes of a form mean: all of its files once the closing delimiter has arrived,
and nothing before. -/
theorem scan_prefix (hboundary : 0x0D ∉ boundary) (h : ∀ f ∈ fields, f.IsWritable)
    (hdata : ∀ f ∈ fields, ¬(crlf ++ delimiter boundary) <:+: f.data) {bs : Bytes}
    (hp : bs <+: encode boundary fields) :
    (closed boundary fields <+: bs ∧ scan boundary bs = .done (fields.filterMap found?)) ∨
      ¬closed boundary fields <+: bs ∧ ∃ place, scan boundary bs = .hungry place := by
  rw [encode_eq_closed, closed, List.append_assoc] at hp
  rw [closed, scan]
  rcases Bytes.prefix_append_cases hp with hshort | ⟨rest, rfl, hrest⟩
  · refine .inr ⟨fun hc => ?_, .between, ?_⟩
    · have hle := hc.length_le
      rw [List.length_append] at hle
      omega
    · rw [Bytes.cut?_eq_none_of_prefix (Bytes.cut?_append_self _ _) hp hshort]
  · rw [Bytes.cut?_append_self, List.prefix_append_right_inj]
    exact scanParts_prefix hboundary h hdata hrest (Nat.lt_succ_self _) []

end FormField

/-! ### Reading -/

/-- A stream that breaks does so in one of its bursts; the pieces before arrive in the bursts
before that one or together with the break. -/
theorem Chunk.exists_broken_burst {bursts : List (List Chunk)} {pieces : List Bytes}
    {rest : List Chunk} (h : bursts.flatten = pieces.map .data ++ .broken :: rest) :
    ∃ front burst later before after, bursts = front ++ burst :: later ∧ .broken ∈ burst ∧
      front.flatten = before.map Chunk.data ∧ pieces = before ++ after := by
  induction bursts generalizing pieces with
  | nil => simp at h
  | cons burst bursts ih =>
    by_cases hbroken : .broken ∈ burst
    · exact ⟨[], burst, bursts, [], pieces, rfl, hbroken, rfl, rfl⟩
    · obtain ⟨more, rfl⟩ := Chunk.exists_eq_map_data hbroken
      rw [List.flatten_cons] at h
      rcases List.append_eq_append_iff.mp h with ⟨tail, hpieces, htail⟩ | ⟨tail, hmore, htail⟩
      · obtain ⟨first, later, rfl, hfirst, rfl⟩ := List.map_eq_append_iff.mp hpieces
        obtain ⟨front, burst, last, before, after, rfl, hburst, hfront, rfl⟩ := ih htail
        refine ⟨_ :: front, burst, last, first ++ before, after, rfl, hburst, ?_, ?_⟩
        · rw [List.flatten_cons, hfront, List.map_append, hfirst]
        · rw [List.append_assoc]
      · cases tail with
        | nil =>
          have hinjective : Function.Injective Chunk.data := fun _ _ heq => Chunk.data.inj heq
          rw [List.append_nil] at hmore
          obtain rfl := hinjective.list_map hmore
          obtain ⟨front, burst, last, before, after, rfl, hburst, hfront, hbefore⟩ :=
            @ih [] htail.symm
          obtain ⟨rfl, rfl⟩ := List.nil_eq_append_iff.mp hbefore
          refine ⟨_ :: front, burst, last, more, [], rfl, hburst, ?_, (List.append_nil _).symm⟩
          rw [List.flatten_cons, hfront]
          exact List.append_nil _
        | cons chunk tail =>
          rw [List.cons_append, List.cons.injEq] at htail
          exact absurd (hmore ▸ List.mem_append_right _ (htail.1 ▸ List.mem_cons_self)) hbroken

namespace Multipart

/-- Reading depends on the bytes of a body and not on the pieces in which they arrive or on which
of the pieces arrive together. -/
theorem read_eq_of_flatten_eq (headers : Headers) {pieces pieces' : List Bytes}
    (h : pieces.flatten = pieces'.flatten) (early early' : List Bool) :
    read headers 0 ⟨pieces.map .data, early⟩ = read headers 0 ⟨pieces'.map .data, early'⟩ := by
  cases hnamed : (headers.first? "content-type").bind boundary? with
  | none => rw [read, read, hnamed]
  | some boundary => rw [read_of_pieces hnamed, read_of_pieces hnamed, h]

/-- Data that looks like a delimiter and breaks off is read byte by byte as in one piece. -/
theorem read_eq_of_flatten_eq_bytes :
    let headers : Headers := [.ofText "content-type" "multipart/form-data; boundary=B"]
    let body : Bytes := Bytes.ofAscii
      "--B \r\nContent-Disposition: form-data; filename=a\r\n\r\n\r\n--\r\n--\r\n--B--"
    (body.map fun b => [b]).flatten = [[], body].flatten ∧
      read headers 0 ⟨(body.map fun b => [b]).map .data, [false, true]⟩ =
        .ok [⟨"a", Bytes.ofAscii "\r\n--\r\n--"⟩] := by
  intro headers body
  have hflatten : (body.map fun b => [b]).flatten = [[], body].flatten := by decide +kernel
  have hwhole : read headers 0 ⟨[[], body].map .data, []⟩ =
      .ok [⟨"a", Bytes.ofAscii "\r\n--\r\n--"⟩] := by decide +kernel
  exact ⟨hflatten, (read_eq_of_flatten_eq headers hflatten _ _).trans hwhole⟩

/-- A body that breaks off before its bytes settle anything fails where its reader stands. -/
theorem read_of_broken {headers : Headers} {boundary : Bytes}
    (named : (headers.first? "content-type").bind boundary? = some boundary)
    {pieces : List Bytes} {place : Place} (h : scan boundary pieces.flatten = .hungry place)
    (rest : List Chunk) (early : List Bool) :
    ∃ place : Place, read headers 0 ⟨pieces.map .data ++ .broken :: rest, early⟩ =
      .error place.cause.fault := by
  obtain ⟨contentType, -, hboundary⟩ := Option.bind_eq_some_iff.mp named
  obtain ⟨front, burst, later, before, after, hbursts, hbroken, hfront, rfl⟩ :=
    Chunk.exists_broken_burst
      (BodyStream.flatten_bursts ⟨pieces.map .data ++ .broken :: rest, early⟩)
  have hhungry : ∃ place, scan boundary ([] ++ before.flatten) = .hungry place := by
    by_contra hsettled
    have hsame := scan_append boundary _ after.flatten (not_exists.mp hsettled)
    rw [List.nil_append, ← List.flatten_append, h] at hsame
    exact hsettled ⟨place, hsame.symm⟩
  obtain ⟨place, hhungry⟩ := hhungry
  rw [read_of_named named, hbursts]
  rcases readFrom_cases (notMem_boundary? hboundary) (Reader.waits_nil boundary) hfront
      (exceeds_zero _) (burst :: later) with ⟨files, hscan, -⟩ | ⟨hscan, -⟩ | ⟨r, -, hread⟩
  · cases hhungry.symm.trans hscan
  · cases hhungry.symm.trans hscan
  · refine ⟨r.stage.place, ?_⟩
    rw [hread, readFrom, r.receive_eq burst (exceeds_zero _), if_neg (by simp [exceeds_zero]),
      if_pos hbroken]

/-- Of a form nothing is read before its closing delimiter has arrived, whether the body ends there
or breaks off, and with it all of the files that are found. These are the files of the form when
all of them can be found; otherwise some of them are lost, but none is shortened. -/
theorem read_first_bytes_of_form {headers : Headers} {boundary : Bytes} {fields : List FormField}
    (hnamed : (headers.first? "content-type").bind boundary? = some boundary)
    (h : ∀ f ∈ fields, f.IsWritable)
    (hdata : ∀ f ∈ fields, ¬(crlf ++ delimiter boundary) <:+: f.data) {pieces : List Bytes}
    (hp : pieces.flatten <+: FormField.encode boundary fields) (early : List Bool) :
    (FormField.closed boundary fields <+: pieces.flatten →
      read headers 0 ⟨pieces.map .data, early⟩ = .ok (fields.filterMap FormField.found?)) ∧
    (¬FormField.closed boundary fields <+: pieces.flatten →
      ∀ rest : List Chunk, rest = [] ∨ rest.head? = some .broken →
      ∃ description ∈ ["next part", "copy data"],
        read headers 0 ⟨pieces.map .data ++ rest, early⟩ = .error ⟨.internal, description⟩) ∧
    ((∀ f ∈ fields, f.IsTame) →
      (fields.filterMap FormField.found?).Sublist (fields.filterMap FormField.meant?) ∧
      (fields.filterMap FormField.found? = fields.filterMap FormField.meant? ↔
        ∀ f ∈ fields, f.IsFindable)) := by
  obtain ⟨contentType, -, hboundary⟩ := Option.bind_eq_some_iff.mp hnamed
  have hfiles : (∀ f ∈ fields, f.IsTame) →
      (fields.filterMap FormField.found?).Sublist (fields.filterMap FormField.meant?) ∧
      (fields.filterMap FormField.found? = fields.filterMap FormField.meant? ↔
        ∀ f ∈ fields, f.IsFindable) := fun htame =>
    ⟨FormField.filterMap_found?_sublist h htame, FormField.filterMap_found?_eq_iff h htame⟩
  rcases FormField.scan_prefix (notMem_boundary? hboundary) h hdata hp with
    ⟨hclosed, hscan⟩ | ⟨hopen, place, hscan⟩
  · refine ⟨fun _ => ?_, fun hopen => absurd hclosed hopen, hfiles⟩
    rw [read_of_pieces hnamed, hscan]
    rfl
  · refine ⟨fun hclosed => absurd hclosed hopen, fun _ rest hends => ?_, hfiles⟩
    have hfault : ∃ place : Place, read headers 0 ⟨pieces.map .data ++ rest, early⟩ =
        .error place.cause.fault := by
      rcases hends with rfl | hbroken
      · rw [List.append_nil, read_of_pieces hnamed, hscan]
        exact ⟨place, rfl⟩
      · obtain ⟨rest, rfl⟩ := List.head?_eq_some_iff.mp hbroken
        exact read_of_broken hnamed hscan rest early
    obtain ⟨place, hread⟩ := hfault
    cases place with
    | between => exact ⟨"next part", List.mem_cons_self, hread⟩
    | inFile => exact ⟨"copy data", List.mem_cons_of_mem _ List.mem_cons_self, hread⟩

/-- A form with a file and a comment, cut between the two dashes of its closing delimiter and right
behind them. -/
theorem read_first_bytes_of_form_dashes :
    let headers : Headers := [.ofText "content-type" "multipart/form-data; boundary=B"]
    let fields : List FormField :=
      [⟨Bytes.ofAscii "files", some "a.txt", [0x0D, 0x0A]⟩, ⟨Bytes.ofAscii "comment", none, [0x2D]⟩]
    let body := FormField.closed (Bytes.ofAscii "B") fields
    (∃ description ∈ ["next part", "copy data"],
        read headers 0 ⟨[body.dropLast].map .data ++ [.broken], [false, true]⟩ =
          .error ⟨.internal, description⟩) ∧
      read headers 0 ⟨[body].map .data, []⟩ = .ok [⟨"a.txt", [0x0D, 0x0A]⟩] := by
  intro headers fields body
  have hnamed : (headers.first? "content-type").bind boundary? = some (Bytes.ofAscii "B") := by
    decide +kernel
  have hwritable : ∀ f ∈ fields, f.IsWritable := by
    refine List.forall_mem_cons.mpr ⟨⟨forall_mem_of_all (by decide), ?_⟩,
      List.forall_mem_singleton.mpr ⟨forall_mem_of_all (by decide), ?_⟩⟩
    · rintro n hn
      cases hn
      exact forall_mem_of_all (by decide)
    · rintro n hn
      cases hn
  have hdata : ∀ f ∈ fields, ¬(crlf ++ delimiter (Bytes.ofAscii "B")) <:+: f.data := by
    decide +kernel
  have hcut : ¬body <+: [body.dropLast].flatten := by decide +kernel
  have hfound : fields.filterMap FormField.found? = [⟨"a.txt", [0x0D, 0x0A]⟩] := by decide +kernel
  refine ⟨(read_first_bytes_of_form hnamed hwritable hdata (by decide +kernel) _).2.1 hcut _
    (.inr rfl), ?_⟩
  rw [← hfound]
  exact (read_first_bytes_of_form hnamed hwritable hdata (by decide +kernel) _).1
    (by decide +kernel)

end Multipart

end StorageGateway
