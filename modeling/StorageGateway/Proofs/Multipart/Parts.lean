import StorageGateway.Proofs.Http.Form
import StorageGateway.Proofs.Multipart.FileName
import StorageGateway.Proofs.Multipart.Refusal
import StorageGateway.Proofs.Multipart.Sections

/-!
# The parts of any body

A body that can be read consists of sections, whoever wrote it: in front of the first delimiter may
stand any text, behind a delimiter blanks, and behind the last one any text again. Each section has
a header up to its first empty line and a content up to the next line break with the delimiter. The
files of an upload are those of its sections, in their order, and a section has a file when the
search in its `Content-Disposition` line finds a name in UTF-8 that is not empty.

## Main definitions

* `Multipart.Holds`, `Multipart.Consists`: the sections of a body.
* `Multipart.Section.disposition?`, `Multipart.Section.file?`: the `Content-Disposition` value and
  the file of a section.

## Main results

* `Multipart.Consists.unique`: a body consists of its sections in one way.
* `Multipart.exists_sections_of_read`: the files of an upload are those of its sections.
* `Multipart.Section.name_of_file?`: what a file can be called.
-/

namespace StorageGateway.Multipart

/-- The sections that a text behind a delimiter holds. -/
inductive Holds (boundary : Bytes) : Bytes → List Section → Prop
  /-- Two dashes end the body, whatever stands behind them. -/
  | last (rest : Bytes) : Holds boundary (dashes ++ rest) []
  /-- Blanks and a line break start a section. -/
  | part {blanks text header more content rest : Bytes} {sections : List Section}
      (hblanks : ∀ b ∈ blanks, Ascii.isBlank b = true)
      (hheader : Bytes.cut? (crlf ++ crlf) text = some (header, more))
      (hcontent : Bytes.cut? (crlf ++ delimiter boundary) more = some (content, rest))
      (hrest : Holds boundary rest sections) :
      Holds boundary (blanks ++ crlf ++ text) (⟨header, content⟩ :: sections)

/-- A body consists of these sections: they stand behind its first delimiter. -/
def Consists (boundary bs : Bytes) (sections : List Section) : Prop :=
  ∃ before after, Bytes.cut? (delimiter boundary) bs = some (before, after) ∧
    Holds boundary after sections

/-- The header lines of a section. -/
def Section.lines? (s : Section) : Option Headers := parseHeader? (s.header ++ crlf ++ crlf)

/-- The `Content-Disposition` value of a section; the last one counts. -/
def Section.disposition? (s : Section) : Option Bytes :=
  s.lines?.bind fun lines => (lines.all "content-disposition").getLast?

/-- The file of a section. -/
def Section.file? (s : Section) : Option FilePart :=
  (((s.disposition?.bind (attribute? "filename")).bind Utf8.toString?).filter
    fun name => !name.isEmpty).map fun name => ⟨name, s.content⟩

variable {boundary bs rest : Bytes}

/-! ### Sections of a body -/

theorem exists_of_lineEnd_last (h : lineEnd bs = .last) : ∃ rest, bs = dashes ++ rest := by
  rw [lineEnd.eq_def] at h
  split at h
  · next a b rest =>
    split at h
    · next hdashes => exact ⟨rest, by rw [← hdashes]; rfl⟩
    · exact absurd h (paddingEnd_ne_last _)
  · cases h

theorem exists_of_lineEnd_part (h : lineEnd bs = .part rest) :
    ∃ blanks, (∀ b ∈ blanks, Ascii.isBlank b = true) ∧ bs = blanks ++ crlf ++ rest := by
  rw [lineEnd.eq_def] at h
  split at h
  · next a b more =>
    split at h
    · cases h
    · rw [paddingEnd] at h
      split at h
      · next c d after hdrop =>
        split at h
        · next hcrlf =>
          cases h
          refine ⟨(a :: b :: more).takeWhile Ascii.isBlank, List.all_eq_true.mp List.all_takeWhile,
            ?_⟩
          rw [← hcrlf, List.append_assoc, List.cons_append, List.singleton_append, ← hdrop,
            List.takeWhile_append_dropWhile]
        · cases h
      · cases h
  · cases h

theorem exists_of_headerEnd {name : Option String} (h : headerEnd bs = .header name rest) :
    ∃ header lines, Bytes.cut? (crlf ++ crlf) bs = some (header, rest) ∧
      parseHeader? (header ++ crlf ++ crlf) = some lines ∧
      name = (fileName? lines).filter fun name => !name.isEmpty := by
  rw [headerEnd] at h
  cases hcut : Bytes.cut? (crlf ++ crlf) bs with
  | none => simp [hcut] at h
  | some parts =>
    obtain ⟨header, after⟩ := parts
    cases hlines : parseHeader? (header ++ crlf ++ crlf) with
    | none =>
      simp only [hcut, hlines] at h
      cases h
    | some lines =>
      simp only [hcut, hlines, HeaderEnd.header.injEq] at h
      obtain ⟨rfl, rfl⟩ := h
      exact ⟨header, lines, rfl, hlines, rfl⟩

/-- The file of a section has the name that its header lines give it. -/
theorem Section.file?_of_lines? {s : Section} {lines : Headers} (h : s.lines? = some lines) :
    s.file? = ((fileName? lines).filter fun name => !name.isEmpty).map
      fun name => ⟨name, s.content⟩ := by
  rw [file?, disposition?, h]
  rfl

/-- A text that reads as complete holds sections whose headers can be read, and its files are
theirs. -/
theorem holds_of_scanParts {fuel : Nat} {files out : List FilePart}
    (h : scanParts boundary fuel files bs = .done out) :
    ∃ sections, Holds boundary bs sections ∧ (∀ s ∈ sections, s.lines?.isSome = true) ∧
      out = files.reverse ++ sections.filterMap Section.file? := by
  induction fuel generalizing files bs with
  | zero => cases h
  | succ fuel ih =>
    rw [scanParts] at h
    cases hline : lineEnd bs with
    | last =>
      obtain ⟨rest, rfl⟩ := exists_of_lineEnd_last hline
      simp only [hline, Progress.done.injEq] at h
      exact ⟨[], .last rest, List.forall_mem_nil _, by simp [h]⟩
    | failed => simp [hline] at h
    | hungry => simp [hline] at h
    | part text =>
      obtain ⟨blanks, hblanks, rfl⟩ := exists_of_lineEnd_part hline
      simp only [hline] at h
      cases hend : headerEnd text with
      | failed => simp [hend] at h
      | hungry => simp [hend] at h
      | header name more =>
        obtain ⟨header, lines, hheader, hlines, hname⟩ := exists_of_headerEnd hend
        simp only [hend] at h
        cases hcontent : Bytes.cut? (crlf ++ delimiter boundary) more with
        | none => cases name <;> simp [hcontent] at h
        | some r =>
          obtain ⟨content, rest⟩ := r
          have hfile := Section.file?_of_lines? (s := ⟨header, content⟩) hlines
          rw [← hname] at hfile
          have hsection {files : List FilePart}
              (h : scanParts boundary fuel files rest = .done out) :
              ∃ sections, Holds boundary (blanks ++ crlf ++ text) (⟨header, content⟩ :: sections) ∧
                (∀ s ∈ (⟨header, content⟩ : Section) :: sections, s.lines?.isSome = true) ∧
                out = files.reverse ++ sections.filterMap Section.file? := by
            obtain ⟨sections, hholds, hall, hout⟩ := ih h
            refine ⟨sections, .part hblanks hheader hcontent hholds, ?_, hout⟩
            exact List.forall_mem_cons.mpr ⟨Option.isSome_of_eq_some hlines, hall⟩
          cases name with
          | none =>
            obtain ⟨sections, hholds, hall, hout⟩ := hsection (by simpa only [hcontent] using h)
            exact ⟨_, hholds, hall, by rw [hout, List.filterMap_cons_none hfile]⟩
          | some name =>
            obtain ⟨sections, hholds, hall, hout⟩ := hsection (by simpa only [hcontent] using h)
            refine ⟨_, hholds, hall, ?_⟩
            rw [hout, List.filterMap_cons_some hfile, List.reverse_cons, List.append_assoc,
              List.singleton_append]

/-! ### Sections are determined -/

theorem dropWhile_blanks {blanks : Bytes} (hblanks : ∀ b ∈ blanks, Ascii.isBlank b = true)
    (text : Bytes) : (blanks ++ crlf ++ text).dropWhile Ascii.isBlank = crlf ++ text := by
  rw [List.append_assoc, List.dropWhile_append_of_pos hblanks]
  exact List.dropWhile_cons_of_neg (by decide)

/-- A text that starts with two dashes holds no section. -/
theorem Holds.eq_nil {sections : List Section} (h : Holds boundary (dashes ++ rest) sections) :
    sections = [] := by
  generalize hbs : dashes ++ rest = bs at h
  cases h with
  | last => rfl
  | part hblanks =>
    have hdrop := congrArg (List.dropWhile Ascii.isBlank) hbs
    rw [dropWhile_blanks hblanks] at hdrop
    cases hdrop

/-- The first section of a text that holds one. -/
theorem Holds.exists_cons {blanks text : Bytes} {sections : List Section}
    (hblanks : ∀ b ∈ blanks, Ascii.isBlank b = true)
    (h : Holds boundary (blanks ++ crlf ++ text) sections) :
    ∃ header more content rest others, Bytes.cut? (crlf ++ crlf) text = some (header, more) ∧
      Bytes.cut? (crlf ++ delimiter boundary) more = some (content, rest) ∧
      Holds boundary rest others ∧ sections = ⟨header, content⟩ :: others := by
  generalize hbs : blanks ++ crlf ++ text = bs at h
  have hdrop := congrArg (List.dropWhile Ascii.isBlank) hbs
  rw [dropWhile_blanks hblanks] at hdrop
  cases h with
  | last => cases hdrop
  | part hblanks' hheader hcontent hrest =>
    rw [dropWhile_blanks hblanks', List.append_cancel_left_eq] at hdrop
    exact ⟨_, _, _, _, _, hdrop ▸ hheader, hcontent, hrest, rfl⟩

theorem Holds.unique {sections others : List Section} (h : Holds boundary bs sections)
    (h' : Holds boundary bs others) : sections = others := by
  induction h generalizing others with
  | last => exact h'.eq_nil.symm
  | part hblanks hheader hcontent _ ih =>
    obtain ⟨header, more, content, rest, others, hheader', hcontent', hrest, rfl⟩ :=
      h'.exists_cons hblanks
    cases hheader.symm.trans hheader'
    cases hcontent.symm.trans hcontent'
    rw [ih hrest]

/-- A body consists of its sections in one way. -/
theorem Consists.unique {sections others : List Section} (h : Consists boundary bs sections)
    (h' : Consists boundary bs others) : sections = others := by
  obtain ⟨before, after, hcut, hholds⟩ := h
  obtain ⟨before', after', hcut', hholds'⟩ := h'
  cases hcut.symm.trans hcut'
  exact hholds.unique hholds'

/-- A body that is put together from sections consists of them. -/
theorem consists_assemble (hboundary : 0x0D ∉ boundary) {sections : List Section}
    (h : ∀ s ∈ sections, s.IsClear boundary) :
    Consists boundary (assemble boundary sections) sections := by
  refine ⟨[], assembleFrom boundary sections, Bytes.cut?_append_self _ _, ?_⟩
  induction sections with
  | nil => exact .last crlf
  | cons s sections ih =>
    obtain ⟨hs, hrest⟩ := List.forall_mem_cons.mp h
    have hcontent := cut?_content hboundary hs.content (assembleFrom boundary sections)
    have hsplit : assembleFrom boundary (s :: sections) = [] ++ crlf ++ (s.header ++ crlf ++ crlf ++
        (s.content ++ crlf ++ delimiter boundary ++ assembleFrom boundary sections)) := by
      simp only [assembleFrom, List.nil_append, List.append_assoc]
    rw [hsplit]
    exact .part (List.forall_mem_nil _) (hs.header _) hcontent (ih hrest)

/-! ### Files of an upload -/

/-- A body that reads as complete consists of sections whose headers can be read, and its files are
theirs. -/
theorem consists_of_scan {files : List FilePart} (h : scan boundary bs = .done files) :
    ∃ sections, Consists boundary bs sections ∧ (∀ s ∈ sections, s.lines?.isSome = true) ∧
      files = sections.filterMap Section.file? := by
  rw [scan] at h
  cases hcut : Bytes.cut? (delimiter boundary) bs with
  | none => simp [hcut] at h
  | some r =>
    obtain ⟨before, after⟩ := r
    simp only [hcut] at h
    obtain ⟨sections, hholds, hall, hfiles⟩ := holds_of_scanParts h
    exact ⟨sections, ⟨before, after, hcut, hholds⟩, hall, hfiles⟩

/-- The files of an upload are those of its sections. -/
theorem exists_sections_of_read {headers : Headers} {limit : Nat} {body : BodyStream}
    {files : List FilePart} (h : read headers limit body = .ok files) :
    ∃ boundary sections, (headers.first? "content-type").bind boundary? = some boundary ∧
      Consists boundary (Chunk.allBytes body.chunks) sections ∧
      (∀ s ∈ sections, s.lines?.isSome = true) ∧ files = sections.filterMap Section.file? := by
  cases hnamed : (headers.first? "content-type").bind boundary? with
  | none =>
    rw [read, hnamed] at h
    cases h
  | some boundary =>
    obtain ⟨pieces, rest, hstarts, hscan, -⟩ := (read_eq_ok_iff hnamed).mp h
    have hwhole : scan boundary (Chunk.allBytes body.chunks) = .done files := by
      rw [hstarts.chunks, Chunk.allBytes_append, scan_append boundary _ _ (by simp [hscan]), hscan]
    obtain ⟨sections, hconsists, hall, hfiles⟩ := consists_of_scan hwhole
    exact ⟨boundary, sections, rfl, hconsists, hall, hfiles⟩

/-! ### Names of files -/

theorem mem_of_trimBy {p : UInt8 → Bool} {b : UInt8} (h : b ∈ Bytes.trimBy p bs) : b ∈ bs := by
  rw [Bytes.trimBy, List.mem_reverse] at h
  exact mem_of_dropWhile (List.mem_reverse.mp (mem_of_dropWhile h))

/-- The value of a header line holds no control characters but tabs. -/
theorem isValueByte_of_headerLine? {line : Header} (h : headerLine? bs = some (line, rest)) :
    ∀ b ∈ line.value, isValueByte b = true := by
  rw [headerLine?] at h
  dsimp only at h
  split at h
  · cases h
  · split at h
    · obtain ⟨after, -, heq⟩ := Option.map_eq_some_iff.mp h
      cases heq
      exact fun b hb => List.all_eq_true.mp List.all_takeWhile b (mem_of_trimBy hb)
    · cases h

theorem isValueByte_of_headerLines? {allowance : Nat} {lines : Headers}
    (h : headerLines? allowance bs = some lines) :
    ∀ line ∈ lines, ∀ b ∈ line.value, isValueByte b = true := by
  induction allowance generalizing bs lines with
  | zero =>
    rw [headerLines?.eq_def] at h
    cases hbreak : lineBreak? bs with
    | none => simp [hbreak] at h
    | some rest =>
      simp only [hbreak, Option.some.injEq] at h
      exact h ▸ List.forall_mem_nil _
  | succ allowance ih =>
    rw [headerLines?.eq_def] at h
    cases hbreak : lineBreak? bs with
    | none =>
      simp only [hbreak] at h
      obtain ⟨⟨line, rest⟩, hline, h⟩ := Option.bind_eq_some_iff.mp h
      obtain ⟨others, hothers, rfl⟩ := Option.map_eq_some_iff.mp h
      exact List.forall_mem_cons.mpr ⟨isValueByte_of_headerLine? hline, ih hothers⟩
    | some rest =>
      simp only [hbreak, Option.some.injEq] at h
      exact h ▸ List.forall_mem_nil _

namespace Section

variable {s : Section} {d : Bytes}

/-- The `Content-Disposition` value of a section holds no control characters but tabs. -/
theorem isValueByte_of_disposition? (h : s.disposition? = some d) :
    ∀ b ∈ d, isValueByte b = true := by
  obtain ⟨lines, hlines, hlast⟩ := Option.bind_eq_some_iff.mp h
  have hmem := List.mem_of_getLast? hlast
  obtain ⟨line, hline, rfl⟩ := List.mem_map.mp hmem
  exact isValueByte_of_headerLines? hlines line (List.mem_filter.mp hline).1

/-- Which file a section has. -/
theorem file?_eq_some_iff {f : FilePart} : s.file? = some f ↔
    ∃ d, s.disposition? = some d ∧ attribute? "filename" d = some (Utf8.ofString f.name) ∧
      f.name ≠ "" ∧ f.data = s.content := by
  have hname (found : Bytes) (name : String) :
      Utf8.toString? found = some name ↔ found = Utf8.ofString name := by
    constructor
    · exact fun h => (Utf8.ofString_of_toString? h).symm
    · rintro rfl
      exact Utf8.toString?_ofString name
  rw [file?, Option.map_eq_some_iff]
  simp only [Option.filter_eq_some_iff, Option.bind_eq_some_iff, hname]
  constructor
  · rintro ⟨name, ⟨⟨found, ⟨d, hd, hfound⟩, rfl⟩, hne⟩, rfl⟩
    exact ⟨d, hd, hfound, by simpa using hne, rfl⟩
  · rintro ⟨d, hd, hfound, hne, hdata⟩
    exact ⟨f.name, ⟨⟨_, ⟨d, hd, hfound⟩, rfl⟩, by simpa using hne⟩, by rw [← hdata]⟩

/-- A file has a name, which holds no control characters but tabs. -/
theorem name_of_file? {f : FilePart} (h : s.file? = some f) :
    f.name ≠ "" ∧ ∀ b ∈ Utf8.ofString f.name, isValueByte b = true := by
  obtain ⟨d, hd, hname, hne, -⟩ := file?_eq_some_iff.mp h
  exact ⟨hne, fun b hb => isValueByte_of_disposition? hd b (mem_of_attribute? hname b hb)⟩

end Section

end StorageGateway.Multipart
