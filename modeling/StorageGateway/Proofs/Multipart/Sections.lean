import StorageGateway.Multipart.Writer
import StorageGateway.Proofs.Bytes.Cut
import StorageGateway.Proofs.Text.Strict

/-!
# Sections of a multipart body

A multipart body consists of sections, each with header lines and a content, between delimiter
lines. Cutting a body at its delimiter lines finds the sections that were put together, provided
that no content holds a line break with the delimiter. The body that is sent on has one section for
each file.

## Main definitions

* `Multipart.Section`, `Multipart.assemble`: sections put together.
* `Multipart.sections?`: the sections of a body.
* `FilePart.toSection`: the section that a file is sent as.

## Main results

* `Multipart.sections?_assemble`: cutting undoes putting together.
* `Multipart.sections?_write`: the sections of a body that is sent on.
* `FilePart.toSection_injective`: a section tells the file.
-/

namespace StorageGateway

namespace Multipart

/-- Header lines, joined by line breaks, and a content. -/
structure Section where
  header : Bytes
  content : Bytes
  deriving DecidableEq, Repr

/-- What stands behind the first delimiter of a body with these sections. -/
def assembleFrom (boundary : Bytes) : List Section → Bytes
  | [] => dashes ++ crlf
  | s :: rest =>
    crlf ++ s.header ++ crlf ++ crlf ++ s.content ++ crlf ++ delimiter boundary ++
      assembleFrom boundary rest

/-- The body with these sections. -/
def assemble (boundary : Bytes) (sections : List Section) : Bytes :=
  delimiter boundary ++ assembleFrom boundary sections

/-- The sections behind a delimiter; `fuel` bounds their number and is enough when it is the number
of bytes. -/
def sectionsFrom? (boundary : Bytes) : Nat → Bytes → Option (List Section)
  | 0, _ => none
  | fuel + 1, bs =>
    if bs = dashes ++ crlf then some []
    else if crlf.isPrefixOf bs then
      (Bytes.cut? (crlf ++ crlf) (bs.drop 2)).bind fun (header, bs) =>
        (Bytes.cut? (crlf ++ delimiter boundary) bs).bind fun (content, bs) =>
          (sectionsFrom? boundary fuel bs).map (⟨header, content⟩ :: ·)
    else none

/-- The sections of a body, which is cut at its delimiter lines. The empty body has none. -/
def sections? (boundary body : Bytes) : Option (List Section) :=
  if body.isEmpty then some []
  else if (delimiter boundary).isPrefixOf body then
    sectionsFrom? boundary body.length (body.drop (delimiter boundary).length)
  else none

/-! ### Cutting -/

/-- Sections that can be cut apart: the header ends at the first empty line, and the content holds
no line break with the delimiter. -/
structure Section.IsClear (boundary : Bytes) (s : Section) : Prop where
  header : ∀ rest, Bytes.cut? (crlf ++ crlf) (s.header ++ crlf ++ crlf ++ rest) =
    some (s.header, rest)
  content : ¬(crlf ++ delimiter boundary) <:+: s.content

/-- A content ends at the first line break with the delimiter. -/
theorem cut?_content {boundary content : Bytes} (hboundary : 0x0D ∉ boundary)
    (h : ¬(crlf ++ delimiter boundary) <:+: content) (rest : Bytes) :
    Bytes.cut? (crlf ++ delimiter boundary) (content ++ crlf ++ delimiter boundary ++ rest) =
      some (content, rest) := by
  have hbreak : (0x0D : UInt8) ∉ 0x0A :: delimiter boundary := by
    simp [delimiter, dashes, hboundary]
  have hcut := Bytes.cut?_of_not_isInfix rest hbreak h
  rw [List.append_assoc, List.append_assoc]
  exact hcut

theorem sectionsFrom?_assembleFrom {boundary : Bytes} (hboundary : 0x0D ∉ boundary)
    {sections : List Section} (h : ∀ s ∈ sections, s.IsClear boundary) {fuel : Nat}
    (hfuel : sections.length < fuel) :
    sectionsFrom? boundary fuel (assembleFrom boundary sections) = some sections := by
  induction sections generalizing fuel with
  | nil =>
    obtain ⟨fuel, rfl⟩ : ∃ n, fuel = n + 1 := ⟨fuel - 1, by omega⟩
    rw [sectionsFrom?, assembleFrom, if_pos rfl]
  | cons s sections ih =>
    obtain ⟨fuel, rfl⟩ : ∃ n, fuel = n + 1 := ⟨fuel - 1, by omega⟩
    have hclear := h s List.mem_cons_self
    have hfuel' : sections.length < fuel := by
      rw [List.length_cons] at hfuel
      omega
    have hrest := ih (fun t ht => h t (List.mem_cons_of_mem s ht)) hfuel'
    have htext : assembleFrom boundary (s :: sections) =
        0x0D :: 0x0A :: (s.header ++ crlf ++ crlf ++
          (s.content ++ crlf ++ delimiter boundary ++ assembleFrom boundary sections)) := by
      simp only [assembleFrom, List.append_assoc]
      rfl
    have hheader := hclear.header
      (s.content ++ crlf ++ delimiter boundary ++ assembleFrom boundary sections)
    have hcontent := cut?_content hboundary hclear.content (assembleFrom boundary sections)
    have hnotLast (bs : Bytes) : 0x0D :: 0x0A :: bs ≠ dashes ++ crlf := by simp [dashes]
    have hbreak (bs : Bytes) : crlf.isPrefixOf (0x0D :: 0x0A :: bs) = true := by simp [crlf]
    rw [sectionsFrom?, htext, if_neg (hnotLast _), if_pos (hbreak _), List.drop_succ_cons,
      List.drop_succ_cons, List.drop_zero]
    simp only [hheader, Option.bind_some, hcontent, hrest, Option.map_some]

theorem length_assembleFrom (boundary : Bytes) (sections : List Section) :
    sections.length < (assembleFrom boundary sections).length := by
  induction sections with
  | nil => simp [assembleFrom, dashes]
  | cons s sections ih =>
    simp only [assembleFrom, List.length_append, List.length_cons, crlf] at ih ⊢
    omega

/-- Cutting undoes putting together. -/
theorem sections?_assemble {boundary : Bytes} (hboundary : 0x0D ∉ boundary)
    {sections : List Section} (h : ∀ s ∈ sections, s.IsClear boundary) :
    sections? boundary (assemble boundary sections) = some sections := by
  have hlength := length_assembleFrom boundary sections
  rw [sections?, if_neg (by simp [assemble, delimiter, dashes]),
    if_pos (by simp [assemble]), assemble, List.drop_left]
  refine sectionsFrom?_assembleFrom hboundary h ?_
  rw [List.length_append]
  omega

/-- A header line without line breaks ends at the first empty line. -/
theorem cut?_line {line : Bytes} (h : 0x0D ∉ line) (rest : Bytes) :
    Bytes.cut? (crlf ++ crlf) (line ++ crlf ++ crlf ++ rest) = some (line, rest) := by
  have hcut := Bytes.cut?_of_notMem (c := 0x0D) [0x0A, 0x0D, 0x0A] rest h
  rw [List.append_assoc, List.append_assoc]
  exact hcut

end Multipart

/-! ### Bodies that are sent on -/

open Multipart

namespace FilePart

/-- The section that a file is sent as. -/
def toSection (f : FilePart) : Section := ⟨Utf8.ofString (disposition f.name), f.data⟩

/-- The escaped form of a name, character by character. -/
theorem toList_escapeName (name : String) :
    (escapeName name).toList = name.toList.flatMap fun c =>
      if c = '\\' ∨ c = '"' ∨ c = '\r' ∨ c = '\n' then ['\\', c] else [c] := by
  rw [escapeName, String.toList_ofList]

/-- The header line of a file, with the constant texts left open. -/
theorem exists_disposition : ∃ start middle finish : String,
    middle.toList.head? = some '"' ∧ '\r' ∉ start.toList ++ middle.toList ++ finish.toList ∧
      ∀ name, disposition name = start ++ name ++ middle ++ escapeName name ++ finish :=
  ⟨"Content-Disposition: form-data; name=\"", "\"; filename=\"", "\"", by decide, by decide,
    fun _ => rfl⟩

/-- A header line tells the name. Another name with the same line would be longer by a text that
starts with a quote, and the line would hold more quotes. -/
theorem disposition_injective : Function.Injective disposition := by
  obtain ⟨start, middle, finish, hmiddle, -, hline⟩ := exists_disposition
  have hlead {name other : String} (h : disposition name = disposition other)
      (hlonger : name.toList <+: other.toList) : name = other := by
    obtain ⟨more, hmore⟩ := hlonger
    have hlist := congrArg String.toList h
    simp only [hline, String.toList_append, toList_escapeName, ← hmore, List.flatMap_append,
      List.append_assoc, List.append_cancel_left_eq] at hlist
    have hcount := congrArg (List.count '"') hlist
    simp only [List.count_append] at hcount
    have hnone : '"' ∉ more := List.count_eq_zero.mp (by omega)
    rcases more with - | ⟨c, more⟩
    · rw [← String.toList_inj, ← hmore, List.append_nil]
    · have hhead := congrArg List.head? hlist
      rw [List.head?_append, hmiddle, List.cons_append, List.head?_cons] at hhead
      have hquote : '"' = c := Option.some.inj hhead
      exact absurd (hquote ▸ List.mem_cons_self) hnone
  intro name other h
  have hlist := congrArg String.toList h
  simp only [hline, String.toList_append, List.append_assoc, List.append_cancel_left_eq] at hlist
  rcases List.prefix_or_prefix_of_prefix (List.prefix_append name.toList _)
    (hlist ▸ List.prefix_append other.toList _) with hleads | hleads
  · exact hlead h hleads
  · exact (hlead h.symm hleads).symm

/-- A section tells the file. -/
theorem toSection_injective : Function.Injective toSection := by
  rintro ⟨name, data⟩ ⟨other, content⟩ h
  simp only [toSection, Section.mk.injEq] at h
  rw [disposition_injective (Utf8.ofString_injective h.1), h.2]

/-- The section of a file whose name has no line breaks. -/
theorem isClear_toSection {boundary : Bytes} {f : FilePart} (hname : '\r' ∉ f.name.toList)
    (hdata : ¬(crlf ++ delimiter boundary) <:+: f.data) : f.toSection.IsClear boundary := by
  refine ⟨fun rest => cut?_line ?_ rest, hdata⟩
  change (0x0D : UInt8) ∉ Utf8.ofString (disposition f.name)
  have hchar : Char.ofNat (0x0D : UInt8).toNat = '\r' := by decide
  rw [Utf8.mem_ofString (by decide), hchar]
  have hescaped : '\r' ∉ (escapeName f.name).toList := by
    rw [toList_escapeName, List.mem_flatMap]
    rintro ⟨c, hc, hmem⟩
    have hne : '\r' ≠ c := fun h => hname (h ▸ hc)
    split at hmem <;> simp [hne] at hmem
  obtain ⟨start, middle, finish, -, hconstant, hline⟩ := exists_disposition
  simp only [List.mem_append, not_or] at hconstant
  simp only [hline, String.toList_append, List.mem_append, hconstant, hname, hescaped, or_self,
    not_false_eq_true]

end FilePart

namespace Multipart

theorem write_eq_assemble (boundary : Bytes) (files : List FilePart) (h : files ≠ []) :
    write boundary files = assemble boundary (files.map FilePart.toSection) := by
  have hbody (fs : List FilePart) :
      fs.flatMap (writePart boundary) ++ delimiter boundary ++ dashes ++ crlf =
        assemble boundary (fs.map FilePart.toSection) := by
    induction fs with
    | nil => simp [assemble, assembleFrom]
    | cons f fs ih =>
      have hwrite : (f :: fs).flatMap (writePart boundary) ++ delimiter boundary ++ dashes ++ crlf =
          writePart boundary f ++
            (fs.flatMap (writePart boundary) ++ delimiter boundary ++ dashes ++ crlf) := by
        simp only [List.flatMap_cons, List.append_assoc]
      rw [hwrite, ih]
      simp only [assemble, List.map_cons, assembleFrom, writePart, FilePart.toSection,
        List.append_assoc]
  rw [write, if_neg (by simpa using h), hbody]

/-- The sections of a body that is sent on are those of its files. -/
theorem sections?_write {boundary : Bytes} (hboundary : 0x0D ∉ boundary) {files : List FilePart}
    (hname : ∀ f ∈ files, '\r' ∉ f.name.toList)
    (hdata : ∀ f ∈ files, ¬(crlf ++ delimiter boundary) <:+: f.data) :
    sections? boundary (write boundary files) = some (files.map FilePart.toSection) := by
  by_cases h : files = []
  · rw [h]
    rfl
  · rw [write_eq_assemble boundary files h]
    refine sections?_assemble hboundary fun s hs => ?_
    obtain ⟨f, hf, rfl⟩ := List.mem_map.mp hs
    exact FilePart.isClear_toSection (hname f hf) (hdata f hf)

end Multipart

end StorageGateway
