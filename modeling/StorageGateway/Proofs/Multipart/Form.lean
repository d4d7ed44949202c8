import StorageGateway.Proofs.Multipart.FileName
import StorageGateway.Proofs.Multipart.Scan
import StorageGateway.Proofs.Multipart.Sections
import StorageGateway.Proofs.Text.Percent

/-!
# Forms that browsers upload

A browser sends the fields of a form as the parts of a multipart body. The header of a field names
the field and, for a file, the file; it tells the media type of a file as well. Reading such a body
finds one file for each field whose header the search for a file name takes as the header of a
file. This is the file that was meant, unless the field name misleads the search or the file name
ends in a backslash: then the file is lost.

## Main definitions

* `FormField`: a field of a form.
* `FormField.encode`: the body that a form is sent as.
* `FormField.meant?`, `FormField.found?`: the file of a field, as it was meant and as it is found.
* `FormField.IsFindable`: the fields whose file is found.

## Main results

* `FormField.scan_encode`: what is found in the body of a form.
* `FormField.found?_eq_meant?_iff`, `FormField.filterMap_found?_eq_iff`: when the files are found
  that were meant.
-/

namespace StorageGateway

open Multipart

/-- A field of a form; only files have a file name. -/
structure FormField where
  name : Bytes
  fileName : Option String
  data : Bytes
  deriving DecidableEq, Repr

namespace FormField

/-- The text that names the file in a header. -/
def fileAttribute (fileName : String) : Bytes :=
  Bytes.ofAscii "; filename=\"" ++ Utf8.ofString fileName ++ [0x22]

/-- The value of the `Content-Disposition` line. -/
def disposition (f : FormField) : Bytes :=
  Bytes.ofAscii "form-data; name=\"" ++ f.name ++ 0x22 :: (f.fileName.map fileAttribute).getD []

/-- The header lines. -/
def header (f : FormField) : Bytes :=
  Bytes.ofAscii "Content-Disposition: " ++ f.disposition ++
    if f.fileName.isSome then crlf ++ Bytes.ofAscii "Content-Type: application/octet-stream" else []

/-- The section that a field is sent as. -/
def toSection (f : FormField) : Section := ⟨f.header, f.data⟩

/-- The body that a form is sent as. -/
def encode (boundary : Bytes) (fields : List FormField) : Bytes :=
  assemble boundary (fields.map toSection)

/-- The file that a field means; a file name that is empty means none. -/
def meant? (f : FormField) : Option FilePart :=
  (f.fileName.filter fun name => !name.isEmpty).map fun name => ⟨name, f.data⟩

/-- The file name that is found in the header of a field. -/
def foundName? (f : FormField) : Option String :=
  ((attribute? "filename" f.disposition).bind Utf8.toString?).filter fun name => !name.isEmpty

/-- The file that is found. -/
def found? (f : FormField) : Option FilePart := f.foundName?.map fun name => ⟨name, f.data⟩

/-- Bytes that names in a header hold: neither control characters nor quotes. -/
def IsNameByte (b : UInt8) : Prop := 0x20 ≤ b ∧ b ≠ 0x7F ∧ b ≠ 0x22

instance (b : UInt8) : Decidable (IsNameByte b) := inferInstanceAs (Decidable (_ ∧ _))

/-- Fields whose names hold neither control characters nor quotes. -/
structure IsWritable (f : FormField) : Prop where
  name : ∀ b ∈ f.name, IsNameByte b
  fileName : ∀ n ∈ f.fileName, ∀ c ∈ n.toList, 0x20 ≤ c.toNat ∧ c.toNat ≠ 0x7F ∧ c ≠ '"'


/-- Fields whose name does not both mislead the search for a file name and give it a value. -/
def IsTame (f : FormField) : Prop := Misleads f.name → ¬Assigns f.name

/-- The text of a file name ends in a backslash. -/
def EndsInBackslash (name : String) : Prop := name.toList.getLast? = some '\\'

instance (name : String) : Decidable (EndsInBackslash name) :=
  inferInstanceAs (Decidable (_ = _))

/-- Fields that mean no file, or have a name that does not mislead the search and a file name that
does not hide its closing quote. -/
def IsFindable (f : FormField) : Prop :=
  f.meant? = none ∨ ¬Misleads f.name ∧ ∀ n ∈ f.fileName, ¬EndsInBackslash n

instance (f : FormField) : Decidable f.IsFindable := inferInstanceAs (Decidable (_ ∨ _))

/-! ### Bytes of the header -/

theorem isNameByte_ofString {s : String}
    (h : ∀ c ∈ s.toList, 0x20 ≤ c.toNat ∧ c.toNat ≠ 0x7F ∧ c ≠ '"') :
    ∀ b ∈ Utf8.ofString s, IsNameByte b := by
  intro b hb
  by_cases hascii : b.toNat < 0x80
  · obtain ⟨hlow, hdelete, hquote⟩ := h _ ((Utf8.mem_ofString hascii).mp hb)
    rw [Bytes.toNat_ofNat_toNat] at hlow hdelete
    refine ⟨UInt8.le_iff_toNat_le.mpr hlow, ?_, ?_⟩
    · rintro rfl
      exact hdelete rfl
    · rintro rfl
      exact hquote (by decide)
  · refine ⟨UInt8.le_iff_toNat_le.mpr (Nat.le_trans (by decide) (Nat.le_of_not_lt hascii)), ?_, ?_⟩
    · rintro rfl
      exact hascii (by decide)
    · rintro rfl
      exact hascii (by decide)

theorem isValueByte_of_le {b : UInt8} (h : 0x20 ≤ b) (h' : b ≠ 0x7F) : isValueByte b = true := by
  simp [isValueByte, h, h']

variable {f : FormField}

/-- The header holds neither control characters nor line breaks. -/
theorem IsWritable.mem_disposition (h : f.IsWritable) :
    ∀ b ∈ f.disposition, 0x20 ≤ b ∧ b ≠ 0x7F := by
  intro b hb
  rw [disposition, List.mem_append, List.mem_append, List.mem_cons] at hb
  rcases hb with (hb | hb) | rfl | hb
  · have hstart : ∀ b ∈ Bytes.ofAscii "form-data; name=\"", 0x20 ≤ b ∧ b ≠ 0x7F :=
      forall_mem_of_all (by decide)
    exact hstart b hb
  · exact ⟨(h.name b hb).1, (h.name b hb).2.1⟩
  · decide
  · cases hname : f.fileName with
    | none => simp [hname] at hb
    | some n =>
      rw [hname, Option.map_some, Option.getD_some, fileAttribute, List.mem_append,
        List.mem_append, List.mem_singleton] at hb
      rcases hb with (hb | hb) | rfl
      · have hmiddle : ∀ b ∈ Bytes.ofAscii "; filename=\"", 0x20 ≤ b ∧ b ≠ 0x7F :=
          forall_mem_of_all (by decide)
        exact hmiddle b hb
      · have hbyte := isNameByte_ofString (h.fileName n hname) b hb
        exact ⟨hbyte.1, hbyte.2.1⟩
      · decide

theorem IsWritable.notMem_disposition (h : f.IsWritable) : 0x0D ∉ f.disposition := by
  intro hmem
  exact absurd (h.mem_disposition _ hmem).1 (by decide)

/-! ### Header lines -/

/-- A header line whose value starts and ends with visible characters. -/
theorem headerLine?_eq {name value : Bytes} {first last : UInt8} (rest : Bytes) (hne : name ≠ [])
    (hlength : name.length ≤ maxHeaderName) (hname : ∀ b ∈ name, Ascii.isTokenChar b = true)
    (hvalue : ∀ b ∈ value, isValueByte b = true) (hstart : value.head? = some first)
    (hfinish : value.getLast? = some last) (hfirst : Ascii.isBlank first = false)
    (hlast : Ascii.isBlank last = false) :
    headerLine? (name ++ 0x3A :: 0x20 :: (value ++ crlf ++ rest)) =
      some (⟨Bytes.toAscii (Bytes.toLower name), value⟩, rest) := by
  have htoken : (name ++ 0x3A :: 0x20 :: (value ++ crlf ++ rest)).takeWhile Ascii.isTokenChar =
      name := by
    rw [List.takeWhile_append_of_pos hname, List.takeWhile_cons_of_neg (by decide),
      List.append_nil]
  have hblank : (0x20 :: (value ++ crlf ++ rest)).dropWhile Ascii.isBlank =
      value ++ crlf ++ rest := by
    rw [List.dropWhile_cons_of_pos (by decide)]
    obtain ⟨tail, rfl⟩ := List.head?_eq_some_iff.mp hstart
    rw [List.cons_append, List.cons_append, List.dropWhile_cons_of_neg (by simp [hfirst])]
  have htake : (value ++ crlf ++ rest).takeWhile isValueByte = value := by
    rw [List.append_assoc, List.takeWhile_append_of_pos hvalue, crlf, List.cons_append,
      List.takeWhile_cons_of_neg (by decide), List.append_nil]
  have hdrop : (value ++ crlf ++ rest).drop value.length = 0x0D :: 0x0A :: rest := by
    rw [List.append_assoc, List.drop_left]
    rfl
  have hempty : name.isEmpty = false := by simpa using hne
  have hshort : ¬maxHeaderName < name.length := Nat.not_lt.mpr hlength
  have htrim : Bytes.trimBy Ascii.isBlank value = value := by
    refine Bytes.trimBy_of_ends (fun b hb => ?_) fun b hb => ?_
    · cases hstart.symm.trans hb
      exact hfirst
    · cases hfinish.symm.trans hb
      exact hlast
  rw [headerLine?, htoken, List.drop_left]
  simp only [hempty, hshort, decide_false, Bool.or_self, Bool.false_eq_true, if_false, hblank,
    htake, hdrop, lineBreak?, Option.map_some, htrim]

/-- The first of several header lines. -/
theorem headerLines?_of_headerLine? {bs rest : Bytes} {line : Header} (allowance : Nat)
    (hbreak : lineBreak? bs = none) (hline : headerLine? bs = some (line, rest)) :
    headerLines? (allowance + 1) bs = (headerLines? allowance rest).map (line :: ·) := by
  rw [headerLines?.eq_def]
  simp only [hbreak, hline, Option.bind_some]

theorem headerLines?_end (allowance : Nat) : headerLines? allowance crlf = some [] := by
  unfold headerLines?
  rfl

theorem getLast?_disposition (f : FormField) : f.disposition.getLast? = some 0x22 := by
  rw [disposition, List.getLast?_append, List.getLast?_cons]
  cases f.fileName with
  | none => rfl
  | some n =>
    rw [Option.map_some, Option.getD_some, fileAttribute, List.getLast?_concat]
    rfl

theorem head?_disposition (f : FormField) : f.disposition.head? = some 0x66 := by
  have hstart : (Bytes.ofAscii "form-data; name=\"").head? = some 0x66 := by decide
  rw [disposition, List.head?_append, List.head?_append, hstart]
  rfl

/-- The line that names a field is read as it was written. -/
theorem headerLine?_disposition (h : f.IsWritable) (rest : Bytes) :
    headerLine? (Bytes.ofAscii "Content-Disposition: " ++ f.disposition ++ crlf ++ rest) =
      some (⟨"content-disposition", f.disposition⟩, rest) := by
  have hname : Bytes.ofAscii "Content-Disposition: " =
      Bytes.ofAscii "Content-Disposition" ++ [0x3A, 0x20] := by decide
  have hlower : Bytes.toAscii (Bytes.toLower (Bytes.ofAscii "Content-Disposition")) =
      "content-disposition" := by decide
  have hne : Bytes.ofAscii "Content-Disposition" ≠ [] := by decide
  have hline := headerLine?_eq rest hne (by decide) (forall_mem_of_all (by decide))
    (fun b hb => isValueByte_of_le (h.mem_disposition b hb).1 (h.mem_disposition b hb).2)
    f.head?_disposition f.getLast?_disposition rfl rfl
  rw [hlower] at hline
  rw [hname, ← hline]
  simp only [List.append_assoc, List.cons_append, List.nil_append]

/-- The line that tells the media type of a file is read as it was written. -/
theorem headerLine?_contentType (rest : Bytes) :
    headerLine? (Bytes.ofAscii "Content-Type: application/octet-stream" ++ crlf ++ rest) =
      some (⟨"content-type", Bytes.ofAscii "application/octet-stream"⟩, rest) := by
  have hname : Bytes.ofAscii "Content-Type: application/octet-stream" =
      Bytes.ofAscii "Content-Type" ++ 0x3A :: 0x20 :: Bytes.ofAscii "application/octet-stream" := by
    decide
  have hlower : Bytes.toAscii (Bytes.toLower (Bytes.ofAscii "Content-Type")) = "content-type" := by
    decide
  have hne : Bytes.ofAscii "Content-Type" ≠ [] := by decide
  have hvalue : ∀ b ∈ Bytes.ofAscii "application/octet-stream", isValueByte b = true :=
    forall_mem_of_all (by decide)
  have hstart : (Bytes.ofAscii "application/octet-stream").head? = some 0x61 := by decide
  have hfinish : (Bytes.ofAscii "application/octet-stream").getLast? = some 0x6D := by decide
  have hline := headerLine?_eq rest hne (by decide) (forall_mem_of_all (by decide)) hvalue hstart
    hfinish rfl rfl
  rw [hlower] at hline
  rw [hname, ← hline]
  simp only [List.append_assoc, List.cons_append]

/-- The header of a field is read as it was written. -/
theorem parseHeader?_header (h : f.IsWritable) :
    parseHeader? (f.header ++ crlf ++ crlf) =
      some (⟨"content-disposition", f.disposition⟩ ::
        if f.fileName.isSome then [⟨"content-type", Bytes.ofAscii "application/octet-stream"⟩]
        else []) := by
  have hfirst (rest : Bytes) : headerLines? 32
      (Bytes.ofAscii "Content-Disposition: " ++ f.disposition ++ crlf ++ rest) =
        (headerLines? 31 rest).map (⟨"content-disposition", f.disposition⟩ :: ·) := by
    refine headerLines?_of_headerLine? 31 ?_ (headerLine?_disposition h rest)
    rw [List.append_assoc, List.append_assoc]
    rfl
  have hsecond : headerLines? 31
      (Bytes.ofAscii "Content-Type: application/octet-stream" ++ crlf ++ crlf) =
        some [⟨"content-type", Bytes.ofAscii "application/octet-stream"⟩] := by
    rw [headerLines?_of_headerLine? 30 (by decide) (headerLine?_contentType crlf),
      headerLines?_end]
    rfl
  rw [parseHeader?, maxHeaderLines, header]
  by_cases hfile : f.fileName.isSome
  · rw [if_pos hfile, if_pos hfile, ← List.append_assoc, List.append_assoc _ crlf crlf,
      List.append_assoc _ _ (crlf ++ crlf), ← List.append_assoc _ crlf crlf, hfirst, hsecond]
    rfl
  · rw [if_neg hfile, if_neg hfile, List.append_nil, hfirst, headerLines?_end]
    rfl

/-- The file name that counts is that of the line that names the field. -/
theorem headerEnd_header (h : f.IsWritable) (rest : Bytes)
    (hcut : Bytes.cut? (crlf ++ crlf) (f.header ++ crlf ++ crlf ++ rest) = some (f.header, rest)) :
    headerEnd (f.header ++ crlf ++ crlf ++ rest) = .header f.foundName? rest := by
  have hall : Headers.all (⟨"content-disposition", f.disposition⟩ ::
      if f.fileName.isSome then [⟨"content-type", Bytes.ofAscii "application/octet-stream"⟩]
      else []) "content-disposition" = [f.disposition] := by
    cases f.fileName <;> simp [Headers.all]
  rw [headerEnd, hcut]
  simp only [parseHeader?_header h, fileName?, hall]
  rfl

/-- A line break in front of another line does not start an empty line. -/
theorem cut?_break {c : UInt8} (hc : c ≠ 0x0D) (text : Bytes) :
    Bytes.cut? (crlf ++ crlf) (crlf ++ c :: text) =
      (Bytes.cut? (crlf ++ crlf) (c :: text)).map fun r => (crlf ++ r.1, r.2) := by
  change Bytes.cut? (crlf ++ crlf) (0x0D :: 0x0A :: c :: text) = _
  rw [Bytes.cut?_cons, if_neg (by simp [crlf, hc.symm]), Bytes.cut?_cons, if_neg (by simp [crlf])]
  cases Bytes.cut? (crlf ++ crlf) (c :: text) <;> rfl

/-- The header of a field ends at the first empty line. -/
theorem cut?_header (h : f.IsWritable) (rest : Bytes) :
    Bytes.cut? (crlf ++ crlf) (f.header ++ crlf ++ crlf ++ rest) = some (f.header, rest) := by
  have hline : 0x0D ∉ Bytes.ofAscii "Content-Disposition: " ++ f.disposition := by
    rw [List.mem_append]
    rintro (hmem | hmem)
    · exact absurd hmem (by decide)
    · exact h.notMem_disposition hmem
  rw [header]
  by_cases hfile : f.fileName.isSome
  · obtain ⟨tail, htail⟩ : ∃ tail,
        Bytes.ofAscii "Content-Type: application/octet-stream" = 0x43 :: tail :=
      ⟨(Bytes.ofAscii "Content-Type: application/octet-stream").tail, by decide⟩
    have hbreak : (0x0D : UInt8) ∉ 0x43 :: tail := by
      rw [← htail]
      decide
    have hsecond := cut?_line hbreak rest
    have hfirst : Bytes.cut? (crlf ++ crlf) (Bytes.ofAscii "Content-Disposition: " ++
        f.disposition ++ (crlf ++ (0x43 :: tail ++ crlf ++ crlf ++ rest))) = _ :=
      Bytes.cut?_append_of_notMem [0x0A, 0x0D, 0x0A] _ hline
    have hempty : ([0x0D, 0x0A, 0x0D, 0x0A] : Bytes) = crlf ++ crlf := rfl
    have hskip := cut?_break (c := 0x43) (by decide) (tail ++ crlf ++ crlf ++ rest)
    simp only [List.cons_append] at hsecond hfirst hskip
    rw [hempty, hskip, hsecond] at hfirst
    rw [if_pos hfile, htail]
    simpa only [List.append_assoc, List.cons_append, Option.map_some] using hfirst
  · rw [if_neg hfile, List.append_nil]
    exact cut?_line hline rest

/-! ### The name that is found -/

/-- The constant text before the name of a field, without its last quote. -/
def nameAttribute : Bytes := Bytes.ofAscii "form-data; name="

theorem disposition_eq (f : FormField) :
    f.disposition =
      nameAttribute ++ 0x22 :: f.name ++ 0x22 :: (f.fileName.map fileAttribute).getD [] := by
  have hstart : Bytes.ofAscii "form-data; name=\"" = nameAttribute ++ [0x22] := by decide
  rw [disposition, hstart, List.append_assoc nameAttribute [0x22], List.singleton_append]

/-- What stands before the closing quote of a field name is passed unless the name misleads. -/
theorem passes_name (h : f.IsWritable) (hname : ¬Misleads f.name) :
    Passes (nameAttribute ++ 0x22 :: f.name) := by
  have hinfix {pattern : Bytes} (hquote : 0x22 ∉ pattern) (hstart : ¬pattern <:+: nameAttribute)
      (hp : ¬pattern <:+: f.name) : ¬pattern <:+: nameAttribute ++ 0x22 :: f.name := by
    rw [Bytes.infix_append_cons_iff hquote]
    exact not_or.mpr ⟨hstart, hp⟩
  refine ⟨?_, ?_, fun b hb => ?_⟩
  · rw [Bytes.prefix_append_cons_iff (by decide)]
    decide
  · rintro (hi | hi | hi)
    · exact hinfix (by decide) (by decide) (fun hmem => hname (.inl hmem)) hi
    · exact hinfix (by decide) (by decide) (fun hmem => hname (.inr (.inl hmem))) hi
    · exact hinfix (by decide) (by decide) (fun hmem => hname (.inr (.inr hmem))) hi
  · rcases List.mem_append.mp hb with hb | hb
    · have hstart : ∀ b ∈ nameAttribute, 0x20 ≤ b := forall_mem_of_all (by decide)
      exact hstart b hb
    · rcases List.mem_cons.mp hb with rfl | hb
      · decide
      · exact (h.name b hb).1

/-- The attribute that names a file follows a space. -/
theorem cut?_fileAttribute (fileName : String) :
    Bytes.cut? word (fileAttribute fileName) =
      some ([0x3B, 0x20], 0x3D :: 0x22 :: (Utf8.ofString fileName ++ [0x22])) := by
  have hstart : Bytes.ofAscii "; filename=\"" = [0x3B, 0x20] ++ (word ++ [0x3D, 0x22]) := by decide
  have hfirst : (0x66 : UInt8) ∉ ([0x3B, 0x20] : Bytes) := by decide
  have hcut := Bytes.cut?_of_notMem [0x69, 0x6C, 0x65, 0x6E, 0x61, 0x6D, 0x65]
    (0x3D :: 0x22 :: (Utf8.ofString fileName ++ [0x22])) hfirst
  rw [fileAttribute, hstart]
  simpa [word] using hcut

/-- The value of the attribute that names a file. -/
theorem attributeValue?_fileName {n : String}
    (hn : ∀ c ∈ n.toList, 0x20 ≤ c.toNat ∧ c.toNat ≠ 0x7F ∧ c ≠ '"') :
    (attributeValue? (0x3D :: 0x22 :: (Utf8.ofString n ++ [0x22]))).bind Utf8.toString? =
      if EndsInBackslash n then none else some n := by
  have hquote : 0x22 ∉ Utf8.ofString n := fun hmem => (isNameByte_ofString hn _ hmem).2.2 rfl
  have hlast : (Utf8.ofString n).getLast? = some 0x5C ↔ EndsInBackslash n :=
    Utf8.getLast?_ofString (by decide)
  rw [attributeValue?_quoted hquote]
  by_cases h : EndsInBackslash n
  · rw [if_pos (hlast.mpr h), if_pos h, Option.bind_none]
  · rw [if_neg (mt hlast.mp h), if_neg h, Option.bind_some, Utf8.toString?_ofString]

/-- The name that is found in the header of a field whose own name does not mislead. -/
theorem foundName?_of_not_misleads (h : f.IsWritable) (hname : ¬Misleads f.name) :
    f.foundName? = f.fileName.filter fun n => !decide (EndsInBackslash n) && !n.isEmpty := by
  have hlength : (nameAttribute ++ 0x22 :: f.name).length < f.disposition.length + 1 := by
    simp only [disposition_eq, List.length_append, List.length_cons]
    omega
  have hbefore : ∀ before after,
      Bytes.cut? word ((f.fileName.map fileAttribute).getD []) = some (before, after) →
        before.getLast? = some 0x20 := by
    intro before after hcut
    cases hfile : f.fileName with
    | none =>
      rw [hfile] at hcut
      cases hcut
    | some n =>
      rw [hfile, Option.map_some, Option.getD_some, cut?_fileAttribute] at hcut
      cases hcut
      rfl
  have hsearch := attributeFrom_of_passes (passes_name h hname) hbefore hlength
  rw [← disposition_eq] at hsearch
  rw [foundName?, attribute?_filename, hsearch]
  cases hfile : f.fileName with
  | none => rfl
  | some n =>
    rw [Option.map_some, Option.getD_some, cut?_fileAttribute, Option.bind_some,
      attributeValue?_fileName (h.fileName n hfile)]
    by_cases hlast : EndsInBackslash n <;> simp [hlast, Option.filter_some]

/-- The file that was meant is found, unless its name ends in a backslash. -/
theorem found?_eq_meant?_iff_of_not_misleads (h : f.IsWritable) (hname : ¬Misleads f.name) :
    f.found? = f.meant? ↔ ∀ n ∈ f.fileName, ¬EndsInBackslash n := by
  rw [found?, meant?, foundName?_of_not_misleads h hname]
  cases f.fileName with
  | none => simp
  | some n =>
    by_cases hlast : EndsInBackslash n
    · have hne : n ≠ "" := by
        rintro rfl
        cases hlast
      simp [hlast, hne, Option.filter_some]
    · simp [hlast, Option.filter_some]

/-- Nothing is found in the header of a field whose name misleads the search without giving it a
value. -/
theorem found?_of_misleads (hname : Misleads f.name) (hvalue : ¬Assigns f.name) :
    f.found? = none := by
  have hmisleads : Misleads (nameAttribute ++ 0x22 :: f.name) :=
    hname.mono ((List.suffix_cons 0x22 f.name).trans (List.suffix_append _ _)).isInfix
  have hassigns : ¬Assigns (nameAttribute ++ 0x22 :: f.name) := by
    rintro ⟨blanks, hblanks, hi⟩
    have hquote : 0x22 ∉ word ++ blanks ++ [0x3D] := by
      intro hmem
      rcases List.mem_append.mp hmem with hmem | hmem
      · rcases List.mem_append.mp hmem with hmem | hmem
        · exact absurd hmem (by decide)
        · exact absurd (hblanks _ hmem) (by decide)
      · exact absurd hmem (by decide)
    rcases (Bytes.infix_append_cons_iff hquote _ _).mp hi with hi | hi
    · have hno : ¬word <:+: nameAttribute := by decide
      have hstart : word <+: word ++ blanks ++ [0x3D] := by
        rw [List.append_assoc]
        exact List.prefix_append _ _
      exact hno (hstart.isInfix.trans hi)
    · exact hvalue ⟨blanks, hblanks, hi⟩
  rw [found?, foundName?, attribute?_filename, disposition_eq,
    attributeFrom_of_misleads (.inr hmisleads) hassigns]
  rfl

/-- No file or the one that was meant is found. -/
theorem found?_eq_none_or (h : f.IsWritable) (htame : f.IsTame) :
    f.found? = none ∨ f.found? = f.meant? := by
  by_cases hname : Misleads f.name
  · exact .inl (found?_of_misleads hname (htame hname))
  · rw [found?, meant?, foundName?_of_not_misleads h hname]
    cases f.fileName with
    | none => exact .inl rfl
    | some n =>
      by_cases hlast : EndsInBackslash n
      · exact .inl (by simp [hlast, Option.filter_some])
      · exact .inr (by simp [hlast, Option.filter_some])

/-- When the file is found that was meant. -/
theorem found?_eq_meant?_iff (h : f.IsWritable) (htame : f.IsTame) :
    f.found? = f.meant? ↔ f.IsFindable := by
  by_cases hname : Misleads f.name
  · rw [found?_of_misleads hname (htame hname), IsFindable, eq_comm]
    simp only [hname, not_true_eq_false, false_and, or_false]
  · rw [found?_eq_meant?_iff_of_not_misleads h hname, IsFindable]
    simp only [hname, not_false_eq_true, true_and]
    refine ⟨.inr, ?_⟩
    rintro (hnone | hlast)
    · rw [meant?, Option.map_eq_none_iff, Option.filter_eq_none_iff] at hnone
      intro n hn hlast
      have hempty : n = "" := by simpa using hnone n hn
      rw [hempty] at hlast
      cases hlast
    · exact hlast

/-- A name that is found has no line breaks. -/
theorem notMem_foundName? (h : f.IsWritable) {n : String} (hn : f.foundName? = some n) :
    '\r' ∉ n.toList := by
  obtain ⟨bytes, hbytes, htext⟩ := Option.bind_eq_some_iff.mp (Option.filter_eq_some_iff.mp hn).1
  have hspelled := Utf8.ofString_of_toString? htext
  have hbreak : (0x0D : UInt8) ∉ Utf8.ofString n := by
    rw [hspelled]
    exact fun hmem => h.notMem_disposition (mem_of_attribute? hbytes _ hmem)
  exact fun hmem => hbreak ((Utf8.mem_ofString (by decide)).mpr hmem)

/-! ### The files that are found -/

/-- What is found behind the first delimiter of a form. -/
theorem scanParts_assembleFrom {boundary : Bytes} (hboundary : 0x0D ∉ boundary)
    {fields : List FormField} (h : ∀ f ∈ fields, f.IsWritable)
    (hdata : ∀ f ∈ fields, ¬(crlf ++ delimiter boundary) <:+: f.data) (files : List FilePart)
    {fuel : Nat} (hfuel : fields.length < fuel) :
    scanParts boundary fuel files (assembleFrom boundary (fields.map toSection)) =
      .done (files.reverse ++ fields.filterMap found?) := by
  induction fields generalizing files fuel with
  | nil =>
    obtain ⟨fuel, rfl⟩ : ∃ n, fuel = n + 1 := ⟨fuel - 1, by omega⟩
    rw [List.filterMap_nil, List.append_nil]
    rfl
  | cons f fields ih =>
    obtain ⟨fuel, rfl⟩ : ∃ n, fuel = n + 1 := ⟨fuel - 1, by omega⟩
    have hf := h f List.mem_cons_self
    have hfuel' : fields.length < fuel := by
      rw [List.length_cons] at hfuel
      omega
    have hrest (files : List FilePart) :=
      ih (fun g hg => h g (List.mem_cons_of_mem f hg))
        (fun g hg => hdata g (List.mem_cons_of_mem f hg)) files hfuel'
    have htext : assembleFrom boundary ((f :: fields).map toSection) =
        0x0D :: 0x0A :: (f.header ++ crlf ++ crlf ++ (f.data ++ crlf ++ delimiter boundary ++
          assembleFrom boundary (fields.map toSection))) := by
      simp only [List.map_cons, assembleFrom, toSection, List.append_assoc]
      rfl
    have hline (bs : Bytes) : lineEnd (0x0D :: 0x0A :: bs) = .part bs := rfl
    have hheader := headerEnd_header hf _ (cut?_header hf (f.data ++ crlf ++ delimiter boundary ++
      assembleFrom boundary (fields.map toSection)))
    have hcontent := cut?_content hboundary (hdata f List.mem_cons_self)
      (assembleFrom boundary (fields.map toSection))
    rw [htext, scanParts, hline]
    simp only [hheader, hcontent]
    cases hname : f.foundName? with
    | none =>
      have hfound : f.found? = none := by rw [found?, hname, Option.map_none]
      simp only [hrest, List.filterMap_cons_none hfound]
    | some n =>
      have hfound : f.found? = some ⟨n, f.data⟩ := by rw [found?, hname, Option.map_some]
      simp only [hrest, List.filterMap_cons_some hfound, List.reverse_cons, List.append_assoc,
        List.singleton_append]

/-- What is found in the body of a form. -/
theorem scan_encode {boundary : Bytes} (hboundary : 0x0D ∉ boundary) {fields : List FormField}
    (h : ∀ f ∈ fields, f.IsWritable)
    (hdata : ∀ f ∈ fields, ¬(crlf ++ delimiter boundary) <:+: f.data) :
    scan boundary (encode boundary fields) = .done (fields.filterMap found?) := by
  have hlength := length_assembleFrom boundary (fields.map toSection)
  rw [List.length_map] at hlength
  rw [scan, encode, assemble, Bytes.cut?_append_self]
  exact scanParts_assembleFrom hboundary h hdata [] (by omega)

/-- Files may be lost, but none is found that was not meant, and their order is kept. -/
theorem filterMap_found?_sublist {fields : List FormField} (h : ∀ f ∈ fields, f.IsWritable)
    (htame : ∀ f ∈ fields, f.IsTame) :
    (fields.filterMap found?).Sublist (fields.filterMap meant?) := by
  induction fields with
  | nil => exact List.Sublist.refl []
  | cons f fields ih =>
    have hrest := ih (fun g hg => h g (List.mem_cons_of_mem f hg))
      (fun g hg => htame g (List.mem_cons_of_mem f hg))
    rw [List.filterMap_cons, List.filterMap_cons]
    rcases found?_eq_none_or (h f List.mem_cons_self) (htame f List.mem_cons_self) with
      hnone | hsame
    · rw [hnone]
      cases f.meant? with
      | none => exact hrest
      | some file => exact hrest.cons file
    · rw [hsame]
      cases f.meant? with
      | none => exact hrest
      | some file => exact hrest.cons_cons file

/-- When the files are found that were meant: a lost file is not made up for by another one. -/
theorem filterMap_found?_eq_iff {fields : List FormField} (h : ∀ f ∈ fields, f.IsWritable)
    (htame : ∀ f ∈ fields, f.IsTame) :
    fields.filterMap found? = fields.filterMap meant? ↔ ∀ f ∈ fields, f.IsFindable := by
  induction fields with
  | nil => simp
  | cons f fields ih =>
    have hf := h f List.mem_cons_self
    have htame' := htame f List.mem_cons_self
    have hrest (g : FormField) (hg : g ∈ fields) := h g (List.mem_cons_of_mem f hg)
    have hrest' (g : FormField) (hg : g ∈ fields) := htame g (List.mem_cons_of_mem f hg)
    rw [List.forall_mem_cons, ← ih hrest hrest', ← found?_eq_meant?_iff hf htame']
    refine ⟨fun heq => ?_, fun ⟨hsame, heq⟩ => by
      rw [List.filterMap_cons, List.filterMap_cons, hsame, heq]⟩
    rw [List.filterMap_cons, List.filterMap_cons] at heq
    rcases found?_eq_none_or hf htame' with hnone | hsame
    · rw [hnone] at heq ⊢
      cases hmeant : f.meant? with
      | none =>
        rw [hmeant] at heq
        exact ⟨rfl, heq⟩
      | some file =>
        rw [hmeant] at heq
        have hlength := (filterMap_found?_sublist hrest hrest').length_le
        have hlost := congrArg List.length heq
        simp only [List.length_cons] at hlost
        omega
    · rw [hsame] at heq
      refine ⟨hsame, ?_⟩
      cases hmeant : f.meant? with
      | none => simpa only [hmeant] using heq
      | some file => simpa only [hmeant, List.cons.injEq, true_and] using heq

end FormField

end StorageGateway
