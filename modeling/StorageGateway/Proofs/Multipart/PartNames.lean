import StorageGateway.Proofs.Http.Parameters
import StorageGateway.Proofs.Multipart.Parts
import StorageGateway.Proofs.Text.Percent

/-!
# Names in the parts that are sent on

The header line of a part holds the name of its file twice, as the name of the field and as that of
the file. The file name is written with a backslash before each backslash and quote, so that a
recipient who reads the line by the grammar of parameters finds it as it is. The field name is
written as it is: it is found as it is when it holds neither quotes nor backslashes, and never
otherwise.

## Main definitions

* `Multipart.dispositionValue`: the value of the header line.

## Main results

* `Multipart.quoted?_escapeName`: the file name is read back.
* `Multipart.read?_dispositionValue`, `Multipart.read?_dispositionValue_iff`: the parameters of the
  line.
* `Multipart.sent_names_read_back`: the names of an upload.
-/

namespace StorageGateway.Multipart

open ContentDisposition

/-- What stands behind the field name. -/
def fileParameter (name : String) : Bytes :=
  Bytes.ofAscii "; filename=\"" ++ Utf8.ofString (escapeName name) ++ [0x22]

/-- The value of the header line of a file's part. -/
def dispositionValue (name : String) : Bytes :=
  Bytes.ofAscii "form-data; name=\"" ++ Utf8.ofString name ++ 0x22 :: fileParameter name

/-- The header line consists of its name and its value. -/
theorem ofString_disposition (name : String) : Utf8.ofString (disposition name) =
    Bytes.ofAscii "Content-Disposition: " ++ dispositionValue name := by
  have hline : disposition name = "Content-Disposition: form-data; name=\"" ++ name ++
      "\"; filename=\"" ++ escapeName name ++ "\"" := rfl
  have hparts (start middle finish : String) :
      Utf8.ofString (start ++ name ++ middle ++ escapeName name ++ finish) =
        Utf8.ofString start ++ (Utf8.ofString name ++ (Utf8.ofString middle ++
          (Utf8.ofString (escapeName name) ++ Utf8.ofString finish))) := by
    simp only [Utf8.ofString_append, List.append_assoc]
  have hstart : Utf8.ofString "Content-Disposition: form-data; name=\"" =
      Bytes.ofAscii "Content-Disposition: " ++ Bytes.ofAscii "form-data; name=\"" := by
    decide +kernel
  have hmiddle : Utf8.ofString "\"; filename=\"" = 0x22 :: Bytes.ofAscii "; filename=\"" := by
    decide
  have hquote : Utf8.ofString "\"" = [0x22] := by decide
  rw [hline, hparts, hstart, hmiddle, hquote, dispositionValue, fileParameter]
  simp only [List.append_assoc, List.cons_append]

/-! ### The file name -/

/-- The file name is read back, whatever stands behind it. -/
theorem quoted?_escapeName (name : String) (rest : Bytes) :
    quoted? (Utf8.ofString (escapeName name) ++ 0x22 :: rest) =
      some (Utf8.ofString name, rest) := by
  rw [Utf8.ofString, Utf8.ofString, FilePart.toList_escapeName]
  induction name.toList with
  | nil => exact quoted?_quote rest
  | cons c cs ih =>
    have hchar (d : Char) : Utf8.encode [d] = Utf8.encodeChar d := List.flatMap_singleton _ _
    rw [List.flatMap_cons, Utf8.encode_append, List.append_assoc, Utf8.encode_cons]
    split
    · next hmark =>
      have hbyte : Utf8.encode ['\\', c] = [0x5C, UInt8.ofNat c.toNat] ∧
          Utf8.encodeChar c = [UInt8.ofNat c.toNat] := by
        rcases hmark with rfl | rfl | rfl | rfl <;> decide
      rw [hbyte.1, hbyte.2, List.cons_append, List.singleton_append, quoted?_escape, ih]
      rfl
    · next hmark =>
      obtain ⟨hescape, hquote, -⟩ := by simpa only [not_or] using hmark
      have hplain : ∀ b ∈ Utf8.ofString (String.ofList [c]), IsPlain b :=
        isPlain_ofString_iff.mpr (by simp [Ne.symm hescape, Ne.symm hquote])
      rw [Utf8.ofString, String.toList_ofList, hchar] at hplain
      rw [hchar, quoted?_append hplain, ih, Option.map_some]

/-! ### The header line -/

variable {name : String}

/-- Behind the field name stands the file name, and nothing behind that. -/
theorem parametersFrom?_fileParameter (name : String) (fuel : Nat) :
    parametersFrom? (fuel + 2) (fileParameter name) =
      some [(Bytes.ofAscii "filename", Utf8.ofString name)] := by
  have hstart : Bytes.ofAscii "; filename=\"" =
      0x3B :: 0x20 :: (Bytes.ofAscii "filename" ++ [0x3D, 0x22]) := by decide
  have hsplit : fileParameter name = 0x3B :: 0x20 :: (Bytes.ofAscii "filename" ++
      0x3D :: 0x22 :: (Utf8.ofString (escapeName name) ++ [0x22])) := by
    rw [fileParameter, hstart]
    simp only [List.append_assoc, List.cons_append, List.nil_append]
  have hname : ∀ b ∈ Bytes.ofAscii "filename", Ascii.isTokenChar b = true :=
    forall_mem_of_all (by decide)
  rw [hsplit, parametersFrom?_quoted (by decide) hname, quoted?_escapeName, Option.bind_some]
  rfl

/-- The first parameter of the line is the field name, as it reads between quotes. -/
theorem exists_read?_dispositionValue (name : String) :
    ∃ fuel, read? (dispositionValue name) =
      (quoted? (Utf8.ofString name ++ 0x22 :: fileParameter name)).bind fun r =>
        (parametersFrom? (fuel + 2) r.2).map fun parameters =>
          ⟨Bytes.ofAscii "form-data", (Bytes.ofAscii "name", r.1) :: parameters⟩ := by
  have hstart : Bytes.ofAscii "form-data; name=\"" = Bytes.ofAscii "form-data" ++
      0x3B :: 0x20 :: (Bytes.ofAscii "name" ++ [0x3D, 0x22]) := by decide
  have hsplit : dispositionValue name = Bytes.ofAscii "form-data" ++ 0x3B :: 0x20 ::
      (Bytes.ofAscii "name" ++
        0x3D :: 0x22 :: (Utf8.ofString name ++ 0x22 :: fileParameter name)) := by
    rw [dispositionValue, hstart]
    simp only [List.append_assoc, List.cons_append, List.nil_append]
  have htype : ∀ b ∈ Bytes.ofAscii "form-data", Ascii.isTokenChar b = true :=
    forall_mem_of_all (by decide)
  have hname : ∀ b ∈ Bytes.ofAscii "name", Ascii.isTokenChar b = true :=
    forall_mem_of_all (by decide)
  refine ⟨(Bytes.ofAscii "name" ++
    0x3D :: 0x22 :: (Utf8.ofString name ++ 0x22 :: fileParameter name)).length, ?_⟩
  rw [hsplit, read?_append (by decide) htype (fun b hb => by cases hb; rfl),
    parametersFrom?_quoted (by decide) hname, Option.map_bind]
  refine congrArg _ (funext fun r => ?_)
  rw [Function.comp_apply, Option.map_map]
  rfl

/-- The parameters of the line are the field name as it reads between quotes, if it does, and the
file name. -/
theorem read?_dispositionValue {field : Bytes}
    (h : quoted? (Utf8.ofString name ++ [0x22]) = some (field, [])) :
    read? (dispositionValue name) = some ⟨Bytes.ofAscii "form-data",
      [(Bytes.ofAscii "name", field), (Bytes.ofAscii "filename", Utf8.ofString name)]⟩ := by
  obtain ⟨fuel, hread⟩ := exists_read?_dispositionValue name
  have hfield := quoted?_append_right (fileParameter name) h
  rw [List.append_assoc, List.singleton_append, List.nil_append] at hfield
  rw [hread, hfield, Option.bind_some, parametersFrom?_fileParameter, Option.map_some]

/-- Both parameters of the line are the name just when it holds neither quotes nor backslashes. -/
theorem read?_dispositionValue_iff (name : String) :
    read? (dispositionValue name) = some ⟨Bytes.ofAscii "form-data",
        [(Bytes.ofAscii "name", Utf8.ofString name),
          (Bytes.ofAscii "filename", Utf8.ofString name)]⟩ ↔
      '"' ∉ name.toList ∧ '\\' ∉ name.toList := by
  rw [← isPlain_ofString_iff]
  constructor
  · intro h
    obtain ⟨fuel, hread⟩ := exists_read?_dispositionValue name
    obtain ⟨⟨field, rest⟩, hfield, h⟩ := Option.bind_eq_some_iff.mp (hread.symm.trans h)
    obtain ⟨parameters, -, heq⟩ := Option.map_eq_some_iff.mp h
    simp only [ContentDisposition.mk.injEq, List.cons.injEq, Prod.mk.injEq] at heq
    rw [heq.2.1.2] at hfield
    exact (plain_of_quoted?_replicate (k := 0) hfield).2
  · exact fun h => read?_dispositionValue (quoted?_verbatim_iff.mpr h)

/-! ### The names of an upload -/

/-- The escaped name holds no bytes but those of the name and backslashes. -/
theorem mem_escapeName {b : UInt8} (h : b ∈ Utf8.ofString (escapeName name)) :
    b = 0x5C ∨ b ∈ Utf8.ofString name := by
  rw [Utf8.ofString, FilePart.toList_escapeName, Utf8.encode, List.mem_flatMap] at h
  obtain ⟨d, hd, hb⟩ := h
  obtain ⟨c, hc, hd⟩ := List.mem_flatMap.mp hd
  have hcases : d = '\\' ∨ d = c := by
    split at hd <;> simp only [List.mem_cons, List.not_mem_nil, or_false] at hd
    · exact hd
    · exact .inr hd
  rcases hcases with rfl | rfl
  · have hescape : Utf8.encodeChar '\\' = [0x5C] := by decide
    rw [hescape] at hb
    exact .inl (List.mem_singleton.mp hb)
  · exact .inr (List.mem_flatMap.mpr ⟨d, hc, hb⟩)

/-- The header line of a name without control characters holds none either; tabs are allowed. -/
theorem isValueByte_dispositionValue (h : ∀ b ∈ Utf8.ofString name, isValueByte b = true) :
    ∀ b ∈ dispositionValue name, isValueByte b = true := by
  have hstart : ∀ b ∈ Bytes.ofAscii "form-data; name=\"", isValueByte b = true :=
    forall_mem_of_all (by decide)
  have hmiddle : ∀ b ∈ Bytes.ofAscii "; filename=\"", isValueByte b = true :=
    forall_mem_of_all (by decide)
  intro b hb
  simp only [dispositionValue, fileParameter, List.mem_append, List.mem_cons, List.not_mem_nil,
    or_false] at hb
  rcases hb with (hb | hb) | rfl | (hb | hb) | rfl
  · exact hstart b hb
  · exact h b hb
  · decide
  · exact hmiddle b hb
  · rcases mem_escapeName hb with rfl | hb
    · decide
    · exact h b hb
  · decide

/-- Each file of an upload has a name, and the header line that it is sent on with holds no control
characters but tabs. The file name of the line is the name of the file; the field name is what that
name reads as between quotes. So both are the name just when it holds neither quotes nor
backslashes. -/
theorem sent_names_read_back {headers : Headers} {limit : Nat} {body : BodyStream}
    {files : List FilePart} (h : read headers limit body = .ok files) :
    ∀ file ∈ files, file.name ≠ "" ∧ ∃ value,
      (∀ boundary, writePart boundary file = delimiter boundary ++ crlf ++
        (Bytes.ofAscii "Content-Disposition: " ++ value) ++ crlf ++ crlf ++ file.data ++ crlf) ∧
      (∀ b ∈ value, isValueByte b = true) ∧
      (read? value = some ⟨Bytes.ofAscii "form-data",
          [(Bytes.ofAscii "name", Utf8.ofString file.name),
            (Bytes.ofAscii "filename", Utf8.ofString file.name)]⟩ ↔
        '"' ∉ file.name.toList ∧ '\\' ∉ file.name.toList) ∧
      (∀ field, quoted? (Utf8.ofString file.name ++ [0x22]) = some (field, []) →
        read? value = some ⟨Bytes.ofAscii "form-data",
          [(Bytes.ofAscii "name", field),
            (Bytes.ofAscii "filename", Utf8.ofString file.name)]⟩) ∧
      ∃ before after, value = before ++ Bytes.ofAscii "; filename=\"" ++ after ∧
        quoted? after = some (Utf8.ofString file.name, []) := by
  intro file hfile
  obtain ⟨boundary, sections, -, -, -, rfl⟩ := exists_sections_of_read h
  obtain ⟨s, -, hs⟩ := List.mem_filterMap.mp hfile
  obtain ⟨hne, hbytes⟩ := s.name_of_file? hs
  refine ⟨hne, dispositionValue file.name, fun boundary => ?_, isValueByte_dispositionValue hbytes,
    read?_dispositionValue_iff file.name, fun field => read?_dispositionValue,
    Bytes.ofAscii "form-data; name=\"" ++ Utf8.ofString file.name ++ [0x22],
    Utf8.ofString (escapeName file.name) ++ [0x22], ?_, quoted?_escapeName file.name []⟩
  · rw [writePart, ofString_disposition]
  · simp only [dispositionValue, fileParameter, List.append_assoc, List.cons_append,
      List.nil_append]

/-- A name with a space is found twice. -/
theorem sent_names_read_back_report :
    let headers : Headers := [.ofText "content-type" "multipart/form-data; boundary=B"]
    let body : Bytes := Bytes.ofAscii
      "--B\r\nContent-Disposition: form-data; filename=\"my report.txt\"\r\n\r\nx\r\n--B--"
    let file : FilePart := ⟨"my report.txt", [0x78]⟩
    read headers 0 ⟨[.data body], []⟩ = .ok [file] ∧ ∃ value,
      writePart (Bytes.ofAscii "S") file = delimiter (Bytes.ofAscii "S") ++ crlf ++
        (Bytes.ofAscii "Content-Disposition: " ++ value) ++ crlf ++ crlf ++ [0x78] ++ crlf ∧
      read? value = some ⟨Bytes.ofAscii "form-data",
        [(Bytes.ofAscii "name", Bytes.ofAscii "my report.txt"),
          (Bytes.ofAscii "filename", Bytes.ofAscii "my report.txt")]⟩ := by
  intro headers body file
  have hread : read headers 0 ⟨[.data body], []⟩ = .ok [file] := by decide +kernel
  have hname : Utf8.ofString file.name = Bytes.ofAscii "my report.txt" := by decide
  obtain ⟨-, value, hwrite, -, hboth, -⟩ := sent_names_read_back hread file List.mem_cons_self
  rw [hname] at hboth
  exact ⟨hread, value, hwrite _, hboth.mpr (by decide)⟩

/-- A field name is written as it is: a backslash is lost to the recipient, and a quote can even
end the name and start a further parameter. -/
theorem field_names_are_verbatim :
    let headers : Headers := [.ofText "content-type" "multipart/form-data; boundary=B"]
    let body (name : String) : Bytes :=
      Bytes.ofAscii "--B\r\nContent-Disposition: form-data; filename=\"" ++
        Bytes.ofAscii name ++ Bytes.ofAscii "\"\r\n\r\nx\r\n--B--"
    (read headers 0 ⟨[.data (body "a\\b")], []⟩ = .ok [⟨"a\\b", [0x78]⟩] ∧
      Utf8.ofString (disposition "a\\b") =
        Bytes.ofAscii "Content-Disposition: " ++ dispositionValue "a\\b" ∧
      read? (dispositionValue "a\\b") = some ⟨Bytes.ofAscii "form-data",
        [(Bytes.ofAscii "name", Bytes.ofAscii "ab"),
          (Bytes.ofAscii "filename", Bytes.ofAscii "a\\b")]⟩) ∧
    read headers 0 ⟨[.data (body "x\\\"; filename=\\\"y")], []⟩ =
        .ok [⟨"x\"; filename=\"y", [0x78]⟩] ∧
      Utf8.ofString (disposition "x\"; filename=\"y") =
        Bytes.ofAscii "Content-Disposition: " ++ dispositionValue "x\"; filename=\"y" ∧
      read? (dispositionValue "x\"; filename=\"y") = some ⟨Bytes.ofAscii "form-data",
        [(Bytes.ofAscii "name", Bytes.ofAscii "x"), (Bytes.ofAscii "filename", Bytes.ofAscii "y"),
          (Bytes.ofAscii "filename", Bytes.ofAscii "x\"; filename=\"y")]⟩ := by
  intro headers body
  refine ⟨⟨by decide +kernel, ofString_disposition _, by decide +kernel⟩, by decide +kernel,
    ofString_disposition _, by decide +kernel⟩

end StorageGateway.Multipart
