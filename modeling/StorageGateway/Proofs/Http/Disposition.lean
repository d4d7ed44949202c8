import StorageGateway.Http.Disposition
import StorageGateway.Proofs.Http.Parameters
import StorageGateway.Proofs.Text.Percent

/-!
# File names in a header

A name is suggested in printing ASCII characters and spaces alone, whatever characters it has
itself. So the suggestion can always be written, and no name keeps a file from being downloaded. A
recipient finds a plain text in quotes, with one character for each character of the name, and the
encoded form of the name behind it where the plain text is not the name itself. The encoded form,
or the plain text where there is none, tells the name.

## Main definitions

* `Header.IsPrinting`: the characters that may always be written.
* `Disposition.suggested?`: the name that a recipient takes from a suggestion.

## Main results

* `Header.isWritable_ofString`: texts that can be written.
* `Disposition.header?_eq`: the suggestion of any name.
* `Disposition.read?_attachment`: the parameters of a suggestion.
* `Disposition.suggestion_tells_name`: every name is suggested and recovered.
-/

namespace StorageGateway

/-- The printing ASCII characters and the space. -/
def Header.IsPrinting (c : Char) : Prop := 0x20 ≤ c.toNat ∧ c.toNat ≤ 0x7E

instance (c : Char) : Decidable (Header.IsPrinting c) := inferInstanceAs (Decidable (_ ∧ _))

/-- A text of printing characters can be written. -/
theorem Header.isWritable_ofString {s : String} (h : ∀ c ∈ s.toList, IsPrinting c) :
    isWritable (Utf8.ofString s) = true := by
  have hascii : Utf8.IsAscii s.toList := fun c hc => Nat.lt_of_le_of_lt (h c hc).2 (by decide)
  rw [hascii.ofString_eq, isWritable, List.all_eq_true]
  intro b hb
  obtain ⟨c, hc, rfl⟩ := List.mem_map.mp hb
  obtain ⟨hlow, hhigh⟩ := h c hc
  have hbyte : (UInt8.ofNat c.toNat).toNat = c.toNat := Utf8.toNat_ofNat_of_lt (by omega)
  simp only [Bool.or_eq_true, Bool.and_eq_true, decide_eq_true_eq, bne_iff_ne, ne_eq,
    UInt8.le_iff_toNat_le, ← UInt8.toNat_inj, hbyte]
  refine .inr ⟨hlow, fun hdel => ?_⟩
  rw [hdel] at hhigh
  exact absurd hhigh (by decide)

namespace Disposition

theorem isPrinting_of_isPlain {c : Char} (h : isPlain c = true) : Header.IsPrinting c := by
  simp only [isPlain, Bool.and_eq_true, decide_eq_true_eq] at h
  exact ⟨h.1.1.1, h.1.1.2⟩

theorem isPrinting_fallback (name : String) :
    ∀ c ∈ (fallback name).toList, Header.IsPrinting c := by
  intro c hc
  rw [fallback, String.toList_ofList] at hc
  obtain ⟨d, -, rfl⟩ := List.mem_map.mp hc
  split
  · next hplain => exact isPrinting_of_isPlain hplain
  · decide

theorem isPrinting_encodeComponent (name : String) :
    ∀ c ∈ (Percent.encodeComponent name).toList, Header.IsPrinting c := by
  refine Percent.forall_mem_encodeString (fun b hb => ?_) (forall_mem_of_all (by decide)) name
  obtain ⟨hlow, hhigh⟩ := Percent.toNat_of_keptInComponent hb
  rw [Header.IsPrinting, Bytes.toNat_ofNat_toNat]
  omega

/-- A name is suggested in printing characters. -/
theorem isPrinting_attachment (name : String) :
    ∀ c ∈ (attachment name).toList, Header.IsPrinting c := by
  have hstart : ∀ c ∈ "attachment; filename=\"".toList, Header.IsPrinting c :=
    forall_mem_of_all (by decide)
  have hquote : ∀ c ∈ "\"".toList, Header.IsPrinting c := forall_mem_of_all (by decide)
  have hextended : ∀ c ∈ "\"; filename*=UTF-8''".toList, Header.IsPrinting c :=
    forall_mem_of_all (by decide)
  intro c hc
  rw [attachment] at hc
  split at hc
  · next hplain =>
    rw [String.toList_append, String.toList_append, List.mem_append, List.mem_append] at hc
    rcases hc with (hc | hc) | hc
    · exact hstart c hc
    · exact isPrinting_of_isPlain (List.all_eq_true.mp hplain c hc)
    · exact hquote c hc
  · rw [String.toList_append, String.toList_append, String.toList_append, List.mem_append,
      List.mem_append, List.mem_append] at hc
    rcases hc with ((hc | hc) | hc) | hc
    · exact hstart c hc
    · exact isPrinting_fallback name c hc
    · exact hextended c hc
    · exact isPrinting_encodeComponent name c hc

/-- The suggestion of any name can be written. -/
theorem header?_eq (name : String) : header? name = .ok (Utf8.ofString (attachment name)) := by
  rw [header?, if_pos (Header.isWritable_ofString (isPrinting_attachment name))]

/-! ### What a recipient finds -/

/-- The parameter that stands behind the quoted text, if any. -/
def extension (encoded : Option Bytes) : Bytes :=
  (encoded.map (Bytes.ofAscii "; filename*=UTF-8''" ++ ·)).getD []

/-- The text of an extended value in UTF-8. -/
def extended? (value : Bytes) : Option String :=
  let start := Bytes.ofAscii "UTF-8''"
  if start.isPrefixOf value then Utf8.toString? (Percent.decode (value.drop start.length)) else none

/-- The name that a recipient takes from a suggestion: that of `filename*`, or of `filename` where
there is no `filename*`. -/
def suggested? (value : Bytes) : Option String :=
  (ContentDisposition.read? value).bind fun d =>
    match d.parameter? (Bytes.ofAscii "filename*") with
    | some extended => extended? extended
    | none => (d.parameter? (Bytes.ofAscii "filename")).bind Utf8.toString?

/-- The encoded form of a name, for names that cannot stand in quotes as they are. -/
def encoded? (name : String) : Option Bytes :=
  if name.toList.all isPlain then none else some (Bytes.ofAscii (Percent.encodeComponent name))

theorem isPlain_iff {c : Char} :
    isPlain c = true ↔ Header.IsPrinting c ∧ c ≠ '"' ∧ c ≠ '\\' := by
  simp [isPlain, Header.IsPrinting, and_assoc]

/-- The encoded form is present when some character may not stand in quotes. -/
theorem isSome_encoded?_iff (name : String) : (encoded? name).isSome = true ↔
    ∃ c ∈ name.toList, ¬Header.IsPrinting c ∨ c = '"' ∨ c = '\\' := by
  have hnot (c : Char) : ¬isPlain c = true ↔ ¬Header.IsPrinting c ∨ c = '"' ∨ c = '\\' := by
    rw [isPlain_iff, not_and_or, not_and_or, not_ne_iff, not_ne_iff]
  rw [encoded?]
  split
  · next hall =>
    refine ⟨fun h => (nomatch h), fun ⟨c, hc, hbad⟩ => ?_⟩
    exact absurd (List.all_eq_true.mp hall c hc) ((hnot c).mpr hbad)
  · next hall =>
    simp only [Option.isSome_some, true_iff]
    simpa [List.all_eq_true, hnot] using hall

theorem isAscii_of_isPrinting {s : String} (h : ∀ c ∈ s.toList, Header.IsPrinting c) :
    Utf8.IsAscii s.toList := fun c hc => Nat.lt_of_le_of_lt (h c hc).2 (by decide)

/-- The quoted text has one byte for each character of the name. -/
theorem length_fallback (name : String) :
    (Utf8.ofString (fallback name)).length = name.toList.length := by
  rw [(isAscii_of_isPrinting (isPrinting_fallback name)).ofString_eq, Bytes.ofAscii,
    List.length_map, fallback, String.toList_ofList, List.length_map]

/-- The quoted text holds no quotes and no backslashes. -/
theorem isPlain_fallback (name : String) :
    ∀ b ∈ Utf8.ofString (fallback name), ContentDisposition.IsPlain b := by
  have hchar : ∀ c ∈ (fallback name).toList, c ≠ '"' ∧ c ≠ '\\' := by
    intro c hc
    rw [fallback, String.toList_ofList] at hc
    obtain ⟨d, -, rfl⟩ := List.mem_map.mp hc
    split
    · next hplain => exact (isPlain_iff.mp hplain).2
    · decide
  exact ContentDisposition.isPlain_ofString_iff.mpr
    ⟨fun hquote => (hchar _ hquote).1 rfl, fun hescape => (hchar _ hescape).2 rfl⟩

theorem fallback_of_all {name : String} (h : name.toList.all isPlain = true) :
    fallback name = name := by
  rw [← String.toList_inj, fallback, String.toList_ofList]
  refine (List.map_congr_left fun c hc => ?_).trans (List.map_id _)
  rw [if_pos (List.all_eq_true.mp h c hc), id]

/-- A suggestion consists of the quoted text and of the encoded form where it is needed. -/
theorem ofString_attachment (name : String) : Utf8.ofString (attachment name) =
    Bytes.ofAscii "attachment; filename=\"" ++ Utf8.ofString (fallback name) ++
      0x22 :: extension (encoded? name) := by
  have hstart : Utf8.ofString "attachment; filename=\"" =
      Bytes.ofAscii "attachment; filename=\"" := by decide
  have hquote : Utf8.ofString "\"" = [0x22] := by decide
  have hextended : Utf8.ofString "\"; filename*=UTF-8''" =
      0x22 :: Bytes.ofAscii "; filename*=UTF-8''" := by decide
  rw [attachment, encoded?]
  split
  · next hall =>
    rw [fallback_of_all hall, Utf8.ofString_append, Utf8.ofString_append, hstart, hquote]
    rfl
  · have hencoded := (isAscii_of_isPrinting (isPrinting_encodeComponent name)).ofString_eq
    rw [Utf8.ofString_append, Utf8.ofString_append, Utf8.ofString_append, hstart, hextended,
      hencoded, extension, Option.map_some, Option.getD_some, List.append_assoc _ (0x22 :: _),
      List.cons_append]

/-- The encoded form is a token, and reading it gives the name. -/
theorem extended?_encoded {name : String} {encoded : Bytes} (h : encoded? name = some encoded) :
    (∀ b ∈ encoded, Ascii.isTokenChar b = true) ∧
      extended? (Bytes.ofAscii "UTF-8''" ++ encoded) = some name := by
  rw [encoded?] at h
  split at h
  · cases h
  · cases h
    constructor
    · intro b hb
      obtain ⟨c, hc, rfl⟩ := List.mem_map.mp hb
      refine Percent.forall_mem_encodeString
        (p := fun c => Ascii.isTokenChar (UInt8.ofNat c.toNat) = true) (fun b hb => ?_)
        (forall_mem_of_all (by decide)) name c hc
      rw [Bytes.toNat_ofNat_toNat, UInt8.ofNat_toNat]
      simp only [Percent.keptInComponent, Bool.or_eq_true, beq_iff_eq] at hb
      rcases hb with (((hb | rfl) | rfl) | rfl) | rfl
      · rw [Ascii.isTokenChar, hb, Bool.true_or]
      all_goals decide
    · have hdecode := Percent.decode_encodeString Percent.isSound_keptInComponent name
      rw [extended?, if_pos (by simp), List.drop_left, Percent.encodeComponent, hdecode,
        Utf8.toString?_ofString]

/-- The parameter behind the quoted text. -/
theorem parametersFrom?_extension (name : String) (fuel : Nat) :
    ContentDisposition.parametersFrom? (fuel + 2) (extension (encoded? name)) =
      some ((encoded? name).map fun encoded =>
        (Bytes.ofAscii "filename*", Bytes.ofAscii "UTF-8''" ++ encoded)).toList := by
  cases hencoded : encoded? name with
  | none => rfl
  | some encoded =>
    have hsplit : extension (some encoded) = 0x3B :: 0x20 :: (Bytes.ofAscii "filename*" ++
        0x3D :: (Bytes.ofAscii "UTF-8''" ++ encoded ++ [])) := by
      have hstart : Bytes.ofAscii "; filename*=UTF-8''" =
          0x3B :: 0x20 :: (Bytes.ofAscii "filename*" ++ 0x3D :: Bytes.ofAscii "UTF-8''") := by
        decide
      rw [extension, Option.map_some, Option.getD_some, hstart, List.append_nil]
      simp only [List.cons_append, List.append_assoc]
    have hname : ∀ b ∈ Bytes.ofAscii "filename*", Ascii.isTokenChar b = true :=
      forall_mem_of_all (by decide)
    have hcharset : ∀ b ∈ Bytes.ofAscii "UTF-8''", Ascii.isTokenChar b = true :=
      forall_mem_of_all (by decide)
    have hvalue : ∀ b ∈ Bytes.ofAscii "UTF-8''" ++ encoded, Ascii.isTokenChar b = true :=
      List.forall_mem_append.mpr ⟨hcharset, (extended?_encoded hencoded).1⟩
    have hne : Bytes.ofAscii "UTF-8''" ++ encoded ≠ [] :=
      List.append_ne_nil_of_left_ne_nil (by decide) encoded
    rw [hsplit, ContentDisposition.parametersFrom?_token (by decide) hname hne hvalue
      (fun b hb => by cases hb)]
    rfl

/-- A suggestion has the quoted text and the encoded form as its parameters, and no others. -/
theorem read?_attachment (name : String) :
    ContentDisposition.read? (Utf8.ofString (attachment name)) =
      some ⟨Bytes.ofAscii "attachment", (Bytes.ofAscii "filename", Utf8.ofString (fallback name)) ::
        ((encoded? name).map fun encoded =>
          (Bytes.ofAscii "filename*", Bytes.ofAscii "UTF-8''" ++ encoded)).toList⟩ := by
  have hstart : Bytes.ofAscii "attachment; filename=\"" = Bytes.ofAscii "attachment" ++
      0x3B :: 0x20 :: (Bytes.ofAscii "filename" ++ [0x3D, 0x22]) := by decide
  have hsplit : Utf8.ofString (attachment name) = Bytes.ofAscii "attachment" ++
      0x3B :: 0x20 :: (Bytes.ofAscii "filename" ++
        0x3D :: 0x22 :: (Utf8.ofString (fallback name) ++ 0x22 :: extension (encoded? name))) := by
    rw [ofString_attachment, hstart]
    simp only [List.append_assoc, List.cons_append, List.nil_append]
  have htype : ∀ b ∈ Bytes.ofAscii "attachment", Ascii.isTokenChar b = true :=
    forall_mem_of_all (by decide)
  have hname : ∀ b ∈ Bytes.ofAscii "filename", Ascii.isTokenChar b = true :=
    forall_mem_of_all (by decide)
  have hquoted : ContentDisposition.quoted?
      (Utf8.ofString (fallback name) ++ 0x22 :: extension (encoded? name)) =
        some (Utf8.ofString (fallback name), extension (encoded? name)) :=
    ContentDisposition.quoted?_verbatim_iff.mpr (isPlain_fallback name)
  rw [hsplit, ContentDisposition.read?_append (by decide) htype (fun b hb => by cases hb; rfl),
    ContentDisposition.parametersFrom?_quoted (by decide) hname, hquoted, Option.bind_some,
    List.length_cons, List.length_cons, parametersFrom?_extension]
  rfl

/-- A recipient recovers the name. -/
theorem suggested?_attachment (name : String) :
    suggested? (Utf8.ofString (attachment name)) = some name := by
  have hother : (Bytes.ofAscii "filename" == Bytes.ofAscii "filename*") = false := by decide
  rw [suggested?, read?_attachment, Option.bind_some]
  cases hencoded : encoded? name with
  | none =>
    have hall : name.toList.all isPlain = true := by
      by_contra hall
      rw [encoded?, if_neg hall] at hencoded
      cases hencoded
    simp only [ContentDisposition.parameter?, Option.map_none, Option.toList_none, hother,
      List.find?_cons, List.find?_nil, BEq.rfl, Option.map_some, Option.bind_some,
      fallback_of_all hall, Utf8.toString?_ofString]
  | some encoded =>
    simp only [ContentDisposition.parameter?, Option.map_some, Option.toList_some, hother,
      List.find?_cons, BEq.rfl, (extended?_encoded hencoded).2]

/-- Every name is suggested, in printing ASCII characters and spaces, by a quoted text without
quotes and backslashes that has one character for each character of the name, and by an encoded
form just when the name holds a character that cannot stand in quotes. These are all the parameters
of the suggestion, and they tell the name. -/
theorem suggestion_tells_name (name : String) :
    ∃ (value quoted : Bytes) (encoded : Option Bytes), header? name = .ok value ∧
      (∀ b ∈ value, 0x20 ≤ b ∧ b ≤ 0x7E) ∧
      value = Bytes.ofAscii "attachment; filename=\"" ++ quoted ++ 0x22 :: extension encoded ∧
      (∀ b ∈ quoted, b ≠ 0x22 ∧ b ≠ 0x5C) ∧ quoted.length = name.toList.length ∧
      (encoded.isSome = true ↔
        ∃ c ∈ name.toList, ¬Header.IsPrinting c ∨ c = '"' ∨ c = '\\') ∧
      ContentDisposition.read? value =
        some ⟨Bytes.ofAscii "attachment", (Bytes.ofAscii "filename", quoted) ::
          (encoded.map fun encoded =>
            (Bytes.ofAscii "filename*", Bytes.ofAscii "UTF-8''" ++ encoded)).toList⟩ ∧
      suggested? value = some name ∧ ∀ other, header? other = .ok value → other = name := by
  refine ⟨Utf8.ofString (attachment name), Utf8.ofString (fallback name), encoded? name,
    header?_eq name, ?_, ofString_attachment name, isPlain_fallback name, length_fallback name,
    isSome_encoded?_iff name, read?_attachment name, suggested?_attachment name,
    fun other hother => ?_⟩
  · have hprinting := isPrinting_attachment name
    rw [(isAscii_of_isPrinting hprinting).ofString_eq]
    intro b hb
    obtain ⟨c, hc, rfl⟩ := List.mem_map.mp hb
    obtain ⟨hlow, hhigh⟩ := hprinting c hc
    have hbyte : (UInt8.ofNat c.toNat).toNat = c.toNat := Utf8.toNat_ofNat_of_lt (by omega)
    rw [UInt8.le_iff_toNat_le, UInt8.le_iff_toNat_le, hbyte]
    exact ⟨hlow, hhigh⟩
  · rw [header?_eq] at hother
    have hsame := congrArg suggested? (Except.ok.inj hother)
    rw [suggested?_attachment, suggested?_attachment] at hsame
    exact Option.some.inj hsame

end Disposition

end StorageGateway
