import StorageGateway.Proofs.Text.Strict
import StorageGateway.Proofs.Text.Percent
import StorageGateway.Proofs.Url.Punycode
import StorageGateway.Url.Address
import StorageGateway.Url.Domain

/-!
# Reading a name again

The ASCII form of a host name holds valid ASCII characters only, and it is divided by its dots into
the ASCII forms of the labels. So it is read again as the same labels: what was encoded decodes to
the label that it was made from, and everything else is left alone. The one exception is a label
whose encoded form is longer than what is decoded; a name with such a label is not read again. Names
of decimal numbers between dots are read as they are written.

## Main definitions

* `Domain.IsName`: the names that are the ASCII form of some name.
* `Domain.isReadable`: whether all encoded labels of a name are short enough to be decoded.

## Main results

* `Domain.IsName.isNameChar`: the characters of a name in ASCII form.
* `Domain.label?_ascii`: reading the ASCII form of a label.
* `Domain.convert?_of_convert?`: reading a name that was read before.
* `Domain.convert?_numeric`: names of decimal numbers.
-/

namespace StorageGateway.Domain

open Unicode

/-! ### Characters -/

/-- The characters of names in ASCII form. -/
def IsNameChar (c : Char) : Prop := c.toNat < 0x80 ∧ isDenied c = false

/-- An ASCII character is valid if it has no meaning in URLs and is no capital letter. -/
theorem isValid_iff_of_ascii {c : Char} (h : c.toNat < 0x80) :
    isValid c = true ↔ isDenied c = false ∧ c.toLower = c := by
  have hascii : isAscii c = true := decide_eq_true h
  simp [isValid, Unicode.fold?, hascii]

theorem not_isDenied_of_isValid {c : Char} (h : isValid c = true) : isDenied c = false := by
  rw [isValid, Bool.and_eq_true, Bool.not_eq_true'] at h
  exact h.1

/-- The characters that encoded labels and names consist of besides those of the labels. -/
def writtenChars : List Char := '.' :: '-' :: Punycode.digitChars

theorem isValid_of_mem_writtenChars {c : Char} (h : c ∈ writtenChars) :
    c.toNat < 0x80 ∧ isValid c = true := by
  have hall : ∀ c ∈ writtenChars, c.toNat < 0x80 ∧ isDenied c = false ∧ c.toLower = c :=
    forall_mem_of_all (by decide)
  obtain ⟨hascii, hplain⟩ := hall c h
  exact ⟨hascii, (isValid_iff_of_ascii hascii).mpr hplain⟩

/-! ### Labels -/

/-- Whether a label is short enough to be decoded if it is an encoded one. -/
def isReadableLabel (label : List Char) : Bool :=
  !encodedMark.isPrefixOf label || decide ((label.drop 4).length ≤ maxEncoded)

/-- The characters of the ASCII form of a label: those of encoded labels, and ASCII characters of
the label. -/
theorem mem_ascii_of_label? {label : List Char} {l : Label} (h : label? label = some l) {c : Char}
    (hc : c ∈ l.ascii) :
    c ∈ label ∧ c.toNat < 0x80 ∨ c ∈ '-' :: Punycode.digitChars := by
  have hkept (hascii : label.all isAscii = true) (hc : c ∈ label) : c ∈ label ∧ c.toNat < 0x80 :=
    ⟨hc, of_decide_eq_true (List.all_eq_true.mp hascii c hc)⟩
  rw [label?] at h
  split at h
  · next hascii =>
    split at h
    · obtain ⟨text, -, rfl⟩ := Option.map_eq_some_iff.mp h
      exact .inl (hkept hascii hc)
    · cases h
      exact .inl (hkept hascii hc)
  · split at h
    · cases h
    · cases h
      have hmark : ∀ c ∈ encodedMark, c ∈ '-' :: Punycode.digitChars :=
        forall_mem_of_all (by decide)
      rcases List.mem_append.mp hc with hc | hc
      · exact .inr (hmark c hc)
      · rcases Punycode.mem_encode hc with hkept | rfl | hdigit
        · exact .inl hkept
        · exact .inr List.mem_cons_self
        · exact .inr (List.mem_cons_of_mem _ hdigit)

/-- The ASCII form of a label of valid characters has valid ASCII characters. -/
theorem isValid_of_label? {label : List Char} (hvalid : ∀ c ∈ label, isValid c = true) {l : Label}
    (h : label? label = some l) : ∀ c ∈ l.ascii, c.toNat < 0x80 ∧ isValid c = true := by
  intro c hc
  rcases mem_ascii_of_label? h hc with ⟨hmem, hascii⟩ | hwritten
  · exact ⟨hascii, hvalid c hmem⟩
  · exact isValid_of_mem_writtenChars (List.mem_cons_of_mem _ hwritten)

theorem dot_notMem_of_label? {label : List Char} (hdot : '.' ∉ label) {l : Label}
    (h : label? label = some l) : '.' ∉ l.ascii := by
  intro hc
  rcases mem_ascii_of_label? h hc with hmem | hwritten
  · exact hdot hmem.1
  · exact absurd hwritten (by decide)

theorem decodeLabel?_encode {label : List Char} (hascii : ¬label.all isAscii = true)
    (hvalid : ∀ c ∈ label, isValid c = true) (hproper : isProper label = true) :
    decodeLabel? (Punycode.encode label) =
      if (Punycode.encode label).length ≤ maxEncoded then some label else none := by
  rw [decodeLabel?, Punycode.decode?_encode]
  by_cases hlength : (Punycode.encode label).length ≤ maxEncoded
  · rw [if_neg (Nat.not_lt.mpr hlength), if_pos hlength, Option.filter_some, if_pos]
    rw [hproper, List.all_eq_true.mpr hvalid, Bool.eq_false_of_not_eq_true hascii]
    rfl
  · rw [if_pos (Nat.lt_of_not_le hlength), if_neg hlength]

/-- The encoded form of a label is read as the label, unless it is too long. -/
theorem label?_encode {label : List Char} (hascii : ¬label.all isAscii = true)
    (hvalid : ∀ c ∈ label, isValid c = true) (hproper : isProper label = true)
    (hwritten : ∀ c ∈ encodedMark ++ Punycode.encode label, c.toNat < 0x80) :
    label? (encodedMark ++ Punycode.encode label) =
      if isReadableLabel (encodedMark ++ Punycode.encode label) then
        some ⟨label, encodedMark ++ Punycode.encode label⟩
      else none := by
  have hall : (encodedMark ++ Punycode.encode label).all isAscii = true :=
    List.all_eq_true.mpr fun c hc => decide_eq_true (hwritten c hc)
  have hmark : encodedMark.isPrefixOf (encodedMark ++ Punycode.encode label) = true :=
    List.isPrefixOf_iff_prefix.mpr (List.prefix_append ..)
  have hdrop : (encodedMark ++ Punycode.encode label).drop 4 = Punycode.encode label :=
    List.drop_left' rfl
  rw [label?, if_pos hall, if_pos hmark, isReadableLabel, hmark, hdrop,
    decodeLabel?_encode hascii hvalid hproper]
  by_cases hlength : (Punycode.encode label).length ≤ maxEncoded
  · rw [if_pos hlength, decide_eq_true hlength]
    rfl
  · rw [if_neg hlength, decide_eq_false hlength]
    rfl

/-- The ASCII form of a label is read as the same label, unless it is too long. -/
theorem label?_ascii {label : List Char} (hvalid : ∀ c ∈ label, isValid c = true) {l : Label}
    (h : label? label = some l) :
    label? l.ascii = if isReadableLabel l.ascii then some l else none := by
  have hread := h
  rw [label?] at h
  split at h
  · split at h
    next hmark =>
      obtain ⟨text, htext, rfl⟩ := Option.map_eq_some_iff.mp h
      have hlength : (label.drop 4).length ≤ maxEncoded := by
        by_contra hlong
        rw [decodeLabel?, if_pos (Nat.lt_of_not_le hlong)] at htext
        cases htext
      rw [hread, isReadableLabel, decide_eq_true hlength, Bool.or_true, if_pos rfl]
    next hmark =>
      cases h
      rw [hread, isReadableLabel, Bool.eq_false_of_not_eq_true hmark, Bool.not_false,
        Bool.true_or, if_pos rfl]
  next hascii =>
    split at h
    · cases h
    next hrefused =>
      cases h
      simp only [Bool.or_eq_true, not_or, Bool.not_eq_true', Bool.not_eq_false] at hrefused
      exact label?_encode hascii hvalid hrefused.2
        fun c hc => (isValid_of_label? hvalid hread c hc).1

/-! ### Names -/

/-- The names that are the ASCII form of some name. -/
def IsName (name : List Char) : Prop := ∃ cs, convert? cs = some name

/-- Whether all encoded labels of a name are short enough to be decoded. -/
def isReadable (name : List Char) : Bool := (name.splitOn '.').all isReadableLabel

theorem mem_intercalate_of_mem {c mark : Char} {part : List Char} {parts : List (List Char)}
    (hpart : part ∈ parts) (hc : c ∈ part) : c ∈ [mark].intercalate parts := by
  induction parts with
  | nil => exact absurd hpart List.not_mem_nil
  | cons first parts ih =>
    rcases parts with - | ⟨next, parts⟩
    · rw [List.intercalate_singleton]
      exact List.mem_singleton.mp hpart ▸ hc
    · rw [List.intercalate_cons_cons, List.mem_append]
      rcases List.mem_cons.mp hpart with rfl | hpart
      · exact .inl (List.mem_append_left _ hc)
      · exact .inr (ih hpart)

/-- The characters of a part between marks are characters of the text. -/
theorem mem_of_mem_splitOn {c mark : Char} {cs part : List Char} (hpart : part ∈ cs.splitOn mark)
    (hc : c ∈ part) : c ∈ cs := by
  have hcs : [mark].intercalate (cs.splitOn mark) = cs := List.intercalate_splitOn mark
  rw [← hcs]
  exact mem_intercalate_of_mem hpart hc

/-- A name with an ASCII form consists of valid labels. -/
theorem exists_labels_of_convert? {cs name : List Char} (h : convert? cs = some name) :
    ∃ (parts : List (List Char)) (labels : List Label), parts ≠ [] ∧
      (∀ part ∈ parts, '.' ∉ part ∧ ∀ c ∈ part, isValid c = true) ∧
      parts.mapM label? = some labels ∧ isOneWay labels = true ∧
      name = ['.'].intercalate (labels.map Label.ascii) := by
  obtain ⟨folded, -, h⟩ := Option.bind_eq_some_iff.mp h
  split at h
  · cases h
  next hvalid =>
    obtain ⟨labels, hlabels, h⟩ := Option.bind_eq_some_iff.mp h
    split at h
    next honeWay =>
      cases h
      have hall : ∀ c ∈ folded, isValid c = true := by simpa using hvalid
      refine ⟨folded.splitOn '.', labels, List.splitOn_ne_nil _ _, fun part hpart => ⟨?_, ?_⟩,
        hlabels, honeWay, rfl⟩
      · intro hc
        exact absurd (forall_mem_of_mem_splitOnP hpart '.' hc) (by decide)
      · exact fun c hc => hall c (mem_of_mem_splitOn hpart hc)
    · cases h

section Labels

variable {parts : List (List Char)} {labels : List Label}

/-- The ASCII forms of valid labels have no dots and only valid characters. -/
theorem isValid_of_mapM (hparts : ∀ part ∈ parts, '.' ∉ part ∧ ∀ c ∈ part, isValid c = true)
    (h : parts.mapM label? = some labels) : ∀ label ∈ labels.map Label.ascii,
      '.' ∉ label ∧ ∀ c ∈ label, c.toNat < 0x80 ∧ isValid c = true := by
  intro label hlabel
  obtain ⟨l, hl, rfl⟩ := List.mem_map.mp hlabel
  obtain ⟨part, hpart, hl⟩ := exists_mem_of_mapM h hl
  obtain ⟨hdot, hpart⟩ := hparts part hpart
  exact ⟨dot_notMem_of_label? hdot hl, isValid_of_label? hpart hl⟩

/-- The labels of a name in ASCII form are read as the same labels, unless one is too long. -/
theorem mapM_label?_ascii (hparts : ∀ part ∈ parts, ∀ c ∈ part, isValid c = true)
    (h : parts.mapM label? = some labels) : (labels.map Label.ascii).mapM label? =
      if (labels.map Label.ascii).all isReadableLabel then some labels else none := by
  have hread : ∀ l ∈ labels,
      label? l.ascii = if isReadableLabel l.ascii then some l else none := by
    intro l hl
    obtain ⟨part, hpart, hl⟩ := exists_mem_of_mapM h hl
    exact label?_ascii (hparts part hpart) hl
  split
  next hall =>
    rw [mapM_eq_some_iff, List.map_map]
    refine List.map_congr_left fun l hl => ?_
    rw [Function.comp_apply, hread l hl, if_pos]
    exact List.all_eq_true.mp hall l.ascii (List.mem_map_of_mem hl)
  next hlong =>
    rw [Option.eq_none_iff_forall_ne_some]
    refine fun read hmapM => hlong (List.all_eq_true.mpr fun label hlabel => ?_)
    obtain ⟨l, hl, rfl⟩ := List.mem_map.mp hlabel
    by_contra hlabel'
    have hmem : label? l.ascii ∈ read.map some := by
      rw [← mapM_eq_some_iff.mp hmapM]
      exact List.mem_map_of_mem hlabel
    rw [hread l hl, if_neg hlabel'] at hmem
    simp at hmem

end Labels

/-- A name of valid ASCII characters is read label by label. -/
theorem convert?_intercalate {parts : List (List Char)} (hne : parts ≠ [])
    (hdot : ∀ part ∈ parts, '.' ∉ part)
    (hvalid : ∀ part ∈ parts, ∀ c ∈ part, c.toNat < 0x80 ∧ isValid c = true) :
    convert? (['.'].intercalate parts) = (parts.mapM label?).bind fun labels =>
      if isOneWay labels then some (['.'].intercalate (labels.map Label.ascii)) else none := by
  have hchar : ∀ c ∈ ['.'].intercalate parts, c.toNat < 0x80 ∧ isValid c = true := fun c hc => by
    rcases eq_or_mem_of_mem_intercalate hc with rfl | ⟨part, hpart, hc⟩
    · exact isValid_of_mem_writtenChars List.mem_cons_self
    · exact hvalid part hpart c hc
  have hascii : (['.'].intercalate parts).all isAscii = true :=
    List.all_eq_true.mpr fun c hc => decide_eq_true (hchar c hc).1
  have hlower : (['.'].intercalate parts).map Char.toLower = ['.'].intercalate parts :=
    (List.map_congr_left fun c hc =>
      ((isValid_iff_of_ascii (hchar c hc).1).mp (hchar c hc).2).2).trans (List.map_id _)
  have hall : (['.'].intercalate parts).all isValid = true :=
    List.all_eq_true.mpr fun c hc => (hchar c hc).2
  rw [convert?, if_pos hascii, hlower, Option.bind_some, hall, if_neg (by simp),
    List.splitOn_intercalate '.' hdot hne]

/-- A name in ASCII form is read as itself, unless one of its labels is too long to be decoded. -/
theorem convert?_of_convert? {cs name : List Char} (h : convert? cs = some name) :
    convert? name = if isReadable name then some name else none := by
  obtain ⟨parts, labels, hne, hparts, hlabels, honeWay, rfl⟩ := exists_labels_of_convert? h
  have hvalid := isValid_of_mapM hparts hlabels
  have hne' : labels.map Label.ascii ≠ [] := by
    intro hnil
    have hlength := congrArg List.length (mapM_eq_some_iff.mp hlabels)
    simp_all
  have hdot : ∀ label ∈ labels.map Label.ascii, '.' ∉ label := fun l hl => (hvalid l hl).1
  rw [convert?_intercalate hne' hdot fun l hl => (hvalid l hl).2,
    mapM_label?_ascii (fun part hpart => (hparts part hpart).2) hlabels, isReadable,
    List.splitOn_intercalate '.' hdot hne']
  split
  · rw [Option.bind_some, if_pos honeWay]
  · rfl

/-- The ASCII form of a name holds no character with a meaning in URLs. -/
theorem IsName.isNameChar {name : List Char} (h : IsName name) : ∀ c ∈ name, IsNameChar c := by
  obtain ⟨cs, hname⟩ := h
  obtain ⟨parts, labels, -, hparts, hlabels, -, rfl⟩ := exists_labels_of_convert? hname
  intro c hc
  suffices hvalid : c.toNat < 0x80 ∧ isValid c = true from
    ⟨hvalid.1, not_isDenied_of_isValid hvalid.2⟩
  rcases eq_or_mem_of_mem_intercalate hc with rfl | ⟨label, hlabel, hc⟩
  · exact isValid_of_mem_writtenChars List.mem_cons_self
  · exact (isValid_of_mapM hparts hlabels label hlabel).2 c hc

theorem isName_of_toAscii? {bs : Bytes} {name : String} (h : toAscii? bs = some name) :
    IsName name.toList := by
  obtain ⟨cs, hcs, rfl⟩ := Option.map_eq_some_iff.mp h
  obtain ⟨folded, -, hcs⟩ := Option.bind_eq_some_iff.mp hcs
  rw [String.toList_ofList]
  exact ⟨folded, hcs⟩

/-- The text of a name in ASCII form is read as the name, unless one of its labels is too long. -/
theorem toAscii?_ofString {name : String} (h : IsName name.toList) :
    toAscii? (Percent.decode (Utf8.ofString name)) =
      if isReadable name.toList then some name else none := by
  have hplain : ∀ bs : Bytes, 0x25 ∉ bs → Percent.decode bs = bs := by
    intro bs hbs
    induction bs with
    | nil => rfl
    | cons b bs ih =>
      rw [List.mem_cons, not_or] at hbs
      rw [Percent.decode_cons_of_ne (Ne.symm hbs.1), ih hbs.2]
  have hpercent : (0x25 : UInt8) ∉ Utf8.ofString name := fun hmem =>
    absurd (h.isNameChar _ ((Utf8.mem_ofString (by decide)).mp hmem)).2 (by decide)
  obtain ⟨cs, hcs⟩ := h
  rw [hplain _ hpercent, toAscii?, Utf8.ofString, Utf8.decode?_encode, Option.bind_some,
    convert?_of_convert? hcs]
  split
  · rw [Option.map_some, String.ofList_toList]
  · rfl

/-! ### Numbers between dots -/

theorem mem_digitChars_of_isDigit {c : Char} (h : c.isDigit = true) : c ∈ Punycode.digitChars := by
  have hall : ∀ n < 10, Char.ofNat (48 + n) ∈ Punycode.digitChars := by decide
  simp only [Char.isDigit, Bool.and_eq_true, decide_eq_true_eq] at h
  have hlow : 48 ≤ c.toNat := h.1
  have hhigh : c.toNat ≤ 57 := h.2
  have hdigit := hall (c.toNat - 48) (by omega)
  rwa [show 48 + (c.toNat - 48) = c.toNat by omega, Char.ofNat_toNat] at hdigit

/-- A label of digits is its own ASCII form. -/
theorem label?_digits {label : List Char} (h : ∀ c ∈ label, c.isDigit = true) :
    label? label = some ⟨label, label⟩ := by
  have hascii : label.all isAscii = true := by
    rw [List.all_eq_true]
    intro c hc
    have hdigit := h c hc
    simp only [Char.isDigit, Bool.and_eq_true, decide_eq_true_eq] at hdigit
    have hle : c.toNat ≤ 57 := hdigit.2
    simp only [isAscii, decide_eq_true_eq]
    omega
  have hmark : encodedMark.isPrefixOf label = false := by
    rcases label with - | ⟨c, label⟩
    · rfl
    · have hx : c ≠ 'x' := by
        rintro rfl
        exact absurd (h 'x' List.mem_cons_self) (by decide)
      rw [encodedMark, List.isPrefixOf_cons_cons, beq_false_of_ne (Ne.symm hx), Bool.false_and]
  rw [label?, if_pos hascii, hmark]
  rfl

/-- A name of decimal numbers between dots is its own ASCII form. -/
theorem convert?_numeric {parts : List (List Char)} (hne : parts ≠ [])
    (h : ∀ part ∈ parts, ∀ c ∈ part, c.isDigit = true) :
    convert? (['.'].intercalate parts) = some (['.'].intercalate parts) := by
  have hdigit (part) (hpart : part ∈ parts) (c) (hc : c ∈ part) : c ∈ Punycode.digitChars :=
    mem_digitChars_of_isDigit (h part hpart c hc)
  have hleft : ∀ c ∈ Punycode.digitChars, (direction c).isRightward = false :=
    forall_mem_of_all (by decide)
  have hlabels : parts.mapM label? = some (parts.map fun part => ⟨part, part⟩) := by
    rw [mapM_eq_some_iff, List.map_map]
    exact List.map_congr_left fun part hpart => label?_digits (h part hpart)
  have honeWay : isOneWay (parts.map fun part => (⟨part, part⟩ : Label)) = true := by
    rw [isOneWay, Bool.or_eq_true, Bool.not_eq_true', List.any_eq_false]
    left
    simp only [List.map_map, List.mem_map, Function.comp_apply, forall_exists_index, and_imp]
    rintro _ part hpart rfl
    rw [List.any_map, List.any_eq_true]
    rintro ⟨c, hc, hright⟩
    rw [Function.comp_apply, hleft c (hdigit part hpart c hc)] at hright
    cases hright
  rw [convert?_intercalate hne (fun part hpart hc => absurd (h part hpart '.' hc) (by decide))
      fun part hpart c hc => isValid_of_mem_writtenChars
        (List.mem_cons_of_mem _ (List.mem_cons_of_mem _ (hdigit part hpart c hc))),
    hlabels, Option.bind_some, if_pos honeWay, List.map_map]
  exact congrArg (fun ps => some (['.'].intercalate ps)) (List.map_id _)

end StorageGateway.Domain
