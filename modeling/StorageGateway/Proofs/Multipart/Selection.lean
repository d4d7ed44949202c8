import StorageGateway.Proofs.Http.Parameters
import StorageGateway.Proofs.Multipart.Parts
import StorageGateway.Proofs.Text.Percent

/-!
# Which sections have a file

The search for a file name stops at the first occurrence of the word that counts: at the start of
the value, behind white space or a semicolon, or right behind another occurrence. It is this
occurrence, and not the parameter of that name, which decides whether a section has a file. The
parameter is found when it is spelt in lower case, no occurrence in front of it counts, and no
backslash follows; its value has to be UTF-8. Where the search goes wrong the section has no file
or another one.

## Main definitions

* `Multipart.Counts`, `Multipart.IsFirst`: the occurrence at which the search stops.
* `Multipart.Names`: the names that a value gives to a file.

## Main results

* `Multipart.attribute?_eq_some_iff`: what the search finds.
* `Multipart.Section.file?_eq_some_iff_names`: which sections have a file.
* `Multipart.Section.file?_of_isSpelt`: sections whose parameter is found.
-/

namespace StorageGateway.Multipart

/-- An occurrence counts when nothing stands in front of it, or a text that ends in white space, a
semicolon or another occurrence. -/
def Counts (before : Bytes) : Prop :=
  (∀ b ∈ before.getLast?, Ascii.isSpace b = true ∨ b = 0x3B) ∨ word <:+ before

/-- The first occurrence that counts. -/
structure IsFirst (d before after : Bytes) : Prop where
  split : d = before ++ word ++ after
  counts : Counts before
  first : ∀ front back, d = front ++ word ++ back → Counts front → before.length ≤ front.length

/-- A value gives a name to a file: its text follows the first occurrence that counts. -/
def Names (d : Bytes) (name : String) : Prop :=
  name ≠ "" ∧ ∃ before after, IsFirst d before after ∧
    attributeValue? after = some (Utf8.ofString name)

variable {d before after front back middle text : Bytes}

/-! ### The search -/

/-- Occurrences are the first one, or stand behind it. -/
theorem occurrence_cases (hcut : Bytes.cut? word d = some (before, after))
    (h : d = front ++ word ++ back) : (front = before ∧ back = after) ∨
      ∃ middle, front = before ++ word ++ middle ∧ after = middle ++ word ++ back := by
  rw [List.append_assoc] at h
  rcases Bytes.occurrence_of_cut? (by decide) hcut h with hsame | ⟨middle, hfront, hafter⟩
  · exact .inl hsame
  · refine .inr ⟨middle, hfront, ?_⟩
    rw [hafter, List.append_assoc]
    rfl

/-- The first occurrence counts for what stands right in front of it. -/
theorem counts_of_cut?_iff (hcut : Bytes.cut? word d = some (before, after)) :
    Counts before ↔ ∀ b ∈ before.getLast?, Ascii.isSpace b = true ∨ b = 0x3B := by
  refine ⟨fun h => h.resolve_right ?_, .inl⟩
  rintro ⟨front, rfl⟩
  have hsplit : d = front ++ word ++ (word ++ after) := by
    rw [Bytes.eq_of_cut? hcut, List.append_assoc _ word]
  have hword : 0 < word.length := by decide
  rcases occurrence_cases hcut hsplit with ⟨hsame, -⟩ | ⟨middle, hfront, -⟩
  · have hlength := congrArg List.length hsame
    rw [List.length_append] at hlength
    omega
  · have hlength := congrArg List.length hfront
    simp only [List.length_append] at hlength
    omega

/-- A later occurrence counts as it does in what stands behind the first one. -/
theorem counts_append_iff (hcut : Bytes.cut? word d = some (before, middle ++ word ++ back)) :
    Counts (before ++ word ++ middle) ↔ Counts middle := by
  have hlast {b : UInt8} (hb : b ∈ middle.getLast?) :
      (before ++ word ++ middle).getLast? = some b := by
    rw [List.getLast?_append, Option.mem_def.mp hb, Option.some_or]
  rcases List.eq_nil_or_concat' middle with rfl | ⟨tail, b, hmiddle⟩
  · rw [List.append_nil]
    exact ⟨fun _ => .inl fun b hb => absurd hb (Option.not_mem_none b),
      fun _ => .inr (List.suffix_append _ _)⟩
  have hb : b ∈ middle.getLast? := by rw [hmiddle, Option.mem_def, List.getLast?_concat]
  constructor
  · rintro (hends | ⟨front, hfront⟩)
    · refine .inl fun c hc => hends c ?_
      exact Option.mem_def.mpr (hlast hc)
    · have hsplit : d = front ++ word ++ (word ++ back) := by
        rw [Bytes.eq_of_cut? hcut, hfront]
        simp only [List.append_assoc]
      rcases occurrence_cases hcut hsplit with ⟨rfl, -⟩ | ⟨start, rfl, -⟩
      · have hnone : middle = [] := by simpa using hfront
        rw [hnone] at hb
        cases hb
      · rw [List.append_assoc _ start, List.append_cancel_left_eq] at hfront
        exact .inr ⟨start, hfront⟩
  · rintro (hends | hsuffix)
    · refine .inl fun c hc => ?_
      cases (hlast hb).symm.trans hc
      exact hends b hb
    · exact .inr (hsuffix.trans (List.suffix_append _ _))

/-- The search goes on behind an occurrence that does not count. -/
theorem attributeFrom_of_cut? (hcut : Bytes.cut? word d = some (before, after)) (fuel : Nat) :
    (Counts before → attributeFrom word (fuel + 1) d = attributeValue? after) ∧
      (¬Counts before → attributeFrom word (fuel + 1) d = attributeFrom word fuel after) := by
  rw [counts_of_cut?_iff hcut, attributeFrom, hcut, Option.bind_some]
  dsimp only
  cases hlast : before.getLast? with
  | none => exact ⟨fun _ => rfl, absurd fun b hb => absurd hb (Option.not_mem_none b)⟩
  | some b =>
    simp only [Option.mem_some_iff, forall_eq', Bool.or_eq_true, beq_iff_eq]
    exact ⟨fun h => if_pos h, fun h => if_neg h⟩

/-- The occurrence at which the search stops behind a first one that does not count. -/
theorem IsFirst.behind (hcut : Bytes.cut? word d = some (before, after)) (hnot : ¬Counts before)
    (h : IsFirst after middle back) : IsFirst d (before ++ word ++ middle) back where
  split := by
    rw [Bytes.eq_of_cut? hcut, h.split]
    simp only [List.append_assoc]
  counts := (counts_append_iff (h.split ▸ hcut)).mpr h.counts
  first front rest hsplit hcounts := by
    rcases occurrence_cases hcut hsplit with ⟨rfl, -⟩ | ⟨start, rfl, hafter⟩
    · exact absurd hcounts hnot
    · have hstart := h.first start rest hafter ((counts_append_iff (hafter ▸ hcut)).mp hcounts)
      simp only [List.length_append]
      omega

/-- What is found stands behind the first occurrence that counts. -/
theorem exists_isFirst {fuel : Nat} (h : attributeFrom word fuel d = some text) :
    ∃ before after, IsFirst d before after ∧ attributeValue? after = some text := by
  induction fuel generalizing d with
  | zero => cases h
  | succ fuel ih =>
    cases hcut : Bytes.cut? word d with
    | none =>
      rw [attributeFrom, hcut] at h
      cases h
    | some r =>
      obtain ⟨before, after⟩ := r
      obtain ⟨hstop, hgo⟩ := attributeFrom_of_cut? hcut fuel
      by_cases hcounts : Counts before
      · refine ⟨before, after, ⟨Bytes.eq_of_cut? hcut, hcounts, fun front back hsplit _ => ?_⟩,
          (hstop hcounts).symm.trans h⟩
        rcases occurrence_cases hcut hsplit with ⟨rfl, -⟩ | ⟨middle, rfl, -⟩
        · exact Nat.le_refl _
        · simp only [List.length_append]
          omega
      · obtain ⟨middle, back, hfirst, hvalue⟩ := ih ((hgo hcounts).symm.trans h)
        exact ⟨_, back, hfirst.behind hcut hcounts, hvalue⟩

/-- The search stops at the first occurrence that counts. -/
theorem attributeFrom_of_isFirst {fuel : Nat} (h : IsFirst d before after)
    (hfuel : d.length < fuel) : attributeFrom word fuel d = attributeValue? after := by
  induction fuel generalizing d before with
  | zero => omega
  | succ fuel ih =>
    cases hcut : Bytes.cut? word d with
    | none =>
      exact absurd ⟨before, after, h.split.symm⟩ (Bytes.cut?_eq_none_iff.mp hcut)
    | some r =>
      obtain ⟨start, rest⟩ := r
      obtain ⟨hstop, hgo⟩ := attributeFrom_of_cut? hcut fuel
      rcases occurrence_cases hcut h.split with ⟨rfl, rfl⟩ | ⟨middle, rfl, hrest⟩
      · exact hstop h.counts
      · have hword : 0 < word.length := by decide
        have hnot : ¬Counts start := by
          intro hcounts
          have hle := h.first start rest (Bytes.eq_of_cut? hcut) hcounts
          simp only [List.length_append] at hle
          omega
        rw [hgo hnot]
        refine ih ⟨hrest, (counts_append_iff (hrest ▸ hcut)).mp h.counts,
          fun front back hsplit hcounts => ?_⟩ ?_
        · have hwhole : d = start ++ word ++ front ++ word ++ back := by
            rw [Bytes.eq_of_cut? hcut, hsplit]
            simp only [List.append_assoc]
          have hle := h.first _ back hwhole ((counts_append_iff (hsplit ▸ hcut)).mpr hcounts)
          simp only [List.length_append] at hle
          omega
        · have hlength := Bytes.cut?_length hcut
          omega

/-- What the search finds. -/
theorem attribute?_eq_some_iff : attribute? "filename" d = some text ↔
    ∃ before after, IsFirst d before after ∧ attributeValue? after = some text := by
  rw [attribute?_filename]
  constructor
  · exact exists_isFirst
  · rintro ⟨before, after, hfirst, hvalue⟩
    rw [attributeFrom_of_isFirst hfirst (Nat.lt_succ_self _), hvalue]

/-! ### Values -/

/-- Among the bytes of a header line only blanks are white space. -/
theorem dropWhile_isSpace (h : ∀ b ∈ text, isValueByte b = true) :
    text.dropWhile Ascii.isSpace = text.dropWhile Ascii.isBlank := by
  have hsame {b : UInt8} (hb : isValueByte b = true) : Ascii.isSpace b = Ascii.isBlank b := by
    have hne {c : UInt8} (hc : isValueByte c = false) : (b == c) = false := by
      rw [beq_eq_false_iff_ne]
      rintro rfl
      rw [hb] at hc
      cases hc
    rw [Ascii.isSpace, hne (c := 0x0A) (by decide), hne (c := 0x0C) (by decide),
      hne (c := 0x0D) (by decide), Bool.or_false, Bool.or_false, Bool.or_false]
  induction text with
  | nil => rfl
  | cons b text ih =>
    obtain ⟨hb, htext⟩ := List.forall_mem_cons.mp h
    rw [List.dropWhile_cons, List.dropWhile_cons, hsame hb, ih htext]

/-- Text without backslashes ends at the first quote. -/
theorem quotedFrom_of_notMem (seen : Bytes) (hquote : 0x22 ∉ text) (hescape : 0x5C ∉ text)
    (hseen : seen.head? ≠ some 0x5C) (rest : Bytes) :
    quotedFrom seen (text ++ 0x22 :: rest) = some (seen.reverse ++ text) := by
  induction text generalizing seen with
  | nil => rw [List.nil_append, quotedFrom, if_pos ⟨rfl, hseen⟩, List.append_nil]
  | cons b text ih =>
    obtain ⟨hb, hquote⟩ := not_or.mp (mt List.mem_cons.mpr hquote)
    obtain ⟨hb', hescape⟩ := not_or.mp (mt List.mem_cons.mpr hescape)
    have hnext : (b :: seen).head? ≠ some 0x5C := fun h => hb' (Option.some.inj h).symm
    rw [List.cons_append, quotedFrom, if_neg (fun h => hb h.1.symm), ih _ hquote hescape hnext,
      List.reverse_cons, List.append_assoc, List.singleton_append]

/-- Up to a space or a semicolon, only tabs can stand behind a value. -/
theorem tabs_of_ends (h : ContentDisposition.Ends text) :
    ∀ b ∈ text.takeWhile fun b => b != 0x3B && b != 0x20, b = 0x09 := by
  induction text with
  | nil => exact List.forall_mem_nil _
  | cons b text ih =>
    rw [List.takeWhile_cons]
    split
    · next hb =>
      rw [Bool.and_eq_true, bne_iff_ne, bne_iff_ne] at hb
      rw [ContentDisposition.Ends] at h
      by_cases hblank : Ascii.isBlank b = true
      · rw [List.dropWhile_cons_of_pos hblank] at h
        rw [Ascii.isBlank, Bool.or_eq_true, beq_iff_eq, beq_iff_eq] at hblank
        exact List.forall_mem_cons.mpr ⟨hblank.resolve_left hb.2, ih h⟩
      · rw [List.dropWhile_cons_of_neg hblank] at h
        exact absurd (h b rfl) hb.1
    · exact List.forall_mem_nil _

/-- The search finds the value of a parameter, possibly with tabs behind a token, when there are no
backslashes. -/
theorem attributeValue?_of_assigned? {value rest : Bytes}
    (h : ContentDisposition.assigned? text = some (value, rest))
    (hends : ContentDisposition.Ends rest) (hbytes : ∀ b ∈ text, isValueByte b = true)
    (hplain : 0x5C ∉ text) :
    ∃ tabs, (∀ b ∈ tabs, b = 0x09) ∧
      (tabs = [] ∨ ∀ b ∈ value, Ascii.isTokenChar b = true) ∧
      attributeValue? text = some (value ++ tabs) := by
  have hmem {more : Bytes} (hdrop : text.dropWhile Ascii.isBlank = 0x3D :: more) (b : UInt8)
      (hb : b ∈ more.dropWhile Ascii.isBlank) : b ∈ text :=
    mem_of_dropWhile (hdrop ▸ List.mem_cons_of_mem _ (mem_of_dropWhile hb))
  rw [ContentDisposition.assigned?] at h
  split at h
  · next more hdrop =>
    have hmore : ∀ b ∈ more, isValueByte b = true := fun b hb =>
      hbytes b (mem_of_dropWhile (hdrop ▸ List.mem_cons_of_mem _ hb))
    rw [attributeValue?, dropWhile_isSpace hbytes, hdrop]
    simp only [dropWhile_isSpace hmore]
    rw [ContentDisposition.value?.eq_def] at h
    split at h
    · next inner hinner =>
      have hescape : 0x5C ∉ inner := fun hb =>
        hplain (hmem hdrop _ (hinner ▸ List.mem_cons_of_mem _ hb))
      obtain ⟨rfl, hquote⟩ := ContentDisposition.eq_of_quoted? hescape h
      have hvalue : 0x5C ∉ value := fun hb => hescape (List.mem_append_left _ hb)
      refine ⟨[], List.forall_mem_nil _, .inl rfl, ?_⟩
      rw [hinner]
      simp only [quotedFrom_of_notMem [] hquote hvalue (by simp) rest, Option.map_some,
        List.reverse_nil, List.nil_append, unquoteFrom_of_notMem hquote, List.append_nil]
    · next hstart =>
      generalize more.dropWhile Ascii.isBlank = cs at h hstart
      dsimp only at h
      split at h
      · cases h
      · cases h
        have htoken : ∀ b ∈ cs.takeWhile Ascii.isTokenChar, Ascii.isTokenChar b = true :=
          List.all_eq_true.mp List.all_takeWhile
        have hkept : ∀ b ∈ cs.takeWhile Ascii.isTokenChar, (b != 0x3B && b != 0x20) = true := by
          intro b hb
          rw [Bool.and_eq_true, bne_iff_ne, bne_iff_ne]
          constructor <;> rintro rfl <;> cases htoken _ hb
        have hsplit : cs.takeWhile Ascii.isTokenChar ++ _ = cs :=
          List.prefix_iff_eq_append.mp (List.takeWhile_prefix _)
        refine ⟨_, tabs_of_ends hends, .inr htoken, ?_⟩
        rw [← List.takeWhile_append_of_pos hkept, hsplit]
        split
        · exact absurd rfl (hstart _)
        · rfl
  · cases h

theorem lt_of_isTokenChar {b : UInt8} (h : Ascii.isTokenChar b = true) : b.toNat < 0x80 := by
  simp only [Ascii.isTokenChar, Ascii.isAlphanumeric, Ascii.isAlpha, Ascii.isUpper, Ascii.isLower,
    Ascii.isDigit, Bool.or_eq_true, Bool.and_eq_true, decide_eq_true_eq, List.contains_iff_mem,
    List.mem_cons, List.not_mem_nil, or_false, UInt8.le_iff_toNat_le, ← UInt8.toNat_inj,
    UInt8.reduceToNat] at h
  omega

/-- Bytes below 128 are the text of their characters. -/
theorem ofString_toAscii (h : ∀ b ∈ text, b.toNat < 0x80) :
    Utf8.ofString (Bytes.toAscii text) = text := by
  have hascii : Utf8.IsAscii (Bytes.toAscii text).toList := by
    rw [Bytes.toAscii, String.toList_ofList]
    intro c hc
    obtain ⟨b, hb, rfl⟩ := List.mem_map.mp hc
    rw [Bytes.toNat_ofNat_toNat]
    exact h b hb
  rw [hascii.ofString_eq, Bytes.ofAscii_toAscii]

/-! ### Sections -/

namespace Section

variable {s : Section}

/-- A section has a file when its `Content-Disposition` value gives a name to one. -/
theorem file?_eq_some_iff_names (hd : s.disposition? = some d) {f : FilePart} :
    s.file? = some f ↔ Names d f.name ∧ f.data = s.content := by
  rw [file?_eq_some_iff, hd]
  simp only [Option.some.injEq, exists_eq_left', attribute?_eq_some_iff, Names]
  exact ⟨fun ⟨hfound, hne, hdata⟩ => ⟨⟨hne, hfound⟩, hdata⟩,
    fun ⟨⟨hne, hfound⟩, hdata⟩ => ⟨hfound, hne, hdata⟩⟩

/-- A section whose parameter is spelt out at the first occurrence that counts, without backslashes
behind it, has a file when the value of the parameter is UTF-8. -/
theorem file?_of_isSpelt {value spelling : Bytes} (hd : s.disposition? = some d)
    (hvalue : value ≠ [])
    (hspelt : ContentDisposition.IsSpelt d word value before spelling after)
    (hfirst : IsFirst d before after) (hplain : 0x5C ∉ after) :
    (s.file? = none ↔ Utf8.toString? value = none) ∧
      (0x09 ∉ after → ∀ name, Utf8.toString? value = some name →
        s.file? = some ⟨name, s.content⟩) := by
  obtain ⟨rest, hassigned, hends⟩ := hspelt.assigned
  have hbytes : ∀ b ∈ after, isValueByte b = true := fun b hb =>
    isValueByte_of_disposition? hd b (hspelt.split ▸ List.mem_append_right _ hb)
  obtain ⟨tabs, htabs, hcases, hfound⟩ :=
    attributeValue?_of_assigned? hassigned hends hbytes hplain
  have hsearch : attribute? "filename" d = some (value ++ tabs) :=
    attribute?_eq_some_iff.mpr ⟨before, after, hfirst, hfound⟩
  have hfile {name : String} (hname : Utf8.ofString name = value ++ tabs) :
      s.file? = some ⟨name, s.content⟩ := by
    refine file?_eq_some_iff.mpr ⟨d, hd, hname ▸ hsearch, ?_, rfl⟩
    rintro rfl
    exact hvalue (List.append_eq_nil_iff.mp hname.symm).1
  refine ⟨⟨fun hnone => ?_, fun hnone => ?_⟩, fun htab name hname => hfile ?_⟩
  · cases hread : Utf8.toString? value with
    | none => rfl
    | some name =>
      have htext : Utf8.ofString (name ++ Bytes.toAscii tabs) = value ++ tabs := by
        rw [Utf8.ofString_append, Utf8.ofString_of_toString? hread,
          ofString_toAscii fun b hb => by rw [htabs b hb]; decide]
      rw [hfile htext] at hnone
      cases hnone
  · cases hread : s.file? with
    | none => rfl
    | some f =>
      obtain ⟨d', hd', hname, -, -⟩ := file?_eq_some_iff.mp hread
      cases hd.symm.trans hd'
      obtain hname := Option.some.inj (hsearch.symm.trans hname)
      rcases hcases with rfl | htoken
      · rw [← List.append_nil value, hname, Utf8.toString?_ofString] at hnone
        cases hnone
      · rw [← ofString_toAscii fun b hb => lt_of_isTokenChar (htoken b hb),
          Utf8.toString?_ofString] at hnone
        cases hnone
  · obtain rfl : tabs = [] := by
      refine List.eq_nil_iff_forall_not_mem.mpr fun b hb => htab ?_
      rw [← htabs b hb]
      exact mem_of_attributeValue? hfound b (List.mem_append_right _ hb)
    rw [List.append_nil]
    exact Utf8.ofString_of_toString? hname

end Section

end StorageGateway.Multipart
