import StorageGateway.Multipart.PartHeader
import StorageGateway.Proofs.Bytes.Cut
import StorageGateway.Proofs.Text.Strict

/-!
# The search for a file name

The file name of a part is found by searching its `Content-Disposition` value for the word
`filename`. An occurrence counts after white space, after a semicolon, and right behind another
occurrence. A value therefore misleads the search when such an occurrence stands in front of the
attribute, and only then. The quoted text of the attribute is taken up to the first quote without a
backslash before it: a name that ends in a backslash hides the quote behind it, and none is found.

## Main definitions

* `Multipart.word`: the word that is searched for.
* `Multipart.Misleads`: texts in which an occurrence of it counts.
* `Multipart.Assigns`: texts in which an occurrence is given a value.

## Main results

* `Multipart.attributeFrom_of_passes`: text in which no occurrence counts is passed.
* `Multipart.attributeFrom_of_misleads`: text that misleads the search ends it.
* `Multipart.attributeValue?_quoted`: a text in quotes.
* `Multipart.mem_of_attribute?`: what is found stands in the value.
-/

namespace StorageGateway.Multipart

/-- The word that is searched for. -/
def word : Bytes := [0x66, 0x69, 0x6C, 0x65, 0x6E, 0x61, 0x6D, 0x65]

theorem attribute?_filename (value : Bytes) :
    attribute? "filename" value = attributeFrom word (value.length + 1) value := by
  have hword : Bytes.ofAscii "filename" = word := by decide
  rw [attribute?, hword]

/-- A text in which an occurrence of the word counts that does not stand at its start. -/
def Misleads (text : Bytes) : Prop :=
  0x20 :: word <:+: text ∨ 0x3B :: word <:+: text ∨ word ++ word <:+: text

instance (text : Bytes) : Decidable (Misleads text) := inferInstanceAs (Decidable (_ ∨ _ ∨ _))

/-- A text that gives the word a value: an equals sign stands behind it, possibly after blanks. -/
def Assigns (text : Bytes) : Prop :=
  ∃ blanks, (∀ b ∈ blanks, Ascii.isSpace b = true) ∧ word ++ blanks ++ [0x3D] <:+: text

/-- A text in which no occurrence of the word counts. -/
structure Passes (text : Bytes) : Prop where
  start : ¬word <+: text
  inside : ¬Misleads text
  plain : ∀ b ∈ text, 0x20 ≤ b

/-! ### Passing text -/

theorem Misleads.mono {text whole : Bytes} (h : Misleads text) (hsub : text <:+: whole) :
    Misleads whole :=
  h.imp (·.trans hsub) (Or.imp (·.trans hsub) (·.trans hsub))

/-- What stands behind an occurrence that does not count. -/
theorem Passes.rest {before rest : Bytes} (h : Passes (before ++ word ++ rest)) : Passes rest := by
  refine ⟨?_, fun hmisleads => h.inside (hmisleads.mono (List.suffix_append _ _).isInfix),
    fun b hb => h.plain b (List.mem_append_right _ hb)⟩
  rintro ⟨more, rfl⟩
  refine h.inside (.inr (.inr ⟨before, more, ?_⟩))
  simp only [List.append_assoc]

/-- An occurrence in such a text does not count. -/
theorem Passes.getLast? {before rest : Bytes} (h : Passes (before ++ word ++ rest)) :
    ∃ b, before.getLast? = some b ∧ Ascii.isSpace b = false ∧ b ≠ 0x3B := by
  rcases List.eq_nil_or_concat' before with rfl | ⟨front, b, rfl⟩
  · exact absurd ⟨rest, rfl⟩ h.start
  · have hne {c : UInt8} (hc : ¬c :: word <:+: front ++ [b] ++ word ++ rest) : b ≠ c := by
      rintro rfl
      exact hc ⟨front, rest, by simp⟩
    have hplain : 0x20 ≤ b := h.plain b (by simp)
    have hspace : b ≠ 0x20 := hne fun hi => h.inside (.inl hi)
    have hsemicolon : b ≠ 0x3B := hne fun hi => h.inside (.inr (.inl hi))
    refine ⟨b, List.getLast?_concat, ?_, hsemicolon⟩
    have hlow {c : UInt8} (hc : c < 0x20) : b ≠ c := by
      rintro rfl
      exact absurd hplain (UInt8.not_le.mpr hc)
    simp [Ascii.isSpace, Ascii.isBlank, hspace, hlow (c := 0x09) (by decide),
      hlow (c := 0x0A) (by decide), hlow (c := 0x0C) (by decide), hlow (c := 0x0D) (by decide)]

/-- Text in which no occurrence counts is passed, up to a quote; behind the quote the search finds
what it would find there, as long as the next occurrence follows a space. -/
theorem attributeFrom_of_passes {text rest : Bytes} (h : Passes text)
    (hrest : ∀ before after, Bytes.cut? word rest = some (before, after) →
      before.getLast? = some 0x20) {fuel : Nat} (hfuel : text.length < fuel) :
    attributeFrom word fuel (text ++ 0x22 :: rest) =
      (Bytes.cut? word rest).bind fun r => attributeValue? r.2 := by
  induction fuel generalizing text with
  | zero => omega
  | succ fuel ih =>
    rw [attributeFrom, Bytes.cut?_append_cons_of_notMem (by decide) (by decide)]
    cases hcut : Bytes.cut? word text with
    | none =>
      rw [Option.map_none, Option.none_or]
      cases hnext : Bytes.cut? word rest with
      | none => rfl
      | some r =>
        obtain ⟨before, after⟩ := r
        have hlast : (text ++ 0x22 :: before).getLast? = some 0x20 := by
          rw [List.getLast?_append, List.getLast?_cons, hrest before after hnext]
          rfl
        simp only [Option.map_some, Option.bind_some, hlast]
        rfl
    | some r =>
      obtain ⟨before, after⟩ := r
      have htext := Bytes.eq_of_cut? hcut
      rw [htext] at h hfuel
      obtain ⟨b, hlast, hspace, hsemicolon⟩ := h.getLast?
      simp only [List.length_append] at hfuel
      have hword : 0 < word.length := by decide
      simp only [Option.map_some, Option.some_or, Option.bind_some, hlast, hspace, Bool.false_or,
        beq_iff_eq, hsemicolon, if_false]
      exact ih h.rest (by omega)

/-! ### Misleading text -/

theorem Assigns.mono {text whole : Bytes} (h : Assigns text) (hsub : text <:+: whole) :
    Assigns whole := by
  obtain ⟨blanks, hblanks, hi⟩ := h
  exact ⟨blanks, hblanks, hi.trans hsub⟩

/-- Behind an occurrence that is given no value, no value is found. -/
theorem attributeValue?_of_not_assigns {before after : Bytes}
    (h : ¬Assigns (before ++ word ++ after)) (rest : Bytes) :
    attributeValue? (after ++ 0x22 :: rest) = none := by
  rw [attributeValue?]
  rcases hdrop : after.dropWhile Ascii.isSpace with - | ⟨b, tail⟩
  · rw [List.dropWhile_append, hdrop, List.isEmpty_nil, if_pos rfl,
      List.dropWhile_cons_of_neg (by decide)]
    rfl
  · rw [Bytes.dropWhile_append_of_ne_nil hdrop]
    split
    · next more heq =>
      obtain ⟨rfl, -⟩ := List.cons.inj heq
      have hsplit : after.takeWhile Ascii.isSpace ++ 0x3D :: tail = after := by
        rw [← hdrop, List.takeWhile_append_dropWhile]
      have hblanks : ∀ b ∈ after.takeWhile Ascii.isSpace, Ascii.isSpace b = true := fun b hb =>
        List.all_eq_true.mp (List.all_takeWhile) b hb
      refine absurd ⟨after.takeWhile Ascii.isSpace, hblanks, before, tail, ?_⟩ h
      rw [← congrArg (before ++ word ++ ·) hsplit]
      simp only [List.append_assoc, List.singleton_append]
    · rfl

/-- In a text that misleads the search, the first occurrence counts or the text behind it misleads
the search as well. -/
theorem Misleads.rest {text before after : Bytes} (h : Misleads text)
    (hcut : Bytes.cut? word text = some (before, after)) :
    (∃ b, before.getLast? = some b ∧ (Ascii.isSpace b || b == 0x3B) = true) ∨
      word <+: after ∨ Misleads after := by
  have hoccurs (front back : Bytes) (heq : text = front ++ (word ++ back)) :
      (front = before ∧ back = after) ∨
        ∃ middle, front = before ++ word ++ middle ∧ after = middle ++ (word ++ back) :=
    Bytes.occurrence_of_cut? (by decide) hcut heq
  have hafter {c : UInt8} (hc : (Ascii.isSpace c || c == 0x3B) = true) (hlast : c ≠ 0x65)
      (hi : c :: word <:+: text) :
      (∃ b, before.getLast? = some b ∧ (Ascii.isSpace b || b == 0x3B) = true) ∨
        c :: word <:+: after := by
    obtain ⟨front, back, rfl⟩ := hi
    rcases hoccurs (front ++ [c]) back (by simp) with
      ⟨rfl, -⟩ | ⟨middle, hfront, rfl⟩
    · exact .inl ⟨c, List.getLast?_concat, hc⟩
    · rcases List.eq_nil_or_concat' middle with rfl | ⟨middle, d, rfl⟩
      · have hend := congrArg List.getLast? hfront
        rw [List.getLast?_concat, List.append_nil, List.getLast?_append] at hend
        exact absurd (Option.some.inj hend) hlast
      · rw [← List.append_assoc] at hfront
        obtain ⟨-, rfl⟩ := List.append_inj' hfront rfl |>.imp_right List.singleton_inj.mp
        exact .inr ⟨middle, back, by simp⟩
  rcases h with hi | hi | hi
  · rcases hafter (c := 0x20) (by decide) (by decide) hi with hcounts | hi
    · exact .inl hcounts
    · exact .inr (.inr (.inl hi))
  · rcases hafter (c := 0x3B) (by decide) (by decide) hi with hcounts | hi
    · exact .inl hcounts
    · exact .inr (.inr (.inr (.inl hi)))
  · obtain ⟨front, back, rfl⟩ := hi
    rcases hoccurs front (word ++ back) (by simp) with
      ⟨-, rfl⟩ | ⟨middle, -, rfl⟩
    · exact .inr (.inl (List.prefix_append _ _))
    · exact .inr (.inr (.inr (.inr ⟨middle, back, by simp⟩)))

/-- In a text that misleads the search and gives the word no value, nothing is found. -/
theorem attributeFrom_of_misleads {text : Bytes} (hword : word <+: text ∨ Misleads text)
    (hvalue : ¬Assigns text) (fuel : Nat) (rest : Bytes) :
    attributeFrom word fuel (text ++ 0x22 :: rest) = none := by
  induction fuel generalizing text with
  | zero => rfl
  | succ fuel ih =>
    cases hcut : Bytes.cut? word text with
    | none =>
      refine absurd ?_ (Bytes.cut?_eq_none_iff.mp hcut)
      rcases hword with hstart | hi | hi | hi
      · exact hstart.isInfix
      · exact (List.suffix_cons 0x20 word).isInfix.trans hi
      · exact (List.suffix_cons 0x3B word).isInfix.trans hi
      · exact (List.prefix_append word word).isInfix.trans hi
    | some r =>
      obtain ⟨before, after⟩ := r
      have htext := Bytes.eq_of_cut? hcut
      have hnone := attributeValue?_of_not_assigns (htext ▸ hvalue) rest
      rw [attributeFrom, Bytes.cut?_append_right _ hcut, Option.bind_some]
      dsimp only
      split
      · exact hnone
      · next b hlast =>
        split
        · exact hnone
        · next hnot =>
          have hafter : after <:+: text := htext ▸ (List.suffix_append _ _).isInfix
          refine ih ?_ fun hassigns => hvalue (hassigns.mono hafter)
          rcases hword with hstart | hmisleads
          · obtain ⟨more, rfl⟩ := hstart
            rw [Bytes.cut?_append_self] at hcut
            cases hcut
            cases hlast
          · rcases hmisleads.rest hcut with ⟨c, hc, hcounts⟩ | hmore
            · cases hlast.symm.trans hc
              exact absurd hcounts hnot
            · exact hmore

/-! ### Quoted text -/

/-- A quoted text without quotes inside ends at its closing quote, unless a backslash stands right
before that. -/
theorem quotedFrom_append {text : Bytes} (h : 0x22 ∉ text) (seen : Bytes) :
    quotedFrom seen (text ++ [0x22]) =
      if (text.reverse ++ seen).head? = some 0x5C then none else some (seen.reverse ++ text) := by
  induction text generalizing seen with
  | nil =>
    rw [List.nil_append, quotedFrom, List.reverse_nil, List.nil_append, List.append_nil]
    by_cases hseen : seen.head? = some 0x5C
    · rw [if_neg (by simp [hseen]), if_pos hseen, quotedFrom]
    · rw [if_pos ⟨rfl, hseen⟩, if_neg hseen]
  | cons b text ih =>
    obtain ⟨hb, htext⟩ := not_or.mp (mt List.mem_cons.mpr h)
    rw [List.cons_append, quotedFrom, if_neg (fun hquote => hb hquote.1.symm), ih htext]
    simp

theorem unquoteFrom_of_notMem {text : Bytes} (h : 0x22 ∉ text) (seen : Bytes) :
    unquoteFrom seen text = seen.reverse ++ text := by
  induction seen, text using unquoteFrom.induct with
  | case1 seen => simp [unquoteFrom]
  | case2 seen rest ih => simp at h
  | case3 seen b rest hno ih =>
    rw [unquoteFrom.eq_3 _ _ _ hno, ih fun hmem => h (List.mem_cons_of_mem b hmem)]
    simp

/-- The value of an attribute whose text stands in quotes. -/
theorem attributeValue?_quoted {text : Bytes} (h : 0x22 ∉ text) :
    attributeValue? (0x3D :: 0x22 :: (text ++ [0x22])) =
      if text.getLast? = some 0x5C then none else some text := by
  have hvalue : attributeValue? (0x3D :: 0x22 :: (text ++ [0x22])) =
      (quotedFrom [] (text ++ [0x22])).map (unquoteFrom []) := rfl
  rw [hvalue, quotedFrom_append h, List.append_nil, List.head?_reverse]
  split
  · rfl
  · rw [Option.map_some, List.reverse_nil, List.nil_append, unquoteFrom_of_notMem h,
      List.reverse_nil, List.nil_append]

/-! ### What is found -/

theorem mem_of_quotedFrom {seen bs out : Bytes} (h : quotedFrom seen bs = some out) :
    ∀ b ∈ out, b ∈ seen ∨ b ∈ bs := by
  induction bs generalizing seen with
  | nil => cases h
  | cons c bs ih =>
    rw [quotedFrom] at h
    split at h
    · cases h
      exact fun b hb => .inl (List.mem_reverse.mp hb)
    · intro b hb
      rcases ih h b hb with hmem | hmem
      · rcases List.mem_cons.mp hmem with rfl | hmem
        · exact .inr List.mem_cons_self
        · exact .inl hmem
      · exact .inr (List.mem_cons_of_mem c hmem)

theorem mem_of_unquoteFrom {seen bs : Bytes} : ∀ b ∈ unquoteFrom seen bs, b ∈ seen ∨ b ∈ bs := by
  induction seen, bs using unquoteFrom.induct with
  | case1 seen => simp [unquoteFrom]
  | case2 seen rest ih =>
    intro b hb
    rw [unquoteFrom] at hb
    rcases ih b hb with hmem | hmem
    · rcases List.mem_cons.mp hmem with rfl | hmem
      · exact .inr (by simp)
      · exact .inl hmem
    · exact .inr (by simp [hmem])
  | case3 seen c rest hno ih =>
    intro b hb
    rw [unquoteFrom.eq_3 _ _ _ hno] at hb
    rcases ih b hb with hmem | hmem
    · rcases List.mem_cons.mp hmem with rfl | hmem
      · exact .inr List.mem_cons_self
      · exact .inl hmem
    · exact .inr (List.mem_cons_of_mem c hmem)

theorem mem_of_dropWhile {p : UInt8 → Bool} {bs : Bytes} {b : UInt8} (h : b ∈ bs.dropWhile p) :
    b ∈ bs :=
  (List.dropWhile_suffix p).subset h

theorem mem_of_attributeValue? {bs out : Bytes} (h : attributeValue? bs = some out) :
    ∀ b ∈ out, b ∈ bs := by
  intro b hb
  rw [attributeValue?] at h
  split at h
  · next rest hrest =>
    refine mem_of_dropWhile (p := Ascii.isSpace) (hrest ▸ List.mem_cons_of_mem _ ?_)
    split at h
    · next inner hinner =>
      obtain ⟨quoted, hquoted, rfl⟩ := Option.map_eq_some_iff.mp h
      refine mem_of_dropWhile (p := Ascii.isSpace) (hinner ▸ List.mem_cons_of_mem _ ?_)
      have hmem := (mem_of_unquoteFrom b hb).resolve_left List.not_mem_nil
      exact (mem_of_quotedFrom hquoted b hmem).resolve_left List.not_mem_nil
    · cases h
      exact mem_of_dropWhile ((List.takeWhile_prefix _).subset hb)
  · cases h

theorem mem_of_attributeFrom {name bs out : Bytes} {fuel : Nat}
    (h : attributeFrom name fuel bs = some out) : ∀ b ∈ out, b ∈ bs := by
  induction fuel generalizing bs with
  | zero => cases h
  | succ fuel ih =>
    obtain ⟨⟨before, after⟩, hcut, h⟩ := Option.bind_eq_some_iff.mp h
    intro b hb
    rw [Bytes.eq_of_cut? hcut]
    refine List.mem_append_right _ ?_
    dsimp only at h
    split at h
    · exact mem_of_attributeValue? h b hb
    · split at h
      · exact mem_of_attributeValue? h b hb
      · exact ih h b hb

/-- What is found stands in the value. -/
theorem mem_of_attribute? {name : String} {value out : Bytes}
    (h : attribute? name value = some out) : ∀ b ∈ out, b ∈ value :=
  mem_of_attributeFrom h

end StorageGateway.Multipart
