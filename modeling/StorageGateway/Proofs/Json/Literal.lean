import StorageGateway.Json.Quoted
import StorageGateway.Proofs.Json.Token
import StorageGateway.Proofs.Text.Decimal
import StorageGateway.Proofs.Text.Strict

/-!
# What literals spell

A string spells a text character by character: a character stands as its UTF-8 bytes, or as the
UTF-16 units that it consists of. A string that spells no text in this way has none, whether its
bytes are malformed or a surrogate stands alone, and a string spells at most one text. A number
spells an integer only in its plain decimal form.

## Main definitions

* `Json.SpellsChars`, `Json.Literal.Spells`: the texts that string literals spell.

## Main results

* `Json.text?_eq_some_iff`: the text of a literal is what it spells.
* `Json.tokenText_quote`: the literal that is written for a text spells this text.
* `Json.integer?_eq_some_iff`: integers stand in plain decimal form.
-/

namespace StorageGateway.Json

open Utf8

/-! ### Strings -/

/-- The characters that are written as UTF-16 units. -/
inductive EscapedChar : Literal → Char → Prop
  | unit {n : Nat} (noSurrogate : ¬(0xD800 ≤ n ∧ n ≤ 0xDFFF)) :
      EscapedChar [.unit n] (Char.ofNat n)
  | pair {n m : Nat} (high : 0xD800 ≤ n ∧ n ≤ 0xDBFF) (low : 0xDC00 ≤ m ∧ m ≤ 0xDFFF) :
      EscapedChar [.unit n, .unit m] (Char.ofNat (0x10000 + (n - 0xD800) * 0x400 + (m - 0xDC00)))

/-- The characters that a literal spells. -/
inductive SpellsChars : Literal → List Char → Prop
  | nil : SpellsChars [] []
  | plain (c : Char) {l : Literal} {cs : List Char} (others : SpellsChars l cs) :
      SpellsChars ((encodeChar c).map .byte ++ l) (c :: cs)
  | escaped {parts : Literal} {c : Char} (first : EscapedChar parts c) {l : Literal}
      {cs : List Char} (others : SpellsChars l cs) : SpellsChars (parts ++ l) (c :: cs)

/-- The texts that a literal spells. -/
def Literal.Spells (l : Literal) (s : String) : Prop := SpellsChars l s.toList

theorem EscapedChar.length_pos {parts : Literal} {c : Char} (h : EscapedChar parts c) :
    0 < parts.length := by
  cases h <;> simp

theorem bytesFrom_byte (seen bs : Bytes) (l : Literal) :
    Literal.bytesFrom seen (bs.map .byte ++ l) = Literal.bytesFrom (bs.reverse ++ seen) l := by
  induction bs generalizing seen with
  | nil => rfl
  | cons b bs ih =>
    rw [List.map_cons, List.cons_append, Literal.bytesFrom, ih, List.reverse_cons,
      List.append_assoc]
    rfl

theorem bytesFrom_escaped {parts : Literal} {c : Char} (h : EscapedChar parts c) (seen : Bytes)
    (l : Literal) : Literal.bytesFrom seen (parts ++ l) =
      Literal.bytesFrom ((encodeChar c).reverse ++ seen) l := by
  cases h with
  | unit hn =>
    rw [List.singleton_append, Literal.bytesFrom.eq_def]
    simp only
    rw [if_neg (by omega), if_neg (by omega)]
  | pair hn hm =>
    rw [List.cons_append, List.singleton_append, Literal.bytesFrom.eq_def]
    simp only
    rw [if_neg (by omega), if_pos hn, if_pos hm]

theorem bytesFrom_of_spellsChars {l : Literal} {cs : List Char} (h : SpellsChars l cs)
    (seen : Bytes) : l.bytesFrom seen = some (seen.reverse ++ encode cs) := by
  induction h generalizing seen with
  | nil => rw [Literal.bytesFrom, encode, List.flatMap_nil, List.append_nil]
  | plain c _ ih =>
    rw [bytesFrom_byte, ih, encode_cons, List.reverse_append, List.reverse_reverse,
      List.append_assoc]
  | escaped hc _ ih =>
    rw [bytesFrom_escaped hc, ih, encode_cons, List.reverse_append, List.reverse_reverse,
      List.append_assoc]

/-- The first character or byte of a literal that has bytes. -/
theorem bytesFrom_cases {seen : Bytes} {l : Literal} {bs : Bytes}
    (h : Literal.bytesFrom seen l = some bs) :
    (l = [] ∧ bs = seen.reverse) ∨
      (∃ b rest, l = .byte b :: rest ∧ Literal.bytesFrom (b :: seen) rest = some bs) ∨
      ∃ parts c rest, l = parts ++ rest ∧ EscapedChar parts c ∧
        Literal.bytesFrom ((encodeChar c).reverse ++ seen) rest = some bs := by
  rcases l with - | ⟨b | n, rest⟩
  · exact .inl ⟨rfl, (Option.some.inj h).symm⟩
  · exact .inr (.inl ⟨b, rest, rfl, h⟩)
  · refine .inr (.inr ?_)
    rw [Literal.bytesFrom.eq_def] at h
    simp only at h
    split at h
    · cases h
    next hlow =>
      split at h
      · next hhigh =>
        split at h
        · next m rest =>
          split at h
          · next hm => exact ⟨_, _, rest, rfl, .pair hhigh hm, h⟩
          · cases h
        · cases h
      · next hhigh => exact ⟨_, _, rest, rfl, .unit (by omega), h⟩

/-- Bytes that were read stay. -/
theorem bytesFrom_eq_append {seen : Bytes} {l : Literal} {bs : Bytes}
    (h : Literal.bytesFrom seen l = some bs) : ∃ more, bs = seen.reverse ++ more := by
  induction hlength : l.length using Nat.strong_induction_on generalizing seen l with
  | _ length ih =>
    rcases bytesFrom_cases h with
      ⟨-, rfl⟩ | ⟨b, rest, rfl, hrest⟩ | ⟨parts, c, rest, rfl, hc, hrest⟩
    · exact ⟨[], (List.append_nil _).symm⟩
    · obtain ⟨more, rfl⟩ := ih rest.length (by simp [← hlength]) hrest rfl
      exact ⟨b :: more, by simp⟩
    · have hshort : rest.length < length := by
        rw [← hlength, List.length_append]
        exact Nat.lt_add_of_pos_left hc.length_pos
      obtain ⟨more, rfl⟩ := ih rest.length hshort hrest rfl
      exact ⟨encodeChar c ++ more, by simp⟩

/-- Inner bytes are no part of an escaped character. -/
theorem exists_of_bytesFrom_inner {seen inner more : Bytes} {l : Literal}
    (h : Literal.bytesFrom seen l = some (seen.reverse ++ (inner ++ more)))
    (hinner : ∀ b ∈ inner, IsInner b) :
    ∃ rest, l = inner.map .byte ++ rest ∧
      Literal.bytesFrom (inner.reverse ++ seen) rest = some (seen.reverse ++ (inner ++ more)) := by
  induction inner generalizing seen l with
  | nil => exact ⟨l, rfl, h⟩
  | cons b inner ih =>
    rcases bytesFrom_cases h with
      ⟨-, hnil⟩ | ⟨b', rest, rfl, hrest⟩ | ⟨parts, c, rest, rfl, -, hrest⟩
    · simp at hnil
    · obtain ⟨more', hmore⟩ := bytesFrom_eq_append hrest
      rw [List.reverse_cons, List.append_assoc, List.append_cancel_left_eq, List.cons_append,
        List.singleton_append, List.cons.injEq] at hmore
      obtain ⟨rfl, -⟩ := hmore
      have hsplit : seen.reverse ++ (b :: inner ++ more) =
          (b :: seen).reverse ++ (inner ++ more) := by simp
      rw [hsplit] at hrest ⊢
      obtain ⟨l', rfl, hl'⟩ := ih hrest fun d hd => hinner d (List.mem_cons_of_mem b hd)
      exact ⟨l', rfl, by simpa using hl'⟩
    · obtain ⟨more', hmore⟩ := bytesFrom_eq_append hrest
      obtain ⟨first, tail, hc, hfirst, -, -⟩ := exists_cons_encodeChar c
      rw [List.reverse_append, List.reverse_reverse, List.append_assoc,
        List.append_cancel_left_eq, hc, List.cons_append, List.cons_append, List.cons.injEq]
        at hmore
      exact absurd (hmore.1 ▸ hinner b List.mem_cons_self) hfirst

/-- A literal whose bytes start with a character starts with this character. -/
theorem exists_of_bytesFrom_encodeChar {seen more : Bytes} {l : Literal} {c : Char}
    (h : Literal.bytesFrom seen l = some (seen.reverse ++ (encodeChar c ++ more))) :
    ∃ parts rest, l = parts ++ rest ∧ (parts = (encodeChar c).map .byte ∨ EscapedChar parts c) ∧
      Literal.bytesFrom ((encodeChar c).reverse ++ seen) rest =
        some (seen.reverse ++ (encodeChar c ++ more)) := by
  obtain ⟨first, inner, hc, -, hinner, -⟩ := exists_cons_encodeChar c
  rcases bytesFrom_cases h with
    ⟨-, hnil⟩ | ⟨b, rest, rfl, hrest⟩ | ⟨parts, d, rest, rfl, hd, hrest⟩
  · simp [hc] at hnil
  · obtain ⟨more', hmore⟩ := bytesFrom_eq_append hrest
    rw [List.reverse_cons, List.append_assoc, List.append_cancel_left_eq, hc, List.cons_append,
      List.singleton_append, List.cons.injEq] at hmore
    obtain ⟨rfl, -⟩ := hmore
    have hsplit : seen.reverse ++ (encodeChar c ++ more) =
        (first :: seen).reverse ++ (inner ++ more) := by simp [hc]
    rw [hsplit] at hrest ⊢
    obtain ⟨l', rfl, hl'⟩ := exists_of_bytesFrom_inner hrest hinner
    refine ⟨_, l', ?_, .inl rfl, ?_⟩
    · rw [hc]
      rfl
    · rw [← hl', hc]
      simp
  · obtain ⟨more', hmore⟩ := bytesFrom_eq_append hrest
    rw [List.reverse_append, List.reverse_reverse, List.append_assoc,
      List.append_cancel_left_eq] at hmore
    obtain ⟨rfl, -⟩ := encodeChar_append_inj hmore
    exact ⟨parts, rest, rfl, .inr hd, hrest⟩

/-- A literal without further bytes is empty. -/
theorem eq_nil_of_bytesFrom {seen : Bytes} {l : Literal}
    (h : Literal.bytesFrom seen l = some seen.reverse) : l = [] := by
  rcases bytesFrom_cases h with ⟨rfl, -⟩ | ⟨b, rest, -, hrest⟩ | ⟨parts, c, rest, -, -, hrest⟩
  · rfl
  · obtain ⟨more, hmore⟩ := bytesFrom_eq_append hrest
    simp at hmore
  · obtain ⟨more, hmore⟩ := bytesFrom_eq_append hrest
    obtain ⟨first, inner, hc, -⟩ := exists_cons_encodeChar c
    simp [hc] at hmore

/-- A literal whose bytes are those of a text spells it. -/
theorem spellsChars_of_bytesFrom {seen : Bytes} {l : Literal} {cs : List Char}
    (h : Literal.bytesFrom seen l = some (seen.reverse ++ encode cs)) : SpellsChars l cs := by
  induction cs generalizing seen l with
  | nil =>
    rw [encode, List.flatMap_nil, List.append_nil] at h
    rw [eq_nil_of_bytesFrom h]
    exact .nil
  | cons c cs ih =>
    rw [encode_cons] at h
    obtain ⟨parts, rest, rfl, hparts, hrest⟩ := exists_of_bytesFrom_encodeChar h
    have hothers : SpellsChars rest cs := by
      refine ih (hrest.trans ?_)
      rw [List.reverse_append, List.reverse_reverse, List.append_assoc]
    rcases hparts with rfl | hescaped
    · exact .plain c hothers
    · exact .escaped hescaped hothers

/-- The text of a literal is what it spells. -/
theorem text?_eq_some_iff {l : Literal} {s : String} : l.text? = some s ↔ l.Spells s := by
  constructor
  · intro h
    obtain ⟨bs, hbs, hs⟩ := Option.bind_eq_some_iff.mp h
    have hread : Literal.bytesFrom [] l = some (([] : Bytes).reverse ++ encode s.toList) := by
      rw [hbs, ← ofString_of_toString? hs]
      rfl
    exact spellsChars_of_bytesFrom hread
  · intro h
    rw [Literal.text?, bytesFrom_of_spellsChars h []]
    exact toString?_ofString s

/-- A literal spells at most one text. -/
theorem Literal.Spells.unique {l : Literal} {s t : String} (hs : l.Spells s) (ht : l.Spells t) :
    s = t :=
  Option.some.inj ((text?_eq_some_iff.mpr hs).symm.trans (text?_eq_some_iff.mpr ht))

/-! ### Written strings -/

theorem LiteralText.append {l m : Literal} {text rest : Bytes} (hl : LiteralText l text)
    (hm : LiteralText m rest) : LiteralText (l ++ m) (text ++ rest) := by
  induction hl with
  | nil => exact hm
  | cons hfirst _ ih =>
    rw [List.cons_append, List.append_assoc]
    exact .cons hfirst ih

theorem literalText_singleton {part : Part} {text : Bytes} (h : PartText part text) :
    LiteralText [part] text := by
  have hcons := LiteralText.cons h .nil
  rwa [List.append_nil] at hcons

/-- Bytes that need no escape. -/
theorem literalText_plain {bs : Bytes} (h : ∀ b ∈ bs, 0x20 ≤ b ∧ b ≠ 0x22 ∧ b ≠ 0x5C) :
    LiteralText (bs.map .byte) bs := by
  induction bs with
  | nil => exact .nil
  | cons b bs ih =>
    obtain ⟨hcontrol, hquote, hescape⟩ := h b List.mem_cons_self
    exact .cons (.plain hcontrol hquote hescape) (ih fun c hc => h c (List.mem_cons_of_mem b hc))

/-- The literal in which each character stands for itself. -/
def Literal.plain (s : String) : Literal := (ofString s).map .byte

theorem tokenText_plain {s : String}
    (h : ((ofString s).all fun b => decide (0x20 ≤ b ∧ b ≠ 0x22 ∧ b ≠ 0x5C)) = true) :
    TokenText (.string (.plain s)) (0x22 :: (ofString s ++ [0x22])) :=
  .string (literalText_plain (forall_mem_of_all h))

theorem Literal.Spells.plain (s : String) : (Literal.plain s).Spells s := by
  have hchars (cs : List Char) : SpellsChars ((encode cs).map .byte) cs := by
    induction cs with
    | nil => exact .nil
    | cons c cs ih =>
      rw [encode_cons, List.map_append]
      exact .plain c ih
  exact hchars s.toList

/-- A surrogate that stands alone is a string, but it spells no text. -/
theorem tokenText_surrogate :
    TokenText (.string [.unit 0xD800]) (0x22 :: ([0x5C, 0x75, 0x64, 0x38, 0x30, 0x30] ++ [0x22])) ∧
      ∀ s, ¬Literal.Spells [.unit 0xD800] s := by
  have hd : Ascii.hexValue? 0x64 = some 13 := rfl
  have height : Ascii.hexValue? 0x38 = some 8 := rfl
  have hzero : Ascii.hexValue? 0x30 = some 0 := rfl
  refine ⟨.string (literalText_singleton (PartText.unit hd height hzero hzero)), fun s hs => ?_⟩
  cases text?_eq_some_iff.mpr hs

/-- A character with a short escape. -/
theorem literalText_short (mark b : UInt8) {c letter : Char} (hmark : (mark, b) ∈ shortEscapes)
    (htext : encode ['\\', letter] = [0x5C, mark]) (hc : encodeChar c = [b]) :
    ∃ parts, LiteralText parts (encode ['\\', letter]) ∧
      ∀ {l cs}, SpellsChars l cs → SpellsChars (parts ++ l) (c :: cs) := by
  refine ⟨[.byte b], htext ▸ literalText_singleton (.short hmark), fun h => ?_⟩
  have hplain := SpellsChars.plain c h
  rwa [hc] at hplain

/-- A control character without a short escape. -/
theorem literalText_control {c : Char} (hc : c.toNat < 0x20) :
    ∃ parts, LiteralText parts (encode ['\\', 'u', '0', '0', Ascii.lowerHex (c.toNat / 16),
        Ascii.lowerHex (c.toNat % 16)]) ∧
      ∀ {l cs}, SpellsChars l cs → SpellsChars (parts ++ l) (c :: cs) := by
  have hall : ∀ n < 0x20,
      encode ['\\', 'u', '0', '0', Ascii.lowerHex (n / 16), Ascii.lowerHex (n % 16)] =
        [0x5C, 0x75, 0x30, 0x30, UInt8.ofNat (Ascii.lowerHex (n / 16)).toNat,
          UInt8.ofNat (Ascii.lowerHex (n % 16)).toNat] ∧
      Ascii.hexValue? (UInt8.ofNat (Ascii.lowerHex (n / 16)).toNat) = some (n / 16) ∧
      Ascii.hexValue? (UInt8.ofNat (Ascii.lowerHex (n % 16)).toNat) = some (n % 16) := by
    decide +kernel
  obtain ⟨htext, hhigh, hlow⟩ := hall c.toNat hc
  have hzero : Ascii.hexValue? 0x30 = some 0 := rfl
  have hpart := PartText.unit hzero hzero hhigh hlow
  rw [show 16 * (16 * (16 * 0 + 0) + c.toNat / 16) + c.toNat % 16 = c.toNat by omega] at hpart
  refine ⟨[.unit c.toNat], htext ▸ literalText_singleton hpart, fun h => ?_⟩
  have hunit := EscapedChar.unit (n := c.toNat) (by omega)
  rw [Char.ofNat_toNat] at hunit
  exact .escaped hunit h

/-- What is written for a character spells it. -/
theorem literalText_quoteChar (c : Char) :
    ∃ parts, LiteralText parts (encode (quoteChar c)) ∧
      ∀ {l cs}, SpellsChars l cs → SpellsChars (parts ++ l) (c :: cs) := by
  rw [quoteChar]
  split_ifs with hquote hescape hn hr ht hb hf hcontrol
  · exact literalText_short 0x22 0x22 (by decide) (by decide) (hquote ▸ by decide)
  · exact literalText_short 0x5C 0x5C (by decide) (by decide) (hescape ▸ by decide)
  · exact literalText_short 0x6E 0x0A (by decide) (by decide) (hn ▸ by decide)
  · exact literalText_short 0x72 0x0D (by decide) (by decide) (hr ▸ by decide)
  · exact literalText_short 0x74 0x09 (by decide) (by decide) (ht ▸ by decide)
  · exact literalText_short 0x62 0x08 (by decide) (by decide) (hb ▸ by decide)
  · exact literalText_short 0x66 0x0C (by decide) (by decide) (hf ▸ by decide)
  · exact literalText_control hcontrol
  · have hbytes : encode [c] = encodeChar c := List.flatMap_singleton ..
    refine ⟨(encodeChar c).map .byte, hbytes ▸ literalText_plain fun b hb' => ?_, .plain c⟩
    rw [hbytes] at hb'
    rcases mem_encodeChar hb' with ⟨-, hbyte⟩ | ⟨-, hbyte⟩
    · have hne (d : Char) (hd : c ≠ d) : b.toNat ≠ d.toNat := by
        rw [hbyte]
        exact fun h => hd (Char.toNat_inj.mp h)
      refine ⟨UInt8.le_iff_toNat_le.mpr (hbyte ▸ Nat.not_lt.mp hcontrol), ?_, ?_⟩
      · rintro rfl
        exact hne '"' hquote rfl
      · rintro rfl
        exact hne '\\' hescape rfl
    · refine ⟨UInt8.le_iff_toNat_le.mpr (Nat.le_trans (by decide) hbyte), ?_, ?_⟩
      · rintro rfl
        exact absurd hbyte (by decide)
      · rintro rfl
        exact absurd hbyte (by decide)

/-- The literal that is written for a text spells this text. -/
theorem tokenText_quote (s : String) :
    ∃ l, TokenText (.string l) (ofString (quote s)) ∧ l.Spells s := by
  have hchars (cs : List Char) :
      ∃ l, LiteralText l (encode (cs.flatMap quoteChar)) ∧ SpellsChars l cs := by
    induction cs with
    | nil => exact ⟨[], .nil, .nil⟩
    | cons c cs ih =>
      obtain ⟨l, htext, hspells⟩ := ih
      obtain ⟨parts, hparts, hfirst⟩ := literalText_quoteChar c
      refine ⟨parts ++ l, ?_, hfirst hspells⟩
      rw [List.flatMap_cons, encode_append]
      exact hparts.append htext
  obtain ⟨l, htext, hspells⟩ := hchars s.toList
  have hquote : ofString (quote s) =
      0x22 :: (encode (s.toList.flatMap quoteChar) ++ [0x22]) := by
    have hmark : encodeChar '"' = [0x22] := by decide
    rw [quote, ofString, String.toList_ofList, encode_append, encode_cons, hmark]
    rfl
  exact ⟨l, hquote ▸ .string htext, hspells⟩

/-! ### Integers -/

/-- A number that consists of digits has neither fraction nor exponent. -/
theorem eq_nil_of_all_isDigit {fraction exponent : Bytes} (hfraction : FractionText fraction)
    (hexponent : ExponentText exponent)
    (hall : ∀ b ∈ fraction ++ exponent, Ascii.isDigit b = true) : fraction ++ exponent = [] := by
  have hhead : ∀ b ∈ (fraction ++ exponent).head?, Ascii.isDigit b = false := by
    cases hfraction with
    | absent => exact hexponent.head
    | present => exact fun b hb => Option.some.inj hb ▸ rfl
  rcases hrest : fraction ++ exponent with - | ⟨b, rest⟩
  · rfl
  · rw [hrest] at hall hhead
    have hdigit := hall b List.mem_cons_self
    rw [hhead b rfl] at hdigit
    cases hdigit

/-- Digits without a leading zero are the text of their value. -/
theorem IntegerText.eq_ofString {ds : Bytes} (h : IntegerText ds) :
    ds = ofString (toString (ofDigits ds)) :=
  (Decimal.ofString_toString_foldl h.isDigits.ne_nil h.isDigits.isDigit h.noZero).symm

theorem toString_ofNat (n : Nat) : toString (Int.ofNat n) = toString n := rfl

theorem ofString_negSucc (n : Nat) :
    ofString (toString (Int.negSucc n)) = 0x2D :: ofString (toString (n + 1)) := by
  have hsign : ofString "-" = [0x2D] := by decide
  have htext : toString (Int.negSucc n) = "-" ++ toString (n + 1) := rfl
  rw [htext, ofString_append, hsign, List.singleton_append]

theorem integer?_unsigned {ds : Bytes} (hsign : ds.head? ≠ some 0x2D) {n : Int} :
    integer? ds = some n ↔ (∀ d ∈ ds, Ascii.isDigit d = true) ∧ (ofDigits ds : Int) = n := by
  rw [integer?.eq_def]
  split
  · exact absurd rfl hsign
  · rw [Option.ite_none_right_eq_some, List.all_eq_true, Option.some.injEq]

theorem integer?_negative {ds : Bytes} {n : Int} : integer? (0x2D :: ds) = some n ↔
    (∀ d ∈ ds, Ascii.isDigit d = true) ∧ ofDigits ds ≠ 0 ∧ -(ofDigits ds : Int) = n := by
  simp only [integer?]
  rw [Option.ite_none_right_eq_some, Bool.and_eq_true, List.all_eq_true, bne_iff_ne, and_assoc,
    Option.some.injEq]

theorem head?_ne_of_isDigit {ds : Bytes} (h : ∀ d ∈ ds.head?, Ascii.isDigit d = true) :
    ds.head? ≠ some 0x2D := fun hsign => absurd (h 0x2D hsign) (by decide)

/-- Integers stand in plain decimal form. -/
theorem integer?_eq_some_iff {literal : Bytes} (h : NumberText literal) {n : Int} :
    integer? literal = some n ↔ literal = ofString (toString n) := by
  constructor
  · intro hn
    obtain @⟨sign, ds, fraction, exponent, hsign, hinteger, hfraction, hexponent⟩ := h
    have hnil (hall : ∀ b ∈ ds ++ (fraction ++ exponent), Ascii.isDigit b = true) :
        fraction ++ exponent = [] :=
      eq_nil_of_all_isDigit hfraction hexponent (List.forall_mem_append.mp hall).2
    rcases hsign with rfl | rfl
    · rw [List.nil_append] at hn ⊢
      have hhead : (ds ++ (fraction ++ exponent)).head? ≠ some 0x2D := by
        obtain ⟨d, ds, rfl⟩ := List.exists_cons_of_ne_nil hinteger.isDigits.ne_nil
        refine head?_ne_of_isDigit fun b hb => ?_
        exact Option.some.inj hb ▸ hinteger.isDigits.isDigit d List.mem_cons_self
      obtain ⟨hall, rfl⟩ := (integer?_unsigned hhead).mp hn
      rw [hnil hall, List.append_nil]
      exact hinteger.eq_ofString
    · rw [List.singleton_append] at hn ⊢
      obtain ⟨hall, hne, rfl⟩ := integer?_negative.mp hn
      rw [hnil hall, List.append_nil] at hne ⊢
      obtain ⟨m, hm⟩ := Nat.exists_eq_succ_of_ne_zero hne
      have hvalue : -(ofDigits ds : Int) = Int.negSucc m := by rw [hm]; rfl
      rw [hvalue, ofString_negSucc, ← Nat.succ_eq_add_one, ← hm, ← hinteger.eq_ofString]
  · rintro rfl
    cases n with
    | ofNat n =>
      have hdigits : ∀ d ∈ ofString (toString n), Ascii.isDigit d = true :=
        fun _ => Decimal.isDigit_of_mem_toString
      have hhead := head?_ne_of_isDigit fun d hd => hdigits d (List.mem_of_mem_head? hd)
      rw [toString_ofNat, integer?_unsigned hhead, ofDigits, Decimal.foldl_toString]
      exact ⟨hdigits, rfl⟩
    | negSucc n =>
      rw [ofString_negSucc, integer?_negative, ofDigits, Decimal.foldl_toString]
      exact ⟨fun _ => Decimal.isDigit_of_mem_toString, Nat.succ_ne_zero n, rfl⟩

end StorageGateway.Json
