import Mathlib.Data.List.Chain
import StorageGateway.Json.Token
import StorageGateway.Proofs.Text.Parts

/-!
# The texts of tokens

Each token has its texts: one for a sign or a word, a literal for a number, and for a string all
the ways to write its parts between quotes. A list of tokens is written one after another, with any
white space in front of, between and behind them. The reader finds the tokens of such a text again,
as long as no two numbers meet.

## Main definitions

* `Json.NumberText`, `Json.LiteralText`: the grammar of numbers and strings.
* `Json.TokenText`: the texts of a token.
* `Json.Layout`: the texts of a list of tokens.
* `Json.Separated`: lists of tokens in which no two numbers meet.

## Main results

* `Json.isNumber_of_numberText`: the literals of the grammar are accepted.
* `Json.tokensFrom_layout`: the tokens of a text are found again, in front of any further text.
-/

namespace StorageGateway.Json

/-! ### The grammar -/

/-- White space between tokens. -/
def IsBlank (bs : Bytes) : Prop := ∀ b ∈ bs, b = 0x20 ∨ b = 0x09 ∨ b = 0x0A ∨ b = 0x0D

/-- One digit or more. -/
structure IsDigits (ds : Bytes) : Prop where
  ne_nil : ds ≠ []
  isDigit : ∀ d ∈ ds, Ascii.isDigit d = true

/-- The integer part of a number, which has no leading zero. -/
structure IntegerText (ds : Bytes) : Prop where
  isDigits : IsDigits ds
  noZero : ds = [0x30] ∨ ds.head? ≠ some 0x30

/-- The fraction of a number, if it has one. -/
inductive FractionText : Bytes → Prop
  | absent : FractionText []
  | present {ds : Bytes} (isDigits : IsDigits ds) : FractionText (0x2E :: ds)

/-- The exponent of a number, if it has one. -/
inductive ExponentText : Bytes → Prop
  | absent : ExponentText []
  | present {mark : UInt8} {sign ds : Bytes} (isMark : mark = 0x65 ∨ mark = 0x45)
      (isSign : sign = [] ∨ sign = [0x2B] ∨ sign = [0x2D]) (isDigits : IsDigits ds) :
      ExponentText (mark :: (sign ++ ds))

/-- The literals of numbers. -/
inductive NumberText : Bytes → Prop
  | mk {sign ds fraction exponent : Bytes} (isSign : sign = [] ∨ sign = [0x2D])
      (isInteger : IntegerText ds) (isFraction : FractionText fraction)
      (isExponent : ExponentText exponent) : NumberText (sign ++ (ds ++ (fraction ++ exponent)))

/-- The letters of the short escapes with the bytes that they stand for. -/
def shortEscapes : List (UInt8 × UInt8) :=
  [(0x22, 0x22), (0x5C, 0x5C), (0x2F, 0x2F), (0x62, 0x08), (0x66, 0x0C), (0x6E, 0x0A),
    (0x72, 0x0D), (0x74, 0x09)]

/-- The texts of a part of a string. -/
inductive PartText : Part → Bytes → Prop
  | plain {b : UInt8} (notControl : 0x20 ≤ b) (notQuote : b ≠ 0x22) (notEscape : b ≠ 0x5C) :
      PartText (.byte b) [b]
  | short {letter b : UInt8} (isShort : (letter, b) ∈ shortEscapes) :
      PartText (.byte b) [0x5C, letter]
  | unit {d₁ d₂ d₃ d₄ : UInt8} {n₁ n₂ n₃ n₄ : Nat} (h₁ : Ascii.hexValue? d₁ = some n₁)
      (h₂ : Ascii.hexValue? d₂ = some n₂) (h₃ : Ascii.hexValue? d₃ = some n₃)
      (h₄ : Ascii.hexValue? d₄ = some n₄) :
      PartText (.unit (16 * (16 * (16 * n₁ + n₂) + n₃) + n₄)) [0x5C, 0x75, d₁, d₂, d₃, d₄]

/-- The texts of the parts of a string, without the quotes. -/
inductive LiteralText : Literal → Bytes → Prop
  | nil : LiteralText [] []
  | cons {part : Part} {text : Bytes} {l : Literal} {rest : Bytes} (first : PartText part text)
      (others : LiteralText l rest) : LiteralText (part :: l) (text ++ rest)

/-- The texts of a token. -/
inductive TokenText : Token → Bytes → Prop
  | openArray : TokenText .openArray [0x5B]
  | closeArray : TokenText .closeArray [0x5D]
  | openObject : TokenText .openObject [0x7B]
  | closeObject : TokenText .closeObject [0x7D]
  | comma : TokenText .comma [0x2C]
  | colon : TokenText .colon [0x3A]
  | null : TokenText .null (Bytes.ofAscii "null")
  | true : TokenText .true (Bytes.ofAscii "true")
  | false : TokenText .false (Bytes.ofAscii "false")
  | number {literal : Bytes} (isNumber : NumberText literal) : TokenText (.number literal) literal
  | string {l : Literal} {text : Bytes} (isLiteral : LiteralText l text) :
      TokenText (.string l) (0x22 :: (text ++ [0x22]))

/-- The texts of a list of tokens: white space stands where it likes. -/
inductive Layout : List Token → Bytes → Prop
  | nil {blank : Bytes} (isBlank : IsBlank blank) : Layout [] blank
  | cons {blank : Bytes} (isBlank : IsBlank blank) {t : Token} {text : Bytes}
      (first : TokenText t text) {ts : List Token} {rest : Bytes} (others : Layout ts rest) :
      Layout (t :: ts) (blank ++ (text ++ rest))

theorem isBlank_nil : IsBlank [] := fun _ h => absurd h List.not_mem_nil

theorem IntegerText.numberText {ds : Bytes} (h : IntegerText ds) : NumberText ds := by
  have hnumber := NumberText.mk (.inl rfl) h .absent .absent
  rwa [List.append_nil, List.append_nil, List.nil_append] at hnumber

theorem IntegerText.numberText_negative {ds : Bytes} (h : IntegerText ds) :
    NumberText (0x2D :: ds) := by
  have hnumber := NumberText.mk (.inr rfl) h .absent .absent
  rwa [List.append_nil, List.append_nil, List.singleton_append] at hnumber

theorem Layout.empty : Layout [] [] := .nil isBlank_nil

/-- A token without white space in front of it. -/
theorem Layout.token {t : Token} {text : Bytes} (first : TokenText t text) {ts : List Token}
    {rest : Bytes} (others : Layout ts rest) : Layout (t :: ts) (text ++ rest) :=
  .cons isBlank_nil first others

/-- The numbers among the tokens of a text are literals of the grammar. -/
theorem Layout.numberText {ts : List Token} {text : Bytes} (h : Layout ts text) {literal : Bytes}
    (hmem : .number literal ∈ ts) : NumberText literal := by
  induction h with
  | nil => cases hmem
  | cons _ hfirst _ ih =>
    rcases List.mem_cons.mp hmem with rfl | hmem
    · cases hfirst with
      | number hliteral => exact hliteral
    · exact ih hmem

/-- Whether a token is a number. -/
def Token.isNumber : Token → Bool
  | .number _ => Bool.true
  | _ => Bool.false

/-- Lists of tokens in which no two numbers meet. -/
def Separated (ts : List Token) : Prop :=
  ts.IsChain fun t u => t.isNumber = false ∨ u.isNumber = false

/-! ### Numbers -/

/-- The digits in front of something else. -/
theorem digits_append {ds rest : Bytes} (h : ∀ d ∈ ds, Ascii.isDigit d = true)
    (hrest : ∀ b ∈ rest.head?, Ascii.isDigit b = false) : digits (ds ++ rest) = (ds, rest) := by
  have hend : rest.takeWhile Ascii.isDigit = [] ∧ rest.dropWhile Ascii.isDigit = rest := by
    rcases rest with - | ⟨b, rest⟩
    · exact ⟨rfl, rfl⟩
    · have hb : ¬Ascii.isDigit b = true := by simp [hrest b rfl]
      exact ⟨List.takeWhile_cons_of_neg hb, List.dropWhile_cons_of_neg hb⟩
  rw [digits, List.takeWhile_append_of_pos h, List.dropWhile_append_of_pos h, hend.1, hend.2,
    List.append_nil]

theorem IsDigits.all_isDigit {ds : Bytes} (h : IsDigits ds) :
    (!ds.isEmpty && ds.all Ascii.isDigit) = true := by
  rw [Bool.and_eq_true, List.all_eq_true]
  exact ⟨by simpa using h.ne_nil, h.isDigit⟩

theorem isExponent_append {sign ds : Bytes} (hsign : sign = [] ∨ sign = [0x2B] ∨ sign = [0x2D])
    (h : IsDigits ds) : isExponent (sign ++ ds) = true := by
  rcases hsign with rfl | rfl | rfl
  · rw [List.nil_append, isExponent.eq_def]
    split
    · exact absurd (h.isDigit 0x2B List.mem_cons_self) (by decide)
    · exact absurd (h.isDigit 0x2D List.mem_cons_self) (by decide)
    · exact h.all_isDigit
  · exact h.all_isDigit
  · exact h.all_isDigit

theorem isMark_eq_true {mark : UInt8} (h : mark = 0x65 ∨ mark = 0x45) :
    (mark == 0x65 || mark == 0x45) = true := by
  rcases h with rfl | rfl <;> rfl

/-- An exponent starts with no digit. -/
theorem ExponentText.head {exponent : Bytes} (h : ExponentText exponent) :
    ∀ b ∈ exponent.head?, Ascii.isDigit b = false := by
  cases h with
  | absent => exact fun _ hb => nomatch hb
  | present hmark =>
    intro b hb
    rw [← Option.some.inj hb]
    rcases hmark with rfl | rfl <;> rfl

theorem isFraction_append {fraction exponent : Bytes} (hfraction : FractionText fraction)
    (hexponent : ExponentText exponent) : isFraction (fraction ++ exponent) = true := by
  cases hfraction with
  | absent =>
    cases hexponent with
    | absent => rfl
    | @present mark sign ds hmark hsign hdigits =>
      have hne : mark ≠ 0x2E := by
        rcases hmark with rfl | rfl <;> decide
      rw [List.nil_append, isFraction, if_neg hne, isMark_eq_true hmark,
        isExponent_append hsign hdigits]
      rfl
  | present hds =>
    have hne := hds.ne_nil
    rw [List.cons_append, isFraction, if_pos rfl]
    simp only [digits_append hds.isDigit hexponent.head]
    cases hexponent with
    | absent => simpa using hne
    | present hmark hsign hdigits =>
      simp only [isMark_eq_true hmark, isExponent_append hsign hdigits]
      simpa using hne

/-- The literals of the grammar are accepted. -/
theorem isNumber_of_numberText {literal : Bytes} (h : NumberText literal) :
    isNumber literal = true := by
  obtain @⟨sign, ds, fraction, exponent, hsign, hinteger, hfraction, hexponent⟩ := h
  have hhead : ∀ b ∈ (fraction ++ exponent).head?, Ascii.isDigit b = false := by
    cases hfraction with
    | absent => exact hexponent.head
    | present => exact fun b hb => Option.some.inj hb ▸ rfl
  have hunsigned : isUnsignedNumber (ds ++ (fraction ++ exponent)) = true := by
    have hne := hinteger.isDigits.ne_nil
    have hzero : (ds.length == 1 || ds.head? != some 0x30) = true := by
      rcases hinteger.noZero with rfl | hzero
      · rfl
      · rw [bne_iff_ne.mpr hzero, Bool.or_true]
    simp only [isUnsignedNumber, digits_append hinteger.isDigits.isDigit hhead, hzero,
      isFraction_append hfraction hexponent]
    simpa using hne
  rcases hsign with rfl | rfl
  · rw [List.nil_append, isNumber.eq_def]
    split
    · next hds =>
      obtain ⟨d, ds, rfl⟩ := List.exists_cons_of_ne_nil hinteger.isDigits.ne_nil
      rw [List.cons_append, List.cons.injEq] at hds
      have hd := hinteger.isDigits.isDigit d List.mem_cons_self
      rw [hds.1] at hd
      cases hd
    · exact hunsigned
  · exact hunsigned

/-- The bytes of a number. -/
theorem isNumberByte_of_numberText {literal : Bytes} (h : NumberText literal) :
    ∀ b ∈ literal, isNumberByte b = true := by
  have hdigits {ds : Bytes} (hds : IsDigits ds) : ∀ b ∈ ds, isNumberByte b = true := by
    intro b hb
    rw [isNumberByte, hds.isDigit b hb]
    rfl
  obtain ⟨hsign, hinteger, hfraction, hexponent⟩ := h
  simp only [List.forall_mem_append]
  refine ⟨?_, hdigits hinteger.isDigits, ?_, ?_⟩
  · rcases hsign with rfl | rfl <;> simp [isNumberByte]
  · cases hfraction with
    | absent => simp
    | present hds => exact List.forall_mem_cons.mpr ⟨rfl, hdigits hds⟩
  · cases hexponent with
    | absent => simp
    | present hmark hsign hds =>
      refine List.forall_mem_cons.mpr ⟨?_, List.forall_mem_append.mpr ⟨?_, hdigits hds⟩⟩
      · rcases hmark with rfl | rfl <;> rfl
      · rcases hsign with rfl | rfl | rfl <;> simp [isNumberByte]

/-- A number starts with a digit or its sign. -/
theorem exists_cons_of_numberText {literal : Bytes} (h : NumberText literal) :
    ∃ b rest, literal = b :: rest ∧ (b = 0x2D ∨ Ascii.isDigit b = true) := by
  obtain ⟨hsign, hinteger, -, -⟩ := h
  rcases hsign with rfl | rfl
  · obtain ⟨d, ds, rfl⟩ := List.exists_cons_of_ne_nil hinteger.isDigits.ne_nil
    exact ⟨d, _, rfl, .inr (hinteger.isDigits.isDigit d List.mem_cons_self)⟩
  · exact ⟨0x2D, _, rfl, .inl rfl⟩

/-! ### Reading tokens -/

section Reading

variable {seen : List Token}

theorem tokensFrom_cons {s s' : Lexer} {b : UInt8} {ts : List Token}
    (h : s.next b = some (s', ts)) (rest : Bytes) :
    tokensFrom seen s (b :: rest) = tokensFrom (ts.reverse ++ seen) s' rest := by
  rw [tokensFrom, h]

theorem tokensFrom_blank {blank : Bytes} (h : IsBlank blank) (rest : Bytes) :
    tokensFrom seen .between (blank ++ rest) = tokensFrom seen .between rest := by
  induction blank with
  | nil => rfl
  | cons b blank ih =>
    have hb : Lexer.next .between b = some (.between, []) := by
      rcases h b List.mem_cons_self with rfl | rfl | rfl | rfl <;> rfl
    rw [List.cons_append, tokensFrom_cons hb]
    exact ih fun c hc => h c (List.mem_cons_of_mem b hc)

theorem tokensFrom_part {part : Part} {text : Bytes} (h : PartText part text) (l : Literal)
    (rest : Bytes) :
    tokensFrom seen (.string l) (text ++ rest) = tokensFrom seen (.string (part :: l)) rest := by
  cases h with
  | @plain b hcontrol hquote hescape =>
    have hnext : Lexer.next (.string l) b = some (.string (.byte b :: l), []) := by
      rw [Lexer.next, if_neg hquote, if_neg hescape, if_neg (UInt8.not_lt.mpr hcontrol)]
    exact tokensFrom_cons hnext rest
  | @short letter b hshort =>
    have hbyte : ∀ e ∈ shortEscapes, e.1 ≠ 0x75 ∧ escaped? e.1 = some e.2 :=
      forall_mem_of_all (by decide)
    obtain ⟨hne, hescaped⟩ := hbyte _ hshort
    have hnext : Lexer.next (.escape l) letter = some (.string (.byte b :: l), []) := by
      rw [Lexer.next, if_neg hne, hescaped]
      rfl
    exact (tokensFrom_cons rfl _).trans (tokensFrom_cons hnext rest)
  | @unit d₁ d₂ d₃ d₄ n₁ n₂ n₃ n₄ h₁ h₂ h₃ h₄ =>
    have hdigit {missing value n : Nat} {d : UInt8} (hd : Ascii.hexValue? d = some n)
        (hmissing : 1 < missing) : Lexer.next (.unicode l missing value) d =
          some (.unicode l (missing - 1) (16 * value + n), []) := by
      rw [Lexer.next, hd, Option.map_some]
      simp only [if_neg (Nat.not_le.mpr hmissing)]
    have hlast {value n : Nat} {d : UInt8} (hd : Ascii.hexValue? d = some n) :
        Lexer.next (.unicode l 1 value) d = some (.string (.unit (16 * value + n) :: l), []) := by
      rw [Lexer.next, hd, Option.map_some]
      rfl
    calc tokensFrom seen (.string l) ([0x5C, 0x75, d₁, d₂, d₃, d₄] ++ rest)
        = tokensFrom seen (.unicode l 4 0) (d₁ :: d₂ :: d₃ :: d₄ :: rest) := rfl
      _ = tokensFrom seen (.unicode l 3 (16 * 0 + n₁)) (d₂ :: d₃ :: d₄ :: rest) :=
          tokensFrom_cons (hdigit h₁ (by decide)) _
      _ = tokensFrom seen (.unicode l 2 (16 * (16 * 0 + n₁) + n₂)) (d₃ :: d₄ :: rest) :=
          tokensFrom_cons (hdigit h₂ (by decide)) _
      _ = tokensFrom seen (.unicode l 1 (16 * (16 * (16 * 0 + n₁) + n₂) + n₃)) (d₄ :: rest) :=
          tokensFrom_cons (hdigit h₃ (by decide)) _
      _ = tokensFrom seen (.string (.unit (16 * (16 * (16 * (16 * 0 + n₁) + n₂) + n₃) + n₄) :: l))
            rest := tokensFrom_cons (hlast h₄) _
      _ = _ := by rw [Nat.mul_zero, Nat.zero_add]

theorem tokensFrom_literal {l : Literal} {text : Bytes} (h : LiteralText l text) (before : Literal)
    (rest : Bytes) : tokensFrom seen (.string before) (text ++ rest) =
      tokensFrom seen (.string (l.reverse ++ before)) rest := by
  induction h generalizing before with
  | nil => rfl
  | cons hfirst _ ih =>
    rw [List.append_assoc, tokensFrom_part hfirst, ih, List.reverse_cons, List.append_assoc]
    rfl

theorem tokensFrom_numberBytes {bs : Bytes} (h : ∀ b ∈ bs, isNumberByte b = true) (before : Bytes)
    (rest : Bytes) : tokensFrom seen (.number before) (bs ++ rest) =
      tokensFrom seen (.number (bs.reverse ++ before)) rest := by
  induction bs generalizing before with
  | nil => rfl
  | cons b bs ih =>
    have hnext : Lexer.next (.number before) b = some (.number (b :: before), []) := by
      rw [Lexer.next, if_pos (h b List.mem_cons_self)]
    rw [List.cons_append, tokensFrom_cons hnext]
    refine (ih (fun c hc => h c (List.mem_cons_of_mem b hc)) (b :: before)).trans ?_
    rw [List.reverse_cons, List.append_assoc]
    rfl

theorem begin_number {b : UInt8} (h : b = 0x2D ∨ Ascii.isDigit b = true) :
    Lexer.begin b = some (.number [b], []) := by
  have hall : ∀ n < 256, Ascii.isDigit (UInt8.ofNat n) = true → UInt8.ofNat n ∈ ([0x30, 0x31, 0x32,
      0x33, 0x34, 0x35, 0x36, 0x37, 0x38, 0x39] : Bytes) := by decide +kernel
  rcases h with rfl | h
  · rfl
  · have hdigit := hall b.toNat b.toNat_lt
    rw [UInt8.ofNat_toNat] at hdigit
    have hmem := hdigit h
    simp only [List.mem_cons, List.not_mem_nil, or_false] at hmem
    rcases hmem with rfl | rfl | rfl | rfl | rfl | rfl | rfl | rfl | rfl | rfl <;> rfl

/-- A number ends where no byte of a number follows. -/
theorem tokensFrom_number {literal : Bytes} (h : NumberText literal) {rest : Bytes}
    (hrest : ∀ b ∈ rest.head?, isNumberByte b = false) :
    tokensFrom seen .between (literal ++ rest) =
      tokensFrom (.number literal :: seen) .between rest := by
  have hnumber := isNumber_of_numberText h
  obtain ⟨b, bs, rfl, hb⟩ := exists_cons_of_numberText h
  have hbegin : Lexer.next .between b = some (.number [b], []) := begin_number hb
  have hbytes : ∀ c ∈ bs, isNumberByte c = true := fun c hc =>
    isNumberByte_of_numberText h c (List.mem_cons_of_mem b hc)
  have hread : (bs.reverse ++ [b]).reverse = b :: bs := by simp
  rw [List.cons_append, tokensFrom_cons hbegin, List.reverse_nil, List.nil_append,
    tokensFrom_numberBytes hbytes]
  rcases rest with - | ⟨c, rest⟩
  · rw [tokensFrom, Lexer.finish, hread, if_pos hnumber, tokensFrom, Lexer.finish]
    simp
  · have hc : isNumberByte c = false := hrest c rfl
    rw [tokensFrom, Lexer.next, if_neg (by simp [hc]), hread, if_pos hnumber, tokensFrom,
      Lexer.next]
    cases Lexer.begin c with
    | none => rfl
    | some r => simp

/-- A token is found again, in front of any text that does not go on with it. -/
theorem tokensFrom_token {t : Token} {text : Bytes} (h : TokenText t text) {rest : Bytes}
    (hrest : t.isNumber = true → ∀ b ∈ rest.head?, isNumberByte b = false) :
    tokensFrom seen .between (text ++ rest) = tokensFrom (t :: seen) .between rest := by
  cases h with
  | number hnumber => exact tokensFrom_number hnumber (hrest rfl)
  | @string l text hliteral =>
    have hopen : Lexer.next .between 0x22 = some (.string [], []) := rfl
    have hclose : Lexer.next (.string (l.reverse ++ [])) 0x22 = some (.between, [.string l]) := by
      rw [Lexer.next, if_pos rfl, List.append_nil, List.reverse_reverse]
    rw [List.cons_append, List.append_assoc, tokensFrom_cons hopen, tokensFrom_literal hliteral]
    exact tokensFrom_cons hclose rest
  | _ => rfl

/-! ### Reading lists of tokens -/

/-- A token other than a number starts with no byte of a number. -/
theorem head_of_tokenText {t : Token} {text : Bytes} (h : TokenText t text)
    (ht : t.isNumber = false) : ∃ b rest, text = b :: rest ∧ isNumberByte b = false := by
  cases h with
  | number => cases ht
  | _ => exact ⟨_, _, rfl, rfl⟩

theorem isNumberByte_of_isBlank {b : UInt8} (h : b = 0x20 ∨ b = 0x09 ∨ b = 0x0A ∨ b = 0x0D) :
    isNumberByte b = false := by
  rcases h with rfl | rfl | rfl | rfl <;> rfl

theorem head_append_of_isBlank {blank : Bytes} (h : IsBlank blank) {rest : Bytes}
    (hrest : ∀ b ∈ rest.head?, isNumberByte b = false) :
    ∀ b ∈ (blank ++ rest).head?, isNumberByte b = false := by
  rcases blank with - | ⟨c, blank⟩
  · exact hrest
  · intro b hb
    rw [← Option.some.inj hb]
    exact isNumberByte_of_isBlank (h c List.mem_cons_self)

/-- A text that starts with no number starts with no byte of one. -/
theorem Layout.head_append {ts : List Token} {text : Bytes} (h : Layout ts text)
    (hfirst : ∀ t ∈ ts.head?, t.isNumber = false) {more : Bytes}
    (hmore : ts = [] → ∀ b ∈ more.head?, isNumberByte b = false) :
    ∀ b ∈ (text ++ more).head?, isNumberByte b = false := by
  cases h with
  | nil hblank => exact head_append_of_isBlank hblank (hmore rfl)
  | cons hblank htoken _ =>
    obtain ⟨b, rest, rfl, hb⟩ := head_of_tokenText htoken (hfirst _ rfl)
    rw [List.append_assoc]
    exact head_append_of_isBlank hblank fun c hc => Option.some.inj hc ▸ hb

/-- The tokens of a text are found again. -/
theorem tokensFrom_layout (seen : List Token) {ts : List Token} {text : Bytes} (h : Layout ts text)
    (hseparated : Separated ts) (more : Bytes)
    (hmore : ∀ t ∈ ts.getLast?, t.isNumber = true → ∀ b ∈ more.head?, isNumberByte b = false) :
    tokensFrom seen .between (text ++ more) = tokensFrom (ts.reverse ++ seen) .between more := by
  induction h generalizing seen with
  | nil hblank => exact tokensFrom_blank hblank more
  | @cons blank hblank t text htoken ts rest hrest ih =>
    obtain ⟨hmeet, hothers⟩ := List.isChain_cons.mp hseparated
    have hnext : t.isNumber = true → ∀ b ∈ (rest ++ more).head?, isNumberByte b = false := by
      intro ht
      refine hrest.head_append (fun u hu => ?_) fun hnil => hmore t (by simp [hnil]) ht
      exact (hmeet u hu).resolve_left (by simp [ht])
    have hlast : ∀ u ∈ ts.getLast?, u.isNumber = true →
        ∀ b ∈ more.head?, isNumberByte b = false := by
      intro u hu
      refine hmore u ?_
      rw [List.getLast?_cons, Option.mem_def.mp hu]
      rfl
    rw [List.append_assoc, tokensFrom_blank hblank, List.append_assoc,
      tokensFrom_token htoken hnext, ih _ hothers hlast, List.reverse_cons, List.append_assoc]
    rfl

end Reading

end StorageGateway.Json
