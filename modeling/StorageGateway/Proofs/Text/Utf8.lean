import Mathlib.Data.List.Basic
import Mathlib.Tactic.SplitIfs
import StorageGateway.Text.Utf8

/-!
# UTF-8 round trip

What is written is read back, by the strict reading as well as by the lenient one. The reader is a
machine that goes from byte to byte, so the proof follows it through the one to four bytes of a
character: between two characters it owes nothing, whatever was read before.

## Main definitions

* `Utf8.step`: one byte of a reader that keeps its pieces.
* `Utf8.IsAscii`: texts whose bytes are their characters.

## Main results

* `Utf8.toString?_ofString`, `Utf8.toStringLossy_ofString`: both readings undo writing.
* `Utf8.ofString_injective`: different texts have different bytes.
* `Utf8.IsAscii.ofString_eq`: the bytes of ASCII texts.
-/

namespace StorageGateway.Utf8

theorem toNat_ofNat {n : Nat} (h : n.isValidChar) : (Char.ofNat n).toNat = n := by
  rw [Char.ofNat, dif_pos h]
  rfl

theorem toNat_ofNat_of_lt {n : Nat} (h : n < 256) : (UInt8.ofNat n).toNat = n := by
  simp [Nat.mod_eq_of_lt h]

/-! ### One character -/

/-- One more byte of a reader that keeps its pieces, last one first. -/
def step (s : State × List (Option Char)) (b : UInt8) : State × List (Option Char) :=
  ((next s.1 b.toNat).1, (next s.1 b.toNat).2.reverse ++ s.2)

theorem run_eq_foldl (bs : Bytes) : run bs = bs.foldl step (.start, []) := rfl

theorem continuation_toNat (n : Nat) : (continuation n).toNat = 0x80 + n % 64 :=
  toNat_ofNat_of_lt (by omega)

theorem step_start (out : List (Option Char)) {n : Nat} (hn : n < 256) :
    step (.start, out) (UInt8.ofNat n) = ((first n).1, (first n).2.reverse ++ out) := by
  simp only [step, next, toNat_ofNat_of_lt hn]

theorem step_continuation (out : List (Option Char)) {owed value low high n : Nat}
    (hlow : low ≤ 0x80 + n % 64) (hhigh : 0x80 + n % 64 ≤ high) (howed : 1 < owed) :
    step (.within owed value low high, out) (continuation n) =
      (.within (owed - 1) (value * 64 + n % 64) 0x80 0xBF, out) := by
  simp only [step, next, continuation_toNat]
  rw [if_pos ⟨hlow, hhigh⟩, if_neg (by omega)]
  simp

theorem step_last (out : List (Option Char)) {value low high n : Nat}
    (hlow : low ≤ 0x80 + n % 64) (hhigh : 0x80 + n % 64 ≤ high) :
    step (.within 1 value low high, out) (continuation n) =
      (.start, some (Char.ofNat (value * 64 + n % 64)) :: out) := by
  simp only [step, next, continuation_toNat]
  rw [if_pos ⟨hlow, hhigh⟩, if_pos (Nat.le_refl 1)]
  simp

theorem first_two {n : Nat} (h : 0x80 ≤ n) (h' : n < 0x800) :
    first (0xC0 + n / 64) = (.within 1 (n / 64) 0x80 0xBF, []) := by
  unfold first
  rw [if_neg (by omega), if_pos (by omega)]
  simp

/-- The first of three bytes. Surrogates are no characters, which is what the range after `ED`
leaves out. -/
theorem first_three {n : Nat} (h : 0x800 ≤ n) (h' : n < 0x10000)
    (hsurrogate : ¬(0xD800 ≤ n ∧ n ≤ 0xDFFF)) :
    ∃ low high, first (0xE0 + n / 4096) = (.within 2 (n / 4096) low high, []) ∧
      low ≤ 0x80 + n / 64 % 64 ∧ 0x80 + n / 64 % 64 ≤ high := by
  unfold first
  rw [if_neg (by omega), if_neg (by omega)]
  split_ifs with he0 hed hrest
  · exact ⟨_, _, by rw [show n / 4096 = 0 by omega], by omega, by omega⟩
  · exact ⟨_, _, by rw [show n / 4096 = 0xD by omega], by omega, by omega⟩
  · refine ⟨0x80, 0xBF, ?_, by omega, by omega⟩
    rw [show 0xE0 + n / 4096 - 0xE0 = n / 4096 by omega]
  all_goals omega

theorem first_four {n : Nat} (h : 0x10000 ≤ n) (h' : n < 0x110000) :
    ∃ low high, first (0xF0 + n / 262144) = (.within 3 (n / 262144) low high, []) ∧
      low ≤ 0x80 + n / 4096 % 64 ∧ 0x80 + n / 4096 % 64 ≤ high := by
  unfold first
  rw [if_neg (by omega), if_neg (by omega), if_neg (by omega), if_neg (by omega),
    if_neg (by omega)]
  split_ifs with hf0 hrest hf4
  · exact ⟨_, _, by rw [show n / 262144 = 0 by omega], by omega, by omega⟩
  · refine ⟨0x80, 0xBF, ?_, by omega, by omega⟩
    rw [show 0xF0 + n / 262144 - 0xF0 = n / 262144 by omega]
  · exact ⟨_, _, by rw [show n / 262144 = 4 by omega], by omega, by omega⟩
  all_goals omega

theorem toNat_lt_and_not_surrogate (c : Char) :
    c.toNat < 0x110000 ∧ ¬(0xD800 ≤ c.toNat ∧ c.toNat ≤ 0xDFFF) := by
  have hvalid := c.valid
  have hval : c.toNat = c.val.toNat := rfl
  simp only [UInt32.isValidChar, Nat.isValidChar] at hvalid
  omega

/-- A written character is read as itself. -/
theorem foldl_step_encodeChar (out : List (Option Char)) (c : Char) :
    (encodeChar c).foldl step (.start, out) = (.start, some c :: out) := by
  obtain ⟨hmax, hsurrogate⟩ := toNat_lt_and_not_surrogate c
  have hc : Char.ofNat c.toNat = c := Char.ofNat_toNat c
  unfold encodeChar
  generalize c.toNat = n at *
  by_cases h1 : n < 0x80
  · simp only [h1, ↓reduceIte, List.foldl_cons, List.foldl_nil]
    rw [step_start out (by omega)]
    simp [first, h1, hc]
  by_cases h2 : n < 0x800
  · simp only [h1, h2, ↓reduceIte, List.foldl_cons, List.foldl_nil]
    rw [step_start out (by omega), first_two (by omega) h2, List.reverse_nil, List.nil_append,
      step_last out (by omega) (by omega), show n / 64 * 64 + n % 64 = n by omega, hc]
  by_cases h3 : n < 0x10000
  · simp only [h1, h2, h3, ↓reduceIte, List.foldl_cons, List.foldl_nil]
    obtain ⟨low, high, hfirst, hlow, hhigh⟩ := first_three (by omega) h3 hsurrogate
    rw [step_start out (by omega), hfirst, List.reverse_nil, List.nil_append,
      step_continuation out hlow hhigh (by omega), step_last out (by omega) (by omega),
      show (n / 4096 * 64 + n / 64 % 64) * 64 + n % 64 = n by omega, hc]
  · simp only [h1, h2, h3, ↓reduceIte, List.foldl_cons, List.foldl_nil]
    obtain ⟨low, high, hfirst, hlow, hhigh⟩ := first_four (by omega) hmax
    rw [step_start out (by omega), hfirst, List.reverse_nil, List.nil_append,
      step_continuation out hlow hhigh (by omega),
      step_continuation out (by omega) (by omega) (by omega), step_last out (by omega) (by omega),
      show ((n / 262144 * 64 + n / 4096 % 64) * 64 + n / 64 % 64) * 64 + n % 64 = n by omega, hc]

/-! ### Texts -/

theorem encode_cons (c : Char) (cs : List Char) : encode (c :: cs) = encodeChar c ++ encode cs :=
  List.flatMap_cons

theorem encode_append (cs ds : List Char) : encode (cs ++ ds) = encode cs ++ encode ds :=
  List.flatMap_append

theorem foldl_step_encode (out : List (Option Char)) (cs : List Char) :
    (encode cs).foldl step (.start, out) = (.start, (cs.map some).reverse ++ out) := by
  induction cs generalizing out with
  | nil => rfl
  | cons c cs ih =>
    rw [encode_cons, List.foldl_append, foldl_step_encodeChar, ih]
    simp

/-- A written text consists of its characters. -/
theorem pieces_encode (cs : List Char) : pieces (encode cs) = cs.map some := by
  rw [pieces, run_eq_foldl, foldl_step_encode]
  simp

@[simp] theorem decode?_encode (cs : List Char) : decode? (encode cs) = some cs := by
  simp [decode?, pieces_encode, List.filterMap_map, Function.comp_def]

@[simp] theorem decodeLossy_encode (cs : List Char) : decodeLossy (encode cs) = cs := by
  simp [decodeLossy, pieces_encode, Function.comp_def]

/-- Strict reading undoes writing. -/
@[simp] theorem toString?_ofString (s : String) : toString? (ofString s) = some s := by
  simp [toString?, ofString]

/-- Lenient reading undoes writing. -/
@[simp] theorem toStringLossy_ofString (s : String) : toStringLossy (ofString s) = s := by
  simp [toStringLossy, ofString]

theorem ofString_injective : Function.Injective ofString := by
  intro s t h
  have hread := congrArg toString? h
  simpa using hread

@[simp] theorem ofString_append (s t : String) :
    ofString (s ++ t) = ofString s ++ ofString t := by
  simp [ofString, encode_append]

@[simp] theorem ofString_eq_nil {s : String} : ofString s = [] ↔ s = "" := by
  constructor
  · exact fun h => ofString_injective h
  · rintro rfl
    rfl

/-! ### ASCII texts -/

/-- Texts whose bytes are their characters. -/
def IsAscii (cs : List Char) : Prop := ∀ c ∈ cs, c.toNat < 0x80

theorem IsAscii.encode_eq {cs : List Char} (h : IsAscii cs) :
    encode cs = cs.map fun c => UInt8.ofNat c.toNat := by
  induction cs with
  | nil => rfl
  | cons c cs ih =>
    have hc : c.toNat < 0x80 := h c List.mem_cons_self
    rw [encode_cons, ih fun d hd => h d (List.mem_cons_of_mem c hd), List.map_cons]
    simp [encodeChar, hc]

theorem IsAscii.ofString_eq {s : String} (h : IsAscii s.toList) :
    ofString s = Bytes.ofAscii s := h.encode_eq

end StorageGateway.Utf8
