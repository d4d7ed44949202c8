import Mathlib.Data.List.Induction
import StorageGateway.Proofs.Text.Percent

/-!
# Decimal numbers round trip

The text of a number consists of digits, and digits are read as the number that they were written
for. Digits without a leading zero are the text of their value.

## Main results

* `Decimal.foldl_toString`: digits are read as the number that they were written for.
* `Decimal.ofString_toString_foldl`: digits without a leading zero are the text of their value.
-/

namespace StorageGateway.Decimal

theorem isDigit_of_mem_toDigits (n : Nat) : ∀ c ∈ Nat.toDigits 10 n, c.isDigit = true :=
  fun _ hc => Nat.isDigit_of_mem_toDigits (by decide) (by decide) hc

theorem digit_range {n : Nat} {c : Char} (h : c ∈ Nat.toDigits 10 n) :
    0x30 ≤ c.toNat ∧ c.toNat ≤ 0x39 := by
  have hdigit := isDigit_of_mem_toDigits n c h
  simp only [Char.isDigit, Bool.and_eq_true, decide_eq_true_eq] at hdigit
  exact hdigit

/-- The bytes of a decimal number. -/
theorem ofString_toString (n : Nat) :
    Utf8.ofString (toString n) = (Nat.toDigits 10 n).map fun c => UInt8.ofNat c.toNat := by
  have hascii : Utf8.IsAscii (toString n).toList := by
    rw [Nat.toString_eq_repr, Nat.toList_repr]
    intro c hc
    have := digit_range hc
    omega
  rw [hascii.ofString_eq, Bytes.ofAscii, Nat.toString_eq_repr, Nat.toList_repr]

theorem isDigit_of_mem_toString {n : Nat} {b : UInt8} (h : b ∈ Utf8.ofString (toString n)) :
    Ascii.isDigit b = true := by
  rw [ofString_toString] at h
  obtain ⟨c, hc, rfl⟩ := List.mem_map.mp h
  have hrange := digit_range hc
  have hbyte : (UInt8.ofNat c.toNat).toNat = c.toNat := Utf8.toNat_ofNat_of_lt (by omega)
  rw [Ascii.isDigit, Bool.and_eq_true, decide_eq_true_eq, decide_eq_true_eq,
    UInt8.le_iff_toNat_le, UInt8.le_iff_toNat_le, hbyte]
  exact hrange

/-- Digits are read as the number that they were written for. -/
theorem foldl_toString (n : Nat) :
    (Utf8.ofString (toString n)).foldl (fun n b => 10 * n + (b.toNat - 0x30)) 0 = n := by
  have hchars {cs : List Char} (hcs : ∀ c ∈ cs, c.toNat ≤ 0x39) (start : Nat) :
      (cs.map fun c => UInt8.ofNat c.toNat).foldl (fun n b => 10 * n + (b.toNat - 0x30)) start =
        Nat.ofDigitChars 10 cs start := by
    induction cs generalizing start with
    | nil => rfl
    | cons c cs ih =>
      have hbyte : (UInt8.ofNat c.toNat).toNat = c.toNat :=
        Utf8.toNat_ofNat_of_lt (Nat.lt_of_le_of_lt (hcs c List.mem_cons_self) (by decide))
      rw [List.map_cons, List.foldl_cons, hbyte, Nat.ofDigitChars_cons]
      exact ih (fun d hd => hcs d (List.mem_cons_of_mem c hd)) _
  rw [ofString_toString, hchars fun c hc => (digit_range hc).2, Nat.ofDigitChars_ten_toDigits]

/-- A digit is the text of its value. -/
theorem map_toDigits_of_isDigit {d : UInt8} (h : Ascii.isDigit d = true) :
    d.toNat - 0x30 < 10 ∧
      (Nat.toDigits 10 (d.toNat - 0x30)).map (fun c => UInt8.ofNat c.toNat) = [d] := by
  have hall : ∀ n < 256, Ascii.isDigit (UInt8.ofNat n) = true → n - 0x30 < 10 ∧
      (Nat.toDigits 10 (n - 0x30)).map (fun c => UInt8.ofNat c.toNat) = [UInt8.ofNat n] := by
    decide +kernel
  have hd := hall d.toNat d.toNat_lt
  rw [UInt8.ofNat_toNat] at hd
  exact hd h

/-- Digits without a leading zero are the text of their value. -/
theorem ofString_toString_foldl {ds : Bytes} (hne : ds ≠ [])
    (hdigits : ∀ d ∈ ds, Ascii.isDigit d = true) (hzero : ds = [0x30] ∨ ds.head? ≠ some 0x30) :
    Utf8.ofString (toString (ds.foldl (fun n b => 10 * n + (b.toNat - 0x30)) 0)) = ds := by
  induction ds using List.reverseRecOn with
  | nil => exact absurd rfl hne
  | append_singleton ds d ih =>
    obtain ⟨hlt, hd⟩ := map_toDigits_of_isDigit (hdigits d (by simp))
    rw [List.foldl_append, List.foldl_cons, List.foldl_nil]
    rcases ds with - | ⟨first, ds⟩
    · rw [List.foldl_nil, Nat.mul_zero, Nat.zero_add, ofString_toString, hd]
      rfl
    · have hfirst : (first :: ds).head? ≠ some 0x30 := by
        rcases hzero with hzero | hzero
        · simp at hzero
        · exact hzero
      have hvalue := ih (List.cons_ne_nil first ds)
        (fun e he => hdigits e (List.mem_append_left [d] he)) (.inr hfirst)
      generalize (first :: ds).foldl (fun n b => 10 * n + (b.toNat - 0x30)) 0 = n at hvalue
      have hpos : 0 < n := by
        rw [Nat.pos_iff_ne_zero]
        rintro rfl
        rw [← hvalue] at hfirst
        exact hfirst (by decide)
      rw [ofString_toString, ← Nat.toDigits_append_toDigits (by decide) hpos hlt, List.map_append,
        hd, ← ofString_toString, hvalue]

end StorageGateway.Decimal
