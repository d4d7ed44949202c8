import Mathlib.Algebra.Group.Nat.Defs
import Mathlib.Data.List.Induction
import StorageGateway.Proofs.Text.Utf8

/-!
# Strict reading of UTF-8

Bytes that are read strictly are the bytes that their text is written as: there is one spelling of
a text and no other. Between two characters a reader has accounted for all bytes so far; inside a
character it holds the start of the only spelling that the character can have.

## Main definitions

* `Utf8.Pending`: the bytes of a character that a reader has seen.

## Main results

* `Utf8.encode_of_decode?`, `Utf8.ofString_of_toString?`: writing undoes strict reading.
* `Utf8.encodeChar_append_inj`: no character's bytes start another character's.
-/

namespace StorageGateway.Utf8

/-- The last `owed` bytes of a character. -/
def tailBytes : Nat → Nat → Bytes
  | 0, _ => []
  | owed + 1, n => continuation (n / 64 ^ owed) :: tailBytes owed n

/-- The bytes of a character that a reader has seen: whichever character it still can be, its bytes
are these and the ones that are owed. -/
def Pending : State → Bytes → Prop
  | .start, seen => seen = []
  | .within owed value low high, seen =>
    0x80 ≤ low ∧ high ≤ 0xBF ∧ ∃ k, owed = k + 1 ∧
      ∀ n, n / 64 ^ owed = value → low ≤ 0x80 + n / 64 ^ k % 64 → 0x80 + n / 64 ^ k % 64 ≤ high →
        n.isValidChar ∧ encodeChar (Char.ofNat n) = seen ++ tailBytes owed n

theorem encodeChar_ofNat_two {n : Nat} (h : 0x80 ≤ n) (h' : n < 0x800) :
    encodeChar (Char.ofNat n) = [UInt8.ofNat (0xC0 + n / 64), continuation n] := by
  have hvalid : n.isValidChar := .inl (by omega)
  simp only [encodeChar, toNat_ofNat hvalid]
  rw [if_neg (by omega), if_pos h']

theorem encodeChar_ofNat_three {n : Nat} (hvalid : n.isValidChar) (h : 0x800 ≤ n)
    (h' : n < 0x10000) :
    encodeChar (Char.ofNat n) =
      [UInt8.ofNat (0xE0 + n / 4096), continuation (n / 64), continuation n] := by
  simp only [encodeChar, toNat_ofNat hvalid]
  rw [if_neg (by omega), if_neg (by omega), if_pos h']

theorem encodeChar_ofNat_four {n : Nat} (hvalid : n.isValidChar) (h : 0x10000 ≤ n) :
    encodeChar (Char.ofNat n) = [UInt8.ofNat (0xF0 + n / 262144), continuation (n / 4096),
      continuation (n / 64), continuation n] := by
  simp only [encodeChar, toNat_ofNat hvalid]
  rw [if_neg (by omega), if_neg (by omega), if_neg (by omega)]

/-- A first byte of two. -/
theorem pending_two {b : Nat} (h : 0xC2 ≤ b) (h' : b ≤ 0xDF) :
    Pending (.within 1 (b - 0xC0) 0x80 0xBF) [UInt8.ofNat b] := by
  refine ⟨Nat.le_refl _, Nat.le_refl _, 0, rfl, fun n hn _ _ => ?_⟩
  rw [Nat.pow_one] at hn
  rw [encodeChar_ofNat_two (by omega) (by omega), show 0xC0 + n / 64 = b by omega]
  exact ⟨.inl (by omega), by simp [tailBytes]⟩

/-- A first byte of three. -/
theorem pending_three {b low high : Nat} (h : 0xE0 ≤ b) (h' : b ≤ 0xEF) (hlow : 0x80 ≤ low)
    (hhigh : high ≤ 0xBF) (hshort : b = 0xE0 → 0xA0 ≤ low) (hsurrogate : b = 0xED → high ≤ 0x9F) :
    Pending (.within 2 (b - 0xE0) low high) [UInt8.ofNat b] := by
  refine ⟨hlow, hhigh, 1, rfl, fun n hn hfrom hto => ?_⟩
  simp only [Nat.reducePow] at hn hfrom hto
  have hvalid : n.isValidChar := by
    simp only [Nat.isValidChar]
    omega
  rw [encodeChar_ofNat_three hvalid (by omega) (by omega), show 0xE0 + n / 4096 = b by omega]
  exact ⟨hvalid, by simp [tailBytes]⟩

/-- A first byte of four. -/
theorem pending_four {b low high : Nat} (h : 0xF0 ≤ b) (h' : b ≤ 0xF4) (hlow : 0x80 ≤ low)
    (hhigh : high ≤ 0xBF) (hshort : b = 0xF0 → 0x90 ≤ low) (hlong : b = 0xF4 → high ≤ 0x8F) :
    Pending (.within 3 (b - 0xF0) low high) [UInt8.ofNat b] := by
  refine ⟨hlow, hhigh, 2, rfl, fun n hn hfrom hto => ?_⟩
  simp only [Nat.reducePow] at hn hfrom hto
  have hvalid : n.isValidChar := by
    simp only [Nat.isValidChar]
    omega
  rw [encodeChar_ofNat_four hvalid (by omega), show 0xF0 + n / 262144 = b by omega]
  exact ⟨hvalid, by simp [tailBytes]⟩

/-- The first byte of a character is the character, or no character, or the start of one. -/
theorem first_cases {b : Nat} (hb : b < 256) :
    (∃ c, first b = (.start, [some c]) ∧ encodeChar c = [UInt8.ofNat b]) ∨
      first b = (.start, [none]) ∨ ∃ s, first b = (s, []) ∧ Pending s [UInt8.ofNat b] := by
  rw [first]
  by_cases hascii : b < 0x80
  · rw [if_pos hascii]
    refine .inl ⟨_, rfl, ?_⟩
    simp only [encodeChar, toNat_ofNat (n := b) (.inl (by omega)), hascii, if_true]
  rw [if_neg hascii]
  by_cases htwo : 0xC2 ≤ b ∧ b ≤ 0xDF
  · rw [if_pos htwo]
    exact .inr (.inr ⟨_, rfl, pending_two htwo.1 htwo.2⟩)
  rw [if_neg htwo]
  by_cases hshort : b = 0xE0
  · rw [if_pos hshort, hshort]
    exact .inr (.inr ⟨_, rfl, pending_three (b := 0xE0) (by omega) (by omega) (by omega) (by omega)
      (by omega) (by omega)⟩)
  rw [if_neg hshort]
  by_cases hsurrogate : b = 0xED
  · rw [if_pos hsurrogate, hsurrogate]
    exact .inr (.inr ⟨_, rfl, pending_three (b := 0xED) (by omega) (by omega) (by omega) (by omega)
      (by omega) (by omega)⟩)
  rw [if_neg hsurrogate]
  by_cases hthree : 0xE1 ≤ b ∧ b ≤ 0xEF
  · rw [if_pos hthree]
    exact .inr (.inr ⟨_, rfl, pending_three (by omega) (by omega) (by omega) (by omega)
      (by omega) (by omega)⟩)
  rw [if_neg hthree]
  by_cases hlow : b = 0xF0
  · rw [if_pos hlow, hlow]
    exact .inr (.inr ⟨_, rfl, pending_four (b := 0xF0) (by omega) (by omega) (by omega) (by omega)
      (by omega) (by omega)⟩)
  rw [if_neg hlow]
  by_cases hfour : 0xF1 ≤ b ∧ b ≤ 0xF3
  · rw [if_pos hfour]
    exact .inr (.inr ⟨_, rfl, pending_four (by omega) (by omega) (by omega) (by omega)
      (by omega) (by omega)⟩)
  rw [if_neg hfour]
  by_cases hlong : b = 0xF4
  · rw [if_pos hlong, hlong]
    exact .inr (.inr ⟨_, rfl, pending_four (b := 0xF4) (by omega) (by omega) (by omega) (by omega)
      (by omega) (by omega)⟩)
  rw [if_neg hlong]
  exact .inr (.inl rfl)

/-- A further byte of a character completes it, or is one of its bytes. -/
theorem next_within {owed value low high : Nat} {seen : Bytes}
    (hpending : Pending (.within owed value low high) seen) {b : Nat} (h : low ≤ b ∧ b ≤ high) :
    (∃ c, next (.within owed value low high) b = (.start, [some c]) ∧
        encodeChar c = seen ++ [UInt8.ofNat b]) ∨
      ∃ s, next (.within owed value low high) b = (s, []) ∧
        Pending s (seen ++ [UInt8.ofNat b]) := by
  obtain ⟨hlow, hhigh, k, rfl, hspell⟩ := hpending
  simp only [next, if_pos h]
  have hbyte (n : Nat) (hn : n % 64 = b - 0x80) : continuation n = UInt8.ofNat b := by
    rw [continuation, hn, show 0x80 + (b - 0x80) = b by omega]
  rcases k with - | k
  · refine .inl ⟨Char.ofNat (value * 64 + (b - 0x80)), rfl, ?_⟩
    simp only [Nat.zero_add, Nat.pow_one, Nat.pow_zero, Nat.div_one] at hspell
    obtain ⟨-, hbytes⟩ := hspell (value * 64 + (b - 0x80)) (by omega) (by omega) (by omega)
    rw [hbytes, tailBytes, Nat.pow_zero, Nat.div_one, hbyte _ (by omega), tailBytes]
  · rw [if_neg (by omega), show k + 1 + 1 - 1 = k + 1 by omega]
    refine .inr ⟨_, rfl, Nat.le_refl _, Nat.le_refl _, k, rfl, fun n hn _ _ => ?_⟩
    have hdiv : n / 64 ^ (k + 1 + 1) = value := by
      rw [Nat.pow_succ, ← Nat.div_div_eq_div_mul, hn]
      omega
    have hmod : n / 64 ^ (k + 1) % 64 = b - 0x80 := by
      rw [hn]
      omega
    obtain ⟨hvalid, hbytes⟩ := hspell n hdiv (by omega) (by omega)
    refine ⟨hvalid, ?_⟩
    rw [hbytes, tailBytes, hbyte _ hmod, List.append_assoc]
    rfl

/-- A byte completes a character, or is malformed here, or is one more byte of a character. -/
theorem next_cases {s : State} {seen : Bytes} (hpending : Pending s seen) {b : Nat}
    (hb : b < 256) :
    (∃ c, next s b = (.start, [some c]) ∧ encodeChar c = seen ++ [UInt8.ofNat b]) ∨
      none ∈ (next s b).2 ∨
        ∃ t, next s b = (t, []) ∧ Pending t (seen ++ [UInt8.ofNat b]) := by
  cases s with
  | start =>
    obtain rfl : seen = [] := hpending
    rcases first_cases hb with hchar | hfirst | hmore
    · exact .inl hchar
    · refine .inr (.inl ?_)
      rw [next, hfirst]
      exact List.mem_cons_self
    · exact .inr (.inr hmore)
  | within owed value low high =>
    by_cases hrange : low ≤ b ∧ b ≤ high
    · rcases next_within hpending hrange with hchar | hmore
      · exact .inl hchar
      · exact .inr (.inr hmore)
    · refine .inr (.inl ?_)
      rw [next, if_neg hrange]
      exact List.mem_cons_self

/-- What a reader has accounted for: the characters written and the bytes pending are the bytes
read, unless a sequence was malformed. -/
theorem step_accounts {s : State × List (Option Char)} {written : List Char} {seen : Bytes}
    (hout : s.2 = (written.map some).reverse) (hpending : Pending s.1 seen) (b : UInt8) :
    none ∈ (step s b).2 ∨ ∃ written' seen', (step s b).2 = (written'.map some).reverse ∧
      Pending (step s b).1 seen' ∧ encode written' ++ seen' = encode written ++ seen ++ [b] := by
  rcases next_cases hpending b.toNat_lt with ⟨c, hnext, hc⟩ | hnone | ⟨t, hnext, ht⟩
  · rw [UInt8.ofNat_toNat] at hc
    refine .inr ⟨written ++ [c], [], ?_, ?_, ?_⟩
    · rw [step, hnext, hout, List.map_append, List.reverse_append]
      rfl
    · rw [step, hnext]
      rfl
    · have hchar : encode [c] = seen ++ [b] := hc ▸ List.flatMap_singleton encodeChar c
      rw [List.append_nil, encode_append, hchar, List.append_assoc]
  · exact .inl (List.mem_append_left _ (List.mem_reverse.mpr hnone))
  · rw [UInt8.ofNat_toNat] at ht
    refine .inr ⟨written, seen ++ [b], ?_, ?_, (List.append_assoc ..).symm⟩
    · rw [step, hnext, hout]
      rfl
    · rw [step, hnext]
      exact ht

theorem mem_step {s : State × List (Option Char)} {p : Option Char} (h : p ∈ s.2) (b : UInt8) :
    p ∈ (step s b).2 := by
  simp [step, h]

/-- What a reader has accounted for after any bytes. -/
theorem run_accounts (bs : Bytes) :
    none ∈ (run bs).2 ∨ ∃ written seen, (run bs).2 = (written.map some).reverse ∧
      Pending (run bs).1 seen ∧ encode written ++ seen = bs := by
  rw [run_eq_foldl]
  induction bs using List.reverseRecOn with
  | nil => exact .inr ⟨[], [], rfl, rfl, rfl⟩
  | append_singleton bs b ih =>
    rw [List.foldl_append, List.foldl_cons, List.foldl_nil]
    rcases ih with hnone | ⟨written, seen, hout, hpending, hbytes⟩
    · exact .inl (mem_step hnone b)
    · have hstep := step_accounts hout hpending b
      rw [hbytes] at hstep
      exact hstep

/-- Writing undoes strict reading. -/
theorem encode_of_decode? {bs : Bytes} {cs : List Char} (h : decode? bs = some cs) :
    encode cs = bs := by
  have hall : (pieces bs).all Option.isSome = true := by
    by_contra hnot
    rw [decode?, if_neg hnot] at h
    cases h
  have hgood : none ∉ pieces bs := fun hnone => by
    have := List.all_eq_true.mp hall none hnone
    cases this
  rw [decode?, if_pos hall, Option.some.injEq] at h
  have haccounts := run_accounts bs
  rw [pieces] at h hgood
  split at h
  · next out hrun =>
    simp only [hrun] at hgood haccounts
    rcases haccounts with hnone | ⟨written, seen, hout, hpending, hbytes⟩
    · exact absurd (List.mem_reverse.mpr hnone) hgood
    · obtain rfl : seen = [] := hpending
      have hwritten : cs = written := by
        rw [← h, hout, List.reverse_reverse, List.filterMap_map, Function.id_comp,
          List.filterMap_some]
      rw [hwritten, ← hbytes, List.append_nil]
  · next hrun =>
    simp only [hrun] at hgood
    exact absurd (List.mem_reverse.mpr List.mem_cons_self) hgood

/-- Writing undoes strict reading. -/
theorem ofString_of_toString? {bs : Bytes} {s : String} (h : toString? bs = some s) :
    ofString s = bs := by
  obtain ⟨cs, hcs, rfl⟩ := Option.map_eq_some_iff.mp h
  rw [ofString, String.toList_ofList, encode_of_decode? hcs]

/-! ### ASCII characters -/

/-- The bytes of a character outside ASCII are outside ASCII. -/
theorem mem_encodeChar {c : Char} {b : UInt8} (h : b ∈ encodeChar c) :
    c.toNat < 0x80 ∧ b.toNat = c.toNat ∨ 0x80 ≤ c.toNat ∧ 0x80 ≤ b.toNat := by
  have hmax := (toNat_lt_and_not_surrogate c).1
  have hcontinuation (n : Nat) : 0x80 ≤ (continuation n).toNat := by
    rw [continuation_toNat]
    omega
  unfold encodeChar at h
  dsimp only at h
  split_ifs at h with h1 h2 h3
  · rw [List.mem_singleton.mp h, toNat_ofNat_of_lt (by omega)]
    exact .inl ⟨h1, rfl⟩
  all_goals
    refine .inr ⟨by omega, ?_⟩
    simp only [List.mem_cons, List.not_mem_nil, or_false] at h
    obtain ⟨n, rfl, hn, hn'⟩ | ⟨n, rfl⟩ : (∃ n, b = UInt8.ofNat n ∧ 0x80 ≤ n ∧ n < 256) ∨
        ∃ n, b = continuation n := by
      rcases h with rfl | h
      · exact .inl ⟨_, rfl, by omega, by omega⟩
      · exact .inr (by grind)
    · rw [toNat_ofNat_of_lt hn']
      exact hn
    · exact hcontinuation n

/-- An ASCII byte of a text stands for an ASCII character of it. -/
theorem mem_ofString {s : String} {b : UInt8} (hb : b.toNat < 0x80) :
    b ∈ ofString s ↔ Char.ofNat b.toNat ∈ s.toList := by
  rw [ofString, encode, List.mem_flatMap]
  constructor
  · rintro ⟨c, hc, h⟩
    rcases mem_encodeChar h with ⟨-, hbyte⟩ | ⟨-, hhigh⟩
    · rw [hbyte, Char.ofNat_toNat]
      exact hc
    · omega
  · intro h
    refine ⟨_, h, ?_⟩
    have hchar : (Char.ofNat b.toNat).toNat = b.toNat := toNat_ofNat (.inl (by omega))
    simp only [encodeChar, hchar, if_pos hb, UInt8.ofNat_toNat, List.mem_singleton]

/-- A text ends in an ASCII character when its last byte is this one. -/
theorem getLast?_ofString {s : String} {b : UInt8} (hb : b.toNat < 0x80) :
    (ofString s).getLast? = some b ↔ s.toList.getLast? = some (Char.ofNat b.toNat) := by
  rw [ofString]
  rcases List.eq_nil_or_concat' s.toList with h | ⟨front, c, h⟩
  · simp [h, encode]
  · have hne : encodeChar c ≠ [] := by
      unfold encodeChar
      dsimp only
      split_ifs <;> simp
    obtain ⟨bytes, last, hlast⟩ := (List.eq_nil_or_concat' (encodeChar c)).resolve_left hne
    have hchar : encode [c] = bytes ++ [last] := by
      rw [← hlast]
      exact List.flatMap_singleton _ _
    rw [h, encode_append, hchar, List.getLast?_concat, ← List.append_assoc, List.getLast?_concat,
      Option.some.injEq, Option.some.injEq]
    rcases mem_encodeChar (c := c) (b := last) (hlast ▸ by simp) with ⟨-, hbyte⟩ | ⟨hchar, hbyte⟩
    · rw [← UInt8.toNat_inj, hbyte, ← Char.toNat_inj, toNat_ofNat (.inl (by omega))]
    · constructor
      · rintro rfl
        omega
      · rintro rfl
        rw [toNat_ofNat (.inl (by omega))] at hchar
        omega

/-! ### Characters one after another -/

/-- Bytes inside a character. -/
def IsInner (b : UInt8) : Prop := 0x80 ≤ b.toNat ∧ b.toNat < 0xC0

/-- The number of bytes of a character that starts with a byte. -/
def sizeOfFirst (b : UInt8) : Nat :=
  if b.toNat < 0x80 then 1 else if b.toNat < 0xE0 then 2 else if b.toNat < 0xF0 then 3 else 4

/-- The first byte of a character is no inner byte and tells how many of these follow. -/
theorem exists_cons_encodeChar (c : Char) : ∃ b rest, encodeChar c = b :: rest ∧ ¬IsInner b ∧
    (∀ d ∈ rest, IsInner d) ∧ rest.length + 1 = sizeOfFirst b := by
  have hmax := (toNat_lt_and_not_surrogate c).1
  have hinner (n : Nat) : IsInner (continuation n) := by
    rw [IsInner, continuation_toNat]
    omega
  have hfirst {n : Nat} (hn : n < 256) : (UInt8.ofNat n).toNat = n := toNat_ofNat_of_lt hn
  unfold encodeChar
  generalize c.toNat = n at hmax
  dsimp only
  split_ifs with h1 h2 h3
  · refine ⟨_, _, rfl, ?_, by simp, ?_⟩
    · rw [IsInner, hfirst (by omega)]
      omega
    · rw [sizeOfFirst, hfirst (by omega), if_pos h1]
      rfl
  · refine ⟨_, _, rfl, ?_, by simp [hinner], ?_⟩
    · rw [IsInner, hfirst (by omega)]
      omega
    · rw [sizeOfFirst, hfirst (by omega), if_neg (by omega), if_pos (by omega)]
      rfl
  · refine ⟨_, _, rfl, ?_, by simp [hinner], ?_⟩
    · rw [IsInner, hfirst (by omega)]
      omega
    · rw [sizeOfFirst, hfirst (by omega), if_neg (by omega), if_neg (by omega), if_pos (by omega)]
      rfl
  · refine ⟨_, _, rfl, ?_, by simp [hinner], ?_⟩
    · rw [IsInner, hfirst (by omega)]
      omega
    · rw [sizeOfFirst, hfirst (by omega), if_neg (by omega), if_neg (by omega), if_neg (by omega)]
      rfl

theorem encode_injective : Function.Injective encode := by
  intro cs ds h
  have hread := congrArg decode? h
  rwa [decode?_encode, decode?_encode, Option.some.injEq] at hread

/-- No character's bytes start another character's. -/
theorem encodeChar_append_inj {c d : Char} {bs rest : Bytes}
    (h : encodeChar c ++ bs = encodeChar d ++ rest) : c = d ∧ bs = rest := by
  obtain ⟨b, cs, hc, -, -, hsize⟩ := exists_cons_encodeChar c
  obtain ⟨b', ds, hd, -, -, hsize'⟩ := exists_cons_encodeChar d
  rw [hc, hd, List.cons_append, List.cons_append, List.cons.injEq] at h
  obtain ⟨rfl, h⟩ := h
  obtain ⟨hinner, hrest⟩ := List.append_inj h (by omega)
  have hsame : encode [c] = encode [d] := by
    simp only [encode, List.flatMap_singleton, hc, hd, hinner]
  exact ⟨(List.cons.inj (encode_injective hsame)).1, hrest⟩

end StorageGateway.Utf8
