import StorageGateway.Proofs.Text.Parts
import StorageGateway.Proofs.Text.Utf8
import StorageGateway.Text.FormData

/-!
# Percent encoding round trip

Decoding undoes encoding as long as the percent sign itself is not among the kept bytes, and it
does so in front of any further text. An encoded text consists of kept bytes, percent signs and
upper-case hexadecimal digits, so that whatever holds of these holds of all its characters.

## Main definitions

* `Percent.IsSound`: sets of kept bytes under which encoding can be undone.

## Main results

* `Percent.decode_encodeString`: decoding undoes encoding.
* `Percent.forall_mem_encodeString`: what holds of all characters of an encoded text.
-/

namespace StorageGateway

namespace Bytes

@[simp] theorem ofAscii_ofList (cs : List Char) :
    ofAscii (String.ofList cs) = cs.map fun c => UInt8.ofNat c.toNat := by
  simp [ofAscii]

@[simp] theorem ofAscii_append (s t : String) : ofAscii (s ++ t) = ofAscii s ++ ofAscii t := by
  simp [ofAscii]

theorem toNat_ofNat_toNat (b : UInt8) : (Char.ofNat b.toNat).toNat = b.toNat := by
  have hb : b.toNat < 256 := b.toNat_lt
  exact Utf8.toNat_ofNat (.inl (by omega))

@[simp] theorem ofNat_toNat_ofNat (b : UInt8) : UInt8.ofNat (Char.ofNat b.toNat).toNat = b := by
  rw [toNat_ofNat_toNat, UInt8.ofNat_toNat]

/-- Bytes read as characters and written again. -/
@[simp] theorem ofAscii_toAscii (bs : Bytes) : ofAscii (toAscii bs) = bs := by
  simp [toAscii, Function.comp_def]

/-- Texts of characters below 256 are kept by writing and reading. -/
theorem toAscii_ofAscii {s : String} (h : ∀ c ∈ s.toList, c.toNat < 256) :
    toAscii (ofAscii s) = s := by
  have hchar (c : Char) (hc : c ∈ s.toList) :
      Char.ofNat (UInt8.ofNat c.toNat).toNat = c := by
    rw [Utf8.toNat_ofNat_of_lt (h c hc), Char.ofNat_toNat]
  have hmap : (ofAscii s).map (fun b => Char.ofNat b.toNat) = s.toList := by
    rw [ofAscii, List.map_map]
    exact (List.map_congr_left hchar).trans (List.map_id _)
  rw [toAscii, hmap, String.ofList_toList]

/-- Texts put together with a mark between them, one by one. -/
theorem map_intercalate {α β : Type} (f : α → β) (mark : List α) (parts : List (List α)) :
    (mark.intercalate parts).map f = (mark.map f).intercalate (parts.map (List.map f)) := by
  induction parts with
  | nil => rfl
  | cons part parts ih =>
    rcases parts with - | ⟨next, parts⟩
    · simp
    · rw [List.intercalate_cons_cons, List.map_append, List.map_append, ih]
      simp only [List.map_cons, List.intercalate_cons_cons]

end Bytes

namespace Ascii

theorem upperHex_cases {n : Nat} (h : n < 16) :
    n = 0 ∨ n = 1 ∨ n = 2 ∨ n = 3 ∨ n = 4 ∨ n = 5 ∨ n = 6 ∨ n = 7 ∨ n = 8 ∨ n = 9 ∨ n = 10 ∨
      n = 11 ∨ n = 12 ∨ n = 13 ∨ n = 14 ∨ n = 15 := by
  omega

/-- What holds of the sixteen digits holds of every digit that is written. -/
theorem forall_upperHex {p : Char → Prop} (hp : ∀ c ∈ "0123456789ABCDEF".toList, p c) {n : Nat}
    (h : n < 16) : p (upperHex n) := by
  apply hp
  rcases upperHex_cases h with
    rfl | rfl | rfl | rfl | rfl | rfl | rfl | rfl | rfl | rfl | rfl | rfl | rfl | rfl | rfl | rfl
  all_goals decide

theorem hexValue?_upperHex {n : Nat} (h : n < 16) :
    hexValue? (UInt8.ofNat (upperHex n).toNat) = some n := by
  rcases upperHex_cases h with
    rfl | rfl | rfl | rfl | rfl | rfl | rfl | rfl | rfl | rfl | rfl | rfl | rfl | rfl | rfl | rfl
  all_goals decide

end Ascii

namespace Percent

/-! ### Reading -/

theorem decodeFrom_append (seen more bs : Bytes) :
    decodeFrom (seen ++ more) bs = more.reverse ++ decodeFrom seen bs := by
  induction seen, bs using decodeFrom.induct with
  | case1 seen => simp [decodeFrom]
  | case2 seen h l rest x y hy hx ih =>
    simp only [decodeFrom, ↓reduceIte, hx, hy]
    exact ih
  | case3 seen h l rest hno ih =>
    rw [decodeFrom, decodeFrom]
    simp only [↓reduceIte]
    exact ih
  | case4 seen b h l rest hb ih =>
    simp only [decodeFrom, hb, ↓reduceIte]
    exact ih
  | case5 seen b rest hshort ih =>
    rw [decodeFrom.eq_3 _ _ _ hshort, decodeFrom.eq_3 _ _ _ hshort]
    exact ih

theorem decodeFrom_eq (seen bs : Bytes) : decodeFrom seen bs = seen.reverse ++ decode bs :=
  decodeFrom_append [] seen bs

@[simp] theorem decode_nil : decode [] = [] := rfl

/-- A byte other than the percent sign stands for itself. -/
theorem decode_cons_of_ne {b : UInt8} (hb : b ≠ 0x25) (rest : Bytes) :
    decode (b :: rest) = b :: decode rest := by
  rcases rest with - | ⟨h, - | ⟨l, rest⟩⟩
  · rfl
  · rfl
  · rw [decode, decodeFrom, if_neg hb, decodeFrom_eq]
    rfl

/-- An escape stands for the byte that its digits spell. -/
theorem decode_percent {h l : UInt8} {x y : Nat} (hx : Ascii.hexValue? h = some x)
    (hy : Ascii.hexValue? l = some y) (rest : Bytes) :
    decode (0x25 :: h :: l :: rest) = UInt8.ofNat (16 * x + y) :: decode rest := by
  rw [decode, decodeFrom]
  simp only [↓reduceIte, hx, hy]
  rw [decodeFrom_eq]
  rfl

/-! ### Writing and reading -/

/-- The escape of a byte, as bytes. -/
theorem decode_escape (b : UInt8) (rest : Bytes) :
    decode ((escape b).map (fun c => UInt8.ofNat c.toNat) ++ rest) = b :: decode rest := by
  have hb : b.toNat < 256 := b.toNat_lt
  have hhigh := Ascii.hexValue?_upperHex (n := b.toNat / 16) (by omega)
  have hlow := Ascii.hexValue?_upperHex (n := b.toNat % 16) (by omega)
  have hread := decode_percent hhigh hlow rest
  rw [show 16 * (b.toNat / 16) + b.toNat % 16 = b.toNat by omega, UInt8.ofNat_toNat] at hread
  exact hread

/-- Sets of kept bytes under which encoding can be undone and gives ASCII. -/
def IsSound (keep : UInt8 → Bool) : Prop := ∀ b, keep b → b ≠ 0x25 ∧ b < 0x80

/-- Decoding undoes encoding, whatever follows. -/
theorem decode_encode_append {keep : UInt8 → Bool} (hkeep : IsSound keep) (bs rest : Bytes) :
    decode ((encode keep bs).map (fun c => UInt8.ofNat c.toNat) ++ rest) = bs ++ decode rest := by
  induction bs with
  | nil => rfl
  | cons b bs ih =>
    rw [encode, List.flatMap_cons, List.map_append, List.append_assoc, ← encode]
    split
    · next hb =>
      rw [List.map_singleton, Bytes.ofNat_toNat_ofNat, List.singleton_append,
        decode_cons_of_ne (hkeep b hb).1, ih, List.cons_append]
    · rw [decode_escape, ih, List.cons_append]

/-- Decoding undoes encoding. -/
theorem decode_encodeString {keep : UInt8 → Bool} (hkeep : IsSound keep) (s : String) :
    decode (Bytes.ofAscii (encodeString keep s)) = Utf8.ofString s := by
  have hread := decode_encode_append hkeep (Utf8.ofString s) []
  rwa [List.append_nil, decode_nil, List.append_nil, ← Bytes.ofAscii_ofList] at hread

theorem encodeString_injective {keep : UInt8 → Bool} (hkeep : IsSound keep) :
    Function.Injective (encodeString keep) := by
  intro s t h
  apply Utf8.ofString_injective
  rw [← decode_encodeString hkeep s, ← decode_encodeString hkeep t, h]

/-! ### The characters of an encoded text -/

theorem forall_mem_escape {p : Char → Prop} (hescape : ∀ c ∈ "%0123456789ABCDEF".toList, p c)
    (b : UInt8) : ∀ c ∈ escape b, p c := by
  intro c hc
  have hb : b.toNat < 256 := b.toNat_lt
  have hdigit (d : Char) (hd : d ∈ "0123456789ABCDEF".toList) : p d :=
    hescape d (List.mem_cons_of_mem '%' hd)
  simp only [escape, List.mem_cons, List.not_mem_nil, or_false] at hc
  rcases hc with rfl | rfl | rfl
  · exact hescape '%' (by decide)
  · exact Ascii.forall_upperHex hdigit (by omega)
  · exact Ascii.forall_upperHex hdigit (by omega)

/-- What holds of the kept bytes, of the percent sign and of the digits holds of all characters of
an encoded text. -/
theorem forall_mem_encode {p : Char → Prop} {keep : UInt8 → Bool}
    (hkeep : ∀ b, keep b → p (Char.ofNat b.toNat)) (hescape : ∀ c ∈ "%0123456789ABCDEF".toList, p c)
    (bs : Bytes) : ∀ c ∈ encode keep bs, p c := by
  intro c hc
  obtain ⟨b, -, hc⟩ := List.mem_flatMap.mp hc
  split at hc
  · next h =>
    rw [List.mem_singleton.mp hc]
    exact hkeep b h
  · exact forall_mem_escape hescape b c hc

theorem forall_mem_encodeString {p : Char → Prop} {keep : UInt8 → Bool}
    (hkeep : ∀ b, keep b → p (Char.ofNat b.toNat)) (hescape : ∀ c ∈ "%0123456789ABCDEF".toList, p c)
    (s : String) : ∀ c ∈ (encodeString keep s).toList, p c := by
  rw [encodeString, String.toList_ofList]
  exact forall_mem_encode hkeep hescape _

theorem encode_eq_nil {keep : UInt8 → Bool} {bs : Bytes} : encode keep bs = [] ↔ bs = [] := by
  constructor
  · intro h
    rcases bs with - | ⟨b, bs⟩
    · rfl
    · rw [encode, List.flatMap_cons] at h
      split at h <;> simp [escape] at h
  · rintro rfl
    rfl

theorem encodeString_eq_empty {keep : UInt8 → Bool} {s : String} :
    encodeString keep s = "" ↔ s = "" := by
  rw [← String.toList_inj, encodeString, String.toList_ofList, String.toList_empty, encode_eq_nil,
    Utf8.ofString_eq_nil]

/-! ### Components -/

theorem toNat_of_keptInComponent {b : UInt8} (h : keptInComponent b) :
    0x2D ≤ b.toNat ∧ b.toNat ≤ 0x7E := by
  simp only [keptInComponent, Ascii.isAlphanumeric, Ascii.isAlpha, Ascii.isUpper, Ascii.isLower,
    Ascii.isDigit, Bool.or_eq_true, Bool.and_eq_true, decide_eq_true_eq, beq_iff_eq,
    UInt8.le_iff_toNat_le, ← UInt8.toNat_inj, UInt8.reduceToNat] at h
  omega

theorem isSound_keptInComponent : IsSound keptInComponent := by
  refine fun b hb => ⟨?_, ?_⟩
  · rintro rfl
    cases hb
  · exact UInt8.lt_iff_toNat_lt.mpr (Nat.lt_of_le_of_lt (toNat_of_keptInComponent hb).2 (by decide))

end Percent

end StorageGateway
