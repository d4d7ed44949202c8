import StorageGateway.Proofs.Text.Percent

/-!
# URL-encoded forms, round trip

A list of named values is read back as it was written, in order, with every name and value equal.
The marks `&` and `=` that separate the items never occur inside an encoded name or value, and a
space, which is written as a plus sign, is told apart from a plus sign, which is escaped.

## Main results

* `FormData.decodeText_encodeText`: one name or value.
* `FormData.decode_encode`: a whole list.
-/

namespace StorageGateway.FormData

/-- What reading does to a byte before the escapes are undone. -/
def unplus (b : UInt8) : UInt8 := if b = 0x2B then 0x20 else b

theorem decodeText_eq (bs : Bytes) :
    decodeText bs = Utf8.toStringLossy (Percent.decode (bs.map unplus)) := rfl

theorem isKept_ne {b : UInt8} (h : isKept b) : b ≠ 0x2B ∧ b ≠ 0x25 := by
  constructor
  · rintro rfl
    exact absurd h (by decide)
  · rintro rfl
    exact absurd h (by decide)

theorem map_unplus_escape (b : UInt8) :
    ((Percent.escape b).map fun c => UInt8.ofNat c.toNat).map unplus =
      (Percent.escape b).map fun c => UInt8.ofNat c.toNat := by
  have hb : b.toNat < 256 := b.toNat_lt
  have hdigit {n : Nat} (hn : n < 16) :
      unplus (UInt8.ofNat (Ascii.upperHex n).toNat) = UInt8.ofNat (Ascii.upperHex n).toNat :=
    Ascii.forall_upperHex (p := fun c => unplus (UInt8.ofNat c.toNat) = UInt8.ofNat c.toNat)
      (forall_mem_of_all (by decide)) hn
  simp only [Percent.escape, List.map_cons, List.map_nil,
    hdigit (show b.toNat / 16 < 16 by omega), hdigit (show b.toNat % 16 < 16 by omega)]
  rfl

/-- A written byte is read as itself, whatever follows. -/
theorem decode_unplus_encodeByte (b : UInt8) (rest : Bytes) :
    Percent.decode (((encodeByte b).map fun c => UInt8.ofNat c.toNat).map unplus ++ rest) =
      b :: Percent.decode rest := by
  unfold encodeByte
  split
  · next hkept =>
    obtain ⟨hplus, hpercent⟩ := isKept_ne hkept
    rw [List.map_singleton, Bytes.ofNat_toNat_ofNat, List.map_singleton, unplus, if_neg hplus,
      List.singleton_append, Percent.decode_cons_of_ne hpercent]
  · split
    · next hspace =>
      subst hspace
      exact Percent.decode_cons_of_ne (by decide) rest
    · rw [map_unplus_escape, Percent.decode_escape]

theorem decode_unplus_flatMap (bs : Bytes) :
    Percent.decode (((bs.flatMap encodeByte).map fun c => UInt8.ofNat c.toNat).map unplus) =
      bs := by
  induction bs with
  | nil => rfl
  | cons b bs ih =>
    rw [List.flatMap_cons, List.map_append, List.map_append, decode_unplus_encodeByte, ih]

/-- A written name or value is read as itself. -/
@[simp] theorem decodeText_encodeText (s : String) :
    decodeText ((encodeText s).map fun c => UInt8.ofNat c.toNat) = s := by
  rw [decodeText_eq, encodeText, decode_unplus_flatMap, Utf8.toStringLossy_ofString]

theorem encodeText_injective : Function.Injective encodeText := by
  intro s t h
  rw [← decodeText_encodeText s, h, decodeText_encodeText]

/-! ### The characters of an encoded text -/

/-- What holds of the kept bytes, of the plus sign, the percent sign and the digits holds of all
characters of an encoded text. -/
theorem forall_mem_encodeText {p : Char → Prop} (hkeep : ∀ b, isKept b → p (Char.ofNat b.toNat))
    (hescape : ∀ c ∈ "+%0123456789ABCDEF".toList, p c) (s : String) :
    ∀ c ∈ encodeText s, p c := by
  intro c hc
  obtain ⟨b, -, hc⟩ := List.mem_flatMap.mp hc
  unfold encodeByte at hc
  split at hc
  · next h =>
    rw [List.mem_singleton.mp hc]
    exact hkeep b h
  · split at hc
    · rw [List.mem_singleton.mp hc]
      exact hescape '+' (by decide)
    · exact Percent.forall_mem_escape (fun d hd => hescape d (List.mem_cons_of_mem '+' hd)) b c hc

/-- Neither of the two separating marks occurs in an encoded text. -/
theorem not_separator_of_mem {s : String} {b : UInt8}
    (hb : b ∈ (encodeText s).map fun c => UInt8.ofNat c.toNat) : b ≠ 0x26 ∧ b ≠ 0x3D := by
  obtain ⟨c, hc, rfl⟩ := List.mem_map.mp hb
  refine forall_mem_encodeText
    (p := fun c => UInt8.ofNat c.toNat ≠ 0x26 ∧ UInt8.ofNat c.toNat ≠ 0x3D) ?_
    (forall_mem_of_all (by decide)) s c hc
  intro b hb
  rw [Bytes.ofNat_toNat_ofNat]
  constructor
  · rintro rfl
    exact absurd hb (by decide)
  · rintro rfl
    exact absurd hb (by decide)

/-! ### Lists -/

/-- The bytes of one item. -/
def itemBytes (p : String × String) : Bytes :=
  (encodeText p.1 ++ '=' :: encodeText p.2).map fun c => UInt8.ofNat c.toNat

theorem itemBytes_eq (p : String × String) :
    itemBytes p = (encodeText p.1).map (fun c => UInt8.ofNat c.toNat) ++
      0x3D :: (encodeText p.2).map fun c => UInt8.ofNat c.toNat := by
  rw [itemBytes, List.map_append, List.map_cons]
  rfl

theorem decodeItem_itemBytes (p : String × String) : decodeItem (itemBytes p) = p := by
  have hname : ∀ b ∈ (encodeText p.1).map fun c => UInt8.ofNat c.toNat,
      decide (b ≠ 0x3D) = true := by
    intro b hb
    exact decide_eq_true (not_separator_of_mem hb).2
  rw [decodeItem, itemBytes_eq, List.takeWhile_append_of_pos hname,
    List.dropWhile_append_of_pos hname]
  simp

theorem ofAscii_encode (pairs : List (String × String)) :
    Bytes.ofAscii (encode pairs) = [0x26].intercalate (pairs.map itemBytes) := by
  rw [encode, Bytes.ofAscii_ofList, Bytes.map_intercalate, List.map_map]
  rfl

/-- A written list is read as itself. -/
theorem decode_encode (pairs : List (String × String)) :
    decode (Bytes.ofAscii (encode pairs)) = pairs := by
  rcases pairs with - | ⟨p, pairs⟩
  · rfl
  · have hmark : ∀ item ∈ (p :: pairs).map itemBytes, (0x26 : UInt8) ∉ item := by
      intro item hitem hmem
      obtain ⟨q, -, rfl⟩ := List.mem_map.mp hitem
      rw [itemBytes_eq, List.mem_append, List.mem_cons] at hmem
      rcases hmem with hmem | hmem | hmem
      · exact (not_separator_of_mem hmem).1 rfl
      · exact absurd hmem (by decide)
      · exact (not_separator_of_mem hmem).1 rfl
    have hfull : ∀ item ∈ (p :: pairs).map itemBytes, (!item.isEmpty) = true := by
      intro item hitem
      obtain ⟨q, -, rfl⟩ := List.mem_map.mp hitem
      simp [itemBytes_eq]
    rw [decode, ofAscii_encode, List.splitOn_intercalate _ hmark (by simp),
      List.filter_eq_self.mpr hfull, List.map_map]
    exact (List.map_congr_left fun q _ => decodeItem_itemBytes q).trans (List.map_id _)

end StorageGateway.FormData
