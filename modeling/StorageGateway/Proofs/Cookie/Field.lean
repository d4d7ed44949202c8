import StorageGateway.Cookie.SetCookie
import StorageGateway.Proofs.Bytes.Cut
import StorageGateway.Proofs.Text.Percent

/-!
# The field that carries cookies

A browser sends its cookies in one field, each as it was received. The field is read if all of
them can be read, and then its pairs are those of the cookies one by one. A cookie that was written
by the gateway is read as the name and value that were written.

## Main definitions

* `Cookie.encoded`: a name or value as it is sent.
* `Cookie.fieldText`: the field that carries some cookies.
* `Cookie.splitPairs`: the pairs in a piece of a field.

## Main results

* `Cookie.pairsOfField_fieldText`: the pairs of a field.
* `Cookie.splitPairs_encoded`: the pair of a cookie that the gateway wrote.
-/

namespace StorageGateway.Cookie

/-! ### Encoded names and values -/

/-- A name or value as it is sent. -/
def encoded (s : String) : String := Percent.encodeString isKept s

/-- Characters that stand in encoded names and values. -/
def IsPairChar (c : Char) : Prop := c ≠ ';' ∧ c ≠ '=' ∧ 0x21 ≤ c.toNat ∧ c.toNat < 0x7F

instance (c : Char) : Decidable (IsPairChar c) :=
  inferInstanceAs (Decidable (_ ∧ _ ∧ _ ∧ _))

theorem isGraphic_toNat {b : UInt8} (h : Ascii.isGraphic b) : 0x21 ≤ b.toNat ∧ b.toNat ≤ 0x7E := by
  simpa [Ascii.isGraphic, UInt8.le_iff_toNat_le] using h

theorem isKept_ne {b c : UInt8} (h : isKept b) (hc : isKept c = false) : b ≠ c := by
  rintro rfl
  rw [h] at hc
  cases hc

theorem isKept_graphic {b : UInt8} (h : isKept b) : 0x21 ≤ b.toNat ∧ b.toNat ≤ 0x7E := by
  rw [isKept, Bool.and_eq_true] at h
  exact isGraphic_toNat h.1

theorem isSound_isKept : Percent.IsSound isKept := by
  intro b hb
  refine ⟨isKept_ne hb (by decide), ?_⟩
  have := isKept_graphic hb
  rw [UInt8.lt_iff_toNat_lt]
  exact Nat.lt_of_le_of_lt this.2 (by decide)

/-- A character that is escaped, and of which no escape consists, does not occur. -/
theorem ne_of_mem_encoded {s : String} {c d : Char} (hc : c ∈ (encoded s).toList)
    (hd : isKept (UInt8.ofNat d.toNat) = false) (hescape : d ∉ "%0123456789ABCDEF".toList) :
    c ≠ d := by
  refine Percent.forall_mem_encodeString (p := (· ≠ d)) (fun b hb => ?_) (fun e he => ?_) s c hc
  · rintro rfl
    rw [Bytes.ofNat_toNat_ofNat] at hd
    exact isKept_ne hb hd rfl
  · rintro rfl
    exact hescape he

theorem isPairChar_of_mem_encoded {s : String} : ∀ c ∈ (encoded s).toList, IsPairChar c := by
  intro c hc
  have hgraphic : 0x21 ≤ c.toNat ∧ c.toNat < 0x7F := by
    refine Percent.forall_mem_encodeString (p := fun c => 0x21 ≤ c.toNat ∧ c.toNat < 0x7F)
      (fun b hb => ?_) (forall_mem_of_all (by decide)) s c hc
    have := isKept_graphic hb
    rw [Bytes.toNat_ofNat_toNat]
    omega
  exact ⟨ne_of_mem_encoded hc (by decide) (by decide), ne_of_mem_encoded hc (by decide) (by decide),
    hgraphic⟩

theorem encoded_injective : Function.Injective encoded :=
  Percent.encodeString_injective isSound_isKept

@[simp] theorem encoded_eq_empty {s : String} : encoded s = "" ↔ s = "" :=
  Percent.encodeString_eq_empty

/-- The bytes of an encoded name or value. -/
theorem mem_ofAscii_encoded {s : String} {b : UInt8} (h : b ∈ Bytes.ofAscii (encoded s)) :
    b ≠ 0x3B ∧ b ≠ 0x3D ∧ 0x21 ≤ b.toNat ∧ b.toNat < 0x7F := by
  obtain ⟨c, hc, rfl⟩ := List.mem_map.mp h
  obtain ⟨hsemicolon, hequals, hlow, hhigh⟩ := isPairChar_of_mem_encoded c hc
  have hbyte : (UInt8.ofNat c.toNat).toNat = c.toNat := Utf8.toNat_ofNat_of_lt (by omega)
  have hne {d : Char} (hd : d.toNat < 256) (hcd : c ≠ d) :
      UInt8.ofNat c.toNat ≠ UInt8.ofNat d.toNat := by
    intro heq
    have hnat := congrArg UInt8.toNat heq
    rw [hbyte, Utf8.toNat_ofNat_of_lt hd] at hnat
    exact hcd (Char.toNat_inj.mp hnat)
  exact ⟨hne (d := ';') (by decide) hsemicolon, hne (d := '=') (by decide) hequals,
    by rw [hbyte]; exact hlow, by rw [hbyte]; exact hhigh⟩

theorem not_blank_of_mem {s : String} {b : UInt8} (h : b ∈ Bytes.ofAscii (encoded s)) :
    Ascii.isBlank b = false := by
  have hlow := (mem_ofAscii_encoded h).2.2.1
  have hne {c : UInt8} (hc : c.toNat < 0x21) : b ≠ c := by
    rintro rfl
    omega
  simp [Ascii.isBlank, hne (c := 0x20) (by decide), hne (c := 0x09) (by decide)]

@[simp] theorem trim_encoded (s : String) :
    Bytes.trimBy Ascii.isBlank (Bytes.ofAscii (encoded s)) = Bytes.ofAscii (encoded s) :=
  Bytes.trimBy_of_forall fun _ => not_blank_of_mem

/-- Reading undoes writing. -/
@[simp] theorem text?_encoded (s : String) : text? (Bytes.ofAscii (encoded s)) = some s := by
  rw [text?, encoded, Percent.decode_encodeString isSound_isKept, Utf8.toString?_ofString]

/-! ### Pairs between semicolons -/

/-- The pairs in a piece of a field. -/
def splitPairs (bs : Bytes) : List (String × String) := (bs.splitOn 0x3B).filterMap pair?

theorem pairsOfField_eq (bs : Bytes) :
    pairsOfField bs = if (Header.text? bs).isSome then splitPairs bs else [] := rfl

/-- A blank before a pair does not count. -/
theorem pair?_blank (bs : Bytes) : pair? (0x20 :: bs) = pair? bs := by
  have htrim (cs : Bytes) : Bytes.trimBy Ascii.isBlank (0x20 :: cs) =
      Bytes.trimBy Ascii.isBlank cs := rfl
  rw [pair?, pair?, Bytes.cut?_cons, if_neg (by simp)]
  cases Bytes.cut? [0x3D] bs with
  | none => rfl
  | some parts => simp only [Option.map_some, htrim]

theorem splitPairs_blank (bs : Bytes) : splitPairs (0x20 :: bs) = splitPairs bs := by
  rw [splitPairs, splitPairs, List.splitOn_cons_eq_if_modifyHead, if_neg (by decide)]
  obtain ⟨piece, pieces, hpieces⟩ := List.exists_cons_of_ne_nil (List.splitOn_ne_nil 0x3B bs)
  rw [hpieces, List.modifyHead_cons, List.filterMap_cons, List.filterMap_cons, pair?_blank]

theorem splitPairs_append (bs cs : Bytes) :
    splitPairs (bs ++ 0x3B :: cs) = splitPairs bs ++ splitPairs cs := by
  rw [splitPairs, List.splitOn_append_cons_self, List.filterMap_append]
  rfl

/-- A piece without semicolons is one pair or none. -/
theorem splitPairs_of_notMem {bs : Bytes} (h : 0x3B ∉ bs) : splitPairs bs = (pair? bs).toList := by
  rw [splitPairs, List.splitOn_eq_singleton h]
  cases hpair : pair? bs <;> simp [hpair]

/-- The name of a cookie that the gateway wrote is read back. -/
theorem pair?_encoded_name {name : String} (hname : name ≠ "") (value : Bytes) :
    pair? (Bytes.ofAscii (encoded name) ++ 0x3D :: value) =
      (text? (Bytes.trimBy Ascii.isBlank value)).map fun value => (name, value) := by
  have hequals : (0x3D : UInt8) ∉ Bytes.ofAscii (encoded name) := fun h =>
    (mem_ofAscii_encoded h).2.1 rfl
  have hne : (Bytes.ofAscii (encoded name)).isEmpty = false := by
    simpa [Bytes.ofAscii, String.toList_eq_nil_iff] using hname
  have hcut := Bytes.cut?_of_notMem [] value hequals
  rw [pair?, show Bytes.ofAscii (encoded name) ++ 0x3D :: value =
    Bytes.ofAscii (encoded name) ++ ([0x3D] ++ value) from rfl, hcut]
  simp only [trim_encoded, hne, Bool.false_eq_true, if_false, text?_encoded]
  cases text? (Bytes.trimBy Ascii.isBlank value) <;> rfl

/-! ### Fields -/

/-- A cookie as it is sent. -/
def entryBytes (p : String × String) : Bytes := Bytes.ofAscii (p.1 ++ "=" ++ p.2)

/-- The field that carries some cookies. -/
def fieldText (entries : List (String × String)) : String :=
  "; ".intercalate (entries.map fun p => p.1 ++ "=" ++ p.2)

theorem ofAscii_intercalate (mark : String) (texts : List String) :
    Bytes.ofAscii (mark.intercalate texts) =
      (Bytes.ofAscii mark).intercalate (texts.map Bytes.ofAscii) := by
  induction texts with
  | nil => rfl
  | cons text texts ih =>
    rcases texts with - | ⟨next, texts⟩
    · simp
    · rw [String.intercalate_cons_cons, Bytes.ofAscii_append, Bytes.ofAscii_append, ih]
      simp only [List.map_cons, List.intercalate_cons_cons]

theorem ofAscii_fieldText (entries : List (String × String)) :
    Bytes.ofAscii (fieldText entries) = [0x3B, 0x20].intercalate (entries.map entryBytes) := by
  rw [fieldText, ofAscii_intercalate, List.map_map]
  rfl

/-- Whether a text can be read. -/
def isVisible (bs : Bytes) : Bool := (Header.text? bs).isSome

theorem isVisible_append (bs cs : Bytes) :
    isVisible (bs ++ cs) = (isVisible bs && isVisible cs) := by
  have hall (ds : Bytes) :
      isVisible ds = ds.all fun b => b == 0x09 || (0x20 ≤ b && b < 0x7F) := by
    rw [isVisible, Header.text?]
    split
    · next h => rw [h, Option.isSome_some]
    · next h => rw [Bool.not_eq_true] at h; rw [h, Option.isSome_none]
  rw [hall, hall, hall, List.all_append]

theorem isVisible_intercalate (pieces : List Bytes) :
    isVisible ([0x3B, 0x20].intercalate pieces) = pieces.all isVisible := by
  induction pieces with
  | nil => rfl
  | cons piece pieces ih =>
    rcases pieces with - | ⟨next, pieces⟩
    · simp
    · have hmark : isVisible [0x3B, 0x20] = true := by decide
      rw [List.intercalate_cons_cons, isVisible_append, isVisible_append, ih, hmark,
        Bool.and_true, ← List.all_cons]

theorem splitPairs_intercalate (pieces : List Bytes) :
    splitPairs ([0x3B, 0x20].intercalate pieces) = pieces.flatMap splitPairs := by
  induction pieces with
  | nil => rfl
  | cons piece pieces ih =>
    rcases pieces with - | ⟨next, pieces⟩
    · simp
    · rw [List.intercalate_cons_cons, List.append_assoc, List.cons_append, List.cons_append,
        List.nil_append, splitPairs_append, splitPairs_blank, ih, ← List.flatMap_cons]

/-- The pairs of a field are those of its pieces, if all of them can be read. -/
theorem pairsOfField_intercalate (pieces : List Bytes) :
    pairsOfField ([0x3B, 0x20].intercalate pieces) =
      if pieces.all isVisible then pieces.flatMap splitPairs else [] := by
  rw [pairsOfField_eq, ← isVisible, isVisible_intercalate, splitPairs_intercalate]

/-- The pairs of a field are those of its cookies, if all of them can be read. -/
theorem pairsOfField_fieldText (entries : List (String × String)) :
    pairsOfField (Bytes.ofAscii (fieldText entries)) =
      if entries.all fun p => isVisible (entryBytes p) then
        entries.flatMap fun p => splitPairs (entryBytes p)
      else [] := by
  rw [ofAscii_fieldText, pairsOfField_intercalate, List.all_map, List.flatMap_map]
  rfl

/-! ### Cookies of the gateway -/

theorem entryBytes_encoded (name : String) (value : String) :
    entryBytes (encoded name, value) =
      Bytes.ofAscii (encoded name) ++ 0x3D :: Bytes.ofAscii value := by
  rw [entryBytes, Bytes.ofAscii_append, Bytes.ofAscii_append, List.append_assoc]
  rfl

/-- A cookie whose name the gateway wrote is read under this name. -/
theorem splitPairs_encoded_name {name value : String} (hname : name ≠ "")
    (hvalue : 0x3B ∉ Bytes.ofAscii value) :
    splitPairs (entryBytes (encoded name, value)) =
      ((text? (Bytes.trimBy Ascii.isBlank (Bytes.ofAscii value))).map
        fun v => (name, v)).toList := by
  have hsemicolon : 0x3B ∉ entryBytes (encoded name, value) := by
    rw [entryBytes_encoded, List.mem_append, List.mem_cons]
    rintro (h | h | h)
    · exact (mem_ofAscii_encoded h).1 rfl
    · exact absurd h (by decide)
    · exact hvalue h
  rw [splitPairs_of_notMem hsemicolon, entryBytes_encoded, pair?_encoded_name hname]

/-- A cookie that the gateway wrote is read as it was written. -/
theorem splitPairs_encoded {name : String} (hname : name ≠ "") (value : String) :
    splitPairs (entryBytes (encoded name, encoded value)) = [(name, value)] := by
  rw [splitPairs_encoded_name hname fun h => (mem_ofAscii_encoded h).1 rfl, trim_encoded,
    text?_encoded]
  rfl

theorem isVisible_encoded (s : String) : isVisible (Bytes.ofAscii (encoded s)) = true := by
  have hall : (Bytes.ofAscii (encoded s)).all fun b => b == 0x09 || (0x20 ≤ b && b < 0x7F) := by
    rw [List.all_eq_true]
    intro b hb
    obtain ⟨-, -, hlow, hhigh⟩ := mem_ofAscii_encoded hb
    simp only [Bool.or_eq_true, Bool.and_eq_true, decide_eq_true_eq, UInt8.le_iff_toNat_le,
      UInt8.lt_iff_toNat_lt]
    exact .inr ⟨Nat.le_trans (by decide) hlow, hhigh⟩
  rw [isVisible, Header.text?, if_pos hall]
  rfl

theorem isVisible_entryBytes_encoded (name : String) (value : String) :
    isVisible (entryBytes (encoded name, value)) = isVisible (Bytes.ofAscii value) := by
  rw [entryBytes_encoded, ← List.singleton_append, isVisible_append, isVisible_append,
    isVisible_encoded]
  rfl

end StorageGateway.Cookie
