import StorageGateway.Proofs.Cookie.Field

/-!
# Reading a line

A browser reads a `set-cookie` line as a pair of name and value and the attributes between the
semicolons behind it. The lines of the gateway are read as the changes that they were written for:
neither a name nor a value can end the pair or add an attribute.

## Main definitions

* `Cookie.Line`, `Cookie.readLine?`: what a line says.
* `Cookie.Line.ofChange`: what the line of a change has to say.

## Main results

* `Cookie.readLine?_line`: the lines of the gateway.
-/

namespace StorageGateway.Cookie

/-- What a `set-cookie` line says: a cookie, decoded, and its attributes as they stand. -/
structure Line where
  name : String
  value : String
  attributes : List String
  deriving DecidableEq, Repr

/-- The line that some bytes are. -/
def readLine? (bs : Bytes) : Option Line :=
  match bs.splitOn 0x3B with
  | [] => none
  | pair :: attributes =>
    (pair? pair).map fun p =>
      ⟨p.1, p.2, attributes.map fun a => Bytes.toAscii (a.dropWhile Ascii.isBlank)⟩

/-- What is said about a change. A stored cookie is kept from scripts and from requests of other
sites, and lives as long as the policy tells, up to the largest signed 64-bit number of seconds. A
removed cookie has lost its value and its life is over. -/
def Line.ofChange (p : Policy) (name : String) : Change → Line
  | .store value =>
    ⟨name, value, ["HttpOnly", "SameSite=Lax"] ++ (if p.secure then ["Secure"] else []) ++
      ["Path=/", "Max-Age=" ++ toString (min p.lifetime 9223372036854775807)]⟩
  | .expire => ⟨name, "", ["Path=/", "Max-Age=0", "Expires=" ++ longAgo]⟩

/-! ### Attributes -/

/-- Texts that are read back from between two semicolons. -/
structure IsAttribute (a : String) : Prop where
  chars : ∀ c ∈ a.toList, c ≠ ';' ∧ c.toNat < 0x80
  head : ∀ b ∈ (Bytes.ofAscii a).head?, Ascii.isBlank b = false

theorem isAttribute_of_all {a : String}
    (hchars : (a.toList.all fun c => decide (c ≠ ';' ∧ c.toNat < 0x80)) = true)
    (hhead : (Bytes.ofAscii a).head?.all (fun b => !Ascii.isBlank b) = true) : IsAttribute a := by
  refine ⟨forall_mem_of_all hchars, fun b hb => ?_⟩
  rw [Option.mem_def.mp hb, Option.all_some, Bool.not_eq_true'] at hhead
  exact hhead

/-- A number behind the name of an attribute. -/
theorem isAttribute_maxAge (n : Nat) : IsAttribute ("Max-Age=" ++ toString n) := by
  refine ⟨fun c hc => ?_, fun b hb => ?_⟩
  · rw [String.toList_append, List.mem_append, Nat.toString_eq_repr, Nat.toList_repr] at hc
    rcases hc with hc | hc
    · exact forall_mem_of_all (p := fun c : Char => c ≠ ';' ∧ c.toNat < 0x80) (by decide) c hc
    · have hdigit := Nat.isDigit_of_mem_toDigits (by decide) (by decide) hc
      rw [Char.isDigit, Bool.and_eq_true, decide_eq_true_eq, decide_eq_true_eq] at hdigit
      have hhigh : c.toNat ≤ 0x39 := hdigit.2
      refine ⟨?_, by omega⟩
      rintro rfl
      exact absurd hhigh (by decide)
  · rw [Bytes.ofAscii_append, List.head?_append] at hb
    cases hb
    decide

theorem isAttribute_of_mem {p : Policy} {name : String} {c : Change} :
    ∀ a ∈ (Line.ofChange p name c).attributes, IsAttribute a := by
  cases c with
  | store value =>
    simp only [Line.ofChange, List.forall_mem_append, List.forall_mem_cons]
    refine ⟨⟨⟨isAttribute_of_all (by decide) (by decide),
      isAttribute_of_all (by decide) (by decide), by simp⟩, fun a ha => ?_⟩,
      isAttribute_of_all (by decide) (by decide), isAttribute_maxAge _, by simp⟩
    split at ha
    · rw [List.mem_singleton.mp ha]
      exact isAttribute_of_all (by decide) (by decide)
    · cases ha
  | expire =>
    simp only [Line.ofChange, List.forall_mem_cons]
    exact ⟨isAttribute_of_all (by decide) (by decide), isAttribute_of_all (by decide) (by decide),
      isAttribute_of_all (by decide) (by decide), by simp⟩

/-- An attribute is read back behind a semicolon and a blank. -/
theorem IsAttribute.read {a : String} (h : IsAttribute a) :
    Bytes.toAscii ((Bytes.ofAscii (" " ++ a)).dropWhile Ascii.isBlank) = a := by
  have hblank : Bytes.ofAscii " " = [0x20] := by decide
  have hkeep : (Bytes.ofAscii a).dropWhile Ascii.isBlank = Bytes.ofAscii a := by
    cases hbytes : Bytes.ofAscii a with
    | nil => rfl
    | cons b bs =>
      have hb := h.head b (by rw [hbytes]; rfl)
      rw [List.dropWhile_cons_of_neg (by rw [hb]; exact Bool.false_ne_true)]
  rw [Bytes.ofAscii_append, hblank, List.singleton_append, List.dropWhile_cons_of_pos (by decide),
    hkeep]
  exact Bytes.toAscii_ofAscii fun c hc => Nat.lt_trans (h.chars c hc).2 (by decide)

theorem IsAttribute.notMem {a : String} (h : IsAttribute a) :
    0x3B ∉ Bytes.ofAscii (" " ++ a) := by
  intro hmem
  obtain ⟨c, hc, hbyte⟩ := List.mem_map.mp hmem
  rw [String.toList_append, List.mem_append] at hc
  rcases hc with hc | hc
  · rw [List.mem_singleton.mp hc] at hbyte
    exact absurd hbyte (by decide)
  · obtain ⟨hne, hascii⟩ := h.chars c hc
    have hnat := congrArg UInt8.toNat hbyte
    rw [Utf8.toNat_ofNat_of_lt (by omega)] at hnat
    exact hne (Char.toNat_inj.mp hnat)

/-! ### Lines -/

/-- The line of a change is its pair and its attributes, each behind a semicolon and a blank. -/
theorem line_eq_intercalate (p : Policy) (name : String) (c : Change) :
    line p name c = ";".intercalate
      (pairText name (Line.ofChange p name c).value ::
        (Line.ofChange p name c).attributes.map (" " ++ ·)) := by
  have hjoin (first : String) (rest : List String) : (";".intercalate (first :: rest)).toList =
      first.toList ++ rest.flatMap fun text => ';' :: text.toList := by
    induction rest generalizing first with
    | nil => simp
    | cons next rest ih => simp [ih]
  rw [← String.toList_inj, hjoin]
  cases c with
  | store value => cases hsecure : p.secure <;> simp [line, Line.ofChange, hsecure, Policy.maxAge]
  | expire => simp [line, Line.ofChange]

theorem pair?_pairText {name : String} (hname : name ≠ "") (value : String) :
    pair? (Bytes.ofAscii (pairText name value)) = some (name, value) := by
  have hbytes : Bytes.ofAscii (pairText name value) = entryBytes (encoded name, encoded value) :=
    rfl
  rw [hbytes, entryBytes_encoded, pair?_encoded_name hname, trim_encoded, text?_encoded]
  rfl

theorem notMem_pairText (name value : String) : 0x3B ∉ Bytes.ofAscii (pairText name value) := by
  have hbytes : Bytes.ofAscii (pairText name value) = entryBytes (encoded name, encoded value) :=
    rfl
  rw [hbytes, entryBytes_encoded, List.mem_append, List.mem_cons]
  rintro (h | h | h)
  · exact (mem_ofAscii_encoded h).1 rfl
  · exact absurd h (by decide)
  · exact (mem_ofAscii_encoded h).1 rfl

/-- The lines of the gateway say what they were written for. -/
theorem readLine?_line (p : Policy) {name : String} (hname : name ≠ "") (c : Change) :
    readLine? (Bytes.ofAscii (line p name c)) = some (.ofChange p name c) := by
  have hmark : Bytes.ofAscii ";" = [0x3B] := by decide
  have hpieces : ∀ piece ∈ (pairText name (Line.ofChange p name c).value ::
      (Line.ofChange p name c).attributes.map (" " ++ ·)).map Bytes.ofAscii, 0x3B ∉ piece := by
    rw [List.map_cons, List.forall_mem_cons, List.map_map]
    refine ⟨notMem_pairText _ _, fun piece hpiece => ?_⟩
    obtain ⟨a, ha, rfl⟩ := List.mem_map.mp hpiece
    exact (isAttribute_of_mem a ha).notMem
  have hread : (Line.ofChange p name c).attributes.map (fun a =>
      Bytes.toAscii ((Bytes.ofAscii (" " ++ a)).dropWhile Ascii.isBlank)) =
        (Line.ofChange p name c).attributes :=
    (List.map_congr_left fun a ha => (isAttribute_of_mem a ha).read).trans (List.map_id _)
  rw [readLine?, line_eq_intercalate, ofAscii_intercalate, hmark,
    List.splitOn_intercalate _ hpieces (by simp)]
  simp only [List.map_cons, pair?_pairText hname, Option.map_some, List.map_map,
    Function.comp_def, hread]
  cases c <;> rfl

end StorageGateway.Cookie
