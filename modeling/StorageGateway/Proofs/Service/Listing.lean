import StorageGateway.Listing
import StorageGateway.Proofs.Json.Cut
import StorageGateway.Proofs.Json.Record

/-!
# Listings of the service

The storage service describes a file by an object with a name, a size and a time. Any object that
has these keys once each, as text among other text, describes the file, in whatever order and among
whatever other members: its name spells the name, and its size and its time are 64-bit integers in
plain decimal form. Every other object is spoiled, for one of the reasons that are listed. A listing
is an array of such objects. One spoiled object makes all of it unreadable, and so does a text that
is cut off or goes on.

## Main definitions

* `Json.Value.IsInt64`: the values that are 64-bit integers.
* `FileRecord.IsDescribedBy`: the file that an object describes.
* `FileRecord.IsSpoiled`: why an object describes no file.
* `Listing.IsUnreadable`: the texts that are no listing.

## Main results

* `FileRecord.isSpoiled_iff`: an object describes a file, or it is spoiled.
* `Listing.parse?_objects_iff`: the files of an array of objects.
* `Listing.parse?_of_isUnreadable`: an unreadable text lists nothing.
-/

namespace StorageGateway

open Json

/-! ### Integers -/

namespace Json

namespace Value

/-- The values that are integers of 64 bits with a sign, in plain decimal form. -/
def IsInt64 (v : Value) (n : Int) : Prop :=
  v = .number (Utf8.ofString (toString n)) ∧
    -9223372036854775808 ≤ n ∧ n ≤ 9223372036854775807

/-- All numbers of a value are literals of the grammar, as they are in a text. -/
def HasNumberTexts (v : Value) : Prop := ∀ literal, .number literal ∈ v.tokens → NumberText literal

theorem HasNumberTexts.of_text {v : Value} {text : Bytes} (h : Text v text) : v.HasNumberTexts :=
  fun _ => h.numberText

theorem HasNumberTexts.item {items : List Value} (h : (array items).HasNumberTexts) {v : Value}
    (hv : v ∈ items) : v.HasNumberTexts :=
  fun literal hliteral => h literal (mem_tokens_array hv hliteral)

theorem HasNumberTexts.only {members : List (Literal × Value)}
    (h : (object members).HasNumberTexts) {name : String} {v : Value}
    (hv : HasOnly members name v) : v.HasNumberTexts := by
  obtain ⟨before, key, after, rfl, -⟩ := hv
  exact fun literal hliteral =>
    h literal (mem_tokens_object (m := (key, v)) List.mem_append_cons_self hliteral)

theorem int64?_eq_some_iff {v : Value} (hv : v.HasNumberTexts) {n : Int} :
    v.int64? = some n ↔ v.IsInt64 n := by
  cases v with
  | number literal =>
    have hliteral : NumberText literal := hv literal List.mem_cons_self
    rw [int64?, IsInt64, number.injEq, ← integer?_eq_some_iff hliteral]
    cases integer? literal with
    | none => simp
    | some m =>
      rw [Option.bind_some, Option.ite_none_right_eq_some, Option.some.injEq]
      constructor
      · rintro ⟨hm, rfl⟩
        exact ⟨rfl, hm⟩
      · rintro ⟨rfl, hm⟩
        exact ⟨hm, rfl⟩
  | _ => simp [int64?, IsInt64]

end Value

end Json

/-! ### Records -/

namespace FileRecord

variable {members : List (Literal × Value)} {f : FileRecord}

/-- The file that an object describes. -/
structure IsDescribedBy (members : List (Literal × Value)) (f : FileRecord) : Prop where
  keys : HasTextKeys members
  name : ∃ v, HasOnly members "name" v ∧ v.Spells f.name
  size : ∃ v, HasOnly members "size" v ∧ v.IsInt64 f.size
  modTime : ∃ v, HasOnly members "mod_time" v ∧ v.IsInt64 f.modTime

/-- Why an object describes no file. -/
inductive IsSpoiled (members : List (Literal × Value)) : Prop
  | keys (fail : KeysFail fieldNames members)
  | name {v : Value} (only : HasOnly members "name" v) (noText : ∀ s, ¬v.Spells s)
  | integer {field : String} (mem : field ∈ ["size", "mod_time"]) {v : Value}
      (only : HasOnly members field v) (noInteger : ∀ n, ¬v.IsInt64 n)

theorem ofValue?_object (hnumbers : (Value.object members).HasNumberTexts) :
    ofValue? (.object members) = some f ↔ IsDescribedBy members f := by
  constructor
  · intro h
    rw [ofValue?] at h
    split at h
    · next name size modTime hfields =>
      obtain ⟨hkeys, hvalues⟩ := fields?_object_eq_some_iff.mp hfields
      obtain ⟨hname, hvalues⟩ := List.forall₂_cons.mp hvalues
      obtain ⟨hsize, hvalues⟩ := List.forall₂_cons.mp hvalues
      obtain ⟨hmodTime, -⟩ := List.forall₂_cons.mp hvalues
      split at h
      · next s n m hs hn hm =>
        cases h
        exact ⟨hkeys, ⟨name, hname, valueText?_eq_some_iff.mp hs⟩,
          ⟨size, hsize, (Value.int64?_eq_some_iff (hnumbers.only hsize)).mp hn⟩,
          modTime, hmodTime, (Value.int64?_eq_some_iff (hnumbers.only hmodTime)).mp hm⟩
      · cases h
    · cases h
  · rintro ⟨hkeys, ⟨name, hname, hs⟩, ⟨size, hsize, hn⟩, modTime, hmodTime, hm⟩
    have hfields : (Value.object members).fields? fieldNames = some [name, size, modTime] :=
      fields?_object_eq_some_iff.mpr ⟨hkeys, .cons hname (.cons hsize (.cons hmodTime .nil))⟩
    simp only [ofValue?, hfields, valueText?_eq_some_iff.mpr hs,
      (Value.int64?_eq_some_iff (hnumbers.only hsize)).mpr hn,
      (Value.int64?_eq_some_iff (hnumbers.only hmodTime)).mpr hm]

/-- An object describes a file, or it is spoiled. -/
theorem isSpoiled_iff : IsSpoiled members ↔ ∀ f, ¬IsDescribedBy members f := by
  constructor
  · rintro hspoiled f ⟨hkeys, ⟨name, hname, hs⟩, ⟨size, hsize, hn⟩, modTime, hmodTime, hm⟩
    cases hspoiled with
    | keys hfail =>
      refine keysFail_iff.mp hfail ⟨hkeys, fun field hmem => ?_⟩
      simp only [fieldNames, List.mem_cons, List.not_mem_nil, or_false] at hmem
      rcases hmem with rfl | rfl | rfl
      · exact ⟨_, hname⟩
      · exact ⟨_, hsize⟩
      · exact ⟨_, hmodTime⟩
    | name honly hno =>
      rw [honly.unique hname] at hno
      exact hno f.name hs
    | integer hmem honly hno =>
      simp only [List.mem_cons, List.not_mem_nil, or_false] at hmem
      rcases hmem with rfl | rfl
      · rw [honly.unique hsize] at hno
        exact hno f.size hn
      · rw [honly.unique hmodTime] at hno
        exact hno f.modTime hm
  · intro hnone
    by_contra hfine
    have hkeys : HasTextKeys members ∧ ∀ name ∈ fieldNames, ∃ v, HasOnly members name v := by
      by_contra hkeys
      exact hfine (.keys (keysFail_iff.mpr hkeys))
    obtain ⟨htext, hnames⟩ := hkeys
    have hinteger (field : String) (hmem : field ∈ ["size", "mod_time"]) :
        ∃ n v, HasOnly members field v ∧ v.IsInt64 n := by
      obtain ⟨v, hv⟩ := hnames field (List.mem_cons_of_mem "name" hmem)
      by_contra hno
      exact hfine (.integer hmem hv fun n hn => hno ⟨n, v, hv, hn⟩)
    obtain ⟨n, hn⟩ := hinteger "size" (by decide)
    obtain ⟨m, hm⟩ := hinteger "mod_time" (by decide)
    obtain ⟨v, hv⟩ := hnames "name" (by decide)
    exact hfine (.name hv fun s hs => hnone ⟨s, n, m⟩ ⟨htext, ⟨v, hv, hs⟩, hn, hm⟩)

end FileRecord

/-! ### Listings -/

namespace Listing

/-- The texts that are no listing: an array with a spoiled object, an array that is cut off, and an
array after which the text goes on. -/
inductive IsUnreadable : Bytes → Prop
  | spoiled {items : List Value} {text : Bytes} (isText : Text (.array items) text)
      {members : List (Literal × Value)} (mem : .object members ∈ items)
      (isSpoiled : FileRecord.IsSpoiled members) : IsUnreadable text
  | cut {items : List Value} {front rest : Bytes} (isText : Text (.array items) (front ++ rest))
      (notBlank : ¬IsBlank rest) : IsUnreadable front
  | continued {items : List Value} {text more : Bytes} (isText : Text (.array items) text)
      (notBlank : ¬IsBlank more) : IsUnreadable (text ++ more)

theorem parse?_of_text {items : List Value} {text : Bytes} (h : Text (.array items) text) :
    parse? text = items.mapM FileRecord.ofValue? := by
  rw [parse?, Json.parse?_of_text h]
  rfl

/-- The files of an array of objects are those that the objects describe, in the same order. -/
theorem parse?_objects_iff {objects : List (List (Literal × Value))} {text : Bytes}
    (h : Text (.array (objects.map .object)) text) {files : List FileRecord} :
    parse? text = some files ↔ List.Forall₂ FileRecord.IsDescribedBy objects files := by
  have hnumbers : ∀ members ∈ objects, (Value.object members).HasNumberTexts := fun members hmem =>
    (Value.HasNumberTexts.of_text h).item (List.mem_map_of_mem hmem)
  rw [parse?_of_text h, mapM_eq_some_iff_forall₂, List.forall₂_map_left_iff]
  constructor
  · intro hfiles
    refine (List.forall₂_and_left _ _ |>.mpr ⟨hnumbers, hfiles⟩).imp ?_
    exact fun _ _ hread => (FileRecord.ofValue?_object hread.1).mp hread.2
  · intro hfiles
    refine (List.forall₂_and_left _ _ |>.mpr ⟨hnumbers, hfiles⟩).imp ?_
    exact fun _ _ hread => (FileRecord.ofValue?_object hread.1).mpr hread.2

/-- A further key that spells no text makes a listing unreadable. -/
theorem listed_keys_must_be_text : ∃ members : List (Literal × Value),
    Text (.array [.object members]) (Bytes.ofAscii
      "[\x7b\"name\":\"a\",\"size\":1,\"mod_time\":0,\"\\ud800\":0\x7d]") ∧
    HasOnly members "name" (.string (.plain "a")) ∧ HasOnly members "size" (.number [0x31]) ∧
    HasOnly members "mod_time" (.number [0x30]) ∧
    parse? (Bytes.ofAscii
      "[\x7b\"name\":\"a\",\"size\":1,\"mod_time\":0,\"\\ud800\":0\x7d]") = none := by
  have hname := tokenText_plain (s := "name") (by decide)
  have hvalue := tokenText_plain (s := "a") (by decide)
  have hsize := tokenText_plain (s := "size") (by decide)
  have htime := tokenText_plain (s := "mod_time") (by decide)
  have hkey := tokenText_surrogate.1
  have hone : IntegerText [0x31] := ⟨⟨by decide, List.all_eq_true.mp rfl⟩, .inr (by decide)⟩
  have hzero : IntegerText [0x30] := ⟨⟨by decide, List.all_eq_true.mp rfl⟩, .inl rfl⟩
  exact ⟨[(.plain "name", .string (.plain "a")), (.plain "size", .number [0x31]),
    (.plain "mod_time", .number [0x30]), ([.unit 0xD800], .number [0x30])],
    .token .openArray (.token .openObject (.token hname (.token .colon (.token hvalue
      (.token .comma (.token hsize (.token .colon (.token (.number hone.numberText) (.token .comma
      (.token htime (.token .colon (.token (.number hzero.numberText) (.token .comma (.token hkey
      (.token .colon (.token (.number hzero.numberText) (.token .closeObject
      (.token .closeArray .empty)))))))))))))))))),
    .of_text? [] [_, _, _] (by decide +kernel) (by decide +kernel),
    .of_text? [_] [_, _] (by decide +kernel) (by decide +kernel),
    .of_text? [_, _] [_] (by decide +kernel) (by decide +kernel),
    by decide +kernel⟩

/-- A spoiled object makes the whole listing unreadable. -/
theorem parse?_of_isSpoiled {items : List Value} {text : Bytes} (h : Text (.array items) text)
    {members : List (Literal × Value)} (hmem : .object members ∈ items)
    (hspoiled : FileRecord.IsSpoiled members) : parse? text = none := by
  rw [parse?_of_text h, Option.eq_none_iff_forall_ne_some]
  intro files hfiles
  have hread : FileRecord.ofValue? (.object members) ∈ files.map some := by
    rw [← mapM_eq_some_iff.mp hfiles]
    exact List.mem_map_of_mem hmem
  obtain ⟨f, -, hf⟩ := List.mem_map.mp hread
  have hnumbers := (Value.HasNumberTexts.of_text h).item hmem
  exact FileRecord.isSpoiled_iff.mp hspoiled f ((FileRecord.ofValue?_object hnumbers).mp hf.symm)

/-- An unreadable text lists nothing. -/
theorem parse?_of_isUnreadable {text : Bytes} (h : IsUnreadable text) : parse? text = none := by
  cases h with
  | spoiled htext hmem hspoiled => exact parse?_of_isSpoiled htext hmem hspoiled
  | cut htext hrest =>
    rw [parse?, parse?_of_cut rfl htext hrest]
    rfl
  | continued htext hmore =>
    rw [parse?, parse?_append rfl htext hmore]
    rfl

end Listing

end StorageGateway
