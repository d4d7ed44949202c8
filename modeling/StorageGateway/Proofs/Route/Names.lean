import Mathlib.Data.List.Forall2
import StorageGateway.Page.Directory
import StorageGateway.Proofs.Route.Selection
import StorageGateway.Proofs.Text.Strict

/-!
# Addresses and the names in them

An address is put together from names, each written behind a slash. Any encoding will do that can
be undone, that keeps the plain words of the routes, and that escapes whatever divides or ends a
path: all such encodings lead to the same route with the same texts. The addresses on a page keep
the slash, so that a name with a slash in it stands there for its parts, which are names of their
own to the routes.

## Main definitions

* `Route.IsForNames`: encodings under which an address is read as the names it was written from.
* `Route.addressOf`: the address of some names.
* `Route.matchNames?`: a pattern matched by names.
* `Route.parts`: the parts of a name between its slashes.

## Main results

* `Route.texts_matchSegments?`: the texts of an address are its names.
* `Route.select?_addressOf`: all encodings for names lead to the same route.
* `Route.addressOf_encodePath`: the address on a page is one of the parts of its names.
-/

namespace StorageGateway

namespace Percent

/-- Only the bytes of a text matter for its encoding. -/
theorem encode_congr {keep keep' : UInt8 → Bool} {bs : Bytes} (h : ∀ b ∈ bs, keep b = keep' b) :
    encode keep bs = encode keep' bs :=
  List.flatMap_congr fun b hb => by rw [h b hb]

theorem encode_append (keep : UInt8 → Bool) (bs bs' : Bytes) :
    encode keep (bs ++ bs') = encode keep bs ++ encode keep bs' :=
  List.flatMap_append

theorem encodeString_append (keep : UInt8 → Bool) (s t : String) :
    encodeString keep (s ++ t) = encodeString keep s ++ encodeString keep t := by
  rw [encodeString, Utf8.ofString_append, encode_append, String.ofList_append, encodeString,
    encodeString]

end Percent

namespace Route

/-! ### Encodings of names -/

/-- The words of a pattern. -/
def Pattern.words (pattern : Pattern) : List String :=
  pattern.filterMap fun
    | .literal text => some text
    | _ => none

/-- Sets of kept bytes under which an address is read as the names that it was written from:
encoding can be undone, neither divides nor ends a path, and keeps the words of the routes. -/
structure IsForNames (keep : UInt8 → Bool) : Prop where
  sound : Percent.IsSound keep
  path : ∀ b, keep b → IsPathByte b
  words : ∀ r ∈ table, ∀ word ∈ Pattern.words r.pattern, Percent.encodeString keep word = word

theorem isForNames_keptInComponent : IsForNames Percent.keptInComponent where
  sound := Percent.isSound_keptInComponent
  path := isPathByte_of_keptInComponent
  words := by decide +kernel

/-- The bytes that an address on a page shows as they are, except the slash. -/
def keptInName (b : UInt8) : Bool := Page.keptInAddress b && b != 0x2F

theorem keptInComponent_of_keptInName {b : UInt8} (h : keptInName b) :
    Percent.keptInComponent b := by
  rw [keptInName, Page.keptInAddress, Bool.and_eq_true, Bool.or_eq_true, bne_iff_ne,
    beq_iff_eq] at h
  rw [Percent.keptInComponent, h.1.resolve_right h.2, Bool.true_or]

theorem isForNames_keptInName : IsForNames keptInName where
  sound b hb := Percent.isSound_keptInComponent b (keptInComponent_of_keptInName hb)
  path b hb := isPathByte_of_keptInComponent b (keptInComponent_of_keptInName hb)
  words := by decide +kernel

/-! ### Addresses -/

/-- The address of some names, each written in the same way behind a slash. -/
def addressOf (encode : String → String) (names : List String) : String :=
  String.join (names.map fun name => "/" ++ encode name)

@[simp] theorem addressOf_nil (encode : String → String) : addressOf encode [] = "" := rfl

theorem addressOf_cons (encode : String → String) (name : String) (names : List String) :
    addressOf encode (name :: names) = "/" ++ encode name ++ addressOf encode names := by
  rw [addressOf, List.map_cons, String.join_cons, addressOf]

theorem toList_addressOf (encode : String → String) (names : List String) :
    (addressOf encode names).toList = names.flatMap fun name => '/' :: (encode name).toList := by
  induction names with
  | nil => rfl
  | cons name names ih =>
    rw [addressOf_cons, String.toList_append, String.toList_append, ih, List.flatMap_cons]
    rfl

theorem cons_intercalate {α : Type} (mark : α) (part : List α) (parts : List (List α)) :
    mark :: [mark].intercalate (part :: parts) = (part :: parts).flatMap (mark :: ·) := by
  induction parts generalizing part with
  | nil => simp
  | cons next parts ih =>
    rw [List.intercalate_cons_cons, List.append_assoc, List.singleton_append, ih]
    rfl

variable {keep : UInt8 → Bool}

theorem ofAscii_addressOf (keep : UInt8 → Bool) (names : List String) :
    Bytes.ofAscii (addressOf (Percent.encodeString keep) names) =
      (names.map (segmentBy keep)).flatMap (0x2F :: ·) := by
  induction names with
  | nil => rfl
  | cons name names ih =>
    have hslash : Bytes.ofAscii "/" = [0x2F] := by decide
    rw [addressOf_cons, Bytes.ofAscii_append, Bytes.ofAscii_append, ih, hslash, ← segmentBy,
      List.map_cons, List.flatMap_cons, List.singleton_append]

/-- The segments of an address are its names. -/
theorem segments_addressOf (hkeep : IsForNames keep) {names : List String} (hne : names ≠ []) :
    segments (pathOf (Bytes.ofAscii (addressOf (Percent.encodeString keep) names))) =
      names.map (segmentBy keep) := by
  obtain ⟨name, names, rfl⟩ := List.exists_cons_of_ne_nil hne
  rw [ofAscii_addressOf, List.map_cons, ← cons_intercalate]
  refine segments_pathOf (List.cons_ne_nil _ _) fun part hpart b hb => ?_
  obtain ⟨name', -, rfl⟩ := List.mem_map.mp (List.map_cons ▸ hpart)
  exact isPathByte_of_mem_segmentBy hkeep.path hb

/-! ### Matching names -/

/-- Matches the names of an address one by one. -/
def matchNames? : Pattern → List String → Option (List (String × String))
  | [], [] => some []
  | .literal text :: pattern, name :: names =>
    if name = text then matchNames? pattern names else none
  | .capture key :: pattern, name :: names =>
    if pattern.isEmpty && name.isEmpty then none
    else (matchNames? pattern names).map ((key, name) :: ·)
  | [.rest key], name :: names =>
    let whole := "/".intercalate (name :: names)
    if whole.isEmpty then none else some [(key, whole)]
  | _, _ => none

theorem segmentBy_eq_nil {name : String} : segmentBy keep name = [] ↔ name = "" := by
  rw [segmentBy, Bytes.ofAscii, List.map_eq_nil_iff, String.toList_eq_nil_iff,
    Percent.encodeString_eq_empty]

theorem isEmpty_segmentBy (keep : UInt8 → Bool) (name : String) :
    (segmentBy keep name).isEmpty = name.isEmpty := by
  rw [Bool.eq_iff_iff, List.isEmpty_iff, String.isEmpty_iff, segmentBy_eq_nil]

/-- The rest of an address is read as its names with slashes between them. -/
theorem decode_intercalate (hkeep : Percent.IsSound keep) (name : String) (names : List String) :
    Percent.decode ([0x2F].intercalate ((name :: names).map (segmentBy keep))) =
      Utf8.ofString ("/".intercalate (name :: names)) := by
  induction names generalizing name with
  | nil =>
    rw [List.map_singleton, List.intercalate_singleton, String.intercalate_singleton, segmentBy,
      Percent.decode_encodeString hkeep]
  | cons next names ih =>
    have hslash : Utf8.ofString "/" = [0x2F] := by decide
    rw [List.map_cons, List.map_cons, List.intercalate_cons_cons, ← List.map_cons,
      String.intercalate_cons_cons, Utf8.ofString_append, Utf8.ofString_append, hslash, ← ih next,
      segmentBy, Percent.encodeString, Bytes.ofAscii_ofList, List.append_assoc,
      Percent.decode_encode_append hkeep, List.singleton_append,
      Percent.decode_cons_of_ne (by decide), List.append_assoc, List.singleton_append]

theorem isEmpty_intercalate (keep : UInt8 → Bool) (name : String) (names : List String) :
    ([0x2F].intercalate ((name :: names).map (segmentBy keep))).isEmpty =
      ("/".intercalate (name :: names)).isEmpty := by
  cases names with
  | nil =>
    rw [List.map_singleton, List.intercalate_singleton, String.intercalate_singleton,
      isEmpty_segmentBy]
  | cons next names =>
    rw [List.map_cons, List.map_cons, List.intercalate_cons_cons, String.intercalate_cons_cons,
      Bool.eq_iff_iff, List.isEmpty_iff, String.isEmpty_iff]
    simp [String.append_eq_empty_iff]

/-- The texts of the captures are names of the address. -/
theorem texts_matchSegments? (hkeep : Percent.IsSound keep) {pattern : Pattern}
    (hwords : ∀ word ∈ pattern.words, Percent.encodeString keep word = word)
    (names : List String) :
    (matchSegments? pattern (names.map (segmentBy keep))).map Captures.texts? =
      (matchNames? pattern names).map .ok := by
  induction pattern, names using matchNames?.induct with
  | case1 => rfl
  | case2 pattern name names ih =>
    have hname := (segmentBy_eq_iff hkeep (hwords name List.mem_cons_self)).mpr rfl
    rw [List.map_cons, matchSegments?, if_pos hname, matchNames?, if_pos rfl]
    exact ih fun word hword => hwords word (List.mem_cons_of_mem name hword)
  | case3 text pattern name names hne =>
    have hsegment := (segmentBy_eq_iff hkeep (hwords text List.mem_cons_self)).not.mpr hne
    rw [List.map_cons, matchSegments?, if_neg hsegment, matchNames?, if_neg hne]
    rfl
  | case4 key pattern name names hempty =>
    rw [List.map_cons, matchSegments?, isEmpty_segmentBy, if_pos hempty, matchNames?, if_pos hempty]
    rfl
  | case5 key pattern name names hempty ih =>
    rw [List.map_cons, matchSegments?, isEmpty_segmentBy, if_neg hempty, matchNames?,
      if_neg hempty]
    have htexts (captures : Captures) : Captures.texts? ((key, segmentBy keep name) :: captures) =
        captures.texts?.map ((key, name) :: ·) := by
      rw [Captures.texts?, toString?_decode_segmentBy hkeep]
    rw [Option.map_map, Option.map_map]
    have hrest := congrArg (Option.map (Except.map ((key, name) :: ·)))
      (ih fun word hword => hwords word hword)
    rw [Option.map_map, Option.map_map] at hrest
    simp only [Function.comp_def, htexts] at hrest ⊢
    exact hrest
  | case6 key name names whole hempty =>
    have hbytes : ([0x2F].intercalate ((name :: names).map (segmentBy keep))).isEmpty = true :=
      (isEmpty_intercalate keep name names).trans hempty
    rw [List.map_cons] at hbytes ⊢
    rw [matchSegments?, if_pos hbytes, matchNames?, if_pos hempty]
    rfl
  | case7 key name names whole hempty =>
    have hbytes : ¬([0x2F].intercalate ((name :: names).map (segmentBy keep))).isEmpty = true := by
      rwa [isEmpty_intercalate keep name names]
    have hread := decode_intercalate hkeep name names
    rw [List.map_cons] at hbytes hread ⊢
    rw [matchSegments?, if_neg hbytes, matchNames?, if_neg hempty, Option.map_some, Option.map_some,
      Captures.texts?, hread, Utf8.toString?_ofString]
    rfl
  | case8 pattern names hnil hliteral hcapture hrest =>
    have hnone : matchSegments? pattern (names.map (segmentBy keep)) = none := by
      rw [matchSegments?]
      · exact fun hpattern hsegments => hnil hpattern (List.map_eq_nil_iff.mp hsegments)
      · intro text pattern' s path hpattern hsegments
        obtain ⟨name, names', hnames, -, -⟩ := List.map_eq_cons_iff.mp hsegments
        exact hliteral text pattern' name names' hpattern hnames
      · intro key pattern' s path hpattern hsegments
        obtain ⟨name, names', hnames, -, -⟩ := List.map_eq_cons_iff.mp hsegments
        exact hcapture key pattern' name names' hpattern hnames
      · intro key s path hpattern hsegments
        obtain ⟨name, names', hnames, -, -⟩ := List.map_eq_cons_iff.mp hsegments
        exact hrest key name names' hpattern hnames
    rw [hnone, matchNames?]
    · rfl
    all_goals assumption

/-- A captured text is a name of the address, unless it is the rest of it. -/
theorem mem_of_matchNames? {pattern : Pattern} {names : List String}
    {texts : List (String × String)} (h : matchNames? pattern names = some texts)
    {key text : String} (hmem : (key, text) ∈ texts) : text ∈ names ∨ .rest key ∈ pattern := by
  induction pattern, names using matchNames?.induct generalizing texts with
  | case1 =>
    cases h
    cases hmem
  | case2 pattern name names ih =>
    rw [matchNames?, if_pos rfl] at h
    exact (ih h hmem).imp (List.mem_cons_of_mem _) (List.mem_cons_of_mem _)
  | case3 text' pattern name names hne =>
    rw [matchNames?, if_neg hne] at h
    cases h
  | case4 key' pattern name names hempty =>
    rw [matchNames?, if_pos hempty] at h
    cases h
  | case5 key' pattern name names hempty ih =>
    rw [matchNames?, if_neg hempty] at h
    obtain ⟨texts', htexts', rfl⟩ := Option.map_eq_some_iff.mp h
    rcases List.mem_cons.mp hmem with heq | hmem
    · rw [(Prod.mk.inj heq).2]
      exact .inl List.mem_cons_self
    · exact (ih htexts' hmem).imp (List.mem_cons_of_mem _) (List.mem_cons_of_mem _)
  | case6 key' name names | case7 key' name names =>
    rw [matchNames?, Option.ite_none_left_eq_some] at h
    rw [← Option.some.inj h.2] at hmem
    rw [(Prod.mk.inj (List.mem_singleton.mp hmem)).1]
    exact .inr List.mem_cons_self
  | case8 pattern names hnil hliteral hcapture hrest =>
    rw [matchNames?] at h
    · cases h
    all_goals assumption

/-! ### The route of an address -/

section Selection

variable {α β : Type} {pattern : α → Pattern} {f : Captures → β}

/-- Two matches of one item whose captures are read alike. -/
def Alike (f : Captures → β) (x y : α × Captures) : Prop := x.1 = y.1 ∧ f x.2 = f y.2

theorem Alike.better {x x' y y' : α × Captures} (hx : Alike f x x') (hy : Alike f y y') :
    Alike f (better pattern x y) (better pattern x' y') := by
  rw [Route.better, Route.better, hx.1, hy.1]
  split
  · exact hy
  · exact hx

theorem forall₂_alike {items : List α} {found found' : α → Option Captures}
    (h : ∀ item ∈ items, (found item).map f = (found' item).map f) :
    List.Forall₂ (Alike f) (items.filterMap fun item => (found item).map ((item, ·)))
      (items.filterMap fun item => (found' item).map ((item, ·))) := by
  induction items with
  | nil => exact .nil
  | cons item items ih =>
    have hitem := h item List.mem_cons_self
    have hitems := ih fun other hother => h other (List.mem_cons_of_mem item hother)
    rw [List.filterMap_cons, List.filterMap_cons]
    cases hfound : found item <;> cases hfound' : found' item <;>
      simp only [hfound, hfound', Option.map_none, Option.map_some, reduceCtorEq,
        Option.some.injEq] at hitem ⊢
    · exact hitems
    · exact .cons ⟨rfl, hitem⟩ hitems

/-- Paths that every pattern matches alike lead to the same item. -/
theorem select?_congr {items : List α} {path path' : Bytes}
    (h : ∀ item ∈ items, (matchPath? (pattern item) path).map f =
      (matchPath? (pattern item) path').map f) :
    (select? pattern items path).map (Prod.map id f) =
      (select? pattern items path').map (Prod.map id f) := by
  have hfound := forall₂_alike h
  rw [select?, select?]
  split
  · next hnone =>
    rw [hnone, List.forall₂_nil_left_iff] at hfound
    rw [hfound]
  · next first others hsome =>
    rw [hsome, List.forall₂_cons_left_iff] at hfound
    obtain ⟨first', others', hfirst, hothers, heq⟩ := hfound
    obtain ⟨hitem, hcaptures⟩ := List.rel_foldl (fun _ _ hx _ _ hy => hx.better hy) hfirst hothers
    rw [heq]
    exact congrArg some (Prod.ext hitem hcaptures)

end Selection

/-- All encodings for names lead to the same route, with the same texts. -/
theorem select?_addressOf {keep' : UInt8 → Bool} (hkeep : IsForNames keep)
    (hkeep' : IsForNames keep') {names : List String} (hne : names ≠ []) :
    (select? Route.pattern table
        (pathOf (Bytes.ofAscii (addressOf (Percent.encodeString keep) names)))).map
          (Prod.map id Captures.texts?) =
      (select? Route.pattern table
        (pathOf (Bytes.ofAscii (addressOf (Percent.encodeString keep') names)))).map
          (Prod.map id Captures.texts?) := by
  refine select?_congr fun r hr => ?_
  rw [matchPath?, matchPath?, segments_addressOf hkeep hne, segments_addressOf hkeep' hne,
    texts_matchSegments? hkeep.sound (hkeep.words r hr),
    texts_matchSegments? hkeep'.sound (hkeep'.words r hr)]

/-! ### Addresses on a page -/

/-- The parts of a name between its slashes. -/
def parts (name : String) : List String := (name.toList.splitOn '/').map String.ofList

theorem parts_of_not_mem {name : String} (h : '/' ∉ name.toList) : parts name = [name] := by
  rw [parts, List.splitOn_eq_singleton h, List.map_singleton, String.ofList_toList]

/-- No part of a name holds a slash. -/
theorem not_mem_of_mem_splitOn {cs part : List Char} (h : part ∈ cs.splitOn '/') : '/' ∉ part := by
  intro hmem
  have hmark := forall_mem_of_mem_splitOnP h '/' hmem
  cases hmark

theorem not_mem_of_mem_parts {names : List String} {part : String}
    (h : part ∈ names.flatMap parts) : '/' ∉ part.toList := by
  obtain ⟨name, -, hpart⟩ := List.mem_flatMap.mp h
  obtain ⟨cs, hcs, rfl⟩ := List.mem_map.mp hpart
  rw [String.toList_ofList]
  exact not_mem_of_mem_splitOn hcs

theorem flatMap_parts_ne_nil {names : List String} (h : names ≠ []) : names.flatMap parts ≠ [] := by
  obtain ⟨name, names, rfl⟩ := List.exists_cons_of_ne_nil h
  have hparts : parts name ≠ [] := by
    rw [parts, ne_eq, List.map_eq_nil_iff]
    exact List.splitOn_ne_nil '/' name.toList
  rw [List.flatMap_cons]
  exact List.append_ne_nil_of_left_ne_nil hparts _

/-- Names without slashes are their own parts. -/
theorem flatMap_parts {names : List String} (h : ∀ name ∈ names, '/' ∉ name.toList) :
    names.flatMap parts = names :=
  (List.flatMap_congr fun name hname => parts_of_not_mem (h name hname)).trans
    (List.flatMap_singleton' names)

/-- The characters of a name on a page are those of its parts with slashes between them. -/
theorem encode_eq_flatMap_splitOn (cs : List Char) :
    '/' :: Percent.encode Page.keptInAddress (Utf8.encode cs) =
      (cs.splitOn '/').flatMap fun part => '/' :: Percent.encode keptInName (Utf8.encode part) := by
  induction cs with
  | nil =>
    rw [List.splitOn_nil, List.flatMap_singleton]
    rfl
  | cons c cs ih =>
    rw [List.splitOn_cons_eq_if_modifyHead, Utf8.encode_cons, Percent.encode_append]
    split
    · next hc =>
      have hslash : Percent.encode Page.keptInAddress (Utf8.encodeChar '/') = ['/'] := by decide
      rw [beq_iff_eq.mp hc, hslash, List.singleton_append, ih]
      rfl
    · next hc =>
      have hne : c ≠ '/' := fun heq => hc (beq_iff_eq.mpr heq)
      have hchar : Percent.encode Page.keptInAddress (Utf8.encodeChar c) =
          Percent.encode keptInName (Utf8.encodeChar c) := by
        refine Percent.encode_congr fun b hb => ?_
        have hb : b ≠ 0x2F := by
          rintro rfl
          rcases Utf8.mem_encodeChar hb with ⟨-, hbyte⟩ | ⟨-, hhigh⟩
          · exact hne (Char.toNat_inj.mp hbyte.symm)
          · exact absurd hhigh (by decide)
        rw [keptInName, bne_iff_ne.mpr hb, Bool.and_true]
      obtain ⟨first, others, hsplit⟩ := List.exists_cons_of_ne_nil (List.splitOn_ne_nil '/' cs)
      rw [hsplit, List.flatMap_cons, List.cons_append, List.cons.injEq] at ih
      rw [hsplit, List.modifyHead_cons, List.flatMap_cons, Utf8.encode_cons, Percent.encode_append,
        hchar, ih.2, List.cons_append, List.append_assoc]

theorem addressOf_append (encode : String → String) (names names' : List String) :
    addressOf encode (names ++ names') = addressOf encode names ++ addressOf encode names' := by
  rw [addressOf, List.map_append, String.join_append, addressOf, addressOf]

/-- The address on a page is the address of the parts of its names. -/
theorem addressOf_encodePath (names : List String) :
    addressOf Page.encodePath names =
      addressOf (Percent.encodeString keptInName) (names.flatMap parts) := by
  have hparts (name : String) :
      "/" ++ Page.encodePath name = addressOf (Percent.encodeString keptInName) (parts name) := by
    have hname := encode_eq_flatMap_splitOn name.toList
    rw [← String.toList_inj, toList_addressOf, parts, List.flatMap_map, String.toList_append,
      Page.encodePath, Percent.encodeString, String.toList_ofList]
    simp only [Percent.encodeString, Utf8.ofString, String.toList_ofList]
    exact hname
  induction names with
  | nil => rfl
  | cons name names ih =>
    rw [addressOf_cons, List.flatMap_cons, addressOf_append, ← ih, hparts]

end Route

end StorageGateway
