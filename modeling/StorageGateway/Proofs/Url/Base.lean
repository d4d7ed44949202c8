import StorageGateway.Options.Setup
import StorageGateway.Proofs.Bytes.Cut
import StorageGateway.Proofs.Url.Authority
import StorageGateway.Service.Call

/-!
# Addresses below a base URL

The address of an endpoint is the text of the base URL, without the slashes at its end, with a
path appended. Reading this text finds the scheme and the authority of the base URL again, because
what was read once as the authority of a URL of the web is read from its text as it is, and
because the text after it starts with a slash or the mark of a query or fragment. Only a host with
a label that is too long to be decoded is not read again, and then no endpoint has an address.

## Main definitions

* `Url.tail`: the text of a URL after its authority.
* `Url.IsWeb`: the form of URLs that are read.
* `Url.isReadable`: whether the host of a URL is read from its text.
* `Backend.below`: a text with the path of an endpoint at its end.

## Main results

* `Url.parse_web`: reading a text that starts with a scheme and an authority.
* `Url.eq_of_parse`, `Url.isWeb_of_parse`: what is read has the form of URLs of the web.
* `Backend.endpoint?_of_isWeb`: the address of an endpoint.
* `Backend.endpoint?_of_baseUrl`: every endpoint has an address below the base URL, or none has.
-/

namespace StorageGateway

namespace Url

/-! ### Reading a text that starts with an authority -/

/-- Texts of which nothing is dropped before they are read. -/
def IsClean (bs : Bytes) : Prop := ∀ b ∈ bs, 0x20 < b.toNat

theorem clean_of_isClean {bs : Bytes} (h : IsClean bs) : clean bs = bs := by
  have htrim : Bytes.trimBy (· ≤ 0x20) bs = bs := Bytes.trimBy_of_forall fun b hb => by
    have hlow := h b hb
    rw [decide_eq_false_iff_not, UInt8.le_iff_toNat_le]
    exact Nat.not_le_of_lt hlow
  rw [clean, htrim, List.filter_eq_self]
  intro b hb
  have hlow := h b hb
  have hne (c : UInt8) (hc : c.toNat ≤ 0x20) : (b != c) = true := by
    rw [bne_iff_ne]
    rintro rfl
    omega
  rw [hne 0x09 (by decide), hne 0x0A (by decide), hne 0x0D (by decide)]
  rfl

/-- The schemes of the web. -/
theorem scheme_of_web {scheme : String} {port : Nat}
    (h : SchemeKind.ofScheme scheme = .web port) :
    scheme = "http" ∨ scheme = "ws" ∨ scheme = "https" ∨ scheme = "wss" ∨ scheme = "ftp" := by
  rw [SchemeKind.ofScheme] at h
  split at h
  · next hs => rcases hs with hs | hs <;> simp [hs]
  split at h
  · next hs => rcases hs with hs | hs <;> simp [hs]
  split at h
  · next hs => simp [hs]
  split at h <;> cases h

/-- The scheme of a text that starts with one of the web. -/
theorem scheme?_web {scheme : String} {port : Nat} (h : SchemeKind.ofScheme scheme = .web port)
    (rest : Bytes) : scheme? (Utf8.ofString scheme ++ 0x3A :: rest) = some (scheme, rest) := by
  have hmark : (0x3A : UInt8) ∉ Utf8.ofString scheme := by
    rcases scheme_of_web h with rfl | rfl | rfl | rfl | rfl <;> decide
  rw [scheme?, cutAt_append_cons hmark]
  rcases scheme_of_web h with rfl | rfl | rfl | rfl | rfl <;> rfl

/-- Text before the marks does not take part in the cut. -/
theorem cutParts_append {bs : Bytes} (h : 0x23 ∉ bs ∧ 0x3F ∉ bs) (rest : Bytes) :
    cutParts (bs ++ rest) = (bs ++ (cutParts rest).1, (cutParts rest).2) := by
  simp only [cutParts, cutAt_append h.1, cutAt_append h.2]

/-- Texts that may stand after an authority. -/
structure IsTail (bs : Bytes) : Prop where
  isClean : IsClean bs
  head : ∀ b ∈ bs.head?, b = 0x23 ∨ b = 0x2F ∨ b = 0x3F

/-- The path of a text after an authority. -/
theorem IsTail.head_path {bs : Bytes} (h : IsTail bs) : ∀ b ∈ (cutParts bs).1.head?, b = 0x2F := by
  rcases bs with - | ⟨b, bs⟩
  · intro c hc
    cases hc
  have hempty (mark : UInt8) (rest : Bytes) : (cutAt mark (mark :: rest)).1 = [] := by
    rw [← List.nil_append (mark :: rest), cutAt_append_cons List.not_mem_nil]
  rcases h.head b rfl with rfl | rfl | rfl
  · have hcut : (cutParts (0x23 :: bs)).1 = [] := by
      simp only [cutParts, hempty]
      rfl
    rw [hcut]
    intro c hc
    cases hc
  · have hmarks : (0x23 : UInt8) ∉ [(0x2F : UInt8)] ∧ (0x3F : UInt8) ∉ [(0x2F : UInt8)] := by decide
    have hcut := cutParts_append hmarks bs
    rw [List.singleton_append] at hcut
    rw [hcut]
    intro c hc
    exact (Option.some.inj hc).symm
  · have hfragment := cutAt_append (show (0x23 : UInt8) ∉ [0x3F] by decide) bs
    rw [List.singleton_append] at hfragment
    have hcut : (cutParts (0x3F :: bs)).1 = [] := by
      simp only [cutParts, hfragment, List.singleton_append, hempty]
    rw [hcut]
    intro c hc
    cases hc

section Authority

variable {port : Nat} {a : Authority}

theorem Authority.IsWeb.mem_render (h : a.IsWeb port) {b : UInt8}
    (hb : b ∈ Utf8.ofString a.render) :
    0x20 < b.toNat ∧ b ≠ 0x23 ∧ b ≠ 0x2F ∧ b ≠ 0x3F ∧ b ≠ 0x5C := by
  have hascii : Utf8.IsAscii a.render.toList := fun c hc => (h.isInside c hc).2.1
  rw [hascii.ofString_eq, Bytes.ofAscii] at hb
  obtain ⟨c, hc, rfl⟩ := List.mem_map.mp hb
  obtain ⟨hlow, hhigh, hmark⟩ := h.isInside c hc
  have hbyte : (UInt8.ofNat c.toNat).toNat = c.toNat := Utf8.toNat_ofNat_of_lt (by omega)
  have hne (d : UInt8) (hd : Char.ofNat d.toNat ∈ "#/?\\".toList) : UInt8.ofNat c.toNat ≠ d := by
    rintro rfl
    rw [hbyte, Char.ofNat_toNat] at hd
    exact hmark hd
  rw [hbyte]
  exact ⟨hlow, hne 0x23 (by decide), hne 0x2F (by decide), hne 0x3F (by decide),
    hne 0x5C (by decide)⟩

theorem Authority.IsWeb.not_isSlash (h : a.IsWeb port) :
    ∀ b ∈ Utf8.ofString a.render, isSlash true b = false := by
  intro b hb
  obtain ⟨-, -, hslash, -, hback⟩ := h.mem_render hb
  simp [isSlash, hslash, hback]

theorem Authority.IsWeb.render_ne_nil (h : a.IsWeb port) : Utf8.ofString a.render ≠ [] := by
  intro hnil
  have hempty := Utf8.ofString_eq_nil.mp hnil
  rw [Authority.render_eq] at hempty
  simp [h.host.render_ne_empty] at hempty

/-- An authority in front of a path is read if its host can be read again. -/
theorem afterSlashes_render (h : a.IsWeb port) (scheme : String) (isAll : Bool) {path : Bytes}
    (hpath : ∀ b ∈ path.head?, b = 0x2F) :
    afterSlashes scheme (.web port) isAll (Utf8.ofString a.render ++ path) =
      a.host.reread.map fun _ =>
        ⟨scheme, some a, .segments (pathAfterAuthority true path), none, none⟩ := by
  have htake : (Utf8.ofString a.render ++ path).takeWhile (fun b => !isSlash true b) =
      Utf8.ofString a.render := by
    have hend : path.takeWhile (fun b => !isSlash true b) = [] := by
      rcases path with - | ⟨b, path⟩
      · rfl
      · rw [hpath b rfl]
        rfl
    rw [List.takeWhile_append_of_pos fun b hb => by rw [h.not_isSlash b hb]; rfl, hend,
      List.append_nil]
  have hspecial : SchemeKind.isSpecial (.web port) = true := rfl
  rw [afterSlashes, hspecial, htake, List.drop_left, authorityOf_render h]
  cases a.host.reread <;> rfl

/-- The text of a scheme and an authority. -/
def origin (scheme : String) (a : Authority) : String := scheme ++ ":" ++ ("//" ++ a.render)

/-- A text that starts with a scheme of the web and an authority is read so, if the host can be
read again. -/
theorem parse_web {scheme : String} (hscheme : SchemeKind.ofScheme scheme = .web port)
    (h : a.IsWeb port) {rest : Bytes} (hrest : IsTail rest) :
    parse (Utf8.ofString (origin scheme a) ++ rest) = a.host.reread.map fun _ =>
      withParts true (cutParts rest).2.1 (cutParts rest).2.2
        ⟨scheme, some a, .segments (pathAfterAuthority true (cutParts rest).1), none, none⟩ := by
  have hcolon : Utf8.ofString ":" = [0x3A] := by decide
  have hslashes : Utf8.ofString "//" = [0x2F, 0x2F] := by decide
  have htext : Utf8.ofString (origin scheme a) ++ rest = Utf8.ofString scheme ++
      0x3A :: (0x2F :: 0x2F :: Utf8.ofString a.render ++ rest) := by
    rw [origin, Utf8.ofString_append, Utf8.ofString_append, Utf8.ofString_append, hcolon, hslashes]
    simp
  have hclean : IsClean (Utf8.ofString (origin scheme a) ++ rest) := by
    have hname : IsClean (Utf8.ofString scheme) := by
      unfold IsClean
      rcases scheme_of_web hscheme with rfl | rfl | rfl | rfl | rfl <;>
        exact forall_mem_of_all (by decide)
    intro b hb
    rw [htext] at hb
    simp only [List.mem_append, List.mem_cons] at hb
    rcases hb with hb | rfl | ((rfl | rfl | hb) | hb)
    · exact hname b hb
    · decide
    · decide
    · decide
    · exact (h.mem_render hb).1
    · exact hrest.isClean b hb
  have hmarks : (0x23 : UInt8) ∉ 0x2F :: 0x2F :: Utf8.ofString a.render ∧
      (0x3F : UInt8) ∉ 0x2F :: 0x2F :: Utf8.ofString a.render := by
    simp only [List.mem_cons, not_or]
    exact ⟨⟨by decide, by decide, fun hmem => (h.mem_render hmem).2.1 rfl⟩,
      ⟨by decide, by decide, fun hmem => (h.mem_render hmem).2.2.2.1 rfl⟩⟩
  have hdrop : (0x2F :: 0x2F :: Utf8.ofString a.render ++ (cutParts rest).1).dropWhile
      (isSlash true) = Utf8.ofString a.render ++ (cutParts rest).1 := by
    obtain ⟨b, bs, hbs⟩ := List.exists_cons_of_ne_nil h.render_ne_nil
    have hb := h.not_isSlash b (hbs ▸ List.mem_cons_self)
    rw [List.cons_append, List.cons_append, List.dropWhile_cons_of_pos rfl,
      List.dropWhile_cons_of_pos rfl, hbs, List.cons_append,
      List.dropWhile_cons_of_neg (by simp [hb])]
  rw [parse, clean_of_isClean hclean, htext, scheme?_web hscheme]
  simp only [cutParts_append hmarks, hscheme, hdrop, afterSlashes_render h _ _ hrest.head_path]
  cases a.host.reread <;> rfl

end Authority

/-! ### What is read -/

/-- The text of a URL after its authority. -/
def tail (u : Url) : String := u.path.render ++ marked "?" u.query ++ marked "#" u.fragment

/-- URLs of the web as they are read. -/
structure IsWeb (u : Url) (port : Nat) (a : Authority) : Prop where
  scheme : SchemeKind.ofScheme u.scheme = .web port
  authority : u.authority = some a
  isWeb : a.IsWeb port
  isTail : IsTail (Utf8.ofString u.tail)

theorem IsWeb.render_eq {u : Url} {port : Nat} {a : Authority} (h : u.IsWeb port a) :
    u.render = origin u.scheme a ++ u.tail := by
  rw [render, beforePath.eq_def, h.authority, origin, tail]
  simp only [String.append_assoc]

/-- Whether the host of a URL is read from its text. -/
def isReadable (u : Url) : Bool := u.authority.all fun a => a.host.isReadable

theorem IsWeb.isReadable_eq {u : Url} {port : Nat} {a : Authority} (h : u.IsWeb port a) :
    u.isReadable = a.host.isReadable := by
  rw [isReadable, h.authority]
  rfl

/-- Texts of printing characters. -/
def IsPrinted (s : String) : Prop := ∀ c ∈ s.toList, 0x20 < c.toNat ∧ c.toNat < 0x80

theorem IsPrinted.isClean {s : String} (h : IsPrinted s) : IsClean (Utf8.ofString s) := by
  have hascii : Utf8.IsAscii s.toList := fun c hc => (h c hc).2
  intro b hb
  rw [hascii.ofString_eq, Bytes.ofAscii] at hb
  obtain ⟨c, hc, rfl⟩ := List.mem_map.mp hb
  have hc' := h c hc
  rw [Utf8.toNat_ofNat_of_lt (by omega)]
  exact hc'.1

/-- An encoded text is printed if only printing bytes are kept. -/
theorem isPrinted_encodeText {keep : UInt8 → Bool} (hkeep : ∀ b, keep b → Ascii.isGraphic b = true)
    (bs : Bytes) : IsPrinted (encodeText keep bs) := by
  have hescape : ∀ c ∈ "%0123456789ABCDEF".toList, 0x20 < c.toNat ∧ c.toNat < 0x80 :=
    forall_mem_of_all (by decide)
  rw [IsPrinted, encodeText, String.toList_ofList]
  refine Percent.forall_mem_encode (fun b hb => ?_) hescape bs
  have hgraphic := hkeep b hb
  rw [Ascii.isGraphic, Bool.and_eq_true, decide_eq_true_eq, decide_eq_true_eq,
    UInt8.le_iff_toNat_le, UInt8.le_iff_toNat_le] at hgraphic
  have hlow : 0x21 ≤ b.toNat := hgraphic.1
  have hhigh : b.toNat ≤ 0x7E := hgraphic.2
  rw [Bytes.toNat_ofNat_toNat]
  omega

theorem isGraphic_of_keptInFragment {b : UInt8} (h : keptInFragment b) :
    Ascii.isGraphic b = true := by
  rw [keptInFragment, Bool.and_eq_true] at h
  exact h.1

theorem isGraphic_of_keptInQuery {special : Bool} {b : UInt8} (h : keptInQuery special b) :
    Ascii.isGraphic b = true := by
  rw [keptInQuery, Bool.and_eq_true, Bool.and_eq_true] at h
  exact h.1.1

theorem isGraphic_of_keptInPath {b : UInt8} (h : keptInPath b) : Ascii.isGraphic b = true := by
  rw [keptInPath, Bool.and_eq_true] at h
  exact isGraphic_of_keptInFragment h.1

theorem forall_mem_goUp {p : String → Prop} {above : List String} (h : ∀ s ∈ above, p s) :
    ∀ s ∈ goUp above, p s := by
  intro s hs
  rcases above with - | ⟨first, above⟩
  · cases hs
  · rw [goUp] at hs
    split at hs
    · exact h s hs
    · exact h s (List.mem_cons_of_mem _ hs)

/-- What holds of the empty segment and of every encoded one that stands for no directory holds of
the segments of a path that was read. -/
theorem forall_mem_cleanSegments {p : String → Prop} (hempty : p "") {segments : List Bytes}
    (hread : ∀ s ∈ segments, isAbove s = false → isHere s = false → p (encodeText keptInPath s))
    {above : List String} (h : ∀ s ∈ above, p s) : ∀ s ∈ cleanSegments above segments, p s := by
  have hlast {rest : List Bytes} {above : List String} (habove : ∀ s ∈ above, p s) :
      ∀ s ∈ (if rest.isEmpty then [""] else []) ++ above, p s := by
    intro s hs
    rcases List.mem_append.mp hs with hs | hs
    · split at hs
      · rw [List.mem_singleton.mp hs]
        exact hempty
      · cases hs
    · exact habove s hs
  induction segments generalizing above with
  | nil => exact fun s hs => h s (by rwa [cleanSegments, List.mem_reverse] at hs)
  | cons segment rest ih =>
    have hrest : ∀ s ∈ rest, isAbove s = false → isHere s = false →
        p (encodeText keptInPath s) := fun s hs => hread s (List.mem_cons_of_mem segment hs)
    rw [cleanSegments]
    split
    · exact ih hrest (hlast (forall_mem_goUp h))
    · next habove =>
      split
      · exact ih hrest (hlast h)
      · next hhere =>
        have hsegment := hread segment List.mem_cons_self (Bool.eq_false_iff.mpr habove)
          (Bool.eq_false_iff.mpr hhere)
        exact ih hrest (List.forall_mem_cons.mpr ⟨hsegment, h⟩)

/-- What holds of the empty segment and of every encoded one that stands for no directory holds of
the segments of a path after an authority. -/
theorem forall_mem_pathAfterAuthority {p : String → Prop} (hempty : p "")
    (hread : ∀ s, (∀ b ∈ s, isSlash true b = false) → isAbove s = false → isHere s = false →
      p (encodeText keptInPath s)) (bs : Bytes) : ∀ s ∈ pathAfterAuthority true bs, p s := by
  have hpath (path : Bytes) : ∀ s ∈ pathFrom true [] path, p s := by
    refine forall_mem_cleanSegments hempty (fun s hs => ?_) (fun s hs => absurd hs (by simp))
    exact hread s (forall_mem_of_mem_splitOnP hs)
  rw [pathAfterAuthority.eq_def]
  split
  · rw [if_pos rfl]
    exact List.forall_mem_singleton.mpr hempty
  · exact hpath _

theorem isPrinted_empty : IsPrinted "" := fun c hc => absurd hc (by simp)

theorem isPrinted_pathAfterAuthority (bs : Bytes) :
    ∀ s ∈ pathAfterAuthority true bs, IsPrinted s :=
  forall_mem_pathAfterAuthority isPrinted_empty
    (fun s _ _ _ => isPrinted_encodeText (fun _ => isGraphic_of_keptInPath) s) bs

theorem IsTail.append {bs cs : Bytes} (hbs : IsTail bs) (hcs : IsTail cs) : IsTail (bs ++ cs) := by
  refine ⟨List.forall_mem_append.mpr ⟨hbs.isClean, hcs.isClean⟩, ?_⟩
  rcases bs with - | ⟨b, bs⟩
  · exact hcs.head
  · exact hbs.head

theorem isTail_nil : IsTail [] := ⟨fun _ h => absurd h List.not_mem_nil, fun _ h => by cases h⟩

theorem isTail_marked {mark : String} {b : UInt8} (hmark : Utf8.ofString mark = [b])
    (hb : b = 0x23 ∨ b = 0x2F ∨ b = 0x3F) {s : String} (h : IsPrinted s) :
    IsTail (Utf8.ofString (mark ++ s)) := by
  rw [Utf8.ofString_append, hmark]
  refine ⟨fun c hc => ?_, fun c hc => Option.some.inj hc ▸ hb⟩
  rcases List.mem_cons.mp hc with rfl | hc
  · rcases hb with rfl | rfl | rfl <;> decide
  · exact h.isClean c hc

/-- The path, the query and the fragment of a URL that was read, as text. -/
theorem isTail_parts {list : List String} (hlist : ∀ s ∈ list, IsPrinted s)
    (query fragment : Option Bytes) :
    IsTail (Utf8.ofString ((Path.segments list).render ++
      marked "?" (query.map (encodeText (keptInQuery true))) ++
      marked "#" (fragment.map (encodeText keptInFragment)))) := by
  have hslash : Utf8.ofString "/" = [0x2F] := by decide
  have hquestion : Utf8.ofString "?" = [0x3F] := by decide
  have hsharp : Utf8.ofString "#" = [0x23] := by decide
  have hpath : IsTail (Utf8.ofString (Path.segments list).render) := by
    rw [Path.render]
    induction list with
    | nil => exact isTail_nil
    | cons s list ih =>
      rw [List.map_cons, String.join_cons, Utf8.ofString_append]
      exact (isTail_marked hslash (.inr (.inl rfl)) (hlist s List.mem_cons_self)).append
        (ih fun t ht => hlist t (List.mem_cons_of_mem s ht))
  have hquery :
      IsTail (Utf8.ofString (marked "?" (query.map (encodeText (keptInQuery true))))) := by
    cases query with
    | none => exact isTail_nil
    | some query =>
      exact isTail_marked hquestion (.inr (.inr rfl))
        (isPrinted_encodeText (fun b => isGraphic_of_keptInQuery) query)
  have hfragment :
      IsTail (Utf8.ofString (marked "#" (fragment.map (encodeText keptInFragment)))) := by
    cases fragment with
    | none => exact isTail_nil
    | some fragment =>
      exact isTail_marked hsharp (.inl rfl)
        (isPrinted_encodeText (fun b => isGraphic_of_keptInFragment) fragment)
  rw [Utf8.ofString_append, Utf8.ofString_append]
  exact (hpath.append hquery).append hfragment

/-- A URL whose authority was read. -/
theorem eq_of_afterSlashes {scheme : String} {port : Nat} {isAll : Bool} {bs : Bytes} {u : Url}
    (h : afterSlashes scheme (.web port) isAll bs = .ok u) :
    ∃ a path, a.IsWeb port ∧
      u = ⟨scheme, some a, .segments (pathAfterAuthority true path), none, none⟩ := by
  rw [afterSlashes] at h
  obtain ⟨⟨a, rest⟩, ha, h⟩ := ok_of_bind h
  cases h
  exact ⟨a, _, isWeb_of_authorityOf ha, rfl⟩

theorem scheme_of_fileUrl {bs : Bytes} {u : Url} (h : fileUrl bs = .ok u) : u.scheme = "file" := by
  rw [fileUrl.eq_def] at h
  dsimp only at h
  split at h
  · split at h
    · split at h
      · cases h
        rfl
      split at h
      · cases h
        rfl
      · obtain ⟨host, -, h⟩ := ok_of_bind h
        cases h
        rfl
    · cases h
      rfl
  · cases h
    rfl

theorem scheme_of_otherUrl {scheme : String} {isAll : Bool} {bs : Bytes} {u : Url}
    (h : otherUrl scheme isAll bs = .ok u) : u.scheme = scheme := by
  rw [otherUrl.eq_def] at h
  split at h
  · rw [afterSlashes] at h
    obtain ⟨⟨a, rest⟩, -, h⟩ := ok_of_bind h
    cases h
    rfl
  · cases h
    rfl
  · cases h
    rfl

/-- What is read with a scheme of the web consists of an authority, a path, a query and a fragment
that were read. -/
theorem eq_of_parse {text : Bytes} {u : Url} (h : parse text = .ok u) {port : Nat}
    (hscheme : SchemeKind.ofScheme u.scheme = .web port) :
    ∃ a path query fragment, a.IsWeb port ∧ u = withParts true query fragment
      ⟨u.scheme, some a, .segments (pathAfterAuthority true path), none, none⟩ := by
  rw [parse] at h
  split at h
  · cases h
  next scheme rest _ =>
    generalize cutParts rest = parts at h
    obtain ⟨bs, query, fragment⟩ := parts
    dsimp only at h
    have hmap {x : Except Refusal Url} {f : Url → Url} (hx : x.map f = .ok u) :
        ∃ v, x = .ok v ∧ f v = u := by
      cases x with
      | error e => cases hx
      | ok v => exact ⟨v, rfl, Except.ok.inj hx⟩
    obtain ⟨v, hv, rfl⟩ := hmap h
    change SchemeKind.ofScheme v.scheme = .web port at hscheme
    cases hkind : SchemeKind.ofScheme scheme with
    | web port' =>
      simp only [hkind] at hv ⊢
      obtain ⟨a, path, ha, rfl⟩ := eq_of_afterSlashes hv
      rw [hkind] at hscheme
      cases hscheme
      exact ⟨a, path, query, fragment, ha, rfl⟩
    | file =>
      simp only [hkind] at hv
      rw [scheme_of_fileUrl hv] at hscheme
      cases hscheme
    | other =>
      simp only [hkind] at hv
      rw [scheme_of_otherUrl hv, hkind] at hscheme
      cases hscheme

/-- What is read with a scheme of the web has the form of URLs of the web. -/
theorem isWeb_of_parse {text : Bytes} {u : Url} (h : parse text = .ok u) {port : Nat}
    (hscheme : SchemeKind.ofScheme u.scheme = .web port) : ∃ a, u.IsWeb port a := by
  obtain ⟨a, path, query, fragment, ha, hu⟩ := eq_of_parse h hscheme
  refine ⟨a, hscheme, by rw [hu]; rfl, ha, ?_⟩
  rw [hu]
  exact isTail_parts (isPrinted_pathAfterAuthority path) query fragment

theorem hasHost_of_authority {u : Url} {port : Nat} {a : Authority} (h : u.authority = some a)
    (ha : a.IsWeb port) : u.hasHost = true := by
  have hhost : a.host ≠ .domain "" := by
    intro hempty
    have hweb := ha.host
    rw [hempty] at hweb
    exact hweb.2.1 rfl
  simp only [hasHost, h]
  exact bne_iff_ne.mpr hhost

end Url

/-! ### Addresses of endpoints -/

namespace Backend

open Url

theorem trimSlashes_append {bs : Bytes} (hne : bs ≠ []) (hlast : ∀ b ∈ bs.getLast?, b ≠ 0x2F)
    (rest : Bytes) : trimSlashes (bs ++ rest) = bs ++ trimSlashes rest := by
  have hkeep : bs.reverse.dropWhile (· == 0x2F) = bs.reverse := by
    obtain ⟨b, cs, hcs⟩ := List.exists_cons_of_ne_nil (List.reverse_ne_nil_iff.mpr hne)
    have hb : bs.getLast? = some b := by rw [← List.head?_reverse, hcs]; rfl
    rw [hcs, List.dropWhile_cons_of_neg (by simpa using hlast b hb)]
  rw [trimSlashes, trimSlashes, List.reverse_append, List.dropWhile_append]
  split
  · next hempty =>
    rw [List.isEmpty_iff.mp hempty, hkeep, List.reverse_reverse, List.reverse_nil, List.append_nil]
  · rw [List.reverse_append, List.reverse_reverse]

/-- What is left of a text without the slashes at its end starts as the text. -/
theorem trimSlashes_prefix (bs : Bytes) : trimSlashes bs <+: bs := by
  rw [trimSlashes, ← List.reverse_suffix, List.reverse_reverse]
  exact List.dropWhile_suffix _

/-- A text with the path of an endpoint at its end, in place of the slashes there. -/
def below (text endpoint : String) : Bytes :=
  trimSlashes (Utf8.ofString text) ++ 0x2F :: Utf8.ofString endpoint ++ [0x2F]

/-- The address of an endpoint is read from the text after the authority. There is none if the host
of the base URL is not read again. -/
theorem endpoint?_of_isWeb {base : Url} {port : Nat} {a : Authority} (h : base.IsWeb port a)
    {endpoint : String} (hendpoint : IsPrinted endpoint) :
    endpoint? base endpoint = if a.host.isReadable then
      .ok (withParts true (cutParts (below base.tail endpoint)).2.1
        (cutParts (below base.tail endpoint)).2.2 ⟨base.scheme, some a,
          .segments (pathAfterAuthority true (cutParts (below base.tail endpoint)).1), none, none⟩)
      else .error Cause.endpointUnusable.fault := by
  have hrest : IsTail (below base.tail endpoint) := by
    obtain ⟨more, hmore⟩ := trimSlashes_prefix (Utf8.ofString base.tail)
    have hkept : IsTail (trimSlashes (Utf8.ofString base.tail)) := by
      have htail := h.isTail
      rw [← hmore] at htail
      refine ⟨(List.forall_mem_append.mp htail.isClean).1, fun b hb => htail.head b ?_⟩
      rw [List.head?_append, hb]
      rfl
    rw [below, List.append_assoc]
    refine hkept.append ⟨?_, fun b hb => Option.some.inj hb ▸ .inr (.inl rfl)⟩
    refine List.forall_mem_append.mpr ⟨?_, forall_mem_of_all (by decide)⟩
    exact List.forall_mem_cons.mpr ⟨by decide, hendpoint.isClean⟩
  have hlast : ∀ b ∈ (Utf8.ofString (origin base.scheme a)).getLast?, b ≠ 0x2F := by
    intro b hb
    rw [origin, Utf8.ofString_append, Utf8.ofString_append _ a.render, ← List.append_assoc,
      List.getLast?_append_of_ne_nil _ h.isWeb.render_ne_nil] at hb
    exact (h.isWeb.mem_render (List.mem_of_mem_getLast? hb)).2.2.1
  have hne : Utf8.ofString (origin base.scheme a) ≠ [] := by
    rw [origin, Utf8.ofString_append, Utf8.ofString_append _ a.render]
    simp [h.isWeb.render_ne_nil]
  have htext : endpointText base endpoint =
      Utf8.ofString (origin base.scheme a) ++ below base.tail endpoint := by
    rw [endpointText, h.render_eq, Utf8.ofString_append, trimSlashes_append hne hlast, below]
    simp only [List.append_assoc]
  rw [endpoint?, htext, parse_web h.scheme h.isWeb hrest, Host.reread]
  cases a.host.isReadable <;> rfl

/-- The base URL of usable options is read, and it is one of the web. -/
theorem parse_of_baseUrl {o : Options} {base : Url} (h : o.baseUrl = .ok base) :
    ∃ port, parse (Utf8.ofString o.gateway) = .ok base ∧
      SchemeKind.ofScheme base.scheme = .web port := by
  rw [Options.baseUrl] at h
  split at h
  · cases h
  next url hurl =>
    split at h
    · cases h
    next hscheme =>
      have hweb : ∃ port, SchemeKind.ofScheme url.scheme = .web port := by
        rw [not_and_or, not_not, not_not] at hscheme
        rcases hscheme with hs | hs
        · exact ⟨80, by rw [hs]; rfl⟩
        · exact ⟨443, by rw [hs]; rfl⟩
      obtain ⟨port, hport⟩ := hweb
      split at h
      · cases h
      split at h
      · cases h
      · cases h
        exact ⟨port, hurl, hport⟩

/-- The base URL of usable options is one of the web. -/
theorem isWeb_of_baseUrl {o : Options} {base : Url} (h : o.baseUrl = .ok base) :
    ∃ port a, base.IsWeb port a := by
  obtain ⟨port, hread, hscheme⟩ := parse_of_baseUrl h
  exact ⟨port, isWeb_of_parse hread hscheme⟩

/-- Every endpoint has an address below the base URL of usable options, or none has. -/
theorem endpoint?_of_baseUrl {o : Options} {base : Url} (h : o.baseUrl = .ok base)
    {endpoint : String} (hendpoint : IsPrinted endpoint) :
    if base.isReadable then
      ∃ address, endpoint? base endpoint = .ok address ∧ address.scheme = base.scheme ∧
        address.authority = base.authority ∧ address.hasHost = true
    else endpoint? base endpoint = .error Cause.endpointUnusable.fault := by
  obtain ⟨port, a, hweb⟩ := isWeb_of_baseUrl h
  have haddress := endpoint?_of_isWeb hweb hendpoint
  rw [← hweb.isReadable_eq] at haddress
  split
  next hread =>
    rw [if_pos hread] at haddress
    exact ⟨_, haddress, rfl, hweb.authority.symm, hasHost_of_authority rfl hweb.isWeb⟩
  next hlong => rwa [if_neg hlong] at haddress

/-- If one endpoint has an address, the host of the base URL is read from its text. -/
theorem isReadable_of_endpoint? {o : Options} {base address : Url} (h : o.baseUrl = .ok base)
    {endpoint : String} (hendpoint : IsPrinted endpoint)
    (haddress : endpoint? base endpoint = .ok address) : base.isReadable = true := by
  by_contra hlong
  have hnone := endpoint?_of_baseUrl h hendpoint
  rw [if_neg hlong, haddress] at hnone
  cases hnone

/-- Every endpoint has an address below a base URL whose host is read from its text. -/
theorem exists_endpoint? {o : Options} {base : Url} (h : o.baseUrl = .ok base)
    (hread : base.isReadable = true) {endpoint : String} (hendpoint : IsPrinted endpoint) :
    ∃ address, endpoint? base endpoint = .ok address ∧ address.scheme = base.scheme ∧
      address.authority = base.authority ∧ address.hasHost = true := by
  have haddress := endpoint?_of_baseUrl h hendpoint
  rwa [if_pos hread] at haddress

end Backend

end StorageGateway
