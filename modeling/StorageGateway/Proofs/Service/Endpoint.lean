import StorageGateway.Proofs.Gateway.Errands
import StorageGateway.Proofs.Url.Path

/-!
# Endpoints below a base URL

Usable options give every endpoint an address with the scheme and the authority of the base URL,
unless its host has a label that is too long to be decoded: then the text of the base URL is not
read again, and no endpoint has an address. The endpoint is appended to the last part of the base
URL, and only when this part is the path does it become part of the path: then the address is the
path of the base URL, without the slashes at its end, with the endpoint below it. Behind a query or
a fragment the endpoint is lost for the service, which sees the path of the base URL whatever is
asked.

## Main definitions

* `Backend.IsPlaced`: where the endpoint of an address stands.

## Main results

* `Backend.endpoint_lies_below_path_iff`: the address of an endpoint, and when it is below the path
  of the base URL.
-/

namespace StorageGateway

namespace Url

/-! ### Texts with a query and a fragment -/

/-- A path with a query and a fragment, as bytes. -/
def partsText (path : Bytes) (query fragment : Option Bytes) : Bytes :=
  path ++ query.elim [] (0x3F :: ·) ++ fragment.elim [] (0x23 :: ·)

/-- The parts of a text are found again. -/
theorem cutParts_partsText {path : Bytes} (hpath : 0x23 ∉ path ∧ 0x3F ∉ path)
    {query : Option Bytes} (hquery : ∀ q ∈ query, 0x23 ∉ q) (fragment : Option Bytes) :
    cutParts (partsText path query fragment) = (path, query, fragment) := by
  have hfront : 0x23 ∉ path ++ query.elim [] (0x3F :: ·) := by
    cases query with
    | none => simpa using hpath.1
    | some q => simpa [hpath.1] using hquery q rfl
  have hback : cutAt 0x3F (path ++ query.elim [] (0x3F :: ·)) = (path, query) := by
    cases query with
    | none =>
      rw [Option.elim_none, List.append_nil]
      exact cutAt_of_notMem hpath.2
    | some q => exact cutAt_append_cons hpath.2 q
  cases fragment with
  | none =>
    rw [partsText, Option.elim_none, List.append_nil]
    simp only [cutParts, cutAt_of_notMem hfront, hback]
  | some f =>
    rw [partsText, Option.elim_some]
    simp only [cutParts, cutAt_append_cons hfront, hback]

theorem ofString_marked_question (query : Option String) :
    Utf8.ofString (marked "?" query) = (query.map Utf8.ofString).elim [] (0x3F :: ·) := by
  cases query with
  | none => rfl
  | some q => exact Utf8.ofString_append "?" q

theorem keptInQuery_ascii : ∀ b, keptInQuery true b → b.toNat < 0x80 := by
  intro b hb
  have hgraphic := isGraphic_of_keptInQuery hb
  rw [Ascii.isGraphic, Bool.and_eq_true, decide_eq_true_eq, decide_eq_true_eq] at hgraphic
  have hle : b.toNat ≤ 0x7E := hgraphic.2
  omega

theorem keptInFragment_ascii : ∀ b, keptInFragment b → b.toNat < 0x80 := by
  intro b hb
  have hgraphic := isGraphic_of_keptInFragment hb
  rw [Ascii.isGraphic, Bool.and_eq_true, decide_eq_true_eq, decide_eq_true_eq] at hgraphic
  have hle : b.toNat ≤ 0x7E := hgraphic.2
  omega

/-- The parts of a URL of the web as they are read. -/
structure IsRead (u : Url) (list : List String) : Prop where
  path : u.path = .segments list
  ne_nil : list ≠ []
  segments : ∀ s ∈ list, IsCleanSegment s
  query : ∀ q ∈ u.query, IsKept (keptInQuery true) q
  fragment : ∀ f ∈ u.fragment, IsKept keptInFragment f

theorem isRead_of_parse {text : Bytes} {u : Url} (h : parse text = .ok u) {port : Nat}
    (hscheme : SchemeKind.ofScheme u.scheme = .web port) : ∃ list, u.IsRead list := by
  obtain ⟨a, path, query, fragment, -, hu⟩ := eq_of_parse h hscheme
  refine ⟨pathAfterAuthority true path, by rw [hu]; rfl, pathAfterAuthority_ne_nil path,
    isCleanSegment_pathAfterAuthority path, fun q hq => ?_, fun f hf => ?_⟩
  · rw [hu] at hq
    obtain ⟨bs, -, rfl⟩ := Option.map_eq_some_iff.mp hq
    exact isKept_encodeText keptInQuery_ascii (forall_mem_of_all (by decide)) bs
  · rw [hu] at hf
    obtain ⟨bs, -, rfl⟩ := Option.map_eq_some_iff.mp hf
    exact isKept_encodeText keptInFragment_ascii (forall_mem_of_all (by decide)) bs

theorem notMem_of_isKept_query {q : String} (h : IsKept (keptInQuery true) q) :
    0x23 ∉ Utf8.ofString q := fun hb => absurd (h.keep_of_mem _ hb) (by decide)

end Url

namespace Backend

open Url

/-- The part of a URL that an endpoint is appended to, with what is left of the other parts. -/
inductive IsPlaced (base : Url) (endpoint : String) (address : Url) : Prop
  /-- Nothing follows the path, and the endpoint stands below it. -/
  | path (noQuery : base.query = none) (noFragment : base.fragment = none)
      (below_path : Utf8.ofString address.path.render = below base.path.render endpoint)
      (query : address.query = none) (fragment : address.fragment = none)
  /-- The endpoint stands in the query. -/
  | query {q q' : String} (asked : base.query = some q) (noFragment : base.fragment = none)
      (path : address.path = base.path) (query : address.query = some q')
      (below_query : Utf8.ofString q' = below q endpoint) (fragment : address.fragment = none)
  /-- The endpoint stands in the fragment, which is not sent at all. -/
  | fragment {f f' : String} (asked : base.fragment = some f)
      (path : address.path = base.path) (query : address.query = base.query)
      (fragment : address.fragment = some f') (below_fragment : Utf8.ofString f' = below f endpoint)

/-- What is left away at the end of a text are slashes. -/
theorem exists_slashes (bs : Bytes) :
    ∃ slashes, trimSlashes bs ++ slashes = bs ∧ ∀ b ∈ slashes, b = 0x2F := by
  refine ⟨(bs.reverse.takeWhile (· == 0x2F)).reverse, ?_, fun b hb => ?_⟩
  · rw [trimSlashes, ← List.reverse_append, List.takeWhile_append_dropWhile, List.reverse_reverse]
  · have hslash := List.mem_takeWhile_imp (List.mem_reverse.mp hb)
    exact beq_iff_eq.mp hslash

/-- No text is the one with the path of an endpoint at its end. -/
theorem below_ne (text : String) {endpoint : String} (hendpoint : IsCleanSegment endpoint)
    (hne : endpoint ≠ "") : Utf8.ofString text ≠ below text endpoint := by
  intro h
  obtain ⟨slashes, htext, hslashes⟩ := exists_slashes (Utf8.ofString text)
  rw [below, List.append_assoc] at h
  have hend : slashes = 0x2F :: (Utf8.ofString endpoint ++ [0x2F]) :=
    List.append_cancel_left (htext.trans h)
  obtain ⟨b, bs, hbs⟩ := List.exists_cons_of_ne_nil (mt Utf8.ofString_eq_nil.mp hne)
  have hb : b = 0x2F := hslashes b (by simp [hend, hbs])
  have hwhole := hendpoint.whole b (hbs ▸ List.mem_cons_self)
  rw [hb] at hwhole
  cases hwhole

/-- Text in front that does not end in a slash stays as it is. -/
theorem below_append {text : String} (hne : Utf8.ofString text ≠ [])
    (hlast : ∀ b ∈ (Utf8.ofString text).getLast?, b ≠ 0x2F) (rest endpoint : String) :
    below (text ++ rest) endpoint = Utf8.ofString text ++ below rest endpoint := by
  rw [below, Utf8.ofString_append, trimSlashes_append hne hlast, below]
  simp only [List.append_assoc]

theorem below_question (text rest endpoint : String) :
    below (text ++ "?" ++ rest) endpoint =
      Utf8.ofString text ++ 0x3F :: below rest endpoint := by
  have htext : Utf8.ofString (text ++ "?") = Utf8.ofString text ++ [0x3F] :=
    Utf8.ofString_append text "?"
  rw [below_append (by simp [htext]) (by simp [htext]), htext, List.append_assoc]
  rfl

theorem below_sharp (text rest endpoint : String) :
    below (text ++ "#" ++ rest) endpoint =
      Utf8.ofString text ++ 0x23 :: below rest endpoint := by
  have htext : Utf8.ofString (text ++ "#") = Utf8.ofString text ++ [0x23] :=
    Utf8.ofString_append text "#"
  rw [below_append (by simp [htext]) (by simp [htext]), htext, List.append_assoc]
  rfl

/-- The bytes of a text with the path of an endpoint are kept where those of the text are. -/
theorem keep_of_mem_below {keep : UInt8 → Bool} (hslash : keep 0x2F = true) {text : String}
    (htext : IsKept keep text) {endpoint : String} (hendpoint : IsKept keep endpoint) :
    ∀ b ∈ below text endpoint, keep b = true := by
  obtain ⟨slashes, hsplit, -⟩ := exists_slashes (Utf8.ofString text)
  intro b hb
  simp only [below, List.append_assoc, List.cons_append, List.mem_append, List.mem_cons,
    List.not_mem_nil, or_false] at hb
  rcases hb with hb | rfl | hb | rfl
  · exact htext.keep_of_mem b (hsplit ▸ List.mem_append_left slashes hb)
  · exact hslash
  · exact hendpoint.keep_of_mem b hb
  · exact hslash

/-- Names of endpoints. -/
structure IsName (endpoint : String) : Prop where
  ne_empty : endpoint ≠ ""
  segment : IsCleanSegment endpoint
  query : IsKept (keptInQuery true) endpoint
  fragment : IsKept keptInFragment endpoint

theorem IsName.isPrinted {endpoint : String} (h : IsName endpoint) : IsPrinted endpoint := by
  intro c hc
  obtain ⟨hascii, hkept⟩ := h.fragment c hc
  have hgraphic := isGraphic_of_keptInFragment hkept
  rw [Ascii.isGraphic, Bool.and_eq_true, decide_eq_true_eq, decide_eq_true_eq,
    UInt8.le_iff_toNat_le, UInt8.le_iff_toNat_le, Utf8.toNat_ofNat_of_lt (by omega)] at hgraphic
  have hlow : 0x21 ≤ c.toNat := hgraphic.1
  exact ⟨by omega, hascii⟩

theorem isName_of_endpoint? {action : Action} {endpoint : String}
    (h : action.endpoint? = some endpoint) : IsName endpoint := by
  have hnames := Action.mem_of_endpoint? h
  simp only [List.mem_cons, List.not_mem_nil, or_false] at hnames
  rcases hnames with rfl | rfl | rfl | rfl | rfl | rfl | rfl | rfl <;>
    exact ⟨by decide, ⟨forall_mem_of_all (by decide), forall_mem_of_all (by decide), by decide,
      by decide⟩, forall_mem_of_all (by decide), forall_mem_of_all (by decide)⟩

/-! ### The text that an endpoint is appended to -/

section Tail

variable {base : Url} {list : List String} {endpoint : String}

theorem below_tail_of_fragment (h : base.IsRead list) {f : String}
    (hfragment : base.fragment = some f) : below base.tail endpoint =
      partsText (pathText list) (base.query.map Utf8.ofString) (some (below f endpoint)) := by
  have htail : base.tail = base.path.render ++ marked "?" base.query ++ "#" ++ f := by
    rw [tail, hfragment, marked, ← String.append_assoc]
  rw [htail, below_sharp, Utf8.ofString_append, h.path, ofString_render_segments,
    ofString_marked_question]
  rfl

theorem below_tail_of_query (h : base.IsRead list) (hfragment : base.fragment = none) {q : String}
    (hquery : base.query = some q) : below base.tail endpoint =
      partsText (pathText list) (some (below q endpoint)) none := by
  have htail : base.tail = base.path.render ++ "?" ++ q := by
    rw [tail, hfragment, hquery, marked, marked, String.append_empty, ← String.append_assoc]
  rw [htail, below_question, h.path, ofString_render_segments, partsText, Option.elim_none,
    List.append_nil]
  rfl

theorem below_tail_of_path (hfragment : base.fragment = none) (hquery : base.query = none) :
    below base.tail endpoint = partsText (below base.path.render endpoint) none none := by
  rw [tail, hfragment, hquery, marked, marked, String.append_empty, String.append_empty,
    partsText, Option.elim_none, Option.elim_none, List.append_nil, List.append_nil]

theorem isCleanSegment_below (h : base.IsRead list) (hname : IsName endpoint) :
    ∀ s ∈ list.rdropWhile (·.isEmpty) ++ [endpoint, ""], IsCleanSegment s := by
  intro s hs
  simp only [List.mem_append, List.mem_cons, List.not_mem_nil, or_false] at hs
  rcases hs with hs | rfl | rfl
  · exact h.segments s ((List.rdropWhile_prefix _ _).mem hs)
  · exact hname.segment
  · exact isCleanSegment_empty

/-- Where the endpoint stands that is appended to the text after an authority. -/
theorem isPlaced_withParts (h : base.IsRead list) (hname : IsName endpoint) (scheme : String)
    (a : Option Authority) :
    IsPlaced base endpoint (withParts true (cutParts (below base.tail endpoint)).2.1
      (cutParts (below base.tail endpoint)).2.2 ⟨scheme, a,
        .segments (pathAfterAuthority true (cutParts (below base.tail endpoint)).1), none,
          none⟩) := by
  have hkept : base.path = .segments (pathAfterAuthority true (pathText list)) := by
    rw [pathAfterAuthority_pathText h.ne_nil h.segments, h.path]
  cases hfragment : base.fragment with
  | some f =>
    have hmarks : ∀ q ∈ base.query.map Utf8.ofString, 0x23 ∉ q := by
      intro q hq
      obtain ⟨q, hasked, rfl⟩ := Option.map_eq_some_iff.mp hq
      exact notMem_of_isKept_query (h.query q hasked)
    have hquery : (base.query.map Utf8.ofString).map (encodeText (keptInQuery true)) =
        base.query := by
      rw [Option.map_map]
      exact (Option.map_congr fun q hq => (h.query q hq).encodeText_eq).trans Option.map_id'
    rw [below_tail_of_fragment h hfragment,
      cutParts_partsText (notMem_pathText h.segments) hmarks]
    exact .fragment hfragment hkept.symm hquery rfl
      (ofString_encodeText_of_forall keptInFragment_ascii
        (keep_of_mem_below rfl (h.fragment f hfragment) hname.fragment))
  | none =>
    cases hquery : base.query with
    | some q =>
      have hbelow : ∀ b ∈ below q endpoint, keptInQuery true b = true :=
        keep_of_mem_below rfl (h.query q hquery) hname.query
      have hmarks : ∀ bs ∈ some (below q endpoint), 0x23 ∉ bs := by
        intro bs hbs hmem
        rw [← Option.some.inj hbs] at hmem
        exact absurd (hbelow _ hmem) (by decide)
      rw [below_tail_of_query h hfragment hquery,
        cutParts_partsText (notMem_pathText h.segments) hmarks]
      exact .query hquery hfragment hkept.symm rfl
        (ofString_encodeText_of_forall keptInQuery_ascii hbelow) rfl
    | none =>
      have hsegments := isCleanSegment_below h hname
      have hbelow : below base.path.render endpoint =
          pathText (list.rdropWhile (·.isEmpty) ++ [endpoint, ""]) := by
        rw [h.path, below_segments h.segments]
      have hmarks : ∀ q ∈ (none : Option Bytes), 0x23 ∉ q := fun _ hq => nomatch hq
      rw [below_tail_of_path hfragment hquery, hbelow,
        cutParts_partsText (notMem_pathText hsegments) hmarks,
        pathAfterAuthority_pathText (by simp) hsegments]
      exact .path hquery hfragment (hbelow ▸ ofString_render_segments _) rfl rfl

end Tail

/-- The address is the path of the base URL with the endpoint below it just when nothing follows
this path. -/
theorem IsPlaced.below_path_iff {base address : Url} {endpoint : String}
    (hplaced : IsPlaced base endpoint address) (hname : IsName endpoint) :
    Utf8.ofString address.path.render = below base.path.render endpoint ↔
      base.query = none ∧ base.fragment = none := by
  have hsame := below_ne base.path.render hname.segment hname.ne_empty
  cases hplaced with
  | path hquery hfragment hbelow => exact ⟨fun _ => ⟨hquery, hfragment⟩, fun _ => hbelow⟩
  | query hquery _ hpath =>
    rw [hpath, hquery]
    exact ⟨fun heq => absurd heq hsame, fun hnone => nomatch hnone.1⟩
  | fragment hfragment hpath =>
    rw [hpath, hfragment]
    exact ⟨fun heq => absurd heq hsame, fun hnone => nomatch hnone.2⟩

/-- Every endpoint of usable options has an address with the scheme and the authority of the base
URL. It is the path of the base URL with the endpoint below it just when nothing follows this path;
otherwise the endpoint stands behind the query or the fragment, and the path stays as it is. If the
host of the base URL has a label that is too long to be decoded, no endpoint has an address. -/
theorem endpoint_lies_below_path_iff {o : Options} {base : Url} (h : o.baseUrl = .ok base)
    {action : Action} {endpoint : String} (hasked : action.endpoint? = some endpoint) :
    if base.isReadable then
      ∃ address, endpoint? base endpoint = .ok address ∧ address.scheme = base.scheme ∧
        address.authority = base.authority ∧ IsPlaced base endpoint address ∧
        (Utf8.ofString address.path.render = below base.path.render endpoint ↔
          base.query = none ∧ base.fragment = none)
    else endpoint? base endpoint = .error Cause.endpointUnusable.fault := by
  obtain ⟨port, hread, hscheme⟩ := parse_of_baseUrl h
  obtain ⟨list, hparts⟩ := isRead_of_parse hread hscheme
  obtain ⟨a, hweb⟩ := isWeb_of_parse hread hscheme
  have hname := isName_of_endpoint? hasked
  have hplaced := isPlaced_withParts hparts hname base.scheme (some a)
  have haddress := endpoint?_of_isWeb hweb hname.isPrinted
  rw [← hweb.isReadable_eq] at haddress
  split
  next hreadable =>
    rw [if_pos hreadable] at haddress
    exact ⟨_, haddress, rfl, hweb.authority.symm, hplaced, hplaced.below_path_iff hname⟩
  next hlong => rwa [if_neg hlong] at haddress

/-- The endpoint behind the query of a base URL. -/
theorem endpoint_lies_below_path_iff_query :
    let o : Options := { gateway := "http://u@s:8080/a//?x=1/" }
    ∃ base address, o.baseUrl = .ok base ∧ endpoint? base "list" = .ok address ∧
      address.authority = base.authority ∧
      address.render = "http://u@s:8080/a//?x=1/list/" ∧
      Utf8.ofString address.path.render ≠ below base.path.render "list" := by
  intro o
  let base : Url := ⟨"http", some { username := "u", host := .domain "s", port := some 8080 },
    .segments ["a", "", ""], some "x=1/", none⟩
  have hbase : o.baseUrl = .ok base := by decide +kernel
  have hasked : (Action.within .view).endpoint? = some "list" := rfl
  have hread : base.isReadable = true := by decide +kernel
  have hplace := endpoint_lies_below_path_iff hbase hasked
  rw [if_pos hread] at hplace
  obtain ⟨address, haddress, -, hauthority, -, hpath⟩ := hplace
  have htext : (endpoint? base "list").map render = .ok "http://u@s:8080/a//?x=1/list/" := by
    decide +kernel
  rw [haddress] at htext
  exact ⟨base, address, hbase, haddress, hauthority, Except.ok.inj htext,
    fun heq => nomatch (hpath.mp heq).1⟩

end Backend

theorem Action.isPrinted_endpoint {action : Action} {endpoint : String}
    (h : action.endpoint? = some endpoint) : Url.IsPrinted endpoint :=
  (Backend.isName_of_endpoint? h).isPrinted

end StorageGateway
