import StorageGateway.Proofs.Cookie.Table
import StorageGateway.Route.Table

/-!
# What a route captures

A path is led to a route of the table whose pattern matches it, and the captures carry the names of
the pattern in their order. No pattern of the table has a name twice, so that a name stands for one
captured text. The captures have texts as a whole or not at all.

## Main definitions

* `Route.Pattern.names`: the names that a pattern captures.
* `Route.Captures.text?`: the text of one capture.

## Main results

* `Route.select?_eq_some`: the selected route matches.
* `Route.names_matchSegments?`: the names of the captures.
* `Route.exists_error_texts?_iff`: when the captures have no texts.
* `Scope.ofCaptures_eq_ok`: the scope that the captures stand for.
-/

namespace StorageGateway

namespace Route

/-- The name under which a segment is captured. -/
def Segment.name? : Segment → Option String
  | .literal _ => none
  | .capture name | .rest name => some name

/-- The names that a pattern captures. -/
def Pattern.names (pattern : Pattern) : List String := pattern.filterMap Segment.name?

/-- The captures of a match carry the names of the pattern. -/
theorem names_matchSegments? {pattern : Pattern} {path : List Bytes} {captures : Captures}
    (h : matchSegments? pattern path = some captures) :
    captures.map Prod.fst = pattern.names := by
  induction pattern, path using matchSegments?.induct generalizing captures with
  | case1 =>
    cases h
    rfl
  | case2 text pattern path ih =>
    rw [matchSegments?, if_pos rfl] at h
    exact ih h
  | case3 text pattern s path hne =>
    rw [matchSegments?, if_neg hne] at h
    cases h
  | case4 name pattern s path hempty =>
    rw [matchSegments?, if_pos hempty] at h
    cases h
  | case5 name pattern s path hempty ih =>
    rw [matchSegments?, if_neg hempty] at h
    obtain ⟨rest, hrest, rfl⟩ := Option.map_eq_some_iff.mp h
    rw [List.map_cons, ih hrest]
    rfl
  | case6 name s path | case7 name s path =>
    rw [matchSegments?, Option.ite_none_left_eq_some] at h
    rw [← Option.some.inj h.2]
    rfl
  | case8 pattern path hnil hliteral hcapture hrest =>
    rw [matchSegments?] at h
    · cases h
    all_goals assumption

/-- The better of two matches is one of them. -/
theorem better_cases {α : Type} (pattern : α → Pattern) (x y : α × Captures) :
    better pattern x y = x ∨ better pattern x y = y := by
  rw [better]
  split
  · exact .inr rfl
  · exact .inl rfl

/-- The selected item is one of the items, and its pattern matches. -/
theorem select?_eq_some {α : Type} {pattern : α → Pattern} {items : List α} {path : Bytes}
    {item : α} {captures : Captures} (h : select? pattern items path = some (item, captures)) :
    item ∈ items ∧ matchPath? (pattern item) path = some captures := by
  have hfold (first : α × Captures) (others : List (α × Captures)) :
      others.foldl (better pattern) first ∈ first :: others := by
    induction others generalizing first with
    | nil => exact List.mem_cons_self
    | cons next others ih =>
      rw [List.foldl_cons]
      rcases List.mem_cons.mp (ih (better pattern first next)) with hmem | hmem
      · rw [hmem]
        rcases better_cases pattern first next with hsame | hsame <;> simp [hsame]
      · exact List.mem_cons_of_mem _ (List.mem_cons_of_mem _ hmem)
  rw [select?] at h
  split at h
  · cases h
  · next first others hmatches =>
    have hmem := hfold first others
    rw [Option.some.inj h, ← hmatches] at hmem
    obtain ⟨item', hitem, hmatch⟩ := List.mem_filterMap.mp hmem
    obtain ⟨captures', hcaptures, heq⟩ := Option.map_eq_some_iff.mp hmatch
    cases heq
    exact ⟨hitem, hcaptures⟩

/-- An action of a route is served for one of its methods. -/
theorem action?_eq_some {r : Route} {method : String} {action : Action}
    (h : r.action? method = some action) : r.get = some action ∨ r.post = some action := by
  rw [action?] at h
  split at h
  · exact .inl h
  · split at h
    · exact .inr h
    · cases h

/-- No route captures a name twice. -/
theorem nodup_names : ∀ r ∈ table, (Pattern.names r.pattern).Nodup := by decide

/-- A registration captures nothing. -/
theorem names_register : ∀ r ∈ table, r.get = some .register ∨ r.post = some .register →
    Pattern.names r.pattern = [] := by decide

/-! ### Texts -/

/-- The text of the capture of that name. -/
def Captures.text? (captures : Captures) (name : String) : Option String :=
  (Cookie.Table.get? captures name).bind fun bs => Utf8.toString? (Percent.decode bs)

variable {captures : Captures}

/-- The captures have no texts when one of them is not UTF-8. -/
theorem exists_error_texts?_iff : (∃ name, captures.texts? = .error name) ↔
    ∃ c ∈ captures, Utf8.toString? (Percent.decode c.2) = none := by
  induction captures with
  | nil => simp [Captures.texts?]
  | cons c captures ih =>
    obtain ⟨name, bs⟩ := c
    rw [Captures.texts?, List.exists_mem_cons_iff, ← ih]
    cases hbytes : Utf8.toString? (Percent.decode bs) with
    | none => simp
    | some text => cases Captures.texts? captures <;> simp [Except.map]

/-- The texts of the captures, under their names. -/
theorem texts?_eq_ok {texts : List (String × String)} (h : captures.texts? = .ok texts) :
    captures.map (fun c => (c.1, Utf8.toString? (Percent.decode c.2))) =
      texts.map fun t => (t.1, some t.2) := by
  induction captures generalizing texts with
  | nil =>
    cases h
    rfl
  | cons c captures ih =>
    obtain ⟨name, bs⟩ := c
    rw [Captures.texts?] at h
    cases hbytes : Utf8.toString? (Percent.decode bs) with
    | none => simp [hbytes] at h
    | some text =>
      cases hrest : Captures.texts? captures with
      | error name => simp [hbytes, hrest, Except.map] at h
      | ok rest =>
        simp only [hbytes, hrest, Except.map, Except.ok.injEq] at h
        rw [← h, List.map_cons, List.map_cons, ih hrest, hbytes]

theorem names_texts? {texts : List (String × String)} (h : captures.texts? = .ok texts) :
    texts.map Prod.fst = captures.map Prod.fst := by
  have hnames := congrArg (List.map Prod.fst) (texts?_eq_ok h)
  rw [List.map_map, List.map_map] at hnames
  exact hnames.symm

theorem mem_texts?_iff {texts : List (String × String)} (h : captures.texts? = .ok texts)
    {name text : String} : (name, text) ∈ texts ↔
      ∃ bs, (name, bs) ∈ captures ∧ Utf8.toString? (Percent.decode bs) = some text := by
  have hmem : (name, text) ∈ texts ↔ (name, some text) ∈ texts.map fun t => (t.1, some t.2) := by
    simp
  rw [hmem, ← texts?_eq_ok h]
  simp

end Route

/-! ### Scopes -/

namespace Scope

open Route Cookie

variable {texts : List (String × String)} {name text : String}

/-- A name that occurs once stands for the text that it is given with. -/
theorem captured?_eq_some_iff (h : (texts.map Prod.fst).Nodup) :
    captured? texts name = some text ↔ (name, text) ∈ texts := by
  have hmap : Table.IsMap texts.reverse := by
    rw [Table.IsMap, List.map_reverse]
    exact List.nodup_reverse.mpr h
  rw [← List.mem_reverse, Table.mem_iff_get? hmap]
  rfl

theorem captured?_filter (h : (texts.map Prod.fst).Nodup) (p : String → Bool) :
    captured? (texts.filter fun t => p t.2) name = (captured? texts name).filter p := by
  have hfilter : ((texts.filter fun t => p t.2).map Prod.fst).Nodup :=
    h.sublist (List.filter_sublist.map Prod.fst)
  ext text
  rw [captured?_eq_some_iff hfilter, List.mem_filter, Option.filter_eq_some_iff,
    captured?_eq_some_iff h]

/-- It makes no difference whether an empty text counts as none. -/
theorem getD_filter_isEmpty (text : Option String) :
    (text.filter fun t => !t.isEmpty).getD "" = text.getD "" := by
  cases text with
  | none => rfl
  | some t => by_cases h : t = "" <;> simp [Option.filter_some, h]

variable {captures : Captures} {flags : Flags} {s : Scope}

/-- The names of a scope are those that the path captures. -/
theorem ofCaptures_eq_ok (hnodup : (captures.map Prod.fst).Nodup)
    (h : ofCaptures flags captures = .ok s) :
    s.storage = (captures.text? "storage").getD "" ∧
      s.fileName = (captures.text? "file").getD "" ∧ s.isPublic = flags.isPublic ∧
      s.isPermanent = (!s.storage.isEmpty && flags.isPermanent) := by
  rw [ofCaptures] at h
  cases htexts : captures.texts? with
  | error name =>
    rw [htexts] at h
    cases h
  | ok texts =>
    rw [htexts] at h
    cases h
    have hnames : (texts.map Prod.fst).Nodup := names_texts? htexts ▸ hnodup
    have hcaptured (name : String) : captured? texts name = captures.text? name := by
      ext text
      rw [captured?_eq_some_iff hnames, mem_texts?_iff htexts, Captures.text?,
        Option.bind_eq_some_iff]
      simp only [Table.mem_iff_get? (t := captures) hnodup]
    refine ⟨?_, ?_, rfl, rfl⟩
    · rw [← hcaptured]
      rfl
    · rw [← hcaptured, ← getD_filter_isEmpty, ← captured?_filter hnames]
      rfl

end Scope

end StorageGateway
