import StorageGateway.Proofs.Gateway.Subject
import StorageGateway.Proofs.Gateway.Calls
import StorageGateway.Proofs.Page.Contents
import StorageGateway.Proofs.Route.Names

/-!
# The links and forms of a directory page

Every link and form of a directory page has an address that is put together from the name of the
storage and plain words, and for a download from the name of the file. A request that is sent to
it reaches what a request to the same names in the way of the storages' addresses reaches, unless
one of the names holds a slash. The page keeps a slash as it is, so that the address then names
other things: the parts of the name.

## Main definitions

* `Gateway.reached?`: the handler that a request reaches, and the scope that it is given.
* `Page.Purpose`: what the links and forms of a directory page are for.
* `Page.Directory.names`, `Page.Directory.target`: the names in an address, and what it is to
  reach.

## Main results

* `Gateway.plan?_of_reached?`: the handler decides on the plan of the request.
* `Gateway.reached?_addressOf`: all encodings for names reach the same.
* `Page.Directory.base_eq_of_nested`: areas of different storages that are shown with the same
  addresses.
* `Gateway.page_address_reaches_iff`: which addresses of a page reach what they are for.
-/

namespace StorageGateway

open Route Html

/-! ### What a request reaches -/

/-- The file of a fixed name that an action downloads. -/
def Action.fixedFile? : Action → Option String
  | .within (.downloadNamed name) => some name
  | _ => none

theorem Action.eq_of_fixedFile? {action : Action} {name : String}
    (h : action.fixedFile? = some name) : action = .within (.downloadNamed name) := by
  unfold fixedFile? at h
  split at h
  · rw [Option.some.inj h]
  · cases h

/-- No file of a fixed name has a slash in its name. -/
theorem Route.not_mem_fixedFile? : ∀ r ∈ table, ∀ action ∈ r.get.toList ++ r.post.toList,
    ∀ name ∈ action.fixedFile?, '/' ∉ name.toList := by decide +kernel

/-- The names of the storage and the file are whole names of an address. -/
theorem Route.not_rest :
    ∀ r ∈ table, .rest "storage" ∉ r.pattern ∧ .rest "file" ∉ r.pattern := by decide

/-- The handler of an action and its scope; the file of a fixed name is part of the scope. -/
def Action.about (action : Action) (s : Scope) : Action × Scope :=
  match action.fixedFile? with
  | some name => (.within .download, s.withFile name)
  | none => (action, s)

namespace Scope

/-- A captured text is one of those that were captured. -/
theorem mem_of_captured? {texts : List (String × String)} {key text : String}
    (h : captured? texts key = some text) : (key, text) ∈ texts := by
  obtain ⟨⟨key', text'⟩, hfind, rfl⟩ := Option.map_eq_some_iff.mp h
  have hkey : key' = key := by simpa using List.find?_some hfind
  rw [← hkey]
  exact List.mem_reverse.mp (List.mem_of_find?_eq_some hfind)

theorem not_mem_ofTexts (flags : Flags) {texts : List (String × String)}
    (hstorage : ∀ text, ("storage", text) ∈ texts → '/' ∉ text.toList)
    (hfile : ∀ text, ("file", text) ∈ texts → '/' ∉ text.toList) :
    '/' ∉ (ofTexts flags texts).storage.toList ∧
      ∀ file, (ofTexts flags texts).file = some file → '/' ∉ file.toList := by
  constructor
  · cases hcapture : captured? texts "storage" with
    | none => simp [ofTexts, hcapture]
    | some text => simpa [ofTexts, hcapture] using hstorage text (mem_of_captured? hcapture)
  · intro file h
    exact hfile file (List.mem_filter.mp (mem_of_captured? h)).1

end Scope

/-- A request that is sent to an address. -/
def Inbound.sending (req : Inbound) (method address : String) : Inbound :=
  { req with method, target := Bytes.ofAscii address }

theorem Inbound.method_sending (req : Inbound) (method address : String) :
    (req.sending method address).method = method := rfl

theorem Inbound.target_sending (req : Inbound) (method address : String) :
    (req.sending method address).target = Bytes.ofAscii address := rfl

namespace Gateway

/-- The handler that a request reaches, and the scope that it is given. -/
def reached? (req : Inbound) : Option (Action × Scope) :=
  (action? req).bind fun (action, flags, captures) =>
    (Scope.ofCaptures flags captures).toOption.map action.about

variable {g : Gateway} {req req' : Inbound} {s : Scope}

/-- The handler decides on the plan of the request. -/
theorem plan?_of_reached? (g : Gateway) {action : StorageAction}
    (h : reached? req = some (.within action, s)) :
    g.plan? req = some (g.storagePlan s req action) := by
  obtain ⟨⟨action', flags, captures⟩, haction, hscope⟩ := Option.bind_eq_some_iff.mp h
  obtain ⟨s', hs', habout⟩ := Option.map_eq_some_iff.mp hscope
  have hs' : Scope.ofCaptures flags captures = .ok s' := by
    cases hcaptures : Scope.ofCaptures flags captures with
    | error f => simp [hcaptures, Except.toOption] at hs'
    | ok s'' => simpa [hcaptures, Except.toOption] using hs'
  rw [plan?, haction, Option.map_some, Option.some_inj]
  rw [Action.about] at habout
  split at habout
  · next name hname =>
    -- A file of a fixed name is downloaded like one that the path names.
    obtain ⟨haction', hs⟩ := Prod.mk.inj habout
    cases haction'
    simp only [Action.eq_of_fixedFile? hname, plan, hs', storagePlan, hs]
  · cases habout
    simp only [plan, hs']

/-- What is reached depends on the route and the texts of the path. -/
theorem reached?_congr (hmethod : req.method = req'.method)
    (hroute : (route? table req).map (Prod.map id Captures.texts?) =
      (route? table req').map (Prod.map id Captures.texts?)) : reached? req = reached? req' := by
  have hscope {captures captures' : Captures} (h : captures.texts? = captures'.texts?)
      (flags : Scope.Flags) :
      Scope.ofCaptures flags captures = Scope.ofCaptures flags captures' := by
    rw [Scope.ofCaptures, Scope.ofCaptures, h]
  rw [reached?, reached?, action?, action?, hmethod]
  cases hr : route? table req with
  | none =>
    rw [hr, Option.map_none, eq_comm, Option.map_eq_none_iff] at hroute
    rw [hroute]
  | some found =>
    obtain ⟨r, captures⟩ := found
    rw [hr, Option.map_some, eq_comm, Option.map_eq_some_iff] at hroute
    obtain ⟨⟨r', captures'⟩, hr', heq⟩ := hroute
    obtain ⟨rfl, htexts⟩ := Prod.mk.inj heq
    rw [hr']
    cases haction : r'.action? req'.method with
    | none => simp [haction]
    | some action => simp [haction, hscope htexts]

variable {keep keep' : UInt8 → Bool}

/-- All encodings for names reach the same. -/
theorem reached?_addressOf (hkeep : IsForNames keep) (hkeep' : IsForNames keep')
    {names : List String} (hne : names ≠ []) (req : Inbound) (method : String) :
    reached? (req.sending method (addressOf (Percent.encodeString keep) names)) =
      reached? (req.sending method (addressOf (Percent.encodeString keep') names)) := by
  apply reached?_congr
  · rw [Inbound.method_sending, Inbound.method_sending]
  rw [route?, route?, Inbound.target_sending, Inbound.target_sending]
  exact select?_addressOf hkeep hkeep' hne

/-- What a request to an address reaches is the action of a route, in the scope of texts that the
names of the address are matched with. -/
theorem exists_texts_of_reached? (hkeep : IsForNames keep) {names : List String} (hne : names ≠ [])
    {method : String} {found : Action × Scope}
    (h : reached? (req.sending method (addressOf (Percent.encodeString keep) names)) =
      some found) :
    ∃ r ∈ table, ∃ action texts, (r.get = some action ∨ r.post = some action) ∧
      matchNames? r.pattern names = some texts ∧
      action.about (Scope.ofTexts r.flags texts) = found := by
  obtain ⟨⟨action, flags, captures⟩, haction, hscope⟩ := Option.bind_eq_some_iff.mp h
  obtain ⟨s, hs, habout⟩ := Option.map_eq_some_iff.mp hscope
  obtain ⟨r, hr, rfl, hserved, hroute, -⟩ := exists_route_of_action? haction
  have hmatch := (select?_eq_some hroute).2
  rw [matchPath?, Inbound.target_sending, segments_addressOf hkeep hne] at hmatch
  have htexts := texts_matchSegments? hkeep.sound (hkeep.words r hr) names
  rw [hmatch, Option.map_some, eq_comm, Option.map_eq_some_iff] at htexts
  obtain ⟨texts, hnames, htexts⟩ := htexts
  have hs : s = Scope.ofTexts r.flags texts := by
    simpa [Scope.ofCaptures, ← htexts, Except.toOption] using hs.symm
  exact ⟨r, hr, action, texts, hserved, hnames, hs ▸ habout⟩

/-- Where no name of an address holds a slash, neither does the storage or the file that a request
to it is about. -/
theorem not_mem_of_reached? (hkeep : IsForNames keep) {names : List String} (hne : names ≠ [])
    (hnames : ∀ name ∈ names, '/' ∉ name.toList) {method : String} {action : Action}
    (h : reached? (req.sending method (addressOf (Percent.encodeString keep) names)) =
      some (action, s)) :
    '/' ∉ s.storage.toList ∧ ∀ file, s.file = some file → '/' ∉ file.toList := by
  obtain ⟨r, hr, action', texts, hserved, hmatch, habout⟩ := exists_texts_of_reached? hkeep hne h
  obtain ⟨hstorage, hfile⟩ := Route.not_rest r hr
  have hscope := Scope.not_mem_ofTexts r.flags
    (fun text hmem => hnames text ((mem_of_matchNames? hmatch hmem).resolve_right hstorage))
    (fun text hmem => hnames text ((mem_of_matchNames? hmatch hmem).resolve_right hfile))
  rw [Action.about] at habout
  split at habout
  · next name hname =>
    obtain ⟨-, rfl⟩ := Prod.mk.inj habout
    refine ⟨hscope.1, fun file hfixed => ?_⟩
    have haction : action' ∈ r.get.toList ++ r.post.toList := by
      rcases hserved with hget | hpost
      · simp [hget]
      · simp [hpost]
    exact Route.not_mem_fixedFile? r hr action' haction file (hname.trans hfixed)
  · obtain ⟨-, rfl⟩ := Prod.mk.inj habout
    exact hscope

end Gateway

/-! ### The addresses of a page -/

namespace Page

/-- What the links and forms of a directory page are for. -/
inductive Purpose where
  | styleSheet
  | permanentArea
  | logout
  | upload
  | shareText
  | download (file : String)
  | remove
  deriving DecidableEq, Repr

namespace Purpose

/-- Whether a form is sent. -/
def isForm : Purpose → Bool
  | .upload | .shareText | .remove => true
  | _ => false

/-- The method of the request. -/
def method (p : Purpose) : String := if p.isForm then "POST" else "GET"

/-- How a page shows the address of a link or a form. -/
def items (p : Purpose) (address : String) : List Item :=
  if p.isForm then [(.attr "method", "post"), (.attr "action", address)]
  else [(.attr "href", address)]

end Purpose

/-- The places of a page that hold addresses, and the methods of its forms. -/
def isAddress : Label → Bool
  | .tag _ => false
  | .attr name => ["href", "method", "action"].contains name

/-- The address of a link or the method or address of a form is one of the shown places. -/
theorem isShown_of_isAddress (label : Label) :
    (isAddress label && isShown label) = isAddress label := by
  cases label with
  | tag name => rfl
  | attr name =>
    rw [Bool.and_eq_left_iff_imp]
    intro h
    simp only [isAddress, List.contains_iff_mem, List.mem_cons, List.not_mem_nil, or_false] at h
    rcases h with rfl | rfl | rfl <;> decide

namespace Directory

/-- The purposes of the links and forms of a page, in the order of the page. -/
def purposes (d : Directory) : List Purpose :=
  [.styleSheet] ++ (if d.linksPermanent then [.permanentArea] else []) ++
    [.logout, .upload, .shareText] ++ d.files.flatMap fun f => [.download f.name, .remove]

/-- The names of an address in the shown area. -/
def below (d : Directory) (word : String) : List String :=
  d.storage :: (if d.permanent then ["permanent"] else []) ++ [word, ""]

/-- The names of an address. -/
def names (d : Directory) : Purpose → List String
  | .styleSheet => ["res", "style.css"]
  | .permanentArea => [d.storage, "permanent", ""]
  | .logout => ["logout", d.storage, ""]
  | .upload => d.below "upload"
  | .shareText => d.below "shareText"
  | .download file => d.below file
  | .remove => d.below "remove"

/-- The shown area of the storage. -/
def scope (d : Directory) : Scope := { storage := d.storage, isPermanent := d.permanent }

/-- The handler that an address is to reach, and its scope. -/
def target (d : Directory) : Purpose → Action × Scope
  | .styleSheet => (.resource, {})
  | .permanentArea => (.within .view, { storage := d.storage, isPermanent := true })
  | .logout => (.within .logout, { storage := d.storage, isPublic := true })
  | .upload => (.within .upload, d.scope)
  | .shareText => (.within .shareText, d.scope)
  | .download file => (.within .download, d.scope.withFile file)
  | .remove => (.within .remove, d.scope)

/-- The plain words of an address are shown as they are. -/
theorem encodePath_word :
    ∀ word ∈ ["", "res", "style.css", "permanent", "logout", "upload", "shareText", "remove"],
      encodePath word = word := by decide +kernel

/-- The address of two names, with a slash at its end. -/
theorem addressOf_pair (first second : String) :
    addressOf encodePath [first, second, ""] =
      "/" ++ encodePath first ++ "/" ++ encodePath second ++ "/" := by
  have hempty : encodePath "" = "" := encodePath_word _ (by decide)
  simp only [addressOf_cons, addressOf_nil, hempty, String.append_assoc, String.append_empty]

/-- An address in the shown area begins with the address of the area. -/
theorem addressOf_below (d : Directory) (word : String) :
    addressOf encodePath (d.below word) = d.base ++ "/" ++ encodePath word ++ "/" := by
  have hpermanent : encodePath "permanent" = "permanent" := encodePath_word _ (by decide)
  have hword : "/permanent" = "/" ++ "permanent" := by decide
  rw [below, base]
  cases d.permanent with
  | false =>
    rw [if_neg Bool.false_ne_true, if_neg Bool.false_ne_true, String.append_empty]
    exact addressOf_pair d.storage word
  | true =>
    rw [if_pos rfl, if_pos rfl, List.cons_append, addressOf_cons, List.singleton_append,
      addressOf_pair, hpermanent, hword]
    simp only [String.append_assoc]

/-- The address of an order in the shown area. -/
theorem addressOf_order (d : Directory) {word ending : String}
    (hword : word ∈ ["upload", "shareText", "remove"]) (hending : ending = "/" ++ word ++ "/") :
    addressOf encodePath (d.below word) = d.base ++ ending := by
  rw [addressOf_below, encodePath_word word (by grind), hending]
  simp only [String.append_assoc]

theorem not_mem_of_mem_below {d : Directory} {word : String} (hstorage : '/' ∉ d.storage.toList)
    (hword : '/' ∉ word.toList) : ∀ name ∈ d.below word, '/' ∉ name.toList := by
  intro name hname
  rw [below] at hname
  cases hpermanent : d.permanent <;> simp [hpermanent] at hname
  · rcases hname with rfl | rfl | rfl
    · exact hstorage
    · exact hword
    · decide
  · rcases hname with rfl | rfl | rfl | rfl
    · exact hstorage
    · decide
    · exact hword
    · decide

/-- Besides the names of what is to be reached, an address holds plain words. -/
theorem not_mem_of_mem_names {d : Directory} {p : Purpose}
    (hstorage : '/' ∉ (d.target p).2.storage.toList)
    (hfile : ∀ file, (d.target p).2.file = some file → '/' ∉ file.toList) :
    ∀ name ∈ d.names p, '/' ∉ name.toList := by
  cases p with
  | styleSheet =>
    have hwords : ∀ name ∈ ["res", "style.css"], '/' ∉ name.toList := by decide
    exact hwords
  | permanentArea => simpa [names, target] using hstorage
  | logout => simpa [names, target] using hstorage
  | upload | shareText | remove => exact not_mem_of_mem_below hstorage (by decide)
  | download file => exact not_mem_of_mem_below hstorage (hfile file rfl)

/-- How a page shows the addresses of some links and forms. -/
def addressItems (d : Directory) (ps : List Purpose) : List Item :=
  ps.flatMap fun p => p.items (addressOf encodePath (d.names p))

theorem shown_titleContents (d : Directory) :
    shown isAddress d.titleContents = d.addressItems [.styleSheet] := by
  have haddress : addressOf encodePath (d.names .styleSheet) = "/res/style.css" := by
    rw [names, addressOf_cons, addressOf_cons, addressOf_nil, encodePath_word "res" (by decide),
      encodePath_word "style.css" (by decide)]
    decide
  rw [addressItems, List.flatMap_singleton, haddress]
  rfl

theorem shown_permanentContents (d : Directory) :
    shown isAddress d.permanentContents =
      d.addressItems (if d.linksPermanent then [.permanentArea] else []) := by
  have haddress : addressOf encodePath (d.names .permanentArea) =
      "/" ++ encodePath d.storage ++ "/permanent/" := by
    have hwords : "/permanent/" = "/" ++ "permanent" ++ "/" := by decide
    rw [names, addressOf_pair, encodePath_word "permanent" (by decide), hwords]
    simp only [String.append_assoc]
  rw [permanentContents]
  split
  · rw [addressItems, List.flatMap_singleton, haddress]
    rfl
  · rfl

theorem shown_formContents (d : Directory) :
    shown isAddress d.formContents = d.addressItems [.logout, .upload, .shareText] := by
  have hlogout : addressOf encodePath (d.names .logout) =
      "/logout/" ++ encodePath d.storage ++ "/" := by
    have hwords : "/logout/" = "/" ++ "logout" ++ "/" := by decide
    rw [names, addressOf_pair, encodePath_word "logout" (by decide), hwords]
  have hupload : addressOf encodePath (d.names .upload) = d.base ++ "/upload/" :=
    d.addressOf_order (by decide) (by decide)
  have hshareText : addressOf encodePath (d.names .shareText) = d.base ++ "/shareText/" :=
    d.addressOf_order (by decide) (by decide)
  rw [addressItems, List.flatMap_cons, List.flatMap_cons, List.flatMap_singleton, hlogout, hupload,
    hshareText]
  rfl

theorem shown_rowContents (d : Directory) (f : FileRecord) :
    shown isAddress (rowContents d.base f) = d.addressItems [.download f.name, .remove] := by
  have hdownload : addressOf encodePath (d.names (.download f.name)) =
      d.base ++ "/" ++ encodePath f.name ++ "/" := d.addressOf_below f.name
  have hremove : addressOf encodePath (d.names .remove) = d.base ++ "/remove/" :=
    d.addressOf_order (by decide) (by decide)
  rw [addressItems, List.flatMap_cons, List.flatMap_singleton, hdownload, hremove]
  rfl

theorem shown_rowsContents (d : Directory) :
    shown isAddress d.rowsContents =
      d.addressItems (d.files.flatMap fun f => [.download f.name, .remove]) := by
  rw [rowsContents]
  split
  · next hempty =>
    rw [List.isEmpty_iff.mp hempty]
    rfl
  · rw [addressItems, List.flatMap_assoc, shown, List.filter_flatMap]
    exact List.flatMap_congr fun f _ => d.shown_rowContents f

/-- The addresses that a page shows, and the methods of its forms. -/
theorem shown_addresses (d : Directory) :
    shown isAddress (items (render (directory d))) = d.addressItems d.purposes := by
  have hcontents : shown isAddress (items (render (directory d))) = shown isAddress d.contents := by
    rw [← shown_directory, shown, shown, shown, List.filter_filter]
    exact List.filter_congr fun item _ => (isShown_of_isAddress item.1).symm
  rw [hcontents, contents, shown_append, shown_append, shown_append, shown_titleContents,
    shown_permanentContents, shown_formContents, shown_rowsContents, purposes, addressItems,
    addressItems, addressItems, addressItems, addressItems, List.flatMap_append,
    List.flatMap_append, List.flatMap_append]

/-- The private area of a storage whose name ends in the word of the permanent area is shown with
the addresses of the permanent area of another storage. -/
theorem base_eq_of_nested {d d' : Directory} (hstorage : d.storage = d'.storage ++ "/permanent")
    (hprivate : d.permanent = false) (hpermanent : d'.permanent = true) : d.base = d'.base := by
  have hword : encodePath "/permanent" = "/permanent" := by decide +kernel
  rw [base, base, hprivate, hpermanent, hstorage, encodePath, Percent.encodeString_append,
    ← encodePath, ← encodePath, hword]
  simp only [Bool.false_eq_true, ↓reduceIte, String.append_assoc, String.append_empty]

end Directory

end Page

namespace Gateway

open Page

/-- The links and forms of a directory page have addresses of their names. A request to such an
address reaches what one to the parts of these names reaches in the way of the storages' own
addresses. So it reaches what it is for, whenever the names reach this in that way, if and only if
no name holds a slash. -/
theorem page_address_reaches_iff (d : Directory) (req : Inbound) :
    shown isAddress (items (render (directory d))) = d.addressItems d.purposes ∧
      ∀ p : Purpose,
        reached? (req.sending p.method (addressOf encodePath (d.names p))) =
            reached? (req.sending p.method
              (addressOf Percent.encodeComponent ((d.names p).flatMap parts))) ∧
          (reached? (req.sending p.method (addressOf encodePath (d.names p))) =
              some (d.target p) ↔
            reached? (req.sending p.method (addressOf Percent.encodeComponent (d.names p))) =
                some (d.target p) ∧
              ∀ name ∈ d.names p, '/' ∉ name.toList) := by
  refine ⟨d.shown_addresses, fun p => ?_⟩
  have hne : d.names p ≠ [] := by
    cases p <;> simp [Directory.names, Directory.below]
  have hparts := flatMap_parts_ne_nil hne
  have hpage (method : String) : reached? (req.sending method (addressOf encodePath (d.names p))) =
      reached? (req.sending method
        (addressOf Percent.encodeComponent ((d.names p).flatMap parts))) := by
    rw [addressOf_encodePath]
    exact reached?_addressOf isForNames_keptInName isForNames_keptInComponent hparts req method
  refine ⟨hpage p.method, ?_⟩
  rw [hpage p.method]
  constructor
  · intro h
    obtain ⟨hstorage, hfile⟩ := not_mem_of_reached? isForNames_keptInComponent hparts
      (fun part => not_mem_of_mem_parts) h
    have hslash := Directory.not_mem_of_mem_names hstorage hfile
    rw [flatMap_parts hslash] at h
    exact ⟨h, hslash⟩
  · rintro ⟨h, hslash⟩
    rwa [flatMap_parts hslash]

/-- The form on the page of the storage `x/permanent` uploads to the permanent area of `x`. -/
theorem page_address_reaches_iff_nested :
    let d : Directory := ⟨"Files", "x/permanent", false, true, []⟩
    let req : Inbound := { target := [] }
    addressOf encodePath (d.names .upload) = "/x/permanent/upload/" ∧
      reached? (req.sending "POST" (addressOf Percent.encodeComponent (d.names .upload))) =
        some (d.target .upload) ∧
      reached? (req.sending "POST" "/x/permanent/upload/") ≠ some (d.target .upload) ∧
      reached? (req.sending "POST" "/x/permanent/upload/") =
        some (.within .upload, { storage := "x", isPermanent := true }) := by
  intro d req
  have haddress : addressOf encodePath (d.names .upload) = "/x/permanent/upload/" := by
    decide +kernel
  refine ⟨haddress, by decide +kernel, fun h => ?_, by decide +kernel⟩
  have hslash := (((page_address_reaches_iff d req).2 .upload).2.mp (haddress ▸ h)).2
  exact absurd hslash (by decide +kernel)

end Gateway

end StorageGateway
