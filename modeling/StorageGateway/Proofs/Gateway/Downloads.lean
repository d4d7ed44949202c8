import StorageGateway.Proofs.Gateway.Reports
import StorageGateway.Proofs.Http.Disposition
import StorageGateway.Proofs.Service.Call

/-!
# Downloads

A file is passed on as the storage service delivers it: with its bytes, with the length that the
service announces, and broken off where the service breaks off. Of the other fields of the reply
only the media type is kept, and none is for the page that a storage holds for itself, which is
HTML in any case. No success of the service turns into a failure on the way.

## Main definitions

* `Gateway.renewalLine`: the `set-cookie` line of a token that a reply renews.
* `Response.PassesOn`: the response that passes a reply on.

## Main results

* `Gateway.serve_forward`: the answer when the call of a request succeeds.
* `Gateway.passesOn_respond`: the fields of a reply that is passed on.
* `Gateway.downloads_are_passed_on`: the answer to a request for a file.
-/

namespace StorageGateway

open Cookie

/-! ### Fields -/

/-- A field that may be missing. -/
def Header.optional (name : String) (value : Option Bytes) : Headers :=
  (value.map (Header.mk name)).toList

/-- The values of a field that may be missing. -/
theorem Headers.all_optional (name : String) (value : Option Bytes) (other : String) :
    Headers.all (Header.optional name value) other = if name = other then value.toList else [] := by
  cases value with
  | none => exact (ite_self _).symm
  | some v => by_cases h : name = other <;> simp [Header.optional, all, h]

theorem Header.name_of_mem_optional {name : String} {value : Option Bytes} {h : Header}
    (hmem : h ∈ Header.optional name value) : h.name = name := by
  obtain ⟨v, -, rfl⟩ := Option.map_eq_some_iff.mp (Option.mem_toList.mp hmem)
  rfl

namespace Response

/-- A field that is set has no other value. -/
theorem all_setHeader_self (r : Response) (h : Header) :
    (r.setHeader h).headers.all h.name = [h.value] := by
  have hnone : Headers.all (r.headers.filter (·.name != h.name)) h.name = [] := by
    simp [Headers.all, List.filter_eq_nil_iff]
  rw [setHeader, Headers.all_append, hnone]
  simp [Headers.all]

theorem mem_setHeader {r : Response} {h x : Header} (hx : x ∈ (r.setHeader h).headers) :
    x ∈ r.headers ∨ x = h := by
  rw [setHeader, List.mem_append, List.mem_singleton] at hx
  exact hx.imp_left List.mem_of_mem_filter

/-- A response that passes a reply on, under a media type, with a suggested name and with a change
of a cookie, where these are given. -/
structure PassesOn (r : Reply) (mediaType disposition cookie : Option Bytes)
    (response : Response) : Prop where
  status : response.status = 200
  body : response.body = .streamed r.body r.isWhole
  length : response.headers.all "content-length" =
    (r.length.map fun n => Bytes.ofAscii (toString n)).toList
  mediaType : response.headers.all "content-type" = mediaType.toList
  disposition : response.headers.all "content-disposition" = disposition.toList
  cookie : response.headers.all "set-cookie" = cookie.toList
  frames : response.headers.all "x-frame-options" = [Bytes.ofAscii "DENY"]
  sniffing : response.headers.all "x-content-type-options" = [Bytes.ofAscii "nosniff"]
  nothingElse : ∀ h ∈ response.headers, h.name ∈ ["content-length", "content-type",
    "content-disposition", "set-cookie", "x-frame-options", "x-content-type-options"]

/-- Optional fields pass a reply on. -/
theorem passesOn_harden (r : Reply) (mediaType disposition cookie : Option Bytes) :
    PassesOn r mediaType disposition cookie (harden
      { status := 200
        headers := Header.optional "content-disposition" disposition ++
          Header.optional "content-type" mediaType ++
          Header.optional "content-length" (r.length.map fun n => Bytes.ofAscii (toString n)) ++
          Header.optional "set-cookie" cookie
        body := .streamed r.body r.isWhole }) where
  status := rfl
  body := rfl
  length := by
    rw [Gateway.all_harden (by decide) (by decide)]
    simp [Headers.all_append, Headers.all_optional]
  mediaType := by
    rw [Gateway.all_harden (by decide) (by decide)]
    simp [Headers.all_append, Headers.all_optional]
  disposition := by
    rw [Gateway.all_harden (by decide) (by decide)]
    simp [Headers.all_append, Headers.all_optional]
  cookie := by
    rw [Gateway.all_harden (by decide) (by decide)]
    simp [Headers.all_append, Headers.all_optional]
  frames := by
    rw [harden, Gateway.all_setHeader (by decide)]
    exact all_setHeader_self _ (.ofText "x-frame-options" "DENY")
  sniffing := all_setHeader_self _ (.ofText "x-content-type-options" "nosniff")
  nothingElse h hmem := by
    rcases mem_setHeader hmem with hmem | rfl
    · rcases mem_setHeader hmem with hmem | rfl
      · simp only [List.mem_append] at hmem
        rcases hmem with ((hmem | hmem) | hmem) | hmem <;>
          simp [Header.name_of_mem_optional hmem]
      · decide
    · decide

end Response

/-! ### Answers -/

/-- The parameters of a scope name its file. -/
theorem Scope.filter_file_values (s : Scope) :
    s.values.filter (·.1 == "file") = [("file", s.fileName)] := by
  rw [Scope.values]
  cases s.isPublic <;> cases s.isPermanent <;> rfl

namespace Gateway

variable {g : Gateway} {req : Inbound} {first : Request} {storage : String} {r : Reply}

/-- The `set-cookie` line of a token that a reply renews; a storage without a name has none. -/
def renewalLine (g : Gateway) (storage : String) (r : Reply) : Option Bytes :=
  (Session.cookieName? storage).bind fun name =>
    (Exchange.freshToken? r).map fun token =>
      Bytes.ofAscii (line g.cookies name (.store token))

/-- The answer to a request whose call succeeds. -/
theorem serve_forward {call : Call} {onReply : Reply → Except Fault Response}
    (hplan : g.plan? req = some (.forward storage call onReply))
    (hfirst : g.backend.request? req.jar storage call = .ok first) {service : Service}
    (hreply : (Exchange.send service first).reply = some r) (hok : r.status = 200) :
    (g.serve service req).1 = g.respond req.method
      (Session.marks storage ((Exchange.freshToken? r).map .store)) (onReply r) := by
  have herrand : g.plan? req = some ((Errand.ask call (.present onReply)).plan storage) := hplan
  have hsettle : Exchange.settle (Exchange.send service first).reply = .ok r :=
    Exchange.settle_eq_ok_iff.mpr ⟨hreply, hok⟩
  rw [serve_of_plan? herrand, Plan.run_errand _ _ _ req.changes_jar]
  simp only [Errand.settle, Backend.exchange?, ← Backend.request?_eq, hfirst, Except.map, hsettle]
  rfl

/-- A reply that is passed on under a media type and with a suggested name. -/
theorem passesOn_respond (g : Gateway) (storage : String) (r : Reply)
    (mediaType disposition : Option Bytes) {own : Headers}
    (hown : Files.passOn own r =
      { status := 200
        headers := Header.optional "content-disposition" disposition ++
          Header.optional "content-type" mediaType ++
          Header.optional "content-length" (r.length.map fun n => Bytes.ofAscii (toString n))
        body := .streamed r.body r.isWhole }) :
    (g.respond "GET" (Session.marks storage ((Exchange.freshToken? r).map .store))
      (.ok (Files.passOn own r))).PassesOn r mediaType disposition (g.renewalLine storage r) := by
  have hcookie : Jar.setCookies g.cookies
      { changes := Session.marks storage ((Exchange.freshToken? r).map .store) } =
        Header.optional "set-cookie" (g.renewalLine storage r) := by
    rw [Jar.setCookies, Session.marks, renewalLine]
    cases Session.cookieName? storage with
    | none => rfl
    | some name => cases Exchange.freshToken? r <;> rfl
  rw [respond, hcookie, hown]
  exact Response.passesOn_harden r mediaType disposition (g.renewalLine storage r)

/-- The page that a storage holds for itself. -/
theorem index_is_passed_on {s : Scope} (hplan : g.plan? req = some (Files.index s))
    (hmethod : req.method = "GET") (hreaches : g.Reaches req first) {service : Service}
    (hreply : (Exchange.send service first).reply = some r) (hok : r.status = 200) :
    (g.serve service req).1.PassesOn r (some (Bytes.ofAscii "text/html")) none
      (g.renewalLine s.storage r) := by
  obtain ⟨storage', call, next, hplan', hfirst⟩ := hreaches
  obtain ⟨rfl, rfl, -⟩ := Plan.ask.inj (Option.some.inj (hplan'.symm.trans hplan))
  rw [serve_forward hplan hfirst hreply hok, hmethod]
  refine passesOn_respond g s.storage r _ _ ?_
  rw [Files.passOn]
  cases r.length <;> rfl

/-- A file. -/
theorem download_is_passed_on {s : Scope} (hplan : g.plan? req = some (Files.download s))
    (hmethod : req.method = "GET") (hreaches : g.Reaches req first) {service : Service}
    (hreply : (Exchange.send service first).reply = some r) (hok : r.status = 200) :
    ∃ address, Backend.endpoint? g.backend.base "file" = .ok address ∧
      (first.parameters address).filter (·.1 == "file") = [("file", s.fileName)] ∧
      (g.serve service req).1.PassesOn r (r.headers.first? "content-type")
        (some (Utf8.ofString (Disposition.attachment s.fileName)))
        (g.renewalLine s.storage r) := by
  obtain ⟨storage', call, next, hplan', hfirst⟩ := hreaches
  obtain ⟨rfl, rfl, -⟩ := Plan.ask.inj (Option.some.inj (hplan'.symm.trans hplan))
  obtain ⟨address, haddress, rfl⟩ := Backend.exists_address_of_requestWith? hfirst
  refine ⟨address, haddress, ?_, ?_⟩
  · rw [Backend.parameters_requestTo_get, Scope.filter_file_values]
  · rw [serve_forward hplan hfirst hreply hok, hmethod, Disposition.header?_eq]
    refine passesOn_respond g s.storage r _ _ ?_
    rw [Files.passOn]
    cases r.length <;> rfl

/-- What the service delivers for a file is passed on, whatever the file is called: the bytes, as
far as they arrive, the length that was announced for them, and the media type. The file is
suggested under the name that it was asked for. The page that a storage holds for itself is passed
on as HTML and without a name. A renewed token is stored, and no other field of the reply is
shown. -/
theorem downloads_are_passed_on {action : StorageAction}
    (hsubject : subject? req = some (.within action, storage)) (hmethod : req.method = "GET")
    (hreaches : g.Reaches req first) {service : Service}
    (hreply : (Exchange.send service first).reply = some r) (hok : r.status = 200) :
    (action = .index → (g.serve service req).1.PassesOn r (some (Bytes.ofAscii "text/html")) none
      (g.renewalLine storage r)) ∧
    ((action = .download ∨ ∃ name, action = .downloadNamed name) → ∃ address file,
      Backend.endpoint? g.backend.base "file" = .ok address ∧
      (first.parameters address).filter (·.1 == "file") = [("file", file)] ∧
      (g.serve service req).1.PassesOn r (r.headers.first? "content-type")
        (some (Utf8.ofString (Disposition.attachment file))) (g.renewalLine storage r)) := by
  obtain ⟨-, -, s, -, -, rfl, hplan⟩ := exists_scope_of_subject? hsubject
  refine ⟨?_, ?_⟩
  · rintro rfl
    exact index_is_passed_on (hplan g) hmethod hreaches hreply hok
  · rintro (rfl | ⟨name, rfl⟩)
    · obtain ⟨address, hdownload⟩ := download_is_passed_on (hplan g) hmethod hreaches hreply hok
      exact ⟨address, s.fileName, hdownload⟩
    · obtain ⟨address, hdownload⟩ :=
        download_is_passed_on (s := s.withFile name) (hplan g) hmethod hreaches hreply hok
      exact ⟨address, name, hdownload⟩

/-- A download that breaks off breaks off for the browser, and its name is suggested twice. -/
theorem downloads_are_passed_on_broken :
    let g : Gateway :=
      ⟨⟨⟨"http", some { host := .domain "s" }, .segments [""], none, none⟩, []⟩, ⟨60, false⟩, 0⟩
    let req : Inbound := { target := Bytes.ofAscii "/a/%C3%A9/" }
    let r : Reply :=
      { status := 200
        headers := [.ofText "x-token" "t", .ofText "content-type" "text/plain"]
        body := Bytes.ofAscii "half"
        length := some 8
        isWhole := false }
    let response := (g.serve (.scripted [.reply r]) req).1
    response.body = .streamed (Bytes.ofAscii "half") false ∧
      response.headers.all "content-length" = [Bytes.ofAscii "8"] ∧
      response.headers.all "content-disposition" =
        [Bytes.ofAscii "attachment; filename=\"_\"; filename*=UTF-8''%C3%A9"] ∧
      response.headers.all "x-token" = [] := by
  intro g req r response
  let place : Url := ⟨"http", some { host := .domain "s" }, .segments ["file", ""], none, none⟩
  have hsubject : subject? req = some (.within .download, "a") := by decide +kernel
  have hsent : (g.serve (.scripted []) req).2 ≠ [] := by decide +kernel
  obtain ⟨first, rest, hcons⟩ := List.exists_cons_of_ne_nil hsent
  have hreply : (Exchange.send (.scripted [.reply r]) first).reply = some r := rfl
  obtain ⟨-, hdownload⟩ := downloads_are_passed_on hsubject rfl
    (reaches_iff.mpr ⟨_, rest, hcons⟩) hreply rfl
  obtain ⟨address, file, haddress, hfile, hpasses⟩ := hdownload (.inl rfl)
  have haddress' : Backend.endpoint? g.backend.base "file" = .ok place := by decide +kernel
  obtain rfl : place = address := Except.ok.inj (haddress'.symm.trans haddress)
  have hnamed : ((g.serve (.scripted []) req).2.map fun f =>
      (f.parameters place).filter (·.1 == "file")) = [[("file", "é")]] := by decide +kernel
  rw [hcons, List.map_cons, hfile] at hnamed
  obtain rfl : file = "é" := by simpa using congrArg List.head? hnamed
  refine ⟨hpasses.body, hpasses.length, hpasses.disposition.trans (by decide), ?_⟩
  rw [Headers.all, List.map_eq_nil_iff, List.filter_eq_nil_iff]
  intro h hmem htoken
  have hname := hpasses.nothingElse h hmem
  rw [beq_iff_eq.mp htoken] at hname
  exact absurd hname (by decide)

end Gateway

end StorageGateway
