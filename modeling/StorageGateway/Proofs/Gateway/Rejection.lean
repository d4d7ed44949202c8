import StorageGateway.Proofs.Gateway.Calls

/-!
# One call, and none for what is rejected

A request gives rise to one call at most. It is carried by one request, which is sent again only
where a reply points to another place. A request that cannot be served gives rise to no call and
leaves the cookies alone: a path that is no text, a form or an upload of no use, a field that is
missing. All of this is checked before the call, so that what follows a part that is in order can
still keep the call from being made.

## Main definitions

* `Gateway.Rejects`: requests that cannot be served.

## Main results

* `Gateway.Rejects.isAnsweredAtOnce`: a rejected request is answered without a call.
* `Gateway.serve_calls_once`: what the service receives.
-/

namespace StorageGateway.Gateway

/-- Requests that cannot be served. -/
inductive Rejects (g : Gateway) (req : Inbound) : Prop
  /-- A captured part of the path is not UTF-8 under its percent encoding. -/
  | path {r captures c} (routed : route? Route.table req = some (r, captures)) (mem : c ∈ captures)
      (notText : Utf8.toString? (Percent.decode c.2) = none)
  /-- The form is of no use. -/
  | form {action flags captures names} (asked : action? req = some (action, flags, captures))
      (fields : action.formFields? = some names)
      (unusable : Form.IsUnusable req.headers req.body.chunks names)
  /-- A field is missing or empty. -/
  | field {action flags captures name} (asked : action? req = some (action, flags, captures))
      (required : name ∈ action.requiredFields) (missing : req.submitted name = "")
  /-- The upload is of no use. -/
  | upload {flags captures} (asked : action? req = some (.within .upload, flags, captures))
      (unusable : Multipart.IsUnusable req.headers g.uploadLimit req.body)

variable {g : Gateway} {flags : Scope.Flags} {captures : Route.Captures} {req : Inbound}
  {action : Action}

/-- A request whose path is no text is about nothing. -/
theorem no_subject_of_path {r : Route} {c : String × Bytes}
    (hroute : route? Route.table req = some (r, captures)) (hmem : c ∈ captures)
    (htext : Utf8.toString? (Percent.decode c.2) = none) : subject? req = none := by
  rw [subject?, Option.bind_eq_none_iff]
  rintro ⟨action, flags, captures'⟩ haction
  obtain ⟨r', hr', -, hserves, hroute', hnames⟩ := exists_route_of_action? haction
  rw [hroute] at hroute'
  cases hroute'
  rw [Option.map_eq_none_iff]
  cases action with
  | within action =>
    obtain ⟨name, hname⟩ := Route.exists_error_texts?_iff.mpr ⟨c, hmem, htext⟩
    rw [Action.storage?, Scope.ofCaptures, hname]
    rfl
  | register =>
    rw [Route.names_register r hr' hserves, List.map_eq_nil_iff] at hnames
    rw [hnames] at hmem
    cases hmem
  | _ => rfl

/-- A request with a form or an upload leads to a call only when it holds what is asked for. -/
theorem isAnsweredAtOnce_of_not_suffices
    (haction : action? req = some (action, flags, captures)) (hlogout : action ≠ .within .logout)
    (h : ¬req.Suffices g action) : g.IsAnsweredAtOnce req := by
  cases hsubject : subject? req with
  | none => exact g.isAnsweredAtOnce_of_no_subject hsubject
  | some subject =>
    obtain ⟨action', storage⟩ := subject
    obtain ⟨e, hsuits, hplan⟩ := g.plan?_of_subject? hsubject
    have hsame : action' = action := by
      rw [subject?, haction, Option.bind_some] at hsubject
      obtain ⟨_, -, heq⟩ := Option.map_eq_some_iff.mp hsubject
      exact (Prod.mk.inj heq).1.symm
    obtain rfl := hsame
    cases hsuits with
    | answer _ hplain => exact .inr ⟨_, hplain, hplan⟩
    | forget heq => exact absurd heq hlogout
    | ask =>
      rw [plan?, haction, Option.map_some] at hplan
      exact absurd (ask_cases haction (Option.some.inj hplan)).2 h

/-- A rejected request is answered without a call. -/
theorem Rejects.isAnsweredAtOnce (h : g.Rejects req) : g.IsAnsweredAtOnce req := by
  cases h with
  | path hroute hmem htext =>
    exact g.isAnsweredAtOnce_of_no_subject (no_subject_of_path hroute hmem htext)
  | form haction hfields huse =>
    refine isAnsweredAtOnce_of_not_suffices haction ?_ fun h => h.form _ hfields huse
    rintro rfl
    cases hfields
  | field haction hrequired hmissing =>
    refine isAnsweredAtOnce_of_not_suffices haction ?_ fun h => h.fields _ hrequired hmissing
    rintro rfl
    cases hrequired
  | upload haction huse =>
    exact isAnsweredAtOnce_of_not_suffices haction (by decide) fun h => h.files rfl huse

/-- A request gives rise to one call at most, whatever the service replies: the requests that it
receives form one chain, which grows only where a reply points to another place, and not for ever.
A rejected request gives rise to none and changes no cookie. -/
theorem serve_calls_once (g : Gateway) (service : Service) (req : Inbound) :
    let received := (g.serve service req).2
    Exchange.IsChain service.deliveries received ∧ received.length ≤ 11 ∧
      ((∀ r, .reply r ∈ service.deliveries.take received.length → ¬r.IsRedirect) →
        received.length ≤ 1) ∧
      (g.Rejects req → received = [] ∧
        (g.serve service req).1.headers.all "set-cookie" = []) := by
  intro received
  have hchain : Exchange.IsChain service.deliveries received ∧ received.length ≤ 11 := by
    rcases g.received_serve service req with hnone | ⟨first, -, hsent⟩
    · rw [show received = [] from hnone]
      exact ⟨.none, Nat.zero_le 11⟩
    · rw [show received = _ from hsent]
      exact Exchange.isChain_send service first
  exact ⟨hchain.1, hchain.2, hchain.1.length_le_one, fun h => h.isAnsweredAtOnce.serve service⟩

/-- An upload that breaks off behind a complete file gives rise to no call. -/
theorem serve_calls_once_brokenUpload :
    let g : Gateway :=
      ⟨⟨⟨"http", some { host := .domain "s" }, .segments [""], none, none⟩, Bytes.ofAscii "x"⟩,
        ⟨60, false⟩, 0⟩
    let start : Bytes := Bytes.ofAscii
      "--B\r\nContent-Disposition: form-data; name=f; filename=a\r\n\r\nx\r\n--B\r\n"
    let req : Inbound :=
      { method := "POST"
        target := Bytes.ofAscii "/a/upload/"
        headers := [.ofText "content-type" "multipart/form-data; boundary=B"]
        body := ⟨[.data start, .broken], []⟩ }
    g.Rejects req ∧ (g.serve (.scripted [.reply { status := 200 }]) req).2 = [] := by
  intro g start req
  have haction : action? req =
      some (.within .upload, .ofPrivate, [("storage", Bytes.ofAscii "a")]) := by decide +kernel
  have hnamed : (req.headers.first? "content-type").bind Multipart.boundary? =
      some (Bytes.ofAscii "B") := by decide +kernel
  have hstarts : Multipart.StartsWith req.body [start] [[.broken]] :=
    ⟨[[], [.data start]], rfl, rfl⟩
  have hhungry : Multipart.scan (Bytes.ofAscii "B") [start].flatten = .hungry .between := by
    decide +kernel
  have hends : Multipart.BreaksOff [[.broken]] := .inr ⟨[.broken], [], rfl, List.mem_cons_self⟩
  have hrejects : g.Rejects req := .upload haction (.breaksOff hnamed hstarts hends hhungry)
  obtain ⟨-, -, -, hnone⟩ := serve_calls_once g (.scripted [.reply { status := 200 }]) req
  exact ⟨hrejects, (hnone hrejects).1⟩

end StorageGateway.Gateway
