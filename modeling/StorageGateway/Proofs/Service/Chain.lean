import StorageGateway.Service.Exchange

/-!
# Chains of requests

A call gives rise to a chain of requests: the first one carries the call, and each further one
asks at the place that the reply to the one before pointed to. A chain is never longer than the
redirects that are followed allow, and it ends with the first reply that points nowhere. The
authorization is carried along unchanged, and it never leaves the place of the network where the
first request went, because a redirect to another place is not followed.

## Main definitions

* `Reply.IsRedirect`: replies that point to another place.
* `Exchange.LeadsTo`, `Exchange.IsChain`: from one request to the next, and a whole chain.
* `Exchange.IsLink`: what the requests of a chain have in common.

## Main results

* `Exchange.follow_cases`: what one reply can do.
* `Exchange.isChain_send`: the chain of a call and its length.
* `Exchange.IsChain.length_le_one`: chains without a redirect.
* `Exchange.received_send`: what the requests of a call have in common.
* `Exchange.settle_eq_ok_iff`: the last reply of a call that succeeds.
-/

namespace StorageGateway

/-- A reply that points to another place. -/
def Reply.IsRedirect (r : Reply) : Prop :=
  r.status ∈ [301, 302, 303, 307, 308] ∧ (r.headers.first? "location").isSome

/-- What the service delivers, if it is reached at all. -/
def Service.deliveries : Service → List Delivery
  | .unreachable => []
  | .scripted deliveries => deliveries

namespace Exchange

theorem sameOrigin_iff {u v : Url} : sameOrigin u v = true ↔
    u.scheme = v.scheme ∧ u.authority.map (·.host) = v.authority.map (·.host) ∧
      u.authority.bind (·.port) = v.authority.bind (·.port) := by
  rw [sameOrigin, Bool.and_eq_true, Bool.and_eq_true, beq_iff_eq, beq_iff_eq, beq_iff_eq, and_assoc]

theorem sameOrigin_refl (u : Url) : sameOrigin u u = true := sameOrigin_iff.mpr ⟨rfl, rfl, rfl⟩

theorem sameOrigin_trans {u v w : Url} (h : sameOrigin u v = true) (h' : sameOrigin v w = true) :
    sameOrigin u w = true := by
  obtain ⟨hscheme, hhost, hport⟩ := sameOrigin_iff.mp h
  obtain ⟨hscheme', hhost', hport'⟩ := sameOrigin_iff.mp h'
  exact sameOrigin_iff.mpr ⟨hscheme.trans hscheme', hhost.trans hhost', hport.trans hport'⟩

/-- What a request of a chain has in common with the first one. -/
structure IsLink (first r : Request) : Prop where
  authorization : r.authorization = first.authorization
  origin : sameOrigin r.url first.url = true

theorem IsLink.refl (first : Request) : IsLink first first := ⟨rfl, sameOrigin_refl _⟩

theorem IsLink.trans {first next r : Request} (h : IsLink first next) (h' : IsLink next r) :
    IsLink first r :=
  ⟨h'.authorization.trans h.authorization, sameOrigin_trans h'.origin h.origin⟩

/-- The place that a reply to a request points to, if it is of the same host. -/
def PointsTo (req : Request) (r : Reply) (url : Url) : Prop :=
  sameOrigin url req.url = true ∧
    ∃ location, r.headers.first? "location" = some location ∧
      Url.resolve req.url location = .ok url

/-- The request that a reply leads to. A redirect of the older kind leads to a question without a
body, one of the newer kind to the same request at the other place. -/
inductive LeadsTo (req : Request) (r : Reply) : Request → Prop
  | question {url} (status : r.status ∈ [301, 302, 303]) (points : PointsTo req r url) :
      LeadsTo req r
        { method := if req.method = "HEAD" then "HEAD" else "GET"
          url, authorization := req.authorization }
  | again {url} (status : r.status ∈ [307, 308]) (points : PointsTo req r url)
      (repeatable : req.isRepeatable = true) : LeadsTo req r { req with url }

theorem LeadsTo.isRedirect {req next : Request} {r : Reply} (h : LeadsTo req r next) :
    r.IsRedirect := by
  have hlocation {url : Url} (hpoints : PointsTo req r url) :
      (r.headers.first? "location").isSome := by
    obtain ⟨-, location, hlocation, -⟩ := hpoints
    rw [hlocation, Option.isSome_some]
  cases h with
  | question hstatus hpoints =>
    exact ⟨List.mem_append_left [307, 308] hstatus, hlocation hpoints⟩
  | again hstatus hpoints =>
    exact ⟨List.mem_append_right [301, 302, 303] hstatus, hlocation hpoints⟩

theorem LeadsTo.isLink {req next : Request} {r : Reply} (h : LeadsTo req r next) :
    IsLink req next := by
  cases h with
  | question _ hpoints => exact ⟨rfl, hpoints.1⟩
  | again _ hpoints => exact ⟨rfl, hpoints.1⟩

theorem leadsTo_of_next? {req next : Request} {r : Reply} (h : next? req r = some next)
    (horigin : sameOrigin next.url req.url = true) : LeadsTo req r next := by
  obtain ⟨location, hlocation, h⟩ := Option.bind_eq_some_iff.mp h
  replace hlocation := (Option.filter_eq_some_iff.mp hlocation).1
  split at h
  · next url hresolve =>
    rw [redirected?] at h
    split at h
    · next hstatus =>
      cases h
      exact .question (by simpa using hstatus) ⟨horigin, location, hlocation, hresolve⟩
    · split at h
      · next hstatus =>
        split at h
        · next hrepeatable =>
          cases h
          exact .again (by simpa using hstatus) ⟨horigin, location, hlocation, hresolve⟩
            hrepeatable
        · cases h
      · cases h
  · cases h

/-- A chain ends with its first request, or it goes on with the request that the reply to the first
one leads to, and may be followed once less from there. -/
theorem follow_cases (allowance : Nat) (req : Request) (deliveries : List Delivery) :
    (follow allowance req deliveries).received = [req] ∨
      ∃ r rest next allowance', deliveries = .reply r :: rest ∧ allowance = allowance' + 1 ∧
        LeadsTo req r next ∧
        (follow allowance req deliveries).received =
          req :: (follow allowance' next rest).received := by
  rw [follow.eq_def]
  split
  · exact .inl rfl
  · exact .inl rfl
  · next r rest =>
    split
    · exact .inl rfl
    · exact .inl rfl
    · next next allowance' hnext =>
      split
      · next horigin =>
        exact .inr ⟨r, rest, next, allowance', rfl, rfl, leadsTo_of_next? hnext horigin, rfl⟩
      · exact .inl rfl

/-! ### Chains -/

/-- The requests of one call. There is none, or a first one; behind a request there is no other one
than that which its reply leads to, and each request takes one delivery. -/
inductive IsChain : List Delivery → List Request → Prop
  | none {deliveries} : IsChain deliveries []
  | last {deliveries req} : IsChain deliveries [req]
  | link {r deliveries req next rest} (leads : LeadsTo req r next)
      (tail : IsChain deliveries (next :: rest)) :
      IsChain (.reply r :: deliveries) (req :: next :: rest)

/-- Every request of a chain is linked to the first one. -/
theorem IsChain.isLink {deliveries : List Delivery} {received : List Request}
    (h : IsChain deliveries received) {req : Request} {rest : List Request}
    (hreceived : received = req :: rest) : ∀ r ∈ rest, IsLink req r := by
  induction h generalizing req rest with
  | none => cases hreceived
  | last =>
    cases hreceived
    simp
  | link hleads _ ih =>
    cases hreceived
    refine List.forall_mem_cons.mpr ⟨hleads.isLink, fun r hr => ?_⟩
    exact hleads.isLink.trans (ih rfl r hr)

theorem received_follow_eq_cons (allowance : Nat) (req : Request) (deliveries : List Delivery) :
    ∃ rest, (follow allowance req deliveries).received = req :: rest := by
  rcases follow_cases allowance req deliveries with hend | ⟨_, _, _, _, -, -, -, hmore⟩
  · exact ⟨[], hend⟩
  · exact ⟨_, hmore⟩

/-- The requests of a call form a chain, which is no longer than its allowance. -/
theorem isChain_follow (allowance : Nat) (req : Request) (deliveries : List Delivery) :
    IsChain deliveries (follow allowance req deliveries).received ∧
      (follow allowance req deliveries).received.length ≤ allowance + 1 := by
  induction allowance generalizing req deliveries with
  | zero =>
    rcases follow_cases 0 req deliveries with hend | ⟨_, _, _, _, -, heq, -⟩
    · rw [hend]
      exact ⟨.last, Nat.le_refl 1⟩
    · cases heq
  | succ allowance ih =>
    rcases follow_cases (allowance + 1) req deliveries with
      hend | ⟨r, rest, next, _, rfl, heq, hleads, hmore⟩
    · rw [hend]
      exact ⟨.last, Nat.le_add_left 1 (allowance + 1)⟩
    · cases heq
      obtain ⟨links, hlinks⟩ := received_follow_eq_cons allowance next rest
      obtain ⟨hchain, hlength⟩ := ih next rest
      rw [hlinks] at hchain hlength
      rw [hmore, hlinks]
      exact ⟨.link hleads hchain, Nat.succ_le_succ hlength⟩

/-- A chain has a second request only when the reply to the first one points to another place. -/
theorem IsChain.length_le_one {deliveries : List Delivery} {received : List Request}
    (h : IsChain deliveries received)
    (hreplies : ∀ r, .reply r ∈ deliveries.take received.length → ¬r.IsRedirect) :
    received.length ≤ 1 := by
  cases h with
  | none => exact Nat.zero_le 1
  | last => exact Nat.le_refl 1
  | link hleads _ => exact absurd hleads.isRedirect (hreplies _ List.mem_cons_self)

/-- A service that answers receives the first request. -/
theorem received_scripted (deliveries : List Delivery) (req : Request) :
    ∃ rest, (send (.scripted deliveries) req).received = req :: rest :=
  received_follow_eq_cons maxRedirects req deliveries

/-- The requests that the service receives, if any. -/
theorem received_send {service : Service} {req : Request} {first : Request} {rest : List Request}
    (h : (send service req).received = first :: rest) :
    first = req ∧ ∀ r ∈ first :: rest, IsLink req r := by
  cases service with
  | unreachable => cases h
  | scripted deliveries =>
    obtain ⟨hchain, -⟩ := isChain_follow maxRedirects req deliveries
    obtain ⟨rest', hrest⟩ := received_follow_eq_cons maxRedirects req deliveries
    rw [send, hrest] at h
    rw [hrest] at hchain
    obtain ⟨rfl, rfl⟩ := List.cons.inj h
    exact ⟨rfl, List.forall_mem_cons.mpr ⟨IsLink.refl _, hchain.isLink rfl⟩⟩

/-- The requests of a call form a chain of limited length. -/
theorem isChain_send (service : Service) (req : Request) :
    IsChain service.deliveries (send service req).received ∧
      (send service req).received.length ≤ maxRedirects + 1 := by
  cases service with
  | unreachable => exact ⟨.none, Nat.zero_le _⟩
  | scripted deliveries => exact isChain_follow maxRedirects req deliveries

/-! ### The last reply -/

/-- A reply counts when its status is 200. -/
theorem settle_eq_ok_iff {final : Option Reply} {r : Reply} :
    settle final = .ok r ↔ final = some r ∧ r.status = 200 := by
  cases final with
  | none => simp [settle]
  | some r' =>
    rw [settle, Option.some_inj]
    by_cases hstatus : r'.status = 200
    · rw [if_pos hstatus, Except.ok.injEq]
      exact ⟨fun h => ⟨h, h ▸ hstatus⟩, And.left⟩
    · rw [if_neg hstatus]
      refine ⟨fun h => ?_, fun h => absurd (h.1 ▸ h.2) hstatus⟩
      split at h <;> cases h

end Exchange

end StorageGateway
