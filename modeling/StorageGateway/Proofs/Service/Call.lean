import StorageGateway.Proofs.Handler.Errand
import StorageGateway.Proofs.Text.FormData

/-!
# Requests that carry calls

A call is carried by one request. Its parameters stand in the body, or in the query behind those
that the address of the endpoint has already, and are read as they were given. It bears the token
and nothing else, and a token that cannot be written keeps it from being made.

## Main definitions

* `Url.parameters`, `Request.parameters`: the named values that a URL and a request hold.
* `Backend.requestTo`, `Backend.canBear`: the request to a known address, and what it can bear.

## Main results

* `Url.parameters_addQuery`: parameters at the end of a query.
* `Backend.requestWith?_eq`: the request that carries a call.
* `Backend.place_requestTo`, `Backend.parameters_requestTo`: where it goes, and its parameters.
* `Backend.settle_ask`: how a call ends.
-/

namespace StorageGateway

/-- Forms put together are read one after the other. -/
theorem FormData.decode_append (bs cs : Bytes) :
    decode (bs ++ 0x26 :: cs) = decode bs ++ decode cs := by
  rw [decode, List.splitOn_append_cons_self, List.filter_append, List.map_append]
  rfl

/-- The named values in the query of a URL. -/
def Url.parameters (u : Url) : List (String × String) :=
  FormData.decode ((u.query.map Bytes.ofAscii).getD [])

/-- Parameters at the end of a query stand behind the others. -/
theorem Url.parameters_addQuery (u : Url) (values : List (String × String)) :
    (u.addQuery values).parameters = u.parameters ++ values := by
  have hmark : Bytes.ofAscii "&" = [0x26] := by decide
  have hnil : FormData.decode [] = [] := rfl
  rw [addQuery]
  split
  · next hempty => rw [List.isEmpty_iff.mp hempty, List.append_nil]
  · simp only [parameters]
    split
    · next hquery =>
      rw [hquery, Option.map_some, Option.getD_some, FormData.decode_encode, Option.map_none,
        Option.getD_none, hnil, List.nil_append]
    · next hquery =>
      rw [hquery, Option.map_some, Option.getD_some, FormData.decode_encode]
      rfl
    · next query _ hquery =>
      rw [hquery, Option.map_some, Option.getD_some, Bytes.ofAscii_append, Bytes.ofAscii_append,
        hmark, List.append_assoc, List.singleton_append, FormData.decode_append,
        FormData.decode_encode]
      rfl

/-- Parameters change neither the place nor the path. -/
theorem Url.addQuery_eq (u : Url) (values : List (String × String)) :
    u.addQuery values = { u with query := (u.addQuery values).query } := by
  rw [addQuery]
  split <;> rfl

@[simp] theorem Url.path_addQuery (u : Url) (values : List (String × String)) :
    (u.addQuery values).path = u.path := by
  rw [addQuery_eq]

@[simp] theorem Url.scheme_addQuery (u : Url) (values : List (String × String)) :
    (u.addQuery values).scheme = u.scheme := by
  rw [addQuery_eq]

@[simp] theorem Url.authority_addQuery (u : Url) (values : List (String × String)) :
    (u.addQuery values).authority = u.authority := by
  rw [addQuery_eq]

/-- The named values that a request holds: those of its form, or those of its query behind the
ones of the address. -/
def Request.parameters (address : Url) (r : Request) : List (String × String) :=
  match r.body with
  | some body => FormData.decode body
  | none => r.url.parameters.drop address.parameters.length

/-- The user name of a URL is that of its authority. -/
theorem Url.user?_congr {u v : Url} (h : u.authority = v.authority) : u.user? = v.user? := by
  rw [user?, user?, h]

namespace Backend

/-- The request that carries a call to a known address. -/
def requestTo (b : Backend) (address : Url) (call : Call) (token : Option String) : Request :=
  let url := (if address.user?.isSome then address.withoutUser else address).addQuery call.query
  { call.payload.request b.boundary call.method url with
    authorization := (address.user?.map basicAuthorization).toList ++
      (token.map bearerAuthorization).toList }

/-- Whether there is nothing in the way of writing a token. -/
def canBear (token : Option String) : Bool :=
  (token.map fun t => Header.isWritable (bearerAuthorization t)).getD true

theorem canBear_some (t : String) : canBear (some t) = Header.isWritable (Utf8.ofString t) := by
  have hbearer : Header.isWritable (Bytes.ofAscii "Bearer ") = true := by decide
  rw [canBear, Option.map_some, Option.getD_some, bearerAuthorization, Header.isWritable,
    List.all_append, ← Header.isWritable, ← Header.isWritable, hbearer, Bool.true_and]

variable {b : Backend} {call : Call} {address : Url}

/-- The request that carries a call, when the address of its endpoint is known. -/
theorem requestWith?_eq (haddress : endpoint? b.base call.endpoint = .ok address)
    (hhost : address.hasHost = true) (token : Option String) :
    b.requestWith? token call =
      if canBear token then .ok (b.requestTo address call token)
      else .error Cause.requestUnwritable.fault := by
  have hwritable : ((token.map bearerAuthorization).map Header.isWritable).getD true =
      canBear token := by
    rw [Option.map_map]
    rfl
  rw [requestWith?, haddress]
  simp only [bind, Except.bind, hhost, hwritable]
  cases canBear token <;> rfl

/-- A request that carries a call goes to the address of its endpoint. -/
theorem exists_address_of_requestWith? {token : Option String} {request : Request}
    (h : b.requestWith? token call = .ok request) :
    ∃ address, endpoint? b.base call.endpoint = .ok address ∧
      request = b.requestTo address call token := by
  cases haddress : endpoint? b.base call.endpoint with
  | error f =>
    rw [requestWith?, haddress] at h
    cases h
  | ok address =>
    refine ⟨address, rfl, ?_⟩
    cases hhost : address.hasHost with
    | false =>
      rw [requestWith?, haddress] at h
      simp only [bind, Except.bind, hhost] at h
      cases h
    | true =>
      rw [requestWith?_eq haddress hhost] at h
      split at h
      · exact (Except.ok.inj h).symm
      · cases h

/-- How a call ends, when the address of its endpoint is known. -/
theorem settle_ask (haddress : endpoint? b.base call.endpoint = .ok address)
    (hhost : address.hasHost = true) (service : Service) (storage : String)
    (token : Option String) (held : Bool) (sequel : Sequel) :
    (Errand.ask call sequel).settle b service storage token held =
      if canBear token then
        let e := Exchange.send service (b.requestTo address call token)
        let result := Exchange.settle e.reply
        ⟨sequel.mark result, sequel.outcome storage result, e.received⟩
      else ⟨none, sequel.outcome storage (.error Cause.requestUnwritable.fault), []⟩ := by
  rw [Errand.settle, exchange?, requestWith?_eq haddress hhost]
  cases canBear token with
  | true => rfl
  | false => simp only [Bool.false_eq_true, if_false, Except.map, Sequel.mark_error]

/-- Without an address of its endpoint, a call sends nothing. -/
theorem received_ask_of_error {f : Fault} (h : endpoint? b.base call.endpoint = .error f)
    (service : Service) (storage : String) (token : Option String) (held : Bool)
    (sequel : Sequel) :
    ((Errand.ask call sequel).settle b service storage token held).received = [] := by
  rw [Errand.settle, exchange?, requestWith?, h]
  rfl

/-- The request to an address without a user name bears the token alone. -/
theorem authorization_requestTo (huser : address.user? = none) (token : Option String) :
    (b.requestTo address call token).authorization = (token.map bearerAuthorization).toList := by
  rw [requestTo, huser]
  rfl

/-- The URL of the request is the address without a user, and the parameters. -/
theorem url_requestTo (b : Backend) (address : Url) (call : Call) (token : Option String) :
    (b.requestTo address call token).url =
      (if address.user?.isSome then address.withoutUser else address).addQuery call.query := by
  cases hpayload : call.payload <;> simp only [requestTo, hpayload, Payload.request]

/-- The parameters in the query of the request. -/
theorem parameters_requestTo (b : Backend) (address : Url) (call : Call) (token : Option String) :
    (b.requestTo address call token).url.parameters = address.parameters ++ call.query := by
  rw [url_requestTo, Url.parameters_addQuery]
  split <;> rfl

/-- A question holds its parameters. -/
theorem parameters_requestTo_get (b : Backend) (address : Url) (endpoint : String)
    (values : List (String × String)) (token : Option String) :
    (b.requestTo address (.get endpoint values) token).parameters address = values := by
  have hquery := b.parameters_requestTo address (.get endpoint values) token
  change List.drop _ (b.requestTo address (.get endpoint values) token).url.parameters = values
  rw [hquery]
  exact List.drop_left

/-- A form holds its parameters. -/
theorem parameters_requestTo_postForm (b : Backend) (address : Url) (endpoint : String)
    (values : List (String × String)) (token : Option String) :
    (b.requestTo address (.postForm endpoint values) token).parameters address = values :=
  FormData.decode_encode values

/-- The place that the request goes to is that of the address. -/
theorem place_requestTo (b : Backend) (address : Url) (call : Call) (token : Option String) :
    (b.requestTo address call token).url.path = address.path ∧
      (b.requestTo address call token).url.scheme = address.scheme ∧
      (b.requestTo address call token).url.authority.map (·.host) =
        address.authority.map (·.host) ∧
      (b.requestTo address call token).url.authority.bind (·.port) =
        address.authority.bind (·.port) := by
  rw [url_requestTo, Url.path_addQuery, Url.scheme_addQuery, Url.authority_addQuery]
  split
  · rw [Url.withoutUser, Option.map_map, Option.bind_map]
    exact ⟨rfl, rfl, rfl, rfl⟩
  · exact ⟨rfl, rfl, rfl, rfl⟩

end Backend

end StorageGateway
