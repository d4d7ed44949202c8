import StorageGateway.Proofs.Browser.Store
import StorageGateway.Proofs.Gateway.Subject

/-!
# Visits of a browser

A browser that only talks to the gateway adds its cookies to every request and takes note of the
`set-cookie` fields of every response. What a visit does to its store is the mark that the gateway
left on the cookie of one storage.

## Main definitions

* `Browser.Step`: a request and the replies that its call will get.
* `Browser.serve`, `Browser.visit`, `Browser.run`: one visit and a sequence of them.
* `Browser.Store.settle`: the store after a mark.

## Main results

* `Browser.serve_subject`, `Browser.visit_subject`: a visit about a storage.
* `Browser.visit_no_subject`: any other visit.
-/

namespace StorageGateway.Browser

open Cookie

/-- A request, whose cookies are left to the browser, and the replies that its call will get. -/
structure Step where
  request : Inbound
  service : Service
  deriving DecidableEq, Repr

namespace Store

/-- The request as it is sent: its cookies are those of the store. -/
def request (store : Store) (req : Inbound) : Inbound :=
  { req with headers := req.withoutCookies.headers ++ store.cookieField?.toList }

/-- The jar that the gateway finds in a request with these cookies. -/
def jar (store : Store) : Jar := { carried := Table.ofPairs store.pairs }

/-- The store after a mark on the cookie of a storage. -/
def settle (store : Store) (storage : String) (mark : Option Change) : Store :=
  (Session.marks storage mark).foldl (fun store c => store.change c.1 c.2) store

theorem withoutCookies_request (store : Store) (req : Inbound) :
    (store.request req).withoutCookies = req.withoutCookies := by
  have hfield : store.cookieField?.toList.filter (·.name != "cookie") = [] := by
    rw [List.filter_eq_nil_iff]
    intro h hh
    simp [name_cookieField? (Option.mem_toList.mp hh)]
  have hheaders : (store.request req).headers.filter (·.name != "cookie") =
      req.headers.filter (·.name != "cookie") := by
    rw [request, List.filter_append, hfield, List.append_nil, Inbound.withoutCookies,
      List.filter_filter]
    simp only [Bool.and_self]
  rw [Inbound.withoutCookies, hheaders]
  rfl

theorem jar_request (store : Store) (req : Inbound) : (store.request req).jar = store.jar := by
  have hown : Headers.all req.withoutCookies.headers "cookie" = [] := by
    simp [Headers.all, Inbound.withoutCookies, List.filter_filter]
  have hfield : Headers.all store.cookieField?.toList "cookie" =
      store.cookieField?.toList.map (·.value) := by
    rw [Headers.all, List.filter_eq_self.mpr]
    intro h hh
    simp [name_cookieField? (Option.mem_toList.mp hh)]
  have hpairs : Cookie.pairs (store.request req).headers = store.pairs := by
    rw [Cookie.pairs, request, Headers.all_append, hown, List.nil_append, hfield,
      List.flatMap_map, pairsOfField_cookieField?]
  rw [Inbound.jar, Jar.ofHeaders, hpairs]
  rfl

theorem settle_none (store : Store) (storage : String) : store.settle storage none = store := by
  rw [settle, Session.marks_none, List.foldl_nil]

theorem settle_some (store : Store) {storage : String} (h : storage ≠ "") (c : Change) :
    store.settle storage (some c) = store.change (Session.cookieName storage) c := by
  rw [settle, Session.marks_some (Session.cookieName?_of_ne h), List.foldl_cons, List.foldl_nil]

theorem settle_empty (store : Store) (mark : Option Change) : store.settle "" mark = store := rfl

/-- Taking note of a response whose lines are those of some changes. -/
theorem receive_eq {store : Store} {headers : Headers} {p : Policy} {changes : Table Change}
    (h : headers.all "set-cookie" = changes.map fun c => Bytes.ofAscii (line p c.1 c.2)) :
    store.receive headers = changes.foldl (fun store c => store.change c.1 c.2) store := by
  rw [receive, h, List.foldl_map]
  simp only [receiveLine_line]

end Store

variable (g : Gateway) (store : Store)

/-- The answer to a visit. -/
def serve (step : Step) : Response × List Request :=
  g.serve step.service (store.request step.request)

/-- The store after a visit. -/
def visit (step : Step) : Store := store.receive (serve g store step).1.headers

/-- The store after a sequence of visits. -/
def run (steps : List Step) : Store := steps.foldl (visit g) store

theorem subject?_request (req : Inbound) :
    Gateway.subject? (store.request req) = Gateway.subject? req := by
  rw [← Gateway.subject?_withoutCookies, Store.withoutCookies_request,
    Gateway.subject?_withoutCookies]

theorem plan?_request (req : Inbound) : g.plan? (store.request req) = g.plan? req := by
  rw [← g.plan?_withoutCookies, Store.withoutCookies_request, g.plan?_withoutCookies]

/-- A visit about a storage depends on the store in two points, and leaves a mark. -/
theorem exists_errand {req : Inbound} {action : Action} {storage : String}
    (h : Gateway.subject? req = some (action, storage)) :
    ∃ e : Errand, e.Suits storage action ∧ g.plan? req = some (e.plan storage) ∧
      ∀ service (store : Store),
        let s := e.settle g.backend service storage (Session.token? store.jar storage)
          (Session.isHeld store.jar storage)
        serve g store ⟨req, service⟩ = g.answer req.method storage s ∧
          visit g store ⟨req, service⟩ = store.settle storage s.mark := by
  obtain ⟨e, hsuits, hplan, hserve⟩ := g.serve_subject h
  refine ⟨e, hsuits, hplan, fun service store => ?_⟩
  have hanswer := hserve service (store.request req) (store.withoutCookies_request req)
  rw [store.jar_request] at hanswer
  refine ⟨hanswer, ?_⟩
  rw [visit, serve, hanswer, Store.settle]
  exact Store.receive_eq (Gateway.setCookies_respond _ _ _ (hsuits.isPlain_settle _ _ _ _))

/-- A visit about no storage leaves the store as it is. -/
theorem visit_no_subject {step : Step} (h : Gateway.subject? step.request = none) :
    visit g store step = store := by
  have hlines := (g.serve_no_subject (subject?_request store step.request ▸ h) step.service).2
  rw [visit, serve, Store.receive, hlines]
  rfl

end StorageGateway.Browser
