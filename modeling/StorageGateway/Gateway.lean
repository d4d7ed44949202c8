import StorageGateway.Handler.Account
import StorageGateway.Handler.Files
import StorageGateway.Resource
import StorageGateway.Route.Table
import StorageGateway.Route.Target

/-!
# The gateway

A request is led by its path to a route, by its method to an action, and the action's plan is
carried out. The changes of the cookies are sent along with every answer, also with the report of
a fault, and every answer carries the headers that protect the pages.

## Main definitions

* `Gateway`: what the answers depend on besides the request.
* `Gateway.serve`: the answer to a request, and what the storage service received.
* `Gateway.servePlain`: the same for the addresses without names.
-/

namespace StorageGateway

/-- What the answers depend on besides the request. -/
structure Gateway where
  backend : Backend
  cookies : Cookie.Policy
  /-- The largest size of an upload; zero allows any. -/
  uploadLimit : Nat
  deriving DecidableEq, Repr

/-- The storage that visitors are led to. -/
def commonStorage : String := "common"

namespace Gateway

/-- The way to the common storage. -/
def home : Response :=
  ⟨301, [.ofText "location" ("/" ++ commonStorage ++ "/")], .sized []⟩

/-- The answer when the address of a resource is not UTF-8. -/
def badResourceAddress (name : String) : Response :=
  .ofText 400 "text/plain; charset=utf-8" ("Invalid URL: Invalid UTF-8 in \x60" ++ name ++ "\x60")

/-- The resource that a path names. -/
def resource (captures : Route.Captures) : Except Fault Response :=
  match captures.texts? with
  | .error name => .ok (badResourceAddress name)
  | .ok texts => Resource.find? ((Scope.captured? texts "path").getD "")

/-- The plan of an action about the storage of a scope. -/
def storagePlan (g : Gateway) (s : Scope) (req : Inbound) : StorageAction → Plan
  | .loginPage => Account.loginPage s
  | .login => Account.login s req
  | .logout => Account.logout s
  | .index => Files.index s
  | .view => Files.view s
  | .download => Files.download s
  | .downloadNamed name => Files.download (s.withFile name)
  | .upload => Files.upload g.uploadLimit s req
  | .remove => Files.remove s req
  | .shareText => Files.shareText s req

/-- The plan of an action. -/
def plan (g : Gateway) (flags : Scope.Flags) (captures : Route.Captures) (req : Inbound) :
    Action → Plan
  | .home => .reply (.ok home)
  | .icon => .reply (.ok (.empty 404))
  | .resource => .reply (resource captures)
  | .registerPage => Account.registerPage
  | .register => Account.register req
  | .within action =>
    match Scope.ofCaptures flags captures with
    | .error f => .refuse f
    | .ok s => storagePlan g s req action

/-- The answer when a route does not serve the method. -/
def methodNotAllowed (r : Route) : Response :=
  ⟨405, [.ofText "allow" r.allowed], .sized []⟩

/-- The answer of a route. -/
def serveRoute (g : Gateway) (service : Service) (req : Inbound) (r : Route)
    (captures : Route.Captures) : Response × List Request :=
  match r.action? req.method with
  | none => ((methodNotAllowed r).finish (req.method = "HEAD"), [])
  | some action =>
    let served := (plan g r.flags captures req action).run g.backend service
      (Cookie.Jar.ofHeaders req.headers)
    let response := (Response.ofOutcome served.outcome).addHeaders
      (Cookie.Jar.setCookies g.cookies served.jar)
    (response.finish (req.method = "HEAD"), served.received)

/-- The route of a request. -/
def route? (table : List Route) (req : Inbound) : Option (Route × Route.Captures) :=
  Route.select? Route.pattern table (Route.pathOf req.target)

/-- The answer to a request, and the requests that the storage service received. -/
def serve (g : Gateway) (service : Service) (req : Inbound) : Response × List Request :=
  let (response, received) :=
    match route? Route.table req with
    | some (r, captures) => g.serveRoute service req r captures
    | none => ((Response.ofFault Cause.pageNotFound.fault).finish (req.method = "HEAD"), [])
  (response.harden, received)

/-- The answer to a request at an address without names. No headers are added, and an unknown
address gets nothing but its status. -/
def servePlain (g : Gateway) (service : Service) (req : Inbound) : Response × List Request :=
  match route? Route.plainTable req with
  | some (r, captures) => g.serveRoute service req r captures
  | none => (.empty 404, [])

end Gateway

end StorageGateway
