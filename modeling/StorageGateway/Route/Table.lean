import StorageGateway.Route.Pattern
import StorageGateway.Scope

/-!
# The routes

A route has a pattern, the flags of its requests and an action for each method that it serves. The
words that order something, such as `upload`, may also be names of files, so that asking for such
an address downloads the file of that name.

## Main definitions

* `Action`, `StorageAction`, `Route`.
* `Route.table`: the routes of the gateway.
* `Route.plainTable`: the same actions under addresses without names.
-/

namespace StorageGateway

/-- What is done for a request about a storage. -/
inductive StorageAction where
  | loginPage
  | login
  | logout
  | index
  | view
  | download
  /-- Downloads the file of a fixed name. -/
  | downloadNamed (name : String)
  | upload
  | remove
  | shareText
  deriving DecidableEq, Repr

/-- What is done for a request. -/
inductive Action where
  | home
  | resource
  | icon
  | registerPage
  | register
  /-- Something about the storage that the path names. -/
  | within (action : StorageAction)
  deriving DecidableEq, Repr

/-- A route; each method is served or not. -/
structure Route where
  pattern : Route.Pattern
  flags : Scope.Flags := .ofPrivate
  get : Option Action := none
  post : Option Action := none
  deriving DecidableEq, Repr

namespace Route

/-- The action of a method; a request for the headers alone is served like one for everything. -/
def action? (r : Route) (method : String) : Option Action :=
  if method = "GET" ∨ method = "HEAD" then r.get
  else if method = "POST" then r.post
  else none

/-- The methods that are served. -/
def allowed (r : Route) : String :=
  ",".intercalate ((if r.get.isSome then ["GET", "HEAD"] else []) ++
    if r.post.isSome then ["POST"] else [])

/-- The segment that names a storage. -/
def storage : Segment := .capture "storage"

/-- The segment that names a file. -/
def file : Segment := .capture "file"

/-- The end of an address that ends in a slash. -/
def slash : Segment := .literal ""

/-- The segment of the permanent area. -/
def permanent : Segment := .literal "permanent"

/-- A route whose actions are about the storage that its path names. -/
def about (pattern : Pattern) (flags : Scope.Flags) (get : Option StorageAction)
    (post : Option StorageAction := none) : Route :=
  { pattern, flags, get := get.map .within, post := post.map .within }

/-- An address below a storage whose last word is an order, or else the name of a file. -/
def order (area : Pattern) (flags : Scope.Flags) (word : String) (action : StorageAction) :
    Route :=
  about (storage :: area ++ [.literal word, slash]) flags (some (.downloadNamed word)) (some action)

/-- The addresses of one area of a storage. -/
def areaRoutes (area : Pattern) (flags : Scope.Flags) : List Route :=
  [ about (storage :: area ++ [.literal "index.html"]) flags (some .index),
    about (storage :: area ++ [file, slash]) flags (some .download),
    about (storage :: area ++ [slash]) flags (some .view),
    order area flags "upload" .upload,
    order area flags "remove" .remove,
    order area flags "shareText" .shareText ]

/-- The routes of the gateway. -/
def table : List Route :=
  [ { pattern := [slash], get := some .home },
    { pattern := [.literal "res", .rest "path"], get := some .resource },
    { pattern := [.literal "favicon.ico"], get := some .icon },
    { pattern := [.literal "register", slash], flags := .ofPublic
      get := some .registerPage, post := some .register },
    about [.literal "login", storage, slash] .ofPublic (some .loginPage) (some .login),
    about [.literal "logout", storage, slash] .ofPublic (some .logout),
    about [storage] .ofPrivate (some .view) ] ++
  areaRoutes [] .ofPrivate ++ areaRoutes [permanent] .ofPermanent

/-- An address of literal segments. -/
def plain (words : List String) : Pattern := words.map .literal

/-- The same actions under addresses without names. -/
def plainTable : List Route :=
  [ about (plain ["login"]) .ofPublic (some .loginPage) (some .login),
    about (plain ["logout"]) .ofPublic (some .logout),
    about (plain ["view"]) .ofPrivate (some .view),
    about (plain ["permanent", "view"]) .ofPermanent (some .view),
    about (plain ["public", "view"]) .ofPublic (some .view),
    about (plain ["file"]) .ofPrivate (some .download),
    about (plain ["permanent", "file"]) .ofPermanent (some .download),
    about (plain ["index.html"]) .ofPrivate (some .index),
    about (plain ["upload"]) .ofPrivate none (some .upload),
    about (plain ["remove"]) .ofPrivate none (some .remove),
    about (plain ["shareText"]) .ofPrivate none (some .shareText) ]

end Route

end StorageGateway
