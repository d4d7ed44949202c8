import StorageGateway.Route.Pattern

/-!
# The scope of a request

A request is about one storage, in its private or permanent area or through a public page, and
possibly about one file. The names come from the path, the flags from the route. Together they are
the parameters by which the storage service is told what a call is about.

## Main definitions

* `Scope.Flags`: what a route says about its requests.
* `Scope`, `Scope.values`: a scope and the parameters it stands for.
* `Scope.ofCaptures`: the scope of a path.
-/

namespace StorageGateway

/-- What a route says about its requests. -/
structure Scope.Flags where
  isPublic : Bool := false
  isPermanent : Bool := false
  deriving DecidableEq, Repr

namespace Scope.Flags

/-- The flags of the private area. -/
def ofPrivate : Flags := {}

/-- The flags of the pages that need no session. -/
def ofPublic : Flags := { isPublic := true }

/-- The flags of the permanent area. -/
def ofPermanent : Flags := { isPermanent := true }

end Scope.Flags

/-- What a request is about. -/
structure Scope where
  storage : String := ""
  isPublic : Bool := false
  isPermanent : Bool := false
  file : Option String := none
  deriving DecidableEq, Repr

namespace Scope

/-- The name of the file, empty when there is none. -/
def fileName (s : Scope) : String := s.file.getD ""

/-- The parameters that tell the storage service the scope of a call. -/
def values (s : Scope) : List (String × String) :=
  [("storage", s.storage)] ++ (if s.isPublic then [("public", "true")] else []) ++
    (if s.isPermanent then [("permanent", "true")] else []) ++ [("file", s.fileName)]

/-- The scope of one file. -/
def withFile (s : Scope) (name : String) : Scope := { s with file := some name }

/-- The captured text of that name; the last one counts. -/
def captured? (texts : List (String × String)) (name : String) : Option String :=
  (texts.reverse.find? (·.1 == name)).map (·.2)

/-- The scope of a path. An empty file name counts as none, and without a storage name there is no
permanent area. -/
def ofTexts (flags : Flags) (texts : List (String × String)) : Scope :=
  let storage := (captured? texts "storage").getD ""
  { storage
    isPublic := flags.isPublic
    isPermanent := !storage.isEmpty && flags.isPermanent
    file := captured? (texts.filter fun t => !t.2.isEmpty) "file" }

/-- The scope of a path with these captures. -/
def ofCaptures (flags : Flags) (captures : Route.Captures) : Except Fault Scope :=
  match captures.texts? with
  | .error name => .error (Cause.captureNotText name).fault
  | .ok texts => .ok (ofTexts flags texts)

end Scope

end StorageGateway
