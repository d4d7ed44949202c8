import StorageGateway.Cookie.Header

/-!
# The cookie jar of a request

A jar holds the cookies that the request carried and, apart from them, the changes made while the
request is served. A later cookie of the same name replaces an earlier one. Removing a cookie that
the request did not carry takes back the change of that name, because the browser has nothing to
remove; removing one that it did carry is itself a change.

## Main definitions

* `Cookie.Change`, `Cookie.Jar`.
* `Jar.value?`, `Jar.store`, `Jar.remove`: reading and changing.
* `Jar.visible`: the cookies as they stand after the changes.
-/

namespace StorageGateway.Cookie

/-- A list of values by name, each name at most once. -/
abbrev Table (α : Type) := List (String × α)

namespace Table

variable {α : Type}

/-- The value of a name. -/
def get? (t : Table α) (name : String) : Option α := (t.find? (·.1 == name)).map (·.2)

/-- The table without a name. -/
def drop (t : Table α) (name : String) : Table α := t.filter (·.1 != name)

/-- The table with the value of one name set. -/
def put (t : Table α) (name : String) (value : α) : Table α := drop t name ++ [(name, value)]

end Table

/-- What is done to a cookie. -/
inductive Change where
  /-- The cookie gets a value. -/
  | store (value : String)
  /-- The cookie is removed from the browser. -/
  | expire
  deriving DecidableEq, Repr

/-- The cookies of a request and the changes made since. -/
structure Jar where
  carried : Table String := []
  changes : Table Change := []
  deriving DecidableEq, Repr

namespace Jar

/-- The jar at the start of a request. -/
def ofHeaders (hs : Headers) : Jar :=
  { carried := (pairs hs).foldl (fun t p => Table.put t p.1 p.2) [] }

/-- The value of a cookie after the changes. -/
def value? (jar : Jar) (name : String) : Option String :=
  match Table.get? jar.changes name with
  | some (.store value) => some value
  | some .expire => none
  | none => Table.get? jar.carried name

/-- Gives a cookie a value. -/
def store (jar : Jar) (name value : String) : Jar :=
  { jar with changes := Table.put jar.changes name (.store value) }

/-- Removes a cookie. -/
def remove (jar : Jar) (name : String) : Jar :=
  if (Table.get? jar.carried name).isSome then
    { jar with changes := Table.put jar.changes name .expire }
  else { jar with changes := Table.drop jar.changes name }

/-- All cookies after the changes. -/
def visible (jar : Jar) : Table String :=
  jar.carried.filter (fun p => (Table.get? jar.changes p.1).isNone) ++
    jar.changes.filterMap fun p =>
      match p.2 with
      | .store value => some (p.1, value)
      | .expire => none

end Jar

end StorageGateway.Cookie
