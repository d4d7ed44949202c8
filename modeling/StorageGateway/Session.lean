import StorageGateway.Cookie.SetCookie
import StorageGateway.Text.FormData

/-!
# Sessions

For every storage that a browser has opened, the browser keeps the access token in a cookie of its
own, named after the storage. A request without a storage name has no session: nothing is read
and nothing is stored for the empty name. An empty token counts as none.

## Main definitions

* `Session.cookieName?`: the cookie of a storage.
* `Session.token?`, `Session.store`, `Session.clear`: the token of a storage in a jar.
-/

namespace StorageGateway.Session

open Cookie

/-- The cookie that holds the token of a storage; the empty name has none. -/
def cookieName? (storage : String) : Option String :=
  if storage.isEmpty then none else some ("fs_" ++ String.ofList (FormData.encodeText storage))

/-- The token of a storage. -/
def token? (jar : Jar) (storage : String) : Option String :=
  ((cookieName? storage).bind jar.value?).filter fun token => !token.isEmpty

/-- Stores the token of a storage. -/
def store (jar : Jar) (storage token : String) : Jar :=
  match cookieName? storage with
  | none => jar
  | some name => jar.store name token

/-- Forgets the token of a storage. -/
def clear (jar : Jar) (storage : String) : Jar :=
  match cookieName? storage with
  | none => jar
  | some name => jar.remove name

end StorageGateway.Session
