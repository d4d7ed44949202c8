import StorageGateway.Cookie.SetCookie

/-!
# The browser's cookie store

Between two requests the browser keeps names and values as it received them, still encoded. A
`set-cookie` line with an empty value removes the name, any other sets it. The next request
carries all of them in one field, sorted by name.

## Main definitions

* `Browser.Store`, `Browser.Store.receive`, `Browser.Store.cookieField?`.
-/

namespace StorageGateway.Browser

open Cookie

/-- The cookies of a browser by encoded name. -/
abbrev Store := Table String

namespace Store

/-- Takes note of one `set-cookie` line. -/
def receiveLine (store : Store) (line : String) : Store :=
  let pair := line.toList.takeWhile (· ≠ ';')
  let name := String.ofList (pair.takeWhile (· ≠ '='))
  let value := String.ofList ((pair.dropWhile (· ≠ '=')).drop 1)
  if value.isEmpty then Table.drop store name else Table.put store name value

/-- Takes note of all `set-cookie` fields of a response. -/
def receive (store : Store) (headers : Headers) : Store :=
  (headers.all "set-cookie").foldl (fun s value => receiveLine s (Bytes.toAscii value)) store

/-- The cookies in the order of their names. -/
def sorted (store : Store) : Table String := store.mergeSort fun p q => p.1 ≤ q.1

/-- The field that the next request carries; none while the store is empty. -/
def cookieField? (store : Store) : Option Header :=
  if store.isEmpty then none
  else
    some (.ofText "cookie" ("; ".intercalate (store.sorted.map fun p => p.1 ++ "=" ++ p.2)))

end Store

end StorageGateway.Browser
