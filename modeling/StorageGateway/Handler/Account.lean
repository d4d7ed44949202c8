import StorageGateway.Handler.Plan
import StorageGateway.Http.Form
import StorageGateway.Page.Entry
import StorageGateway.Scope

/-!
# Login, registration and logout

Login and registration ask the storage service for a token, store it and lead to the storage. What
goes wrong is shown on the form, except when the form itself cannot be read. Logout forgets the
token and leads back to the login page.

## Main definitions

* `Account.loginPage`, `Account.login`, `Account.logout`.
* `Account.registerPage`, `Account.register`.
-/

namespace StorageGateway.Account

/-- The address of a storage. -/
def storageAddress (storage : String) : String := "/" ++ Percent.encodeComponent storage

/-- The address of the login page of a storage. -/
def loginAddress (storage : String) : String :=
  "/login/" ++ Percent.encodeComponent storage ++ "/"

/-- The body of a successful reply is the new token: it is stored, and the browser is led to the
storage. -/
def acceptToken (storage : String) (r : Reply) (jar : Cookie.Jar) :
    Cookie.Jar × Except Fault Response :=
  if r.isWhole then
    (Session.store jar storage (Utf8.toStringLossy r.body),
      Response.found? (storageAddress storage))
  else (jar, .error Cause.tokenUnreadable.fault)

/-- Goes on with the token of a success; for a fault the form is shown again with a message. -/
def acceptOrShow (storage : String) (form : Fault → Html.Page) : Continuation
  | .ok r, jar => acceptToken storage r jar
  | .error f, jar => (jar, .ok (.page (form f)))

/-- The login page. -/
def loginPage (s : Scope) : Plan := .page (Page.login { storage := s.storage })

/-- The message about a refused login. A wrong name and a wrong password are not told apart. -/
def loginMessage (f : Fault) : String :=
  match f.kind with
  | .notFound | .mismatch => "Invalid storage name or password"
  | _ => f.description

/-- The login form with what is missing in it. -/
def loginEntry (storage password : String) : Page.Entry :=
  { storage
    name := if storage.isEmpty then "Please specify storage name to login" else ""
    password := if password.isEmpty then "Please enter password to login" else "" }

/-- Asks for a token of an existing storage. -/
def login (s : Scope) (req : Inbound) : Plan :=
  match Form.read req.headers req.body.chunks ["password"] with
  | .error r => .refuse r.fault
  | .ok fields =>
    let password := fields.headD ""
    let entry := loginEntry s.storage password
    if entry.hasMessage then .page (Page.login entry)
    else
      .ask s.storage (.postForm "login" (s.values ++ [("password", password)])) <|
        acceptOrShow s.storage fun f => Page.login { entry with common := loginMessage f }

/-- The registration page. -/
def registerPage : Plan := .page (Page.register {})

/-- The message about a refused registration. -/
def registerMessage (f : Fault) : String :=
  match f.kind with
  | .alreadyExists => "storage with this name already exists"
  | _ => f.description

/-- Asks for a new storage and its token. -/
def register (req : Inbound) : Plan :=
  match Form.read req.headers req.body.chunks ["name", "password"] with
  | .error r => .refuse r.fault
  | .ok fields =>
    let name := fields.headD ""
    let password := (fields.drop 1).headD ""
    if name.isEmpty then
      .page (Page.register { name := "please specify storage name" })
    else
      .ask name (.postForm "register" [("storage", name), ("password", password)]) <|
        acceptOrShow name fun f => Page.register { storage := name, common := registerMessage f }

/-- Forgets the token of a storage. -/
def logout (s : Scope) : Plan :=
  .answer (fun jar => Session.clear jar s.storage) (Response.found? (loginAddress s.storage))

end StorageGateway.Account
