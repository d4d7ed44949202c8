import StorageGateway.Html

/-!
# The login and registration pages

Both pages hold one form and, next to its fields, the messages about what was wrong with the last
attempt. A message that is empty is not shown.

## Main definitions

* `Page.Entry`: the storage name and the messages of a form.
* `Page.login`, `Page.register`: the pages.
-/

namespace StorageGateway.Page

open Html

/-- The data of a login or registration form; an empty message stands for none. -/
structure Entry where
  storage : String := ""
  /-- The message about the attempt as a whole. -/
  common : String := ""
  /-- The message about the storage name. -/
  name : String := ""
  /-- The message about the password. -/
  password : String := ""
  deriving DecidableEq, Repr

/-- Whether any message is present. -/
def Entry.hasMessage (e : Entry) : Bool :=
  !(e.common.isEmpty && e.name.isEmpty && e.password.isEmpty)

/-- A message in a paragraph of its own; nothing for an empty one. -/
def note (message : String) : Page :=
  if message.isEmpty then []
  else [.markup "<p class=\"error\">", .text message, .markup "</p>"]

/-- The login page. -/
def login (e : Entry) : Page :=
  [.markup "<!DOCTYPE html>\n<html lang=\"en\">\n<head>\n  <meta charset=\"utf-8\">\n  ",
    .markup "<title>Login ",
    .text e.storage,
    .markup "</title>\n  <link rel=\"stylesheet\" href=\"/res/style.css\">\n</head>\n<body>\n  ",
    .markup "<main class=\"form\">\n    <h1>Sign in to ",
    .text e.storage,
    .markup "</h1>\n    "] ++
  note e.common ++ [.markup "\n    "] ++ note e.name ++
  [.markup "\n    <form method=\"post\">\n      <label for=\"password\">Password</label>\n      ",
    .markup "<input id=\"password\" type=\"password\" name=\"password\" autofocus>\n      "] ++
  note e.password ++
  [.markup "\n      <button type=\"submit\">Login</button>\n    </form>\n    ",
    .markup "<p><a href=\"/register/\">Create a new storage</a></p>\n  </main>\n</body>\n</html>"]

/-- The registration page. -/
def register (e : Entry) : Page :=
  [.markup "<!DOCTYPE html>\n<html lang=\"en\">\n<head>\n  <meta charset=\"utf-8\">\n  ",
    .markup "<title>Register storage</title>\n",
    .markup "  <link rel=\"stylesheet\" href=\"/res/style.css\">\n",
    .markup "</head>\n<body>\n  <main class=\"form\">\n    <h1>Register storage</h1>\n    "] ++
  note e.common ++
  [.markup "\n    <form method=\"post\">\n      <label for=\"name\">Storage name</label>\n      ",
    .markup "<input id=\"name\" type=\"text\" name=\"name\" value=\"",
    .text e.storage,
    .markup "\" autofocus>\n      "] ++
  note e.name ++
  [.markup "\n      <label for=\"password\">Password</label>\n      ",
    .markup "<input id=\"password\" type=\"password\" name=\"password\">\n      "] ++
  note e.password ++
  [.markup "\n      <button type=\"submit\">Register</button>\n    </form>\n  </main>\n</body>\n",
    .markup "</html>"]

end StorageGateway.Page
