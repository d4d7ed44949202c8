import StorageGateway.Html
import StorageGateway.Calendar
import StorageGateway.Text.Percent

/-!
# The directory page

The page lists the files of a storage, one row for each record in the order of the listing, with
a link to download the file and a form to remove it. Above the list stand the forms to upload
files and to share a text. All addresses on the page lie below the address of the storage.

## Main definitions

* `FileRecord`: one file of a listing.
* `Page.Directory`, `Page.directory`: the data of the page and the page.
* `Page.encodePath`: a name inside an address of the page.
-/

namespace StorageGateway

/-- One file of a listing: its name, its size in bytes and the second it was last changed. -/
structure FileRecord where
  name : String
  size : Int
  modTime : Int
  deriving DecidableEq, Repr

namespace Page

open Html

/-- The data of a directory page. -/
structure Directory where
  title : String
  storage : String
  /-- Whether the permanent area of the storage is shown. -/
  permanent : Bool
  /-- Whether a link to the permanent area is offered. -/
  linksPermanent : Bool
  files : List FileRecord
  deriving DecidableEq, Repr

/-- The bytes that an address on a page shows as they are: letters, digits and `-._/`. -/
def keptInAddress (b : UInt8) : Bool :=
  Ascii.isAlphanumeric b || b == 0x2D || b == 0x2E || b == 0x5F || b == 0x2F

/-- A name inside an address. -/
def encodePath (s : String) : String := Percent.encodeString keptInAddress s

/-- The address below which all addresses of the shown area lie. -/
def Directory.base (d : Directory) : String :=
  "/" ++ encodePath d.storage ++ (if d.permanent then "/permanent" else "")

/-- The row of one file. -/
def row (base : String) (f : FileRecord) : Page :=
  [.markup "\n      <tr>\n        <td><a href=\"", .text base, .markup "/",
    .text (encodePath f.name), .markup "/\">", .text f.name,
    .markup "</a></td>\n        <td>", .text (toString f.size),
    .markup "</td>\n        <td>", .text (showTime f.modTime),
    .markup "</td>\n        <td>\n          <form method=\"post\" action=\"", .text base,
    .markup "/remove/\">\n            <input type=\"hidden\" name=\"fileName\" value=\"",
    .text f.name,
    .markup "\">\n            <button type=\"submit\">Remove</button>\n          ",
    .markup "</form>\n        </td>\n      </tr>\n      "]

/-- The rows of all files, or one that says that there is none. -/
def rows (base : String) (files : List FileRecord) : Page :=
  if files.isEmpty then
    [.markup "\n      <tr><td colspan=\"4\">No files yet</td></tr>\n      "]
  else files.flatMap (row base)

/-- The part above the list. -/
def directoryHead (d : Directory) : Page :=
  [.markup "<!DOCTYPE html>\n<html lang=\"en\">\n<head>\n  <meta charset=\"utf-8\">\n  <title>",
    .text d.title,
    .markup "</title>\n  <link rel=\"stylesheet\" href=\"/res/style.css\">\n</head>\n<body>\n  ",
    .markup "<header>\n    <h1>",
    .text d.title, .markup ": ", .text d.storage,
    .markup ((if d.permanent then " (permanent)" else "") ++ "</h1>\n    ")] ++
  (if d.linksPermanent then
    [.markup "<a href=\"/", .text (encodePath d.storage),
      .markup "/permanent/\">Permanent storage</a>"]
  else []) ++
  [.markup "\n    <a href=\"/logout/", .text (encodePath d.storage),
    .markup "/\">Logout</a>\n  </header>\n\n  <section>\n    <form method=\"post\" action=\"",
    .text d.base,
    .markup "/upload/\" enctype=\"multipart/form-data\">\n      ",
    .markup "<input type=\"file\" name=\"files\" multiple>\n      ",
    .markup "<button type=\"submit\">Upload</button>\n    </form>\n    ",
    .markup "<form method=\"post\" action=\"",
    .text d.base,
    .markup "/shareText/\">\n      ",
    .markup "<input type=\"text\" name=\"title\" placeholder=\"Title\">\n      ",
    .markup "<textarea name=\"body\" placeholder=\"Text\"></textarea>\n      ",
    .markup "<button type=\"submit\">Share text</button>\n    </form>\n  </section>\n\n",
    .markup "  <table>\n    ",
    .markup "<thead>\n      <tr><th>Name</th><th>Size</th><th>Modified</th><th></th></tr>\n    ",
    .markup "</thead>\n    <tbody>\n      "]

/-- The directory page. -/
def directory (d : Directory) : Page :=
  directoryHead d ++ rows d.base d.files ++
  [.markup "\n    </tbody>\n  </table>\n</body>\n</html>"]

end Page

end StorageGateway
