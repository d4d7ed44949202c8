import StorageGateway.Page.Directory
import StorageGateway.Page.Entry
import StorageGateway.Proofs.Html.Reading

/-!
# What the pages show

A reader who resolves the references of a page finds the titles, names, messages and addresses
that the page was made from, each at its place and as it was: a record's name stands in the text
of its link and in the hidden field of its form, and the rows follow the listing. No name can
open a tag or leave an attribute: the brackets and quotes of a page are the same for all pages
with the same flags, as many records, and messages about the same fields.

## Main definitions

* `Page.isShown`: the places of a page that hold names, messages and addresses.
* `Page.Directory.contents`, `Page.Entry.loginContents`, `Page.Entry.registerContents`: what the
  pages show there.
* `Page.Directory.SameShape`, `Page.Entry.SameNotes`: data for pages with the same marks.

## Main results

* `Page.shown_directory`, `Page.shown_login`, `Page.shown_register`: what a reader finds.
* `Page.names_keep_markup`: every text is read as it was, and the marks do not depend on it.
-/

namespace StorageGateway.Page

open Html

/-- The places that hold names, messages, addresses and the names of fields. -/
def isShown : Label → Bool
  | .tag name => ["title", "h1", "a", "td", "p"].contains name
  | .attr name => ["href", "method", "action", "name", "value"].contains name

/-! ### The directory page -/

/-- What the row of a file shows: the link to the file, its data, and the form to remove it. -/
def rowContents (base : String) (f : FileRecord) : List Item :=
  [(.tag "td", ""), (.attr "href", base ++ "/" ++ encodePath f.name ++ "/"),
    (.tag "a", f.name), (.tag "td", toString f.size), (.tag "td", showTime f.modTime),
    (.tag "td", "\n          "), (.attr "method", "post"),
    (.attr "action", base ++ "/remove/"), (.attr "name", "fileName"),
    (.attr "value", f.name)]

namespace Directory

/-- The title of a page, which names the storage and the area. -/
def titleContents (d : Directory) : List Item :=
  [(.tag "title", d.title), (.attr "href", "/res/style.css"),
    (.tag "h1", d.title ++ ": " ++ d.storage ++ if d.permanent then " (permanent)" else "")]

/-- The link to the permanent area. -/
def permanentContents (d : Directory) : List Item :=
  if d.linksPermanent then
    [(.attr "href", "/" ++ encodePath d.storage ++ "/permanent/"),
      (.tag "a", "Permanent storage")]
  else []

/-- The link to log out, and the forms to upload files and to share a text. -/
def formContents (d : Directory) : List Item :=
  [(.attr "href", "/logout/" ++ encodePath d.storage ++ "/"), (.tag "a", "Logout"),
    (.attr "method", "post"), (.attr "action", d.base ++ "/upload/"),
    (.attr "name", "files"), (.attr "method", "post"),
    (.attr "action", d.base ++ "/shareText/"), (.attr "name", "title"),
    (.attr "name", "body")]

/-- The rows of the files in the order of the listing, or that there is none. -/
def rowsContents (d : Directory) : List Item :=
  if d.files.isEmpty then [(.tag "td", "No files yet")] else d.files.flatMap (rowContents d.base)

/-- What a directory page shows. -/
def contents (d : Directory) : List Item :=
  d.titleContents ++ d.permanentContents ++ d.formContents ++ d.rowsContents

/-- Data for directory pages with the same flags and as many records. -/
structure SameShape (d d' : Directory) : Prop where
  permanent : d.permanent = d'.permanent
  linksPermanent : d.linksPermanent = d'.linksPermanent
  files : d.files.length = d'.files.length

end Directory

/-! ### The forms -/

/-- What a message shows; nothing for an empty one. -/
def noteContents (message : String) : List Item :=
  if message.isEmpty then [] else [(.tag "p", message)]

namespace Entry

/-- What the login page shows. -/
def loginContents (e : Entry) : List Item :=
  [(Label.tag "title", "Login " ++ e.storage), (.attr "href", "/res/style.css"),
    (.tag "h1", "Sign in to " ++ e.storage)] ++
  noteContents e.common ++ noteContents e.name ++
  [(Label.attr "method", "post"), (.attr "name", "password")] ++ noteContents e.password ++
  [(Label.tag "p", ""), (.attr "href", "/register/"), (.tag "a", "Create a new storage")]

/-- What the registration page shows. -/
def registerContents (e : Entry) : List Item :=
  [(Label.tag "title", "Register storage"), (.attr "href", "/res/style.css"),
    (.tag "h1", "Register storage")] ++
  noteContents e.common ++
  [(Label.attr "method", "post"), (.attr "name", "name"), (.attr "value", e.storage)] ++
  noteContents e.name ++ [(Label.attr "name", "password")] ++ noteContents e.password

/-- Data for forms with messages about the same fields. -/
structure SameNotes (e e' : Entry) : Prop where
  common : e.common = "" ↔ e'.common = ""
  name : e.name = "" ↔ e'.name = ""
  password : e.password = "" ↔ e'.password = ""

end Entry

/-! ### What a reader finds -/

set_option maxRecDepth 8000 in
theorem yields_row (base : String) (f : FileRecord) :
    Yields isShown (row base f) (rowContents base f) := by
  have hcontents : rowContents base f =
      [(.tag "td", textOf []),
        (.attr "href",
          textOf [base.toList, "/".toList, (encodePath f.name).toList, "/".toList]),
        (.tag "a", textOf [f.name.toList]), (.tag "td", textOf [(toString f.size).toList]),
        (.tag "td", textOf [(showTime f.modTime).toList]),
        (.tag "td", textOf ["\n          ".toList]), (.attr "method", textOf ["post".toList]),
        (.attr "action", textOf [base.toList, "/remove/".toList]),
        (.attr "name", textOf ["fileName".toList]),
        (.attr "value", textOf [f.name.toList])] := by
    simp only [rowContents, textOf_nil, textOf_cons, String.append_empty, String.append_assoc]
  rw [hcontents]
  refine Yields.of_start rfl ?_
  simp only [row, isClear, Fragment.isClear, List.all_cons, symbols, Fragment.symbols,
    List.flatMap_cons]
  repeat rw [String.toList_ofList]
  exact ⟨rfl, rfl, rfl⟩

set_option maxRecDepth 8000 in
theorem yields_head (d : Directory) :
    Yields isShown (directoryHead d)
      (d.titleContents ++ d.permanentContents ++ d.formContents) := by
  rw [directoryHead]
  refine .append (.append ?title ?link) ?forms
  case title =>
    have htitle : d.titleContents =
        [(.tag "title", textOf [d.title.toList]),
          (.attr "href", textOf ["/res/style.css".toList]),
          (.tag "h1", textOf [d.title.toList, ": ".toList, d.storage.toList,
            (if d.permanent then " (permanent)" else "").toList])] := by
      simp only [Directory.titleContents, textOf_nil, textOf_cons, String.append_empty,
        String.append_assoc]
    rw [htitle]
    refine Yields.of_start rfl ?_
    simp only [isClear, Fragment.isClear, List.all_cons, symbols, Fragment.symbols,
      List.flatMap_cons, String.toList_append]
    cases d.permanent
    all_goals
      simp only [↓reduceIte, Bool.false_eq_true]
      repeat rw [String.toList_ofList]
      exact ⟨rfl, rfl, rfl⟩
  case link =>
    rw [Directory.permanentContents]
    split
    · have hlink : "/" ++ encodePath d.storage ++ "/permanent/" =
          textOf ["/".toList, (encodePath d.storage).toList, "/permanent/".toList] := by
        simp only [textOf_nil, textOf_cons, String.append_empty, String.append_assoc]
      rw [hlink]
      refine Yields.of_start rfl ?_
      simp only [isClear, Fragment.isClear, List.all_cons, symbols, Fragment.symbols,
        List.flatMap_cons]
      repeat rw [String.toList_ofList]
      exact ⟨rfl, rfl, rfl⟩
    · exact Yields.nil
  case forms =>
    have hforms : d.formContents =
        [(.attr "href",
            textOf ["/logout/".toList, (encodePath d.storage).toList, "/".toList]),
          (.tag "a", textOf ["Logout".toList]), (.attr "method", textOf ["post".toList]),
          (.attr "action", textOf [d.base.toList, "/upload/".toList]),
          (.attr "name", textOf ["files".toList]),
          (.attr "method", textOf ["post".toList]),
          (.attr "action", textOf [d.base.toList, "/shareText/".toList]),
          (.attr "name", textOf ["title".toList]),
          (.attr "name", textOf ["body".toList])] := by
      simp only [Directory.formContents, textOf_nil, textOf_cons, String.append_empty,
        String.append_assoc]
    rw [hforms]
    refine Yields.of_start rfl ?_
    simp only [isClear, Fragment.isClear, List.all_cons, symbols, Fragment.symbols,
      List.flatMap_cons]
    repeat rw [String.toList_ofList]
    exact ⟨rfl, rfl, rfl⟩

set_option maxRecDepth 8000 in
theorem yields_rows (d : Directory) : Yields isShown (rows d.base d.files) d.rowsContents := by
  rw [rows, Directory.rowsContents]
  split
  · have hnone : "No files yet" = textOf ["No files yet".toList] := by
      rw [textOf_cons, textOf_nil, String.append_empty]
    rw [hnone]
    refine Yields.of_start rfl ?_
    simp only [isClear, Fragment.isClear, List.all_cons, symbols, Fragment.symbols,
      List.flatMap_cons]
    repeat rw [String.toList_ofList]
    exact ⟨rfl, rfl, rfl⟩
  · exact Yields.flatMap (yields_row d.base) d.files

theorem yields_directory (d : Directory) : Yields isShown (directory d) d.contents := by
  have htail : Yields isShown [.markup "\n    </tbody>\n  </table>\n</body>\n</html>"] [] := by
    refine Yields.of_start rfl ?_
    simp only [isClear, Fragment.isClear, List.all_cons, symbols, Fragment.symbols,
      List.flatMap_cons]
    repeat rw [String.toList_ofList]
    exact ⟨rfl, rfl, rfl⟩
  have hall := ((yields_head d).append (yields_rows d)).append htail
  rwa [List.append_nil] at hall

/-- What a reader finds on a directory page. -/
theorem shown_directory (d : Directory) :
    shown isShown (items (render (directory d))) = d.contents := by
  exact (yields_directory d).shown_items rfl

theorem yields_note (message : String) : Yields isShown (note message) (noteContents message) := by
  rw [note, noteContents]
  split
  · exact Yields.nil
  · have hnote : [(Label.tag "p", message)] = [(.tag "p", textOf [message.toList])] := by
      rw [textOf_cons, textOf_nil, String.append_empty]
    rw [hnote]
    refine Yields.of_start rfl ?_
    simp only [isClear, Fragment.isClear, List.all_cons, symbols, Fragment.symbols,
      List.flatMap_cons]
    repeat rw [String.toList_ofList]
    exact ⟨rfl, rfl, rfl⟩

set_option maxRecDepth 8000 in
theorem yields_login (e : Entry) : Yields isShown (login e) e.loginContents := by
  have hcontents : e.loginContents =
      [(Label.tag "title", textOf ["Login ".toList, e.storage.toList]),
        (.attr "href", textOf ["/res/style.css".toList]),
        (.tag "h1", textOf ["Sign in to ".toList, e.storage.toList])] ++
      noteContents e.common ++ [] ++ noteContents e.name ++
      [(Label.attr "method", textOf ["post".toList]),
        (.attr "name", textOf ["password".toList])] ++
      noteContents e.password ++
      [(Label.tag "p", textOf []), (.attr "href", textOf ["/register/".toList]),
        (.tag "a", textOf ["Create a new storage".toList])] := by
    simp only [Entry.loginContents, textOf_nil, textOf_cons, String.append_empty, List.append_nil]
  rw [login, hcontents]
  refine .append (.append (.append (.append (.append (.append ?top ?common) ?gap) ?name) ?field)
    ?password) ?bottom
  case common => exact yields_note e.common
  case name => exact yields_note e.name
  case password => exact yields_note e.password
  all_goals
    refine Yields.of_start rfl ?_
    simp only [isClear, Fragment.isClear, List.all_cons, symbols, Fragment.symbols,
      List.flatMap_cons]
    repeat rw [String.toList_ofList]
    exact ⟨rfl, rfl, rfl⟩

set_option maxRecDepth 8000 in
theorem yields_register (e : Entry) : Yields isShown (register e) e.registerContents := by
  have hcontents : e.registerContents =
      [(Label.tag "title", textOf ["Register storage".toList]),
        (.attr "href", textOf ["/res/style.css".toList]),
        (.tag "h1", textOf ["Register storage".toList])] ++
      noteContents e.common ++
      [(Label.attr "method", textOf ["post".toList]), (.attr "name", textOf ["name".toList]),
        (.attr "value", textOf [e.storage.toList])] ++
      noteContents e.name ++ [(Label.attr "name", textOf ["password".toList])] ++
      noteContents e.password ++ [] := by
    simp only [Entry.registerContents, textOf_nil, textOf_cons, String.append_empty,
      List.append_nil]
  rw [register, hcontents]
  refine .append (.append (.append (.append (.append (.append ?top ?common) ?first) ?name) ?second)
    ?password) ?bottom
  case common => exact yields_note e.common
  case name => exact yields_note e.name
  case password => exact yields_note e.password
  all_goals
    refine Yields.of_start rfl ?_
    simp only [isClear, Fragment.isClear, List.all_cons, symbols, Fragment.symbols,
      List.flatMap_cons]
    repeat rw [String.toList_ofList]
    exact ⟨rfl, rfl, rfl⟩

/-- What a reader finds on a login page. -/
theorem shown_login (e : Entry) : shown isShown (items (render (login e))) = e.loginContents :=
  (yields_login e).shown_items rfl

/-- What a reader finds on a registration page. -/
theorem shown_register (e : Entry) :
    shown isShown (items (render (register e))) = e.registerContents :=
  (yields_register e).shown_items rfl

/-! ### The marks -/

theorem markups_append (page page' : Page) :
    markups (page ++ page') = markups page ++ markups page' :=
  List.filterMap_append

theorem markups_flatMap {α : Type} {part part' : α → Page}
    (h : ∀ a b, markups (part a) = markups (part' b)) {l l' : List α}
    (hlength : l.length = l'.length) : markups (l.flatMap part) = markups (l'.flatMap part') := by
  induction l generalizing l' with
  | nil =>
    rw [List.length_eq_zero_iff.mp hlength.symm]
    rfl
  | cons a l ih =>
    rcases l' with - | ⟨b, l'⟩
    · cases hlength
    · rw [List.flatMap_cons, List.flatMap_cons, markups_append, markups_append, h a b,
        ih (Nat.succ.inj hlength)]

theorem markups_rows {files files' : List FileRecord} (h : files.length = files'.length)
    (base base' : String) : markups (rows base files) = markups (rows base' files') := by
  have hempty : files.isEmpty = files'.isEmpty := by
    rw [Bool.eq_iff_iff, List.isEmpty_iff_length_eq_zero, List.isEmpty_iff_length_eq_zero, h]
  rw [rows, rows, hempty]
  split
  · rfl
  · have hrow (f f' : FileRecord) : markups (row base f) = markups (row base' f') := rfl
    exact markups_flatMap hrow h

theorem markups_directory {d d' : Directory} (h : d.SameShape d') :
    markups (directory d) = markups (directory d') := by
  obtain ⟨hpermanent, hlinks, hfiles⟩ := h
  have hhead : markups (directoryHead d) = markups (directoryHead d') := by
    simp only [directoryHead, markups_append, hpermanent, hlinks]
    simp only [markups, List.filterMap_cons]
    cases d'.linksPermanent <;> rfl
  simp only [directory, markups_append, hhead, markups_rows hfiles d.base d'.base]

theorem markups_note {message message' : String} (h : message = "" ↔ message' = "") :
    markups (note message) = markups (note message') := by
  have hempty : message.isEmpty = message'.isEmpty := by
    rw [Bool.eq_iff_iff, String.isEmpty_iff, String.isEmpty_iff, h]
  rw [note, note, hempty]
  split <;> rfl

theorem markups_login {e e' : Entry} (h : e.SameNotes e') :
    markups (login e) = markups (login e') := by
  simp only [login, markups_append, markups_note h.common, markups_note h.name,
    markups_note h.password]
  rfl

theorem markups_register {e e' : Entry} (h : e.SameNotes e') :
    markups (register e) = markups (register e') := by
  simp only [register, markups_append, markups_note h.common, markups_note h.name,
    markups_note h.password]
  rfl

/-! ### Pages and the names on them -/

/-- Whatever the titles, names, records and messages are, they are read as they were, each at its
place, and the brackets and quotes of a page do not depend on them. -/
theorem names_keep_markup :
    (∀ s, unescape (escape s) = s) ∧
    (∀ d, shown isShown (items (render (directory d))) = d.contents) ∧
    (∀ e, shown isShown (items (render (login e))) = e.loginContents) ∧
    (∀ e, shown isShown (items (render (register e))) = e.registerContents) ∧
    (∀ d d', d.SameShape d' → marks (render (directory d)) = marks (render (directory d'))) ∧
    (∀ e e', e.SameNotes e' → marks (render (login e)) = marks (render (login e'))) ∧
    (∀ e e', e.SameNotes e' → marks (render (register e)) = marks (render (register e'))) := by
  refine ⟨unescape_escape, shown_directory, shown_login, shown_register, fun d d' h => ?_,
    fun e e' h => ?_, fun e e' h => ?_⟩
  · rw [marks_render, marks_render, markups_directory h]
  · rw [marks_render, marks_render, markups_login h]
  · rw [marks_render, marks_render, markups_register h]

/-- Names that look like markup, next to plain ones. -/
theorem names_keep_markup_script :
    let d : Directory := ⟨"Files", "\"><script>", false, true, [⟨"a' onclick='b", 3, 0⟩]⟩
    let d' : Directory := ⟨"Files", "a", false, true, [⟨"b", 3, 0⟩]⟩
    let e : Entry := ⟨"<h1>", "not \"found\"", "", ""⟩
    let e' : Entry := ⟨"a", "x", "", ""⟩
    shown isShown (items (render (directory d))) = d.contents ∧
      (d.SameShape d' ∧ marks (render (directory d)) = marks (render (directory d'))) ∧
      (e.SameNotes e' ∧ marks (render (login e)) = marks (render (login e')) ∧
        marks (render (register e)) = marks (render (register e'))) := by
  intro d d' e e'
  obtain ⟨-, hcontents, -, -, hdirectory, hlogin, hregister⟩ := names_keep_markup
  have hshape : d.SameShape d' := ⟨rfl, rfl, rfl⟩
  have hnotes : e.SameNotes e' := ⟨by decide, by decide, by decide⟩
  exact ⟨hcontents d, ⟨hshape, hdirectory d d' hshape⟩, hnotes, hlogin e e' hnotes,
    hregister e e' hnotes⟩

end StorageGateway.Page
