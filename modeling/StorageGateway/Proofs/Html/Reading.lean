import StorageGateway.Html

/-!
# Reading pages

A reader of a page tells the marks of the markup, which are the brackets of tags and the quotes of
attributes, from all other characters. A character that is written as a reference is no mark. So
the texts of a page are read as they were before they were escaped, and the marks are those of its
markup. From the marks a reader learns what the page holds: the values of the attributes, and the
text behind each tag.

## Main definitions

* `Html.isMark`, `Html.marks`: the marks of a text.
* `Html.read`, `Html.unescape`: a page with its references resolved.
* `Html.items`: the attributes and the texts of a page.
* `Html.Yields`: what a part of a page adds to them.

## Main results

* `Html.unescape_escape`: an escaped text is read as it was.
* `Html.marks_render`: the marks of a page are those of its markup.
* `Html.items_render`: the items of a page, its texts taken as wholes.
-/

namespace StorageGateway.Html

/-! ### Marks -/

/-- The brackets of tags and the quotes of attributes. -/
def isMark (c : Char) : Bool := c == '<' || c == '>' || c == '"' || c == '\''

/-- The marks of a text in their order. -/
def marks (s : String) : List Char := s.toList.filter isMark

/-- The markup of a page in reading order. -/
def markups (page : Page) : List String :=
  page.filterMap fun
    | .markup s => some s
    | .text _ => none

/-! ### Symbols -/

/-- What a reader takes a part of a page for: a mark, or characters that are none. -/
inductive Symbol where
  | mark (c : Char)
  | plain (cs : List Char)
  deriving DecidableEq, Repr

namespace Symbol

/-- A character that is written as itself. -/
def ofChar (c : Char) : Symbol := if isMark c then .mark c else .plain [c]

/-- The characters of a symbol. -/
def chars : Symbol → List Char
  | .mark c => [c]
  | .plain cs => cs

/-- The same characters one by one. -/
def spread : Symbol → List Symbol
  | .mark c => [.mark c]
  | .plain cs => cs.map fun c => .plain [c]

end Symbol

/-- The symbols of a page. A reference stands for a character that is no mark. -/
def read : List Char → List Symbol
  | '&' :: 'l' :: 't' :: ';' :: rest => .plain ['<'] :: read rest
  | '&' :: 'g' :: 't' :: ';' :: rest => .plain ['>'] :: read rest
  | '&' :: 'a' :: 'm' :: 'p' :: ';' :: rest => .plain ['&'] :: read rest
  | '&' :: 'q' :: 'u' :: 'o' :: 't' :: ';' :: rest => .plain ['"'] :: read rest
  | '&' :: '#' :: 'x' :: '2' :: '7' :: ';' :: rest => .plain ['\''] :: read rest
  | '&' :: '#' :: 'x' :: '2' :: 'f' :: ';' :: rest => .plain ['/'] :: read rest
  | c :: rest => .ofChar c :: read rest
  | [] => []

/-- A text with its references resolved. -/
def unescape (s : String) : String := String.ofList ((read s.toList).flatMap Symbol.chars)

/-- The symbols of a markup; characters between two marks are one symbol. -/
def words : List Char → List Symbol
  | [] => []
  | c :: rest =>
    if isMark c then .mark c :: words rest
    else match words rest with
      | .plain cs :: next => .plain (c :: cs) :: next
      | next => .plain [c] :: next

/-- The symbols of a fragment; a text is one symbol. -/
def Fragment.symbols : Fragment → List Symbol
  | .markup s => words s.toList
  | .text s => [.plain s.toList]

/-- The symbols of a page, whatever stands between two marks taken as a whole. -/
def symbols (page : Page) : List Symbol := page.flatMap Fragment.symbols

/-- Whether a fragment has no reference in its markup. -/
def Fragment.isClear : Fragment → Bool
  | .markup s => !s.toList.contains '&'
  | .text _ => true

/-- Whether a page has no reference in its markup. -/
def isClear (page : Page) : Bool := page.all Fragment.isClear

/-! ### Items -/

/-- Where a text of a page stands: behind a tag, or in an attribute. -/
inductive Label where
  | tag (name : String)
  | attr (name : String)
  deriving DecidableEq, Repr

/-- A text of a page and where it stands. -/
abbrev Item := Label × String

/-- Characters between the words of a tag. -/
def isGap (c : Char) : Bool := c == ' ' || c == '\n'

/-- A text that was read piece by piece. -/
def textOf (seen : List (List Char)) : String := String.ofList seen.flatten

/-- The name at the start of a tag. -/
def tagName (seen : List (List Char)) : String :=
  String.ofList (seen.flatten.takeWhile fun c => !isGap c)

/-- The name before the quote of a value. -/
def attributeName (seen : List (List Char)) : String :=
  String.ofList (((seen.flatten.reverse.dropWhile (· == '=')).takeWhile fun c => !isGap c).reverse)

/-- Where a reader stands, and what it has seen there: behind a tag, inside a tag, or in a value
inside a tag, between quotes of one kind. -/
inductive Cursor where
  | content (name : String) (seen : List (List Char))
  | tag (seen : List (List Char))
  | value (inside : List (List Char)) (quote : Char) (seen : List (List Char))
  deriving DecidableEq, Repr

namespace Cursor

/-- What a reader has seen where it stands, with one more piece. -/
def add : Cursor → List Char → Cursor
  | content name seen, piece => content name (seen ++ [piece])
  | tag seen, piece => tag (seen ++ [piece])
  | value inside quote seen, piece => value inside quote (seen ++ [piece])

/-- How a reader goes on with a symbol, and the item that the symbol completes, if any. -/
def step (c : Cursor) (s : Symbol) : Cursor × List Item :=
  match c, s with
  | content name seen, .mark '<' => (tag [], [(.tag name, textOf seen)])
  | tag seen, .mark '>' => (content (tagName seen) [], [])
  | tag seen, .mark '"' => (value seen '"' [], [])
  | tag seen, .mark '\'' => (value seen '\'' [], [])
  | value inside quote seen, .mark c =>
    if c = quote then (tag inside, [(.attr (attributeName inside), textOf seen)])
    else (value inside quote (seen ++ [[c]]), [])
  | c, s => (c.add s.chars, [])

/-- The same place, what was seen there put together. -/
def flat : Cursor → Cursor
  | content name seen => content name [seen.flatten]
  | tag seen => tag [seen.flatten]
  | value inside quote seen => value [inside.flatten] quote [seen.flatten]

end Cursor

/-- Reads several symbols. -/
def scan (c : Cursor) : List Symbol → Cursor × List Item
  | [] => (c, [])
  | s :: rest => ((scan (c.step s).1 rest).1, (c.step s).2 ++ (scan (c.step s).1 rest).2)

/-- The attributes and the texts of a page in reading order. -/
def items (html : String) : List Item := (scan (.content "" []) (read html.toList)).2

/-! ### Reading what was escaped -/

theorem isMark_eq_false {c : Char} (hlt : c ≠ '<') (hgt : c ≠ '>') (hquot : c ≠ '"')
    (hapos : c ≠ '\'') : isMark c = false := by
  simp only [isMark, Bool.or_eq_false_iff, beq_eq_false_iff_ne]
  exact ⟨⟨⟨hlt, hgt⟩, hquot⟩, hapos⟩

theorem read_cons {c : Char} (hc : c ≠ '&') (rest : List Char) :
    read (c :: rest) = .ofChar c :: read rest := by
  rw [read.eq_7]
  all_goals
    intros
    simp_all

/-- An escaped character is read as one that is no mark. -/
theorem read_escapeChar (c : Char) (rest : List Char) :
    read (escapeChar c ++ rest) = .plain [c] :: read rest := by
  unfold escapeChar
  split
  case h_7 hlt hgt hamp hquot hapos hslash =>
    rw [List.singleton_append, read_cons hamp, Symbol.ofChar, isMark_eq_false hlt hgt hquot hapos]
    rfl
  all_goals rfl

theorem read_escape (cs rest : List Char) :
    read (cs.flatMap escapeChar ++ rest) = (Symbol.plain cs).spread ++ read rest := by
  induction cs with
  | nil => rfl
  | cons c cs ih =>
    rw [List.flatMap_cons, List.append_assoc, read_escapeChar, ih]
    rfl

/-- An escaped text is read as it was. -/
theorem unescape_escape (s : String) : unescape (escape s) = s := by
  have hread : read (s.toList.flatMap escapeChar) = (Symbol.plain s.toList).spread := by
    have happ := read_escape s.toList []
    rwa [List.append_nil, read, List.append_nil] at happ
  have hchars : ((Symbol.plain s.toList).spread).flatMap Symbol.chars = s.toList := by
    rw [Symbol.spread, List.flatMap_map]
    exact List.flatMap_singleton' _
  rw [unescape, escape, String.toList_ofList, hread, hchars, String.ofList_toList]

/-- Markup without references is read character by character. -/
theorem read_markup {cs : List Char} (hcs : '&' ∉ cs) (rest : List Char) :
    read (cs ++ rest) = cs.map .ofChar ++ read rest := by
  induction cs with
  | nil => rfl
  | cons c cs ih =>
    rw [List.mem_cons, not_or] at hcs
    rw [List.cons_append, read_cons (Ne.symm hcs.1), ih hcs.2]
    rfl

/-- The symbols of a markup are its characters one by one. -/
theorem flatMap_spread_words (cs : List Char) :
    (words cs).flatMap Symbol.spread = cs.map .ofChar := by
  induction cs with
  | nil => rfl
  | cons c cs ih =>
    rw [words, List.map_cons, ← ih, Symbol.ofChar]
    split
    · rfl
    · split
      · next hwords =>
        rw [hwords]
        rfl
      · rfl

theorem toList_render_cons (f : Fragment) (page : Page) :
    (render (f :: page)).toList = f.render.toList ++ (render page).toList := by
  rw [render, List.map_cons, String.join_cons, String.toList_append]
  rfl

/-- A page is read as its symbols one by one. -/
theorem read_render {page : Page} (h : isClear page) :
    read (render page).toList = (symbols page).flatMap Symbol.spread := by
  induction page with
  | nil => rfl
  | cons f page ih =>
    rw [isClear, List.all_cons, Bool.and_eq_true] at h
    obtain ⟨hf, hpage⟩ := h
    rw [toList_render_cons, symbols, List.flatMap_cons, List.flatMap_append, ← symbols]
    cases f with
    | markup s =>
      have hs : '&' ∉ s.toList := by simpa [Fragment.isClear] using hf
      rw [Fragment.render, read_markup hs, ih hpage, Fragment.symbols, flatMap_spread_words]
    | text s =>
      rw [Fragment.render, escape, String.toList_ofList, read_escape, ih hpage]
      simp [Fragment.symbols]

/-! ### The marks of a page -/

@[simp] theorem marks_append (s t : String) : marks (s ++ t) = marks s ++ marks t := by
  simp [marks]

/-- An escaped text holds no mark. -/
theorem marks_escape (s : String) : marks (escape s) = [] := by
  have hchar (c : Char) : (escapeChar c).any isMark = false := by
    unfold escapeChar
    split
    case h_7 hlt hgt hamp hquot hapos hslash =>
      rw [List.any_cons, isMark_eq_false hlt hgt hquot hapos]
      rfl
    all_goals rfl
  rw [marks, escape, String.toList_ofList, List.filter_eq_nil_iff]
  intro d hd
  obtain ⟨c, -, hd⟩ := List.mem_flatMap.mp hd
  exact List.any_eq_false.mp (hchar c) d hd

/-- The marks of a page are those of its markup. -/
theorem marks_render (page : Page) : marks (render page) = (markups page).flatMap marks := by
  induction page with
  | nil => rfl
  | cons f page ih =>
    rw [render, List.map_cons, String.join_cons, ← render, marks_append, ih]
    cases f with
    | markup s => rfl
    | text s => rw [Fragment.render, marks_escape]; rfl

/-! ### The items of a page -/

namespace Cursor

theorem step_plain (c : Cursor) (cs : List Char) : c.step (.plain cs) = (c.add cs, []) := by
  cases c <;> rfl

theorem step_content {name : String} {seen : List (List Char)} {s : Symbol} (hs : s ≠ .mark '<') :
    (content name seen).step s = (content name (seen ++ [s.chars]), []) := by
  simp [step, hs, add]

/-- Pieces that are seen one after the other are seen as one. -/
theorem flat_add_cons (c : Cursor) (x : Char) (cs : List Char) :
    ((c.add [x]).add cs).flat = (c.add (x :: cs)).flat := by
  cases c <;> simp [add, flat]

/-- What a reader does depends on the characters seen, not on their pieces. -/
theorem step_congr {c c' : Cursor} (h : c.flat = c'.flat) (s : Symbol) :
    (c.step s).1.flat = (c'.step s).1.flat ∧ (c.step s).2 = (c'.step s).2 := by
  cases c with
  | content name seen =>
    cases c' <;> simp only [flat, content.injEq, List.cons.injEq, and_true, reduceCtorEq] at h
    obtain ⟨rfl, hseen⟩ := h
    by_cases hs : s = .mark '<'
    · subst hs
      simp [step, textOf, hseen]
    · simp [step_content hs, flat, hseen]
  | tag seen =>
    cases c' <;> simp only [flat, tag.injEq, List.cons.injEq, and_true, reduceCtorEq] at h
    by_cases hclose : s = .mark '>'
    · subst hclose
      simp [step, tagName, h, flat]
    by_cases hquot : s = .mark '"'
    · subst hquot
      simp [step, h, flat]
    by_cases hapos : s = .mark '\''
    · subst hapos
      simp [step, h, flat]
    · simp [step, hclose, hquot, hapos, add, flat, h]
  | value inside quote seen =>
    cases c' <;> simp only [flat, value.injEq, List.cons.injEq, and_true, reduceCtorEq] at h
    obtain ⟨hinside, rfl, hseen⟩ := h
    cases s with
    | mark m =>
      by_cases hm : m = quote
      · simp [step, hm, attributeName, textOf, hinside, hseen, flat]
      · simp [step, hm, hinside, hseen, flat]
    | plain cs => simp [step, add, flat, hinside, hseen]

end Cursor

theorem scan_append (c : Cursor) (ss ts : List Symbol) :
    scan c (ss ++ ts) =
      ((scan (scan c ss).1 ts).1, (scan c ss).2 ++ (scan (scan c ss).1 ts).2) := by
  induction ss generalizing c with
  | nil => rfl
  | cons s ss ih => rw [List.cons_append, scan, ih, scan, List.append_assoc]

theorem scan_congr {c c' : Cursor} (h : c.flat = c'.flat) (ss : List Symbol) :
    (scan c ss).1.flat = (scan c' ss).1.flat ∧ (scan c ss).2 = (scan c' ss).2 := by
  induction ss generalizing c c' with
  | nil => exact ⟨h, rfl⟩
  | cons s ss ih =>
    obtain ⟨hflat, hitems⟩ := Cursor.step_congr h s
    obtain ⟨hflat', hitems'⟩ := ih hflat
    rw [scan, scan]
    exact ⟨hflat', by rw [hitems, hitems']⟩

/-- A symbol is read like its characters one by one. -/
theorem scan_spread (c : Cursor) (s : Symbol) :
    (scan c s.spread).1.flat = (c.step s).1.flat ∧ (scan c s.spread).2 = (c.step s).2 := by
  cases s with
  | mark m => exact ⟨rfl, List.append_nil _⟩
  | plain cs =>
    rw [Cursor.step_plain]
    induction cs generalizing c with
    | nil => cases c <;> simp [Symbol.spread, scan, Cursor.add, Cursor.flat]
    | cons x cs ih =>
      obtain ⟨hflat, hitems⟩ := ih (c.add [x])
      rw [Symbol.spread, List.map_cons, scan, Cursor.step_plain]
      exact ⟨hflat.trans (c.flat_add_cons x cs), hitems⟩

theorem scan_flatMap_spread (c : Cursor) (ss : List Symbol) :
    (scan c (ss.flatMap Symbol.spread)).1.flat = (scan c ss).1.flat ∧
      (scan c (ss.flatMap Symbol.spread)).2 = (scan c ss).2 := by
  induction ss generalizing c with
  | nil => exact ⟨rfl, rfl⟩
  | cons s ss ih =>
    obtain ⟨hflat, hitems⟩ := scan_spread c s
    obtain ⟨hflat', hitems'⟩ := scan_congr hflat (ss.flatMap Symbol.spread)
    obtain ⟨hrest, hitemsrest⟩ := ih (c.step s).1
    rw [List.flatMap_cons, scan_append, scan]
    exact ⟨hflat'.trans hrest, by rw [hitems, hitems', hitemsrest]⟩

/-- The items of a page are those of its symbols, each text read as a whole. -/
theorem items_render {page : Page} (h : isClear page) :
    items (render page) = (scan (.content "" []) (symbols page)).2 := by
  rw [items, read_render h, (scan_flatMap_spread _ _).2]

/-! ### Parts of a page -/

/-- A reader stands behind a tag whose text is of no interest. -/
def Cursor.IsIdle (shows : Label → Bool) : Cursor → Prop
  | .content name _ => shows (.tag name) = false
  | _ => False

/-- The items of the labels that are of interest. -/
def shown (shows : Label → Bool) (found : List Item) : List Item :=
  found.filter fun item => shows item.1

/-- A part of a page without references in its markup adds these items of interest, wherever an
idle reader stands, and leaves it idle. -/
structure Yields (shows : Label → Bool) (part : Page) (found : List Item) : Prop where
  clear : isClear part
  reads : ∀ c : Cursor, c.IsIdle shows →
    shown shows (scan c (symbols part)).2 = found ∧ (scan c (symbols part)).1.IsIdle shows

variable {shows : Label → Bool}

@[simp] theorem shown_append (l l' : List Item) :
    shown shows (l ++ l') = shown shows l ++ shown shows l' :=
  List.filter_append ..

theorem shown_cons {label : Label} (h : shows label = false) (s : String) (found : List Item) :
    shown shows ((label, s) :: found) = shown shows found := by
  rw [shown, List.filter_cons_of_neg (by simp [h]), shown]

/-- Idle readers find the same. -/
theorem scan_idle {c c' : Cursor} (hc : c.IsIdle shows) (hc' : c'.IsIdle shows)
    (ss : List Symbol) :
    shown shows (scan c ss).2 = shown shows (scan c' ss).2 ∧
      ((scan c ss).1.IsIdle shows ↔ (scan c' ss).1.IsIdle shows) := by
  induction ss generalizing c c' with
  | nil => exact ⟨rfl, iff_of_true hc hc'⟩
  | cons s ss ih =>
    cases c with
    | content name seen =>
      cases c' with
      | content name' seen' =>
        rw [scan, scan]
        by_cases hs : s = .mark '<'
        · -- The text behind the tag ends here, and is of interest to neither reader.
          subst hs
          simp only [Cursor.step, List.singleton_append, shown_cons hc, shown_cons hc', and_self]
        · simp only [Cursor.step_content hs, List.nil_append]
          exact ih hc hc'
      | tag seen' => exact hc'.elim
      | value inside quote seen' => exact hc'.elim
    | tag seen => exact hc.elim
    | value inside quote seen => exact hc.elim

namespace Yields

/-- It is enough to read a part from the start. -/
theorem of_start {part : Page} {found : List Item} (hstart : shows (.tag "") = false)
    (h : isClear part ∧ shown shows (scan (.content "" []) (symbols part)).2 = found ∧
      (scan (.content "" []) (symbols part)).1.IsIdle shows) : Yields shows part found := by
  obtain ⟨hclear, hfound, hidle⟩ := h
  refine ⟨hclear, fun c hc => ?_⟩
  have hidle' : (Cursor.content "" []).IsIdle shows := hstart
  obtain ⟨hitems, hend⟩ := scan_idle hc hidle' (symbols part)
  exact ⟨hitems.trans hfound, hend.mpr hidle⟩

theorem nil : Yields shows [] [] := ⟨rfl, fun _ hc => ⟨rfl, hc⟩⟩

theorem append {part part' : Page} {found found' : List Item} (h : Yields shows part found)
    (h' : Yields shows part' found') : Yields shows (part ++ part') (found ++ found') := by
  refine ⟨?_, fun c hc => ?_⟩
  · rw [isClear, List.all_append, ← isClear, ← isClear, h.clear, h'.clear, Bool.and_self]
  · obtain ⟨hitems, hidle⟩ := h.reads c hc
    obtain ⟨hitems', hidle'⟩ := h'.reads _ hidle
    rw [symbols, List.flatMap_append, ← symbols, ← symbols, scan_append]
    exact ⟨by rw [shown_append, hitems, hitems'], hidle'⟩

/-- What the parts of a list add, one after the other. -/
theorem flatMap {α : Type} {part : α → Page} {found : α → List Item}
    (h : ∀ a, Yields shows (part a) (found a)) (l : List α) :
    Yields shows (l.flatMap part) (l.flatMap found) := by
  induction l with
  | nil => exact nil
  | cons a l ih =>
    rw [List.flatMap_cons, List.flatMap_cons]
    exact (h a).append ih

/-- What a page holds is what its parts add. -/
theorem shown_items {page : Page} {found : List Item} (h : Yields shows page found)
    (hstart : shows (.tag "") = false) : shown shows (items (render page)) = found := by
  rw [items_render h.clear]
  exact (h.reads (.content "" []) hstart).1

end Yields

/-! ### Texts read piece by piece -/

@[simp] theorem textOf_nil : textOf [] = "" := rfl

@[simp] theorem textOf_cons (s : String) (seen : List (List Char)) :
    textOf (s.toList :: seen) = s ++ textOf seen := by
  rw [textOf, List.flatten_cons, String.ofList_append, String.ofList_toList, textOf]

end StorageGateway.Html
