import StorageGateway.Proofs.Gateway.Downloads
import StorageGateway.Proofs.Page.Contents
import StorageGateway.Proofs.Service.Listing

/-!
# The directory page of a listing

A directory page is made from one reply of the storage service. If the reply arrives whole and is an
array of objects that describe files, the page has a row for each of them, in the same order. If
anything is wrong, be it with one object anywhere in the array, with the text around it, or with the
way it arrives, the answer is a report of a fault, which says nothing about any file.

## Main definitions

* `Response.Sends`: responses that consist of a text.

## Main results

* `Gateway.serve_view`: the answer to a request for a directory page.
* `Gateway.listings_are_shown_whole`: what is shown for a reply.
-/

namespace StorageGateway

open Json

/-- A response that consists of a text, or of its fields alone where only these were asked for. -/
structure Response.Sends (response : Response) (method : String) (status : Nat)
    (mediaType text : String) : Prop where
  status : response.status = status
  mediaType : response.headers.all "content-type" = [Bytes.ofAscii mediaType]
  body : response.body = .sized (if method = "HEAD" then [] else Utf8.ofString text)

namespace Gateway

variable {g : Gateway} {req : Inbound} {first : Request} {storage : String} {s : Scope} {r : Reply}

theorem sends_respond (g : Gateway) (method : String) (changes : Cookie.Table Cookie.Change)
    {outcome : Except Fault Response} {status : Nat} {mediaType text : String}
    (h : Response.ofOutcome outcome = .ofText status mediaType text) :
    (g.respond method changes outcome).Sends method status mediaType text where
  status := by rw [status_respond, h]; rfl
  mediaType := by rw [all_respond _ _ _ _ (by decide), h]; rfl
  body := by
    rw [body_respond, h]
    split <;> rfl

/-- The answer to a request for a directory page, when the listing arrives. -/
theorem serve_view (hplan : g.plan? req = some (Files.view s)) (hreaches : g.Reaches req first)
    {service : Service} (hreply : (Exchange.send service first).reply = some r)
    (hok : r.status = 200) :
    (g.serve service req).1 = g.respond req.method
      (Session.marks s.storage ((Exchange.freshToken? r).map .store)) (Files.showListing s r) := by
  obtain ⟨storage', call, next, hplan', hfirst⟩ := hreaches
  obtain ⟨rfl, rfl, -⟩ := Plan.ask.inj (Option.some.inj (hplan'.symm.trans hplan))
  exact serve_forward hplan hfirst hreply hok

theorem showListing_of_parse? {files : List FileRecord} (hwhole : r.isWhole = true)
    (hfiles : Listing.parse? r.body = some files) :
    Files.showListing s r = .ok (.page (Page.directory (Files.directory s files))) := by
  simp only [Files.showListing, hwhole, if_true, hfiles]

theorem showListing_of_unreadable (h : r.isWhole = false ∨ Listing.IsUnreadable r.body) :
    Files.showListing s r = .error ⟨.internal, "files json decode error"⟩ := by
  have hnone : (if r.isWhole then Listing.parse? r.body else none) = none := by
    rcases h with hbroken | hunreadable
    · rw [hbroken]
      rfl
    · rw [Listing.parse?_of_isUnreadable hunreadable, ite_self]
  simp only [Files.showListing, hnone]
  rfl

/-- A listing is shown completely or not at all. If the reply is whole and lists objects that
describe files, its files are the rows of the page, one after another. If it breaks off, or if its
text is cut off or goes on, or if one of its objects is spoiled, the listing is reported to be
unreadable, and nothing of it is shown. -/
theorem listings_are_shown_whole (hsubject : subject? req = some (.within .view, storage))
    (hreaches : g.Reaches req first) {service : Service}
    (hreply : (Exchange.send service first).reply = some r) (hok : r.status = 200) :
    ∃ s : Scope, s.storage = storage ∧ g.plan? req = some (Files.view s) ∧
      (∀ objects files, Text (.array (objects.map .object)) r.body →
        List.Forall₂ FileRecord.IsDescribedBy objects files → r.isWhole = true →
        Listing.parse? r.body = some files ∧
        (g.serve service req).1.Sends req.method 200 "text/html; charset=utf-8"
          (Html.render (Page.directory (Files.directory s files))) ∧
        Html.shown Page.isShown
            (Html.items (Html.render (Page.directory (Files.directory s files)))) =
          (Files.directory s files).contents) ∧
      (r.isWhole = false ∨ Listing.IsUnreadable r.body →
        (g.serve service req).1.Sends req.method 500 "application/json"
          (Fault.json ⟨.internal, "files json decode error"⟩)) := by
  obtain ⟨-, -, s, -, -, rfl, hplan⟩ := exists_scope_of_subject? hsubject
  have hserve := serve_view (s := s) (hplan g) hreaches hreply hok
  refine ⟨s, rfl, hplan g, fun objects files htext hfiles hwhole => ?_, fun hunreadable => ?_⟩
  · have hread : Listing.parse? r.body = some files :=
      (Listing.parse?_objects_iff htext).mpr hfiles
    refine ⟨hread, ?_, Page.shown_directory _⟩
    rw [hserve, showListing_of_parse? hwhole hread]
    exact g.sends_respond _ _ rfl
  · rw [hserve, showListing_of_unreadable hunreadable]
    exact g.sends_respond _ _ rfl

/-- A listing with integers at both ends of their range, with a further key, and with white space
around it; what goes on behind it and what breaks off is refused. -/
theorem listings_are_shown_whole_extremes :
    let g : Gateway :=
      ⟨⟨⟨"http", some { host := .domain "s" }, .segments [""], none, none⟩, []⟩, ⟨60, false⟩, 0⟩
    let req : Inbound := { target := Bytes.ofAscii "/a" }
    let text := Bytes.ofAscii (" [\x7b\"size\":-9223372036854775808,\"x\":\x7b\x7d," ++
      "\"name\":\"a&b\",\"mod_time\":9223372036854775807\x7d]\n")
    let files : List FileRecord := [⟨"a&b", -9223372036854775808, 9223372036854775807⟩]
    let answer (body : Bytes) (isWhole : Bool) : Response :=
      (g.serve (.scripted [.reply { status := 200, body, isWhole }]) req).1
    (∃ s : Scope, s.storage = "a" ∧ (answer text true).Sends "GET" 200 "text/html; charset=utf-8"
      (Html.render (Page.directory (Files.directory s files)))) ∧
    (answer (text ++ [0x5D]) true).Sends "GET" 500 "application/json"
      (Fault.json ⟨.internal, "files json decode error"⟩) ∧
    (answer text false).Sends "GET" 500 "application/json"
      (Fault.json ⟨.internal, "files json decode error"⟩) := by
  intro g req text files answer
  have hsubject : subject? req = some (.within .view, "a") := by decide +kernel
  have hsent : (g.serve (.scripted []) req).2 ≠ [] := by decide +kernel
  obtain ⟨first, rest, hcons⟩ := List.exists_cons_of_ne_nil hsent
  have hreaches : g.Reaches req first := reaches_iff.mpr ⟨_, rest, hcons⟩
  have hblank : IsBlank [0x20] := fun b hb => .inl (List.mem_singleton.mp hb)
  have hend : IsBlank [0x0A] := fun b hb => .inr (.inr (.inl (List.mem_singleton.mp hb)))
  have hlow : IntegerText (Bytes.ofAscii "9223372036854775808") :=
    ⟨⟨by decide, List.all_eq_true.mp rfl⟩, .inr (by decide)⟩
  have hhigh : IntegerText (Bytes.ofAscii "9223372036854775807") :=
    ⟨⟨by decide, List.all_eq_true.mp rfl⟩, .inr (by decide)⟩
  let members : List (Literal × Value) :=
    [(.plain "size", .number (Bytes.ofAscii "-9223372036854775808")), (.plain "x", .object []),
      (.plain "name", .string (.plain "a&b")),
      (.plain "mod_time", .number (Bytes.ofAscii "9223372036854775807"))]
  have hsizeKey := tokenText_plain (s := "size") (by decide)
  have hfurther := tokenText_plain (s := "x") (by decide)
  have hnameKey := tokenText_plain (s := "name") (by decide)
  have hname := tokenText_plain (s := "a&b") (by decide)
  have htimeKey := tokenText_plain (s := "mod_time") (by decide)
  have htext : Text (.array [.object members]) text :=
    .cons hblank .openArray (.token .openObject (.token hsizeKey (.token .colon
      (.token (.number hlow.numberText_negative) (.token .comma (.token hfurther (.token .colon
      (.token .openObject (.token .closeObject (.token .comma (.token hnameKey (.token .colon
      (.token hname (.token .comma (.token htimeKey (.token .colon
      (.token (.number hhigh.numberText) (.token .closeObject (.token .closeArray
      (.nil hend))))))))))))))))))))
  have hsize : (Value.number (Bytes.ofAscii "-9223372036854775808")).IsInt64
      (-9223372036854775808) := ⟨congrArg Value.number (by decide +kernel), by decide⟩
  have htime : (Value.number (Bytes.ofAscii "9223372036854775807")).IsInt64
      9223372036854775807 := ⟨congrArg Value.number (by decide +kernel), by decide⟩
  have hdescribed : FileRecord.IsDescribedBy members
      ⟨"a&b", -9223372036854775808, 9223372036854775807⟩ :=
    ⟨hasTextKeys_iff.mpr (by decide +kernel),
      ⟨_, .of_text? [_, _] [_] (by decide +kernel) (by decide +kernel), Literal.Spells.plain _⟩,
      ⟨_, .of_text? [] [_, _, _] (by decide +kernel) (by decide +kernel), hsize⟩,
      ⟨_, .of_text? [_, _, _] [] (by decide +kernel) (by decide +kernel), htime⟩⟩
  have hreply (body : Bytes) (isWhole : Bool) :
      (Exchange.send (.scripted [.reply { status := 200, body, isWhole }]) first).reply =
        some { status := 200, body, isWhole } := rfl
  refine ⟨?_, ?_, ?_⟩
  · obtain ⟨s, hs, -, hpage, -⟩ :=
      listings_are_shown_whole hsubject hreaches (hreply text true) rfl
    exact ⟨s, hs, (hpage [members] files htext (.cons hdescribed .nil) rfl).2.1⟩
  · obtain ⟨s, -, -, -, hrefused⟩ :=
      listings_are_shown_whole hsubject hreaches (hreply (text ++ [0x5D]) true) rfl
    exact hrefused (.inr (.continued htext fun h => absurd (h 0x5D (by decide)) (by decide)))
  · obtain ⟨s, -, -, -, hrefused⟩ :=
      listings_are_shown_whole hsubject hreaches (hreply text false) rfl
    exact hrefused (.inl rfl)

end Gateway

end StorageGateway
