import StorageGateway.Http.Response
import StorageGateway.Proofs.Json.Cut
import StorageGateway.Proofs.Json.Record

/-!
# Reports of faults

A fault is reported as a JSON object with a code and a description. Any object that has these two
keys once each, as text among other text, reports the fault of this kind and description, however
its text is laid out and its strings are spelled, and whatever stands under the other keys. Every
other object is refused, for one of the reasons that are listed: something is wrong with its keys,
its code is the code of no kind, or its description is no text. What the gateway writes for a fault
is read as this fault.

## Main definitions

* `Fault.NamesKind`: the values that name a kind.
* `Fault.IsReportedBy`: the fault that an object reports.
* `Fault.IsMalformed`: why an object reports no fault.

## Main results

* `Fault.parse?_json`: what is written for a fault is read as this fault.
* `Fault.reports_are_read`: what is read from an object.
-/

namespace StorageGateway

open Json

namespace FaultKind

theorem ofCode?_eq_some_iff {code : String} {k : FaultKind} :
    ofCode? code = some k ↔ code = k.code := by
  constructor
  · intro h
    have hcode := List.find?_some (p := fun k : FaultKind => k.code == code) h
    exact (beq_iff_eq.mp hcode).symm
  · rintro rfl
    cases k <;> decide

end FaultKind

namespace Fault

/-- The values that name a kind: its code, or an object with the code as its only key and `null` as
value. -/
inductive NamesKind : Value → FaultKind → Prop
  | code {l : Literal} {k : FaultKind} (spells : l.Spells k.code) : NamesKind (.string l) k
  | onlyKey {l : Literal} {k : FaultKind} (spells : l.Spells k.code) :
      NamesKind (.object [(l, .null)]) k

/-- The names of a report's fields. -/
def fieldNames : List String := ["code", "description"]

/-- The fault that an object reports. -/
structure IsReportedBy (members : List (Literal × Value)) (f : Fault) : Prop where
  keys : HasTextKeys members
  code : ∃ v, HasOnly members "code" v ∧ NamesKind v f.kind
  description : ∃ v, HasOnly members "description" v ∧ v.Spells f.description

/-- Why an object reports no fault. -/
inductive IsMalformed (members : List (Literal × Value)) : Prop
  | keys (fail : KeysFail fieldNames members)
  | code {v : Value} (only : HasOnly members "code" v) (noKind : ∀ k, ¬NamesKind v k)
  | description {v : Value} (only : HasOnly members "description" v) (noText : ∀ s, ¬v.Spells s)

theorem kind?_eq_some_iff {v : Value} {k : FaultKind} : kind? v = some k ↔ NamesKind v k := by
  have hcode (l : Literal) : l.text?.bind FaultKind.ofCode? = some k ↔ l.Spells k.code := by
    simp only [Option.bind_eq_some_iff, FaultKind.ofCode?_eq_some_iff]
    constructor
    · rintro ⟨s, hs, rfl⟩
      exact text?_eq_some_iff.mp hs
    · exact fun h => ⟨_, text?_eq_some_iff.mpr h, rfl⟩
  constructor
  · intro h
    rw [kind?.eq_def] at h
    split at h
    · next l => exact .code ((hcode l).mp h)
    · next l => exact .onlyKey ((hcode l).mp h)
    · cases h
  · intro h
    cases h with
    | code hspells => exact (hcode _).mpr hspells
    | onlyKey hspells => exact (hcode _).mpr hspells

variable {members : List (Literal × Value)}

theorem ofValue?_object {f : Fault} :
    ofValue? (.object members) = some f ↔ IsReportedBy members f := by
  constructor
  · intro h
    rw [ofValue?] at h
    split at h
    · next code description hfields =>
      obtain ⟨hkeys, hvalues⟩ := fields?_object_eq_some_iff.mp hfields
      obtain ⟨hcode, hvalues⟩ := List.forall₂_cons.mp hvalues
      obtain ⟨hdescription, -⟩ := List.forall₂_cons.mp hvalues
      split at h
      · next kind text hkind htext =>
        cases h
        exact ⟨hkeys, ⟨code, hcode, kind?_eq_some_iff.mp hkind⟩, description, hdescription,
          valueText?_eq_some_iff.mp htext⟩
      · cases h
    · cases h
  · rintro ⟨hkeys, ⟨v, hv, hkind⟩, w, hw, hspells⟩
    have hfields : (Value.object members).fields? ["code", "description"] = some [v, w] :=
      fields?_object_eq_some_iff.mpr ⟨hkeys, .cons hv (.cons hw .nil)⟩
    simp only [ofValue?, hfields, kind?_eq_some_iff.mpr hkind,
      valueText?_eq_some_iff.mpr hspells]

/-- An object reports a fault, or something is wrong with it. -/
theorem isMalformed_iff : IsMalformed members ↔ ∀ f, ¬IsReportedBy members f := by
  constructor
  · rintro hfail f ⟨hkeys, ⟨v, hv, hkind⟩, w, hw, hspells⟩
    cases hfail with
    | keys hfail =>
      refine keysFail_iff.mp hfail ⟨hkeys, fun name hname => ?_⟩
      simp only [fieldNames, List.mem_cons, List.not_mem_nil, or_false] at hname
      rcases hname with rfl | rfl
      · exact ⟨v, hv⟩
      · exact ⟨w, hw⟩
    | code honly hno =>
      rw [honly.unique hv] at hno
      exact hno f.kind hkind
    | description honly hno =>
      rw [honly.unique hw] at hno
      exact hno f.description hspells
  · intro hnone
    by_cases hkeys : KeysFail fieldNames members
    · exact .keys hkeys
    rw [keysFail_iff, not_not] at hkeys
    obtain ⟨htext, hnames⟩ := hkeys
    obtain ⟨code, hcode⟩ := hnames "code" (by decide)
    obtain ⟨description, hdescription⟩ := hnames "description" (by decide)
    by_cases hkind : ∃ k, NamesKind code k
    · obtain ⟨k, hk⟩ := hkind
      exact .description hdescription fun s hs =>
        hnone ⟨k, s⟩ ⟨htext, ⟨code, hcode, hk⟩, description, hdescription, hs⟩
    · exact .code hcode (not_exists.mp hkind)

/-- What is read from the text of an object. -/
theorem parse?_object {text : Bytes} (h : Text (.object members) text) :
    parse? text = ofValue? (.object members) := by
  rw [parse?, parse?_of_text h]
  rfl

/-! ### Written reports -/

/-- The text that is written for a fault is one of an object that reports it. -/
theorem exists_object_json (f : Fault) :
    ∃ members, Text (.object members) (Utf8.ofString f.json) ∧ IsReportedBy members f := by
  obtain ⟨codeKey, hcodeKey, hcodeName⟩ := tokenText_quote "code"
  obtain ⟨code, hcode, hkind⟩ := tokenText_quote f.kind.code
  obtain ⟨textKey, htextKey, htextName⟩ := tokenText_quote "description"
  obtain ⟨text, htext, hdescription⟩ := tokenText_quote f.description
  refine ⟨[(codeKey, .string code), (textKey, .string text)], ?_, ?_⟩
  · have hopen : Utf8.ofString "\x7b\"code\":" =
        [0x7B] ++ Utf8.ofString (quote "code") ++ [0x3A] := by
      decide
    have hcomma : Utf8.ofString ",\"description\":" =
        [0x2C] ++ Utf8.ofString (quote "description") ++ [0x3A] := by
      decide
    have hclose : Utf8.ofString "\x7d" = [0x7D] := by decide
    have hlayout := Layout.token .openObject (.token hcodeKey (.token .colon (.token hcode
      (.token .comma (.token htextKey (.token .colon (.token htext
        (.token .closeObject .empty))))))))
    have hjson : Utf8.ofString f.json = [0x7B] ++ (Utf8.ofString (quote "code") ++ ([0x3A] ++
        (Utf8.ofString (quote f.kind.code) ++ ([0x2C] ++ (Utf8.ofString (quote "description") ++
          ([0x3A] ++ (Utf8.ofString (quote f.description) ++ ([0x7D] ++ [])))))))) := by
      rw [json, Utf8.ofString_append, Utf8.ofString_append, Utf8.ofString_append,
        Utf8.ofString_append, hopen, hcomma, hclose]
      simp only [List.append_assoc, List.append_nil]
    rw [hjson]
    exact hlayout
  · have hfirst : ¬textKey.Spells "code" := fun h => absurd (h.unique htextName) (by decide)
    have hsecond : ¬codeKey.Spells "description" := fun h =>
      absurd (h.unique hcodeName) (by decide)
    refine ⟨?_, ⟨.string code, ⟨[], codeKey, _, rfl, hcodeName, by simpa using hfirst⟩,
      .code hkind⟩, .string text, ⟨[(codeKey, .string code)], textKey, [], rfl, htextName,
      by simpa using hsecond⟩, hdescription⟩
    exact List.forall_mem_cons.mpr ⟨⟨"code", hcodeName⟩,
      List.forall_mem_singleton.mpr ⟨"description", htextName⟩⟩

/-- What is written for a fault is read as this fault. -/
theorem parse?_json (f : Fault) : parse? (Utf8.ofString f.json) = some f := by
  obtain ⟨members, htext, hreport⟩ := exists_object_json f
  rw [parse?_object htext, ofValue?_object]
  exact hreport

/-- What the gateway answers with for a fault is read as this fault, and what is read from the text
of an object is the fault that the object reports, or nothing if something is wrong with it or if
anything but white space follows. -/
theorem reports_are_read :
    (∀ f, ∃ bs, (Response.ofFault f).body = .sized bs ∧ parse? bs = some f) ∧
      ∀ {members : List (Literal × Value)} {text : Bytes}, Text (.object members) text →
        (∀ f, parse? text = some f ↔ IsReportedBy members f) ∧
        (parse? text = none ↔ IsMalformed members) ∧
        ∀ more, ¬IsBlank more → parse? (text ++ more) = none := by
  refine ⟨fun f => ⟨_, rfl, parse?_json f⟩, fun {members text} htext => ⟨fun f => ?_, ?_, ?_⟩⟩
  · rw [parse?_object htext, ofValue?_object]
  · rw [isMalformed_iff, Option.eq_none_iff_forall_ne_some, parse?_object htext]
    exact forall_congr' fun f => not_congr ofValue?_object
  · intro more hmore
    rw [parse?, parse?_append rfl htext hmore]
    rfl

/-- A report with white space, an escape and a further member. -/
theorem reports_are_read_escaped :
    let text := Bytes.ofAscii
      " \x7b\"x\":[null],\"code\":\"not_exist\",\"description\" : \"\\u00e9\"\x7d\n"
    parse? text = some ⟨.notFound, "é"⟩ ∧ parse? (text ++ Bytes.ofAscii "]") = none := by
  intro text
  have hx := tokenText_plain (s := "x") (by decide)
  have hcode := tokenText_plain (s := "code") (by decide)
  have hvalue := tokenText_plain (s := "not_exist") (by decide)
  have hdescription := tokenText_plain (s := "description") (by decide)
  have hescaped : PartText (.unit 0xE9) [0x5C, 0x75, 0x30, 0x30, 0x65, 0x39] := by
    have hzero : Ascii.hexValue? 0x30 = some 0 := rfl
    have he : Ascii.hexValue? 0x65 = some 14 := rfl
    have hnine : Ascii.hexValue? 0x39 = some 9 := rfl
    exact .unit hzero hzero he hnine
  have hspelled := TokenText.string (literalText_singleton hescaped)
  have hblank : IsBlank [0x20] := fun b hb => .inl (List.mem_singleton.mp hb)
  have hend : IsBlank [0x0A] := fun b hb => .inr (.inr (.inl (List.mem_singleton.mp hb)))
  have htext : Text (.object [(.plain "x", .array [.null]),
      (.plain "code", .string (.plain "not_exist")),
      (.plain "description", .string [.unit 0xE9])]) text :=
    .cons hblank .openObject (.token hx (.token .colon (.token .openArray (.token .null
      (.token .closeArray (.token .comma (.token hcode (.token .colon (.token hvalue (.token .comma
      (.token hdescription (.cons hblank .colon (.cons hblank hspelled
      (.token .closeObject (.nil hend)))))))))))))))
  obtain ⟨hread, -, htrailing⟩ := reports_are_read.2 htext
  refine ⟨(hread _).mpr ⟨?_, ?_, ?_⟩, htrailing _ fun h => absurd (h 0x5D (by decide)) (by decide)⟩
  · exact hasTextKeys_iff.mpr (by decide +kernel)
  · exact ⟨_, .of_text? [_] [_] (by decide +kernel) (by decide +kernel),
      .code (.plain _)⟩
  · exact ⟨_, .of_text? [_, _] [] (by decide +kernel) (by decide +kernel),
      text?_eq_some_iff.mp (by decide +kernel)⟩

/-- A further key that spells no text makes a report unreadable. -/
theorem keys_must_be_text : ∃ members : List (Literal × Value),
    Text (.object members)
      (Bytes.ofAscii "\x7b\"code\":\"not_exist\",\"description\":\"gone\",\"\\ud800\":0\x7d") ∧
    HasOnly members "code" (.string (.plain "not_exist")) ∧
    HasOnly members "description" (.string (.plain "gone")) ∧
    parse? (Bytes.ofAscii
      "\x7b\"code\":\"not_exist\",\"description\":\"gone\",\"\\ud800\":0\x7d") = none := by
  have hcode := tokenText_plain (s := "code") (by decide)
  have hvalue := tokenText_plain (s := "not_exist") (by decide)
  have hdescription := tokenText_plain (s := "description") (by decide)
  have hgone := tokenText_plain (s := "gone") (by decide)
  have hkey := tokenText_surrogate.1
  have hzero : IntegerText [0x30] := ⟨⟨by decide, List.all_eq_true.mp rfl⟩, .inl rfl⟩
  exact ⟨[(.plain "code", .string (.plain "not_exist")),
    (.plain "description", .string (.plain "gone")), ([.unit 0xD800], .number [0x30])],
    .token .openObject (.token hcode (.token .colon (.token hvalue (.token .comma
      (.token hdescription (.token .colon (.token hgone (.token .comma (.token hkey (.token .colon
      (.token (.number hzero.numberText) (.token .closeObject .empty)))))))))))),
    .of_text? [] [_, _] (by decide +kernel) (by decide +kernel),
    .of_text? [_] [_] (by decide +kernel) (by decide +kernel),
    by decide +kernel⟩

end Fault

end StorageGateway
