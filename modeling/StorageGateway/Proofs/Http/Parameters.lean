import StorageGateway.Http.Header
import StorageGateway.Proofs.Text.Strict

/-!
# The grammar of a `Content-Disposition` value

A value names a type and goes on with parameters, each behind a semicolon. A parameter has a name
and, behind an equals sign, a value that stands in quotes or is a token. Quoted text runs to the
first quote that is not escaped, where a backslash escapes the byte behind it. The gateway writes
such values but does not read them by this grammar, so that the reader stands here beside its
writers: it tells what a recipient finds in what the gateway writes, and what a sender meant.

## Main definitions

* `ContentDisposition`: a type and its parameters.
* `ContentDisposition.quoted?`: text in quotes.
* `ContentDisposition.read?`: reading by the grammar.
* `ContentDisposition.IsSpelt`: where a parameter stands in a text.

## Main results

* `ContentDisposition.quoted?_append`: text without quotes and backslashes is read as it is.
* `ContentDisposition.quoted?_verbatim_iff`: no other text is.
* `ContentDisposition.read?_append`, `ContentDisposition.parametersFrom?_quoted`,
  `ContentDisposition.parametersFrom?_token`: what is read in a text that is put together.
* `ContentDisposition.exists_isSpelt`: a parameter is spelt out in the text.
-/

namespace StorageGateway

/-- The type of a value and its parameters in order; the names are in lower case. -/
structure ContentDisposition where
  type : Bytes
  parameters : List (Bytes × Bytes)
  deriving DecidableEq, Repr

namespace ContentDisposition

/-- The value of a text in quotes, read from behind its opening quote, and the text behind its
closing quote. -/
def quoted? : Bytes → Option (Bytes × Bytes)
  | [] => none
  | 0x22 :: rest => some ([], rest)
  | 0x5C :: b :: rest => (quoted? rest).map fun r => (b :: r.1, r.2)
  | b :: rest => (quoted? rest).map fun r => (b :: r.1, r.2)

/-- A value, which stands in quotes or is a token, and the text behind it. -/
def value? (bs : Bytes) : Option (Bytes × Bytes) :=
  match bs with
  | 0x22 :: rest => quoted? rest
  | _ =>
    let token := bs.takeWhile Ascii.isTokenChar
    if token.isEmpty then none else some (token, bs.drop token.length)

/-- A name, and the text behind it. -/
def name? (bs : Bytes) : Option (Bytes × Bytes) :=
  let name := (bs.dropWhile Ascii.isBlank).takeWhile Ascii.isTokenChar
  if name.isEmpty then none
  else some (name, (bs.dropWhile Ascii.isBlank).drop name.length)

/-- The value that is assigned to a name in front of the text, and the text behind the value. -/
def assigned? (bs : Bytes) : Option (Bytes × Bytes) :=
  match bs.dropWhile Ascii.isBlank with
  | 0x3D :: rest => value? (rest.dropWhile Ascii.isBlank)
  | _ => none

/-- The parameters in a text; `fuel` bounds their number and is enough when it is greater than the
length of the text. -/
def parametersFrom? : Nat → Bytes → Option (List (Bytes × Bytes))
  | 0, _ => none
  | fuel + 1, bs =>
    match bs.dropWhile Ascii.isBlank with
    | [] => some []
    | 0x3B :: rest =>
      (name? rest).bind fun (name, rest) =>
        (assigned? rest).bind fun (value, rest) =>
          (parametersFrom? fuel rest).map ((Bytes.toLower name, value) :: ·)
    | _ => none

/-- Reading by the grammar. -/
def read? (bs : Bytes) : Option ContentDisposition :=
  (name? bs).bind fun (type, rest) =>
    (parametersFrom? (rest.length + 1) rest).map fun parameters => ⟨Bytes.toLower type, parameters⟩

/-- The value of the first parameter of that name. -/
def parameter? (d : ContentDisposition) (name : Bytes) : Option Bytes :=
  (d.parameters.find? (·.1 == name)).map (·.2)

/-- Bytes that stand for themselves inside quotes. -/
def IsPlain (b : UInt8) : Prop := b ≠ 0x22 ∧ b ≠ 0x5C

instance (b : UInt8) : Decidable (IsPlain b) := inferInstanceAs (Decidable (_ ∧ _))

variable {bs text value rest : Bytes}

/-! ### Text in quotes -/

theorem quoted?_quote (rest : Bytes) : quoted? (0x22 :: rest) = some ([], rest) := rfl

/-- A backslash escapes the byte behind it. -/
theorem quoted?_escape (b : UInt8) (rest : Bytes) :
    quoted? (0x5C :: b :: rest) = (quoted? rest).map fun r => (b :: r.1, r.2) := rfl

theorem quoted?_cons {b : UInt8} (h : IsPlain b) (rest : Bytes) :
    quoted? (b :: rest) = (quoted? rest).map fun r => (b :: r.1, r.2) :=
  quoted?.eq_4 b rest h.1 fun _ _ hb => absurd hb h.2

/-- Text without quotes and backslashes is read as it is. -/
theorem quoted?_append (h : ∀ b ∈ text, IsPlain b) (rest : Bytes) :
    quoted? (text ++ rest) = (quoted? rest).map fun r => (text ++ r.1, r.2) := by
  induction text with
  | nil => simp
  | cons b text ih =>
    obtain ⟨hb, htext⟩ := List.forall_mem_cons.mp h
    rw [List.cons_append, quoted?_cons hb, ih htext, Option.map_map]
    rfl

/-- A value that goes on behind a byte starts with that byte. -/
theorem exists_tail {b : UInt8}
    (h : ((quoted? bs).map fun r => (b :: r.1, r.2)) = some (value, rest)) :
    ∃ tail, value = b :: tail ∧ quoted? bs = some (tail, rest) := by
  obtain ⟨⟨tail, after⟩, hread, heq⟩ := Option.map_eq_some_iff.mp h
  cases heq
  exact ⟨tail, rfl, hread⟩

/-- More text behind the closing quote stays behind it. -/
theorem quoted?_append_right (more : Bytes) (h : quoted? bs = some (value, rest)) :
    quoted? (bs ++ more) = some (value, rest ++ more) := by
  induction bs using quoted?.induct generalizing value with
  | case1 => cases h
  | case2 text =>
    cases h
    rfl
  | case3 b text ih =>
    obtain ⟨tail, rfl, hread⟩ := exists_tail h
    rw [List.cons_append, List.cons_append, quoted?_escape, ih hread, Option.map_some]
  | case4 b text hquote hescape ih =>
    rw [quoted?.eq_4 b text hquote hescape] at h
    obtain ⟨tail, rfl, hread⟩ := exists_tail h
    have hplain : b ≠ 0x5C := by
      rintro rfl
      rcases text with - | ⟨c, text⟩
      · cases hread
      · exact hescape c text rfl rfl
    rw [List.cons_append, quoted?_cons ⟨hquote, hplain⟩, ih hread, Option.map_some]

/-- Without backslashes, text runs to the first quote. -/
theorem eq_of_quoted? (hplain : 0x5C ∉ bs) (h : quoted? bs = some (value, rest)) :
    bs = value ++ 0x22 :: rest ∧ 0x22 ∉ value := by
  induction bs using quoted?.induct generalizing value with
  | case1 => cases h
  | case2 text =>
    cases h
    exact ⟨rfl, List.not_mem_nil⟩
  | case3 b text ih => exact absurd List.mem_cons_self hplain
  | case4 b text hquote hescape ih =>
    rw [quoted?.eq_4 b text hquote hescape] at h
    obtain ⟨tail, rfl, hread⟩ := exists_tail h
    obtain ⟨rfl, htail⟩ := ih (fun hmem => hplain (List.mem_cons_of_mem b hmem)) hread
    exact ⟨rfl, fun hmem => (List.mem_cons.mp hmem).elim (fun heq => hquote heq.symm) htail⟩

/-- Only text without quotes and backslashes is read as it is. Behind a backslash at least one more
of them would have to stand in the value than in the text, and so on to the closing quote; `k` is
the number by which the text lags behind. -/
theorem plain_of_quoted?_replicate {k : Nat}
    (h : quoted? (text ++ 0x22 :: bs) = some (List.replicate k 0x5C ++ text, rest)) :
    k = 0 ∧ ∀ b ∈ text, IsPlain b := by
  induction text using quoted?.induct generalizing k with
  | case1 =>
    cases k with
    | zero => exact ⟨rfl, List.forall_mem_nil _⟩
    | succ k => simp [quoted?_quote, List.replicate_succ] at h
  | case2 text => simp [quoted?_quote] at h
  | case3 b text ih =>
    have hshift (more : Bytes) :
        List.replicate k 0x5C ++ 0x5C :: more = List.replicate (k + 1) 0x5C ++ more := by
      rw [List.replicate_succ', List.append_assoc, List.singleton_append]
    rw [List.cons_append, List.cons_append, quoted?_escape, hshift] at h
    obtain ⟨tail, hvalue, hread⟩ := exists_tail h
    obtain ⟨rfl, rfl⟩ := List.cons.inj hvalue
    have hlags := ih (hread.trans (congrArg (fun r => some (r, rest)) (hshift text)))
    exact absurd hlags.1 (Nat.succ_ne_zero k)
  | case4 b text hquote hescape ih =>
    have hplain : b ≠ 0x5C := by
      rintro rfl
      rcases text with - | ⟨c, text⟩
      · rw [← List.replicate_succ', List.replicate_succ] at h
        obtain ⟨tail, hvalue, -⟩ := exists_tail h
        cases (List.cons.inj hvalue).1
      · exact hescape c text rfl rfl
    rw [List.cons_append, quoted?_cons ⟨hquote, hplain⟩] at h
    obtain ⟨tail, hvalue, hread⟩ := exists_tail h
    cases k with
    | zero =>
      obtain rfl := (List.cons.inj hvalue).2
      exact ⟨rfl, List.forall_mem_cons.mpr ⟨⟨hquote, hplain⟩, (ih (k := 0) hread).2⟩⟩
    | succ k =>
      rw [List.replicate_succ] at hvalue
      exact absurd (List.cons.inj hvalue).1.symm hplain

/-- Only text without quotes and backslashes is read as it is. -/
theorem quoted?_verbatim_iff : quoted? (text ++ 0x22 :: bs) = some (text, bs) ↔
    ∀ b ∈ text, IsPlain b := by
  constructor
  · exact fun h => (plain_of_quoted?_replicate (k := 0) h).2
  · intro h
    rw [quoted?_append h, quoted?_quote, Option.map_some, List.append_nil]

/-- The characters that stand for themselves inside quotes. -/
theorem isPlain_ofString_iff {s : String} :
    (∀ b ∈ Utf8.ofString s, IsPlain b) ↔ '"' ∉ s.toList ∧ '\\' ∉ s.toList := by
  have hquote : 0x22 ∈ Utf8.ofString s ↔ '"' ∈ s.toList := Utf8.mem_ofString (by decide)
  have hescape : 0x5C ∈ Utf8.ofString s ↔ '\\' ∈ s.toList := Utf8.mem_ofString (by decide)
  rw [← hquote, ← hescape]
  constructor
  · exact fun h => ⟨fun hmem => (h _ hmem).1 rfl, fun hmem => (h _ hmem).2 rfl⟩
  · rintro ⟨hquote, hescape⟩ b hb
    exact ⟨fun heq => hquote (heq ▸ hb), fun heq => hescape (heq ▸ hb)⟩

/-! ### Texts that are put together -/

variable {name : Bytes}

theorem not_isBlank_of_isTokenChar {b : UInt8} (h : Ascii.isTokenChar b = true) :
    ¬Ascii.isBlank b = true := by
  intro hblank
  rw [Ascii.isBlank, Bool.or_eq_true, beq_iff_eq, beq_iff_eq] at hblank
  rcases hblank with rfl | rfl <;> cases h

theorem takeWhile_token (hname : ∀ b ∈ name, Ascii.isTokenChar b = true)
    (hrest : ∀ b ∈ rest.head?, Ascii.isTokenChar b = false) :
    (name ++ rest).takeWhile Ascii.isTokenChar = name := by
  rw [List.takeWhile_append_of_pos hname]
  rcases rest with - | ⟨b, rest⟩
  · rw [List.takeWhile_nil, List.append_nil]
  · rw [List.takeWhile_cons_of_neg (by simp [hrest b rfl]), List.append_nil]

/-- A token behind a space, or without one, is read as a name. -/
theorem name?_append (blanks : Bytes) (hblanks : ∀ b ∈ blanks, Ascii.isBlank b = true)
    (hne : name ≠ []) (hname : ∀ b ∈ name, Ascii.isTokenChar b = true)
    (hrest : ∀ b ∈ rest.head?, Ascii.isTokenChar b = false) :
    name? (blanks ++ (name ++ rest)) = some (name, rest) := by
  have hdrop : (blanks ++ (name ++ rest)).dropWhile Ascii.isBlank = name ++ rest := by
    rw [List.dropWhile_append_of_pos hblanks]
    obtain ⟨b, tail, rfl⟩ := List.exists_cons_of_ne_nil hne
    exact List.dropWhile_cons_of_neg (not_isBlank_of_isTokenChar (hname b List.mem_cons_self))
  rw [name?, hdrop, takeWhile_token hname hrest, if_neg (by simpa using hne), List.drop_left]

/-- A parameter behind a semicolon and a space. -/
theorem parametersFrom?_cons (hne : name ≠ []) (hname : ∀ b ∈ name, Ascii.isTokenChar b = true)
    (hstart : ∀ b ∈ text.head?, Ascii.isBlank b = false) (fuel : Nat) :
    parametersFrom? (fuel + 1) (0x3B :: 0x20 :: (name ++ 0x3D :: text)) =
      (value? text).bind fun r =>
        (parametersFrom? fuel r.2).map ((Bytes.toLower name, r.1) :: ·) := by
  have hread : name? (0x20 :: (name ++ 0x3D :: text)) = some (name, 0x3D :: text) :=
    name?_append [0x20] (List.forall_mem_singleton.mpr rfl) hne hname fun b hb => by cases hb; rfl
  have hdrop : text.dropWhile Ascii.isBlank = text := by
    rcases text with - | ⟨b, text⟩
    · rfl
    · exact List.dropWhile_cons_of_neg (by simp [hstart b rfl])
  have hassigned : assigned? (0x3D :: text) = value? text := by
    rw [assigned?, List.dropWhile_cons_of_neg (by decide)]
    simp only [hdrop]
  rw [parametersFrom?, List.dropWhile_cons_of_neg (by decide)]
  simp only [hread, hassigned, Option.bind_some]

/-- A parameter whose value stands in quotes. -/
theorem parametersFrom?_quoted (hne : name ≠ []) (hname : ∀ b ∈ name, Ascii.isTokenChar b = true)
    (text : Bytes) (fuel : Nat) :
    parametersFrom? (fuel + 1) (0x3B :: 0x20 :: (name ++ 0x3D :: 0x22 :: text)) =
      (quoted? text).bind fun r =>
        (parametersFrom? fuel r.2).map ((Bytes.toLower name, r.1) :: ·) :=
  parametersFrom?_cons hne hname (fun b hb => by cases hb; rfl) fuel

/-- A parameter whose value is a token. -/
theorem parametersFrom?_token (hne : name ≠ [])
    (hname : ∀ b ∈ name, Ascii.isTokenChar b = true) (hvalue : value ≠ [])
    (htoken : ∀ b ∈ value, Ascii.isTokenChar b = true)
    (hrest : ∀ b ∈ rest.head?, Ascii.isTokenChar b = false) (fuel : Nat) :
    parametersFrom? (fuel + 1) (0x3B :: 0x20 :: (name ++ 0x3D :: (value ++ rest))) =
      (parametersFrom? fuel rest).map ((Bytes.toLower name, value) :: ·) := by
  obtain ⟨b, tail, htail⟩ := List.exists_cons_of_ne_nil hvalue
  have hb : Ascii.isTokenChar b = true := htoken b (htail ▸ List.mem_cons_self)
  have hhead : (value ++ rest).head? = some b := by rw [htail]; rfl
  have hstart : ∀ c ∈ (value ++ rest).head?, Ascii.isBlank c = false := by
    intro c hc
    cases hhead.symm.trans hc
    simpa using not_isBlank_of_isTokenChar hb
  have hread : value? (value ++ rest) = some (value, rest) := by
    rw [value?.eq_2, takeWhile_token htoken hrest, if_neg (by simpa using hvalue), List.drop_left]
    intro more hmore
    rw [hmore] at hhead
    cases hhead
    cases hb
  rw [parametersFrom?_cons hne hname hstart, hread, Option.bind_some]

/-- A value starts with its type. -/
theorem read?_append (hne : name ≠ []) (hname : ∀ b ∈ name, Ascii.isTokenChar b = true)
    (hrest : ∀ b ∈ rest.head?, Ascii.isTokenChar b = false) :
    read? (name ++ rest) =
      (parametersFrom? (rest.length + 1) rest).map fun parameters =>
        ⟨Bytes.toLower name, parameters⟩ := by
  have hread := name?_append [] (List.forall_mem_nil _) hne hname hrest
  rw [List.nil_append] at hread
  rw [read?, hread, Option.bind_some]

/-! ### Where a parameter stands -/

/-- A text that goes on with a further parameter or ends, possibly behind blanks. -/
def Ends (bs : Bytes) : Prop := ∀ b ∈ (bs.dropWhile Ascii.isBlank).head?, b = 0x3B

/-- A parameter is spelt out in a text: its name behind a semicolon or a blank, and its value behind
the name. -/
structure IsSpelt (bs name value front spelling after : Bytes) : Prop where
  split : bs = front ++ spelling ++ after
  starts : ∃ b ∈ front.getLast?, Ascii.isBlank b = true ∨ b = 0x3B
  lower : Bytes.toLower spelling = name
  assigned : ∃ rest, assigned? after = some (value, rest) ∧ Ends rest

theorem suffix_of_quoted? (h : quoted? bs = some (value, rest)) : rest <:+ bs := by
  induction bs using quoted?.induct generalizing value with
  | case1 => cases h
  | case2 text =>
    cases h
    exact List.suffix_cons _ _
  | case3 b text ih =>
    obtain ⟨tail, -, hread⟩ := exists_tail h
    exact (ih hread).trans ((List.suffix_cons _ _).trans (List.suffix_cons _ _))
  | case4 b text hquote hescape ih =>
    rw [quoted?.eq_4 b text hquote hescape] at h
    obtain ⟨tail, -, hread⟩ := exists_tail h
    exact (ih hread).trans (List.suffix_cons _ _)

theorem suffix_of_value? (h : value? bs = some (value, rest)) : rest <:+ bs := by
  rw [value?.eq_def] at h
  split at h
  · exact (suffix_of_quoted? h).trans (List.suffix_cons _ _)
  · dsimp only at h
    split at h
    · cases h
    · cases h
      exact List.drop_suffix _ _

theorem suffix_of_assigned? (h : assigned? bs = some (value, rest)) : rest <:+ bs := by
  rw [assigned?] at h
  split at h
  · next more hmore =>
    have hafter : more <:+ bs :=
      (List.suffix_cons 0x3D more).trans (hmore ▸ List.dropWhile_suffix _)
    exact ((suffix_of_value? h).trans (List.dropWhile_suffix _)).trans hafter
  · cases h

/-- In front of a name stand blanks. -/
theorem exists_blanks (h : name? bs = some (name, rest)) :
    ∃ blanks, (∀ b ∈ blanks, Ascii.isBlank b = true) ∧ bs = blanks ++ name ++ rest := by
  rw [name?] at h
  split at h
  · cases h
  · cases h
    have hname := List.prefix_iff_eq_append.mp
      (List.takeWhile_prefix Ascii.isTokenChar (l := bs.dropWhile Ascii.isBlank))
    refine ⟨bs.takeWhile Ascii.isBlank, List.all_eq_true.mp List.all_takeWhile, ?_⟩
    rw [List.append_assoc, hname, List.takeWhile_append_dropWhile]

theorem ends_of_parametersFrom? {fuel : Nat} {ps : List (Bytes × Bytes)}
    (h : parametersFrom? fuel bs = some ps) : Ends bs := by
  cases fuel with
  | zero => cases h
  | succ fuel =>
    intro b hb
    rw [parametersFrom?] at h
    split at h
    · next hnil =>
      rw [hnil] at hb
      cases hb
    · next more hmore =>
      rw [hmore] at hb
      cases hb
      rfl
    · cases h

/-- A parameter is spelt out in a longer text as well. -/
theorem IsSpelt.of_suffix {bs whole front spelling after : Bytes}
    (h : IsSpelt bs name value front spelling after) (hsuffix : bs <:+ whole) :
    ∃ front, IsSpelt whole name value front spelling after := by
  obtain ⟨before, rfl⟩ := hsuffix
  obtain ⟨b, hlast, hb⟩ := h.starts
  refine ⟨before ++ front, ?_, ⟨b, ?_, hb⟩, h.lower, h.assigned⟩
  · rw [h.split]
    simp only [List.append_assoc]
  · rw [Option.mem_def] at hlast ⊢
    rw [List.getLast?_append, hlast, Option.some_or]

/-- A parameter is spelt out in the text that it is read from. -/
theorem exists_isSpelt_of_parametersFrom? {fuel : Nat} {ps : List (Bytes × Bytes)}
    (h : parametersFrom? fuel bs = some ps) {p : Bytes × Bytes} (hp : p ∈ ps) :
    ∃ front spelling after, IsSpelt bs p.1 p.2 front spelling after := by
  induction fuel generalizing bs ps with
  | zero => cases h
  | succ fuel ih =>
    rw [parametersFrom?] at h
    split at h
    · cases h
      cases hp
    · next more hmore =>
      obtain ⟨⟨name, rest⟩, hname, h⟩ := Option.bind_eq_some_iff.mp h
      obtain ⟨⟨value, tail⟩, hvalue, h⟩ := Option.bind_eq_some_iff.mp h
      obtain ⟨others, hothers, rfl⟩ := Option.map_eq_some_iff.mp h
      obtain ⟨blanks, hblanks, rfl⟩ := exists_blanks hname
      have hsuffix : 0x3B :: (blanks ++ name ++ rest) <:+ bs := hmore ▸ List.dropWhile_suffix _
      rcases List.mem_cons.mp hp with rfl | hp
      · have hspelt : IsSpelt (0x3B :: (blanks ++ name ++ rest)) (Bytes.toLower name) value
            (0x3B :: blanks) name rest := by
          refine ⟨rfl, ?_, rfl, tail, hvalue, ends_of_parametersFrom? hothers⟩
          rcases List.eq_nil_or_concat' blanks with rfl | ⟨front, b, rfl⟩
          · exact ⟨0x3B, rfl, .inr rfl⟩
          · refine ⟨b, ?_, .inl (hblanks b (by simp))⟩
            rw [Option.mem_def, ← List.cons_append, List.getLast?_concat]
        obtain ⟨front, hwhole⟩ := hspelt.of_suffix hsuffix
        exact ⟨front, name, rest, hwhole⟩
      · obtain ⟨front, spelling, after, hspelt⟩ := ih hothers hp
        have htail : tail <:+ 0x3B :: (blanks ++ name ++ rest) :=
          (suffix_of_assigned? hvalue).trans
            ((List.suffix_append _ _).trans (List.suffix_cons _ _))
        obtain ⟨front, hwhole⟩ := hspelt.of_suffix (htail.trans hsuffix)
        exact ⟨front, spelling, after, hwhole⟩
    · cases h

/-- A parameter is spelt out in the text that it is read from. -/
theorem exists_isSpelt {d : ContentDisposition} (h : read? bs = some d)
    (hvalue : d.parameter? name = some value) :
    ∃ front spelling after, IsSpelt bs name value front spelling after := by
  obtain ⟨⟨type, rest⟩, htype, h⟩ := Option.bind_eq_some_iff.mp h
  obtain ⟨ps, hps, rfl⟩ := Option.map_eq_some_iff.mp h
  obtain ⟨p, hp, rfl⟩ := Option.map_eq_some_iff.mp hvalue
  have hname : p.1 = name := by simpa using List.find?_some hp
  obtain ⟨blanks, -, rfl⟩ := exists_blanks htype
  obtain ⟨front, spelling, after, hspelt⟩ :=
    exists_isSpelt_of_parametersFrom? hps (List.mem_of_find?_eq_some hp)
  obtain ⟨front, hwhole⟩ := hspelt.of_suffix (List.suffix_append _ _)
  exact ⟨front, spelling, after, hname ▸ hwhole⟩

end ContentDisposition

end StorageGateway
