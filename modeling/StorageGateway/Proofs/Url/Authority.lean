import StorageGateway.Proofs.Url.Host

/-!
# Authorities of the web are read again

What is read as the authority of a URL of the web is in a form of its own: user name and password
hold only bytes that are kept, the host has the form of hosts, and the port is not the default one.
An authority in this form is read back from its text if its host is, whatever it was read from.

## Main definitions

* `Url.IsKept`: texts that encoding leaves alone.
* `Url.Authority.IsWeb`: the form of what is read.

## Main results

* `Url.isWeb_of_authorityOf`: what is read has this form.
* `Url.authorityOf_render`: what the text of an authority of this form is read as.
-/

namespace StorageGateway.Url

/-! ### Texts that encoding leaves alone -/

/-- Texts of ASCII characters that are kept. -/
def IsKept (keep : UInt8 → Bool) (s : String) : Prop :=
  ∀ c ∈ s.toList, c.toNat < 0x80 ∧ keep (UInt8.ofNat c.toNat) = true

/-- An encoded text is kept, as long as escapes are. -/
theorem isKept_encodeText {keep : UInt8 → Bool} (hascii : ∀ b, keep b → b.toNat < 0x80)
    (hescape : ∀ c ∈ "%0123456789ABCDEF".toList, keep (UInt8.ofNat c.toNat) = true) (bs : Bytes) :
    IsKept keep (encodeText keep bs) := by
  have hdigits : ∀ c ∈ "%0123456789ABCDEF".toList, c.toNat < 0x80 :=
    forall_mem_of_all (by decide)
  rw [IsKept, encodeText, String.toList_ofList]
  refine Percent.forall_mem_encode (fun b hb => ?_) (fun c hc => ⟨hdigits c hc, hescape c hc⟩) bs
  rw [Bytes.ofNat_toNat_ofNat, Bytes.toNat_ofNat_toNat]
  exact ⟨hascii b hb, hb⟩

theorem IsKept.isAscii {keep : UInt8 → Bool} {s : String} (h : IsKept keep s) :
    Utf8.IsAscii s.toList := fun c hc => (h c hc).1

/-- The bytes of a kept text are kept. -/
theorem IsKept.keep_of_mem {keep : UInt8 → Bool} {s : String} (h : IsKept keep s) :
    ∀ b ∈ Utf8.ofString s, keep b = true := by
  intro b hb
  rw [h.isAscii.ofString_eq, Bytes.ofAscii] at hb
  obtain ⟨c, hc, rfl⟩ := List.mem_map.mp hb
  exact (h c hc).2

theorem encode_of_forall {keep : UInt8 → Bool} {bs : Bytes} (h : ∀ b ∈ bs, keep b = true) :
    Percent.encode keep bs = bs.map fun b => Char.ofNat b.toNat := by
  induction bs with
  | nil => rfl
  | cons b bs ih =>
    rw [Percent.encode, List.flatMap_cons, if_pos (h b List.mem_cons_self), ← Percent.encode,
      ih fun c hc => h c (List.mem_cons_of_mem b hc)]
    rfl

/-- Encoding leaves a kept text alone. -/
theorem IsKept.encodeText_eq {keep : UInt8 → Bool} {s : String} (h : IsKept keep s) :
    encodeText keep (Utf8.ofString s) = s := by
  rw [encodeText, encode_of_forall h.keep_of_mem, h.isAscii.ofString_eq, ← Bytes.toAscii,
    Bytes.toAscii_ofAscii fun c hc => Nat.lt_of_lt_of_le (h c hc).1 (by decide)]

theorem keptInUser_ascii : ∀ b, keptInUser b → b.toNat < 0x80 := by
  intro b hb
  simp only [keptInUser, keptInPath, keptInFragment, Ascii.isGraphic, Bool.and_eq_true,
    decide_eq_true_eq] at hb
  have hle : b.toNat ≤ 0x7E := hb.1.1.1.2
  omega

theorem isKept_user (bs : Bytes) : IsKept keptInUser (encodeText keptInUser bs) :=
  isKept_encodeText keptInUser_ascii (forall_mem_of_all (by decide)) bs

/-! ### Cutting at a mark -/

/-- Text before the mark does not take part in the cut. -/
theorem cutAt_append {mark : UInt8} {bs : Bytes} (h : mark ∉ bs) (rest : Bytes) :
    cutAt mark (bs ++ rest) = (bs ++ (cutAt mark rest).1, (cutAt mark rest).2) := by
  have hne : ∀ b ∈ bs, (b != mark) = true := fun b hb => by
    rw [bne_iff_ne]
    exact fun heq => h (heq ▸ hb)
  rw [cutAt, cutAt, List.dropWhile_append_of_pos hne, List.takeWhile_append_of_pos hne]
  split <;> rfl

theorem cutAt_append_cons {mark : UInt8} {bs : Bytes} (h : mark ∉ bs) (rest : Bytes) :
    cutAt mark (bs ++ mark :: rest) = (bs, some rest) := by
  rw [cutAt_append h]
  simp [cutAt]

theorem cutAt_of_notMem {mark : UInt8} {bs : Bytes} (h : mark ∉ bs) :
    cutAt mark bs = (bs, none) := by
  have hcut := cutAt_append h []
  rwa [List.append_nil, show cutAt mark [] = ([], none) from rfl, List.append_nil] at hcut

theorem cutAtLast_of_notMem {mark : UInt8} {bs : Bytes} (h : mark ∉ bs) :
    cutAtLast mark bs = (none, bs) := by
  rw [cutAtLast, cutAt_of_notMem (by rwa [List.mem_reverse])]

theorem cutAtLast_append_cons {mark : UInt8} {rest : Bytes} (h : mark ∉ rest) (bs : Bytes) :
    cutAtLast mark (bs ++ mark :: rest) = (some bs, rest) := by
  have hreverse : (bs ++ mark :: rest).reverse = rest.reverse ++ mark :: bs.reverse := by simp
  rw [cutAtLast, hreverse, cutAt_append_cons (by rwa [List.mem_reverse])]
  simp

/-! ### Ports -/

/-- The text of a port is read back. -/
theorem port?_toString {default : Option Nat} {port : Nat} (hrange : port ≤ 65535)
    (hdefault : some port ≠ default) :
    port? default (Utf8.ofString (toString port)) = .ok (some port, []) := by
  have htake : (Utf8.ofString (toString port)).takeWhile Ascii.isDigit =
      Utf8.ofString (toString port) := by
    have happend : (Utf8.ofString (toString port) ++ []).takeWhile Ascii.isDigit =
        Utf8.ofString (toString port) ++ [].takeWhile Ascii.isDigit :=
      List.takeWhile_append_of_pos fun _ => Decimal.isDigit_of_mem_toString
    rwa [List.append_nil, List.takeWhile_nil, List.append_nil] at happend
  have hempty : (Utf8.ofString (toString port)).isEmpty = false := by
    rw [Decimal.ofString_toString, List.isEmpty_map]
    exact List.isEmpty_eq_false_iff.mpr Nat.toDigits_ne_nil
  simp only [port?, htake, Decimal.foldl_toString, List.drop_length, hempty]
  rw [if_neg (by simpa using hrange), if_neg (by simpa using hdefault)]

/-! ### Authorities -/

/-- Authorities as they are read in URLs of the web with a default port. -/
structure Authority.IsWeb (default : Nat) (a : Authority) : Prop where
  username : IsKept keptInUser a.username
  password : ∀ p ∈ a.password, p ≠ "" ∧ IsKept keptInUser p
  host : a.host.IsWeb
  port : ∀ n ∈ a.port, n ≤ 65535 ∧ n ≠ default

theorem credentials_isKept (bs : Bytes) :
    IsKept keptInUser (credentials bs).1 ∧
      ∀ p ∈ (credentials bs).2, p ≠ "" ∧ IsKept keptInUser p := by
  rw [credentials]
  split
  · next name password _ =>
    refine ⟨isKept_user name, fun p hp => ?_⟩
    dsimp only at hp
    split at hp
    · cases hp
    · next hne =>
      cases hp
      refine ⟨fun hempty => hne ?_, isKept_user password⟩
      rw [← String.toList_inj, encodeText, String.toList_ofList, String.toList_empty,
        Percent.encode_eq_nil] at hempty
      rw [hempty, List.isEmpty_nil]
  · next name _ => exact ⟨isKept_user name, fun p hp => by cases hp⟩

/-- The first step of a computation that succeeds. -/
theorem ok_of_bind {ε α β : Type} {x : Except ε α} {f : α → Except ε β} {b : β}
    (h : (x >>= f) = .ok b) : ∃ a, x = .ok a ∧ f a = .ok b := by
  cases x with
  | error e => cases h
  | ok a => exact ⟨a, rfl, h⟩

theorem hostOf_web (port : Nat) (bs : Bytes) :
    hostOf (.web port) bs = if bs.isEmpty then .error .emptyHost else specialHost bs := rfl

theorem isWeb_of_hostOf {port : Nat} {bs : Bytes} {h : Host}
    (hread : hostOf (.web port) bs = .ok h) : h.IsWeb := by
  rw [hostOf_web] at hread
  split at hread
  · cases hread
  · exact isWeb_of_specialHost hread

theorem range_of_port? {default : Option Nat} {bs rest : Bytes} {p : Option Nat}
    (h : port? default bs = .ok (p, rest)) : ∀ n ∈ p, n ≤ 65535 ∧ some n ≠ default := by
  simp only [port?] at h
  split at h
  · cases h
  next hrange =>
    rw [not_or, Nat.not_lt] at hrange
    obtain ⟨rfl, -⟩ := Prod.mk.inj (Except.ok.inj h)
    intro n hn
    split at hn
    · cases hn
    next hdefault =>
      cases hn
      exact ⟨hrange.1, fun heq => hdefault (.inr heq)⟩

theorem isWeb_of_hostAndPort {port : Nat} {bs rest : Bytes} {h : Host} {p : Option Nat}
    (hread : hostAndPort (.web port) bs = .ok (h, p, rest)) :
    h.IsWeb ∧ ∀ n ∈ p, n ≤ 65535 ∧ n ≠ port := by
  rw [hostAndPort] at hread
  obtain ⟨h', hhost, hread⟩ := ok_of_bind hread
  have hweb := isWeb_of_hostOf hhost
  split at hread
  · cases hread
    exact ⟨hweb, fun n hn => by cases hn⟩
  · split at hread
    · cases hread
    · obtain ⟨⟨p', rest'⟩, hport, hread⟩ := ok_of_bind hread
      cases hread
      refine ⟨hweb, fun n hn => ?_⟩
      obtain ⟨hrange, hdefault⟩ := range_of_port? hport n hn
      exact ⟨hrange, fun heq => hdefault (congrArg some heq)⟩

/-- What is read as the authority of a URL of the web. -/
theorem isWeb_of_authorityOf {port : Nat} {isAll : Bool} {bs rest : Bytes} {a : Authority}
    (h : authorityOf (.web port) isAll bs = .ok (a, rest)) : a.IsWeb port := by
  rw [authorityOf] at h
  generalize cutAtLast 0x40 bs = cut at h
  obtain ⟨user, bs'⟩ := cut
  have huser : IsKept keptInUser ((user.map credentials).getD ("", none)).1 ∧
      ∀ p ∈ ((user.map credentials).getD ("", none)).2, p ≠ "" ∧ IsKept keptInUser p := by
    cases user with
    | none => exact ⟨fun c hc => absurd hc (by simp), fun p hp => by cases hp⟩
    | some user => exact credentials_isKept user
  dsimp only at h
  split at h
  · cases h
  · obtain ⟨⟨h', p', rest'⟩, hhost, h⟩ := ok_of_bind h
    obtain ⟨hweb, hport⟩ := isWeb_of_hostAndPort hhost
    dsimp only at h
    split at h
    · cases h
    · cases h
      exact ⟨huser.1, huser.2, hweb, hport⟩

/-! ### Reading an authority again -/

/-- The text of a port with its colon. -/
def portText : Option Nat → String
  | some port => ":" ++ toString port
  | none => ""

theorem ofString_portText (port : Nat) :
    Utf8.ofString (portText (some port)) = 0x3A :: Utf8.ofString (toString port) := by
  have hcolon : Utf8.ofString ":" = [0x3A] := by decide
  rw [portText, Utf8.ofString_append, hcolon, List.singleton_append]

/-- A host and a port are read from their text if the host can be read again. -/
theorem hostAndPort_render {default : Nat} {h : Host} {p : Option Nat} (hweb : h.IsWeb)
    (hport : ∀ n ∈ p, n ≤ 65535 ∧ n ≠ default) :
    hostAndPort (.web default) (Utf8.ofString h.render ++ Utf8.ofString (portText p)) =
      h.reread.map fun h => (h, p, []) := by
  have hempty : (Utf8.ofString h.render).isEmpty = false := by
    rw [List.isEmpty_eq_false_iff]
    exact fun hnil => hweb.render_ne_empty (Utf8.ofString_eq_nil.mp hnil)
  have hhost : hostOf (.web default) (Utf8.ofString h.render) = h.reread := by
    rw [hostOf_web, hempty, if_neg Bool.false_ne_true, specialHost_render hweb]
  have hname : h ≠ .domain "" := by
    rintro rfl
    exact hweb.2.1 rfl
  have hend : hostPart false (Utf8.ofString (portText p)) = [] := by
    cases p with
    | none => rfl
    | some port => rw [ofString_portText, hostPart, if_pos (by decide)]
  rw [hostAndPort, hostPart_render hweb, hend, List.append_nil, hhost, Host.reread]
  simp only [List.drop_left]
  split
  · cases p with
    | none => rfl
    | some port =>
      obtain ⟨hrange, hne⟩ := hport port rfl
      have hne' : some port ≠ SchemeKind.defaultPort? (.web default) := fun heq =>
        hne (Option.some.inj heq)
      simp only [ofString_portText, bind, Except.bind, if_neg hname, port?_toString hrange hne']
      rfl
  · rfl

/-- Characters that do not end an authority and are not dropped from a URL. -/
def IsInside (c : Char) : Prop := 0x20 < c.toNat ∧ c.toNat < 0x80 ∧ c ∉ "#/?\\".toList

theorem isInside_of_keptInUser {c : Char} (hascii : c.toNat < 0x80)
    (hkept : keptInUser (UInt8.ofNat c.toNat) = true) : IsInside c ∧ c ≠ '@' ∧ c ≠ ':' := by
  have hall : ∀ n < 0x80, keptInUser (UInt8.ofNat n) = true →
      0x20 < n ∧ Char.ofNat n ∉ "#/?\\".toList ∧ Char.ofNat n ≠ '@' ∧ Char.ofNat n ≠ ':' := by
    decide +kernel
  obtain ⟨hlow, hmark, hat, hcolon⟩ := hall c.toNat hascii hkept
  rw [Char.ofNat_toNat] at hmark hat hcolon
  exact ⟨⟨hlow, hascii, hmark⟩, hat, hcolon⟩

theorem isInside_of_isNameChar {c : Char} (h : Domain.IsNameChar c) :
    IsInside c ∧ c ≠ '@' := by
  have hall : ∀ n < 0x80, Domain.isDenied (Char.ofNat n) = false →
      0x20 < n ∧ Char.ofNat n ∉ "#/?\\".toList ∧ Char.ofNat n ≠ '@' := by
    decide +kernel
  have hdenied := h.2
  rw [← Char.ofNat_toNat c] at hdenied
  obtain ⟨hlow, hmark, hat⟩ := hall c.toNat h.1 hdenied
  rw [Char.ofNat_toNat] at hmark hat
  exact ⟨⟨hlow, h.1, hmark⟩, hat⟩

theorem isInside_of_isHostChar {c : Char} (h : IsHostChar c) : IsInside c ∧ c ≠ '@' := by
  have hmarks : ∀ c ∈ ['[', ']', ':'], (0x20 < c.toNat ∧ c.toNat < 0x80 ∧ c ∉ "#/?\\".toList) ∧
      c ≠ '@' := forall_mem_of_all (by decide)
  rcases h with h | h | h | h
  · exact isInside_of_isNameChar h
  all_goals exact hmarks c (by simp [h])

theorem isInside_of_mem_hostText {h : Host} {p : Option Nat} (hweb : h.IsWeb) :
    ∀ c ∈ (h.render ++ portText p).toList, IsInside c ∧ c ≠ '@' := by
  intro c hc
  rw [String.toList_append, List.mem_append] at hc
  rcases hc with hc | hc
  · exact isInside_of_isHostChar (hweb.isHostChar c hc)
  · cases p with
    | none => exact absurd hc (by simp [portText])
    | some port =>
      rw [portText, String.toList_append, List.mem_append] at hc
      rcases hc with hc | hc
      · exact isInside_of_isHostChar (.inr (.inr (.inr (List.mem_singleton.mp hc))))
      · rw [Nat.toString_eq_repr, Nat.toList_repr] at hc
        exact isInside_of_isNameChar (isNameChar_of_mem_hexChars
          (mem_toDigits (by decide) (by decide) port c hc))

theorem Authority.render_eq (a : Authority) :
    a.render = a.renderUser ++ (a.host.render ++ portText a.port) := by
  obtain ⟨username, password, h, port⟩ := a
  cases port with
  | none => exact String.append_assoc ..
  | some port => exact String.append_assoc ..

theorem Authority.IsWeb.isInside {default : Nat} {a : Authority} (h : a.IsWeb default) :
    ∀ c ∈ a.render.toList, IsInside c := by
  have hkept {s : String} (hs : IsKept keptInUser s) : ∀ c ∈ s.toList, IsInside c :=
    fun c hc => (isInside_of_keptInUser (hs c hc).1 (hs c hc).2).1
  have hcolon : ∀ c ∈ ":".toList, 0x20 < c.toNat ∧ c.toNat < 0x80 ∧ c ∉ "#/?\\".toList :=
    forall_mem_of_all (by decide)
  have hat : ∀ c ∈ "@".toList, 0x20 < c.toNat ∧ c.toNat < 0x80 ∧ c ∉ "#/?\\".toList :=
    forall_mem_of_all (by decide)
  intro c hc
  rw [Authority.render_eq, String.toList_append, List.mem_append] at hc
  rcases hc with hc | hc
  · rw [Authority.renderUser] at hc
    split at hc
    · next password hpassword =>
      simp only [String.toList_append, List.mem_append] at hc
      rcases hc with ((hc | hc) | hc) | hc
      · exact hkept h.username c hc
      · exact hcolon c hc
      · exact hkept (h.password password hpassword).2 c hc
      · exact hat c hc
    · split at hc
      · exact absurd hc (by simp)
      · rw [String.toList_append, List.mem_append] at hc
        rcases hc with hc | hc
        · exact hkept h.username c hc
        · exact hat c hc
  · exact (isInside_of_mem_hostText h.host c hc).1

/-- The text before a host, without the sign that ends it. -/
def userText (a : Authority) : Option String :=
  match a.password with
  | some password => some (a.username ++ ":" ++ password)
  | none => if a.username.isEmpty then none else some a.username

theorem renderUser_eq (a : Authority) : a.renderUser = ((userText a).map (· ++ "@")).getD "" := by
  obtain ⟨username, password, h, port⟩ := a
  cases password with
  | some password => rfl
  | none =>
    simp only [Authority.renderUser, userText]
    split <;> rfl

/-- User name and password are read back. -/
theorem credentials_userText {default : Nat} {a : Authority} (h : a.IsWeb default) :
    ((userText a).map fun user => credentials (Utf8.ofString user)).getD ("", none) =
      (a.username, a.password) := by
  have hcolon : Utf8.ofString ":" = [0x3A] := by decide
  have hmark : (0x3A : UInt8) ∉ Utf8.ofString a.username := by
    intro hmem
    have hchar := (Utf8.mem_ofString (by decide)).mp hmem
    exact (isInside_of_keptInUser (h.username _ hchar).1 (h.username _ hchar).2).2.2 rfl
  rw [userText]
  split
  · next password hpassword =>
    obtain ⟨hne, hkept⟩ := h.password password hpassword
    have hempty : (Utf8.ofString password).isEmpty = false := by
      rw [List.isEmpty_eq_false_iff]
      exact fun hnil => hne (Utf8.ofString_eq_nil.mp hnil)
    rw [Option.map_some, Option.getD_some, Utf8.ofString_append, Utf8.ofString_append, hcolon,
      List.append_assoc, List.singleton_append, credentials, cutAt_append_cons hmark]
    simp only [h.username.encodeText_eq, hkept.encodeText_eq, hempty, hpassword]
    rfl
  · next hpassword =>
    split
    · next hempty =>
      rw [hpassword, String.isEmpty_iff.mp hempty]
      rfl
    · rw [Option.map_some, Option.getD_some, credentials, cutAt_of_notMem hmark]
      simp only [h.username.encodeText_eq, hpassword]

/-- An authority is read from its text if its host can be read again. -/
theorem authorityOf_render {default : Nat} {a : Authority} (h : a.IsWeb default) (isAll : Bool) :
    authorityOf (.web default) isAll (Utf8.ofString a.render) =
      a.host.reread.map fun _ => (a, []) := by
  have hat : Utf8.ofString "@" = [0x40] := by decide
  have hmark : (0x40 : UInt8) ∉ Utf8.ofString (a.host.render ++ portText a.port) := by
    intro hmem
    exact (isInside_of_mem_hostText h.host _ ((Utf8.mem_ofString (by decide)).mp hmem)).2 rfl
  have hhost := hostAndPort_render h.host h.port
  rw [← Utf8.ofString_append] at hhost
  have hne : (Utf8.ofString (a.host.render ++ portText a.port)).isEmpty = false := by
    rw [List.isEmpty_eq_false_iff, Utf8.ofString_append]
    exact List.append_ne_nil_of_left_ne_nil
      (fun hnil => h.host.render_ne_empty (Utf8.ofString_eq_nil.mp hnil)) _
  have hcut : cutAtLast 0x40 (Utf8.ofString a.render) =
      ((userText a).map Utf8.ofString, Utf8.ofString (a.host.render ++ portText a.port)) := by
    rw [Authority.render_eq, renderUser_eq]
    cases userText a with
    | none =>
      rw [Option.map_none, Option.getD_none, String.empty_append, cutAtLast_of_notMem hmark]
      rfl
    | some user =>
      rw [Option.map_some, Option.getD_some, Utf8.ofString_append, Utf8.ofString_append, hat,
        List.append_assoc, List.singleton_append, cutAtLast_append_cons hmark]
      rfl
  have hname : a.host ≠ .domain "" := by
    intro hempty
    have hweb := h.host
    rw [hempty] at hweb
    exact hweb.2.1 rfl
  have huser := credentials_userText h
  rw [authorityOf, hcut]
  simp only [hne, Option.map_map, Function.comp_def, huser, hhost, Host.reread, Bool.false_eq_true,
    false_and, and_false, if_false]
  split
  · simp only [bind, Except.bind, Except.map, hname, false_and, if_false]
    rfl
  · rfl

end StorageGateway.Url
