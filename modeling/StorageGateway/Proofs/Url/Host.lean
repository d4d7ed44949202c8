import StorageGateway.Proofs.Url.Address
import StorageGateway.Url.Parser

/-!
# Hosts of the web are read again

What is read as the host of a URL of the web has one of three forms: a name in ASCII form that does
not end in a number, or an address in range. Its text is read as the same host, except for a name
with an encoded label that is too long to be decoded. The text ends where a port begins, because
colons occur in it only between brackets.

## Main definitions

* `Url.Host.IsWeb`: the form of what is read.
* `Url.Host.isReadable`: whether a host is read from its text.

## Main results

* `Url.isWeb_of_specialHost`: what is read has this form.
* `Url.specialHost_render`: what the text of a host of this form is read as.
* `Url.hostPart_render`: the end of its text is found.
-/

namespace StorageGateway.Url

/-! ### Hosts -/

/-- Hosts as they are read in URLs of the web. -/
def Host.IsWeb : Host → Prop
  | .domain name => Domain.IsName name.toList ∧ name ≠ "" ∧ endsInNumber name.toList = false
  | .ipv4 address => address < 4294967296
  | .ipv6 groups => groups.length = 8 ∧ ∀ g ∈ groups, g < 65536

/-- Whether a host is read from its text: no label of its name is too long to be decoded. -/
def Host.isReadable : Host → Bool
  | .domain name => Domain.isReadable name.toList
  | _ => true

/-- What is read from the text of a host. -/
def Host.reread (h : Host) : Except Refusal Host :=
  if h.isReadable then .ok h else .error .badName

theorem isWeb_of_bracketHost {bs : Bytes} {h : Host} (hread : bracketHost bs = .ok h) :
    h.IsWeb := by
  rw [bracketHost] at hread
  split at hread
  · split at hread
    · next groups hgroups =>
      cases hread
      exact groups_of_ipv6? hgroups
    · cases hread
  · cases hread

theorem isWeb_of_specialHost {bs : Bytes} {h : Host} (hread : specialHost bs = .ok h) :
    h.IsWeb := by
  rw [specialHost.eq_def] at hread
  split at hread
  · exact isWeb_of_bracketHost hread
  · split at hread
    · cases hread
    · cases hread
    · next name hne hname =>
      split at hread
      · split at hread
        · next address haddress =>
          cases hread
          exact lt_of_ipv4? haddress
        · cases hread
      · next hnumber =>
        cases hread
        refine ⟨Domain.isName_of_toAscii? hname, ?_, by simpa using hnumber⟩
        rintro rfl
        exact hne rfl

/-- The characters of a host. -/
def IsHostChar (c : Char) : Prop := Domain.IsNameChar c ∨ c = '[' ∨ c = ']' ∨ c = ':'

theorem isNameChar_of_mem_hexChars {c : Char} (h : c ∈ hexChars) : Domain.IsNameChar c := by
  have hall : ∀ c ∈ hexChars, c.toNat < 0x80 ∧ Domain.isDenied c = false :=
    forall_mem_of_all (by decide)
  exact hall c h

theorem isName_renderIpv4 (address : Nat) : Domain.IsName (renderIpv4 address).toList :=
  ⟨_, convert?_renderIpv4 address⟩

theorem isReadable_renderIpv4 (address : Nat) :
    Domain.isReadable (renderIpv4 address).toList = true := by
  by_contra hlong
  have hread := convert?_renderIpv4 address
  rw [Domain.convert?_of_convert? hread, if_neg hlong] at hread
  cases hread

/-- The characters of a host that is read in a URL of the web. -/
theorem Host.IsWeb.isHostChar {h : Host} (hweb : h.IsWeb) :
    ∀ c ∈ h.render.toList, IsHostChar c := by
  cases h with
  | domain name => exact fun c hc => .inl (hweb.1.isNameChar c hc)
  | ipv4 address => exact fun c hc => .inl ((isName_renderIpv4 address).isNameChar c hc)
  | ipv6 groups =>
    intro c hc
    rw [Host.render, String.toList_append, String.toList_append, List.mem_append,
      List.mem_append] at hc
    rcases hc with (hc | hc) | hc
    · exact .inr (.inl (List.mem_singleton.mp hc))
    · rcases List.mem_cons.mp (mem_renderIpv6 c hc) with rfl | hhex
      · exact .inr (.inr (.inr rfl))
      · exact .inl (isNameChar_of_mem_hexChars hhex)
    · exact .inr (.inr (.inl (List.mem_singleton.mp hc)))

/-- The host that a name in ASCII form stands for. -/
theorem specialHost_name {name : String} (h : Domain.IsName name.toList) (hne : name ≠ "") :
    specialHost (Utf8.ofString name) =
      if Domain.isReadable name.toList then
        if endsInNumber name.toList then
          match ipv4? name.toList with
          | some address => .ok (.ipv4 address)
          | none => .error .badIpv4
        else .ok (.domain name)
      else .error .badName := by
  have hbracket (rest : Bytes) : Utf8.ofString name ≠ 0x5B :: rest := by
    intro hstart
    have hmem : '[' ∈ name.toList := by
      have hmem : (0x5B : UInt8) ∈ Utf8.ofString name := hstart ▸ List.mem_cons_self
      exact (Utf8.mem_ofString (by decide)).mp hmem
    exact absurd (h.isNameChar '[' hmem).2 (by decide)
  rw [specialHost.eq_def]
  split
  · next rest hstart => exact absurd hstart (hbracket rest)
  · rw [Domain.toAscii?_ofString h]
    by_cases hread : Domain.isReadable name.toList = true
    · rw [if_pos hread, if_pos hread]
      split
      · next hnone => cases hnone
      · next hempty => exact absurd (Option.some.inj hempty) hne
      · next hname =>
        cases hname
        rfl
    · rw [if_neg hread, if_neg hread]

theorem specialHost_renderIpv6 {groups : List Nat} (hlength : groups.length = 8)
    (hgroups : ∀ g ∈ groups, g < 65536) :
    specialHost (Utf8.ofString (Host.ipv6 groups).render) = .ok (.ipv6 groups) := by
  have hascii : Utf8.IsAscii (renderIpv6 groups).toList := by
    have hall : ∀ c ∈ ':' :: hexChars, c.toNat < 0x80 := forall_mem_of_all (by decide)
    exact fun c hc => hall c (mem_renderIpv6 c hc)
  have hback : (Utf8.ofString (renderIpv6 groups)).map (fun b => Char.ofNat b.toNat) =
      (renderIpv6 groups).toList := by
    have htext := Bytes.toAscii_ofAscii (s := renderIpv6 groups) fun c hc =>
      Nat.lt_of_lt_of_le (hascii c hc) (by decide)
    rw [hascii.ofString_eq, ← String.toList_ofList (l := List.map _ _)]
    exact congrArg String.toList htext
  have hopen : Utf8.ofString "[" = [0x5B] := by decide
  have hclose : Utf8.ofString "]" = [0x5D] := by decide
  rw [Host.render, Utf8.ofString_append, Utf8.ofString_append, hopen, hclose, List.append_assoc,
    List.singleton_append, specialHost, bracketHost]
  simp only [List.reverse_append, List.reverse_singleton, List.singleton_append,
    List.reverse_reverse, hback, ipv6?_render hlength hgroups]

theorem Host.IsWeb.render_ne_empty {h : Host} (hweb : h.IsWeb) : h.render ≠ "" := by
  cases h with
  | domain name => exact hweb.2.1
  | ipv4 address =>
    intro hempty
    have hnumber := endsInNumber_renderIpv4 address
    rw [show renderIpv4 address = "" from hempty] at hnumber
    cases hnumber
  | ipv6 groups =>
    intro hempty
    have hlist := congrArg String.toList hempty
    simp [Host.render] at hlist

/-- The host of a URL of the web is read from its text if it can be read again. -/
theorem specialHost_render {h : Host} (hweb : h.IsWeb) :
    specialHost (Utf8.ofString h.render) = h.reread := by
  cases h with
  | domain name =>
    obtain ⟨hname, hne, hnumber⟩ := hweb
    rw [Host.render, specialHost_name hname hne, hnumber, if_neg Bool.false_ne_true]
    rfl
  | ipv4 address =>
    have hnumber := endsInNumber_renderIpv4 address
    have hne : renderIpv4 address ≠ "" := Host.IsWeb.render_ne_empty (h := .ipv4 address) hweb
    rw [Host.render, specialHost_name (isName_renderIpv4 address) hne,
      if_pos (isReadable_renderIpv4 address), if_pos hnumber, ipv4?_render hweb]
    rfl
  | ipv6 groups => exact specialHost_renderIpv6 hweb.1 hweb.2

/-! ### Hosts in front of a port -/

theorem hostPart_append {bs : Bytes} (h : 0x3A ∉ bs ∧ 0x5B ∉ bs) (rest : Bytes) :
    hostPart false (bs ++ rest) = bs ++ hostPart false rest := by
  induction bs with
  | nil => rfl
  | cons b bs ih =>
    simp only [List.mem_cons, not_or] at h
    have hcolon : ¬(b = 0x3A ∧ (!false) = true) := fun hb => h.1.1 hb.1.symm
    have hopen : (b == 0x5B) = false := beq_false_of_ne (Ne.symm h.2.1)
    rw [List.cons_append, hostPart, if_neg hcolon, hopen]
    exact congrArg _ (ih ⟨h.1.2, h.2.2⟩)

/-- A colon between brackets does not end the host. -/
theorem hostPart_inside {bs : Bytes} (h : 0x5D ∉ bs) (rest : Bytes) :
    hostPart true (bs ++ 0x5D :: rest) = bs ++ 0x5D :: hostPart false rest := by
  induction bs with
  | nil => rfl
  | cons b bs ih =>
    rw [List.mem_cons, not_or] at h
    have hclose : (b != 0x5D) = true := bne_iff_ne.mpr (Ne.symm h.1)
    rw [List.cons_append, hostPart, if_neg (by simp), hclose]
    simp only [Bool.true_and, Bool.or_true]
    exact congrArg _ (ih h.2)

theorem notMem_of_isNameChar {s : String} (h : ∀ c ∈ s.toList, Domain.IsNameChar c) {b : UInt8}
    (hb : b.toNat < 0x80) (hdenied : Domain.isDenied (Char.ofNat b.toNat) = true) :
    b ∉ Utf8.ofString s := by
  intro hmem
  rw [(h _ ((Utf8.mem_ofString hb).mp hmem)).2] at hdenied
  cases hdenied

theorem hostPart_render {h : Host} (hweb : h.IsWeb) (rest : Bytes) :
    hostPart false (Utf8.ofString h.render ++ rest) =
      Utf8.ofString h.render ++ hostPart false rest := by
  have hname {s : String} (hs : ∀ c ∈ s.toList, Domain.IsNameChar c) :
      hostPart false (Utf8.ofString s ++ rest) = Utf8.ofString s ++ hostPart false rest :=
    hostPart_append ⟨notMem_of_isNameChar hs (by decide) (by decide),
      notMem_of_isNameChar hs (by decide) (by decide)⟩ rest
  cases h with
  | domain name => exact hname hweb.1.isNameChar
  | ipv4 address => exact hname (isName_renderIpv4 address).isNameChar
  | ipv6 groups =>
    have hclose : 0x5D ∉ Utf8.ofString (renderIpv6 groups) := by
      intro hmem
      have hall : ∀ c ∈ ':' :: hexChars, c ≠ ']' := forall_mem_of_all (by decide)
      exact hall _ (mem_renderIpv6 _ ((Utf8.mem_ofString (by decide)).mp hmem)) rfl
    have hopen : Utf8.ofString "[" = [0x5B] := by decide
    have hclosed : Utf8.ofString "]" = [0x5D] := by decide
    rw [Host.render, Utf8.ofString_append, Utf8.ofString_append, hopen, hclosed]
    simp only [List.append_assoc, List.cons_append, List.nil_append]
    rw [hostPart, if_neg (by decide)]
    exact congrArg _ (hostPart_inside hclose rest)

end StorageGateway.Url
