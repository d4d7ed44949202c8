import StorageGateway.Proofs.Calendar.Days
import StorageGateway.Proofs.Page.Contents

/-!
# The text of an instant

A date and time is written as its parts in decimal numerals with marks between them. Every part but
the year has two digits, and the year has four, or else a sign and as many as it needs. Hence a
text is that of one date only, and texts without a sign are ordered like their dates.

## Main definitions

* `IsNumeral`: the digits of a number, with zeros in front only up to a width.
* `DateTime.IsWritten`: the text of a date and time.

## Main results

* `DateTime.render_inj`: texts identify dates.
* `DateTime.render_lt_iff`: texts of years with four digits order dates.
* `Page.times_are_shown_exactly`: what a directory page shows for an instant.
-/

namespace StorageGateway

/-! ### Numerals -/

/-- The digits of a number, with zeros in front only up to a width: they are no more than `k` when
neither the width nor the number asks for more. -/
structure IsNumeral (width n : Nat) (cs : List Char) : Prop where
  digits : ∀ c ∈ cs, c.isDigit = true
  value : Nat.ofDigitChars 10 cs 0 = n
  length_le_iff : ∀ k, cs.length ≤ k ↔ width ≤ k ∧ n < 10 ^ k

namespace IsNumeral

variable {width n m : Nat} {cs ds : List Char}

theorem length_eq (h : IsNumeral width n cs) (hn : n < 10 ^ width) : cs.length = width :=
  Nat.le_antisymm ((h.length_le_iff width).mpr ⟨Nat.le_refl width, hn⟩)
    ((h.length_le_iff cs.length).mp (Nat.le_refl _)).1

theorem padded (hwidth : 0 < width) (n : Nat) :
    IsNumeral width n (DateTime.padded width n).toList := by
  rw [DateTime.padded, String.toList_ofList]
  refine ⟨fun c hc => ?_, ?_, fun k => ?_⟩
  · rcases List.mem_append.mp hc with hc | hc
    · rw [List.eq_of_mem_replicate hc]
      rfl
    · exact Nat.isDigit_of_mem_toDigits (by decide) (by decide) hc
  · rw [Nat.ofDigitChars_append, Nat.ofDigitChars_replicate_zero, Nat.mul_zero,
      Nat.ofDigitChars_ten_toDigits]
  · rw [List.length_append, List.length_replicate]
    rcases Nat.eq_zero_or_pos k with rfl | hk
    · omega
    · rw [← Nat.length_toDigits_le_iff (b := 10) (by decide) hk]
      omega

/-! ### The order of numerals -/

theorem ofDigitChars_cons (c : Char) (cs : List Char) : Nat.ofDigitChars 10 (c :: cs) 0 =
    10 ^ cs.length * (c.toNat - 0x30) + Nat.ofDigitChars 10 cs 0 := by
  rw [Nat.ofDigitChars_cons, Nat.ofDigitChars_eq_ofDigitChars_zero, Nat.mul_zero, Nat.zero_add]
  rfl

theorem ofDigitChars_lt (hcs : ∀ c ∈ cs, c.isDigit = true) :
    Nat.ofDigitChars 10 cs 0 < 10 ^ cs.length := by
  induction cs with
  | nil => exact Nat.one_pos
  | cons c cs ih =>
    obtain ⟨hc, hrest⟩ := List.forall_mem_cons.mp hcs
    have hhigh : c.toNat ≤ 0x39 := (Char.isDigit_iff_toNat.mp hc).2
    have hdigit : c.toNat - 0x30 ≤ 9 := by omega
    have hlt := ih hrest
    have hmul := Nat.mul_le_mul_left (10 ^ cs.length) hdigit
    rw [ofDigitChars_cons, List.length_cons, Nat.pow_succ]
    omega

/-- Numbers of two parts are ordered by the first part and then by the second. -/
theorem mul_add_lt_iff {base a b x y : Nat} (hx : x < base) (hy : y < base) :
    base * a + x < base * b + y ↔ a < b ∨ a = b ∧ x < y := by
  rcases Nat.lt_trichotomy a b with hlt | rfl | hgt
  · have hmul := Nat.mul_le_mul_left base (Nat.succ_le_of_lt hlt)
    rw [Nat.mul_succ] at hmul
    omega
  · omega
  · have hmul := Nat.mul_le_mul_left base (Nat.succ_le_of_lt hgt)
    rw [Nat.mul_succ] at hmul
    omega

/-- Digits of the same length are ordered like their values. -/
theorem digits_lt_iff (hcs : ∀ c ∈ cs, c.isDigit = true) (hds : ∀ d ∈ ds, d.isDigit = true)
    (h : cs.length = ds.length) :
    cs < ds ↔ Nat.ofDigitChars 10 cs 0 < Nat.ofDigitChars 10 ds 0 := by
  induction cs generalizing ds with
  | nil =>
    rw [List.eq_nil_of_length_eq_zero h.symm]
    simp
  | cons c cs ih =>
    obtain ⟨d, ds, rfl⟩ := List.exists_cons_of_length_eq_add_one h.symm
    obtain ⟨hc, hcs⟩ := List.forall_mem_cons.mp hcs
    obtain ⟨hd, hds⟩ := List.forall_mem_cons.mp hds
    have hlength : cs.length = ds.length := by simpa using h
    have hlow : 0x30 ≤ c.toNat := (Char.isDigit_iff_toNat.mp hc).1
    have hlow' : 0x30 ≤ d.toNat := (Char.isDigit_iff_toNat.mp hd).1
    have hvalue := ofDigitChars_lt hcs
    rw [hlength] at hvalue
    have hless : c < d ↔ c.toNat < d.toNat := Char.lt_def.trans UInt32.lt_iff_toNat_lt
    have hsame : c = d ↔ c.toNat = d.toNat := Char.toNat_inj.symm
    rw [List.cons_lt_cons_iff, ih hcs hds hlength, ofDigitChars_cons, ofDigitChars_cons, hlength,
      mul_add_lt_iff hvalue (ofDigitChars_lt hds), hless, hsame]
    omega

/-- Numerals of the same length are ordered like their numbers. -/
theorem lt_iff (h : IsNumeral width n cs) (h' : IsNumeral width m ds) (hn : n < 10 ^ width)
    (hm : m < 10 ^ width) : cs < ds ↔ n < m := by
  rw [digits_lt_iff h.digits h'.digits ((h.length_eq hn).trans (h'.length_eq hm).symm), h.value,
    h'.value]

/-- A numeral stands for one number. -/
theorem eq_of_eq (h : IsNumeral width n cs) (h' : IsNumeral width m cs) : n = m :=
  h.value.symm.trans h'.value

theorem eq_iff (h : IsNumeral width n cs) (h' : IsNumeral width m ds) (hn : n < 10 ^ width)
    (hm : m < 10 ^ width) : cs = ds ↔ n = m := by
  refine ⟨fun heq => h.eq_of_eq (heq ▸ h'), fun heq => ?_⟩
  have hforward : ¬cs < ds := by
    rw [h.lt_iff h' hn hm, heq]
    exact Nat.lt_irrefl m
  have hbackward : ¬ds < cs := by
    rw [h'.lt_iff h hm hn, heq]
    exact Nat.lt_irrefl m
  exact List.le_antisymm hbackward hforward

end IsNumeral

/-! ### The text of a date -/

namespace DateTime

/-- The sign in front of a year outside of four digits. -/
def sign (y : Int) : List Char := if y < 0 then ['-'] else if 9999 < y then ['+'] else []

/-- The text `year-month-day hour:minute:second`. -/
def IsWritten (d : DateTime) (text : String) : Prop :=
  ∃ year month day hour minute second : List Char,
    IsNumeral 4 d.year.natAbs year ∧ IsNumeral 2 d.month month ∧ IsNumeral 2 d.day day ∧
    IsNumeral 2 d.hour hour ∧ IsNumeral 2 d.minute minute ∧ IsNumeral 2 d.second second ∧
    text.toList = sign d.year ++ year ++ '-' :: month ++ '-' :: day ++ ' ' :: hour ++
      ':' :: minute ++ ':' :: second

/-- The digits of a part of a date or time. -/
def two (n : Nat) : List Char := (padded 2 n).toList

theorem isNumeral_two (n : Nat) : IsNumeral 2 n (two n) := .padded (by decide) n

theorem length_two {n : Nat} (h : n < 100) : (two n).length = 2 := (isNumeral_two n).length_eq h

theorem two_lt_iff {n m : Nat} (hn : n < 100) (hm : m < 100) : two n < two m ↔ n < m :=
  (isNumeral_two n).lt_iff (isNumeral_two m) hn hm

theorem two_inj {n m : Nat} : two n = two m ↔ n = m :=
  ⟨fun h => (isNumeral_two n).eq_of_eq (h ▸ isNumeral_two m), congrArg two⟩

/-- The digits of a year. -/
def yearDigits (y : Int) : List Char := (padded 4 y.natAbs).toList

theorem isNumeral_yearDigits (y : Int) : IsNumeral 4 y.natAbs (yearDigits y) :=
  .padded (by decide) _

theorem toList_renderYear (y : Int) : (renderYear y).toList = sign y ++ yearDigits y := by
  rw [renderYear, sign, yearDigits]
  split
  · next h =>
    rw [if_neg (by omega), if_neg (by omega), show y.toNat = y.natAbs by omega]
    rfl
  · next h =>
    rw [String.toList_append]
    split
    · rfl
    · rw [if_pos (by omega)]
      rfl

theorem toList_render (d : DateTime) : d.render.toList =
    sign d.year ++ yearDigits d.year ++ '-' :: (two d.month ++ '-' :: (two d.day ++
      ' ' :: (two d.hour ++ ':' :: (two d.minute ++ ':' :: two d.second)))) := by
  simp [render, toList_renderYear, two]

theorem isWritten_render (d : DateTime) : d.IsWritten d.render := by
  refine ⟨_, _, _, _, _, _, isNumeral_yearDigits _, isNumeral_two _, isNumeral_two _,
    isNumeral_two _, isNumeral_two _, isNumeral_two _, ?_⟩
  simp [toList_render]

theorem render_ne_empty (d : DateTime) : d.render ≠ "" := by
  intro h
  have htext := congrArg String.toList h
  rw [toList_render] at htext
  simp at htext

/-! ### Texts identify dates -/

theorem filter_isDigit_sign (y : Int) : (sign y ++ yearDigits y).filter Char.isDigit =
    yearDigits y := by
  have hsign : (sign y).filter Char.isDigit = [] := by
    rw [sign]
    split
    · rfl
    · split <;> rfl
  rw [List.filter_append, hsign, List.nil_append,
    List.filter_eq_self.mpr (isNumeral_yearDigits y).digits]

/-- A year is told by its sign and its digits. -/
theorem eq_of_sign_append_eq {y z : Int} (h : sign y ++ yearDigits y = sign z ++ yearDigits z) :
    y = z := by
  have hdigits : yearDigits y = yearDigits z := by
    rw [← filter_isDigit_sign y, h, filter_isDigit_sign z]
  have hsign : sign y = sign z := by
    rw [hdigits] at h
    exact List.append_cancel_right h
  have hsize : y.natAbs = z.natAbs :=
    (isNumeral_yearDigits y).eq_of_eq (hdigits ▸ isNumeral_yearDigits z)
  have hminus (x : Int) : sign x = ['-'] ↔ x < 0 := by
    rw [sign]
    split
    · next hx => simp [hx]
    · next hx => split <;> simp [hx]
  have hnegative : y < 0 ↔ z < 0 := by rw [← hminus, ← hminus, hsign]
  omega

variable {d e : DateTime}

/-- The parts of a date and time have two digits. -/
theorem IsValid.parts_lt (h : d.IsValid) : d.month < 100 ∧ d.day < 100 ∧ d.hour < 100 ∧
    d.minute < 100 ∧ d.second < 100 := by
  have hdays : monthDays d.year d.month ≤ 31 := by
    rw [monthDays]
    split
    · split <;> decide
    · split <;> decide
  have hmonth := h.month.2
  have hday := h.day.2
  have hhour := h.hour
  have hminute := h.minute
  have hsecond := h.second
  omega

/-- A text is that of one date and time. -/
theorem render_inj (hd : d.IsValid) (he : e.IsValid) : d.render = e.render ↔ d = e := by
  refine ⟨fun h => ?_, congrArg render⟩
  obtain ⟨hmonth, hday, hhour, hminute, hsecond⟩ := hd.parts_lt
  obtain ⟨hmonth', hday', hhour', hminute', hsecond'⟩ := he.parts_lt
  have htext := congrArg String.toList h
  rw [toList_render, toList_render] at htext
  obtain ⟨hyear, htail⟩ := List.append_inj' htext (by simp [length_two, *])
  simp only [List.cons.injEq, true_and] at htail
  obtain ⟨hmonths, htail⟩ := List.append_inj htail (by simp [length_two, *])
  simp only [List.cons.injEq, true_and] at htail
  obtain ⟨hdays, htail⟩ := List.append_inj htail (by simp [length_two, *])
  simp only [List.cons.injEq, true_and] at htail
  obtain ⟨hhours, htail⟩ := List.append_inj htail (by simp [length_two, *])
  simp only [List.cons.injEq, true_and] at htail
  obtain ⟨hminutes, htail⟩ := List.append_inj htail (by simp [length_two, *])
  simp only [List.cons.injEq, true_and] at htail
  rw [DateTime.mk.injEq]
  exact ⟨eq_of_sign_append_eq hyear, two_inj.mp hmonths, two_inj.mp hdays, two_inj.mp hhours,
    two_inj.mp hminutes, two_inj.mp htail⟩

/-! ### Texts order dates -/

/-- Texts are ordered by their first parts and then by what stands behind a mark. -/
theorem append_cons_lt_iff {as bs cs ds : List Char} (h : as.length = bs.length) (x : Char) :
    as ++ x :: cs < bs ++ x :: ds ↔ as < bs ∨ as = bs ∧ cs < ds := by
  induction as generalizing bs with
  | nil =>
    rw [List.eq_nil_of_length_eq_zero h.symm]
    simp
  | cons a as ih =>
    obtain ⟨b, bs, rfl⟩ := List.exists_cons_of_length_eq_add_one h.symm
    rw [List.cons_append, List.cons_append, List.cons_lt_cons_iff, List.cons_lt_cons_iff,
      ih (by simpa using h), List.cons.injEq]
    tauto

/-- The texts of dates whose years have four digits are ordered like the dates. -/
theorem render_lt_iff (hd : d.IsValid) (he : e.IsValid) (hyear : 0 ≤ d.year ∧ d.year ≤ 9999)
    (hyear' : 0 ≤ e.year ∧ e.year ≤ 9999) : d.render < e.render ↔ d.Before e := by
  obtain ⟨hmonth, hday, hhour, hminute, hsecond⟩ := hd.parts_lt
  obtain ⟨hmonth', hday', hhour', hminute', hsecond'⟩ := he.parts_lt
  have hunsigned {y : Int} (hy : 0 ≤ y ∧ y ≤ 9999) : sign y = [] := by
    rw [sign, if_neg (by omega), if_neg (by omega)]
  have hyears := (isNumeral_yearDigits d.year).lt_iff (isNumeral_yearDigits e.year) (by omega)
    (by omega)
  have hyears' := (isNumeral_yearDigits d.year).eq_iff (isNumeral_yearDigits e.year) (by omega)
    (by omega)
  have hlength := ((isNumeral_yearDigits d.year).length_eq (by omega)).trans
    ((isNumeral_yearDigits e.year).length_eq (by omega)).symm
  have hlengths {n m : Nat} (hn : n < 100) (hm : m < 100) : (two n).length = (two m).length := by
    rw [length_two hn, length_two hm]
  rw [String.lt_iff, toList_render, toList_render, hunsigned hyear, hunsigned hyear',
    List.nil_append, List.nil_append, append_cons_lt_iff hlength,
    append_cons_lt_iff (hlengths hmonth hmonth'), append_cons_lt_iff (hlengths hday hday'),
    append_cons_lt_iff (hlengths hhour hhour'), append_cons_lt_iff (hlengths hminute hminute'),
    hyears, hyears', two_lt_iff hmonth hmonth', two_lt_iff hday hday', two_lt_iff hhour hhour',
    two_lt_iff hminute hminute', two_lt_iff hsecond hsecond', two_inj, two_inj, two_inj, two_inj,
    Before]
  omega

end DateTime

/-! ### The text of an instant -/

theorem showTime_eq (t : Int) : showTime t =
    if -262143 ≤ (DateTime.ofSeconds t).year ∧ (DateTime.ofSeconds t).year ≤ 262142 then
      (DateTime.ofSeconds t).render
    else "" := rfl

open Html in
/-- The size and the time of a file stand side by side on the page. -/
theorem Page.infix_contents {d : Directory} {f : FileRecord} (h : f ∈ d.files) :
    [(Label.tag "td", toString f.size), (Label.tag "td", showTime f.modTime)] <:+: d.contents := by
  obtain ⟨before, after, hfiles⟩ := List.append_of_mem h
  have hrow : [(Label.tag "td", toString f.size), (Label.tag "td", showTime f.modTime)] <:+:
      rowContents d.base f := ⟨(rowContents d.base f).take 3, (rowContents d.base f).drop 5, rfl⟩
  have hrows : rowContents d.base f <:+: d.rowsContents := by
    have hsome : ¬d.files.isEmpty = true := by simp [hfiles]
    rw [Directory.rowsContents, if_neg hsome, hfiles, List.flatMap_append, List.flatMap_cons,
      ← List.append_assoc]
    exact ⟨before.flatMap (rowContents d.base), _, rfl⟩
  exact hrow.trans (hrows.trans (List.suffix_append _ _).isInfix)

open Html in
/-- Every instant is that of one date and time of the calendar. If its year is supported, a row of
the page shows it as the text of this date and time, which is the text of no other instant and is
ordered like the instant as long as the year has four digits. Otherwise the row shows no text. -/
theorem Page.times_are_shown_exactly (t : Int) : ∃ d : DateTime, d.IsValid ∧ d.instant = t ∧
    (∀ e : DateTime, e.IsValid → e.instant = t → e = d) ∧
    (-262143 ≤ d.year ∧ d.year ≤ 262142 ↔ -8334601228800 ≤ t ∧ t ≤ 8210266876799) ∧
    (-262143 ≤ d.year ∧ d.year ≤ 262142 →
      d.IsWritten (showTime t) ∧ ∀ u : Int, showTime u = showTime t ↔ u = t) ∧
    (¬(-262143 ≤ d.year ∧ d.year ≤ 262142) → showTime t = "") ∧
    (0 ≤ d.year → d.year ≤ 9999 → ∀ e : DateTime, e.IsValid → 0 ≤ e.year → e.year ≤ 9999 →
      (showTime t < showTime e.instant ↔ t < e.instant)) ∧
    ∀ (page : Directory) (f : FileRecord), f ∈ page.files → f.modTime = t →
      [(Label.tag "td", toString f.size), (Label.tag "td", showTime t)] <:+:
        shown isShown (items (render (directory page))) := by
  have hvalid := DateTime.isValid_ofSeconds t
  have hinstant := DateTime.instant_ofSeconds t
  refine ⟨DateTime.ofSeconds t, hvalid, hinstant, fun e he h => ?_, ?_,
    fun hyear => ⟨?_, fun u => ?_⟩, fun hyear => ?_, fun hlow hhigh e he hlow' hhigh' => ?_,
    fun page f hf htime => ?_⟩
  · exact DateTime.eq_of_instant_eq he hvalid (h.trans hinstant.symm)
  · have hfirst := hvalid.le_year_iff (-262143)
    have hlast := hvalid.le_year_iff 262143
    rw [hinstant, DateTime.newYear_eq] at hfirst hlast
    omega
  · rw [showTime_eq, if_pos hyear]
    exact DateTime.isWritten_render _
  · refine ⟨fun h => ?_, fun h => h ▸ rfl⟩
    rw [showTime_eq t, if_pos hyear, showTime_eq u] at h
    split at h
    · have hsame := (DateTime.render_inj (DateTime.isValid_ofSeconds u) hvalid).mp h
      rw [← hinstant, ← hsame, DateTime.instant_ofSeconds]
    · exact absurd h.symm (DateTime.render_ne_empty _)
  · rw [showTime_eq, if_neg hyear]
  · have hdate := DateTime.eq_of_instant_eq (DateTime.isValid_ofSeconds _) he
      (DateTime.instant_ofSeconds e.instant)
    rw [showTime_eq t, if_pos (by omega), showTime_eq, hdate, if_pos (by omega),
      DateTime.render_lt_iff hvalid he ⟨hlow, hhigh⟩ ⟨hlow', hhigh'⟩,
      ← DateTime.instant_lt_iff hvalid he, hinstant]
  · subst htime
    rw [shown_directory]
    exact infix_contents hf

example : showTime (-1) = "1969-12-31 23:59:59" ∧ showTime 951782400 = "2000-02-29 00:00:00" ∧
    showTime 253402300800 = "+10000-01-01 00:00:00" ∧ showTime 9223372036854775807 = "" := by
  decide +kernel

end StorageGateway
