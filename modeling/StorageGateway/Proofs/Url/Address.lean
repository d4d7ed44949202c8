import Mathlib.Algebra.Group.Nat.Defs
import StorageGateway.Proofs.Text.Decimal
import StorageGateway.Proofs.Url.Domain

/-!
# Numeric hosts round trip

An address is written in one way and read in several. What is written is read back: the four
numbers of the old form, and the groups of the new form, in which the first of the longest runs of
zeros is left out and comes back as the groups that are missing.

## Main results

* `Url.ipv4?_render`, `Url.ipv6?_render`: reading the text of an address.
* `Url.lt_of_ipv4?`, `Url.groups_of_ipv6?`: the range of the addresses that are read.
-/

namespace StorageGateway.Url

/-! ### Numbers -/

theorem hexValue?_digitChar {d : Nat} (h : d < 16) :
    Ascii.hexValue? (UInt8.ofNat d.digitChar.toNat) = some d := by
  have hall : ∀ d < 16, Ascii.hexValue? (UInt8.ofNat d.digitChar.toNat) = some d := by decide
  exact hall d h

/-- The characters of numbers in a base up to sixteen. -/
def hexChars : List Char := "0123456789abcdef".toList

theorem digitChar_mem {d : Nat} (h : d < 16) : d.digitChar ∈ hexChars := by
  have hall : ∀ d < 16, d.digitChar ∈ hexChars := by decide
  exact hall d h

theorem mem_toDigits {base : Nat} (hlow : 1 < base) (hhigh : base ≤ 16) (n : Nat) :
    ∀ c ∈ Nat.toDigits base n, c ∈ hexChars := by
  induction n using Nat.strongRecOn with
  | ind n ih =>
    intro c hc
    rw [Nat.toDigits_eq_if hlow] at hc
    split at hc
    · rw [List.mem_singleton.mp hc]
      exact digitChar_mem (by omega)
    · rcases List.mem_append.mp hc with hc | hc
      · exact ih _ (Nat.div_lt_self (by omega) hlow) c hc
      · rw [List.mem_singleton.mp hc]
        exact digitChar_mem (Nat.lt_of_lt_of_le (Nat.mod_lt n (by omega)) hhigh)

/-- One more character at the end of a number. -/
theorem numberIn?_concat (base : Nat) (cs : List Char) (c : Char) :
    numberIn? base (cs ++ [c]) = (numberIn? base cs).bind fun n =>
      (Ascii.hexValue? (UInt8.ofNat c.toNat)).bind fun d =>
        if d < base ∧ c.toNat < 0x80 then some (base * n + d) else none := by
  rw [numberIn?, List.foldlM_append]
  simp only [List.foldlM_cons, List.foldlM_nil, Option.bind_eq_bind, Option.pure_def,
    Option.bind_fun_some]
  rfl

/-- One more digit at the end of a number. -/
theorem numberIn?_concat_digitChar {base n d : Nat} {cs : List Char} (hbase : base ≤ 16)
    (h : numberIn? base cs = some n) (hd : d < base) :
    numberIn? base (cs ++ [d.digitChar]) = some (base * n + d) := by
  have hascii : ∀ d < 16, d.digitChar.toNat < 0x80 := by decide
  have hread : d < base ∧ d.digitChar.toNat < 0x80 := ⟨hd, hascii d (by omega)⟩
  rw [numberIn?_concat, h, Option.bind_some, hexValue?_digitChar (by omega), Option.bind_some,
    if_pos hread]

/-- The digits of a number are read back. -/
theorem numberIn?_toDigits {base : Nat} (hlow : 1 < base) (hhigh : base ≤ 16) (n : Nat) :
    numberIn? base (Nat.toDigits base n) = some n := by
  induction n using Nat.strongRecOn with
  | ind n ih =>
    rw [Nat.toDigits_eq_if hlow]
    split
    · next h =>
      have hdigit := numberIn?_concat_digitChar (n := 0) hhigh (rfl : numberIn? base [] = some 0) h
      rwa [List.nil_append, Nat.mul_zero, Nat.zero_add] at hdigit
    · have hothers := ih _ (Nat.div_lt_self (by omega) hlow)
      rw [numberIn?_concat_digitChar hhigh hothers (Nat.mod_lt n (by omega)), Nat.div_add_mod]

/-- A number of some digits is bounded by their count. -/
theorem lt_of_numberIn? {base n : Nat} {cs : List Char} (h : numberIn? base cs = some n) :
    n < base ^ cs.length := by
  induction cs using List.reverseRecOn generalizing n with
  | nil =>
    cases h
    simp
  | append_singleton cs c ih =>
    rw [numberIn?_concat] at h
    obtain ⟨m, hm, h⟩ := Option.bind_eq_some_iff.mp h
    obtain ⟨d, -, h⟩ := Option.bind_eq_some_iff.mp h
    split at h
    · next hd =>
      cases h
      have hm' := ih hm
      rw [List.length_append, List.length_singleton, Nat.pow_succ]
      calc base * m + d < base * (m + 1) := by rw [Nat.mul_succ]; omega
        _ ≤ base * base ^ cs.length := Nat.mul_le_mul_left _ hm'
        _ = base ^ cs.length * base := Nat.mul_comm ..
    · cases h

/-! ### The old form -/

/-- The four bytes of an address. -/
def ipv4Bytes (address : Nat) : List Nat :=
  [16777216, 65536, 256, 1].map fun d => address / d % 256

/-- The text of an address, as characters. -/
theorem toList_renderIpv4 (address : Nat) : (renderIpv4 address).toList =
    ['.'].intercalate ((ipv4Bytes address).map (Nat.toDigits 10)) := by
  rw [renderIpv4, String.toList_intercalate]
  simp [ipv4Bytes, Nat.toString_eq_repr]

/-- The text of an address is a name of four numbers. -/
theorem convert?_renderIpv4 (address : Nat) :
    Domain.convert? (renderIpv4 address).toList = some (renderIpv4 address).toList := by
  rw [toList_renderIpv4]
  refine Domain.convert?_numeric (by simp [ipv4Bytes]) ?_
  intro part hpart c hc
  obtain ⟨n, -, rfl⟩ := List.mem_map.mp hpart
  exact Decimal.isDigit_of_mem_toDigits n c hc

/-- The parts between the dots of an address. -/
theorem dottedParts_renderIpv4 (address : Nat) :
    dottedParts (renderIpv4 address).toList = (ipv4Bytes address).map (Nat.toDigits 10) := by
  have hdot : ∀ part ∈ (ipv4Bytes address).map (Nat.toDigits 10), '.' ∉ part := by
    intro part hpart hc
    obtain ⟨n, -, rfl⟩ := List.mem_map.mp hpart
    exact absurd (Decimal.isDigit_of_mem_toDigits n '.' hc) (by decide)
  have hlast : Nat.toDigits 10 (address / 1 % 256) ≠ [] := Nat.toDigits_ne_nil
  rw [dottedParts, toList_renderIpv4, List.splitOn_intercalate '.' hdot (by simp [ipv4Bytes])]
  simp only [ipv4Bytes, List.map_cons, List.map_nil, List.reverse_cons, List.reverse_nil,
    List.nil_append, List.cons_append]
  split
  · next h => exact absurd (List.cons.inj h).1 hlast
  · rfl

theorem endsInNumber_renderIpv4 (address : Nat) :
    endsInNumber (renderIpv4 address).toList = true := by
  have hlast : (dottedParts (renderIpv4 address).toList).getLast? =
      some (Nat.toDigits 10 (address / 1 % 256)) := by
    rw [dottedParts_renderIpv4]
    rfl
  rw [endsInNumber, hlast]
  split
  · next h => cases h
  · next h => exact absurd (Option.some.inj h) Nat.toDigits_ne_nil
  · next last _ h =>
    cases h
    rw [Bool.or_eq_true]
    exact .inl (List.all_eq_true.mpr (Decimal.isDigit_of_mem_toDigits _))

/-- A number of one byte is read as decimal. -/
theorem ipv4Number?_toDigits {n : Nat} (h : n < 256) :
    ipv4Number? (Nat.toDigits 10 n) = some n := by
  have hall : ∀ n < 256, ipv4Number? (Nat.toDigits 10 n) = some n := by decide +kernel
  exact hall n h

/-- The text of an address is read back. -/
theorem ipv4?_render {address : Nat} (h : address < 4294967296) :
    ipv4? (renderIpv4 address).toList = some address := by
  have hnumbers : ((ipv4Bytes address).map (Nat.toDigits 10)).mapM ipv4Number? =
      some (ipv4Bytes address) := by
    rw [mapM_eq_some_iff, List.map_map]
    refine List.map_congr_left fun n hn => ipv4Number?_toDigits ?_
    obtain ⟨d, -, rfl⟩ := List.mem_map.mp hn
    exact Nat.mod_lt _ (by decide)
  rw [ipv4?, dottedParts_renderIpv4, hnumbers, Option.bind_some]
  have hlast : address / 1 % 256 < 256 := Nat.mod_lt _ (by decide)
  have hothers (d : Nat) : address / d % 256 < 256 := Nat.mod_lt _ (by decide)
  simp only [ipv4OfNumbers?, ipv4Bytes, List.map_cons, List.map_nil, List.reverse_cons,
    List.reverse_nil, List.nil_append, List.cons_append, List.length_cons, List.length_nil,
    List.all_cons, List.all_nil, List.foldl_cons, List.foldl_nil]
  have hsize : Nat.pow 256 (4 - (0 + 1 + 1 + 1)) = 256 := rfl
  rw [hsize, if_pos]
  · refine congrArg some ?_
    omega
  · simp [hothers]
    omega

theorem foldl_bytes_lt {numbers : List Nat} (h : ∀ n ∈ numbers, n < 256) (start : Nat) :
    numbers.foldl (fun n x => 256 * n + x) start < 256 ^ numbers.length * (start + 1) := by
  induction numbers generalizing start with
  | nil => simp
  | cons x numbers ih =>
    have hx : x < 256 := h x List.mem_cons_self
    refine Nat.lt_of_lt_of_le (ih (fun n hn => h n (List.mem_cons_of_mem _ hn)) _) ?_
    rw [List.length_cons, Nat.pow_succ, Nat.mul_assoc]
    exact Nat.mul_le_mul_left _ (show 256 * start + x + 1 ≤ 256 * (start + 1) by omega)

/-- Only addresses of four bytes are read. -/
theorem lt_of_ipv4? {cs : List Char} {address : Nat} (h : ipv4? cs = some address) :
    address < 4294967296 := by
  obtain ⟨numbers, -, h⟩ := Option.bind_eq_some_iff.mp h
  rw [ipv4OfNumbers?] at h
  split at h
  · cases h
  next last others hreverse =>
    dsimp only at h
    split at h
    · next hranges =>
      obtain ⟨hcount, hlast, hbytes⟩ := hranges
      simp only [List.all_eq_true, decide_eq_true_eq] at hbytes
      have hfold := foldl_bytes_lt hbytes 0
      rw [Nat.zero_add, Nat.mul_one] at hfold
      cases h
      calc others.reverse.foldl (fun n x => 256 * n + x) 0 * Nat.pow 256 (4 - others.reverse.length)
            + last
          < (others.reverse.foldl (fun n x => 256 * n + x) 0 + 1) *
              256 ^ (4 - others.reverse.length) := by
            rw [Nat.succ_mul]
            exact Nat.add_lt_add_left hlast _
        _ ≤ 256 ^ others.reverse.length * 256 ^ (4 - others.reverse.length) :=
            Nat.mul_le_mul_right _ hfold
        _ = 256 ^ 4 := by rw [← Nat.pow_add, Nat.add_sub_cancel' (by omega)]
        _ = 4294967296 := rfl
    · cases h

/-! ### The new form -/

/-- The groups between colons, as characters. -/
def joinGroups (groups : List Nat) : List Char := [':'].intercalate (groups.map (Nat.toDigits 16))

theorem toList_renderHex (n : Nat) : (renderHex n).toList = Nat.toDigits 16 n := by
  rw [renderHex, String.toList_ofList]

theorem mem_hexChars (n : Nat) : ∀ c ∈ Nat.toDigits 16 n, c ∈ hexChars :=
  mem_toDigits (by decide) (by decide) n

theorem toList_join (groups : List Nat) :
    (":".intercalate (groups.map renderHex)).toList = joinGroups groups := by
  rw [String.toList_intercalate, List.map_map]
  exact congrArg _ (List.map_congr_left fun n _ => toList_renderHex n)

theorem mem_joinGroups {groups : List Nat} : ∀ c ∈ joinGroups groups, c ∈ ':' :: hexChars := by
  intro c hc
  rcases eq_or_mem_of_mem_intercalate hc with rfl | ⟨part, hpart, hc⟩
  · exact List.mem_cons_self
  · obtain ⟨n, -, rfl⟩ := List.mem_map.mp hpart
    exact List.mem_cons_of_mem _ (mem_hexChars n c hc)

/-- The text of an address consists of digits and colons. -/
theorem mem_renderIpv6 {groups : List Nat} :
    ∀ c ∈ (renderIpv6 groups).toList, c ∈ ':' :: hexChars := by
  rw [renderIpv6]
  split
  · rw [toList_join]
    exact mem_joinGroups
  · intro c hc
    rw [String.toList_append, String.toList_append, toList_join, toList_join, List.mem_append,
      List.mem_append] at hc
    rcases hc with (hc | hc) | hc
    · exact mem_joinGroups c hc
    · have hcolons : ∀ c ∈ "::".toList, c ∈ ':' :: hexChars := forall_mem_of_all (by decide)
      exact hcolons c hc
    · exact mem_joinGroups c hc

theorem colon_notMem (n : Nat) : ':' ∉ Nat.toDigits 16 n := fun h =>
  absurd (mem_hexChars n ':' h) (by decide)

theorem joinGroups_cons_cons (g g' : Nat) (groups : List Nat) :
    joinGroups (g :: g' :: groups) = Nat.toDigits 16 g ++ ':' :: joinGroups (g' :: groups) := by
  simp [joinGroups, List.intercalate_cons_cons]

theorem joinGroups_singleton (g : Nat) : joinGroups [g] = Nat.toDigits 16 g := by
  simp [joinGroups, List.intercalate_singleton]

theorem splitOn_joinGroups {groups : List Nat} (hne : groups ≠ []) :
    (joinGroups groups).splitOn ':' = groups.map (Nat.toDigits 16) := by
  refine List.splitOn_intercalate ':' (fun part hpart => ?_) (by simpa using hne)
  obtain ⟨n, -, rfl⟩ := List.mem_map.mp hpart
  exact colon_notMem n

/-- Groups start with a digit. -/
theorem joinGroups_cons (g : Nat) (groups : List Nat) :
    ∃ c cs, joinGroups (g :: groups) = c :: cs ∧ c ≠ ':' := by
  obtain ⟨c, cs, hcs⟩ := List.exists_cons_of_ne_nil (Nat.toDigits_ne_nil (n := g) (b := 16))
  have hc : c ≠ ':' := by
    rintro rfl
    exact colon_notMem g (hcs ▸ List.mem_cons_self)
  rcases groups with - | ⟨g', groups⟩
  · exact ⟨c, cs, by rw [joinGroups_singleton, hcs], hc⟩
  · exact ⟨c, _, by rw [joinGroups_cons_cons, hcs, List.cons_append], hc⟩

/-- A group of up to four digits is read back. -/
theorem hexGroup?_toDigits {g : Nat} (h : g < 65536) : hexGroup? (Nat.toDigits 16 g) = some g := by
  have hlength : (Nat.toDigits 16 g).length ≤ 4 :=
    (Nat.length_toDigits_le_iff (by decide) (by decide)).mpr h
  rw [hexGroup?, if_neg, numberIn?_toDigits (by decide) (by decide)]
  rw [List.isEmpty_iff, not_or, Nat.not_lt]
  exact ⟨Nat.toDigits_ne_nil, hlength⟩

/-- Groups between colons are read back. -/
theorem groups?_joinGroups (atEnd : Bool) {groups : List Nat} (h : ∀ g ∈ groups, g < 65536) :
    groups? atEnd (joinGroups groups) = some groups := by
  rcases groups with - | ⟨g, groups⟩
  · rfl
  obtain ⟨c, cs, hcs, -⟩ := joinGroups_cons g groups
  have hparts : ((g :: groups).map (Nat.toDigits 16)).mapM hexGroup? = some (g :: groups) := by
    rw [mapM_eq_some_iff, List.map_map]
    exact List.map_congr_left fun n hn => hexGroup?_toDigits (h n hn)
  have hempty : ¬(joinGroups (g :: groups)).isEmpty = true := by simp [hcs]
  rw [groups?, if_neg hempty]
  simp only [splitOn_joinGroups (List.cons_ne_nil g groups)]
  split
  · next last others hreverse =>
    have hdot : last.contains '.' = false := by
      have hmem : last ∈ (g :: groups).map (Nat.toDigits 16) := by
        rw [← List.mem_reverse, hreverse]
        exact List.mem_cons_self
      obtain ⟨n, -, rfl⟩ := List.mem_map.mp hmem
      rw [List.contains_eq_mem, decide_eq_false_iff_not]
      exact fun hc => absurd (mem_hexChars n '.' hc) (by decide)
    rw [hdot, Bool.and_false, if_neg Bool.false_ne_true, hparts]
  · next hreverse => simp at hreverse

theorem cutColons?_append {ds : List Char} (h : ':' ∉ ds) (rest : List Char) :
    cutColons? (ds ++ rest) = (cutColons? rest).map fun p => (ds ++ p.1, p.2) := by
  induction ds with
  | nil => simp
  | cons d ds ih =>
    rw [List.mem_cons, not_or] at h
    have hd : d ≠ ':' := Ne.symm h.1
    rw [List.cons_append, cutColons?.eq_2 _ _ fun _ hcolon => absurd hcolon hd, ih h.2,
      Option.map_map]
    rfl

/-- Groups hold no two colons in a row. -/
theorem cutColons?_joinGroups (groups : List Nat) (rest : List Char) :
    cutColons? (joinGroups groups ++ rest) =
      (cutColons? rest).map fun p => (joinGroups groups ++ p.1, p.2) := by
  induction groups with
  | nil => simp [joinGroups]
  | cons g groups ih =>
    rcases groups with - | ⟨g', groups⟩
    · rw [joinGroups_singleton, cutColons?_append (colon_notMem g)]
    · obtain ⟨c, cs, hcs, hc⟩ := joinGroups_cons g' groups
      have hcolon : cutColons? (':' :: (joinGroups (g' :: groups) ++ rest)) =
          (cutColons? (joinGroups (g' :: groups) ++ rest)).map fun p => (':' :: p.1, p.2) := by
        rw [hcs, List.cons_append]
        exact cutColons?.eq_2 _ _ fun cs' _ h => absurd (List.cons.inj h).1 hc
      rw [joinGroups_cons_cons, List.append_assoc, List.cons_append,
        cutColons?_append (colon_notMem g), hcolon, ih, Option.map_map, Option.map_map]
      simp [Function.comp_def]

/-- A run of zeros stands where it is said to start. -/
theorem replicate_of_zeroRuns (groups : List Nat) {i length : Nat}
    (h : (zeroRuns groups)[i]? = some length) :
    ∃ rest, groups.drop i = List.replicate length 0 ++ rest := by
  induction groups generalizing i length with
  | nil => cases h
  | cons g groups ih =>
    rw [zeroRuns] at h
    cases i with
    | succ i => exact ih h
    | zero =>
      rw [List.getElem?_cons_zero] at h
      cases h
      split
      · next hzero =>
        subst hzero
        cases hruns : zeroRuns groups with
        | nil => exact ⟨groups, by simp⟩
        | cons run runs =>
          have hfirst : (zeroRuns groups)[0]? = some run := by rw [hruns]; rfl
          obtain ⟨rest, hrest⟩ := ih hfirst
          refine ⟨rest, ?_⟩
          rw [List.drop_zero] at hrest ⊢
          rw [hrest, List.headD_cons, Nat.add_comm, List.replicate_succ, List.cons_append]
      · exact ⟨g :: groups, rfl⟩

theorem foldl_max_mem (runs : List Nat) (start : Nat) :
    runs.foldl max start = start ∨ runs.foldl max start ∈ runs := by
  induction runs generalizing start with
  | nil => exact .inl rfl
  | cons run runs ih =>
    rw [List.foldl_cons]
    rcases ih (max start run) with h | h
    · rw [h]
      rcases Nat.le_total start run with hle | hle
      · rw [Nat.max_eq_right hle]
        exact .inr List.mem_cons_self
      · exact .inl (Nat.max_eq_left hle)
    · exact .inr (List.mem_cons_of_mem _ h)

/-- The groups around the run of zeros that is left out. -/
theorem longestZeroRun?_spec {groups : List Nat} {start length : Nat}
    (h : longestZeroRun? groups = some (start, length)) :
    2 ≤ length ∧ start + length ≤ groups.length ∧
      groups = groups.take start ++ List.replicate length 0 ++ groups.drop (start + length) := by
  simp only [longestZeroRun?] at h
  split at h
  · cases h
  next hlong =>
    obtain ⟨rfl, rfl⟩ := Prod.mk.inj (Option.some.inj h)
    generalize hlength : (zeroRuns groups).foldl max 0 = length at *
    have hmem : length ∈ zeroRuns groups := by
      rcases foldl_max_mem (zeroRuns groups) 0 with hzero | hmem
      · omega
      · exact hlength ▸ hmem
    have hindex : (zeroRuns groups).findIdx (· == length) < (zeroRuns groups).length :=
      List.findIdx_lt_length_of_exists ⟨length, hmem, beq_self_eq_true length⟩
    have hfound := List.findIdx_getElem (p := (· == length)) (w := hindex)
    obtain ⟨rest, hrest⟩ := replicate_of_zeroRuns groups
      (List.getElem?_eq_some_iff.mpr ⟨hindex, eq_of_beq hfound⟩)
    generalize (zeroRuns groups).findIdx (· == length) = start at hrest
    have hafter : groups.drop (start + length) = rest := by
      rw [← List.drop_drop, hrest]
      simp
    have hcount := congrArg List.length hrest
    rw [List.length_drop, List.length_append, List.length_replicate] at hcount
    refine ⟨by omega, by omega, ?_⟩
    rw [hafter, List.append_assoc, ← hrest, List.take_append_drop]

/-- The text of an address is read back. -/
theorem ipv6?_render {groups : List Nat} (hlength : groups.length = 8)
    (h : ∀ g ∈ groups, g < 65536) : ipv6? (renderIpv6 groups).toList = some groups := by
  rw [renderIpv6]
  cases hrun : longestZeroRun? groups with
  | none =>
    have hnone := cutColons?_joinGroups groups []
    rw [List.append_nil] at hnone
    obtain ⟨g, gs, rfl⟩ := List.exists_cons_of_length_pos (l := groups) (by omega)
    obtain ⟨c, cs, hcs, -⟩ := joinGroups_cons g gs
    simp only [toList_join, ipv6?, hnone, cutColons?, Option.map_none]
    rw [hcs, List.isEmpty_cons, if_neg Bool.false_ne_true, ← hcs, groups?_joinGroups true h]
    simp [hlength]
  | some run =>
    obtain ⟨start, length⟩ := run
    obtain ⟨hlong, hfit, hsplit⟩ := longestZeroRun?_spec hrun
    have hleft : ∀ g ∈ groups.take start, g < 65536 := fun g hg => h g (List.mem_of_mem_take hg)
    have hright : ∀ g ∈ groups.drop (start + length), g < 65536 := fun g hg =>
      h g (List.mem_of_mem_drop hg)
    have hcut : cutColons? (joinGroups (groups.take start) ++
        ':' :: ':' :: joinGroups (groups.drop (start + length))) =
        some (joinGroups (groups.take start), joinGroups (groups.drop (start + length))) := by
      rw [cutColons?_joinGroups]
      simp [cutColons?]
    have htext : (":".intercalate ((groups.take start).map renderHex) ++ "::" ++
        ":".intercalate ((groups.drop (start + length)).map renderHex)).toList =
        joinGroups (groups.take start) ++
          ':' :: ':' :: joinGroups (groups.drop (start + length)) := by
      rw [String.toList_append, String.toList_append, toList_join, toList_join,
        List.append_assoc]
      rfl
    simp only [htext, ipv6?, hcut, groups?_joinGroups false hleft, groups?_joinGroups true hright]
    rw [if_pos (by rw [List.length_take, List.length_drop]; omega)]
    have hzeros : 8 - (groups.take start).length - (groups.drop (start + length)).length =
        length := by
      rw [List.length_take, List.length_drop]
      omega
    rw [hzeros, ← hsplit]

/-! ### The range of the groups -/

theorem lt_of_hexGroup? {cs : List Char} {g : Nat} (h : hexGroup? cs = some g) : g < 65536 := by
  rw [hexGroup?] at h
  split at h
  · cases h
  next hlength =>
    rw [not_or, Nat.not_lt] at hlength
    exact Nat.lt_of_lt_of_le (lt_of_numberIn? h) (Nat.pow_le_pow_right (by decide) hlength.2)

theorem lt_of_dottedGroups? {cs : List Char} {groups : List Nat}
    (h : dottedGroups? cs = some groups) : ∀ g ∈ groups, g < 65536 := by
  rw [dottedGroups?] at h
  split at h
  · next a b c d hbytes =>
    cases h
    have hbyte : ∀ n ∈ [a, b, c, d], n < 256 := by
      intro n hn
      obtain ⟨part, -, hpart⟩ := exists_mem_of_mapM hbytes hn
      rw [decimalByte?.eq_def] at hpart
      split at hpart
      · cases hpart
      · cases hpart
      · simpa using (Option.filter_eq_some_iff.mp hpart).2
    have ha := hbyte a (by simp)
    have hb := hbyte b (by simp)
    have hc := hbyte c (by simp)
    have hd := hbyte d (by simp)
    intro g hg
    simp only [List.mem_cons, List.not_mem_nil, or_false] at hg
    rcases hg with rfl | rfl <;> omega
  · cases h

theorem lt_of_mapM_hexGroup? {parts : List (List Char)} {groups : List Nat}
    (h : parts.mapM hexGroup? = some groups) : ∀ g ∈ groups, g < 65536 := by
  intro g hg
  obtain ⟨part, -, hpart⟩ := exists_mem_of_mapM h hg
  exact lt_of_hexGroup? hpart

theorem lt_of_groups? {atEnd : Bool} {cs : List Char} {groups : List Nat}
    (h : groups? atEnd cs = some groups) : ∀ g ∈ groups, g < 65536 := by
  rw [groups?] at h
  split at h
  · cases h
    simp
  · dsimp only at h
    split at h
    · split at h
      · obtain ⟨first, hfirst, h⟩ := Option.bind_eq_some_iff.mp h
        obtain ⟨last, hlast, rfl⟩ := Option.map_eq_some_iff.mp h
        intro g hg
        rcases List.mem_append.mp hg with hg | hg
        · exact lt_of_mapM_hexGroup? hfirst g hg
        · exact lt_of_dottedGroups? hlast g hg
      · exact lt_of_mapM_hexGroup? h
    · cases h

/-- Only addresses of eight groups of 16 bits are read. -/
theorem groups_of_ipv6? {cs : List Char} {groups : List Nat} (h : ipv6? cs = some groups) :
    groups.length = 8 ∧ ∀ g ∈ groups, g < 65536 := by
  rw [ipv6?] at h
  split at h
  · split at h
    · cases h
    · obtain ⟨hgroups, hlength⟩ := Option.filter_eq_some_iff.mp h
      exact ⟨by simpa using hlength, lt_of_groups? hgroups⟩
  · split at h
    · next left right hleft hright =>
      split at h
      · next hfit =>
        cases h
        refine ⟨by simp; omega, fun g hg => ?_⟩
        rw [List.mem_append, List.mem_append, List.mem_replicate] at hg
        rcases hg with (hg | ⟨-, rfl⟩) | hg
        · exact lt_of_groups? hleft g hg
        · decide
        · exact lt_of_groups? hright g hg
      · cases h
    · cases h

end StorageGateway.Url
