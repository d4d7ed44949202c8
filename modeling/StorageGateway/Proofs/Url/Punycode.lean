import Mathlib.Data.List.TakeWhile
import Mathlib.Tactic.Ring
import StorageGateway.Url.Punycode

/-!
# Encoded labels are read back

The writer passes the label once for every value outside ASCII, and the reader puts the characters
in one by one. While the writer passes the characters of value `n`, the reader's label holds what
was passed of the characters up to `n` and what is still ahead of those below `n`. The difference
that the writer has counted is the distance, in places, from the reader's last character to the
next one, so that the reader finds the value and the place of the character that comes next.

## Main definitions

* `Punycode.Follows`: what the reader knows while the writer passes the label.

## Main results

* `Punycode.foldlM_digits`: a difference is read back from its digits.
* `Punycode.Follows.pass`: one character of the label.
* `Punycode.decode?_encode`: an encoded label stands for the label.
* `Punycode.mem_encode`: the characters of an encoded label.
-/

namespace StorageGateway.Punycode

/-! ### Digits -/

/-- The characters that stand for digits. -/
def digitChars : List Char := "abcdefghijklmnopqrstuvwxyz0123456789".toList

theorem digit_mem {n : Nat} (h : n < 36) : digit n ∈ digitChars := by
  have hall : ∀ n < 36, digit n ∈ digitChars := by decide
  exact hall n h

theorem digitValue?_digit {n : Nat} (h : n < 36) : digitValue? (digit n) = some n := by
  have hall : ∀ n < 36, digitValue? (digit n) = some n := by decide
  exact hall n h

theorem threshold_le (k bias : Nat) : threshold k bias ≤ 26 := Nat.min_le_left ..

theorem mem_digits (bias k q : Nat) : ∀ c ∈ digits bias k q, c ∈ digitChars := by
  induction k, q using digits.induct bias with
  | case1 k q t hlast =>
    intro c hc
    have ht := threshold_le k bias
    rw [digits, if_pos hlast, List.mem_singleton] at hc
    exact hc ▸ digit_mem (by omega)
  | case2 k q t hmore ih =>
    intro c hc
    have ht := threshold_le k bias
    have hmod := Nat.mod_lt (q - threshold k bias) (y := 36 - threshold k bias) (by omega)
    rw [digits, if_neg hmore, List.mem_cons] at hc
    rcases hc with rfl | hc
    · exact digit_mem (by omega)
    · exact ih c hc

theorem Reader.next_digit {r : Reader} {d : Nat} (hd : d < 36) :
    r.next (digit d) = if threshold r.step r.bias ≤ d then
      some { r with
        delta := r.delta + d * r.weight
        weight := r.weight * (36 - threshold r.step r.bias)
        step := r.step + 36 }
    else r.insert? (r.delta + d * r.weight) := by
  rw [next, digitValue?_digit hd]
  rfl

/-- A difference is read back from its digits, whatever was read of it before. -/
theorem foldlM_digits (r : Reader) (q : Nat) :
    (digits r.bias r.step q).foldlM Reader.next r = r.insert? (r.delta + q * r.weight) := by
  obtain ⟨label, value, position, bias, delta, weight, k⟩ := r
  dsimp only
  induction k, q using digits.induct bias generalizing delta weight with
  | case1 k q t hlast =>
    have ht := threshold_le k bias
    rw [digits, if_pos hlast, List.foldlM_cons, Reader.next_digit (by omega),
      if_neg (Nat.not_le.mpr hlast)]
    exact bind_pure _
  | case2 k q t hmore ih =>
    have ht := threshold_le k bias
    have hmod : (q - t) % (36 - t) < 36 - t := Nat.mod_lt _ (by omega)
    have hvalue : t + (q - t) % (36 - t) + (q - t) / (36 - t) * (36 - t) = q := by
      have hdiv := Nat.mod_add_div' (q - t) (36 - t)
      omega
    have hsum : delta + (t + (q - t) % (36 - t)) * weight +
        (q - t) / (36 - t) * (weight * (36 - t)) = delta + q * weight := by
      calc
        _ = delta + (t + (q - t) % (36 - t) + (q - t) / (36 - t) * (36 - t)) * weight := by ring
        _ = _ := by rw [hvalue]
    have hdigit : t + (q - t) % (36 - t) < 36 := by omega
    rw [digits, if_neg hmore, List.foldlM_cons, Reader.next_digit hdigit,
      if_pos (Nat.le_add_right ..)]
    exact (ih _ _).trans (congrArg (Reader.insert? _) hsum)

/-! ### Passing the label -/

/-- What the reader knows when the writer has passed `front` of a label and `back` is still ahead,
while the characters of value `n` are written. All that was written is read. -/
structure Follows (start : Reader) (basic n : Nat) (front back : List Char) (w : Writer)
    (r : Reader) : Prop where
  read : w.out.foldlM Reader.next start = some r
  label : r.label = front.filter (·.toNat ≤ n) ++ back.filter (·.toNat < n)
  placed : w.placed = r.label.length
  bias : r.bias = w.bias
  isSettled : r.delta = 0 ∧ r.weight = 1 ∧ r.step = 36
  basic_le : basic ≤ w.placed
  isFirst : (w.placed == basic) = (r.position == 0)
  value_le : r.value ≤ n
  position : r.position + w.delta =
    (n - r.value) * (r.label.length + 1) + (front.filter (·.toNat ≤ n)).length

theorem char?_toNat (c : Char) : char? c.toNat = some c := by
  have hvalid : c.toNat.isValidChar := c.valid
  rw [char?, if_pos hvalid, Char.ofNat_toNat]

/-- A character up to `n` stays when it is passed. -/
theorem filter_concat_of_le (front : List Char) {n : Nat} {c : Char} (h : c.toNat ≤ n) :
    (front ++ [c]).filter (·.toNat ≤ n) = front.filter (·.toNat ≤ n) ++ [c] := by
  rw [List.filter_append, List.filter_cons_of_pos (by simpa using h), List.filter_nil]

theorem filter_concat_of_lt (front : List Char) {n : Nat} {c : Char} (h : n < c.toNat) :
    (front ++ [c]).filter (·.toNat ≤ n) = front.filter (·.toNat ≤ n) := by
  rw [List.filter_append, List.filter_cons_of_neg (by simpa using h), List.filter_nil,
    List.append_nil]

variable {start r : Reader} {basic n : Nat} {front back : List Char} {w : Writer} {c : Char}

/-- The reader puts in the character that the writer passes. -/
theorem Follows.insert? (h : Follows start basic n front (c :: back) w r) (hc : c.toNat = n) :
    r.insert? w.delta = some
      { label := front.filter (·.toNat ≤ n) ++ c :: back.filter (·.toNat < n)
        value := n
        position := (front.filter (·.toNat ≤ n)).length + 1
        bias := adapt w.delta (w.placed + 1) (w.placed == basic)
        delta := 0
        weight := 1
        step := 36 } := by
  have hlabel : r.label = front.filter (·.toNat ≤ n) ++ back.filter (·.toNat < n) := by
    rw [h.label, List.filter_cons_of_neg (by simp [hc])]
  have hlt : (front.filter (·.toNat ≤ n)).length < r.label.length + 1 := by
    rw [hlabel, List.length_append]
    omega
  have hplace : (r.position + w.delta) % (r.label.length + 1) =
      (front.filter (·.toNat ≤ n)).length := by
    rw [h.position, Nat.mul_add_mod_of_lt hlt]
  have hvalue : r.value + (r.position + w.delta) / (r.label.length + 1) = n := by
    have hle := h.value_le
    rw [h.position, Nat.mul_comm, Nat.mul_add_div (by omega), Nat.div_eq_of_lt hlt]
    omega
  simp only [Reader.insert?, hvalue, hplace, ← hc, char?_toNat, Option.map_some]
  rw [hc, hlabel, List.take_left' rfl, List.drop_left' rfl, h.placed, hlabel, ← h.isFirst,
    h.placed, hlabel]

/-- One character of the label is passed. -/
theorem Follows.pass (h : Follows start basic n front (c :: back) w r) :
    ∃ r', Follows start basic n (front ++ [c]) back (w.pass basic n c) r' := by
  rw [Writer.pass]
  split
  next hlt =>
    -- A character below `n` is there already and counts as one place.
    have hkeep := filter_concat_of_le front hlt.le
    refine ⟨r, h.read, ?_, h.placed, h.bias, h.isSettled, h.basic_le, h.isFirst, h.value_le, ?_⟩
    · rw [h.label, hkeep, List.filter_cons_of_pos (by simpa using hlt), List.append_assoc]
      rfl
    · rw [hkeep, List.length_append, List.length_singleton, ← Nat.add_assoc, h.position,
        Nat.add_assoc]
  next hge =>
    split
    next hc =>
      have hkeep := filter_concat_of_le front hc.le
      have hdigits := foldlM_digits r w.delta
      rw [h.isSettled.1, h.isSettled.2.1, h.isSettled.2.2, Nat.zero_add, Nat.mul_one, h.bias,
        h.insert? hc] at hdigits
      have hle := h.basic_le
      have hread : (w.out ++ digits w.bias 36 w.delta).foldlM Reader.next start =
          (digits w.bias 36 w.delta).foldlM Reader.next r := by
        rw [List.foldlM_append, h.read]
        rfl
      refine ⟨_, hread.trans hdigits, ?_, ?_, rfl, ⟨rfl, rfl, rfl⟩, ?_, ?_, le_rfl, ?_⟩
      · rw [hkeep, List.append_assoc]
        rfl
      · rw [h.placed, h.label, List.filter_cons_of_neg (by simpa using hc.ge)]
        simp only [List.length_append, List.length_cons]
        omega
      · exact h.basic_le.trans (Nat.le_succ _)
      · have hne : ¬w.placed + 1 = basic := by omega
        rw [beq_eq_false_iff_ne.mpr hne]
        rfl
      · dsimp only
        rw [hkeep, Nat.sub_self, Nat.zero_mul, Nat.zero_add, List.length_append,
          List.length_singleton, Nat.add_zero]
    next hne =>
      -- A character above `n` is neither there nor put in.
      have hgt : n < c.toNat := by omega
      have hkeep := filter_concat_of_lt front hgt
      refine ⟨r, h.read, ?_, h.placed, h.bias, h.isSettled, h.basic_le, h.isFirst, h.value_le, ?_⟩
      · rw [h.label, hkeep, List.filter_cons_of_neg (by simpa using hgt.le)]
      · rw [hkeep, h.position]

/-- The rest of the label is passed. -/
theorem Follows.foldl_pass (h : Follows start basic n front back w r) :
    ∃ r', Follows start basic n (front ++ back) [] (back.foldl (Writer.pass basic n) w) r' := by
  induction back generalizing front w r with
  | nil => exact ⟨r, by rwa [List.append_nil]⟩
  | cons c back ih =>
    obtain ⟨r', hr'⟩ := h.pass
    obtain ⟨r'', hr''⟩ := ih hr'
    exact ⟨r'', by rwa [List.append_assoc] at hr''⟩

/-! ### One value after the other -/

/-- No value between two that are written one after the other occurs in the label. -/
theorem filter_lt_of_gap {label : List Char} {n m : Nat} (hnm : n ≤ m)
    (hgap : ∀ c ∈ label, n ≤ c.toNat → m ≤ c.toNat) :
    label.filter (·.toNat < n) = label.filter (·.toNat < m) := by
  refine List.filter_congr fun c hc => decide_eq_decide.mpr ⟨fun hlt => hlt.trans_le hnm, ?_⟩
  exact fun hlt => Nat.lt_of_not_le fun hle => absurd (hgap c hc hle) (Nat.not_le.mpr hlt)

/-- The writer goes on to a greater value. -/
theorem Follows.skip {label : List Char} (h : Follows start basic n [] label w r) {m : Nat}
    (hnm : n ≤ m) (hgap : ∀ c ∈ label, n ≤ c.toNat → m ≤ c.toNat) :
    Follows start basic m [] label { w with delta := w.delta + (m - n) * (w.placed + 1) } r := by
  have hle := h.value_le
  refine ⟨h.read, ?_, h.placed, h.bias, h.isSettled, h.basic_le, h.isFirst, hle.trans hnm, ?_⟩
  · rw [h.label, filter_lt_of_gap hnm hgap]
    rfl
  · have hposition := h.position
    dsimp only
    rw [List.filter_nil, List.length_nil, Nat.add_zero] at hposition ⊢
    rw [← Nat.add_assoc, hposition, h.placed, ← Nat.add_mul]
    congr 1
    omega

/-- All characters of a value are written. -/
theorem Follows.writeAll {label : List Char} (h : Follows start basic n [] label w r) {m : Nat}
    (hnm : n ≤ m) (hgap : ∀ c ∈ label, n ≤ c.toNat → m ≤ c.toNat) :
    ∃ r', Follows start basic (m + 1) [] label (Writer.writeAll label basic (w, n) m).1 r' := by
  obtain ⟨r', h'⟩ := (h.skip hnm hgap).foldl_pass
  rw [List.nil_append] at h'
  rw [Writer.writeAll]
  dsimp only
  set w' := label.foldl (Writer.pass basic m) _
  have hlabel : r'.label = label.filter (·.toNat < m + 1) := by
    rw [h'.label, List.filter_nil, List.append_nil]
    exact List.filter_congr fun c _ => decide_eq_decide.mpr Nat.lt_succ_iff.symm
  have hle := h'.value_le
  refine ⟨r', h'.read, hlabel, h'.placed, h'.bias, h'.isSettled, h'.basic_le, h'.isFirst,
    hle.trans (Nat.le_succ m), ?_⟩
  have hposition : r'.position + w'.delta =
      (m - r'.value) * (r'.label.length + 1) + r'.label.length := by
    rw [h'.position, h'.label, List.filter_nil, List.append_nil]
  have hsucc : m + 1 - r'.value = m - r'.value + 1 := Nat.succ_sub hle
  calc
    r'.position + (w'.delta + 1)
      = (m - r'.value) * (r'.label.length + 1) + (r'.label.length + 1) := by omega
    _ = (m + 1 - r'.value) * (r'.label.length + 1) := by rw [hsucc, Nat.succ_mul]

/-- All values are written, in ascending order. -/
theorem Follows.foldl_writeAll {label : List Char} (h : Follows start basic n [] label w r)
    {ns : List Nat} (hns : ns.Pairwise (· < ·)) (hle : ∀ m ∈ ns, n ≤ m)
    (hall : ∀ c ∈ label, n ≤ c.toNat → c.toNat ∈ ns) :
    ∃ r', (ns.foldl (Writer.writeAll label basic) (w, n)).1.out.foldlM Reader.next start =
        some r' ∧ r'.label = label ∧ r'.step = 36 := by
  induction ns generalizing n w r with
  | nil =>
    refine ⟨r, h.read, ?_, h.isSettled.2.2⟩
    rw [h.label, List.filter_nil, List.nil_append, List.filter_eq_self]
    exact fun c hc => decide_eq_true (Nat.lt_of_not_le fun hn => nomatch hall c hc hn)
  | cons m ns ih =>
    obtain ⟨hm, hns⟩ := List.pairwise_cons.mp hns
    have hgap : ∀ c ∈ label, n ≤ c.toNat → m ≤ c.toNat := fun c hc hn => by
      rcases List.mem_cons.mp (hall c hc hn) with heq | hmem
      · exact heq.ge
      · exact (hm _ hmem).le
    have hnm := hle m List.mem_cons_self
    obtain ⟨r', h'⟩ := h.writeAll hnm hgap
    refine ih h' hns hm fun c hc hn => ?_
    exact (List.mem_cons.mp (hall c hc (by omega))).resolve_left (by omega)

theorem pairwise_lt_eraseDups (ns : List Nat) (h : ns.Pairwise (· ≤ ·)) :
    ns.eraseDups.Pairwise (· < ·) := by
  induction hlength : ns.length using Nat.strongRecOn generalizing ns with
  | ind length ih =>
    cases ns with
    | nil => exact .nil
    | cons n ns =>
      obtain ⟨hn, hns⟩ := List.pairwise_cons.mp h
      have hfewer := List.length_filter_le (fun m => !m == n) ns
      rw [List.length_cons] at hlength
      rw [List.eraseDups_cons, List.pairwise_cons]
      refine ⟨fun m hm => ?_, ih _ (by omega) _ (hns.filter _) rfl⟩
      obtain ⟨hmem, hne⟩ := List.mem_filter.mp (List.mem_eraseDups.mp hm)
      exact Nat.lt_of_le_of_ne (hn m hmem) (Ne.symm (by simpa using hne))

theorem pairwise_values (label : List Char) : (values label).Pairwise (· < ·) := by
  refine pairwise_lt_eraseDups _ ((List.pairwise_mergeSort ?_ ?_ _).imp of_decide_eq_true)
  · intro a b c hab hbc
    exact decide_eq_true ((of_decide_eq_true hab).trans (of_decide_eq_true hbc))
  · intro a b
    simpa using Nat.le_total a b

theorem mem_values_iff {label : List Char} {n : Nat} :
    n ∈ values label ↔ (∃ c ∈ label, c.toNat = n) ∧ 0x80 ≤ n := by
  rw [values, List.mem_eraseDups, List.mem_mergeSort, List.mem_filter, List.mem_map,
    decide_eq_true_eq]

/-! ### Reading an encoded label -/

/-- The digits of an encoded label. -/
def tail (label : List Char) : List Char :=
  let basic := label.filter (·.toNat < 0x80)
  ((values label).foldl (Writer.writeAll label basic.length)
    (⟨0, 72, basic.length, []⟩, 0x80)).1.out

theorem encode_eq (label : List Char) : encode label =
    label.filter (·.toNat < 0x80) ++
      (if (label.filter (·.toNat < 0x80)).isEmpty then [] else ['-']) ++ tail label := rfl

/-- A writer that has written nothing but digits. -/
def Writer.IsClean (w : Writer) : Prop := ∀ c ∈ w.out, c ∈ digitChars

theorem Writer.IsClean.pass {w : Writer} (h : w.IsClean) (basic n : Nat) (c : Char) :
    (w.pass basic n c).IsClean := by
  rw [Writer.pass]
  split
  · exact h
  · split
    · intro d hd
      rcases List.mem_append.mp hd with hd | hd
      · exact h d hd
      · exact mem_digits _ _ _ d hd
    · exact h

theorem Writer.IsClean.foldl_pass {w : Writer} (h : w.IsClean) (basic n : Nat)
    (label : List Char) : (label.foldl (Writer.pass basic n) w).IsClean := by
  induction label generalizing w with
  | nil => exact h
  | cons c label ih => exact ih (h.pass basic n c)

theorem Writer.IsClean.writeAll {s : Writer × Nat} (h : s.1.IsClean) (label : List Char)
    (basic n : Nat) : (Writer.writeAll label basic s n).1.IsClean :=
  Writer.IsClean.foldl_pass (w := { s.1 with delta := s.1.delta + (n - s.2) * (s.1.placed + 1) })
    h basic n label

theorem Writer.IsClean.foldl_writeAll {s : Writer × Nat} (h : s.1.IsClean) (label : List Char)
    (basic : Nat) (ns : List Nat) : (ns.foldl (Writer.writeAll label basic) s).1.IsClean := by
  induction ns generalizing s with
  | nil => exact h
  | cons n ns ih => exact ih (h.writeAll label basic n)

theorem mem_tail {label : List Char} {c : Char} (h : c ∈ tail label) : c ∈ digitChars :=
  Writer.IsClean.foldl_writeAll (s := (⟨0, 72, _, []⟩, 0x80))
    (fun _ hd => absurd hd List.not_mem_nil) label _ _ c h

/-- An encoded label consists of ASCII characters of the label, hyphens and digits. -/
theorem mem_encode {label : List Char} {c : Char} (h : c ∈ encode label) :
    c ∈ label ∧ c.toNat < 0x80 ∨ c = '-' ∨ c ∈ digitChars := by
  simp only [encode_eq, List.mem_append, List.mem_filter, decide_eq_true_eq] at h
  rcases h with (h | h) | h
  · exact .inl h
  · split at h
    · exact absurd h List.not_mem_nil
    · exact .inr (.inl (List.mem_singleton.mp h))
  · exact .inr (.inr (mem_tail h))

/-- The last hyphen separates the ASCII characters from the digits. -/
theorem splitBasic_append (basic : List Char) {tail : List Char} (h : '-' ∉ tail) :
    splitBasic (basic ++ (if basic.isEmpty then [] else ['-']) ++ tail) = (basic, tail) := by
  have hkeep : ∀ c ∈ tail.reverse, decide (c ≠ '-') = true := fun c hc =>
    decide_eq_true fun heq => h (heq ▸ List.mem_reverse.mp hc)
  rcases basic with - | ⟨b, basic⟩
  · have htake : (tail.reverse.takeWhile (· ≠ '-')).reverse = tail := by
      rw [List.takeWhile_eq_self_iff.mpr hkeep, List.reverse_reverse]
    rw [List.isEmpty_nil, if_pos rfl, List.append_nil, List.nil_append, splitBasic]
    simp only [htake, Nat.sub_self, Nat.zero_sub, List.take_zero, List.isEmpty_nil, if_true]
  · have htake : (((b :: basic) ++ ['-'] ++ tail).reverse.takeWhile (· ≠ '-')).reverse = tail := by
      rw [List.reverse_append, List.takeWhile_append_of_pos hkeep, List.reverse_concat,
        List.takeWhile_cons_of_neg (by simp), List.append_nil, List.reverse_reverse]
    have hfront : ((b :: basic) ++ ['-'] ++ tail).take
        (((b :: basic) ++ ['-'] ++ tail).length - tail.length - 1) = b :: basic := by
      rw [List.append_assoc]
      exact List.take_left' (by simp; omega)
    rw [List.isEmpty_cons, if_neg Bool.false_ne_true, splitBasic]
    simp only [htake, hfront, List.isEmpty_cons, Bool.false_eq_true, if_false]

/-- The digits lead from the ASCII characters to the whole label. -/
theorem exists_reader (label : List Char) : ∃ r,
    (tail label).foldlM Reader.next ⟨label.filter (·.toNat < 0x80), 0x80, 0, 72, 0, 1, 36⟩ =
      some r ∧ r.label = label ∧ r.step = 36 := by
  set basic := label.filter (·.toNat < 0x80) with hbasic
  have hstart : Follows ⟨basic, 0x80, 0, 72, 0, 1, 36⟩ basic.length 0x80 [] label
      ⟨0, 72, basic.length, []⟩ ⟨basic, 0x80, 0, 72, 0, 1, 36⟩ :=
    { read := rfl
      label := rfl
      placed := rfl
      bias := rfl
      isSettled := ⟨rfl, rfl, rfl⟩
      basic_le := le_rfl
      isFirst := by rw [beq_self_eq_true]; rfl
      value_le := le_rfl
      position := by rw [Nat.sub_self, Nat.zero_mul]; rfl }
  exact hstart.foldl_writeAll (pairwise_values label) (fun m hm => (mem_values_iff.mp hm).2)
    fun c hc hn => mem_values_iff.mpr ⟨⟨c, hc, rfl⟩, hn⟩

/-- An encoded label stands for the label. -/
theorem decode?_encode (label : List Char) : decode? (encode label) = some label := by
  have hhyphen : '-' ∉ tail label := fun h => absurd (mem_tail h) (by decide)
  obtain ⟨r, hread, hlabel, hstep⟩ := exists_reader label
  rw [decode?, encode_eq, splitBasic_append _ hhyphen]
  simp only [hread, Reader.isSettled, hstep, hlabel]
  rfl

end StorageGateway.Punycode
