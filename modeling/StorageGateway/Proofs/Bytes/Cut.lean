import Mathlib.Data.List.Infix
import StorageGateway.Bytes

/-!
# Cutting at the first occurrence

`Bytes.cut?` cuts a text at the first occurrence of a pattern. Nothing is lost by the cut, and
more text behind the occurrence changes nothing, which is what makes a reader of a stream
independent of how much of the stream has arrived. A pattern whose first byte occurs in it only
once cannot overlap itself, so that it is found exactly where it was put.

## Main results

* `Bytes.cut?_cons`: the cut, byte by byte.
* `Bytes.eq_of_cut?`, `Bytes.cut?_eq_none_iff`: what a cut says about a text.
* `Bytes.cut?_append_right`: more text behind the first occurrence.
* `Bytes.cut?_append_of_no_start`: text in which no occurrence of the pattern starts is passed.
* `Bytes.cut?_append_of_notMem`: text that does not hold the first byte of the pattern is passed.
* `Bytes.cut?_of_not_isInfix`: a pattern is found where it was put.
* `Bytes.occurrence_of_cut?`: all occurrences of such a pattern.
* `Bytes.cut?_append_cons_of_notMem`: a byte that the pattern does not hold.
-/

namespace StorageGateway.Bytes

variable {pattern bs before after : Bytes}

theorem cutFrom_append (pattern seen more bs : Bytes) :
    cutFrom pattern (seen ++ more) bs =
      (cutFrom pattern seen bs).map fun r => (more.reverse ++ r.1, r.2) := by
  induction bs generalizing seen with
  | nil =>
    simp only [cutFrom]
    split <;> simp
  | cons b bs ih =>
    simp only [cutFrom]
    split
    · simp
    · exact ih (b :: seen)

theorem cutFrom_eq (pattern seen bs : Bytes) :
    cutFrom pattern seen bs = (cut? pattern bs).map fun r => (seen.reverse ++ r.1, r.2) :=
  cutFrom_append pattern [] seen bs

theorem cut?_nil (pattern : Bytes) :
    cut? pattern [] = if pattern.isEmpty then some ([], []) else none := rfl

/-- The cut, byte by byte. -/
theorem cut?_cons (pattern : Bytes) (b : UInt8) (bs : Bytes) :
    cut? pattern (b :: bs) =
      if pattern.isPrefixOf (b :: bs) then some ([], (b :: bs).drop pattern.length)
      else (cut? pattern bs).map fun r => (b :: r.1, r.2) := by
  rw [cut?, cutFrom, cutFrom_eq]
  rfl

/-- A text that starts with the pattern is cut at once. -/
theorem cut?_append_self (pattern bs : Bytes) : cut? pattern (pattern ++ bs) = some ([], bs) := by
  rcases pattern with - | ⟨c, pattern⟩
  · rcases bs with - | ⟨b, bs⟩
    · rfl
    · rw [List.nil_append, cut?_cons, if_pos (by simp)]
      rfl
  · rw [List.cons_append, cut?_cons, if_pos (by simp), ← List.cons_append, List.drop_left]

/-- Nothing is lost by a cut. -/
theorem eq_of_cut? (h : cut? pattern bs = some (before, after)) :
    bs = before ++ pattern ++ after := by
  induction bs generalizing before with
  | nil =>
    rw [cut?_nil] at h
    split at h
    · next hempty =>
      obtain ⟨rfl, rfl⟩ := Prod.mk.inj (Option.some.inj h)
      simpa using hempty
    · exact absurd h (by simp)
  | cons b bs ih =>
    rw [cut?_cons] at h
    split at h
    · next hstart =>
      obtain ⟨rest, hrest⟩ := List.isPrefixOf_iff_prefix.mp hstart
      obtain ⟨rfl, rfl⟩ := Prod.mk.inj (Option.some.inj h)
      rw [← hrest, List.drop_left, List.nil_append]
    · obtain ⟨⟨first, rest⟩, hcut, hpair⟩ := Option.map_eq_some_iff.mp h
      obtain ⟨rfl, rfl⟩ := Prod.mk.inj hpair
      rw [ih hcut]
      simp

theorem cut?_eq_none_iff : cut? pattern bs = none ↔ ¬pattern <:+: bs := by
  constructor
  · rintro h ⟨before, after, rfl⟩
    induction before with
    | nil =>
      rw [List.nil_append, cut?_append_self] at h
      exact absurd h (by simp)
    | cons b before ih =>
      rw [List.cons_append, List.cons_append, cut?_cons] at h
      split at h
      · exact absurd h (by simp)
      · exact ih (Option.map_eq_none_iff.mp h)
  · intro h
    cases hcut : cut? pattern bs with
    | none => rfl
    | some r => exact (h ⟨r.1, r.2, (eq_of_cut? hcut).symm⟩).elim

/-- More text behind the first occurrence stays behind it. -/
theorem cut?_append_right (more : Bytes) (h : cut? pattern bs = some (before, after)) :
    cut? pattern (bs ++ more) = some (before, after ++ more) := by
  induction bs generalizing before with
  | nil =>
    rw [cut?_nil] at h
    split at h
    · next hempty =>
      obtain ⟨rfl, rfl⟩ := Prod.mk.inj (Option.some.inj h)
      rw [List.isEmpty_iff.mp hempty]
      exact cut?_append_self [] more
    · exact absurd h (by simp)
  | cons b bs ih =>
    rw [cut?_cons] at h
    split at h
    · next hstart =>
      obtain ⟨rest, hrest⟩ := List.isPrefixOf_iff_prefix.mp hstart
      obtain ⟨rfl, rfl⟩ := Prod.mk.inj (Option.some.inj h)
      rw [← hrest, List.append_assoc, cut?_append_self, List.drop_left]
    · next hstart =>
      obtain ⟨⟨first, rest⟩, hcut, hpair⟩ := Option.map_eq_some_iff.mp h
      obtain ⟨rfl, rfl⟩ := Prod.mk.inj hpair
      have hlong : ¬pattern.isPrefixOf (b :: (bs ++ more)) := by
        intro hp
        apply hstart
        rw [List.isPrefixOf_iff_prefix] at hp ⊢
        refine List.prefix_of_prefix_length_le hp (List.prefix_append (b :: bs) more) ?_
        rw [eq_of_cut? hcut]
        simp only [List.length_cons, List.length_append]
        omega
      rw [List.cons_append, cut?_cons, if_neg hlong, ih hcut]
      rfl

theorem cut?_length (h : cut? pattern bs = some (before, after)) :
    bs.length = before.length + pattern.length + after.length := by
  rw [eq_of_cut? h]
  simp only [List.length_append]

/-! ### Patterns that are put between other text -/

/-- Text in which no occurrence of the pattern starts is passed. -/
theorem cut?_append_of_no_start {text rest : Bytes}
    (h : ∀ start, start ≠ [] → start <:+ text → ¬pattern <+: start ++ rest) :
    cut? pattern (text ++ rest) = (cut? pattern rest).map fun r => (text ++ r.1, r.2) := by
  induction text with
  | nil => simp
  | cons b text ih =>
    have hstart : ¬pattern.isPrefixOf (b :: (text ++ rest)) := by
      rw [List.isPrefixOf_iff_prefix]
      exact h (b :: text) (List.cons_ne_nil b text) (List.suffix_refl _)
    rw [List.cons_append, cut?_cons, if_neg hstart,
      ih fun start hne hs => h start hne (hs.trans (List.suffix_cons b text)), Option.map_map]
    rfl

/-- Text that does not hold the first byte of the pattern is passed. -/
theorem cut?_append_of_notMem {c : UInt8} (pattern : Bytes) {text : Bytes} (rest : Bytes)
    (h : c ∉ text) :
    cut? (c :: pattern) (text ++ rest) =
      (cut? (c :: pattern) rest).map fun r => (text ++ r.1, r.2) := by
  refine cut?_append_of_no_start fun start hne hs hp => ?_
  obtain ⟨b, start, rfl⟩ := List.exists_cons_of_ne_nil hne
  obtain ⟨rfl, -⟩ := List.cons_prefix_cons.mp hp
  exact h (hs.subset List.mem_cons_self)

/-- A pattern behind text without its first byte is found. -/
theorem cut?_of_notMem {c : UInt8} (pattern : Bytes) {text : Bytes} (rest : Bytes) (h : c ∉ text) :
    cut? (c :: pattern) (text ++ (c :: pattern ++ rest)) = some (text, rest) := by
  rw [cut?_append_of_notMem pattern _ h, cut?_append_self]
  simp

/-- A pattern whose first byte occurs in it only once is found where it was put, unless the text
before it holds the pattern already. -/
theorem cut?_of_not_isInfix {c : UInt8} {pattern text : Bytes} (rest : Bytes) (hc : c ∉ pattern)
    (h : ¬(c :: pattern) <:+: text) :
    cut? (c :: pattern) (text ++ (c :: pattern ++ rest)) = some (text, rest) := by
  induction text with
  | nil => exact cut?_append_self _ _
  | cons b text ih =>
    have hstart : ¬(c :: pattern).isPrefixOf (b :: (text ++ (c :: pattern ++ rest))) := by
      rw [List.isPrefixOf_iff_prefix]
      intro hp
      obtain ⟨rfl, tail, htail⟩ := List.cons_prefix_cons.mp hp
      rcases List.append_eq_append_iff.mp htail with ⟨left, rfl, -⟩ | ⟨excess, rfl, hexcess⟩
      · exact h ⟨[], left, rfl⟩
      · -- the pattern reaches into its own copy, so its first byte would occur in it again
        rcases excess with - | ⟨d, excess⟩
        · exact h ⟨[], [], by simp⟩
        · rw [List.cons_append, List.cons_append, List.cons.injEq] at hexcess
          exact hc (List.mem_append_right _ (hexcess.1 ▸ List.mem_cons_self))
    have hrest : ¬(c :: pattern) <:+: text := fun hi => h (List.infix_cons hi)
    rw [List.cons_append, cut?_cons, if_neg hstart, ih hrest]
    rfl

/-- Occurrences of a pattern whose first byte occurs in it only once do not overlap. Each of them
is the first one or stands behind it. -/
theorem occurrence_of_cut? {c : UInt8} (hc : c ∉ pattern)
    (h : cut? (c :: pattern) bs = some (before, after)) {front back : Bytes}
    (heq : bs = front ++ (c :: pattern ++ back)) :
    (front = before ∧ back = after) ∨ ∃ middle,
      front = before ++ c :: pattern ++ middle ∧ after = middle ++ (c :: pattern ++ back) := by
  induction front generalizing bs before with
  | nil =>
    rw [heq, List.nil_append, cut?_append_self] at h
    cases h
    exact .inl ⟨rfl, rfl⟩
  | cons b front ih =>
    rw [heq, List.cons_append, cut?_cons] at h
    split at h
    · next hstart =>
      obtain ⟨rest, hrest⟩ := List.isPrefixOf_iff_prefix.mp hstart
      rw [← hrest, List.drop_left] at h
      cases h
      rw [List.cons_append, List.cons.injEq] at hrest
      obtain ⟨rfl, htail⟩ := hrest
      refine .inr ?_
      rcases List.append_eq_append_iff.mp htail with
        ⟨middle, rfl, hmiddle⟩ | ⟨excess, hexcess, hexcess'⟩
      · exact ⟨middle, rfl, hmiddle⟩
      · rcases excess with - | ⟨d, excess⟩
        · rw [List.append_nil] at hexcess
          exact ⟨[], by simp [hexcess], by simpa using hexcess'.symm⟩
        · -- the second occurrence would start inside the first one
          rw [List.cons_append, List.cons_append, List.cons.injEq] at hexcess'
          exact absurd (hexcess ▸ List.mem_append_right _ (hexcess'.1 ▸ List.mem_cons_self)) hc
    · obtain ⟨⟨first, rest⟩, hcut, hpair⟩ := Option.map_eq_some_iff.mp h
      cases hpair
      rcases ih hcut rfl with ⟨rfl, rfl⟩ | ⟨middle, rfl, hmiddle⟩
      · exact .inl ⟨rfl, rfl⟩
      · exact .inr ⟨middle, rfl, hmiddle⟩

/-! ### Bytes that the pattern does not hold -/

/-- A byte that the pattern does not hold bounds the occurrences that start before it. -/
theorem prefix_append_cons_iff {c : UInt8} (hc : c ∉ pattern) (text rest : Bytes) :
    pattern <+: text ++ c :: rest ↔ pattern <+: text := by
  refine ⟨fun h => ?_, fun h => h.trans (List.prefix_append text _)⟩
  rcases List.prefix_or_prefix_of_prefix h (List.prefix_append text _) with hp | ⟨excess, rfl⟩
  · exact hp
  · rw [List.prefix_append_right_inj] at h
    rcases excess with - | ⟨d, excess⟩
    · simp
    · obtain ⟨rfl, -⟩ := List.cons_prefix_cons.mp h
      exact absurd (List.mem_append_right text List.mem_cons_self) hc

/-- A byte that the pattern does not hold separates the occurrences before and after it. -/
theorem infix_append_cons_iff {c : UInt8} (hc : c ∉ pattern) (text rest : Bytes) :
    pattern <:+: text ++ c :: rest ↔ pattern <:+: text ∨ pattern <:+: rest := by
  induction text with
  | nil =>
    rw [List.nil_append, List.infix_cons_iff]
    have hstart := prefix_append_cons_iff hc [] rest
    rw [List.nil_append] at hstart
    rw [hstart, List.infix_nil, List.prefix_nil]
  | cons b text ih =>
    have hstart := prefix_append_cons_iff hc (b :: text) rest
    rw [List.cons_append] at hstart ⊢
    rw [List.infix_cons_iff, List.infix_cons_iff, hstart, ih, or_assoc]

/-- The first occurrence lies before a byte that the pattern does not hold, or behind it. -/
theorem cut?_append_cons_of_notMem {c : UInt8} (hc : c ∉ pattern) (hne : pattern ≠ [])
    (text rest : Bytes) :
    cut? pattern (text ++ c :: rest) =
      ((cut? pattern text).map fun r => (r.1, r.2 ++ c :: rest)).or
        ((cut? pattern rest).map fun r => (text ++ c :: r.1, r.2)) := by
  induction text with
  | nil =>
    have hstart : ¬pattern.isPrefixOf (c :: rest) := by
      rw [List.isPrefixOf_iff_prefix]
      intro h
      have hnil := (prefix_append_cons_iff hc [] rest).mp h
      exact hne (List.prefix_nil.mp hnil)
    have hempty : pattern.isEmpty = false := by simpa using hne
    rw [List.nil_append, cut?_cons, if_neg hstart, cut?_nil, hempty]
    rfl
  | cons b text ih =>
    rw [List.cons_append, cut?_cons, cut?_cons, ih]
    have hiff := prefix_append_cons_iff hc (b :: text) rest
    rw [List.cons_append] at hiff
    by_cases hstart : pattern <+: b :: text
    · have hlength : pattern.length ≤ (b :: text).length := hstart.length_le
      rw [if_pos (List.isPrefixOf_iff_prefix.mpr (hiff.mpr hstart)),
        if_pos (List.isPrefixOf_iff_prefix.mpr hstart), ← List.cons_append,
        List.drop_append_of_le_length hlength]
      rfl
    · rw [if_neg (mt List.isPrefixOf_iff_prefix.mp (mt hiff.mp hstart)),
        if_neg (mt List.isPrefixOf_iff_prefix.mp hstart)]
      cases cut? pattern text with
      | some r => rfl
      | none => cases cut? pattern rest <;> rfl

/-! ### Trimming -/

theorem dropWhile_append_of_ne_nil {p : UInt8 → Bool} {more rest : Bytes} {b : UInt8}
    (h : bs.dropWhile p = b :: rest) : (bs ++ more).dropWhile p = b :: rest ++ more := by
  rw [List.dropWhile_append, h]
  rfl

/-- A text that starts and ends with other bytes is not trimmed. -/
theorem trimBy_of_ends {p : UInt8 → Bool} (hstart : ∀ b ∈ bs.head?, p b = false)
    (hfinish : ∀ b ∈ bs.getLast?, p b = false) : trimBy p bs = bs := by
  have hdrop {cs : Bytes} (hcs : ∀ b ∈ cs.head?, p b = false) : cs.dropWhile p = cs := by
    rcases cs with - | ⟨c, cs⟩
    · rfl
    · rw [List.dropWhile_cons_of_neg (by simp [hcs c rfl])]
  rw [trimBy, hdrop hstart, hdrop (by rwa [List.head?_reverse]), List.reverse_reverse]

/-- A text of other bytes is not trimmed. -/
theorem trimBy_of_forall {p : UInt8 → Bool} (h : ∀ b ∈ bs, p b = false) : trimBy p bs = bs :=
  trimBy_of_ends (fun b hb => h b (List.mem_of_mem_head? hb))
    (fun b hb => h b (List.mem_of_mem_getLast? hb))

end StorageGateway.Bytes
