import StorageGateway.Multipart.Reader
import StorageGateway.Proofs.Bytes.Cut

/-!
# Releasing data

A reader in the data of a part releases what cannot belong to the delimiter behind it. Only the
first byte of that delimiter is a carriage return, so a delimiter that has arrived in part starts
at the last carriage return of the buffer and is all that stands behind it. The bytes that are
released therefore hold no part of a delimiter, whatever arrives later.

## Main results

* `Multipart.heldBack_suffix`: what is held back stands at the end of the buffer.
* `Multipart.heldBack_of_suffix`: a mark that has arrived in part is held back.
* `Multipart.cut?_append_of_released`: what is released plays no role for where the mark is found.
-/

namespace StorageGateway.Multipart

variable {mark tail bs : Bytes}

/-- What stands behind the last byte of its kind. -/
theorem takeWhile_reverse_append {c : UInt8} (front : Bytes) {back : Bytes} (h : c ∉ back) :
    ((front ++ c :: back).reverse.takeWhile (· != c)).reverse = back := by
  have hback : ∀ b ∈ back.reverse, (b != c) = true := by
    intro b hb
    rw [bne_iff_ne]
    rintro rfl
    exact h (List.mem_reverse.mp hb)
  rw [List.reverse_append, List.reverse_cons, List.append_assoc,
    List.takeWhile_append_of_pos hback]
  simp

/-- A text with a byte of some kind ends with such a byte and what stands behind the last one. -/
theorem cons_takeWhile_suffix {c : UInt8} (text : Bytes)
    (h : (text.reverse.takeWhile (· != c)).reverse.length < text.length) :
    c :: (text.reverse.takeWhile (· != c)).reverse <:+ text := by
  have hsplit := List.takeWhile_append_dropWhile (p := (· != c)) (l := text.reverse)
  rcases hrest : text.reverse.dropWhile (· != c) with - | ⟨d, rest⟩
  · rw [hrest, List.append_nil] at hsplit
    rw [hsplit, List.length_reverse, List.length_reverse] at h
    exact absurd h (Nat.lt_irrefl _)
  · obtain rfl : d = c := by
      have hhead := List.head_dropWhile_not (p := (· != c)) (l := text.reverse) (by simp [hrest])
      simpa [hrest] using hhead
    rw [hrest] at hsplit
    refine ⟨rest.reverse, ?_⟩
    simpa using congrArg List.reverse hsplit

/-- What is held back stands at the end of the buffer. -/
theorem heldBack_suffix (mark bs : Bytes) : heldBack mark bs <:+ bs := by
  rw [heldBack]
  split
  · next h =>
    rw [Bool.and_eq_true, decide_eq_true_eq] at h
    exact (cons_takeWhile_suffix _ h.1).trans (List.drop_suffix _ bs)
  · exact List.nil_suffix

/-- A mark that has arrived in part is held back. -/
theorem heldBack_of_suffix (htail : 0x0D ∉ tail) (hs : 0x0D :: tail <:+ bs)
    (hp : 0x0D :: tail <+: mark) (hlength : (0x0D :: tail).length < mark.length) :
    heldBack mark bs = 0x0D :: tail := by
  have hwindow : 0x0D :: tail <:+ bs.drop (bs.length - (mark.length - 1)) := by
    refine List.suffix_of_suffix_length_le hs (List.drop_suffix _ bs) ?_
    have hle := hs.length_le
    rw [List.length_drop]
    omega
  obtain ⟨front, hfront⟩ := hwindow
  rw [heldBack, ← hfront]
  simp only [takeWhile_reverse_append front htail]
  have hshort : tail.length < (front ++ 0x0D :: tail).length := by
    rw [List.length_append, List.length_cons]
    omega
  rw [decide_eq_true hshort, List.isPrefixOf_iff_prefix.mpr hp]
  rfl

/-- What is released plays no role for where the mark is found. -/
theorem cut?_append_of_released (htail : 0x0D ∉ tail)
    (h : Bytes.cut? (0x0D :: tail) bs = none) (more : Bytes) :
    let held := heldBack (0x0D :: tail) bs
    Bytes.cut? (0x0D :: tail) (bs ++ more) =
      (Bytes.cut? (0x0D :: tail) (held ++ more)).map
        fun r => (bs.take (bs.length - held.length) ++ r.1, r.2) := by
  intro held
  have hsplit : bs.take (bs.length - held.length) ++ held = bs :=
    List.suffix_iff_eq_append.mp (heldBack_suffix _ bs)
  conv_lhs => rw [← hsplit, List.append_assoc]
  refine Bytes.cut?_append_of_no_start fun start hne hs hp => ?_
  -- such an occurrence would start with a part of the mark at the end of the buffer
  obtain ⟨front, hfront⟩ := hs
  have hbs : start ++ held <:+ bs := ⟨front, by rw [← List.append_assoc, hfront, hsplit]⟩
  rw [← List.append_assoc] at hp
  rcases List.prefix_or_prefix_of_prefix hp (List.prefix_append _ more) with hwhole | hpart
  · exact Bytes.cut?_eq_none_iff.mp h (hwhole.isInfix.trans hbs.isInfix)
  · obtain ⟨b, start, rfl⟩ := List.exists_cons_of_ne_nil hne
    obtain ⟨rfl, hrest⟩ := List.cons_prefix_cons.mp hpart
    have hlength : (0x0D :: (start ++ held)).length < (0x0D :: tail).length := by
      refine lt_of_le_of_ne hpart.length_le fun heq => ?_
      have hsame := hpart.eq_of_length heq
      exact Bytes.cut?_eq_none_iff.mp h (hsame ▸ hbs.isInfix)
    have hheld := heldBack_of_suffix (fun hc => htail (hrest.subset hc)) hbs hpart hlength
    have hsize : held.length = (0x0D :: (start ++ held)).length := congrArg List.length hheld
    rw [List.length_cons, List.length_append] at hsize
    omega

end StorageGateway.Multipart
