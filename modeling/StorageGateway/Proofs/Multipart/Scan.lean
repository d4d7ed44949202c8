import StorageGateway.Multipart.Reader
import StorageGateway.Proofs.Bytes.Cut

/-!
# What the first bytes of an upload mean

How a reader gets through an upload depends on the bursts in which it arrives, but what an upload
means does not: it is a function of its bytes. This file gives that function for the bytes that
have arrived so far. They make a complete body, or none at all, or they settle nothing yet; in the
last case it still matters whether they end in the data of a file. Once they settle what an upload
means, further bytes change nothing.

## Main definitions

* `Multipart.scan`: what the first bytes of an upload mean.
* `Multipart.scanRest`, `Multipart.scanLine`, `Multipart.scanHeader`, `Multipart.scanData`: what
  the bytes from a place inside an upload on mean.

## Main results

* `Multipart.scan_append`: further bytes change nothing that is settled.
* `Multipart.scanRest_eq`: one part after another.
-/

namespace StorageGateway.Multipart

/-- What the first bytes of an upload mean. -/
inductive Progress where
  /-- The body is complete. -/
  | done (files : List FilePart)
  /-- The body is malformed. -/
  | failed
  /-- The bytes settle nothing yet. -/
  | hungry (place : Place)
  deriving DecidableEq, Repr

/-- The rest of a delimiter line. -/
inductive LineEnd where
  /-- The delimiter ends the body. -/
  | last
  /-- A part follows. -/
  | part (rest : Bytes)
  | failed
  | hungry

/-- What follows a delimiter that is not the last one: blanks and a line break. -/
def paddingEnd (bs : Bytes) : LineEnd :=
  match bs.dropWhile Ascii.isBlank with
  | a :: b :: rest => if [a, b] = crlf then .part rest else .failed
  | _ => .hungry

/-- What follows a delimiter: two dashes, or blanks and a line break. -/
def lineEnd (bs : Bytes) : LineEnd :=
  match bs with
  | a :: b :: _ => if [a, b] = dashes then .last else paddingEnd bs
  | _ => .hungry

/-- Reads parts from behind a delimiter on; `files` holds the files so far, last one first. `fuel`
bounds the number of parts and is enough when it exceeds the number of bytes. -/
def scanParts (boundary : Bytes) : Nat → List FilePart → Bytes → Progress
  | 0, _, _ => .failed
  | fuel + 1, files, bs =>
    match lineEnd bs with
    | .last => .done files.reverse
    | .failed => .failed
    | .hungry => .hungry .between
    | .part bs =>
      match headerEnd bs with
      | .failed => .failed
      | .hungry => .hungry .between
      | .header name bs =>
        match Bytes.cut? (dataEnd boundary) bs, name with
        | none, none => .hungry .between
        | none, some _ => .hungry .inFile
        | some (_, bs), none => scanParts boundary fuel files bs
        | some (data, bs), some name => scanParts boundary fuel (⟨name, data⟩ :: files) bs

/-- What the first bytes of an upload mean. Bytes before the first delimiter are skipped. -/
def scan (boundary bs : Bytes) : Progress :=
  match Bytes.cut? (delimiter boundary) bs with
  | none => .hungry .between
  | some (_, bs) => scanParts boundary (bs.length + 1) [] bs

/-! ### Delimiter lines and headers -/

/-- A line break behind blanks that is settled. -/
theorem paddingEnd_append (bs more : Bytes) :
    (∀ rest, paddingEnd bs = .part rest → paddingEnd (bs ++ more) = .part (rest ++ more)) ∧
      (paddingEnd bs = .failed → paddingEnd (bs ++ more) = .failed) := by
  rw [paddingEnd]
  rcases hdrop : bs.dropWhile Ascii.isBlank with - | ⟨c, - | ⟨d, rest⟩⟩
  · simp
  · simp
  · rw [paddingEnd, Bytes.dropWhile_append_of_ne_nil hdrop]
    by_cases hcrlf : [c, d] = crlf
    · simp [hcrlf]
    · simp [hcrlf]

theorem paddingEnd_ne_last (bs : Bytes) : paddingEnd bs ≠ .last := by
  rw [paddingEnd]
  split
  · split <;> simp
  · simp

/-- A delimiter line that is settled. -/
theorem lineEnd_append (bs more : Bytes) :
    (lineEnd bs = .last → lineEnd (bs ++ more) = .last) ∧
      (∀ rest, lineEnd bs = .part rest → lineEnd (bs ++ more) = .part (rest ++ more)) ∧
      (lineEnd bs = .failed → lineEnd (bs ++ more) = .failed) := by
  rcases bs with - | ⟨a, - | ⟨b, bs⟩⟩
  · simp [lineEnd]
  · simp [lineEnd]
  · rw [lineEnd, List.cons_append, List.cons_append, lineEnd]
    by_cases hdashes : [a, b] = dashes
    · simp [hdashes]
    · rw [if_neg hdashes, if_neg hdashes]
      exact ⟨fun h => absurd h (paddingEnd_ne_last _), paddingEnd_append (a :: b :: bs) more⟩

/-- A header that is settled. -/
theorem headerEnd_append (bs more : Bytes) :
    (∀ name rest, headerEnd bs = .header name rest →
        headerEnd (bs ++ more) = .header name (rest ++ more)) ∧
      (headerEnd bs = .failed → headerEnd (bs ++ more) = .failed) := by
  rw [headerEnd]
  cases hcut : Bytes.cut? (crlf ++ crlf) bs with
  | none => simp
  | some parts =>
    obtain ⟨lines, rest⟩ := parts
    rw [headerEnd, Bytes.cut?_append_right more hcut]
    cases hparse : parseHeader? (lines ++ crlf ++ crlf) with
    | none =>
      simp only [hparse]
      exact ⟨fun _ _ h => (nomatch h), fun _ => trivial⟩
    | some header =>
      simp only [hparse]
      refine ⟨fun name after h => ?_, fun h => (nomatch h)⟩
      cases h
      rfl

theorem paddingEnd_length {bs rest : Bytes} (h : paddingEnd bs = .part rest) :
    rest.length < bs.length := by
  have hsub := (List.dropWhile_suffix Ascii.isBlank (l := bs)).length_le
  rw [paddingEnd] at h
  rcases hdrop : bs.dropWhile Ascii.isBlank with - | ⟨c, - | ⟨d, after⟩⟩
  · simp [hdrop] at h
  · simp [hdrop] at h
  · rw [hdrop] at h hsub
    by_cases hcrlf : [c, d] = crlf
    · simp only [hcrlf, if_true, LineEnd.part.injEq] at h
      subst h
      simp only [List.length_cons] at hsub
      omega
    · simp [hcrlf] at h

theorem lineEnd_length {bs rest : Bytes} (h : lineEnd bs = .part rest) :
    rest.length < bs.length := by
  rcases bs with - | ⟨a, - | ⟨b, bs⟩⟩
  · cases h
  · cases h
  · rw [lineEnd] at h
    by_cases hdashes : [a, b] = dashes
    · rw [if_pos hdashes] at h
      cases h
    · rw [if_neg hdashes] at h
      exact paddingEnd_length h

theorem headerEnd_length {bs rest : Bytes} {name : Option String}
    (h : headerEnd bs = .header name rest) : rest.length < bs.length := by
  rw [headerEnd] at h
  cases hcut : Bytes.cut? (crlf ++ crlf) bs with
  | none => simp [hcut] at h
  | some parts =>
    obtain ⟨lines, after⟩ := parts
    cases hparse : parseHeader? (lines ++ crlf ++ crlf) with
    | none =>
      simp only [hcut, hparse] at h
      cases h
    | some header =>
      simp only [hcut, hparse, HeaderEnd.header.injEq] at h
      obtain ⟨-, rfl⟩ := h
      have hlength := Bytes.cut?_length hcut
      simp only [crlf, List.length_append, List.length_cons, List.length_nil] at hlength
      omega

/-! ### Parts -/

/-- Further bytes change nothing that is settled. -/
theorem scanParts_append (boundary : Bytes) (fuel : Nat) (files : List FilePart) (bs more : Bytes)
    (h : ∀ place, scanParts boundary fuel files bs ≠ .hungry place) :
    scanParts boundary fuel files (bs ++ more) = scanParts boundary fuel files bs := by
  induction fuel generalizing files bs with
  | zero => rfl
  | succ fuel ih =>
    obtain ⟨hlast, hpart, hfailed⟩ := lineEnd_append bs more
    rw [scanParts] at h
    rw [scanParts, scanParts]
    cases hline : lineEnd bs with
    | last => rw [hlast hline]
    | failed => rw [hfailed hline]
    | hungry => simp [hline] at h
    | part rest =>
      rw [hpart rest hline]
      obtain ⟨hheader, hmalformed⟩ := headerEnd_append rest more
      simp only [hline] at h ⊢
      cases hend : headerEnd rest with
      | failed => rw [hmalformed hend]
      | hungry => simp [hend] at h
      | header name data =>
        rw [hheader name data hend]
        simp only [hend] at h ⊢
        cases hcut : Bytes.cut? (dataEnd boundary) data with
        | none => cases name <;> simp [hcut] at h
        | some parts =>
          obtain ⟨content, after⟩ := parts
          rw [Bytes.cut?_append_right more hcut]
          cases name with
          | none => exact ih _ _ (by simpa only [hcut] using h)
          | some name => exact ih _ _ (by simpa only [hcut] using h)

/-- The bound on the number of parts plays no role when it exceeds the number of bytes. -/
theorem scanParts_fuel (boundary : Bytes) {fuel other : Nat} (files : List FilePart) (bs : Bytes)
    (hfuel : bs.length < fuel) (hother : bs.length < other) :
    scanParts boundary fuel files bs = scanParts boundary other files bs := by
  induction fuel generalizing other files bs with
  | zero => omega
  | succ fuel ih =>
    obtain ⟨other, rfl⟩ : ∃ n, other = n + 1 := ⟨other - 1, by omega⟩
    rw [scanParts, scanParts]
    cases hline : lineEnd bs with
    | last => rfl
    | failed => rfl
    | hungry => rfl
    | part rest =>
      dsimp only
      cases hend : headerEnd rest with
      | failed => rfl
      | hungry => rfl
      | header name data =>
        dsimp only
        cases hcut : Bytes.cut? (dataEnd boundary) data with
        | none => cases name <;> rfl
        | some parts =>
          obtain ⟨content, after⟩ := parts
          have hrest := lineEnd_length hline
          have hdata := headerEnd_length hend
          have hafter := Bytes.cut?_length hcut
          cases name with
          | none => exact ih _ _ (by omega) (by omega)
          | some name => exact ih _ _ (by omega) (by omega)

/-- Further bytes change nothing that is settled. -/
theorem scan_append (boundary bs more : Bytes) (h : ∀ place, scan boundary bs ≠ .hungry place) :
    scan boundary (bs ++ more) = scan boundary bs := by
  rw [scan] at h
  rw [scan, scan]
  cases hcut : Bytes.cut? (delimiter boundary) bs with
  | none => simp [hcut] at h
  | some parts =>
    obtain ⟨before, after⟩ := parts
    have hmore : after.length < (after ++ more).length + 1 := by
      rw [List.length_append]
      omega
    have henough := scanParts_fuel boundary [] after (Nat.lt_succ_self after.length) hmore
    rw [Bytes.cut?_append_right more hcut]
    simp only [hcut] at h ⊢
    rw [henough] at h ⊢
    exact scanParts_append boundary _ [] after more h

/-! ### Places inside an upload -/

/-- What the bytes behind a delimiter mean, with these files before. -/
def scanRest (boundary : Bytes) (files : List FilePart) (bs : Bytes) : Progress :=
  scanParts boundary (bs.length + 1) files bs

/-- What the bytes in the data of a part mean, with this much of a file before. -/
def scanData (boundary : Bytes) (files : List FilePart) (file : Option FilePart) (bs : Bytes) :
    Progress :=
  match Bytes.cut? (dataEnd boundary) bs with
  | none => .hungry (Stage.data file).place
  | some (data, rest) => scanRest boundary ((file.map (·.extend data)).toList ++ files) rest

/-- What the bytes from the header of a part on mean. -/
def scanHeader (boundary : Bytes) (files : List FilePart) (bs : Bytes) : Progress :=
  match headerEnd bs with
  | .failed => .failed
  | .hungry => .hungry .between
  | .header name rest => scanData boundary files (name.map fun name => ⟨name, []⟩) rest

/-- What the bytes with the rest of a delimiter line mean. -/
def scanLine (boundary : Bytes) (files : List FilePart) : LineEnd → Progress
  | .last => .done files.reverse
  | .failed => .failed
  | .hungry => .hungry .between
  | .part rest => scanHeader boundary files rest

/-- One part after another. -/
theorem scanRest_eq (boundary : Bytes) (files : List FilePart) (bs : Bytes) :
    scanRest boundary files bs = scanLine boundary files (lineEnd bs) := by
  rw [scanRest, scanParts]
  cases hline : lineEnd bs with
  | last => rfl
  | failed => rfl
  | hungry => rfl
  | part rest =>
    dsimp only
    rw [scanLine, scanHeader]
    cases hend : headerEnd rest with
    | failed => rfl
    | hungry => rfl
    | header name data =>
      dsimp only
      rw [scanData]
      cases hcut : Bytes.cut? (dataEnd boundary) data with
      | none => cases name <;> rfl
      | some parts =>
        obtain ⟨content, after⟩ := parts
        have hrest := lineEnd_length hline
        have hdata := headerEnd_length hend
        have hafter := Bytes.cut?_length hcut
        cases name with
        | none => exact scanParts_fuel boundary _ _ (by omega) (Nat.lt_succ_self _)
        | some name => exact scanParts_fuel boundary _ _ (by omega) (Nat.lt_succ_self _)

end StorageGateway.Multipart
