import Mathlib.Data.String.Basic
import StorageGateway.Browser
import StorageGateway.Proofs.Cookie.Field
import StorageGateway.Proofs.Cookie.Table

/-!
# The browser's store between two requests

A `set-cookie` line of the gateway changes one entry of the store, the one under the encoded name
of the cookie. The next request carries the entries in the order of their names, which does not
depend on the order in which they were received.

## Main definitions

* `Cookie.Change.value?`: the value of a cookie after a change.
* `Browser.Store.change`: the store after a change of one cookie.
* `Browser.Store.pairs`: the pairs of names and values that the next request is read as.

## Main results

* `Browser.Store.receiveLine_line`: taking note of a line is that change.
* `Browser.Store.sorted_eq_of_perm`: the order of receiving does not matter.
* `Browser.Store.pairsOfField_cookieField?`: reading what the browser sends.
-/

namespace StorageGateway

/-- The value of a cookie after a change; an empty value is none. -/
def Cookie.Change.value? : Cookie.Change → Option String
  | .store value => if value = "" then none else some value
  | .expire => none

theorem Cookie.Change.value?_ne_empty (c : Cookie.Change) : c.value? ≠ some "" := by
  cases c with
  | store value =>
    rw [value?]
    split
    · simp
    · next h => simpa using h
  | expire => simp [value?]

namespace Browser.Store

open Cookie

/-! ### Receiving -/

/-- The store after a change of one cookie. -/
def change (store : Store) (name : String) (c : Change) : Store :=
  match c.value? with
  | some value => Table.put store (encoded name) (encoded value)
  | none => Table.drop store (encoded name)

theorem takeWhile_of_mem {p : Char → Bool} {s : List Char} (h : ∀ c ∈ s, p c = true) {d : Char}
    (hd : p d = false) (rest : List Char) : (s ++ d :: rest).takeWhile p = s := by
  rw [List.takeWhile_append_of_pos h, List.takeWhile_cons_of_neg (by simp [hd]), List.append_nil]

theorem dropWhile_of_mem {p : Char → Bool} {s : List Char} (h : ∀ c ∈ s, p c = true) {d : Char}
    (hd : p d = false) (rest : List Char) : (s ++ d :: rest).dropWhile p = d :: rest := by
  rw [List.dropWhile_append_of_pos h, List.dropWhile_cons_of_neg (by simp [hd])]

/-- A line is read up to its first semicolon, and the pair before it at its first equals sign. -/
theorem receiveLine_pair (store : Store) (name value rest : String) :
    receiveLine store (pairText name value ++ ";" ++ rest) =
      if encoded value = "" then Table.drop store (encoded name)
      else Table.put store (encoded name) (encoded value) := by
  have hline : (pairText name value ++ ";" ++ rest).toList =
      ((encoded name).toList ++ '=' :: (encoded value).toList) ++ ';' :: rest.toList := by
    simp [pairText, encoded]
  have hsemicolon : ∀ c ∈ (encoded name).toList ++ '=' :: (encoded value).toList,
      decide (c ≠ ';') = true := by
    intro c hc
    rw [decide_eq_true_eq]
    rcases List.mem_append.mp hc with hc | hc
    · exact (isPairChar_of_mem_encoded c hc).1
    · rcases List.mem_cons.mp hc with rfl | hc
      · decide
      · exact (isPairChar_of_mem_encoded c hc).1
  have hequals : ∀ c ∈ (encoded name).toList, decide (c ≠ '=') = true := by
    intro c hc
    rw [decide_eq_true_eq]
    exact (isPairChar_of_mem_encoded c hc).2.1
  rw [receiveLine, hline, takeWhile_of_mem hsemicolon (by decide),
    takeWhile_of_mem hequals (by decide), dropWhile_of_mem hequals (by decide), List.drop_succ_cons,
    List.drop_zero, String.ofList_toList, String.ofList_toList]
  simp only [String.isEmpty_iff]

/-- A line of the gateway has the pair of its cookie before the first semicolon. -/
theorem line_eq (p : Policy) (name : String) (c : Change) :
    ∃ rest, line p name c =
      pairText name (match c with | .store value => value | .expire => "") ++ ";" ++ rest := by
  cases c with
  | store value =>
    refine ⟨" HttpOnly; SameSite=Lax" ++ (if p.secure then "; Secure" else "") ++
      "; Path=/; Max-Age=" ++ toString p.maxAge, ?_⟩
    rw [line, show "; HttpOnly; SameSite=Lax" = ";" ++ " HttpOnly; SameSite=Lax" from rfl]
    simp only [String.append_assoc]
  | expire =>
    refine ⟨" Path=/; Max-Age=0; Expires=" ++ longAgo, ?_⟩
    rw [line, show "; Path=/; Max-Age=0; Expires=" = ";" ++ " Path=/; Max-Age=0; Expires=" from rfl]
    simp only [String.append_assoc]

theorem toAscii_append (bs cs : Bytes) :
    Bytes.toAscii (bs ++ cs) = Bytes.toAscii bs ++ Bytes.toAscii cs := by
  simp [Bytes.toAscii]

theorem toAscii_pairText (name value : String) :
    Bytes.toAscii (Bytes.ofAscii (pairText name value)) = pairText name value := by
  refine Bytes.toAscii_ofAscii fun c hc => ?_
  have hmem : c ∈ (encoded name).toList ∨ c = '=' ∨ c ∈ (encoded value).toList := by
    simpa [pairText, encoded, or_assoc] using hc
  rcases hmem with hc | rfl | hc
  · exact Nat.lt_trans (isPairChar_of_mem_encoded c hc).2.2.2 (by decide)
  · decide
  · exact Nat.lt_trans (isPairChar_of_mem_encoded c hc).2.2.2 (by decide)

/-- Taking note of a line of the gateway changes one cookie. -/
theorem receiveLine_line (store : Store) (p : Policy) (name : String) (c : Change) :
    receiveLine store (Bytes.toAscii (Bytes.ofAscii (line p name c))) = store.change name c := by
  obtain ⟨rest, hline⟩ := line_eq p name c
  rw [hline, Bytes.ofAscii_append, Bytes.ofAscii_append, toAscii_append, toAscii_append,
    toAscii_pairText, show Bytes.toAscii (Bytes.ofAscii ";") = ";" from rfl, receiveLine_pair]
  cases c with
  | store value => by_cases h : value = "" <;> simp [change, Change.value?, h]
  | expire => simp [change, Change.value?]

/-! ### Changes -/

theorem drop_change (store : Store) (name : String) (c : Change) :
    Table.drop (store.change name c) (encoded name) = Table.drop store (encoded name) := by
  rw [change]
  split
  · exact Table.drop_put _ _ _
  · exact Table.drop_drop _ _

theorem isMap_change {store : Store} (h : Table.IsMap store) (name : String) (c : Change) :
    Table.IsMap (store.change name c) := by
  rw [change]
  split
  · exact h.put _ _
  · exact h.drop _

/-- The entries of a store after a change. -/
theorem mem_change {store : Store} {name : String} {c : Change} {p : String × String}
    (h : p ∈ store.change name c) :
    p ∈ store ∧ p.1 ≠ encoded name ∨ ∃ value, p = (encoded name, encoded value) := by
  rw [change] at h
  split at h
  · next value _ => exact (Table.mem_put.mp h).imp_right fun hp => ⟨value, hp⟩
  · exact .inl (Table.mem_drop.mp h)

theorem get?_change (store : Store) (name : String) (c : Change) (raw : String) :
    Table.get? (store.change name c) raw =
      if raw = encoded name then c.value?.map encoded else Table.get? store raw := by
  rw [change]
  split
  · next h => rw [Table.get?_put, h, Option.map_some]
  · next h => rw [Table.get?_drop, h, Option.map_none]

/-! ### Order -/

theorem perm_sorted (store : Store) : store.sorted.Perm store := List.mergeSort_perm _ _

theorem pairwise_sorted (store : Store) : store.sorted.Pairwise fun p q => p.1 ≤ q.1 := by
  have htrans (p q r : String × String) (hpq : decide (p.1 ≤ q.1)) (hqr : decide (q.1 ≤ r.1)) :
      decide (p.1 ≤ r.1) = true := by
    rw [decide_eq_true_eq] at hpq hqr ⊢
    exact le_trans hpq hqr
  have htotal (p q : String × String) : (decide (p.1 ≤ q.1) || decide (q.1 ≤ p.1)) = true := by
    rw [Bool.or_eq_true, decide_eq_true_eq, decide_eq_true_eq]
    exact le_total p.1 q.1
  exact (List.pairwise_mergeSort htrans htotal store).imp fun h => decide_eq_true_eq.mp h

/-- Entries of a map with the same name are the same. -/
theorem eq_of_mem {store : Store} (h : Table.IsMap store) {p q : String × String}
    (hp : p ∈ store) (hq : q ∈ store) (hname : p.1 = q.1) : p = q := by
  have hvalue := (Table.mem_iff_get? h).mp (show (p.1, p.2) ∈ store from hp)
  rw [hname, (Table.mem_iff_get? h).mp (show (q.1, q.2) ∈ store from hq)] at hvalue
  exact Prod.ext hname (Option.some.inj hvalue).symm

/-- An ordered list of the entries of a store is the one that is sent. -/
theorem eq_sorted {store : Store} (h : Table.IsMap store) {entries : List (String × String)}
    (hperm : entries.Perm store) (hordered : entries.Pairwise fun p q => p.1 ≤ q.1) :
    entries = store.sorted := by
  refine List.Perm.eq_of_pairwise (fun p q hp hq hpq hqp => ?_) hordered (pairwise_sorted store)
    (hperm.trans (perm_sorted store).symm)
  exact eq_of_mem h (hperm.subset hp) ((perm_sorted store).subset hq) (le_antisymm hpq hqp)

/-- The order of receiving does not matter. -/
theorem sorted_eq_of_perm {store other : Store} (h : Table.IsMap store) (hperm : other.Perm store) :
    other.sorted = store.sorted :=
  eq_sorted h ((perm_sorted other).trans hperm) (pairwise_sorted other)

theorem drop_sorted {store : Store} (h : Table.IsMap store) (name : String) :
    Table.drop store.sorted name = Store.sorted (Table.drop store name) :=
  eq_sorted (h.drop name) ((perm_sorted store).filter _) ((pairwise_sorted store).filter _)

/-! ### Sending -/

/-- The pairs of names and values that the next request is read as. -/
def pairs (store : Store) : List (String × String) :=
  if store.all fun p => isVisible (entryBytes p) then
    store.sorted.flatMap fun p => splitPairs (entryBytes p)
  else []

theorem all_sorted (store : Store) (p : String × String → Bool) :
    store.sorted.all p = store.all p :=
  (perm_sorted store).all_eq

/-- The field of the next request is read as the pairs of the store. -/
theorem pairsOfField_cookieField? (store : Store) :
    store.cookieField?.toList.flatMap (fun h => pairsOfField h.value) = store.pairs := by
  rw [cookieField?]
  split
  · next h =>
    rw [List.isEmpty_iff.mp h]
    simp [pairs, sorted]
  · rw [Option.toList_some, List.flatMap_singleton]
    change pairsOfField (Bytes.ofAscii (fieldText store.sorted)) = _
    rw [pairsOfField_fieldText, all_sorted]
    rfl

theorem name_cookieField? {store : Store} {h : Header} (hfield : h ∈ store.cookieField?) :
    h.name = "cookie" := by
  rw [cookieField?] at hfield
  split at hfield
  · cases hfield
  · cases hfield
    rfl

end Browser.Store

end StorageGateway
