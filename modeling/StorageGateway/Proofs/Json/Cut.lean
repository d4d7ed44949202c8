import Mathlib.Tactic.ByContra
import StorageGateway.Proofs.Json.Value

/-!
# Texts that are cut off or go on

A text of an array or an object is complete. What is cut off inside it is refused: the reader of
tokens stands inside a token or has not seen all of them, and the machine that builds values never
comes back to a state in which fewer tokens would do. What goes on behind it is refused as well.

## Main definitions

* `Json.lexFrom`: where the reader of tokens stands after a part of a text.

## Main results

* `Json.parse?_append`: nothing but white space may follow an array or an object.
* `Json.parse?_of_cut`: an array or an object that is cut off is refused.
-/

namespace StorageGateway.Json

/-! ### Reading in two pieces -/

/-- Where the reader of tokens stands after some bytes, with the tokens so far, last one first. -/
def lexFrom (seen : List Token) (s : Lexer) : Bytes → Option (List Token × Lexer)
  | [] => some (seen, s)
  | b :: rest => (s.next b).bind fun r => lexFrom (r.2.reverse ++ seen) r.1 rest

theorem tokensFrom_append (seen : List Token) (s : Lexer) (bs rest : Bytes) :
    tokensFrom seen s (bs ++ rest) =
      (lexFrom seen s bs).bind fun r => tokensFrom r.1 r.2 rest := by
  induction bs generalizing seen s with
  | nil => rfl
  | cons b bs ih =>
    rw [List.cons_append, tokensFrom, lexFrom]
    cases s.next b with
    | none => rfl
    | some r => exact ih _ _

/-- The tokens so far have no influence on those that follow. -/
theorem tokensFrom_eq (seen : List Token) (s : Lexer) (bs : Bytes) :
    tokensFrom seen s bs = (tokensFrom [] s bs).map (seen.reverse ++ ·) := by
  induction bs generalizing seen s with
  | nil =>
    rw [tokensFrom, tokensFrom, Option.map_map]
    rfl
  | cons b bs ih =>
    rw [tokensFrom, tokensFrom]
    cases s.next b with
    | none => rfl
    | some r =>
      simp only
      rw [ih, ih (r.2.reverse ++ []), Option.map_map]
      simp [Function.comp_def]

theorem Lexer.blank_of_begin {b : UInt8} (h : begin b = some (.between, [])) :
    b = 0x20 ∨ b = 0x09 ∨ b = 0x0A ∨ b = 0x0D := by
  have hother {p : Prop} [Decidable p] {r r' : Option (Lexer × List Token)}
      (hr : r ≠ some (.between, [])) (hr' : r' ≠ some (.between, [])) :
      (if p then r else r') ≠ some (.between, []) := by
    split <;> assumption
  by_contra hblank
  rw [begin, if_neg hblank] at h
  -- Every other byte ends a token or starts one.
  refine absurd h ?_
  repeat' apply hother
  all_goals nofun

/-- Only white space between two tokens leaves the reader between two tokens without having ended
one. -/
theorem Lexer.blank_of_next {s : Lexer} {b : UInt8} (h : s.next b = some (.between, [])) :
    s = .between ∧ (b = 0x20 ∨ b = 0x09 ∨ b = 0x0A ∨ b = 0x0D) := by
  cases s with
  | between => exact ⟨rfl, blank_of_begin h⟩
  | word token rest =>
    rcases rest with - | ⟨c, rest⟩
    · cases h
    · rw [next] at h
      split at h
      · split at h <;> cases h
      · cases h
  | number seen =>
    rw [next] at h
    split at h
    · cases h
    split at h
    · obtain ⟨r, -, hr⟩ := Option.map_eq_some_iff.mp h
      cases (Prod.mk.inj hr).2
    · cases h
  | string seen =>
    rw [next] at h
    repeat (split at h; · cases h)
    cases h
  | escape seen =>
    rw [next] at h
    split at h
    · cases h
    · obtain ⟨c, -, hc⟩ := Option.map_eq_some_iff.mp h
      cases hc
  | unicode seen missing value =>
    obtain ⟨d, -, hd⟩ := Option.map_eq_some_iff.mp h
    dsimp only at hd
    split at hd <;> cases hd

/-- A text without tokens is white space, and a reader inside a token finds one. -/
theorem isBlank_of_tokensFrom {s : Lexer} {bs : Bytes} (h : tokensFrom [] s bs = some []) :
    s = .between ∧ IsBlank bs := by
  induction bs generalizing s with
  | nil =>
    refine ⟨?_, fun _ hb => absurd hb List.not_mem_nil⟩
    cases s with
    | between => rfl
    | number seen =>
      rw [tokensFrom, Lexer.finish] at h
      split at h <;> cases h
    | _ => cases h
  | cons b bs ih =>
    rw [tokensFrom] at h
    split at h
    · cases h
    next s' ts hnext =>
      rw [tokensFrom_eq, List.append_nil, List.reverse_reverse] at h
      obtain ⟨us, hus, hempty⟩ := Option.map_eq_some_iff.mp h
      obtain ⟨rfl, rfl⟩ := List.append_eq_nil_iff.mp hempty
      obtain ⟨rfl, hblank⟩ := ih hus
      obtain ⟨rfl, hb⟩ := Lexer.blank_of_next hnext
      exact ⟨rfl, List.forall_mem_cons.mpr ⟨hb, hblank⟩⟩

/-- Inside a number the next token is one. -/
theorem number_of_tokensFrom {literal bs : Bytes} {ts : List Token}
    (h : tokensFrom [] (.number literal) bs = some ts) : ∃ t ∈ ts.head?, t.isNumber = true := by
  induction bs generalizing literal with
  | nil =>
    rw [tokensFrom, Lexer.finish] at h
    split at h
    · cases h
      exact ⟨_, rfl, rfl⟩
    · cases h
  | cons b bs ih =>
    rw [tokensFrom, Lexer.next] at h
    by_cases hb : isNumberByte b = true
    · rw [if_pos hb] at h
      exact ih h
    · rw [if_neg hb] at h
      by_cases hnumber : isNumber literal.reverse = true
      · rw [if_pos hnumber] at h
        cases hbegin : Lexer.begin b with
        | none =>
          rw [hbegin] at h
          cases h
        | some r =>
          rw [hbegin, Option.map_some] at h
          simp only at h
          rw [tokensFrom_eq] at h
          obtain ⟨us, -, rfl⟩ := Option.map_eq_some_iff.mp h
          exact ⟨.number literal.reverse, by simp, rfl⟩
      · rw [if_neg hnumber] at h
        cases h

/-! ### Complete and incomplete texts -/

namespace Parser

/-- Nothing is read after a value that stands alone. -/
theorem foldlM_done (v : Value) {ts : List Token} (h : ts ≠ []) :
    ts.foldlM next (.done v) = none := by
  obtain ⟨t, ts, rfl⟩ := List.exists_cons_of_ne_nil h
  rfl

theorem deliver_ne_start (v : Value) (stack : List Frame) : deliver v stack ≠ .value [] := by
  rcases stack with - | ⟨frame, stack⟩
  · nofun
  · cases frame <;> nofun

theorem begin_ne_start (stack : List Frame) (t : Token) : begin stack t ≠ some (.value []) := by
  cases t with
  | null | true | false | number | string =>
    exact fun h => deliver_ne_start _ _ (Option.some.inj h)
  | _ => nofun

/-- Nothing leads back to the start. -/
theorem next_ne_start (q : Parser) (t : Token) : next q t ≠ some (.value []) := by
  have hdeliver (v : Value) (stack : List Frame) : some (deliver v stack) ≠ some (.value []) :=
    fun h => deliver_ne_start v stack (Option.some.inj h)
  cases q with
  | value stack => exact begin_ne_start stack t
  | firstItem stack =>
    by_cases ht : t = .closeArray
    · subst ht
      exact hdeliver _ _
    · rw [next.eq_3 _ _ ht]
      exact begin_ne_start _ _
  | firstKey stack =>
    cases t with
    | closeObject => exact hdeliver _ _
    | _ => nofun
  | afterItem items stack =>
    cases t with
    | closeArray => exact hdeliver _ _
    | _ => nofun
  | afterMember members stack =>
    cases t with
    | closeObject => exact hdeliver _ _
    | _ => nofun
  | _ => cases t <;> nofun

/-- The machine is at its start only before the first token. -/
theorem eq_nil_of_foldlM {q : Parser} {ts : List Token}
    (h : ts.foldlM next q = some (.value [])) : ts = [] := by
  rcases List.eq_nil_or_concat' ts with rfl | ⟨front, t, rfl⟩
  · rfl
  · rw [List.foldlM_append] at h
    obtain ⟨q', -, h⟩ := Option.bind_eq_some_iff.mp h
    rw [List.foldlM_cons] at h
    obtain ⟨q'', hnext, h⟩ := Option.bind_eq_some_iff.mp h
    cases h
    exact absurd hnext (next_ne_start q' t)

/-- A number completes a value that stands alone only at the start. -/
theorem start_of_next_number {q : Parser} {literal : Bytes} {v : Value}
    (h : next q (.number literal) = some (.done v)) : q = .value [] := by
  cases q with
  | value stack =>
    rcases stack with - | ⟨frame, stack⟩
    · rfl
    · cases frame <;> cases h
  | _ => cases h

theorem eq_done_of_result? {q : Parser} {v : Value} (h : q.result? = some v) : q = .done v := by
  cases q with
  | done w => exact congrArg _ (Option.some.inj h)
  | _ => cases h

end Parser

theorem foldlM_of_ofTokens? {ts : List Token} {v : Value} (h : ofTokens? ts = some v) :
    ts.foldlM Parser.next (.value []) = some (.done v) := by
  obtain ⟨q, hq, hv⟩ := Option.bind_eq_some_iff.mp h
  rw [hq, Parser.eq_done_of_result? hv]

/-- More tokens than those of a value are no value. -/
theorem ofTokens?_append {ts : List Token} {v : Value} (h : ofTokens? ts = some v)
    {more : List Token} (hmore : more ≠ []) : ofTokens? (ts ++ more) = none := by
  rw [ofTokens?, List.foldlM_append, foldlM_of_ofTokens? h]
  exact congrArg (Option.bind · _) (Parser.foldlM_done v hmore)

/-- A value that ends with a number is this number. -/
theorem eq_nil_of_ofTokens? {ts : List Token} {literal : Bytes} {v : Value}
    (h : ofTokens? (ts ++ [.number literal]) = some v) : ts = [] := by
  have hrun := foldlM_of_ofTokens? h
  rw [List.foldlM_append] at hrun
  obtain ⟨q, hq, hrun⟩ := Option.bind_eq_some_iff.mp hrun
  rw [List.foldlM_cons] at hrun
  obtain ⟨q', hnext, hrun⟩ := Option.bind_eq_some_iff.mp hrun
  cases hrun
  rw [Parser.start_of_next_number hnext] at hq
  exact Parser.eq_nil_of_foldlM hq

/-- Nothing but white space may follow an array or an object. -/
theorem parse?_append {v : Value} (hv : v.isBracketed = true) {text : Bytes} (h : Text v text)
    {more : Bytes} (hmore : ¬IsBlank more) : parse? (text ++ more) = none := by
  have hread := tokensFrom_layout [] h v.separated_tokens more
    fun t ht hnumber => absurd hnumber (by simp [(Value.tokens_of_isBracketed hv).2 t ht])
  rw [List.append_nil, tokensFrom_eq v.tokens.reverse, List.reverse_reverse] at hread
  rw [parse?, tokens?, hread]
  cases hextra : tokensFrom [] .between more with
  | none => rfl
  | some extra =>
    have hne : extra ≠ [] := by
      rintro rfl
      exact hmore (isBlank_of_tokensFrom hextra).2
    exact ofTokens?_append (ofTokens?_tokens v) hne

/-- An array or an object that is cut off is refused. -/
theorem parse?_of_cut {v : Value} (hv : v.isBracketed = true) {front rest : Bytes}
    (h : Text v (front ++ rest)) (hrest : ¬IsBlank rest) : parse? front = none := by
  by_contra hsome
  obtain ⟨w, hw⟩ := Option.ne_none_iff_exists'.mp hsome
  obtain ⟨ts, hts, hvalue⟩ := Option.bind_eq_some_iff.mp hw
  have hall := tokensFrom_layout [] h v.separated_tokens []
    fun _ _ _ _ hb => nomatch hb
  rw [List.append_nil, List.append_nil, tokensFrom_append] at hall
  have hfront := tokensFrom_append [] .between front []
  rw [List.append_nil, show tokensFrom [] .between front = some ts from hts] at hfront
  obtain ⟨⟨seen, s⟩, hstate, hfinish⟩ := Option.bind_eq_some_iff.mp hfront.symm
  rw [hstate, Option.bind_some, tokensFrom_eq, tokensFrom, Lexer.finish, Option.map_some,
    List.reverse_reverse, List.append_nil] at hall
  obtain ⟨extra, hextra, htokens⟩ := Option.map_eq_some_iff.mp hall
  dsimp only at hextra htokens hfinish
  cases s with
  | between =>
    have hne : extra ≠ [] := by
      rintro rfl
      exact hrest (isBlank_of_tokensFrom hextra).2
    rw [tokensFrom, Lexer.finish, Option.map_some, List.append_nil, Option.some.injEq] at hfinish
    rw [← hfinish] at hvalue
    have hmore := ofTokens?_append hvalue hne
    rw [htokens, ofTokens?_tokens] at hmore
    cases hmore
  | number literal =>
    -- A number that ends the front would be the first token of the whole.
    rw [tokensFrom, Lexer.finish] at hfinish
    split at hfinish
    · rw [Option.map_some, Option.some.injEq] at hfinish
      rw [← hfinish] at hvalue
      rw [eq_nil_of_ofTokens? hvalue, List.nil_append] at htokens
      obtain ⟨t, ht, hnumber⟩ := number_of_tokensFrom hextra
      rw [htokens] at ht
      rw [(Value.tokens_of_isBracketed hv).1 t ht] at hnumber
      cases hnumber
    · cases hfinish
  | _ => cases hfinish

end StorageGateway.Json
