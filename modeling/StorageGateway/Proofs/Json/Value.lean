import StorageGateway.Json.Value
import StorageGateway.Proofs.Json.Token

/-!
# The texts of values

A value is written as a list of tokens, and each text of these tokens is a text of the value. The
machine that builds values arrives at the value from each of its texts.

## Main definitions

* `Json.Value.tokens`: the tokens of a value.
* `Json.Text`: the texts of a value.

## Main results

* `Json.parse?_of_text`: a value is read from each of its texts.
-/

namespace StorageGateway.Json

/-! ### The grammar -/

namespace Value

mutual

/-- The tokens of a value. -/
def tokens : Value → List Token
  | .null => [.null]
  | .bool b => [if b then .true else .false]
  | .number literal => [.number literal]
  | .string literal => [.string literal]
  | .array [] => [.openArray, .closeArray]
  | .array (v :: items) => .openArray :: (tokens v ++ itemTokens items)
  | .object [] => [.openObject, .closeObject]
  | .object ((key, v) :: members) =>
    .openObject :: .string key :: .colon :: (tokens v ++ memberTokens members)

/-- The tokens after an item of an array. -/
def itemTokens : List Value → List Token
  | [] => [.closeArray]
  | v :: items => .comma :: (tokens v ++ itemTokens items)

/-- The tokens after a member of an object. -/
def memberTokens : List (Literal × Value) → List Token
  | [] => [.closeObject]
  | (key, v) :: members => .comma :: .string key :: .colon :: (tokens v ++ memberTokens members)

end

end Value

/-- The texts of a value. -/
def Text (v : Value) (text : Bytes) : Prop := Layout v.tokens text

/-- Arrays and objects, which stand between brackets. -/
def Value.isBracketed : Value → Bool
  | .array _ | .object _ => Bool.true
  | _ => Bool.false

/-! ### Tokens of values -/

theorem Separated.cons {t : Token} (ht : t.isNumber = false) {ts : List Token} (h : Separated ts) :
    Separated (t :: ts) := List.isChain_cons.mpr ⟨fun _ _ => .inl ht, h⟩

theorem Separated.append {ts us : List Token} (hts : Separated ts) (hus : Separated us)
    (hhead : ∀ u ∈ us.head?, u.isNumber = false) : Separated (ts ++ us) :=
  List.isChain_append.mpr ⟨hts, hus, fun _ _ u hu => .inr (hhead u hu)⟩

namespace Value

theorem head_itemTokens (items : List Value) :
    ∀ t ∈ (itemTokens items).head?, t.isNumber = false := by
  cases items <;> exact fun t ht => Option.some.inj ht ▸ rfl

theorem head_memberTokens (members : List (Literal × Value)) :
    ∀ t ∈ (memberTokens members).head?, t.isNumber = false := by
  rcases members with - | ⟨⟨key, v⟩, members⟩ <;> exact fun t ht => Option.some.inj ht ▸ rfl

mutual

/-- In the tokens of a value no two numbers meet. -/
theorem separated_tokens : (v : Value) → Separated v.tokens
  | .null | .bool _ | .number _ | .string _ => List.isChain_singleton _
  | .array [] | .object [] => .cons rfl (List.isChain_singleton _)
  | .array (v :: items) =>
    .cons rfl ((separated_tokens v).append (separated_itemTokens items) (head_itemTokens items))
  | .object ((_, v) :: members) =>
    .cons rfl (.cons rfl (.cons rfl
      ((separated_tokens v).append (separated_memberTokens members) (head_memberTokens members))))

theorem separated_itemTokens : (items : List Value) → Separated (itemTokens items)
  | [] => List.isChain_singleton _
  | v :: items =>
    .cons rfl ((separated_tokens v).append (separated_itemTokens items) (head_itemTokens items))

theorem separated_memberTokens :
    (members : List (Literal × Value)) → Separated (memberTokens members)
  | [] => List.isChain_singleton _
  | (_, v) :: members =>
    .cons rfl (.cons rfl (.cons rfl
      ((separated_tokens v).append (separated_memberTokens members) (head_memberTokens members))))

end

/-- A value starts with no closing bracket, so that a first item is read like any other value. -/
theorem tokens_start (v : Value) : ∃ t ts, v.tokens = t :: ts ∧
    ∀ stack, Parser.next (.firstItem stack) t = Parser.next (.value (.array [] :: stack)) t := by
  cases v with
  | null => exact ⟨_, _, rfl, fun _ => rfl⟩
  | bool b => cases b <;> exact ⟨_, _, rfl, fun _ => rfl⟩
  | number => exact ⟨_, _, rfl, fun _ => rfl⟩
  | string => exact ⟨_, _, rfl, fun _ => rfl⟩
  | array items => cases items <;> exact ⟨_, _, rfl, fun _ => rfl⟩
  | object members =>
    rcases members with - | ⟨⟨key, v⟩, members⟩ <;> exact ⟨_, _, rfl, fun _ => rfl⟩

theorem itemTokens_concat (items : List Value) :
    ∃ ts, itemTokens items = ts ++ [.closeArray] := by
  induction items with
  | nil => exact ⟨[], rfl⟩
  | cons v items ih =>
    obtain ⟨ts, hts⟩ := ih
    exact ⟨.comma :: (v.tokens ++ ts), by rw [itemTokens, hts]; simp⟩

theorem memberTokens_concat (members : List (Literal × Value)) :
    ∃ ts, memberTokens members = ts ++ [.closeObject] := by
  induction members with
  | nil => exact ⟨[], rfl⟩
  | cons m members ih =>
    obtain ⟨ts, hts⟩ := ih
    exact ⟨.comma :: .string m.1 :: .colon :: (m.2.tokens ++ ts), by rw [memberTokens, hts]; simp⟩

/-- An array or an object starts and ends with a bracket. -/
theorem tokens_of_isBracketed {v : Value} (h : v.isBracketed = true) :
    (∀ t ∈ v.tokens.head?, t.isNumber = false) ∧ ∀ t ∈ v.tokens.getLast?, t.isNumber = false := by
  have hlast (front : List Token) (t : Token) (ht : t.isNumber = false) :
      ∀ u ∈ (front ++ [t]).getLast?, u.isNumber = false := by
    intro u hu
    rw [List.getLast?_concat] at hu
    exact Option.some.inj hu ▸ ht
  cases v with
  | null | bool | number | string => cases h
  | array items =>
    rcases items with - | ⟨v, items⟩
    · exact ⟨fun t ht => Option.some.inj ht ▸ rfl, fun t ht => Option.some.inj ht ▸ rfl⟩
    · obtain ⟨ts, hts⟩ := itemTokens_concat items
      refine ⟨fun t ht => Option.some.inj ht ▸ rfl, ?_⟩
      rw [tokens, hts, ← List.append_assoc]
      exact hlast (.openArray :: (v.tokens ++ ts)) .closeArray rfl
  | object members =>
    rcases members with - | ⟨⟨key, v⟩, members⟩
    · exact ⟨fun t ht => Option.some.inj ht ▸ rfl, fun t ht => Option.some.inj ht ▸ rfl⟩
    · obtain ⟨ts, hts⟩ := memberTokens_concat members
      refine ⟨fun t ht => Option.some.inj ht ▸ rfl, ?_⟩
      rw [tokens, hts, ← List.append_assoc]
      exact hlast (.openObject :: .string key :: .colon :: (v.tokens ++ ts)) .closeObject rfl

end Value

/-! ### Values inside a value -/

namespace Value

variable {t : Token}

theorem mem_itemTokens {v : Value} {items : List Value} (h : v ∈ items) (ht : t ∈ v.tokens) :
    t ∈ itemTokens items := by
  induction h with
  | head items => simp [itemTokens, ht]
  | tail w _ ih => simp [itemTokens, ih]

theorem mem_memberTokens {m : Literal × Value} {members : List (Literal × Value)}
    (h : m ∈ members) (ht : t ∈ m.2.tokens) : t ∈ memberTokens members := by
  induction h with
  | head members => simp [memberTokens, ht]
  | tail m' _ ih => simp [memberTokens, ih]

/-- The tokens of an item are tokens of the array. -/
theorem mem_tokens_array {v : Value} {items : List Value} (h : v ∈ items) (ht : t ∈ v.tokens) :
    t ∈ (array items).tokens := by
  cases h with
  | head items => simp [tokens, ht]
  | tail w h => simp [tokens, mem_itemTokens h ht]

/-- The tokens of a member's value are tokens of the object. -/
theorem mem_tokens_object {m : Literal × Value} {members : List (Literal × Value)}
    (h : m ∈ members) (ht : t ∈ m.2.tokens) : t ∈ (object members).tokens := by
  cases h with
  | head members => simp [tokens, ht]
  | tail m' h => simp [tokens, mem_memberTokens h ht]

end Value

/-! ### Reading values -/

namespace Parser

open Value

theorem foldlM_cons {q q' : Parser} {t : Token} (h : next q t = some q') (ts : List Token) :
    (t :: ts).foldlM next q = ts.foldlM next q' := by
  rw [List.foldlM_cons, h]
  rfl

theorem foldlM_firstItem (v : Value) (stack : List Frame) (rest : List Token) :
    (v.tokens ++ rest).foldlM next (.firstItem stack) =
      (v.tokens ++ rest).foldlM next (.value (.array [] :: stack)) := by
  obtain ⟨t, ts, htokens, hstart⟩ := v.tokens_start
  rw [htokens, List.cons_append, List.foldlM_cons, List.foldlM_cons, hstart]

mutual

/-- The machine reads the tokens of a value and delivers it. -/
theorem foldlM_tokens (stack : List Frame) (rest : List Token) : (v : Value) →
    (v.tokens ++ rest).foldlM next (.value stack) = rest.foldlM next (deliver v stack)
  | .null | .number _ | .string _ | .bool true | .bool false => foldlM_cons rfl rest
  | .array [] | .object [] => (foldlM_cons rfl _).trans (foldlM_cons rfl rest)
  | .array (v :: items) => by
    have hopen : next (.value stack) .openArray = some (.firstItem stack) := rfl
    rw [tokens, List.cons_append, foldlM_cons hopen, List.append_assoc, foldlM_firstItem,
      foldlM_tokens _ _ v]
    exact foldlM_itemTokens [v] stack rest items
  | .object ((name, v) :: members) => by
    have hopen : next (.value stack) .openObject = some (.firstKey stack) := rfl
    have hkey : next (.firstKey stack) (.string name) = some (.colon [] name stack) := rfl
    have hcolon : next (.colon [] name stack) .colon =
        some (.value (.object [] name :: stack)) := rfl
    rw [tokens, List.cons_append, List.cons_append, List.cons_append, foldlM_cons hopen,
      foldlM_cons hkey, foldlM_cons hcolon, List.append_assoc, foldlM_tokens _ _ v]
    exact foldlM_memberTokens [(name, v)] stack rest members

theorem foldlM_itemTokens (before : List Value) (stack : List Frame) (rest : List Token) :
    (items : List Value) → (itemTokens items ++ rest).foldlM next (.afterItem before stack) =
      rest.foldlM next (deliver (.array (before.reverse ++ items)) stack)
  | [] => by
    rw [List.append_nil]
    exact foldlM_cons rfl rest
  | v :: items => by
    have hcomma : next (.afterItem before stack) .comma =
        some (.value (.array before :: stack)) := rfl
    rw [itemTokens, List.cons_append, foldlM_cons hcomma, List.append_assoc, foldlM_tokens _ _ v,
      deliver, foldlM_itemTokens (v :: before) stack rest items, List.reverse_cons,
      List.append_assoc]
    rfl

theorem foldlM_memberTokens (before : List (Literal × Value)) (stack : List Frame)
    (rest : List Token) : (members : List (Literal × Value)) →
      (memberTokens members ++ rest).foldlM next (.afterMember before stack) =
        rest.foldlM next (deliver (.object (before.reverse ++ members)) stack)
  | [] => by
    rw [List.append_nil]
    exact foldlM_cons rfl rest
  | (name, v) :: members => by
    have hcomma : next (.afterMember before stack) .comma = some (.key before stack) := rfl
    have hkey : next (.key before stack) (.string name) = some (.colon before name stack) := rfl
    have hcolon : next (.colon before name stack) .colon =
        some (.value (.object before name :: stack)) := rfl
    rw [memberTokens, List.cons_append, List.cons_append, List.cons_append, foldlM_cons hcomma,
      foldlM_cons hkey, foldlM_cons hcolon, List.append_assoc, foldlM_tokens _ _ v, deliver,
      foldlM_memberTokens ((name, v) :: before) stack rest members, List.reverse_cons,
      List.append_assoc]
    rfl

end

end Parser

theorem ofTokens?_tokens (v : Value) : ofTokens? v.tokens = some v := by
  have hrun := Parser.foldlM_tokens [] [] v
  rw [List.append_nil] at hrun
  rw [ofTokens?, hrun]
  rfl

/-- A value is read from each of its texts. -/
theorem parse?_of_text {v : Value} {text : Bytes} (h : Text v text) : parse? text = some v := by
  have hread := tokensFrom_layout [] h v.separated_tokens []
    fun _ _ _ _ hb => nomatch hb
  rw [List.append_nil, List.append_nil] at hread
  rw [parse?, tokens?, hread, tokensFrom, Lexer.finish, Option.map_some, List.reverse_reverse,
    List.append_nil, Option.bind_some, ofTokens?_tokens]

end StorageGateway.Json
