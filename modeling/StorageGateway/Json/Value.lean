import StorageGateway.Json.Token

/-!
# JSON values

Values are built from tokens by a machine with a stack of the arrays and objects that are still
open, so that texts may nest to any depth. Members of an object keep their order and repetitions:
what a repeated name means is for the reader of the object to say.

## Main definitions

* `Json.Value`: a JSON value.
* `Json.parse?`: the value of a JSON text.
-/

namespace StorageGateway.Json

/-- A JSON value. -/
inductive Value where
  | null
  | bool (b : Bool)
  | number (literal : Bytes)
  | string (literal : Literal)
  | array (items : List Value)
  | object (members : List (Literal × Value))
  deriving Repr

/-- An array or object that is still open, with what it holds so far, last one first. -/
inductive Frame where
  | array (items : List Value)
  /-- An object waiting for the value of the member `key`. -/
  | object (members : List (Literal × Value)) (key : Literal)

/-- What may come next. The stack holds the open arrays and objects, the innermost first. -/
inductive Parser where
  /-- A value. -/
  | value (stack : List Frame)
  /-- A value, or the end of an array that is still empty. -/
  | firstItem (stack : List Frame)
  /-- A member, or the end of an object that is still empty. -/
  | firstKey (stack : List Frame)
  /-- A further member. -/
  | key (members : List (Literal × Value)) (stack : List Frame)
  /-- The colon after a key. -/
  | colon (members : List (Literal × Value)) (key : Literal) (stack : List Frame)
  /-- A comma or the end of an array. -/
  | afterItem (items : List Value) (stack : List Frame)
  /-- A comma or the end of an object. -/
  | afterMember (members : List (Literal × Value)) (stack : List Frame)
  /-- Nothing more. -/
  | done (v : Value)

/-- A value is complete inside the open arrays and objects. -/
def Parser.deliver (v : Value) : List Frame → Parser
  | [] => .done v
  | .array items :: stack => .afterItem (v :: items) stack
  | .object members k :: stack => .afterMember ((k, v) :: members) stack

/-- The token starts a value. -/
def Parser.begin (stack : List Frame) : Token → Option Parser
  | .null => some (deliver .null stack)
  | .true => some (deliver (.bool true) stack)
  | .false => some (deliver (.bool false) stack)
  | .number l => some (deliver (.number l) stack)
  | .string l => some (deliver (.string l) stack)
  | .openArray => some (.firstItem stack)
  | .openObject => some (.firstKey stack)
  | _ => none

/-- One more token. -/
def Parser.next : Parser → Token → Option Parser
  | .value stack, t => begin stack t
  | .firstItem stack, .closeArray => some (deliver (.array []) stack)
  | .firstItem stack, t => begin (.array [] :: stack) t
  | .firstKey stack, .closeObject => some (deliver (.object []) stack)
  | .firstKey stack, .string k => some (.colon [] k stack)
  | .firstKey _, _ => none
  | .key members stack, .string k => some (.colon members k stack)
  | .key .., _ => none
  | .colon members k stack, .colon => some (.value (.object members k :: stack))
  | .colon .., _ => none
  | .afterItem items stack, .comma => some (.value (.array items :: stack))
  | .afterItem items stack, .closeArray => some (deliver (.array items.reverse) stack)
  | .afterItem .., _ => none
  | .afterMember members stack, .comma => some (.key members stack)
  | .afterMember members stack, .closeObject => some (deliver (.object members.reverse) stack)
  | .afterMember .., _ => none
  | .done _, _ => none

/-- The value that a state has arrived at. -/
def Parser.result? : Parser → Option Value
  | .done v => some v
  | _ => none

/-- The value of a list of tokens. -/
def ofTokens? (ts : List Token) : Option Value :=
  (ts.foldlM Parser.next (.value [])).bind Parser.result?

/-- The value of a JSON text; `none` when it is no JSON text. -/
def parse? (bs : Bytes) : Option Value := (tokens? bs).bind ofTokens?

namespace Value

/-- The text of a string. -/
def text? : Value → Option String
  | .string l => l.text?
  | _ => none

/-- The value of an integer that fits into 64 bits with a sign. -/
def int64? : Value → Option Int
  | .number l =>
    (integer? l).bind fun n =>
      if -9223372036854775808 ≤ n ∧ n ≤ 9223372036854775807 then some n else none
  | _ => none

/-- The members of an object with their names as text; `none` when a name spells no text. -/
def namedMembers? (members : List (Literal × Value)) : Option (List (String × Value)) :=
  members.mapM fun m => m.1.text?.map fun name => (name, m.2)

/-- The value of the only member of that name. -/
def only? (name : String) (members : List (String × Value)) : Option Value :=
  match members.filter (·.1 == name) with
  | [m] => some m.2
  | _ => none

/-- The values of a record's fields, each of which occurs exactly once. A record is an object, in
which further members may stand, or an array of the values in the order of the fields. -/
def fields? (names : List String) : Value → Option (List Value)
  | .object members =>
    (namedMembers? members).bind fun ms => names.mapM fun name => only? name ms
  | .array items => if items.length = names.length then some items else none
  | _ => none

end Value

end StorageGateway.Json
