import StorageGateway.Json.Value
import StorageGateway.Proofs.Json.Literal
import StorageGateway.Proofs.Text.Parts

/-!
# Records

A record is read from an object whose keys are all text and in which each field stands exactly
once; the order of the members and the other members do not count. What can be wrong with the keys
is listed: one spells no text, a field is missing, or a field stands twice.

## Main definitions

* `Json.HasOnly`: the only member with a name.
* `Json.Value.Spells`: the texts that values spell.
* `Json.KeysFail`: what can be wrong with the keys of a record.

## Main results

* `Json.fields?_object_eq_some_iff`: the fields of a record.
* `Json.keysFail_iff`: the keys of a record are in order, or something is wrong with them.
-/

namespace StorageGateway.Json

variable {members : List (Literal × Value)}

/-- A name has one member, whose value is given. -/
def HasOnly (members : List (Literal × Value)) (name : String) (v : Value) : Prop :=
  ∃ before key after, members = before ++ (key, v) :: after ∧ key.Spells name ∧
    ∀ m ∈ before ++ after, ¬m.1.Spells name

/-- The texts that a value spells, which is a string. -/
def Value.Spells : Value → String → Prop
  | .string l, s => l.Spells s
  | _, _ => False

/-- All keys are text. -/
def HasTextKeys (members : List (Literal × Value)) : Prop :=
  ∀ m ∈ members, ∃ name, m.1.Spells name

/-- What can be wrong with the keys of a record. -/
inductive KeysFail (names : List String) (members : List (Literal × Value)) : Prop
  | noText {m : Literal × Value} (mem : m ∈ members) (noText : ∀ name, ¬m.1.Spells name)
  | absent {name : String} (mem : name ∈ names) (absent : ∀ m ∈ members, ¬m.1.Spells name)
  | repeated {name : String} (mem : name ∈ names) {before between after : List (Literal × Value)}
      {m m' : Literal × Value} (eq : members = before ++ m :: between ++ m' :: after)
      (first : m.1.Spells name) (second : m'.1.Spells name)

/-! ### Members with a name -/

/-- The members with a name, in order. -/
def membersNamed (name : String) (members : List (Literal × Value)) : List (Literal × Value) :=
  members.filter fun m => m.1.text? == some name

theorem text?_beq_iff {l : Literal} {name : String} :
    (l.text? == some name) = true ↔ l.Spells name := by
  rw [beq_iff_eq, text?_eq_some_iff]

theorem hasOnly_iff {name : String} {v : Value} :
    HasOnly members name v ↔ ∃ key, membersNamed name members = [(key, v)] := by
  simp only [membersNamed, List.filter_eq_cons_iff, List.filter_eq_nil_iff, text?_beq_iff]
  constructor
  · rintro ⟨before, key, after, rfl, hkey, hothers⟩
    rw [List.forall_mem_append] at hothers
    exact ⟨key, before, after, rfl, hothers.1, hkey, hothers.2⟩
  · rintro ⟨key, before, after, rfl, hbefore, hkey, hafter⟩
    exact ⟨before, key, after, rfl, hkey, List.forall_mem_append.mpr ⟨hbefore, hafter⟩⟩

/-- Whether a member is the only one with its name is seen from the texts of the keys. -/
theorem HasOnly.of_text? (before after : List (Literal × Value)) {key : Literal} {v : Value}
    {name : String} (hkey : key.text? = some name)
    (hothers : ∀ m ∈ before ++ after, m.1.text? ≠ some name) :
    HasOnly (before ++ (key, v) :: after) name v :=
  ⟨before, key, after, rfl, text?_eq_some_iff.mp hkey,
    fun m hm hname => hothers m hm (text?_eq_some_iff.mpr hname)⟩

theorem hasTextKeys_iff : HasTextKeys members ↔ ∀ m ∈ members, m.1.text?.isSome := by
  simp only [HasTextKeys, Option.isSome_iff_exists, text?_eq_some_iff]

/-- A name has at most one value. -/
theorem HasOnly.unique {name : String} {v w : Value} (hv : HasOnly members name v)
    (hw : HasOnly members name w) : v = w := by
  obtain ⟨key, hkey⟩ := hasOnly_iff.mp hv
  obtain ⟨key', hkey'⟩ := hasOnly_iff.mp hw
  rw [hkey, List.cons.injEq, Prod.mk.injEq] at hkey'
  exact hkey'.1.2

/-- A name has one member, or none, or more. -/
theorem hasOnly_or (members : List (Literal × Value)) (name : String) :
    (∃ v, HasOnly members name v) ∨ (∀ m ∈ members, ¬m.1.Spells name) ∨
      ∃ before m between m' after, members = before ++ m :: between ++ m' :: after ∧
        m.1.Spells name ∧ m'.1.Spells name := by
  rcases hnamed : membersNamed name members with - | ⟨m, - | ⟨m', others⟩⟩
  · simp only [membersNamed, List.filter_eq_nil_iff, text?_beq_iff] at hnamed
    exact .inr (.inl hnamed)
  · exact .inl ⟨m.2, hasOnly_iff.mpr ⟨m.1, hnamed⟩⟩
  · simp only [membersNamed, List.filter_eq_cons_iff, text?_beq_iff] at hnamed
    obtain ⟨before, rest, rfl, -, hm, between, after, rfl, -, hm', -⟩ := hnamed
    exact .inr (.inr ⟨before, m, between, m', after, by simp, hm, hm'⟩)

/-- The keys of a record are in order, or something is wrong with them. -/
theorem keysFail_iff {names : List String} : KeysFail names members ↔
    ¬(HasTextKeys members ∧ ∀ name ∈ names, ∃ v, HasOnly members name v) := by
  constructor
  · rintro hfail ⟨hkeys, hnames⟩
    cases hfail with
    | noText hmem hno =>
      obtain ⟨name, hname⟩ := hkeys _ hmem
      exact hno name hname
    | absent hmem hno =>
      obtain ⟨v, before, key, after, rfl, hkey, -⟩ := hnames _ hmem
      exact hno (key, v) (by simp) hkey
    | repeated hmem heq hfirst hsecond =>
      obtain ⟨v, hv⟩ := hnames _ hmem
      obtain ⟨key, hkey⟩ := hasOnly_iff.mp hv
      have hlength := congrArg List.length hkey
      rw [membersNamed, heq] at hlength
      simp only [List.filter_append, List.filter_cons, text?_beq_iff.mpr hfirst,
        text?_beq_iff.mpr hsecond, if_true, List.length_append, List.length_cons,
        List.length_nil] at hlength
      omega
  · intro hnot
    by_cases hkeys : HasTextKeys members
    · rw [not_and] at hnot
      have hsome := hnot hkeys
      push Not at hsome
      obtain ⟨name, hname, hnone⟩ := hsome
      rcases hasOnly_or members name with ⟨v, hv⟩ | habsent |
        ⟨before, m, between, m', after, heq, hm, hm'⟩
      · exact absurd hv (hnone v)
      · exact .absent hname habsent
      · exact .repeated hname heq hm hm'
    · rw [HasTextKeys] at hkeys
      push Not at hkeys
      obtain ⟨m, hm, hno⟩ := hkeys
      exact .noText hm hno

/-! ### Reading records -/

/-- The text of a value is what it spells. -/
theorem valueText?_eq_some_iff {v : Value} {s : String} : v.text? = some s ↔ v.Spells s := by
  cases v with
  | string l => exact text?_eq_some_iff
  | _ => simp [Value.text?, Value.Spells]

/-- The members with their names as text. -/
theorem namedMembers?_eq_some_iff {ms : List (String × Value)} :
    Value.namedMembers? members = some ms ↔
      List.Forall₂ (fun m n => m.1.text? = some n.1 ∧ m.2 = n.2) members ms := by
  have hread (m : Literal × Value) (n : String × Value) :
      (m.1.text?.map fun name => (name, m.2)) = some n ↔ m.1.text? = some n.1 ∧ m.2 = n.2 := by
    simp only [Option.map_eq_some_iff, Prod.ext_iff]
    constructor
    · rintro ⟨name, hname, rfl, hvalue⟩
      exact ⟨hname, hvalue⟩
    · rintro ⟨hname, hvalue⟩
      exact ⟨n.1, hname, rfl, hvalue⟩
  rw [Value.namedMembers?, mapM_eq_some_iff_forall₂]
  exact ⟨fun h => h.imp fun m n => (hread m n).mp, fun h => h.imp fun m n => (hread m n).mpr⟩

/-- Keys that are text have names. -/
theorem exists_namedMembers? (h : HasTextKeys members) :
    ∃ ms, Value.namedMembers? members = some ms := by
  simp only [namedMembers?_eq_some_iff]
  induction members with
  | nil => exact ⟨[], .nil⟩
  | cons m members ih =>
    obtain ⟨ms, hms⟩ := ih fun m' hm' => h m' (List.mem_cons_of_mem m hm')
    obtain ⟨name, hname⟩ := h m List.mem_cons_self
    exact ⟨(name, m.2) :: ms, .cons ⟨text?_eq_some_iff.mpr hname, rfl⟩ hms⟩

theorem hasTextKeys_of_namedMembers? {ms : List (String × Value)}
    (h : Value.namedMembers? members = some ms) : HasTextKeys members := by
  rw [namedMembers?_eq_some_iff] at h
  induction h with
  | nil => exact fun m hm => absurd hm List.not_mem_nil
  | cons hfirst _ ih =>
    exact List.forall_mem_cons.mpr ⟨⟨_, text?_eq_some_iff.mp hfirst.1⟩, ih⟩

/-- The values of a name, before and after its members got their names. -/
theorem map_filter_of_namedMembers? {ms : List (String × Value)}
    (h : Value.namedMembers? members = some ms) (name : String) :
    (ms.filter (·.1 == name)).map Prod.snd = (membersNamed name members).map Prod.snd := by
  rw [namedMembers?_eq_some_iff] at h
  induction h with
  | nil => rfl
  | @cons m n members ms hfirst _ ih =>
    have hsame : (m.1.text? == some name) = (n.1 == name) := by
      rw [hfirst.1]
      rfl
    rw [membersNamed, List.filter_cons, List.filter_cons, hsame, ← membersNamed]
    split
    · rw [List.map_cons, List.map_cons, ih, hfirst.2]
    · exact ih

theorem only?_eq_some_iff {ms : List (String × Value)}
    (h : Value.namedMembers? members = some ms) {name : String} {v : Value} :
    Value.only? name ms = some v ↔ HasOnly members name v := by
  have hvalues : HasOnly members name v ↔ (membersNamed name members).map Prod.snd = [v] := by
    rw [hasOnly_iff, List.map_eq_singleton_iff]
    simp only [Prod.exists]
    constructor
    · rintro ⟨key, hkey⟩
      exact ⟨key, v, hkey, rfl⟩
    · rintro ⟨key, w, hkey, rfl⟩
      exact ⟨key, hkey⟩
  rw [hvalues, ← map_filter_of_namedMembers? h, Value.only?.eq_def]
  split
  · next m hm => simp [hm]
  · next hnot =>
    constructor
    · intro hnone
      cases hnone
    · intro hone
      obtain ⟨m, hm, -⟩ := List.map_eq_singleton_iff.mp hone
      exact absurd hm (hnot m)

/-- The fields of a record. -/
theorem fields?_object_eq_some_iff {names : List String} {vs : List Value} :
    (Value.object members).fields? names = some vs ↔
      HasTextKeys members ∧ List.Forall₂ (HasOnly members) names vs := by
  rw [Value.fields?, Option.bind_eq_some_iff]
  constructor
  · rintro ⟨ms, hms, hvs⟩
    refine ⟨hasTextKeys_of_namedMembers? hms, ?_⟩
    exact (mapM_eq_some_iff_forall₂.mp hvs).imp fun _ _ => (only?_eq_some_iff hms).mp
  · rintro ⟨hkeys, hvs⟩
    obtain ⟨ms, hms⟩ := exists_namedMembers? hkeys
    refine ⟨ms, hms, mapM_eq_some_iff_forall₂.mpr ?_⟩
    exact hvs.imp fun _ _ => (only?_eq_some_iff hms).mpr

end StorageGateway.Json
