import Mathlib.Data.List.Perm.Basic
import StorageGateway.Options.Arguments

/-!
# The forms of arguments

The reader of arguments goes from one to the next and keeps what it waits for. What it accepts is
a grammar without any state: each setting is named once, by its name or its letter, and its value
is attached to the name or follows it. Arguments are read exactly if they have this form, no
setting is given twice and each value passes the check of its setting; what they give is then
listed in their order.

## Main definitions

* `Arguments.Names`: the arguments that name a setting, with a value or without.
* `Arguments.WritesAll`: the arguments that give values to settings one after the other.
* `Arguments.IsAdmissible`: no setting is given twice, and each value passes its check.

## Main results

* `Arguments.readArguments_eq_ok_iff`: what is read is what the arguments write.
-/

namespace StorageGateway

namespace Setting

theorem mem_all (s : Setting) : s ∈ all := by cases s <;> decide

theorem find?_longName (s : Setting) : all.find? (·.longName == s.longName) = some s := by
  cases s <;> decide

theorem find?_letter {s : Setting} {c : Char} (h : s.letter? = some c) :
    all.find? (·.letter? == some c) = some s := by
  cases s <;> cases h <;> decide

theorem longName_injective : Function.Injective longName := by
  intro s t h
  simpa [h, find?_longName] using (find?_longName s).symm

theorem letter?_injective {s t : Setting} {c : Char} (hs : s.letter? = some c)
    (ht : t.letter? = some c) : s = t :=
  Option.some.inj ((find?_letter hs).symm.trans (find?_letter ht))

theorem environmentName_injective : Function.Injective environmentName := by
  intro s t
  cases s <;> cases t <;> decide

theorem notMem_longName (s : Setting) : '=' ∉ s.longName.toList := by
  cases s <;> decide

theorem longName_ne (s : Setting) :
    s.longName.toList ≠ [] ∧ s.longName ≠ "help" ∧ s.longName ≠ "version" := by
  cases s <;> decide

theorem letter_ne {s : Setting} {c : Char} (h : s.letter? = some c) :
    c ≠ '-' ∧ c ≠ 'h' ∧ c ≠ 'V' := by
  cases s <;> cases h <;> decide

end Setting

namespace Arguments

/-- A word: an argument that names nothing. A single dash is one. -/
def IsWord (text : String) : Prop := ∀ c cs, text.toList ≠ '-' :: c :: cs

/-- The arguments that name a setting, with a value attached or without. -/
inductive Names (s : Setting) : Option String → String → Prop
  | long : Names s none ("--" ++ s.longName)
  | longAttached (value : String) : Names s (some value) ("--" ++ s.longName ++ "=" ++ value)
  | short {c : Char} (letter : s.letter? = some c) : Names s none ("-" ++ String.singleton c)
  | shortAttached {c : Char} (letter : s.letter? = some c) {value : String}
      (nonempty : value ≠ "") (unmarked : value.toList.head? ≠ some '=') :
      Names s (some value) ("-" ++ String.singleton c ++ value)
  | shortMarked {c : Char} (letter : s.letter? = some c) (value : String) :
      Names s (some value) ("-" ++ String.singleton c ++ "=" ++ value)

/-- The arguments that give a value to a setting. -/
inductive Writes (s : Setting) (value : String) : List String → Prop
  | attached {argument : String} (names : Names s (some value) argument) :
      Writes s value [argument]
  | apart {argument : String} (names : Names s none argument) (word : IsWord value) :
      Writes s value [argument, value]

/-- The arguments that give values to settings one after the other. Two dashes may end them. -/
inductive WritesAll : List (Setting × String) → List String → Prop
  | nil : WritesAll [] []
  | ended : WritesAll [] ["--"]
  | cons {s : Setting} {value : String} {arguments rest : List String}
      {given : List (Setting × String)} (head : Writes s value arguments)
      (tail : WritesAll given rest) : WritesAll ((s, value) :: given) (arguments ++ rest)

/-- No setting is given twice, and each value passes the check of its setting. -/
def IsAdmissible (given : List (Setting × String)) : Prop :=
  (given.map Prod.fst).Nodup ∧ ∀ p ∈ given, p.1.check p.2 = .ok ()

variable {s t : Setting} {attached attached' : Option String} {argument value : String}

/-! ### Names -/

namespace Reader

theorem splitLong_name (s : Setting) : splitLong s.longName.toList = (s.longName, none) := by
  cases s <;> decide

/-- No setting has an empty name. -/
theorem ne_nil_of_splitLong {cs : List Char} (h : splitLong cs = (s.longName, attached)) :
    cs ≠ [] := by
  rintro rfl
  have hname : "" = s.longName := congrArg Prod.fst h
  exact s.longName_ne.1 (by rw [← hname]; rfl)

theorem splitLong_append {name : List Char} (hname : '=' ∉ name) (value : List Char) :
    splitLong (name ++ '=' :: value) = (String.ofList name, some (String.ofList value)) := by
  have hall : ∀ c ∈ name, decide (c ≠ '=') = true := fun c hc =>
    decide_eq_true fun heq => hname (heq ▸ hc)
  rw [splitLong, List.dropWhile_append_of_pos hall, List.takeWhile_append_of_pos hall]
  simp

theorem toList_of_splitLong_none {cs : List Char} {name : String}
    (h : splitLong cs = (name, none)) : cs = name.toList := by
  rw [splitLong] at h
  split at h
  · simpa using congrArg (String.toList ∘ Prod.fst) h
  · cases h

theorem toList_of_splitLong_some {cs : List Char} {name value : String}
    (h : splitLong cs = (name, some value)) : cs = name.toList ++ '=' :: value.toList := by
  rw [splitLong] at h
  split at h
  · cases h
  · next c rest hdrop =>
    obtain ⟨rfl, rfl⟩ : String.ofList (cs.takeWhile (· ≠ '=')) = name ∧
      String.ofList rest = value := by simpa using h
    have hc : c = '=' := by
      have hhead := List.head?_dropWhile_not (fun c => decide (c ≠ '=')) cs
      rw [hdrop] at hhead
      simpa using hhead
    calc cs = cs.takeWhile (· ≠ '=') ++ cs.dropWhile (· ≠ '=') :=
          List.takeWhile_append_dropWhile.symm
      _ = _ := by rw [hdrop, hc, String.toList_ofList, String.toList_ofList]

theorem attachedTo_of_ne {c : Char} (h : c ≠ '=') (cs : List Char) :
    attachedTo (c :: cs) = some (String.ofList (c :: cs)) := by
  rw [attachedTo.eq_3 _ (by simp) (by simp [h])]

end Reader

/-- Names are recognised by what stands after the dashes. -/
theorem names_iff : Names s attached argument ↔
    (∃ cs, argument.toList = '-' :: '-' :: cs ∧
      Reader.splitLong cs = (s.longName, attached)) ∨
    ∃ c cs, argument.toList = '-' :: c :: cs ∧ s.letter? = some c ∧
      Reader.attachedTo cs = attached := by
  constructor
  · intro h
    cases h with
    | long => exact .inl ⟨_, by simp, Reader.splitLong_name s⟩
    | longAttached value =>
      refine .inl ⟨s.longName.toList ++ '=' :: value.toList, by simp, ?_⟩
      simpa using Reader.splitLong_append s.notMem_longName value.toList
    | short letter => exact .inr ⟨_, [], by simp, letter, rfl⟩
    | @shortAttached c letter value nonempty unmarked =>
      refine .inr ⟨c, value.toList, by simp, letter, ?_⟩
      obtain ⟨c', cs, hcs⟩ : ∃ c' cs, value.toList = c' :: cs :=
        List.exists_cons_of_ne_nil (by simpa using nonempty)
      rw [hcs, Reader.attachedTo_of_ne (by simpa [hcs] using unmarked), ← hcs,
        String.ofList_toList]
    | @shortMarked c letter value =>
      exact .inr ⟨c, '=' :: value.toList, by simp, letter, by simp [Reader.attachedTo]⟩
  · rintro (⟨cs, htext, hsplit⟩ | ⟨c, cs, htext, letter, rfl⟩)
    · cases attached with
      | none =>
        obtain rfl : argument = "--" ++ s.longName := by
          simp [← String.toList_inj, htext, Reader.toList_of_splitLong_none hsplit]
        exact .long
      | some value =>
        obtain rfl : argument = "--" ++ s.longName ++ "=" ++ value := by
          simp [← String.toList_inj, htext, Reader.toList_of_splitLong_some hsplit]
        exact .longAttached value
    · rcases cs with _ | ⟨c', cs⟩
      · obtain rfl : argument = "-" ++ String.singleton c := by
          simp [← String.toList_inj, htext]
        exact .short letter
      by_cases hmark : c' = '='
      · obtain rfl : argument = "-" ++ String.singleton c ++ "=" ++ String.ofList cs := by
          simp [← String.toList_inj, htext, hmark]
        rw [hmark]
        exact .shortMarked letter _
      · obtain rfl : argument = "-" ++ String.singleton c ++ String.ofList (c' :: cs) := by
          simp [← String.toList_inj, htext]
        rw [Reader.attachedTo_of_ne hmark]
        exact .shortAttached letter (by simp [← String.toList_inj]) (by simpa using hmark)

/-- An argument names at most one setting, in one way. -/
theorem Names.unique (hs : Names s attached argument) (ht : Names t attached' argument) :
    s = t ∧ attached = attached' := by
  rcases names_iff.mp hs with ⟨cs, htext, hcs⟩ | ⟨c, cs, htext, hletter, hcs⟩ <;>
    rcases names_iff.mp ht with ⟨cs', htext', hcs'⟩ | ⟨c', cs', htext', hletter', hcs'⟩
  · obtain rfl : cs = cs' := by simpa [htext] using htext'
    rw [hcs] at hcs'
    exact ⟨Setting.longName_injective (congrArg Prod.fst hcs'), congrArg Prod.snd hcs'⟩
  · rw [htext, List.cons.injEq, List.cons.injEq] at htext'
    exact absurd htext'.2.1.symm (Setting.letter_ne hletter').1
  · rw [htext, List.cons.injEq, List.cons.injEq] at htext'
    exact absurd htext'.2.1 (Setting.letter_ne hletter).1
  · obtain ⟨rfl, rfl⟩ : c = c' ∧ cs = cs' := by simpa [htext] using htext'
    exact ⟨Setting.letter?_injective hletter hletter', hcs.symm.trans hcs'⟩

/-- Words name nothing. -/
theorem Names.not_isWord (h : Names s attached argument) : ¬ IsWord argument := by
  intro hword
  rcases names_iff.mp h with ⟨cs, htext, -⟩ | ⟨c, cs, htext, -⟩
  · exact hword _ _ htext
  · exact hword _ _ htext

/-- Two dashes name nothing. -/
theorem not_names_end : ¬ Names s attached "--" := by
  intro h
  rcases names_iff.mp h with ⟨cs, htext, hsplit⟩ | ⟨c, cs, htext, hletter, -⟩
  · exact Reader.ne_nil_of_splitLong hsplit (by simpa using htext.symm)
  · obtain ⟨rfl, -⟩ : c = '-' ∧ cs = [] := by simpa [eq_comm] using htext
    exact (Setting.letter_ne hletter).1 rfl

/-! ### Values taken up -/

theorem given?_isSome_iff {given : List (Setting × String)} :
    (given? given s).isSome ↔ s ∈ given.map Prod.fst := by
  simp [given?]

theorem IsAdmissible.append_iff {given : List (Setting × String)} :
    IsAdmissible (given ++ [(s, value)]) ↔
      IsAdmissible given ∧ s ∉ given.map Prod.fst ∧ s.check value = .ok () := by
  have hnodup : (given.map Prod.fst ++ [s]).Nodup ↔
      (given.map Prod.fst).Nodup ∧ s ∉ given.map Prod.fst := by
    rw [List.perm_append_comm.nodup_iff, List.singleton_append, List.nodup_cons, and_comm]
  simp only [IsAdmissible, List.map_append, List.map_cons, List.map_nil, hnodup,
    List.forall_mem_append, List.forall_mem_singleton]
  tauto

theorem IsAdmissible.of_append {given new : List (Setting × String)}
    (h : IsAdmissible (given ++ new)) : IsAdmissible given := by
  obtain ⟨hnodup, hcheck⟩ := h
  rw [List.map_append, List.nodup_append] at hnodup
  exact ⟨hnodup.1, fun p hp => hcheck p (List.mem_append_left _ hp)⟩

/-! ### Steps of the reader -/

theorem bind_eq_ok_iff {α β : Type} {x : Except Refusal α} {f : α → Except Refusal β} {b : β} :
    x.bind f = .ok b ↔ ∃ a, x = .ok a ∧ f a = .ok b := by
  cases x <;> simp [Except.bind]

namespace Reader

variable {r r' : Reader}

theorem take_eq_ok_iff : r.take s value = .ok r' ↔
    (s ∉ r.given.map Prod.fst ∧ s.check value = .ok ()) ∧
      r' = { r with given := r.given ++ [(s, value)] } := by
  rw [take]
  split
  · next h => simp [given?_isSome_iff.mp h]
  · next h =>
    rw [given?_isSome_iff] at h
    cases hc : s.check value <;> simp [checked, hc, h, Except.map, eq_comm]

theorem pending_of_settle (h : r.settle = .ok r') :
    r'.pending = none ∧ r'.onlyWords = r.onlyWords := by
  unfold settle at h
  split at h
  · next hp => cases h; exact ⟨hp, rfl⟩
  · cases h
  · obtain ⟨-, rfl⟩ := take_eq_ok_iff.mp h
    exact ⟨rfl, rfl⟩

/-- A reader that has not seen two dashes reads a name as a name. -/
theorem next_of_names (hr : r.onlyWords = false) (h : Names s attached argument) :
    r.next argument = r.name s attached := by
  obtain ⟨-, hhelp, hversion⟩ := s.longName_ne
  rcases names_iff.mp h with ⟨cs, htext, hsplit⟩ | ⟨c, cs, htext, hletter, hattached⟩
  · have hcs : cs ≠ [] := ne_nil_of_splitLong hsplit
    calc r.next argument = r.long cs := by
          simp only [next, hr, htext]
          split <;> simp_all
      _ = r.name s attached := by
          simp only [long, hsplit, hhelp, hversion, if_false, s.find?_longName]
  · obtain ⟨hdash, hh, hV⟩ := Setting.letter_ne hletter
    calc r.next argument = r.short c cs := by
          simp only [next, hr, htext]
          split <;> simp_all
      _ = r.name s attached := by
          simp only [short, hh, hV, if_false, Setting.find?_letter hletter, hattached]

theorem next_of_isWord (hr : r.onlyWords = false) (h : IsWord argument) :
    r.next argument = r.word argument := by
  rw [next, if_neg (by simp [hr])]
  split
  · next heq => exact absurd heq (h _ _)
  · next heq => exact absurd heq (h _ _)
  · next heq => exact absurd heq (h _ _)
  · rfl

theorem next_end (hr : r.onlyWords = false) : r.next "--" = .ok { r with onlyWords := true } := by
  rw [next, if_neg (by simp [hr])]
  rfl

theorem ask_ne_ok {refusal : Refusal} : r.ask refusal ≠ .ok r' := by
  rw [ask]
  cases r.settle <;> simp [Except.bind]

theorem flag_ne_ok {text : String} {refusal : Refusal} : r.flag text refusal attached ≠ .ok r' := by
  cases attached with
  | none => exact ask_ne_ok
  | some value => simp [flag]

theorem eq_name_of_long {cs : List Char} (h : r.long cs = .ok r') :
    ∃ s attached, splitLong cs = (s.longName, attached) ∧ r.name s attached = .ok r' := by
  rw [long] at h
  split at h
  next word attached hsplit =>
  split at h
  · exact absurd h flag_ne_ok
  split at h
  · exact absurd h flag_ne_ok
  split at h
  · next s hfind =>
    have hname : s.longName = word := by simpa using List.find?_some hfind
    exact ⟨s, attached, by rw [hname, hsplit], h⟩
  · cases h

theorem eq_name_of_short {c : Char} {cs : List Char} (h : r.short c cs = .ok r') :
    ∃ s, s.letter? = some c ∧ r.name s (attachedTo cs) = .ok r' := by
  rw [short] at h
  split at h
  · exact absurd h ask_ne_ok
  split at h
  · exact absurd h ask_ne_ok
  split at h
  · next s hfind => exact ⟨s, by simpa using List.find?_some hfind, h⟩
  · cases h

/-- What a reader that goes on has read: the end of the names, a name or a word. -/
theorem next_cases (hr : r.onlyWords = false) (h : r.next argument = .ok r') :
    (argument = "--" ∧ r' = { r with onlyWords := true }) ∨
      (∃ s attached, Names s attached argument ∧ r.name s attached = .ok r') ∨
      (IsWord argument ∧ r.word argument = .ok r') := by
  rw [next, if_neg (by simp [hr])] at h
  split at h
  · next htext =>
    refine .inl ⟨by simpa [← String.toList_inj] using htext, ?_⟩
    simpa [eq_comm] using h
  · next cs _ htext =>
    obtain ⟨s, attached, hsplit, hname⟩ := eq_name_of_long h
    exact .inr (.inl ⟨s, attached, names_iff.mpr (.inl ⟨cs, htext, hsplit⟩), hname⟩)
  · next c cs _ _ htext =>
    obtain ⟨s, hletter, hname⟩ := eq_name_of_short h
    exact .inr (.inl ⟨s, _, names_iff.mpr (.inr ⟨c, cs, htext, hletter, rfl⟩), hname⟩)
  · next hword => exact .inr (.inr ⟨fun c cs htext => hword c cs htext, h⟩)

theorem name_eq_ok_iff : r.name s attached = .ok r' ↔ ∃ r₀, r.settle = .ok r₀ ∧
    ((attached = none ∧ r' = { r₀ with pending := some (s, none) }) ∨
      ∃ value, attached = some value ∧ r₀.take s value = .ok r') := by
  rw [name, bind_eq_ok_iff]
  cases attached <;> simp [@eq_comm _ r']

theorem word_eq_ok_iff : r.word value = .ok r' ↔
    ∃ s, r.pending = some (s, none) ∧ r' = { r with pending := some (s, some value) } := by
  unfold word
  split <;> simp_all [eq_comm]

/-! ### Runs -/

/-- What the reader says at the end of the arguments. -/
def finish (r : Reader) (arguments : List String) : Except Refusal (List (Setting × String)) :=
  (arguments.foldlM next r).bind fun r => r.settle.map (·.given)

theorem finish_nil_eq_ok_iff {given : List (Setting × String)} :
    r.finish [] = .ok given ↔ ∃ r₀, r.settle = .ok r₀ ∧ r₀.given = given := by
  change r.settle.map (·.given) = .ok given ↔ _
  cases r.settle <;> simp [Except.map]

theorem finish_cons_eq_ok_iff {rest : List String} {given : List (Setting × String)} :
    r.finish (argument :: rest) = .ok given ↔
      ∃ r', r.next argument = .ok r' ∧ r'.finish rest = .ok given := by
  rw [← bind_eq_ok_iff, finish, List.foldlM_cons]
  cases r.next argument <;> rfl

theorem eq_nil_of_finish {arguments : List String} {given : List (Setting × String)}
    (hr : r.onlyWords = true) (h : r.finish arguments = .ok given) : arguments = [] := by
  cases arguments with
  | nil => rfl
  | cons argument rest => simp [finish_cons_eq_ok_iff, next, hr] at h

/-- The arguments that the reader has read and not yet taken up. -/
inductive Holds : Option (Setting × Option String) → List String → Prop
  | nothing : Holds none []
  | named {s : Setting} {argument : String} (names : Names s none argument) :
      Holds (some (s, none)) [argument]
  | written {s : Setting} {value : String} {arguments : List String}
      (writes : Writes s value arguments) : Holds (some (s, some value)) arguments

/-- What is taken up is what the arguments read last have written. -/
theorem writesAll_of_settle {held : List String} (hheld : Holds r.pending held)
    (hgiven : IsAdmissible r.given) (h : r.settle = .ok r') :
    IsAdmissible r'.given ∧ ∃ new, r'.given = r.given ++ new ∧
      ∀ {given arguments}, WritesAll given arguments →
        WritesAll (new ++ given) (held ++ arguments) := by
  obtain ⟨old, pending, onlyWords⟩ := r
  cases hheld with
  | nothing =>
    cases h
    exact ⟨hgiven, [], by simp, fun hall => hall⟩
  | named names => cases h
  | @written s value _ writes =>
    obtain ⟨⟨hnew, hcheck⟩, rfl⟩ := take_eq_ok_iff.mp h
    exact ⟨IsAdmissible.append_iff.mpr ⟨hgiven, hnew, hcheck⟩, [(s, value)], rfl,
      fun hall => .cons writes hall⟩

/-- What is read to the end is written in the arguments. Induction on the arguments; those held
back stand in front of the ones to come. -/
theorem writesAll_of_finish {held arguments : List String} {given : List (Setting × String)}
    (hr : r.onlyWords = false) (hheld : Holds r.pending held) (hgiven : IsAdmissible r.given)
    (h : r.finish arguments = .ok given) :
    IsAdmissible given ∧ ∃ new, given = r.given ++ new ∧ WritesAll new (held ++ arguments) := by
  induction arguments generalizing r held with
  | nil =>
    obtain ⟨r₀, hsettle, rfl⟩ := finish_nil_eq_ok_iff.mp h
    obtain ⟨hadmissible, new, hnew, hwrites⟩ := writesAll_of_settle hheld hgiven hsettle
    exact ⟨hadmissible, new, hnew, by simpa using hwrites .nil⟩
  | cons argument rest ih =>
    obtain ⟨r', hnext, hrest⟩ := finish_cons_eq_ok_iff.mp h
    rcases next_cases hr hnext with ⟨rfl, rfl⟩ | ⟨s, attached, hnames, hname⟩ | ⟨hword, hnext⟩
    case inl =>
      obtain rfl := eq_nil_of_finish rfl hrest
      obtain ⟨r₀, hsettle, rfl⟩ := finish_nil_eq_ok_iff.mp hrest
      obtain ⟨hadmissible, new, hnew, hwrites⟩ :=
        writesAll_of_settle (r := { r with onlyWords := true }) hheld hgiven hsettle
      exact ⟨hadmissible, new, hnew, by simpa using hwrites .ended⟩
    case inr.inl =>
      obtain ⟨r₀, hsettle, hname⟩ := name_eq_ok_iff.mp hname
      obtain ⟨hadmissible, new, hnew, hwrites⟩ := writesAll_of_settle hheld hgiven hsettle
      obtain ⟨hpending, hwords⟩ := pending_of_settle hsettle
      rw [hr] at hwords
      rcases hname with ⟨rfl, rfl⟩ | ⟨value, rfl, htake⟩
      · obtain ⟨hgiven', new', rfl, hall⟩ :=
          ih (r := { r₀ with pending := some (s, none) }) hwords (.named hnames) hadmissible hrest
        exact ⟨hgiven', new ++ new', by simp [hnew], hwrites hall⟩
      · obtain ⟨⟨hs, hcheck⟩, rfl⟩ := take_eq_ok_iff.mp htake
        have hnothing : Holds r₀.pending [] := hpending ▸ .nothing
        obtain ⟨hgiven', new', rfl, hall⟩ :=
          ih (r := { r₀ with given := r₀.given ++ [(s, value)] }) hwords hnothing
            (IsAdmissible.append_iff.mpr ⟨hadmissible, hs, hcheck⟩) hrest
        exact ⟨hgiven', new ++ (s, value) :: new', by simp [hnew],
          hwrites (.cons (.attached hnames) hall)⟩
    case inr.inr =>
      obtain ⟨s, hpending, rfl⟩ := word_eq_ok_iff.mp hnext
      rw [hpending] at hheld
      cases hheld with
      | @named _ name names =>
        exact ih (r := { r with pending := some (s, some argument) }) hr
          (.written (.apart names hword)) hgiven hrest

theorem settle_ended {r₀ : Reader} (h : r.settle = .ok r₀) :
    settle { r with onlyWords := true } = .ok { r₀ with onlyWords := true } := by
  obtain ⟨old, pending, onlyWords⟩ := r
  match pending with
  | none => cases h; rfl
  | some (s, none) => cases h
  | some (s, some value) =>
    obtain ⟨hnew, rfl⟩ := take_eq_ok_iff.mp h
    exact take_eq_ok_iff.mpr ⟨hnew, rfl⟩

/-- What the arguments write is read. Induction on what is written. -/
theorem finish_of_writesAll {r₀ : Reader} {arguments : List String}
    {new : List (Setting × String)} (hall : WritesAll new arguments) (hr : r.onlyWords = false)
    (hsettle : r.settle = .ok r₀) (hadmissible : IsAdmissible (r₀.given ++ new)) :
    r.finish arguments = .ok (r₀.given ++ new) := by
  induction hall generalizing r r₀ with
  | nil => exact finish_nil_eq_ok_iff.mpr ⟨r₀, hsettle, by simp⟩
  | ended =>
    refine finish_cons_eq_ok_iff.mpr ⟨_, next_end hr, finish_nil_eq_ok_iff.mpr ?_⟩
    exact ⟨_, settle_ended hsettle, by simp⟩
  | @cons s value arguments rest new hwrites _ ih =>
    obtain ⟨hpending, hwords⟩ := pending_of_settle hsettle
    have hprefix : IsAdmissible (r₀.given ++ [(s, value)]) := by
      rw [List.append_cons] at hadmissible
      exact hadmissible.of_append
    have htake : r₀.take s value = .ok { r₀ with given := r₀.given ++ [(s, value)] } :=
      take_eq_ok_iff.mpr ⟨(IsAdmissible.append_iff.mp hprefix).2, rfl⟩
    have hread : ∀ r' : Reader, r'.onlyWords = false →
        r'.settle = .ok { r₀ with given := r₀.given ++ [(s, value)] } →
        r'.finish rest = .ok (r₀.given ++ (s, value) :: new) := by
      intro r' hr' hsettle'
      rw [List.append_cons] at hadmissible ⊢
      exact ih hr' hsettle' hadmissible
    cases hwrites with
    | attached names =>
      refine finish_cons_eq_ok_iff.mpr ⟨{ r₀ with given := r₀.given ++ [(s, value)] }, ?_,
        hread _ (hwords.trans hr) ?_⟩
      · rw [next_of_names hr names]
        exact name_eq_ok_iff.mpr ⟨r₀, hsettle, .inr ⟨value, rfl, htake⟩⟩
      · simp only [settle, hpending]
    | apart names word =>
      refine finish_cons_eq_ok_iff.mpr ⟨{ r₀ with pending := some (s, none) }, ?_,
        finish_cons_eq_ok_iff.mpr ⟨{ r₀ with pending := some (s, some value) }, ?_,
          hread _ (hwords.trans hr) ?_⟩⟩
      · rw [next_of_names hr names]
        exact name_eq_ok_iff.mpr ⟨r₀, hsettle, .inl ⟨rfl, rfl⟩⟩
      · refine (next_of_isWord ?_ word).trans (word_eq_ok_iff.mpr ⟨s, ?_, ?_⟩)
        exacts [hwords.trans hr, rfl, rfl]
      · simpa only [settle, ← hpending] using htake

end Reader

/-- Arguments are read exactly if they write an admissible list of values, which is then what
they give. -/
theorem readArguments_eq_ok_iff {arguments : List String} {given : List (Setting × String)} :
    readArguments arguments = .ok given ↔ WritesAll given arguments ∧ IsAdmissible given := by
  constructor
  · intro h
    obtain ⟨hadmissible, new, rfl, hall⟩ :=
      Reader.writesAll_of_finish (r := {}) rfl .nothing ⟨List.nodup_nil, by simp⟩ h
    exact ⟨hall, hadmissible⟩
  · rintro ⟨hall, hadmissible⟩
    exact Reader.finish_of_writesAll (r := {}) hall rfl rfl hadmissible

end Arguments
end StorageGateway
