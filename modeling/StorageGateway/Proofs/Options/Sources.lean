import Mathlib.Logic.Function.Basic
import StorageGateway.Options.Setup
import StorageGateway.Proofs.Options.Forms

/-!
# The sources of options

A setting may be given by an argument or by a variable of the environment. What an argument gives
hides the variable, even one that holds no value of the setting; where no argument names the
setting, its variable counts as an argument put in front of the others. In which order and in
which form the arguments give their values makes no difference.

## Main definitions

* `Arguments.Occurs`: a setting is named by an argument.
* `Arguments.outcome?`: the options of a successful start, with what their check says.

## Main results

* `Arguments.read_eq_of_occurs`: an argument hides the variable of its setting.
* `Arguments.outcome?_variable`: a variable is as good as an argument.
* `Arguments.outcome?_of_perm`: order and form of the arguments do not count.
* `Arguments.sources_combine`: how arguments and environment make the options.
-/

namespace StorageGateway.Arguments

variable {s t : Setting} {value : String} {arguments arguments' : List String}
  {given given' : List (Setting × String)} {environment : String → Option String}

/-- A setting is named by one of the arguments. -/
def Occurs (s : Setting) (arguments : List String) : Prop :=
  ∃ argument ∈ arguments, ∃ attached, Names s attached argument

/-- The environment with the variable of a setting set or removed. -/
def assign (s : Setting) (value : Option String) (environment : String → Option String) :
    String → Option String :=
  Function.update environment s.environmentName value

/-- The options of a successful start, with what their check says. -/
def outcome? (arguments : List String) (environment : String → Option String) :
    Option (Options × Except Setup.Refusal Url) :=
  (read arguments environment).toOption.map fun options => (options, options.baseUrl)

@[simp] theorem assign_self (s : Setting) (value : Option String) :
    assign s value environment s.environmentName = value := by
  simp [assign]

theorem assign_of_ne (h : t ≠ s) (value : Option String) :
    assign s value environment t.environmentName = environment t.environmentName := by
  simp [assign, Setting.environmentName_injective.ne h]

/-! ### What the arguments name -/

theorem occurs_of_writes (h : Writes s value arguments) : Occurs t arguments ↔ t = s := by
  have hnames {attached : Option String} {argument : String} (hs : Names s attached argument) :
      (∃ attached, Names t attached argument) ↔ t = s :=
    ⟨fun ⟨_, ht⟩ => (ht.unique hs).1, fun heq => ⟨attached, heq ▸ hs⟩⟩
  cases h with
  | attached names => simp [Occurs, hnames names]
  | apart names word =>
    have hword : ¬ ∃ attached, Names t attached value := fun ⟨_, ht⟩ => ht.not_isWord word
    simp [Occurs, hnames names, not_exists.mp hword]

theorem occurs_iff (h : WritesAll given arguments) :
    Occurs s arguments ↔ s ∈ given.map Prod.fst := by
  induction h with
  | nil => simp [Occurs]
  | ended => simp [Occurs, not_names_end]
  | cons head _ ih =>
    have hsplit {first rest : List String} :
        Occurs s (first ++ rest) ↔ Occurs s first ∨ Occurs s rest := by
      simp [Occurs, or_and_right, exists_or]
    rw [hsplit, occurs_of_writes head, ih, List.map_cons, List.mem_cons]

theorem writesAll_cons_iff {argument : String} (h : Names s (some value) argument) :
    WritesAll given (argument :: arguments) ↔
      ∃ rest, given = (s, value) :: rest ∧ WritesAll rest arguments := by
  constructor
  · intro hall
    generalize hwhole : argument :: arguments = whole at hall
    cases hall with
    | nil => cases hwhole
    | ended =>
      cases hwhole
      exact absurd h not_names_end
    | cons head tail =>
      cases head with
      | attached names =>
        cases hwhole
        obtain ⟨rfl, hvalue⟩ := h.unique names
        cases hvalue
        exact ⟨_, rfl, tail⟩
      | apart names word =>
        cases hwhole
        cases (h.unique names).2
  · rintro ⟨rest, rfl, hall⟩
    exact .cons (.attached h) hall

/-- An argument with its value in front of others. -/
theorem readArguments_cons_iff {argument : String} (h : Names s (some value) argument) :
    readArguments (argument :: arguments) = .ok given ↔
      ∃ rest, given = (s, value) :: rest ∧ readArguments arguments = .ok rest ∧
        s ∉ rest.map Prod.fst ∧ s.check value = .ok () := by
  simp only [readArguments_eq_ok_iff, writesAll_cons_iff h]
  constructor
  · rintro ⟨⟨rest, rfl, hall⟩, hnodup, hcheck⟩
    rw [List.map_cons, List.nodup_cons] at hnodup
    rw [List.forall_mem_cons] at hcheck
    exact ⟨rest, rfl, ⟨hall, hnodup.2, hcheck.2⟩, hnodup.1, hcheck.1⟩
  · rintro ⟨rest, rfl, ⟨hall, hnodup, hcheck⟩, hs, hvalue⟩
    exact ⟨⟨rest, rfl, hall⟩, List.nodup_cons.mpr ⟨hs, hnodup⟩,
      List.forall_mem_cons.mpr ⟨hvalue, hcheck⟩⟩

/-! ### Texts looked up -/

theorem given?_eq_none_iff : given? given s = none ↔ s ∉ given.map Prod.fst := by
  rw [← given?_isSome_iff]
  simp

theorem given?_eq_some_iff (h : (given.map Prod.fst).Nodup) :
    given? given s = some value ↔ (s, value) ∈ given := by
  induction given with
  | nil => simp [given?]
  | cons p rest ih =>
    obtain ⟨t, text⟩ := p
    rw [List.map_cons, List.nodup_cons] at h
    by_cases hts : t = s
    · subst hts
      have hrest : (t, value) ∉ rest := fun hmem => h.1 (List.mem_map.mpr ⟨_, hmem, rfl⟩)
      simp [given?, hrest, eq_comm]
    · have hskip : given? ((t, text) :: rest) s = given? rest s := by simp [given?, hts]
      simp [hskip, ih h.2, Ne.symm hts]

theorem given?_of_perm (h : (given.map Prod.fst).Nodup) (hperm : given.Perm given') :
    given? given = given? given' := by
  funext s
  refine Option.ext fun value => ?_
  rw [given?_eq_some_iff h, given?_eq_some_iff ((hperm.map _).nodup_iff.mp h), hperm.mem_iff]

theorem look_eq_ok_of_given (h : given? given s = some value) :
    look given environment s = .ok [(s, value)] := by
  rw [look, h]

theorem look_of_not_given (h : given? given s = none)
    (henv : environment s.environmentName = some value) :
    look given environment s = (checked s value).map fun text => [(s, text)] := by
  rw [look, h, henv]

theorem look_congr {environment' : String → Option String}
    (hgiven : given? given s = given? given' s)
    (henv : environment s.environmentName = environment' s.environmentName) :
    look given environment s = look given' environment' s := by
  rw [look, look, hgiven, henv]

theorem exists_of_mapM_eq_ok {α β : Type} {f : α → Except Refusal β} {l : List α} {bs : List β}
    (h : l.mapM f = .ok bs) : ∀ a ∈ l, ∃ b, f a = .ok b := by
  induction l generalizing bs with
  | nil => simp
  | cons a l ih =>
    rw [List.mapM_cons] at h
    obtain ⟨b, hb, hrest⟩ := bind_eq_ok_iff.mp h
    obtain ⟨bs', hbs', -⟩ := bind_eq_ok_iff.mp hrest
    exact List.forall_mem_cons.mpr ⟨⟨b, hb⟩, ih hbs'⟩

theorem read_eq_ok_iff {options : Options} : read arguments environment = .ok options ↔
    ∃ given texts, readArguments arguments = .ok given ∧
      Setting.all.mapM (look given environment) = .ok texts ∧
      Options.ofTexts? (given? texts.flatten) = some options := by
  constructor
  · intro h
    obtain ⟨given, hgiven, hrest⟩ := bind_eq_ok_iff.mp h
    obtain ⟨texts, htexts, hlast⟩ := bind_eq_ok_iff.mp hrest
    refine ⟨given, texts, hgiven, htexts, ?_⟩
    split at hlast
    · next options' heq => cases hlast; exact heq
    · cases hlast
  · rintro ⟨given, texts, hgiven, htexts, hoptions⟩
    refine bind_eq_ok_iff.mpr ⟨given, hgiven, bind_eq_ok_iff.mpr ⟨texts, htexts, ?_⟩⟩
    simp [hoptions, pure, Except.pure]

theorem outcome?_eq_some_iff {x : Options × Except Setup.Refusal Url} :
    outcome? arguments environment = some x ↔
      read arguments environment = .ok x.1 ∧ x.1.baseUrl = x.2 := by
  obtain ⟨options, url⟩ := x
  cases h : read arguments environment <;> simp [outcome?, h, Except.toOption]
  rintro rfl
  rfl

/-! ### Sources -/

/-- An argument hides the variable of its setting. -/
theorem read_eq_of_occurs (h : Occurs s arguments) (value : Option String) :
    read arguments (assign s value environment) = read arguments environment := by
  cases hread : readArguments arguments with
  | error refusal => simp only [read, hread, bind, Except.bind]
  | ok given =>
    have hall : WritesAll given arguments := (readArguments_eq_ok_iff.mp hread).1
    obtain ⟨text, htext⟩ : ∃ text, given? given s = some text :=
      Option.isSome_iff_exists.mp (given?_isSome_iff.mpr ((occurs_iff hall).mp h))
    have hlook : look given (assign s value environment) = look given environment := by
      funext t
      by_cases hts : t = s
      · rw [hts, look_eq_ok_of_given htext, look_eq_ok_of_given htext]
      · exact look_congr rfl (assign_of_ne hts value)
    simp only [read, hread, bind, Except.bind, hlook]

theorem given?_cons_of_ne (h : t ≠ s) (value : String) (given : List (Setting × String)) :
    given? ((s, value) :: given) t = given? given t := by
  simp [given?, Ne.symm h]

/-- With a value that passes its check, the variable is looked up as the argument is. -/
theorem look_variable (hs : s ∉ given.map Prod.fst) (hcheck : s.check value = .ok ()) :
    look given (assign s (some value) environment) =
      look ((s, value) :: given) (assign s none environment) := by
  funext t
  by_cases hts : t = s
  · have hargument : given? ((s, value) :: given) s = some value := by simp [given?]
    have hvariable : checked s value = .ok value := by rw [checked, hcheck]
    rw [hts, look_eq_ok_of_given hargument,
      look_of_not_given (given?_eq_none_iff.mpr hs) (assign_self s _), hvariable]
    rfl
  · refine look_congr (given?_cons_of_ne hts value given).symm ?_
    rw [assign_of_ne hts, assign_of_ne hts]

/-- A variable that is looked up passes the check of its setting. -/
theorem check_of_look {texts : List (List (Setting × String))} (hs : s ∉ given.map Prod.fst)
    (h : Setting.all.mapM (look given (assign s (some value) environment)) = .ok texts) :
    s.check value = .ok () := by
  obtain ⟨text, htext⟩ := exists_of_mapM_eq_ok h s s.mem_all
  rw [look_of_not_given (given?_eq_none_iff.mpr hs) (assign_self s _), checked] at htext
  cases hcheck : s.check value with
  | ok => rfl
  | error reason => simp [hcheck, Except.map] at htext

/-- The variable of a setting that no argument names is as good as an argument. -/
theorem read_variable_iff (h : ¬ Occurs s arguments) (value : String) {options : Options} :
    read arguments (assign s (some value) environment) = .ok options ↔
      read (("--" ++ s.longName ++ "=" ++ value) :: arguments) (assign s none environment) =
        .ok options := by
  have hnew {given : List (Setting × String)} (hread : readArguments arguments = .ok given) :
      s ∉ given.map Prod.fst := fun hmem =>
    h ((occurs_iff (readArguments_eq_ok_iff.mp hread).1).mpr hmem)
  simp only [read_eq_ok_iff, readArguments_cons_iff (Names.longAttached value)]
  constructor
  · rintro ⟨given, texts, hread, htexts, hoptions⟩
    have hcheck : s.check value = .ok () := check_of_look (hnew hread) htexts
    rw [look_variable (hnew hread) hcheck] at htexts
    exact ⟨_, texts, ⟨given, rfl, hread, hnew hread, hcheck⟩, htexts, hoptions⟩
  · rintro ⟨_, texts, ⟨given, rfl, hread, hs, hcheck⟩, htexts, hoptions⟩
    rw [← look_variable hs hcheck] at htexts
    exact ⟨given, texts, hread, htexts, hoptions⟩

theorem outcome?_variable (h : ¬ Occurs s arguments) (value : String) :
    outcome? arguments (assign s (some value) environment) =
      outcome? (("--" ++ s.longName ++ "=" ++ value) :: arguments)
        (assign s none environment) := by
  refine Option.ext fun x => ?_
  rw [outcome?_eq_some_iff, outcome?_eq_some_iff, read_variable_iff h]

/-- Arguments that write the same values, in any order and form, have the same outcome. -/
theorem read_of_perm (hread : readArguments arguments = .ok given) (hperm : given.Perm given')
    (hall : WritesAll given' arguments') :
    read arguments' environment = read arguments environment := by
  have hadmissible : IsAdmissible given := (readArguments_eq_ok_iff.mp hread).2
  have hread' : readArguments arguments' = .ok given' := by
    refine readArguments_eq_ok_iff.mpr ⟨hall, (hperm.map _).nodup_iff.mp hadmissible.1, ?_⟩
    exact fun p hp => hadmissible.2 p (hperm.mem_iff.mpr hp)
  have hlook : look given' environment = look given environment :=
    funext fun s => look_congr (congrFun (given?_of_perm hadmissible.1 hperm).symm s) rfl
  simp only [read, hread, hread', bind, Except.bind, hlook]

theorem outcome?_of_perm {x : Options × Except Setup.Refusal Url}
    (h : outcome? arguments environment = some x) :
    ∃ given, WritesAll given arguments ∧ ∀ given' arguments', given.Perm given' →
      WritesAll given' arguments' → outcome? arguments' environment = some x := by
  obtain ⟨given, texts, hread, -⟩ := read_eq_ok_iff.mp (outcome?_eq_some_iff.mp h).1
  refine ⟨given, (readArguments_eq_ok_iff.mp hread).1, fun given' arguments' hperm hall => ?_⟩
  rw [← h, outcome?, outcome?, read_of_perm hread hperm hall]

theorem isWord_of_head? (h : value.toList.head? ≠ some '-') : IsWord value := by
  intro c cs htext
  simp [htext] at h

/-- The options come from arguments and environment, setting by setting. A setting that an argument
names does not depend on its variable. Any other setting's variable is as good as an argument in
front of the others, which leads to the same options and the same verdict on them. A successful
outcome depends neither on the order of the values that the arguments write nor on the forms they
are written in; all forms are there for a value that starts with neither a dash nor an equals
sign. -/
theorem sources_combine (arguments : List String) (environment : String → Option String)
    (s : Setting) :
    (Occurs s arguments → ∀ value,
      read arguments (assign s value environment) = read arguments environment) ∧
    (¬ Occurs s arguments → ∀ value,
      outcome? arguments (assign s (some value) environment) =
        outcome? (("--" ++ s.longName ++ "=" ++ value) :: arguments)
          (assign s none environment)) ∧
    (∀ x, outcome? arguments environment = some x →
      ∃ given, WritesAll given arguments ∧ ∀ given' arguments', given.Perm given' →
        WritesAll given' arguments' → outcome? arguments' environment = some x) ∧
    ∀ value : String, value.toList.head? ≠ some '-' → value.toList.head? ≠ some '=' →
      Writes s value ["--" ++ s.longName, value] ∧
      Writes s value ["--" ++ s.longName ++ "=" ++ value] ∧
      ∀ c, s.letter? = some c →
        Writes s value ["-" ++ String.singleton c, value] ∧
        Writes s value ["-" ++ String.singleton c ++ "=" ++ value] ∧
        (value ≠ "" → Writes s value ["-" ++ String.singleton c ++ value]) := by
  refine ⟨read_eq_of_occurs, outcome?_variable, fun x => outcome?_of_perm, ?_⟩
  intro value hdash hmark
  have hword : IsWord value := isWord_of_head? hdash
  exact ⟨.apart .long hword, .attached (.longAttached value), fun c letter =>
    ⟨.apart (.short letter) hword, .attached (.shortMarked letter value), fun nonempty =>
      .attached (.shortAttached letter nonempty hmark)⟩⟩

/-- A variable that holds no port does no harm when an argument gives the port. -/
example : (read ["-p", "81", "--gateway-host=http://s/"]
    (assign .port (some "x") fun _ => none)).toOption =
      some { gateway := "http://s/", port := 81 } := by
  decide +kernel

end StorageGateway.Arguments
