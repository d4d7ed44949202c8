import StorageGateway.Options.Basic

/-!
# Reading arguments

Arguments are read one by one. A setting is named by two dashes and its name or by one dash and
its letter; its value is attached or follows as the next argument. A value that follows is taken
up when the next setting begins, so that a word out of place is reported before a value that is
refused. A setting that no argument gives is taken from the environment, and else has its default.

## Main definitions

* `Arguments.Refusal`: why arguments are refused, or what they ask for instead of a start.
* `Arguments.read`: the options given by arguments and environment.
-/

namespace StorageGateway.Arguments

/-- Why arguments are refused, or what they ask for instead of a start. -/
inductive Refusal where
  | helpAsked
  | versionAsked
  | unexpected (argument : String)
  | valueMissing (s : Setting)
  | repeated (s : Setting)
  | badValue (s : Setting) (value reason : String)
  /-- A value for a flag that takes none. -/
  | valueUnneeded (flag value : String)
  /-- The base URL of the storage service is given nowhere. -/
  | gatewayMissing
  deriving DecidableEq, Repr

/-- A text inside a message, where control characters do not show unless they are white space. -/
def shown (text : String) : String :=
  String.ofList (text.toList.filter fun c =>
    (0x20 ≤ c.toNat && c.toNat != 0x7F) || [0x09, 0x0A, 0x0C, 0x0D].contains c.toNat)

/-- The words for a refusal; the requests for help and version have none. -/
def Refusal.message? : Refusal → Option String
  | .helpAsked | .versionAsked => none
  | .unexpected argument => some ("error: unexpected argument '" ++ shown argument ++ "' found")
  | .valueMissing s =>
    some ("error: a value is required for '" ++ s.display ++ "' but none was supplied")
  | .repeated s => some ("error: the argument '" ++ s.display ++ "' cannot be used multiple times")
  | .badValue s value reason =>
    some ("error: invalid value '" ++ shown value ++ "' for '" ++ s.display ++ "': " ++ reason)
  | .valueUnneeded flag value =>
    some ("error: unexpected value '" ++ shown value ++ "' for '" ++ flag ++
      "' found; no more were expected")
  | .gatewayMissing => some "error: the following required arguments were not provided:"

/-- What the arguments so far have given. -/
structure Reader where
  given : List (Setting × String) := []
  /-- The setting named last, with its value once that is there. -/
  pending : Option (Setting × Option String) := none
  /-- Whether all further arguments are words. -/
  onlyWords : Bool := false
  deriving DecidableEq, Repr

/-- The text that was given for a setting. -/
def given? (given : List (Setting × String)) (s : Setting) : Option String :=
  (given.find? (·.1 == s)).map (·.2)

/-- A text checked as the value of a setting. -/
def checked (s : Setting) (text : String) : Except Refusal String :=
  match s.check text with
  | .ok () => .ok text
  | .error reason => .error (.badValue s text reason)

namespace Reader

/-- Takes up a value; a setting may be given once. -/
def take (r : Reader) (s : Setting) (text : String) : Except Refusal Reader :=
  if (given? r.given s).isSome then .error (.repeated s)
  else (checked s text).map fun text => { r with given := r.given ++ [(s, text)] }

/-- Takes up the value of the setting named last. -/
def settle (r : Reader) : Except Refusal Reader :=
  match r.pending with
  | none => .ok r
  | some (s, none) => .error (.valueMissing s)
  | some (s, some text) => take { r with pending := none } s text

/-- A setting is named, with a value or without. -/
def name (r : Reader) (s : Setting) (attached : Option String) : Except Refusal Reader :=
  r.settle.bind fun r =>
    match attached with
    | some text => r.take s text
    | none => .ok { r with pending := some (s, none) }

/-- Something else than a start is asked for. -/
def ask (r : Reader) (refusal : Refusal) : Except Refusal Reader :=
  r.settle.bind fun _ => .error refusal

/-- A flag that takes no value is named. -/
def flag (r : Reader) (text : String) (refusal : Refusal) (attached : Option String) :
    Except Refusal Reader :=
  match attached with
  | some value => .error (.valueUnneeded text value)
  | none => r.ask refusal

/-- The name in an argument after two dashes, and the value attached by an equals sign. -/
def splitLong (cs : List Char) : String × Option String :=
  match cs.dropWhile (· ≠ '=') with
  | [] => (String.ofList cs, none)
  | _ :: value => (String.ofList (cs.takeWhile (· ≠ '=')), some (String.ofList value))

/-- An argument after two dashes. -/
def long (r : Reader) (cs : List Char) : Except Refusal Reader :=
  let (word, attached) := splitLong cs
  if word = "help" then r.flag "--help" .helpAsked attached
  else if word = "version" then r.flag "--version" .versionAsked attached
  else
    match Setting.all.find? (·.longName == word) with
    | some s => r.name s attached
    | none => .error (.unexpected ("--" ++ word))

/-- The value attached to a letter, possibly after an equals sign. -/
def attachedTo : List Char → Option String
  | [] => none
  | '=' :: cs | cs => some (String.ofList cs)

/-- An argument after one dash, which starts with a letter. -/
def short (r : Reader) (c : Char) (cs : List Char) : Except Refusal Reader :=
  if c = 'h' then r.ask .helpAsked
  else if c = 'V' then r.ask .versionAsked
  else
    match Setting.all.find? (·.letter? == some c) with
    | some s => r.name s (attachedTo cs)
    | none => .error (.unexpected ("-" ++ String.singleton c))

/-- A word, which has to be the value of the setting named last. -/
def word (r : Reader) (text : String) : Except Refusal Reader :=
  match r.pending with
  | some (s, none) => .ok { r with pending := some (s, some text) }
  | _ => .error (.unexpected text)

/-- One more argument. -/
def next (r : Reader) (argument : String) : Except Refusal Reader :=
  if r.onlyWords then .error (.unexpected argument)
  else
    match argument.toList with
    | ['-', '-'] => .ok { r with onlyWords := true }
    | '-' :: '-' :: cs => r.long cs
    | '-' :: c :: cs => r.short c cs
    | _ => r.word argument

end Reader

/-- The texts given by arguments. -/
def readArguments (arguments : List String) : Except Refusal (List (Setting × String)) :=
  (arguments.foldlM Reader.next {}).bind fun r => r.settle.map (·.given)

/-- The text of a setting: from the arguments, or else from the environment. -/
def look (given : List (Setting × String)) (environment : String → Option String) (s : Setting) :
    Except Refusal (List (Setting × String)) :=
  match given? given s, environment s.environmentName with
  | some text, _ => .ok [(s, text)]
  | none, some text => (checked s text).map fun text => [(s, text)]
  | none, none => .ok []

/-- The options given by arguments and environment. -/
def read (arguments : List String) (environment : String → Option String) :
    Except Refusal Options := do
  let given ← readArguments arguments
  let texts ← Setting.all.mapM (look given environment)
  match Options.ofTexts? (given? texts.flatten) with
  | some options => return options
  | none => throw .gatewayMissing

end StorageGateway.Arguments
