import GuardedDispatch.Access.Provider
import GuardedDispatch.Config.Dotenv
import GuardedDispatch.Guard.Rule.Reader

/-! # Settings

What is set once for an application. Each field comes from the first source that has it: arguments,
variables of the environment, a file of variables, and last its standard value. All fields are read
before the issues of those that cannot be read are reported, in field order (`Settings.read`).

The names of variables carry a prefix, and the letter case of names does not count. Arguments whose
names start with a low line change this and other conventions (`Convention.ofArguments`). -/

namespace GuardedDispatch

/-- The **settings** of an application. -/
structure Settings where
  environment : Word := "development"
  debug : Bool := true
  logLevel : Word := "INFO"
  guardsConfig : Word := "config/gatekeeper.yaml"
  defaultRole : Word := standardRole
  unauthorizedStrategy : Word := "unauthorized"
  template : Word := "error/403"
  redirectRoute : Word := "login"
  redirectUri : Option Word := none
  deriving DecidableEq, Repr

namespace Settings

/-- Whether the application runs for its users. -/
def isProduction (settings : Settings) : Bool := settings.environment == .text "production"

/-- How variables are **read**: the prefix of their names, whether letter case counts in names,
whether empty values count, and the word that stands for the absent value. -/
structure Convention where
  namePrefix : String := "GATEKEEPER_"
  exactCase : Bool := false
  skipsEmpty : Bool := false
  absentWord : Option String := none
  deriving DecidableEq, Repr

namespace Convention

/-- What tells names apart: the name itself, or its lower-case form. -/
def key (convention : Convention) (name : String) : String :=
  if convention.exactCase then name else Text.lowercase name

/-- The key of the variable of a field. -/
def variableKey (convention : Convention) (field : String) : String :=
  convention.key (convention.namePrefix ++ field)

/-- The value that the text of a variable stands for. -/
def value (convention : Convention) (text : String) : Value :=
  if convention.absentWord = some text then .null else .str text

/-- Whether the text of a variable counts. -/
def counts (convention : Convention) (text : String) : Bool :=
  !(convention.skipsEmpty && text.isEmpty)

/-- The prefix that an argument gives to the names of variables. What has no length is refused at
once, and what cannot stand in front of a text when the first field is read. -/
def readPrefix (standard : String) : Option Value → Except Failure String
  | none | some .null => .ok standard
  | some (.str text) => .ok text
  | some (.bool _) | some (.int _) | some (.float _) => .error (.type .notOption)
  | some _ => .error (.setting "environment")

/-- Whether an argument asks for something. -/
def asks (arguments : List (String × Value)) (name : String) : Bool :=
  ((lookupField name arguments).map Value.truthy).getD false

/-- The word that an argument gives to the absent value. -/
def readAbsentWord : Option Value → Option String
  | some (.str word) => some word
  | _ => none

/-- Whether a value names directories: a text, several of them, or nothing. -/
def namesDirectories (v : Value) : Bool :=
  v.isNull || v.isText || v.members?.any (·.all Value.isText)

/-- The **convention** that arguments give. The file of variables is not theirs to choose. -/
def ofArguments (arguments : List (String × Value)) : Except Failure Convention := do
  let standard : Convention := {}
  if (lookupField "_env_file" arguments).isSome then throw (.type .notOption)
  let namePrefix ← readPrefix standard.namePrefix (lookupField "_env_prefix" arguments)
  if !namesDirectories ((lookupField "_secrets_dir" arguments).getD .null) then
    throw (.type .notOption)
  return {
    namePrefix
    exactCase := asks arguments "_case_sensitive"
    skipsEmpty := asks arguments "_env_ignore_empty"
    absentWord := readAbsentWord (lookupField "_env_parse_none_str" arguments) }

/-- By itself a text stands for what it says. -/
@[simp] theorem value_standard (text : String) : ({} : Convention).value text = .str text := rfl

/-- By itself every text counts. -/
@[simp] theorem counts_standard (text : String) : ({} : Convention).counts text = true := rfl

/-- Without arguments the convention is the standard one. -/
@[simp] theorem ofArguments_nil : ofArguments [] = .ok {} := rfl

end Convention

/-- Where settings come from. -/
structure Sources where
  arguments : List (String × Value) := []
  environment : List (String × String) := []
  file : Option String := none

/-- Entries by the keys of their names; of several names of a key the last counts. -/
def byKey (convention : Convention) (entries : List (String × α)) : List (String × α) :=
  entries.foldl (fun found entry => putField (convention.key entry.1) entry.2 found) []

namespace Sources

/-- The variables of the **environment**, by key. -/
def ofEnvironment (sources : Sources) (convention : Convention) : List (String × String) :=
  byKey convention (sources.environment.filter fun entry => convention.counts entry.2)

/-- The variables of the **file**, by key. -/
def ofFile (sources : Sources) (convention : Convention) : List (String × Option String) :=
  match sources.file with
  | none => []
  | some text =>
    byKey convention ((Dotenv.assignments sources.environment text).filter fun entry =>
      entry.2.all convention.counts)

/-- The **argument** of a field; of several spellings the first counts. -/
def argument? (sources : Sources) (convention : Convention) (field : String) : Option Value :=
  (sources.arguments.find? fun entry => convention.key entry.1 == field).map Prod.snd

/-- The raw value of a field in the first source that has it. -/
def find? (sources : Sources) (convention : Convention) (field : String) : Option Value :=
  let key := convention.variableKey field
  (sources.argument? convention field).or
    (((lookupField key (sources.ofEnvironment convention)).map convention.value).or
      ((lookupField key (sources.ofFile convention)).join.map convention.value))

end Sources

/-- Words for false, in lower case. -/
def falseWords : List String := ["0", "off", "f", "false", "n", "no"]

/-- Words for true, in lower case. -/
def trueWords : List String := ["1", "on", "t", "true", "y", "yes"]

/-- The truth value of a word. -/
def wordTruth (word : String) : Except Lack Bool :=
  let word := String.ofList (word.toList.map Char.toLower)
  if falseWords.contains word then .ok false
  else if trueWords.contains word then .ok true
  else .error .notBoolean

/-- The truth value of a whole number, which must be one or zero. Numbers of more than 64 bits
cannot be read as truth values at all. -/
def integerTruth (i : Int) : Except Lack Bool :=
  if i = 0 then .ok false
  else if i = 1 then .ok true
  else if -0x8000000000000000 ≤ i ∧ i < 0x8000000000000000 then .error .notBoolean
  else .error .noBoolean

/-- Read a truth value. -/
def readBool (v : Value) : Except Lack Bool :=
  match v with
  | .bool b => .ok b
  | .str s => wordTruth s
  | .bytes octets =>
    match Text.Utf8.decode? octets with
    | some s => wordTruth s
    | none => .error .notBoolean
  | .int i => integerTruth i
  | .float _ =>
    match v.extent? with
    | some (.number q) => if q.den = 1 then integerTruth q.num else .error .noBoolean
    | _ => .error .noBoolean
  | _ => .error .noBoolean

/-- Read one field, or take its standard value. -/
def readField (raw? : String → Option Value) (field : String) (read : Value → Except Lack α)
    (standard : α) : Except (List Issue) α :=
  match raw? field with
  | none => .ok standard
  | some v => (read v).mapError fun lack => [⟨[.key field], lack⟩]

/-- Read the settings from the raw values of their fields. -/
def readFields (raw? : String → Option Value) : Except Invalid Settings :=
  let standard : Settings := {}
  let text := fun field (value : Word) => readField raw? field readText value
  let environment := text "environment" standard.environment
  let debug := readField raw? "debug" readBool standard.debug
  let logLevel := text "log_level" standard.logLevel
  let guardsConfig := text "guards_config" standard.guardsConfig
  let defaultRole := text "default_role" standard.defaultRole
  let unauthorizedStrategy := text "unauthorized_strategy" standard.unauthorizedStrategy
  let template := text "template" standard.template
  let redirectRoute := text "redirect_route" standard.redirectRoute
  let redirectUri := readField raw? "redirect_uri" readText? standard.redirectUri
  match environment, debug, logLevel, guardsConfig, defaultRole, unauthorizedStrategy, template,
    redirectRoute, redirectUri with
  | .ok environment, .ok debug, .ok logLevel, .ok guardsConfig, .ok defaultRole,
    .ok unauthorizedStrategy, .ok template, .ok redirectRoute, .ok redirectUri =>
    .ok { environment, debug, logLevel, guardsConfig, defaultRole, unauthorizedStrategy, template,
          redirectRoute, redirectUri }
  | _, _, _, _, _, _, _, _, _ =>
    .error ⟨"Settings",
      issuesOf environment ++ issuesOf debug ++ issuesOf logLevel ++ issuesOf guardsConfig ++
        issuesOf defaultRole ++ issuesOf unauthorizedStrategy ++ issuesOf template ++
        issuesOf redirectRoute ++ issuesOf redirectUri⟩

/-- **Read** the settings from their sources. -/
def read (sources : Sources) : Except Failure Settings := do
  let convention ← Convention.ofArguments sources.arguments
  (readFields (sources.find? convention)).mapError .invalid

/-- The fields of the settings, by name. -/
def fields (settings : Settings) : List (String × Value) :=
  [("environment", .ofWord settings.environment),
   ("debug", .bool settings.debug),
   ("log_level", .ofWord settings.logLevel),
   ("guards_config", .ofWord settings.guardsConfig),
   ("default_role", .ofWord settings.defaultRole),
   ("unauthorized_strategy", .ofWord settings.unauthorizedStrategy),
   ("template", .ofWord settings.template),
   ("redirect_route", .ofWord settings.redirectRoute),
   ("redirect_uri", .ofWord? settings.redirectUri),
   ("is_production", .bool settings.isProduction)]

end Settings

end GuardedDispatch
