import GuardedDispatch.Calendar.Date
import GuardedDispatch.Decimal.Limit
import GuardedDispatch.Dispatch.Outcome
import GuardedDispatch.Guard.Kind
import GuardedDispatch.Json.Fault
import GuardedDispatch.Value.Raised

/-! # Failures

Why an operation did not finish. A failure is a **cause**; its wording is a function of the cause.

* `TypeFault`: a value of the wrong kind stands where another kind is needed.
* `Issue`, `Invalid`: what a document's fields lack, place by place.
* `ConfigFault`: a malformed rule, strategy or document.
* `Failure`: all of these, the errors raised by applications, and the remaining causes. -/

namespace GuardedDispatch

/-- A value of the **wrong kind**. -/
inductive TypeFault where
  /-- A value without members stands where members are needed. -/
  | notIterable (kind : String)
  /-- A member that should be a pair has no members of its own. -/
  | notPair (index : Nat)
  /-- A value that can change stands where a member of a set or a key is needed. -/
  | unhashable (kind : String)
  /-- An option that the named part does not have. -/
  | unknownOption (part option : String)
  /-- An option that names the part itself. -/
  | selfOption (part : String)
  /-- A required option is missing. -/
  | missingOption (part option : String)
  /-- The name of an option is not a text. -/
  | optionNotText
  /-- Too few or too many parts of a positional rule. -/
  | wrongArity
  /-- Values that have no order. -/
  | unordered
  /-- A value that has no JSON form. -/
  | notJson
  /-- A value other than a text where a text is matched. -/
  | notText
  /-- A part other than a token where a token is used up. -/
  | notToken
  /-- A value that an option cannot have. -/
  | notOption
  deriving DecidableEq, Repr

/-- The text of a fault of kind. -/
def TypeFault.message : TypeFault → String
  | .notIterable kind => "'" ++ kind ++ "' object is not iterable"
  | .notPair index =>
    "cannot convert dictionary update sequence element #" ++ toString index ++ " to a sequence"
  | .unhashable kind => "unhashable type: '" ++ kind ++ "'"
  | .unknownOption part option =>
    part ++ ".__init__() got an unexpected keyword argument '" ++ option ++ "'"
  | .selfOption part => part ++ ".__init__() got multiple values for argument 'self'"
  | .missingOption part option =>
    part ++ ".__init__() missing 1 required positional argument: '" ++ option ++ "'"
  | .optionNotText => "keywords must be strings"
  | .wrongArity => "wrong number of parts"
  | .unordered => "no order between the values"
  | .notJson => "no JSON form"
  | .notText => "no text"
  | .notToken => "no token"
  | .notOption => "no value for the option"

/-- One step on the way to a place inside a document. -/
inductive Place where
  /-- Under a key. -/
  | key (name : String)
  /-- At a position of a list. -/
  | index (position : Nat)
  deriving DecidableEq, Repr

/-- What is wrong at one place. -/
inductive Lack where
  /-- A required field is absent. -/
  | missing
  /-- A text is needed. -/
  | notText
  /-- Octets that are not UTF-8 stand for a text. -/
  | notUnicode
  /-- The list of roles is empty. -/
  | noRole
  /-- A map or a rule is needed. -/
  | notRule
  /-- A text or number that is no word for a truth value. -/
  | notBoolean
  /-- A value that cannot be read as a truth value at all. -/
  | noBoolean
  deriving DecidableEq, Repr

/-- The printed code of a lack. -/
def Lack.code : Lack → String
  | .missing => "missing"
  | .notText => "string_type"
  | .notUnicode => "string_unicode"
  | .noRole => "value_error"
  | .notRule => "model_type"
  | .notBoolean => "bool_parsing"
  | .noBoolean => "bool_type"

/-- The text of a lack. -/
def Lack.message : Lack → String
  | .missing => "Field required"
  | .notText => "Input should be a valid string"
  | .notUnicode => "Input should be a valid string, unable to parse raw data as a unicode string"
  | .noRole => "Value error, at least one role is required"
  | .notRule => "Input should be a valid dictionary or instance of RuleSpec"
  | .notBoolean => "Input should be a valid boolean, unable to interpret input"
  | .noBoolean => "Input should be a valid boolean"

/-- A lack and its place. -/
structure Issue where
  place : List Place
  lack : Lack
  deriving DecidableEq, Repr

/-- All the issues of one document, in field order. -/
structure Invalid where
  subject : String
  issues : List Issue
  deriving DecidableEq, Repr

/-- The first line of the report on an invalid document. -/
def Invalid.message (report : Invalid) : String :=
  let count := report.issues.length
  toString count ++ (if count = 1 then " validation error for " else " validation errors for ") ++
    report.subject

/-- Why one raw rule was refused. -/
inductive RuleFault where
  /-- The raw rule, or one of its fields, has the wrong kind. -/
  | type (fault : TypeFault)
  /-- A member of the raw rule is no pair. -/
  | pairLength (index length : Nat)
  /-- Fields of the rule are invalid. -/
  | invalid (report : Invalid)
  /-- The rule names none of the guard's targets. -/
  | noTarget (field : String)
  deriving DecidableEq, Repr

/-- The text of a fault in a raw rule. -/
def RuleFault.message : RuleFault → String
  | .type fault => fault.message
  | .pairLength index length =>
    "dictionary update sequence element #" ++ toString index ++ " has length " ++
      toString length ++ "; 2 is required"
  | .invalid report => report.message
  | .noTarget field => "'" ++ field ++ "' is required"

/-- A **malformed** rule, strategy or document, or a part that lacks another. -/
inductive ConfigFault where
  /-- A raw rule of a guard was refused. -/
  | rule (guard : GuardKind) (index : Nat) (fault : RuleFault)
  /-- A guard has to ask, and has no one to ask. -/
  | noService (guard : GuardKind)
  /-- A denial has no bus to be announced on. -/
  | noBus (event : String)
  /-- A redirection has to build an address, and has no router. -/
  | noRouter (route : String)
  /-- The page of a denial has no template. -/
  | noTemplate
  /-- A rule names an assertion that does not exist. -/
  | unknownAssertion (assertion resource : String)
  /-- The document is no map. -/
  | notMapping
  /-- The section of guards is no map. -/
  | guardsNotMapping
  /-- No guard is registered under the id. -/
  | unknownGuard (id : String)
  /-- The rules of a guard are no list. -/
  | rulesNotList (id : String)
  /-- The section of the strategy is neither a map nor an id. -/
  | strategyNotMapping
  /-- No strategy is registered under the id. -/
  | unknownStrategy (id : String)
  /-- The options of a strategy do not fit it. -/
  | options (id : String) (fault : TypeFault)
  /-- The section of rules is no map. -/
  | extraNotMapping
  /-- The section of rules has a key other than the two kinds. -/
  | unknownRuleKind (kind : String)
  /-- The positional rules of a kind are malformed. -/
  | extraShape (kind : String)
  /-- The document's file does not exist. -/
  | notFound (path : String)
  /-- The document's text is not well formed. -/
  | malformed (path : String)
  deriving DecidableEq, Repr

/-- The text of a configuration fault. -/
def ConfigFault.message : ConfigFault → String
  | .rule guard index fault =>
    "Invalid " ++ guard.id ++ " guard rule #" ++ toString index ++ ": " ++ fault.message
  | .noService guard => "The " ++ guard.id ++ " guard has no authorization service"
  | .noBus event => "Request " ++ event ++ " is not bound to an event bus"
  | .noRouter route => "Cannot assemble route '" ++ route ++ "' without a router"
  | .noTemplate => "The unauthorized strategy needs a template"
  | .unknownAssertion assertion resource =>
    "Unknown assertion '" ++ assertion ++ "' on " ++ resource
  | .notMapping => "Guard configuration must be a mapping"
  | .guardsNotMapping => "'guards' must map guard ids to rule lists"
  | .unknownGuard id => "Guard '" ++ id ++ "' not found"
  | .rulesNotList id => "Rules for guard '" ++ id ++ "' must be a list"
  | .strategyNotMapping => "'strategy' must be a mapping or a strategy id"
  | .unknownStrategy id => "Strategy '" ++ id ++ "' not found"
  | .options id fault => "Invalid options for strategy '" ++ id ++ "': " ++ fault.message
  | .extraNotMapping => "'rules' must map 'allow'/'deny' to rule lists"
  | .unknownRuleKind kind => "Unknown rule kind '" ++ kind ++ "'"
  | .extraShape kind =>
    "'" ++ kind ++ "' rules must be lists of [roles, resource, privilege?, assertion?]"
  | .notFound path => "Guard configuration not found: " ++ path
  | .malformed path => "Invalid YAML in " ++ path

/-- What a registry refuses. -/
inductive RegistryFault where
  /-- The id of a guard is taken. -/
  | guardTaken (id : String)
  /-- No guard has the id. -/
  | guardMissing (id : String)
  /-- The id of a strategy is taken. -/
  | strategyTaken (id : String)
  /-- No strategy has the id. -/
  | strategyMissing (id : String)
  deriving DecidableEq, Repr

/-- The text of a registry fault. -/
def RegistryFault.message : RegistryFault → String
  | .guardTaken id => "Guard '" ++ id ++ "' is already registered"
  | .guardMissing id => "Guard '" ++ id ++ "' not found"
  | .strategyTaken id => "Strategy '" ++ id ++ "' is already registered"
  | .strategyMissing id => "Strategy '" ++ id ++ "' not found"

/-- A value of the right kind that is unsuitable. -/
inductive ValueFault where
  /-- A date or time that does not exist. -/
  | calendar (fault : Calendar.Fault)
  /-- A text that is no whole number in the base; the text is given in quotes. -/
  | integer (base : Nat) (quoted : String)
  /-- A text that is no number; the text is given in quotes. -/
  | float (quoted : String)
  /-- A number that JSON cannot write. -/
  | notFinite
  /-- A text that is no JSON, and where. -/
  | json (fault : Json.Fault) (place : Json.Place)
  /-- A number that is no code point. -/
  | codePoint
  /-- A named part that does not have a field. -/
  | noField (part field : String)
  /-- An integer of too many digits, and how many, unless it is only too long to be written. -/
  | tooManyDigits (count : Option Nat)
  deriving DecidableEq, Repr

/-- The text of an unsuitable value. -/
def ValueFault.message : ValueFault → String
  | .calendar fault => fault.message
  | .integer base quoted =>
    "invalid literal for int() with base " ++ toString base ++ ": " ++ quoted
  | .float quoted => "could not convert string to float: " ++ quoted
  | .notFinite => "Out of range float values are not JSON compliant"
  | .json fault place => fault.message ++ ": " ++ place.text
  | .codePoint => "chr() arg not in range(0x110000)"
  | .noField part field => "\"" ++ part ++ "\" object has no field \"" ++ field ++ "\""
  | .tooManyDigits count =>
    "Exceeds the limit (" ++ toString Decimal.digitLimit ++
      " digits) for integer string conversion" ++
      ((count.map fun count => ": value has " ++ toString count ++ " digits").getD "") ++
      "; use sys.set_int_max_str_digits() to increase the limit"

/-- Why a **route** cannot be laid out. -/
inductive RouteFault where
  /-- A parameter has a convertor that does not exist. -/
  | unknownConvertor (name : String)
  /-- Parameters of a path have the same name. -/
  | repeatedParameters (names : List String) (path : String)
  /-- The path of a mounted application does not start with a slash. -/
  | notRooted
  /-- The route takes no method. -/
  | noMethods
  deriving DecidableEq, Repr

/-- The text of a fault in a route. -/
def RouteFault.message : RouteFault → String
  | .unknownConvertor name => "Unknown path convertor '" ++ name ++ "'"
  | .repeatedParameters names path =>
    "Duplicated param name" ++ (if names.length = 1 then " " else "s ") ++
      ", ".intercalate names ++ " at path " ++ path
  | .notRooted => "Routed paths must start with '/'"
  | .noMethods => ""

/-- A number that is **too large** for what it is to become. -/
inductive OverflowFault where
  /-- An integer that is to become a code point. -/
  | codePoint
  /-- An integer that is to become a floating-point number. -/
  | float
  deriving DecidableEq, Repr

/-- The text of an overflow. -/
def OverflowFault.message : OverflowFault → String
  | .codePoint => "Python int too large to convert to C int"
  | .float => "int too large to convert to float"

/-- Why an operation **did not finish**. -/
inductive Failure where
  /-- An error raised by an application, a listener or an assertion. -/
  | raised (error : Raised)
  /-- A malformed or incomplete configuration. -/
  | configuration (fault : ConfigFault)
  /-- An invalid document. -/
  | invalid (report : Invalid)
  /-- The variable of a setting cannot be named. -/
  | setting (field : String)
  /-- A guard outcome cannot move from one state to the other. -/
  | transition (guard : String) (source target : Outcome)
  /-- A registry refused an id. -/
  | registry (fault : RegistryFault)
  /-- A value of the wrong kind. -/
  | type (fault : TypeFault)
  /-- An unsuitable value. -/
  | value (fault : ValueFault)
  /-- A number that is too large. -/
  | overflow (fault : OverflowFault)
  /-- A part does not have what was asked of it. -/
  | attribute
  /-- A part cannot be changed. -/
  | frozen
  /-- No entry under a key. -/
  | key
  /-- No item at a position. -/
  | index
  /-- Octets that are not text. -/
  | undecodable
  /-- A text that has no octets in the encoding. -/
  | unencodable
  /-- Triggers or documents nested too deeply. -/
  | tooDeep
  /-- A token that was used before. -/
  | spentToken
  /-- A route that cannot be laid out. -/
  | route (fault : RouteFault)
  /-- No route has the name, or it needs parameters. -/
  | noRoute (name : String)
  deriving DecidableEq, Repr

/-- The text of a failure. -/
def Failure.message : Failure → String
  | .raised error => error.text.shown
  | .configuration fault => fault.message
  | .invalid report => report.message
  | .setting field =>
    "error getting value for field \"" ++ field ++ "\" from source \"EnvSettingsSource\""
  | .transition guard source target =>
    "Guard '" ++ guard ++ "' cannot go from " ++ source.name ++ " to " ++ target.name
  | .registry fault => fault.message
  | .type fault => fault.message
  | .value fault => fault.message
  | .overflow fault => fault.message
  | .attribute => "no such attribute"
  | .frozen => "a part that cannot be changed"
  | .key => "no such key"
  | .index => "no such position"
  | .undecodable => "octets that are not text"
  | .unencodable => "text that cannot be encoded"
  | .tooDeep => "nested too deeply"
  | .spentToken => "the token was used before"
  | .route fault => fault.message
  | .noRoute name => "No route exists for name \"" ++ name ++ "\" and params \"\"."

end GuardedDispatch
