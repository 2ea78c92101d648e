import GuardedDispatch.Decimal.Reading
import GuardedDispatch.Text.Blank
import GuardedDispatch.Value.Equality

/-! # Files of variables

A text of lines `NAME=value`. Values may stand in quotes, with escapes, over several lines; outside
quotes a comment ends the value. A name may follow the word `export`, and a line that is no binding
is passed over. References `${NAME}` and `${NAME:-default}` are replaced by variables of the
environment and by those of earlier lines, which come first (`Dotenv.assignments`). -/

namespace GuardedDispatch.Dotenv

/-- A **binding** of a name; a name without an equals sign has no value. -/
structure Binding where
  name : String
  value : Option String
  deriving DecidableEq, Repr

/-- Pass over inline blanks. -/
def skipInline (cs : List Char) : List Char := cs.dropWhile Text.isInlineBlank

/-- Whether a character may stand in a name without quotes. -/
def isNameChar (c : Char) : Bool := c ≠ '=' && c ≠ '#' && !Text.isBlank c

/-- Pass over the word `export` and the blanks behind it. -/
def skipExport (cs : List Char) : List Char :=
  match cs with
  | 'e' :: 'x' :: 'p' :: 'o' :: 'r' :: 't' :: rest =>
    match rest with
    | c :: _ => if Text.isInlineBlank c then skipInline rest else cs
    | [] => cs
  | _ => cs

/-- What a step found, and where it stopped; a step that fails still says where. -/
inductive Step (α : Type) where
  /-- It found something. -/
  | found (value : α) (rest : List Char)
  /-- It failed. -/
  | failed (rest : List Char)

/-- Read a name; a comment has none. -/
def readName (cs : List Char) : Step (Option (List Char)) :=
  match cs with
  | '#' :: _ => .found none cs
  | '\'' :: rest =>
    let name := rest.takeWhile (· ≠ '\'')
    match rest.dropWhile (· ≠ '\'') with
    | _ :: after => if name.isEmpty then .failed cs else .found (some name) after
    | [] => .failed cs
  | _ =>
    let name := cs.takeWhile isNameChar
    if name.isEmpty then .failed cs else .found (some name) (cs.dropWhile isNameChar)

/-- The characters up to a closing quote, none of them escaped; nothing if there is none. A
backslash escapes the character behind it. -/
def readQuoted (quote : Char) : List Char → Option (List Char × List Char)
  | [] => none
  | '\\' :: c :: rest =>
    (readQuoted quote rest).map fun (value, after) => ('\\' :: c :: value, after)
  | c :: rest =>
    if c = quote then some ([], rest)
    else (readQuoted quote rest).map fun (value, after) => (c :: value, after)

/-- The character of an escape between the given quotes. -/
def escaped? (quote c : Char) : Option Char :=
  if c = '\\' then some '\\'
  else if c = '\'' then some '\''
  else if quote = '"' then
    match c with
    | '"' => some '"'
    | 'a' => some '\x07'
    | 'b' => some '\x08'
    | 'f' => some '\x0c'
    | 'n' => some '\n'
    | 'r' => some '\r'
    | 't' => some '\t'
    | 'v' => some '\x0b'
    | _ => none
  else none

/-- Replace escapes. -/
def unescape (quote : Char) : List Char → List Char
  | '\\' :: c :: rest =>
    match escaped? quote c with
    | some e => e :: unescape quote rest
    | none => '\\' :: unescape quote (c :: rest)
  | c :: rest => c :: unescape quote rest
  | [] => []

/-- Cut a value outside quotes before the first blanks that a comment follows. -/
def cutComment : List Char → List Char
  | [] => []
  | c :: rest =>
    if Text.isBlank c && (match rest.dropWhile Text.isBlank with
        | '#' :: _ => true
        | _ => false) then []
    else c :: cutComment rest

/-- Whether a character ends a line. -/
def isLineEnd (c : Char) : Bool := c = '\n' || c = '\r'

/-- Read a value behind its equals sign. Outside quotes, a comment may follow blanks at once. -/
def readValue (cs : List Char) : Step (List Char) :=
  match skipInline cs with
  | '\'' :: rest =>
    match readQuoted '\'' rest with
    | some (value, after) => .found (unescape '\'' value) after
    | none => .failed cs
  | '"' :: rest =>
    match readQuoted '"' rest with
    | some (value, after) => .found (unescape '"' value) after
    | none => .failed cs
  | _ =>
    let line := cutComment (cs.takeWhile fun c => !isLineEnd c)
    .found (Text.dropEndWhile Text.isBlank (skipInline line)) (cs.dropWhile fun c => !isLineEnd c)

/-- Pass over a comment, if one is next on the line. -/
def skipComment (cs : List Char) : List Char :=
  match skipInline cs with
  | '#' :: rest => rest.dropWhile fun c => !isLineEnd c
  | _ => cs

/-- Pass over the end of the line, which has to be next. -/
def endLine (cs : List Char) : Step Unit :=
  match skipInline cs with
  | '\r' :: '\n' :: rest => .found () rest
  | '\n' :: rest | '\r' :: rest => .found () rest
  | [] => .found () []
  | _ => .failed cs

/-- Pass over what is left of the line, and its end. -/
def skipLine (cs : List Char) : List Char :=
  match cs.dropWhile fun c => !isLineEnd c with
  | '\r' :: rest | '\n' :: rest => rest
  | _ => []

/-- Read the value behind a name, if an equals sign follows. -/
def readAssigned (cs : List Char) : Step (Option (List Char)) :=
  match skipInline cs with
  | '=' :: rest =>
    match readValue rest with
    | .found value after => .found (some value) after
    | .failed after => .failed after
  | after => .found none after

/-- Read one binding at the front of a text that does not start with blanks. -/
def readBinding (cs : List Char) : Option Binding × List Char :=
  match readName (skipExport cs) with
  | .failed rest => (none, skipLine rest)
  | .found name rest =>
    match readAssigned rest with
    | .failed rest => (none, skipLine rest)
    | .found value rest =>
      match endLine (skipComment rest) with
      | .failed rest => (none, skipLine rest)
      | .found () rest =>
        (name.map fun name => ⟨String.ofList name, value.map String.ofList⟩, rest)

/-- The bindings of a text, at most `fuel` of them. -/
def readBindings : Nat → List Char → List Binding
  | 0, _ => []
  | fuel + 1, cs =>
    match cs.dropWhile Text.isBlank with
    | [] => []
    | cs =>
      let (binding, rest) := readBinding cs
      binding.toList ++ readBindings fuel rest

/-- A text without the byte order mark at its start. -/
def dropByteOrderMark : List Char → List Char
  | '\ufeff' :: rest => rest
  | cs => cs

/-- The **bindings** of a text, in order. -/
def bindings (text : String) : List Binding :=
  let cs := Text.foldLineEnds (dropByteOrderMark text.toList)
  readBindings (cs.length + 1) cs

/-- A reference: its name, its default, and what follows it. -/
def readReference (cs : List Char) : Option (List Char × List Char × List Char) :=
  let name := cs.takeWhile fun c => c ≠ '\x7d' && c ≠ ':'
  match cs.dropWhile fun c => c ≠ '\x7d' && c ≠ ':' with
  | '\x7d' :: rest => some (name, [], rest)
  | ':' :: '-' :: more =>
    match more.dropWhile (· ≠ '\x7d') with
    | _ :: rest => some (name, more.takeWhile (· ≠ '\x7d'), rest)
    | [] => none
  | _ => none

/-- Replace references by the values of a lookup, at most `fuel` characters. -/
def substitute (lookup : String → Option String) : Nat → List Char → List Char
  | 0, _ => []
  | _, [] => []
  | fuel + 1, c :: rest =>
    match c, rest with
    | '$', '\x7b' :: more =>
      match readReference more with
      | some (name, default, after) =>
        ((lookup (String.ofList name)).getD (String.ofList default)).toList ++
          substitute lookup fuel after
      | none => c :: substitute lookup fuel rest
    | _, _ => c :: substitute lookup fuel rest

/-- The value of a reference: that of an earlier line, or that of the environment. -/
def lookupVariable (environment : List (String × String))
    (earlier : List (String × Option String)) (name : String) : Option String :=
  match lookupField name earlier with
  | some value => some (value.getD "")
  | none => lookupField name environment

/-- Bind one more name. -/
def bindVariable (environment : List (String × String))
    (earlier : List (String × Option String)) (binding : Binding) :
    List (String × Option String) :=
  let value := binding.value.map fun value =>
    let cs := value.toList
    String.ofList (substitute (lookupVariable environment earlier) cs.length cs)
  putField binding.name value earlier

/-- The **variables** that a text binds, given those of the environment. -/
def assignments (environment : List (String × String)) (text : String) :
    List (String × Option String) :=
  (bindings text).foldl (bindVariable environment) []

end GuardedDispatch.Dotenv
