import GuardedDispatch.Decimal.Reading
import GuardedDispatch.Failure
import GuardedDispatch.Text.Folding
import GuardedDispatch.Value.Basic

/-! # Path patterns

A route's path: literal text and parameters in braces, each with a convertor that says what it
takes. A pattern matches a whole path, which may end in a line feed that it does not name. Of
several ways to divide the path among the parameters, the first takes as much as it can, then the
second, and so on (`matchParts`). The parameters are read after that, and one that cannot be read is
a failure, not a path that does not match (`Pattern.read`). A pattern without a slash at its start
names a host: its letters match in any case, and what follows its last colon does not count
(`Pattern.ofText`). -/

namespace GuardedDispatch.Web

/-- What a **parameter** takes from a path. -/
inductive Convertor where
  /-- One segment: everything but a slash, at least one character. -/
  | segment
  /-- The rest of the path, up to a line feed. -/
  | rest
  /-- Digits. -/
  | integer
  /-- Digits, and perhaps a point and further digits. -/
  | decimal
  /-- Hexadecimal digits in five groups, with hyphens between them or without. -/
  | uuid
  deriving DecidableEq, Repr

/-- A **part** of a pattern. -/
inductive Part where
  /-- Text that the path has as it is. -/
  | literal (text : List Char)
  /-- A parameter. -/
  | parameter (name : String) (convertor : Convertor)
  deriving DecidableEq, Repr

/-- A path **pattern**, which may match letters in any case. -/
structure Pattern where
  parts : List Part
  anyCase : Bool := false
  deriving DecidableEq, Repr

namespace Convertor

/-- The convertor of a name. -/
def ofName? (name : String) : Option Convertor :=
  if name = "str" then some segment
  else if name = "path" then some rest
  else if name = "int" then some integer
  else if name = "float" then some decimal
  else if name = "uuid" then some uuid
  else none

/-- Search for the **longest first part** behind which something is found: the first part, from its
end backwards, gives up one character after the other. -/
def searchCuts (mayBeEmpty : Bool) (find : List Char → Option β) :
    List Char → List Char → Option (List Char × β)
  | [], left => if mayBeEmpty then (find left).map ([], ·) else none
  | c :: back, left =>
    match find left with
    | some found => some ((c :: back).reverse, found)
    | none => searchCuts mayBeEmpty find back (c :: left)

@[simp] theorem searchCuts_nil (find : List Char → Option β) (left : List Char) :
    searchCuts true find [] left = (find left).map ([], ·) := rfl

/-- Search behind characters of a class, at least one. -/
def searchSome (test : Char → Bool) (find : List Char → Option β) (cs : List Char) :
    Option (List Char × β) :=
  searchCuts false find (cs.takeWhile test).reverse (cs.dropWhile test)

/-- Search behind a fraction: a point and digits. -/
def searchPoint (find : List Char → Option β) : List Char → Option (List Char × β)
  | '.' :: more => (searchSome Char.isDigit find more).map fun (digits, found) =>
    ('.' :: digits, found)
  | _ => none

/-- Search behind a fraction, and then without one. -/
def searchFraction (find : List Char → Option β) (cs : List Char) : Option (List Char × β) :=
  match searchPoint find cs with
  | some result => some result
  | none => (find cs).map ([], ·)

/-- Whether a character is a hexadecimal digit. -/
def isHexDigit (c : Char) : Bool :=
  c.isDigit || ('a' ≤ c && c ≤ 'f') || ('A' ≤ c && c ≤ 'F')

/-- The sizes of the groups of digits that make a unique identifier. -/
def groupSizes : List Nat := [8, 4, 4, 4, 12]

/-- Characters without a hyphen at their start. -/
def skipHyphen : List Char → List Char
  | '-' :: after => after
  | cs => cs

/-- Take groups of hexadecimal digits of given sizes from the front. -/
def takeGroups : List Nat → List Char → Option (List (List Char) × List Char)
  | [], cs => some ([], cs)
  | size :: sizes, cs =>
    let group := cs.take size
    let after := cs.drop size
    if group.length = size && group.all isHexDigit then
      (takeGroups sizes (if sizes.isEmpty then after else skipHyphen after)).map
        fun (groups, left) => (group :: groups, left)
    else none

/-- Search behind the characters that a convertor takes from the front, **the longest first**; the
answer holds what it took. -/
def search (find : List Char → Option β) : Convertor → List Char → Option (List Char × β)
  | segment, cs => searchSome (· ≠ '/') find cs
  | rest, cs => searchCuts true find (cs.takeWhile (· ≠ '\n')).reverse (cs.dropWhile (· ≠ '\n'))
  | integer, cs => searchSome Char.isDigit find cs
  | decimal, cs =>
    (searchSome Char.isDigit (searchFraction find) cs).map fun (whole, fraction, found) =>
      (whole ++ fraction, found)
  | uuid, cs => do
    let (_, left) ← takeGroups groupSizes cs
    return (cs.take (cs.length - left.length), ← find left)

/-- The value of the characters that a convertor took. -/
def value : Convertor → List Char → Except Failure Value
  | segment, cs | rest, cs => .ok (.str (String.ofList cs))
  | integer, cs =>
    if Decimal.exceedsLimit cs then .error (.value (.tooManyDigits (some cs.length)))
    else .ok (.int (Decimal.natural cs))
  | decimal, cs =>
    .ok (.float (Decimal.Parts.toFloat
      ⟨cs.takeWhile Char.isDigit, (cs.dropWhile Char.isDigit).drop 1, 0⟩ false))
  | uuid, cs =>
    let groups := ((takeGroups groupSizes cs).map (·.1)).getD []
    .ok (.str ("-".intercalate (groups.map fun group => String.ofList (group.map Char.toLower))))

end Convertor

/-- The rest of a list behind a first part, if it starts with it. -/
def dropFront? : List Char → List Char → Option (List Char)
  | [], cs => some cs
  | p :: ps, c :: cs => if p = c then dropFront? ps cs else none
  | _ :: _, [] => none

/-- The rest of a list behind a first part, if the **keys** of its characters start with those of
the part. -/
def dropFrontBy? (key : Char → Char) : List Char → List Char → Option (List Char)
  | [], cs => some cs
  | p :: ps, c :: cs => if key p = key c then dropFrontBy? key ps cs else none
  | _ :: _, [] => none

/-- Keys that tell all characters apart leave nothing but equality. -/
@[simp] theorem dropFrontBy?_id (front cs : List Char) :
    dropFrontBy? id front cs = dropFront? front cs := by
  induction front generalizing cs with
  | nil => rfl
  | cons p ps ih =>
    cases cs with
    | nil => rfl
    | cons c cs => simp [dropFrontBy?, dropFront?, ih]

/-- Whether nothing is left of a path, or only a line feed. -/
def isPathEnd (cs : List Char) : Bool := cs.isEmpty || cs = ['\n']

/-- What a parameter took from a path. -/
structure Taken where
  name : String
  convertor : Convertor
  text : List Char
  deriving DecidableEq, Repr

/-- What the parameters take in the first way in which parts match characters; literal text matches
up to the keys of its characters. -/
def matchParts (key : Char → Char) : List Part → List Char → Option (List Taken)
  | [], cs => if isPathEnd cs then some [] else none
  | .literal text :: parts, cs => do matchParts key parts (← dropFrontBy? key text cs)
  | .parameter name convertor :: parts, cs =>
    (convertor.search (matchParts key parts) cs).map fun (text, taken) =>
      ⟨name, convertor, text⟩ :: taken

/-- The values of parameters, by name. -/
abbrev Params := List (String × Value)

/-- The **value** of what a parameter took. -/
def Taken.read (taken : Taken) : Except Failure (String × Value) :=
  (taken.convertor.value taken.text).map (taken.name, ·)

namespace Pattern

/-- What tells characters of literal text **apart**. -/
def key (pattern : Pattern) : Char → Char := if pattern.anyCase then Text.foldChar else id

/-- The **parameters** of a path, if the pattern matches it. -/
def read (pattern : Pattern) (path : String) : Except Failure (Option Params) :=
  (matchParts pattern.key pattern.parts path.toList).mapM (·.mapM Taken.read)

/-- The pattern with nothing but the names of its parameters. -/
def outline (pattern : Pattern) : String :=
  String.join (pattern.parts.map fun
    | .literal text => String.ofList text
    | .parameter name _ => "\x7b" ++ name ++ "\x7d")

/-- Whether a pattern has parameters. -/
def hasParameters (pattern : Pattern) : Bool :=
  pattern.parts.any fun
    | .parameter .. => true
    | .literal _ => false

/-- Whether a character may start the name of a parameter. -/
def isNameStart (c : Char) : Bool := c.isAlpha || c = '_'

/-- Whether a character may go on the name of a parameter. -/
def isNameChar (c : Char) : Bool := c.isAlphanum || c = '_'

/-- Read a name. -/
def readName (cs : List Char) : Option (List Char × List Char) :=
  match cs with
  | c :: _ =>
    if isNameStart c then some (cs.takeWhile isNameChar, cs.dropWhile isNameChar) else none
  | [] => none

/-- A **placeholder**: the name of a parameter, and that of its convertor if one is named. -/
structure Placeholder where
  name : String
  kind : Option String
  deriving DecidableEq, Repr

/-- Read a placeholder behind its opening brace. -/
def readPlaceholder (cs : List Char) : Option (Placeholder × List Char) := do
  let (name, rest) ← readName cs
  match rest with
  | '\x7d' :: after => return (⟨String.ofList name, none⟩, after)
  | ':' :: more =>
    let (kind, rest) ← readName more
    match rest with
    | '\x7d' :: after => return (⟨String.ofList name, some (String.ofList kind)⟩, after)
    | _ => none
  | _ => none

/-- The convertor of a placeholder, if it exists. -/
def Placeholder.convertor? (placeholder : Placeholder) : Option Convertor :=
  match placeholder.kind with
  | none => some .segment
  | some kind => Convertor.ofName? kind

/-- Read a parameter behind its opening brace. -/
def readParameter (cs : List Char) : Option (Part × List Char) := do
  let (placeholder, after) ← readPlaceholder cs
  return (.parameter placeholder.name (← placeholder.convertor?), after)

/-- The placeholders in a pattern's text, at most `fuel` of them. -/
def placeholders : Nat → List Char → List Placeholder
  | 0, _ => []
  | _, [] => []
  | fuel + 1, c :: rest =>
    match if c = '\x7b' then readPlaceholder rest else none with
    | some (placeholder, after) => placeholder :: placeholders fuel after
    | none => placeholders fuel rest

/-- The names that occur more than once, each once and in order. -/
def repeatedNames (names : List String) : List String :=
  sortTexts ((names.filter fun name => 1 < names.count name).eraseDups)

/-- **Check** the text of a pattern: all convertors have to exist, and the names of parameters have
to differ. -/
def check (text : String) : Except RouteFault Unit := do
  let found := placeholders text.length text.toList
  if let some placeholder := found.find? (·.convertor?.isNone) then
    throw (.unknownConvertor (placeholder.kind.getD ""))
  let repeated := repeatedNames (found.map (·.name))
  if !repeated.isEmpty then throw (.repeatedParameters repeated text)

/-- Put a character in front of the literal text of parts. -/
def consLiteral (c : Char) : List Part → List Part
  | .literal text :: parts => .literal (c :: text) :: parts
  | parts => .literal [c] :: parts

/-- The parts of a pattern's text, at most `fuel` of them. -/
def readParts : Nat → List Char → List Part
  | 0, _ => []
  | _, [] => []
  | fuel + 1, c :: rest =>
    if c = '\x7b' then
      match readParameter rest with
      | some (part, after) => part :: readParts fuel after
      | none => consLiteral c (readParts fuel rest)
    else
      consLiteral c (readParts fuel rest)

/-- Literal text without its **last colon** and what follows it, unless the text ends with the
bracket of an address. -/
def cutAtColon (text : List Char) : List Char :=
  if text.getLast? = some ']' then text
  else
    match text.reverse.dropWhile (· ≠ ':') with
    | _ :: front => front.reverse
    | [] => text

/-- Parts without what follows the last colon of literal text at their end. -/
def cutLastAtColon : List Part → List Part
  | [] => []
  | [.literal text] => [.literal (cutAtColon text)]
  | part :: rest => part :: cutLastAtColon rest

/-- The pattern of a **text**. One that does not start with a slash names a host. -/
def ofText (text : String) : Pattern :=
  let parts := readParts text.length text.toList
  if text.startsWith "/" then { parts } else { parts := cutLastAtColon parts, anyCase := true }

end Pattern

end GuardedDispatch.Web
