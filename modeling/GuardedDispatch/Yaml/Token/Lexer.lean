import GuardedDispatch.Decimal.Limit
import GuardedDispatch.Yaml.Source
import GuardedDispatch.Yaml.Token
import GuardedDispatch.Yaml.Token.Scalar

/-! # Reading tokens

The tokens of a text. Two things are known only later than they are written down:

* **Blocks.** A line that starts further right than the block around it may open a block, and a line
  that starts further left closes blocks (`Lexer.unwind`).
* **Keys.** What turns out to be a key is marked as one when the colon behind it is read. Until then
  its place is kept open (`OpenKey`), at most one for each depth of brackets, and no longer than to
  the end of the line or for 1024 characters.

Reading never fails as a whole: where it cannot go on, the tokens break off (`Lexer.breakOff`). That
is also where the characters that can be read end, if there are others behind them. -/

namespace GuardedDispatch.Yaml

/-- The place of what **may be a key**: where its mark will stand among the tokens, and whether
nothing but a key can stand there. -/
structure OpenKey where
  slot : Nat
  required : Bool
  index : Nat
  line : Nat
  column : Nat

/-- A **lexer**: the place in the text and what is wrong behind its end, the tokens so far in slots,
how deep in brackets it is, the columns of the blocks around it, whether a key may start here, and
the places of keys by depth. -/
structure Lexer where
  cursor : Cursor
  beyond : Option Fault := none
  slots : Array (List Token) := #[]
  depth : Nat := 0
  indent : Int := -1
  indents : List Int := []
  keyAllowed : Bool := true
  openKeys : List (Nat × OpenKey) := []

namespace Lexer

/-- Add a token. -/
def push (lexer : Lexer) (token : Token) : Lexer :=
  { lexer with slots := lexer.slots.push [token] }

/-- Go on behind some characters. -/
def skip (lexer : Lexer) (n : Nat) : Lexer := { lexer with cursor := lexer.cursor.skip n }

/-- Whether the lexer is inside brackets or braces. -/
def inFlow (lexer : Lexer) : Bool := lexer.depth ≠ 0

/-- The place of a key at the depth of the lexer. -/
def openKey? (lexer : Lexer) : Option OpenKey :=
  (lexer.openKeys.find? (·.1 == lexer.depth)).map (·.2)

/-- Forget the place of a key at the depth of the lexer. -/
def forgetKey (lexer : Lexer) : Lexer :=
  { lexer with openKeys := lexer.openKeys.filter (·.1 != lexer.depth) }

/-- Give up the place of a key; what has to be a key cannot be given up. -/
def dropKey (lexer : Lexer) : Reading Lexer :=
  if lexer.openKey?.any (·.required) then malformed else .ok lexer.forgetKey

/-- Keep a place for the mark of a key, if a key may start here. -/
def keepKey (lexer : Lexer) : Reading Lexer := do
  let required := !lexer.inFlow && lexer.indent = lexer.cursor.column
  if lexer.keyAllowed then
    let lexer ← lexer.dropKey
    let cursor := lexer.cursor
    let key : OpenKey := ⟨lexer.slots.size, required, cursor.index, cursor.line, cursor.column⟩
    return { lexer with
      slots := lexer.slots.push []
      openKeys := (lexer.depth, key) :: lexer.openKeys }
  else return lexer

/-- Whether it is too late for a colon to make a key. -/
def isStale (lexer : Lexer) (key : OpenKey) : Bool :=
  key.line ≠ lexer.cursor.line || 1024 < lexer.cursor.index - key.index

/-- Forget the places of keys for which it is too late. -/
def dropStale (lexer : Lexer) : Reading Lexer :=
  if lexer.openKeys.any fun key => lexer.isStale key.2 && key.2.required then malformed
  else .ok { lexer with openKeys := lexer.openKeys.filter (!lexer.isStale ·.2) }

/-- Close blocks up to a column, at most as many as are open. -/
def unwindFrom (column : Int) : List Int → Lexer → Lexer
  | [], lexer => lexer
  | outer :: rest, lexer =>
    if column < lexer.indent then
      unwindFrom column rest
        { lexer with indent := outer, indents := rest, slots := lexer.slots.push [.blockEnd] }
    else lexer

/-- **Close** the blocks that start right of a column; inside brackets columns mean nothing. -/
def unwind (lexer : Lexer) (column : Int) : Lexer :=
  if lexer.inFlow then lexer else unwindFrom column lexer.indents lexer

/-- Whether a block that starts at a column is new. -/
def opensBlock (lexer : Lexer) (column : Nat) : Bool := !lexer.inFlow && lexer.indent < column

/-- **Open** a block at a column, if it is new there. -/
def openBlock (lexer : Lexer) (column : Nat) : Lexer :=
  if lexer.opensBlock column then
    { lexer with indent := column, indents := lexer.indent :: lexer.indents }
  else lexer

/-- Open a block here, if it is new, and add the token that says so. -/
def startBlock (lexer : Lexer) (token : Token) : Lexer :=
  let column := lexer.cursor.column
  if lexer.opensBlock column then (lexer.openBlock column).push token else lexer

/-- Pass over spaces, comments and line ends; outside brackets a key may start on a new line. -/
def skipBlanks : Nat → Lexer → Lexer
  | 0, lexer => lexer
  | fuel + 1, lexer =>
    let cursor := lexer.cursor.skipSpaces.skipComment
    if cursor.atBreak then
      skipBlanks fuel
        { lexer with
          cursor := cursor.takeBreak.2
          keyAllowed := lexer.keyAllowed || !lexer.inFlow }
    else { lexer with cursor }

/-! ### Names and tags -/

/-- Whether a character may stand in a name. -/
def isNameChar (c : Char) : Bool := c.isAlphanum || c = '-' || c = '_'

/-- A name, of at least one character. -/
def readName (cursor : Cursor) : Reading (String × Cursor) :=
  let (name, cursor) := cursor.takeWhile isNameChar
  if name.isEmpty then malformed else .ok (String.ofList name, cursor)

/-- The marks that may stand right behind the name of an anchor. -/
def anchorEnds : List Char := ['?', ':', ',', ']', '\x7d', '%', '@', '\x60']

/-- The name of an anchor behind its mark. -/
def readAnchor (cursor : Cursor) : Reading (String × Cursor) := do
  let (name, cursor) ← readName cursor
  if endsWord cursor.peek? || cursor.peek?.any anchorEnds.contains then return (name, cursor)
  else malformed

/-- The marks of an address that tags may hold. -/
def addressMarks : List Char := "-;/?:@&=+$,_.!~*'()[]".toList

/-- Octets written as percent signs with two digits. -/
def readOctets : Nat → Cursor → Reading (List UInt8 × Cursor)
  | 0, cursor => .ok ([], cursor)
  | fuel + 1, cursor =>
    match cursor.rest with
    | '%' :: a :: b :: _ => do
      match Decimal.natural? 16 [a, b] with
      | some octet =>
        let (octets, cursor) ← readOctets fuel (cursor.skip 3)
        return (UInt8.ofNat octet :: octets, cursor)
      | none => malformed
    | '%' :: _ => malformed
    | _ => .ok ([], cursor)

/-- The characters of an address as a tag holds it. -/
def readAddressFrom : Nat → Cursor → Reading (List Char × Cursor)
  | 0, cursor => .ok ([], cursor)
  | fuel + 1, cursor =>
    match cursor.peek? with
    | none => .ok ([], cursor)
    | some c =>
      if c = '%' then do
        let (octets, cursor) ← readOctets (cursor.rest.length + 1) cursor
        match Text.Utf8.decode? octets with
        | some text =>
          let (more, cursor) ← readAddressFrom fuel cursor
          return (text.toList ++ more, cursor)
        | none => malformed
      else if c.isAlphanum || addressMarks.contains c then do
        let (more, cursor) ← readAddressFrom fuel cursor.next
        return (c :: more, cursor)
      else .ok ([], cursor)

/-- An address, of at least one character. -/
def readAddress (cursor : Cursor) : Reading (String × Cursor) := do
  let (address, after) ← readAddressFrom (cursor.rest.length + 1) cursor
  if cursor.index = after.index then malformed else return (String.ofList address, after)

/-- A handle: a name between exclamation marks, or a mark on its own before a space. -/
def readHandle (cursor : Cursor) : Reading (String × Cursor) :=
  if cursor.peek? ≠ some '!' then malformed
  else
    let (name, after) := cursor.next.takeWhile isNameChar
    if cursor.second? = some ' ' then .ok ("!", cursor.next)
    else if after.peek? = some '!' then .ok (String.ofList ('!' :: name ++ ['!']), after.next)
    else malformed

/-- A tag: an address in angle brackets, a mark on its own, or a handle and an address. -/
def readTag (cursor : Cursor) : Reading (Token × Cursor) := do
  let (token, cursor) ←
    if cursor.second? = some '<' then do
      let (address, cursor) ← readAddress (cursor.skip 2)
      if cursor.peek? = some '>' then pure (.tag none address, cursor.next) else malformed
    else if endsWord cursor.second? then pure (Token.tag none "!", cursor.next)
    else do
      let word := cursor.next.rest.takeWhile fun c => !(c = ' ' || isBreak c)
      let (handle, cursor) ←
        if word.contains '!' then readHandle cursor else pure ("!", cursor.next)
      let (address, cursor) ← readAddress cursor
      pure (.tag (some handle) address, cursor)
  if endsField cursor.peek? then return (token, cursor) else malformed

/-! ### Instructions -/

/-- The digits of a version number. -/
def readDigits (cursor : Cursor) : Reading (Nat × Cursor) :=
  let (digits, cursor) := cursor.takeWhile Char.isDigit
  if digits.isEmpty then malformed
  else if Decimal.exceedsLimit digits then
    .error (.unsuitable (.value (.tooManyDigits (some digits.length))))
  else .ok (Decimal.natural digits, cursor)

/-- A version: two numbers with a point between them; only the first matters. -/
def readVersion (cursor : Cursor) : Reading (Token × Cursor) := do
  let (major, cursor) ← readDigits cursor.skipSpaces
  if cursor.peek? ≠ some '.' then malformed
  else
    let (_, cursor) ← readDigits cursor.next
    return (.version major, cursor)

/-- A handle and the beginning of the tags that it stands for. -/
def readHandleLine (cursor : Cursor) : Reading (Token × Cursor) := do
  let (name, cursor) ← readHandle cursor.skipSpaces
  if cursor.peek? ≠ some ' ' then malformed
  else
    let (beginning, cursor) ← readAddress cursor.skipSpaces
    return (.handle name beginning, cursor)

/-- A line with an instruction. -/
def readInstruction (cursor : Cursor) : Reading (Token × Cursor) := do
  let (name, cursor) ← readName cursor.next
  if !endsField cursor.peek? then malformed
  else
    let (token, cursor) ←
      if name = "YAML" then readVersion cursor
      else if name = "TAG" then readHandleLine cursor
      else pure (.instruction, cursor.skipWhile (!isBreak ·))
    if !endsField cursor.peek? then malformed
    else return (token, ← cursor.endLine)

/-! ### One token at a time -/

/-- A line with an instruction, which ends all blocks. -/
def instruction (lexer : Lexer) : Reading Lexer := do
  let lexer ← (lexer.unwind (-1)).dropKey
  let (token, cursor) ← readInstruction lexer.cursor
  return { lexer.push token with cursor, keyAllowed := false }

/-- The mark of a document, which ends all blocks. -/
def mark (lexer : Lexer) (token : Token) : Reading Lexer := do
  let lexer ← (lexer.unwind (-1)).dropKey
  return { (lexer.push token).skip 3 with keyAllowed := false }

/-- An opening bracket or brace. -/
def openFlow (lexer : Lexer) (token : Token) : Reading Lexer := do
  let lexer ← lexer.keepKey
  return { (lexer.push token).skip 1 with depth := lexer.depth + 1, keyAllowed := true }

/-- A closing bracket or brace. -/
def closeFlow (lexer : Lexer) (token : Token) : Reading Lexer := do
  let lexer ← lexer.dropKey
  if lexer.inFlow then
    return { (lexer.push token).skip 1 with depth := lexer.depth - 1, keyAllowed := false }
  else malformed

/-- A comma. -/
def comma (lexer : Lexer) : Reading Lexer := do
  let lexer ← lexer.dropKey
  return { (lexer.push .comma).skip 1 with keyAllowed := true }

/-- The mark before an item of a block. -/
def item (lexer : Lexer) : Reading Lexer := do
  if !lexer.inFlow && !lexer.keyAllowed then malformed
  else
    let lexer ← (lexer.startBlock .itemsStart).dropKey
    return { (lexer.push .item).skip 1 with keyAllowed := true }

/-- The mark before a key. -/
def key (lexer : Lexer) : Reading Lexer := do
  if !lexer.inFlow && !lexer.keyAllowed then malformed
  else
    let lexer ← (lexer.startBlock .fieldsStart).dropKey
    return { (lexer.push .key).skip 1 with keyAllowed := !lexer.inFlow }

/-- Mark what was read as a key, and open a block where it started, if that is new. -/
def markKey (lexer : Lexer) (key : OpenKey) : Lexer :=
  let tokens : List Token := if lexer.opensBlock key.column then [.fieldsStart, .key] else [.key]
  { (lexer.forgetKey.openBlock key.column) with
    slots := lexer.slots.setIfInBounds key.slot tokens }

/-- The mark before a value; it makes a key of what was read before it. -/
def value (lexer : Lexer) : Reading Lexer := do
  match lexer.openKey? with
  | some key => return { ((lexer.markKey key).push .value).skip 1 with keyAllowed := false }
  | none =>
    if !lexer.inFlow && !lexer.keyAllowed then malformed
    else
      let lexer := lexer.startBlock .fieldsStart
      return { (lexer.push .value).skip 1 with keyAllowed := !lexer.inFlow }

/-- A reference to an anchor, or an anchor. -/
def anchor (lexer : Lexer) (token : String → Token) : Reading Lexer := do
  let lexer ← lexer.keepKey
  let (name, cursor) ← readAnchor lexer.cursor.next
  return { lexer.push (token name) with cursor, keyAllowed := false }

/-- A tag. -/
def tag (lexer : Lexer) : Reading Lexer := do
  let lexer ← lexer.keepKey
  let (token, cursor) ← readTag lexer.cursor
  return { lexer.push token with cursor, keyAllowed := false }

/-- A block text. -/
def blockText (lexer : Lexer) (fold : Bool) : Reading Lexer := do
  let lexer ← lexer.dropKey
  let (text, cursor) ← Block.read fold lexer.indent lexer.cursor
  return { lexer.push (.scalar (String.ofList text) false) with cursor, keyAllowed := true }

/-- The first slot that waits for the mark of a key, or the end of all slots. -/
def firstOpenSlot (lexer : Lexer) : Nat :=
  lexer.openKeys.foldl (fun slot key => min slot key.2.slot) lexer.slots.size

/-- What is really wrong: a text that seems to end too early may just not be read any further. -/
def causeOf (lexer : Lexer) (fault : Fault) : Fault :=
  if fault = .cutOff then lexer.beyond.getD .malformed else fault

/-- **Break off.** What may be a key has no token yet, and neither has anything behind it. -/
def breakOff (lexer : Lexer) (fault : Fault) : Lexer :=
  { lexer with
    cursor := lexer.cursor.skip lexer.cursor.rest.length
    slots := (lexer.slots.take lexer.firstOpenSlot).push [.broken (lexer.causeOf fault)]
    openKeys := [] }

/-- The token of a text in quotes. -/
def quotedToken (points : List Nat) : Token :=
  if points.all Nat.isValidChar then .scalar (String.ofList (points.map Char.ofNat)) false
  else .codes points

/-- A text between quotes. -/
def quotedText (lexer : Lexer) : Reading Lexer := do
  let lexer ← lexer.keepKey
  match quotedScalar lexer.cursor with
  | .ok (points, cursor) =>
    return { lexer.push (quotedToken points) with cursor, keyAllowed := false }
  | .error fault => return lexer.breakOff fault

/-- A plain text; behind a line end a key may start. -/
def plainText (lexer : Lexer) : Reading Lexer := do
  let lexer ← lexer.keepKey
  let plain := Plain.read lexer.inFlow (lexer.indent + 1) lexer.cursor
  return { lexer.push (.scalar (String.ofList plain.text) true) with
    cursor := plain.cursor
    keyAllowed := plain.crossed }

/-- The marks that start no plain text. -/
def marks : List Char := "-?:,[]\x7b\x7d#&*!|>'\"%@\x60".toList

/-- Whether a plain text starts with a character before another. -/
def startsPlain (flow : Bool) (c : Char) (next : Option Char) : Bool :=
  !(isSpacing c || isBreak c || marks.contains c) ||
    (!endsWord next && (c = '-' || (!flow && (c = '?' || c = ':'))))

/-- Read the token that starts with a character. -/
def readToken (lexer : Lexer) (c : Char) : Reading Lexer :=
  let cursor := lexer.cursor
  let next := cursor.second?
  let atStart := cursor.column = 0
  if atStart && c = '%' then lexer.instruction
  else if atStart && cursor.atTriple '-' then lexer.mark .documentStart
  else if atStart && cursor.atTriple '.' then lexer.mark .documentEnd
  else if c = '[' then lexer.openFlow .bracketOpen
  else if c = '\x7b' then lexer.openFlow .braceOpen
  else if c = ']' then lexer.closeFlow .bracketClose
  else if c = '\x7d' then lexer.closeFlow .braceClose
  else if c = ',' then lexer.comma
  else if c = '-' && endsWord next then lexer.item
  else if c = '?' && (lexer.inFlow || endsWord next) then lexer.key
  else if c = ':' && (lexer.inFlow || endsWord next) then lexer.value
  else if c = '*' then lexer.anchor .reference
  else if c = '&' then lexer.anchor .anchor
  else if c = '!' then lexer.tag
  else if c = '|' && !lexer.inFlow then lexer.blockText false
  else if c = '>' && !lexer.inFlow then lexer.blockText true
  else if c = '\'' || c = '"' then lexer.quotedText
  else if startsPlain lexer.inFlow c next then lexer.plainText
  else malformed

/-- The end of the text, which ends all blocks. -/
def finish (lexer : Lexer) : Reading Lexer := (lexer.unwind (-1)).dropKey

/-- Fail at the end of the characters that can be read, if there are others behind them. -/
def checkEnd (lexer : Lexer) : Reading Unit :=
  if lexer.cursor.rest.isEmpty && lexer.beyond.isSome then cutOff else .ok ()

/-- Pass over what stands before the next token, and close the blocks that end there. -/
def advance (lexer : Lexer) : Reading Lexer := do
  let lexer := lexer.skipBlanks (lexer.cursor.rest.length + 1)
  lexer.checkEnd
  let lexer ← lexer.dropStale
  return lexer.unwind lexer.cursor.column

/-- A lexer after a step, broken off if the step failed. -/
def orBroken (lexer : Lexer) (step : Reading Lexer) : Lexer :=
  match step with
  | .ok after => after
  | .error fault => lexer.breakOff fault

/-- Read all tokens; each is made of at least one character. -/
def run : Nat → Lexer → Lexer
  | 0, lexer => lexer.breakOff .malformed
  | fuel + 1, lexer =>
    match lexer.advance with
    | .error fault => lexer.breakOff fault
    | .ok lexer =>
      match lexer.cursor.peek? with
      | none => lexer.orBroken lexer.finish
      | some c =>
        match lexer.readToken c with
        | .error fault => lexer.breakOff fault
        | .ok after => run fuel after

end Lexer

/-- The place where the tokens of a text start: behind a byte order mark. -/
def Cursor.ofText (cs : List Char) : Cursor :=
  let cursor : Cursor := ⟨cs, 0, 0, 0⟩
  if cursor.peek? = some '\ufeff' then cursor.next else cursor

/-- The **tokens** of a source. -/
def tokens (source : Source) : List Token :=
  let lexer : Lexer := { cursor := .ofText source.chars, beyond := source.beyond }
  (lexer.run (source.chars.length + 1)).slots.toList.flatten

end GuardedDispatch.Yaml
