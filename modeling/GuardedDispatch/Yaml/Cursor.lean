import GuardedDispatch.Failure

/-! # Cursors

Places in a text. A **cursor** holds the characters that are still to be read, and the line and
column of the first of them (`Cursor.next`). Line ends are the line feed, the next-line character
and the two Unicode separators; a byte order mark takes no column.

Reading fails for one of three reasons (`Fault`): the text is not well formed, or it ends too early,
or a part of it is well formed and has an unsuitable value. -/

namespace GuardedDispatch.Yaml

/-- Why a text was **not read**. -/
inductive Fault where
  /-- The text is not well formed. -/
  | malformed
  /-- The text ends where something is still missing. -/
  | cutOff
  /-- A value in it is unsuitable. -/
  | unsuitable (cause : Failure)
  deriving DecidableEq, Repr

/-- What reading gives. -/
abbrev Reading := Except Fault

/-- The result of reading a text that is not well formed. -/
def malformed : Reading α := .error .malformed

/-- The result of reading a text that ends too early. -/
def cutOff : Reading α := .error .cutOff

/-- Whether a character ends a line. -/
def isBreak (c : Char) : Bool := c = '\n' || c = '\x85' || c = '\u2028' || c = '\u2029'

/-- Whether a character is a space or a tab. -/
def isSpacing (c : Char) : Bool := c = ' ' || c = '\t'

/-- Whether the next character, if any, ends a line. -/
def endsLine (next : Option Char) : Bool := next.all isBreak

/-- Whether the next character, if any, is a space or ends a line. -/
def endsField (next : Option Char) : Bool := next.all fun c => c = ' ' || isBreak c

/-- Whether the next character, if any, is a space or a tab or ends a line. -/
def endsWord (next : Option Char) : Bool := next.all fun c => isSpacing c || isBreak c

/-- A **cursor**: the rest of a text, and where it starts. -/
structure Cursor where
  rest : List Char
  index : Nat := 0
  line : Nat := 0
  column : Nat := 0

namespace Cursor

/-- The next character. -/
def peek? (cursor : Cursor) : Option Char := cursor.rest.head?

/-- The character after the next. -/
def second? (cursor : Cursor) : Option Char := cursor.rest[1]?

/-- The place behind the next character. -/
def next (cursor : Cursor) : Cursor :=
  match cursor.rest with
  | [] => cursor
  | c :: rest =>
    if isBreak c then ⟨rest, cursor.index + 1, cursor.line + 1, 0⟩
    else
      ⟨rest, cursor.index + 1, cursor.line,
        if c = '\ufeff' then cursor.column else cursor.column + 1⟩

/-- The place behind some characters. -/
def skip : Nat → Cursor → Cursor
  | 0, cursor => cursor
  | n + 1, cursor => skip n cursor.next

/-- The characters at the front that satisfy a test, and the place behind them. -/
def takeWhile (test : Char → Bool) (cursor : Cursor) : List Char × Cursor :=
  let taken := cursor.rest.takeWhile test
  (taken, cursor.skip taken.length)

/-- The place behind the characters at the front that satisfy a test. -/
def skipWhile (test : Char → Bool) (cursor : Cursor) : Cursor := (cursor.takeWhile test).2

/-- The place behind spaces. -/
def skipSpaces (cursor : Cursor) : Cursor := cursor.skipWhile (· = ' ')

/-- The place behind a comment, if one starts here. -/
def skipComment (cursor : Cursor) : Cursor :=
  if cursor.peek? = some '#' then cursor.skipWhile (!isBreak ·) else cursor

/-- The line end that starts here, if one does, as its text, and the place behind it; only the
Unicode separators are kept as they are. -/
def takeBreak (cursor : Cursor) : List Char × Cursor :=
  match cursor.peek? with
  | some c =>
    if isBreak c then ([if c = '\x85' then '\n' else c], cursor.next) else ([], cursor)
  | none => ([], cursor)

/-- Whether a line end starts here. -/
def atBreak (cursor : Cursor) : Bool := cursor.peek?.any isBreak

/-- Whether three characters of a kind start here and end a word. -/
def atTriple (c : Char) (cursor : Cursor) : Bool :=
  cursor.rest.take 3 = [c, c, c] && endsWord cursor.rest[3]?

/-- Whether the start or the end of a document is marked here. -/
def atMark (cursor : Cursor) : Bool := cursor.atTriple '-' || cursor.atTriple '.'

/-- The place behind the end of a line that holds nothing more than a comment. -/
def endLine (cursor : Cursor) : Reading Cursor :=
  let cursor := cursor.skipSpaces.skipComment
  if endsLine cursor.peek? then .ok cursor.takeBreak.2 else malformed

@[simp] theorem skip_zero (cursor : Cursor) : cursor.skip 0 = cursor := rfl

end Cursor

end GuardedDispatch.Yaml
