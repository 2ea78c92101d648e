import GuardedDispatch.Decimal.Reading
import GuardedDispatch.Yaml.Cursor

/-! # Scalar texts

How texts are written in a document. A text between **quotes** runs over line ends, which are
folded: one line end is a space, and of several all but the first are kept. A **plain** text ends
where a mark begins, and is folded in the same way. A **block** text is indented; a header says
whether it is folded or kept line by line, and what becomes of the line ends behind it.

All readers answer the text and the place behind it. The first argument of those that repeat a step
is a bound on the number of steps, the length of the rest at the start. A text between double quotes
is read as code points, because an escape may stand for one that is no character. -/

namespace GuardedDispatch.Yaml

/-- A line end between two pieces of text, and the line ends behind it, **folded**. -/
def folded (first more : List Char) : List Char :=
  (if first ≠ ['\n'] then first else if more.isEmpty then [' '] else []) ++ more

namespace Quoted

/-- Empty lines inside quotes, and the spacing that starts the next line. A mark of a document may
not stand there. -/
def breaks : Nat → Cursor → Reading (List Char × Cursor)
  | 0, _ => malformed
  | fuel + 1, cursor =>
    if cursor.atMark then malformed
    else
      let cursor := cursor.skipWhile isSpacing
      if cursor.atBreak then do
        let (first, cursor) := cursor.takeBreak
        let (more, cursor) ← breaks fuel cursor
        return (first ++ more, cursor)
      else .ok ([], cursor)

/-- Spacing and line ends inside quotes. -/
def spacing (cursor : Cursor) : Reading (List Char × Cursor) :=
  let (blanks, cursor) := cursor.takeWhile isSpacing
  if cursor.atBreak then do
    let (first, cursor) := cursor.takeBreak
    let (more, cursor) ← breaks (cursor.rest.length + 1) cursor
    return (folded first more, cursor)
  else .ok (blanks, cursor)

/-- The character of a short escape. -/
def shortEscape? : Char → Option Char
  | '0' => some '\x00'
  | 'a' => some '\x07'
  | 'b' => some '\x08'
  | 't' | '\t' => some '\t'
  | 'n' => some '\n'
  | 'v' => some '\x0b'
  | 'f' => some '\x0c'
  | 'r' => some '\r'
  | 'e' => some '\x1b'
  | ' ' => some ' '
  | '"' => some '"'
  | '\\' => some '\\'
  | '/' => some '/'
  | 'N' => some '\x85'
  | '_' => some '\u00a0'
  | 'L' => some '\u2028'
  | 'P' => some '\u2029'
  | _ => none

/-- The number of digits of an escape by code point. -/
def escapeWidth? : Char → Option Nat
  | 'x' => some 2
  | 'u' => some 4
  | 'U' => some 8
  | _ => none

/-- Characters as code points. -/
def codesOf (cs : List Char) : List Nat := cs.map Char.toNat

/-- A number as a code point; it must not be too large. -/
def checkCode (code : Nat) : Reading Nat :=
  if 0x80000000 ≤ code then .error (.unsuitable (.overflow .codePoint))
  else if 0x10FFFF < code then .error (.unsuitable (.value .codePoint))
  else .ok code

/-- The code points of the **escape** behind a backslash. -/
def escape (cursor : Cursor) : Reading (List Nat × Cursor) :=
  match cursor.peek? with
  | none => cutOff
  | some c =>
    match shortEscape? c, escapeWidth? c with
    | some char, _ => .ok (codesOf [char], cursor.next)
    | none, some width => do
      let digits := cursor.next.rest.take width
      match Decimal.natural? 16 digits with
      | some code =>
        if digits.length = width then return ([← checkCode code], cursor.next.skip width)
        else cutOff
      | none => malformed
    | none, none =>
      if isBreak c then do
        let (more, cursor) ← breaks (cursor.next.rest.length + 1) cursor.next
        return (codesOf more, cursor)
      else malformed

/-- The text up to a closing **single quote**; two of them stand for one. -/
def single : Nat → Cursor → Reading (List Char × Cursor)
  | 0, _ => malformed
  | fuel + 1, cursor =>
    match cursor.peek? with
    | none => cutOff
    | some c => do
      if c = '\'' ∧ cursor.second? ≠ some '\'' then return ([], cursor.next)
      let (piece, cursor) ←
        if c = '\'' then Except.ok (['\''], cursor.skip 2)
        else if isSpacing c || isBreak c then spacing cursor
        else .ok ([c], cursor.next)
      let (more, cursor) ← single fuel cursor
      return (piece ++ more, cursor)

/-- The code points up to a closing **double quote**; a backslash escapes. -/
def double : Nat → Cursor → Reading (List Nat × Cursor)
  | 0, _ => malformed
  | fuel + 1, cursor =>
    match cursor.peek? with
    | none => cutOff
    | some c => do
      if c = '"' then return ([], cursor.next)
      let (piece, cursor) ←
        if c = '\\' then escape cursor.next
        else if isSpacing c || isBreak c then
          (spacing cursor).map fun (blanks, cursor) => (codesOf blanks, cursor)
        else .ok (codesOf [c], cursor.next)
      let (more, cursor) ← double fuel cursor
      return (piece ++ more, cursor)

end Quoted

/-- The code points of the text that starts with a quote. -/
def quotedScalar (cursor : Cursor) : Reading (List Nat × Cursor) :=
  let inside := cursor.next
  if cursor.peek? = some '"' then Quoted.double (inside.rest.length + 1) inside
  else
    (Quoted.single (inside.rest.length + 1) inside).map fun (text, cursor) =>
      (Quoted.codesOf text, cursor)

/-- A **plain** text: its characters, the place behind it and the spacing there, and whether that
spacing holds a line end. -/
structure Plain where
  text : List Char
  cursor : Cursor
  crossed : Bool

namespace Plain

/-- The marks that end a plain text inside brackets and braces. -/
def flowMarks : List Char := [',', '?', '[', ']', '\x7b', '\x7d']

/-- Whether a colon before the next character ends a plain text. -/
def endsAtColon (flow : Bool) (next : Option Char) : Bool :=
  endsWord next || (flow && next.any fun c => flowMarks.contains c && c ≠ '?')

/-- How many characters belong to the plain text before the next spacing or mark. -/
def pieceLength (flow : Bool) : List Char → Nat
  | [] => 0
  | c :: rest =>
    if isSpacing c || isBreak c || (c = ':' && endsAtColon flow rest.head?) ||
        (flow && flowMarks.contains c) then 0
    else pieceLength flow rest + 1

/-- Empty lines behind a line end, up to a mark of a document; nothing if there is one. -/
def breaks : Nat → Cursor → Option (List Char) × Cursor
  | 0, cursor => (some [], cursor)
  | fuel + 1, cursor =>
    match cursor.peek? with
    | none => (some [], cursor)
    | some c =>
      if c = ' ' then breaks fuel cursor.next
      else if isBreak c then
        let (first, cursor) := cursor.takeBreak
        if cursor.atMark then (none, cursor)
        else
          let (more, cursor) := breaks fuel cursor
          (more.map (first ++ ·), cursor)
      else (some [], cursor)

/-- The spacing between two pieces of a plain text, empty where the text ends. -/
def spacing (cursor : Cursor) : Plain :=
  let (spaces, cursor) := cursor.takeWhile (· = ' ')
  if cursor.atBreak then
    let (first, cursor) := cursor.takeBreak
    if cursor.atMark then ⟨[], cursor, true⟩
    else
      match breaks (cursor.rest.length + 1) cursor with
      | (none, cursor) => ⟨[], cursor, true⟩
      | (some more, cursor) => ⟨folded first more, cursor, true⟩
  else ⟨spaces, cursor, false⟩

/-- Read further pieces behind some spacing. -/
def more (flow : Bool) (indent : Int) : Nat → Plain → Plain
  | 0, before => ⟨[], before.cursor, before.crossed⟩
  | fuel + 1, before =>
    let length :=
      if before.cursor.peek? = some '#' then 0 else pieceLength flow before.cursor.rest
    if length = 0 then ⟨[], before.cursor, before.crossed⟩
    else
      let piece := before.text ++ before.cursor.rest.take length
      let after := spacing (before.cursor.skip length)
      if after.text.isEmpty || after.cursor.peek? = some '#' ||
          (!flow && after.cursor.column < indent) then
        ⟨piece, after.cursor, after.crossed⟩
      else
        let rest := more flow indent fuel after
        { rest with text := piece ++ rest.text }

/-- The plain text that starts here; lines outside brackets and braces are indented to a column. -/
def read (flow : Bool) (indent : Int) (cursor : Cursor) : Plain :=
  more flow indent (cursor.rest.length + 1) ⟨[], cursor, false⟩

end Plain

/-- What the header of a **block** text says: whether all line ends behind the text are kept (or
none, or one if it says nothing), and by how much the text is indented. -/
structure BlockHeader where
  keep : Option Bool := none
  indent : Option Nat := none

namespace Block

/-- The sign of a header. -/
def sign? : Option Char → Option Bool
  | some '+' => some true
  | some '-' => some false
  | _ => none

/-- The digit of a header. -/
def digit? (c : Option Char) : Option Nat := c.bind Decimal.digitValue?

/-- The marks of a header: a sign and a digit in either order. -/
def marks (cursor : Cursor) : BlockHeader × Cursor :=
  match sign? cursor.peek?, digit? cursor.peek? with
  | some keep, _ =>
    match digit? cursor.second? with
    | some indent => (⟨keep, indent⟩, cursor.skip 2)
    | none => (⟨keep, none⟩, cursor.next)
  | none, some indent =>
    match sign? cursor.second? with
    | some keep => (⟨keep, indent⟩, cursor.skip 2)
    | none => (⟨none, indent⟩, cursor.next)
  | none, none => ({}, cursor)

/-- The header of a block text behind its mark; nothing else stands on its line. -/
def header (cursor : Cursor) : Reading (BlockHeader × Cursor) := do
  let (found, cursor) := marks cursor
  if found.indent = some 0 || !endsField cursor.peek? then malformed
  else return (found, ← cursor.endLine)

/-- The empty lines before a block text, and the largest column in them or of its first line. -/
def measure : Nat → Cursor → List Char × Nat × Cursor
  | 0, cursor => ([], 0, cursor)
  | fuel + 1, cursor =>
    if cursor.peek? = some ' ' then
      let (breaks, column, after) := measure fuel cursor.next
      (breaks, max cursor.next.column column, after)
    else if cursor.atBreak then
      let (first, cursor) := cursor.takeBreak
      let (breaks, column, after) := measure fuel cursor
      (first ++ breaks, column, after)
    else ([], 0, cursor)

/-- The place behind at most as many spaces as lead to a column. -/
def skipIndent (indent : Nat) (cursor : Cursor) : Cursor :=
  cursor.skip ((cursor.rest.take (indent - cursor.column)).takeWhile (· = ' ')).length

/-- Empty lines inside a block text. -/
def breaks (indent : Nat) : Nat → Cursor → List Char × Cursor
  | 0, cursor => ([], cursor)
  | fuel + 1, cursor =>
    let cursor := skipIndent indent cursor
    if cursor.atBreak then
      let (first, cursor) := cursor.takeBreak
      let (more, cursor) := breaks indent fuel cursor
      (first ++ more, cursor)
    else ([], cursor)

/-- Whether a line of the text starts here. -/
def atLine (indent : Nat) (cursor : Cursor) : Bool :=
  cursor.column = indent && !cursor.rest.isEmpty

/-- What stands between two lines: a line end and empty lines, folded only between lines that do not
start with spacing. -/
def between (fold : Bool) (plainBefore : Bool) (cursor : Cursor) (first more : List Char) :
    List Char :=
  if fold && plainBefore && first = ['\n'] && !cursor.peek?.any isSpacing then
    (if more.isEmpty then [' '] else []) ++ more
  else first ++ more

/-- The lines of the text from here on, the line end behind the last, and the empty lines behind it.
-/
def lines (fold : Bool) (indent : Nat) : Nat → Cursor → List Char × List Char × List Char × Cursor
  | 0, cursor => ([], [], [], cursor)
  | fuel + 1, cursor =>
    let plainBefore := !cursor.peek?.any isSpacing
    let (line, cursor) := cursor.takeWhile (!isBreak ·)
    let (first, cursor) := cursor.takeBreak
    let (more, cursor) := breaks indent (cursor.rest.length + 1) cursor
    if atLine indent cursor then
      let (rest, last, behind, after) := lines fold indent fuel cursor
      (line ++ between fold plainBefore cursor first more ++ rest, last, behind, after)
    else (line, first, more, cursor)

/-- The **block text** behind its mark; `parent` is the column of the block around it, if any. -/
def read (fold : Bool) (parent : Int) (cursor : Cursor) : Reading (List Char × Cursor) := do
  let (header, cursor) ← header cursor.next
  let least := (max (parent + 1) 1).toNat
  let (indent, before, cursor) :=
    match header.indent with
    | some extra =>
      let indent := least + extra - 1
      let (before, cursor) := breaks indent (cursor.rest.length + 1) cursor
      (indent, before, cursor)
    | none =>
      let (before, column, cursor) := measure (cursor.rest.length + 1) cursor
      (max least column, before, cursor)
  let (text, last, behind, cursor) :=
    if atLine indent cursor then
      let (text, last, behind, cursor) := lines fold indent (cursor.rest.length + 1) cursor
      (before ++ text, last, behind, cursor)
    else ([], [], before, cursor)
  return (text ++ (if header.keep = some false then [] else last) ++
    (if header.keep = some true then behind else []), cursor)

end Block

end GuardedDispatch.Yaml
