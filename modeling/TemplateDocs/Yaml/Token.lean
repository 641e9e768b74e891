import TemplateDocs.Text.Digit
import TemplateDocs.Text.Utf8
import TemplateDocs.Yaml.Source
import TemplateDocs.Yaml.Scalar

/-!
# Tokens

A YAML text is cut into tokens, no further than they are asked for. Indentation opens and closes
collections, and what stands before a colon becomes a key only when the colon is met: the place of a
possible key is remembered, and the marks that open it are put there afterwards. A token that may yet
become a key is not given away before that is settled.
-/

namespace TemplateDocs.Yaml

/-- A token of a YAML text. -/
inductive Token where
  /-- The version that a document asks for. -/
  | version (major : Nat)
  /-- A short form for the start of tags. -/
  | tagHandle (handle start : String)
  | otherDirective
  | documentStart
  | documentEnd
  | blockSequence
  | blockMapping
  | blockEnd
  | flowSequence
  | flowSequenceEnd
  | flowMapping
  | flowMappingEnd
  | blockEntry
  | flowEntry
  | key
  | value
  | reference (name : String)
  | anchor (name : String)
  /-- A tag, its handle apart; a tag in angle brackets has none. -/
  | tag (handle : Option String) (rest : String)
  | scalar (text : String) (plain : Bool)
  | streamEnd
  deriving DecidableEq, Repr, Inhabited

/-! ## Directives, anchors and tags -/

/-- A name at the cursor. -/
def name (c : Cursor) : Except ReadError (String × Cursor) :=
  let (chars, after) := c.span isNameChar
  if chars.isEmpty then .error c.complaint else .ok (String.ofList chars, after)

/-- A number at the cursor. -/
def number (c : Cursor) : Except ReadError (Nat × Cursor) :=
  let (digits, after) := c.span Char.isDigit
  if digits.isEmpty then .error c.complaint
  else if Text.digitLimit < digits.length then .error (.fault .wrongValue)
  else .ok (digits.foldl (fun n d => 10 * n + (d.toNat - 48)) 0, after)

/-- The characters of tags, the percent sign apart. -/
def isTagChar (c : Char) : Bool :=
  isNameChar c || ";/?:@&=+$,.!~*'()[]".toList.contains c

/-- The bytes that are escaped one after the other. -/
def escapedBytes : (fuel : Nat) → Cursor → Except ReadError (List UInt8 × Cursor)
  | 0, c => .ok ([], c)
  | fuel + 1, c => do
    if c.peek == '%' then
      let byte ← hexNumber 2 c.next
      let (more, after) ← escapedBytes fuel (c.skip 3)
      return (UInt8.ofNat byte :: more, after)
    else return ([], c)

/-- The characters of a tag. Escaped bytes next to each other have to make up characters. -/
def tagChars : (fuel : Nat) → Cursor → Except ReadError Scanned
  | 0, c => .ok ⟨[], c⟩
  | fuel + 1, c => do
    if c.peek == '%' then
      let (bytes, after) ← escapedBytes (c.rest.length + 1) c
      match Text.decode? (ByteArray.mk bytes.toArray) with
      | none => throw .malformed
      | some s =>
        let more ← tagChars fuel after
        return ⟨s.toList ++ more.text, more.cursor⟩
    else if isTagChar c.peek then
      let more ← tagChars fuel c.next
      return ⟨c.peek :: more.text, more.cursor⟩
    else return ⟨[], c⟩

/-- The text of a tag. -/
def tagText (c : Cursor) : Except ReadError (String × Cursor) := do
  let read ← tagChars (c.rest.length + 1) c
  if read.text.isEmpty then throw c.complaint
  return (String.ofList read.text, read.cursor)

/-- The handle of a tag: an exclamation mark, or a name between two. -/
def handle (c : Cursor) : Except ReadError (String × Cursor) := do
  if c.peek != '!' then throw c.complaint
  if c.peekAt 1 == ' ' then return ("!", c.next)
  let (chars, after) := c.next.span isNameChar
  if after.peek != '!' then throw after.complaint
  return (String.ofList ('!' :: chars ++ ['!']), after.next)

/-- The directive after its percent sign. -/
def directive (c : Cursor) : Except ReadError (Token × Cursor) := do
  let (word, c) ← name c
  if !endsField c.peek then throw .malformed
  let skipBlanks (c : Cursor) : Cursor := c.skipWhile (· == ' ')
  let (token, c) ←
    match word with
    | "YAML" => do
      let (major, c) ← number (skipBlanks c)
      if c.peek != '.' then throw c.complaint
      let (_, c) ← number c.next
      if !endsField c.peek then throw .malformed
      pure (Token.version major, c)
    | "TAG" => do
      let (handle, c) ← handle (skipBlanks c)
      if c.peek != ' ' then throw c.complaint
      let (start, c) ← tagText (skipBlanks c)
      if !endsField c.peek then throw .malformed
      pure (Token.tagHandle handle start, c)
    | _ => pure (Token.otherDirective, c.skipWhile fun ch => !endsLine ch)
  let c := c.skipComment
  if !endsLine c.peek then throw .malformed
  return (token, c.lineBreak.2)

/-- The characters that may follow an anchor. -/
def endsAnchor (c : Char) : Bool :=
  endsWord c || "?:,]\x7d%@`".toList.contains c

/-- The name of an anchor after its mark. -/
def anchorName (c : Cursor) : Except ReadError (String × Cursor) := do
  let (chars, c) ← name c
  if endsAnchor c.peek then return (chars, c) else throw .malformed

/-- The tag at the cursor. -/
def tag (c : Cursor) : Except ReadError (Token × Cursor) := do
  let (token, c) ←
    if c.peekAt 1 == '<' then do
      let (text, c) ← tagText (c.skip 2)
      if c.peek != '>' then throw c.complaint
      pure (Token.tag none text, c.next)
    else if endsWord (c.peekAt 1) then pure (Token.tag none "!", c.next)
    else do
      let word := c.next.rest.takeWhile fun ch => !endsField ch
      let (own, c) ← if word.contains '!' then handle c else pure ("!", c.next)
      let (text, c) ← tagText c
      pure (Token.tag (some own) text, c)
  if endsField c.peek then return (token, c) else throw .malformed

/-! ## State -/

/-- A place where a key may have started. -/
structure PossibleKey where
  /-- How many tokens of the text stand before it. -/
  position : Nat
  /-- Whether nothing but a key can stand there. -/
  required : Bool
  index : Nat
  line : Nat
  column : Nat
  deriving DecidableEq, Repr, Inhabited

/-- How far a text has been cut into tokens. -/
structure Cutting where
  cursor : Cursor
  /-- Why the text cannot be read beyond its end, if it goes on there. -/
  wall : Option ReadError := none
  /-- The tokens that are not given away yet. -/
  tokens : List Token := []
  /-- How many tokens were given away. -/
  taken : Nat := 0
  /-- Whether the end of the text was met. -/
  done : Bool := false
  /-- The column of the innermost open block, the columns around it after it. -/
  indent : Int := -1
  outer : List Int := []
  /-- How many collections are open that are written on one line. -/
  depth : Nat := 0
  keyAllowed : Bool := true
  keys : List (Nat × PossibleKey) := []

namespace Cutting

/-- Adds a token. -/
def emit (s : Cutting) (token : Token) : Cutting :=
  { s with tokens := s.tokens ++ [token] }

/-- How many tokens of the text there are so far. -/
def position (s : Cutting) : Nat :=
  s.taken + s.tokens.length

/-- Puts a token where a number of tokens of the text stand before it. -/
def emitAt (s : Cutting) (position : Nat) (token : Token) : Cutting :=
  let before := position - s.taken
  { s with tokens := s.tokens.take before ++ token :: s.tokens.drop before }

/-- Moves on to a place. -/
def moveTo (s : Cutting) (cursor : Cursor) : Cutting :=
  { s with cursor }

/-- Whether the text at the cursor belongs to a collection written on one line. -/
def inFlow (s : Cutting) : Bool :=
  s.depth != 0

/-- Closes the blocks that start further in than a column. -/
def closeBlocks (column : Int) : List Int → Cutting → Cutting
  | outer, s =>
    if s.inFlow || s.indent ≤ column then s
    else
      match outer with
      | [] => s
      | indent :: outer => closeBlocks column outer { s.emit .blockEnd with indent, outer }

/-- Closes the blocks that start further in than a column. -/
def unindent (s : Cutting) (column : Int) : Cutting :=
  closeBlocks column s.outer s

/-- Opens a block at a column further in than the open ones, with its token at a position. -/
def openBlock (s : Cutting) (column : Nat) (position : Nat) (token : Token) : Cutting :=
  if s.indent < column then
    { s.emitAt position token with indent := column, outer := s.indent :: s.outer }
  else s

/-! ## Possible keys -/

/-- The longest key without a mark of its own, in characters. -/
def keyLimit : Nat := 1024

/-- Forgets the possible keys that a colon can no longer follow. -/
def dropStale (s : Cutting) : Except ReadError Cutting :=
  let stale (e : Nat × PossibleKey) : Bool :=
    e.2.line != s.cursor.line || s.cursor.index - e.2.index > keyLimit
  if s.keys.any fun e => stale e && e.2.required then .error .malformed
  else .ok { s with keys := s.keys.filter fun e => !stale e }

/-- Forgets the possible key of the innermost collection. -/
def dropKey (s : Cutting) : Except ReadError Cutting :=
  if s.keys.any fun e => e.1 == s.depth && e.2.required then .error .malformed
  else .ok { s with keys := s.keys.filter fun e => e.1 != s.depth }

/-- Remembers that a key may start here. -/
def saveKey (s : Cutting) : Except ReadError Cutting :=
  if s.keyAllowed then do
    let kept ← s.dropKey
    let key : PossibleKey :=
      { position := s.position
        required := !s.inFlow && s.indent == s.cursor.column
        index := s.cursor.index
        line := s.cursor.line
        column := s.cursor.column }
    return { kept with keys := kept.keys ++ [(s.depth, key)] }
  else .ok s

/-! ## Single tokens -/

/-- The cursor after blanks, comments and line ends. A new line may start with a key. -/
def skipToToken : (fuel : Nat) → Cutting → Cutting
  | 0, s => s
  | fuel + 1, s =>
    let c := s.cursor.skipComment
    if isBreak c.peek then
      skipToToken fuel { s with cursor := c.next, keyAllowed := s.keyAllowed || !s.inFlow }
    else s.moveTo c

/-- Marks the start or the end of a document. -/
def documentMark (s : Cutting) (token : Token) : Except ReadError Cutting := do
  let s ← (s.unindent (-1)).dropKey
  return { s.emit token with keyAllowed := false, cursor := s.cursor.skip 3 }

/-- Opens a collection that is written on one line. -/
def openFlow (s : Cutting) (token : Token) : Except ReadError Cutting := do
  let s ← s.saveKey
  return { s.emit token with depth := s.depth + 1, keyAllowed := true, cursor := s.cursor.next }

/-- Closes a collection that is written on one line. -/
def closeFlow (s : Cutting) (token : Token) : Except ReadError Cutting := do
  if s.depth == 0 then throw .malformed
  let s ← s.dropKey
  return { s.emit token with depth := s.depth - 1, keyAllowed := false, cursor := s.cursor.next }

/-- Separates two items of a collection that is written on one line. -/
def flowEntry (s : Cutting) : Except ReadError Cutting := do
  let s ← s.dropKey
  return { s.emit .flowEntry with keyAllowed := true, cursor := s.cursor.next }

/-- Opens a block for what stands at the cursor, where a key could stand. -/
def openHere (s : Cutting) (token : Token) : Except ReadError Cutting :=
  if s.inFlow then .ok s
  else if s.keyAllowed then .ok (s.openBlock s.cursor.column s.position token)
  else .error .malformed

/-- Starts an item of a block. -/
def blockEntry (s : Cutting) : Except ReadError Cutting := do
  let s ← (← s.openHere .blockSequence).dropKey
  return { s.emit .blockEntry with keyAllowed := true, cursor := s.cursor.next }

/-- Starts a key that is marked as one. -/
def markedKey (s : Cutting) : Except ReadError Cutting := do
  let s ← (← s.openHere .blockMapping).dropKey
  return { s.emit .key with keyAllowed := !s.inFlow, cursor := s.cursor.next }

/-- Meets a colon: what was remembered as a possible key becomes one. -/
def colon (s : Cutting) : Except ReadError Cutting := do
  match s.keys.lookup s.depth with
  | some key =>
    let s := { s with keys := s.keys.filter fun e => e.1 != s.depth }.emitAt key.position .key
    let s := if s.inFlow then s else s.openBlock key.column key.position .blockMapping
    return { s.emit .value with keyAllowed := false, cursor := s.cursor.next }
  | none =>
    let s ← (← s.openHere .blockMapping).dropKey
    return { s.emit .value with keyAllowed := !s.inFlow, cursor := s.cursor.next }

/-- Adds a token that may start a key. -/
def node (s : Cutting) (read : Except ReadError (Token × Cursor)) : Except ReadError Cutting := do
  let s ← s.saveKey
  let (token, cursor) ← read
  return { s.emit token with keyAllowed := false, cursor }

/-- Adds a quoted scalar. -/
def quoted (s : Cutting) (double : Bool) : Except ReadError Cutting :=
  s.node do
    let read ← quotedScalar double s.cursor.next
    return (.scalar (String.ofList read.text) false, read.cursor)

/-- Adds a block of lines. -/
def block (s : Cutting) (fold : Bool) : Except ReadError Cutting := do
  let s ← s.dropKey
  let read ← blockScalar fold s.indent s.cursor.next
  return { s.emit (.scalar (String.ofList read.text) false) with
    keyAllowed := true, cursor := read.cursor }

/-- Adds a plain scalar. -/
def plain (s : Cutting) : Except ReadError Cutting := do
  let s ← s.saveKey
  let (read, broke) := plainScalar s.inFlow (s.indent + 1) s.cursor
  return { s.emit (.scalar (String.ofList read.text) true) with
    keyAllowed := broke, cursor := read.cursor }

/-- The marks that a plain scalar cannot start with. -/
def isMark (c : Char) : Bool :=
  endsWord c || isFlowMark c || "-?:#&*!|>'\"%@`".toList.contains c

/-- Whether a plain scalar starts at the cursor. -/
def startsPlain (s : Cutting) : Bool :=
  let c := s.cursor.peek
  !isMark c ||
    (!endsWord (s.cursor.peekAt 1) && (c == '-' || (!s.inFlow && (c == '?' || c == ':'))))

/-- Reads the token at the cursor. -/
def token (s : Cutting) : Except ReadError Cutting :=
  let c := s.cursor
  let ch := c.peek
  let alone := endsWord (c.peekAt 1)
  let reference (make : String → Token) : Except ReadError Cutting :=
    s.node ((anchorName c.next).map fun (name, after) => (make name, after))
  if c.column == 0 && ch == '%' then do
    let s ← (s.unindent (-1)).dropKey
    let (token, cursor) ← directive c.next
    return { s.emit token with keyAllowed := false, cursor }
  else if c.column == 0 && c.atMark '-' then s.documentMark .documentStart
  else if c.column == 0 && c.atMark '.' then s.documentMark .documentEnd
  else if ch == '[' then s.openFlow .flowSequence
  else if ch == '\x7b' then s.openFlow .flowMapping
  else if ch == ']' then s.closeFlow .flowSequenceEnd
  else if ch == '\x7d' then s.closeFlow .flowMappingEnd
  else if ch == ',' then s.flowEntry
  else if ch == '-' && alone then s.blockEntry
  else if ch == '?' && (s.inFlow || alone) then s.markedKey
  else if ch == ':' && (s.inFlow || alone) then s.colon
  else if ch == '*' then reference .reference
  else if ch == '&' then reference .anchor
  else if ch == '!' then s.node (tag c)
  else if ch == '|' && !s.inFlow then s.block false
  else if ch == '>' && !s.inFlow then s.block true
  else if ch == '\'' then s.quoted false
  else if ch == '"' then s.quoted true
  else if s.startsPlain then s.plain
  else .error .malformed

/-! ## Giving tokens away -/

/-- Meets the end of the text. -/
def finish (s : Cutting) : Except ReadError Cutting := do
  let s ← (s.unindent (-1)).dropKey
  return { s.emit .streamEnd with keyAllowed := false, keys := [], done := true }

/-- Fails at the end of a text that cannot be read beyond it. -/
def checkWall (s : Cutting) : Except ReadError Unit :=
  match s.wall with
  | some e => if s.cursor.rest.isEmpty then .error e else .ok ()
  | none => .ok ()

/-- Reads the next token. A text that goes on beyond its end is not cut short. -/
def fetch (s : Cutting) : Except ReadError Cutting := do
  let s := s.skipToToken (s.cursor.rest.length + 1)
  s.checkWall
  let s ← s.dropStale
  let s := s.unindent s.cursor.column
  if s.cursor.rest.isEmpty then s.finish
  else
    match s.token with
    | .ok s =>
      s.checkWall
      return s
    | .error .cutShort => throw (s.wall.getD .malformed)
    | .error e => throw e

/-- Whether the first token may yet become a key, or there is none. -/
def isUnsettled (s : Cutting) : Bool :=
  s.tokens.isEmpty || s.keys.any fun e => e.2.position == s.taken

/-- Reads tokens until the first one is settled. -/
def settle : (fuel : Nat) → Cutting → Except ReadError Cutting
  | 0, s => .ok s
  | fuel + 1, s => do
    if s.done then return s
    let s ← if s.tokens.isEmpty then pure s else s.dropStale
    if s.isUnsettled then settle fuel (← s.fetch) else return s

/-- The first token, and the state with it still to be given away. -/
def peek (s : Cutting) : Except ReadError (Token × Cutting) := do
  let s ← settle (s.cursor.rest.length + 2) s
  return (s.tokens.headD .streamEnd, s)

/-- Gives the first token away. -/
def advance (s : Cutting) : Cutting :=
  { s with tokens := s.tokens.tail, taken := s.taken + 1 }

/-- The start of a text. A byte order mark there is passed over. -/
def ofSource (source : Source) : Cutting :=
  let cursor : Cursor := { rest := source.chars }
  { cursor := if cursor.peek == '\uFEFF' then cursor.next else cursor, wall := source.wall }

end Cutting

end TemplateDocs.Yaml
