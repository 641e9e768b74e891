import TemplateDocs.Text.Half
import TemplateDocs.Yaml.Cursor

/-!
# Scalars

A scalar is a text written plainly, between single or double quotes, or as a block of lines. Line
ends inside of the first three are folded: one becomes a blank, and of several the first is dropped.
-/

namespace TemplateDocs.Yaml

/-- A scalar that was read, and the place after it. -/
structure Scanned where
  text : List Char
  cursor : Cursor

/-- The text that line ends fold to: the first one, and those after it. -/
def folded (first more : List Char) : List Char :=
  if first != ['\n'] then first ++ more
  else if more.isEmpty then [' '] else more

/-! ## Plain scalars -/

/-- The characters of a plain scalar up to a blank or a mark. -/
def plainRun (inFlow : Bool) : List Char → List Char
  | [] => []
  | c :: rest =>
    let after := rest.headD '\x00'
    if endsWord c then []
    else if c == ':' && (endsWord after || (inFlow && isFlowMark after)) then []
    else if inFlow && (c == '?' || isFlowMark c) then []
    else c :: plainRun inFlow rest

/-- The line ends and blanks after a line of a plain scalar; none if the document ends there. -/
def plainBreaks : (fuel : Nat) → Cursor → Option (List Char) × Cursor
  | 0, c => (none, c)
  | fuel + 1, c =>
    if c.peek == ' ' then plainBreaks fuel c.next
    else if isBreak c.peek then
      let (own, after) := c.lineBreak
      if after.atDocumentMark then (none, after)
      else
        let (more, last) := plainBreaks fuel after
        (more.map (own ++ ·), last)
    else (some [], c)

/-- The blanks inside of a plain scalar, folded, and whether they held a line end; none if the scalar
ends here. -/
def plainSpaces (c : Cursor) : Option (List Char) × Bool × Cursor :=
  let (blanks, c) := c.span (· == ' ')
  if isBreak c.peek then
    let (first, c) := c.lineBreak
    if c.atDocumentMark then (none, true, c)
    else
      let (more, c) := plainBreaks (c.rest.length + 1) c
      (more.map (folded first), true, c)
  else (if blanks.isEmpty then none else some blanks, false, c)

/-- A plain scalar whose lines start at `indent` or further in. With it comes whether it was the last
thing on its line, so that a key may follow. -/
def plainFrom (inFlow : Bool) (indent : Int) :
    (fuel : Nat) → (spaces : List Char) → (broke : Bool) → Cursor → Scanned × Bool
  | 0, _, broke, c => (⟨[], c⟩, broke)
  | fuel + 1, spaces, broke, c =>
    let run := if c.peek == '#' then [] else plainRun inFlow c.rest
    if run.isEmpty then (⟨[], c⟩, broke)
    else
      let own := spaces ++ run
      match plainSpaces (c.skip run.length) with
      | (none, broke, after) => (⟨own, after⟩, broke)
      | (some spaces, broke, after) =>
        if after.peek == '#' || (!inFlow && (after.column : Int) < indent) then (⟨own, after⟩, broke)
        else
          let (more, broke) := plainFrom inFlow indent fuel spaces broke after
          (⟨own ++ more.text, more.cursor⟩, broke)

/-- The plain scalar at the cursor. -/
def plainScalar (inFlow : Bool) (indent : Int) (c : Cursor) : Scanned × Bool :=
  plainFrom inFlow indent (c.rest.length + 1) [] false c

/-! ## Quoted scalars -/

/-- The line ends after a line of a quoted scalar. A document cannot end there. -/
def quotedBreaks : (fuel : Nat) → Cursor → Except ReadError Scanned
  | 0, c => .ok ⟨[], c⟩
  | fuel + 1, c => do
    if c.atDocumentMark then throw .malformed
    let c := c.skipWhile fun ch => ch == ' ' || ch == '\t'
    if isBreak c.peek then
      let (own, after) := c.lineBreak
      let more ← quotedBreaks fuel after
      return ⟨own ++ more.text, more.cursor⟩
    else return ⟨[], c⟩

/-- The blanks inside of a quoted scalar, folded. -/
def quotedSpaces (c : Cursor) : Except ReadError Scanned := do
  let (blanks, c) := c.span fun ch => ch == ' ' || ch == '\t'
  if c.rest.isEmpty then throw .cutShort
  else if isBreak c.peek then
    let (first, c) := c.lineBreak
    let more ← quotedBreaks (c.rest.length + 1) c
    return ⟨folded first more.text, more.cursor⟩
  else return ⟨blanks, c⟩

/-- The character that an escaped letter stands for. -/
def escapedChar? : Char → Option Char
  | '0' => some '\x00'
  | 'a' => some '\x07'
  | 'b' => some '\x08'
  | 't' => some '\t'
  | '\t' => some '\t'
  | 'n' => some '\n'
  | 'v' => some '\x0b'
  | 'f' => some '\x0c'
  | 'r' => some '\r'
  | 'e' => some '\x1b'
  | ' ' => some ' '
  | '"' => some '"'
  | '\\' => some '\\'
  | '/' => some '/'
  | 'N' => some '\x85'
  | '_' => some '\xa0'
  | 'L' => some '\u2028'
  | 'P' => some '\u2029'
  | _ => none

/-- How many hexadecimal digits follow an escaped letter. -/
def escapeWidth? : Char → Option Nat
  | 'x' => some 2
  | 'u' => some 4
  | 'U' => some 8
  | _ => none

/-- The value of a hexadecimal digit. -/
def hexValue? (c : Char) : Option Nat :=
  if c.isDigit then some (c.toNat - 48)
  else if 'a' ≤ c ∧ c ≤ 'f' then some (c.toNat - 87)
  else if 'A' ≤ c ∧ c ≤ 'F' then some (c.toNat - 55)
  else none

/-- The character with a code point. -/
def charOf (code : Nat) : Except ReadError Char :=
  if code > 0x7FFFFFFF then .error (.fault .tooLarge)
  else if code > 0x10FFFF then .error (.fault .wrongValue)
  else .ok (Text.ofUnit code)

/-- The value of a number of hexadecimal digits at the cursor. -/
def hexNumber (width : Nat) (c : Cursor) : Except ReadError Nat :=
  match (c.rest.take width).mapM hexValue? with
  | none => .error .malformed
  | some values =>
    if values.length < width then .error .cutShort
    else .ok (values.foldl (fun n d => 16 * n + d) 0)

/-- What the escape after a backslash stands for. An escaped line end stands for nothing. -/
def escape (c : Cursor) : Except ReadError Scanned := do
  match escapedChar? c.peek, escapeWidth? c.peek with
  | some ch, _ => return ⟨[ch], c.next⟩
  | none, some width =>
    let code ← hexNumber width c.next
    return ⟨[← charOf code], c.next.skip width⟩
  | none, none =>
    if isBreak c.peek then
      let (_, c) := c.lineBreak
      quotedBreaks (c.rest.length + 1) c
    else throw c.complaint

/-- The rest of a quoted scalar up to the quote that closes it. -/
def quotedFrom (double : Bool) : (fuel : Nat) → Cursor → Except ReadError Scanned
  | 0, c => .error c.complaint
  | fuel + 1, c => do
    let go (own : List Char) (after : Cursor) : Except ReadError Scanned := do
      let more ← quotedFrom double fuel after
      return ⟨own ++ more.text, more.cursor⟩
    let ch := c.peek
    if endsWord ch then
      let spaces ← quotedSpaces c
      go spaces.text spaces.cursor
    else if double then
      if ch == '"' then return ⟨[], c.next⟩
      else if ch == '\\' then
        let own ← escape c.next
        go own.text own.cursor
      else go [ch] c.next
    else if ch == '\'' then
      if c.peekAt 1 == '\'' then go ['\''] (c.skip 2) else return ⟨[], c.next⟩
    else go [ch] c.next

/-- The quoted scalar after its opening quote. -/
def quotedScalar (double : Bool) (c : Cursor) : Except ReadError Scanned :=
  quotedFrom double (c.rest.length + 1) c

/-! ## Blocks of lines -/

/-- What is done with the line ends after a block: all but one are dropped, all, or none. -/
inductive Chomping where
  | clip
  | strip
  | keep
  deriving DecidableEq, Repr, Inhabited

/-- The chomping that a sign asks for. -/
def chomping? : Char → Option Chomping
  | '+' => some .keep
  | '-' => some .strip
  | _ => none

/-- The indentation that a digit asks for. -/
def increment? (c : Char) : Option Nat :=
  if c.isDigit then some (c.toNat - 48) else none

/-- The sign and the digit at the head of a block, in either order. -/
def blockHeader (c : Cursor) : Except ReadError (Chomping × Option Nat × Cursor) := do
  let (chomping, increment, c) :=
    match chomping? c.peek, increment? c.peek with
    | some chomping, _ =>
      match increment? c.next.peek with
      | some n => (chomping, some n, c.skip 2)
      | none => (chomping, none, c.next)
    | none, some n =>
      match chomping? c.next.peek with
      | some chomping => (chomping, some n, c.skip 2)
      | none => (.clip, some n, c.next)
    | none, none => (.clip, none, c)
  if increment == some 0 || !endsField c.peek then throw .malformed
  let c := c.skipComment
  if !endsLine c.peek then throw .malformed
  return (chomping, increment, c.lineBreak.2)

/-- The line ends before the first line of a block, and the furthest column of the blanks there. -/
def blockIndent : (fuel : Nat) → (furthest : Nat) → Cursor → List Char × Nat × Cursor
  | 0, furthest, c => ([], furthest, c)
  | fuel + 1, furthest, c =>
    if c.peek == ' ' then blockIndent fuel (max furthest c.next.column) c.next
    else if isBreak c.peek then
      let (own, after) := c.lineBreak
      let (more, furthest, last) := blockIndent fuel furthest after
      (own ++ more, furthest, last)
    else ([], furthest, c)

/-- The cursor after blanks before a column. -/
def skipTo (column : Int) : (fuel : Nat) → Cursor → Cursor
  | 0, c => c
  | fuel + 1, c =>
    if (c.column : Int) < column && c.peek == ' ' then skipTo column fuel c.next else c

/-- The empty lines of a block indented by `indent`. -/
def blockBreaks (indent : Int) : (fuel : Nat) → Cursor → List Char × Cursor
  | 0, c => ([], c)
  | fuel + 1, c =>
    let c := skipTo indent (c.rest.length + 1) c
    if isBreak c.peek then
      let (own, after) := c.lineBreak
      let (more, last) := blockBreaks indent fuel after
      (own ++ more, last)
    else ([], c)

/-- The lines of a block, each with its line end, and then the empty lines after it. -/
def blockLines (fold : Bool) (chomping : Chomping) (indent : Int) :
    (fuel : Nat) → (breaks : List Char) → (lineEnd : List Char) → Cursor → Scanned
  | 0, _, _, c => ⟨[], c⟩
  | fuel + 1, breaks, lineEnd, c =>
    let more (c : Cursor) : Bool := (c.column : Int) == indent && !c.rest.isEmpty
    let isSpace (ch : Char) : Bool := ch == ' ' || ch == '\t'
    if more c then
      let (line, after) := c.span fun ch => !endsLine ch
      let (ownEnd, after) := after.lineBreak
      let (empty, after) := blockBreaks indent (after.rest.length + 1) after
      let joined :=
        if !more after then []
        else if fold && ownEnd == ['\n'] && !isSpace c.peek && !isSpace after.peek then
          if empty.isEmpty then [' '] else []
        else ownEnd
      let others := blockLines fold chomping indent fuel empty ownEnd after
      ⟨breaks ++ line ++ joined ++ others.text, others.cursor⟩
    else
      match chomping with
      | .strip => ⟨[], c⟩
      | .clip => ⟨lineEnd, c⟩
      | .keep => ⟨lineEnd ++ breaks, c⟩

/-- The block of lines after its mark, in a collection indented by `outer`. -/
def blockScalar (fold : Bool) (outer : Int) (c : Cursor) : Except ReadError Scanned := do
  let (chomping, increment, c) ← blockHeader c
  let least : Int := max 1 (outer + 1)
  match increment with
  | some n =>
    let indent := least + n - 1
    let (breaks, c) := blockBreaks indent (c.rest.length + 1) c
    return blockLines fold chomping indent (c.rest.length + 1) breaks [] c
  | none =>
    let (breaks, furthest, c) := blockIndent (c.rest.length + 1) 0 c
    let indent := max least furthest
    return blockLines fold chomping indent (c.rest.length + 1) breaks [] c

end TemplateDocs.Yaml
