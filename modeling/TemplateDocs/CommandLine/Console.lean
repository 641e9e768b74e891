/-!
# The console

Messages go to one of two channels, with a symbol before them unless they are to be plain. How they
look there is left to a library.
-/

namespace TemplateDocs

/-- How a message is meant. -/
inductive Tone where
  | success
  | info
  | warning
  | error
  deriving DecidableEq, Repr, Inhabited

namespace Tone

/-- The symbol before a message. -/
def symbol : Tone → String
  | success => "✓"
  | info => "ℹ"
  | warning => "⚠"
  | error => "✗"

/-- The style of the symbol. -/
def style : Tone → String
  | success => "green"
  | info => "blue"
  | warning => "yellow"
  | error => "red"

/-- Whether a message goes to the channel for errors. -/
def isError : Tone → Bool
  | success | info => false
  | warning | error => true

end Tone

/-- A library for writing lines. -/
structure Printer where
  /-- A line with a symbol in a style before a message. -/
  styled : (style symbol message : String) → String
  /-- A line with a message alone. -/
  plain : String → String

/-- What has been written to the two channels. -/
structure Console where
  symbols : Bool := true
  out : String := ""
  err : String := ""
  deriving DecidableEq, Repr, Inhabited

namespace Console

/-- The line that a message becomes. -/
def line (printer : Printer) (symbols : Bool) (tone : Tone) (message : String) : String :=
  if symbols then printer.styled tone.style tone.symbol message else printer.plain message

/-- Writes a message. -/
def say (printer : Printer) (c : Console) (tone : Tone) (message : String) : Console :=
  let written := line printer c.symbols tone message
  if tone.isError then { c with err := c.err ++ written } else { c with out := c.out ++ written }

end Console

end TemplateDocs
