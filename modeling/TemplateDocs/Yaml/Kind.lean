import TemplateDocs.Text.Search
import TemplateDocs.Yaml.Scalar
import TemplateDocs.Yaml.Timestamp

/-!
# Kinds of scalars and collections

A plain scalar is a truth value, a number, a date, null or one of some marks if it is written like
one, and a text otherwise. One line feed at its end does not count.
-/

namespace TemplateDocs.Yaml

/-- What a scalar or a collection is read as. -/
inductive Kind where
  | null
  | bool
  | int
  | float
  | timestamp
  | binary
  | text
  /-- The mark of a mapping that is merged into the one around it. -/
  | merge
  /-- The mark of a default value. -/
  | default
  | sequence
  | mapping
  | set
  /-- A sequence of mappings with one entry each. -/
  | pairs
  | other
  deriving DecidableEq, Repr, Inhabited

/-! ## Patterns -/

/-- Without a sign. -/
def unsigned : List Char → List Char
  | '+' :: cs => cs
  | '-' :: cs => cs
  | cs => cs

/-- Digits and underscores, the first a digit of a class. -/
def isDigits (first : Char → Bool) : List Char → Bool
  | [] => false
  | c :: cs => first c && cs.all fun d => d.isDigit || d == '_'

/-- Whether all characters are digits of a class or underscores, and there is one. -/
def isRun (digit : Char → Bool) (cs : List Char) : Bool :=
  !cs.isEmpty && cs.all fun c => digit c || c == '_'

/-- A digit other than zero. -/
def isLeading (c : Char) : Bool :=
  c.isDigit && c != '0'

/-- An octal digit. -/
def isOctal (c : Char) : Bool :=
  c.isDigit && c != '8' && c != '9'

/-- A hexadecimal digit. -/
def isHex (c : Char) : Bool :=
  (hexValue? c).isSome

/-- Up to sixty minutes or seconds, in one or two digits. -/
def isSixtieth : List Char → Bool
  | [d] => d.isDigit
  | [t, d] => d.isDigit && t.isDigit && t.toNat < 54
  | _ => false

/-- Whether a whole number without a sign is written in one of the five ways. -/
def isUnsignedInt (cs : List Char) : Bool :=
  match cs with
  | '0' :: 'b' :: digits => isRun (fun c => c == '0' || c == '1') digits
  | '0' :: 'x' :: digits => isRun isHex digits
  | ['0'] => true
  | '0' :: digits => isRun isOctal digits
  | cs =>
    match Text.splitOn ':' cs with
    | [] => false
    | first :: more => isDigits isLeading first && more.all isSixtieth

/-- Whether a whole number is written. -/
def isInt (cs : List Char) : Bool :=
  isUnsignedInt (unsigned cs)

/-- An exponent with its sign, or nothing. -/
def isExponent : List Char → Bool
  | [] => true
  | e :: sign :: digits =>
    (e == 'e' || e == 'E') && (sign == '+' || sign == '-') && !digits.isEmpty && digits.all Char.isDigit
  | _ => false

/-- Digits, underscores and then an exponent. -/
def isFraction (cs : List Char) : Bool :=
  isExponent (cs.dropWhile fun c => c.isDigit || c == '_')

/-- Whether a number with a point is written. -/
def isFloat (cs : List Char) : Bool :=
  match cs with
  | '.' :: rest =>
    (rest.headD 'x').isDigit && isFraction rest ||
      [".nan", ".NaN", ".NAN", ".inf", ".Inf", ".INF"].contains (String.ofList cs)
  | cs =>
    let cs := unsigned cs
    if [".inf", ".Inf", ".INF"].contains (String.ofList cs) then true
    else
      match Text.cutAt? ['.'] cs with
      | none => false
      | some (whole, fraction) =>
        match Text.splitOn ':' whole with
        | [] => false
        | [digits] => isDigits Char.isDigit digits && isFraction fraction
        | first :: more =>
          isDigits Char.isDigit first && more.all isSixtieth &&
            fraction.all fun c => c.isDigit || c == '_'

/-! ## Words -/

/-- The words for yes, in lower case. -/
def yesWords : List String := ["yes", "true", "on"]

/-- The words for no, in lower case. -/
def noWords : List String := ["no", "false", "off"]

/-- A word in lower case, with a capital, and in capitals. -/
def threeCases (word : String) : List String :=
  [word, word.capitalize, word.toUpper]

/-- Whether a word stands for yes or no. -/
def isBool (s : String) : Bool :=
  ((yesWords ++ noWords).flatMap threeCases).contains s

/-- Whether a word stands for null. -/
def isNull (s : String) : Bool :=
  s == "" || s == "~" || (threeCases "null").contains s

/-- The marks that stand for something in the notation itself. -/
def reservedMarks : List String := ["!", "&", "*"]

/-- Without one line feed at the end. A line feed alone stays. -/
def dropLineFeed (cs : List Char) : List Char :=
  match cs with
  | [_] => cs
  | cs => if cs.getLast? == some '\n' then cs.dropLast else cs

/-- The kind of a plain scalar. -/
def Kind.ofPlain (text : String) : Kind :=
  let cs := dropLineFeed text.toList
  let s := String.ofList cs
  if isBool s then .bool
  else if isFloat cs then .float
  else if isInt cs then .int
  else if s == "<<" then .merge
  else if isNull s then .null
  else if (Stamp.ofText? cs).any Stamp.isPlain then .timestamp
  else if s == "=" then .default
  else if reservedMarks.contains s then .other
  else .text

/-! ## Tags -/

/-- The start of the tags that the notation itself defines. -/
def coreTags : String := "tag:yaml.org,2002:"

/-- The kind that a tag names. -/
def Kind.ofTag (tag : String) : Kind :=
  match (Text.dropStart? coreTags.toList tag.toList).map String.ofList with
  | some "null" => .null
  | some "bool" => .bool
  | some "int" => .int
  | some "float" => .float
  | some "timestamp" => .timestamp
  | some "binary" => .binary
  | some "str" => .text
  | some "merge" => .merge
  | some "value" => .default
  | some "seq" => .sequence
  | some "map" => .mapping
  | some "set" => .set
  | some "omap" => .pairs
  | some "pairs" => .pairs
  | _ => .other

/-- The kind of a scalar with an optional tag. The tag that says nothing reads it as a plain one. -/
def scalarKind (tag : Option String) (plain : Bool) (text : String) : Kind :=
  match tag with
  | none => if plain then .ofPlain text else .text
  | some "!" => .ofPlain text
  | some tag => .ofTag tag

/-- The kind of a collection with an optional tag. -/
def collectionKind (tag : Option String) (kind : Kind) : Kind :=
  match tag with
  | none => kind
  | some "!" => kind
  | some tag => .ofTag tag

end TemplateDocs.Yaml
