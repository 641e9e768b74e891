import TemplateDocs.Json.Basic
import TemplateDocs.Template.Section
import TemplateDocs.Time.Date

/-!
# Values

Values are what templates and settings carry without looking inside: JSON documents, mappings whose
keys need not be texts, dates, bytes and sets, sections, and things of other kinds that no notation can
hold.
-/

namespace TemplateDocs

/-- The key of a mapping. -/
inductive Key where
  | null
  | bool (value : Bool)
  | int (value : Int)
  | float (value : Double)
  /-- What is not a number; it is the same only as what was made at the same place. -/
  | notANumber (origin : Nat)
  | text (value : String)
  | bytes (content : List UInt8)
  | date (value : Date)
  | moment (value : Moment)
  /-- A section itself and not its name. -/
  | choice (value : Section)
  deriving DecidableEq, Repr, Inhabited

/-- What is shown, or why it cannot be, is compared as it stands. -/
instance : BEq (Except Fault String) where
  beq
    | .ok a, .ok b => a == b
    | .error a, .error b => a == b
    | _, _ => false

/-- A value carried by a template or a setting. -/
inductive Value where
  | null
  | bool (value : Bool)
  | int (value : Int)
  | float (value : Double)
  | text (value : String)
  | bytes (content : List UInt8)
  | date (value : Date)
  | moment (value : Moment)
  /-- A section itself and not its name. -/
  | choice (value : Section)
  | list (items : List Value)
  /-- A list that cannot be changed. -/
  | tuple (items : List Value)
  /-- Members without order and without values. -/
  | set (members : List Key)
  | dict (entries : List (Key × Value))
  /-- A collection that contains itself, known by its text and by those of its members, or by the faults
  that showing them ends in. -/
  | ring (isList : Bool) (shown : Except Fault String) (members : List (Except Fault String))
  /-- Something that no notation can hold, known by the name of its kind. -/
  | foreign (kind : String)
  deriving Repr, Inhabited, BEq

/-! ## Keys -/

namespace Key

/-- The number that a key stands for in comparisons. -/
def number? : Key → Option Double
  | bool value => some (Double.ofInt (if value then 1 else 0))
  | int value => some (Double.ofInt value)
  | float value => some value
  | notANumber _ => some .notANumber
  | _ => none

/-- A kind of keys that have an order among themselves. -/
inductive Kind where
  | number
  | text
  | bytes
  | date
  /-- A moment, with or without its distance from universal time. -/
  | moment (located : Bool)
  deriving DecidableEq, Repr, Inhabited

/-- The kind of keys that a key has its order among, if it has one at all. -/
def kind? : Key → Option Kind
  | text _ => some .text
  | bytes _ => some .bytes
  | date _ => some .date
  | moment value => some (.moment value.offset.isSome)
  | null | choice _ => none
  | bool _ | int _ | float _ | notANumber _ => some .number

/-- Whether one key stands before another: texts by code points, bytes one by one, numbers by size, days
and moments by time. -/
def less : Key → Key → Bool
  | text a, text b => !Text.inOrder b a
  | int a, int b => decide (a < b)
  | bytes a, bytes b => decide (a < b)
  | date a, date b => decide (a.number < b.number)
  | moment a, moment b => decide (a.instant < b.instant)
  | a, b =>
    match a.number?, b.number? with
    | some x, some y => x.less y
    | _, _ => false

/-- Keys have an order if all are of one kind that has one, or if there is but one key. -/
def ordered (keys : List Key) : Bool :=
  keys.length ≤ 1 ||
    keys.head?.any fun first => first.kind?.isSome && keys.all fun key => key.kind? == first.kind?

/-- Entries in the order of their keys; entries with equal keys keep theirs. -/
def sortEntries {α : Type} (entries : List (Key × α)) : List (Key × α) :=
  entries.mergeSort fun a b => !b.1.less a.1

/-- The whole number that a key stands for in comparisons. -/
def whole? : Key → Option Int
  | bool value => some (if value then 1 else 0)
  | int value => some value
  | _ => none

/-- Whether two keys are the same. A truth value is the same as the number for it, and numbers of
different kinds are compared without rounding. -/
def same : Key → Key → Bool
  | text a, text b => a == b
  | null, null => true
  | bytes a, bytes b => a == b
  | date a, date b => decide (a = b)
  | moment a, moment b => a.same b
  | choice a, choice b => a == b
  | notANumber a, notANumber b => a == b
  | float x, float y => x.equal y
  | float x, b => b.whole?.any x.isInt
  | a, float y => a.whole?.any y.isInt
  | a, b =>
    match a.whole?, b.whole? with
    | some m, some n => m == n
    | _, _ => false

/-- The value under a key. -/
def find? {α : Type} (key : Key) (entries : List (Key × α)) : Option α :=
  (entries.find? fun e => e.1.same key).map Prod.snd

/-- Entries with `value` under `key`; a key that is there already keeps its place. -/
def set {α : Type} (key : Key) (value : α) : List (Key × α) → List (Key × α)
  | [] => [(key, value)]
  | (k, v) :: rest => if k.same key then (k, value) :: rest else (k, v) :: set key value rest

/-- Entries in which a later value of a key replaces an earlier one in its place. -/
def lastEntries {α : Type} (entries : List (Key × α)) : List (Key × α) :=
  entries.foldl (fun kept e => e.1.set e.2 kept) []

end Key

/-! ## Values -/

namespace Value

mutual

/-- A JSON document as a value. -/
def ofJson : Json → Value
  | .null => null
  | .bool value => bool value
  | .int value => int value
  | .float value => float value
  | .text value => text value
  | .array items => list (ofItems items)
  | .object entries => dict (ofEntries entries)

/-- The items of an array as values. -/
def ofItems : List Json → List Value
  | [] => []
  | item :: items => ofJson item :: ofItems items

/-- The entries of an object as entries of a mapping. -/
def ofEntries : List (String × Json) → List (Key × Value)
  | [] => []
  | (key, item) :: entries => (.text key, ofJson item) :: ofEntries entries

end

/-- Null, false, zero and everything empty count as no. -/
def truthy : Value → Bool
  | null => false
  | bool value => value
  | int value => value != 0
  | float value => !value.isZero
  | text value => value != ""
  | bytes content => !content.isEmpty
  | date _ => true
  | moment _ => true
  | choice _ => true
  | list items => !items.isEmpty
  | tuple items => !items.isEmpty
  | set members => !members.isEmpty
  | dict entries => !entries.isEmpty
  | ring _ _ _ => true
  | foreign _ => true

mutual

/-- Whether no more than `room` collections stand inside of each other. What contains itself fits in
no room. -/
def fits (room : Nat) : Value → Bool
  | list items => match room with
    | 0 => false
    | room + 1 => itemsFit room items
  | tuple items => match room with
    | 0 => false
    | room + 1 => itemsFit room items
  | dict entries => match room with
    | 0 => false
    | room + 1 => entriesFit room entries
  | ring _ _ _ => false
  | _ => true

/-- Whether all items of a list fit. -/
def itemsFit (room : Nat) : List Value → Bool
  | [] => true
  | item :: items => item.fits room && itemsFit room items

/-- Whether all values of a mapping fit. -/
def entriesFit (room : Nat) : List (Key × Value) → Bool
  | [] => true
  | (_, item) :: entries => item.fits room && entriesFit room entries

end

/-- The text of a text value. -/
def text? : Value → Option String
  | text value => some value
  | _ => none

/-- Whether the value is null. -/
def isNull : Value → Bool
  | null => true
  | _ => false

end Value

end TemplateDocs
