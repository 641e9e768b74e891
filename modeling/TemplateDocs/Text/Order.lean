import TemplateDocs.Text.Half

/-!
# The order of texts

Texts are compared by code points from their start; half of a pair counts by its code unit.
-/

namespace TemplateDocs.Text

/-- The code points of a text, and the code units of the halves of pairs in it. -/
def units (s : String) : List Nat :=
  s.toList.map toUnit

/-- Whether numbers are the start of others or the first that differs is smaller. -/
def unitsInOrder : List Nat → List Nat → Bool
  | [], _ => true
  | _ :: _, [] => false
  | a :: as, b :: bs => decide (a < b) || (a == b && unitsInOrder as bs)

/-- Whether a text is the same as another or stands before it. -/
def inOrder (a b : String) : Bool :=
  unitsInOrder (units a) (units b)

end TemplateDocs.Text
