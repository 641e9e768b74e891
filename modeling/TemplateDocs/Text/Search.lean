/-!
# Searching and cutting texts
-/

namespace TemplateDocs.Text

/-- What follows `start` when the text begins with it. -/
def dropStart? : (start : List Char) → List Char → Option (List Char)
  | [], cs => some cs
  | _ :: _, [] => none
  | a :: start, c :: cs => if a == c then dropStart? start cs else none

/-- The parts before and after the first place where `mark` stands. -/
def cutAt? (mark : List Char) : List Char → Option (List Char × List Char)
  | [] => (dropStart? mark []).map fun rest => ([], rest)
  | c :: cs =>
    match dropStart? mark (c :: cs) with
    | some rest => some ([], rest)
    | none => (cutAt? mark cs).map fun (before, after) => (c :: before, after)

/-- Whether `mark` stands anywhere in the text. -/
def contains (mark : List Char) (cs : List Char) : Bool :=
  (cutAt? mark cs).isSome

/-- The parts of a text between the places where `sep` stands. -/
def splitOn (sep : Char) : List Char → List (List Char)
  | [] => [[]]
  | c :: cs =>
    if c == sep then [] :: splitOn sep cs
    else
      match splitOn sep cs with
      | [] => [[c]]
      | part :: parts => (c :: part) :: parts

/-- The items of a comma-separated text. -/
def commaItems (s : String) : List String :=
  (splitOn ',' s.toList).map String.ofList

/-- The texts one after the other with `sep` between them. -/
def join (sep : String) (parts : List String) : String :=
  sep.intercalate parts

end TemplateDocs.Text
