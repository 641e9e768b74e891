import TemplateDocs.Template.Section
import TemplateDocs.Text.Search

/-!
# Selecting sections

On the command line sections are either listed, in the order in which the page has them, or taken
away from all.
-/

namespace TemplateDocs.Selection

/-- The sections that words name; blank words are passed over. -/
def ofWords (words : List String) : Except Report (List Section) :=
  Section.ofStrings (words.filter fun word => Text.strip word != "")

/-- The sections that a list with commas names; an empty list names none. -/
def ofList (s : String) : Except Report (List Section) :=
  if s == "" then .ok [] else ofWords (Text.commaItems s)

/-- The included sections in their order, without the excluded ones. -/
def difference (included excluded : String) : Except Report (List Section) := do
  let included ← ofList included
  let excluded ← ofList excluded
  return included.filter fun s => !excluded.contains s

/-- All sections as a list with commas. -/
def allSections : String :=
  Text.join "," (Section.all.map Section.identifier)

/-- The report on sections that are both listed and taken away. -/
def conflict : Report :=
  { category := .input
    message := "--include-sections and --exclude-sections are mutually exclusive" }

/-- The sections that the two options ask for, none if neither is given. An empty option counts as
not given. -/
def resolve (included excluded : Option String) : Except Report (Option (List Section)) :=
  match included.filter (· != ""), excluded.filter (· != "") with
  | some _, some _ => .error conflict
  | some list, none => (difference list "").map some
  | none, some list => (difference allSections list).map some
  | none, none => .ok none

end TemplateDocs.Selection
