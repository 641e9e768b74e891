import TemplateDocs.Text.Digit
import TemplateDocs.Text.Quoted
import TemplateDocs.Text.Search

/-!
# Options of the command line

Long options may be cut short as long as only one fits, and short ones may be joined. All arguments
are looked at before any of them takes effect.
-/

namespace TemplateDocs

/-! ## Names -/

/-- An option of the command line. -/
inductive Opt where
  | help
  | input
  | output
  | verbose
  | includeSections
  | excludeSections
  | showAllDecorators
  | config
  | debug
  | noRich
  | version
  deriving DecidableEq, Repr, Inhabited

namespace Opt

/-- All spellings of options in order. -/
def spellings : List (String × Opt) :=
  [("-h", help), ("--help", help), ("--input", input), ("-i", input), ("--output", output),
   ("-o", output), ("--verbose", verbose), ("-v", verbose), ("--include-sections", includeSections),
   ("--exclude-sections", excludeSections), ("--show-all-decorators", showAllDecorators),
   ("--config", config), ("-c", config), ("--debug", debug), ("--no-rich", noRich),
   ("--version", version)]

/-- The option of a spelling. -/
def spelled? (s : String) : Option Opt :=
  spellings.lookup s

/-- Whether an option has a value. -/
def hasValue : Opt → Bool
  | input | output | includeSections | excludeSections | config => true
  | _ => false

/-- The name of an option in messages: all its spellings. -/
def name (opt : Opt) : String :=
  Text.join "/" ((spellings.filter fun e => e.2 == opt).map Prod.fst)

end Opt

/-! ## Errors -/

/-- What is wrong with a command line. -/
inductive UsageError where
  | ambiguous (argument : String) (fitting : List String)
  | valueMissing (opt : Opt)
  | valueIgnored (opt : Opt) (value : String)
  | notTogether (opt other : Opt)
  | unrecognized (arguments : List String)
  deriving DecidableEq, Repr, Inhabited

/-- The wording of what is wrong. -/
def UsageError.message : UsageError → String
  | ambiguous argument fitting =>
    "ambiguous option: " ++ argument ++ " could match " ++ Text.join ", " fitting
  | valueMissing opt => "argument " ++ opt.name ++ ": expected one argument"
  | valueIgnored opt value =>
    "argument " ++ opt.name ++ ": ignored explicit argument " ++ Text.quoted value
  | notTogether opt other => "argument " ++ opt.name ++ ": not allowed with argument " ++ other.name
  | unrecognized arguments => "unrecognized arguments: " ++ Text.join " " arguments

/-- Why the arguments give no options. -/
inductive Refusal where
  | wrong (e : UsageError)
  /-- The user asked for help. -/
  | help
  /-- The user asked for the version. -/
  | version
  deriving DecidableEq, Repr, Inhabited

/-! ## Arguments -/

/-- What an argument is. -/
inductive CommandWord where
  | operand
  /-- The mark after which there are only operands. -/
  | endOfOptions
  | unknown
  /-- An option, long or short, with what is attached to it. -/
  | opt (opt : Opt) (short : Bool) (attached : Option (List Char))
  deriving DecidableEq, Repr, Inhabited

namespace CommandWord

/-- Whether a negative number is written, with at most a line feed after it. -/
def isNegativeNumber (cs : List Char) : Bool :=
  let isDigit (c : Char) : Bool := (Text.digitValue? c).isSome
  match if cs.getLast? == some '\n' then cs.dropLast else cs with
  | '-' :: rest =>
    let fraction := (rest.dropWhile isDigit).drop 1
    (!rest.isEmpty && rest.all isDigit) ||
      ((rest.dropWhile isDigit).head? == some '.' && !fraction.isEmpty && fraction.all isDigit)
  | _ => false

/-- The value after an equals sign. -/
def afterEquals (cs : List Char) : Option (List Char) :=
  (Text.cutAt? ['='] cs).map Prod.snd

/-- What a long argument fits: the options that it is a start of. -/
def fittingLong (cs : List Char) : List (String × CommandWord) :=
  let start := cs.takeWhile (· != '=')
  (Opt.spellings.filter fun e => (Text.dropStart? start e.1.toList).isSome).map fun e =>
    (e.1, .opt e.2 false (afterEquals cs))

/-- What a short argument fits: the option of its first letter, with the rest attached. -/
def fittingShort (cs : List Char) : List (String × CommandWord) :=
  (Opt.spellings.filter fun e => e.1.toList == cs.take 2).map fun e =>
    (e.1, .opt e.2 true (some (cs.drop 2)))

/-- What an argument fits that is no option as it stands. -/
def fitting (cs : List Char) : List (String × CommandWord) :=
  match cs with
  | '-' :: '-' :: _ => fittingLong cs
  | _ => fittingShort cs

/-- What an argument that starts with a dash and is no option as it stands is. -/
def ofFitting (argument : String) : Except UsageError CommandWord :=
  match fitting argument.toList with
  | [(_, word)] => .ok word
  | [] =>
    if isNegativeNumber argument.toList || argument.toList.contains ' ' then .ok .operand
    else .ok .unknown
  | several => .error (.ambiguous argument (several.map Prod.fst))

/-- Whether an argument starts with one dash. -/
def isShort (cs : List Char) : Bool :=
  cs.take 2 != ['-', '-']

/-- What an argument is. -/
def ofString (argument : String) : Except UsageError CommandWord :=
  let cs := argument.toList
  if cs.head? != some '-' then .ok .operand
  else
    match Opt.spelled? argument with
    | some found => .ok (.opt found (isShort cs) none)
    | none =>
      if cs.length == 1 then .ok .operand
      else
        match Opt.spelled? (String.ofList (cs.takeWhile (· != '='))), afterEquals cs with
        | some found, some value => .ok (.opt found (isShort cs) (some value))
        | _, _ => ofFitting argument

end CommandWord

/-- The arguments with what each of them is. -/
def readWords : List String → Except UsageError (List (String × CommandWord))
  | [] => .ok []
  | "--" :: rest => .ok (("--", .endOfOptions) :: rest.map fun s => (s, .operand))
  | argument :: rest => do
    let word ← CommandWord.ofString argument
    return (argument, word) :: (← readWords rest)

/-! ## Joined options -/

/-- What one argument asks for. -/
structure Joined where
  /-- The options without values, in order. -/
  flags : List Opt := []
  /-- The last option, with the value attached to it. -/
  valued : Option (Opt × String) := none
  /-- The last option, which waits for its value. -/
  waiting : Option Opt := none

/-- Takes the letters after a short option apart. After one without a value come more of them;
whatever else is attached to it is refused. -/
def Joined.ofLetters (opt : Opt) : List Char → Except UsageError Joined
  | [] => .ok (if opt.hasValue then { waiting := some opt } else { flags := [opt] })
  | c :: rest =>
    if opt.hasValue then .ok { valued := some (opt, String.ofList (c :: rest)) }
    else
      match Opt.spelled? (String.ofList ['-', c]) with
      | none => .error (.valueIgnored opt (String.ofList (c :: rest)))
      | some next => do
        let joined ← Joined.ofLetters next rest
        return { joined with flags := opt :: joined.flags }

/-- Takes an argument apart that starts with an option. -/
def Joined.ofOption (opt : Opt) (short : Bool) (attached : Option (List Char)) :
    Except UsageError Joined :=
  match attached with
  | none => Joined.ofLetters opt []
  | some value =>
    if opt.hasValue then .ok { valued := some (opt, String.ofList value) }
    else if short && !value.isEmpty then Joined.ofLetters opt value
    else .error (.valueIgnored opt (String.ofList value))

/-! ## Options -/

/-- What the arguments ask for. -/
structure Options where
  /-- The input, if the option for it was not given without a value. -/
  input : Option String := some "."
  output : Option String := none
  verbose : Bool := false
  includeSections : Option String := none
  excludeSections : Option String := none
  /-- Which of the two options on sections was given. -/
  selecting : Option Opt := none
  showAllDecorators : Bool := false
  config : Option String := none
  debug : Bool := false
  noRich : Bool := false
  deriving DecidableEq, Repr, Inhabited

namespace Options

/-- Takes an option without a value into account. -/
def setFlag (o : Options) : Opt → Except Refusal Options
  | .help => .error .help
  | .version => .error .version
  | .verbose => .ok { o with verbose := true }
  | .showAllDecorators => .ok { o with showAllDecorators := true }
  | .debug => .ok { o with debug := true }
  | .noRich => .ok { o with noRich := true }
  | _ => .ok o

/-- The mark after which there are only operands. -/
def endMark : String := "--"

/-- Takes an option with its value into account. Sections are not both listed and taken away. The
mark after which there are only operands is no value, though an option was given with it. -/
def setValue (o : Options) (opt : Opt) (value : String) : Except Refusal Options :=
  let given := if value == endMark then none else some value
  let select (other : Opt) (o' : Options) : Except Refusal Options :=
    if o.selecting == some other then .error (.wrong (.notTogether opt other))
    else .ok { o' with selecting := some opt }
  match opt with
  | .input => .ok { o with input := given }
  | .output => .ok { o with output := given }
  | .config => .ok { o with config := given }
  | .includeSections => select .excludeSections { o with includeSections := given }
  | .excludeSections => select .includeSections { o with excludeSections := given }
  | _ => .ok o

/-- Takes all that one argument asks for into account. -/
def apply (o : Options) (flags : List Opt) (valued : Option (Opt × String)) :
    Except Refusal Options := do
  let o ← flags.foldlM setFlag o
  match valued with
  | none => return o
  | some (opt, value) => o.setValue opt value

/-- Reads words one after the other. What is not recognized is told after all else. -/
def readFrom (o : Options) (stray : List String) :
    List (String × CommandWord) → Except Refusal Options
  | [] => if stray.isEmpty then .ok o else .error (.wrong (.unrecognized stray))
  | (_, .opt opt short attached) :: rest => do
    let joined ← (Joined.ofOption opt short attached).mapError .wrong
    match joined.waiting, rest with
    | none, rest => readFrom (← o.apply joined.flags joined.valued) stray rest
    | some opt, (value, .operand) :: rest =>
      readFrom (← o.apply joined.flags (some (opt, value))) stray rest
    | some opt, _ => throw (.wrong (.valueMissing opt))
  | (argument, _) :: rest => readFrom o (stray ++ [argument]) rest

/-- The options that arguments give. -/
def ofArguments (arguments : List String) : Except Refusal Options := do
  let words ← (readWords arguments).mapError .wrong
  readFrom {} [] words

end Options

end TemplateDocs
