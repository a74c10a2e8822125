/-
Arguments of the command line, and what they ask for.

There are two commands. Each has options that take a value, behind an equals sign or as the next
argument, and some of them must be given; none may be given twice. The flags for help and for more
log output are admitted everywhere, the flag for the version only before a command. Arguments are
taken from left to right, and the first one that asks for help or cannot be taken decides.
-/
import SpriteStage.Digits
import SpriteStage.Element

set_option autoImplicit false

namespace SpriteStage.CommandLine

/-! ## What can be asked for -/

/-- Where a script comes from, and the settings if it has none. -/
structure Source where
  /-- The path of the script. -/
  script : String
  /-- The path of the settings. -/
  settings : Option String
deriving DecidableEq, Repr

/-- A command. -/
inductive Command where
  /-- Replay a script and write every presented frame into a directory. -/
  | replay (source : Source) (outDir : String)
  /-- Replay a script and write the last frame of one canvas to a path. -/
  | frame (source : Source) (canvas : Ident) (out : String)
deriving DecidableEq, Repr

/-- What arguments ask for. -/
inductive Request where
  /-- That a command be run. -/
  | run (command : Command)
  /-- The help text. -/
  | help
  /-- The version. -/
  | version
  /-- Nothing that there is. -/
  | misuse
deriving DecidableEq, Repr

/-! ## Words -/

/-- An argument by its form. -/
inductive Word where
  /-- The two dashes behind which there are no options. -/
  | divider
  /-- A name behind two dashes, with a value if there is an equals sign. -/
  | long (name : List Char) (value : Option (List Char))
  /-- Letters behind one dash. -/
  | short (letters : List Char)
  /-- Anything else, a dash alone included. -/
  | plain
deriving DecidableEq, Repr

/-- Splits a text at its first equals sign. -/
def splitValue (cs : List Char) : List Char × Option (List Char) :=
  match cs.dropWhile (· ≠ '=') with
  | [] => (cs, none)
  | _ :: value => (cs.takeWhile (· ≠ '='), some value)

/-- The form of an argument. -/
def Word.ofText (text : String) : Word :=
  match text.toList with
  | ['-', '-'] => .divider
  | '-' :: '-' :: rest =>
    let (name, value) := splitValue rest
    .long name value
  | ['-'] => .plain
  | '-' :: letters => .short letters
  | _ => .plain

/-! ## Flags -/

/-- What a flag asks for. -/
inductive Flag where
  /-- More log output. -/
  | verbose
  /-- The help text. -/
  | help
  /-- The version. -/
  | version
deriving DecidableEq, Repr

/-- The flag of a letter. -/
def Flag.ofLetter? : Char → Option Flag
  | 'v' => some verbose
  | 'h' => some help
  | 'V' => some version
  | _ => none

/-- The flag of a name. -/
def Flag.ofName? (name : List Char) : Option Flag :=
  match String.ofList name with
  | "verbose" => some verbose
  | "help" => some help
  | "version" => some version
  | _ => none

/-- Takes a flag. It may decide what is asked for; if it does not, the arguments go on. -/
def takeFlag (admitVersion : Bool) : Flag → Option Request
  | .verbose => none
  | .help => some .help
  | .version => some (if admitVersion then .version else .misuse)

/-- Takes the letters behind one dash. -/
def takeLetters (admitVersion : Bool) : List Char → Option Request
  | [] => none
  | c :: rest =>
    match Flag.ofLetter? c with
    | none => some .misuse
    | some flag =>
      match takeFlag admitVersion flag with
      | some request => some request
      | none => takeLetters admitVersion rest

/-! ## Options -/

/-- An option that takes a value. -/
inductive Field where
  /-- The path of the script. -/
  | script
  /-- The path of the settings. -/
  | settings
  /-- The directory for images. -/
  | outDir
  /-- The id of a canvas. -/
  | canvas
  /-- The path of an image. -/
  | out
deriving DecidableEq, Repr

/-- The options of `replay`. -/
def replayFields : List (String × Field) :=
  [("in", .script), ("settings", .settings), ("out-dir", .outDir)]

/-- The options of `frame`. -/
def frameFields : List (String × Field) :=
  [("in", .script), ("settings", .settings), ("canvas", .canvas), ("out", .out)]

/-- The id that a value stands for: decimal digits, behind a sign if one likes. -/
def ident? (value : List Char) : Option Ident :=
  let n := match value with
    | '-' :: digits => (Digits.value? 10 digits).filter (· = 0)
    | cs => Digits.unsigned? 10 UInt32.size cs
  n.map UInt32.ofNat

/-- Whether an option takes a value: an id must be one, and a path must not be empty. -/
def Field.admits (field : Field) (value : List Char) : Bool :=
  match field with
  | canvas => (ident? value).isSome
  | _ => value ≠ []

/-- The values that have been given so far. -/
abbrev Given := List (Field × List Char)

/-- The value of an option that holds a path. -/
def Given.path? (given : Given) (field : Field) : Option String :=
  (given.lookup field).map String.ofList

/-- The source of the script. -/
def Given.source? (given : Given) : Option Source :=
  (given.path? .script).map fun script => ⟨script, given.path? .settings⟩

/-- The `replay` command of the values, if none is missing. -/
def Given.replay? (given : Given) : Option Command :=
  return .replay (← given.source?) (← given.path? .outDir)

/-- The `frame` command of the values, if none is missing. -/
def Given.frame? (given : Given) : Option Command :=
  return .frame (← given.source?) (← (given.lookup .canvas).bind ident?) (← given.path? .out)

/-- The value with one more, unless the option has one already or does not take it. -/
def Given.add? (given : Given) (field : Field) (value : List Char) : Option Given :=
  if (given.lookup field).isSome || !field.admits value then none
  else some ((field, value) :: given)

/-- What the arguments behind the name of a command ask for. -/
def readOptions (fields : List (String × Field)) (command? : Given → Option Command) :
    Given → List String → Request
  | given, [] => ((command? given).map .run).getD .misuse
  | given, arg :: rest =>
    match Word.ofText arg with
    | .divider => if rest = [] then ((command? given).map .run).getD .misuse else .misuse
    | .plain => .misuse
    | .short letters =>
      match takeLetters false letters with
      | some request => request
      | none => readOptions fields command? given rest
    | .long name value? =>
      match fields.lookup (String.ofList name) with
      | some field =>
        match value? with
        | some value =>
          match given.add? field value with
          | some given => readOptions fields command? given rest
          | none => .misuse
        | none =>
          match rest with
          | [] => .misuse
          | value :: rest =>
            if Word.ofText value = .plain then
              match given.add? field value.toList with
              | some given => readOptions fields command? given rest
              | none => .misuse
            else .misuse
      | none =>
        match value?, Flag.ofName? name with
        | none, some flag =>
          match takeFlag false flag with
          | some request => request
          | none => readOptions fields command? given rest
        | _, _ => .misuse

/-! ## Commands -/

/-- The names that may stand behind `help`. -/
def helpTopics : List String := ["replay", "frame", "help"]

/-- What the arguments behind `help` ask for. -/
def readTopic : List String → Request
  | [] => .help
  | [topic] => if topic ∈ helpTopics then .help else .misuse
  | _ => .misuse

/-- What arguments ask for. -/
def Request.ofArguments : List String → Request
  | [] => .misuse
  | arg :: rest =>
    match arg with
    | "replay" => readOptions replayFields Given.replay? [] rest
    | "frame" => readOptions frameFields Given.frame? [] rest
    | "help" => readTopic rest
    | _ =>
      match Word.ofText arg with
      | .short letters => (takeLetters true letters).getD (ofArguments rest)
      | .long name none =>
        match Flag.ofName? name with
        | some flag => (takeFlag true flag).getD (ofArguments rest)
        | none => .misuse
      | _ => .misuse

end SpriteStage.CommandLine
