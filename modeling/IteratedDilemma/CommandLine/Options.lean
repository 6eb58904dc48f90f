import IteratedDilemma.Journal
import IteratedDilemma.Number.IntegerText

/-! The options of the command line. Their names may be cut short as long as only one option starts
so; a value follows its option or stands behind an equals sign; of a repeated option the last one
counts. -/
namespace IteratedDilemma.CommandLine
set_option autoImplicit false

/-- What the program is asked to do. -/
inductive Mode where
  | save
  | tournament
  | standings
  | logs
  | resetScores
  | clear
  | exportResults
  | seedBuiltins
deriving DecidableEq

namespace Mode

def all : List Mode :=
  [save, tournament, standings, logs, resetScores, clear, exportResults, seedBuiltins]

def word : Mode → String
  | save => "save"
  | tournament => "tournament"
  | standings => "standings"
  | logs => "logs"
  | resetScores => "reset-scores"
  | clear => "clear"
  | exportResults => "export"
  | seedBuiltins => "seed-builtins"

def ofWord? (t : Text) : Option Mode :=
  all.find? fun mode => mode.word = t

end Mode

structure Options where
  mode : Mode
  arena : Option Text
  config : Option Text
  seed : Option Int
  rounds : Option Int
  name : Option Text
  logicFile : Option Text
  author : Option Text
  authorId : Text
  limit : Int
  outputDir : Option Text
  isConfirmed : Bool
  logLevel : Level

/-- The options if none is given. -/
def Options.default : Options where
  mode := .standings
  arena := none
  config := none
  seed := none
  rounds := none
  name := none
  logicFile := none
  author := none
  authorId := "cli"
  limit := 20
  outputDir := none
  isConfirmed := false
  logLevel := .warning

/-! ## Names -/

inductive Flag where
  | help
  | mode
  | arena
  | config
  | seed
  | rounds
  | name
  | logicFile
  | author
  | authorId
  | limit
  | outputDir
  | yes
  | logLevel
deriving DecidableEq

namespace Flag

def all : List Flag :=
  [help, mode, arena, config, seed, rounds, name, logicFile, author, authorId, limit, outputDir,
    yes, logLevel]

def word : Flag → String
  | help => "--help"
  | mode => "--mode"
  | arena => "--arena"
  | config => "--config"
  | seed => "--seed"
  | rounds => "--rounds"
  | name => "--name"
  | logicFile => "--logic-file"
  | author => "--author"
  | authorId => "--author-id"
  | limit => "--limit"
  | outputDir => "--output-dir"
  | yes => "--yes"
  | logLevel => "--log-level"

def takesValue : Flag → Bool
  | help | yes => false
  | _ => true

def ofWord? (t : Text) : Option Flag :=
  all.find? fun flag => flag.word = t

/-- The flags that a name may stand for: the one that it names, else those that start with it. -/
def candidates (t : Text) : List Flag :=
  match ofWord? t with
  | some flag => [flag]
  | none => all.filter fun flag => t.isPrefixOf (Text.ofString flag.word)

/-- The options with a value set, if the value is of the right form. -/
def set (flag : Flag) (o : Options) (value : Text) : Option Options :=
  match flag with
  | help | yes => none
  | mode => (Mode.ofWord? value).map fun mode => { o with mode }
  | arena => some { o with arena := some value }
  | config => some { o with config := some value }
  | seed => (IntegerText.read value).toOption.map fun n => { o with seed := some n }
  | rounds => (IntegerText.read value).toOption.map fun n => { o with rounds := some n }
  | name => some { o with name := some value }
  | logicFile => some { o with logicFile := some value }
  | author => some { o with author := some value }
  | authorId => some { o with authorId := value }
  | limit => (IntegerText.read value).toOption.map fun n => { o with limit := n }
  | outputDir => some { o with outputDir := some value }
  | logLevel => (Level.ofWord? value).map fun level => { o with logLevel := level }

end Flag

/-! ## Arguments one by one -/

/-- What an argument is by itself. -/
inductive Token where
  /-- A flag, with what stands behind its equals sign. -/
  | flag (flag : Flag) (value : Option Text)
  | plain (text : Text)
  | separator
  | unknown

/-- Whether a text reads, behind a minus sign, as a number with or without a fraction. -/
def isMagnitude (t : Text) : Bool :=
  let isDigit (c : CodePoint) : Bool := (Text.decimalValue? c).isSome
  let t := if t.getLast? = some '\n' then t.dropLast else t
  match t.dropWhile isDigit with
  | [] => !t.isEmpty
  | c :: places => c == '.' && !places.isEmpty && places.all isDigit

/-- Whether all that follows a short flag for help, as its value or as further flags, asks for help
again. -/
def isHelpGroup (letters : Text) : Bool :=
  let value := if letters.head? = some '=' then letters.drop 1 else letters
  letters.isEmpty || (!value.isEmpty && value.all fun c => c == CodePoint.ofChar 'h')

/-- A text cut in two at its first equals sign. -/
def cutAtEquals (t : Text) : Text × Option Text :=
  let isOther (c : CodePoint) : Bool := c != '='
  (t.takeWhile isOther,
    match t.dropWhile isOther with
    | [] => none
    | _ :: value => some value)

/-- What an argument is that starts with a hyphen, or none if it is short for several flags. -/
def tokenOfFlag (rest argument : Text) : Option Token :=
  if rest.head? = some 'h' then
    some (.flag .help (if isHelpGroup (rest.drop 1) then none else some []))
  else
    let (name, value) := cutAtEquals argument
    match if rest.head? = some '-' then Flag.candidates name else [] with
    | [flag] => some (.flag flag value)
    | _ :: _ :: _ => none
    | [] =>
      some (if isMagnitude rest || argument.contains ' ' then .plain argument else .unknown)

/-- The token of an argument, or none if it is short for several flags. -/
def tokenOf (argument : Text) : Option Token :=
  match argument with
  | [] => some (.plain [])
  | first :: rest =>
    if first ≠ '-' ∨ rest.isEmpty then some (.plain argument) else tokenOfFlag rest argument

/-- The tokens of arguments. Behind a separator everything is plain. -/
def tokens : List Text → Option (List Token)
  | [] => some []
  | argument :: rest =>
    if argument = "--" then some (.separator :: rest.map .plain)
    else do
      let token ← tokenOf argument
      return token :: (← tokens rest)

/-! ## All arguments -/

/-- What the arguments come to. -/
inductive Request where
  | run (options : Options)
  | help
  | refused

/-- Goes through the tokens; `isStray` tells whether one was left over. The first fault ends it, as
does a flag for help. -/
def requestOf (o : Options) (isStray : Bool) : List Token → Request
  | [] => if isStray then .refused else .run o
  | .flag .help none :: _ => .help
  | .flag .yes none :: rest => requestOf { o with isConfirmed := true } isStray rest
  | .flag flag (some value) :: rest =>
    match flag.set o value with
    | some o => requestOf o isStray rest
    | none => .refused
  | .flag flag none :: .plain value :: rest =>
    match flag.set o value with
    | some o => requestOf o isStray rest
    | none => .refused
  | .flag _ none :: _ => .refused
  | _ :: rest => requestOf o true rest

/-- The request of the arguments. -/
def Request.ofArguments (arguments : List Text) : Request :=
  match tokens arguments with
  | some tokens => requestOf .default false tokens
  | none => .refused

/-- All options on one line each. -/
def usage : String :=
  "\n".intercalate ("options:" :: Flag.all.map fun flag =>
    "  " ++ flag.word ++ (if flag.takesValue then " VALUE" else ""))

end IteratedDilemma.CommandLine
