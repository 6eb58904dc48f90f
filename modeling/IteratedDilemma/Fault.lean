import IteratedDilemma.Json.Diagnostic
import IteratedDilemma.Json.Parser
import IteratedDilemma.Text.Octets
import IteratedDilemma.Time.Timestamp
import IteratedDilemma.Tree.LogicTree

/-! What can go wrong, as causes. Each cause has one wording and belongs to one family; some callers
handle only the faults of certain families. -/
namespace IteratedDilemma
set_option autoImplicit false

/-- A way in which settings are not fit for a tournament. -/
inductive SettingsViolation where
  | rounds
  | seed (shown : Text)
  | arenaFile
deriving DecidableEq

def SettingsViolation.message : SettingsViolation → Text
  | rounds => "rounds_per_match must be a positive integer"
  | seed shown => "seed must be an integer, got " ++ shown
  | arenaFile => "arena_file is required"

/-- Why an operation on files failed. -/
inductive FileFault where
  | missing (path : Text)
  | isFolder (path : Text)
  | exists (path : Text)
  | notInFolder (path : Text)
  | longName (path : Text)
  | longDraftName (name : Text)
  | replacesFolder (name path : Text)
  | busy (name path : Text)
  | noFolder (path : Text)
  | full
  | nullInPath
  /-- A path or a content has no octets. -/
  | unencodable (fault : EncodingFault)
deriving DecidableEq

/-- How messages show the draft of a file, which is to be put into the place of the file. -/
def draftText (name : Text) : Text :=
  Text.quoted ("." ++ name ++ ".*.tmp")

def FileFault.message : FileFault → Text
  | missing path => "[Errno 2] No such file or directory: " ++ path.quoted
  | isFolder path => "[Errno 21] Is a directory: " ++ path.quoted
  | «exists» path => "[Errno 17] File exists: " ++ path.quoted
  | notInFolder path => "[Errno 20] Not a directory: " ++ path.quoted
  | longName path => "[Errno 36] File name too long: " ++ path.quoted
  | longDraftName name => "[Errno 36] File name too long: " ++ draftText name
  | replacesFolder name path =>
    "[Errno 21] Is a directory: " ++ draftText name ++ " -> " ++ path.quoted
  | busy name path =>
    "[Errno 16] Device or resource busy: " ++ draftText name ++ " -> " ++ path.quoted
  | noFolder path => "Cannot save file into a non-existent directory: '" ++ path ++ "'"
  | full => "disk full"
  | nullInPath => "embedded null byte"
  | unencodable fault => fault.message

/-- Why what stands at an address of the net cannot be fetched. -/
inductive AddressFault where
  | noServer
  | noFileServer
  | unknownType (type : Text)
  | unreachable (fault : FileFault)
deriving DecidableEq

def AddressFault.message (fault : AddressFault) : Text :=
  "<urlopen error " ++ (match fault with
    | noServer => Text.ofString "no host given"
    | noFileServer => "ftp error: no host given"
    | unknownType type => "unknown url type: " ++ type
    | unreachable fault => fault.message) ++ ">"

/-- The cause of a failure. A text called `type` names the type of the value at hand; one called
`shown` is that value as messages show it. -/
inductive Fault where
  /-- The text denotes no whole number. -/
  | notWhole (text : Text) (failure : IntegerText.Failure)
  | notNumeric (type : String)
  | wholeOfNotANumber
  | wholeOfInfinity
  /-- A whole number has no floating-point number near it. -/
  | tooLargeForFloat
  /-- A whole number has too many digits to be written. -/
  | tooLongToWrite
  /-- A value is asked for an ability that it has not. -/
  | lacks (type ability : String)
  | notIterable (type : String)
  | noMembers (type : String)
  /-- A pair is expected of a value without items. -/
  | notPair (type : String)
  /-- A pair is expected of another number of items. -/
  | pairOf (count : Nat)
  /-- A list is asked for an item by a value of this type. -/
  | listBy (type : String)
  /-- A history is asked for a move by a value of this type. -/
  | historyBy (type : String)
  /-- A text is asked for the value under a name. -/
  | textByName
  | notSubscriptable (type : String)
  /-- A value of this type cannot be looked up. -/
  | unhashable (type : String)
  | badSlice
  | paddedList
  /-- Two values cannot be compared by `<` or `>`. -/
  | unordered (operator first second : String)
  /-- Two values have no sum. -/
  | notAddable (first second : String)
  /-- Among texts to be joined there is a value of another type. -/
  | notJoinable (position : Nat) (type : String)
  /-- A clause or condition is made without a part that it needs. -/
  | lackingPart (maker part : String)
  /-- A clause or condition is made with a part that it cannot have. -/
  | surplusPart (maker : String) (part : Text)
  | notAnIndex (type : String)
  | notAPath (type : String)
  | missingField (name : Json)
  | timestamp (fault : TimeFault)
  | unreadableJson (error : Json.ReadError)
  | unknownMove (shown : Text)
  | unknownAction (shown : Text)
  | unknownMode (shown : Text)
  | notAMember (shown : Text) (ofDomain : String)
  | noFixedMove
  | condition (shown : Text) (cause : Fault)
  | clause (shown : Text) (cause : Fault)
  | notClauses (type : String)
  | brokenRules (violations : List TreeViolation)
  | unknownBuiltin (name : Text)
  | noBuiltinTree (name : Text)
  | negativeRounds (shown : Text)
  /-- A move is to be read from a script without moves. -/
  | emptyScript
  | seedVariable (shown : Text)
  | settings (violations : List SettingsViolation)
  | negativeSeed
  /-- A seed is no whole number. -/
  | noSeed (shown : Text)
  | file (fault : FileFault)
  | address (fault : AddressFault)
  | unreadableArena (path : Text) (cause : Fault)
  | malformedArena (path : Text) (cause : Fault)
  | notAnArena (path : Text) (type : String)
  | unwritableArena (path : Text) (cause : Fault)
  | unknownStrategies (kind : Text) (ids : List Text)
  | blankName
  /-- A pass is ended that nobody began. -/
  | nothingHeld
  /-- An observer of a pass gave up. -/
  | observer (text : Text)

/-- The families of faults. -/
inductive FaultFamily where
  | value
  | type
  | overflow
  | arithmetic
  | attribute
  | key
  | tree
  | json
  | encoding
  | recursion
  | runtime
  | storage
  | missingFile
  | isFolder
  | fileExists
  | notInFolder
  | address
  | otherFile
deriving DecidableEq

namespace FaultFamily

/-- Faults of a value of the right type, with the special cases of trees, documents and texts. -/
def isValue : FaultFamily → Bool
  | value | tree | json | encoding => true
  | _ => false

/-- Faults of files, of this machine or of another. -/
def isFile : FaultFamily → Bool
  | missingFile | isFolder | fileExists | notInFolder | address | otherFile => true
  | _ => false

end FaultFamily

def FileFault.family : FileFault → FaultFamily
  | missing _ => .missingFile
  | isFolder _ | replacesFolder _ _ => .isFolder
  | «exists» _ => .fileExists
  | notInFolder _ => .notInFolder
  | longName _ | longDraftName _ | busy _ _ | noFolder _ | full => .otherFile
  | nullInPath => .value
  | unencodable _ => .encoding

namespace Fault

def family : Fault → FaultFamily
  | notNumeric _ | notIterable _ | noMembers _ | notPair _ | listBy _ | historyBy _ | textByName
  | notSubscriptable _ | unhashable _ | badSlice | paddedList | unordered _ _ _ | notAddable _ _
  | notJoinable _ _ | lackingPart _ _ | surplusPart _ _ | notAnIndex _ | notAPath _
  | noSeed _ => .type
  | wholeOfInfinity | tooLargeForFloat => .overflow
  | emptyScript => .arithmetic
  | lacks _ _ => .attribute
  | missingField _ => .key
  | unreadableJson (.misplaced _ _ _ _) => .json
  | unreadableJson (.tooDeep _) => .recursion
  | condition _ _ | clause _ _ | notClauses _ | brokenRules _ => .tree
  | file fault => fault.family
  | address _ => .address
  | unreadableArena _ _ | malformedArena _ _ | notAnArena _ _ | unwritableArena _ _
  | unknownStrategies _ _ => .storage
  | nothingHeld | observer _ => .runtime
  | _ => .value

/-- The names of the built-in strategies, sorted. -/
def builtinChoice : String :=
  " (choose from alwaysBetray, alwaysCooperate, grudger, random, titForTat)"

def message : Fault → Text
  | notWhole text .malformed =>
    "invalid literal for int() with base 10: " ++ text.quoted.take 200
  | notWhole _ (.tooLong digits) => IntegerText.tooLongMessage digits
  | notNumeric type =>
    s!"int() argument must be a string, a bytes-like object or a real number, not '{type}'"
  | wholeOfNotANumber => "cannot convert float NaN to integer"
  | wholeOfInfinity => "cannot convert float infinity to integer"
  | tooLargeForFloat => "int too large to convert to float"
  | tooLongToWrite => IntegerText.limitMessage ""
  | lacks type ability => s!"'{type}' object has no attribute '{ability}'"
  | notIterable type => s!"'{type}' object is not iterable"
  | noMembers type => s!"argument of type '{type}' is not iterable"
  | notPair type => s!"cannot unpack non-iterable {type} object"
  | pairOf count =>
    if count < 2 then s!"not enough values to unpack (expected 2, got {count})"
    else "too many values to unpack (expected 2)"
  | listBy type => s!"list indices must be integers or slices, not {type}"
  | historyBy type => s!"tuple indices must be integers or slices, not {type}"
  | textByName => "string indices must be integers, not 'str'"
  | notSubscriptable type => s!"'{type}' object is not subscriptable"
  | unhashable type => s!"unhashable type: '{type}'"
  | badSlice => "slice indices must be integers or None or have an __index__ method"
  | paddedList => "unsupported format string passed to list.__format__"
  | unordered operator first second =>
    s!"'{operator}' not supported between instances of '{first}' and '{second}'"
  | notAddable first second => s!"unsupported operand type(s) for +: '{first}' and '{second}'"
  | notJoinable position type =>
    s!"sequence item {position}: expected str instance, {type} found"
  | lackingPart maker part => s!"{maker}() missing 1 required positional argument: '{part}'"
  | surplusPart maker part => maker ++ "() got an unexpected keyword argument '" ++ part ++ "'"
  | notAnIndex type => s!"'{type}' object cannot be interpreted as an integer"
  | notAPath type => s!"expected str, bytes or os.PathLike object, not {type}"
  | missingField name => name.shown
  | timestamp fault => fault.message
  | unreadableJson error => error.message
  | unknownMove shown => "Unknown move: " ++ shown
  | unknownAction shown => "Unknown action: " ++ shown
  | unknownMode shown => "Unknown match mode: " ++ shown
  | notAMember shown ofDomain => shown ++ " is not a valid " ++ ofDomain
  | noFixedMove => "RANDOM action has no fixed move"
  | condition shown cause => "Invalid condition " ++ shown ++ ": " ++ cause.message
  | clause shown cause => "Invalid clause " ++ shown ++ ": " ++ cause.message
  | notClauses type => s!"Expected a list of clauses, got {type}"
  | brokenRules violations =>
    "; ".intercalate (violations.map TreeViolation.message)
  | unknownBuiltin name => "Unknown built-in strategy: " ++ name ++ builtinChoice
  | noBuiltinTree name => "No logic tree for built-in strategy: " ++ name ++ builtinChoice
  | negativeRounds shown => "rounds must be non-negative, got " ++ shown
  | emptyScript => "integer modulo by zero"
  | seedVariable shown => "DILEMMA_ARENA_SEED must be an integer, got " ++ shown
  | settings violations =>
    "Invalid configuration: " ++ Text.joined "; " (violations.map SettingsViolation.message)
  | negativeSeed => "expected non-negative integer"
  | noSeed shown => "SeedSequence expects int or sequence of ints for entropy not " ++ shown
  | file fault => fault.message
  | address fault => fault.message
  | unreadableArena path cause => "Could not read arena file " ++ path ++ ": " ++ cause.message
  | malformedArena path cause => "Malformed arena file " ++ path ++ ": " ++ cause.message
  | notAnArena path type =>
    "Malformed arena file " ++ path ++ ": expected a JSON object, got " ++ type
  | unwritableArena path cause => "Could not write arena file " ++ path ++ ": " ++ cause.message
  | unknownStrategies kind ids =>
    "Cannot apply " ++ kind ++ " outcome: unknown strategy id(s) " ++ Text.joined ", " ids
  | blankName => "Strategy name is required"
  | nothingHeld => "release unlocked lock"
  | observer text => text

end Fault
end IteratedDilemma
