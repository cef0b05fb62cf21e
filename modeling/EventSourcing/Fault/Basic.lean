import EventSourcing.Datum.Pairs
import EventSourcing.Fault.FieldErrors
import EventSourcing.Files.Tree
import EventSourcing.Json.Reader
import EventSourcing.Time.Timestamp

/-!
# Faults

Everything that can go wrong, as a cause with its data. `Fault.message` is the
only place where causes are put into words, `Fault.className` names the class
that callers see, and `Fault.family` says which handlers of the library take a
fault over: the log store wraps the families of values, types and the system, a
command records faults of the value family under the field it was setting.
-/

set_option autoImplicit false

namespace EventSourcing

/-- Kinds of fault without data of their own; they are raised with arguments,
which make their message. -/
inductive Fault.Kind where
  | general
  | runtime
  | value
  | type
  | key
  | system
  | division
  | rejectedValue
  | command
  | store
  | application
deriving DecidableEq, Repr

/-- What a fault is made from: the data of its class by name, and how many of them
cannot be left out. -/
structure Fault.Signature where
  className : String
  parameters : List String
  required : Nat
deriving DecidableEq, Repr

inductive Unencodable where
  | keyNotText (key : Datum)
  | keyNotScalar (kind : String)
  | noJson (kind : String)
  | tooManyDigits
deriving Repr

def Unencodable.message : Unencodable → String
  | .keyNotText key => s!"payload keys must be strings, got {key.literal}"
  | .keyNotScalar kind => s!"keys must be str, int, float, bool or None, not {kind}"
  | .noJson kind => s!"Object of type {kind} is not JSON serializable"
  | .tooManyDigits =>
    s!"Exceeds the limit ({Json.maxDigits} digits) for integer string conversion; " ++
      "use sys.set_int_max_str_digits() to increase the limit"

/-- The cause of a failure. -/
inductive Fault where
  | validation (errors : FieldErrors)
  | eventSealed (eventName field : Datum)
  | definition (commandName detail : Datum)
  | unknownField (commandName field : Datum)
  | storeRead (location detail : Datum)
  | storeWrite (location detail written : Datum)
  | duplicateProjection (name : Datum)
  | raised (kind : Fault.Kind) (arguments : List Datum)
  | json (fault : Json.Fault)
  | utf8 (fault : Utf8.Fault)
  | halves (run : Utf8.Halves)
  | timestamp (fault : Timestamp.Fault)
  | duration (fault : Duration.Fault)
  | secondsNotNumber (kind : String)
  | outOfCalendar
  | mixedMoments
  | clockWithoutOffset
  | unencodable (reason : Unencodable)
  | recordNotObject (kind : String)
  | payloadNotObject
  | file (fault : FileFault)
  | lacksAttribute (kind name : String)
  | computedAttribute (kind name : String)
  | access (fault : AccessFault)
  | pairs (fault : PairsFault)
  | notCallable (name : String)
  | notBuilder (kind : String)
  | wrongArity (signature : Fault.Signature) (given : Nat)
  | notWhole (kind : String)
  | tooLarge
  | notFault
  | wrongAttribute (name wanted : String)
  | readOnlyAttribute (kind name : String)
  | notPath (kind : String)
  | octetsPath
  | octetsNotText
  | unknownStore (backend : Datum)
  | missingLog
  | tooDeep
  | failedExpectation
deriving Repr, Inhabited

/-- The handlers of the library that take a fault over. -/
inductive Fault.Family where
  | value
  | type
  | system
  | other
deriving DecidableEq, Repr

namespace Fault

def systemClasses : List (Int × String) :=
  [(1, "PermissionError"), (2, "FileNotFoundError"), (3, "ProcessLookupError"),
    (4, "InterruptedError"), (10, "ChildProcessError"), (11, "BlockingIOError"),
    (13, "PermissionError"), (17, "FileExistsError"), (20, "NotADirectoryError"),
    (21, "IsADirectoryError"), (32, "BrokenPipeError"), (103, "ConnectionAbortedError"),
    (104, "ConnectionResetError"), (108, "BrokenPipeError"), (110, "TimeoutError"),
    (111, "ConnectionRefusedError"), (114, "BlockingIOError"), (115, "BlockingIOError")]

/-- The greatest number of arguments of a system fault that have a meaning: number,
text, path, an unused one, and a second path. -/
def maxSystemArguments : Nat := 5

/-- The class of a system fault. The error number counts only when a text follows
it and no more arguments are there than have a meaning. -/
def systemClass (arguments : List Datum) : String :=
  if maxSystemArguments < arguments.length then "OSError"
  else
    match arguments with
    | .int number :: _ :: _ => (systemClasses.lookup number).getD "OSError"
    | .bool value :: _ :: _ => (systemClasses.lookup (if value then 1 else 0)).getD "OSError"
    | _ => "OSError"

def Kind.className (kind : Kind) (arguments : List Datum) : String :=
  match kind with
  | .general => "Exception"
  | .runtime => "RuntimeError"
  | .value => "ValueError"
  | .type => "TypeError"
  | .key => "KeyError"
  | .system => systemClass arguments
  | .division => "ZeroDivisionError"
  | .rejectedValue => "ValueParseError"
  | .command => "CommandError"
  | .store => "EventStoreError"
  | .application => "ApplicationError"

/-- The kinds of fault by their class; the class of a system fault without an error
number stands for all of them. -/
def kinds : List (String × Kind) :=
  [Kind.general, .runtime, .value, .type, .key, .system, .division, .rejectedValue, .command,
    .store, .application].map fun kind => (kind.className [], kind)

/-- What was written before a system fault that stopped a write without waiting: a
number in the place of the path. -/
def writtenBefore? (arguments : List Datum) : Option Datum :=
  match arguments with
  | _ :: _ :: third :: _ =>
    if systemClass arguments = "BlockingIOError" && third.isNumber then some third else none
  | _ => none

/-- The fault of a kind with arguments. Where a count is expected, a number that is
none is a fault of its own. -/
def raisedWith (kind : Kind) (arguments : List Datum) : Except Fault Fault :=
  match kind, writtenBefore? arguments with
  | .system, some (.int number) =>
    if Datum.canCount number then .ok (.raised kind arguments) else .error .tooLarge
  | .system, some (.bool _) => .ok (.raised kind arguments)
  | .system, some other => .error (.notWhole other.kindName)
  | _, _ => .ok (.raised kind arguments)

def signatures : List Signature :=
  [⟨"CommandDefinitionError", ["command_name", "detail"], 2⟩,
    ⟨"UnknownFieldError", ["command_name", "field"], 2⟩,
    ⟨"EventStoreReadError", ["location", "detail"], 2⟩,
    ⟨"EventStoreWriteError", ["location", "detail", "written"], 2⟩,
    ⟨"EventSealedError", ["event_name", "attribute"], 2⟩,
    ⟨"DuplicateProjectionError", ["projection_name"], 1⟩]

/-- The fault of a class made from data. A class without a signature is one of the
kinds, or else the general one; a class with a signature needs as many data as that
says. Events written before a failure count as none unless their number is given. -/
def named (className : String) (arguments : List Datum) : Except Fault Fault :=
  match signatures.find? (·.className = className) with
  | none => raisedWith ((kinds.lookup className).getD .general) arguments
  | some signature =>
    match className, arguments with
    | "CommandDefinitionError", [commandName, detail] => .ok (.definition commandName detail)
    | "UnknownFieldError", [commandName, field] => .ok (.unknownField commandName field)
    | "EventStoreReadError", [location, detail] => .ok (.storeRead location detail)
    | "EventStoreWriteError", [location, detail] => .ok (.storeWrite location detail (.int 0))
    | "EventStoreWriteError", [location, detail, written] =>
      .ok (.storeWrite location detail written)
    | "EventSealedError", [eventName, field] => .ok (.eventSealed eventName field)
    | "DuplicateProjectionError", [name] => .ok (.duplicateProjection name)
    | _, _ => .error (.wrongArity signature arguments.length)

/-- The wording of a signature that does not fit: how many data it takes, itself
counted as one, or which of those needed are missing. -/
def Signature.message (signature : Signature) (given : Nat) : String :=
  let most := signature.parameters.length
  if most < given then
    let taken :=
      if signature.required = most then s!"{most + 1}"
      else s!"from {signature.required + 1} to {most + 1}"
    s!"{signature.className}.__init__() takes {taken} positional arguments " ++
      s!"but {given + 1} were given"
  else
    let missing := (signature.parameters.take signature.required).drop given
    let arguments := if missing.length = 1 then "argument" else "arguments"
    let names := " and ".intercalate (missing.map Text.quoted)
    s!"{signature.className}.__init__() missing {missing.length} required positional " ++
      s!"{arguments}: {names}"

def className : Fault → String
  | .validation _ => "ValidationError"
  | .eventSealed _ _ => "EventSealedError"
  | .definition _ _ => "CommandDefinitionError"
  | .unknownField _ _ => "UnknownFieldError"
  | .storeRead _ _ => "EventStoreReadError"
  | .storeWrite _ _ _ => "EventStoreWriteError"
  | .duplicateProjection _ => "DuplicateProjectionError"
  | .raised kind arguments => kind.className arguments
  | .json (.malformed ..) => "JSONDecodeError"
  | .json (.tooManyDigits _) => "ValueError"
  | .json (.tooDeep _) | .tooDeep => "RecursionError"
  | .utf8 _ => "UnicodeDecodeError"
  | .halves _ => "UnicodeEncodeError"
  | .timestamp _ => "ValueError"
  | .duration .notANumber => "ValueError"
  | .duration _ => "OverflowError"
  | .secondsNotNumber _ => "TypeError"
  | .outOfCalendar => "OverflowError"
  | .mixedMoments => "TypeError"
  | .clockWithoutOffset => "ValueError"
  | .unencodable .tooManyDigits => "ValueError"
  | .unencodable _ => "TypeError"
  | .recordNotObject _ => "ValueError"
  | .payloadNotObject => "ValueError"
  | .file fault =>
    match fault.reason.number? with
    | some number => (systemClasses.lookup (number : Int)).getD "OSError"
    | none => "ValueError"
  | .lacksAttribute _ _ => "AttributeError"
  | .computedAttribute _ _ => "AttributeError"
  | .access (.missingKey _) => "KeyError"
  | .access (.outOfRange _) | .access .tooLarge => "IndexError"
  | .access _ => "TypeError"
  | .pairs (.wrongLength ..) => "ValueError"
  | .pairs _ => "TypeError"
  | .notCallable _ => "TypeError"
  | .notBuilder _ => "TypeError"
  | .wrongArity .. => "TypeError"
  | .notWhole _ => "TypeError"
  | .tooLarge => "ValueError"
  | .notFault => "TypeError"
  | .wrongAttribute .. => "TypeError"
  | .readOnlyAttribute .. => "AttributeError"
  | .notPath _ => "TypeError"
  | .octetsPath => "TypeError"
  | .octetsNotText => "TypeError"
  | .unknownStore _ => "ImproperlyConfigured"
  | .missingLog => "ImproperlyConfigured"
  | .failedExpectation => "AssertionError"

def family : Fault → Family
  | .json (.tooDeep _) => .other
  | .raised .value _ | .raised .rejectedValue _ | .json _ | .utf8 _ | .halves _ | .timestamp _
  | .duration .notANumber | .clockWithoutOffset | .unencodable .tooManyDigits
  | .recordNotObject _ | .payloadNotObject | .pairs (.wrongLength ..) | .tooLarge => .value
  | .access (.missingKey _) | .access (.outOfRange _) | .access .tooLarge => .other
  | .raised .type _ | .secondsNotNumber _ | .mixedMoments | .unencodable _ | .access _
  | .pairs _ | .notCallable _ | .notBuilder _ | .wrongArity .. | .notWhole _ | .notFault
  | .wrongAttribute .. | .notPath _ | .octetsPath | .octetsNotText => .type
  | .file fault => if fault.reason.number?.isSome then .system else .value
  | .raised .system _ => .system
  | _ => .other

def argumentsMessage : List Datum → String
  | [] => ""
  | [single] => single.plain
  | several => (Datum.tuple several).literal

/-- The paths of a system fault after its number and text: one, or a source and a
destination. Without the first path there is no second one. -/
def systemPaths : List Datum → List Datum
  | [] | .null :: _ => []
  | [path, _, .null] => [path]
  | [path, _, destination] => [path, destination]
  | path :: _ => [path]

def systemMessage (arguments : List Datum) : String :=
  match arguments with
  | number :: text :: more =>
    if maxSystemArguments < arguments.length then argumentsMessage arguments
    else
      let base := s!"[Errno {number.plain}] {text.plain}"
      match if (writtenBefore? arguments).isSome then [] else systemPaths more with
      | [] => base
      | paths => base ++ ": " ++ " -> ".intercalate (paths.map Datum.literal)
  | arguments => argumentsMessage arguments

/-- The message of a fault raised with arguments. A single key is shown as a
literal. -/
def Kind.message (kind : Kind) (arguments : List Datum) : String :=
  match kind, arguments with
  | .key, [single] => single.literal
  | .system, arguments => systemMessage arguments
  | _, arguments => argumentsMessage arguments

def message : Fault → String
  | .validation errors => errors.text
  | .eventSealed eventName field =>
    s!"Event '{eventName.plain}' has been stored and is immutable; " ++
      s!"cannot set '{field.plain}'."
  | .definition commandName detail => s!"Command '{commandName.plain}': {detail.plain}"
  | .unknownField commandName field =>
    s!"Command '{commandName.plain}' has no field '{field.plain}'."
  | .storeRead location detail =>
    s!"Cannot replay events from {location.plain}: {detail.plain}"
  | .storeWrite location detail written =>
    s!"Cannot store events in {location.plain} " ++
      s!"({written.plain} written before failure): {detail.plain}"
  | .duplicateProjection name => s!"Projection '{name.plain}' is already registered."
  | .raised kind arguments => kind.message arguments
  | .json fault => fault.message
  | .utf8 fault => fault.message
  | .halves run => run.message
  | .timestamp fault => fault.message
  | .duration fault => fault.message
  | .secondsNotNumber kind => s!"unsupported type for timedelta seconds component: {kind}"
  | .outOfCalendar => "date value out of range"
  | .mixedMoments => "can't subtract offset-naive and offset-aware datetimes"
  | .clockWithoutOffset => "FixedClock requires timezone-aware datetime."
  | .unencodable reason => reason.message
  | .recordNotObject kind => s!"expected a JSON object, got {kind}"
  | .payloadNotObject => "Payload must be a JSON object"
  | .file fault => fault.message
  | .lacksAttribute kind name => s!"'{kind}' object has no attribute '{name}'"
  | .computedAttribute kind name => s!"property '{name}' of '{kind}' object has no setter"
  | .access fault => fault.message
  | .pairs fault => fault.message
  | .notBuilder kind => s!"'{kind}' object is not callable"
  | .wrongArity signature given => signature.message given
  | .notWhole kind => s!"'{kind}' object cannot be interpreted as an integer"
  | .tooLarge => "cannot fit 'int' into an index-sized integer"
  | .notFault => "exceptions must derive from BaseException"
  | .wrongAttribute name wanted => s!"{name} must be set to {wanted}"
  | .readOnlyAttribute kind name =>
    s!"attribute '{name}' of '{kind}' objects is not writable"
  | .notCallable name => s!"Projection '{name}' must be callable."
  | .notPath kind => s!"expected str, bytes or os.PathLike object, not {kind}"
  | .octetsPath =>
    "argument should be a str object or an os.PathLike object returning str, " ++
      "not <class 'bytes'>"
  | .octetsNotText => "a bytes-like object is required, not 'str'"
  | .unknownStore backend =>
    s!"ESS_EVENT_STORE '{backend.plain}' not valid. Must be one of: ['disk', 'memory']"
  | .missingLog => "ESS_EVENT_LOG must be set when ESS_EVENT_STORE is 'disk'."
  | .tooDeep => "maximum recursion depth exceeded"
  | .failedExpectation => ""

/-- The arguments that a fault keeps: those of a system fault with paths are its
number and its text. -/
def keptArguments (kind : Kind) (arguments : List Datum) : List Datum :=
  match kind, arguments with
  | .system, _ :: _ :: more =>
    let isPlain := maxSystemArguments < arguments.length || (writtenBefore? arguments).isSome ||
      (systemPaths more).isEmpty
    if isPlain then arguments else arguments.take 2
  | _, _ => arguments

def literal (fault : Fault) : String :=
  match fault with
  | .validation errors => errors.literal
  | .raised kind arguments =>
    match keptArguments kind arguments with
    | [single] => fault.className ++ "(" ++ single.literal ++ ")"
    | several => fault.className ++ (Datum.tuple several).literal
  | other => other.className ++ "(" ++ Text.quoted other.message ++ ")"

/-- The data of a fault under its names, for the faults that carry any. -/
def attributes : Fault → List (String × Datum)
  | .eventSealed eventName field => [("event_name", eventName), ("attribute", field)]
  | .definition commandName detail => [("command_name", commandName), ("detail", detail)]
  | .unknownField commandName field => [("command_name", commandName), ("field", field)]
  | .storeRead location detail => [("location", location), ("detail", detail)]
  | .storeWrite location detail written =>
    [("location", location), ("detail", detail), ("written", written)]
  | .duplicateProjection name => [("projection_name", name)]
  | _ => []

end Fault

end EventSourcing
