import EventSourcing.Testing.Script

/-!
# Templates of values

A script describes a value once and makes it anew whenever it runs: a not-a-number
or an opaque object stands for another one each time. A template may describe what
no value can be, such as a mapping with a key that can change; making the value then
raises the fault. Numbers are written as text, because a script may need any of them.
-/

set_option autoImplicit false

namespace EventSourcing.Testing

def splitSign : List Char → Bool × List Char
  | '-' :: rest => (true, rest)
  | '+' :: rest => (false, rest)
  | rest => (false, rest)

def wholeNumber? (text : String) : Except Fault Datum :=
  let (negative, digits) := splitSign (Text.strip text).toList
  if digits.isEmpty || !digits.all Text.isDigit then
    .error (.raised .value
      [.text ("invalid literal for int() with base 10: " ++ Text.quoted text)])
  else
    let value : Int := Text.digitsValue digits
    .ok (.int (if negative then -value else value))

/-- The binary number that a text stands for: digits with or without a point and a power
of ten, or a word. -/
def binaryNumber? (text : String) : Except Fault Datum :=
  let (negative, unsigned) := splitSign (Text.strip text).toList
  let word := String.ofList (unsigned.map Char.toLower)
  let whole := unsigned.takeWhile Text.isDigit
  let (fraction, rest) :=
    match unsigned.dropWhile Text.isDigit with
    | '.' :: rest => (rest.takeWhile Text.isDigit, rest.dropWhile Text.isDigit)
    | rest => ([], rest)
  let (power, more) := Json.splitPower rest
  if word = "nan" then .ok (.nan 0)
  else if word = "inf" || word = "infinity" then .ok (.float (.infinite negative))
  else if (whole.isEmpty && fraction.isEmpty) || !more.isEmpty then
    .error (.raised .value
      [.text ("could not convert string to float: " ++ Text.quoted text)])
  else .ok (.float (DecimalText.toBinary negative whole fraction (power.getD 0)))

def newMark : ScriptAct Nat := do
  updateSession fun known => { known with marks := known.marks + 1 }
  return (← session).marks

def requireKey (value : Datum) : ScriptAct Datum :=
  Act.ofExcept (value.asKey.mapError .access)

def readableInt (value : Int) : ScriptAct Datum :=
  let digits := Decimal.length value.natAbs
  if Json.maxDigits < digits then Act.throw (.json (.tooManyDigits digits))
  else pure (.int value)

/-- Items of which none equals one before it. -/
def distinct (items : List Datum) : List Datum :=
  items.foldl (fun known item => if known.any item.same then known else known ++ [item]) []

mutual

def instantiate : Datum → ScriptAct Datum
  | .nan _ => do return .nan (← newMark)
  | .object _ => do return .object (← newMark)
  | .int value => readableInt value
  | .list items => do return .list (← instantiateItems items)
  | .tuple items => do return .tuple (← instantiateItems items)
  | .set items => do return .set (distinct (← instantiateKeys items))
  | .mapping entries => do return .mapping (Entries.ofPairs (← instantiateEntries entries))
  | .frozen entries => do return .frozen (Entries.ofPairs (← instantiateEntries entries))
  | other => pure other

def instantiateItems : List Datum → ScriptAct (List Datum)
  | [] => pure []
  | item :: items => do
    let item ← instantiate item
    return item :: (← instantiateItems items)

def instantiateKeys : List Datum → ScriptAct (List Datum)
  | [] => pure []
  | item :: items => do
    let item ← requireKey (← instantiate item)
    return item :: (← instantiateKeys items)

def instantiateEntries : List (Datum × Datum) → ScriptAct (List (Datum × Datum))
  | [] => pure []
  | (key, value) :: entries => do
    let key ← instantiate key
    let value ← instantiate value
    let key ← requireKey key
    return (key, value) :: (← instantiateEntries entries)

end

end EventSourcing.Testing
