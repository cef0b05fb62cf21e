import EventSourcing.Datum.Basic
import EventSourcing.Number.DecimalText
import EventSourcing.Time.IsoText

/-!
# Literals of open data

`Datum.literal` shows a value so that its kind can be told: texts are quoted,
sequences and mappings bracketed. `Datum.plain` shows a text as itself, a moment in
its usual form and a mapping without saying whether it can only be read, and
everything else as its literal.
-/

set_option autoImplicit false

namespace EventSourcing

/-- The offset of a moment; universal time has a name. -/
def Offset.literal (offset : Offset) : String :=
  if offset.microseconds = 0 then "datetime.timezone.utc"
  else "datetime.timezone(" ++ Duration.literal ⟨offset.microseconds⟩ ++ ")"

/-- A moment by its parts; seconds and microseconds are left out from the right
while they are zero. -/
def Moment.literal (moment : Moment) : String :=
  let finer :=
    if moment.time.microsecond ≠ 0 then [moment.time.second, moment.time.microsecond]
    else if moment.time.second ≠ 0 then [moment.time.second]
    else []
  let numbers := [moment.date.year, moment.date.month, moment.date.day, moment.time.hour,
    moment.time.minute] ++ finer
  let zone := (moment.offset.map fun offset => ["tzinfo=" ++ offset.literal]).getD []
  "datetime.datetime(" ++ ", ".intercalate (numbers.map toString ++ zone) ++ ")"

def Moment.literal? (moment : Option Moment) : String :=
  (moment.map Moment.literal).getD "None"

def boolLiteral (value : Bool) : String :=
  if value then "True" else "False"

def Binary64.literal (value : Binary64) : String :=
  String.ofList (DecimalText.ofBinary "inf".toList value)

namespace Datum

mutual

def literal : Datum → String
  | .null => "None"
  | .bool value => boolLiteral value
  | .int value => toString value
  | .float value => value.literal
  | .nan _ => "nan"
  | .text value => value.quoted
  | .bytes octets => Text.quotedOctets octets
  | .list items => "[" ++ ", ".intercalate (literals items) ++ "]"
  | .tuple items =>
    match literals items with
    | [single] => "(" ++ single ++ ",)"
    | shown => "(" ++ ", ".intercalate shown ++ ")"
  | .set items =>
    if items.isEmpty then "set()" else "\x7b" ++ ", ".intercalate (literals items) ++ "\x7d"
  | .mapping entries => "\x7b" ++ ", ".intercalate (entryLiterals entries) ++ "\x7d"
  | .frozen entries =>
    "mappingproxy(\x7b" ++ ", ".intercalate (entryLiterals entries) ++ "\x7d)"
  | .moment value => value.literal
  | .object _ => "<object object>"

def literals : List Datum → List String
  | [] => []
  | item :: items => literal item :: literals items

def entryLiterals : List (Datum × Datum) → List String
  | [] => []
  | (key, value) :: entries =>
    (literal key ++ ": " ++ literal value) :: entryLiterals entries

end

def plain : Datum → String
  | .text value => value.shown
  | .frozen entries => (Datum.mapping entries).literal
  | .moment value => String.ofList (value.isoChars ' ')
  | datum => datum.literal

end Datum

end EventSourcing
