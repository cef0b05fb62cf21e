import EventSourcing.System.Raise
import EventSourcing.Text.Blank

/-!
# Parameters

The values of a command's parameters. A parameter is given text by `parse`: free
text passes through a sanitizer, an identifier must be made of dashes, lower-case
letters and digits, and a time must be a timestamp. Text that is not accepted
leaves the parameter's own text as it was.
-/

set_option autoImplicit false

namespace EventSourcing

/-- Turns submitted text into a parameter's text, or refuses it. -/
abbrev Sanitizer := String → Except Raise String

namespace Sanitizer

def unchanged : Sanitizer := .ok

def trimming : Sanitizer := fun text => .ok (Text.strip text)

end Sanitizer

inductive Parameter where
  /-- Free text, with the text it was made from and its sanitizer. -/
  | text (sanitized submitted : String) (sanitizer : Sanitizer)
  /-- An identifier; the empty text stands for none. -/
  | identifier (value : String)
  | time (value : Option Moment)

namespace Parameter

instance : Inhabited Parameter := ⟨.identifier ""⟩

/-- Free text that shows exactly the text given. -/
def exactly (text : String) : Parameter :=
  .text text text Sanitizer.unchanged

def emptyCode : String := "empty"

def malformedIdentifierCode : String := "malformed_identifier"

def malformedTimeCode : String := "malformed_time"

def rejection (code : String) : Raise :=
  .fresh (.raised .rejectedValue [.text code])

def isIdentifierChar (character : Char) : Bool :=
  character = '-' || ('a'.toNat ≤ character.toNat && character.toNat ≤ 'z'.toNat) ||
    ('0'.toNat ≤ character.toNat && character.toNat ≤ '9'.toNat)

def isIdentifier (text : String) : Bool :=
  !text.isEmpty && text.toList.all isIdentifierChar

/-- The parameter after it is given text, and the fault if the text is refused. -/
def parse (parameter : Parameter) (submitted : String) : Parameter × Option Raise :=
  match parameter with
  | .text sanitized _ sanitizer =>
    match sanitizer submitted with
    | .ok accepted => (.text accepted submitted sanitizer, none)
    | .error refusal => (.text sanitized submitted sanitizer, some refusal)
  | .identifier value =>
    let candidate := Text.strip submitted
    if isIdentifier candidate then (.identifier candidate, none)
    else (.identifier value, some (rejection malformedIdentifierCode))
  | .time value =>
    if (Text.strip submitted).isEmpty then (.time value, some (rejection emptyCode))
    else
      match Timestamp.parse? submitted with
      | .ok moment => (.time moment, none)
      | .error _ => (.time value, some (rejection malformedTimeCode))

def shown : Parameter → String
  | .text sanitized _ _ => sanitized
  | .identifier value => value
  | .time value => (Timestamp.format? value).getD ""

def className : Parameter → String
  | .text .. => "String"
  | .identifier _ => "Identifier"
  | .time _ => "Time"

def literal (parameter : Parameter) : String :=
  let content :=
    match parameter with
    | .text sanitized _ _ => Text.quoted sanitized
    | .identifier value => Text.quoted value
    | .time value => Moment.literal? value
  parameter.className ++ "(" ++ content ++ ")"

end Parameter

end EventSourcing
