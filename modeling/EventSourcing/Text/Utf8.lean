import EventSourcing.Text.AnyText

/-!
# UTF-8

Characters as one to four octets. `decode` refuses octets that no text encodes
to and says which octets are at fault and why: the first octet of a character is
impossible, an octet that should continue a character does not, or the octets
end inside a character. A half of a pair has no octets; `wholeText?` refuses a text
that has one.
-/

set_option autoImplicit false

namespace EventSourcing.Utf8

/-- The octets of one character, the shortest form of its code point. -/
def encodeChar (character : Char) : List UInt8 :=
  let code := character.toNat
  if code < 0x80 then [UInt8.ofNat code]
  else if code < 0x800 then
    [UInt8.ofNat (0xC0 + code / 0x40), UInt8.ofNat (0x80 + code % 0x40)]
  else if code < 0x10000 then
    [UInt8.ofNat (0xE0 + code / 0x1000), UInt8.ofNat (0x80 + code / 0x40 % 0x40),
      UInt8.ofNat (0x80 + code % 0x40)]
  else
    [UInt8.ofNat (0xF0 + code / 0x40000), UInt8.ofNat (0x80 + code / 0x1000 % 0x40),
      UInt8.ofNat (0x80 + code / 0x40 % 0x40), UInt8.ofNat (0x80 + code % 0x40)]

def encode (text : List Char) : List UInt8 :=
  text.flatMap encodeChar

inductive Reason where
  | invalidStart
  | invalidContinuation
  | unexpectedEnd
deriving DecidableEq, Repr

structure Fault where
  reason : Reason
  position : Nat
  first : UInt8
  count : Nat
deriving DecidableEq, Repr

def Reason.text : Reason → String
  | .invalidStart => "invalid start byte"
  | .invalidContinuation => "invalid continuation byte"
  | .unexpectedEnd => "unexpected end of data"

/-- The fault as a sentence: a single octet is shown, several are located. -/
def Fault.message (fault : Fault) : String :=
  if fault.count ≤ 1 then
    let octet := String.ofList (Text.hexDigits 2 fault.first.toNat)
    s!"'utf-8' codec can't decode byte 0x{octet} in position {fault.position}: {fault.reason.text}"
  else
    let last := fault.position + fault.count - 1
    s!"'utf-8' codec can't decode bytes in position {fault.position}-{last}: {fault.reason.text}"

def isContinuation (octet : UInt8) : Bool :=
  0x80 ≤ octet.toNat && octet.toNat ≤ 0xBF

/-- An octet that may stand second after the first octet given: overlong forms,
surrogates and code points above the last one are left out. -/
def isSecond (first octet : UInt8) : Bool :=
  let lowest := if first = 0xE0 then 0xA0 else if first = 0xF0 then 0x90 else 0x80
  let highest := if first = 0xED then 0x9F else if first = 0xF4 then 0x8F else 0xBF
  lowest ≤ octet.toNat && octet.toNat ≤ highest

def payload (octet : UInt8) : Nat :=
  octet.toNat - 0x80

def decodeFrom (position : Nat) : List UInt8 → Except Fault (List Char)
  | [] => .ok []
  | first :: rest =>
    let fault (reason : Reason) (count : Nat) : Except Fault (List Char) :=
      .error { reason, position, first, count }
    let lead := first.toNat
    if lead < 0x80 then do
      return Char.ofNat lead :: (← decodeFrom (position + 1) rest)
    else if lead < 0xC2 || 0xF4 < lead then fault .invalidStart 1
    else
      match rest with
      | [] => fault .unexpectedEnd 1
      | second :: rest =>
        if !isSecond first second then fault .invalidContinuation 1
        else if lead < 0xE0 then do
          let code := (lead - 0xC0) * 0x40 + payload second
          return Char.ofNat code :: (← decodeFrom (position + 2) rest)
        else
          match rest with
          | [] => fault .unexpectedEnd 2
          | third :: rest =>
            if !isContinuation third then fault .invalidContinuation 2
            else if lead < 0xF0 then do
              let code := (lead - 0xE0) * 0x1000 + payload second * 0x40 + payload third
              return Char.ofNat code :: (← decodeFrom (position + 3) rest)
            else
              match rest with
              | [] => fault .unexpectedEnd 3
              | fourth :: rest =>
                if !isContinuation fourth then fault .invalidContinuation 3
                else do
                  let code := (lead - 0xF0) * 0x40000 + payload second * 0x1000 +
                    payload third * 0x40 + payload fourth
                  return Char.ofNat code :: (← decodeFrom (position + 4) rest)

def decode (octets : List UInt8) : Except Fault (List Char) :=
  decodeFrom 0 octets

/-- The halves in a row that come first in a text. -/
structure Halves where
  first : Half
  position : Nat
  count : Nat
deriving DecidableEq, Repr

def Halves.message (halves : Halves) : String :=
  if halves.count ≤ 1 then
    let escape := String.ofList (AnyText.halfEscape halves.first)
    s!"'utf-8' codec can't encode character '{escape}' in position {halves.position}: " ++
      "surrogates not allowed"
  else
    let last := halves.position + halves.count - 1
    s!"'utf-8' codec can't encode characters in position {halves.position}-{last}: " ++
      "surrogates not allowed"

def halvesFrom? (position : Nat) : List Point → Option Halves
  | [] => none
  | .char _ :: points => halvesFrom? (position + 1) points
  | .half first :: points =>
    let more := points.takeWhile fun point => point.char?.isNone
    some { first, position, count := more.length + 1 }

theorem isSome_halvesFrom? {points : List Point} (broken : Point.chars? points = none)
    (position : Nat) : (halvesFrom? position points).isSome := by
  induction points generalizing position with
  | nil => cases broken
  | cons point points ih =>
    cases point with
    | half value => rfl
    | char value => exact ih (Option.map_eq_none_iff.mp broken) _

def wholeText? : AnyText → Except Halves String
  | .whole text => .ok text
  | .broken text =>
    .error ((halvesFrom? 0 text.points).get (isSome_halvesFrom? text.broken 0))

end EventSourcing.Utf8
