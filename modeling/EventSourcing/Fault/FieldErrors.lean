import EventSourcing.Datum.Literal

/-!
# Errors by field

Messages about the values of a command, collected under the field they concern.
Fields stand in the order of their first message, messages in the order of their
arrival. `FieldErrors.merge` is the ordered union of two collections.
-/

set_option autoImplicit false

namespace EventSourcing

/-- Fields with their messages; every field occurs once. -/
abbrev FieldErrors := List (String × List String)

namespace FieldErrors

/-- The field under which an error of another kind is recorded. -/
def allFields : String := "$all"

def messages (errors : FieldErrors) (field : String) : List String :=
  (errors.lookup field).getD []

/-- The collection with further messages of a field. A field that is there keeps
its place; a new one goes to the end, even without messages. -/
def extend (errors : FieldErrors) (field : String) (more : List String) : FieldErrors :=
  match errors with
  | [] => [(field, more)]
  | entry :: rest =>
    if entry.1 = field then (field, entry.2 ++ more) :: rest
    else entry :: extend rest field more

def add (errors : FieldErrors) (field message : String) : FieldErrors :=
  errors.extend field [message]

def merge (errors others : FieldErrors) : FieldErrors :=
  others.foldl (fun merged entry => merged.extend entry.1 entry.2) errors

/-- The collection made from entries of which the last one for a field counts. -/
def ofPairs (pairs : List (String × List String)) : FieldErrors :=
  pairs.foldl (fun errors pair => assign errors pair.1 pair.2) []
where
  assign : FieldErrors → String → List String → FieldErrors
    | [], field, messages => [(field, messages)]
    | entry :: rest, field, messages =>
      if entry.1 = field then (field, messages) :: rest
      else entry :: assign rest field messages

def text (errors : FieldErrors) : String :=
  String.join (errors.map fun entry => entry.1 ++ ": " ++ ", ".intercalate entry.2 ++ "; ")

def toDatum (errors : FieldErrors) : Datum :=
  .mapping (errors.map fun entry =>
    (.text entry.1, .list (entry.2.map fun message : String => .text message)))

def literal (errors : FieldErrors) : String :=
  "ValidationError(" ++ errors.toDatum.literal ++ ")"

end FieldErrors

end EventSourcing
