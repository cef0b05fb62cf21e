import EventSourcing.System.Basic

/-!
# Validation errors as live objects

A validation error collects messages while a command is filled or handled, and is
raised as it stands. Another error is merged into it field by field; a fault of
any other kind is recorded under one common field by its words.
-/

set_option autoImplicit false

namespace EventSourcing.Validation

variable {D : Domain}

def create (errors : FieldErrors) : Act D (Ref .fault) :=
  Act.newFault (.validation errors)

def errorsOf : Fault → FieldErrors
  | .validation errors => errors
  | _ => []

def contribution : Fault → FieldErrors
  | .validation errors => errors
  | fault => [(FieldErrors.allFields, [fault.message])]

/-- Changes the messages of a validation error; another fault has no such part. -/
def change (ref : Ref .fault) (part : String) (edit : FieldErrors → FieldErrors) :
    Act D Unit := do
  match ← Act.faultOf ref with
  | .validation errors =>
    Act.update fun system =>
      { system with faults := system.faults.set ref (.validation (edit errors)) }
  | other => Act.throw (.lacksAttribute other.className part)

def add (ref : Ref .fault) (field message : String) : Act D Unit :=
  change ref "add" (·.add field message)

/-- Records everything that another fault contributes. A validation error may be
merged into itself. -/
def merge (ref other : Ref .fault) : Act D Unit := do
  let fault ← Act.faultOf other
  change ref "merge" (·.merge (contribution fault))

end EventSourcing.Validation
