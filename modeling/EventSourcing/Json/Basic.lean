import EventSourcing.Number.Binary64
import EventSourcing.Text.AnyText

/-!
# JSON values

The tree that JSON text denotes. Numbers are whole or binary; the values that the
standard has no text for, infinities and not-a-number, are in the tree because
the log's readers and writers know words for them. A text may be broken, since an
escape can stand for half of a pair.
-/

set_option autoImplicit false

namespace EventSourcing

/-- A JSON value; the members of an object are in the order of their text. -/
inductive Json where
  | null
  | bool (value : Bool)
  | int (value : Int)
  | float (value : Binary64)
  | nan
  | text (value : AnyText)
  | array (items : List Json)
  | object (members : List (AnyText × Json))
deriving Repr, Inhabited

namespace Json

def member? (members : List (AnyText × Json)) (name : AnyText) : Option Json :=
  members.lookup name

/-- The members with one more: a name that is there keeps its place and takes the
new value. -/
def putMember (name : AnyText) (value : Json) : List (AnyText × Json) → List (AnyText × Json)
  | [] => [(name, value)]
  | member :: rest =>
    if member.1 = name then (name, value) :: rest else member :: putMember name value rest

end Json

end EventSourcing
