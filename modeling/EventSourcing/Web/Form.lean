/-!
# Forms

Where submitted values come from: a mapping of names to values, a query with
several values for a name, of which the last one counts, or a request, whose body
goes before its query.
-/

set_option autoImplicit false

namespace EventSourcing

inductive Form where
  /-- A mapping; the last entry for a name counts, and a value may be missing. -/
  | entries (pairs : List (String × Option String))
  | query (pairs : List (String × String))
  | request (body query : List (String × String))
deriving Repr

namespace Form

def last? {Value : Type} (pairs : List (String × Value)) (field : String) : Option Value :=
  pairs.reverse.lookup field

def get (form : Form) (field : String) (default : Option String) : Option String :=
  match form with
  | .entries pairs => (last? pairs field).getD default
  | .query pairs => (last? pairs field).or default
  | .request body search => ((last? body field).or (last? search field)).or default

end Form

end EventSourcing
