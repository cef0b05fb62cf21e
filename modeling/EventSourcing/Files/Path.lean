/-!
# Paths

Relative paths in normal form: no empty and no `.` components, and `..` only at
the front. The path without components is the directory that paths are relative
to.
-/

set_option autoImplicit false

namespace EventSourcing

structure Path where
  components : List String
deriving DecidableEq, Repr, Inhabited

namespace Path

/-- The components with one more, in normal form: `..` takes the component before
it away, unless that is `..` itself. The list is in reverse. -/
def step (components : List String) (component : String) : List String :=
  if component = "" ∨ component = "." then components
  else if component = ".." then
    match components with
    | [] => [".."]
    | last :: before => if last = ".." then ".." :: last :: before else before
  else component :: components

def ofText (text : String) : Path :=
  ⟨((text.splitOn "/").foldl step []).reverse⟩

def text (path : Path) : String :=
  if path.components.isEmpty then "." else "/".intercalate path.components

def parent (path : Path) : Path :=
  ⟨path.components.dropLast⟩

end Path

end EventSourcing
