import EventSourcing.Fault.Basic
import EventSourcing.System.Table

/-!
# What is raised

A fault is raised as a new object made for the occasion, as an object that exists
already, which its other holders then recognise, or as the object that has a name by
then.
-/

set_option autoImplicit false

namespace EventSourcing

inductive Raise where
  | fresh (fault : Fault)
  | known (fault : Ref .fault)
  | named (name : String)
deriving Inhabited

end EventSourcing
