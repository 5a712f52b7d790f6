/-
This file defines the levels of the stack. A level binds every name at most once and keeps its
bindings in the order in which they were made; a name is shadowed by opening another level.
-/

import Rewind.Store.Fault
import Rewind.Store.Value

namespace Rewind

/-- Bindings in the order in which they were made. -/
abbrev Bindings := List (String × Value)

/-- One layer of the stack, with its index counted from the bottom. -/
structure Level where
  index : Nat
  bindings : Bindings
  deriving DecidableEq, Repr

namespace Level

/-- The value of a name. -/
def get? (level : Level) (name : String) : Option Value := level.bindings.lookup name

/-- Whether a name is bound. -/
def contains (level : Level) (name : String) : Bool := (level.get? name).isSome

/-- Binds a name that is not bound in this level. -/
def insert (level : Level) (name : String) (value : Value) : Except Defect Level :=
  if level.contains name then .error (.duplicateBinding name)
  else .ok { level with bindings := level.bindings ++ [(name, value)] }

/-- Gives a bound name another value; the level stays as it is if the name is not bound. -/
def set (level : Level) (name : String) (value : Value) : Level :=
  { level with
    bindings := level.bindings.map fun binding =>
      if binding.1 = name then (name, value) else binding }

/-- Removes the binding of a name. -/
def erase (level : Level) (name : String) : Level :=
  { level with bindings := level.bindings.filter fun binding => binding.1 != name }

/-- The number of bindings. -/
def size (level : Level) : Nat := level.bindings.length

/-- Whether nothing is bound. -/
def isEmpty (level : Level) : Bool := level.bindings.isEmpty

end Level

end Rewind
