import Linkcut.Names
import Linkcut.Value

/-!
Parameters of calls. Positional arguments fill them in order and named ones by name; what fills none
is left to the call where it takes more, and is a fault where it does not. Every call has the object
that it belongs to as its first parameter.
-/

set_option autoImplicit false

namespace Linkcut

/-- Named arguments, in the order of the call. -/
abbrev Named := Names Value

structure Parameters where
  /-- The full name of the call, as faults show it. -/
  callee : String
  required : List String := []
  /-- Parameters that may be left out, with what they are then. -/
  optional : Named := []
  /-- Takes any further positional arguments. -/
  takesMore : Bool := false
  /-- Takes named arguments of any other name. -/
  takesNamed : Bool := false
  deriving Repr, Inhabited

structure Bound where
  /-- The values of the parameters, in order. -/
  values : List Value
  /-- Positional arguments past the parameters. -/
  more : List Value := []
  named : Named := []
  deriving Repr, Inhabited

def Bound.at (b : Bound) (i : Nat) : Value := b.values.getD i .none

namespace Parameters

def names (p : Parameters) : List String := p.required ++ p.optional.map Prod.fst

def owner : String := "self"

/-- How many positional arguments a call takes, with its owner. -/
def takes (p : Parameters) : String :=
  let least := p.required.length + 1
  if p.optional.isEmpty then toString least
  else s!"from {least} to {least + p.optional.length}"

/-- The first named argument that cannot be taken is the fault. -/
def checkNamed (p : Parameters) (filled : List String) (named : Named) : Except Fault Unit :=
  named.forM fun (name, _) =>
    if filled.contains name then .error (.repeatedArgument p.callee name)
    else if p.takesNamed || p.names.contains name then .ok ()
    else .error (.unexpectedArgument p.callee name)

def bind (p : Parameters) (args : List Value) (named : Named) : Except Fault Bound := do
  p.checkNamed (owner :: p.names.take args.length) named
  if !p.takesMore && decide (p.names.length < args.length) then
    throw (.tooManyArguments p.callee p.takes (!p.names.isEmpty) (args.length + 1))
  let missing := (p.required.drop args.length).filter fun n => (named.lookup n).isNone
  if !missing.isEmpty then throw (.missingArguments p.callee missing false)
  let later := (p.names.drop args.length).map fun n =>
    ((named.lookup n).orElse fun _ => p.optional.lookup n).getD .none
  return {
    values := args.take p.names.length ++ later
    more := args.drop p.names.length
    named := named.filter fun n => !p.names.contains n.1 }

end Parameters
end Linkcut
