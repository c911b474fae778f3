import EntityViews.Registry

/-! Calls on the registries of a program.
Parts of a program keep registries of their own, and one registry is shared by all parts. Calls on
the shared one wait for each other, so calls on all registries come one after the other.
-/

namespace EntityViews

/-- A call that may change a registry. -/
inductive RegistryCall where
  | register (model : Model)
  /-- Makes a model of the given parts and registers it. -/
  | define (serial : Nat) (name : String) (fields : Fields) (options : EntityOptions)
  | reset
deriving Inhabited

namespace RegistryCall

/-- The registry after a registration and the answer to it: the model, if its name was free. A
registration that is refused leaves the registry as it is.
-/
def settle (registry : Registry) (model : Model)
    : Except SchemaError Registry → Registry × Except SchemaError (Option Model)
  | .ok extended => (extended, .ok (some model))
  | .error problem => (registry, .error problem)

/-- The registry after a call, and the answer to the call. -/
def perform (registry : Registry)
    : RegistryCall → Registry × Except SchemaError (Option Model)
  | .register model => settle registry model (registry.register model)
  | .define serial name fields options =>
      settle registry ⟨serial, name, fields, options⟩
        (registry.define serial name fields options)
  | .reset => (registry.reset, .ok none)

end RegistryCall

/-- Who keeps a registry. -/
inductive Keeper where
  | part (number : Nat)
  /-- All parts of the program together. -/
  | everyone
deriving DecidableEq, Repr, Inhabited

/-- The registries of a program. -/
abbrev Registries := Keeper → Registry

namespace Registries

/-- The registries at the start, all of them empty. -/
def initial : Registries := fun _ => .empty

/-- The registries after a call on that of a keeper, and the answer to the call. -/
def perform (registries : Registries) (keeper : Keeper) (call : RegistryCall)
    : Registries × Except SchemaError (Option Model) :=
  let (registry, answer) := call.perform (registries keeper)
  (fun other => if other = keeper then registry else registries other, answer)

/-- The registries after calls, each on that of its keeper. -/
def after (calls : List (Keeper × RegistryCall)) : Registries :=
  calls.foldl (fun registries call => (registries.perform call.1 call.2).1) initial

end Registries

end EntityViews
