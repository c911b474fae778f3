import EntityViews.OrderedMap
import EntityViews.Binary64

/-! JSON values. An object is the list of its members as they are written, so that a writer
can say exactly which members it writes; readers collapse repeated names.
-/

namespace EntityViews

/-- A number of a JSON text: integers that fit 64 bits stay integers. -/
inductive Number where
  | integer (value : Int)
  | real (value : Binary64)
deriving DecidableEq, Repr, Inhabited

/-- A JSON value. -/
inductive Json where
  | null
  | boolean (value : Bool)
  | number (value : Number)
  | string (value : String)
  | array (items : List Json)
  | object (members : List (String × Json))
deriving Inhabited

namespace Json

mutual

/-- Equality of values, member order included. -/
def same : Json → Json → Bool
  | .null, .null => true
  | .boolean a, .boolean b => a == b
  | .number a, .number b => decide (a = b)
  | .string a, .string b => a == b
  | .array a, .array b => sameItems a b
  | .object a, .object b => sameMembers a b
  | _, _ => false

def sameItems : List Json → List Json → Bool
  | [], [] => true
  | a :: as, b :: bs => same a b && sameItems as bs
  | _, _ => false

def sameMembers : List (String × Json) → List (String × Json) → Bool
  | [], [] => true
  | (m, a) :: as, (n, b) :: bs => m == n && same a b && sameMembers as bs
  | _, _ => false

end

instance : BEq Json := ⟨same⟩

/-- The member `name: true` if the flag is set, and no member otherwise. -/
def flag (name : String) (value : Bool) : Members Json :=
  if value then [(name, .boolean true)] else []

/-- The member for an optional value, and no member if there is none. -/
def given (name : String) (value : Option Json) : Members Json :=
  match value with
  | some value => [(name, value)]
  | none => []

def strings (values : List String) : Json :=
  .array (values.map .string)

def natural (value : Nat) : Json :=
  .number (.integer value)

def word (value : UInt32) : Json :=
  natural value.toNat

end Json

end EntityViews
