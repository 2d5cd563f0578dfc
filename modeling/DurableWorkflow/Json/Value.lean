/-
JSON values. A number is either a whole number of 64 bits or a float, and the
two are never equal, however close: `1` and `1.0` are different values. The
members of an object are a list of pairs; an object that is a map has them in
ascending order of their names, a record has them in the order of its fields.
-/
import DurableWorkflow.Dict

namespace DurableWorkflow

/-- A JSON value. -/
inductive Value
  | null
  | bool (b : Bool)
  | int (n : Int)
  | real (x : Float)
  | string (s : String)
  | array (items : List Value)
  | object (members : List (String × Value))
deriving Inhabited

namespace Value

-- ========================================================== equality

mutual

/-- Equality of values. Floats are equal as numbers, so zero has one value
whatever its sign. -/
def same : Value → Value → Bool
  | .null, .null => true
  | .bool a, .bool b => a == b
  | .int a, .int b => a == b
  | .real a, .real b => a == b
  | .string a, .string b => a == b
  | .array a, .array b => sameItems a b
  | .object a, .object b => sameMembers a b
  | _, _ => false

/-- Equality of the items of two arrays. -/
def sameItems : List Value → List Value → Bool
  | [], [] => true
  | a :: as, b :: bs => same a b && sameItems as bs
  | _, _ => false

/-- Equality of the members of two objects, in the order of their names. -/
def sameMembers : List (String × Value) → List (String × Value) → Bool
  | [], [] => true
  | (k, a) :: as, (l, b) :: bs => k == l && same a b && sameMembers as bs
  | _, _ => false

end

instance : BEq Value := ⟨same⟩

-- ============================================================= parts

/-- Whether this is `null`. -/
def isNull : Value → Bool
  | .null => true
  | _ => false

/-- The text of a string. -/
def string? : Value → Option String
  | .string s => some s
  | _ => none

/-- The items of an array. -/
def array? : Value → Option (List Value)
  | .array items => some items
  | _ => none

/-- The members of an object. -/
def object? : Value → Option (Dict Value)
  | .object members => some members
  | _ => none

/-- The value of a member of an object; `null` where there is none. -/
def field (v : Value) (name : String) : Value :=
  match v with
  | .object members => (Dict.find? members name).getD .null
  | _ => .null

/-- A list of texts. -/
def ofTexts (ss : List String) : Value := .array (ss.map .string)

/-- A text or `null`. -/
def ofText? (s : Option String) : Value := (s.map Value.string).getD .null

/-- An object from its members in the order given, without those that are
left out. -/
def record (members : List (String × Option Value)) : Value :=
  .object (members.filterMap fun m => m.2.map fun v => (m.1, v))

-- ============================================================== order

mutual

/-- The value with the members of every object in ascending order of their names. -/
def sorted : Value → Value
  | .array items => .array (sortedItems items)
  | .object members => .object (sortedMembers members)
  | v => v

/-- The items of an array, each of them in order. -/
def sortedItems : List Value → List Value
  | [] => []
  | v :: vs => sorted v :: sortedItems vs

/-- The members of an object in order. -/
def sortedMembers : List (String × Value) → Dict Value
  | [] => []
  | (k, v) :: ms => Dict.insert (sortedMembers ms) k (sorted v)

end

end Value

end DurableWorkflow
