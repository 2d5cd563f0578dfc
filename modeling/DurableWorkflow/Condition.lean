/-
Conditions on the context of a run. A condition compares the value at a dotted
path with a target. Evaluation never fails: a comparison that makes no sense,
such as an order between texts that are no numbers or a pattern that cannot be
read, is false. A path that leads nowhere and `null` are the same.
-/
import DurableWorkflow.Json.Decoder
import DurableWorkflow.Regex.Match
import DurableWorkflow.Text.Search

namespace DurableWorkflow

/-- What a run knows: values under names. -/
abbrev Context := Dict Value

-- ============================================================= types

/-- How a value is compared with a target. -/
inductive Operator
  | eq
  | ne
  | gt
  | gte
  | lt
  | lte
  | contains
  | notContains
  | isMatch
  | isIn
  | notIn
  | exists
  | unknown
deriving DecidableEq, Repr

/-- How the results of several conditions are combined. -/
inductive Logic
  | or
  | and
deriving DecidableEq, Repr

/-- A comparison of the value at a path with a target. -/
structure Condition where
  field : String
  op : Operator
  value : Value

-- ========================================================== as text

namespace Operator

def name : Operator → String
  | .eq => "eq"
  | .ne => "ne"
  | .gt => "gt"
  | .gte => "gte"
  | .lt => "lt"
  | .lte => "lte"
  | .contains => "contains"
  | .notContains => "not_contains"
  | .isMatch => "matches"
  | .isIn => "in"
  | .notIn => "not_in"
  | .exists => "exists"
  | .unknown => "unknown"

/-- All operators; every other name is the unknown one. -/
def all : List Operator :=
  [.eq, .ne, .gt, .gte, .lt, .lte, .contains, .notContains, .isMatch, .isIn, .notIn, .exists,
    .unknown]

def decode : Decoder Operator :=
  Decoder.choice ⟨all.map fun o => (o.name, o), some .unknown⟩

end Operator

namespace Logic

def name : Logic → String
  | .or => "or"
  | .and => "and"

/-- Every name but `or` means that all conditions have to hold. -/
def decode : Decoder Logic := Decoder.choice ⟨[("or", .or), ("and", .and)], some .and⟩

end Logic

namespace Condition

def shape : Decoder.Shape Condition where
  title := "Condition"
  fields := [
    .may "field" Decoder.string fun a c => { c with field := a },
    .may "op" Operator.decode fun a c => { c with op := a },
    .may "value" Decoder.value fun a c => { c with value := a }]
  blank := ⟨"", .eq, .null⟩

def decode : Decoder Condition := Decoder.record shape

def encode (c : Condition) : Value :=
  .object [("field", .string c.field), ("op", .string c.op.name), ("value", c.value)]

end Condition

-- ============================================================= paths

/-- Follows keys into nested objects. -/
def Value.follow (v : Value) : List String → Option Value
  | [] => some v
  | k :: ks =>
    match v with
    | .object members =>
      match Dict.find? members k with
      | some w => w.follow ks
      | none => none
    | _ => none

/-- The keys of a dotted path; there is always a first one. -/
def pathKeys (path : String) : List String :=
  (Text.splitAt '.' path.toList).map String.ofList

/-- The value at a dotted path. -/
def Context.resolve (c : Context) (path : String) : Option Value :=
  Value.follow (.object c) (pathKeys path)

-- ======================================================== comparison

/-- The text of a value: that of a string is the string itself. -/
def display : Value → String
  | .string s => s
  | v => v.text

/-- The number that a value stands for: a number, a text that writes one, or a
truth value. -/
def Value.number? : Value → Option Float
  | .int n => some (Decimal.ofInt n)
  | .real x => some x
  | .string s => Decimal.float? s
  | .bool b => some (if b then 1.0 else 0.0)
  | _ => none

/-- Whether this is a number. -/
def Value.isNumber : Value → Bool
  | .int _ => true
  | .real _ => true
  | _ => false

/-- Equality of a value with a target: numbers are compared as floats, everything
else by its parts. -/
def Value.equals (value target : Value) : Bool :=
  if value.isNumber then
    target.isNumber && (match value.number?, target.number? with
      | some a, some b => a == b
      | _, _ => false)
  else value == target

/-- Whether two values stand for numbers in a given order. -/
def Value.ordered (rel : Float → Float → Bool) (value target : Value) : Bool :=
  match value.number?, target.number? with
  | some a, some b => rel a b
  | _, _ => false

/-- Whether a value is an item of a list, or its text occurs in that of anything
else. -/
def Value.within (value target : Value) : Bool :=
  match target with
  | .array items => items.any fun item => value.equals item
  | other => Text.contains (display other) (display value)

/-- Compares a value with a target. -/
def Operator.holds (op : Operator) (value target : Value) : Bool :=
  match op with
  | .eq => value.equals target
  | .ne => !value.equals target
  | .gt => value.ordered (fun a b => b < a) target
  | .gte => value.ordered (fun a b => b ≤ a) target
  | .lt => value.ordered (fun a b => a < b) target
  | .lte => value.ordered (fun a b => a ≤ b) target
  | .contains => Text.contains (display value) (display target)
  | .notContains => !Text.contains (display value) (display target)
  | .isMatch => Regex.occurs (display target) (display value)
  | .isIn => value.within target
  | .notIn => !value.within target
  | .exists => !value.isNull
  | .unknown => false

/-- Compares a value, which may be missing, with a target. -/
def evaluate (value : Option Value) (op : Operator) (target : Value) : Bool :=
  op.holds (value.getD .null) target

/-- Whether a condition holds in a context. -/
def Condition.holds (c : Condition) (context : Context) : Bool :=
  evaluate (context.resolve c.field) c.op c.value

/-- Whether one or all of some conditions hold in a context. -/
def evaluateAll (conditions : List Condition) (context : Context) : Logic → Bool
  | .or => conditions.any (·.holds context)
  | .and => conditions.all (·.holds context)

end DurableWorkflow
