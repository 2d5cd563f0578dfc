/-
Placeholders in texts: a key of the context between double braces stands for the
text of its value. Texts, numbers and truth values are put in; a list, an object
and `null` leave the placeholder as it is. The keys are replaced one after the
other in their order, each in the text that the keys before it have left.
-/
import DurableWorkflow.Condition

namespace DurableWorkflow.Placeholder

/-- The text that a value puts in place of its key, if it puts any. -/
def replacement? : Value → Option String
  | .string s => some s
  | .int n => some (Value.text (.int n))
  | .real x => some (Value.text (.real x))
  | .bool b => some (Value.text (.bool b))
  | _ => none

/-- A key between double braces. -/
def mark (key : String) : List Char :=
  '\x7b' :: '\x7b' :: (key.toList ++ ['\x7d', '\x7d'])

/-- Replaces the placeholders of one key. -/
def fillOne (text : List Char) (key : String) (v : Value) : List Char :=
  match replacement? v with
  | some s => Text.replaceAll (mark key) s.toList text
  | none => text

/-- Replaces the placeholders of each key of a context in turn. -/
def fill (template : String) (context : Context) : String :=
  String.ofList (context.foldl (fun text e => fillOne text e.1 e.2) template.toList)

end DurableWorkflow.Placeholder
