/-
The size of a text in bytes, for limits and places that are counted in them.
-/

namespace DurableWorkflow.Text

/-- The bytes of a text. -/
def bytes (cs : List Char) : Nat := cs.foldl (fun n c => n + c.utf8Size) 0

end DurableWorkflow.Text
