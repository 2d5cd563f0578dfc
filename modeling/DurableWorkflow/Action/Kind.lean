/-
The kinds of actions that a workflow can ask for. The set is closed; which of
them can be performed depends on the handlers at hand.
-/
import DurableWorkflow.Failure

namespace DurableWorkflow

/-- A kind of action. -/
inductive ActionKind
  | tweet
  | reply
  | retweet
  | like
  | follow
  | unfollow
  | dm
  | webhook
  | log
  | updateVar
  | addToList
  | removeFromList
deriving DecidableEq, Repr

namespace ActionKind

/-- All kinds, in the order in which they are listed. -/
def all : List ActionKind :=
  [.tweet, .reply, .retweet, .like, .follow, .unfollow, .dm, .webhook, .log, .updateVar,
    .addToList, .removeFromList]

def name : ActionKind → String
  | .tweet => "tweet"
  | .reply => "reply"
  | .retweet => "retweet"
  | .like => "like"
  | .follow => "follow"
  | .unfollow => "unfollow"
  | .dm => "dm"
  | .webhook => "webhook"
  | .log => "log"
  | .updateVar => "update_var"
  | .addToList => "add_to_list"
  | .removeFromList => "remove_from_list"

/-- The kind with a name. -/
def ofName? (name : String) : Option ActionKind := all.find? fun k => k.name = name

/-- The kind that a text asks for. -/
def ofText (text : String) : Except Failure ActionKind :=
  match ofName? text with
  | some k => .ok k
  | none => .error (.unknownAction text)

/-- Whether the engine itself performs actions of this kind. -/
def isStandard : ActionKind → Bool
  | .log => true
  | .updateVar => true
  | _ => false

def decode : Decoder ActionKind := Decoder.choice ⟨all.map fun k => (k.name, k), none⟩

theorem name_of_ofName? {s : String} {k : ActionKind} (h : ofName? s = some k) : k.name = s := by
  have := List.find?_some h
  simpa using this

end ActionKind

end DurableWorkflow
