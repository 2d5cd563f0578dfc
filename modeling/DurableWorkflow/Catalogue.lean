/-
Blueprints that are ready to use.
-/
import DurableWorkflow.Workflow

namespace DurableWorkflow.Catalogue

/-- A condition on one field. -/
def when (field : String) (op : Operator) (value : Value) : List Condition :=
  [⟨field, op, value⟩]

/-- Parameters of an action that consist of one text. -/
def parameter (key text : String) : Value := .object [(key, .string text)]

/-- Greets new followers, those with more than 100 followers of their own in other
words. -/
def welcomeDm : Blueprint :=
  (Blueprint.new "Welcome New Follower")
    |>.withDescription "Send welcome DM to new followers"
    |>.withTrigger .event (parameter "event" "new_follower")
    |>.withNodes [
      (Node.condition "check" (when "trigger.follower_count" .gt (.int 100)) "dm_vip" "dm_regular")
        |>.withName "Check follower count",
      (Node.action "dm_vip" "dm" (parameter "text" "Welcome! 🌟 As a valued member..."))
        |>.withName "DM VIP follower" |>.withNext "end",
      (Node.action "dm_regular" "dm" (parameter "text" "Welcome! Thanks for following! 🎉"))
        |>.withName "DM regular follower" |>.withNext "end",
      (Node.finish "end").withName "Done"]

/-- Likes and answers friendly mentions, and logs the others. -/
def engagementBoost : Blueprint :=
  (Blueprint.new "Engagement Boost")
    |>.withDescription "Auto-engage with users who interact with your content"
    |>.withTrigger .event (parameter "event" "mention")
    |>.withNodes [
      (Node.condition "sentiment" (when "trigger.sentiment" .gte (.real 0.5))
        "like_tweet" "log_negative")
        |>.withName "Check sentiment",
      (Node.action "like_tweet" "like" (.object []))
        |>.withName "Like the tweet" |>.withNext "reply",
      (Node.action "reply" "reply" (parameter "text" "Thanks for the mention! 🙏"))
        |>.withName "Reply with thanks" |>.withNext "end",
      (Node.action "log_negative" "log" (parameter "message" "Negative mention detected"))
        |>.withName "Log negative mention" |>.withNext "end",
      (Node.finish "end").withName "Done"]

/-- Publishes on weekdays at three hours of the day. -/
def contentPipeline : Blueprint :=
  (Blueprint.new "Content Pipeline")
    |>.withDescription "Scheduled content publishing workflow"
    |>.withTrigger .schedule (parameter "cron" "0 9,13,17 * * 1-5")
    |>.withNodes [
      (Node.action "fetch" "log" (parameter "message" "Fetching scheduled content"))
        |>.withName "Fetch next content" |>.withNext "check_content",
      (Node.condition "check_content" (when "last_action_result.logged" .exists (.bool true))
        "publish" "end")
        |>.withName "Has content?",
      (Node.action "publish" "tweet" (parameter "text" "Automated content post"))
        |>.withName "Publish tweet" |>.withNext "log_success",
      (Node.action "log_success" "log" (parameter "message" "Content published successfully"))
        |>.withName "Log success" |>.withNext "end",
      (Node.finish "end").withName "Done"]

/-- All blueprints with their names. -/
def all : List (String × Blueprint) :=
  [("welcome_dm", welcomeDm), ("engagement_boost", engagementBoost),
    ("content_pipeline", contentPipeline)]

/-- The names of the blueprints. -/
def names : List String := all.map (·.1)

/-- The blueprint with a name. -/
def find? (name : String) : Option Blueprint := Dict.find? all name

end DurableWorkflow.Catalogue
