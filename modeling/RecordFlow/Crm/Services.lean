/-
# CRM services — tasks, activities, e-mails, tags and teams

The services record every write: tasks, activities and e-mails in the order of
their creation, tags by name.  Identifiers are issued in that order; that of a
tag is issued when its name is first used and kept in the table of the tags
from then on.
-/
import RecordFlow.Instant
import RecordFlow.Value.Basic

namespace RecordFlow

/-- A task that was created. -/
structure TaskRecord where
  id : String := ""
  title : String
  description : Option String
  priority : String
  assigneeId : String
  dueDate : Option Instant
  relatedType : String
  relatedId : String
deriving DecidableEq, Repr, Inhabited

/-- An entry of the activity log. -/
structure ActivityRecord where
  id : String := ""
  activityType : String
  title : String
  description : Option String
  userId : String
  relatedType : String
  relatedId : String
deriving DecidableEq, Repr, Inhabited

/-- An outbound e-mail that was logged. -/
structure EmailRecord where
  id : String := ""
  subject : String
  body : String
  fromEmail : String
  toEmails : List String
  relatedType : String
  relatedId : String
deriving DecidableEq, Repr, Inhabited

/-- A task as a record. -/
def TaskRecord.toFields (t : TaskRecord) : Fields := [
  ("id", .text t.id),
  ("title", .text t.title),
  ("description", Value.ofText? t.description),
  ("priority", .text t.priority),
  ("assignee_id", .text t.assigneeId),
  ("due_date", Value.ofText? (t.dueDate.map Instant.toText)),
  ("related_type", .text t.relatedType),
  ("related_id", .text t.relatedId)]

/-- An entry of the activity log as a record. -/
def ActivityRecord.toFields (a : ActivityRecord) : Fields := [
  ("id", .text a.id),
  ("activity_type", .text a.activityType),
  ("title", .text a.title),
  ("description", Value.ofText? a.description),
  ("user_id", .text a.userId),
  ("related_type", .text a.relatedType),
  ("related_id", .text a.relatedId)]

/-- An e-mail as a record. -/
def EmailRecord.toFields (e : EmailRecord) : Fields := [
  ("id", .text e.id),
  ("subject", .text e.subject),
  ("body", .text e.body),
  ("from_email", .text e.fromEmail),
  ("to_emails", .list (e.toEmails.map .text)),
  ("related_type", .text e.relatedType),
  ("related_id", .text e.relatedId)]

/-- The services with everything recorded so far. -/
structure Services where
  tasks : List TaskRecord := []
  activities : List ActivityRecord := []
  emails : List EmailRecord := []
  /-- The identifiers of the tags by their names, in the order of their creation. -/
  tagIds : List (String × String) := []
  teams : List (String × List String) := []
deriving Repr, Inhabited

namespace Services

/-- The identifier issued after `count` others of its sort. -/
def issue (sort : String) (count : Nat) : String := sort ++ "#" ++ toString (count + 1)

/-- Creates a task. -/
def createTask (s : Services) (t : TaskRecord) : String × Services :=
  let id := issue "task" s.tasks.length
  (id, { s with tasks := s.tasks ++ [{ t with id }] })

/-- Creates an activity. -/
def createActivity (s : Services) (a : ActivityRecord) : String × Services :=
  let id := issue "activity" s.activities.length
  (id, { s with activities := s.activities ++ [{ a with id }] })

/-- Logs an e-mail. -/
def logEmail (s : Services) (e : EmailRecord) : String × Services :=
  let id := issue "email" s.emails.length
  (id, { s with emails := s.emails ++ [{ e with id }] })

/-- The tag with a name, if it is there. -/
def findTag (s : Services) (name : String) : Option String := s.tagIds.lookup name

/-- The tag with a name, created if it is not there. -/
def upsertTag (s : Services) (name : String) : String × Services :=
  match s.findTag name with
  | some id => (id, s)
  | none =>
    let id := issue "tag" s.tagIds.length
    (id, { s with tagIds := s.tagIds ++ [(name, id)] })

/-- The names of the tags in the order of their creation. -/
def tagNames (s : Services) : List String := s.tagIds.map Prod.fst

/-- The members of a team; an unknown team has none. -/
def teamMembers (s : Services) (teamId : String) : List String := (s.teams.lookup teamId).getD []

end Services
end RecordFlow
