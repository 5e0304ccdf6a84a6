import FormIntake.Rendering.Renderer
import FormIntake.Store.Repository
import FormIntake.Log.Record
import FormIntake.Definition.Message

/-! # Runs

What happens around the form while one submission is processed: the repository, the uploads that are
kept for the visitor, a journal of all dealings with the outside, the mails that were handed to the mail
server, and the log.  `Step` is a part of a run that can fail; what was done before it failed stays done.
-/

namespace FormIntake

open Installation (LogLevel)

/-- A notification as the mail server gets it: for the recipients that its own ones stand for. -/
structure Mail where
  notification : Definition.Notification
  subject : String
  body : String
  deriving DecidableEq, Repr

/-- A mail server: why it does not take a mail, if it does not. -/
abbrev Transport := Mail → Option Failure

/-- What processing depends on beside the renderer. -/
structure Service where
  renderer : Renderer := {}
  /-- The token that the visitor's session was given. -/
  sessionToken : String := ""
  /-- Values from earlier pages, under the ids of their fields. -/
  uploads : List (String × Value) := []
  /-- Whether the visitor may pass the gates. -/
  mayBypass : Bool := false
  /-- The mail server; one that takes all mails if nothing else is said. -/
  transport : Transport := fun _ => none

def Service.settings (service : Service) : Installation.Settings := service.renderer.settings

def Service.bus (service : Service) : Bus := service.renderer.bus

/-- A dealing with the outside. -/
inductive Event where
  | soughtEntry (form : Int) (submitter : Submitter)
  | countedEntries (form : Int)
  | mergedUploads
  | createdEntry (form : Int)
  | movedUploads (entry : Option Int)
  | savedValues (entry : Int) (values : List (Int × String))
  | sent (name subject body : String) (recipients : List String)
  | copied (table : String) (row : List (String × String))
  | clearedUploads (key : String)
  deriving DecidableEq, Repr

/-- The dealing that sending a mail is. -/
def Mail.event (mail : Mail) : Event :=
  .sent mail.notification.name mail.subject mail.body mail.notification.recipients

structure Run where
  desk : Desk
  repository : Repository
  /-- The keys under which uploads are kept for the visitor. -/
  staged : List String := []
  journal : List Event := []
  /-- The mails that were handed to the mail server, whether it has taken them or not. -/
  handed : List Mail := []
  log : List Log.Record := []

abbrev Step (α : Type) := ExceptT Failure (StateM Run) α

namespace Step

/-- Work at the desk as a part of a run. -/
def atDesk {α : Type} (work : Work α) : Step α := fun run =>
  let (result, desk) := work.perform run.desk
  (result, { run with desk })

/-- Work at the desk of which a failure is a result. -/
def attempt {α : Type} (work : Work α) : Step (Except Failure α) := fun run =>
  let (result, desk) := work.perform run.desk
  (.ok result, { run with desk })

/-- Something about the form. -/
def ask {α : Type} (look : Form → α) : Step α := return look (← get).desk.form

/-- Change the form. -/
def change (update : Form → Form) : Step Unit := atDesk (Work.change update)

/-- Write an event into the journal. -/
def enter (event : Event) : Step Unit :=
  modify fun run => { run with journal := run.journal ++ [event] }

/-- Write a record into the log. -/
def log (level : LogLevel) (event : String) (fields : List (String × Value)) : Step Unit :=
  modify fun run => { run with log := run.log ++ [⟨level, event, fields⟩] }

/-- Ask the repository. -/
def query {α : Type} (question : Repository → Except Failure α) : Step α := do
  (question (← get).repository : Except Failure _)

/-- Change the repository. -/
def store (change : Repository → Except Failure Repository) : Step Unit := do
  let repository ← (change (← get).repository : Except Failure _)
  modify fun run => { run with repository }

/-- Change the repository with something new as the result. -/
def storeNew {α : Type} (change : Repository → Except Failure (α × Repository)) : Step α := do
  let (result, repository) ← (change (← get).repository : Except Failure _)
  modify fun run => { run with repository }
  return result

/-- What comes of a part of a run, and the run after it. -/
def perform {α : Type} (step : Step α) (run : Run) : Except Failure α × Run := StateT.run step.run run

end Step
end FormIntake
