import FormIntake.Intake.Run
import FormIntake.Calendar.Bound
import FormIntake.Submission.Request

/-! # Gates

Before anything is kept, a submission passes two gates: the limits on entries, and the schedule of
the form.  A gate lets it pass with null or stops it with what it is answered.  Visitors with the
right to bypass gates, and extensions, can leave them open.
-/

namespace FormIntake

open Calendar Definition

namespace Gate

/-- A refusal with one of the form's own texts, which extensions can replace. -/
def refuse (service : Service) (hook : Hook) (key usual : String) : Step Subject := do
  let message ← Step.ask fun form => form.phrase key usual
  Step.atDesk (service.bus.filter hook (.reply (.refused (.ofMessage message))))

/-- Whether the visitor, or an extension, leaves a gate open. -/
def isOpen (service : Service) (hook : Hook) : Step Bool := do
  return (← Step.atDesk (service.bus.filter hook (.data (.bool service.mayBypass)))).isTruthy

/-! ### Limits on entries -/

/-- Who an entry of the same submitter is looked for by; visitors who are not logged in are no
users. -/
def submitter? (form : Form) (request : Request) : Option Submitter :=
  match form.definition.submitterKey with
  | .user => request.user.map fun user => .user user.id
  | .address => some (.address request.address)

/-- Whether the submitter has an entry already. -/
def hasEntry (service : Service) (request : Request) : Step Bool := do
  let form ← Step.ask id
  let found ← match submitter? form request with
    | none => pure false
    | some submitter => do
      Step.enter (.soughtEntry form.id submitter)
      Step.query (·.entryExists form.id submitter)
  return (← Step.atDesk (service.bus.filter .entryExists (.data (.bool found)))).isTruthy

/-- Whether a count has come to a limit, which is positive. -/
def reaches (count : Subject) (limit : Int) : Except Failure Bool :=
  match count with
  | .data (.int n) => .ok (limit ≤ n)
  | .data (.bool b) => .ok (limit ≤ if b then 1 else 0)
  | .data (.float (.infinite negative)) => .ok !negative
  | .data (.float x) => .ok ((x.truncate?).any fun n => limit ≤ n)
  | count => .error (.incomparable count.kindName "int")

/-- What a log record shows of a count. -/
def shownCount : Subject → Value
  | .data value => value
  | _ => .null

/-- Refuse a second entry of one submitter, if the form takes one from each. -/
def refuseRepeated (service : Service) (request : Request) : Step (Option Subject) := do
  let form ← Step.ask id
  if !form.definition.onePerSubmitter then return none
  if !(← hasEntry service request) then return none
  Step.log .info "Blocked repeat submission"
    [("form_id", .int form.id), ("policy", .text form.definition.submitterKey.name)]
  some <$> refuse service .repeatedEntryError "onlyOneSubmissionAllowed"
    "Only one submission is allowed."

/-- Refuse more entries than the form's limit, if it has one. -/
def refuseSurplus (service : Service) (limit : Int) : Step Subject := do
  let form ← Step.ask id
  Step.enter (.countedEntries form.id)
  let stored ← Step.query (·.countEntries form.id)
  let count ← Step.atDesk (service.bus.filter .entryCount (.data (.int stored)))
  if !(← (reaches count limit : Except Failure _)) then return .null
  Step.log .info "Entry limit reached"
    [("form_id", .int form.id), ("count", shownCount count), ("limit", .int limit)]
  refuse service .entryLimitError "thisFormIsCurrentlyClosed"
    "This form is currently closed for submissions."

/-- The gate of the limits on entries. -/
def checkLimits (service : Service) (request : Request) : Step Subject := do
  let form ← Step.ask id
  if !(service.settings.saveEntries && form.definition.saveEntry) then return .null
  if ← isOpen service .bypassEntryLimits then return .null
  match ← refuseRepeated service request with
  | some refusal => return refusal
  | none =>
    match form.definition.entryLimit with
    | some limit => if 0 < limit then refuseSurplus service limit else return .null
    | none => return .null

/-! ### The schedule -/

/-- A bound of the schedule; one that cannot be read does not count. -/
def bound? (text : String) : Step (Option DateTime) := do
  if text = "" then return none
  match parseBound text with
  | some bound => return some bound
  | none => do
    Step.log .warning "Ignoring unparseable schedule bound" [("value", .text text)]
    return none

/-- The gate of the schedule. -/
def checkSchedule (service : Service) : Step Subject := do
  let form ← Step.ask id
  let definition := form.definition
  if !definition.hasSchedule then return .null
  if definition.scheduleStart = "" && definition.scheduleEnd = "" then return .null
  if ← isOpen service .bypassSchedule then return .null
  let now := service.renderer.now
  if (← bound? definition.scheduleStart).any now.before then
    Step.log .info "Form not yet open"
      [("form_id", .int form.id), ("start", .text definition.scheduleStart)]
    refuse service .scheduleStartError "formIsNotYetOpenForSubmissions"
      "This form is not yet open for submissions."
  else if (← bound? definition.scheduleEnd).any (·.before now) then
    Step.log .info "Form closed"
      [("form_id", .int form.id), ("end", .text definition.scheduleEnd)]
    refuse service .scheduleEndError "formIsNoLongerOpenForSubmissions"
      "This form is no longer open for submissions."
  else return .null

/-- Both gates, the limits first; the second one counts where the first lets the submission
pass. -/
def check (service : Service) (request : Request) : Step Subject := do
  let limits ← checkLimits service request
  if limits.isTruthy then return limits
  checkSchedule service

end Gate
end FormIntake
