/-! # Hooks

The points of a submission at which extensions have their say, each with the arguments that an
implementation can ask for.
-/

namespace FormIntake

inductive Hook where
  | postProcess
  | postSaveEntryData
  | postSetEntryId
  | postSetFormValues
  | postValidate
  | preProcess
  | preValidate
  | csrfFailure
  | bypassEntryLimits
  | bypassSchedule
  | entryCount
  | entryLimitError
  | repeatedEntryError
  | entryExists
  | scheduleEndError
  | scheduleStartError
  | allDataHtml
  | allDataText
  | elementValue
  | token
  | ambientToken
  deriving DecidableEq, Repr

namespace Hook

/-- All hooks: those of the stages, those of the gates and those of templates, each group in
alphabetical order. -/
def all : List Hook :=
  [.csrfFailure, .postProcess, .postSaveEntryData, .postSetEntryId, .postSetFormValues,
   .postValidate, .preProcess, .preValidate,
   .bypassEntryLimits, .bypassSchedule, .entryCount, .entryLimitError, .entryExists,
   .repeatedEntryError, .scheduleEndError, .scheduleStartError,
   .allDataHtml, .allDataText, .elementValue, .token, .ambientToken]

def name : Hook → String
  | .csrfFailure => "formflow_csrf_failure_response"
  | .postProcess => "formflow_post_process"
  | .postSaveEntryData => "formflow_post_save_entry_data"
  | .postSetEntryId => "formflow_post_set_entry_id"
  | .postSetFormValues => "formflow_post_set_form_values"
  | .postValidate => "formflow_post_validate"
  | .preProcess => "formflow_pre_process"
  | .preValidate => "formflow_pre_validate"
  | .bypassEntryLimits => "formflow_bypass_entry_limits"
  | .bypassSchedule => "formflow_bypass_form_schedule"
  | .entryCount => "formflow_entry_count"
  | .entryLimitError => "formflow_entry_limit_reached_error"
  | .entryExists => "formflow_one_entry_per_user_entry_exists"
  | .repeatedEntryError => "formflow_one_entry_per_user_error"
  | .scheduleEndError => "formflow_schedule_end_error"
  | .scheduleStartError => "formflow_schedule_start_error"
  | .allDataHtml => "formflow_all_form_data_html"
  | .allDataText => "formflow_all_form_data_text"
  | .elementValue => "formflow_element_token_value"
  | .token => "formflow_replace_variables"
  | .ambientToken => "formflow_replace_variables_pre_process"

/-- The hook of a name. -/
def ofName? (name : String) : Option Hook := all.find? (·.name = name)

/-- The arguments that the hook offers. -/
def arguments : Hook → List String
  | .allDataHtml | .allDataText => ["value", "form", "show_empty_fields"]
  | .elementValue => ["value", "element", "fmt", "separator", "token"]
  | .token => ["value", "token", "fmt", "form"]
  | .ambientToken => ["value", "token", "fmt"]
  | _ => ["value", "form"]

end Hook
end FormIntake
