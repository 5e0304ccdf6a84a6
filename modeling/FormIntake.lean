import FormIntake.Calendar.Clock
import FormIntake.Extension.Action
import FormIntake.Intake.Process
import FormIntake.Log.Output
import FormIntake.Main
import FormIntake.Store.Record
import FormIntake.Proofs.Form.Order
import FormIntake.Proofs.Visibility.Pass
import FormIntake.Proofs.Visibility.Solution
import FormIntake.Proofs.Visibility.Settling
import FormIntake.Proofs.Effect
import FormIntake.Proofs.Intake.Step
import FormIntake.Proofs.Rendering.Plain
import FormIntake.Proofs.Form.Filling
import FormIntake.Proofs.Intake.Frame
import FormIntake.Proofs.Intake.Acceptance
import FormIntake.Proofs.Json.Texts
import FormIntake.Proofs.Form.Stored
import FormIntake.Proofs.Form.Alike
import FormIntake.Proofs.Intake.HiddenValues
import FormIntake.Proofs.Intake.Stages
import FormIntake.Proofs.Intake.Writes
import FormIntake.Proofs.Intake.Keeping
import FormIntake.Proofs.Intake.Gain
import FormIntake.Proofs.Intake.Admission
import FormIntake.Proofs.Intake.Traffic
import FormIntake.Proofs.Intake.Addresses
import FormIntake.Proofs.Form.Pages
import FormIntake.Proofs.Form.Faults
import FormIntake.Proofs.Intake.Turns
import FormIntake.Proofs.Intake.Walk
import FormIntake.Proofs.Intake.Answering
import FormIntake.Proofs.Template.Grammar
import FormIntake.Proofs.Rendering.Encoding
import FormIntake.Proofs.Markup.References
import FormIntake.Proofs.Number.Integer
import FormIntake.Proofs.Rendering.Totality
import FormIntake.Proofs.Template.Writing
import FormIntake.Proofs.Rendering.Passes
import FormIntake.Proofs.Rendering.Markup
import FormIntake.Proofs.Extension.Registration
import FormIntake.Proofs.Extension.Refusal
import FormIntake.Proofs.Store.History
import FormIntake.Proofs.Form.Building
import FormIntake.Proofs.Command.Listing
import FormIntake.Proofs.Form.Factories
import FormIntake.Proofs.Command.Verdict
import FormIntake.Proofs.Visibility.Branches
import FormIntake.Proofs.Visibility.Greatest
import FormIntake.Proofs.Form.Reports
import FormIntake.Proofs.Form.Reuse
import FormIntake.Proofs.Intake.Deliveries
import FormIntake.Proofs.Intake.Scopes
import FormIntake.Proofs.Template.Urls
import FormIntake.Proofs.Intake.Timestamps
import FormIntake.Proofs.Installation.Expansion
import FormIntake.Proofs.Number.Digits
import FormIntake.Proofs.Number.Truncation
import FormIntake.Proofs.Rendering.UniqueIds
import FormIntake.Proofs.Calendar.Dates
import FormIntake.Proofs.Calendar.Bounds
import FormIntake.Proofs.Intake.Schedule
