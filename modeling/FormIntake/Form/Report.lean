import FormIntake.Form.Basic
import FormIntake.Markup.Strip

/-! # Reports

A report lists what was filled in: the visible elements that are meant for mails, in reading order.
It is written as plain text, unless a block in it cannot be read, or as a table of markup in which
all labels and values are escaped.
-/

namespace FormIntake

open Definition
open Markup (Fragment)

/-- A line of a report. -/
inductive ReportRow where
  | page (label : String)
  | group (label : String)
  | block (content : String)
  | field (label : String) (value : FieldValue)

namespace Form

/-- The line for an element, if its kind of element is reported and it has what is reported. -/
def reportRow? (form : Form) : Item Validator → Option ReportRow
  | .page p => if p.heading.showLabelInEmail && p.heading.label != "" then
      some (.page p.heading.label) else none
  | .group h _ => if h.showLabelInEmail && h.label != "" then some (.group h.label) else none
  | .block b => if b.showInEmail then some (.block b.content) else none
  | .field f => if f.showInEmail then some (.field f.reportLabel (form.value f)) else none

/-- The lines of a report: of the visible elements, and without `showEmpty` only of those that are
not empty. -/
def reportRows (form : Form) (showEmpty : Bool) : List ReportRow :=
  form.nodes.filterMap fun node =>
    if form.isHidden node.id || (form.isEmpty node.item && !showEmpty) then none
    else form.reportRow? node.item

end Form

namespace ReportRow

/-- The line break of mails. -/
def lineBreak : String := "\r\n"

/-- A rule of 25 characters. -/
def rule (c : Char) : String := String.ofList (List.replicate 25 c)

/-- A label between two rules. -/
def banner (label : String) : String :=
  rule '=' ++ lineBreak ++ label ++ lineBreak ++ rule '='

/-- What a line shows in a plain text; of a block that is its text, if it can be read. -/
def plainContent : ReportRow → Except Failure String
  | .page label => .ok (banner label)
  | .group label => .ok (banner label)
  | .block content => Markup.plainText content
  | .field label value =>
    .ok (label ++ lineBreak ++ rule '-' ++ lineBreak ++ value.plain lineBreak)

/-- The line in a plain text. -/
def plain (row : ReportRow) : Except Failure String :=
  row.plainContent.map (· ++ lineBreak ++ lineBreak)

/-! ### Markup -/

def tableStyle : String :=
  "table-layout: fixed; background: #ffffff; border-spacing: 0; border-collapse: separate; " ++
  "border-bottom: 1px solid #d4d4d4; box-shadow: 0 2px 7px 0 rgba(0, 0, 0, 0.07);"

def blockStyle : String :=
  "padding: 10px; font-family: Helvetica, Arial, sans-serif; font-size: 16px; color: #282828; " ++
  "line-height: 130%; border: 1px solid #d4d4d4; border-bottom: 0; word-wrap: break-word;"

def pageStyle : String :=
  "padding: 10px; font-family: Helvetica, Arial, sans-serif; font-size: 22px; font-weight: bold; " ++
  "background-color: #c73412; color: #ffffff; border-bottom: 1px solid #e14e2c; " ++
  "word-wrap: break-word;"

def groupStyle : String :=
  "padding: 10px; font-family: Helvetica, Arial, sans-serif; font-size: 17px; " ++
  "background-color: #c73412; color: #ffffff; word-wrap: break-word;"

def labelStyle : String :=
  "padding: 10px; font-family: Helvetica, Arial, sans-serif; font-size: 15px; font-weight: bold; " ++
  "color: #282828; border: 1px solid #d4d4d4; border-bottom: 0; word-wrap: break-word;"

def valueStyle : String :=
  "padding: 10px; font-family: Helvetica, Arial, sans-serif; font-size: 14px; color: #282828; " ++
  "line-height: 130%; border: 1px solid #d4d4d4; border-bottom-color: #fff; word-wrap: break-word;"

/-- The opening of a row with one cell; the background is an attribute of the row. -/
def openRow (background style : String) : String :=
  "<tr" ++ background ++ "><td valign=\"top\" style=\"" ++ style ++ "\">"

def closeRow : String := "</td></tr>" ++ lineBreak

/-- A row of the table. -/
def row (background style : String) (content : List Fragment) : List Fragment :=
  .markup (openRow background style) :: content ++ [.markup closeRow]

/-- The line as rows of the table. -/
def fragments : ReportRow → List Fragment
  | .page label => row "" pageStyle [.text label]
  | .group label => row "" groupStyle [.text label]
  | .block content => row "" blockStyle [.markup content]
  | .field label value =>
    row " bgcolor=\"#efefef\"" labelStyle [.text label] ++
    row " bgcolor=\"#fcfcfc\"" valueStyle value.fragments

end ReportRow

namespace Form

/-- The report as plain text, if all its blocks can be read. -/
def plainReport (form : Form) (showEmpty : Bool) : Except Failure String :=
  ((form.reportRows showEmpty).mapM ReportRow.plain).map String.join

/-- The opening of the table. -/
def reportOpening : String :=
  "<table width=\"100%\" cellpadding=\"10\" cellspacing=\"0\" border=\"0\" style=\"" ++
    ReportRow.tableStyle ++ "\">" ++ ReportRow.lineBreak

/-- The report as fragments of markup. -/
def reportFragments (form : Form) (showEmpty : Bool) : List Fragment :=
  .markup reportOpening :: (form.reportRows showEmpty).flatMap ReportRow.fragments ++
    [.markup ("</table>" ++ ReportRow.lineBreak)]

/-- The report as a table of markup. -/
def markupReport (form : Form) (showEmpty : Bool) : String :=
  Markup.write (form.reportFragments showEmpty)

end Form
end FormIntake
