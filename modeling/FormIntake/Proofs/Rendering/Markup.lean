import FormIntake.Proofs.Form.Filling
import FormIntake.Proofs.Rendering.Encoding
import FormIntake.Proofs.Rendering.Totality

/-! # Values in markup

What reports and values become in markup: the markup of the program itself, of which there are a few
pieces that never change (`Markup.ownMarkup`), and between them escaped texts, from which the labels
and values that are shown are read back in their order (`Markup.Encloses`).  So nothing that is
submitted or configured as a label opens or closes a tag, and nothing of it is lost.

This holds of what stands for a token wherever it occurs in a template
(`Renderer.displays_of_render`), reports with blocks of content apart, which are markup already. -/

namespace FormIntake

open Template Definition Text Number
open Markup (Fragment)

namespace Markup

/-! ### Escaped texts between markup -/

/-- The pieces of markup that values and reports are put together of. -/
def ownMarkup : List String :=
  [Form.reportOpening,
   ReportRow.openRow "" ReportRow.pageStyle,
   ReportRow.openRow "" ReportRow.groupStyle,
   ReportRow.openRow " bgcolor=\"#efefef\"" ReportRow.labelStyle,
   ReportRow.openRow " bgcolor=\"#fcfcfc\"" ReportRow.valueStyle,
   ReportRow.closeRow,
   "</table>" ++ ReportRow.lineBreak,
   FieldValue.listOpening,
   "<li class=\"formflow-value-list-item\">",
   "</li>",
   "</ul>",
   "<br />",
   "<br />\n"]

/-- A piece of markup is an escaped text: no character in it opens or closes a tag or an attribute, and
the text is read back from it. -/
structure IsEscape (text piece : String) : Prop where
  eq_escaped : piece = escaped text
  isSpecial_eq_false : ∀ c ∈ piece.toList, isSpecial c = false
  unescape_eq : unescape piece.toList = text.toList

theorem isEscape_escaped (text : String) : IsEscape text (escaped text) where
  eq_escaped := rfl
  isSpecial_eq_false c hc := by
    rw [escaped, String.toList_ofList] at hc
    cases hs : isSpecial c with
    | false => rfl
    | true => exact absurd hc (not_mem_escape hs text.toList)
  unescape_eq := by rw [escaped, String.toList_ofList, unescape_escape]

/-- The output is made of own markup and of escaped texts, which are these texts in this order. -/
inductive Encloses : List String → String → Prop
  | nil : Encloses [] ""
  | markup {source rest : String} {texts : List String} (own : source ∈ ownMarkup)
      (h : Encloses texts rest) : Encloses texts (source ++ rest)
  | text {text piece rest : String} {texts : List String} (escape : IsEscape text piece)
      (h : Encloses texts rest) : Encloses (text :: texts) (piece ++ rest)

namespace Encloses

variable {source : String} {texts more : List String} {fragments others : List Fragment}

theorem append {output rest : String} (h : Encloses texts output) (hr : Encloses more rest) :
    Encloses (texts ++ more) (output ++ rest) := by
  induction h with
  | nil => rwa [String.empty_append]
  | markup own _ ih =>
      rw [String.append_assoc]
      exact ih.markup own
  | text escape _ ih =>
      rw [String.append_assoc]
      exact ih.text escape

theorem of_text (text : String) : Encloses [text] (escaped text) := by
  have h : Encloses [text] (escaped text ++ "") := nil.text (isEscape_escaped text)
  rwa [String.append_empty] at h

theorem write_append (h : Encloses texts (write fragments)) (ho : Encloses more (write others)) :
    Encloses (texts ++ more) (write (fragments ++ others)) := by
  rw [Markup.write_append]
  exact h.append ho

theorem markup_cons (h : Encloses texts (write fragments)) (own : source ∈ ownMarkup) :
    Encloses texts (write (.markup source :: fragments)) := by
  rw [write_cons]
  exact h.markup own

theorem text_cons (h : Encloses texts (write fragments)) (text : String) :
    Encloses (text :: texts) (write (.text text :: fragments)) := by
  rw [write_cons]
  exact h.text (isEscape_escaped text)

/-- Fragments between own markup. -/
theorem between (h : Encloses texts (write fragments)) (own : source ∈ ownMarkup) {closing : String}
    (hc : closing ∈ ownMarkup) :
    Encloses texts (write (.markup source :: fragments ++ [.markup closing])) := by
  have hclosing : Encloses [] (write [.markup closing]) := nil.markup_cons hc
  rw [← List.append_nil texts]
  exact (h.markup_cons own).write_append hclosing

theorem flatMap {α : Type} {f : α → List Fragment} {g : α → List String} :
    ∀ {as : List α}, (∀ a ∈ as, Encloses (g a) (write (f a))) →
      Encloses (as.flatMap g) (write (as.flatMap f))
  | [], _ => nil
  | a :: as, h => by
    obtain ⟨ha, has⟩ := List.forall_mem_cons.mp h
    rw [List.flatMap_cons, List.flatMap_cons]
    exact ha.write_append (flatMap has)

/-- Texts with own markup between them. -/
theorem intersperse (own : source ∈ ownMarkup) : ∀ texts : List String,
    Encloses texts (write ((texts.map Fragment.text).intersperse (.markup source)))
  | [] => nil
  | [last] => text_cons nil last
  | first :: next :: rest => by
    rw [List.map_cons, List.map_cons, List.intersperse_cons_cons]
    exact ((intersperse own (next :: rest)).markup_cons own).text_cons first

end Encloses

end Markup

open Markup

/-! ### Values -/

namespace FieldValue

/-- The texts that a value shows: the lines of a text, the options, or the parts that are filled in. -/
def texts : FieldValue → List String
  | .text s => textLines s
  | .options items => items
  | .parts entries => filled entries

theorem encloses_optionFragments (item : String) :
    Encloses [item] (write (optionFragments item)) := by
  have hclose : Encloses [] (write [.markup "</li>"]) := Encloses.nil.markup_cons (by simp [ownMarkup])
  exact (hclose.text_cons item).markup_cons (by simp [ownMarkup])

/-- A value in markup encloses the texts that it shows. -/
theorem encloses_fragments (value : FieldValue) : Encloses value.texts (write value.fragments) := by
  unfold fragments
  split
  · next he =>
    cases value with
    | text s =>
        have hs : s = "" := by simpa [isEmpty] using he
        rw [hs]
        exact Encloses.of_text ""
    | options items =>
        have hi : items = [] := by simpa [isEmpty] using he
        rw [hi]
        exact .nil
    | parts entries =>
        have hf : filled entries = [] := by
          rw [isEmpty, List.all_eq_true] at he
          rw [filled, List.filter_eq_nil_iff, List.forall_mem_map]
          intro entry hentry
          simpa using he entry hentry
        rw [texts, hf]
        exact .nil
  · cases value with
    | text s => exact Encloses.intersperse (by simp [ownMarkup]) (textLines s)
    | options items =>
        have hitems := Encloses.flatMap fun item (_ : item ∈ items) => encloses_optionFragments item
        rw [List.flatMap_singleton'] at hitems
        exact hitems.between (by simp [ownMarkup]) (by simp [ownMarkup])
    | parts entries => exact Encloses.intersperse (by simp [ownMarkup]) (filled entries)

/-- What a token for the value shows: all of it, or the part that the token names. -/
def textsOf (value : FieldValue) (name : List Char) : Except Failure (List String) :=
  if name.isEmpty then .ok value.texts else (value.part name).map fun text => [text]

end FieldValue

/-! ### Reports -/

/-- The label of a page or group, if there is one to be shown. -/
def Definition.Heading.shownLabels (heading : Heading) : List String :=
  if heading.showLabelInEmail && heading.label != "" then [heading.label] else []

namespace Form

/-- A report looks at the element: it is visible, and it is not empty or empty ones are shown. -/
def reports (form : Form) (showEmpty : Bool) (node : Node Validator) : Bool :=
  !form.isHidden node.id && (showEmpty || !form.isEmpty node.item)

/-- The texts that an element has for a report: the label of a page or group, and of a field its label
and its value. -/
def itemTexts (form : Form) : Item Validator → List String
  | .page page => page.heading.shownLabels
  | .group heading _ => heading.shownLabels
  | .block _ => []
  | .field field => if field.showInEmail then field.reportLabel :: (form.value field).texts else []

/-- The texts of a report in reading order. -/
def reportTexts (form : Form) (showEmpty : Bool) : List String :=
  (form.nodes.filter (form.reports showEmpty)).flatMap fun node => form.itemTexts node.item

/-- No block of content is meant for reports. -/
def ReportsNoBlock (form : Form) : Prop :=
  ∀ node ∈ form.nodes, ∀ block, node.item = .block block → block.showInEmail = false

end Form

/-- The fragments that an element has in a report. -/
def Form.itemFragments (form : Form) (item : Item Validator) : List Fragment :=
  (form.reportRow? item).elim [] ReportRow.fragments

namespace ReportRow

theorem encloses_label {style : String} (own : openRow "" style ∈ ownMarkup) (label : String) :
    Encloses [label] (write (row "" style [.text label])) :=
  (Encloses.nil.text_cons label).between own (by simp [ownMarkup])

theorem encloses_field (label : String) (value : FieldValue) :
    Encloses (label :: value.texts) (write (ReportRow.field label value).fragments) := by
  have hlabel : Encloses [label] (write (row " bgcolor=\"#efefef\"" labelStyle [.text label])) :=
    (Encloses.nil.text_cons label).between (by simp [ownMarkup]) (by simp [ownMarkup])
  have hvalue : Encloses value.texts (write (row " bgcolor=\"#fcfcfc\"" valueStyle value.fragments)) :=
    value.encloses_fragments.between (by simp [ownMarkup]) (by simp [ownMarkup])
  exact hlabel.write_append hvalue

end ReportRow

namespace Form

variable (form : Form)

theorem encloses_heading {heading : Heading} (line : String → ReportRow) {style : String}
    (own : ReportRow.openRow "" style ∈ ownMarkup)
    (hl : ∀ label, (line label).fragments = ReportRow.row "" style [.text label]) :
    Encloses heading.shownLabels
      (write ((if heading.showLabelInEmail && heading.label != "" then some (line heading.label)
        else none).elim [] ReportRow.fragments)) := by
  unfold Heading.shownLabels
  split
  · rw [Option.elim_some, hl]
    exact ReportRow.encloses_label own heading.label
  · exact .nil

theorem encloses_item {item : Item Validator}
    (hb : ∀ block, item = .block block → block.showInEmail = false) :
    Encloses (form.itemTexts item) (write (form.itemFragments item)) := by
  unfold itemFragments
  cases item with
  | page page => exact encloses_heading .page (by simp [ownMarkup]) fun _ => rfl
  | group heading children => exact encloses_heading .group (by simp [ownMarkup]) fun _ => rfl
  | block block =>
      rw [reportRow?, hb block rfl]
      exact .nil
  | field field =>
      rw [reportRow?, itemTexts]
      split
      · exact ReportRow.encloses_field field.reportLabel (form.value field)
      · exact .nil

theorem flatMap_reportRows (showEmpty : Bool) :
    (form.reportRows showEmpty).flatMap ReportRow.fragments =
      (form.nodes.filter (form.reports showEmpty)).flatMap fun node => form.itemFragments node.item := by
  unfold reportRows
  induction form.nodes with
  | nil => rfl
  | cons node nodes ih =>
      have hreports : form.reports showEmpty node =
          !(form.isHidden node.id || (form.isEmpty node.item && !showEmpty)) := by
        rw [reports, Bool.not_or, Bool.not_and, Bool.not_not, Bool.or_comm showEmpty]
      rw [List.filterMap_cons, List.filter_cons, hreports]
      cases form.isHidden node.id || (form.isEmpty node.item && !showEmpty) with
      | true => exact ih
      | false =>
          simp only [Bool.false_eq_true, if_false, Bool.not_false, if_true, List.flatMap_cons, ← ih]
          cases hrow : form.reportRow? node.item with
          | none => simp [itemFragments, hrow]
          | some row => simp [itemFragments, hrow]

/-- A report in markup encloses the labels and values that it shows. -/
theorem encloses_report {form : Form} (hb : form.ReportsNoBlock) (showEmpty : Bool) :
    Encloses (form.reportTexts showEmpty) (form.markupReport showEmpty) := by
  have hitems : Encloses (form.reportTexts showEmpty)
      (write ((form.reportRows showEmpty).flatMap ReportRow.fragments)) := by
    rw [flatMap_reportRows]
    exact Encloses.flatMap fun node hn => form.encloses_item (hb node (List.mem_of_mem_filter hn))
  exact hitems.between (by simp [ownMarkup]) (by simp [ownMarkup])

end Form

/-! ### Tokens -/

namespace Renderer

/-- A part of the output stands in markup for a segment of the template: for literal text the text, and
for a report or a value markup that encloses what it shows.  Nothing is said of other tokens. -/
def Displays (form : Form) : Segment → String → Prop
  | .literal text, part => part = text
  | .token token, part =>
    (token.name = "all_form_data" → form.ReportsNoBlock →
      Encloses (form.reportTexts (token.isOn "showEmptyFields")) part) ∧
    (token.name = "element" → token.param? "format" = none →
      ∀ reference field name, token.param? "id" = some reference →
        fieldReference form reference = (some field, name) → form.isHidden field.id = false →
        ∃ texts, (form.value field).textsOf name = .ok texts ∧ Encloses texts part)

variable {renderer : Renderer} {form : Form} {request : Request} {token : Token}

/-- In markup a token of the form alone is what the form says of it. -/
theorem tokenText_of_resolved {text : String} (hn : token.name ∉ ambientTokens)
    (h : renderer.resolved form .html token = .ok (.text text)) :
    renderer.tokenText form .html request token = .ok text := by
  have hambient : renderer.ambientText form .html request token = .ok token.raw := by
    rw [ambientText, ambient?_eq_none_iff.mpr hn]
    rfl
  unfold tokenText
  rw [h]
  show (if (Subject.text text).isText token.raw then _ else _) = _
  split
  · next hraw =>
    have hraw : text = token.raw := by simpa [Subject.isText] using hraw
    rw [hambient, hraw]
  · rw [Subject.plain_text]
    rfl

theorem resolved_report (renderer : Renderer) (form : Form) (h : token.name = "all_form_data") :
    renderer.resolved form .html token =
      .ok (.text (form.markupReport (token.isOn "showEmptyFields"))) := by
  unfold resolved
  rw [h]
  rfl

theorem resolved_element (renderer : Renderer) (form : Form) (h : token.name = "element") :
    renderer.resolved form .html token = (elementText form .html token).map Subject.text := by
  unfold resolved
  rw [h]
  rfl

/-- What an element token shows in markup encloses the texts that it asks for. -/
theorem encloses_of_elementText {reference : String} {field : Definition.Field Validator}
    {name : List Char} {text : String} (hformat : token.param? "format" = none)
    (hid : token.param? "id" = some reference)
    (hfield : fieldReference form reference = (some field, name))
    (hvisible : form.isHidden field.id = false) (h : elementText form .html token = .ok text) :
    ∃ texts, (form.value field).textsOf name = .ok texts ∧ Encloses texts text := by
  have hasked : orElse ((token.param? "format").getD "") Format.html.name = Format.html.name := by
    rw [hformat]
    rfl
  unfold elementText at h
  rw [hid] at h
  dsimp only at h
  rw [hfield] at h
  dsimp only at h
  rw [hasked, hvisible, if_neg Bool.false_ne_true] at h
  unfold FieldValue.textsOf
  split at h
  · next hname =>
    rw [if_pos rfl] at h
    cases h
    rw [if_pos hname]
    exact ⟨_, rfl, (form.value field).encloses_fragments⟩
  · next hname =>
    obtain ⟨shown, hshown, rfl⟩ := exists_of_map_eq_ok h
    rw [if_neg hname, hshown, if_pos rfl]
    exact ⟨[shown], rfl, Encloses.of_text shown⟩

theorem displays_of_tokenText {part : String}
    (h : renderer.tokenText form .html request token = .ok part) :
    Displays form (.token token) part := by
  constructor
  · intro hname hblock
    have htext : renderer.tokenText form .html request token = .ok _ :=
      tokenText_of_resolved (by rw [hname]; decide) (resolved_report renderer form hname)
    cases h.symm.trans htext
    exact Form.encloses_report hblock _
  · intro hname hformat reference field name hid hfield hvisible
    have hresolved := resolved_element renderer form hname
    cases he : elementText form .html token with
    | error failure =>
        rw [he] at hresolved
        unfold tokenText at h
        rw [hresolved] at h
        cases h
    | ok text =>
        rw [he] at hresolved
        have htext : renderer.tokenText form .html request token = .ok text :=
          tokenText_of_resolved (by rw [hname]; decide) hresolved
        cases h.symm.trans htext
        exact encloses_of_elementText hformat hid hfield hvisible he

/-- The token is a report, or asks a value for what can be read of it. -/
def IsShowing (form : Form) (token : Token) : Prop :=
  token.name = "all_form_data" ∨ token.name = "element" ∧ ¬ AsksUnreadable form token

theorem exists_tokenText_of_isShowing (h : IsShowing form token) :
    ∃ part, renderer.tokenText form .html request token = .ok part := by
  rcases h with hname | ⟨hname, hasks⟩
  · exact ⟨_, tokenText_of_resolved (by rw [hname]; decide) (resolved_report renderer form hname)⟩
  · obtain ⟨text, ht⟩ := (failsWhen_elementText form .html token).exists_ok hasks
    have hresolved := resolved_element renderer form hname
    rw [ht] at hresolved
    exact ⟨_, tokenText_of_resolved (by rw [hname]; decide) hresolved⟩

/-- In markup a template becomes its literal text, and between it reports and values that enclose what
they show, with nothing in them that could be taken for markup.  A template of reports and values that
can be read always becomes that.  The values of a form that is bound are those that were submitted. -/
theorem displays_of_render (renderer : Renderer) (hb : renderer.bus.Idle) (template : String)
    (request : Request) (desk : Desk) :
    ((∀ token, .token token ∈ parse template → IsShowing desk.form token) →
      ∃ output, (renderer.render template .html request).perform desk = (.ok output, desk)) ∧
    (∀ output after, (renderer.render template .html request).perform desk = (.ok output, after) →
      ∃ parts, output = String.join parts ∧
        List.Forall₂ (Displays desk.form) (parse template) parts) ∧
    ∀ (form : Form) (submission : Submission), desk.form = (form.bind submission).refreshVisibility →
      ∀ field ∈ desk.form.fields,
        desk.form.value field = field.kind.coerce (submission.valueFor field.id) := by
  rw [render_of_idle hb]
  refine ⟨?_, ?_, ?_⟩
  · intro hshowing
    obtain ⟨parts, hp⟩ : ∃ parts, (parse template).mapM
        (segmentText (renderer.tokenText desk.form .html request)) = .ok parts := by
      refine exists_mapM_eq_ok fun segment hs => ?_
      cases segment with
      | literal text => exact ⟨text, rfl⟩
      | token token => exact exists_tokenText_of_isShowing (hshowing token hs)
    have hr : renderer.rendered desk.form .html request template = .ok (String.join parts) := by
      show (parse template).mapM (segmentText (renderer.tokenText desk.form .html request)) >>= _ = _
      rw [hp]
      rfl
    exact ⟨String.join parts, Prod.ext hr rfl⟩
  · intro output after h
    have hr : renderer.rendered desk.form .html request template = .ok output := congrArg Prod.fst h
    unfold rendered at hr
    obtain ⟨parts, hp, hj⟩ := exists_of_bind_eq_ok hr
    cases hj
    refine ⟨parts, rfl, (mapM_eq_ok_iff.mp hp).imp fun segment part hs => ?_⟩
    cases segment with
    | literal text =>
        cases hs
        rfl
    | token token => exact displays_of_tokenText hs
  · intro form submission hd field hf
    rw [hd] at hf ⊢
    exact Form.value_bind hf submission

/-- A field for an address. -/
def addressField : Definition.Field Validator := { id := 4, kind := .compound, label := "Address" }

/-- A form with labels that look like markup. -/
def larder : Form where
  definition := { id := 1, pages := [] }
  pages := [{
    heading := { id := 1, label := "Tea & \"jam\"", showLabelInEmail := true }
    children := [
      .field { id := 2, label := "It's" },
      .field { id := 3, kind := .multi, label := "Kinds", adminLabel := "<b>" },
      .field addressField] }]
  distinct := by decide

/-- The desk on which it is filled in with values that look like markup. -/
def stocked : Desk where
  form := (larder.bind { values := [
    ("2", .text "<script>\r\n'x'"), ("3", .list [.text "a<b", .text ""]),
    ("4", .record [("city", .text "Rome & Ostia"), ("code", .text "")])] }).refreshVisibility

def larderTemplate : String := "\x7belement|id:4.city\x7d: \x7ball_form_data\x7d"

/-- The tokens of the template. -/
def cityToken : Token := .ofBody "element|id:4.city".toList "\x7belement|id:4.city\x7d"

def reportToken : Token := .ofBody "all_form_data".toList "\x7ball_form_data\x7d"

theorem displays_of_render_larder :
    ∃ city report, (render {} larderTemplate .html {}).perform stocked =
        (.ok (city ++ ": " ++ report), stocked) ∧
      Encloses ["Rome & Ostia"] city ∧
      Encloses ["Tea & \"jam\"", "It's", "<script>", "'x'", "<b>", "a<b", "", "Address",
        "Rome & Ostia"] report := by
  have hparse : parse larderTemplate = [.token cityToken, .literal ": ", .token reportToken] := by
    decide +kernel
  have hfield : fieldReference stocked.form "4.city" = (some addressField, "city".toList) := by
    have hread : readInteger? ['4'] = some 4 := by decide
    have hsplit : splitFirst '.' "4.city".toList = (['4'], some "city".toList) := by decide
    rw [fieldReference, hsplit]
    dsimp only
    rw [hread]
    rfl
  have hid : cityToken.param? "id" = some "4.city" := by decide
  have hvalue : stocked.form.value addressField =
      .parts [("city", "Rome & Ostia"), ("code", "")] := by decide +kernel
  have hshowing : ∀ token, .token token ∈ parse larderTemplate → IsShowing stocked.form token := by
    rw [hparse]
    intro token ht
    rcases List.mem_cons.mp ht with ht | ht
    · cases ht
      refine .inr ⟨by decide, ?_⟩
      rintro ⟨reference, field, name, hr, hf, -, ⟨items, hu⟩, -⟩
      cases hid.symm.trans hr
      cases hfield.symm.trans hf
      cases hvalue.symm.trans hu
    · have ht : token = reportToken := by simpa using ht
      rw [ht]
      exact .inl (by decide)
  obtain ⟨hrendered, hdisplays, -⟩ := displays_of_render {} Bus.idle_empty larderTemplate {} stocked
  obtain ⟨output, ho⟩ := hrendered hshowing
  obtain ⟨parts, rfl, hp⟩ := hdisplays output stocked ho
  rw [hparse] at hp
  obtain _ | @⟨_, city, _, _, hcity, hp⟩ := hp
  obtain _ | @⟨_, _, _, _, rfl, hp⟩ := hp
  obtain _ | @⟨_, report, _, _, hreport, _ | _⟩ := hp
  have hshownCity : Encloses ["Rome & Ostia"] city := by
    obtain ⟨texts, ht, he⟩ :=
      hcity.2 (by decide) (by decide) "4.city" _ _ hid hfield (by decide +kernel)
    rw [hvalue] at ht
    cases ht
    exact he
  have hblock : stocked.form.ReportsNoBlock := by
    have hkind : ∀ node ∈ stocked.form.nodes, node.item.typeName ≠ "html" := by decide +kernel
    intro node hn block hb
    have hk := hkind node hn
    rw [hb] at hk
    exact absurd rfl hk
  have htexts : stocked.form.reportTexts (reportToken.isOn "showEmptyFields") =
      ["Tea & \"jam\"", "It's", "<script>", "'x'", "<b>", "a<b", "", "Address", "Rome & Ostia"] := by
    decide +kernel
  have hshownReport := hreport.1 (by decide) hblock
  rw [htexts] at hshownReport
  refine ⟨city, report, ?_, hshownCity, hshownReport⟩
  have hjoin : String.join [city, ": ", report] = city ++ ": " ++ report := by
    simp [String.join_cons, String.append_assoc]
  rw [← hjoin]
  exact ho

end Renderer
end FormIntake
