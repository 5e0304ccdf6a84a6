import FormIntake.Form.Report
import FormIntake.Proofs.Form.Filling
import FormIntake.Proofs.Result

/-! # What a report lists

The plain report and the report in markup are made from one sequence of elements (`Form.listed`), each
with its own way to write a line.  It has the elements that are visible, not empty unless empty ones are
asked for, and meant for mails, in reading order and each once.

A line shows the label of a page or group, the content of a block, and of a field its label and its value
(`Form.shownInText`, `Form.shownInMarkup`), with nothing around them but the layout of the report
(`LaidOut`).

Where hidden elements hide what is below them, whatever is filled in stands under its headings: a page or
group around a visible field with a value is visible and not empty itself, so that it is listed if it has
a label that is meant for mails, and before the field (`Form.exists_split_of_mem_descendants`).
The flags that `Form.refreshVisibility` leaves behind are of this kind (`Form.reports_of_bind`). -/

namespace FormIntake

open Definition

namespace Definition

/-- Whether a heading has a label that is meant for mails. -/
def Heading.isReported (heading : Heading) : Bool := heading.showLabelInEmail && heading.label != ""

/-- Whether an element is meant for mails. -/
def Item.isReported {V : Type} : Item V → Bool
  | .page p => p.heading.isReported
  | .group heading _ => heading.isReported
  | .field f => f.showInEmail
  | .block b => b.showInEmail

end Definition

namespace Form

variable (form : Form) (showEmpty : Bool)

/-- An element is listed in a report: it is visible, not empty unless empty ones are asked for, and meant
for mails. -/
def IsListed (node : Node Validator) : Prop :=
  form.isHidden node.id = false ∧ (form.isEmpty node.item = true → showEmpty = true) ∧
    node.item.isReported = true

instance (node : Node Validator) : Decidable (form.IsListed showEmpty node) :=
  inferInstanceAs (Decidable (_ ∧ _))

/-- The elements that are listed in a report. -/
def listed : List (Node Validator) := form.nodes.filter fun node => form.IsListed showEmpty node

/-- What stands in a report for an element that is listed. -/
def line : Item Validator → ReportRow
  | .page p => .page p.heading.label
  | .group heading _ => .group heading.label
  | .block b => .block b.content
  | .field f => .field f.reportLabel (form.value f)

/-! ### The lines of a report -/

theorem reportRow?_eq (item : Item Validator) :
    form.reportRow? item = if item.isReported then some (form.line item) else none := by
  cases item <;> rfl

theorem mem_listed_iff {node : Node Validator} :
    node ∈ form.listed showEmpty ↔ node ∈ form.nodes ∧ form.IsListed showEmpty node := by
  rw [listed, List.mem_filter, decide_eq_true_eq]

/-- The lines of a report are those of the elements that are listed. -/
theorem reportRows_eq :
    form.reportRows showEmpty = (form.listed showEmpty).map fun node => form.line node.item := by
  unfold reportRows listed
  rw [← List.filterMap_eq_filter, List.map_filterMap]
  congr 1
  funext node
  rw [reportRow?_eq]
  cases hv : form.isHidden node.id with
  | true => simp [Option.guard, IsListed, hv]
  | false =>
      cases he : form.isEmpty node.item <;> cases showEmpty <;>
        simp [Option.guard, IsListed, hv, he]

/-! ### What a line shows -/

/-- An output is put together of these texts in this order, with pieces of a layout around them. -/
inductive LaidOut (layout : List String) : List String → String → Prop
  | nil : LaidOut layout [] ""
  | piece {piece rest : String} {texts : List String} (hp : piece ∈ layout)
      (h : LaidOut layout texts rest) : LaidOut layout texts (piece ++ rest)
  | text {text rest : String} {texts : List String} (h : LaidOut layout texts rest) :
      LaidOut layout (text :: texts) (text ++ rest)

/-- What stands around the texts of a plain report. -/
def textLayout : List String := [ReportRow.lineBreak, ReportRow.rule '=', ReportRow.rule '-']

/-- What stands around the texts of a report in markup, its opening and its closing apart. -/
def markupLayout : List String :=
  [ReportRow.openRow "" ReportRow.pageStyle, ReportRow.openRow "" ReportRow.groupStyle,
   ReportRow.openRow "" ReportRow.blockStyle,
   ReportRow.openRow " bgcolor=\"#efefef\"" ReportRow.labelStyle,
   ReportRow.openRow " bgcolor=\"#fcfcfc\"" ReportRow.valueStyle, ReportRow.closeRow]

/-- What a plain report shows of an element; of a block that is its text, if it can be read. -/
def shownInText : Item Validator → Except Failure (List String)
  | .page p => .ok [p.heading.label]
  | .group heading _ => .ok [heading.label]
  | .block b => (Markup.plainText b.content).map fun text => [text]
  | .field f => .ok [f.reportLabel, (form.value f).plain ReportRow.lineBreak]

/-- What a report in markup shows of an element: all labels escaped. -/
def shownInMarkup : Item Validator → List String
  | .page p => [Markup.escaped p.heading.label]
  | .group heading _ => [Markup.escaped heading.label]
  | .block b => [b.content]
  | .field f => [Markup.escaped f.reportLabel, (form.value f).markup]

namespace LaidOut

variable {layout texts : List String}

/-- A text that ends with two line breaks. -/
theorem closed (content : String) :
    LaidOut textLayout [content] (content ++ ReportRow.lineBreak ++ ReportRow.lineBreak) := by
  have hbreak : ReportRow.lineBreak ∈ textLayout := by simp [textLayout]
  have h : LaidOut textLayout [content] (content ++ _) := text (nil.piece hbreak |>.piece hbreak)
  simpa only [String.append_empty, String.append_assoc] using h

/-- A label between two rules. -/
theorem banner (label : String) :
    LaidOut textLayout [label]
      (ReportRow.banner label ++ ReportRow.lineBreak ++ ReportRow.lineBreak) := by
  have hbreak : ReportRow.lineBreak ∈ textLayout := by simp [textLayout]
  have hrule : ReportRow.rule '=' ∈ textLayout := by simp [textLayout]
  have hend : LaidOut textLayout [label] (label ++ _) :=
    text (nil.piece hbreak |>.piece hbreak |>.piece hrule |>.piece hbreak)
  have h := hend.piece hbreak |>.piece hrule
  simpa only [ReportRow.banner, String.append_empty, String.append_assoc] using h

/-- A label and a value with a rule between them. -/
theorem labelled (label value : String) :
    LaidOut textLayout [label, value] (label ++ ReportRow.lineBreak ++ ReportRow.rule '-' ++
      ReportRow.lineBreak ++ value ++ ReportRow.lineBreak ++ ReportRow.lineBreak) := by
  have hbreak : ReportRow.lineBreak ∈ textLayout := by simp [textLayout]
  have hrule : ReportRow.rule '-' ∈ textLayout := by simp [textLayout]
  have hvalue : LaidOut textLayout [value] (value ++ _) := text (nil.piece hbreak |>.piece hbreak)
  have h : LaidOut textLayout [label, value] (label ++ _) :=
    text (hvalue.piece hbreak |>.piece hrule |>.piece hbreak)
  simpa only [String.append_empty, String.append_assoc] using h

/-- A row of the table in front of others. -/
theorem row {background style shown rest : String} {content : List Markup.Fragment}
    (h : LaidOut markupLayout texts rest) (hp : ReportRow.openRow background style ∈ markupLayout)
    (hc : Markup.write content = shown) :
    LaidOut markupLayout (shown :: texts)
      (Markup.write (ReportRow.row background style content) ++ rest) := by
  have hclose : ReportRow.closeRow ∈ markupLayout := by simp [markupLayout]
  have hcell : LaidOut markupLayout (Markup.write content :: texts) (Markup.write content ++ _) :=
    text (h.piece hclose)
  subst hc
  rw [ReportRow.row, Markup.write_append, Markup.write_cons, String.append_assoc, String.append_assoc]
  exact hcell.piece hp

/-- A table of one row. -/
theorem single {background style shown : String} {content : List Markup.Fragment}
    (hp : ReportRow.openRow background style ∈ markupLayout) (hc : Markup.write content = shown) :
    LaidOut markupLayout [shown] (Markup.write (ReportRow.row background style content)) := by
  have h := nil.row hp hc
  rwa [String.append_empty] at h

end LaidOut

/-- The line of a plain report for an element, if there is one, shows what the element has to show. -/
theorem laidOut_plain {item : Item Validator} {line : String}
    (h : (form.line item).plain = .ok line) :
    ∃ texts, form.shownInText item = .ok texts ∧ LaidOut textLayout texts line := by
  obtain ⟨content, hc, rfl⟩ := exists_of_map_eq_ok h
  cases item with
  | page p =>
      cases hc
      exact ⟨_, rfl, .banner p.heading.label⟩
  | group heading children =>
      cases hc
      exact ⟨_, rfl, .banner heading.label⟩
  | block b =>
      have hread : Markup.plainText b.content = .ok content := hc
      refine ⟨[content], ?_, .closed content⟩
      rw [shownInText, hread]
      rfl
  | field f =>
      cases hc
      exact ⟨_, rfl, .labelled f.reportLabel _⟩

/-- There is no line of a plain report for a block that cannot be read. -/
theorem exists_block_of_plain_eq_error {item : Item Validator} {failure : Failure}
    (h : (form.line item).plain = .error failure) :
    ∃ block, item = .block block ∧ Markup.plainText block.content = .error failure := by
  cases item with
  | page p => cases h
  | group heading children => cases h
  | field f => cases h
  | block b =>
      have hmap : _ <$> Markup.plainText b.content = .error failure := h
      exact ⟨b, rfl, map_eq_error_iff.mp hmap⟩

/-- The rows of a report in markup for an element show what the element has to show. -/
theorem laidOut_fragments (item : Item Validator) :
    LaidOut markupLayout (form.shownInMarkup item) (Markup.write (form.line item).fragments) := by
  have htext : ∀ text : String, Markup.write [.text text] = Markup.escaped text := fun text => by
    simp [Markup.write, Markup.Fragment.written]
  cases item with
  | page p => exact .single (by simp [markupLayout]) (htext _)
  | group heading children => exact .single (by simp [markupLayout]) (htext _)
  | block b =>
      refine .single (by simp [markupLayout]) ?_
      simp [Markup.write, Markup.Fragment.written]
  | field f =>
      have hvalue : LaidOut markupLayout [(form.value f).markup] (Markup.write
          (ReportRow.row " bgcolor=\"#fcfcfc\"" ReportRow.valueStyle (form.value f).fragments)) :=
        .single (by simp [markupLayout]) rfl
      have hlabel : ReportRow.openRow " bgcolor=\"#efefef\"" ReportRow.labelStyle ∈ markupLayout := by
        simp [markupLayout]
      have hrow := hvalue.row hlabel (htext f.reportLabel)
      rwa [← Markup.write_append] at hrow

/-! ### Headings -/

variable {form} {showEmpty}

/-- What is visible and stands below an element has that element visible, where hidden elements hide what
is below them. -/
theorem HidesBelow.isHidden_of_mem_descendants (hb : form.HidesBelow) {node below : Node Validator}
    (hn : node ∈ form.nodes) (hd : below ∈ node.item.descendants)
    (hv : form.isHidden below.id = false) : form.isHidden node.id = false := by
  rw [← Bool.not_eq_true]
  intro hh
  rw [hb node hn hh below hd] at hv
  cases hv

/-- A page or group around a visible field with a value is not empty. -/
theorem isEmpty_eq_false_of_mem_descendants {item : Item Validator}
    {field : Definition.Field Validator} {parent : Option Int}
    (hd : ⟨.field field, parent⟩ ∈ item.descendants) (hv : form.isHidden field.id = false)
    (he : (form.value field).isEmpty = false) : form.isEmpty item = false := by
  have hbelow : field ∈ item.fieldsBelow := List.mem_filterMap.mpr ⟨_, hd, rfl⟩
  have hall : (item.fieldsBelow.all fun f => form.isHidden f.id || (form.value f).isEmpty) = false :=
    List.all_eq_false.mpr ⟨field, hbelow, by simp [hv, he]⟩
  cases item with
  | page p => exact hall
  | group heading children => exact hall
  | field f => cases hd
  | block b => cases hd

/-- Of two elements that are listed in a report the one that is below the other stands behind it. -/
theorem exists_split_of_mem_descendants {node below : Node Validator}
    (hn : node ∈ form.listed showEmpty) (hb : below ∈ form.listed showEmpty)
    (hd : below ∈ node.item.descendants) :
    ∃ before after, form.listed showEmpty = before ++ below :: after ∧ node ∈ before := by
  rw [mem_listed_iff] at hn hb
  have hpair : [node, below].Sublist (form.listed showEmpty) := by
    have hnodes := (List.singleton_sublist.mpr hd).cons_cons node |>.trans
      (form.cons_descendants_sublist hn.1)
    have hkept : [node, below].filter (fun node => form.IsListed showEmpty node) = [node, below] := by
      simp [hn.2, hb.2]
    exact hkept ▸ hnodes.filter fun node => form.IsListed showEmpty node
  obtain ⟨first, second, hs, hfirst, hsecond⟩ := List.append_sublist_iff.mp
    (show ([node] ++ [below]).Sublist (form.listed showEmpty) from hpair)
  obtain ⟨between, after, rfl⟩ := List.append_of_mem (List.singleton_sublist.mp hsecond)
  refine ⟨first ++ between, after, by rw [hs, List.append_assoc], ?_⟩
  exact List.mem_append_left _ (List.singleton_sublist.mp hfirst)

/-- A report in plain text and one in markup are made from the same elements, line by line: in reading
order, each once, those that are visible, not empty unless empty ones are asked for, and meant for mails.
Each line shows the label of its page or group, the content of its block, or the label and the value of its
field, and nothing else but layout; a plain report is there unless a block in it cannot be read.  All pages
and groups around a field with a value whose labels are meant for mails are listed before it. -/
theorem reports_of_bind (form : Form) (submission : Submission) (showEmpty : Bool) :
    let filled := (form.bind submission).refreshVisibility
    let listed := filled.listed showEmpty
    (∃ lines, filled.markupReport showEmpty =
        reportOpening ++ String.join lines ++ ("</table>" ++ ReportRow.lineBreak) ∧
      List.Forall₂ (fun node line => LaidOut markupLayout (filled.shownInMarkup node.item) line)
        listed lines) ∧
    (∀ report, filled.plainReport showEmpty = .ok report → ∃ lines, report = String.join lines ∧
      List.Forall₂ (fun node line => ∃ texts, filled.shownInText node.item = .ok texts ∧
        LaidOut textLayout texts line) listed lines) ∧
    (∀ failure, filled.plainReport showEmpty = .error failure → ∃ node ∈ listed, ∃ block,
      node.item = .block block ∧ Markup.plainText block.content = .error failure) ∧
    listed.Sublist filled.nodes ∧ (listed.map Node.id).Nodup ∧
    (∀ node, node ∈ listed ↔ node ∈ filled.nodes ∧ filled.IsListed showEmpty node) ∧
    ∀ node ∈ listed, ∀ field, node.item = .field field → (filled.value field).isEmpty = false →
      ∀ around ∈ filled.nodes, node ∈ around.item.descendants → around.item.isReported = true →
        ∃ before after, listed = before ++ node :: after ∧ around ∈ before := by
  intro filled listed
  have hb : filled.HidesBelow := hidesBelow_refreshVisibility _
  have hsublist : listed.Sublist filled.nodes := List.filter_sublist
  have hplain : filled.plainReport showEmpty =
      (listed.mapM fun node => (filled.line node.item).plain).map String.join := by
    rw [plainReport, reportRows_eq, List.mapM_map]
    rfl
  refine ⟨?_, ?_, ?_, hsublist, ?_, fun node => filled.mem_listed_iff showEmpty, ?_⟩
  · refine ⟨listed.map fun node => Markup.write (filled.line node.item).fragments, ?_, ?_⟩
    · rw [markupReport, reportFragments, reportRows_eq]
      rw [List.flatMap_map, Markup.write_append, Markup.write_cons, Markup.write_flatMap]
      rfl
    · rw [List.forall₂_map_right_iff, List.forall₂_same]
      exact fun node _ => filled.laidOut_fragments node.item
  · intro report hr
    rw [hplain] at hr
    obtain ⟨lines, hl, rfl⟩ := exists_of_map_eq_ok hr
    exact ⟨lines, rfl, (mapM_eq_ok_iff.mp hl).imp fun node line h => filled.laidOut_plain h⟩
  · intro failure hr
    rw [hplain] at hr
    have hlines : (listed.mapM fun node => (filled.line node.item).plain) = .error failure :=
      map_eq_error_iff.mp hr
    obtain ⟨before, node, after, hlisted, -, hn⟩ := exists_split_of_mapM_eq_error hlines
    exact ⟨node, by simp [hlisted], filled.exists_block_of_plain_eq_error hn⟩
  · exact (hsublist.map Node.id).nodup filled.distinct
  · intro node hn field hf he around ha hd hr
    obtain ⟨-, hv, -, -⟩ := (filled.mem_listed_iff showEmpty).mp hn
    obtain ⟨item, parent⟩ := node
    obtain rfl : item = .field field := hf
    have haround : around ∈ listed := by
      refine (filled.mem_listed_iff showEmpty).mpr
        ⟨ha, hb.isHidden_of_mem_descendants ha hd hv, fun hempty => ?_, hr⟩
      rw [isEmpty_eq_false_of_mem_descendants hd hv he] at hempty
      cases hempty
    exact exists_split_of_mem_descendants haround hn hd

end Form
end FormIntake
