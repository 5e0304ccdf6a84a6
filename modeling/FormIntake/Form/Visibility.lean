import FormIntake.Form.Basic
import FormIntake.Form.Comparison

/-! # Visibility

An element is hidden when the page or group that lists it is hidden, or when its own logic counts
and does not let it appear.  As rules may look at elements anywhere in the form, passes over all
elements in reading order are repeated until one changes nothing, at most as many as there are
elements.
-/

namespace FormIntake

open Definition

namespace Form

/-- Whether a rule holds, given which elements are hidden: it looks at a field that is visible and
whose value meets it. -/
def ruleHolds (form : Form) (flags : Flags) (rule : Rule) : Bool :=
  match form.field? rule.target with
  | some field => !flags.isHidden field.id && (form.value field).meets rule.operator rule.value
  | none => false

/-- Whether the owner of a logic appears, as far as its rules go. -/
def appears (form : Form) (logic : Logic) : Bool := logic.verdict (form.ruleHolds form.flags)

/-- Whether an element has to be hidden, given which elements are. -/
def hides (form : Form) (flags : Flags) (node : Node Validator) : Bool :=
  node.parent.any flags.isHidden ||
    (node.item.logic.isActive && !node.item.logic.verdict (form.ruleHolds flags))

/-- The flags after one element was looked at, and whether any flag has changed. -/
def look (form : Form) (state : Flags × Bool) (node : Node Validator) : Flags × Bool :=
  let (flags, changed) := state
  let hidden := form.hides flags node
  if hidden = flags.isHidden node.id then (flags, changed) else (flags.set node.id hidden, true)

/-- The flags after a pass over all elements, and whether any flag has changed. -/
def pass (form : Form) (flags : Flags) : Flags × Bool := form.nodes.foldl form.look (flags, false)

/-- Passes until one changes nothing, at most so many. -/
def settle (form : Form) : (rounds : Nat) → Flags → Flags
  | 0, flags => flags
  | rounds + 1, flags =>
    let (next, changed) := form.pass flags
    if changed then form.settle rounds next else next

/-- The form with its elements hidden and shown as its values ask for. -/
def refreshVisibility (form : Form) : Form :=
  { form with flags := form.settle form.nodes.length .visible }

/-- The ids of the hidden elements in reading order. -/
def hiddenIds (form : Form) : List Int := (form.nodes.map Node.id).filter form.isHidden

end Form
end FormIntake
