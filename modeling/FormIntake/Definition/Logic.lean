import FormIntake.Schema.Reading

/-! # Conditional logic

Rules compare the value of a field with a text.  A logic is a list of rules, of which all or any
have to hold, and says whether its owner then appears or disappears.  It counts only when it is
switched on and has a rule (`Logic.isActive`).
-/

namespace FormIntake.Definition

open Schema

/-- How a rule compares a field's value with its text. -/
inductive Operator where
  | eq
  | neq
  | empty
  | notEmpty
  | gt
  | lt
  | contains
  | startsWith
  | endsWith
  deriving DecidableEq, Repr

namespace Operator

def all : List Operator :=
  [.eq, .neq, .empty, .notEmpty, .gt, .lt, .contains, .startsWith, .endsWith]

def name : Operator → String
  | .eq => "eq"
  | .neq => "neq"
  | .empty => "empty"
  | .notEmpty => "not_empty"
  | .gt => "gt"
  | .lt => "lt"
  | .contains => "contains"
  | .startsWith => "starts_with"
  | .endsWith => "ends_with"

end Operator

/-- What happens to the owner of a logic whose rules hold. -/
inductive LogicAction where
  | appear
  | vanish
  deriving DecidableEq, Repr

namespace LogicAction

def all : List LogicAction := [.appear, .vanish]

def name : LogicAction → String
  | .appear => "show"
  | .vanish => "hide"

end LogicAction

/-- How many rules have to hold. -/
inductive LogicMatch where
  | all
  | any
  deriving DecidableEq, Repr

namespace LogicMatch

def choices : List LogicMatch := [.all, .any]

def name : LogicMatch → String
  | .all => "all"
  | .any => "any"

end LogicMatch

structure Rule where
  /-- The id of the field that the rule looks at. -/
  target : Int
  operator : Operator := .eq
  value : String := ""
  deriving DecidableEq, Repr

structure Logic where
  enabled : Bool := false
  action : LogicAction := .appear
  quorum : LogicMatch := .all
  rules : List Rule := []
  deriving DecidableEq, Repr

namespace Logic

/-- Whether the logic counts: it is switched on and has a rule. -/
def isActive (logic : Logic) : Bool := logic.enabled && !logic.rules.isEmpty

/-- Whether the owner appears, given which rules hold. -/
def verdict (logic : Logic) (holds : Rule → Bool) : Bool :=
  let met := match logic.quorum with
    | .all => logic.rules.all holds
    | .any => logic.rules.any holds
  match logic.action with
  | .appear => met
  | .vanish => !met

end Logic

/-! ### Reading and writing -/

def Rule.reader : Reader Rule := record "LogicRuleSettings" fun e =>
  Rule.mk <$> must "element_id" int e
    <*> may "operator" .eq (oneOf Operator.all Operator.name) e
    <*> may "value" "" text e

def Logic.reader : Reader Logic := record "LogicSettings" fun e =>
  Logic.mk <$> may "enabled" false bool e
    <*> may "action" .appear (oneOf LogicAction.all LogicAction.name) e
    <*> may "match" .all (oneOf LogicMatch.choices LogicMatch.name) e
    <*> may "rules" [] (list Rule.reader) e

def Rule.toValue (rule : Rule) : Value :=
  .record [("element_id", .int rule.target), ("operator", .text rule.operator.name),
    ("value", .text rule.value)]

def Logic.toValue (logic : Logic) : Value :=
  .record [("enabled", .bool logic.enabled), ("action", .text logic.action.name),
    ("match", .text logic.quorum.name), ("rules", .list (logic.rules.map Rule.toValue))]

end FormIntake.Definition
