import FormIntake.Form.FieldValue
import FormIntake.Text.Split
import FormIntake.Number.Reading

/-! # Comparing a field's value with a text

How the operators of rules compare.  The options of a list are compared one by one; the order of
two texts is that of the numbers that they stand for, and there is none unless both are numbers.
-/

namespace FormIntake

open Text Number Definition

/-- Whether two texts are numbers of which the first is smaller. -/
def numberBefore (a b : String) : Bool :=
  match readBinary64? a.toList, readBinary64? b.toList with
  | some x, some y => Binary64.lt x y
  | _, _ => false

namespace Definition.Operator

/-- How the operator compares two texts. -/
def compares (op : Operator) (actual expected : String) : Bool :=
  match op with
  | .eq => actual = expected
  | .neq => actual ≠ expected
  | .gt => numberBefore expected actual
  | .lt => numberBefore actual expected
  | .contains => occursIn expected.toList actual.toList
  | .startsWith => expected.toList.isPrefixOf actual.toList
  | .endsWith => expected.toList.isSuffixOf actual.toList
  | .empty => false
  | .notEmpty => false

end Definition.Operator

namespace FieldValue

/-- Whether the value stands in an operator's relation to a text. -/
def meets (value : FieldValue) (op : Operator) (expected : String) : Bool :=
  match op with
  | .empty => value.isEmpty
  | .notEmpty => !value.isEmpty
  | op =>
    match value with
    | .options items =>
      match op with
      | .eq => items.contains expected
      | .neq => !items.contains expected
      | op => items.any fun option => op.compares option expected
    | value => op.compares (value.plain ", ") expected

end FieldValue
end FormIntake
