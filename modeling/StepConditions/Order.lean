import StepConditions.Error
import StepConditions.Text.Search
import StepConditions.Value

/-!
# Order and equality of operands

Numbers are ordered by their doubles, values of one kind by that kind, and any others by their
texts; null has no place in the order. Equality looks at the kinds: two integers are compared
exactly, other numbers by their doubles, and values of different kinds are never equal.
-/
namespace StepConditions.Value

/-- False before true. -/
def boolOrder : Bool → Bool → Ordering
  | false, true => .lt
  | true, false => .gt
  | _, _ => .eq

/-- The order of two values of which neither is null. -/
def orderPresent (a b : Value) : Ordering :=
  match a.float?, b.float? with
  | some x, some y => x.order y
  | _, _ =>
    match a, b with
    | bool p, bool q => boolOrder p q
    | a, b => Text.order a.asText b.asText

/-- The order of a current value relative to the expected one. -/
def order (actual expected : Value) : Except Error Ordering :=
  if actual.isNull then .error (.invalidArgument "actual value is null")
  else if expected.isNull then .error (.invalidArgument "expected value is null")
  else .ok (orderPresent actual expected)

def equal (a b : Value) : Bool :=
  match a, b with
  | null, null => true
  | null, _ => false
  | _, null => false
  | text s, text t => s == t
  | bool p, bool q => p == q
  | raw s, raw t => s == t
  | a, b =>
    match a.int?, b.int? with
    | some i, some j => i == j
    | _, _ =>
      match a.float?, b.float? with
      | some x, some y => x.sameValue y
      | _, _ => false

end StepConditions.Value
