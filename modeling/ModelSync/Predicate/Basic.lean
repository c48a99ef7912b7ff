import ModelSync.Json.Value
/-!
Query predicates: match-all, a comparison of one field with a literal, or a
group that joins predicates with `and`, `or` or `not`. Combining a predicate
with another of the same kind appends to its group; otherwise the two become
a new group of two. The right-hand side is never flattened, so combining
keeps every leaf, in order.
-/
namespace ModelSync

/-- A comparison of a field with a literal. -/
inductive Comparison where
  | eq (value : JsonValue)
  | ne (value : JsonValue)
  | gt (value : JsonValue)
  | ge (value : JsonValue)
  | lt (value : JsonValue)
  | le (value : JsonValue)
  | contains (value : JsonValue)
  | notContains (value : JsonValue)
  | beginsWith (value : JsonValue)
  | between (start stop : JsonValue)
  deriving Inhabited, Repr

namespace Comparison

/-- The operator's name. -/
def name : Comparison → String
  | eq _ => "eq"
  | ne _ => "ne"
  | gt _ => "gt"
  | ge _ => "ge"
  | lt _ => "lt"
  | le _ => "le"
  | contains _ => "contains"
  | notContains _ => "notContains"
  | beginsWith _ => "beginsWith"
  | between _ _ => "between"

/-- The literal compared with; a range is the pair `[start, stop]`. -/
def operand : Comparison → JsonValue
  | eq v | ne v | gt v | ge v | lt v | le v | contains v | notContains v | beginsWith v => v
  | between start stop => .array [start, stop]

/-- The single-literal comparison with this operator name. -/
def ofName? (name : String) (value : JsonValue) : Option Comparison :=
  match name with
  | "eq" => some (eq value)
  | "ne" => some (ne value)
  | "gt" => some (gt value)
  | "ge" => some (ge value)
  | "lt" => some (lt value)
  | "le" => some (le value)
  | "contains" => some (contains value)
  | "notContains" => some (notContains value)
  | "beginsWith" => some (beginsWith value)
  | _ => none

end Comparison

/-- How a group joins its predicates. -/
inductive GroupKind where
  | and
  | or
  | not
  deriving DecidableEq, Repr, Inhabited

/-- The group kind's name. -/
def GroupKind.name : GroupKind → String
  | .and => "and"
  | .or => "or"
  | .not => "not"

/-- The group kinds by name. -/
def GroupKind.names : List (String × GroupKind) := [("and", .and), ("or", .or), ("not", .not)]

/-- A query predicate. -/
inductive Predicate where
  /-- Matches every record. -/
  | all
  /-- Compares one field. -/
  | leaf (field : String) (comparison : Comparison)
  /-- Joins predicates. -/
  | group (kind : GroupKind) (children : List Predicate)
  deriving Inhabited, Repr

namespace Predicate

/-- Whether the predicate matches every record by construction. -/
def isAll : Predicate → Bool
  | all => true
  | _ => false

/-- A group of the given kind over these predicates. -/
def groupOf (kind : GroupKind) (children : List Predicate) : Predicate := group kind children

/-- `p` joined with `q` by `kind`: appended when `p` is already a group of that
kind, otherwise the group `[p, q]`. -/
def combine (kind : GroupKind) (p q : Predicate) : Predicate :=
  match p with
  | group k children => if k = kind then group k (children ++ [q]) else group kind [p, q]
  | _ => group kind [p, q]

/-- `p` and `q`. -/
def and (p q : Predicate) : Predicate := combine .and p q

/-- `p` or `q`. -/
def or (p q : Predicate) : Predicate := combine .or p q

/-- Not `p`: the group `not [p]`. -/
def negate (p : Predicate) : Predicate := group .not [p]

/-- The leaves in order, left to right. -/
def leaves : Predicate → List (String × Comparison)
  | all => []
  | leaf f c => [(f, c)]
  | group _ children => leavesOf children
where
  /-- The leaves of a list of predicates, in order. -/
  leavesOf : List Predicate → List (String × Comparison)
    | [] => []
    | p :: rest => leaves p ++ leavesOf rest

end Predicate
end ModelSync
