import ModelSync.Predicate.Basic
import ModelSync.Error
/-!
Compiling a predicate to a filter object. Match-all compiles to no filter at
all. Otherwise a leaf becomes `{field: {operator: operand}}`, an `and` or `or`
group `{"and"|"or": [children]}` (an empty group is allowed), and a `not`
group with exactly one child `{"not": child}`.

Two shapes have no filter: a `not` group without exactly one child, and a
match-all below a group. The error names the first such node in pre-order.
-/
namespace ModelSync.Predicate

/-- The error for a match-all inside a group. -/
def nestedAllError : BuildError :=
  .invalidPredicate "match-all predicate cannot be nested inside a group"

/-- The error for a `not` group with `n` children. -/
def notArityError (n : Nat) : BuildError :=
  .invalidPredicate ("not requires exactly one child, got " ++ toString n)

mutual

/-- The filter object of a predicate below or at the root, match-all refused. -/
def compileNode : Predicate → Except BuildError JsonValue
  | all => .error nestedAllError
  | leaf field comparison =>
    .ok (.object [(field, .object [(comparison.name, comparison.operand)])])
  | group .not children =>
    match children with
    | [child] => (compileNode child).map fun c => .object [("not", c)]
    | other => .error (notArityError other.length)
  | group kind children =>
    (compileChildren children).map fun cs => .object [(kind.name, .array cs)]

/-- The filter objects of a group's children, in order; the first error wins. -/
def compileChildren : List Predicate → Except BuildError (List JsonValue)
  | [] => .ok []
  | p :: rest => do
    let c ← compileNode p
    let cs ← compileChildren rest
    pure (c :: cs)

end

/-- The filter of a predicate: none for match-all, else the compiled object. -/
def compile (p : Predicate) : Except BuildError (Option JsonValue) :=
  match p with
  | all => .ok none
  | other => (compileNode other).map some

end ModelSync.Predicate
