import ModelSync.Predicate.Basic
import ModelSync.Json.Decode
/-!
The serialized form of predicates, tagged by `"type"`:

* `{"type":"all"}`;
* `{"type":"operation","field":f,"operator":{op: literal}}`, a range written
  `{"between":[start, stop]}`;
* `{"type":"group","group":"and"|"or"|"not","predicates":[…]}`.

The tag may instead open an array that lists the other members in the order
above (`["operation", f, {op: literal}]`, `["all"]`). Inside a group the tag may
also be the kind's position (`0` match-all, `1` leaf, `2` group), and a group's
kind also reads from `{"and":{}}`.

A leaf may also be written in the short form
`{"leaf":{"field":f,"op":op,"value":v,"end":w}}`, at the top or inside a group,
an absent `value` or `end` standing for `null`. Reading descends one group
level per unit of `depth`; a read JSON value nests at most 127 levels, so the
bound `maxDepth` is never reached by a value the reader produced.
-/
namespace ModelSync

open JsonValue

/-- More group levels than any read JSON value has. -/
def Predicate.maxDepth : Nat := 128

namespace Comparison

/-- Reads an operator object `{op: literal}` or `{"between": [start, stop]}`. -/
def ofJson (v : JsonValue) : Decoded Comparison :=
  match v with
  | .object [("between", range)] =>
    match range with
    | .array [start, stop] => .ok (between start stop)
    | .array items => .error (.invalidLength items.length "tuple variant with 2 elements")
    | other => .error (.invalidType other.unexpected "tuple variant")
  | .object [(name, value)] =>
    match ofName? name value with
    | some c => .ok c
    | none => .error (.unknownVariant name)
  | other => .error (.invalidType other.unexpected "enum QueryOperator")

/-- Writes an operator object. -/
def toJson (c : Comparison) : JsonValue := .object [(c.name, c.operand)]

end Comparison

namespace Predicate

/-- Reads the short form of a leaf. -/
def shorthandOfJson (v : JsonValue) : Decoded Predicate := do
  v.requireObject "a leaf"
  let field ← (← v.field "field").asString
  let op ← (← v.field "op").asString
  let value := (v.get? "value").getD .null
  let stop := (v.get? "end").getD .null
  if op = "between" then pure (leaf field (.between value stop))
  else match Comparison.ofName? op value with
    | some c => pure (leaf field c)
    | none => throw (.unknownVariant op)

/-- The three kinds of tagged predicate, in their declared order. -/
def tagNames : List (String × Nat) := [("all", 0), ("operation", 1), ("group", 2)]

/-- The kind named by a tag: its name, or, for a predicate inside a group, also
its position `0`, `1` or `2` in the declared order. -/
def tagOf (inGroup : Bool) (tag : JsonValue) : Decoded Nat :=
  match tag with
  | .string name =>
    match tagNames.lookup name with
    | some k => .ok k
    | none => .error (.unknownVariant name)
  | .number (.integer n) =>
    if inGroup ∧ 0 ≤ n then
      if n < 3 then .ok n.toNat
      else .error (.invalidValue (.integer n) "variant index 0 <= i < 3")
    else .error (.invalidType (.integer n) "variant identifier")
  | other => .error (.invalidType other.unexpected "variant identifier")

/-- A tagged predicate split into its tag and the rest: the `"type"` member of
an object and the other members, or the first item of an array and the others. -/
def splitTag (v : JsonValue) : Decoded (JsonValue × JsonValue) :=
  match v with
  | .object members =>
    match members.lookup "type" with
    | some tag => .ok (tag, .object (members.filter fun (k, _) => k != "type"))
    | none => .error (.missingField "type")
  | .array (tag :: rest) => .ok (tag, .array rest)
  | .array [] => .error (.missingField "type")
  | other => .error (.invalidType other.unexpected "internally tagged enum QueryPredicate")

/-- Reads a predicate, descending at most `depth` group levels; `inGroup` tells
whether it stands inside a group. The members after the tag are a leaf's
`field` and `operator`, a group's `group` and `predicates`, by name or in that
order, and nothing for match-all. -/
def ofJsonWithin : Nat → Bool → JsonValue → Decoded Predicate
  | 0, _, _ => .error (.invalidLength Predicate.maxDepth "fewer nested groups")
  | depth + 1, inGroup, v =>
    match v.get? "leaf" with
    | some short => shorthandOfJson short
    | none => do
      let (tag, rest) ← splitTag v
      match ← tagOf inGroup tag with
      | 0 =>
        match rest with
        | .array (_ :: _) => throw (.invalidLength 1 "unit variant QueryPredicate::All")
        | _ => pure all
      | 1 =>
        let body ← asRecord ["field", "operator"] "struct variant QueryPredicate::Operation" rest
        let field ← (← body.field "field").asString
        let comparison ← Comparison.ofJson (← body.field "operator")
        pure (leaf field comparison)
      | _ =>
        let body ← asRecord ["group", "predicates"] "struct variant QueryPredicate::Group" rest
        let kind ← asTagWith true GroupKind.names (← body.field "group")
        let items ← (← body.field "predicates").asArray
        let children ← items.mapM (ofJsonWithin depth true)
        pure (group kind children)

/-- Reads a predicate. -/
def ofJson (v : JsonValue) : Decoded Predicate := ofJsonWithin maxDepth false v

/-- Reads an optional predicate: absent or `null` means match-all. -/
def ofJsonOrAll (v : Option JsonValue) : Decoded Predicate :=
  match v with
  | none | some .null => .ok all
  | some p => ofJson p

mutual

/-- Writes a predicate in its tagged form. -/
def toJson : Predicate → JsonValue
  | all => .object [("type", .string "all")]
  | leaf field c =>
    .object [("field", .string field), ("operator", c.toJson), ("type", .string "operation")]
  | group kind children =>
    .object [("group", .string kind.name), ("predicates", .array (toJsonList children)),
      ("type", .string "group")]

/-- Writes predicates in order. -/
def toJsonList : List Predicate → List JsonValue
  | [] => []
  | p :: rest => toJson p :: toJsonList rest

end

end Predicate
end ModelSync
