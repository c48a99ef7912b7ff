import ModelSync.Schema.Validate
import ModelSync.Request.Basic
/-!
The selection of a record: the schema's fields without has-many fields, a
model reference as `name { id }`, a custom-type field as a node of its type's
fields, selected the same way, and the bookkeeping fields `_deleted`,
`_lastChangedAt` and `_version`. Every level is stably sorted by name, so
fields of equal name keep their order.

The schema is validated first, so every custom type exists and none contains
itself; the depth budget is the one validation uses.
-/
namespace ModelSync

/-- Selections sorted by name, equal names kept in the order given. -/
def Selection.sortByName (items : List Selection) : List Selection :=
  items.mergeSort fun a b => decide (a.name ≤ b.name)

namespace ModelSchema

/-- The unsorted selections of one level of fields, in field order, each
custom-type level below already sorted. -/
def fieldEntries (s : ModelSchema) (budget : Nat) :
    List ModelField → Except BuildError (List Selection)
  | [] => .ok []
  | f :: rest => do
    let entry : Option Selection ←
      if f.isHasMany then pure none
      else match f.fieldType with
        | .customType typeName =>
          match s.customType? typeName with
          | none => throw (.schemaIntrospection s.name ("unknown custom type '" ++ typeName ++ "'"))
          | some custom =>
            match budget with
            | 0 => pure (some (Selection.leaf f.name))
            | budget + 1 => do
              let inner ← s.fieldEntries budget custom.fields
              pure (some (Selection.node f.name (Selection.sortByName inner)))
        | .model _ => pure (some (Selection.node f.name [Selection.leaf "id"]))
        | _ => pure (some (Selection.leaf f.name))
    let others ← s.fieldEntries budget rest
    pure (entry.toList ++ others)
termination_by fields => (budget, fields)

/-- The sorted selections of one level of fields. -/
def fieldSelections (s : ModelSchema) (budget : Nat) (fields : List ModelField) :
    Except BuildError (List Selection) :=
  (s.fieldEntries budget fields).map Selection.sortByName

/-- The selection of a record of this schema, after validating it. -/
def recordSelection (s : ModelSchema) : Except BuildError (List Selection) := do
  s.validate
  let fields ← s.fieldSelections (s.customTypes.size + 1) s.fields
  pure (Selection.sortByName
    (fields ++ [Selection.leaf "_deleted", Selection.leaf "_lastChangedAt", Selection.leaf "_version"]))

end ModelSchema
end ModelSync
