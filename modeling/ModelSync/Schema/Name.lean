/-!
GraphQL names: an ASCII letter or underscore, then ASCII letters, digits and
underscores. Every name a document declares must be one.
-/
namespace ModelSync

/-- A character that may start a GraphQL name. -/
def isNameStart (c : Char) : Bool := c == '_' || (c.isAlpha && c.toNat < 128)

/-- A character that may continue a GraphQL name. -/
def isNameContinue (c : Char) : Bool := c == '_' || (c.isAlphanum && c.toNat < 128)

/-- Whether a text is a GraphQL name: `[_A-Za-z][_0-9A-Za-z]*`. -/
def isGraphQLName (name : String) : Bool :=
  match name.toList with
  | [] => false
  | c :: rest => isNameStart c && rest.all isNameContinue

example : isGraphQLName "_a1" = true := by decide
example : isGraphQLName "1a" = false := by decide
example : isGraphQLName "" = false := by decide

end ModelSync
