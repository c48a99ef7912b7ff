import ModelSync.Auth.Type
import ModelSync.Request.Basic
/-!
Request decoration: owner-protected models deliver subscription events only
to a record's owner, so a subscription names the owner as an argument, taken
from the caller's identity token.

Only subscriptions made with a user identity are touched, and only for
models with an owner rule. A caller in one of the model's groups sees every
record and is left alone: for each group rule in order, the groups are read
from the rule's group claim, either the string items of a list or the
blank-separated words of a string, and the scan stops at the first rule that
lists the caller. Otherwise every owner rule binds its owner field to the
identity claim, which must be a non-empty string. Claims are read from a
source the caller gives, and the first read that fails fails the decoration,
a read of a group claim as much as one of an identity.

Callers may also bring a decorator of their own, which may do anything with
a request.
-/
namespace ModelSync

/-- A failure to attach authorization arguments. -/
inductive DecorationError where
  | missingClaim (authType : AuthType) (claim : String)
  | claimsUnavailable (reason : String)
  deriving DecidableEq, Repr

namespace DecorationError

/-- The message of a decoration failure. -/
def message : DecorationError → String
  | missingClaim t claim => "Identity claim '" ++ claim ++ "' is not available for " ++ t.wireName
  | claimsUnavailable reason => "Identity claims unavailable: " ++ reason

/-- The name of the failure's kind. -/
def kind : DecorationError → String
  | missingClaim .. => "MissingClaim"
  | claimsUnavailable _ => "ClaimsUnavailable"

end DecorationError

/-- Where the caller's token claims come from: claim `name` of the token used
for an authorization type, if the token has it, or a failure to read it. Any
such source may be given by the caller. -/
structure ClaimSource where
  claim : AuthType → String → Except DecorationError (Option JsonValue)

/-- Fixed claims, the same for every authorization type. -/
def ClaimSource.static (claims : List (String × JsonValue)) : ClaimSource :=
  ⟨fun _ name => .ok (claims.lookup name)⟩

/-- The caller's groups in a group claim. -/
def callerGroups : JsonValue → List String
  | .array items => items.filterMap fun
    | .string s => some s
    | _ => none
  | .string s => Text.blankSeparated s
  | _ => []

/-- Attaches authorization arguments to requests. -/
inductive Decorator where
  /-- Leaves requests as they are. -/
  | passThrough
  /-- Names the owner in subscriptions on owner-protected models. -/
  | ownerClaims (schema : ModelSchema) (claims : ClaimSource)
  /-- A decorator of the caller's own: any function of the request and the
  authorization type. -/
  | custom (decorate : Request → AuthType → Except DecorationError Request)

namespace Decorator

/-- Whether the caller is in one of the schema's read groups. -/
def inReadGroup (schema : ModelSchema) (claims : ClaimSource) (t : AuthType) :
    Except DecorationError Bool :=
  (schema.authRules.filter (·.strategy == .group)).foldlM (fun found rule =>
    if found then pure true
    else do
      match ← claims.claim t rule.groupClaim with
      | none => pure false
      | some value => pure ((callerGroups value).any rule.groups.contains)) false

/-- The identity an owner rule binds. -/
def ownerValue (claims : ClaimSource) (t : AuthType) (rule : AuthRule) :
    Except DecorationError String := do
  match ← claims.claim t rule.identityClaim with
  | some (.string s) => if s.isEmpty then throw (.missingClaim t rule.identityClaim) else pure s
  | _ => throw (.missingClaim t rule.identityClaim)

/-- The request decorated for an authorization type. -/
def decorate (d : Decorator) (r : Request) (t : AuthType) : Except DecorationError Request :=
  match d with
  | passThrough => .ok r
  | custom f => f r t
  | ownerClaims schema claims =>
    if r.operationType != .subscription || !t.hasIdentity || !schema.hasOwnerRule then .ok r
    else do
      if ← inReadGroup schema claims t then return r
      schema.ownerRules.foldlM (fun r rule => do
        let owner ← ownerValue claims t rule
        pure (r.withVariable rule.ownerField "String!" (.string owner))) r

end Decorator
end ModelSync
