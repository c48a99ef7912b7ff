import ModelSync.Auth.Type
/-!
Authorization candidates: the types a subscription tries, one at a time.

They come from a single configured type, or from the model's rules, most
specific rule first: owner, group, signed-in, everyone, custom, keeping the
declared order within a strategy (a stable sort) and trying a repeated
`(type, strategy)` pair once. A rule-derived source may also hold failures,
for a source that could not be enumerated consistently.

A cursor walks a source. A configured type is tried once and always
decorated; a rule-derived candidate is decorated only when it comes from an
owner rule.
-/
namespace ModelSync

/-- One rule-derived candidate: a type and the strategy of its rule. -/
structure Candidate where
  authType : AuthType
  strategy : AuthStrategy
  deriving DecidableEq, Repr

namespace Candidate

/-- Whether the candidate comes from an owner rule. -/
def isOwner (c : Candidate) : Bool := c.strategy == .owner

/-- The rank of a strategy: more specific strategies come first. -/
def priority : AuthStrategy → Nat
  | .owner => 0
  | .group => 1
  | .signedIn => 2
  | .everyone => 3
  | .custom => 4

/-- Keeps the first of repeated candidates. -/
def dedup : List Candidate → List Candidate → List Candidate
  | seen, [] => seen.reverse
  | seen, c :: rest => if seen.contains c then dedup seen rest else dedup (c :: seen) rest

/-- The candidates of a model's rules, most specific first, each pair once. -/
def ofRules (rules : List AuthRule) : List Candidate :=
  let ordered := rules.mergeSort fun a b => priority a.strategy ≤ priority b.strategy
  dedup [] (ordered.map fun r => ⟨AuthType.forRule r, r.strategy⟩)

example : (ofRules [.ofStrategy .everyone, { strategy := .signedIn, provider := some .iam },
    .ofStrategy .owner, .forGroups ["Admins"]]).map (·.authType) =
    [.userPools, .userPools, .awsIam, .apiKey] := by cbv

end Candidate

/-- A failure to enumerate rule-derived candidates. -/
structure CandidateError where
  reason : String
  deriving DecidableEq, Repr

/-- The message of a candidate failure. -/
def CandidateError.message (e : CandidateError) : String :=
  "Error while iterating through auth rules: " ++ e.reason

/-- Where a subscription takes its candidates from. -/
inductive CandidateSource where
  /-- A single configured type. -/
  | fixed (authType : AuthType)
  /-- Candidates derived from rules, in order; a failure stops the walk. -/
  | ruleDerived (items : List (Except CandidateError Candidate))

namespace CandidateSource

/-- The candidates of a model's rules. -/
def ofRules (rules : List AuthRule) : CandidateSource :=
  ruleDerived ((Candidate.ofRules rules).map .ok)

/-- The display text: the configured type in brackets, or `[rule-derived]`. -/
def display : CandidateSource → String
  | fixed t => "[" ++ t.wireName ++ "]"
  | ruleDerived _ => "[rule-derived]"

/-- The debug text. -/
def debugText : CandidateSource → String
  | fixed t => "Fixed(" ++ t.variantName ++ ")"
  | ruleDerived _ => "RuleDerived(RuleCandidates \x7b .. \x7d)"

end CandidateSource

/-- One attempt: the type to try and whether to decorate the request. -/
structure Attempt where
  authType : AuthType
  decorate : Bool
  deriving DecidableEq, Repr

/-- What is left of a candidate source. -/
inductive CandidateCursor where
  | fixed (next : Option AuthType)
  | ruleDerived (items : List (Except CandidateError Candidate))

namespace CandidateCursor

/-- A cursor at the start of a source. -/
def ofSource : CandidateSource → CandidateCursor
  | .fixed t => fixed (some t)
  | .ruleDerived items => ruleDerived items

/-- The next attempt, or a failure, and the cursor after it; `none` when the
source is exhausted. -/
def next : CandidateCursor → Option (Except CandidateError Attempt × CandidateCursor)
  | fixed none => none
  | fixed (some t) => some (.ok ⟨t, true⟩, fixed none)
  | ruleDerived [] => none
  | ruleDerived (item :: rest) =>
    some (item.map (fun c => ⟨c.authType, c.isOwner⟩), ruleDerived rest)

/-- The number of items left. -/
def size : CandidateCursor → Nat
  | fixed none => 0
  | fixed (some _) => 1
  | ruleDerived items => items.length

/-- Whether another item remains; a pending failure counts. -/
def hasNext : CandidateCursor → Bool
  | fixed t => t.isSome
  | ruleDerived items => !items.isEmpty

end CandidateCursor
end ModelSync
