import ModelSync.Schema.Basic
import ModelSync.Text.Blank
/-!
Authorization types: the credential mechanisms the backend accepts, each with
its wire name. A name is read after trimming blanks and folding ASCII letters
to upper case; a rule picks its type from its provider, or, without one, from
its strategy.
-/
namespace ModelSync

/-- A credential mechanism accepted by the backend. -/
inductive AuthType where
  | apiKey
  | awsIam
  | openidConnect
  | userPools
  | awsLambda
  | anonymous
  deriving DecidableEq, Repr, Inhabited

namespace AuthType

/-- Every authorization type, in declaration order. -/
def all : List AuthType := [apiKey, awsIam, openidConnect, userPools, awsLambda, anonymous]

/-- The wire name. -/
def wireName : AuthType → String
  | apiKey => "API_KEY"
  | awsIam => "AWS_IAM"
  | openidConnect => "OPENID_CONNECT"
  | userPools => "AMAZON_COGNITO_USER_POOLS"
  | awsLambda => "AWS_LAMBDA"
  | anonymous => "NONE"

/-- The variant name used in debug text. -/
def variantName : AuthType → String
  | apiKey => "ApiKey"
  | awsIam => "AwsIam"
  | openidConnect => "OpenidConnect"
  | userPools => "AmazonCognitoUserPools"
  | awsLambda => "AwsLambda"
  | anonymous => "None"

/-- The types by wire name. -/
def names : List (String × AuthType) := all.map fun t => (t.wireName, t)

/-- Whether requests carry a user identity token. -/
def hasIdentity : AuthType → Bool
  | userPools | openidConnect => true
  | _ => false

/-- The type used to satisfy a rule. -/
def forRule (rule : AuthRule) : AuthType :=
  match rule.provider with
  | some .userPools => userPools
  | some .oidc => openidConnect
  | some .iam => awsIam
  | some .apiKey => apiKey
  | some .function => awsLambda
  | none =>
    match rule.strategy with
    | .owner | .group | .signedIn => userPools
    | .everyone => apiKey
    | .custom => awsLambda

/-- A name that is no authorization type, as it was given. -/
structure UnknownName where
  text : String

/-- The message for an unknown name. -/
def UnknownName.message (e : UnknownName) : String := "unknown authorization type: " ++ e.text

/-- Reads a type name, ignoring surrounding blanks and the case of ASCII letters. -/
def parse (text : String) : Except UnknownName AuthType :=
  match names.lookup (Text.asciiUpper (Text.trimBlanks text)) with
  | some t => .ok t
  | none => .error ⟨text⟩

example : (parse " aws_iam\n").toOption = some awsIam := by decide +kernel
example : all.all (fun t => (parse t.wireName).toOption == some t) = true := by decide +kernel

end AuthType
end ModelSync
