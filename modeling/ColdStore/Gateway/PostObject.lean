import ColdStore.Gateway.Http
import ColdStore.Proto.Common
import ColdStore.Rust.HashMap
import ColdStore.Rust.Search

/-! Asking for a restore through the gateway. -/

namespace ColdStore

open Rust

/-- Whether one of the parameters of a query asks for a restore. -/
def isRestoreRequest (query : Option String) : Bool :=
  (split (query.getD "") '&').any fun item => item == "restore" || startsWith item "restore="

/-- A restore as it is handed to the scheduler. -/
structure RestoreRequest where
  days : Nat
  tier : RestoreTier
  deriving DecidableEq

inductive RestoreParseError where
  | invalidBody
  | invalidDays
  | invalidTier
  deriving DecidableEq

def maxRestoreDays : Nat := 365

/-- The text between the first pair of tags with the given name. -/
def findXmlValue (source tag : String) : Option String := do
  let opening := "<" ++ tag ++ ">"
  let closing := "</" ++ tag ++ ">"
  let openPos ← find source opening
  let rest := String.ofList (source.toList.drop (openPos + opening.length))
  let valueEnd ← find rest closing
  pure (trim (takeChars rest valueEnd))

def parseTier (raw : String) : Option RestoreTier :=
  match lowercase (trim raw) with
  | "expedited" => some .expedited
  | "standard" => some .standard
  | "bulk" => some .bulk
  | _ => none

/-- The days to restore for: those in the body of a request, or else in its query. -/
def parseRestoreDays (query : HashMap String String) (bodyXml : Option String) :
    Except RestoreParseError Nat := do
  let days ← match bodyXml.bind fun body => findXmlValue body "Days" with
    | some daysRaw => okOr .invalidDays (parseUnsigned 32 daysRaw)
    | none => match query.get "days" with
      | some daysRaw => okOr .invalidDays (parseUnsigned 32 daysRaw)
      | none => .ok 1
  ensure (days != 0 && days ≤ maxRestoreDays) .invalidDays
  pure days

/-- How urgent a restore is, by the body of a request or else by its query. -/
def parseRestoreTier (query : HashMap String String) (bodyXml : Option String) :
    Except RestoreParseError RestoreTier :=
  match bodyXml.bind fun body => findXmlValue body "Tier" with
  | some rawTier => okOr .invalidTier (parseTier rawTier)
  | none => okOr .invalidTier (parseTier ((query.get "tier").getD "Standard"))

def parseRestoreRequest (query : HashMap String String) (body : Bytes) :
    Except RestoreParseError RestoreRequest := do
  let bodyXml ← if body.isEmpty then pure none
    else (okOr .invalidBody (String.fromUTF8? ⟨body.toArray⟩)).map some
  let days ← parseRestoreDays query bodyXml
  let tier ← parseRestoreTier query bodyXml
  pure ⟨days, tier⟩

/-- A parameter as it is written into a query again. -/
def renderParameter (parameter : String × String) : String :=
  if parameter.2.isEmpty then parameter.1 else parameter.1 ++ "=" ++ parameter.2

/-- The query that the decoded parameters are joined to, in whatever order they are iterated. -/
def rawQuery (query : HashMap String String) : Option String :=
  if query.isEmpty then none else some ("&".intercalate (query.entries.map renderParameter))

/-- The response to a request for a restore, given how the scheduler answers one. -/
def restoreResponse (restoreObject : RestoreRequest → Except Status Nat)
    (query : HashMap String String) (body : Bytes) (resource : String) : Response :=
  match parseRestoreRequest query body with
  | .error _ =>
    badRequestResponseWithCode .invalidArgument "invalid restore request payload" resource
  | .ok request =>
    match restoreObject request with
    | .ok statusCode => emptyResponse (if [200, 202, 409].contains statusCode then statusCode else 202)
    | .error status => grpcStatusToS3Response status resource

/-- Answer a post to an object, which can only ask for a restore. -/
def postObject (restoreObject : RestoreRequest → Except Status Nat) (bucket key : String)
    (query : HashMap String String) (body : Bytes) : Response :=
  let resource := "/" ++ bucket ++ "/" ++ key
  if !isRestoreRequest (rawQuery query) then badRequestResponse "UnsupportedPostAction" resource
  else restoreResponse restoreObject query body resource

end ColdStore
