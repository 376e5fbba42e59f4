import ColdStore.Gateway.Http
import ColdStore.Proto.Records

/-! The conditions a read request can carry, checked before the object is fetched. -/

namespace ColdStore

open Rust

/-- The conditional headers of a request, each absent also when its value is not readable text. -/
structure ReadHeaders where
  ifMatch : Option String := none
  ifNoneMatch : Option String := none
  ifModifiedSince : Option String := none
  ifUnmodifiedSince : Option String := none

/-- What the conditions are checked against, from the answer of the scheduler. -/
structure HeadObjectResponse where
  etag : String := ""
  lastModified : Option Timestamp := none

/-- Whether a list of entity tags names the tag of the object. -/
def etagHeaderMatches (headerValue etag : String) : Bool :=
  let tokens := (split headerValue ',').map trim
  let tokens := tokens.map fun token => trimMatches token '"'
  tokens.any fun token => token == "*" || token == etag || token == "W/\"" ++ etag ++ "\""

def timestampFromProstTimestamp (timestamp : Timestamp) : Int := timestamp.seconds

/-- Read the date of a header, given how a date in one of the HTTP formats is read. -/
def parseHttpDatetime (date : String → Option Int) (value : String) :
    Except String (Option Int) :=
  let value := trim value
  if value.isEmpty then .ok none
  else match date value with
    | some seconds => .ok (some seconds)
    | none => .error "unable to parse HTTP date"

/-- The date of a header that may be absent, with the text to refuse an unreadable one with. -/
def readDate (date : String → Option Int) (header : Option String) (message : String) :
    Except Status (Option Int) :=
  match header with
  | some value => (parseHttpDatetime date value).mapError fun _ => .invalidArgument message
  | none => .ok none

/-- Refuse a request for other versions of the object than the one stored. -/
def checkIfMatch (ifMatch : Option String) (etag resource : String) : Option Response :=
  match ifMatch with
  | some value =>
    if !etagHeaderMatches value etag then some (preconditionFailedResponse "If-Match" resource)
    else none
  | none => none

/-- Refuse a request for an object that has changed since a date. -/
def checkIfUnmodifiedSince (ifUnmodifiedSince objectModifiedAt : Option Int) (resource : String) :
    Except Status (Option Response) :=
  match ifUnmodifiedSince, objectModifiedAt with
  | some _, none => .error (.failedPrecondition "If-Unmodified-Since requires Last-Modified")
  | some unmodifiedSince, some objectModifiedAt =>
    if objectModifiedAt > unmodifiedSince then
      .ok (some (preconditionFailedResponse "If-Unmodified-Since failed" resource))
    else .ok none
  | none, _ => .ok none

/-- Spare the client a version of the object that it lists. -/
def checkIfNoneMatch (ifNoneMatch : Option String) (etag resource : String) : Option Response :=
  match ifNoneMatch with
  | some value =>
    if etagHeaderMatches value etag then some (notModifiedResponse resource etag) else none
  | none => none

/-- Spare the client an object that has not changed since a date. -/
def checkIfModifiedSince (ifModifiedSince objectModifiedAt : Option Int) (etag resource : String) :
    Except Status (Option Response) :=
  match ifModifiedSince, objectModifiedAt with
  | some _, none => .error (.failedPrecondition "If-Modified-Since requires Last-Modified")
  | some modifiedSince, some objectModifiedAt =>
    if objectModifiedAt ≤ modifiedSince then .ok (some (notModifiedResponse resource etag))
    else .ok none
  | none, _ => .ok none

/-- The response that answers a request without the object, if a condition calls for one. -/
def checkReadPreconditions (date : String → Option Int) (headers : ReadHeaders)
    (resource : String) (headObject : Except Status HeadObjectResponse) :
    Except Status (Option Response) := do
  let ifModifiedSince ← readDate date headers.ifModifiedSince "invalid If-Modified-Since header"
  let ifUnmodifiedSince ←
    readDate date headers.ifUnmodifiedSince "invalid If-Unmodified-Since header"
  -- A request without conditions does not ask for the metadata of the object.
  if headers.ifMatch.isNone && headers.ifNoneMatch.isNone && ifModifiedSince.isNone
      && ifUnmodifiedSince.isNone then
    return none
  let head ← headObject
  let objectModifiedAt := head.lastModified.map timestampFromProstTimestamp
  if let some response := checkIfMatch headers.ifMatch head.etag resource then
    return some response
  if let some response ← checkIfUnmodifiedSince ifUnmodifiedSince objectModifiedAt resource then
    return some response
  if let some response := checkIfNoneMatch headers.ifNoneMatch head.etag resource then
    return some response
  checkIfModifiedSince ifModifiedSince objectModifiedAt head.etag resource

end ColdStore
