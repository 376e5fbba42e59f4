import ColdStore.Rust.Split
import ColdStore.Rust.Status

/-! The responses the gateway writes itself, without an object in them. -/

namespace ColdStore

open Rust

/-- The status line, the headers in the order they are set, and the body. -/
structure Response where
  status : Nat
  headers : List (String × String) := []
  body : String := ""
  deriving DecidableEq

/-- The error codes of the S3 protocol. -/
inductive S3ErrorCode where
  | invalidObjectState
  | invalidArgument
  | restoreAlreadyInProgress
  | glacierExpeditedRetrievalNotAvailable
  | slowDown
  | serviceUnavailable
  | tooManyRequests
  | noSuchKey
  | noSuchBucket
  | preconditionFailed
  | notModified
  | notImplemented
  deriving DecidableEq

/-- The name of an error code in a response body. -/
def S3ErrorCode.asStr : S3ErrorCode → String
  | .invalidObjectState => "InvalidObjectState"
  | .invalidArgument => "InvalidArgument"
  | .restoreAlreadyInProgress => "RestoreAlreadyInProgress"
  | .glacierExpeditedRetrievalNotAvailable => "GlacierExpeditedRetrievalNotAvailable"
  | .slowDown => "SlowDown"
  | .serviceUnavailable => "ServiceUnavailable"
  | .tooManyRequests => "TooManyRequests"
  | .noSuchKey => "NoSuchKey"
  | .noSuchBucket => "NoSuchBucket"
  | .preconditionFailed => "PreconditionFailed"
  | .notModified => "NotModified"
  | .notImplemented => "NotImplemented"

/-- Write the characters that mean something to an XML reader as entities. -/
def escapeXml (value : String) : String :=
  -- The ampersand comes first, so that the entities written after it stay as they are.
  let value := replace value '&' "&amp;"
  let value := replace value '<' "&lt;"
  let value := replace value '>' "&gt;"
  let value := replace value '"' "&quot;"
  replace value '\'' "&apos;"

/-- An error as the body of a response reports it. -/
structure S3ErrorResponse where
  code : S3ErrorCode
  message : String
  resource : String

def S3ErrorResponse.toXml (error : S3ErrorResponse) : String :=
  "<?xml version=\"1.0\" encoding=\"UTF-8\"?><Error><Code>" ++ error.code.asStr ++
    "</Code><Message>" ++ escapeXml error.message ++ "</Message><Resource>" ++
    escapeXml error.resource ++ "</Resource></Error>"

/-- A text that can be sent as the value of a header, or else the given one. -/
def headerValueOr (value otherwise : String) : String :=
  -- Control characters other than the tab are refused.
  if value.toList.all fun c => (32 ≤ c.toNat && c.toNat != 127) || c == '\t' then value
  else otherwise

def emptyResponse (status : Nat) : Response := ⟨status, [], ""⟩

def s3XmlResponse (status : Nat) (body : String) : Response :=
  ⟨status, [("content-type", "application/xml")], body⟩

def notModifiedResponse (resource etag : String) : Response :=
  let response := emptyResponse 304
  { response with
    headers := [("etag", headerValueOr etag "\"\""), ("x-amz-request-id", headerValueOr resource "-")] }

def preconditionFailedResponse (message resource : String) : Response :=
  s3XmlResponse 412 (S3ErrorResponse.toXml ⟨.preconditionFailed, message, resource⟩)

def badRequestResponseWithCode (code : S3ErrorCode) (message resource : String) : Response :=
  s3XmlResponse 400 (S3ErrorResponse.toXml ⟨code, message, resource⟩)

def badRequestResponse (operation resource : String) : Response :=
  badRequestResponseWithCode .notImplemented ("unsupported POST action for " ++ operation) resource

def rangeNotSatisfiableResponse (bodySize : Nat) : Response :=
  { emptyResponse 416 with headers := [("content-range", "bytes */" ++ decimal bodySize)] }

/-- What a refusal for want of room in the cache tells the client to do. -/
inductive CacheRejectStatus where
  | backpressure
  | rateLimited
  | invalidRequest
  deriving DecidableEq

/-- The reason that the cache gives in the message of a refusal. -/
def cacheRejectStatusHint (message : String) : Option CacheRejectStatus :=
  match stripPrefix (trim message) "capacity_reject:" with
  | none => none
  | some rest =>
    let reason := splitFirst rest ':'
    if reason == "incoming_larger_than_capacity" then some .invalidRequest
    else if ["client_rate_limited", "concurrency_limit_exceeded",
        "request_rate_exceeded"].contains reason then some .rateLimited
    else if ["staging_budget_exceeded", "restored_budget_exceeded", "global_capacity_exceeded",
        "low_watermark_exceeded", "no_eviction_candidate", "zero_capacity"].contains reason then
      some .backpressure
    else none

/-- The error code, the status and the seconds to wait that a failure is reported with. -/
def s3ErrorOf (status : Status) (resource : String) : S3ErrorCode × Nat × Option Nat :=
  match status.code with
  | .alreadyExists => (.restoreAlreadyInProgress, 409, none)
  | .notFound =>
    -- The path of an object has a slash behind the bucket.
    (if resource.toList.count '/' > 1 then .noSuchKey else .noSuchBucket, 404, none)
  | .invalidArgument => (.invalidArgument, 400, none)
  | .failedPrecondition => (.invalidObjectState, 403, none)
  | .unavailable =>
    if containsText (lowercase status.message) "glacier expedited retrieval is not available" then
      (.glacierExpeditedRetrievalNotAvailable, 503, some 1)
    else (.serviceUnavailable, 503, some 1)
  | .resourceExhausted =>
    match cacheRejectStatusHint status.message with
    | some .backpressure => (.slowDown, 503, some 1)
    | some .rateLimited => (.slowDown, 503, some 1)
    | some .invalidRequest => (.invalidArgument, 400, none)
    | none => (.slowDown, 503, some 1)
  | .unimplemented => (.notImplemented, 501, none)
  | _ => (.notImplemented, 502, none)

/-- The response to a request that a service behind the gateway has failed. -/
def grpcStatusToS3Response (status : Status) (resource : String) : Response :=
  let (code, httpStatus, retryAfter) := s3ErrorOf status resource
  let response := s3XmlResponse httpStatus (S3ErrorResponse.toXml ⟨code, status.message, resource⟩)
  match retryAfter with
  | some seconds =>
    { response with headers := response.headers ++ [("retry-after", decimal seconds)] }
  | none => response

end ColdStore
