import ColdStore.Gateway.Preconditions
import ColdStore.Rust.Slice
import ColdStore.Rust.Word

/-! Fetching an object through the gateway, as a whole or a range of its octets. -/

namespace ColdStore

open Rust

/-- The headers of a request for an object. -/
structure GetHeaders extends ReadHeaders where
  /-- The wanted range, without a text when the value of the header is not readable. -/
  range : Option (Option String) := none

/-- What the headers of a response are made of, from the answer of the scheduler. -/
structure ObjectHead extends HeadObjectResponse where
  contentLength : Nat := 0
  contentType : Option String := none
  restoreInfo : Option String := none

structure DownloadedObject where
  head : ObjectHead
  body : Bytes

/-- A response that carries octets of an object. -/
structure ObjectResponse where
  status : Nat
  headers : List (String × String)
  body : Bytes

/-- Set a header, in the place of the one with its name if there is one. -/
def insertHeader (headers : List (String × String)) (name value : String) :
    List (String × String) :=
  if (headers.lookup name).isSome then
    headers.map fun header => if header.1 = name then (name, value) else header
  else headers ++ [(name, value)]

/-- A text that can be sent as the value of a header. -/
def headerValue (value : String) : Option String :=
  if value.toList.all fun c => (32 ≤ c.toNat && c.toNat != 127) || c == '\t' then some value
  else none

/-- How far a restore has come, as the header reports it. -/
def formatRestoreHeader (ongoing : Bool) (expiryDate : Option String) : String :=
  if ongoing then "ongoing-request=\"true\""
  else match expiryDate with
    | some date => "ongoing-request=\"false\", expiry-date=\"" ++ date ++ "\""
    | none => "ongoing-request=\"false\""

def normalizeRestoreInfo (restoreInfo : String) : String :=
  let restoreInfo := trim restoreInfo
  match stripPrefix restoreInfo "ongoing-request=\"false\", expiry-date=\"" with
  | some expiry => formatRestoreHeader false (some (trimEndMatches expiry '"'))
  | none =>
    match stripPrefix restoreInfo "ongoing-request=\"false\", expiry-ts=\"" with
    | some expiry => formatRestoreHeader false (some (trimEndMatches expiry '"'))
    | none =>
      if startsWith restoreInfo "ongoing-request=\"false\"" then formatRestoreHeader false none
      else formatRestoreHeader true none

/--
Set the headers that describe an object, given how a date that can be written is written.

There is no result when a text is not the value of a header, where the gateway panics.
-/
def applyObjectHeaders (formatHttpDate : Int → Option String) (headers : List (String × String))
    (head : ObjectHead) : Option (List (String × String)) := do
  let headers := insertHeader headers "content-length" (decimal head.contentLength)
  let headers ← match head.contentType with
    | some contentType => (headerValue contentType).map (insertHeader headers "content-type")
    | none => some headers
  let headers ← (headerValue head.etag).map (insertHeader headers "etag")
  let headers ← match head.restoreInfo with
    | some restoreInfo =>
      (headerValue (normalizeRestoreInfo restoreInfo)).map (insertHeader headers "x-amz-restore")
    | none => some headers
  match head.lastModified.bind fun lastModified => formatHttpDate lastModified.seconds with
  | some date => some (insertHeader headers "last-modified" (headerValueOr date ""))
  | none => some headers

inductive ByteRangeParseError where
  | malformed
  | unsatisfiable
  deriving DecidableEq

/-- What follows the unit of a range, if the unit is octets. -/
def byteRangeSpec (rawRange : String) : Option String :=
  (splitOnce (trim rawRange) '=').bind fun (unit, spec) =>
    if eqIgnoreAsciiCase unit "bytes" then some spec else none

/-- The last octets of an object, as many as the text says. -/
def parseSuffixRange (endRaw : String) (objectSize : Nat) :
    Except ByteRangeParseError (Option (Nat × Nat)) := do
  let suffixLen ← okOr .malformed (parseUnsigned 64 endRaw)
  ensure (suffixLen != 0) .malformed
  pure (some (objectSize - suffixLen, objectSize - 1))

/-- The octets of an object from one position on, up to another one or to the end. -/
def parseBoundedRange (startRaw endRaw : String) (objectSize : Nat) :
    Except ByteRangeParseError (Option (Nat × Nat)) := do
  let start ← okOr .malformed (parseUnsigned 64 startRaw)
  ensure (start < objectSize) .unsatisfiable
  let stop ← (if endRaw.isEmpty then pure (objectSize - 1)
    else okOr .malformed (parseUnsigned 64 endRaw))
  ensure (start ≤ stop) .unsatisfiable
  pure (some (start, if objectSize ≤ stop then objectSize - 1 else stop))

/-- The first and the last octet of a range, for an object of the given size. -/
def parseByteRange (rawRange : String) (objectSize : Nat) :
    Except ByteRangeParseError (Option (Nat × Nat)) := do
  let spec ← okOr .malformed (byteRangeSpec rawRange)
  ensure (!spec.isEmpty) .malformed
  ensure (objectSize != 0) .unsatisfiable
  -- Several ranges at once are not supported.
  ensure (!spec.toList.contains ',') .malformed
  let (startRaw, endRaw) ← okOr .malformed (splitOnce spec '-')
  -- Without a start, the number counts octets from the end.
  if startRaw.isEmpty then parseSuffixRange endRaw objectSize
  else parseBoundedRange startRaw endRaw objectSize

/-- A range, or the response that refuses it. -/
def parseRangeHeader (rawRange : String) (bodyLength : Nat) :
    Except Response (Option (Nat × Nat)) := (parseByteRange rawRange bodyLength).mapError fun
    | .malformed => badRequestResponseWithCode .invalidArgument "invalid range syntax" "Range"
    | .unsatisfiable => rangeNotSatisfiableResponse bodyLength

/-- The range that a request asks for, or the response that refuses it. -/
def requestedRange (range : Option String) (bodyLength : Nat) (resource : String) :
    Except Response (Nat × Nat) :=
  match range with
  | some rawRange => do
    match ← parseRangeHeader rawRange bodyLength with
    | some range => pure range
    | none => throw (badRequestResponseWithCode .invalidArgument "invalid Range header" resource)
  | none => throw (badRequestResponseWithCode .invalidArgument "invalid Range header" resource)

/--
The octets of an object from one position to another, both included.

There is no result when they do not lie in the object, where the gateway panics.
-/
def rangeResponse (formatHttpDate : Int → Option String) (object : DownloadedObject)
    (range : Nat × Nat) : Option ObjectResponse := do
  let (start, stop) := range
  let rangeResponseLength := saturatingAdd (stop - start) 1
  let responseBody ← slice object.body start (stop + 1)
  let headers ← applyObjectHeaders formatHttpDate [] object.head
  let headers := insertHeader headers "content-length" (decimal rangeResponseLength)
  let headers := insertHeader headers "accept-ranges" "bytes"
  let contentRange :=
    "bytes " ++ decimal start ++ "-" ++ decimal stop ++ "/" ++ decimal object.body.length
  pure ⟨206, insertHeader headers "content-range" (headerValueOr contentRange "bytes */*"),
    responseBody⟩

/-- All octets of an object. -/
def wholeResponse (formatHttpDate : Int → Option String) (object : DownloadedObject) :
    Option ObjectResponse := do
  let headers ←
    applyObjectHeaders formatHttpDate (insertHeader [] "accept-ranges" "bytes") object.head
  pure ⟨200, headers, object.body⟩

/-- Answer a request for an object, from the answers of the scheduler. -/
def getObject (date : String → Option Int) (formatHttpDate : Int → Option String)
    (headers : GetHeaders) (resource : String) (headObject : Except Status HeadObjectResponse)
    (download : Except Status DownloadedObject) : Option (Response ⊕ ObjectResponse) :=
  match checkReadPreconditions date headers.toReadHeaders resource headObject with
  | .error status => some (.inl (grpcStatusToS3Response status resource))
  | .ok (some response) => some (.inl response)
  | .ok none =>
    match download with
    | .error status => some (.inl (grpcStatusToS3Response status resource))
    | .ok object =>
      match headers.range with
      | none => (wholeResponse formatHttpDate object).map .inr
      | some range =>
        match requestedRange range object.body.length resource with
        | .error response => some (.inl response)
        | .ok range => (rangeResponse formatHttpDate object range).map .inr

end ColdStore
