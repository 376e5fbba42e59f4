import ColdStore.Rust.Status
import Mathlib.Algebra.GroupWithZero.Nat

/-! A tape as records behind each other, with the head between or inside them. -/

namespace ColdStore

open Rust

/-- A tape holds data records, separated by filemarks. -/
inductive TapeRecord where
  | data (bytes : Bytes)
  | filemark
  deriving DecidableEq

/-- The position of the head: a record, and an offset into it. -/
structure TapeCursor where
  recordIndex : Nat := 0
  byteOffset : Nat := 0
  deriving DecidableEq

/-- A tape, its records and its head. -/
structure VirtualTape where
  barcode : String
  records : List TapeRecord := []
  cursor : TapeCursor := {}
  deriving DecidableEq

/-- The largest length that can be asked for. -/
def usizeMax : Nat := 2 ^ 64 - 1

/-- The data octets in a record. -/
def TapeRecord.size : TapeRecord → Nat
  | .data bytes => bytes.length
  | .filemark => 0

namespace VirtualTape

variable (tape : VirtualTape)

/-- The data octets on the tape. -/
def usedBytes : Nat := (tape.records.map TapeRecord.size).sum

/-- The data octets before the head. -/
def currentPosition : Nat :=
  ((tape.records.take tape.cursor.recordIndex).map TapeRecord.size).sum + tape.cursor.byteOffset

/-- The filemarks before the head. -/
def currentFilemark : Nat :=
  ((tape.records.take tape.cursor.recordIndex).filter fun record => record == .filemark).length
    % 2 ^ 32

/-- Move the head to the beginning. -/
def rewind : VirtualTape := { tape with cursor := {} }

/-- Write a record at the head, which drops everything behind it. -/
def append (record : TapeRecord) : VirtualTape :=
  -- An offset into a record is forgotten: the whole record is dropped.
  let records := tape.records.take tape.cursor.recordIndex ++ [record]
  { tape with records, cursor := { recordIndex := records.length, byteOffset := 0 } }

def appendData (bytes : Bytes) : VirtualTape := tape.append (.data bytes)

def appendFilemark : VirtualTape := tape.append .filemark

/--
Read on over the records from the head, behind what was read already.

There is no result when the end of the wanted part cannot be computed in 64 bits, where the reader
panics.
-/
def readFrom (maxLen : Nat) : List TapeRecord → TapeCursor → Bytes → Option (Bytes × TapeCursor)
  | [], cursor, out => some (out, cursor)
  | record :: rest, cursor, out =>
    if out.length < maxLen then
      match record with
      -- A filemark ends the read and is passed.
      | .filemark => some (out, { recordIndex := cursor.recordIndex + 1, byteOffset := 0 })
      | .data bytes =>
        let start := min cursor.byteOffset bytes.length
        let remaining := maxLen - out.length
        if usizeMax < start + remaining then none
        else
          let stop := min (start + remaining) bytes.length
          let out := out ++ (bytes.take stop).drop start
          if stop = bytes.length then
            readFrom maxLen rest { recordIndex := cursor.recordIndex + 1, byteOffset := 0 } out
          -- Stopping inside a record means that as much as wanted has been read.
          else some (out, { cursor with byteOffset := stop })
    else some (out, cursor)

/-- Read up to the given number of octets, but not across a filemark. -/
def read (maxLen : Nat) (tape : VirtualTape) : Option (Bytes × VirtualTape) :=
  (readFrom maxLen (tape.records.drop tape.cursor.recordIndex) tape.cursor []).map
    fun (out, cursor) => (out, { tape with cursor })

/-- Pass filemarks from the head on, and tell how many are missing at the end of the tape. -/
def seekFrom : Nat → List TapeRecord → TapeCursor → Nat × TapeCursor
  | 0, _, cursor => (0, cursor)
  | count + 1, [], cursor => (count + 1, cursor)
  | count + 1, .filemark :: rest, cursor =>
    seekFrom count rest { recordIndex := cursor.recordIndex + 1, byteOffset := 0 }
  | count + 1, .data _ :: rest, cursor =>
    seekFrom (count + 1) rest { recordIndex := cursor.recordIndex + 1, byteOffset := 0 }

/-- Move the head forward past the given number of filemarks, or to the end when there are fewer. -/
def seekFilemark (count : Nat) (tape : VirtualTape) : Bool × VirtualTape :=
  let (missing, cursor) :=
    seekFrom count (tape.records.drop tape.cursor.recordIndex) tape.cursor
  (missing == 0, { tape with cursor })

end VirtualTape

end ColdStore
