import ColdStore.Rust.HashMap
import ColdStore.Rust.Status
import ColdStore.Rust.Word

/-! The storage below the cache: what every backend offers, and the backend that keeps files. -/

namespace ColdStore

open Rust

/-- Uploaded data waits in staging, and recalled data is kept as restored. -/
inductive CacheCategory where
  | staging
  | restored
  deriving DecidableEq

/-- Extended attributes of a cached object. -/
structure CacheXattrs where
  bucket : String
  key : String
  versionId : Option String
  size : Nat
  expireAt : Int
  cachedAt : Int
  lastAccessAt : Int
  accessCount : Nat
  checksum : Option String
  contentType : Option String
  etag : Option String
  category : CacheCategory
  deriving DecidableEq

/-- The operations of a storage backend, with the state they leave and the text of a failure. -/
class CacheBackend (σ : Type) where
  write : σ → String → Bytes → CacheXattrs → Except String Nat × σ
  read : σ → Nat → Except String Bytes
  delete : σ → Nat → Except String Unit × σ
  listAll : σ → Except String (List (Nat × CacheXattrs))
  availableBytes : σ → Except String Nat

/-- A data file and the attribute file beside it. -/
structure HddFile where
  xattrs : CacheXattrs
  data : Bytes
  deriving DecidableEq

/-- Files under one directory, and the identifier the next object gets. The disk below never fails:
an operation fails only on a file that is missing. -/
structure HddBackend where
  files : HashMap Nat HddFile
  maxSizeBytes : Nat
  nextId : Nat

namespace HddBackend

/-- The failure to open a file that is not there. -/
def missingFile : String := "No such file or directory (os error 2)"

variable (backend : HddBackend)

/-- Write both files under a fresh identifier. -/
def write (_key : String) (data : Bytes) (xattrs : CacheXattrs) : Except String Nat × HddBackend :=
  (.ok backend.nextId, { backend with
    files := backend.files.insert backend.nextId ⟨xattrs, data⟩
    nextId := backend.nextId + 1 })

/-- Read the attributes stored beside an object. -/
def readXattrs (id : Nat) : Except String CacheXattrs :=
  (okOr missingFile (backend.files.get id)).map HddFile.xattrs

/-- Read an object. -/
def read (id : Nat) : Except String Bytes :=
  (okOr missingFile (backend.files.get id)).map HddFile.data

/-- Remove both files, which fails only when the attributes cannot be read first. -/
def delete (id : Nat) : Except String Unit × HddBackend :=
  match backend.readXattrs id with
  | .error error => (.error error, backend)
  | .ok _ => (.ok (), { backend with files := backend.files.remove id })

/-- Every stored object, in the order the directory lists them. -/
def listAll : Except String (List (Nat × CacheXattrs)) :=
  .ok (backend.files.entries.map fun entry => (entry.1, entry.2.xattrs))

/-- What the configured size leaves beside the stored objects. -/
def availableBytes : Except String Nat := backend.listAll.map fun stored =>
    backend.maxSizeBytes - sumU64 (stored.map fun entry => entry.2.size)

instance : CacheBackend HddBackend where
  write := write
  read := read
  delete := delete
  listAll := listAll
  availableBytes := availableBytes

end HddBackend

end ColdStore
