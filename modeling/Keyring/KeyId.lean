/-
Module: Keyring.KeyId
Purpose: The thirteen keys of an archive system.  A key id is either that of an RSA key or that of
  an HMAC key, so a place for a key of the wrong kind cannot be named.  The code of an id is the
  type byte of its record in a container and its bit position in a mask.
Main exports: RsaKeyId, HmacKeyId, KeyId, KeyId.code, KeyId.all, KeyId.ofCode?, KeyId.ofRecordType?
-/
import Keyring.Rsa.Key

namespace Keyring

/-- The RSA keys: two pairs, and the public key of the server. -/
inductive RsaKeyId where
  | signPrivate
  | signPublic
  | encryptPrivate
  | encryptPublic
  | rootPublic
deriving Repr, DecidableEq, Inhabited

/-- The HMAC keys.  `fileWrite` is normally a copy of `file`; it differs when one archive set is
read while another is written. -/
inductive HmacKeyId where
  | file
  | chunk
  | name
  | params
  | authPut
  | authGet
  | authDelete
  | fileWrite
deriving Repr, DecidableEq, Inhabited

/-- A key of the system. -/
inductive KeyId where
  | rsa (id : RsaKeyId)
  | hmac (id : HmacKeyId)
deriving Repr, DecidableEq, Inhabited

/-- What kind of material a key id stands for. -/
inductive KeyKind where
  | rsaPrivate
  | rsaPublic
  | hmac
deriving Repr, DecidableEq, Inhabited

/-- How a kind is called in a listing. -/
def KeyKind.name : KeyKind → String
  | .rsaPrivate => "RSA private"
  | .rsaPublic => "RSA public"
  | .hmac => "HMAC"

/-- Which half of a pair an RSA key id asks for. -/
def RsaKeyId.half : RsaKeyId → Half
  | .signPrivate | .encryptPrivate => .privateHalf
  | .signPublic | .encryptPublic | .rootPublic => .publicHalf

def RsaKeyId.code : RsaKeyId → UInt8
  | .signPrivate => 0
  | .signPublic => 1
  | .encryptPrivate => 2
  | .encryptPublic => 3
  | .rootPublic => 9

def HmacKeyId.code : HmacKeyId → UInt8
  | .file => 4
  | .chunk => 5
  | .name => 6
  | .params => 7
  | .authPut => 10
  | .authGet => 11
  | .authDelete => 12
  | .fileWrite => 19

namespace KeyId

/-- All keys, in ascending order of their codes. -/
def all : List KeyId :=
  [.rsa .signPrivate, .rsa .signPublic, .rsa .encryptPrivate, .rsa .encryptPublic,
    .hmac .file, .hmac .chunk, .hmac .name, .hmac .params, .rsa .rootPublic,
    .hmac .authPut, .hmac .authGet, .hmac .authDelete, .hmac .fileWrite]

/-- The type byte of the key's record and its bit position in a mask. -/
def code : KeyId → UInt8
  | .rsa id => id.code
  | .hmac id => id.code

/-- The kind of material held under an id. -/
def kind : KeyId → KeyKind
  | .rsa id =>
      match id.half with
      | .privateHalf => .rsaPrivate
      | .publicHalf => .rsaPublic
  | .hmac _ => .hmac

/-- The name of the key in messages and listings. -/
def name : KeyId → String
  | .rsa .signPrivate => "archive signing"
  | .rsa .signPublic => "archive signature verification"
  | .rsa .encryptPrivate => "archive decryption"
  | .rsa .encryptPublic => "archive encryption"
  | .rsa .rootPublic => "server root"
  | .hmac .file => "file HMAC"
  | .hmac .chunk => "chunk HMAC"
  | .hmac .name => "archive name HMAC"
  | .hmac .params => "chunk randomization"
  | .hmac .authPut => "write authorization"
  | .hmac .authGet => "read authorization"
  | .hmac .authDelete => "delete authorization"
  | .hmac .fileWrite => "file write HMAC"

/-- The name of the key's bit in the text of a mask. -/
def flag : KeyId → String
  | .rsa .signPrivate => "SIGN_PRIV"
  | .rsa .signPublic => "SIGN_PUB"
  | .rsa .encryptPrivate => "ENCR_PRIV"
  | .rsa .encryptPublic => "ENCR_PUB"
  | .rsa .rootPublic => "ROOT_PUB"
  | .hmac .file => "HMAC_FILE"
  | .hmac .chunk => "HMAC_CHUNK"
  | .hmac .name => "HMAC_NAME"
  | .hmac .params => "HMAC_CPARAMS"
  | .hmac .authPut => "AUTH_PUT"
  | .hmac .authGet => "AUTH_GET"
  | .hmac .authDelete => "AUTH_DELETE"
  | .hmac .fileWrite => "HMAC_FILE_WRITE"

/-- The name of the key, with its code in parentheses. -/
def text (id : KeyId) : String :=
  s!"{id.name} ({id.code})"

/-- The key with a given code. -/
def ofCode? (code : UInt8) : Option KeyId :=
  all.find? (fun id => id.code == code)

/-- The key whose record carries a given type byte.  The file write HMAC has no record of its
own; it is filled from the record of the file HMAC. -/
def ofRecordType? (code : UInt8) : Option KeyId :=
  match ofCode? code with
  | some (.hmac .fileWrite) => none
  | found => found

/-- The keys that can be imported but are never exported or generated. -/
def isImportOnly (id : KeyId) : Bool :=
  id == .rsa .rootPublic || id == .hmac .fileWrite

theorem mem_all (id : KeyId) : id ∈ all := by
  rcases id with id | id <;> cases id <;> decide

theorem code_injective {first second : KeyId} (same : first.code = second.code) :
    first = second := by
  rcases first with first | first <;> rcases second with second | second <;>
    cases first <;> cases second <;> first | rfl | exact absurd same (by decide)

theorem code_lt (id : KeyId) : id.code.toNat < 32 := by
  rcases id with id | id <;> cases id <;> decide

theorem ofCode?_eq_some {code : UInt8} {id : KeyId} : ofCode? code = some id ↔ id.code = code := by
  constructor
  · intro found
    simpa using List.find?_some found
  · intro named
    subst named
    rcases id with id | id <;> cases id <;> rfl

end KeyId

end Keyring
