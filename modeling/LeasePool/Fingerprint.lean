import LeasePool.DataSource
import LeasePool.Digest.Sha256

/-!
# Fingerprints of data sources

A fingerprint is the digest of an endpoint and credentials. The pool stamps every lease with the
fingerprint of its data source, so that a connection made for another one is never reused.

## Main definitions

* `Fingerprint.encode`: the bytes that are hashed, one field after the other. A missing field is
  the byte 0; a present one is the byte 1, its length in eight bytes, and its text in UTF-8.
* `Fingerprint.of`: the fingerprint of an endpoint accessed with some credentials.
-/

namespace LeasePool

/-- A digest that identifies an endpoint and the credentials used there. -/
structure Fingerprint where
  digest : Digest.Bytes32
deriving DecidableEq

namespace Fingerprint

/-- The bytes of a text in UTF-8. -/
def utf8 (s : String) : List UInt8 := s.toUTF8.toList

/-- One field of the encoding. -/
def encodeField : Option String → List UInt8
  | none => [0]
  | some s => 1 :: Digest.bigEndian 8 (utf8 s).length ++ utf8 s

/-- The bytes that identify an endpoint with credentials. -/
def encode (endpoint : String) (credentials : Credentials) : List UInt8 :=
  encodeField (some endpoint) ++ encodeField credentials.username ++
    encodeField credentials.password

/-- The fingerprint of an endpoint accessed with some credentials. Whoever reasons about
fingerprints has no need to compute the digest. -/
@[irreducible] def of (endpoint : String) (credentials : Credentials) : Fingerprint :=
  ⟨Digest.sha256 (encode endpoint credentials)⟩

/-- The whole digest in hexadecimal. -/
def hex (f : Fingerprint) : String := Digest.hex f.digest.toList

/-- The first eight bytes in hexadecimal. -/
def short (f : Fingerprint) : String := Digest.hex (f.digest.toList.take 8)

/-- The fingerprint for inspection. -/
def inspect (f : Fingerprint) : String := "Fingerprint(" ++ f.short ++ ")"

end Fingerprint

/-- The fingerprint of a data source: that of its endpoint with its own credentials. -/
def DataSource.fingerprint (d : DataSource) : Fingerprint := .of d.endpoint d.credentials

end LeasePool
