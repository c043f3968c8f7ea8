import StreamPlan.Digest.Blake3
import StreamPlan.Json.Decode

/-!
# Fingerprints

A fingerprint is 32 bytes. The fingerprint of a value is the digest of its compact JSON text; several
fingerprints are folded into one by exclusive or, so that their order does not count and one that
occurs twice cancels out.
-/

namespace StreamPlan

/-- A fingerprint. -/
structure Fingerprint where
  /-- The bytes. -/
  bytes : Vector UInt8 32
  deriving DecidableEq

namespace Fingerprint

/-- The fingerprint of nothing. -/
def zero : Fingerprint := ⟨Vector.replicate 32 0⟩

/-- The exclusive or of two fingerprints. -/
def combine (a b : Fingerprint) : Fingerprint := ⟨a.bytes.zipWith (· ^^^ ·) b.bytes⟩

/-- The fingerprint of parts that are folded together. -/
def ofParts (parts : List Fingerprint) : Fingerprint := parts.foldl combine zero

/-- The fingerprint of a text. -/
def ofText (text : String) : Fingerprint :=
  let bytes := Blake3.digest text.toUTF8.toList
  ⟨⟨bytes.toArray, by simp [bytes, Blake3.length_digest]⟩⟩

/-- The fingerprint of a value. -/
def ofJson (value : Json) : Fingerprint := ofText value.compact

/-- The two digits of a byte. -/
def hexByte (byte : UInt8) : List Char :=
  [Json.hexDigit (byte.toNat / 16), Json.hexDigit (byte.toNat % 16)]

/-- The bytes in hexadecimal digits. -/
def hex (fingerprint : Fingerprint) : String :=
  String.ofList (fingerprint.bytes.toList.flatMap hexByte)

/-- The stored form: a list of numbers. -/
def toStored (fingerprint : Fingerprint) : Json :=
  .array (fingerprint.bytes.toList.map fun byte => .ofNat byte.toNat)

/-- Reads the stored form. The items are looked at in order, and then whether there are as many as
there should be. -/
def ofStored : Json → Json.Decoded Fingerprint
  | .array items => do
    let bytes ← (items.take 32).mapM Json.Decode.byte
    if h : bytes.length = 32 then
      if 32 < items.length then .error (.wrongLength items.length "fewer elements in array")
      else .ok ⟨⟨bytes.toArray, by simpa using h⟩⟩
    else .error (.wrongLength items.length "an array of length 32")
  | other => .error (.wrongType other.found "an array of length 32")

end Fingerprint

end StreamPlan
