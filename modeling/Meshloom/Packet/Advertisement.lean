import Meshloom.Bytes
import Meshloom.Text
import Meshloom.Utf8

/-! Advertisements: the payload parser and the signature check, which cut the same
payload independently of each other. -/
namespace Meshloom.Packet
open Bytes Text Utf8

/-- Coordinates are in millionths of a degree. -/
structure ParsedAdvertisement where
  publicKey : List Char
  timestamp : Nat
  name : Option (List Char)
  lat : Option Int
  lon : Option Int
  deviceRole : Nat
  deriving DecidableEq, Repr

namespace Advertisement

def hasLocation (flags : Nat) : Bool := flags &&& 0x10 ≠ 0
def hasFeature1 (flags : Nat) : Bool := flags &&& 0x20 ≠ 0
def hasFeature2 (flags : Nat) : Bool := flags &&& 0x40 ≠ 0
def hasName (flags : Nat) : Bool := flags &&& 0x80 ≠ 0

/-- The lower nibble, or 0 for one that is no role. -/
def deviceRole (flags : Nat) : Nat := if flags &&& 0x0F > 4 then 0 else flags &&& 0x0F

/-- The `offset` at which the name starts. -/
def nameOffset (flags : Nat) : Nat :=
  101 + (if hasLocation flags then 8 else 0) + (if hasFeature1 flags then 2 else 0) +
    (if hasFeature2 flags then 2 else 0)

/-- `int.from_bytes` of four bytes, signed. -/
def signedInt32 (bytes : List UInt8) : Int := (BitVec.ofNat 32 (fromLittleEndian bytes)).toInt

def isValidAdvertLocation (lat lon : Int) : Bool :=
  (-90000000 ≤ lat && lat ≤ 90000000) && (-180000000 ≤ lon && lon ≤ 180000000)

/-- The location behind the flags, unless it is not on Earth. -/
def location (payload : List UInt8) : Option (Int × Int) :=
  let lat := signedInt32 ((payload.drop 101).take 4)
  let lon := signedInt32 ((payload.drop 105).take 4)
  if isValidAdvertLocation lat lon then some (lat, lon) else none

/-- The name in the bytes: up to a null character, without control characters and
surrounding space, if it has a letter or digit. -/
def cleanName (alnum : Alnum) (nameBytes : List UInt8) : Option (List Char) :=
  let name := (decodeIgnore nameBytes).takeWhile (· ≠ Char.ofNat 0)
  let name := strip (name.filter fun c => ' ' ≤ c || c = '\t')
  if name = [] || !name.any alnum.apply then none else some name

end Advertisement

open Advertisement

def parseAdvertisement (alnum : Alnum) (payload : List UInt8) : Option ParsedAdvertisement :=
  if payload.length < 101 then none
  else
    let flags := (payload.getD 100 0).toNat
    let advert : ParsedAdvertisement := {
      publicKey := toHex (payload.take 32)
      timestamp := fromLittleEndian ((payload.drop 32).take 4)
      name := none, lat := none, lon := none
      deviceRole := deviceRole flags }
    if hasLocation flags ∧ payload.length < 101 + 8 then some advert
    else
      let place := if hasLocation flags then location payload else none
      let offset := nameOffset flags
      let name := if hasName flags ∧ payload.length > offset then
        cleanName alnum (payload.drop offset) else none
      some { advert with name, lat := place.map Prod.fst, lon := place.map Prod.snd }

def advertHeaderSize : Nat := 100
def advertMaxAppDataSize : Nat := 32

/-- What `verify_advert_signature` hands to the verifier. -/
structure VerifierInput where
  publicKey : List UInt8
  message : List UInt8
  signature : List UInt8
  deriving DecidableEq, Repr

def verifierInput (payload : List UInt8) : Option VerifierInput :=
  if payload.length < advertHeaderSize then none
  else
    let appDataLen := min (payload.length - advertHeaderSize) advertMaxAppDataSize
    some {
      publicKey := payload.take 32
      message := payload.take 36 ++ (payload.drop advertHeaderSize).take appDataLen
      signature := (payload.drop 36).take 64 }

/-- The signature check, over an arbitrary verifier. -/
def verifyAdvertSignature (verify : VerifierInput → Bool) (payload : List UInt8) : Bool :=
  match verifierInput payload with
  | none => false
  | some input => verify input

/-- The advert that `_process_advertisement` goes on with. -/
def acceptAdvertisement (alnum : Alnum) (verify : VerifierInput → Bool) (payload : List UInt8) :
    Option ParsedAdvertisement :=
  match parseAdvertisement alnum payload with
  | none => none
  | some advert => if verifyAdvertSignature verify payload then some advert else none

end Meshloom.Packet
