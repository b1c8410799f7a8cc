import Meshloom.Base64
import Meshloom.Json

/-! The passphrase encryption of a backup (`app/services/backup_crypto.py`): the envelope that
is written, the bounds that are checked before it is read, and the header that the tag of the
ciphertext covers. -/
namespace Meshloom.Backup

abbrev Bytes := List UInt8

/-- The texts of the keys and values of an envelope. -/
def text (s : String) : List Char := s.toList

def encryptedFormat : List Char := text "meshloom-backup-v2-encrypted"
def kdfName : List Char := text "scrypt"
def cipherName : List Char := text "aes-256-gcm"

def scryptN : Int := 2 ^ 16
def scryptR : Int := 8
def scryptP : Int := 1
def scryptMinN : Int := 2 ^ 14
def scryptMaxN : Int := 2 ^ 17
def saltBytes : Nat := 16
def nonceBytes : Nat := 12
def tagBytes : Nat := 16
def maxCiphertextBytes : Nat := 16 * 1024 * 1024
def passphraseMinChars : Nat := 8

inductive CryptoError where
  | badPassphrase | badEnvelope | tooLargeToEncrypt
  /-- a `ValueError` of its own -/
  | passphraseTooShort
  deriving DecidableEq

/-- What the module takes from elsewhere: the normal form of a text, the key derivation, the
authenticated cipher, and the reading and writing of documents. -/
structure Primitives where
  /-- `unicodedata.normalize("NFC", text)` -/
  nfc : List Char → List Char
  nfc_nil : ∀ text, nfc text = [] ↔ text = []
  scrypt : Bytes → Bytes → Int → Int → Int → Bytes
  /-- from a key, a nonce, the associated data and a plaintext -/
  encryptAndDigest : Bytes → Bytes → Bytes → Bytes → Bytes × Bytes
  /-- nothing when the tag does not fit -/
  decryptAndVerify : Bytes → Bytes → Bytes → Bytes → Bytes → Option Bytes
  length_encrypt : ∀ key nonce aad plaintext,
    (encryptAndDigest key nonce aad plaintext).1.length = plaintext.length ∧
      (encryptAndDigest key nonce aad plaintext).2.length = tagBytes
  decrypt_encrypt : ∀ key nonce aad plaintext,
    decryptAndVerify key nonce aad (encryptAndDigest key nonce aad plaintext).1
      (encryptAndDigest key nonce aad plaintext).2 = some plaintext
  /-- `json.dumps(document, ...).encode("utf-8")` -/
  dump : Json → Bytes
  /-- `json.loads(plaintext.decode("utf-8"))`, nothing when it is not a document -/
  load : Bytes → Option Json

/-- `text.encode("utf-8")`. -/
def encodeUtf8 (text : List Char) : Bytes := text.flatMap String.utf8EncodeChar

/-- `_b64decode`. -/
def b64decode (value : Option Json) (expected maximum : Option Nat) : Except CryptoError Bytes :=
  match value with
  | some (.string text) =>
    if maximum.any fun maximum => (maximum / 3 + 1) * 4 + 4 < text.length then .error .badEnvelope
    else match Base64.decode text with
      | none => .error .badEnvelope
      | some raw =>
        if expected.any (raw.length ≠ ·) then .error .badEnvelope
        else if maximum.any (· < raw.length) then .error .badEnvelope
        else .ok raw
  | _ => .error .badEnvelope

/-- The fields that the tag covers. -/
structure Header where
  exportedAt : Int
  publicKey : Option (List Char)
  n : Int
  r : Int
  p : Int
  saltB64 : List Char
  nonceB64 : List Char
  deriving DecidableEq

def kdfJson (header : Header) : Json :=
  .object [(text "name", .string kdfName), (text "n", .int header.n), (text "r", .int header.r),
    (text "p", .int header.p), (text "salt", .string header.saltB64)]

def cipherJson (header : Header) : Json :=
  .object [(text "name", .string cipherName), (text "nonce", .string header.nonceB64)]

def publicKeyJson (header : Header) : Json := header.publicKey.elim .null .string

/-- `_aad`. -/
def aad (header : Header) : Bytes :=
  encodeUtf8 (Json.dumps (.array [.string encryptedFormat, .int header.exportedAt,
    publicKeyJson header, kdfJson header, cipherJson header]))

section Crypto
variable (P : Primitives)

/-- `_derive_key`. -/
def deriveKey (passphrase : List Char) (salt : Bytes) (n r p : Int) : Bytes :=
  P.scrypt (encodeUtf8 (P.nfc passphrase)) salt n r p

/-- The header of a backup that is written, with a fresh salt and nonce. -/
def writtenHeader (document : Json) (publicKey : Option (List Char)) (salt nonce : Bytes) : Header where
  exportedAt := match document.get (text "exported_at") with
    | some (.int n) => n
    | _ => 0
  publicKey
  n := scryptN
  r := scryptR
  p := scryptP
  saltB64 := Base64.encode salt
  nonceB64 := Base64.encode nonce

/-- The ciphertext and tag of a backup that is written. -/
def sealed (document : Json) (passphrase : List Char) (publicKey : Option (List Char))
    (salt nonce : Bytes) : Bytes × Bytes :=
  P.encryptAndDigest (deriveKey P passphrase salt scryptN scryptR scryptP) nonce
    (aad (writtenHeader document publicKey salt nonce)) (P.dump document)

/-- `encrypt_backup`, with the random salt and nonce it draws. -/
def encryptBackup (document : Json) (passphrase : List Char) (publicKey : Option (List Char))
    (salt nonce : Bytes) : Except CryptoError Json :=
  if passphrase.length < passphraseMinChars then .error .passphraseTooShort
  else if maxCiphertextBytes < (P.dump document).length then .error .tooLargeToEncrypt
  else
    let header := writtenHeader document publicKey salt nonce
    let (ciphertext, tag) := sealed P document passphrase publicKey salt nonce
    .ok (.object [(text "format", .string encryptedFormat), (text "exported_at", .int header.exportedAt),
      (text "public_key", publicKeyJson header), (text "kdf", kdfJson header),
      (text "cipher", cipherJson header), (text "ciphertext", .string (Base64.encode (ciphertext ++ tag)))])

def isPowerOfTwo (value : Int) : Bool := 0 < value && value.toNat &&& (value.toNat - 1) = 0

/-- A condition that every good envelope meets. -/
def require (condition : Bool) : Except CryptoError Unit :=
  if condition then .ok () else .error .badEnvelope

def asInt : Option Json → Except CryptoError Int
  | some (.int n) => .ok n
  | _ => .error .badEnvelope

def asString : Option Json → Except CryptoError (List Char)
  | some (.string s) => .ok s
  | _ => .error .badEnvelope

def asDict : Option Json → Except CryptoError Json
  | some (.object entries) => .ok (.object entries)
  | _ => .error .badEnvelope

/-- A text, or nothing for null or a key that is missing. -/
def asOptionalString : Option Json → Except CryptoError (Option (List Char))
  | none | some .null => .ok none
  | some (.string s) => .ok (some s)
  | _ => .error .badEnvelope

/-- `_checked_params`: the header and the ciphertext with its tag. -/
def checkedParams (envelope : Json) : Except CryptoError (Header × Bytes) := do
  let format ← asString (envelope.get (text "format"))
  require (format = encryptedFormat)
  let exportedAt ← asInt (envelope.get (text "exported_at"))
  let publicKey ← asOptionalString (envelope.get (text "public_key"))
  let kdf ← asDict (envelope.get (text "kdf"))
  let cipher ← asDict (envelope.get (text "cipher"))
  let kdfFormat ← asString (kdf.get (text "name"))
  require (kdfFormat = kdfName)
  let cipherFormat ← asString (cipher.get (text "name"))
  require (cipherFormat = cipherName)
  let n ← asInt (kdf.get (text "n"))
  let r ← asInt (kdf.get (text "r"))
  let p ← asInt (kdf.get (text "p"))
  require (isPowerOfTwo n && scryptMinN ≤ n && n ≤ scryptMaxN)
  require (r = scryptR && p = scryptP)
  let _ ← b64decode (kdf.get (text "salt")) (some saltBytes) none
  let _ ← b64decode (cipher.get (text "nonce")) (some nonceBytes) none
  let saltB64 ← asString (kdf.get (text "salt"))
  let nonceB64 ← asString (cipher.get (text "nonce"))
  let blob ← b64decode (envelope.get (text "ciphertext")) none (some (maxCiphertextBytes + tagBytes))
  require (tagBytes ≤ blob.length)
  return ({ exportedAt, publicKey, n, r, p, saltB64, nonceB64 }, blob)

def checkEnvelope (envelope : Json) : Except CryptoError Unit := do
  let _ ← checkedParams envelope
  return ()

/-- The end of `decrypt_backup`, with the header and ciphertext that were checked. -/
def openChecked (header : Header) (blob : Bytes) (passphrase : List Char) : Except CryptoError Json :=
  if passphrase = [] then .error .badPassphrase
  else
    let salt := (Base64.decode header.saltB64).getD []
    let nonce := (Base64.decode header.nonceB64).getD []
    let key := deriveKey P passphrase salt header.n header.r header.p
    let cut := blob.length - tagBytes
    match P.decryptAndVerify key nonce (aad header) (blob.take cut) (blob.drop cut) with
    | none => .error .badPassphrase
    | some plaintext => match P.load plaintext with
      | some (.object entries) => .ok (.object entries)
      | _ => .error .badEnvelope

def decryptBackup (envelope : Json) (passphrase : List Char) : Except CryptoError Json := do
  let (header, blob) ← checkedParams envelope
  openChecked P header blob passphrase

end Crypto

end Meshloom.Backup
