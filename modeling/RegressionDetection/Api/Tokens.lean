import RegressionDetection.Foundation.Python
import RegressionDetection.Foundation.Text

/-! Bearer tokens: their text, the stored PBKDF2 digest and its verification.
The key derivation is a parameter: password-based, salted, iterated SHA-256. -/

namespace RegressionDetection.Api

open Foundation

/-- `hashlib.pbkdf2_hmac("sha256", secret.encode(), salt, 600000, dklen=32)`. -/
abbrev KeyDerivation := List UInt8 → String → List UInt8

/-- `_TOKEN_PREFIX`. -/
def tokenPrefix : List Char := "mrds_".toList

/-- The plaintext token of an id and fresh random bytes. -/
def tokenSecret (tokenId : Uuid) (raw : List UInt8) : String :=
  String.ofList (tokenPrefix ++ (tokenId.text.toList ++ '_' :: toHex raw))

/-- What is stored for a secret: salt and digest. -/
def tokenHash (pbkdf2 : KeyDerivation) (salt : List UInt8) (secret : String) : String :=
  String.ofList (toHex salt ++ ':' :: toHex (pbkdf2 salt secret))

/-- `generate_token`; `raw` and `salt` are the bytes the two random calls return. -/
def generateToken (pbkdf2 : KeyDerivation) (tokenId : Uuid) (raw salt : List UInt8) :
    String × String :=
  (tokenSecret tokenId raw, tokenHash pbkdf2 salt (tokenSecret tokenId raw))

def verifyToken (pbkdf2 : KeyDerivation) (secret stored : String) : Bool :=
  match splitMax ':' 1 stored.toList with
  | [saltHex, digestHex] =>
    match fromHex saltHex, fromHex digestHex with
    | some salt, some expected => decide (pbkdf2 salt secret = expected)
    | _, _ => false
  | _ => false

def parseTokenId (secret : String) : Option String :=
  match dropPrefix? tokenPrefix secret.toList with
  | none => none
  | some _ =>
    match splitMax '_' 2 secret.toList with
    | _ :: tokenId :: _ :: _ => some (String.ofList tokenId)
    | _ => none

/-- The id is read back from every generated token. -/
theorem parseTokenId_tokenSecret (tokenId : Uuid) (raw : List UInt8) :
    parseTokenId (tokenSecret tokenId raw) = some tokenId.text := by
  have parts : splitMax '_' 2 (tokenSecret tokenId raw).toList =
      ["mrds".toList, tokenId.text.toList, toHex raw] := by
    have split := splitMax_append '_' 1 (show '_' ∉ "mrds".toList by decide)
      (tokenId.text.toList ++ '_' :: toHex raw)
    rw [splitMax_append '_' 0 tokenId.no_underscore, splitMax] at split
    rw [← split, tokenSecret, String.toList_ofList]
    rfl
  unfold parseTokenId
  rw [parts, tokenSecret, String.toList_ofList, dropPrefix?_append]
  simp

/-- A stored digest verifies exactly the secrets with the same derived key. -/
theorem verifyToken_tokenHash (pbkdf2 : KeyDerivation) (salt : List UInt8) (secret presented : String) :
    verifyToken pbkdf2 presented (tokenHash pbkdf2 salt secret) = true ↔
      pbkdf2 salt presented = pbkdf2 salt secret := by
  have parts : splitMax ':' 1 (tokenHash pbkdf2 salt secret).toList =
      [toHex salt, toHex (pbkdf2 salt secret)] := by
    rw [tokenHash, String.toList_ofList, splitMax_append ':' 0 (colon_not_mem_toHex salt), splitMax]
  simp [verifyToken, parts, fromHex_toHex]

end RegressionDetection.Api
