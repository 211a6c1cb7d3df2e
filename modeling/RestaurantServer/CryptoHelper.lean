import RestaurantServer.AESCipher
import RestaurantServer.AuthHelper
import RestaurantServer.JavaLongs

/-!
The class `CryptoHelper`: encryption of messages under a key given as text, and
tokens that are signed and then encrypted under the key of a keystore. The
system properties that name the keystore are constants of the class, so the
checks that they are not empty never fail and are left out.
-/

namespace RestaurantServer.CryptoHelper

open RestaurantServer.JavaExceptions
open RestaurantServer.JavaStrings
open RestaurantServer.ThrowingMethods
open RestaurantServer.BlockCipherModes
open RestaurantServer.Charsets
open RestaurantServer.JceCipher
open RestaurantServer.AESCipher
open RestaurantServer.JavaLongs
open RestaurantServer.JsonTokens
open RestaurantServer.AuthHelper

def encryptMessage (provider : Provider) (key message : String) :
    Except Throwable String := do
  let cipher ← AESCipher.new (Utf8.encode key)
  (call (getEncryptedMessage provider message) cipher).1

def decryptMessage (provider : Provider) (charset : Charset)
    (key encryptedMessage : String) : Except Throwable String := do
  let cipher ← AESCipher.new (Utf8.encode key)
  (call (getDecryptedMessage provider charset (utf16 encryptedMessage)) cipher).1

structure JWTHelper where
  jwt : Option String
  t : Option TokenInfo
  deriving DecidableEq

section Tokens

variable (provider : Provider) (library : Library) (charset : Charset)

def verifiedOrExpired (key u : String) (verified : Int64) : Except Throwable String := do
  try
    let _ ← verifyToken library charset key u verified
    pure u
  catch _ =>
    pure "Expired"

/-- The clock is read when the token is issued, and again when it is verified.
Note the order of `jti` and `aud`. -/
def createJWT (key : String) (issued verified : Int64)
    (userId duration iss sub aud jti firstName lastName admin : Option String) :
    Except Throwable String := do
  try
    let l ← parseLong duration
    let u ← createJsonWebToken library charset key issued userId l iss sub jti aud firstName
      lastName admin
    verifiedOrExpired library charset key u verified
  catch e =>
    if e.className = "java.lang.NumberFormatException" then pure "Expired" else throw e

/-- `keystore` is the outcome of fetching the key from the keystore. -/
def createJWE (keystore : Except Throwable Bytes) (issued verified : Int64)
    (userId duration iss sub aud jti firstName lastName admin : Option String) :
    Except Throwable String := do
  try
    let keyFromKeyStore ← keystore
    let cipher ← AESCipher.new keyFromKeyStore
    let key := getKey cipher
    let messageToEncrypt ← createJWT library charset key issued verified userId duration iss
      sub aud jti firstName lastName admin
    if messageToEncrypt ≠ "Expired" then
      (call (getEncryptedMessage provider messageToEncrypt) cipher).1
    else pure messageToEncrypt
  catch e =>
    pure ("400/Error" ++ e.toString)

def decryptJWE (keystore : Except Throwable Bytes) (now : Int64) (token : List UInt16) :
    Except Throwable JWTHelper := do
  try
    let keyFromKeyStore ← keystore
    let cipher ← AESCipher.new keyFromKeyStore
    let key := getKey cipher
    let dMessage ← (call (getDecryptedMessage provider charset token) cipher).1
    let ti ← verifyToken library charset key dMessage now
    pure ⟨some dMessage, some ti⟩
  catch _ =>
    pure ⟨some "Expired", none⟩

end Tokens

theorem new_eq_ok {key : Bytes} (hkey : ValidKey key) :
    AESCipher.new key = .ok ⟨key, INITIAL_IV, none⟩ :=
  newWithIV_eq_ok hkey INITIAL_IV

theorem encryptMessage_eq_ok (provider : Provider) {key : String}
    (hkey : ValidKey (Utf8.encode key)) (message : String) :
    encryptMessage provider key message =
      .ok (Base64.encode (encryptPadded (provider.aes (Utf8.encode key))
        (Block.ofList INITIAL_IV) (Utf8.encode message))) := by
  simp only [encryptMessage, new_eq_ok hkey, bind, Except.bind,
    getEncryptedMessage_outcome]
  exact encryptedMessage_eq_ok provider hkey rfl message

theorem decryptMessage_encryptMessage (provider : Provider) (charset : Charset)
    {key : String} (hkey : ValidKey (Utf8.encode key)) (message : String) :
    (do
      let encrypted ← encryptMessage provider key message
      decryptMessage provider charset key encrypted) =
      .ok (charset.newString (Utf8.encode message)) := by
  rw [encryptMessage_eq_ok provider hkey message]
  simp only [decryptMessage, new_eq_ok hkey, bind, Except.bind,
    getDecryptedMessage_outcome]
  exact decryptedMessage_encrypt provider charset hkey rfl message

def encryptRounds (provider : Provider) (keys : List String) (message : String) :
    Except Throwable String :=
  keys.foldlM (fun text key => encryptMessage provider key text) message

def decryptRounds (provider : Provider) (charset : Charset) (keys : List String)
    (message : String) : Except Throwable String :=
  keys.foldlM (fun text key => decryptMessage provider charset key text) message

/-- On a UTF-8 host, any number of encryptions is undone by as many decryptions
with the same keys in reverse order, and none of them throws. -/
theorem decryptRounds_encryptRounds (provider : Provider) (keys : List String)
    (message : String) (hkeys : ∀ key ∈ keys, ValidKey (Utf8.encode key)) :
    (do
      let encrypted ← encryptRounds provider keys message
      decryptRounds provider utf8 keys.reverse encrypted) = .ok message := by
  induction keys generalizing message with
  | nil => rfl
  | cons key keys ih =>
      have hkey := hkeys key (by simp)
      have hlast := decryptMessage_encryptMessage provider utf8 hkey message
      have hread : utf8.newString (Utf8.encode message) = message :=
        Utf8.decode_encode message
      rw [hread] at hlast
      obtain ⟨encrypted, hencrypt⟩ :
          ∃ encrypted, encryptMessage provider key message = .ok encrypted :=
        ⟨_, encryptMessage_eq_ok provider hkey message⟩
      rw [hencrypt] at hlast
      have hrest := ih encrypted fun other hother => hkeys other (by simp [hother])
      simp only [encryptRounds, decryptRounds, List.foldlM_cons, List.reverse_cons,
        List.foldlM_append, List.foldlM_nil, hencrypt, bind_pure] at hrest hlast ⊢
      rw [← bind_assoc]
      exact (congrArg (· >>= _) hrest).trans hlast

theorem decryptRounds_encryptRounds_twoKeys :
    (do
      let encrypted ← encryptRounds xorProvider
        ["0123456789abcdef", "ключ к шифру ключ!"] "déjà vu 😀"
      decryptRounds xorProvider utf8
        ["0123456789abcdef", "ключ к шифру ключ!"].reverse encrypted) =
      .ok "déjà vu 😀" :=
  decryptRounds_encryptRounds xorProvider ["0123456789abcdef", "ключ к шифру ключ!"]
    "déjà vu 😀" (by decide +kernel)

end RestaurantServer.CryptoHelper
