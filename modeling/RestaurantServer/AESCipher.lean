import RestaurantServer.Base64
import RestaurantServer.Charsets
import RestaurantServer.JceCipher

/-!
The class `AESCipher`. All calls on one object share its `Cipher`, which each
call initialises first. `decode` and `new String` see the code units of a text
and the default charset of the host.
-/

namespace RestaurantServer.AESCipher

open RestaurantServer.JavaExceptions
open RestaurantServer.JavaStrings
open RestaurantServer.ThrowingMethods
open RestaurantServer.BlockCipherModes
open RestaurantServer.Charsets
open RestaurantServer.JceCipher

structure State where
  secretKeySpec : Bytes
  iv : Bytes
  cipher : Cipher
  deriving DecidableEq

def INITIAL_IV : Bytes :=
  [0, 0, 0, 0, 0, 0, 0, 0, 0, 0, 0, 0, 0, 0, 0, 0]

theorem length_INITIAL_IV : INITIAL_IV.length = 16 := rfl

/-- The constructor with an initial vector. The lengths are checked only when
the cipher is initialised, but an empty key is no key at all. -/
def newWithIV (key iv : Bytes) : Except Throwable State :=
  if key = [] then .error (illegalArgumentException "Empty key")
  else .ok ⟨key, iv, none⟩

def new (key : Bytes) : Except Throwable State :=
  newWithIV key INITIAL_IV

def onCipher {α : Type} (m : Method Throwable Cipher α) : Method Throwable State α :=
  onField (fun object => some object.cipher)
    (fun cipher object => { object with cipher }) nullPointerException m

def getCipher (encryptMode : Mode) : Method Throwable State Unit := do
  let object ← get
  onCipher (init encryptMode object.secretKeySpec object.iv)

def propagate {α : Type} (classes : List String) (e : Throwable) :
    Method Throwable State α :=
  if e.className ∈ classes then throw (runtimeException e) else throw e

def base64Decode (message : List UInt16) : Except Throwable Bytes :=
  match Base64.decode message with
  | some bytes => .ok bytes
  | none =>
      .error (illegalArgumentException
        "com.google.common.io.BaseEncoding$DecodingException")

def getEncryptedMessage (provider : Provider) (message : String) :
    Method Throwable State String := do
  try
    getCipher .encrypt
    let encryptedTextBytes ← onCipher (doFinal provider (Utf8.encode message))
    pure (Base64.encode encryptedTextBytes)
  catch e =>
    propagate ["javax.crypto.IllegalBlockSizeException",
      "javax.crypto.BadPaddingException", "java.io.UnsupportedEncodingException",
      "java.security.InvalidKeyException",
      "java.security.InvalidAlgorithmParameterException"] e

/-- The plain bytes are read in the default charset, whatever charset they were
written in. -/
def getDecryptedMessage (provider : Provider) (charset : Charset)
    (message : List UInt16) : Method Throwable State String := do
  try
    getCipher .decrypt
    let encryptedTextBytes ← liftExcept (base64Decode message)
    let decryptedTextBytes ← onCipher (doFinal provider encryptedTextBytes)
    pure (charset.newString decryptedTextBytes)
  catch e =>
    propagate ["javax.crypto.IllegalBlockSizeException",
      "javax.crypto.BadPaddingException", "java.security.InvalidKeyException",
      "java.security.InvalidAlgorithmParameterException"] e

def getKey (object : State) : String :=
  Base64.encode object.secretKeySpec

/-- The cipher is made but never initialised: the lines that would use the key and
the initial vector are commented out. -/
def decrypt (provider : Provider) (_object : State) (cipherText _key _iv : Bytes) :
    Except Throwable Bytes := do
  let c : Cipher := none
  try (call (doFinalNoPadding provider cipherText) c).1
  catch _ => pure cipherText

def encrypt (provider : Provider) (plainText _key _iv : Bytes) : Except Throwable Bytes := do
  let c : Cipher := none
  try (call (doFinalNoPadding provider plainText) c).1
  catch _ => pure plainText

section Outcome

variable (provider : Provider) (charset : Charset) (key iv : Bytes)

def initialised : Except Throwable Unit :=
  if iv.length ≠ 16 then .error (runtimeException wrongIVLength)
  else if ¬ ValidKey key then .error (runtimeException (invalidKeyLength key))
  else .ok ()

def encryptedMessage (message : String) : Except Throwable String := do
  initialised key iv
  .ok (Base64.encode
    (encryptPadded (provider.aes key) (Block.ofList iv) (Utf8.encode message)))

def decryptedMessage (message : List UInt16) : Except Throwable String := do
  initialised key iv
  let encryptedTextBytes ← base64Decode message
  match transform provider.aes (fresh .decrypt key iv) encryptedTextBytes with
  | .ok decryptedTextBytes => .ok (charset.newString decryptedTextBytes)
  | .error e => .error (runtimeException e)

end Outcome

theorem newWithIV_eq_ok {key : Bytes} (hkey : ValidKey key) (iv : Bytes) :
    newWithIV key iv = .ok ⟨key, iv, none⟩ := by
  have hne : key ≠ [] := by
    rintro rfl
    exact absurd hkey (by decide)
  rw [newWithIV, if_neg hne]

theorem eq_of_newWithIV {key iv : Bytes} {object : State}
    (hnew : newWithIV key iv = .ok object) : object = ⟨key, iv, none⟩ := by
  rw [newWithIV] at hnew
  split at hnew
  · cases hnew
  · exact (Except.ok.inj hnew).symm

theorem initialised_eq_ok {key iv : Bytes} (hkey : ValidKey key)
    (hiv : iv.length = 16) : initialised key iv = .ok () := by
  simp [initialised, hiv, hkey]

theorem base64Decode_encode (bytes : Bytes) :
    base64Decode (utf16 (Base64.encode bytes)) = .ok bytes := by
  simp [base64Decode]

theorem encryptedMessage_eq_ok (provider : Provider) {key iv : Bytes}
    (hkey : ValidKey key) (hiv : iv.length = 16) (message : String) :
    encryptedMessage provider key iv message =
      .ok (Base64.encode
        (encryptPadded (provider.aes key) (Block.ofList iv) (Utf8.encode message))) := by
  simp [encryptedMessage, initialised_eq_ok hkey hiv, bind, Except.bind]

theorem decryptedMessage_encrypt (provider : Provider) (charset : Charset)
    {key iv : Bytes} (hkey : ValidKey key) (hiv : iv.length = 16) (message : String) :
    decryptedMessage provider charset key iv
        (utf16 (Base64.encode
          (encryptPadded (provider.aes key) (Block.ofList iv) (Utf8.encode message)))) =
      .ok (charset.newString (Utf8.encode message)) := by
  simp only [decryptedMessage, initialised_eq_ok hkey hiv, base64Decode_encode, bind,
    Except.bind, transform_decrypt_encrypt]

theorem call_getCipher (encryptMode : Mode) (object : State) :
    call (getCipher encryptMode) object =
      ((call (init encryptMode object.secretKeySpec object.iv) object.cipher).1,
        { object with
          cipher := (call (init encryptMode object.secretKeySpec object.iv)
            object.cipher).2 }) := by
  simp [getCipher, call_bind, onCipher, call_onField_some]

theorem call_onCipher {α : Type} (m : Method Throwable Cipher α) (object : State) :
    call (onCipher m) object =
      ((call m object.cipher).1, { object with cipher := (call m object.cipher).2 }) :=
  call_onField_some rfl

/-- The outcome of an encryption does not depend on the calls before it. -/
theorem getEncryptedMessage_outcome (provider : Provider) (message : String)
    (object : State) :
    (call (getEncryptedMessage provider message) object).1 =
      encryptedMessage provider object.secretKeySpec object.iv message := by
  obtain ⟨key, iv, cipher⟩ := object
  simp only [getEncryptedMessage, encryptedMessage, initialised, call_tryCatch, call_bind,
    call_getCipher]
  by_cases hiv : iv.length = 16
  · by_cases hkey : ValidKey key
    · simp only [call_init .encrypt hiv hkey, call_onCipher]
      have hfinal := call_doFinal_fst provider .encrypt key iv (Utf8.encode message)
      rcases hcall : call (doFinal provider (Utf8.encode message))
        (some (fresh .encrypt key iv)) with ⟨outcome, cipher'⟩
      rw [hcall] at hfinal
      obtain rfl : outcome = _ := hfinal
      simp [transform, fresh, hiv, hkey, bind, Except.bind]
    · simp only [call_init_of_key .encrypt hiv hkey]
      simp [propagate, invalidKeyLength, hiv, hkey, bind, Except.bind]
  · simp only [call_init_of_iv .encrypt key hiv]
    simp [propagate, wrongIVLength, hiv, bind, Except.bind]

theorem className_of_transform {aes : Bytes → Equiv.Perm Block} {state : Initialised}
    {bytes : Bytes} {e : Throwable} (htransform : transform aes state bytes = .error e) :
    e.className = "javax.crypto.IllegalBlockSizeException" ∨
      e.className = "javax.crypto.BadPaddingException" := by
  unfold transform at htransform
  split at htransform
  · cases htransform
  · split at htransform
    · cases htransform
      exact .inl rfl
    · split at htransform
      · cases htransform
      · cases htransform
        exact .inr rfl

/-- The outcome of a decryption does not depend on the calls before it. -/
theorem getDecryptedMessage_outcome (provider : Provider) (charset : Charset)
    (message : List UInt16) (object : State) :
    (call (getDecryptedMessage provider charset message) object).1 =
      decryptedMessage provider charset object.secretKeySpec object.iv message := by
  obtain ⟨key, iv, cipher⟩ := object
  simp only [getDecryptedMessage, decryptedMessage, initialised, call_tryCatch, call_bind,
    call_getCipher]
  by_cases hiv : iv.length = 16
  · by_cases hkey : ValidKey key
    · simp only [call_init .decrypt hiv hkey, call_onCipher, call_liftExcept]
      rcases hdecode : Base64.decode message with _ | bytes
      · simp [base64Decode, hdecode, hiv, hkey, propagate, illegalArgumentException, bind,
          Except.bind]
      have hfinal := call_doFinal_fst provider .decrypt key iv bytes
      rcases hcall : call (doFinal provider bytes) (some (fresh .decrypt key iv)) with
        ⟨outcome, cipher'⟩
      rw [hcall] at hfinal
      obtain rfl : outcome = _ := hfinal
      rcases htransform : transform provider.aes (fresh .decrypt key iv) bytes with e | plain
      · rcases className_of_transform htransform with hclass | hclass <;>
          simp [base64Decode, hdecode, hcall, htransform, hiv, hkey, propagate, hclass,
            bind, Except.bind]
      · simp [base64Decode, hdecode, hcall, htransform, hiv, hkey, bind, Except.bind]
    · simp only [call_init_of_key .decrypt hiv hkey]
      simp [propagate, invalidKeyLength, hiv, hkey, bind, Except.bind]
  · simp only [call_init_of_iv .decrypt key hiv]
    simp [propagate, wrongIVLength, hiv, bind, Except.bind]

theorem encrypt_eq (provider : Provider) (plainText key iv : Bytes) :
    encrypt provider plainText key iv = .ok plainText := rfl

theorem decrypt_eq (provider : Provider) (object : State) (cipherText key iv : Bytes) :
    decrypt provider object cipherText key iv = .ok cipherText := rfl

end RestaurantServer.AESCipher
