import RestaurantServer.AESCipher
import RestaurantServer.MethodTriples

/-!
Calls on `AESCipher` objects: a message read with another initial vector, any
number of calls on one object, and the two methods that work on bytes.
-/

namespace RestaurantServer.AESCipherCalls

open RestaurantServer.JavaExceptions
open RestaurantServer.JavaStrings
open RestaurantServer.ThrowingMethods
open RestaurantServer.MethodTriples
open RestaurantServer.BlockCipherModes
open RestaurantServer.Charsets
open RestaurantServer.JceCipher
open RestaurantServer.AESCipher

section NewObjects

variable (provider : Provider) (charset : Charset) (key iv : Bytes)

/-- A new object, and one call on it. -/
def encryptNew (message : String) : Except Throwable String := do
  let object ← newWithIV key iv
  (call (getEncryptedMessage provider message) object).1

def decryptNew (message : List UInt16) : Except Throwable String := do
  let object ← newWithIV key iv
  (call (getDecryptedMessage provider charset message) object).1

variable {key}

theorem encryptNew_eq (hkey : ValidKey key) (message : String) :
    encryptNew provider key iv message = encryptedMessage provider key iv message := by
  rw [encryptNew, newWithIV_eq_ok hkey iv, ok_bind, getEncryptedMessage_outcome]

theorem decryptNew_eq (hkey : ValidKey key) (message : List UInt16) :
    decryptNew provider charset key iv message =
      decryptedMessage provider charset key iv message := by
  rw [decryptNew, newWithIV_eq_ok hkey iv, ok_bind, getDecryptedMessage_outcome]

end NewObjects

section WrongIV

variable {aes : Bytes → Equiv.Perm Block} {key iv iv' : Bytes}

theorem ofList_injective (hiv : iv.length = 16) (hiv' : iv'.length = 16)
    (heq : Block.ofList iv = Block.ofList iv') : iv = iv' := by
  rw [← Block.toList_ofList hiv, ← Block.toList_ofList hiv', heq]

/-- The padding of the same bytes in another place, or a first block that differs,
keeps the plain bytes from coming back. -/
theorem transform_encryptPadded_ne (hiv : iv.length = 16) (hiv' : iv'.length = 16)
    (hne : iv ≠ iv') (plain : Bytes) :
    transform aes (fresh .decrypt key iv')
      (encryptPadded (aes key) (Block.ofList iv) plain) ≠ .ok plain := by
  intro heq
  have hmod := length_encryptPadded (aes key) (Block.ofList iv) plain
  have hback := decryptBlocks_encryptPadded (aes key) (Block.ofList iv) plain
  have hlength : (encryptPadded (aes key) (Block.ofList iv) plain).length =
      (pad plain).length := by
    rw [← hback, length_decryptBlocks _ _ hmod]
  have hpad := length_pad plain
  simp only [transform, fresh, hmod, ne_eq, not_true_eq_false, if_false] at heq
  split at heq
  case h_2 => cases heq
  case h_1 unpadded hunpad =>
    obtain rfl := Except.ok.inj heq
    have hother := length_decryptBlocks (aes key) (Block.ofList iv') hmod
    have hpadded := pad_of_unpad (by
      intro hnil
      rw [hnil, List.length_nil] at hother
      omega) (by omega) hunpad
    refine hne (ofList_injective hiv hiv' (decryptBlocks_injective ?_ (hback.trans hpadded)))
    omega

theorem decryptedMessage_ne {provider : Provider} {message : String} (hkey : ValidKey key)
    (hiv : iv.length = 16) (hiv' : iv'.length = 16) (hne : iv ≠ iv')
    (hreplacement : '\uFFFD' ∉ message.toList) :
    decryptedMessage provider utf8 key iv'
        (utf16 (Base64.encode
          (encryptPadded (provider.aes key) (Block.ofList iv) (Utf8.encode message)))) ≠
      .ok message := by
  simp only [decryptedMessage, initialised_eq_ok hkey hiv', base64Decode_encode, ok_bind]
  split
  case h_2 => rintro ⟨⟩
  case h_1 decryptedTextBytes htransform =>
    intro heq
    obtain rfl : Utf8.decode decryptedTextBytes = message := Except.ok.inj heq
    rw [Utf8.encode_decode hreplacement] at htransform
    exact transform_encryptPadded_ne hiv hiv' hne decryptedTextBytes htransform

end WrongIV

/-- A message that is decrypted with another initial vector than it was encrypted
with does not come back, unless it has replacement characters of its own. With the
same vector it comes back. -/
theorem wrong_iv_noticed (provider : Provider) (key iv iv' : Bytes) (message : String)
    (hkey : ValidKey key) (hiv : iv.length = 16) (hiv' : iv'.length = 16)
    (hreplacement : '\uFFFD' ∉ message.toList) :
    ∃ encrypted, encryptNew provider key iv message = .ok encrypted ∧
      (iv' ≠ iv → decryptNew provider utf8 key iv' (utf16 encrypted) ≠ .ok message) ∧
      (iv' = iv → decryptNew provider utf8 key iv' (utf16 encrypted) = .ok message) := by
  refine ⟨_, (encryptNew_eq provider iv hkey message).trans
    (encryptedMessage_eq_ok provider hkey hiv message), ?_, ?_⟩
  · intro hne
    rw [decryptNew_eq provider utf8 iv' hkey]
    exact decryptedMessage_ne hkey hiv hiv' hne.symm hreplacement
  · rintro rfl
    rw [decryptNew_eq provider utf8 iv' hkey, decryptedMessage_encrypt provider utf8 hkey hiv]
    exact congrArg Except.ok (Utf8.decode_encode message)

theorem wrong_iv_noticed_lastByte :
    ∃ encrypted,
      encryptNew xorProvider (Utf8.encode "0123456789abcdef") INITIAL_IV "abc" =
          .ok encrypted ∧
        decryptNew xorProvider utf8 (Utf8.encode "0123456789abcdef")
          [0, 0, 0, 0, 0, 0, 0, 0, 0, 0, 0, 0, 0, 0, 0, 12] (utf16 encrypted) ≠ .ok "abc" := by
  obtain ⟨encrypted, hencrypted, hother, -⟩ :=
    wrong_iv_noticed xorProvider (Utf8.encode "0123456789abcdef") INITIAL_IV
      [0, 0, 0, 0, 0, 0, 0, 0, 0, 0, 0, 0, 0, 0, 0, 12] "abc" (by decide +kernel) rfl rfl
      (by decide)
  exact ⟨encrypted, hencrypted, hother (by decide)⟩

/-- A call on an object, with any string. -/
inductive MessageCall where
  | getEncryptedMessage (message : List UInt16)
  | getDecryptedMessage (message : List UInt16)

def MessageCall.body (provider : Provider) (charset : Charset) :
    MessageCall → Method Throwable State String
  | .getEncryptedMessage message =>
      AESCipher.getEncryptedMessage provider (encodable message)
  | .getDecryptedMessage message => AESCipher.getDecryptedMessage provider charset message

def outcomes (provider : Provider) (charset : Charset) :
    State → List MessageCall → List (Except Throwable String)
  | _, [] => []
  | object, request :: requests =>
      (call (request.body provider charset) object).1 ::
        outcomes provider charset (call (request.body provider charset) object).2 requests

/-- The same call as the only one on a new object. -/
def outcomeOnNew (provider : Provider) (charset : Charset) (key iv : Bytes)
    (request : MessageCall) : Except Throwable String := do
  let object ← newWithIV key iv
  (call (request.body provider charset) object).1

section History

variable (provider : Provider) (charset : Charset) (key iv : Bytes)

/-- The object has the key and the initial vector it was made with. The cipher may
be in any state. -/
def MadeWith (object : State) : Prop :=
  object.secretKeySpec = key ∧ object.iv = iv

theorem onCipher_triple {α : Type} (m : Method Throwable Cipher α) :
    Triple (MadeWith key iv) (onCipher m) (fun _ => MadeWith key iv) (MadeWith key iv) := by
  intro object hobject
  rw [call_onCipher]
  cases (call m object.cipher).1 <;> exact hobject

theorem getCipher_triple (encryptMode : Mode) :
    Triple (MadeWith key iv) (getCipher encryptMode) (fun _ => MadeWith key iv)
      (MadeWith key iv) := by
  refine triple_get_bind fun object hobject => ?_
  refine triple_weaken (onCipher_triple key iv _) ?_ (fun _ _ hs => hs) (fun _ hs => hs)
  rintro _ rfl
  exact hobject

theorem propagate_triple {α : Type} (classes : List String) (e : Throwable) :
    Triple (MadeWith key iv) (propagate (α := α) classes e) (fun _ => MadeWith key iv)
      (MadeWith key iv) := by
  rw [propagate]
  split
  · exact triple_throw fun _ hs => hs
  · exact triple_throw fun _ hs => hs

theorem body_triple (request : MessageCall) :
    Triple (MadeWith key iv) (request.body provider charset) (fun _ => MadeWith key iv)
      (MadeWith key iv) := by
  cases request with
  | getEncryptedMessage message =>
      refine triple_tryCatch ?_ fun e => propagate_triple key iv _ e
      refine triple_bind (getCipher_triple key iv .encrypt) fun _ => ?_
      exact triple_bind (onCipher_triple key iv _) fun _ => triple_pure fun _ hs => hs
  | getDecryptedMessage message =>
      refine triple_tryCatch ?_ fun e => propagate_triple key iv _ e
      refine triple_bind (getCipher_triple key iv .decrypt) fun _ => ?_
      refine triple_bind (triple_liftExcept (fun _ _ _ hs => hs) fun _ hs => hs) fun _ => ?_
      exact triple_bind (onCipher_triple key iv _) fun _ => triple_pure fun _ hs => hs

variable {provider charset key iv}

theorem body_outcome {object other : State} (hobject : MadeWith key iv object)
    (hother : MadeWith key iv other) (request : MessageCall) :
    (call (request.body provider charset) object).1 =
      (call (request.body provider charset) other).1 := by
  obtain ⟨rfl, rfl⟩ := hobject
  obtain ⟨hkey, hiv⟩ := hother
  cases request with
  | getEncryptedMessage message =>
      rw [MessageCall.body, getEncryptedMessage_outcome, getEncryptedMessage_outcome, hkey, hiv]
  | getDecryptedMessage message =>
      rw [MessageCall.body, getDecryptedMessage_outcome, getDecryptedMessage_outcome, hkey, hiv]

theorem outcomes_eq_map {object first : State} (hobject : MadeWith key iv object)
    (hfirst : MadeWith key iv first) (requests : List MessageCall) :
    outcomes provider charset object requests =
      requests.map fun request => (call (request.body provider charset) first).1 := by
  induction requests generalizing object with
  | nil => rfl
  | cons request requests ih =>
      rw [outcomes, List.map_cons, body_outcome hobject hfirst request,
        ih (triple_after (body_triple provider charset key iv request) hobject)]

end History

/-- Whatever was called on an object before, a call returns or throws what it would
on a new object with the same key and initial vector. -/
theorem outcomes_independent_of_history (provider : Provider) (charset : Charset)
    (key iv : Bytes) (object : State) (hnew : newWithIV key iv = .ok object)
    (requests : List MessageCall) :
    outcomes provider charset object requests =
      requests.map (outcomeOnNew provider charset key iv) := by
  have hobject : MadeWith key iv object := by
    rw [eq_of_newWithIV hnew]
    exact ⟨rfl, rfl⟩
  have hfresh : outcomeOnNew provider charset key iv =
      fun request => (call (request.body provider charset) object).1 := by
    funext request
    rw [outcomeOnNew, hnew, ok_bind]
  rw [hfresh]
  exact outcomes_eq_map hobject hobject requests

/-- The second call throws after it has initialised the cipher, and so does the
third, in the middle of its work. -/
theorem outcomes_independent_of_history_failures :
    let requests := [.getEncryptedMessage (utf16 "abc"),
      .getDecryptedMessage (utf16 "no base64"), .getDecryptedMessage (utf16 "AAAA"),
      .getEncryptedMessage [0xD800]]
    outcomes xorProvider utf8 ⟨Utf8.encode "0123456789abcdef", INITIAL_IV, none⟩ requests =
      requests.map
        (outcomeOnNew xorProvider utf8 (Utf8.encode "0123456789abcdef") INITIAL_IV) :=
  outcomes_independent_of_history xorProvider utf8 (Utf8.encode "0123456789abcdef") INITIAL_IV
    _ (newWithIV_eq_ok (by decide +kernel) INITIAL_IV) _

/-- Key, initial vector and plain bytes have lengths that can be encrypted. -/
def Encryptable (key iv plainText : Bytes) : Prop :=
  ValidKey key ∧ iv.length = 16 ∧ plainText.length % 16 = 0

/-- The methods on bytes encrypt and decrypt what can be encrypted, and do not hand
back what cannot. -/
def ReallyEncrypts (provider : Provider) (key iv plainText : Bytes) : Prop :=
  (Encryptable key iv plainText →
    encrypt provider plainText key iv =
        .ok (encryptBlocks (provider.aes key) (Block.ofList iv) plainText) ∧
      ∀ object, (do
        let cipherText ← encrypt provider plainText key iv
        decrypt provider object cipherText key iv) = .ok plainText) ∧
  (¬ Encryptable key iv plainText →
    encrypt provider plainText key iv ≠ .ok plainText ∧
      ∀ object, decrypt provider object plainText key iv ≠ .ok plainText)

/-- The methods do what they should exactly when there is nothing to do: for lengths
that can be encrypted and plain bytes, such as none at all, of which AES moves no
block. -/
theorem reallyEncrypts_iff_unmoved (provider : Provider) (key iv plainText : Bytes) :
    ReallyEncrypts provider key iv plainText ↔
      Encryptable key iv plainText ∧
        Unmoved Block.xor (provider.aes key) (Block.ofList iv)
          (toBlocks (plainText.length / 16) plainText) := by
  constructor
  · rintro ⟨hencrypts, hrefuses⟩
    have hencryptable : Encryptable key iv plainText := by
      by_contra hnot
      exact (hrefuses hnot).1 (encrypt_eq provider plainText key iv)
    have hsame := (hencrypts hencryptable).1
    rw [encrypt_eq] at hsame
    refine ⟨hencryptable, ?_⟩
    rw [← encryptBlocks_eq_self_iff _ _ hencryptable.2.2]
    exact (Except.ok.inj hsame).symm
  · rintro ⟨hencryptable, hunmoved⟩
    rw [← encryptBlocks_eq_self_iff _ _ hencryptable.2.2] at hunmoved
    refine ⟨fun _ => ⟨?_, fun object => ?_⟩, fun hnot => absurd hencryptable hnot⟩
    · rw [encrypt_eq, hunmoved]
    · rw [encrypt_eq, ok_bind, decrypt_eq]

theorem not_reallyEncrypts_zeroBlock :
    ¬ ReallyEncrypts xorProvider (Utf8.encode "0123456789abcdef") INITIAL_IV
      (List.replicate 16 0) := by
  rintro ⟨hencrypts, -⟩
  have hciphertext := (hencrypts ⟨by decide +kernel, rfl, rfl⟩).1
  exact absurd hciphertext (by decide +kernel)

end RestaurantServer.AESCipherCalls
