import RestaurantServer.KeystoreUtil

/-!
The command line of `MainApp`: encryption and decryption of a message with the key of
a keystore that the system properties name. What is printed before an exception stays
printed.
-/

namespace RestaurantServer.MainApp

open RestaurantServer.JavaExceptions
open RestaurantServer.JavaStrings
open RestaurantServer.ThrowingMethods
open RestaurantServer.Charsets
open RestaurantServer.JceCipher
open RestaurantServer.AESCipher
open RestaurantServer.RelyGuarantee
open RestaurantServer.KeystoreUtil

/-- The texts printed with `println`, first to last. -/
abbrev Console := List String

def println (text : String) : Method Throwable Console Unit :=
  modify fun printed => printed ++ [text]

def encryptedHeader : String :=
  "\n\nEncrypted Message\n======================================="

def decryptedHeader : String :=
  "\n\nDecrypted Message\n======================================="

section Commands

variable (provider : Provider) (charset : Charset)

/-- The other encodings of the key are only logged. -/
def showKey (cipher : State) : String :=
  getKey cipher

def encrypt (cipher : State) (message : String) : Method Throwable Console Unit := do
  println encryptedHeader
  let text ← liftExcept (call (getEncryptedMessage provider message) cipher).1
  println text
  println "\n\n"

def decrypt (cipher : State) (message : String) : Method Throwable Console Unit := do
  println decryptedHeader
  let text ← liftExcept (call (getDecryptedMessage provider charset (utf16 message)) cipher).1
  println text
  println "\n\n"

/-- The commands. The bytes of the initial vector are those of the default charset, and
an unknown command does nothing. -/
def perform (keyFromKeyStore : Bytes) : List String → Method Throwable Console Unit
  | "showKey" :: _ => do
      let cipher ← liftExcept (AESCipher.new keyFromKeyStore)
      let _ := showKey cipher
      pure ()
  | ["encrypt", message, iv] => do
      let cipher ← liftExcept (newWithIV keyFromKeyStore (charset.getBytes iv))
      encrypt provider cipher message
  | "encrypt" :: _ =>
      throw (illegalArgumentException
        "Command encryption takes 2 arguments: Message to encrypt and IV in String format")
  | ["decrypt", message, iv] => do
      let cipher ← liftExcept (newWithIV keyFromKeyStore (charset.getBytes iv))
      decrypt provider charset cipher message
  | "decrypt" :: _ =>
      throw (illegalArgumentException
        "Command decryption takes 2 arguments: Message to encrypt and IV in String format")
  | _ => pure ()

/-- Returns how the program ends, and what it has printed by then. -/
def main (keystores : Keystores) (args : List String) :
    Thread Properties (Except Throwable Unit × Console) :=
  if args.length > 0 then do
    let keystore ← keyFromProperties keystores
    pure (call (do
      let keyFromKeyStore ← liftExcept keystore
      perform provider charset keyFromKeyStore args) [])
  else
    pure (.error (illegalArgumentException "Usage: java -jar <pathToJar.jar> command"), [])

end Commands

section Outcome

variable (provider : Provider) (charset : Charset) (keystores : Keystores)
  (properties : Properties)

/-- How a run of the program ends. -/
def ended (args : List String) : Except Throwable Unit × Console :=
  ((main provider charset keystores args).alone properties).1

/-- What the commands on a message print, by the outcome of the cipher. -/
def shown (header : String) : Except Throwable String → Except Throwable Unit × Console
  | .ok text => (.ok (), [header, text, "\n\n"])
  | .error e => (.error e, [header])

/-- The properties name a key that the keystore has. -/
def Names (key : Bytes) : Prop :=
  ∃ location pass keyAlias keyPass,
    properties "keystore" = some location ∧ location ≠ "" ∧
    properties "storepass" = some pass ∧ pass ≠ "" ∧
    properties "alias" = some keyAlias ∧ keyAlias ≠ "" ∧
    properties "keypass" = some keyPass ∧ keyPass ≠ "" ∧
    getKeyFromKeyStore keystores location pass keyAlias keyPass = .ok key

theorem ended_cons (command : String) (args : List String) :
    ended provider charset keystores properties (command :: args) =
      call (do
        let key ← liftExcept (checkedKey keystores (properties "keystore")
          (properties "storepass") (properties "alias") (properties "keypass"))
        perform provider charset key (command :: args)) [] := rfl

variable {provider charset keystores properties} {key : Bytes} {message iv : String}

theorem ended_of_names {command : String} {args : List String}
    (hkey : Names keystores properties key) :
    ended provider charset keystores properties (command :: args) =
      call (perform provider charset key (command :: args)) [] := by
  have hchecked : checkedKey keystores (properties "keystore") (properties "storepass")
      (properties "alias") (properties "keypass") = .ok key := checkedKey_eq_ok_iff.mpr hkey
  rw [ended_cons, hchecked]
  rfl

theorem newWithIV_of_ne (hkey : key ≠ []) (iv : Bytes) :
    newWithIV key iv = .ok ⟨key, iv, none⟩ := by
  rw [newWithIV, if_neg hkey]

theorem call_perform_encrypt (hkey : key ≠ []) :
    call (perform provider charset key ["encrypt", message, iv]) [] =
      shown encryptedHeader (encryptedMessage provider key (charset.getBytes iv) message) := by
  have houtcome := getEncryptedMessage_outcome provider message ⟨key, charset.getBytes iv, none⟩
  simp only [perform, newWithIV_of_ne hkey, encrypt, call_bind, call_liftExcept, println,
    call_modify, houtcome]
  cases encryptedMessage provider key (charset.getBytes iv) message <;> rfl

theorem call_perform_decrypt (hkey : key ≠ []) :
    call (perform provider charset key ["decrypt", message, iv]) [] =
      shown decryptedHeader
        (decryptedMessage provider charset key (charset.getBytes iv) (utf16 message)) := by
  have houtcome := getDecryptedMessage_outcome provider charset (utf16 message)
    ⟨key, charset.getBytes iv, none⟩
  simp only [perform, newWithIV_of_ne hkey, decrypt, call_bind, call_liftExcept, println,
    call_modify, houtcome]
  cases decryptedMessage provider charset key (charset.getBytes iv) (utf16 message) <;> rfl

theorem valid_of_encryptedMessage {iv : Bytes} {text : String}
    (htext : encryptedMessage provider key iv message = .ok text) :
    ValidKey key ∧ iv.length = 16 := by
  obtain ⟨result, hinit, -⟩ := bind_eq_ok.mp htext
  unfold initialised at hinit
  split_ifs at hinit with hiv hkey
  exact ⟨hkey, not_not.mp hiv⟩

theorem ne_nil_of_validKey (hkey : ValidKey key) : key ≠ [] := by
  rintro rfl
  exact absurd hkey (by decide)

/-- The encryption of a message ends without a cipher, or as the cipher does. -/
theorem ended_encrypt_cases (provider : Provider) (charset : Charset) (keystores : Keystores)
    (properties : Properties) (message iv : String) :
    (∃ e, ended provider charset keystores properties ["encrypt", message, iv] =
        (.error e, [])) ∨
      ∃ key, Names keystores properties key ∧
        ended provider charset keystores properties ["encrypt", message, iv] =
          shown encryptedHeader
            (encryptedMessage provider key (charset.getBytes iv) message) := by
  rcases hchecked : checkedKey keystores (properties "keystore") (properties "storepass")
      (properties "alias") (properties "keypass") with e | key
  · refine .inl ⟨e, ?_⟩
    rw [ended_cons, hchecked]
    rfl
  · have hkey : Names keystores properties key := checkedKey_eq_ok_iff.mp hchecked
    rcases eq_or_ne key [] with rfl | hne
    · exact .inl ⟨_, ended_of_names hkey⟩
    · exact .inr ⟨key, hkey, (ended_of_names hkey).trans (call_perform_encrypt hne)⟩

theorem exists_key_of_encrypted {text : String}
    (hended : ended provider charset keystores properties ["encrypt", message, iv] =
      shown encryptedHeader (.ok text)) :
    ∃ key, Names keystores properties key ∧ ValidKey key ∧ (charset.getBytes iv).length = 16 ∧
      encryptedMessage provider key (charset.getBytes iv) message = .ok text := by
  rcases ended_encrypt_cases provider charset keystores properties message iv with
    ⟨e, herror⟩ | ⟨key, hkey, hshown⟩
  · cases herror.symm.trans hended
  · have hsame := hshown.symm.trans hended
    rcases htext : encryptedMessage provider key (charset.getBytes iv) message with e | text'
    · rw [htext] at hsame
      cases hsame
    · rw [htext] at hsame
      obtain ⟨hvalid, hiv⟩ := valid_of_encryptedMessage htext
      cases hsame
      exact ⟨key, hkey, hvalid, hiv, htext⟩

end Outcome

/-- The text of a message is printed exactly when the properties name a key for the
cipher and the initial vector has 16 bytes in the default charset. Decryption with the
same properties then prints the message, as the default charset reads it. In all other
cases the program throws, and has printed the header at most. -/
theorem main_decrypts_what_it_encrypts (provider : Provider) (charset : Charset)
    (keystores : Keystores) (properties : Properties) (message iv : String) :
    ((∃ text, ended provider charset keystores properties ["encrypt", message, iv] =
        (.ok (), [encryptedHeader, text, "\n\n"])) ↔
      ∃ key, Names keystores properties key ∧ ValidKey key ∧
        (charset.getBytes iv).length = 16) ∧
    (∀ text, ended provider charset keystores properties ["encrypt", message, iv] =
        (.ok (), [encryptedHeader, text, "\n\n"]) →
      ended provider charset keystores properties ["decrypt", text, iv] =
        (.ok (), [decryptedHeader, charset.newString (Utf8.encode message), "\n\n"])) ∧
    ((∃ text, ended provider charset keystores properties ["encrypt", message, iv] =
        (.ok (), [encryptedHeader, text, "\n\n"])) ∨
      ∃ e printed, printed <+: [encryptedHeader] ∧
        ended provider charset keystores properties ["encrypt", message, iv] =
          (.error e, printed)) := by
  refine ⟨⟨?_, ?_⟩, ?_, ?_⟩
  · rintro ⟨text, hended⟩
    obtain ⟨key, hkey, hvalid, hiv, -⟩ := exists_key_of_encrypted hended
    exact ⟨key, hkey, hvalid, hiv⟩
  · rintro ⟨key, hkey, hvalid, hiv⟩
    rw [ended_of_names hkey, call_perform_encrypt (ne_nil_of_validKey hvalid),
      encryptedMessage_eq_ok provider hvalid hiv]
    exact ⟨_, rfl⟩
  · intro text hended
    obtain ⟨key, hkey, hvalid, hiv, htext⟩ := exists_key_of_encrypted hended
    rw [encryptedMessage_eq_ok provider hvalid hiv, Except.ok.injEq] at htext
    rw [ended_of_names hkey, call_perform_decrypt (ne_nil_of_validKey hvalid), ← htext,
      decryptedMessage_encrypt provider charset hvalid hiv]
    rfl
  · rcases ended_encrypt_cases provider charset keystores properties message iv with
      ⟨e, herror⟩ | ⟨key, -, hshown⟩
    · exact .inr ⟨e, [], List.nil_prefix, herror⟩
    · rw [hshown]
      cases encryptedMessage provider key (charset.getBytes iv) message with
      | ok text => exact .inl ⟨text, rfl⟩
      | error e => exact .inr ⟨e, [encryptedHeader], List.prefix_rfl, rfl⟩

def keystoreProperties : Properties
  | "keystore" => some "src/test/resources/client-aes-keystore.jck"
  | "storepass" => some "mystorepass"
  | "alias" => some "jceksaes"
  | "keypass" => some "mykeypass"
  | _ => none

theorem main_decrypts_what_it_encrypts_oneKey :
    ∃ text, ended xorProvider utf8 oneKey keystoreProperties ["decrypt", text,
        "0000000000000000"] = (.ok (), [decryptedHeader, "déjà vu", "\n\n"]) := by
  obtain ⟨hencrypts, hdecrypts, -⟩ := main_decrypts_what_it_encrypts xorProvider utf8 oneKey
    keystoreProperties "déjà vu" "0000000000000000"
  obtain ⟨text, htext⟩ := hencrypts.mpr ⟨Utf8.encode "0123456789abcdef",
    ⟨_, _, _, _, rfl, by decide, rfl, by decide, rfl, by decide, rfl, by decide, rfl⟩,
    by decide +kernel, by decide +kernel⟩
  refine ⟨text, (hdecrypts text htext).trans ?_⟩
  rw [show utf8.newString (Utf8.encode "déjà vu") = "déjà vu" from Utf8.decode_encode _]

end RestaurantServer.MainApp
