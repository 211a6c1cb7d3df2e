import RestaurantServer.HexStrings
import RestaurantServer.SecretComparison
import RestaurantServer.TokenExpiry

/-!
What the secrets of a key agreement are used for. Each side takes a cipher key of
32 digits from its secret, a text sent under it holds the key of the session, and
messages and tokens go under the key of the session. The placeholder of a failed
agreement is too short for a key.
-/

namespace RestaurantServer.SessionKeys

open RestaurantServer.JavaExceptions
open RestaurantServer.JavaStrings
open RestaurantServer.JavaLongs
open RestaurantServer.ThrowingMethods
open RestaurantServer.DiffieHellmanProvider
open RestaurantServer.DiffieHellmanProvider.KeyAgreement
open RestaurantServer.DHKeyAgreement2
open RestaurantServer.KeyAgreementRuns
open RestaurantServer.SecretComparison
open RestaurantServer.HexStrings
open RestaurantServer.Charsets
open RestaurantServer.JceCipher
open RestaurantServer.JsonTokens
open RestaurantServer.AuthHelper
open RestaurantServer.CryptoHelper
open RestaurantServer.TokenPipeline
open RestaurantServer.TokenExpiry

structure Conversation where
  secretkey : String
  message : String
  jwt : String
  ti : TokenInfo
  deriving DecidableEq

section Conversations

variable (provider : Provider) (library : Library) (charset : Charset)

/-- The key is computed anew in each round. -/
def encryptTimes (count : Nat) (key : Except Throwable String) (message : String) :
    Except Throwable String :=
  (List.replicate count key).foldlM
    (fun text key => do encryptMessage provider (← key) text) message

def decryptTimes (count : Nat) (key : Except Throwable String) (message : String) :
    Except Throwable String :=
  (List.replicate count key).foldlM
    (fun text key => do decryptMessage provider charset (← key) text) message

/-- The conversation of `DHTest`, once both sides have a secret. Alice sends a text
that holds the key of the session, and what follows goes under that key. -/
def converse (alicesecretkey bobsecretkey : Bytes) (uuid message : String)
    (request : TokenRequest) (issued checked : Int64) : Except Throwable Conversation := do
  let _ ← substringTo uuid 0 32
  let encryptedMessage ← encryptTimes provider 10 (keyText alicesecretkey) uuid
  let decryptedMessage ← decryptTimes provider charset 10 (keyText bobsecretkey)
    encryptedMessage
  let secretkey ← substringTo decryptedMessage 0 32
  let encryptedMessage ← encryptTimes provider 10 (substringTo secretkey 0 32) message
  let decryptedMessage ← decryptTimes provider charset 10 (substringTo secretkey 0 32)
    encryptedMessage
  let key ← substringTo secretkey 0 32
  let messageToEncryptJWT ← request.create library charset key issued
  let encryptedMessageJWT ← encryptMessage provider key messageToEncryptJWT
  let decryptedMessageJWT ← decryptMessage provider charset key encryptedMessageJWT
  let ti ← verifyToken library charset key decryptedMessageJWT checked
  pure ⟨secretkey, decryptedMessage, decryptedMessageJWT, ti⟩

end Conversations

section KeyTexts

theorem substringTo_eq_ok {text : String} (hlength : 32 ≤ text.toList.length) :
    substringTo text 0 32 = .ok (String.ofList (text.toList.take 32)) := by
  rw [substringTo, if_neg (by decide), if_neg (by omega), if_neg (by decide)]
  rfl

/-- A text of 32 ASCII characters is a key, and is cut to itself. -/
structure IsKeyText (key : String) : Prop where
  ascii : IsAscii key
  length : key.toList.length = 32

theorem IsKeyText.validKey {key : String} (hkey : IsKeyText key) :
    ValidKey (Utf8.encode key) := by
  refine .inr (.inr ?_)
  rw [(Utf8.length_encode_eq_iff key).mpr hkey.ascii, hkey.length]

theorem IsKeyText.substringTo_eq {key : String} (hkey : IsKeyText key) :
    substringTo key 0 32 = .ok key := by
  rw [substringTo_eq_ok hkey.length.ge, List.take_of_length_le hkey.length.le,
    String.ofList_toList]

theorem isKeyText_take {text : String} (hascii : IsAscii text)
    (hlength : 32 ≤ text.toList.length) :
    IsKeyText (String.ofList (text.toList.take 32)) where
  ascii c hc := by
    rw [String.toList_ofList] at hc
    exact hascii c (List.mem_of_mem_take hc)
  length := by
    rw [String.toList_ofList, List.length_take]
    omega

theorem ascii_of_isLowerHexDigit {c : Char} (hc : IsLowerHexDigit c) : c.toNat < 0x80 := by
  rcases hc with ⟨-, hle⟩ | ⟨-, hle⟩
  · exact lt_of_le_of_lt (UInt32.le_iff_toNat_le.mp hle) (by decide)
  · exact lt_of_le_of_lt (UInt32.le_iff_toNat_le.mp hle) (by decide)

theorem keyText_isKeyText {secret : Bytes} (hlength : 16 ≤ secret.length)
    (hsize : secret.length ≤ 2 ^ 30) :
    ∃ key, keyText secret = .ok key ∧ IsKeyText key := by
  refine ⟨_, keyText_eq (leadingZeros_nibbles_lt hsize) hlength, ?_, ?_⟩
  · intro c hc
    exact ascii_of_isLowerHexDigit (isLowerHexDigit_of_mem hc)
  · rw [length_toList_lowerHex, List.length_take]
    omega

end KeyTexts

section Rounds

variable (provider : Provider) {key : String}

theorem encryptTimes_succ (count : Nat) (message : String) :
    encryptTimes provider (count + 1) (.ok key) message =
      encryptMessage provider key message >>= encryptTimes provider count (.ok key) := by
  rw [encryptTimes, List.replicate_succ, List.foldlM_cons, ok_bind]
  rfl

theorem decryptTimes_succ (charset : Charset) (count : Nat) (message : String) :
    decryptTimes provider charset (count + 1) (.ok key) message =
      decryptTimes provider charset count (.ok key) message >>=
        decryptMessage provider charset key := by
  rw [decryptTimes, List.replicate_succ', List.foldlM_append]
  refine congrArg (_ >>= ·) (funext fun decrypted => ?_)
  rw [List.foldlM_cons, ok_bind]
  exact bind_pure _

theorem encryptMessage_undone (hkey : ValidKey (Utf8.encode key)) (message : String) :
    ∃ encrypted, encryptMessage provider key message = .ok encrypted ∧
      decryptMessage provider utf8 key encrypted = .ok message := by
  have hundone := decryptMessage_encryptMessage provider utf8 hkey message
  have hencrypt := encryptMessage_eq_ok provider hkey message
  have hread : utf8.newString (Utf8.encode message) = message := Utf8.decode_encode message
  rw [hencrypt, ok_bind, hread] at hundone
  exact ⟨_, hencrypt, hundone⟩

theorem encryptTimes_undone (hkey : ValidKey (Utf8.encode key)) (count : Nat)
    (message : String) :
    ∃ encrypted, encryptTimes provider count (.ok key) message = .ok encrypted ∧
      decryptTimes provider utf8 count (.ok key) encrypted = .ok message := by
  induction count generalizing message with
  | zero => exact ⟨message, rfl, rfl⟩
  | succ count ih =>
      obtain ⟨first, hencrypt, hdecrypt⟩ := encryptMessage_undone provider hkey message
      obtain ⟨encrypted, hencrypts, hdecrypts⟩ := ih first
      refine ⟨encrypted, ?_, ?_⟩
      · rw [encryptTimes_succ, hencrypt, ok_bind, hencrypts]
      · rw [decryptTimes_succ, hdecrypts, ok_bind, hdecrypt]

end Rounds

section Sessions

variable (provider : Provider) (library : Library) {uuid : String} {request : TokenRequest}
  {issued d : Int64}

theorem create_eq_signedToken {key : String} (hkey : IsKeyText key)
    (hduration : parseLong (some request.duration) = .ok d)
    (hwindow : InWindow library.skew (wholeSeconds issued)
      (wholeSeconds (issued + 1000 * 60 * 60 * 24 * d)) request.verified) :
    request.create library utf8 key issued = .ok (signedToken library issued request.userId
      request.iss request.sub request.aud request.jti request.firstName request.lastName
      request.admin (Utf8.encode key) d) ∧
    hmacKey utf8 key = .ok (Utf8.encode key) := by
  have hne : utf8.getBytes key ≠ [] := by
    intro hempty
    have hlength := (Utf8.length_encode_eq_iff key).mpr hkey.ascii
    rw [hkey.length, show Utf8.encode key = [] from hempty] at hlength
    cases hlength
  have hsigning : hmacKey utf8 key = .ok (Utf8.encode key) := if_neg hne
  exact ⟨createJWT_eq_signedToken library utf8 issued request.verified request.userId
    request.duration request.iss request.sub request.aud request.jti request.firstName
    request.lastName request.admin hsigning hduration hwindow, hsigning⟩

/-- Two sides that take one key text from their secrets understand each other. -/
theorem converse_eq_ok {alicesecretkey bobsecretkey : Bytes} {cipherKey : String}
    (halice : keyText alicesecretkey = .ok cipherKey)
    (hbob : keyText bobsecretkey = .ok cipherKey) (hcipherKey : IsKeyText cipherKey)
    (huuid : IsAscii uuid) (hlength : 32 ≤ uuid.toList.length)
    (hduration : parseLong (some request.duration) = .ok d)
    (hwindow : InWindow library.skew (wholeSeconds issued)
      (wholeSeconds (issued + 1000 * 60 * 60 * 24 * d)) request.verified) (message : String)
    {checked : Int64} (hchecked : InWindow library.skew (wholeSeconds issued)
      (wholeSeconds (issued + 1000 * 60 * 60 * 24 * d)) checked) :
    ∃ jwt, request.create library utf8 (String.ofList (uuid.toList.take 32)) issued = .ok jwt ∧
      converse provider library utf8 alicesecretkey bobsecretkey uuid message request issued
          checked =
        .ok ⟨String.ofList (uuid.toList.take 32), message, jwt,
          issuedInfo issued request.userId d request.iss request.sub request.jti request.aud
            request.firstName request.lastName request.admin⟩ := by
  have hkey := isKeyText_take huuid hlength
  obtain ⟨first, hfirst, hfirst'⟩ := encryptTimes_undone provider hcipherKey.validKey 10 uuid
  obtain ⟨second, hsecond, hsecond'⟩ := encryptTimes_undone provider hkey.validKey 10 message
  obtain ⟨hcreate, hsigning⟩ := create_eq_signedToken library hkey hduration hwindow
  obtain ⟨third, hthird, hthird'⟩ := encryptMessage_undone provider hkey.validKey
    (signedToken library issued request.userId request.iss request.sub request.aud request.jti
      request.firstName request.lastName request.admin
      (Utf8.encode (String.ofList (uuid.toList.take 32))) d)
  have hverify := verifyToken_serializeAndSign library issued request.userId d request.iss
    request.sub request.jti request.aud request.firstName request.lastName request.admin
    (Utf8.encode (String.ofList (uuid.toList.take 32))) hsigning checked
  rw [if_pos ⟨rfl, hchecked⟩] at hverify
  rcases hinfo : verifyToken library utf8 _ _ checked with e | info
  · rw [hinfo] at hverify
    cases hverify
  · rw [hinfo] at hverify
    obtain rfl := Option.some.inj hverify
    refine ⟨_, hcreate, ?_⟩
    simp only [converse, halice, hbob, substringTo_eq_ok hlength, hkey.substringTo_eq, ok_bind,
      hfirst, hfirst', hsecond, hsecond', hcreate, hthird, hthird']
    rw [signedToken, hinfo]
    rfl

end Sessions

section Agreements

variable {keys : KeyFactory}

theorem length_of_completes {agreement : KeyAgreement} {encoded : Option Bytes}
    {secret : Bytes} (hcompletes : Completes keys (some agreement) encoded secret) :
    secret.length = byteLength agreement.params.p := by
  obtain ⟨initial, key, phased, final, hinitial, -, hphase, hsecret⟩ := hcompletes
  obtain rfl := Option.some.inj hinitial
  by_cases hkey : key.params = agreement.params ∧ key.InRange
  · rw [call_doPhase_accepted hkey.1 hkey.2] at hphase
    obtain ⟨-, rfl⟩ := Prod.mk.inj hphase
    obtain ⟨hsecret, -⟩ := Prod.mk.inj hsecret
    rw [← Except.ok.inj hsecret, bigEndian_length]
  · rw [call_doPhase_rejected hkey] at hphase
    cases hphase

theorem keyText_placeholder :
    keyText placeholder = .error (stringIndexOutOfBoundsException 32) := by
  decide +kernel

/-- A modulus that makes secrets long enough to take a key from. -/
def KeySized (params : DHParameterSpec) : Prop :=
  16 ≤ byteLength params.p ∧ byteLength params.p ≤ 2 ^ 30

instance decidableKeySized (params : DHParameterSpec) : Decidable (KeySized params) :=
  inferInstanceAs (Decidable (_ ∧ _))

theorem isKeyText_of_completes {agreement : Option KeyAgreement} {encoded : Option Bytes}
    {secret : Bytes}
    (hsized : ∀ initial, agreement = some initial → KeySized initial.params)
    (hcompletes : Completes keys agreement encoded secret) :
    ∃ key, keyText secret = .ok key ∧ IsKeyText key := by
  obtain ⟨initial, key, _, _, rfl, -⟩ := id hcompletes
  have hlength := length_of_completes hcompletes
  obtain ⟨hmin, hmax⟩ := hsized initial rfl
  exact keyText_isKeyText (by omega) (by omega)

end Agreements

section CipherKeys

variable (keys : KeyFactory)

def aliceCipherKey (bobPubKeyEnc : Option Bytes) : Method Throwable State String := do
  let secret ← generateAliceSecretKey keys bobPubKeyEnc
  liftExcept (keyText secret)

def bobCipherKey (alicePubKeyEnc : Option Bytes) : Method Throwable State String := do
  let secret ← generateBobSecretKey keys alicePubKeyEnc
  liftExcept (keyText secret)

/-- Only a secret of a completed agreement becomes a key, and each one does. -/
structure OnlyFromSecrets (agreement : Option KeyAgreement) (encoded : Option Bytes)
    (outcome : Except Throwable String) : Prop where
  genuine (key : String) : outcome = .ok key →
    IsKeyText key ∧ ∃ secret, Completes keys agreement encoded secret ∧
      keyText secret = .ok key
  derived : Acceptable keys agreement encoded → ∃ key, outcome = .ok key

variable {keys}

theorem call_cipherKey_fst {m : Method Throwable State Bytes} {object : State} {secret : Bytes}
    (hsecret : (call m object).1 = .ok secret) :
    (call (m >>= fun secret => liftExcept (keyText secret)) object).1 = keyText secret := by
  rcases hcall : call m object with ⟨outcome, object'⟩
  rw [hcall] at hsecret
  obtain rfl : outcome = .ok secret := hsecret
  rw [call_bind_of_ok hcall, call_liftExcept]

theorem onlyFromSecrets_of_completes {agreement : Option KeyAgreement}
    {encoded : Option Bytes} {secret : Bytes}
    (hsized : ∀ initial, agreement = some initial → KeySized initial.params)
    (hcompletes : Completes keys agreement encoded secret) :
    OnlyFromSecrets keys agreement encoded (keyText secret) := by
  obtain ⟨key, hkey, htext⟩ := isKeyText_of_completes hsized hcompletes
  refine ⟨fun other hother => ?_, fun _ => ⟨key, hkey⟩⟩
  obtain rfl : key = other := Except.ok.inj (hkey.symm.trans hother)
  exact ⟨htext, secret, hcompletes, hkey⟩

theorem onlyFromSecrets_of_error {agreement : Option KeyAgreement} {encoded : Option Bytes}
    (hnot : ¬ Acceptable keys agreement encoded) (e : Throwable) :
    OnlyFromSecrets keys agreement encoded (.error e) where
  genuine key hkey := by cases hkey
  derived hacceptable := absurd hacceptable hnot

theorem aliceCipherKey_onlyFromSecrets {object : State} (hobject : Generated object)
    (hsized : ∀ initial, object.aliceKeyAgree = some initial → KeySized initial.params)
    (encoded : Option Bytes) :
    OnlyFromSecrets keys object.aliceKeyAgree encoded
      (call (aliceCipherKey keys encoded) object).1 := by
  by_cases hacceptable : Acceptable keys object.aliceKeyAgree encoded
  · obtain ⟨secret, hsecret, -, hcompletes⟩ := aliceSecret_of_acceptable hobject hacceptable
    rw [aliceCipherKey, call_cipherKey_fst hsecret]
    exact onlyFromSecrets_of_completes hsized hcompletes
  · have hplaceholder := aliceSecret_of_not_acceptable hobject hacceptable
    rw [aliceCipherKey, call_cipherKey_fst hplaceholder, keyText_placeholder]
    exact onlyFromSecrets_of_error hacceptable _

theorem bobCipherKey_onlyFromSecrets {object : State} (hobject : Generated object)
    (hsized : ∀ initial, object.bobKeyAgree = some initial → KeySized initial.params)
    (encoded : Option Bytes) :
    OnlyFromSecrets keys object.bobKeyAgree encoded
      (call (bobCipherKey keys encoded) object).1 := by
  by_cases hacceptable : Acceptable keys object.bobKeyAgree encoded
  · obtain ⟨secret, hsecret, -, hcompletes⟩ := bobSecret_of_acceptable hobject hacceptable
    rw [bobCipherKey, call_cipherKey_fst hsecret]
    exact onlyFromSecrets_of_completes hsized hcompletes
  · cases hdecode : decodePublicKey keys encoded with
    | error e =>
        have hcall : call (generateBobSecretKey keys encoded) object = _ :=
          call_generateBobSecretKey hobject.idle encoded
        rw [hdecode] at hcall
        rw [bobCipherKey, call_bind_of_error hcall]
        exact onlyFromSecrets_of_error hacceptable e
    | ok key =>
        have hplaceholder := bobSecret_of_not_acceptable hobject hdecode hacceptable
        rw [bobCipherKey, call_cipherKey_fst hplaceholder, keyText_placeholder]
        exact onlyFromSecrets_of_error hacceptable _

end CipherKeys

section Runs

variable {ι : Type} [DecidableEq ι]

/-- After any calls on any objects, whatever key material a side is given, it gets a
cipher key exactly from the secret of an agreement that it completed. -/
theorem cipher_keys_only_from_secrets (keys : KeyFactory) (requests : List (ι × Call)) (i : ι)
    (encoded : Option Bytes)
    (hsized : ∀ initial,
      ((requests.foldl (perform keys) World.start).objects i).aliceKeyAgree = some initial ∨
        ((requests.foldl (perform keys) World.start).objects i).bobKeyAgree = some initial →
      KeySized initial.params) :
    OnlyFromSecrets keys ((requests.foldl (perform keys) World.start).objects i).aliceKeyAgree
        encoded (call (aliceCipherKey keys encoded)
          ((requests.foldl (perform keys) World.start).objects i)).1 ∧
      OnlyFromSecrets keys ((requests.foldl (perform keys) World.start).objects i).bobKeyAgree
        encoded (call (bobCipherKey keys encoded)
          ((requests.foldl (perform keys) World.start).objects i)).1 := by
  have hobject := run_generated keys requests i
  constructor
  · refine aliceCipherKey_onlyFromSecrets hobject ?_ encoded
    exact fun initial hfield => hsized initial (.inl hfield)
  · refine bobCipherKey_onlyFromSecrets hobject ?_ encoded
    exact fun initial hfield => hsized initial (.inr hfield)

theorem keySized_group512 : KeySized group512 := by
  decide +kernel

/-- Alice has a key pair and is given a key of the same group, then garbage. -/
theorem cipher_keys_only_from_secrets_exchange512 :
    (∃ key, (call (aliceCipherKey base128Keys
        (some (base128Keys.getEncoded (group512.publicKey 201))))
        ((exchange512.foldl (perform base128Keys) World.start).objects true)).1 = .ok key) ∧
      ∀ key, (call (aliceCipherKey base128Keys (some [1, 2, 3]))
        ((exchange512.foldl (perform base128Keys) World.start).objects true)).1 ≠ .ok key := by
  have hfields : ((exchange512.foldl (perform base128Keys) World.start).objects true) =
      ⟨some group512, some ⟨group512, 117, none⟩, none⟩ := by
    decide +kernel
  have hsized : ∀ initial,
      ((exchange512.foldl (perform base128Keys) World.start).objects true).aliceKeyAgree =
          some initial ∨
        ((exchange512.foldl (perform base128Keys) World.start).objects true).bobKeyAgree =
          some initial → KeySized initial.params := by
    rw [hfields]
    rintro initial (hfield | hfield)
    · obtain rfl := Option.some.inj hfield
      exact keySized_group512
    · cases hfield
  constructor
  · refine (cipher_keys_only_from_secrets base128Keys exchange512 true
      (some (base128Keys.getEncoded (group512.publicKey 201))) hsized).1.derived ?_
    refine ⟨⟨group512, 117, none⟩, group512.publicKey 201, ?_, ?_, rfl, by decide +kernel⟩
    · rw [hfields]
    · exact decodePublicKey_getEncoded _ _
  · intro key hkey
    obtain ⟨-, secret, hcompletes, -⟩ := (cipher_keys_only_from_secrets base128Keys exchange512
      true (some [1, 2, 3]) hsized).1.genuine key hkey
    obtain ⟨_, decoded, -, hdecode, -⟩ := hcompletes.acceptable
    have hgarbage : decodePublicKey base128Keys (some [1, 2, 3]) =
        .error invalidKeySpecException := by
      decide +kernel
    rw [hgarbage] at hdecode
    cases hdecode

/-- Whatever calls came before: if Bob's latest key was generated for Alice's latest
key, the secrets that they generate let Bob read what Alice sends, the key of the
session is the one she chose, and a token made under it verifies as what it was made
from. -/
theorem parties_of_one_exchange_converse (provider : Provider) (library : Library)
    (keys : KeyFactory) (requests : List (ι × Call)) (a b : ι) (aliceKey bobKey : Bytes)
    (halice : latestAliceKey a
      (requests.foldl (perform keys) World.start).history = some aliceKey)
    (hbob : latestBobKey b
      (requests.foldl (perform keys) World.start).history = some (some aliceKey, bobKey))
    (hsized : ∀ key, keys.generatePublic aliceKey = some key → KeySized key.params)
    (uuid message : String) (huuid : IsAscii uuid) (hlength : 32 ≤ uuid.toList.length)
    (request : TokenRequest) (issued checked d : Int64)
    (hduration : parseLong (some request.duration) = .ok d)
    (hwindow : ∀ time ∈ [request.verified, checked], InWindow library.skew
      (wholeSeconds issued) (wholeSeconds (issued + 1000 * 60 * 60 * 24 * d)) time) :
    ∃ alicesecretkey bobsecretkey jwt,
      (call (generateAliceSecretKey keys (some bobKey))
        ((requests.foldl (perform keys) World.start).objects a)).1 = .ok alicesecretkey ∧
      (call (generateBobSecretKey keys (some aliceKey))
        ((requests.foldl (perform keys) World.start).objects b)).1 = .ok bobsecretkey ∧
      compareSecrets alicesecretkey bobsecretkey = .ok () ∧
      request.create library utf8 (String.ofList (uuid.toList.take 32)) issued = .ok jwt ∧
      converse provider library utf8 alicesecretkey bobsecretkey uuid message request issued
          checked =
        .ok ⟨String.ofList (uuid.toList.take 32), message, jwt,
          issuedInfo issued request.userId d request.iss request.sub request.jti request.aud
            request.firstName request.lastName request.admin⟩ := by
  obtain ⟨params, alice, bob, rfl, rfl, hexchange⟩ :=
    exchange_of_latestKeys (run_tracked keys requests a) (run_tracked keys requests b) halice
      hbob
  let secret := sharedSecret bob.getPublic alice.x
  have hsecretLength : secret.length = byteLength params.p := bigEndian_length _ _
  obtain ⟨hmin, hmax⟩ := hsized _ (keys.generatePublic_getEncoded alice.getPublic)
  obtain ⟨key, hkey, htext⟩ : ∃ key, keyText secret = .ok key ∧ IsKeyText key :=
    keyText_isKeyText (hsecretLength ▸ hmin) (hsecretLength ▸ hmax)
  obtain ⟨jwt, hcreate, hconverse⟩ := converse_eq_ok provider library hkey hkey htext huuid
    hlength hduration (hwindow _ (by simp)) message (hwindow checked (by simp))
  refine ⟨secret, secret, jwt, ?_, ?_, compareSecrets_eq_ok.mpr rfl, hcreate, hconverse⟩
  · rw [call_generateAliceSecretKey hexchange.aliceIdle, decodePublicKey_getEncoded]
    simp only [hexchange.aliceKeyAgree, agreedSecret_init alice bob.getPublic_params,
      bob.getPublic_inRange, if_true, Option.getD_some]
    rfl
  · rw [call_generateBobSecretKey hexchange.bobIdle, decodePublicKey_getEncoded]
    simp only [hexchange.bobKeyAgree, agreedSecret_init bob alice.getPublic_params,
      alice.getPublic_inRange, if_true, Option.getD_some, sharedSecret_comm alice bob]
    rfl

def facebookLogin : TokenRequest where
  userId := "bob@gmail.com"
  duration := "1"
  iss := "facebook"
  sub := "empty"
  aud := "Android"
  jti := "ABC123"
  firstName := "Bob"
  lastName := "Smith"
  admin := "false"
  verified := 1444608000456

theorem parties_of_one_exchange_converse_exchange512 :
    ∃ alicesecretkey bobsecretkey jwt,
      compareSecrets alicesecretkey bobsecretkey = .ok () ∧
      converse xorProvider segmentLibrary utf8 alicesecretkey bobsecretkey
          "c9a646d3-9c61-4cb7-bfcd-ee2522c8f633" "this is the secret message 😀" facebookLogin
          1444608000123 1444650000000 =
        .ok ⟨"c9a646d3-9c61-4cb7-bfcd-ee2522c8", "this is the secret message 😀", jwt,
          issuedInfo 1444608000123 "bob@gmail.com" 1 "facebook" "empty" "ABC123" "Android"
            "Bob" "Smith" "false"⟩ := by
  obtain ⟨alicesecretkey, bobsecretkey, jwt, -, -, hequal, -, hconverse⟩ :=
    parties_of_one_exchange_converse xorProvider segmentLibrary base128Keys exchange512 true
      false (base128Keys.getEncoded (group512.publicKey 117))
      (base128Keys.getEncoded (group512.publicKey 201)) (by decide +kernel)
      (by decide +kernel) (by
        intro key hkey
        rw [base128Keys.generatePublic_getEncoded] at hkey
        obtain rfl := Option.some.inj hkey
        exact keySized_group512)
      "c9a646d3-9c61-4cb7-bfcd-ee2522c8f633" "this is the secret message 😀"
      (by decide +kernel) (by decide +kernel) facebookLogin 1444608000123 1444650000000 1
      (by decide +kernel) (by
        refine List.forall_mem_cons.mpr ⟨by decide, List.forall_mem_singleton.mpr ?_⟩
        decide)
  exact ⟨alicesecretkey, bobsecretkey, jwt, hequal, hconverse⟩

end Runs

end RestaurantServer.SessionKeys
