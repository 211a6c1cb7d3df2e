import RestaurantServer.TokenPipeline

/-!
Messages and tokens that are made on one host and read on another, where the
hosts have different default charsets. `encryptMessage` writes a message in
UTF-8 and `decryptMessage` reads it in the default charset, and both ends of a
token take the bytes of the signing key in the default charset.
-/

namespace RestaurantServer.HostCharsets

open RestaurantServer.JavaStrings
open RestaurantServer.JavaLongs
open RestaurantServer.Charsets
open RestaurantServer.JceCipher
open RestaurantServer.JsonTokens
open RestaurantServer.AuthHelper
open RestaurantServer.CryptoHelper
open RestaurantServer.TokenPipeline

theorem message_returns_iff (provider : Provider) (charset : Charset) {key : String}
    (hkey : ValidKey (Utf8.encode key)) (message : String) :
    (do
      let encrypted ← encryptMessage provider key message
      decryptMessage provider charset key encrypted) = .ok message ↔
      charset.newString (Utf8.encode message) = message := by
  rw [decryptMessage_encryptMessage provider charset hkey message]
  simp

theorem message_returns_iff_isAscii (provider : Provider) {charset : Charset}
    (hsingle : charset.SingleByte) {key : String} (hkey : ValidKey (Utf8.encode key))
    (message : String) :
    (do
      let encrypted ← encryptMessage provider key message
      decryptMessage provider charset key encrypted) = .ok message ↔ IsAscii message := by
  rw [message_returns_iff provider charset hkey, hsingle.newString_encode_iff]

theorem hmacKey_eq_ok {charset : Charset} {key : String} {signingKey : Bytes}
    (hkey : hmacKey charset key = .ok signingKey) :
    signingKey = charset.getBytes key ∧ charset.getBytes key ≠ [] := by
  unfold hmacKey at hkey
  split at hkey
  · cases hkey
  · rename_i hne
    exact ⟨(Except.ok.inj hkey).symm, hne⟩

section Tokens

variable {library : Library} {charset₁ charset₂ : Charset} {key token : String}
  {issued verified d : Int64}
  {userId duration iss sub aud jti firstName lastName admin : String}

/-- A token verifies on the second host exactly when the signing key has the same
bytes there. -/
theorem token_verifies_iff
    (htoken : createJWT library charset₁ key issued verified (some userId) (some duration)
      (some iss) (some sub) (some aud) (some jti) (some firstName) (some lastName)
      (some admin) = .ok token)
    (hexpired : token ≠ "Expired") (hduration : parseLong (some duration) = .ok d) :
    (∀ now, InWindow library.skew (wholeSeconds issued)
        (wholeSeconds (issued + 1000 * 60 * 60 * 24 * d)) now →
      ∃ info, verifyToken library charset₂ key token now = .ok info) ↔
      charset₁.getBytes key = charset₂.getBytes key := by
  obtain ⟨d', signingKey, hd', hsigning, rfl, hverified⟩ :=
    createJWT_eq_ok _ _ _ _ _ _ _ _ _ _ _ _ _ htoken hexpired
  obtain rfl : d = d' := Except.ok.inj (hduration.symm.trans hd')
  obtain ⟨rfl, hne⟩ := hmacKey_eq_ok hsigning
  have hverify {charset : Charset} {signingKey : Bytes}
      (hkey : hmacKey charset key = .ok signingKey) :=
    verifyToken_serializeAndSign library issued userId d iss sub jti aud firstName lastName
      admin (charset₁.getBytes key) hkey
  have hwindow : InWindow library.skew (wholeSeconds issued)
      (wholeSeconds (issued + 1000 * 60 * 60 * 24 * d)) verified := by
    rw [hverify hsigning verified] at hverified
    by_contra houtside
    rw [if_neg fun hboth => houtside hboth.2] at hverified
    cases hverified
  constructor
  · intro hall
    obtain ⟨info, hinfo⟩ := hall verified hwindow
    rcases hsecond : hmacKey charset₂ key with e | signingKey₂
    · simp [verifyToken, hsecond] at hinfo
    obtain ⟨rfl, -⟩ := hmacKey_eq_ok hsecond
    have hresult := hverify hsecond verified
    rw [hinfo] at hresult
    by_contra hdiffer
    rw [if_neg fun hboth => hdiffer hboth.1.symm] at hresult
    cases hresult
  · intro hsame now hnow
    have hsecond : hmacKey charset₂ key = .ok (charset₁.getBytes key) := by
      rw [hmacKey, ← hsame, if_neg hne]
    have hresult := hverify hsecond now
    rw [if_pos ⟨rfl, hnow⟩] at hresult
    rcases hcall : verifyToken library charset₂ key _ now with e | info
    · rw [hcall] at hresult
      cases hresult
    · exact ⟨info, rfl⟩

end Tokens

/-- Messages and tokens pass from one host to the other exactly when the second
host reads the message's UTF-8 encoding and both hosts write the key alike. -/
theorem hosts_agree_iff (provider : Provider) (library : Library)
    (charset₁ charset₂ : Charset) (key message token : String) (issued verified d : Int64)
    (userId duration iss sub aud jti firstName lastName admin : String)
    (hkey : ValidKey (Utf8.encode key))
    (htoken : createJWT library charset₁ key issued verified (some userId) (some duration)
      (some iss) (some sub) (some aud) (some jti) (some firstName) (some lastName)
      (some admin) = .ok token)
    (hexpired : token ≠ "Expired") (hduration : parseLong (some duration) = .ok d) :
    ((do
        let encrypted ← encryptMessage provider key message
        decryptMessage provider charset₂ key encrypted) = .ok message ∧
      ∀ now, InWindow library.skew (wholeSeconds issued)
          (wholeSeconds (issued + 1000 * 60 * 60 * 24 * d)) now →
        ∃ info, verifyToken library charset₂ key token now = .ok info) ↔
      charset₂.newString (Utf8.encode message) = message ∧
        charset₁.getBytes key = charset₂.getBytes key := by
  rw [message_returns_iff provider charset₂ hkey,
    token_verifies_iff htoken hexpired hduration]

theorem hosts_agree_latin1_utf8 :
    ∃ token,
      createJWT segmentLibrary latin1 "0123456789abcdef" 1444608000123 1444608000456
        (some "42") (some "1") (some "facebook") (some "subject") (some "agent") (some "id")
        (some "José") (some "Doe") (some "false") = .ok token ∧
      (do
        let encrypted ← encryptMessage xorProvider "0123456789abcdef" "déjà vu"
        decryptMessage xorProvider utf8 "0123456789abcdef" encrypted) = .ok "déjà vu" ∧
      ∃ info, verifyToken segmentLibrary utf8 "0123456789abcdef" token 1444650000000 =
        .ok info := by
  have hduration : parseLong (some "1") = .ok 1 := by decide +kernel
  have hsigning : hmacKey latin1 "0123456789abcdef" =
      .ok (latin1.getBytes "0123456789abcdef") := by decide +kernel
  have htoken := createJWT_eq_signedToken segmentLibrary latin1 1444608000123 1444608000456
    "42" "1" "facebook" "subject" "agent" "id" "José" "Doe" "false" hsigning hduration
    (by decide)
  have hagree := (hosts_agree_iff xorProvider segmentLibrary latin1 utf8 "0123456789abcdef"
    "déjà vu" _ 1444608000123 1444608000456 1 "42" "1" "facebook" "subject" "agent" "id"
    "José" "Doe" "false" (by decide +kernel) htoken
    (signedToken_ne_expired _ _ _ _ _ _ _ _ _ _ _) hduration).mpr
    ⟨Utf8.decode_encode _, by decide +kernel⟩
  exact ⟨_, htoken, hagree.1, hagree.2 1444650000000 (by decide)⟩

theorem not_message_returns_latin1 :
    ¬ ∃ provider : Provider,
      (do
        let encrypted ← encryptMessage provider "0123456789abcdef" "é"
        decryptMessage provider latin1 "0123456789abcdef" encrypted) = .ok "é" := by
  rintro ⟨provider, hreturns⟩
  rw [message_returns_iff_isAscii provider latin1_singleByte (by decide +kernel)] at hreturns
  exact absurd (hreturns 'é' (by decide)) (by decide)

end RestaurantServer.HostCharsets
