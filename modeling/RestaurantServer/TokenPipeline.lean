import RestaurantServer.CryptoHelper

/-!
Tokens from `createJWE` to `decryptJWE`, across signing, verification and
encryption, and the error values that travel in place of tokens.
-/

namespace RestaurantServer.TokenPipeline

open RestaurantServer.JavaExceptions
open RestaurantServer.JavaStrings
open RestaurantServer.JavaLongs
open RestaurantServer.ThrowingMethods
open RestaurantServer.BlockCipherModes
open RestaurantServer.Charsets
open RestaurantServer.JceCipher
open RestaurantServer.AESCipher
open RestaurantServer.JsonTokens
open RestaurantServer.AuthHelper
open RestaurantServer.CryptoHelper

theorem bmod_eq_self {n : Int} (hle : -2 ^ 63 ≤ n) (hlt : n < 2 ^ 63) :
    n.bmod (2 ^ 64) = n :=
  Int.bmod_eq_of_le (by omega) (by omega)

theorem toInt_wholeSeconds (millis : Int64) :
    (wholeSeconds millis).toInt = millis.toInt.tdiv 1000 * 1000 := by
  have hle := millis.le_toInt
  have hlt := millis.toInt_lt
  have hthousand : (1000 : Int64).toInt = 1000 := rfl
  have hbounds : -2 ^ 63 ≤ millis.toInt.tdiv 1000 * 1000 ∧
      millis.toInt.tdiv 1000 * 1000 < 2 ^ 63 := by
    rcases le_total 0 millis.toInt with hsign | hsign
    · rw [Int.tdiv_eq_ediv_of_nonneg hsign]
      omega
    · have hneg : millis.toInt.tdiv 1000 = -((-millis.toInt) / 1000) := by
        rw [← Int.tdiv_eq_ediv_of_nonneg (by omega), Int.neg_tdiv, neg_neg]
      rw [hneg]
      omega
  rw [wholeSeconds, Int64.toInt_mul, Int64.toInt_div, hthousand,
    bmod_eq_self (n := millis.toInt.tdiv 1000) (by omega) (by omega),
    bmod_eq_self hbounds.1 hbounds.2]

theorem toInt_expiration {now durationDays : Int64}
    (hle : -2 ^ 63 ≤ now.toInt + 86400000 * durationDays.toInt)
    (hlt : now.toInt + 86400000 * durationDays.toInt < 2 ^ 63) :
    (now + 1000 * 60 * 60 * 24 * durationDays).toInt =
      now.toInt + 86400000 * durationDays.toInt := by
  have hday : (1000 * 60 * 60 * 24 : Int64).toInt = 86400000 := rfl
  rw [Int64.toInt_add, Int64.toInt_mul, hday, Int.add_bmod_bmod, bmod_eq_self hle hlt]

section Creation

variable (provider : Provider) (library : Library) (charset : Charset)
  (keystore : Except Throwable Bytes) (issued verified : Int64)
  (userId duration iss sub aud jti firstName lastName admin : Option String)

theorem verifiedOrExpired_eq (key u : String) :
    verifiedOrExpired library charset key u verified =
      .ok (if (verifyToken library charset key u verified).toOption.isSome then u
        else "Expired") := by
  unfold verifiedOrExpired
  cases verifyToken library charset key u verified <;> rfl

/-- A token that is not the error value was signed, and verified at once. -/
theorem createJWT_eq_ok {key token : String}
    (htoken : createJWT library charset key issued verified userId duration iss sub aud jti
      firstName lastName admin = .ok token) (hexpired : token ≠ "Expired") :
    ∃ durationDays signingKey,
      parseLong duration = .ok durationDays ∧ hmacKey charset key = .ok signingKey ∧
      token = library.serializeAndSign signingKey (tokenPayload issued userId durationDays
        iss sub jti aud firstName lastName admin) ∧
      (verifyToken library charset key token verified).toOption.isSome := by
  unfold createJWT createJsonWebToken at htoken
  rcases hduration : parseLong duration with e | durationDays
  · obtain rfl := parseLong_error hduration
    simp only [hduration, error_bind, tryCatch_error] at htoken
    exact absurd (Except.ok.inj htoken).symm hexpired
  rcases hkey : hmacKey charset key with e | signingKey
  · simp only [hduration, hkey, ok_bind, error_bind, tryCatch_error] at htoken
    split at htoken
    · exact absurd (Except.ok.inj htoken).symm hexpired
    · cases htoken
  · simp only [hduration, hkey, ok_bind, pure_bind, verifiedOrExpired_eq,
      tryCatch_ok] at htoken
    have htoken := Except.ok.inj htoken
    split at htoken
    · rename_i hverified
      obtain rfl := htoken
      exact ⟨durationDays, signingKey, rfl, rfl, rfl, hverified⟩
    · exact absurd htoken.symm hexpired

def jwe (key : Bytes) (token : String) : String :=
  Base64.encode
    (encryptPadded (provider.aes key) (Block.ofList INITIAL_IV) (Utf8.encode token))

/-- `createJWE` never throws, and returns an error value or a token. -/
theorem createJWE_cases :
    ∃ result,
      createJWE provider library charset keystore issued verified userId duration iss sub aud
          jti firstName lastName admin = .ok result ∧
        (result = "Expired" ∨ (∃ e : Throwable, result = "400/Error" ++ e.toString) ∨
          ∃ key token, keystore = .ok key ∧ ValidKey key ∧
            createJWT library charset (Base64.encode key) issued verified userId duration iss
              sub aud jti firstName lastName admin = .ok token ∧
            token ≠ "Expired" ∧ result = jwe provider key token) := by
  unfold createJWE
  rcases keystore with e | key
  · exact ⟨_, rfl, .inr (.inl ⟨e, rfl⟩)⟩
  rcases hnew : AESCipher.new key with e | cipher
  · refine ⟨"400/Error" ++ e.toString, ?_, .inr (.inl ⟨e, rfl⟩)⟩
    simp only [ok_bind, hnew, error_bind, tryCatch_error]
    rfl
  obtain rfl := eq_of_newWithIV hnew
  rcases htoken : createJWT library charset (Base64.encode key) issued verified userId
    duration iss sub aud jti firstName lastName admin with e | token
  · refine ⟨"400/Error" ++ e.toString, ?_, .inr (.inl ⟨e, rfl⟩)⟩
    simp only [ok_bind, hnew, getKey, htoken, error_bind, tryCatch_error]
    rfl
  by_cases hexpired : token = "Expired"
  · refine ⟨"Expired", ?_, .inl rfl⟩
    simp only [ok_bind, hnew, getKey, htoken, hexpired, ne_eq, not_true_eq_false, if_false]
    rfl
  have houtcome := getEncryptedMessage_outcome provider token ⟨key, INITIAL_IV, none⟩
  by_cases hkey : ValidKey key
  · refine ⟨jwe provider key token, ?_,
      .inr (.inr ⟨key, token, rfl, hkey, htoken, hexpired, rfl⟩)⟩
    rw [encryptedMessage_eq_ok provider hkey rfl] at houtcome
    simp only [ok_bind, hnew, getKey, htoken, ne_eq, hexpired, not_false_eq_true, if_true,
      houtcome, tryCatch_ok]
    rfl
  · refine ⟨"400/Error" ++ (runtimeException (invalidKeyLength key)).toString, ?_,
      .inr (.inl ⟨_, rfl⟩)⟩
    have hinit : encryptedMessage provider key INITIAL_IV token =
        .error (runtimeException (invalidKeyLength key)) := by
      simp [encryptedMessage, initialised, INITIAL_IV, hkey]
    rw [hinit] at houtcome
    simp only [ok_bind, hnew, getKey, htoken, ne_eq, hexpired, not_false_eq_true, if_true,
      houtcome, tryCatch_error]
    rfl

end Creation

section Decryption

variable (provider : Provider) (library : Library) (charset : Charset)
  (keystore : Except Throwable Bytes) (now : Int64)

def expired : JWTHelper :=
  ⟨some "Expired", none⟩

theorem decryptJWE_eq (token : List UInt16) :
    decryptJWE provider library charset keystore now token =
      .ok (match (do
          let key ← keystore
          let cipher ← AESCipher.new key
          let jwt ← (call (getDecryptedMessage provider charset token) cipher).1
          let info ← verifyToken library charset (getKey cipher) jwt now
          .ok (JWTHelper.mk (some jwt) (some info)) : Except Throwable JWTHelper) with
        | .ok helper => helper
        | .error _ => expired) := by
  unfold decryptJWE
  rcases keystore with e | key
  · rfl
  rcases hnew : AESCipher.new key with e | cipher
  · simp only [ok_bind, hnew, error_bind, tryCatch_error]
    rfl
  rcases hcall : (call (getDecryptedMessage provider charset token) cipher).1 with e | jwt
  · simp only [ok_bind, hnew, hcall, error_bind, tryCatch_error]
    rfl
  rcases hverify : verifyToken library charset (getKey cipher) jwt now with e | info
  · simp only [ok_bind, hnew, hcall, hverify, error_bind, tryCatch_error]
    rfl
  · simp only [ok_bind, hnew, hcall, hverify]
    rfl

theorem decryptedMessage_eq_ok {key iv : Bytes} {token : List UInt16} {jwt : String}
    (hjwt : decryptedMessage provider charset key iv token = .ok jwt) :
    ∃ bytes plain, ValidKey key ∧ Base64.decode token = some bytes ∧
      transform provider.aes (fresh .decrypt key iv) bytes = .ok plain ∧
      jwt = charset.newString plain := by
  simp only [decryptedMessage, bind_eq_ok] at hjwt
  obtain ⟨_, hinit, bytes, hdecode, hjwt⟩ := hjwt
  have hkey : ValidKey key := by
    unfold initialised at hinit
    split at hinit
    · cases hinit
    · split at hinit
      · cases hinit
      · rename_i hkey
        exact not_not.mp hkey
  have hbytes : Base64.decode token = some bytes := by
    unfold base64Decode at hdecode
    split at hdecode
    · rename_i decoded hdecoded
      rw [hdecoded, Except.ok.inj hdecode]
    · cases hdecode
  split at hjwt
  · rename_i plain hplain
    exact ⟨bytes, plain, hkey, hbytes, hplain, (Except.ok.inj hjwt).symm⟩
  · cases hjwt

/-- `decryptJWE` never throws. It answers with a token's content only when every
step from the keystore to the verification succeeded. -/
theorem decryptJWE_cases (token : List UInt16) :
    decryptJWE provider library charset keystore now token = .ok expired ∨
      ∃ key bytes plain info, keystore = .ok key ∧ ValidKey key ∧
        Base64.decode token = some bytes ∧
        transform provider.aes (fresh .decrypt key INITIAL_IV) bytes = .ok plain ∧
        verifyToken library charset (Base64.encode key) (charset.newString plain) now =
          .ok info ∧
        decryptJWE provider library charset keystore now token =
          .ok ⟨some (charset.newString plain), some info⟩ := by
  rw [decryptJWE_eq]
  split
  · rename_i helper hhelper
    simp only [bind_eq_ok] at hhelper
    obtain ⟨key, rfl, cipher, hnew, jwt, hjwt, info, hinfo, hhelper⟩ := hhelper
    obtain rfl := eq_of_newWithIV hnew
    rw [getDecryptedMessage_outcome] at hjwt
    obtain ⟨bytes, plain, hkey, hdecode, hplain, rfl⟩ :=
      decryptedMessage_eq_ok provider charset hjwt
    refine .inr ⟨key, bytes, plain, info, rfl, hkey, hdecode, hplain, hinfo, ?_⟩
    rw [Except.ok.inj hhelper]
  · exact .inl rfl

theorem decryptJWE_jwe {key : Bytes} (hkey : ValidKey key) (token : String) :
    decryptJWE provider library utf8 (.ok key) now (utf16 (jwe provider key token)) =
      .ok (match verifyToken library utf8 (Base64.encode key) token now with
        | .ok info => ⟨some token, some info⟩
        | .error _ => expired) := by
  have hread : utf8.newString (Utf8.encode token) = token := Utf8.decode_encode token
  have hmessage := decryptedMessage_encrypt provider utf8 hkey length_INITIAL_IV token
  rw [decryptJWE_eq]
  simp only [ok_bind, new_eq_ok hkey, getDecryptedMessage_outcome, jwe, hmessage, hread,
    getKey]
  rcases verifyToken library utf8 (Base64.encode key) token now with e | info <;> rfl

end Decryption

/-- The key text of a keystore key is ASCII, so it has the same bytes in every
charset. -/
theorem hmacKey_encode (charset : Charset) {key : Bytes} (hkey : ValidKey key) :
    hmacKey charset (Base64.encode key) = .ok (asciiBytes (Base64.encode key)) := by
  have hascii : IsAscii (Base64.encode key) := fun _ hc => Base64.ascii_of_mem_encode hc
  have hne : asciiBytes (Base64.encode key) ≠ [] := by
    intro hempty
    have hnil : (Base64.encode key).toList = [] := List.map_eq_nil_iff.mp hempty
    have hdecode := Base64.decode_encode key
    rw [utf16, hnil] at hdecode
    obtain rfl : [] = key := Option.some.inj hdecode
    exact absurd hkey (by decide)
  rw [hmacKey, charset.getBytes_ascii _ hascii, if_neg hne]

theorem encode_ne_expired (bytes : Bytes) : Base64.encode bytes ≠ "Expired" := by
  intro heq
  have hlength := Base64.length_encode bytes
  rw [heq] at hlength
  exact absurd hlength (by decide)

/-- The text of an exception names its class, and no base64 text has a dot. -/
theorem encode_ne_error (bytes : Bytes) (e : Throwable) :
    Base64.encode bytes ≠ "400/Error" ++ e.toString := by
  intro heq
  have hdot : '.' ∈ (Base64.encode bytes).toList := by
    rw [heq, String.toList_append]
    exact List.mem_append_right _ e.dot_mem_toString
  rcases Base64.mem_encode hdot with hmem | hmem
  · exact absurd hmem (by decide +kernel)
  · exact absurd hmem (by decide)

theorem splitOn_expired : ("Expired".toList.splitOn '.').length = 1 := by decide

section Issued

variable (provider : Provider) (library : Library) (charset : Charset) {key : Bytes}
  (issued verified : Int64)
  (userId duration iss sub aud jti firstName lastName admin : String) {d : Int64}

def signedToken (signingKey : Bytes) (d : Int64) : String :=
  library.serializeAndSign signingKey
    (tokenPayload issued (some userId) d (some iss) (some sub) (some jti) (some aud)
      (some firstName) (some lastName) (some admin))

theorem signedToken_ne_expired (signingKey : Bytes) :
    signedToken library issued userId iss sub aud jti firstName lastName admin signingKey d ≠
      "Expired" := by
  intro heq
  have hparts := library.three_parts _ _ (library.deserialize_serializeAndSign signingKey _
    (nullFree_tokenPayload issued userId d iss sub jti aud firstName lastName admin))
  rw [signedToken] at heq
  rw [heq, splitOn_expired] at hparts
  cases hparts

theorem createJWT_eq_signedToken {key : String} {signingKey : Bytes}
    (hsigning : hmacKey charset key = .ok signingKey)
    (hduration : parseLong (some duration) = .ok d)
    (hwindow : InWindow library.skew (wholeSeconds issued)
      (wholeSeconds (issued + 1000 * 60 * 60 * 24 * d)) verified) :
    createJWT library charset key issued verified (some userId) (some duration) (some iss)
        (some sub) (some aud) (some jti) (some firstName) (some lastName) (some admin) =
      .ok (signedToken library issued userId iss sub aud jti firstName lastName admin
        signingKey d) := by
  have hverify := verifyToken_serializeAndSign library issued userId d iss sub jti aud
    firstName lastName admin signingKey hsigning verified
  rw [if_pos ⟨rfl, hwindow⟩] at hverify
  simp only [createJWT, createJsonWebToken, hduration, hsigning, ok_bind, pure_bind,
    verifiedOrExpired_eq, hverify, Option.isSome_some, if_true, tryCatch_ok]
  rfl

theorem createJWE_eq_jwe (hkey : ValidKey key)
    (hduration : parseLong (some duration) = .ok d)
    (hwindow : InWindow library.skew (wholeSeconds issued)
      (wholeSeconds (issued + 1000 * 60 * 60 * 24 * d)) verified) :
    createJWE provider library charset (.ok key) issued verified (some userId)
        (some duration) (some iss) (some sub) (some aud) (some jti) (some firstName)
        (some lastName) (some admin) =
      .ok (jwe provider key (signedToken library issued userId iss sub aud jti firstName
        lastName admin (asciiBytes (Base64.encode key)) d)) := by
  have hjwt := createJWT_eq_signedToken library charset issued verified userId duration iss
    sub aud jti firstName lastName admin (hmacKey_encode charset hkey) hduration hwindow
  have hne := signedToken_ne_expired library issued userId iss sub aud jti firstName lastName
    admin (asciiBytes (Base64.encode key)) (d := d)
  have houtcome := getEncryptedMessage_outcome provider (signedToken library issued userId iss
    sub aud jti firstName lastName admin (asciiBytes (Base64.encode key)) d)
    ⟨key, INITIAL_IV, none⟩
  rw [encryptedMessage_eq_ok provider hkey rfl] at houtcome
  simp only [createJWE, ok_bind, new_eq_ok hkey, getKey, hjwt, ne_eq, hne, not_false_eq_true,
    if_true, houtcome, tryCatch_ok]
  rfl

end Issued

/-- A token that `createJWE` returns gives back exactly the values it was made
from, at all times within its window and at no other time. -/
theorem decryptJWE_createJWE (provider : Provider) (library : Library) (key : Bytes)
    (issued verified : Int64)
    (userId duration iss sub aud jti firstName lastName admin : String) (d : Int64)
    (hduration : parseLong (some duration) = .ok d)
    (hle : -2 ^ 63 ≤ issued.toInt + 86400000 * d.toInt)
    (hlt : issued.toInt + 86400000 * d.toInt < 2 ^ 63) (J : String)
    (hcreate : createJWE provider library utf8 (.ok key) issued verified (some userId)
      (some duration) (some iss) (some sub) (some aud) (some jti) (some firstName)
      (some lastName) (some admin) = .ok J)
    (hexpired : J ≠ "Expired") (herror : ∀ e : Throwable, J ≠ "400/Error" ++ e.toString) :
    ∃ issuedAt expiration : Int64,
      issuedAt.toInt = issued.toInt.tdiv 1000 * 1000 ∧
      expiration.toInt = (issued.toInt + 86400000 * d.toInt).tdiv 1000 * 1000 ∧
      InWindow library.skew issuedAt expiration verified ∧
      ∀ now : Int64,
        (InWindow library.skew issuedAt expiration now → ∃ jwt,
          decryptJWE provider library utf8 (.ok key) now (utf16 J) =
            .ok ⟨some jwt, some
              { userId := userId, iss := iss, sub := sub, aud := aud, jti := jti
                firstName := firstName, lastName := lastName, admin := admin
                issued := issuedAt, expires := expiration }⟩) ∧
        (¬ InWindow library.skew issuedAt expiration now →
          decryptJWE provider library utf8 (.ok key) now (utf16 J) =
            .ok ⟨some "Expired", none⟩) := by
  obtain ⟨result, hresult, hcases⟩ := createJWE_cases provider library utf8 (.ok key) issued
    verified (some userId) (some duration) (some iss) (some sub) (some aud) (some jti)
    (some firstName) (some lastName) (some admin)
  obtain rfl : result = J := Except.ok.inj (hresult.symm.trans hcreate)
  rcases hcases with hcase | ⟨e, hcase⟩ | ⟨key', token, hkey', hkey, htoken, hne, rfl⟩
  · exact absurd hcase hexpired
  · exact absurd hcase (herror e)
  obtain rfl := Except.ok.inj hkey'
  obtain ⟨d', signingKey, hd', hsigning, rfl, hverified⟩ :=
    createJWT_eq_ok _ _ _ _ _ _ _ _ _ _ _ _ _ htoken hne
  obtain rfl : d = d' := Except.ok.inj (hduration.symm.trans hd')
  have hverify := verifyToken_serializeAndSign library issued userId d iss sub jti aud
    firstName lastName admin signingKey hsigning
  refine ⟨wholeSeconds issued, wholeSeconds (issued + 1000 * 60 * 60 * 24 * d),
    toInt_wholeSeconds issued, ?_, ?_, fun now => ⟨fun hwindow => ?_, fun hwindow => ?_⟩⟩
  · rw [toInt_wholeSeconds, toInt_expiration hle hlt]
  · rw [hverify verified] at hverified
    by_contra houtside
    rw [if_neg fun hboth => houtside hboth.2] at hverified
    cases hverified
  all_goals rw [decryptJWE_jwe provider library now hkey]
  · have hinfo := hverify now
    rw [if_pos ⟨rfl, hwindow⟩] at hinfo
    rcases hcall : verifyToken library utf8 (Base64.encode key) _ now with e | info
    · rw [hcall] at hinfo
      cases hinfo
    · rw [hcall] at hinfo
      obtain rfl := Option.some.inj hinfo
      exact ⟨_, rfl⟩
  · have hinfo := hverify now
    rw [if_neg fun hboth => hwindow hboth.2] at hinfo
    rcases hcall : verifyToken library utf8 (Base64.encode key) _ now with e | info
    · rfl
    · rw [hcall] at hinfo
      cases hinfo

def keystoreKey : Bytes :=
  Utf8.encode "0123456789abcdef"

theorem decryptJWE_createJWE_oneDay :
    ∃ J, createJWE xorProvider segmentLibrary utf8 (.ok keystoreKey) 1444608000123
        1444608000456 (some "42") (some "1") (some "facebook") (some "subject")
        (some "agent") (some "id") (some "José") (some "Doe") (some "false") = .ok J ∧
      (∃ jwt, decryptJWE xorProvider segmentLibrary utf8 (.ok keystoreKey) 1444650000000
        (utf16 J) = .ok ⟨some jwt, some
          { userId := "42", iss := "facebook", sub := "subject", aud := "agent", jti := "id"
            firstName := "José", lastName := "Doe", admin := "false"
            issued := 1444608000000, expires := 1444694400000 }⟩) ∧
      decryptJWE xorProvider segmentLibrary utf8 (.ok keystoreKey) 1444700000000
        (utf16 J) = .ok ⟨some "Expired", none⟩ := by
  have hkey : ValidKey keystoreKey := by decide +kernel
  have hduration : parseLong (some "1") = .ok 1 := by decide +kernel
  have hcreate := createJWE_eq_jwe xorProvider segmentLibrary utf8 1444608000123 1444608000456
    "42" "1" "facebook" "subject" "agent" "id" "José" "Doe" "false" hkey hduration (by decide)
  refine ⟨_, hcreate, ?_⟩
  obtain ⟨issuedAt, expiration, hissued, hexpires, -, hdecrypt⟩ :=
    decryptJWE_createJWE xorProvider segmentLibrary keystoreKey 1444608000123 1444608000456
      "42" "1" "facebook" "subject" "agent" "id" "José" "Doe" "false" 1 hduration (by decide)
      (by decide) _ hcreate (encode_ne_expired _) (encode_ne_error _)
  obtain rfl : issuedAt = 1444608000000 := Int64.toInt_inj.mp hissued
  obtain rfl : expiration = 1444694400000 := Int64.toInt_inj.mp hexpires
  exact ⟨(hdecrypt 1444650000000).1 (by decide), (hdecrypt 1444700000000).2 (by decide)⟩

def IsErrorText (result : String) : Prop :=
  ∃ e : Throwable, result = "400/Error" ++ e.toString

theorem not_isErrorText_expired : ¬ IsErrorText "Expired" := by
  rintro ⟨e, heq⟩
  have hhead := congrArg (fun text : String => text.toList.head?) heq
  rw [String.toList_append] at hhead
  exact absurd hhead (by simp)

/-- `Expired` decodes to five bytes, which are no ciphertext. -/
theorem transform_expired {aes : Bytes → Equiv.Perm Block} {key iv bytes plain : Bytes}
    (hdecode : Base64.decode (utf16 "Expired") = some bytes) :
    transform aes (fresh .decrypt key iv) bytes ≠ .ok plain := by
  have hlength : (Base64.decode (utf16 "Expired")).map List.length = some 5 := by
    decide +kernel
  rw [hdecode] at hlength
  have hlength : bytes.length = 5 := Option.some.inj hlength
  simp [transform, fresh, hlength]

theorem decode_errorText {result : String} (hresult : IsErrorText result) :
    Base64.decode (utf16 result) = none := by
  obtain ⟨e, rfl⟩ := hresult
  have hdot : '.' ∈ ("400/Error" ++ e.toString).toList := by
    rw [String.toList_append]
    exact List.mem_append_right _ e.dot_mem_toString
  exact Base64.decode_eq_none (mem_utf16 hdot (by decide)) (by decide +kernel) (by decide)

/-- Error values never pass for tokens. `createJWE` returns one of two error
values or the base64 text of the JWT it created, which are told apart; `decryptJWE`
answers every string, with a content exactly when it does not answer `Expired`, and
only for a token that was signed and encrypted with the key of the keystore and is in
its window; and it answers `Expired` to both error values. -/
theorem error_values_never_pass_for_tokens (provider : Provider) (library : Library)
    (charset : Charset) :
    (∀ keystore issued verified userId duration iss sub aud jti firstName lastName admin,
      ∃ result,
        createJWE provider library charset keystore issued verified userId duration iss sub
            aud jti firstName lastName admin = .ok result ∧
          (result = "Expired" ∨ IsErrorText result ∨
            ∃ key token, keystore = .ok key ∧ ValidKey key ∧
              createJWT library charset (Base64.encode key) issued verified userId duration
                iss sub aud jti firstName lastName admin = .ok token ∧
              token ≠ "Expired" ∧ result = jwe provider key token)) ∧
    (¬ IsErrorText "Expired" ∧
      ∀ bytes, Base64.encode bytes ≠ "Expired" ∧ ¬ IsErrorText (Base64.encode bytes)) ∧
    (∀ keystore now token,
      ∃ helper, decryptJWE provider library charset keystore now token = .ok helper ∧
        (helper.t = none ↔ helper.jwt = some "Expired") ∧
        ∀ info, helper.t = some info →
          ∃ key bytes plain payload, keystore = .ok key ∧
            Base64.decode token = some bytes ∧
            transform provider.aes (fresh .decrypt key INITIAL_IV) bytes = .ok plain ∧
            ((charset.newString plain).toList.splitOn '.').length = 3 ∧
            library.deserialize (charset.newString plain) = some payload ∧
            library.signatureIsValid (asciiBytes (Base64.encode key))
              (charset.newString plain) = true ∧
            InWindow library.skew info.issued info.expires now) ∧
    (∀ keystore now error, error = "Expired" ∨ IsErrorText error →
      decryptJWE provider library charset keystore now (utf16 error) =
        .ok ⟨some "Expired", none⟩) := by
  refine ⟨?_, ⟨not_isErrorText_expired, fun bytes => ⟨encode_ne_expired bytes, ?_⟩⟩, ?_, ?_⟩
  · intro keystore issued verified userId duration iss sub aud jti firstName lastName admin
    exact createJWE_cases provider library charset keystore issued verified userId duration
      iss sub aud jti firstName lastName admin
  · rintro ⟨e, heq⟩
    exact encode_ne_error bytes e heq
  · intro keystore now token
    rcases decryptJWE_cases provider library charset keystore now token with hexpired |
      ⟨key, bytes, plain, info, hkey, hvalid, hdecode, hplain, hverify, hhelper⟩
    · exact ⟨expired, hexpired, by simp [expired], by simp [expired]⟩
    obtain ⟨signingKey, payload, hsigning, hpayload, hsignature, hwindow⟩ :=
      verifyToken_eq_ok hverify
    rw [hmacKey_encode charset hvalid] at hsigning
    obtain rfl := Except.ok.inj hsigning
    have hparts := library.three_parts _ _ hpayload
    refine ⟨_, hhelper, ?_, ?_⟩
    · refine iff_of_false (by simp) ?_
      intro heq
      rw [Option.some.inj heq, splitOn_expired] at hparts
      cases hparts
    · rintro _ ⟨rfl⟩
      exact ⟨key, bytes, plain, payload, hkey, hdecode, hplain, hparts, hpayload, hsignature,
        hwindow⟩
  · rintro keystore now error herror
    rcases decryptJWE_cases provider library charset keystore now (utf16 error) with hexpired |
      ⟨key, bytes, plain, info, _, _, hdecode, hplain, _, _⟩
    · exact hexpired
    · rcases herror with rfl | herror
      · exact absurd hplain (transform_expired hdecode)
      · rw [decode_errorText herror] at hdecode
        cases hdecode

/-- Bytes whose base64 text begins `400/Error`. -/
def errorBlock : Block :=
  Block.ofList [0xE3, 0x4D, 0x3F, 0x12, 0xBA, 0xE8, 0xAC]

def firstBlock (token : String) : Block :=
  Block.xor (Block.ofList ((pad (Utf8.encode token)).take 16)) (Block.ofList INITIAL_IV)

/-- A provider whose permutations take the first block of a token to `errorBlock`. -/
def swapProvider (token : String) : Provider where
  aes _ := Equiv.swap (firstBlock token) errorBlock
  residue state _ := some state

theorem error_prefix_jwe (key : Bytes) (token : String) :
    "400/Error".toList <+: (jwe (swapProvider token) key token).toList := by
  obtain ⟨more, hbytes⟩ := encryptPadded_eq_append ((swapProvider token).aes key)
    (Block.ofList INITIAL_IV) (Utf8.encode token)
  have hblock : (swapProvider token).aes key (firstBlock token) = errorBlock :=
    Equiv.swap_apply_left _ _
  rw [← firstBlock, hblock] at hbytes
  -- Nine bytes are three whole chunks of the base64 text.
  have hsplit : errorBlock.toList ++ more =
      errorBlock.toList.take 9 ++ (errorBlock.toList.drop 9 ++ more) := by
    rw [← List.append_assoc, List.take_append_drop]
  have hfront : "400/Error".toList <+: Base64.encodeDigits (errorBlock.toList.take 9) := by
    decide +kernel
  rw [jwe, hbytes, hsplit, Base64.encode, Base64.encodeDigits_append (by decide),
    List.append_assoc, String.toList_ofList (l := _ ++ _)]
  exact hfront.trans (List.prefix_append _ _)

def janeToken : String :=
  signedToken segmentLibrary 1444608000123 "42" "facebook" "subject" "agent" "id" "Jane" "Doe"
    "false" (asciiBytes (Base64.encode keystoreKey)) 1

/-- Nothing but the permutation decides how a token begins: this one is a token that
`decryptJWE` accepts, and begins like the error value. -/
theorem token_begins_like_error_value :
    ∃ J, createJWE (swapProvider janeToken) segmentLibrary utf8 (.ok keystoreKey)
        1444608000123 1444608000456 (some "42") (some "1") (some "facebook") (some "subject")
        (some "agent") (some "id") (some "Jane") (some "Doe") (some "false") = .ok J ∧
      "400/Error".toList <+: J.toList ∧
      J = jwe (swapProvider janeToken) keystoreKey janeToken ∧
      ∃ info, decryptJWE (swapProvider janeToken) segmentLibrary utf8 (.ok keystoreKey)
        1444650000000 (utf16 J) = .ok ⟨some janeToken, some info⟩ := by
  have hkey : ValidKey keystoreKey := by decide +kernel
  have hduration : parseLong (some "1") = .ok 1 := by decide +kernel
  refine ⟨_, createJWE_eq_jwe (swapProvider janeToken) segmentLibrary utf8 1444608000123
    1444608000456 "42" "1" "facebook" "subject" "agent" "id" "Jane" "Doe" "false" hkey
    hduration (by decide), error_prefix_jwe keystoreKey janeToken, rfl, ?_⟩
  have hverify := verifyToken_serializeAndSign segmentLibrary 1444608000123 "42" 1 "facebook"
    "subject" "id" "agent" "Jane" "Doe" "false" (asciiBytes (Base64.encode keystoreKey))
    (hmacKey_encode utf8 hkey) 1444650000000
  rw [if_pos ⟨rfl, by decide⟩] at hverify
  have hdecrypt := decryptJWE_jwe (swapProvider janeToken) segmentLibrary 1444650000000 hkey
    janeToken
  rcases hcall : verifyToken segmentLibrary utf8 (Base64.encode keystoreKey) janeToken
    1444650000000 with e | info
  · rw [janeToken, signedToken] at hcall
    rw [hcall] at hverify
    cases hverify
  · rw [hcall] at hdecrypt
    exact ⟨info, hdecrypt⟩

end RestaurantServer.TokenPipeline
