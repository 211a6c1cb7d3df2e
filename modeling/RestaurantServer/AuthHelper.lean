import RestaurantServer.Charsets
import RestaurantServer.JsonTokens

/-!
The class `AuthHelper`: signed tokens about a user, and what they say when they
are verified. The signing key becomes bytes in the default charset of the host.
-/

namespace RestaurantServer.AuthHelper

open RestaurantServer.JavaExceptions
open RestaurantServer.JavaStrings
open RestaurantServer.Charsets
open RestaurantServer.JsonTokens

structure TokenInfo where
  iss : String
  sub : String
  aud : String
  expires : Int64
  issued : Int64
  jti : String
  firstName : String
  lastName : String
  admin : String
  userId : String
  deriving DecidableEq

/-- The payload of a token. The issuer comes from the signer, which leaves it
out when it is `null`. -/
def tokenPayload (now : Int64) (userId : Option String) (durationDays : Int64)
    (iss sub jti aud firstName lastName admin : Option String) : JsonObject :=
  let payload : JsonObject :=
    match iss with
    | none => []
    | some issuer => add [] "iss" (.value (stringValue issuer))
  let payload := add payload "aud" (.value (stringValue aud))
  let payload :=
    add payload "iat" (.value (.jsonPrimitive (.number (now / 1000).toInt)))
  let expiration := now + 1000 * 60 * 60 * 24 * durationDays
  let payload :=
    add payload "exp" (.value (.jsonPrimitive (.number (expiration / 1000).toInt)))
  let request : List (String × JsonValue) := []
  let request := add request "userId" (stringValue userId)
  let request := add request "sub" (stringValue sub)
  let request := add request "jti" (stringValue jti)
  let request := add request "firstName" (stringValue firstName)
  let request := add request "lastName" (stringValue lastName)
  let request := add request "admin" (stringValue admin)
  add payload "info" (.jsonObject request)

section Methods

variable (library : Library) (charset : Charset) (SIGNING_KEY : String)

/-- The key of the signer and of the verifier. There is no empty key. -/
def hmacKey : Except Throwable Bytes :=
  if charset.getBytes SIGNING_KEY = [] then .error (illegalArgumentException "Empty key")
  else .ok (charset.getBytes SIGNING_KEY)

def createJsonWebToken (now : Int64) (userId : Option String) (durationDays : Int64)
    (iss sub jti aud firstName lastName admin : Option String) :
    Except Throwable String := do
  let key ← hmacKey charset SIGNING_KEY
  pure (library.serializeAndSign key
    (tokenPayload now userId durationDays iss sub jti aud firstName lastName admin))

def verifiedPayload (key : Bytes) (token : String) (now : Int64) :
    Except Throwable JsonObject := do
  try library.verifyAndDeserialize key token now
  catch e =>
    if e.className = "java.security.SignatureException" then throw (runtimeException e)
    else throw e

def readTokenInfo (payload : JsonObject) : Except Throwable TokenInfo := do
  let issuer ← getPayloadString payload "iss"
  let subject ← getString ((← getAsJsonObject payload "info").lookup "sub")
  let audience ← getPayloadString payload "aud"
  let exp ← library.getInstant payload "exp"
  let iat ← library.getInstant payload "iat"
  let jti ← getString ((← getAsJsonObject payload "info").lookup "jti")
  let firstName ← getString ((← getAsJsonObject payload "info").lookup "firstName")
  let lastName ← getString ((← getAsJsonObject payload "info").lookup "lastName")
  let admin ← getString ((← getAsJsonObject payload "info").lookup "admin")
  let userId ← getString ((← getAsJsonObject payload "info").lookup "userId")
  let expires ← nonNull exp
  let issued ← nonNull iat
  pure
    { iss := issuer, sub := subject, aud := audience, expires, issued, jti, firstName
      lastName, admin, userId }

def verifyToken (token : String) (now : Int64) : Except Throwable TokenInfo := do
  let key ← hmacKey charset SIGNING_KEY
  let payload ← verifiedPayload library key token now
  readTokenInfo library payload

end Methods

section Verification

variable {library : Library} {charset : Charset} {SIGNING_KEY token : String}
  {key : Bytes} {now : Int64}

theorem verifiedPayload_toOption :
    (verifiedPayload library key token now).toOption =
      (library.verifyAndDeserialize key token now).toOption := by
  unfold verifiedPayload
  rcases library.verifyAndDeserialize key token now with e | payload
  · by_cases hclass : e.className = "java.security.SignatureException" <;>
      simp [tryCatch, tryCatchThe, MonadExceptOf.tryCatch, Except.tryCatch, throw, throwThe,
        MonadExceptOf.throw, Except.toOption, hclass]
  · rfl

theorem verifyToken_eq_of_verified (hkey : hmacKey charset SIGNING_KEY = .ok key)
    {payload : JsonObject}
    (hverify : library.verifyAndDeserialize key token now = .ok payload) :
    verifyToken library charset SIGNING_KEY token now = readTokenInfo library payload := by
  have hpayload : verifiedPayload library key token now = .ok payload := by
    rw [verifiedPayload, hverify]
    rfl
  simp only [verifyToken, hkey, hpayload, bind, Except.bind]

theorem verifyToken_eq_none (hkey : hmacKey charset SIGNING_KEY = .ok key)
    (hverify : (library.verifyAndDeserialize key token now).toOption = none) :
    (verifyToken library charset SIGNING_KEY token now).toOption = none := by
  rw [← verifiedPayload_toOption] at hverify
  rcases hpayload : verifiedPayload library key token now with e | payload
  · simp [verifyToken, hkey, hpayload, bind, Except.bind, Except.toOption]
  · simp [hpayload, Except.toOption] at hverify

theorem getInstant_of_readTokenInfo {payload : JsonObject} {info : TokenInfo}
    (hread : readTokenInfo library payload = .ok info) :
    library.getInstant payload "iat" = .ok (some info.issued) ∧
      library.getInstant payload "exp" = .ok (some info.expires) := by
  simp only [readTokenInfo, bind_eq_ok, nonNull_eq_ok] at hread
  obtain ⟨_, _, _, _, _, _, _, _, exp, hexp, iat, hiat, hread⟩ := hread
  obtain ⟨_, _, _, _, _, _, _, _, _, _, _, _, _, _, _, _, hread⟩ := hread
  obtain ⟨_, _, _, _, expires, rfl, issued, rfl, hinfo⟩ := hread
  obtain rfl := Except.ok.inj hinfo
  exact ⟨hiat, hexp⟩

theorem verifyToken_eq_ok {info : TokenInfo}
    (hverify : verifyToken library charset SIGNING_KEY token now = .ok info) :
    ∃ signingKey payload,
      hmacKey charset SIGNING_KEY = .ok signingKey ∧
      library.deserialize token = some payload ∧
      library.signatureIsValid signingKey token = true ∧
      InWindow library.skew info.issued info.expires now := by
  simp only [verifyToken, bind_eq_ok] at hverify
  obtain ⟨signingKey, hkey, payload, hpayload, hread⟩ := hverify
  have hdeserialize : library.verifyAndDeserialize signingKey token now = .ok payload := by
    have hoption : (library.verifyAndDeserialize signingKey token now).toOption =
        some payload := by
      rw [← verifiedPayload_toOption, hpayload]
      rfl
    rcases hcall : library.verifyAndDeserialize signingKey token now with e | parsed
    · simp [hcall, Except.toOption] at hoption
    · simpa [hcall, Except.toOption] using hoption
  obtain ⟨hissued, hexpires⟩ := getInstant_of_readTokenInfo hread
  obtain ⟨hparsed, hvalid, issuedAt, expiration, hiat, hexp, hwindow⟩ :=
    Library.verifyAndDeserialize_eq_ok hdeserialize
  rw [hissued] at hiat
  rw [hexpires] at hexp
  obtain rfl := Except.ok.inj hiat
  obtain rfl := Except.ok.inj hexp
  exact ⟨signingKey, payload, hkey, hparsed, hvalid, by simpa using hwindow⟩

end Verification

def wholeSeconds (millis : Int64) : Int64 :=
  millis / 1000 * 1000

def issuedInfo (now : Int64) (userId : String) (durationDays : Int64)
    (iss sub jti aud firstName lastName admin : String) : TokenInfo where
  iss := iss
  sub := sub
  aud := aud
  expires := wholeSeconds (now + 1000 * 60 * 60 * 24 * durationDays)
  issued := wholeSeconds now
  jti := jti
  firstName := firstName
  lastName := lastName
  admin := admin
  userId := userId

section Payload

variable (library : Library) (now : Int64) (userId : String) (durationDays : Int64)
  (iss sub jti aud firstName lastName admin : String)

theorem tokenPayload_eq :
    tokenPayload now (some userId) durationDays (some iss) (some sub) (some jti) (some aud)
        (some firstName) (some lastName) (some admin) =
      [("iss", .value (.jsonPrimitive (.string iss))),
       ("aud", .value (.jsonPrimitive (.string aud))),
       ("iat", .value (.jsonPrimitive (.number (now / 1000).toInt))),
       ("exp", .value (.jsonPrimitive (.number
         ((now + 1000 * 60 * 60 * 24 * durationDays) / 1000).toInt))),
       ("info", .jsonObject
         [("userId", .jsonPrimitive (.string userId)),
          ("sub", .jsonPrimitive (.string sub)),
          ("jti", .jsonPrimitive (.string jti)),
          ("firstName", .jsonPrimitive (.string firstName)),
          ("lastName", .jsonPrimitive (.string lastName)),
          ("admin", .jsonPrimitive (.string admin))])] := by
  simp [tokenPayload, add, stringValue]

theorem nullFree_tokenPayload :
    NullFree (tokenPayload now (some userId) durationDays (some iss) (some sub) (some jti)
      (some aud) (some firstName) (some lastName) (some admin)) := by
  rw [tokenPayload_eq]
  simp only [NullFree, List.forall_mem_cons, List.not_mem_nil, false_imp_iff, implies_true,
    and_true, ne_eq, reduceCtorEq, not_false_eq_true]

theorem getInstant_iat_tokenPayload :
    library.getInstant (tokenPayload now (some userId) durationDays (some iss) (some sub)
        (some jti) (some aud) (some firstName) (some lastName) (some admin)) "iat" =
      .ok (some (wholeSeconds now)) := by
  rw [tokenPayload_eq]
  change Except.ok (some (Int64.ofInt (now / 1000).toInt * 1000)) = _
  rw [Int64.ofInt_toInt, wholeSeconds]

theorem getInstant_exp_tokenPayload :
    library.getInstant (tokenPayload now (some userId) durationDays (some iss) (some sub)
        (some jti) (some aud) (some firstName) (some lastName) (some admin)) "exp" =
      .ok (some (wholeSeconds (now + 1000 * 60 * 60 * 24 * durationDays))) := by
  rw [tokenPayload_eq]
  change Except.ok (some (Int64.ofInt
    ((now + 1000 * 60 * 60 * 24 * durationDays) / 1000).toInt * 1000)) = _
  rw [Int64.ofInt_toInt, wholeSeconds]

theorem readTokenInfo_tokenPayload :
    readTokenInfo library (tokenPayload now (some userId) durationDays (some iss)
        (some sub) (some jti) (some aud) (some firstName) (some lastName) (some admin)) =
      .ok (issuedInfo now userId durationDays iss sub jti aud firstName lastName
        admin) := by
  simp only [readTokenInfo, getInstant_iat_tokenPayload, getInstant_exp_tokenPayload]
  rw [tokenPayload_eq]
  rfl

/-- A token verifies under the bytes of the key that signed it and within its
window, and then says what it was made to say. -/
theorem verifyToken_serializeAndSign {charset : Charset} {SIGNING_KEY : String}
    (key : Bytes) {key' : Bytes} (hkey : hmacKey charset SIGNING_KEY = .ok key')
    (time : Int64) :
    (verifyToken library charset SIGNING_KEY
        (library.serializeAndSign key (tokenPayload now (some userId) durationDays
          (some iss) (some sub) (some jti) (some aud) (some firstName) (some lastName)
          (some admin))) time).toOption =
      if key' = key ∧ InWindow library.skew (wholeSeconds now)
          (wholeSeconds (now + 1000 * 60 * 60 * 24 * durationDays)) time then
        some (issuedInfo now userId durationDays iss sub jti aud firstName lastName admin)
      else none := by
  have hverify : library.verifyAndDeserialize key' (library.serializeAndSign key _) time = _ :=
    library.verifyAndDeserialize_serializeAndSign
      (nullFree_tokenPayload now userId durationDays iss sub jti aud firstName lastName admin)
      (getInstant_iat_tokenPayload library now userId durationDays iss sub jti aud firstName
        lastName admin)
      (getInstant_exp_tokenPayload library now userId durationDays iss sub jti aud firstName
        lastName admin)
  split
  · rename_i hboth
    rw [if_pos hboth.1, if_pos hboth.2] at hverify
    rw [verifyToken_eq_of_verified hkey hverify, readTokenInfo_tokenPayload]
    rfl
  · rename_i hnot
    refine verifyToken_eq_none hkey ?_
    rw [hverify]
    split
    · rw [if_neg fun hwindow => hnot ⟨‹_›, hwindow⟩]
      rfl
    · rfl

end Payload

end RestaurantServer.AuthHelper
