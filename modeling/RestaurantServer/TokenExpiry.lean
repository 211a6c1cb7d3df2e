import RestaurantServer.TokenPipeline

/-!
When a token expires. The expiry is computed in 64 bits from the number of days
that the caller asks for, and the token is only verified against the result.
-/

namespace RestaurantServer.TokenExpiry

open RestaurantServer.JavaExceptions
open RestaurantServer.JavaLongs
open RestaurantServer.Charsets
open RestaurantServer.JsonTokens
open RestaurantServer.AuthHelper
open RestaurantServer.CryptoHelper
open RestaurantServer.TokenPipeline

/-- The expiry without a limit on its size. -/
def dueTime (issued durationDays : Int64) : Int :=
  issued.toInt + 86400000 * durationDays.toInt

theorem toInt_expiration_eq_bmod (issued durationDays : Int64) :
    (issued + 1000 * 60 * 60 * 24 * durationDays).toInt =
      (dueTime issued durationDays).bmod (2 ^ 64) := by
  have hday : (1000 * 60 * 60 * 24 : Int64).toInt = 86400000 := rfl
  rw [Int64.toInt_add, Int64.toInt_mul, hday, Int.add_bmod_bmod, dueTime]

theorem tdiv_seconds_bounds (millis : Int) :
    millis - 1000 < millis.tdiv 1000 * 1000 ∧ millis.tdiv 1000 * 1000 < millis + 1000 := by
  rcases le_total 0 millis with hsign | hsign
  · rw [Int.tdiv_eq_ediv_of_nonneg hsign]
    omega
  · have hneg : millis.tdiv 1000 = -((-millis) / 1000) := by
      rw [← Int.tdiv_eq_ediv_of_nonneg (by omega), Int.neg_tdiv, neg_neg]
    rw [hneg]
    omega

/-- Whole seconds are fine enough to tell a time from its 64-bit remainder. -/
theorem seconds_bmod_iff (millis : Int) :
    (millis.bmod (2 ^ 64)).tdiv 1000 * 1000 = millis.tdiv 1000 * 1000 ↔
      -2 ^ 63 ≤ millis ∧ millis < 2 ^ 63 := by
  constructor
  · intro heq
    have hwrapped := tdiv_seconds_bounds (millis.bmod (2 ^ 64))
    have hexact := tdiv_seconds_bounds millis
    have hwrap := Int.bmod_def millis (2 ^ 64)
    omega
  · rintro ⟨hle, hlt⟩
    rw [bmod_eq_self hle hlt]

/-- What `createJWT` is asked for, with the time at which it checks its token. -/
structure TokenRequest where
  userId : String
  duration : String
  iss : String
  sub : String
  aud : String
  jti : String
  firstName : String
  lastName : String
  admin : String
  verified : Int64
  deriving DecidableEq

section Tokens

variable (library : Library) (charset : Charset) (key : String) (issued : Int64)
  (request : TokenRequest) (d : Int64)

def TokenRequest.create : Except Throwable String :=
  createJWT library charset key issued request.verified (some request.userId)
    (some request.duration) (some request.iss) (some request.sub) (some request.aud)
    (some request.jti) (some request.firstName) (some request.lastName) (some request.admin)

/-- A token that is handed out expires when it should, to the second. -/
def ExactExpiry : Prop :=
  ∀ token, request.create library charset key issued = .ok token → token ≠ "Expired" →
    ∃ info, verifyToken library charset key token request.verified = .ok info ∧
      info.expires.toInt = (dueTime issued d).tdiv 1000 * 1000

/-- The 64-bit expiry is in the past when the token is checked, or before the time
of issue. -/
def Rejected : Prop :=
  ¬ InWindow library.skew (wholeSeconds issued)
    (wholeSeconds (issued + 1000 * 60 * 60 * 24 * d)) request.verified

def Fits : Prop :=
  -2 ^ 63 ≤ dueTime issued d ∧ dueTime issued d < 2 ^ 63

variable {library charset key issued request d}

/-- A token is handed out only if its key is not empty and its 64-bit expiry passes
the check; the check then reads that expiry. -/
theorem create_verified {token : String}
    (hduration : parseLong (some request.duration) = .ok d)
    (htoken : request.create library charset key issued = .ok token)
    (hexpired : token ≠ "Expired") :
    charset.getBytes key ≠ [] ∧ ¬ Rejected library issued request d ∧
      ∃ info, verifyToken library charset key token request.verified = .ok info ∧
        info.expires = wholeSeconds (issued + 1000 * 60 * 60 * 24 * d) := by
  obtain ⟨d', signingKey, hd', hsigning, rfl, hverified⟩ :=
    createJWT_eq_ok _ _ _ _ _ _ _ _ _ _ _ _ _ htoken hexpired
  obtain rfl : d = d' := Except.ok.inj (hduration.symm.trans hd')
  have hkey : charset.getBytes key ≠ [] := by
    intro hempty
    rw [hmacKey, if_pos hempty] at hsigning
    cases hsigning
  have hverify := verifyToken_serializeAndSign library issued request.userId d request.iss
    request.sub request.jti request.aud request.firstName request.lastName request.admin
    signingKey hsigning request.verified
  generalize verifyToken library charset key _ request.verified = outcome
    at hverify hverified ⊢
  split at hverify
  case isTrue hwindow =>
    rcases outcome with e | info
    · cases hverify
    · obtain rfl := Option.some.inj hverify
      exact ⟨hkey, not_not_intro hwindow.2, _, rfl, rfl⟩
  case isFalse =>
    rw [hverify] at hverified
    cases hverified

theorem create_of_not_rejected (hduration : parseLong (some request.duration) = .ok d)
    (hkey : charset.getBytes key ≠ []) (hwindow : ¬ Rejected library issued request d) :
    ∃ token, request.create library charset key issued = .ok token ∧ token ≠ "Expired" := by
  refine ⟨_, createJWT_eq_signedToken library charset issued request.verified request.userId
    request.duration request.iss request.sub request.aud request.jti request.firstName
    request.lastName request.admin (if_neg hkey) hduration (not_not.mp hwindow), ?_⟩
  apply signedToken_ne_expired

theorem toInt_expires_iff (issued d : Int64) :
    (wholeSeconds (issued + 1000 * 60 * 60 * 24 * d)).toInt =
        (dueTime issued d).tdiv 1000 * 1000 ↔ Fits issued d := by
  rw [toInt_wholeSeconds, toInt_expiration_eq_bmod, seconds_bmod_iff, Fits]

theorem exactExpiry_iff (hduration : parseLong (some request.duration) = .ok d) :
    ExactExpiry library charset key issued request d ↔
      charset.getBytes key = [] ∨ Rejected library issued request d ∨ Fits issued d := by
  constructor
  · intro hexact
    by_contra hnot
    obtain ⟨hkey, hwindow, hfits⟩ : charset.getBytes key ≠ [] ∧
        ¬ Rejected library issued request d ∧ ¬ Fits issued d := by
      simpa only [not_or] using hnot
    obtain ⟨token, htoken, hexpired⟩ := create_of_not_rejected hduration hkey hwindow
    obtain ⟨info, hinfo, hexpires⟩ := hexact token htoken hexpired
    obtain ⟨-, -, info', hinfo', hexpires'⟩ := create_verified hduration htoken hexpired
    obtain rfl : info = info' := Except.ok.inj (hinfo.symm.trans hinfo')
    rw [hexpires', toInt_expires_iff] at hexpires
    exact hfits hexpires
  · intro hcondition token htoken hexpired
    obtain ⟨hkey, hwindow, info, hinfo, hexpires⟩ :=
      create_verified hduration htoken hexpired
    refine ⟨info, hinfo, ?_⟩
    rw [hexpires, toInt_expires_iff]
    rcases hcondition with hempty | hrejected | hfits
    · exact absurd hempty hkey
    · exact absurd hrejected hwindow
    · exact hfits

theorem seconds_le_seconds {a b : Int} (hle : a ≤ b) :
    a.tdiv 1000 * 1000 ≤ b.tdiv 1000 * 1000 := by
  have hdiv : a.tdiv 1000 ≤ b.tdiv 1000 := Int.tdiv_le_tdiv (by decide) hle
  omega

end Tokens

/-- Where the expiry fits in 64 bits, or the check turns a wrapped one away, a token
expires when it should, and only there. Of two such tokens issued at the same time,
the one for more days does not expire first. -/
theorem token_expiry_exact_iff_fits (library : Library) (charset : Charset) (key : String)
    (issued : Int64) :
    (∀ request d, parseLong (some request.duration) = .ok d →
      (ExactExpiry library charset key issued request d ↔
        charset.getBytes key = [] ∨ Rejected library issued request d ∨ Fits issued d)) ∧
    ∀ (request request' : TokenRequest) (d d' : Int64) (token token' : String),
      parseLong (some request.duration) = .ok d → parseLong (some request'.duration) = .ok d' →
      Rejected library issued request d ∨ Fits issued d →
      Rejected library issued request' d' ∨ Fits issued d' → d ≤ d' →
      request.create library charset key issued = .ok token → token ≠ "Expired" →
      request'.create library charset key issued = .ok token' → token' ≠ "Expired" →
      ∃ info info', verifyToken library charset key token request.verified = .ok info ∧
        verifyToken library charset key token' request'.verified = .ok info' ∧
        info.expires ≤ info'.expires := by
  refine ⟨fun request d hduration => exactExpiry_iff hduration, ?_⟩
  intro request request' d d' token token' hduration hduration' hcondition hcondition' hdays
    htoken hexpired htoken' hexpired'
  obtain ⟨info, hinfo, hexpires⟩ := (exactExpiry_iff hduration).mpr (.inr hcondition)
    token htoken hexpired
  obtain ⟨info', hinfo', hexpires'⟩ := (exactExpiry_iff hduration').mpr (.inr hcondition')
    token' htoken' hexpired'
  refine ⟨info, info', hinfo, hinfo', ?_⟩
  rw [Int64.le_iff_toInt_le, hexpires, hexpires']
  apply seconds_le_seconds
  have hdays := Int64.le_iff_toInt_le.mp hdays
  unfold dueTime
  omega

def yearsAhead : TokenRequest :=
  ⟨"42", "18014398509481985", "facebook", "subject", "agent", "id", "José", "Doe", "false",
    1444608000456⟩

/-- A token for `2 ^ 54 + 1` days is handed out, and expires after one. -/
theorem not_exactExpiry_yearsAhead :
    ¬ ExactExpiry segmentLibrary utf8 "key" 1444608000123 yearsAhead 18014398509481985 := by
  have hduration : parseLong (some yearsAhead.duration) = .ok 18014398509481985 := by
    decide +kernel
  rw [exactExpiry_iff hduration]
  rintro (hempty | hrejected | hfits)
  · exact absurd hempty (by decide +kernel)
  · exact hrejected (by decide)
  · exact absurd hfits.2 (by decide)

end RestaurantServer.TokenExpiry
