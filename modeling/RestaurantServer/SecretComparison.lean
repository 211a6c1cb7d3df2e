import RestaurantServer.KeyAgreementRuns

/-!
What a comparison of two generated secrets shows. Both generators answer a failed
agreement with the same two bytes, so two failures compare as equal.
-/

namespace RestaurantServer.SecretComparison

open RestaurantServer.JavaStrings
open RestaurantServer.ThrowingMethods
open RestaurantServer.DiffieHellmanProvider
open RestaurantServer.DiffieHellmanProvider.KeyAgreement
open RestaurantServer.DHKeyAgreement2
open RestaurantServer.KeyAgreementRuns
open RestaurantServer.RequestRuns

/-- The agreements of an object come from generated key pairs, and none is between
a phase and its secret. -/
structure Generated (object : State) : Prop where
  alice (agreement : KeyAgreement) : object.aliceKeyAgree = some agreement →
    ∃ params, ∃ pair : KeyPair params, agreement = KeyAgreement.init pair
  bob (agreement : KeyAgreement) : object.bobKeyAgree = some agreement →
    ∃ params, ∃ pair : KeyPair params, agreement = KeyAgreement.init pair

theorem Generated.idle {object : State} (hobject : Generated object) : Idle object where
  alice agreement hfield := by
    obtain ⟨params, pair, rfl⟩ := hobject.alice agreement hfield
    rfl
  bob agreement hfield := by
    obtain ⟨params, pair, rfl⟩ := hobject.bob agreement hfield
    rfl

theorem generated_new : Generated new where
  alice agreement hfield := by cases hfield
  bob agreement hfield := by cases hfield

theorem Generated.setAlice {object : State} (hobject : Generated object)
    {params : DHParameterSpec} (pair : KeyPair params) :
    Generated { object with aliceKeyAgree := some (KeyAgreement.init pair) } where
  alice agreement hfield := by
    cases hfield
    exact ⟨params, pair, rfl⟩
  bob := hobject.bob

theorem Generated.setBob {object : State} (hobject : Generated object)
    {params : DHParameterSpec} (pair : KeyPair params) :
    Generated { object with bobKeyAgree := some (KeyAgreement.init pair) } where
  alice := hobject.alice
  bob agreement hfield := by
    cases hfield
    exact ⟨params, pair, rfl⟩

theorem Generated.call_body {keys : KeyFactory} {object : State} (hobject : Generated object)
    (request : Call) : Generated (call (request.body keys) object).2 := by
  cases request with
  | setup mode generated =>
      rw [Call.body, state_map]
      exact ⟨hobject.alice, hobject.bob⟩
  | aliceKeyGenerate generator =>
      rw [Call.body, state_map, call_aliceKeyGenerate]
      split
      · exact hobject
      · split
        · exact hobject
        · exact hobject.setAlice _
  | bobKeyGenerate generator encoded =>
      rw [Call.body, state_map, call_bobKeyGenerate]
      split
      · exact hobject
      · split
        · exact hobject
        · exact hobject.setBob _
  | generateAliceSecretKey encoded =>
      rw [Call.body, state_map, call_generateAliceSecretKey hobject.idle]
      exact hobject
  | generateBobSecretKey encoded =>
      rw [Call.body, state_map, call_generateBobSecretKey hobject.idle]
      exact hobject

section Runs

variable {ι : Type} [DecidableEq ι]

theorem run_generated (keys : KeyFactory) (requests : List (ι × Call)) (i : ι) :
    Generated ((requests.foldl (perform keys) World.start).objects i) := by
  refine invariant_foldl (I := fun world : World ι => ∀ i, Generated (world.objects i))
    (fun _ => generated_new) ?_ requests i
  rintro world ⟨j, request⟩ hworld i
  change Generated (Function.update world.objects j _ i)
  rcases eq_or_ne i j with rfl | hne
  · rw [Function.update_self]
    exact (hworld i).call_body request
  · rw [Function.update_of_ne hne]
    exact hworld i

end Runs

/-- The phase with the given key succeeds on this agreement, and so does the
generation of the secret. -/
def Completes (keys : KeyFactory) (agreement : Option KeyAgreement) (encoded : Option Bytes)
    (secret : Bytes) : Prop :=
  ∃ initial key phased final, agreement = some initial ∧
    decodePublicKey keys encoded = .ok key ∧
    call (doPhase key) initial = (.ok (), phased) ∧
    call generateSecret phased = (.ok secret, final)

/-- There is an agreement, and the encoded key is one that it accepts. -/
def Acceptable (keys : KeyFactory) (agreement : Option KeyAgreement)
    (encoded : Option Bytes) : Prop :=
  ∃ initial key, agreement = some initial ∧ decodePublicKey keys encoded = .ok key ∧
    key.params = initial.params ∧ key.InRange

section Agreements

variable {keys : KeyFactory} {encoded : Option Bytes}

theorem Completes.acceptable {agreement : Option KeyAgreement} {secret : Bytes}
    (hcompletes : Completes keys agreement encoded secret) :
    Acceptable keys agreement encoded := by
  obtain ⟨initial, key, phased, final, hagreement, hdecode, hphase, -⟩ := hcompletes
  by_contra hnot
  have hrejected : ¬ (key.params = initial.params ∧ key.InRange) := by
    rintro ⟨hparams, hrange⟩
    exact hnot ⟨initial, key, hagreement, hdecode, hparams, hrange⟩
  rw [call_doPhase_rejected hrejected] at hphase
  cases hphase

/-- An acceptable key leads to a secret that is not the placeholder. -/
theorem Acceptable.completes {agreement : Option KeyAgreement}
    (hacceptable : Acceptable keys agreement encoded)
    (hgenerated : ∀ initial, agreement = some initial →
      ∃ params, ∃ pair : KeyPair params, initial = KeyAgreement.init pair) :
    ∃ key secret, decodePublicKey keys encoded = .ok key ∧
      agreedSecret agreement key = some secret ∧ secret ≠ placeholder ∧
      Completes keys agreement encoded secret := by
  obtain ⟨initial, key, rfl, hdecode, hparams, hrange⟩ := hacceptable
  obtain ⟨params, pair, rfl⟩ := hgenerated initial rfl
  obtain rfl : key.params = params := hparams
  refine ⟨key, sharedSecret key pair.x, hdecode, ?_, sharedSecret_ne_placeholder pair pair.x, ?_⟩
  · rw [agreedSecret_init pair rfl, if_pos hrange]
  · exact ⟨_, key, _, _, rfl, hdecode, call_doPhase_accepted rfl hrange,
      call_generateSecret_some rfl rfl⟩

theorem agreedSecret_eq_none {agreement : Option KeyAgreement} {key : DHPublicKey}
    (hnot : ¬ Acceptable keys agreement encoded)
    (hdecode : decodePublicKey keys encoded = .ok key) : agreedSecret agreement key = none := by
  cases agreement with
  | none => rfl
  | some initial =>
      refine if_neg ?_
      rintro ⟨hparams, hrange⟩
      exact hnot ⟨initial, key, rfl, hdecode, hparams, hrange⟩

end Agreements

section Sides

variable {keys : KeyFactory} {encoded : Option Bytes} {object : State}

theorem aliceSecret_of_acceptable (hobject : Generated object)
    (hacceptable : Acceptable keys object.aliceKeyAgree encoded) :
    ∃ secret, (call (generateAliceSecretKey keys encoded) object).1 = .ok secret ∧
      secret ≠ placeholder ∧ Completes keys object.aliceKeyAgree encoded secret := by
  obtain ⟨key, secret, hdecode, hagreed, hne, hcompletes⟩ :=
    hacceptable.completes hobject.alice
  refine ⟨secret, ?_, hne, hcompletes⟩
  rw [call_generateAliceSecretKey hobject.idle, hdecode]
  simp only [hagreed]
  rfl

theorem aliceSecret_of_not_acceptable (hobject : Generated object)
    (hnot : ¬ Acceptable keys object.aliceKeyAgree encoded) :
    (call (generateAliceSecretKey keys encoded) object).1 = .ok placeholder := by
  rw [call_generateAliceSecretKey hobject.idle]
  cases hdecode : decodePublicKey keys encoded with
  | error e => rfl
  | ok key =>
      simp only [agreedSecret_eq_none hnot hdecode]
      rfl

theorem bobSecret_of_acceptable (hobject : Generated object)
    (hacceptable : Acceptable keys object.bobKeyAgree encoded) :
    ∃ secret, (call (generateBobSecretKey keys encoded) object).1 = .ok secret ∧
      secret ≠ placeholder ∧ Completes keys object.bobKeyAgree encoded secret := by
  obtain ⟨key, secret, hdecode, hagreed, hne, hcompletes⟩ :=
    hacceptable.completes hobject.bob
  refine ⟨secret, ?_, hne, hcompletes⟩
  rw [call_generateBobSecretKey hobject.idle, hdecode]
  simp only [hagreed]
  rfl

theorem bobSecret_of_not_acceptable (hobject : Generated object) {key : DHPublicKey}
    (hdecode : decodePublicKey keys encoded = .ok key)
    (hnot : ¬ Acceptable keys object.bobKeyAgree encoded) :
    (call (generateBobSecretKey keys encoded) object).1 = .ok placeholder := by
  rw [call_generateBobSecretKey hobject.idle, hdecode]
  simp only [agreedSecret_eq_none hnot hdecode]
  rfl

theorem decodes_of_bobSecret (hobject : Generated object) {secret : Bytes}
    (hsecret : (call (generateBobSecretKey keys encoded) object).1 = .ok secret) :
    ∃ key, decodePublicKey keys encoded = .ok key := by
  rw [call_generateBobSecretKey hobject.idle] at hsecret
  cases hdecode : decodePublicKey keys encoded with
  | error e =>
      rw [hdecode] at hsecret
      cases hsecret
  | ok key => exact ⟨key, rfl⟩

end Sides

theorem compareSecrets_eq_ok {aliceSharedSecret bobSharedSecret : Bytes} :
    compareSecrets aliceSharedSecret bobSharedSecret = .ok () ↔
      aliceSharedSecret = bobSharedSecret := by
  rw [compareSecrets]
  split
  case isTrue hne => exact iff_of_false (by rintro ⟨⟩) hne
  case isFalse heq => exact iff_of_true rfl (not_not.mp heq)

/-- If the secrets that both sides generate compare as equal, both sides completed
their agreement in generating them. -/
def ComparisonSound (keys : KeyFactory) (alice bob : State)
    (bobPubKeyEnc alicePubKeyEnc : Option Bytes) : Prop :=
  ∀ aliceSecret bobSecret,
    (call (generateAliceSecretKey keys bobPubKeyEnc) alice).1 = .ok aliceSecret →
    (call (generateBobSecretKey keys alicePubKeyEnc) bob).1 = .ok bobSecret →
    compareSecrets aliceSecret bobSecret = .ok () →
    Completes keys alice.aliceKeyAgree bobPubKeyEnc aliceSecret ∧
      Completes keys bob.bobKeyAgree alicePubKeyEnc bobSecret

/-- Bob throws because he cannot decode what he gets, or one side at least gets a
key that it accepts. -/
def NotBothRefused (keys : KeyFactory) (alice bob : State)
    (bobPubKeyEnc alicePubKeyEnc : Option Bytes) : Prop :=
  (∀ key, decodePublicKey keys alicePubKeyEnc ≠ .ok key) ∨
    Acceptable keys alice.aliceKeyAgree bobPubKeyEnc ∨
    Acceptable keys bob.bobKeyAgree alicePubKeyEnc

theorem comparisonSound_iff {keys : KeyFactory} {alice bob : State} (halice : Generated alice)
    (hbob : Generated bob) (bobPubKeyEnc alicePubKeyEnc : Option Bytes) :
    ComparisonSound keys alice bob bobPubKeyEnc alicePubKeyEnc ↔
      NotBothRefused keys alice bob bobPubKeyEnc alicePubKeyEnc := by
  constructor
  · intro hsound
    by_contra hrefused
    simp only [NotBothRefused, not_or, not_forall, not_not] at hrefused
    obtain ⟨⟨key, hdecode⟩, haliceNot, hbobNot⟩ := hrefused
    have hboth := hsound placeholder placeholder
      (aliceSecret_of_not_acceptable halice haliceNot)
      (bobSecret_of_not_acceptable hbob hdecode hbobNot) (compareSecrets_eq_ok.mpr rfl)
    exact haliceNot hboth.1.acceptable
  · intro hcondition aliceSecret bobSecret haliceSecret hbobSecret hequal
    obtain rfl := compareSecrets_eq_ok.mp hequal
    obtain ⟨key, hdecode⟩ := decodes_of_bobSecret hbob hbobSecret
    by_cases haliceOk : Acceptable keys alice.aliceKeyAgree bobPubKeyEnc
    · obtain ⟨secret, hsecret, hne, hcompletes⟩ := aliceSecret_of_acceptable halice haliceOk
      obtain rfl : secret = aliceSecret := Except.ok.inj (hsecret.symm.trans haliceSecret)
      by_cases hbobOk : Acceptable keys bob.bobKeyAgree alicePubKeyEnc
      · obtain ⟨secret', hsecret', -, hcompletes'⟩ := bobSecret_of_acceptable hbob hbobOk
        obtain rfl : secret' = secret := Except.ok.inj (hsecret'.symm.trans hbobSecret)
        exact ⟨hcompletes, hcompletes'⟩
      · have hplaceholder := bobSecret_of_not_acceptable hbob hdecode hbobOk
        exact absurd (Except.ok.inj (hbobSecret.symm.trans hplaceholder)) hne
    · -- Alice's secret is the placeholder, so Bob's is not a secret either.
      have hplaceholder := aliceSecret_of_not_acceptable halice haliceOk
      obtain rfl := Except.ok.inj (hplaceholder.symm.trans haliceSecret)
      rcases hcondition with hundecodable | haccepted | hbobOk
      · exact absurd hdecode (hundecodable key)
      · exact absurd haccepted haliceOk
      · obtain ⟨secret, hsecret, hne, -⟩ := bobSecret_of_acceptable hbob hbobOk
        exact absurd (Except.ok.inj (hsecret.symm.trans hbobSecret)) hne

/-- In whatever states two objects are after any calls, equal secrets mean that
both sides completed their agreement, exactly when not both sides get a key that
they cannot accept. -/
theorem comparison_sound_iff_not_both_refused {ι : Type} [DecidableEq ι] (keys : KeyFactory)
    (requests requests' : List (ι × Call)) (a b : ι)
    (bobPubKeyEnc alicePubKeyEnc : Option Bytes) :
    ComparisonSound keys ((requests.foldl (perform keys) World.start).objects a)
        ((requests'.foldl (perform keys) World.start).objects b) bobPubKeyEnc
        alicePubKeyEnc ↔
      NotBothRefused keys ((requests.foldl (perform keys) World.start).objects a)
        ((requests'.foldl (perform keys) World.start).objects b) bobPubKeyEnc
        alicePubKeyEnc :=
  comparisonSound_iff (run_generated keys requests a) (run_generated keys requests' b)
    bobPubKeyEnc alicePubKeyEnc

/-- Neither side has generated a key, and yet their secrets compare as equal. -/
theorem not_comparisonSound_new :
    ¬ ComparisonSound base128Keys ((([] : List (Unit × Call)).foldl (perform base128Keys)
        World.start).objects ()) ((([] : List (Unit × Call)).foldl (perform base128Keys)
        World.start).objects ()) (some (base128Keys.getEncoded (group512.publicKey 201)))
      (some (base128Keys.getEncoded (group512.publicKey 117))) := by
  intro hsound
  have hboth := hsound placeholder placeholder
    (aliceSecret_of_not_acceptable generated_new (by rintro ⟨_, _, ⟨⟩, _⟩))
    (bobSecret_of_not_acceptable generated_new (decodePublicKey_getEncoded _ _)
      (by rintro ⟨_, _, ⟨⟩, _⟩)) (compareSecrets_eq_ok.mpr rfl)
  obtain ⟨_, _, ⟨⟩, -⟩ := hboth.1.acceptable

end RestaurantServer.SecretComparison
