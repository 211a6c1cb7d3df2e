import Mathlib.Logic.Function.Basic
import RestaurantServer.DHKeyAgreement2
import RestaurantServer.RequestRuns

/-!
Arbitrary sequences of calls on any number of `DHKeyAgreement2` objects. The
history records every call with its outcome, so that the key a party generated
last can be read off it.
-/

namespace RestaurantServer.KeyAgreementRuns

open RestaurantServer.JavaExceptions
open RestaurantServer.JavaStrings
open RestaurantServer.ThrowingMethods
open RestaurantServer.DiffieHellmanProvider
open RestaurantServer.DiffieHellmanProvider.KeyAgreement
open RestaurantServer.DHKeyAgreement2
open RestaurantServer.RequestRuns

inductive Call where
  | setup (mode : String) (generated : DHParameterSpec)
  | aliceKeyGenerate (generator : KeyPairGenerator)
  | bobKeyGenerate (generator : KeyPairGenerator) (alicePubKeyEnc : Option Bytes)
  | generateAliceSecretKey (bobPubKeyEnc : Option Bytes)
  | generateBobSecretKey (alicePubKeyEnc : Option Bytes)

/-- The method a call runs. Only `setup` returns nothing. -/
def Call.body (keys : KeyFactory) : Call → Method Throwable State (Option Bytes)
  | .setup mode generated => (fun _ => none) <$> DHKeyAgreement2.setup mode generated
  | .aliceKeyGenerate generator => some <$> DHKeyAgreement2.aliceKeyGenerate keys generator
  | .bobKeyGenerate generator encoded =>
      some <$> DHKeyAgreement2.bobKeyGenerate keys generator encoded
  | .generateAliceSecretKey encoded =>
      some <$> DHKeyAgreement2.generateAliceSecretKey keys encoded
  | .generateBobSecretKey encoded =>
      some <$> DHKeyAgreement2.generateBobSecretKey keys encoded

abbrev Outcome := Except Throwable (Option Bytes)

variable {ι : Type} [DecidableEq ι]

structure Event (ι : Type) where
  object : ι
  call : Call
  outcome : Outcome

/-- All objects, and the calls made on them so far. -/
structure World (ι : Type) where
  objects : ι → State
  history : List (Event ι)

def World.start : World ι :=
  ⟨fun _ => new, []⟩

def perform (keys : KeyFactory) (world : World ι) (request : ι × Call) : World ι :=
  let result := call (request.2.body keys) (world.objects request.1)
  { objects := Function.update world.objects request.1 result.2
    history := world.history ++ [⟨request.1, request.2, result.1⟩] }

def outcomes (keys : KeyFactory) : World ι → List (ι × Call) → List Outcome
  | _, [] => []
  | world, request :: requests =>
      (call (request.2.body keys) (world.objects request.1)).1 ::
        outcomes keys (perform keys world request) requests

def Event.aliceKey (object : ι) (event : Event ι) : Option Bytes :=
  match event.call, event.outcome with
  | .aliceKeyGenerate _, .ok key => if event.object = object then key else none
  | _, _ => none

def Event.bobKey (object : ι) (event : Event ι) : Option (Option Bytes × Bytes) :=
  match event.call, event.outcome with
  | .bobKeyGenerate _ alicePubKeyEnc, .ok (some key) =>
      if event.object = object then some (alicePubKeyEnc, key) else none
  | _, _ => none

def latestAliceKey (object : ι) (history : List (Event ι)) : Option Bytes :=
  history.reverse.findSome? (Event.aliceKey object)

def latestBobKey (object : ι) (history : List (Event ι)) :
    Option (Option Bytes × Bytes) :=
  history.reverse.findSome? (Event.bobKey object)

theorem latestAliceKey_concat (object : ι) (history : List (Event ι))
    (event : Event ι) :
    latestAliceKey object (history ++ [event]) =
      (event.aliceKey object).or (latestAliceKey object history) := by
  simp only [latestAliceKey, List.reverse_append, List.reverse_singleton,
    List.singleton_append, List.findSome?_cons]
  cases event.aliceKey object <;> rfl

theorem latestBobKey_concat (object : ι) (history : List (Event ι))
    (event : Event ι) :
    latestBobKey object (history ++ [event]) =
      (event.bobKey object).or (latestBobKey object history) := by
  simp only [latestBobKey, List.reverse_append, List.reverse_singleton,
    List.singleton_append, List.findSome?_cons]
  cases event.bobKey object <;> rfl

/-- What the history says about an object agrees with its fields. -/
structure Tracked (keys : KeyFactory) (world : World ι) (i : ι) : Prop where
  idle : Idle (world.objects i)
  alice (encoded : Bytes) : latestAliceKey i world.history = some encoded →
    ∃ params, ∃ pair : KeyPair params,
      (world.objects i).aliceKeyAgree = some (KeyAgreement.init pair) ∧
        encoded = keys.getEncoded pair.getPublic
  bob (argument : Option Bytes) (encoded : Bytes) :
    latestBobKey i world.history = some (argument, encoded) →
    ∃ key, ∃ pair : KeyPair key.params,
      decodePublicKey keys argument = .ok key ∧
        (world.objects i).bobKeyAgree = some (KeyAgreement.init pair) ∧
          encoded = keys.getEncoded pair.getPublic

theorem start_tracked (keys : KeyFactory) (i : ι) :
    Tracked keys (World.start : World ι) i where
  idle := new_idle
  alice encoded h := by simp [World.start, latestAliceKey] at h
  bob argument encoded h := by simp [World.start, latestBobKey] at h

theorem Event.aliceKey_of_ne {i : ι} {event : Event ι} (hne : event.object ≠ i) :
    event.aliceKey i = none := by
  unfold Event.aliceKey
  split <;> simp [hne]

theorem Event.bobKey_of_ne {i : ι} {event : Event ι} (hne : event.object ≠ i) :
    event.bobKey i = none := by
  unfold Event.bobKey
  split <;> simp [hne]

theorem perform_tracked_other {keys : KeyFactory} {world : World ι} {i j : ι}
    (hworld : Tracked keys world i) (hne : j ≠ i) (request : Call) :
    Tracked keys (perform keys world (j, request)) i := by
  have hobject : (perform keys world (j, request)).objects i = world.objects i := by
    simp [perform, hne.symm]
  have hevent : ∀ outcome, Event.object (⟨j, request, outcome⟩ : Event ι) ≠ i :=
    fun _ => hne
  constructor
  · rw [hobject]
    exact hworld.idle
  · intro encoded hlatest
    rw [hobject]
    apply hworld.alice
    simpa [perform, latestAliceKey_concat, Event.aliceKey_of_ne (hevent _)] using hlatest
  · intro argument encoded hlatest
    rw [hobject]
    apply hworld.bob
    simpa [perform, latestBobKey_concat, Event.bobKey_of_ne (hevent _)] using hlatest

theorem tracked_of_agreements_unchanged {keys : KeyFactory} {world : World ι}
    {i : ι} (hworld : Tracked keys world i) (request : Call)
    (halice : (call (request.body keys) (world.objects i)).2.aliceKeyAgree =
      (world.objects i).aliceKeyAgree)
    (hbob : (call (request.body keys) (world.objects i)).2.bobKeyAgree =
      (world.objects i).bobKeyAgree)
    (haliceKey : Event.aliceKey i
      ⟨i, request, (call (request.body keys) (world.objects i)).1⟩ = none)
    (hbobKey : Event.bobKey i
      ⟨i, request, (call (request.body keys) (world.objects i)).1⟩ = none) :
    Tracked keys (perform keys world (i, request)) i := by
  constructor
  · constructor
    · intro agreement hfield
      apply hworld.idle.alice
      simpa [perform, halice] using hfield
    · intro agreement hfield
      apply hworld.idle.bob
      simpa [perform, hbob] using hfield
  · intro encoded hlatest
    simp only [perform, Function.update_self, halice]
    apply hworld.alice
    simpa [perform, latestAliceKey_concat, haliceKey] using hlatest
  · intro argument encoded hlatest
    simp only [perform, Function.update_self, hbob]
    apply hworld.bob
    simpa [perform, latestBobKey_concat, hbobKey] using hlatest

/-- A call that throws and leaves its object alone changes nothing that is tracked. -/
theorem tracked_of_error {keys : KeyFactory} {world : World ι} {i : ι}
    (hworld : Tracked keys world i) {request : Call} {e : Throwable}
    (hcall : call (request.body keys) (world.objects i) = (.error e, world.objects i)) :
    Tracked keys (perform keys world (i, request)) i := by
  apply tracked_of_agreements_unchanged hworld <;>
    simp [hcall, Event.aliceKey, Event.bobKey]

theorem perform_tracked_aliceKeyGenerate {keys : KeyFactory} {world : World ι}
    {i : ι} (hworld : Tracked keys world i) (generator : KeyPairGenerator) :
    Tracked keys (perform keys world (i, .aliceKeyGenerate generator)) i := by
  have hcall := call_aliceKeyGenerate keys generator (world.objects i)
  rcases hparams : (world.objects i).dhSkipParamSpec with _ | params
  · rw [hparams] at hcall
    apply tracked_of_error hworld
    rw [Call.body, call_map, hcall]
  rw [hparams] at hcall
  rcases hpair : generator params with _ | pair
  · simp only [hpair] at hcall
    apply tracked_of_error hworld
    rw [Call.body, call_map, hcall]
  simp only [hpair] at hcall
  constructor
  · constructor
    · intro agreement hfield
      obtain rfl : KeyAgreement.init pair = agreement := by
        simpa [perform, Call.body, call_map, hcall] using hfield
      rfl
    · intro agreement hfield
      apply hworld.idle.bob
      simpa [perform, Call.body, call_map, hcall] using hfield
  · intro encoded hlatest
    refine ⟨params, pair, by simp [perform, Call.body, call_map, hcall], ?_⟩
    simpa [perform, Call.body, call_map, hcall, latestAliceKey_concat,
      Event.aliceKey, eq_comm] using hlatest
  · intro argument encoded hlatest
    have hbefore : latestBobKey i world.history = some (argument, encoded) := by
      simpa [perform, latestBobKey_concat, Event.bobKey] using hlatest
    simpa [perform, Call.body, call_map, hcall] using
      hworld.bob argument encoded hbefore

theorem perform_tracked_bobKeyGenerate {keys : KeyFactory} {world : World ι}
    {i : ι} (hworld : Tracked keys world i) (generator : KeyPairGenerator)
    (alicePubKeyEnc : Option Bytes) :
    Tracked keys (perform keys world (i, .bobKeyGenerate generator alicePubKeyEnc)) i := by
  have hcall := call_bobKeyGenerate keys generator alicePubKeyEnc (world.objects i)
  rcases hdecode : decodePublicKey keys alicePubKeyEnc with e | key
  · rw [hdecode] at hcall
    apply tracked_of_error hworld
    rw [Call.body, call_map, hcall]
  rw [hdecode] at hcall
  rcases hpair : generator key.params with _ | pair
  · simp only [hpair] at hcall
    apply tracked_of_error hworld
    rw [Call.body, call_map, hcall]
  simp only [hpair] at hcall
  constructor
  · constructor
    · intro agreement hfield
      apply hworld.idle.alice
      simpa [perform, Call.body, call_map, hcall] using hfield
    · intro agreement hfield
      obtain rfl : KeyAgreement.init pair = agreement := by
        simpa [perform, Call.body, call_map, hcall] using hfield
      rfl
  · intro encoded hlatest
    have hbefore : latestAliceKey i world.history = some encoded := by
      simpa [perform, latestAliceKey_concat, Event.aliceKey] using hlatest
    simpa [perform, Call.body, call_map, hcall] using
      hworld.alice encoded hbefore
  · intro argument encoded hlatest
    have hkey : alicePubKeyEnc = argument ∧
        keys.getEncoded pair.getPublic = encoded := by
      simpa [perform, Call.body, call_map, hcall, latestBobKey_concat,
        Event.bobKey] using hlatest
    refine ⟨key, pair, hkey.1 ▸ hdecode, ?_, hkey.2.symm⟩
    simp [perform, Call.body, call_map, hcall]

theorem perform_tracked {keys : KeyFactory} {world : World ι}
    (hworld : ∀ i, Tracked keys world i) (request : ι × Call) (i : ι) :
    Tracked keys (perform keys world request) i := by
  obtain ⟨j, request⟩ := request
  by_cases hij : j = i
  · subst j
    cases request with
    | setup mode generated =>
        apply tracked_of_agreements_unchanged (hworld i) <;>
          simp [Call.body, call_map, setup, Event.aliceKey, Event.bobKey]
    | aliceKeyGenerate generator =>
        exact perform_tracked_aliceKeyGenerate (hworld i) generator
    | bobKeyGenerate generator alicePubKeyEnc =>
        exact perform_tracked_bobKeyGenerate (hworld i) generator alicePubKeyEnc
    | generateAliceSecretKey bobPubKeyEnc =>
        apply tracked_of_agreements_unchanged (hworld i) <;>
          simp [Call.body, call_map, call_generateAliceSecretKey (hworld i).idle,
            Event.aliceKey, Event.bobKey]
    | generateBobSecretKey alicePubKeyEnc =>
        apply tracked_of_agreements_unchanged (hworld i) <;>
          rcases hdecode : decodePublicKey keys alicePubKeyEnc with e | key <;>
          simp [Call.body, call_map, call_generateBobSecretKey (hworld i).idle,
            hdecode, Event.aliceKey, Event.bobKey]
  · exact perform_tracked_other (hworld i) hij request

theorem run_tracked (keys : KeyFactory) (requests : List (ι × Call)) (i : ι) :
    Tracked keys (requests.foldl (perform keys) World.start) i :=
  invariant_foldl (I := fun world => ∀ i, Tracked keys world i)
    (start_tracked keys) (fun _ request hworld => perform_tracked hworld request)
    requests i

/-- A world in which Alice's object holds one end of an exchange and Bob's the
other. -/
structure Exchange (keys : KeyFactory) (world : World ι) (a b : ι)
    {params : DHParameterSpec} (alice bob : KeyPair params) : Prop where
  aliceIdle : Idle (world.objects a)
  bobIdle : Idle (world.objects b)
  aliceKeyAgree :
    (world.objects a).aliceKeyAgree = some (KeyAgreement.init alice)
  bobKeyAgree : (world.objects b).bobKeyAgree = some (KeyAgreement.init bob)

omit [DecidableEq ι] in
theorem Exchange.call_alice {keys : KeyFactory} {world : World ι} {a b : ι}
    {params : DHParameterSpec} {alice bob : KeyPair params}
    (hexchange : Exchange keys world a b alice bob) :
    call ((Call.generateAliceSecretKey
        (some (keys.getEncoded bob.getPublic))).body keys) (world.objects a) =
      (.ok (some (sharedSecret bob.getPublic alice.x)), world.objects a) := by
  simp [Call.body, call_map, call_generateAliceSecretKey hexchange.aliceIdle,
    hexchange.aliceKeyAgree, agreedSecret_init alice bob.getPublic_params]

omit [DecidableEq ι] in
theorem Exchange.call_bob {keys : KeyFactory} {world : World ι} {a b : ι}
    {params : DHParameterSpec} {alice bob : KeyPair params}
    (hexchange : Exchange keys world a b alice bob) :
    call ((Call.generateBobSecretKey
        (some (keys.getEncoded alice.getPublic))).body keys) (world.objects b) =
      (.ok (some (sharedSecret bob.getPublic alice.x)), world.objects b) := by
  rw [← sharedSecret_comm alice bob]
  simp [Call.body, call_map, call_generateBobSecretKey hexchange.bobIdle,
    hexchange.bobKeyAgree, agreedSecret_init bob alice.getPublic_params]

omit [DecidableEq ι] in
theorem Exchange.of_objects_eq {keys : KeyFactory} {world world' : World ι} {a b : ι}
    {params : DHParameterSpec} {alice bob : KeyPair params}
    (hexchange : Exchange keys world a b alice bob)
    (hobjects : world'.objects = world.objects) : Exchange keys world' a b alice bob := by
  constructor <;> rw [hobjects]
  · exact hexchange.aliceIdle
  · exact hexchange.bobIdle
  · exact hexchange.aliceKeyAgree
  · exact hexchange.bobKeyAgree

/-- Generating secrets with each other's keys returns the same secret each
time, and the exchange stays as it is. -/
theorem Exchange.outcomes_eq {keys : KeyFactory} {world : World ι} {a b : ι}
    {params : DHParameterSpec} {alice bob : KeyPair params}
    (hexchange : Exchange keys world a b alice bob)
    {requests : List (ι × Call)}
    (hrequests : ∀ request ∈ requests,
      request = (a, .generateAliceSecretKey (some (keys.getEncoded bob.getPublic))) ∨
      request = (b, .generateBobSecretKey (some (keys.getEncoded alice.getPublic)))) :
    outcomes keys world requests =
      List.replicate requests.length
        (.ok (some (sharedSecret bob.getPublic alice.x))) := by
  induction requests generalizing world with
  | nil => rfl
  | cons request requests ih =>
      have hrest : ∀ request ∈ requests, _ :=
        fun q hq => hrequests q (List.mem_cons_of_mem _ hq)
      rcases hrequests request List.mem_cons_self with rfl | rfl
      · have hobjects : (perform keys world (a, .generateAliceSecretKey
            (some (keys.getEncoded bob.getPublic)))).objects = world.objects := by
          simp [perform, hexchange.call_alice]
        rw [outcomes, ih (hexchange.of_objects_eq hobjects) hrest, hexchange.call_alice]
        rfl
      · have hobjects : (perform keys world (b, .generateBobSecretKey
            (some (keys.getEncoded alice.getPublic)))).objects = world.objects := by
          simp [perform, hexchange.call_bob]
        rw [outcomes, ih (hexchange.of_objects_eq hobjects) hrest, hexchange.call_bob]
        rfl

/-- The latest keys of both parties, if Bob made his for Alice's, are the two
ends of one exchange. -/
theorem exchange_of_latestKeys {keys : KeyFactory} {world : World ι} {a b : ι}
    {aliceKey bobKey : Bytes} (ha : Tracked keys world a)
    (hb : Tracked keys world b)
    (halice : latestAliceKey a world.history = some aliceKey)
    (hbob : latestBobKey b world.history = some (some aliceKey, bobKey)) :
    ∃ params, ∃ alice bob : KeyPair params,
      aliceKey = keys.getEncoded alice.getPublic ∧
      bobKey = keys.getEncoded bob.getPublic ∧
      Exchange keys world a b alice bob := by
  obtain ⟨params, alice, haliceField, rfl⟩ := ha.alice aliceKey halice
  obtain ⟨key, bob, hdecode, hbobField, rfl⟩ := hb.bob _ bobKey hbob
  rw [decodePublicKey_getEncoded] at hdecode
  obtain rfl : alice.getPublic = key := Except.ok.inj hdecode
  exact ⟨params, alice, bob, rfl, rfl, ha.idle, hb.idle, haliceField, hbobField⟩

/-- After any sequence of calls, if Bob's latest key was generated for Alice's
latest key, then the secrets both sides generate from each other's keys are one
and the same secret, however often and in whatever order they generate them. -/
theorem generated_secrets_agree (keys : KeyFactory) (requests : List (ι × Call))
    (a b : ι) (aliceKey bobKey : Bytes)
    (halice : latestAliceKey a
      (requests.foldl (perform keys) World.start).history = some aliceKey)
    (hbob : latestBobKey b
      (requests.foldl (perform keys) World.start).history =
        some (some aliceKey, bobKey)) :
    ∃ secret, secret ≠ placeholder ∧
      ∀ following : List (ι × Call),
        (∀ request ∈ following,
          request = (a, .generateAliceSecretKey (some bobKey)) ∨
          request = (b, .generateBobSecretKey (some aliceKey))) →
        outcomes keys (requests.foldl (perform keys) World.start) following =
            List.replicate following.length (.ok (some secret)) ∧
          ∀ aliceSecret bobSecret,
            .ok (some aliceSecret) ∈
              outcomes keys (requests.foldl (perform keys) World.start) following →
            .ok (some bobSecret) ∈
              outcomes keys (requests.foldl (perform keys) World.start) following →
            compareSecrets aliceSecret bobSecret = .ok () := by
  obtain ⟨params, alice, bob, rfl, rfl, hexchange⟩ :=
    exchange_of_latestKeys (run_tracked keys requests a)
      (run_tracked keys requests b) halice hbob
  have hsecret : sharedSecret bob.getPublic alice.x ≠ placeholder :=
    sharedSecret_ne_placeholder alice alice.x
  refine ⟨sharedSecret bob.getPublic alice.x, hsecret, ?_⟩
  intro following hfollowing
  have houtcomes := hexchange.outcomes_eq hfollowing
  refine ⟨houtcomes, ?_⟩
  intro aliceSecret bobSecret haliceSecret hbobSecret
  rw [houtcomes] at haliceSecret hbobSecret
  have ha := List.eq_of_mem_replicate haliceSecret
  have hb := List.eq_of_mem_replicate hbobSecret
  simp only [Except.ok.injEq, Option.some.injEq] at ha hb
  simp [compareSecrets, ha, hb]

/-- Two objects with different setups, where Bob adopts Alice's parameters
after a call with garbage. -/
def exchange512 : List (Bool × Call) :=
  [(true, .setup "GENERATE_DH_PARAMS" group512),
   (false, .setup "GENERATE_DH_PARAMS" otherGroup512),
   (false, .generateBobSecretKey (some [1, 2, 3])),
   (true, .aliceKeyGenerate (drawing 117)),
   (true, .generateAliceSecretKey (some [])),
   (false, .bobKeyGenerate (drawing 201)
     (some (base128Keys.getEncoded (group512.publicKey 117))))]

theorem generated_secrets_agree_exchange512 :
    ∃ secret, secret ≠ placeholder ∧
      outcomes base128Keys (exchange512.foldl (perform base128Keys) World.start)
        [(false, .generateBobSecretKey
            (some (base128Keys.getEncoded (group512.publicKey 117)))),
         (true, .generateAliceSecretKey
            (some (base128Keys.getEncoded (group512.publicKey 201))))] =
        [.ok (some secret), .ok (some secret)] := by
  obtain ⟨secret, hsecret, hfollowing⟩ :=
    generated_secrets_agree base128Keys exchange512 true false
      (base128Keys.getEncoded (group512.publicKey 117))
      (base128Keys.getEncoded (group512.publicKey 201))
      (by decide +kernel) (by decide +kernel)
  refine ⟨secret, hsecret, (hfollowing _ ?_).1⟩
  simp

end RestaurantServer.KeyAgreementRuns
