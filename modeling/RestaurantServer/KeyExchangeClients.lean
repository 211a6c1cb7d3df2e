import RestaurantServer.KeyExchangeServer

/-!
Clients that run `ClientMainApp.DiffieHellman` against one server. A client
ignores the answer to its POST and asks for Bob's key in a second request, so
the requests of other clients may come in between. The request for a greeting
that precedes the exchange changes nothing and is left out.
-/

namespace RestaurantServer.KeyExchangeClients

open RestaurantServer.JavaExceptions
open RestaurantServer.JavaStrings
open RestaurantServer.ThrowingMethods
open RestaurantServer.DiffieHellmanProvider
open RestaurantServer.DiffieHellmanProvider.KeyAgreement
open RestaurantServer.DHKeyAgreement2
open RestaurantServer.KeyExchangeServer
open RestaurantServer.RequestRuns

/-- Where a client is in `DiffieHellman`, with the locals it still needs.
`computed` is the server's `privateKey` as the client's own POST left it; the
client does not see it. -/
inductive Client where
  | idle
  | generated (alicepublickeyEnc : Bytes) (keyAgree : State)
  | posted (keyAgree : State) (computed : Option Bytes)
  | finished (alicesecretkey : Bytes) (computed : Option Bytes)
  | failed

/-- One server and its clients. `lastPost` is the client whose POST was handled
last. -/
structure World (ι : Type) where
  server : KeyFields
  clients : ι → Client
  lastPost : Option ι

def World.start (ι : Type) : World ι :=
  ⟨KeyFields.initial, fun _ => .idle, none⟩

inductive Action (ι : Type) where
  | aliceKeyGenerate (c : ι) (generated : DHParameterSpec)
      (generator : KeyPairGenerator)
  | postAlicePublicKey (c : ι) (generated : DHParameterSpec)
      (generator : KeyPairGenerator)
  | getBobPublicKey (c : ι)

def generateKey (keys : KeyFactory) (generated : DHParameterSpec)
    (generator : KeyPairGenerator) : Client :=
  let keyAgree := (call (setup "GENERATE_DH_PARAMS" generated) new).2
  match call (aliceKeyGenerate keys generator) keyAgree with
  | (.ok alicepublickeyEnc, keyAgree) => .generated alicepublickeyEnc keyAgree
  | (.error _, _) => .failed

def generateSecretKey (keys : KeyFactory) (keyAgree : State)
    (computed : Option Bytes) (bobPublicKey : Except Throwable (Option Bytes)) :
    Client :=
  match bobPublicKey with
  | .error _ => .failed
  | .ok bobPublicKey =>
      match (call (generateAliceSecretKey keys bobPublicKey) keyAgree).1 with
      | .ok alicesecretkey => .finished alicesecretkey computed
      | .error _ => .failed

section Steps

variable {ι : Type} [DecidableEq ι] (keys : KeyFactory) (mapper : ObjectMapper)

/-- A client acts only where its program has that action, so that every list of
actions is a run. -/
def step (world : World ι) : Action ι → World ι
  | .aliceKeyGenerate c generated generator =>
      match world.clients c with
      | .idle =>
          { world with
            clients := Function.update world.clients c
              (generateKey keys generated generator) }
      | _ => world
  | .postAlicePublicKey c generated generator =>
      match world.clients c with
      | .generated alicepublickeyEnc keyAgree =>
          let json := mapper.writeValueAsString ⟨some alicepublickeyEnc⟩
          let server := handle keys mapper world.server
            (.postAlicePublicKey json generated generator)
          { server
            clients := Function.update world.clients c
              (.posted keyAgree server.privateKey)
            lastPost := some c }
      | _ => world
  | .getBobPublicKey c =>
      match world.clients c with
      | .posted keyAgree computed =>
          { world with
            clients := Function.update world.clients c
              (generateSecretKey keys keyAgree computed
                (call getBobPublicKey world.server).1) }
      | _ => world

/-- The actions that cannot go wrong. The server can generate a key for the
parameters of a client, and no other client posts a key between the two
requests of a client. -/
def Undisturbed (world : World ι) : Action ι → Prop
  | .aliceKeyGenerate _ _ _ => True
  | .postAlicePublicKey c _ generator =>
      ∀ alicepublickeyEnc keyAgree params,
        world.clients c = .generated alicepublickeyEnc keyAgree →
        keyAgree.dhSkipParamSpec = some params → (generator params).isSome
  | .getBobPublicKey c =>
      ∀ keyAgree computed,
        world.clients c = .posted keyAgree computed → world.lastPost = some c

/-- Every client that has finished holds the secret that the server computed in
answer to its POST. -/
def SecretsAgree (world : World ι) : Prop :=
  ∀ c alicesecretkey computed,
    world.clients c = .finished alicesecretkey computed →
      computed = some alicesecretkey

end Steps

def agreeing {params : DHParameterSpec} (alice : KeyPair params) : State :=
  ⟨some params, some (KeyAgreement.init alice), none⟩

theorem agreeing_idle {params : DHParameterSpec} (alice : KeyPair params) :
    Idle (agreeing alice) where
  alice agreement hfield := by
    obtain rfl : KeyAgreement.init alice = agreement := by simpa [agreeing] using hfield
    rfl
  bob agreement hfield := by simp [agreeing] at hfield

theorem generateKey_eq (keys : KeyFactory) (generated : DHParameterSpec)
    (generator : KeyPairGenerator) :
    generateKey keys generated generator =
      match generator generated with
      | none => .failed
      | some alice => .generated (keys.getEncoded alice.getPublic) (agreeing alice) := by
  simp only [generateKey, call_setup_new, call_aliceKeyGenerate]
  cases generator generated with
  | none => rfl
  | some alice => rfl

theorem generateSecretKey_eq (keys : KeyFactory) {params other : DHParameterSpec}
    (alice : KeyPair params) (bob : KeyPair other) (computed : Option Bytes) :
    generateSecretKey keys (agreeing alice) computed
        (.ok (some (keys.getEncoded bob.getPublic))) =
      .finished (if other = params then sharedSecret bob.getPublic alice.x
        else placeholder) computed := by
  simp only [generateSecretKey, call_generateAliceSecretKey (agreeing_idle alice),
    decodePublicKey_getEncoded]
  by_cases hparams : other = params <;>
    simp [agreeing, agreedSecret, KeyAgreement.init, hparams]

theorem postedKey_writeValueAsString (keys : KeyFactory) (mapper : ObjectMapper)
    (key : DHPublicKey) :
    postedKey keys mapper
        (mapper.writeValueAsString ⟨some (keys.getEncoded key)⟩) = .ok key := by
  rw [postedKey_eq (mapper.readValue_writeValueAsString _)]
  exact decodePublicKey_getEncoded keys key

theorem handle_postAlicePublicKey (keys : KeyFactory) (mapper : ObjectMapper)
    {params : DHParameterSpec} (alice bob : KeyPair params) (generated : DHParameterSpec)
    {generator : KeyPairGenerator} (hgenerator : generator params = some bob)
    (fields : KeyFields) :
    handle keys mapper fields (.postAlicePublicKey
        (mapper.writeValueAsString ⟨some (keys.getEncoded alice.getPublic)⟩)
        generated generator) =
      ⟨some (keys.getEncoded bob.getPublic),
        some (sharedSecret alice.getPublic bob.x)⟩ := by
  have hgenerator : generator alice.getPublic.params = some bob := hgenerator
  simp only [handle, call_postAlicePublicKey, postedKey_writeValueAsString, hgenerator]
  simp

/-- What is known of a client; `last` says that its POST was the last one. -/
def Sound (keys : KeyFactory) (server : KeyFields) (last : Prop) : Client → Prop
  | .idle => True
  | .generated alicepublickeyEnc keyAgree =>
      ∃ params, ∃ alice : KeyPair params,
        alicepublickeyEnc = keys.getEncoded alice.getPublic ∧
        keyAgree = agreeing alice
  | .posted keyAgree computed =>
      ∃ params, ∃ alice : KeyPair params,
        keyAgree = agreeing alice ∧
        (last → ∃ bob : KeyPair params,
          server.bobpublickeyEnc = some (keys.getEncoded bob.getPublic) ∧
          computed = some (sharedSecret alice.getPublic bob.x))
  | .finished alicesecretkey computed => computed = some alicesecretkey
  | .failed => True

theorem Sound.overtaken {keys : KeyFactory} {server server' : KeyFields}
    {last last' : Prop} {client : Client} (hclient : Sound keys server last client)
    (hlast : ¬ last') : Sound keys server' last' client := by
  cases client with
  | posted keyAgree computed =>
      obtain ⟨params, alice, hagree, _⟩ := hclient
      exact ⟨params, alice, hagree, fun h => absurd h hlast⟩
  | idle => trivial
  | generated alicepublickeyEnc keyAgree => exact hclient
  | finished alicesecretkey computed => exact hclient
  | failed => trivial

theorem sound_generateKey (keys : KeyFactory) (server : KeyFields) (last : Prop)
    (generated : DHParameterSpec) (generator : KeyPairGenerator) :
    Sound keys server last (generateKey keys generated generator) := by
  rw [generateKey_eq]
  cases generator generated with
  | none => trivial
  | some alice => exact ⟨generated, alice, rfl, rfl⟩

section Run

variable {ι : Type} [DecidableEq ι] {keys : KeyFactory} {mapper : ObjectMapper}

def AllSound (keys : KeyFactory) (world : World ι) : Prop :=
  ∀ c, Sound keys world.server (world.lastPost = some c) (world.clients c)

theorem allSound_postAlicePublicKey {world : World ι} (hworld : AllSound keys world)
    (c : ι) (generated : DHParameterSpec) (generator : KeyPairGenerator)
    (hok : Undisturbed world (.postAlicePublicKey c generated generator)) :
    AllSound keys
      (step keys mapper world (.postAlicePublicKey c generated generator)) := by
  simp only [step]
  split
  · rename_i alicepublickeyEnc keyAgree hclient
    have hsound := hworld c
    rw [hclient] at hsound
    obtain ⟨params, alice, rfl, rfl⟩ := hsound
    obtain ⟨bob, hbob⟩ :=
      Option.isSome_iff_exists.mp (hok _ _ params hclient rfl)
    intro other
    by_cases hother : other = c
    · subst hother
      simp only [Function.update_self, handle_postAlicePublicKey keys mapper alice bob
        generated hbob]
      exact ⟨params, alice, rfl, fun _ => ⟨bob, rfl, rfl⟩⟩
    · simp only [Function.update_of_ne hother]
      refine (hworld other).overtaken ?_
      simpa using Ne.symm hother
  · exact hworld

theorem allSound_getBobPublicKey {world : World ι} (hworld : AllSound keys world)
    (c : ι) (hok : Undisturbed world (.getBobPublicKey c)) :
    AllSound keys (step keys mapper world (.getBobPublicKey c)) := by
  simp only [step]
  split
  · rename_i keyAgree computed hclient
    have hsound := hworld c
    rw [hclient] at hsound
    obtain ⟨params, alice, rfl, hlast⟩ := hsound
    obtain ⟨bob, hfield, rfl⟩ := hlast (hok _ _ hclient)
    intro other
    by_cases hother : other = c
    · subst hother
      simp only [Function.update_self, getBobPublicKey, call_getField, hfield,
        nonNull_some, Except.map, generateSecretKey_eq, if_true, Sound]
      rw [sharedSecret_comm alice bob]
    · simp only [Function.update_of_ne hother]
      exact hworld other
  · exact hworld

theorem allSound_step (world : World ι) (action : Action ι)
    (hworld : AllSound keys world) (hok : Undisturbed world action) :
    AllSound keys (step keys mapper world action) := by
  cases action with
  | aliceKeyGenerate c generated generator =>
      simp only [step]
      split
      · intro other
        by_cases hother : other = c
        · subst hother
          simp only [Function.update_self]
          exact sound_generateKey keys world.server _ generated generator
        · simp only [Function.update_of_ne hother]
          exact hworld other
      · exact hworld
  | postAlicePublicKey c generated generator =>
      exact allSound_postAlicePublicKey hworld c generated generator hok
  | getBobPublicKey c => exact allSound_getBobPublicKey hworld c hok

/-- In every run in which no other client posts a key between the two requests
of a client, each client that has finished shares its secret with the server. -/
theorem secretsAgree_of_undisturbed (keys : KeyFactory) (mapper : ObjectMapper)
    (actions : List (Action ι))
    (hok : AllSteps (step keys mapper) Undisturbed (World.start ι) actions) :
    ∀ handled, handled <+: actions →
      SecretsAgree (handled.foldl (step keys mapper) (World.start ι)) := by
  intro handled hhandled c alicesecretkey computed hclient
  have hstart : AllSound keys (World.start ι) := fun _ => trivial
  have hfinished := invariant_of_allSteps hstart allSound_step hok handled hhandled c
  rw [hclient] at hfinished
  exact hfinished

end Run

theorem exists_drawn (params : DHParameterSpec)
    (hparams : params = group512 ∨ params = otherGroup512) :
    (∃ pair, drawing 117 params = some pair) ∧ ∃ pair, drawing 201 params = some pair := by
  simp only [← Option.isSome_iff_exists]
  rcases hparams with rfl | rfl
  · decide +kernel
  · decide +kernel

/-- Two clients with different parameters, whose requests do not mix. -/
def oneAfterTheOther : List (Action Bool) :=
  [.aliceKeyGenerate true group512 (drawing 117),
   .aliceKeyGenerate false otherGroup512 (drawing 117),
   .postAlicePublicKey true group512 (drawing 201),
   .getBobPublicKey true,
   .postAlicePublicKey false group512 (drawing 201),
   .getBobPublicKey false]

theorem secretsAgree_oneAfterTheOther :
    (∃ alicesecretkey computed,
      (oneAfterTheOther.foldl (step base128Keys compactMapper)
        (World.start Bool)).clients false = .finished alicesecretkey computed) ∧
      SecretsAgree (oneAfterTheOther.foldl (step base128Keys compactMapper)
        (World.start Bool)) := by
  obtain ⟨⟨alice, halice⟩, ⟨bob, hbob⟩⟩ := exists_drawn group512 (.inl rfl)
  obtain ⟨⟨carol, hcarol⟩, ⟨dave, hdave⟩⟩ := exists_drawn otherGroup512 (.inr rfl)
  have hfirst := handle_postAlicePublicKey base128Keys compactMapper alice bob group512 hbob
  have hsecond :=
    handle_postAlicePublicKey base128Keys compactMapper carol dave group512 hdave
  constructor
  · refine ⟨sharedSecret dave.getPublic carol.x,
      some (sharedSecret carol.getPublic dave.x), ?_⟩
    simp [oneAfterTheOther, step, World.start, generateKey_eq, halice, hcarol, hfirst,
      hsecond, getBobPublicKey, call_getField, Except.map, generateSecretKey_eq]
  · refine secretsAgree_of_undisturbed base128Keys compactMapper oneAfterTheOther ?_ _
      List.prefix_rfl
    simp only [oneAfterTheOther, AllSteps, Undisturbed, step, World.start,
      generateKey_eq, halice, hcarol]
    simp only [ne_eq, Bool.false_eq_true, reduceCtorEq, not_false_eq_true,
      Function.update_of_ne, Function.update_self, Client.generated.injEq]
    refine ⟨trivial, trivial, ?_, by simp, ?_, by simp, trivial⟩
    · rintro _ _ params ⟨rfl, rfl⟩ hparams
      obtain rfl : group512 = params := Option.some.inj hparams
      exact Option.isSome_of_eq_some hbob
    · rintro _ _ params ⟨rfl, rfl⟩ hparams
      obtain rfl : otherGroup512 = params := Option.some.inj hparams
      exact Option.isSome_of_eq_some hdave

/-- Two clients with different parameters. The second one posts its key before
the first one has asked for Bob's key. -/
def overtaking : List (Action Bool) :=
  [.aliceKeyGenerate true group512 (drawing 117),
   .aliceKeyGenerate false otherGroup512 (drawing 117),
   .postAlicePublicKey true group512 (drawing 201),
   .postAlicePublicKey false group512 (drawing 201),
   .getBobPublicKey true]

theorem not_secretsAgree_overtaking :
    ¬ ∃ (keys : KeyFactory) (mapper : ObjectMapper),
      SecretsAgree (overtaking.foldl (step keys mapper) (World.start Bool)) := by
  rintro ⟨keys, mapper, hagree⟩
  obtain ⟨⟨alice, halice⟩, ⟨bob, hbob⟩⟩ := exists_drawn group512 (.inl rfl)
  obtain ⟨⟨carol, hcarol⟩, ⟨dave, hdave⟩⟩ := exists_drawn otherGroup512 (.inr rfl)
  have hother : otherGroup512 ≠ group512 := by decide
  have hfinished := hagree true placeholder
    (some (sharedSecret alice.getPublic bob.x)) (by
      simp [overtaking, step, World.start, generateKey_eq, halice, hcarol,
        handle_postAlicePublicKey keys mapper alice bob group512 hbob,
        handle_postAlicePublicKey keys mapper carol dave group512 hdave,
        getBobPublicKey, call_getField, Except.map, generateSecretKey_eq, hother])
  exact sharedSecret_ne_placeholder alice bob.x (Option.some.inj hfinished)

end RestaurantServer.KeyExchangeClients
