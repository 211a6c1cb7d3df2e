import RestaurantServer.KeyExchangeClients
import RestaurantServer.SessionKeys

/-!
The key exchange of clients with a server that answers anyone. A stranger may send
the same requests: `getPrivateKey` hands out the secret of the client that posted
last, and `postBobPublicKey` puts a key of the stranger in the place of the server's.
-/

namespace RestaurantServer.KeyExchangeStrangers

open RestaurantServer.JavaExceptions
open RestaurantServer.JavaStrings
open RestaurantServer.ThrowingMethods
open RestaurantServer.DiffieHellmanProvider
open RestaurantServer.DiffieHellmanProvider.KeyAgreement
open RestaurantServer.DHKeyAgreement2
open RestaurantServer.KeyExchangeServer
open RestaurantServer.KeyExchangeClients
open RestaurantServer.RequestRuns
open RestaurantServer.HexStrings
open RestaurantServer.Charsets
open RestaurantServer.JceCipher
open RestaurantServer.AESCipher
open RestaurantServer.CryptoHelper
open RestaurantServer.SessionKeys

inductive Event (ι : Type) where
  | client (action : Action ι)
  | stranger (request : KeyRequest)

def posts : KeyRequest → Bool
  | .postAlicePublicKey _ _ _ => true
  | .postBobPublicKey _ _ => true
  | .getBobPublicKey => false
  | .getPrivateKey => false

section Events

variable {ι : Type} [DecidableEq ι] (keys : KeyFactory) (mapper : ObjectMapper)

/-- A key that a stranger posts is the last one posted, and no client's. -/
def eventStep (world : World ι) : Event ι → World ι
  | .client action => step keys mapper world action
  | .stranger request =>
      { world with
        server := handle keys mapper world.server request
        lastPost := if posts request then none else world.lastPost }

def Allowed (world : World ι) : Event ι → Prop
  | .client action => Undisturbed world action
  | .stranger _ => True

end Events

theorem handle_of_not_posts (keys : KeyFactory) (mapper : ObjectMapper) (fields : KeyFields)
    {request : KeyRequest} (hposts : posts request = false) :
    handle keys mapper fields request = fields := by
  cases request with
  | postAlicePublicKey json generated generator => cases hposts
  | postBobPublicKey json generated => cases hposts
  | getBobPublicKey => exact congrArg Prod.snd (call_getField KeyFields.bobpublickeyEnc fields)
  | getPrivateKey => exact congrArg Prod.snd (call_getField KeyFields.privateKey fields)

section Disclosure

variable {ι : Type} [DecidableEq ι] {keys : KeyFactory} {mapper : ObjectMapper}

theorem allSound_eventStep (world : World ι) (event : Event ι) (hworld : AllSound keys world)
    (hok : Allowed world event) : AllSound keys (eventStep keys mapper world event) := by
  cases event with
  | client action => exact allSound_step world action hworld hok
  | stranger request =>
      intro c
      cases hposts : posts request with
      | true =>
          refine (hworld c).overtaken ?_
          simp [eventStep, hposts]
      | false =>
          simp only [eventStep, handle_of_not_posts keys mapper world.server hposts, hposts]
          exact hworld c

/-- The secret that a client's POST led to, as long as the client waits for the key
or holds a secret. -/
def computedFor : Client → Option (Option Bytes)
  | .posted _ computed => some computed
  | .finished _ computed => some computed
  | _ => none

/-- The server still has the secret of the client that posted last. -/
def KeepsLast (world : World ι) : Prop :=
  ∀ c computed, world.lastPost = some c → computedFor (world.clients c) = some computed →
    world.server.privateKey = computed

theorem computedFor_generateKey (keys : KeyFactory) (generated : DHParameterSpec)
    (generator : KeyPairGenerator) :
    computedFor (generateKey keys generated generator) = none := by
  rw [generateKey_eq]
  cases generator generated with
  | none => rfl
  | some alice => rfl

theorem computedFor_generateSecretKey {keys : KeyFactory}
    {keyAgree : DHKeyAgreement2.State} {computed computed' : Option Bytes}
    {bobPublicKey : Except Throwable (Option Bytes)}
    (hcomputed : computedFor (generateSecretKey keys keyAgree computed bobPublicKey) =
      some computed') : computed' = computed := by
  unfold generateSecretKey at hcomputed
  split at hcomputed
  · cases hcomputed
  · split at hcomputed
    · exact (Option.some.inj hcomputed).symm
    · cases hcomputed

theorem keepsLast_step (world : World ι) (action : Action ι) (hworld : KeepsLast world) :
    KeepsLast (step keys mapper world action) := by
  cases action with
  | aliceKeyGenerate c generated generator =>
      simp only [step]
      split
      · intro other computed hlast hcomputed
        by_cases hother : other = c
        · subst hother
          simp only [Function.update_self, computedFor_generateKey] at hcomputed
          cases hcomputed
        · simp only [Function.update_of_ne hother] at hcomputed
          exact hworld other computed hlast hcomputed
      · exact hworld
  | postAlicePublicKey c generated generator =>
      simp only [step]
      split
      · intro other computed hlast hcomputed
        obtain rfl : c = other := Option.some.inj hlast
        simp only [Function.update_self, computedFor, Option.some.injEq] at hcomputed
        exact hcomputed
      · exact hworld
  | getBobPublicKey c =>
      simp only [step]
      split
      · rename_i keyAgree computed hclient
        intro other computed' hlast hcomputed
        by_cases hother : other = c
        · subst hother
          simp only [Function.update_self] at hcomputed
          obtain rfl := computedFor_generateSecretKey hcomputed
          exact hworld other computed' hlast (by rw [hclient]; rfl)
        · simp only [Function.update_of_ne hother] at hcomputed
          exact hworld other computed' hlast hcomputed
      · exact hworld

theorem keepsLast_eventStep (world : World ι) (event : Event ι) (hworld : KeepsLast world) :
    KeepsLast (eventStep keys mapper world event) := by
  cases event with
  | client action => exact keepsLast_step world action hworld
  | stranger request =>
      intro c computed hlast hcomputed
      cases hposts : posts request with
      | true => simp [eventStep, hposts] at hlast
      | false =>
          simp only [eventStep, hposts, Bool.false_eq_true, if_false] at hlast hcomputed ⊢
          rw [handle_of_not_posts keys mapper world.server hposts]
          exact hworld c computed hlast hcomputed

theorem validKey_of_encryptMessage {provider : Provider} {key message encrypted : String}
    (hencrypt : encryptMessage provider key message = .ok encrypted) :
    ValidKey (Utf8.encode key) := by
  by_contra hkey
  simp only [encryptMessage, bind_eq_ok] at hencrypt
  obtain ⟨cipher, hnew, hencrypt⟩ := hencrypt
  obtain rfl := eq_of_newWithIV hnew
  rw [getEncryptedMessage_outcome] at hencrypt
  simp [encryptedMessage, initialised, INITIAL_IV, hkey, bind, Except.bind] at hencrypt

/-- What someone who asks for the private key makes of an encrypted message. -/
def readWithPrivateKey (provider : Provider) (server : KeyFields) (encrypted : String) :
    Except Throwable String := do
  let privateKey ← (call getPrivateKey server).1
  let secret ← nonNull privateKey
  let key ← keyText secret
  decryptMessage provider utf8 key encrypted

/-- In every run in which no one else posts a key between the two requests of a
client, each client that has finished shares its secret with the server, and until the
next key is posted anyone can ask for this secret and read what the client encrypts
with it. -/
theorem strangers_read_last_client (keys : KeyFactory) (mapper : ObjectMapper)
    (events : List (Event ι))
    (hok : AllSteps (eventStep keys mapper) Allowed (World.start ι) events) :
    ∀ handled, handled <+: events → ∀ c alicesecretkey computed,
      (handled.foldl (eventStep keys mapper) (World.start ι)).clients c =
          .finished alicesecretkey computed →
        computed = some alicesecretkey ∧
        ((handled.foldl (eventStep keys mapper) (World.start ι)).lastPost = some c →
          (call getPrivateKey
            (handled.foldl (eventStep keys mapper) (World.start ι)).server).1 =
              .ok (some alicesecretkey) ∧
          ∀ provider key message encrypted, keyText alicesecretkey = .ok key →
            encryptMessage provider key message = .ok encrypted →
            readWithPrivateKey provider
              (handled.foldl (eventStep keys mapper) (World.start ι)).server encrypted =
                .ok message) := by
  intro handled hhandled c alicesecretkey computed hclient
  have hstart : AllSound keys (World.start ι) := fun _ => trivial
  have hsound := invariant_of_allSteps hstart allSound_eventStep hok handled hhandled c
  have hkeeps : KeepsLast (handled.foldl (eventStep keys mapper) (World.start ι)) :=
    invariant_foldl (by rintro c computed ⟨⟩) keepsLast_eventStep handled
  rw [hclient] at hsound
  obtain rfl : computed = some alicesecretkey := hsound
  refine ⟨rfl, fun hlast => ?_⟩
  have hfield := hkeeps c (some alicesecretkey) hlast (by rw [hclient]; rfl)
  have hprivate : (call getPrivateKey
      (handled.foldl (eventStep keys mapper) (World.start ι)).server).1 =
        .ok (some alicesecretkey) := by
    rw [getPrivateKey, call_getField, hfield]
    rfl
  refine ⟨hprivate, ?_⟩
  intro provider key message encrypted hkey hencrypt
  obtain ⟨encrypted', hencrypt', hdecrypt⟩ :=
    encryptMessage_undone provider (validKey_of_encryptMessage hencrypt) message
  obtain rfl : encrypted' = encrypted := Except.ok.inj (hencrypt'.symm.trans hencrypt)
  simp only [readWithPrivateKey, hprivate, ok_bind, nonNull_some, hkey, hdecrypt]

/-- A stranger asks for the secret while a client waits and after it has finished. -/
def listening : List (Event Unit) :=
  [.client (.aliceKeyGenerate () group512 (drawing 117)),
   .client (.postAlicePublicKey () group512 (drawing 201)),
   .stranger .getPrivateKey,
   .client (.getBobPublicKey ()),
   .stranger .getPrivateKey]

theorem strangers_read_last_client_listening :
    ∃ alicesecretkey, (call getPrivateKey (listening.foldl
      (eventStep base128Keys compactMapper) (World.start Unit)).server).1 =
        .ok (some alicesecretkey) ∧ alicesecretkey ≠ placeholder := by
  obtain ⟨⟨alice, halice⟩, ⟨bob, hbob⟩⟩ := exists_drawn group512 (.inl rfl)
  have hpost := handle_postAlicePublicKey base128Keys compactMapper alice bob group512 hbob
  have hquiet (fields : KeyFields) : handle base128Keys compactMapper fields .getPrivateKey =
      fields := handle_of_not_posts _ _ _ rfl
  refine ⟨sharedSecret bob.getPublic alice.x,
    ((strangers_read_last_client base128Keys compactMapper listening ?_ listening
      List.prefix_rfl () (sharedSecret bob.getPublic alice.x)
      (some (sharedSecret alice.getPublic bob.x)) ?_).2 ?_).1,
    sharedSecret_ne_placeholder alice alice.x⟩
  · simp only [listening, AllSteps, Allowed, Undisturbed, eventStep, step, World.start,
      generateKey_eq, halice, posts]
    simp only [Function.update_self, Client.generated.injEq]
    refine ⟨trivial, ?_, trivial, by simp, trivial, trivial⟩
    rintro _ _ params ⟨rfl, rfl⟩ hparams
    obtain rfl : group512 = params := Option.some.inj hparams
    exact Option.isSome_of_eq_some hbob
  · simp [listening, eventStep, step, World.start, generateKey_eq, halice, hpost, hquiet,
      getBobPublicKey, call_getField, Except.map, generateSecretKey_eq]
  · simp [listening, eventStep, step, World.start, generateKey_eq, halice, posts]

end Disclosure

section Substitution

variable {ι : Type} [DecidableEq ι] (keys : KeyFactory) (mapper : ObjectMapper)

/-- A client that still needs its key pair has the one that it generated. -/
def OwnKeys : Client → Prop
  | .generated alicepublickeyEnc keyAgree =>
      ∃ params, ∃ alice : KeyPair params,
        alicepublickeyEnc = keys.getEncoded alice.getPublic ∧ keyAgree = agreeing alice
  | .posted keyAgree _ => ∃ params, ∃ alice : KeyPair params, keyAgree = agreeing alice
  | _ => True

theorem ownKeys_generateKey (generated : DHParameterSpec)
    (generator : KeyPairGenerator) : OwnKeys keys (generateKey keys generated generator) := by
  rw [generateKey_eq]
  cases generator generated with
  | none => trivial
  | some alice => exact ⟨generated, alice, rfl, rfl⟩

theorem ownKeys_generateSecretKey (keyAgree : DHKeyAgreement2.State)
    (computed : Option Bytes) (bobPublicKey : Except Throwable (Option Bytes)) :
    OwnKeys keys (generateSecretKey keys keyAgree computed bobPublicKey) := by
  unfold generateSecretKey
  split
  · trivial
  · split <;> trivial

theorem ownKeys_update {world : World ι} (hworld : ∀ c, OwnKeys keys (world.clients c))
    {c : ι} {client : Client} (hclient : OwnKeys keys client) (other : ι) :
    OwnKeys keys (Function.update world.clients c client other) := by
  rcases eq_or_ne other c with rfl | hne
  · rw [Function.update_self]
    exact hclient
  · rw [Function.update_of_ne hne]
    exact hworld other

theorem ownKeys_eventStep (world : World ι) (event : Event ι)
    (hworld : ∀ c, OwnKeys keys (world.clients c)) (c : ι) :
    OwnKeys keys ((eventStep keys mapper world event).clients c) := by
  rcases event with (⟨c', generated, generator⟩ | ⟨c', generated, generator⟩ | c') | request
  · simp only [eventStep, step]
    split
    · exact ownKeys_update keys hworld (ownKeys_generateKey keys generated generator) c
    · exact hworld c
  · simp only [eventStep, step]
    split
    · rename_i alicepublickeyEnc keyAgree hclient
      have hown := hworld c'
      rw [hclient] at hown
      obtain ⟨params, alice, -, hagree⟩ := hown
      have hposted (computed : Option Bytes) : OwnKeys keys (.posted keyAgree computed) :=
        ⟨params, alice, hagree⟩
      exact ownKeys_update keys hworld (hposted _) c
    · exact hworld c
  · simp only [eventStep, step]
    split
    · exact ownKeys_update keys hworld (ownKeys_generateSecretKey keys _ _ _) c
    · exact hworld c
  · exact hworld c

/-- The events that change neither the server's keys nor what the client waits for. -/
def Quiet (c : ι) : Event ι → Prop
  | .client (.aliceKeyGenerate _ _ _) => True
  | .client (.postAlicePublicKey _ _ _) => False
  | .client (.getBobPublicKey other) => other ≠ c
  | .stranger request => posts request = false

theorem quiet_eventStep {world : World ι} {c : ι} {event : Event ι} (hquiet : Quiet c event)
    {keyAgree : DHKeyAgreement2.State} {computed : Option Bytes}
    (hclient : world.clients c = .posted keyAgree computed) :
    (eventStep keys mapper world event).clients c = .posted keyAgree computed ∧
      (eventStep keys mapper world event).server = world.server := by
  rcases event with (⟨c', generated, generator⟩ | ⟨c', generated, generator⟩ | c') | request
  · simp only [eventStep, step]
    split
    · rename_i hidle
      have hne : c ≠ c' := by
        rintro rfl
        rw [hidle] at hclient
        cases hclient
      exact ⟨(Function.update_of_ne hne _ _).trans hclient, rfl⟩
    · exact ⟨hclient, rfl⟩
  · exact hquiet.elim
  · simp only [eventStep, step]
    split
    · exact ⟨(Function.update_of_ne (Ne.symm hquiet) _ _).trans hclient, rfl⟩
    · exact ⟨hclient, rfl⟩
  · exact ⟨hclient, handle_of_not_posts keys mapper world.server hquiet⟩

theorem quiet_foldl {c : ι} {quiet : List (Event ι)} (hquiet : ∀ event ∈ quiet, Quiet c event)
    {world : World ι} {keyAgree : DHKeyAgreement2.State} {computed : Option Bytes}
    (hclient : world.clients c = .posted keyAgree computed) :
    (quiet.foldl (eventStep keys mapper) world).clients c = .posted keyAgree computed ∧
      (quiet.foldl (eventStep keys mapper) world).server = world.server := by
  induction quiet generalizing world with
  | nil => exact ⟨hclient, rfl⟩
  | cons event quiet ih =>
      obtain ⟨hstep, hserver⟩ :=
        quiet_eventStep keys mapper (hquiet event (by simp)) hclient
      obtain ⟨hrest, hserver'⟩ := ih (fun other hother => hquiet other (by simp [hother])) hstep
      exact ⟨hrest, hserver'.trans hserver⟩

def postedAsBobs (key : Bytes) (generated : DHParameterSpec) : Event ι :=
  .stranger (.postBobPublicKey (mapper.writeValueAsString ⟨some key⟩) generated)

theorem bobpublickeyEnc_postedAsBobs (world : World ι) (key : Bytes)
    (generated : DHParameterSpec) :
    (eventStep keys mapper world
      (postedAsBobs mapper key generated)).server.bobpublickeyEnc = some key := by
  rw [postedAsBobs, eventStep, handle, call_postBobPublicKey,
    mapper.readValue_writeValueAsString]

/-- In every run, if a stranger posts a key of a client's group as Bob's key while the
client waits for Bob's key, and no other key is posted before the client asks, then the
client ends with the secret that the stranger can compute from the client's key. -/
theorem stranger_takes_bobs_place (events : List (Event ι)) (c : ι)
    (keyAgree : DHKeyAgreement2.State) (computed : Option Bytes)
    (hposted : (events.foldl (eventStep keys mapper) (World.start ι)).clients c =
      .posted keyAgree computed) :
    ∃ params, ∃ alice : KeyPair params, keyAgree = agreeing alice ∧
      ∀ (eve : KeyPair params) (generated : DHParameterSpec) (quiet : List (Event ι)),
        (∀ event ∈ quiet, Quiet c event) →
        ∃ secret, secret ≠ placeholder ∧
          ((events ++ postedAsBobs mapper (keys.getEncoded eve.getPublic) generated ::
            (quiet ++ [Event.client (.getBobPublicKey c)])).foldl (eventStep keys mapper)
              (World.start ι)).clients c = .finished secret computed ∧
          (call (generateBobSecretKey keys (some (keys.getEncoded alice.getPublic)))
            ⟨none, none, some (KeyAgreement.init eve)⟩).1 = .ok secret := by
  have hstart : ∀ c, OwnKeys keys ((World.start ι).clients c) := fun _ => trivial
  have hown : ∀ c, OwnKeys keys
      ((events.foldl (eventStep keys mapper) (World.start ι)).clients c) :=
    invariant_foldl hstart (ownKeys_eventStep keys mapper) events
  replace hown := hown c
  rw [hposted] at hown
  obtain ⟨params, alice, rfl⟩ := hown
  refine ⟨params, alice, rfl, ?_⟩
  intro eve generated quiet hquiet
  refine ⟨sharedSecret eve.getPublic alice.x, sharedSecret_ne_placeholder alice alice.x, ?_, ?_⟩
  · let world := events.foldl (eventStep keys mapper) (World.start ι)
    let posted := eventStep keys mapper world
      (postedAsBobs mapper (keys.getEncoded eve.getPublic) generated)
    have hclient : posted.clients c = .posted (agreeing alice) computed := hposted
    have hserver : posted.server.bobpublickeyEnc = some (keys.getEncoded eve.getPublic) :=
      bobpublickeyEnc_postedAsBobs keys mapper world _ generated
    obtain ⟨hclient', hserver'⟩ := quiet_foldl keys mapper hquiet hclient
    rw [List.foldl_append, List.foldl_cons, List.foldl_append]
    change (step keys mapper (quiet.foldl (eventStep keys mapper) posted)
      (.getBobPublicKey c)).clients c = _
    simp only [step, hclient', Function.update_self, getBobPublicKey, call_getField, hserver',
      hserver, nonNull_some, Except.map, generateSecretKey_eq, if_true]
  · rw [call_generateBobSecretKey (idle_of_bob none eve), decodePublicKey_getEncoded]
    simp only [agreedSecret_init eve alice.getPublic_params, alice.getPublic_inRange, if_true,
      Option.getD_some, sharedSecret_comm alice eve]

/-- Another client generates its key before the first one asks for Bob's. -/
theorem stranger_takes_bobs_place_group512 :
    ∃ secret computed, secret ≠ placeholder ∧
      ([.client (.aliceKeyGenerate true group512 (drawing 117)),
        .client (.postAlicePublicKey true group512 (drawing 201)),
        postedAsBobs compactMapper (base128Keys.getEncoded (group512.publicKey 303)) group512,
        .client (.aliceKeyGenerate false otherGroup512 (drawing 117)),
        .client (.getBobPublicKey true)].foldl (eventStep base128Keys compactMapper)
          (World.start Bool)).clients true = .finished secret computed := by
  obtain ⟨⟨alice, halice⟩, ⟨bob, hbob⟩⟩ := exists_drawn group512 (.inl rfl)
  have hsome : (drawing 303 group512).isSome = true := by decide +kernel
  obtain ⟨eve, heve⟩ := Option.isSome_iff_exists.mp hsome
  have hpost := handle_postAlicePublicKey base128Keys compactMapper alice bob group512 hbob
  obtain ⟨params, alice', hagree, htaken⟩ := stranger_takes_bobs_place base128Keys compactMapper
    [.client (.aliceKeyGenerate true group512 (drawing 117)),
      .client (.postAlicePublicKey true group512 (drawing 201))] true (agreeing alice)
    (some (sharedSecret alice.getPublic bob.x)) (by
      simp [eventStep, step, World.start, generateKey_eq, halice, hpost])
  obtain rfl : group512 = params := Option.some.inj (congrArg State.dhSkipParamSpec hagree)
  have hx : eve.x = 303 := by
    unfold drawing at heve
    split at heve
    · rw [← Option.some.inj heve]
    · cases heve
  have hkey : group512.publicKey 303 = eve.getPublic := by
    rw [KeyPair.getPublic, hx]
  obtain ⟨secret, hne, hfinished, -⟩ := htaken eve group512
    [.client (.aliceKeyGenerate false otherGroup512 (drawing 117))] (by simp [Quiet])
  rw [hkey]
  exact ⟨secret, _, hne, hfinished⟩

end Substitution

end RestaurantServer.KeyExchangeStrangers
