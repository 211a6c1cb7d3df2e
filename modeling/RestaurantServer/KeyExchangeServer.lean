import RestaurantServer.Base64
import RestaurantServer.DHKeyAgreement2
import RestaurantServer.RequestRuns

/-!
The endpoints of `RestaurantController` that exchange keys, and the two fields
they share: the public key last made or posted for Bob, and the secret last
computed.
-/

namespace RestaurantServer.KeyExchangeServer

open RestaurantServer.JavaExceptions
open RestaurantServer.JavaStrings
open RestaurantServer.ThrowingMethods
open RestaurantServer.DiffieHellmanProvider
open RestaurantServer.DiffieHellmanProvider.KeyAgreement
open RestaurantServer.DHKeyAgreement2
open RestaurantServer.RequestRuns

structure PublicKeyEnc where
  publicKeyEnc : Option Bytes
  deriving DecidableEq

/-- The JSON mapper on key messages. Malformed JSON throws, the text `null`
reads as `null`, and reading undoes writing. -/
structure ObjectMapper where
  readValue : String → Except Throwable (Option PublicKeyEnc)
  writeValueAsString : PublicKeyEnc → String
  readValue_writeValueAsString (message : PublicKeyEnc) :
    readValue (writeValueAsString message) = .ok (some message)

def jsonParseException : Throwable :=
  ⟨"org.codehaus.jackson.JsonParseException", none, by decide⟩

def messageStart : List Char :=
  "\x7b\"publicKeyEnc\":".toList

def messageEnd : List Char :=
  "\x7d".toList

def readField (field : List Char) : Except Throwable (Option PublicKeyEnc) :=
  if field = "null".toList then .ok (some ⟨none⟩)
  else
    let bytes := do
      let text ← field.dropPrefix? ['"']
      let text ← text.dropSuffix? ['"']
      Base64.decode (utf16 (String.ofList text))
    match bytes with
    | some bytes => .ok (some ⟨some bytes⟩)
    | none => .error jsonParseException

theorem readField_quoted (bytes : Bytes) :
    readField ('"' :: ((Base64.encode bytes).toList ++ ['"'])) =
      .ok (some ⟨some bytes⟩) := by
  have hnull : '"' :: ((Base64.encode bytes).toList ++ ['"']) ≠ "null".toList := by
    intro heq
    exact absurd (congrArg List.head? heq) (by simp)
  have hopen : ('"' :: ((Base64.encode bytes).toList ++ ['"'])).dropPrefix? ['"'] =
      some ((Base64.encode bytes).toList ++ ['"']) :=
    List.dropPrefix?_eq_some_iff.mpr ⟨['"'], rfl, by simp⟩
  have hclose : ((Base64.encode bytes).toList ++ ['"']).dropSuffix? ['"'] =
      some (Base64.encode bytes).toList :=
    List.dropSuffix?_eq_some_iff.mpr ⟨['"'], rfl, by simp⟩
  simp only [readField, if_neg hnull, hopen, hclose, bind, Option.bind,
    String.ofList_toList, Base64.decode_encode]

def writeField : Option Bytes → List Char
  | none => "null".toList
  | some bytes => '"' :: ((Base64.encode bytes).toList ++ ['"'])

theorem readField_writeField (publicKeyEnc : Option Bytes) :
    readField (writeField publicKeyEnc) = .ok (some ⟨publicKeyEnc⟩) := by
  cases publicKeyEnc with
  | none => rfl
  | some bytes => exact readField_quoted bytes

/-- The mapper on texts without optional blanks. -/
def compactMapper : ObjectMapper where
  readValue json :=
    let field := do
      let text ← json.toList.dropPrefix? messageStart
      text.dropSuffix? messageEnd
    match field with
    | some field => readField field
    | none => if json = "null" then .ok none else .error jsonParseException
  writeValueAsString message :=
    String.ofList (messageStart ++ (writeField message.publicKeyEnc ++ messageEnd))
  readValue_writeValueAsString message := by
    have hstart (text : List Char) :
        (messageStart ++ text).dropPrefix? messageStart = some text :=
      List.dropPrefix?_append_of_beq text (by simp)
    have hend (text : List Char) :
        (text ++ messageEnd).dropSuffix? messageEnd = some text :=
      List.dropSuffix?_eq_some_iff.mpr ⟨messageEnd, rfl, by simp⟩
    simp only [String.toList_ofList, hstart, hend, bind, Option.bind]
    exact readField_writeField message.publicKeyEnc

structure KeyFields where
  bobpublickeyEnc : Option Bytes
  privateKey : Option Bytes
  deriving DecidableEq

def KeyFields.initial : KeyFields :=
  ⟨none, none⟩

section Endpoints

variable (keys : KeyFactory) (mapper : ObjectMapper)

/-- `generated` and `generator` are the random choices of the request. -/
def postAlicePublicKey (json : String) (generated : DHParameterSpec)
    (generator : KeyPairGenerator) : Method Throwable KeyFields String := do
  try
    let (_, keyAgree) ← invoke (setup "GENERATE_DH_PARAMS" generated) new
    let message ← liftExcept (mapper.readValue json)
    let alicepublickeyEnc ← liftExcept (nonNull message)
    let (bobpublickeyEnc, keyAgree) ←
      invoke (bobKeyGenerate keys generator alicepublickeyEnc.publicKeyEnc) keyAgree
    modify fun fields => { fields with bobpublickeyEnc := some bobpublickeyEnc }
    let (bobsecretkey, _) ←
      invoke (generateBobSecretKey keys alicepublickeyEnc.publicKeyEnc) keyAgree
    modify fun fields => { fields with privateKey := some bobsecretkey }
    liftExcept (toHexString (some bobpublickeyEnc))
  catch _ =>
    pure ""

/-- The posted key is stored before it is decoded. The secret is generated on a
fresh object, for which Bob never generated a key. -/
def postBobPublicKey (json : String) (generated : DHParameterSpec) :
    Method Throwable KeyFields Unit := do
  try
    let (_, keyAgree) ← invoke (setup "GENERATE_DH_PARAMS" generated) new
    let message ← liftExcept (mapper.readValue json)
    let bobpublickeyEnc ← liftExcept (nonNull message)
    modify fun fields =>
      { fields with bobpublickeyEnc := bobpublickeyEnc.publicKeyEnc }
    let _ ← liftExcept (toHexString bobpublickeyEnc.publicKeyEnc)
    let (bobsecretkey, _) ←
      invoke (generateBobSecretKey keys bobpublickeyEnc.publicKeyEnc) keyAgree
    modify fun fields => { fields with privateKey := some bobsecretkey }
  catch _ =>
    pure ()

def getField (field : KeyFields → Option Bytes) :
    Method Throwable KeyFields (Option Bytes) := do
  let fields ← get
  let _ ← liftExcept (toHexString (field fields))
  pure (field fields)

def getBobPublicKey : Method Throwable KeyFields (Option Bytes) :=
  getField KeyFields.bobpublickeyEnc

def getPrivateKey : Method Throwable KeyFields (Option Bytes) :=
  getField KeyFields.privateKey

end Endpoints

def postedKey (keys : KeyFactory) (mapper : ObjectMapper) (json : String) :
    Except Throwable DHPublicKey := do
  let message ← mapper.readValue json
  let message ← nonNull message
  decodePublicKey keys message.publicKeyEnc

theorem postedKey_eq {keys : KeyFactory} {mapper : ObjectMapper} {json : String}
    {message : PublicKeyEnc} (hread : mapper.readValue json = .ok (some message)) :
    postedKey keys mapper json = decodePublicKey keys message.publicKeyEnc := by
  simp [postedKey, hread, bind, Except.bind]

theorem call_setup_new (generated : DHParameterSpec) :
    call (setup "GENERATE_DH_PARAMS" generated) new =
      (.ok (), ⟨some generated, none, none⟩) := rfl

theorem idle_of_bob (params : Option DHParameterSpec)
    {spec : DHParameterSpec} (pair : KeyPair spec) :
    Idle ⟨params, none, some (KeyAgreement.init pair)⟩ where
  alice agreement hfield := by simp at hfield
  bob agreement hfield := by
    obtain rfl : KeyAgreement.init pair = agreement := by simpa using hfield
    rfl

/-- Posting Alice's key changes nothing when the key does not decode or the
generator rejects its parameters. Otherwise both fields are replaced. -/
theorem call_postAlicePublicKey (keys : KeyFactory) (mapper : ObjectMapper)
    (json : String) (generated : DHParameterSpec) (generator : KeyPairGenerator)
    (fields : KeyFields) :
    call (postAlicePublicKey keys mapper json generated generator) fields =
      match postedKey keys mapper json with
      | .error _ => (.ok "", fields)
      | .ok key =>
          match generator key.params with
          | none => (.ok "", fields)
          | some pair =>
              (toHexString (some (keys.getEncoded pair.getPublic)),
                ⟨some (keys.getEncoded pair.getPublic),
                  some (if key.InRange then sharedSecret key pair.x
                    else placeholder)⟩) := by
  unfold postAlicePublicKey
  simp only [call_tryCatch, call_bind, call_invoke_of_ok (call_setup_new generated)]
  rcases hread : mapper.readValue json with e | message
  · simp [postedKey, hread, bind, Except.bind]
  rcases message with _ | message
  · simp [postedKey, hread, bind, Except.bind]
  rw [postedKey_eq hread]
  have hbob := call_bobKeyGenerate keys generator message.publicKeyEnc
    ⟨some generated, none, none⟩
  rcases hdecode : decodePublicKey keys message.publicKeyEnc with e | key
  · rw [hdecode] at hbob
    simp [call_invoke_of_error hbob]
  rw [hdecode] at hbob
  rcases hpair : generator key.params with _ | pair
  · simp only [hpair] at hbob
    simp [call_invoke_of_error hbob, hpair]
  simp only [hpair] at hbob
  have hsecret :
      call (generateBobSecretKey keys message.publicKeyEnc)
        ⟨some generated, none, some (KeyAgreement.init pair)⟩ = _ :=
    call_generateBobSecretKey (idle_of_bob (some generated) pair) _
  rw [hdecode] at hsecret
  obtain ⟨text, htext⟩ := toHexString_ok (keys.getEncoded pair.getPublic)
  have hagreed : (agreedSecret (some (KeyAgreement.init pair)) key).getD placeholder =
      if key.InRange then sharedSecret key pair.x else placeholder := by
    rw [agreedSecret_init pair rfl]
    split <;> rfl
  simp [call_invoke_of_ok hbob, call_invoke_of_ok hsecret, htext, hagreed, hpair]

theorem call_postBobPublicKey (keys : KeyFactory) (mapper : ObjectMapper)
    (json : String) (generated : DHParameterSpec) (fields : KeyFields) :
    call (postBobPublicKey keys mapper json generated) fields =
      (.ok (), match mapper.readValue json with
        | .ok (some message) =>
            ⟨message.publicKeyEnc,
              match decodePublicKey keys message.publicKeyEnc with
              | .ok _ => some placeholder
              | .error _ => fields.privateKey⟩
        | _ => fields) := by
  unfold postBobPublicKey
  simp only [call_tryCatch, call_bind, call_invoke_of_ok (call_setup_new generated)]
  rcases hread : mapper.readValue json with e | message
  · simp
  rcases message with _ | ⟨encoded⟩
  · simp
  rcases encoded with _ | encoded
  · simp [decodePublicKey, bind, Except.bind]
  obtain ⟨text, htext⟩ := toHexString_ok encoded
  have hsecret :
      call (generateBobSecretKey keys (some encoded)) ⟨some generated, none, none⟩ = _ :=
    call_generateBobSecretKey ⟨by simp, by simp⟩ _
  rcases hdecode : decodePublicKey keys (some encoded) with e | key
  · rw [hdecode] at hsecret
    simp [htext, hdecode, call_invoke_of_error hsecret]
  · rw [hdecode] at hsecret
    simp [htext, hdecode, agreedSecret, call_invoke_of_ok hsecret]

theorem call_getField (field : KeyFields → Option Bytes) (fields : KeyFields) :
    call (getField field) fields = ((nonNull (field fields)).map some, fields) := by
  unfold getField
  rcases hfield : field fields with _ | bytes
  · simp [call_bind, call_map, hfield, Except.map]
  · obtain ⟨text, htext⟩ := toHexString_ok bytes
    simp [call_bind, call_map, hfield, htext, Except.map]

inductive KeyRequest where
  | postAlicePublicKey (json : String) (generated : DHParameterSpec)
      (generator : KeyPairGenerator)
  | postBobPublicKey (json : String) (generated : DHParameterSpec)
  | getBobPublicKey
  | getPrivateKey

def handle (keys : KeyFactory) (mapper : ObjectMapper) (fields : KeyFields) :
    KeyRequest → KeyFields
  | .postAlicePublicKey json generated generator =>
      (call (postAlicePublicKey keys mapper json generated generator) fields).2
  | .postBobPublicKey json generated =>
      (call (postBobPublicKey keys mapper json generated) fields).2
  | .getBobPublicKey => (call getBobPublicKey fields).2
  | .getPrivateKey => (call getPrivateKey fields).2

/-- The request completed a key agreement: it posted a key that Bob's generator
accepts, and the fields hold Bob's key and the secret he shares with it. -/
def Completed (keys : KeyFactory) (mapper : ObjectMapper) (request : KeyRequest)
    (fields : KeyFields) : Prop :=
  ∃ json generated generator key, ∃ pair : KeyPair key.params,
    request = .postAlicePublicKey json generated generator ∧
    postedKey keys mapper json = .ok key ∧ key.InRange ∧
    generator key.params = some pair ∧
    fields.bobpublickeyEnc = some (keys.getEncoded pair.getPublic) ∧
    fields.privateKey = some (sharedSecret key pair.x)

/-- Either nothing was exchanged yet, or one of the requests handled so far
completed a key agreement whose key and secret both fields hold. -/
def Consistent (keys : KeyFactory) (mapper : ObjectMapper)
    (handled : List KeyRequest) (fields : KeyFields) : Prop :=
  (fields.bobpublickeyEnc = none ∧ fields.privateKey = none) ∨
    ∃ request ∈ handled, Completed keys mapper request fields

theorem Completed.privateKey_ne_placeholder {keys : KeyFactory}
    {mapper : ObjectMapper} {request : KeyRequest} {fields : KeyFields}
    (hcompleted : Completed keys mapper request fields) :
    fields.privateKey ≠ some placeholder := by
  obtain ⟨_, _, _, key, pair, _, _, _, _, _, hsecret⟩ := hcompleted
  rw [hsecret]
  simpa using sharedSecret_ne_placeholder pair pair.x

theorem Consistent.privateKey_ne_placeholder {keys : KeyFactory}
    {mapper : ObjectMapper} {handled : List KeyRequest} {fields : KeyFields}
    (hfields : Consistent keys mapper handled fields) :
    fields.privateKey ≠ some placeholder := by
  rcases hfields with ⟨_, hnone⟩ | ⟨request, _, hcompleted⟩
  · simp [hnone]
  · exact hcompleted.privateKey_ne_placeholder

theorem Consistent.mono {keys : KeyFactory} {mapper : ObjectMapper}
    {handled : List KeyRequest} {fields : KeyFields}
    (hfields : Consistent keys mapper handled fields) (request : KeyRequest) :
    Consistent keys mapper (handled ++ [request]) fields := by
  rcases hfields with hnone | ⟨earlier, hmem, hcompleted⟩
  · exact .inl hnone
  · exact .inr ⟨earlier, List.mem_append_left _ hmem, hcompleted⟩

/-- The requests after which the fields are consistent again: a key posted for
Alice lies in the accepted range, and a message for Bob cannot be read or, as
long as there is no secret, carries no key. -/
def Harmless (keys : KeyFactory) (mapper : ObjectMapper) (fields : KeyFields) :
    KeyRequest → Prop
  | .postAlicePublicKey json _ generator =>
      ∀ key, postedKey keys mapper json = .ok key →
        (generator key.params).isSome → key.InRange
  | .postBobPublicKey json _ =>
      ∀ message, mapper.readValue json = .ok (some message) →
        message.publicKeyEnc = none ∧ fields.privateKey = none
  | .getBobPublicKey => True
  | .getPrivateKey => True

section Step

variable {keys : KeyFactory} {mapper : ObjectMapper}
  {handled : List KeyRequest} {fields : KeyFields}

theorem consistent_postAlicePublicKey_iff
    (hfields : Consistent keys mapper handled fields) (json : String)
    (generated : DHParameterSpec) (generator : KeyPairGenerator) :
    Consistent keys mapper
        (handled ++ [.postAlicePublicKey json generated generator])
        (handle keys mapper fields (.postAlicePublicKey json generated generator)) ↔
      Harmless keys mapper fields (.postAlicePublicKey json generated generator) := by
  have hkept := hfields.mono (.postAlicePublicKey json generated generator)
  simp only [handle, call_postAlicePublicKey, Harmless]
  rcases hposted : postedKey keys mapper json with e | key
  · simpa using hkept
  rcases hpair : generator key.params with _ | pair
  · simpa [hpair] using hkept
  by_cases hrange : key.InRange
  · refine iff_of_true (.inr ⟨.postAlicePublicKey json generated generator,
      by simp, ?_⟩) (by simp [hpair, hrange])
    exact ⟨json, generated, generator, key, pair, rfl, hposted, hrange, hpair,
      by simp [hpair], by simp [hpair, hrange]⟩
  · refine iff_of_false ?_ (by simp [hpair, hrange])
    intro hafter
    exact hafter.privateKey_ne_placeholder (by simp [hpair, hrange])

theorem consistent_postBobPublicKey_iff
    (hfields : Consistent keys mapper handled fields) (json : String)
    (generated : DHParameterSpec) :
    Consistent keys mapper (handled ++ [.postBobPublicKey json generated])
        (handle keys mapper fields (.postBobPublicKey json generated)) ↔
      Harmless keys mapper fields (.postBobPublicKey json generated) := by
  have hkept := hfields.mono (.postBobPublicKey json generated)
  simp only [handle, call_postBobPublicKey, Harmless]
  rcases hread : mapper.readValue json with e | message
  · simpa using hkept
  rcases message with _ | message
  · simpa using hkept
  rcases hdecode : decodePublicKey keys message.publicKeyEnc with e | key
  · -- The old secret stays beside a key that decodes to nothing.
    constructor
    · rintro (⟨hbob, hsecret⟩ | ⟨_, _, _, _, _, key, pair, _, _, _, _, hbob, _⟩) read hmessage
      · obtain rfl : message = read := by simpa using hmessage
        exact ⟨by simpa using hbob, by simpa [hdecode] using hsecret⟩
      · simp only at hbob
        simp [hbob] at hdecode
    · intro hharmless
      obtain ⟨hbob, hsecret⟩ := hharmless message rfl
      exact .inl ⟨hbob, by simpa [hdecode] using hsecret⟩
  · refine iff_of_false ?_ ?_
    · intro hafter
      exact hafter.privateKey_ne_placeholder (by simp [hdecode])
    · intro hharmless
      obtain ⟨bytes, hbytes, _⟩ := decodePublicKey_eq_ok hdecode
      have hnone := (hharmless message rfl).1
      simp [hbytes] at hnone

theorem consistent_handle_iff (hfields : Consistent keys mapper handled fields)
    (request : KeyRequest) :
    Consistent keys mapper (handled ++ [request]) (handle keys mapper fields request) ↔
      Harmless keys mapper fields request := by
  cases request with
  | postAlicePublicKey json generated generator =>
      exact consistent_postAlicePublicKey_iff hfields json generated generator
  | postBobPublicKey json generated =>
      exact consistent_postBobPublicKey_iff hfields json generated
  | getBobPublicKey =>
      simp only [handle, getBobPublicKey, call_getField]
      exact iff_of_true (hfields.mono _) trivial
  | getPrivateKey =>
      simp only [handle, getPrivateKey, call_getField]
      exact iff_of_true (hfields.mono _) trivial

end Step

/-- Throughout a run the two fields hold the key and the secret of one
completed key agreement, or nothing, exactly when every request is harmless in
the state in which it arrives. -/
theorem fields_consistent_iff_harmless (keys : KeyFactory) (mapper : ObjectMapper)
    (requests : List KeyRequest) :
    (∀ handled, handled <+: requests →
      Consistent keys mapper handled
          (handled.foldl (handle keys mapper) KeyFields.initial) ∧
        (handled.foldl (handle keys mapper) KeyFields.initial).privateKey ≠
          some placeholder) ↔
      AllSteps (handle keys mapper) (Harmless keys mapper) KeyFields.initial
        requests := by
  rw [← invariant_iff_allSteps (I := Consistent keys mapper) (.inl ⟨rfl, rfl⟩)
    (fun handled fields request hfields => consistent_handle_iff hfields request)]
  constructor
  · intro hall handled hhandled
    exact (hall handled hhandled).1
  · intro hall handled hhandled
    exact ⟨hall handled hhandled, (hall handled hhandled).privateKey_ne_placeholder⟩

def postedBobKey (keys : KeyFactory) (mapper : ObjectMapper) : KeyRequest :=
  .postBobPublicKey
    (mapper.writeValueAsString ⟨some (keys.getEncoded (group512.publicKey 117))⟩)
    group512

theorem not_consistent_postedBobKey :
    ¬ ∃ (keys : KeyFactory) (mapper : ObjectMapper),
      Consistent keys mapper [postedBobKey keys mapper]
          ([postedBobKey keys mapper].foldl (handle keys mapper) KeyFields.initial) ∨
        ([postedBobKey keys mapper].foldl (handle keys mapper)
          KeyFields.initial).privateKey ≠ some placeholder := by
  rintro ⟨keys, mapper, hfields⟩
  have hsecret : ([postedBobKey keys mapper].foldl (handle keys mapper)
      KeyFields.initial).privateKey = some placeholder := by
    simp [postedBobKey, handle, call_postBobPublicKey,
      mapper.readValue_writeValueAsString]
  rcases hfields with hconsistent | hplaceholder
  · exact hconsistent.privateKey_ne_placeholder hsecret
  · exact hplaceholder hsecret

/-- The request has put a key pair of its own in place of both fields. -/
def Replaced (keys : KeyFactory) (mapper : ObjectMapper) (json : String)
    (generator : KeyPairGenerator) (fields : KeyFields) : Prop :=
  ∃ key, ∃ pair : KeyPair key.params,
    postedKey keys mapper json = .ok key ∧ generator key.params = some pair ∧
    fields.bobpublickeyEnc = some (keys.getEncoded pair.getPublic) ∧
    fields.privateKey =
      some (if key.InRange then sharedSecret key pair.x else placeholder)

/-- Posting Alice's key replaces both fields or neither, and the reply tells which.
If it is not empty, it is the key that is returned afterwards, in hexadecimal. -/
theorem postAlicePublicKey_all_or_nothing (keys : KeyFactory) (mapper : ObjectMapper)
    (hencoded : ∀ key, keys.getEncoded key ≠ []) (fields : KeyFields) (json : String)
    (generated : DHParameterSpec) (generator : KeyPairGenerator) :
    ∃ reply after,
      call (postAlicePublicKey keys mapper json generated generator) fields =
          (.ok reply, after) ∧
        (reply = "" → after = fields) ∧
        (reply ≠ "" → Replaced keys mapper json generator after ∧
          ∃ bytes, call getBobPublicKey after = (.ok (some bytes), after) ∧
            reply = colonHex bytes) := by
  have hcall := call_postAlicePublicKey keys mapper json generated generator fields
  rcases hposted : postedKey keys mapper json with e | key
  · rw [hposted] at hcall
    exact ⟨"", fields, hcall, fun _ => rfl, fun hne => absurd rfl hne⟩
  rw [hposted] at hcall
  rcases hpair : generator key.params with _ | pair
  · simp only [hpair] at hcall
    exact ⟨"", fields, hcall, fun _ => rfl, fun hne => absurd rfl hne⟩
  simp only [hpair, toHexString_eq] at hcall
  refine ⟨_, _, hcall, ?_, ?_⟩
  · intro hempty
    exact absurd hempty (colonHex_ne_empty (hencoded pair.getPublic))
  · intro _
    refine ⟨⟨key, pair, hposted, hpair, rfl, rfl⟩, keys.getEncoded pair.getPublic, ?_, rfl⟩
    rw [getBobPublicKey, call_getField]
    rfl

theorem postAlicePublicKey_all_or_nothing_group512 :
    ∃ reply after bytes,
      call (postAlicePublicKey base128Keys compactMapper
        (compactMapper.writeValueAsString
          ⟨some (base128Keys.getEncoded (group512.publicKey 117))⟩)
        otherGroup512 (drawing 201)) KeyFields.initial = (.ok reply, after) ∧
      reply ≠ "" ∧ after ≠ KeyFields.initial ∧
      call getBobPublicKey after = (.ok (some bytes), after) ∧ reply = colonHex bytes := by
  have hencoded : ∀ key, base128Keys.getEncoded key ≠ [] := by
    intro key hempty
    simp [base128Keys, encodeNat] at hempty
  obtain ⟨reply, after, hcall, hnothing, hall⟩ :=
    postAlicePublicKey_all_or_nothing base128Keys compactMapper hencoded KeyFields.initial
      (compactMapper.writeValueAsString
        ⟨some (base128Keys.getEncoded (group512.publicKey 117))⟩) otherGroup512 (drawing 201)
  have hchanged : after ≠ KeyFields.initial := by
    have hposted : postedKey base128Keys compactMapper (compactMapper.writeValueAsString
        ⟨some (base128Keys.getEncoded (group512.publicKey 117))⟩) =
          .ok (group512.publicKey 117) := by
      rw [postedKey_eq (compactMapper.readValue_writeValueAsString _),
        decodePublicKey_getEncoded]
    have hpair : (drawing 201 (group512.publicKey 117).params).isSome := by decide +kernel
    obtain ⟨pair, hpair⟩ := Option.isSome_iff_exists.mp hpair
    rw [call_postAlicePublicKey, hposted] at hcall
    simp only [hpair] at hcall
    obtain rfl := congrArg Prod.snd hcall
    rintro ⟨⟩
  have hreply : reply ≠ "" := fun hempty => hchanged (hnothing hempty)
  obtain ⟨-, bytes, hget, hhex⟩ := hall hreply
  exact ⟨reply, after, bytes, hcall, hreply, hchanged, hget, hhex⟩

end RestaurantServer.KeyExchangeServer
