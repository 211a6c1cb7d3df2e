import RestaurantServer.DiffieHellmanProvider

/-!
The class `DHKeyAgreement2`: both parties of a Diffie-Hellman exchange, each
with its own key agreement object. Output to the console is left out.
-/

namespace RestaurantServer.DHKeyAgreement2

open RestaurantServer.JavaExceptions
open RestaurantServer.JavaStrings
open RestaurantServer.ThrowingMethods
open RestaurantServer.DiffieHellmanProvider
open RestaurantServer.DiffieHellmanProvider.KeyAgreement

structure State where
  dhSkipParamSpec : Option DHParameterSpec
  aliceKeyAgree : Option KeyAgreement
  bobKeyAgree : Option KeyAgreement
  deriving DecidableEq

def new : State :=
  ⟨none, none, none⟩

def skip1024ModulusBytes : Bytes :=
  [0xF4, 0x88, 0xFD, 0x58, 0x4E, 0x49, 0xDB, 0xCD,
   0x20, 0xB4, 0x9D, 0xE4, 0x91, 0x07, 0x36, 0x6B,
   0x33, 0x6C, 0x38, 0x0D, 0x45, 0x1D, 0x0F, 0x7C,
   0x88, 0xB3, 0x1C, 0x7C, 0x5B, 0x2D, 0x8E, 0xF6,
   0xF3, 0xC9, 0x23, 0xC0, 0x43, 0xF0, 0xA5, 0x5B,
   0x18, 0x8D, 0x8E, 0xBB, 0x55, 0x8C, 0xB8, 0x5D,
   0x38, 0xD3, 0x34, 0xFD, 0x7C, 0x17, 0x57, 0x43,
   0xA3, 0x1D, 0x18, 0x6C, 0xDE, 0x33, 0x21, 0x2C,
   0xB5, 0x2A, 0xFF, 0x3C, 0xE1, 0xB1, 0x29, 0x40,
   0x18, 0x11, 0x8D, 0x7C, 0x84, 0xA7, 0x0A, 0x72,
   0xD6, 0x86, 0xC4, 0x03, 0x19, 0xC8, 0x07, 0x29,
   0x7A, 0xCA, 0x95, 0x0C, 0xD9, 0x96, 0x9F, 0xAB,
   0xD0, 0x0A, 0x50, 0x9B, 0x02, 0x46, 0xD3, 0x08,
   0x3D, 0x66, 0xA4, 0x5D, 0x41, 0x9F, 0x9C, 0x7C,
   0xBD, 0x89, 0x4B, 0x22, 0x19, 0x26, 0xBA, 0xAB,
   0xA2, 0x5E, 0xC3, 0x55, 0xE9, 0x2F, 0x78, 0xC7]

def skip1024Modulus : Nat :=
  bigEndianValue skip1024ModulusBytes

def skip1024Base : Nat := 2

/-- `generated` is what the parameter generator would draw. -/
def setup (mode : String) (generated : DHParameterSpec) :
    Method Throwable State Unit :=
  modify fun object =>
    { object with
      dhSkipParamSpec :=
        if mode = "GENERATE_DH_PARAMS" then some generated
        else some ⟨skip1024Modulus, skip1024Base⟩ }

def invalidKeySpecException : Throwable :=
  ⟨"java.security.spec.InvalidKeySpecException", none, by decide⟩

def generateKeyPair (generator : KeyPairGenerator) (params : DHParameterSpec) :
    Except Throwable (KeyPair params) :=
  match generator params with
  | some pair => .ok pair
  | none => .error (invalidAlgorithmParameterException none)

def decodePublicKey (keys : KeyFactory) (encoded : Option Bytes) :
    Except Throwable DHPublicKey := do
  let bytes ← nonNull encoded
  match keys.generatePublic bytes with
  | some key => .ok key
  | none => .error invalidKeySpecException

def onAlice {α : Type} (m : Method Throwable KeyAgreement α) :
    Method Throwable State α :=
  onField State.aliceKeyAgree
    (fun agreement object => { object with aliceKeyAgree := some agreement })
    nullPointerException m

def onBob {α : Type} (m : Method Throwable KeyAgreement α) :
    Method Throwable State α :=
  onField State.bobKeyAgree
    (fun agreement object => { object with bobKeyAgree := some agreement })
    nullPointerException m

def aliceKeyGenerate (keys : KeyFactory) (generator : KeyPairGenerator) :
    Method Throwable State Bytes := do
  let object ← get
  match object.dhSkipParamSpec with
  | none => throw (invalidAlgorithmParameterException none)
  | some params =>
      let aliceKpair ← liftExcept (generateKeyPair generator params)
      set { object with aliceKeyAgree := some (KeyAgreement.init aliceKpair) }
      pure (keys.getEncoded aliceKpair.getPublic)

/-- Bob uses the parameters of Alice's key, not those of his own setup. -/
def bobKeyGenerate (keys : KeyFactory) (generator : KeyPairGenerator)
    (alicePubKeyEnc : Option Bytes) : Method Throwable State Bytes := do
  let alicePubKey ← liftExcept (decodePublicKey keys alicePubKeyEnc)
  let bobKpair ← liftExcept (generateKeyPair generator alicePubKey.params)
  modify fun object =>
    { object with bobKeyAgree := some (KeyAgreement.init bobKpair) }
  pure (keys.getEncoded bobKpair.getPublic)

def placeholder : Bytes := [0, 0]

/-- A real secret is never mistaken for the placeholder: it is longer. -/
theorem sharedSecret_ne_placeholder {key : DHPublicKey}
    (pair : KeyPair key.params) (x : Nat) :
    sharedSecret key x ≠ placeholder := by
  intro heq
  have hlength := two_lt_sharedSecret_length pair x
  rw [heq] at hlength
  exact absurd hlength (by decide)

/-- Every failure is swallowed and answered with the placeholder. -/
def generateAliceSecretKey (keys : KeyFactory) (bobPubKeyEnc : Option Bytes) :
    Method Throwable State Bytes := do
  try
    let bobPubKey ← liftExcept (decodePublicKey keys bobPubKeyEnc)
    onAlice (doPhase bobPubKey)
    onAlice generateSecret
  catch _ =>
    pure placeholder

/-- Undecodable key material throws. A failed phase is swallowed, and so is the
failure to generate a secret that follows from it. -/
def generateBobSecretKey (keys : KeyFactory) (alicePubKeyEnc : Option Bytes) :
    Method Throwable State Bytes := do
  let alicePubKey ← liftExcept (decodePublicKey keys alicePubKeyEnc)
  try
    onBob (doPhase alicePubKey)
  catch _ =>
    pure ()
  try
    onBob generateSecret
  catch _ =>
    pure placeholder

def compareSecrets (aliceSharedSecret bobSharedSecret : Bytes) :
    Except Throwable Unit :=
  if aliceSharedSecret ≠ bobSharedSecret then
    .error ⟨"java.lang.Exception", some "Shared secrets differ", by decide⟩
  else .ok ()

def hexChars : List Char :=
  ['0', '1', '2', '3', '4', '5', '6', '7', '8',
   '9', 'A', 'B', 'C', 'D', 'E', 'F']

def arrayIndexOutOfBoundsException : Throwable :=
  ⟨"java.lang.ArrayIndexOutOfBoundsException", none, by decide⟩

def hexCharAt (index : BitVec 32) : Except Throwable Char :=
  match hexChars[index.toNat]? with
  | some c => .ok c
  | none => .error arrayIndexOutOfBoundsException

/-- The byte is widened to an `int` with its sign before it is masked. -/
def byte2hex (b : UInt8) (buf : String) : Except Throwable String := do
  let int := b.toBitVec.signExtend 32
  let high := (int &&& 0xf0#32).sshiftRight 4
  let low := int &&& 0x0f#32
  let buf := buf.push (← hexCharAt high)
  let buf := buf.push (← hexCharAt low)
  pure buf

def appendHex (len : Nat) : (i : Nat) → Bytes → String → Except Throwable String
  | _, [], buf => .ok buf
  | i, b :: block, buf => do
      let buf ← byte2hex b buf
      appendHex len (i + 1) block (if i < len - 1 then buf ++ ":" else buf)

def toHexString (block : Option Bytes) : Except Throwable String := do
  let block ← nonNull block
  appendHex block.length 0 block ""

/-- The magnitude of the `BigInteger` and its numeral do not keep the zeros in front,
so they are put back. The number of them is an `int`. -/
def toHex (array : Option Bytes) : Except Throwable String := do
  let array ← nonNull array
  let bi := bigEndianValue array
  let hex := String.ofList (Nat.toDigits 16 bi)
  let paddingLength := Int32.ofNat array.length * 2 - Int32.ofNat (utf16Length hex)
  if paddingLength > 0 then pure (paddedZero paddingLength.toNatClampNeg ++ hex)
  else pure hex

/-- A byte as two upper-case hexadecimal digits. -/
def hexDigits (b : UInt8) : Char × Char :=
  ((Nat.digitChar (b.toNat / 16)).toUpper, (Nat.digitChar (b.toNat % 16)).toUpper)

def hexPair (b : UInt8) : List Char :=
  [(hexDigits b).1, (hexDigits b).2]

def colonHex (block : Bytes) : String :=
  String.ofList ([':'].intercalate (block.map hexPair))

theorem hexCharAt_nibbles (b : BitVec 8) :
    hexCharAt ((b.signExtend 32 &&& 0xf0#32).sshiftRight 4) =
        .ok (Nat.digitChar (b.toNat / 16)).toUpper ∧
      hexCharAt (b.signExtend 32 &&& 0x0f#32) =
        .ok (Nat.digitChar (b.toNat % 16)).toUpper := by
  revert b
  decide +kernel

theorem byte2hex_eq (b : UInt8) (buf : String) :
    byte2hex b buf = .ok (buf ++ String.ofList (hexPair b)) := by
  obtain ⟨hhigh, hlow⟩ := hexCharAt_nibbles b.toBitVec
  simp only [byte2hex, hhigh, hlow, bind, Except.bind, pure, Except.pure]
  congr 1
  apply String.toList_inj.mp
  simp [hexPair, hexDigits]

theorem appendHex_eq (len i : Nat) (block : Bytes) (buf : String)
    (hlen : i + block.length = len) :
    appendHex len i block buf = .ok (buf ++ colonHex block) := by
  induction block generalizing i buf with
  | nil => simp [appendHex, colonHex]
  | cons b block ih =>
      simp only [appendHex, byte2hex_eq, bind, Except.bind]
      rw [ih (i + 1) _ (by simp only [List.length_cons] at hlen; omega)]
      congr 1
      apply String.toList_inj.mp
      cases block with
      | nil =>
          obtain rfl : i + 1 = len := hlen
          simp [colonHex]
      | cons b' block =>
          have hlast : i < len - 1 := by
            simp only [List.length_cons] at hlen
            omega
          rw [if_pos hlast]
          simp [colonHex, List.intercalate]

@[simp] theorem toHexString_none :
    toHexString none = .error nullPointerException := rfl

theorem toHexString_eq (block : Bytes) :
    toHexString (some block) = .ok (colonHex block) := by
  rw [toHexString, nonNull_some, ok_bind, appendHex_eq _ _ _ _ (Nat.zero_add _),
    String.empty_append]

theorem toHexString_ok (block : Bytes) :
    ∃ text, toHexString (some block) = .ok text :=
  ⟨_, toHexString_eq block⟩

theorem colonHex_ne_empty {block : Bytes} (hblock : block ≠ []) : colonHex block ≠ "" := by
  intro heq
  cases block with
  | nil => exact hblock rfl
  | cons b block =>
      have hempty := congrArg String.toList heq
      cases block with
      | nil => simp [colonHex, hexPair] at hempty
      | cons b' block => simp [colonHex, hexPair, List.intercalate] at hempty

/-- No agreement of the object is between a phase and its secret. -/
structure Idle (object : State) : Prop where
  alice (agreement : KeyAgreement) :
    object.aliceKeyAgree = some agreement → agreement.received = none
  bob (agreement : KeyAgreement) :
    object.bobKeyAgree = some agreement → agreement.received = none

theorem new_idle : Idle new where
  alice agreement hfield := by simp [new] at hfield
  bob agreement hfield := by simp [new] at hfield

def agreedSecret (agreement : Option KeyAgreement) (key : DHPublicKey) :
    Option Bytes :=
  match agreement with
  | none => none
  | some agreement =>
      if key.params = agreement.params ∧ key.InRange then
        some (sharedSecret key agreement.x)
      else none

theorem agreedSecret_init {params : DHParameterSpec} (pair : KeyPair params)
    {key : DHPublicKey} (hparams : key.params = params) :
    agreedSecret (some (KeyAgreement.init pair)) key =
      if key.InRange then some (sharedSecret key pair.x) else none := by
  simp [agreedSecret, KeyAgreement.init, hparams]

theorem decodePublicKey_eq_ok {keys : KeyFactory} {encoded : Option Bytes}
    {key : DHPublicKey} (hdecode : decodePublicKey keys encoded = .ok key) :
    ∃ bytes, encoded = some bytes ∧ keys.generatePublic bytes = some key := by
  cases encoded with
  | none => simp [decodePublicKey, bind, Except.bind] at hdecode
  | some bytes =>
      refine ⟨bytes, rfl, ?_⟩
      simp only [decodePublicKey, nonNull_some, bind, Except.bind] at hdecode
      split at hdecode
      · rename_i decoded hgenerate
        rw [hgenerate, Except.ok.inj hdecode]
      · simp at hdecode

@[simp] theorem decodePublicKey_getEncoded (keys : KeyFactory)
    (key : DHPublicKey) :
    decodePublicKey keys (some (keys.getEncoded key)) = .ok key := by
  simp [decodePublicKey, bind, Except.bind, keys.generatePublic_getEncoded]

theorem call_aliceKeyGenerate (keys : KeyFactory) (generator : KeyPairGenerator)
    (object : State) :
    call (aliceKeyGenerate keys generator) object =
      match object.dhSkipParamSpec with
      | none => (.error (invalidAlgorithmParameterException none), object)
      | some params =>
          match generator params with
          | none => (.error (invalidAlgorithmParameterException none), object)
          | some pair =>
              (.ok (keys.getEncoded pair.getPublic),
                { object with aliceKeyAgree := some (KeyAgreement.init pair) }) := by
  unfold aliceKeyGenerate
  cases hparams : object.dhSkipParamSpec with
  | none => simp [call_bind, hparams]
  | some params =>
      cases hpair : generator params with
      | none => simp [call_bind, hparams, generateKeyPair, hpair]
      | some pair => simp [call_bind, call_map, hparams, generateKeyPair, hpair]

theorem call_bobKeyGenerate (keys : KeyFactory) (generator : KeyPairGenerator)
    (encoded : Option Bytes) (object : State) :
    call (bobKeyGenerate keys generator encoded) object =
      match decodePublicKey keys encoded with
      | .error e => (.error e, object)
      | .ok key =>
          match generator key.params with
          | none => (.error (invalidAlgorithmParameterException none), object)
          | some pair =>
              (.ok (keys.getEncoded pair.getPublic),
                { object with bobKeyAgree := some (KeyAgreement.init pair) }) := by
  unfold bobKeyGenerate
  cases hdecode : decodePublicKey keys encoded with
  | error e => simp [call_bind]
  | ok key =>
      cases hpair : generator key.params with
      | none => simp [call_bind, generateKeyPair, hpair]
      | some pair => simp [call_bind, call_map, generateKeyPair, hpair]

/-- A secret generator on Alice's side leaves an idle object as it is, and
answers with the agreed secret or with the placeholder. -/
theorem call_generateAliceSecretKey {keys : KeyFactory} {object : State}
    (hidle : Idle object) (encoded : Option Bytes) :
    call (generateAliceSecretKey keys encoded) object =
      (.ok (match decodePublicKey keys encoded with
        | .ok key => (agreedSecret object.aliceKeyAgree key).getD placeholder
        | .error _ => placeholder), object) := by
  obtain ⟨params, alice, bob⟩ := object
  unfold generateAliceSecretKey
  cases hdecode : decodePublicKey keys encoded with
  | error e => simp [call_tryCatch, call_bind]
  | ok key =>
      cases alice with
      | none =>
          have hphase : call (onAlice (doPhase key)) ⟨params, none, bob⟩ =
              (.error nullPointerException, ⟨params, none, bob⟩) :=
            call_onField_none rfl
          simp [call_tryCatch, call_bind, hphase, agreedSecret]
      | some agreement =>
          have hreceived : agreement.received = none := hidle.alice agreement rfl
          by_cases hkey : key.params = agreement.params ∧ key.InRange
          · simp [call_tryCatch, call_bind, onAlice, call_onField_some,
              call_doPhase_accepted hkey.1 hkey.2,
              call_generateSecret_some hkey.1 hreceived, agreedSecret, hkey]
          · simp [call_tryCatch, call_bind, onAlice, call_onField_some,
              call_doPhase_rejected hkey, agreedSecret, hkey]

theorem call_generateBobSecretKey {keys : KeyFactory} {object : State}
    (hidle : Idle object) (encoded : Option Bytes) :
    call (generateBobSecretKey keys encoded) object =
      (match decodePublicKey keys encoded with
        | .ok key =>
            .ok ((agreedSecret object.bobKeyAgree key).getD placeholder)
        | .error e => .error e, object) := by
  obtain ⟨params, alice, bob⟩ := object
  unfold generateBobSecretKey
  cases hdecode : decodePublicKey keys encoded with
  | error e => simp [call_bind]
  | ok key =>
      cases bob with
      | none =>
          simp [call_tryCatch, call_bind, onBob, call_onField_none, agreedSecret]
      | some agreement =>
          have hreceived : agreement.received = none := hidle.bob agreement rfl
          by_cases hkey : key.params = agreement.params ∧ key.InRange
          · simp [call_tryCatch, call_bind, onBob, call_onField_some,
              call_doPhase_accepted hkey.1 hkey.2,
              call_generateSecret_some hkey.1 hreceived, agreedSecret, hkey]
          · simp [call_tryCatch, call_bind, onBob, call_onField_some,
              call_doPhase_rejected hkey, call_generateSecret_none hreceived,
              agreedSecret, hkey]

end RestaurantServer.DHKeyAgreement2
