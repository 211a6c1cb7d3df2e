import Mathlib.Data.Nat.Digits.Defs
import Mathlib.Data.Nat.Size
import RestaurantServer.JavaExceptions
import RestaurantServer.JavaStrings
import RestaurantServer.ThrowingMethods

/-!
Diffie-Hellman as a cryptography provider offers it: parameters, encoded
public keys, key pair generation and the key agreement object with its phases.
The encoding of public keys is left to the provider.
-/

namespace RestaurantServer.DiffieHellmanProvider

open RestaurantServer.JavaExceptions
open RestaurantServer.JavaStrings
open RestaurantServer.ThrowingMethods

def bigEndian : (length value : Nat) → Bytes
  | 0, _ => []
  | length + 1, value =>
      bigEndian length (value / 256) ++ [UInt8.ofNat (value % 256)]

@[simp] theorem bigEndian_length (length value : Nat) :
    (bigEndian length value).length = length := by
  induction length generalizing value with
  | zero => rfl
  | succ length ih => simp [bigEndian, ih]

def bigEndianValue (bytes : Bytes) : Nat :=
  bytes.foldl (fun value byte => value * 256 + byte.toNat) 0

def byteLength (value : Nat) : Nat :=
  (value.size + 7) / 8

structure DHParameterSpec where
  p : Nat
  g : Nat
  deriving DecidableEq

structure DHPublicKey where
  params : DHParameterSpec
  y : Nat
  deriving DecidableEq

def DHParameterSpec.publicKey (params : DHParameterSpec) (x : Nat) : DHPublicKey :=
  ⟨params, params.g ^ x % params.p⟩

def DHPublicKey.InRange (key : DHPublicKey) : Prop :=
  2 ≤ key.y ∧ key.y ≤ key.params.p - 2

instance (key : DHPublicKey) : Decidable key.InRange :=
  inferInstanceAs (Decidable (_ ∧ _))

/-- The X.509 encoding of public keys. Decoding undoes encoding and rejects
bytes that are no encoding. -/
structure KeyFactory where
  getEncoded : DHPublicKey → Bytes
  generatePublic : Bytes → Option DHPublicKey
  generatePublic_getEncoded (key : DHPublicKey) :
    generatePublic (getEncoded key) = some key

/-- A key pair for given parameters. The modulus has more than two bytes and
the public value lies in the accepted range. -/
structure KeyPair (params : DHParameterSpec) where
  x : Nat
  modulus : 2 ^ 16 ≤ params.p
  inRange : (params.publicKey x).InRange

def KeyPair.getPublic {params : DHParameterSpec} (pair : KeyPair params) :
    DHPublicKey :=
  params.publicKey pair.x

@[simp] theorem KeyPair.getPublic_params {params : DHParameterSpec}
    (pair : KeyPair params) : pair.getPublic.params = params := rfl

@[simp] theorem KeyPair.getPublic_inRange {params : DHParameterSpec}
    (pair : KeyPair params) : pair.getPublic.InRange :=
  pair.inRange

/-- What one use of the key pair generator does once it is initialised with
parameters: it rejects them, or it draws a key pair. -/
abbrev KeyPairGenerator := (params : DHParameterSpec) → Option (KeyPair params)

def drawing (x : Nat) : KeyPairGenerator := fun params =>
  if h : 2 ^ 16 ≤ params.p ∧ (params.publicKey x).InRange then
    some ⟨x, h.1, h.2⟩
  else none

/-- A key agreement initialised with a private key. `received` is the public
value of a completed phase for which no secret has been generated yet. -/
structure KeyAgreement where
  params : DHParameterSpec
  x : Nat
  received : Option Nat
  deriving DecidableEq

namespace KeyAgreement

def init {params : DHParameterSpec} (pair : KeyPair params) : KeyAgreement :=
  ⟨params, pair.x, none⟩

/-- The last phase. It rejects keys with other parameters and values outside
the accepted range, and a rejected key changes nothing. -/
def doPhase (key : DHPublicKey) : Method Throwable KeyAgreement Unit := do
  let agreement ← get
  if key.params = agreement.params ∧ key.InRange then
    set { agreement with received := some key.y }
  else throw (invalidKeyException none)

/-- The shared secret of the completed phase. Generating it resets the
agreement to its state after `init`. -/
def generateSecret : Method Throwable KeyAgreement Bytes := do
  let agreement ← get
  match agreement.received with
  | none => throw (illegalStateException "Key agreement has not been completed yet")
  | some y =>
      set { agreement with received := none }
      pure (bigEndian (byteLength agreement.params.p)
        (y ^ agreement.x % agreement.params.p))

def sharedSecret (key : DHPublicKey) (x : Nat) : Bytes :=
  bigEndian (byteLength key.params.p) (key.y ^ x % key.params.p)

theorem call_doPhase_accepted {agreement : KeyAgreement} {key : DHPublicKey}
    (hparams : key.params = agreement.params) (hrange : key.InRange) :
    call (doPhase key) agreement =
      (.ok (), { agreement with received := some key.y }) := by
  simp [doPhase, call_bind, hparams, hrange]

theorem call_doPhase_rejected {agreement : KeyAgreement} {key : DHPublicKey}
    (hkey : ¬ (key.params = agreement.params ∧ key.InRange)) :
    call (doPhase key) agreement = (.error (invalidKeyException none), agreement) := by
  simp [doPhase, call_bind, hkey]

theorem call_generateSecret_none {agreement : KeyAgreement}
    (hreceived : agreement.received = none) :
    call generateSecret agreement =
      (.error (illegalStateException "Key agreement has not been completed yet"),
        agreement) := by
  simp [generateSecret, call_bind, hreceived]

theorem call_generateSecret_some {agreement : KeyAgreement} {key : DHPublicKey}
    (hparams : key.params = agreement.params)
    (hreceived : agreement.received = none) :
    call generateSecret { agreement with received := some key.y } =
      (.ok (sharedSecret key agreement.x), agreement) := by
  cases agreement
  simp_all [generateSecret, call_bind, call_map, sharedSecret]

end KeyAgreement

open KeyAgreement

/-- Both exponents of an exchange under one set of parameters lead to the same
secret. -/
theorem sharedSecret_comm {params : DHParameterSpec}
    (alice bob : KeyPair params) :
    sharedSecret alice.getPublic bob.x = sharedSecret bob.getPublic alice.x := by
  simp only [sharedSecret, KeyPair.getPublic, DHParameterSpec.publicKey]
  congr 1
  rw [← Nat.pow_mod, ← Nat.pow_mod, ← Nat.pow_mul, ← Nat.pow_mul, Nat.mul_comm]

theorem two_lt_byteLength {value : Nat} (hvalue : 2 ^ 16 ≤ value) :
    2 < byteLength value := by
  have hsize : 16 < value.size := Nat.lt_size.mpr hvalue
  unfold byteLength
  omega

theorem two_lt_sharedSecret_length {key : DHPublicKey}
    (pair : KeyPair key.params) (x : Nat) :
    2 < (sharedSecret key x).length := by
  simpa [sharedSecret] using two_lt_byteLength pair.modulus

/-- A number in self-delimiting form: its base 128 digits with the top bit
set, least significant first, and a zero byte. -/
def encodeNat (value : Nat) : Bytes :=
  (Nat.digits 128 value).map (fun digit => UInt8.ofNat (digit + 128)) ++ [0]

def decodeNat (bytes : Bytes) : Option (Nat × Bytes) :=
  match bytes.dropWhile (128 ≤ ·) with
  | 0 :: rest =>
      let digits := (bytes.takeWhile (128 ≤ ·)).map fun byte => byte.toNat - 128
      some (Nat.ofDigits 128 digits, rest)
  | _ => none

theorem decodeNat_encodeNat_append (value : Nat) (rest : Bytes) :
    decodeNat (encodeNat value ++ rest) = some (value, rest) := by
  let bytes := (Nat.digits 128 value).map fun digit => UInt8.ofNat (digit + 128)
  have hlt : ∀ digit ∈ Nat.digits 128 value, digit < 128 :=
    fun _ hdigit => Nat.digits_lt_base (by omega) hdigit
  have htop : ∀ byte ∈ bytes, decide (128 ≤ byte) = true := by
    intro byte hbyte
    obtain ⟨digit, hdigit, rfl⟩ := List.mem_map.mp hbyte
    have := hlt digit hdigit
    simp only [decide_eq_true_eq, UInt8.le_iff_toNat_le, UInt8.toNat_ofNat']
    change 128 ≤ (digit + 128) % 2 ^ 8
    omega
  have hdigits : bytes.map (fun byte => byte.toNat - 128) = Nat.digits 128 value := by
    rw [List.map_map]
    conv_rhs => rw [← List.map_id (Nat.digits 128 value)]
    apply List.map_congr_left
    intro digit hdigit
    have := hlt digit hdigit
    simp only [Function.comp_apply, UInt8.toNat_ofNat', id_eq]
    omega
  have hstop : decide ((128 : UInt8) ≤ 0) = false := by decide
  change decodeNat ((bytes ++ [0]) ++ rest) = _
  simp only [decodeNat, List.append_assoc, List.cons_append, List.nil_append]
  rw [List.dropWhile_append_of_pos htop, List.takeWhile_append_of_pos htop]
  simp only [List.dropWhile_cons, List.takeWhile_cons, hstop]
  simp only [Bool.false_eq_true, if_false, List.append_nil]
  rw [hdigits, Nat.ofDigits_digits]

def base128Keys : KeyFactory where
  getEncoded key :=
    encodeNat key.params.p ++ (encodeNat key.params.g ++ encodeNat key.y)
  generatePublic bytes := do
    let (p, bytes) ← decodeNat bytes
    let (g, bytes) ← decodeNat bytes
    let (y, bytes) ← decodeNat bytes
    if bytes = [] then some ⟨⟨p, g⟩, y⟩ else none
  generatePublic_getEncoded key := by
    have hlast := decodeNat_encodeNat_append key.y []
    rw [List.append_nil] at hlast
    simp [decodeNat_encodeNat_append, hlast]

def group512 : DHParameterSpec where
  p := 0xfca682ce8e12caba26efccf7110e526db078b05edecbcd1eb4a208f3ae1617ae01f35b91a47e6df63413c5e12ed0899bcd132acd50d99151bdc43ee737592e17
  g := 0x678471b27a9cf44ee91a49c5147db1a9aaf244f05a434d6486931d2d14271b9e35030b71fd73da179069b32e2935630e1c2062354d0da20a6c416e50be794ca4

def otherGroup512 : DHParameterSpec where
  p := 0x8ea4c75760c78ea39058c4309def134cd220f1d95b76f72e4ded0b0e73b3e040bfe0a803ef87425630ef328c07f18e625f6304ee25b730744bf055f3e02890d9
  g := 0x1b14a3235fa687a966725cff4081e70bb52828b13eeb1d8bee278563b40019385c96b82b36bae4f996c72a526f7b7b25ab252d9176afe6d9bb8da66f13f6d561

end RestaurantServer.DiffieHellmanProvider
