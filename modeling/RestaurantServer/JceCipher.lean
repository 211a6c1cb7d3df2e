import RestaurantServer.BlockCipherModes
import RestaurantServer.JavaExceptions
import RestaurantServer.JavaStrings
import RestaurantServer.ThrowingMethods

/-!
A `javax.crypto.Cipher` for `AES/CBC/PKCS5Padding` as a mutable object. AES
itself is a permutation of blocks for each key, of which nothing else is known.
-/

namespace RestaurantServer.JceCipher

open RestaurantServer.JavaExceptions
open RestaurantServer.JavaStrings
open RestaurantServer.ThrowingMethods
open RestaurantServer.BlockCipherModes

inductive Mode where
  | encrypt
  | decrypt
  deriving DecidableEq

/-- A cipher after `init`: what it was initialised with, the block to chain
from, and bytes that wait for more. -/
structure Initialised where
  mode : Mode
  key : Bytes
  iv : Block
  chain : Block
  buffer : Bytes
  deriving DecidableEq

abbrev Cipher := Option Initialised

/-- The block permutation of each key, and what a `doFinal` that throws leaves
behind. -/
structure Provider where
  aes : Bytes → Equiv.Perm Block
  residue : Initialised → Bytes → Cipher

def ValidKey (key : Bytes) : Prop :=
  key.length = 16 ∨ key.length = 24 ∨ key.length = 32

instance (key : Bytes) : Decidable (ValidKey key) :=
  inferInstanceAs (Decidable (_ ∨ _ ∨ _))

def wrongIVLength : Throwable :=
  invalidAlgorithmParameterException (some "Wrong IV length: must be 16 bytes long")

def invalidKeyLength (key : Bytes) : Throwable :=
  invalidKeyException (some ("Invalid AES key length: " ++ toString key.length ++ " bytes"))

def illegalBlockSizeException : Throwable :=
  ⟨"javax.crypto.IllegalBlockSizeException",
    some "Input length must be multiple of 16 when decrypting with padded cipher",
    by decide⟩

def inputNotFullBlocks : Throwable :=
  ⟨"javax.crypto.IllegalBlockSizeException", some "Input length not multiple of 16 bytes",
    by decide⟩

def badPaddingException : Throwable :=
  ⟨"javax.crypto.BadPaddingException",
    some "Given final block not properly padded", by decide⟩

def fresh (mode : Mode) (key iv : Bytes) : Initialised :=
  ⟨mode, key, Block.ofList iv, Block.ofList iv, []⟩

def init (mode : Mode) (key iv : Bytes) : Method Throwable Cipher Unit :=
  if iv.length ≠ 16 then throw wrongIVLength
  else if ¬ ValidKey key then throw (invalidKeyLength key)
  else set (some (fresh mode key iv))

def transform (aes : Bytes → Equiv.Perm Block) (state : Initialised) (bytes : Bytes) :
    Except Throwable Bytes :=
  match state.mode with
  | .encrypt => .ok (encryptPadded (aes state.key) state.chain bytes)
  | .decrypt =>
      if bytes.length % 16 ≠ 0 then .error illegalBlockSizeException
      else
        match unpad (decryptBlocks (aes state.key) state.chain bytes) with
        | some plain => .ok plain
        | none => .error badPaddingException

/-- A `doFinal` that succeeds takes the cipher back to its state after `init`. -/
def doFinal (provider : Provider) (input : Bytes) : Method Throwable Cipher Bytes := do
  match ← get with
  | none => throw (illegalStateException "Cipher not initialized")
  | some state =>
      match transform provider.aes state (state.buffer ++ input) with
      | .ok output =>
          set (some { state with chain := state.iv, buffer := [] } : Cipher)
          pure output
      | .error e =>
          set (provider.residue state input)
          throw e

def transformNoPadding (aes : Bytes → Equiv.Perm Block) (state : Initialised)
    (bytes : Bytes) : Except Throwable Bytes :=
  if bytes.length % 16 ≠ 0 then .error inputNotFullBlocks
  else
    match state.mode with
    | .encrypt => .ok (encryptBlocks (aes state.key) state.chain bytes)
    | .decrypt => .ok (decryptBlocks (aes state.key) state.chain bytes)

/-- The `doFinal` of a cipher for `AES/CBC/NoPadding`. -/
def doFinalNoPadding (provider : Provider) (input : Bytes) :
    Method Throwable Cipher Bytes := do
  match ← get with
  | none => throw (illegalStateException "Cipher not initialized")
  | some state =>
      match transformNoPadding provider.aes state (state.buffer ++ input) with
      | .ok output =>
          set (some { state with chain := state.iv, buffer := [] } : Cipher)
          pure output
      | .error e =>
          set (provider.residue state input)
          throw e

theorem call_init {iv : Bytes} (mode : Mode) {key : Bytes} (hiv : iv.length = 16)
    (hkey : ValidKey key) (cipher : Cipher) :
    call (init mode key iv) cipher = (.ok (), some (fresh mode key iv)) := by
  simp [init, hiv, hkey]

theorem call_init_of_iv {iv : Bytes} (mode : Mode) (key : Bytes)
    (hiv : iv.length ≠ 16) (cipher : Cipher) :
    call (init mode key iv) cipher = (.error wrongIVLength, cipher) := by
  simp [init, hiv]

theorem call_init_of_key {iv key : Bytes} (mode : Mode) (hiv : iv.length = 16)
    (hkey : ¬ ValidKey key) (cipher : Cipher) :
    call (init mode key iv) cipher = (.error (invalidKeyLength key), cipher) := by
  simp [init, hiv, hkey]

theorem call_doFinal_fst (provider : Provider) (mode : Mode) (key iv input : Bytes) :
    (call (doFinal provider input) (some (fresh mode key iv))).1 =
      transform provider.aes (fresh mode key iv) input := by
  simp only [doFinal, call_bind, call_get, fresh, List.nil_append]
  cases transform provider.aes _ input with
  | ok output => simp [call_map]
  | error e => simp [call_bind]

theorem transform_decrypt_encrypt (aes : Bytes → Equiv.Perm Block)
    (key iv message : Bytes) :
    transform aes (fresh .decrypt key iv)
        (encryptPadded (aes key) (Block.ofList iv) message) = .ok message := by
  simp only [transform, fresh]
  rw [if_neg (by rw [length_encryptPadded]; decide), decryptBlocks_encryptPadded,
    unpad_pad]

/-- A provider whose permutations combine a block with the first bytes of the
key. -/
def xorProvider : Provider where
  aes key := Function.Involutive.toPerm (Block.xor · (Block.ofList key))
    fun block => Block.xor_xor_cancel block _
  residue state _ := some state

end RestaurantServer.JceCipher
