import Mathlib.Data.List.GetD
import Mathlib.Data.List.OfFn
import Mathlib.Data.UInt
import Mathlib.Logic.Equiv.Basic
import Mathlib.Tactic.Common

/-!
Cipher block chaining over a permutation of blocks, and the padding of byte
strings to whole blocks of sixteen bytes.
-/

namespace RestaurantServer.BlockCipherModes

section Chaining

variable {β : Type} (xor : β → β → β) (permutation : Equiv.Perm β)

/-- Each block is combined with the previous block of the result. -/
def cbcEncrypt : (chain : β) → List β → List β
  | _, [] => []
  | chain, block :: blocks =>
      permutation (xor block chain) ::
        cbcEncrypt (permutation (xor block chain)) blocks

def cbcDecrypt : (chain : β) → List β → List β
  | _, [] => []
  | chain, block :: blocks =>
      xor (permutation.symm block) chain :: cbcDecrypt block blocks

@[simp] theorem length_cbcEncrypt (chain : β) (blocks : List β) :
    (cbcEncrypt xor permutation chain blocks).length = blocks.length := by
  induction blocks generalizing chain with
  | nil => rfl
  | cons block blocks ih => simp [cbcEncrypt, ih]

theorem cbcDecrypt_cbcEncrypt {xor : β → β → β}
    (hxor : ∀ a b, xor (xor a b) b = a) (chain : β) (blocks : List β) :
    cbcDecrypt xor permutation chain (cbcEncrypt xor permutation chain blocks) =
      blocks := by
  induction blocks generalizing chain with
  | nil => rfl
  | cons block blocks ih =>
      simp only [cbcEncrypt, cbcDecrypt, Equiv.symm_apply_apply, hxor, ih]

@[simp] theorem length_cbcDecrypt (chain : β) (blocks : List β) :
    (cbcDecrypt xor permutation chain blocks).length = blocks.length := by
  induction blocks generalizing chain with
  | nil => rfl
  | cons block blocks ih => simp [cbcDecrypt, ih]

/-- Each block is what the permutation makes of it and the block before it. -/
def Unmoved : (chain : β) → List β → Prop
  | _, [] => True
  | chain, block :: blocks => permutation (xor block chain) = block ∧ Unmoved block blocks

theorem cbcEncrypt_eq_self_iff (chain : β) (blocks : List β) :
    cbcEncrypt xor permutation chain blocks = blocks ↔
      Unmoved xor permutation chain blocks := by
  induction blocks generalizing chain with
  | nil => exact iff_of_true rfl trivial
  | cons block blocks ih =>
      rw [cbcEncrypt, Unmoved, List.cons_eq_cons]
      refine and_congr_right fun hblock => ?_
      rw [hblock]
      exact ih block

theorem take_cbcEncrypt (chain : β) (blocks : List β) (count : Nat) :
    (cbcEncrypt xor permutation chain blocks).take count =
      cbcEncrypt xor permutation chain (blocks.take count) := by
  induction blocks generalizing chain count with
  | nil => simp [cbcEncrypt]
  | cons block blocks ih =>
      cases count with
      | zero => rfl
      | succ count => simp only [cbcEncrypt, List.take_succ_cons, ih]

/-- The rest of a chain is a chain from the block before it. -/
theorem drop_cbcEncrypt (chain : β) (blocks : List β) (count : Nat) :
    (cbcEncrypt xor permutation chain blocks).drop count =
      cbcEncrypt xor permutation
        (((cbcEncrypt xor permutation chain blocks).take count).getLastD chain)
        (blocks.drop count) := by
  induction blocks generalizing chain count with
  | nil => simp [cbcEncrypt]
  | cons block blocks ih =>
      cases count with
      | zero => rfl
      | succ count =>
          simp only [cbcEncrypt, List.drop_succ_cons, List.take_succ_cons, List.getLastD_cons]
          exact ih _ count

theorem cbcEncrypt_injective {xor : β → β → β} (hxor : ∀ a b, xor (xor a b) b = a)
    (chain : β) : Function.Injective (cbcEncrypt xor permutation chain) := by
  intro blocks blocks' heq
  rw [← cbcDecrypt_cbcEncrypt permutation hxor chain blocks, heq,
    cbcDecrypt_cbcEncrypt permutation hxor chain blocks']

end Chaining

abbrev Block := Fin 16 → UInt8

namespace Block

def zero : Block := fun _ => 0

def xor (a b : Block) : Block := fun i => a i ^^^ b i

theorem xor_xor_cancel (a b : Block) : xor (xor a b) b = a := by
  funext i
  change a i ^^^ b i ^^^ b i = a i
  rw [UInt8.xor_assoc, UInt8.xor_self, UInt8.xor_zero]

theorem xor_right_injective (a : Block) : Function.Injective (xor a) := by
  intro b c heq
  funext i
  have hi : a i ^^^ b i = a i ^^^ c i := congrFun heq i
  exact (UInt8.xor_right_inj _).mp hi

def ofList (bytes : List UInt8) : Block := fun i => bytes.getD i.val 0

def toList (block : Block) : List UInt8 := List.ofFn block

@[simp] theorem length_toList (block : Block) : block.toList.length = 16 :=
  List.length_ofFn

@[simp] theorem ofList_toList (block : Block) : ofList block.toList = block := by
  funext i
  have hi : i.val < block.toList.length := by rw [length_toList]; exact i.isLt
  rw [ofList, List.getD_eq_getElem _ _ hi]
  exact List.getElem_ofFn _

theorem toList_ofList {bytes : List UInt8} (hlength : bytes.length = 16) :
    (ofList bytes).toList = bytes := by
  apply List.ext_getElem
  · rw [length_toList, hlength]
  · intro i hi hi'
    refine (List.getElem_ofFn _).trans ?_
    rw [ofList, List.getD_eq_getElem _ _ hi']

theorem ofList_append {bytes : List UInt8} (hlength : 16 ≤ bytes.length)
    (more : List UInt8) : ofList (bytes ++ more) = ofList bytes := by
  funext i
  have hi : i.val < bytes.length := Nat.lt_of_lt_of_le i.isLt hlength
  rw [ofList, ofList, List.getD_append _ _ _ _ hi]

theorem xor_xor_left_cancel (a b : Block) : xor a (xor a b) = b := by
  funext i
  change a i ^^^ (a i ^^^ b i) = b i
  rw [← UInt8.xor_assoc, UInt8.xor_self, UInt8.zero_xor]

end Block

def toBlocks : (count : Nat) → List UInt8 → List Block
  | 0, _ => []
  | count + 1, bytes => Block.ofList (bytes.take 16) :: toBlocks count (bytes.drop 16)

def ofBlocks (blocks : List Block) : List UInt8 :=
  blocks.flatMap Block.toList

@[simp] theorem length_toBlocks (count : Nat) (bytes : List UInt8) :
    (toBlocks count bytes).length = count := by
  induction count generalizing bytes with
  | zero => rfl
  | succ count ih => simp [toBlocks, ih]

@[simp] theorem length_ofBlocks (blocks : List Block) :
    (ofBlocks blocks).length = 16 * blocks.length := by
  induction blocks with
  | nil => rfl
  | cons block blocks ih =>
      rw [ofBlocks, List.flatMap_cons, List.length_append, Block.length_toList]
      rw [ofBlocks] at ih
      rw [ih, List.length_cons]
      omega

theorem toBlocks_ofBlocks (blocks : List Block) :
    toBlocks blocks.length (ofBlocks blocks) = blocks := by
  induction blocks with
  | nil => rfl
  | cons block blocks ih =>
      have htake : (block.toList ++ ofBlocks blocks).take 16 = block.toList :=
        List.take_left' block.length_toList
      have hdrop : (block.toList ++ ofBlocks blocks).drop 16 = ofBlocks blocks :=
        List.drop_left' block.length_toList
      simp only [List.length_cons, toBlocks]
      change Block.ofList ((block.toList ++ ofBlocks blocks).take 16) ::
        toBlocks blocks.length ((block.toList ++ ofBlocks blocks).drop 16) = _
      rw [htake, hdrop, ih, Block.ofList_toList]

theorem ofBlocks_toBlocks (count : Nat) (bytes : List UInt8)
    (hlength : bytes.length = 16 * count) :
    ofBlocks (toBlocks count bytes) = bytes := by
  induction count generalizing bytes with
  | zero =>
      obtain rfl : bytes = [] := List.eq_nil_of_length_eq_zero (by omega)
      rfl
  | succ count ih =>
      have hdrop : (bytes.drop 16).length = 16 * count := by
        rw [List.length_drop]
        omega
      have htake : (bytes.take 16).length = 16 := by
        rw [List.length_take]
        omega
      have hrest := ih (bytes.drop 16) hdrop
      rw [ofBlocks] at hrest
      rw [ofBlocks, toBlocks, List.flatMap_cons, hrest, Block.toList_ofList htake,
        List.take_append_drop]

/-- PKCS5 padding: a whole block when the length is a multiple of sixteen. -/
def pad (bytes : List UInt8) : List UInt8 :=
  let count := 16 - bytes.length % 16
  bytes ++ List.replicate count (UInt8.ofNat count)

/-- Remove the padding, if it is well formed. No bytes at all have none. -/
def unpad (bytes : List UInt8) : Option (List UInt8) :=
  match bytes.getLast? with
  | none => some []
  | some last =>
      let count := last.toNat
      if 1 ≤ count ∧ count ≤ 16 ∧ count ≤ bytes.length ∧
          (bytes.drop (bytes.length - count)).all (· == last) then
        some (bytes.take (bytes.length - count))
      else none

theorem length_pad (bytes : List UInt8) :
    (pad bytes).length = 16 * (bytes.length / 16 + 1) := by
  simp only [pad, List.length_append, List.length_replicate]
  omega

theorem unpad_pad (bytes : List UInt8) : unpad (pad bytes) = some bytes := by
  simp only [pad]
  generalize hcount : 16 - bytes.length % 16 = count
  have hbounds : 1 ≤ count ∧ count ≤ 16 := by omega
  have hlast : (bytes ++ List.replicate count (UInt8.ofNat count)).getLast? =
      some (UInt8.ofNat count) := by
    rw [List.getLast?_append, List.getLast?_replicate, if_neg (by omega)]
    rfl
  have htoNat : (UInt8.ofNat count).toNat = count := by
    rw [UInt8.toNat_ofNat']
    omega
  have hlength : (bytes ++ List.replicate count (UInt8.ofNat count)).length - count =
      bytes.length := by
    simp
  simp only [unpad, hlast, htoNat, hlength, List.drop_left, List.take_left]
  rw [if_pos]
  refine ⟨hbounds.1, hbounds.2, by simp, ?_⟩
  simp

/-- Whole blocks that unpad to some bytes are those bytes with their padding. -/
theorem pad_of_unpad {bytes plain : List UInt8} (hne : bytes ≠ [])
    (hlength : bytes.length % 16 = 0) (hunpad : unpad bytes = some plain) :
    pad plain = bytes := by
  obtain ⟨last, hlast⟩ : ∃ last, bytes.getLast? = some last :=
    ⟨_, List.getLast?_eq_some_getLast hne⟩
  simp only [unpad, hlast] at hunpad
  split at hunpad
  case isFalse => cases hunpad
  case isTrue hpadding =>
    obtain ⟨hone, hsixteen, hle, hall⟩ := hpadding
    obtain rfl := Option.some.inj hunpad
    have hplain : (bytes.take (bytes.length - last.toNat)).length =
        bytes.length - last.toNat := List.length_take_of_le (Nat.sub_le ..)
    have hcount : 16 - (bytes.length - last.toNat) % 16 = last.toNat := by omega
    have htail : bytes.drop (bytes.length - last.toNat) =
        List.replicate last.toNat last := by
      refine List.eq_replicate_iff.mpr ⟨?_, ?_⟩
      · rw [List.length_drop]
        omega
      · intro b hb
        exact eq_of_beq (List.all_eq_true.mp hall b hb)
    rw [pad, hplain, hcount, UInt8.ofNat_toNat, ← htail, List.take_append_drop]

theorem ofBlocks_cons (block : Block) (blocks : List Block) :
    ofBlocks (block :: blocks) = block.toList ++ ofBlocks blocks :=
  List.flatMap_cons

theorem take_ofBlocks (blocks : List Block) (count : Nat) :
    (ofBlocks blocks).take (16 * count) = ofBlocks (blocks.take count) := by
  induction blocks generalizing count with
  | nil => simp [ofBlocks]
  | cons block blocks ih =>
      cases count with
      | zero => rfl
      | succ count =>
          have hfirst : block.toList.length ≤ 16 * (count + 1) := by
            rw [Block.length_toList]
            omega
          have hrest : 16 * (count + 1) - block.toList.length = 16 * count := by
            rw [Block.length_toList]
            omega
          rw [List.take_succ_cons, ofBlocks_cons, ofBlocks_cons, List.take_append,
            List.take_of_length_le hfirst, hrest, ih]

theorem drop_ofBlocks (blocks : List Block) (count : Nat) :
    (ofBlocks blocks).drop (16 * count) = ofBlocks (blocks.drop count) := by
  induction blocks generalizing count with
  | nil => simp [ofBlocks]
  | cons block blocks ih =>
      cases count with
      | zero => rfl
      | succ count =>
          have hfirst : block.toList.length ≤ 16 * (count + 1) := by
            rw [Block.length_toList]
            omega
          have hrest : 16 * (count + 1) - block.toList.length = 16 * count := by
            rw [Block.length_toList]
            omega
          rw [List.drop_succ_cons, ofBlocks_cons, List.drop_append,
            List.drop_of_length_le hfirst, hrest, ih, List.nil_append]

theorem ofBlocks_injective : Function.Injective ofBlocks := by
  intro blocks blocks' heq
  have hlength : blocks.length = blocks'.length := by
    have hbytes := congrArg List.length heq
    rw [length_ofBlocks, length_ofBlocks] at hbytes
    omega
  rw [← toBlocks_ofBlocks blocks, heq, hlength, toBlocks_ofBlocks]

theorem pad_append {front : List UInt8} (hfront : front.length % 16 = 0) (bytes : List UInt8) :
    pad (front ++ bytes) = front ++ pad bytes := by
  have hcount : (front ++ bytes).length % 16 = bytes.length % 16 := by
    rw [List.length_append]
    omega
  simp only [pad, hcount, List.append_assoc]

section Unpadded

variable (permutation : Equiv.Perm Block) (iv : Block)

def encryptBlocks (bytes : List UInt8) : List UInt8 :=
  ofBlocks (cbcEncrypt Block.xor permutation iv (toBlocks (bytes.length / 16) bytes))

theorem encryptBlocks_eq_self_iff {bytes : List UInt8} (hlength : bytes.length % 16 = 0) :
    encryptBlocks permutation iv bytes = bytes ↔
      Unmoved Block.xor permutation iv (toBlocks (bytes.length / 16) bytes) := by
  rw [← cbcEncrypt_eq_self_iff, encryptBlocks]
  have hbytes : ofBlocks (toBlocks (bytes.length / 16) bytes) = bytes :=
    ofBlocks_toBlocks _ _ (by omega)
  constructor
  · intro heq
    have hblocks := toBlocks_ofBlocks
      (cbcEncrypt Block.xor permutation iv (toBlocks (bytes.length / 16) bytes))
    rw [length_cbcEncrypt, length_toBlocks, heq] at hblocks
    exact hblocks.symm
  · intro heq
    rw [heq, hbytes]

end Unpadded

section Padded

variable (permutation : Equiv.Perm Block) (iv : Block)

def encryptPadded (bytes : List UInt8) : List UInt8 :=
  let padded := pad bytes
  ofBlocks (cbcEncrypt Block.xor permutation iv
    (toBlocks (padded.length / 16) padded))

def decryptBlocks (bytes : List UInt8) : List UInt8 :=
  ofBlocks (cbcDecrypt Block.xor permutation iv (toBlocks (bytes.length / 16) bytes))

theorem length_encryptPadded (bytes : List UInt8) :
    (encryptPadded permutation iv bytes).length % 16 = 0 := by
  simp [encryptPadded]

theorem encryptPadded_eq_append (bytes : List UInt8) :
    ∃ more, encryptPadded permutation iv bytes =
      (permutation (Block.xor (Block.ofList ((pad bytes).take 16)) iv)).toList ++ more := by
  have hcount : (pad bytes).length / 16 = bytes.length / 16 + 1 := by
    rw [length_pad, Nat.mul_div_cancel_left _ (by decide)]
  simp only [encryptPadded, hcount, toBlocks, cbcEncrypt, ofBlocks_cons]
  exact ⟨_, rfl⟩

theorem decryptBlocks_encryptPadded (bytes : List UInt8) :
    decryptBlocks permutation iv (encryptPadded permutation iv bytes) = pad bytes := by
  have hlength := length_pad bytes
  have hcount : (pad bytes).length / 16 = bytes.length / 16 + 1 := by omega
  set blocks := toBlocks ((pad bytes).length / 16) (pad bytes) with hblocks
  have hcipher : (encryptPadded permutation iv bytes).length / 16 =
      (cbcEncrypt Block.xor permutation iv blocks).length := by
    simp [encryptPadded, ← hblocks]
  rw [decryptBlocks, hcipher, encryptPadded, ← hblocks, toBlocks_ofBlocks,
    cbcDecrypt_cbcEncrypt permutation Block.xor_xor_cancel, hblocks,
    ofBlocks_toBlocks _ _ (by omega)]

theorem decryptBlocks_ofBlocks (blocks : List Block) :
    decryptBlocks permutation iv (ofBlocks blocks) =
      ofBlocks (cbcDecrypt Block.xor permutation iv blocks) := by
  rw [decryptBlocks, length_ofBlocks, Nat.mul_div_cancel_left _ (by decide), toBlocks_ofBlocks]

theorem length_decryptBlocks {bytes : List UInt8} (hlength : bytes.length % 16 = 0) :
    (decryptBlocks permutation iv bytes).length = bytes.length := by
  rw [decryptBlocks, length_ofBlocks, length_cbcDecrypt, length_toBlocks]
  omega

variable {permutation iv}

/-- The initial vector goes into the first block, so another one gives another
result. -/
theorem decryptBlocks_injective {iv' : Block} {bytes : List UInt8} (hlength : 16 ≤ bytes.length)
    (heq : decryptBlocks permutation iv bytes = decryptBlocks permutation iv' bytes) :
    iv = iv' := by
  obtain ⟨count, hcount⟩ : ∃ count, bytes.length / 16 = count + 1 :=
    ⟨bytes.length / 16 - 1, by omega⟩
  have hblocks := congrArg (toBlocks (bytes.length / 16)) heq
  simp only [decryptBlocks] at hblocks
  have hback (chain : Block) := toBlocks_ofBlocks
    (cbcDecrypt Block.xor permutation chain (toBlocks (bytes.length / 16) bytes))
  simp only [length_cbcDecrypt, length_toBlocks] at hback
  rw [hback, hback, hcount] at hblocks
  exact Block.xor_right_injective _ (List.cons.inj hblocks).1

end Padded

end RestaurantServer.BlockCipherModes
