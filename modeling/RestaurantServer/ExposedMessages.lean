import RestaurantServer.CryptoHelper

/-!
What the texts of encrypted messages show, and what they do not protect. All messages
are chained from one initial vector, and no text carries a check of its own.
-/

namespace RestaurantServer.ExposedMessages

open RestaurantServer.JavaExceptions
open RestaurantServer.JavaStrings
open RestaurantServer.BlockCipherModes
open RestaurantServer.Charsets
open RestaurantServer.JceCipher
open RestaurantServer.AESCipher
open RestaurantServer.CryptoHelper

section Blocks

def plainBlocks (message : String) : List Block :=
  toBlocks ((pad (Utf8.encode message)).length / 16) (pad (Utf8.encode message))

theorem ofBlocks_plainBlocks (message : String) :
    ofBlocks (plainBlocks message) = pad (Utf8.encode message) := by
  have hlength := length_pad (Utf8.encode message)
  exact ofBlocks_toBlocks _ _ (by omega)

variable (provider : Provider) (key : String)

def cipherBlocks (message : String) : List Block :=
  cbcEncrypt Block.xor (provider.aes (Utf8.encode key)) (Block.ofList INITIAL_IV)
    (plainBlocks message)

variable {provider key}

theorem encryptMessage_eq_cipherBlocks (hkey : ValidKey (Utf8.encode key)) (message : String) :
    encryptMessage provider key message =
      .ok (Base64.encode (ofBlocks (cipherBlocks provider key message))) :=
  encryptMessage_eq_ok provider hkey message

theorem encode_injective : Function.Injective Base64.encode := by
  intro bytes bytes' heq
  have hdecode := congrArg (fun text => Base64.decode (utf16 text)) heq
  simpa using hdecode

end Blocks

/-- Two texts under one key agree in as many blocks as the padded messages do, so who
sees them learns where the messages begin to differ, and whether they do. -/
theorem texts_show_common_blocks (provider : Provider) (key : String)
    (hkey : ValidKey (Utf8.encode key)) (message message' : String) :
    ∃ bytes bytes', encryptMessage provider key message = .ok (Base64.encode bytes) ∧
      encryptMessage provider key message' = .ok (Base64.encode bytes') ∧
      (∀ count, bytes.take (16 * count) = bytes'.take (16 * count) ↔
        (pad (Utf8.encode message)).take (16 * count) =
          (pad (Utf8.encode message')).take (16 * count)) ∧
      (Base64.encode bytes = Base64.encode bytes' ↔ message = message') := by
  refine ⟨_, _, encryptMessage_eq_cipherBlocks hkey message,
    encryptMessage_eq_cipherBlocks hkey message', fun count => ?_, ?_⟩
  · rw [take_ofBlocks, take_ofBlocks, ofBlocks_injective.eq_iff, cipherBlocks, cipherBlocks,
      take_cbcEncrypt, take_cbcEncrypt,
      (cbcEncrypt_injective _ Block.xor_xor_cancel _).eq_iff, ← ofBlocks_injective.eq_iff,
      ← take_ofBlocks, ← take_ofBlocks, ofBlocks_plainBlocks, ofBlocks_plainBlocks]
  · rw [encode_injective.eq_iff, ofBlocks_injective.eq_iff, cipherBlocks, cipherBlocks,
      (cbcEncrypt_injective _ Block.xor_xor_cancel _).eq_iff, ← ofBlocks_injective.eq_iff,
      ofBlocks_plainBlocks, ofBlocks_plainBlocks]
    constructor
    · intro hpad
      have hbytes := congrArg unpad hpad
      rw [unpad_pad, unpad_pad, Option.some.injEq] at hbytes
      rw [← Utf8.decode_encode message, hbytes, Utf8.decode_encode]
    · rintro rfl
      rfl

theorem texts_show_common_blocks_greetings :
    ∃ bytes bytes',
      encryptMessage xorProvider "0123456789abcdef" "Dear customers, hello" =
        .ok (Base64.encode bytes) ∧
      encryptMessage xorProvider "0123456789abcdef" "Dear customers, bye" =
        .ok (Base64.encode bytes') ∧
      bytes.take 16 = bytes'.take 16 ∧ bytes ≠ bytes' := by
  obtain ⟨bytes, bytes', hbytes, hbytes', hblocks, hsame⟩ :=
    texts_show_common_blocks xorProvider "0123456789abcdef" (by decide +kernel)
      "Dear customers, hello" "Dear customers, bye"
  refine ⟨bytes, bytes', hbytes, hbytes', (hblocks 1).mpr (by decide +kernel), ?_⟩
  rintro rfl
  exact absurd (hsame.mp rfl) (by decide)

section Forgery

/-- From the bytes of a text and a block of its message that is known, without the key:
a block in front of what follows, such that another block takes the place of the known
one. -/
def forge (bytes : Bytes) (count : Nat) (known target : Block) : Bytes :=
  let before := Block.ofList (((INITIAL_IV ++ bytes).drop (16 * count)).take 16)
  (Block.xor (Block.xor known before) target).toList ++ bytes.drop (16 * count)

theorem drop_cons_eq {α : Type} (first : α) (items : List α) {count : Nat}
    (hcount : count ≤ items.length) :
    (first :: items).drop count = (items.take count).getLastD first :: items.drop count := by
  induction items generalizing first count with
  | nil =>
      obtain rfl : count = 0 := Nat.le_zero.mp hcount
      rfl
  | cons item items ih =>
      cases count with
      | zero => rfl
      | succ count =>
          simp only [List.drop_succ_cons, List.take_succ_cons, List.getLastD_cons]
          exact ih item (Nat.le_of_succ_le_succ hcount)

theorem forge_ofBlocks (blocks : List Block) {count : Nat} (hcount : count ≤ blocks.length)
    (known target : Block) :
    forge (ofBlocks blocks) count known target =
      ofBlocks (Block.xor (Block.xor known
        ((blocks.take count).getLastD (Block.ofList INITIAL_IV))) target ::
          blocks.drop count) := by
  have hiv : INITIAL_IV ++ ofBlocks blocks =
      ofBlocks (Block.ofList INITIAL_IV :: blocks) := by
    rw [ofBlocks_cons, Block.toList_ofList length_INITIAL_IV]
  have hbefore : Block.ofList (((INITIAL_IV ++ ofBlocks blocks).drop (16 * count)).take 16) =
      (blocks.take count).getLastD (Block.ofList INITIAL_IV) := by
    rw [hiv, drop_ofBlocks, drop_cons_eq _ _ hcount, ofBlocks_cons,
      List.take_left' (Block.length_toList _), Block.ofList_toList]
  simp only [forge, hbefore, drop_ofBlocks, ofBlocks_cons]

variable {message : String} {count : Nat}

theorem drop_pad (hcount : 16 * count ≤ (Utf8.encode message).length) :
    (pad (Utf8.encode message)).drop (16 * count) =
      pad ((Utf8.encode message).drop (16 * count)) := by
  have hfront : ((Utf8.encode message).take (16 * count)).length = 16 * count :=
    List.length_take_of_le hcount
  have hpad : pad ((Utf8.encode message).take (16 * count) ++
      (Utf8.encode message).drop (16 * count)) =
        (Utf8.encode message).take (16 * count) ++
          pad ((Utf8.encode message).drop (16 * count)) :=
    pad_append (by omega) _
  rw [List.take_append_drop] at hpad
  rw [hpad, List.drop_left' hfront]

/-- A block of the message, before the one with the padding. -/
theorem drop_plainBlocks (hcount : 16 * (count + 1) ≤ (Utf8.encode message).length) :
    (plainBlocks message).drop count =
      Block.ofList ((Utf8.encode message).drop (16 * count)) ::
        (plainBlocks message).drop (count + 1) := by
  have hlength : count < (plainBlocks message).length := by
    have hpad := length_pad (Utf8.encode message)
    rw [plainBlocks, length_toBlocks]
    omega
  have hbytes : (pad (Utf8.encode message)).drop (16 * count) =
      ofBlocks ((plainBlocks message).drop count) := by
    rw [← ofBlocks_plainBlocks, drop_ofBlocks]
  rw [List.drop_eq_getElem_cons hlength, ofBlocks_cons, drop_pad (by omega)] at hbytes
  have hfirst : 16 ≤ ((Utf8.encode message).drop (16 * count)).length := by
    rw [List.length_drop]
    omega
  have hblock := congrArg Block.ofList hbytes
  rw [pad, Block.ofList_append hfirst,
    Block.ofList_append (Nat.le_of_eq (Block.length_toList _).symm),
    Block.ofList_toList] at hblock
  rw [List.drop_eq_getElem_cons hlength, hblock]

variable {provider : Provider} {key : String}

/-- The forged block and the next one, and the rest of the message as it was. -/
theorem cbcDecrypt_forged (permutation : Equiv.Perm Block) (iv chain known target : Block)
    (rest : List Block) :
    cbcDecrypt Block.xor permutation iv (Block.xor (Block.xor known chain) target ::
        cbcEncrypt Block.xor permutation chain (known :: rest)) =
      Block.xor (permutation.symm (Block.xor (Block.xor known chain) target)) iv :: target ::
        rest := by
  simp only [cbcEncrypt, cbcDecrypt, Equiv.symm_apply_apply, Block.xor_xor_left_cancel,
    cbcDecrypt_cbcEncrypt permutation Block.xor_xor_cancel]

theorem ofBlocks_forged (hcount : 16 * (count + 1) ≤ (Utf8.encode message).length)
    (garbled target : Block) :
    ofBlocks (garbled :: target :: (plainBlocks message).drop (count + 1)) =
      pad (garbled.toList ++ target.toList ++
        (Utf8.encode message).drop (16 * (count + 1))) := by
  rw [ofBlocks_cons, ofBlocks_cons, ← drop_ofBlocks, ofBlocks_plainBlocks, drop_pad hcount,
    ← List.append_assoc, pad_append]
  simp

theorem decryptMessage_ofBlocks (charset : Charset) (hkey : ValidKey (Utf8.encode key))
    {blocks : List Block} {plain : Bytes}
    (hplain : ofBlocks (cbcDecrypt Block.xor (provider.aes (Utf8.encode key))
      (Block.ofList INITIAL_IV) blocks) = pad plain) :
    decryptMessage provider charset key (Base64.encode (ofBlocks blocks)) =
      .ok (charset.newString plain) := by
  have htransform : transform provider.aes (fresh .decrypt (Utf8.encode key) INITIAL_IV)
      (ofBlocks blocks) = .ok plain := by
    have hblocks : (ofBlocks blocks).length % 16 = 0 := by
      rw [length_ofBlocks]
      omega
    simp only [transform, fresh, hblocks, ne_eq, not_true_eq_false, if_false,
      decryptBlocks_ofBlocks, hplain, unpad_pad]
  rw [decryptMessage, new_eq_ok hkey, ok_bind, getDecryptedMessage_outcome]
  simp only [decryptedMessage, initialised_eq_ok hkey length_INITIAL_IV, base64Decode_encode,
    ok_bind, htransform]

end Forgery

/-- Who knows one block of a message, and has its text, can put any block in the place
of the known one without the key. The text that results is decrypted without an error:
what comes before the block is replaced by one other block, and the rest of the message
is kept. -/
theorem forged_message_accepted (provider : Provider) (charset : Charset) (key message : String)
    (hkey : ValidKey (Utf8.encode key)) (count : Nat)
    (hcount : 16 * (count + 1) ≤ (Utf8.encode message).length) (target : Block) :
    ∃ bytes, encryptMessage provider key message = .ok (Base64.encode bytes) ∧
      ∃ garbled : Block,
        decryptMessage provider charset key (Base64.encode (forge bytes count
            (Block.ofList ((Utf8.encode message).drop (16 * count))) target)) =
          .ok (charset.newString (garbled.toList ++ target.toList ++
            (Utf8.encode message).drop (16 * (count + 1)))) := by
  refine ⟨_, encryptMessage_eq_cipherBlocks hkey message, ?_⟩
  have hlength : count ≤ (cipherBlocks provider key message).length := by
    have hpad := length_pad (Utf8.encode message)
    rw [cipherBlocks, length_cbcEncrypt, plainBlocks, length_toBlocks]
    omega
  rw [forge_ofBlocks _ hlength, cipherBlocks, drop_cbcEncrypt, drop_plainBlocks hcount]
  have hplain := congrArg ofBlocks (cbcDecrypt_forged (provider.aes (Utf8.encode key))
    (Block.ofList INITIAL_IV)
    (((cbcEncrypt Block.xor (provider.aes (Utf8.encode key)) (Block.ofList INITIAL_IV)
      (plainBlocks message)).take count).getLastD (Block.ofList INITIAL_IV))
    (Block.ofList ((Utf8.encode message).drop (16 * count))) target
    ((plainBlocks message).drop (count + 1)))
  exact ⟨_, decryptMessage_ofBlocks charset hkey (hplain.trans (ofBlocks_forged hcount _ _))⟩

theorem forged_message_accepted_seats :
    ∃ bytes, encryptMessage xorProvider "0123456789abcdef" "seats: 000000004 at table 7" =
        .ok (Base64.encode bytes) ∧
      ∃ garbled : Block,
        decryptMessage xorProvider utf8 "0123456789abcdef" (Base64.encode (forge bytes 0
            (Block.ofList (Utf8.encode "seats: 000000004 at table 7"))
            (Block.ofList (Utf8.encode "seats: 999999999")))) =
          .ok (Utf8.decode (garbled.toList ++
            Utf8.encode "seats: 999999999 at table 7")) := by
  obtain ⟨bytes, hbytes, garbled, hforged⟩ := forged_message_accepted xorProvider utf8
    "0123456789abcdef" "seats: 000000004 at table 7" (by decide +kernel) 0 (by decide +kernel)
    (Block.ofList (Utf8.encode "seats: 999999999"))
  refine ⟨bytes, hbytes, garbled, hforged.trans ?_⟩
  rw [List.append_assoc, Block.toList_ofList (by decide +kernel)]
  rfl

end RestaurantServer.ExposedMessages
