import Mathlib.Data.UInt
import Mathlib.Tactic.Common

/-!
Charsets of the Java runtime: `String.getBytes` and `new String`. UTF-8 follows
the decoder of the runtime, which puts U+FFFD where the bytes are malformed.
-/

namespace RestaurantServer.Charsets

def IsAscii (text : String) : Prop :=
  ∀ c ∈ text.toList, c.toNat < 0x80

instance (text : String) : Decidable (IsAscii text) :=
  List.decidableBAll (fun c : Char => c.toNat < 0x80) text.toList

def asciiBytes (text : String) : List UInt8 :=
  text.toList.map fun c => UInt8.ofNat c.toNat

def asciiString (bytes : List UInt8) : String :=
  String.ofList (bytes.map fun b => Char.ofNat b.toNat)

/-- A charset that agrees with ASCII on ASCII data. -/
structure Charset where
  getBytes : String → List UInt8
  newString : List UInt8 → String
  getBytes_ascii (text : String) : IsAscii text → getBytes text = asciiBytes text
  newString_ascii (bytes : List UInt8) :
    (∀ b ∈ bytes, b.toNat < 0x80) → newString bytes = asciiString bytes

namespace Utf8

def encode (text : String) : List UInt8 :=
  text.toList.flatMap String.utf8EncodeChar

def isNotContinuation (b : UInt8) : Bool :=
  b.toNat / 64 ≠ 2

def isMalformed3 (b₁ b₂ : UInt8) : Bool :=
  (b₁ = 0xE0 ∧ b₂.toNat / 32 = 4) ∨ isNotContinuation b₂

def isMalformed4 (b₁ b₂ : UInt8) : Bool :=
  b₁ > 0xF4 ∨ (b₁ = 0xF0 ∧ (b₂ < 0x90 ∨ b₂ > 0xBF)) ∨
    (b₁ = 0xF4 ∧ b₂.toNat / 16 ≠ 8) ∨ isNotContinuation b₂

/-- The number of bytes that one replacement character stands for, where no
character starts with the byte `b₁`. An encoded surrogate counts as one
character. -/
def malformedLength (b₁ : UInt8) (bytes : List UInt8) : Nat :=
  if 0xE0 ≤ b₁ ∧ b₁ ≤ 0xEF then
    match bytes with
    | [] => 1
    | [b₂] => if isMalformed3 b₁ b₂ then 1 else 2
    | b₂ :: b₃ :: _ =>
        if isMalformed3 b₁ b₂ then 1 else if isNotContinuation b₃ then 2 else 3
  else if 0xF0 ≤ b₁ ∧ b₁ ≤ 0xF7 then
    match bytes with
    | [] => 1
    | [b₂] => if isMalformed4 b₁ b₂ then 1 else 2
    | b₂ :: b₃ :: _ =>
        if isMalformed4 b₁ b₂ then 1 else if isNotContinuation b₃ then 2 else 3
  else 1

def decodeChars : (fuel : Nat) → List UInt8 → List Char
  | 0, _ => []
  | _ + 1, [] => []
  | fuel + 1, b :: bytes =>
      match (b :: bytes).toByteArray.utf8DecodeChar? 0 with
      | some c => c :: decodeChars fuel ((b :: bytes).drop c.utf8Size)
      | none =>
          '\uFFFD' :: decodeChars fuel ((b :: bytes).drop (malformedLength b bytes))

def decode (bytes : List UInt8) : String :=
  String.ofList (decodeChars bytes.length bytes)

theorem decodeChars_utf8EncodeChar_append (fuel : Nat) (c : Char)
    (bytes : List UInt8) :
    decodeChars (fuel + 1) (String.utf8EncodeChar c ++ bytes) =
      c :: decodeChars fuel bytes := by
  have hlength := String.length_utf8EncodeChar c
  have hpos := c.utf8Size_pos
  have hdecode :
      (String.utf8EncodeChar c ++ bytes).toByteArray.utf8DecodeChar? 0 = some c := by
    rw [List.toByteArray_append]
    exact ByteArray.utf8DecodeChar?_utf8EncodeChar_append
  have hdrop : (String.utf8EncodeChar c ++ bytes).drop c.utf8Size = bytes :=
    List.drop_left' hlength
  rcases hchar : String.utf8EncodeChar c ++ bytes with _ | ⟨b, rest⟩
  · have := congrArg List.length hchar
    simp only [List.length_append, List.length_nil] at this
    omega
  · rw [hchar] at hdecode hdrop
    simp only [decodeChars, hdecode, hdrop]

theorem decodeChars_flatMap (chars : List Char) (fuel : Nat)
    (hfuel : (chars.flatMap String.utf8EncodeChar).length ≤ fuel) :
    decodeChars fuel (chars.flatMap String.utf8EncodeChar) = chars := by
  induction chars generalizing fuel with
  | nil => cases fuel <;> rfl
  | cons c chars ih =>
      have hpos := c.utf8Size_pos
      simp only [List.flatMap_cons, List.length_append,
        String.length_utf8EncodeChar] at hfuel
      obtain ⟨fuel, rfl⟩ : ∃ n, fuel = n + 1 := ⟨fuel - 1, by omega⟩
      rw [List.flatMap_cons, decodeChars_utf8EncodeChar_append, ih fuel (by omega)]

@[simp] theorem decode_encode (text : String) : decode (encode text) = text := by
  rw [decode, encode, decodeChars_flatMap _ _ le_rfl, String.ofList_toList]

theorem eq_append_of_utf8DecodeChar? {bytes : List UInt8} {c : Char}
    (hdecode : bytes.toByteArray.utf8DecodeChar? 0 = some c) :
    bytes = String.utf8EncodeChar c ++ bytes.drop c.utf8Size := by
  obtain ⟨rest, hrest⟩ := ByteArray.exists_of_utf8DecodeChar?_eq_some hdecode
  have hbytes : bytes = String.utf8EncodeChar c ++ rest.data.toList := by
    have hdata := congrArg (fun array : ByteArray => array.data.toList) hrest
    simpa [ByteArray.data_append, List.toList_data_toByteArray] using hdata
  have hdrop : bytes.drop c.utf8Size = rest.data.toList := by
    rw [hbytes]
    exact List.drop_left' (String.length_utf8EncodeChar c)
  rw [hdrop]
  exact hbytes

theorem flatMap_decodeChars {fuel : Nat} {bytes : List UInt8} (hfuel : bytes.length ≤ fuel)
    (hreplacement : '\uFFFD' ∉ decodeChars fuel bytes) :
    (decodeChars fuel bytes).flatMap String.utf8EncodeChar = bytes := by
  induction fuel generalizing bytes with
  | zero =>
      obtain rfl := List.eq_nil_of_length_eq_zero (Nat.le_zero.mp hfuel)
      rfl
  | succ fuel ih =>
      cases bytes with
      | nil => rfl
      | cons b bytes =>
          rw [decodeChars] at hreplacement ⊢
          cases hdecode : (b :: bytes).toByteArray.utf8DecodeChar? 0 with
          | none =>
              rw [hdecode] at hreplacement
              exact absurd List.mem_cons_self hreplacement
          | some c =>
              rw [hdecode] at hreplacement
              have hpos := c.utf8Size_pos
              have hrest : ((b :: bytes).drop c.utf8Size).length ≤ fuel := by
                rw [List.length_drop]
                omega
              dsimp only at hreplacement ⊢
              rw [List.flatMap_cons, ih hrest fun hmem =>
                hreplacement (List.mem_cons_of_mem c hmem)]
              exact (eq_append_of_utf8DecodeChar? hdecode).symm

/-- Bytes are well-formed UTF-8 where decoding them puts no replacement character. -/
theorem encode_decode {bytes : List UInt8} (hreplacement : '\uFFFD' ∉ (decode bytes).toList) :
    encode (decode bytes) = bytes := by
  rw [decode, String.toList_ofList] at hreplacement
  rw [encode, decode, String.toList_ofList]
  exact flatMap_decodeChars le_rfl hreplacement

theorem utf8EncodeChar_of_ascii {c : Char} (hc : c.toNat < 0x80) :
    String.utf8EncodeChar c = [UInt8.ofNat c.toNat] := by
  have hle : c.val.toNat ≤ 127 := Nat.lt_succ_iff.mp hc
  simp only [String.utf8EncodeChar, if_pos hle]
  rfl

theorem encode_of_ascii {text : String} (hascii : IsAscii text) :
    encode text = asciiBytes text := by
  rw [encode, asciiBytes, List.map_eq_flatMap]
  exact List.flatMap_congr fun c hc => utf8EncodeChar_of_ascii (hascii c hc)

theorem decode_of_ascii {bytes : List UInt8} (hascii : ∀ b ∈ bytes, b.toNat < 0x80) :
    decode bytes = asciiString bytes := by
  have hvalid (b : UInt8) : (Char.ofNat b.toNat).toNat = b.toNat := by
    have := b.toNat_lt
    rw [Char.ofNat, dif_pos (.inl (by omega))]
    rfl
  have hencode : encode (asciiString bytes) = bytes := by
    rw [encode_of_ascii, asciiBytes, asciiString, String.toList_ofList, List.map_map]
    · conv_rhs => rw [← List.map_id bytes]
      apply List.map_congr_left
      intro b _
      simp [hvalid]
    · intro c hc
      rw [asciiString, String.toList_ofList] at hc
      obtain ⟨b, hb, rfl⟩ := List.mem_map.mp hc
      rw [hvalid]
      exact hascii b hb
  rw [← hencode, decode_encode, hencode]

theorem length_encode_eq_iff (text : String) :
    (encode text).length = text.toList.length ↔ IsAscii text := by
  have hle (chars : List Char) :
      chars.length ≤ (chars.flatMap String.utf8EncodeChar).length := by
    induction chars with
    | nil => exact le_rfl
    | cons c chars ih =>
        have hpos := c.utf8Size_pos
        simp only [List.flatMap_cons, List.length_append, List.length_cons,
          String.length_utf8EncodeChar]
        omega
  have hsize {c : Char} (hc : c.utf8Size = 1) : c.toNat < 0x80 := by
    have := Char.utf8Size_eq_one_iff.mp hc
    exact Nat.lt_succ_iff.mpr (UInt32.le_iff_toNat_le.mp this)
  constructor
  · rw [encode, IsAscii]
    generalize text.toList = chars
    intro heq
    induction chars with
    | nil => simp
    | cons c chars ih =>
        have hpos := c.utf8Size_pos
        have htail := hle chars
        simp only [List.flatMap_cons, List.length_append, List.length_cons,
          String.length_utf8EncodeChar] at heq
        refine List.forall_mem_cons.mpr ⟨hsize (by omega), ih (by omega)⟩
  · intro hascii
    rw [encode_of_ascii hascii, asciiBytes, List.length_map]

end Utf8

def utf8 : Charset where
  getBytes := Utf8.encode
  newString := Utf8.decode
  getBytes_ascii _ := Utf8.encode_of_ascii
  newString_ascii _ := Utf8.decode_of_ascii

def Charset.SingleByte (charset : Charset) : Prop :=
  ∀ bytes, (charset.newString bytes).toList.length = bytes.length

theorem Charset.newString_encode {charset : Charset} {text : String}
    (hascii : IsAscii text) : charset.newString (Utf8.encode text) = text := by
  have hbytes : ∀ b ∈ Utf8.encode text, b.toNat < 0x80 := by
    rw [Utf8.encode_of_ascii hascii]
    intro b hb
    obtain ⟨c, hc, rfl⟩ := List.mem_map.mp hb
    have := hascii c hc
    simp only [UInt8.toNat_ofNat']
    omega
  rw [charset.newString_ascii _ hbytes, ← Utf8.decode_of_ascii hbytes,
    Utf8.decode_encode]

/-- A single-byte charset reads the UTF-8 encoding of ASCII text only. -/
theorem Charset.SingleByte.newString_encode_iff {charset : Charset}
    (hsingle : charset.SingleByte) (text : String) :
    charset.newString (Utf8.encode text) = text ↔ IsAscii text := by
  constructor
  · intro heq
    have hlength := hsingle (Utf8.encode text)
    rw [heq] at hlength
    exact (Utf8.length_encode_eq_iff text).mp hlength.symm
  · exact Charset.newString_encode

/-- The bytes of a charset with one byte for each character below `limit`, and
question marks for the others. -/
def latinBytes (limit : Nat) (text : String) : List UInt8 :=
  text.toList.map fun c =>
    if c.toNat < limit then UInt8.ofNat c.toNat else UInt8.ofNat '?'.toNat

theorem latinBytes_of_ascii {limit : Nat} {text : String} (hlimit : 0x80 ≤ limit)
    (hascii : IsAscii text) : latinBytes limit text = asciiBytes text := by
  apply List.map_congr_left
  intro c hc
  have := hascii c hc
  rw [if_pos (by omega)]

def latin1 : Charset where
  getBytes := latinBytes 0x100
  newString := asciiString
  getBytes_ascii _ := latinBytes_of_ascii (by decide)
  newString_ascii _ _ := rfl

def usAscii : Charset where
  getBytes := latinBytes 0x80
  newString bytes :=
    String.ofList (bytes.map fun b =>
      if b.toNat < 0x80 then Char.ofNat b.toNat else '\uFFFD')
  getBytes_ascii _ := latinBytes_of_ascii (by decide)
  newString_ascii bytes hascii := by
    rw [asciiString]
    congr 1
    apply List.map_congr_left
    intro b hb
    rw [if_pos (hascii b hb)]

theorem latin1_singleByte : latin1.SingleByte := by
  intro bytes
  simp [latin1, asciiString]

end RestaurantServer.Charsets
