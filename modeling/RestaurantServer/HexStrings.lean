import RestaurantServer.DigitStrings
import RestaurantServer.KeyExchangeServer

/-!
Bytes as hexadecimal text. The colon-separated form that the server replies with
can be read back; the two forms without separators agree as long as the zeros that
`toHex` puts back can be counted by an `int`.
-/

namespace RestaurantServer.HexStrings

open RestaurantServer.JavaExceptions
open RestaurantServer.JavaStrings
open RestaurantServer.ThrowingMethods
open RestaurantServer.DigitStrings
open RestaurantServer.DiffieHellmanProvider
open RestaurantServer.DHKeyAgreement2
open RestaurantServer.KeyExchangeServer

section UpperCase

def IsUpperHexDigit (c : Char) : Prop :=
  '0' ≤ c ∧ c ≤ '9' ∨ 'A' ≤ c ∧ c ≤ 'F'

instance decidableIsUpperHexDigit (c : Char) : Decidable (IsUpperHexDigit c) :=
  inferInstanceAs (Decidable (_ ∨ _))

/-- The value of a digit is its place among the digits. -/
def hexDigitValue (c : Char) : Option Nat :=
  hexChars.idxOf? c

theorem isUpperHexDigit_iff_mem (c : Char) : IsUpperHexDigit c ↔ c ∈ hexChars := by
  constructor
  · intro hdigit
    have hranges : ∀ n < 128, IsUpperHexDigit (Char.ofNat n) → Char.ofNat n ∈ hexChars := by
      decide
    have hascii : c.toNat < 128 := by
      rcases hdigit with ⟨-, hle⟩ | ⟨-, hle⟩
      · exact Nat.lt_of_le_of_lt (UInt32.le_iff_toNat_le.mp hle) (by decide)
      · exact Nat.lt_of_le_of_lt (UInt32.le_iff_toNat_le.mp hle) (by decide)
    rw [← Char.ofNat_toNat c] at hdigit ⊢
    exact hranges c.toNat hascii hdigit
  · intro hmem
    have hall : hexChars.all (fun c => decide (IsUpperHexDigit c)) = true := by decide
    exact of_decide_eq_true (List.all_eq_true.mp hall c hmem)

theorem getElem_hexChars {n : Nat} (hn : n < 16) :
    hexChars[n]? = some (Nat.digitChar n).toUpper := by
  revert n
  decide

theorem hexDigitValue_eq_some_iff {c : Char} {n : Nat} :
    hexDigitValue c = some n ↔ n < 16 ∧ (Nat.digitChar n).toUpper = c := by
  constructor
  · intro hvalue
    obtain ⟨hn, hc, -⟩ := List.idxOf?_eq_some_iff.mp hvalue
    have hplace := getElem_hexChars hn
    rw [List.getElem?_eq_getElem hn, hc] at hplace
    exact ⟨hn, (Option.some.inj hplace).symm⟩
  · rintro ⟨hn, rfl⟩
    revert n
    decide

theorem isUpperHexDigit_iff_exists (c : Char) :
    IsUpperHexDigit c ↔ ∃ n < 16, (Nat.digitChar n).toUpper = c := by
  rw [isUpperHexDigit_iff_mem, List.mem_iff_getElem?]
  constructor
  · rintro ⟨n, hplace⟩
    obtain ⟨hn, -⟩ := List.getElem?_eq_some_iff.mp hplace
    rw [getElem_hexChars hn] at hplace
    exact ⟨n, hn, Option.some.inj hplace⟩
  · rintro ⟨n, hn, rfl⟩
    exact ⟨n, getElem_hexChars hn⟩

def readByte (high low : Char) : Option UInt8 := do
  let h ← hexDigitValue high
  let l ← hexDigitValue low
  some (UInt8.ofNat (16 * h + l))

theorem hexDigits_ofNat {h l : Nat} (hh : h < 16) (hl : l < 16) :
    hexDigits (UInt8.ofNat (16 * h + l)) =
      ((Nat.digitChar h).toUpper, (Nat.digitChar l).toUpper) := by
  have hbyte : (UInt8.ofNat (16 * h + l)).toNat = 16 * h + l :=
    UInt8.toNat_ofNat_of_lt (show _ < 256 by omega)
  rw [hexDigits, hbyte, show (16 * h + l) / 16 = h by omega, show (16 * h + l) % 16 = l by omega]

theorem readByte_hexDigits (b : UInt8) :
    readByte (hexDigits b).1 (hexDigits b).2 = some b := by
  have hb : b.toNat < 256 := b.toNat_lt
  have hhigh : hexDigitValue (hexDigits b).1 = some (b.toNat / 16) :=
    hexDigitValue_eq_some_iff.mpr ⟨by omega, rfl⟩
  have hlow : hexDigitValue (hexDigits b).2 = some (b.toNat % 16) :=
    hexDigitValue_eq_some_iff.mpr ⟨by omega, rfl⟩
  rw [readByte, hhigh, hlow]
  change some (UInt8.ofNat (16 * (b.toNat / 16) + b.toNat % 16)) = some b
  rw [Nat.div_add_mod, UInt8.ofNat_toNat]

theorem readByte_eq_some_iff {high low : Char} {b : UInt8} :
    readByte high low = some b ↔ hexDigits b = (high, low) := by
  constructor
  · intro hread
    obtain ⟨h, hhigh, hrest⟩ := Option.bind_eq_some_iff.mp hread
    obtain ⟨l, hlow, hbyte⟩ := Option.bind_eq_some_iff.mp hrest
    rw [hexDigitValue_eq_some_iff] at hhigh hlow
    rw [← Option.some.inj hbyte, hexDigits_ofNat hhigh.1 hlow.1, hhigh.2, hlow.2]
  · intro hwrite
    have hread := readByte_hexDigits b
    rw [hwrite] at hread
    exact hread

theorem exists_hexDigits_iff {high low : Char} :
    (∃ b, hexDigits b = (high, low)) ↔ IsUpperHexDigit high ∧ IsUpperHexDigit low := by
  rw [isUpperHexDigit_iff_exists, isUpperHexDigit_iff_exists]
  constructor
  · rintro ⟨b, ⟨⟩⟩
    have hb : b.toNat < 256 := b.toNat_lt
    exact ⟨⟨b.toNat / 16, by omega, rfl⟩, b.toNat % 16, by omega, rfl⟩
  · rintro ⟨⟨h, hh, rfl⟩, l, hl, rfl⟩
    exact ⟨UInt8.ofNat (16 * h + l), hexDigits_ofNat hh hl⟩

/-- A byte as two upper-case digits. -/
def hexCode : PairCode UInt8 Char where
  digit := IsUpperHexDigit
  write := hexDigits
  read := readByte
  read_eq_some := readByte_eq_some_iff
  exists_write := exists_hexDigits_iff

end UpperCase

section Colons

/-- The empty word, or pairs of digits with colons between them. -/
def IsColonHex (word : String) : Prop :=
  word = "" ∨ Pairs IsUpperHexDigit ':' word.toList

def readColonHex (word : String) : Option Bytes :=
  hexCode.readWord ':' word.toList

theorem colonHex_eq (block : Bytes) :
    colonHex block = String.ofList (hexCode.spell ':' block) := rfl

theorem toHexString_eq_ok_iff {block : Bytes} {word : String} :
    toHexString (some block) = .ok word ↔ hexCode.spell ':' block = word.toList := by
  rw [toHexString_eq, colonHex_eq, Except.ok.injEq]
  constructor
  · rintro rfl
    rw [String.toList_ofList]
  · intro hspell
    rw [hspell, String.ofList_toList]

theorem readColonHex_eq_some_iff {word : String} {block : Bytes} :
    readColonHex word = some block ↔ toHexString (some block) = .ok word := by
  rw [readColonHex, PairCode.readWord_eq_some_iff, toHexString_eq_ok_iff]

theorem isColonHex_iff_exists (word : String) :
    IsColonHex word ↔ ∃ block, toHexString (some block) = .ok word := by
  have hempty : word = "" ↔ word.toList = [] := String.toList_eq_nil_iff.symm
  simp only [toHexString_eq_ok_iff]
  rw [hexCode.exists_spell_iff, IsColonHex, hempty]
  rfl

theorem existsUnique_block {word : String} (hword : IsColonHex word) :
    ∃! block, toHexString (some block) = .ok word := by
  obtain ⟨block, hblock⟩ := (isColonHex_iff_exists word).mp hword
  refine ⟨block, hblock, fun other hother => ?_⟩
  rw [toHexString_eq_ok_iff] at hblock hother
  exact PairCode.spell_injective (hother.trans hblock.symm)

/-- The indices that `byte2hex` computes from a byte are those of digits. -/
theorem byte2hex_indices (b : UInt8) :
    ((b.toBitVec.signExtend 32 &&& 0xf0#32).sshiftRight 4).toNat < hexChars.length ∧
      (b.toBitVec.signExtend 32 &&& 0x0f#32).toNat < hexChars.length := by
  generalize b.toBitVec = bits
  revert bits
  decide +kernel

/-- What `postAlicePublicKey` replies, unless it is empty, is the key that the server
now holds. -/
theorem key_of_reply {keys : KeyFactory} {mapper : ObjectMapper} {json : String}
    {generated : DHParameterSpec} {generator : KeyPairGenerator} {fields after : KeyFields}
    {reply : String}
    (hcall : call (postAlicePublicKey keys mapper json generated generator) fields =
      (.ok reply, after)) (hreply : reply ≠ "") :
    ∃ bytes, after.bobpublickeyEnc = some bytes ∧ toHexString (some bytes) = .ok reply := by
  rw [call_postAlicePublicKey] at hcall
  split at hcall
  · cases hcall
    exact absurd rfl hreply
  · split at hcall
    · cases hcall
      exact absurd rfl hreply
    · obtain ⟨hword, rfl⟩ := Prod.mk.inj hcall
      exact ⟨_, rfl, hword⟩

end Colons

/-- Colon-separated text and byte arrays determine each other: every array has a word
of the grammar, found without leaving the array of digits, and every word is that of
one array. A reply with a key so tells which bytes the server holds. -/
theorem colon_hex_determines_bytes :
    (∀ b : UInt8,
      ((b.toBitVec.signExtend 32 &&& 0xf0#32).sshiftRight 4).toNat < hexChars.length ∧
        (b.toBitVec.signExtend 32 &&& 0x0f#32).toNat < hexChars.length) ∧
    (∀ block : Bytes, ∃ word, toHexString (some block) = .ok word ∧ IsColonHex word ∧
      readColonHex word = some block) ∧
    (∀ word, IsColonHex word → ∃! block, toHexString (some block) = .ok word) ∧
    ∀ keys mapper json generated generator fields reply after,
      call (postAlicePublicKey keys mapper json generated generator) fields =
        (.ok reply, after) → reply ≠ "" →
      ∃ bytes, after.bobpublickeyEnc = some bytes ∧ toHexString (some bytes) = .ok reply ∧
        readColonHex reply = some bytes := by
  refine ⟨byte2hex_indices, ?_, fun _ => existsUnique_block, ?_⟩
  · intro block
    obtain ⟨word, hword⟩ := toHexString_ok block
    exact ⟨word, hword, (isColonHex_iff_exists word).mpr ⟨block, hword⟩,
      readColonHex_eq_some_iff.mpr hword⟩
  · intro keys mapper json generated generator fields reply after hcall hreply
    obtain ⟨bytes, hbytes, hword⟩ := key_of_reply hcall hreply
    exact ⟨bytes, hbytes, hword, readColonHex_eq_some_iff.mpr hword⟩

example : readColonHex "80:0A:FF" = some [0x80, 0x0A, 0xFF] := by decide

example : readColonHex "80:0A:" = none := by decide

/-- The private method of `HMAC`, which formats byte by byte. -/
def HMAC.toHexString (bytes : Option Bytes) : Except Throwable String := do
  let bytes ← nonNull bytes
  pure (bytes.foldl (fun formatter b => formatter ++ hexByte b) "")

def lowerWithoutColons (text : String) : String :=
  String.ofList ((text.toList.map Char.toLower).filter (· ≠ ':'))

section LowerCase

/-- The values of the hexadecimal digits of an array. -/
def nibbles (array : Bytes) : List Nat :=
  array.flatMap fun b => [b.toNat / 16, b.toNat % 16]

def lowerHex (array : Bytes) : String :=
  String.ofList ((nibbles array).map Nat.digitChar)

theorem lowerHex_append (array array' : Bytes) :
    lowerHex (array ++ array') = lowerHex array ++ lowerHex array' := by
  rw [lowerHex, nibbles, List.flatMap_append, List.map_append, String.ofList_append]
  rfl

theorem nibbles_lt {array : Bytes} {d : Nat} (hd : d ∈ nibbles array) : d < 16 := by
  obtain ⟨b, -, hmem⟩ := List.mem_flatMap.mp hd
  have hb : b.toNat < 256 := b.toNat_lt
  rcases List.mem_pair.mp hmem with rfl | rfl
  · omega
  · omega

theorem length_nibbles (array : Bytes) : (nibbles array).length = 2 * array.length := by
  simp [nibbles, List.length_flatMap, Nat.mul_comm]

theorem nibbles_ne_nil {array : Bytes} (hne : array ≠ []) : nibbles array ≠ [] := by
  apply List.ne_nil_of_length_pos
  have hpos := List.length_pos_iff.mpr hne
  rw [length_nibbles]
  omega

theorem value_nibbles (array : Bytes) : value 16 (nibbles array) = bigEndianValue array := by
  have hnibbles : nibbles array =
      (array.map UInt8.toNat).flatMap fun d => [d / 16, d % 16] := by
    rw [nibbles, List.flatMap_map]
  rw [hnibbles, value_flatMap_pairs, value, List.foldl_map]
  rfl

theorem nibbles_replicate_zero (n : Nat) :
    nibbles (List.replicate n 0) = List.replicate (2 * n) 0 := by
  refine List.eq_replicate_iff.mpr ⟨?_, ?_⟩
  · rw [length_nibbles, List.length_replicate]
  · intro d hd
    obtain ⟨b, hb, hmem⟩ := List.mem_flatMap.mp hd
    obtain rfl := List.eq_of_mem_replicate hb
    simpa using hmem

theorem hexByte_eq (b : UInt8) : hexByte b = lowerHex [b] := by
  have hne : nibbles [b] ≠ [] := nibbles_ne_nil (List.cons_ne_nil b [])
  have hvalue : value 16 (nibbles [b]) = b.toNat := by
    rw [value_nibbles]
    simp [bigEndianValue]
  have hzeros : leadingZeros (nibbles [b]) < 2 := leadingZeros_lt hne
  have hlength : (Nat.toDigits 16 b.toNat).length = 2 - leadingZeros (nibbles [b]) := by
    rw [← hvalue, length_toDigits_value (by decide) (fun _ => nibbles_lt) hne, length_nibbles]
    rfl
  have hcount : 2 - (Nat.toDigits 16 b.toNat).length = leadingZeros (nibbles [b]) := by omega
  rw [hexByte, hcount, lowerHex,
    ← replicate_append_toDigits (by decide) (fun _ => nibbles_lt) hne, hvalue]

theorem foldl_hexByte (bytes : Bytes) (formatter : String) :
    bytes.foldl (fun formatter b => formatter ++ hexByte b) formatter =
      formatter ++ lowerHex bytes := by
  induction bytes generalizing formatter with
  | nil => simp [lowerHex, nibbles]
  | cons b bytes ih =>
      rw [List.foldl_cons, ih, hexByte_eq, String.append_assoc, ← lowerHex_append]
      rfl

theorem HMAC.toHexString_eq (array : Bytes) :
    HMAC.toHexString (some array) = .ok (lowerHex array) := by
  rw [HMAC.toHexString, nonNull_some, ok_bind, foldl_hexByte, String.empty_append]
  rfl

theorem toLower_toUpper_digitChar {n : Nat} (hn : n < 16) :
    (Nat.digitChar n).toUpper.toLower = Nat.digitChar n ∧ Nat.digitChar n ≠ ':' := by
  revert n
  decide

theorem filter_pair (b : UInt8) :
    ((hexCode.pair b).map Char.toLower).filter (· ≠ ':') = (nibbles [b]).map Nat.digitChar := by
  have hb : b.toNat < 256 := b.toNat_lt
  obtain ⟨hhigh, hhighNe⟩ := toLower_toUpper_digitChar (show b.toNat / 16 < 16 by omega)
  obtain ⟨hlow, hlowNe⟩ := toLower_toUpper_digitChar (show b.toNat % 16 < 16 by omega)
  change ([(Nat.digitChar (b.toNat / 16)).toUpper.toLower,
    (Nat.digitChar (b.toNat % 16)).toUpper.toLower]).filter (· ≠ ':') = _
  rw [hhigh, hlow]
  simp [nibbles, hhighNe, hlowNe]

theorem filter_spell (block : Bytes) :
    ((hexCode.spell ':' block).map Char.toLower).filter (· ≠ ':') =
      (nibbles block).map Nat.digitChar := by
  induction block with
  | nil => rfl
  | cons b block ih =>
      have hnibbles : nibbles (b :: block) = nibbles [b] ++ nibbles block := rfl
      rw [hnibbles, List.map_append, ← filter_pair, ← ih]
      cases block with
      | nil =>
          rw [show hexCode.spell ':' [] = [] from rfl, List.map_nil, List.filter_nil,
            List.append_nil]
          rfl
      | cons b' block =>
          have hspell : hexCode.spell ':' (b :: b' :: block) =
              hexCode.pair b ++ ':' :: hexCode.spell ':' (b' :: block) :=
            hexCode.spell_cons ':' b b' block
          rw [hspell, List.map_append, List.filter_append, List.map_cons,
            List.filter_cons_of_neg (by decide)]

theorem map_lowerWithoutColons (array : Bytes) :
    (toHexString (some array)).map lowerWithoutColons =
      .ok (lowerHex array) := by
  rw [toHexString_eq, colonHex_eq]
  change Except.ok (lowerWithoutColons _) = _
  rw [lowerWithoutColons, String.toList_ofList, filter_spell, lowerHex]

end LowerCase

section Padding

theorem utf16Length_numeral {array : Bytes} (hne : array ≠ []) :
    utf16Length (String.ofList (Nat.toDigits 16 (bigEndianValue array))) =
      2 * array.length - leadingZeros (nibbles array) := by
  have hbasic : ∀ c ∈ (String.ofList (Nat.toDigits 16 (bigEndianValue array))).toList,
      c.toNat < 0x10000 := by
    have hdigit : ∀ n < 16, (Nat.digitChar n).toNat < 0x10000 := by decide
    intro c hc
    rw [String.toList_ofList, ← value_nibbles,
      toDigits_value (by decide) (fun _ => nibbles_lt) (nibbles_ne_nil hne)] at hc
    obtain ⟨d, hd, rfl⟩ := List.mem_map.mp hc
    exact hdigit d (nibbles_lt (List.mem_of_mem_drop hd))
  rw [utf16Length, utf16_of_basic hbasic, List.length_map, String.toList_ofList,
    ← value_nibbles, length_toDigits_value (by decide) (fun _ => nibbles_lt) (nibbles_ne_nil hne),
    length_nibbles]

/-- The number of zeros to put back, as an `int`. -/
theorem toInt_paddingLength {array : Bytes} (hne : array ≠ []) :
    (Int32.ofNat array.length * 2 - Int32.ofNat (utf16Length
        (String.ofList (Nat.toDigits 16 (bigEndianValue array))))).toInt =
      (leadingZeros (nibbles array) : Int).bmod (2 ^ 32) := by
  have hzeros := leadingZeros_lt (nibbles_ne_nil hne)
  rw [length_nibbles] at hzeros
  have htwo : (2 : Int32).toInt = 2 := rfl
  rw [utf16Length_numeral hne, Int32.toInt_sub, Int32.toInt_mul, Int32.toInt_ofNat',
    Int32.toInt_ofNat', htwo, show Int32.size = 2 ^ 32 from rfl, Int.bmod_mul_bmod,
    Int.bmod_sub_bmod, Int.sub_bmod_bmod]
  congr 1
  omega

/-- A negative number of zeros is none. -/
theorem toHex_eq {array : Bytes} (hne : array ≠ []) :
    toHex (some array) =
      .ok (paddedZero ((leadingZeros (nibbles array) : Int).bmod (2 ^ 32)).toNat ++
        String.ofList (Nat.toDigits 16 (bigEndianValue array))) := by
  rw [← toInt_paddingLength hne, Int32.toNat_toInt, toHex, nonNull_some, ok_bind]
  dsimp only
  split
  case isTrue => rfl
  case isFalse hnot =>
    rw [Int32.toNatClampNeg_eq_zero_iff.mpr (Int32.not_lt.mp hnot)]
    exact congrArg Except.ok String.empty_append.symm

theorem numeral_eq {array : Bytes} (hne : array ≠ []) :
    paddedZero (leadingZeros (nibbles array)) ++
        String.ofList (Nat.toDigits 16 (bigEndianValue array)) = lowerHex array := by
  rw [lowerHex, ← replicate_append_toDigits (by decide) (fun _ => nibbles_lt)
    (nibbles_ne_nil hne), value_nibbles, String.ofList_append]
  rfl

theorem toHex_nil : toHex (some []) = .ok "0" := by
  decide

/-- `toHex` puts back all the zeros that are missing exactly when an `int` can count
them. -/
theorem toHex_eq_lowerHex_iff {array : Bytes} (hne : array ≠ []) :
    toHex (some array) = .ok (lowerHex array) ↔ leadingZeros (nibbles array) < 2 ^ 31 := by
  rw [toHex_eq hne, Except.ok.injEq, ← numeral_eq hne]
  constructor
  · intro heq
    have hlength := congrArg String.length heq
    simp only [String.length_append, paddedZero, String.length_ofList,
      List.length_replicate] at hlength
    have hwrapped := Int.bmod_lt (x := leadingZeros (nibbles array)) (m := 2 ^ 32) (by decide)
    omega
  · intro hfits
    rw [Int.bmod_eq_of_le (by omega) (by omega), Int.toNat_natCast]

end Padding

section KeyTexts

/-- The first 32 digits of a secret, which serve as a key of 32 bytes. -/
def keyText (secret : Bytes) : Except Throwable String := do
  let hex ← toHex (some secret)
  substringTo hex 0 32

def IsLowerHexDigit (c : Char) : Prop :=
  '0' ≤ c ∧ c ≤ '9' ∨ 'a' ≤ c ∧ c ≤ 'f'

instance decidableIsLowerHexDigit (c : Char) : Decidable (IsLowerHexDigit c) :=
  inferInstanceAs (Decidable (_ ∨ _))

theorem length_toList_lowerHex (array : Bytes) :
    (lowerHex array).toList.length = 2 * array.length := by
  rw [lowerHex, String.toList_ofList, List.length_map, length_nibbles]

theorem isLowerHexDigit_of_mem {array : Bytes} {c : Char} (hc : c ∈ (lowerHex array).toList) :
    IsLowerHexDigit c := by
  have hdigit : ∀ n < 16, IsLowerHexDigit (Nat.digitChar n) := by decide
  rw [lowerHex, String.toList_ofList] at hc
  obtain ⟨d, hd, rfl⟩ := List.mem_map.mp hc
  exact hdigit d (nibbles_lt hd)

theorem keyText_eq {secret : Bytes} (hfits : leadingZeros (nibbles secret) < 2 ^ 31)
    (hlength : 16 ≤ secret.length) : keyText secret = .ok (lowerHex (secret.take 16)) := by
  have hne : secret ≠ [] := by
    rintro rfl
    simp at hlength
  have hall : ¬ ((lowerHex secret).toList.length : Int) < 32 := by
    rw [length_toList_lowerHex]
    omega
  have hsplit : (lowerHex secret).toList =
      (lowerHex (secret.take 16)).toList ++ (lowerHex (secret.drop 16)).toList := by
    rw [← String.toList_append, ← lowerHex_append, List.take_append_drop]
  have hfirst : (lowerHex (secret.take 16)).toList.length = 32 := by
    rw [length_toList_lowerHex, List.length_take]
    omega
  rw [keyText, (toHex_eq_lowerHex_iff hne).mpr hfits, ok_bind, substringTo,
    if_neg (by decide), if_neg hall, if_neg (by decide)]
  change Except.ok (String.ofList (((lowerHex secret).toList.take 32).drop 0)) = _
  rw [List.drop_zero, hsplit, List.take_left' hfirst, String.ofList_toList]

end KeyTexts

/-- The three ways to write an array agree, unless it is empty, and 32 digits can be
taken from an array of 16 bytes: those of its first 16 bytes. -/
structure EncodersAgree (array : Bytes) : Prop where
  agree : (toHex (some array) = HMAC.toHexString (some array) ∧
    toHex (some array) = (toHexString (some array)).map lowerWithoutColons ∧
    HMAC.toHexString (some array) = (toHexString (some array)).map lowerWithoutColons) ↔
      array ≠ []
  key : 16 ≤ array.length → ∃ text, keyText array = .ok text ∧ text.length = 32 ∧
    (∀ c ∈ text.toList, IsLowerHexDigit c) ∧ text = lowerHex (array.take 16)

section Agreement

variable {array : Bytes}

theorem leadingZeros_nibbles_lt (hlength : array.length ≤ 2 ^ 30) :
    leadingZeros (nibbles array) < 2 ^ 31 := by
  rcases eq_or_ne array [] with rfl | hne
  · decide
  · have hlt := leadingZeros_lt (nibbles_ne_nil hne)
    rw [length_nibbles] at hlt
    omega

theorem encodersAgree_of_fits (hfits : leadingZeros (nibbles array) < 2 ^ 31) :
    EncodersAgree array where
  agree := by
    rw [HMAC.toHexString_eq, map_lowerWithoutColons]
    constructor
    · rintro ⟨hnil, -⟩ rfl
      rw [toHex_nil] at hnil
      exact absurd hnil (by decide)
    · intro hne
      have hhex := (toHex_eq_lowerHex_iff hne).mpr hfits
      exact ⟨hhex, hhex, rfl⟩
  key := by
    intro hlength
    refine ⟨_, keyText_eq hfits hlength, ?_, fun c hc => isLowerHexDigit_of_mem hc, rfl⟩
    rw [← String.length_toList, length_toList_lowerHex, List.length_take]
    omega

theorem EncodersAgree.fits (hagree : EncodersAgree array) :
    leadingZeros (nibbles array) < 2 ^ 31 := by
  rcases eq_or_ne array [] with rfl | hne
  · decide
  · obtain ⟨hhex, -⟩ := hagree.agree.mpr hne
    rw [HMAC.toHexString_eq] at hhex
    exact (toHex_eq_lowerHex_iff hne).mp hhex

end Agreement

/-- The encoders agree on an array exactly when the zeros in front of its numeral can
be counted by an `int`, as in every array of up to `2 ^ 30` bytes. Secrets of this
kind that begin with the same 16 bytes have the same 32 digits. -/
theorem hex_encoders_agree_iff_zeros_fit (array : Bytes) :
    (EncodersAgree array ↔ leadingZeros (nibbles array) < 2 ^ 31) ∧
    (array.length ≤ 2 ^ 30 → leadingZeros (nibbles array) < 2 ^ 31) ∧
    ∀ other : Bytes, leadingZeros (nibbles array) < 2 ^ 31 →
      leadingZeros (nibbles other) < 2 ^ 31 → 16 ≤ array.length → 16 ≤ other.length →
      array.take 16 = other.take 16 → keyText array = keyText other := by
  refine ⟨⟨EncodersAgree.fits, encodersAgree_of_fits⟩, leadingZeros_nibbles_lt, ?_⟩
  intro other hfits hfits' hlength hlength' hfirst
  rw [keyText_eq hfits hlength, keyText_eq hfits' hlength', hfirst]

/-- For that many zero bytes the length of the text is more than an `int` can hold,
and `toHex` returns a single zero. -/
theorem not_encodersAgree_zeros : ¬ EncodersAgree (List.replicate (2 ^ 30 + 1) 0) := by
  intro hagree
  have hfits := hagree.fits
  rw [nibbles_replicate_zero, leadingZeros_replicate] at hfits
  omega

end RestaurantServer.HexStrings
