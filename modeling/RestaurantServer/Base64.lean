import Mathlib.Data.List.DropRight
import Mathlib.Tactic.Common
import RestaurantServer.JavaStrings

/-!
Base64 as Guava's `BaseEncoding.base64()` has it: the encoder pads to a
multiple of four characters, and the decoder drops all padding at the end,
rejects characters outside the alphabet and lengths that no byte string has,
and ignores the bits left over in the last character.
-/

namespace RestaurantServer.Base64

open RestaurantServer.JavaStrings

def alphabet : List Char :=
  "ABCDEFGHIJKLMNOPQRSTUVWXYZabcdefghijklmnopqrstuvwxyz0123456789+/".toList

def digit (n : Nat) : Char :=
  alphabet.getD n '='

def unit (c : Char) : UInt16 :=
  UInt16.ofNat c.toNat

/-- `Alphabet.decode`: the value of a code unit, unless it is not one of the
alphabet. -/
def digitValue (u : UInt16) : Option Nat :=
  (alphabet.map unit).idxOf? u

theorem digit_mem_alphabet {n : Nat} (hn : n < 64) : digit n ∈ alphabet := by
  have hall : ∀ n : Fin 64, digit n.val ∈ alphabet := by decide +kernel
  exact hall ⟨n, hn⟩

@[simp] theorem digitValue_digit {n : Nat} (hn : n < 64) :
    digitValue (unit (digit n)) = some n := by
  have hall : ∀ n : Fin 64, digitValue (unit (digit n.val)) = some n.val := by
    decide +kernel
  exact hall ⟨n, hn⟩

theorem mem_alphabet_of_digitValue {u : UInt16} {n : Nat}
    (hvalue : digitValue u = some n) : u ∈ alphabet.map unit := by
  rw [← List.isSome_idxOf?]
  exact Option.isSome_of_eq_some hvalue

/-- The digits of the bytes, three bytes to four digits. Missing bytes of the
last chunk count as zero. -/
def encodeDigits : List UInt8 → List Char
  | [] => []
  | [a] =>
      let chunk := a.toNat * 2 ^ 16
      [digit (chunk / 2 ^ 18), digit (chunk / 2 ^ 12 % 64)]
  | [a, b] =>
      let chunk := a.toNat * 2 ^ 16 + b.toNat * 2 ^ 8
      [digit (chunk / 2 ^ 18), digit (chunk / 2 ^ 12 % 64),
        digit (chunk / 2 ^ 6 % 64)]
  | a :: b :: c :: bytes =>
      let chunk := a.toNat * 2 ^ 16 + b.toNat * 2 ^ 8 + c.toNat
      digit (chunk / 2 ^ 18) :: digit (chunk / 2 ^ 12 % 64) ::
        digit (chunk / 2 ^ 6 % 64) :: digit (chunk % 64) :: encodeDigits bytes

def encode (bytes : List UInt8) : String :=
  String.ofList
    (encodeDigits bytes ++ List.replicate ((3 - bytes.length % 3) % 3) '=')

def chunkByte (chunk offset : Nat) : UInt8 :=
  UInt8.ofNat (chunk / 2 ^ offset % 256)

def decodeDigits : List UInt16 → Option (List UInt8)
  | [] => some []
  | [_] => none
  | [u₀, u₁] => do
      let chunk := (← digitValue u₀) * 2 ^ 18 + (← digitValue u₁) * 2 ^ 12
      some [chunkByte chunk 16]
  | [u₀, u₁, u₂] => do
      let chunk := (← digitValue u₀) * 2 ^ 18 + (← digitValue u₁) * 2 ^ 12 +
        (← digitValue u₂) * 2 ^ 6
      some [chunkByte chunk 16, chunkByte chunk 8]
  | u₀ :: u₁ :: u₂ :: u₃ :: units => do
      let chunk := (← digitValue u₀) * 2 ^ 18 + (← digitValue u₁) * 2 ^ 12 +
        (← digitValue u₂) * 2 ^ 6 + (← digitValue u₃)
      let bytes ← decodeDigits units
      some (chunkByte chunk 16 :: chunkByte chunk 8 :: chunkByte chunk 0 :: bytes)

def decode (units : List UInt16) : Option (List UInt8) :=
  decodeDigits (units.rdropWhile (· == unit '='))

theorem chunkByte_eq {chunk offset : Nat} {b : UInt8}
    (hvalue : chunk / 2 ^ offset % 256 = b.toNat) : chunkByte chunk offset = b := by
  rw [chunkByte, hvalue, UInt8.ofNat_toNat]

theorem decodeDigits_encodeDigits (bytes : List UInt8) :
    decodeDigits ((encodeDigits bytes).map unit) = some bytes := by
  induction bytes using encodeDigits.induct with
  | case1 => rfl
  | case2 a =>
      have ha := a.toNat_lt
      simp only [encodeDigits, List.map_cons, List.map_nil, decodeDigits]
      rw [digitValue_digit (by omega), digitValue_digit (by omega)]
      simp only [bind, Option.bind]
      rw [chunkByte_eq (b := a) (by omega)]
  | case3 a b =>
      have ha := a.toNat_lt
      have hb := b.toNat_lt
      simp only [encodeDigits, List.map_cons, List.map_nil, decodeDigits]
      rw [digitValue_digit (by omega), digitValue_digit (by omega),
        digitValue_digit (by omega)]
      simp only [bind, Option.bind]
      rw [chunkByte_eq (b := a) (by omega), chunkByte_eq (b := b) (by omega)]
  | case4 a b c bytes ih =>
      have ha := a.toNat_lt
      have hb := b.toNat_lt
      have hc := c.toNat_lt
      simp only [encodeDigits, List.map_cons, decodeDigits]
      rw [digitValue_digit (by omega), digitValue_digit (by omega),
        digitValue_digit (by omega), digitValue_digit (by omega), ih]
      simp only [bind, Option.bind]
      rw [chunkByte_eq (b := a) (by omega), chunkByte_eq (b := b) (by omega),
        chunkByte_eq (b := c) (by omega)]

theorem encodeDigits_subset_alphabet (bytes : List UInt8) :
    encodeDigits bytes ⊆ alphabet := by
  induction bytes using encodeDigits.induct with
  | case1 => simp [encodeDigits]
  | case2 a =>
      have ha := a.toNat_lt
      simp only [encodeDigits, List.cons_subset]
      exact ⟨digit_mem_alphabet (by omega), digit_mem_alphabet (by omega),
        List.nil_subset _⟩
  | case3 a b =>
      have ha := a.toNat_lt
      have hb := b.toNat_lt
      simp only [encodeDigits, List.cons_subset]
      exact ⟨digit_mem_alphabet (by omega), digit_mem_alphabet (by omega),
        digit_mem_alphabet (by omega), List.nil_subset _⟩
  | case4 a b c bytes ih =>
      have ha := a.toNat_lt
      have hb := b.toNat_lt
      have hc := c.toNat_lt
      simp only [encodeDigits, List.cons_subset]
      exact ⟨digit_mem_alphabet (by omega), digit_mem_alphabet (by omega),
        digit_mem_alphabet (by omega), digit_mem_alphabet (by omega), ih⟩

theorem length_encodeDigits (bytes : List UInt8) :
    ((encodeDigits bytes).length + (3 - bytes.length % 3) % 3) % 4 = 0 := by
  induction bytes using encodeDigits.induct with
  | case1 => rfl
  | case2 a => simp [encodeDigits]
  | case3 a b => simp [encodeDigits]
  | case4 a b c bytes ih =>
      simp only [encodeDigits, List.length_cons]
      omega

/-- Whole chunks of three bytes are encoded on their own. -/
theorem encodeDigits_append {front : List UInt8} (hfront : front.length % 3 = 0)
    (bytes : List UInt8) :
    encodeDigits (front ++ bytes) = encodeDigits front ++ encodeDigits bytes := by
  induction front using encodeDigits.induct with
  | case1 => rfl
  | case2 a => simp at hfront
  | case3 a b => simp at hfront
  | case4 a b c front ih =>
      have hrest : front.length % 3 = 0 := by
        simp only [List.length_cons] at hfront
        omega
      simp only [List.cons_append, encodeDigits, ih hrest]

theorem rdropWhile_append_replicate {α : Type} [DecidableEq α] {xs : List α} {x : α}
    (n : Nat) (hx : x ∉ xs) :
    (xs ++ List.replicate n x).rdropWhile (· == x) = xs := by
  induction n with
  | zero =>
      rw [List.replicate_zero, List.append_nil, List.rdropWhile_eq_self_iff]
      intro hne hlast
      refine hx ?_
      have hmem := List.getLast_mem hne
      rwa [beq_iff_eq.mp hlast] at hmem
  | succ n ih =>
      rw [List.replicate_succ', ← List.append_assoc, List.rdropWhile_concat_pos]
      · exact ih
      · simp

theorem mem_encode {bytes : List UInt8} {c : Char}
    (hc : c ∈ (encode bytes).toList) : c ∈ alphabet ∨ c = '=' := by
  rw [encode, String.toList_ofList, List.mem_append] at hc
  rcases hc with hc | hc
  · exact .inl (encodeDigits_subset_alphabet bytes hc)
  · exact .inr (List.eq_of_mem_replicate hc)

theorem ascii_of_mem_encode {bytes : List UInt8} {c : Char}
    (hc : c ∈ (encode bytes).toList) : c.toNat < 0x80 := by
  have hall : (alphabet.all fun c => c.toNat < 0x80) = true := by decide +kernel
  rcases mem_encode hc with hc | rfl
  · exact of_decide_eq_true (List.all_eq_true.mp hall c hc)
  · decide

theorem utf16_encode (bytes : List UInt8) :
    utf16 (encode bytes) =
      (encodeDigits bytes).map unit ++
        List.replicate ((3 - bytes.length % 3) % 3) (unit '=') := by
  have hbasic : ∀ c ∈ (encode bytes).toList, c.toNat < 0x10000 := by
    intro c hc
    have := ascii_of_mem_encode hc
    omega
  rw [utf16_of_basic hbasic, encode, String.toList_ofList, List.map_append,
    List.map_replicate]
  rfl

@[simp] theorem decode_encode (bytes : List UInt8) :
    decode (utf16 (encode bytes)) = some bytes := by
  have hdigits : unit '=' ∉ (encodeDigits bytes).map unit := by
    intro hmem
    exact absurd (List.map_subset unit (encodeDigits_subset_alphabet bytes) hmem)
      (by decide +kernel)
  rw [decode, utf16_encode, rdropWhile_append_replicate _ hdigits]
  exact decodeDigits_encodeDigits bytes

theorem length_encode (bytes : List UInt8) : (encode bytes).length % 4 = 0 := by
  rw [encode, String.length_ofList, List.length_append, List.length_replicate]
  exact length_encodeDigits bytes

theorem subset_alphabet_of_decodeDigits {units : List UInt16} {bytes : List UInt8}
    (hdecode : decodeDigits units = some bytes) : units ⊆ alphabet.map unit := by
  induction units using decodeDigits.induct generalizing bytes with
  | case1 => exact List.nil_subset _
  | case2 u => simp [decodeDigits] at hdecode
  | case3 u₀ u₁ =>
      simp only [decodeDigits, bind, Option.bind_eq_some_iff] at hdecode
      obtain ⟨_, h₀, _, h₁, _⟩ := hdecode
      exact List.cons_subset.mpr ⟨mem_alphabet_of_digitValue h₀,
        List.cons_subset.mpr ⟨mem_alphabet_of_digitValue h₁, List.nil_subset _⟩⟩
  | case4 u₀ u₁ u₂ =>
      simp only [decodeDigits, bind, Option.bind_eq_some_iff] at hdecode
      obtain ⟨_, h₀, _, h₁, _, h₂, _⟩ := hdecode
      simp only [List.cons_subset]
      exact ⟨mem_alphabet_of_digitValue h₀, mem_alphabet_of_digitValue h₁,
        mem_alphabet_of_digitValue h₂, List.nil_subset _⟩
  | case5 u₀ u₁ u₂ u₃ units ih =>
      simp only [decodeDigits, bind, Option.bind_eq_some_iff] at hdecode
      obtain ⟨_, h₀, _, h₁, _, h₂, _, h₃, rest, hrest, _⟩ := hdecode
      simp only [List.cons_subset]
      exact ⟨mem_alphabet_of_digitValue h₀, mem_alphabet_of_digitValue h₁,
        mem_alphabet_of_digitValue h₂, mem_alphabet_of_digitValue h₃, ih hrest⟩

/-- A string with a code unit outside the alphabet, padding apart, does not
decode. -/
theorem decode_eq_none {units : List UInt16} {u : UInt16} (hu : u ∈ units)
    (hother : u ∉ alphabet.map unit) (hpadding : u ≠ unit '=') :
    decode units = none := by
  rcases hdecode : decode units with _ | bytes
  · rfl
  have hmem : u ∈ units.rdropWhile (· == unit '=') := by
    rw [← List.rdropWhile_append_rtakeWhile (p := (· == unit '=')) (l := units),
      List.mem_append] at hu
    rcases hu with hu | hu
    · exact hu
    · exact absurd (by simpa using List.mem_rtakeWhile_imp hu) hpadding
  exact absurd (subset_alphabet_of_decodeDigits hdecode hmem) hother

end RestaurantServer.Base64
