import Mathlib.Data.List.DropRight
import Mathlib.Data.List.Infix
import Mathlib.Data.UInt
import RestaurantServer.JavaExceptions

/-!
Java strings are sequences of UTF-16 code units. A well-formed one is a Lean
string; its code units are what a Java method that goes through its characters
sees.
-/

namespace RestaurantServer.JavaStrings

open RestaurantServer.JavaExceptions

abbrev Bytes := List UInt8

def codeUnits (c : Char) : List UInt16 :=
  if c.toNat < 0x10000 then [UInt16.ofNat c.toNat]
  else
    [UInt16.ofNat (0xD800 + (c.toNat - 0x10000) / 0x400),
     UInt16.ofNat (0xDC00 + (c.toNat - 0x10000) % 0x400)]

def utf16 (text : String) : List UInt16 :=
  text.toList.flatMap codeUnits

def utf16Length (text : String) : Nat :=
  (utf16 text).length

theorem utf16_of_basic {text : String}
    (hbasic : ∀ c ∈ text.toList, c.toNat < 0x10000) :
    utf16 text = text.toList.map fun c => UInt16.ofNat c.toNat := by
  rw [utf16, List.map_eq_flatMap]
  apply List.flatMap_congr
  intro c hc
  rw [codeUnits, if_pos (hbasic c hc)]

theorem mem_utf16 {text : String} {c : Char} (hc : c ∈ text.toList)
    (hbasic : c.toNat < 0x10000) : UInt16.ofNat c.toNat ∈ utf16 text := by
  refine List.mem_flatMap.mpr ⟨c, hc, ?_⟩
  rw [codeUnits, if_pos hbasic]
  exact List.mem_singleton_self _

section Surrogates

def IsHighSurrogate (u : UInt16) : Prop :=
  0xD800 ≤ u.toNat ∧ u.toNat < 0xDC00

def IsLowSurrogate (u : UInt16) : Prop :=
  0xDC00 ≤ u.toNat ∧ u.toNat < 0xE000

instance decidableIsHighSurrogate (u : UInt16) : Decidable (IsHighSurrogate u) :=
  inferInstanceAs (Decidable (_ ∧ _))

instance decidableIsLowSurrogate (u : UInt16) : Decidable (IsLowSurrogate u) :=
  inferInstanceAs (Decidable (_ ∧ _))

def unitChar (u : UInt16) : Char :=
  if IsHighSurrogate u ∨ IsLowSurrogate u then '?' else Char.ofNat u.toNat

def encodableChars : List UInt16 → List Char
  | [] => []
  | [u] => [unitChar u]
  | u :: v :: units =>
      if IsHighSurrogate u ∧ IsLowSurrogate v then
        Char.ofNat (0x10000 + (u.toNat - 0xD800) * 0x400 + (v.toNat - 0xDC00)) ::
          encodableChars units
      else unitChar u :: encodableChars (v :: units)

/-- The text that `getBytes` encodes for a string of any code units. A surrogate
without its partner counts as a question mark. -/
def encodable (units : List UInt16) : String :=
  String.ofList (encodableChars units)

theorem encodableChars_cons {u : UInt16} (hu : ¬ IsHighSurrogate u) (units : List UInt16) :
    encodableChars (u :: units) = unitChar u :: encodableChars units := by
  cases units with
  | nil => rfl
  | cons v units =>
      rw [encodableChars, if_neg]
      rintro ⟨hhigh, -⟩
      exact hu hhigh

theorem encodableChars_codeUnits (c : Char) (units : List UInt16) :
    encodableChars (codeUnits c ++ units) = c :: encodableChars units := by
  have hvalid : c.toNat < 0xD800 ∨ 0xDFFF < c.toNat ∧ c.toNat < 0x110000 := c.valid
  rw [codeUnits]
  split
  case isTrue hbasic =>
    have hunit : (UInt16.ofNat c.toNat).toNat = c.toNat := UInt16.toNat_ofNat_of_lt hbasic
    have hhigh : ¬ IsHighSurrogate (UInt16.ofNat c.toNat) := by
      rw [IsHighSurrogate, hunit]
      omega
    have hlow : ¬ IsLowSurrogate (UInt16.ofNat c.toNat) := by
      rw [IsLowSurrogate, hunit]
      omega
    rw [List.singleton_append, encodableChars_cons hhigh, unitChar,
      if_neg (not_or.mpr ⟨hhigh, hlow⟩), hunit, Char.ofNat_toNat]
  case isFalse hsupplementary =>
    have hfirst : (UInt16.ofNat (0xD800 + (c.toNat - 0x10000) / 0x400)).toNat =
        0xD800 + (c.toNat - 0x10000) / 0x400 :=
      UInt16.toNat_ofNat_of_lt (show _ < 65536 by omega)
    have hsecond : (UInt16.ofNat (0xDC00 + (c.toNat - 0x10000) % 0x400)).toNat =
        0xDC00 + (c.toNat - 0x10000) % 0x400 :=
      UInt16.toNat_ofNat_of_lt (show _ < 65536 by omega)
    rw [List.cons_append, List.singleton_append, encodableChars, if_pos, hfirst, hsecond]
    · have hvalue : 0x10000 + (0xD800 + (c.toNat - 0x10000) / 0x400 - 0xD800) * 0x400 +
          (0xDC00 + (c.toNat - 0x10000) % 0x400 - 0xDC00) = c.toNat := by omega
      rw [hvalue, Char.ofNat_toNat]
    · rw [IsHighSurrogate, IsLowSurrogate, hfirst, hsecond]
      omega

/-- Well-formed text is encoded as it is. -/
@[simp] theorem encodable_utf16 (text : String) : encodable (utf16 text) = text := by
  have hchars (chars : List Char) : encodableChars (chars.flatMap codeUnits) = chars := by
    induction chars with
    | nil => rfl
    | cons c chars ih => rw [List.flatMap_cons, encodableChars_codeUnits, ih]
  rw [encodable, utf16, hchars, String.ofList_toList]

end Surrogates

/-- `String.trim` removes every character up to the blank from both ends. -/
def trim (text : String) : String :=
  String.ofList ((text.toList.dropWhile (·.toNat ≤ 0x20)).rdropWhile (·.toNat ≤ 0x20))

def contains (text pattern : String) : Bool :=
  decide (pattern.toList <:+: text.toList)

/-- The first position of a character, or `-1`. Positions count characters here, as
they are only passed on to `substring`. -/
def indexOf (text : String) (c : Char) : Int :=
  match text.toList.findIdx? (· = c) with
  | some i => i
  | none => -1

def substring (text : String) (beginIndex : Int) : String :=
  String.ofList (text.toList.drop beginIndex.toNat)

/-- `substring` with an end. Here too positions count characters. -/
def substringTo (text : String) (beginIndex endIndex : Int) : Except Throwable String :=
  if beginIndex < 0 then .error (stringIndexOutOfBoundsException beginIndex)
  else if text.toList.length < endIndex then .error (stringIndexOutOfBoundsException endIndex)
  else if endIndex < beginIndex then
    .error (stringIndexOutOfBoundsException (endIndex - beginIndex))
  else .ok (String.ofList ((text.toList.take endIndex.toNat).drop beginIndex.toNat))

theorem indexOf_eq_length {text before after : String} {c : Char}
    (htext : text.toList = before.toList ++ c :: after.toList) (hc : c ∉ before.toList) :
    indexOf text c = before.toList.length := by
  have hfind : text.toList.findIdx? (· = c) = some before.toList.length := by
    rw [htext, List.findIdx?_append]
    have hnone : before.toList.findIdx? (· = c) = none := by
      rw [List.findIdx?_eq_none_iff]
      intro d hd
      rw [decide_eq_false_iff_not]
      rintro rfl
      exact hc hd
    rw [hnone, List.findIdx?_cons]
    simp
  rw [indexOf, hfind]

/-- The text after the first occurrence of a character. -/
theorem substring_indexOf {text before after : String} {c : Char}
    (htext : text.toList = before.toList ++ c :: after.toList) (hc : c ∉ before.toList) :
    substring text (indexOf text c + 1) = after := by
  have hindex : (indexOf text c + 1).toNat = before.toList.length + 1 := by
    rw [indexOf_eq_length htext hc]
    rfl
  have hdrop : text.toList.drop (before.toList.length + 1) = after.toList := by
    rw [htext, List.drop_append, Nat.add_sub_cancel_left,
      List.drop_eq_nil_of_le (Nat.le_succ _)]
    rfl
  rw [substring, hindex, hdrop, String.ofList_toList]

section Occurrences

variable {α : Type} {x : α} {pattern before after : List α}

theorem prefix_of_prefix_append_cons (hx : x ∉ pattern)
    (hstarts : pattern <+: before ++ x :: after) : pattern <+: before := by
  obtain ⟨rest, heq⟩ := hstarts
  rcases List.append_eq_append_iff.mp heq with ⟨more, rfl, -⟩ | ⟨more, rfl, hmore⟩
  · exact List.prefix_append pattern more
  · cases more with
    | nil => simp
    | cons y more =>
        obtain ⟨rfl, -⟩ := List.cons.inj hmore
        simp at hx

/-- An occurrence of a text without a separator lies on one side of it. -/
theorem infix_append_cons_iff (hx : x ∉ pattern) :
    pattern <:+: before ++ x :: after ↔ pattern <:+: before ∨ pattern <:+: after := by
  constructor
  · intro hoccurs
    induction before with
    | nil =>
        rcases List.infix_cons_iff.mp hoccurs with hstarts | hoccurs
        · rw [← List.nil_append (x :: after)] at hstarts
          exact .inl (prefix_of_prefix_append_cons hx hstarts).isInfix
        · exact .inr hoccurs
    | cons y before ih =>
        rcases List.infix_cons_iff.mp hoccurs with hstarts | hoccurs
        · exact .inl (prefix_of_prefix_append_cons hx hstarts).isInfix
        · exact (ih hoccurs).imp_left List.infix_cons
  · rintro (hoccurs | hoccurs)
    · exact List.infix_append_of_infix_left hoccurs
    · exact List.infix_append_of_infix_right (List.infix_cons hoccurs)

end Occurrences

def valueOf (value : Option String) : String :=
  value.getD "null"

/-- The conversion `%-20s` of `String.format`. -/
def leftJustified (value : Option String) : String :=
  let text := valueOf value
  text ++ String.ofList (List.replicate (20 - utf16Length text) ' ')

/-- The conversion `%0Nd` of zero, for a width `N` of one at least. -/
def paddedZero (width : Nat) : String :=
  String.ofList (List.replicate width '0')

/-- The conversion `%02x` of a byte, which counts as unsigned. -/
def hexByte (b : UInt8) : String :=
  let digits := Nat.toDigits 16 b.toNat
  String.ofList (List.replicate (2 - digits.length) '0' ++ digits)

end RestaurantServer.JavaStrings
