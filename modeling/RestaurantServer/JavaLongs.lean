import RestaurantServer.JavaExceptions
import RestaurantServer.JavaStrings

/-!
Java's `long`, and `Long.parseLong`. It accepts a sign and decimal digits of
any script, code unit by code unit.
-/

namespace RestaurantServer.JavaLongs

open RestaurantServer.JavaExceptions
open RestaurantServer.JavaStrings

/-- The code units for zero in each script of the basic plane, up to Unicode
6.2. The other digits follow them. -/
def zeros : List Nat :=
  [0x0030, 0x0660, 0x06F0, 0x07C0, 0x0966, 0x09E6, 0x0A66, 0x0AE6, 0x0B66, 0x0BE6,
   0x0C66, 0x0CE6, 0x0D66, 0x0E50, 0x0ED0, 0x0F20, 0x1040, 0x1090, 0x17E0, 0x1810,
   0x1946, 0x19D0, 0x1A80, 0x1A90, 0x1B50, 0x1BB0, 0x1C40, 0x1C50, 0xA620, 0xA8D0,
   0xA900, 0xA9D0, 0xAA50, 0xABF0, 0xFF10]

def digit (u : UInt16) : Option Nat :=
  (zeros.find? fun first => first ≤ u.toNat ∧ u.toNat < first + 10).map (u.toNat - ·)

def magnitude : (value : Nat) → List UInt16 → Option Nat
  | value, [] => some value
  | value, u :: units => do
      let d ← digit u
      magnitude (value * 10 + d) units

def signedLong (negative : Bool) (units : List UInt16) : Except Throwable Int64 :=
  if units = [] then .error numberFormatException
  else
    match magnitude 0 units with
    | none => .error numberFormatException
    | some value =>
        if negative then
          if value ≤ 2 ^ 63 then .ok (Int64.ofInt (-value))
          else .error numberFormatException
        else if value < 2 ^ 63 then .ok (Int64.ofInt value)
        else .error numberFormatException

def parseLong (text : Option String) : Except Throwable Int64 :=
  match text.map utf16 with
  | none => .error numberFormatException
  | some [] => .error numberFormatException
  | some (u :: units) =>
      if u = UInt16.ofNat '-'.toNat then signedLong true units
      else if u = UInt16.ofNat '+'.toNat then signedLong false units
      else signedLong false (u :: units)

theorem signedLong_error {negative : Bool} {units : List UInt16} {e : Throwable}
    (herror : signedLong negative units = .error e) : e = numberFormatException := by
  unfold signedLong at herror
  split at herror
  · exact (Except.error.inj herror).symm
  · split at herror
    · exact (Except.error.inj herror).symm
    · split at herror <;> split at herror
      all_goals first
        | exact (Except.error.inj herror).symm
        | cases herror

theorem parseLong_error {text : Option String} {e : Throwable}
    (herror : parseLong text = .error e) : e = numberFormatException := by
  unfold parseLong at herror
  split at herror
  · exact (Except.error.inj herror).symm
  · exact (Except.error.inj herror).symm
  · split at herror
    · exact signedLong_error herror
    · split at herror <;> exact signedLong_error herror

example : parseLong (some "-9223372036854775808") =
    .ok (Int64.ofInt (-9223372036854775808)) := by decide +kernel

example : parseLong (some "9223372036854775808") = .error numberFormatException := by
  decide +kernel

end RestaurantServer.JavaLongs
