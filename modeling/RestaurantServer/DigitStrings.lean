import Mathlib.Data.List.Infix
import Mathlib.Data.List.TakeWhile

/-!
Strings of digits. Symbols are spelled with two digits each and a separator
between them, and numbers as numerals that begin with as few zeros as they can.
-/

namespace RestaurantServer.DigitStrings

section PairCodes

/-- Symbols that are written with two digits each. Any two digits are a symbol. -/
structure PairCode (α κ : Type) where
  digit : κ → Prop
  write : α → κ × κ
  read : κ → κ → Option α
  read_eq_some : ∀ {high low a}, read high low = some a ↔ write a = (high, low)
  exists_write : ∀ {high low}, (∃ a, write a = (high, low)) ↔ digit high ∧ digit low

variable {α κ : Type} (code : PairCode α κ) (separator : κ)

/-- Digits in pairs, with the separator between two pairs. -/
inductive Pairs (digit : κ → Prop) (separator : κ) : List κ → Prop
  | single {high low : κ} (hhigh : digit high) (hlow : digit low) :
      Pairs digit separator [high, low]
  | cons {high low : κ} {rest : List κ} (hhigh : digit high) (hlow : digit low)
      (hrest : Pairs digit separator rest) :
      Pairs digit separator (high :: low :: separator :: rest)

def PairCode.pair (a : α) : List κ :=
  [(code.write a).1, (code.write a).2]

def PairCode.spell (symbols : List α) : List κ :=
  [separator].intercalate (symbols.map code.pair)

theorem PairCode.spell_cons (a b : α) (symbols : List α) :
    code.spell separator (a :: b :: symbols) =
      (code.write a).1 :: (code.write a).2 :: separator :: code.spell separator (b :: symbols) := by
  simp [PairCode.spell, PairCode.pair, List.intercalate]

theorem PairCode.pairs_spell (a : α) (symbols : List α) :
    Pairs code.digit separator (code.spell separator (a :: symbols)) := by
  induction symbols generalizing a with
  | nil =>
      obtain ⟨hhigh, hlow⟩ := code.exists_write.mp ⟨a, rfl⟩
      exact .single hhigh hlow
  | cons b symbols ih =>
      obtain ⟨hhigh, hlow⟩ := code.exists_write.mp ⟨a, rfl⟩
      rw [code.spell_cons]
      exact .cons hhigh hlow (ih b)

theorem PairCode.exists_spell_of_pairs {word : List κ}
    (hword : Pairs code.digit separator word) :
    ∃ a symbols, code.spell separator (a :: symbols) = word := by
  induction hword with
  | single hhigh hlow =>
      obtain ⟨a, ha⟩ := code.exists_write.mpr ⟨hhigh, hlow⟩
      refine ⟨a, [], ?_⟩
      change [(code.write a).1, (code.write a).2] = _
      rw [ha]
  | cons hhigh hlow _ ih =>
      obtain ⟨a, ha⟩ := code.exists_write.mpr ⟨hhigh, hlow⟩
      obtain ⟨b, symbols, rfl⟩ := ih
      refine ⟨a, b :: symbols, ?_⟩
      rw [code.spell_cons, ha]

/-- The words of the grammar are the spelled ones. -/
theorem PairCode.exists_spell_iff {word : List κ} :
    (∃ symbols, code.spell separator symbols = word) ↔
      word = [] ∨ Pairs code.digit separator word := by
  constructor
  · rintro ⟨_ | ⟨a, symbols⟩, rfl⟩
    · exact .inl rfl
    · exact .inr (code.pairs_spell separator a symbols)
  · rintro (rfl | hword)
    · exact ⟨[], rfl⟩
    · obtain ⟨a, symbols, hspell⟩ := code.exists_spell_of_pairs separator hword
      exact ⟨a :: symbols, hspell⟩

variable [DecidableEq κ]

def PairCode.readPairs : List κ → Option (List α)
  | [high, low] => (code.read high low).map ([·])
  | high :: low :: s :: rest =>
      if s = separator then do
        let a ← code.read high low
        let symbols ← PairCode.readPairs rest
        some (a :: symbols)
      else none
  | _ => none

/-- Read a word two digits at a time. -/
def PairCode.readWord : List κ → Option (List α)
  | [] => some []
  | word => code.readPairs separator word

variable {code separator}

theorem PairCode.readPairs_spell (a : α) (symbols : List α) :
    code.readPairs separator (code.spell separator (a :: symbols)) = some (a :: symbols) := by
  induction symbols generalizing a with
  | nil =>
      change (code.read (code.write a).1 (code.write a).2).map ([·]) = _
      rw [code.read_eq_some.mpr rfl]
      rfl
  | cons b symbols ih =>
      rw [code.spell_cons, PairCode.readPairs, if_pos rfl, code.read_eq_some.mpr rfl, ih b]
      rfl

theorem PairCode.readWord_spell (symbols : List α) :
    code.readWord separator (code.spell separator symbols) = some symbols := by
  cases symbols with
  | nil => rfl
  | cons a symbols =>
      cases hword : code.spell separator (a :: symbols) with
      | nil =>
          cases symbols with
          | nil => cases hword
          | cons b symbols =>
              rw [code.spell_cons] at hword
              cases hword
      | cons high rest =>
          rw [PairCode.readWord, ← hword]
          · exact readPairs_spell a symbols
          · rintro ⟨⟩

theorem PairCode.spell_of_readPairs {word : List κ} {symbols : List α}
    (hread : code.readPairs separator word = some symbols) :
    ∃ a rest, symbols = a :: rest ∧ code.spell separator symbols = word := by
  induction word using PairCode.readPairs.induct separator generalizing symbols with
  | case1 high low =>
      obtain ⟨a, ha, rfl⟩ := Option.map_eq_some_iff.mp hread
      refine ⟨a, [], rfl, ?_⟩
      change [(code.write a).1, (code.write a).2] = _
      rw [code.read_eq_some.mp ha]
  | case2 high low rest ih =>
      rw [PairCode.readPairs, if_pos rfl] at hread
      obtain ⟨a, ha, hread⟩ := Option.bind_eq_some_iff.mp hread
      obtain ⟨symbols', hrest, hread⟩ := Option.bind_eq_some_iff.mp hread
      obtain ⟨b, more, rfl, hspell⟩ := ih hrest
      cases hread
      refine ⟨a, b :: more, rfl, ?_⟩
      rw [code.spell_cons, code.read_eq_some.mp ha, hspell]
  | case3 high low s rest hne =>
      rw [PairCode.readPairs, if_neg hne] at hread
      cases hread
  | case4 word hshort hlong =>
      rw [PairCode.readPairs] at hread
      · cases hread
      · exact hshort
      · exact hlong

/-- Reading is the inverse of spelling, and accepts nothing else. -/
theorem PairCode.readWord_eq_some_iff {word : List κ} {symbols : List α} :
    code.readWord separator word = some symbols ↔ code.spell separator symbols = word := by
  constructor
  · intro hread
    cases word with
    | nil =>
        cases hread
        rfl
    | cons high rest =>
        obtain ⟨_, _, -, hspell⟩ := spell_of_readPairs hread
        exact hspell
  · rintro rfl
    exact readWord_spell symbols

theorem PairCode.spell_injective : Function.Injective (code.spell separator) := by
  intro symbols symbols' heq
  have hread : code.readWord separator (code.spell separator symbols) = some symbols :=
    readWord_spell symbols
  rw [heq, readWord_spell] at hread
  exact (Option.some.inj hread).symm

end PairCodes

section Numerals

variable {base : Nat} {digits : List Nat}

/-- The number with the given digits, the most significant first. -/
def value (base : Nat) (digits : List Nat) : Nat :=
  digits.foldl (fun n d => n * base + d) 0

/-- How many digits a numeral leaves out: the zeros in front, but never the last digit. -/
def leadingZeros (digits : List Nat) : Nat :=
  (digits.dropLast.takeWhile (· = 0)).length

theorem value_concat (base : Nat) (digits : List Nat) (d : Nat) :
    value base (digits ++ [d]) = value base digits * base + d :=
  List.foldl_concat ..

theorem value_eq_zero_iff (hbase : 0 < base) :
    value base digits = 0 ↔ ∀ d ∈ digits, d = 0 := by
  induction digits using List.reverseRecOn with
  | nil => simp [value]
  | append_singleton digits d ih =>
      rw [value_concat, Nat.add_eq_zero_iff, Nat.mul_eq_zero, ih]
      simp [hbase.ne', or_imp, forall_and]

/-- Each digit may be written as two digits of a smaller base. -/
theorem value_flatMap_pairs (base : Nat) (digits : List Nat) :
    value base (digits.flatMap fun d => [d / base, d % base]) = value (base * base) digits := by
  induction digits using List.reverseRecOn with
  | nil => rfl
  | append_singleton digits d ih =>
      have hpair : (digits ++ [d]).flatMap (fun d => [d / base, d % base]) =
          digits.flatMap (fun d => [d / base, d % base]) ++ [d / base] ++ [d % base] := by
        simp
      rw [hpair, value_concat, value_concat, ih, value_concat, Nat.add_mul, Nat.mul_assoc,
        Nat.add_assoc, Nat.mul_comm (d / base), Nat.div_add_mod]

theorem leadingZeros_concat (digits : List Nat) (d : Nat) :
    leadingZeros (digits ++ [d]) = (digits.takeWhile (· = 0)).length := by
  rw [leadingZeros, List.dropLast_concat]

theorem leadingZeros_of_exists_ne (hdigits : ∃ d ∈ digits, d ≠ 0) :
    leadingZeros digits = (digits.takeWhile (· = 0)).length := by
  induction digits using List.reverseRecOn with
  | nil => simp at hdigits
  | append_singleton digits d _ =>
      rw [leadingZeros_concat, List.takeWhile_append]
      split
      case isFalse => rfl
      case isTrue hall =>
        -- All digits before the last are zero, so the last is not.
        have hd : d ≠ 0 := by
          rintro rfl
          obtain ⟨d, hmem, hne⟩ := hdigits
          have hzeros := List.takeWhile_eq_self_iff.mp
            ((List.takeWhile_prefix _).eq_of_length hall)
          rcases List.mem_append.mp hmem with hmem | hmem
          · exact hne (by simpa using hzeros d hmem)
          · exact hne (List.mem_singleton.mp hmem)
        simp [hd, hall]

theorem leadingZeros_lt (hdigits : digits ≠ []) : leadingZeros digits < digits.length := by
  have htake : leadingZeros digits ≤ digits.dropLast.length := (List.takeWhile_prefix _).length_le
  have hpos := List.length_pos_iff.mpr hdigits
  rw [List.length_dropLast] at htake
  omega

theorem leadingZeros_replicate (n : Nat) : leadingZeros (List.replicate n 0) = n - 1 := by
  rw [leadingZeros, List.dropLast_replicate, List.takeWhile_replicate]
  simp

/-- The numeral of a number, from any digits of it. -/
theorem toDigits_value (hbase : 1 < base) (hdigits : ∀ d ∈ digits, d < base)
    (hne : digits ≠ []) :
    Nat.toDigits base (value base digits) =
      (digits.drop (leadingZeros digits)).map Nat.digitChar := by
  induction digits using List.reverseRecOn with
  | nil => exact absurd rfl hne
  | append_singleton digits d ih =>
      have hd : d < base := hdigits d (by simp)
      have hbefore : ∀ d ∈ digits, d < base := fun d hmem => hdigits d (by simp [hmem])
      rw [value_concat, leadingZeros_concat]
      rcases Nat.eq_zero_or_pos (value base digits) with hzero | hpos
      · have hall : digits.takeWhile (· = 0) = digits := by
          simpa using (value_eq_zero_iff (by omega)).mp hzero
        rw [hzero, hall, Nat.zero_mul, Nat.zero_add, Nat.toDigits_of_lt_base hd]
        simp
      · have hnonzero : ∃ d ∈ digits, d ≠ 0 := by
          by_contra hall
          simp only [not_exists, not_and, not_not] at hall
          exact hpos.ne' ((value_eq_zero_iff (by omega)).mpr hall)
        have hdigitsNe : digits ≠ [] := by
          rintro rfl
          simp at hnonzero
        rw [Nat.mul_comm, ← Nat.toDigits_append_toDigits hbase hpos hd, ih hbefore hdigitsNe,
          Nat.toDigits_of_lt_base hd, ← leadingZeros_of_exists_ne hnonzero,
          List.drop_append_of_le_length (leadingZeros_lt hdigitsNe).le, List.map_append]
        rfl

theorem length_toDigits_value (hbase : 1 < base) (hdigits : ∀ d ∈ digits, d < base)
    (hne : digits ≠ []) :
    (Nat.toDigits base (value base digits)).length = digits.length - leadingZeros digits := by
  rw [toDigits_value hbase hdigits hne, List.length_map, List.length_drop]

/-- With the zeros that it leaves out in front of it, the numeral has all digits. -/
theorem replicate_append_toDigits (hbase : 1 < base) (hdigits : ∀ d ∈ digits, d < base)
    (hne : digits ≠ []) :
    List.replicate (leadingZeros digits) '0' ++ Nat.toDigits base (value base digits) =
      digits.map Nat.digitChar := by
  have hzeros : digits.take (leadingZeros digits) =
      List.replicate (leadingZeros digits) 0 := by
    have htake : digits.dropLast.takeWhile (· = 0) <+: digits :=
      (List.takeWhile_prefix _).trans (List.dropLast_prefix digits)
    rw [leadingZeros, ← List.prefix_iff_eq_take.mp htake]
    refine List.eq_replicate_of_mem fun d hmem => ?_
    simpa using List.mem_takeWhile_imp hmem
  rw [toDigits_value hbase hdigits hne]
  calc
    _ = (digits.take (leadingZeros digits)).map Nat.digitChar ++
        (digits.drop (leadingZeros digits)).map Nat.digitChar := by
      rw [hzeros, List.map_replicate]
      rfl
    _ = digits.map Nat.digitChar := by
      rw [← List.map_append, List.take_append_drop]

end Numerals

end RestaurantServer.DigitStrings
