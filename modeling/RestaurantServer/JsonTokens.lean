import Mathlib.Data.Nat.Digits.Lemmas
import Mathlib.Logic.Equiv.List
import Mathlib.Tactic.DeriveEncodable
import RestaurantServer.Base64
import RestaurantServer.JavaExceptions

/-!
JSON web tokens as the jsontoken library handles them: a payload of JSON
members, signed with HMAC-SHA256, whose times are whole seconds.
-/

namespace RestaurantServer.JsonTokens

open RestaurantServer.JavaExceptions
open RestaurantServer.JavaStrings

instance encodableString : Encodable String :=
  Encodable.ofLeftInverse (fun text => text.toList.map Char.toNat)
    (fun codes => String.ofList (codes.map Char.ofNat))
    fun text => by simp [Function.comp_def]

/-- Strings, whole numbers, and the text of anything else that is neither
`null` nor composed. -/
inductive JsonPrimitive where
  | string (value : String)
  | number (value : Int)
  | other (text : String)
  deriving DecidableEq, Encodable

def JsonPrimitive.getAsString : JsonPrimitive → String
  | .string value => value
  | .number value => toString value
  | .other text => text

/-- A JSON value that is read as a whole. What is inside an array or an object
at this depth is not looked at. -/
inductive JsonValue where
  | jsonNull
  | jsonPrimitive (primitive : JsonPrimitive)
  | composed
  deriving DecidableEq, Encodable

inductive JsonElement where
  | value (value : JsonValue)
  | jsonObject (members : List (String × JsonValue))
  deriving DecidableEq, Encodable

abbrev JsonObject := List (String × JsonElement)

def add {α : Type} (members : List (String × α)) (name : String) (element : α) :
    List (String × α) :=
  members.filter (·.1 ≠ name) ++ [(name, element)]

def stringValue : Option String → JsonValue
  | none => .jsonNull
  | some text => .jsonPrimitive (.string text)

/-- `getAsJsonPrimitive` and `getAsString`. An absent member is `null`, and a
member that is no primitive does not cast. -/
def getString : Option JsonValue → Except Throwable String
  | none => .error nullPointerException
  | some (.jsonPrimitive primitive) => .ok primitive.getAsString
  | some .jsonNull => .error classCastException
  | some .composed => .error classCastException

def JsonElement.toValue : JsonElement → JsonValue
  | .value v => v
  | .jsonObject _ => .composed

def getPayloadString (payload : JsonObject) (name : String) : Except Throwable String :=
  getString ((payload.lookup name).map JsonElement.toValue)

def getAsJsonObject (payload : JsonObject) (name : String) :
    Except Throwable (List (String × JsonValue)) :=
  match payload.lookup name with
  | none => .error nullPointerException
  | some (.jsonObject members) => .ok members
  | some (.value _) => .error classCastException

def NullFree (payload : JsonObject) : Prop :=
  ∀ member ∈ payload,
    match member.2 with
    | .value value => value ≠ .jsonNull
    | .jsonObject members => ∀ inner ∈ members, inner.2 ≠ .jsonNull

/-- The library. Parsing undoes serialising, up to `null` members, and accepts
tokens of three parts only; a signature is valid under the key that made it and
under no other. -/
structure Library where
  serializeAndSign : Bytes → JsonObject → String
  deserialize : String → Option JsonObject
  signatureIsValid : Bytes → String → Bool
  instantOf : JsonElement → Except Throwable (Option Int64)
  skew : Nat
  deserialize_serializeAndSign (key : Bytes) (payload : JsonObject) :
    NullFree payload → deserialize (serializeAndSign key payload) = some payload
  signatureIsValid_serializeAndSign (key key' : Bytes) (payload : JsonObject) :
    signatureIsValid key' (serializeAndSign key payload) = true ↔ key' = key
  three_parts (token : String) (payload : JsonObject) :
    deserialize token = some payload → (token.toList.splitOn '.').length = 3

/-- `getIssuedAt` and `getExpiration`: a number of seconds, as milliseconds.
Other members are read as the library reads them. -/
def Library.getInstant (library : Library) (payload : JsonObject) (name : String) :
    Except Throwable (Option Int64) :=
  match payload.lookup name with
  | none => .ok none
  | some (.value (.jsonPrimitive (.number seconds))) =>
      .ok (some (Int64.ofInt seconds * 1000))
  | some element => library.instantOf element

def InWindow (skew : Nat) (issuedAt expiration now : Int64) : Prop :=
  issuedAt.toInt ≤ expiration.toInt ∧ issuedAt.toInt - skew ≤ now.toInt ∧
    now.toInt < expiration.toInt + skew

instance (skew : Nat) (issuedAt expiration now : Int64) :
    Decidable (InWindow skew issuedAt expiration now) :=
  inferInstanceAs (Decidable (_ ∧ _ ∧ _))

def signatureException (token : String) : Throwable :=
  ⟨"java.security.SignatureException", some ("Invalid signature for token: " ++ token),
    by decide⟩

/-- `JsonTokenParser.verifyAndDeserialize`. A token without times is always in
its window. -/
def Library.verifyAndDeserialize (library : Library) (key : Bytes) (token : String)
    (now : Int64) : Except Throwable JsonObject :=
  match library.deserialize token with
  | none =>
      .error (illegalStateException "Expected JWT to have 3 segments separated by '.'")
  | some payload =>
      if library.signatureIsValid key token then do
        let issuedAt ← library.getInstant payload "iat"
        let expiration ← library.getInstant payload "exp"
        if issuedAt = none ∧ expiration = none ∨
            InWindow library.skew (issuedAt.getD 0) (expiration.getD Int64.maxValue) now
        then .ok payload
        else .error (illegalStateException "Invalid iat and/or exp.")
      else .error (signatureException token)

theorem Library.verifyAndDeserialize_eq_ok {library : Library} {key : Bytes}
    {token : String} {now : Int64} {payload : JsonObject}
    (hverify : library.verifyAndDeserialize key token now = .ok payload) :
    library.deserialize token = some payload ∧
      library.signatureIsValid key token = true ∧
      ∃ issuedAt expiration,
        library.getInstant payload "iat" = .ok issuedAt ∧
        library.getInstant payload "exp" = .ok expiration ∧
        (issuedAt = none ∧ expiration = none ∨
          InWindow library.skew (issuedAt.getD 0) (expiration.getD Int64.maxValue)
            now) := by
  unfold Library.verifyAndDeserialize at hverify
  split at hverify
  · cases hverify
  rename_i parsed hparsed
  split at hverify
  · rename_i hvalid
    rcases hissued : library.getInstant parsed "iat" with e | issuedAt
    · simp [hissued, bind, Except.bind] at hverify
    rcases hexpires : library.getInstant parsed "exp" with e | expiration
    · simp [hissued, hexpires, bind, Except.bind] at hverify
    simp only [hissued, hexpires, bind, Except.bind] at hverify
    split at hverify
    · rename_i hwindow
      obtain rfl : parsed = payload := Except.ok.inj hverify
      exact ⟨hparsed, hvalid, issuedAt, expiration, hissued, hexpires, hwindow⟩
    · cases hverify
  · cases hverify

/-- A token with both times verifies exactly under its key and within its
window. -/
theorem Library.verifyAndDeserialize_serializeAndSign (library : Library)
    {key key' : Bytes} {payload : JsonObject} {now issuedAt expiration : Int64}
    (hnull : NullFree payload)
    (hissued : library.getInstant payload "iat" = .ok (some issuedAt))
    (hexpires : library.getInstant payload "exp" = .ok (some expiration)) :
    library.verifyAndDeserialize key' (library.serializeAndSign key payload) now =
      if key' = key then
        if InWindow library.skew issuedAt expiration now then .ok payload
        else .error (illegalStateException "Invalid iat and/or exp.")
      else .error (signatureException (library.serializeAndSign key payload)) := by
  simp only [Library.verifyAndDeserialize,
    library.deserialize_serializeAndSign key payload hnull,
    library.signatureIsValid_serializeAndSign, hissued, hexpires, bind, Except.bind]
  simp

section Segments

def numeral (n : Nat) : List Char :=
  (Nat.digits 64 n).map Base64.digit

def readNumeral (chars : List Char) : Option Nat := do
  let digits ← chars.mapM fun c => Base64.digitValue (Base64.unit c)
  some (Nat.ofDigits 64 digits)

theorem readNumeral_numeral (n : Nat) : readNumeral (numeral n) = some n := by
  have hmapM (digits : List Nat) (hdigits : ∀ d ∈ digits, d < 64) :
      (digits.map Base64.digit).mapM (fun c => Base64.digitValue (Base64.unit c)) =
        some digits := by
    induction digits with
    | nil => rfl
    | cons d digits ih =>
        rw [List.map_cons, List.mapM_cons, Base64.digitValue_digit (hdigits d (by simp)),
          ih fun d' hd' => hdigits d' (by simp [hd'])]
        rfl
  rw [readNumeral, numeral, hmapM _ fun d hd => Nat.digits_lt_base (by decide) hd]
  exact congrArg some (Nat.ofDigits_digits 64 n)

def segments (key : Bytes) (payload : JsonObject) : List (List Char) :=
  ["e30".toList, numeral (Encodable.encode payload), (Base64.encode key).toList]

theorem dot_not_mem_segments (key : Bytes) (payload : JsonObject) :
    ∀ segment ∈ segments key payload, '.' ∉ segment := by
  have hdot : '.' ∉ Base64.alphabet := by decide +kernel
  intro segment hsegment
  simp only [segments, List.mem_cons, List.not_mem_nil, or_false] at hsegment
  rcases hsegment with rfl | rfl | rfl
  · decide
  · intro hmem
    obtain ⟨d, hd, heq⟩ := List.mem_map.mp hmem
    exact hdot (heq ▸ Base64.digit_mem_alphabet (Nat.digits_lt_base (by decide) hd))
  · intro hmem
    rcases Base64.mem_encode hmem with hmem | hmem
    · exact hdot hmem
    · exact absurd hmem (by decide)

theorem splitOn_segments (key : Bytes) (payload : JsonObject) :
    (['.'].intercalate (segments key payload)).splitOn '.' = segments key payload :=
  List.splitOn_intercalate '.' (dot_not_mem_segments key payload) (by simp [segments])

/-- Tokens whose signature is the key itself. -/
def segmentLibrary : Library where
  serializeAndSign key payload :=
    String.ofList (['.'].intercalate (segments key payload))
  deserialize token :=
    match token.toList.splitOn '.' with
    | [_, payload, _] => do
        let code ← readNumeral payload
        Encodable.decode code
    | _ => none
  signatureIsValid key token :=
    match token.toList.splitOn '.' with
    | [_, _, signature] => signature = (Base64.encode key).toList
    | _ => false
  instantOf _ := .error classCastException
  skew := 120000
  deserialize_serializeAndSign key payload _ := by
    rw [String.toList_ofList, splitOn_segments]
    simp [segments, readNumeral_numeral]
  signatureIsValid_serializeAndSign key key' payload := by
    rw [String.toList_ofList, splitOn_segments]
    simp only [segments, decide_eq_true_eq, String.toList_inj]
    constructor
    · intro heq
      have hdecode := congrArg (fun text => Base64.decode (utf16 text)) heq
      simpa using hdecode.symm
    · rintro rfl
      rfl
  three_parts token payload hpayload := by
    split at hpayload
    · rename_i hsplit
      rw [hsplit]
      rfl
    · cases hpayload

end Segments

end RestaurantServer.JsonTokens
