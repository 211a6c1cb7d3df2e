import Mathlib.Init

/-!
Java exceptions as far as a caller can tell them apart: the class, and the
message that `toString` prints after it.
-/

namespace RestaurantServer.JavaExceptions

/-- A throwable of some class. Class names are fully qualified, so they
contain a dot. -/
structure Throwable where
  className : String
  message : Option String
  qualified : '.' ∈ className.toList
  deriving DecidableEq

def Throwable.toString (e : Throwable) : String :=
  match e.message with
  | none => e.className
  | some text => e.className ++ ": " ++ text

theorem Throwable.dot_mem_toString (e : Throwable) : '.' ∈ e.toString.toList := by
  unfold Throwable.toString
  split
  · exact e.qualified
  · simp [e.qualified]

def nullPointerException : Throwable :=
  ⟨"java.lang.NullPointerException", none, by decide⟩

def illegalArgumentException (text : String) : Throwable :=
  ⟨"java.lang.IllegalArgumentException", some text, by decide⟩

def illegalStateException (text : String) : Throwable :=
  ⟨"java.lang.IllegalStateException", some text, by decide⟩

def invalidKeyException (message : Option String) : Throwable :=
  ⟨"java.security.InvalidKeyException", message, by decide⟩

def invalidAlgorithmParameterException (message : Option String) : Throwable :=
  ⟨"java.security.InvalidAlgorithmParameterException", message, by decide⟩

@[simp] theorem className_invalidKeyException (message : Option String) :
    (invalidKeyException message).className = "java.security.InvalidKeyException" := rfl

@[simp] theorem className_invalidAlgorithmParameterException (message : Option String) :
    (invalidAlgorithmParameterException message).className =
      "java.security.InvalidAlgorithmParameterException" := rfl

def classCastException : Throwable :=
  ⟨"java.lang.ClassCastException", none, by decide⟩

def stringIndexOutOfBoundsException (index : Int) : Throwable :=
  ⟨"java.lang.StringIndexOutOfBoundsException",
    some ("String index out of range: " ++ toString index), by decide⟩

def numberFormatException : Throwable :=
  ⟨"java.lang.NumberFormatException", none, by decide⟩

/-- `new RuntimeException(cause)` takes its message from the cause. -/
def runtimeException (cause : Throwable) : Throwable :=
  ⟨"java.lang.RuntimeException", some cause.toString, by decide⟩

section Outcomes

variable {ε α β : Type}

@[simp] theorem ok_bind (a : α) (f : α → Except ε β) : (Except.ok a >>= f) = f a := rfl

@[simp] theorem error_bind (e : ε) (f : α → Except ε β) :
    (Except.error e >>= f) = .error e := rfl

theorem bind_eq_ok {m : Except ε α} {f : α → Except ε β} {b : β} :
    (m >>= f) = .ok b ↔ ∃ a, m = .ok a ∧ f a = .ok b := by
  cases m <;> simp

@[simp] theorem tryCatch_ok (a : α) (handler : ε → Except ε α) :
    tryCatch (Except.ok a) handler = .ok a := rfl

@[simp] theorem tryCatch_error (e : ε) (handler : ε → Except ε α) :
    tryCatch (Except.error e : Except ε α) handler = handler e := rfl

end Outcomes

def nonNull {α : Type} : Option α → Except Throwable α
  | some a => .ok a
  | none => .error nullPointerException

@[simp] theorem nonNull_some {α : Type} (a : α) : nonNull (some a) = .ok a := rfl

@[simp] theorem nonNull_none {α : Type} :
    nonNull (none : Option α) = .error nullPointerException := rfl

theorem nonNull_eq_ok {α : Type} {value : Option α} {a : α} :
    nonNull value = .ok a ↔ value = some a := by
  cases value <;> simp

end RestaurantServer.JavaExceptions
