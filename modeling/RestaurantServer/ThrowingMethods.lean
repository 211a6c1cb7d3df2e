import Mathlib.Init

/-!
Methods of mutable objects that may throw. A method is a computation in
`ExceptT ε (StateM σ)`: the writes made before a throw survive it, as they do
for the fields of a Java object, and a `catch` block starts from them.
-/

namespace RestaurantServer.ThrowingMethods

variable {ε σ τ α β : Type}

/-- A method on an object with state `σ` that returns an `α` or throws an `ε`. -/
abbrev Method (ε σ α : Type) := ExceptT ε (StateM σ) α

def call (m : Method ε σ α) (s : σ) : Except ε α × σ :=
  (m.run.run s).run

@[simp] theorem call_pure (a : α) (s : σ) :
    call (pure a : Method ε σ α) s = (.ok a, s) := rfl

@[simp] theorem call_throw (e : ε) (s : σ) :
    call (throw e : Method ε σ α) s = (.error e, s) := rfl

@[simp] theorem call_get (s : σ) :
    call (get : Method ε σ σ) s = (.ok s, s) := rfl

@[simp] theorem call_set (s' s : σ) :
    call (set s' : Method ε σ PUnit) s = (.ok ⟨⟩, s') := rfl

@[simp] theorem call_modify (f : σ → σ) (s : σ) :
    call (modify f : Method ε σ PUnit) s = (.ok ⟨⟩, f s) := rfl

theorem call_bind (m : Method ε σ α) (f : α → Method ε σ β) (s : σ) :
    call (m >>= f) s =
      match call m s with
      | (.ok a, s') => call (f a) s'
      | (.error e, s') => (.error e, s') := by
  change (match (m.run.run s).run with
    | (a, s') => ((ExceptT.bindCont f a : StateM σ _) s').run) = _
  unfold call
  rcases (m.run.run s).run with ⟨e | a, s'⟩ <;> rfl

theorem call_tryCatch (m : Method ε σ α) (handler : ε → Method ε σ α) (s : σ) :
    call (tryCatch m handler) s =
      match call m s with
      | (.ok a, s') => (.ok a, s')
      | (.error e, s') => call (handler e) s' := by
  change (match (m.run.run s).run with
    | (a, s') => ((match a with
      | .ok a => pure (Except.ok a)
      | .error e => (handler e).run : StateM σ (Except ε α)) s')) = _
  unfold call
  rcases (m.run.run s).run with ⟨e | a, s'⟩ <;> rfl

theorem call_map (f : α → β) (m : Method ε σ α) (s : σ) :
    call (f <$> m) s =
      match call m s with
      | (.ok a, s') => (.ok (f a), s')
      | (.error e, s') => (.error e, s') := by
  rw [← bind_pure_comp, call_bind]
  rcases call m s with ⟨e | a, s'⟩ <;> rfl

theorem state_map (f : α → β) (m : Method ε σ α) (s : σ) :
    (call (f <$> m) s).2 = (call m s).2 := by
  rw [call_map]
  rcases call m s with ⟨e | a, s'⟩ <;> rfl

@[simp] theorem call_bind_of_ok {m : Method ε σ α} {f : α → Method ε σ β}
    {s s' : σ} {a : α} (hm : call m s = (.ok a, s')) :
    call (m >>= f) s = call (f a) s' := by
  rw [call_bind, hm]

@[simp] theorem call_bind_of_error {m : Method ε σ α} {f : α → Method ε σ β}
    {s s' : σ} {e : ε} (hm : call m s = (.error e, s')) :
    call (m >>= f) s = (.error e, s') := by
  rw [call_bind, hm]

@[simp] theorem call_tryCatch_of_ok {m : Method ε σ α}
    {handler : ε → Method ε σ α} {s s' : σ} {a : α}
    (hm : call m s = (.ok a, s')) :
    call (tryCatch m handler) s = (.ok a, s') := by
  rw [call_tryCatch, hm]

@[simp] theorem call_tryCatch_of_error {m : Method ε σ α}
    {handler : ε → Method ε σ α} {s s' : σ} {e : ε}
    (hm : call m s = (.error e, s')) :
    call (tryCatch m handler) s = call (handler e) s' := by
  rw [call_tryCatch, hm]

theorem state_bind_map (m : Method ε σ α) (f : α → β) (s : σ) :
    (call (m >>= fun a => pure (f a)) s).2 = (call m s).2 := by
  rw [call_bind]
  rcases call m s with ⟨e | a, s'⟩ <;> rfl

theorem state_bind_pure (m : Method ε σ α) (b : β) (s : σ) :
    (call (m >>= fun _ => pure b) s).2 = (call m s).2 :=
  state_bind_map m (fun _ => b) s

theorem state_tryCatch_throw (m : Method ε σ α) (e : ε) (s : σ) :
    (call (tryCatch m fun _ => throw e) s).2 = (call m s).2 := by
  rw [call_tryCatch]
  rcases call m s with ⟨e | a, s'⟩ <;> rfl

/-- A method that swallows every exception returns, and leaves the state as its
body does. -/
theorem call_swallow (m : Method ε σ PUnit) (s : σ) :
    call (tryCatch m fun _ => pure ⟨⟩) s = (.ok ⟨⟩, (call m s).2) := by
  rw [call_tryCatch]
  rcases call m s with ⟨e | a, s'⟩ <;> rfl

@[simp] theorem call_liftExcept (r : Except ε α) (s : σ) :
    call (liftExcept r : Method ε σ α) s = (r, s) := by
  cases r <;> rfl

/-- Call a method on another object and keep that object as it is left. The
object is a local of the caller, so it is lost when the call throws. -/
def invoke (m : Method ε τ α) (object : τ) : Method ε σ (α × τ) :=
  match call m object with
  | (.ok a, object') => pure (a, object')
  | (.error e, _) => throw e

theorem call_invoke_of_ok {m : Method ε τ α} {object object' : τ} {a : α}
    (hm : call m object = (.ok a, object')) (s : σ) :
    call (invoke m object : Method ε σ (α × τ)) s = (.ok (a, object'), s) := by
  simp [invoke, hm]

theorem call_invoke_of_error {m : Method ε τ α} {object object' : τ} {e : ε}
    (hm : call m object = (.error e, object')) (s : σ) :
    call (invoke m object : Method ε σ (α × τ)) s = (.error e, s) := by
  simp [invoke, hm]

/-- Call a method on the object held in a field. The field keeps what the
call leaves behind, also when the call throws; an empty field throws `absent`. -/
def onField (field : σ → Option τ) (update : τ → σ → σ) (absent : ε)
    (m : Method ε τ α) : Method ε σ α := do
  let s ← get
  match field s with
  | none => throw absent
  | some object =>
      set (update (call m object).2 s)
      liftExcept (call m object).1

theorem call_onField_none {field : σ → Option τ} {update : τ → σ → σ}
    {absent : ε} {m : Method ε τ α} {s : σ} (hfield : field s = none) :
    call (onField field update absent m) s = (.error absent, s) := by
  simp [onField, call_bind, hfield]

theorem call_onField_some {field : σ → Option τ} {update : τ → σ → σ}
    {absent : ε} {m : Method ε τ α} {s : σ} {object : τ}
    (hfield : field s = some object) :
    call (onField field update absent m) s =
      ((call m object).1, update (call m object).2 s) := by
  simp [onField, call_bind, hfield]

end RestaurantServer.ThrowingMethods
