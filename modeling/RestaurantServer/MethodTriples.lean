import RestaurantServer.ThrowingMethods

/-!
Pre- and postconditions of methods that may throw, with a condition of its own
for the states left behind by a throw. The handler of a `catch` starts from it.
-/

namespace RestaurantServer.MethodTriples

open RestaurantServer.ThrowingMethods

variable {ε σ α β : Type} {P O E F : σ → Prop} {Q R : α → σ → Prop} {S : β → σ → Prop}

/-- From a state with `P` the method returns with `Q` or throws with `E`. -/
def Triple (P : σ → Prop) (m : Method ε σ α) (Q : α → σ → Prop) (E : σ → Prop) : Prop :=
  ∀ s, P s →
    match call m s with
    | (.ok a, s') => Q a s'
    | (.error _, s') => E s'

theorem triple_pure {a : α} (hQ : ∀ s, P s → Q a s) :
    Triple P (pure a : Method ε σ α) Q E := by
  intro s hs
  exact hQ s hs

theorem triple_throw {e : ε} (hE : ∀ s, P s → E s) :
    Triple P (throw e : Method ε σ α) Q E := by
  intro s hs
  exact hE s hs

theorem triple_modify {g : σ → σ} {S : PUnit → σ → Prop} (hg : ∀ s, P s → S ⟨⟩ (g s)) :
    Triple P (modify g : Method ε σ PUnit) S E := by
  intro s hs
  exact hg s hs

theorem triple_get_bind {f : σ → Method ε σ β}
    (hf : ∀ s, P s → Triple (fun s' => s' = s) (f s) S E) :
    Triple P (get >>= f) S E := by
  intro s hs
  rw [call_bind_of_ok (call_get s)]
  exact hf s hs s rfl

theorem triple_liftExcept {r : Except ε α} (hok : ∀ a, r = .ok a → ∀ s, P s → Q a s)
    (hE : ∀ s, P s → E s) : Triple P (liftExcept r : Method ε σ α) Q E := by
  intro s hs
  rw [call_liftExcept]
  rcases r with e | a
  · exact hE s hs
  · exact hok a rfl s hs

theorem triple_bind {m : Method ε σ α} {f : α → Method ε σ β} (hm : Triple P m Q E)
    (hf : ∀ a, Triple (Q a) (f a) S E) : Triple P (m >>= f) S E := by
  intro s hs
  have hfirst := hm s hs
  rw [call_bind]
  rcases hcall : call m s with ⟨e | a, s'⟩ <;> rw [hcall] at hfirst
  · exact hfirst
  · exact hf a s' hfirst

theorem triple_tryCatch {m : Method ε σ α} {handler : ε → Method ε σ α}
    (hm : Triple P m Q F) (hhandler : ∀ e, Triple F (handler e) Q E) :
    Triple P (tryCatch m handler) Q E := by
  intro s hs
  have hbody := hm s hs
  rw [call_tryCatch]
  rcases hcall : call m s with ⟨e | a, s'⟩ <;> rw [hcall] at hbody
  · exact hhandler e s' hbody
  · exact hbody

theorem triple_weaken {m : Method ε σ α} (hm : Triple O m R F) (hP : ∀ s, P s → O s)
    (hR : ∀ a s, R a s → Q a s) (hE : ∀ s, F s → E s) : Triple P m Q E := by
  intro s hs
  have hafter := hm s (hP s hs)
  rcases hcall : call m s with ⟨e | a, s'⟩ <;> rw [hcall] at hafter
  · exact hE s' hafter
  · exact hR a s' hafter

/-- A condition that a method establishes on either way out holds afterwards. -/
theorem triple_after {m : Method ε σ α} (hm : Triple P m (fun _ => E) E) {s : σ} (hs : P s) :
    E (call m s).2 := by
  have hafter := hm s hs
  rcases hcall : call m s with ⟨e | a, s'⟩ <;> rw [hcall] at hafter <;> exact hafter

theorem triple_of_after {m : Method ε σ α} (hm : ∀ s, P s → E (call m s).2) :
    Triple P m (fun _ => E) E := by
  intro s hs
  have hafter := hm s hs
  rcases hcall : call m s with ⟨e | a, s'⟩ <;> rw [hcall] at hafter <;> exact hafter

section Maintaining

variable {I : σ → Prop}

/-- The method keeps `I`, whether it returns or throws. -/
def Maintains (I : σ → Prop) (m : Method ε σ α) : Prop :=
  Triple I m (fun _ => I) I

theorem maintains_pure (a : α) : Maintains I (pure a : Method ε σ α) :=
  triple_pure fun _ hs => hs

theorem maintains_throw (e : ε) : Maintains I (throw e : Method ε σ α) :=
  triple_throw fun _ hs => hs

theorem maintains_liftExcept (r : Except ε α) : Maintains I (liftExcept r : Method ε σ α) :=
  triple_liftExcept (fun _ _ _ hs => hs) fun _ hs => hs

theorem Maintains.bind {m : Method ε σ α} {f : α → Method ε σ β} (hm : Maintains I m)
    (hf : ∀ a, Maintains I (f a)) : Maintains I (m >>= f) :=
  triple_bind hm hf

theorem Maintains.tryCatch {m : Method ε σ α} {handler : ε → Method ε σ α}
    (hm : Maintains I m) (hhandler : ∀ e, Maintains I (handler e)) :
    Maintains I (tryCatch m handler) :=
  triple_tryCatch hm hhandler

theorem maintains_get_bind {f : σ → Method ε σ β} (hf : ∀ s, Maintains I (f s)) :
    Maintains I (get >>= f) :=
  triple_get_bind fun s hs =>
    triple_weaken (hf s) (fun _ hsame => hsame ▸ hs) (fun _ _ hs => hs) fun _ hs => hs

theorem Maintains.after {m : Method ε σ α} (hm : Maintains I m) {s : σ} (hs : I s) :
    I (call m s).2 :=
  triple_after hm hs

end Maintaining

end RestaurantServer.MethodTriples
