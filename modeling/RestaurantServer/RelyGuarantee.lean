import Mathlib.Data.List.Count
import Mathlib.Logic.Function.Basic
import RestaurantServer.RequestRuns
import RestaurantServer.ThrowingMethods

/-!
Threads that share a state and are interleaved step by step. Each thread relies on what
the steps of the others may do to the state, and guarantees what its own steps do.
-/

namespace RestaurantServer.RelyGuarantee

open RestaurantServer.RequestRuns
open RestaurantServer.ThrowingMethods

section Threads

variable {σ α β : Type}

/-- The rest of a thread. A step changes the state, and the thread goes on according to
the state before the step. -/
inductive Thread (σ α : Type) where
  | done (result : α)
  | step (update : σ → σ) (next : σ → Thread σ α)

def Thread.bind : Thread σ α → (α → Thread σ β) → Thread σ β
  | .done a, f => f a
  | .step update next, f => .step update fun s => (next s).bind f

instance : Monad (Thread σ) where
  pure := .done
  bind := Thread.bind

/-- The outcome of a thread that no other thread interrupts. -/
def Thread.alone : Thread σ α → σ → α × σ
  | .done a, s => (a, s)
  | .step update next, s => (next s).alone (update s)

/-- The thread has returned after `n` steps, whatever the others do in between. -/
def Within : Nat → Thread σ α → Prop
  | _, .done _ => True
  | 0, .step _ _ => False
  | n + 1, .step _ next => ∀ s, Within n (next s)

theorem Within.mono {n m : Nat} {t : Thread σ α} (hwithin : Within n t) (hle : n ≤ m) :
    Within m t := by
  induction t generalizing n m with
  | done a => cases m <;> trivial
  | step update next ih =>
      cases n with
      | zero => exact hwithin.elim
      | succ n =>
          cases m with
          | zero => exact absurd hle (Nat.not_succ_le_zero n)
          | succ m => exact fun s => ih s (hwithin s) (Nat.le_of_succ_le_succ hle)

theorem Within.bind {n m : Nat} {t : Thread σ α} {f : α → Thread σ β} (ht : Within n t)
    (hf : ∀ a, Within m (f a)) : Within (n + m) (t >>= f) := by
  induction t generalizing n with
  | done a => exact (hf a).mono (Nat.le_add_left m n)
  | step update next ih =>
      cases n with
      | zero => exact ht.elim
      | succ n =>
          rw [Nat.add_right_comm]
          exact fun s => ih s (ht s)

section Auxiliary

variable {γ : Type}

/-- A thread that keeps a further variable, which it never reads. -/
def Thread.withAux (aux : σ → σ → γ → γ) : Thread σ α → Thread (σ × γ) α
  | .done a => .done a
  | .step update next =>
      .step (fun s => (update s.1, aux s.1 (update s.1) s.2)) fun s => (next s.1).withAux aux

theorem withAux_bind (aux : σ → σ → γ → γ) (t : Thread σ α) (f : α → Thread σ β) :
    (t >>= f).withAux aux = t.withAux aux >>= fun a => (f a).withAux aux := by
  induction t with
  | done a => rfl
  | step update next ih =>
      change Thread.step _ _ = Thread.step _ _
      rw [Thread.step.injEq]
      exact ⟨rfl, funext fun s => ih s.1⟩

end Auxiliary

end Threads

section Conditions

variable {σ α β : Type} {R G : σ → σ → Prop} {P O : σ → Prop} {Q : α → σ → Prop}
  {S : β → σ → Prop}

def Stable (R : σ → σ → Prop) (P : σ → Prop) : Prop :=
  ∀ s s', R s s' → P s → P s'

theorem stable_exists {τ : Type} {R : σ → σ → Prop} {P : τ → σ → Prop}
    (hP : ∀ x, Stable R (P x)) : Stable R (fun s => ∃ x, P x s) :=
  fun s s' hR ⟨x, hs⟩ => ⟨x, hP x s s' hR hs⟩

theorem Stable.and_fact {R : σ → σ → Prop} {P : σ → Prop} (hP : Stable R P) (fact : Prop) :
    Stable R (fun s => P s ∧ fact) :=
  fun s s' hR hs => ⟨hP s s' hR hs.1, hs.2⟩

theorem Stable.and {R : σ → σ → Prop} {P O : σ → Prop} (hP : Stable R P) (hO : Stable R O) :
    Stable R (fun s => P s ∧ O s) :=
  fun s s' hR hs => ⟨hP s s' hR hs.1, hO s s' hR hs.2⟩

/-- From a state with `P` the thread takes only steps in `G` and returns with `Q`, if the
steps of others in between are in `R`. -/
def Meets (R G : σ → σ → Prop) (Q : α → σ → Prop) : Thread σ α → (σ → Prop) → Prop
  | .done a, P => ∀ s, P s → Q a s
  | .step update next, P => ∀ s, P s → G s (update s) ∧
      ∃ O, Stable R O ∧ O (update s) ∧ Meets R G Q (next s) O

theorem Meets.weaken {t : Thread σ α} (ht : Meets R G Q t P) (hO : ∀ s, O s → P s) :
    Meets R G Q t O := by
  cases t with
  | done a => exact fun s hs => ht s (hO s hs)
  | step update next => exact fun s hs => ht s (hO s hs)

theorem meets_bind {t : Thread σ α} {f : α → Thread σ β} (ht : Meets R G Q t P)
    (hf : ∀ a, Meets R G S (f a) (Q a)) : Meets R G S (t >>= f) P := by
  induction t generalizing P with
  | done a => exact (hf a).weaken ht
  | step update next ih =>
      intro s hs
      obtain ⟨hG, O, hstable, hO, hnext⟩ := ht s hs
      exact ⟨hG, O, hstable, hO, ih s hnext⟩

theorem Meets.imp {Q' : α → σ → Prop} {t : Thread σ α} (ht : Meets R G Q t P)
    (hQ : ∀ a s, Q a s → Q' a s) : Meets R G Q' t P := by
  induction t generalizing P with
  | done a => exact fun s hs => hQ a s (ht s hs)
  | step update next ih =>
      intro s hs
      obtain ⟨hG, O, hstable, hO, hnext⟩ := ht s hs
      exact ⟨hG, O, hstable, hO, ih s hnext⟩

/-- What a thread has learned holds for the rest of it. -/
theorem meets_of_fact {t : Thread σ α} {fact : Prop} (ht : fact → Meets R G Q t P) :
    Meets R G Q t (fun s => P s ∧ fact) := by
  cases t with
  | done a => exact fun s hs => ht hs.2 s hs.1
  | step update next => exact fun s hs => ht hs.2 s hs.1

theorem Meets.alone {t : Thread σ α} (ht : Meets R G Q t P) {s : σ} (hs : P s) :
    Q (t.alone s).1 (t.alone s).2 := by
  induction t generalizing P s with
  | done a => exact ht s hs
  | step update next ih =>
      obtain ⟨-, O, -, hO, hnext⟩ := ht s hs
      exact ih s hnext hO

theorem meets_of_exists {τ : Type} {t : Thread σ α} {P : τ → σ → Prop}
    (ht : ∀ x, Meets R G Q t (P x)) : Meets R G Q t (fun s => ∃ x, P x s) := by
  cases t with
  | done a => exact fun s ⟨x, hs⟩ => ht x s hs
  | step update next => exact fun s ⟨x, hs⟩ => ht x s hs

theorem meets_pure {a : α} (hQ : ∀ s, P s → Q a s) : Meets R G Q (pure a : Thread σ α) P :=
  hQ

end Conditions

section Exceptions

variable {ε σ α β : Type}

/-- A step that may throw. -/
def atomically (m : σ → Except ε α × σ) : ExceptT ε (Thread σ) α :=
  ExceptT.mk (.step (fun s => (m s).2) fun s => .done (m s).1)

/-- A result that needs no step. -/
def settled (result : Except ε α) : ExceptT ε (Thread σ) α :=
  ExceptT.mk (.done result)

section Alone

def aloneExcept (t : ExceptT ε (Thread σ) α) (s : σ) : Except ε α × σ :=
  t.run.alone s

theorem alone_bind (t : Thread σ α) (f : α → Thread σ β) (s : σ) :
    (t >>= f).alone s = (f (t.alone s).1).alone (t.alone s).2 := by
  induction t generalizing s with
  | done a => rfl
  | step update next ih => exact ih s (update s)

@[simp] theorem aloneExcept_atomically (m : σ → Except ε α × σ) (s : σ) :
    aloneExcept (atomically m) s = m s := rfl

@[simp] theorem aloneExcept_settled (result : Except ε α) (s : σ) :
    aloneExcept (settled result) s = (result, s) := rfl

theorem aloneExcept_bind (t : ExceptT ε (Thread σ) α) (f : α → ExceptT ε (Thread σ) β) (s : σ) :
    aloneExcept (t >>= f) s =
      match aloneExcept t s with
      | (.ok a, s') => aloneExcept (f a) s'
      | (.error e, s') => (.error e, s') := by
  change (t.run >>= ExceptT.bindCont f).alone s = _
  rw [alone_bind, aloneExcept]
  rcases t.run.alone s with ⟨e | a, s'⟩ <;> rfl

theorem aloneExcept_tryCatch (t : ExceptT ε (Thread σ) α)
    (handler : ε → ExceptT ε (Thread σ) α) (s : σ) :
    aloneExcept (tryCatch t handler) s =
      match aloneExcept t s with
      | (.ok a, s') => (.ok a, s')
      | (.error e, s') => aloneExcept (handler e) s' := by
  change (t.run >>= fun result => match result with
    | .ok a => pure (.ok a)
    | .error e => (handler e).run).alone s = _
  rw [alone_bind, aloneExcept]
  rcases t.run.alone s with ⟨e | a, s'⟩ <;> rfl

/-- The thread does alone what the method does. -/
def Agrees (t : ExceptT ε (Thread σ) α) (m : Method ε σ α) : Prop :=
  ∀ s, aloneExcept t s = call m s

theorem agrees_pure (a : α) : Agrees (pure a : ExceptT ε (Thread σ) α) (pure a) :=
  fun _ => rfl

theorem agrees_throw (e : ε) : Agrees (throw e : ExceptT ε (Thread σ) α) (throw e) :=
  fun _ => rfl

theorem agrees_settled (result : Except ε α) :
    Agrees (settled result : ExceptT ε (Thread σ) α) (liftExcept result) := by
  intro s
  rw [aloneExcept_settled, call_liftExcept]

theorem agrees_bind {t : ExceptT ε (Thread σ) α} {m : Method ε σ α}
    {f : α → ExceptT ε (Thread σ) β} {g : α → Method ε σ β} (ht : Agrees t m)
    (hf : ∀ a, Agrees (f a) (g a)) : Agrees (t >>= f) (m >>= g) := by
  intro s
  rw [aloneExcept_bind, call_bind, ht s]
  rcases call m s with ⟨e | a, s'⟩
  · rfl
  · exact hf a s'

theorem agrees_tryCatch {t : ExceptT ε (Thread σ) α} {m : Method ε σ α}
    {handler : ε → ExceptT ε (Thread σ) α} {handler' : ε → Method ε σ α} (ht : Agrees t m)
    (hhandler : ∀ e, Agrees (handler e) (handler' e)) :
    Agrees (tryCatch t handler) (tryCatch m handler') := by
  intro s
  rw [aloneExcept_tryCatch, call_tryCatch, ht s]
  rcases call m s with ⟨e | a, s'⟩
  · exact hhandler e s'
  · rfl

end Alone

section Within

variable {n m : Nat}

theorem within_done (n : Nat) (a : α) : Within n (.done a : Thread σ α) := by
  cases n <;> trivial

theorem within_atomically (act : σ → Except ε α × σ) : Within 1 (atomically act).run :=
  fun _ => trivial

theorem withinExcept_bind {t : ExceptT ε (Thread σ) α} {f : α → ExceptT ε (Thread σ) β}
    (ht : Within n t.run) (hf : ∀ a, Within m (f a).run) : Within (n + m) (t >>= f).run := by
  refine ht.bind fun result => ?_
  cases result with
  | error e => exact within_done m _
  | ok a => exact hf a

theorem withinExcept_tryCatch {t : ExceptT ε (Thread σ) α}
    {handler : ε → ExceptT ε (Thread σ) α} (ht : Within n t.run)
    (hhandler : ∀ e, Within m (handler e).run) : Within (n + m) (tryCatch t handler).run := by
  refine ht.bind fun result => ?_
  cases result with
  | error e => exact hhandler e
  | ok a => exact within_done m _

end Within

section Rules

variable {γ : Type} {aux : σ → σ → γ → γ} {R G : σ × γ → σ × γ → Prop} {P E O : σ × γ → Prop}
  {Q : α → σ × γ → Prop} {S : β → σ × γ → Prop}

/-- The thread returns with `Q`, or it throws with `E`. The conditions may mention a
variable that the thread does not read. -/
def MeetsOr (aux : σ → σ → γ → γ) (R G : σ × γ → σ × γ → Prop) (Q : α → σ × γ → Prop)
    (E : σ × γ → Prop) (t : ExceptT ε (Thread σ) α) (P : σ × γ → Prop) : Prop :=
  Meets R G (fun result s => match result with
    | .ok a => Q a s
    | .error _ => E s) (t.run.withAux aux) P

theorem meetsOr_bind {t : ExceptT ε (Thread σ) α} {f : α → ExceptT ε (Thread σ) β}
    (ht : MeetsOr aux R G Q E t P) (hf : ∀ a, MeetsOr aux R G S E (f a) (Q a)) :
    MeetsOr aux R G S E (t >>= f) P := by
  have hbind : (t >>= f).run.withAux aux =
      t.run.withAux aux >>= fun result => (ExceptT.bindCont f result).withAux aux :=
    withAux_bind aux t.run (ExceptT.bindCont f)
  rw [MeetsOr, hbind]
  refine meets_bind ht fun result => ?_
  cases result with
  | error e => exact meets_pure fun s hs => hs
  | ok a => exact hf a

theorem meetsOr_tryCatch {t : ExceptT ε (Thread σ) α} {handler : ε → ExceptT ε (Thread σ) α}
    (ht : MeetsOr aux R G Q O t P) (hhandler : ∀ e, MeetsOr aux R G Q E (handler e) O) :
    MeetsOr aux R G Q E (tryCatch t handler) P := by
  have hcatch : (tryCatch t handler).run.withAux aux =
      t.run.withAux aux >>= fun result => (match result with
        | .ok a => pure (.ok a)
        | .error e => (handler e).run : Thread σ (Except ε α)).withAux aux :=
    withAux_bind aux t.run _
  rw [MeetsOr, hcatch]
  refine meets_bind ht fun result => ?_
  cases result with
  | error e => exact hhandler e
  | ok a => exact meets_pure fun s hs => hs

theorem MeetsOr.imp {Q' : α → σ × γ → Prop} {E' : σ × γ → Prop} {t : ExceptT ε (Thread σ) α}
    (ht : MeetsOr aux R G Q E t P) (hQ : ∀ a s, Q a s → Q' a s) (hE : ∀ s, E s → E' s) :
    MeetsOr aux R G Q' E' t P := by
  refine Meets.imp ht fun result s hs => ?_
  cases result with
  | error e => exact hE s hs
  | ok a => exact hQ a s hs

theorem meetsOr_pure {a : α} (hQ : ∀ s, P s → Q a s) :
    MeetsOr aux R G Q E (pure a : ExceptT ε (Thread σ) α) P :=
  hQ

theorem meetsOr_throw {e : ε} (hE : ∀ s, P s → E s) :
    MeetsOr aux R G Q E (throw e : ExceptT ε (Thread σ) α) P :=
  hE

theorem meetsOr_settled {a : α} {f : α → ExceptT ε (Thread σ) β}
    (hf : MeetsOr aux R G S E (f a) P) : MeetsOr aux R G S E (settled (.ok a) >>= f) P :=
  hf

theorem meetsOr_atomically {act : σ → Except ε α × σ} (hQ : ∀ a, Stable R (Q a))
    (hE : Stable R E)
    (hact : ∀ s g, P (s, g) → G (s, g) ((act s).2, aux s (act s).2 g) ∧
      match act s with
      | (.ok a, s') => Q a (s', aux s s' g)
      | (.error _, s') => E (s', aux s s' g)) : MeetsOr aux R G Q E (atomically act) P := by
  rintro ⟨s, g⟩ hs
  obtain ⟨hG, hafter⟩ := hact s g hs
  refine ⟨hG, ?_⟩
  change ∃ O, Stable R O ∧ O ((act s).2, aux s (act s).2 g) ∧ Meets R G _ (.done (act s).1) O
  rcases hcase : act s with ⟨e | a, s'⟩ <;> rw [hcase] at hafter
  · exact ⟨E, hE, hafter, fun _ hthrown => hthrown⟩
  · exact ⟨Q a, hQ a, hafter, fun _ hreturned => hreturned⟩

end Rules

end Exceptions

section Systems

variable {ι σ α : Type} [DecidableEq ι]

structure System (ι σ α : Type) where
  state : σ
  threads : ι → Thread σ α

/-- The scheduler gives a thread its next step. -/
def turn (system : System ι σ α) (i : ι) : System ι σ α :=
  match system.threads i with
  | .done _ => system
  | .step update next =>
      ⟨update system.state, Function.update system.threads i (next system.state)⟩

theorem turn_of_done {system : System ι σ α} {i : ι} {a : α}
    (hthread : system.threads i = .done a) : turn system i = system := by
  rw [turn, hthread]

theorem turn_of_step {system : System ι σ α} {i : ι} {update : σ → σ} {next : σ → Thread σ α}
    (hthread : system.threads i = .step update next) :
    turn system i =
      ⟨update system.state, Function.update system.threads i (next system.state)⟩ := by
  rw [turn, hthread]

theorem threads_turn_self {system : System ι σ α} {i : ι} {update : σ → σ}
    {next : σ → Thread σ α} (hthread : system.threads i = .step update next) :
    (turn system i).threads i = next system.state := by
  rw [turn_of_step hthread]
  exact Function.update_self _ _ _

theorem threads_turn_of_ne (system : System ι σ α) {i j : ι} (hne : j ≠ i) :
    (turn system i).threads j = system.threads j := by
  unfold turn
  split
  · rfl
  · exact Function.update_of_ne hne _ _

theorem threads_foldl_turn {system : System ι σ α} {i : ι} {schedule : List ι}
    (hi : i ∉ schedule) : (schedule.foldl turn system).threads i = system.threads i := by
  induction schedule generalizing system with
  | nil => rfl
  | cons j schedule ih =>
      rw [List.mem_cons, not_or] at hi
      rw [List.foldl_cons, ih hi.2, threads_turn_of_ne system hi.1]

section Runs

variable {R G : ι → σ → σ → Prop} {Q : ι → α → σ → Prop}

/-- Each thread is at a point of its outline whose condition holds. -/
def Outlined (R G : ι → σ → σ → Prop) (Q : ι → α → σ → Prop) (system : System ι σ α) : Prop :=
  ∀ i, ∃ P, Stable (R i) P ∧ P system.state ∧ Meets (R i) (G i) (Q i) (system.threads i) P

theorem outlined_turn (hcompatible : ∀ i j, i ≠ j → ∀ s s', G i s s' → R j s s')
    {system : System ι σ α} (hsystem : Outlined R G Q system) (i : ι) :
    Outlined R G Q (turn system i) := by
  cases hthread : system.threads i with
  | done a => rwa [turn_of_done hthread]
  | step update next =>
      obtain ⟨P, -, hP, hmeets⟩ := hsystem i
      rw [hthread] at hmeets
      obtain ⟨hG, O, hstable, hO, hnext⟩ := hmeets system.state hP
      have hstate : (turn system i).state = update system.state := by rw [turn_of_step hthread]
      intro j
      rcases eq_or_ne j i with rfl | hne
      · refine ⟨O, hstable, hstate ▸ hO, ?_⟩
        rwa [threads_turn_self hthread]
      · obtain ⟨P', hstable', hP', hmeets'⟩ := hsystem j
        refine ⟨P', hstable', ?_, ?_⟩
        · rw [hstate]
          exact hstable' _ _ (hcompatible i j hne.symm _ _ hG) hP'
        · rwa [threads_turn_of_ne system hne]

theorem outlined_foldl (hcompatible : ∀ i j, i ≠ j → ∀ s s', G i s s' → R j s s')
    {system : System ι σ α} (hsystem : Outlined R G Q system) (schedule : List ι) :
    Outlined R G Q (schedule.foldl turn system) :=
  invariant_foldl hsystem (fun _ i hsystem => outlined_turn hcompatible hsystem i) schedule

omit [DecidableEq ι] in
/-- The outline of one thread gives way to another that starts where the thread is. Nothing
more is said of what the other threads return. -/
theorem Outlined.focus {system : System ι σ α} (hsystem : Outlined R G Q system) {i : ι}
    {P : σ → Prop} {Qi : α → σ → Prop} (hstable : Stable (R i) P) (hP : P system.state)
    (hmeets : Meets (R i) (G i) Qi (system.threads i) P) :
    Outlined R G (fun j a s => j = i → Qi a s) system := by
  intro j
  rcases eq_or_ne j i with rfl | hne
  · exact ⟨P, hstable, hP, hmeets.imp fun _ _ hQ _ => hQ⟩
  · obtain ⟨P', hstable', hP', hmeets'⟩ := hsystem j
    exact ⟨P', hstable', hP', hmeets'.imp fun _ _ _ hji => absurd hji hne⟩

/-- The rule for threads side by side: if each relies only on what the others guarantee,
each returns what it returns with its postcondition, under every schedule. -/
theorem returned_of_outlined (hcompatible : ∀ i j, i ≠ j → ∀ s s', G i s s' → R j s s')
    {system : System ι σ α} (hsystem : Outlined R G Q system) (schedule : List ι) {i : ι} {a : α}
    (hreturned : (schedule.foldl turn system).threads i = .done a) :
    Q i a (schedule.foldl turn system).state := by
  obtain ⟨P, -, hP, hmeets⟩ := outlined_foldl hcompatible hsystem schedule i
  rw [hreturned] at hmeets
  exact hmeets _ hP

end Runs

/-- What every step keeps that a thread guarantees holds throughout. -/
theorem invariant_of_outlined {R G : ι → σ → σ → Prop} {Q : ι → α → σ → Prop} {I : σ → Prop}
    (hcompatible : ∀ i j, i ≠ j → ∀ s s', G i s s' → R j s s')
    (hI : ∀ i s s', G i s s' → I s → I s') {system : System ι σ α}
    (hsystem : Outlined R G Q system) (hinit : I system.state) (schedule : List ι) :
    I (schedule.foldl turn system).state := by
  refine (invariant_foldl (I := fun system => Outlined R G Q system ∧ I system.state)
    ⟨hsystem, hinit⟩ ?_ schedule).2
  rintro system i ⟨hsystem, hstate⟩
  refine ⟨outlined_turn hcompatible hsystem i, ?_⟩
  cases hthread : system.threads i with
  | done a => rwa [turn_of_done hthread]
  | step update next =>
      obtain ⟨P, -, hP, hmeets⟩ := hsystem i
      rw [hthread] at hmeets
      rw [turn_of_step hthread]
      exact hI i _ _ (hmeets system.state hP).1 hstate

section Auxiliary

variable {γ : Type} (aux : ι → σ → σ → γ → γ)

def System.withAux (system : System ι σ α) (g : γ) : System ι (σ × γ) α :=
  ⟨(system.state, g), fun i => (system.threads i).withAux (aux i)⟩

theorem turn_withAux (system : System ι σ α) (g : γ) (i : ι) :
    ∃ g', turn (system.withAux aux g) i = (turn system i).withAux aux g' ∧
      (g' = g ∨ g' = aux i system.state (turn system i).state g) := by
  cases hthread : system.threads i with
  | done a =>
      have hlifted : (system.withAux aux g).threads i = .done a :=
        congrArg (Thread.withAux (aux i)) hthread
      exact ⟨g, by rw [turn_of_done hthread, turn_of_done hlifted], .inl rfl⟩
  | step update next =>
      refine ⟨aux i system.state (update system.state) g, ?_, .inr (by rw [turn_of_step hthread])⟩
      have hlifted : (system.withAux aux g).threads i = .step
          (fun s => (update s.1, aux i s.1 (update s.1) s.2))
          fun s => (next s.1).withAux (aux i) :=
        congrArg (Thread.withAux (aux i)) hthread
      rw [turn_of_step hthread, turn_of_step hlifted]
      simp only [System.withAux, System.mk.injEq, true_and]
      funext j
      rcases eq_or_ne j i with rfl | hne
      · rw [Function.update_self, Function.update_self]
      · rw [Function.update_of_ne hne, Function.update_of_ne hne]

/-- The variable changes nothing else. -/
theorem foldl_turn_withAux (schedule : List ι) (system : System ι σ α) (g : γ) :
    ∃ g', schedule.foldl turn (system.withAux aux g) =
      (schedule.foldl turn system).withAux aux g' := by
  induction schedule generalizing system g with
  | nil => exact ⟨g, rfl⟩
  | cons i schedule ih =>
      obtain ⟨g', hturn, -⟩ := turn_withAux aux system g i
      rw [List.foldl_cons, List.foldl_cons, hturn]
      exact ih (turn system i) g'

end Auxiliary

theorem within_turn {system : System ι σ α} {i : ι} {n : Nat}
    (hwithin : Within (n + 1) (system.threads i)) : Within n ((turn system i).threads i) := by
  cases hthread : system.threads i with
  | done a =>
      rw [turn_of_done hthread, hthread]
      cases n <;> trivial
  | step update next =>
      rw [hthread] at hwithin
      rw [threads_turn_self hthread]
      exact hwithin system.state

/-- A thread that is given enough steps has returned. -/
theorem exists_done (schedule : List ι) {system : System ι σ α} {i : ι}
    (hwithin : Within (schedule.count i) (system.threads i)) :
    ∃ a, (schedule.foldl turn system).threads i = .done a := by
  induction schedule generalizing system with
  | nil =>
      cases hthread : system.threads i with
      | done a => exact ⟨a, hthread⟩
      | step update next =>
          rw [hthread] at hwithin
          exact hwithin.elim
  | cons j schedule ih =>
      refine ih ?_
      rcases eq_or_ne j i with rfl | hne
      · rw [List.count_cons_self] at hwithin
        exact within_turn hwithin
      · rw [List.count_cons_of_ne hne] at hwithin
        rwa [threads_turn_of_ne system hne.symm]

end Systems

end RestaurantServer.RelyGuarantee
