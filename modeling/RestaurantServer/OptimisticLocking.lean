import Mathlib.Data.List.Nodup
import Mathlib.Logic.Function.Basic
import RestaurantServer.RequestRuns

/-!
Optimistic locking. A row carries a counter that each write of it increases, and
a key is never given out twice, so a row that still has the version of a copy is
the row that was copied. A request that reads a copy first and is refused once
the copy is out of date then has its whole effect in its second step, and any
interleaving of such requests is a serial run of those that succeed.
-/

namespace RestaurantServer.OptimisticLocking

open RestaurantServer.RequestRuns

section Tables

variable {κ ρ : Type}

structure Versioned (ρ : Type) where
  version : Int
  value : ρ
  deriving DecidableEq

/-- Rows by key, with the keys that are or were in use. -/
structure Table (κ ρ : Type) where
  rows : κ → Option (Versioned ρ)
  used : List κ
  mem_used : ∀ k, rows k ≠ none → k ∈ used

theorem Table.mem_used_of_some {table : Table κ ρ} {k : κ} {row : Versioned ρ}
    (hrow : table.rows k = some row) : k ∈ table.used := by
  apply table.mem_used
  rw [hrow]
  exact Option.some_ne_none row

/-- What may become of the row under a used key: it stays, it goes for good, or
its version grows. -/
inductive Outlives : Option (Versioned ρ) → Option (Versioned ρ) → Prop
  | same (row : Option (Versioned ρ)) : Outlives row row
  | gone (row : Option (Versioned ρ)) : Outlives row none
  | newer {row row' : Versioned ρ} (hversion : row.version < row'.version) :
      Outlives (some row) (some row')

theorem Outlives.trans {a b c : Option (Versioned ρ)} (hab : Outlives a b)
    (hbc : Outlives b c) : Outlives a c := by
  cases hbc with
  | same => exact hab
  | gone => exact .gone a
  | newer hversion' =>
      cases hab with
      | same => exact .newer hversion'
      | newer hversion => exact .newer (Int.lt_trans hversion hversion')

/-- The second table comes from the first by inserts under new keys, writes that
increase the version, and removals. -/
structure Later (before after : Table κ ρ) : Prop where
  used : ∀ k ∈ before.used, k ∈ after.used
  outlives : ∀ k ∈ before.used, Outlives (before.rows k) (after.rows k)

theorem Later.refl (table : Table κ ρ) : Later table table :=
  ⟨fun _ hk => hk, fun k _ => .same (table.rows k)⟩

theorem Later.trans {first second third : Table κ ρ} (hfirst : Later first second)
    (hsecond : Later second third) : Later first third :=
  ⟨fun k hk => hsecond.used k (hfirst.used k hk),
    fun k hk => (hfirst.outlives k hk).trans (hsecond.outlives k (hfirst.used k hk))⟩

/-- A row that still has its old version is the old row. -/
theorem Later.eq_of_version {before after : Table κ ρ} (hlater : Later before after)
    {k : κ} {row row' : Versioned ρ} (hrow : before.rows k = some row)
    (hrow' : after.rows k = some row') (hversion : row'.version = row.version) :
    row' = row := by
  have houtlives := hlater.outlives k (Table.mem_used_of_some hrow)
  rw [hrow, hrow'] at houtlives
  cases houtlives with
  | same => rfl
  | newer hless => exact absurd hversion.symm (Int.ne_of_lt hless)

theorem Later.eq_none {before after : Table κ ρ} (hlater : Later before after) {k : κ}
    (hused : k ∈ before.used) (hrow : before.rows k = none) : after.rows k = none := by
  have houtlives := hlater.outlives k hused
  rw [hrow] at houtlives
  generalize after.rows k = row at houtlives
  cases houtlives <;> rfl

end Tables

section Writes

variable {κ ρ : Type} [DecidableEq κ]

def Table.put (table : Table κ ρ) (k : κ) (row : Versioned ρ) : Table κ ρ where
  rows := Function.update table.rows k (some row)
  used := if k ∈ table.used then table.used else table.used ++ [k]
  mem_used := by
    intro j hj
    rcases eq_or_ne j k with rfl | hne
    · split
      · assumption
      · simp
    · rw [Function.update_of_ne hne] at hj
      split
      · exact table.mem_used j hj
      · exact List.mem_append_left _ (table.mem_used j hj)

def Table.remove (table : Table κ ρ) (k : κ) : Table κ ρ where
  rows := Function.update table.rows k none
  used := table.used
  mem_used := by
    intro j hj
    rcases eq_or_ne j k with rfl | hne
    · exact absurd (Function.update_self ..) hj
    · rw [Function.update_of_ne hne] at hj
      exact table.mem_used j hj

@[simp] theorem Table.rows_put_self (table : Table κ ρ) (k : κ) (row : Versioned ρ) :
    (table.put k row).rows k = some row :=
  Function.update_self ..

theorem Table.rows_put_of_ne (table : Table κ ρ) {j k : κ} (row : Versioned ρ) (hne : j ≠ k) :
    (table.put k row).rows j = table.rows j :=
  Function.update_of_ne hne ..

@[simp] theorem Table.rows_remove_self (table : Table κ ρ) (k : κ) :
    (table.remove k).rows k = none :=
  Function.update_self ..

theorem Table.rows_remove_of_ne (table : Table κ ρ) {j k : κ} (hne : j ≠ k) :
    (table.remove k).rows j = table.rows j :=
  Function.update_of_ne hne ..

theorem Table.mem_used_put {table : Table κ ρ} {j k : κ} (row : Versioned ρ)
    (hj : j ∈ table.used) : j ∈ (table.put k row).used := by
  change j ∈ if k ∈ table.used then table.used else table.used ++ [k]
  split
  · exact hj
  · exact List.mem_append_left _ hj

theorem later_put_fresh {table : Table κ ρ} {k : κ} (hfresh : k ∉ table.used)
    (row : Versioned ρ) : Later table (table.put k row) := by
  refine ⟨fun j hj => Table.mem_used_put row hj, fun j hj => ?_⟩
  have hne : j ≠ k := by
    rintro rfl
    exact hfresh hj
  rw [Table.rows_put_of_ne table row hne]
  exact .same _

theorem later_put_newer {table : Table κ ρ} {k : κ} {row row' : Versioned ρ}
    (hrow : table.rows k = some row) (hversion : row.version < row'.version) :
    Later table (table.put k row') := by
  refine ⟨fun j hj => Table.mem_used_put row' hj, fun j _ => ?_⟩
  rcases eq_or_ne j k with rfl | hne
  · rw [hrow, Table.rows_put_self]
    exact .newer hversion
  · rw [Table.rows_put_of_ne table row' hne]
    exact .same _

theorem later_remove (table : Table κ ρ) (k : κ) : Later table (table.remove k) := by
  refine ⟨fun j hj => hj, fun j _ => ?_⟩
  rcases eq_or_ne j k with rfl | hne
  · rw [Table.rows_remove_self]
    exact .gone _
  · rw [Table.rows_remove_of_ne table hne]
    exact .same _

end Writes

section Growth

variable {κ ρ : Type}

/-- The keys that have a row. -/
def Table.live (table : Table κ ρ) : List κ :=
  table.used.filter fun k => (table.rows k).isSome

/-- No key is given out twice. -/
structure Grown (before after : Table κ ρ) : Prop extends Later before after where
  nodup : before.used.Nodup → after.used.Nodup

theorem Grown.refl (table : Table κ ρ) : Grown table table :=
  ⟨.refl table, fun hnodup => hnodup⟩

theorem Grown.trans {first second third : Table κ ρ} (hfirst : Grown first second)
    (hsecond : Grown second third) : Grown first third :=
  ⟨hfirst.toLater.trans hsecond.toLater, fun hnodup => hsecond.nodup (hfirst.nodup hnodup)⟩

/-- A key with a row had one before, or it had never been given out. -/
theorem Later.live {before after : Table κ ρ} (hlater : Later before after) {k : κ}
    (hk : k ∈ after.live) : k ∈ before.live ∨ k ∉ before.used := by
  by_cases hused : k ∈ before.used
  · refine .inl (List.mem_filter.mpr ⟨hused, ?_⟩)
    cases hrow : before.rows k with
    | none =>
        have hsome := (List.mem_filter.mp hk).2
        rw [hlater.eq_none hused hrow] at hsome
        cases hsome
    | some row => rfl
  · exact .inr hused

variable [DecidableEq κ]

theorem grown_put_fresh {table : Table κ ρ} {k : κ} (hfresh : k ∉ table.used)
    (row : Versioned ρ) : Grown table (table.put k row) := by
  have hused : (table.put k row).used = table.used ++ [k] := if_neg hfresh
  refine ⟨later_put_fresh hfresh row, fun hnodup => ?_⟩
  rw [hused]
  exact List.nodup_append.mpr ⟨hnodup, List.nodup_singleton k, by
    rintro j hj _ hk rfl
    exact hfresh (List.mem_singleton.mp hk ▸ hj)⟩

theorem grown_put_newer {table : Table κ ρ} {k : κ} {row row' : Versioned ρ}
    (hrow : table.rows k = some row) (hversion : row.version < row'.version) :
    Grown table (table.put k row') := by
  have hused : (table.put k row').used = table.used := if_pos (Table.mem_used_of_some hrow)
  exact ⟨later_put_newer hrow hversion, fun hnodup => hused ▸ hnodup⟩

theorem grown_remove (table : Table κ ρ) (k : κ) : Grown table (table.remove k) :=
  ⟨later_remove table k, fun hnodup => hnodup⟩

end Growth

section Interleavings

variable {ι σ ρ γ ε α : Type}

/-- How requests are served. The first step answers, or keeps a copy of what it
read for the second step, which answers. -/
structure TwoStep (σ ρ γ ε α : Type) where
  first : ρ → σ → γ ⊕ Except ε α × σ
  second : ρ → γ → σ → Except ε α × σ

def TwoStep.serve (steps : TwoStep σ ρ γ ε α) (request : ρ) (store : σ) : Except ε α × σ :=
  match steps.first request store with
  | .inl copy => steps.second request copy store
  | .inr outcome => outcome

inductive Progress (γ ε α : Type) where
  | arrived
  | loaded (copy : γ)
  | answered (answer : Except ε α)

/-- `succeeded` lists the requests answered without an exception with their
answers, in the order of the steps that answered them. -/
structure Interleaved (ι σ γ ε α : Type) where
  store : σ
  progress : ι → Progress γ ε α
  succeeded : List (ι × α)

def Interleaved.start (store : σ) : Interleaved ι σ γ ε α :=
  ⟨store, fun _ => .arrived, []⟩

variable [DecidableEq ι]

def Interleaved.answer (world : Interleaved ι σ γ ε α) (n : ι) :
    Except ε α × σ → Interleaved ι σ γ ε α
  | (.ok a, store) =>
      ⟨store, Function.update world.progress n (.answered (.ok a)), world.succeeded ++ [(n, a)]⟩
  | (.error e, store) =>
      ⟨store, Function.update world.progress n (.answered (.error e)), world.succeeded⟩

/-- The next step of request `n`. -/
def advance (steps : TwoStep σ ρ γ ε α) (requests : ι → ρ) (world : Interleaved ι σ γ ε α)
    (n : ι) : Interleaved ι σ γ ε α :=
  match world.progress n with
  | .arrived =>
      match steps.first (requests n) world.store with
      | .inl copy => { world with progress := Function.update world.progress n (.loaded copy) }
      | .inr outcome => world.answer n outcome
  | .loaded copy => world.answer n (steps.second (requests n) copy world.store)
  | .answered _ => world

/-- A store only moves on along `later`, a request that fails has no effect, and
the second step fails unless the first would read the same copy again. -/
structure Validating (steps : TwoStep σ ρ γ ε α) (later : σ → σ → Prop) : Prop where
  refl : ∀ s, later s s
  trans : ∀ {s t u}, later s t → later t u → later s u
  first_ok : ∀ {r s a s'}, steps.first r s = .inr (.ok a, s') → later s s'
  first_error : ∀ {r s e s'}, steps.first r s = .inr (.error e, s') → s' = s
  second : ∀ {r copy s₀ s}, steps.first r s₀ = .inl copy → later s₀ s →
    (∃ e, steps.second r copy s = (.error e, s)) ∨
      steps.first r s = .inl copy ∧ ∃ a s', steps.second r copy s = (.ok a, s') ∧ later s s'

section Runs

variable {steps : TwoStep σ ρ γ ε α} {later : σ → σ → Prop} {requests : ι → ρ}

/-- Each copy in use was read from an earlier state of the store. -/
def CopiesRead (steps : TwoStep σ ρ γ ε α) (later : σ → σ → Prop) (requests : ι → ρ)
    (world : Interleaved ι σ γ ε α) : Prop :=
  ∀ n copy, world.progress n = .loaded copy →
    ∃ s₀, later s₀ world.store ∧ steps.first (requests n) s₀ = .inl copy

/-- All that a step can do. -/
inductive Advances (steps : TwoStep σ ρ γ ε α) (later : σ → σ → Prop) (requests : ι → ρ)
    (world : Interleaved ι σ γ ε α) (n : ι) : Interleaved ι σ γ ε α → Prop
  | idle : Advances steps later requests world n world
  | loads {copy : γ} (hfirst : steps.first (requests n) world.store = .inl copy)
      (hopen : ∀ answer, world.progress n ≠ .answered answer) :
      Advances steps later requests world n
        { world with progress := Function.update world.progress n (.loaded copy) }
  | fails {e : ε} (hopen : ∀ answer, world.progress n ≠ .answered answer) :
      Advances steps later requests world n (world.answer n (.error e, world.store))
  | succeeds {a : α} {s' : σ} (hopen : ∀ answer, world.progress n ≠ .answered answer)
      (hserve : steps.serve (requests n) world.store = (.ok a, s'))
      (hlater : later world.store s') :
      Advances steps later requests world n (world.answer n (.ok a, s'))

omit [DecidableEq ι] in
theorem not_answered {world : Interleaved ι σ γ ε α} {n : ι} {p : Progress γ ε α}
    (hprogress : world.progress n = p) (hp : ∀ answer, p ≠ .answered answer) :
    ∀ answer, world.progress n ≠ .answered answer := by
  rw [hprogress]
  exact hp

theorem advances_first (hsteps : Validating steps later) {world : Interleaved ι σ γ ε α}
    {n : ι} {outcome : Except ε α × σ} (hprogress : world.progress n = .arrived)
    (hfirst : steps.first (requests n) world.store = .inr outcome) :
    Advances steps later requests world n (world.answer n outcome) := by
  have hopen := not_answered hprogress (by rintro answer ⟨⟩)
  rcases outcome with ⟨e | a, s'⟩
  · rw [hsteps.first_error hfirst]
    exact .fails hopen
  · refine .succeeds hopen ?_ (hsteps.first_ok hfirst)
    rw [TwoStep.serve, hfirst]

theorem advances_second (hsteps : Validating steps later) {world : Interleaved ι σ γ ε α}
    (hcopies : CopiesRead steps later requests world) {n : ι} {copy : γ}
    (hprogress : world.progress n = .loaded copy) :
    Advances steps later requests world n
      (world.answer n (steps.second (requests n) copy world.store)) := by
  have hopen := not_answered hprogress (by rintro answer ⟨⟩)
  obtain ⟨s₀, hlater, hread⟩ := hcopies n copy hprogress
  rcases hsteps.second hread hlater with ⟨e, hsecond⟩ | ⟨hagain, a, s', hsecond, hlater'⟩
  · rw [hsecond]
    exact .fails hopen
  · rw [hsecond]
    refine .succeeds hopen ?_ hlater'
    rw [TwoStep.serve, hagain]
    exact hsecond

theorem advance_advances (hsteps : Validating steps later) {world : Interleaved ι σ γ ε α}
    (hcopies : CopiesRead steps later requests world) (n : ι) :
    Advances steps later requests world n (advance steps requests world n) := by
  rw [advance]
  split
  case h_1 hprogress =>
    split
    case h_1 copy hfirst =>
      exact .loads hfirst (not_answered hprogress (by rintro answer ⟨⟩))
    case h_2 outcome hfirst => exact advances_first hsteps hprogress hfirst
  case h_2 copy hprogress => exact advances_second hsteps hcopies hprogress
  case h_3 => exact .idle

/-- The store is that of a serial run of the requests that have succeeded, in
which each of them gets the answer it got. -/
structure Serial (steps : TwoStep σ ρ γ ε α) (later : σ → σ → Prop) (requests : ι → ρ)
    (store : σ) (world : Interleaved ι σ γ ε α) : Prop where
  copies : CopiesRead steps later requests world
  store_eq : world.store =
    world.succeeded.foldl (fun s r => (steps.serve (requests r.1) s).2) store
  answers : AllSteps (fun s (r : ι × α) => (steps.serve (requests r.1) s).2)
    (fun s r => (steps.serve (requests r.1) s).1 = .ok r.2) store world.succeeded
  once : (world.succeeded.map Prod.fst).Nodup
  answered : ∀ n a, (n, a) ∈ world.succeeded ↔ world.progress n = .answered (.ok a)

omit [DecidableEq ι] in
theorem serial_start (store : σ) :
    Serial steps later requests store (Interleaved.start store) where
  copies := by
    rintro n copy ⟨⟩
  store_eq := rfl
  answers := trivial
  once := List.nodup_nil
  answered := by
    intro n a
    exact iff_of_false List.not_mem_nil (by rintro ⟨⟩)

omit [DecidableEq ι] in
theorem Serial.not_mem {store : σ} {world : Interleaved ι σ γ ε α}
    (hserial : Serial steps later requests store world) {n : ι}
    (hopen : ∀ answer, world.progress n ≠ .answered answer) (a : α) :
    (n, a) ∉ world.succeeded :=
  fun hmem => hopen _ ((hserial.answered n a).mp hmem)

theorem CopiesRead.move (hsteps : Validating steps later)
    {world world' : Interleaved ι σ γ ε α} (hcopies : CopiesRead steps later requests world)
    (hlater : later world.store world'.store) {n : ι} {p : Progress γ ε α}
    (hprogress : world'.progress = Function.update world.progress n p)
    (hp : ∀ copy, p = .loaded copy → steps.first (requests n) world'.store = .inl copy) :
    CopiesRead steps later requests world' := by
  intro m copy hm
  rw [hprogress] at hm
  rcases eq_or_ne m n with rfl | hne
  · rw [Function.update_self] at hm
    exact ⟨world'.store, hsteps.refl _, hp copy hm⟩
  · rw [Function.update_of_ne hne] at hm
    obtain ⟨s₀, hearlier, hread⟩ := hcopies m copy hm
    exact ⟨s₀, hsteps.trans hearlier hlater, hread⟩

/-- A step that answers nobody, or with an exception, only moves one request on. -/
theorem Serial.keep_store (hsteps : Validating steps later) {store : σ}
    {world : Interleaved ι σ γ ε α} (hserial : Serial steps later requests store world)
    {n : ι} (hopen : ∀ answer, world.progress n ≠ .answered answer) {p : Progress γ ε α}
    (hp : ∀ copy, p = .loaded copy → steps.first (requests n) world.store = .inl copy)
    (hfail : ∀ a, p ≠ .answered (.ok a)) :
    Serial steps later requests store
      { world with progress := Function.update world.progress n p } where
  copies := hserial.copies.move hsteps (hsteps.refl _) rfl hp
  store_eq := hserial.store_eq
  answers := hserial.answers
  once := hserial.once
  answered := by
    intro m a
    change _ ↔ Function.update world.progress n p m = _
    rcases eq_or_ne m n with rfl | hne
    · rw [Function.update_self]
      exact iff_of_false (hserial.not_mem hopen a) (hfail a)
    · rw [Function.update_of_ne hne]
      exact hserial.answered m a

theorem Serial.commit (hsteps : Validating steps later) {store : σ}
    {world : Interleaved ι σ γ ε α} (hserial : Serial steps later requests store world)
    {n : ι} (hopen : ∀ answer, world.progress n ≠ .answered answer) {a : α} {s' : σ}
    (hserve : steps.serve (requests n) world.store = (.ok a, s'))
    (hlater : later world.store s') :
    Serial steps later requests store (world.answer n (.ok a, s')) where
  copies := hserial.copies.move hsteps hlater rfl (by rintro copy ⟨⟩)
  store_eq := by
    change s' = (world.succeeded ++ [(n, a)]).foldl _ store
    rw [List.foldl_concat, ← hserial.store_eq, hserve]
  answers := by
    change AllSteps _ _ store (world.succeeded ++ [(n, a)])
    rw [allSteps_concat, ← hserial.store_eq, hserve]
    exact ⟨hserial.answers, rfl⟩
  once := by
    change ((world.succeeded ++ [(n, a)]).map Prod.fst).Nodup
    rw [List.map_append, List.map_singleton]
    refine List.nodup_append.mpr ⟨hserial.once, List.nodup_singleton _, ?_⟩
    rintro m hm _ hn rfl
    obtain ⟨⟨k, b⟩, hmem, rfl⟩ := List.mem_map.mp hm
    obtain rfl : k = n := List.mem_singleton.mp hn
    exact hserial.not_mem hopen b hmem
  answered := by
    intro m b
    change (m, b) ∈ world.succeeded ++ [(n, a)] ↔
      Function.update world.progress n (.answered (.ok a)) m = _
    rw [List.mem_append, List.mem_singleton, Prod.mk.injEq]
    rcases eq_or_ne m n with rfl | hne
    · rw [Function.update_self, Progress.answered.injEq, Except.ok.injEq]
      constructor
      · rintro (hmem | ⟨-, rfl⟩)
        · exact absurd hmem (hserial.not_mem hopen b)
        · rfl
      · rintro rfl
        exact .inr ⟨rfl, rfl⟩
    · rw [Function.update_of_ne hne, hserial.answered]
      constructor
      · rintro (hanswered | ⟨heq, -⟩)
        · exact hanswered
        · exact absurd heq hne
      · exact .inl

theorem Serial.advance (hsteps : Validating steps later) {store : σ}
    {world : Interleaved ι σ γ ε α} (hserial : Serial steps later requests store world)
    (n : ι) : Serial steps later requests store (advance steps requests world n) := by
  have hadvances := advance_advances hsteps hserial.copies n
  generalize OptimisticLocking.advance steps requests world n = world' at hadvances ⊢
  cases hadvances with
  | idle => exact hserial
  | loads hfirst hopen =>
      refine hserial.keep_store hsteps hopen ?_ (by rintro a ⟨⟩)
      rintro copy' ⟨⟩
      exact hfirst
  | fails hopen =>
      exact hserial.keep_store hsteps hopen (by rintro copy ⟨⟩) (by rintro a ⟨⟩)
  | succeeds hopen hserve hlater => exact hserial.commit hsteps hopen hserve hlater

/-- Every interleaving is a serial run of the requests that succeed. -/
theorem serial_interleaving (hsteps : Validating steps later) (store : σ)
    (schedule : List ι) :
    Serial steps later requests store
      (schedule.foldl (OptimisticLocking.advance steps requests) (Interleaved.start store)) :=
  invariant_foldl (serial_start store) (fun _ n hserial => hserial.advance hsteps n)
    schedule

theorem later_advance (hsteps : Validating steps later) {world : Interleaved ι σ γ ε α}
    (hcopies : CopiesRead steps later requests world) (n : ι) :
    later world.store (advance steps requests world n).store := by
  have hadvances := advance_advances hsteps hcopies n
  generalize advance steps requests world n = world' at hadvances ⊢
  cases hadvances with
  | idle => exact hsteps.refl _
  | loads => exact hsteps.refl _
  | fails => exact hsteps.refl _
  | succeeds _ _ hlater => exact hlater

theorem Serial.later_run (hsteps : Validating steps later) {store : σ}
    {world : Interleaved ι σ γ ε α} (hserial : Serial steps later requests store world)
    (schedule : List ι) :
    later world.store
      (schedule.foldl (OptimisticLocking.advance steps requests) world).store := by
  have hrun := invariant_foldl
    (I := fun world' => Serial steps later requests store world' ∧
      later world.store world'.store) ⟨hserial, hsteps.refl _⟩
    (fun world' n hworld => ⟨hworld.1.advance hsteps n,
      hsteps.trans hworld.2 (later_advance hsteps hworld.1.copies n)⟩) schedule
  exact hrun.2

theorem answered_advance (hsteps : Validating steps later) {world : Interleaved ι σ γ ε α}
    (hcopies : CopiesRead steps later requests world) (n : ι) {m : ι} {answer : Except ε α}
    (hanswered : world.progress m = .answered answer) :
    (advance steps requests world n).progress m = .answered answer := by
  have hne {n : ι} (hopen : ∀ answer, world.progress n ≠ .answered answer) : m ≠ n := by
    rintro rfl
    exact hopen answer hanswered
  have hadvances := advance_advances hsteps hcopies n
  generalize advance steps requests world n = world' at hadvances ⊢
  cases hadvances with
  | idle => exact hanswered
  | loads _ hopen => exact (Function.update_of_ne (hne hopen) ..).trans hanswered
  | fails hopen => exact (Function.update_of_ne (hne hopen) ..).trans hanswered
  | succeeds hopen => exact (Function.update_of_ne (hne hopen) ..).trans hanswered

/-- No step of a request that does not succeed in the end has an effect. -/
theorem Serial.store_advance (hsteps : Validating steps later) {store : σ}
    {world : Interleaved ι σ γ ε α} (hserial : Serial steps later requests store world)
    {n : ι} {schedule : List ι}
    (hfailed : ∀ a, (schedule.foldl (OptimisticLocking.advance steps requests)
      (OptimisticLocking.advance steps requests world n)).progress n ≠ .answered (.ok a)) :
    (OptimisticLocking.advance steps requests world n).store = world.store := by
  have hopen : ∀ a, (OptimisticLocking.advance steps requests world n).progress n ≠
      .answered (.ok a) := by
    intro a hanswered
    have hrun := invariant_foldl
      (I := fun world' => Serial steps later requests store world' ∧
        world'.progress n = .answered (.ok a)) ⟨hserial.advance hsteps n, hanswered⟩
      (fun world' m hworld => ⟨hworld.1.advance hsteps m,
        answered_advance hsteps hworld.1.copies m hworld.2⟩) schedule
    exact hfailed a hrun.2
  have hadvances := advance_advances hsteps hserial.copies n
  generalize OptimisticLocking.advance steps requests world n = world' at hadvances hopen ⊢
  cases hadvances with
  | idle => rfl
  | loads => rfl
  | fails => rfl
  | succeeds => exact absurd (Function.update_self ..) (hopen _)

end Runs

end Interleavings

end RestaurantServer.OptimisticLocking
