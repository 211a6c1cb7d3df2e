import Mathlib.Data.List.Infix

/-!
Runs of a state machine over a list of requests. An invariant may mention the
requests handled so far, and a step may be allowed only under a condition on
the state, or on the requests, before it.
-/

namespace RestaurantServer.RequestRuns

variable {σ ρ : Type*}

/-- Every request of a run meets `ok` in the state in which it is handled. -/
def AllSteps (step : σ → ρ → σ) (ok : σ → ρ → Prop) : σ → List ρ → Prop
  | _, [] => True
  | s, r :: rs => ok s r ∧ AllSteps step ok (step s r) rs

theorem allSteps_congr {step : σ → ρ → σ} {ok ok' : σ → ρ → Prop}
    (hiff : ∀ s r, ok s r ↔ ok' s r) (s : σ) (rs : List ρ) :
    AllSteps step ok s rs ↔ AllSteps step ok' s rs := by
  induction rs generalizing s with
  | nil => exact Iff.rfl
  | cons r rs ih => exact and_congr (hiff s r) (ih (step s r))

theorem allSteps_concat (step : σ → ρ → σ) (ok : σ → ρ → Prop) (s : σ)
    (rs : List ρ) (r : ρ) :
    AllSteps step ok s (rs ++ [r]) ↔
      AllSteps step ok s rs ∧ ok (rs.foldl step s) r := by
  induction rs generalizing s with
  | nil => simp [AllSteps]
  | cons q rs ih =>
      simp only [List.cons_append, AllSteps, List.foldl_cons, ih]
      exact and_assoc.symm

/-- An invariant that each allowed step keeps, and that each other step
breaks, holds throughout a run exactly when every step is allowed. -/
theorem invariant_iff_allSteps {step : σ → ρ → σ} {ok : σ → ρ → Prop}
    {I : List ρ → σ → Prop} {s : σ} (hinit : I [] s)
    (hstep : ∀ done s r, I done s → (I (done ++ [r]) (step s r) ↔ ok s r))
    (rs : List ρ) :
    (∀ done, done <+: rs → I done (done.foldl step s)) ↔
      AllSteps step ok s rs := by
  induction rs using List.reverseRecOn with
  | nil =>
      constructor
      · intro _
        trivial
      · intro _ done hdone
        obtain rfl := List.prefix_nil.mp hdone
        exact hinit
  | append_singleton rs r ih =>
      rw [allSteps_concat, ← ih]
      constructor
      · intro hall
        have hbefore : ∀ done, done <+: rs → I done (done.foldl step s) :=
          fun done hdone => hall done (hdone.trans (List.prefix_append rs [r]))
        refine ⟨hbefore, ?_⟩
        have hlast := hall (rs ++ [r]) List.prefix_rfl
        rw [List.foldl_concat] at hlast
        exact (hstep rs _ r (hbefore rs List.prefix_rfl)).mp hlast
      · rintro ⟨hbefore, hok⟩ done hdone
        rcases List.prefix_concat_iff.mp hdone with rfl | hdone
        · rw [List.foldl_concat]
          exact (hstep rs _ r (hbefore rs List.prefix_rfl)).mpr hok
        · exact hbefore done hdone

theorem invariant_foldl {step : σ → ρ → σ} {I : σ → Prop} {s : σ}
    (hinit : I s) (hstep : ∀ s r, I s → I (step s r)) (rs : List ρ) :
    I (rs.foldl step s) := by
  induction rs generalizing s with
  | nil => exact hinit
  | cons r rs ih => exact ih (hstep s r hinit)

/-- An invariant that every allowed step keeps holds throughout a run of allowed
steps. -/
theorem invariant_of_allSteps {step : σ → ρ → σ} {ok : σ → ρ → Prop}
    {I : σ → Prop} {s : σ} {rs : List ρ} (hinit : I s)
    (hstep : ∀ s r, I s → ok s r → I (step s r)) (hok : AllSteps step ok s rs) :
    ∀ done, done <+: rs → I (done.foldl step s) := by
  induction rs generalizing s with
  | nil =>
      intro done hdone
      obtain rfl := List.prefix_nil.mp hdone
      exact hinit
  | cons r rs ih =>
      intro done hdone
      rcases List.prefix_cons_iff.mp hdone with rfl | ⟨done, rfl, hrest⟩
      · exact hinit
      · exact ih (hstep s r hinit hok.1) hok.2 done hrest

section Records

variable {τ : Type*} {record : List ρ → List τ}
  (hgrows : ∀ rs r, ∃ entry : Option τ, record (rs ++ [r]) = record rs ++ entry.toList)

include hgrows

/-- A record that grows by at most one entry in a step was each record in between at some
time. -/
theorem exists_record_eq {before during : List ρ} {between : List τ}
    (hstart : record before <+: between) (hend : between <+: record (before ++ during)) :
    ∃ part, part <+: during ∧ record (before ++ part) = between := by
  induction during using List.reverseRecOn with
  | nil =>
      rw [List.append_nil] at hend
      refine ⟨[], List.prefix_rfl, ?_⟩
      rw [List.append_nil]
      exact hstart.eq_of_length_le hend.length_le
  | append_singleton during r ih =>
      obtain ⟨entry, hentry⟩ := hgrows (before ++ during) r
      rw [← List.append_assoc, hentry] at hend
      cases entry with
      | none =>
          rw [Option.toList_none, List.append_nil] at hend
          obtain ⟨part, hpart, heq⟩ := ih hend
          exact ⟨part, hpart.trans (List.prefix_append _ _), heq⟩
      | some entry =>
          rcases List.prefix_concat_iff.mp hend with rfl | hend
          · exact ⟨during ++ [r], List.prefix_rfl, by rw [← List.append_assoc, hentry]; rfl⟩
          · obtain ⟨part, hpart, heq⟩ := ih hend
            exact ⟨part, hpart.trans (List.prefix_append _ _), heq⟩

/-- A new entry has entered the record in one of the steps. -/
theorem exists_step_of_mem {before during : List ρ} {entry : τ} (hbefore : entry ∉ record before)
    (hafter : entry ∈ record (before ++ during)) :
    ∃ part r, part ++ [r] <+: during ∧
      record (before ++ part ++ [r]) = record (before ++ part) ++ [entry] := by
  induction during using List.reverseRecOn with
  | nil =>
      rw [List.append_nil] at hafter
      exact absurd hafter hbefore
  | append_singleton during r ih =>
      by_cases hold : entry ∈ record (before ++ during)
      · obtain ⟨part, r', hpart, heq⟩ := ih hold
        exact ⟨part, r', hpart.trans (List.prefix_append _ _), heq⟩
      · obtain ⟨new, hnew⟩ := hgrows (before ++ during) r
        rw [← List.append_assoc, hnew, List.mem_append, Option.mem_toList] at hafter
        obtain rfl := hafter.resolve_left hold
        exact ⟨during, r, List.prefix_rfl, hnew⟩

end Records

end RestaurantServer.RequestRuns
