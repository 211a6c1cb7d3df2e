import Mathlib.Data.List.Nodup
import Mathlib.Data.List.Perm.Basic
import Mathlib.Logic.Function.Basic

/-!
Rows with a key, where writing a row replaces the one with its key. Rows without
a repeated key are the graph of a map, and writing a row is an update of the map.
-/

namespace RestaurantServer.KeyedRows

variable {κ ρ : Type} (key : ρ → κ)

/-- The rows are those of the map, each once. -/
def Represents (store : κ → Option ρ) (rows : List ρ) : Prop :=
  (rows.map key).Nodup ∧ ∀ k r, store k = some r ↔ r ∈ rows ∧ key r = k

theorem represents_nil : Represents key (fun _ => none) [] := by
  refine ⟨List.nodup_nil, fun k r => ?_⟩
  simp

theorem Represents.perm {store : κ → Option ρ} {rows rows' : List ρ}
    (hrows : Represents key store rows) (hperm : rows'.Perm rows) :
    Represents key store rows' := by
  refine ⟨(hperm.map key).nodup_iff.mpr hrows.1, fun k r => ?_⟩
  rw [hrows.2, hperm.mem_iff]

theorem Represents.filter {store : κ → Option ρ} {rows : List ρ}
    (hrows : Represents key store rows) (p : ρ → Bool) :
    Represents key (fun k => (store k).filter p) (rows.filter p) := by
  refine ⟨hrows.1.sublist (List.filter_sublist.map key), fun k r => ?_⟩
  rw [Option.filter_eq_some_iff, hrows.2, List.mem_filter]
  exact and_right_comm

variable [DecidableEq κ]

def upsert (rows : List ρ) (r : ρ) : List ρ :=
  if key r ∈ rows.map key then rows.map fun row => if key row = key r then r else row
  else rows ++ [r]

theorem mem_upsert (rows : List ρ) (r q : ρ) :
    q ∈ upsert key rows r ↔ q = r ∨ q ∈ rows ∧ key q ≠ key r := by
  by_cases hr : key r ∈ rows.map key
  · rw [upsert, if_pos hr, List.mem_map]
    constructor
    · rintro ⟨row, hrow, rfl⟩
      by_cases heq : key row = key r
      · exact .inl (if_pos heq)
      · rw [if_neg heq]
        exact .inr ⟨hrow, heq⟩
    · rintro (rfl | ⟨hq, hne⟩)
      · obtain ⟨row, hrow, hkey⟩ := List.mem_map.mp hr
        exact ⟨row, hrow, if_pos hkey⟩
      · exact ⟨q, hq, if_neg hne⟩
  · rw [upsert, if_neg hr, List.mem_append, List.mem_singleton]
    constructor
    · rintro (hq | rfl)
      · exact .inr ⟨hq, fun hkey => hr (hkey ▸ List.mem_map_of_mem hq)⟩
      · exact .inl rfl
    · rintro (rfl | ⟨hq, -⟩)
      · exact .inr rfl
      · exact .inl hq

theorem nodup_upsert {rows : List ρ} (hrows : (rows.map key).Nodup) (r : ρ) :
    ((upsert key rows r).map key).Nodup := by
  by_cases hr : key r ∈ rows.map key
  · have hkeys : (rows.map fun row => if key row = key r then r else row).map key =
        rows.map key := by
      rw [List.map_map]
      refine List.map_congr_left fun row _ => ?_
      by_cases heq : key row = key r
      · rw [Function.comp_apply, if_pos heq, heq]
      · rw [Function.comp_apply, if_neg heq]
    rw [upsert, if_pos hr, hkeys]
    exact hrows
  · rw [upsert, if_neg hr, List.map_append, List.map_singleton]
    exact List.nodup_append.mpr ⟨hrows, List.nodup_singleton _, by
      rintro k hk _ hkey rfl
      exact hr (List.mem_singleton.mp hkey ▸ hk)⟩

theorem Represents.upsert {store : κ → Option ρ} {rows : List ρ}
    (hrows : Represents key store rows) (r : ρ) :
    Represents key (Function.update store (key r) (some r)) (upsert key rows r) := by
  refine ⟨nodup_upsert key hrows.1 r, fun k q => ?_⟩
  rw [mem_upsert]
  by_cases hk : k = key r
  · subst hk
    rw [Function.update_self, Option.some_inj]
    constructor
    · rintro rfl
      exact ⟨.inl rfl, rfl⟩
    · rintro ⟨rfl | ⟨-, hne⟩, hkey⟩
      · rfl
      · exact absurd hkey hne
  · rw [Function.update_of_ne hk, hrows.2]
    constructor
    · rintro ⟨hq, rfl⟩
      exact ⟨.inr ⟨hq, hk⟩, rfl⟩
    · rintro ⟨rfl | ⟨hq, -⟩, hkey⟩
      · exact absurd hkey.symm hk
      · exact ⟨hq, hkey⟩

end RestaurantServer.KeyedRows
