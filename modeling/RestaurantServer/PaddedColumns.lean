import Mathlib.Data.List.DropRight
import Mathlib.Tactic.Common

/-!
Lines of columns, where each field is filled up with blanks and separators stand
between the fields. Fields without a separator and without a blank at their end are
read back, and no others are ever read.
-/

namespace RestaurantServer.PaddedColumns

variable {κ : Type} [DecidableEq κ] (blank separator : κ)

def Plain (field : List κ) : Prop :=
  separator ∉ field ∧ field.getLast? ≠ some blank

/-- The fields of a line, each with the number of blanks behind it. -/
def line (fields : List (List κ × Nat)) : List κ :=
  [separator].intercalate (fields.map fun field => field.1 ++ List.replicate field.2 blank)

def trimEnd (field : List κ) : List κ :=
  field.rdropWhile (· == blank)

def readLine (text : List κ) : List (List κ) :=
  (text.splitOn separator).map (trimEnd blank)

variable {blank separator}

theorem trimEnd_eq_self_iff {field : List κ} :
    trimEnd blank field = field ↔ field.getLast? ≠ some blank := by
  rw [trimEnd, List.rdropWhile_eq_self_iff]
  rcases List.eq_nil_or_concat field with rfl | ⟨front, last, rfl⟩
  · simp
  · simp

theorem trimEnd_append_replicate (field : List κ) (count : Nat) :
    trimEnd blank (field ++ List.replicate count blank) = trimEnd blank field := by
  induction count with
  | zero => simp
  | succ count ih =>
      rw [List.replicate_succ', ← List.append_assoc, trimEnd, List.rdropWhile_concat_pos]
      · exact ih
      · simp

theorem trimEnd_trimEnd (field : List κ) :
    trimEnd blank (trimEnd blank field) = trimEnd blank field :=
  List.rdropWhile_idempotent _ _

theorem not_mem_of_mem_splitOn {text piece : List κ} (hpiece : piece ∈ text.splitOn separator) :
    separator ∉ piece := by
  induction text generalizing piece with
  | nil =>
      rw [List.splitOn_nil, List.mem_singleton] at hpiece
      simp [hpiece]
  | cons x text ih =>
      rw [List.splitOn_cons_eq_if_modifyHead] at hpiece
      split at hpiece
      · rcases List.mem_cons.mp hpiece with rfl | hpiece
        · exact List.not_mem_nil
        · exact ih hpiece
      · rename_i hx
        obtain ⟨first, rest, hsplit⟩ :=
          List.exists_cons_of_ne_nil (List.splitOn_ne_nil separator text)
        rw [hsplit] at hpiece ih
        rcases List.mem_cons.mp hpiece with rfl | hpiece
        · rw [List.mem_cons, not_or]
          refine ⟨?_, ih List.mem_cons_self⟩
          rintro rfl
          simp at hx
        · exact ih (List.mem_cons_of_mem _ hpiece)

theorem plain_of_mem_readLine {text field : List κ}
    (hfield : field ∈ readLine blank separator text) : Plain blank separator field := by
  obtain ⟨piece, hpiece, rfl⟩ := List.mem_map.mp hfield
  rw [Plain, ← trimEnd_eq_self_iff, trimEnd_trimEnd]
  refine ⟨fun hseparator => not_mem_of_mem_splitOn hpiece ?_, rfl⟩
  exact (List.rdropWhile_prefix _ _).subset hseparator

theorem readLine_line {fields : List (List κ × Nat)} (hfields : fields ≠ [])
    (hblank : separator ≠ blank) (hplain : ∀ field ∈ fields, Plain blank separator field.1) :
    readLine blank separator (line blank separator fields) = fields.map Prod.fst := by
  rw [readLine, line, List.splitOn_intercalate, List.map_map]
  · refine List.map_congr_left fun field hfield => ?_
    rw [Function.comp_apply, trimEnd_append_replicate]
    exact trimEnd_eq_self_iff.mpr (hplain field hfield).2
  · intro piece hpiece
    obtain ⟨field, hfield, rfl⟩ := List.mem_map.mp hpiece
    rw [List.mem_append, not_or]
    refine ⟨(hplain field hfield).1, fun hmem => hblank ?_⟩
    exact List.eq_of_mem_replicate hmem
  · simpa using hfields

end RestaurantServer.PaddedColumns
