import RestaurantServer.CassandraDatabase
import RestaurantServer.KeyedRows

/-!
Tables whose rows are records, where every record has a value for each column. An
insertion writes the record under its key. Compact storage then drops it again if it
has no value besides the key.
-/

namespace RestaurantServer.RecordTables

open RestaurantServer.CassandraDatabase
open RestaurantServer.KeyedRows

/-- How the records of a table are written. -/
structure Layout (ρ : Type) where
  columns : List String
  primaryKey : String
  values : ρ → List (String × Option String)
  key : ρ → Option String
  columns_eq (record : ρ) : (values record).map Prod.fst = columns
  key_eq (record : ρ) : (values record).lookup primaryKey = some (key record)

namespace Layout

variable {ρ : Type} (layout : Layout ρ)

def row (record : ρ) : Row :=
  Row.write (fun _ => none) (layout.values record)

def table (records : List ρ) : Table :=
  ⟨layout.columns, layout.primaryKey, true, records.map layout.row⟩

def isLive (record : ρ) : Bool :=
  layout.columns.any fun column =>
    column ≠ layout.primaryKey ∧ (layout.row record column).isSome

/-- The map of the records after one of them is written. -/
def place (store : Option String → Option ρ) (record : ρ) : Option String → Option ρ :=
  Function.update store (layout.key record)
    (if layout.isLive record then some record else none)

/-- The table holds the records of the map, and compact storage drops none of them. -/
def Holds (store : Option String → Option ρ) (table : Table) : Prop :=
  ∃ records, table = layout.table records ∧ Represents layout.key store records ∧
    ∀ record ∈ records, layout.isLive record = true

theorem row_primaryKey (record : ρ) :
    layout.row record layout.primaryKey = layout.key record := by
  rw [row, Row.write, layout.key_eq]
  rfl

theorem lookup_eq_none_iff (column : String) (record : ρ) :
    (layout.values record).lookup column = none ↔ column ∉ layout.columns := by
  rw [List.lookup_eq_none_iff, ← layout.columns_eq record]
  simp only [List.mem_map, not_exists, not_and]
  constructor
  · rintro hlookup value hvalue rfl
    simpa using hlookup value hvalue
  · intro hcolumn value hvalue
    simpa using fun heq => hcolumn value hvalue heq.symm

theorem write_row (old record : ρ) :
    (layout.row old).write (layout.values record) = layout.row record := by
  funext column
  by_cases hcolumn : column ∈ layout.columns
  · have hvalue := mt (layout.lookup_eq_none_iff column record).mp (not_not.mpr hcolumn)
    obtain ⟨value, hvalue⟩ := Option.ne_none_iff_exists'.mp hvalue
    simp only [row, Row.write, hvalue, Option.getD_some]
  · have hnone (record : ρ) := (layout.lookup_eq_none_iff column record).mpr hcolumn
    simp only [row, Row.write, hnone, Option.getD_none]

theorem insertedRows_eq (records : List ρ) (record : ρ) :
    (if layout.key record ∈ (records.map layout.row).map (· layout.primaryKey) then
        (records.map layout.row).map fun row =>
          if row layout.primaryKey = layout.key record then
            row.write (layout.values record) else row
      else records.map layout.row ++ [layout.row record]) =
      (upsert layout.key records record).map layout.row := by
  have hkeys : (records.map layout.row).map (· layout.primaryKey) =
      records.map layout.key := by
    rw [List.map_map]
    exact List.map_congr_left fun old _ => layout.row_primaryKey old
  rw [hkeys, upsert]
  split
  · rw [List.map_map, List.map_map]
    refine List.map_congr_left fun old _ => ?_
    simp only [Function.comp_apply, row_primaryKey]
    split
    · exact layout.write_row old record
    · rfl
  · rw [List.map_append, List.map_singleton]

/-- An insertion is a write under the key, after which the records without a value are
dropped. -/
theorem insert_table (records : List ρ) (record : ρ) :
    (layout.table records).insert (layout.values record) =
      layout.table ((upsert layout.key records record).filter layout.isLive) := by
  have hrows := layout.insertedRows_eq records record
  simp only [Table.insert, table, layout.key_eq, Option.getD_some]
  rw [← row, hrows, List.filter_map]
  rfl

variable {layout} {store : Option String → Option ρ} {table : Table}

theorem holds_nil : layout.Holds (fun _ => none) (layout.table []) :=
  ⟨[], rfl, represents_nil _, by simp⟩

theorem Holds.insert (hholds : layout.Holds store table) (record : ρ) :
    layout.Holds (layout.place store record) (table.insert (layout.values record)) := by
  obtain ⟨records, rfl, hrepresents, hlive⟩ := hholds
  refine ⟨_, layout.insert_table records record, ?_, ?_⟩
  · have hplace : layout.place store record = fun key =>
        (Function.update store (layout.key record) (some record) key).filter layout.isLive := by
      funext key
      rcases eq_or_ne key (layout.key record) with rfl | hne
      · simp only [place, Function.update_self, Option.filter_some]
      · simp only [place, Function.update_of_ne hne]
        cases hold : store key with
        | none => rfl
        | some old =>
            rw [Option.filter_some_pos (hlive old ((hrepresents.2 key old).mp hold).1)]
    rw [hplace]
    exact (hrepresents.upsert _ record).filter _ layout.isLive
  · intro old hold
    exact (List.mem_filter.mp hold).2

end Layout

end RestaurantServer.RecordTables
