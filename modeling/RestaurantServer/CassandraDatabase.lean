import Mathlib.Data.List.Perm.Basic
import Mathlib.Logic.Function.Basic
import RestaurantServer.JavaExceptions

/-!
A Cassandra database as the statements of this server see it: keyspaces of
tables with one primary key column, all columns of type text. A statement either
throws and changes nothing, or takes effect.
-/

namespace RestaurantServer.CassandraDatabase

open RestaurantServer.JavaExceptions

abbrev Row := String → Option String

/-- In compact storage a row without any value besides its key does not exist. -/
structure Table where
  columns : List String
  primaryKey : String
  compactStorage : Bool
  rows : List Row

abbrev Keyspace := String → Option Table

abbrev Database := String → Option Keyspace

inductive Statement where
  | createKeyspace (keyspace : String)
  | createTable (keyspace name : String) (columns : List String) (primaryKey : String)
  | dropTable (keyspace name : String)
  | insertInto (keyspace name : String) (values : List (String × Option String))
  | selectAll (keyspace name : String)
  deriving DecidableEq

structure ResultSet where
  columns : List String
  rows : List Row

/-- The order in which a database returns rows is its own choice. -/
structure RowOrder where
  arrange : List Row → List Row
  perm (rows : List Row) : (arrange rows).Perm rows

def alreadyExistsException : Throwable :=
  ⟨"com.datastax.driver.core.exceptions.AlreadyExistsException", none, by decide⟩

def invalidQueryException : Throwable :=
  ⟨"com.datastax.driver.core.exceptions.InvalidQueryException", none, by decide⟩

/-- The values are for columns of the table, and the key is neither `null` nor
empty. -/
def Table.accepts (table : Table) (values : List (String × Option String)) : Bool :=
  (values.all fun value => table.columns.contains value.1) &&
    match values.lookup table.primaryKey with
    | some (some key) => key ≠ ""
    | _ => false

def Row.write (row : Row) (values : List (String × Option String)) : Row :=
  fun column => (values.lookup column).getD (row column)

def Table.isLive (table : Table) (row : Row) : Bool :=
  !table.compactStorage ||
    table.columns.any fun column => column ≠ table.primaryKey ∧ (row column).isSome

def Table.insert (table : Table) (values : List (String × Option String)) : Table :=
  let key := (values.lookup table.primaryKey).getD none
  let rows :=
    if key ∈ table.rows.map (· table.primaryKey) then
      table.rows.map fun row =>
        if row table.primaryKey = key then row.write values else row
    else table.rows ++ [Row.write (fun _ => none) values]
  { table with rows := rows.filter table.isLive }

namespace Database

def table (database : Database) (keyspace name : String) : Option Table :=
  (database keyspace).bind (· name)

def setTable (database : Database) (keyspace name : String) (table : Option Table) :
    Database :=
  Function.update database keyspace
    ((database keyspace).map fun space => Function.update space name table)

def execute (database : Database) (order : RowOrder) :
    Statement → Except Throwable (Database × ResultSet)
  | .createKeyspace keyspace =>
      if (database keyspace).isSome then .error alreadyExistsException
      else .ok (Function.update database keyspace (some fun _ => none), ⟨[], []⟩)
  | .createTable keyspace name columns primaryKey =>
      if (database keyspace).isNone then .error invalidQueryException
      else if (database.table keyspace name).isSome then .error alreadyExistsException
      else .ok (database.setTable keyspace name (some ⟨columns, primaryKey, true, []⟩),
        ⟨[], []⟩)
  | .dropTable keyspace name =>
      if (database.table keyspace name).isNone then .error invalidQueryException
      else .ok (database.setTable keyspace name none, ⟨[], []⟩)
  | .insertInto keyspace name values =>
      match database.table keyspace name with
      | none => .error invalidQueryException
      | some table =>
          if table.accepts values then
            .ok (database.setTable keyspace name (some (table.insert values)), ⟨[], []⟩)
          else .error invalidQueryException
  | .selectAll keyspace name =>
      match database.table keyspace name with
      | none => .error invalidQueryException
      | some table => .ok (database, ⟨table.columns, order.arrange table.rows⟩)

theorem table_setTable (database : Database) (keyspace name other : String)
    (table : Option Table) (hkeyspace : (database keyspace).isSome) :
    (database.setTable keyspace name table).table keyspace other =
      if other = name then table else database.table keyspace other := by
  obtain ⟨space, hspace⟩ := Option.isSome_iff_exists.mp hkeyspace
  simp only [Database.table, setTable, Function.update_self, hspace, Option.map_some,
    Option.bind_some, Function.update_apply]

theorem isSome_setTable (database : Database) (keyspace name : String)
    (table : Option Table) (other : String) :
    (database.setTable keyspace name table other).isSome = (database other).isSome := by
  by_cases hother : other = keyspace
  · subst hother
    simp [setTable]
  · simp [setTable, hother]

theorem table_setTable_of_ne (database : Database) (keyspace name : String) {other : String}
    (hne : other ≠ name) (table : Option Table) :
    (database.setTable keyspace name table).table keyspace other =
      database.table keyspace other := by
  simp only [Database.table, setTable, Function.update_self]
  cases database keyspace with
  | none => rfl
  | some space => exact Function.update_of_ne hne _ _

theorem isSome_of_table {database : Database} {keyspace name : String} {table : Table}
    (htable : database.table keyspace name = some table) : (database keyspace).isSome := by
  obtain ⟨space, hspace, -⟩ := Option.bind_eq_some_iff.mp htable
  rw [hspace]
  rfl

section Executed

variable {database after : Database} {order : RowOrder} {results : ResultSet}
  {keyspace name : String}

theorem createKeyspace_executed
    (hexecute : database.execute order (.createKeyspace keyspace) = .ok (after, results)) :
    database keyspace = none ∧
      after = Function.update database keyspace (some fun _ => none) := by
  simp only [execute] at hexecute
  split at hexecute
  · cases hexecute
  · rename_i hspace
    obtain ⟨rfl, -⟩ := Prod.mk.inj (Except.ok.inj hexecute)
    exact ⟨by simpa using hspace, rfl⟩

theorem createTable_executed {columns : List String} {primaryKey : String}
    (hexecute : database.execute order (.createTable keyspace name columns primaryKey) =
      .ok (after, results)) :
    (database keyspace).isSome ∧ database.table keyspace name = none ∧
      after = database.setTable keyspace name (some ⟨columns, primaryKey, true, []⟩) := by
  simp only [execute] at hexecute
  split at hexecute
  · cases hexecute
  rename_i hspace
  split at hexecute
  · cases hexecute
  rename_i htable
  obtain ⟨rfl, -⟩ := Prod.mk.inj (Except.ok.inj hexecute)
  exact ⟨by simpa [← Option.isSome_iff_ne_none] using hspace, by simpa using htable, rfl⟩

theorem dropTable_executed
    (hexecute : database.execute order (.dropTable keyspace name) = .ok (after, results)) :
    after = database.setTable keyspace name none := by
  simp only [execute] at hexecute
  split at hexecute
  · cases hexecute
  · exact (Prod.mk.inj (Except.ok.inj hexecute)).1.symm

theorem insertInto_executed {values : List (String × Option String)}
    (hexecute : database.execute order (.insertInto keyspace name values) =
      .ok (after, results)) :
    ∃ table, database.table keyspace name = some table ∧
      after = database.setTable keyspace name (some (table.insert values)) := by
  simp only [execute] at hexecute
  split at hexecute
  · cases hexecute
  rename_i table htable
  split at hexecute
  · exact ⟨table, htable, (Prod.mk.inj (Except.ok.inj hexecute)).1.symm⟩
  · cases hexecute

theorem selectAll_executed
    (hexecute : database.execute order (.selectAll keyspace name) = .ok (after, results)) :
    ∃ table, database.table keyspace name = some table ∧ after = database ∧
      results = ⟨table.columns, order.arrange table.rows⟩ := by
  simp only [execute] at hexecute
  split at hexecute
  · cases hexecute
  · rename_i table htable
    obtain ⟨rfl, rfl⟩ := Prod.mk.inj (Except.ok.inj hexecute)
    exact ⟨table, htable, rfl, rfl⟩

end Executed

end Database

end RestaurantServer.CassandraDatabase
