import RestaurantServer.ConfigurationRuns

/-!
What no run does to a database. The requests work in one keyspace and on two tables of
it. The table that tries out a new keyspace is only ever created in a keyspace that the
same request has created, so in a keyspace that exists it is neither made nor dropped.
-/

namespace RestaurantServer.DatabaseFrames

open RestaurantServer.MethodTriples
open RestaurantServer.RequestRuns
open RestaurantServer.CassandraDatabase
open RestaurantServer.SessionUtil
open RestaurantServer.SessionCalls
open RestaurantServer.RestaurantController
open RestaurantServer.OpenClusters
open RestaurantServer.SessionInvariants
open RestaurantServer.ConfigurationRuns

/-- What stays of a database: the other keyspaces, and in the keyspace `accounts`, once
it exists, the table `tables`, the definition of the table `restaurants`, and whatever
else is there. -/
structure Framed (before after : Database) : Prop where
  keyspaces (keyspace : String) : keyspace ≠ "accounts" → after keyspace = before keyspace
  accounts : (before "accounts").isSome → (after "accounts").isSome
  others (name : String) : (before "accounts").isSome → name ≠ "restaurants" →
    name ≠ "tables" → after.table "accounts" name = before.table "accounts" name
  tables (table : Table) : before.table "accounts" "tables" = some table →
    after.table "accounts" "tables" = some table
  restaurants (table : Table) : before.table "accounts" "restaurants" = some table →
    ∃ rows, after.table "accounts" "restaurants" = some { table with rows := rows }

section Frames

variable {before database after : Database}

theorem Framed.refl (database : Database) : Framed database database where
  keyspaces _ _ := rfl
  accounts hspace := hspace
  others _ _ _ _ := rfl
  tables _ htable := htable
  restaurants table htable := ⟨table.rows, htable⟩

theorem Framed.trans (hfirst : Framed before database) (hsecond : Framed database after) :
    Framed before after where
  keyspaces keyspace hne := (hsecond.keyspaces keyspace hne).trans (hfirst.keyspaces keyspace hne)
  accounts hspace := hsecond.accounts (hfirst.accounts hspace)
  others name hspace hrestaurants htables :=
    (hsecond.others name (hfirst.accounts hspace) hrestaurants htables).trans
      (hfirst.others name hspace hrestaurants htables)
  tables table htable := hsecond.tables table (hfirst.tables table htable)
  restaurants table htable := by
    obtain ⟨rows, hrows⟩ := hfirst.restaurants table htable
    exact hsecond.restaurants { table with rows := rows } hrows

theorem table_eq_none {name : String} (hspace : database "accounts" = none) :
    database.table "accounts" name = none := by
  rw [Database.table, hspace]
  rfl

/-- In a database without the keyspace only the other keyspaces matter. -/
theorem framed_of_none (hspace : before "accounts" = none)
    (hkeyspaces : ∀ keyspace, keyspace ≠ "accounts" → after keyspace = before keyspace) :
    Framed before after where
  keyspaces := hkeyspaces
  accounts hsome := by
    rw [hspace] at hsome
    cases hsome
  others name hsome _ _ := by
    rw [hspace] at hsome
    cases hsome
  tables table htable := by
    rw [table_eq_none hspace] at htable
    cases htable
  restaurants table htable := by
    rw [table_eq_none hspace] at htable
    cases htable

theorem setTable_of_ne {keyspace other : String} (hne : other ≠ keyspace) (name : String)
    (table : Option Table) : database.setTable keyspace name table other = database other :=
  Function.update_of_ne hne _ _

theorem framed_setTable {name : String} {table : Table}
    (hspace : (database "accounts").isSome)
    (hname : name = "tables" ∧ database.table "accounts" "tables" = none ∨
      name = "restaurants" ∧ ∀ old, database.table "accounts" "restaurants" = some old →
        ∃ rows, table = { old with rows := rows }) :
    Framed database (database.setTable "accounts" name (some table)) where
  keyspaces keyspace hne := setTable_of_ne hne name (some table)
  accounts _ := by rwa [Database.isSome_setTable]
  others other _ hrestaurants htables := by
    rw [Database.table_setTable _ _ _ _ _ hspace, if_neg]
    rintro rfl
    rcases hname with ⟨rfl, -⟩ | ⟨rfl, -⟩
    · exact htables rfl
    · exact hrestaurants rfl
  tables old hold := by
    rw [Database.table_setTable _ _ _ _ _ hspace, if_neg, hold]
    rintro rfl
    rcases hname with ⟨-, hnone⟩ | ⟨hne, -⟩
    · rw [hnone] at hold
      cases hold
    · exact absurd hne (by decide)
  restaurants old hold := by
    rw [Database.table_setTable _ _ _ _ _ hspace]
    split
    case isTrue heq =>
      subst heq
      rcases hname with ⟨hne, -⟩ | ⟨-, hrows⟩
      · exact absurd hne (by decide)
      · obtain ⟨rows, rfl⟩ := hrows old hold
        exact ⟨rows, rfl⟩
    case isFalse => exact ⟨old.rows, hold⟩

theorem framed_createTable {order : RowOrder} {name primaryKey : String}
    {columns : List String} {results : ResultSet}
    (hname : name = "tables" ∨ name = "restaurants")
    (hexecute : database.execute order (.createTable "accounts" name columns primaryKey) =
      .ok (after, results)) : Framed database after := by
  obtain ⟨hspace, hnone, rfl⟩ := Database.createTable_executed hexecute
  refine framed_setTable hspace ?_
  rcases hname with rfl | rfl
  · exact .inl ⟨rfl, hnone⟩
  · refine .inr ⟨rfl, fun old hold => ?_⟩
    rw [hnone] at hold
    cases hold

theorem framed_insertInto {order : RowOrder} {values : List (String × Option String)}
    {results : ResultSet}
    (hexecute : database.execute order (.insertInto "accounts" "restaurants" values) =
      .ok (after, results)) : Framed database after := by
  obtain ⟨table, htable, rfl⟩ := Database.insertInto_executed hexecute
  refine framed_setTable (Database.isSome_of_table htable) (.inr ⟨rfl, fun old hold => ?_⟩)
  obtain rfl : table = old := Option.some.inj (htable.symm.trans hold)
  exact ⟨_, rfl⟩

theorem framed_execute {order : RowOrder} {statement : Statement} {results : ResultSet}
    (hroutine : Routine statement)
    (hexecute : database.execute order statement = .ok (after, results)) :
    Framed database after := by
  rcases hroutine with rfl | hsetup | ⟨values, rfl⟩ | rfl
  · obtain ⟨hspace, rfl⟩ := Database.createKeyspace_executed hexecute
    exact framed_of_none hspace fun keyspace hne => Function.update_of_ne hne _ _
  · simp only [setupStatements, List.mem_cons, List.not_mem_nil, or_false] at hsetup
    rcases hsetup with rfl | rfl
    · exact framed_createTable (.inr rfl) hexecute
    · exact framed_createTable (.inl rfl) hexecute
  · exact framed_insertInto hexecute
  · obtain ⟨table, -, rfl, -⟩ := Database.selectAll_executed hexecute
    exact .refl after

end Frames

section Requests

variable (environment : Environment) {start : String → Database}

def FramedFrom (start : String → Database) (world : World) : Prop :=
  ∀ address, Framed (start address) (world.network address)

/-- The cluster in the field leads to a database that had no keyspace `accounts`. -/
def InNewKeyspace (start : String → Database) (world : World) : Prop :=
  FramedFrom start world ∧
    ∃ cluster, world.cluster = some cluster ∧ start cluster.address "accounts" = none

theorem framedFrom_afterStatement {world : World} (hworld : FramedFrom start world)
    {cluster : Cluster} {database : Database}
    (hdatabase : Framed (start cluster.address) database) (statement : Statement) :
    FramedFrom start (afterStatement world cluster statement (some database)) := by
  intro address
  change Framed (start address) (Function.update world.network cluster.address database address)
  rcases eq_or_ne address cluster.address with rfl | hne
  · rw [Function.update_self]
    exact hdatabase
  · rw [Function.update_of_ne hne]
    exact hworld address

theorem framedFrom_closed : Closed environment Routine (FramedFrom start) where
  called _ hworld := hworld
  pooled _ _ hworld := hworld
  initialised _ hworld := hworld
  closed _ _ _ hworld := hworld
  refused _ _ _ _ hworld := hworld
  executed _ cluster statement _ _ hroutine hexecute hworld :=
    framedFrom_afterStatement hworld
      ((hworld cluster.address).trans (framed_execute hroutine hexecute)) statement

/-- A schema is only created where there was none. -/
theorem createSchema_framed :
    Triple (FramedFrom start) (createSchema environment "accounts")
      (fun _ => InNewKeyspace start) (FramedFrom start) := by
  have hclosed : Closed environment Routine (FramedFrom start) := framedFrom_closed environment
  refine triple_tryCatch (F := FramedFrom start) ?_ fun _ => triple_throw fun _ hs => hs
  refine triple_bind hclosed.setupConfiguredPooling fun _ => ?_
  rw [← bind_assoc]
  refine triple_bind (Q := fun _ => InNewKeyspace start) ?_ fun _ => triple_pure fun _ hs => hs
  intro world hworld
  rcases call_statement_cases environment none (.createKeyspace "accounts") world with
    ⟨e, world', hworld', hcall⟩ | ⟨cluster, hcluster, ⟨e, hcall⟩ | ⟨database, results, hexecute,
      hcall⟩⟩ <;> rw [hcall]
  · rcases hworld' with rfl | ⟨cluster, hcluster, rfl⟩
    · exact hworld
    · exact hclosed.afterConnecting hcluster hworld
  · exact hworld
  · have hframed := framed_execute (.inl rfl) hexecute
    have hafter := (hworld cluster.address).trans hframed
    refine ⟨framedFrom_afterStatement hworld hafter (.createKeyspace "accounts"), cluster,
      hcluster, ?_⟩
    obtain ⟨hspace, -⟩ := Database.createKeyspace_executed hexecute
    by_contra hstart
    have hsome := (hworld cluster.address).accounts (Option.isSome_iff_ne_none.mpr hstart)
    rw [hspace] at hsome
    cases hsome

/-- The driver may have closed the cluster, but its address is the same. -/
theorem newKeyspace_afterConnecting {world : World} {cluster : Cluster}
    (hcluster : world.cluster = some cluster) (hworld : InNewKeyspace start world) :
    InNewKeyspace start (afterConnecting environment cluster world) := by
  obtain ⟨hframed, cluster', hcluster', hspace⟩ := hworld
  obtain rfl : cluster = cluster' := Option.some.inj (hcluster.symm.trans hcluster')
  have hclosed : Closed environment Routine (FramedFrom start) := framedFrom_closed environment
  refine ⟨hclosed.afterConnecting hcluster hframed, ?_⟩
  rw [afterConnecting]
  split
  · exact ⟨{ cluster with closed := true }, rfl, hspace⟩
  · exact ⟨cluster, hcluster, hspace⟩

/-- In a new keyspace any statement is free that keeps to it. -/
theorem newKeyspace_statement {statement : Statement}
    (hkeeps : ∀ (database : Database) (order : RowOrder) (after : Database) (results : ResultSet),
      database.execute order statement = .ok (after, results) →
        ∀ keyspace, keyspace ≠ "accounts" → after keyspace = database keyspace)
    (keySpace : Option String) :
    Maintains (InNewKeyspace start) (do
      let session ← connectTo environment keySpace
      let _ ← execute environment session statement) := by
  rw [← bind_assoc]
  refine Maintains.bind ?_ fun _ => maintains_pure _
  rintro world ⟨hworld, cluster, hcluster, hspace⟩
  rcases call_statement_cases environment keySpace statement world with
    ⟨e, world', hworld', hcall⟩ | ⟨cluster', hcluster', ⟨e, hcall⟩ | ⟨database, results, hexecute,
      hcall⟩⟩ <;> rw [hcall]
  · rcases hworld' with rfl | ⟨cluster', hcluster', rfl⟩
    · exact ⟨hworld, cluster, hcluster, hspace⟩
    · exact newKeyspace_afterConnecting environment hcluster' ⟨hworld, cluster, hcluster, hspace⟩
  · exact ⟨hworld, cluster, hcluster, hspace⟩
  · obtain rfl : cluster = cluster' := Option.some.inj (hcluster.symm.trans hcluster')
    refine ⟨framedFrom_afterStatement hworld ?_ statement, cluster, hcluster, hspace⟩
    refine framed_of_none hspace fun keyspace hne => ?_
    rw [hkeeps _ _ _ _ hexecute keyspace hne, (hworld cluster.address).keyspaces keyspace hne]

theorem newKeyspace_createTable :
    Maintains (InNewKeyspace start) (createTable environment "accounts" "test") := by
  refine Maintains.tryCatch (newKeyspace_statement environment ?_ _) fun _ => maintains_throw _
  intro database order after results hexecute keyspace hne
  obtain ⟨-, -, rfl⟩ := Database.createTable_executed hexecute
  exact setTable_of_ne hne _ _

theorem newKeyspace_deleteTable :
    Maintains (InNewKeyspace start) (deleteTable environment "accounts" "test") := by
  refine Maintains.tryCatch (newKeyspace_statement environment ?_ _) fun _ => maintains_throw _
  intro database order after results hexecute keyspace hne
  obtain rfl := Database.dropTable_executed hexecute
  exact setTable_of_ne hne _ _

theorem framedFrom_schemaAndTable :
    Maintains (FramedFrom start) (schemaAndTable environment) := by
  refine triple_bind (createSchema_framed environment) fun _ => ?_
  refine triple_weaken ((newKeyspace_createTable environment).bind fun _ =>
    newKeyspace_deleteTable environment) (fun _ hs => hs) (fun _ _ hs => hs.1) fun _ hs => hs.1

end Requests

/-- Whatever the requests, their order, the configuration and the failures: the
construction of the controller and all that follows leave of each database what is
framed. -/
theorem runs_keep_frames (network : String → Database) (properties : Singleton)
    (environment : Environment) (requests : List (Request × Environment)) (address : String) :
    Framed (network address)
      ((requests.foldl handle (constructed network properties environment)).network address) := by
  refine invariant_foldl (I := FramedFrom network) ?_ ?_ requests address
  · refine ((framedFrom_closed environment).constructController
      (framedFrom_schemaAndTable environment)).after ?_
    exact fun address => .refl (network address)
  · rintro world ⟨request, environment⟩ hworld
    exact (framedFrom_closed environment).handle (fun _ hroutine => hroutine)
      (framedFrom_schemaAndTable environment) (fun _ _ _ hworld => hworld) hworld request

section Addresses

/-- A database differs only if a statement was sent to its address. -/
def ChangedBySent (start : String → Database) (world : World) : Prop :=
  ∀ address, world.network address = start address ∨
    ∃ sent ∈ world.sent, sent.cluster.address = address

variable {start : String → Database}

theorem changedBySent_closed (environment : Environment) :
    Closed environment (fun _ => True) (ChangedBySent start) where
  called _ hworld := hworld
  pooled _ _ hworld := hworld
  initialised _ hworld := hworld
  closed _ _ _ hworld := hworld
  refused world cluster statement _ hworld address := by
    refine (hworld address).imp id ?_
    rintro ⟨sent, hsent, haddress⟩
    exact ⟨sent, List.mem_append_left _ hsent, haddress⟩
  executed world cluster statement database results _ _ hworld address := by
    rcases eq_or_ne address cluster.address with rfl | hne
    · exact .inr ⟨_, List.mem_append_right _ (List.mem_singleton_self _), rfl⟩
    · change Function.update world.network cluster.address database address = _ ∨ _
      rw [Function.update_of_ne hne]
      refine (hworld address).imp id ?_
      rintro ⟨sent, hsent, haddress⟩
      exact ⟨sent, List.mem_append_left _ hsent, haddress⟩

theorem changedBySent_schemaAndTable (environment : Environment) :
    Maintains (ChangedBySent start) (schemaAndTable environment) :=
  (changedBySent_closed environment).schemaAndTable trivial trivial trivial

/-- A database that differs from what it was is one that the server was configured for,
at the start or after some of the requests. -/
theorem only_configured_databases_change (network : String → Database)
    (properties : Singleton) (environment : Environment)
    (requests : List (Request × Environment)) (address : String) :
    (requests.foldl handle (constructed network properties environment)).network address =
        network address ∨
      ∃ done, done <+: requests ∧
        (done.foldl configure properties).cassandraIpAddress = some address := by
  have hchanged : ChangedBySent network
      (requests.foldl handle (constructed network properties environment)) := by
    refine invariant_foldl ?_ ?_ requests
    · refine ((changedBySent_closed environment).constructController
        (changedBySent_schemaAndTable environment)).after ?_
      exact fun address => .inl rfl
    · rintro world ⟨request, environment⟩ hworld
      exact (changedBySent_closed environment).handle (fun _ _ => trivial)
        (changedBySent_schemaAndTable environment) (fun _ _ _ hworld => hworld) hworld request
  refine (hchanged address).imp id ?_
  rintro ⟨sent, hsent, rfl⟩
  obtain ⟨done, hdone, hbuilt⟩ :=
    sent_to_configured network properties environment requests sent hsent
  exact ⟨done, hdone, hbuilt.1⟩

end Addresses

end RestaurantServer.DatabaseFrames
