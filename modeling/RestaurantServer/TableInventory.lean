import RestaurantServer.RecordTables
import RestaurantServer.SessionInvariants

/-!
The tables of the restaurants. No endpoint uses them yet, so they are followed through
runs in which the methods of `SessionUtil` for them are called between the requests,
in any order. Whatever fails, the calls of `setTables` that return are those that have
an effect, and the list of tables shows their latest values.
-/

namespace RestaurantServer.TableInventory

open RestaurantServer.JavaExceptions
open RestaurantServer.ThrowingMethods
open RestaurantServer.MethodTriples
open RestaurantServer.KeyedRows
open RestaurantServer.RecordTables
open RestaurantServer.CassandraDatabase
open RestaurantServer.SessionUtil
open RestaurantServer.SessionCalls
open RestaurantServer.RestaurantController
open RestaurantServer.OpenClusters
open RestaurantServer.SessionInvariants

/-- The arguments of a call of `setTables`. -/
structure Entry where
  tableId : Option String
  restaurantId : Option String
  seatNumber : Option String
  deriving DecidableEq

abbrev Inventory := Option String → Option Entry

/-- The table that `createTablesTable` makes and the rows that `setTables` writes. -/
def layout : Layout Entry where
  columns := ["restaurantId", "seatNumber", "tableId"]
  primaryKey := "tableId"
  values entry :=
    [("restaurantId", entry.restaurantId), ("seatNumber", entry.seatNumber),
      ("tableId", entry.tableId)]
  key := Entry.tableId
  columns_eq _ := rfl
  key_eq _ := rfl

def render (entry : Entry) : String :=
  formatTable entry.restaurantId entry.seatNumber entry.tableId

inductive Call where
  | request (request : Request)
  | connect (ipAddress : Option String)
  | close
  | setTables (entry : Entry)
  | listTables

/-- The tables are queried as the endpoint `getTables` would, and then formatted. -/
def Call.body (environment : Environment) : Call → Method Throwable World Reply
  | .request r => serve environment r
  | .connect ipAddress => do
      SessionUtil.connect environment ipAddress
      pure (.text "")
  | .close => do
      SessionUtil.close environment
      pure (.text "")
  | .setTables entry => do
      let reply ← SessionUtil.setTables environment "accounts" entry.tableId
        entry.restaurantId entry.seatNumber
      pure (.text reply)
  | .listTables => do
      let results ← querySchema environment "accounts" (.selectAll "accounts" "tables")
      let tableList ← getTables environment results "accounts"
      pure (.list tableList)

def happen (world : World) (event : Call × Environment) : World :=
  (call (event.1.body event.2) (World.newRequest world)).2

def answered (world : World) (event : Call × Environment) : Except Throwable Reply :=
  (call (event.1.body event.2) (World.newRequest world)).1

/-- The entry of a call that returned, if the cluster in use leads to the address. -/
def acknowledgedBy (address : String) (world : World) (event : Call × Environment) :
    List Entry :=
  match event.1, answered world event with
  | .setTables entry, .ok _ =>
      if world.cluster.map Cluster.address = some address then [entry] else []
  | _, _ => []

def acknowledged (address : String) : World → List (Call × Environment) → List Entry
  | _, [] => []
  | world, event :: events =>
      acknowledgedBy address world event ++ acknowledged address (happen world event) events

section Databases

variable {store : Inventory} {database after : Database}

/-- The table of the database has the entries of the inventory, or is not there yet. -/
def Kept (store : Inventory) (database : Database) : Prop :=
  match database.table "accounts" "tables" with
  | none => store = fun _ => none
  | some table => layout.Holds store table

theorem kept_of_table_eq_none (htable : database.table "accounts" "tables" = none) :
    Kept store database ↔ store = fun _ => none := by
  rw [Kept, htable]

theorem kept_of_table_eq_some {table : Table}
    (htable : database.table "accounts" "tables" = some table) :
    Kept store database ↔ layout.Holds store table := by
  rw [Kept, htable]

theorem Kept.congr (hkept : Kept store database)
    (htable : after.table "accounts" "tables" = database.table "accounts" "tables") :
    Kept store after := by
  rw [Kept, htable]
  exact hkept

/-- A statement that leaves the inventory alone. It may create the table. -/
def Sparing (statement : Statement) : Prop :=
  ∀ store database order after results, Kept store database →
    Database.execute database order statement = .ok (after, results) → Kept store after

theorem sparing_createKeyspace : Sparing (.createKeyspace "accounts") := by
  intro store database order after results hkept hexecute
  obtain ⟨hspace, rfl⟩ := Database.createKeyspace_executed hexecute
  refine hkept.congr ?_
  simp [Database.table, hspace]

theorem sparing_createTable {name : String} (hname : name ≠ "tables") (columns : List String)
    (primaryKey : String) : Sparing (.createTable "accounts" name columns primaryKey) := by
  intro store database order after results hkept hexecute
  obtain ⟨-, -, rfl⟩ := Database.createTable_executed hexecute
  exact hkept.congr (Database.table_setTable_of_ne _ _ _ hname.symm _)

/-- The table is created where there was none, so the inventory was empty. -/
theorem sparing_createTablesTable :
    Sparing (.createTable "accounts" "tables" ["restaurantId", "seatNumber", "tableId"]
      "tableId") := by
  intro store database order after results hkept hexecute
  obtain ⟨hspace, hnone, rfl⟩ := Database.createTable_executed hexecute
  obtain rfl := (kept_of_table_eq_none hnone).mp hkept
  have hcreated := Database.table_setTable database "accounts" "tables" "tables"
    (some (layout.table [])) hspace
  rw [if_pos rfl] at hcreated
  exact (kept_of_table_eq_some hcreated).mpr Layout.holds_nil

theorem sparing_dropTable {name : String} (hname : name ≠ "tables") :
    Sparing (.dropTable "accounts" name) := by
  intro store database order after results hkept hexecute
  obtain rfl := Database.dropTable_executed hexecute
  exact hkept.congr (Database.table_setTable_of_ne _ _ _ hname.symm _)

theorem sparing_insertInto {name : String} (hname : name ≠ "tables")
    (values : List (String × Option String)) :
    Sparing (.insertInto "accounts" name values) := by
  intro store database order after results hkept hexecute
  obtain ⟨table, -, rfl⟩ := Database.insertInto_executed hexecute
  exact hkept.congr (Database.table_setTable_of_ne _ _ _ hname.symm _)

theorem sparing_selectAll (keyspace name : String) : Sparing (.selectAll keyspace name) := by
  intro store database order after results hkept hexecute
  obtain ⟨table, -, rfl, -⟩ := Database.selectAll_executed hexecute
  exact hkept

theorem sparing_of_routine {statement : Statement} (hroutine : Routine statement) :
    Sparing statement := by
  rcases hroutine with rfl | hsetup | ⟨values, rfl⟩ | rfl
  · exact sparing_createKeyspace
  · simp only [setupStatements, List.mem_cons, List.not_mem_nil, or_false] at hsetup
    rcases hsetup with rfl | rfl
    · exact sparing_createTable (by decide) _ _
    · exact sparing_createTablesTable
  · exact sparing_insertInto (by decide) values
  · exact sparing_selectAll _ _

theorem Kept.insert {order : RowOrder} {results : ResultSet} (hkept : Kept store database)
    (entry : Entry)
    (hexecute : database.execute order (insertTable "accounts" entry.tableId
      entry.restaurantId entry.seatNumber) = .ok (after, results)) :
    Kept (layout.place store entry) after := by
  obtain ⟨table, htable, rfl⟩ := Database.insertInto_executed hexecute
  have hwritten := Database.table_setTable database "accounts" "tables" "tables"
    (some (table.insert (layout.values entry))) (Database.isSome_of_table htable)
  rw [if_pos rfl] at hwritten
  exact (kept_of_table_eq_some hwritten).mpr
    (((kept_of_table_eq_some htable).mp hkept).insert entry)

end Databases

section Methods

variable (environment : Environment) {store : Inventory} {address : String}

theorem kept_update {network : String → Database} {cluster : Cluster} {database : Database}
    (hkept : Kept store (network address))
    (hdatabase : cluster.address = address → Kept store database) :
    Kept store (Function.update network cluster.address database address) := by
  rcases eq_or_ne address cluster.address with heq | hne
  · rw [heq, Function.update_self]
    exact hdatabase heq.symm
  · rw [Function.update_of_ne hne]
    exact hkept

theorem kept_closed :
    Closed environment Sparing (fun world => Kept store (world.network address)) where
  called _ hworld := hworld
  pooled _ _ hworld := hworld
  initialised _ hworld := hworld
  closed _ _ _ hworld := hworld
  refused _ _ _ _ hworld := hworld
  executed _ _ _ _ _ hsparing hexecute hworld := by
    refine kept_update hworld ?_
    rintro rfl
    exact hsparing _ _ _ _ _ hworld hexecute

theorem kept_schemaAndTable :
    Maintains (fun world => Kept store (world.network address))
      (schemaAndTable environment) :=
  (kept_closed environment).schemaAndTable sparing_createKeyspace
    (sparing_createTable (by decide) _ _) (sparing_dropTable (by decide))

theorem driverCall_keeps_network (network : String → Database) :
    Maintains (fun world : World => world.network = network) (driverCall environment) := by
  refine triple_of_after fun world hworld => ?_
  rw [call_driverCall]
  exact hworld

theorem network_connect (ipAddress : Option String) (world : World) :
    (call (connect environment ipAddress) world).2.network = world.network := by
  have hnetwork : Maintains (fun world' : World => world'.network = world.network)
      (connect environment ipAddress) := by
    refine Maintains.tryCatch (maintains_get_bind fun _ => ?_) fun _ => maintains_throw _
    refine (maintains_liftExcept _).bind fun _ => ?_
    refine (maintains_liftExcept _).bind fun _ => ?_
    refine (maintains_liftExcept _).bind fun _ => ?_
    exact (driverCall_keeps_network environment _).bind fun _ => triple_modify fun _ hs => hs
  exact hnetwork.after rfl

theorem network_close (world : World) :
    (call (close environment) world).2.network = world.network := by
  have hnetwork : Maintains (fun world' : World => world'.network = world.network)
      (close environment) := by
    refine maintains_get_bind fun _ => ?_
    refine (maintains_liftExcept _).bind fun _ => ?_
    exact (driverCall_keeps_network environment _).bind fun _ => triple_modify fun _ hs => hs
  exact hnetwork.after rfl

/-- The call returns after it has written the entry to the database of the cluster in
use. Otherwise it throws, and no database has changed. -/
theorem call_setTables_cases (entry : Entry) (world : World) :
    (∃ world', world'.network = world.network ∧
      call (setTables environment "accounts" entry.tableId entry.restaurantId
        entry.seatNumber) world =
          (.error (customException "Orm::setTables exception: "), world')) ∨
    ∃ cluster database results world', world.cluster = some cluster ∧
      (world.network cluster.address).execute environment.order (insertTable "accounts"
        entry.tableId entry.restaurantId entry.seatNumber) = .ok (database, results) ∧
      world'.network = Function.update world.network cluster.address database ∧
      call (setTables environment "accounts" entry.tableId entry.restaurantId
        entry.seatNumber) world = (.ok "200/Success", world') := by
  unfold setTables
  rw [call_tryCatch, ← bind_assoc, call_bind]
  rcases call_statement_cases environment (some "accounts") (insertTable "accounts"
      entry.tableId entry.restaurantId entry.seatNumber) world with
    ⟨e, world', hworld', hcall⟩ | ⟨cluster, hcluster, ⟨e, hcall⟩ | ⟨database, results, hexecute,
      hcall⟩⟩ <;> rw [hcall]
  · refine .inl ⟨world', ?_, rfl⟩
    rcases hworld' with rfl | ⟨cluster, -, rfl⟩
    · rfl
    · exact (sameData_afterConnecting environment cluster world).1
  · exact .inl ⟨afterStatement (initialised world) cluster _ none, rfl, rfl⟩
  · exact .inr ⟨cluster, database, results, _, hcluster, hexecute, rfl, rfl⟩

theorem acknowledgedBy_of_ok {world : World} {entry : Entry} {reply : Reply}
    (hanswered : answered world (.setTables entry, environment) = .ok reply) :
    acknowledgedBy address world (.setTables entry, environment) =
      if world.cluster.map Cluster.address = some address then [entry] else [] := by
  simp only [acknowledgedBy, hanswered]

theorem acknowledgedBy_of_error {world : World} {entry : Entry} {e : Throwable}
    (hanswered : answered world (.setTables entry, environment) = .error e) :
    acknowledgedBy address world (.setTables entry, environment) = [] := by
  simp only [acknowledgedBy, hanswered]

theorem kept_setTables (entry : Entry) {world : World}
    (hkept : Kept store (world.network address)) :
    Kept ((acknowledgedBy address world (.setTables entry, environment)).foldl layout.place store)
      ((happen world (.setTables entry, environment)).network address) := by
  rcases call_setTables_cases environment entry (World.newRequest world) with
    ⟨world', hnetwork, hcall⟩ | ⟨cluster, database, results, world', hcluster, hexecute, hnetwork,
      hcall⟩
  · have hbody : call (Call.body environment (.setTables entry)) (World.newRequest world) =
        (.error (customException "Orm::setTables exception: "), world') :=
      call_bind_of_error hcall
    rw [acknowledgedBy_of_error environment (congrArg Prod.fst hbody), happen, hbody, hnetwork]
    exact hkept
  · have hbody : call (Call.body environment (.setTables entry)) (World.newRequest world) =
        (.ok (.text "200/Success"), world') :=
      call_bind_of_ok hcall
    have hcluster : world.cluster = some cluster := hcluster
    rw [acknowledgedBy_of_ok environment (congrArg Prod.fst hbody), happen, hbody, hnetwork,
      hcluster]
    by_cases haddress : cluster.address = address
    · subst haddress
      rw [Option.map_some, if_pos rfl, Function.update_self]
      exact hkept.insert entry hexecute
    · rw [Option.map_some, if_neg (by simpa using haddress),
        Function.update_of_ne (Ne.symm haddress)]
      exact hkept

theorem maintains_listTables :
    Maintains (fun world => Kept store (world.network address))
      (Call.body environment .listTables) := by
  have hclosed : Closed environment Sparing (fun world => Kept store (world.network address)) :=
    kept_closed environment
  refine (hclosed.querySchema "accounts" (sparing_selectAll _ _)).bind fun results => ?_
  refine Maintains.bind (Maintains.tryCatch ?_ fun _ => maintains_throw _) fun _ =>
    maintains_pure _
  refine (hclosed.connectTo _).bind fun _ => ?_
  exact (maintains_liftExcept _).bind fun _ => maintains_liftExcept _

end Methods

section Runs

variable {store : Inventory} {address : String}

theorem kept_happen {world : World} (hkept : Kept store (world.network address))
    (event : Call × Environment) :
    Kept ((acknowledgedBy address world event).foldl layout.place store)
      ((happen world event).network address) := by
  obtain ⟨event, environment⟩ := event
  cases event with
  | setTables entry => exact kept_setTables environment entry hkept
  | request request =>
      exact (kept_closed environment).handle (fun _ => sparing_of_routine)
        (kept_schemaAndTable environment) (fun _ _ _ hworld => hworld) hkept request
  | connect ipAddress =>
      have hnetwork := network_connect environment ipAddress (World.newRequest world)
      rw [happen, Call.body, state_bind_pure, hnetwork]
      exact hkept
  | close =>
      have hnetwork := network_close environment (World.newRequest world)
      rw [happen, Call.body, state_bind_pure, hnetwork]
      exact hkept
  | listTables => exact (maintains_listTables environment).after hkept

theorem kept_foldl {world : World} (hkept : Kept store (world.network address))
    (events : List (Call × Environment)) :
    Kept ((acknowledged address world events).foldl layout.place store)
      ((events.foldl happen world).network address) := by
  induction events generalizing store world with
  | nil => exact hkept
  | cons event events ih =>
      rw [acknowledged, List.foldl_append]
      exact ih (kept_happen hkept event)

theorem kept_constructed {network : String → Database} (hkept : Kept store (network address))
    (properties : Singleton) (environment : Environment) :
    Kept store ((constructed network properties environment).network address) := by
  refine ((kept_closed environment).constructController
    (kept_schemaAndTable environment)).after ?_
  exact hkept

end Runs

section Lists

variable {environment : Environment} {world : World}

/-- Results that are not `null` come from the database that is configured. -/
theorem querySchema_cases (environment : Environment) (cql : Statement) (world : World) :
    (∃ world', call (querySchema environment "accounts" cql) world = (.ok none, world')) ∨
    ∃ cluster database results world',
      configuredCluster world.controllerProperties = some cluster ∧
      (world.network cluster.address).execute environment.order cql =
        .ok (database, results) ∧
      call (querySchema environment "accounts" cql) world = (.ok (some results), world') := by
  by_cases hreach : ∃ cluster,
      Reachable environment world.driverCalls world "accounts" cluster
  · obtain ⟨cluster, hreach⟩ := hreach
    have hcall := call_pooledStatement environment cql some none hreach
    rcases houtcome : outcome environment (connected world cluster)
        ⟨cluster, some "accounts"⟩ cql with e | ⟨database, results⟩
    · rw [houtcome] at hcall
      exact .inl ⟨_, hcall⟩
    · rw [houtcome] at hcall
      unfold outcome at houtcome
      split at houtcome
      · cases houtcome
      · exact .inr ⟨cluster, database, results, _, hreach.1, houtcome, hcall⟩
  · obtain ⟨world', -, hcall⟩ := call_pooledStatement_unreachable environment cql some none
      (not_exists.mp hreach)
    exact .inl ⟨world', hcall⟩

theorem getTables_returns (environment : Environment) (results : Option ResultSet)
    (keySpace : String) :
    Triple (fun _ => True) (getTables environment results keySpace)
      (fun lines _ =>
        ∃ rows, results = some rows ∧ rows.rows.mapM (formatTableRow rows) = .ok lines)
      (fun _ => True) := by
  refine triple_tryCatch (F := fun _ => True) ?_ fun _ => triple_throw fun _ hs => hs
  refine triple_bind (Q := fun _ _ => True) (triple_of_after fun _ _ => trivial) fun _ => ?_
  refine triple_bind (Q := fun rows _ => results = some rows) ?_ fun rows => ?_
  · refine triple_liftExcept (fun rows hrows _ _ => ?_) fun _ hs => hs
    cases results with
    | none => cases hrows
    | some rows' =>
        cases hrows
        rfl
  · exact triple_liftExcept (fun _ hlines _ hrows => ⟨rows, hrows, hlines⟩) fun _ _ => trivial

def entryOf (row : Row) : Entry :=
  ⟨row "tableId", row "restaurantId", row "seatNumber"⟩

theorem mapM_formatTableRow (rows : List Row) :
    rows.mapM (formatTableRow ⟨layout.columns, rows⟩) =
      .ok ((rows.map entryOf).map render) := by
  have hformat : formatTableRow ⟨layout.columns, rows⟩ = fun row => pure (render (entryOf row)) :=
    funext fun _ => rfl
  rw [hformat, List.mapM_pure, List.map_map]
  rfl

theorem listed_of_execute {store : Inventory} {database after : Database}
    {results : ResultSet} {lines : List String} (hkept : Kept store database)
    (hexecute : database.execute environment.order (.selectAll "accounts" "tables") =
      .ok (after, results))
    (hlines : results.rows.mapM (formatTableRow results) = .ok lines) :
    ∃ entries, lines = entries.map render ∧ Represents Entry.tableId store entries := by
  obtain ⟨table, htable, -, rfl⟩ := Database.selectAll_executed hexecute
  obtain ⟨entries, rfl, hrepresents, -⟩ := (kept_of_table_eq_some htable).mp hkept
  have hformatted := mapM_formatTableRow (environment.order.arrange (entries.map layout.row))
  refine ⟨(environment.order.arrange (entries.map layout.row)).map entryOf, ?_, ?_⟩
  · exact Except.ok.inj (hlines.symm.trans hformatted)
  · have hentries : (entries.map layout.row).map entryOf = entries := by
      rw [List.map_map]
      exact List.map_id entries
    have hperm := (environment.order.perm (entries.map layout.row)).map entryOf
    rw [hentries] at hperm
    exact hrepresents.perm _ hperm

theorem listed_of_answered {lines : List String}
    (hanswered : answered world (.listTables, environment) = .ok (.list lines)) :
    ∃ cluster, configuredCluster world.controllerProperties = some cluster ∧
      ∀ store, Kept store (world.network cluster.address) →
        ∃ entries, lines = entries.map render ∧ Represents Entry.tableId store entries := by
  simp only [answered, Call.body] at hanswered
  rcases querySchema_cases environment (.selectAll "accounts" "tables")
      (World.newRequest world) with
    ⟨world₁, hquery⟩ | ⟨cluster, database, results, world₁, hcluster, hexecute, hquery⟩ <;>
      rw [call_bind_of_ok hquery, call_bind] at hanswered
  · have hreturns := getTables_returns environment none "accounts" world₁ trivial
    rcases hcall : call (getTables environment none "accounts") world₁ with
      ⟨e | formatted, world₂⟩ <;> rw [hcall] at hanswered hreturns
    · cases hanswered
    · obtain ⟨rows, hrows, -⟩ := hreturns
      cases hrows
  · have hreturns := getTables_returns environment (some results) "accounts" world₁ trivial
    rcases hcall : call (getTables environment (some results) "accounts") world₁ with
      ⟨e | formatted, world₂⟩ <;> rw [hcall] at hanswered hreturns
    · cases hanswered
    · obtain ⟨rows, hrows, hlines⟩ := hreturns
      cases hrows
      cases hanswered
      exact ⟨cluster, hcluster, fun store hkept => listed_of_execute hkept hexecute hlines⟩

end Lists

/-- A list of tables that is returned shows the configured database: for each identifier
the last entry that was acknowledged while the cluster in use led there, and nothing
else. This holds whatever has failed before, and in whatever order the calls came. -/
theorem listed_tables_acknowledged {network : String → Database} {stores : String → Inventory}
    (hkept : ∀ address, Kept (stores address) (network address)) (properties : Singleton)
    (environment : Environment) (events : List (Call × Environment)) (listing : Environment)
    {lines : List String}
    (hanswered : answered (events.foldl happen (constructed network properties environment))
      (.listTables, listing) = .ok (.list lines)) :
    ∃ address entries,
      (events.foldl happen (constructed network properties environment)
        ).controllerProperties.cassandraIpAddress = some address ∧
      lines = entries.map render ∧
      Represents Entry.tableId ((acknowledged address
        (constructed network properties environment) events).foldl layout.place
          (stores address)) entries := by
  obtain ⟨cluster, hcluster, hlisted⟩ := listed_of_answered hanswered
  have hafter := kept_foldl
    (kept_constructed (hkept cluster.address) properties environment) events
  obtain ⟨entries, hlines, hrepresents⟩ := hlisted _ hafter
  exact ⟨cluster.address, entries, (open_configuredCluster hcluster).1, hlines, hrepresents⟩

/-- One call fails, and the last entry has no value besides its key. -/
def fourEntries : List (Call × Environment) :=
  [(.request .setupRestaurantDatabaseTables, surroundings false .unreadable),
    (.setTables ⟨some "1", some "thai", some "4"⟩, surroundings false .unreadable),
    (.setTables ⟨some "1", some "thai", some "6"⟩, surroundings true .unreadable),
    (.request .localarguments, surroundings false .unreadable),
    (.setTables ⟨some "2", some "thai", some "2"⟩, surroundings false .unreadable),
    (.setTables ⟨some "2", none, none⟩, surroundings false .unreadable)]

theorem kept_nothing :
    ∀ address : String, Kept (fun _ => none) ((fun _ _ => none : String → Database) address) :=
  fun _ => rfl

theorem answered_fourEntries :
    answered (fourEntries.foldl happen (constructed (fun _ _ => none) localProperties
        (surroundings false .unreadable))) (.listTables, surroundings false .unreadable) =
      .ok (.list [render ⟨some "1", some "thai", some "4"⟩]) := by
  decide +kernel

theorem listed_tables_acknowledged_fourEntries :
    ∃ address entries,
      (fourEntries.foldl happen (constructed (fun _ _ => none) localProperties
        (surroundings false .unreadable))).controllerProperties.cassandraIpAddress =
          some address ∧
      [render ⟨some "1", some "thai", some "4"⟩] = entries.map render ∧
      Represents Entry.tableId ((acknowledged address
        (constructed (fun _ _ => none) localProperties (surroundings false .unreadable))
          fourEntries).foldl layout.place fun _ => none) entries :=
  listed_tables_acknowledged kept_nothing localProperties (surroundings false .unreadable)
    fourEntries (surroundings false .unreadable) answered_fourEntries

end RestaurantServer.TableInventory
