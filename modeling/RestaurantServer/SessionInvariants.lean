import RestaurantServer.ConfiguredDatabase
import RestaurantServer.OpenClusters

/-!
Invariants of the object behind the database requests. What a driver call, a new
cluster and the statements of a request keep, the request keeps, wherever it fails.
-/

namespace RestaurantServer.SessionInvariants

open RestaurantServer.JavaExceptions
open RestaurantServer.ThrowingMethods
open RestaurantServer.MethodTriples
open RestaurantServer.CassandraDatabase
open RestaurantServer.SessionUtil
open RestaurantServer.SessionCalls
open RestaurantServer.RestaurantController
open RestaurantServer.ConfiguredDatabase
open RestaurantServer.OpenClusters

/-- The basic steps keep `I`, where only the statements in `S` are sent. -/
structure Closed (environment : Environment) (S : Statement → Prop) (I : World → Prop) :
    Prop where
  called (world : World) : I world → I (called world)
  pooled (world : World) (cluster : Cluster) : I world → I (pooled world cluster)
  initialised (world : World) : I world → I (initialised world)
  closed (world : World) (cluster : Cluster) : world.cluster = some cluster →
    I world → I (closeCluster cluster world)
  refused (world : World) (cluster : Cluster) (statement : Statement) : S statement →
    I world → I (afterStatement world cluster statement none)
  executed (world : World) (cluster : Cluster) (statement : Statement) (database : Database)
    (results : ResultSet) : S statement →
    (world.network cluster.address).execute environment.order statement =
      .ok (database, results) →
    I world → I (afterStatement world cluster statement (some database))

/-- All that sending a statement can do: there is no session, the statement is refused,
or it is executed by the cluster in the field. -/
theorem call_statement_cases (environment : Environment) (keySpace : Option String)
    (statement : Statement) (world : World) :
    (∃ e world', (world' = world ∨ ∃ cluster, world.cluster = some cluster ∧
        world' = afterConnecting environment cluster world) ∧
      call (connectTo environment keySpace >>= fun session =>
        execute environment session statement) world = (.error e, world')) ∨
    ∃ cluster, world.cluster = some cluster ∧
      ((∃ e, call (connectTo environment keySpace >>= fun session =>
          execute environment session statement) world =
            (.error e, afterStatement (initialised world) cluster statement none)) ∨
        ∃ database results,
          (world.network cluster.address).execute environment.order statement =
            .ok (database, results) ∧
          call (connectTo environment keySpace >>= fun session =>
            execute environment session statement) world =
              (.ok results,
                afterStatement (initialised world) cluster statement (some database))) := by
  cases hcluster : world.cluster with
  | none =>
      have hcall : call (connectTo environment keySpace) world =
          (.error nullPointerException, world) := by
        simp [connectTo, call_bind, hcluster]
      exact .inl ⟨_, world, .inl rfl, call_bind_of_error hcall⟩
  | some cluster =>
      have hconnect := call_connectTo environment keySpace hcluster
      rcases hsession : (if environment.fails world.driverCalls then .error driverException
          else openSession world.network cluster keySpace) with e | session
      · rw [hsession] at hconnect
        exact .inl ⟨e, _, .inr ⟨cluster, rfl, rfl⟩, call_bind_of_error hconnect⟩
      · rw [hsession] at hconnect
        split at hsession
        · cases hsession
        rename_i hfails
        have hsucceeds := Bool.eq_false_iff.mpr hfails
        rw [afterConnecting_not_fails environment cluster hsucceeds] at hconnect
        obtain rfl := cluster_of_openSession hsession
        refine .inr ⟨session.cluster, rfl, ?_⟩
        rw [call_bind_of_ok hconnect, call_execute]
        rcases houtcome : outcome environment (initialised world) session statement with
          e | ⟨database, results⟩
        · exact .inl ⟨e, rfl⟩
        · unfold outcome at houtcome
          split at houtcome
          · cases houtcome
          · exact .inr ⟨database, results, houtcome, rfl⟩

section Methods

variable {environment : Environment} {S : Statement → Prop} {I : World → Prop}

theorem Closed.afterConnecting (hI : Closed environment S I) {cluster : Cluster} {world : World}
    (hcluster : world.cluster = some cluster) (hworld : I world) :
    I (afterConnecting environment cluster world) := by
  rw [SessionCalls.afterConnecting]
  split
  · exact hI.closed _ cluster hcluster (hI.initialised world hworld)
  · exact hI.initialised world hworld

theorem Closed.connectTo (hI : Closed environment S I) (keySpace : Option String) :
    Maintains I (connectTo environment keySpace) := by
  refine triple_of_after fun world hworld => ?_
  cases hcluster : world.cluster with
  | none =>
      have hcall : call (SessionUtil.connectTo environment keySpace) world =
          (.error nullPointerException, world) := by
        simp [SessionUtil.connectTo, call_bind, hcluster]
      rw [hcall]
      exact hworld
  | some cluster =>
      rw [call_connectTo environment keySpace hcluster]
      exact hI.afterConnecting hcluster hworld

theorem Closed.execute (hI : Closed environment S I) (session : Session)
    {statement : Statement} (hstatement : S statement) :
    Maintains I (execute environment session statement) := by
  refine triple_of_after fun world hworld => ?_
  rw [call_execute]
  rcases houtcome : outcome environment world session statement with e | ⟨database, results⟩
  · exact hI.refused world session.cluster statement hstatement hworld
  · unfold outcome at houtcome
    split at houtcome
    · cases houtcome
    · exact hI.executed world session.cluster statement database results hstatement houtcome
        hworld

theorem Closed.statement (hI : Closed environment S I) {α : Type}
    {f : ResultSet → Method Throwable World α} (keySpace : Option String)
    {statement : Statement} (hstatement : S statement) (hf : ∀ results, Maintains I (f results)) :
    Maintains I (SessionUtil.connectTo environment keySpace >>= fun session =>
      SessionUtil.execute environment session statement >>= f) :=
  (hI.connectTo keySpace).bind fun session => (hI.execute session hstatement).bind hf

theorem Closed.setupPooling (hI : Closed environment S I) (ipAddress : Option String) :
    Maintains I (setupPooling environment ipAddress) := by
  refine triple_of_after fun world hworld => ?_
  rcases hcluster : clusterFor ipAddress world.controllerProperties with _ | cluster
  · rw [call_setupPooling_none environment hcluster]
    exact hworld
  · rw [call_setupPooling_some environment hcluster]
    split_ifs
    · exact hI.called world hworld
    · exact hI.pooled world cluster hworld

theorem Closed.setupConfiguredPooling (hI : Closed environment S I) :
    Maintains I (setupConfiguredPooling environment) :=
  maintains_get_bind fun _ => hI.setupPooling _

theorem Closed.createSchema (hI : Closed environment S I) {keySpace : String}
    (hS : S (.createKeyspace keySpace)) : Maintains I (createSchema environment keySpace) :=
  (hI.setupConfiguredPooling.bind fun _ =>
    hI.statement none hS fun _ => maintains_pure _).tryCatch fun _ => maintains_throw _

theorem Closed.createTable (hI : Closed environment S I) {keySpace tableName : String}
    (hS : S (.createTable keySpace tableName ["message", "testId"] "testId")) :
    Maintains I (createTable environment keySpace tableName) :=
  (hI.statement (some keySpace) hS fun _ => maintains_pure _).tryCatch fun _ =>
    maintains_throw _

theorem Closed.deleteTable (hI : Closed environment S I) {keySpace tableName : String}
    (hS : S (.dropTable keySpace tableName)) :
    Maintains I (deleteTable environment keySpace tableName) :=
  (hI.statement (some keySpace) hS fun _ => maintains_pure _).tryCatch fun _ =>
    maintains_throw _

theorem Closed.querySchema (hI : Closed environment S I) (keySpace : String) {cql : Statement}
    (hS : S cql) : Maintains I (querySchema environment keySpace cql) :=
  (hI.setupConfiguredPooling.bind fun _ =>
    hI.statement (some keySpace) hS fun _ => maintains_pure _).tryCatch fun _ => maintains_pure _

/-- The two tables that the setup creates. -/
def setupStatements (keySpace : String) : List Statement :=
  [.createTable keySpace "restaurants" ["cuisine", "seating", "restaurantId"] "restaurantId",
    .createTable keySpace "tables" ["restaurantId", "seatNumber", "tableId"] "tableId"]

theorem Closed.setupRestaurantDatabaseTables (hI : Closed environment S I) {keySpace : String}
    (hS : ∀ statement ∈ setupStatements keySpace, S statement) :
    Maintains I (setupRestaurantDatabaseTables environment keySpace) := by
  have hrestaurants : Maintains I (createRestaurantTable environment keySpace) :=
    (hI.statement _ (hS _ (by simp [setupStatements])) fun _ => maintains_pure _).tryCatch
      fun _ => maintains_pure _
  have htables : Maintains I (createTablesTable environment keySpace) :=
    (hI.statement _ (hS _ (by simp [setupStatements])) fun _ => maintains_pure _).tryCatch
      fun _ => maintains_throw _
  have hindex : Maintains I (createIndex environment keySpace) :=
    ((hI.connectTo _).bind fun _ => maintains_pure _).tryCatch fun _ => maintains_throw _
  refine Maintains.tryCatch ?_ fun _ => maintains_pure _
  refine hI.setupConfiguredPooling.bind fun _ => ?_
  refine (hI.connectTo _).bind fun _ => ?_
  exact hrestaurants.bind fun _ => htables.bind fun _ => hindex

theorem Closed.setRestaurants (hI : Closed environment S I) {keySpace : String}
    {restaurantId cuisine seating : Option String}
    (hS : S (insertRestaurant keySpace restaurantId cuisine seating)) :
    Maintains I (setRestaurants environment keySpace restaurantId cuisine seating) :=
  (hI.setupConfiguredPooling.bind fun _ =>
    hI.statement (some keySpace) hS fun _ => maintains_pure _).tryCatch fun _ => maintains_pure _

theorem Closed.getRestaurants (hI : Closed environment S I) (results : Option ResultSet)
    (keySpace : String) :
    Maintains I (SessionUtil.getRestaurants environment results keySpace) := by
  refine Maintains.tryCatch ?_ fun _ => maintains_throw _
  refine hI.setupConfiguredPooling.bind fun _ => ?_
  refine (hI.connectTo _).bind fun _ => ?_
  exact (maintains_liftExcept _).bind fun _ => maintains_liftExcept _

end Methods

section Endpoints

variable {environment : Environment} {S : Statement → Prop} {I : World → Prop}

theorem Closed.setupTables (hI : Closed environment S I)
    (hS : ∀ statement ∈ setupStatements "accounts", S statement) :
    Maintains I (setupTables environment) :=
  ((hI.setupRestaurantDatabaseTables hS).bind fun _ => maintains_pure _).tryCatch fun _ =>
    maintains_pure _

theorem Closed.addRestaurant (hI : Closed environment S I) {restaurant : Restaurant}
    (hS : S (insertRestaurant "accounts" restaurant.restaurantId restaurant.cuisine
      restaurant.seating)) : Maintains I (addRestaurant environment restaurant) :=
  ((hI.setRestaurants hS).bind fun _ => maintains_pure _).tryCatch fun _ => maintains_pure _

theorem Closed.listRestaurants (hI : Closed environment S I)
    (hS : S (.selectAll "accounts" "restaurants")) :
    Maintains I (RestaurantController.getRestaurants environment) := by
  refine Maintains.tryCatch ?_ fun _ => maintains_pure _
  refine (hI.querySchema "accounts" hS).bind fun results => ?_
  exact (hI.getRestaurants results "accounts").bind fun _ => maintains_pure _

/-- What follows the first pooling in the constructor and in `testarguments`. -/
theorem Closed.schemaAndTable (hI : Closed environment S I)
    (hschema : S (.createKeyspace "accounts"))
    (hcreate : S (.createTable "accounts" "test" ["message", "testId"] "testId"))
    (hdrop : S (.dropTable "accounts" "test")) : Maintains I (schemaAndTable environment) :=
  (hI.createSchema hschema).bind fun _ =>
    (hI.createTable hcreate).bind fun _ => hI.deleteTable hdrop

theorem Closed.constructController (hI : Closed environment S I)
    (hprobe : Maintains I (OpenClusters.schemaAndTable environment)) :
    Maintains I (constructController environment) := by
  refine Maintains.tryCatch ?_ fun _ => maintains_pure _
  refine maintains_get_bind fun world => ?_
  refine (maintains_liftExcept _).bind fun ipAddress => ?_
  refine (hI.setupPooling _).bind fun _ => ?_
  exact (maintains_liftExcept _).bind fun _ => hprobe

variable (environment)

/-- What `testarguments` leaves behind, once it has reported. -/
def attempted (s : Singleton) (world : World) : World :=
  match requested environment s with
  | .error _ => world
  | .ok properties =>
      (call (setupPooling environment s.cassandraIpAddress >>= fun _ =>
        schemaAndTable environment) { world with controllerProperties := properties }).2

theorem call_testarguments (s : Singleton) (world : World) :
    call (testarguments environment s) world =
      (.ok (.text (reportedArguments (attempted environment s world).controllerProperties)),
        attempted environment s world) := by
  have hattempt := call_afterSetup environment world s
    (setupPooling environment s.cassandraIpAddress >>= fun _ => schemaAndTable environment)
  have hstate : (call (setupDatabase environment s.cassandraIpAddress s.cassandraPort >>= fun _ =>
      setupLogin s.login s.password >>= fun _ =>
        setupPooling environment s.cassandraIpAddress >>= fun _ =>
          schemaAndTable environment) world).2 = attempted environment s world := by
    rw [hattempt, attempted]
    rcases requested environment s with e | properties <;> rfl
  rw [← hstate]
  exact call_bind_of_ok (call_swallow _ _)

variable {environment}

/-- The statements of the requests, but for those on the table for trying out. -/
def Routine (statement : Statement) : Prop :=
  statement = .createKeyspace "accounts" ∨ statement ∈ setupStatements "accounts" ∨
    (∃ values, statement = .insertInto "accounts" "restaurants" values) ∨
    statement = .selectAll "accounts" "restaurants"

/-- An invariant that does not look at the configuration, nor at the number of driver
calls, holds after every request. -/
theorem Closed.handle (hI : Closed environment S I)
    (hS : ∀ statement, Routine statement → S statement)
    (hprobe : Maintains I (OpenClusters.schemaAndTable environment))
    (hother : ∀ world properties driverCalls, I world →
      I { world with controllerProperties := properties, driverCalls := driverCalls })
    {world : World} (hworld : I world) (request : Request) :
    I (handle world (request, environment)) := by
  have hnew : I (World.newRequest world) := hother world world.controllerProperties 0 hworld
  cases request with
  | localarguments => exact hother (World.newRequest world) _ 0 hnew
  | testarguments s =>
      have hcall : RestaurantController.handle world (.testarguments s, environment) =
          attempted environment s (World.newRequest world) :=
        congrArg Prod.snd (call_testarguments environment s (World.newRequest world))
      rw [hcall, attempted]
      split
      · exact hnew
      · refine Maintains.after ((hI.setupPooling _).bind fun _ => hprobe) ?_
        exact hother (World.newRequest world) _ 0 hnew
  | reportarguments => exact hnew
  | setupRestaurantDatabaseTables =>
      exact (hI.setupTables fun _ hstatement => hS _ (.inr (.inl hstatement))).after hnew
  | addRestaurant restaurant =>
      exact (hI.addRestaurant (hS _ (.inr (.inr (.inl ⟨_, rfl⟩))))).after hnew
  | getRestaurants => exact (hI.listRestaurants (hS _ (.inr (.inr (.inr rfl))))).after hnew

end Endpoints

end RestaurantServer.SessionInvariants
