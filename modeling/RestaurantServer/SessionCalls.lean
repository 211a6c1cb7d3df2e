import RestaurantServer.MethodTriples
import RestaurantServer.SessionUtil

/-!
The calls of `SessionUtil` as equations: what each of them returns and which
state it leaves, by whether the driver fails. What connecting and executing
keep, the methods that do nothing else keep.
-/

namespace RestaurantServer.SessionCalls

open RestaurantServer.JavaExceptions
open RestaurantServer.JavaStrings
open RestaurantServer.ThrowingMethods
open RestaurantServer.MethodTriples
open RestaurantServer.CassandraDatabase
open RestaurantServer.SessionUtil

/-- The cluster that `setupPooling` builds for an address. There is none when the
address, the login or the password is `null`. -/
def clusterFor (ipAddress : Option String) (properties : Singleton) : Option Cluster :=
  match ipAddress, properties.login, properties.password with
  | some address, some login, some password =>
      some ⟨address, trim login, trim password, false⟩
  | _, _, _ => none

def configuredCluster (properties : Singleton) : Option Cluster :=
  clusterFor properties.cassandraIpAddress properties

def called (world : World) : World :=
  { world with driverCalls := world.driverCalls + 1 }

@[simp] theorem driverCalls_called (world : World) :
    (called world).driverCalls = world.driverCalls + 1 := rfl

@[simp] theorem network_called (world : World) : (called world).network = world.network := rfl

def pooled (world : World) (cluster : Cluster) : World :=
  { world with
    driverCalls := world.driverCalls + 1
    cluster := some cluster
    initialised := false
    openClusters := world.openClusters + 1 }

/-- After an attempt to connect the cluster that has not closed it. -/
def initialised (world : World) : World :=
  { called world with initialised := true }

@[simp] theorem driverCalls_initialised (world : World) :
    (initialised world).driverCalls = world.driverCalls + 1 := rfl

@[simp] theorem network_initialised (world : World) :
    (initialised world).network = world.network := rfl

def afterStatement (world : World) (cluster : Cluster) (statement : Statement)
    (database : Option Database) : World :=
  { world with
    driverCalls := world.driverCalls + 1
    network :=
      match database with
      | none => world.network
      | some database => Function.update world.network cluster.address database
    sent := world.sent ++
      [⟨statement, cluster, world.controllerProperties, database.isSome⟩] }

section Calls

variable (environment : Environment)

theorem call_driverCall (world : World) :
    call (driverCall environment) world =
      (if environment.fails world.driverCalls then .error driverException else .ok ⟨⟩,
        called world) := by
  unfold driverCall
  rw [call_bind_of_ok (call_get world), call_bind_of_ok (call_set _ _)]
  split <;> rfl

theorem call_setupPooling_none {ipAddress : Option String} {world : World}
    (hcluster : clusterFor ipAddress world.controllerProperties = none) :
    call (setupPooling environment ipAddress) world =
      (.error (customException "Orm::setupPooling exception: "), world) := by
  rcases ipAddress with _ | address
  · simp [setupPooling, call_tryCatch, call_bind]
  · rcases hlogin : world.controllerProperties.login with _ | login
    · simp [setupPooling, call_tryCatch, call_bind, hlogin]
    · rcases hpassword : world.controllerProperties.password with _ | password
      · simp [setupPooling, call_tryCatch, call_bind, hlogin, hpassword]
      · simp [clusterFor, hlogin, hpassword] at hcluster

theorem call_setupPooling_some {ipAddress : Option String} {world : World} {cluster : Cluster}
    (hcluster : clusterFor ipAddress world.controllerProperties = some cluster) :
    call (setupPooling environment ipAddress) world =
      if environment.fails world.driverCalls then
        (.error (customException "Orm::setupPooling exception: "), called world)
      else (.ok ⟨⟩, pooled world cluster) := by
  unfold clusterFor at hcluster
  split at hcluster
  · rename_i address login password hlogin hpassword
    cases hcluster
    by_cases hfails : environment.fails world.driverCalls
    · simp [setupPooling, call_tryCatch, call_bind, call_driverCall, hlogin, hpassword, hfails]
    · simp [setupPooling, call_tryCatch, call_bind, call_driverCall, hlogin, hpassword, hfails,
        called, pooled]
  · cases hcluster

/-- Whether connecting fails so that the driver closes the cluster. -/
def closing (world : World) : Bool :=
  environment.fails world.driverCalls && environment.closes world.driverCalls &&
    !world.initialised

def afterConnecting (cluster : Cluster) (world : World) : World :=
  if closing environment world then closeCluster cluster (initialised world) else initialised world

theorem afterConnecting_initialised {world : World} (cluster : Cluster)
    (hinitialised : world.initialised = true) :
    afterConnecting environment cluster world = initialised world := by
  simp [afterConnecting, closing, hinitialised]

theorem afterConnecting_not_fails {world : World} (cluster : Cluster)
    (hfails : environment.fails world.driverCalls = false) :
    afterConnecting environment cluster world = initialised world := by
  simp [afterConnecting, closing, hfails]

theorem call_connectTo {world : World} {cluster : Cluster} (keySpace : Option String)
    (hcluster : world.cluster = some cluster) :
    call (connectTo environment keySpace) world =
      (if environment.fails world.driverCalls then .error driverException
        else openSession world.network cluster keySpace,
        afterConnecting environment cluster world) := by
  cases hfails : environment.fails world.driverCalls with
  | false =>
      rw [afterConnecting_not_fails environment cluster hfails]
      simp [connectTo, call_bind, call_tryCatch, call_driverCall, hcluster, hfails, initialised,
        called]
  | true =>
      cases hcloses : environment.closes world.driverCalls <;>
        cases hinitialised : world.initialised <;>
        simp [connectTo, call_bind, call_tryCatch, call_driverCall, hcluster, hfails, hcloses,
          hinitialised, afterConnecting, closing, initialised, called]

theorem call_execute (world : World) (session : Session) (statement : Statement) :
    call (execute environment session statement) world =
      match outcome environment world session statement with
      | .error e => (.error e, afterStatement world session.cluster statement none)
      | .ok (database, results) =>
          (.ok results, afterStatement world session.cluster statement (some database)) := by
  unfold execute
  rw [call_bind_of_ok (call_get world)]
  rcases outcome environment world session statement with e | ⟨database, results⟩ <;> rfl

/-- The configured cluster can be built and connected to a keyspace, where the
driver calls for this are numbered from `first`. -/
def Reachable (first : Nat) (world : World) (keySpace : String) (cluster : Cluster) : Prop :=
  configuredCluster world.controllerProperties = some cluster ∧
    environment.fails first = false ∧
    environment.fails (first + 1) = false ∧
    (world.network cluster.address keySpace).isSome

theorem open_configuredCluster {properties : Singleton} {cluster : Cluster}
    (hcluster : configuredCluster properties = some cluster) :
    properties.cassandraIpAddress = some cluster.address ∧ cluster.closed = false := by
  rcases properties with ⟨_ | address, port, _ | login, _ | password⟩ <;> cases hcluster
  exact ⟨rfl, rfl⟩

def connected (world : World) (cluster : Cluster) : World :=
  initialised (pooled world cluster)

theorem call_setupConfiguredPooling_none {world : World}
    (hcluster : configuredCluster world.controllerProperties = none) :
    call (setupConfiguredPooling environment) world =
      (.error (customException "Orm::setupPooling exception: "), world) := by
  unfold setupConfiguredPooling
  rw [call_bind_of_ok (call_get world)]
  exact call_setupPooling_none environment hcluster

theorem call_setupConfiguredPooling_some {world : World} {cluster : Cluster}
    (hcluster : configuredCluster world.controllerProperties = some cluster) :
    call (setupConfiguredPooling environment) world =
      if environment.fails world.driverCalls then
        (.error (customException "Orm::setupPooling exception: "), called world)
      else (.ok ⟨⟩, pooled world cluster) := by
  unfold setupConfiguredPooling
  rw [call_bind_of_ok (call_get world)]
  exact call_setupPooling_some environment hcluster

theorem call_connectTo_pooled (world : World) {cluster : Cluster} (keySpace : String)
    (hopen : cluster.closed = false) :
    call (connectTo environment (some keySpace)) (pooled world cluster) =
      (if environment.fails (world.driverCalls + 1) then .error driverException
        else if (world.network cluster.address keySpace).isSome then
          .ok ⟨cluster, some keySpace⟩
        else .error invalidQueryException,
        afterConnecting environment cluster (pooled world cluster)) := by
  rw [call_connectTo environment (some keySpace) (rfl : (pooled world cluster).cluster = _)]
  simp only [openSession, hopen, Bool.false_eq_true, if_false]
  rfl

theorem call_afterPooling {world : World} {keySpace : String} {cluster : Cluster} {α : Type}
    {f : Session → Method Throwable World α}
    (hreach : Reachable environment world.driverCalls world keySpace cluster) :
    call (setupConfiguredPooling environment >>= fun _ =>
        connectTo environment (some keySpace) >>= f) world =
      call (f ⟨cluster, some keySpace⟩) (connected world cluster) := by
  obtain ⟨hcluster, hbuild, hconnect, hkeyspace⟩ := hreach
  have hpooling : call (setupConfiguredPooling environment) world =
      (.ok ⟨⟩, pooled world cluster) := by
    rw [call_setupConfiguredPooling_some environment hcluster, hbuild]
    rfl
  have hsession : call (connectTo environment (some keySpace)) (pooled world cluster) =
      (.ok ⟨cluster, some keySpace⟩, connected world cluster) := by
    rw [call_connectTo_pooled environment world keySpace (open_configuredCluster hcluster).2,
      hconnect, if_pos hkeyspace, afterConnecting_not_fails environment cluster hconnect]
    rfl
  rw [call_bind_of_ok hpooling, call_bind_of_ok hsession]

/-- Nothing that outlives a request has changed. -/
def SameData (world world' : World) : Prop :=
  world'.network = world.network ∧
    world'.controllerProperties = world.controllerProperties ∧ world'.sent = world.sent

theorem SameData.trans {world world' world'' : World} (hfirst : SameData world world')
    (hsecond : SameData world' world'') : SameData world world'' :=
  ⟨hsecond.1.trans hfirst.1, hsecond.2.1.trans hfirst.2.1, hsecond.2.2.trans hfirst.2.2⟩

theorem sameData_afterConnecting (cluster : Cluster) (world : World) :
    SameData world (afterConnecting environment cluster world) := by
  rw [afterConnecting]
  split <;> exact ⟨rfl, rfl, rfl⟩

theorem call_afterPooling_error {world : World} {keySpace : String} {α : Type}
    {f : Session → Method Throwable World α}
    (hreach : ∀ cluster, ¬Reachable environment world.driverCalls world keySpace cluster) :
    ∃ e world', SameData world world' ∧
      call (setupConfiguredPooling environment >>= fun _ =>
        connectTo environment (some keySpace) >>= f) world = (.error e, world') := by
  rcases hcluster : configuredCluster world.controllerProperties with _ | cluster
  · have hpooling := call_setupConfiguredPooling_none environment hcluster
    exact ⟨_, world, ⟨rfl, rfl, rfl⟩, call_bind_of_error hpooling⟩
  · have hpooling := call_setupConfiguredPooling_some environment hcluster
    by_cases hbuild : environment.fails world.driverCalls
    · rw [if_pos hbuild] at hpooling
      exact ⟨_, called world, ⟨rfl, rfl, rfl⟩, call_bind_of_error hpooling⟩
    · rw [if_neg hbuild] at hpooling
      have hsession := call_connectTo_pooled environment world keySpace
        (open_configuredCluster hcluster).2
      have hsame : SameData world (afterConnecting environment cluster (pooled world cluster)) :=
        sameData_afterConnecting environment cluster (pooled world cluster)
      by_cases hconnect : environment.fails (world.driverCalls + 1)
      · rw [if_pos hconnect] at hsession
        refine ⟨driverException, _, hsame, ?_⟩
        rw [call_bind_of_ok hpooling, call_bind_of_error hsession]
      · have hkeyspace : ¬(world.network cluster.address keySpace).isSome := by
          intro hkeyspace
          rw [Bool.not_eq_true] at hbuild hconnect
          exact hreach cluster ⟨hcluster, hbuild, hconnect, hkeyspace⟩
        rw [if_neg hconnect, if_neg hkeyspace] at hsession
        refine ⟨invalidQueryException, _, hsame, ?_⟩
        rw [call_bind_of_ok hpooling, call_bind_of_error hsession]

/-- What an attempt to create a table leaves behind, whether it succeeds or not. -/
structure TableAttempted (cluster : Cluster) (keySpace name : String) (columns : List String)
    (primaryKey : String) (world world' : World) : Prop where
  cluster_eq : world'.cluster = world.cluster
  initialised_eq : world'.initialised = world.initialised
  properties_eq : world'.controllerProperties = world.controllerProperties
  driverCalls_eq : world'.driverCalls =
    if environment.fails world.driverCalls then world.driverCalls + 1
    else world.driverCalls + 2
  keyspace : (world'.network cluster.address keySpace).isSome
  table_eq (other : String) : (world'.network cluster.address).table keySpace other =
    if other = name ∧ (world.network cluster.address).table keySpace name = none ∧
        environment.fails world.driverCalls = false ∧
        environment.fails (world.driverCalls + 1) = false then
      some ⟨columns, primaryKey, true, []⟩
    else (world.network cluster.address).table keySpace other

theorem outcome_createTable {cluster : Cluster} {keySpace : String} {world : World}
    (hkeyspace : (world.network cluster.address keySpace).isSome) (name : String)
    (columns : List String) (primaryKey : String) :
    outcome environment world ⟨cluster, some keySpace⟩
        (.createTable keySpace name columns primaryKey) =
      if environment.fails world.driverCalls then .error driverException
      else
        match (world.network cluster.address).table keySpace name with
        | some _ => .error alreadyExistsException
        | none => .ok ((world.network cluster.address).setTable keySpace name
            (some ⟨columns, primaryKey, true, []⟩), ⟨[], []⟩) := by
  have hspace : (world.network cluster.address keySpace).isNone = false := by
    simpa using hkeyspace
  simp only [outcome, Database.execute, hspace, Bool.false_eq_true, if_false]
  rcases (world.network cluster.address).table keySpace name with _ | table <;> rfl

theorem tableAttempted {cluster : Cluster} {keySpace : String} {world : World}
    (hcluster : world.cluster = some cluster) (hopen : cluster.closed = false)
    (hinitialised : world.initialised = true)
    (hkeyspace : (world.network cluster.address keySpace).isSome) (name : String)
    (columns : List String) (primaryKey : String) :
    TableAttempted environment cluster keySpace name columns primaryKey world
      (call (do
          let session ← connectTo environment (some keySpace)
          let _ ← execute environment session
            (.createTable keySpace name columns primaryKey) :
          Method Throwable World Unit) world).2 := by
  have hconnect := call_connectTo environment (some keySpace) hcluster
  rw [afterConnecting_initialised environment cluster hinitialised] at hconnect
  simp only [openSession, hopen, hkeyspace, Bool.false_eq_true, if_false, if_true] at hconnect
  have hsame : (initialised world).initialised = world.initialised := hinitialised.symm
  by_cases hfails : environment.fails world.driverCalls
  · rw [if_pos hfails] at hconnect
    rw [call_bind_of_error hconnect]
    exact ⟨rfl, hsame, rfl, by simp [hfails], hkeyspace, fun other => by simp [hfails]⟩
  · rw [if_neg hfails] at hconnect
    have hspace : ((initialised world).network cluster.address keySpace).isSome := hkeyspace
    rw [call_bind_of_ok hconnect, state_bind_pure, call_execute,
      outcome_createTable environment hspace, driverCalls_initialised, network_initialised]
    by_cases hexecute : environment.fails (world.driverCalls + 1)
    · rw [if_pos hexecute]
      exact ⟨rfl, hsame, rfl, by simp [afterStatement, hfails], hkeyspace,
        fun other => by simp [afterStatement, hexecute]⟩
    · rw [if_neg hexecute]
      rcases htable : (world.network cluster.address).table keySpace name with _ | table
      · refine ⟨rfl, hsame, rfl, by simp [afterStatement, hfails], ?_, fun other => ?_⟩
        · simpa [afterStatement, Database.isSome_setTable] using hkeyspace
        · simp [afterStatement, hfails, hexecute, htable,
            Database.table_setTable _ _ _ _ _ hkeyspace]
      · exact ⟨rfl, hsame, rfl, by simp [afterStatement, hfails], hkeyspace,
          fun other => by simp [afterStatement, htable]⟩

section Tables

variable {keySpace : String} {world : World} {cluster : Cluster}

theorem createRestaurantTable_attempted (hcluster : world.cluster = some cluster)
    (hopen : cluster.closed = false) (hinitialised : world.initialised = true)
    (hkeyspace : (world.network cluster.address keySpace).isSome) :
    ∃ world', call (createRestaurantTable environment keySpace) world = (.ok ⟨⟩, world') ∧
      TableAttempted environment cluster keySpace "restaurants"
        ["cuisine", "seating", "restaurantId"] "restaurantId" world world' :=
  ⟨_, call_swallow _ _,
    tableAttempted environment hcluster hopen hinitialised hkeyspace _ _ _⟩

theorem createTablesTable_attempted (hcluster : world.cluster = some cluster)
    (hopen : cluster.closed = false) (hinitialised : world.initialised = true)
    (hkeyspace : (world.network cluster.address keySpace).isSome) :
    TableAttempted environment cluster keySpace "tables"
      ["restaurantId", "seatNumber", "tableId"] "tableId" world
      (call (createTablesTable environment keySpace) world).2 := by
  unfold createTablesTable
  rw [state_tryCatch_throw]
  exact tableAttempted environment hcluster hopen hinitialised hkeyspace _ _ _

theorem sameData_createIndex (keySpace : String) (hcluster : world.cluster = some cluster) :
    SameData world (call (createIndex environment keySpace) world).2 := by
  unfold createIndex
  rw [state_tryCatch_throw, state_bind_pure,
    call_connectTo environment (some keySpace) hcluster]
  exact sameData_afterConnecting environment cluster world

/-- The setup attempts to create the one table and then the other, and its last
step changes nothing. -/
theorem setupRestaurantDatabaseTables_attempts
    (hreach : Reachable environment world.driverCalls world keySpace cluster) :
    ∃ world₁ world₂,
      TableAttempted environment cluster keySpace "restaurants"
        ["cuisine", "seating", "restaurantId"] "restaurantId" (connected world cluster) world₁ ∧
      TableAttempted environment cluster keySpace "tables"
        ["restaurantId", "seatNumber", "tableId"] "tableId" world₁ world₂ ∧
      SameData world₂ (call (setupRestaurantDatabaseTables environment keySpace) world).2 := by
  have hopen := (open_configuredCluster hreach.1).2
  have hconnected : (connected world cluster).cluster = some cluster := rfl
  obtain ⟨world₁, hcall, hrestaurants⟩ :=
    createRestaurantTable_attempted environment hconnected hopen rfl hreach.2.2.2
  have hcluster := hrestaurants.cluster_eq.trans hconnected
  have htables := createTablesTable_attempted environment hcluster hopen
    hrestaurants.initialised_eq hrestaurants.keyspace
  refine ⟨world₁, _, hrestaurants, htables, ?_⟩
  unfold setupRestaurantDatabaseTables
  rw [call_swallow, call_afterPooling environment hreach, call_bind_of_ok hcall, call_bind]
  have hindex := sameData_createIndex environment keySpace
    (htables.cluster_eq.trans hcluster)
  rcases hcall : call (createTablesTable environment keySpace) world₁ with ⟨e | a, world₂⟩
  · exact ⟨rfl, rfl, rfl⟩
  · rw [hcall] at hindex
    exact hindex

end Tables

section Statements

variable {keySpace : String} {world : World} {cluster : Cluster}

theorem call_pooledStatement {α : Type} (statement : Statement) (f : ResultSet → α)
    (fallback : α)
    (hreach : Reachable environment world.driverCalls world keySpace cluster) :
    call (tryCatch
        (do
          setupConfiguredPooling environment
          let session ← connectTo environment (some keySpace)
          let results ← execute environment session statement
          pure (f results))
        fun _ => pure fallback : Method Throwable World α) world =
      match outcome environment (connected world cluster) ⟨cluster, some keySpace⟩ statement with
      | .error _ => (.ok fallback, afterStatement (connected world cluster) cluster statement none)
      | .ok (database, results) =>
          (.ok (f results),
            afterStatement (connected world cluster) cluster statement (some database)) := by
  rw [call_tryCatch, call_afterPooling environment hreach, call_bind, call_execute]
  rcases outcome environment (connected world cluster) ⟨cluster, some keySpace⟩ statement with
    e | ⟨database, results⟩ <;> rfl

theorem call_pooledStatement_unreachable {α : Type} (statement : Statement)
    (f : ResultSet → α) (fallback : α)
    (hreach : ∀ cluster, ¬Reachable environment world.driverCalls world keySpace cluster) :
    ∃ world', SameData world world' ∧
      call (tryCatch
        (do
          setupConfiguredPooling environment
          let session ← connectTo environment (some keySpace)
          let results ← execute environment session statement
          pure (f results))
        fun _ => pure fallback : Method Throwable World α) world = (.ok fallback, world') := by
  obtain ⟨e, world', hsame, hcall⟩ := call_afterPooling_error environment hreach
  exact ⟨world', hsame, by rw [call_tryCatch_of_error hcall, call_pure]⟩

theorem call_getRestaurants {results : ResultSet}
    (hreach : Reachable environment world.driverCalls world keySpace cluster) :
    call (getRestaurants environment (some results) keySpace) world =
      (match results.rows.mapM (formatRow results) with
        | .ok lines => .ok lines
        | .error _ => .error (customException "Orm::getRestaurants exception: "),
        connected world cluster) := by
  unfold getRestaurants
  rw [call_tryCatch, call_afterPooling environment hreach, nonNull_some,
    call_bind_of_ok (call_liftExcept _ _), call_liftExcept]
  rcases results.rows.mapM (formatRow results) with e | lines <;> rfl

theorem call_getRestaurants_unreachable (results : Option ResultSet)
    (hreach : ∀ cluster, ¬Reachable environment world.driverCalls world keySpace cluster) :
    ∃ world', SameData world world' ∧
      call (getRestaurants environment results keySpace) world =
        (.error (customException "Orm::getRestaurants exception: "), world') := by
  obtain ⟨e, world', hsame, hcall⟩ := call_afterPooling_error environment hreach
  exact ⟨world', hsame, by rw [getRestaurants, call_tryCatch_of_error hcall, call_throw]⟩

theorem call_getRestaurants_none (keySpace : String) (world : World) :
    ∃ world', SameData world world' ∧
      call (getRestaurants environment none keySpace) world =
        (.error (customException "Orm::getRestaurants exception: "), world') := by
  by_cases hreach : ∃ cluster, Reachable environment world.driverCalls world keySpace cluster
  · obtain ⟨cluster, hreach⟩ := hreach
    refine ⟨connected world cluster, ⟨rfl, rfl, rfl⟩, ?_⟩
    unfold getRestaurants
    rw [call_tryCatch, call_afterPooling environment hreach, nonNull_none,
      call_bind_of_error (call_liftExcept _ _)]
    rfl
  · exact call_getRestaurants_unreachable environment none (not_exists.mp hreach)

end Statements

end Calls

section Keeping

variable {environment : Environment} {I : World → Prop}

/-- Connecting keeps `I`, and so does a statement sent in the session. -/
structure Keeps (environment : Environment) (I : World → Prop) : Prop where
  connect (keySpace : Option String) :
    Triple I (connectTo environment keySpace) (fun _ => I) I
  statement (keySpace : Option String) (statement : Statement) :
    Triple I
      (connectTo environment keySpace >>= fun session => execute environment session statement)
      (fun _ => I) I

theorem Keeps.statement_bind (hkeeps : Keeps environment I) {α : Type}
    {f : ResultSet → Method Throwable World α} {Q : α → World → Prop}
    (keySpace : Option String) (statement : Statement)
    (hf : ∀ results, Triple I (f results) Q I) :
    Triple I
      (connectTo environment keySpace >>= fun session =>
        execute environment session statement >>= f) Q I := by
  rw [← bind_assoc]
  exact triple_bind (hkeeps.statement keySpace statement) hf

theorem Keeps.tryStatement (hkeeps : Keeps environment I) (keySpace : Option String)
    (statement : Statement) {handler : Throwable → Method Throwable World Unit}
    (hhandler : ∀ e, Triple I (handler e) (fun _ => I) I) :
    Triple I
      (tryCatch
        (do
          let session ← connectTo environment keySpace
          let _ ← execute environment session statement)
        handler)
      (fun _ => I) I :=
  triple_tryCatch (hkeeps.statement_bind keySpace statement fun _ => triple_pure fun _ hs => hs)
    hhandler

theorem Keeps.createTable (hkeeps : Keeps environment I) (keySpace tableName : String) :
    Triple I (createTable environment keySpace tableName) (fun _ => I) I :=
  hkeeps.tryStatement _ _ fun _ => triple_throw fun _ hs => hs

theorem Keeps.deleteTable (hkeeps : Keeps environment I) (keySpace tableName : String) :
    Triple I (deleteTable environment keySpace tableName) (fun _ => I) I :=
  hkeeps.tryStatement _ _ fun _ => triple_throw fun _ hs => hs

theorem Keeps.createRestaurantTable (hkeeps : Keeps environment I) (keySpace : String) :
    Triple I (createRestaurantTable environment keySpace) (fun _ => I) I :=
  hkeeps.tryStatement _ _ fun _ => triple_pure fun _ hs => hs

theorem Keeps.createTablesTable (hkeeps : Keeps environment I) (keySpace : String) :
    Triple I (createTablesTable environment keySpace) (fun _ => I) I :=
  hkeeps.tryStatement _ _ fun _ => triple_throw fun _ hs => hs

theorem Keeps.createIndex (hkeeps : Keeps environment I) (keySpace : String) :
    Triple I (createIndex environment keySpace) (fun _ => I) I :=
  triple_tryCatch
    (triple_bind (hkeeps.connect _) fun _ => triple_pure fun _ hs => hs)
    fun _ => triple_throw fun _ hs => hs

/-- What follows the pooling in `setupRestaurantDatabaseTables`. -/
theorem Keeps.restaurantTables (hkeeps : Keeps environment I) (keySpace : String) :
    Triple I
      (do
        let _ ← connectTo environment (some keySpace)
        SessionUtil.createRestaurantTable environment keySpace
        SessionUtil.createTablesTable environment keySpace
        SessionUtil.createIndex environment keySpace)
      (fun _ => I) I := by
  refine triple_bind (hkeeps.connect _) fun _ => ?_
  refine triple_bind (hkeeps.createRestaurantTable keySpace) fun _ => ?_
  refine triple_bind (hkeeps.createTablesTable keySpace) fun _ => ?_
  exact hkeeps.createIndex keySpace

/-- What follows the pooling in `getRestaurants`. -/
theorem Keeps.format (hkeeps : Keeps environment I) (results : Option ResultSet)
    (keySpace : String) :
    Triple I
      (do
        let _ ← connectTo environment (some keySpace)
        let results ← liftExcept (nonNull results)
        liftExcept (results.rows.mapM (formatRow results)))
      (fun _ => I) I := by
  refine triple_bind (hkeeps.connect _) fun _ => ?_
  refine triple_bind (Q := fun _ => I) ?_ fun _ => ?_
  · exact triple_liftExcept (fun _ _ _ hs => hs) fun _ hs => hs
  · exact triple_liftExcept (fun _ _ _ hs => hs) fun _ hs => hs

end Keeping

end RestaurantServer.SessionCalls
