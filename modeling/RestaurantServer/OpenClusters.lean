import RestaurantServer.MethodTriples
import RestaurantServer.RequestRuns
import RestaurantServer.RestaurantController
import RestaurantServer.SessionCalls

/-!
How many clusters are open. Each request that pools builds a cluster and puts it
in the place of the one before. Only the driver may have closed that one, when it
could not be connected.
-/

namespace RestaurantServer.OpenClusters

open RestaurantServer.JavaExceptions
open RestaurantServer.ThrowingMethods
open RestaurantServer.MethodTriples
open RestaurantServer.RequestRuns
open RestaurantServer.CassandraDatabase
open RestaurantServer.SessionUtil
open RestaurantServer.SessionCalls
open RestaurantServer.RestaurantController

/-- What the controller does with its `SessionUtil`. -/
inductive Operation where
  | construct
  | serve (request : Request)
  | close

def operate (world : World) (operation : Operation × Environment) : World :=
  match operation.1 with
  | .construct => (call (constructController operation.2) (World.newRequest world)).2
  | .serve request => handle world (request, operation.2)
  | .close => (call (SessionUtil.close operation.2) (World.newRequest world)).2

/-- The clusters that the field can close: one if it holds an open cluster. -/
def held (world : World) : Nat :=
  match world.cluster with
  | some cluster => if cluster.closed then 0 else 1
  | none => 0

/-- The open clusters are the one in the field, if that is open, and no other. -/
def NoLeak (world : World) : Prop :=
  world.openClusters = held world

/-- From the one state to the other at most `built` clusters were built, and `replaced`
times a new cluster took the place of an open one. -/
structure Built (environment : Environment) (built replaced : Nat) (world world' : World) :
    Prop where
  balance : held world ≤ world.openClusters →
    world'.openClusters + held world = world.openClusters + held world' + replaced
  openClusters_le : world'.openClusters ≤ world.openClusters + built
  openClusters_eq : (∀ n, environment.fails n = false) →
    world'.openClusters = world.openClusters + built

theorem held_eq {world world' : World} (hcluster : world'.cluster = world.cluster) :
    held world' = held world := by
  rw [held, held, hcluster]

section Balance

variable {environment : Environment} {built replaced : Nat} {world world' world'' : World}

theorem built_unchanged (hcluster : world'.cluster = world.cluster)
    (hopen : world'.openClusters = world.openClusters) : Built environment 0 0 world world' where
  balance _ := by rw [held_eq hcluster, hopen, Nat.add_zero]
  openClusters_le := hopen.le
  openClusters_eq _ := hopen

theorem Built.refl (world : World) : Built environment 0 0 world world :=
  built_unchanged rfl rfl

theorem Built.held_le (hbuilt : Built environment built replaced world world')
    (hheld : held world ≤ world.openClusters) : held world' ≤ world'.openClusters := by
  have hbalance := hbuilt.balance hheld
  omega

theorem Built.trans {further further' : Nat}
    (hfirst : Built environment built replaced world world')
    (hsecond : Built environment further further' world' world'') :
    Built environment (built + further) (replaced + further') world world'' where
  balance := by
    intro hheld
    have hbefore := hfirst.balance hheld
    have hafter := hsecond.balance (hfirst.held_le hheld)
    omega
  openClusters_le := by
    have hbefore := hfirst.openClusters_le
    have hafter := hsecond.openClusters_le
    omega
  openClusters_eq := by
    intro hfails
    rw [hsecond.openClusters_eq hfails, hfirst.openClusters_eq hfails, Nat.add_assoc]

/-- Building clusters keeps to the one in the field only if none took the place of an
open one. -/
theorem noLeak_built_iff (hworld : NoLeak world)
    (hbuilt : Built environment built replaced world world') :
    NoLeak world' ↔ replaced = 0 := by
  rw [NoLeak] at hworld ⊢
  have hbalance := hbuilt.balance hworld.ge
  omega

theorem openClusters_closeCluster {cluster : Cluster} (hcluster : world.cluster = some cluster) :
    (closeCluster cluster world).openClusters = world.openClusters - held world := by
  rw [held, hcluster]
  change (if cluster.closed then _ else _) = _ - if cluster.closed then 0 else 1
  cases cluster.closed <;> rfl

theorem balance_closeCluster {cluster : Cluster} (hcluster : world.cluster = some cluster)
    (hheld : held world ≤ world.openClusters) :
    (closeCluster cluster world).openClusters + held world =
      world.openClusters + held (closeCluster cluster world) := by
  have hclosed : held (closeCluster cluster world) = 0 := rfl
  rw [openClusters_closeCluster hcluster, hclosed]
  omega

/-- Connecting builds no cluster, and it closes one only where a call fails. -/
theorem built_afterConnecting {cluster : Cluster} (hcluster : world.cluster = some cluster) :
    Built environment 0 0 world (afterConnecting environment cluster world) := by
  rw [afterConnecting]
  split
  case isTrue hclosing =>
    have hinitialised : (initialised world).cluster = some cluster := hcluster
    have hopen := openClusters_closeCluster hinitialised
    refine ⟨balance_closeCluster hinitialised, ?_, fun hfails => ?_⟩
    · rw [hopen]
      exact Nat.sub_le _ _
    · rw [closing, hfails] at hclosing
      cases hclosing
  case isFalse => exact built_unchanged rfl rfl

end Balance

section Untouched

variable (environment : Environment) (world : World)

/-- A method that builds no cluster. -/
def Untouched {α : Type} (m : Method Throwable World α) : Prop :=
  Triple (Built environment 0 0 world) m (fun _ => Built environment 0 0 world)
    (Built environment 0 0 world)

variable {world}

theorem Built.keep {environment : Environment} {world world' world'' : World}
    (hbuilt : Built environment 0 0 world world') (hcluster : world''.cluster = world'.cluster)
    (hopen : world''.openClusters = world'.openClusters) : Built environment 0 0 world world'' :=
  hbuilt.trans (built_unchanged hcluster hopen)

theorem untouched_connectTo (keySpace : Option String) :
    Untouched environment world (connectTo environment keySpace) := by
  refine triple_of_after fun world' hbuilt => ?_
  cases hcluster : world'.cluster with
  | none =>
      have hcall : call (connectTo environment keySpace) world' =
          (.error nullPointerException, world') := by
        simp [connectTo, call_bind, hcluster]
      rw [hcall]
      exact hbuilt
  | some cluster =>
      rw [call_connectTo environment keySpace hcluster]
      exact hbuilt.trans (built_afterConnecting hcluster)

theorem untouched_execute (session : Session) (statement : Statement) :
    Untouched environment world (execute environment session statement) := by
  intro world' hbuilt
  rw [call_execute]
  rcases outcome environment world' session statement with e | ⟨database, results⟩
  · exact hbuilt.keep rfl rfl
  · exact hbuilt.keep rfl rfl

theorem keeps_built : Keeps environment (Built environment 0 0 world) where
  connect := untouched_connectTo environment
  statement keySpace statement :=
    triple_bind (untouched_connectTo environment keySpace) fun session =>
      untouched_execute environment session statement

theorem untouched_pure {α : Type} (a : α) :
    Untouched environment world (pure a : Method Throwable World α) :=
  triple_pure fun _ hs => hs

theorem untouched_throw {α : Type} (e : Throwable) :
    Untouched environment world (throw e : Method Throwable World α) :=
  triple_throw fun _ hs => hs

variable {environment} {built replaced : Nat} {world' : World} {α : Type}
  {m : Method Throwable World α}

theorem Built.untouched (hbuilt : Built environment built replaced world world')
    (hm : Untouched environment world' m) :
    Built environment built replaced world (call m world').2 :=
  hbuilt.trans (triple_after hm (.refl world'))

theorem Built.tryCatch {handler : Throwable → Method Throwable World α}
    (hbuilt : Built environment built replaced world (call m world').2)
    (hhandler : ∀ e world'', Untouched environment world'' (handler e)) :
    Built environment built replaced world (call (tryCatch m handler) world').2 := by
  rw [call_tryCatch]
  rcases hcall : call m world' with ⟨e | a, world''⟩ <;> rw [hcall] at hbuilt
  · exact hbuilt.untouched (hhandler e world'')
  · exact hbuilt

theorem Built.bind {β : Type} {f : α → Method Throwable World β}
    (hbuilt : Built environment built replaced world (call m world').2)
    (hf : ∀ a world'', Untouched environment world'' (f a)) :
    Built environment built replaced world (call (m >>= f) world').2 := by
  rw [call_bind]
  rcases hcall : call m world' with ⟨e | a, world''⟩ <;> rw [hcall] at hbuilt
  · exact hbuilt
  · exact hbuilt.untouched (hf a world'')

end Untouched

section Pooling

variable (environment : Environment)

/-- Whether the driver call with this number builds a cluster for the address. -/
def pools (properties : Singleton) (ipAddress : Option String) (number : Nat) : Bool :=
  (clusterFor ipAddress properties).isSome && !environment.fails number

theorem open_clusterFor {properties : Singleton} {ipAddress : Option String} {cluster : Cluster}
    (hcluster : clusterFor ipAddress properties = some cluster) : cluster.closed = false := by
  rcases ipAddress with _ | address
  · cases hcluster
  · rcases properties with ⟨ip, port, _ | login, _ | password⟩ <;> cases hcluster
    rfl

theorem held_pooled (world : World) {cluster : Cluster} (hopen : cluster.closed = false) :
    held (pooled world cluster) = 1 := by
  change (if cluster.closed then 0 else 1) = 1
  rw [hopen]
  rfl

/-- The new cluster takes the place of the one in the field, whether that is open or not. -/
theorem built_pooled (world : World) {cluster : Cluster} (hopen : cluster.closed = false) :
    Built environment 1 (held world) world (pooled world cluster) where
  balance _ := by
    rw [held_pooled world hopen]
    rfl
  openClusters_le := Nat.le_refl _
  openClusters_eq _ := rfl

theorem call_setupPooling_not_pools {ipAddress : Option String} {world : World}
    (hpools : pools environment world.controllerProperties ipAddress world.driverCalls = false) :
    ∃ world', call (setupPooling environment ipAddress) world =
        (.error (customException "Orm::setupPooling exception: "), world') ∧
      Built environment 0 0 world world' := by
  cases hcluster : clusterFor ipAddress world.controllerProperties with
  | none => exact ⟨world, call_setupPooling_none environment hcluster, .refl world⟩
  | some cluster =>
      have hfails : environment.fails world.driverCalls = true := by
        simpa [pools, hcluster] using hpools
      refine ⟨called world, ?_, built_unchanged rfl rfl⟩
      rw [call_setupPooling_some environment hcluster, if_pos hfails]

theorem call_setupPooling_pools {ipAddress : Option String} {world : World}
    (hpools : pools environment world.controllerProperties ipAddress world.driverCalls = true) :
    ∃ world', call (setupPooling environment ipAddress) world = (.ok ⟨⟩, world') ∧
      Built environment 1 (held world) world world' ∧ held world' = 1 ∧
      world'.controllerProperties = world.controllerProperties ∧
      world'.driverCalls = world.driverCalls + 1 := by
  obtain ⟨hsome, hfails⟩ : (clusterFor ipAddress world.controllerProperties).isSome = true ∧
      environment.fails world.driverCalls = false := by
    simpa [pools] using hpools
  obtain ⟨cluster, hcluster⟩ := Option.isSome_iff_exists.mp hsome
  have hopen := open_clusterFor hcluster
  refine ⟨pooled world cluster, ?_, built_pooled environment world hopen,
    held_pooled world hopen, rfl, rfl⟩
  rw [call_setupPooling_some environment hcluster, hfails]
  rfl

/-- Pooling comes first, and if it succeeds, what follows may pool again. -/
theorem built_poolingTwice (world : World) (ipAddress : Option String) {α : Type}
    (f : PUnit → Method Throwable World α) (further : Nat)
    (hf : ∀ world', world'.controllerProperties = world.controllerProperties →
      world'.driverCalls = world.driverCalls + 1 → held world' = 1 →
      Built environment further further world' (call (f ⟨⟩) world').2) :
    Built environment
      (if pools environment world.controllerProperties ipAddress world.driverCalls
        then 1 + further else 0)
      (if pools environment world.controllerProperties ipAddress world.driverCalls
        then held world + further else 0) world
      (call (setupPooling environment ipAddress >>= f) world).2 := by
  cases hpools : pools environment world.controllerProperties ipAddress world.driverCalls with
  | false =>
      obtain ⟨world', hcall, hbuilt⟩ := call_setupPooling_not_pools environment hpools
      rw [call_bind_of_error hcall]
      exact hbuilt
  | true =>
      obtain ⟨world', hcall, hbuilt, hheld, hproperties, hcalls⟩ :=
        call_setupPooling_pools environment hpools
      rw [call_bind_of_ok hcall]
      exact hbuilt.trans (hf world' hproperties hcalls hheld)

/-- Pooling comes first, and what follows builds no cluster. -/
theorem built_afterPooling {ipAddress : Option String} {α : Type}
    {f : PUnit → Method Throwable World α} (world : World)
    (hf : ∀ world', Untouched environment world' (f ⟨⟩)) :
    Built environment
      (pools environment world.controllerProperties ipAddress world.driverCalls).toNat
      (if pools environment world.controllerProperties ipAddress world.driverCalls
        then held world else 0) world
      (call (setupPooling environment ipAddress >>= f) world).2 := by
  have hbuilt := built_poolingTwice environment world ipAddress f 0 fun world' _ _ _ =>
    triple_after (hf world') (.refl world')
  cases hpools : pools environment world.controllerProperties ipAddress world.driverCalls <;>
    rw [hpools] at hbuilt <;> exact hbuilt

theorem built_afterConfiguredPooling {α : Type} {f : PUnit → Method Throwable World α}
    (world : World) (hf : ∀ world', Untouched environment world' (f ⟨⟩)) :
    Built environment
      (pools environment world.controllerProperties
        world.controllerProperties.cassandraIpAddress world.driverCalls).toNat
      (if pools environment world.controllerProperties
        world.controllerProperties.cassandraIpAddress world.driverCalls
        then held world else 0) world
      (call (setupConfiguredPooling environment >>= f) world).2 := by
  have hunfold : call (setupConfiguredPooling environment >>= f) world =
      call (setupPooling environment world.controllerProperties.cassandraIpAddress >>= f)
        world := by
    rw [setupConfiguredPooling, bind_assoc, call_bind_of_ok (call_get world)]
  rw [hunfold]
  exact built_afterPooling environment world hf

end Pooling

section Requests

variable (environment : Environment) (world : World)

def configuredPools (number : Nat) : Bool :=
  pools environment world.controllerProperties world.controllerProperties.cassandraIpAddress
    number

/-- The method pools once, with the configured address, and builds no further cluster. -/
def PoolsOnce {α : Type} (m : Method Throwable World α) : Prop :=
  Built environment (configuredPools environment world world.driverCalls).toNat
    (if configuredPools environment world world.driverCalls then held world else 0) world
    (call m world).2

theorem poolsOnce_createSchema (keySpace : String) :
    PoolsOnce environment world (createSchema environment keySpace) :=
  Built.tryCatch
    (built_afterConfiguredPooling environment world fun _ =>
      (keeps_built environment).statement_bind _ _ fun _ => untouched_pure _ _)
    fun _ _ => untouched_throw _ _

theorem poolsOnce_setupTables : PoolsOnce environment world (setupTables environment) := by
  refine Built.tryCatch ?_ fun _ _ => untouched_pure _ _
  rw [state_bind_pure]
  exact Built.tryCatch
    (built_afterConfiguredPooling environment world fun _ =>
      (keeps_built environment).restaurantTables "accounts")
    fun _ _ => untouched_pure _ _

theorem poolsOnce_addRestaurant (restaurant : Restaurant) :
    PoolsOnce environment world (addRestaurant environment restaurant) := by
  refine Built.tryCatch ?_ fun _ _ => untouched_pure _ _
  rw [state_bind_pure]
  exact Built.tryCatch
    (built_afterConfiguredPooling environment world fun _ =>
      (keeps_built environment).statement_bind _ _ fun _ => untouched_pure _ _)
    fun _ _ => untouched_pure _ _

theorem poolsOnce_querySchema (keySpace : String) (cql : Statement) :
    PoolsOnce environment world (querySchema environment keySpace cql) :=
  Built.tryCatch
    (built_afterConfiguredPooling environment world fun _ =>
      (keeps_built environment).statement_bind _ _ fun _ => untouched_pure _ _)
    fun _ _ => untouched_pure _ _

theorem poolsOnce_formatting (results : Option ResultSet) (keySpace : String) :
    PoolsOnce environment world (SessionUtil.getRestaurants environment results keySpace) :=
  Built.tryCatch
    (built_afterConfiguredPooling environment world fun _ =>
      (keeps_built environment).format results keySpace)
    fun _ _ => untouched_throw _ _

/-- How many driver calls `querySchema` makes before it returns. -/
def queryCalls (keySpace : String) : Nat :=
  match configuredCluster world.controllerProperties with
  | none => 0
  | some cluster =>
      if environment.fails world.driverCalls then 1
      else if environment.fails (world.driverCalls + 1) then 2
      else if (world.network cluster.address keySpace).isSome then 3
      else 2

/-- What `querySchema` leaves in the field: the cluster it has built, unless the driver
has closed that, or the cluster of before. -/
def heldAfterQuery : Nat :=
  if configuredPools environment world world.driverCalls then
    if environment.fails (world.driverCalls + 1) && environment.closes (world.driverCalls + 1)
    then 0 else 1
  else held world

theorem held_afterConnecting_pooled {cluster : Cluster} (hopen : cluster.closed = false) :
    held (afterConnecting environment cluster (pooled world cluster)) =
      if environment.fails (world.driverCalls + 1) && environment.closes (world.driverCalls + 1)
      then 0 else 1 := by
  have hclosing : closing environment (pooled world cluster) =
      (environment.fails (world.driverCalls + 1) &&
        environment.closes (world.driverCalls + 1)) := Bool.and_true _
  rw [afterConnecting, hclosing]
  split
  · rfl
  · exact held_pooled world hopen

theorem driverCalls_afterConnecting (cluster : Cluster) :
    (afterConnecting environment cluster world).driverCalls = world.driverCalls + 1 := by
  rw [afterConnecting]
  split <;> rfl

/-- A query through the cluster that was just built. Executing the statement leaves the
field alone, whatever comes of it. -/
theorem call_query_pooled {cluster : Cluster} (hopen : cluster.closed = false)
    (keySpace : String) (cql : Statement) :
    ∃ reply world', call (connectTo environment (some keySpace) >>= fun session =>
        execute environment session cql >>= fun results => pure (some results))
        (pooled world cluster) = (reply, world') ∧
      world'.controllerProperties = world.controllerProperties ∧
      world'.driverCalls = world.driverCalls +
        (if environment.fails (world.driverCalls + 1) then 2
          else if (world.network cluster.address keySpace).isSome then 3 else 2) ∧
      held world' =
        if environment.fails (world.driverCalls + 1) && environment.closes (world.driverCalls + 1)
        then 0 else 1 := by
  have hsession := call_connectTo_pooled environment world keySpace hopen
  have hheld := held_afterConnecting_pooled environment world hopen
  have hproperties := (sameData_afterConnecting environment cluster (pooled world cluster)).2.1
  have hcalls : (afterConnecting environment cluster (pooled world cluster)).driverCalls =
      world.driverCalls + 2 :=
    driverCalls_afterConnecting environment (pooled world cluster) cluster
  by_cases hconnect : environment.fails (world.driverCalls + 1)
  · rw [if_pos hconnect] at hsession
    rw [if_pos hconnect]
    exact ⟨_, _, call_bind_of_error hsession, hproperties, hcalls, hheld⟩
  rw [if_neg hconnect] at hsession ⊢
  by_cases hkeyspace : (world.network cluster.address keySpace).isSome
  · rw [if_pos hkeyspace] at hsession ⊢
    have hcalls' (database : Option Database) :
        (afterStatement (afterConnecting environment cluster (pooled world cluster)) cluster cql
          database).driverCalls = world.driverCalls + 3 := congrArg (· + 1) hcalls
    rw [call_bind_of_ok hsession, call_bind, call_execute]
    rcases outcome environment (afterConnecting environment cluster (pooled world cluster))
      ⟨cluster, some keySpace⟩ cql with e | answer
    · exact ⟨_, _, rfl, hproperties, hcalls' none, hheld⟩
    · exact ⟨_, _, rfl, hproperties, hcalls' (some answer.1), hheld⟩
  · rw [if_neg hkeyspace] at hsession ⊢
    exact ⟨_, _, call_bind_of_error hsession, hproperties, hcalls, hheld⟩

theorem call_querySchema (keySpace : String) (cql : Statement) :
    ∃ results world', call (querySchema environment keySpace cql) world = (.ok results, world') ∧
      world'.controllerProperties = world.controllerProperties ∧
      world'.driverCalls = world.driverCalls + queryCalls environment world keySpace ∧
      held world' = heldAfterQuery environment world := by
  rw [querySchema, queryCalls, heldAfterQuery, configuredPools, pools]
  cases hcluster : configuredCluster world.controllerProperties with
  | none =>
      have hpooling := call_setupConfiguredPooling_none environment hcluster
      rw [configuredCluster] at hcluster
      rw [hcluster]
      exact ⟨none, world, call_tryCatch_of_error (call_bind_of_error hpooling), rfl, rfl, rfl⟩
  | some cluster =>
      have hpooling := call_setupConfiguredPooling_some environment hcluster
      have hopen := (open_configuredCluster hcluster).2
      rw [configuredCluster] at hcluster
      rw [hcluster]
      cases hbuild : environment.fails world.driverCalls with
      | true =>
          rw [if_pos hbuild] at hpooling
          exact ⟨none, called world, call_tryCatch_of_error (call_bind_of_error hpooling), rfl,
            rfl, rfl⟩
      | false =>
          rw [if_neg (Bool.eq_false_iff.mp hbuild)] at hpooling
          obtain ⟨reply, world', hquery, hafter⟩ :=
            call_query_pooled environment world hopen keySpace cql
          rw [call_tryCatch, call_bind_of_ok hpooling, hquery]
          rcases reply with e | results
          · exact ⟨none, world', rfl, hafter⟩
          · exact ⟨results, world', rfl, hafter⟩

/-- The query pools, and so does the method that formats its results. -/
theorem built_getRestaurants :
    Built environment
      ((configuredPools environment world world.driverCalls).toNat +
        (configuredPools environment world
          (world.driverCalls + queryCalls environment world "accounts")).toNat)
      ((if configuredPools environment world world.driverCalls then held world else 0) +
        if configuredPools environment world
            (world.driverCalls + queryCalls environment world "accounts")
        then heldAfterQuery environment world else 0) world
      (call (RestaurantController.getRestaurants environment) world).2 := by
  have hquery := poolsOnce_querySchema environment world "accounts"
    (.selectAll "accounts" "restaurants")
  obtain ⟨results, world', hcall, hproperties, hcalls, hheld⟩ := call_querySchema environment
    world "accounts" (.selectAll "accounts" "restaurants")
  rw [PoolsOnce, hcall] at hquery
  have hformat := poolsOnce_formatting environment world' results "accounts"
  rw [PoolsOnce, configuredPools, hproperties, hcalls, hheld] at hformat
  refine Built.tryCatch ?_ fun _ _ => untouched_pure _ _
  rw [call_bind_of_ok hcall, state_bind_map]
  exact hquery.trans hformat

/-- The configuration that `setupDatabase` and `setupLogin` leave, unless reading the
properties throws. -/
def requested (s : Singleton) : Except Throwable Singleton := do
  let (databasePort, databaseIpaddress) ← readProperties environment.properties
  let empty ← anyEmpty databasePort databaseIpaddress
  pure (if empty then s
    else { s with cassandraIpAddress := databaseIpaddress, cassandraPort := databasePort })

theorem call_afterSetup {α : Type} (s : Singleton) (f : Method Throwable World α) :
    call (setupDatabase environment s.cassandraIpAddress s.cassandraPort >>= fun _ =>
        setupLogin s.login s.password >>= fun _ => f) world =
      match requested environment s with
      | .error e => (.error e, world)
      | .ok properties => call f { world with controllerProperties := properties } := by
  simp only [requested, setupDatabase, call_bind, call_liftExcept]
  cases readProperties environment.properties with
  | error e => rfl
  | ok file =>
      obtain ⟨databasePort, databaseIpaddress⟩ := file
      simp only [ok_bind]
      cases anyEmpty databasePort databaseIpaddress with
      | error e => rfl
      | ok empty => cases empty <;> rfl

/-- What the constructor and `testarguments` do once they have pooled. -/
def schemaAndTable : Method Throwable World Unit := do
  createSchema environment "accounts"
  createTable environment "accounts" "test"
  deleteTable environment "accounts" "test"

theorem built_schemaAndTable {world' : World}
    (hproperties : world'.controllerProperties = world.controllerProperties)
    (hcalls : world'.driverCalls = world.driverCalls + 1) (hheld : held world' = 1) :
    Built environment (configuredPools environment world (world.driverCalls + 1)).toNat
      (configuredPools environment world (world.driverCalls + 1)).toNat world'
      (call (schemaAndTable environment) world').2 := by
  have hschema := poolsOnce_createSchema environment world' "accounts"
  have htoNat (b : Bool) : (if b then 1 else 0) = b.toNat := by cases b <;> rfl
  rw [PoolsOnce, configuredPools, hproperties, hcalls, hheld, htoNat] at hschema
  exact hschema.bind fun _ _ =>
    triple_bind ((keeps_built environment).createTable _ _) fun _ =>
      (keeps_built environment).deleteTable _ _

/-- How many clusters an operation builds, from the configuration and the driver
calls that fail. Calls are numbered from the start of the operation. -/
def builds (world : World) (operation : Operation × Environment) : Nat :=
  let environment := operation.2
  let properties := world.controllerProperties
  match operation.1 with
  | .construct =>
      if configuredPools environment world 0 then
        1 + if properties.cassandraPort.isSome then (configuredPools environment world 1).toNat
          else 0
      else 0
  | .serve (.testarguments s) =>
      match requested environment s with
      | .error _ => 0
      | .ok properties =>
          if pools environment properties s.cassandraIpAddress 0 then
            1 + (pools environment properties properties.cassandraIpAddress 1).toNat
          else 0
  | .serve .setupRestaurantDatabaseTables => (configuredPools environment world 0).toNat
  | .serve (.addRestaurant _) => (configuredPools environment world 0).toNat
  | .serve .getRestaurants =>
      (configuredPools environment world 0).toNat +
        (configuredPools environment world
          (queryCalls environment (World.newRequest world) "accounts")).toNat
  | .serve .localarguments => 0
  | .serve .reportarguments => 0
  | .close => 0

/-- How many of these take the place of an open cluster: the first one if the field holds
an open cluster to begin with, and the second one unless the driver has closed the first. -/
def replaces (world : World) (operation : Operation × Environment) : Nat :=
  let environment := operation.2
  let properties := world.controllerProperties
  match operation.1 with
  | .construct =>
      if configuredPools environment world 0 then
        held world +
          if properties.cassandraPort.isSome then (configuredPools environment world 1).toNat
          else 0
      else 0
  | .serve (.testarguments s) =>
      match requested environment s with
      | .error _ => 0
      | .ok properties =>
          if pools environment properties s.cassandraIpAddress 0 then
            held world + (pools environment properties properties.cassandraIpAddress 1).toNat
          else 0
  | .serve .setupRestaurantDatabaseTables =>
      if configuredPools environment world 0 then held world else 0
  | .serve (.addRestaurant _) => if configuredPools environment world 0 then held world else 0
  | .serve .getRestaurants =>
      (if configuredPools environment world 0 then held world else 0) +
        if configuredPools environment world
            (queryCalls environment (World.newRequest world) "accounts")
        then heldAfterQuery environment (World.newRequest world) else 0
  | .serve .localarguments => 0
  | .serve .reportarguments => 0
  | .close => 0

theorem built_constructController (hcalls : world.driverCalls = 0) :
    Built environment (builds world (.construct, environment))
      (replaces world (.construct, environment)) world
      (call (constructController environment) world).2 := by
  refine Built.tryCatch ?_ fun _ _ => untouched_pure _ _
  rw [call_bind_of_ok (call_get world)]
  cases haddress : world.controllerProperties.cassandraIpAddress with
  | none =>
      have hpools : configuredPools environment world 0 = false := by
        simp [configuredPools, pools, clusterFor, haddress]
      simp only [builds, replaces, hpools]
      exact .refl world
  | some ipAddress =>
      rw [nonNull_some, call_bind_of_ok (call_liftExcept _ _)]
      have hpool := built_poolingTwice environment world (some ipAddress)
        (fun _ => liftExcept (nonNull world.controllerProperties.cassandraPort) >>= fun _ =>
          schemaAndTable environment)
        (if world.controllerProperties.cassandraPort.isSome
          then (configuredPools environment world 1).toNat else 0) ?_
      · rw [hcalls, ← haddress] at hpool
        rw [← haddress]
        exact hpool
      · intro world' hproperties hcalls' hheld
        cases hport : world.controllerProperties.cassandraPort with
        | none => exact .refl world'
        | some port =>
            have hschema := built_schemaAndTable environment world hproperties hcalls' hheld
            rw [hcalls] at hschema
            exact hschema

theorem built_testarguments (s : Singleton) (hcalls : world.driverCalls = 0) :
    Built environment (builds world (.serve (.testarguments s), environment))
      (replaces world (.serve (.testarguments s), environment)) world
      (call (testarguments environment s) world).2 := by
  refine Built.bind ?_ fun _ _ => triple_get_bind fun _ hworld => ?_
  · refine Built.tryCatch ?_ fun _ _ => untouched_pure _ _
    rw [call_afterSetup]
    simp only [builds, replaces]
    cases requested environment s with
    | error e => exact .refl world
    | ok properties =>
        have hpool := built_poolingTwice environment
          { world with controllerProperties := properties } s.cassandraIpAddress
          (fun _ => schemaAndTable environment) _ fun _ hproperties hcalls' hheld =>
            built_schemaAndTable environment
              { world with controllerProperties := properties } hproperties hcalls' hheld
        simp only [configuredPools, hcalls] at hpool ⊢
        exact ⟨hpool.balance, hpool.openClusters_le, hpool.openClusters_eq⟩
  · refine triple_pure ?_
    rintro _ rfl
    exact hworld

end Requests

section Runs

variable (environment : Environment)

theorem untouched_reportarguments (world : World) :
    Untouched environment world reportarguments :=
  triple_get_bind fun _ hbuilt => triple_pure fun _ hsame => hsame ▸ hbuilt

theorem untouched_localarguments (world : World) :
    Untouched environment world localarguments := by
  refine triple_bind (triple_modify fun world' hbuilt => ?_) fun _ =>
    untouched_reportarguments environment world
  exact hbuilt.keep rfl rfl

theorem built_handle (world : World) (request : Request) :
    Built environment (builds world (.serve request, environment))
      (replaces world (.serve request, environment)) (World.newRequest world)
      (handle world (request, environment)) := by
  cases request with
  | localarguments => exact triple_after (untouched_localarguments environment _) (.refl _)
  | testarguments s => exact built_testarguments environment (World.newRequest world) s rfl
  | reportarguments => exact triple_after (untouched_reportarguments environment _) (.refl _)
  | setupRestaurantDatabaseTables =>
      exact poolsOnce_setupTables environment (World.newRequest world)
  | addRestaurant restaurant =>
      exact poolsOnce_addRestaurant environment (World.newRequest world) restaurant
  | getRestaurants =>
      have hbuilt := built_getRestaurants environment (World.newRequest world)
      rw [show (World.newRequest world).driverCalls = 0 from rfl, Nat.zero_add] at hbuilt
      exact hbuilt

/-- Closing takes the open cluster out of the count, or changes nothing. -/
theorem noLeak_close {world : World} (hworld : NoLeak world) :
    NoLeak (call (SessionUtil.close environment) world).2 := by
  cases hcluster : world.cluster with
  | none =>
      have hcall : call (SessionUtil.close environment) world =
          (.error nullPointerException, world) := by
        simp [SessionUtil.close, call_bind, hcluster]
      rw [hcall]
      exact hworld
  | some cluster =>
      by_cases hfails : environment.fails world.driverCalls
      · have hstate : (call (SessionUtil.close environment) world).2 = called world := by
          simp [SessionUtil.close, call_bind, hcluster, call_driverCall, hfails]
        rw [hstate]
        exact hworld
      · have hstate : (call (SessionUtil.close environment) world).2 =
            closeCluster cluster (called world) := by
          simp [SessionUtil.close, call_bind, hcluster, call_driverCall, hfails]
        have hsame : (called world).openClusters = held (called world) := hworld
        have hfield : (called world).cluster = some cluster := hcluster
        have hbalance := balance_closeCluster hfield hsame.ge
        rw [hstate]
        rw [NoLeak]
        omega

/-- No cluster that an operation builds takes the place of an open one. -/
def Careful (world : World) (operation : Operation × Environment) : Prop :=
  replaces world operation = 0

theorem noLeak_operate_iff {world : World} (hworld : NoLeak world)
    (operation : Operation × Environment) :
    NoLeak (operate world operation) ↔ Careful world operation := by
  obtain ⟨operation, environment⟩ := operation
  -- Numbering the driver calls anew concerns neither the field nor the count.
  have hrequest : NoLeak (World.newRequest world) := hworld
  cases operation with
  | construct =>
      have hbuilt := built_constructController environment (World.newRequest world) rfl
      exact noLeak_built_iff hrequest hbuilt
  | serve request => exact noLeak_built_iff hrequest (built_handle environment world request)
  | close => exact iff_of_true (noLeak_close environment hrequest) rfl

theorem noLeak_initialWorld (network : String → Database) (properties : Singleton) :
    NoLeak (initialWorld network properties) := rfl

/-- In a run from the start, with any pattern of failures, and wherever the driver closes
a cluster that it cannot connect, only the cluster in the field is ever open exactly when
every operation is careful. -/
theorem noLeak_run_iff_careful (network : String → Database) (properties : Singleton)
    (operations : List (Operation × Environment)) :
    (∀ done, done <+: operations → NoLeak (done.foldl operate (initialWorld network properties))) ↔
      AllSteps operate Careful (initialWorld network properties) operations :=
  invariant_iff_allSteps (I := fun _ => NoLeak)
    (noLeak_initialWorld network properties)
    (fun _ _ operation hworld => noLeak_operate_iff hworld operation) operations

/-- The constructor pools, and creating the schema pools again: two clusters are open
and one of them is in the field. -/
theorem not_noLeak_construct :
    ¬∀ done, done <+: [(Operation.construct, surroundings false .unreadable)] →
      NoLeak (done.foldl operate (initialWorld (fun _ _ => none) localProperties)) := by
  intro hall
  have hafter : NoLeak (operate (initialWorld (fun _ _ => none) localProperties)
      (.construct, surroundings false .unreadable)) := hall _ List.prefix_rfl
  have hcareful := (noLeak_operate_iff (noLeak_initialWorld _ _) _).mp hafter
  cases hcareful

end Runs

end RestaurantServer.OpenClusters
