import RestaurantServer.MethodTriples
import RestaurantServer.RequestRuns
import RestaurantServer.RestaurantController
import RestaurantServer.SessionCalls

/-!
Where the statements go. The cluster of the object, the configuration and the
address in a request may all differ, but a statement is only sent after a cluster
has been built from the configuration in force.
-/

namespace RestaurantServer.ConfiguredDatabase

open RestaurantServer.JavaExceptions
open RestaurantServer.JavaStrings
open RestaurantServer.ThrowingMethods
open RestaurantServer.MethodTriples
open RestaurantServer.RequestRuns
open RestaurantServer.CassandraDatabase
open RestaurantServer.SessionUtil
open RestaurantServer.SessionCalls
open RestaurantServer.RestaurantController

def BuiltFrom (properties : Singleton) (cluster : Cluster) : Prop :=
  properties.cassandraIpAddress = some cluster.address ∧
    properties.login.map trim = some cluster.login ∧
    properties.password.map trim = some cluster.password

/-- Every statement went through a cluster built from the configuration that was
in force when it was sent. -/
def StatementsConfigured (world : World) : Prop :=
  ∀ sent ∈ world.sent, BuiltFrom sent.controllerProperties sent.cluster

def ClusterConfigured (world : World) : Prop :=
  StatementsConfigured world ∧
    ∀ cluster, world.cluster = some cluster → BuiltFrom world.controllerProperties cluster

def InUse (cluster : Cluster) (world : World) : Prop :=
  ClusterConfigured world ∧ BuiltFrom world.controllerProperties cluster

section Driver

variable (environment : Environment)

theorem driverCall_triple {P : World → Prop}
    (hcount : ∀ world n, P world → P { world with driverCalls := n }) :
    Triple P (driverCall environment) (fun _ => P) P := by
  unfold driverCall
  refine triple_get_bind fun world hworld => ?_
  refine triple_bind (Q := fun _ => P) ?_ fun _ => ?_
  · intro s _
    exact hcount world _ hworld
  · split
    · exact triple_throw fun _ hs => hs
    · exact triple_pure fun _ hs => hs

theorem cluster_of_openSession {network : String → Database} {cluster : Cluster}
    {keySpace : Option String} {session : Session}
    (hsession : openSession network cluster keySpace = .ok session) :
    session.cluster = cluster := by
  unfold openSession at hsession
  split at hsession
  · cases hsession
  · split at hsession
    · cases hsession
      rfl
    · split at hsession
      · cases hsession
        rfl
      · cases hsession

theorem inUse_closeCluster {cluster : Cluster} {world : World} (hworld : InUse cluster world) :
    InUse cluster (closeCluster cluster world) := by
  refine ⟨⟨hworld.1.1, ?_⟩, hworld.2⟩
  rintro _ ⟨⟩
  exact hworld.2

theorem connectTo_triple (keySpace : Option String) :
    Triple ClusterConfigured (connectTo environment keySpace)
      (fun session => InUse session.cluster) ClusterConfigured := by
  unfold connectTo
  refine triple_get_bind fun world hworld => ?_
  refine triple_bind (Q := fun cluster _ => InUse cluster world) ?_ fun cluster => ?_
  · refine triple_liftExcept ?_ ?_
    · intro cluster hcluster _ _
      exact ⟨hworld, hworld.2 cluster (nonNull_eq_ok.mp hcluster)⟩
    · rintro _ rfl
      exact hworld
  refine triple_bind (Q := fun _ => InUse cluster) (fun _ hinUse => hinUse) fun _ => ?_
  refine triple_bind (Q := fun _ => InUse cluster) ?_ fun _ => ?_
  · refine triple_tryCatch (driverCall_triple environment fun _ _ hs => hs) fun e => ?_
    -- The driver may close the cluster before the exception goes on.
    split
    · exact triple_bind (Q := fun _ => InUse cluster)
        (triple_modify fun _ hs => inUse_closeCluster hs) fun _ => triple_throw fun _ hs => hs.1
    · exact triple_throw fun _ hs => hs.1
  · refine triple_liftExcept ?_ fun _ hs => hs.1
    intro session hsession s hs
    rw [cluster_of_openSession hsession]
    exact hs

theorem execute_triple (session : Session) (statement : Statement) :
    Triple (InUse session.cluster) (execute environment session statement)
      (fun _ => ClusterConfigured) ClusterConfigured := by
  unfold execute
  refine triple_get_bind fun world hworld => ?_
  obtain ⟨⟨hsent, hcluster⟩, hbuilt⟩ := hworld
  have hrecord : ∀ succeeded,
      ∀ sent ∈ world.sent ++ [⟨statement, session.cluster, world.controllerProperties,
        succeeded⟩], BuiltFrom sent.controllerProperties sent.cluster := by
    intro succeeded sent hmem
    rcases List.mem_append.mp hmem with hold | hnew
    · exact hsent sent hold
    · obtain rfl := List.mem_singleton.mp hnew
      exact hbuilt
  rcases outcome environment world session statement with e | ⟨database, results⟩
  · refine triple_bind (Q := fun _ => ClusterConfigured) ?_ fun _ => triple_throw fun _ hs => hs
    rintro _ rfl
    exact ⟨hrecord false, hcluster⟩
  · refine triple_bind (Q := fun _ => ClusterConfigured) ?_ fun _ => triple_pure fun _ hs => hs
    rintro _ rfl
    exact ⟨hrecord true, hcluster⟩

theorem keeps_clusterConfigured : Keeps environment ClusterConfigured where
  connect keySpace :=
    triple_weaken (connectTo_triple environment keySpace) (fun _ hs => hs)
      (fun _ _ hs => hs.1) fun _ hs => hs
  statement keySpace statement :=
    triple_bind (connectTo_triple environment keySpace) fun session =>
      execute_triple environment session statement

end Driver

section Methods

variable (environment : Environment)

theorem builtFrom_configuredCluster {properties : Singleton} {cluster : Cluster}
    (hcluster : configuredCluster properties = some cluster) :
    BuiltFrom properties cluster := by
  rcases properties with ⟨_ | address, port, _ | login, _ | password⟩ <;> cases hcluster
  exact ⟨rfl, rfl, rfl⟩

theorem setupPooling_triple (ipAddress : Option String) :
    Triple StatementsConfigured (setupPooling environment ipAddress)
      (fun _ => StatementsConfigured) StatementsConfigured := by
  intro world hworld
  rcases hcluster : clusterFor ipAddress world.controllerProperties with _ | cluster
  · rw [call_setupPooling_none environment hcluster]
    exact hworld
  · rw [call_setupPooling_some environment hcluster]
    split_ifs <;> exact hworld

/-- Building a cluster from the configuration replaces whatever cluster was left
over; when that fails, the leftover cluster stays. -/
theorem setupConfiguredPooling_triple :
    Triple StatementsConfigured (setupConfiguredPooling environment)
      (fun _ => ClusterConfigured) StatementsConfigured := by
  refine triple_get_bind fun _ hworld => ?_
  rintro world rfl
  rcases hcluster : configuredCluster world.controllerProperties with _ | cluster
  · rw [call_setupPooling_none environment hcluster]
    exact hworld
  · rw [call_setupPooling_some environment hcluster]
    split_ifs
    · exact hworld
    · refine ⟨hworld, ?_⟩
      rintro _ ⟨⟩
      exact builtFrom_configuredCluster hcluster

theorem createSchema_triple (keySpace : String) :
    Triple StatementsConfigured (createSchema environment keySpace)
      (fun _ => ClusterConfigured) StatementsConfigured := by
  refine triple_tryCatch (F := StatementsConfigured) ?_ fun _ => triple_throw fun _ hs => hs
  refine triple_bind (setupConfiguredPooling_triple environment) fun _ => ?_
  refine triple_weaken ((keeps_clusterConfigured environment).statement_bind none _ ?_)
    (fun _ hs => hs) (fun _ _ hs => hs) fun _ hs => hs.1
  exact fun _ => triple_pure fun _ hs => hs

/-- A method that first builds the configured cluster may treat a failure as it
likes. -/
theorem afterPooling_triple {α : Type} {body : Method Throwable World α}
    {handler : Throwable → Method Throwable World α}
    (hbody : Triple ClusterConfigured body (fun _ => ClusterConfigured) ClusterConfigured)
    (hhandler : ∀ e, Triple StatementsConfigured (handler e) (fun _ => StatementsConfigured)
      StatementsConfigured) :
    Triple StatementsConfigured
      (tryCatch (setupConfiguredPooling environment >>= fun _ => body) handler)
      (fun _ => StatementsConfigured) StatementsConfigured := by
  refine triple_tryCatch (F := StatementsConfigured) ?_ hhandler
  refine triple_bind (setupConfiguredPooling_triple environment) fun _ => ?_
  exact triple_weaken hbody (fun _ hs => hs) (fun _ _ hs => hs.1) fun _ hs => hs.1

theorem querySchema_triple (keySpace : String) (cql : Statement) :
    Triple StatementsConfigured (querySchema environment keySpace cql)
      (fun _ => StatementsConfigured) StatementsConfigured := by
  refine afterPooling_triple environment ?_ fun _ => triple_pure fun _ hs => hs
  exact (keeps_clusterConfigured environment).statement_bind _ _ fun _ =>
    triple_pure fun _ hs => hs

theorem setRestaurants_triple (keySpace : String)
    (restaurantId cuisine seating : Option String) :
    Triple StatementsConfigured (setRestaurants environment keySpace restaurantId cuisine seating)
      (fun _ => StatementsConfigured) StatementsConfigured := by
  refine afterPooling_triple environment ?_ fun _ => triple_pure fun _ hs => hs
  exact (keeps_clusterConfigured environment).statement_bind _ _ fun _ =>
    triple_pure fun _ hs => hs

theorem setupRestaurantDatabaseTables_triple (keySpace : String) :
    Triple StatementsConfigured (setupRestaurantDatabaseTables environment keySpace)
      (fun _ => StatementsConfigured) StatementsConfigured := by
  refine afterPooling_triple environment ?_ fun _ => triple_pure fun _ hs => hs
  exact (keeps_clusterConfigured environment).restaurantTables keySpace

theorem getRestaurants_triple (results : Option ResultSet) (keySpace : String) :
    Triple StatementsConfigured (SessionUtil.getRestaurants environment results keySpace)
      (fun _ => StatementsConfigured) StatementsConfigured := by
  refine afterPooling_triple environment ?_ fun _ => triple_throw fun _ hs => hs
  exact (keeps_clusterConfigured environment).format results keySpace

end Methods

section Endpoints

variable (environment : Environment)

theorem schema_triple :
    Triple StatementsConfigured
      (do
        createSchema environment "accounts"
        createTable environment "accounts" "test"
        deleteTable environment "accounts" "test")
      (fun _ => StatementsConfigured) StatementsConfigured := by
  refine triple_bind (createSchema_triple environment "accounts") fun _ => ?_
  have hkeeps := keeps_clusterConfigured environment
  refine triple_weaken (triple_bind (hkeeps.createTable "accounts" "test") fun _ =>
    hkeeps.deleteTable "accounts" "test") (fun _ hs => hs) (fun _ _ hs => hs.1) fun _ hs => hs.1

theorem constructController_triple :
    Triple StatementsConfigured (constructController environment)
      (fun _ => StatementsConfigured) StatementsConfigured := by
  refine triple_tryCatch (F := StatementsConfigured) ?_ fun _ => triple_pure fun _ hs => hs
  refine triple_get_bind fun world hworld => ?_
  refine triple_bind (Q := fun _ => StatementsConfigured) ?_ fun ipAddress => ?_
  · refine triple_liftExcept ?_ ?_
    · rintro _ _ _ rfl
      exact hworld
    · rintro _ rfl
      exact hworld
  · refine triple_bind (setupPooling_triple environment _) fun _ => ?_
    refine triple_bind (Q := fun _ => StatementsConfigured) ?_ fun _ => schema_triple environment
    exact triple_liftExcept (fun _ _ _ hs => hs) fun _ hs => hs

theorem setupDatabase_triple (ipaddress port : Option String) :
    Triple StatementsConfigured (setupDatabase environment ipaddress port)
      (fun _ => StatementsConfigured) StatementsConfigured := by
  refine triple_bind (Q := fun _ => StatementsConfigured) ?_ ?_
  · exact triple_liftExcept (fun _ _ _ hs => hs) fun _ hs => hs
  · rintro ⟨databasePort, databaseIpaddress⟩
    refine triple_bind (Q := fun _ => StatementsConfigured) ?_ fun _ => ?_
    · exact triple_liftExcept (fun _ _ _ hs => hs) fun _ hs => hs
    · exact triple_modify fun _ hs => hs

theorem testarguments_triple (s : Singleton) :
    Triple StatementsConfigured (testarguments environment s)
      (fun _ => StatementsConfigured) StatementsConfigured := by
  refine triple_bind (Q := fun _ => StatementsConfigured) ?_ fun _ => ?_
  · refine triple_tryCatch (F := StatementsConfigured) ?_ fun _ => triple_pure fun _ hs => hs
    refine triple_bind (setupDatabase_triple environment _ _) fun _ => ?_
    refine triple_bind (Q := fun _ => StatementsConfigured) ?_ fun _ => ?_
    · exact triple_modify fun _ hs => hs
    · -- The cluster built here is for the address of the request, and is not used.
      refine triple_bind (setupPooling_triple environment _) fun _ => ?_
      exact schema_triple environment
  · refine triple_get_bind fun world hworld => triple_pure ?_
    rintro _ rfl
    exact hworld

theorem serve_triple (request : Request) :
    Triple StatementsConfigured (serve environment request)
      (fun _ => StatementsConfigured) StatementsConfigured := by
  rcases request with _ | s | _ | _ | restaurant | _
  · refine triple_bind (Q := fun _ => StatementsConfigured) ?_ fun _ => ?_
    · exact triple_modify fun _ hs => hs
    · refine triple_get_bind fun world hworld => triple_pure ?_
      rintro _ rfl
      exact hworld
  · exact testarguments_triple environment s
  · refine triple_get_bind fun world hworld => triple_pure ?_
    rintro _ rfl
    exact hworld
  · refine triple_tryCatch (F := StatementsConfigured) ?_ fun _ => triple_pure fun _ hs => hs
    refine triple_bind (setupRestaurantDatabaseTables_triple environment _) fun _ => ?_
    exact triple_pure fun _ hs => hs
  · refine triple_tryCatch (F := StatementsConfigured) ?_ fun _ => triple_pure fun _ hs => hs
    refine triple_bind (setRestaurants_triple environment _ _ _ _) fun _ => ?_
    exact triple_pure fun _ hs => hs
  · refine triple_tryCatch (F := StatementsConfigured) ?_ fun _ => triple_pure fun _ hs => hs
    refine triple_bind (querySchema_triple environment _ _) fun results => ?_
    refine triple_bind (getRestaurants_triple environment results _) fun _ => ?_
    exact triple_pure fun _ hs => hs

end Endpoints

theorem statementsConfigured_handle {world : World} (hworld : StatementsConfigured world)
    (request : Request × Environment) : StatementsConfigured (handle world request) := by
  have hnew : StatementsConfigured (World.newRequest world) := hworld
  exact triple_after (serve_triple request.2 request.1) hnew

theorem statementsConfigured_constructed (network : String → Database)
    (properties : Singleton) (environment : Environment) :
    StatementsConfigured (constructed network properties environment) := by
  refine triple_after (constructController_triple environment) ?_
  intro sent hsent
  cases hsent

/-- Whatever the requests, the properties file and the driver do, each statement
is sent through a cluster with the address, the login and the password that are
configured at that moment. -/
theorem sent_through_configured_cluster (network : String → Database) (properties : Singleton)
    (environment : Environment) (requests : List (Request × Environment)) :
    ∀ sent ∈ (requests.foldl handle (constructed network properties environment)).sent,
      BuiltFrom sent.controllerProperties sent.cluster := by
  refine invariant_foldl (I := StatementsConfigured) ?_ ?_ requests
  · exact statementsConfigured_constructed network properties environment
  · intro world request hworld
    exact statementsConfigured_handle hworld request

/-- The properties file overrides the address of the request, not its login. -/
def overridden : Request × Environment :=
  (.testarguments ⟨some "10.0.0.7", some "9043", some " admin ", some "secret"⟩,
    surroundings false (.loaded (some "9042") (some "10.0.0.1")))

theorem sent_through_configured_cluster_overridden :
    ∃ sent ∈ ([overridden].foldl handle
        (constructed (fun _ _ => none) localProperties (surroundings true .unreadable))).sent,
      sent.statement = .createKeyspace "accounts" ∧
        BuiltFrom sent.controllerProperties sent.cluster := by
  let sent : Sent := ⟨.createKeyspace "accounts", ⟨"10.0.0.1", "admin", "secret", false⟩,
    ⟨some "10.0.0.1", some "9042", some " admin ", some "secret"⟩, true⟩
  have hsent : sent ∈ ([overridden].foldl handle
      (constructed (fun _ _ => none) localProperties (surroundings true .unreadable))).sent := by
    decide +kernel
  exact ⟨sent, hsent, rfl, sent_through_configured_cluster _ _ _ _ sent hsent⟩

end RestaurantServer.ConfiguredDatabase
