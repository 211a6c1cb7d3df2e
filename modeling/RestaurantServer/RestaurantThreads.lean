import RestaurantServer.RelyGuarantee
import RestaurantServer.RestaurantStore

/-!
Requests for the restaurants on threads of their own. The threads share the fields of
the one `SessionUtil` and the database, and may be interrupted between any two accesses
to them. The driver calls are numbered over all threads. A cluster that the driver closes
on one thread may be in use on others: the calls that are refused for that reason are
among those that fail, and the cluster itself stays as it is here.
-/

namespace RestaurantServer.RestaurantThreads

open RestaurantServer.JavaExceptions
open RestaurantServer.JavaStrings
open RestaurantServer.ThrowingMethods
open RestaurantServer.RelyGuarantee
open RestaurantServer.CassandraDatabase
open RestaurantServer.SessionUtil
open RestaurantServer.SessionCalls
open RestaurantServer.RestaurantController

abbrev Call (α : Type) := ExceptT Throwable (Thread World) α

section Methods

variable (environment : Environment)

def field {α : Type} (read : World → α) : Call α :=
  atomically fun world => (.ok (read world), world)

/-- The driver builds the cluster, and it is put into the field. -/
def buildCluster (cluster : Cluster) : Method Throwable World Unit := do
  driverCall environment
  modify fun world =>
    { world with
      cluster := some cluster
      initialised := false
      openClusters := world.openClusters + 1 }

def setupPooling (ipAddress : Option String) : Call Unit := do
  try
    let address ← settled (nonNull ipAddress)
    let login ← field fun world => world.controllerProperties.login
    let login ← settled (nonNull login)
    let password ← field fun world => world.controllerProperties.password
    let password ← settled (nonNull password)
    atomically (call (buildCluster environment ⟨address, trim login, trim password, false⟩))
  catch _ =>
    throw (customException "Orm::setupPooling exception: ")

def setupConfiguredPooling : Call Unit := do
  let ipAddress ← field fun world => world.controllerProperties.cassandraIpAddress
  setupPooling environment ipAddress

def connectCluster (cluster : Cluster) (keySpace : Option String) :
    Method Throwable World Session := do
  modify fun world => { world with initialised := true }
  driverCall environment
  let world ← get
  liftExcept (openSession world.network cluster keySpace)

/-- The field is read before the driver is called. -/
def connectTo (keySpace : Option String) : Call Session := do
  let cluster ← field fun world => world.cluster
  let cluster ← settled (nonNull cluster)
  atomically (call (connectCluster environment cluster keySpace))

def execute (session : Session) (statement : Statement) : Call ResultSet :=
  atomically (call (SessionUtil.execute environment session statement))

def querySchema (keySpace : String) (cql : Statement) : Call (Option ResultSet) := do
  try
    setupConfiguredPooling environment
    let session ← connectTo environment (some keySpace)
    let results ← execute environment session cql
    pure (some results)
  catch _ =>
    pure none

def createRestaurantTable (keySpace : String) : Call Unit := do
  try
    let session ← connectTo environment (some keySpace)
    let _ ← execute environment session (.createTable keySpace "restaurants"
      ["cuisine", "seating", "restaurantId"] "restaurantId")
  catch _ =>
    pure ()

def createTablesTable (keySpace : String) : Call Unit := do
  try
    let session ← connectTo environment (some keySpace)
    let _ ← execute environment session (.createTable keySpace "tables"
      ["restaurantId", "seatNumber", "tableId"] "tableId")
  catch _ =>
    throw (customException "Orm::createTable exception: ")

def createIndex (keySpace : String) : Call Unit := do
  try
    let _ ← connectTo environment (some keySpace)
  catch _ =>
    throw (customException "Orm::createTable exception: ")

def setupRestaurantDatabaseTables (keySpace : String) : Call Unit := do
  try
    setupConfiguredPooling environment
    let _ ← connectTo environment (some keySpace)
    createRestaurantTable environment keySpace
    createTablesTable environment keySpace
    createIndex environment keySpace
  catch _ =>
    pure ()

def setRestaurants (keySpace : String) (restaurantId cuisine seating : Option String) :
    Call String := do
  try
    setupConfiguredPooling environment
    let session ← connectTo environment (some keySpace)
    let _ ← execute environment session
      (insertRestaurant keySpace restaurantId cuisine seating)
    pure "200/Success"
  catch _ =>
    pure "500/Error: Orm::setRestaurants Exception"

def formatRestaurants (results : Option ResultSet) (keySpace : String) :
    Call (List String) := do
  try
    setupConfiguredPooling environment
    let _ ← connectTo environment (some keySpace)
    let results ← settled (nonNull results)
    settled (results.rows.mapM (formatRow results))
  catch _ =>
    throw (customException "Orm::getRestaurants exception: ")

end Methods

/-- The requests that leave the configuration alone. -/
inductive Task where
  | setupRestaurantDatabaseTables
  | addRestaurant (restaurant : Restaurant)
  | getRestaurants

def Task.request : Task → Request
  | .setupRestaurantDatabaseTables => .setupRestaurantDatabaseTables
  | .addRestaurant restaurant => .addRestaurant restaurant
  | .getRestaurants => .getRestaurants

def serve (environment : Environment) : Task → Call Reply
  | .setupRestaurantDatabaseTables => do
      try
        setupRestaurantDatabaseTables environment "accounts"
        pure (.text "200/OK")
      catch _ =>
        pure (.text "500/Error: RestaurantController::setupRestaurantDatabaseTables")
  | .addRestaurant restaurant => do
      try
        let _ ← setRestaurants environment "accounts" restaurant.restaurantId
          restaurant.cuisine restaurant.seating
        pure (.text "200/OK")
      catch _ =>
        pure (.text "500/error")
  | .getRestaurants => do
      try
        let results ← querySchema environment "accounts" (.selectAll "accounts" "restaurants")
        let restaurantList ← formatRestaurants environment results "accounts"
        pure (.list restaurantList)
      catch _ =>
        pure (.list [])

/-- Each request has a thread of its own. -/
def started {ι : Type} (world : World) (tasks : ι → Task × Environment) :
    System ι World (Except Throwable Reply) :=
  ⟨world, fun i => (serve (tasks i).2 (tasks i).1).run⟩

section Alone

variable (environment : Environment)

theorem call_buildCluster (cluster : Cluster) (world : World) :
    call (buildCluster environment cluster) world =
      if environment.fails world.driverCalls then (.error driverException, called world)
      else (.ok ⟨⟩, pooled world cluster) := by
  rw [buildCluster, call_bind, call_driverCall]
  cases environment.fails world.driverCalls <;> rfl

theorem call_connectCluster (cluster : Cluster) (keySpace : Option String) (world : World) :
    call (connectCluster environment cluster keySpace) world =
      (if environment.fails world.driverCalls then .error driverException
        else openSession world.network cluster keySpace, initialised world) := by
  have hcall := call_driverCall environment { world with initialised := true }
  rw [connectCluster, call_bind_of_ok (call_modify _ _)]
  cases hfails : environment.fails world.driverCalls with
  | true =>
      rw [if_pos hfails] at hcall
      exact call_bind_of_error hcall
  | false =>
      rw [if_neg (Bool.eq_false_iff.mp hfails)] at hcall
      rw [call_bind_of_ok hcall]
      exact call_liftExcept (openSession world.network cluster keySpace) (initialised world)

theorem agrees_setupPooling (ipAddress : Option String) :
    Agrees (setupPooling environment ipAddress)
      (SessionUtil.setupPooling environment ipAddress) := by
  refine agrees_tryCatch (fun world => ?_) fun _ => agrees_throw _
  simp only [aloneExcept_bind, call_bind, aloneExcept_settled, field, aloneExcept_atomically,
    call_get, call_liftExcept]
  rcases nonNull ipAddress with e | address
  · rfl
  simp only
  rcases nonNull world.controllerProperties.login with e | login
  · rfl
  simp only
  rcases nonNull world.controllerProperties.password with e | password
  · rfl
  · exact call_bind (driverCall environment) _ world

theorem agrees_setupConfiguredPooling :
    Agrees (setupConfiguredPooling environment)
      (SessionUtil.setupConfiguredPooling environment) :=
  fun world => agrees_setupPooling environment world.controllerProperties.cassandraIpAddress world

variable {environment} in
theorem afterConnecting_of_not_closes (hcloses : ∀ n, environment.closes n = false)
    (cluster : Cluster) (world : World) :
    afterConnecting environment cluster world = initialised world := by
  simp [afterConnecting, closing, hcloses]

variable (hcloses : ∀ n, environment.closes n = false)

include hcloses

theorem agrees_connectTo (keySpace : Option String) :
    Agrees (connectTo environment keySpace) (SessionUtil.connectTo environment keySpace) := by
  intro world
  cases hcluster : world.cluster with
  | none =>
      simp [connectTo, SessionUtil.connectTo, aloneExcept_bind, field, call_bind, hcluster]
  | some cluster =>
      rw [call_connectTo environment keySpace hcluster, afterConnecting_of_not_closes hcloses,
        ← call_connectCluster]
      simp [connectTo, aloneExcept_bind, field, hcluster]

omit hcloses in
theorem agrees_execute (session : Session) (statement : Statement) :
    Agrees (execute environment session statement)
      (SessionUtil.execute environment session statement) :=
  fun _ => rfl

theorem agrees_setRestaurants (keySpace : String) (restaurantId cuisine seating : Option String) :
    Agrees (setRestaurants environment keySpace restaurantId cuisine seating)
      (SessionUtil.setRestaurants environment keySpace restaurantId cuisine seating) :=
  agrees_tryCatch
    (agrees_bind (agrees_setupConfiguredPooling environment) fun _ =>
      agrees_bind (agrees_connectTo environment hcloses _) fun _ =>
        agrees_bind (agrees_execute environment _ _) fun _ => agrees_pure _)
    fun _ => agrees_pure _

theorem agrees_querySchema (keySpace : String) (cql : Statement) :
    Agrees (querySchema environment keySpace cql)
      (SessionUtil.querySchema environment keySpace cql) :=
  agrees_tryCatch
    (agrees_bind (agrees_setupConfiguredPooling environment) fun _ =>
      agrees_bind (agrees_connectTo environment hcloses _) fun _ =>
        agrees_bind (agrees_execute environment _ _) fun _ => agrees_pure _)
    fun _ => agrees_pure _

theorem agrees_formatRestaurants (results : Option ResultSet) (keySpace : String) :
    Agrees (formatRestaurants environment results keySpace)
      (SessionUtil.getRestaurants environment results keySpace) :=
  agrees_tryCatch
    (agrees_bind (agrees_setupConfiguredPooling environment) fun _ =>
      agrees_bind (agrees_connectTo environment hcloses _) fun _ =>
        agrees_bind (agrees_settled _) fun _ => agrees_settled _)
    fun _ => agrees_throw _

theorem agrees_setupRestaurantDatabaseTables (keySpace : String) :
    Agrees (setupRestaurantDatabaseTables environment keySpace)
      (SessionUtil.setupRestaurantDatabaseTables environment keySpace) := by
  have hstatement (statement : Statement) {handler : Throwable → Call Unit}
      {handler' : Throwable → Method Throwable World Unit}
      (hhandler : ∀ e, Agrees (handler e) (handler' e)) :=
    agrees_tryCatch
      (agrees_bind (agrees_connectTo environment hcloses (some keySpace)) fun session =>
        agrees_bind (agrees_execute environment session statement) fun _ => agrees_pure ⟨⟩)
      hhandler
  refine agrees_tryCatch ?_ fun _ => agrees_pure _
  refine agrees_bind (agrees_setupConfiguredPooling environment) fun _ => ?_
  refine agrees_bind (agrees_connectTo environment hcloses _) fun _ => ?_
  refine agrees_bind (hstatement _ fun _ => agrees_pure _) fun _ => ?_
  refine agrees_bind (hstatement _ fun _ => agrees_throw _) fun _ => ?_
  exact agrees_tryCatch
    (agrees_bind (agrees_connectTo environment hcloses _) fun _ => agrees_pure _)
    fun _ => agrees_throw _

/-- A thread that is not interrupted serves a request as the controller does, unless the
driver closes a cluster. -/
theorem agrees_serve (task : Task) :
    Agrees (serve environment task) (RestaurantController.serve environment task.request) := by
  cases task with
  | setupRestaurantDatabaseTables =>
      exact agrees_tryCatch
        (agrees_bind (agrees_setupRestaurantDatabaseTables environment hcloses _) fun _ =>
          agrees_pure _)
        fun _ => agrees_pure _
  | addRestaurant restaurant =>
      exact agrees_tryCatch
        (agrees_bind (agrees_setRestaurants environment hcloses _ _ _ _) fun _ => agrees_pure _)
        fun _ => agrees_pure _
  | getRestaurants =>
      exact agrees_tryCatch
        (agrees_bind (agrees_querySchema environment hcloses _ _) fun _ =>
          agrees_bind (agrees_formatRestaurants environment hcloses _ _) fun _ => agrees_pure _)
        fun _ => agrees_pure _

end Alone

section Steps

theorem within_setupConfiguredPooling (environment : Environment) :
    Within 4 (setupConfiguredPooling environment).run := by
  refine withinExcept_bind (n := 1) (m := 3) (within_atomically _) fun ipAddress => ?_
  refine withinExcept_tryCatch (n := 3) (m := 0) ?_ fun _ => trivial
  refine withinExcept_bind (n := 0) (m := 3) trivial fun _ => ?_
  refine withinExcept_bind (n := 1) (m := 2) (within_atomically _) fun _ => ?_
  refine withinExcept_bind (n := 0) (m := 2) trivial fun _ => ?_
  refine withinExcept_bind (n := 1) (m := 1) (within_atomically _) fun _ => ?_
  exact withinExcept_bind (n := 0) (m := 1) trivial fun _ => within_atomically _

theorem within_connectTo (environment : Environment) (keySpace : Option String) :
    Within 2 (connectTo environment keySpace).run := by
  refine withinExcept_bind (n := 1) (m := 1) (within_atomically _) fun _ => ?_
  exact withinExcept_bind (n := 0) (m := 1) trivial fun _ => within_atomically _

theorem within_pooledSession {α : Type} (environment : Environment) (keySpace : String) {n : Nat}
    {f : Session → Call α} (hf : ∀ session, Within n (f session).run) :
    Within (6 + n) (setupConfiguredPooling environment >>= fun _ =>
      connectTo environment (some keySpace) >>= f).run := by
  have hwithin := withinExcept_bind (within_setupConfiguredPooling environment) fun _ =>
    withinExcept_bind (within_connectTo environment (some keySpace)) hf
  rwa [← Nat.add_assoc] at hwithin

theorem within_createTable (environment : Environment) (keySpace : String)
    (statement : Statement) {handler : Throwable → Call Unit}
    (hhandler : ∀ e, Within 0 (handler e).run) :
    Within 3 (tryCatch (connectTo environment (some keySpace) >>= fun session =>
      execute environment session statement >>= fun _ => pure ()) handler).run := by
  refine withinExcept_tryCatch (n := 3) (m := 0) ?_ hhandler
  refine withinExcept_bind (n := 2) (m := 1) (within_connectTo environment _) fun session => ?_
  exact withinExcept_bind (n := 1) (m := 0) (within_atomically _) fun _ => trivial

theorem within_setupRestaurantDatabaseTables (environment : Environment) (keySpace : String) :
    Within 14 (setupRestaurantDatabaseTables environment keySpace).run := by
  refine withinExcept_tryCatch (n := 14) (m := 0) ?_ fun _ => trivial
  refine within_pooledSession environment keySpace (n := 8) fun _ => ?_
  refine withinExcept_bind (n := 3) (m := 5)
    (within_createTable environment keySpace _ fun _ => trivial) fun _ => ?_
  refine withinExcept_bind (n := 3) (m := 2)
    (within_createTable environment keySpace _ fun _ => trivial) fun _ => ?_
  refine withinExcept_tryCatch (n := 2) (m := 0) ?_ fun _ => trivial
  exact withinExcept_bind (n := 2) (m := 0) (within_connectTo environment _) fun _ => trivial

theorem within_statement {α : Type} (environment : Environment) (keySpace : String)
    (statement : Statement) {f : ResultSet → Call α} {handler : Throwable → Call α}
    (hf : ∀ results, Within 0 (f results).run) (hhandler : ∀ e, Within 0 (handler e).run) :
    Within 7 (tryCatch (setupConfiguredPooling environment >>= fun _ =>
      connectTo environment (some keySpace) >>= fun session =>
        execute environment session statement >>= f) handler).run := by
  refine withinExcept_tryCatch (n := 7) (m := 0) ?_ hhandler
  refine within_pooledSession environment keySpace (n := 1) fun session => ?_
  exact withinExcept_bind (n := 1) (m := 0) (within_atomically _) hf

theorem within_serve (environment : Environment) (task : Task) :
    Within 14 (serve environment task).run := by
  cases task with
  | setupRestaurantDatabaseTables =>
      refine withinExcept_tryCatch (n := 14) (m := 0) ?_ fun _ => trivial
      exact withinExcept_bind (n := 14) (m := 0)
        (within_setupRestaurantDatabaseTables environment _) fun _ => trivial
  | addRestaurant restaurant =>
      refine Within.mono (n := 7) ?_ (by decide)
      refine withinExcept_tryCatch (n := 7) (m := 0) ?_ fun _ => trivial
      exact withinExcept_bind (n := 7) (m := 0)
        (within_statement environment _ _ (fun _ => trivial) fun _ => trivial) fun _ => trivial
  | getRestaurants =>
      refine Within.mono (n := 13) ?_ (by decide)
      refine withinExcept_tryCatch (n := 13) (m := 0) ?_ fun _ => trivial
      refine withinExcept_bind (n := 7) (m := 6)
        (within_statement environment _ _ (fun _ => trivial) fun _ => trivial) fun results => ?_
      refine withinExcept_bind (n := 6) (m := 0) ?_ fun _ => trivial
      refine withinExcept_tryCatch (n := 6) (m := 0) ?_ fun _ => trivial
      refine within_pooledSession environment _ (n := 0) fun _ => ?_
      exact withinExcept_bind (n := 0) (m := 0) trivial fun _ => trivial

end Steps

end RestaurantServer.RestaurantThreads
