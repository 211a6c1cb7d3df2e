import RestaurantServer.CassandraDatabase
import RestaurantServer.JavaStrings
import RestaurantServer.ThrowingMethods

/-!
The class `SessionUtil` and the part of the Cassandra driver it uses. The state
holds the fields of the object, the databases behind the addresses, and a record
of the statements sent. The driver fails as the environment of a request says:
any call to build a cluster, to connect or to execute may throw. A call that throws
has no effect, except that the driver may close a cluster when the first attempt to
connect it fails.
-/

namespace RestaurantServer.SessionUtil

open RestaurantServer.JavaExceptions
open RestaurantServer.JavaStrings
open RestaurantServer.ThrowingMethods
open RestaurantServer.CassandraDatabase

structure Singleton where
  cassandraIpAddress : Option String
  cassandraPort : Option String
  login : Option String
  password : Option String
  deriving DecidableEq

structure Cluster where
  address : String
  login : String
  password : String
  closed : Bool
  deriving DecidableEq

structure Session where
  cluster : Cluster
  keyspace : Option String
  deriving DecidableEq

/-- A statement, the cluster it went through, the configuration at that moment,
and whether it took effect. -/
structure Sent where
  statement : Statement
  cluster : Cluster
  controllerProperties : Singleton
  succeeded : Bool
  deriving DecidableEq

/-- `initialised` says whether there was an attempt to connect the cluster in the field,
`openClusters` counts the clusters that were built and not closed, and `driverCalls` the
calls made for the current request. -/
structure World where
  cluster : Option Cluster
  initialised : Bool
  controllerProperties : Singleton
  openClusters : Nat
  network : String → Database
  driverCalls : Nat
  sent : List Sent

/-- What reading `application.properties` leads to: the file cannot be read, it
is malformed, or it has values for some of the properties. -/
inductive PropertiesFile where
  | unreadable
  | malformed
  | loaded (port ipaddress : Option String)

/-- The surroundings of one request: which driver calls fail, which of these the
driver takes as a reason to close a new cluster, in which order rows are returned,
and the properties file. -/
structure Environment where
  fails : Nat → Bool
  closes : Nat → Bool
  order : RowOrder
  properties : PropertiesFile

def driverException : Throwable :=
  ⟨"com.datastax.driver.core.exceptions.DriverException", none, by decide⟩

def customException (text : String) : Throwable :=
  ⟨"com.server.springboot.util.CustomException", some text, by decide⟩

section Driver

variable (environment : Environment)

def driverCall : Method Throwable World Unit := do
  let world ← get
  set { world with driverCalls := world.driverCalls + 1 }
  if environment.fails world.driverCalls then throw driverException

def openSession (network : String → Database) (cluster : Cluster) (keySpace : Option String) :
    Except Throwable Session :=
  if cluster.closed then
    .error (illegalStateException "Can't use this cluster instance because it was closed")
  else
    match keySpace with
    | none => .ok ⟨cluster, none⟩
    | some name =>
        if (network cluster.address name).isSome then .ok ⟨cluster, some name⟩
        else .error invalidQueryException

/-- A cluster that is closed again stays closed. -/
def closeCluster (cluster : Cluster) (world : World) : World :=
  { world with
    cluster := some { cluster with closed := true }
    openClusters := if cluster.closed then world.openClusters else world.openClusters - 1 }

/-- `cluster.connect`, where the keyspace may be left out. The first attempt to connect
initialises the cluster. If no host is available then, the driver closes it. -/
def connectTo (keySpace : Option String) : Method Throwable World Session := do
  let world ← get
  let cluster ← liftExcept (nonNull world.cluster)
  set { world with initialised := true }
  try
    driverCall environment
  catch e =>
    if environment.closes world.driverCalls && !world.initialised then
      modify (closeCluster cluster)
    throw e
  liftExcept (openSession world.network cluster keySpace)

/-- The outcome of a statement, as far as the call itself does not fail. -/
def outcome (world : World) (session : Session) (statement : Statement) :
    Except Throwable (Database × ResultSet) :=
  if environment.fails world.driverCalls then .error driverException
  else (world.network session.cluster.address).execute environment.order statement

def execute (session : Session) (statement : Statement) :
    Method Throwable World ResultSet := do
  let world ← get
  let record succeeded : List Sent :=
    world.sent ++ [⟨statement, session.cluster, world.controllerProperties, succeeded⟩]
  match outcome environment world session statement with
  | .error e =>
      set { world with driverCalls := world.driverCalls + 1, sent := record false }
      throw e
  | .ok (database, results) =>
      set
        { world with
          driverCalls := world.driverCalls + 1
          network := Function.update world.network session.cluster.address database
          sent := record true }
      pure results

end Driver

section Methods

variable (environment : Environment)

def setuplocalDatabase : Method Throwable World Unit :=
  modify fun world =>
    { world with
      controllerProperties :=
        { world.controllerProperties with
          cassandraIpAddress := some "127.0.0.1", cassandraPort := some "9042" } }

def readProperties : PropertiesFile → Except Throwable (Option String × Option String)
  | .unreadable => .ok (some "", some "")
  | .malformed => .error (illegalArgumentException "Malformed \\uxxxx encoding.")
  | .loaded port ipaddress => .ok (port, ipaddress)

def anyEmpty (databasePort databaseIpaddress : Option String) : Except Throwable Bool := do
  let databasePort ← nonNull databasePort
  if databasePort = "" then pure true
  else
    let databaseIpaddress ← nonNull databaseIpaddress
    pure (databaseIpaddress = "")

/-- The properties of the file replace those of the request unless one of them
is empty. A property that is not in the file is `null`, and its length throws. -/
def setupDatabase (ipaddress port : Option String) : Method Throwable World Unit := do
  let (databasePort, databaseIpaddress) ← liftExcept (readProperties environment.properties)
  let empty ← liftExcept (anyEmpty databasePort databaseIpaddress)
  modify fun world =>
    { world with
      controllerProperties :=
        if empty then
          { world.controllerProperties with
            cassandraIpAddress := ipaddress, cassandraPort := port }
        else
          { world.controllerProperties with
            cassandraIpAddress := databaseIpaddress, cassandraPort := databasePort } }

def setupLogin (login password : Option String) : Method Throwable World Unit :=
  modify fun world =>
    { world with
      controllerProperties := { world.controllerProperties with login, password } }

def setupPooling (ipAddress : Option String) : Method Throwable World Unit := do
  try
    let world ← get
    let address ← liftExcept (nonNull ipAddress)
    let login ← liftExcept (nonNull world.controllerProperties.login)
    let password ← liftExcept (nonNull world.controllerProperties.password)
    driverCall environment
    modify fun world =>
      { world with
        cluster := some ⟨address, trim login, trim password, false⟩
        initialised := false
        openClusters := world.openClusters + 1 }
  catch _ =>
    throw (customException "Orm::setupPooling exception: ")

/-- Without the options for the pool, and with an error text of its own. -/
def connect (ipAddress : Option String) : Method Throwable World Unit := do
  try
    let world ← get
    let address ← liftExcept (nonNull ipAddress)
    let login ← liftExcept (nonNull world.controllerProperties.login)
    let password ← liftExcept (nonNull world.controllerProperties.password)
    driverCall environment
    modify fun world =>
      { world with
        cluster := some ⟨address, trim login, trim password, false⟩
        initialised := false
        openClusters := world.openClusters + 1 }
  catch _ =>
    throw (customException "Failed to connect")

def setupConfiguredPooling : Method Throwable World Unit := do
  let world ← get
  setupPooling environment world.controllerProperties.cassandraIpAddress

def close : Method Throwable World Unit := do
  let world ← get
  let cluster ← liftExcept (nonNull world.cluster)
  driverCall environment
  modify (closeCluster cluster)

def createIndex (keySpace : String) : Method Throwable World Unit := do
  try
    -- The statement that would create the index is commented out.
    let _ ← connectTo environment (some keySpace)
  catch _ =>
    throw (customException "Orm::createTable exception: ")

def createTable (keySpace tableName : String) : Method Throwable World Unit := do
  try
    let session ← connectTo environment (some keySpace)
    let _ ← execute environment session
      (.createTable keySpace tableName ["message", "testId"] "testId")
  catch _ =>
    throw (customException "Orm::createTable exception: ")

def deleteTable (keySpace tableName : String) : Method Throwable World Unit := do
  try
    let session ← connectTo environment (some keySpace)
    let _ ← execute environment session (.dropTable keySpace tableName)
  catch _ =>
    throw (customException "Orm::createTable exception: ")

def createSchema (keySpace : String) : Method Throwable World Unit := do
  try
    setupConfiguredPooling environment
    let session ← connectTo environment none
    let _ ← execute environment session (.createKeyspace keySpace)
  catch _ =>
    throw (customException "Orm::createSchema exception: ")

def querySchema (keySpace : String) (cql : Statement) :
    Method Throwable World (Option ResultSet) := do
  try
    setupConfiguredPooling environment
    let session ← connectTo environment (some keySpace)
    let results ← execute environment session cql
    pure (some results)
  catch _ =>
    pure none

/-- Unlike its siblings it swallows every failure. -/
def createRestaurantTable (keySpace : String) : Method Throwable World Unit := do
  try
    let session ← connectTo environment (some keySpace)
    let _ ← execute environment session (.createTable keySpace "restaurants"
      ["cuisine", "seating", "restaurantId"] "restaurantId")
  catch _ =>
    pure ()

def createTablesTable (keySpace : String) : Method Throwable World Unit := do
  try
    let session ← connectTo environment (some keySpace)
    let _ ← execute environment session (.createTable keySpace "tables"
      ["restaurantId", "seatNumber", "tableId"] "tableId")
  catch _ =>
    throw (customException "Orm::createTable exception: ")

def setupRestaurantDatabaseTables (keySpace : String) : Method Throwable World Unit := do
  try
    setupConfiguredPooling environment
    let _ ← connectTo environment (some keySpace)
    createRestaurantTable environment keySpace
    createTablesTable environment keySpace
    createIndex environment keySpace
  catch _ =>
    pure ()

def insertRestaurant (keySpace : String)
    (restaurantId cuisine seating : Option String) : Statement :=
  .insertInto keySpace "restaurants"
    [("cuisine", cuisine), ("seating", seating), ("restaurantId", restaurantId)]

def setRestaurants (keySpace : String) (restaurantId cuisine seating : Option String) :
    Method Throwable World String := do
  try
    setupConfiguredPooling environment
    let session ← connectTo environment (some keySpace)
    let _ ← execute environment session
      (insertRestaurant keySpace restaurantId cuisine seating)
    pure "200/Success"
  catch _ =>
    pure "500/Error: Orm::setRestaurants Exception"

/-- `row.getString`, which throws for a column the results do not have. -/
def getString (results : ResultSet) (row : Row) (column : String) :
    Except Throwable (Option String) :=
  if column ∈ results.columns then .ok (row column)
  else .error (illegalArgumentException
    (column ++ " is not a column defined in this metadata"))

def formatRestaurant (cuisine seating restaurantId : Option String) : String :=
  leftJustified cuisine ++ "\t" ++ leftJustified seating ++ "\t" ++
    leftJustified restaurantId ++ "\n"

def formatRow (results : ResultSet) (row : Row) : Except Throwable String := do
  let cuisine ← getString results row "cuisine"
  let seating ← getString results row "seating"
  let restaurantId ← getString results row "restaurantId"
  pure (formatRestaurant cuisine seating restaurantId)

def getRestaurants (results : Option ResultSet) (keySpace : String) :
    Method Throwable World (List String) := do
  try
    -- The rows are already there; this connection is not used for them.
    setupConfiguredPooling environment
    let _ ← connectTo environment (some keySpace)
    let results ← liftExcept (nonNull results)
    liftExcept (results.rows.mapM (formatRow results))
  catch _ =>
    throw (customException "Orm::getRestaurants exception: ")

def insertTable (keySpace : String) (tableId restaurantId seatNumber : Option String) :
    Statement :=
  .insertInto keySpace "tables"
    [("restaurantId", restaurantId), ("seatNumber", seatNumber), ("tableId", tableId)]

/-- Unlike `setRestaurants` it sets up no pooling of its own, and it throws. -/
def setTables (keySpace : String) (tableId restaurantId seatNumber : Option String) :
    Method Throwable World String := do
  try
    let session ← connectTo environment (some keySpace)
    let _ ← execute environment session
      (insertTable keySpace tableId restaurantId seatNumber)
    pure "200/Success"
  catch _ =>
    throw (customException "Orm::setTables exception: ")

def formatTable (restaurantId seatNumber tableId : Option String) : String :=
  leftJustified restaurantId ++ "\t" ++ leftJustified seatNumber ++ "\t" ++
    leftJustified tableId ++ "\n"

def formatTableRow (results : ResultSet) (row : Row) : Except Throwable String := do
  let restaurantId ← getString results row "restaurantId"
  let seatNumber ← getString results row "seatNumber"
  let tableId ← getString results row "tableId"
  pure (formatTable restaurantId seatNumber tableId)

/-- The overload for results. The text of the exception is that of
`getRestaurants`. -/
def getTables (results : Option ResultSet) (keySpace : String) :
    Method Throwable World (List String) := do
  try
    let _ ← connectTo environment (some keySpace)
    let results ← liftExcept (nonNull results)
    liftExcept (results.rows.mapM (formatTableRow results))
  catch _ =>
    throw (customException "Orm::getRestaurants exception: ")

end Methods

end RestaurantServer.SessionUtil
