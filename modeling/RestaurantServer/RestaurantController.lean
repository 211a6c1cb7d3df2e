import RestaurantServer.SessionUtil

/-!
The endpoints of `RestaurantController` that use the database, and its
constructor. Logging is left out.
-/

namespace RestaurantServer.RestaurantController

open RestaurantServer.JavaExceptions
open RestaurantServer.JavaStrings
open RestaurantServer.ThrowingMethods
open RestaurantServer.CassandraDatabase
open RestaurantServer.SessionUtil

structure Restaurant where
  restaurantId : Option String
  cuisine : Option String
  seating : Option String
  deriving DecidableEq

inductive Reply where
  | text (text : String)
  | list (lines : List String)
  deriving DecidableEq

def reportedArguments (properties : Singleton) : String :=
  valueOf properties.cassandraIpAddress ++ ":" ++ valueOf properties.cassandraPort ++ "\n"

section Endpoints

variable (environment : Environment)

/-- The constructor, once the configuration is in place. Each branch on the
address sets up the same pooling, and the branches on the port only log. -/
def constructController : Method Throwable World Unit := do
  try
    let world ← get
    let ipAddress ← liftExcept (nonNull world.controllerProperties.cassandraIpAddress)
    setupPooling environment (some ipAddress)
    let _ ← liftExcept (nonNull world.controllerProperties.cassandraPort)
    createSchema environment "accounts"
    createTable environment "accounts" "test"
    deleteTable environment "accounts" "test"
  catch _ =>
    pure ()

def localarguments : Method Throwable World Reply := do
  setuplocalDatabase
  let world ← get
  pure (.text (reportedArguments world.controllerProperties))

/-- The schema is created through the configured address, but the first cluster
is built for the address of the request. -/
def testarguments (s : Singleton) : Method Throwable World Reply := do
  try
    setupDatabase environment s.cassandraIpAddress s.cassandraPort
    setupLogin s.login s.password
    setupPooling environment s.cassandraIpAddress
    createSchema environment "accounts"
    createTable environment "accounts" "test"
    deleteTable environment "accounts" "test"
  catch _ =>
    pure ()
  let world ← get
  pure (.text (reportedArguments world.controllerProperties))

def reportarguments : Method Throwable World Reply := do
  let world ← get
  pure (.text (reportedArguments world.controllerProperties))

def setupTables : Method Throwable World Reply := do
  try
    setupRestaurantDatabaseTables environment "accounts"
    pure (.text "200/OK")
  catch _ =>
    pure (.text "500/Error: RestaurantController::setupRestaurantDatabaseTables")

/-- The string that `setRestaurants` returns is not looked at. -/
def addRestaurant (restaurant : Restaurant) : Method Throwable World Reply := do
  try
    let _ ← setRestaurants environment "accounts" restaurant.restaurantId
      restaurant.cuisine restaurant.seating
    pure (.text "200/OK")
  catch _ =>
    pure (.text "500/error")

def getRestaurants : Method Throwable World Reply := do
  try
    let results ← querySchema environment "accounts" (.selectAll "accounts" "restaurants")
    let restaurantList ← SessionUtil.getRestaurants environment results "accounts"
    pure (.list restaurantList)
  catch _ =>
    pure (.list [])

end Endpoints

inductive Request where
  | localarguments
  | testarguments (s : Singleton)
  | reportarguments
  | setupRestaurantDatabaseTables
  | addRestaurant (restaurant : Restaurant)
  | getRestaurants

def serve (environment : Environment) : Request → Method Throwable World Reply
  | .localarguments => localarguments
  | .testarguments s => testarguments environment s
  | .reportarguments => reportarguments
  | .setupRestaurantDatabaseTables => setupTables environment
  | .addRestaurant restaurant => addRestaurant environment restaurant
  | .getRestaurants => getRestaurants environment

/-- Driver calls are counted anew for each request. -/
def World.newRequest (world : World) : World :=
  { world with driverCalls := 0 }

def handle (world : World) (request : Request × Environment) : World :=
  (call (serve request.2 request.1) (World.newRequest world)).2

def answer (world : World) (request : Request × Environment) : Except Throwable Reply :=
  (call (serve request.2 request.1) (World.newRequest world)).1

def initialWorld (network : String → Database) (properties : Singleton) : World :=
  ⟨none, false, properties, 0, network, 0, []⟩

def constructed (network : String → Database) (properties : Singleton)
    (environment : Environment) : World :=
  (call (constructController environment) (initialWorld network properties)).2

section Surroundings

def localProperties : Singleton :=
  ⟨some "127.0.0.1", some "9042", some "cassandra", some "cassandra"⟩

/-- Every driver call succeeds, or every one fails for want of a host. Rows come back
in the order in which they are kept. -/
def surroundings (fails : Bool) (properties : PropertiesFile) : Environment :=
  ⟨fun _ => fails, fun _ => true, ⟨id, fun _ => .refl _⟩, properties⟩

end Surroundings

end RestaurantServer.RestaurantController
