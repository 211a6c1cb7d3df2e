import RestaurantServer.RequestRuns
import RestaurantServer.RestaurantController
import RestaurantServer.SessionCalls

/-!
What the replies of the restaurant endpoints say about the database. Each layer
below an endpoint has its own way with failures, and most of them are lost on the
way to the reply. So a run is answered truthfully exactly when nothing fails that
the reply would have to report.
-/

namespace RestaurantServer.TruthfulReplies

open RestaurantServer.JavaExceptions
open RestaurantServer.ThrowingMethods
open RestaurantServer.RequestRuns
open RestaurantServer.CassandraDatabase
open RestaurantServer.SessionUtil
open RestaurantServer.SessionCalls
open RestaurantServer.RestaurantController

/-- A table of the keyspace `accounts` at the configured address. -/
def accountsTable (world : World) (name : String) : Option Table :=
  world.controllerProperties.cassandraIpAddress.bind fun address =>
    (world.network address).table "accounts" name

def renderRow (row : Row) : String :=
  formatRestaurant (row "cuisine") (row "seating") (row "restaurantId")

/-- The lines of all rows that are stored, none if there is no table. -/
def storedLines (world : World) : List String :=
  match accountsTable world "restaurants" with
  | none => []
  | some table => table.rows.map renderRow

def sentFor (world : World) (request : Request × Environment) : List Sent :=
  (handle world request).sent.drop world.sent.length

def insertionOf (restaurant : Restaurant) : Statement :=
  insertRestaurant "accounts" restaurant.restaurantId restaurant.cuisine restaurant.seating

/-- An answer that reports success, or lists restaurants, is right about the
database after the request. -/
def Truthful (world : World) (request : Request × Environment) : Prop :=
  match request.1 with
  | .addRestaurant restaurant =>
      answer world request = .ok (.text "200/OK") →
        ∃ sent ∈ sentFor world request,
          sent.statement = insertionOf restaurant ∧ sent.succeeded = true
  | .setupRestaurantDatabaseTables =>
      answer world request = .ok (.text "200/OK") →
        (accountsTable (handle world request) "restaurants").isSome ∧
        (accountsTable (handle world request) "tables").isSome
  | .getRestaurants =>
      ∀ lines, answer world request = .ok (.list lines) →
        lines.Perm (storedLines (handle world request))
  | _ => True

section Conditions

variable (environment : Environment) (world : World)

/-- The configured cluster can be built and connected as the first two driver
calls of a request. -/
def Connects : Prop :=
  ∃ cluster, Reachable environment 0 world "accounts" cluster

def AddReliable (restaurant : Restaurant) : Prop :=
  Connects environment world ∧ environment.fails 2 = false ∧
    ∃ table, accountsTable world "restaurants" = some table ∧
      table.accepts [("cuisine", restaurant.cuisine), ("seating", restaurant.seating),
        ("restaurantId", restaurant.restaurantId)] = true

/-- The first of the two driver calls that create the second table. It comes one
earlier when the first of those for the first table fails. -/
def tablesCall : Nat :=
  if environment.fails 2 then 3 else 4

/-- Each table exists already, or the driver calls that create it do not fail. -/
def SetupReliable : Prop :=
  ((accountsTable world "restaurants").isSome ∨
      Connects environment world ∧ environment.fails 2 = false ∧
        environment.fails 3 = false) ∧
    ((accountsTable world "tables").isSome ∨
      Connects environment world ∧ environment.fails (tablesCall environment) = false ∧
        environment.fails (tablesCall environment + 1) = false)

/-- The rows can be read and have the columns that are rendered: the query takes
three driver calls, and two more connect again before the rows are rendered. -/
def Readable (table : Table) : Prop :=
  Connects environment world ∧ environment.fails 2 = false ∧ environment.fails 3 = false ∧
    environment.fails 4 = false ∧ accountsTable world "restaurants" = some table ∧
    ∀ column ∈ ["cuisine", "seating", "restaurantId"], column ∈ table.columns

def GetReliable : Prop :=
  storedLines world = [] ∨ ∃ table, Readable environment world table

end Conditions

/-- Nothing fails that the reply to the request would have to report. -/
def Reliable (world : World) (request : Request × Environment) : Prop :=
  match request.1 with
  | .addRestaurant restaurant => AddReliable request.2 world restaurant
  | .setupRestaurantDatabaseTables => SetupReliable request.2 world
  | .getRestaurants => GetReliable request.2 world
  | _ => True

theorem reachable_newRequest {environment : Environment} {world : World} {cluster : Cluster}
    (hreach : Reachable environment 0 world "accounts" cluster) :
    Reachable environment (World.newRequest world).driverCalls (World.newRequest world)
      "accounts" cluster :=
  hreach

theorem unreachable_newRequest {environment : Environment} {world : World}
    (hconnects : ¬Connects environment world) (cluster : Cluster) :
    ¬Reachable environment (World.newRequest world).driverCalls (World.newRequest world)
      "accounts" cluster :=
  not_exists.mp hconnects cluster

theorem accountsTable_of_cluster {world : World} {cluster : Cluster}
    (hcluster : configuredCluster world.controllerProperties = some cluster) (name : String) :
    accountsTable world name = (world.network cluster.address).table "accounts" name := by
  unfold accountsTable
  rw [(open_configuredCluster hcluster).1, Option.bind_some]

section Add

variable (environment : Environment) {world : World} {cluster : Cluster}
  (restaurant : Restaurant)

/-- The endpoint answers the same whatever `setRestaurants` returns. -/
theorem call_addRestaurant
    (hreach : Reachable environment world.driverCalls world "accounts" cluster) :
    call (addRestaurant environment restaurant) world =
      (.ok (.text "200/OK"),
        afterStatement (connected world cluster) cluster (insertionOf restaurant)
          ((outcome environment (connected world cluster) ⟨cluster, some "accounts"⟩
            (insertionOf restaurant)).toOption.map Prod.fst)) := by
  have hcall := call_pooledStatement environment (insertionOf restaurant)
    (fun _ => "200/Success") "500/Error: Orm::setRestaurants Exception" hreach
  unfold addRestaurant
  rw [call_tryCatch, call_bind]
  unfold setRestaurants
  rw [show insertRestaurant _ _ _ _ = insertionOf restaurant from rfl, hcall]
  rcases outcome environment (connected world cluster) ⟨cluster, some "accounts"⟩
    (insertionOf restaurant) with e | ⟨database, results⟩ <;> rfl

theorem call_addRestaurant_unreachable
    (hreach : ∀ cluster, ¬Reachable environment world.driverCalls world "accounts" cluster) :
    ∃ world', SameData world world' ∧
      call (addRestaurant environment restaurant) world = (.ok (.text "200/OK"), world') := by
  obtain ⟨world', hsame, hcall⟩ :=
    call_pooledStatement_unreachable environment (insertionOf restaurant)
      (fun _ => "200/Success") "500/Error: Orm::setRestaurants Exception" hreach
  refine ⟨world', hsame, ?_⟩
  unfold addRestaurant
  rw [call_tryCatch, call_bind]
  unfold setRestaurants
  rw [show insertRestaurant _ _ _ _ = insertionOf restaurant from rfl, hcall]
  rfl

theorem outcome_insertion_isSome
    (hcluster : configuredCluster world.controllerProperties = some cluster) :
    ((outcome environment world ⟨cluster, some "accounts"⟩
        (insertionOf restaurant)).toOption.map Prod.fst).isSome ↔
      environment.fails world.driverCalls = false ∧
      ∃ table, accountsTable world "restaurants" = some table ∧
        table.accepts [("cuisine", restaurant.cuisine), ("seating", restaurant.seating),
          ("restaurantId", restaurant.restaurantId)] = true := by
  rw [accountsTable_of_cluster hcluster]
  by_cases hfails : environment.fails world.driverCalls
  · simp [outcome, hfails, Except.toOption]
  · rcases htable : (world.network cluster.address).table "accounts" "restaurants" with _ | table
    · simp [outcome, hfails, insertionOf, insertRestaurant, Database.execute, htable,
        Except.toOption]
    · by_cases haccepts : table.accepts [("cuisine", restaurant.cuisine),
        ("seating", restaurant.seating), ("restaurantId", restaurant.restaurantId)]
      · simp [outcome, hfails, insertionOf, insertRestaurant, Database.execute, htable, haccepts,
          Except.toOption]
      · simp [outcome, hfails, insertionOf, insertRestaurant, Database.execute, htable, haccepts,
          Except.toOption]

theorem truthful_add_iff_of_reachable
    (hreach : Reachable environment 0 world "accounts" cluster) :
    Truthful world (.addRestaurant restaurant, environment) ↔
      AddReliable environment world restaurant := by
  have hcall := call_addRestaurant environment restaurant (reachable_newRequest hreach)
  have hanswer : answer world (.addRestaurant restaurant, environment) =
      .ok (.text "200/OK") := congrArg Prod.fst hcall
  have hhandle : handle world (.addRestaurant restaurant, environment) = _ :=
    congrArg Prod.snd hcall
  have hsent : sentFor world (.addRestaurant restaurant, environment) =
      [⟨insertionOf restaurant, cluster, world.controllerProperties,
        ((outcome environment (connected (World.newRequest world) cluster)
          ⟨cluster, some "accounts"⟩ (insertionOf restaurant)).toOption.map
            Prod.fst).isSome⟩] := by
    unfold sentFor
    rw [hhandle]
    exact List.drop_left
  have hcluster : configuredCluster
      (connected (World.newRequest world) cluster).controllerProperties = some cluster :=
    hreach.1
  have hinserted := outcome_insertion_isSome environment restaurant hcluster
  unfold Truthful
  simp only [hanswer, hsent, List.mem_singleton, exists_eq_left, true_and, forall_const]
  rw [hinserted]
  constructor
  · intro hreliable
    exact ⟨⟨cluster, hreach⟩, hreliable⟩
  · rintro ⟨_, hreliable⟩
    exact hreliable

/-- Without a connection the answer is still "200/OK", and nothing was sent. -/
theorem not_truthful_add (hconnects : ¬Connects environment world) :
    ¬Truthful world (.addRestaurant restaurant, environment) := by
  obtain ⟨world', hsame, hcall⟩ :=
    call_addRestaurant_unreachable environment restaurant (unreachable_newRequest hconnects)
  have hanswer : answer world (.addRestaurant restaurant, environment) =
      .ok (.text "200/OK") := congrArg Prod.fst hcall
  have hhandle : handle world (.addRestaurant restaurant, environment) = world' :=
    congrArg Prod.snd hcall
  have hsent : sentFor world (.addRestaurant restaurant, environment) = [] := by
    unfold sentFor
    rw [hhandle]
    exact List.drop_eq_nil_of_le (hsame.2.2 ▸ le_refl _)
  intro htruthful
  obtain ⟨sent, hmem, -⟩ := htruthful hanswer
  rw [hsent] at hmem
  cases hmem

theorem truthful_add_iff (world : World) :
    Truthful world (.addRestaurant restaurant, environment) ↔
      AddReliable environment world restaurant := by
  by_cases hconnects : Connects environment world
  · obtain ⟨cluster, hreach⟩ := hconnects
    exact truthful_add_iff_of_reachable environment restaurant hreach
  · constructor
    · intro htruthful
      exact absurd htruthful (not_truthful_add environment restaurant hconnects)
    · rintro ⟨hreach, -⟩
      exact absurd hreach hconnects

end Add

theorem accountsTable_congr {world world' : World} (hnetwork : world'.network = world.network)
    (hproperties : world'.controllerProperties = world.controllerProperties) (name : String) :
    accountsTable world' name = accountsTable world name := by
  unfold accountsTable
  rw [hnetwork, hproperties]

section Setup

variable (environment : Environment) {world : World} {cluster : Cluster}

theorem call_setupTables (world : World) :
    call (setupTables environment) world =
      (.ok (.text "200/OK"),
        (call (setupRestaurantDatabaseTables environment "accounts") world).2) := by
  unfold setupTables setupRestaurantDatabaseTables
  rw [call_swallow, call_tryCatch, call_bind_of_ok (call_swallow _ _)]
  rfl

theorem handle_setup (hreach : Reachable environment 0 world "accounts" cluster) :
    ∃ world₁ world₂,
      TableAttempted environment cluster "accounts" "restaurants"
        ["cuisine", "seating", "restaurantId"] "restaurantId"
        (connected (World.newRequest world) cluster) world₁ ∧
      TableAttempted environment cluster "accounts" "tables"
        ["restaurantId", "seatNumber", "tableId"] "tableId" world₁ world₂ ∧
      SameData world₂ (handle world (.setupRestaurantDatabaseTables, environment)) := by
  have hhandle : handle world (.setupRestaurantDatabaseTables, environment) =
      (call (setupRestaurantDatabaseTables environment "accounts")
        (World.newRequest world)).2 :=
    congrArg Prod.snd (call_setupTables environment (World.newRequest world))
  rw [hhandle]
  exact setupRestaurantDatabaseTables_attempts environment (reachable_newRequest hreach)

theorem controllerProperties_setup
    (hreach : Reachable environment 0 world "accounts" cluster) :
    (handle world (.setupRestaurantDatabaseTables, environment)).controllerProperties =
      world.controllerProperties := by
  obtain ⟨world₁, world₂, hfirst, hsecond, hsame⟩ := handle_setup environment hreach
  exact hsame.2.1.trans (hsecond.properties_eq.trans hfirst.properties_eq)

theorem accountsTable_setup (hreach : Reachable environment 0 world "accounts" cluster) :
    accountsTable (handle world (.setupRestaurantDatabaseTables, environment)) "restaurants" =
      (if accountsTable world "restaurants" = none ∧
          environment.fails 2 = false ∧ environment.fails 3 = false then
        some ⟨["cuisine", "seating", "restaurantId"], "restaurantId", true, []⟩
      else accountsTable world "restaurants") ∧
    accountsTable (handle world (.setupRestaurantDatabaseTables, environment)) "tables" =
      if accountsTable world "tables" = none ∧
          environment.fails (tablesCall environment) = false ∧
          environment.fails (tablesCall environment + 1) = false then
        some ⟨["restaurantId", "seatNumber", "tableId"], "tableId", true, []⟩
      else accountsTable world "tables" := by
  obtain ⟨world₁, world₂, hfirst, hsecond, hsame⟩ := handle_setup environment hreach
  have hcluster : configuredCluster (handle world (.setupRestaurantDatabaseTables,
      environment)).controllerProperties = some cluster :=
    controllerProperties_setup environment hreach ▸ hreach.1
  have hcalls : world₁.driverCalls = tablesCall environment := hfirst.driverCalls_eq
  rw [accountsTable_of_cluster hcluster, accountsTable_of_cluster hcluster,
    accountsTable_of_cluster hreach.1, accountsTable_of_cluster hreach.1, hsame.1]
  rw [hsecond.table_eq, hsecond.table_eq, hfirst.table_eq, hfirst.table_eq, hcalls]
  constructor
  · rw [if_neg (by simp)]
    simp only [true_and]
    rfl
  · simp only [true_and]
    rw [if_neg (show ¬("tables" = "restaurants" ∧ _) by simp)]
    rfl

theorem accountsTable_setup_unreachable (hconnects : ¬Connects environment world)
    (name : String) :
    accountsTable (handle world (.setupRestaurantDatabaseTables, environment)) name =
      accountsTable world name := by
  have hunreachable := unreachable_newRequest hconnects
  have hsame : SameData (World.newRequest world)
      (handle world (.setupRestaurantDatabaseTables, environment)) := by
    obtain ⟨e, world', hsame, hcall⟩ := call_afterPooling_error environment hunreachable
    have hhandle : handle world (.setupRestaurantDatabaseTables, environment) = _ :=
      congrArg Prod.snd (call_setupTables environment (World.newRequest world))
    rw [hhandle, setupRestaurantDatabaseTables, call_swallow, hcall]
    exact hsame
  exact accountsTable_congr hsame.1 hsame.2.1 name

theorem isSome_created (old : Option Table) (table : Table) (p : Prop) [Decidable p] :
    (if old = none ∧ p then some table else old).isSome ↔ old.isSome ∨ p := by
  rcases old with _ | old
  · by_cases hp : p <;> simp [hp]
  · simp

theorem truthful_setup_iff (world : World) :
    Truthful world (.setupRestaurantDatabaseTables, environment) ↔
      SetupReliable environment world := by
  have hanswer : answer world (.setupRestaurantDatabaseTables, environment) =
      .ok (.text "200/OK") :=
    congrArg Prod.fst (call_setupTables environment (World.newRequest world))
  have htruthful : Truthful world (.setupRestaurantDatabaseTables, environment) ↔
      (accountsTable (handle world (.setupRestaurantDatabaseTables, environment))
        "restaurants").isSome ∧
      (accountsTable (handle world (.setupRestaurantDatabaseTables, environment))
        "tables").isSome := by
    unfold Truthful
    simp only [hanswer, forall_const]
  rw [htruthful]
  unfold SetupReliable
  by_cases hconnects : Connects environment world
  · obtain ⟨cluster, hreach⟩ := hconnects
    obtain ⟨hrestaurants, htables⟩ := accountsTable_setup environment hreach
    have hconnects : Connects environment world := ⟨cluster, hreach⟩
    rw [hrestaurants, htables, isSome_created, isSome_created]
    simp only [hconnects, true_and]
  · rw [accountsTable_setup_unreachable environment hconnects,
      accountsTable_setup_unreachable environment hconnects]
    simp only [hconnects, false_and, or_false]

end Setup

section Get

variable (environment : Environment) {world : World} {cluster : Cluster}

theorem formatRow_eq_ok {results : ResultSet}
    (hcolumns : ∀ column ∈ ["cuisine", "seating", "restaurantId"], column ∈ results.columns)
    (row : Row) : formatRow results row = .ok (renderRow row) := by
  have hcuisine := hcolumns "cuisine" (by simp)
  have hseating := hcolumns "seating" (by simp)
  have hrestaurantId := hcolumns "restaurantId" (by simp)
  simp only [formatRow, getString, hcuisine, hseating, hrestaurantId, if_true, ok_bind]
  rfl

theorem mapM_formatRow {results : ResultSet}
    (hcolumns : ∀ column ∈ ["cuisine", "seating", "restaurantId"], column ∈ results.columns) :
    results.rows.mapM (formatRow results) = .ok (results.rows.map renderRow) := by
  have hformat : formatRow results = fun row => pure (renderRow row) :=
    funext (formatRow_eq_ok hcolumns)
  rw [hformat, List.mapM_pure]
  rfl

theorem mem_of_getString {results : ResultSet} {row : Row} {column : String}
    {value : Option String} (hvalue : getString results row column = .ok value) :
    column ∈ results.columns := by
  unfold getString at hvalue
  split at hvalue
  · assumption
  · cases hvalue

theorem formatRow_ne_ok {results : ResultSet}
    (hcolumns : ¬∀ column ∈ ["cuisine", "seating", "restaurantId"], column ∈ results.columns)
    (row : Row) (line : String) : formatRow results row ≠ .ok line := by
  intro hline
  apply hcolumns
  obtain ⟨cuisine, hcuisine, hline⟩ := bind_eq_ok.mp hline
  obtain ⟨seating, hseating, hline⟩ := bind_eq_ok.mp hline
  obtain ⟨restaurantId, hrestaurantId, -⟩ := bind_eq_ok.mp hline
  simp only [List.forall_mem_cons, List.not_mem_nil, false_imp_iff, implies_true, and_true]
  exact ⟨mem_of_getString hcuisine, mem_of_getString hseating, mem_of_getString hrestaurantId⟩

theorem eq_nil_of_mapM_formatRow {results : ResultSet}
    (hcolumns : ¬∀ column ∈ ["cuisine", "seating", "restaurantId"], column ∈ results.columns)
    {lines : List String} (hlines : results.rows.mapM (formatRow results) = .ok lines) :
    lines = [] := by
  rcases hrows : results.rows with _ | ⟨row, rows⟩
  · rw [hrows] at hlines
    cases hlines
    rfl
  · rw [hrows, List.mapM_cons] at hlines
    obtain ⟨line, hline, -⟩ := bind_eq_ok.mp hlines
    exact absurd hline (formatRow_ne_ok hcolumns row line)

theorem outcome_select
    (hcluster : configuredCluster world.controllerProperties = some cluster) {table : Table}
    (hfails : environment.fails world.driverCalls = false)
    (htable : accountsTable world "restaurants" = some table) :
    outcome environment world ⟨cluster, some "accounts"⟩ (.selectAll "accounts" "restaurants") =
      .ok (world.network cluster.address,
        ⟨table.columns, environment.order.arrange table.rows⟩) := by
  rw [accountsTable_of_cluster hcluster] at htable
  simp [outcome, hfails, Database.execute, htable]

theorem outcome_select_eq_ok
    (hcluster : configuredCluster world.controllerProperties = some cluster)
    {selected : Database × ResultSet}
    (hselected : outcome environment world ⟨cluster, some "accounts"⟩
      (.selectAll "accounts" "restaurants") = .ok selected) :
    environment.fails world.driverCalls = false ∧
      ∃ table, accountsTable world "restaurants" = some table := by
  rw [accountsTable_of_cluster hcluster]
  unfold outcome at hselected
  split at hselected
  · cases hselected
  · rename_i hfails
    refine ⟨by simpa using hfails, ?_⟩
    rcases htable : (world.network cluster.address).table "accounts" "restaurants" with _ | table
    · simp [Database.execute, htable] at hselected
    · exact ⟨table, rfl⟩

def SameStore (world world' : World) : Prop :=
  world'.network = world.network ∧ world'.controllerProperties = world.controllerProperties

theorem call_getRestaurants_of_query {world₁ : World} {results : Option ResultSet}
    (hquery : call (querySchema environment "accounts" (.selectAll "accounts" "restaurants"))
      world = (.ok results, world₁)) :
    call (RestaurantController.getRestaurants environment) world =
      match call (SessionUtil.getRestaurants environment results "accounts") world₁ with
      | (.ok lines, world₂) => (.ok (.list lines), world₂)
      | (.error _, world₂) => (.ok (.list []), world₂) := by
  unfold RestaurantController.getRestaurants
  rw [call_tryCatch, call_bind_of_ok hquery, call_bind]
  rcases call (SessionUtil.getRestaurants environment results "accounts") world₁ with
    ⟨e | lines, world₂⟩ <;> rfl

theorem querySchema_some (hreach : Reachable environment 0 world "accounts" cluster)
    {table : Table} (hfails : environment.fails 2 = false)
    (htable : accountsTable world "restaurants" = some table) :
    ∃ world₁, call (querySchema environment "accounts" (.selectAll "accounts" "restaurants"))
        (World.newRequest world) =
          (.ok (some ⟨table.columns, environment.order.arrange table.rows⟩), world₁) ∧
      SameStore world world₁ ∧ world₁.driverCalls = 3 := by
  have hcall := call_pooledStatement environment (.selectAll "accounts" "restaurants") some none
    (reachable_newRequest hreach)
  have hcluster : configuredCluster
    (connected (World.newRequest world) cluster).controllerProperties = some cluster := hreach.1
  rw [outcome_select environment hcluster hfails htable] at hcall
  refine ⟨_, hcall, ⟨?_, rfl⟩, rfl⟩
  exact Function.update_eq_self cluster.address world.network

theorem querySchema_none (hquery : ¬(Connects environment world ∧
      environment.fails 2 = false ∧ ∃ table, accountsTable world "restaurants" = some table)) :
    ∃ world₁, call (querySchema environment "accounts" (.selectAll "accounts" "restaurants"))
        (World.newRequest world) = (.ok none, world₁) ∧ SameStore world world₁ := by
  by_cases hconnects : Connects environment world
  · obtain ⟨cluster, hreach⟩ := hconnects
    have hcall := call_pooledStatement environment (.selectAll "accounts" "restaurants") some
      none (reachable_newRequest hreach)
    rcases hselected : outcome environment (connected (World.newRequest world) cluster)
      ⟨cluster, some "accounts"⟩ (.selectAll "accounts" "restaurants") with e | selected
    · rw [hselected] at hcall
      exact ⟨_, hcall, rfl, rfl⟩
    · have hcluster : configuredCluster
        (connected (World.newRequest world) cluster).controllerProperties = some cluster :=
        hreach.1
      exact absurd ⟨⟨cluster, hreach⟩, outcome_select_eq_ok environment hcluster hselected⟩ hquery
  · have hunreachable := unreachable_newRequest hconnects
    obtain ⟨world₁, hsame, hcall⟩ := call_pooledStatement_unreachable environment
      (.selectAll "accounts" "restaurants") some none hunreachable
    exact ⟨world₁, hcall, hsame.1, hsame.2.1⟩

theorem getRestaurants_readable {table : Table} (hreadable : Readable environment world table) :
    ∃ world₂, call (RestaurantController.getRestaurants environment) (World.newRequest world) =
        (.ok (.list ((environment.order.arrange table.rows).map renderRow)), world₂) ∧
      SameStore world world₂ := by
  obtain ⟨⟨cluster, hreach⟩, hquery, hbuild, hconnect, htable, hcolumns⟩ := hreadable
  obtain ⟨world₁, hcall, ⟨hnetwork, hproperties⟩, hcalls⟩ :=
    querySchema_some environment hreach hquery htable
  have hagain : Reachable environment world₁.driverCalls world₁ "accounts" cluster := by
    rw [hcalls]
    exact ⟨hproperties ▸ hreach.1, hbuild, hconnect, hnetwork ▸ hreach.2.2.2⟩
  rw [call_getRestaurants_of_query environment hcall, call_getRestaurants environment hagain,
    mapM_formatRow hcolumns]
  exact ⟨_, rfl, hnetwork, hproperties⟩

theorem getRestaurants_unreadable (hreadable : ∀ table, ¬Readable environment world table) :
    ∃ world₂, call (RestaurantController.getRestaurants environment) (World.newRequest world) =
        (.ok (.list []), world₂) ∧ SameStore world world₂ := by
  by_cases hquery : Connects environment world ∧ environment.fails 2 = false ∧
    ∃ table, accountsTable world "restaurants" = some table
  · obtain ⟨⟨cluster, hreach⟩, hfails, table, htable⟩ := hquery
    obtain ⟨world₁, hcall, ⟨hnetwork, hproperties⟩, hcalls⟩ :=
      querySchema_some environment hreach hfails htable
    rw [call_getRestaurants_of_query environment hcall]
    by_cases hagain : ∃ cluster, Reachable environment world₁.driverCalls world₁ "accounts" cluster
    · obtain ⟨cluster₁, hagain⟩ := hagain
      rw [call_getRestaurants environment hagain]
      have hcolumns : ¬∀ column ∈ ["cuisine", "seating", "restaurantId"],
          column ∈ table.columns := by
        intro hcolumns
        rw [hcalls] at hagain
        exact hreadable table
          ⟨⟨cluster, hreach⟩, hfails, hagain.2.1, hagain.2.2.1, htable, hcolumns⟩
      refine ⟨connected world₁ cluster₁, ?_, hnetwork, hproperties⟩
      rcases hlines : (environment.order.arrange table.rows).mapM (formatRow
        ⟨table.columns, environment.order.arrange table.rows⟩) with e | lines
      · rfl
      · rw [eq_nil_of_mapM_formatRow hcolumns hlines]
    · obtain ⟨world₂, hsame, hfailed⟩ :=
        call_getRestaurants_unreachable environment _ (not_exists.mp hagain)
      rw [hfailed]
      exact ⟨world₂, rfl, hsame.1.trans hnetwork, hsame.2.1.trans hproperties⟩
  · obtain ⟨world₁, hcall, hnetwork, hproperties⟩ := querySchema_none environment hquery
    obtain ⟨world₂, hsame, hfailed⟩ := call_getRestaurants_none environment "accounts" world₁
    rw [call_getRestaurants_of_query environment hcall, hfailed]
    exact ⟨world₂, rfl, hsame.1.trans hnetwork, hsame.2.1.trans hproperties⟩

theorem storedLines_congr {world' : World} (hsame : SameStore world world') :
    storedLines world' = storedLines world := by
  unfold storedLines
  rw [accountsTable_congr hsame.1 hsame.2]

theorem truthful_get_iff (world : World) :
    Truthful world (.getRestaurants, environment) ↔ GetReliable environment world := by
  by_cases hreadable : ∃ table, Readable environment world table
  · refine ⟨fun _ => .inr hreadable, fun _ => ?_⟩
    obtain ⟨table, hreadable⟩ := hreadable
    obtain ⟨world₂, hcall, hsame⟩ := getRestaurants_readable environment hreadable
    have hanswer : answer world (.getRestaurants, environment) =
        .ok (.list ((environment.order.arrange table.rows).map renderRow)) :=
      congrArg Prod.fst hcall
    have hhandle : handle world (.getRestaurants, environment) = world₂ :=
      congrArg Prod.snd hcall
    have hstored : storedLines world = table.rows.map renderRow := by
      unfold storedLines
      rw [hreadable.2.2.2.2.1]
    intro lines hlines
    rw [hanswer] at hlines
    cases hlines
    rw [hhandle, storedLines_congr hsame, hstored]
    exact (environment.order.perm table.rows).map renderRow
  · obtain ⟨world₂, hcall, hsame⟩ :=
      getRestaurants_unreadable environment (not_exists.mp hreadable)
    have hanswer : answer world (.getRestaurants, environment) = .ok (.list []) :=
      congrArg Prod.fst hcall
    have hhandle : handle world (.getRestaurants, environment) = world₂ :=
      congrArg Prod.snd hcall
    constructor
    · intro htruthful
      have hperm := htruthful [] hanswer
      rw [hhandle, storedLines_congr hsame] at hperm
      exact .inl (List.nil_perm.mp hperm)
    · rintro (hempty | hreach)
      · intro lines hlines
        rw [hanswer] at hlines
        cases hlines
        rw [hhandle, storedLines_congr hsame, hempty]
      · exact absurd hreach hreadable

end Get

theorem truthful_iff_reliable (world : World) (request : Request × Environment) :
    Truthful world request ↔ Reliable world request := by
  obtain ⟨request, environment⟩ := request
  rcases request with _ | s | _ | _ | restaurant | _
  · exact Iff.rfl
  · exact Iff.rfl
  · exact Iff.rfl
  · exact truthful_setup_iff environment world
  · exact truthful_add_iff environment restaurant world
  · exact truthful_get_iff environment world

/-- In a run from any state, with any pattern of failures, every answer is true
exactly when no request meets a failure that its answer hides. -/
theorem allSteps_truthful_iff (world : World) (requests : List (Request × Environment)) :
    AllSteps handle Truthful world requests ↔ AllSteps handle Reliable world requests :=
  allSteps_congr truthful_iff_reliable world requests

/-- A restaurant is added while the database cannot be reached: the answer is
"200/OK" and nothing was inserted. -/
theorem add_untruthful_when_refused :
    ¬AllSteps handle Truthful (initialWorld (fun _ _ => none) localProperties)
      [(.addRestaurant ⟨some "1", some "thai", some "20"⟩, surroundings true .unreadable)] := by
  rintro ⟨htruthful, -⟩
  obtain ⟨sent, hmem, -⟩ := htruthful rfl
  cases hmem

end RestaurantServer.TruthfulReplies
