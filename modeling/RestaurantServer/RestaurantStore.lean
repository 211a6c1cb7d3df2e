import RestaurantServer.RecordTables
import RestaurantServer.TruthfulReplies

/-!
The restaurants as a map from their identifiers. As long as no driver call fails,
adding a restaurant updates the map, setting the tables up again leaves it alone,
and the list of restaurants is that of the map.
-/

namespace RestaurantServer.RestaurantStore

open RestaurantServer.ThrowingMethods
open RestaurantServer.KeyedRows
open RestaurantServer.RecordTables
open RestaurantServer.CassandraDatabase
open RestaurantServer.SessionUtil
open RestaurantServer.SessionCalls
open RestaurantServer.RestaurantController
open RestaurantServer.TruthfulReplies

/-- A restaurant as the requests add it: none of its strings is `null`, and its
identifier is not empty. -/
def Complete (restaurant : Restaurant) : Prop :=
  (∃ restaurantId, restaurant.restaurantId = some restaurantId ∧ restaurantId ≠ "") ∧
    restaurant.cuisine.isSome ∧ restaurant.seating.isSome

/-- The requests of a run, where no driver call fails. A table that exists already
is still not created again. -/
def Undisturbed (request : Request × Environment) : Prop :=
  (∀ n, request.2.fails n = false) ∧
    match request.1 with
    | .addRestaurant restaurant => Complete restaurant
    | .setupRestaurantDatabaseTables => True
    | .getRestaurants => True
    | _ => False

/-- The abstract store: an addition updates the map, and no other request does. -/
def addTo (store : Option String → Option Restaurant) (request : Request × Environment) :
    Option String → Option Restaurant :=
  match request.1 with
  | .addRestaurant restaurant =>
      Function.update store restaurant.restaurantId (some restaurant)
  | _ => store

def latest (requests : List (Request × Environment)) : Option String → Option Restaurant :=
  requests.foldl addTo fun _ => none

def render (restaurant : Restaurant) : String :=
  formatRestaurant restaurant.cuisine restaurant.seating restaurant.restaurantId

/-- How the table keeps the restaurants. -/
def restaurantLayout : Layout Restaurant where
  columns := ["cuisine", "seating", "restaurantId"]
  primaryKey := "restaurantId"
  values restaurant :=
    [("cuisine", restaurant.cuisine), ("seating", restaurant.seating),
      ("restaurantId", restaurant.restaurantId)]
  key := Restaurant.restaurantId
  columns_eq _ := rfl
  key_eq _ := rfl

def restaurantOf (row : Row) : Restaurant :=
  ⟨row "restaurantId", row "cuisine", row "seating"⟩

def restaurantsTable (restaurants : List Restaurant) : Table :=
  restaurantLayout.table restaurants

structure Stores (store : Option String → Option Restaurant) (world : World) : Prop where
  configured : ∃ cluster, configuredCluster world.controllerProperties = some cluster
  table : ∃ restaurants,
    accountsTable world "restaurants" = some (restaurantsTable restaurants) ∧
    Represents Restaurant.restaurantId store restaurants ∧
    ∀ restaurant ∈ restaurants, Complete restaurant

section Table

variable {restaurants : List Restaurant} {restaurant : Restaurant}

theorem isLive_of_complete (hcomplete : Complete restaurant) :
    restaurantLayout.isLive restaurant = true := by
  obtain ⟨-, hcuisine, -⟩ := hcomplete
  have hvalue : restaurantLayout.row restaurant "cuisine" = restaurant.cuisine := rfl
  change ["cuisine", "seating", "restaurantId"].any (fun column =>
    column ≠ "restaurantId" ∧ (restaurantLayout.row restaurant column).isSome) = true
  simp [hvalue, hcuisine]

theorem accepts_values (hcomplete : Complete restaurant) :
    (restaurantsTable restaurants).accepts (restaurantLayout.values restaurant) = true := by
  obtain ⟨⟨restaurantId, hrestaurantId, hnonempty⟩, -⟩ := hcomplete
  simp [Table.accepts, restaurantsTable, Layout.table, restaurantLayout, hrestaurantId,
    hnonempty, List.lookup_cons]

theorem complete_of_mem_upsert (hcomplete : ∀ old ∈ restaurants, Complete old)
    (hnew : Complete restaurant) :
    ∀ written ∈ upsert Restaurant.restaurantId restaurants restaurant, Complete written := by
  intro written hwritten
  rcases (mem_upsert _ _ _ _).mp hwritten with rfl | ⟨hold, -⟩
  · exact hnew
  · exact hcomplete written hold

/-- In the table an insertion is a write of a row with a key. -/
theorem insert_restaurantsTable (hcomplete : ∀ old ∈ restaurants, Complete old)
    (hnew : Complete restaurant) :
    (restaurantsTable restaurants).insert (restaurantLayout.values restaurant) =
      restaurantsTable (upsert Restaurant.restaurantId restaurants restaurant) := by
  have hlive : (upsert Restaurant.restaurantId restaurants restaurant).filter
      restaurantLayout.isLive = upsert Restaurant.restaurantId restaurants restaurant :=
    List.filter_eq_self.mpr fun written hwritten =>
      isLive_of_complete (complete_of_mem_upsert hcomplete hnew written hwritten)
  rw [restaurantsTable, restaurantLayout.insert_table restaurants restaurant]
  exact congrArg restaurantLayout.table hlive

/-- Whatever the order of the rows, their lines are those of the restaurants. -/
theorem exists_perm_renderRow (order : RowOrder) (restaurants : List Restaurant) :
    ∃ listed : List Restaurant, listed.Perm restaurants ∧
      (order.arrange (restaurants.map restaurantLayout.row)).map renderRow =
        listed.map render := by
  have hmap : (restaurants.map restaurantLayout.row).map restaurantOf = restaurants := by
    rw [List.map_map]
    exact List.map_id restaurants
  have hperm := (order.perm (restaurants.map restaurantLayout.row)).map restaurantOf
  rw [hmap] at hperm
  refine ⟨_, hperm, ?_⟩
  rw [List.map_map]
  rfl

end Table

section Steps

variable {store : Option String → Option Restaurant} {world : World} {environment : Environment}

theorem keyspace_of_accountsTable {cluster : Cluster} {name : String} {table : Table}
    (hcluster : configuredCluster world.controllerProperties = some cluster)
    (htable : accountsTable world name = some table) :
    (world.network cluster.address "accounts").isSome := by
  rw [accountsTable_of_cluster hcluster] at htable
  obtain ⟨keyspace, hkeyspace, -⟩ := Option.bind_eq_some_iff.mp htable
  rw [hkeyspace]
  rfl

theorem Stores.reachable (hstores : Stores store world)
    (hfails : ∀ n, environment.fails n = false) :
    ∃ cluster, Reachable environment 0 world "accounts" cluster := by
  obtain ⟨cluster, hcluster⟩ := hstores.configured
  obtain ⟨restaurants, htable, -⟩ := hstores.table
  exact ⟨cluster, hcluster, hfails 0, hfails 1, keyspace_of_accountsTable hcluster htable⟩

theorem handle_add {cluster : Cluster} {restaurant : Restaurant} {database : Database}
    {results : ResultSet} (hreach : Reachable environment 0 world "accounts" cluster)
    (houtcome : outcome environment (connected (World.newRequest world) cluster)
      ⟨cluster, some "accounts"⟩ (insertionOf restaurant) = .ok (database, results)) :
    (handle world (.addRestaurant restaurant, environment)).network =
        Function.update world.network cluster.address database ∧
      (handle world (.addRestaurant restaurant, environment)).controllerProperties =
        world.controllerProperties := by
  have hcall := call_addRestaurant environment restaurant (reachable_newRequest hreach)
  rw [houtcome] at hcall
  have hhandle : handle world (.addRestaurant restaurant, environment) = _ :=
    congrArg Prod.snd hcall
  rw [hhandle]
  exact ⟨rfl, rfl⟩

theorem Stores.add (hstores : Stores store world) {restaurant : Restaurant}
    (hcomplete : Complete restaurant) (hfails : ∀ n, environment.fails n = false) :
    Stores (Function.update store restaurant.restaurantId (some restaurant))
      (handle world (.addRestaurant restaurant, environment)) := by
  obtain ⟨cluster, hreach⟩ := hstores.reachable hfails
  obtain ⟨restaurants, htable, hrepresents, hall⟩ := hstores.table
  rw [accountsTable_of_cluster hreach.1] at htable
  have houtcome : outcome environment (connected (World.newRequest world) cluster)
      ⟨cluster, some "accounts"⟩ (insertionOf restaurant) =
      .ok ((world.network cluster.address).setTable "accounts" "restaurants"
        (some (restaurantsTable (upsert Restaurant.restaurantId restaurants restaurant))),
        ⟨[], []⟩) := by
    rw [← insert_restaurantsTable hall hcomplete]
    change (if environment.fails 2 then _ else
      (world.network cluster.address).execute environment.order
        (.insertInto "accounts" "restaurants" (restaurantLayout.values restaurant))) = _
    rw [hfails 2]
    simp only [Bool.false_eq_true, if_false, Database.execute, htable,
      accepts_values hcomplete, if_true]
  obtain ⟨hnetwork, hproperties⟩ := handle_add hreach houtcome
  have hcluster : configuredCluster
      (handle world (.addRestaurant restaurant, environment)).controllerProperties =
      some cluster := hproperties ▸ hreach.1
  refine ⟨⟨cluster, hcluster⟩, _, ?_, hrepresents.upsert _ restaurant,
    complete_of_mem_upsert hall hcomplete⟩
  rw [accountsTable_of_cluster hcluster, hnetwork, Function.update_self,
    Database.table_setTable _ _ _ _ _ hreach.2.2.2, if_pos rfl]

theorem Stores.setup (hstores : Stores store world)
    (hfails : ∀ n, environment.fails n = false) :
    Stores store (handle world (.setupRestaurantDatabaseTables, environment)) := by
  obtain ⟨cluster, hreach⟩ := hstores.reachable hfails
  obtain ⟨restaurants, htable, hrows⟩ := hstores.table
  have hkept := (accountsTable_setup environment hreach).1
  rw [htable, if_neg (by simp)] at hkept
  have hcluster : configuredCluster (RestaurantController.handle world
      (.setupRestaurantDatabaseTables, environment)).controllerProperties = some cluster :=
    controllerProperties_setup environment hreach ▸ hreach.1
  exact ⟨⟨cluster, hcluster⟩, restaurants, hkept, hrows⟩

theorem Stores.readable (hstores : Stores store world)
    (hfails : ∀ n, environment.fails n = false) :
    ∃ restaurants, Readable environment world (restaurantsTable restaurants) ∧
      Represents Restaurant.restaurantId store restaurants ∧
      ∀ restaurant ∈ restaurants, Complete restaurant := by
  obtain ⟨restaurants, htable, hrows⟩ := hstores.table
  refine ⟨restaurants, ⟨hstores.reachable hfails, hfails 2, hfails 3, hfails 4, htable, ?_⟩,
    hrows⟩
  intro column hcolumn
  exact hcolumn

theorem Stores.get (hstores : Stores store world)
    (hfails : ∀ n, environment.fails n = false) :
    Stores store (handle world (.getRestaurants, environment)) := by
  obtain ⟨restaurants, hreadable, -⟩ := hstores.readable hfails
  obtain ⟨world₂, hcall, hnetwork, hproperties⟩ :=
    getRestaurants_readable environment hreadable
  have hhandle : handle world (.getRestaurants, environment) = world₂ :=
    congrArg Prod.snd hcall
  rw [hhandle]
  refine ⟨hproperties ▸ hstores.configured, ?_⟩
  rw [accountsTable_congr hnetwork hproperties]
  exact hstores.table

/-- The list of the restaurants is that of the map. -/
theorem Stores.answer_get (hstores : Stores store world)
    (hfails : ∀ n, environment.fails n = false) :
    ∃ restaurants,
      answer world (.getRestaurants, environment) = .ok (.list (restaurants.map render)) ∧
      Represents Restaurant.restaurantId store restaurants ∧
      ∀ restaurant ∈ restaurants, Complete restaurant := by
  obtain ⟨restaurants, hreadable, hrepresents, hcomplete⟩ := hstores.readable hfails
  obtain ⟨world₂, hcall, -⟩ := getRestaurants_readable environment hreadable
  obtain ⟨listed, hlisted, hlines⟩ := exists_perm_renderRow environment.order restaurants
  refine ⟨listed, ?_, hrepresents.perm _ hlisted, ?_⟩
  · rw [← hlines]
    exact congrArg Prod.fst hcall
  · intro restaurant hrestaurant
    exact hcomplete restaurant (hlisted.mem_iff.mp hrestaurant)

theorem Stores.handle (hstores : Stores store world) {request : Request × Environment}
    (hundisturbed : Undisturbed request) :
    Stores (addTo store request) (RestaurantController.handle world request) := by
  obtain ⟨request, environment⟩ := request
  obtain ⟨hfails, hrequest⟩ := hundisturbed
  rcases request with _ | s | _ | _ | restaurant | _
  · exact hrequest.elim
  · exact hrequest.elim
  · exact hrequest.elim
  · exact hstores.setup hfails
  · exact hstores.add hrequest hfails
  · exact hstores.get hfails

end Steps

/-- The database is configured, and its table of restaurants is as the setup
creates it. -/
def EmptyStore (world : World) : Prop :=
  (∃ cluster, configuredCluster world.controllerProperties = some cluster) ∧
    accountsTable world "restaurants" = some (restaurantsTable [])

theorem stores_foldl {world : World} (hempty : EmptyStore world)
    {requests : List (Request × Environment)}
    (hundisturbed : ∀ request ∈ requests, Undisturbed request) :
    Stores (latest requests) (requests.foldl handle world) := by
  have hinit : Stores (fun _ => none) world :=
    ⟨hempty.1, [], hempty.2, represents_nil _, by simp⟩
  refine List.foldl_rel hinit ?_
  intro request hrequest store world hstores
  exact hstores.handle (hundisturbed request hrequest)

/-- Each list of restaurants in a run has one line for each identifier added before
it and no others, and the line renders the latest addition of that identifier. -/
theorem getRestaurants_lists_latest {world : World} (hempty : EmptyStore world)
    {requests : List (Request × Environment)}
    (hundisturbed : ∀ request ∈ requests, Undisturbed request)
    {done rest : List (Request × Environment)} {environment : Environment}
    (hget : requests = done ++ (.getRestaurants, environment) :: rest) :
    ∃ restaurants,
      answer (done.foldl handle world) (.getRestaurants, environment) =
        .ok (.list (restaurants.map render)) ∧
      Represents Restaurant.restaurantId (latest done) restaurants := by
  subst hget
  have hstores : Stores (latest done) (done.foldl handle world) :=
    stores_foldl hempty fun request hrequest =>
      hundisturbed request (List.mem_append_left _ hrequest)
  have hfails : ∀ n, environment.fails n = false :=
    (hundisturbed (.getRestaurants, environment) (by simp)).1
  obtain ⟨restaurants, hanswer, hrepresents, -⟩ := hstores.answer_get hfails
  exact ⟨restaurants, hanswer, hrepresents⟩

def emptyNetwork : String → Database :=
  fun _ keyspace =>
    if keyspace = "accounts" then
      some fun name => if name = "restaurants" then some (restaurantsTable []) else none
    else none

/-- One identifier is added twice, with a setup in between. -/
def threeAdditions : List (Request × Environment) :=
  [(.addRestaurant ⟨some "1", some "thai", some "20"⟩, surroundings false .unreadable),
    (.setupRestaurantDatabaseTables, surroundings false .unreadable),
    (.addRestaurant ⟨some "2", some "greek", some "8"⟩, surroundings false .unreadable),
    (.addRestaurant ⟨some "1", some "sushi", some "12"⟩, surroundings false .unreadable)]

theorem undisturbed_threeAdditions :
    ∀ request ∈ threeAdditions ++ [(.getRestaurants, surroundings false .unreadable)],
      Undisturbed request := by
  simp [threeAdditions, Undisturbed, surroundings, Complete]

theorem emptyStore_emptyNetwork : EmptyStore (initialWorld emptyNetwork localProperties) := by
  refine ⟨⟨⟨"127.0.0.1", _, _, _⟩, rfl⟩, rfl⟩

theorem getRestaurants_lists_latest_threeAdditions :
    ∃ restaurants,
      answer (threeAdditions.foldl handle (initialWorld emptyNetwork localProperties))
          (.getRestaurants, surroundings false .unreadable) =
            .ok (.list (restaurants.map render)) ∧
        Represents Restaurant.restaurantId (latest threeAdditions) restaurants :=
  getRestaurants_lists_latest emptyStore_emptyNetwork undisturbed_threeAdditions rfl

end RestaurantServer.RestaurantStore
