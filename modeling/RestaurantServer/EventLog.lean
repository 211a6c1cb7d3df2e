import RestaurantServer.RestaurantThreads

/-!
A log of what happens on all threads, which no thread reads: the restaurants that are
added, and the driver calls that fail. The stored restaurants are those of the log, and
what a thread has added is not changed by the others.
-/

namespace RestaurantServer.EventLog

open RestaurantServer.KeyedRows
open RestaurantServer.RelyGuarantee
open RestaurantServer.CassandraDatabase
open RestaurantServer.SessionUtil
open RestaurantServer.SessionCalls
open RestaurantServer.RestaurantController
open RestaurantServer.TruthfulReplies
open RestaurantServer.RestaurantStore
open RestaurantServer.RestaurantThreads

section Statements

variable {store : Option String → Option Restaurant} {world : World} {cluster : Cluster}
  {environment : Environment}

theorem stores_congr (hstores : Stores store world) {world' : World}
    (hnetwork : world'.network = world.network)
    (hproperties : world'.controllerProperties = world.controllerProperties) :
    Stores store world' := by
  refine ⟨hproperties ▸ hstores.configured, ?_⟩
  rw [accountsTable_congr hnetwork hproperties]
  exact hstores.table

theorem keyspace_of_stores (hstores : Stores store world)
    (hcluster : configuredCluster world.controllerProperties = some cluster) :
    (world.network cluster.address "accounts").isSome := by
  obtain ⟨restaurants, htable, -⟩ := hstores.table
  exact keyspace_of_accountsTable hcluster htable

/-- A statement at the configured database that leaves `restaurants` in its table of
restaurants. -/
theorem stores_of_table (hcluster : configuredCluster world.controllerProperties = some cluster)
    {statement : Statement} {database : Database} {restaurants : List Restaurant}
    (htable : database.table "accounts" "restaurants" = some (restaurantsTable restaurants))
    (hrepresents : Represents Restaurant.restaurantId store restaurants)
    (hcomplete : ∀ restaurant ∈ restaurants, Complete restaurant) :
    Stores store (afterStatement world cluster statement (some database)) := by
  refine ⟨⟨cluster, hcluster⟩, restaurants, ?_, hrepresents, hcomplete⟩
  have hafter : configuredCluster
      (afterStatement world cluster statement (some database)).controllerProperties =
        some cluster := hcluster
  rw [accountsTable_of_cluster hafter]
  change (Function.update world.network cluster.address database cluster.address).table _ _ = _
  rw [Function.update_self]
  exact htable

theorem stores_inserted (hstores : Stores store world)
    (hcluster : configuredCluster world.controllerProperties = some cluster)
    {restaurant : Restaurant} (hcomplete : Complete restaurant)
    (hfails : environment.fails world.driverCalls = false) :
    ∃ database results,
      outcome environment world ⟨cluster, some "accounts"⟩ (insertionOf restaurant) =
        .ok (database, results) ∧
      Stores (Function.update store restaurant.restaurantId (some restaurant))
        (afterStatement world cluster (insertionOf restaurant) (some database)) := by
  obtain ⟨restaurants, htable, hrepresents, hall⟩ := hstores.table
  rw [accountsTable_of_cluster hcluster] at htable
  refine ⟨(world.network cluster.address).setTable "accounts" "restaurants"
      (some ((restaurantsTable restaurants).insert (restaurantLayout.values restaurant))),
    ⟨[], []⟩, ?_, stores_of_table hcluster ?_ (hrepresents.upsert _ restaurant)
      (complete_of_mem_upsert hall hcomplete)⟩
  · change (if environment.fails world.driverCalls then _ else
      (world.network cluster.address).execute environment.order
        (.insertInto "accounts" "restaurants" (restaurantLayout.values restaurant))) = _
    rw [hfails]
    simp only [Bool.false_eq_true, if_false, Database.execute, htable,
      accepts_values hcomplete, if_true]
  · rw [Database.table_setTable _ _ _ _ _ (keyspace_of_stores hstores hcluster), if_pos rfl,
      insert_restaurantsTable hall hcomplete]

/-- The lines of the results are those of the restaurants. -/
def Lists (store : Option String → Option Restaurant) (results : ResultSet) : Prop :=
  (∀ column ∈ ["cuisine", "seating", "restaurantId"], column ∈ results.columns) ∧
    ∃ restaurants, results.rows.map renderRow = restaurants.map render ∧
      Represents Restaurant.restaurantId store restaurants

theorem stores_selected (hstores : Stores store world)
    (hcluster : configuredCluster world.controllerProperties = some cluster)
    (hfails : environment.fails world.driverCalls = false) :
    ∃ database results,
      outcome environment world ⟨cluster, some "accounts"⟩
        (.selectAll "accounts" "restaurants") = .ok (database, results) ∧
      Lists store results ∧
      Stores store (afterStatement world cluster (.selectAll "accounts" "restaurants")
        (some database)) := by
  obtain ⟨restaurants, htable, hrepresents, hall⟩ := hstores.table
  rw [accountsTable_of_cluster hcluster] at htable
  obtain ⟨listed, hlisted, hlines⟩ := exists_perm_renderRow environment.order restaurants
  refine ⟨world.network cluster.address, ⟨(restaurantsTable restaurants).columns,
    environment.order.arrange (restaurants.map restaurantLayout.row)⟩, ?_,
    ⟨fun _ hcolumn => hcolumn, listed, hlines, hrepresents.perm _ hlisted⟩,
    stores_of_table hcluster htable hrepresents hall⟩
  rw [outcome, hfails]
  simp only [Bool.false_eq_true, if_false, Database.execute, htable]
  rfl

theorem stores_created (hstores : Stores store world)
    (hcluster : configuredCluster world.controllerProperties = some cluster)
    {name : String} {columns : List String} {primaryKey : String} {database : Database}
    {results : ResultSet}
    (houtcome : outcome environment world ⟨cluster, some "accounts"⟩
      (.createTable "accounts" name columns primaryKey) = .ok (database, results)) :
    Stores store (afterStatement world cluster
      (.createTable "accounts" name columns primaryKey) (some database)) := by
  obtain ⟨restaurants, htable, hrepresents, hall⟩ := hstores.table
  rw [accountsTable_of_cluster hcluster] at htable
  have hkeyspace := keyspace_of_stores hstores hcluster
  rw [outcome_createTable environment hkeyspace] at houtcome
  split at houtcome
  · cases houtcome
  · split at houtcome
    · cases houtcome
    · rename_i hnone
      cases houtcome
      have hname : "restaurants" ≠ name := by
        rintro rfl
        rw [htable] at hnone
        cases hnone
      refine stores_of_table hcluster ?_ hrepresents hall
      rw [Database.table_setTable _ _ _ _ _ hkeyspace, if_neg hname]
      exact htable

end Statements

section Log

variable {ι : Type}

inductive Event where
  | addition (restaurant : Restaurant)
  | failure

def Event.restaurant : Event → Option Restaurant
  | .addition restaurant => some restaurant
  | .failure => none

/-- The events on all threads in their order. -/
abbrev Log (ι : Type) := List (ι × Event)

def addition (sent : Sent) : Option Restaurant :=
  match sent.succeeded, sent.statement with
  | true, .insertInto _ _ [(_, cuisine), (_, seating), (_, restaurantId)] =>
      some ⟨restaurantId, cuisine, seating⟩
  | _, _ => none

/-- A step makes at most one driver call. This may fail, or send a statement. -/
def eventOf (environment : Environment) (before after : World) : Option Event :=
  if before.driverCalls < after.driverCalls ∧ environment.fails before.driverCalls = true then
    some .failure
  else ((after.sent.drop before.sent.length).head?.bind addition).map .addition

def logging (environment : Environment) (i : ι) (before after : World) (log : Log ι) : Log ι :=
  log ++ (eventOf environment before after).toList.map fun event => (i, event)

def Failed (i : ι) (log : Log ι) : Prop :=
  (i, Event.failure) ∈ log

/-- What one thread has added. -/
def added [DecidableEq ι] (i : ι) (log : Log ι) : List Restaurant :=
  log.filterMap fun entry => if entry.1 = i then entry.2.restaurant else none

def storeAfter (store : Option String → Option Restaurant) (log : Log ι) :
    Option String → Option Restaurant :=
  log.foldl
    (fun store entry =>
      match entry.2 with
      | .addition restaurant => Function.update store restaurant.restaurantId (some restaurant)
      | .failure => store)
    store

section Events

variable {environment : Environment} {before after : World}

theorem eventOf_fails (hcalls : before.driverCalls < after.driverCalls)
    (hfails : environment.fails before.driverCalls = true) :
    eventOf environment before after = some .failure :=
  if_pos ⟨hcalls, hfails⟩

/-- A step that sends nothing adds nothing. -/
theorem eventOf_of_sent (hsent : after.sent = before.sent) :
    eventOf environment before after = none ∨
      eventOf environment before after = some .failure := by
  rw [eventOf, hsent, List.drop_length]
  split
  · exact .inr rfl
  · exact .inl rfl

theorem eventOf_same (world : World) : eventOf environment world world = none := by
  rw [eventOf, if_neg fun h => absurd h.1 (Nat.lt_irrefl _), List.drop_length]
  rfl

theorem eventOf_afterStatement (hfails : environment.fails before.driverCalls = false)
    (cluster : Cluster) (statement : Statement) (database : Option Database) :
    eventOf environment before (afterStatement before cluster statement database) =
      (addition ⟨statement, cluster, before.controllerProperties, database.isSome⟩).map
        .addition := by
  rw [eventOf, if_neg fun h => by simp [hfails] at h]
  change ((((before.sent ++ [_]).drop before.sent.length).head?).bind addition).map _ = _
  rw [List.drop_left]
  rfl

/-- A statement that is refused adds nothing. -/
theorem eventOf_refused (cluster : Cluster) (statement : Statement) :
    eventOf environment before (afterStatement before cluster statement none) = none ∨
      eventOf environment before (afterStatement before cluster statement none) =
        some .failure := by
  cases hfails : environment.fails before.driverCalls with
  | false => exact .inl (eventOf_afterStatement hfails cluster statement none)
  | true => exact .inr (eventOf_fails (Nat.lt_succ_self _) hfails)

end Events

variable (i : ι) (log : Log ι) {environment : Environment} {before after : World}

theorem logging_of_none (hevent : eventOf environment before after = none) :
    logging environment i before after log = log := by
  rw [logging, hevent]
  exact List.append_nil log

theorem logging_of_some {event : Event} (hevent : eventOf environment before after = some event) :
    logging environment i before after log = log ++ [(i, event)] := by
  rw [logging, hevent]
  rfl

theorem prefix_logging : log <+: logging environment i before after log :=
  List.prefix_append _ _

theorem failed_logging (hcalls : before.driverCalls < after.driverCalls)
    (hfails : environment.fails before.driverCalls = true) :
    Failed i (logging environment i before after log) := by
  rw [logging_of_some i log (eventOf_fails hcalls hfails)]
  exact List.mem_append_right _ (List.mem_singleton_self _)

theorem storeAfter_failure (store : Option String → Option Restaurant) :
    storeAfter store (log ++ [(i, .failure)]) = storeAfter store log := by
  rw [storeAfter, List.foldl_concat]
  rfl

variable [DecidableEq ι]

theorem added_concat (event : Event) :
    added i (log ++ [(i, event)]) = added i log ++ event.restaurant.toList := by
  rw [added, List.filterMap_append, List.filterMap_cons, if_pos rfl]
  cases event.restaurant <;> rfl

theorem added_logging {i j : ι} (hne : j ≠ i) :
    added j (logging environment i before after log) = added j log := by
  rw [logging, added, List.filterMap_append]
  cases eventOf environment before after with
  | none => exact List.append_nil _
  | some event =>
      rw [Option.toList_some, List.map_singleton, List.filterMap_cons, if_neg hne.symm]
      exact List.append_nil _

theorem prefix_added {log log' : Log ι} (hlog : log <+: log') : added i log <+: added i log' :=
  hlog.filterMap _

end Log

section Evolution

variable {ι : Type} (store : Option String → Option Restaurant) (cluster : Cluster)

/-- The database stores what the log says. -/
def Consistent (state : World × Log ι) : Prop :=
  configuredCluster state.1.controllerProperties = some cluster ∧
    Stores (storeAfter store state.2) state.1

variable {store cluster} in
theorem Consistent.congr {world world' : World} {log : Log ι}
    (hconsistent : Consistent store cluster (world, log))
    (hnetwork : world'.network = world.network)
    (hproperties : world'.controllerProperties = world.controllerProperties) :
    Consistent store cluster (world', log) :=
  ⟨hproperties ▸ hconsistent.1, stores_congr hconsistent.2 hnetwork hproperties⟩

variable {store cluster} in
/-- A step without an addition may be logged, as what is stored stays the same. -/
theorem Consistent.logged {environment : Environment} {world world' : World} {log : Log ι} {i : ι}
    (hevent : eventOf environment world world' = none ∨
      eventOf environment world world' = some .failure)
    (hconsistent : Consistent store cluster (world', log)) :
    Consistent store cluster (world', logging environment i world world' log) := by
  rcases hevent with hnone | hfailure
  · rwa [logging_of_none i log hnone]
  · rw [logging_of_some i log hfailure]
    refine ⟨hconsistent.1, ?_⟩
    rw [storeAfter_failure]
    exact hconsistent.2

variable [DecidableEq ι]

/-- What steps do that add nothing for the threads in `others`. -/
structure Evolves (others : ι → Prop) (before after : World × Log ι) : Prop where
  consistent : Consistent store cluster before → Consistent store cluster after
  log : before.2 <+: after.2
  added : ∀ j, others j → added j after.2 = added j before.2
  pooled : before.1.cluster = some cluster → after.1.cluster = some cluster

variable (i : ι) (done : Log ι)

/-- The log goes on from `done` without additions of the thread. -/
def Reached (state : World × Log ι) : Prop :=
  Consistent store cluster state ∧ done <+: state.2 ∧ added i state.2 = added i done

/-- A thread has pooled. The field may hold the cluster of another thread by now, but
that is built from the same configuration. -/
def Pooled (state : World × Log ι) : Prop :=
  Reached store cluster i done state ∧ state.1.cluster = some cluster

/-- The thread has got no further because a driver call of it has failed. -/
def Stuck (state : World × Log ι) : Prop :=
  Reached store cluster i done state ∧ Failed i state.2

/-- The conditions on a thread. The others may do anything but add in its name. -/
abbrev Performs (environment : Environment) {α : Type} (Q : α → World × Log ι → Prop)
    (E : World × Log ι → Prop) (t : Call α) (P : World × Log ι → Prop) : Prop :=
  MeetsOr (logging environment i) (Evolves store cluster (· = i)) (Evolves store cluster (· ≠ i))
    Q E t P

variable {store cluster i done} {environment : Environment} {world world' : World} {log : Log ι}

theorem stable_reached :
    Stable (Evolves store cluster (· = i)) (Reached store cluster i done) := by
  rintro before after hevolves ⟨hconsistent, hdone, hadded⟩
  exact ⟨hevolves.consistent hconsistent, hdone.trans hevolves.log,
    (hevolves.added i rfl).trans hadded⟩

theorem stable_pooled :
    Stable (Evolves store cluster (· = i)) (Pooled store cluster i done) := by
  rintro before after hevolves ⟨hreached, hcluster⟩
  exact ⟨stable_reached _ _ hevolves hreached, hevolves.pooled hcluster⟩

theorem stable_stuck :
    Stable (Evolves store cluster (· = i)) (Stuck store cluster i done) := by
  rintro before after hevolves ⟨hreached, hfailed⟩
  exact ⟨stable_reached _ _ hevolves hreached, hevolves.log.subset hfailed⟩

theorem evolves_logging
    (hconsistent : Consistent store cluster (world, log) →
      Consistent store cluster (world', logging environment i world world' log))
    (hcluster : world.cluster = some cluster → world'.cluster = some cluster) :
    Evolves store cluster (· ≠ i) (world, log)
      (world', logging environment i world world' log) :=
  ⟨hconsistent, prefix_logging i log, fun _ hne => added_logging log hne, hcluster⟩

theorem Reached.logged
    (hevent : eventOf environment world world' = none ∨
      eventOf environment world world' = some .failure)
    (hreached : Reached store cluster i done (world', log)) :
    Reached store cluster i done (world', logging environment i world world' log) := by
  refine ⟨hreached.1.logged hevent, hreached.2.1.trans (prefix_logging i log), ?_⟩
  rcases hevent with hnone | hfailure
  · rw [logging_of_none i log hnone]
    exact hreached.2.2
  · rw [logging_of_some i log hfailure, added_concat]
    exact (List.append_nil _).trans hreached.2.2

theorem Reached.sameData (hreached : Reached store cluster i done (world, log))
    (hsame : SameData world world') :
    Reached store cluster i done (world', logging environment i world world' log) :=
  Reached.logged (eventOf_of_sent hsame.2.2)
    ⟨hreached.1.congr hsame.1 hsame.2.1, hreached.2⟩

theorem evolves_of_sameData (hsame : SameData world world')
    (hcluster : world.cluster = some cluster → world'.cluster = some cluster) :
    Evolves store cluster (· ≠ i) (world, log)
      (world', logging environment i world world' log) :=
  evolves_logging (fun hconsistent =>
    (hconsistent.congr hsame.1 hsame.2.1).logged (eventOf_of_sent hsame.2.2)) hcluster

end Evolution

end RestaurantServer.EventLog
