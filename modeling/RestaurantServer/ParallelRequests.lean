import RestaurantServer.EventLog

/-!
Additions and lists of restaurants in parallel. Each addition takes effect in one step
of its request, and each list shows the restaurants at some moment between the first and
the last step of its request.
-/

namespace RestaurantServer.ParallelRequests

open RestaurantServer.JavaExceptions
open RestaurantServer.JavaStrings
open RestaurantServer.ThrowingMethods
open RestaurantServer.RequestRuns
open RestaurantServer.KeyedRows
open RestaurantServer.RelyGuarantee
open RestaurantServer.CassandraDatabase
open RestaurantServer.SessionUtil
open RestaurantServer.SessionCalls
open RestaurantServer.RestaurantController
open RestaurantServer.TruthfulReplies
open RestaurantServer.RestaurantStore
open RestaurantServer.RestaurantThreads
open RestaurantServer.EventLog

section Calls

variable {ι : Type} [DecidableEq ι] {store : Option String → Option Restaurant}
  {cluster : Cluster} {i : ι} {done : Log ι} (environment : Environment)

theorem performs_field {α : Type} {E P : World × Log ι → Prop} (fact : α → Prop)
    {read : World → α} (hP : Stable (Evolves store cluster (· = i)) P)
    (hfact : ∀ state, P state → fact (read state.1)) :
    Performs store cluster i environment (fun a state => P state ∧ fact a) E (field read) P := by
  rintro ⟨world, log⟩ hstate
  have hlog : logging environment i world world log = log :=
    logging_of_none i log (eventOf_same world)
  refine ⟨evolves_of_sameData ⟨rfl, rfl, rfl⟩ fun hcluster => hcluster, P, hP, ?_, ?_⟩
  · change P (world, logging environment i world world log)
    rw [hlog]
    exact hstate
  · exact fun _ hafter => ⟨hafter, hfact (world, log) hstate⟩

theorem credentials_of_configuredCluster {properties : Singleton}
    (hcluster : configuredCluster properties = some cluster) :
    (∃ login, properties.login = some login ∧ trim login = cluster.login) ∧
      ∃ password, properties.password = some password ∧ trim password = cluster.password := by
  rcases properties with ⟨_ | address, port, _ | login, _ | password⟩ <;> cases hcluster
  exact ⟨⟨login, rfl, rfl⟩, password, rfl, rfl⟩

theorem performs_setupConfiguredPooling (hopen : cluster.closed = false) :
    Performs store cluster i environment (fun _ => Pooled store cluster i done)
      (Stuck store cluster i done)
      (setupConfiguredPooling environment) (Reached store cluster i done) := by
  refine meetsOr_bind (performs_field environment (· = some cluster.address) stable_reached
    fun _ hreached => (open_configuredCluster hreached.1.1).1) fun ipAddress => ?_
  refine meets_of_fact ?_
  rintro rfl
  refine meetsOr_tryCatch ?_ fun _ => meetsOr_throw fun _ hthrown => hthrown
  refine meetsOr_settled ?_
  refine meetsOr_bind (performs_field environment (fun login => ∃ text, login = some text ∧
    trim text = cluster.login) stable_reached
    fun _ hreached => (credentials_of_configuredCluster hreached.1.1).1) fun login => ?_
  refine meets_of_fact ?_
  rintro ⟨login, rfl, hlogin⟩
  refine meetsOr_settled ?_
  refine meetsOr_bind (performs_field environment (fun password => ∃ text, password = some text ∧
    trim text = cluster.password) stable_reached
    fun _ hreached => (credentials_of_configuredCluster hreached.1.1).2) fun password => ?_
  refine meets_of_fact ?_
  rintro ⟨password, rfl, hpassword⟩
  refine meetsOr_settled ?_
  have hbuilt : (⟨cluster.address, trim login, trim password, false⟩ : Cluster) = cluster := by
    rw [hlogin, hpassword, ← hopen]
  rw [hbuilt]
  refine meetsOr_atomically (fun _ => stable_pooled) stable_stuck ?_
  intro world log hreached
  rw [call_buildCluster]
  by_cases hfails : environment.fails world.driverCalls
  · rw [if_pos hfails]
    exact ⟨evolves_of_sameData ⟨rfl, rfl, rfl⟩ fun hcluster => hcluster,
      hreached.sameData ⟨rfl, rfl, rfl⟩, failed_logging i log (Nat.lt_succ_self _) hfails⟩
  · rw [if_neg hfails]
    exact ⟨evolves_of_sameData ⟨rfl, rfl, rfl⟩ fun _ => rfl,
      hreached.sameData ⟨rfl, rfl, rfl⟩, rfl⟩

theorem performs_connectTo (hopen : cluster.closed = false) :
    Performs store cluster i environment
      (fun session state => Pooled store cluster i done state ∧
        session = ⟨cluster, some "accounts"⟩)
      (fun state => Pooled store cluster i done state ∧ Stuck store cluster i done state)
      (connectTo environment (some "accounts")) (Pooled store cluster i done) := by
  refine meetsOr_bind (performs_field environment (· = some cluster) stable_pooled
    fun _ hpooled => hpooled.2) fun field => ?_
  refine meets_of_fact ?_
  rintro rfl
  refine meetsOr_settled ?_
  refine meetsOr_atomically (fun _ => stable_pooled.and_fact _)
    (stable_pooled.and stable_stuck) ?_
  rintro world log ⟨hreached, hcluster⟩
  have hsession : openSession world.network cluster (some "accounts") =
      .ok ⟨cluster, some "accounts"⟩ := by
    simp [openSession, hopen, keyspace_of_stores hreached.1.2 hreached.1.1]
  have hpooled : Pooled store cluster i done
      (initialised world, logging environment i world (initialised world) log) :=
    ⟨hreached.sameData ⟨rfl, rfl, rfl⟩, hcluster⟩
  rw [call_connectCluster, hsession]
  refine ⟨evolves_of_sameData ⟨rfl, rfl, rfl⟩ fun hcluster => hcluster, ?_⟩
  by_cases hfails : environment.fails world.driverCalls
  · rw [if_pos hfails]
    exact ⟨hpooled, hpooled.1, failed_logging i log (Nat.lt_succ_self _) hfails⟩
  · rw [if_neg hfails]
    exact ⟨hpooled, rfl⟩

/-- What the methods have in common that pool and connect first. -/
theorem performs_pooledSession {α : Type} {Q : α → World × Log ι → Prop} {f : Session → Call α}
    (hopen : cluster.closed = false)
    (hf : Performs store cluster i environment Q
      (Stuck store cluster i done)
      (f ⟨cluster, some "accounts"⟩) (Pooled store cluster i done)) :
    Performs store cluster i environment Q
      (Stuck store cluster i done)
      (setupConfiguredPooling environment >>= fun _ =>
        connectTo environment (some "accounts") >>= f)
      (Reached store cluster i done) := by
  refine meetsOr_bind (performs_setupConfiguredPooling environment hopen) fun _ => ?_
  refine meetsOr_bind ((performs_connectTo environment hopen).imp (fun _ _ hsession => hsession)
    fun _ hthrown => hthrown.2) fun session => ?_
  refine meets_of_fact ?_
  rintro rfl
  exact hf

/-- A statement is refused, or it takes effect on the database and on the log. -/
theorem performs_execute {statement : Statement} {Q : ResultSet → World × Log ι → Prop}
    {E : World × Log ι → Prop}
    (hQ : ∀ results, Stable (Evolves store cluster (· = i)) (Q results))
    (hE : Stable (Evolves store cluster (· = i)) E)
    (hrefused : ∀ world log e, Pooled store cluster i done (world, log) →
      outcome environment world ⟨cluster, some "accounts"⟩ statement = .error e →
      Reached store cluster i done (afterStatement world cluster statement none,
        logging environment i world (afterStatement world cluster statement none) log) →
      E (afterStatement world cluster statement none,
        logging environment i world (afterStatement world cluster statement none) log))
    (hexecuted : ∀ world log database results, Pooled store cluster i done (world, log) →
      outcome environment world ⟨cluster, some "accounts"⟩ statement = .ok (database, results) →
      Consistent store cluster (afterStatement world cluster statement (some database),
        logging environment i world
          (afterStatement world cluster statement (some database)) log) ∧
      Q results (afterStatement world cluster statement (some database),
        logging environment i world
          (afterStatement world cluster statement (some database)) log)) :
    Performs store cluster i environment Q E
      (execute environment ⟨cluster, some "accounts"⟩ statement)
      (Pooled store cluster i done) := by
  refine meetsOr_atomically hQ hE ?_
  rintro world log ⟨hreached, hcluster⟩
  rw [call_execute]
  rcases houtcome : outcome environment world ⟨cluster, some "accounts"⟩ statement with
    e | ⟨database, results⟩
  · have hevent : eventOf environment world (afterStatement world cluster statement none) = none ∨
        eventOf environment world (afterStatement world cluster statement none) = some .failure :=
      eventOf_refused cluster statement
    have hafter : Reached store cluster i done (afterStatement world cluster statement none,
        logging environment i world (afterStatement world cluster statement none) log) :=
      Reached.logged hevent ⟨hreached.1.congr rfl rfl, hreached.2⟩
    exact ⟨evolves_logging (fun _ => hafter.1) fun hcluster => hcluster,
      hrefused world log e ⟨hreached, hcluster⟩ houtcome hafter⟩
  · obtain ⟨hconsistent, hreturned⟩ :=
      hexecuted world log database results ⟨hreached, hcluster⟩ houtcome
    exact ⟨evolves_logging (fun _ => hconsistent) fun hcluster => hcluster, hreturned⟩

theorem not_fails_of_outcome {world : World} {session : Session} {statement : Statement}
    {database : Database} {results : ResultSet}
    (houtcome : outcome environment world session statement = .ok (database, results)) :
    environment.fails world.driverCalls = false := by
  rw [outcome] at houtcome
  split at houtcome
  · cases houtcome
  · rename_i hfails
    exact Bool.eq_false_iff.mpr hfails

/-- The thread has added the restaurant, once. -/
theorem performs_insertion {restaurant : Restaurant} (hcomplete : Complete restaurant) :
    Performs store cluster i environment
      (fun _ state => ∃ log, Reached store cluster i log state ∧
        (done <+: log ∧ added i log = added i done ++ [restaurant]))
      (Stuck store cluster i done)
      (execute environment ⟨cluster, some "accounts"⟩ (insertionOf restaurant))
      (Pooled store cluster i done) := by
  refine performs_execute environment (fun _ => stable_exists fun _ => stable_reached.and_fact _)
    stable_stuck ?_ ?_
  · rintro world log e ⟨⟨⟨hcluster, hstores⟩, -⟩, -⟩ houtcome hafter
    refine ⟨hafter, failed_logging i log (Nat.lt_succ_self _) ?_⟩
    by_contra hfails
    obtain ⟨database, results, hok, -⟩ :=
      stores_inserted hstores hcluster hcomplete (Bool.eq_false_iff.mpr hfails)
    rw [houtcome] at hok
    cases hok
  · rintro world log database results ⟨⟨⟨hcluster, hstores⟩, hdone, hadded⟩, -⟩ houtcome
    have hfails := not_fails_of_outcome environment houtcome
    have hlog : logging environment i world (afterStatement world cluster (insertionOf restaurant)
        (some database)) log = log ++ [(i, .addition restaurant)] :=
      logging_of_some i log
        (eventOf_afterStatement hfails cluster (insertionOf restaurant) (some database))
    have hconsistent : Consistent store cluster (afterStatement world cluster
        (insertionOf restaurant) (some database), log ++ [(i, .addition restaurant)]) := by
      obtain ⟨database', results', hok, hinserted⟩ :=
        stores_inserted hstores hcluster hcomplete hfails
      rw [houtcome] at hok
      cases hok
      refine ⟨hcluster, ?_⟩
      rw [storeAfter, List.foldl_concat]
      exact hinserted
    rw [hlog]
    refine ⟨hconsistent, log ++ [(i, .addition restaurant)],
      ⟨hconsistent, List.prefix_rfl, rfl⟩, ?_, ?_⟩
    · exact hdone.trans (List.prefix_append _ _)
    · rw [added_concat, hadded]
      rfl

/-- The results show the restaurants at a moment after `done`. -/
theorem performs_selection :
    Performs store cluster i environment
      (fun results state => ∃ log, Reached store cluster i log state ∧
        ((done <+: log ∧ added i log = added i done) ∧ Lists (storeAfter store log) results))
      (Stuck store cluster i done)
      (execute environment ⟨cluster, some "accounts"⟩ (.selectAll "accounts" "restaurants"))
      (Pooled store cluster i done) := by
  refine performs_execute environment (fun _ => stable_exists fun _ => stable_reached.and_fact _)
    stable_stuck ?_ ?_
  · rintro world log e ⟨⟨⟨hcluster, hstores⟩, -⟩, -⟩ houtcome hafter
    refine ⟨hafter, failed_logging i log (Nat.lt_succ_self _) ?_⟩
    by_contra hfails
    obtain ⟨database, results, hok, -⟩ :=
      stores_selected hstores hcluster (Bool.eq_false_iff.mpr hfails)
    rw [houtcome] at hok
    cases hok
  · rintro world log database results ⟨⟨⟨hcluster, hstores⟩, hdone, hadded⟩, -⟩ houtcome
    have hfails := not_fails_of_outcome environment houtcome
    have hlog : logging environment i world (afterStatement world cluster
        (.selectAll "accounts" "restaurants") (some database)) log = log :=
      logging_of_none i log (eventOf_afterStatement hfails cluster _ (some database))
    obtain ⟨database', results', hok, hlists, hselected⟩ :=
      stores_selected hstores hcluster hfails
    rw [houtcome] at hok
    cases hok
    have hconsistent : Consistent store cluster (afterStatement world cluster
        (.selectAll "accounts" "restaurants") (some database), log) := ⟨hcluster, hselected⟩
    rw [hlog]
    exact ⟨hconsistent, log, ⟨hconsistent, List.prefix_rfl, rfl⟩, ⟨hdone, hadded⟩, hlists⟩

/-- A failed attempt to create a table changes nothing, and a successful one creates
another table than that of the restaurants. -/
theorem performs_creation (name : String) (columns : List String) (primaryKey : String) :
    Performs store cluster i environment (fun _ => Pooled store cluster i done)
      (Pooled store cluster i done)
      (execute environment ⟨cluster, some "accounts"⟩
        (.createTable "accounts" name columns primaryKey))
      (Pooled store cluster i done) := by
  refine performs_execute environment (fun _ => stable_pooled) stable_pooled ?_ ?_
  · rintro world log e ⟨-, hcluster⟩ - hafter
    exact ⟨hafter, hcluster⟩
  · rintro world log database results ⟨⟨⟨hcluster, hstores⟩, hlog⟩, hfield⟩ houtcome
    have hfails := not_fails_of_outcome environment houtcome
    have hsame : logging environment i world (afterStatement world cluster
        (.createTable "accounts" name columns primaryKey) (some database)) log = log :=
      logging_of_none i log (eventOf_afterStatement hfails cluster _ (some database))
    have hconsistent : Consistent store cluster (afterStatement world cluster
        (.createTable "accounts" name columns primaryKey) (some database), log) :=
      ⟨hcluster, stores_created hstores hcluster houtcome⟩
    rw [hsame]
    exact ⟨hconsistent, ⟨hconsistent, hlog⟩, hfield⟩

theorem performs_setRestaurants (hopen : cluster.closed = false) {restaurant : Restaurant}
    (hcomplete : Complete restaurant) :
    Performs store cluster i environment
      (fun _ state => ∃ log, Reached store cluster i log state ∧ (done <+: log ∧
        (added i log = added i done ++ [restaurant] ∨
          Failed i log ∧ added i log = added i done)))
      (fun _ => False)
      (setRestaurants environment "accounts" restaurant.restaurantId restaurant.cuisine
        restaurant.seating)
      (Reached store cluster i done) := by
  refine meetsOr_tryCatch (performs_pooledSession environment hopen ?_) fun _ => meetsOr_pure ?_
  · refine meetsOr_bind (performs_insertion environment hcomplete) fun _ => meetsOr_pure ?_
    rintro state ⟨log, hreached, hdone, hadded⟩
    exact ⟨log, hreached, hdone, .inl hadded⟩
  · rintro state ⟨⟨hconsistent, hdone, hadded⟩, hfailed⟩
    exact ⟨state.2, ⟨hconsistent, List.prefix_rfl, rfl⟩, hdone, .inr ⟨hfailed, hadded⟩⟩

theorem performs_querySchema (hopen : cluster.closed = false) :
    Performs store cluster i environment
      (fun results state => ∃ log, Reached store cluster i log state ∧
        ((done <+: log ∧ added i log = added i done) ∧
          match results with
          | none => Failed i log
          | some results => Lists (storeAfter store log) results))
      (fun _ => False)
      (querySchema environment "accounts" (.selectAll "accounts" "restaurants"))
      (Reached store cluster i done) := by
  refine meetsOr_tryCatch (performs_pooledSession environment hopen ?_) fun _ => meetsOr_pure ?_
  · exact meetsOr_bind (performs_selection environment) fun results =>
      meetsOr_pure fun state hlists => hlists
  · rintro state ⟨⟨hconsistent, hdone, hadded⟩, hfailed⟩
    exact ⟨state.2, ⟨hconsistent, List.prefix_rfl, rfl⟩, ⟨hdone, hadded⟩, hfailed⟩

theorem performs_formatRestaurants (hopen : cluster.closed = false) {results : ResultSet}
    (hcolumns : ∀ column ∈ ["cuisine", "seating", "restaurantId"], column ∈ results.columns) :
    Performs store cluster i environment
      (fun lines state => Reached store cluster i done state ∧
        lines = results.rows.map renderRow)
      (Stuck store cluster i done)
      (formatRestaurants environment (some results) "accounts")
      (Reached store cluster i done) := by
  refine meetsOr_tryCatch (performs_pooledSession environment hopen ?_) fun _ =>
    meetsOr_throw fun _ hthrown => hthrown
  refine meetsOr_settled ?_
  rw [mapM_formatRow hcolumns]
  exact meetsOr_pure fun state hpooled => ⟨hpooled.1, rfl⟩

/-- Without results the method throws, at the latest when it reads them. -/
theorem performs_formatRestaurants_none (hopen : cluster.closed = false) :
    Performs store cluster i environment (fun _ _ => False) (Reached store cluster i done)
      (formatRestaurants environment none "accounts") (Reached store cluster i done) := by
  refine meetsOr_tryCatch ?_ fun _ => meetsOr_throw fun _ hthrown => hthrown
  refine meetsOr_bind ((performs_setupConfiguredPooling environment hopen).imp
    (fun _ _ hpooled => hpooled) fun _ hthrown => hthrown.1) fun _ => ?_
  refine meetsOr_bind ((performs_connectTo environment hopen).imp
    (fun _ _ hsession => hsession) fun _ hthrown => hthrown.1.1) fun _ => ?_
  exact fun state hsession => hsession.1.1

theorem performs_createTable (hopen : cluster.closed = false) (name : String)
    (columns : List String) (primaryKey : String) {E : World × Log ι → Prop}
    {handler : Throwable → Call Unit}
    (hhandler : ∀ e, Performs store cluster i environment (fun _ => Pooled store cluster i done) E
      (handler e) (Pooled store cluster i done)) :
    Performs store cluster i environment (fun _ => Pooled store cluster i done) E
      (tryCatch (connectTo environment (some "accounts") >>= fun session =>
        execute environment session (.createTable "accounts" name columns primaryKey) >>=
          fun _ => pure ()) handler)
      (Pooled store cluster i done) := by
  refine meetsOr_tryCatch ?_ hhandler
  refine meetsOr_bind ((performs_connectTo environment hopen).imp (fun _ _ hsession => hsession)
    fun _ hthrown => hthrown.1) fun session => meets_of_fact ?_
  rintro rfl
  exact meetsOr_bind (performs_creation environment name columns primaryKey) fun _ =>
    meetsOr_pure fun _ hpooled => hpooled

theorem performs_setupRestaurantDatabaseTables (hopen : cluster.closed = false) :
    Performs store cluster i environment (fun _ => Reached store cluster i done) (fun _ => False)
      (setupRestaurantDatabaseTables environment "accounts")
      (Reached store cluster i done) := by
  refine meetsOr_tryCatch (O := Reached store cluster i done) ?_ fun _ =>
    meetsOr_pure fun _ hreached => hreached
  refine meetsOr_bind ((performs_setupConfiguredPooling environment hopen).imp
    (fun _ _ hpooled => hpooled) fun _ hthrown => hthrown.1) fun _ => ?_
  refine meetsOr_bind ((performs_connectTo environment hopen).imp
    (fun _ _ hsession => hsession.1) fun _ hthrown => hthrown.1.1) fun _ => ?_
  refine meetsOr_bind (performs_createTable environment hopen _ _ _ fun _ =>
    meetsOr_pure fun _ hpooled => hpooled) fun _ => ?_
  refine meetsOr_bind (performs_createTable environment hopen _ _ _ fun _ =>
    meetsOr_throw fun _ hpooled => hpooled.1) fun _ => ?_
  refine meetsOr_tryCatch (O := Reached store cluster i done) ?_ fun _ =>
    meetsOr_throw fun _ hthrown => hthrown
  exact meetsOr_bind ((performs_connectTo environment hopen).imp
    (fun _ _ hsession => hsession.1) fun _ hthrown => hthrown.1.1) fun _ =>
      meetsOr_pure fun _ hpooled => hpooled.1

end Calls

section Replies

variable {ι : Type} [DecidableEq ι] (store : Option String → Option Restaurant) (i : ι)

/-- What the reply to the request of the thread means, where the log is `done` before the
request and `log` after it. -/
def Explained (done : Log ι) (task : Task) (reply : Except Throwable Reply) (log : Log ι) :
    Prop :=
  match task with
  | .setupRestaurantDatabaseTables =>
      added i log = added i done ∧ reply = .ok (.text "200/OK")
  | .addRestaurant restaurant =>
      reply = .ok (.text "200/OK") ∧
        (added i log = added i done ++ [restaurant] ∨
          Failed i log ∧ added i log = added i done)
  | .getRestaurants =>
      added i log = added i done ∧
        ((∃ moment restaurants, done <+: moment ∧ moment <+: log ∧
            Represents Restaurant.restaurantId (storeAfter store moment) restaurants ∧
            reply = .ok (.list (restaurants.map render))) ∨
          Failed i log ∧ reply = .ok (.list []))

/-- The restaurants that requests add are complete. -/
def CompleteTask : Task → Prop
  | .addRestaurant restaurant => Complete restaurant
  | _ => True

variable {store i} {cluster : Cluster} {done : Log ι}

theorem performs_serve (hopen : cluster.closed = false) (environment : Environment) {task : Task}
    (hcomplete : CompleteTask task) :
    Performs store cluster i environment
      (fun reply state => ∃ log, Reached store cluster i log state ∧
        (done <+: log ∧ Explained store i done task (.ok reply) log))
      (fun _ => False) (serve environment task) (Reached store cluster i done) := by
  cases task with
  | setupRestaurantDatabaseTables =>
      refine meetsOr_tryCatch (O := fun _ => False) ?_ fun _ => meetsOr_pure fun _ => False.elim
      refine meetsOr_bind (performs_setupRestaurantDatabaseTables environment hopen) fun _ =>
        meetsOr_pure fun state hreached => ?_
      exact ⟨done, hreached, List.prefix_rfl, rfl, rfl⟩
  | addRestaurant restaurant =>
      refine meetsOr_tryCatch (O := fun _ => False) ?_ fun _ => meetsOr_pure fun _ => False.elim
      refine meetsOr_bind (performs_setRestaurants environment hopen hcomplete) fun _ =>
        meetsOr_pure ?_
      rintro state ⟨log, hreached, hdone, hadded⟩
      exact ⟨log, hreached, hdone, rfl, hadded⟩
  | getRestaurants =>
      refine meetsOr_tryCatch (O := fun state => ∃ log, Reached store cluster i log state ∧
        ((done <+: log ∧ added i log = added i done) ∧ Failed i log)) ?_
        fun _ => meetsOr_pure ?_
      · refine meetsOr_bind ((performs_querySchema environment hopen).imp
          (fun _ _ hresults => hresults) fun _ => False.elim) fun results => ?_
        refine meets_of_exists fun log => meets_of_fact ?_
        rintro ⟨hlog, hlists⟩
        cases results with
        | none =>
            exact meetsOr_bind ((performs_formatRestaurants_none environment hopen).imp
              (fun _ _ => False.elim) fun state hreached => ⟨log, hreached, hlog, hlists⟩)
              fun _ => meetsOr_pure fun _ => False.elim
        | some results =>
            obtain ⟨hcolumns, restaurants, hlines, hrepresents⟩ := hlists
            refine meetsOr_bind ((performs_formatRestaurants environment hopen hcolumns).imp
              (fun _ _ hlines => hlines) ?_) fun lines => meetsOr_pure ?_
            · rintro state ⟨⟨hconsistent, hdone, hadded⟩, hfailed⟩
              exact ⟨state.2, ⟨hconsistent, List.prefix_rfl, rfl⟩,
                ⟨hlog.1.trans hdone, hadded.trans hlog.2⟩, hfailed⟩
            · rintro state ⟨hreached, rfl⟩
              refine ⟨log, hreached, hlog.1, hlog.2, .inl ⟨log, restaurants, hlog.1,
                List.prefix_rfl, hrepresents, ?_⟩⟩
              rw [hlines]
      · rintro state ⟨log, hreached, hlog, hfailed⟩
        exact ⟨log, hreached, hlog.1, hlog.2, .inr ⟨hfailed, rfl⟩⟩

end Replies

section Schedules

variable {ι : Type} [DecidableEq ι]

/-- The log of the events up to the end of a schedule. -/
def history (world : World) (tasks : ι → Task × Environment) (schedule : List ι) : Log ι :=
  (schedule.foldl turn
    ((started world tasks).withAux (fun i => logging (tasks i).2 i) [])).state.2

/-- What the reply to the request of a thread means that has its first step after `before`
and its last one by the end of `during`. An addition takes effect in one of its steps in
between, and a list shows the restaurants at one moment in between, unless a driver call
of the request fails. -/
def Linearized (store : Option String → Option Restaurant) (world : World)
    (tasks : ι → Task × Environment) (i : ι) (before during : List ι)
    (reply : Except Throwable Reply) : Prop :=
  match (tasks i).1 with
  | .setupRestaurantDatabaseTables =>
      added i (history world tasks (before ++ during)) = [] ∧ reply = .ok (.text "200/OK")
  | .addRestaurant restaurant =>
      reply = .ok (.text "200/OK") ∧
        ((∃ part, part ++ [i] <+: during ∧
            history world tasks (before ++ part ++ [i]) =
              history world tasks (before ++ part) ++ [(i, .addition restaurant)]) ∧
            added i (history world tasks (before ++ during)) = [restaurant] ∨
          Failed i (history world tasks (before ++ during)) ∧
            added i (history world tasks (before ++ during)) = [])
  | .getRestaurants =>
      added i (history world tasks (before ++ during)) = [] ∧
        ((∃ part restaurants, part <+: during ∧
            Represents Restaurant.restaurantId
              (storeAfter store (history world tasks (before ++ part))) restaurants ∧
            reply = .ok (.list (restaurants.map render))) ∨
          Failed i (history world tasks (before ++ during)) ∧ reply = .ok (.list []))

def addedBy (task : Task) : Option Restaurant :=
  match task with
  | .addRestaurant restaurant => some restaurant
  | _ => none

section History

variable (world : World) (tasks : ι → Task × Environment)

/-- The log is kept beside the run, which is the same without it. -/
theorem foldl_turn_history (schedule : List ι) :
    schedule.foldl turn ((started world tasks).withAux (fun i => logging (tasks i).2 i) []) =
      (schedule.foldl turn (started world tasks)).withAux (fun i => logging (tasks i).2 i)
        (history world tasks schedule) := by
  obtain ⟨log, hrun⟩ := foldl_turn_withAux (fun i => logging (tasks i).2 i) schedule
    (started world tasks) []
  rw [history, hrun]
  rfl

theorem history_concat (schedule : List ι) (j : ι) :
    ∃ event : Option Event, history world tasks (schedule ++ [j]) =
      history world tasks schedule ++ event.toList.map fun event => (j, event) := by
  obtain ⟨log, hturn, hlog⟩ := turn_withAux (fun i => logging (tasks i).2 i)
    (schedule.foldl turn (started world tasks)) (history world tasks schedule) j
  have hafter : history world tasks (schedule ++ [j]) = log := by
    rw [history, List.foldl_concat, foldl_turn_history, hturn]
    rfl
  rw [hafter]
  rcases hlog with rfl | rfl
  · exact ⟨none, (List.append_nil _).symm⟩
  · exact ⟨_, rfl⟩

theorem history_grows (schedule : List ι) (j : ι) :
    ∃ entry : Option (ι × Event),
      history world tasks (schedule ++ [j]) = history world tasks schedule ++ entry.toList := by
  obtain ⟨event, hevent⟩ := history_concat world tasks schedule j
  refine ⟨event.map fun event => (j, event), hevent.trans ?_⟩
  cases event <;> rfl

theorem prefix_history (schedule more : List ι) :
    history world tasks schedule <+: history world tasks (schedule ++ more) := by
  induction more using List.reverseRecOn with
  | nil => rw [List.append_nil]
  | append_singleton more j ih =>
      obtain ⟨entry, hentry⟩ := history_grows world tasks (schedule ++ more) j
      rw [← List.append_assoc, hentry]
      exact ih.trans (List.prefix_append _ _)

/-- Nothing happens on a thread before its first step. -/
theorem notMem_history {i : ι} {schedule : List ι} (hi : i ∉ schedule) (event : Event) :
    (i, event) ∉ history world tasks schedule := by
  induction schedule using List.reverseRecOn with
  | nil => exact List.not_mem_nil
  | append_singleton schedule j ih =>
      rw [List.mem_append, List.mem_singleton, not_or] at hi
      obtain ⟨happened, hhappened⟩ := history_concat world tasks schedule j
      rw [hhappened, List.mem_append, not_or]
      refine ⟨ih hi.1, ?_⟩
      rw [List.mem_map]
      rintro ⟨_, -, heq⟩
      exact hi.2 (congrArg Prod.fst heq).symm

/-- An event that is new happened in a step of its thread. -/
theorem exists_step_of_event {i : ι} {before during : List ι} {event : Event}
    (hbefore : (i, event) ∉ history world tasks before)
    (hafter : (i, event) ∈ history world tasks (before ++ during)) :
    ∃ part, part ++ [i] <+: during ∧
      history world tasks (before ++ part ++ [i]) =
        history world tasks (before ++ part) ++ [(i, event)] := by
  obtain ⟨part, j, hpart, hstep⟩ :=
    exists_step_of_mem (history_grows world tasks) hbefore hafter
  obtain ⟨happened, hhappened⟩ := history_concat world tasks (before ++ part) j
  have hentry := List.append_cancel_left (hstep.symm.trans hhappened)
  cases happened with
  | none => cases hentry
  | some happened =>
      obtain ⟨rfl, -⟩ := Prod.mk.inj (List.cons.inj hentry).1
      exact ⟨part, hpart, hstep⟩

theorem mem_of_mem_added {i : ι} {log : Log ι} {restaurant : Restaurant}
    (hadded : restaurant ∈ added i log) : (i, Event.addition restaurant) ∈ log := by
  obtain ⟨⟨j, event⟩, hentry, hrestaurant⟩ := List.mem_filterMap.mp hadded
  split at hrestaurant
  case isTrue heq =>
    obtain rfl : j = i := heq
    cases event with
    | addition restaurant' =>
        obtain rfl := Option.some.inj hrestaurant
        exact hentry
    | failure => cases hrestaurant
  case isFalse => cases hrestaurant

theorem added_eq_nil {i : ι} {log : Log ι} (hnone : ∀ event, (i, event) ∉ log) :
    added i log = [] := by
  refine List.eq_nil_iff_forall_not_mem.mpr fun restaurant hadded => ?_
  exact hnone _ (mem_of_mem_added hadded)

end History

variable {world : World} {store : Option String → Option Restaurant} {cluster : Cluster}
  {tasks : ι → Task × Environment}

theorem outlined_started (hstores : Stores store world)
    (hcluster : configuredCluster world.controllerProperties = some cluster)
    (hcomplete : ∀ i, CompleteTask (tasks i).1) :
    Outlined (fun i => Evolves store cluster (· = i)) (fun i => Evolves store cluster (· ≠ i))
      (fun _ _ _ => True)
      ((started world tasks).withAux (fun i => logging (tasks i).2 i) []) := fun i =>
  ⟨Reached store cluster i [], stable_reached, ⟨⟨hcluster, hstores⟩, List.prefix_rfl, rfl⟩,
    Meets.imp (performs_serve (open_configuredCluster hcluster).2 (tasks i).2 (hcomplete i))
      fun _ _ _ => trivial⟩

theorem evolves_compatible (i j : ι) (hne : i ≠ j) (before after : World × Log ι)
    (hevolves : Evolves store cluster (· ≠ i) before after) :
    Evolves store cluster (· = j) before after :=
  ⟨hevolves.consistent, hevolves.log, fun _ hj => hevolves.added _ (hj ▸ hne.symm),
    hevolves.pooled⟩

theorem consistent_history (hstores : Stores store world)
    (hcluster : configuredCluster world.controllerProperties = some cluster)
    (hcomplete : ∀ i, CompleteTask (tasks i).1) (schedule : List ι) :
    Consistent store cluster ((schedule.foldl turn (started world tasks)).state,
      history world tasks schedule) := by
  have hconsistent := invariant_of_outlined (I := Consistent store cluster)
    evolves_compatible (fun _ _ _ hevolves => hevolves.consistent)
    (outlined_started hstores hcluster hcomplete) ⟨hcluster, hstores⟩ schedule
  rwa [foldl_turn_history] at hconsistent

/-- The outline of the thread starts anew where the thread has its first step. -/
theorem explained_of_done (hstores : Stores store world)
    (hcomplete : ∀ i, CompleteTask (tasks i).1) {i : ι} {before during : List ι}
    (hi : i ∉ before) {reply : Except Throwable Reply}
    (hreply : ((before ++ during).foldl turn (started world tasks)).threads i = .done reply) :
    ∃ log, log <+: history world tasks (before ++ during) ∧
      added i (history world tasks (before ++ during)) = added i log ∧
      history world tasks before <+: log ∧
      Explained store i (history world tasks before) (tasks i).1 reply log := by
  obtain ⟨cluster, hcluster⟩ := hstores.configured
  have hbefore := outlined_foldl evolves_compatible
    (outlined_started hstores hcluster hcomplete) before
  have hopen := (open_configuredCluster hcluster).2
  rw [foldl_turn_history] at hbefore
  have hfocus := hbefore.focus (i := i)
    (P := Reached store cluster i (history world tasks before)) stable_reached
    ⟨consistent_history hstores hcluster hcomplete before, List.prefix_rfl, rfl⟩
    (by
      change Meets _ _ _ (((before.foldl turn (started world tasks)).threads i).withAux _) _
      rw [threads_foldl_turn hi]
      exact performs_serve hopen (tasks i).2 (hcomplete i))
  have hafter := returned_of_outlined evolves_compatible hfocus during (i := i) (a := reply) (by
      rw [← foldl_turn_history, ← List.foldl_append, foldl_turn_history]
      exact congrArg (Thread.withAux _) hreply) rfl
  rw [← foldl_turn_history, ← List.foldl_append] at hafter
  cases reply with
  | error e => exact hafter.elim
  | ok reply =>
      obtain ⟨log, ⟨-, hlog, hadded⟩, hdone, hexplained⟩ := hafter
      exact ⟨log, hlog, hadded, hdone, hexplained⟩

theorem linearized_of_done (hstores : Stores store world)
    (hcomplete : ∀ i, CompleteTask (tasks i).1) {i : ι} {before during : List ι}
    (hi : i ∉ before) {reply : Except Throwable Reply}
    (hreply : ((before ++ during).foldl turn (started world tasks)).threads i = .done reply) :
    Linearized store world tasks i before during reply := by
  obtain ⟨log, hlog, hadded, hdone, hexplained⟩ := explained_of_done hstores hcomplete hi hreply
  have hnone : added i (history world tasks before) = [] :=
    added_eq_nil (notMem_history world tasks hi)
  rw [Linearized, hadded]
  generalize (tasks i).1 = task at hexplained ⊢
  cases task with
  | setupRestaurantDatabaseTables => exact ⟨hexplained.1.trans hnone, hexplained.2⟩
  | addRestaurant restaurant =>
      rw [Explained, hnone] at hexplained
      obtain ⟨rfl, hone | ⟨hfailed, hempty⟩⟩ := hexplained
      · refine ⟨rfl, .inl ⟨exists_step_of_event world tasks (notMem_history world tasks hi _) ?_,
          hone⟩⟩
        have hmem : restaurant ∈ added i log := by simp [hone]
        exact hlog.subset (mem_of_mem_added hmem)
      · exact ⟨rfl, .inr ⟨hlog.subset hfailed, hempty⟩⟩
  | getRestaurants =>
      rw [Explained, hnone] at hexplained
      obtain ⟨hempty, ⟨moment, restaurants, hstart, hend, hrepresents, hlist⟩ | hfailed⟩ :=
        hexplained
      · obtain ⟨part, hpart, rfl⟩ :=
          exists_record_eq (history_grows world tasks) hstart (hend.trans hlog)
        exact ⟨hempty, .inl ⟨part, restaurants, hpart, hrepresents, hlist⟩⟩
      · exact ⟨hempty, .inr ⟨hlog.subset hfailed.1, hfailed.2⟩⟩

theorem exists_reply {i : ι} {schedule : List ι} (henough : 14 ≤ schedule.count i) :
    ∃ reply, (schedule.foldl turn (started world tasks)).threads i = .done reply :=
  exists_done schedule ((within_serve (tasks i).2 (tasks i).1).mono henough)

/-- A thread adds nothing but what its request adds, and at most once. -/
theorem sublist_added (hstores : Stores store world) (hcomplete : ∀ i, CompleteTask (tasks i).1)
    (schedule : List ι) (i : ι) :
    (added i (history world tasks schedule)).Sublist (addedBy (tasks i).1).toList := by
  -- The thread would answer its request if it went on alone.
  have henough : 14 ≤ (schedule ++ List.replicate 14 i).count i := by
    rw [List.count_append, List.count_replicate_self]
    exact Nat.le_add_left _ _
  obtain ⟨reply, hreply⟩ : ∃ reply, ((schedule ++ List.replicate 14 i).foldl turn
      (started world tasks)).threads i = .done reply := exists_reply henough
  have hlinearized : Linearized store world tasks i [] (schedule ++ List.replicate 14 i) reply :=
    linearized_of_done hstores hcomplete List.not_mem_nil hreply
  have hwhole := prefix_added i
    (prefix_history world tasks schedule (List.replicate 14 i))
  refine hwhole.sublist.trans ?_
  rw [Linearized, List.nil_append] at hlinearized
  generalize (tasks i).1 = task at hlinearized ⊢
  cases task with
  | setupRestaurantDatabaseTables =>
      rw [hlinearized.1]
      exact .refl _
  | addRestaurant restaurant =>
      obtain ⟨-, ⟨-, hone⟩ | ⟨-, hempty⟩⟩ := hlinearized
      · rw [hone]
        exact .refl _
      · rw [hempty]
        exact List.nil_sublist _
  | getRestaurants =>
      rw [hlinearized.1]
      exact .refl _

/-- Requests on any number of threads, under any schedule and with any failing driver
calls. The stored restaurants are always those of one log that grows with the steps, and a
thread adds nothing but what its request adds, at most once. Wherever a request begins, it
is answered when its thread has been given enough steps, and its addition or its list has a
place of its own in the log between its first step and its answer. -/
theorem parallel_requests_linearized (hstores : Stores store world)
    (hcomplete : ∀ i, CompleteTask (tasks i).1) :
    (∀ schedule,
      Stores (storeAfter store (history world tasks schedule))
        (schedule.foldl turn (started world tasks)).state ∧
      (∀ more, history world tasks schedule <+: history world tasks (schedule ++ more)) ∧
      ∀ i, (added i (history world tasks schedule)).Sublist (addedBy (tasks i).1).toList) ∧
    ∀ i before during, i ∉ before →
      (∀ event, (i, event) ∉ history world tasks before) ∧
      (14 ≤ during.count i →
        ∃ reply, ((before ++ during).foldl turn (started world tasks)).threads i = .done reply) ∧
      ∀ reply, ((before ++ during).foldl turn (started world tasks)).threads i = .done reply →
        Linearized store world tasks i before during reply := by
  obtain ⟨cluster, hcluster⟩ := hstores.configured
  refine ⟨fun schedule => ⟨(consistent_history hstores hcluster hcomplete schedule).2,
    prefix_history world tasks schedule, sublist_added hstores hcomplete schedule⟩,
    fun i before during hi => ⟨?_, ?_, ?_⟩⟩
  · exact notMem_history world tasks hi
  · intro henough
    refine exists_reply (henough.trans ?_)
    rw [List.count_append]
    exact Nat.le_add_left _ _
  · exact fun reply hreply => linearized_of_done hstores hcomplete hi hreply

end Schedules

/-- One thread adds a restaurant, and another one lists the restaurants. -/
def additionAndList : Bool → Task × Environment
  | false => (.addRestaurant ⟨some "1", some "thai", some "20"⟩, surroundings false .unreadable)
  | true => (.getRestaurants, surroundings false .unreadable)

/-- The list begins when the addition is acknowledged. -/
theorem parallel_requests_linearized_additionAndList :
    ∃ reply,
      ((List.replicate 14 false ++ List.replicate 14 true).foldl turn
        (started (initialWorld emptyNetwork localProperties) additionAndList)).threads true =
          .done reply ∧
      Linearized (fun _ => none) (initialWorld emptyNetwork localProperties) additionAndList true
        (List.replicate 14 false) (List.replicate 14 true) reply := by
  have hstores : Stores (fun _ => none) (initialWorld emptyNetwork localProperties) :=
    ⟨emptyStore_emptyNetwork.1, [], emptyStore_emptyNetwork.2, represents_nil _, by simp⟩
  have hcomplete : ∀ i, CompleteTask (additionAndList i).1 := by
    simp [additionAndList, CompleteTask, Complete]
  obtain ⟨-, hrequests⟩ := parallel_requests_linearized hstores hcomplete
  obtain ⟨-, hanswered, hlinearized⟩ :=
    hrequests true (List.replicate 14 false) (List.replicate 14 true) (by simp)
  obtain ⟨reply, hreply⟩ := hanswered (by simp)
  exact ⟨reply, hreply, hlinearized reply hreply⟩

end RestaurantServer.ParallelRequests
