import RestaurantServer.ConfiguredDatabase
import RestaurantServer.SessionInvariants
import RestaurantServer.SpringBootWebApplication

/-!
The configuration over a whole run, from the arguments of `main` on. It is a machine
of its own: a request changes it as the request and the properties file say, whatever
the driver and the database do, and statements are sent under the configuration that
this machine is in.
-/

namespace RestaurantServer.ConfigurationRuns

open RestaurantServer.JavaStrings
open RestaurantServer.MethodTriples
open RestaurantServer.RequestRuns
open RestaurantServer.CassandraDatabase
open RestaurantServer.SessionUtil
open RestaurantServer.SessionCalls
open RestaurantServer.RestaurantController
open RestaurantServer.ConfiguredDatabase
open RestaurantServer.OpenClusters
open RestaurantServer.SessionInvariants
open RestaurantServer.SpringBootWebApplication

/-- The configuration after a request. A properties file without one of the
properties, or a malformed one, leaves it as it was. -/
def configure (properties : Singleton) (request : Request × Environment) : Singleton :=
  match request.1 with
  | .localarguments =>
      { properties with cassandraIpAddress := some "127.0.0.1", cassandraPort := some "9042" }
  | .testarguments s =>
      match requested request.2 s with
      | .ok requested => requested
      | .error _ => properties
  | _ => properties

/-- The requests that are answered with the configuration. -/
def Reports : Request → Prop
  | .localarguments => True
  | .testarguments _ => True
  | .reportarguments => True
  | _ => False

/-- The configuration, and that every statement after `before` was sent under it. -/
def Configured (properties : Singleton) (before : List Sent) (world : World) : Prop :=
  world.controllerProperties = properties ∧
    ∃ later, world.sent = before ++ later ∧
      ∀ sent ∈ later, sent.controllerProperties = properties

section Requests

variable (environment : Environment) {properties : Singleton} {before : List Sent}

theorem configured_closed :
    Closed environment (fun _ => True) (Configured properties before) := by
  have hsent {world : World} (hworld : Configured properties before world) (cluster : Cluster)
      (statement : Statement) (database : Option Database) :
      Configured properties before (afterStatement world cluster statement database) := by
    obtain ⟨hproperties, later, hlater, hall⟩ := hworld
    refine ⟨hproperties, later ++
      [⟨statement, cluster, world.controllerProperties, database.isSome⟩], ?_, ?_⟩
    · rw [← List.append_assoc, ← hlater]
      rfl
    · intro sent hsent
      rcases List.mem_append.mp hsent with hold | hnew
      · exact hall sent hold
      · obtain rfl := List.mem_singleton.mp hnew
        exact hproperties
  exact
    { called := fun _ hworld => hworld
      pooled := fun _ _ hworld => hworld
      initialised := fun _ hworld => hworld
      closed := fun _ _ _ hworld => hworld
      refused := fun _ cluster statement _ hworld => hsent hworld cluster statement none
      executed := fun _ cluster statement database _ _ _ hworld =>
        hsent hworld cluster statement (some database) }

theorem configured_of_sent {world : World} (hproperties : world.controllerProperties = properties)
    (hsent : world.sent = before) : Configured properties before world :=
  ⟨hproperties, [], hsent.trans (List.append_nil _).symm, by simp⟩

theorem configured_attempted (s : Singleton) {world : World} (hbefore : world.sent = before) :
    Configured (configure world.controllerProperties (.testarguments s, environment)) before
      (attempted environment s world) := by
  have hclosed {properties : Singleton} : Closed environment _ (Configured properties before) :=
    configured_closed environment
  simp only [configure, attempted]
  rcases requested environment s with e | properties
  · exact configured_of_sent rfl hbefore
  · refine Maintains.after ((hclosed.setupPooling _).bind fun _ =>
      hclosed.schemaAndTable trivial trivial trivial) ?_
    exact configured_of_sent rfl hbefore

/-- A request moves the configuration as its machine says, and sends its statements
under the configuration that it moves to. -/
theorem configured_handle (world : World) (request : Request × Environment) :
    Configured (configure world.controllerProperties request) world.sent
      (handle world request) := by
  obtain ⟨request, environment⟩ := request
  have hclosed : Closed environment _ (Configured world.controllerProperties world.sent) :=
    configured_closed environment
  have hnew : Configured world.controllerProperties world.sent (World.newRequest world) :=
    configured_of_sent rfl rfl
  cases request with
  | localarguments => exact configured_of_sent rfl rfl
  | testarguments s =>
      have hcall : handle world (.testarguments s, environment) =
          attempted environment s (World.newRequest world) :=
        congrArg Prod.snd (call_testarguments environment s (World.newRequest world))
      rw [hcall]
      exact configured_attempted environment s rfl
  | reportarguments => exact hnew
  | setupRestaurantDatabaseTables => exact (hclosed.setupTables fun _ _ => trivial).after hnew
  | addRestaurant restaurant => exact (hclosed.addRestaurant trivial).after hnew
  | getRestaurants => exact (hclosed.listRestaurants trivial).after hnew

theorem answer_of_reports {world : World} {request : Request × Environment}
    (hreports : Reports request.1) :
    answer world request =
      .ok (.text (reportedArguments (handle world request).controllerProperties)) := by
  obtain ⟨request, environment⟩ := request
  cases request with
  | localarguments => rfl
  | testarguments s =>
      have hcall := call_testarguments environment s (World.newRequest world)
      rw [answer, serve, hcall, handle, serve, hcall]
  | reportarguments => rfl
  | setupRestaurantDatabaseTables => exact hreports.elim
  | addRestaurant restaurant => exact hreports.elim
  | getRestaurants => exact hreports.elim

end Requests

section Runs

variable (network : String → Database) (properties : Singleton) (environment : Environment)

theorem configured_constructed :
    Configured properties [] (constructed network properties environment) := by
  have hclosed : Closed environment _ (Configured properties []) := configured_closed environment
  refine (hclosed.constructController ?_).after (configured_of_sent rfl rfl)
  exact hclosed.schemaAndTable trivial trivial trivial

theorem controllerProperties_foldl (requests : List (Request × Environment)) (world : World) :
    (requests.foldl handle world).controllerProperties =
      requests.foldl configure world.controllerProperties := by
  induction requests generalizing world with
  | nil => rfl
  | cons request requests ih =>
      rw [List.foldl_cons, List.foldl_cons, ih, (configured_handle world request).1]

/-- Over any run the configuration is that of the small machine, whatever the driver
and the database do, and each request that reports it reports exactly this. -/
theorem reports_follow_configuration (requests : List (Request × Environment))
    (request : Request × Environment) (hreports : Reports request.1) :
    (requests.foldl handle (constructed network properties environment)).controllerProperties =
        requests.foldl configure properties ∧
      answer (requests.foldl handle (constructed network properties environment)) request =
        .ok (.text (reportedArguments (configure (requests.foldl configure properties)
          request))) := by
  have hrun := controllerProperties_foldl requests (constructed network properties environment)
  rw [(configured_constructed network properties environment).1] at hrun
  refine ⟨hrun, ?_⟩
  rw [answer_of_reports hreports, (configured_handle _ request).1, hrun]

/-- The file has no address, so the second request changes nothing. -/
def incompleteFile : List (Request × Environment) :=
  [(.localarguments, surroundings true .unreadable),
    (.testarguments ⟨some "10.0.0.7", some "9043", none, none⟩,
      surroundings true (.loaded (some "9042") none))]

theorem reports_follow_configuration_incompleteFile :
    answer (incompleteFile.foldl handle
        (constructed (fun _ _ => none) initialProperties (surroundings false .unreadable)))
      (.reportarguments, surroundings true .unreadable) = .ok (.text "127.0.0.1:9042\n") := by
  rw [(reports_follow_configuration (fun _ _ => none) initialProperties
    (surroundings false .unreadable) incompleteFile
    (.reportarguments, surroundings true .unreadable) trivial).2]
  decide +kernel

theorem statementsConfigured_foldl (requests : List (Request × Environment)) :
    StatementsConfigured (requests.foldl handle (constructed network properties environment)) :=
  invariant_foldl (statementsConfigured_constructed network properties environment)
    (fun _ request hworld => statementsConfigured_handle hworld request) requests

theorem sent_by_constructor :
    ∀ sent ∈ (constructed network properties environment).sent,
      BuiltFrom properties sent.cluster := by
  obtain ⟨-, later, hlater, hall⟩ := configured_constructed network properties environment
  intro sent hsent
  have hbuilt := statementsConfigured_constructed network properties environment sent hsent
  rw [hlater] at hsent
  rwa [hall sent hsent] at hbuilt

/-- The statements that a request adds go through a cluster for the configuration that
the request moves to. -/
theorem sent_by_request (requests : List (Request × Environment))
    (request : Request × Environment) :
    ∃ later,
      ((requests ++ [request]).foldl handle (constructed network properties environment)).sent =
        (requests.foldl handle (constructed network properties environment)).sent ++ later ∧
      ∀ sent ∈ later,
        BuiltFrom ((requests ++ [request]).foldl configure properties) sent.cluster := by
  have hstart := (configured_constructed network properties environment).1
  obtain ⟨-, later, hlater, hall⟩ := configured_handle
    (requests.foldl handle (constructed network properties environment)) request
  refine ⟨later, by rw [List.foldl_concat, hlater], fun sent hsent => ?_⟩
  have hbuilt := statementsConfigured_foldl network properties environment
    (requests ++ [request]) sent (by
      rw [List.foldl_concat, hlater]
      exact List.mem_append_right _ hsent)
  rw [List.foldl_concat]
  rwa [hall sent hsent, controllerProperties_foldl, hstart] at hbuilt

theorem sent_to_configured (requests : List (Request × Environment)) :
    ∀ sent ∈ (requests.foldl handle (constructed network properties environment)).sent,
      ∃ done, done <+: requests ∧ BuiltFrom (done.foldl configure properties) sent.cluster := by
  induction requests using List.reverseRecOn with
  | nil =>
      intro sent hsent
      exact ⟨[], List.prefix_rfl, sent_by_constructor network properties environment sent hsent⟩
  | append_singleton requests request ih =>
      obtain ⟨later, hlater, hbuilt⟩ :=
        sent_by_request network properties environment requests request
      intro sent hsent
      rw [hlater] at hsent
      rcases List.mem_append.mp hsent with hold | hnew
      · obtain ⟨done, hdone, hbefore⟩ := ih sent hold
        exact ⟨done, hdone.trans (List.prefix_append _ _), hbefore⟩
      · exact ⟨requests ++ [request], List.prefix_rfl, hbuilt sent hnew⟩

end Runs

/-- The configuration that documented arguments ask for. -/
def argumentValues (arguments : List Argument) : Singleton :=
  ⟨some (lastValue .cassandraIp arguments), some (lastValue .cassandraPort arguments),
    some (lastValue .login arguments), some (lastValue .password arguments)⟩

theorem readArguments_eq {arguments : List Argument} (hapart : NamesApart arguments) :
    readArguments (arguments.map Argument.text) = argumentValues arguments := by
  have hget := get_readArguments hapart
  rcases hread : readArguments (arguments.map Argument.text) with ⟨ip, port, login, password⟩
  rw [hread] at hget
  have hip : ip = _ := hget .cassandraIp
  have hport : port = _ := hget .cassandraPort
  have hlogin : login = _ := hget .login
  have hpassword : password = _ := hget .password
  rw [argumentValues, hip, hport, hlogin, hpassword]

def Reconfigures : Request → Prop
  | .localarguments => True
  | .testarguments _ => True
  | _ => False

theorem foldl_configure_eq {requests : List (Request × Environment)}
    (hkept : ∀ request ∈ requests, ¬ Reconfigures request.1) (properties : Singleton) :
    requests.foldl configure properties = properties := by
  induction requests with
  | nil => rfl
  | cons request requests ih =>
      have hrequest : configure properties request = properties := by
        have hnot := hkept request (by simp)
        obtain ⟨request, environment⟩ := request
        cases request with
        | localarguments => exact absurd trivial hnot
        | testarguments s => exact absurd trivial hnot
        | reportarguments => rfl
        | setupRestaurantDatabaseTables => rfl
        | addRestaurant restaurant => rfl
        | getRestaurants => rfl
      rw [List.foldl_cons, hrequest, ih fun other hother => hkept other (by simp [hother])]

/-- The server started with the arguments. -/
def launched (network : String → Database) (arguments : List Argument)
    (environment : Environment) : World :=
  constructed network (readArguments (arguments.map Argument.text)) environment

/-- Started with documented arguments, the server sends the statements of the constructor
through a cluster for the configuration that the arguments ask for, and those of each
request through one for the configuration that the requests up to this one lead to. Until
a request reconfigures it, that is the address, the login and the password of the last
arguments for them. -/
theorem statements_follow_arguments (network : String → Database) (arguments : List Argument)
    (hapart : NamesApart arguments) (environment : Environment) :
    (∀ sent ∈ (launched network arguments environment).sent,
      BuiltFrom (argumentValues arguments) sent.cluster) ∧
    ∀ requests,
      (∀ request, ∃ later,
        ((requests ++ [request]).foldl handle (launched network arguments environment)).sent =
          (requests.foldl handle (launched network arguments environment)).sent ++ later ∧
        ∀ sent ∈ later,
          BuiltFrom ((requests ++ [request]).foldl configure (argumentValues arguments))
            sent.cluster) ∧
      ((∀ request ∈ requests, ¬ Reconfigures request.1) →
        ∀ sent ∈ (requests.foldl handle (launched network arguments environment)).sent,
          sent.cluster.address = lastValue .cassandraIp arguments ∧
          sent.cluster.login = trim (lastValue .login arguments) ∧
          sent.cluster.password = trim (lastValue .password arguments)) := by
  rw [launched, readArguments_eq hapart]
  refine ⟨sent_by_constructor network _ environment, fun requests => ⟨fun request =>
    sent_by_request network _ environment requests request, fun hkept sent hsent => ?_⟩⟩
  obtain ⟨done, hdone, hbuilt⟩ :=
    sent_to_configured network (argumentValues arguments) environment requests sent hsent
  rw [foldl_configure_eq fun request hrequest => hkept request (hdone.subset hrequest)] at hbuilt
  obtain ⟨haddress, hlogin, hpassword⟩ := hbuilt
  exact ⟨(Option.some.inj haddress).symm, (Option.some.inj hlogin).symm,
    (Option.some.inj hpassword).symm⟩

/-- The address is given twice, and the password with blanks around it. -/
def startArguments : List Argument :=
  [⟨.cassandraIp, "10.0.0.1"⟩, ⟨.login, "cassandra"⟩, ⟨.password, " secret=1 "⟩,
    ⟨.cassandraIp, "10.0.0.2"⟩]

theorem namesApart_startArguments : NamesApart startArguments := by
  have hall : ∀ argument ∈ startArguments, ∀ setting ∈ [Setting.cassandraIp, .cassandraPort,
      .login, .password], setting ≠ argument.setting →
        contains argument.value setting.name = false := by
    decide +kernel
  intro argument hargument setting
  exact hall argument hargument setting (by cases setting <;> simp)

theorem statements_follow_arguments_startArguments :
    ∃ sent ∈ (launched (fun _ _ => none) startArguments (surroundings false .unreadable)).sent,
      sent.cluster.address = "10.0.0.2" ∧ sent.cluster.password = "secret=1" := by
  have hsent : (⟨.createKeyspace "accounts", ⟨"10.0.0.2", "cassandra", "secret=1", false⟩,
      argumentValues startArguments, true⟩ : Sent) ∈
      (launched (fun _ _ => none) startArguments (surroundings false .unreadable)).sent := by
    decide +kernel
  obtain ⟨-, hrequests⟩ := statements_follow_arguments (fun _ _ => none) startArguments
    namesApart_startArguments (surroundings false .unreadable)
  obtain ⟨haddress, -, hpassword⟩ := (hrequests []).2 (by simp) _ hsent
  refine ⟨_, hsent, haddress.trans ?_, hpassword.trans ?_⟩
  · decide +kernel
  · decide +kernel

end RestaurantServer.ConfigurationRuns
