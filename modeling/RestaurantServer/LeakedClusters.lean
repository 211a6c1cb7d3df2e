import RestaurantServer.ConfigurationRuns

/-!
The open clusters counted over a whole run. Besides the one in the field they are
those that were replaced while they were open. A machine that keeps only the
configuration and a number bounds them in every run, and counts them exactly where no
driver call fails.
-/

namespace RestaurantServer.LeakedClusters

open RestaurantServer.CassandraDatabase
open RestaurantServer.SessionUtil
open RestaurantServer.SessionCalls
open RestaurantServer.RestaurantController
open RestaurantServer.OpenClusters
open RestaurantServer.ConfigurationRuns

/-- The clusters that the constructor opens, unless a driver call fails. -/
def opensFirst (properties : Singleton) : Nat :=
  if (configuredCluster properties).isSome then 1 + properties.cassandraPort.isSome.toNat
  else 0

/-- The clusters that a request opens, unless a driver call fails. -/
def opens (properties : Singleton) (request : Request × Environment) : Nat :=
  match request.1 with
  | .testarguments s =>
      match requested request.2 s with
      | .error _ => 0
      | .ok properties =>
          if (clusterFor s.cassandraIpAddress properties).isSome then
            1 + (configuredCluster properties).isSome.toNat
          else 0
  | .setupRestaurantDatabaseTables => (configuredCluster properties).isSome.toNat
  | .addRestaurant _ => (configuredCluster properties).isSome.toNat
  | .getRestaurants => 2 * (configuredCluster properties).isSome.toNat
  | .localarguments => 0
  | .reportarguments => 0

/-- The configuration, with the number of clusters opened so far. -/
def count (counted : Singleton × Nat) (request : Request × Environment) : Singleton × Nat :=
  (configure counted.1 request, counted.2 + opens counted.1 request)

section Pooling

variable {environment : Environment} (properties : Singleton) (ipAddress : Option String)

theorem pools_le (number : Nat) :
    (pools environment properties ipAddress number).toNat ≤
      (clusterFor ipAddress properties).isSome.toNat := by
  rw [pools]
  cases (clusterFor ipAddress properties).isSome with
  | false => exact Nat.le_refl 0
  | true => exact Bool.toNat_le _

theorem pools_eq (hfails : ∀ n, environment.fails n = false) (number : Nat) :
    pools environment properties ipAddress number =
      (clusterFor ipAddress properties).isSome := by
  rw [pools, hfails]
  exact Bool.and_true _

/-- A first cluster, and further ones only if that is built. -/
theorem pooling_first_le {further further' : Nat} (hfurther : further ≤ further')
    (number : Nat) :
    (if pools environment properties ipAddress number then 1 + further else 0) ≤
      if (clusterFor ipAddress properties).isSome then 1 + further' else 0 := by
  by_cases hpools : pools environment properties ipAddress number
  · have hsome : (clusterFor ipAddress properties).isSome = true :=
      (Bool.and_eq_true_iff.mp hpools).1
    rw [if_pos hpools, if_pos hsome]
    exact Nat.add_le_add_left hfurther 1
  · rw [if_neg hpools]
    exact Nat.zero_le _

end Pooling

section Operations

variable (world : World) (environment : Environment)

theorem configuredPools_eq {environment : Environment}
    (hfails : ∀ n, environment.fails n = false) (number : Nat) :
    configuredPools environment world number =
      (configuredCluster world.controllerProperties).isSome :=
  pools_eq _ _ hfails number

theorem builds_construct_le :
    builds world (.construct, environment) ≤ opensFirst world.controllerProperties := by
  refine pooling_first_le _ _ ?_ 0
  cases world.controllerProperties.cassandraPort with
  | none => exact Nat.le_refl 0
  | some port => exact Bool.toNat_le _

theorem builds_construct_eq (hfails : ∀ n, environment.fails n = false) :
    builds world (.construct, environment) = opensFirst world.controllerProperties := by
  simp only [builds, opensFirst, configuredPools_eq world hfails]
  cases (configuredCluster world.controllerProperties).isSome with
  | false => rfl
  | true => cases world.controllerProperties.cassandraPort <;> rfl

theorem builds_serve_le (request : Request) :
    builds world (.serve request, environment) ≤
      opens world.controllerProperties (request, environment) := by
  cases request with
  | localarguments => exact Nat.le_refl 0
  | testarguments s =>
      simp only [builds, opens]
      cases requested environment s with
      | error e => exact Nat.le_refl 0
      | ok properties => exact pooling_first_le _ _ (pools_le _ _ 1) 0
  | reportarguments => exact Nat.le_refl 0
  | setupRestaurantDatabaseTables => exact pools_le _ _ 0
  | addRestaurant restaurant => exact pools_le _ _ 0
  | getRestaurants =>
      change _ + _ ≤ 2 * _
      rw [Nat.two_mul]
      exact Nat.add_le_add (pools_le _ _ 0) (pools_le _ _ _)

theorem builds_serve_eq (hfails : ∀ n, environment.fails n = false) (request : Request) :
    builds world (.serve request, environment) =
      opens world.controllerProperties (request, environment) := by
  cases request with
  | localarguments => rfl
  | testarguments s =>
      simp only [builds, opens, pools_eq _ _ hfails]
      rfl
  | reportarguments => rfl
  | setupRestaurantDatabaseTables =>
      exact congrArg Bool.toNat (configuredPools_eq world hfails 0)
  | addRestaurant restaurant =>
      exact congrArg Bool.toNat (configuredPools_eq world hfails 0)
  | getRestaurants => simp only [builds, opens, configuredPools_eq world hfails, Nat.two_mul]

end Operations

section Runs

variable (network : String → Database) (properties : Singleton) (environment : Environment)

theorem built_constructed :
    Built environment (builds (initialWorld network properties) (.construct, environment))
      (replaces (initialWorld network properties) (.construct, environment))
      (initialWorld network properties) (constructed network properties environment) :=
  built_constructController environment (initialWorld network properties) rfl

/-- How many of the clusters that were replaced in a run were open. -/
def replacements : World → List (Request × Environment) → Nat
  | _, [] => 0
  | world, request :: requests =>
      replaces world (.serve request.1, request.2) +
        replacements (handle world request) requests

/-- Besides the cluster in the field `leaked` clusters are open. -/
def Leaks (leaked : Nat) (world : World) : Prop :=
  world.openClusters = held world + leaked

theorem Leaks.built {leaked built replaced : Nat} {environment : Environment}
    {world world' : World} (hleaks : Leaks leaked world)
    (hbuilt : Built environment built replaced world world') :
    Leaks (leaked + replaced) world' := by
  rw [Leaks] at hleaks ⊢
  have hbalance := hbuilt.balance (by omega)
  omega

theorem Leaks.foldl {leaked : Nat} {world : World} (hleaks : Leaks leaked world)
    (requests : List (Request × Environment)) :
    Leaks (leaked + replacements world requests) (requests.foldl handle world) := by
  induction requests generalizing leaked world with
  | nil => exact hleaks
  | cons request requests ih =>
      have hrequest : Leaks leaked (World.newRequest world) := hleaks
      have hafter := ih (hrequest.built (built_handle request.2 world request.1))
      rw [Nat.add_assoc] at hafter
      exact hafter

theorem leaks_constructed :
    Leaks (replaces (initialWorld network properties) (.construct, environment))
      (constructed network properties environment) := by
  have hinitial : Leaks 0 (initialWorld network properties) := rfl
  have hconstructed := hinitial.built (built_constructed network properties environment)
  rwa [Nat.zero_add] at hconstructed

/-- No driver call fails, from the constructor on. -/
def Quiet (requests : List (Request × Environment)) : Prop :=
  (∀ n, environment.fails n = false) ∧ ∀ request ∈ requests, ∀ n, request.2.fails n = false

/-- The counting machine is in the configuration of the world, and has counted at least
the open clusters. -/
structure Counted (quiet : Prop) (world : World) (counted : Singleton × Nat) : Prop where
  configuration : world.controllerProperties = counted.1
  bound : world.openClusters ≤ counted.2
  exact_of_quiet : quiet → world.openClusters = counted.2

theorem counted_constructed (requests : List (Request × Environment)) :
    Counted (Quiet environment requests) (constructed network properties environment)
      (properties, opensFirst properties) where
  configuration := (configured_constructed network properties environment).1
  bound := by
    have hbuilt := (built_constructed network properties environment).openClusters_le
    have hbuilds := builds_construct_le (initialWorld network properties) environment
    exact (hbuilt.trans_eq (Nat.zero_add _)).trans hbuilds
  exact_of_quiet := by
    intro hquiet
    have hbuilt := (built_constructed network properties environment).openClusters_eq hquiet.1
    have hbuilds := builds_construct_eq (initialWorld network properties) environment hquiet.1
    exact (hbuilt.trans (Nat.zero_add _)).trans hbuilds

theorem Counted.handle {quiet : Prop} {world : World} {counted : Singleton × Nat}
    (hcounted : Counted quiet world counted) {request : Request × Environment}
    (hrequest : quiet → ∀ n, request.2.fails n = false) :
    Counted quiet (RestaurantController.handle world request) (count counted request) where
  configuration := by
    rw [(configured_handle world request).1, hcounted.configuration]
    rfl
  bound := by
    have hbuilt : _ ≤ world.openClusters + _ :=
      (built_handle request.2 world request.1).openClusters_le
    have hbuilds := builds_serve_le world request.2 request.1
    rw [count, ← hcounted.configuration]
    exact hbuilt.trans (Nat.add_le_add hcounted.bound hbuilds)
  exact_of_quiet := by
    intro hquiet
    have hbuilt : _ = world.openClusters + _ :=
      (built_handle request.2 world request.1).openClusters_eq (hrequest hquiet)
    have hbuilds := builds_serve_eq world request.2 (hrequest hquiet) request.1
    rw [count, ← hcounted.configuration, ← hcounted.exact_of_quiet hquiet, ← hbuilds]
    exact hbuilt

theorem counted_foldl (requests : List (Request × Environment)) :
    Counted (Quiet environment requests)
      (requests.foldl handle (constructed network properties environment))
      (requests.foldl count (properties, opensFirst properties)) := by
  refine List.foldl_rel (counted_constructed network properties environment requests) ?_
  intro request hrequest world counted hcounted
  exact hcounted.handle fun hquiet => hquiet.2 request hrequest

/-- Over any run of the server the open clusters are the one in the field, if that is
open, and those that were replaced while they were open, of which there never get fewer.
The open clusters are never more than the counting machine has counted, and exactly as many
if no driver call fails. -/
theorem open_clusters_counted (requests : List (Request × Environment)) :
    (∀ done rest, requests = done ++ rest →
      ∃ leaked, Leaks leaked (done.foldl handle (constructed network properties environment)) ∧
        Leaks
          (leaked +
            replacements (done.foldl handle (constructed network properties environment)) rest)
          (requests.foldl handle (constructed network properties environment))) ∧
      (requests.foldl handle (constructed network properties environment)).openClusters ≤
        (requests.foldl count (properties, opensFirst properties)).2 ∧
      (Quiet environment requests →
        (requests.foldl handle (constructed network properties environment)).openClusters =
          (requests.foldl count (properties, opensFirst properties)).2) := by
  have hcounted := counted_foldl network properties environment requests
  refine ⟨?_, hcounted.bound, hcounted.exact_of_quiet⟩
  rintro done rest rfl
  have hdone := (leaks_constructed network properties environment).foldl done
  refine ⟨_, hdone, ?_⟩
  rw [List.foldl_append]
  exact hdone.foldl rest

end Runs

end RestaurantServer.LeakedClusters
