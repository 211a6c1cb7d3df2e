import RestaurantServer.ProductStore

/-!
The list of products over the life of the application. Each time its context is
refreshed the application saves two products of its own, beside those of the requests.
-/

namespace RestaurantServer.ProductCatalogue

open RestaurantServer.JavaExceptions
open RestaurantServer.ThrowingMethods
open RestaurantServer.RequestRuns
open RestaurantServer.OptimisticLocking
open RestaurantServer.ProductController
open RestaurantServer.ProductStore

section Bootstrap

def guruShirt : Product :=
  ⟨none, none, some "235268845711068308", some "Spring Framework Guru Shirt",
    some ("https://springframework.guru/wp-content/uploads/2015/04/" ++
      "spring_framework_guru_shirt-rf412049699c14ba5b68bb1c09182bfa2_8nax2_512.jpg"),
    some ⟨1895, 2⟩⟩

def guruMug : Product :=
  ⟨none, none, some "168639393495335947", some "Spring Framework Guru Mug",
    some ("https://springframework.guru/wp-content/uploads/2015/04/" ++
      "spring_framework_guru_coffee_mug-r11e7694903c348e1a667dfd2f1474d95_x7j54_8byvr_512.jpg"),
    some ⟨1195, 2⟩⟩

variable (provider : PersistenceProvider)

def loadProducts : Method Throwable Store Unit := do
  let _ ← ProductRepository.save provider ⟨guruShirt, false⟩
  let _ ← ProductRepository.save provider ⟨guruMug, false⟩

inductive Event where
  | contextRefreshed
  | request (request : Request)

def Event.body : Event → Method Throwable Store Unit
  | .contextRefreshed => loadProducts provider
  | .request handled => do
      let _ ← serve provider handled

def happen (store : Store) (event : Event) : Store :=
  (call (event.body provider) store).2

/-- The products that the list has in a state of the store, in whatever order. -/
def listed (store : Store) : List Product :=
  store.used.filterMap fun id => (store.rows id).map (stored id)

end Bootstrap

section Listing

theorem map_id_listed (store : Store) : (listed store).map Product.id = store.live.map some := by
  rw [listed, Table.live]
  induction store.used with
  | nil => rfl
  | cons id ids ih =>
      cases hrow : store.rows id with
      | none =>
          rw [List.filterMap_cons_none (by rw [hrow]; rfl),
            List.filter_cons_of_neg (by simp [hrow]), ih]
      | some row =>
          rw [List.filterMap_cons_some (b := stored id row) (by rw [hrow]; rfl),
            List.filter_cons_of_pos (by simp [hrow]), List.map_cons, List.map_cons, ih]
          rfl

theorem mem_listed {store : Store} {product : Product} :
    product ∈ listed store ↔ ∃ id, (store.rows id).map (stored id) = some product := by
  rw [listed, List.mem_filterMap]
  constructor
  · rintro ⟨id, -, hproduct⟩
    exact ⟨id, hproduct⟩
  · rintro ⟨id, hproduct⟩
    obtain ⟨row, hrow, -⟩ := Option.map_eq_some_iff.mp hproduct
    exact ⟨id, Table.mem_used_of_some hrow, hproduct⟩

theorem listed_put_fresh {store : Store} {id : Int} (hfresh : id ∉ store.used)
    (row : Versioned Columns) : listed (store.put id row) = listed store ++ [stored id row] := by
  have hused : (store.put id row).used = store.used ++ [id] := if_neg hfresh
  have hold : (store.used.filterMap fun j => ((store.put id row).rows j).map (stored j)) =
      listed store := by
    refine List.filterMap_congr fun j hj => ?_
    rw [Table.rows_put_of_ne store row]
    rintro rfl
    exact hfresh hj
  rw [listed, hused, List.filterMap_append, hold]
  simp

end Listing

section Growth

variable (provider : PersistenceProvider)

theorem grown_save (store : Store) (entity : Entity) :
    Grown store (call (ProductRepository.save provider entity) store).2 := by
  have hsaves := saves_save provider store entity
  generalize call (ProductRepository.save provider entity) store = outcome at hsaves ⊢
  cases hsaves with
  | refused => exact .refl store
  | inserted _ _ hfresh => exact grown_put_fresh hfresh _
  | merged _ hrow => exact grown_put_newer hrow (Int.lt_succ _)

theorem grown_serve (store : Store) (request : Request) :
    Grown store (call (serve provider request) store).2 := by
  cases request with
  | list => exact .refl store
  | showProduct id => exact .refl store
  | add body =>
      have hsave : (call (saveProduct provider body) store).2 =
          (call (ProductRepository.save provider ⟨body, false⟩) store).2 :=
        state_bind_pure _ _ _
      rw [serve, hsave]
      exact grown_save provider store ⟨body, false⟩
  | update id body =>
      rw [serve]
      cases hrow : store.rows id with
      | none =>
          rw [call_updateProduct_none hrow]
          exact .refl store
      | some row =>
          rw [call_updateProduct_stored hrow]
          exact grown_put_newer hrow (Int.lt_succ _)
  | delete id =>
      rw [serve]
      cases hrow : store.rows id with
      | none =>
          rw [call_delete_none hrow]
          exact .refl store
      | some row =>
          rw [call_delete_some hrow]
          exact grown_remove store id

/-- A product without id and version is stored under a new id. -/
theorem call_save_new (product : Product) (hid : product.id = none)
    (hversion : product.version = none) (store : Store) :
    call (ProductRepository.save provider ⟨product, false⟩) store =
      (.ok (stored (provider.generateId store) ⟨0, product.columns⟩),
        store.put (provider.generateId store) ⟨0, product.columns⟩) := by
  rw [ProductRepository.save]
  simp only [hversion, ProductRepository.persist, hid]
  rfl

/-- What a refreshed context leaves behind. -/
def refreshed (store : Store) : Store :=
  let withShirt := store.put (provider.generateId store) ⟨0, guruShirt.columns⟩
  withShirt.put (provider.generateId withShirt) ⟨0, guruMug.columns⟩

theorem happen_contextRefreshed (store : Store) :
    happen provider store .contextRefreshed = refreshed provider store := by
  have hshirt := call_save_new provider guruShirt rfl rfl store
  have hmug := call_save_new provider guruMug rfl rfl
    (store.put (provider.generateId store) ⟨0, guruShirt.columns⟩)
  rw [happen, Event.body, loadProducts, call_bind_of_ok hshirt, call_bind_of_ok hmug]
  rfl

theorem grown_happen (store : Store) (event : Event) :
    Grown store (happen provider store event) := by
  cases event with
  | contextRefreshed =>
      rw [happen_contextRefreshed]
      exact (grown_put_fresh (provider.generateId_not_mem _) _).trans
        (grown_put_fresh (provider.generateId_not_mem _) _)
  | request request =>
      rw [happen, Event.body, state_bind_pure]
      exact grown_serve provider store request

theorem grown_run (events : List Event) (store : Store) :
    Grown store (events.foldl (happen provider) store) :=
  invariant_foldl (.refl store)
    (fun _ event hgrown => hgrown.trans (grown_happen provider _ event)) events

/-- The reply to a request after a run from an empty database. -/
def answered (events : List Event) (request : Request) : Except Throwable Reply :=
  (call (serve provider request) (events.foldl (happen provider) Store.empty)).1

theorem answered_list (events : List Event) :
    ∃ products, answered provider events .list = .ok (.products products) ∧
      products.Perm (listed (events.foldl (happen provider) Store.empty)) :=
  ⟨_, rfl, provider.arrange_perm _ _⟩

theorem perm_of_answered_list {events : List Event} {products : List Product}
    (hanswered : answered provider events .list = .ok (.products products)) :
    products.Perm (listed (events.foldl (happen provider) Store.empty)) := by
  obtain ⟨_, hlist, hperm⟩ := answered_list provider events
  rw [hanswered, Except.ok.injEq, Reply.products.injEq] at hlist
  rwa [hlist]

theorem some_mem_map_id_iff {events : List Event} {products : List Product}
    (hperm : products.Perm (listed (events.foldl (happen provider) Store.empty))) (id : Int) :
    some id ∈ products.map Product.id ↔
      id ∈ (events.foldl (happen provider) Store.empty).live := by
  rw [(hperm.map Product.id).mem_iff, map_id_listed]
  simp

theorem answered_showProduct (events : List Event) (id : Int) :
    answered provider events (.showProduct id) =
      .ok (.product (((events.foldl (happen provider) Store.empty).rows id).map (stored id))) :=
  congrArg Prod.fst (call_showProduct id _)

theorem nodup_used (events : List Event) :
    (events.foldl (happen provider) Store.empty).used.Nodup :=
  (grown_run provider events Store.empty).nodup List.nodup_nil

end Growth

/-- In any run, of requests and refreshed contexts in any order: a list has each product
that can be shown, once. The ids that are new in a later list are ids that no earlier list
has had. A refreshed context adds its two products, whether or not they are there already. -/
theorem product_lists_have_stored (provider : PersistenceProvider) (first second : List Event) :
    ∃ products products',
      answered provider first .list = .ok (.products products) ∧
      answered provider (first ++ second) .list = .ok (.products products') ∧
      (products'.map Product.id).Nodup ∧
      (∀ product, product ∈ products' ↔
        ∃ id, answered provider (first ++ second) (.showProduct id) =
          .ok (.product (some product))) ∧
      (∀ id, some id ∈ products'.map Product.id → some id ∈ products.map Product.id ∨
        ∀ done, done <+: first → ∀ earlier,
          answered provider done .list = .ok (.products earlier) →
            some id ∉ earlier.map Product.id) ∧
      ∃ id id' refreshed,
        answered provider (first ++ [.contextRefreshed]) .list = .ok (.products refreshed) ∧
          refreshed.Perm (products ++
            [stored id ⟨0, guruShirt.columns⟩, stored id' ⟨0, guruMug.columns⟩]) := by
  obtain ⟨products, hfirst, hperm⟩ := answered_list provider first
  obtain ⟨products', hsecond, hperm'⟩ := answered_list provider (first ++ second)
  refine ⟨products, products', hfirst, hsecond, ?_, ?_, ?_, ?_⟩
  · rw [(hperm'.map Product.id).nodup_iff, map_id_listed]
    exact ((nodup_used provider _).filter _).map fun _ _ hsame => Option.some.inj hsame
  · intro product
    rw [hperm'.mem_iff, mem_listed]
    refine exists_congr fun id => ?_
    rw [answered_showProduct, Except.ok.injEq, Reply.product.injEq]
  · intro id hid
    rw [some_mem_map_id_iff provider hperm'] at hid
    have hgrown := grown_run provider second (first.foldl (happen provider) Store.empty)
    rw [← List.foldl_append] at hgrown
    rw [some_mem_map_id_iff provider hperm]
    refine (hgrown.toLater.live hid).imp_right fun hfresh => ?_
    rintro done ⟨rest, rfl⟩ earlier hearlier hmem
    rw [some_mem_map_id_iff provider (perm_of_answered_list provider hearlier)] at hmem
    have hrest := grown_run provider rest (done.foldl (happen provider) Store.empty)
    rw [← List.foldl_append] at hrest
    exact hfresh (hrest.used id (List.mem_of_mem_filter hmem))
  · obtain ⟨refreshed, hrefreshed, hrefreshedPerm⟩ :=
      answered_list provider (first ++ [.contextRefreshed])
    rw [List.foldl_concat, happen_contextRefreshed, ProductCatalogue.refreshed,
      listed_put_fresh (provider.generateId_not_mem _),
      listed_put_fresh (provider.generateId_not_mem _), List.append_assoc] at hrefreshedPerm
    exact ⟨_, _, refreshed, hrefreshed, hrefreshedPerm.trans (hperm.symm.append_right _)⟩

end RestaurantServer.ProductCatalogue
