import RestaurantServer.ProductController
import RestaurantServer.RequestRuns

/-!
What requests do to the stored products. Handled one at a time, each request
keeps to the product it is addressed to, except for an add whose body names the
id and the version of a stored product. Handled with the two halves of an update
apart, the requests that succeed act as in a serial run.
-/

namespace RestaurantServer.ProductStore

open RestaurantServer.JavaExceptions
open RestaurantServer.ThrowingMethods
open RestaurantServer.RequestRuns
open RestaurantServer.OptimisticLocking
open RestaurantServer.ProductController

section Save

variable (provider : PersistenceProvider) (store : Store)

/-- The product carries the id and the version of a stored row. -/
def Matches (product : Product) : Prop :=
  ∃ id row, product.id = some id ∧ store.rows id = some row ∧
    product.version = some row.version

/-- All that saving a product can do. -/
inductive Saves (entity : Entity) : Except Throwable Product × Store → Prop
  | refused {e : Throwable} (hunknown : ¬ Matches store entity.product) :
      Saves entity (.error e, store)
  | inserted {id version : Int} (hunknown : ¬ Matches store entity.product)
      (hunmanaged : entity.product.version = none ∨ entity.managed = false)
      (hfresh : id ∉ store.used) :
      Saves entity (.ok (stored id ⟨version, entity.product.columns⟩),
        store.put id ⟨version, entity.product.columns⟩)
  | merged {id : Int} {row : Versioned Columns} (hid : entity.product.id = some id)
      (hrow : store.rows id = some row) (hversion : entity.product.version = some row.version) :
      Saves entity (.ok (stored id ⟨row.version + 1, entity.product.columns⟩),
        store.put id ⟨row.version + 1, entity.product.columns⟩)

variable {store}

theorem saves_insert {entity : Entity} (hunknown : ¬ Matches store entity.product)
    (hunmanaged : entity.product.version = none ∨ entity.managed = false) (version : Int) :
    Saves store entity
      (call (ProductRepository.insert provider entity.product version) store) :=
  .inserted hunknown hunmanaged (provider.generateId_not_mem store)

theorem saves_persist {entity : Entity} (hversion : entity.product.version = none) :
    Saves store entity (call (ProductRepository.persist provider entity.product) store) := by
  have hunknown : ¬ Matches store entity.product := by
    rintro ⟨id, row, -, -, hrow⟩
    rw [hversion] at hrow
    cases hrow
  rw [ProductRepository.persist]
  cases entity.product.id with
  | none => exact saves_insert provider hunknown (.inl hversion) 0
  | some id => exact .refused hunknown

theorem saves_mergeUnknown {entity : Entity} (hunknown : ¬ Matches store entity.product) :
    Saves store entity (call (ProductRepository.mergeUnknown provider entity) store) := by
  rw [ProductRepository.mergeUnknown]
  cases hmanaged : entity.managed with
  | true => exact .refused hunknown
  | false =>
      simp only [Bool.false_eq_true, if_false, call_bind, call_get]
      cases provider.adoptedVersion store entity.product with
      | none => exact .refused hunknown
      | some version => exact saves_insert provider hunknown (.inr hmanaged) version

theorem saves_merge {entity : Entity} {version : Int}
    (hversion : entity.product.version = some version) :
    Saves store entity (call (ProductRepository.merge provider entity version) store) := by
  rw [ProductRepository.merge]
  cases hid : entity.product.id with
  | none =>
      refine saves_mergeUnknown provider ?_
      rintro ⟨id, row, hsome, -⟩
      rw [hid] at hsome
      cases hsome
  | some id =>
      simp only [call_bind, call_get]
      cases hrow : store.rows id with
      | none =>
          refine saves_mergeUnknown provider ?_
          rintro ⟨id', row, hsome, hrow', -⟩
          obtain rfl : id = id' := Option.some_inj.mp (hid.symm.trans hsome)
          rw [hrow] at hrow'
          cases hrow'
      | some row =>
          dsimp only
          rcases eq_or_ne row.version version with rfl | hne
          · rw [if_pos rfl]
            exact .merged hid hrow hversion
          · rw [if_neg hne]
            refine .refused ?_
            rintro ⟨id', row', hsome, hrow', hversion'⟩
            obtain rfl : id = id' := Option.some_inj.mp (hid.symm.trans hsome)
            obtain rfl : row = row' := Option.some_inj.mp (hrow.symm.trans hrow')
            exact hne (Option.some_inj.mp (hversion'.symm.trans hversion))

theorem saves_save (store : Store) (entity : Entity) :
    Saves store entity (call (ProductRepository.save provider entity) store) := by
  rw [ProductRepository.save]
  cases hversion : entity.product.version with
  | none => exact saves_persist provider hversion
  | some version => exact saves_merge provider hversion

end Save

section Endpoints

variable {provider : PersistenceProvider} {store : Store} {id : Int}

theorem call_list (provider : PersistenceProvider) (store : Store) :
    call (list provider) store =
      (.ok (.products (provider.arrange store
        (store.used.filterMap fun id => (store.rows id).map (stored id)))), store) :=
  rfl

theorem call_showProduct (id : Int) (store : Store) :
    call (showProduct id) store = (.ok (.product ((store.rows id).map (stored id))), store) := by
  change (Except.ok (Reply.product (((store.rows id).map fun row => ⟨stored id row, true⟩).map
    Entity.product)), store) = _
  rw [Option.map_map]
  rfl

theorem call_delete_none (hrow : store.rows id = none) :
    call (delete id) store = (.error emptyResultDataAccessException, store) := by
  simp [delete, ProductServiceImpl.deleteProduct, ProductRepository.delete, call_bind, hrow]

theorem call_delete_some {row : Versioned Columns} (hrow : store.rows id = some row) :
    call (delete id) store =
      (.ok (.text "Product deleted successfully"), store.remove id) := by
  simp [delete, ProductServiceImpl.deleteProduct, ProductRepository.delete, call_bind, hrow,
    call_map]

theorem call_loadProduct (id : Int) (store : Store) :
    call (loadProduct id) store =
      (nonNull ((store.rows id).map fun row => ⟨stored id row, true⟩), store) := by
  simp [loadProduct, ProductServiceImpl.getProductById, ProductRepository.findOne, call_bind]

theorem call_updateProduct_none (hrow : store.rows id = none) (body : Product) :
    call (updateProduct provider id body) store = (.error nullPointerException, store) := by
  have hload : call (loadProduct id) store = (.error nullPointerException, store) := by
    rw [call_loadProduct, hrow]
    rfl
  rw [updateProduct, call_bind_of_error hload]

theorem call_updateProduct_some {row : Versioned Columns} (hrow : store.rows id = some row)
    (body : Product) :
    call (updateProduct provider id body) store =
      call (saveModified provider body ⟨stored id row, true⟩) store := by
  have hload : call (loadProduct id) store = (.ok ⟨stored id row, true⟩, store) := by
    rw [call_loadProduct, hrow]
    rfl
  rw [updateProduct, call_bind_of_ok hload]

def updated (row : Versioned Columns) (body : Product) : Versioned Columns :=
  ⟨row.version + 1,
    { row.value with
      description := body.description
      imageUrl := body.imageUrl
      price := body.price }⟩

/-- The modified copy is written exactly when its row still has its version. -/
theorem call_saveModified (provider : PersistenceProvider) (store : Store) (id : Int)
    (row : Versioned Columns) (body : Product) :
    (∃ row', store.rows id = some row' ∧ row'.version = row.version ∧
      call (saveModified provider body ⟨stored id row, true⟩) store =
        (.ok (.text "Product updated successfully"), store.put id (updated row body))) ∨
    (∀ row', store.rows id = some row' → row'.version ≠ row.version) ∧
      ∃ e, call (saveModified provider body ⟨stored id row, true⟩) store =
        (.error e, store) := by
  have hsaves := saves_save provider store (Entity.update ⟨stored id row, true⟩ body)
  rw [saveModified, ProductServiceImpl.saveProduct, call_bind]
  generalize call (ProductRepository.save provider _) store = outcome at hsaves ⊢
  cases hsaves with
  | refused hunknown =>
      refine .inr ⟨fun row' hrow' hversion => hunknown ⟨id, row', rfl, hrow', ?_⟩, _, rfl⟩
      exact congrArg some hversion.symm
  | inserted _ hunmanaged =>
      rcases hunmanaged with hversion | hmanaged
      · cases hversion
      · cases hmanaged
  | @merged id' row' hid hrow' hversion =>
      obtain rfl : id = id' := Option.some_inj.mp hid
      have heq : row.version = row'.version := Option.some_inj.mp hversion
      refine .inl ⟨row', hrow', heq.symm, ?_⟩
      rw [← heq]
      rfl

theorem call_updateProduct_stored {row : Versioned Columns} (hrow : store.rows id = some row)
    (body : Product) :
    call (updateProduct provider id body) store =
      (.ok (.text "Product updated successfully"), store.put id (updated row body)) := by
  rw [call_updateProduct_some hrow]
  rcases call_saveModified provider store id row body with ⟨-, -, -, hcall⟩ | ⟨hversion, -⟩
  · exact hcall
  · exact absurd rfl (hversion row hrow)

end Endpoints

/-- What a request may do to the products: only an update or a delete addressed
to a product changes or removes it, an update touches nothing but the description,
the image and the price, an add stores one new product under a new id. -/
structure Isolated (request : Request) (before : Store)
    (outcome : Except Throwable Reply × Store) : Prop where
  changed : ∀ id row, before.rows id = some row → outcome.2.rows id ≠ some row →
    request = .delete id ∨ ∃ body, request = .update id body
  updated : ∀ id body, request = .update id body →
    (∀ row, before.rows id = some row →
      ∃ row', outcome.2.rows id = some row' ∧ row'.value.productId = row.value.productId) ∧
    ∀ j, j ≠ id → outcome.2.rows j = before.rows j
  added : ∀ body reply, request = .add body → outcome.1 = .ok reply →
    ∃ id row, id ∉ before.used ∧ outcome.2.rows id = some row ∧
      ∀ j, j ≠ id → outcome.2.rows j = before.rows j
  absent : ∀ id, before.rows id = none →
    request = .delete id ∨ (∃ body, request = .update id body) → outcome.2 = before

/-- The body of an add names the id and the version of a stored product. -/
def Overwrites (store : Store) (request : Request) : Prop :=
  ∃ body, request = .add body ∧ Matches store body

section Isolation

variable {provider : PersistenceProvider} {store : Store}

theorem isolated_unchanged {request : Request} {answer : Except Throwable Reply}
    (hadd : ∀ body reply, request = .add body → answer ≠ .ok reply) :
    Isolated request store (answer, store) where
  changed := fun _ _ hrow hne => absurd hrow hne
  updated := fun _ _ _ => ⟨fun row hrow => ⟨row, hrow, rfl⟩, fun _ _ => rfl⟩
  added := fun body reply hrequest hanswer => absurd hanswer (hadd body reply hrequest)
  absent := fun _ _ _ => rfl

theorem isolated_inserted {body : Product} {id : Int} (hfresh : id ∉ store.used)
    (answer : Except Throwable Reply) (row : Versioned Columns) :
    Isolated (.add body) store (answer, store.put id row) where
  changed := by
    intro j old hold hne
    refine absurd ?_ hne
    rw [Table.rows_put_of_ne store row, hold]
    rintro rfl
    exact hfresh (Table.mem_used_of_some hold)
  updated := by
    rintro _ _ ⟨⟩
  added := by
    intro _ _ _ _
    exact ⟨id, row, hfresh, Table.rows_put_self .., fun j hne => Table.rows_put_of_ne store row hne⟩
  absent := by
    rintro _ _ (hrequest | ⟨_, hrequest⟩)
    · cases hrequest
    · cases hrequest

theorem isolated_updated {id : Int} {row : Versioned Columns} (hrow : store.rows id = some row)
    (body : Product) (answer : Except Throwable Reply) :
    Isolated (.update id body) store (answer, store.put id (ProductStore.updated row body)) where
  changed := by
    intro j old hold hne
    rcases eq_or_ne j id with rfl | hj
    · exact .inr ⟨body, rfl⟩
    · exact absurd ((Table.rows_put_of_ne store _ hj).trans hold) hne
  updated := by
    rintro _ _ ⟨⟩
    refine ⟨fun old hold => ⟨_, Table.rows_put_self .., ?_⟩,
      fun j hj => Table.rows_put_of_ne store _ hj⟩
    obtain rfl : row = old := Option.some_inj.mp (hrow.symm.trans hold)
    rfl
  added := by
    rintro _ _ ⟨⟩
  absent := by
    rintro _ hnone (hrequest | ⟨_, hrequest⟩)
    · cases hrequest
    · cases hrequest
      rw [hrow] at hnone
      cases hnone

theorem isolated_deleted {id : Int} {row : Versioned Columns} (hrow : store.rows id = some row)
    (answer : Except Throwable Reply) :
    Isolated (.delete id) store (answer, store.remove id) where
  changed := by
    intro j old hold hne
    rcases eq_or_ne j id with rfl | hj
    · exact .inl rfl
    · exact absurd ((Table.rows_remove_of_ne store hj).trans hold) hne
  updated := by
    rintro _ _ ⟨⟩
  added := by
    rintro _ _ ⟨⟩
  absent := by
    rintro _ hnone (hrequest | ⟨_, hrequest⟩)
    · cases hrequest
      rw [hrow] at hnone
      cases hnone
    · cases hrequest

theorem not_isolated_merged {body : Product} {id : Int} {row : Versioned Columns}
    (hrow : store.rows id = some row) (columns : Columns) (answer : Except Throwable Reply) :
    ¬ Isolated (.add body) store (answer, store.put id ⟨row.version + 1, columns⟩) := by
  intro hisolated
  have hne : (store.put id ⟨row.version + 1, columns⟩).rows id ≠ some row := by
    rw [Table.rows_put_self]
    intro heq
    have hversion : row.version + 1 = row.version :=
      congrArg Versioned.version (Option.some_inj.mp heq)
    omega
  rcases hisolated.changed id row hrow hne with hrequest | ⟨_, hrequest⟩
  · cases hrequest
  · cases hrequest

theorem isolated_add_iff (provider : PersistenceProvider) (store : Store) (body : Product) :
    Isolated (.add body) store (call (saveProduct provider body) store) ↔
      ¬ Matches store body := by
  have hsaves := saves_save provider store ⟨body, false⟩
  rw [saveProduct, ProductServiceImpl.saveProduct, call_bind]
  generalize call (ProductRepository.save provider _) store = outcome at hsaves ⊢
  cases hsaves with
  | refused hunknown =>
      exact iff_of_true (isolated_unchanged (by rintro _ _ _ ⟨⟩)) hunknown
  | inserted hunknown _ hfresh => exact iff_of_true (isolated_inserted hfresh _ _) hunknown
  | @merged id row hid hrow hversion =>
      exact iff_of_false (not_isolated_merged hrow _ _)
        (not_not_intro ⟨id, row, hid, hrow, hversion⟩)

theorem isolated_iff (provider : PersistenceProvider) (store : Store) (request : Request) :
    Isolated request store (call (serve provider request) store) ↔
      ¬ Overwrites store request := by
  cases request with
  | list =>
      refine iff_of_true ?_ (by rintro ⟨_, ⟨⟩, _⟩)
      rw [serve, call_list]
      exact isolated_unchanged (by rintro _ _ ⟨⟩)
  | showProduct id =>
      refine iff_of_true ?_ (by rintro ⟨_, ⟨⟩, _⟩)
      rw [serve, call_showProduct]
      exact isolated_unchanged (by rintro _ _ ⟨⟩)
  | add body =>
      rw [serve, isolated_add_iff, not_iff_not]
      constructor
      · intro hmatches
        exact ⟨body, rfl, hmatches⟩
      · rintro ⟨_, ⟨⟩, hmatches⟩
        exact hmatches
  | update id body =>
      refine iff_of_true ?_ (by rintro ⟨_, ⟨⟩, _⟩)
      rw [serve]
      cases hrow : store.rows id with
      | none =>
          rw [call_updateProduct_none hrow]
          exact isolated_unchanged (by rintro _ _ ⟨⟩)
      | some row =>
          rw [call_updateProduct_stored hrow]
          exact isolated_updated hrow body _
  | delete id =>
      refine iff_of_true ?_ (by rintro ⟨_, ⟨⟩, _⟩)
      rw [serve]
      cases hrow : store.rows id with
      | none =>
          rw [call_delete_none hrow]
          exact isolated_unchanged (by rintro _ _ ⟨⟩)
      | some row =>
          rw [call_delete_some hrow]
          exact isolated_deleted hrow _

/-- Every request of a run keeps to its own product exactly when no add of the run
names the id and the version of a product that is stored at that time. -/
theorem isolated_run_iff (provider : PersistenceProvider) (store : Store)
    (requests : List Request) :
    AllSteps (fun store request => (call (serve provider request) store).2)
        (fun store request => Isolated request store (call (serve provider request) store))
        store requests ↔
      AllSteps (fun store request => (call (serve provider request) store).2)
        (fun store request => ¬ Overwrites store request) store requests :=
  allSteps_congr (isolated_iff provider) store requests

/-- Ids count up from the highest one ever used, rows come in the order of their ids'
first use, and what is not known is not saved. -/
def sequence : PersistenceProvider where
  generateId store := store.used.foldr max 0 + 1
  generateId_not_mem store := by
    intro hmem
    have hbound : ∀ (ids : List Int), ∀ id ∈ ids, id ≤ ids.foldr max 0 := by
      intro ids
      induction ids with
      | nil => simp
      | cons first ids ih =>
          intro id hid
          rcases List.mem_cons.mp hid with rfl | hid
          · exact Int.le_max_left _ _
          · exact Int.le_trans (ih id hid) (Int.le_max_right _ _)
    have hle := hbound _ _ hmem
    omega
  arrange _ products := products
  arrange_perm _ _ := .refl _
  adoptedVersion _ _ := none

def Store.empty : Store :=
  ⟨fun _ => none, [], fun _ hrow => absurd rfl hrow⟩

def shirt : Product :=
  ⟨none, none, some "235268845711068308", some "Spring Framework Guru Shirt", none,
    some ⟨1895, 2⟩⟩

/-- The second add carries the id and the version that the first was given. -/
theorem not_isolated_overwritten_shirt :
    ¬ AllSteps (fun store request => (call (serve sequence request) store).2)
      (fun store request => Isolated request store (call (serve sequence request) store))
      Store.empty
      [.add shirt, .add { shirt with
        id := some 1
        version := some 0
        description := some "Spring Framework Guru Mug" }] := by
  rintro ⟨-, hsecond, -⟩
  rw [isolated_iff] at hsecond
  exact hsecond ⟨_, rfl, 1, ⟨0, shirt.columns⟩, rfl, rfl, rfl⟩

end Isolation

section Concurrency

variable (provider : PersistenceProvider)

/-- Requests that arrive at the same time. An update reads its product in one step
and saves the modified copy in another, the other requests take one step. -/
def steps : TwoStep Store Request Entity Throwable Reply where
  first
    | .update id _, store =>
        match call (loadProduct id) store with
        | (.ok storedProduct, _) => .inl storedProduct
        | (.error e, store) => .inr (.error e, store)
    | request, store => .inr (call (serve provider request) store)
  second
    | .update _ body, storedProduct, store =>
        call (saveModified provider body storedProduct) store
    | request, _, store => call (serve provider request) store

theorem first_update_none {id : Int} {store : Store} (hrow : store.rows id = none)
    (body : Product) :
    (steps provider).first (.update id body) store =
      .inr (.error nullPointerException, store) := by
  simp only [steps, call_loadProduct, hrow]
  rfl

theorem first_update_some {id : Int} {store : Store} {row : Versioned Columns}
    (hrow : store.rows id = some row) (body : Product) :
    (steps provider).first (.update id body) store = .inl ⟨stored id row, true⟩ := by
  simp only [steps, call_loadProduct, hrow]
  rfl

/-- Undisturbed, the two steps of a request are its handler. -/
theorem serve_steps (request : Request) (store : Store) :
    (steps provider).serve request store = call (serve provider request) store := by
  cases request with
  | update id body =>
      rw [TwoStep.serve, serve]
      cases hrow : store.rows id with
      | none => rw [first_update_none provider hrow, call_updateProduct_none hrow]
      | some row =>
          rw [first_update_some provider hrow, call_updateProduct_some hrow]
          rfl
  | list => rfl
  | showProduct id => rfl
  | add body => rfl
  | delete id => rfl

/-- A request that fails has no effect, and one that succeeds moves the store on. -/
inductive Effect (store : Store) : Except Throwable Reply × Store → Prop
  | failed (e : Throwable) : Effect store (.error e, store)
  | moved {after : Store} (reply : Reply) (hlater : Later store after) :
      Effect store (.ok reply, after)

theorem effect_add (body : Product) (store : Store) :
    Effect store (call (saveProduct provider body) store) := by
  have hsaves := saves_save provider store ⟨body, false⟩
  rw [saveProduct, ProductServiceImpl.saveProduct, call_bind]
  generalize call (ProductRepository.save provider _) store = outcome at hsaves ⊢
  cases hsaves with
  | refused => exact .failed _
  | inserted _ _ hfresh => exact .moved _ (later_put_fresh hfresh _)
  | merged _ hrow => exact .moved _ (later_put_newer hrow (Int.lt_succ _))

theorem effect_delete (id : Int) (store : Store) :
    Effect store (call (delete id) store) := by
  cases hrow : store.rows id with
  | none =>
      rw [call_delete_none hrow]
      exact .failed _
  | some row =>
      rw [call_delete_some hrow]
      exact .moved _ (later_remove store id)

theorem effect_first {request : Request} {store : Store}
    {outcome : Except Throwable Reply × Store}
    (hfirst : (steps provider).first request store = .inr outcome) :
    Effect store outcome := by
  cases request with
  | update id body =>
      cases hrow : store.rows id with
      | none =>
          rw [first_update_none provider hrow] at hfirst
          cases hfirst
          exact .failed _
      | some row =>
          rw [first_update_some provider hrow] at hfirst
          cases hfirst
  | list =>
      cases hfirst
      exact .moved _ (.refl store)
  | showProduct id =>
      cases hfirst
      exact .moved _ (.refl store)
  | add body =>
      cases hfirst
      exact effect_add provider body store
  | delete id =>
      cases hfirst
      exact effect_delete id store

theorem first_eq_inl {request : Request} {store : Store} {storedProduct : Entity}
    (hfirst : (steps provider).first request store = .inl storedProduct) :
    ∃ id body row, request = .update id body ∧ store.rows id = some row ∧
      storedProduct = ⟨stored id row, true⟩ := by
  cases request with
  | update id body =>
      cases hrow : store.rows id with
      | none =>
          rw [first_update_none provider hrow] at hfirst
          cases hfirst
      | some row =>
          rw [first_update_some provider hrow] at hfirst
          cases hfirst
          exact ⟨id, body, row, rfl, hrow, rfl⟩
  | list => cases hfirst
  | showProduct id => cases hfirst
  | add body => cases hfirst
  | delete id => cases hfirst

theorem validating_steps : Validating (steps provider) Later where
  refl := Later.refl
  trans := Later.trans
  first_ok := by
    intro request store reply after hfirst
    cases effect_first provider hfirst with
    | moved _ hlater => exact hlater
  first_error := by
    intro request store e after hfirst
    cases effect_first provider hfirst with
    | failed => rfl
  second := by
    intro request storedProduct earlier store hread hlater
    obtain ⟨id, body, row, rfl, hrow, rfl⟩ := first_eq_inl provider hread
    rcases call_saveModified provider store id row body with
      ⟨row', hrow', hversion, hcall⟩ | ⟨-, e, hcall⟩
    · -- The row has the version of the copy, so it is the row that was copied.
      obtain rfl := hlater.eq_of_version hrow hrow' hversion
      refine .inr ⟨?_, _, _, hcall, later_put_newer hrow' (Int.lt_succ _)⟩
      exact first_update_some provider hrow' body
    · exact .inl ⟨e, hcall⟩

variable {ι : Type} [DecidableEq ι]

/-- The schedule says which request takes the next step. -/
def interleave (requests : ι → Request) (store : Store) (schedule : List ι) :
    Interleaved ι Store Entity Throwable Reply :=
  schedule.foldl (advance (steps provider) requests) (Interleaved.start store)

theorem interleave_append (requests : ι → Request) (store : Store) (first second : List ι) :
    interleave provider requests store (first ++ second) =
      second.foldl (advance (steps provider) requests)
        (interleave provider requests store first) :=
  List.foldl_append ..

theorem serial_interleave (requests : ι → Request) (store : Store) (schedule : List ι) :
    Serial (steps provider) Later requests store
      (interleave provider requests store schedule) :=
  serial_interleaving (validating_steps provider) store schedule

theorem interleave_failed {requests : ι → Request} {store : Store} {before after : List ι}
    {n : ι} (hfailed : ∀ reply, (interleave provider requests store
      (before ++ n :: after)).progress n ≠ .answered (.ok reply)) :
    (interleave provider requests store (before ++ [n])).store =
      (interleave provider requests store before).store := by
  rw [interleave_append] at hfailed ⊢
  exact (serial_interleave provider requests store before).store_advance
    (validating_steps provider) hfailed

theorem interleave_deleted {requests : ι → Request} {store : Store}
    {first second third : List ι} {id : Int}
    (hstored : (interleave provider requests store first).store.rows id ≠ none)
    (hdeleted : (interleave provider requests store (first ++ second)).store.rows id = none) :
    (interleave provider requests store (first ++ second ++ third)).store.rows id = none := by
  have hlater := (serial_interleave provider requests store first).later_run
    (validating_steps provider) second
  rw [← interleave_append] at hlater
  have hlater' := (serial_interleave provider requests store (first ++ second)).later_run
    (validating_steps provider) third
  rw [← interleave_append] at hlater'
  exact hlater'.eq_none (hlater.used id (Table.mem_used _ id hstored)) hdeleted

/-- However the steps of any number of requests are interleaved, the store is that
of a serial run of the requests that succeed, in which each gets the answer it got.
Requests that fail have no effect, and no deleted product comes back. -/
theorem interleaved_requests_serial (requests : ι → Request) (store : Store)
    (schedule : List ι) :
    let final := interleave provider requests store schedule
    (final.store = final.succeeded.foldl
        (fun store r => (call (serve provider (requests r.1)) store).2) store ∧
      AllSteps (fun store r => (call (serve provider (requests r.1)) store).2)
        (fun store r => (call (serve provider (requests r.1)) store).1 = .ok r.2)
        store final.succeeded ∧
      (final.succeeded.map Prod.fst).Nodup ∧
      ∀ n reply, (n, reply) ∈ final.succeeded ↔ final.progress n = .answered (.ok reply)) ∧
    (∀ before n after, schedule = before ++ n :: after →
      (∀ reply, final.progress n ≠ .answered (.ok reply)) →
      (interleave provider requests store (before ++ [n])).store =
        (interleave provider requests store before).store) ∧
    ∀ first second third id, schedule = first ++ second ++ third →
      (interleave provider requests store first).store.rows id ≠ none →
      (interleave provider requests store (first ++ second)).store.rows id = none →
      final.store.rows id = none := by
  intro final
  have hserial := serial_interleave provider requests store schedule
  have hstore := hserial.store_eq
  have hanswers := hserial.answers
  simp only [serve_steps] at hstore hanswers
  refine ⟨⟨hstore, hanswers, hserial.once, hserial.answered⟩, ?_, ?_⟩
  · rintro before n after rfl hfailed
    exact interleave_failed provider hfailed
  · rintro first second third id rfl hstored hdeleted
    exact interleave_deleted provider hstored hdeleted

end Concurrency

end RestaurantServer.ProductStore
