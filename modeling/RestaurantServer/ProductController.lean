import RestaurantServer.JavaExceptions
import RestaurantServer.OptimisticLocking
import RestaurantServer.ThrowingMethods

/-!
The product endpoints: `ProductController`, `ProductServiceImpl` and, as far as
they rely on it, the repository that Spring Data makes for `Product`. Logging is
left out, and so are the messages of the repository's exceptions.
-/

namespace RestaurantServer.ProductController

open RestaurantServer.JavaExceptions
open RestaurantServer.ThrowingMethods
open RestaurantServer.OptimisticLocking

structure BigDecimal where
  unscaledValue : Int
  scale : Int
  deriving DecidableEq

/-- A product as a request body or a reply has it. Any field may be missing. -/
structure Product where
  id : Option Int
  version : Option Int
  productId : Option String
  description : Option String
  imageUrl : Option String
  price : Option BigDecimal
  deriving DecidableEq

/-- The columns that a row has besides its id and its version. -/
structure Columns where
  productId : Option String
  description : Option String
  imageUrl : Option String
  price : Option BigDecimal
  deriving DecidableEq

abbrev Store := Table Int Columns

def Product.columns (product : Product) : Columns :=
  ⟨product.productId, product.description, product.imageUrl, product.price⟩

def stored (id : Int) (row : Versioned Columns) : Product :=
  ⟨some id, some row.version, row.value.productId, row.value.description,
    row.value.imageUrl, row.value.price⟩

/-- What the persistence provider is free to choose: the new id, the order of the rows
that a query returns, and what becomes of a versioned product that it does not know and
whose row it does not find. It is refused, or becomes a new row with the version given
here. -/
structure PersistenceProvider where
  generateId : Store → Int
  generateId_not_mem (store : Store) : generateId store ∉ store.used
  arrange : Store → List Product → List Product
  arrange_perm (store : Store) (products : List Product) : (arrange store products).Perm products
  adoptedVersion : Store → Product → Option Int

/-- A product object. One that was loaded in the same request is managed, one
made from a request body is not. -/
structure Entity where
  product : Product
  managed : Bool
  deriving DecidableEq

def invalidDataAccessApiUsageException : Throwable :=
  ⟨"org.springframework.dao.InvalidDataAccessApiUsageException", none, by decide⟩

def objectOptimisticLockingFailureException : Throwable :=
  ⟨"org.springframework.orm.ObjectOptimisticLockingFailureException", none, by decide⟩

def emptyResultDataAccessException : Throwable :=
  ⟨"org.springframework.dao.EmptyResultDataAccessException", none, by decide⟩

section ProductRepository

variable (provider : PersistenceProvider)

def ProductRepository.insert (product : Product) (version : Int) :
    Method Throwable Store Product := do
  let store ← get
  let id := provider.generateId store
  let row := ⟨version, product.columns⟩
  set (store.put id row)
  pure (stored id row)

/-- An object that already has an id is not accepted as new. -/
def ProductRepository.persist (product : Product) : Method Throwable Store Product :=
  match product.id with
  | none => insert provider product 0
  | some _ => throw invalidDataAccessApiUsageException

/-- There is no row for a versioned object. If it was loaded, the row is gone. -/
def ProductRepository.mergeUnknown (entity : Entity) : Method Throwable Store Product := do
  if entity.managed then throw objectOptimisticLockingFailureException
  let store ← get
  match provider.adoptedVersion store entity.product with
  | none => throw objectOptimisticLockingFailureException
  | some version => insert provider entity.product version

def ProductRepository.merge (entity : Entity) (version : Int) : Method Throwable Store Product :=
  match entity.product.id with
  | none => mergeUnknown provider entity
  | some id => do
      let store ← get
      match store.rows id with
      | none => mergeUnknown provider entity
      | some row =>
          if row.version = version then
            let merged := ⟨version + 1, entity.product.columns⟩
            set (store.put id merged)
            pure (stored id merged)
          else throw objectOptimisticLockingFailureException

/-- An object without a version counts as new. -/
def ProductRepository.save (entity : Entity) : Method Throwable Store Product :=
  match entity.product.version with
  | none => persist provider entity.product
  | some version => merge provider entity version

def ProductRepository.findOne (id : Int) : Method Throwable Store (Option Entity) := do
  let store ← get
  pure ((store.rows id).map fun row => ⟨stored id row, true⟩)

/-- The query does not order the rows. -/
def ProductRepository.findAll : Method Throwable Store (List Product) := do
  let store ← get
  pure (provider.arrange store (store.used.filterMap fun id => (store.rows id).map (stored id)))

def ProductRepository.delete (id : Int) : Method Throwable Store Unit := do
  let store ← get
  match store.rows id with
  | none => throw emptyResultDataAccessException
  | some _ => set (store.remove id)

end ProductRepository

section ProductService

variable (provider : PersistenceProvider)

def ProductServiceImpl.listAllProducts : Method Throwable Store (List Product) :=
  ProductRepository.findAll provider

def ProductServiceImpl.getProductById (id : Int) : Method Throwable Store (Option Entity) :=
  ProductRepository.findOne id

def ProductServiceImpl.saveProduct (entity : Entity) : Method Throwable Store Product :=
  ProductRepository.save provider entity

def ProductServiceImpl.deleteProduct (id : Int) : Method Throwable Store Unit :=
  ProductRepository.delete id

end ProductService

inductive Reply where
  | text (text : String)
  | product (product : Option Product)
  | products (products : List Product)
  deriving DecidableEq

section Endpoints

variable (provider : PersistenceProvider)

def list : Method Throwable Store Reply := do
  let productList ← ProductServiceImpl.listAllProducts provider
  pure (.products productList)

def showProduct (id : Int) : Method Throwable Store Reply := do
  let product ← ProductServiceImpl.getProductById id
  pure (.product (product.map Entity.product))

def saveProduct (product : Product) : Method Throwable Store Reply := do
  let _ ← ProductServiceImpl.saveProduct provider ⟨product, false⟩
  pure (.text "Product saved successfully")

/-- The first half of `updateProduct`. An id without a product is only noticed
when a setter is called on `null`. -/
def loadProduct (id : Int) : Method Throwable Store Entity := do
  let storedProduct ← ProductServiceImpl.getProductById id
  liftExcept (nonNull storedProduct)

def Entity.update (entity : Entity) (body : Product) : Entity :=
  { entity with
    product := { entity.product with
      description := body.description
      imageUrl := body.imageUrl
      price := body.price } }

/-- The second half of `updateProduct`. -/
def saveModified (body : Product) (storedProduct : Entity) : Method Throwable Store Reply := do
  let _ ← ProductServiceImpl.saveProduct provider (storedProduct.update body)
  pure (.text "Product updated successfully")

def updateProduct (id : Int) (body : Product) : Method Throwable Store Reply := do
  let storedProduct ← loadProduct id
  saveModified provider body storedProduct

def delete (id : Int) : Method Throwable Store Reply := do
  ProductServiceImpl.deleteProduct id
  pure (.text "Product deleted successfully")

end Endpoints

inductive Request where
  | list
  | showProduct (id : Int)
  | add (body : Product)
  | update (id : Int) (body : Product)
  | delete (id : Int)
  deriving DecidableEq

def serve (provider : PersistenceProvider) : Request → Method Throwable Store Reply
  | .list => list provider
  | .showProduct id => showProduct id
  | .add body => saveProduct provider body
  | .update id body => updateProduct provider id body
  | .delete id => delete id

end RestaurantServer.ProductController
