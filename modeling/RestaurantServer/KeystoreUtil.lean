import RestaurantServer.AESCipher
import RestaurantServer.RelyGuarantee

/-!
The key of a keystore, and the system properties that say which. The properties are
one table for the whole virtual machine: every thread reads and writes them one at a
time, and several classes set them before they read them back.
-/

namespace RestaurantServer.KeystoreUtil

open RestaurantServer.JavaExceptions
open RestaurantServer.JavaStrings
open RestaurantServer.Charsets
open RestaurantServer.RelyGuarantee

section Keystores

/-- A call of the keystore classes fails with an exception that it declares, or with
an unchecked one. -/
inductive Failure where
  | declared (e : Throwable)
  | unchecked (e : Throwable)

/-- An open keystore. For an entry that is no key `getKey` returns `null`. -/
structure KeyStore where
  containsAlias : (keyAlias : String) → Bool
  getKey : (keyAlias keyPass : String) → Except Failure (Option Bytes)

/-- Opening the file at a location as a keystore. -/
abbrev Keystores := (keystoreLocation keystorePass : String) → Except Failure KeyStore

theorem qualified_runtimeException : '.' ∈ "java.lang.RuntimeException".toList := by decide

def aliasNotFound : Throwable :=
  ⟨"java.lang.RuntimeException", some "Alias for key not found", qualified_runtimeException⟩

/-- The `catch` lists all the exceptions that the calls in the `try` declare. -/
def rethrow {α : Type} : Except Failure α → Except Throwable α
  | .ok a => .ok a
  | .error (.declared e) => .error (runtimeException e)
  | .error (.unchecked e) => .error e

def getKeyFromKeyStore (keystores : Keystores)
    (keystoreLocation keystorePass keyAlias keyPass : String) : Except Throwable Bytes :=
  rethrow do
    let keystore ← keystores keystoreLocation keystorePass
    if ¬ keystore.containsAlias keyAlias then throw (.unchecked aliasNotFound)
    match ← keystore.getKey keyAlias keyPass with
    | none => throw (.unchecked nullPointerException)
    | some key => pure key

/-- Every file is a keystore with one key. -/
def oneKey : Keystores := fun _ _ =>
  .ok ⟨fun keyAlias => keyAlias == "jceksaes",
    fun _ _ => .ok (some (Utf8.encode "0123456789abcdef"))⟩

end Keystores

section Properties

abbrev Properties := (key : String) → Option String

def getProperty (key : String) : Thread Properties (Option String) :=
  .step id fun properties => .done (properties key)

def setProperty (key value : String) : Thread Properties Unit :=
  .step (Function.update · key (some value)) fun _ => .done ()

/-- What the classes that set the properties have in common. -/
def setKeystoreProperties (keystore : String) : Thread Properties Unit := do
  setProperty "keystore" keystore
  setProperty "storepass" "mystorepass"
  setProperty "alias" "jceksaes"
  setProperty "keypass" "mykeypass"

def serverKeystore : String :=
  "src/test/resources/server-aes-keystore.jck"

/-- Called by the requests that post a public key. -/
def createServerSystemProperties : Thread Properties Unit :=
  setKeystoreProperties serverKeystore

/-- An unset directory is spelled out as `null`. -/
def tokenKeystore (root : Option String) : String :=
  root.getD "null" ++ "/src/test/resources/client-aes-keystore.jck"

/-- The one of `CryptoHelper`. -/
def createSystemProperties : Thread Properties Unit := do
  let root ← getProperty "user.dir"
  setKeystoreProperties (tokenKeystore root)

def isNullOrEmpty (text : Option String) : Bool :=
  match text with
  | none => true
  | some text => text == ""

def checkArgument (expression : Bool) (errorMessage : String) : Except Throwable Unit :=
  if expression then .ok () else .error (illegalArgumentException errorMessage)

def checkedKey (keystores : Keystores)
    (keystoreFileLocation storePass keyAlias keyPass : Option String) :
    Except Throwable Bytes := do
  checkArgument (!isNullOrEmpty keystoreFileLocation)
    "Please provide a 'keystore' file location."
  checkArgument (!isNullOrEmpty storePass)
    "Please provide a 'storepass' password for keystore"
  checkArgument (!isNullOrEmpty keyAlias) "Please provide an 'alias' for the specific key"
  checkArgument (!isNullOrEmpty keyPass) "Please provide a 'keypass' for the specific key"
  getKeyFromKeyStore keystores (← nonNull keystoreFileLocation) (← nonNull storePass)
    (← nonNull keyAlias) (← nonNull keyPass)

/-- The key that the properties lead to, as `MainApp` and `CryptoHelper` fetch it. -/
def keyFromProperties (keystores : Keystores) :
    Thread Properties (Except Throwable Bytes) := do
  let keystoreFileLocation ← getProperty "keystore"
  let storePass ← getProperty "storepass"
  let keyAlias ← getProperty "alias"
  let keyPass ← getProperty "keypass"
  pure (checkedKey keystores keystoreFileLocation storePass keyAlias keyPass)

end Properties

section Checks

variable {keystores : Keystores} {keystoreFileLocation storePass keyAlias keyPass : Option String}

theorem not_isNullOrEmpty {text : Option String} :
    isNullOrEmpty text = false ↔ ∃ value, text = some value ∧ value ≠ "" := by
  cases text <;> simp [isNullOrEmpty]

theorem checkArgument_eq_ok {expression : Bool} {errorMessage : String} {result : Unit} :
    checkArgument expression errorMessage = .ok result ↔ expression = true := by
  cases expression <;> simp [checkArgument]

theorem checkedKey_some {location pass keyAlias keyPass : String} (hlocation : location ≠ "")
    (hpass : pass ≠ "") (halias : keyAlias ≠ "") (hkeyPass : keyPass ≠ "") :
    checkedKey keystores (some location) (some pass) (some keyAlias) (some keyPass) =
      getKeyFromKeyStore keystores location pass keyAlias keyPass := by
  simp [checkedKey, checkArgument, isNullOrEmpty, hlocation, hpass, halias, hkeyPass]

/-- The keystore is opened only if all four properties are there. -/
theorem checkedKey_eq_ok_iff {key : Bytes} :
    checkedKey keystores keystoreFileLocation storePass keyAlias keyPass = .ok key ↔
      ∃ location pass name keyword, keystoreFileLocation = some location ∧ location ≠ "" ∧
        storePass = some pass ∧ pass ≠ "" ∧ keyAlias = some name ∧ name ≠ "" ∧
        keyPass = some keyword ∧ keyword ≠ "" ∧
        getKeyFromKeyStore keystores location pass name keyword = .ok key := by
  constructor
  · intro hkey
    simp only [checkedKey, bind_eq_ok, checkArgument_eq_ok, Bool.not_eq_true',
      not_isNullOrEmpty] at hkey
    obtain ⟨-, ⟨location, rfl, hlocation⟩, -, ⟨pass, rfl, hpass⟩, -, ⟨name, rfl, hname⟩, -,
      ⟨keyword, rfl, hkeyword⟩, hkey⟩ := hkey
    simp only [nonNull_some, Except.ok.injEq, exists_eq_left'] at hkey
    exact ⟨location, pass, name, keyword, rfl, hlocation, rfl, hpass, rfl, hname, rfl, hkeyword,
      hkey⟩
  · rintro ⟨location, pass, name, keyword, rfl, hlocation, rfl, hpass, rfl, hname, rfl, hkeyword,
      hkey⟩
    rw [checkedKey_some hlocation hpass hname hkeyword, hkey]

end Checks

end RestaurantServer.KeystoreUtil
