import RestaurantServer.CryptoHelper
import RestaurantServer.KeystoreUtil

/-!
Token calls of several threads. Each call sets the system properties and reads them
back step by step, while other threads do the same, or set them for the key exchange.
A property that is written stays written, and all writers agree on all but one of them.
-/

namespace RestaurantServer.TokenThreads

open RestaurantServer.JavaExceptions
open RestaurantServer.JavaStrings
open RestaurantServer.Charsets
open RestaurantServer.JceCipher
open RestaurantServer.JsonTokens
open RestaurantServer.CryptoHelper
open RestaurantServer.RelyGuarantee
open RestaurantServer.KeystoreUtil

/-- The arguments of `createJWE`, and the two readings of the clock. -/
structure TokenRequest where
  issued : Int64
  verified : Int64
  userId : Option String
  duration : Option String
  iss : Option String
  sub : Option String
  aud : Option String
  jti : Option String
  firstName : Option String
  lastName : Option String
  admin : Option String

/-- What a thread of the server does next. Of a request that posts a public key only
what it does to the properties matters here. -/
inductive Task where
  | createJWE (request : TokenRequest)
  | decryptJWE (now : Int64) (token : List UInt16)
  | postPublicKey

inductive Reply where
  | token (result : Except Throwable String)
  | info (result : Except Throwable JWTHelper)
  | posted

section Calls

variable (provider : Provider) (library : Library) (charset : Charset) (keystores : Keystores)

/-- The reply to a call, once the key has been fetched. -/
def replyWith (keystore : Except Throwable Bytes) : Task → Reply
  | .createJWE request =>
      .token (CryptoHelper.createJWE provider library charset keystore request.issued
        request.verified request.userId request.duration request.iss request.sub request.aud
        request.jti request.firstName request.lastName request.admin)
  | .decryptJWE now token =>
      .info (CryptoHelper.decryptJWE provider library charset keystore now token)
  | .postPublicKey => .posted

/-- Both token methods set the properties and fetch the key inside their `try`. -/
def perform (task : Task) : Thread Properties Reply :=
  match task with
  | .postPublicKey => do
      createServerSystemProperties
      pure .posted
  | task => do
      createSystemProperties
      let keystore ← keyFromProperties keystores
      pure (replyWith provider library charset keystore task)

/-- A thread does its tasks one after the other. -/
def performAll : List Task → Thread Properties (List Reply)
  | [] => pure []
  | task :: tasks => do
      let reply ← perform provider library charset keystores task
      let replies ← performAll tasks
      pure (reply :: replies)

variable {ι : Type}

def started (properties : Properties) (tasks : ι → List Task) :
    System ι Properties (List Reply) :=
  ⟨properties, fun i => performAll provider library charset keystores (tasks i)⟩

end Calls

section Writers

/-- The values that the writers give the properties. They agree, but for the keystore. -/
def Setting (locations : List String) (key value : String) : Prop :=
  key = "keystore" ∧ value ∈ locations ∨ key = "storepass" ∧ value = "mystorepass" ∨
    key = "alias" ∧ value = "jceksaes" ∨ key = "keypass" ∧ value = "mykeypass"

/-- A step keeps a property or gives it one of these values. -/
def Follows (locations : List String) (before after : Properties) : Prop :=
  ∀ key, after key = before key ∨ ∃ value, after key = some value ∧ Setting locations key value

/-- The properties that a thread knows to have one of these values. -/
def Known (root : Option String) (locations keys : List String) (properties : Properties) :
    Prop :=
  properties "user.dir" = root ∧
    ∀ key ∈ keys, ∃ value, properties key = some value ∧ Setting locations key value

variable {root : Option String} {locations keys : List String}

theorem stable_known : Stable (Follows locations) (Known root locations keys) := by
  rintro before after hfollows ⟨hroot, hknown⟩
  constructor
  · rcases hfollows "user.dir" with hsame | ⟨value, -, hsetting⟩
    · rw [hsame, hroot]
    · simp [Setting] at hsetting
  · intro key hkey
    rcases hfollows key with hsame | hset
    · rw [hsame]
      exact hknown key hkey
    · exact hset

theorem meets_setProperty {key value : String} (hsetting : Setting locations key value) :
    Meets (Follows locations) (Follows locations) (fun _ => Known root locations (key :: keys))
      (setProperty key value) (Known root locations keys) := by
  rintro properties ⟨hroot, hknown⟩
  have hfollows : Follows locations properties (Function.update properties key (some value)) := by
    intro other
    rcases eq_or_ne other key with rfl | hne
    · exact .inr ⟨value, Function.update_self _ _ _, hsetting⟩
    · exact .inl (Function.update_of_ne hne _ _)
  refine ⟨hfollows, Known root locations (key :: keys), stable_known, ?_, fun _ hafter => hafter⟩
  obtain ⟨hroot', hknown'⟩ := stable_known _ _ hfollows ⟨hroot, hknown⟩
  refine ⟨hroot', fun other hother => ?_⟩
  rcases List.mem_cons.mp hother with rfl | hother
  · exact ⟨value, Function.update_self _ _ _, hsetting⟩
  · exact hknown' other hother

theorem meets_getProperty {key : String} (hkey : key ∈ keys) :
    Meets (Follows locations) (Follows locations)
      (fun found properties => Known root locations keys properties ∧
        ∃ value, found = some value ∧ Setting locations key value)
      (getProperty key) (Known root locations keys) := by
  intro properties hknown
  refine ⟨fun _ => .inl rfl, Known root locations keys, stable_known, hknown, ?_⟩
  exact fun _ hafter => ⟨hafter, hknown.2 key hkey⟩

theorem meets_setKeystoreProperties {keystore : String} (hkeystore : keystore ∈ locations) :
    Meets (Follows locations) (Follows locations)
      (fun _ => Known root locations ["keypass", "alias", "storepass", "keystore"])
      (setKeystoreProperties keystore) (Known root locations []) :=
  meets_bind (meets_setProperty (.inl ⟨rfl, hkeystore⟩)) fun _ =>
    meets_bind (meets_setProperty (.inr (.inl ⟨rfl, rfl⟩))) fun _ =>
      meets_bind (meets_setProperty (.inr (.inr (.inl ⟨rfl, rfl⟩)))) fun _ =>
        meets_setProperty (.inr (.inr (.inr ⟨rfl, rfl⟩)))

theorem meets_createSystemProperties (hkeystore : tokenKeystore root ∈ locations) :
    Meets (Follows locations) (Follows locations)
      (fun _ => Known root locations ["keypass", "alias", "storepass", "keystore"])
      createSystemProperties (Known root locations []) := by
  intro properties hknown
  refine ⟨fun _ => .inl rfl, Known root locations [], stable_known, hknown, ?_⟩
  change Meets _ _ _ (setKeystoreProperties (tokenKeystore (properties "user.dir"))) _
  rw [hknown.1]
  exact meets_setKeystoreProperties hkeystore

/-- The key of one of the keystores, under the properties that all writers agree on. -/
def keyAt (keystores : Keystores) (location : String) : Except Throwable Bytes :=
  getKeyFromKeyStore keystores location "mystorepass" "jceksaes" "mykeypass"

theorem meets_keyFromProperties (keystores : Keystores) (hlocations : "" ∉ locations) :
    Meets (Follows locations) (Follows locations)
      (fun keystore properties => Known root locations [] properties ∧
        ∃ location ∈ locations, keystore = keyAt keystores location)
      (keyFromProperties keystores)
      (Known root locations ["keypass", "alias", "storepass", "keystore"]) := by
  refine meets_bind (meets_getProperty (by simp)) fun found => meets_of_fact ?_
  rintro ⟨location, rfl, hlocation⟩
  refine meets_bind (meets_getProperty (by simp)) fun found => meets_of_fact ?_
  rintro ⟨storePass, rfl, hstorePass⟩
  refine meets_bind (meets_getProperty (by simp)) fun found => meets_of_fact ?_
  rintro ⟨keyAlias, rfl, hkeyAlias⟩
  refine meets_bind (meets_getProperty (by simp)) fun found => meets_of_fact ?_
  rintro ⟨keyPass, rfl, hkeyPass⟩
  refine meets_pure fun properties hknown => ⟨⟨hknown.1, by simp⟩, location, ?_⟩
  simp only [Setting, true_and, String.reduceEq, false_and, or_false, false_or]
    at hlocation hstorePass hkeyAlias hkeyPass
  subst hstorePass hkeyAlias hkeyPass
  refine ⟨hlocation, checkedKey_some ?_ (by decide) (by decide) (by decide)⟩
  rintro rfl
  exact hlocations hlocation

end Writers

section Replies

variable (provider : Provider) (library : Library) (charset : Charset) (keystores : Keystores)

/-- The reply is that of the call with the key of one of the keystores. -/
def Answers (locations : List String) (task : Task) (reply : Reply) : Prop :=
  ∃ location ∈ locations,
    reply = replyWith provider library charset (keyAt keystores location) task

variable {root : Option String} {locations : List String}

theorem meets_perform (hlocations : "" ∉ locations) (htoken : tokenKeystore root ∈ locations)
    {task : Task} (htask : task = .postPublicKey → serverKeystore ∈ locations) :
    Meets (Follows locations) (Follows locations)
      (fun reply properties => Known root locations [] properties ∧
        Answers provider library charset keystores locations task reply)
      (perform provider library charset keystores task) (Known root locations []) := by
  have hcall (task : Task) :
      Meets (Follows locations) (Follows locations)
        (fun reply properties => Known root locations [] properties ∧
          Answers provider library charset keystores locations task reply)
        (createSystemProperties >>= fun _ => keyFromProperties keystores >>= fun keystore =>
          pure (replyWith provider library charset keystore task))
        (Known root locations []) := by
    refine meets_bind (meets_createSystemProperties htoken) fun _ => ?_
    refine meets_bind (meets_keyFromProperties keystores hlocations) fun keystore => ?_
    refine meets_of_fact ?_
    rintro ⟨location, hlocation, rfl⟩
    exact meets_pure fun properties hknown => ⟨hknown, location, hlocation, rfl⟩
  cases task with
  | createJWE request => exact hcall (.createJWE request)
  | decryptJWE now token => exact hcall (.decryptJWE now token)
  | postPublicKey =>
      refine meets_bind (meets_setKeystoreProperties (htask rfl)) fun _ => ?_
      exact meets_pure fun properties hknown =>
        ⟨⟨hknown.1, by simp⟩, serverKeystore, htask rfl, rfl⟩

theorem meets_performAll (hlocations : "" ∉ locations) (htoken : tokenKeystore root ∈ locations)
    {tasks : List Task} (htasks : .postPublicKey ∈ tasks → serverKeystore ∈ locations) :
    Meets (Follows locations) (Follows locations)
      (fun replies _ =>
        List.Forall₂ (Answers provider library charset keystores locations) tasks replies)
      (performAll provider library charset keystores tasks) (Known root locations []) := by
  induction tasks with
  | nil => exact meets_pure fun _ _ => .nil
  | cons task tasks ih =>
      have hrest := ih fun hpost => htasks (List.mem_cons_of_mem _ hpost)
      refine meets_bind (meets_perform provider library charset keystores hlocations htoken
        fun hpost => htasks (hpost ▸ List.mem_cons_self)) fun reply => meets_of_fact ?_
      intro hreply
      refine meets_bind hrest fun replies => ?_
      exact meets_pure fun _ hreplies => .cons hreply hreplies

end Replies

section Schedules

variable (provider : Provider) (library : Library) (charset : Charset) (keystores : Keystores)

theorem within_perform (task : Task) :
    Within 9 (perform provider library charset keystores task) := by
  cases task with
  | createJWE request => exact fun _ _ _ _ _ _ _ _ _ => trivial
  | decryptJWE now token => exact fun _ _ _ _ _ _ _ _ _ => trivial
  | postPublicKey => exact fun _ _ _ _ => trivial

theorem within_performAll (tasks : List Task) :
    Within (9 * tasks.length) (performAll provider library charset keystores tasks) := by
  induction tasks with
  | nil => trivial
  | cons task tasks ih =>
      rw [List.length_cons, Nat.mul_succ, Nat.add_comm]
      refine (within_perform provider library charset keystores task).bind fun reply => ?_
      exact ih.bind (m := 0) fun replies => trivial

variable {ι : Type} [DecidableEq ι] {locations : List String} {properties : Properties}
  {tasks : ι → List Task}

/-- Each thread that is given enough steps has its replies. -/
theorem answers_of_enough (hlocations : "" ∉ locations)
    (htoken : tokenKeystore (properties "user.dir") ∈ locations)
    (htasks : ∀ i, .postPublicKey ∈ tasks i → serverKeystore ∈ locations) {schedule : List ι}
    {i : ι} (henough : 9 * (tasks i).length ≤ schedule.count i) :
    ∃ replies, (schedule.foldl turn
        (started provider library charset keystores properties tasks)).threads i =
          .done replies ∧
      List.Forall₂ (Answers provider library charset keystores locations) (tasks i) replies := by
  obtain ⟨replies, hreplies⟩ :
      ∃ replies, (schedule.foldl turn
        (started provider library charset keystores properties tasks)).threads i =
          .done replies :=
    exists_done schedule ((within_performAll provider library charset keystores
      (tasks i)).mono henough)
  refine ⟨replies, hreplies, ?_⟩
  have hstart : Outlined (fun _ => Follows locations) (fun _ => Follows locations)
      (fun i replies _ =>
        List.Forall₂ (Answers provider library charset keystores locations) (tasks i) replies)
      (started provider library charset keystores properties tasks) := fun i =>
    ⟨Known (properties "user.dir") locations [], stable_known, ⟨rfl, by simp⟩,
      meets_performAll provider library charset keystores hlocations htoken (htasks i)⟩
  refine returned_of_outlined ?_ hstart schedule hreplies
  exact fun _ _ _ _ _ hfollows => hfollows

end Schedules

theorem tokenKeystore_ne (root : Option String) : tokenKeystore root ≠ "" := by
  intro hempty
  have hlength := congrArg String.length hempty
  simp [tokenKeystore] at hlength

theorem eq_map_of_answers {provider : Provider} {library : Library} {charset : Charset}
    {keystores : Keystores} {location : String} {tasks : List Task} {replies : List Reply}
    (hreplies : List.Forall₂ (Answers provider library charset keystores [location]) tasks
      replies) :
    replies =
      tasks.map (replyWith provider library charset (keyAt keystores location)) := by
  induction hreplies with
  | nil => rfl
  | cons hreply hreplies ih =>
      obtain ⟨other, hother, rfl⟩ := hreply
      obtain rfl := List.mem_singleton.mp hother
      rw [List.map_cons, ih]

/-- Token calls of any number of threads, under any schedule: each gets the reply that
it gets alone, with the key of the keystore below the working directory. -/
theorem token_calls_undisturbed {ι : Type} [DecidableEq ι] (provider : Provider)
    (library : Library) (charset : Charset) (keystores : Keystores) (properties : Properties)
    (tasks : ι → List Task) (hpost : ∀ i, .postPublicKey ∉ tasks i) (schedule : List ι) (i : ι)
    (henough : 9 * (tasks i).length ≤ schedule.count i) :
    (schedule.foldl turn (started provider library charset keystores properties tasks)).threads i =
        .done ((performAll provider library charset keystores (tasks i)).alone properties).1 ∧
      ((performAll provider library charset keystores (tasks i)).alone properties).1 =
        (tasks i).map (replyWith provider library charset
          (keyAt keystores (tokenKeystore (properties "user.dir")))) := by
  have hlocations : "" ∉ [tokenKeystore (properties "user.dir")] := by
    simpa using (tokenKeystore_ne (properties "user.dir")).symm
  have hmeets := meets_performAll provider library charset keystores hlocations
    List.mem_cons_self (fun hmem => absurd hmem (hpost i))
  have halone := eq_map_of_answers (hmeets.alone (s := properties) ⟨rfl, by simp⟩)
  obtain ⟨replies, hdone, hreplies⟩ := answers_of_enough provider library charset keystores
    hlocations List.mem_cons_self (fun i hmem => absurd hmem (hpost i)) henough
  rw [hdone, eq_map_of_answers hreplies, halone]
  exact ⟨rfl, rfl⟩

def twoReaders : Bool → List Task
  | true => [.decryptJWE 0 [], .decryptJWE 1 [65]]
  | false => [.decryptJWE 2 []]

theorem token_calls_undisturbed_twoReaders :
    (((List.replicate 18 [true, false]).flatten).foldl turn (started xorProvider segmentLibrary
        utf8 oneKey (fun _ => none) twoReaders)).threads true =
      .done [.info (CryptoHelper.decryptJWE xorProvider segmentLibrary utf8
          (.ok (Utf8.encode "0123456789abcdef")) 0 []),
        .info (CryptoHelper.decryptJWE xorProvider segmentLibrary utf8
          (.ok (Utf8.encode "0123456789abcdef")) 1 [65])] := by
  obtain ⟨hdone, halone⟩ := token_calls_undisturbed xorProvider segmentLibrary utf8 oneKey
    (fun _ => none) twoReaders (by rintro (_ | _) <;> simp [twoReaders])
    ((List.replicate 18 [true, false]).flatten) true (by decide)
  rw [hdone, halone]
  rfl

section KeyExchange

/-- A token call in one thread, and a request that posts a public key in another. -/
def besidePost (task : Task) : Bool → List Task
  | true => [task]
  | false => [.postPublicKey]

variable (provider : Provider) (library : Library) (charset : Charset) (keystores : Keystores)
  (properties : Properties)

theorem reply_undisturbed {task : Task} (htask : task ≠ .postPublicKey) :
    ((List.replicate 9 true).foldl turn
        (started provider library charset keystores properties (besidePost task))).threads true =
      .done [replyWith provider library charset
        (keyAt keystores (tokenKeystore (properties "user.dir"))) task] := by
  have hkey : checkedKey keystores (some (tokenKeystore (properties "user.dir")))
      (some "mystorepass") (some "jceksaes") (some "mykeypass") =
        keyAt keystores (tokenKeystore (properties "user.dir")) :=
    checkedKey_some (tokenKeystore_ne _) (by decide) (by decide) (by decide)
  rw [← hkey]
  cases task with
  | createJWE request => rfl
  | decryptJWE now token => rfl
  | postPublicKey => exact absurd rfl htask

/-- The other thread sets the properties after the token call has set them, and before
it reads them. -/
theorem reply_disturbed {task : Task} (htask : task ≠ .postPublicKey) :
    ((List.replicate 5 true ++ List.replicate 4 false ++ List.replicate 4 true).foldl turn
        (started provider library charset keystores properties (besidePost task))).threads true =
      .done [replyWith provider library charset (keyAt keystores serverKeystore) task] := by
  cases task with
  | createJWE request => rfl
  | decryptJWE now token => rfl
  | postPublicKey => exact absurd rfl htask

end KeyExchange

/-- Beside requests that post public keys, every token call is still answered with a
key that can be had, but it is the key of the one keystore or of the other, as the
steps happen to be interleaved. -/
theorem token_calls_beside_key_exchange {ι : Type} [DecidableEq ι] (provider : Provider)
    (library : Library) (charset : Charset) (keystores : Keystores) (properties : Properties) :
    (∀ (tasks : ι → List Task) (schedule : List ι) (i : ι),
      9 * (tasks i).length ≤ schedule.count i →
        ∃ replies, (schedule.foldl turn
            (started provider library charset keystores properties tasks)).threads i =
              .done replies ∧
          List.Forall₂ (Answers provider library charset keystores
            [tokenKeystore (properties "user.dir"), serverKeystore]) (tasks i) replies) ∧
    ∀ task : Task, task ≠ .postPublicKey →
      ∀ location ∈ [tokenKeystore (properties "user.dir"), serverKeystore],
        ∃ schedule : List Bool, (schedule.foldl turn
            (started provider library charset keystores properties (besidePost task))).threads
              true =
          .done [replyWith provider library charset (keyAt keystores location) task] := by
  constructor
  · intro tasks schedule i henough
    refine answers_of_enough provider library charset keystores ?_ List.mem_cons_self
      (fun i _ => List.mem_cons_of_mem _ List.mem_cons_self) henough
    simpa [serverKeystore] using (tokenKeystore_ne (properties "user.dir")).symm
  · intro task htask location hlocation
    rcases List.mem_cons.mp hlocation with rfl | hlocation
    · exact ⟨_, reply_undisturbed provider library charset keystores properties htask⟩
    · obtain rfl := List.mem_singleton.mp hlocation
      exact ⟨_, reply_disturbed provider library charset keystores properties htask⟩

end RestaurantServer.TokenThreads
