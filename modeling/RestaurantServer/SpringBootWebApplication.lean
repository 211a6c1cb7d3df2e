import RestaurantServer.SessionUtil

/-!
The arguments that `SpringBootWebApplication.main` reads before it starts the
application, and the fields of the `Singleton` that it fills from them. Logging
is left out.
-/

namespace RestaurantServer.SpringBootWebApplication

open RestaurantServer.JavaStrings
open RestaurantServer.SessionUtil

inductive Setting where
  | cassandraIp
  | cassandraPort
  | login
  | password
  deriving DecidableEq

/-- The text by which an argument is recognised. -/
def Setting.name : Setting → String
  | .cassandraIp => "cassandra_ip"
  | .cassandraPort => "cassandra_port"
  | .login => "login"
  | .password => "password"

def Setting.get : Setting → Singleton → Option String
  | .cassandraIp => Singleton.cassandraIpAddress
  | .cassandraPort => Singleton.cassandraPort
  | .login => Singleton.login
  | .password => Singleton.password

def Setting.set (value : Option String) : Setting → Singleton → Singleton
  | .cassandraIp, p => { p with cassandraIpAddress := value }
  | .cassandraPort, p => { p with cassandraPort := value }
  | .login, p => { p with login := value }
  | .password, p => { p with password := value }

/-- The state of the only instance before `main`. -/
def initialProperties : Singleton :=
  ⟨some "", some "", some "", some ""⟩

/-- One of the four tests that the loop makes on each argument. -/
def readSetting (s : String) (setting : Setting) (controllerProperties : Singleton) :
    Singleton :=
  if contains s setting.name then
    setting.set (some (substring s (indexOf s '=' + 1))) controllerProperties
  else controllerProperties

def readArgument (controllerProperties : Singleton) (s : String) : Singleton :=
  let controllerProperties := readSetting s .cassandraIp controllerProperties
  let controllerProperties := readSetting s .cassandraPort controllerProperties
  let controllerProperties := readSetting s .login controllerProperties
  readSetting s .password controllerProperties

def readArguments (args : List String) : Singleton :=
  args.foldl readArgument initialProperties

/-- An argument as it is documented, with the setting it is for and its value. -/
structure Argument where
  setting : Setting
  value : String
  deriving DecidableEq

def Argument.text (argument : Argument) : String :=
  "-D" ++ argument.setting.name ++ "=" ++ argument.value

section Settings

@[simp] theorem get_set_self (setting : Setting) (value : Option String) (p : Singleton) :
    setting.get (setting.set value p) = value := by
  cases setting <;> rfl

theorem get_set_of_ne {setting other : Setting} (hne : other ≠ setting)
    (value : Option String) (p : Singleton) :
    other.get (setting.set value p) = other.get p := by
  cases setting <;> cases other <;> first | rfl | exact absurd rfl hne

theorem get_initial (setting : Setting) : setting.get initialProperties = some "" := by
  cases setting <;> rfl

theorem get_readSetting_self (s : String) (setting : Setting) (p : Singleton) :
    setting.get (readSetting s setting p) =
      if contains s setting.name then some (substring s (indexOf s '=' + 1))
      else setting.get p := by
  rw [readSetting]
  split
  · exact get_set_self ..
  · rfl

theorem get_readSetting_of_ne {setting other : Setting} (hne : other ≠ setting) (s : String)
    (p : Singleton) : other.get (readSetting s setting p) = other.get p := by
  rw [readSetting]
  split
  · exact get_set_of_ne hne ..
  · rfl

/-- Each argument is tested for each setting by itself. -/
theorem get_readArgument (setting : Setting) (p : Singleton) (s : String) :
    setting.get (readArgument p s) =
      if contains s setting.name then some (substring s (indexOf s '=' + 1))
      else setting.get p := by
  simp only [readArgument]
  cases setting with
  | cassandraIp =>
      rw [get_readSetting_of_ne (by decide), get_readSetting_of_ne (by decide),
        get_readSetting_of_ne (by decide), get_readSetting_self]
  | cassandraPort =>
      rw [get_readSetting_of_ne (by decide), get_readSetting_of_ne (by decide),
        get_readSetting_self, get_readSetting_of_ne (by decide)]
  | login =>
      rw [get_readSetting_of_ne (by decide), get_readSetting_self,
        get_readSetting_of_ne (by decide), get_readSetting_of_ne (by decide)]
  | password =>
      rw [get_readSetting_self, get_readSetting_of_ne (by decide),
        get_readSetting_of_ne (by decide), get_readSetting_of_ne (by decide)]

end Settings

section Arguments

variable (argument : Argument)

theorem toList_text :
    argument.text.toList =
      ("-D" ++ argument.setting.name).toList ++ '=' :: argument.value.toList := by
  simp [Argument.text]

theorem substring_text :
    substring argument.text (indexOf argument.text '=' + 1) = argument.value := by
  refine substring_indexOf (toList_text argument) ?_
  cases argument.setting <;> decide +kernel

theorem name_infix_iff (setting other : Setting) :
    setting.name.toList <:+: ("-D" ++ other.name).toList ↔ setting = other := by
  cases setting <;> cases other <;> decide +kernel

theorem contains_text_iff (setting : Setting) :
    contains argument.text setting.name = true ↔
      setting = argument.setting ∨ contains argument.value setting.name = true := by
  have hname : '=' ∉ setting.name.toList := by
    cases setting <;> decide +kernel
  rw [contains, contains, decide_eq_true_iff, decide_eq_true_iff, toList_text,
    infix_append_cons_iff hname, name_infix_iff]

end Arguments

def lastValue (setting : Setting) (arguments : List Argument) : String :=
  ((arguments.reverse.find? (·.setting = setting)).map Argument.value).getD ""

theorem lastValue_concat (setting : Setting) (arguments : List Argument)
    (argument : Argument) :
    lastValue setting (arguments ++ [argument]) =
      if argument.setting = setting then argument.value else lastValue setting arguments := by
  rw [lastValue, List.reverse_append, List.reverse_singleton, List.singleton_append,
    List.find?_cons]
  by_cases hsetting : argument.setting = setting
  · simp [hsetting]
  · simp [hsetting, lastValue]

/-- Each field holds the value of the last argument for it, and no argument touches
the field of another. -/
structure Separated (arguments : List Argument) : Prop where
  fields : ∀ setting : Setting,
    setting.get (readArguments (arguments.map Argument.text)) =
      some (lastValue setting arguments)
  untouched : ∀ argument ∈ arguments, ∀ setting, setting ≠ argument.setting →
    ∀ p, setting.get (readArgument p argument.text) = setting.get p

/-- No value contains the name of a setting that it is not for. -/
def NamesApart (arguments : List Argument) : Prop :=
  ∀ argument ∈ arguments, ∀ setting : Setting, setting ≠ argument.setting →
    contains argument.value setting.name = false

theorem get_readArgument_text {argument : Argument} {setting : Setting}
    (hapart : setting ≠ argument.setting → contains argument.value setting.name = false)
    (p : Singleton) :
    setting.get (readArgument p argument.text) =
      if argument.setting = setting then some argument.value else setting.get p := by
  rw [get_readArgument, substring_text]
  rcases eq_or_ne argument.setting setting with heq | hne
  · rw [if_pos ((contains_text_iff argument setting).mpr (.inl heq.symm)), if_pos heq]
  · rw [if_neg hne, if_neg]
    rw [contains_text_iff]
    rintro (heq | hcontains)
    · exact hne heq.symm
    · rw [hapart hne.symm] at hcontains
      cases hcontains

theorem get_readArguments {arguments : List Argument} (hapart : NamesApart arguments)
    (setting : Setting) :
    setting.get (readArguments (arguments.map Argument.text)) =
      some (lastValue setting arguments) := by
  induction arguments using List.reverseRecOn with
  | nil => exact get_initial setting
  | append_singleton arguments argument ih =>
      have hbefore := ih fun other hother => hapart other (List.mem_append_left _ hother)
      rw [readArguments] at hbefore ⊢
      rw [List.map_append, List.map_singleton, List.foldl_concat,
        get_readArgument_text (hapart argument (by simp) setting), lastValue_concat, hbefore]
      split <;> rfl

/-- Arguments of the documented form configure their own settings only, exactly when
no value contains the name of another setting. -/
theorem arguments_separated_iff_names_apart (arguments : List Argument) :
    Separated arguments ↔ NamesApart arguments := by
  constructor
  · intro hseparated argument hargument setting hne
    by_contra hcontains
    have hfound : contains argument.text setting.name = true :=
      (contains_text_iff argument setting).mpr (.inr (by simpa using hcontains))
    have huntouched := hseparated.untouched argument hargument setting hne
      (setting.set none initialProperties)
    rw [get_readArgument, if_pos hfound, get_set_self] at huntouched
    cases huntouched
  · intro hapart
    refine ⟨get_readArguments hapart, ?_⟩
    intro argument hargument setting hne p
    rw [get_readArgument_text (hapart argument hargument setting), if_neg hne.symm]

/-- A password that contains the word for the login becomes the login too. -/
theorem not_separated_loginPassword :
    ¬ Separated [⟨.login, "cassandra"⟩, ⟨.password, "my-login-secret"⟩] := by
  intro hseparated
  exact absurd (hseparated.fields .login) (by decide +kernel)

end RestaurantServer.SpringBootWebApplication
