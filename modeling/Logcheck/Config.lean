import Mathlib.Data.List.Basic

/-! Which checks run, and on which files: the `config` of the analyser and the defaults that
`Analyser` gives it from its flags and the environment. The per-file filter `RegexpFilter` is
defined outside the analyser's source; its `Enabled` method is a parameter of the config, and its
`Set` a parameter of `Analyser`. `Analyser` reads the environment in a loop over a Go map, whose
order is unspecified; the config it builds is the same in every order. -/
namespace Logcheck

/-- The checks, one per constant `structuredCheck` … `deprecationsCheck`. -/
inductive Check where
  | structured | parameters | contextual | withHelpers | verbosityZero | key | deprecations
  deriving DecidableEq, Repr

/-- The key of each check in the `checks` map, as the constants spell it. -/
def Check.name : Check → String
  | structured => "structured"
  | parameters => "parameters"
  | contextual => "contextual"
  | withHelpers => "with-helpers"
  | verbosityZero => "verbosity-zero"
  | key => "key"
  | deprecations => "deprecations"

def allChecks : List Check :=
  [.structured, .parameters, .contextual, .withHelpers, .verbosityZero, .key, .deprecations]

theorem mem_allChecks (check : Check) : check ∈ allChecks := by cases check <;> decide

/-- `RegexpFilter.Enabled(check, enabled, filename)`: whether the check named `check` runs on
`filename` when its flag is `enabled`. -/
abbrev FileOverrides := String → Bool → String → Bool

/-- A filter without lines, as `Analyser` leaves it when no `-config` file is given: every check
keeps its flag value on every file. -/
def noFileOverrides : FileOverrides := fun _ enabled _ => enabled

structure Config where
  enabled : Check → Bool
  fileOverrides : FileOverrides

def Config.isEnabled (c : Config) (check : Check) (filename : String) : Bool :=
  c.fileOverrides check.name (c.enabled check) filename

/-- The defaults `Analyser` registers for the flags `-check-…`. -/
def defaultEnabled : Check → Bool
  | .structured => true
  | .parameters => true
  | .contextual => false
  | .withHelpers => false
  | .verbosityZero => true
  | .key => true
  | .deprecations => true

/-- The config of `Analyser` without flags, environment variables or a config file. -/
def defaultConfig : Config := ⟨defaultEnabled, noFileOverrides⟩

/-- `strconv.ParseBool`. -/
def parseBool : String → Option Bool
  | "1" | "t" | "T" | "TRUE" | "true" | "True" => some true
  | "0" | "f" | "F" | "FALSE" | "false" | "False" => some false
  | _ => none

/-- `"LOGCHECK_" + strings.ToUpper(strings.ReplaceAll(key, "-", "_"))`. -/
def Check.envVarName (check : Check) : String :=
  "LOGCHECK_" ++ ⟨check.name.data.map fun c => if c = '-' then '_' else c.toUpper⟩

/-- Why `Analyser` panics: the variable and value of
`fmt.Errorf("%s=%q: %v", envVarName, value, err)`, where `err` is the error of `strconv.ParseBool`,
or the value of `LOGCHECK_CONFIG` and the error of `RegexpFilter.Set`. -/
inductive AnalyserPanic where
  | parseBool (envVarName value : String)
  | config (value err : String)
  deriving DecidableEq, Repr

/-- One turn of the loop over `c.enabled` in `Analyser`: a set `LOGCHECK_…` variable replaces the
default of its check, and one that `strconv.ParseBool` rejects is a panic. -/
def readEnvVar (lookupEnv : String → Option String) (enabled : Check → Bool) (check : Check) :
    Except AnalyserPanic (Check → Bool) :=
  match lookupEnv check.envVarName with
  | some value => match parseBool value with
    | some v => .ok (Function.update enabled check v)
    | none => .error (.parseBool check.envVarName value)
  | none => .ok enabled

/-- The loop `for key, enabled := range c.enabled` of `Analyser`, with the keys in the order
`order` in which the map happens to yield them. -/
def readEnv (lookupEnv : String → Option String) (order : List Check) :
    Except AnalyserPanic (Check → Bool) :=
  order.foldlM (readEnvVar lookupEnv) defaultEnabled

/-- `RegexpFilter.Set` on the filter of `Analyser`, with the text of its error. -/
abbrev SetFileOverrides := String → Except String FileOverrides

/-- The `config` that `Analyser` hands to `run` before any flag is parsed: the flag defaults after
the environment, and the filter of `LOGCHECK_CONFIG`. -/
def analyserConfig (lookupEnv : String → Option String) (setFileOverrides : SetFileOverrides)
    (order : List Check) : Except AnalyserPanic Config := do
  let enabled ← readEnv lookupEnv order
  match lookupEnv "LOGCHECK_CONFIG" with
  | some value => match setFileOverrides value with
    | .ok fileOverrides => .ok ⟨enabled, fileOverrides⟩
    | .error err => .error (.config value err)
  | none => .ok ⟨enabled, noFileOverrides⟩

/-- Whether the variable of `check` is unset or parses. -/
def envParses (lookupEnv : String → Option String) (check : Check) : Bool :=
  (lookupEnv check.envVarName).all fun v => (parseBool v).isSome

/-- What the environment makes of the default `fallback` of `check`: the value of its variable,
which must parse, or `fallback` when it is unset. -/
def EnvValue (lookupEnv : String → Option String) (fallback : Bool) (check : Check) (b : Bool) :
    Prop :=
  match lookupEnv check.envVarName with
  | some value => parseBool value = some b
  | none => b = fallback

section EnvLoop

variable {lookupEnv : String → Option String}

theorem foldlM_readEnvVar_eq_ok {order : List Check} (hNodup : order.Nodup)
    {enabled e : Check → Bool} :
    order.foldlM (readEnvVar lookupEnv) enabled = .ok e ↔
      ∀ check, if check ∈ order then EnvValue lookupEnv (enabled check) check (e check)
        else e check = enabled check := by
  induction order generalizing enabled with
  | nil => simp [funext_iff, eq_comm, pure, Except.pure]
  | cons k ks ih =>
    obtain ⟨hk, hNodup⟩ := List.nodup_cons.mp hNodup
    rw [List.foldlM_cons]
    cases hv : lookupEnv k.envVarName with
    | none =>
      simp only [readEnvVar, hv, bind, Except.bind, ih hNodup]
      refine forall_congr' fun check => ?_
      by_cases hc : check = k
      · subst hc
        simp [hk, EnvValue, hv]
      · simp [hc]
    | some value =>
      cases hb : parseBool value with
      | none =>
        simp only [readEnvVar, hv, hb, bind, Except.bind]
        refine iff_of_false (by simp) fun h => ?_
        simpa [EnvValue, hv, hb] using h k
      | some b =>
        simp only [readEnvVar, hv, hb, bind, Except.bind, ih hNodup]
        refine forall_congr' fun check => ?_
        by_cases hc : check = k
        · subst hc
          simp [hk, EnvValue, hv, hb, eq_comm]
        · simp [hc, Function.update_noteq hc]

/-- The loop panics at the first check, in the order of the map, whose variable
`strconv.ParseBool` rejects. -/
theorem foldlM_readEnvVar_eq_error {order : List Check} {enabled : Check → Bool}
    {p : AnalyserPanic} :
    order.foldlM (readEnvVar lookupEnv) enabled = .error p ↔
      ∃ check value, order.find? (fun k => !envParses lookupEnv k) = some check ∧
        lookupEnv check.envVarName = some value ∧ p = .parseBool check.envVarName value := by
  induction order generalizing enabled with
  | nil => simp [pure, Except.pure]
  | cons k ks ih =>
    rw [List.foldlM_cons]
    cases hv : lookupEnv k.envVarName with
    | none => simp [readEnvVar, envParses, hv, bind, Except.bind, ih]
    | some value =>
      cases hb : parseBool value with
      | none => simp [readEnvVar, envParses, hv, hb, bind, Except.bind, eq_comm]
      | some b => simp [readEnvVar, envParses, hv, hb, bind, Except.bind, ih]

theorem find?_envParses_of_ok {order : List Check} {enabled e : Check → Bool}
    (h : order.foldlM (readEnvVar lookupEnv) enabled = .ok e) :
    order.find? (fun k => !envParses lookupEnv k) = none := by
  induction order generalizing enabled with
  | nil => rfl
  | cons k ks ih =>
    rw [List.foldlM_cons] at h
    cases hv : lookupEnv k.envVarName with
    | none =>
      simp only [readEnvVar, hv, bind, Except.bind] at h
      simpa [envParses, hv] using ih h
    | some value =>
      cases hb : parseBool value with
      | none => simp [readEnvVar, hv, hb, bind, Except.bind] at h
      | some b =>
        simp only [readEnvVar, hv, hb, bind, Except.bind] at h
        simpa [envParses, hv, hb] using ih h

theorem readEnv_eq_ok {order : List Check} (hOrder : order.Perm allChecks) {e : Check → Bool} :
    readEnv lookupEnv order = .ok e ↔
      ∀ check, EnvValue lookupEnv (defaultEnabled check) check (e check) := by
  rw [readEnv, foldlM_readEnvVar_eq_ok (hOrder.nodup_iff.mpr (by decide))]
  simp [hOrder.mem_iff, mem_allChecks]

end EnvLoop

/-- Whatever order the map of checks is walked in, `Analyser` builds the config `c` exactly when
every set `LOGCHECK_…` variable parses to the flag default of its check, every other check keeps the
default it is registered with, and `c` has the filter that `LOGCHECK_CONFIG` sets, or none. -/
theorem analyserConfig_eq_ok {lookupEnv : String → Option String}
    {setFileOverrides : SetFileOverrides} {order : List Check} {c : Config}
    (hOrder : order.Perm allChecks) :
    analyserConfig lookupEnv setFileOverrides order = .ok c ↔
      (∀ check, EnvValue lookupEnv (defaultEnabled check) check (c.enabled check)) ∧
      match lookupEnv "LOGCHECK_CONFIG" with
      | some value => setFileOverrides value = .ok c.fileOverrides
      | none => c.fileOverrides = noFileOverrides := by
  obtain ⟨enabled, fileOverrides⟩ := c
  rw [← readEnv_eq_ok hOrder, analyserConfig]
  cases readEnv lookupEnv order with
  | error p => simp [bind, Except.bind]
  | ok e =>
    cases lookupEnv "LOGCHECK_CONFIG" with
    | none => simp [bind, Except.bind, pure, Except.pure, and_comm, eq_comm]
    | some value =>
      cases hSet : setFileOverrides value <;> simp [bind, Except.bind, hSet, and_comm, eq_comm]

/-- `Analyser` panics on the first check, in the order the map is walked, whose variable
`strconv.ParseBool` rejects; when all parse, on an error of `RegexpFilter.Set` on `LOGCHECK_CONFIG`.
Which variable a panic names can so depend on the order. -/
theorem analyserConfig_eq_error {lookupEnv : String → Option String}
    {setFileOverrides : SetFileOverrides} {order : List Check} {p : AnalyserPanic} :
    analyserConfig lookupEnv setFileOverrides order = .error p ↔
      (∃ check value, order.find? (fun k => !envParses lookupEnv k) = some check ∧
        lookupEnv check.envVarName = some value ∧ p = .parseBool check.envVarName value) ∨
      (order.find? (fun k => !envParses lookupEnv k) = none ∧
        ∃ value err, lookupEnv "LOGCHECK_CONFIG" = some value ∧ setFileOverrides value = .error err ∧
          p = .config value err) := by
  rw [analyserConfig]
  cases hR : readEnv lookupEnv order with
  | error q =>
    obtain ⟨check, value, hFind, hv, rfl⟩ := foldlM_readEnvVar_eq_error.mp hR
    simp [bind, Except.bind, hFind, hv, eq_comm]
  | ok e =>
    simp only [bind, Except.bind, find?_envParses_of_ok hR, reduceCtorEq, false_and, exists_false,
      true_and, false_or]
    cases lookupEnv "LOGCHECK_CONFIG" with
    | none => simp
    | some value => cases hSet : setFileOverrides value <;> simp [hSet, eq_comm]

example :
    analyserConfig
        (fun name => if name = "LOGCHECK_KEY" ∨ name = "LOGCHECK_PARAMETERS" then some "no" else none)
        (fun _ => .error "") allChecks =
      .error (.parseBool "LOGCHECK_PARAMETERS" "no") ∧
    analyserConfig
        (fun name => if name = "LOGCHECK_KEY" ∨ name = "LOGCHECK_PARAMETERS" then some "no" else none)
        (fun _ => .error "") allChecks.reverse =
      .error (.parseBool "LOGCHECK_KEY" "no") := ⟨rfl, rfl⟩

/-- `LOGCHECK_KEY=false` turns the key check off, here with the checks walked backwards. -/
theorem keyOff_analyserConfig :
    allChecks.reverse.Perm allChecks ∧
    analyserConfig (fun name => if name = "LOGCHECK_KEY" then some "false" else none)
        (fun _ => .error "") allChecks.reverse =
      .ok ⟨fun check => check != .key && defaultEnabled check, noFileOverrides⟩ :=
  ⟨List.reverse_perm _,
    (analyserConfig_eq_ok (List.reverse_perm _)).mpr ⟨fun check => by cases check <;> rfl, rfl⟩⟩

end Logcheck
