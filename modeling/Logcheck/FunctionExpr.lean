import Logcheck.Config
import Logcheck.Klog
import Logcheck.Keys
import Logcheck.FormatSpecifier

/-! `checkForFunctionExpr`, the checks of one call, split along the blocks of the source: the
klog branch, the `logr.Logger` branch and the `NewContext` check. A result `none` is a run-time
panic of the analyser. -/
namespace Logcheck

def contextualMessage (fName : String) : String :=
  "function " ++ quote fName ++ " should not be used, convert to contextual logging"

def unstructuredMessage (fName : String) : String :=
  "unstructured logging function " ++ quote fName ++ " should not be used"

def withHelpersMessage (fName : String) : String :=
  "function " ++ quote fName ++ " should be called through klogr.Logger" ++ fName

def newContextMessage (fName : String) : String :=
  "function " ++ quote fName ++ " should be called through klogr.NewContext"

/-- Where the key/value arguments of a klog call start: `args[1:]` for `InfoS`, `args[2:]` for
`ErrorS`; other calls have none. -/
def klogKeyValuesStart : String → Option Nat
  | "InfoS" => some 1
  | "ErrorS" => some 2
  | _ => none

/-- The same for a `logr.Logger`; `WithValues` passes all of `args`, which `args[0:]` is. -/
def loggerKeyValuesStart : String → Option Nat
  | "WithValues" => some 0
  | "Info" => some 1
  | "Error" => some 2
  | _ => none

/-- The parameters ahead of `keysAndValues ...interface{}` in the signatures of the structured klog
functions, `InfoS(msg string, keysAndValues ...interface{})` and
`ErrorS(err error, msg string, keysAndValues ...interface{})`, which `klog.Verbose` has as methods
too. -/
def klogFixedParams : String → Option (List String)
  | "InfoS" => some ["msg"]
  | "ErrorS" => some ["err", "msg"]
  | _ => none

/-- The same for the methods `Info(msg string, keysAndValues ...interface{})`,
`Error(err error, msg string, keysAndValues ...interface{})` and
`WithValues(keysAndValues ...interface{})` of `logr.Logger`. -/
def loggerFixedParams : String → Option (List String)
  | "Info" => some ["msg"]
  | "Error" => some ["err", "msg"]
  | "WithValues" => some []
  | _ => none

/-- The klog branch slices the arguments after the fixed parameters of the signature. -/
theorem klogKeyValuesStart_eq (fName : String) :
    klogKeyValuesStart fName = (klogFixedParams fName).map List.length := by
  simp only [klogKeyValuesStart, klogFixedParams]
  split <;> simp_all

/-- So does the `logr.Logger` branch. -/
theorem loggerKeyValuesStart_eq (fName : String) :
    loggerKeyValuesStart fName = (loggerFixedParams fName).map List.length := by
  simp only [loggerKeyValuesStart, loggerFixedParams]
  split <;> simp_all

theorem klogKeyValuesStart_eq_some_iff {fName : String} {low : Nat} :
    klogKeyValuesStart fName = some low ↔
      ∃ params, klogFixedParams fName = some params ∧ params.length = low := by
  rw [klogKeyValuesStart_eq, Option.map_eq_some']

theorem loggerKeyValuesStart_eq_some_iff {fName : String} {low : Nat} :
    loggerKeyValuesStart fName = some low ↔
      ∃ params, loggerFixedParams fName = some params ∧ params.length = low := by
  rw [loggerKeyValuesStart_eq, Option.map_eq_some']

theorem klogKeyValuesStart_of_params {fName : String} {params : List String}
    (h : klogFixedParams fName = some params) : klogKeyValuesStart fName = some params.length :=
  klogKeyValuesStart_eq_some_iff.mpr ⟨params, h, rfl⟩

theorem loggerKeyValuesStart_of_params {fName : String} {params : List String}
    (h : loggerFixedParams fName = some params) : loggerKeyValuesStart fName = some params.length :=
  loggerKeyValuesStart_eq_some_iff.mpr ⟨params, h, rfl⟩

/-- A key/value check on `args[start:]`, for a call that has key/value arguments. -/
def checkKeyValuesFrom (start : Option Nat) (check : List Node → List Diagnostic)
    (args : List Node) : Option (List Diagnostic) :=
  match start with
  | some low => check <$> sliceFrom args low
  | none => some []

/-- The diagnostics of the deprecations check. -/
def deprecatedDiagnostics (fn : Node) (fName : String) : List Diagnostic :=
  let (message, deprecatedUse) := isDeprecatedContextualCall fName
  if deprecatedUse then [{ pos := fn.pos, message := message }] else []

def verbosityZeroDiagnostics (c : Config) (pass : Pass) (fn : Node) (filename : String) :
    List Diagnostic :=
  if c.isEnabled .verbosityZero filename then (checkForVerbosityZero pass fn).toList else []

/-- Lines 196-212: the verbosity-zero check, then the key check. -/
def klogKeyCheck (c : Config) (pass : Pass) (fn : Node) (args : List Node)
    (fName filename : String) : Option (List Diagnostic) :=
  let verbosity := verbosityZeroDiagnostics c pass fn filename
  if c.isEnabled .key filename then
    if checkFormatSpecifier fn args then some verbosity
    else (verbosity ++ ·) <$>
      checkKeyValuesFrom (klogKeyValuesStart fName) (keysCheck pass · fn fName) args
  else some verbosity

/-- Lines 179-212: the parameters check, which stops at a format specifier, and what follows. -/
def klogParametersCheck (c : Config) (pass : Pass) (fn : Node) (args : List Node)
    (fName filename : String) : Option (List Diagnostic) :=
  if c.isEnabled .parameters filename then
    match checkForFormatSpecifier fn args with
    | some d => some [d]
    | none => do
      let keys ← checkKeyValuesFrom (klogKeyValuesStart fName) (isKeysValid pass · fn fName) args
      let structured :=
        if c.isEnabled .parameters filename then (checkForFormatSpecifier fn args).toList else []
      let rest ← klogKeyCheck c pass fn args fName filename
      return keys ++ structured ++ rest
  else klogKeyCheck c pass fn args fName filename

/-- Lines 150-212: a call on the klog package or on a `klog.Verbose`. -/
def checkKlogCall (c : Config) (pass : Pass) (fn : Node) (args : List Node)
    (fName filename : String) : Option (List Diagnostic) :=
  if c.isEnabled .contextual filename && !isContextualCall fName then
    some [{ pos := fn.pos, message := contextualMessage fName }]
  else
    let deprecated := if c.isEnabled .deprecations filename then deprecatedDiagnostics fn fName else []
    if c.isEnabled .structured filename && isUnstructured fName then
      some (deprecated ++ [{ pos := fn.pos, message := unstructuredMessage fName }])
    else (deprecated ++ ·) <$> klogParametersCheck c pass fn args fName filename

/-- Lines 214-224: the parameters check of a `logr.Logger` call, which goes on to the key/value
arguments after a format specifier. -/
def loggerParametersCheck (c : Config) (pass : Pass) (fn : Node) (args : List Node)
    (fName filename : String) : Option (List Diagnostic) :=
  if c.isEnabled .parameters filename then
    ((checkForFormatSpecifier fn args).toList ++ ·) <$>
      checkKeyValuesFrom (loggerKeyValuesStart fName) (isKeysValid pass · fn fName) args
  else some []

/-- Lines 239-253: the key check of a `logr.Logger` call, which stops at a format specifier. -/
def loggerKeyCheck (c : Config) (pass : Pass) (fn : Node) (args : List Node)
    (fName filename : String) : Option (List Diagnostic) :=
  if c.isEnabled .key filename then
    if checkFormatSpecifier fn args then some []
    else checkKeyValuesFrom (loggerKeyValuesStart fName) (keysCheck pass · fn fName) args
  else some []

/-- Lines 213-253: a call on a `logr.Logger`. -/
def checkLoggerCall (c : Config) (pass : Pass) (fn : Node) (args : List Node)
    (fName filename : String) : Option (List Diagnostic) := do
  let parameters ← loggerParametersCheck c pass fn args fName filename
  let helpers :=
    if c.isEnabled .withHelpers filename && (fName == "WithValues" || fName == "WithName") then
      [{ pos := fn.pos, message := withHelpersMessage fName }]
    else []
  let verbosity := verbosityZeroDiagnostics c pass fn filename
  let keys ← loggerKeyCheck c pass fn args fName filename
  return parameters ++ helpers ++ verbosity ++ keys

/-- `pass.Pkg.Path() + "/" + path.Base(…Filename)`, the name the per-file overrides match; a call
starts where its function does. -/
def callFilename (pass : Pass) (fn : Node) : String :=
  pass.pkgPath ++ "/" ++ pathBase (pass.filename fn.pos)

/-- `checkForFunctionExpr(fexpr, pass, c)` for the call `fn(args)`. -/
def checkForFunctionExpr (c : Config) (pass : Pass) (fn : Node) (args : List Node) :
    Option (List Diagnostic) :=
  match fn with
  | .selectorExpr x fName =>
    let filename := callFilename pass fn
    if isKlog pass x then checkKlogCall c pass fn args fName filename
    else if isGoLogger pass x then checkLoggerCall c pass fn args fName filename
    else if fName == "NewContext" && isPackage pass x "github.com/go-logr/logr" &&
        c.isEnabled .withHelpers filename then
      some [{ pos := fn.pos, message := newContextMessage fName }]
    else some []
  | _ => some []

section Panics

variable {c : Config} {pass : Pass} {fn : Node} {args : List Node} {fName filename : String}

theorem checkKeyValuesFrom_eq_none {start : Option Nat} {check : List Node → List Diagnostic} :
    checkKeyValuesFrom start check args = none ↔ ∃ low, start = some low ∧ args.length < low := by
  cases start <;> simp [checkKeyValuesFrom]

theorem klogKeyCheck_eq_none (h : klogKeyCheck c pass fn args fName filename = none) :
    ∃ low, klogKeyValuesStart fName = some low ∧ args.length < low := by
  unfold klogKeyCheck at h
  split_ifs at h
  simpa [checkKeyValuesFrom_eq_none] using h

theorem klogParametersCheck_eq_none (h : klogParametersCheck c pass fn args fName filename = none) :
    ∃ low, klogKeyValuesStart fName = some low ∧ args.length < low := by
  unfold klogParametersCheck at h
  split_ifs at h
  · split at h
    · cases h
    · cases hk : checkKeyValuesFrom (klogKeyValuesStart fName) (isKeysValid pass · fn fName) args with
      | none => exact checkKeyValuesFrom_eq_none.mp hk
      | some keys =>
        cases hr : klogKeyCheck c pass fn args fName filename with
        | none => exact klogKeyCheck_eq_none hr
        | some rest => simp [hk, hr] at h
  · exact klogKeyCheck_eq_none h

theorem checkKlogCall_eq_none (h : checkKlogCall c pass fn args fName filename = none) :
    ∃ low, klogKeyValuesStart fName = some low ∧ args.length < low := by
  unfold checkKlogCall at h
  split_ifs at h <;> exact klogParametersCheck_eq_none (Option.map_eq_none'.mp h)

theorem loggerParametersCheck_eq_none
    (h : loggerParametersCheck c pass fn args fName filename = none) :
    ∃ low, loggerKeyValuesStart fName = some low ∧ args.length < low := by
  unfold loggerParametersCheck at h
  split_ifs at h
  exact checkKeyValuesFrom_eq_none.mp (Option.map_eq_none'.mp h)

theorem loggerKeyCheck_eq_none (h : loggerKeyCheck c pass fn args fName filename = none) :
    ∃ low, loggerKeyValuesStart fName = some low ∧ args.length < low := by
  unfold loggerKeyCheck at h
  split_ifs at h
  exact checkKeyValuesFrom_eq_none.mp h

theorem checkLoggerCall_eq_none (h : checkLoggerCall c pass fn args fName filename = none) :
    ∃ low, loggerKeyValuesStart fName = some low ∧ args.length < low := by
  cases hP : loggerParametersCheck c pass fn args fName filename with
  | none => exact loggerParametersCheck_eq_none hP
  | some parameters =>
    cases hK : loggerKeyCheck c pass fn args fName filename with
    | none => exact loggerKeyCheck_eq_none hK
    | some keys => simp [checkLoggerCall, hP, hK] at h

/-- `checkForFunctionExpr` panics only on a key/value slice `args[low:]` of a structured klog or
`logr.Logger` call with fewer than `low` arguments. -/
theorem checkForFunctionExpr_eq_none (h : checkForFunctionExpr c pass fn args = none) :
    ∃ x fName low, fn = .selectorExpr x fName ∧ args.length < low ∧
      (isKlog pass x ∧ klogKeyValuesStart fName = some low ∨
        isKlog pass x = false ∧ isGoLogger pass x ∧ loggerKeyValuesStart fName = some low) := by
  unfold checkForFunctionExpr at h
  split at h
  · rename_i x fName
    split_ifs at h with hKlog hLogger
    · obtain ⟨low, hs, hl⟩ := checkKlogCall_eq_none h
      exact ⟨x, fName, low, rfl, hl, .inl ⟨hKlog, hs⟩⟩
    · obtain ⟨low, hs, hl⟩ := checkLoggerCall_eq_none h
      exact ⟨x, fName, low, rfl, hl, .inr ⟨by simpa using hKlog, hLogger, hs⟩⟩
    · simp only at h
      split_ifs at h
  · cases h

end Panics

end Logcheck
