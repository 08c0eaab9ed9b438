import Logcheck.Checks

/-! When a structured call passes: a klog or `logr.Logger` call with key/value arguments gets no
diagnostic, and does not crash, exactly when every check that is on for its file accepts it. The
conditions are stated over the call as written, through `KeysAccepted`. -/
namespace Logcheck

section Silence

variable {c : Config} {pass : Pass} {x : Node} {fName filename : String} {args : List Node}
  {low : Nat}

theorem verbosityZeroDiagnostics_eq_nil {fn : Node} :
    verbosityZeroDiagnostics c pass fn filename = [] ↔
      (c.isEnabled .verbosityZero filename = true → checkForVerbosityZero pass fn = none) := by
  unfold verbosityZeroDiagnostics
  split_ifs with h
  · cases checkForVerbosityZero pass fn <;> simp [h]
  · simp [h]

theorem klogKeyCheck_eq_some_nil (hStart : klogKeyValuesStart fName = some low) :
    klogKeyCheck c pass (.selectorExpr x fName) args fName filename = some [] ↔
      (c.isEnabled .verbosityZero filename = true →
        checkForVerbosityZero pass (.selectorExpr x fName) = none) ∧
      (c.isEnabled .key filename = true → hasFormatSpecifier args = none →
        low ≤ args.length ∧
          KeysAccepted (fun text => isGuidelineKey (Strings.trim text "\"").data) (args.drop low)) := by
  unfold klogKeyCheck
  split_ifs with hKey hFormat
  · rw [checkFormatSpecifier_selector] at hFormat
    simp [verbosityZeroDiagnostics_eq_nil, hFormat]
  · rw [checkFormatSpecifier_selector, not_not] at hFormat
    by_cases hShort : args.length < low
    · simp [hStart, checkKeyValuesFrom_of_start, hShort, hKey, hFormat]
    · simp [hStart, checkKeyValuesFrom_of_start, hShort, Nat.not_lt.mp hShort, hKey, hFormat,
        keysCheck_eq_nil_iff, verbosityZeroDiagnostics_eq_nil]
  · simp [verbosityZeroDiagnostics_eq_nil, hKey]

theorem klogParametersCheck_eq_some_nil (hStart : klogKeyValuesStart fName = some low) :
    klogParametersCheck c pass (.selectorExpr x fName) args fName filename = some [] ↔
      (c.isEnabled .parameters filename = true →
        hasFormatSpecifier args = none ∧ low ≤ args.length ∧ KeysAccepted isASCII (args.drop low)) ∧
      klogKeyCheck c pass (.selectorExpr x fName) args fName filename = some [] := by
  unfold klogParametersCheck
  rw [checkForFormatSpecifier_selector (klog_structured_names hStart).2.2.1]
  split_ifs with hParams
  · cases hFormat : hasFormatSpecifier args with
    | some specifier => simp [hParams]
    | none =>
      by_cases hShort : args.length < low
      · simp [hStart, checkKeyValuesFrom_of_start, hShort, hParams]
      · cases hRest : klogKeyCheck c pass (.selectorExpr x fName) args fName filename <;>
          simp [hStart, checkKeyValuesFrom_of_start, hShort, Nat.not_lt.mp hShort, hParams, hRest,
            isKeysValid_eq_nil_iff]
  · simp [hParams]

theorem checkKlogCall_eq_some_nil (hStart : klogKeyValuesStart fName = some low) :
    checkKlogCall c pass (.selectorExpr x fName) args fName filename = some [] ↔
      c.isEnabled .contextual filename = false ∧
        klogParametersCheck c pass (.selectorExpr x fName) args fName filename = some [] := by
  obtain ⟨hContextual, hUnstructured, -, hLookup⟩ := klog_structured_names hStart
  simp only [checkKlogCall, hContextual, hUnstructured, deprecatedDiagnostics_of_lookup hLookup,
    Bool.not_false, Bool.and_true, Bool.and_false, Bool.false_eq_true, if_false, ite_self,
    List.nil_append]
  split_ifs with hOn <;> simp [hOn]

theorem loggerParametersCheck_eq_some_nil (hStart : loggerKeyValuesStart fName = some low) :
    loggerParametersCheck c pass (.selectorExpr x fName) args fName filename = some [] ↔
      (c.isEnabled .parameters filename = true →
        hasFormatSpecifier args = none ∧ low ≤ args.length ∧ KeysAccepted isASCII (args.drop low)) := by
  unfold loggerParametersCheck
  rw [checkForFormatSpecifier_selector (logger_structured_names hStart)]
  split_ifs with hParams
  · by_cases hShort : args.length < low
    · simp [hStart, checkKeyValuesFrom_of_start, hShort, hParams]
    · cases hFormat : hasFormatSpecifier args <;>
        simp [hStart, checkKeyValuesFrom_of_start, hShort, Nat.not_lt.mp hShort, hParams, hFormat,
          isKeysValid_eq_nil_iff]
  · simp [hParams]

theorem loggerKeyCheck_eq_some_nil (hStart : loggerKeyValuesStart fName = some low) :
    loggerKeyCheck c pass (.selectorExpr x fName) args fName filename = some [] ↔
      (c.isEnabled .key filename = true → hasFormatSpecifier args = none →
        low ≤ args.length ∧
          KeysAccepted (fun text => isGuidelineKey (Strings.trim text "\"").data) (args.drop low)) := by
  unfold loggerKeyCheck
  split_ifs with hKey hFormat
  · rw [checkFormatSpecifier_selector] at hFormat
    simp [hFormat]
  · rw [checkFormatSpecifier_selector, not_not] at hFormat
    by_cases hShort : args.length < low
    · simp [hStart, checkKeyValuesFrom_of_start, hShort, hKey, hFormat]
    · simp [hStart, checkKeyValuesFrom_of_start, hShort, Nat.not_lt.mp hShort, hKey, hFormat,
        keysCheck_eq_nil_iff]
  · simp [hKey]

theorem checkLoggerCall_eq_some_nil {fn : Node} :
    checkLoggerCall c pass fn args fName filename = some [] ↔
      loggerParametersCheck c pass fn args fName filename = some [] ∧
      (c.isEnabled .withHelpers filename && (fName == "WithValues" || fName == "WithName")) = false ∧
      verbosityZeroDiagnostics c pass fn filename = [] ∧
      loggerKeyCheck c pass fn args fName filename = some [] := by
  unfold checkLoggerCall
  split_ifs with hHelpers <;>
    cases loggerParametersCheck c pass fn args fName filename <;>
    cases loggerKeyCheck c pass fn args fName filename <;> simp [hHelpers]

end Silence

/-- A call of `InfoS` or `ErrorS` on klog or a `klog.Verbose` gets no diagnostic and does not crash
exactly when the contextual check is off for its file and every check that is on passes it: the
parameters check finds no format specifier and an even number of key/value arguments with an ASCII
string literal at every key position, the verbosity-zero check finds no `V(0)`, and the key check,
unless a format specifier stops it, finds guideline keys. -/
theorem klog_call_silent_iff {c : Config} {pass : Pass} {x : Node} {fName : String}
    {args : List Node} {params : List String} (hKlog : isKlog pass x = true)
    (hParams : klogFixedParams fName = some params) :
    let filename := callFilename pass (.selectorExpr x fName)
    checkForFunctionExpr c pass (.selectorExpr x fName) args = some [] ↔
      c.isEnabled .contextual filename = false ∧
      (c.isEnabled .parameters filename = true →
        hasFormatSpecifier args = none ∧ params.length ≤ args.length ∧
          KeysAccepted isASCII (args.drop params.length)) ∧
      (c.isEnabled .verbosityZero filename = true →
        checkForVerbosityZero pass (.selectorExpr x fName) = none) ∧
      (c.isEnabled .key filename = true → hasFormatSpecifier args = none →
        params.length ≤ args.length ∧
          KeysAccepted (fun text => isGuidelineKey (Strings.trim text "\"").data)
            (args.drop params.length)) := by
  intro filename
  have hStart := klogKeyValuesStart_of_params hParams
  simp only [checkForFunctionExpr]
  rw [if_pos hKlog, checkKlogCall_eq_some_nil hStart, klogParametersCheck_eq_some_nil hStart,
    klogKeyCheck_eq_some_nil hStart]

/-- `klog.InfoS("msg", "podName", pod)` passes every check on by default. -/
theorem infoS_podName_silent :
    isKlog examplePass (.ident 40 "klog" none) = true ∧ klogFixedParams "InfoS" = some ["msg"] ∧
    checkForFunctionExpr defaultConfig examplePass (.selectorExpr (.ident 40 "klog" none) "InfoS")
        [.basicLit 51 .string "\"msg\"", .basicLit 58 .string "\"podName\"", .ident 69 "pod" none] =
      some [] ∧
    let filename := callFilename examplePass (.selectorExpr (.ident 40 "klog" none) "InfoS")
    (checkForFunctionExpr defaultConfig examplePass (.selectorExpr (.ident 40 "klog" none) "InfoS")
        [.basicLit 51 .string "\"msg\"", .basicLit 58 .string "\"podName\"", .ident 69 "pod" none] =
      some [] ↔
      defaultConfig.isEnabled .contextual filename = false ∧
      (defaultConfig.isEnabled .parameters filename = true →
        hasFormatSpecifier
            [.basicLit 51 .string "\"msg\"", .basicLit 58 .string "\"podName\"", .ident 69 "pod" none] =
          none ∧
        ["msg"].length ≤ 3 ∧
        KeysAccepted isASCII
          ([.basicLit 51 .string "\"msg\"", .basicLit 58 .string "\"podName\"", .ident 69 "pod" none].drop
            ["msg"].length)) ∧
      (defaultConfig.isEnabled .verbosityZero filename = true →
        checkForVerbosityZero examplePass (.selectorExpr (.ident 40 "klog" none) "InfoS") = none) ∧
      (defaultConfig.isEnabled .key filename = true →
        hasFormatSpecifier
            [.basicLit 51 .string "\"msg\"", .basicLit 58 .string "\"podName\"", .ident 69 "pod" none] =
          none →
        ["msg"].length ≤ 3 ∧
          KeysAccepted (fun text => isGuidelineKey (Strings.trim text "\"").data)
            ([.basicLit 51 .string "\"msg\"", .basicLit 58 .string "\"podName\"", .ident 69 "pod" none].drop
              ["msg"].length))) :=
  ⟨rfl, rfl, rfl, klog_call_silent_iff rfl rfl⟩

/-- A call of `Info`, `Error` or `WithValues` on a `logr.Logger` gets no diagnostic and does not
crash exactly when every check that is on for its file passes it. The parameters check needs no
format specifier and an even number of key/value arguments with an ASCII string literal at every
key position. The with-helpers check rejects `WithValues`, the verbosity-zero check rejects `V(0)`,
and the key check, unless a format specifier stops it, needs guideline keys. -/
theorem logger_call_silent_iff {c : Config} {pass : Pass} {x : Node} {fName : String}
    {args : List Node} {params : List String} (hKlog : isKlog pass x = false)
    (hLogger : isGoLogger pass x = true) (hParams : loggerFixedParams fName = some params) :
    let filename := callFilename pass (.selectorExpr x fName)
    checkForFunctionExpr c pass (.selectorExpr x fName) args = some [] ↔
      (c.isEnabled .parameters filename = true →
        hasFormatSpecifier args = none ∧ params.length ≤ args.length ∧
          KeysAccepted isASCII (args.drop params.length)) ∧
      (c.isEnabled .withHelpers filename = true → fName ≠ "WithValues") ∧
      (c.isEnabled .verbosityZero filename = true →
        checkForVerbosityZero pass (.selectorExpr x fName) = none) ∧
      (c.isEnabled .key filename = true → hasFormatSpecifier args = none →
        params.length ≤ args.length ∧
          KeysAccepted (fun text => isGuidelineKey (Strings.trim text "\"").data)
            (args.drop params.length)) := by
  intro filename
  have hStart := loggerKeyValuesStart_of_params hParams
  simp only [checkForFunctionExpr]
  rw [if_neg (by simp [hKlog]), if_pos hLogger, checkLoggerCall_eq_some_nil,
    loggerParametersCheck_eq_some_nil hStart, loggerKeyCheck_eq_some_nil hStart,
    verbosityZeroDiagnostics_eq_nil]
  rcases loggerKeyValuesStart_eq_some hStart with ⟨rfl, -⟩ | ⟨rfl, -⟩ | ⟨rfl, -⟩ <;> simp

/-- `logger.WithValues("podName", pod)` passes every check on by default: the with-helpers check,
which would reject it, is off. -/
theorem withValues_podName_silent :
    isKlog examplePass (.ident 40 "logger" none) = false ∧
    isGoLogger examplePass (.ident 40 "logger" none) = true ∧ loggerFixedParams "WithValues" = some [] ∧
    checkForFunctionExpr defaultConfig examplePass (.selectorExpr (.ident 40 "logger" none) "WithValues")
        [.basicLit 58 .string "\"podName\"", .ident 69 "pod" none] = some [] ∧
    let filename := callFilename examplePass (.selectorExpr (.ident 40 "logger" none) "WithValues")
    (checkForFunctionExpr defaultConfig examplePass (.selectorExpr (.ident 40 "logger" none) "WithValues")
        [.basicLit 58 .string "\"podName\"", .ident 69 "pod" none] = some [] ↔
      (defaultConfig.isEnabled .parameters filename = true →
        hasFormatSpecifier [.basicLit 58 .string "\"podName\"", .ident 69 "pod" none] = none ∧
        ([] : List String).length ≤ 2 ∧
        KeysAccepted isASCII
          ([.basicLit 58 .string "\"podName\"", .ident 69 "pod" none].drop ([] : List String).length)) ∧
      (defaultConfig.isEnabled .withHelpers filename = true → "WithValues" ≠ "WithValues") ∧
      (defaultConfig.isEnabled .verbosityZero filename = true →
        checkForVerbosityZero examplePass (.selectorExpr (.ident 40 "logger" none) "WithValues") = none) ∧
      (defaultConfig.isEnabled .key filename = true →
        hasFormatSpecifier [.basicLit 58 .string "\"podName\"", .ident 69 "pod" none] = none →
        ([] : List String).length ≤ 2 ∧
          KeysAccepted (fun text => isGuidelineKey (Strings.trim text "\"").data)
            ([.basicLit 58 .string "\"podName\"", .ident 69 "pod" none].drop ([] : List String).length))) :=
  ⟨rfl, rfl, rfl, rfl, logger_call_silent_iff rfl rfl rfl⟩

end Logcheck
