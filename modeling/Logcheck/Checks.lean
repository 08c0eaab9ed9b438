import Logcheck.KeyValues

/-! What the configuration decides, over whole runs. The analyser crashes exactly on a structured
call on which a key/value check runs with fewer arguments than the call has fixed parameters.
Every diagnostic belongs to a check that is on for the file it is reported in, except the
context-and-logger and `V(…).Enabled()` diagnostics: `checkForContextAndLogger` and
`checkForIfEnabled` never read the configuration. A call reads the configuration only for its own
file, so what a run reports in one file depends only on the settings for that file. -/
namespace Logcheck

section Crash

variable {c : Config} {pass : Pass} {x : Node} {fName filename : String} {args : List Node}
  {low : Nat}

theorem checkKeyValuesFrom_of_start {check : List Node → List Diagnostic} :
    checkKeyValuesFrom (some low) check args =
      if args.length < low then none else some (check (args.drop low)) := by
  simp only [checkKeyValuesFrom, sliceFrom]
  split_ifs <;> first | omega | rfl

theorem klogKeyCheck_eq_none_iff (hStart : klogKeyValuesStart fName = some low) :
    klogKeyCheck c pass (.selectorExpr x fName) args fName filename = none ↔
      c.isEnabled .key filename = true ∧ hasFormatSpecifier args = none ∧ args.length < low := by
  unfold klogKeyCheck
  split_ifs with hKey hFormat
  · rw [checkFormatSpecifier_selector] at hFormat
    simp [hFormat]
  · rw [checkFormatSpecifier_selector, not_not] at hFormat
    simp [hStart, checkKeyValuesFrom_eq_none, hKey, hFormat]
  · simp [hKey]

theorem klogParametersCheck_eq_none_iff (hStart : klogKeyValuesStart fName = some low) :
    klogParametersCheck c pass (.selectorExpr x fName) args fName filename = none ↔
      (c.isEnabled .parameters filename = true ∨ c.isEnabled .key filename = true) ∧
        hasFormatSpecifier args = none ∧ args.length < low := by
  unfold klogParametersCheck
  rw [checkForFormatSpecifier_selector (klog_structured_names hStart).2.2.1]
  split_ifs with hParams
  · cases hFormat : hasFormatSpecifier args with
    | some specifier => simp
    | none =>
      cases hRest : klogKeyCheck c pass (.selectorExpr x fName) args fName filename with
      | none =>
        have hShort := ((klogKeyCheck_eq_none_iff hStart).mp hRest).2.2
        simp [hStart, checkKeyValuesFrom_of_start, hParams, hShort]
      | some rest =>
        by_cases hShort : args.length < low <;>
          simp [hStart, checkKeyValuesFrom_of_start, hRest, hParams, hShort]
  · simp [klogKeyCheck_eq_none_iff hStart, hParams]

theorem checkKlogCall_eq_none_iff (hStart : klogKeyValuesStart fName = some low) :
    checkKlogCall c pass (.selectorExpr x fName) args fName filename = none ↔
      c.isEnabled .contextual filename = false ∧
        (c.isEnabled .parameters filename = true ∨ c.isEnabled .key filename = true) ∧
        hasFormatSpecifier args = none ∧ args.length < low := by
  obtain ⟨hContextual, hUnstructured, -, hLookup⟩ := klog_structured_names hStart
  simp only [checkKlogCall, hContextual, hUnstructured, deprecatedDiagnostics_of_lookup hLookup,
    Bool.not_false, Bool.and_true, Bool.and_false, Bool.false_eq_true, if_false, ite_self,
    List.nil_append]
  split_ifs with hOn
  · simp [hOn]
  · simp [klogParametersCheck_eq_none_iff hStart, hOn]

theorem loggerParametersCheck_eq_none_iff {fn : Node} (hStart : loggerKeyValuesStart fName = some low) :
    loggerParametersCheck c pass fn args fName filename = none ↔
      c.isEnabled .parameters filename = true ∧ args.length < low := by
  unfold loggerParametersCheck
  split_ifs with hParams <;> simp [hStart, checkKeyValuesFrom_eq_none, hParams]

theorem loggerKeyCheck_eq_none_iff (hStart : loggerKeyValuesStart fName = some low) :
    loggerKeyCheck c pass (.selectorExpr x fName) args fName filename = none ↔
      c.isEnabled .key filename = true ∧ hasFormatSpecifier args = none ∧ args.length < low := by
  unfold loggerKeyCheck
  split_ifs with hKey hFormat
  · rw [checkFormatSpecifier_selector] at hFormat
    simp [hFormat]
  · rw [checkFormatSpecifier_selector, not_not] at hFormat
    simp [hStart, checkKeyValuesFrom_eq_none, hKey, hFormat]
  · simp [hKey]

/-- A `logr.Logger` call crashes in its parameters check or in its key check. -/
theorem checkLoggerCall_eq_none_iff_or {fn : Node} :
    checkLoggerCall c pass fn args fName filename = none ↔
      loggerParametersCheck c pass fn args fName filename = none ∨
        loggerKeyCheck c pass fn args fName filename = none := by
  unfold checkLoggerCall
  cases loggerParametersCheck c pass fn args fName filename <;>
    cases loggerKeyCheck c pass fn args fName filename <;> simp

theorem checkLoggerCall_eq_none_iff (hStart : loggerKeyValuesStart fName = some low) :
    checkLoggerCall c pass (.selectorExpr x fName) args fName filename = none ↔
      (c.isEnabled .parameters filename = true ∨
        c.isEnabled .key filename = true ∧ hasFormatSpecifier args = none) ∧ args.length < low := by
  rw [checkLoggerCall_eq_none_iff_or, loggerParametersCheck_eq_none_iff hStart,
    loggerKeyCheck_eq_none_iff hStart]
  tauto

/-- A structured call crashes exactly when a key/value check runs on it and it has fewer arguments
than fixed parameters: the condition of the count message, with a short list in place of an odd
one. -/
theorem checkForFunctionExpr_selector_eq_none_iff {params : List String}
    (hCall : isKlog pass x = true ∧ klogFixedParams fName = some params ∨
      isKlog pass x = false ∧ isGoLogger pass x = true ∧ loggerFixedParams fName = some params) :
    checkForFunctionExpr c pass (.selectorExpr x fName) args = none ↔
      keyValuesChecked c pass x fName args = true ∧ args.length < params.length := by
  simp only [checkForFunctionExpr]
  rcases hCall with ⟨hKlog, hParams⟩ | ⟨hKlog, hLogger, hParams⟩
  · rw [if_pos hKlog, checkKlogCall_eq_none_iff (klogKeyValuesStart_of_params hParams)]
    simp [keyValuesChecked, hKlog, Option.isNone_iff_eq_none, and_assoc]
  · rw [if_neg (by simp [hKlog]), if_pos hLogger,
      checkLoggerCall_eq_none_iff (loggerKeyValuesStart_of_params hParams)]
    simp [keyValuesChecked, hKlog, Option.isNone_iff_eq_none]

theorem checkForFunctionExpr_eq_none_iff {fn : Node} :
    checkForFunctionExpr c pass fn args = none ↔
      ∃ x fName params, fn = .selectorExpr x fName ∧
        (isKlog pass x = true ∧ klogFixedParams fName = some params ∨
          isKlog pass x = false ∧ isGoLogger pass x = true ∧ loggerFixedParams fName = some params) ∧
        keyValuesChecked c pass x fName args = true ∧ args.length < params.length := by
  constructor
  · intro h
    obtain ⟨x, fName, low, rfl, -, hStart⟩ := checkForFunctionExpr_eq_none h
    obtain ⟨params, hCall⟩ : ∃ params, isKlog pass x = true ∧ klogFixedParams fName = some params ∨
        isKlog pass x = false ∧ isGoLogger pass x = true ∧ loggerFixedParams fName = some params := by
      rcases hStart with ⟨hKlog, hStart⟩ | ⟨hKlog, hLogger, hStart⟩
      · obtain ⟨params, hParams, -⟩ := klogKeyValuesStart_eq_some_iff.mp hStart
        exact ⟨params, .inl ⟨hKlog, hParams⟩⟩
      · obtain ⟨params, hParams, -⟩ := loggerKeyValuesStart_eq_some_iff.mp hStart
        exact ⟨params, .inr ⟨hKlog, hLogger, hParams⟩⟩
    exact ⟨x, fName, params, rfl, hCall, (checkForFunctionExpr_selector_eq_none_iff hCall).mp h⟩
  · rintro ⟨x, fName, params, rfl, hCall, hChecked⟩
    exact (checkForFunctionExpr_selector_eq_none_iff hCall).mpr hChecked

end Crash

/-- The analyser crashes on a package exactly when one of its calls is `InfoS` or `ErrorS` on klog
or a `klog.Verbose`, or `Info`, `Error` or `WithValues` on a `logr.Logger`, a key/value check runs
on that call, and the call lists fewer arguments than the function has fixed parameters. -/
theorem run_eq_none_iff {c : Config} {pass : Pass} :
    run c pass = none ↔
      ∃ x fName args ellipsis params,
        .callExpr (.selectorExpr x fName) args ellipsis ∈ descendantsList pass.files ∧
        (isKlog pass x = true ∧ klogFixedParams fName = some params ∨
          isKlog pass x = false ∧ isGoLogger pass x = true ∧ loggerFixedParams fName = some params) ∧
        keyValuesChecked c pass x fName args = true ∧ args.length < params.length := by
  rw [run_eq_none]
  constructor
  · rintro ⟨fn, args, ellipsis, hMem, h⟩
    obtain ⟨x, fName, params, rfl, hCall, hChecked⟩ := checkForFunctionExpr_eq_none_iff.mp h
    exact ⟨x, fName, args, ellipsis, params, hMem, hCall, hChecked⟩
  · rintro ⟨x, fName, args, ellipsis, params, hMem, hCall, hChecked⟩
    exact ⟨_, args, ellipsis, hMem,
      checkForFunctionExpr_eq_none_iff.mpr ⟨x, fName, params, rfl, hCall, hChecked⟩⟩

section Gating

/-- The messages each check reports. The count and constant-key messages are those of the
parameters check and of the key check alike. -/
def Check.Message : Check → String → Prop
  | .structured, m => ∃ fName, m = unstructuredMessage fName
  | .parameters, m =>
    (∃ s, m = oddCountMessage s ∨ m = constantKeyMessage s ∨ m = nonLatinMessage s) ∨
      IsFormatSpecifierMessage m
  | .contextual, m => ∃ fName, m = contextualMessage fName
  | .withHelpers, m => ∃ fName, m = withHelpersMessage fName ∨ m = newContextMessage fName
  | .verbosityZero, m => m = verbosityZeroMessage
  | .key, m => ∃ s, m = oddCountMessage s ∨ m = constantKeyMessage s ∨ m = keyGuidelineMessage s
  | .deprecations, m =>
    ∃ fName, (isDeprecatedContextualCall fName).2 = true ∧ m = (isDeprecatedContextualCall fName).1

/-- Every diagnostic carries a message of a check that is on for `filename`. -/
def Gated (c : Config) (filename : String) (ds : List Diagnostic) : Prop :=
  ∀ d ∈ ds, ∃ check, c.isEnabled check filename = true ∧ check.Message d.message

variable {c : Config} {pass : Pass} {fn : Node} {args : List Node} {fName filename : String}
  {ds es : List Diagnostic}

namespace Gated

theorem nil : Gated c filename [] := fun _ hd => absurd hd (List.not_mem_nil _)

theorem append (h : Gated c filename ds) (h' : Gated c filename es) : Gated c filename (ds ++ es) :=
  fun d hd => (List.mem_append.mp hd).elim (h d) (h' d)

theorem single {d : Diagnostic} {check : Check} (hOn : c.isEnabled check filename = true)
    (hMessage : check.Message d.message) : Gated c filename [d] :=
  fun _ he => List.mem_singleton.mp he ▸ ⟨check, hOn, hMessage⟩

theorem option {o : Option Diagnostic} (h : ∀ d, o = some d → Gated c filename [d]) :
    Gated c filename o.toList := by
  cases o with
  | none => exact nil
  | some d => exact h d rfl

theorem ite_off {check : Check} (hOff : c.isEnabled check filename = true → Gated c filename ds) :
    Gated c filename (if c.isEnabled check filename then ds else []) := by
  split
  · exact hOff ‹_›
  · exact nil

/-- A key/value check on for `filename` reports its own messages. -/
theorem checkKeyValues {checkLiteral : String → Option String} {keyValues : List Node}
    {check : Check} (hOn : c.isEnabled check filename = true)
    (hMessages : ∀ s, check.Message (oddCountMessage s) ∧ check.Message (constantKeyMessage s))
    (hLit : ∀ v m, checkLiteral v = some m → check.Message m) :
    Gated c filename (Logcheck.checkKeyValues checkLiteral pass keyValues fn fName) := by
  intro d hd
  refine ⟨check, hOn, ?_⟩
  have hm := (mem_checkKeyValues.mp hd).2.2
  unfold keyValueMessages at hm
  split at hm
  · rw [List.mem_singleton.mp hm]
    exact (hMessages fName).1
  · obtain ⟨arg, -, harg⟩ := List.mem_filterMap.mp hm
    rcases keyArgMessage_eq_some harg with ⟨s, hs⟩ | ⟨p, v, -, hv⟩
    · exact hs ▸ (hMessages s).2
    · exact hLit v _ hv

end Gated

theorem gated_isKeysValid (hOn : c.isEnabled .parameters filename = true) (keyValues : List Node) :
    Gated c filename (isKeysValid pass keyValues fn fName) :=
  Gated.checkKeyValues hOn (fun s => ⟨.inl ⟨s, .inl rfl⟩, .inl ⟨s, .inr (.inl rfl)⟩⟩)
    fun _ _ h => .inl ⟨_, .inr (.inr (nonLatinKey_eq_some.mp h).2)⟩

theorem gated_keysCheck (hOn : c.isEnabled .key filename = true) (keyValues : List Node) :
    Gated c filename (keysCheck pass keyValues fn fName) :=
  Gated.checkKeyValues hOn (fun s => ⟨⟨s, .inl rfl⟩, ⟨s, .inr (.inl rfl)⟩⟩)
    fun _ _ h => ⟨_, .inr (.inr (guidelineKey_eq_some.mp h).2)⟩

theorem gated_checkKeyValuesFrom {start : Option Nat} {check : List Node → List Diagnostic}
    (hCheck : ∀ keyValues, Gated c filename (check keyValues))
    (h : checkKeyValuesFrom start check args = some ds) : Gated c filename ds := by
  unfold checkKeyValuesFrom at h
  split at h
  · obtain ⟨keyValues, -, rfl⟩ := Option.map_eq_some'.mp h
    exact hCheck keyValues
  · cases h
    exact Gated.nil

theorem gated_formatSpecifier (hOn : c.isEnabled .parameters filename = true) :
    Gated c filename (checkForFormatSpecifier fn args).toList :=
  Gated.option fun d hd => by
    obtain ⟨fName, specifier, rfl⟩ := checkForFormatSpecifier_eq_some hd
    exact Gated.single hOn (.inr ⟨fName, specifier, rfl⟩)

theorem gated_verbosityZero : Gated c filename (verbosityZeroDiagnostics c pass fn filename) :=
  Gated.ite_off fun hOn => Gated.option fun d hd => by
    rw [checkForVerbosityZero_eq_some hd]
    exact Gated.single hOn rfl

theorem gated_deprecated :
    Gated c filename
      (if c.isEnabled .deprecations filename then deprecatedDiagnostics fn fName else []) := by
  refine Gated.ite_off fun hOn => ?_
  unfold deprecatedDiagnostics
  cases hPair : isDeprecatedContextualCall fName with
  | mk message deprecatedUse =>
    cases deprecatedUse with
    | true => exact Gated.single hOn ⟨fName, by rw [hPair], by rw [hPair]⟩
    | false => exact Gated.nil

theorem gated_klogKeyCheck (h : klogKeyCheck c pass fn args fName filename = some ds) :
    Gated c filename ds := by
  unfold klogKeyCheck at h
  split_ifs at h with hKey
  · cases h
    exact gated_verbosityZero
  · obtain ⟨keys, hKeys, rfl⟩ := Option.map_eq_some'.mp h
    exact gated_verbosityZero.append (gated_checkKeyValuesFrom (gated_keysCheck hKey) hKeys)
  · cases h
    exact gated_verbosityZero

theorem gated_klogParametersCheck (h : klogParametersCheck c pass fn args fName filename = some ds) :
    Gated c filename ds := by
  unfold klogParametersCheck at h
  split_ifs at h with hParams
  · split at h
    · rename_i d hd
      cases h
      have hFormat : Gated c filename (checkForFormatSpecifier fn args).toList :=
        gated_formatSpecifier hParams
      rwa [hd] at hFormat
    · simp only [Option.bind_eq_bind, Option.bind_eq_some, Option.pure_def, Option.some.injEq,
        hParams, if_true] at h
      obtain ⟨keys, hKeys, rest, hRest, rfl⟩ := h
      exact ((gated_checkKeyValuesFrom (gated_isKeysValid hParams) hKeys).append
        (gated_formatSpecifier hParams)).append (gated_klogKeyCheck hRest)
  · exact gated_klogKeyCheck h

theorem gated_checkKlogCall (h : checkKlogCall c pass fn args fName filename = some ds) :
    Gated c filename ds := by
  have hDeprecated : Gated c filename
      (if c.isEnabled .deprecations filename then deprecatedDiagnostics fn fName else []) :=
    gated_deprecated
  simp only [checkKlogCall] at h
  generalize (if c.isEnabled .deprecations filename then deprecatedDiagnostics fn fName else []) =
    deprecated at h hDeprecated
  split_ifs at h with hContextual hUnstructured
  · cases h
    exact Gated.single (Bool.and_eq_true_iff.mp hContextual).1 ⟨fName, rfl⟩
  · cases h
    exact hDeprecated.append (Gated.single (Bool.and_eq_true_iff.mp hUnstructured).1 ⟨fName, rfl⟩)
  · obtain ⟨rest, hRest, rfl⟩ := Option.map_eq_some'.mp h
    exact hDeprecated.append (gated_klogParametersCheck hRest)

theorem gated_loggerParametersCheck
    (h : loggerParametersCheck c pass fn args fName filename = some ds) : Gated c filename ds := by
  unfold loggerParametersCheck at h
  split_ifs at h with hParams
  · obtain ⟨keyValues, hKeyValues, rfl⟩ := Option.map_eq_some'.mp h
    exact (gated_formatSpecifier hParams).append
      (gated_checkKeyValuesFrom (gated_isKeysValid hParams) hKeyValues)
  · cases h
    exact Gated.nil

theorem gated_loggerKeyCheck (h : loggerKeyCheck c pass fn args fName filename = some ds) :
    Gated c filename ds := by
  unfold loggerKeyCheck at h
  split_ifs at h with hKey
  · cases h
    exact Gated.nil
  · exact gated_checkKeyValuesFrom (gated_keysCheck hKey) h
  · cases h
    exact Gated.nil

theorem gated_checkLoggerCall (h : checkLoggerCall c pass fn args fName filename = some ds) :
    Gated c filename ds := by
  simp only [checkLoggerCall, Option.bind_eq_bind, Option.bind_eq_some, Option.pure_def,
    Option.some.injEq] at h
  obtain ⟨parameters, hParameters, keys, hKeys, rfl⟩ := h
  refine (((gated_loggerParametersCheck hParameters).append ?_).append gated_verbosityZero).append
    (gated_loggerKeyCheck hKeys)
  split_ifs with hHelpers
  · exact Gated.single (Bool.and_eq_true_iff.mp hHelpers).1 ⟨fName, .inl rfl⟩
  · exact Gated.nil

/-- Every diagnostic of a call carries a message of a check that is on for the call's file. -/
theorem gated_checkForFunctionExpr (h : checkForFunctionExpr c pass fn args = some ds) :
    Gated c (callFilename pass fn) ds := by
  unfold checkForFunctionExpr at h
  split at h
  · simp only at h
    split_ifs at h with hKlog hLogger hNewContext
    · exact gated_checkKlogCall h
    · exact gated_checkLoggerCall h
    · cases h
      exact Gated.single (Bool.and_eq_true_iff.mp hNewContext).2 ⟨_, .inr rfl⟩
    · cases h
      exact Gated.nil
  · cases h
    exact Gated.nil

/-- The visitor on one node reports only messages of checks that are on for the file it reports
in, apart from the two checks that read no configuration. -/
theorem visit_gated {n : Node} {here : List Diagnostic} (h : visit c pass n = some here)
    {d : Diagnostic} (hd : d ∈ here) :
    (∃ check, c.isEnabled check (pass.pkgPath ++ "/" ++ pathBase (pass.filename d.pos)) = true ∧
        check.Message d.message) ∨
      d.message = contextAndLoggerMessage ∨
      ∃ funcCall varName, d.message = ifEnabledMessage funcCall varName := by
  cases n with
  | callExpr fn args ellipsis =>
    rw [visit_pos h d hd]
    exact .inl (gated_checkForFunctionExpr h d hd)
  | funcType pos endPos typeParams params results =>
    obtain rfl := Option.some.inj h
    rw [checkForContextAndLogger_eq_some (Option.mem_toList.mp hd)]
    exact .inr (.inl rfl)
  | ifStmt pos endPos init cond body els =>
    obtain rfl := Option.some.inj h
    obtain ⟨funcCall, varName, rfl⟩ := checkForIfEnabled_eq_some (Option.mem_toList.mp hd)
    exact .inr (.inr ⟨funcCall, varName, rfl⟩)
  | _ =>
    obtain rfl := Option.some.inj h
    cases hd

end Gating

/-- Turning a check off for a file silences it there: every diagnostic of a run carries a message
of a check that is on for the file it is reported in. The exceptions are the context-and-logger and
`V(…).Enabled()` diagnostics, whose checks read no configuration. -/
theorem run_diagnostics_gated {c : Config} {pass : Pass} {ds : List Diagnostic}
    (h : run c pass = some ds) {d : Diagnostic} (hd : d ∈ ds) :
    (∃ check, c.isEnabled check (pass.pkgPath ++ "/" ++ pathBase (pass.filename d.pos)) = true ∧
        check.Message d.message) ∨
      d.message = contextAndLoggerMessage ∨
      ∃ funcCall varName, d.message = ifEnabledMessage funcCall varName := by
  obtain ⟨n, -, here, hHere, hd'⟩ := mem_of_visitAll h hd
  exact visit_gated hHere hd'


/-- The count messages of `infoSPass` belong to the parameters and key checks, which are on by
default. -/
theorem infoSPass_diagnostics_gated :
    run defaultConfig infoSPass = some [{ pos := 40, message := oddCountMessage "InfoS" },
      { pos := 40, message := oddCountMessage "InfoS" }] ∧
    ({ pos := 40, message := oddCountMessage "InfoS" } : Diagnostic) ∈
      [{ pos := 40, message := oddCountMessage "InfoS" },
        { pos := 40, message := oddCountMessage "InfoS" }] ∧
    ((∃ check, defaultConfig.isEnabled check
          (infoSPass.pkgPath ++ "/" ++ pathBase (infoSPass.filename 40)) = true ∧
        check.Message (oddCountMessage "InfoS")) ∨
      oddCountMessage "InfoS" = contextAndLoggerMessage ∨
      ∃ funcCall varName, oddCountMessage "InfoS" = ifEnabledMessage funcCall varName) :=
  have hRun : run defaultConfig infoSPass = some [{ pos := 40, message := oddCountMessage "InfoS" },
      { pos := 40, message := oddCountMessage "InfoS" }] := rfl
  ⟨hRun, List.mem_cons_self _ _, run_diagnostics_gated hRun (List.mem_cons_self _ _)⟩

/-- The file a diagnostic at `pos` is reported in, as the per-file overrides name it. -/
def reportFilename (pass : Pass) (pos : Pos) : String :=
  pass.pkgPath ++ "/" ++ pathBase (pass.filename pos)

section Locality

variable {c c' : Config} {pass : Pass} {filename : String}

/-- The checks of one call read the configuration only for the call's own file. -/
theorem checkForFunctionExpr_congr {fn : Node} {args : List Node}
    (hSame : ∀ check, c.isEnabled check (callFilename pass fn) =
      c'.isEnabled check (callFilename pass fn)) :
    checkForFunctionExpr c pass fn args = checkForFunctionExpr c' pass fn args := by
  cases fn with
  | selectorExpr x fName =>
    simp only [checkForFunctionExpr, checkKlogCall, klogParametersCheck, klogKeyCheck,
      checkLoggerCall, loggerParametersCheck, loggerKeyCheck, verbosityZeroDiagnostics, hSame]
  | _ => rfl

theorem visit_congr {n : Node}
    (hSame : ∀ check, c.isEnabled check (reportFilename pass n.pos) =
      c'.isEnabled check (reportFilename pass n.pos)) :
    visit c pass n = visit c' pass n := by
  cases n with
  | callExpr fn args ellipsis => exact checkForFunctionExpr_congr hSame
  | _ => rfl

theorem visit_filter_eq {n : Node} {here here' : List Diagnostic}
    (hSame : ∀ check, c.isEnabled check filename = c'.isEnabled check filename)
    (h : visit c pass n = some here) (h' : visit c' pass n = some here') :
    here.filter (reportFilename pass ·.pos == filename) =
      here'.filter (reportFilename pass ·.pos == filename) := by
  by_cases hFile : reportFilename pass n.pos = filename
  · subst hFile
    rw [visit_congr hSame, h'] at h
    rw [Option.some.inj h]
  · have hOther {ds : List Diagnostic} (hPos : ∀ d ∈ ds, d.pos = n.pos) :
        ds.filter (reportFilename pass ·.pos == filename) = [] :=
      List.filter_eq_nil_iff.mpr fun d hd => by simp [hPos d hd, hFile]
    rw [hOther (visit_pos h), hOther (visit_pos h')]

theorem visitAll_filter_eq {nodes : List Node} {ds ds' : List Diagnostic}
    (hSame : ∀ check, c.isEnabled check filename = c'.isEnabled check filename)
    (h : visitAll c pass nodes = some ds) (h' : visitAll c' pass nodes = some ds') :
    ds.filter (reportFilename pass ·.pos == filename) =
      ds'.filter (reportFilename pass ·.pos == filename) := by
  induction nodes generalizing ds ds' with
  | nil =>
    simp only [visitAll, Option.some.injEq] at h h'
    rw [← h, ← h']
  | cons n ns ih =>
    simp only [visitAll, Option.bind_eq_bind, Option.bind_eq_some, Option.pure_def,
      Option.some.injEq] at h h'
    obtain ⟨here, hHere, rest, hRest, rfl⟩ := h
    obtain ⟨here', hHere', rest', hRest', rfl⟩ := h'
    rw [List.filter_append, List.filter_append, visit_filter_eq hSame hHere hHere', ih hRest hRest']

end Locality

/-- Per-file overrides are local: two configurations that agree on every check for one file make
two runs that do not crash report the same diagnostics, in the same order, in that file. -/
theorem run_filter_eq_of_file {c c' : Config} {pass : Pass} {filename : String}
    {ds ds' : List Diagnostic}
    (hSame : ∀ check, c.isEnabled check filename = c'.isEnabled check filename)
    (h : run c pass = some ds) (h' : run c' pass = some ds') :
    ds.filter (fun d => reportFilename pass d.pos == filename) =
      ds'.filter (fun d => reportFilename pass d.pos == filename) :=
  visitAll_filter_eq hSame h h'

/-- `infoSPass` with a second file, `other.go`, that holds the same call at offset 140. -/
def twoFilePass : Pass :=
  { infoSPass with
    files := infoSPass.files ++ [.other 100 [.callExpr (.selectorExpr (.ident 140 "klog" none) "InfoS")
      [.basicLit 151 .string "\"msg\"", .basicLit 158 .string "\"key\""] 0]]
    filename := fun pos => if pos < 100 then "app.go" else "other.go" }

/-- The defaults, with every check switched off in `other.go` by the per-file overrides. -/
def otherFileOff : Config :=
  ⟨defaultEnabled, fun _ enabled filename => if filename = "example.com/app/other.go" then false else enabled⟩

/-- Switching every check off in `other.go` silences that file of `twoFilePass` and leaves what is
reported in `app.go` as it is. -/
theorem twoFilePass_file_local :
    (∀ check, defaultConfig.isEnabled check "example.com/app/app.go" =
      otherFileOff.isEnabled check "example.com/app/app.go") ∧
    run defaultConfig twoFilePass = some [{ pos := 40, message := oddCountMessage "InfoS" },
      { pos := 40, message := oddCountMessage "InfoS" }, { pos := 140, message := oddCountMessage "InfoS" },
      { pos := 140, message := oddCountMessage "InfoS" }] ∧
    run otherFileOff twoFilePass = some [{ pos := 40, message := oddCountMessage "InfoS" },
      { pos := 40, message := oddCountMessage "InfoS" }] ∧
    [({ pos := 40, message := oddCountMessage "InfoS" } : Diagnostic),
        { pos := 40, message := oddCountMessage "InfoS" }, { pos := 140, message := oddCountMessage "InfoS" },
        { pos := 140, message := oddCountMessage "InfoS" }].filter
        (fun d => reportFilename twoFilePass d.pos == "example.com/app/app.go") =
      [({ pos := 40, message := oddCountMessage "InfoS" } : Diagnostic),
        { pos := 40, message := oddCountMessage "InfoS" }].filter
        (fun d => reportFilename twoFilePass d.pos == "example.com/app/app.go") :=
  have hSame : ∀ check, defaultConfig.isEnabled check "example.com/app/app.go" =
      otherFileOff.isEnabled check "example.com/app/app.go" := fun _ => rfl
  have hRun : run defaultConfig twoFilePass = some [{ pos := 40, message := oddCountMessage "InfoS" },
      { pos := 40, message := oddCountMessage "InfoS" }, { pos := 140, message := oddCountMessage "InfoS" },
      { pos := 140, message := oddCountMessage "InfoS" }] := rfl
  have hRun' : run otherFileOff twoFilePass = some [{ pos := 40, message := oddCountMessage "InfoS" },
      { pos := 40, message := oddCountMessage "InfoS" }] := rfl
  ⟨hSame, hRun, hRun', run_filter_eq_of_file hSame hRun hRun'⟩

end Logcheck
