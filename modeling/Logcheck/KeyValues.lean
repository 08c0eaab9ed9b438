import Logcheck.Distinct

/-! What the key/value checks read of a call: which structured calls get the count message, what
they ask of a string literal key, and how the format-specifier check and the key/value checks
interact. All of it depends on the call as written. The checks count the syntactic arguments after
the fixed parameters and never read `fexpr.Ellipsis`, and they judge a key by its text `lit.Value`,
never by its Go value. -/
namespace Logcheck

section Messages

variable {s t : String} {m : String}

theorem oddCountMessage_ne_of_head {c : Char} (h : m.data.head? = some c) (hc : c ≠ 'A') :
    oddCountMessage s ≠ m := by
  rintro rfl
  rw [oddCountMessage_head] at h
  exact hc (Option.some.inj h).symm

@[simp] theorem oddCountMessage_ne_contextualMessage : oddCountMessage s ≠ contextualMessage t :=
  oddCountMessage_ne_of_head contextualMessage_head (by decide)

@[simp] theorem oddCountMessage_ne_formatSpecifierMessage {u : String} :
    oddCountMessage s ≠ formatSpecifierMessage t u :=
  oddCountMessage_ne_of_head formatSpecifierMessage_head (by decide)

@[simp] theorem oddCountMessage_ne_withHelpersMessage : oddCountMessage s ≠ withHelpersMessage t :=
  oddCountMessage_ne_of_head withHelpersMessage_head (by decide)

@[simp] theorem oddCount_mem_isKeysValid {pass : Pass} {keyValues : List Node} {fn : Node} :
    oddCountMessage s ∈ (isKeysValid pass keyValues fn s).map Diagnostic.message ↔
      keyValues.length % 2 = 1 := by
  rw [isKeysValid, messages_checkKeyValues]
  exact oddCount_mem_iff fun _ _ h => (nonLatinKey_eq_some.mp h).2 ▸ nonLatinMessage_head

@[simp] theorem oddCount_mem_keysCheck {pass : Pass} {keyValues : List Node} {fn : Node} :
    oddCountMessage s ∈ (keysCheck pass keyValues fn s).map Diagnostic.message ↔
      keyValues.length % 2 = 1 := by
  rw [keysCheck, messages_checkKeyValues]
  exact oddCount_mem_iff fun _ _ h => (guidelineKey_eq_some.mp h).2 ▸ keyGuidelineMessage_head

@[simp] theorem oddCount_not_mem_verbosityZero {c : Config} {pass : Pass} {fn : Node}
    {filename : String} :
    oddCountMessage s ∉ (verbosityZeroDiagnostics c pass fn filename).map Diagnostic.message := by
  unfold verbosityZeroDiagnostics
  split
  · cases h : checkForVerbosityZero pass fn with
    | none => simp
    | some d =>
      simpa [checkForVerbosityZero_eq_some h] using
        oddCountMessage_ne_of_head verbosityZeroMessage_head (by decide)
  · simp

@[simp] theorem oddCount_not_mem_formatSpecifier {fn : Node} {args : List Node} :
    oddCountMessage s ∉ (checkForFormatSpecifier fn args).toList.map Diagnostic.message := by
  cases h : checkForFormatSpecifier fn args with
  | none => simp
  | some d =>
    obtain ⟨fName, specifier, rfl⟩ := checkForFormatSpecifier_eq_some h
    simp

end Messages

theorem checkKeyValuesFrom_some {low : Nat} {check : List Node → List Diagnostic}
    {args : List Node} {ks : List Diagnostic} (h : checkKeyValuesFrom (some low) check args = some ks) :
    ks = check (args.drop low) := by
  simp only [checkKeyValuesFrom, sliceFrom] at h
  split_ifs at h
  · exact (Option.some.inj h).symm
  · cases h

theorem checkForFormatSpecifier_selector {x : Node} {fName : String} {args : List Node}
    (hf : Strings.hasSuffix fName "f" = false) :
    checkForFormatSpecifier (.selectorExpr x fName) args =
      (hasFormatSpecifier args).map fun specifier =>
        { pos := x.pos, message := formatSpecifierMessage fName specifier } := by
  simp [checkForFormatSpecifier, hf, Node.pos]

theorem checkFormatSpecifier_selector {x : Node} {fName : String} {args : List Node} :
    checkFormatSpecifier (.selectorExpr x fName) args = true ↔ hasFormatSpecifier args ≠ none := by
  simp [checkFormatSpecifier, Option.isSome_iff_ne_none]

theorem deprecatedDiagnostics_of_lookup {fn : Node} {fName : String}
    (h : deprecatedContextualLogHelper.lookup fName = none) : deprecatedDiagnostics fn fName = [] := by
  simp [deprecatedDiagnostics, isDeprecatedContextualCall, h]

section OddCount

variable {c : Config} {pass : Pass} {x : Node} {fName filename : String} {args : List Node}
  {low : Nat} {ds : List Diagnostic}

/-- What the klog branch reads of `InfoS` and `ErrorS` before its checks. -/
theorem klog_structured_names (hStart : klogKeyValuesStart fName = some low) :
    isContextualCall fName = false ∧ isUnstructured fName = false ∧
      Strings.hasSuffix fName "f" = false ∧ deprecatedContextualLogHelper.lookup fName = none := by
  rcases klogKeyValuesStart_eq_some hStart with ⟨rfl, -⟩ | ⟨rfl, -⟩ <;> decide

theorem logger_structured_names (hStart : loggerKeyValuesStart fName = some low) :
    Strings.hasSuffix fName "f" = false := by
  rcases loggerKeyValuesStart_eq_some hStart with ⟨rfl, -⟩ | ⟨rfl, -⟩ | ⟨rfl, -⟩ <;> decide

theorem oddCount_mem_klogKeyCheck (hStart : klogKeyValuesStart fName = some low)
    (h : klogKeyCheck c pass (.selectorExpr x fName) args fName filename = some ds) :
    oddCountMessage fName ∈ ds.map Diagnostic.message ↔
      c.isEnabled .key filename = true ∧ hasFormatSpecifier args = none ∧
        (args.length - low) % 2 = 1 := by
  unfold klogKeyCheck at h
  split_ifs at h with hKey hFormat
  · cases h
    rw [checkFormatSpecifier_selector] at hFormat
    simp only [oddCount_not_mem_verbosityZero, hFormat, false_and, and_false]
  · obtain ⟨keys, hKeys, rfl⟩ := Option.map_eq_some'.mp h
    rw [hStart] at hKeys
    rw [checkFormatSpecifier_selector, not_not] at hFormat
    simp only [checkKeyValuesFrom_some hKeys, List.map_append, List.mem_append,
      oddCount_not_mem_verbosityZero, oddCount_mem_keysCheck, List.length_drop, false_or, hKey,
      hFormat, true_and]
  · cases h
    simp only [oddCount_not_mem_verbosityZero, hKey, Bool.false_eq_true, false_and]

theorem oddCount_mem_klogParametersCheck (hStart : klogKeyValuesStart fName = some low)
    (h : klogParametersCheck c pass (.selectorExpr x fName) args fName filename = some ds) :
    oddCountMessage fName ∈ ds.map Diagnostic.message ↔
      (c.isEnabled .parameters filename = true ∨ c.isEnabled .key filename = true) ∧
        hasFormatSpecifier args = none ∧ (args.length - low) % 2 = 1 := by
  unfold klogParametersCheck at h
  split_ifs at h with hParams
  · rw [checkForFormatSpecifier_selector (klog_structured_names hStart).2.2.1] at h
    cases hFormat : hasFormatSpecifier args with
    | some specifier =>
      simp only [hFormat, Option.map_some', Option.some.injEq] at h
      subst h
      simp
    | none =>
      simp only [hFormat, Option.map_none', hParams, if_true, Option.toList_none, List.append_nil,
        Option.bind_eq_bind, Option.bind_eq_some, Option.pure_def, Option.some.injEq] at h
      obtain ⟨keys, hKeys, rest, hRest, rfl⟩ := h
      rw [hStart] at hKeys
      simp only [checkKeyValuesFrom_some hKeys, List.map_append, List.mem_append,
        oddCount_mem_isKeysValid, oddCount_mem_klogKeyCheck hStart hRest, List.length_drop, hParams,
        hFormat, true_or, true_and]
      tauto
  · simp only [oddCount_mem_klogKeyCheck hStart h, hParams, Bool.false_eq_true, false_or]

theorem oddCount_mem_checkKlogCall (hStart : klogKeyValuesStart fName = some low)
    (h : checkKlogCall c pass (.selectorExpr x fName) args fName filename = some ds) :
    oddCountMessage fName ∈ ds.map Diagnostic.message ↔
      c.isEnabled .contextual filename = false ∧
        (c.isEnabled .parameters filename = true ∨ c.isEnabled .key filename = true) ∧
        hasFormatSpecifier args = none ∧ (args.length - low) % 2 = 1 := by
  obtain ⟨hContextual, hUnstructured, -, hLookup⟩ := klog_structured_names hStart
  simp only [checkKlogCall, hContextual, hUnstructured, deprecatedDiagnostics_of_lookup hLookup,
    Bool.not_false, Bool.and_true, Bool.and_false, Bool.false_eq_true, if_false, ite_self,
    List.nil_append] at h
  split_ifs at h with hOn
  · cases h
    simp [hOn]
  · rw [oddCount_mem_klogParametersCheck hStart (by simpa using h)]
    simp [hOn]

theorem oddCount_mem_loggerParametersCheck {fn : Node} (hStart : loggerKeyValuesStart fName = some low)
    (h : loggerParametersCheck c pass fn args fName filename = some ds) :
    oddCountMessage fName ∈ ds.map Diagnostic.message ↔
      c.isEnabled .parameters filename = true ∧ (args.length - low) % 2 = 1 := by
  unfold loggerParametersCheck at h
  split_ifs at h with hParams
  · obtain ⟨keys, hKeys, rfl⟩ := Option.map_eq_some'.mp h
    rw [hStart] at hKeys
    simp only [checkKeyValuesFrom_some hKeys, List.map_append, List.mem_append,
      oddCount_not_mem_formatSpecifier, oddCount_mem_isKeysValid, List.length_drop, false_or,
      hParams, true_and]
  · cases h
    simp [hParams]

theorem oddCount_mem_loggerKeyCheck (hStart : loggerKeyValuesStart fName = some low)
    (h : loggerKeyCheck c pass (.selectorExpr x fName) args fName filename = some ds) :
    oddCountMessage fName ∈ ds.map Diagnostic.message ↔
      c.isEnabled .key filename = true ∧ hasFormatSpecifier args = none ∧
        (args.length - low) % 2 = 1 := by
  unfold loggerKeyCheck at h
  split_ifs at h with hKey hFormat
  · cases h
    rw [checkFormatSpecifier_selector] at hFormat
    simp [hFormat]
  · rw [hStart] at h
    rw [checkFormatSpecifier_selector, not_not] at hFormat
    simp only [checkKeyValuesFrom_some h, oddCount_mem_keysCheck, List.length_drop, hKey, hFormat,
      true_and]
  · cases h
    simp [hKey]

theorem oddCount_mem_checkLoggerCall (hStart : loggerKeyValuesStart fName = some low)
    (h : checkLoggerCall c pass (.selectorExpr x fName) args fName filename = some ds) :
    oddCountMessage fName ∈ ds.map Diagnostic.message ↔
      (c.isEnabled .parameters filename = true ∨
        c.isEnabled .key filename = true ∧ hasFormatSpecifier args = none) ∧
      (args.length - low) % 2 = 1 := by
  simp only [checkLoggerCall, Option.bind_eq_bind, Option.bind_eq_some, Option.pure_def,
    Option.some.injEq] at h
  obtain ⟨parameters, hParameters, keys, hKeys, rfl⟩ := h
  simp only [List.map_append, List.mem_append, oddCount_mem_loggerParametersCheck hStart hParameters,
    oddCount_mem_loggerKeyCheck hStart hKeys, oddCount_not_mem_verbosityZero, or_false]
  split <;> simp only [List.map_cons, List.map_nil, List.mem_singleton, List.not_mem_nil,
    oddCountMessage_ne_withHelpersMessage, or_false] <;> tauto

end OddCount

/-- Whether `checkForFunctionExpr` runs a key/value check on the call `x.fName(args)`. On klog
neither check runs under the contextual check, which rejects `InfoS` and `ErrorS`, and both stop at
a format specifier; on a `logr.Logger` the parameters check goes on after one. -/
def keyValuesChecked (c : Config) (pass : Pass) (x : Node) (fName : String) (args : List Node) :
    Bool :=
  let filename := callFilename pass (.selectorExpr x fName)
  if isKlog pass x then
    !c.isEnabled .contextual filename &&
      (c.isEnabled .parameters filename || c.isEnabled .key filename) &&
      (hasFormatSpecifier args).isNone
  else
    c.isEnabled .parameters filename || (c.isEnabled .key filename && (hasFormatSpecifier args).isNone)

/-- On a call of `InfoS` or `ErrorS` on klog, or of `Info`, `Error` or `WithValues` on a
`logr.Logger`, the count message is reported exactly when a key/value check runs and the arguments
after the fixed parameters, as written, are odd in number: a spread slice `kv...` and a call with
several results each count as one argument. -/
theorem oddCount_reported_iff (c : Config) (pass : Pass) (x : Node) (fName : String)
    (args : List Node) {params : List String} {ds : List Diagnostic}
    (hCall : isKlog pass x = true ∧ klogFixedParams fName = some params ∨
      isKlog pass x = false ∧ isGoLogger pass x = true ∧ loggerFixedParams fName = some params)
    (h : checkForFunctionExpr c pass (.selectorExpr x fName) args = some ds) :
    oddCountMessage fName ∈ ds.map Diagnostic.message ↔
      keyValuesChecked c pass x fName args = true ∧ (args.length - params.length) % 2 = 1 := by
  simp only [checkForFunctionExpr] at h
  rcases hCall with ⟨hKlog, hParams⟩ | ⟨hKlog, hLogger, hParams⟩
  · rw [if_pos hKlog] at h
    simp [oddCount_mem_checkKlogCall (klogKeyValuesStart_of_params hParams) h, keyValuesChecked,
      hKlog, Option.isNone_iff_eq_none, and_assoc]
  · rw [if_neg (by simp [hKlog]), if_pos hLogger] at h
    simp [oddCount_mem_checkLoggerCall (loggerKeyValuesStart_of_params hParams) h, keyValuesChecked,
      hKlog, Option.isNone_iff_eq_none]

/-- `klog.InfoS("msg", kv...)`, whose slice `kv` may hold any even number of elements: with the
default checks both key/value checks report the count message. -/
theorem infoS_spread_oddCount_reported :
    visit defaultConfig examplePass (.callExpr (.selectorExpr (.ident 40 "klog" none) "InfoS")
        [.basicLit 51 .string "\"msg\"", .ident 58 "kv" none] 60) =
      some [{ pos := 40, message := oddCountMessage "InfoS" },
        { pos := 40, message := oddCountMessage "InfoS" }] := rfl

/-- The count message of `klog.InfoS("msg", kv...)` is the one of an odd number of arguments after
the message: `kv` counts as one. -/
theorem infoS_spread_oddCount_iff :
    (isKlog examplePass (.ident 40 "klog" none) = true ∧ klogFixedParams "InfoS" = some ["msg"] ∨
      isKlog examplePass (.ident 40 "klog" none) = false ∧
        isGoLogger examplePass (.ident 40 "klog" none) = true ∧
        loggerFixedParams "InfoS" = some ["msg"]) ∧
    checkForFunctionExpr defaultConfig examplePass (.selectorExpr (.ident 40 "klog" none) "InfoS")
        [.basicLit 51 .string "\"msg\"", .ident 58 "kv" none] =
      some [{ pos := 40, message := oddCountMessage "InfoS" },
        { pos := 40, message := oddCountMessage "InfoS" }] ∧
    (oddCountMessage "InfoS" ∈ [({ pos := 40, message := oddCountMessage "InfoS" } : Diagnostic),
        { pos := 40, message := oddCountMessage "InfoS" }].map Diagnostic.message ↔
      keyValuesChecked defaultConfig examplePass (.ident 40 "klog" none) "InfoS"
          [.basicLit 51 .string "\"msg\"", .ident 58 "kv" none] = true ∧
        ([Node.basicLit 51 .string "\"msg\"", .ident 58 "kv" none].length - ["msg"].length) % 2 = 1) :=
  ⟨.inl ⟨rfl, rfl⟩, rfl, oddCount_reported_iff defaultConfig examplePass (.ident 40 "klog" none) "InfoS"
    [.basicLit 51 .string "\"msg\"", .ident 58 "kv" none] (.inl ⟨rfl, rfl⟩) rfl⟩

section FormatFirst

variable {c : Config} {pass : Pass} {fn : Node} {args : List Node} {fName filename : String}
  {ds : List Diagnostic} {d : Diagnostic} {m : String} {ch : Char}

/-- A message of the format-specifier check. -/
def IsFormatSpecifierMessage (message : String) : Prop :=
  ∃ fName specifier, message = formatSpecifierMessage fName specifier

theorem not_isFormatSpecifierMessage_of_head (h : m.data.head? = some ch) (hl : ch ≠ 'l') :
    ¬ IsFormatSpecifierMessage m := by
  rintro ⟨fName, specifier, rfl⟩
  rw [formatSpecifierMessage_head] at h
  exact hl (Option.some.inj h).symm

theorem not_isKeyValueMessage_of_head (h : m.data.head? = some ch) (hA : ch ≠ 'A') (hK : ch ≠ 'K') :
    ¬ IsKeyValueMessage m :=
  not_isKeyValueMessage (by rw [h]; simpa using hA) (by rw [h]; simpa using hK)

theorem not_isKeyValueMessage_of_formatSpecifier (h : IsFormatSpecifierMessage m) :
    ¬ IsKeyValueMessage m := by
  obtain ⟨fName, specifier, rfl⟩ := h
  exact not_isKeyValueMessage_of_head formatSpecifierMessage_head (by decide) (by decide)

theorem Reports.not_formatSpecifier {leads : List Char} (h : Reports fn leads ds) (hl : 'l' ∉ leads)
    (hd : d ∈ ds) : ¬ IsFormatSpecifierMessage d.message := by
  rintro ⟨fName, specifier, hm⟩
  have hLead : d.lead = some 'l' :=
    Diagnostic.lead_of_head (hm ▸ formatSpecifierMessage_head) (by decide) (by decide)
  exact hl (h.sublist.subset (List.mem_filterMap.mpr ⟨d, hd, hLead⟩))

theorem deprecatedDiagnostics_head (hd : d ∈ deprecatedDiagnostics fn fName) :
    d.message.data.head? = some 'D' := by
  revert hd
  unfold deprecatedDiagnostics isDeprecatedContextualCall
  cases deprecatedContextualLogHelper.lookup fName with
  | none => simp
  | some replacement =>
    intro hd
    rw [List.mem_singleton.mp hd]
    simp only [String.append_assoc]
    rw [data_head?_append _ _ (by decide)]; rfl

/-- The parameters check of klog returns at a format specifier, with that diagnostic alone. -/
theorem klogParametersCheck_of_formatSpecifier
    (h : klogParametersCheck c pass fn args fName filename = some ds) (hd : d ∈ ds)
    (hFormat : IsFormatSpecifierMessage d.message) : ds = [d] := by
  unfold klogParametersCheck at h
  split_ifs at h with hParams
  · split at h
    · cases h
      rw [List.mem_singleton.mp hd]
    · rename_i hNone
      simp only [Option.bind_eq_bind, Option.bind_eq_some, Option.pure_def, Option.some.injEq,
        hParams, if_true, hNone, Option.toList_none, List.append_nil] at h
      obtain ⟨keys, hKeys, rest, hRest, rfl⟩ := h
      exact absurd hFormat (((reports_checkKeyValuesFrom reports_isKeysValid hKeys).append
        (reports_klogKeyCheck hRest)).not_formatSpecifier (by decide) hd)
  · exact absurd hFormat ((reports_klogKeyCheck h).not_formatSpecifier (by decide) hd)

/-- On the klog package and on a `klog.Verbose`, a call with a format-specifier diagnostic has
no key/value diagnostic: the parameters check returns right after reporting it. -/
theorem checkKlogCall_formatSpecifier_excludes_keyValues
    (h : checkKlogCall c pass fn args fName filename = some ds) (hd : d ∈ ds)
    (hFormat : IsFormatSpecifierMessage d.message) : ∀ e ∈ ds, ¬ IsKeyValueMessage e.message := by
  have hDeprecated : ∀ e ∈ (if c.isEnabled .deprecations filename then
      deprecatedDiagnostics fn fName else []), e.message.data.head? = some 'D' := by
    split
    · exact fun e => deprecatedDiagnostics_head
    · simp
  simp only [checkKlogCall] at h
  generalize (if c.isEnabled .deprecations filename then deprecatedDiagnostics fn fName else []) =
    deprecated at h hDeprecated
  have hNotDeprecated : d ∉ deprecated := fun hd' =>
    not_isFormatSpecifierMessage_of_head (hDeprecated d hd') (by decide) hFormat
  split_ifs at h
  · cases h
    rw [List.mem_singleton.mp hd] at hFormat
    exact absurd hFormat (not_isFormatSpecifierMessage_of_head contextualMessage_head (by decide))
  · cases h
    rw [List.mem_singleton.mp ((List.mem_append.mp hd).resolve_left hNotDeprecated)] at hFormat
    exact absurd hFormat (not_isFormatSpecifierMessage_of_head unstructuredMessage_head (by decide))
  · obtain ⟨rest, hRest, rfl⟩ := Option.map_eq_some'.mp h
    rw [klogParametersCheck_of_formatSpecifier hRest
      ((List.mem_append.mp hd).resolve_left hNotDeprecated) hFormat]
    intro e he
    rcases List.mem_append.mp he with he | he
    · exact not_isKeyValueMessage_of_head (hDeprecated e he) (by decide) (by decide)
    · exact List.mem_singleton.mp he ▸ not_isKeyValueMessage_of_formatSpecifier hFormat

/-- On the klog package and on a `klog.Verbose`, under every configuration, a call whose
diagnostics include a format-specifier message has no key/value diagnostic. -/
theorem klog_formatSpecifier_excludes_keyValues {x : Node} (hKlog : isKlog pass x = true)
    (h : checkForFunctionExpr c pass (.selectorExpr x fName) args = some ds) (hd : d ∈ ds)
    (hFormat : IsFormatSpecifierMessage d.message) : ∀ e ∈ ds, ¬ IsKeyValueMessage e.message := by
  simp only [checkForFunctionExpr] at h
  rw [if_pos hKlog] at h
  exact checkKlogCall_formatSpecifier_excludes_keyValues h hd hFormat

/-- `klog.InfoS("value %d", x)`: the format-specifier diagnostic alone. -/
theorem infoS_formatSpecifier_alone :
    isKlog examplePass (.ident 40 "klog" none) = true ∧
    checkForFunctionExpr defaultConfig examplePass (.selectorExpr (.ident 40 "klog" none) "InfoS")
        [.basicLit 51 .string "\"value %d\"", .ident 63 "x" none] =
      some [{ pos := 40, message := formatSpecifierMessage "InfoS" "%d" }] ∧
    IsFormatSpecifierMessage (formatSpecifierMessage "InfoS" "%d") ∧
    ∀ e ∈ [({ pos := 40, message := formatSpecifierMessage "InfoS" "%d" } : Diagnostic)],
      ¬ IsKeyValueMessage e.message :=
  have hKlog : isKlog examplePass (.ident 40 "klog" none) = true := rfl
  have hCall : checkForFunctionExpr defaultConfig examplePass
      (.selectorExpr (.ident 40 "klog" none) "InfoS")
      [.basicLit 51 .string "\"value %d\"", .ident 63 "x" none] =
    some [{ pos := 40, message := formatSpecifierMessage "InfoS" "%d" }] := rfl
  have hFormat : IsFormatSpecifierMessage (formatSpecifierMessage "InfoS" "%d") := ⟨_, _, rfl⟩
  ⟨hKlog, hCall, hFormat, klog_formatSpecifier_excludes_keyValues hKlog hCall
    (List.mem_singleton_self _) hFormat⟩

end FormatFirst

/-- `logger.Info("value %d", x)` on a `logr.Logger` with the default checks: the
format-specifier diagnostic, and then the count message for the one argument after the message. -/
theorem loggerInfo_formatSpecifier_then_oddCount :
    checkForFunctionExpr defaultConfig examplePass (.selectorExpr (.ident 40 "logger" none) "Info")
        [.basicLit 52 .string "\"value %d\"", .ident 64 "x" none] =
      some [{ pos := 40, message := formatSpecifierMessage "Info" "%d" },
        { pos := 40, message := oddCountMessage "Info" }] := rfl

section KeyLiterals

/-! Both checks read a key literal's text as written: `keysCheck` trims the text of its `"`
characters and matches it against `keyMatchRe`, and `isKeysValid` asks whether the text is ASCII.
A raw string keeps its backquotes, and an escape sequence is ASCII whatever it denotes. -/

/-- At a key position of an even number of arguments, a string literal gets the guideline message
exactly when its text, trimmed of `"`, is not a key of the guidelines, and the non-Latin message
exactly when its text is not ASCII. -/
theorem keyLiteral_verdicts_of_text (pass : Pass) (keyValues : List Node) (fn : Node)
    (funName : String) {i : Nat} {p : Pos} {text : String} (hEven : keyValues.length % 2 = 0)
    (hi : i % 2 = 0) (hKey : keyValues[i]? = some (.basicLit p .string text)) :
    (keyGuidelineMessage text ∈ (keysCheck pass keyValues fn funName).map Diagnostic.message ↔
        isGuidelineKey (Strings.trim text "\"").data = false) ∧
      (nonLatinMessage text ∈ (isKeysValid pass keyValues fn funName).map Diagnostic.message ↔
        isASCII text = false) := by
  rw [keysCheck, isKeysValid, messages_checkKeyValues, messages_checkKeyValues, ← isMatch_keyMatchRe]
  exact ⟨literalMessage_mem_iff keyGuidelineMessage _ (fun _ _ => guidelineKey_eq_some)
      keyGuidelineMessage_injective (fun _ _ => constantKeyMessage_ne_keyGuidelineMessage) hEven hi hKey,
    literalMessage_mem_iff nonLatinMessage _ (fun _ _ => nonLatinKey_eq_some)
      nonLatinMessage_injective (fun _ _ => constantKeyMessage_ne_nonLatinMessage) hEven hi hKey⟩

/-- `klog.InfoS("msg", key, pod)` with the key `podName`, a key of the guidelines, written as an
interpreted and as a raw string literal: `strings.Trim` removes the `"` of the first spelling but
not the backquotes of the second, so with the default checks only the raw spelling gets the
guideline message. -/
theorem infoS_rawGuidelineKey_reported :
    isGuidelineKey "podName".data = true ∧
    checkForFunctionExpr defaultConfig examplePass (.selectorExpr (.ident 40 "klog" none) "InfoS")
        [.basicLit 51 .string "\"msg\"", .basicLit 58 .string "\"podName\"", .ident 69 "pod" none] =
      some [] ∧
    checkForFunctionExpr defaultConfig examplePass (.selectorExpr (.ident 40 "klog" none) "InfoS")
        [.basicLit 51 .string "\"msg\"", .basicLit 58 .string "`podName`", .ident 69 "pod" none] =
      some [{ pos := 40, message := keyGuidelineMessage "`podName`" }] :=
  ⟨rfl, rfl, rfl⟩

/-- The raw key `podName` is judged on its text with the backquotes. -/
theorem rawKey_verdicts_of_text :
    [Node.basicLit 51 .string "`podName`", .ident 62 "pod" none].length % 2 = 0 ∧ 0 % 2 = 0 ∧
    [Node.basicLit 51 .string "`podName`", .ident 62 "pod" none][0]? =
      some (.basicLit 51 .string "`podName`") ∧
    ((keyGuidelineMessage "`podName`" ∈ (keysCheck examplePass
        [.basicLit 51 .string "`podName`", .ident 62 "pod" none] (.ident 40 "klog" none) "InfoS").map
          Diagnostic.message ↔ isGuidelineKey (Strings.trim "`podName`" "\"").data = false) ∧
      (nonLatinMessage "`podName`" ∈ (isKeysValid examplePass
        [.basicLit 51 .string "`podName`", .ident 62 "pod" none] (.ident 40 "klog" none) "InfoS").map
          Diagnostic.message ↔ isASCII "`podName`" = false)) :=
  ⟨rfl, rfl, rfl, keyLiteral_verdicts_of_text examplePass
    [.basicLit 51 .string "`podName`", .ident 62 "pod" none] (.ident 40 "klog" none) "InfoS" (i := 0)
    rfl rfl rfl⟩

end KeyLiterals

end Logcheck
