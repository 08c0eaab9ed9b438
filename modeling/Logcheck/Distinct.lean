import Logcheck.Safety

/-! Which diagnostics of one call can coincide. Every diagnostic of `checkForFunctionExpr` is at
`fun.Pos()`. The messages of the key/value checks repeat: `isKeysValid` and `keysCheck` share the
count and constant-key messages, and a check repeats a message for two keys of the same text.
Every other message starts with a character of its own, and each is reported at most once. -/
namespace Logcheck

/-- The first character of a message that is not a key/value message; key/value messages start
with `A` or `K`. -/
def Diagnostic.lead (d : Diagnostic) : Option Char :=
  match d.message.data.head? with
  | some 'A' | some 'K' => none
  | lead => lead

theorem Diagnostic.lead_eq_of_message {d e : Diagnostic} (h : d.message = e.message) :
    d.lead = e.lead := by
  unfold Diagnostic.lead; rw [h]

theorem Diagnostic.lead_of_head {d : Diagnostic} {c : Char} (h : d.message.data.head? = some c)
    (hA : c ≠ 'A') (hK : c ≠ 'K') : d.lead = some c := by
  unfold Diagnostic.lead; rw [h]; split <;> simp_all

theorem Diagnostic.lead_of_isKeyValueMessage {d : Diagnostic} (h : IsKeyValueMessage d.message) :
    d.lead = none := by
  obtain ⟨s, hm | hm | hm | hm⟩ := h <;> unfold Diagnostic.lead <;> rw [hm]
  · rw [oddCountMessage_head]; rfl
  · rw [constantKeyMessage_head]; rfl
  · rw [nonLatinMessage_head]; rfl
  · rw [keyGuidelineMessage_head]; rfl

/-- Diagnostics at `fun.Pos()` whose messages are key/value messages or have distinct leads,
which occur, in order, in `leads`. -/
structure Reports (fn : Node) (leads : List Char) (ds : List Diagnostic) : Prop where
  pos : ∀ d ∈ ds, d.pos = fn.pos ∧ d.endPos = 0
  keyValue : ∀ d ∈ ds, d.lead = none → IsKeyValueMessage d.message
  sublist : (ds.filterMap Diagnostic.lead).Sublist leads

namespace Reports

variable {fn : Node} {leads leads' : List Char} {ds es : List Diagnostic}

theorem nil : Reports fn leads [] := ⟨by simp, by simp, by simp⟩

theorem append (h : Reports fn leads ds) (h' : Reports fn leads' es) :
    Reports fn (leads ++ leads') (ds ++ es) where
  pos d hd := (List.mem_append.mp hd).elim (h.pos d) (h'.pos d)
  keyValue d hd := (List.mem_append.mp hd).elim (h.keyValue d) (h'.keyValue d)
  sublist := by rw [List.filterMap_append]; exact h.sublist.append h'.sublist

theorem mono (h : Reports fn leads ds) (hl : leads.Sublist leads') : Reports fn leads' ds :=
  ⟨h.pos, h.keyValue, h.sublist.trans hl⟩

theorem single {d : Diagnostic} {c : Char} (hPos : d.pos = fn.pos) (hEnd : d.endPos = 0)
    (hLead : d.message.data.head? = some c) (hA : c ≠ 'A') (hK : c ≠ 'K') :
    Reports fn [c] [d] where
  pos e he := by rw [List.mem_singleton.mp he]; exact ⟨hPos, hEnd⟩
  keyValue e he hNone := by
    rw [List.mem_singleton.mp he, Diagnostic.lead_of_head hLead hA hK] at hNone
    cases hNone
  sublist := by simp [Diagnostic.lead_of_head hLead hA hK]

theorem option {o : Option Diagnostic} {c : Char} (h : ∀ d, o = some d → Reports fn [c] [d]) :
    Reports fn [c] o.toList := by
  cases o with
  | none => exact nil
  | some d => exact h d rfl

/-- The key/value checks report only key/value messages at `fun.Pos()`. -/
theorem checkKeyValues {checkLiteral : String → Option String} {pass : Pass}
    {keyValues : List Node} {funName : String}
    (hLit : ∀ v m, checkLiteral v = some m → IsKeyValueMessage m) :
    Reports fn [] (Logcheck.checkKeyValues checkLiteral pass keyValues fn funName) where
  pos d hd := ⟨(mem_checkKeyValues.mp hd).1, (mem_checkKeyValues.mp hd).2.1⟩
  keyValue d hd _ := isKeyValueMessage_of_mem hLit (mem_checkKeyValues.mp hd).2.2
  sublist := by
    rw [List.filterMap_eq_nil_iff.mpr fun d hd =>
      Diagnostic.lead_of_isKeyValueMessage
        (isKeyValueMessage_of_mem hLit (mem_checkKeyValues.mp hd).2.2)]

/-- Two diagnostics with the same position and message have a key/value message. -/
theorem pairwise (h : Reports fn leads ds) (hNodup : leads.Nodup) :
    ds.Pairwise fun d e => d.pos = e.pos → d.message = e.message → IsKeyValueMessage d.message := by
  have hLeads := hNodup.sublist h.sublist
  have hKeyValue := h.keyValue
  clear h hNodup
  induction ds with
  | nil => exact .nil
  | cons d ds ih =>
    refine .cons (fun e he _ hm => ?_) (ih ?_ fun e he => hKeyValue e (.tail _ he))
    · cases hd : d.lead with
      | none => exact hKeyValue d (.head _) hd
      | some c =>
        have hc : c ∈ ds.filterMap Diagnostic.lead :=
          List.mem_filterMap.mpr ⟨e, he, (Diagnostic.lead_eq_of_message hm).symm.trans hd⟩
        simp only [List.filterMap_cons, hd, List.nodup_cons] at hLeads
        exact absurd hc hLeads.1
    · cases hd : d.lead <;> simp_all [List.filterMap_cons]

end Reports

section Leads

variable {s t : String}

theorem contextualMessage_head : (contextualMessage s).data.head? = some 'f' := by
  simp only [contextualMessage, String.append_assoc]
  rw [data_head?_append _ _ (by decide)]; rfl

theorem unstructuredMessage_head : (unstructuredMessage s).data.head? = some 'u' := by
  simp only [unstructuredMessage, String.append_assoc]
  rw [data_head?_append _ _ (by decide)]; rfl

theorem formatSpecifierMessage_head : (formatSpecifierMessage s t).data.head? = some 'l' := by
  simp only [formatSpecifierMessage, String.append_assoc]
  rw [data_head?_append _ _ (by decide)]; rfl

theorem verbosityZeroMessage_head : verbosityZeroMessage.data.head? = some 'L' := by
  simp only [verbosityZeroMessage]
  rw [data_head?_append _ _ (by decide)]; rfl

theorem withHelpersMessage_head : (withHelpersMessage s).data.head? = some 'f' := by
  simp only [withHelpersMessage, String.append_assoc]
  rw [data_head?_append _ _ (by decide)]; rfl

theorem newContextMessage_head : (newContextMessage s).data.head? = some 'f' := by
  simp only [newContextMessage, String.append_assoc]
  rw [data_head?_append _ _ (by decide)]; rfl

end Leads

section Blocks

variable {c : Config} {pass : Pass} {fn : Node} {args : List Node} {fName filename : String}
  {ds : List Diagnostic}

theorem reports_deprecated : Reports fn ['D'] (deprecatedDiagnostics fn fName) := by
  unfold deprecatedDiagnostics isDeprecatedContextualCall
  cases deprecatedContextualLogHelper.lookup fName with
  | none => exact Reports.nil
  | some replacement =>
    refine Reports.single rfl rfl ?_ (by decide) (by decide)
    simp only [String.append_assoc]
    rw [data_head?_append _ _ (by decide)]; rfl

theorem reports_verbosityZero : Reports fn ['L'] (verbosityZeroDiagnostics c pass fn filename) := by
  unfold verbosityZeroDiagnostics
  split
  · refine Reports.option fun d hd => ?_
    rw [checkForVerbosityZero_eq_some hd]
    exact Reports.single rfl rfl verbosityZeroMessage_head (by decide) (by decide)
  · exact Reports.nil

theorem reports_formatSpecifier : Reports fn ['l'] (checkForFormatSpecifier fn args).toList :=
  Reports.option fun d hd => by
    obtain ⟨fName, specifier, rfl⟩ := checkForFormatSpecifier_eq_some hd
    exact Reports.single rfl rfl formatSpecifierMessage_head (by decide) (by decide)

theorem reports_isKeysValid (keyValues : List Node) :
    Reports fn [] (isKeysValid pass keyValues fn fName) :=
  Reports.checkKeyValues fun _ _ h => ⟨_, .inr (.inr (.inl (nonLatinKey_eq_some.mp h).2))⟩

theorem reports_keysCheck (keyValues : List Node) :
    Reports fn [] (keysCheck pass keyValues fn fName) :=
  Reports.checkKeyValues fun _ _ h => ⟨_, .inr (.inr (.inr (guidelineKey_eq_some.mp h).2))⟩

theorem reports_checkKeyValuesFrom {start : Option Nat} {check : List Node → List Diagnostic}
    (hCheck : ∀ keyValues, Reports fn [] (check keyValues))
    (h : checkKeyValuesFrom start check args = some ds) : Reports fn [] ds := by
  unfold checkKeyValuesFrom at h
  split at h
  · obtain ⟨keyValues, -, rfl⟩ := Option.map_eq_some'.mp h
    exact hCheck keyValues
  · cases h
    exact Reports.nil

theorem reports_klogKeyCheck (h : klogKeyCheck c pass fn args fName filename = some ds) :
    Reports fn ['L'] ds := by
  unfold klogKeyCheck at h
  split_ifs at h
  · cases h
    exact reports_verbosityZero
  · obtain ⟨keys, hKeys, rfl⟩ := Option.map_eq_some'.mp h
    exact reports_verbosityZero.append (reports_checkKeyValuesFrom reports_keysCheck hKeys)
  · cases h
    exact reports_verbosityZero

theorem reports_klogParametersCheck (h : klogParametersCheck c pass fn args fName filename = some ds) :
    Reports fn ['l', 'L'] ds := by
  unfold klogParametersCheck at h
  split_ifs at h with hParams
  · split at h
    · rename_i d hd
      cases h
      have hFormat : Reports fn ['l'] (checkForFormatSpecifier fn args).toList :=
        reports_formatSpecifier
      rw [hd] at hFormat
      exact hFormat.mono (by simp)
    · simp only [Option.bind_eq_bind, Option.bind_eq_some, Option.pure_def, Option.some.injEq,
        hParams, if_true] at h
      obtain ⟨keys, hKeys, rest, hRest, rfl⟩ := h
      exact ((reports_checkKeyValuesFrom reports_isKeysValid hKeys).append
        reports_formatSpecifier).append (reports_klogKeyCheck hRest)
  · exact (reports_klogKeyCheck h).mono (by simp)

theorem reports_checkKlogCall (h : checkKlogCall c pass fn args fName filename = some ds) :
    Reports fn ['f', 'D', 'u', 'l', 'L'] ds := by
  have hDeprecated : Reports fn ['D']
      (if c.isEnabled .deprecations filename then deprecatedDiagnostics fn fName else []) := by
    split
    · exact reports_deprecated
    · exact Reports.nil
  simp only [checkKlogCall] at h
  generalize (if c.isEnabled .deprecations filename then deprecatedDiagnostics fn fName else []) =
    deprecated at h hDeprecated
  split_ifs at h
  · cases h
    exact (Reports.single rfl rfl contextualMessage_head (by decide) (by decide)).mono (by decide)
  · cases h
    exact (hDeprecated.append
      (Reports.single rfl rfl unstructuredMessage_head (by decide) (by decide))).mono (by decide)
  · obtain ⟨rest, hRest, rfl⟩ := Option.map_eq_some'.mp h
    exact (hDeprecated.append (reports_klogParametersCheck hRest)).mono (by decide)

theorem reports_loggerParametersCheck
    (h : loggerParametersCheck c pass fn args fName filename = some ds) : Reports fn ['l'] ds := by
  unfold loggerParametersCheck at h
  split at h
  · obtain ⟨keyValues, hKeyValues, rfl⟩ := Option.map_eq_some'.mp h
    exact reports_formatSpecifier.append (reports_checkKeyValuesFrom reports_isKeysValid hKeyValues)
  · cases h
    exact Reports.nil

theorem reports_loggerKeyCheck (h : loggerKeyCheck c pass fn args fName filename = some ds) :
    Reports fn [] ds := by
  unfold loggerKeyCheck at h
  split_ifs at h
  · cases h
    exact Reports.nil
  · exact reports_checkKeyValuesFrom reports_keysCheck h
  · cases h
    exact Reports.nil

theorem reports_checkLoggerCall (h : checkLoggerCall c pass fn args fName filename = some ds) :
    Reports fn ['l', 'f', 'L'] ds := by
  simp only [checkLoggerCall, Option.bind_eq_bind, Option.bind_eq_some, Option.pure_def,
    Option.some.injEq] at h
  obtain ⟨parameters, hParameters, keys, hKeys, rfl⟩ := h
  refine ((((reports_loggerParametersCheck hParameters).append (?_ : Reports fn ['f'] _)).append
    reports_verbosityZero).append (reports_loggerKeyCheck hKeys)).mono (by decide)
  split
  · exact Reports.single rfl rfl withHelpersMessage_head (by decide) (by decide)
  · exact Reports.nil

theorem reports_checkForFunctionExpr (h : checkForFunctionExpr c pass fn args = some ds) :
    ∃ leads : List Char, leads.Nodup ∧ Reports fn leads ds := by
  unfold checkForFunctionExpr at h
  split at h
  · simp only at h
    split_ifs at h
    · exact ⟨_, by decide, reports_checkKlogCall h⟩
    · exact ⟨_, by decide, reports_checkLoggerCall h⟩
    · cases h
      exact ⟨_, by decide, Reports.single rfl rfl newContextMessage_head (by decide) (by decide)⟩
    · cases h
      exact ⟨[], by decide, Reports.nil⟩
  · cases h
    exact ⟨[], by decide, Reports.nil⟩

end Blocks

/-- Every diagnostic of one call is at `fun.Pos()`, and two of them with the same position and
message have a key/value message. -/
theorem checkForFunctionExpr_repeats_only_keyValues (c : Config) (pass : Pass) (fn : Node)
    (args : List Node) {ds : List Diagnostic} (h : checkForFunctionExpr c pass fn args = some ds) :
    (∀ d ∈ ds, d.pos = fn.pos) ∧
      ds.Pairwise fun d e => d.pos = e.pos → d.message = e.message → IsKeyValueMessage d.message := by
  obtain ⟨leads, hNodup, hReports⟩ := reports_checkForFunctionExpr h
  exact ⟨fun d hd => (hReports.pos d hd).1, hReports.pairwise hNodup⟩

section Positions

variable {c : Config} {pass : Pass}

/-- The visitor reports at the position of the node it visits. -/
theorem visit_pos {n : Node} {here : List Diagnostic} (h : visit c pass n = some here) :
    ∀ d ∈ here, d.pos = n.pos := by
  intro d hd
  cases n with
  | callExpr fn args ellipsis =>
    obtain ⟨leads, -, hReports⟩ := reports_checkForFunctionExpr h
    exact (hReports.pos d hd).1
  | funcType pos endPos typeParams params results =>
    obtain rfl := Option.some.inj h
    rw [checkForContextAndLogger_eq_some (Option.mem_toList.mp hd)]
    rfl
  | ifStmt pos endPos init cond body els =>
    obtain rfl := Option.some.inj h
    obtain ⟨funcCall, varName, rfl⟩ := checkForIfEnabled_eq_some (Option.mem_toList.mp hd)
    rfl
  | _ =>
    obtain rfl := Option.some.inj h
    cases hd

/-- Every diagnostic of a run is at the position of a node of the package, reported by the visitor
on that node. -/
theorem run_reports_at_nodes {ds : List Diagnostic} (h : run c pass = some ds) {d : Diagnostic}
    (hd : d ∈ ds) :
    ∃ n ∈ descendantsList pass.files, ∃ here, visit c pass n = some here ∧ d ∈ here ∧ d.pos = n.pos := by
  obtain ⟨n, hn, here, hHere, hd'⟩ := mem_of_visitAll h hd
  exact ⟨n, hn, here, hHere, hd', visit_pos hHere d hd'⟩

/-- A package of the one call `klog.InfoS("msg", "key")`. -/
def infoSPass : Pass :=
  { examplePass with
    files := [.callExpr (.selectorExpr (.ident 40 "klog" none) "InfoS")
      [.basicLit 51 .string "\"msg\"", .basicLit 58 .string "\"key\""] 0] }

/-- The count message of `infoSPass` is at its call. -/
theorem infoSPass_reports_at_call :
    run defaultConfig infoSPass = some [{ pos := 40, message := oddCountMessage "InfoS" },
      { pos := 40, message := oddCountMessage "InfoS" }] ∧
    ({ pos := 40, message := oddCountMessage "InfoS" } : Diagnostic) ∈
      [{ pos := 40, message := oddCountMessage "InfoS" },
        { pos := 40, message := oddCountMessage "InfoS" }] ∧
    ∃ n ∈ descendantsList infoSPass.files, ∃ here, visit defaultConfig infoSPass n = some here ∧
      ({ pos := 40, message := oddCountMessage "InfoS" } : Diagnostic) ∈ here ∧ 40 = n.pos :=
  have hRun : run defaultConfig infoSPass = some [{ pos := 40, message := oddCountMessage "InfoS" },
      { pos := 40, message := oddCountMessage "InfoS" }] := rfl
  ⟨hRun, List.mem_cons_self _ _, run_reports_at_nodes hRun (List.mem_cons_self _ _)⟩

end Positions

/-- `klog.InfoS("msg", "key")` with the default checks: `isKeysValid` and `keysCheck` both report
the count message at `klog`, so the same diagnostic is reported twice. -/
theorem infoS_oddCount_reported_twice :
    checkForFunctionExpr defaultConfig examplePass (.selectorExpr (.ident 40 "klog" none) "InfoS")
        [.basicLit 51 .string "\"msg\"", .basicLit 58 .string "\"key\""] =
      some [{ pos := 40, message := oddCountMessage "InfoS" },
        { pos := 40, message := oddCountMessage "InfoS" }] ∧
    ¬ [({ pos := 40, message := oddCountMessage "InfoS" } : Diagnostic),
        { pos := 40, message := oddCountMessage "InfoS" }].Pairwise
      fun d e => ¬ (d.pos = e.pos ∧ d.message = e.message) :=
  ⟨rfl, by simp⟩

/-- The repeated diagnostic of `klog.InfoS("msg", "key")` is the count message. -/
theorem infoS_repeats_only_keyValues :
    checkForFunctionExpr defaultConfig examplePass (.selectorExpr (.ident 40 "klog" none) "InfoS")
        [.basicLit 51 .string "\"msg\"", .basicLit 58 .string "\"key\""] =
      some [{ pos := 40, message := oddCountMessage "InfoS" },
        { pos := 40, message := oddCountMessage "InfoS" }] ∧
    ((∀ d ∈ [({ pos := 40, message := oddCountMessage "InfoS" } : Diagnostic),
        { pos := 40, message := oddCountMessage "InfoS" }], d.pos = 40) ∧
      [({ pos := 40, message := oddCountMessage "InfoS" } : Diagnostic),
        { pos := 40, message := oddCountMessage "InfoS" }].Pairwise
        fun d e => d.pos = e.pos → d.message = e.message → IsKeyValueMessage d.message) :=
  ⟨rfl, checkForFunctionExpr_repeats_only_keyValues defaultConfig examplePass
    (.selectorExpr (.ident 40 "klog" none) "InfoS")
    [.basicLit 51 .string "\"msg\"", .basicLit 58 .string "\"key\""] rfl⟩

end Logcheck
