import Logcheck.Distinct

/-! Which checks only add diagnostics. Turning on the verbosity-zero, key, deprecations or
with-helpers check never removes a diagnostic and never stops a crash: the run with fewer of them
on reports a sublist of what the run with more of them on reports. The structured, parameters and
contextual checks are held fixed, since each of them can hide the others: an unstructured or a
contextual call gets that check's message alone, and a format specifier stops the klog key check. -/
namespace Logcheck

/-- `c` runs each of the verbosity-zero, key, deprecations and with-helpers checks on `filename`
only where `c'` does, and each other check exactly where `c'` does. -/
structure Config.Below (c c' : Config) (filename : String) : Prop where
  structured : c.isEnabled .structured filename = c'.isEnabled .structured filename
  parameters : c.isEnabled .parameters filename = c'.isEnabled .parameters filename
  contextual : c.isEnabled .contextual filename = c'.isEnabled .contextual filename
  withHelpers : c.isEnabled .withHelpers filename = true → c'.isEnabled .withHelpers filename = true
  verbosityZero :
    c.isEnabled .verbosityZero filename = true → c'.isEnabled .verbosityZero filename = true
  key : c.isEnabled .key filename = true → c'.isEnabled .key filename = true
  deprecations :
    c.isEnabled .deprecations filename = true → c'.isEnabled .deprecations filename = true

/-- `o` reports a sublist of what `o'` reports, and crashes only where `o'` does. -/
def Narrower (o o' : Option (List Diagnostic)) : Prop :=
  ∀ ds', o' = some ds' → ∃ ds, o = some ds ∧ ds.Sublist ds'

namespace Narrower

variable {o o' : Option (List Diagnostic)} {l l' : List Diagnostic}

theorem refl (o : Option (List Diagnostic)) : Narrower o o := fun ds' h => ⟨ds', h, .refl _⟩

theorem of_sublist (h : l.Sublist l') : Narrower (some l) (some l') :=
  fun _ h' => ⟨l, rfl, Option.some.inj h' ▸ h⟩

theorem nil : Narrower (some []) o' := fun ds' _ => ⟨[], rfl, List.nil_sublist ds'⟩

theorem map_append (h : l.Sublist l') (ho : Narrower o o') :
    Narrower ((l ++ ·) <$> o) ((l' ++ ·) <$> o') := by
  intro ds' h'
  obtain ⟨rest', hRest', rfl⟩ := Option.map_eq_some'.mp h'
  obtain ⟨rest, hRest, hSub⟩ := ho rest' hRest'
  exact ⟨l ++ rest, by simp [hRest], h.append hSub⟩

theorem of_map_append (h : l.Sublist l') : Narrower (some l) ((l' ++ ·) <$> o') := by
  intro ds' h'
  obtain ⟨rest', -, rfl⟩ := Option.map_eq_some'.mp h'
  exact ⟨l, rfl, h.trans (List.sublist_append_left _ _)⟩

theorem bind_append (h : l.Sublist l') (ho : Narrower o o') :
    Narrower (o >>= fun rest => pure (l ++ rest)) (o' >>= fun rest => pure (l' ++ rest)) := by
  intro ds' h'
  simp only [Option.bind_eq_bind, Option.pure_def, Option.bind_eq_some, Option.some.injEq] at h'
  obtain ⟨rest', hRest', rfl⟩ := h'
  obtain ⟨rest, hRest, hSub⟩ := ho rest' hRest'
  exact ⟨l ++ rest, by simp [hRest], h.append hSub⟩

end Narrower

theorem ite_nil_sublist {b b' : Bool} {l : List Diagnostic} (h : b = true → b' = true) :
    (if b = true then l else []).Sublist (if b' = true then l else []) := by
  cases b <;> cases b' <;> simp_all

section Below

variable {c c' : Config} {pass : Pass} {fn : Node} {args : List Node} {fName filename : String}
  (hBelow : c.Below c' filename)
include hBelow

theorem verbosityZeroDiagnostics_sublist :
    (verbosityZeroDiagnostics c pass fn filename).Sublist
      (verbosityZeroDiagnostics c' pass fn filename) :=
  ite_nil_sublist hBelow.verbosityZero

theorem klogKeyCheck_narrower :
    Narrower (klogKeyCheck c pass fn args fName filename)
      (klogKeyCheck c' pass fn args fName filename) := by
  have hV : (verbosityZeroDiagnostics c pass fn filename).Sublist
      (verbosityZeroDiagnostics c' pass fn filename) := verbosityZeroDiagnostics_sublist hBelow
  simp only [klogKeyCheck]
  by_cases hKey : c.isEnabled .key filename = true
  · rw [if_pos hKey, if_pos (hBelow.key hKey)]
    split_ifs
    · exact .of_sublist hV
    · exact .map_append hV (.refl _)
  · rw [if_neg hKey]
    split_ifs
    · exact .of_sublist hV
    · exact .of_map_append hV
    · exact .of_sublist hV

theorem klogParametersCheck_narrower :
    Narrower (klogParametersCheck c pass fn args fName filename)
      (klogParametersCheck c' pass fn args fName filename) := by
  unfold klogParametersCheck
  rw [hBelow.parameters]
  split_ifs
  · cases checkForFormatSpecifier fn args with
    | some d => exact .refl _
    | none =>
      cases checkKeyValuesFrom (klogKeyValuesStart fName) (isKeysValid pass · fn fName) args with
      | none => exact .refl _
      | some keys => exact .bind_append (.refl _) (klogKeyCheck_narrower hBelow)
  · exact klogKeyCheck_narrower hBelow

theorem checkKlogCall_narrower :
    Narrower (checkKlogCall c pass fn args fName filename)
      (checkKlogCall c' pass fn args fName filename) := by
  have hDep : (if c.isEnabled .deprecations filename then deprecatedDiagnostics fn fName else []).Sublist
      (if c'.isEnabled .deprecations filename then deprecatedDiagnostics fn fName else []) :=
    ite_nil_sublist hBelow.deprecations
  simp only [checkKlogCall, hBelow.contextual, hBelow.structured]
  generalize (if c.isEnabled .deprecations filename then deprecatedDiagnostics fn fName else []) =
    deprecated at hDep ⊢
  generalize (if c'.isEnabled .deprecations filename then deprecatedDiagnostics fn fName else []) =
    deprecated' at hDep ⊢
  split_ifs
  · exact .refl _
  · exact .of_sublist (hDep.append (.refl _))
  · exact .map_append hDep (klogParametersCheck_narrower hBelow)

theorem loggerParametersCheck_below :
    loggerParametersCheck c pass fn args fName filename =
      loggerParametersCheck c' pass fn args fName filename := by
  simp only [loggerParametersCheck, hBelow.parameters]

theorem loggerKeyCheck_narrower :
    Narrower (loggerKeyCheck c pass fn args fName filename)
      (loggerKeyCheck c' pass fn args fName filename) := by
  unfold loggerKeyCheck
  by_cases hKey : c.isEnabled .key filename = true
  · rw [if_pos hKey, if_pos (hBelow.key hKey)]
    exact .refl _
  · rw [if_neg hKey]
    exact .nil

theorem checkLoggerCall_narrower :
    Narrower (checkLoggerCall c pass fn args fName filename)
      (checkLoggerCall c' pass fn args fName filename) := by
  have hHelpers :
      (if c.isEnabled .withHelpers filename && (fName == "WithValues" || fName == "WithName") then
          [({ pos := fn.pos, message := withHelpersMessage fName } : Diagnostic)] else []).Sublist
        (if c'.isEnabled .withHelpers filename && (fName == "WithValues" || fName == "WithName") then
          [({ pos := fn.pos, message := withHelpersMessage fName } : Diagnostic)] else []) :=
    ite_nil_sublist fun h => by simp_all [hBelow.withHelpers]
  simp only [checkLoggerCall, loggerParametersCheck_below hBelow]
  cases loggerParametersCheck c' pass fn args fName filename with
  | none => exact .refl _
  | some parameters =>
    exact .bind_append (((List.Sublist.refl _).append hHelpers).append
      (verbosityZeroDiagnostics_sublist hBelow)) (loggerKeyCheck_narrower hBelow)

end Below

theorem checkForFunctionExpr_narrower {c c' : Config} {pass : Pass} {fn : Node} {args : List Node}
    (hBelow : c.Below c' (callFilename pass fn)) :
    Narrower (checkForFunctionExpr c pass fn args) (checkForFunctionExpr c' pass fn args) := by
  cases fn with
  | selectorExpr x fName =>
    simp only [checkForFunctionExpr]
    split_ifs with hKlog hLogger hNew hNew'
    · exact checkKlogCall_narrower hBelow
    · exact checkLoggerCall_narrower hBelow
    · exact .refl _
    · simp only [Bool.and_eq_true] at hNew hNew'
      exact absurd ⟨hNew.1, hBelow.withHelpers hNew.2⟩ hNew'
    · exact .nil
    · exact .refl _
  | _ => exact .refl _

theorem Narrower.bind_bind_append {o₁ o₁' o₂ o₂' : Option (List Diagnostic)}
    (h₁ : Narrower o₁ o₁') (h₂ : Narrower o₂ o₂') :
    Narrower (do let a ← o₁; let b ← o₂; return a ++ b) (do let a ← o₁'; let b ← o₂'; return a ++ b) := by
  intro ds' h'
  simp only [Option.bind_eq_bind, Option.pure_def, Option.bind_eq_some, Option.some.injEq] at h'
  obtain ⟨a', ha', b', hb', rfl⟩ := h'
  obtain ⟨a, ha, hSubA⟩ := h₁ a' ha'
  obtain ⟨b, hb, hSubB⟩ := h₂ b' hb'
  exact ⟨a ++ b, by simp [ha, hb], hSubA.append hSubB⟩

section Runs

variable {c c' : Config} {pass : Pass} (hBelow : ∀ filename, c.Below c' filename)
include hBelow

theorem visit_narrower (n : Node) : Narrower (visit c pass n) (visit c' pass n) := by
  cases n with
  | callExpr fn args ellipsis => exact checkForFunctionExpr_narrower (hBelow _)
  | _ => exact .refl _

theorem visitAll_narrower (nodes : List Node) :
    Narrower (visitAll c pass nodes) (visitAll c' pass nodes) := by
  induction nodes with
  | nil => exact .refl _
  | cons n ns ih => exact .bind_bind_append (visit_narrower hBelow n) ih

end Runs

/-- Turning on the verbosity-zero, key, deprecations or with-helpers check, for any files, only
adds diagnostics: when the run with more of them on does not crash, the run with fewer does not
either, and reports a sublist of its diagnostics. -/
theorem run_sublist_of_below {c c' : Config} {pass : Pass}
    (hBelow : ∀ filename, c.Below c' filename) {ds' : List Diagnostic}
    (h' : run c' pass = some ds') :
    ∃ ds, run c pass = some ds ∧ ds.Sublist ds' :=
  visitAll_narrower hBelow _ ds' h'

/- The contextual check hides the others: with it on, `klog.InfoS("msg", "key")` gets the
contextual message alone in place of its two count messages. -/
example :
    run ⟨fun check => check == .contextual || defaultEnabled check, noFileOverrides⟩ infoSPass =
      some [{ pos := 40, message := contextualMessage "InfoS" }] := rfl

/-- With the key check off, the run of `infoSPass` keeps one of its two count messages. -/
theorem infoSPass_keyOff_sublist :
    (∀ filename, Config.Below ⟨fun check => check != .key && defaultEnabled check, noFileOverrides⟩
      defaultConfig filename) ∧
    run defaultConfig infoSPass = some [{ pos := 40, message := oddCountMessage "InfoS" },
      { pos := 40, message := oddCountMessage "InfoS" }] ∧
    ∃ ds, run ⟨fun check => check != .key && defaultEnabled check, noFileOverrides⟩ infoSPass =
        some ds ∧
      ds.Sublist [{ pos := 40, message := oddCountMessage "InfoS" },
        { pos := 40, message := oddCountMessage "InfoS" }] :=
  have hBelow : ∀ filename, Config.Below
      ⟨fun check => check != .key && defaultEnabled check, noFileOverrides⟩ defaultConfig filename :=
    fun _ => ⟨rfl, rfl, rfl, id, id, fun _ => rfl, id⟩
  have hRun : run defaultConfig infoSPass = some [{ pos := 40, message := oddCountMessage "InfoS" },
      { pos := 40, message := oddCountMessage "InfoS" }] := rfl
  ⟨hBelow, hRun, run_sublist_of_below hBelow hRun⟩

end Logcheck
