import Logcheck.Run

/-! Which calls crash the analyser. Go binds the results of a call `g()` with several results to
the parameters of `f` in `f(g())` (the Go specification, "Calls"), while the key/value checks
slice the argument list at the number of fixed parameters, which such a call does not list. The
parameters are those of the callee's signature, with the receiver ahead of them when the call is a
method expression. -/
namespace Logcheck

/-- The number of values an argument supplies: all the results of a call with several results. -/
def valueCount (pass : Pass) (arg : Node) : Nat :=
  match pass.types arg with
  | some (.tuple elems) => elems.length
  | _ => 1

/-- The arguments bind, counted by values, to a variadic signature with `fixed` regular
parameters: either one call with several results, at least `fixed` of them, or single values, at
least `fixed` of them, or exactly `fixed + 1` when the last is spread with `...`. -/
def BindsVariadic (pass : Pass) (fixed : Nat) (args : List Node) (ellipsis : Pos) : Prop :=
  (∃ g, args = [g] ∧ 2 ≤ valueCount pass g ∧ fixed ≤ valueCount pass g ∧ ellipsis = 0) ∨
  ((∀ a ∈ args, valueCount pass a = 1) ∧
    if ellipsis = 0 then fixed ≤ args.length else args.length = fixed + 1)

/-- The regular parameters of `x.fName`, whose method has the fixed parameters `params`: a method
expression `T.m`, whose operand is a type, takes the receiver as its first parameter (the Go
specification, "Method expressions"). -/
def fixedCount (pass : Pass) (x : Node) (params : List String) : Nat :=
  (if pass.isType x then 1 else 0) + params.length

/-- The structured calls of the package type-check: their arguments bind to the signatures
`klogFixedParams` and `loggerFixedParams`, after the receiver in a method expression such as
`logr.Logger.WithValues(l, kv...)`. -/
def StructuredCallsBind (pass : Pass) : Prop :=
  ∀ x fName args ellipsis,
    .callExpr (.selectorExpr x fName) args ellipsis ∈ descendantsList pass.files →
      (isKlog pass x → ∀ params, klogFixedParams fName = some params →
        BindsVariadic pass (fixedCount pass x params) args ellipsis) ∧
      (isGoLogger pass x → ∀ params, loggerFixedParams fName = some params →
        BindsVariadic pass (fixedCount pass x params) args ellipsis)

/-- Binding arguments are fewer than the fixed parameters only in `f(g())` against at least two
fixed parameters. -/
theorem BindsVariadic.length_lt {pass : Pass} {fixed : Nat} {args : List Node} {ellipsis : Pos}
    (h : BindsVariadic pass fixed args ellipsis) (hlt : args.length < fixed) :
    ∃ g, args = [g] ∧ 2 ≤ valueCount pass g ∧ 2 ≤ fixed := by
  rcases h with ⟨g, rfl, hMulti, -, -⟩ | ⟨-, hLen⟩
  · exact ⟨g, rfl, hMulti, by simpa using hlt⟩
  · split_ifs at hLen <;> omega

theorem klogKeyValuesStart_eq_some {fName : String} {low : Nat}
    (h : klogKeyValuesStart fName = some low) :
    fName = "InfoS" ∧ low = 1 ∨ fName = "ErrorS" ∧ low = 2 := by
  unfold klogKeyValuesStart at h
  split at h <;> simp_all

theorem loggerKeyValuesStart_eq_some {fName : String} {low : Nat}
    (h : loggerKeyValuesStart fName = some low) :
    fName = "WithValues" ∧ low = 0 ∨ fName = "Info" ∧ low = 1 ∨ fName = "Error" ∧ low = 2 := by
  unfold loggerKeyValuesStart at h
  split at h <;> simp_all

/-- In a package whose structured calls type-check, `run` crashes only at an `ErrorS` or an
`Error` call whose single argument is a call with several results. -/
theorem run_eq_none_of_binds {c : Config} {pass : Pass} (hBind : StructuredCallsBind pass)
    (h : run c pass = none) :
    ∃ x fName g ellipsis, .callExpr (.selectorExpr x fName) [g] ellipsis ∈ descendantsList pass.files ∧
      2 ≤ valueCount pass g ∧ (fName = "ErrorS" ∨ fName = "Error") := by
  obtain ⟨fn, args, ellipsis, hMem, hNone⟩ := run_eq_none.mp h
  obtain ⟨x, fName, low, rfl, hlt, hKlog | ⟨-, hLogger, hStart⟩⟩ :=
    checkForFunctionExpr_eq_none hNone
  · obtain ⟨params, hParams, rfl⟩ := klogKeyValuesStart_eq_some_iff.mp hKlog.2
    obtain ⟨g, rfl, hMulti, -⟩ := ((hBind x fName args ellipsis hMem).1 hKlog.1 params
      hParams).length_lt (by unfold fixedCount; omega)
    rw [List.length_singleton] at hlt
    refine ⟨x, fName, g, ellipsis, hMem, hMulti, .inl ?_⟩
    rcases klogKeyValuesStart_eq_some hKlog.2 with ⟨-, hLow⟩ | ⟨hErrorS, -⟩
    exacts [absurd hLow (by omega), hErrorS]
  · obtain ⟨params, hParams, rfl⟩ := loggerKeyValuesStart_eq_some_iff.mp hStart
    obtain ⟨g, rfl, hMulti, -⟩ := ((hBind x fName args ellipsis hMem).2 hLogger params
      hParams).length_lt (by unfold fixedCount; omega)
    rw [List.length_singleton] at hlt
    refine ⟨x, fName, g, ellipsis, hMem, hMulti, .inr ?_⟩
    rcases loggerKeyValuesStart_eq_some hStart with ⟨-, hLow⟩ | ⟨-, hLow⟩ | ⟨hError, -⟩
    exacts [absurd hLow (by omega), absurd hLow (by omega), hError]

/-- `package app; import "k8s.io/klog/v2"; func f() (error, string); func g() { klog.ErrorS(f()) }`,
where `klog` names the klog package, `f()` has the type `(error, string)` and, for calls checked
on their own, `logger` is a `logr.Logger`. -/
def examplePass : Pass where
  pkgPath := "example.com/app"
  files := [.other 1 [.callExpr (.selectorExpr (.ident 40 "klog" none) "ErrorS")
    [.callExpr (.ident 51 "f" none) [] 0] 0]]
  filename := fun _ => "app.go"
  types := fun n => match n with
    | .callExpr (.ident _ "f" _) [] _ => some (.tuple [.named "error" none, .named "string" none])
    | .ident _ "logger" _ => some (.named "Logger" (some "github.com/go-logr/logr"))
    | _ => none
  uses := fun n => match n with
    | .ident _ "klog" _ => some (.pkgName "k8s.io/klog/v2")
    | _ => none
  structText := fun _ => ""
  isType := fun _ => false

/-- The one structured call of `examplePass`, `klog.ErrorS(f())`, binds: `f()` supplies two
values for the two fixed parameters. -/
theorem examplePass_binds : StructuredCallsBind examplePass := by
  intro x fName args ellipsis hMem
  simp [examplePass, descendantsList, Node.descendants] at hMem
  obtain ⟨⟨rfl, rfl⟩, rfl, rfl⟩ := hMem
  refine ⟨fun _ params hParams => ?_, fun hLogger => absurd hLogger (by decide)⟩
  obtain rfl : ["err", "msg"] = params := by simpa [klogFixedParams] using hParams
  exact .inl ⟨_, rfl, by decide, by decide, rfl⟩

/-- `klog.ErrorS(f())` type-checks, and the analyser with its default checks crashes on it:
`args[2:]` of the one argument `f()` is out of range. -/
theorem errorS_multiValued_panics :
    StructuredCallsBind examplePass ∧ run defaultConfig examplePass = none :=
  ⟨examplePass_binds, rfl⟩

/-- `logr.Logger.WithValues(l, kv...)`, a method expression that takes the receiver `l` as its first
argument, next to `klog.ErrorS(f())`. -/
def methodExprPass : Pass where
  pkgPath := "example.com/app"
  files := [.other 1 [
    .callExpr (.selectorExpr (.selectorExpr (.ident 20 "logr" none) "Logger") "WithValues")
      [.ident 43 "l" none, .ident 46 "kv" none] 48,
    .callExpr (.selectorExpr (.ident 60 "klog" none) "ErrorS") [.callExpr (.ident 71 "f" none) [] 0] 0]]
  filename := fun _ => "app.go"
  types := fun n => match n with
    | .callExpr (.ident _ "f" _) [] _ => some (.tuple [.named "error" none, .named "string" none])
    | .ident _ "l" _ => some (.named "Logger" (some "github.com/go-logr/logr"))
    | .selectorExpr (.ident _ "logr" _) "Logger" => some (.named "Logger" (some "github.com/go-logr/logr"))
    | _ => none
  uses := fun n => match n with
    | .ident _ "klog" _ => some (.pkgName "k8s.io/klog/v2")
    | .ident _ "logr" _ => some (.pkgName "github.com/go-logr/logr")
    | _ => none
  structText := fun _ => ""
  isType := fun n => match n with
    | .selectorExpr (.ident _ "logr" _) "Logger" => true
    | _ => false

/-- Both structured calls of `methodExprPass` bind: `l` and the spread `kv...` to the receiver and
the variadic parameter of `logr.Logger.WithValues`, and `f()` to the parameters of `ErrorS`. -/
theorem methodExprPass_binds : StructuredCallsBind methodExprPass := by
  intro x fName args ellipsis hMem
  simp [methodExprPass, descendantsList, Node.descendants] at hMem
  rcases hMem with ⟨⟨rfl, rfl⟩, rfl, rfl⟩ | ⟨⟨rfl, rfl⟩, rfl, rfl⟩
  · refine ⟨fun hKlog => absurd hKlog (by decide), fun _ params hParams => ?_⟩
    obtain rfl : [] = params := by simpa [loggerFixedParams] using hParams
    exact .inr ⟨by decide, rfl⟩
  · refine ⟨fun _ params hParams => ?_, fun hLogger => absurd hLogger (by decide)⟩
    obtain rfl : ["err", "msg"] = params := by simpa [klogFixedParams] using hParams
    exact .inl ⟨_, rfl, by decide, by decide, rfl⟩

/-- The crash on `methodExprPass` is at its `ErrorS` call, whose argument `f()` has two results. -/
theorem methodExprPass_crash_site :
    StructuredCallsBind methodExprPass ∧ run defaultConfig methodExprPass = none ∧
      ∃ x fName g ellipsis,
        .callExpr (.selectorExpr x fName) [g] ellipsis ∈ descendantsList methodExprPass.files ∧
        2 ≤ valueCount methodExprPass g ∧ (fName = "ErrorS" ∨ fName = "Error") :=
  ⟨methodExprPass_binds, rfl, run_eq_none_of_binds (c := defaultConfig) methodExprPass_binds rfl⟩

end Logcheck
