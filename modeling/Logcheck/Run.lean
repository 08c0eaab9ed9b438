import Logcheck.FunctionExpr

/-! `run`: `ast.Inspect` over every file of the package with the analyser's visitor, which
checks calls, function types and `if` statements. Identifiers that are only names, such as the
`Sel` of a selector, are not nodes of the model: the visitor does nothing on identifiers. -/
namespace Logcheck

def contextAndLoggerMessage : String :=
  "A function should accept either a context or a logger, but not both. Having both makes " ++
  "calling the function harder because it must be defined whether the context must contain the " ++
  "logger and callers have to follow that."

/-- `checkForContextAndLogger` on a function type at `pos`…`endPos` whose parameters have the
types `params`. -/
def checkForContextAndLogger (pass : Pass) (pos endPos : Pos) (params : List Node) :
    Option Diagnostic :=
  let haveLogger := params.any fun t => isNamed pass t "Logger" "github.com/go-logr/logr"
  let haveContext := params.any fun t => isNamed pass t "Context" "context"
  if haveLogger && haveContext then
    some { pos := pos, endPos := endPos, message := contextAndLoggerMessage }
  else none

/-- The operand at the root of a chain of selectors, where the loop over `root.X` stops. -/
def selectorRoot : Node → Node
  | .selectorExpr x _ => selectorRoot x
  | n => n

def ifEnabledMessage (funcCall varName : String) : String :=
  "the result of " ++ funcCall ++
    " should be stored in a variable and then be used multiple times: if " ++ varName ++ " := " ++
    funcCall ++ "(); " ++ varName ++ ".Enabled() \x7b ... " ++ varName ++ ".Info ... \x7d"

/-- `checkForIfEnabled` on an `if` statement at `pos`…`endPos` with condition `cond`: a condition
`….V(…).Enabled()` on a `klog.Verbose` or a `logr.Logger`. -/
def checkForIfEnabled (pass : Pass) (pos endPos : Pos) (cond : Node) : Option Diagnostic :=
  match cond with
  | .callExpr (.selectorExpr x "Enabled") _ _ =>
    if !isKlogVerbose pass x && !isGoLogger pass x then none
    else match x with
      | .callExpr (.selectorExpr subX "V") _ _ =>
        let varName :=
          if isGoLogger pass subX then
            match selectorRoot subX with
            | .ident _ name _ => name
            | _ => "logger"
          else "klogV"
        let funcCall := if isGoLogger pass subX then varName ++ ".V" else "klog.V"
        some { pos := pos, endPos := endPos, message := ifEnabledMessage funcCall varName }
      | _ => none
  | _ => none

theorem checkForContextAndLogger_eq_some {pass : Pass} {pos endPos : Pos} {params : List Node}
    {d : Diagnostic} (h : checkForContextAndLogger pass pos endPos params = some d) :
    d = { pos := pos, endPos := endPos, message := contextAndLoggerMessage } := by
  simp only [checkForContextAndLogger] at h
  split_ifs at h
  exact (Option.some.inj h).symm

theorem checkForIfEnabled_eq_some {pass : Pass} {pos endPos : Pos} {cond : Node} {d : Diagnostic}
    (h : checkForIfEnabled pass pos endPos cond = some d) :
    ∃ funcCall varName,
      d = { pos := pos, endPos := endPos, message := ifEnabledMessage funcCall varName } := by
  unfold checkForIfEnabled at h
  repeat' split at h
  all_goals first | exact ⟨_, _, (Option.some.inj h).symm⟩ | cases h

mutual
/-- The nodes `ast.Inspect` visits below a node, in the order it visits them. -/
def Node.descendants : Node → List Node
  | .ident .. | .basicLit .. => []
  | .selectorExpr x _ => x :: x.descendants
  | .callExpr fn args _ => (fn :: fn.descendants) ++ descendantsList args
  | .funcType _ _ typeParams params results =>
    descendantsList typeParams ++ descendantsList params ++ descendantsList results
  | .ifStmt _ _ init cond body els =>
    descendantsOption init ++ (cond :: cond.descendants) ++ (body :: body.descendants) ++
      descendantsOption els
  | .other _ children => descendantsList children

/-- The nodes `ast.Inspect` visits from each node of a list: the node, then its descendants. -/
def descendantsList : List Node → List Node
  | [] => []
  | n :: ns => (n :: n.descendants) ++ descendantsList ns

def descendantsOption : Option Node → List Node
  | none => []
  | some n => n :: n.descendants
end

/-- The visitor of `run` on one node. -/
def visit (c : Config) (pass : Pass) : Node → Option (List Diagnostic)
  | .callExpr fn args _ => checkForFunctionExpr c pass fn args
  | .funcType pos endPos _ params _ => some (checkForContextAndLogger pass pos endPos params).toList
  | .ifStmt pos endPos _ cond _ _ => some (checkForIfEnabled pass pos endPos cond).toList
  | _ => some []

/-- The visitor on nodes in order; a panic ends the run. -/
def visitAll (c : Config) (pass : Pass) : List Node → Option (List Diagnostic)
  | [] => some []
  | n :: ns => do
    let here ← visit c pass n
    let rest ← visitAll c pass ns
    return here ++ rest

/-- `run(pass, c)`: `ast.Inspect` on each file of the package. -/
def run (c : Config) (pass : Pass) : Option (List Diagnostic) :=
  visitAll c pass (descendantsList pass.files)

section VisitAll

variable {c : Config} {pass : Pass}

theorem visitAll_eq_none {nodes : List Node} :
    visitAll c pass nodes = none ↔ ∃ n ∈ nodes, visit c pass n = none := by
  induction nodes with
  | nil => simp [visitAll]
  | cons n ns ih =>
    cases h : visit c pass n with
    | none => simp [visitAll, h]
    | some here => cases h' : visitAll c pass ns <;> simp_all [visitAll]

/-- Every diagnostic of a run is a diagnostic of the visitor on one of the nodes. -/
theorem mem_of_visitAll {nodes : List Node} {ds : List Diagnostic} {d : Diagnostic}
    (h : visitAll c pass nodes = some ds) (hd : d ∈ ds) :
    ∃ n ∈ nodes, ∃ here, visit c pass n = some here ∧ d ∈ here := by
  induction nodes generalizing ds with
  | nil =>
    simp only [visitAll, Option.some.injEq] at h
    subst h
    cases hd
  | cons n ns ih =>
    simp only [visitAll, Option.bind_eq_bind, Option.bind_eq_some, Option.pure_def,
      Option.some.injEq] at h
    obtain ⟨here, hHere, rest, hRest, rfl⟩ := h
    rcases List.mem_append.mp hd with hd | hd
    · exact ⟨n, .head _, here, hHere, hd⟩
    · obtain ⟨m, hm, hm'⟩ := ih hRest hd
      exact ⟨m, .tail _ hm, hm'⟩

end VisitAll

/-- Only a call can panic: the visitor on any other node returns its diagnostics. -/
theorem visit_eq_none {c : Config} {pass : Pass} {n : Node} :
    visit c pass n = none ↔
      ∃ fn args ellipsis, n = .callExpr fn args ellipsis ∧
        checkForFunctionExpr c pass fn args = none := by
  cases n <;> simp [visit, and_assoc]

/-- `run` panics exactly when `checkForFunctionExpr` panics on one of the calls of the package. -/
theorem run_eq_none {c : Config} {pass : Pass} :
    run c pass = none ↔ ∃ fn args ellipsis, .callExpr fn args ellipsis ∈ descendantsList pass.files ∧
      checkForFunctionExpr c pass fn args = none := by
  simp only [run, visitAll_eq_none, visit_eq_none]
  constructor
  · rintro ⟨_, hn, fn, args, ellipsis, rfl, h⟩
    exact ⟨fn, args, ellipsis, hn, h⟩
  · rintro ⟨fn, args, ellipsis, hn, h⟩
    exact ⟨_, hn, fn, args, ellipsis, rfl, h⟩

end Logcheck
