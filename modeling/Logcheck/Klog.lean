import Logcheck.Syntax
import Logcheck.Strings

/-! Deciding what a call is called on, and the lists of klog functions, from the analyser's
source (`isKlogVerbose` … `isContextualCall`, `checkForVerbosityZero`, `isVerbosityZero`). -/
namespace Logcheck

/-- Whether the type recorded for `expr` is the named type `name` of the package with path `path`.
`isKlogVerbose`, `isGoLogger` and `checkForContextAndLogger` make this test. -/
def isNamed (pass : Pass) (expr : Node) (name path : String) : Bool :=
  match pass.types expr with
  | some (.named n (some p)) => n == name && p == path
  | _ => false

def isKlogVerbose (pass : Pass) (expr : Node) : Bool := isNamed pass expr "Verbose" "k8s.io/klog/v2"

def isGoLogger (pass : Pass) (expr : Node) : Bool :=
  isNamed pass expr "Logger" "github.com/go-logr/logr"

/-- Whether `expr` is an identifier that refers to the package `packagePath`. -/
def isPackage (pass : Pass) (expr : Node) (packagePath : String) : Bool :=
  match expr with
  | .ident .. => match pass.uses expr with
    | some (.pkgName imported) => imported == packagePath
    | _ => false
  | _ => false

/-- Whether an expression is a `klog.Verbose` or the klog package itself. -/
def isKlog (pass : Pass) (expr : Node) : Bool :=
  isKlogVerbose pass expr || isPackage pass expr "k8s.io/klog/v2"

def unstrucured : List String :=
  ["Infof", "Info", "Infoln", "InfoDepth",
   "Warning", "Warningf", "Warningln", "WarningDepth",
   "Error", "Errorf", "Errorln", "ErrorDepth",
   "Fatal", "Fatalf", "Fatalln", "FatalDepth",
   "Exit", "Exitf", "Exitln", "ExitDepth"]

/-- The klog functions not to be used after the migration to structured logging. -/
def isUnstructured (fName : String) : Bool := unstrucured.contains fName

def deprecatedContextualLogHelper : List (String × String) := [("KObjs", "KObjSlice")]

/-- The message and `deprecatedUse` of a call to a deprecated helper; `("", false)` otherwise. -/
def isDeprecatedContextualCall (fName : String) : String × Bool :=
  match deprecatedContextualLogHelper.lookup fName with
  | some replacementFunction =>
    ("Detected usage of deprecated helper \"" ++ fName ++ "\". Please switch to \"" ++
      replacementFunction ++ "\" instead.", true)
  | none => ("", false)

def contextual : List String :=
  ["Background", "ClearLogger", "ContextualLogger", "EnableContextualLogging", "FlushAndExit",
   "FlushLogger", "FromContext", "InitFlags", "KObj", "KObjs", "KObjSlice", "KRef",
   "LoggerWithName", "LoggerWithValues", "NewContext", "SetLogger", "SetLoggerWithOptions",
   "StartFlushDaemon", "StopFlushDaemon", "TODO"]

/-- The klog functions still allowed under contextual logging. -/
def isContextualCall (fName : String) : Bool := contextual.contains fName

/-- Whether `expr` is a call `….V(0)`, also through a constant declared as `0` in this file. -/
def isVerbosityZero : Node → Bool
  | .callExpr (.selectorExpr _ "V") [arg] _ =>
    match arg with
    | .basicLit _ _ value => value == "0"
    | .ident _ _ (some (2, some [.basicLit _ _ value])) => value == "0"
    | _ => false
  | _ => false

def verbosityZeroMessage : String :=
  "Logging with V(0) is semantically equivalent to the same expression without it and just " ++
  "causes unnecessary overhead. It should get removed."

/-- The diagnostic of a call through `V(0)` on a `klog.Verbose` or a `logr.Logger`. -/
def checkForVerbosityZero (pass : Pass) (fn : Node) : Option Diagnostic :=
  match fn with
  | .selectorExpr expr _ =>
    if !isKlogVerbose pass expr && !isGoLogger pass expr then none
    else if isVerbosityZero expr then some { pos := fn.pos, message := verbosityZeroMessage }
    else none
  | _ => none

theorem checkForVerbosityZero_eq_some {pass : Pass} {fn : Node} {d : Diagnostic}
    (h : checkForVerbosityZero pass fn = some d) :
    d = { pos := fn.pos, message := verbosityZeroMessage } := by
  unfold checkForVerbosityZero at h
  split at h
  · split_ifs at h
    exact (Option.some.inj h).symm
  · cases h

end Logcheck
