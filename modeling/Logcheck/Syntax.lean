import Mathlib.Data.List.Basic

/-! The part of `go/ast`, `go/token`, `go/types` and `go/analysis` that logcheck reads.
Syntax nodes keep only the fields the analyser inspects; every other node is `other`, with its
children in the order `ast.Inspect` visits them. Type information is a function of the node. -/
namespace Logcheck

/-- `token.Pos`, an offset into the file set; `0` is `token.NoPos`. -/
abbrev Pos := Nat

/-- The `Kind` of an `*ast.BasicLit`. -/
inductive Token where
  | int | float | imag | char | string
  deriving DecidableEq, Repr

/-- A syntax node. An identifier's `obj` is its `ast.Object`: the object kind (`ast.Con` is `2`)
and, when `Decl` is an `*ast.ValueSpec`, the spec's `Values`. A call's `ellipsis` is the position
of a final `...`, `0` when there is none. A function type keeps the types of the fields of its
`TypeParams`, `Params` and `Results`. -/
inductive Node where
  | ident (pos : Pos) (name : String) (obj : Option (Nat × Option (List Node)))
  | basicLit (pos : Pos) (kind : Token) (value : String)
  | selectorExpr (x : Node) (sel : String)
  | callExpr (fn : Node) (args : List Node) (ellipsis : Pos)
  | funcType (pos endPos : Pos) (typeParams params results : List Node)
  | ifStmt (pos endPos : Pos) (init : Option Node) (cond body : Node) (els : Option Node)
  | other (pos : Pos) (children : List Node)
  deriving Repr

/-- `Pos()` of a node; a selector and a call start where their operand starts. -/
def Node.pos : Node → Pos
  | .ident pos _ _ => pos
  | .basicLit pos _ _ => pos
  | .selectorExpr x _ => x.pos
  | .callExpr fn _ _ => fn.pos
  | .funcType pos _ _ _ _ => pos
  | .ifStmt pos _ _ _ _ _ => pos
  | .other pos _ => pos

/-- The `types.Type` recorded for an expression. `named` is a `*types.Named` whose type name has
package `pkgPath` (`none` for a universe type such as `error`); `tuple` is the result list of a
call with several results. -/
inductive GoType where
  | named (name : String) (pkgPath : Option String)
  | tuple (elems : List GoType)
  | signature (params : List GoType) (variadic : Bool) (results : List GoType)
  | other
  deriving Repr

/-- The `types.Object` an identifier uses: a `*types.PkgName` with the path of the package it
imports, or any other object. -/
inductive Object where
  | pkgName (imported : String)
  | other
  deriving DecidableEq, Repr

/-- `*analysis.Pass`, with `TypesInfo.Types` and `TypesInfo.Uses` as functions of the node.
`structText` is what `%v` prints for a node without a `String` method: its struct, which holds
the run's addresses of the sub-nodes, so the model takes it as given. `isType` is
`TypesInfo.Types[e].IsType()`, whether `e` denotes a type, as the operand of a method expression
`T.m` does: the analyser never reads it, but Go's typing of a call does. -/
structure Pass where
  pkgPath : String
  files : List Node
  filename : Pos → String
  types : Node → Option GoType
  uses : Node → Option Object
  structText : Node → String
  isType : Node → Bool

/-- `analysis.Diagnostic`; a diagnostic reported without `End` has `endPos = 0`. -/
structure Diagnostic where
  pos : Pos
  endPos : Pos := 0
  message : String
  deriving DecidableEq, Repr

/-- `fmt.Sprintf("%v", arg)` for an expression: an `*ast.Ident` prints its name. -/
def Pass.sprintV (pass : Pass) : Node → String
  | .ident _ name _ => name
  | n => pass.structText n

end Logcheck
