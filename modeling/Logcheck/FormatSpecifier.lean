import Logcheck.Syntax
import Logcheck.Strings

/-! The format-specifier checks: `hasFormatSpecifier` searches the text of every basic literal
for a fixed list of specifiers; `checkForFormatSpecifier` reports the first one found, and
`checkFormatSpecifier` only tells whether there is one. The list is a set of two- and
three-character texts, so the search finds `%` followed by one of a set of verbs, or `%+v` or
`%#v`, and nothing of the rest of a fmt directive. -/
namespace Logcheck

def formatSpecifiers : List String :=
  ["%v", "%+v", "%#v", "%T",
   "%t", "%b", "%c", "%d", "%o", "%O", "%q", "%x", "%X", "%U",
   "%e", "%E", "%f", "%F", "%g", "%G", "%s", "%q", "%p"]

/-- The `(specifier, true)` of `hasFormatSpecifier`, `none` for `("", false)`: the first
argument that is a basic literal whose text contains a specifier, with the first such specifier
in list order. -/
def hasFormatSpecifier (fArgs : List Node) : Option String :=
  fArgs.findSome? fun fArg => match fArg with
    | .basicLit _ _ value => formatSpecifiers.find? (Strings.contains value)
    | _ => none

def formatSpecifierMessage (fName specifier : String) : String :=
  "logging function " ++ quote fName ++ " should not use format specifier " ++ quote specifier

/-- The diagnostic `checkForFormatSpecifier` reports; it returns `true` exactly when it reports
one. Names ending in `f`, such as `Infof`, may use specifiers. -/
def checkForFormatSpecifier (fn : Node) (args : List Node) : Option Diagnostic :=
  match fn with
  | .selectorExpr _ fName =>
    if Strings.hasSuffix fName "f" then none
    else (hasFormatSpecifier args).map fun specifier =>
      { pos := fn.pos, message := formatSpecifierMessage fName specifier }
  | _ => none

def checkFormatSpecifier (fn : Node) (args : List Node) : Bool :=
  match fn with
  | .selectorExpr .. => (hasFormatSpecifier args).isSome
  | _ => false

theorem checkForFormatSpecifier_eq_some {fn : Node} {args : List Node} {d : Diagnostic}
    (h : checkForFormatSpecifier fn args = some d) :
    ∃ fName specifier, d = { pos := fn.pos, message := formatSpecifierMessage fName specifier } := by
  unfold checkForFormatSpecifier at h
  split at h
  · split_ifs at h
    obtain ⟨specifier, -, rfl⟩ := Option.map_eq_some'.mp h
    exact ⟨_, specifier, rfl⟩
  · cases h

section Characterisation

/-- The verbs that follow a bare `%` in `formatSpecifiers`. -/
def specifierVerbs : List Char :=
  ['v', 'T', 't', 'b', 'c', 'd', 'o', 'O', 'q', 'x', 'X', 'U', 'e', 'E', 'f', 'F', 'g', 'G', 's', 'p']

/-- Whether a text starts with one of `formatSpecifiers`: `%` and then a verb of
`specifierVerbs`, or `+v` or `#v`. -/
def startsWithSpecifier : List Char → Bool
  | a :: c :: rest => a == '%' && (c ∈ specifierVerbs || c ∈ ['+', '#'] && rest.head? == some 'v')
  | _ => false

/-- Whether one of `formatSpecifiers` occurs in a text. -/
def containsSpecifier : List Char → Bool
  | [] => false
  | c :: rest => startsWithSpecifier (c :: rest) || containsSpecifier rest

theorem formatSpecifiers_shape : ∀ s ∈ formatSpecifiers,
    (∃ v ∈ specifierVerbs, s.data = ['%', v]) ∨ ∃ f ∈ ['+', '#'], s.data = ['%', f, 'v'] := by
  decide

theorem formatSpecifiers_of_verb : ∀ v ∈ specifierVerbs, ∃ s ∈ formatSpecifiers, s.data = ['%', v] := by
  decide

theorem formatSpecifiers_of_flag :
    ∀ f ∈ ['+', '#'], ∃ s ∈ formatSpecifiers, s.data = ['%', f, 'v'] := by
  decide

theorem startsWithSpecifier_iff (t : List Char) :
    startsWithSpecifier t = true ↔ ∃ s ∈ formatSpecifiers, s.data <+: t := by
  constructor
  · intro h
    match t, h with
    | a :: c :: rest, h =>
      simp only [startsWithSpecifier, Bool.and_eq_true, beq_iff_eq, Bool.or_eq_true,
        decide_eq_true_eq] at h
      obtain ⟨rfl, hc | ⟨hf, hv⟩⟩ := h
      · obtain ⟨s, hs, hd⟩ := formatSpecifiers_of_verb c hc
        exact ⟨s, hs, hd ▸ ⟨rest, rfl⟩⟩
      · obtain ⟨s, hs, hd⟩ := formatSpecifiers_of_flag c hf
        obtain ⟨tail, rfl⟩ := List.head?_eq_some_iff.mp hv
        exact ⟨s, hs, hd ▸ ⟨tail, rfl⟩⟩
  · rintro ⟨s, hs, hpre⟩
    rcases formatSpecifiers_shape s hs with ⟨v, hv, hd⟩ | ⟨f, hf, hd⟩
    · obtain ⟨rest, rfl⟩ := hd ▸ hpre
      simp [startsWithSpecifier, hv]
    · obtain ⟨rest, rfl⟩ := hd ▸ hpre
      simp [startsWithSpecifier, hf]

theorem containsSpecifier_iff (xs : List Char) :
    containsSpecifier xs = true ↔ ∃ s ∈ formatSpecifiers, s.data <:+: xs := by
  induction xs with
  | nil =>
    simp only [containsSpecifier, Bool.false_eq_true, false_iff, List.infix_nil, not_exists, not_and]
    intro s hs hd
    rcases formatSpecifiers_shape s hs with ⟨v, -, h⟩ | ⟨f, -, h⟩ <;> simp [h] at hd
  | cons c rest ih =>
    simp only [containsSpecifier, Bool.or_eq_true, startsWithSpecifier_iff, ih, List.infix_cons_iff,
      and_or_left, exists_or]

/-- The search of one literal's text finds a specifier exactly when `containsSpecifier` holds. -/
theorem find?_formatSpecifiers_isSome (value : String) :
    (formatSpecifiers.find? (Strings.contains value)).isSome = containsSpecifier value.data := by
  rw [Bool.eq_iff_iff, List.find?_isSome, containsSpecifier_iff]
  simp only [Strings.contains_iff]

theorem hasFormatSpecifier_isSome (fArgs : List Node) :
    (hasFormatSpecifier fArgs).isSome ↔
      ∃ p kind value, .basicLit p kind value ∈ fArgs ∧ containsSpecifier value.data := by
  rw [hasFormatSpecifier, List.findSome?_isSome_iff]
  constructor
  · rintro ⟨arg, harg, h⟩
    cases arg with
    | basicLit p kind value =>
      exact ⟨p, kind, value, harg, by simpa [find?_formatSpecifiers_isSome] using h⟩
    | _ => simp at h
  · rintro ⟨p, kind, value, harg, h⟩
    exact ⟨_, harg, by simpa [find?_formatSpecifiers_isSome] using h⟩

end Characterisation

/-- For a name that does not end in `f`, the check reports exactly when the text of a basic
literal among the arguments contains `%` followed by a verb of `specifierVerbs`, or `%+v` or
`%#v`. Flags, width, precision and argument indexes are not read, and `%%` is not skipped. -/
theorem formatSpecifier_reported_iff (x : Node) (args : List Node) {fName : String}
    (hf : Strings.hasSuffix fName "f" = false) :
    (checkForFormatSpecifier (.selectorExpr x fName) args).isSome ↔
      ∃ p kind value, .basicLit p kind value ∈ args ∧ containsSpecifier value.data := by
  simp [checkForFormatSpecifier, hf, hasFormatSpecifier_isSome]

/-- `klog.InfoS` with the directives "%.2f", "%5d", "%-10s" and "%[1]d" is not reported; with
"100%%v", which prints a percent sign and the letter v, it is reported for "%v". -/
theorem formatSpecifier_misses_directives :
    checkForFormatSpecifier (.selectorExpr (.ident 40 "klog" none) "InfoS")
        [.basicLit 51 .string "\"%.2f\"", .basicLit 59 .string "\"%5d\"",
          .basicLit 66 .string "\"%-10s\"", .basicLit 75 .string "\"%[1]d\""] = none ∧
    checkForFormatSpecifier (.selectorExpr (.ident 40 "klog" none) "InfoS")
        [.basicLit 51 .string "\"100%%v\""] =
      some { pos := 40, message := formatSpecifierMessage "InfoS" "%v" } :=
  ⟨rfl, rfl⟩

/-- The literal "100%%v" of `klog.InfoS` contains the listed "%v". -/
theorem infoS_formatSpecifier_reported_iff :
    Strings.hasSuffix "InfoS" "f" = false ∧
    ((checkForFormatSpecifier (.selectorExpr (.ident 40 "klog" none) "InfoS")
        [.basicLit 51 .string "\"100%%v\""]).isSome ↔
      ∃ p kind value, Node.basicLit p kind value ∈ [Node.basicLit 51 .string "\"100%%v\""] ∧
        containsSpecifier value.data) :=
  ⟨rfl, formatSpecifier_reported_iff _ _ rfl⟩

end Logcheck
