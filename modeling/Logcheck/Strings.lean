import Mathlib.Data.List.Infix

/-! The Go library functions logcheck calls on strings and slices. Go strings are UTF-8 bytes
and Lean strings are characters; on valid UTF-8 text, which source literals and names are, a
byte-wise search or trim finds the same matches as a character-wise one. -/
namespace Logcheck

/-- The slice expression `xs[low:]`; `none` is the run-time panic "slice bounds out of range",
raised when `low` exceeds `len(xs)`. -/
def sliceFrom {α : Type} (xs : List α) (low : Nat) : Option (List α) :=
  if low ≤ xs.length then some (xs.drop low) else none

@[simp] theorem sliceFrom_eq_none {α : Type} {xs : List α} {low : Nat} :
    sliceFrom xs low = none ↔ xs.length < low := by
  simp [sliceFrom]

namespace Strings

/-- Whether `sub` occurs in `s` as a contiguous run of characters. -/
def containsChars : List Char → List Char → Bool
  | s, sub => sub.isPrefixOf s || match s with
    | [] => false
    | _ :: t => containsChars t sub

theorem containsChars_iff (s sub : List Char) : containsChars s sub = true ↔ sub <:+: s := by
  induction s with
  | nil => simp [containsChars, List.isPrefixOf_iff_prefix, List.infix_nil, List.prefix_nil]
  | cons c t ih => simp [containsChars, ih, List.isPrefixOf_iff_prefix, List.infix_cons_iff]

/-- `strings.Contains(s, substr)`. -/
def contains (s substr : String) : Bool := containsChars s.data substr.data

theorem contains_iff (s substr : String) : contains s substr = true ↔ substr.data <:+: s.data :=
  containsChars_iff _ _

/-- `strings.HasSuffix(s, suffix)`. -/
def hasSuffix (s suffix : String) : Bool := suffix.data.isSuffixOf s.data

/-- `strings.Trim(s, cutset)`: every leading and trailing character of `cutset` removed. -/
def trim (s cutset : String) : String :=
  ⟨((s.data.dropWhile (· ∈ cutset.data)).reverse.dropWhile (· ∈ cutset.data)).reverse⟩

theorem mem_trim {s : String} (cutset : String) {ch : Char} (h : ch ∈ s.data) :
    ch ∈ cutset.data ∨ ch ∈ (trim s cutset).data := by
  have hSplit {l : List Char} (hl : ch ∈ l) : ch ∈ cutset.data ∨ ch ∈ l.dropWhile (· ∈ cutset.data) := by
    rw [← List.takeWhile_append_dropWhile (· ∈ cutset.data) l, List.mem_append] at hl
    rcases hl with hl | hl
    · exact .inl (by simpa using List.mem_takeWhile_imp hl)
    · exact .inr hl
  rcases hSplit h with hCut | hMid
  · exact .inl hCut
  · rcases hSplit (List.mem_reverse.mpr hMid) with hCut | hCore
    · exact .inl hCut
    · exact .inr (by simpa [trim] using hCore)

end Strings

/-- `utf8string.NewString(s).IsASCII()`: every character is below `0x80`. -/
def isASCII (s : String) : Bool := s.data.all (·.val < 0x80)

/-- Letters and digits of `[[:alnum:]]` are ASCII. -/
theorem val_lt_of_isAlphanum {ch : Char} (h : ch.isAlphanum) : ch.val < 0x80 := by
  simp only [Char.isAlphanum, Char.isAlpha, Char.isUpper, Char.isLower, Char.isDigit,
    Bool.or_eq_true, Bool.and_eq_true, decide_eq_true_eq] at h
  simp only [UInt32.le_def, UInt32.lt_def, BitVec.le_def, BitVec.lt_def] at h ⊢
  simp at h ⊢
  omega

/-- `path.Base(p)`: the last element of a slash-separated path, trailing slashes removed;
`"."` for the empty path and `"/"` for a path of slashes only. -/
def pathBase (p : String) : String :=
  if p.isEmpty then "."
  else
    let trimmed := p.data.reverse.dropWhile (· = '/')
    if trimmed.isEmpty then "/" else ⟨(trimmed.takeWhile (· ≠ '/')).reverse⟩

/-! Messages are told apart by their first or last characters. -/

theorem data_head?_append (s t : String) (h : s.data ≠ []) : (s ++ t).data.head? = s.data.head? := by
  rw [String.data_append, List.head?_append_of_ne_nil _ h]

/-- Two texts that end in different last `k` characters differ. -/
theorem append_ne_append_of_last {a b s t : String} (k : Nat) (hs : k ≤ s.length)
    (ht : k ≤ t.length) (h : s.data.reverse.take k ≠ t.data.reverse.take k) : a ++ s ≠ b ++ t := by
  intro he
  have hLast := congrArg (fun x : String => x.data.reverse.take k) he
  simp only [String.data_append, List.reverse_append] at hLast
  rw [List.take_append_of_le_length (by simpa using hs),
    List.take_append_of_le_length (by simpa using ht)] at hLast
  exact h hLast

/-- `strconv.Quote(s)`, the `%q` verb, on text of printable characters other than `"` and
the backslash, which is all logcheck quotes: Go identifiers and the specifiers it searches for. -/
def quote (s : String) : String := "\"" ++ s ++ "\""

end Logcheck
