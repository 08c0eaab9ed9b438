import Mathlib.Data.List.Infix

/-! Go's `regexp`, for the operators logcheck's patterns use. A pattern is its parsed syntax
tree; a match is computed over suffixes of the text, and `Regexp.isMatch` is `(*Regexp).Match`,
which reports whether any substring of the text matches. -/
namespace Logcheck

/-- A character class `[...]` as its inclusive ranges, as `regexp/syntax` stores it. -/
abbrev CharClass := List (Char × Char)

def CharClass.contains (cls : CharClass) (c : Char) : Bool := cls.any fun r => r.1 ≤ c && c ≤ r.2

inductive Regexp where
  | charClass (cls : CharClass)
  /-- `^` outside multi-line mode. -/
  | beginText
  /-- `$` outside multi-line mode. -/
  | endText
  | concat (r s : Regexp)
  | alternate (r s : Regexp)
  | star (r : Regexp)

namespace Regexp

/-- `x{n,}`: at least `n` copies of `x`. -/
def repeatMin (r : Regexp) : Nat → Regexp
  | 0 => star r
  | n + 1 => concat r (repeatMin r n)

/-- The suffixes reached by repeating `step` from `rest`; an iteration that consumes nothing
adds no new suffix, so `fuel = rest.length` iterations reach all of them. -/
def starEnds (step : List Char → List (List Char)) : Nat → List Char → List (List Char)
  | 0, rest => [rest]
  | fuel + 1, rest =>
      rest :: ((step rest).filter (·.length < rest.length)).flatMap (starEnds step fuel)

/-- The suffixes of `text` at which a match of `r` that starts at suffix `rest` can end. -/
def ends (text : List Char) : Regexp → List Char → List (List Char)
  | charClass cls, rest => match rest with
    | c :: after => if cls.contains c then [after] else []
    | [] => []
  | beginText, rest => if rest.length = text.length then [rest] else []
  | endText, rest => if rest = [] then [rest] else []
  | concat r s, rest => (ends text r rest).flatMap (ends text s)
  | alternate r s, rest => ends text r rest ++ ends text s rest
  | star r, rest => starEnds (ends text r) rest.length rest

/-- `(*Regexp).Match`: some substring of the text matches. -/
def isMatch (r : Regexp) (s : String) : Bool :=
  s.data.tails.any fun rest => !(ends s.data r rest).isEmpty

section Ends

variable {text rest after : List Char} {cls : CharClass} {r s : Regexp}

/-! One equation per constructor, so that a proof unfolds one node at a time. -/

theorem ends_charClass_cons (c : Char) :
    ends text (charClass cls) (c :: rest) = if cls.contains c then [rest] else [] := rfl
theorem ends_charClass_nil : ends text (charClass cls) [] = [] := rfl
theorem ends_beginText :
    ends text beginText rest = if rest.length = text.length then [rest] else [] := rfl
theorem ends_endText : ends text endText rest = if rest = [] then [rest] else [] := rfl
theorem ends_concat : ends text (concat r s) rest = (ends text r rest).flatMap (ends text s) := rfl
theorem ends_alternate : ends text (alternate r s) rest = ends text r rest ++ ends text s rest := rfl
theorem ends_star : ends text (star r) rest = starEnds (ends text r) rest.length rest := rfl

@[simp] theorem mem_ends_charClass :
    after ∈ ends text (charClass cls) rest ↔ ∃ c, rest = c :: after ∧ cls.contains c := by
  cases rest with
  | nil => simp [ends_charClass_nil]
  | cons c t =>
    by_cases h : cls.contains c <;> simp [ends_charClass_cons, h, @eq_comm _ after, and_assoc]

@[simp] theorem mem_ends_beginText :
    after ∈ ends text beginText rest ↔ rest.length = text.length ∧ after = rest := by
  rw [ends_beginText]; split <;> simp [*]

@[simp] theorem mem_ends_endText : after ∈ ends text endText rest ↔ rest = [] ∧ after = [] := by
  rw [ends_endText]; split <;> simp [*]

@[simp] theorem mem_ends_concat :
    after ∈ ends text (concat r s) rest ↔ ∃ mid ∈ ends text r rest, after ∈ ends text s mid := by
  rw [ends_concat, List.mem_flatMap]

@[simp] theorem mem_ends_alternate :
    after ∈ ends text (alternate r s) rest ↔
      after ∈ ends text r rest ∨ after ∈ ends text s rest := by
  rw [ends_alternate, List.mem_append]

/-- Repeating a class consumes exactly a run of characters of the class. -/
theorem mem_starEnds_charClass (fuel : Nat) :
    after ∈ starEnds (ends text (charClass cls)) fuel rest ↔
      ∃ run, rest = run ++ after ∧ run.length ≤ fuel ∧ ∀ c ∈ run, cls.contains c := by
  induction fuel generalizing rest with
  | zero =>
    simp only [starEnds, List.mem_singleton, Nat.le_zero, List.length_eq_zero]
    exact ⟨fun h => ⟨[], by simp [h], rfl, by simp⟩, fun ⟨_, h, hrun, _⟩ => by simp [h, hrun]⟩
  | succ fuel ih =>
    simp only [starEnds, List.mem_cons, List.mem_flatMap, List.mem_filter, mem_ends_charClass,
      decide_eq_true_eq, ih]
    constructor
    · rintro (rfl | ⟨mid, ⟨⟨c, rfl, hc⟩, -⟩, run, rfl, hlen, hrun⟩)
      · exact ⟨[], rfl, by simp, by simp⟩
      · exact ⟨c :: run, rfl, by simpa using hlen, by simpa [hc] using hrun⟩
    · rintro ⟨_ | ⟨c, run⟩, rfl, hlen, hrun⟩
      · exact .inl rfl
      · simp only [List.mem_cons, forall_eq_or_imp] at hrun
        exact .inr ⟨run ++ after, ⟨⟨c, rfl, hrun.1⟩, by simp⟩, run, rfl,
          by simpa using hlen, hrun.2⟩

@[simp] theorem mem_ends_star_charClass :
    after ∈ ends text (star (charClass cls)) rest ↔
      ∃ run, rest = run ++ after ∧ ∀ c ∈ run, cls.contains c := by
  rw [ends_star, mem_starEnds_charClass]
  constructor
  · rintro ⟨run, h, -, hrun⟩
    exact ⟨run, h, hrun⟩
  · rintro ⟨run, rfl, hrun⟩
    exact ⟨run, rfl, by simp, hrun⟩

end Ends

end Regexp

end Logcheck
