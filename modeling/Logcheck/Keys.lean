import Logcheck.Syntax
import Logcheck.Strings
import Logcheck.Regexp

/-! The key/value checks `isKeysValid` and `keysCheck`. Both report an odd number of arguments,
and then, for every key position, a key that is not a string literal; they differ only in what
they require of the text of a string literal, so they are one definition with that test as its
parameter. -/
namespace Logcheck

def oddCountMessage (funName : String) : String :=
  "Additional arguments to " ++ funName ++
    " should always be Key Value pairs. Please check if there is any key or value missing."

def constantKeyMessage (arg : String) : String :=
  "Key positional arguments are expected to be inlined constant strings. Please replace " ++ arg ++
    " provided with string value."

def nonLatinMessage (value : String) : String :=
  "Key positional arguments " ++ value ++
    " are expected to be lowerCamelCase alphanumeric strings. Please remove any non-Latin characters."

def keyGuidelineMessage (value : String) : String :=
  "Key positional arguments " ++ value ++
    " are expected to be alphanumeric and start with either one lowercase or two uppercase " ++
    "letters. Please refer to https://github.com/kubernetes/community/blob/master/contributors/" ++
    "devel/sig-instrumentation/migration-to-structured-logging.md#name-arguments."

/-- The messages of the key/value checks. -/
def IsKeyValueMessage (message : String) : Prop :=
  ∃ s, message = oddCountMessage s ∨ message = constantKeyMessage s ∨
    message = nonLatinMessage s ∨ message = keyGuidelineMessage s

section Messages

variable {s t : String}

theorem oddCountMessage_head : (oddCountMessage s).data.head? = some 'A' := by
  simp only [oddCountMessage, String.append_assoc]
  rw [data_head?_append _ _ (by decide)]; rfl

theorem constantKeyMessage_head : (constantKeyMessage s).data.head? = some 'K' := by
  simp only [constantKeyMessage, String.append_assoc]
  rw [data_head?_append _ _ (by decide)]; rfl

theorem nonLatinMessage_head : (nonLatinMessage s).data.head? = some 'K' := by
  simp only [nonLatinMessage, String.append_assoc]
  rw [data_head?_append _ _ (by decide)]; rfl

theorem keyGuidelineMessage_head : (keyGuidelineMessage s).data.head? = some 'K' := by
  simp only [keyGuidelineMessage, String.append_assoc]
  rw [data_head?_append _ _ (by decide)]; rfl

/-- A message that starts with neither `A` nor `K` is not one of the key/value checks. -/
theorem not_isKeyValueMessage {m : String} (hA : m.data.head? ≠ some 'A')
    (hK : m.data.head? ≠ some 'K') : ¬ IsKeyValueMessage m := by
  rintro ⟨s, rfl | rfl | rfl | rfl⟩
  · exact hA oddCountMessage_head
  · exact hK constantKeyMessage_head
  · exact hK nonLatinMessage_head
  · exact hK keyGuidelineMessage_head

theorem oddCountMessage_ne {m : String} (h : m.data.head? = some 'K') : oddCountMessage s ≠ m := by
  intro he
  rw [← he, oddCountMessage_head] at h
  cases h

theorem nonLatinMessage_injective : Function.Injective nonLatinMessage := by
  intro s t h
  have hData := congrArg String.data h
  simp only [nonLatinMessage, String.data_append, List.append_cancel_left_eq,
    List.append_cancel_right_eq] at hData
  exact String.ext hData

theorem keyGuidelineMessage_injective : Function.Injective keyGuidelineMessage := by
  intro s t h
  have hData := congrArg String.data h
  simp only [keyGuidelineMessage, String.data_append, List.append_assoc, List.append_cancel_left_eq,
    List.append_cancel_right_eq] at hData
  exact String.ext hData

theorem constantKeyMessage_ne_nonLatinMessage : constantKeyMessage s ≠ nonLatinMessage t :=
  append_ne_append_of_last 3 (by decide) (by decide) (by decide)

theorem constantKeyMessage_ne_keyGuidelineMessage : constantKeyMessage s ≠ keyGuidelineMessage t :=
  append_ne_append_of_last 3 (by decide) (by decide) (by decide)

end Messages

/-- The arguments at even indices: the key positions, which the loops do not skip. -/
def keyArgs {α : Type} : List α → List α
  | [] => []
  | [k] => [k]
  | k :: _ :: rest => k :: keyArgs rest

/-- The message the loop body reports for one key position: a key must be a string literal,
whose text `checkLiteral` judges. -/
def keyArgMessage (checkLiteral : String → Option String) (pass : Pass) : Node → Option String
  | .basicLit _ kind value =>
    if kind ≠ .string then some (constantKeyMessage value) else checkLiteral value
  | arg => some (constantKeyMessage (pass.sprintV arg))

/-- The messages of `isKeysValid` and `keysCheck`, in the order they report them. -/
def keyValueMessages (checkLiteral : String → Option String) (pass : Pass) (keyValues : List Node)
    (funName : String) : List String :=
  if keyValues.length % 2 ≠ 0 then [oddCountMessage funName]
  else (keyArgs keyValues).filterMap (keyArgMessage checkLiteral pass)

/-- The shape of `isKeysValid` and `keysCheck`; every report is at `fun.Pos()`. -/
def checkKeyValues (checkLiteral : String → Option String) (pass : Pass) (keyValues : List Node)
    (fn : Node) (funName : String) : List Diagnostic :=
  (keyValueMessages checkLiteral pass keyValues funName).map fun message =>
    { pos := fn.pos, message := message }

/-- The test of `isKeysValid` on the text of a string literal. -/
def nonLatinKey (value : String) : Option String :=
  if isASCII value then none else some (nonLatinMessage value)

/-- `isKeysValid(keyValues, fun, pass, funName)`. -/
def isKeysValid (pass : Pass) (keyValues : List Node) (fn : Node) (funName : String) :
    List Diagnostic :=
  checkKeyValues nonLatinKey pass keyValues fn funName

/-- `(^[A-Z]{2,}|^[a-z])[[:alnum:]]*$`, parsed. -/
def keyMatchRe : Regexp :=
  .concat
    (.alternate (.concat .beginText ((Regexp.charClass [('A', 'Z')]).repeatMin 2))
      (.concat .beginText (.charClass [('a', 'z')])))
    (.concat (.star (.charClass [('0', '9'), ('A', 'Z'), ('a', 'z')])) .endText)

/-- The test of `keysCheck` on the text of a string literal: `keyMatchRe` on the text with its
`"` characters trimmed. -/
def guidelineKey (value : String) : Option String :=
  if keyMatchRe.isMatch (Strings.trim value "\"") then none else some (keyGuidelineMessage value)

/-- `keysCheck(keyValues, fun, pass, funName)`. -/
def keysCheck (pass : Pass) (keyValues : List Node) (fn : Node) (funName : String) :
    List Diagnostic :=
  checkKeyValues guidelineKey pass keyValues fn funName

theorem mem_keyArgs {α : Type} {xs : List α} {x : α} :
    x ∈ keyArgs xs ↔ ∃ i, i % 2 = 0 ∧ xs[i]? = some x := by
  induction xs using keyArgs.induct with
  | case1 => simp [keyArgs]
  | case2 k =>
    simp only [keyArgs, List.mem_singleton]
    constructor
    · rintro rfl
      exact ⟨0, rfl, rfl⟩
    · rintro ⟨_ | i, hi, hx⟩ <;> simp_all
  | case3 k v rest ih =>
    simp only [keyArgs, List.mem_cons, ih]
    constructor
    · rintro (rfl | ⟨i, hi, hx⟩)
      · exact ⟨0, rfl, rfl⟩
      · exact ⟨i + 2, by omega, by simpa using hx⟩
    · rintro ⟨_ | _ | i, hi, hx⟩
      · simp only [List.getElem?_cons_zero, Option.some.injEq] at hx
        exact .inl hx.symm
      · simp at hi
      · exact .inr ⟨i, by omega, by simpa using hx⟩

section CheckKeyValues

variable {checkLiteral : String → Option String} {pass : Pass} {keyValues : List Node} {fn : Node}
  {funName message : String} {d : Diagnostic}

theorem mem_checkKeyValues : d ∈ checkKeyValues checkLiteral pass keyValues fn funName ↔
    d.pos = fn.pos ∧ d.endPos = 0 ∧
      d.message ∈ keyValueMessages checkLiteral pass keyValues funName := by
  rcases d with ⟨pos, endPos, m⟩
  simp only [checkKeyValues, List.mem_map, Diagnostic.mk.injEq]
  constructor
  · rintro ⟨m, hm, rfl, rfl, rfl⟩
    exact ⟨rfl, rfl, hm⟩
  · rintro ⟨rfl, rfl, hm⟩
    exact ⟨m, hm, rfl, rfl, rfl⟩

theorem messages_checkKeyValues :
    (checkKeyValues checkLiteral pass keyValues fn funName).map Diagnostic.message =
      keyValueMessages checkLiteral pass keyValues funName := by
  simp [checkKeyValues, Function.comp_def]

theorem keyValueMessages_of_odd (h : keyValues.length % 2 = 1) :
    keyValueMessages checkLiteral pass keyValues funName = [oddCountMessage funName] :=
  if_pos (by omega)

theorem keyValueMessages_of_even (h : keyValues.length % 2 = 0) :
    keyValueMessages checkLiteral pass keyValues funName =
      (keyArgs keyValues).filterMap (keyArgMessage checkLiteral pass) :=
  if_neg (by omega)

/-- The messages of one key position are those of a non-constant key or of `checkLiteral`. -/
theorem keyArgMessage_eq_some {arg : Node} (h : keyArgMessage checkLiteral pass arg = some message) :
    (∃ s, message = constantKeyMessage s) ∨ ∃ p v, arg = .basicLit p .string v ∧
      checkLiteral v = some message := by
  cases arg with
  | basicLit p kind v =>
    by_cases hk : kind = .string
    · subst hk
      exact .inr ⟨p, v, rfl, by simpa [keyArgMessage] using h⟩
    · exact .inl ⟨v, by simp_all [keyArgMessage, @eq_comm _ message]⟩
  | _ => exact .inl ⟨_, (Option.some.inj h).symm⟩

/-- Every message of the checks is a key/value message when those of `checkLiteral` are. -/
theorem isKeyValueMessage_of_mem (hLit : ∀ v m, checkLiteral v = some m → IsKeyValueMessage m)
    (h : message ∈ keyValueMessages checkLiteral pass keyValues funName) :
    IsKeyValueMessage message := by
  unfold keyValueMessages at h
  split at h
  · rw [List.mem_singleton.mp h]
    exact ⟨funName, .inl rfl⟩
  · obtain ⟨arg, -, harg⟩ := List.mem_filterMap.mp h
    rcases keyArgMessage_eq_some harg with ⟨s, rfl⟩ | ⟨p, v, -, hv⟩
    · exact ⟨s, .inr (.inl rfl)⟩
    · exact hLit v message hv

/-- The count message is reported exactly for an odd number of arguments, when the messages of
`checkLiteral` start with `K` as the other key messages do. -/
theorem oddCount_mem_iff (hLit : ∀ v m, checkLiteral v = some m → m.data.head? = some 'K') :
    oddCountMessage funName ∈ keyValueMessages checkLiteral pass keyValues funName ↔
      keyValues.length % 2 = 1 := by
  rcases Nat.mod_two_eq_zero_or_one keyValues.length with h | h
  · rw [keyValueMessages_of_even h, h]
    simp only [List.mem_filterMap, Nat.zero_ne_one, iff_false, not_exists, not_and]
    intro arg _ harg
    rcases keyArgMessage_eq_some harg with ⟨s, hs⟩ | ⟨p, v, -, hv⟩
    · exact oddCountMessage_ne (hs ▸ constantKeyMessage_head) hs
    · exact oddCountMessage_ne (hLit v _ hv) rfl
  · simp [keyValueMessages_of_odd h, h]

/-- The message of `checkLiteral` for the text of a string literal at a key position is reported
exactly when that text fails the test, when the messages name the text, one to one, and differ
from the constant-key message. -/
theorem literalMessage_mem_iff (toMessage : String → String) (fails : String → Prop)
    (hLit : ∀ v m, checkLiteral v = some m ↔ fails v ∧ m = toMessage v)
    (hInj : Function.Injective toMessage) (hConst : ∀ s v, constantKeyMessage s ≠ toMessage v)
    {i : Nat} {p : Pos} {value : String} (hEven : keyValues.length % 2 = 0) (hi : i % 2 = 0)
    (hKey : keyValues[i]? = some (.basicLit p .string value)) :
    toMessage value ∈ keyValueMessages checkLiteral pass keyValues funName ↔ fails value := by
  rw [keyValueMessages_of_even hEven, List.mem_filterMap]
  constructor
  · rintro ⟨arg, -, harg⟩
    rcases keyArgMessage_eq_some harg with ⟨s, hs⟩ | ⟨p', v, -, hv⟩
    · exact absurd hs.symm (hConst s value)
    · obtain ⟨hFails, hm⟩ := (hLit v _).mp hv
      rwa [← hInj hm] at hFails
  · intro hFails
    refine ⟨_, mem_keyArgs.mpr ⟨i, hi, hKey⟩, ?_⟩
    simpa [keyArgMessage] using (hLit value _).mpr ⟨hFails, rfl⟩

theorem keyArgMessage_eq_none {arg : Node} :
    keyArgMessage checkLiteral pass arg = none ↔
      ∃ p text, arg = .basicLit p .string text ∧ checkLiteral text = none := by
  cases arg with
  | basicLit p kind v =>
    by_cases hk : kind = .string
    · subst hk
      simp [keyArgMessage, and_assoc]
    · simp [keyArgMessage, hk]
  | _ => simp [keyArgMessage]

/-- A key/value check reports nothing exactly on an even number of arguments with, at every key
position, a string literal whose text the literal test passes. -/
theorem keyValueMessages_eq_nil_iff :
    keyValueMessages checkLiteral pass keyValues funName = [] ↔
      keyValues.length % 2 = 0 ∧
        ∀ k ∈ keyArgs keyValues, ∃ p text, k = .basicLit p .string text ∧ checkLiteral text = none := by
  rcases Nat.mod_two_eq_zero_or_one keyValues.length with h | h
  · simp [keyValueMessages_of_even h, h, List.filterMap_eq_nil_iff, keyArgMessage_eq_none]
  · simp [keyValueMessages_of_odd h, h]

end CheckKeyValues

theorem nonLatinKey_eq_some {value message : String} :
    nonLatinKey value = some message ↔ isASCII value = false ∧ message = nonLatinMessage value := by
  unfold nonLatinKey
  split
  · simp_all
  · simp_all [@eq_comm _ message]

theorem guidelineKey_eq_some {value message : String} :
    guidelineKey value = some message ↔
      keyMatchRe.isMatch (Strings.trim value "\"") = false ∧ message = keyGuidelineMessage value := by
  unfold guidelineKey
  split
  · simp_all
  · simp_all [@eq_comm _ message]

section KeyMatchRe

open Regexp

theorem contains_upper (c : Char) : CharClass.contains [('A', 'Z')] c = c.isUpper := by
  simp [CharClass.contains, Char.isUpper, Char.le_def]

theorem contains_lower (c : Char) : CharClass.contains [('a', 'z')] c = c.isLower := by
  simp [CharClass.contains, Char.isLower, Char.le_def]

theorem contains_alnum (c : Char) :
    CharClass.contains [('0', '9'), ('A', 'Z'), ('a', 'z')] c = c.isAlphanum := by
  simp [CharClass.contains, Char.isAlphanum, Char.isAlpha, Char.isUpper, Char.isLower,
    Char.isDigit, Char.le_def]
  exact Bool.or_comm _ _

/-- The keys the guidelines accept: ASCII letters and digits, starting with one lowercase letter
or with two uppercase letters. -/
def isGuidelineKey : List Char → Bool
  | [] => false
  | [c] => c.isLower
  | c :: d :: rest =>
    ((c.isLower && d.isAlphanum) || (c.isUpper && d.isUpper)) && rest.all Char.isAlphanum

theorem isGuidelineKey_iff {key : List Char} : isGuidelineKey key ↔
    (∃ c d run mid, key = c :: d :: (run ++ mid) ∧ c.isUpper ∧ d.isUpper ∧
      (∀ x ∈ run, x.isUpper) ∧ ∀ x ∈ mid, x.isAlphanum) ∨
    (∃ c mid, key = c :: mid ∧ c.isLower ∧ ∀ x ∈ mid, x.isAlphanum) := by
  have hUpper : ∀ x : Char, x.isUpper → x.isAlphanum := fun x h => by
    simp [Char.isAlphanum, Char.isAlpha, h]
  match key with
  | [] => simp [isGuidelineKey]
  | [c] => simp [isGuidelineKey, and_assoc]
  | c :: d :: rest =>
    simp only [isGuidelineKey, Bool.and_eq_true, Bool.or_eq_true, List.all_eq_true]
    constructor
    · rintro ⟨⟨hc, hd⟩ | ⟨hc, hd⟩, hr⟩
      · exact .inr ⟨c, d :: rest, rfl, hc, by simpa [hd] using hr⟩
      · exact .inl ⟨c, d, [], rest, rfl, hc, hd, by simp, hr⟩
    · rintro (⟨c', d', run, mid, he, hc, hd, hrun, hmid⟩ | ⟨c', mid, he, hc, hmid⟩)
      · simp only [List.cons.injEq] at he
        obtain ⟨rfl, rfl, rfl⟩ := he
        refine ⟨.inr ⟨hc, hd⟩, fun x hx => ?_⟩
        rcases List.mem_append.mp hx with hx | hx
        · exact hUpper x (hrun x hx)
        · exact hmid x hx
      · obtain ⟨rfl, rfl⟩ := List.cons.inj he
        exact ⟨.inl ⟨hc, hmid d (by simp)⟩, fun x hx => hmid x (by simp [hx])⟩

theorem isAlphanum_of_isGuidelineKey {key : List Char} (h : isGuidelineKey key) :
    ∀ x ∈ key, x.isAlphanum := by
  have hUpper : ∀ x : Char, x.isUpper → x.isAlphanum := fun x h => by
    simp [Char.isAlphanum, Char.isAlpha, h]
  rcases isGuidelineKey_iff.mp h with ⟨c, d, run, mid, rfl, hc, hd, hRun, hMid⟩ | ⟨c, mid, rfl, hc, hMid⟩
  · simp only [List.mem_cons, List.mem_append]
    rintro x (rfl | rfl | hx | hx)
    exacts [hUpper _ hc, hUpper _ hd, hUpper _ (hRun x hx), hMid x hx]
  · simp only [List.mem_cons]
    rintro x (rfl | hx)
    exacts [by simp [Char.isAlphanum, Char.isAlpha, hc], hMid x hx]

theorem mem_ends_keyMatchRe {text rest after : List Char} :
    after ∈ ends text keyMatchRe rest ↔
      rest.length = text.length ∧ after = [] ∧ isGuidelineKey rest := by
  rw [isGuidelineKey_iff]
  simp only [keyMatchRe, Regexp.repeatMin, mem_ends_concat, mem_ends_alternate, mem_ends_beginText,
    mem_ends_charClass, mem_ends_star_charClass, mem_ends_endText, contains_upper, contains_lower,
    contains_alnum]
  constructor
  · rintro ⟨mid, hHead, _, ⟨tail, rfl, htail⟩, rfl, rfl⟩
    rcases hHead with ⟨_, ⟨hlen, rfl⟩, _, ⟨c, rfl, hc⟩, _, ⟨d, rfl, hd⟩, run, rfl, hrun⟩ |
      ⟨_, ⟨hlen, rfl⟩, c, rfl, hc⟩
    · exact ⟨hlen, rfl, .inl ⟨c, d, run, tail ++ [], rfl, hc, hd, hrun, by simpa using htail⟩⟩
    · exact ⟨hlen, rfl, .inr ⟨c, tail ++ [], rfl, hc, by simpa using htail⟩⟩
  · rintro ⟨hlen, rfl, ⟨c, d, run, mid, rfl, hc, hd, hrun, hmid⟩ | ⟨c, mid, rfl, hc, hmid⟩⟩
    · exact ⟨mid, .inl ⟨_, ⟨hlen, rfl⟩, _, ⟨c, rfl, hc⟩, _, ⟨d, rfl, hd⟩, run, rfl, hrun⟩,
        [], ⟨mid, by simp, hmid⟩, rfl, rfl⟩
    · exact ⟨mid, .inr ⟨_, ⟨hlen, rfl⟩, c, rfl, hc⟩, [], ⟨mid, by simp, hmid⟩, rfl, rfl⟩

/-- `keyMatchRe` accepts exactly the keys of the guidelines. -/
theorem isMatch_keyMatchRe (s : String) : keyMatchRe.isMatch s = isGuidelineKey s.data := by
  unfold Regexp.isMatch
  rw [Bool.eq_iff_iff, List.any_eq_true]
  constructor
  · rintro ⟨rest, hrest, hne⟩
    obtain ⟨after, hafter⟩ := List.exists_mem_of_ne_nil _ (by simpa using hne)
    obtain ⟨hlen, -, hkey⟩ := mem_ends_keyMatchRe.mp hafter
    rwa [((List.mem_tails _ _).mp hrest).eq_of_length hlen] at hkey
  · intro hkey
    have hEnd : [] ∈ ends s.data keyMatchRe s.data := mem_ends_keyMatchRe.mpr ⟨rfl, rfl, hkey⟩
    exact ⟨s.data, (List.mem_tails _ _).mpr (List.suffix_refl _),
      by simpa using List.ne_nil_of_mem hEnd⟩

end KeyMatchRe

/-- Key/value arguments whose keys `accepts` passes: an even number of them, with a string literal
whose text `accepts` passes at every key position. -/
def KeysAccepted (accepts : String → Bool) (keyValues : List Node) : Prop :=
  keyValues.length % 2 = 0 ∧
    ∀ k ∈ keyArgs keyValues, ∃ p text, k = .basicLit p .string text ∧ accepts text = true

theorem KeysAccepted.mono {accepts accepts' : String → Bool} {keyValues : List Node}
    (h : ∀ text, accepts text → accepts' text) (hAccepted : KeysAccepted accepts keyValues) :
    KeysAccepted accepts' keyValues := by
  refine ⟨hAccepted.1, fun k hk => ?_⟩
  obtain ⟨p, text, rfl, hText⟩ := hAccepted.2 k hk
  exact ⟨p, text, rfl, h text hText⟩

section Acceptance

variable {pass : Pass} {keyValues : List Node} {fn : Node} {funName : String}

/-- `isKeysValid` passes exactly the lists with ASCII string-literal keys. -/
theorem isKeysValid_eq_nil_iff :
    isKeysValid pass keyValues fn funName = [] ↔ KeysAccepted isASCII keyValues := by
  rw [isKeysValid, checkKeyValues, List.map_eq_nil_iff, keyValueMessages_eq_nil_iff]
  simp [KeysAccepted, nonLatinKey]

/-- `keysCheck` passes exactly the lists whose keys are string literals naming keys of the
guidelines, once trimmed of `"`. -/
theorem keysCheck_eq_nil_iff :
    keysCheck pass keyValues fn funName = [] ↔
      KeysAccepted (fun text => isGuidelineKey (Strings.trim text "\"").data) keyValues := by
  rw [keysCheck, checkKeyValues, List.map_eq_nil_iff, keyValueMessages_eq_nil_iff]
  simp [KeysAccepted, guidelineKey, isMatch_keyMatchRe]

/-- A key text that follows the guidelines, once trimmed of `"`, is ASCII. -/
theorem isASCII_of_guideline {text : String}
    (h : isGuidelineKey (Strings.trim text "\"").data) : isASCII text := by
  simp only [isASCII, List.all_eq_true, decide_eq_true_eq]
  intro ch hch
  rcases Strings.mem_trim "\"" hch with hQuote | hCore
  · obtain rfl : ch = '"' := by simpa using hQuote
    decide
  · exact val_lt_of_isAlphanum (isAlphanum_of_isGuidelineKey h ch hCore)

/-- The key check subsumes the non-Latin test of the parameters check: on a list of key/value
arguments that `keysCheck` passes, `isKeysValid` reports nothing. -/
theorem isKeysValid_eq_nil_of_keysCheck (h : keysCheck pass keyValues fn funName = []) :
    isKeysValid pass keyValues fn funName = [] :=
  isKeysValid_eq_nil_iff.mpr ((keysCheck_eq_nil_iff.mp h).mono fun _ => isASCII_of_guideline)

/-- `"podName", pod` passes the key check, and so the key test of the parameters check. -/
theorem podName_passes_both_key_tests :
    keysCheck ⟨"", [], fun _ => "", fun _ => none, fun _ => none, fun _ => "", fun _ => false⟩
        [.basicLit 58 .string "\"podName\"", .ident 69 "pod" none] (.ident 40 "klog" none) "InfoS" =
      [] ∧
    isKeysValid ⟨"", [], fun _ => "", fun _ => none, fun _ => none, fun _ => "", fun _ => false⟩
        [.basicLit 58 .string "\"podName\"", .ident 69 "pod" none] (.ident 40 "klog" none) "InfoS" =
      [] :=
  have h : keysCheck ⟨"", [], fun _ => "", fun _ => none, fun _ => none, fun _ => "", fun _ => false⟩
      [.basicLit 58 .string "\"podName\"", .ident 69 "pod" none] (.ident 40 "klog" none) "InfoS" =
        [] := rfl
  ⟨h, isKeysValid_eq_nil_of_keysCheck h⟩

end Acceptance

end Logcheck
