import MailFilter.Failure
import MailFilter.Text.FormEncoded

/-!
# Modifiers

A `set` command may change its value before it is bound. Modifiers run in one canonical order,
whatever order they were written in, so a command is given by the *set* of its modifiers.

- `Modifier`: a change, in canonical order.
- `Modifier.ofToken?`: reading a keyword, in any letter case.
- `Modifier.apply`: the change of a text.
- `ModifierSet`: which modifiers are enabled.
- `ModifierSet.apply`: all enabled changes in canonical order.
- `ModifierSet.has_ofList`: a set holds exactly the modifiers that it was made of.
-/

namespace MailFilter

/-- A change of a value, declared in canonical order. -/
inductive Modifier where
  /-- A backslash before each backslash, `*` and `?`. -/
  | quoteWildcard
  /-- Small letters. -/
  | lower
  /-- Capital letters. -/
  | upper
  /-- The first code point in small letters. -/
  | lowerFirst
  /-- The first code point in capital letters. -/
  | upperFirst
  /-- Form encoding. -/
  | encodeUrl
  /-- The number of code points. -/
  | length
  deriving DecidableEq, Inhabited, Repr

namespace Modifier

/-- Every modifier, in canonical order. -/
def all : List Modifier :=
  [.quoteWildcard, .lower, .upper, .lowerFirst, .upperFirst, .encodeUrl, .length]

theorem mem_all (m : Modifier) : m ∈ all := by
  cases m <;> simp [all]

/-- The keyword of a modifier. -/
def keyword : Modifier → Text
  | .quoteWildcard => "quotewildcard"
  | .lower => "lower"
  | .upper => "upper"
  | .lowerFirst => "lowerfirst"
  | .upperFirst => "upperfirst"
  | .encodeUrl => "encodeurl"
  | .length => "length"

/-- Reads a keyword, with or without a leading colon. -/
def ofToken? (token : Text) : Option Modifier :=
  all.find? fun m => m.keyword = token.tagKeyword

/-- Whether a code point is special in a glob. -/
def isGlobSpecial (c : CodePoint) : Bool :=
  c = .char '\\' || c = .char '*' || c = .char '?'

/-- Puts a backslash before each backslash and wildcard. -/
def quoteGlob (t : Text) : Text :=
  t.flatMap fun c => if isGlobSpecial c then [.char '\\', c] else [c]

theorem quoteGlob_append (s t : Text) : quoteGlob (s ++ t) = quoteGlob s ++ quoteGlob t :=
  List.flatMap_append ..

/-- The change of a text. Form encoding fails at a lone surrogate; nothing else fails. -/
def apply (m : Modifier) (t : Text) : Except Fault Text :=
  match m with
  | .quoteWildcard => .ok (quoteGlob t)
  | .lower => .ok t.lower
  | .upper => .ok t.upper
  | .lowerFirst => .ok t.lowerFirst
  | .upperFirst => .ok t.upperFirst
  | .encodeUrl => (t.formEncode?).elim (.error .unencodable) .ok
  | .length => .ok (Text.ofNat t.length)

end Modifier

/-- Which modifiers are enabled. -/
structure ModifierSet where
  has : Modifier → Bool

namespace ModifierSet

/-- No modifier is enabled. -/
def empty : ModifierSet := ⟨fun _ => false⟩

/-- Enables one more modifier. -/
def enable (s : ModifierSet) (m : Modifier) : ModifierSet :=
  ⟨fun n => n = m || s.has n⟩

/-- The set of the modifiers in a list. -/
def ofList (ms : List Modifier) : ModifierSet :=
  ms.foldl enable empty

/-- The modifier that a token names. -/
def ofToken (token : Text) : Except SetError Modifier :=
  (Modifier.ofToken? token).elim (.error (.unknownModifier token)) .ok

/-- The set of the modifiers that tokens name; the first unknown token is refused. -/
def ofTokens (tokens : List Text) : Except SetError ModifierSet :=
  ofList <$> tokens.mapM ofToken

/-- The enabled modifiers in canonical order. -/
def enabled (s : ModifierSet) : List Modifier :=
  Modifier.all.filter s.has

/-- Whether any modifier is enabled. -/
def any (s : ModifierSet) : Bool :=
  Modifier.all.any s.has

/-- Runs the enabled modifiers over a text, in canonical order. -/
def apply (s : ModifierSet) (t : Text) : Except Fault Text :=
  s.enabled.foldlM (fun t m => m.apply t) t

/-- The set as text. -/
def shown (s : ModifierSet) : Text :=
  "ModifierSet(" ++ Text.join ", " (s.enabled.map Modifier.keyword) ++ ")"

/-- Sets are the same if they enable the same modifiers. -/
theorem ext {s t : ModifierSet} (h : ∀ m, s.has m = t.has m) : s = t := by
  cases s; cases t; exact congrArg _ (funext h)

/-- Sets are the same if their lists of enabled modifiers are. -/
theorem eq_of_enabled_eq {s t : ModifierSet} (h : s.enabled = t.enabled) : s = t := by
  refine ext fun m => ?_
  have mem (u : ModifierSet) : u.has m = true ↔ m ∈ u.enabled := by
    simp [enabled, Modifier.mem_all]
  rw [Bool.eq_iff_iff, mem, mem, h]

instance : DecidableEq ModifierSet := fun s t =>
  decidable_of_iff (s.enabled = t.enabled) ⟨eq_of_enabled_eq, fun h => h ▸ rfl⟩

theorem has_foldl_enable (ms : List Modifier) (s : ModifierSet) (m : Modifier) :
    (ms.foldl enable s).has m = (decide (m ∈ ms) || s.has m) := by
  induction ms generalizing s with
  | nil => simp
  | cons n rest ih =>
    rw [List.foldl_cons, ih]
    by_cases hn : m = n <;> by_cases hr : m ∈ rest <;> simp [enable, hn, hr]

/-- A set holds exactly the modifiers of the list that it was made from. -/
theorem has_ofList (ms : List Modifier) (m : Modifier) : (ofList ms).has m = decide (m ∈ ms) := by
  simp [ofList, has_foldl_enable, empty]

end ModifierSet

end MailFilter
