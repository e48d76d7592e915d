import Mathlib
import MailFilter.Json.Reader
import MailFilter.Proofs.Text.Parts

/-!
# Reading texts and numbers back

Inside quotes a code point stands for itself, behind a backslash, or as an escaped unit. An escaped
unit is read together with the one behind it where the two are halves of a pair. The units that are
written are those of control characters, which are no halves, so each is read on its own. Lone
surrogates stand for themselves and are never joined.

- `Json.IsSpelled`: how a code point may stand inside quotes.
- `Json.isSpelled_escape`: how it is written there.
- `Json.readText?_escaped`: a text is read back.
- `Json.readNumber?_ofInt`: so is a whole number, with what may follow a tree behind it.
-/

namespace MailFilter

namespace Text

/-! ## Digits -/

/-- A number is written in decimal digits. -/
theorem isDigit_of_mem_ofNat {n : Nat} {c : CodePoint} (h : c ∈ ofNat n) : c.isDigit = true := by
  obtain ⟨digit, hmem, rfl⟩ := List.mem_map.mp h
  exact Nat.isDigit_of_mem_toDigits (by decide) (by decide) hmem

/-- A number has a digit at least. -/
theorem ofNat_ne_nil (n : Nat) : ofNat n ≠ [] := by
  rw [ofNat, ne_eq, List.map_eq_nil_iff]
  exact Nat.toDigits_ne_nil

/-- A number is read back from its digits. -/
theorem digitsValue_ofNat (n : Nat) : (ofNat n).digitsValue = n := by
  have hfold : (ofNat n).digitsValue = Nat.ofDigitChars 10 (Nat.toDigits 10 n) 0 := by
    rw [digitsValue, ofNat, List.foldl_map, Nat.ofDigitChars_eq_foldl]
    refine List.foldl_ext _ _ _ fun value c hc => ?_
    have hdigit : c.isDigit = true := Nat.isDigit_of_mem_toDigits (by decide) (by decide) hc
    simp only [CodePoint.digitValue, hdigit, if_true]
  rw [hfold, Nat.ofDigitChars_ten_toDigits]

/-! ## Control characters -/

/-- Holds no code point in front of the blank. -/
def HasNoControl (t : Text) : Prop :=
  ∀ c ∈ t, 0x20 ≤ c.toNat

instance (t : Text) : Decidable t.HasNoControl :=
  inferInstanceAs (Decidable (∀ c ∈ t, 0x20 ≤ c.toNat))

namespace HasNoControl

variable {s t : Text}

theorem nil : HasNoControl [] :=
  List.forall_mem_nil _

theorem cons {c : CodePoint} (hc : 0x20 ≤ c.toNat) (ht : HasNoControl t) : HasNoControl (c :: t) :=
  List.forall_mem_cons.mpr ⟨hc, ht⟩

theorem append (hs : HasNoControl s) (ht : HasNoControl t) : HasNoControl (s ++ t) :=
  List.forall_mem_append.mpr ⟨hs, ht⟩

theorem ofNat (n : Nat) : HasNoControl (Text.ofNat n) := by
  intro c hc
  have hdigit := isDigit_of_mem_ofNat hc
  cases c with
  | surrogate i => cases hdigit
  | char a =>
    simp only [CodePoint.isDigit, Char.isDigit, Bool.and_eq_true, decide_eq_true_eq, ge_iff_le,
      UInt32.le_iff_toNat_le, Char.reduceVal, UInt32.reduceToNat] at hdigit
    show 0x20 ≤ a.val.toNat
    omega

theorem ofInt (n : Int) : HasNoControl (Text.ofInt n) := by
  cases n with
  | ofNat n => exact ofNat n
  | negSucc n => exact cons (by decide) (ofNat (n + 1))

end HasNoControl

end Text

namespace Json

/-! ## Numbers -/

/-- What may follow a tree: nothing, a comma or a closing bracket. -/
def Ends (t : Text) : Prop :=
  ∀ c ∈ t.head?, c = .char ',' ∨ c = .char ']' ∨ c = .char '\x7d'

variable {digits rest : Text}

/-- What may follow a tree goes on with no digit. -/
theorem Ends.isDigit_eq_false (h : Ends rest) : ∀ c ∈ rest.head?, c.isDigit = false := by
  intro c hc
  rcases h c hc with rfl | rfl | rfl <;> rfl

/-- Digits with or without a minus sign are read as a whole number, up to their end. -/
theorem readNumber?_digits (negative : Bool) (hdigits : ∀ c ∈ digits, c.isDigit = true)
    (hne : digits ≠ []) (hrest : Ends rest) :
    readNumber? ((if negative then [.char '-'] else []) ++ (digits ++ rest)) =
      some (.int (if negative then -digits.digitsValue else digits.digitsValue), rest) := by
  obtain ⟨htake, hdrop⟩ :=
    Text.takeWhile_dropWhile_append CodePoint.isDigit rest hdigits hrest.isDigit_eq_false
  have hsome : ¬digits.isEmpty = true := by rwa [List.isEmpty_iff]
  unfold readNumber?
  split
  next sign t hsign =>
  -- the first code point is a minus sign or a digit, so it says what the sign is
  have hsplit : (sign, t) = (negative, digits ++ rest) := by
    rw [← hsign]
    cases negative with
    | true => rfl
    | false =>
      obtain ⟨d, ds, rfl⟩ := List.exists_cons_of_ne_nil hne
      have hd := hdigits d List.mem_cons_self
      split
      · next heq =>
        obtain ⟨rfl, -⟩ := List.cons.inj heq
        exact absurd hd (by decide)
      · rfl
  obtain ⟨rfl, rfl⟩ := Prod.mk.inj hsplit
  dsimp only
  rw [htake, hdrop, if_neg hsome]
  cases rest with
  | nil => rfl
  | cons c rest => rcases hrest c rfl with rfl | rfl | rfl <;> rfl

/-- A whole number is read back up to where its digits end. -/
theorem readNumber?_ofInt (n : Int) (hrest : Ends rest) :
    readNumber? (Text.ofInt n ++ rest) = some (.int n, rest) := by
  cases n with
  | ofNat n =>
    have h := readNumber?_digits false (fun c => Text.isDigit_of_mem_ofNat (n := n))
      (Text.ofNat_ne_nil n) hrest
    rwa [Text.digitsValue_ofNat] at h
  | negSucc n =>
    have h := readNumber?_digits true (fun c => Text.isDigit_of_mem_ofNat (n := n + 1))
      (Text.ofNat_ne_nil (n + 1)) hrest
    rwa [Text.digitsValue_ofNat] at h

/-! ## Texts -/

/-- The ways in which a code point may stand inside quotes. -/
inductive IsSpelled (c : CodePoint) : Text → Prop
  | letter {e : CodePoint} (hletter : e ≠ .char 'u') (h : simpleEscape? e = some c) :
      IsSpelled c [.char '\\', e]
  | unit (h : c.toNat < 0x20) :
      IsSpelled c (.char '\\' :: .char 'u' :: Text.hex 4 c.toNat)
  | plain (hplain : 0x20 ≤ c.toNat) (hquote : c ≠ .char '"') (hbackslash : c ≠ .char '\\') :
      IsSpelled c [c]

/-- A code point is written in one of these ways: seven have a letter, other control characters a
unit, and the rest stand for themselves. -/
theorem isSpelled_escape (c : CodePoint) : IsSpelled c (escape .unicode c) := by
  unfold escape
  split
  iterate 7 exact .letter (by decide) rfl
  next hquote hbackslash _ _ _ _ _ =>
  split
  · next hcontrol =>
    have hlow : c.toNat < 0x20 := by simpa using hcontrol
    have hpoint : pointEscape c.toNat = .char '\\' :: .char 'u' :: Text.hex 4 c.toNat := by
      rw [pointEscape, if_pos (by omega)]
      rfl
    rw [hpoint]
    exact .unit hlow
  · next hplain =>
    have hhigh : 0x20 ≤ c.toNat := by simpa using hplain
    exact .plain hhigh hquote hbackslash

/-- The unit of a control character is read back. -/
theorem readUnit?_hex {n : Nat} (h : n < 0x20) (rest : Text) :
    readUnit? (Text.hex 4 n ++ rest) = some (n, rest) := by
  interval_cases n <;> rfl

/-- Its digits are no control characters. -/
theorem hasNoControl_hex {n : Nat} (h : n < 0x20) : (Text.hex 4 n).HasNoControl := by
  interval_cases n <;> decide

/-- A letter behind a backslash is no control character. -/
theorem le_of_simpleEscape? {e c : CodePoint} (h : simpleEscape? e = some c) :
    0x20 ≤ e.toNat := by
  unfold simpleEscape? at h
  split at h
  iterate 8 decide
  cases h

theorem IsSpelled.length_pos {c : CodePoint} {w : Text} (h : IsSpelled c w) : 0 < w.length := by
  cases h <;> exact Nat.succ_pos _

/-- However a code point stands inside quotes, it stands there without a control character. -/
theorem IsSpelled.hasNoControl {c : CodePoint} {w : Text} (h : IsSpelled c w) : w.HasNoControl := by
  cases h with
  | letter hletter hsimple =>
    exact .cons (by decide) (.cons (le_of_simpleEscape? hsimple) .nil)
  | unit hlow => exact .cons (by decide) (.cons (by decide) (hasNoControl_hex hlow))
  | plain hplain => exact .cons hplain .nil

/-- An escaped unit at the beginning is that of a control character. -/
def BeginsSafely (t : Text) : Prop :=
  ∀ more, t = .char '\\' :: .char 'u' :: more → ∃ n rest, readUnit? more = some (n, rest)

/-- A spelling begins safely, whatever follows: its unit, if it has one, is complete. -/
theorem IsSpelled.beginsSafely {c : CodePoint} {w : Text} (h : IsSpelled c w) (rest : Text) :
    BeginsSafely (w ++ rest) := by
  rintro more hmore
  cases h with
  | letter hletter =>
    obtain ⟨-, htail⟩ := List.cons.inj hmore
    exact absurd (List.cons.inj htail).1 hletter
  | unit hlow =>
    obtain ⟨-, htail⟩ := List.cons.inj hmore
    obtain ⟨-, rfl⟩ := List.cons.inj htail
    exact ⟨_, _, readUnit?_hex hlow rest⟩
  | plain hplain hquote hbackslash => exact absurd (List.cons.inj hmore).1 hbackslash

/-- The unit of a control character is read on its own, also in front of another unit. -/
theorem readEscapedPoint?_hex {c : CodePoint} (h : c.toNat < 0x20) {rest : Text}
    (hrest : BeginsSafely rest) :
    readEscapedPoint? (Text.hex 4 c.toNat ++ rest) = some (c, rest) := by
  have hpoint : CodePoint.ofNat c.toNat = c := by rw [CodePoint.ofNat, c.ofNat?_toNat]; rfl
  have halone (low : Nat) : joinHalves? c.toNat low = none := by
    rw [joinHalves?, if_neg]
    simp only [Bool.and_eq_true, decide_eq_true_eq]
    omega
  unfold readEscapedPoint?
  rw [readUnit?_hex h]
  simp only [Option.bind_eq_bind, Option.bind_some, hpoint]
  split
  · next more =>
    -- the unit behind it is read as well, but is not its other half
    obtain ⟨low, after, hunit⟩ := hrest more rfl
    rw [hunit]
    dsimp only
    rw [halone]
    rfl
  · rfl

/-- A spelling is read as its code point. -/
theorem readText?_spelled {c : CodePoint} {w : Text} (h : IsSpelled c w) {rest : Text}
    (hrest : BeginsSafely rest) (fuel : Nat) :
    readText? (fuel + 1) (w ++ rest) =
      (readText? fuel rest).map fun (t, after) => (c :: t, after) := by
  rw [Option.map_eq_bind]
  cases h with
  | @letter e hletter hsimple =>
    show readText? (fuel + 1) (.char '\\' :: e :: rest) = _
    rw [readText?, hsimple]
    · rfl
    · exact hletter
  | unit hlow =>
    show readText? (fuel + 1) (.char '\\' :: .char 'u' :: (Text.hex 4 c.toNat ++ rest)) = _
    rw [readText?, readEscapedPoint?_hex hlow hrest]
    rfl
  | plain hplain hquote hbackslash =>
    show readText? (fuel + 1) (c :: rest) = _
    rw [readText?, if_neg (Nat.not_lt.mpr hplain)]
    · rfl
    · exact hquote
    · exact fun _ h _ => hbackslash h
    · exact fun _ _ h _ => hbackslash h

/-- What is behind a code point begins safely: another spelling, or the closing quote. -/
theorem beginsSafely_escaped (t rest : Text) :
    BeginsSafely (t.flatMap (escape .unicode) ++ .char '"' :: rest) := by
  cases t with
  | nil =>
    intro more hmore
    exact absurd (List.cons.inj hmore).1 (by decide)
  | cons c t =>
    rw [List.flatMap_cons, List.append_assoc]
    exact (isSpelled_escape c).beginsSafely _

/-- A text is read back up to its closing quote. -/
theorem readText?_escaped (t rest : Text) {fuel : Nat} (h : t.length < fuel) :
    readText? fuel (t.flatMap (escape .unicode) ++ .char '"' :: rest) = some (t, rest) := by
  -- one round for each code point, and one for the quote
  induction t generalizing fuel with
  | nil =>
    obtain ⟨fuel, rfl⟩ := Nat.exists_eq_succ_of_ne_zero (Nat.ne_of_gt h)
    rfl
  | cons c t ih =>
    obtain ⟨fuel, rfl⟩ := Nat.exists_eq_succ_of_ne_zero (Nat.ne_of_gt (Nat.zero_lt_of_lt h))
    rw [List.flatMap_cons, List.append_assoc,
      readText?_spelled (isSpelled_escape c) (beginsSafely_escaped t rest),
      ih (Nat.lt_of_succ_lt_succ h)]
    rfl

/-- No spelling is empty, so a text is not longer than its spellings. -/
theorem length_le_escaped (t : Text) : t.length ≤ (t.flatMap (escape .unicode)).length := by
  induction t with
  | nil => exact Nat.le_refl 0
  | cons c t ih =>
    have hpositive := (isSpelled_escape c).length_pos
    rw [List.flatMap_cons, List.length_append, List.length_cons]
    omega

/-- A text in quotes holds no control character, whatever the text holds. -/
theorem hasNoControl_writeText (t : Text) : (writeText .unicode t).HasNoControl := by
  have hquote : ("\"" : Text).HasNoControl := by decide
  refine .append (hquote.append fun d hd => ?_) hquote
  obtain ⟨c, -, hd⟩ := List.mem_flatMap.mp hd
  exact (isSpelled_escape c).hasNoControl d hd

end Json

end MailFilter
