import Mathlib
import MailFilter.Proofs.Text.Utf8
import MailFilter.Variable.Modifier

/-!
# Reading a form encoding back

The form encoding is defined on code points, and read back octet by octet. The two meet in the
octets of the text: a code point that is kept, or written as `+`, is an ASCII one and its own octet,
and every octet of any other code point is written as `%` and two digits.

- `Text.IsFormEncoded`: the texts that a form encoding may be.
- `Text.formOctets?`, `Text.formDecode?`: `+` as a blank, `%` and two digits as an octet, and the
  octets as UTF-8.
- `Text.formEncode?_eq_map`: the encoding of a text, octet by octet.
- `Text.formEncode?_eq_quotePlus?`: the same by quoting in two rounds.
- `Modifier.apply_encodeUrl`: the modifier loses nothing.
-/

namespace MailFilter

namespace CodePoint

/-- An octet taken as the code point of its number. -/
def ofOctet (b : UInt8) : CodePoint :=
  .char (Char.ofNat b.toNat)

@[simp] theorem toNat_ofOctet (b : UInt8) : (ofOctet b).toNat = b.toNat := by
  have hb : b.toNat < 0x100 := b.toNat_lt
  have hvalid : b.toNat.isValidChar := .inl (by omega)
  show (Char.ofNat b.toNat).toNat = b.toNat
  rw [Char.toNat_ofNat, if_pos hvalid]

/-- What a form encoding leaves alone is in ASCII. -/
theorem isAscii_of_isFormSafe {c : CodePoint} (h : c.isFormSafe = true) : c.isAscii = true := by
  simp only [isFormSafe, Bool.or_eq_true, decide_eq_true_eq] at h
  rcases h with (((halphanum | rfl) | rfl) | rfl) | rfl
  · exact isAscii_of_isAlphanum halphanum
  all_goals rfl

/-- A hexadecimal digit is read back. -/
theorem hexValue?_hexDigit {n : Nat} (h : n < 16) : (hexDigit n).hexValue? = some n := by
  interval_cases n <;> rfl

/-- Hexadecimal digits are written in capitals. -/
theorem hexDigit_mem {n : Nat} (h : n < 16) : hexDigit n ∈ ("0123456789ABCDEF" : Text) := by
  interval_cases n <;> decide

/-- The form encoding of an octet. -/
def formOctet (b : UInt8) : Text :=
  if (ofOctet b).isFormSafe then [ofOctet b]
  else if ofOctet b = .char ' ' then [.char '+']
  else percent b

/-- An octet beyond ASCII is always quoted. -/
theorem formOctet_of_not_isAscii {b : UInt8} (h : (ofOctet b).isAscii = false) :
    formOctet b = percent b := by
  have hsafe : ¬(ofOctet b).isFormSafe = true := by
    intro hsafe
    exact absurd (isAscii_of_isFormSafe hsafe) (by simp [h])
  have hblank : ofOctet b ≠ .char ' ' := by
    intro hblank
    rw [hblank] at h
    contradiction
  rw [formOctet, if_neg hsafe, if_neg hblank]

/-- A code point beyond ASCII is written without any ASCII octet. -/
theorem le_of_mem_encodeChar {c : Char} (hc : 0x80 ≤ c.toNat) {b : UInt8}
    (hb : b ∈ Utf8.encodeChar c) : 0x80 ≤ b.toNat := by
  have hvalid : c.toNat < 0xD800 ∨ 0xDFFF < c.toNat ∧ c.toNat < 0x110000 := c.valid
  have htail (k : Nat) : (UInt8.ofNat (0x80 + k % 0x40)).toNat = 0x80 + k % 0x40 :=
    Utf8.toNat_ofNat_of_lt (by omega)
  unfold Utf8.encodeChar at hb
  dsimp only at hb
  rw [if_neg (Nat.not_lt.mpr hc)] at hb
  -- two, three or four octets: a lead, and others in the range of continuations
  split at hb
  · next htwo =>
    have hlead := Utf8.toNat_ofNat_of_lt (n := 0xC0 + c.toNat / 0x40) (by omega)
    simp only [List.mem_cons, List.not_mem_nil, or_false] at hb
    rcases hb with rfl | rfl
    · omega
    · rw [htail]
      omega
  · split at hb
    · next hthree =>
      have hlead := Utf8.toNat_ofNat_of_lt (n := 0xE0 + c.toNat / 0x1000) (by omega)
      simp only [List.mem_cons, List.not_mem_nil, or_false] at hb
      rcases hb with rfl | rfl | rfl
      · omega
      all_goals
        rw [htail]
        omega
    · have hlead := Utf8.toNat_ofNat_of_lt (n := 0xF0 + c.toNat / 0x40000) (by omega)
      simp only [List.mem_cons, List.not_mem_nil, or_false] at hb
      rcases hb with rfl | rfl | rfl | rfl
      · omega
      all_goals
        rw [htail]
        omega

/-- The form encoding of a code point is that of its octets. -/
theorem formEncode?_eq_map (c : CodePoint) :
    c.formEncode? = (Utf8.encodePoint? c).map (·.flatMap formOctet) := by
  cases c with
  | surrogate i => simp [formEncode?, isFormSafe, isAlphanum, Utf8.encodePoint?]
  | char a =>
    show _ = some ((Utf8.encodeChar a).flatMap formOctet)
    -- in ASCII the code point is its only octet; beyond it every octet is quoted
    by_cases hascii : a.toNat < 0x80
    · have hoctets : Utf8.encodeChar a = [.ofNat a.toNat] := by
        unfold Utf8.encodeChar
        exact if_pos hascii
      have hpoint : ofOctet (.ofNat a.toNat) = .char a := by
        rw [ofOctet, Utf8.toNat_ofNat_of_lt (by omega), Char.ofNat_toNat]
      rw [formEncode?, Utf8.encodePoint?, hoctets, List.flatMap_singleton, formOctet, hpoint]
      simp only [Option.map_some, List.flatMap_singleton]
      split
      · rfl
      · split <;> rfl
    · have hbeyond : 0x80 ≤ a.toNat := Nat.not_lt.mp hascii
      have hsafe : ¬(CodePoint.char a).isFormSafe = true := by
        intro hsafe
        exact hascii (of_decide_eq_true (isAscii_of_isFormSafe hsafe))
      have hblank : CodePoint.char a ≠ .char ' ' := by
        intro hblank
        obtain rfl := CodePoint.char.inj hblank
        exact hascii (by decide)
      rw [formEncode?, if_neg hsafe, if_neg hblank]
      refine congrArg some (List.flatMap_congr fun b hb => (formOctet_of_not_isAscii ?_).symm)
      rw [isAscii, toNat_ofOctet, decide_eq_false_iff_not, Nat.not_lt]
      exact le_of_mem_encodeChar hbeyond hb

end CodePoint

namespace Text

open CodePoint (ofOctet formOctet percent)

/-! ## The encoding by octets -/

/-- The form encoding of a text is that of its octets. -/
theorem formEncode?_eq_map (t : Text) :
    formEncode? t = (Utf8.encode? t).map (·.flatMap formOctet) := by
  induction t with
  | nil => rfl
  | cons c t ih =>
    rw [formEncode?, ih, CodePoint.formEncode?_eq_map, Utf8.encode?, Utf8.encode?, List.mapM_cons]
    cases Utf8.encodePoint? c with
    | none => rfl
    | some first =>
      cases t.mapM Utf8.encodePoint? with
      | none => rfl
      | some others => simp

/-- Quotes the octets of a text, but for letters, digits, `_.-~` and what is called safe. A blank
becomes `+`. -/
def quotePlus? (safe t : Text) : Option Text :=
  (Utf8.encode? t).map (·.flatMap fun b =>
    if (ofOctet b).isAlphanum || ofOctet b ∈ ("_.-~" ++ safe : Text) then [ofOctet b]
    else if ofOctet b = .char ' ' then [.char '+']
    else percent b)

/-- Quotes every tilde. -/
def quoteTilde (t : Text) : Text :=
  t.flatMap fun c => if c = .char '~' then "%7E" else [c]

/-- The form encoding in two rounds. The second one finds no tilde but those of the text, because
nothing that the first one writes holds a tilde. -/
theorem formEncode?_eq_quotePlus? (t : Text) :
    formEncode? t = (quotePlus? "*" t).map quoteTilde := by
  have hoctet : ∀ n < 0x100, formOctet (.ofNat n) =
      quoteTilde (if (ofOctet (.ofNat n)).isAlphanum || ofOctet (.ofNat n) ∈ ("_.-~" ++ "*" : Text)
        then [ofOctet (.ofNat n)]
        else if ofOctet (.ofNat n) = .char ' ' then [.char '+'] else percent (.ofNat n)) := by
    decide +kernel
  rw [formEncode?_eq_map, quotePlus?, Option.map_map]
  refine congrArg (Option.map · _) (funext fun octets => ?_)
  show octets.flatMap formOctet = quoteTilde (octets.flatMap _)
  rw [quoteTilde, List.flatMap_assoc]
  refine List.flatMap_congr fun b _ => ?_
  have hb := hoctet b.toNat b.toNat_lt
  rwa [UInt8.ofNat_toNat] at hb

/-! ## Reading back -/

/-- ASCII letters, digits, `* - _ . +`, and `%` followed by two capital hexadecimal digits. -/
inductive IsFormEncoded : Text → Prop
  | nil : IsFormEncoded []
  | plain {c : CodePoint} {rest : Text} (hc : c.isAlphanum = true ∨ c ∈ ("*-_.+" : Text))
      (hrest : IsFormEncoded rest) : IsFormEncoded (c :: rest)
  | percent {high low : CodePoint} {rest : Text} (hhigh : high ∈ ("0123456789ABCDEF" : Text))
      (hlow : low ∈ ("0123456789ABCDEF" : Text)) (hrest : IsFormEncoded rest) :
      IsFormEncoded (.char '%' :: high :: low :: rest)

/-- The octets of a form encoding: `+` is a blank, `%` and two hexadecimal digits are the octet of
that number, and any other ASCII code point is its own octet. -/
def formOctets? : Text → Option Octets
  | [] => some []
  | c :: rest =>
    if c = .char '+' then (formOctets? rest).map (0x20 :: ·)
    else if c = .char '%' then
      match rest with
      | high :: low :: others => do
        let a ← high.hexValue?
        let b ← low.hexValue?
        (formOctets? others).map (.ofNat (a * 0x10 + b) :: ·)
      | _ => none
    else if c.isAscii then (formOctets? rest).map (.ofNat c.toNat :: ·)
    else none

/-- The text of a form encoding. -/
def formDecode? (t : Text) : Option Text := do
  let octets ← formOctets? t
  Utf8.decode? octets

/-- The encoding of an octet is read back, whatever follows. -/
theorem formOctets?_formOctet_append (b : UInt8) (rest : Text) :
    formOctets? (formOctet b ++ rest) = (formOctets? rest).map (b :: ·) := by
  have hb : b.toNat < 0x100 := b.toNat_lt
  unfold formOctet
  -- an octet that stands for itself, a blank, or a quoted octet
  split
  · next hsafe =>
    have hplus : ofOctet b ≠ .char '+' := by
      intro hplus
      rw [hplus] at hsafe
      exact absurd hsafe (by decide)
    have hpercent : ofOctet b ≠ .char '%' := by
      intro hpercent
      rw [hpercent] at hsafe
      exact absurd hsafe (by decide)
    have hascii := CodePoint.isAscii_of_isFormSafe hsafe
    rw [List.singleton_append, formOctets?.eq_def]
    dsimp only
    rw [if_neg hplus, if_neg hpercent, if_pos hascii, CodePoint.toNat_ofOctet, UInt8.ofNat_toNat]
  · split
    · next hblank =>
      have hnumber : b.toNat = 0x20 := by
        rw [← CodePoint.toNat_ofOctet, hblank]
        rfl
      obtain rfl : b = 0x20 := UInt8.toNat_inj.mp hnumber
      rw [List.singleton_append, formOctets?.eq_def]
      rfl
    · have hdigits : b.toNat / 0x10 * 0x10 + b.toNat % 0x10 = b.toNat := Nat.div_add_mod' _ _
      show formOctets? (.char '%' :: CodePoint.hexDigit (b.toNat / 0x10) ::
        CodePoint.hexDigit (b.toNat % 0x10) :: rest) = _
      rw [formOctets?, if_neg (by decide), if_pos rfl, CodePoint.hexValue?_hexDigit (by omega),
        CodePoint.hexValue?_hexDigit (by omega)]
      show (formOctets? rest).map (.ofNat (b.toNat / 0x10 * 0x10 + b.toNat % 0x10) :: ·) = _
      rw [hdigits, UInt8.ofNat_toNat]

/-- So are the encodings of several octets. -/
theorem formOctets?_flatMap (octets : Octets) :
    formOctets? (octets.flatMap formOctet) = some octets := by
  induction octets with
  | nil => rfl
  | cons b octets ih =>
    rw [List.flatMap_cons, formOctets?_formOctet_append, ih]
    rfl

/-- The encoding of an octet is well formed, whatever follows. -/
theorem IsFormEncoded.formOctet_append (b : UInt8) {rest : Text} (h : IsFormEncoded rest) :
    IsFormEncoded (formOctet b ++ rest) := by
  have hb : b.toNat < 0x100 := b.toNat_lt
  unfold formOctet
  split
  · next hsafe =>
    refine .plain ?_ h
    simp only [CodePoint.isFormSafe, Bool.or_eq_true, decide_eq_true_eq] at hsafe
    rcases hsafe with (((halphanum | hc) | hc) | hc) | hc
    · exact .inl halphanum
    all_goals
      rw [hc]
      exact .inr (by decide)
  · split
    · exact .plain (.inr (by decide)) h
    · exact .percent (CodePoint.hexDigit_mem (by omega)) (CodePoint.hexDigit_mem (by omega)) h

/-- So are the encodings of several octets, by induction on the octets. -/
theorem isFormEncoded_flatMap (octets : Octets) : IsFormEncoded (octets.flatMap formOctet) := by
  induction octets with
  | nil => exact .nil
  | cons b octets ih => exact ih.formOctet_append b

/-- The form encoding of a text that has one is well formed and is read back. -/
theorem formDecode?_of_formEncode? {t encoded : Text} (h : formEncode? t = some encoded) :
    IsFormEncoded encoded ∧ formDecode? encoded = some t := by
  rw [formEncode?_eq_map] at h
  obtain ⟨octets, hoctets, rfl⟩ := Option.map_eq_some_iff.mp h
  refine ⟨isFormEncoded_flatMap octets, ?_⟩
  rw [formDecode?, formOctets?_flatMap]
  exact Utf8.decode?_of_encode? hoctets

/-- A text without surrogates has a form encoding. -/
theorem exists_formEncode? {t : Text} (h : ∀ i, CodePoint.surrogate i ∉ t) :
    ∃ encoded, formEncode? t = some encoded := by
  obtain ⟨octets, hoctets⟩ := Utf8.exists_encode?_iff.mpr h
  exact ⟨octets.flatMap formOctet, by rw [formEncode?_eq_map, hoctets, Option.map_some]⟩

end Text

/-! ## The modifier -/

namespace Modifier

open Text (formEncode?)

/-- The modifier answers with the form encoding. -/
theorem apply_encodeUrl_eq_ok_iff {t encoded : Text} :
    encodeUrl.apply t = .ok encoded ↔ formEncode? t = some encoded := by
  rw [apply]
  cases formEncode? t with
  | none => simp
  | some other => simp

/-- The form encoding of a value without lone surrogates is what quoting in two rounds makes of it.
It is made of the few code points that a form may hold, the value can be read back from it, no other
value has the same one, and it goes on with the encoding of whatever the value goes on with. -/
theorem apply_encodeUrl {v : Text} (h : ∀ i, CodePoint.surrogate i ∉ v) :
    ∃ encoded, encodeUrl.apply v = .ok encoded ∧
      (Text.quotePlus? "*" v).map Text.quoteTilde = some encoded ∧
      encoded.IsFormEncoded ∧ encoded.formDecode? = some v ∧
      (∀ other, encodeUrl.apply other = .ok encoded → other = v) ∧
      ∀ rest : Text, (∀ i, CodePoint.surrogate i ∉ rest) →
        ∃ following, encodeUrl.apply rest = .ok following ∧
          encodeUrl.apply (v ++ rest) = .ok (encoded ++ following) := by
  obtain ⟨encoded, hencoded⟩ := Text.exists_formEncode? h
  obtain ⟨hform, hdecoded⟩ := Text.formDecode?_of_formEncode? hencoded
  refine ⟨encoded, apply_encodeUrl_eq_ok_iff.mpr hencoded, ?_, hform, hdecoded, ?_, ?_⟩
  · rw [← Text.formEncode?_eq_quotePlus?, hencoded]
  · intro other hother
    have hother := (Text.formDecode?_of_formEncode? (apply_encodeUrl_eq_ok_iff.mp hother)).2
    exact Option.some.inj (hother.symm.trans hdecoded)
  · intro rest hrest
    obtain ⟨following, hfollowing⟩ := Text.exists_formEncode? hrest
    refine ⟨following, apply_encodeUrl_eq_ok_iff.mpr hfollowing, ?_⟩
    rw [apply_encodeUrl_eq_ok_iff, Text.formEncode?_append, hencoded, hfollowing]
    rfl

/-- Code points of one to four octets, and all that has a meaning of its own in the encoding. -/
theorem apply_encodeUrl_marks :
    let v : Text := "~% +é€😀"
    (∀ i, CodePoint.surrogate i ∉ v) ∧
      encodeUrl.apply v = .ok "%7E%25+%2B%C3%A9%E2%82%AC%F0%9F%98%80" ∧
      Text.formDecode? "%7E%25+%2B%C3%A9%E2%82%AC%F0%9F%98%80" = some v := by
  intro v
  have h : ∀ i, CodePoint.surrogate i ∉ v := by
    intro i hi
    simp [v, Text.ofString] at hi
  obtain ⟨encoded, hencoded, -, -, hdecoded, -⟩ := apply_encodeUrl h
  have hanswer : encodeUrl.apply v = .ok "%7E%25+%2B%C3%A9%E2%82%AC%F0%9F%98%80" := by
    decide +kernel
  obtain rfl := Except.ok.inj (hanswer.symm.trans hencoded)
  exact ⟨h, hanswer, hdecoded⟩

end Modifier

end MailFilter
