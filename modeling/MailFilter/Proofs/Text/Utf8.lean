import Mathlib
import MailFilter.Text.Utf8

/-!
# Reading UTF-8 back

A code point beyond ASCII is written as a leading octet, which tells how many octets follow and in
which range the first of them lies, and as following octets with six bits each. The ranges shut out
everything that has a shorter form, lone surrogates, and numbers that are too large; they never shut
out what was written.

- `Utf8.lead_two`, `Utf8.lead_three`, `Utf8.lead_four`: what a leading octet announces.
- `Utf8.piecesAfter_following`: how a following octet is taken in.
- `Utf8.pieces_encodeChar_append`: a code point is read back whatever stands behind it.
- `Utf8.decode?_of_encode?`: a text is read back from its octets.
- `Utf8.exists_encode?_iff`: a text has octets if and only if it holds no lone surrogate.
-/

namespace MailFilter

namespace Utf8

/-! ## Single octets -/

/-- A number below the size of an octet is the number of its octet. -/
theorem toNat_ofNat_of_lt {n : Nat} (h : n < 0x100) : (UInt8.ofNat n).toNat = n := by
  rw [UInt8.toNat_ofNat']
  omega

/-- An octet below `0x80` is a code point by itself. -/
theorem lead_one {n : Nat} (h : n < 0x80) : lead (.ofNat n) = .whole (Char.ofNat n) := by
  have hoctet : (UInt8.ofNat n).toNat = n := toNat_ofNat_of_lt (by omega)
  have hless : UInt8.ofNat n < 0x80 := by
    rw [UInt8.lt_iff_toNat_lt, hoctet]
    exact h
  unfold lead
  dsimp only
  rw [if_pos hless, hoctet]

/-- The leading octet of two announces one more, with any six bits. -/
theorem lead_two {k : Nat} (hlow : 2 ≤ k) (hhigh : k < 0x20) :
    lead (.ofNat (0xC0 + k)) = .begun ⟨[.ofNat (0xC0 + k)], k, 1, 0x80, 0xBF⟩ := by
  interval_cases k <;> rfl

/-- The leading octet of three announces two more, the first of which is in the range of no shorter
form and of no surrogate. -/
theorem lead_three {k : Nat} (h : k < 0x10) :
    lead (.ofNat (0xE0 + k)) = .begun ⟨[.ofNat (0xE0 + k)], k, 2,
      if k = 0 then 0xA0 else 0x80, if k = 0xD then 0x9F else 0xBF⟩ := by
  interval_cases k <;> rfl

/-- The leading octet of four announces three more, the first of which is in the range of no shorter
form and of no number too large. -/
theorem lead_four {k : Nat} (h : k ≤ 4) :
    lead (.ofNat (0xF0 + k)) = .begun ⟨[.ofNat (0xF0 + k)], k, 3,
      if k = 0 then 0x90 else 0x80, if k = 4 then 0x8F else 0xBF⟩ := by
  interval_cases k <;> rfl

/-- Behind a leading octet the octets it announces are waited for. -/
theorem piecesAfter_begun {b : UInt8} {p : Partial} (h : lead b = .begun p) (rest : Octets) :
    piecesAfter none (b :: rest) = piecesAfter (some p) rest := by
  rw [piecesAfter, h]

/-- Six more bits of a code point. The last of them complete it. -/
theorem piecesAfter_following {p : Partial} {k : Nat} (hk : k < 0x40)
    (hlow : p.low.toNat ≤ 0x80 + k) (hhigh : 0x80 + k ≤ p.high.toNat) (rest : Octets) :
    piecesAfter (some p) (.ofNat (0x80 + k) :: rest) =
      if p.owed ≤ 1 then .point (Char.ofNat (p.bits * 0x40 + k)) :: piecesAfter none rest
      else
        piecesAfter (some ⟨p.read ++ [.ofNat (0x80 + k)], p.bits * 0x40 + k, p.owed - 1, 0x80, 0xBF⟩)
          rest := by
  have hoctet : (UInt8.ofNat (0x80 + k)).toNat = 0x80 + k := toNat_ofNat_of_lt (by omega)
  have hrange : (decide (p.low ≤ UInt8.ofNat (0x80 + k)) &&
      decide (UInt8.ofNat (0x80 + k) ≤ p.high)) = true := by
    rw [Bool.and_eq_true, decide_eq_true_eq, decide_eq_true_eq, UInt8.le_iff_toNat_le,
      UInt8.le_iff_toNat_le, hoctet]
    exact ⟨hlow, hhigh⟩
  have hbits : (UInt8.ofNat (0x80 + k)).toNat - 0x80 = k := by omega
  rw [piecesAfter, if_pos hrange, hbits]

/-- Of an octet that follows another following one nothing more is asked. -/
theorem piecesAfter_following_free {read : Octets} {bits owed k : Nat} (hk : k < 0x40)
    (rest : Octets) :
    piecesAfter (some ⟨read, bits, owed, 0x80, 0xBF⟩) (.ofNat (0x80 + k) :: rest) =
      if owed ≤ 1 then .point (Char.ofNat (bits * 0x40 + k)) :: piecesAfter none rest
      else
        piecesAfter (some ⟨read ++ [.ofNat (0x80 + k)], bits * 0x40 + k, owed - 1, 0x80, 0xBF⟩)
          rest := by
  have hlow : (0x80 : UInt8).toNat ≤ 0x80 + k := Nat.le_add_right 0x80 k
  have hhigh : 0x80 + k ≤ (0xBF : UInt8).toNat := by
    show 0x80 + k ≤ 0xBF
    omega
  exact piecesAfter_following hk hlow hhigh rest

/-! ## Code points -/

/-- Two octets are read back. -/
theorem pieces_two {n : Nat} (hlow : 0x80 ≤ n) (hhigh : n < 0x800) (rest : Octets) :
    pieces (.ofNat (0xC0 + n / 0x40) :: .ofNat (0x80 + n % 0x40) :: rest) =
      .point (Char.ofNat n) :: pieces rest := by
  have hlead := lead_two (k := n / 0x40) (by omega) (by omega)
  have hbits : n / 0x40 * 0x40 + n % 0x40 = n := Nat.div_add_mod' n 0x40
  rw [pieces, piecesAfter_begun hlead, piecesAfter_following_free (by omega), if_pos (by omega), hbits]
  rfl

/-- Three octets are read back. -/
theorem pieces_three {n : Nat} (hlow : 0x800 ≤ n) (hhigh : n < 0x10000)
    (hvalid : n < 0xD800 ∨ 0xDFFF < n) (rest : Octets) :
    pieces (.ofNat (0xE0 + n / 0x1000) :: .ofNat (0x80 + n / 0x40 % 0x40) ::
        .ofNat (0x80 + n % 0x40) :: rest) =
      .point (Char.ofNat n) :: pieces rest := by
  have hlead := lead_three (k := n / 0x1000) (by omega)
  -- the lower bound shuts out shorter forms, the upper one surrogates
  have hleast : (if n / 0x1000 = 0 then 0xA0 else 0x80 : UInt8).toNat ≤ 0x80 + n / 0x40 % 0x40 := by
    split
    · show 0xA0 ≤ 0x80 + n / 0x40 % 0x40
      omega
    · exact Nat.le_add_right 0x80 _
  have hgreatest : 0x80 + n / 0x40 % 0x40 ≤
      (if n / 0x1000 = 0xD then 0x9F else 0xBF : UInt8).toNat := by
    split
    · show 0x80 + n / 0x40 % 0x40 ≤ 0x9F
      omega
    · show 0x80 + n / 0x40 % 0x40 ≤ 0xBF
      omega
  have hbits : (n / 0x1000 * 0x40 + n / 0x40 % 0x40) * 0x40 + n % 0x40 = n := by omega
  rw [pieces, piecesAfter_begun hlead, piecesAfter_following (by omega) hleast hgreatest,
    if_neg (by simp), piecesAfter_following_free (by omega), if_pos (by simp), hbits]
  rfl

/-- Four octets are read back. -/
theorem pieces_four {n : Nat} (hlow : 0x10000 ≤ n) (hhigh : n < 0x110000) (rest : Octets) :
    pieces (.ofNat (0xF0 + n / 0x40000) :: .ofNat (0x80 + n / 0x1000 % 0x40) ::
        .ofNat (0x80 + n / 0x40 % 0x40) :: .ofNat (0x80 + n % 0x40) :: rest) =
      .point (Char.ofNat n) :: pieces rest := by
  have hlead := lead_four (k := n / 0x40000) (by omega)
  -- the lower bound shuts out shorter forms, the upper one numbers that are too large
  have hleast : (if n / 0x40000 = 0 then 0x90 else 0x80 : UInt8).toNat ≤
      0x80 + n / 0x1000 % 0x40 := by
    split
    · show 0x90 ≤ 0x80 + n / 0x1000 % 0x40
      omega
    · exact Nat.le_add_right 0x80 _
  have hgreatest : 0x80 + n / 0x1000 % 0x40 ≤
      (if n / 0x40000 = 4 then 0x8F else 0xBF : UInt8).toNat := by
    split
    · show 0x80 + n / 0x1000 % 0x40 ≤ 0x8F
      omega
    · show 0x80 + n / 0x1000 % 0x40 ≤ 0xBF
      omega
  have hbits : ((n / 0x40000 * 0x40 + n / 0x1000 % 0x40) * 0x40 + n / 0x40 % 0x40) * 0x40 +
      n % 0x40 = n := by omega
  rw [pieces, piecesAfter_begun hlead, piecesAfter_following (by omega) hleast hgreatest,
    if_neg (by simp), piecesAfter_following_free (by omega), if_neg (by simp),
    piecesAfter_following_free (by omega), if_pos (by simp), hbits]
  rfl

/-- A code point is read back whatever stands behind it. -/
theorem pieces_encodeChar_append (c : Char) (rest : Octets) :
    pieces (encodeChar c ++ rest) = .point c :: pieces rest := by
  have hvalid : c.toNat < 0xD800 ∨ 0xDFFF < c.toNat ∧ c.toNat < 0x110000 := c.valid
  have hchar : Char.ofNat c.toNat = c := Char.ofNat_toNat c
  unfold encodeChar
  dsimp only
  rw [Nat.div_one]
  -- by the number of octets
  split
  · next hone =>
    show pieces (.ofNat c.toNat :: rest) = _
    rw [pieces, piecesAfter, lead_one hone, hchar]
    rfl
  · split
    · next hone htwo =>
      have hpieces := pieces_two (Nat.not_lt.mp hone) htwo rest
      rwa [hchar] at hpieces
    · split
      · next htwo hthree =>
        have hpieces := pieces_three (Nat.not_lt.mp htwo) hthree (by omega) rest
        rwa [hchar] at hpieces
      · next hthree =>
        have hpieces := pieces_four (Nat.not_lt.mp hthree) (by omega) rest
        rwa [hchar] at hpieces

/-! ## Texts -/

/-- A text has octets if its first code point and the others have them. -/
theorem encode?_cons_eq_some_iff {c : CodePoint} {t : Text} {o : Octets} :
    encode? (c :: t) = some o ↔
      ∃ first rest, encodePoint? c = some first ∧ encode? t = some rest ∧ o = first ++ rest := by
  unfold encode?
  rw [List.mapM_cons]
  cases encodePoint? c with
  | none => simp
  | some first =>
    cases t.mapM encodePoint? with
    | none => simp
    | some parts => simp [eq_comm]

/-- A text is read back from its octets. -/
theorem decode?_of_encode? {t : Text} {o : Octets} (h : encode? t = some o) : decode? o = some t := by
  induction t generalizing o with
  | nil =>
    obtain rfl : [] = o := Option.some.inj h
    rfl
  | cons c t ih =>
    obtain ⟨first, rest, hfirst, hrest, rfl⟩ := encode?_cons_eq_some_iff.mp h
    cases c with
    | surrogate i => cases hfirst
    | char a =>
      obtain rfl : encodeChar a = first := Option.some.inj hfirst
      have hdecoded := ih hrest
      unfold decode? at hdecoded ⊢
      rw [pieces_encodeChar_append, List.mapM_cons, hdecoded]
      rfl

/-- A text has octets if and only if it holds no lone surrogate. -/
theorem exists_encode?_iff {t : Text} :
    (∃ o, encode? t = some o) ↔ ∀ i, CodePoint.surrogate i ∉ t := by
  induction t with
  | nil => exact iff_of_true ⟨[], rfl⟩ fun i => List.not_mem_nil
  | cons c t ih =>
    constructor
    · rintro ⟨o, ho⟩ i hi
      obtain ⟨first, rest, hfirst, hrest, -⟩ := encode?_cons_eq_some_iff.mp ho
      rcases List.mem_cons.mp hi with rfl | hi
      · cases hfirst
      · exact ih.mp ⟨rest, hrest⟩ i hi
    · intro hnone
      obtain ⟨rest, hrest⟩ := ih.mpr fun i hi => hnone i (List.mem_cons_of_mem c hi)
      cases c with
      | surrogate i => exact absurd List.mem_cons_self (hnone i)
      | char a => exact ⟨_, encode?_cons_eq_some_iff.mpr ⟨encodeChar a, rest, rfl, hrest, rfl⟩⟩

end Utf8

end MailFilter
