import Mathlib
import MailFilter.Proofs.Text.AsciiFold
import MailFilter.Text.Case

/-!
# Marks under the case mappings

The case mappings know some thousand code points outside of ASCII, and a few of them lead back into
ASCII: the Kelvin sign to `k`, the capital dotted `İ` to `i` and a dot, the sharp `ß` to two capital
letters. All of these images are letters. An ASCII mark, which is no letter, is the image of itself
and of nothing else.

- `CaseTable.image`, `CaseTable.leadsTo`: where a table leads, and a bound of it that can be computed.
- `CodePoint.isAscii_of_mem_lower`: small ASCII letters come from ASCII, but for two of them.
- `CodePoint.isAscii_of_lower`: a small form that is ASCII as a whole does, but for one.
- `CodePoint.IsMark`: an ASCII code point that is no letter.
- `CodePoint.eq_of_mem_lower`, `CodePoint.eq_of_mem_upper`: a mark is the image of itself alone.
- `Text.lower_eq_iff`: which texts have a given ASCII text as their small form.
-/

namespace MailFilter

namespace CodePoint

/-- A number is that of its code point, or it has none and stands for the replacement character. -/
theorem toNat_ofNat (n : Nat) : (ofNat n).toNat = n ∨ (ofNat n).toNat = 0xFFFD := by
  unfold ofNat ofNat?
  split
  · next hvalid =>
    left
    show (Char.ofNat n).toNat = n
    rw [Char.toNat_ofNat, if_pos hvalid]
  · split
    · next hrange =>
      left
      show 0xD800 + (n - 0xD800) = n
      omega
    · right
      rfl

/-- Beyond ASCII the numbers go on from `0x80`. -/
theorem isAscii_eq_false_iff {c : CodePoint} : c.isAscii = false ↔ 0x80 ≤ c.toNat := by
  rw [isAscii, decide_eq_false_iff_not, Nat.not_lt]

end CodePoint

namespace CaseTable

/-- The image of a code point under a table of several images and a table of runs. -/
def image (special : List (Nat × List Nat)) (runs : List CaseRun) (c : CodePoint) : Text :=
  match special.lookup c.toNat with
  | some several => several.map CodePoint.ofNat
  | none => [((CaseRun.find? runs c.toNat).map CodePoint.ofNat).getD c]

/-- Whether all images are numbered beyond ASCII, or are among the allowed ones. A run that leads into
ASCII has to be a run of one code point. -/
def leadsTo (allowed : Nat → Bool) (special : List (Nat × List Nat)) (runs : List CaseRun) : Bool :=
  (special.all fun (_, several) => several.all fun n => 0x80 ≤ n || allowed n) &&
    runs.all fun r => 0x80 ≤ r.first + r.shift ||
      (r.first = r.last && allowed (r.first + r.shift).toNat)

variable {allowed : Nat → Bool} {special : List (Nat × List Nat)} {runs : List CaseRun}

/-- A number beyond ASCII stays so as a code point, also where it has none. -/
theorem allowed_of_ofNat {n : Nat} (h : 0x80 ≤ n ∨ allowed n = true) :
    (CodePoint.ofNat n).isAscii = false ∨ allowed (CodePoint.ofNat n).toNat = true := by
  rw [CodePoint.isAscii_eq_false_iff]
  rcases CodePoint.toNat_ofNat n with hn | hn
  · rw [hn]
    exact h
  · rw [hn]
    exact .inl (by omega)

/-- What is found in a table is one of its entries. -/
theorem mem_of_lookup {n : Nat} {several : List Nat} (h : special.lookup n = some several) :
    (n, several) ∈ special := by
  obtain ⟨before, after, hsplit, -⟩ := List.lookup_eq_some_iff.mp h
  simp [hsplit]

/-- A single image is that of a run in whose range the code point lies. -/
theorem exists_run_of_find? {n m : Nat} (h : CaseRun.find? runs n = some m) :
    ∃ r ∈ runs, r.first ≤ n ∧ n ≤ r.last ∧ ((n : Int) + r.shift).toNat = m := by
  obtain ⟨r, hfound, hm⟩ := Option.map_eq_some_iff.mp h
  have hrange := List.find?_some hfound
  simp only [Bool.and_eq_true, decide_eq_true_eq] at hrange
  exact ⟨r, List.mem_of_find?_eq_some hfound, hrange.1.1, hrange.1.2, hm⟩

/-- A run keeps the distance of its code points, so that its first one has the least image. -/
theorem allowed_of_find? {n m : Nat} (hruns : ∀ r ∈ runs, (0x80 : Int) ≤ r.first + r.shift ∨
      r.first = r.last ∧ allowed (r.first + r.shift).toNat = true)
    (h : CaseRun.find? runs n = some m) : 0x80 ≤ m ∨ allowed m = true := by
  obtain ⟨r, hmem, hfirst, hlast, rfl⟩ := exists_run_of_find? h
  rcases hruns r hmem with hbeyond | ⟨hsingle, hallowed⟩
  · left
    omega
  · have hn : n = r.first := by omega
    right
    rw [hn]
    exact hallowed

/-- What a table leads to is beyond ASCII or allowed, unless it is the code point itself. -/
theorem mem_image (htable : leadsTo allowed special runs = true) {c d : CodePoint}
    (hd : d ∈ image special runs c) :
    d = c ∨ d.isAscii = false ∨ allowed d.toNat = true := by
  simp only [leadsTo, Bool.and_eq_true, List.all_eq_true, Bool.or_eq_true, decide_eq_true_eq]
    at htable
  obtain ⟨hspecial, hruns⟩ := htable
  unfold image at hd
  split at hd
  -- several images, which are never the code point itself
  · next several hlookup =>
    obtain ⟨n, hn, rfl⟩ := List.mem_map.mp hd
    right
    exact allowed_of_ofNat (hspecial _ (mem_of_lookup hlookup) n hn)
  · obtain rfl := List.mem_singleton.mp hd
    cases hfound : CaseRun.find? runs c.toNat with
    | none =>
      left
      rfl
    | some m =>
      right
      exact allowed_of_ofNat (allowed_of_find? hruns hfound)

/-- If each list of several images leads beyond ASCII somewhere, then only an image beyond ASCII or an
allowed one is not the code point itself. -/
theorem isAscii_of_image (hspecial : ∀ e ∈ special, ∃ n ∈ e.2, 0x80 ≤ n)
    (hruns : leadsTo allowed [] runs = true) {c : CodePoint}
    (h : ∀ d ∈ image special runs c, d.isAscii = true ∧ allowed d.toNat = false) :
    c.isAscii = true := by
  unfold image at h
  split at h
  · next several hlookup =>
    obtain ⟨n, hmem, hn⟩ := hspecial _ (mem_of_lookup hlookup)
    obtain ⟨hascii, hallowed⟩ := h _ (List.mem_map_of_mem hmem)
    have himage : (CodePoint.ofNat n).isAscii = false ∨ allowed (CodePoint.ofNat n).toNat = true :=
      allowed_of_ofNat (.inl hn)
    rcases himage with hbeyond | hother
    · rw [hascii] at hbeyond
      contradiction
    · rw [hallowed] at hother
      contradiction
  · have hmem := List.mem_singleton_self (((CaseRun.find? runs c.toNat).map CodePoint.ofNat).getD c)
    obtain ⟨hascii, hallowed⟩ := h _ hmem
    rcases mem_image hruns (c := c) hmem with hself | hbeyond | hother
    · rwa [hself] at hascii
    · rw [hascii] at hbeyond
      contradiction
    · rw [hallowed] at hother
      contradiction

/-- Several small letters in place of one: the capital dotted `İ` leaves its dot beyond ASCII. -/
theorem exists_beyond_of_mem_lowerSpecial :
    ∀ e ∈ lowerSpecial, ∃ n ∈ e.2, 0x80 ≤ n := by
  decide

/-- Of single small letters, only the `k` of the Kelvin sign is an ASCII one of a code point beyond. -/
theorem leadsTo_lowerRuns : leadsTo (fun n => n = 'k'.toNat) [] lowerRuns = true := by
  decide +kernel

/-- Small letters beyond ASCII lead to no other ASCII code points than `i` and `k`. -/
theorem leadsTo_lower :
    leadsTo (fun n => n = 'i'.toNat || n = 'k'.toNat) lowerSpecial lowerRuns = true := by
  decide +kernel

/-- Capital letters of code points beyond ASCII are capital letters where they are ASCII. -/
theorem leadsTo_upper :
    leadsTo (fun n => 'A'.toNat ≤ n && n ≤ 'Z'.toNat) upperSpecial upperRuns = true := by
  decide +kernel

end CaseTable

namespace CodePoint

variable {c d : CodePoint}

/-- Folding neither enters nor leaves ASCII. -/
@[simp] theorem isAscii_asciiFold (c : CodePoint) : c.asciiFold.isAscii = c.isAscii := by
  have hfold := foldsCapitals_asciiFold c
  simp only [Char.reduceToNat] at hfold
  simp only [isAscii, decide_eq_decide, hfold]
  split <;> omega

/-- Beyond ASCII small forms are taken from the tables. -/
theorem lower_of_not_isAscii (h : c.isAscii = false) :
    c.lower = CaseTable.image CaseTable.lowerSpecial CaseTable.lowerRuns c := by
  unfold lower
  rw [if_neg (Bool.eq_false_iff.mp h)]
  rfl

/-- Beyond ASCII capital forms are taken from the tables, and surrogates have none. -/
theorem mem_upper_of_not_isAscii (h : c.isAscii = false) (hd : d ∈ c.upper) :
    d = c ∨ d ∈ CaseTable.image CaseTable.upperSpecial CaseTable.upperRuns c := by
  cases c with
  | surrogate i =>
    left
    exact List.mem_singleton.mp hd
  | char a =>
    have himage : (char a).upper =
        CaseTable.image CaseTable.upperSpecial CaseTable.upperRuns (char a) :=
      if_neg (Bool.eq_false_iff.mp h)
    right
    rwa [himage] at hd

/-- Only two ASCII code points are small forms of code points beyond ASCII. -/
theorem isAscii_of_mem_lower (hd : d ∈ c.lower) (hascii : d.isAscii = true) (hi : d ≠ .char 'i')
    (hk : d ≠ .char 'k') : c.isAscii = true := by
  -- the tables lead to no other ASCII code points than the two
  by_contra hbeyond
  have hc : c.isAscii = false := Bool.eq_false_iff.mpr hbeyond
  rw [lower_of_not_isAscii hc] at hd
  rcases CaseTable.mem_image CaseTable.leadsTo_lower hd with rfl | hd | hallowed
  · exact hbeyond hascii
  · rw [hascii] at hd
    contradiction
  · simp only [Bool.or_eq_true, decide_eq_true_eq] at hallowed
    rcases hallowed with h | h
    · exact hi (toNat_injective h)
    · exact hk (toNat_injective h)

/-- A small form that is ASCII as a whole comes from ASCII, unless it is that of the Kelvin sign. -/
theorem isAscii_of_lower (h : ∀ d ∈ c.lower, d.isAscii = true ∧ d ≠ .char 'k') :
    c.isAscii = true := by
  by_contra hbeyond
  have hc : c.isAscii = false := Bool.eq_false_iff.mpr hbeyond
  rw [lower_of_not_isAscii hc] at h
  refine hbeyond (CaseTable.isAscii_of_image CaseTable.exists_beyond_of_mem_lowerSpecial
    CaseTable.leadsTo_lowerRuns fun d hd => ⟨(h d hd).1, ?_⟩)
  exact decide_eq_false fun hk => (h d hd).2 (toNat_injective hk)

/-! ## Marks -/

/-- An ASCII code point that is no letter. -/
structure IsMark (c : CodePoint) : Prop where
  isAscii : c.isAscii = true
  isLetter : c.isLetter = false

/-- A mark is its own small form. -/
theorem IsMark.lower_eq (h : c.IsMark) : c.lower = [c] := by
  rw [lower, if_pos h.isAscii, asciiFold_eq_self h.isLetter]

/-- In ASCII each code point has one capital form. -/
theorem upper_char {a : Char} (h : (char a).isAscii = true) : (char a).upper = [.char a.toUpper] := by
  rw [upper, if_pos h]

/-- A mark is its own capital form. -/
theorem IsMark.upper_eq (h : c.IsMark) : c.upper = [c] := by
  cases c with
  | surrogate i => rfl
  | char a =>
    have hlower : a.isLower = false := (Bool.or_eq_false_iff.mp h.isLetter).2
    rw [upper_char h.isAscii, Char.toUpper_eq_of_not_isLower (Bool.eq_false_iff.mp hlower)]

/-- A mark is the small form of itself alone. -/
theorem eq_of_mem_lower (hmark : d.IsMark) (hd : d ∈ c.lower) : c = d := by
  have hletter := hmark.isLetter
  have hi : d ≠ .char 'i' := by
    rintro rfl
    contradiction
  have hk : d ≠ .char 'k' := by
    rintro rfl
    contradiction
  have hc := isAscii_of_mem_lower hd hmark.isAscii hi hk
  rw [lower, if_pos hc] at hd
  exact (asciiFold_eq_iff hletter).mp (List.mem_singleton.mp hd).symm

/-- A mark is the capital form of itself alone. -/
theorem eq_of_mem_upper (hmark : d.IsMark) (hd : d ∈ c.upper) : c = d := by
  have hletter := hmark.isLetter
  -- in ASCII a capital form is a letter unless it is the code point itself
  by_cases hc : c.isAscii = true
  · cases c with
    | surrogate i => exact (List.mem_singleton.mp hd).symm
    | char a =>
      rw [upper_char hc] at hd
      obtain rfl := List.mem_singleton.mp hd
      have halpha : a.isAlpha = false := (Char.isAlpha_toUpper_eq_isAlpha a).symm.trans hletter
      have hlower : a.isLower = false := (Bool.or_eq_false_iff.mp halpha).2
      rw [Char.toUpper_eq_of_not_isLower (Bool.eq_false_iff.mp hlower)]
  · rcases mem_upper_of_not_isAscii (Bool.eq_false_iff.mpr hc) hd with rfl | hd
    · rfl
    rcases CaseTable.mem_image CaseTable.leadsTo_upper hd with rfl | hbeyond | hallowed
    · rfl
    · rw [hmark.isAscii] at hbeyond
      contradiction
    · -- the image is a capital letter
      exfalso
      simp only [Bool.and_eq_true, decide_eq_true_eq] at hallowed
      obtain ⟨hfirst, hlast⟩ := hallowed
      cases d with
      | surrogate i =>
        simp only [toNat, Char.reduceToNat] at hlast
        omega
      | char b =>
        have hupper : b.isUpper = true := by
          simp only [Char.isUpper, decide_eq_true_eq, ge_iff_le, UInt32.le_iff_toNat_le,
            Char.reduceVal, UInt32.reduceToNat]
          exact ⟨hfirst, hlast⟩
        have hupper' : b.isUpper = false := (Bool.or_eq_false_iff.mp hletter).1
        rw [hupper] at hupper'
        contradiction

end CodePoint

/-! ## Texts -/

namespace Text

/-- Where the small form is ASCII without `k`, so was the text. -/
theorem isAscii_of_lowerAfter {before t : Text}
    (h : ∀ d ∈ lowerAfter before t, d.isAscii = true ∧ d ≠ .char 'k') :
    ∀ c ∈ t, c.isAscii = true := by
  induction t generalizing before with
  | nil => exact List.forall_mem_nil _
  | cons c rest ih =>
    rw [lowerAfter] at h
    obtain ⟨hsmall, hrest⟩ := List.forall_mem_append.mp h
    refine List.forall_mem_cons.mpr ⟨?_, ih hrest⟩
    split at hsmall
    · -- both small forms of a sigma are beyond ASCII
      exfalso
      split at hsmall
      · exact absurd (hsmall _ (List.mem_singleton_self _)).1 (by decide)
      · exact absurd (hsmall _ (List.mem_singleton_self _)).1 (by decide)
    · exact CodePoint.isAscii_of_lower hsmall

/-- The texts of which the small form is an ASCII text without `k` are its spellings in ASCII letters
of any case. -/
theorem lower_eq_iff {t word : Text} (h : ∀ d ∈ word, d.isAscii = true ∧ d ≠ .char 'k') :
    t.lower = word ↔ t.asciiFold = word := by
  constructor
  · rintro rfl
    exact (lower_of_isAscii (isAscii_of_lowerAfter h)).symm
  · rintro rfl
    refine lower_of_isAscii fun c hc => ?_
    have hfold : c.asciiFold.isAscii = true := (h _ (List.mem_map_of_mem hc)).1
    rwa [CodePoint.isAscii_asciiFold] at hfold

end Text

end MailFilter
