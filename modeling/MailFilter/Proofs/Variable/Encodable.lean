import Mathlib
import MailFilter.Proofs.Text.Casing
import MailFilter.Proofs.Text.FormEncoded

/-!
# When modifiers fail

Of all modifiers only form encoding can fail, and it stands behind those that quote or change case.
None of these adds a lone surrogate or takes one away: the case mappings neither know one nor lead to
one, and quoting adds backslashes only. So it can be seen from the value as it comes in whether its
modifiers will fail.

- `Text.surrogates`: the lone surrogates of a text.
- `CaseTable.avoidsSurrogates`: a property of the case mappings that can be computed.
- `Modifier.keepsSurrogates`: the modifiers in front of form encoding.
- `ModifierSet.apply_eq_error_iff`: when a set of modifiers fails, and how.
-/

namespace MailFilter

/-! ## Lone surrogates -/

namespace CodePoint

/-- A lone surrogate. -/
def isSurrogate : CodePoint → Bool
  | .char _ => false
  | .surrogate _ => true

/-- Lone surrogates are told from other code points by their number alone. -/
theorem isSurrogate_iff {c : CodePoint} :
    c.isSurrogate = true ↔ 0xD800 ≤ c.toNat ∧ c.toNat < 0xE000 := by
  cases c with
  | char a =>
    have hvalid : a.toNat < 0xD800 ∨ 0xDFFF < a.toNat ∧ a.toNat < 0x110000 := a.valid
    simp only [isSurrogate, Bool.false_eq_true, toNat, false_iff]
    omega
  | surrogate i =>
    have hi := i.isLt
    simp only [isSurrogate, toNat, true_iff]
    omega

/-- A number outside of their range is no surrogate. -/
theorem isSurrogate_eq_false {c : CodePoint} (h : c.toNat < 0xD800 ∨ 0xE000 ≤ c.toNat) :
    c.isSurrogate = false := by
  rw [Bool.eq_false_iff, ne_eq, isSurrogate_iff]
  omega

/-- Nor is the code point made of such a number, even if the number is too high for one. -/
theorem isSurrogate_ofNat {n : Nat} (h : n < 0xD800 ∨ 0xE000 ≤ n) :
    (ofNat n).isSurrogate = false := by
  refine isSurrogate_eq_false ?_
  rcases toNat_ofNat n with hn | hn <;> omega

/-- ASCII lies in front of the surrogates. -/
theorem isSurrogate_of_isAscii {c : CodePoint} (h : c.isAscii = true) : c.isSurrogate = false := by
  have hlow : c.toNat < 0x80 := of_decide_eq_true h
  exact isSurrogate_eq_false (by omega)

end CodePoint

namespace Text

/-- The lone surrogates of a text, in their order. -/
def surrogates (t : Text) : Text :=
  t.filter CodePoint.isSurrogate

@[simp] theorem surrogates_append (s t : Text) :
    surrogates (s ++ t) = s.surrogates ++ t.surrogates :=
  List.filter_append ..

theorem surrogates_cons (c : CodePoint) (t : Text) :
    surrogates (c :: t) = surrogates [c] ++ t.surrogates :=
  surrogates_append [c] t

theorem surrogates_eq_nil {t : Text} (h : ∀ c ∈ t, c.isSurrogate = false) : t.surrogates = [] :=
  List.filter_eq_nil_iff.mpr fun c hc => by simp [h c hc]

/-- A text of one code point that is no surrogate has none. -/
theorem surrogates_singleton {c : CodePoint} (h : c.isSurrogate = false) : surrogates [c] = [] :=
  surrogates_eq_nil fun d hd => by rwa [List.mem_singleton.mp hd]

theorem mem_surrogates {t : Text} {c : CodePoint} :
    c ∈ t.surrogates ↔ c ∈ t ∧ c.isSurrogate = true :=
  List.mem_filter

/-- A text holds a surrogate if and only if its surrogates are not empty. -/
theorem exists_surrogate_iff {t : Text} : (∃ i, .surrogate i ∈ t) ↔ t.surrogates ≠ [] := by
  constructor
  · rintro ⟨i, hi⟩
    exact List.ne_nil_of_mem (mem_surrogates.mpr ⟨hi, rfl⟩)
  · intro hsome
    obtain ⟨c, hc⟩ := List.exists_mem_of_ne_nil _ hsome
    obtain ⟨hmem, hsurrogate⟩ := mem_surrogates.mp hc
    cases c with
    | char a => cases hsurrogate
    | surrogate i => exact ⟨i, hmem⟩

/-- What keeps the surrogates of each code point keeps those of the text. -/
theorem surrogates_flatMap {f : CodePoint → Text} (h : ∀ c, (f c).surrogates = surrogates [c])
    (t : Text) : surrogates (t.flatMap f) = t.surrogates := by
  induction t with
  | nil => rfl
  | cons c t ih => rw [List.flatMap_cons, surrogates_append, h, ih, ← surrogates_cons]

end Text

/-! ## The case mappings -/

namespace CaseTable

/-- Whether neither the code points nor the images of a table are surrogates. -/
def avoidsSurrogates (special : List (Nat × List Nat)) (runs : List CaseRun) : Bool :=
  (special.all fun (n, several) => (n :: several).all fun m => m < 0xD800 || 0xE000 ≤ m) &&
    runs.all fun r =>
      (r.last < 0xD800 || 0xE000 ≤ r.first) &&
      (r.last + r.shift < 0xD800 || 0xE000 ≤ r.first + r.shift)

/-- The table of small letters is checked entry by entry. -/
theorem avoidsSurrogates_lower : avoidsSurrogates lowerSpecial lowerRuns = true := by
  decide +kernel

/-- So is the table of capitals. -/
theorem avoidsSurrogates_upper : avoidsSurrogates upperSpecial upperRuns = true := by
  decide +kernel

variable {special : List (Nat × List Nat)} {runs : List CaseRun}

/-- A run holds no surrogate and leads to none. -/
theorem not_surrogate_of_find? {n m : Nat}
    (hruns : ∀ r ∈ runs, (r.last < 0xD800 ∨ 0xE000 ≤ r.first) ∧
      ((r.last : Int) + r.shift < 0xD800 ∨ 0xE000 ≤ (r.first : Int) + r.shift))
    (h : CaseRun.find? runs n = some m) :
    (n < 0xD800 ∨ 0xE000 ≤ n) ∧ (m < 0xD800 ∨ 0xE000 ≤ m) := by
  obtain ⟨r, hmem, hfirst, hlast, rfl⟩ := exists_run_of_find? h
  obtain ⟨hdomain, himage⟩ := hruns r hmem
  omega

/-- A table keeps surrogates as they are, and makes none of other code points. -/
theorem surrogates_image (htable : avoidsSurrogates special runs = true) (c : CodePoint) :
    (image special runs c).surrogates = Text.surrogates [c] := by
  simp only [avoidsSurrogates, Bool.and_eq_true, List.all_eq_true, Bool.or_eq_true,
    decide_eq_true_eq] at htable
  obtain ⟨hspecial, hruns⟩ := htable
  have hplain (h : c.toNat < 0xD800 ∨ 0xE000 ≤ c.toNat) : Text.surrogates [c] = [] :=
    Text.surrogates_singleton (CodePoint.isSurrogate_eq_false h)
  unfold image
  -- an entry of its own, a run, or neither: then the code point stays
  split
  · next several hlookup =>
    have hentry := hspecial _ (mem_of_lookup hlookup)
    rw [hplain (hentry _ List.mem_cons_self)]
    refine Text.surrogates_eq_nil fun d hd => ?_
    obtain ⟨n, hn, rfl⟩ := List.mem_map.mp hd
    exact CodePoint.isSurrogate_ofNat (hentry n (List.mem_cons_of_mem _ hn))
  · cases hfound : CaseRun.find? runs c.toNat with
    | none => rfl
    | some m =>
      obtain ⟨hdomain, himage⟩ := not_surrogate_of_find? hruns hfound
      rw [hplain hdomain]
      exact Text.surrogates_singleton (CodePoint.isSurrogate_ofNat himage)

end CaseTable

namespace CodePoint

/-- ASCII code points in place of each other leave no surrogates. -/
theorem surrogates_singleton_of_isAscii {c d : CodePoint} (hc : c.isAscii = true)
    (hd : d.isAscii = true) : Text.surrogates [d] = Text.surrogates [c] := by
  rw [Text.surrogates_singleton (isSurrogate_of_isAscii hc),
    Text.surrogates_singleton (isSurrogate_of_isAscii hd)]

/-- A code point and its small form have the same surrogates. -/
theorem surrogates_lower (c : CodePoint) : c.lower.surrogates = Text.surrogates [c] := by
  cases hascii : c.isAscii with
  | true =>
    rw [lower, if_pos hascii]
    exact surrogates_singleton_of_isAscii hascii (by rwa [isAscii_asciiFold])
  | false =>
    rw [lower_of_not_isAscii hascii]
    exact CaseTable.surrogates_image CaseTable.avoidsSurrogates_lower c

/-- A code point and its capital form have the same surrogates. -/
theorem surrogates_upper (c : CodePoint) : c.upper.surrogates = Text.surrogates [c] := by
  cases c with
  | surrogate i => rfl
  | char a =>
    by_cases hascii : (char a).isAscii = true
    · rw [upper_char hascii]
      rfl
    · have himage : (char a).upper =
          CaseTable.image CaseTable.upperSpecial CaseTable.upperRuns (char a) :=
        if_neg hascii
      rw [himage]
      exact CaseTable.surrogates_image CaseTable.avoidsSurrogates_upper _

end CodePoint

namespace Text

/-- A sigma is made small in one of two ways, and neither is a surrogate. -/
theorem surrogates_lowerAfter (before t : Text) : (lowerAfter before t).surrogates = t.surrogates := by
  induction t generalizing before with
  | nil => rfl
  | cons c t ih =>
    rw [lowerAfter, surrogates_append, ih, surrogates_cons c t]
    congr 1
    split
    · next hsigma =>
      rw [hsigma]
      split <;> rfl
    · exact c.surrogates_lower

theorem surrogates_lower (t : Text) : t.lower.surrogates = t.surrogates :=
  surrogates_lowerAfter [] t

theorem surrogates_upper (t : Text) : t.upper.surrogates = t.surrogates :=
  surrogates_flatMap CodePoint.surrogates_upper t

/-- A change of the first code point keeps surrogates if it does so everywhere. -/
theorem surrogates_first {change : Text → Text} (h : ∀ t, (change t).surrogates = surrogates t)
    (t : Text) : (change (t.take 1) ++ t.drop 1).surrogates = t.surrogates := by
  rw [surrogates_append, h, ← surrogates_append, List.take_append_drop]

/-- A text has a form encoding if and only if it holds no surrogate. -/
theorem formEncode?_eq_none_iff {t : Text} : formEncode? t = none ↔ t.surrogates ≠ [] := by
  rw [← exists_surrogate_iff, formEncode?_eq_map, Option.map_eq_none_iff, ← not_iff_not,
    ← ne_eq, Option.ne_none_iff_exists', Utf8.exists_encode?_iff, not_exists]

end Text

/-! ## Modifiers -/

namespace Modifier

/-- Quoting adds backslashes only. -/
theorem surrogates_quoteGlob (t : Text) : (quoteGlob t).surrogates = t.surrogates := by
  refine Text.surrogates_flatMap (fun c => ?_) t
  split <;> rfl

/-- The modifiers in front of form encoding. -/
def keepsSurrogates : Modifier → Bool
  | .quoteWildcard | .lower | .upper | .lowerFirst | .upperFirst => true
  | .encodeUrl | .length => false

/-- They never fail, and the surrogates of the value are those of what comes out. -/
theorem exists_apply_of_keepsSurrogates {m : Modifier} (h : m.keepsSurrogates = true) (t : Text) :
    ∃ u, m.apply t = .ok u ∧ u.surrogates = t.surrogates := by
  cases m with
  | quoteWildcard => exact ⟨_, rfl, surrogates_quoteGlob t⟩
  | lower => exact ⟨_, rfl, t.surrogates_lower⟩
  | upper => exact ⟨_, rfl, t.surrogates_upper⟩
  | lowerFirst => exact ⟨_, rfl, Text.surrogates_first Text.surrogates_lower t⟩
  | upperFirst => exact ⟨_, rfl, Text.surrogates_first Text.surrogates_upper t⟩
  | encodeUrl | length => cases h

/-- Nor does any number of them. -/
theorem exists_foldlM_of_keepsSurrogates {ms : List Modifier}
    (h : ∀ m ∈ ms, m.keepsSurrogates = true) (t : Text) :
    ∃ u, ms.foldlM (fun t m => m.apply t) t = .ok u ∧ u.surrogates = t.surrogates := by
  induction ms generalizing t with
  | nil => exact ⟨t, rfl, rfl⟩
  | cons m ms ih =>
    obtain ⟨hm, hms⟩ := List.forall_mem_cons.mp h
    obtain ⟨first, hfirst, hkept⟩ := exists_apply_of_keepsSurrogates hm t
    obtain ⟨u, hu, hrest⟩ := ih hms first
    refine ⟨u, ?_, hrest.trans hkept⟩
    rw [List.foldlM_cons, hfirst]
    exact hu

/-- Form encoding fails for a lone surrogate, and for nothing else. -/
theorem apply_encodeUrl_eq_error_iff {t : Text} {fault : Fault} :
    encodeUrl.apply t = .error fault ↔ t.surrogates ≠ [] ∧ fault = .unencodable := by
  rw [← Text.formEncode?_eq_none_iff, apply]
  cases Text.formEncode? t with
  | none => simp [eq_comm]
  | some encoded => simp

end Modifier

namespace ModifierSet

/-- The enabled modifiers, cut in front of form encoding. -/
theorem enabled_eq_append (s : ModifierSet) :
    s.enabled = (Modifier.all.filter Modifier.keepsSurrogates).filter s.has ++
      [.encodeUrl, .length].filter s.has :=
  List.filter_append
    (Modifier.all.filter Modifier.keepsSurrogates) [Modifier.encodeUrl, Modifier.length]

/-- Behind the cut it is form encoding alone that may fail. -/
theorem foldlM_encoding_eq_error_iff {s : ModifierSet} {t : Text} {fault : Fault} :
    ([.encodeUrl, .length].filter s.has).foldlM (fun t m => m.apply t) t = .error fault ↔
      s.has .encodeUrl = true ∧ Modifier.encodeUrl.apply t = .error fault := by
  -- the length of a text can always be told
  have hlength (u : Text) : ([.length].filter s.has).foldlM (fun t m => m.apply t) u ≠
      (.error fault : Except Fault Text) := by
    cases hhas : s.has .length <;> simp [hhas, Modifier.apply, pure, Except.pure, bind, Except.bind]
  cases hhas : s.has .encodeUrl with
  | false => simpa [List.filter_cons, hhas] using hlength t
  | true =>
    rw [List.filter_cons_of_pos hhas, List.foldlM_cons]
    cases happly : Modifier.encodeUrl.apply t with
    | error cause => simp [bind, Except.bind]
    | ok encoded => simpa [bind, Except.bind] using hlength encoded

/-- A set of modifiers fails if and only if form encoding is enabled and the value holds a lone
surrogate, whatever other modifiers are enabled. -/
theorem apply_eq_error_iff {s : ModifierSet} {t : Text} {fault : Fault} :
    s.apply t = .error fault ↔
      s.has .encodeUrl = true ∧ (∃ i, .surrogate i ∈ t) ∧ fault = .unencodable := by
  have hfront : ∀ m ∈ (Modifier.all.filter Modifier.keepsSurrogates).filter s.has,
      m.keepsSurrogates = true := by
    intro m hm
    exact (List.mem_filter.mp (List.mem_filter.mp hm).1).2
  -- what reaches the form encoding holds the surrogates of the value
  obtain ⟨u, hu, hkept⟩ := Modifier.exists_foldlM_of_keepsSurrogates hfront t
  have hsplit : s.apply t = ([.encodeUrl, .length].filter s.has).foldlM (fun t m => m.apply t) u := by
    rw [ModifierSet.apply, enabled_eq_append, List.foldlM_append, hu]
    rfl
  rw [hsplit, foldlM_encoding_eq_error_iff, Modifier.apply_encodeUrl_eq_error_iff, hkept,
    Text.exists_surrogate_iff]

end ModifierSet

end MailFilter
