import MailFilter.Proofs.Template.Lookups
import MailFilter.Proofs.Text.AsciiFold
import MailFilter.Proofs.Variable.Arguments
import MailFilter.Proofs.Variable.History
import MailFilter.Variable.SetCommand

/-!
# What a `set` command binds is read back

A `set` command binds its value under the small letters of its name. A reference to the name, in
letters of any case and with each backslash written twice, expands to that value, unless the name is
a digit of which there is a capture: captures go before bindings.

- `Template.referenceTo`: a reference to a name.
- `Template.expand_referenceTo`: it expands to what is looked up.
- `Store.lookup?_bind_self`, `Store.lookup?_bind_of_ne`: look-ups after a binding.
- `SetCommand.execute_reads_back`: what a `set` command without modifiers changes.
-/

namespace MailFilter

/-! ## Letter case of names -/

namespace Template

/-- May stand in a name: a backslash, or what needs none before it. -/
def isNameMember (c : CodePoint) : Bool :=
  isNamePoint c || c = .char '\\'

/-- Letters of the other case may stand in a name as well. -/
theorem isNameMember_asciiFold (c : CodePoint) : isNameMember c.asciiFold = isNameMember c := by
  have hmark (mark : CodePoint) (h : mark.isLetter = false) :
      decide (c.asciiFold = mark) = decide (c = mark) := by
    rw [decide_eq_decide]
    exact CodePoint.asciiFold_eq_iff h
  rw [isNameMember, isNameMember, isNamePoint, isNamePoint, CodePoint.isAlphanum_asciiFold,
    hmark (.char '_') rfl, hmark (.char '.') rfl, hmark (.char '\\') rfl]

/-- What may stand in a name is in ASCII. -/
theorem isAscii_of_isNameMember {c : CodePoint} (h : isNameMember c = true) : c.isAscii = true := by
  rcases Bool.or_eq_true_iff.mp h with hname | hback
  · exact isAscii_of_isNamePoint hname
  · obtain rfl : c = .char '\\' := by simpa using hback
    decide

section Variant

variable {name variant : Text}

/-- A variant of a name in letters of another case holds the same kinds of code points. -/
theorem all_isNameMember_of_asciiFold (hvariant : variant.asciiFold = name.asciiFold)
    (hname : name.all isNameMember = true) : variant.all isNameMember = true := by
  have hfold (t : Text) : t.asciiFold.all isNameMember = t.all isNameMember := by
    rw [Text.asciiFold, List.all_map]
    exact congrArg (t.all ·) (funext isNameMember_asciiFold)
  rw [← hfold, hvariant, hfold]
  exact hname

/-- Letter case does not matter for the digits that a name may not begin with. -/
theorem isName_of_asciiFold (hvariant : variant.asciiFold = name.asciiFold) :
    isName variant = isName name := by
  have hfold (t : Text) : isName t.asciiFold = isName t := by
    match t with
    | [] => rfl
    | [c] => rfl
    | c :: d :: rest =>
      show (!(c.asciiFold.isDigit && d.asciiFold.isDigit)) = !(c.isDigit && d.isDigit)
      rw [CodePoint.isDigit_asciiFold, CodePoint.isDigit_asciiFold]
  rw [← hfold, hvariant, hfold]

/-- The small form of a name is its small letters, since it is in ASCII. -/
theorem lower_of_all_isNameMember (hname : name.all isNameMember = true) :
    name.lower = name.asciiFold :=
  Text.lower_of_isAscii fun c hc => isAscii_of_isNameMember (List.all_eq_true.mp hname c hc)

/-- A name that a reference may have is no number of several digits. -/
theorem not_number_of_isName (hname : isName name = true)
    (hmembers : name.all isNameMember = true) :
    ¬(1 < name.lower.length ∧ ∀ c ∈ name.lower, c.isDigit = true) := by
  rw [lower_of_all_isNameMember hmembers]
  rintro ⟨hlong, hdigits⟩
  match name with
  | [] => exact absurd hlong (Nat.not_lt_zero 1)
  | [c] => exact absurd hlong (Nat.lt_irrefl 1)
  | c :: d :: rest =>
    have hc : c.isDigit = true := by simpa using hdigits c.asciiFold (by simp [Text.asciiFold])
    have hd : d.isDigit = true := by simpa using hdigits d.asciiFold (by simp [Text.asciiFold])
    simp [isName, startsWithTwoDigits, hc, hd] at hname

end Variant

/-! ## References to a name -/

/-- The name with each backslash written twice. -/
def doubled (name : Text) : Text :=
  name.flatMap fun c => if c = .char '\\' then [c, c] else [c]

/-- A reference to a name. -/
def referenceTo (name : Text) : Text :=
  marker ++ doubled name ++ [.char '}']

/-- With its backslashes doubled a name is a spelling of itself. -/
theorem spells_doubled {name : Text} (h : name.all isNameMember = true) :
    Spells (doubled name) name := by
  induction name with
  | nil => exact .nil
  | cons c rest ih =>
    rw [List.all_cons, Bool.and_eq_true] at h
    obtain ⟨hc, hrest⟩ := h
    have hstep : doubled (c :: rest) = (if c = .char '\\' then [c, c] else [c]) ++ doubled rest :=
      List.flatMap_cons ..
    rw [hstep]
    by_cases hback : c = .char '\\'
    · subst hback
      exact .backslash (ih hrest)
    · have hpoint : isNamePoint c = true := by simpa [isNameMember, hback] using hc
      rw [if_neg hback]
      exact .plain hpoint (ih hrest)

/-- A reference to a name is read as one. -/
theorem head_referenceTo {name : Text} (hname : isName name = true)
    (hmembers : name.all isNameMember = true) : head (referenceTo name) = .reference name [] := by
  have href : reference? (referenceTo name) = some (name, []) :=
    readReference?_eq_some_iff.mpr ⟨doubled name, spells_doubled hmembers, hname, rfl⟩
  obtain ⟨rest, hshape⟩ : ∃ rest, referenceTo name = .char '$' :: rest := ⟨_, rfl⟩
  rw [hshape] at href ⊢
  rw [head, if_neg (by decide), href]

/-- A reference expands to what is looked up under its name. -/
theorem expand_referenceTo (s : Store) {name : Text} (hname : isName name = true)
    (hmembers : name.all isNameMember = true) :
    expand s (referenceTo name) = (s.lookup? name).getD [] := by
  rw [expand, expandWith_of_reference (head_referenceTo hname hmembers), expandWith_of_ended rfl,
    List.append_nil]

end Template

/-! ## Look-ups after a binding -/

namespace Store

/-- Small letters change no single digit. -/
theorem numberedGroup?_asciiFold (groups : List Text) (name : Text) :
    numberedGroup? groups name.asciiFold = numberedGroup? groups name := by
  match name with
  | [] => rfl
  | c :: d :: rest => rfl
  | [c] =>
    show numberedGroup? groups [c.asciiFold] = _
    by_cases hdigit : c.isDigit = true
    · rw [CodePoint.asciiFold_eq_self (CodePoint.isLetter_of_isDigit hdigit)]
    · have hnone (d : CodePoint) (hd : d.isDigit = false) :
          numberedGroup? groups [d] = none := by
        refine numberedGroup?_of_not_digit fun e he => ?_
        obtain rfl : d = e := List.singleton_inj.mp he
        exact hd
      have hc : c.isDigit = false := Bool.eq_false_iff.mpr hdigit
      rw [hnone c hc, hnone c.asciiFold ((CodePoint.isDigit_asciiFold c).trans hc)]

variable (s : Store) {name value : Text}

/-- A name is looked up with the value that has been bound to it, unless a capture is in front of
it. -/
theorem lookup?_bind_self (h : ¬(1 < name.lower.length ∧ ∀ c ∈ name.lower, c.isDigit = true)) :
    (s.bind name value).lookup? name =
      some ((numberedGroup? s.captures name.lower).getD value) := by
  have hbound : Assoc.get? name.lower (s.bind name value).bindings = some value := by
    show Assoc.get? name.lower (s.bindings.put name.lower value) = _
    rw [Assoc.get?_put, if_pos rfl]
  rw [lookup?_eq, if_neg h, hbound, captures_bind]
  cases numberedGroup? s.captures name.lower <;> rfl

/-- A binding changes nothing for a name that has other small letters. -/
theorem lookup?_bind_of_ne {other : Text} (h : other.lower ≠ name.lower) :
    (s.bind name value).lookup? other = s.lookup? other := by
  have hbound : Assoc.get? other.lower (s.bind name value).bindings = s.bindings.get? other.lower := by
    show Assoc.get? other.lower (s.bindings.put name.lower value) = _
    rw [Assoc.get?_put, if_neg h.symm]
  rw [lookup?_eq, lookup?_eq, hbound, captures_bind]

end Store

namespace SetCommand

open Template

/-- A name and a value are a command without modifiers, unless the name looks like one. -/
theorem ofArguments_pair {name value : Text} (h : isTag name = false) :
    ofArguments [name, value] = .ok ⟨name, value, [], .empty⟩ :=
  ofArguments_eq_ok_iff_ofTokens.mpr ⟨rfl, List.forall_mem_nil _, h, rfl⟩

/-- Without modifiers the expanded value is bound as it is. -/
theorem execute_of_no_modifiers (s : Store) (name value : Text) :
    execute ⟨name, value, [], .empty⟩ true s =
      .ok (some (expand s value), s.bind name (expand s value)) := rfl

/-- A colon may not stand in a name. -/
theorem isTag_of_all_isNameMember {name : Text} (h : name.all isNameMember = true) :
    isTag name = false := by
  unfold isTag
  split
  · next rest =>
    rw [List.all_cons, Bool.and_eq_true] at h
    exact absurd h.1 (by decide)
  · rfl

/-- A `set` command with a name and a value that holds no reference is read and succeeds. From then
on a reference to the name, in letters of any case, expands to the value, or to the capture if the
name is the digit of one. Names that differ in more than case and the captures are left alone. -/
theorem execute_reads_back (s : Store) (name value : Text) (hne : name ≠ [])
    (hmembers : ∀ c ∈ name, isNamePoint c = true ∨ c = .char '\\')
    (hdigits : startsWithTwoDigits name = false) (hvalue : references value = []) :
    ∃ command after, ofArguments [name, value] = .ok command ∧
      command.execute true s = .ok (some value, after) ∧
      (∀ variant : Text, variant.asciiFold = name.asciiFold →
        expand after (referenceTo variant) =
          (Store.numberedGroup? s.captures name).getD value) ∧
      (∀ other : Text, other.lower ≠ name.lower → after.lookup? other = s.lookup? other) ∧
      after.captures = s.captures := by
  have hall : name.all isNameMember = true :=
    List.all_eq_true.mpr fun c hc => by simpa [isNameMember] using hmembers c hc
  have hname : isName name = true := by simp [isName, hne, hdigits]
  have hexpand : expand s value = value := expand_eq_self s value hvalue
  refine ⟨⟨name, value, [], .empty⟩, s.bind name value, ?_, ?_, ?_, ?_, rfl⟩
  · exact ofArguments_pair (isTag_of_all_isNameMember hall)
  · rw [execute_of_no_modifiers, hexpand]
  · intro variant hvariant
    have hvariantName : isName variant = true := (isName_of_asciiFold hvariant).trans hname
    have hvariantAll := all_isNameMember_of_asciiFold hvariant hall
    have hlower : variant.lower = name.lower := by
      rw [lower_of_all_isNameMember hvariantAll, hvariant, lower_of_all_isNameMember hall]
    -- a variant of the name has the same small letters
    have hlookup : (s.bind name value).lookup? variant = (s.bind name value).lookup? name := by
      rw [Store.lookup?_eq, Store.lookup?_eq, hlower]
    rw [expand_referenceTo _ hvariantName hvariantAll, hlookup,
      Store.lookup?_bind_self s (not_number_of_isName hname hall), lower_of_all_isNameMember hall,
      Store.numberedGroup?_asciiFold]
    rfl
  · intro other hother
    exact s.lookup?_bind_of_ne hother

/-- A name with a backslash and letters of both cases, and a digit of which there is a capture. -/
theorem execute_reads_back_captured :
    let s := (Store.empty.bind "a\\b" "old").capture ["first"]
    (∃ command after, ofArguments ["A\\b", "$\x7b new"] = .ok command ∧
      command.execute true s = .ok (some "$\x7b new", after) ∧
      expand after "$\x7ba\\\\B\x7d" = "$\x7b new" ∧ after.lookup? "1" = some "first") ∧
    ∃ command after, ofArguments ["1", "own"] = .ok command ∧
      command.execute true s = .ok (some "own", after) ∧
      expand after "$\x7b1\x7d" = "first" ∧ after.lookup? "A\\B" = some "old" := by
  intro s
  have hs : s.lookup? "1" = some "first" ∧ s.lookup? "A\\B" = some "old" := by decide
  constructor
  · obtain ⟨command, after, hread, hrun, hback, hother, -⟩ :=
      execute_reads_back s "A\\b" "$\x7b new" (by decide) (by decide) (by decide)
        (by decide +kernel)
    refine ⟨command, after, hread, hrun, ?_, ?_⟩
    · exact hback "a\\B" (by decide)
    · exact (hother "1" (by decide)).trans hs.1
  · obtain ⟨command, after, hread, hrun, hback, hother, -⟩ :=
      execute_reads_back s "1" "own" (by decide) (by decide) (by decide) (by decide +kernel)
    refine ⟨command, after, hread, hrun, ?_, ?_⟩
    · exact hback "1" rfl
    · exact (hother "A\\B" (by decide)).trans hs.2

end SetCommand

end MailFilter
