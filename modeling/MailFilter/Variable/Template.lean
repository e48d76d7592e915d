import MailFilter.Variable.Store

/-!
# Templates

A text may refer to variables as `$` and a name in braces. Expansion puts the value of each
variable in place of its reference, and nothing in place of a reference to an unbound name. What
was put in is not looked at again.

Inside the braces stand letters, digits, `_` and `.`; a backslash may precede any of them, and
precedes a backslash that belongs to the name. A name is not empty and does not begin with two
digits. Where no reference can be read the text stands for itself, and reading goes on one code
point later. A backslash directly before a reference is dropped.

- `Template.readName?`: reads a name up to its closing brace.
- `Template.readReference?`: reads a reference behind its marker.
- `Template.expand`: the text with values in place of references.
- `Template.references`: the names of all references.
- `Template.expand_eq_self`: a text without references stands for itself.
-/

namespace MailFilter

namespace Template

/-- Allowed in a name without a backslash that stays in it. -/
def isNamePoint (c : CodePoint) : Bool :=
  c.isAlphanum || c = .char '_' || c = .char '.'

/-- Reads a name up to its closing brace: the name without its escaping backslashes, and what
follows the brace. -/
def readName? : Text → Option (Text × Text)
  | [] => none
  | .char '}' :: rest => some ([], rest)
  | .char '\\' :: c :: rest =>
    if c = .char '\\' || isNamePoint c then
      (readName? rest).map fun (name, after) => (c :: name, after)
    else none
  | c :: rest =>
    if isNamePoint c then (readName? rest).map fun (name, after) => (c :: name, after) else none

/-- Whether a name begins with two digits. -/
def startsWithTwoDigits : Text → Bool
  | c :: d :: _ => c.isDigit && d.isDigit
  | _ => false

/-- A name that a reference may have. -/
def isName (name : Text) : Bool :=
  !name.isEmpty && !startsWithTwoDigits name

/-- Reads a reference of which the marker has been read: its name, and what follows it. -/
def readReference? (t : Text) : Option (Text × Text) :=
  (readName? t).filter fun (name, _) => isName name

/-- Reads the reference whose marker stands at a position: its name, and the position behind it. -/
def referenceAt? (t : Text) (start : Nat) : Option (Text × Nat) :=
  (readReference? (t.drop (start + 2))).map fun (name, after) => (name, t.length - after.length)

theorem length_readName? {t name after : Text} (h : readName? t = some (name, after)) :
    after.length < t.length := by
  fun_induction readName? t generalizing name after with
  | case1 => simp at h
  | case2 rest =>
    obtain ⟨-, rfl⟩ := Prod.mk.injEq .. ▸ Option.some.injEq .. ▸ h
    simp
  | case3 c rest _ ih =>
    obtain ⟨⟨n, a⟩, hr, hp⟩ := Option.map_eq_some_iff.mp h
    obtain ⟨-, rfl⟩ := Prod.mk.injEq .. ▸ hp
    have := ih hr
    simp only [List.length_cons]
    omega
  | case4 => simp at h
  | case5 c rest _ _ _ ih =>
    obtain ⟨⟨n, a⟩, hr, hp⟩ := Option.map_eq_some_iff.mp h
    obtain ⟨-, rfl⟩ := Prod.mk.injEq .. ▸ hp
    have := ih hr
    simp only [List.length_cons]
    omega
  | case6 => simp at h

theorem length_readReference? {t name after : Text} (h : readReference? t = some (name, after)) :
    after.length < t.length :=
  length_readName? (Option.filter_eq_some_iff.mp h).1

/-- What is known of a text at its beginning. -/
inductive Head where
  /-- A reference, with a backslash before it or not, and what follows it. -/
  | reference (name after : Text)
  /-- A code point that stands for itself, and what follows it. -/
  | literal (c : CodePoint) (after : Text)
  | ended
  deriving DecidableEq

/-- Reads the reference that the text begins with. -/
def reference? : Text → Option (Text × Text)
  | .char '$' :: .char '{' :: rest => readReference? rest
  | _ => none

/-- Reads a reference or a code point. -/
def head : Text → Head
  | [] => .ended
  | c :: rest =>
    -- a backslash belongs to the reference behind it, and else it stands for itself
    match if c = .char '\\' then reference? rest else reference? (c :: rest) with
    | some (name, after) => .reference name after
    | none => .literal c rest

theorem length_reference? {t name after : Text} (h : reference? t = some (name, after)) :
    after.length < t.length := by
  unfold reference? at h
  split at h
  · have := length_readReference? h
    simp only [List.length_cons]
    omega
  · simp at h

theorem length_head_reference {t name after : Text} (h : head t = .reference name after) :
    after.length < t.length := by
  unfold head at h
  split at h
  · contradiction
  · next c rest =>
    split at h
    · next n a hr =>
      obtain ⟨-, rfl⟩ := Head.reference.injEq .. ▸ h
      split at hr
      · have := length_reference? hr
        simp only [List.length_cons]
        omega
      · exact length_reference? hr
    · contradiction

theorem length_head_literal {t after : Text} {c : CodePoint} (h : head t = .literal c after) :
    after.length < t.length := by
  unfold head at h
  split at h
  · contradiction
  · split at h
    · contradiction
    · obtain ⟨-, rfl⟩ := Head.literal.injEq .. ▸ h
      simp

/-- Puts values in place of references. -/
def expandWith (value : Text → Text) (t : Text) : Text :=
  match _h : head t with
  | .ended => []
  | .reference name after => value name ++ expandWith value after
  | .literal c after => c :: expandWith value after
termination_by t.length
decreasing_by
  · exact length_head_reference _h
  · exact length_head_literal _h

/-- The text with the value of each variable in place of its reference. -/
def expand (store : Store) (t : Text) : Text :=
  expandWith (fun name => (store.lookup? name).getD []) t

/-- The names of all references, in order. -/
def references (t : Text) : List Text :=
  match _h : head t with
  | .ended => []
  | .reference name after => name :: references after
  | .literal _ after => references after
termination_by t.length
decreasing_by
  · exact length_head_reference _h
  · exact length_head_literal _h

/-! ## Laws -/

theorem eq_cons_of_head_literal {t after : Text} {c : CodePoint} (h : head t = .literal c after) :
    t = c :: after := by
  unfold head at h
  split at h
  · contradiction
  · split at h
    · contradiction
    · obtain ⟨rfl, rfl⟩ := Head.literal.injEq .. ▸ h
      rfl

theorem eq_nil_of_head_ended {t : Text} (h : head t = .ended) : t = [] := by
  unfold head at h
  split at h
  · rfl
  · split at h <;> contradiction

/-- A text without references stands for itself. -/
theorem expandWith_eq_self (value : Text → Text) (t : Text) (h : references t = []) :
    expandWith value t = t := by
  fun_induction references t with
  | case1 t hh => rw [expandWith]; split <;> simp_all [eq_nil_of_head_ended hh]
  | case2 => contradiction
  | case3 t c after hh ih =>
    have shape := eq_cons_of_head_literal hh
    rw [expandWith]
    split
    · simp_all
    · simp_all
    · next c' after' hh' =>
      obtain ⟨rfl, rfl⟩ := Head.literal.injEq .. ▸ (hh.symm.trans hh')
      rw [ih h, shape]

/-- A text without references stands for itself, whatever is bound. -/
theorem expand_eq_self (store : Store) (t : Text) (h : references t = []) :
    expand store t = t :=
  expandWith_eq_self _ t h

/-- Expansion looks at nothing but the values of the names that are referred to. -/
theorem expandWith_congr {value other : Text → Text} (t : Text)
    (h : ∀ name ∈ references t, value name = other name) :
    expandWith value t = expandWith other t := by
  fun_induction references t with
  | case1 t hh => rw [expandWith, expandWith]; split <;> simp_all
  | case2 t name after hh ih =>
    rw [expandWith, expandWith]
    split
    · simp_all
    · next n a hh' =>
      obtain ⟨rfl, rfl⟩ := Head.reference.injEq .. ▸ (hh.symm.trans hh')
      rw [h name List.mem_cons_self, ih fun n hn => h n (List.mem_cons_of_mem _ hn)]
    · simp_all
  | case3 t c after hh ih =>
    rw [expandWith, expandWith]
    split
    · simp_all
    · simp_all
    · next c' after' hh' =>
      obtain ⟨rfl, rfl⟩ := Head.literal.injEq .. ▸ (hh.symm.trans hh')
      rw [ih h]

end Template

end MailFilter
