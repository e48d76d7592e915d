import MailFilter.Proofs.Template.Lookups

/-!
# Boundaries

Where two texts are joined, a reference may arise that neither of them holds: it begins in the first
one and is closed in the second one. Then the first text ends with a code point that may stand in a
reference before its closing brace. Behind any other code point nothing that has begun goes on, and
the two texts are expanded one by one, whatever was left open in the first one.

- `Template.mayGoOn`: the code points behind which a reference may go on.
- `Template.Closed`: a text that ends with none of them.
- `Template.reference?_append`, `Template.head_append`: one step of the scanner in the first text
  does not look at the second one.
- `Template.expandM_append`: the same of the whole scan, which asks for values on its way.
- `Template.expand_append_of_closed`: expansion splits behind every closed text; behind each of the
  other code points it does not always.
-/

namespace MailFilter

namespace Template

/-- Whether a reference may go on behind a code point: one of a name, a backslash, or one of the two
of a marker. -/
def mayGoOn (c : CodePoint) : Bool :=
  isNamePoint c || c = .char '\\' || c = .char '$' || c = .char '{'

/-- Nothing goes on behind the text: it is empty, or ends with another code point. -/
def Closed (t : Text) : Prop :=
  ∀ c ∈ t.getLast?, mayGoOn c = false

/-- The last code point alone decides whether a text is closed. -/
theorem closed_append_singleton {front : Text} {c : CodePoint} (h : mayGoOn c = false) :
    Closed (front ++ [c]) := by
  intro d hd
  rw [List.getLast?_concat] at hd
  obtain rfl := Option.some.inj hd
  exact h

/-- The rest of a closed text is closed. -/
theorem Closed.of_suffix {a t : Text} (h : Closed t) (hsuffix : a <:+ t) : Closed a := by
  obtain ⟨front, rfl⟩ := hsuffix
  exact fun c hc => h c (List.mem_getLast?_append_of_mem_getLast? hc)

/-- What is all made of code points behind which a reference may go on has no closed beginning. -/
theorem Closed.eq_nil_of_isPrefix {a t : Text} (h : Closed a) (ht : ∀ c ∈ t, mayGoOn c = true)
    (hbegins : a <+: t) : a = [] := by
  by_contra hne
  have hlast := h _ (List.getLast?_eq_some_getLast hne)
  rw [ht _ (hbegins.subset (List.getLast_mem hne))] at hlast
  contradiction

/-! ## Steps of the scan -/

/-- A reference may go on behind every code point of a spelling. -/
theorem Spells.mayGoOn {body name : Text} (h : Spells body name) :
    ∀ c ∈ body, mayGoOn c = true := by
  induction h with
  | nil => exact List.forall_mem_nil _
  | plain hc _ ih => exact List.forall_mem_cons.mpr ⟨by simp [Template.mayGoOn, hc], ih⟩
  | escaped hc _ ih =>
    exact List.forall_mem_cons.mpr
      ⟨by decide, List.forall_mem_cons.mpr ⟨by simp [Template.mayGoOn, hc], ih⟩⟩
  | backslash _ ih =>
    exact List.forall_mem_cons.mpr ⟨by decide, List.forall_mem_cons.mpr ⟨by decide, ih⟩⟩

/-- A text that begins with a reference: marker, body and brace. -/
theorem reference?_eq_some_iff {t name after : Text} :
    reference? t = some (name, after) ↔
      ∃ body, Spells body name ∧ isName name = true ∧
        t = (marker ++ body) ++ .char '}' :: after := by
  constructor
  · intro h
    unfold reference? at h
    split at h
    · obtain ⟨body, hbody, hname, rfl⟩ := readReference?_eq_some_iff.mp h
      exact ⟨body, hbody, hname, rfl⟩
    · contradiction
  · rintro ⟨body, hbody, hname, rfl⟩
    exact readReference?_eq_some_iff.mpr ⟨body, hbody, hname, rfl⟩

/-- A text that is closed and not empty begins with the same reference whatever follows it, or with
none: the code points before the brace cannot end it. -/
theorem reference?_append {a : Text} (h : Closed a) (ha : a ≠ []) (b : Text) :
    reference? (a ++ b) = (reference? a).map fun (name, after) => (name, after ++ b) := by
  cases hown : reference? a with
  | some found =>
    obtain ⟨name, after⟩ := found
    obtain ⟨body, hbody, hname, rfl⟩ := reference?_eq_some_iff.mp hown
    exact reference?_eq_some_iff.mpr ⟨body, hbody, hname, by simp⟩
  | none =>
    refine Option.eq_none_iff_forall_ne_some.mpr fun ⟨name, after⟩ hjoined => ?_
    obtain ⟨body, hbody, hname, heq⟩ := reference?_eq_some_iff.mp hjoined
    have hopen : ∀ c ∈ marker ++ body, mayGoOn c = true :=
      List.forall_mem_append.mpr ⟨by decide, hbody.mayGoOn⟩
    -- the first text goes past the body, and with it past the brace
    obtain ⟨more, hmore, -⟩ | ⟨more, rfl, hmore⟩ := List.append_eq_append_iff.mp heq
    · exact ha (h.eq_nil_of_isPrefix hopen ⟨more, hmore.symm⟩)
    · cases more with
      | nil => exact ha (h.eq_nil_of_isPrefix hopen ⟨[], by simp⟩)
      | cons c rest =>
        obtain ⟨rfl, -⟩ := List.cons.inj hmore
        have hfound : reference? (marker ++ body ++ .char '}' :: rest) = some (name, rest) :=
          reference?_eq_some_iff.mpr ⟨body, hbody, hname, rfl⟩
        rw [hfound] at hown
        contradiction

/-- What is known of a text and another one behind it, from what is known of the first one. -/
def Head.followedBy (b : Text) : Head → Head
  | .reference name after => .reference name (after ++ b)
  | .literal c after => .literal c (after ++ b)
  | .ended => head b

/-- A closed text decides its first step itself. -/
theorem head_append {a : Text} (h : Closed a) (b : Text) : head (a ++ b) = (head a).followedBy b := by
  cases a with
  | nil => rfl
  | cons c rest =>
    rw [List.cons_append, head, head]
    by_cases hback : c = .char '\\'
    · -- a closed text does not end with the backslash, so there is something behind it
      have hrest : rest ≠ [] := by
        rintro rfl
        exact absurd (h c rfl) (by rw [hback]; decide)
      rw [if_pos hback, if_pos hback, reference?_append (h.of_suffix (List.suffix_cons c rest)) hrest]
      cases reference? rest <;> rfl
    · rw [if_neg hback, if_neg hback, ← List.cons_append,
        reference?_append h (List.cons_ne_nil c rest)]
      cases reference? (c :: rest) <;> rfl

/-- What stands behind a reference is the rest of the text. -/
theorem suffix_of_head_reference {t name after : Text} (h : head t = .reference name after) :
    after <:+ t := by
  unfold head at h
  split at h
  · contradiction
  · next c rest =>
    split at h
    · next n a href =>
      obtain ⟨-, rfl⟩ := Head.reference.injEq .. ▸ h
      split at href
      · exact (suffix_of_reference? href).trans (List.suffix_cons c rest)
      · exact suffix_of_reference? href
    · contradiction

/-- So is what stands behind a literal. -/
theorem suffix_of_head_literal {t after : Text} {c : CodePoint} (h : head t = .literal c after) :
    after <:+ t := by
  rw [eq_cons_of_head_literal h]
  exact List.suffix_cons c after

/-! ## The whole scan -/

/-- Expanding both texts at once is expanding one after the other: the values that the first one
needs are asked for before those that the second one needs. -/
theorem expandM_append {m : Type → Type} [Monad m] [LawfulMonad m] (lookup : Text → m (Option Text))
    {a : Text} (h : Closed a) (b : Text) :
    expandM lookup (a ++ b) = do
      let first ← expandM lookup a
      return first ++ (← expandM lookup b) := by
  -- what the scanner has not read yet is closed as well
  fun_induction references a with
  | case1 a hh =>
    rw [expandM_of_ended hh, pure_bind, eq_nil_of_head_ended hh]
    exact (bind_pure _).symm
  | case2 a name after hh ih =>
    have hjoined := head_append h b
    rw [hh] at hjoined
    rw [expandM_of_reference hjoined, expandM_of_reference hh,
      ih (h.of_suffix (suffix_of_head_reference hh))]
    simp only [bind_assoc, pure_bind, List.append_assoc]
  | case3 a c after hh ih =>
    have hjoined := head_append h b
    rw [hh] at hjoined
    rw [expandM_of_literal hjoined, expandM_of_literal hh,
      ih (h.of_suffix (suffix_of_head_literal hh))]
    simp only [bind_assoc, pure_bind, List.cons_append]

/-- A closed text is expanded on its own, with the values it asks for first. -/
theorem expand_append (store : Store) {a : Text} (h : Closed a) (b : Text) :
    expand store (a ++ b) = expand store a ++ expand store b ∧
      references (a ++ b) = references a ++ references b := by
  have hjoined := run_expandM_noting store (a ++ b) []
  rw [expandM_append (noting store) h b, StateT.run_bind, run_expandM_noting] at hjoined
  have hparts : ((do
      let rest ← (expandM (noting store) b).run ([] ++ references a)
      pure (expand store a ++ rest.1, rest.2) : Id (Text × List Text))) = _ := hjoined
  rw [run_expandM_noting] at hparts
  obtain ⟨hexpand, hreferences⟩ := Prod.mk.inj hparts
  exact ⟨hexpand.symm, hreferences.symm⟩

/-! ## References that go across -/

/-- A reference at the beginning is the first one. -/
theorem references_of_reference {t name after : Text} (h : head t = .reference name after) :
    references t = name :: references after := by
  rw [references]
  split <;> simp_all

/-- A reference holds a dollar sign and a closing brace. -/
theorem references_eq_nil_of_not_mem {t : Text} (h : .char '$' ∉ t ∨ .char '}' ∉ t) :
    references t = [] := by
  rw [← List.drop_zero (l := t), references_drop]
  refine List.filterMap_eq_nil_iff.mpr fun i _ => Option.map_eq_none_iff.mpr ?_
  refine Option.eq_none_iff_forall_ne_some.mpr fun ⟨name, stop⟩ hsite => ?_
  obtain ⟨body, -, -, hdrop⟩ := drop_of_siteAt? hsite
  have hmem : ∀ c ∈ t.drop i, c ∈ t := fun c hc => List.mem_of_mem_drop hc
  rw [hdrop] at hmem
  exact h.elim (fun hdollar => hdollar (hmem _ (by simp))) fun hbrace => hbrace (hmem _ (by simp))

/-- A text that begins with a reference begins with no backslash. -/
theorem head_of_reference? {t name after : Text} (h : reference? t = some (name, after)) :
    head t = .reference name after := by
  obtain ⟨body, -, -, hshape⟩ := reference?_eq_some_iff.mp h
  have hdollar : t = .char '$' :: (.char '{' :: body ++ .char '}' :: after) := hshape
  rw [hdollar] at h ⊢
  rw [head, if_neg (by decide), h]

/-- A reference that begins in the first of two texts and is closed in the second one is a reference
of neither. -/
theorem references_append_ne {front rest body name : Text} {c : CodePoint} (hbody : Spells body name)
    (hname : isName name = true) (hjoined : front ++ c :: rest = marker ++ body ++ [.char '}'])
    (hfront : .char '}' ∉ front ++ [c]) (hrest : .char '$' ∉ rest) :
    references (front ++ c :: rest) ≠ references (front ++ [c]) ++ references rest := by
  rw [references_eq_nil_of_not_mem (.inr hfront), references_eq_nil_of_not_mem (.inl hrest), hjoined,
    references_of_reference
      (head_of_reference? (reference?_eq_some_iff.mpr ⟨body, hbody, hname, rfl⟩))]
  exact List.cons_ne_nil _ _

/-- Behind each code point of a marker, a name or an escape a reference goes on in some text. -/
theorem exists_references_append_ne {c : CodePoint} (h : mayGoOn c = true) :
    ∃ front rest, references (front ++ c :: rest) ≠ references (front ++ [c]) ++ references rest := by
  simp only [mayGoOn, Bool.or_eq_true, decide_eq_true_eq] at h
  have ha : Spells "a" "a" := .plain (by decide) .nil
  -- one of a name, a backslash, a dollar sign or an opening brace: the text is cut behind it
  obtain ((hc | rfl) | rfl) | rfl := h
  · have hname : isName [c, .char 'a'] = true := by
      simp [isName, startsWithTwoDigits, CodePoint.isDigit]
    have hbrace : c ≠ .char '}' := by rintro rfl; exact absurd hc (by decide)
    refine ⟨marker, "a\x7d", references_append_ne (.plain hc ha) hname rfl ?_ (by decide)⟩
    simp [marker, hbrace.symm]
  · have hescaped : Spells "\\a" "a" := .escaped (by decide) .nil
    exact ⟨marker, "a\x7d", references_append_ne hescaped (by decide) rfl (by decide) (by decide)⟩
  · exact ⟨[], "\x7ba\x7d", references_append_ne ha (by decide) rfl (by decide) (by decide)⟩
  · exact ⟨"$", "a\x7d", references_append_ne ha (by decide) rfl (by decide) (by decide)⟩

/-- Where the first of two texts is closed, they are expanded one by one, and so are their references
listed. A closing brace or a blank closes a text, however many names were left open and whatever
escapes stand before it. Behind every other last code point a reference may go on that neither of the
two texts holds. -/
theorem expand_append_of_closed :
    (∀ (store : Store) (a b : Text), Closed a →
      expand store (a ++ b) = expand store a ++ expand store b ∧
        references (a ++ b) = references a ++ references b) ∧
    (∀ (store : Store) (front b : Text) (c : CodePoint), c = .char '}' ∨ c = .char ' ' →
      expand store (front ++ c :: b) = expand store (front ++ [c]) ++ expand store b ∧
        references (front ++ c :: b) = references (front ++ [c]) ++ references b) ∧
    ∀ c, mayGoOn c = true → ∃ front rest,
      references (front ++ c :: rest) ≠ references (front ++ [c]) ++ references rest := by
  refine ⟨fun store a b ha => expand_append store ha b, fun store front b c hc => ?_,
    fun c => exists_references_append_ne⟩
  have hclosed : Closed (front ++ [c]) :=
    closed_append_singleton (by rcases hc with rfl | rfl <;> decide)
  have hjoined : front ++ c :: b = (front ++ [c]) ++ b := List.append_cons ..
  rw [hjoined]
  exact expand_append store hclosed b

/-- The first text leaves two names open and ends with an escaped blank, the second one begins with a
letter and the brace. -/
theorem expand_append_of_closed_unclosed :
    let store := (Store.empty.bind "a" "1").bind "b" "2"
    let a : Text := "$\x7ba$\x7b\\ "
    let b : Text := "b\x7d$\x7bA\x7d"
    Closed a ∧ expand store (a ++ b) = ("$\x7ba$\x7b\\ b\x7d1" : Text) ∧
      references (a ++ b) = (["A"] : List Text) ∧
      expand store (("$\x7ba\x7d" : Text) ++ .char '}' :: b) = ("1\x7db\x7d1" : Text) ∧
      mayGoOn (.char 'a') = true ∧ ∃ front rest : Text,
        references (front ++ .char 'a' :: rest) ≠
          references (front ++ [.char 'a']) ++ references rest := by
  intro store a b
  obtain ⟨hsplit, hbrace, hacross⟩ := expand_append_of_closed
  have hclosed : Closed a := by
    intro c hc
    obtain rfl := Option.some.inj hc
    decide
  have hleft : expand store a = a := by
    rw [expand, expandWith_eq_substitute]
    decide
  have hright : expand store b = ("b\x7d1" : Text) := by
    rw [expand, expandWith_eq_substitute]
    decide
  have hvalue : expand store ("$\x7ba\x7d\x7d" : Text) = ("1\x7d" : Text) := by
    rw [expand, expandWith_eq_substitute]
    decide
  have hnames : references a ++ references b = (["A"] : List Text) := by
    rw [← List.drop_zero (l := a), ← List.drop_zero (l := b), references_drop, references_drop]
    decide
  obtain ⟨hexpand, hreferences⟩ := hsplit store a b hclosed
  obtain ⟨hbehind, -⟩ := hbrace store "$\x7ba\x7d" b (.char '}') (.inl rfl)
  refine ⟨hclosed, ?_, hreferences.trans hnames, ?_, by decide, hacross (.char 'a') (by decide)⟩
  · rw [hexpand, hleft, hright]
    rfl
  · rw [hbehind, hright]
    exact congrArg (· ++ _) hvalue

end Template

end MailFilter
