import Mathlib
import MailFilter.Proofs.Delivery.Exec
import MailFilter.Proofs.Message.Continuation

/-!
# Header fields that are read one by one

An address test reads the values of all its fields as one list. That list is made of the lists of
the single values if each value is complete: if nothing in it is left open, as a quotation, a
comment, an angle bracket or a group without an end would be, that goes on into the next value.

- `Complete`: with a comma and a blank behind it a value is read as it is alone, and the blank is
  left.
- `read_join`: values that are complete are read one by one.
- `AreExpected`: whether the values hold as many addresses as their commas make one expect, without
  which all of them are dropped.
- `map_ofValues_eq_flatMap_iff`: what is read of complete values together is what is read of each of
  them, exactly if each of them that has addresses is kept or dropped as all of them are.
- `AddressPart.textsOf_eq_flatMap`, `Delivery.exec_addressValues_eq_flatMap_iff`: the same of a
  message and of a run.

A value that is left open may take in the next one, and then neither is read:
`Delivery.addressValues_unclosed_quotation`. Nothing is said of the other values that are not
complete; a group without an end, for one, takes in the addresses behind it and keeps them.
-/

namespace MailFilter

namespace AddressList

variable {fuel fuel' : Nat} {t more stop v w : Text} {addresses : List Text}

/-! ## Entries -/

/-- The addresses of an entry. An entry without an address counts as an empty one. -/
def counted (addresses : List Text) : List Text :=
  if addresses.isEmpty then [[]] else addresses

/-- One round of reading entries. -/
theorem readEntries_succ (fuel : Nat) (hne : t ≠ []) :
    readEntries (fuel + 1) t =
      counted (readEntry (2 * t.length + 2) t).1 ++
        readEntries fuel (readEntry (2 * t.length + 2) t).2 := by
  match t with
  | [] => exact absurd rfl hne
  | c :: rest => rfl

@[simp] theorem readEntries_nil (fuel : Nat) : readEntries fuel [] = [] := by
  cases fuel <;> rfl

/-- Fuel beyond what is enough changes nothing. -/
theorem readEntry_eq_of_length_le (h : 2 * t.length ≤ fuel) (h' : 2 * t.length ≤ fuel') :
    readEntry fuel' t = readEntry fuel t := by
  have hmore : readEntry fuel' (t ++ []) = ((readEntry fuel t).1, (readEntry fuel t).2 ++ []) :=
    readEntry_append rfl h (by simpa using h') fun _ => rfl
  rwa [List.append_nil, List.append_nil] at hmore

/-- An entry takes a code point at least, so the length of the text is fuel enough for all entries.
-/
theorem readEntries_eq_of_length_lt (h : t.length < fuel) (h' : t.length < fuel') :
    readEntries fuel' t = readEntries fuel t := by
  induction fuel generalizing fuel' t with
  | zero => exact absurd h (Nat.not_lt_zero _)
  | succ fuel ih =>
    obtain ⟨fuel', rfl⟩ := Nat.exists_eq_succ_of_ne_zero (Nat.ne_zero_of_lt h')
    by_cases hne : t = []
    · rw [hne, readEntries_nil, readEntries_nil]
    · have hlt : (readEntry (2 * t.length + 2) t).2.length < t.length :=
        length_readEntry_lt (Nat.succ_ne_zero _) hne
      rw [readEntries_succ fuel hne, readEntries_succ fuel' hne]
      exact congrArg (counted _ ++ ·) (ih (by omega) (by omega))

/-- A list is its first entry and the rest of it. -/
theorem read_eq_counted_append (hne : t ≠ []) (hfuel : 2 * t.length ≤ fuel) :
    read t = counted (readEntry fuel t).1 ++ read (readEntry fuel t).2 := by
  have hlt : (readEntry (2 * t.length + 2) t).2.length < t.length :=
    length_readEntry_lt (Nat.succ_ne_zero _) hne
  rw [← readEntry_eq_of_length_le hfuel (Nat.le_add_right _ 2), read, readEntries_succ _ hne]
  exact congrArg (counted _ ++ ·) (readEntries_eq_of_length_lt (Nat.lt_succ_self _) hlt)

/-- A blank before a list is passed over. -/
theorem read_cons_blank (hne : t ≠ []) : read (.char ' ' :: t) = read t := by
  have hfill : afterFill (.char ' ' :: t) = afterFill t := rfl
  have hentry : readEntry (2 * (t.length + 1) + 1) (.char ' ' :: t) =
      readEntry (2 * (t.length + 1) + 1) t := by
    rw [readEntry_succ, readEntry_succ, hfill]
  rw [read_eq_counted_append (List.cons_ne_nil _ t) (Nat.le_succ _),
    read_eq_counted_append hne (show 2 * t.length ≤ 2 * (t.length + 1) + 1 by omega)]
  rw [List.length_cons, hentry]

/-! ## Complete values -/

/-- Reads entries until what is left is one text exactly. -/
def readUpTo (stop : Text) : (fuel : Nat) → Text → Option (List Text)
  | 0, _ => none
  | fuel + 1, t =>
    if t = stop then some []
    else
      let (addresses, rest) := readEntry (2 * t.length + 2) t
      (readUpTo stop fuel rest).map (counted addresses ++ ·)

/-- Nothing comes of an empty text, so what is to be left is not reached from it. -/
theorem readUpTo_nil (hstop : stop ≠ []) : readUpTo stop fuel [] = none := by
  induction fuel with
  | zero => rfl
  | succ fuel ih =>
    rw [readUpTo, if_neg (Ne.symm hstop), readEntry_nil]
    dsimp only
    rw [ih]
    rfl

/-- What is read before some point is read alike however the text goes on behind it. -/
theorem read_append_of_readUpTo (hstop : stop ≠ []) (h : readUpTo stop fuel t = some addresses) :
    read (t ++ more) = addresses ++ read (stop ++ more) := by
  induction fuel generalizing t addresses with
  | zero => contradiction
  | succ fuel ih =>
    rw [readUpTo] at h
    by_cases ht : t = stop
    · rw [if_pos ht] at h
      cases h
      rw [ht]
      rfl
    · rw [if_neg ht] at h
      generalize hentry : readEntry (2 * t.length + 2) t = entry at h
      obtain ⟨found, rest⟩ := entry
      obtain ⟨others, hothers, rfl⟩ := Option.map_eq_some_iff.mp h
      -- Nothing comes of an empty text, so something is left behind each of these entries.
      have hrest : rest ≠ [] := by
        rintro rfl
        rw [readUpTo_nil hstop] at hothers
        contradiction
      have hne : t ≠ [] := by
        rintro rfl
        rw [readEntry_nil] at hentry
        cases hentry
        contradiction
      have happend : readEntry (2 * (t ++ more).length) (t ++ more) = (found, rest ++ more) :=
        readEntry_append hentry (by omega) (by simp) fun hnil => absurd hnil hrest
      rw [read_eq_counted_append (by simp [hne]) (Nat.le_refl _), happend, ih hothers,
        List.append_assoc]

/-- With a comma and a blank behind it, a value is read as it is alone, and the blank is left. -/
def Complete (v : Text) : Prop :=
  readUpTo " " (v.length + 3) (v ++ ", ") = some (read v)

instance (v : Text) : Decidable (Complete v) :=
  inferInstanceAs (Decidable (_ = _))

/-- Behind a complete value the others are read as they are without it. -/
theorem Complete.read_append (h : Complete v) (hne : w ≠ []) :
    read (v ++ ", " ++ w) = read v ++ read w := by
  rw [read_append_of_readUpTo (by decide) h]
  exact congrArg (read v ++ ·) (read_cons_blank hne)

theorem join_cons (sep v : Text) {values : List Text} (hne : values ≠ []) :
    Text.join sep (v :: values) = v ++ sep ++ Text.join sep values := by
  obtain ⟨w, rest, rfl⟩ := List.exists_cons_of_ne_nil hne
  exact List.intercalate_cons_cons

theorem join_ne_nil (hw : w ≠ []) (values : List Text) : Text.join ", " (w :: values) ≠ [] := by
  cases values with
  | nil => simpa [Text.join] using hw
  | cons v values =>
    rw [join_cons ", " w (List.cons_ne_nil v values)]
    simp [hw]

/-- Values that are complete are read one by one. The last one may be left open. -/
theorem read_join {values : List Text} (hvalues : ∀ v ∈ values, v ≠ [])
    (hcomplete : ∀ v ∈ values.dropLast, Complete v) :
    read (Text.join ", " values) = values.flatMap read := by
  induction values with
  | nil => rfl
  | cons v values ih =>
    match values with
    | [] => simp [Text.join]
    | w :: values =>
      obtain ⟨-, hothers⟩ := List.forall_mem_cons.mp hvalues
      rw [List.dropLast_cons_cons] at hcomplete
      obtain ⟨hv, hcomplete⟩ := List.forall_mem_cons.mp hcomplete
      have hne : Text.join ", " (w :: values) ≠ [] :=
        join_ne_nil (hothers w List.mem_cons_self) values
      -- a value that is complete stops at its comma, and the others begin with the blank behind it
      rw [join_cons ", " v (List.cons_ne_nil w values), hv.read_append hne, ih hothers hcomplete]
      rfl

/-! ## Plausible values -/

/-- The values hold as many addresses as their commas make one expect. -/
def AreExpected (values : List Text) : Prop :=
  (values.flatMap fun v => read (withBalance v)).length =
    (values.map fun v => expected (withBalance v)).sum

instance (values : List Text) : Decidable (AreExpected values) :=
  inferInstanceAs (Decidable (_ = _))

/-- The addresses in a value that are neither empty nor have a bracket. -/
def held (v : Text) : List Text :=
  (read (withBalance v)).filter fun a => !a.isEmpty && !a.contains (.char '[')

/-- If each value holds as many addresses as expected, so do all of them together. -/
theorem areExpected_of_forall {values : List Text} (h : ∀ v ∈ values, AreExpected [v]) :
    AreExpected values := by
  induction values with
  | nil => rfl
  | cons v values ih =>
    obtain ⟨hv, hothers⟩ := List.forall_mem_cons.mp h
    have hrest := ih hothers
    simp only [AreExpected, List.flatMap_cons, List.flatMap_nil, List.append_nil, List.map_cons,
      List.map_nil, List.sum_cons, List.sum_nil, List.length_append] at *
    omega

/-- Nothing of the values but the last one goes on into the next value, and none is empty. -/
def AreSeparate (values : List Text) : Prop :=
  (∀ v ∈ values, v ≠ []) ∧ ∀ v ∈ (values.map withBalance).dropLast, Complete v

instance (values : List Text) : Decidable (AreSeparate values) :=
  inferInstanceAs (Decidable (_ ∧ _))

/-- What stands for an unbalanced value is not empty. -/
theorem withBalance_ne_nil (hne : v ≠ []) : withBalance v ≠ [] := by
  unfold withBalance
  split_ifs
  · exact hne
  · decide

/-- Separate values are all kept, or all dropped. -/
theorem ofValues_of_areSeparate {values : List Text} (h : AreSeparate values) :
    ofValues values = if AreExpected values then values.flatMap held else [] := by
  have hread : read (Text.join ", " (values.map withBalance)) =
      values.flatMap fun v => read (withBalance v) := by
    have hvalues : ∀ w ∈ values.map withBalance, w ≠ [] :=
      List.forall_mem_map.mpr fun v hv => withBalance_ne_nil (h.1 v hv)
    rw [read_join hvalues h.2, List.flatMap_map]
  have hcount : ((values.map withBalance).map expected).foldl Nat.add 0 =
      (values.map fun v => expected (withBalance v)).sum := by
    rw [List.map_map]
    exact List.sum_eq_foldl.symm
  unfold ofValues
  dsimp only
  rw [hread, hcount]
  change (if AreExpected values then _ else _) = _
  by_cases hexpected : AreExpected values
  · rw [if_pos hexpected, if_pos hexpected, List.filter_flatMap]
    rfl
  · rw [if_neg hexpected, if_neg hexpected]

/-- A single value goes on into no other. -/
theorem ofValues_singleton (hne : v ≠ []) :
    ofValues [v] = if AreExpected [v] then held v else [] := by
  rw [ofValues_of_areSeparate ⟨by simpa using hne, by simp⟩, List.flatMap_singleton]

section

variable {α β : Type} (q : α → Prop) [DecidablePred q] (f : α → List β)

/-- Leaving some out makes nothing longer. -/
theorem length_flatMap_ite_le (l : List α) :
    (l.flatMap fun a => if q a then f a else []).length ≤ (l.flatMap f).length := by
  refine (List.Sublist.flatMap_right l fun a _ => ?_).length_le
  split_ifs
  · exact List.Sublist.refl _
  · exact List.nil_sublist _

/-- Nothing is missing if what is left out was empty. -/
theorem flatMap_eq_flatMap_ite_iff (l : List α) :
    l.flatMap f = (l.flatMap fun a => if q a then f a else []) ↔ ∀ a ∈ l, f a ≠ [] → q a := by
  induction l with
  | nil => simp
  | cons a l ih =>
    rw [List.flatMap_cons, List.flatMap_cons, List.forall_mem_cons]
    by_cases ha : q a
    · rw [if_pos ha, List.append_cancel_left_eq, ih]
      simp [ha]
    · rw [if_neg ha, List.nil_append]
      constructor
      · intro heq
        -- The right side has no elements to make up for those of `f a`.
        have hlen := length_flatMap_ite_le q f l
        rw [← heq, List.length_append] at hlen
        have hnil : f a = [] := List.length_eq_zero_iff.mp (by omega)
        rw [hnil, List.nil_append] at heq
        exact ⟨fun hne => absurd hnil hne, ih.mp heq⟩
      · rintro ⟨hnone, hothers⟩
        have hnil : f a = [] := not_not.mp (mt hnone ha)
        rw [hnil, List.nil_append, ih.mpr hothers]

end

/-- What is read of separate values together is what is read of each of them, exactly if each value
that holds addresses is kept or dropped as all of them are. -/
theorem map_ofValues_eq_flatMap_iff {values : List Text} (h : AreSeparate values)
    (f : Text → Text) :
    (ofValues values).map f = values.flatMap (fun v => (ofValues [v]).map f) ↔
      ∀ v ∈ values, held v ≠ [] → (AreExpected [v] ↔ AreExpected values) := by
  have halone : values.flatMap (fun v => (ofValues [v]).map f) =
      values.flatMap fun v => if AreExpected [v] then (held v).map f else [] := by
    refine List.flatMap_congr fun v hv => ?_
    rw [ofValues_singleton (h.1 v hv)]
    split_ifs <;> rfl
  rw [halone, ofValues_of_areSeparate h]
  -- if all are kept, none may be dropped alone; if all are dropped, none may be kept alone
  by_cases hall : AreExpected values
  · rw [if_pos hall, List.map_flatMap, flatMap_eq_flatMap_ite_iff]
    simp [hall]
  · rw [if_neg hall, List.map_nil, eq_comm, List.flatMap_eq_nil_iff]
    refine forall₂_congr fun v _ => ?_
    by_cases hv : AreExpected [v] <;> simp [hv, hall]

end AddressList

open AddressList

namespace AddressPart

/-- This part of each address that is read of the values of header fields. -/
def ofValues (part : AddressPart) (values : List Text) : List Text :=
  (AddressList.ofValues values).map part.select

/-- What is read of a value on its own is what is read of a message that has this field only. -/
theorem textsOf_singleton (part : AddressPart) (name v : Text) :
    part.textsOf ⟨[⟨name, .ok (.ok v)⟩]⟩ [name] = .ok (part.ofValues [v]) := by
  simp [textsOf, Message.textsOf, Message.values, Message.named, ofValues, Except.mapError,
    Except.map, pure, Except.pure, bind, Except.bind]

/-- Separate values that each hold as many addresses as expected are read one by one. -/
theorem textsOf_eq_flatMap (part : AddressPart) {m : Message} {names values : List Text}
    (h : m.textsOf names = .ok values) (hseparate : AreSeparate values)
    (hexpected : ∀ v ∈ values, AreExpected [v]) :
    part.textsOf m names = .ok (values.flatMap fun v => part.ofValues [v]) := by
  have hall := areExpected_of_forall hexpected
  rw [textsOf, h]
  exact congrArg Except.ok ((map_ofValues_eq_flatMap_iff hseparate part.select).mpr
    fun v hv _ => iff_of_true (hexpected v hv) hall)

end AddressPart

namespace Delivery

open Run

/-- The values of an address test over all names are those of the single fields, one after another,
if nothing of a field goes on into the next one, exactly if each field that holds addresses is kept
or dropped as all of them are. -/
theorem exec_addressValues_eq_flatMap_iff (part : AddressPart) {names values : List Text}
    {e : Surroundings} {s : State}
    (h : e.message.textsOf (names.map (e.expanded s.store)) = .ok values)
    (hseparate : AreSeparate values) :
    exec (addressValues part names) e s =
        (.ok (values.flatMap fun v => part.ofValues [v]), s) ↔
      ∀ v ∈ values, held v ≠ [] → (AreExpected [v] ↔ AreExpected values) := by
  rw [exec_addressValues, AddressPart.textsOf, h,
    ← map_ofValues_eq_flatMap_iff hseparate part.select]
  constructor
  · intro heq
    exact Except.ok.inj (Prod.mk.inj heq).1
  · intro heq
    exact congrArg (fun texts => (Except.ok texts, s)) heq

/-- A name with a comma, a comment, a group, and two fields of one name. -/
theorem exec_addressValues_eq_flatMap_iff_group :
    let values : List Text := ["\"Doe, Jane\" <jane@x.org>, (at home) bob@y.net", "eve@z.org",
      "Team: ann@x.org, tom@y.net;"]
    let message := Message.ofValues [("to", "\"Doe, Jane\" <jane@x.org>, (at home) bob@y.net"),
      ("Cc", "Team: ann@x.org, tom@y.net;"), ("To", "eve@z.org")]
    message.textsOf ["To", "Cc"] = .ok values ∧ AreSeparate values ∧
      exec (addressValues .domain ["To", "Cc"]) ⟨message, false⟩ default =
        (.ok ["x.org", "y.net", "z.org", "x.org", "y.net"], default) := by
  intro values message
  have hvalues : message.textsOf ["To", "Cc"] = .ok values := rfl
  have hseparate : AreSeparate values := by decide +kernel
  have hkept : ∀ v ∈ values, held v ≠ [] → (AreExpected [v] ↔ AreExpected values) := by
    decide +kernel
  have halone : (values.flatMap fun v => AddressPart.domain.ofValues [v]) =
      (["x.org", "y.net", "z.org", "x.org", "y.net"] : List Text) := by decide +kernel
  refine ⟨hvalues, hseparate, ?_⟩
  rw [(exec_addressValues_eq_flatMap_iff .domain hvalues hseparate).mpr hkept, halone]

/-- A quotation without an end goes on into the next field, and no address is left of either. -/
theorem addressValues_unclosed_quotation :
    let message := Message.ofValues [("To", "\"Bob"), ("Cc", "ann@x.org")]
    exec (addressValues .all ["To", "Cc"]) ⟨message, false⟩ default = (.ok [], default) ∧
      AddressPart.all.ofValues ["\"Bob"] ++ AddressPart.all.ofValues ["ann@x.org"] =
        (["Bob", "ann@x.org"] : List Text) := by
  intro message
  have hvalues : message.textsOf ["To", "Cc"] = .ok ["\"Bob", "ann@x.org"] := rfl
  have hnone : AddressPart.all.ofValues ["\"Bob", "ann@x.org"] = [] := by decide +kernel
  refine ⟨?_, by decide +kernel⟩
  rw [← hnone]
  exact (exec_addressValues .all ["To", "Cc"] ⟨message, false⟩ default).trans
    (congrArg (fun texts => (Except.map AddressPart.all.ofValues texts, default)) hvalues)

end Delivery

end MailFilter
