import Mathlib
import MailFilter.Files.TextFile
import MailFilter.Proofs.Text.Utf8
import MailFilter.Proofs.Yaml.Printed
import MailFilter.Yaml.Format

/-!
# What documents are written in

A document is written in printable ASCII and line feeds, whatever its values are: the tags of values
have short names, and octets are written in base64. So a file with a written document is read as it
was written.

- `Node.IsPrinted`: the nodes that can be written so.
- `Node.isPrinted_write`: they are written so.
- `Node.numbers_ofDatum`: the nodes of values are such nodes.
- `printed_of_write`: every document is written in printable ASCII and line feeds.
- `DocumentFormat.WritesPrinted`: a format in which documents are written so.
- `DocumentFormat.WritesPrinted.readText_of_write`: in such a format a document is read from a file as
  it was written.
-/

namespace MailFilter

namespace Yaml

/-! ## Nodes -/

/-- Every tag that has a short name is printable. -/
theorem printed_shown (tag : Tag) (h : ∀ name, tag ≠ .unknown name) : Printed tag.shown := by
  cases tag with
  | unknown name => exact absurd rfl (h name)
  | _ => exact printed_of_all (by decide)

/-- Names of nodes are letters and digits. -/
theorem printed_nameOf? {anchors : Anchors} {id : Nat} {name : Text}
    (h : anchors.nameOf? id = some name) : Printed name := by
  obtain ⟨n, -, rfl⟩ := Option.map_eq_some_iff.mp h
  exact (printed_of_all (by decide)).append (printed_padded 3 (n + 1))

namespace Node

mutual

/-- A node that can be written in printable ASCII: its tags can, and the digits of its octets. -/
def IsPrinted : Node → Prop
  | .scalar _ tag t => Printed tag.shown ∧ (tag = .octets → Printed t)
  | .mention _ => True
  | .sequence _ tag items => Printed tag.shown ∧ ArePrinted items
  | .mapping _ tag entries => Printed tag.shown ∧ AreEntriesPrinted entries

/-- Items that can be written so. -/
def ArePrinted : List Node → Prop
  | [] => True
  | n :: rest => n.IsPrinted ∧ ArePrinted rest

/-- Entries that can be written so. -/
def AreEntriesPrinted : List (Node × Node) → Prop
  | [] => True
  | (k, v) :: rest => k.IsPrinted ∧ v.IsPrinted ∧ AreEntriesPrinted rest

end

section Write

variable {p : Page} (anchors : Anchors) (column : Nat)

/-- The name of a node that is mentioned elsewhere is printable. -/
theorem isPrinted_writeName (hp : p.IsPrinted) (id : Nat) : (writeName anchors id p).IsPrinted := by
  unfold writeName
  split
  · next name hname => exact hp.mark (.cons (by decide) (printed_nameOf? hname))
  · exact hp

/-- So is what stands in front of a collection, its name and its tag. -/
theorem isPrinted_writeHead (hp : p.IsPrinted) {tag : Tag} (htag : Printed tag.shown)
    (common : Tag) (id : Nat) : (writeHead anchors common id tag p).IsPrinted := by
  have hname := isPrinted_writeName anchors hp id
  unfold writeHead
  dsimp only
  split
  · exact hname
  · exact hname.mark htag

/-- A scalar is its name, its tag if the style does not tell it, and its text. -/
theorem isPrinted_writeScalar (hp : p.IsPrinted) {tag : Tag} {t : Text} (htag : Printed tag.shown)
    (htext : tag = .octets → Printed t) (folds : Bool) (id : Nat) :
    (writeScalar anchors column folds id tag t p).IsPrinted := by
  have hname := isPrinted_writeName anchors hp id
  unfold writeScalar
  dsimp only
  split
  · exact (hname.mark htag).writeScalar htext _ folds
  · exact hname.writeScalar htext _ folds

mutual

/-- A node is written in printable ASCII wherever it stands. -/
theorem isPrinted_write : ∀ {n : Node}, n.IsPrinted → ∀ (column : Nat) (isValue folds : Bool)
    {p : Page}, p.IsPrinted → (write anchors column isValue folds n p).IsPrinted
  | .mention id, _, _, _, _, _, hp => by
    unfold write
    refine hp.mark (.cons (by decide) ?_)
    cases hname : anchors.nameOf? id with
    | some name => exact printed_nameOf? hname
    | none => exact .nil
  | .scalar id tag t, hn, column, _, folds, _, hp => by
    unfold IsPrinted at hn
    unfold write
    exact isPrinted_writeScalar anchors column hp hn.1 hn.2 folds id
  | .sequence id tag items, hn, column, isValue, _, _, hp => by
    unfold IsPrinted at hn
    have hhead := isPrinted_writeHead anchors hp hn.1 .list id
    unfold write
    dsimp only
    split
    · exact hhead.mark (printed_of_all (by decide))
    · exact isPrinted_writeItems hn.2 _ hhead
  | .mapping id tag entries, hn, column, _, _, _, hp => by
    unfold IsPrinted at hn
    have hhead := isPrinted_writeHead anchors hp hn.1 .map id
    unfold write
    dsimp only
    split
    · exact hhead.mark (printed_of_all (by decide))
    · exact isPrinted_writeEntries hn.2 _ hhead

/-- Items are written in printable ASCII. -/
theorem isPrinted_writeItems : ∀ {items : List Node}, ArePrinted items → ∀ (column : Nat)
    {p : Page}, p.IsPrinted → (writeItems anchors column items p).IsPrinted
  | [], _, _, _, hp => by
    unfold writeItems
    exact hp
  | n :: rest, hitems, column, _, hp => by
    unfold ArePrinted at hitems
    unfold writeItems
    have hbullet := (hp.indent column).bullet (t := "-") (printed_of_all (by decide))
    exact isPrinted_writeItems hitems.2 column
      (isPrinted_write hitems.1 column false true hbullet)

/-- Entries are written in printable ASCII. -/
theorem isPrinted_writeEntries : ∀ {entries : List (Node × Node)}, AreEntriesPrinted entries →
    ∀ (column : Nat) {p : Page}, p.IsPrinted → (writeEntries anchors column entries p).IsPrinted
  | [], _, _, _, hp => by
    unfold writeEntries
    exact hp
  | (k, v) :: rest, hentries, column, _, hp => by
    unfold AreEntriesPrinted at hentries
    obtain ⟨hkey, hvalue, hrest⟩ := hentries
    have hmark : ∀ t ∈ [(":" : Text), "?"], Printed t := by
      intro t ht
      exact printed_of_all (by revert t; decide)
    unfold writeEntries
    dsimp only
    refine isPrinted_writeEntries hrest column (isPrinted_write hvalue column true true ?_)
    split
    · exact (isPrinted_write hkey column true false (hp.indent column)).closing (hmark ":" (by decide))
    · have hquestion := (hp.indent column).bullet (hmark "?" (by decide))
      exact ((isPrinted_write hkey column true true hquestion).indent column).bullet
        (hmark ":" (by decide))

end

end Write

/-! ## Nodes of values -/

section OfDatum

variable {α β : Type} {P : α → Prop} {R : β → Prop}

/-- Whatever has been numbered before, the answer has a property. -/
def Numbers (P : α → Prop) (m : StateM Numbering α) : Prop :=
  ∀ s, P (m.run s).1

theorem Numbers.pure {a : α} (h : P a) : Numbers P (Pure.pure a) :=
  fun _ => h

/-- What is numbered later may build on what was numbered before. -/
theorem Numbers.bind {m : StateM Numbering α} {f : α → StateM Numbering β} (hm : Numbers P m)
    (hf : ∀ a, P a → Numbers R (f a)) : Numbers R (m >>= f) :=
  fun s => hf (m.run s).1 (hm s) (m.run s).2

/-- What is shared is mentioned, or has a node of its own. -/
theorem Numbers.known {shared : Option Nat} {m : Nat → StateM Numbering Node}
    (hm : ∀ id, Numbers IsPrinted (m id)) :
    Numbers IsPrinted (do
      match ← known? shared with
      | some id => return .mention id
      | none => m (← number shared)) := by
  refine Numbers.bind (P := fun _ => True) (fun _ => trivial) fun known _ => ?_
  cases known with
  | some id => exact .pure trivial
  | none => exact Numbers.bind (P := fun _ => True) (fun _ => trivial) fun id _ => hm id

/-- The digits of base64 are printable. -/
theorem isPrinted_base64 (n : Nat) : isPrinted (CodePoint.ofNat (Base64.digit n).toNat) = true := by
  have hsmall : ∀ n < 64, isPrinted (CodePoint.ofNat (Base64.digit n).toNat) = true := by decide
  by_cases hn : n < 64
  · exact hsmall n hn
  · have hlast : Base64.digit n = Base64.digit 63 := by
      unfold Base64.digit
      rw [if_neg (by omega), if_neg (by omega), if_neg (by omega), if_neg (by omega)]
      rfl
    rw [hlast]
    exact hsmall 63 (by decide)

/-- Octets in base64 are digits, filled up with equals signs. -/
theorem isPrinted_of_mem_encode : ∀ {o : Octets} {b : UInt8}, b ∈ Base64.encode o →
    isPrinted (CodePoint.ofNat b.toNat) = true := by
  have hpad : isPrinted (CodePoint.ofNat (61 : UInt8).toNat) = true := by decide
  intro o
  induction o using Base64.encode.induct with
  | case1 => exact nofun
  | case2 a =>
    simp only [Base64.encode, List.mem_cons, List.not_mem_nil, or_false]
    rintro b (rfl | rfl | rfl | rfl) <;> first | exact hpad | exact isPrinted_base64 _
  | case3 a b =>
    simp only [Base64.encode, List.mem_cons, List.not_mem_nil, or_false]
    rintro b (rfl | rfl | rfl | rfl) <;> first | exact hpad | exact isPrinted_base64 _
  | case4 a b c rest ih =>
    simp only [Base64.encode, List.mem_cons]
    rintro b (rfl | rfl | rfl | rfl | hrest)
    · exact isPrinted_base64 _
    · exact isPrinted_base64 _
    · exact isPrinted_base64 _
    · exact isPrinted_base64 _
    · exact ih hrest

/-- Lines of base64 are separated by line feeds. -/
theorem printed_linesOfOctets (fuel : Nat) (o : Octets) : Printed (Scalar.linesOfOctets fuel o) := by
  induction fuel generalizing o with
  | zero => exact .nil
  | succ fuel ih =>
    unfold Scalar.linesOfOctets
    split
    · contradiction
    · exact .nil
    · next hfuel _ =>
      cases hfuel
      refine Printed.append (fun c hc => ?_) (.cons (by decide) (ih _))
      obtain ⟨b, hb, rfl⟩ := List.mem_map.mp hc
      exact isPrinted_of_mem_encode hb

/-- Every scalar has a tag with a short name, and only octets are written as a block. -/
theorem numbers_ofScalar (shared : Option Nat) (v : Value) :
    Numbers IsPrinted (ofScalar shared v) := by
  have hvalue : Printed (Scalar.ofValue v).1.shown ∧
      ((Scalar.ofValue v).1 = .octets → Printed (Scalar.ofValue v).2) := by
    cases v with
    | octets o => exact ⟨printed_shown _ nofun, fun _ => printed_linesOfOctets _ o⟩
    | _ => exact ⟨printed_shown _ nofun, nofun⟩
  exact Numbers.known fun id => .pure hvalue

mutual

/-- The node of a datum can be written in printable ASCII. -/
theorem numbers_ofDatum : ∀ d : Datum, Numbers IsPrinted (ofDatum d)
  | .plain v => by
    unfold ofDatum
    exact numbers_ofScalar none v
  | .day shared d => by
    unfold ofDatum
    exact numbers_ofScalar shared (.day d)
  | .moment shared m => by
    unfold ofDatum
    exact numbers_ofScalar shared (.moment m)
  | .cycle shared _ => by
    unfold ofDatum
    exact Numbers.known fun id => .pure ⟨printed_shown _ nofun, nofun⟩
  | .pair first second => by
    unfold ofDatum
    have htag : Printed pairTag.shown := printed_of_all (by decide)
    exact Numbers.bind (P := fun _ => True) (fun _ => trivial) fun id _ =>
      (numbers_ofDatum first).bind fun one hone => (numbers_ofDatum second).bind fun two htwo =>
        .pure ⟨htag, hone, htwo, trivial⟩
  | .list shared items => by
    unfold ofDatum
    exact Numbers.known fun id => (numbers_ofData items).bind fun nodes hnodes =>
      .pure ⟨printed_shown _ nofun, hnodes⟩
  | .map shared entries => by
    unfold ofDatum
    exact Numbers.known fun id => (numbers_ofEntries entries).bind fun nodes hnodes =>
      .pure ⟨printed_shown _ nofun, hnodes⟩
  | .set shared members => by
    unfold ofDatum
    exact Numbers.known fun id => (numbers_ofMembers members).bind fun nodes hnodes =>
      .pure ⟨printed_shown _ nofun, hnodes⟩

/-- Items are numbered from the first to the last. -/
theorem numbers_ofData : ∀ items : List Datum, Numbers ArePrinted (ofData items)
  | [] => by
    unfold ofData
    exact .pure trivial
  | d :: rest => by
    unfold ofData
    exact (numbers_ofDatum d).bind fun n hn => (numbers_ofData rest).bind fun nodes hnodes =>
      .pure ⟨hn, hnodes⟩

/-- Each entry is numbered key first. -/
theorem numbers_ofEntries : ∀ entries : List (Datum × Datum),
    Numbers AreEntriesPrinted (ofEntries entries)
  | [] => by
    unfold ofEntries
    exact .pure trivial
  | (k, v) :: rest => by
    unfold ofEntries
    exact (numbers_ofDatum k).bind fun key hkey => (numbers_ofDatum v).bind fun value hvalue =>
      (numbers_ofEntries rest).bind fun nodes hnodes => .pure ⟨hkey, hvalue, hnodes⟩

/-- The members of a set are written as keys without a value. -/
theorem numbers_ofMembers : ∀ members : List Datum,
    Numbers AreEntriesPrinted (ofMembers members)
  | [] => by
    unfold ofMembers
    exact .pure trivial
  | d :: rest => by
    unfold ofMembers
    exact (numbers_ofDatum d).bind fun key hkey => (numbers_ofScalar none .null).bind
      fun value hvalue => (numbers_ofMembers rest).bind fun nodes hnodes =>
        .pure ⟨hkey, hvalue, hnodes⟩

end

end OfDatum

end Node

/-! ## Documents -/

/-- Every document is written in printable ASCII and line feeds. -/
theorem printed_of_write {entries : List (Datum × Datum)} {t : Text} (h : write entries = .ok t) :
    Printed t := by
  -- what cannot be shown is not written at all
  unfold write at h
  split at h
  · cases h
    unfold writeMapping
    dsimp only
    split
    · exact printed_of_all (by decide)
    · have hnodes := Node.numbers_ofEntries entries {}
      have hempty : ({} : Page).IsPrinted := Printed.nil
      exact (Node.isPrinted_writeEntries _ hnodes 0 hempty).indent 0
  · cases h

/-- What is printed holds no lone surrogate. -/
theorem surrogate_not_mem_of_printed {t : Text} (h : Printed t) (i : Fin 0x800) :
    CodePoint.surrogate i ∉ t := by
  intro hi
  rcases Bool.or_eq_true_iff.mp (h _ hi) with hshown | hfeed
  · obtain ⟨-, hle⟩ := Bool.and_eq_true_iff.mp hshown
    have hle : 0xD800 + i.val ≤ 0x7E := of_decide_eq_true hle
    omega
  · cases of_decide_eq_true hfeed

/-! ## Files -/

/-- Line ends of other kinds hold a carriage return, which is not written. -/
theorem unifyLineEnds_of_printed {t : Text} (h : Printed t) : Text.unifyLineEnds t = t := by
  have hreturn : isPrinted (.char '\r') = false := by decide
  induction t using Text.unifyLineEnds.induct with
  | case1 => rfl
  | case2 rest ih =>
    have hfirst := (List.forall_mem_cons.mp h).1
    rw [hreturn] at hfirst
    contradiction
  | case3 c rest hpair ih =>
    obtain ⟨hfirst, hrest⟩ := List.forall_mem_cons.mp h
    have hc : c ≠ .char '\r' := by
      rintro rfl
      rw [hreturn] at hfirst
      contradiction
    rw [Text.unifyLineEnds, ih hrest, if_neg hc]
    exact hpair

end Yaml

namespace DocumentFormat

variable {format : DocumentFormat}

/-- A format in which documents are written in printable ASCII and line feeds. -/
def WritesPrinted (format : DocumentFormat) : Prop :=
  ∀ entries t, format.write entries = .ok t → Yaml.Printed t

/-- YAML is such a format. -/
theorem writesPrinted_yaml : yaml.WritesPrinted :=
  fun _ _ h => Yaml.printed_of_write h

/-- A file with a written document is read as the document was written. -/
theorem WritesPrinted.readText_of_write (h : format.WritesPrinted)
    {entries : List (Datum × Datum)} {t : Text} {files : FileTree} {p : Path}
    (ht : format.write entries = .ok t) (hfile : files.read p = .ok ((Utf8.encode? t).getD [])) :
    files.readText p = .ok t := by
  have hprinted := h entries t ht
  obtain ⟨octets, hoctets⟩ :=
    Utf8.exists_encode?_iff.mpr (Yaml.surrogate_not_mem_of_printed hprinted)
  rw [hoctets] at hfile
  rw [FileTree.readText, hfile]
  dsimp only [bind, Except.bind, Option.getD]
  rw [Utf8.decode?_of_encode? hoctets]
  exact congrArg Except.ok (Yaml.unifyLineEnds_of_printed hprinted)

end DocumentFormat

end MailFilter
