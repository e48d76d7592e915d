import Mathlib
import MailFilter.Proofs.Text.Parts
import MailFilter.Yaml.Page

/-!
# What scalars are written in

A scalar is written in printable ASCII and line feeds, whatever its text holds: a style that keeps the
text is chosen only if the text is printable, and in double quotes everything else is escaped.

- `Printed`: printable ASCII and line feeds.
- `printed_of_escape?`: every escape is printable.
- `Page.IsPrinted`: what has been written of a document so far; every mark keeps it.
- `Page.IsPrinted.writeScalar`: so does every scalar in its style.
-/

namespace MailFilter

namespace Yaml

/-- A code point that can stand in a document as it is written: printable and in ASCII, or a line
feed. -/
def isPrinted (c : CodePoint) : Bool :=
  Scalar.isShown c || c = .char '\n'

/-- Printable ASCII and line feeds. -/
def Printed (t : Text) : Prop :=
  ∀ c ∈ t, isPrinted c = true

section Printed

variable {s t : Text}

theorem isPrinted_of_isShown {c : CodePoint} (h : Scalar.isShown c = true) : isPrinted c = true := by
  rw [isPrinted, h, Bool.true_or]

theorem Printed.nil : Printed [] := nofun

theorem Printed.cons {c : CodePoint} (hc : isPrinted c = true) (ht : Printed t) :
    Printed (c :: t) :=
  List.forall_mem_cons.mpr ⟨hc, ht⟩

theorem Printed.append (hs : Printed s) (ht : Printed t) : Printed (s ++ t) :=
  List.forall_mem_append.mpr ⟨hs, ht⟩

theorem Printed.of_subset (ht : Printed t) (h : s ⊆ t) : Printed s :=
  fun c hc => ht c (h hc)

/-- A run of blanks or zeros is printable, as its code point is. -/
theorem printed_replicate {c : CodePoint} (hc : isPrinted c = true) (n : Nat) :
    Printed (List.replicate n c) := by
  intro d hd
  rw [List.eq_of_mem_replicate hd]
  exact hc

/-- A text of which every code point has been checked. -/
theorem printed_of_all (h : t.all isPrinted = true) : Printed t :=
  List.all_eq_true.mp h

end Printed

/-! ## Digits -/

/-- Every digit of a number is the digit of a number below the base. -/
theorem exists_of_mem_toDigits {b n : Nat} {c : Char} (hb : 1 < b) (h : c ∈ Nat.toDigits b n) :
    ∃ d < b, c = d.digitChar := by
  induction n using Nat.strongRecOn with
  | ind n ih =>
    rw [Nat.toDigits_eq_if hb] at h
    by_cases hn : n < b
    · rw [if_pos hn] at h
      exact ⟨n, hn, List.mem_singleton.mp h⟩
    · rw [if_neg hn] at h
      rcases List.mem_append.mp h with hfront | hlast
      · have hless : n / b < n := Nat.div_lt_self (by omega) hb
        exact ih (n / b) hless hfront
      · exact ⟨n % b, Nat.mod_lt n (by omega), List.mem_singleton.mp hlast⟩

/-- A number is written in digits. -/
theorem printed_ofNat (n : Nat) : Printed (Text.ofNat n) := by
  have hdigit : ∀ d < 10, isPrinted (.char (Nat.digitChar d)) = true := by decide
  intro c hc
  obtain ⟨digit, hmem, rfl⟩ := List.mem_map.mp hc
  obtain ⟨d, hd, rfl⟩ := exists_of_mem_toDigits (by decide) hmem
  exact hdigit d hd

/-- Zeros in front of a number are digits as well. -/
theorem printed_padded (width n : Nat) : Printed (Text.padded width n) :=
  (printed_replicate (by decide) _).append (printed_ofNat n)

/-- The capitals of hexadecimal digits are printable. -/
theorem printed_hex (width n : Nat) : Printed ((Text.hex width n).map Scalar.escape?.capital) := by
  have hdigit : ∀ d < 16, isPrinted (Scalar.escape?.capital (.char (Nat.digitChar d))) = true := by
    decide
  intro c hc
  obtain ⟨small, hsmall, rfl⟩ := List.mem_map.mp hc
  rcases List.mem_append.mp hsmall with hzero | hdigits
  · rw [List.eq_of_mem_replicate hzero]
    exact hdigit 0 (by decide)
  · obtain ⟨digit, hmem, rfl⟩ := List.mem_map.mp hdigits
    obtain ⟨d, hd, rfl⟩ := exists_of_mem_toDigits (by decide) hmem
    exact hdigit d hd

/-- Every escape is printable. -/
theorem printed_of_escape? {c : CodePoint} {escape : Text} (h : Scalar.escape? c = some escape) :
    Printed escape := by
  have hnamed : ∀ entry ∈ Scalar.escape?.named, isPrinted (.char entry.2) = true := by decide
  -- a letter behind a backslash, or two, four or eight digits
  unfold Scalar.escape? at h
  split at h
  · next name hfind =>
    cases h
    exact .cons (by decide) (.cons (hnamed _ (List.mem_of_find?_eq_some hfind)) .nil)
  · split at h
    · cases h
    · split at h
      · cases h
        exact (printed_of_all (by decide)).append (printed_hex 2 _)
      · split at h
        · cases h
          exact (printed_of_all (by decide)).append (printed_hex 4 _)
        · cases h
          exact (printed_of_all (by decide)).append (printed_hex 8 _)

/-- What needs no escape is printable ASCII. -/
theorem isShown_of_escape? {c : CodePoint} (h : Scalar.escape? c = none) :
    Scalar.isShown c = true := by
  unfold Scalar.escape? at h
  split at h
  · cases h
  · split at h
    · next hshown => exact hshown
    · split at h
      · cases h
      · split at h <;> cases h

/-! ## Pages -/

namespace Page

variable {p : Page} {t : Text}

/-- All that has been written is printable ASCII or a line feed. -/
def IsPrinted (p : Page) : Prop := Printed p.text

theorem IsPrinted.put (hp : p.IsPrinted) (ht : Printed t) : (p.put t).IsPrinted :=
  Printed.append hp ht

theorem IsPrinted.newline (hp : p.IsPrinted) : p.newline.IsPrinted :=
  Printed.append hp (printed_of_all (by decide))

/-- An indentation is a line end, blanks or nothing. -/
theorem IsPrinted.indent (hp : p.IsPrinted) (column : Nat) : (p.indent column).IsPrinted := by
  have hblanks : ∀ n, Printed (List.replicate n (.char ' ')) := printed_replicate (by decide)
  unfold Page.indent
  dsimp only
  split
  · split
    · exact hp.newline.put (hblanks _)
    · exact hp.newline
  · split
    · exact hp.put (hblanks _)
    · exact hp

/-- A mark may have a blank in front of it. -/
theorem IsPrinted.mark (hp : p.IsPrinted) (ht : Printed t) : (p.mark t).IsPrinted := by
  unfold Page.mark
  split
  · exact hp.put ht
  · exact hp.put (.cons (by decide) ht)

theorem IsPrinted.closing (hp : p.IsPrinted) (ht : Printed t) : (p.closing t).IsPrinted :=
  hp.put ht

theorem IsPrinted.bullet (hp : p.IsPrinted) (ht : Printed t) : (p.bullet t).IsPrinted :=
  hp.mark ht

theorem IsPrinted.scalarLine (hp : p.IsPrinted) (column : Nat) : (p.scalarLine column).IsPrinted :=
  hp.indent column

/-! ## Scalars -/

/-- Line ends are not written as code points, but as the ends of lines. -/
theorem IsPrinted.writeRun {written : CodePoint → Text} {run : Text} (hp : p.IsPrinted)
    (hrun : ∀ c ∈ run, Printed (written c)) (column : Nat) (folds isEdge : Bool) :
    (p.writeRun column folds isEdge written run).IsPrinted := by
  have hends : ∀ (ends : Text) {p : Page}, p.IsPrinted →
      (ends.foldl (fun p _ => p.newline) p).IsPrinted := by
    intro ends
    induction ends with
    | nil => exact fun hp => hp
    | cons _ rest ih => exact fun hp => ih hp.newline
  -- line ends, a blank at which the line is folded, or code points
  unfold Page.writeRun
  split
  · exact (hends run hp.newline).indent column
  · split
    · exact hp.scalarLine column
    · refine hp.put fun c hc => ?_
      obtain ⟨source, hsource, hmem⟩ := List.mem_flatMap.mp hc
      exact hrun source hsource c hmem

/-- The text of a scalar is written run by run. -/
theorem IsPrinted.writeRuns {written : CodePoint → Text} {runs : List Text} (hp : p.IsPrinted)
    (hruns : ∀ run ∈ runs, ∀ c ∈ run, Printed (written c)) (column : Nat) (folds isFirst : Bool) :
    (p.writeRuns column folds written isFirst runs).IsPrinted := by
  induction runs generalizing p isFirst with
  | nil => exact hp
  | cons run rest ih =>
    obtain ⟨hfirst, hrest⟩ := List.forall_mem_cons.mp hruns
    exact ih (hp.writeRun hfirst column folds _) hrest false

/-- Cut into runs, a text has the code points that it had. -/
theorem mem_of_mem_runsOf {run : Text} {c : CodePoint} (hrun : run ∈ runsOf t) (hc : c ∈ run) :
    c ∈ t := by
  rw [← List.flatten_splitBy (fun a b =>
    (a = .char ' ') = (b = .char ' ') && (a = .char '\n') = (b = .char '\n')) t]
  exact List.mem_flatten.mpr ⟨run, hrun, hc⟩

/-- A plain scalar is its text. -/
theorem IsPrinted.writePlain (hp : p.IsPrinted) (ht : Printed t) (column : Nat) (folds : Bool) :
    (p.writePlain column folds t).IsPrinted := by
  refine (hp.mark .nil).writeRuns (fun run hrun c hc => ?_) column folds true
  exact .cons (ht c (mem_of_mem_runsOf hrun hc)) .nil

/-- In single quotes a quote is doubled, and the rest of the text is as it was. -/
theorem IsPrinted.writeSingle (hp : p.IsPrinted) (ht : Printed t) (column : Nat) (folds : Bool) :
    (p.writeSingle column folds t).IsPrinted := by
  have hquote : Printed ("'" : Text) := printed_of_all (by decide)
  refine ((hp.mark hquote).writeRuns (fun run hrun c hc => ?_) column folds true).closing hquote
  have hc := ht c (mem_of_mem_runsOf hrun hc)
  split
  · exact .cons hc (.cons hc .nil)
  · exact .cons hc .nil

/-- A line of a scalar in double quotes is continued behind a backslash. -/
theorem IsPrinted.continueLine (hp : p.IsPrinted) (column : Nat) (isBlankNext : Bool) :
    (p.continueLine column isBlankNext).IsPrinted := by
  have hescape : Printed ("\\" : Text) := printed_of_all (by decide)
  unfold Page.continueLine
  dsimp only
  split
  · exact ((hp.put hescape).scalarLine column).put hescape
  · exact (hp.put hescape).scalarLine column

/-- In double quotes any text can be written. -/
theorem IsPrinted.writeEscaped (hp : p.IsPrinted) (column : Nat) (folds isFirst afterEscape : Bool) :
    (p.writeEscaped column folds isFirst afterEscape t).IsPrinted := by
  -- the page grows with each code point, and a line may be continued before or behind it
  induction t generalizing p isFirst afterEscape with
  | nil => exact hp
  | cons c rest ih =>
    unfold Page.writeEscaped
    dsimp only
    split
    · next escape hescape =>
      have hput := hp.put (printed_of_escape? hescape)
      refine ih ?_ false true
      split
      · exact hput.continueLine column _
      · exact hput
    · next hescape =>
      have hc : Printed [c] := .cons (isPrinted_of_isShown (isShown_of_escape? hescape)) .nil
      refine ih (IsPrinted.put ?_ hc) false false
      split
      · exact hp.continueLine column _
      · exact hp

/-- Two quotes are added to what is escaped. -/
theorem IsPrinted.writeDouble (hp : p.IsPrinted) (t : Text) (column : Nat) (folds : Bool) :
    (p.writeDouble column folds t).IsPrinted := by
  have hquote : Printed ("\"" : Text) := printed_of_all (by decide)
  exact ((hp.mark hquote).writeEscaped column folds true false).closing hquote

/-- A block has a line for each line of its text. -/
theorem IsPrinted.writeLiteral (hp : p.IsPrinted) (ht : Printed t) (column : Nat) :
    (p.writeLiteral column t).IsPrinted := by
  have hlines : ∀ line ∈ (Text.splitOn (.char '\n') t).dropLast, Printed line :=
    fun line hline => ht.of_subset (Text.subset_of_mem_splitOn (List.mem_of_mem_dropLast hline))
  unfold Page.writeLiteral
  have hhead : ((p.mark "|").newline).IsPrinted := (hp.mark (printed_of_all (by decide))).newline
  generalize (p.mark "|").newline = head at hhead ⊢
  generalize (Text.splitOn (.char '\n') t).dropLast = lines at hlines ⊢
  induction lines generalizing head with
  | nil => exact hhead
  | cons line rest ih =>
    obtain ⟨hfirst, hrest⟩ := List.forall_mem_cons.mp hlines
    exact ih _ ((hhead.indent column).put hfirst).newline hrest

/-- A text that can stand plainly holds neither line ends nor code points outside of ASCII. -/
theorem printed_of_allowsPlain (h : Scalar.allowsPlain t = true) : Printed t := by
  simp only [Scalar.allowsPlain, Bool.and_eq_true] at h
  have hshown : t.all Scalar.isShown = true := h.1.1.1.1.1.1
  exact fun c hc => isPrinted_of_isShown (List.all_eq_true.mp hshown c hc)

/-- A text that can stand in single quotes may hold line ends. -/
theorem printed_of_allowsSingle (h : Scalar.allowsSingle t = true) : Printed t := by
  simp only [Scalar.allowsSingle, Bool.and_eq_true] at h
  exact printed_of_all h.1.1

/-- The style of a scalar is one in which its text can be written: octets are blocks of digits, and
what neither stands plainly nor in single quotes is escaped. -/
theorem IsPrinted.writeScalar (hp : p.IsPrinted) {tag : Tag} (htext : tag = .octets → Printed t)
    (column : Nat) (folds : Bool) : (p.writeScalar (Style.of tag t) column folds t).IsPrinted := by
  unfold Style.of
  by_cases hoctets : tag = .octets
  · rw [if_pos hoctets]
    split
    · exact hp.writeDouble t column folds
    · exact hp.writeLiteral (htext hoctets) column
  · rw [if_neg hoctets]
    split
    · next hplain =>
      have hallows : Scalar.allowsPlain t = true := (Bool.and_eq_true_iff.mp hplain).2
      exact hp.writePlain (printed_of_allowsPlain hallows) column folds
    · split
      · next hsingle => exact hp.writeSingle (printed_of_allowsSingle hsingle) column folds
      · exact hp.writeDouble t column folds

end Page

end Yaml

end MailFilter
