import MailFilter.Failure

/-!
# Messages

To a script a message is the list of its header fields. Names of fields are compared in small
letters. The value of a field may be impossible to make out, which matters only to a test that asks
for it. A value may also have no text, which matters only to a test that looks at the text.

- `Field`, `Message`: a field, a list of fields.
- `Message.values`: the texts of all fields of a name.
- `Message.value?`: the text of the first field of a name.
- `Message.has`: whether there is a field of a name.
- `Message.has_eq`: a field counts as there even where there is no text of it.
-/

namespace MailFilter

/-- A header field. What comes of its value when the field is asked for, and what comes of the text
of the value then. -/
structure Field where
  name : Text
  value : Except Fault (Except Fault Text)

/-- The text of a field. -/
def Field.text (f : Field) : Except Fault Text := do
  (← f.value)

/-- The header fields of a message, in order. -/
structure Message where
  fields : List Field

namespace Message

/-- The text of a value that was not read from a file. Octets that were kept as lone surrogates cannot
be made out any more, and such a value may hold nothing else beyond ASCII. -/
def givenText (t : Text) : Except Fault Text :=
  if t.all fun c => c matches .char _ then .ok t
  else t.mapM fun c =>
    if c.isAscii then .ok c
    else if (Utf8.keptOctet? c).isSome then .ok (.char '\uFFFD')
    else .error .unencodable

/-- The message whose fields have given values. -/
def ofValues (fields : List (Text × Text)) : Message :=
  ⟨fields.map fun (name, value) => ⟨name, .ok (givenText value)⟩⟩

/-- The fields of a name. -/
def named (m : Message) (name : Text) : List Field :=
  m.fields.filter fun f => f.name.lower = name.lower

/-- The texts of all fields of a name. All values are made out before the first text is. -/
def values (m : Message) (name : Text) : Except Fault (List Text) := do
  let values ← (m.named name).mapM Field.value
  values.mapM id

/-- The text of the first field of a name. -/
def value? (m : Message) (name : Text) : Except Fault (Option Text) :=
  match m.named name with
  | [] => .ok none
  | f :: _ => f.text.map some

/-- Whether there is a field of a name. The text of its value is not needed for that. -/
def has (m : Message) (name : Text) : Except Fault Bool :=
  match m.named name with
  | [] => .ok false
  | f :: _ => f.value.map fun _ => true

/-- Where no value is impossible to make out, a field is there if one has the name, be there a text
of it or not. -/
theorem has_eq {m : Message} (h : ∀ f ∈ m.fields, ∃ text, f.value = .ok text) (name : Text) :
    m.has name = .ok (m.fields.any fun f => f.name.lower = name.lower) := by
  unfold has
  cases hnamed : m.named name with
  | nil =>
    have hnone : ∀ f ∈ m.fields, ¬f.name.lower = name.lower := by
      simpa [named] using hnamed
    simpa using hnone
  | cons f others =>
    have hf : f ∈ m.named name := hnamed ▸ List.mem_cons_self
    obtain ⟨hmem, hname⟩ := List.mem_filter.mp hf
    obtain ⟨text, htext⟩ := h f hmem
    have hany : (m.fields.any fun f => f.name.lower = name.lower) = true :=
      List.any_eq_true.mpr ⟨f, hmem, hname⟩
    rw [hany]
    show f.value.map _ = _
    rw [htext]
    rfl

end Message

end MailFilter
