import MailFilter.Yaml.Meaning
import MailFilter.Yaml.Writing

/-!
# The format of documents

Scripts and settings are kept in documents. How a text is read as a document, and a mapping is
written as one, is a matter of the format. The program works with any format; it is given YAML.

- `DocumentFormat`: a reader and a writer.
- `DocumentFormat.yaml`: those of YAML.
-/

namespace MailFilter

/-- How texts are read as documents, and how mappings are written as texts. -/
structure DocumentFormat where
  /-- The document that a text holds. -/
  read : Text → Yaml.Result Datum
  /-- The text of a mapping. -/
  write : List (Datum × Datum) → Except Fault Text

/-- The format of all files of the program. -/
def DocumentFormat.yaml : DocumentFormat where
  read := Yaml.read
  write := Yaml.write

end MailFilter
