import MailFilter.Text.CharsetTable
import MailFilter.Text.Utf8

/-!
# Character sets

Mail names the character set in which its octets are written. Names are compared without regard to
case and to the marks between letters and digits. An octet that stands for nothing in the set is kept
as a lone surrogate, and so are all octets above `0x7F` of a set that is not known.

- `Charset`: a character set.
- `Charset.ofName?`: the set of a name.
- `Charset.decode`: the text of octets.
-/

namespace MailFilter

/-- A character set. -/
inductive Charset where
  | ascii
  | utf8
  /-- Octets stand for themselves but for the runs of a table. -/
  | table (runs : List (Nat × Nat × Nat))

namespace Charset

/-- Writes a name in small letters, with one underscore for each run of marks between letters and
digits. Points count as letters. -/
def normalName (name : Text) : Text :=
  go false [] name
where
  /-- Adds code points to the name read so far, which is kept in reverse. -/
  go (gap : Bool) (done : Text) : Text → Text
    | [] => done.reverse
    | c :: rest =>
      if c.isAlphanum || c = .char '.' then
        go false (c.asciiFold :: (if gap && !done.isEmpty then .char '_' :: done else done)) rest
      else go true done rest

/-- The names of the sets. -/
def names : List (Charset × List Text) :=
  [(.ascii, ["ascii", "us_ascii", "us", "646", "ansi_x3.4_1968", "iso646_us", "cp367"]),
    (.utf8, ["utf_8", "utf8", "u8", "utf", "cp65001"]),
    (.table [], ["latin_1", "latin1", "latin", "l1", "iso_8859_1", "iso8859_1", "iso8859", "8859",
      "cp819"]),
    (.table CharsetTable.latin2, ["iso_8859_2", "iso8859_2", "latin2", "l2"]),
    (.table CharsetTable.cyrillic, ["iso_8859_5", "iso8859_5", "cyrillic"]),
    (.table CharsetTable.greek, ["iso_8859_7", "iso8859_7", "greek"]),
    (.table CharsetTable.latin5, ["iso_8859_9", "iso8859_9", "latin5", "l5"]),
    (.table CharsetTable.latin9, ["iso_8859_15", "iso8859_15", "latin9", "l9"]),
    (.table CharsetTable.windows1250, ["cp1250", "windows_1250", "1250"]),
    (.table CharsetTable.windows1251, ["cp1251", "windows_1251", "1251"]),
    (.table CharsetTable.windows1252, ["cp1252", "windows_1252", "1252"]),
    (.table CharsetTable.koi8, ["koi8_r", "cskoi8r"])]

/-- The set of a name. -/
def ofName? (name : Text) : Option Charset :=
  (names.find? fun (_, known) => known.contains (normalName name)).map Prod.fst

/-- The code point of an octet in a table, the octet itself being kept if it stands for nothing. -/
def point (runs : List (Nat × Nat × Nat)) (b : UInt8) : CodePoint :=
  match runs.find? fun (first, count, _) => first ≤ b.toNat && b.toNat < first + count with
  | some (_, _, 0) => Utf8.keep b
  | some (first, _, start) => CodePoint.ofNat (start + (b.toNat - first))
  | none => CodePoint.ofNat b.toNat

/-- The text of octets in a set. -/
def decode (octets : Octets) : Charset → Text
  | .ascii => Utf8.decodeAsciiKeeping octets
  | .utf8 => Utf8.decodeKeeping octets
  | .table runs => octets.map (point runs)

end Charset

end MailFilter
