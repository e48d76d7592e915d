/-!
# Tables of character sets

Each table lists the runs of octets from `0x80` on that do not stand for the code points of their own
numbers: the first octet, how many there are, and the first code point. The code point `0` marks
octets that stand for nothing.
-/

namespace MailFilter

namespace CharsetTable

/-- Central European letters (ISO 8859-2). -/
def latin2 : List (Nat × Nat × Nat) :=
  [(0xA1, 1, 0x0104), (0xA2, 1, 0x02D8), (0xA3, 1, 0x0141), (0xA5, 1, 0x013D), (0xA6, 1, 0x015A),
    (0xA9, 1, 0x0160), (0xAA, 1, 0x015E), (0xAB, 1, 0x0164), (0xAC, 1, 0x0179), (0xAE, 1, 0x017D),
    (0xAF, 1, 0x017B), (0xB1, 1, 0x0105), (0xB2, 1, 0x02DB), (0xB3, 1, 0x0142), (0xB5, 1, 0x013E),
    (0xB6, 1, 0x015B), (0xB7, 1, 0x02C7), (0xB9, 1, 0x0161), (0xBA, 1, 0x015F), (0xBB, 1, 0x0165),
    (0xBC, 1, 0x017A), (0xBD, 1, 0x02DD), (0xBE, 1, 0x017E), (0xBF, 1, 0x017C), (0xC0, 1, 0x0154),
    (0xC3, 1, 0x0102), (0xC5, 1, 0x0139), (0xC6, 1, 0x0106), (0xC8, 1, 0x010C), (0xCA, 1, 0x0118),
    (0xCC, 1, 0x011A), (0xCF, 1, 0x010E), (0xD0, 1, 0x0110), (0xD1, 1, 0x0143), (0xD2, 1, 0x0147),
    (0xD5, 1, 0x0150), (0xD8, 1, 0x0158), (0xD9, 1, 0x016E), (0xDB, 1, 0x0170), (0xDE, 1, 0x0162),
    (0xE0, 1, 0x0155), (0xE3, 1, 0x0103), (0xE5, 1, 0x013A), (0xE6, 1, 0x0107), (0xE8, 1, 0x010D),
    (0xEA, 1, 0x0119), (0xEC, 1, 0x011B), (0xEF, 1, 0x010F), (0xF0, 1, 0x0111), (0xF1, 1, 0x0144),
    (0xF2, 1, 0x0148), (0xF5, 1, 0x0151), (0xF8, 1, 0x0159), (0xF9, 1, 0x016F), (0xFB, 1, 0x0171),
    (0xFE, 1, 0x0163), (0xFF, 1, 0x02D9)]

/-- Cyrillic letters (ISO 8859-5). -/
def cyrillic : List (Nat × Nat × Nat) :=
  [(0xA1, 12, 0x0401), (0xAE, 66, 0x040E), (0xF0, 1, 0x2116), (0xF1, 12, 0x0451),
    (0xFD, 1, 0x00A7), (0xFE, 2, 0x045E)]

/-- Greek letters (ISO 8859-7). -/
def greek : List (Nat × Nat × Nat) :=
  [(0xA1, 2, 0x2018), (0xA4, 1, 0x20AC), (0xA5, 1, 0x20AF), (0xAA, 1, 0x037A), (0xAE, 1, 0),
    (0xAF, 1, 0x2015), (0xB4, 3, 0x0384), (0xB8, 3, 0x0388), (0xBC, 1, 0x038C), (0xBE, 20, 0x038E),
    (0xD2, 1, 0), (0xD3, 44, 0x03A3), (0xFF, 1, 0)]

/-- Turkish letters (ISO 8859-9). -/
def latin5 : List (Nat × Nat × Nat) :=
  [(0xD0, 1, 0x011E), (0xDD, 1, 0x0130), (0xDE, 1, 0x015E), (0xF0, 1, 0x011F), (0xFD, 1, 0x0131),
    (0xFE, 1, 0x015F)]

/-- Western letters with the euro sign (ISO 8859-15). -/
def latin9 : List (Nat × Nat × Nat) :=
  [(0xA4, 1, 0x20AC), (0xA6, 1, 0x0160), (0xA8, 1, 0x0161), (0xB4, 1, 0x017D), (0xB8, 1, 0x017E),
    (0xBC, 2, 0x0152), (0xBE, 1, 0x0178)]

/-- Central European letters of Windows. -/
def windows1250 : List (Nat × Nat × Nat) :=
  [(0x80, 1, 0x20AC), (0x81, 1, 0), (0x82, 1, 0x201A), (0x83, 1, 0), (0x84, 1, 0x201E),
    (0x85, 1, 0x2026), (0x86, 2, 0x2020), (0x88, 1, 0), (0x89, 1, 0x2030), (0x8A, 1, 0x0160),
    (0x8B, 1, 0x2039), (0x8C, 1, 0x015A), (0x8D, 1, 0x0164), (0x8E, 1, 0x017D), (0x8F, 1, 0x0179),
    (0x90, 1, 0), (0x91, 2, 0x2018), (0x93, 2, 0x201C), (0x95, 1, 0x2022), (0x96, 2, 0x2013),
    (0x98, 1, 0), (0x99, 1, 0x2122), (0x9A, 1, 0x0161), (0x9B, 1, 0x203A), (0x9C, 1, 0x015B),
    (0x9D, 1, 0x0165), (0x9E, 1, 0x017E), (0x9F, 1, 0x017A), (0xA1, 1, 0x02C7), (0xA2, 1, 0x02D8),
    (0xA3, 1, 0x0141), (0xA5, 1, 0x0104), (0xAA, 1, 0x015E), (0xAF, 1, 0x017B), (0xB2, 1, 0x02DB),
    (0xB3, 1, 0x0142), (0xB9, 1, 0x0105), (0xBA, 1, 0x015F), (0xBC, 1, 0x013D), (0xBD, 1, 0x02DD),
    (0xBE, 1, 0x013E), (0xBF, 1, 0x017C), (0xC0, 1, 0x0154), (0xC3, 1, 0x0102), (0xC5, 1, 0x0139),
    (0xC6, 1, 0x0106), (0xC8, 1, 0x010C), (0xCA, 1, 0x0118), (0xCC, 1, 0x011A), (0xCF, 1, 0x010E),
    (0xD0, 1, 0x0110), (0xD1, 1, 0x0143), (0xD2, 1, 0x0147), (0xD5, 1, 0x0150), (0xD8, 1, 0x0158),
    (0xD9, 1, 0x016E), (0xDB, 1, 0x0170), (0xDE, 1, 0x0162), (0xE0, 1, 0x0155), (0xE3, 1, 0x0103),
    (0xE5, 1, 0x013A), (0xE6, 1, 0x0107), (0xE8, 1, 0x010D), (0xEA, 1, 0x0119), (0xEC, 1, 0x011B),
    (0xEF, 1, 0x010F), (0xF0, 1, 0x0111), (0xF1, 1, 0x0144), (0xF2, 1, 0x0148), (0xF5, 1, 0x0151),
    (0xF8, 1, 0x0159), (0xF9, 1, 0x016F), (0xFB, 1, 0x0171), (0xFE, 1, 0x0163), (0xFF, 1, 0x02D9)]

/-- Cyrillic letters of Windows. -/
def windows1251 : List (Nat × Nat × Nat) :=
  [(0x80, 2, 0x0402), (0x82, 1, 0x201A), (0x83, 1, 0x0453), (0x84, 1, 0x201E), (0x85, 1, 0x2026),
    (0x86, 2, 0x2020), (0x88, 1, 0x20AC), (0x89, 1, 0x2030), (0x8A, 1, 0x0409), (0x8B, 1, 0x2039),
    (0x8C, 1, 0x040A), (0x8D, 1, 0x040C), (0x8E, 1, 0x040B), (0x8F, 1, 0x040F), (0x90, 1, 0x0452),
    (0x91, 2, 0x2018), (0x93, 2, 0x201C), (0x95, 1, 0x2022), (0x96, 2, 0x2013), (0x98, 1, 0),
    (0x99, 1, 0x2122), (0x9A, 1, 0x0459), (0x9B, 1, 0x203A), (0x9C, 1, 0x045A), (0x9D, 1, 0x045C),
    (0x9E, 1, 0x045B), (0x9F, 1, 0x045F), (0xA1, 1, 0x040E), (0xA2, 1, 0x045E), (0xA3, 1, 0x0408),
    (0xA5, 1, 0x0490), (0xA8, 1, 0x0401), (0xAA, 1, 0x0404), (0xAF, 1, 0x0407), (0xB2, 1, 0x0406),
    (0xB3, 1, 0x0456), (0xB4, 1, 0x0491), (0xB8, 1, 0x0451), (0xB9, 1, 0x2116), (0xBA, 1, 0x0454),
    (0xBC, 1, 0x0458), (0xBD, 1, 0x0405), (0xBE, 1, 0x0455), (0xBF, 1, 0x0457), (0xC0, 64, 0x0410)]

/-- Western letters of Windows. -/
def windows1252 : List (Nat × Nat × Nat) :=
  [(0x80, 1, 0x20AC), (0x81, 1, 0), (0x82, 1, 0x201A), (0x83, 1, 0x0192), (0x84, 1, 0x201E),
    (0x85, 1, 0x2026), (0x86, 2, 0x2020), (0x88, 1, 0x02C6), (0x89, 1, 0x2030), (0x8A, 1, 0x0160),
    (0x8B, 1, 0x2039), (0x8C, 1, 0x0152), (0x8D, 1, 0), (0x8E, 1, 0x017D), (0x8F, 1, 0),
    (0x90, 1, 0), (0x91, 2, 0x2018), (0x93, 2, 0x201C), (0x95, 1, 0x2022), (0x96, 2, 0x2013),
    (0x98, 1, 0x02DC), (0x99, 1, 0x2122), (0x9A, 1, 0x0161), (0x9B, 1, 0x203A), (0x9C, 1, 0x0153),
    (0x9D, 1, 0), (0x9E, 1, 0x017E), (0x9F, 1, 0x0178)]

/-- Russian letters (KOI8-R). -/
def koi8 : List (Nat × Nat × Nat) :=
  [(0x80, 1, 0x2500), (0x81, 1, 0x2502), (0x82, 1, 0x250C), (0x83, 1, 0x2510), (0x84, 1, 0x2514),
    (0x85, 1, 0x2518), (0x86, 1, 0x251C), (0x87, 1, 0x2524), (0x88, 1, 0x252C), (0x89, 1, 0x2534),
    (0x8A, 1, 0x253C), (0x8B, 1, 0x2580), (0x8C, 1, 0x2584), (0x8D, 1, 0x2588), (0x8E, 1, 0x258C),
    (0x8F, 4, 0x2590), (0x93, 1, 0x2320), (0x94, 1, 0x25A0), (0x95, 2, 0x2219), (0x97, 1, 0x2248),
    (0x98, 2, 0x2264), (0x9A, 1, 0x00A0), (0x9B, 1, 0x2321), (0x9C, 1, 0x00B0), (0x9D, 1, 0x00B2),
    (0x9E, 1, 0x00B7), (0x9F, 1, 0x00F7), (0xA0, 3, 0x2550), (0xA3, 1, 0x0451), (0xA4, 15, 0x2553),
    (0xB3, 1, 0x0401), (0xB4, 11, 0x2562), (0xBF, 1, 0x00A9), (0xC0, 1, 0x044E), (0xC1, 2, 0x0430),
    (0xC3, 1, 0x0446), (0xC4, 2, 0x0434), (0xC6, 1, 0x0444), (0xC7, 1, 0x0433), (0xC8, 1, 0x0445),
    (0xC9, 8, 0x0438), (0xD1, 1, 0x044F), (0xD2, 4, 0x0440), (0xD6, 1, 0x0436), (0xD7, 1, 0x0432),
    (0xD8, 1, 0x044C), (0xD9, 1, 0x044B), (0xDA, 1, 0x0437), (0xDB, 1, 0x0448), (0xDC, 1, 0x044D),
    (0xDD, 1, 0x0449), (0xDE, 1, 0x0447), (0xDF, 1, 0x044A), (0xE0, 1, 0x042E), (0xE1, 2, 0x0410),
    (0xE3, 1, 0x0426), (0xE4, 2, 0x0414), (0xE6, 1, 0x0424), (0xE7, 1, 0x0413), (0xE8, 1, 0x0425),
    (0xE9, 8, 0x0418), (0xF1, 1, 0x042F), (0xF2, 4, 0x0420), (0xF6, 1, 0x0416), (0xF7, 1, 0x0412),
    (0xF8, 1, 0x042C), (0xF9, 1, 0x042B), (0xFA, 1, 0x0417), (0xFB, 1, 0x0428), (0xFC, 1, 0x042D),
    (0xFD, 1, 0x0429), (0xFE, 1, 0x0427), (0xFF, 1, 0x042A)]

end CharsetTable

end MailFilter
