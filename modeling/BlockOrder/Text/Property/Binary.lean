import BlockOrder.Text.Property.Coding

/-!
# Further properties of characters

Sets of characters with a property of their own, or the characters in which a property differs
from a set that categories make up.  A set is written as the lengths of its gaps and runs in
hexadecimal, in turn, from zero on.
-/

namespace BlockOrder

/-- The lowercase characters that are no lowercase letters. -/
def otherLowercaseCoding : List String := [
    "AA 1 F 1 1F5 9 7 2 1E 5 60 1 34 1 D81 1 C2F 3F D 1 22 25 2B1 1 D 1 10 D D3 10 350 1A 792 2",
    "7A1E 2 D2 1 81 3 3 2 362 4 9 1 5C16 1 2 3 1 2A 1 9 D875 3E"]

/-- The uppercase characters that are no uppercase letters. -/
def otherUppercaseCoding : List String := [
    "2160 10 346 1A 1CC60 1A 6 1A 6 1A"]

/-- Where `Case_Ignorable` differs from marks, format characters, modifiers. -/
def caseIgnorableChangesCoding : List String := [
    "27 1 6 1 B 1 7C 1 2CF 1 1D7 1 94 1 1A23 2 A 1 2 1 DDEB 1 3E 1 2 1 B1 1 6 1 B 1"]

/-- The mathematical characters that are no mathematical symbols. -/
def otherMathCoding : List String := [
    "5E 1 371 3 2 1 1A 2 2 2 1C20 1 1B 3 B 1 20 4 18 2 E 2 41 D 4 1 3 2 4 5 12 1 4 1 2 A 1 1 3 5 6",
    "1 3 2 2 2 1 3 1 6 3 4 5 5 4B 5 2 4 1 2 1 2 1 1 1 5 2 2 4 2 4 12 2 2 1 1 1 7 1 1 6 2 122 4 A8",
    "2 1 1 18 1 11 1 1BD 2 C 9 5 5 5 2 2 2 3 5 E 1 1 1 2 6 18 2 39 1 1 1 1D 4 9 2 156 2 1F A 193",
    "16 3F 4 20 2 D463 1 1 1 4 1 D3 1 1 1 D4C1 55 1 47 1 2 2 1 2 2 2 4 1 C 1 1 1 7 1 41 1 4 2 8 1",
    "7 1 1C 1 4 1 5 1 1 3 7 1 154 2 19 1 19 1 1F 1 19 1 1F 1 19 1 1F 1 19 1 1F 1 19 1 8 2 32 1600",
    "4 1 1B 1 2 1 1 2 1 1 A 1 4 1 1 1 1 6 1 4 1 1 1 1 1 1 3 1 2 1 1 2 1 1 1 1 1 1 1 1 1 1 2 1 1 2",
    "4 1 7 1 4 1 4 1 1 1 A 1 11 5 3 1 5 1 11"]

/-- The grapheme extenders that are no nonspacing or enclosing marks. -/
def graphemeExtendChangesCoding : List String := [
    "9BE 1 18 1 166 1 18 1 66 1 18 1 EA 1 12 2 67 1 18 1 77 1 F 1 D55 1 4D6 1 1021 2 CF6E 2 139E 1",
    "18 1 158 1 C 1 F1 1 380 1 B834 1 8 5 C2EAD 60"]

/-- Where `ID_Start` differs from letters and letter numbers. -/
def idStartChangesCoding : List String := [
    "1885 2 891 1 15 1 D00 1 26B 2"]

/-- Where `ID_Continue` differs from `ID_Start` with marks, digits and connectors. -/
def idContinueChangesCoding : List String := [
    "B7 1 2CF 1 FE1 9 668 1"]

def xidStartChangesCoding : List String := [
    "37A 1 AB8 1 7F 1 21E7 2 CBC1 6 196 2 74 1 1 1 1 1 1 1 1 1 1 1 1 1 1 1 11F 2"]

def xidContinueChangesCoding : List String := [
    "37A 1 2D20 2 CBC1 6 196 2 74 1 1 1 1 1 1 1 1 1 1 1 1 1 1 1"]

def lowercasedChangesCoding : List String := [
    "3D2 3 1D2D 1 4 1 3 3 2 3 2 1 3 5 6 1 3 1 3 2 2 2 1 1 A 2 5 1 1B2BA 1A 1A 1A 1A 1A 1A 1 1 2 2",
    "1 2 2 2 4 1 8 1A 1A 1A 2 1 4 2 8 1 7 1B 2 1 4 1 5 1 1 3 7 1B 1A 1A 1A 1A 1A 1A 1A 1A 1A 1A 1A",
    "1E 19 21 19 21 19 21 19 21 19 21 1 1965 1A 6 1A 6 1A"]

def casefoldedChangesCoding : List String := [
    "B5 1 29 1 69 1 35 1 1C5 1 7C 1 D 2 3 2 19 2 3 1 191 1 E18 56 2 6 882 9 211 2 E4 8 8 8 8 8 A 3",
    "2 1 A 3 2 1 2A 3 2 1 8B78 50 4F40 7 C 5"]

def uppercasedChangesCoding : List String := [
    "138 1 54 1 1C 2 E 1 3 1 6 1 2 1 2 1 26 1 2E 1 12 6 1B 1 2 1 1 1 2 3 2 1 4 1 5 2 1 1 2 2 1 7 1",
    "2 1 1 2 3 6 5 1 1 1 8 2 11 95 1 B6 1 163 1 27 1 1777 2C 3F D 2 3 1 10 1 C 101 2 1 1 E8 8 8 8",
    "8 8 C 1 F 1 2F 1 10D 1 3 2 3 1 1B 1 4 1 4 1 2 2 8 4 26 10 350 1A 787 1 2 1 2 5 68 1 7A4B 2 3F",
    "8 15 1 6 1 19 1 23 1 1 1 24 1 335 23 1 7 5 9 128B1 1A 1A 7 1 12 1A 1A 1A 4 1 1 1 7 1 B 1A 1A",
    "1A 1A 1A 1A 1A 1A 1A 1A 1A 1A 1A 1A 1A 1A 1A 1C 1C 19 1 6 1A 19 1 6 1A 19 1 6 1A 19 1 6 1A 19",
    "1 6 1 1 734 A 1 14 6 6"]

def titlecasedChangesCoding : List String := [
    "1C4 2 1 2 1 2 25 2 EDD 2B 2 3 E88 8 8 8 8 8 C 1 F 1 2F 1"]

def compatibilityFoldedChangesCoding : List String := [
    "A0 1 7 1 1 1 2 1 1 1 2 3 3 3 1 3 74 1 C 1 85 1 2 1 2 1 26 1 BC 9 1F 6 2 5 5B 2 1 2 A 1 24 1 5",
    "1 3 1 5 2 1 1 4A 3 1D 1 229 1 58 4 2DF 8 7C 2 1 1 53 1 2 1 22 3 2 1 FD 2 2D5 1 7F 1 28 2 2E 1",
    "36 1 9 1 4 1 4 1 4 1 C 1 9 1 1 5 7 1 11 1 9 1 4 1 4 1 4 1 C 1 142 1 62 2 653 2 55 5 51C 3 1 B",
    "1 12 1 1C D 1 22 25 1B1 1 1 1 1 1 1 1 1 1 1 1 1 1 3F 5 B 3 3 1 9 3 3 1 9 3 D 2 1 10 1 1 5 1 C",
    "3 3 6 3 2 1 2 4 1 1 1 8 3 D 1 7 13 2 1B 1 D B 1 57 4 1 3 1 B 1 2 2 5 2 3 1 1 3 1 3 2 1 3 1 7",
    "1 6 4 5 6 10 10 10 9 1 A2 2 1 2 F8 2 135 56 1A 1B 521 1 67 3 65 1 19F 2 F1 1 12F 1 53 1 C D6",
    "2A 1 35 1 1 3 60 2 2 1 5F 1 31 5E 3 E 60 1F 1 28 8 2F 1 180 729C 2 D2 1 81 3 3 2 362 4 9 1",
    "4D96 10E 2 1 1 1 2 A 1 1 1 1 2 2 3 44 2 6A 43 1 1 18 1 5 1 1 1 2 1 2 1 6C 21 16B 12 40 2 36",
    "28 D 3 1A 16 15 2 C 1 13 1 4 4 3 1 1 1 87 2 1 1 20 1A 84 3 6 2 6 2 6 2 3 3 7 1 7 1 9 788 5 1",
    "2A 1 9 B4E5 4 14BA 7 E 8 40 6 23F 55 1 47 1 2 2 1 2 2 2 4 1 C 1 1 1 7 1 41 1 4 2 8 1 7 1 1C 1",
    "4 1 5 1 1 3 7 1 154 2 124 2 32 830 3E D92 4 1 1B 1 2 1 1 2 1 1 A 1 4 1 1 1 1 6 1 4 1 1 1 1 1",
    "1 3 1 2 1 1 2 1 1 1 1 1 1 1 1 1 1 2 1 1 2 4 1 7 1 4 1 4 1 1 1 A 1 11 5 3 1 5 1 11 244 B 5 1F",
    "1 20 1A 3 23 1 6F 3 D 2C 4 9 7 2 99E A FC06 21E B05E2 1000"]

/-- The properties that are not put together from others: short name, long name and members. -/
def plainPropertyCoding : List (String × String × List String) := [
    ("AHex", "ASCII_Hex_Digit", [
      "30 A 7 6 1A 6"]),
    ("Bidi_C", "Bidi_Control", [
      "61C 1 19F1 2 1A 5 37 4"]),
    ("Bidi_M", "Bidi_Mirrored", [
      "28 2 12 1 1 1 1C 1 1 1 1D 1 1 1 2D 1 F 1 E7E 4 75D 2 99C 2 A 2 36 2 E 2 B1 1 C0 4 3 6 3 1 3",
      "2 3 4 1 4 1 1 1 1 4 9 5 1 1 12 5 4 9 2 1 1 1 8 2 1F 2 4 5 1 9 2 2 13 5 2 9 5 2 2 4 18 2 10",
      "8 4 14 2 7 2 43D E 4A 1 2 4 1 2 1 3 5 4 5 3 3 E 193 16 2 6 1 E 8 1 7 6 3 1 4 5 1 2 2 5 4 1",
      "1 3 2 2 A 6 2 2 C 13 1 4 2 1 1 1 2 1 1 4 5 2 6 3 18 2 B 2 4 4 1 2 2 2 4 2B 2 8 1 28 5 1 1 1",
      "3 5 5 3 4 1 3 5 1 1 100 1 203 4 3 2 1 2 E 2 2 A 2B 8 1AB A 2 8 CE3D 6 5 2 A2 2 12 1 1 1 1C",
      "1 1 1 1D 1 1 1 1 2 1 2 D777 1 39 1 39 1 39 1 39 1"]),
    ("Dash", "Dash", [
      "2D 1 55C 1 33 1 E41 1 405 1 809 6 3D 1 27 1 F 1 186 1 C04 1 2 1 1F 2 4 1 1C 1 1BE 1 13 1 6F",
      "1 CD90 2 25 1 A 1 A9 1 E60 1 13E 1"]),
    ("DI", "Default_Ignorable_Code_Point", [
      "AD 1 2A1 1 2CC 1 B42 2 653 2 55 5 7FB 5 1A 5 31 10 10F4 1 CC9B 10 EF 1 A0 1 4F 9 BCA7 4",
      "14CF 8 C2E85 1000"]),
    ("Dep", "Deprecated", [
      "149 1 529 1 903 1 1 1 829 2 8C5 6 2B9 2 DDCD6 1"]),
    ("Dia", "Diacritic", [
      "5E 1 1 1 47 1 6 1 4 1 2 2 1F7 9F 1 8 5 6 11 2 4 1 9 2 FD 5 D1 1 37 11 1 1B 1 1 1 2 1 1 86 8",
      "4 2 86 2 4 2 3 3 43 1B 5B B 3A B 22 2 7E 8 29 A 10 1C 3D 1 10 1 3 4 1C 1 4A 1 10 1 6E 1 10",
      "1 6E 1 10 1 2F 3 3C 1 10 1 7 1 77 1 6E 1 10 1 6E 1 10 1 6D 2 10 1 7C 1 7C 6 1 1 6B 1 D 5 4B",
      "2 1B 1 1 1 1 1 4 2 42 3 1 2 3E 1 70 1 1 2 28 2 4 5 19 7 1 1 A 2 2C1 3 3B4 2 B3 B 9 1 15B 3",
      "139 8 2 1 30 F 2 B 68 1 F 1 26 9 36 2 8A 2 40 6 52 19 4 1 6 1 2 3 32 3F 59 C 25 B 1BD 1 1 3",
      "B 3 D 3 D 3 D 2 CF0 3 13D 1 1FA 6 69 4 5F 1 7572 1 C 2 1 1 1C 2 52 2 E 22 66 3 6D 2 CA 1 1B",
      "12 39 4 24 1 5F 1 C 1 24 1 95 3 41 4 33 1 64 5 9 3 80 2 4F30 1 301 10 10E 1 1 1 2F 1 2D 2",
      "43 1 2FC 1 49F 6 1 2A 1 9 32A 2 23B 6 1D5 3 46 B 31 4 C0 1 29 1 48 2 78 2 3E 1 4C 1 9 3 68",
      "2 B2 2 51 1 10 1 18 7 3 5 CD 1 3 1 7B 2 FB 2 7E 1 76 2 73 1 10D 2 102 2 4 1 9C 1 53 1 12 1",
      "51 1 1A5 1 102 1 1 2 51 1 16AF F 369A 5 3B 7 458 11 50 2 3FFE 4 1 7 1 2 1F01 2E 2 17 220 3",
      "3 6 8 8 2 7 1E 4 E82 3E C2 7 177 1 3D 4 5E0 7 6D 3 1 3"]),
    ("Emoji", "Emoji", [
      "23 1 6 1 5 A 6F 1 4 1 1F8D 1 C 1 D8 1 16 1 5A 6 F 2 16F 2 C 1 A6 1 19 B 4 3 C7 1 E7 2 A 1 9",
      "1 3A 4 1 5 9 1 2 1 2 2 2 1 4 1 2 1 1 2 2 1 3 1 3 2 8 3 5 1 1 1 5 C B 2 2 1 1 2 1 1 12 1 2 2",
      "12 6 1 1 1 2 3 2 5 1 2 2 4 2 B 2 5 2 2 1 5 2 1 1 1 2 14 2 5 6 1 4 2 1 4 1 2 1 2 6 1 1 2 1 1",
      "1 1 1 6 1 3 1 6 1 A 2 F 1 2 1 4 1 1 1 4 3 1 1 B 2 30 3 9 1 E 1 E 1 174 2 1CF 3 13 2 33 1 4",
      "1 4DA 1 C 1 259 1 1 1 1BD6A 1 CA 1 A0 2 C 2 E 1 2 A 4B 1A 1 2 17 1 14 1 2 9 15 2 AE 22 2 70",
      "2 2 1 3 2 53 2 3 1 107 1 3F B 6 1 18 7 2 2 8 C 1 2 4 2 1 4 2 D 2 2 1 8 2 9 1 5 3 C 3 8 3 2",
      "1 1 1 4 1 6 1 3 1 6 56 30 46 5 8 2 3 4 A 3 1 1 2 3 1 2 A E3 C 4 1 11B 2F 1 A 1 B9 70 D 3 A",
      "5 38 7 F 2 B 6 9"]),
    ("EComp", "Emoji_Component", [
      "23 1 6 1 5 A 1FD3 1 D5 1 DD2B 1 F3D6 1A 1FB 5 5B0 4 C066C 60"]),
    ("EMod", "Emoji_Modifier", [
      "1F3FB 5"]),
    ("EBase", "Emoji_Modifier_Base", [
      "261D 1 DB 1 10 4 1CC77 1 3C 3 2 1 2 3 75 2 2 B 15 13 3 1 4 3 1 3 7 1 1 1 18 1 C9 2 4 1 15 1",
      "4 2 AE 3 3 5 53 1 10 3 9 1 B 1 23F 1 2 1 8 8 6 1 9 A 2 3 38 1 3D 2 1 2 1 1 11 3 1 D E5 3 2A",
      "9"]),
    ("EPres", "Emoji_Presentation", [
      "231A 2 CD 4 3 1 2 1 209 2 15 2 32 C 2B 1 13 1 D 1 8 2 11 2 5 2 8 1 5 1 15 1 7 2 1 1 4 1 2 1",
      "7 1 4 2 1C 1 23 1 1 1 4 3 1 1 3D 3 18 1 E 1 35B 2 33 1 4 1 1C4AE 1 CA 1 BE 1 2 A 4B 1A 1 1",
      "18 1 14 1 2 5 1 3 15 2 AE 21 C 9 1 46 1 16 C 2B 4 5 C 11 3 1 3 47 1 1 1 BB 2 3F D 4 1 18 12",
      "1 1A 2 D 1 56 55 30 46 6 1 3 3 2 3 4 4 B 2 7 9 E3 C 4 1 11B 2F 1 A 1 B9 70 D 3 A 5 38 7 F 2",
      "B 6 9"]),
    ("ExtPict", "Extended_Pictographic", [
      "A9 1 4 1 1F8D 1 C 1 D8 1 16 1 5A 6 F 2 16F 2 C 1 5F 1 46 1 19 B 4 3 C7 1 E7 2 A 1 9 1 3A 4",
      "1 6 1 C 1 72 A 76 2 B 1 1 1 1 6 1 3 1 6 1 A 2 F 1 2 1 4 1 1 1 4 3 1 1 B 5 2D 3 9 1 E 1 E 1",
      "174 2 1CF 3 13 2 33 1 4 1 4DA 1 C 1 259 1 1 1 1BD66 100 D 3 1F 1 3C 6 C 2 E 1 2 A 12 39 1B",
      "F A 1 14 1 2 9 1 4 9 1B2 5 13E 8 10A 30 80 74 C 55 2B C 4 38 8 A 6 28 8 1E 52 C 2F 1 A 1",
      "1B9 100 3FE"]),
    ("Ext", "Extender", [
      "B7 1 218 2 36E 1 1B9 1 35A 1 2F0 1 7F 1 943 1 38 1 263 1 18E 1 44 1 1389 1 2B 5 67 2 5D 3",
      "6F16 1 5F6 1 3C2 1 16 1 89 1 6C 1 15 2 547B 1 810 2 BDA 1 268 3 4CF 1 50A9 2 49C 2 1 1 7158",
      "2 806 3"]),
    ("Hex", "Hex_Digit", [
      "30 A 7 6 1A 6 FEA9 A 7 6 1A 6"]),
    ("Ideo", "Ideographic", [
      "3006 2 19 9 E 3 3C5 19C0 40 5200 5900 16E 2 6A 750A 1 1B 17F8 8 4D6 2A 9 2467 18C 4D04 A6E0",
      "20 103A 6 DE 2 1682 E 1D31 F 26E 9A2 21E 5E2 134B 5 1060"]),
    ("IDSB", "IDS_Binary_Operator", [
      "2FF0 2 2 A 1F1 1"]),
    ("IDST", "IDS_Trinary_Operator", [
      "2FF2 2"]),
    ("IDSU", "IDS_Unary_Operator", [
      "2FFE 2"]),
    ("Join_C", "Join_Control", [
      "200C 2"]),
    ("LOE", "Logical_Order_Exception", [
      "E40 5 7B 5 AF0 3 2 1 90FA 2 2 1 1 2"]),
    ("NChar", "Noncharacter_Code_Point", [
      "FDD0 20 20E 2 FFFE 2 FFFE 2 FFFE 2 FFFE 2 FFFE 2 FFFE 2 FFFE 2 FFFE 2 FFFE 2 FFFE 2 FFFE 2",
      "FFFE 2 FFFE 2 FFFE 2 FFFE 2 FFFE 2"]),
    ("Pat_Syn", "Pattern_Syntax", [
      "21 F A 7 1A 4 1 1 1A 4 22 7 1 1 1 2 1 1 1 2 4 1 4 1 3 1 17 1 1F 1 1F18 18 8 F 2 13 1 A 131",
      "2D0 A0 276 1E 46C 200 80 181 3 4 19 F 1 CD0D 2 105 2"]),
    ("Pat_WS", "Pattern_White_Space", [
      "9 5 12 1 64 1 1F88 2 18 2"]),
    ("PCM", "Prepended_Concatenation_Mark", [
      "600 6 D7 1 31 1 180 2 50 1 107DA 1 F 1"]),
    ("QMark", "Quotation_Mark", [
      "22 1 4 1 83 1 F 1 1F5C 8 19 2 E07 1 1C9 4 D 3 CE21 4 BD 1 4 1 5A 2"]),
    ("Radical", "Radical", [
      "2E80 1A 1 59 C D6"]),
    ("RI", "Regional_Indicator", [
      "1F1E6 1A"]),
    ("STerm", "Sentence_Terminal", [
      "21 1 C 1 10 1 549 1 93 3 B4 1 2B 3 F6 1 3D 1 1 1 3 2 125 2 6E4 2 316 1 4 2 305 1 C6 2 CC 1",
      "5 1 13A 2 162 4 AE 2 2 2 1D 2 BC 2 41 2 3BC 2 9 3 DE4 1 D 1 16 2 1AD 1 74FC 1 10E 2 E3 1 3",
      "1 17E 2 56 2 5F 1 98 2 93 3 90 2 F9 1 5266 1 3 2 A9 1 C 1 10 1 41 1 AF4 2 4FD 5 2C 4 BD 2",
      "75 4 7F 3 81 2 6 1 10 2 58 2 1 2 6C 1 1A1 2 175 2 5 F 69 2 F9 3 205 1 1 1 FB 2 57 2 1A4 2",
      "2B4 2 4A 2 4B29 2 85 1 41 2 B 1 353 1 4E06 1 1DE8 1"]),
    ("SD", "Soft_Dotted", [
      "69 2 C4 1 119 1 1E 1 34 1 14 1 140 1 62 1 1 1 1909 1 33 1 D 1 3 1 84 1 9D 1 1A5 1 D6 2 B32",
      "1 1A7A5 2 32 2 32 2 32 2 32 2 32 2 32 2 32 2 32 2 32 2 32 2 32 2 32 2 886 1 131 2 1A 1"]),
    ("Term", "Terminal_Punctuation", [
      "21 1 A 1 1 1 B 2 3 1 33E 1 8 1 201 1 39 1 48 1 E 1 1 3 B4 1 2B B 1 1 EB 2 36 F 1F 1 105 2",
      "4F4 2 AC 1 4 6 137 2 315 8 305 1 7C 3 47 2 9D 3 3 1 27 4 2 2 13A 2 162 4 AE 2 1 3 1D 2 BC 5",
      "3E 2 3BC 2 9 3 DE4 1 D 1 4 1 A 1 1 2 3 2 1AC 2 74FB 2 10D 3 E3 5 17E 2 56 2 5F 1 97 3 93 3",
      "7F 1 10 2 F9 1 5264 3 1 4 A9 1 A 1 1 1 B 2 3 1 41 1 2 1 43A 1 30 1 486 1 C7 1 136 2 98 6 44",
      "6 59 4 3B8 5 2C 4 BD 7 70 4 7F 3 81 2 6 1 10 2 58 5 6C 1 1A1 3 C 2 166 4 3 F 69 2 F9 3 205",
      "1 1 1 FB 2 57 2 4 2 19E 3 2D 1 285 2 4A 2 52B 5 45F9 2 85 1 41 3 A 1 352 2 4E06 1 1DE7 4"]),
    ("UIdeo", "Unified_Ideograph", [
      "3400 19C0 40 5200 5A0E 2 1 1 1 2 A 1 1 1 1 2 2 3 105D6 A6E0 20 103A 6 DE 2 1682 E 1D31 F",
      "26E 11A2 134B 5 1060"]),
    ("VS", "Variation_Selector", [
      "180B 3 1 1 E5F0 10 D02F0 F0"])]

end BlockOrder
