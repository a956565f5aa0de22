import RequestGuard.Unicode.Mark

/-!
# Directions of writing

The classes of characters by the direction in which they are written, as far as the rules for names
tell them apart. An interval of a table may hold code points that are not assigned.
-/

namespace RequestGuard.Unicode

/-- Letters of scripts that are written from right to left: classes `R` and `AL`. -/
def rightToLeftLetter : CharSet :=
  ⟨[
    1470, 1471, 1472, 1473, 1475, 1476, 1478, 1479, 1488, 1525, 1544, 1545, 1547, 1548, 1549,
    1550, 1563, 1611, 1645, 1648, 1649, 1750, 1765, 1767, 1774, 1776, 1786, 1809, 1810, 1840,
    1869, 1958, 1969, 2027, 2036, 2038, 2042, 2043, 2046, 2070, 2074, 2075, 2084, 2085, 2088,
    2089, 2096, 2137, 2142, 2191, 2208, 2250, 64285, 64286, 64287, 64297, 64298, 64830, 64848,
    64968, 65008, 65021, 65136, 65277, 67584, 67868, 67872, 68097, 68112, 68150, 68160, 68325,
    68331, 68406, 68416, 68900, 68928, 68966, 68975, 69008, 69248, 69290, 69293, 69317, 69376,
    69446, 69457, 69506, 69510, 69623, 124928, 125136, 125184, 125252, 125259, 126652]⟩

/-- Digits that are written from left to right in every script: class `EN`. -/
def leftToRightDigit : CharSet :=
  ⟨[
    48, 58, 178, 180, 185, 186, 1776, 1786, 8304, 8305, 8308, 8314, 8320, 8330, 9352, 9372, 66273,
    66300, 118000, 118010, 120782, 120832, 127232, 127243, 130032, 130042]⟩

/-- Digits that follow the direction of the Arabic script: class `AN`. -/
def arabicDigit : CharSet :=
  ⟨[
    1632, 1642, 1643, 1645, 68912, 68922, 69216, 69247]⟩

/-- Signs without a direction of their own: classes `ES`, `CS`, `ET`, `BN` and `ON`. -/
def undirectedSign : CharSet :=
  ⟨[
    33, 48, 58, 65, 91, 97, 123, 170, 171, 178, 180, 181, 182, 185, 187, 192, 215, 216, 247, 248,
    697, 699, 706, 720, 722, 736, 741, 750, 751, 768, 884, 886, 894, 895, 900, 902, 903, 904,
    1014, 1015, 1418, 1424, 1542, 1544, 1545, 1547, 1548, 1549, 1550, 1552, 1642, 1643, 1758,
    1759, 1769, 1770, 2038, 2042, 2546, 2548, 2555, 2556, 2801, 2802, 3059, 3067, 3192, 3199,
    3647, 3648, 3898, 3902, 5008, 5018, 5120, 5121, 5787, 5789, 6107, 6108, 6128, 6155, 6464,
    6470, 6622, 6656, 8125, 8126, 8127, 8130, 8141, 8144, 8157, 8160, 8173, 8176, 8189, 8287,
    8314, 8319, 8330, 8335, 8352, 8385, 8448, 8450, 8451, 8455, 8456, 8458, 8468, 8469, 8470,
    8473, 8478, 8484, 8485, 8486, 8487, 8488, 8489, 8490, 8494, 8495, 8506, 8508, 8512, 8517,
    8522, 8526, 8528, 8544, 8585, 9014, 9083, 9109, 9110, 9352, 9450, 9900, 9901, 10240, 10496,
    11264, 11493, 11499, 11513, 11520, 11776, 12293, 12296, 12321, 12336, 12337, 12342, 12344,
    12349, 12352, 12443, 12445, 12448, 12449, 12539, 12540, 12736, 12784, 12829, 12831, 12880,
    12896, 12924, 12927, 12977, 12992, 13004, 13008, 13175, 13179, 13278, 13280, 13311, 13312,
    19904, 19968, 42128, 42183, 42509, 42512, 42611, 42612, 42622, 42624, 42752, 42786, 42888,
    42889, 43048, 43052, 43064, 43066, 43124, 43128, 43882, 43884, 64297, 64298, 64830, 64848,
    64975, 64976, 65021, 65050, 65072, 65132, 65375, 65382, 65504, 65519, 65793, 65794, 65856,
    65933, 65936, 65953, 67871, 67872, 68409, 68416, 68974, 68975, 69714, 69734, 71264, 71277,
    73685, 73714, 94178, 94179, 117760, 118000, 118010, 118452, 119273, 119362, 119365, 119366,
    119552, 119639, 120539, 120540, 120597, 120598, 120655, 120656, 120713, 120714, 120771,
    120772, 123647, 123648, 126704, 127222, 127243, 127248, 127279, 127280, 127338, 127344,
    127405, 127406, 127584, 130032]⟩

/-- The code points of marks that take no space and yet are written from left to right. -/
def leftToRightMarks : List Nat := [0xCBF, 0xCC6, 0x11A07, 0x11A08, 0x11C3F]

/-- Marks that take the direction of the character before them: class `NSM`. -/
def isUndirectedMark (c : Char) : Bool :=
  (nonspacingMark.contains c || enclosingMark.contains c) && !leftToRightMarks.contains c.toNat

/-- The direction of a character. -/
inductive Direction
  | leftToRight
  | rightToLeft
  | europeanNumber
  | arabicNumber
  | neutral
  | mark
deriving DecidableEq, Repr

/-- The direction in which a character is written. What is in no table goes from left to right. -/
def Direction.of (c : Char) : Direction :=
  if isUndirectedMark c then .mark
  else if rightToLeftLetter.contains c then .rightToLeft
  else if leftToRightDigit.contains c then .europeanNumber
  else if arabicDigit.contains c then .arabicNumber
  else if undirectedSign.contains c then .neutral
  else .leftToRight

end RequestGuard.Unicode
