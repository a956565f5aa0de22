import RequestGuard.Unicode.Mark

/-!
# Joining of letters

In cursive scripts a letter joins with its neighbours. Two invisible characters, the joiner and the
non-joiner, ask for another form of the letters around them. The letters of a pair are named in the
order of the text, whatever the direction of the script.
-/

namespace RequestGuard.Unicode

/-- Letters that join with the letters on both sides: joining type `D`. -/
def dualJoining : CharSet :=
  ⟨[
    1568, 1569, 1574, 1575, 1576, 1577, 1578, 1583, 1587, 1600, 1601, 1608, 1609, 1611, 1646,
    1648, 1656, 1672, 1690, 1728, 1729, 1731, 1740, 1741, 1742, 1743, 1744, 1746, 1786, 1789,
    1791, 1792, 1810, 1813, 1818, 1822, 1823, 1832, 1833, 1834, 1835, 1836, 1837, 1839, 1870,
    1881, 1884, 1899, 1901, 1905, 1906, 1907, 1909, 1912, 1914, 1920, 1994, 2027, 2113, 2118,
    2120, 2121, 2122, 2132, 2133, 2134, 2144, 2145, 2146, 2150, 2152, 2153, 2182, 2183, 2185,
    2190, 2208, 2218, 2223, 2225, 2227, 2233, 2234, 2249, 6151, 6152, 6176, 6265, 6279, 6313,
    6314, 6315, 43072, 43122, 68288, 68293, 68307, 68311, 68312, 68317, 68318, 68321, 68331,
    68335, 68480, 68481, 68482, 68483, 68486, 68489, 68490, 68492, 68493, 68494, 68496, 68497,
    68525, 68527, 68865, 68898, 68899, 68900, 69424, 69427, 69428, 69445, 69457, 69460, 69488,
    69492, 69494, 69506, 69552, 69553, 69554, 69556, 69560, 69561, 69563, 69565, 69566, 69568,
    69569, 69570, 69572, 69573, 69578, 69579, 125184, 125252]⟩

/-- Letters that join with the letter before them only: joining type `R`. -/
def rightJoining : CharSet :=
  ⟨[
    1570, 1574, 1575, 1576, 1577, 1578, 1583, 1587, 1608, 1609, 1649, 1652, 1653, 1656, 1672,
    1690, 1728, 1729, 1731, 1740, 1741, 1742, 1743, 1744, 1746, 1748, 1749, 1750, 1774, 1776,
    1808, 1809, 1813, 1818, 1822, 1823, 1832, 1833, 1834, 1835, 1836, 1837, 1839, 1840, 1869,
    1870, 1881, 1884, 1899, 1901, 1905, 1906, 1907, 1909, 1912, 1914, 2112, 2113, 2118, 2120,
    2121, 2122, 2132, 2133, 2134, 2137, 2151, 2152, 2153, 2155, 2160, 2179, 2190, 2191, 2218,
    2221, 2222, 2223, 2225, 2227, 2233, 2234, 68293, 68294, 68295, 68296, 68297, 68299, 68302,
    68307, 68317, 68318, 68321, 68322, 68324, 68325, 68335, 68336, 68481, 68482, 68483, 68486,
    68489, 68490, 68492, 68493, 68494, 68496, 68497, 68498, 68521, 68525, 68898, 68899, 69427,
    69428, 69460, 69461, 69492, 69494, 69556, 69559, 69561, 69563, 69565, 69566, 69570, 69572,
    69577, 69578]⟩

/-- Letters that join with the letter after them only: joining type `L`. -/
def leftJoining : CharSet :=
  ⟨[
    43122, 43123, 68301, 68302, 68311, 68312, 68864, 68865, 69579, 69580]⟩

/-- Marks that take a vowel away: combining class 9. -/
def virama : CharSet :=
  ⟨[
    2381, 2382, 2509, 2510, 2637, 2638, 2765, 2766, 2893, 2894, 3021, 3022, 3149, 3150, 3277,
    3278, 3387, 3389, 3405, 3406, 3530, 3531, 3642, 3643, 3770, 3771, 3972, 3973, 4153, 4155,
    5908, 5910, 5940, 5941, 6098, 6099, 6752, 6753, 6980, 6981, 7082, 7084, 7154, 7156, 11647,
    11648, 43014, 43015, 43052, 43053, 43204, 43205, 43347, 43348, 43456, 43457, 43766, 43767,
    44013, 44014, 68159, 68160, 69702, 69703, 69744, 69745, 69759, 69760, 69817, 69818, 69939,
    69941, 70080, 70081, 70197, 70198, 70378, 70379, 70477, 70478, 70606, 70609, 70722, 70723,
    70850, 70851, 71103, 71104, 71231, 71232, 71350, 71351, 71467, 71468, 71737, 71738, 71997,
    71999, 72160, 72161, 72244, 72245, 72263, 72264, 72345, 72346, 72767, 72768, 73028, 73030,
    73111, 73112, 73537, 73539, 90415, 90416]⟩

/-- The character that keeps its neighbours from joining. -/
def nonJoiner : Char := Char.ofNat 0x200C

/-- The character that lets its neighbours join. -/
def joiner : Char := Char.ofNat 0x200D

def joinsNext (c : Char) : Bool := dualJoining.contains c || leftJoining.contains c

def joinsPrevious (c : Char) : Bool := dualJoining.contains c || rightJoining.contains c

/-- Whether the letters around a character join across it: marks without a width, and the mark that
doubles a letter of the Adlam script. -/
def isTransparent (c : Char) : Bool :=
  nonspacingMark.contains c || enclosingMark.contains c || c.toNat == 0x1E94B

end RequestGuard.Unicode
