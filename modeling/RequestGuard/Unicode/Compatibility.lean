import RequestGuard.Unicode.CharSet

/-!
# Compatibility forms

Characters that stand for other characters, such as ligatures, letters in a circle and letters of
mathematics. Upper case is not among them. An interval of a table may hold code points that are not
assigned, and some that stand for others by their case.
-/

namespace RequestGuard.Unicode

/-- Characters that stand for other characters, whatever their case. -/
def compatibilityForm : CharSet :=
  ⟨[
    160, 161, 168, 169, 170, 171, 175, 176, 178, 181, 184, 187, 188, 191, 304, 305, 307, 308, 320,
    321, 329, 330, 454, 461, 499, 500, 688, 697, 728, 734, 736, 741, 832, 834, 835, 837, 884, 885,
    890, 891, 894, 904, 978, 981, 1010, 1011, 1415, 1416, 1653, 1657, 2392, 2400, 2524, 2528,
    2611, 2612, 2614, 2615, 2649, 2652, 2654, 2655, 2908, 2910, 3635, 3636, 3763, 3764, 3804,
    3806, 3852, 3853, 3907, 3908, 3917, 3918, 3922, 3923, 3927, 3928, 3932, 3933, 3945, 3946,
    3955, 3956, 3957, 3962, 3969, 3970, 3987, 3988, 3997, 3998, 4002, 4003, 4007, 4008, 4012,
    4013, 4025, 4026, 4348, 4349, 7468, 7471, 7472, 7483, 7484, 7502, 7503, 7531, 7544, 7545,
    7579, 7616, 7834, 7835, 8049, 8050, 8051, 8052, 8053, 8054, 8055, 8056, 8057, 8058, 8059,
    8060, 8061, 8104, 8114, 8117, 8119, 8133, 8135, 8144, 8147, 8148, 8157, 8160, 8163, 8164,
    8173, 8181, 8183, 8203, 8209, 8210, 8215, 8216, 8239, 8240, 8243, 8245, 8246, 8248, 8252,
    8253, 8254, 8255, 8263, 8266, 8279, 8280, 8287, 8288, 8304, 8349, 8360, 8361, 8448, 8452,
    8453, 8456, 8457, 8468, 8469, 8471, 8473, 8478, 8480, 8483, 8484, 8485, 8488, 8489, 8492,
    8494, 8495, 8506, 8507, 8513, 8517, 8522, 8528, 8576, 8585, 8586, 8748, 8750, 8751, 8753,
    9001, 9003, 9312, 9451, 10764, 10765, 10868, 10871, 10972, 10973, 11388, 11390, 11631, 11632,
    11935, 11936, 12019, 12289, 12290, 12291, 12342, 12343, 12344, 12347, 12443, 12445, 12447,
    12448, 12543, 12544, 12593, 12644, 12645, 12687, 12690, 12704, 12800, 12872, 12880, 12927,
    12928, 13312, 42652, 42654, 42864, 42865, 42958, 42959, 42962, 42963, 42964, 42965, 42993,
    42997, 43000, 43002, 43868, 43872, 43881, 43882, 63744, 64014, 64016, 64017, 64018, 64019,
    64021, 64031, 64032, 64033, 64034, 64035, 64037, 64039, 64042, 64286, 64287, 64434, 64467,
    64830, 64848, 64912, 64914, 64968, 65008, 65021, 65040, 65049, 65073, 65093, 65095, 65139,
    65140, 65277, 65281, 65440, 65441, 65519, 67457, 67515, 93856, 93881, 117974, 118010, 119134,
    119141, 119227, 119233, 119808, 120832, 122928, 122990, 126464, 126652, 127233, 127243,
    127248, 127279, 127280, 127312, 127338, 127341, 127376, 127377, 127488, 127570, 130032,
    130042, 194560, 195102]⟩

/-- Characters that stand for a text with a blank, a stop or another separator of a URL in it, and
the signs that describe how ideographs are put together. -/
def separatorForm : CharSet :=
  ⟨[
    168, 169, 175, 176, 180, 181, 184, 185, 728, 734, 890, 891, 900, 902, 8125, 8126, 8127, 8130,
    8141, 8144, 8157, 8160, 8173, 8175, 8189, 8191, 8215, 8216, 8228, 8231, 8254, 8255, 8263,
    8266, 8448, 8450, 8453, 8455, 9352, 9372, 10868, 10869, 12272, 12288, 12443, 12445, 12783,
    12784, 13250, 13251, 13255, 13256, 13272, 13273, 64606, 64612, 65018, 65020, 65042, 65044,
    65046, 65047, 65049, 65050, 65072, 65073, 65095, 65101, 65106, 65107, 65109, 65111, 65119,
    65120, 65124, 65126, 65128, 65129, 65130, 65132, 65136, 65137, 65138, 65139, 65140, 65141,
    65142, 65143, 65144, 65145, 65146, 65147, 65148, 65149, 65150, 65151, 65507, 65508, 127232,
    127233]⟩

end RequestGuard.Unicode
