/-!
# Marks

Marks are put on or beside the character before them.  The class of a mark says where, and so which marks
keep their order.

## Main definitions

* `Hostname.MarkRun` — marks of the same kind.
* `Hostname.isMark`, `Hostname.isNonspacing` — marks, and those among them that take no room of their own.
* `Hostname.markClass` — the class of a character, zero if it begins a new place.
-/

namespace IntentSpec.Hostname

/-- Neighbouring marks of the same kind. -/
structure MarkRun where
  first : Nat
  last : Nat
  /-- Whether the marks take room of their own. -/
  spacing : Bool
  markClass : Nat

/-- The marks of Unicode 14. -/
def markRuns : List MarkRun := [
  ⟨0x300, 0x314, false, 230⟩, ⟨0x315, 0x315, false, 232⟩, ⟨0x316, 0x319, false, 220⟩,
  ⟨0x31a, 0x31a, false, 232⟩, ⟨0x31b, 0x31b, false, 216⟩, ⟨0x31c, 0x320, false, 220⟩,
  ⟨0x321, 0x322, false, 202⟩, ⟨0x323, 0x326, false, 220⟩, ⟨0x327, 0x328, false, 202⟩,
  ⟨0x329, 0x333, false, 220⟩, ⟨0x334, 0x338, false, 1⟩, ⟨0x339, 0x33c, false, 220⟩,
  ⟨0x33d, 0x344, false, 230⟩, ⟨0x345, 0x345, false, 240⟩, ⟨0x346, 0x346, false, 230⟩,
  ⟨0x347, 0x349, false, 220⟩, ⟨0x34a, 0x34c, false, 230⟩, ⟨0x34d, 0x34e, false, 220⟩,
  ⟨0x34f, 0x34f, false, 0⟩, ⟨0x350, 0x352, false, 230⟩, ⟨0x353, 0x356, false, 220⟩,
  ⟨0x357, 0x357, false, 230⟩, ⟨0x358, 0x358, false, 232⟩, ⟨0x359, 0x35a, false, 220⟩,
  ⟨0x35b, 0x35b, false, 230⟩, ⟨0x35c, 0x35c, false, 233⟩, ⟨0x35d, 0x35e, false, 234⟩,
  ⟨0x35f, 0x35f, false, 233⟩, ⟨0x360, 0x361, false, 234⟩, ⟨0x362, 0x362, false, 233⟩,
  ⟨0x363, 0x36f, false, 230⟩, ⟨0x483, 0x487, false, 230⟩, ⟨0x488, 0x489, false, 0⟩,
  ⟨0x591, 0x591, false, 220⟩, ⟨0x592, 0x595, false, 230⟩, ⟨0x596, 0x596, false, 220⟩,
  ⟨0x597, 0x599, false, 230⟩, ⟨0x59a, 0x59a, false, 222⟩, ⟨0x59b, 0x59b, false, 220⟩,
  ⟨0x59c, 0x5a1, false, 230⟩, ⟨0x5a2, 0x5a7, false, 220⟩, ⟨0x5a8, 0x5a9, false, 230⟩,
  ⟨0x5aa, 0x5aa, false, 220⟩, ⟨0x5ab, 0x5ac, false, 230⟩, ⟨0x5ad, 0x5ad, false, 222⟩,
  ⟨0x5ae, 0x5ae, false, 228⟩, ⟨0x5af, 0x5af, false, 230⟩, ⟨0x5b0, 0x5b0, false, 10⟩,
  ⟨0x5b1, 0x5b1, false, 11⟩, ⟨0x5b2, 0x5b2, false, 12⟩, ⟨0x5b3, 0x5b3, false, 13⟩,
  ⟨0x5b4, 0x5b4, false, 14⟩, ⟨0x5b5, 0x5b5, false, 15⟩, ⟨0x5b6, 0x5b6, false, 16⟩,
  ⟨0x5b7, 0x5b7, false, 17⟩, ⟨0x5b8, 0x5b8, false, 18⟩, ⟨0x5b9, 0x5ba, false, 19⟩,
  ⟨0x5bb, 0x5bb, false, 20⟩, ⟨0x5bc, 0x5bc, false, 21⟩, ⟨0x5bd, 0x5bd, false, 22⟩,
  ⟨0x5bf, 0x5bf, false, 23⟩, ⟨0x5c1, 0x5c1, false, 24⟩, ⟨0x5c2, 0x5c2, false, 25⟩,
  ⟨0x5c4, 0x5c4, false, 230⟩, ⟨0x5c5, 0x5c5, false, 220⟩, ⟨0x5c7, 0x5c7, false, 18⟩,
  ⟨0x610, 0x617, false, 230⟩, ⟨0x618, 0x618, false, 30⟩, ⟨0x619, 0x619, false, 31⟩,
  ⟨0x61a, 0x61a, false, 32⟩, ⟨0x64b, 0x64b, false, 27⟩, ⟨0x64c, 0x64c, false, 28⟩,
  ⟨0x64d, 0x64d, false, 29⟩, ⟨0x64e, 0x64e, false, 30⟩, ⟨0x64f, 0x64f, false, 31⟩,
  ⟨0x650, 0x650, false, 32⟩, ⟨0x651, 0x651, false, 33⟩, ⟨0x652, 0x652, false, 34⟩,
  ⟨0x653, 0x654, false, 230⟩, ⟨0x655, 0x656, false, 220⟩, ⟨0x657, 0x65b, false, 230⟩,
  ⟨0x65c, 0x65c, false, 220⟩, ⟨0x65d, 0x65e, false, 230⟩, ⟨0x65f, 0x65f, false, 220⟩,
  ⟨0x670, 0x670, false, 35⟩, ⟨0x6d6, 0x6dc, false, 230⟩, ⟨0x6df, 0x6e2, false, 230⟩,
  ⟨0x6e3, 0x6e3, false, 220⟩, ⟨0x6e4, 0x6e4, false, 230⟩, ⟨0x6e7, 0x6e8, false, 230⟩,
  ⟨0x6ea, 0x6ea, false, 220⟩, ⟨0x6eb, 0x6ec, false, 230⟩, ⟨0x6ed, 0x6ed, false, 220⟩,
  ⟨0x711, 0x711, false, 36⟩, ⟨0x730, 0x730, false, 230⟩, ⟨0x731, 0x731, false, 220⟩,
  ⟨0x732, 0x733, false, 230⟩, ⟨0x734, 0x734, false, 220⟩, ⟨0x735, 0x736, false, 230⟩,
  ⟨0x737, 0x739, false, 220⟩, ⟨0x73a, 0x73a, false, 230⟩, ⟨0x73b, 0x73c, false, 220⟩,
  ⟨0x73d, 0x73d, false, 230⟩, ⟨0x73e, 0x73e, false, 220⟩, ⟨0x73f, 0x741, false, 230⟩,
  ⟨0x742, 0x742, false, 220⟩, ⟨0x743, 0x743, false, 230⟩, ⟨0x744, 0x744, false, 220⟩,
  ⟨0x745, 0x745, false, 230⟩, ⟨0x746, 0x746, false, 220⟩, ⟨0x747, 0x747, false, 230⟩,
  ⟨0x748, 0x748, false, 220⟩, ⟨0x749, 0x74a, false, 230⟩, ⟨0x7a6, 0x7b0, false, 0⟩,
  ⟨0x7eb, 0x7f1, false, 230⟩, ⟨0x7f2, 0x7f2, false, 220⟩, ⟨0x7f3, 0x7f3, false, 230⟩,
  ⟨0x7fd, 0x7fd, false, 220⟩, ⟨0x816, 0x819, false, 230⟩, ⟨0x81b, 0x823, false, 230⟩,
  ⟨0x825, 0x827, false, 230⟩, ⟨0x829, 0x82d, false, 230⟩, ⟨0x859, 0x85b, false, 220⟩,
  ⟨0x898, 0x898, false, 230⟩, ⟨0x899, 0x89b, false, 220⟩, ⟨0x89c, 0x89f, false, 230⟩,
  ⟨0x8ca, 0x8ce, false, 230⟩, ⟨0x8cf, 0x8d3, false, 220⟩, ⟨0x8d4, 0x8e1, false, 230⟩,
  ⟨0x8e3, 0x8e3, false, 220⟩, ⟨0x8e4, 0x8e5, false, 230⟩, ⟨0x8e6, 0x8e6, false, 220⟩,
  ⟨0x8e7, 0x8e8, false, 230⟩, ⟨0x8e9, 0x8e9, false, 220⟩, ⟨0x8ea, 0x8ec, false, 230⟩,
  ⟨0x8ed, 0x8ef, false, 220⟩, ⟨0x8f0, 0x8f0, false, 27⟩, ⟨0x8f1, 0x8f1, false, 28⟩,
  ⟨0x8f2, 0x8f2, false, 29⟩, ⟨0x8f3, 0x8f5, false, 230⟩, ⟨0x8f6, 0x8f6, false, 220⟩,
  ⟨0x8f7, 0x8f8, false, 230⟩, ⟨0x8f9, 0x8fa, false, 220⟩, ⟨0x8fb, 0x8ff, false, 230⟩,
  ⟨0x900, 0x902, false, 0⟩, ⟨0x903, 0x903, true, 0⟩, ⟨0x93a, 0x93a, false, 0⟩,
  ⟨0x93b, 0x93b, true, 0⟩, ⟨0x93c, 0x93c, false, 7⟩, ⟨0x93e, 0x940, true, 0⟩,
  ⟨0x941, 0x948, false, 0⟩, ⟨0x949, 0x94c, true, 0⟩, ⟨0x94d, 0x94d, false, 9⟩,
  ⟨0x94e, 0x94f, true, 0⟩, ⟨0x951, 0x951, false, 230⟩, ⟨0x952, 0x952, false, 220⟩,
  ⟨0x953, 0x954, false, 230⟩, ⟨0x955, 0x957, false, 0⟩, ⟨0x962, 0x963, false, 0⟩,
  ⟨0x981, 0x981, false, 0⟩, ⟨0x982, 0x983, true, 0⟩, ⟨0x9bc, 0x9bc, false, 7⟩,
  ⟨0x9be, 0x9c0, true, 0⟩, ⟨0x9c1, 0x9c4, false, 0⟩, ⟨0x9c7, 0x9c8, true, 0⟩,
  ⟨0x9cb, 0x9cc, true, 0⟩, ⟨0x9cd, 0x9cd, false, 9⟩, ⟨0x9d7, 0x9d7, true, 0⟩,
  ⟨0x9e2, 0x9e3, false, 0⟩, ⟨0x9fe, 0x9fe, false, 230⟩, ⟨0xa01, 0xa02, false, 0⟩,
  ⟨0xa03, 0xa03, true, 0⟩, ⟨0xa3c, 0xa3c, false, 7⟩, ⟨0xa3e, 0xa40, true, 0⟩,
  ⟨0xa41, 0xa42, false, 0⟩, ⟨0xa47, 0xa48, false, 0⟩, ⟨0xa4b, 0xa4c, false, 0⟩,
  ⟨0xa4d, 0xa4d, false, 9⟩, ⟨0xa51, 0xa51, false, 0⟩, ⟨0xa70, 0xa71, false, 0⟩,
  ⟨0xa75, 0xa75, false, 0⟩, ⟨0xa81, 0xa82, false, 0⟩, ⟨0xa83, 0xa83, true, 0⟩,
  ⟨0xabc, 0xabc, false, 7⟩, ⟨0xabe, 0xac0, true, 0⟩, ⟨0xac1, 0xac5, false, 0⟩,
  ⟨0xac7, 0xac8, false, 0⟩, ⟨0xac9, 0xac9, true, 0⟩, ⟨0xacb, 0xacc, true, 0⟩,
  ⟨0xacd, 0xacd, false, 9⟩, ⟨0xae2, 0xae3, false, 0⟩, ⟨0xafa, 0xaff, false, 0⟩,
  ⟨0xb01, 0xb01, false, 0⟩, ⟨0xb02, 0xb03, true, 0⟩, ⟨0xb3c, 0xb3c, false, 7⟩,
  ⟨0xb3e, 0xb3e, true, 0⟩, ⟨0xb3f, 0xb3f, false, 0⟩, ⟨0xb40, 0xb40, true, 0⟩,
  ⟨0xb41, 0xb44, false, 0⟩, ⟨0xb47, 0xb48, true, 0⟩, ⟨0xb4b, 0xb4c, true, 0⟩,
  ⟨0xb4d, 0xb4d, false, 9⟩, ⟨0xb55, 0xb56, false, 0⟩, ⟨0xb57, 0xb57, true, 0⟩,
  ⟨0xb62, 0xb63, false, 0⟩, ⟨0xb82, 0xb82, false, 0⟩, ⟨0xbbe, 0xbbf, true, 0⟩,
  ⟨0xbc0, 0xbc0, false, 0⟩, ⟨0xbc1, 0xbc2, true, 0⟩, ⟨0xbc6, 0xbc8, true, 0⟩,
  ⟨0xbca, 0xbcc, true, 0⟩, ⟨0xbcd, 0xbcd, false, 9⟩, ⟨0xbd7, 0xbd7, true, 0⟩,
  ⟨0xc00, 0xc00, false, 0⟩, ⟨0xc01, 0xc03, true, 0⟩, ⟨0xc04, 0xc04, false, 0⟩,
  ⟨0xc3c, 0xc3c, false, 7⟩, ⟨0xc3e, 0xc40, false, 0⟩, ⟨0xc41, 0xc44, true, 0⟩,
  ⟨0xc46, 0xc48, false, 0⟩, ⟨0xc4a, 0xc4c, false, 0⟩, ⟨0xc4d, 0xc4d, false, 9⟩,
  ⟨0xc55, 0xc55, false, 84⟩, ⟨0xc56, 0xc56, false, 91⟩, ⟨0xc62, 0xc63, false, 0⟩,
  ⟨0xc81, 0xc81, false, 0⟩, ⟨0xc82, 0xc83, true, 0⟩, ⟨0xcbc, 0xcbc, false, 7⟩,
  ⟨0xcbe, 0xcbe, true, 0⟩, ⟨0xcbf, 0xcbf, false, 0⟩, ⟨0xcc0, 0xcc4, true, 0⟩,
  ⟨0xcc6, 0xcc6, false, 0⟩, ⟨0xcc7, 0xcc8, true, 0⟩, ⟨0xcca, 0xccb, true, 0⟩,
  ⟨0xccc, 0xccc, false, 0⟩, ⟨0xccd, 0xccd, false, 9⟩, ⟨0xcd5, 0xcd6, true, 0⟩,
  ⟨0xce2, 0xce3, false, 0⟩, ⟨0xd00, 0xd01, false, 0⟩, ⟨0xd02, 0xd03, true, 0⟩,
  ⟨0xd3b, 0xd3c, false, 9⟩, ⟨0xd3e, 0xd40, true, 0⟩, ⟨0xd41, 0xd44, false, 0⟩,
  ⟨0xd46, 0xd48, true, 0⟩, ⟨0xd4a, 0xd4c, true, 0⟩, ⟨0xd4d, 0xd4d, false, 9⟩,
  ⟨0xd57, 0xd57, true, 0⟩, ⟨0xd62, 0xd63, false, 0⟩, ⟨0xd81, 0xd81, false, 0⟩,
  ⟨0xd82, 0xd83, true, 0⟩, ⟨0xdca, 0xdca, false, 9⟩, ⟨0xdcf, 0xdd1, true, 0⟩,
  ⟨0xdd2, 0xdd4, false, 0⟩, ⟨0xdd6, 0xdd6, false, 0⟩, ⟨0xdd8, 0xddf, true, 0⟩,
  ⟨0xdf2, 0xdf3, true, 0⟩, ⟨0xe31, 0xe31, false, 0⟩, ⟨0xe34, 0xe37, false, 0⟩,
  ⟨0xe38, 0xe39, false, 103⟩, ⟨0xe3a, 0xe3a, false, 9⟩, ⟨0xe47, 0xe47, false, 0⟩,
  ⟨0xe48, 0xe4b, false, 107⟩, ⟨0xe4c, 0xe4e, false, 0⟩, ⟨0xeb1, 0xeb1, false, 0⟩,
  ⟨0xeb4, 0xeb7, false, 0⟩, ⟨0xeb8, 0xeb9, false, 118⟩, ⟨0xeba, 0xeba, false, 9⟩,
  ⟨0xebb, 0xebc, false, 0⟩, ⟨0xec8, 0xecb, false, 122⟩, ⟨0xecc, 0xecd, false, 0⟩,
  ⟨0xf18, 0xf19, false, 220⟩, ⟨0xf35, 0xf35, false, 220⟩, ⟨0xf37, 0xf37, false, 220⟩,
  ⟨0xf39, 0xf39, false, 216⟩, ⟨0xf3e, 0xf3f, true, 0⟩, ⟨0xf71, 0xf71, false, 129⟩,
  ⟨0xf72, 0xf72, false, 130⟩, ⟨0xf73, 0xf73, false, 0⟩, ⟨0xf74, 0xf74, false, 132⟩,
  ⟨0xf75, 0xf79, false, 0⟩, ⟨0xf7a, 0xf7d, false, 130⟩, ⟨0xf7e, 0xf7e, false, 0⟩,
  ⟨0xf7f, 0xf7f, true, 0⟩, ⟨0xf80, 0xf80, false, 130⟩, ⟨0xf81, 0xf81, false, 0⟩,
  ⟨0xf82, 0xf83, false, 230⟩, ⟨0xf84, 0xf84, false, 9⟩, ⟨0xf86, 0xf87, false, 230⟩,
  ⟨0xf8d, 0xf97, false, 0⟩, ⟨0xf99, 0xfbc, false, 0⟩, ⟨0xfc6, 0xfc6, false, 220⟩,
  ⟨0x102b, 0x102c, true, 0⟩, ⟨0x102d, 0x1030, false, 0⟩, ⟨0x1031, 0x1031, true, 0⟩,
  ⟨0x1032, 0x1036, false, 0⟩, ⟨0x1037, 0x1037, false, 7⟩, ⟨0x1038, 0x1038, true, 0⟩,
  ⟨0x1039, 0x103a, false, 9⟩, ⟨0x103b, 0x103c, true, 0⟩, ⟨0x103d, 0x103e, false, 0⟩,
  ⟨0x1056, 0x1057, true, 0⟩, ⟨0x1058, 0x1059, false, 0⟩, ⟨0x105e, 0x1060, false, 0⟩,
  ⟨0x1062, 0x1064, true, 0⟩, ⟨0x1067, 0x106d, true, 0⟩, ⟨0x1071, 0x1074, false, 0⟩,
  ⟨0x1082, 0x1082, false, 0⟩, ⟨0x1083, 0x1084, true, 0⟩, ⟨0x1085, 0x1086, false, 0⟩,
  ⟨0x1087, 0x108c, true, 0⟩, ⟨0x108d, 0x108d, false, 220⟩, ⟨0x108f, 0x108f, true, 0⟩,
  ⟨0x109a, 0x109c, true, 0⟩, ⟨0x109d, 0x109d, false, 0⟩, ⟨0x135d, 0x135f, false, 230⟩,
  ⟨0x1712, 0x1713, false, 0⟩, ⟨0x1714, 0x1714, false, 9⟩, ⟨0x1715, 0x1715, true, 9⟩,
  ⟨0x1732, 0x1733, false, 0⟩, ⟨0x1734, 0x1734, true, 9⟩, ⟨0x1752, 0x1753, false, 0⟩,
  ⟨0x1772, 0x1773, false, 0⟩, ⟨0x17b4, 0x17b5, false, 0⟩, ⟨0x17b6, 0x17b6, true, 0⟩,
  ⟨0x17b7, 0x17bd, false, 0⟩, ⟨0x17be, 0x17c5, true, 0⟩, ⟨0x17c6, 0x17c6, false, 0⟩,
  ⟨0x17c7, 0x17c8, true, 0⟩, ⟨0x17c9, 0x17d1, false, 0⟩, ⟨0x17d2, 0x17d2, false, 9⟩,
  ⟨0x17d3, 0x17d3, false, 0⟩, ⟨0x17dd, 0x17dd, false, 230⟩, ⟨0x180b, 0x180d, false, 0⟩,
  ⟨0x180f, 0x180f, false, 0⟩, ⟨0x1885, 0x1886, false, 0⟩, ⟨0x18a9, 0x18a9, false, 228⟩,
  ⟨0x1920, 0x1922, false, 0⟩, ⟨0x1923, 0x1926, true, 0⟩, ⟨0x1927, 0x1928, false, 0⟩,
  ⟨0x1929, 0x192b, true, 0⟩, ⟨0x1930, 0x1931, true, 0⟩, ⟨0x1932, 0x1932, false, 0⟩,
  ⟨0x1933, 0x1938, true, 0⟩, ⟨0x1939, 0x1939, false, 222⟩, ⟨0x193a, 0x193a, false, 230⟩,
  ⟨0x193b, 0x193b, false, 220⟩, ⟨0x1a17, 0x1a17, false, 230⟩, ⟨0x1a18, 0x1a18, false, 220⟩,
  ⟨0x1a19, 0x1a1a, true, 0⟩, ⟨0x1a1b, 0x1a1b, false, 0⟩, ⟨0x1a55, 0x1a55, true, 0⟩,
  ⟨0x1a56, 0x1a56, false, 0⟩, ⟨0x1a57, 0x1a57, true, 0⟩, ⟨0x1a58, 0x1a5e, false, 0⟩,
  ⟨0x1a60, 0x1a60, false, 9⟩, ⟨0x1a61, 0x1a61, true, 0⟩, ⟨0x1a62, 0x1a62, false, 0⟩,
  ⟨0x1a63, 0x1a64, true, 0⟩, ⟨0x1a65, 0x1a6c, false, 0⟩, ⟨0x1a6d, 0x1a72, true, 0⟩,
  ⟨0x1a73, 0x1a74, false, 0⟩, ⟨0x1a75, 0x1a7c, false, 230⟩, ⟨0x1a7f, 0x1a7f, false, 220⟩,
  ⟨0x1ab0, 0x1ab4, false, 230⟩, ⟨0x1ab5, 0x1aba, false, 220⟩, ⟨0x1abb, 0x1abc, false, 230⟩,
  ⟨0x1abd, 0x1abd, false, 220⟩, ⟨0x1abe, 0x1abe, false, 0⟩, ⟨0x1abf, 0x1ac0, false, 220⟩,
  ⟨0x1ac1, 0x1ac2, false, 230⟩, ⟨0x1ac3, 0x1ac4, false, 220⟩, ⟨0x1ac5, 0x1ac9, false, 230⟩,
  ⟨0x1aca, 0x1aca, false, 220⟩, ⟨0x1acb, 0x1ace, false, 230⟩, ⟨0x1b00, 0x1b03, false, 0⟩,
  ⟨0x1b04, 0x1b04, true, 0⟩, ⟨0x1b34, 0x1b34, false, 7⟩, ⟨0x1b35, 0x1b35, true, 0⟩,
  ⟨0x1b36, 0x1b3a, false, 0⟩, ⟨0x1b3b, 0x1b3b, true, 0⟩, ⟨0x1b3c, 0x1b3c, false, 0⟩,
  ⟨0x1b3d, 0x1b41, true, 0⟩, ⟨0x1b42, 0x1b42, false, 0⟩, ⟨0x1b43, 0x1b43, true, 0⟩,
  ⟨0x1b44, 0x1b44, true, 9⟩, ⟨0x1b6b, 0x1b6b, false, 230⟩, ⟨0x1b6c, 0x1b6c, false, 220⟩,
  ⟨0x1b6d, 0x1b73, false, 230⟩, ⟨0x1b80, 0x1b81, false, 0⟩, ⟨0x1b82, 0x1b82, true, 0⟩,
  ⟨0x1ba1, 0x1ba1, true, 0⟩, ⟨0x1ba2, 0x1ba5, false, 0⟩, ⟨0x1ba6, 0x1ba7, true, 0⟩,
  ⟨0x1ba8, 0x1ba9, false, 0⟩, ⟨0x1baa, 0x1baa, true, 9⟩, ⟨0x1bab, 0x1bab, false, 9⟩,
  ⟨0x1bac, 0x1bad, false, 0⟩, ⟨0x1be6, 0x1be6, false, 7⟩, ⟨0x1be7, 0x1be7, true, 0⟩,
  ⟨0x1be8, 0x1be9, false, 0⟩, ⟨0x1bea, 0x1bec, true, 0⟩, ⟨0x1bed, 0x1bed, false, 0⟩,
  ⟨0x1bee, 0x1bee, true, 0⟩, ⟨0x1bef, 0x1bf1, false, 0⟩, ⟨0x1bf2, 0x1bf3, true, 9⟩,
  ⟨0x1c24, 0x1c2b, true, 0⟩, ⟨0x1c2c, 0x1c33, false, 0⟩, ⟨0x1c34, 0x1c35, true, 0⟩,
  ⟨0x1c36, 0x1c36, false, 0⟩, ⟨0x1c37, 0x1c37, false, 7⟩, ⟨0x1cd0, 0x1cd2, false, 230⟩,
  ⟨0x1cd4, 0x1cd4, false, 1⟩, ⟨0x1cd5, 0x1cd9, false, 220⟩, ⟨0x1cda, 0x1cdb, false, 230⟩,
  ⟨0x1cdc, 0x1cdf, false, 220⟩, ⟨0x1ce0, 0x1ce0, false, 230⟩, ⟨0x1ce1, 0x1ce1, true, 0⟩,
  ⟨0x1ce2, 0x1ce8, false, 1⟩, ⟨0x1ced, 0x1ced, false, 220⟩, ⟨0x1cf4, 0x1cf4, false, 230⟩,
  ⟨0x1cf7, 0x1cf7, true, 0⟩, ⟨0x1cf8, 0x1cf9, false, 230⟩, ⟨0x1dc0, 0x1dc1, false, 230⟩,
  ⟨0x1dc2, 0x1dc2, false, 220⟩, ⟨0x1dc3, 0x1dc9, false, 230⟩, ⟨0x1dca, 0x1dca, false, 220⟩,
  ⟨0x1dcb, 0x1dcc, false, 230⟩, ⟨0x1dcd, 0x1dcd, false, 234⟩, ⟨0x1dce, 0x1dce, false, 214⟩,
  ⟨0x1dcf, 0x1dcf, false, 220⟩, ⟨0x1dd0, 0x1dd0, false, 202⟩, ⟨0x1dd1, 0x1df5, false, 230⟩,
  ⟨0x1df6, 0x1df6, false, 232⟩, ⟨0x1df7, 0x1df8, false, 228⟩, ⟨0x1df9, 0x1df9, false, 220⟩,
  ⟨0x1dfa, 0x1dfa, false, 218⟩, ⟨0x1dfb, 0x1dfb, false, 230⟩, ⟨0x1dfc, 0x1dfc, false, 233⟩,
  ⟨0x1dfd, 0x1dfd, false, 220⟩, ⟨0x1dfe, 0x1dfe, false, 230⟩, ⟨0x1dff, 0x1dff, false, 220⟩,
  ⟨0x20d0, 0x20d1, false, 230⟩, ⟨0x20d2, 0x20d3, false, 1⟩, ⟨0x20d4, 0x20d7, false, 230⟩,
  ⟨0x20d8, 0x20da, false, 1⟩, ⟨0x20db, 0x20dc, false, 230⟩, ⟨0x20dd, 0x20e0, false, 0⟩,
  ⟨0x20e1, 0x20e1, false, 230⟩, ⟨0x20e2, 0x20e4, false, 0⟩, ⟨0x20e5, 0x20e6, false, 1⟩,
  ⟨0x20e7, 0x20e7, false, 230⟩, ⟨0x20e8, 0x20e8, false, 220⟩, ⟨0x20e9, 0x20e9, false, 230⟩,
  ⟨0x20ea, 0x20eb, false, 1⟩, ⟨0x20ec, 0x20ef, false, 220⟩, ⟨0x20f0, 0x20f0, false, 230⟩,
  ⟨0x2cef, 0x2cf1, false, 230⟩, ⟨0x2d7f, 0x2d7f, false, 9⟩, ⟨0x2de0, 0x2dff, false, 230⟩,
  ⟨0x302a, 0x302a, false, 218⟩, ⟨0x302b, 0x302b, false, 228⟩, ⟨0x302c, 0x302c, false, 232⟩,
  ⟨0x302d, 0x302d, false, 222⟩, ⟨0x302e, 0x302f, true, 224⟩, ⟨0x3099, 0x309a, false, 8⟩,
  ⟨0xa66f, 0xa66f, false, 230⟩, ⟨0xa670, 0xa672, false, 0⟩, ⟨0xa674, 0xa67d, false, 230⟩,
  ⟨0xa69e, 0xa69f, false, 230⟩, ⟨0xa6f0, 0xa6f1, false, 230⟩, ⟨0xa802, 0xa802, false, 0⟩,
  ⟨0xa806, 0xa806, false, 9⟩, ⟨0xa80b, 0xa80b, false, 0⟩, ⟨0xa823, 0xa824, true, 0⟩,
  ⟨0xa825, 0xa826, false, 0⟩, ⟨0xa827, 0xa827, true, 0⟩, ⟨0xa82c, 0xa82c, false, 9⟩,
  ⟨0xa880, 0xa881, true, 0⟩, ⟨0xa8b4, 0xa8c3, true, 0⟩, ⟨0xa8c4, 0xa8c4, false, 9⟩,
  ⟨0xa8c5, 0xa8c5, false, 0⟩, ⟨0xa8e0, 0xa8f1, false, 230⟩, ⟨0xa8ff, 0xa8ff, false, 0⟩,
  ⟨0xa926, 0xa92a, false, 0⟩, ⟨0xa92b, 0xa92d, false, 220⟩, ⟨0xa947, 0xa951, false, 0⟩,
  ⟨0xa952, 0xa952, true, 0⟩, ⟨0xa953, 0xa953, true, 9⟩, ⟨0xa980, 0xa982, false, 0⟩,
  ⟨0xa983, 0xa983, true, 0⟩, ⟨0xa9b3, 0xa9b3, false, 7⟩, ⟨0xa9b4, 0xa9b5, true, 0⟩,
  ⟨0xa9b6, 0xa9b9, false, 0⟩, ⟨0xa9ba, 0xa9bb, true, 0⟩, ⟨0xa9bc, 0xa9bd, false, 0⟩,
  ⟨0xa9be, 0xa9bf, true, 0⟩, ⟨0xa9c0, 0xa9c0, true, 9⟩, ⟨0xa9e5, 0xa9e5, false, 0⟩,
  ⟨0xaa29, 0xaa2e, false, 0⟩, ⟨0xaa2f, 0xaa30, true, 0⟩, ⟨0xaa31, 0xaa32, false, 0⟩,
  ⟨0xaa33, 0xaa34, true, 0⟩, ⟨0xaa35, 0xaa36, false, 0⟩, ⟨0xaa43, 0xaa43, false, 0⟩,
  ⟨0xaa4c, 0xaa4c, false, 0⟩, ⟨0xaa4d, 0xaa4d, true, 0⟩, ⟨0xaa7b, 0xaa7b, true, 0⟩,
  ⟨0xaa7c, 0xaa7c, false, 0⟩, ⟨0xaa7d, 0xaa7d, true, 0⟩, ⟨0xaab0, 0xaab0, false, 230⟩,
  ⟨0xaab2, 0xaab3, false, 230⟩, ⟨0xaab4, 0xaab4, false, 220⟩, ⟨0xaab7, 0xaab8, false, 230⟩,
  ⟨0xaabe, 0xaabf, false, 230⟩, ⟨0xaac1, 0xaac1, false, 230⟩, ⟨0xaaeb, 0xaaeb, true, 0⟩,
  ⟨0xaaec, 0xaaed, false, 0⟩, ⟨0xaaee, 0xaaef, true, 0⟩, ⟨0xaaf5, 0xaaf5, true, 0⟩,
  ⟨0xaaf6, 0xaaf6, false, 9⟩, ⟨0xabe3, 0xabe4, true, 0⟩, ⟨0xabe5, 0xabe5, false, 0⟩,
  ⟨0xabe6, 0xabe7, true, 0⟩, ⟨0xabe8, 0xabe8, false, 0⟩, ⟨0xabe9, 0xabea, true, 0⟩,
  ⟨0xabec, 0xabec, true, 0⟩, ⟨0xabed, 0xabed, false, 9⟩, ⟨0xfb1e, 0xfb1e, false, 26⟩,
  ⟨0xfe00, 0xfe0f, false, 0⟩, ⟨0xfe20, 0xfe26, false, 230⟩, ⟨0xfe27, 0xfe2d, false, 220⟩,
  ⟨0xfe2e, 0xfe2f, false, 230⟩, ⟨0x101fd, 0x101fd, false, 220⟩, ⟨0x102e0, 0x102e0, false, 220⟩,
  ⟨0x10376, 0x1037a, false, 230⟩, ⟨0x10a01, 0x10a03, false, 0⟩, ⟨0x10a05, 0x10a06, false, 0⟩,
  ⟨0x10a0c, 0x10a0c, false, 0⟩, ⟨0x10a0d, 0x10a0d, false, 220⟩, ⟨0x10a0e, 0x10a0e, false, 0⟩,
  ⟨0x10a0f, 0x10a0f, false, 230⟩, ⟨0x10a38, 0x10a38, false, 230⟩, ⟨0x10a39, 0x10a39, false, 1⟩,
  ⟨0x10a3a, 0x10a3a, false, 220⟩, ⟨0x10a3f, 0x10a3f, false, 9⟩, ⟨0x10ae5, 0x10ae5, false, 230⟩,
  ⟨0x10ae6, 0x10ae6, false, 220⟩, ⟨0x10d24, 0x10d27, false, 230⟩, ⟨0x10eab, 0x10eac, false, 230⟩,
  ⟨0x10f46, 0x10f47, false, 220⟩, ⟨0x10f48, 0x10f4a, false, 230⟩, ⟨0x10f4b, 0x10f4b, false, 220⟩,
  ⟨0x10f4c, 0x10f4c, false, 230⟩, ⟨0x10f4d, 0x10f50, false, 220⟩, ⟨0x10f82, 0x10f82, false, 230⟩,
  ⟨0x10f83, 0x10f83, false, 220⟩, ⟨0x10f84, 0x10f84, false, 230⟩, ⟨0x10f85, 0x10f85, false, 220⟩,
  ⟨0x11000, 0x11000, true, 0⟩, ⟨0x11001, 0x11001, false, 0⟩, ⟨0x11002, 0x11002, true, 0⟩,
  ⟨0x11038, 0x11045, false, 0⟩, ⟨0x11046, 0x11046, false, 9⟩, ⟨0x11070, 0x11070, false, 9⟩,
  ⟨0x11073, 0x11074, false, 0⟩, ⟨0x1107f, 0x1107f, false, 9⟩, ⟨0x11080, 0x11081, false, 0⟩,
  ⟨0x11082, 0x11082, true, 0⟩, ⟨0x110b0, 0x110b2, true, 0⟩, ⟨0x110b3, 0x110b6, false, 0⟩,
  ⟨0x110b7, 0x110b8, true, 0⟩, ⟨0x110b9, 0x110b9, false, 9⟩, ⟨0x110ba, 0x110ba, false, 7⟩,
  ⟨0x110c2, 0x110c2, false, 0⟩, ⟨0x11100, 0x11102, false, 230⟩, ⟨0x11127, 0x1112b, false, 0⟩,
  ⟨0x1112c, 0x1112c, true, 0⟩, ⟨0x1112d, 0x11132, false, 0⟩, ⟨0x11133, 0x11134, false, 9⟩,
  ⟨0x11145, 0x11146, true, 0⟩, ⟨0x11173, 0x11173, false, 7⟩, ⟨0x11180, 0x11181, false, 0⟩,
  ⟨0x11182, 0x11182, true, 0⟩, ⟨0x111b3, 0x111b5, true, 0⟩, ⟨0x111b6, 0x111be, false, 0⟩,
  ⟨0x111bf, 0x111bf, true, 0⟩, ⟨0x111c0, 0x111c0, true, 9⟩, ⟨0x111c9, 0x111c9, false, 0⟩,
  ⟨0x111ca, 0x111ca, false, 7⟩, ⟨0x111cb, 0x111cc, false, 0⟩, ⟨0x111ce, 0x111ce, true, 0⟩,
  ⟨0x111cf, 0x111cf, false, 0⟩, ⟨0x1122c, 0x1122e, true, 0⟩, ⟨0x1122f, 0x11231, false, 0⟩,
  ⟨0x11232, 0x11233, true, 0⟩, ⟨0x11234, 0x11234, false, 0⟩, ⟨0x11235, 0x11235, true, 9⟩,
  ⟨0x11236, 0x11236, false, 7⟩, ⟨0x11237, 0x11237, false, 0⟩, ⟨0x1123e, 0x1123e, false, 0⟩,
  ⟨0x112df, 0x112df, false, 0⟩, ⟨0x112e0, 0x112e2, true, 0⟩, ⟨0x112e3, 0x112e8, false, 0⟩,
  ⟨0x112e9, 0x112e9, false, 7⟩, ⟨0x112ea, 0x112ea, false, 9⟩, ⟨0x11300, 0x11301, false, 0⟩,
  ⟨0x11302, 0x11303, true, 0⟩, ⟨0x1133b, 0x1133c, false, 7⟩, ⟨0x1133e, 0x1133f, true, 0⟩,
  ⟨0x11340, 0x11340, false, 0⟩, ⟨0x11341, 0x11344, true, 0⟩, ⟨0x11347, 0x11348, true, 0⟩,
  ⟨0x1134b, 0x1134c, true, 0⟩, ⟨0x1134d, 0x1134d, true, 9⟩, ⟨0x11357, 0x11357, true, 0⟩,
  ⟨0x11362, 0x11363, true, 0⟩, ⟨0x11366, 0x1136c, false, 230⟩, ⟨0x11370, 0x11374, false, 230⟩,
  ⟨0x11435, 0x11437, true, 0⟩, ⟨0x11438, 0x1143f, false, 0⟩, ⟨0x11440, 0x11441, true, 0⟩,
  ⟨0x11442, 0x11442, false, 9⟩, ⟨0x11443, 0x11444, false, 0⟩, ⟨0x11445, 0x11445, true, 0⟩,
  ⟨0x11446, 0x11446, false, 7⟩, ⟨0x1145e, 0x1145e, false, 230⟩, ⟨0x114b0, 0x114b2, true, 0⟩,
  ⟨0x114b3, 0x114b8, false, 0⟩, ⟨0x114b9, 0x114b9, true, 0⟩, ⟨0x114ba, 0x114ba, false, 0⟩,
  ⟨0x114bb, 0x114be, true, 0⟩, ⟨0x114bf, 0x114c0, false, 0⟩, ⟨0x114c1, 0x114c1, true, 0⟩,
  ⟨0x114c2, 0x114c2, false, 9⟩, ⟨0x114c3, 0x114c3, false, 7⟩, ⟨0x115af, 0x115b1, true, 0⟩,
  ⟨0x115b2, 0x115b5, false, 0⟩, ⟨0x115b8, 0x115bb, true, 0⟩, ⟨0x115bc, 0x115bd, false, 0⟩,
  ⟨0x115be, 0x115be, true, 0⟩, ⟨0x115bf, 0x115bf, false, 9⟩, ⟨0x115c0, 0x115c0, false, 7⟩,
  ⟨0x115dc, 0x115dd, false, 0⟩, ⟨0x11630, 0x11632, true, 0⟩, ⟨0x11633, 0x1163a, false, 0⟩,
  ⟨0x1163b, 0x1163c, true, 0⟩, ⟨0x1163d, 0x1163d, false, 0⟩, ⟨0x1163e, 0x1163e, true, 0⟩,
  ⟨0x1163f, 0x1163f, false, 9⟩, ⟨0x11640, 0x11640, false, 0⟩, ⟨0x116ab, 0x116ab, false, 0⟩,
  ⟨0x116ac, 0x116ac, true, 0⟩, ⟨0x116ad, 0x116ad, false, 0⟩, ⟨0x116ae, 0x116af, true, 0⟩,
  ⟨0x116b0, 0x116b5, false, 0⟩, ⟨0x116b6, 0x116b6, true, 9⟩, ⟨0x116b7, 0x116b7, false, 7⟩,
  ⟨0x1171d, 0x1171f, false, 0⟩, ⟨0x11720, 0x11721, true, 0⟩, ⟨0x11722, 0x11725, false, 0⟩,
  ⟨0x11726, 0x11726, true, 0⟩, ⟨0x11727, 0x1172a, false, 0⟩, ⟨0x1172b, 0x1172b, false, 9⟩,
  ⟨0x1182c, 0x1182e, true, 0⟩, ⟨0x1182f, 0x11837, false, 0⟩, ⟨0x11838, 0x11838, true, 0⟩,
  ⟨0x11839, 0x11839, false, 9⟩, ⟨0x1183a, 0x1183a, false, 7⟩, ⟨0x11930, 0x11935, true, 0⟩,
  ⟨0x11937, 0x11938, true, 0⟩, ⟨0x1193b, 0x1193c, false, 0⟩, ⟨0x1193d, 0x1193d, true, 9⟩,
  ⟨0x1193e, 0x1193e, false, 9⟩, ⟨0x11940, 0x11940, true, 0⟩, ⟨0x11942, 0x11942, true, 0⟩,
  ⟨0x11943, 0x11943, false, 7⟩, ⟨0x119d1, 0x119d3, true, 0⟩, ⟨0x119d4, 0x119d7, false, 0⟩,
  ⟨0x119da, 0x119db, false, 0⟩, ⟨0x119dc, 0x119df, true, 0⟩, ⟨0x119e0, 0x119e0, false, 9⟩,
  ⟨0x119e4, 0x119e4, true, 0⟩, ⟨0x11a01, 0x11a0a, false, 0⟩, ⟨0x11a33, 0x11a33, false, 0⟩,
  ⟨0x11a34, 0x11a34, false, 9⟩, ⟨0x11a35, 0x11a38, false, 0⟩, ⟨0x11a39, 0x11a39, true, 0⟩,
  ⟨0x11a3b, 0x11a3e, false, 0⟩, ⟨0x11a47, 0x11a47, false, 9⟩, ⟨0x11a51, 0x11a56, false, 0⟩,
  ⟨0x11a57, 0x11a58, true, 0⟩, ⟨0x11a59, 0x11a5b, false, 0⟩, ⟨0x11a8a, 0x11a96, false, 0⟩,
  ⟨0x11a97, 0x11a97, true, 0⟩, ⟨0x11a98, 0x11a98, false, 0⟩, ⟨0x11a99, 0x11a99, false, 9⟩,
  ⟨0x11c2f, 0x11c2f, true, 0⟩, ⟨0x11c30, 0x11c36, false, 0⟩, ⟨0x11c38, 0x11c3d, false, 0⟩,
  ⟨0x11c3e, 0x11c3e, true, 0⟩, ⟨0x11c3f, 0x11c3f, false, 9⟩, ⟨0x11c92, 0x11ca7, false, 0⟩,
  ⟨0x11ca9, 0x11ca9, true, 0⟩, ⟨0x11caa, 0x11cb0, false, 0⟩, ⟨0x11cb1, 0x11cb1, true, 0⟩,
  ⟨0x11cb2, 0x11cb3, false, 0⟩, ⟨0x11cb4, 0x11cb4, true, 0⟩, ⟨0x11cb5, 0x11cb6, false, 0⟩,
  ⟨0x11d31, 0x11d36, false, 0⟩, ⟨0x11d3a, 0x11d3a, false, 0⟩, ⟨0x11d3c, 0x11d3d, false, 0⟩,
  ⟨0x11d3f, 0x11d41, false, 0⟩, ⟨0x11d42, 0x11d42, false, 7⟩, ⟨0x11d43, 0x11d43, false, 0⟩,
  ⟨0x11d44, 0x11d45, false, 9⟩, ⟨0x11d47, 0x11d47, false, 0⟩, ⟨0x11d8a, 0x11d8e, true, 0⟩,
  ⟨0x11d90, 0x11d91, false, 0⟩, ⟨0x11d93, 0x11d94, true, 0⟩, ⟨0x11d95, 0x11d95, false, 0⟩,
  ⟨0x11d96, 0x11d96, true, 0⟩, ⟨0x11d97, 0x11d97, false, 9⟩, ⟨0x11ef3, 0x11ef4, false, 0⟩,
  ⟨0x11ef5, 0x11ef6, true, 0⟩, ⟨0x16af0, 0x16af4, false, 1⟩, ⟨0x16b30, 0x16b36, false, 230⟩,
  ⟨0x16f4f, 0x16f4f, false, 0⟩, ⟨0x16f51, 0x16f87, true, 0⟩, ⟨0x16f8f, 0x16f92, false, 0⟩,
  ⟨0x16fe4, 0x16fe4, false, 0⟩, ⟨0x16ff0, 0x16ff1, true, 6⟩, ⟨0x1bc9d, 0x1bc9d, false, 0⟩,
  ⟨0x1bc9e, 0x1bc9e, false, 1⟩, ⟨0x1cf00, 0x1cf2d, false, 0⟩, ⟨0x1cf30, 0x1cf46, false, 0⟩,
  ⟨0x1d165, 0x1d166, true, 216⟩, ⟨0x1d167, 0x1d169, false, 1⟩, ⟨0x1d16d, 0x1d16d, true, 226⟩,
  ⟨0x1d16e, 0x1d172, true, 216⟩, ⟨0x1d17b, 0x1d182, false, 220⟩, ⟨0x1d185, 0x1d189, false, 230⟩,
  ⟨0x1d18a, 0x1d18b, false, 220⟩, ⟨0x1d1aa, 0x1d1ad, false, 230⟩, ⟨0x1d242, 0x1d244, false, 230⟩,
  ⟨0x1da00, 0x1da36, false, 0⟩, ⟨0x1da3b, 0x1da6c, false, 0⟩, ⟨0x1da75, 0x1da75, false, 0⟩,
  ⟨0x1da84, 0x1da84, false, 0⟩, ⟨0x1da9b, 0x1da9f, false, 0⟩, ⟨0x1daa1, 0x1daaf, false, 0⟩,
  ⟨0x1e000, 0x1e006, false, 230⟩, ⟨0x1e008, 0x1e018, false, 230⟩, ⟨0x1e01b, 0x1e021, false, 230⟩,
  ⟨0x1e023, 0x1e024, false, 230⟩, ⟨0x1e026, 0x1e02a, false, 230⟩, ⟨0x1e130, 0x1e136, false, 230⟩,
  ⟨0x1e2ae, 0x1e2ae, false, 230⟩, ⟨0x1e2ec, 0x1e2ef, false, 230⟩, ⟨0x1e8d0, 0x1e8d6, false, 220⟩,
  ⟨0x1e944, 0x1e949, false, 230⟩, ⟨0x1e94a, 0x1e94a, false, 7⟩, ⟨0xe0100, 0xe01ef, false, 0⟩]

/-- The kind of a mark. -/
def markRun? (n : Nat) : Option MarkRun := markRuns.find? fun run => run.first ≤ n && n ≤ run.last

/-- Whether the character is a mark. -/
def isMark (n : Nat) : Bool := (markRun? n).isSome

/-- Whether the character is a mark that takes no room of its own. -/
def isNonspacing (n : Nat) : Bool := (markRun? n).any (!·.spacing)

/-- The class of a character. -/
def markClass (n : Nat) : Nat := ((markRun? n).map (·.markClass)).getD 0

/-- The class of the marks that silence a consonant. -/
def silencing : Nat := 9

end IntentSpec.Hostname
