import Acquisition.Text.CharRange
import Acquisition.Text.Split

/-!
# Characters of domain names

Not every character may stand in a domain name, and many that may stand for others: a capital
for its small letter, a wide or decorated form for the plain one, a sign for the letters that it
abbreviates.  Some count for nothing.

## Main definitions

* `Reading`: what becomes of a character.
* `reading`: the reading of a character.
* `mapped?`: the characters that a text stands for.
-/

namespace Acquisition.Domain

/-- What becomes of a character in a domain name. -/
inductive Reading
  | kept
  /-- Others stand in its place, or none. -/
  | replaced (image : List Char)
  | refused
  deriving DecidableEq, Repr, Inhabited

/-! ### Tables -/

/-- The ranges of characters outside ASCII that are not refused. -/
def acceptedRanges : Array (Nat × Nat) := #[
  (0x00A0, 0x0377), (0x037A, 0x037F), (0x0384, 0x038A), (0x038C, 0x038C), (0x038E, 0x03A1),
  (0x03A3, 0x052F), (0x0531, 0x0556), (0x0559, 0x058A), (0x058D, 0x058F), (0x0591, 0x05C7),
  (0x05D0, 0x05EA), (0x05EF, 0x05F4), (0x0606, 0x061B), (0x061D, 0x06DC), (0x06DE, 0x070D),
  (0x0710, 0x074A), (0x074D, 0x07B1), (0x07C0, 0x07FA), (0x07FD, 0x082D), (0x0830, 0x083E),
  (0x0840, 0x085B), (0x085E, 0x085E), (0x0860, 0x086A), (0x0870, 0x088F), (0x0897, 0x08E1),
  (0x08E3, 0x0983), (0x0985, 0x098C), (0x098F, 0x0990), (0x0993, 0x09A8), (0x09AA, 0x09B0),
  (0x09B2, 0x09B2), (0x09B6, 0x09B9), (0x09BC, 0x09C4), (0x09C7, 0x09C8), (0x09CB, 0x09CE),
  (0x09D7, 0x09D7), (0x09DC, 0x09DD), (0x09DF, 0x09E3), (0x09E6, 0x09FE), (0x0A01, 0x0A03),
  (0x0A05, 0x0A0A), (0x0A0F, 0x0A10), (0x0A13, 0x0A28), (0x0A2A, 0x0A30), (0x0A32, 0x0A33),
  (0x0A35, 0x0A36), (0x0A38, 0x0A39), (0x0A3C, 0x0A3C), (0x0A3E, 0x0A42), (0x0A47, 0x0A48),
  (0x0A4B, 0x0A4D), (0x0A51, 0x0A51), (0x0A59, 0x0A5C), (0x0A5E, 0x0A5E), (0x0A66, 0x0A76),
  (0x0A81, 0x0A83), (0x0A85, 0x0A8D), (0x0A8F, 0x0A91), (0x0A93, 0x0AA8), (0x0AAA, 0x0AB0),
  (0x0AB2, 0x0AB3), (0x0AB5, 0x0AB9), (0x0ABC, 0x0AC5), (0x0AC7, 0x0AC9), (0x0ACB, 0x0ACD),
  (0x0AD0, 0x0AD0), (0x0AE0, 0x0AE3), (0x0AE6, 0x0AF1), (0x0AF9, 0x0AFF), (0x0B01, 0x0B03),
  (0x0B05, 0x0B0C), (0x0B0F, 0x0B10), (0x0B13, 0x0B28), (0x0B2A, 0x0B30), (0x0B32, 0x0B33),
  (0x0B35, 0x0B39), (0x0B3C, 0x0B44), (0x0B47, 0x0B48), (0x0B4B, 0x0B4D), (0x0B55, 0x0B57),
  (0x0B5C, 0x0B5D), (0x0B5F, 0x0B63), (0x0B66, 0x0B77), (0x0B82, 0x0B83), (0x0B85, 0x0B8A),
  (0x0B8E, 0x0B90), (0x0B92, 0x0B95), (0x0B99, 0x0B9A), (0x0B9C, 0x0B9C), (0x0B9E, 0x0B9F),
  (0x0BA3, 0x0BA4), (0x0BA8, 0x0BAA), (0x0BAE, 0x0BB9), (0x0BBE, 0x0BC2), (0x0BC6, 0x0BC8),
  (0x0BCA, 0x0BCD), (0x0BD0, 0x0BD0), (0x0BD7, 0x0BD7), (0x0BE6, 0x0BFA), (0x0C00, 0x0C0C),
  (0x0C0E, 0x0C10), (0x0C12, 0x0C28), (0x0C2A, 0x0C39), (0x0C3C, 0x0C44), (0x0C46, 0x0C48),
  (0x0C4A, 0x0C4D), (0x0C55, 0x0C56), (0x0C58, 0x0C5A), (0x0C5C, 0x0C5D), (0x0C60, 0x0C63),
  (0x0C66, 0x0C6F), (0x0C77, 0x0C8C), (0x0C8E, 0x0C90), (0x0C92, 0x0CA8), (0x0CAA, 0x0CB3),
  (0x0CB5, 0x0CB9), (0x0CBC, 0x0CC4), (0x0CC6, 0x0CC8), (0x0CCA, 0x0CCD), (0x0CD5, 0x0CD6),
  (0x0CDC, 0x0CDE), (0x0CE0, 0x0CE3), (0x0CE6, 0x0CEF), (0x0CF1, 0x0CF3), (0x0D00, 0x0D0C),
  (0x0D0E, 0x0D10), (0x0D12, 0x0D44), (0x0D46, 0x0D48), (0x0D4A, 0x0D4F), (0x0D54, 0x0D63),
  (0x0D66, 0x0D7F), (0x0D81, 0x0D83), (0x0D85, 0x0D96), (0x0D9A, 0x0DB1), (0x0DB3, 0x0DBB),
  (0x0DBD, 0x0DBD), (0x0DC0, 0x0DC6), (0x0DCA, 0x0DCA), (0x0DCF, 0x0DD4), (0x0DD6, 0x0DD6),
  (0x0DD8, 0x0DDF), (0x0DE6, 0x0DEF), (0x0DF2, 0x0DF4), (0x0E01, 0x0E3A), (0x0E3F, 0x0E5B),
  (0x0E81, 0x0E82), (0x0E84, 0x0E84), (0x0E86, 0x0E8A), (0x0E8C, 0x0EA3), (0x0EA5, 0x0EA5),
  (0x0EA7, 0x0EBD), (0x0EC0, 0x0EC4), (0x0EC6, 0x0EC6), (0x0EC8, 0x0ECE), (0x0ED0, 0x0ED9),
  (0x0EDC, 0x0EDF), (0x0F00, 0x0F47), (0x0F49, 0x0F6C), (0x0F71, 0x0F97), (0x0F99, 0x0FBC),
  (0x0FBE, 0x0FCC), (0x0FCE, 0x0FDA), (0x1000, 0x10C5), (0x10C7, 0x10C7), (0x10CD, 0x10CD),
  (0x10D0, 0x1248), (0x124A, 0x124D), (0x1250, 0x1256), (0x1258, 0x1258), (0x125A, 0x125D),
  (0x1260, 0x1288), (0x128A, 0x128D), (0x1290, 0x12B0), (0x12B2, 0x12B5), (0x12B8, 0x12BE),
  (0x12C0, 0x12C0), (0x12C2, 0x12C5), (0x12C8, 0x12D6), (0x12D8, 0x1310), (0x1312, 0x1315),
  (0x1318, 0x135A), (0x135D, 0x137C), (0x1380, 0x1399), (0x13A0, 0x13F5), (0x13F8, 0x13FD),
  (0x1400, 0x167F), (0x1681, 0x169C), (0x16A0, 0x16F8), (0x1700, 0x1715), (0x171F, 0x1736),
  (0x1740, 0x1753), (0x1760, 0x176C), (0x176E, 0x1770), (0x1772, 0x1773), (0x1780, 0x17DD),
  (0x17E0, 0x17E9), (0x17F0, 0x17F9), (0x1800, 0x1819), (0x1820, 0x1878), (0x1880, 0x18AA),
  (0x18B0, 0x18F5), (0x1900, 0x191E), (0x1920, 0x192B), (0x1930, 0x193B), (0x1940, 0x1940),
  (0x1944, 0x196D), (0x1970, 0x1974), (0x1980, 0x19AB), (0x19B0, 0x19C9), (0x19D0, 0x19DA),
  (0x19DE, 0x1A1B), (0x1A1E, 0x1A5E), (0x1A60, 0x1A7C), (0x1A7F, 0x1A89), (0x1A90, 0x1A99),
  (0x1AA0, 0x1AAD), (0x1AB0, 0x1ADD), (0x1AE0, 0x1AEB), (0x1B00, 0x1B4C), (0x1B4E, 0x1BF3),
  (0x1BFC, 0x1C37), (0x1C3B, 0x1C49), (0x1C4D, 0x1C8A), (0x1C90, 0x1CBA), (0x1CBD, 0x1CC7),
  (0x1CD0, 0x1CFA), (0x1D00, 0x1F15), (0x1F18, 0x1F1D), (0x1F20, 0x1F45), (0x1F48, 0x1F4D),
  (0x1F50, 0x1F57), (0x1F59, 0x1F59), (0x1F5B, 0x1F5B), (0x1F5D, 0x1F5D), (0x1F5F, 0x1F7D),
  (0x1F80, 0x1FB4), (0x1FB6, 0x1FC4), (0x1FC6, 0x1FD3), (0x1FD6, 0x1FDB), (0x1FDD, 0x1FEF),
  (0x1FF2, 0x1FF4), (0x1FF6, 0x1FFE), (0x2000, 0x200D), (0x2010, 0x2023), (0x2027, 0x2027),
  (0x202F, 0x2064), (0x206A, 0x2071), (0x2074, 0x208E), (0x2090, 0x209C), (0x20A0, 0x20C1),
  (0x20D0, 0x20F0), (0x2100, 0x218B), (0x2190, 0x2429), (0x2440, 0x244A), (0x2460, 0x2487),
  (0x249C, 0x2B73), (0x2B76, 0x2CF3), (0x2CF9, 0x2D25), (0x2D27, 0x2D27), (0x2D2D, 0x2D2D),
  (0x2D30, 0x2D67), (0x2D6F, 0x2D70), (0x2D7F, 0x2D96), (0x2DA0, 0x2DA6), (0x2DA8, 0x2DAE),
  (0x2DB0, 0x2DB6), (0x2DB8, 0x2DBE), (0x2DC0, 0x2DC6), (0x2DC8, 0x2DCE), (0x2DD0, 0x2DD6),
  (0x2DD8, 0x2DDE), (0x2DE0, 0x2E5D), (0x2E80, 0x2E99), (0x2E9B, 0x2EF3), (0x2F00, 0x2FD5),
  (0x3000, 0x303F), (0x3041, 0x3096), (0x3099, 0x30FF), (0x3105, 0x312F), (0x3131, 0x318E),
  (0x3190, 0x31E5), (0x31F0, 0x321E), (0x3220, 0x33C1), (0x33C3, 0x33C6), (0x33C8, 0x33D7),
  (0x33D9, 0xA48C), (0xA490, 0xA4C6), (0xA4D0, 0xA62B), (0xA640, 0xA6F7), (0xA700, 0xA7DC),
  (0xA7F1, 0xA82C), (0xA830, 0xA839), (0xA840, 0xA877), (0xA880, 0xA8C5), (0xA8CE, 0xA8D9),
  (0xA8E0, 0xA953), (0xA95F, 0xA97C), (0xA980, 0xA9CD), (0xA9CF, 0xA9D9), (0xA9DE, 0xA9FE),
  (0xAA00, 0xAA36), (0xAA40, 0xAA4D), (0xAA50, 0xAA59), (0xAA5C, 0xAAC2), (0xAADB, 0xAAF6),
  (0xAB01, 0xAB06), (0xAB09, 0xAB0E), (0xAB11, 0xAB16), (0xAB20, 0xAB26), (0xAB28, 0xAB2E),
  (0xAB30, 0xAB6B), (0xAB70, 0xABED), (0xABF0, 0xABF9), (0xAC00, 0xD7A3), (0xD7B0, 0xD7C6),
  (0xD7CB, 0xD7FB), (0xF900, 0xFA6D), (0xFA70, 0xFAD9), (0xFB00, 0xFB06), (0xFB13, 0xFB17),
  (0xFB1D, 0xFB36), (0xFB38, 0xFB3C), (0xFB3E, 0xFB3E), (0xFB40, 0xFB41), (0xFB43, 0xFB44),
  (0xFB46, 0xFDCF), (0xFDF0, 0xFE11), (0xFE13, 0xFE18), (0xFE20, 0xFE2F), (0xFE31, 0xFE51),
  (0xFE54, 0xFE66), (0xFE68, 0xFE6B), (0xFE70, 0xFE74), (0xFE76, 0xFEFC), (0xFEFF, 0xFEFF),
  (0xFF01, 0xFFBE), (0xFFC2, 0xFFC7), (0xFFCA, 0xFFCF), (0xFFD2, 0xFFD7), (0xFFDA, 0xFFDC),
  (0xFFE0, 0xFFE6), (0xFFE8, 0xFFEE), (0x10000, 0x1000B), (0x1000D, 0x10026), (0x10028, 0x1003A),
  (0x1003C, 0x1003D), (0x1003F, 0x1004D), (0x10050, 0x1005D), (0x10080, 0x100FA),
  (0x10100, 0x10102), (0x10107, 0x10133), (0x10137, 0x1018E), (0x10190, 0x1019C),
  (0x101A0, 0x101A0), (0x101D0, 0x101FD), (0x10280, 0x1029C), (0x102A0, 0x102D0),
  (0x102E0, 0x102FB), (0x10300, 0x10323), (0x1032D, 0x1034A), (0x10350, 0x1037A),
  (0x10380, 0x1039D), (0x1039F, 0x103C3), (0x103C8, 0x103D5), (0x10400, 0x1049D),
  (0x104A0, 0x104A9), (0x104B0, 0x104D3), (0x104D8, 0x104FB), (0x10500, 0x10527),
  (0x10530, 0x10563), (0x1056F, 0x1057A), (0x1057C, 0x1058A), (0x1058C, 0x10592),
  (0x10594, 0x10595), (0x10597, 0x105A1), (0x105A3, 0x105B1), (0x105B3, 0x105B9),
  (0x105BB, 0x105BC), (0x105C0, 0x105F3), (0x10600, 0x10736), (0x10740, 0x10755),
  (0x10760, 0x10767), (0x10780, 0x10785), (0x10787, 0x107B0), (0x107B2, 0x107BA),
  (0x10800, 0x10805), (0x10808, 0x10808), (0x1080A, 0x10835), (0x10837, 0x10838),
  (0x1083C, 0x1083C), (0x1083F, 0x10855), (0x10857, 0x1089E), (0x108A7, 0x108AF),
  (0x108E0, 0x108F2), (0x108F4, 0x108F5), (0x108FB, 0x1091B), (0x1091F, 0x10939),
  (0x1093F, 0x10959), (0x10980, 0x109B7), (0x109BC, 0x109CF), (0x109D2, 0x10A03),
  (0x10A05, 0x10A06), (0x10A0C, 0x10A13), (0x10A15, 0x10A17), (0x10A19, 0x10A35),
  (0x10A38, 0x10A3A), (0x10A3F, 0x10A48), (0x10A50, 0x10A58), (0x10A60, 0x10A9F),
  (0x10AC0, 0x10AE6), (0x10AEB, 0x10AF6), (0x10B00, 0x10B35), (0x10B39, 0x10B55),
  (0x10B58, 0x10B72), (0x10B78, 0x10B91), (0x10B99, 0x10B9C), (0x10BA9, 0x10BAF),
  (0x10C00, 0x10C48), (0x10C80, 0x10CB2), (0x10CC0, 0x10CF2), (0x10CFA, 0x10D27),
  (0x10D30, 0x10D39), (0x10D40, 0x10D65), (0x10D69, 0x10D85), (0x10D8E, 0x10D8F),
  (0x10E60, 0x10E7E), (0x10E80, 0x10EA9), (0x10EAB, 0x10EAD), (0x10EB0, 0x10EB1),
  (0x10EC2, 0x10EC7), (0x10ED0, 0x10ED8), (0x10EFA, 0x10F27), (0x10F30, 0x10F59),
  (0x10F70, 0x10F89), (0x10FB0, 0x10FCB), (0x10FE0, 0x10FF6), (0x11000, 0x1104D),
  (0x11052, 0x11075), (0x1107F, 0x110BC), (0x110BE, 0x110C2), (0x110D0, 0x110E8),
  (0x110F0, 0x110F9), (0x11100, 0x11134), (0x11136, 0x11147), (0x11150, 0x11176),
  (0x11180, 0x111DF), (0x111E1, 0x111F4), (0x11200, 0x11211), (0x11213, 0x11241),
  (0x11280, 0x11286), (0x11288, 0x11288), (0x1128A, 0x1128D), (0x1128F, 0x1129D),
  (0x1129F, 0x112A9), (0x112B0, 0x112EA), (0x112F0, 0x112F9), (0x11300, 0x11303),
  (0x11305, 0x1130C), (0x1130F, 0x11310), (0x11313, 0x11328), (0x1132A, 0x11330),
  (0x11332, 0x11333), (0x11335, 0x11339), (0x1133B, 0x11344), (0x11347, 0x11348),
  (0x1134B, 0x1134D), (0x11350, 0x11350), (0x11357, 0x11357), (0x1135D, 0x11363),
  (0x11366, 0x1136C), (0x11370, 0x11374), (0x11380, 0x11389), (0x1138B, 0x1138B),
  (0x1138E, 0x1138E), (0x11390, 0x113B5), (0x113B7, 0x113C0), (0x113C2, 0x113C2),
  (0x113C5, 0x113C5), (0x113C7, 0x113CA), (0x113CC, 0x113D5), (0x113D7, 0x113D8),
  (0x113E1, 0x113E2), (0x11400, 0x1145B), (0x1145D, 0x11461), (0x11480, 0x114C7),
  (0x114D0, 0x114D9), (0x11580, 0x115B5), (0x115B8, 0x115DD), (0x11600, 0x11644),
  (0x11650, 0x11659), (0x11660, 0x1166C), (0x11680, 0x116B9), (0x116C0, 0x116C9),
  (0x116D0, 0x116E3), (0x11700, 0x1171A), (0x1171D, 0x1172B), (0x11730, 0x11746),
  (0x11800, 0x1183B), (0x118A0, 0x118F2), (0x118FF, 0x11906), (0x11909, 0x11909),
  (0x1190C, 0x11913), (0x11915, 0x11916), (0x11918, 0x11935), (0x11937, 0x11938),
  (0x1193B, 0x11946), (0x11950, 0x11959), (0x119A0, 0x119A7), (0x119AA, 0x119D7),
  (0x119DA, 0x119E4), (0x11A00, 0x11A47), (0x11A50, 0x11AA2), (0x11AB0, 0x11AF8),
  (0x11B00, 0x11B09), (0x11B60, 0x11B67), (0x11BC0, 0x11BE1), (0x11BF0, 0x11BF9),
  (0x11C00, 0x11C08), (0x11C0A, 0x11C36), (0x11C38, 0x11C45), (0x11C50, 0x11C6C),
  (0x11C70, 0x11C8F), (0x11C92, 0x11CA7), (0x11CA9, 0x11CB6), (0x11D00, 0x11D06),
  (0x11D08, 0x11D09), (0x11D0B, 0x11D36), (0x11D3A, 0x11D3A), (0x11D3C, 0x11D3D),
  (0x11D3F, 0x11D47), (0x11D50, 0x11D59), (0x11D60, 0x11D65), (0x11D67, 0x11D68),
  (0x11D6A, 0x11D8E), (0x11D90, 0x11D91), (0x11D93, 0x11D98), (0x11DA0, 0x11DA9),
  (0x11DB0, 0x11DDB), (0x11DE0, 0x11DE9), (0x11EE0, 0x11EF8), (0x11F00, 0x11F10),
  (0x11F12, 0x11F3A), (0x11F3E, 0x11F5A), (0x11FB0, 0x11FB0), (0x11FC0, 0x11FF1),
  (0x11FFF, 0x12399), (0x12400, 0x1246E), (0x12470, 0x12474), (0x12480, 0x12543),
  (0x12F90, 0x12FF2), (0x13000, 0x1342F), (0x13440, 0x13455), (0x13460, 0x143FA),
  (0x14400, 0x14646), (0x16100, 0x16139), (0x16800, 0x16A38), (0x16A40, 0x16A5E),
  (0x16A60, 0x16A69), (0x16A6E, 0x16ABE), (0x16AC0, 0x16AC9), (0x16AD0, 0x16AED),
  (0x16AF0, 0x16AF5), (0x16B00, 0x16B45), (0x16B50, 0x16B59), (0x16B5B, 0x16B61),
  (0x16B63, 0x16B77), (0x16B7D, 0x16B8F), (0x16D40, 0x16D79), (0x16E40, 0x16E9A),
  (0x16EA0, 0x16EB8), (0x16EBB, 0x16ED3), (0x16F00, 0x16F4A), (0x16F4F, 0x16F87),
  (0x16F8F, 0x16F9F), (0x16FE0, 0x16FE4), (0x16FF0, 0x16FF6), (0x17000, 0x18CD5),
  (0x18CFF, 0x18D1E), (0x18D80, 0x18DF2), (0x1AFF0, 0x1AFF3), (0x1AFF5, 0x1AFFB),
  (0x1AFFD, 0x1AFFE), (0x1B000, 0x1B122), (0x1B132, 0x1B132), (0x1B150, 0x1B152),
  (0x1B155, 0x1B155), (0x1B164, 0x1B167), (0x1B170, 0x1B2FB), (0x1BC00, 0x1BC6A),
  (0x1BC70, 0x1BC7C), (0x1BC80, 0x1BC88), (0x1BC90, 0x1BC99), (0x1BC9C, 0x1BCA3),
  (0x1CC00, 0x1CCFC), (0x1CD00, 0x1CEB3), (0x1CEBA, 0x1CED0), (0x1CEE0, 0x1CEF0),
  (0x1CF00, 0x1CF2D), (0x1CF30, 0x1CF46), (0x1CF50, 0x1CFC3), (0x1D000, 0x1D0F5),
  (0x1D100, 0x1D126), (0x1D129, 0x1D1EA), (0x1D200, 0x1D245), (0x1D2C0, 0x1D2D3),
  (0x1D2E0, 0x1D2F3), (0x1D300, 0x1D356), (0x1D360, 0x1D378), (0x1D400, 0x1D454),
  (0x1D456, 0x1D49C), (0x1D49E, 0x1D49F), (0x1D4A2, 0x1D4A2), (0x1D4A5, 0x1D4A6),
  (0x1D4A9, 0x1D4AC), (0x1D4AE, 0x1D4B9), (0x1D4BB, 0x1D4BB), (0x1D4BD, 0x1D4C3),
  (0x1D4C5, 0x1D505), (0x1D507, 0x1D50A), (0x1D50D, 0x1D514), (0x1D516, 0x1D51C),
  (0x1D51E, 0x1D539), (0x1D53B, 0x1D53E), (0x1D540, 0x1D544), (0x1D546, 0x1D546),
  (0x1D54A, 0x1D550), (0x1D552, 0x1D6A5), (0x1D6A8, 0x1D7CB), (0x1D7CE, 0x1DA8B),
  (0x1DA9B, 0x1DA9F), (0x1DAA1, 0x1DAAF), (0x1DF00, 0x1DF1E), (0x1DF25, 0x1DF2A),
  (0x1E000, 0x1E006), (0x1E008, 0x1E018), (0x1E01B, 0x1E021), (0x1E023, 0x1E024),
  (0x1E026, 0x1E02A), (0x1E030, 0x1E06D), (0x1E08F, 0x1E08F), (0x1E100, 0x1E12C),
  (0x1E130, 0x1E13D), (0x1E140, 0x1E149), (0x1E14E, 0x1E14F), (0x1E290, 0x1E2AE),
  (0x1E2C0, 0x1E2F9), (0x1E2FF, 0x1E2FF), (0x1E4D0, 0x1E4F9), (0x1E5D0, 0x1E5FA),
  (0x1E5FF, 0x1E5FF), (0x1E6C0, 0x1E6DE), (0x1E6E0, 0x1E6F5), (0x1E6FE, 0x1E6FF),
  (0x1E7E0, 0x1E7E6), (0x1E7E8, 0x1E7EB), (0x1E7ED, 0x1E7EE), (0x1E7F0, 0x1E7FE),
  (0x1E800, 0x1E8C4), (0x1E8C7, 0x1E8D6), (0x1E900, 0x1E94B), (0x1E950, 0x1E959),
  (0x1E95E, 0x1E95F), (0x1EC71, 0x1ECB4), (0x1ED01, 0x1ED3D), (0x1EE00, 0x1EE03),
  (0x1EE05, 0x1EE1F), (0x1EE21, 0x1EE22), (0x1EE24, 0x1EE24), (0x1EE27, 0x1EE27),
  (0x1EE29, 0x1EE32), (0x1EE34, 0x1EE37), (0x1EE39, 0x1EE39), (0x1EE3B, 0x1EE3B),
  (0x1EE42, 0x1EE42), (0x1EE47, 0x1EE47), (0x1EE49, 0x1EE49), (0x1EE4B, 0x1EE4B),
  (0x1EE4D, 0x1EE4F), (0x1EE51, 0x1EE52), (0x1EE54, 0x1EE54), (0x1EE57, 0x1EE57),
  (0x1EE59, 0x1EE59), (0x1EE5B, 0x1EE5B), (0x1EE5D, 0x1EE5D), (0x1EE5F, 0x1EE5F),
  (0x1EE61, 0x1EE62), (0x1EE64, 0x1EE64), (0x1EE67, 0x1EE6A), (0x1EE6C, 0x1EE72),
  (0x1EE74, 0x1EE77), (0x1EE79, 0x1EE7C), (0x1EE7E, 0x1EE7E), (0x1EE80, 0x1EE89),
  (0x1EE8B, 0x1EE9B), (0x1EEA1, 0x1EEA3), (0x1EEA5, 0x1EEA9), (0x1EEAB, 0x1EEBB),
  (0x1EEF0, 0x1EEF1), (0x1F000, 0x1F02B), (0x1F030, 0x1F093), (0x1F0A0, 0x1F0AE),
  (0x1F0B1, 0x1F0BF), (0x1F0C1, 0x1F0CF), (0x1F0D1, 0x1F0F5), (0x1F101, 0x1F1AD),
  (0x1F1E6, 0x1F202), (0x1F210, 0x1F23B), (0x1F240, 0x1F248), (0x1F250, 0x1F251),
  (0x1F260, 0x1F265), (0x1F300, 0x1F6D8), (0x1F6DC, 0x1F6EC), (0x1F6F0, 0x1F6FC),
  (0x1F700, 0x1F7D9), (0x1F7E0, 0x1F7EB), (0x1F7F0, 0x1F7F0), (0x1F800, 0x1F80B),
  (0x1F810, 0x1F847), (0x1F850, 0x1F859), (0x1F860, 0x1F887), (0x1F890, 0x1F8AD),
  (0x1F8B0, 0x1F8BB), (0x1F8C0, 0x1F8C1), (0x1F8D0, 0x1F8D8), (0x1F900, 0x1FA57),
  (0x1FA60, 0x1FA6D), (0x1FA70, 0x1FA7C), (0x1FA80, 0x1FA8A), (0x1FA8E, 0x1FAC6),
  (0x1FAC8, 0x1FAC8), (0x1FACD, 0x1FADC), (0x1FADF, 0x1FAEA), (0x1FAEF, 0x1FAF8),
  (0x1FB00, 0x1FB92), (0x1FB94, 0x1FBFA), (0x20000, 0x2A6DF), (0x2A700, 0x2B81D),
  (0x2B820, 0x2CEAD), (0x2CEB0, 0x2EBE0), (0x2EBF0, 0x2EE5D), (0x2F800, 0x2FA1D),
  (0x30000, 0x3134A), (0x31350, 0x33479), (0xE0100, 0xE01EF)]

/-- The ranges of characters that count for nothing. -/
def droppedRanges : Array (Nat × Nat) := #[
  (0x00AD, 0x00AD), (0x034F, 0x034F), (0x115F, 0x1160), (0x17B4, 0x17B5), (0x180B, 0x180F),
  (0x200B, 0x200B), (0x2060, 0x2064), (0x206A, 0x206F), (0x3164, 0x3164), (0xFE00, 0xFE0F),
  (0xFEFF, 0xFEFF), (0xFFA0, 0xFFA0), (0x1BCA0, 0x1BCA3), (0x1D173, 0x1D17A), (0xE0100, 0xE01EF)]

/-- Characters that one other stands for, as `(first, last, step, image)`: every `step`-th code point
from `first` to `last` is moved by as much as `first` is to `image`. -/
def shiftedRanges : Array (Nat × Nat × Nat × Nat) := #[
  (0x00C0, 0x00D6, 1, 0x00E0), (0x00D8, 0x00DE, 1, 0x00F8), (0x0100, 0x012E, 2, 0x0101),
  (0x0139, 0x0145, 4, 0x013A), (0x014A, 0x0176, 2, 0x014B), (0x0179, 0x017D, 2, 0x017A),
  (0x01A0, 0x01A4, 2, 0x01A1), (0x01CD, 0x01DB, 2, 0x01CE), (0x01DE, 0x01EE, 2, 0x01DF),
  (0x01F4, 0x021C, 4, 0x01F5), (0x01FA, 0x0232, 4, 0x01FB), (0x0224, 0x0230, 4, 0x0225),
  (0x0246, 0x024E, 2, 0x0247), (0x0388, 0x038A, 1, 0x03AD), (0x0391, 0x03A1, 1, 0x03B1),
  (0x03A3, 0x03AB, 1, 0x03C3), (0x03D8, 0x03EE, 2, 0x03D9), (0x03FD, 0x03FF, 1, 0x037B),
  (0x0400, 0x040F, 1, 0x0450), (0x0410, 0x042F, 1, 0x0430), (0x0460, 0x0480, 2, 0x0461),
  (0x048A, 0x04BE, 2, 0x048B), (0x04C1, 0x04CD, 2, 0x04C2), (0x04D0, 0x052E, 2, 0x04D1),
  (0x0531, 0x0556, 1, 0x0561), (0x10A0, 0x10C5, 1, 0x2D00), (0x13F8, 0x13FD, 1, 0x13F0),
  (0x1C90, 0x1CBA, 1, 0x10D0), (0x1CBD, 0x1CBF, 1, 0x10FD), (0x1D30, 0x1D38, 4, 0x0064),
  (0x1D31, 0x1D39, 2, 0x0065), (0x1D5D, 0x1D5F, 1, 0x03B2), (0x1DA4, 0x1DA6, 1, 0x0268),
  (0x1DAE, 0x1DB1, 1, 0x0272), (0x1DBC, 0x1DBE, 1, 0x0290), (0x1E00, 0x1E94, 2, 0x1E01),
  (0x1EA0, 0x1EFE, 2, 0x1EA1), (0x1F08, 0x1F0F, 1, 0x1F00), (0x1F18, 0x1F1D, 1, 0x1F10),
  (0x1F28, 0x1F2F, 1, 0x1F20), (0x1F38, 0x1F3F, 1, 0x1F30), (0x1F48, 0x1F4D, 1, 0x1F40),
  (0x1F59, 0x1F5F, 2, 0x1F51), (0x1F68, 0x1F6F, 1, 0x1F60), (0x2070, 0x2078, 4, 0x0030),
  (0x2075, 0x2077, 1, 0x0035), (0x2080, 0x2089, 1, 0x0030), (0x2096, 0x2099, 1, 0x006B),
  (0x2119, 0x211B, 1, 0x0070), (0x2135, 0x2138, 1, 0x05D0), (0x2460, 0x2468, 1, 0x0031),
  (0x24B6, 0x24CF, 1, 0x0061), (0x24D0, 0x24E9, 1, 0x0061), (0x2C00, 0x2C2F, 1, 0x2C30),
  (0x2C67, 0x2C6B, 2, 0x2C68), (0x2C80, 0x2CE2, 2, 0x2C81), (0x3137, 0x3139, 1, 0x1103),
  (0x313A, 0x313F, 1, 0x11B0), (0x3141, 0x3143, 1, 0x1106), (0x3145, 0x314E, 1, 0x1109),
  (0x314F, 0x3163, 1, 0x1161), (0x3178, 0x317C, 1, 0x112B), (0x3184, 0x3186, 1, 0x1157),
  (0x3263, 0x3265, 1, 0x1105), (0x3269, 0x326D, 1, 0x110E), (0x32E4, 0x32E9, 1, 0x30CA),
  (0x32EE, 0x32F2, 1, 0x30DE), (0x32F5, 0x32FA, 1, 0x30E8), (0x32FB, 0x32FE, 1, 0x30EF),
  (0xA640, 0xA66C, 2, 0xA641), (0xA680, 0xA69A, 2, 0xA681), (0xA722, 0xA76E, 4, 0xA723),
  (0xA724, 0xA72C, 4, 0xA725), (0xA734, 0xA76C, 4, 0xA735), (0xA77E, 0xA786, 2, 0xA77F),
  (0xA792, 0xA7A6, 4, 0xA793), (0xA798, 0xA7A8, 4, 0xA799), (0xA7B4, 0xA7C2, 2, 0xA7B5),
  (0xA7CC, 0xA7DA, 2, 0xA7CD), (0xAB70, 0xABBF, 1, 0x13A0), (0xFB24, 0xFB26, 1, 0x05DB),
  (0xFE41, 0xFE44, 1, 0x300C), (0xFF01, 0xFF20, 1, 0x0021), (0xFF21, 0xFF3A, 1, 0x0061),
  (0xFF3B, 0xFF5E, 1, 0x005B), (0xFF85, 0xFF8A, 1, 0x30CA), (0xFF8F, 0xFF93, 1, 0x30DE),
  (0xFF96, 0xFF9B, 1, 0x30E8), (0xFFA7, 0xFFA9, 1, 0x1103), (0xFFAA, 0xFFAF, 1, 0x11B0),
  (0xFFB1, 0xFFB3, 1, 0x1106), (0xFFB5, 0xFFBE, 1, 0x1109), (0xFFC2, 0xFFC7, 1, 0x1161),
  (0xFFCA, 0xFFCF, 1, 0x1167), (0xFFD2, 0xFFD7, 1, 0x116D), (0xFFDA, 0xFFDC, 1, 0x1173),
  (0xFFE9, 0xFFEC, 1, 0x2190), (0x10400, 0x10427, 1, 0x10428), (0x104B0, 0x104D3, 1, 0x104D8),
  (0x10570, 0x10594, 2, 0x10597), (0x10571, 0x10595, 4, 0x10598), (0x1057F, 0x10587, 4, 0x105A6),
  (0x107B6, 0x107B8, 1, 0x01C0), (0x10C80, 0x10CB2, 1, 0x10CC0), (0x10D50, 0x10D65, 1, 0x10D70),
  (0x118A0, 0x118BF, 1, 0x118C0), (0x16E40, 0x16E5F, 1, 0x16E60), (0x16EA0, 0x16EB8, 1, 0x16EBB),
  (0x1CCD6, 0x1CCEF, 1, 0x0061), (0x1CCF0, 0x1CCF9, 1, 0x0030), (0x1D400, 0x1D419, 1, 0x0061),
  (0x1D41A, 0x1D433, 1, 0x0061), (0x1D434, 0x1D44D, 1, 0x0061), (0x1D44E, 0x1D466, 2, 0x0061),
  (0x1D44F, 0x1D467, 4, 0x0062), (0x1D459, 0x1D465, 4, 0x006C), (0x1D468, 0x1D481, 1, 0x0061),
  (0x1D482, 0x1D49B, 1, 0x0061), (0x1D49E, 0x1D4B2, 4, 0x0063), (0x1D4AB, 0x1D4B3, 4, 0x0070),
  (0x1D4AC, 0x1D4B4, 4, 0x0071), (0x1D4B6, 0x1D4B9, 1, 0x0061), (0x1D4BB, 0x1D4CF, 2, 0x0066),
  (0x1D4BE, 0x1D4CE, 4, 0x0069), (0x1D4D0, 0x1D4E9, 1, 0x0061), (0x1D4EA, 0x1D503, 1, 0x0061),
  (0x1D505, 0x1D511, 4, 0x0062), (0x1D50A, 0x1D51A, 4, 0x0067), (0x1D50F, 0x1D51B, 4, 0x006C),
  (0x1D510, 0x1D51C, 4, 0x006D), (0x1D51E, 0x1D537, 1, 0x0061), (0x1D538, 0x1D544, 4, 0x0061),
  (0x1D539, 0x1D53D, 2, 0x0062), (0x1D53E, 0x1D54E, 4, 0x0067), (0x1D54B, 0x1D54D, 1, 0x0074),
  (0x1D552, 0x1D56B, 1, 0x0061), (0x1D56C, 0x1D585, 1, 0x0061), (0x1D586, 0x1D59F, 1, 0x0061),
  (0x1D5A0, 0x1D5B9, 1, 0x0061), (0x1D5BA, 0x1D5D3, 1, 0x0061), (0x1D5D4, 0x1D5ED, 1, 0x0061),
  (0x1D5EE, 0x1D607, 1, 0x0061), (0x1D608, 0x1D621, 1, 0x0061), (0x1D622, 0x1D63B, 1, 0x0061),
  (0x1D63C, 0x1D655, 1, 0x0061), (0x1D656, 0x1D66F, 1, 0x0061), (0x1D670, 0x1D689, 1, 0x0061),
  (0x1D68A, 0x1D6A3, 1, 0x0061), (0x1D6A8, 0x1D6B8, 1, 0x03B1), (0x1D6BA, 0x1D6C0, 1, 0x03C3),
  (0x1D6C2, 0x1D6D2, 1, 0x03B1), (0x1D6D4, 0x1D6DA, 1, 0x03C3), (0x1D6E2, 0x1D6F2, 1, 0x03B1),
  (0x1D6F4, 0x1D6FA, 1, 0x03C3), (0x1D6FC, 0x1D70C, 1, 0x03B1), (0x1D70E, 0x1D714, 1, 0x03C3),
  (0x1D71C, 0x1D72C, 1, 0x03B1), (0x1D72E, 0x1D734, 1, 0x03C3), (0x1D736, 0x1D746, 1, 0x03B1),
  (0x1D748, 0x1D74E, 1, 0x03C3), (0x1D756, 0x1D766, 1, 0x03B1), (0x1D768, 0x1D76E, 1, 0x03C3),
  (0x1D770, 0x1D780, 1, 0x03B1), (0x1D782, 0x1D788, 1, 0x03C3), (0x1D790, 0x1D7A0, 1, 0x03B1),
  (0x1D7A2, 0x1D7A8, 1, 0x03C3), (0x1D7AA, 0x1D7BA, 1, 0x03B1), (0x1D7BC, 0x1D7C2, 1, 0x03C3),
  (0x1D7CE, 0x1D7D7, 1, 0x0030), (0x1D7D8, 0x1D7E1, 1, 0x0030), (0x1D7E2, 0x1D7EB, 1, 0x0030),
  (0x1D7EC, 0x1D7F5, 1, 0x0030), (0x1D7F6, 0x1D7FF, 1, 0x0030), (0x1E030, 0x1E038, 1, 0x0430),
  (0x1E039, 0x1E03B, 1, 0x043A), (0x1E03C, 0x1E046, 1, 0x043E), (0x1E051, 0x1E059, 1, 0x0430),
  (0x1E05F, 0x1E064, 1, 0x0443), (0x1E900, 0x1E921, 1, 0x1E922), (0x1EE0A, 0x1EE0D, 1, 0x0643),
  (0x1EE2A, 0x1EE2D, 1, 0x0643), (0x1EE8B, 0x1EE8D, 1, 0x0644), (0x1EEAB, 0x1EEAD, 1, 0x0644),
  (0x1F130, 0x1F149, 1, 0x0061), (0x1FBF0, 0x1FBF9, 1, 0x0030)]

/-- Characters and what stands for them, as `(first, last, images)`; bars part the images. -/
def imageRanges : Array (Nat × Nat × String) := #[
  (0x00A0, 0x00A0, " "), (0x00A8, 0x00A8, " \u0308"), (0x00AA, 0x00AA, "a"),
  (0x00AF, 0x00AF, " \u0304"), (0x00B2, 0x00B5, "2|3| \u0301|μ"), (0x00B8, 0x00BA, " \u0327|1|o"),
  (0x00BC, 0x00BE, "1\u20444|1\u20442|3\u20444"), (0x0130, 0x0130, "i\u0307"),
  (0x0132, 0x0134, "ij|ij|ĵ"), (0x0136, 0x0136, "ķ"), (0x013B, 0x013B, "ļ"),
  (0x013F, 0x0140, "l\u00b7|l\u00b7"), (0x0143, 0x0143, "ń"), (0x0147, 0x0147, "ň"),
  (0x0149, 0x0149, "ʼn"), (0x0178, 0x0178, "ÿ"), (0x017F, 0x017F, "s"), (0x0181, 0x0182, "ɓ|ƃ"),
  (0x0184, 0x0184, "ƅ"), (0x0186, 0x0187, "ɔ|ƈ"), (0x0189, 0x018B, "ɖ|ɗ|ƌ"),
  (0x018E, 0x0191, "ǝ|ə|ɛ|ƒ"), (0x0193, 0x0194, "ɠ|ɣ"), (0x0196, 0x0198, "ɩ|ɨ|ƙ"),
  (0x019C, 0x019D, "ɯ|ɲ"), (0x019F, 0x019F, "ɵ"), (0x01A6, 0x01A7, "ʀ|ƨ"), (0x01A9, 0x01A9, "ʃ"),
  (0x01AC, 0x01AC, "ƭ"), (0x01AE, 0x01AF, "ʈ|ư"), (0x01B1, 0x01B3, "ʊ|ʋ|ƴ"), (0x01B5, 0x01B5, "ƶ"),
  (0x01B7, 0x01B8, "ʒ|ƹ"), (0x01BC, 0x01BC, "ƽ"), (0x01C4, 0x01CC, "dž|dž|dž|lj|lj|lj|nj|nj|nj"),
  (0x01F1, 0x01F3, "dz|dz|dz"), (0x01F6, 0x01F7, "ƕ|ƿ"), (0x0220, 0x0220, "ƞ"),
  (0x023A, 0x023B, "ⱥ|ȼ"), (0x023D, 0x023E, "ƚ|ⱦ"), (0x0241, 0x0241, "ɂ"),
  (0x0243, 0x0245, "ƀ|ʉ|ʌ"), (0x02B0, 0x02B8, "h|ɦ|j|r|ɹ|ɻ|ʁ|w|y"),
  (0x02D8, 0x02DD, " \u0306| \u0307| \u030a| \u0328| \u0303| \u030b"),
  (0x02E0, 0x02E4, "ɣ|l|s|x|ʕ"), (0x0340, 0x0341, "\u0300|\u0301"),
  (0x0343, 0x0345, "\u0313|\u0308\u0301|ι"), (0x0370, 0x0370, "ͱ"), (0x0372, 0x0372, "ͳ"),
  (0x0374, 0x0374, "\u02b9"), (0x0376, 0x0376, "ͷ"), (0x037A, 0x037A, " ι"),
  (0x037E, 0x037F, ";|ϳ"), (0x0384, 0x0387, " \u0301| \u0308\u0301|ά|\u00b7"),
  (0x038C, 0x038C, "ό"), (0x038E, 0x038F, "ύ|ώ"), (0x03CF, 0x03D6, "ϗ|β|θ|υ|ύ|ϋ|φ|π"),
  (0x03F0, 0x03F2, "κ|ρ|σ"), (0x03F4, 0x03F5, "θ|ε"), (0x03F7, 0x03F7, "ϸ"),
  (0x03F9, 0x03FA, "σ|ϻ"), (0x04C0, 0x04C0, "ӏ"), (0x0587, 0x0587, "եւ"),
  (0x0675, 0x0678, "\u0627\u0674|\u0648\u0674|\u06c7\u0674|\u064a\u0674"),
  (0x0958, 0x095F, "क\u093c|ख\u093c|ग\u093c|ज\u093c|ड\u093c|ढ\u093c|फ\u093c|य\u093c"),
  (0x09DC, 0x09DD, "ড\u09bc|ঢ\u09bc"), (0x09DF, 0x09DF, "য\u09bc"), (0x0A33, 0x0A33, "ਲ\u0a3c"),
  (0x0A36, 0x0A36, "ਸ\u0a3c"), (0x0A59, 0x0A5B, "ਖ\u0a3c|ਗ\u0a3c|ਜ\u0a3c"),
  (0x0A5E, 0x0A5E, "ਫ\u0a3c"), (0x0B5C, 0x0B5D, "ଡ\u0b3c|ଢ\u0b3c"), (0x0E33, 0x0E33, "\u0e4dา"),
  (0x0EB3, 0x0EB3, "\u0ecdາ"), (0x0EDC, 0x0EDD, "ຫນ|ຫມ"), (0x0F0C, 0x0F0C, "་"),
  (0x0F43, 0x0F43, "ག\u0fb7"), (0x0F4D, 0x0F4D, "ཌ\u0fb7"), (0x0F52, 0x0F52, "ད\u0fb7"),
  (0x0F57, 0x0F57, "བ\u0fb7"), (0x0F5C, 0x0F5C, "ཛ\u0fb7"), (0x0F69, 0x0F69, "ཀ\u0fb5"),
  (0x0F73, 0x0F73, "\u0f71\u0f72"),
  (0x0F75, 0x0F78, "\u0f71\u0f74|\u0fb2\u0f80|\u0fb2\u0f71\u0f80|\u0fb3\u0f80"),
  (0x0F79, 0x0F79, "\u0fb3\u0f71\u0f80"), (0x0F81, 0x0F81, "\u0f71\u0f80"),
  (0x0F93, 0x0F93, "\u0f92\u0fb7"), (0x0F9D, 0x0F9D, "\u0f9c\u0fb7"),
  (0x0FA2, 0x0FA2, "\u0fa1\u0fb7"), (0x0FA7, 0x0FA7, "\u0fa6\u0fb7"),
  (0x0FAC, 0x0FAC, "\u0fab\u0fb7"), (0x0FB9, 0x0FB9, "\u0f90\u0fb5"), (0x10C7, 0x10C7, "ⴧ"),
  (0x10CD, 0x10CD, "ⴭ"), (0x10FC, 0x10FC, "ნ"), (0x1C80, 0x1C89, "в|д|о|с|т|т|ъ|ѣ|ꙋ|\u1c8a"),
  (0x1D2C, 0x1D2E, "a|æ|b"), (0x1D32, 0x1D32, "ǝ"), (0x1D36, 0x1D36, "j"), (0x1D3A, 0x1D3A, "n"),
  (0x1D3C, 0x1D4D, "o|ȣ|p|r|t|u|w|a|ɐ|ɑ|ᴂ|b|d|e|ə|ɛ|ɜ|g"),
  (0x1D4F, 0x1D5C, "k|m|ŋ|o|ɔ|ᴖ|ᴗ|p|t|u|ᴝ|ɯ|v|ᴥ"), (0x1D60, 0x1D6A, "φ|χ|i|r|u|v|β|γ|ρ|φ|χ"),
  (0x1D78, 0x1D78, "н"), (0x1D9B, 0x1DA3, "ɒ|c|ɕ|ð|ɜ|f|ɟ|ɡ|ɥ"), (0x1DA7, 0x1DAD, "ᵻ|ʝ|ɭ|ᶅ|ʟ|ɱ|ɰ"),
  (0x1DB2, 0x1DBB, "ɸ|ʂ|ʃ|ƫ|ʉ|ʊ|ᴜ|ʋ|ʌ|z"), (0x1DBF, 0x1DBF, "θ"), (0x1E9A, 0x1E9B, "aʾ|ṡ"),
  (0x1E9E, 0x1E9E, "ß"), (0x1F71, 0x1F71, "ά"), (0x1F73, 0x1F73, "έ"), (0x1F75, 0x1F75, "ή"),
  (0x1F77, 0x1F77, "ί"), (0x1F79, 0x1F79, "ό"), (0x1F7B, 0x1F7B, "ύ"), (0x1F7D, 0x1F7D, "ώ"),
  (0x1F80, 0x1F98, "ἀι|ἁι|ἂι|ἃι|ἄι|ἅι|ἆι|ἇι|ἀι|ἁι|ἂι|ἃι|ἄι|ἅι|ἆι|ἇι|ἠι|ἡι|ἢι|ἣι|ἤι|ἥι|ἦι|ἧι|ἠι"),
  (0x1F99, 0x1FAF, "ἡι|ἢι|ἣι|ἤι|ἥι|ἦι|ἧι|ὠι|ὡι|ὢι|ὣι|ὤι|ὥι|ὦι|ὧι|ὠι|ὡι|ὢι|ὣι|ὤι|ὥι|ὦι|ὧι"),
  (0x1FB2, 0x1FB4, "ὰι|αι|άι"),
  (0x1FB7, 0x1FC4, "ᾶι|ᾰ|ᾱ|ὰ|ά|αι| \u0313|ι| \u0313| \u0342| \u0308\u0342|ὴι|ηι|ήι"),
  (0x1FC7, 0x1FCF, "ῆι|ὲ|έ|ὴ|ή|ηι| \u0313\u0300| \u0313\u0301| \u0313\u0342"),
  (0x1FD3, 0x1FD3, "ΐ"), (0x1FD8, 0x1FDB, "ῐ|ῑ|ὶ|ί"),
  (0x1FDD, 0x1FDF, " \u0314\u0300| \u0314\u0301| \u0314\u0342"), (0x1FE3, 0x1FE3, "ΰ"),
  (0x1FE8, 0x1FEF, "ῠ|ῡ|ὺ|ύ|ῥ| \u0308\u0300| \u0308\u0301|`"), (0x1FF2, 0x1FF4, "ὼι|ωι|ώι"),
  (0x1FF7, 0x1FFE, "ῶι|ὸ|ό|ὼ|ώ|ωι| \u0301| \u0314"), (0x2000, 0x200A, " | | | | | | | | | | "),
  (0x2011, 0x2011, "\u2010"), (0x2017, 0x2017, " \u0333"), (0x202F, 0x202F, " "),
  (0x2033, 0x2034, "\u2032\u2032|\u2032\u2032\u2032"),
  (0x2036, 0x2037, "\u2035\u2035|\u2035\u2035\u2035"), (0x203C, 0x203C, "!!"),
  (0x203E, 0x203E, " \u0305"), (0x2047, 0x2049, "??|?!|!?"),
  (0x2057, 0x2057, "\u2032\u2032\u2032\u2032"), (0x205F, 0x205F, " "), (0x2071, 0x2071, "i"),
  (0x2079, 0x207F, "9|+|\u2212|=|(|)|n"), (0x208A, 0x208E, "+|\u2212|=|(|)"),
  (0x2090, 0x2095, "a|e|o|x|ə|h"), (0x209A, 0x209C, "p|s|t"), (0x20A8, 0x20A8, "rs"),
  (0x2100, 0x2103, "a/c|a/s|c|\u00b0c"), (0x2105, 0x2107, "c/o|c/u|ɛ"),
  (0x2109, 0x2113, "\u00b0f|g|h|h|h|h|ħ|i|i|l|l"), (0x2115, 0x2116, "n|no"),
  (0x211C, 0x211D, "r|r"), (0x2120, 0x2122, "sm|tel|tm"), (0x2124, 0x2124, "z"),
  (0x2126, 0x2126, "ω"), (0x2128, 0x2128, "z"), (0x212A, 0x212D, "k|å|b|c"),
  (0x212F, 0x2134, "e|e|f|ⅎ|m|o"), (0x2139, 0x2139, "i"), (0x213B, 0x2140, "fax|π|γ|γ|π|\u2211"),
  (0x2145, 0x2149, "d|d|e|i|j"),
  (0x2150, 0x2157, "1\u20447|1\u20449|1\u204410|1\u20443|2\u20443|1\u20445|2\u20445|3\u20445"),
  (0x2158, 0x2161, "4\u20445|1\u20446|5\u20446|1\u20448|3\u20448|5\u20448|7\u20448|1\u2044|i|ii"),
  (0x2162, 0x217A, "iii|iv|v|vi|vii|viii|ix|x|xi|xii|l|c|d|m|i|ii|iii|iv|v|vi|vii|viii|ix|x|xi"),
  (0x217B, 0x217F, "xii|l|c|d|m"), (0x2183, 0x2183, "ↄ"), (0x2189, 0x2189, "0\u20443"),
  (0x222C, 0x222D, "\u222b\u222b|\u222b\u222b\u222b"),
  (0x222F, 0x2230, "\u222e\u222e|\u222e\u222e\u222e"), (0x2329, 0x232A, "\u3008|\u3009"),
  (0x2469, 0x247D, "10|11|12|13|14|15|16|17|18|19|20|(1)|(2)|(3)|(4)|(5)|(6)|(7)|(8)|(9)|(10)"),
  (0x247E, 0x2487, "(11)|(12)|(13)|(14)|(15)|(16)|(17)|(18)|(19)|(20)"),
  (0x249C, 0x24AE, "(a)|(b)|(c)|(d)|(e)|(f)|(g)|(h)|(i)|(j)|(k)|(l)|(m)|(n)|(o)|(p)|(q)|(r)|(s)"),
  (0x24AF, 0x24B5, "(t)|(u)|(v)|(w)|(x)|(y)|(z)"), (0x24EA, 0x24EA, "0"),
  (0x2A0C, 0x2A0C, "\u222b\u222b\u222b\u222b"), (0x2A74, 0x2A76, "::=|==|==="),
  (0x2ADC, 0x2ADC, "\u2add\u0338"), (0x2C60, 0x2C60, "ⱡ"), (0x2C62, 0x2C64, "ɫ|ᵽ|ɽ"),
  (0x2C6D, 0x2C70, "ɑ|ɱ|ɐ|ɒ"), (0x2C72, 0x2C72, "ⱳ"), (0x2C75, 0x2C75, "ⱶ"),
  (0x2C7C, 0x2C7F, "j|v|ȿ|ɀ"), (0x2CEB, 0x2CEB, "ⳬ"), (0x2CED, 0x2CED, "ⳮ"), (0x2CF2, 0x2CF2, "ⳳ"),
  (0x2D6F, 0x2D6F, "ⵡ"), (0x2E9F, 0x2E9F, "母"), (0x2EF3, 0x2EF3, "龟"),
  (0x2F00, 0x2F18, "一|丨|丶|丿|乙|亅|二|亠|人|儿|入|八|冂|冖|冫|几|凵|刀|力|勹|匕|匚|匸|十|卜"),
  (0x2F19, 0x2F31, "卩|厂|厶|又|口|囗|土|士|夂|夊|夕|大|女|子|宀|寸|小|尢|尸|屮|山|巛|工|己|巾"),
  (0x2F32, 0x2F4A, "干|幺|广|廴|廾|弋|弓|彐|彡|彳|心|戈|戶|手|支|攴|文|斗|斤|方|无|日|曰|月|木"),
  (0x2F4B, 0x2F63, "欠|止|歹|殳|毋|比|毛|氏|气|水|火|爪|父|爻|爿|片|牙|牛|犬|玄|玉|瓜|瓦|甘|生"),
  (0x2F64, 0x2F7C, "用|田|疋|疒|癶|白|皮|皿|目|矛|矢|石|示|禸|禾|穴|立|竹|米|糸|缶|网|羊|羽|老"),
  (0x2F7D, 0x2F95, "而|耒|耳|聿|肉|臣|自|至|臼|舌|舛|舟|艮|色|艸|虍|虫|血|行|衣|襾|見|角|言|谷"),
  (0x2F96, 0x2FAE, "豆|豕|豸|貝|赤|走|足|身|車|辛|辰|辵|邑|酉|釆|里|金|長|門|阜|隶|隹|雨|靑|非"),
  (0x2FAF, 0x2FC7, "面|革|韋|韭|音|頁|風|飛|食|首|香|馬|骨|高|髟|鬥|鬯|鬲|鬼|魚|鳥|鹵|鹿|麥|麻"),
  (0x2FC8, 0x2FD5, "黃|黍|黑|黹|黽|鼎|鼓|鼠|鼻|齊|齒|龍|龜|龠"), (0x3000, 0x3000, " "),
  (0x3002, 0x3002, "."), (0x3036, 0x3036, "\u3012"), (0x3038, 0x303A, "十|卄|卅"),
  (0x309B, 0x309C, " \u3099| \u309a"), (0x309F, 0x309F, "より"), (0x30FF, 0x30FF, "コト"),
  (0x3131, 0x3136, "ᄀ|ᄁ|ᆪ|ᄂ|ᆬ|ᆭ"), (0x3140, 0x3140, "ᄚ"), (0x3144, 0x3144, "ᄡ"),
  (0x3165, 0x3177, "ᄔ|ᄕ|ᇇ|ᇈ|ᇌ|ᇎ|ᇓ|ᇗ|ᇙ|ᄜ|ᇝ|ᇟ|ᄝ|ᄞ|ᄠ|ᄢ|ᄣ|ᄧ|ᄩ"),
  (0x317D, 0x3183, "ᄲ|ᄶ|ᅀ|ᅇ|ᅌ|ᇱ|ᇲ"), (0x3187, 0x318E, "ᆄ|ᆅ|ᆈ|ᆑ|ᆒ|ᆔ|ᆞ|ᆡ"),
  (0x3192, 0x319F, "一|二|三|四|上|中|下|甲|乙|丙|丁|天|地|人"),
  (0x3200, 0x320E, "(ᄀ)|(ᄂ)|(ᄃ)|(ᄅ)|(ᄆ)|(ᄇ)|(ᄉ)|(ᄋ)|(ᄌ)|(ᄎ)|(ᄏ)|(ᄐ)|(ᄑ)|(ᄒ)|(가)"),
  (0x320F, 0x321C, "(나)|(다)|(라)|(마)|(바)|(사)|(아)|(자)|(차)|(카)|(타)|(파)|(하)|(주)"),
  (0x321D, 0x321E, "(오전)|(오후)"),
  (0x3220, 0x322E, "(一)|(二)|(三)|(四)|(五)|(六)|(七)|(八)|(九)|(十)|(月)|(火)|(水)|(木)|(金)"),
  (0x322F, 0x323D, "(土)|(日)|(株)|(有)|(社)|(名)|(特)|(財)|(祝)|(労)|(代)|(呼)|(学)|(監)|(企)"),
  (0x323E, 0x3247, "(資)|(協)|(祭)|(休)|(自)|(至)|問|幼|文|箏"),
  (0x3250, 0x3262, "pte|21|22|23|24|25|26|27|28|29|30|31|32|33|34|35|ᄀ|ᄂ|ᄃ"),
  (0x3266, 0x3268, "ᄉ|ᄋ|ᄌ"),
  (0x326E, 0x327E, "가|나|다|라|마|바|사|아|자|차|카|타|파|하|참고|주의|우"),
  (0x3280, 0x3298, "一|二|三|四|五|六|七|八|九|十|月|火|水|木|金|土|日|株|有|社|名|特|財|祝|労"),
  (0x3299, 0x32B1, "秘|男|女|適|優|印|注|項|休|写|正|上|中|下|左|右|医|宗|学|監|企|資|協|夜|36"),
  (0x32B2, 0x32C7, "37|38|39|40|41|42|43|44|45|46|47|48|49|50|1月|2月|3月|4月|5月|6月|7月|8月"),
  (0x32C8, 0x32DD, "9月|10月|11月|12月|hg|erg|ev|ltd|ア|イ|ウ|エ|オ|カ|キ|ク|ケ|コ|サ|シ|ス|セ"),
  (0x32DE, 0x32E3, "ソ|タ|チ|ツ|テ|ト"), (0x32EA, 0x32ED, "ヒ|フ|ヘ|ホ"), (0x32F3, 0x32F4, "ヤ|ユ"),
  (0x32FF, 0x3307, "令和|アパート|アルファ|アンペア|アール|イニング|インチ|ウォン|エスクード"),
  (0x3308, 0x3311, "エーカー|オンス|オーム|カイリ|カラット|カロリー|ガロン|ガンマ|ギガ|ギニー"),
  (0x3312, 0x3319, "キュリー|ギルダー|キロ|キログラム|キロメートル|キロワット|グラム|グラムトン"),
  (0x331A, 0x3321, "クルゼイロ|クローネ|ケース|コルナ|コーポ|サイクル|サンチーム|シリング"),
  (0x3322, 0x332C, "センチ|セント|ダース|デシ|ドル|トン|ナノ|ノット|ハイツ|パーセント|パーツ"),
  (0x332D, 0x3335, "バーレル|ピアストル|ピクル|ピコ|ビル|ファラッド|フィート|ブッシェル|フラン"),
  (0x3336, 0x333F, "ヘクタール|ペソ|ペニヒ|ヘルツ|ペンス|ページ|ベータ|ポイント|ボルト|ホン"),
  (0x3340, 0x3349, "ポンド|ホール|ホーン|マイクロ|マイル|マッハ|マルク|マンション|ミクロン|ミリ"),
  (0x334A, 0x3353, "ミリバール|メガ|メガトン|メートル|ヤード|ヤール|ユアン|リットル|リラ|ルピー"),
  (0x3354, 0x3361, "ルーブル|レム|レントゲン|ワット|0点|1点|2点|3点|4点|5点|6点|7点|8点|9点"),
  (0x3362, 0x3370, "10点|11点|12点|13点|14点|15点|16点|17点|18点|19点|20点|21点|22点|23点|24点"),
  (0x3371, 0x3383, "hpa|da|au|bar|ov|pc|dm|dm2|dm3|iu|平成|昭和|大正|明治|株式会社|pa|na|μa|ma"),
  (0x3384, 0x339A, "ka|kb|mb|gb|cal|kcal|pf|nf|μf|μg|mg|kg|hz|khz|mhz|ghz|thz|μl|ml|dl|kl|fm|nm"),
  (0x339B, 0x33AC, "μm|mm|cm|km|mm2|cm2|m2|km2|mm3|cm3|m3|km3|m\u2215s|m\u2215s2|pa|kpa|mpa|gpa"),
  (0x33AD, 0x33BF, "rad|rad\u2215s|rad\u2215s2|ps|ns|μs|ms|pv|nv|μv|mv|kv|mv|pw|nw|μw|mw|kw|mw"),
  (0x33C0, 0x33C1, "kω|mω"), (0x33C3, 0x33C6, "bq|cc|cd|c\u2215kg"),
  (0x33C8, 0x33D7, "db|gy|ha|hp|in|kk|km|kt|lm|ln|log|lx|mb|mil|mol|ph"),
  (0x33D9, 0x33E9, "ppm|pr|sr|sv|wb|v\u2215m|a\u2215m|1日|2日|3日|4日|5日|6日|7日|8日|9日|10日"),
  (0x33EA, 0x33F8, "11日|12日|13日|14日|15日|16日|17日|18日|19日|20日|21日|22日|23日|24日|25日"),
  (0x33F9, 0x33FF, "26日|27日|28日|29日|30日|31日|gal"), (0xA69C, 0xA69D, "ъ|ь"),
  (0xA770, 0xA770, "ꝯ"), (0xA779, 0xA779, "ꝺ"), (0xA77B, 0xA77B, "ꝼ"), (0xA77D, 0xA77D, "ᵹ"),
  (0xA78B, 0xA78B, "ꞌ"), (0xA78D, 0xA78D, "ɥ"), (0xA790, 0xA790, "ꞑ"),
  (0xA7AA, 0xA7AE, "ɦ|ɜ|ɡ|ɬ|ɪ"), (0xA7B0, 0xA7B3, "ʞ|ʇ|ʝ|ꭓ"), (0xA7C4, 0xA7C7, "ꞔ|ʂ|ᶎ|ꟈ"),
  (0xA7C9, 0xA7C9, "ꟊ"), (0xA7CB, 0xA7CB, "ɤ"), (0xA7DC, 0xA7DC, "ƛ"),
  (0xA7F1, 0xA7F5, "s|c|f|q|ꟶ"), (0xA7F8, 0xA7F9, "ħ|œ"), (0xAB5C, 0xAB5F, "ꜧ|ꬷ|ɫ|ꭒ"),
  (0xAB69, 0xAB69, "ʍ"),
  (0xF900, 0xF918, "豈|更|車|賈|滑|串|句|龜|龜|契|金|喇|奈|懶|癩|羅|蘿|螺|裸|邏|樂|洛|烙|珞|落"),
  (0xF919, 0xF931, "酪|駱|亂|卵|欄|爛|蘭|鸞|嵐|濫|藍|襤|拉|臘|蠟|廊|朗|浪|狼|郎|來|冷|勞|擄|櫓"),
  (0xF932, 0xF94A, "爐|盧|老|蘆|虜|路|露|魯|鷺|碌|祿|綠|菉|錄|鹿|論|壟|弄|籠|聾|牢|磊|賂|雷|壘"),
  (0xF94B, 0xF963, "屢|樓|淚|漏|累|縷|陋|勒|肋|凜|凌|稜|綾|菱|陵|讀|拏|樂|諾|丹|寧|怒|率|異|北"),
  (0xF964, 0xF97C, "磻|便|復|不|泌|數|索|參|塞|省|葉|說|殺|辰|沈|拾|若|掠|略|亮|兩|凉|梁|糧|良"),
  (0xF97D, 0xF995, "諒|量|勵|呂|女|廬|旅|濾|礪|閭|驪|麗|黎|力|曆|歷|轢|年|憐|戀|撚|漣|煉|璉|秊"),
  (0xF996, 0xF9AE, "練|聯|輦|蓮|連|鍊|列|劣|咽|烈|裂|說|廉|念|捻|殮|簾|獵|令|囹|寧|嶺|怜|玲|瑩"),
  (0xF9AF, 0xF9C7, "羚|聆|鈴|零|靈|領|例|禮|醴|隸|惡|了|僚|寮|尿|料|樂|燎|療|蓼|遼|龍|暈|阮|劉"),
  (0xF9C8, 0xF9E0, "杻|柳|流|溜|琉|留|硫|紐|類|六|戮|陸|倫|崙|淪|輪|律|慄|栗|率|隆|利|吏|履|易"),
  (0xF9E1, 0xF9F9, "李|梨|泥|理|痢|罹|裏|裡|里|離|匿|溺|吝|燐|璘|藺|隣|鱗|麟|林|淋|臨|立|笠|粒"),
  (0xF9FA, 0xFA0D, "狀|炙|識|什|茶|刺|切|度|拓|糖|宅|洞|暴|輻|行|降|見|廓|兀|嗀"),
  (0xFA10, 0xFA10, "塚"), (0xFA12, 0xFA12, "晴"), (0xFA15, 0xFA1E, "凞|猪|益|礼|神|祥|福|靖|精|羽"),
  (0xFA20, 0xFA20, "蘒"), (0xFA22, 0xFA22, "諸"), (0xFA25, 0xFA26, "逸|都"),
  (0xFA2A, 0xFA42, "飯|飼|館|鶴|郞|隷|侮|僧|免|勉|勤|卑|喝|嘆|器|塀|墨|層|屮|悔|慨|憎|懲|敏|既"),
  (0xFA43, 0xFA5B, "暑|梅|海|渚|漢|煮|爫|琢|碑|社|祉|祈|祐|祖|祝|禍|禎|穀|突|節|練|縉|繁|署|者"),
  (0xFA5C, 0xFA6D, "臭|艹|艹|著|褐|視|謁|謹|賓|贈|辶|逸|難|響|頻|恵|𤋮|舘"),
  (0xFA70, 0xFA88, "並|况|全|侀|充|冀|勇|勺|喝|啕|喙|嗢|塚|墳|奄|奔|婢|嬨|廒|廙|彩|徭|惘|慎|愈"),
  (0xFA89, 0xFAA1, "憎|慠|懲|戴|揄|搜|摒|敖|晴|朗|望|杖|歹|殺|流|滛|滋|漢|瀞|煮|瞧|爵|犯|猪|瑱"),
  (0xFAA2, 0xFABA, "甆|画|瘝|瘟|益|盛|直|睊|着|磌|窱|節|类|絛|練|缾|者|荒|華|蝹|襁|覆|視|調|諸"),
  (0xFABB, 0xFAD3, "請|謁|諾|諭|謹|變|贈|輸|遲|醙|鉶|陼|難|靖|韛|響|頋|頻|鬒|龜|𢡊|𢡄|𣏕|㮝|䀘"),
  (0xFAD4, 0xFAD9, "䀹|𥉉|𥳐|𧻓|齃|龎"), (0xFB00, 0xFB06, "ff|fi|fl|ffi|ffl|st|st"),
  (0xFB13, 0xFB17, "մն|մե|մի|վն|մխ"), (0xFB1D, 0xFB1D, "\u05d9\u05b4"),
  (0xFB1F, 0xFB23, "\u05f2\u05b7|\u05e2|\u05d0|\u05d3|\u05d4"),
  (0xFB27, 0xFB2C, "\u05e8|\u05ea|+|\u05e9\u05c1|\u05e9\u05c2|\u05e9\u05bc\u05c1"),
  (0xFB2D, 0xFB31, "\u05e9\u05bc\u05c2|\u05d0\u05b7|\u05d0\u05b8|\u05d0\u05bc|\u05d1\u05bc"),
  (0xFB32, 0xFB36, "\u05d2\u05bc|\u05d3\u05bc|\u05d4\u05bc|\u05d5\u05bc|\u05d6\u05bc"),
  (0xFB38, 0xFB3C, "\u05d8\u05bc|\u05d9\u05bc|\u05da\u05bc|\u05db\u05bc|\u05dc\u05bc"),
  (0xFB3E, 0xFB3E, "\u05de\u05bc"), (0xFB40, 0xFB41, "\u05e0\u05bc|\u05e1\u05bc"),
  (0xFB43, 0xFB44, "\u05e3\u05bc|\u05e4\u05bc"),
  (0xFB46, 0xFB4A, "\u05e6\u05bc|\u05e7\u05bc|\u05e8\u05bc|\u05e9\u05bc|\u05ea\u05bc"),
  (0xFB4B, 0xFB50, "\u05d5\u05b9|\u05d1\u05bf|\u05db\u05bf|\u05e4\u05bf|\u05d0\u05dc|\u0671"),
  (0xFB51, 0xFB5A, "\u0671|\u067b|\u067b|\u067b|\u067b|\u067e|\u067e|\u067e|\u067e|\u0680"),
  (0xFB5B, 0xFB64, "\u0680|\u0680|\u0680|\u067a|\u067a|\u067a|\u067a|\u067f|\u067f|\u067f"),
  (0xFB65, 0xFB6E, "\u067f|\u0679|\u0679|\u0679|\u0679|\u06a4|\u06a4|\u06a4|\u06a4|\u06a6"),
  (0xFB6F, 0xFB78, "\u06a6|\u06a6|\u06a6|\u0684|\u0684|\u0684|\u0684|\u0683|\u0683|\u0683"),
  (0xFB79, 0xFB82, "\u0683|\u0686|\u0686|\u0686|\u0686|\u0687|\u0687|\u0687|\u0687|\u068d"),
  (0xFB83, 0xFB8C, "\u068d|\u068c|\u068c|\u068e|\u068e|\u0688|\u0688|\u0698|\u0698|\u0691"),
  (0xFB8D, 0xFB96, "\u0691|\u06a9|\u06a9|\u06a9|\u06a9|\u06af|\u06af|\u06af|\u06af|\u06b3"),
  (0xFB97, 0xFBA0, "\u06b3|\u06b3|\u06b3|\u06b1|\u06b1|\u06b1|\u06b1|\u06ba|\u06ba|\u06bb"),
  (0xFBA1, 0xFBAA, "\u06bb|\u06bb|\u06bb|\u06c0|\u06c0|\u06c1|\u06c1|\u06c1|\u06c1|\u06be"),
  (0xFBAB, 0xFBB1, "\u06be|\u06be|\u06be|\u06d2|\u06d2|\u06d3|\u06d3"),
  (0xFBD3, 0xFBDC, "\u06ad|\u06ad|\u06ad|\u06ad|\u06c7|\u06c7|\u06c6|\u06c6|\u06c8|\u06c8"),
  (0xFBDD, 0xFBE6, "\u06c7\u0674|\u06cb|\u06cb|\u06c5|\u06c5|\u06c9|\u06c9|\u06d0|\u06d0|\u06d0"),
  (0xFBE7, 0xFBED, "\u06d0|\u0649|\u0649|\u0626\u0627|\u0626\u0627|\u0626\u06d5|\u0626\u06d5"),
  (0xFBEE, 0xFBF2, "\u0626\u0648|\u0626\u0648|\u0626\u06c7|\u0626\u06c7|\u0626\u06c6"),
  (0xFBF3, 0xFBF7, "\u0626\u06c6|\u0626\u06c8|\u0626\u06c8|\u0626\u06d0|\u0626\u06d0"),
  (0xFBF8, 0xFBFE, "\u0626\u06d0|\u0626\u0649|\u0626\u0649|\u0626\u0649|\u06cc|\u06cc|\u06cc"),
  (0xFBFF, 0xFC04, "\u06cc|\u0626\u062c|\u0626\u062d|\u0626\u0645|\u0626\u0649|\u0626\u064a"),
  (0xFC05, 0xFC09, "\u0628\u062c|\u0628\u062d|\u0628\u062e|\u0628\u0645|\u0628\u0649"),
  (0xFC0A, 0xFC0E, "\u0628\u064a|\u062a\u062c|\u062a\u062d|\u062a\u062e|\u062a\u0645"),
  (0xFC0F, 0xFC13, "\u062a\u0649|\u062a\u064a|\u062b\u062c|\u062b\u0645|\u062b\u0649"),
  (0xFC14, 0xFC18, "\u062b\u064a|\u062c\u062d|\u062c\u0645|\u062d\u062c|\u062d\u0645"),
  (0xFC19, 0xFC1D, "\u062e\u062c|\u062e\u062d|\u062e\u0645|\u0633\u062c|\u0633\u062d"),
  (0xFC1E, 0xFC22, "\u0633\u062e|\u0633\u0645|\u0635\u062d|\u0635\u0645|\u0636\u062c"),
  (0xFC23, 0xFC27, "\u0636\u062d|\u0636\u062e|\u0636\u0645|\u0637\u062d|\u0637\u0645"),
  (0xFC28, 0xFC2C, "\u0638\u0645|\u0639\u062c|\u0639\u0645|\u063a\u062c|\u063a\u0645"),
  (0xFC2D, 0xFC31, "\u0641\u062c|\u0641\u062d|\u0641\u062e|\u0641\u0645|\u0641\u0649"),
  (0xFC32, 0xFC36, "\u0641\u064a|\u0642\u062d|\u0642\u0645|\u0642\u0649|\u0642\u064a"),
  (0xFC37, 0xFC3B, "\u0643\u0627|\u0643\u062c|\u0643\u062d|\u0643\u062e|\u0643\u0644"),
  (0xFC3C, 0xFC40, "\u0643\u0645|\u0643\u0649|\u0643\u064a|\u0644\u062c|\u0644\u062d"),
  (0xFC41, 0xFC45, "\u0644\u062e|\u0644\u0645|\u0644\u0649|\u0644\u064a|\u0645\u062c"),
  (0xFC46, 0xFC4A, "\u0645\u062d|\u0645\u062e|\u0645\u0645|\u0645\u0649|\u0645\u064a"),
  (0xFC4B, 0xFC4F, "\u0646\u062c|\u0646\u062d|\u0646\u062e|\u0646\u0645|\u0646\u0649"),
  (0xFC50, 0xFC54, "\u0646\u064a|\u0647\u062c|\u0647\u0645|\u0647\u0649|\u0647\u064a"),
  (0xFC55, 0xFC59, "\u064a\u062c|\u064a\u062d|\u064a\u062e|\u064a\u0645|\u064a\u0649"),
  (0xFC5A, 0xFC5E, "\u064a\u064a|\u0630\u0670|\u0631\u0670|\u0649\u0670| \u064c\u0651"),
  (0xFC5F, 0xFC63, " \u064d\u0651| \u064e\u0651| \u064f\u0651| \u0650\u0651| \u0651\u0670"),
  (0xFC64, 0xFC68, "\u0626\u0631|\u0626\u0632|\u0626\u0645|\u0626\u0646|\u0626\u0649"),
  (0xFC69, 0xFC6D, "\u0626\u064a|\u0628\u0631|\u0628\u0632|\u0628\u0645|\u0628\u0646"),
  (0xFC6E, 0xFC72, "\u0628\u0649|\u0628\u064a|\u062a\u0631|\u062a\u0632|\u062a\u0645"),
  (0xFC73, 0xFC77, "\u062a\u0646|\u062a\u0649|\u062a\u064a|\u062b\u0631|\u062b\u0632"),
  (0xFC78, 0xFC7C, "\u062b\u0645|\u062b\u0646|\u062b\u0649|\u062b\u064a|\u0641\u0649"),
  (0xFC7D, 0xFC81, "\u0641\u064a|\u0642\u0649|\u0642\u064a|\u0643\u0627|\u0643\u0644"),
  (0xFC82, 0xFC86, "\u0643\u0645|\u0643\u0649|\u0643\u064a|\u0644\u0645|\u0644\u0649"),
  (0xFC87, 0xFC8B, "\u0644\u064a|\u0645\u0627|\u0645\u0645|\u0646\u0631|\u0646\u0632"),
  (0xFC8C, 0xFC90, "\u0646\u0645|\u0646\u0646|\u0646\u0649|\u0646\u064a|\u0649\u0670"),
  (0xFC91, 0xFC95, "\u064a\u0631|\u064a\u0632|\u064a\u0645|\u064a\u0646|\u064a\u0649"),
  (0xFC96, 0xFC9A, "\u064a\u064a|\u0626\u062c|\u0626\u062d|\u0626\u062e|\u0626\u0645"),
  (0xFC9B, 0xFC9F, "\u0626\u0647|\u0628\u062c|\u0628\u062d|\u0628\u062e|\u0628\u0645"),
  (0xFCA0, 0xFCA4, "\u0628\u0647|\u062a\u062c|\u062a\u062d|\u062a\u062e|\u062a\u0645"),
  (0xFCA5, 0xFCA9, "\u062a\u0647|\u062b\u0645|\u062c\u062d|\u062c\u0645|\u062d\u062c"),
  (0xFCAA, 0xFCAE, "\u062d\u0645|\u062e\u062c|\u062e\u0645|\u0633\u062c|\u0633\u062d"),
  (0xFCAF, 0xFCB3, "\u0633\u062e|\u0633\u0645|\u0635\u062d|\u0635\u062e|\u0635\u0645"),
  (0xFCB4, 0xFCB8, "\u0636\u062c|\u0636\u062d|\u0636\u062e|\u0636\u0645|\u0637\u062d"),
  (0xFCB9, 0xFCBD, "\u0638\u0645|\u0639\u062c|\u0639\u0645|\u063a\u062c|\u063a\u0645"),
  (0xFCBE, 0xFCC2, "\u0641\u062c|\u0641\u062d|\u0641\u062e|\u0641\u0645|\u0642\u062d"),
  (0xFCC3, 0xFCC7, "\u0642\u0645|\u0643\u062c|\u0643\u062d|\u0643\u062e|\u0643\u0644"),
  (0xFCC8, 0xFCCC, "\u0643\u0645|\u0644\u062c|\u0644\u062d|\u0644\u062e|\u0644\u0645"),
  (0xFCCD, 0xFCD1, "\u0644\u0647|\u0645\u062c|\u0645\u062d|\u0645\u062e|\u0645\u0645"),
  (0xFCD2, 0xFCD6, "\u0646\u062c|\u0646\u062d|\u0646\u062e|\u0646\u0645|\u0646\u0647"),
  (0xFCD7, 0xFCDB, "\u0647\u062c|\u0647\u0645|\u0647\u0670|\u064a\u062c|\u064a\u062d"),
  (0xFCDC, 0xFCE0, "\u064a\u062e|\u064a\u0645|\u064a\u0647|\u0626\u0645|\u0626\u0647"),
  (0xFCE1, 0xFCE5, "\u0628\u0645|\u0628\u0647|\u062a\u0645|\u062a\u0647|\u062b\u0645"),
  (0xFCE6, 0xFCEA, "\u062b\u0647|\u0633\u0645|\u0633\u0647|\u0634\u0645|\u0634\u0647"),
  (0xFCEB, 0xFCEF, "\u0643\u0644|\u0643\u0645|\u0644\u0645|\u0646\u0645|\u0646\u0647"),
  (0xFCF0, 0xFCF3, "\u064a\u0645|\u064a\u0647|\u0640\u064e\u0651|\u0640\u064f\u0651"),
  (0xFCF4, 0xFCF8, "\u0640\u0650\u0651|\u0637\u0649|\u0637\u064a|\u0639\u0649|\u0639\u064a"),
  (0xFCF9, 0xFCFD, "\u063a\u0649|\u063a\u064a|\u0633\u0649|\u0633\u064a|\u0634\u0649"),
  (0xFCFE, 0xFD02, "\u0634\u064a|\u062d\u0649|\u062d\u064a|\u062c\u0649|\u062c\u064a"),
  (0xFD03, 0xFD07, "\u062e\u0649|\u062e\u064a|\u0635\u0649|\u0635\u064a|\u0636\u0649"),
  (0xFD08, 0xFD0C, "\u0636\u064a|\u0634\u062c|\u0634\u062d|\u0634\u062e|\u0634\u0645"),
  (0xFD0D, 0xFD11, "\u0634\u0631|\u0633\u0631|\u0635\u0631|\u0636\u0631|\u0637\u0649"),
  (0xFD12, 0xFD16, "\u0637\u064a|\u0639\u0649|\u0639\u064a|\u063a\u0649|\u063a\u064a"),
  (0xFD17, 0xFD1B, "\u0633\u0649|\u0633\u064a|\u0634\u0649|\u0634\u064a|\u062d\u0649"),
  (0xFD1C, 0xFD20, "\u062d\u064a|\u062c\u0649|\u062c\u064a|\u062e\u0649|\u062e\u064a"),
  (0xFD21, 0xFD25, "\u0635\u0649|\u0635\u064a|\u0636\u0649|\u0636\u064a|\u0634\u062c"),
  (0xFD26, 0xFD2A, "\u0634\u062d|\u0634\u062e|\u0634\u0645|\u0634\u0631|\u0633\u0631"),
  (0xFD2B, 0xFD2F, "\u0635\u0631|\u0636\u0631|\u0634\u062c|\u0634\u062d|\u0634\u062e"),
  (0xFD30, 0xFD34, "\u0634\u0645|\u0633\u0647|\u0634\u0647|\u0637\u0645|\u0633\u062c"),
  (0xFD35, 0xFD39, "\u0633\u062d|\u0633\u062e|\u0634\u062c|\u0634\u062d|\u0634\u062e"),
  (0xFD3A, 0xFD3D, "\u0637\u0645|\u0638\u0645|\u0627\u064b|\u0627\u064b"),
  (0xFD50, 0xFD53, "\u062a\u062c\u0645|\u062a\u062d\u062c|\u062a\u062d\u062c|\u062a\u062d\u0645"),
  (0xFD54, 0xFD57, "\u062a\u062e\u0645|\u062a\u0645\u062c|\u062a\u0645\u062d|\u062a\u0645\u062e"),
  (0xFD58, 0xFD5B, "\u062c\u0645\u062d|\u062c\u0645\u062d|\u062d\u0645\u064a|\u062d\u0645\u0649"),
  (0xFD5C, 0xFD5F, "\u0633\u062d\u062c|\u0633\u062c\u062d|\u0633\u062c\u0649|\u0633\u0645\u062d"),
  (0xFD60, 0xFD63, "\u0633\u0645\u062d|\u0633\u0645\u062c|\u0633\u0645\u0645|\u0633\u0645\u0645"),
  (0xFD64, 0xFD67, "\u0635\u062d\u062d|\u0635\u062d\u062d|\u0635\u0645\u0645|\u0634\u062d\u0645"),
  (0xFD68, 0xFD6B, "\u0634\u062d\u0645|\u0634\u062c\u064a|\u0634\u0645\u062e|\u0634\u0645\u062e"),
  (0xFD6C, 0xFD6F, "\u0634\u0645\u0645|\u0634\u0645\u0645|\u0636\u062d\u0649|\u0636\u062e\u0645"),
  (0xFD70, 0xFD73, "\u0636\u062e\u0645|\u0637\u0645\u062d|\u0637\u0645\u062d|\u0637\u0645\u0645"),
  (0xFD74, 0xFD77, "\u0637\u0645\u064a|\u0639\u062c\u0645|\u0639\u0645\u0645|\u0639\u0645\u0645"),
  (0xFD78, 0xFD7B, "\u0639\u0645\u0649|\u063a\u0645\u0645|\u063a\u0645\u064a|\u063a\u0645\u0649"),
  (0xFD7C, 0xFD7F, "\u0641\u062e\u0645|\u0641\u062e\u0645|\u0642\u0645\u062d|\u0642\u0645\u0645"),
  (0xFD80, 0xFD83, "\u0644\u062d\u0645|\u0644\u062d\u064a|\u0644\u062d\u0649|\u0644\u062c\u062c"),
  (0xFD84, 0xFD87, "\u0644\u062c\u062c|\u0644\u062e\u0645|\u0644\u062e\u0645|\u0644\u0645\u062d"),
  (0xFD88, 0xFD8B, "\u0644\u0645\u062d|\u0645\u062d\u062c|\u0645\u062d\u0645|\u0645\u062d\u064a"),
  (0xFD8C, 0xFD8F, "\u0645\u062c\u062d|\u0645\u062c\u0645|\u0645\u062e\u062c|\u0645\u062e\u0645"),
  (0xFD92, 0xFD95, "\u0645\u062c\u062e|\u0647\u0645\u062c|\u0647\u0645\u0645|\u0646\u062d\u0645"),
  (0xFD96, 0xFD99, "\u0646\u062d\u0649|\u0646\u062c\u0645|\u0646\u062c\u0645|\u0646\u062c\u0649"),
  (0xFD9A, 0xFD9D, "\u0646\u0645\u064a|\u0646\u0645\u0649|\u064a\u0645\u0645|\u064a\u0645\u0645"),
  (0xFD9E, 0xFDA1, "\u0628\u062e\u064a|\u062a\u062c\u064a|\u062a\u062c\u0649|\u062a\u062e\u064a"),
  (0xFDA2, 0xFDA5, "\u062a\u062e\u0649|\u062a\u0645\u064a|\u062a\u0645\u0649|\u062c\u0645\u064a"),
  (0xFDA6, 0xFDA9, "\u062c\u062d\u0649|\u062c\u0645\u0649|\u0633\u062e\u0649|\u0635\u062d\u064a"),
  (0xFDAA, 0xFDAD, "\u0634\u062d\u064a|\u0636\u062d\u064a|\u0644\u062c\u064a|\u0644\u0645\u064a"),
  (0xFDAE, 0xFDB1, "\u064a\u062d\u064a|\u064a\u062c\u064a|\u064a\u0645\u064a|\u0645\u0645\u064a"),
  (0xFDB2, 0xFDB5, "\u0642\u0645\u064a|\u0646\u062d\u064a|\u0642\u0645\u062d|\u0644\u062d\u0645"),
  (0xFDB6, 0xFDB9, "\u0639\u0645\u064a|\u0643\u0645\u064a|\u0646\u062c\u062d|\u0645\u062e\u064a"),
  (0xFDBA, 0xFDBD, "\u0644\u062c\u0645|\u0643\u0645\u0645|\u0644\u062c\u0645|\u0646\u062c\u062d"),
  (0xFDBE, 0xFDC1, "\u062c\u062d\u064a|\u062d\u062c\u064a|\u0645\u062c\u064a|\u0641\u0645\u064a"),
  (0xFDC2, 0xFDC5, "\u0628\u062d\u064a|\u0643\u0645\u0645|\u0639\u062c\u0645|\u0635\u0645\u0645"),
  (0xFDC6, 0xFDC7, "\u0633\u062e\u064a|\u0646\u062c\u064a"),
  (0xFDF0, 0xFDF2, "\u0635\u0644\u06d2|\u0642\u0644\u06d2|\u0627\u0644\u0644\u0647"),
  (0xFDF3, 0xFDF5, "\u0627\u0643\u0628\u0631|\u0645\u062d\u0645\u062f|\u0635\u0644\u0639\u0645"),
  (0xFDF6, 0xFDF8, "\u0631\u0633\u0648\u0644|\u0639\u0644\u064a\u0647|\u0648\u0633\u0644\u0645"),
  (0xFDF9, 0xFDF9, "\u0635\u0644\u0649"),
  (0xFDFA, 0xFDFA, "\u0635\u0644\u0649 \u0627\u0644\u0644\u0647 \u0639\u0644\u064a\u0647 \u0648\u0633\u0644\u0645"),
  (0xFDFB, 0xFDFC, "\u062c\u0644 \u062c\u0644\u0627\u0644\u0647|\u0631\u06cc\u0627\u0644"),
  (0xFE10, 0xFE11, ",|\u3001"), (0xFE13, 0xFE18, ":|;|!|?|\u3016|\u3017"),
  (0xFE31, 0xFE3E, "\u2014|\u2013|_|_|(|)|\x7b|\x7d|\u3014|\u3015|\u3010|\u3011|\u300a|\u300b"),
  (0xFE3F, 0xFE40, "\u3008|\u3009"),
  (0xFE47, 0xFE51, "[|]| \u0305| \u0305| \u0305| \u0305|_|_|_|,|\u3001"),
  (0xFE54, 0xFE66, ";|:|?|!|\u2014|(|)|\x7b|\x7d|\u3014|\u3015|#|&|*|+|-|<|>|="),
  (0xFE68, 0xFE6B, "\\|$|%|@"), (0xFE70, 0xFE72, " \u064b|\u0640\u064b| \u064c"),
  (0xFE74, 0xFE74, " \u064d"),
  (0xFE76, 0xFE7C, " \u064e|\u0640\u064e| \u064f|\u0640\u064f| \u0650|\u0640\u0650| \u0651"),
  (0xFE7D, 0xFE85, "\u0640\u0651| \u0652|\u0640\u0652|\u0621|\u0622|\u0622|\u0623|\u0623|\u0624"),
  (0xFE86, 0xFE8F, "\u0624|\u0625|\u0625|\u0626|\u0626|\u0626|\u0626|\u0627|\u0627|\u0628"),
  (0xFE90, 0xFE99, "\u0628|\u0628|\u0628|\u0629|\u0629|\u062a|\u062a|\u062a|\u062a|\u062b"),
  (0xFE9A, 0xFEA3, "\u062b|\u062b|\u062b|\u062c|\u062c|\u062c|\u062c|\u062d|\u062d|\u062d"),
  (0xFEA4, 0xFEAD, "\u062d|\u062e|\u062e|\u062e|\u062e|\u062f|\u062f|\u0630|\u0630|\u0631"),
  (0xFEAE, 0xFEB7, "\u0631|\u0632|\u0632|\u0633|\u0633|\u0633|\u0633|\u0634|\u0634|\u0634"),
  (0xFEB8, 0xFEC1, "\u0634|\u0635|\u0635|\u0635|\u0635|\u0636|\u0636|\u0636|\u0636|\u0637"),
  (0xFEC2, 0xFECB, "\u0637|\u0637|\u0637|\u0638|\u0638|\u0638|\u0638|\u0639|\u0639|\u0639"),
  (0xFECC, 0xFED5, "\u0639|\u063a|\u063a|\u063a|\u063a|\u0641|\u0641|\u0641|\u0641|\u0642"),
  (0xFED6, 0xFEDF, "\u0642|\u0642|\u0642|\u0643|\u0643|\u0643|\u0643|\u0644|\u0644|\u0644"),
  (0xFEE0, 0xFEE9, "\u0644|\u0645|\u0645|\u0645|\u0645|\u0646|\u0646|\u0646|\u0646|\u0647"),
  (0xFEEA, 0xFEF3, "\u0647|\u0647|\u0647|\u0648|\u0648|\u0649|\u0649|\u064a|\u064a|\u064a"),
  (0xFEF4, 0xFEF9, "\u064a|\u0644\u0622|\u0644\u0622|\u0644\u0623|\u0644\u0623|\u0644\u0625"),
  (0xFEFA, 0xFEFC, "\u0644\u0625|\u0644\u0627|\u0644\u0627"),
  (0xFF5F, 0xFF6F, "\u2985|\u2986|.|\u300c|\u300d|\u3001|\u30fb|ヲ|ァ|ィ|ゥ|ェ|ォ|ャ|ュ|ョ|ッ"),
  (0xFF70, 0xFF84, "ー|ア|イ|ウ|エ|オ|カ|キ|ク|ケ|コ|サ|シ|ス|セ|ソ|タ|チ|ツ|テ|ト"),
  (0xFF8B, 0xFF8E, "ヒ|フ|ヘ|ホ"), (0xFF94, 0xFF95, "ヤ|ユ"),
  (0xFF9C, 0xFF9F, "ワ|ン|\u3099|\u309a"), (0xFFA1, 0xFFA6, "ᄀ|ᄁ|ᆪ|ᄂ|ᆬ|ᆭ"),
  (0xFFB0, 0xFFB0, "ᄚ"), (0xFFB4, 0xFFB4, "ᄡ"),
  (0xFFE0, 0xFFE6, "\u00a2|\u00a3|\u00ac| \u0304|\u00a6|\u00a5|\u20a9"), (0xFFE8, 0xFFE8, "\u2502"),
  (0xFFED, 0xFFEE, "\u25a0|\u25cb"), (0x10573, 0x10573, "𐖚"), (0x10577, 0x10577, "𐖞"),
  (0x1058F, 0x1058F, "𐖶"), (0x10781, 0x10785, "ː|ˑ|æ|ʙ|ɓ"),
  (0x10787, 0x107AC, "ʣ|ꭦ|ʥ|ʤ|ɖ|ɗ|ᶑ|ɘ|ɞ|ʩ|ɤ|ɢ|ɠ|ʛ|ħ|ʜ|ɧ|ʄ|ʪ|ʫ|ɬ|𝼄|ꞎ|ɮ|𝼅|ʎ|𝼆|ø|ɶ|ɷ|q|ɺ|𝼈|ɽ|ɾ|ʀ|ʨ|ʦ"),
  (0x107AD, 0x107B0, "ꭧ|ʧ|ʈ|ⱱ"), (0x107B2, 0x107B5, "ʏ|ʡ|ʢ|ʘ"), (0x107B9, 0x107BA, "𝼊|𝼞"),
  (0x1D15E, 0x1D164, "𝅗𝅥|𝅘𝅥|𝅘𝅥𝅮|𝅘𝅥𝅯|𝅘𝅥𝅰|𝅘𝅥𝅱|𝅘𝅥𝅲"), (0x1D1BB, 0x1D1C0, "𝆹𝅥|𝆺𝅥|𝆹𝅥𝅮|𝆺𝅥𝅮|𝆹𝅥𝅯|𝆺𝅥𝅯"),
  (0x1D451, 0x1D451, "d"), (0x1D49C, 0x1D49C, "a"), (0x1D49F, 0x1D49F, "d"),
  (0x1D4A5, 0x1D4A5, "j"), (0x1D4A9, 0x1D4A9, "n"), (0x1D4B1, 0x1D4B1, "v"),
  (0x1D4B5, 0x1D4B5, "z"), (0x1D4C0, 0x1D4C0, "k"), (0x1D4C8, 0x1D4C8, "s"),
  (0x1D4CC, 0x1D4CC, "w"), (0x1D504, 0x1D504, "a"), (0x1D507, 0x1D508, "d|e"),
  (0x1D519, 0x1D519, "v"), (0x1D541, 0x1D541, "j"), (0x1D543, 0x1D543, "l"),
  (0x1D54F, 0x1D550, "x|y"), (0x1D6A4, 0x1D6A5, "ı|ȷ"), (0x1D6B9, 0x1D6B9, "θ"),
  (0x1D6C1, 0x1D6C1, "\u2207"), (0x1D6D3, 0x1D6D3, "σ"), (0x1D6DB, 0x1D6E1, "\u2202|ε|θ|κ|φ|ρ|π"),
  (0x1D6F3, 0x1D6F3, "θ"), (0x1D6FB, 0x1D6FB, "\u2207"), (0x1D70D, 0x1D70D, "σ"),
  (0x1D715, 0x1D71B, "\u2202|ε|θ|κ|φ|ρ|π"), (0x1D72D, 0x1D72D, "θ"), (0x1D735, 0x1D735, "\u2207"),
  (0x1D747, 0x1D747, "σ"), (0x1D74F, 0x1D755, "\u2202|ε|θ|κ|φ|ρ|π"), (0x1D767, 0x1D767, "θ"),
  (0x1D76F, 0x1D76F, "\u2207"), (0x1D781, 0x1D781, "σ"), (0x1D789, 0x1D78F, "\u2202|ε|θ|κ|φ|ρ|π"),
  (0x1D7A1, 0x1D7A1, "θ"), (0x1D7A9, 0x1D7A9, "\u2207"), (0x1D7BB, 0x1D7BB, "σ"),
  (0x1D7C3, 0x1D7CB, "\u2202|ε|θ|κ|φ|ρ|π|ϝ|ϝ"), (0x1E047, 0x1E050, "ы|э|ю|ꚉ|ә|і|ј|ө|ү|ӏ"),
  (0x1E05A, 0x1E05E, "к|л|о|п|с"), (0x1E065, 0x1E06D, "ъ|ы|ґ|і|ѕ|џ|ҫ|ꙑ|ұ"),
  (0x1EE00, 0x1EE03, "\u0627|\u0628|\u062c|\u062f"),
  (0x1EE05, 0x1EE09, "\u0648|\u0632|\u062d|\u0637|\u064a"),
  (0x1EE0E, 0x1EE17, "\u0633|\u0639|\u0641|\u0635|\u0642|\u0631|\u0634|\u062a|\u062b|\u062e"),
  (0x1EE18, 0x1EE1F, "\u0630|\u0636|\u0638|\u063a|\u066e|\u06ba|\u06a1|\u066f"),
  (0x1EE21, 0x1EE22, "\u0628|\u062c"), (0x1EE24, 0x1EE24, "\u0647"), (0x1EE27, 0x1EE27, "\u062d"),
  (0x1EE29, 0x1EE29, "\u064a"), (0x1EE2E, 0x1EE32, "\u0633|\u0639|\u0641|\u0635|\u0642"),
  (0x1EE34, 0x1EE37, "\u0634|\u062a|\u062b|\u062e"), (0x1EE39, 0x1EE39, "\u0636"),
  (0x1EE3B, 0x1EE3B, "\u063a"), (0x1EE42, 0x1EE42, "\u062c"), (0x1EE47, 0x1EE47, "\u062d"),
  (0x1EE49, 0x1EE49, "\u064a"), (0x1EE4B, 0x1EE4B, "\u0644"),
  (0x1EE4D, 0x1EE4F, "\u0646|\u0633|\u0639"), (0x1EE51, 0x1EE52, "\u0635|\u0642"),
  (0x1EE54, 0x1EE54, "\u0634"), (0x1EE57, 0x1EE57, "\u062e"), (0x1EE59, 0x1EE59, "\u0636"),
  (0x1EE5B, 0x1EE5B, "\u063a"), (0x1EE5D, 0x1EE5D, "\u06ba"), (0x1EE5F, 0x1EE5F, "\u066f"),
  (0x1EE61, 0x1EE62, "\u0628|\u062c"), (0x1EE64, 0x1EE64, "\u0647"),
  (0x1EE67, 0x1EE6A, "\u062d|\u0637|\u064a|\u0643"),
  (0x1EE6C, 0x1EE72, "\u0645|\u0646|\u0633|\u0639|\u0641|\u0635|\u0642"),
  (0x1EE74, 0x1EE77, "\u0634|\u062a|\u062b|\u062e"),
  (0x1EE79, 0x1EE7C, "\u0636|\u0638|\u063a|\u066e"), (0x1EE7E, 0x1EE7E, "\u06a1"),
  (0x1EE80, 0x1EE89, "\u0627|\u0628|\u062c|\u062f|\u0647|\u0648|\u0632|\u062d|\u0637|\u064a"),
  (0x1EE8E, 0x1EE97, "\u0633|\u0639|\u0641|\u0635|\u0642|\u0631|\u0634|\u062a|\u062b|\u062e"),
  (0x1EE98, 0x1EE9B, "\u0630|\u0636|\u0638|\u063a"), (0x1EEA1, 0x1EEA3, "\u0628|\u062c|\u062f"),
  (0x1EEA5, 0x1EEA9, "\u0648|\u0632|\u062d|\u0637|\u064a"),
  (0x1EEAE, 0x1EEB7, "\u0633|\u0639|\u0641|\u0635|\u0642|\u0631|\u0634|\u062a|\u062b|\u062e"),
  (0x1EEB8, 0x1EEBB, "\u0630|\u0636|\u0638|\u063a"),
  (0x1F101, 0x1F10A, "0,|1,|2,|3,|4,|5,|6,|7,|8,|9,"),
  (0x1F110, 0x1F122, "(a)|(b)|(c)|(d)|(e)|(f)|(g)|(h)|(i)|(j)|(k)|(l)|(m)|(n)|(o)|(p)|(q)|(r)|(s)"),
  (0x1F123, 0x1F12E, "(t)|(u)|(v)|(w)|(x)|(y)|(z)|\u3014s\u3015|c|r|cd|wz"),
  (0x1F14A, 0x1F14F, "hv|mv|sd|ss|ppv|wc"), (0x1F16A, 0x1F16C, "mc|md|mr"),
  (0x1F190, 0x1F190, "dj"), (0x1F200, 0x1F202, "ほか|ココ|サ"),
  (0x1F210, 0x1F228, "手|字|双|デ|二|多|解|天|交|映|無|料|前|後|再|新|初|終|生|販|声|吹|演|投|捕"),
  (0x1F229, 0x1F23B, "一|三|遊|左|中|右|指|走|打|禁|空|合|満|有|月|申|割|営|配"),
  (0x1F240, 0x1F244, "\u3014本\u3015|\u3014三\u3015|\u3014二\u3015|\u3014安\u3015|\u3014点\u3015"),
  (0x1F245, 0x1F248, "\u3014打\u3015|\u3014盗\u3015|\u3014勝\u3015|\u3014敗\u3015"),
  (0x1F250, 0x1F251, "得|可"),
  (0x2F800, 0x2F818, "丽|丸|乁|𠄢|你|侮|侻|倂|偺|備|僧|像|㒞|𠘺|免|兔|兤|具|𠔜|㒹|內|再|𠕋|冗|冤"),
  (0x2F819, 0x2F831, "仌|冬|况|𩇟|凵|刃|㓟|刻|剆|割|剷|㔕|勇|勉|勤|勺|包|匆|北|卉|卑|博|即|卽|卿"),
  (0x2F832, 0x2F84A, "卿|卿|𠨬|灰|及|叟|𠭣|叫|叱|吆|咞|吸|呈|周|咢|哶|唐|啓|啣|善|善|喙|喫|喳|嗂"),
  (0x2F84B, 0x2F863, "圖|嘆|圗|噑|噴|切|壮|城|埴|堍|型|堲|報|墬|𡓤|売|壷|夆|多|夢|奢|𡚨|𡛪|姬|娛"),
  (0x2F864, 0x2F87C, "娧|姘|婦|㛮|㛼|嬈|嬾|嬾|𡧈|寃|寘|寧|寳|𡬘|寿|将|当|尢|㞁|屠|屮|峀|岍|𡷤|嵃"),
  (0x2F87D, 0x2F895, "𡷦|嵮|嵫|嵼|巡|巢|㠯|巽|帨|帽|幩|㡢|𢆃|㡼|庰|庳|庶|廊|𪎒|廾|𢌱|𢌱|舁|弢|弢"),
  (0x2F896, 0x2F8AE, "㣇|𣊸|𦇚|形|彫|㣣|徚|忍|志|忹|悁|㤺|㤜|悔|𢛔|惇|慈|慌|慎|慌|慺|憎|憲|憤|憯"),
  (0x2F8AF, 0x2F8C7, "懞|懲|懶|成|戛|扝|抱|拔|捐|𢬌|挽|拼|捨|掃|揤|𢯱|搢|揅|掩|㨮|摩|摾|撝|摷|㩬"),
  (0x2F8C8, 0x2F8E0, "敏|敬|𣀊|旣|書|晉|㬙|暑|㬈|㫤|冒|冕|最|暜|肭|䏙|朗|望|朡|杞|杓|𣏃|㭉|柺|枅"),
  (0x2F8E1, 0x2F8F9, "桒|梅|𣑭|梎|栟|椔|㮝|楂|榣|槪|檨|𣚣|櫛|㰘|次|𣢧|歔|㱎|歲|殟|殺|殻|𣪍|𡴋|𣫺"),
  (0x2F8FA, 0x2F912, "汎|𣲼|沿|泍|汧|洖|派|海|流|浩|浸|涅|𣴞|洴|港|湮|㴳|滋|滇|𣻑|淹|潮|𣽞|𣾎|濆"),
  (0x2F913, 0x2F92B, "瀹|瀞|瀛|㶖|灊|災|灷|炭|𠔥|煅|𤉣|熜|𤎫|爨|爵|牐|𤘈|犀|犕|𤜵|𤠔|獺|王|㺬|玥"),
  (0x2F92C, 0x2F944, "㺸|㺸|瑇|瑜|瑱|璅|瓊|㼛|甤|𤰶|甾|𤲒|異|𢆟|瘐|𤾡|𤾸|𥁄|㿼|䀈|直|𥃳|𥃲|𥄙|𥄳"),
  (0x2F945, 0x2F95D, "眞|真|真|睊|䀹|瞋|䁆|䂖|𥐝|硎|碌|磌|䃣|𥘦|祖|𥚚|𥛅|福|秫|䄯|穀|穊|穏|𥥼|𥪧"),
  (0x2F95E, 0x2F976, "𥪧|竮|䈂|𥮫|篆|築|䈧|𥲀|糒|䊠|糨|糣|紀|𥾆|絣|䌁|緇|縂|繅|䌴|𦈨|𦉇|䍙|𦋙|罺"),
  (0x2F977, 0x2F98F, "𦌾|羕|翺|者|𦓚|𦔣|聠|𦖨|聰|𣍟|䏕|育|脃|䐋|脾|媵|𦞧|𦞵|𣎓|𣎜|舁|舄|辞|䑫|芑"),
  (0x2F990, 0x2F9A8, "芋|芝|劳|花|芳|芽|苦|𦬼|若|茝|荣|莭|茣|莽|菧|著|荓|菊|菌|菜|𦰶|𦵫|𦳕|䔫|蓱"),
  (0x2F9A9, 0x2F9C1, "蓳|蔖|𧏊|蕤|𦼬|䕝|䕡|𦾱|𧃒|䕫|虐|虜|虧|虩|蚩|蚈|蜎|蛢|蝹|蜨|蝫|螆|䗗|蟡|蠁"),
  (0x2F9C2, 0x2F9DA, "䗹|衠|衣|𧙧|裗|裞|䘵|裺|㒻|𧢮|𧥦|䚾|䛇|誠|諭|變|豕|𧲨|貫|賁|贛|起|𧼯|𠠄|跋"),
  (0x2F9DB, 0x2F9F3, "趼|跰|𠣞|軔|輸|𨗒|𨗭|邔|郱|鄑|𨜮|鄛|鈸|鋗|鋘|鉼|鏹|鐕|𨯺|開|䦕|閷|𨵷|䧦|雃"),
  (0x2F9F4, 0x2FA0C, "嶲|霣|𩅅|𩈚|䩮|䩶|韠|𩐊|䪲|𩒖|頋|頋|頩|𩖶|飢|䬳|餩|馧|駂|駾|䯎|𩬰|鬒|鱀|鳽"),
  (0x2FA0D, 0x2FA1D, "䳎|䳭|鵧|𪃎|䳸|𪄅|𪈎|𪊑|麻|䵖|黹|黾|鼅|鼏|鼖|鼻|𪘀")]

/-! ### Readings -/

/-- The character that stands for one of a shifted range. -/
def shiftedImage? (c : Char) : Option Char :=
  (shiftedRanges.find? fun (first, last, step, _) =>
      first ≤ c.toNat && c.toNat ≤ last && (c.toNat - first) % step == 0).map
    fun (first, _, _, image) => Char.ofNat (image + (c.toNat - first))

/-- The characters that stand for one whose image is listed. -/
def listedImage? (c : Char) : Option (List Char) :=
  (imageRanges.find? fun (first, last, _) => first ≤ c.toNat && c.toNat ≤ last).bind
    fun (first, _, images) => (Text.pieces '|' images.toList)[c.toNat - first]?

/-- What becomes of a character in a domain name. -/
def reading (c : Char) : Reading :=
  if c.val < 128 then if c.isUpper then .replaced [c.toLower] else .kept
  else if !Text.inRanges acceptedRanges c.toNat then .refused
  else if Text.inRanges droppedRanges c.toNat then .replaced []
  else
    match (shiftedImage? c).map ([·]) <|> listedImage? c with
    | some image => .replaced image
    | none => .kept

/-- The characters that a text stands for, if none of it is refused. -/
def mapped? : List Char → Option (List Char)
  | [] => some []
  | c :: cs =>
    match reading c with
    | .kept => (mapped? cs).map (c :: ·)
    | .replaced image => (mapped? cs).map (image ++ ·)
    | .refused => none

end Acquisition.Domain
