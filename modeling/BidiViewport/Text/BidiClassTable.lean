import BidiViewport.Text.RangeTable
import BidiViewport.Text.BidiClass

/-!
# The class of every character

The Bidi_Class property of Unicode 16.  Characters outside the table are
left-to-right, and so is every unassigned code point but those in the blocks set
aside for right-to-left scripts and for currency signs.  Paragraph separators are
few and split the text, so they are a predicate of their own and not in the table.
-/

namespace BidiViewport

/-- Characters that end a paragraph. -/
def isParagraphSeparator (c : Char) : Bool :=
  c = '\n' || c = '\r' || (0x1C ≤ c.toNat && c.toNat ≤ 0x1E) || c.toNat = 0x85 || c.toNat = 0x2029

namespace BidiClass

/-- Every class but `L` and `B`. -/
def table : RangeTable BidiClass := ⟨#[
  ⟨0x0000, 0x0008, .BN⟩, ⟨0x0009, 0x0009, .S⟩, ⟨0x000B, 0x000B, .S⟩, ⟨0x000C, 0x000C, .WS⟩,
  ⟨0x000E, 0x001B, .BN⟩, ⟨0x001F, 0x001F, .S⟩, ⟨0x0020, 0x0020, .WS⟩, ⟨0x0021, 0x0022, .ON⟩,
  ⟨0x0023, 0x0025, .ET⟩, ⟨0x0026, 0x002A, .ON⟩, ⟨0x002B, 0x002B, .ES⟩, ⟨0x002C, 0x002C, .CS⟩,
  ⟨0x002D, 0x002D, .ES⟩, ⟨0x002E, 0x002F, .CS⟩, ⟨0x0030, 0x0039, .EN⟩, ⟨0x003A, 0x003A, .CS⟩,
  ⟨0x003B, 0x0040, .ON⟩, ⟨0x005B, 0x0060, .ON⟩, ⟨0x007B, 0x007E, .ON⟩, ⟨0x007F, 0x0084, .BN⟩,
  ⟨0x0086, 0x009F, .BN⟩, ⟨0x00A0, 0x00A0, .CS⟩, ⟨0x00A1, 0x00A1, .ON⟩, ⟨0x00A2, 0x00A5, .ET⟩,
  ⟨0x00A6, 0x00A9, .ON⟩, ⟨0x00AB, 0x00AC, .ON⟩, ⟨0x00AD, 0x00AD, .BN⟩, ⟨0x00AE, 0x00AF, .ON⟩,
  ⟨0x00B0, 0x00B1, .ET⟩, ⟨0x00B2, 0x00B3, .EN⟩, ⟨0x00B4, 0x00B4, .ON⟩, ⟨0x00B6, 0x00B8, .ON⟩,
  ⟨0x00B9, 0x00B9, .EN⟩, ⟨0x00BB, 0x00BF, .ON⟩, ⟨0x00D7, 0x00D7, .ON⟩, ⟨0x00F7, 0x00F7, .ON⟩,
  ⟨0x02B9, 0x02BA, .ON⟩, ⟨0x02C2, 0x02CF, .ON⟩, ⟨0x02D2, 0x02DF, .ON⟩, ⟨0x02E5, 0x02ED, .ON⟩,
  ⟨0x02EF, 0x02FF, .ON⟩, ⟨0x0300, 0x036F, .NSM⟩, ⟨0x0374, 0x0375, .ON⟩, ⟨0x037E, 0x037E, .ON⟩,
  ⟨0x0384, 0x0385, .ON⟩, ⟨0x0387, 0x0387, .ON⟩, ⟨0x03F6, 0x03F6, .ON⟩, ⟨0x0483, 0x0489, .NSM⟩,
  ⟨0x058A, 0x058A, .ON⟩, ⟨0x058D, 0x058E, .ON⟩, ⟨0x058F, 0x058F, .ET⟩, ⟨0x0590, 0x0590, .R⟩,
  ⟨0x0591, 0x05BD, .NSM⟩, ⟨0x05BE, 0x05BE, .R⟩, ⟨0x05BF, 0x05BF, .NSM⟩, ⟨0x05C0, 0x05C0, .R⟩,
  ⟨0x05C1, 0x05C2, .NSM⟩, ⟨0x05C3, 0x05C3, .R⟩, ⟨0x05C4, 0x05C5, .NSM⟩, ⟨0x05C6, 0x05C6, .R⟩,
  ⟨0x05C7, 0x05C7, .NSM⟩, ⟨0x05C8, 0x05FF, .R⟩, ⟨0x0600, 0x0605, .AN⟩, ⟨0x0606, 0x0607, .ON⟩,
  ⟨0x0608, 0x0608, .AL⟩, ⟨0x0609, 0x060A, .ET⟩, ⟨0x060B, 0x060B, .AL⟩, ⟨0x060C, 0x060C, .CS⟩,
  ⟨0x060D, 0x060D, .AL⟩, ⟨0x060E, 0x060F, .ON⟩, ⟨0x0610, 0x061A, .NSM⟩, ⟨0x061B, 0x064A, .AL⟩,
  ⟨0x064B, 0x065F, .NSM⟩, ⟨0x0660, 0x0669, .AN⟩, ⟨0x066A, 0x066A, .ET⟩, ⟨0x066B, 0x066C, .AN⟩,
  ⟨0x066D, 0x066F, .AL⟩, ⟨0x0670, 0x0670, .NSM⟩, ⟨0x0671, 0x06D5, .AL⟩, ⟨0x06D6, 0x06DC, .NSM⟩,
  ⟨0x06DD, 0x06DD, .AN⟩, ⟨0x06DE, 0x06DE, .ON⟩, ⟨0x06DF, 0x06E4, .NSM⟩, ⟨0x06E5, 0x06E6, .AL⟩,
  ⟨0x06E7, 0x06E8, .NSM⟩, ⟨0x06E9, 0x06E9, .ON⟩, ⟨0x06EA, 0x06ED, .NSM⟩, ⟨0x06EE, 0x06EF, .AL⟩,
  ⟨0x06F0, 0x06F9, .EN⟩, ⟨0x06FA, 0x0710, .AL⟩, ⟨0x0711, 0x0711, .NSM⟩, ⟨0x0712, 0x072F, .AL⟩,
  ⟨0x0730, 0x074A, .NSM⟩, ⟨0x074B, 0x07A5, .AL⟩, ⟨0x07A6, 0x07B0, .NSM⟩, ⟨0x07B1, 0x07BF, .AL⟩,
  ⟨0x07C0, 0x07EA, .R⟩, ⟨0x07EB, 0x07F3, .NSM⟩, ⟨0x07F4, 0x07F5, .R⟩, ⟨0x07F6, 0x07F9, .ON⟩,
  ⟨0x07FA, 0x07FC, .R⟩, ⟨0x07FD, 0x07FD, .NSM⟩, ⟨0x07FE, 0x0815, .R⟩, ⟨0x0816, 0x0819, .NSM⟩,
  ⟨0x081A, 0x081A, .R⟩, ⟨0x081B, 0x0823, .NSM⟩, ⟨0x0824, 0x0824, .R⟩, ⟨0x0825, 0x0827, .NSM⟩,
  ⟨0x0828, 0x0828, .R⟩, ⟨0x0829, 0x082D, .NSM⟩, ⟨0x082E, 0x0858, .R⟩, ⟨0x0859, 0x085B, .NSM⟩,
  ⟨0x085C, 0x085F, .R⟩, ⟨0x0860, 0x086A, .AL⟩, ⟨0x086B, 0x086F, .R⟩, ⟨0x0870, 0x088E, .AL⟩,
  ⟨0x088F, 0x088F, .R⟩, ⟨0x0890, 0x0891, .AN⟩, ⟨0x0892, 0x0896, .R⟩, ⟨0x0897, 0x089F, .NSM⟩,
  ⟨0x08A0, 0x08C9, .AL⟩, ⟨0x08CA, 0x08E1, .NSM⟩, ⟨0x08E2, 0x08E2, .AN⟩, ⟨0x08E3, 0x0902, .NSM⟩,
  ⟨0x093A, 0x093A, .NSM⟩, ⟨0x093C, 0x093C, .NSM⟩, ⟨0x0941, 0x0948, .NSM⟩,
  ⟨0x094D, 0x094D, .NSM⟩, ⟨0x0951, 0x0957, .NSM⟩, ⟨0x0962, 0x0963, .NSM⟩,
  ⟨0x0981, 0x0981, .NSM⟩, ⟨0x09BC, 0x09BC, .NSM⟩, ⟨0x09C1, 0x09C4, .NSM⟩,
  ⟨0x09CD, 0x09CD, .NSM⟩, ⟨0x09E2, 0x09E3, .NSM⟩, ⟨0x09F2, 0x09F3, .ET⟩, ⟨0x09FB, 0x09FB, .ET⟩,
  ⟨0x09FE, 0x09FE, .NSM⟩, ⟨0x0A01, 0x0A02, .NSM⟩, ⟨0x0A3C, 0x0A3C, .NSM⟩,
  ⟨0x0A41, 0x0A42, .NSM⟩, ⟨0x0A47, 0x0A48, .NSM⟩, ⟨0x0A4B, 0x0A4D, .NSM⟩,
  ⟨0x0A51, 0x0A51, .NSM⟩, ⟨0x0A70, 0x0A71, .NSM⟩, ⟨0x0A75, 0x0A75, .NSM⟩,
  ⟨0x0A81, 0x0A82, .NSM⟩, ⟨0x0ABC, 0x0ABC, .NSM⟩, ⟨0x0AC1, 0x0AC5, .NSM⟩,
  ⟨0x0AC7, 0x0AC8, .NSM⟩, ⟨0x0ACD, 0x0ACD, .NSM⟩, ⟨0x0AE2, 0x0AE3, .NSM⟩,
  ⟨0x0AF1, 0x0AF1, .ET⟩, ⟨0x0AFA, 0x0AFF, .NSM⟩, ⟨0x0B01, 0x0B01, .NSM⟩,
  ⟨0x0B3C, 0x0B3C, .NSM⟩, ⟨0x0B3F, 0x0B3F, .NSM⟩, ⟨0x0B41, 0x0B44, .NSM⟩,
  ⟨0x0B4D, 0x0B4D, .NSM⟩, ⟨0x0B55, 0x0B56, .NSM⟩, ⟨0x0B62, 0x0B63, .NSM⟩,
  ⟨0x0B82, 0x0B82, .NSM⟩, ⟨0x0BC0, 0x0BC0, .NSM⟩, ⟨0x0BCD, 0x0BCD, .NSM⟩,
  ⟨0x0BF3, 0x0BF8, .ON⟩, ⟨0x0BF9, 0x0BF9, .ET⟩, ⟨0x0BFA, 0x0BFA, .ON⟩, ⟨0x0C00, 0x0C00, .NSM⟩,
  ⟨0x0C04, 0x0C04, .NSM⟩, ⟨0x0C3C, 0x0C3C, .NSM⟩, ⟨0x0C3E, 0x0C40, .NSM⟩,
  ⟨0x0C46, 0x0C48, .NSM⟩, ⟨0x0C4A, 0x0C4D, .NSM⟩, ⟨0x0C55, 0x0C56, .NSM⟩,
  ⟨0x0C62, 0x0C63, .NSM⟩, ⟨0x0C78, 0x0C7E, .ON⟩, ⟨0x0C81, 0x0C81, .NSM⟩,
  ⟨0x0CBC, 0x0CBC, .NSM⟩, ⟨0x0CCC, 0x0CCD, .NSM⟩, ⟨0x0CE2, 0x0CE3, .NSM⟩,
  ⟨0x0D00, 0x0D01, .NSM⟩, ⟨0x0D3B, 0x0D3C, .NSM⟩, ⟨0x0D41, 0x0D44, .NSM⟩,
  ⟨0x0D4D, 0x0D4D, .NSM⟩, ⟨0x0D62, 0x0D63, .NSM⟩, ⟨0x0D81, 0x0D81, .NSM⟩,
  ⟨0x0DCA, 0x0DCA, .NSM⟩, ⟨0x0DD2, 0x0DD4, .NSM⟩, ⟨0x0DD6, 0x0DD6, .NSM⟩,
  ⟨0x0E31, 0x0E31, .NSM⟩, ⟨0x0E34, 0x0E3A, .NSM⟩, ⟨0x0E3F, 0x0E3F, .ET⟩,
  ⟨0x0E47, 0x0E4E, .NSM⟩, ⟨0x0EB1, 0x0EB1, .NSM⟩, ⟨0x0EB4, 0x0EBC, .NSM⟩,
  ⟨0x0EC8, 0x0ECE, .NSM⟩, ⟨0x0F18, 0x0F19, .NSM⟩, ⟨0x0F35, 0x0F35, .NSM⟩,
  ⟨0x0F37, 0x0F37, .NSM⟩, ⟨0x0F39, 0x0F39, .NSM⟩, ⟨0x0F3A, 0x0F3D, .ON⟩,
  ⟨0x0F71, 0x0F7E, .NSM⟩, ⟨0x0F80, 0x0F84, .NSM⟩, ⟨0x0F86, 0x0F87, .NSM⟩,
  ⟨0x0F8D, 0x0F97, .NSM⟩, ⟨0x0F99, 0x0FBC, .NSM⟩, ⟨0x0FC6, 0x0FC6, .NSM⟩,
  ⟨0x102D, 0x1030, .NSM⟩, ⟨0x1032, 0x1037, .NSM⟩, ⟨0x1039, 0x103A, .NSM⟩,
  ⟨0x103D, 0x103E, .NSM⟩, ⟨0x1058, 0x1059, .NSM⟩, ⟨0x105E, 0x1060, .NSM⟩,
  ⟨0x1071, 0x1074, .NSM⟩, ⟨0x1082, 0x1082, .NSM⟩, ⟨0x1085, 0x1086, .NSM⟩,
  ⟨0x108D, 0x108D, .NSM⟩, ⟨0x109D, 0x109D, .NSM⟩, ⟨0x135D, 0x135F, .NSM⟩,
  ⟨0x1390, 0x1399, .ON⟩, ⟨0x1400, 0x1400, .ON⟩, ⟨0x1680, 0x1680, .WS⟩, ⟨0x169B, 0x169C, .ON⟩,
  ⟨0x1712, 0x1714, .NSM⟩, ⟨0x1732, 0x1733, .NSM⟩, ⟨0x1752, 0x1753, .NSM⟩,
  ⟨0x1772, 0x1773, .NSM⟩, ⟨0x17B4, 0x17B5, .NSM⟩, ⟨0x17B7, 0x17BD, .NSM⟩,
  ⟨0x17C6, 0x17C6, .NSM⟩, ⟨0x17C9, 0x17D3, .NSM⟩, ⟨0x17DB, 0x17DB, .ET⟩,
  ⟨0x17DD, 0x17DD, .NSM⟩, ⟨0x17F0, 0x17F9, .ON⟩, ⟨0x1800, 0x180A, .ON⟩, ⟨0x180B, 0x180D, .NSM⟩,
  ⟨0x180E, 0x180E, .BN⟩, ⟨0x180F, 0x180F, .NSM⟩, ⟨0x1885, 0x1886, .NSM⟩,
  ⟨0x18A9, 0x18A9, .NSM⟩, ⟨0x1920, 0x1922, .NSM⟩, ⟨0x1927, 0x1928, .NSM⟩,
  ⟨0x1932, 0x1932, .NSM⟩, ⟨0x1939, 0x193B, .NSM⟩, ⟨0x1940, 0x1940, .ON⟩, ⟨0x1944, 0x1945, .ON⟩,
  ⟨0x19DE, 0x19FF, .ON⟩, ⟨0x1A17, 0x1A18, .NSM⟩, ⟨0x1A1B, 0x1A1B, .NSM⟩,
  ⟨0x1A56, 0x1A56, .NSM⟩, ⟨0x1A58, 0x1A5E, .NSM⟩, ⟨0x1A60, 0x1A60, .NSM⟩,
  ⟨0x1A62, 0x1A62, .NSM⟩, ⟨0x1A65, 0x1A6C, .NSM⟩, ⟨0x1A73, 0x1A7C, .NSM⟩,
  ⟨0x1A7F, 0x1A7F, .NSM⟩, ⟨0x1AB0, 0x1ACE, .NSM⟩, ⟨0x1B00, 0x1B03, .NSM⟩,
  ⟨0x1B34, 0x1B34, .NSM⟩, ⟨0x1B36, 0x1B3A, .NSM⟩, ⟨0x1B3C, 0x1B3C, .NSM⟩,
  ⟨0x1B42, 0x1B42, .NSM⟩, ⟨0x1B6B, 0x1B73, .NSM⟩, ⟨0x1B80, 0x1B81, .NSM⟩,
  ⟨0x1BA2, 0x1BA5, .NSM⟩, ⟨0x1BA8, 0x1BA9, .NSM⟩, ⟨0x1BAB, 0x1BAD, .NSM⟩,
  ⟨0x1BE6, 0x1BE6, .NSM⟩, ⟨0x1BE8, 0x1BE9, .NSM⟩, ⟨0x1BED, 0x1BED, .NSM⟩,
  ⟨0x1BEF, 0x1BF1, .NSM⟩, ⟨0x1C2C, 0x1C33, .NSM⟩, ⟨0x1C36, 0x1C37, .NSM⟩,
  ⟨0x1CD0, 0x1CD2, .NSM⟩, ⟨0x1CD4, 0x1CE0, .NSM⟩, ⟨0x1CE2, 0x1CE8, .NSM⟩,
  ⟨0x1CED, 0x1CED, .NSM⟩, ⟨0x1CF4, 0x1CF4, .NSM⟩, ⟨0x1CF8, 0x1CF9, .NSM⟩,
  ⟨0x1DC0, 0x1DFF, .NSM⟩, ⟨0x1FBD, 0x1FBD, .ON⟩, ⟨0x1FBF, 0x1FC1, .ON⟩, ⟨0x1FCD, 0x1FCF, .ON⟩,
  ⟨0x1FDD, 0x1FDF, .ON⟩, ⟨0x1FED, 0x1FEF, .ON⟩, ⟨0x1FFD, 0x1FFE, .ON⟩, ⟨0x2000, 0x200A, .WS⟩,
  ⟨0x200B, 0x200D, .BN⟩, ⟨0x200F, 0x200F, .R⟩, ⟨0x2010, 0x2027, .ON⟩, ⟨0x2028, 0x2028, .WS⟩,
  ⟨0x202A, 0x202A, .LRE⟩, ⟨0x202B, 0x202B, .RLE⟩, ⟨0x202C, 0x202C, .PDF⟩,
  ⟨0x202D, 0x202D, .LRO⟩, ⟨0x202E, 0x202E, .RLO⟩, ⟨0x202F, 0x202F, .CS⟩, ⟨0x2030, 0x2034, .ET⟩,
  ⟨0x2035, 0x2043, .ON⟩, ⟨0x2044, 0x2044, .CS⟩, ⟨0x2045, 0x205E, .ON⟩, ⟨0x205F, 0x205F, .WS⟩,
  ⟨0x2060, 0x2064, .BN⟩, ⟨0x2066, 0x2066, .LRI⟩, ⟨0x2067, 0x2067, .RLI⟩,
  ⟨0x2068, 0x2068, .FSI⟩, ⟨0x2069, 0x2069, .PDI⟩, ⟨0x206A, 0x206F, .BN⟩, ⟨0x2070, 0x2070, .EN⟩,
  ⟨0x2074, 0x2079, .EN⟩, ⟨0x207A, 0x207B, .ES⟩, ⟨0x207C, 0x207E, .ON⟩, ⟨0x2080, 0x2089, .EN⟩,
  ⟨0x208A, 0x208B, .ES⟩, ⟨0x208C, 0x208E, .ON⟩, ⟨0x20A0, 0x20CF, .ET⟩, ⟨0x20D0, 0x20F0, .NSM⟩,
  ⟨0x2100, 0x2101, .ON⟩, ⟨0x2103, 0x2106, .ON⟩, ⟨0x2108, 0x2109, .ON⟩, ⟨0x2114, 0x2114, .ON⟩,
  ⟨0x2116, 0x2118, .ON⟩, ⟨0x211E, 0x2123, .ON⟩, ⟨0x2125, 0x2125, .ON⟩, ⟨0x2127, 0x2127, .ON⟩,
  ⟨0x2129, 0x2129, .ON⟩, ⟨0x212E, 0x212E, .ET⟩, ⟨0x213A, 0x213B, .ON⟩, ⟨0x2140, 0x2144, .ON⟩,
  ⟨0x214A, 0x214D, .ON⟩, ⟨0x2150, 0x215F, .ON⟩, ⟨0x2189, 0x218B, .ON⟩, ⟨0x2190, 0x2211, .ON⟩,
  ⟨0x2212, 0x2212, .ES⟩, ⟨0x2213, 0x2213, .ET⟩, ⟨0x2214, 0x2335, .ON⟩, ⟨0x237B, 0x2394, .ON⟩,
  ⟨0x2396, 0x2429, .ON⟩, ⟨0x2440, 0x244A, .ON⟩, ⟨0x2460, 0x2487, .ON⟩, ⟨0x2488, 0x249B, .EN⟩,
  ⟨0x24EA, 0x26AB, .ON⟩, ⟨0x26AD, 0x27FF, .ON⟩, ⟨0x2900, 0x2B73, .ON⟩, ⟨0x2B76, 0x2B95, .ON⟩,
  ⟨0x2B97, 0x2BFF, .ON⟩, ⟨0x2CE5, 0x2CEA, .ON⟩, ⟨0x2CEF, 0x2CF1, .NSM⟩, ⟨0x2CF9, 0x2CFF, .ON⟩,
  ⟨0x2D7F, 0x2D7F, .NSM⟩, ⟨0x2DE0, 0x2DFF, .NSM⟩, ⟨0x2E00, 0x2E5D, .ON⟩, ⟨0x2E80, 0x2E99, .ON⟩,
  ⟨0x2E9B, 0x2EF3, .ON⟩, ⟨0x2F00, 0x2FD5, .ON⟩, ⟨0x2FF0, 0x2FFF, .ON⟩, ⟨0x3000, 0x3000, .WS⟩,
  ⟨0x3001, 0x3004, .ON⟩, ⟨0x3008, 0x3020, .ON⟩, ⟨0x302A, 0x302D, .NSM⟩, ⟨0x3030, 0x3030, .ON⟩,
  ⟨0x3036, 0x3037, .ON⟩, ⟨0x303D, 0x303F, .ON⟩, ⟨0x3099, 0x309A, .NSM⟩, ⟨0x309B, 0x309C, .ON⟩,
  ⟨0x30A0, 0x30A0, .ON⟩, ⟨0x30FB, 0x30FB, .ON⟩, ⟨0x31C0, 0x31E5, .ON⟩, ⟨0x31EF, 0x31EF, .ON⟩,
  ⟨0x321D, 0x321E, .ON⟩, ⟨0x3250, 0x325F, .ON⟩, ⟨0x327C, 0x327E, .ON⟩, ⟨0x32B1, 0x32BF, .ON⟩,
  ⟨0x32CC, 0x32CF, .ON⟩, ⟨0x3377, 0x337A, .ON⟩, ⟨0x33DE, 0x33DF, .ON⟩, ⟨0x33FF, 0x33FF, .ON⟩,
  ⟨0x4DC0, 0x4DFF, .ON⟩, ⟨0xA490, 0xA4C6, .ON⟩, ⟨0xA60D, 0xA60F, .ON⟩, ⟨0xA66F, 0xA672, .NSM⟩,
  ⟨0xA673, 0xA673, .ON⟩, ⟨0xA674, 0xA67D, .NSM⟩, ⟨0xA67E, 0xA67F, .ON⟩, ⟨0xA69E, 0xA69F, .NSM⟩,
  ⟨0xA6F0, 0xA6F1, .NSM⟩, ⟨0xA700, 0xA721, .ON⟩, ⟨0xA788, 0xA788, .ON⟩, ⟨0xA802, 0xA802, .NSM⟩,
  ⟨0xA806, 0xA806, .NSM⟩, ⟨0xA80B, 0xA80B, .NSM⟩, ⟨0xA825, 0xA826, .NSM⟩,
  ⟨0xA828, 0xA82B, .ON⟩, ⟨0xA82C, 0xA82C, .NSM⟩, ⟨0xA838, 0xA839, .ET⟩, ⟨0xA874, 0xA877, .ON⟩,
  ⟨0xA8C4, 0xA8C5, .NSM⟩, ⟨0xA8E0, 0xA8F1, .NSM⟩, ⟨0xA8FF, 0xA8FF, .NSM⟩,
  ⟨0xA926, 0xA92D, .NSM⟩, ⟨0xA947, 0xA951, .NSM⟩, ⟨0xA980, 0xA982, .NSM⟩,
  ⟨0xA9B3, 0xA9B3, .NSM⟩, ⟨0xA9B6, 0xA9B9, .NSM⟩, ⟨0xA9BC, 0xA9BD, .NSM⟩,
  ⟨0xA9E5, 0xA9E5, .NSM⟩, ⟨0xAA29, 0xAA2E, .NSM⟩, ⟨0xAA31, 0xAA32, .NSM⟩,
  ⟨0xAA35, 0xAA36, .NSM⟩, ⟨0xAA43, 0xAA43, .NSM⟩, ⟨0xAA4C, 0xAA4C, .NSM⟩,
  ⟨0xAA7C, 0xAA7C, .NSM⟩, ⟨0xAAB0, 0xAAB0, .NSM⟩, ⟨0xAAB2, 0xAAB4, .NSM⟩,
  ⟨0xAAB7, 0xAAB8, .NSM⟩, ⟨0xAABE, 0xAABF, .NSM⟩, ⟨0xAAC1, 0xAAC1, .NSM⟩,
  ⟨0xAAEC, 0xAAED, .NSM⟩, ⟨0xAAF6, 0xAAF6, .NSM⟩, ⟨0xAB6A, 0xAB6B, .ON⟩,
  ⟨0xABE5, 0xABE5, .NSM⟩, ⟨0xABE8, 0xABE8, .NSM⟩, ⟨0xABED, 0xABED, .NSM⟩, ⟨0xFB1D, 0xFB1D, .R⟩,
  ⟨0xFB1E, 0xFB1E, .NSM⟩, ⟨0xFB1F, 0xFB28, .R⟩, ⟨0xFB29, 0xFB29, .ES⟩, ⟨0xFB2A, 0xFB4F, .R⟩,
  ⟨0xFB50, 0xFD3D, .AL⟩, ⟨0xFD3E, 0xFD4F, .ON⟩, ⟨0xFD50, 0xFDCE, .AL⟩, ⟨0xFDCF, 0xFDCF, .ON⟩,
  ⟨0xFDF0, 0xFDFC, .AL⟩, ⟨0xFDFD, 0xFDFF, .ON⟩, ⟨0xFE00, 0xFE0F, .NSM⟩, ⟨0xFE10, 0xFE19, .ON⟩,
  ⟨0xFE20, 0xFE2F, .NSM⟩, ⟨0xFE30, 0xFE4F, .ON⟩, ⟨0xFE50, 0xFE50, .CS⟩, ⟨0xFE51, 0xFE51, .ON⟩,
  ⟨0xFE52, 0xFE52, .CS⟩, ⟨0xFE54, 0xFE54, .ON⟩, ⟨0xFE55, 0xFE55, .CS⟩, ⟨0xFE56, 0xFE5E, .ON⟩,
  ⟨0xFE5F, 0xFE5F, .ET⟩, ⟨0xFE60, 0xFE61, .ON⟩, ⟨0xFE62, 0xFE63, .ES⟩, ⟨0xFE64, 0xFE66, .ON⟩,
  ⟨0xFE68, 0xFE68, .ON⟩, ⟨0xFE69, 0xFE6A, .ET⟩, ⟨0xFE6B, 0xFE6B, .ON⟩, ⟨0xFE70, 0xFEFE, .AL⟩,
  ⟨0xFEFF, 0xFEFF, .BN⟩, ⟨0xFF01, 0xFF02, .ON⟩, ⟨0xFF03, 0xFF05, .ET⟩, ⟨0xFF06, 0xFF0A, .ON⟩,
  ⟨0xFF0B, 0xFF0B, .ES⟩, ⟨0xFF0C, 0xFF0C, .CS⟩, ⟨0xFF0D, 0xFF0D, .ES⟩, ⟨0xFF0E, 0xFF0F, .CS⟩,
  ⟨0xFF10, 0xFF19, .EN⟩, ⟨0xFF1A, 0xFF1A, .CS⟩, ⟨0xFF1B, 0xFF20, .ON⟩, ⟨0xFF3B, 0xFF40, .ON⟩,
  ⟨0xFF5B, 0xFF65, .ON⟩, ⟨0xFFE0, 0xFFE1, .ET⟩, ⟨0xFFE2, 0xFFE4, .ON⟩, ⟨0xFFE5, 0xFFE6, .ET⟩,
  ⟨0xFFE8, 0xFFEE, .ON⟩, ⟨0xFFF9, 0xFFFD, .ON⟩, ⟨0x10101, 0x10101, .ON⟩,
  ⟨0x10140, 0x1018C, .ON⟩, ⟨0x10190, 0x1019C, .ON⟩, ⟨0x101A0, 0x101A0, .ON⟩,
  ⟨0x101FD, 0x101FD, .NSM⟩, ⟨0x102E0, 0x102E0, .NSM⟩, ⟨0x102E1, 0x102FB, .EN⟩,
  ⟨0x10376, 0x1037A, .NSM⟩, ⟨0x10800, 0x1091E, .R⟩, ⟨0x1091F, 0x1091F, .ON⟩,
  ⟨0x10920, 0x10A00, .R⟩, ⟨0x10A01, 0x10A03, .NSM⟩, ⟨0x10A04, 0x10A04, .R⟩,
  ⟨0x10A05, 0x10A06, .NSM⟩, ⟨0x10A07, 0x10A0B, .R⟩, ⟨0x10A0C, 0x10A0F, .NSM⟩,
  ⟨0x10A10, 0x10A37, .R⟩, ⟨0x10A38, 0x10A3A, .NSM⟩, ⟨0x10A3B, 0x10A3E, .R⟩,
  ⟨0x10A3F, 0x10A3F, .NSM⟩, ⟨0x10A40, 0x10AE4, .R⟩, ⟨0x10AE5, 0x10AE6, .NSM⟩,
  ⟨0x10AE7, 0x10B38, .R⟩, ⟨0x10B39, 0x10B3F, .ON⟩, ⟨0x10B40, 0x10CFF, .R⟩,
  ⟨0x10D00, 0x10D23, .AL⟩, ⟨0x10D24, 0x10D27, .NSM⟩, ⟨0x10D28, 0x10D2F, .R⟩,
  ⟨0x10D30, 0x10D39, .AN⟩, ⟨0x10D3A, 0x10D3F, .R⟩, ⟨0x10D40, 0x10D49, .AN⟩,
  ⟨0x10D4A, 0x10D68, .R⟩, ⟨0x10D69, 0x10D6D, .NSM⟩, ⟨0x10D6E, 0x10D6E, .ON⟩,
  ⟨0x10D6F, 0x10E5F, .R⟩, ⟨0x10E60, 0x10E7E, .AN⟩, ⟨0x10E7F, 0x10EAA, .R⟩,
  ⟨0x10EAB, 0x10EAC, .NSM⟩, ⟨0x10EAD, 0x10EC1, .R⟩, ⟨0x10EC2, 0x10EC4, .AL⟩,
  ⟨0x10EC5, 0x10EFB, .R⟩, ⟨0x10EFC, 0x10EFF, .NSM⟩, ⟨0x10F00, 0x10F2F, .R⟩,
  ⟨0x10F30, 0x10F45, .AL⟩, ⟨0x10F46, 0x10F50, .NSM⟩, ⟨0x10F51, 0x10F59, .AL⟩,
  ⟨0x10F5A, 0x10F81, .R⟩, ⟨0x10F82, 0x10F85, .NSM⟩, ⟨0x10F86, 0x10FFF, .R⟩,
  ⟨0x11001, 0x11001, .NSM⟩, ⟨0x11038, 0x11046, .NSM⟩, ⟨0x11052, 0x11065, .ON⟩,
  ⟨0x11070, 0x11070, .NSM⟩, ⟨0x11073, 0x11074, .NSM⟩, ⟨0x1107F, 0x11081, .NSM⟩,
  ⟨0x110B3, 0x110B6, .NSM⟩, ⟨0x110B9, 0x110BA, .NSM⟩, ⟨0x110C2, 0x110C2, .NSM⟩,
  ⟨0x11100, 0x11102, .NSM⟩, ⟨0x11127, 0x1112B, .NSM⟩, ⟨0x1112D, 0x11134, .NSM⟩,
  ⟨0x11173, 0x11173, .NSM⟩, ⟨0x11180, 0x11181, .NSM⟩, ⟨0x111B6, 0x111BE, .NSM⟩,
  ⟨0x111C9, 0x111CC, .NSM⟩, ⟨0x111CF, 0x111CF, .NSM⟩, ⟨0x1122F, 0x11231, .NSM⟩,
  ⟨0x11234, 0x11234, .NSM⟩, ⟨0x11236, 0x11237, .NSM⟩, ⟨0x1123E, 0x1123E, .NSM⟩,
  ⟨0x11241, 0x11241, .NSM⟩, ⟨0x112DF, 0x112DF, .NSM⟩, ⟨0x112E3, 0x112EA, .NSM⟩,
  ⟨0x11300, 0x11301, .NSM⟩, ⟨0x1133B, 0x1133C, .NSM⟩, ⟨0x11340, 0x11340, .NSM⟩,
  ⟨0x11366, 0x1136C, .NSM⟩, ⟨0x11370, 0x11374, .NSM⟩, ⟨0x113BB, 0x113C0, .NSM⟩,
  ⟨0x113CE, 0x113CE, .NSM⟩, ⟨0x113D0, 0x113D0, .NSM⟩, ⟨0x113D2, 0x113D2, .NSM⟩,
  ⟨0x113E1, 0x113E2, .NSM⟩, ⟨0x11438, 0x1143F, .NSM⟩, ⟨0x11442, 0x11444, .NSM⟩,
  ⟨0x11446, 0x11446, .NSM⟩, ⟨0x1145E, 0x1145E, .NSM⟩, ⟨0x114B3, 0x114B8, .NSM⟩,
  ⟨0x114BA, 0x114BA, .NSM⟩, ⟨0x114BF, 0x114C0, .NSM⟩, ⟨0x114C2, 0x114C3, .NSM⟩,
  ⟨0x115B2, 0x115B5, .NSM⟩, ⟨0x115BC, 0x115BD, .NSM⟩, ⟨0x115BF, 0x115C0, .NSM⟩,
  ⟨0x115DC, 0x115DD, .NSM⟩, ⟨0x11633, 0x1163A, .NSM⟩, ⟨0x1163D, 0x1163D, .NSM⟩,
  ⟨0x1163F, 0x11640, .NSM⟩, ⟨0x11660, 0x1166C, .ON⟩, ⟨0x116AB, 0x116AB, .NSM⟩,
  ⟨0x116AD, 0x116AD, .NSM⟩, ⟨0x116B0, 0x116B5, .NSM⟩, ⟨0x116B7, 0x116B7, .NSM⟩,
  ⟨0x1171D, 0x1171D, .NSM⟩, ⟨0x1171F, 0x1171F, .NSM⟩, ⟨0x11722, 0x11725, .NSM⟩,
  ⟨0x11727, 0x1172B, .NSM⟩, ⟨0x1182F, 0x11837, .NSM⟩, ⟨0x11839, 0x1183A, .NSM⟩,
  ⟨0x1193B, 0x1193C, .NSM⟩, ⟨0x1193E, 0x1193E, .NSM⟩, ⟨0x11943, 0x11943, .NSM⟩,
  ⟨0x119D4, 0x119D7, .NSM⟩, ⟨0x119DA, 0x119DB, .NSM⟩, ⟨0x119E0, 0x119E0, .NSM⟩,
  ⟨0x11A01, 0x11A06, .NSM⟩, ⟨0x11A09, 0x11A0A, .NSM⟩, ⟨0x11A33, 0x11A38, .NSM⟩,
  ⟨0x11A3B, 0x11A3E, .NSM⟩, ⟨0x11A47, 0x11A47, .NSM⟩, ⟨0x11A51, 0x11A56, .NSM⟩,
  ⟨0x11A59, 0x11A5B, .NSM⟩, ⟨0x11A8A, 0x11A96, .NSM⟩, ⟨0x11A98, 0x11A99, .NSM⟩,
  ⟨0x11C30, 0x11C36, .NSM⟩, ⟨0x11C38, 0x11C3D, .NSM⟩, ⟨0x11C92, 0x11CA7, .NSM⟩,
  ⟨0x11CAA, 0x11CB0, .NSM⟩, ⟨0x11CB2, 0x11CB3, .NSM⟩, ⟨0x11CB5, 0x11CB6, .NSM⟩,
  ⟨0x11D31, 0x11D36, .NSM⟩, ⟨0x11D3A, 0x11D3A, .NSM⟩, ⟨0x11D3C, 0x11D3D, .NSM⟩,
  ⟨0x11D3F, 0x11D45, .NSM⟩, ⟨0x11D47, 0x11D47, .NSM⟩, ⟨0x11D90, 0x11D91, .NSM⟩,
  ⟨0x11D95, 0x11D95, .NSM⟩, ⟨0x11D97, 0x11D97, .NSM⟩, ⟨0x11EF3, 0x11EF4, .NSM⟩,
  ⟨0x11F00, 0x11F01, .NSM⟩, ⟨0x11F36, 0x11F3A, .NSM⟩, ⟨0x11F40, 0x11F40, .NSM⟩,
  ⟨0x11F42, 0x11F42, .NSM⟩, ⟨0x11F5A, 0x11F5A, .NSM⟩, ⟨0x11FD5, 0x11FDC, .ON⟩,
  ⟨0x11FDD, 0x11FE0, .ET⟩, ⟨0x11FE1, 0x11FF1, .ON⟩, ⟨0x13440, 0x13440, .NSM⟩,
  ⟨0x13447, 0x13455, .NSM⟩, ⟨0x1611E, 0x16129, .NSM⟩, ⟨0x1612D, 0x1612F, .NSM⟩,
  ⟨0x16AF0, 0x16AF4, .NSM⟩, ⟨0x16B30, 0x16B36, .NSM⟩, ⟨0x16F4F, 0x16F4F, .NSM⟩,
  ⟨0x16F8F, 0x16F92, .NSM⟩, ⟨0x16FE2, 0x16FE2, .ON⟩, ⟨0x16FE4, 0x16FE4, .NSM⟩,
  ⟨0x1BC9D, 0x1BC9E, .NSM⟩, ⟨0x1BCA0, 0x1BCA3, .BN⟩, ⟨0x1CC00, 0x1CCD5, .ON⟩,
  ⟨0x1CCF0, 0x1CCF9, .EN⟩, ⟨0x1CD00, 0x1CEB3, .ON⟩, ⟨0x1CF00, 0x1CF2D, .NSM⟩,
  ⟨0x1CF30, 0x1CF46, .NSM⟩, ⟨0x1D167, 0x1D169, .NSM⟩, ⟨0x1D173, 0x1D17A, .BN⟩,
  ⟨0x1D17B, 0x1D182, .NSM⟩, ⟨0x1D185, 0x1D18B, .NSM⟩, ⟨0x1D1AA, 0x1D1AD, .NSM⟩,
  ⟨0x1D1E9, 0x1D1EA, .ON⟩, ⟨0x1D200, 0x1D241, .ON⟩, ⟨0x1D242, 0x1D244, .NSM⟩,
  ⟨0x1D245, 0x1D245, .ON⟩, ⟨0x1D300, 0x1D356, .ON⟩, ⟨0x1D6C1, 0x1D6C1, .ON⟩,
  ⟨0x1D6DB, 0x1D6DB, .ON⟩, ⟨0x1D6FB, 0x1D6FB, .ON⟩, ⟨0x1D715, 0x1D715, .ON⟩,
  ⟨0x1D735, 0x1D735, .ON⟩, ⟨0x1D74F, 0x1D74F, .ON⟩, ⟨0x1D76F, 0x1D76F, .ON⟩,
  ⟨0x1D789, 0x1D789, .ON⟩, ⟨0x1D7A9, 0x1D7A9, .ON⟩, ⟨0x1D7C3, 0x1D7C3, .ON⟩,
  ⟨0x1D7CE, 0x1D7FF, .EN⟩, ⟨0x1DA00, 0x1DA36, .NSM⟩, ⟨0x1DA3B, 0x1DA6C, .NSM⟩,
  ⟨0x1DA75, 0x1DA75, .NSM⟩, ⟨0x1DA84, 0x1DA84, .NSM⟩, ⟨0x1DA9B, 0x1DA9F, .NSM⟩,
  ⟨0x1DAA1, 0x1DAAF, .NSM⟩, ⟨0x1E000, 0x1E006, .NSM⟩, ⟨0x1E008, 0x1E018, .NSM⟩,
  ⟨0x1E01B, 0x1E021, .NSM⟩, ⟨0x1E023, 0x1E024, .NSM⟩, ⟨0x1E026, 0x1E02A, .NSM⟩,
  ⟨0x1E08F, 0x1E08F, .NSM⟩, ⟨0x1E130, 0x1E136, .NSM⟩, ⟨0x1E2AE, 0x1E2AE, .NSM⟩,
  ⟨0x1E2EC, 0x1E2EF, .NSM⟩, ⟨0x1E2FF, 0x1E2FF, .ET⟩, ⟨0x1E4EC, 0x1E4EF, .NSM⟩,
  ⟨0x1E5EE, 0x1E5EF, .NSM⟩, ⟨0x1E800, 0x1E8CF, .R⟩, ⟨0x1E8D0, 0x1E8D6, .NSM⟩,
  ⟨0x1E8D7, 0x1E943, .R⟩, ⟨0x1E944, 0x1E94A, .NSM⟩, ⟨0x1E94B, 0x1EC70, .R⟩,
  ⟨0x1EC71, 0x1ECB4, .AL⟩, ⟨0x1ECB5, 0x1ED00, .R⟩, ⟨0x1ED01, 0x1ED3D, .AL⟩,
  ⟨0x1ED3E, 0x1EDFF, .R⟩, ⟨0x1EE00, 0x1EEEF, .AL⟩, ⟨0x1EEF0, 0x1EEF1, .ON⟩,
  ⟨0x1EEF2, 0x1EEFF, .AL⟩, ⟨0x1EF00, 0x1EFFF, .R⟩, ⟨0x1F000, 0x1F02B, .ON⟩,
  ⟨0x1F030, 0x1F093, .ON⟩, ⟨0x1F0A0, 0x1F0AE, .ON⟩, ⟨0x1F0B1, 0x1F0BF, .ON⟩,
  ⟨0x1F0C1, 0x1F0CF, .ON⟩, ⟨0x1F0D1, 0x1F0F5, .ON⟩, ⟨0x1F100, 0x1F10A, .EN⟩,
  ⟨0x1F10B, 0x1F10F, .ON⟩, ⟨0x1F12F, 0x1F12F, .ON⟩, ⟨0x1F16A, 0x1F16F, .ON⟩,
  ⟨0x1F1AD, 0x1F1AD, .ON⟩, ⟨0x1F260, 0x1F265, .ON⟩, ⟨0x1F300, 0x1F6D7, .ON⟩,
  ⟨0x1F6DC, 0x1F6EC, .ON⟩, ⟨0x1F6F0, 0x1F6FC, .ON⟩, ⟨0x1F700, 0x1F776, .ON⟩,
  ⟨0x1F77B, 0x1F7D9, .ON⟩, ⟨0x1F7E0, 0x1F7EB, .ON⟩, ⟨0x1F7F0, 0x1F7F0, .ON⟩,
  ⟨0x1F800, 0x1F80B, .ON⟩, ⟨0x1F810, 0x1F847, .ON⟩, ⟨0x1F850, 0x1F859, .ON⟩,
  ⟨0x1F860, 0x1F887, .ON⟩, ⟨0x1F890, 0x1F8AD, .ON⟩, ⟨0x1F8B0, 0x1F8BB, .ON⟩,
  ⟨0x1F8C0, 0x1F8C1, .ON⟩, ⟨0x1F900, 0x1FA53, .ON⟩, ⟨0x1FA60, 0x1FA6D, .ON⟩,
  ⟨0x1FA70, 0x1FA7C, .ON⟩, ⟨0x1FA80, 0x1FA89, .ON⟩, ⟨0x1FA8F, 0x1FAC6, .ON⟩,
  ⟨0x1FACE, 0x1FADC, .ON⟩, ⟨0x1FADF, 0x1FAE9, .ON⟩, ⟨0x1FAF0, 0x1FAF8, .ON⟩,
  ⟨0x1FB00, 0x1FB92, .ON⟩, ⟨0x1FB94, 0x1FBEF, .ON⟩, ⟨0x1FBF0, 0x1FBF9, .EN⟩,
  ⟨0xE0001, 0xE0001, .BN⟩, ⟨0xE0020, 0xE007F, .BN⟩, ⟨0xE0100, 0xE01EF, .NSM⟩
]⟩

/-- The bidirectional class of a character. -/
def of (c : Char) : BidiClass :=
  if isParagraphSeparator c then .B else (table.value? c).getD .L

theorem all_value_ne_B : table.ranges.toList.all (fun range => range.value != .B) = true := by
  decide +kernel

theorem value_ne_B {range : CodeRange BidiClass} (h : range ∈ table.ranges) :
    range.value ≠ .B := by
  have := List.all_eq_true.1 all_value_ne_B range (Array.mem_toList_iff.2 h)
  simpa using this

/-- Class `B` is exactly the paragraph separators. -/
theorem of_eq_B_iff (c : Char) : of c = .B ↔ isParagraphSeparator c = true := by
  unfold of
  split
  · simp_all
  · next h =>
    refine ⟨fun hB => ?_, fun hs => absurd hs h⟩
    cases hv : table.value? c with
    | none => simp [hv] at hB
    | some v =>
      obtain ⟨range, hmem, -, -, hval⟩ := RangeTable.value?_mem hv
      rw [hv, Option.getD_some] at hB
      exact absurd (hval.trans hB) (value_ne_B hmem)

end BidiClass

end BidiViewport
