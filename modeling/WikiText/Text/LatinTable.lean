import WikiText.Text.CodePoints

/-! # The ASCII letters inside composed and compatibility characters -/

namespace WikiText.Text

/-- The characters whose compatibility decomposition holds one ASCII character. -/
def latinRuns : CodePointRuns := [
  (0xA0, 0xA0, 1, 0x20), (0xA8, 0xA8, 1, 0x20), (0xAA, 0xAA, 1, 0x61), (0xAF, 0xAF, 1, 0x20),
  (0xB2, 0xB3, 1, 0x32), (0xB4, 0xB4, 1, 0x20), (0xB8, 0xB8, 1, 0x20), (0xB9, 0xB9, 1, 0x31),
  (0xBA, 0xBA, 1, 0x6F), (0xC0, 0xC0, 1, 0x41), (0xC1, 0xC1, 1, 0x41), (0xC2, 0xC2, 1, 0x41),
  (0xC3, 0xC3, 1, 0x41), (0xC4, 0xC4, 1, 0x41), (0xC5, 0xC7, 2, 0x41), (0xC8, 0xC8, 1, 0x45),
  (0xC9, 0xC9, 1, 0x45), (0xCA, 0xCA, 1, 0x45), (0xCB, 0xCB, 1, 0x45), (0xCC, 0xCC, 1, 0x49),
  (0xCD, 0xCD, 1, 0x49), (0xCE, 0xCE, 1, 0x49), (0xCF, 0xCF, 1, 0x49), (0xD1, 0xD2, 1, 0x4E),
  (0xD3, 0xD3, 1, 0x4F), (0xD4, 0xD4, 1, 0x4F), (0xD5, 0xD5, 1, 0x4F), (0xD6, 0xD6, 1, 0x4F),
  (0xD9, 0xD9, 1, 0x55), (0xDA, 0xDA, 1, 0x55), (0xDB, 0xDB, 1, 0x55), (0xDC, 0xDC, 1, 0x55),
  (0xDD, 0xDD, 1, 0x59), (0xE0, 0xE0, 1, 0x61), (0xE1, 0xE1, 1, 0x61), (0xE2, 0xE2, 1, 0x61),
  (0xE3, 0xE3, 1, 0x61), (0xE4, 0xE4, 1, 0x61), (0xE5, 0xE7, 2, 0x61), (0xE8, 0xE8, 1, 0x65),
  (0xE9, 0xE9, 1, 0x65), (0xEA, 0xEA, 1, 0x65), (0xEB, 0xEB, 1, 0x65), (0xEC, 0xEC, 1, 0x69),
  (0xED, 0xED, 1, 0x69), (0xEE, 0xEE, 1, 0x69), (0xEF, 0xEF, 1, 0x69), (0xF1, 0xF2, 1, 0x6E),
  (0xF3, 0xF3, 1, 0x6F), (0xF4, 0xF4, 1, 0x6F), (0xF5, 0xF5, 1, 0x6F), (0xF6, 0xF6, 1, 0x6F),
  (0xF9, 0xF9, 1, 0x75), (0xFA, 0xFA, 1, 0x75), (0xFB, 0xFB, 1, 0x75), (0xFC, 0xFC, 1, 0x75),
  (0xFD, 0xFD, 1, 0x79), (0xFF, 0xFF, 1, 0x79), (0x100, 0x100, 1, 0x41), (0x101, 0x101, 1, 0x61),
  (0x102, 0x102, 1, 0x41), (0x103, 0x103, 1, 0x61), (0x104, 0x104, 1, 0x41),
  (0x105, 0x105, 1, 0x61), (0x106, 0x106, 1, 0x43), (0x107, 0x107, 1, 0x63),
  (0x108, 0x108, 1, 0x43), (0x109, 0x109, 1, 0x63), (0x10A, 0x10A, 1, 0x43),
  (0x10B, 0x10B, 1, 0x63), (0x10C, 0x10C, 1, 0x43), (0x10D, 0x10D, 1, 0x63),
  (0x10E, 0x10E, 1, 0x44), (0x10F, 0x10F, 1, 0x64), (0x112, 0x112, 1, 0x45),
  (0x113, 0x113, 1, 0x65), (0x114, 0x114, 1, 0x45), (0x115, 0x115, 1, 0x65),
  (0x116, 0x116, 1, 0x45), (0x117, 0x117, 1, 0x65), (0x118, 0x118, 1, 0x45),
  (0x119, 0x119, 1, 0x65), (0x11A, 0x11A, 1, 0x45), (0x11B, 0x11B, 1, 0x65),
  (0x11C, 0x11C, 1, 0x47), (0x11D, 0x11D, 1, 0x67), (0x11E, 0x11E, 1, 0x47),
  (0x11F, 0x11F, 1, 0x67), (0x120, 0x120, 1, 0x47), (0x121, 0x121, 1, 0x67),
  (0x122, 0x122, 1, 0x47), (0x123, 0x123, 1, 0x67), (0x124, 0x124, 1, 0x48),
  (0x125, 0x125, 1, 0x68), (0x128, 0x128, 1, 0x49), (0x129, 0x129, 1, 0x69),
  (0x12A, 0x12A, 1, 0x49), (0x12B, 0x12B, 1, 0x69), (0x12C, 0x12C, 1, 0x49),
  (0x12D, 0x12D, 1, 0x69), (0x12E, 0x12E, 1, 0x49), (0x12F, 0x12F, 1, 0x69),
  (0x130, 0x130, 1, 0x49), (0x134, 0x134, 1, 0x4A), (0x135, 0x135, 1, 0x6A),
  (0x136, 0x136, 1, 0x4B), (0x137, 0x137, 1, 0x6B), (0x139, 0x139, 1, 0x4C),
  (0x13A, 0x13A, 1, 0x6C), (0x13B, 0x13B, 1, 0x4C), (0x13C, 0x13C, 1, 0x6C),
  (0x13D, 0x13D, 1, 0x4C), (0x13E, 0x13E, 1, 0x6C), (0x13F, 0x13F, 1, 0x4C),
  (0x140, 0x140, 1, 0x6C), (0x143, 0x143, 1, 0x4E), (0x144, 0x144, 1, 0x6E),
  (0x145, 0x145, 1, 0x4E), (0x146, 0x146, 1, 0x6E), (0x147, 0x147, 1, 0x4E),
  (0x148, 0x148, 1, 0x6E), (0x149, 0x149, 1, 0x6E), (0x14C, 0x14C, 1, 0x4F),
  (0x14D, 0x14D, 1, 0x6F), (0x14E, 0x14E, 1, 0x4F), (0x14F, 0x14F, 1, 0x6F),
  (0x150, 0x150, 1, 0x4F), (0x151, 0x151, 1, 0x6F), (0x154, 0x154, 1, 0x52),
  (0x155, 0x155, 1, 0x72), (0x156, 0x156, 1, 0x52), (0x157, 0x157, 1, 0x72),
  (0x158, 0x158, 1, 0x52), (0x159, 0x159, 1, 0x72), (0x15A, 0x15A, 1, 0x53),
  (0x15B, 0x15B, 1, 0x73), (0x15C, 0x15C, 1, 0x53), (0x15D, 0x15D, 1, 0x73),
  (0x15E, 0x15E, 1, 0x53), (0x15F, 0x15F, 1, 0x73), (0x160, 0x160, 1, 0x53),
  (0x161, 0x161, 1, 0x73), (0x162, 0x162, 1, 0x54), (0x163, 0x163, 1, 0x74),
  (0x164, 0x164, 1, 0x54), (0x165, 0x165, 1, 0x74), (0x168, 0x168, 1, 0x55),
  (0x169, 0x169, 1, 0x75), (0x16A, 0x16A, 1, 0x55), (0x16B, 0x16B, 1, 0x75),
  (0x16C, 0x16C, 1, 0x55), (0x16D, 0x16D, 1, 0x75), (0x16E, 0x16E, 1, 0x55),
  (0x16F, 0x16F, 1, 0x75), (0x170, 0x170, 1, 0x55), (0x171, 0x171, 1, 0x75),
  (0x172, 0x172, 1, 0x55), (0x173, 0x173, 1, 0x75), (0x174, 0x174, 1, 0x57),
  (0x175, 0x175, 1, 0x77), (0x176, 0x176, 1, 0x59), (0x177, 0x177, 1, 0x79),
  (0x178, 0x179, 1, 0x59), (0x17A, 0x17A, 1, 0x7A), (0x17B, 0x17B, 1, 0x5A),
  (0x17C, 0x17C, 1, 0x7A), (0x17D, 0x17D, 1, 0x5A), (0x17E, 0x17E, 1, 0x7A),
  (0x17F, 0x17F, 1, 0x73), (0x1A0, 0x1A0, 1, 0x4F), (0x1A1, 0x1A1, 1, 0x6F),
  (0x1AF, 0x1AF, 1, 0x55), (0x1B0, 0x1B0, 1, 0x75), (0x1CD, 0x1CD, 1, 0x41),
  (0x1CE, 0x1CE, 1, 0x61), (0x1CF, 0x1CF, 1, 0x49), (0x1D0, 0x1D0, 1, 0x69),
  (0x1D1, 0x1D1, 1, 0x4F), (0x1D2, 0x1D2, 1, 0x6F), (0x1D3, 0x1D3, 1, 0x55),
  (0x1D4, 0x1D4, 1, 0x75), (0x1D5, 0x1D5, 1, 0x55), (0x1D6, 0x1D6, 1, 0x75),
  (0x1D7, 0x1D7, 1, 0x55), (0x1D8, 0x1D8, 1, 0x75), (0x1D9, 0x1D9, 1, 0x55),
  (0x1DA, 0x1DA, 1, 0x75), (0x1DB, 0x1DB, 1, 0x55), (0x1DC, 0x1DC, 1, 0x75),
  (0x1DE, 0x1DE, 1, 0x41), (0x1DF, 0x1DF, 1, 0x61), (0x1E0, 0x1E0, 1, 0x41),
  (0x1E1, 0x1E1, 1, 0x61), (0x1E6, 0x1E6, 1, 0x47), (0x1E7, 0x1E7, 1, 0x67),
  (0x1E8, 0x1E8, 1, 0x4B), (0x1E9, 0x1E9, 1, 0x6B), (0x1EA, 0x1EA, 1, 0x4F),
  (0x1EB, 0x1EB, 1, 0x6F), (0x1EC, 0x1EC, 1, 0x4F), (0x1ED, 0x1ED, 1, 0x6F),
  (0x1F0, 0x1F0, 1, 0x6A), (0x1F4, 0x1F4, 1, 0x47), (0x1F5, 0x1F5, 1, 0x67),
  (0x1F8, 0x1F8, 1, 0x4E), (0x1F9, 0x1F9, 1, 0x6E), (0x1FA, 0x1FA, 1, 0x41),
  (0x1FB, 0x1FB, 1, 0x61), (0x200, 0x200, 1, 0x41), (0x201, 0x201, 1, 0x61),
  (0x202, 0x202, 1, 0x41), (0x203, 0x203, 1, 0x61), (0x204, 0x204, 1, 0x45),
  (0x205, 0x205, 1, 0x65), (0x206, 0x206, 1, 0x45), (0x207, 0x207, 1, 0x65),
  (0x208, 0x208, 1, 0x49), (0x209, 0x209, 1, 0x69), (0x20A, 0x20A, 1, 0x49),
  (0x20B, 0x20B, 1, 0x69), (0x20C, 0x20C, 1, 0x4F), (0x20D, 0x20D, 1, 0x6F),
  (0x20E, 0x20E, 1, 0x4F), (0x20F, 0x20F, 1, 0x6F), (0x210, 0x210, 1, 0x52),
  (0x211, 0x211, 1, 0x72), (0x212, 0x212, 1, 0x52), (0x213, 0x213, 1, 0x72),
  (0x214, 0x214, 1, 0x55), (0x215, 0x215, 1, 0x75), (0x216, 0x216, 1, 0x55),
  (0x217, 0x217, 1, 0x75), (0x218, 0x218, 1, 0x53), (0x219, 0x219, 1, 0x73),
  (0x21A, 0x21A, 1, 0x54), (0x21B, 0x21B, 1, 0x74), (0x21E, 0x21E, 1, 0x48),
  (0x21F, 0x21F, 1, 0x68), (0x226, 0x226, 1, 0x41), (0x227, 0x227, 1, 0x61),
  (0x228, 0x228, 1, 0x45), (0x229, 0x229, 1, 0x65), (0x22A, 0x22A, 1, 0x4F),
  (0x22B, 0x22B, 1, 0x6F), (0x22C, 0x22C, 1, 0x4F), (0x22D, 0x22D, 1, 0x6F),
  (0x22E, 0x22E, 1, 0x4F), (0x22F, 0x22F, 1, 0x6F), (0x230, 0x230, 1, 0x4F),
  (0x231, 0x231, 1, 0x6F), (0x232, 0x232, 1, 0x59), (0x233, 0x233, 1, 0x79),
  (0x2B0, 0x2B2, 2, 0x68), (0x2B3, 0x2B3, 1, 0x72), (0x2B7, 0x2B7, 1, 0x77),
  (0x2B8, 0x2B8, 1, 0x79), (0x2D8, 0x2D8, 1, 0x20), (0x2D9, 0x2D9, 1, 0x20),
  (0x2DA, 0x2DA, 1, 0x20), (0x2DB, 0x2DB, 1, 0x20), (0x2DC, 0x2DC, 1, 0x20),
  (0x2DD, 0x2DD, 1, 0x20), (0x2E1, 0x2E1, 1, 0x6C), (0x2E2, 0x2E2, 1, 0x73),
  (0x2E3, 0x2E3, 1, 0x78), (0x37A, 0x37A, 1, 0x20), (0x37E, 0x37E, 1, 0x3B),
  (0x384, 0x384, 1, 0x20), (0x385, 0x385, 1, 0x20), (0x1D2C, 0x1D2C, 1, 0x41),
  (0x1D2E, 0x1D30, 2, 0x42), (0x1D31, 0x1D33, 2, 0x45), (0x1D34, 0x1D3A, 1, 0x48),
  (0x1D3C, 0x1D3C, 1, 0x4F), (0x1D3E, 0x1D3E, 1, 0x50), (0x1D3F, 0x1D3F, 1, 0x52),
  (0x1D40, 0x1D41, 1, 0x54), (0x1D42, 0x1D42, 1, 0x57), (0x1D43, 0x1D43, 1, 0x61),
  (0x1D47, 0x1D47, 1, 0x62), (0x1D48, 0x1D49, 1, 0x64), (0x1D4D, 0x1D4D, 1, 0x67),
  (0x1D4F, 0x1D4F, 1, 0x6B), (0x1D50, 0x1D52, 2, 0x6D), (0x1D56, 0x1D56, 1, 0x70),
  (0x1D57, 0x1D58, 1, 0x74), (0x1D5B, 0x1D5B, 1, 0x76), (0x1D62, 0x1D62, 1, 0x69),
  (0x1D63, 0x1D63, 1, 0x72), (0x1D64, 0x1D65, 1, 0x75), (0x1D9C, 0x1D9C, 1, 0x63),
  (0x1DA0, 0x1DA0, 1, 0x66), (0x1DBB, 0x1DBB, 1, 0x7A), (0x1E00, 0x1E00, 1, 0x41),
  (0x1E01, 0x1E01, 1, 0x61), (0x1E02, 0x1E02, 1, 0x42), (0x1E03, 0x1E03, 1, 0x62),
  (0x1E04, 0x1E04, 1, 0x42), (0x1E05, 0x1E05, 1, 0x62), (0x1E06, 0x1E06, 1, 0x42),
  (0x1E07, 0x1E07, 1, 0x62), (0x1E08, 0x1E08, 1, 0x43), (0x1E09, 0x1E09, 1, 0x63),
  (0x1E0A, 0x1E0A, 1, 0x44), (0x1E0B, 0x1E0B, 1, 0x64), (0x1E0C, 0x1E0C, 1, 0x44),
  (0x1E0D, 0x1E0D, 1, 0x64), (0x1E0E, 0x1E0E, 1, 0x44), (0x1E0F, 0x1E0F, 1, 0x64),
  (0x1E10, 0x1E10, 1, 0x44), (0x1E11, 0x1E11, 1, 0x64), (0x1E12, 0x1E12, 1, 0x44),
  (0x1E13, 0x1E13, 1, 0x64), (0x1E14, 0x1E14, 1, 0x45), (0x1E15, 0x1E15, 1, 0x65),
  (0x1E16, 0x1E16, 1, 0x45), (0x1E17, 0x1E17, 1, 0x65), (0x1E18, 0x1E18, 1, 0x45),
  (0x1E19, 0x1E19, 1, 0x65), (0x1E1A, 0x1E1A, 1, 0x45), (0x1E1B, 0x1E1B, 1, 0x65),
  (0x1E1C, 0x1E1C, 1, 0x45), (0x1E1D, 0x1E1D, 1, 0x65), (0x1E1E, 0x1E1E, 1, 0x46),
  (0x1E1F, 0x1E1F, 1, 0x66), (0x1E20, 0x1E20, 1, 0x47), (0x1E21, 0x1E21, 1, 0x67),
  (0x1E22, 0x1E22, 1, 0x48), (0x1E23, 0x1E23, 1, 0x68), (0x1E24, 0x1E24, 1, 0x48),
  (0x1E25, 0x1E25, 1, 0x68), (0x1E26, 0x1E26, 1, 0x48), (0x1E27, 0x1E27, 1, 0x68),
  (0x1E28, 0x1E28, 1, 0x48), (0x1E29, 0x1E29, 1, 0x68), (0x1E2A, 0x1E2A, 1, 0x48),
  (0x1E2B, 0x1E2B, 1, 0x68), (0x1E2C, 0x1E2C, 1, 0x49), (0x1E2D, 0x1E2D, 1, 0x69),
  (0x1E2E, 0x1E2E, 1, 0x49), (0x1E2F, 0x1E2F, 1, 0x69), (0x1E30, 0x1E30, 1, 0x4B),
  (0x1E31, 0x1E31, 1, 0x6B), (0x1E32, 0x1E32, 1, 0x4B), (0x1E33, 0x1E33, 1, 0x6B),
  (0x1E34, 0x1E34, 1, 0x4B), (0x1E35, 0x1E35, 1, 0x6B), (0x1E36, 0x1E36, 1, 0x4C),
  (0x1E37, 0x1E37, 1, 0x6C), (0x1E38, 0x1E38, 1, 0x4C), (0x1E39, 0x1E39, 1, 0x6C),
  (0x1E3A, 0x1E3A, 1, 0x4C), (0x1E3B, 0x1E3B, 1, 0x6C), (0x1E3C, 0x1E3C, 1, 0x4C),
  (0x1E3D, 0x1E3D, 1, 0x6C), (0x1E3E, 0x1E3E, 1, 0x4D), (0x1E3F, 0x1E3F, 1, 0x6D),
  (0x1E40, 0x1E40, 1, 0x4D), (0x1E41, 0x1E41, 1, 0x6D), (0x1E42, 0x1E42, 1, 0x4D),
  (0x1E43, 0x1E43, 1, 0x6D), (0x1E44, 0x1E44, 1, 0x4E), (0x1E45, 0x1E45, 1, 0x6E),
  (0x1E46, 0x1E46, 1, 0x4E), (0x1E47, 0x1E47, 1, 0x6E), (0x1E48, 0x1E48, 1, 0x4E),
  (0x1E49, 0x1E49, 1, 0x6E), (0x1E4A, 0x1E4A, 1, 0x4E), (0x1E4B, 0x1E4B, 1, 0x6E),
  (0x1E4C, 0x1E4C, 1, 0x4F), (0x1E4D, 0x1E4D, 1, 0x6F), (0x1E4E, 0x1E4E, 1, 0x4F),
  (0x1E4F, 0x1E4F, 1, 0x6F), (0x1E50, 0x1E50, 1, 0x4F), (0x1E51, 0x1E51, 1, 0x6F),
  (0x1E52, 0x1E52, 1, 0x4F), (0x1E53, 0x1E53, 1, 0x6F), (0x1E54, 0x1E54, 1, 0x50),
  (0x1E55, 0x1E55, 1, 0x70), (0x1E56, 0x1E56, 1, 0x50), (0x1E57, 0x1E57, 1, 0x70),
  (0x1E58, 0x1E58, 1, 0x52), (0x1E59, 0x1E59, 1, 0x72), (0x1E5A, 0x1E5A, 1, 0x52),
  (0x1E5B, 0x1E5B, 1, 0x72), (0x1E5C, 0x1E5C, 1, 0x52), (0x1E5D, 0x1E5D, 1, 0x72),
  (0x1E5E, 0x1E5E, 1, 0x52), (0x1E5F, 0x1E5F, 1, 0x72), (0x1E60, 0x1E60, 1, 0x53),
  (0x1E61, 0x1E61, 1, 0x73), (0x1E62, 0x1E62, 1, 0x53), (0x1E63, 0x1E63, 1, 0x73),
  (0x1E64, 0x1E64, 1, 0x53), (0x1E65, 0x1E65, 1, 0x73), (0x1E66, 0x1E66, 1, 0x53),
  (0x1E67, 0x1E67, 1, 0x73), (0x1E68, 0x1E68, 1, 0x53), (0x1E69, 0x1E69, 1, 0x73),
  (0x1E6A, 0x1E6A, 1, 0x54), (0x1E6B, 0x1E6B, 1, 0x74), (0x1E6C, 0x1E6C, 1, 0x54),
  (0x1E6D, 0x1E6D, 1, 0x74), (0x1E6E, 0x1E6E, 1, 0x54), (0x1E6F, 0x1E6F, 1, 0x74),
  (0x1E70, 0x1E70, 1, 0x54), (0x1E71, 0x1E71, 1, 0x74), (0x1E72, 0x1E72, 1, 0x55),
  (0x1E73, 0x1E73, 1, 0x75), (0x1E74, 0x1E74, 1, 0x55), (0x1E75, 0x1E75, 1, 0x75),
  (0x1E76, 0x1E76, 1, 0x55), (0x1E77, 0x1E77, 1, 0x75), (0x1E78, 0x1E78, 1, 0x55),
  (0x1E79, 0x1E79, 1, 0x75), (0x1E7A, 0x1E7A, 1, 0x55), (0x1E7B, 0x1E7B, 1, 0x75),
  (0x1E7C, 0x1E7C, 1, 0x56), (0x1E7D, 0x1E7D, 1, 0x76), (0x1E7E, 0x1E7E, 1, 0x56),
  (0x1E7F, 0x1E7F, 1, 0x76), (0x1E80, 0x1E80, 1, 0x57), (0x1E81, 0x1E81, 1, 0x77),
  (0x1E82, 0x1E82, 1, 0x57), (0x1E83, 0x1E83, 1, 0x77), (0x1E84, 0x1E84, 1, 0x57),
  (0x1E85, 0x1E85, 1, 0x77), (0x1E86, 0x1E86, 1, 0x57), (0x1E87, 0x1E87, 1, 0x77),
  (0x1E88, 0x1E88, 1, 0x57), (0x1E89, 0x1E89, 1, 0x77), (0x1E8A, 0x1E8A, 1, 0x58),
  (0x1E8B, 0x1E8B, 1, 0x78), (0x1E8C, 0x1E8C, 1, 0x58), (0x1E8D, 0x1E8D, 1, 0x78),
  (0x1E8E, 0x1E8E, 1, 0x59), (0x1E8F, 0x1E8F, 1, 0x79), (0x1E90, 0x1E90, 1, 0x5A),
  (0x1E91, 0x1E91, 1, 0x7A), (0x1E92, 0x1E92, 1, 0x5A), (0x1E93, 0x1E93, 1, 0x7A),
  (0x1E94, 0x1E94, 1, 0x5A), (0x1E95, 0x1E95, 1, 0x7A), (0x1E96, 0x1E96, 1, 0x68),
  (0x1E97, 0x1E97, 1, 0x74), (0x1E98, 0x1E98, 1, 0x77), (0x1E99, 0x1E99, 1, 0x79),
  (0x1E9A, 0x1E9A, 1, 0x61), (0x1E9B, 0x1E9B, 1, 0x73), (0x1EA0, 0x1EA0, 1, 0x41),
  (0x1EA1, 0x1EA1, 1, 0x61), (0x1EA2, 0x1EA2, 1, 0x41), (0x1EA3, 0x1EA3, 1, 0x61),
  (0x1EA4, 0x1EA4, 1, 0x41), (0x1EA5, 0x1EA5, 1, 0x61), (0x1EA6, 0x1EA6, 1, 0x41),
  (0x1EA7, 0x1EA7, 1, 0x61), (0x1EA8, 0x1EA8, 1, 0x41), (0x1EA9, 0x1EA9, 1, 0x61),
  (0x1EAA, 0x1EAA, 1, 0x41), (0x1EAB, 0x1EAB, 1, 0x61), (0x1EAC, 0x1EAC, 1, 0x41),
  (0x1EAD, 0x1EAD, 1, 0x61), (0x1EAE, 0x1EAE, 1, 0x41), (0x1EAF, 0x1EAF, 1, 0x61),
  (0x1EB0, 0x1EB0, 1, 0x41), (0x1EB1, 0x1EB1, 1, 0x61), (0x1EB2, 0x1EB2, 1, 0x41),
  (0x1EB3, 0x1EB3, 1, 0x61), (0x1EB4, 0x1EB4, 1, 0x41), (0x1EB5, 0x1EB5, 1, 0x61),
  (0x1EB6, 0x1EB6, 1, 0x41), (0x1EB7, 0x1EB7, 1, 0x61), (0x1EB8, 0x1EB8, 1, 0x45),
  (0x1EB9, 0x1EB9, 1, 0x65), (0x1EBA, 0x1EBA, 1, 0x45), (0x1EBB, 0x1EBB, 1, 0x65),
  (0x1EBC, 0x1EBC, 1, 0x45), (0x1EBD, 0x1EBD, 1, 0x65), (0x1EBE, 0x1EBE, 1, 0x45),
  (0x1EBF, 0x1EBF, 1, 0x65), (0x1EC0, 0x1EC0, 1, 0x45), (0x1EC1, 0x1EC1, 1, 0x65),
  (0x1EC2, 0x1EC2, 1, 0x45), (0x1EC3, 0x1EC3, 1, 0x65), (0x1EC4, 0x1EC4, 1, 0x45),
  (0x1EC5, 0x1EC5, 1, 0x65), (0x1EC6, 0x1EC6, 1, 0x45), (0x1EC7, 0x1EC7, 1, 0x65),
  (0x1EC8, 0x1EC8, 1, 0x49), (0x1EC9, 0x1EC9, 1, 0x69), (0x1ECA, 0x1ECA, 1, 0x49),
  (0x1ECB, 0x1ECB, 1, 0x69), (0x1ECC, 0x1ECC, 1, 0x4F), (0x1ECD, 0x1ECD, 1, 0x6F),
  (0x1ECE, 0x1ECE, 1, 0x4F), (0x1ECF, 0x1ECF, 1, 0x6F), (0x1ED0, 0x1ED0, 1, 0x4F),
  (0x1ED1, 0x1ED1, 1, 0x6F), (0x1ED2, 0x1ED2, 1, 0x4F), (0x1ED3, 0x1ED3, 1, 0x6F),
  (0x1ED4, 0x1ED4, 1, 0x4F), (0x1ED5, 0x1ED5, 1, 0x6F), (0x1ED6, 0x1ED6, 1, 0x4F),
  (0x1ED7, 0x1ED7, 1, 0x6F), (0x1ED8, 0x1ED8, 1, 0x4F), (0x1ED9, 0x1ED9, 1, 0x6F),
  (0x1EDA, 0x1EDA, 1, 0x4F), (0x1EDB, 0x1EDB, 1, 0x6F), (0x1EDC, 0x1EDC, 1, 0x4F),
  (0x1EDD, 0x1EDD, 1, 0x6F), (0x1EDE, 0x1EDE, 1, 0x4F), (0x1EDF, 0x1EDF, 1, 0x6F),
  (0x1EE0, 0x1EE0, 1, 0x4F), (0x1EE1, 0x1EE1, 1, 0x6F), (0x1EE2, 0x1EE2, 1, 0x4F),
  (0x1EE3, 0x1EE3, 1, 0x6F), (0x1EE4, 0x1EE4, 1, 0x55), (0x1EE5, 0x1EE5, 1, 0x75),
  (0x1EE6, 0x1EE6, 1, 0x55), (0x1EE7, 0x1EE7, 1, 0x75), (0x1EE8, 0x1EE8, 1, 0x55),
  (0x1EE9, 0x1EE9, 1, 0x75), (0x1EEA, 0x1EEA, 1, 0x55), (0x1EEB, 0x1EEB, 1, 0x75),
  (0x1EEC, 0x1EEC, 1, 0x55), (0x1EED, 0x1EED, 1, 0x75), (0x1EEE, 0x1EEE, 1, 0x55),
  (0x1EEF, 0x1EEF, 1, 0x75), (0x1EF0, 0x1EF0, 1, 0x55), (0x1EF1, 0x1EF1, 1, 0x75),
  (0x1EF2, 0x1EF2, 1, 0x59), (0x1EF3, 0x1EF3, 1, 0x79), (0x1EF4, 0x1EF4, 1, 0x59),
  (0x1EF5, 0x1EF5, 1, 0x79), (0x1EF6, 0x1EF6, 1, 0x59), (0x1EF7, 0x1EF7, 1, 0x79),
  (0x1EF8, 0x1EF8, 1, 0x59), (0x1EF9, 0x1EF9, 1, 0x79), (0x1FBD, 0x1FBD, 1, 0x20),
  (0x1FBF, 0x1FBF, 1, 0x20), (0x1FC0, 0x1FC0, 1, 0x20), (0x1FC1, 0x1FC1, 1, 0x20),
  (0x1FCD, 0x1FCD, 1, 0x20), (0x1FCE, 0x1FCE, 1, 0x20), (0x1FCF, 0x1FCF, 1, 0x20),
  (0x1FDD, 0x1FDD, 1, 0x20), (0x1FDE, 0x1FDE, 1, 0x20), (0x1FDF, 0x1FDF, 1, 0x20),
  (0x1FED, 0x1FED, 1, 0x20), (0x1FEE, 0x1FEE, 1, 0x20), (0x1FEF, 0x1FEF, 1, 0x60),
  (0x1FFD, 0x1FFD, 1, 0x20), (0x1FFE, 0x1FFE, 1, 0x20), (0x2000, 0x2000, 1, 0x20),
  (0x2001, 0x2001, 1, 0x20), (0x2002, 0x2002, 1, 0x20), (0x2003, 0x2003, 1, 0x20),
  (0x2004, 0x2004, 1, 0x20), (0x2005, 0x2005, 1, 0x20), (0x2006, 0x2006, 1, 0x20),
  (0x2007, 0x2007, 1, 0x20), (0x2008, 0x2008, 1, 0x20), (0x2009, 0x2009, 1, 0x20),
  (0x200A, 0x200A, 1, 0x20), (0x2017, 0x2017, 1, 0x20), (0x2024, 0x2024, 1, 0x2E),
  (0x202F, 0x202F, 1, 0x20), (0x203E, 0x203E, 1, 0x20), (0x205F, 0x205F, 1, 0x20),
  (0x2070, 0x2070, 1, 0x30), (0x2071, 0x2071, 1, 0x69), (0x2074, 0x2079, 1, 0x34),
  (0x207A, 0x207A, 1, 0x2B), (0x207C, 0x207C, 1, 0x3D), (0x207D, 0x207E, 1, 0x28),
  (0x207F, 0x207F, 1, 0x6E), (0x2080, 0x2089, 1, 0x30), (0x208A, 0x208A, 1, 0x2B),
  (0x208C, 0x208C, 1, 0x3D), (0x208D, 0x208E, 1, 0x28), (0x2090, 0x2090, 1, 0x61),
  (0x2091, 0x2091, 1, 0x65), (0x2092, 0x2092, 1, 0x6F), (0x2093, 0x2093, 1, 0x78),
  (0x2095, 0x2095, 1, 0x68), (0x2096, 0x2099, 1, 0x6B), (0x209A, 0x209A, 1, 0x70),
  (0x209B, 0x209C, 1, 0x73), (0x2102, 0x2102, 1, 0x43), (0x2103, 0x2103, 1, 0x43),
  (0x2109, 0x2109, 1, 0x46), (0x210A, 0x210A, 1, 0x67), (0x210B, 0x210B, 1, 0x48),
  (0x210C, 0x210C, 1, 0x48), (0x210D, 0x210D, 1, 0x48), (0x210E, 0x210E, 1, 0x68),
  (0x2110, 0x2110, 1, 0x49), (0x2111, 0x2111, 1, 0x49), (0x2112, 0x2112, 1, 0x4C),
  (0x2113, 0x2113, 1, 0x6C), (0x2115, 0x2115, 1, 0x4E), (0x2119, 0x211B, 1, 0x50),
  (0x211C, 0x211C, 1, 0x52), (0x211D, 0x211D, 1, 0x52), (0x2124, 0x2124, 1, 0x5A),
  (0x2128, 0x2128, 1, 0x5A), (0x212A, 0x212A, 1, 0x4B), (0x212B, 0x212D, 1, 0x41),
  (0x212F, 0x212F, 1, 0x65), (0x2130, 0x2131, 1, 0x45), (0x2133, 0x2133, 1, 0x4D),
  (0x2134, 0x2134, 1, 0x6F), (0x2139, 0x2139, 1, 0x69), (0x2145, 0x2145, 1, 0x44),
  (0x2146, 0x2147, 1, 0x64), (0x2148, 0x2149, 1, 0x69), (0x215F, 0x215F, 1, 0x31),
  (0x2160, 0x2160, 1, 0x49), (0x2164, 0x2164, 1, 0x56), (0x2169, 0x2169, 1, 0x58),
  (0x216C, 0x216C, 1, 0x4C), (0x216D, 0x216E, 1, 0x43), (0x216F, 0x216F, 1, 0x4D),
  (0x2170, 0x2170, 1, 0x69), (0x2174, 0x2174, 1, 0x76), (0x2179, 0x2179, 1, 0x78),
  (0x217C, 0x217C, 1, 0x6C), (0x217D, 0x217E, 1, 0x63), (0x217F, 0x217F, 1, 0x6D),
  (0x2260, 0x2260, 1, 0x3D), (0x226E, 0x226E, 1, 0x3C), (0x226F, 0x226F, 1, 0x3E),
  (0x2460, 0x2468, 1, 0x31), (0x24B6, 0x24CF, 1, 0x41), (0x24D0, 0x24E9, 1, 0x61),
  (0x24EA, 0x24EA, 1, 0x30), (0x2C7C, 0x2C7C, 1, 0x6A), (0x2C7D, 0x2C7D, 1, 0x56),
  (0x3000, 0x3000, 1, 0x20), (0x309B, 0x309B, 1, 0x20), (0x309C, 0x309C, 1, 0x20),
  (0x32C0, 0x32C8, 1, 0x31), (0x3358, 0x3361, 1, 0x30), (0x3382, 0x3382, 1, 0x41),
  (0x338C, 0x338C, 1, 0x46), (0x338D, 0x338D, 1, 0x67), (0x3395, 0x3395, 1, 0x6C),
  (0x339B, 0x339B, 1, 0x6D), (0x33B2, 0x33B2, 1, 0x73), (0x33B6, 0x33B6, 1, 0x56),
  (0x33BC, 0x33BC, 1, 0x57), (0x33C0, 0x33C0, 1, 0x6B), (0x33C1, 0x33C1, 1, 0x4D),
  (0x33E0, 0x33E8, 1, 0x31), (0xA7F2, 0xA7F2, 1, 0x43), (0xA7F3, 0xA7F3, 1, 0x46),
  (0xA7F4, 0xA7F4, 1, 0x51), (0xFB29, 0xFB29, 1, 0x2B), (0xFC5E, 0xFC5E, 1, 0x20),
  (0xFC5F, 0xFC5F, 1, 0x20), (0xFC60, 0xFC60, 1, 0x20), (0xFC61, 0xFC61, 1, 0x20),
  (0xFC62, 0xFC62, 1, 0x20), (0xFC63, 0xFC63, 1, 0x20), (0xFDFB, 0xFDFB, 1, 0x20),
  (0xFE10, 0xFE10, 1, 0x2C), (0xFE13, 0xFE14, 1, 0x3A), (0xFE15, 0xFE15, 1, 0x21),
  (0xFE16, 0xFE16, 1, 0x3F), (0xFE33, 0xFE33, 1, 0x5F), (0xFE34, 0xFE34, 1, 0x5F),
  (0xFE35, 0xFE36, 1, 0x28), (0xFE37, 0xFE37, 1, 0x7B), (0xFE38, 0xFE38, 1, 0x7D),
  (0xFE47, 0xFE47, 1, 0x5B), (0xFE48, 0xFE48, 1, 0x5D), (0xFE49, 0xFE49, 1, 0x20),
  (0xFE4A, 0xFE4A, 1, 0x20), (0xFE4B, 0xFE4B, 1, 0x20), (0xFE4C, 0xFE4C, 1, 0x20),
  (0xFE4D, 0xFE4D, 1, 0x5F), (0xFE4E, 0xFE4E, 1, 0x5F), (0xFE4F, 0xFE4F, 1, 0x5F),
  (0xFE50, 0xFE52, 2, 0x2C), (0xFE54, 0xFE54, 1, 0x3B), (0xFE55, 0xFE55, 1, 0x3A),
  (0xFE56, 0xFE56, 1, 0x3F), (0xFE57, 0xFE57, 1, 0x21), (0xFE59, 0xFE5A, 1, 0x28),
  (0xFE5B, 0xFE5B, 1, 0x7B), (0xFE5C, 0xFE5C, 1, 0x7D), (0xFE5F, 0xFE5F, 1, 0x23),
  (0xFE60, 0xFE60, 1, 0x26), (0xFE61, 0xFE62, 1, 0x2A), (0xFE63, 0xFE63, 1, 0x2D),
  (0xFE64, 0xFE64, 1, 0x3C), (0xFE65, 0xFE65, 1, 0x3E), (0xFE66, 0xFE66, 1, 0x3D),
  (0xFE68, 0xFE68, 1, 0x5C), (0xFE69, 0xFE6A, 1, 0x24), (0xFE6B, 0xFE6B, 1, 0x40),
  (0xFE70, 0xFE70, 1, 0x20), (0xFE72, 0xFE72, 1, 0x20), (0xFE74, 0xFE74, 1, 0x20),
  (0xFE76, 0xFE76, 1, 0x20), (0xFE78, 0xFE78, 1, 0x20), (0xFE7A, 0xFE7A, 1, 0x20),
  (0xFE7C, 0xFE7C, 1, 0x20), (0xFE7E, 0xFE7E, 1, 0x20), (0xFF01, 0xFF5E, 1, 0x21),
  (0xFFE3, 0xFFE3, 1, 0x20), (0x107A5, 0x107A5, 1, 0x71), (0x1D400, 0x1D419, 1, 0x41),
  (0x1D41A, 0x1D433, 1, 0x61), (0x1D434, 0x1D44D, 1, 0x41), (0x1D44E, 0x1D454, 1, 0x61),
  (0x1D456, 0x1D467, 1, 0x69), (0x1D468, 0x1D481, 1, 0x41), (0x1D482, 0x1D49B, 1, 0x61),
  (0x1D49C, 0x1D49E, 2, 0x41), (0x1D49F, 0x1D49F, 1, 0x44), (0x1D4A2, 0x1D4A2, 1, 0x47),
  (0x1D4A5, 0x1D4A6, 1, 0x4A), (0x1D4A9, 0x1D4AC, 1, 0x4E), (0x1D4AE, 0x1D4B5, 1, 0x53),
  (0x1D4B6, 0x1D4B9, 1, 0x61), (0x1D4BB, 0x1D4BD, 2, 0x66), (0x1D4BE, 0x1D4C3, 1, 0x69),
  (0x1D4C5, 0x1D4CF, 1, 0x70), (0x1D4D0, 0x1D4E9, 1, 0x41), (0x1D4EA, 0x1D503, 1, 0x61),
  (0x1D504, 0x1D505, 1, 0x41), (0x1D507, 0x1D50A, 1, 0x44), (0x1D50D, 0x1D514, 1, 0x4A),
  (0x1D516, 0x1D51C, 1, 0x53), (0x1D51E, 0x1D537, 1, 0x61), (0x1D538, 0x1D539, 1, 0x41),
  (0x1D53B, 0x1D53E, 1, 0x44), (0x1D540, 0x1D544, 1, 0x49), (0x1D546, 0x1D546, 1, 0x4F),
  (0x1D54A, 0x1D550, 1, 0x53), (0x1D552, 0x1D56B, 1, 0x61), (0x1D56C, 0x1D585, 1, 0x41),
  (0x1D586, 0x1D59F, 1, 0x61), (0x1D5A0, 0x1D5B9, 1, 0x41), (0x1D5BA, 0x1D5D3, 1, 0x61),
  (0x1D5D4, 0x1D5ED, 1, 0x41), (0x1D5EE, 0x1D607, 1, 0x61), (0x1D608, 0x1D621, 1, 0x41),
  (0x1D622, 0x1D63B, 1, 0x61), (0x1D63C, 0x1D655, 1, 0x41), (0x1D656, 0x1D66F, 1, 0x61),
  (0x1D670, 0x1D689, 1, 0x41), (0x1D68A, 0x1D6A3, 1, 0x61), (0x1D7CE, 0x1D7D7, 1, 0x30),
  (0x1D7D8, 0x1D7E1, 1, 0x30), (0x1D7E2, 0x1D7EB, 1, 0x30), (0x1D7EC, 0x1D7F5, 1, 0x30),
  (0x1D7F6, 0x1D7FF, 1, 0x30), (0x1F12A, 0x1F12A, 1, 0x53), (0x1F12B, 0x1F12B, 1, 0x43),
  (0x1F12C, 0x1F12C, 1, 0x52), (0x1F130, 0x1F149, 1, 0x41), (0x1FBF0, 0x1FBF9, 1, 0x30)]

/-- The characters whose compatibility decomposition holds several ASCII characters. -/
def latinTexts : List (Nat × String) := [
  (0xBC, "14"), (0xBD, "12"), (0xBE, "34"), (0x132, "IJ"), (0x133, "ij"), (0x1C4, "DZ"),
  (0x1C5, "Dz"), (0x1C6, "dz"), (0x1C7, "LJ"), (0x1C8, "Lj"), (0x1C9, "lj"), (0x1CA, "NJ"),
  (0x1CB, "Nj"), (0x1CC, "nj"), (0x1F1, "DZ"), (0x1F2, "Dz"), (0x1F3, "dz"), (0x2025, ".."),
  (0x2026, "..."), (0x203C, "!!"), (0x2047, "??"), (0x2048, "?!"), (0x2049, "!?"),
  (0x20A8, "Rs"), (0x2100, "a/c"), (0x2101, "a/s"), (0x2105, "c/o"), (0x2106, "c/u"),
  (0x2116, "No"), (0x2120, "SM"), (0x2121, "TEL"), (0x2122, "TM"), (0x213B, "FAX"),
  (0x2150, "17"), (0x2151, "19"), (0x2152, "110"), (0x2153, "13"), (0x2154, "23"),
  (0x2155, "15"), (0x2156, "25"), (0x2157, "35"), (0x2158, "45"), (0x2159, "16"), (0x215A, "56"),
  (0x215B, "18"), (0x215C, "38"), (0x215D, "58"), (0x215E, "78"), (0x2161, "II"),
  (0x2162, "III"), (0x2163, "IV"), (0x2165, "VI"), (0x2166, "VII"), (0x2167, "VIII"),
  (0x2168, "IX"), (0x216A, "XI"), (0x216B, "XII"), (0x2171, "ii"), (0x2172, "iii"),
  (0x2173, "iv"), (0x2175, "vi"), (0x2176, "vii"), (0x2177, "viii"), (0x2178, "ix"),
  (0x217A, "xi"), (0x217B, "xii"), (0x2189, "03"), (0x2469, "10"), (0x246A, "11"),
  (0x246B, "12"), (0x246C, "13"), (0x246D, "14"), (0x246E, "15"), (0x246F, "16"), (0x2470, "17"),
  (0x2471, "18"), (0x2472, "19"), (0x2473, "20"), (0x2474, "(1)"), (0x2475, "(2)"),
  (0x2476, "(3)"), (0x2477, "(4)"), (0x2478, "(5)"), (0x2479, "(6)"), (0x247A, "(7)"),
  (0x247B, "(8)"), (0x247C, "(9)"), (0x247D, "(10)"), (0x247E, "(11)"), (0x247F, "(12)"),
  (0x2480, "(13)"), (0x2481, "(14)"), (0x2482, "(15)"), (0x2483, "(16)"), (0x2484, "(17)"),
  (0x2485, "(18)"), (0x2486, "(19)"), (0x2487, "(20)"), (0x2488, "1."), (0x2489, "2."),
  (0x248A, "3."), (0x248B, "4."), (0x248C, "5."), (0x248D, "6."), (0x248E, "7."), (0x248F, "8."),
  (0x2490, "9."), (0x2491, "10."), (0x2492, "11."), (0x2493, "12."), (0x2494, "13."),
  (0x2495, "14."), (0x2496, "15."), (0x2497, "16."), (0x2498, "17."), (0x2499, "18."),
  (0x249A, "19."), (0x249B, "20."), (0x249C, "(a)"), (0x249D, "(b)"), (0x249E, "(c)"),
  (0x249F, "(d)"), (0x24A0, "(e)"), (0x24A1, "(f)"), (0x24A2, "(g)"), (0x24A3, "(h)"),
  (0x24A4, "(i)"), (0x24A5, "(j)"), (0x24A6, "(k)"), (0x24A7, "(l)"), (0x24A8, "(m)"),
  (0x24A9, "(n)"), (0x24AA, "(o)"), (0x24AB, "(p)"), (0x24AC, "(q)"), (0x24AD, "(r)"),
  (0x24AE, "(s)"), (0x24AF, "(t)"), (0x24B0, "(u)"), (0x24B1, "(v)"), (0x24B2, "(w)"),
  (0x24B3, "(x)"), (0x24B4, "(y)"), (0x24B5, "(z)"), (0x2A74, "::="), (0x2A75, "=="),
  (0x2A76, "==="), (0x3200, "()"), (0x3201, "()"), (0x3202, "()"), (0x3203, "()"),
  (0x3204, "()"), (0x3205, "()"), (0x3206, "()"), (0x3207, "()"), (0x3208, "()"), (0x3209, "()"),
  (0x320A, "()"), (0x320B, "()"), (0x320C, "()"), (0x320D, "()"), (0x320E, "()"), (0x320F, "()"),
  (0x3210, "()"), (0x3211, "()"), (0x3212, "()"), (0x3213, "()"), (0x3214, "()"), (0x3215, "()"),
  (0x3216, "()"), (0x3217, "()"), (0x3218, "()"), (0x3219, "()"), (0x321A, "()"), (0x321B, "()"),
  (0x321C, "()"), (0x321D, "()"), (0x321E, "()"), (0x3220, "()"), (0x3221, "()"), (0x3222, "()"),
  (0x3223, "()"), (0x3224, "()"), (0x3225, "()"), (0x3226, "()"), (0x3227, "()"), (0x3228, "()"),
  (0x3229, "()"), (0x322A, "()"), (0x322B, "()"), (0x322C, "()"), (0x322D, "()"), (0x322E, "()"),
  (0x322F, "()"), (0x3230, "()"), (0x3231, "()"), (0x3232, "()"), (0x3233, "()"), (0x3234, "()"),
  (0x3235, "()"), (0x3236, "()"), (0x3237, "()"), (0x3238, "()"), (0x3239, "()"), (0x323A, "()"),
  (0x323B, "()"), (0x323C, "()"), (0x323D, "()"), (0x323E, "()"), (0x323F, "()"), (0x3240, "()"),
  (0x3241, "()"), (0x3242, "()"), (0x3243, "()"), (0x3250, "PTE"), (0x3251, "21"),
  (0x3252, "22"), (0x3253, "23"), (0x3254, "24"), (0x3255, "25"), (0x3256, "26"), (0x3257, "27"),
  (0x3258, "28"), (0x3259, "29"), (0x325A, "30"), (0x325B, "31"), (0x325C, "32"), (0x325D, "33"),
  (0x325E, "34"), (0x325F, "35"), (0x32B1, "36"), (0x32B2, "37"), (0x32B3, "38"), (0x32B4, "39"),
  (0x32B5, "40"), (0x32B6, "41"), (0x32B7, "42"), (0x32B8, "43"), (0x32B9, "44"), (0x32BA, "45"),
  (0x32BB, "46"), (0x32BC, "47"), (0x32BD, "48"), (0x32BE, "49"), (0x32BF, "50"), (0x32C9, "10"),
  (0x32CA, "11"), (0x32CB, "12"), (0x32CC, "Hg"), (0x32CD, "erg"), (0x32CE, "eV"),
  (0x32CF, "LTD"), (0x3362, "10"), (0x3363, "11"), (0x3364, "12"), (0x3365, "13"),
  (0x3366, "14"), (0x3367, "15"), (0x3368, "16"), (0x3369, "17"), (0x336A, "18"), (0x336B, "19"),
  (0x336C, "20"), (0x336D, "21"), (0x336E, "22"), (0x336F, "23"), (0x3370, "24"),
  (0x3371, "hPa"), (0x3372, "da"), (0x3373, "AU"), (0x3374, "bar"), (0x3375, "oV"),
  (0x3376, "pc"), (0x3377, "dm"), (0x3378, "dm2"), (0x3379, "dm3"), (0x337A, "IU"),
  (0x3380, "pA"), (0x3381, "nA"), (0x3383, "mA"), (0x3384, "kA"), (0x3385, "KB"), (0x3386, "MB"),
  (0x3387, "GB"), (0x3388, "cal"), (0x3389, "kcal"), (0x338A, "pF"), (0x338B, "nF"),
  (0x338E, "mg"), (0x338F, "kg"), (0x3390, "Hz"), (0x3391, "kHz"), (0x3392, "MHz"),
  (0x3393, "GHz"), (0x3394, "THz"), (0x3396, "ml"), (0x3397, "dl"), (0x3398, "kl"),
  (0x3399, "fm"), (0x339A, "nm"), (0x339C, "mm"), (0x339D, "cm"), (0x339E, "km"),
  (0x339F, "mm2"), (0x33A0, "cm2"), (0x33A1, "m2"), (0x33A2, "km2"), (0x33A3, "mm3"),
  (0x33A4, "cm3"), (0x33A5, "m3"), (0x33A6, "km3"), (0x33A7, "ms"), (0x33A8, "ms2"),
  (0x33A9, "Pa"), (0x33AA, "kPa"), (0x33AB, "MPa"), (0x33AC, "GPa"), (0x33AD, "rad"),
  (0x33AE, "rads"), (0x33AF, "rads2"), (0x33B0, "ps"), (0x33B1, "ns"), (0x33B3, "ms"),
  (0x33B4, "pV"), (0x33B5, "nV"), (0x33B7, "mV"), (0x33B8, "kV"), (0x33B9, "MV"), (0x33BA, "pW"),
  (0x33BB, "nW"), (0x33BD, "mW"), (0x33BE, "kW"), (0x33BF, "MW"), (0x33C2, "a.m."),
  (0x33C3, "Bq"), (0x33C4, "cc"), (0x33C5, "cd"), (0x33C6, "Ckg"), (0x33C7, "Co."),
  (0x33C8, "dB"), (0x33C9, "Gy"), (0x33CA, "ha"), (0x33CB, "HP"), (0x33CC, "in"), (0x33CD, "KK"),
  (0x33CE, "KM"), (0x33CF, "kt"), (0x33D0, "lm"), (0x33D1, "ln"), (0x33D2, "log"),
  (0x33D3, "lx"), (0x33D4, "mb"), (0x33D5, "mil"), (0x33D6, "mol"), (0x33D7, "PH"),
  (0x33D8, "p.m."), (0x33D9, "PPM"), (0x33DA, "PR"), (0x33DB, "sr"), (0x33DC, "Sv"),
  (0x33DD, "Wb"), (0x33DE, "Vm"), (0x33DF, "Am"), (0x33E9, "10"), (0x33EA, "11"), (0x33EB, "12"),
  (0x33EC, "13"), (0x33ED, "14"), (0x33EE, "15"), (0x33EF, "16"), (0x33F0, "17"), (0x33F1, "18"),
  (0x33F2, "19"), (0x33F3, "20"), (0x33F4, "21"), (0x33F5, "22"), (0x33F6, "23"), (0x33F7, "24"),
  (0x33F8, "25"), (0x33F9, "26"), (0x33FA, "27"), (0x33FB, "28"), (0x33FC, "29"), (0x33FD, "30"),
  (0x33FE, "31"), (0x33FF, "gal"), (0xFB00, "ff"), (0xFB01, "fi"), (0xFB02, "fl"),
  (0xFB03, "ffi"), (0xFB04, "ffl"), (0xFB05, "st"), (0xFB06, "st"), (0xFDFA, "   "),
  (0xFE19, "..."), (0xFE30, ".."), (0x1F100, "0."), (0x1F101, "0,"), (0x1F102, "1,"),
  (0x1F103, "2,"), (0x1F104, "3,"), (0x1F105, "4,"), (0x1F106, "5,"), (0x1F107, "6,"),
  (0x1F108, "7,"), (0x1F109, "8,"), (0x1F10A, "9,"), (0x1F110, "(A)"), (0x1F111, "(B)"),
  (0x1F112, "(C)"), (0x1F113, "(D)"), (0x1F114, "(E)"), (0x1F115, "(F)"), (0x1F116, "(G)"),
  (0x1F117, "(H)"), (0x1F118, "(I)"), (0x1F119, "(J)"), (0x1F11A, "(K)"), (0x1F11B, "(L)"),
  (0x1F11C, "(M)"), (0x1F11D, "(N)"), (0x1F11E, "(O)"), (0x1F11F, "(P)"), (0x1F120, "(Q)"),
  (0x1F121, "(R)"), (0x1F122, "(S)"), (0x1F123, "(T)"), (0x1F124, "(U)"), (0x1F125, "(V)"),
  (0x1F126, "(W)"), (0x1F127, "(X)"), (0x1F128, "(Y)"), (0x1F129, "(Z)"), (0x1F12D, "CD"),
  (0x1F12E, "WZ"), (0x1F14A, "HV"), (0x1F14B, "MV"), (0x1F14C, "SD"), (0x1F14D, "SS"),
  (0x1F14E, "PPV"), (0x1F14F, "WC"), (0x1F16A, "MC"), (0x1F16B, "MD"), (0x1F16C, "MR"),
  (0x1F190, "DJ")]

end WikiText.Text
