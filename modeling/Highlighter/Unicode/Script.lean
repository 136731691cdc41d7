/-
# Scripts

The script of every code point, as runs over the list `Script.all`.  A code point without a script,
an unassigned one for instance, has the number after the last script.
-/
import Highlighter.Unicode.Runs

namespace Highlighter

/-- A script: its name and its abbreviations. -/
structure Script where
  name : String
  abbreviations : List String

namespace Script

/-- All scripts, by name. -/
def all : List Script := [
  ⟨"Adlam", ["Adlm"]⟩, ⟨"Ahom", []⟩, ⟨"Anatolian_Hieroglyphs", ["Hluw"]⟩, ⟨"Arabic", ["Arab"]⟩,
  ⟨"Armenian", ["Armn"]⟩, ⟨"Avestan", ["Avst"]⟩, ⟨"Balinese", ["Bali"]⟩, ⟨"Bamum", ["Bamu"]⟩,
  ⟨"Bassa_Vah", ["Bass"]⟩, ⟨"Batak", ["Batk"]⟩, ⟨"Bengali", ["Beng"]⟩, ⟨"Bhaiksuki", ["Bhks"]⟩,
  ⟨"Bopomofo", ["Bopo"]⟩, ⟨"Brahmi", ["Brah"]⟩, ⟨"Braille", ["Brai"]⟩, ⟨"Buginese", ["Bugi"]⟩,
  ⟨"Buhid", ["Buhd"]⟩, ⟨"Canadian_Aboriginal", ["Cans"]⟩, ⟨"Carian", ["Cari"]⟩,
  ⟨"Caucasian_Albanian", ["Aghb"]⟩, ⟨"Chakma", ["Cakm"]⟩, ⟨"Cham", []⟩, ⟨"Cherokee", ["Cher"]⟩,
  ⟨"Chorasmian", ["Chrs"]⟩, ⟨"Common", ["Zyyy"]⟩, ⟨"Coptic", ["Copt", "Qaac"]⟩,
  ⟨"Cuneiform", ["Xsux"]⟩, ⟨"Cypriot", ["Cprt"]⟩, ⟨"Cypro_Minoan", ["Cpmn"]⟩,
  ⟨"Cyrillic", ["Cyrl"]⟩, ⟨"Deseret", ["Dsrt"]⟩, ⟨"Devanagari", ["Deva"]⟩,
  ⟨"Dives_Akuru", ["Diak"]⟩, ⟨"Dogra", ["Dogr"]⟩, ⟨"Duployan", ["Dupl"]⟩,
  ⟨"Egyptian_Hieroglyphs", ["Egyp"]⟩, ⟨"Elbasan", ["Elba"]⟩, ⟨"Elymaic", ["Elym"]⟩,
  ⟨"Ethiopic", ["Ethi"]⟩, ⟨"Garay", ["Gara"]⟩, ⟨"Georgian", ["Geor"]⟩, ⟨"Glagolitic", ["Glag"]⟩,
  ⟨"Gothic", ["Goth"]⟩, ⟨"Grantha", ["Gran"]⟩, ⟨"Greek", ["Grek"]⟩, ⟨"Gujarati", ["Gujr"]⟩,
  ⟨"Gunjala_Gondi", ["Gong"]⟩, ⟨"Gurmukhi", ["Guru"]⟩, ⟨"Gurung_Khema", ["Gukh"]⟩,
  ⟨"Han", ["Hani"]⟩, ⟨"Hangul", ["Hang"]⟩, ⟨"Hanifi_Rohingya", ["Rohg"]⟩, ⟨"Hanunoo", ["Hano"]⟩,
  ⟨"Hatran", ["Hatr"]⟩, ⟨"Hebrew", ["Hebr"]⟩, ⟨"Hiragana", ["Hira"]⟩,
  ⟨"Imperial_Aramaic", ["Armi"]⟩, ⟨"Inherited", ["Zinh", "Qaai"]⟩,
  ⟨"Inscriptional_Pahlavi", ["Phli"]⟩, ⟨"Inscriptional_Parthian", ["Prti"]⟩,
  ⟨"Javanese", ["Java"]⟩, ⟨"Kaithi", ["Kthi"]⟩, ⟨"Kannada", ["Knda"]⟩, ⟨"Katakana", ["Kana"]⟩,
  ⟨"Kawi", []⟩, ⟨"Kayah_Li", ["Kali"]⟩, ⟨"Kharoshthi", ["Khar"]⟩,
  ⟨"Khitan_Small_Script", ["Kits"]⟩, ⟨"Khmer", ["Khmr"]⟩, ⟨"Khojki", ["Khoj"]⟩,
  ⟨"Khudawadi", ["Sind"]⟩, ⟨"Kirat_Rai", ["Krai"]⟩, ⟨"Lao", ["Laoo"]⟩, ⟨"Latin", ["Latn"]⟩,
  ⟨"Lepcha", ["Lepc"]⟩, ⟨"Limbu", ["Limb"]⟩, ⟨"Linear_A", ["Lina"]⟩, ⟨"Linear_B", ["Linb"]⟩,
  ⟨"Lisu", []⟩, ⟨"Lycian", ["Lyci"]⟩, ⟨"Lydian", ["Lydi"]⟩, ⟨"Mahajani", ["Mahj"]⟩,
  ⟨"Makasar", ["Maka"]⟩, ⟨"Malayalam", ["Mlym"]⟩, ⟨"Mandaic", ["Mand"]⟩,
  ⟨"Manichaean", ["Mani"]⟩, ⟨"Marchen", ["Marc"]⟩, ⟨"Masaram_Gondi", ["Gonm"]⟩,
  ⟨"Medefaidrin", ["Medf"]⟩, ⟨"Meetei_Mayek", ["Mtei"]⟩, ⟨"Mende_Kikakui", ["Mend"]⟩,
  ⟨"Meroitic_Cursive", ["Merc"]⟩, ⟨"Meroitic_Hieroglyphs", ["Mero"]⟩, ⟨"Miao", ["Plrd"]⟩,
  ⟨"Modi", []⟩, ⟨"Mongolian", ["Mong"]⟩, ⟨"Mro", ["Mroo"]⟩, ⟨"Multani", ["Mult"]⟩,
  ⟨"Myanmar", ["Mymr"]⟩, ⟨"Nabataean", ["Nbat"]⟩, ⟨"Nag_Mundari", ["Nagm"]⟩,
  ⟨"Nandinagari", ["Nand"]⟩, ⟨"New_Tai_Lue", ["Talu"]⟩, ⟨"Newa", []⟩, ⟨"Nko", ["Nkoo"]⟩,
  ⟨"Nushu", ["Nshu"]⟩, ⟨"Nyiakeng_Puachue_Hmong", ["Hmnp"]⟩, ⟨"Ogham", ["Ogam"]⟩,
  ⟨"Ol_Chiki", ["Olck"]⟩, ⟨"Ol_Onal", ["Onao"]⟩, ⟨"Old_Hungarian", ["Hung"]⟩,
  ⟨"Old_Italic", ["Ital"]⟩, ⟨"Old_North_Arabian", ["Narb"]⟩, ⟨"Old_Permic", ["Perm"]⟩,
  ⟨"Old_Persian", ["Xpeo"]⟩, ⟨"Old_Sogdian", ["Sogo"]⟩, ⟨"Old_South_Arabian", ["Sarb"]⟩,
  ⟨"Old_Turkic", ["Orkh"]⟩, ⟨"Old_Uyghur", ["Ougr"]⟩, ⟨"Oriya", ["Orya"]⟩, ⟨"Osage", ["Osge"]⟩,
  ⟨"Osmanya", ["Osma"]⟩, ⟨"Pahawh_Hmong", ["Hmng"]⟩, ⟨"Palmyrene", ["Palm"]⟩,
  ⟨"Pau_Cin_Hau", ["Pauc"]⟩, ⟨"Phags_Pa", ["Phag"]⟩, ⟨"Phoenician", ["Phnx"]⟩,
  ⟨"Psalter_Pahlavi", ["Phlp"]⟩, ⟨"Rejang", ["Rjng"]⟩, ⟨"Runic", ["Runr"]⟩,
  ⟨"Samaritan", ["Samr"]⟩, ⟨"Saurashtra", ["Saur"]⟩, ⟨"Sharada", ["Shrd"]⟩,
  ⟨"Shavian", ["Shaw"]⟩, ⟨"Siddham", ["Sidd"]⟩, ⟨"SignWriting", ["Sgnw"]⟩, ⟨"Sinhala", ["Sinh"]⟩,
  ⟨"Sogdian", ["Sogd"]⟩, ⟨"Sora_Sompeng", ["Sora"]⟩, ⟨"Soyombo", ["Soyo"]⟩,
  ⟨"Sundanese", ["Sund"]⟩, ⟨"Sunuwar", ["Sunu"]⟩, ⟨"Syloti_Nagri", ["Sylo"]⟩,
  ⟨"Syriac", ["Syrc"]⟩, ⟨"Tagalog", ["Tglg"]⟩, ⟨"Tagbanwa", ["Tagb"]⟩, ⟨"Tai_Le", ["Tale"]⟩,
  ⟨"Tai_Tham", ["Lana"]⟩, ⟨"Tai_Viet", ["Tavt"]⟩, ⟨"Takri", ["Takr"]⟩, ⟨"Tamil", ["Taml"]⟩,
  ⟨"Tangsa", ["Tnsa"]⟩, ⟨"Tangut", ["Tang"]⟩, ⟨"Telugu", ["Telu"]⟩, ⟨"Thaana", ["Thaa"]⟩,
  ⟨"Thai", []⟩, ⟨"Tibetan", ["Tibt"]⟩, ⟨"Tifinagh", ["Tfng"]⟩, ⟨"Tirhuta", ["Tirh"]⟩,
  ⟨"Todhri", ["Todr"]⟩, ⟨"Toto", []⟩, ⟨"Tulu_Tigalari", ["Tutg"]⟩, ⟨"Ugaritic", ["Ugar"]⟩,
  ⟨"Vai", ["Vaii"]⟩, ⟨"Vithkuqi", ["Vith"]⟩, ⟨"Wancho", ["Wcho"]⟩, ⟨"Warang_Citi", ["Wara"]⟩,
  ⟨"Yezidi", ["Yezi"]⟩, ⟨"Yi", ["Yiii"]⟩, ⟨"Zanabazar_Square", ["Zanb"]⟩]

/-- The runs that start between U+0041 and U+1B4D. -/
def runsFrom0041 : List (Nat × Nat) := [
  (0x41, 73), (0x5B, 24), (0x61, 73), (0x7B, 24), (0xAA, 73), (0xAB, 24), (0xBA, 73), (0xBB, 24),
  (0xC0, 73), (0xD7, 24), (0xD8, 73), (0xF7, 24), (0xF8, 73), (0x2B9, 24), (0x2E0, 73),
  (0x2E5, 24), (0x2EA, 12), (0x2EC, 24), (0x300, 57), (0x370, 44), (0x374, 24), (0x375, 44),
  (0x378, 170), (0x37A, 44), (0x37E, 24), (0x37F, 44), (0x380, 170), (0x384, 44), (0x385, 24),
  (0x386, 44), (0x387, 24), (0x388, 44), (0x38B, 170), (0x38C, 44), (0x38D, 170), (0x38E, 44),
  (0x3A2, 170), (0x3A3, 44), (0x3E2, 25), (0x3F0, 44), (0x400, 29), (0x485, 57), (0x487, 29),
  (0x530, 170), (0x531, 4), (0x557, 170), (0x559, 4), (0x58B, 170), (0x58D, 4), (0x590, 170),
  (0x591, 54), (0x5C8, 170), (0x5D0, 54), (0x5EB, 170), (0x5EF, 54), (0x5F5, 170), (0x600, 3),
  (0x605, 24), (0x606, 3), (0x60C, 24), (0x60D, 3), (0x61B, 24), (0x61C, 3), (0x61F, 24),
  (0x620, 3), (0x640, 24), (0x641, 3), (0x64B, 57), (0x656, 3), (0x670, 57), (0x671, 3),
  (0x6DD, 24), (0x6DE, 3), (0x700, 143), (0x70E, 170), (0x70F, 143), (0x74B, 170), (0x74D, 143),
  (0x750, 3), (0x780, 154), (0x7B2, 170), (0x7C0, 104), (0x7FB, 170), (0x7FD, 104), (0x800, 130),
  (0x82E, 170), (0x830, 130), (0x83F, 170), (0x840, 84), (0x85C, 170), (0x85E, 84), (0x85F, 170),
  (0x860, 143), (0x86B, 170), (0x870, 3), (0x88F, 170), (0x890, 3), (0x892, 170), (0x897, 3),
  (0x8E2, 24), (0x8E3, 3), (0x900, 31), (0x951, 57), (0x955, 31), (0x964, 24), (0x966, 31),
  (0x980, 10), (0x984, 170), (0x985, 10), (0x98D, 170), (0x98F, 10), (0x991, 170), (0x993, 10),
  (0x9A9, 170), (0x9AA, 10), (0x9B1, 170), (0x9B2, 10), (0x9B3, 170), (0x9B6, 10), (0x9BA, 170),
  (0x9BC, 10), (0x9C5, 170), (0x9C7, 10), (0x9C9, 170), (0x9CB, 10), (0x9CF, 170), (0x9D7, 10),
  (0x9D8, 170), (0x9DC, 10), (0x9DE, 170), (0x9DF, 10), (0x9E4, 170), (0x9E6, 10), (0x9FF, 170),
  (0xA01, 47), (0xA04, 170), (0xA05, 47), (0xA0B, 170), (0xA0F, 47), (0xA11, 170), (0xA13, 47),
  (0xA29, 170), (0xA2A, 47), (0xA31, 170), (0xA32, 47), (0xA34, 170), (0xA35, 47), (0xA37, 170),
  (0xA38, 47), (0xA3A, 170), (0xA3C, 47), (0xA3D, 170), (0xA3E, 47), (0xA43, 170), (0xA47, 47),
  (0xA49, 170), (0xA4B, 47), (0xA4E, 170), (0xA51, 47), (0xA52, 170), (0xA59, 47), (0xA5D, 170),
  (0xA5E, 47), (0xA5F, 170), (0xA66, 47), (0xA77, 170), (0xA81, 45), (0xA84, 170), (0xA85, 45),
  (0xA8E, 170), (0xA8F, 45), (0xA92, 170), (0xA93, 45), (0xAA9, 170), (0xAAA, 45), (0xAB1, 170),
  (0xAB2, 45), (0xAB4, 170), (0xAB5, 45), (0xABA, 170), (0xABC, 45), (0xAC6, 170), (0xAC7, 45),
  (0xACA, 170), (0xACB, 45), (0xACE, 170), (0xAD0, 45), (0xAD1, 170), (0xAE0, 45), (0xAE4, 170),
  (0xAE6, 45), (0xAF2, 170), (0xAF9, 45), (0xB00, 170), (0xB01, 119), (0xB04, 170), (0xB05, 119),
  (0xB0D, 170), (0xB0F, 119), (0xB11, 170), (0xB13, 119), (0xB29, 170), (0xB2A, 119),
  (0xB31, 170), (0xB32, 119), (0xB34, 170), (0xB35, 119), (0xB3A, 170), (0xB3C, 119),
  (0xB45, 170), (0xB47, 119), (0xB49, 170), (0xB4B, 119), (0xB4E, 170), (0xB55, 119),
  (0xB58, 170), (0xB5C, 119), (0xB5E, 170), (0xB5F, 119), (0xB64, 170), (0xB66, 119),
  (0xB78, 170), (0xB82, 150), (0xB84, 170), (0xB85, 150), (0xB8B, 170), (0xB8E, 150),
  (0xB91, 170), (0xB92, 150), (0xB96, 170), (0xB99, 150), (0xB9B, 170), (0xB9C, 150),
  (0xB9D, 170), (0xB9E, 150), (0xBA0, 170), (0xBA3, 150), (0xBA5, 170), (0xBA8, 150),
  (0xBAB, 170), (0xBAE, 150), (0xBBA, 170), (0xBBE, 150), (0xBC3, 170), (0xBC6, 150),
  (0xBC9, 170), (0xBCA, 150), (0xBCE, 170), (0xBD0, 150), (0xBD1, 170), (0xBD7, 150),
  (0xBD8, 170), (0xBE6, 150), (0xBFB, 170), (0xC00, 153), (0xC0D, 170), (0xC0E, 153),
  (0xC11, 170), (0xC12, 153), (0xC29, 170), (0xC2A, 153), (0xC3A, 170), (0xC3C, 153),
  (0xC45, 170), (0xC46, 153), (0xC49, 170), (0xC4A, 153), (0xC4E, 170), (0xC55, 153),
  (0xC57, 170), (0xC58, 153), (0xC5B, 170), (0xC5D, 153), (0xC5E, 170), (0xC60, 153),
  (0xC64, 170), (0xC66, 153), (0xC70, 170), (0xC77, 153), (0xC80, 62), (0xC8D, 170), (0xC8E, 62),
  (0xC91, 170), (0xC92, 62), (0xCA9, 170), (0xCAA, 62), (0xCB4, 170), (0xCB5, 62), (0xCBA, 170),
  (0xCBC, 62), (0xCC5, 170), (0xCC6, 62), (0xCC9, 170), (0xCCA, 62), (0xCCE, 170), (0xCD5, 62),
  (0xCD7, 170), (0xCDD, 62), (0xCDF, 170), (0xCE0, 62), (0xCE4, 170), (0xCE6, 62), (0xCF0, 170),
  (0xCF1, 62), (0xCF4, 170), (0xD00, 83), (0xD0D, 170), (0xD0E, 83), (0xD11, 170), (0xD12, 83),
  (0xD45, 170), (0xD46, 83), (0xD49, 170), (0xD4A, 83), (0xD50, 170), (0xD54, 83), (0xD64, 170),
  (0xD66, 83), (0xD80, 170), (0xD81, 136), (0xD84, 170), (0xD85, 136), (0xD97, 170),
  (0xD9A, 136), (0xDB2, 170), (0xDB3, 136), (0xDBC, 170), (0xDBD, 136), (0xDBE, 170),
  (0xDC0, 136), (0xDC7, 170), (0xDCA, 136), (0xDCB, 170), (0xDCF, 136), (0xDD5, 170),
  (0xDD6, 136), (0xDD7, 170), (0xDD8, 136), (0xDE0, 170), (0xDE6, 136), (0xDF0, 170),
  (0xDF2, 136), (0xDF5, 170), (0xE01, 155), (0xE3B, 170), (0xE3F, 24), (0xE40, 155),
  (0xE5C, 170), (0xE81, 72), (0xE83, 170), (0xE84, 72), (0xE85, 170), (0xE86, 72), (0xE8B, 170),
  (0xE8C, 72), (0xEA4, 170), (0xEA5, 72), (0xEA6, 170), (0xEA7, 72), (0xEBE, 170), (0xEC0, 72),
  (0xEC5, 170), (0xEC6, 72), (0xEC7, 170), (0xEC8, 72), (0xECF, 170), (0xED0, 72), (0xEDA, 170),
  (0xEDC, 72), (0xEE0, 170), (0xF00, 156), (0xF48, 170), (0xF49, 156), (0xF6D, 170),
  (0xF71, 156), (0xF98, 170), (0xF99, 156), (0xFBD, 170), (0xFBE, 156), (0xFCD, 170),
  (0xFCE, 156), (0xFD5, 24), (0xFD9, 156), (0xFDB, 170), (0x1000, 98), (0x10A0, 40),
  (0x10C6, 170), (0x10C7, 40), (0x10C8, 170), (0x10CD, 40), (0x10CE, 170), (0x10D0, 40),
  (0x10FB, 24), (0x10FC, 40), (0x1100, 50), (0x1200, 38), (0x1249, 170), (0x124A, 38),
  (0x124E, 170), (0x1250, 38), (0x1257, 170), (0x1258, 38), (0x1259, 170), (0x125A, 38),
  (0x125E, 170), (0x1260, 38), (0x1289, 170), (0x128A, 38), (0x128E, 170), (0x1290, 38),
  (0x12B1, 170), (0x12B2, 38), (0x12B6, 170), (0x12B8, 38), (0x12BF, 170), (0x12C0, 38),
  (0x12C1, 170), (0x12C2, 38), (0x12C6, 170), (0x12C8, 38), (0x12D7, 170), (0x12D8, 38),
  (0x1311, 170), (0x1312, 38), (0x1316, 170), (0x1318, 38), (0x135B, 170), (0x135D, 38),
  (0x137D, 170), (0x1380, 38), (0x139A, 170), (0x13A0, 22), (0x13F6, 170), (0x13F8, 22),
  (0x13FE, 170), (0x1400, 17), (0x1680, 107), (0x169D, 170), (0x16A0, 129), (0x16EB, 24),
  (0x16EE, 129), (0x16F9, 170), (0x1700, 144), (0x1716, 170), (0x171F, 144), (0x1720, 52),
  (0x1735, 24), (0x1737, 170), (0x1740, 16), (0x1754, 170), (0x1760, 145), (0x176D, 170),
  (0x176E, 145), (0x1771, 170), (0x1772, 145), (0x1774, 170), (0x1780, 68), (0x17DE, 170),
  (0x17E0, 68), (0x17EA, 170), (0x17F0, 68), (0x17FA, 170), (0x1800, 95), (0x1802, 24),
  (0x1804, 95), (0x1805, 24), (0x1806, 95), (0x181A, 170), (0x1820, 95), (0x1879, 170),
  (0x1880, 95), (0x18AB, 170), (0x18B0, 17), (0x18F6, 170), (0x1900, 75), (0x191F, 170),
  (0x1920, 75), (0x192C, 170), (0x1930, 75), (0x193C, 170), (0x1940, 75), (0x1941, 170),
  (0x1944, 75), (0x1950, 146), (0x196E, 170), (0x1970, 146), (0x1975, 170), (0x1980, 102),
  (0x19AC, 170), (0x19B0, 102), (0x19CA, 170), (0x19D0, 102), (0x19DB, 170), (0x19DE, 102),
  (0x19E0, 68), (0x1A00, 15), (0x1A1C, 170), (0x1A1E, 15), (0x1A20, 147), (0x1A5F, 170),
  (0x1A60, 147), (0x1A7D, 170), (0x1A7F, 147), (0x1A8A, 170), (0x1A90, 147), (0x1A9A, 170),
  (0x1AA0, 147), (0x1AAE, 170), (0x1AB0, 57), (0x1ACF, 170), (0x1B00, 6), (0x1B4D, 170)]

/-- The runs that start between U+1B4E and U+10A59. -/
def runsFrom1B4E : List (Nat × Nat) := [
  (0x1B4E, 6), (0x1B80, 140), (0x1BC0, 9), (0x1BF4, 170), (0x1BFC, 9), (0x1C00, 74),
  (0x1C38, 170), (0x1C3B, 74), (0x1C4A, 170), (0x1C4D, 74), (0x1C50, 108), (0x1C80, 29),
  (0x1C8B, 170), (0x1C90, 40), (0x1CBB, 170), (0x1CBD, 40), (0x1CC0, 140), (0x1CC8, 170),
  (0x1CD0, 57), (0x1CD3, 24), (0x1CD4, 57), (0x1CE1, 24), (0x1CE2, 57), (0x1CE9, 24),
  (0x1CED, 57), (0x1CEE, 24), (0x1CF4, 57), (0x1CF5, 24), (0x1CF8, 57), (0x1CFA, 24),
  (0x1CFB, 170), (0x1D00, 73), (0x1D26, 44), (0x1D2B, 29), (0x1D2C, 73), (0x1D5D, 44),
  (0x1D62, 73), (0x1D66, 44), (0x1D6B, 73), (0x1D78, 29), (0x1D79, 73), (0x1DBF, 44),
  (0x1DC0, 57), (0x1E00, 73), (0x1F00, 44), (0x1F16, 170), (0x1F18, 44), (0x1F1E, 170),
  (0x1F20, 44), (0x1F46, 170), (0x1F48, 44), (0x1F4E, 170), (0x1F50, 44), (0x1F58, 170),
  (0x1F59, 44), (0x1F5A, 170), (0x1F5B, 44), (0x1F5C, 170), (0x1F5D, 44), (0x1F5E, 170),
  (0x1F5F, 44), (0x1F7E, 170), (0x1F80, 44), (0x1FB5, 170), (0x1FB6, 44), (0x1FC5, 170),
  (0x1FC6, 44), (0x1FD4, 170), (0x1FD6, 44), (0x1FDC, 170), (0x1FDD, 44), (0x1FF0, 170),
  (0x1FF2, 44), (0x1FF5, 170), (0x1FF6, 44), (0x1FFF, 170), (0x2000, 24), (0x200C, 57),
  (0x200E, 24), (0x2065, 170), (0x2066, 24), (0x2071, 73), (0x2072, 170), (0x2074, 24),
  (0x207F, 73), (0x2080, 24), (0x208F, 170), (0x2090, 73), (0x209D, 170), (0x20A0, 24),
  (0x20C1, 170), (0x20D0, 57), (0x20F1, 170), (0x2100, 24), (0x2126, 44), (0x2127, 24),
  (0x212A, 73), (0x212C, 24), (0x2132, 73), (0x2133, 24), (0x214E, 73), (0x214F, 24),
  (0x2160, 73), (0x2189, 24), (0x218C, 170), (0x2190, 24), (0x242A, 170), (0x2440, 24),
  (0x244B, 170), (0x2460, 24), (0x2800, 14), (0x2900, 24), (0x2B74, 170), (0x2B76, 24),
  (0x2B96, 170), (0x2B97, 24), (0x2C00, 41), (0x2C60, 73), (0x2C80, 25), (0x2CF4, 170),
  (0x2CF9, 25), (0x2D00, 40), (0x2D26, 170), (0x2D27, 40), (0x2D28, 170), (0x2D2D, 40),
  (0x2D2E, 170), (0x2D30, 157), (0x2D68, 170), (0x2D6F, 157), (0x2D71, 170), (0x2D7F, 157),
  (0x2D80, 38), (0x2D97, 170), (0x2DA0, 38), (0x2DA7, 170), (0x2DA8, 38), (0x2DAF, 170),
  (0x2DB0, 38), (0x2DB7, 170), (0x2DB8, 38), (0x2DBF, 170), (0x2DC0, 38), (0x2DC7, 170),
  (0x2DC8, 38), (0x2DCF, 170), (0x2DD0, 38), (0x2DD7, 170), (0x2DD8, 38), (0x2DDF, 170),
  (0x2DE0, 29), (0x2E00, 24), (0x2E5E, 170), (0x2E80, 49), (0x2E9A, 170), (0x2E9B, 49),
  (0x2EF4, 170), (0x2F00, 49), (0x2FD6, 170), (0x2FF0, 24), (0x3005, 49), (0x3006, 24),
  (0x3007, 49), (0x3008, 24), (0x3021, 49), (0x302A, 57), (0x302E, 50), (0x3030, 24),
  (0x3038, 49), (0x303C, 24), (0x3040, 170), (0x3041, 55), (0x3097, 170), (0x3099, 57),
  (0x309B, 24), (0x309D, 55), (0x30A0, 24), (0x30A1, 63), (0x30FB, 24), (0x30FD, 63),
  (0x3100, 170), (0x3105, 12), (0x3130, 170), (0x3131, 50), (0x318F, 170), (0x3190, 24),
  (0x31A0, 12), (0x31C0, 24), (0x31E6, 170), (0x31EF, 24), (0x31F0, 63), (0x3200, 50),
  (0x321F, 170), (0x3220, 24), (0x3260, 50), (0x327F, 24), (0x32D0, 63), (0x32FF, 24),
  (0x3300, 63), (0x3358, 24), (0x3400, 49), (0x4DC0, 24), (0x4E00, 49), (0xA000, 168),
  (0xA48D, 170), (0xA490, 168), (0xA4C7, 170), (0xA4D0, 78), (0xA500, 163), (0xA62C, 170),
  (0xA640, 29), (0xA6A0, 7), (0xA6F8, 170), (0xA700, 24), (0xA722, 73), (0xA788, 24),
  (0xA78B, 73), (0xA7CE, 170), (0xA7D0, 73), (0xA7D2, 170), (0xA7D3, 73), (0xA7D4, 170),
  (0xA7D5, 73), (0xA7DD, 170), (0xA7F2, 73), (0xA800, 142), (0xA82D, 170), (0xA830, 24),
  (0xA83A, 170), (0xA840, 125), (0xA878, 170), (0xA880, 131), (0xA8C6, 170), (0xA8CE, 131),
  (0xA8DA, 170), (0xA8E0, 31), (0xA900, 65), (0xA92E, 24), (0xA92F, 65), (0xA930, 128),
  (0xA954, 170), (0xA95F, 128), (0xA960, 50), (0xA97D, 170), (0xA980, 60), (0xA9CE, 170),
  (0xA9CF, 24), (0xA9D0, 60), (0xA9DA, 170), (0xA9DE, 60), (0xA9E0, 98), (0xA9FF, 170),
  (0xAA00, 21), (0xAA37, 170), (0xAA40, 21), (0xAA4E, 170), (0xAA50, 21), (0xAA5A, 170),
  (0xAA5C, 21), (0xAA60, 98), (0xAA80, 148), (0xAAC3, 170), (0xAADB, 148), (0xAAE0, 89),
  (0xAAF7, 170), (0xAB01, 38), (0xAB07, 170), (0xAB09, 38), (0xAB0F, 170), (0xAB11, 38),
  (0xAB17, 170), (0xAB20, 38), (0xAB27, 170), (0xAB28, 38), (0xAB2F, 170), (0xAB30, 73),
  (0xAB5B, 24), (0xAB5C, 73), (0xAB65, 44), (0xAB66, 73), (0xAB6A, 24), (0xAB6C, 170),
  (0xAB70, 22), (0xABC0, 89), (0xABEE, 170), (0xABF0, 89), (0xABFA, 170), (0xAC00, 50),
  (0xD7A4, 170), (0xD7B0, 50), (0xD7C7, 170), (0xD7CB, 50), (0xD7FC, 170), (0xF900, 49),
  (0xFA6E, 170), (0xFA70, 49), (0xFADA, 170), (0xFB00, 73), (0xFB07, 170), (0xFB13, 4),
  (0xFB18, 170), (0xFB1D, 54), (0xFB37, 170), (0xFB38, 54), (0xFB3D, 170), (0xFB3E, 54),
  (0xFB3F, 170), (0xFB40, 54), (0xFB42, 170), (0xFB43, 54), (0xFB45, 170), (0xFB46, 54),
  (0xFB50, 3), (0xFBC3, 170), (0xFBD3, 3), (0xFD3E, 24), (0xFD40, 3), (0xFD90, 170), (0xFD92, 3),
  (0xFDC8, 170), (0xFDCF, 3), (0xFDD0, 170), (0xFDF0, 3), (0xFE00, 57), (0xFE10, 24),
  (0xFE1A, 170), (0xFE20, 57), (0xFE2E, 29), (0xFE30, 24), (0xFE53, 170), (0xFE54, 24),
  (0xFE67, 170), (0xFE68, 24), (0xFE6C, 170), (0xFE70, 3), (0xFE75, 170), (0xFE76, 3),
  (0xFEFD, 170), (0xFEFF, 24), (0xFF00, 170), (0xFF01, 24), (0xFF21, 73), (0xFF3B, 24),
  (0xFF41, 73), (0xFF5B, 24), (0xFF66, 63), (0xFF70, 24), (0xFF71, 63), (0xFF9E, 24),
  (0xFFA0, 50), (0xFFBF, 170), (0xFFC2, 50), (0xFFC8, 170), (0xFFCA, 50), (0xFFD0, 170),
  (0xFFD2, 50), (0xFFD8, 170), (0xFFDA, 50), (0xFFDD, 170), (0xFFE0, 24), (0xFFE7, 170),
  (0xFFE8, 24), (0xFFEF, 170), (0xFFF9, 24), (0xFFFE, 170), (0x10000, 77), (0x1000C, 170),
  (0x1000D, 77), (0x10027, 170), (0x10028, 77), (0x1003B, 170), (0x1003C, 77), (0x1003E, 170),
  (0x1003F, 77), (0x1004E, 170), (0x10050, 77), (0x1005E, 170), (0x10080, 77), (0x100FB, 170),
  (0x10100, 24), (0x10103, 170), (0x10107, 24), (0x10134, 170), (0x10137, 24), (0x10140, 44),
  (0x1018F, 170), (0x10190, 24), (0x1019D, 170), (0x101A0, 44), (0x101A1, 170), (0x101D0, 24),
  (0x101FD, 57), (0x101FE, 170), (0x10280, 79), (0x1029D, 170), (0x102A0, 18), (0x102D1, 170),
  (0x102E0, 57), (0x102E1, 24), (0x102FC, 170), (0x10300, 111), (0x10324, 170), (0x1032D, 111),
  (0x10330, 42), (0x1034B, 170), (0x10350, 113), (0x1037B, 170), (0x10380, 162), (0x1039E, 170),
  (0x1039F, 162), (0x103A0, 114), (0x103C4, 170), (0x103C8, 114), (0x103D6, 170), (0x10400, 30),
  (0x10450, 133), (0x10480, 121), (0x1049E, 170), (0x104A0, 121), (0x104AA, 170), (0x104B0, 120),
  (0x104D4, 170), (0x104D8, 120), (0x104FC, 170), (0x10500, 36), (0x10528, 170), (0x10530, 19),
  (0x10564, 170), (0x1056F, 19), (0x10570, 164), (0x1057B, 170), (0x1057C, 164), (0x1058B, 170),
  (0x1058C, 164), (0x10593, 170), (0x10594, 164), (0x10596, 170), (0x10597, 164), (0x105A2, 170),
  (0x105A3, 164), (0x105B2, 170), (0x105B3, 164), (0x105BA, 170), (0x105BB, 164), (0x105BD, 170),
  (0x105C0, 159), (0x105F4, 170), (0x10600, 76), (0x10737, 170), (0x10740, 76), (0x10756, 170),
  (0x10760, 76), (0x10768, 170), (0x10780, 73), (0x10786, 170), (0x10787, 73), (0x107B1, 170),
  (0x107B2, 73), (0x107BB, 170), (0x10800, 27), (0x10806, 170), (0x10808, 27), (0x10809, 170),
  (0x1080A, 27), (0x10836, 170), (0x10837, 27), (0x10839, 170), (0x1083C, 27), (0x1083D, 170),
  (0x1083F, 27), (0x10840, 56), (0x10856, 170), (0x10857, 56), (0x10860, 123), (0x10880, 99),
  (0x1089F, 170), (0x108A7, 99), (0x108B0, 170), (0x108E0, 53), (0x108F3, 170), (0x108F4, 53),
  (0x108F6, 170), (0x108FB, 53), (0x10900, 126), (0x1091C, 170), (0x1091F, 126), (0x10920, 80),
  (0x1093A, 170), (0x1093F, 80), (0x10940, 170), (0x10980, 92), (0x109A0, 91), (0x109B8, 170),
  (0x109BC, 91), (0x109D0, 170), (0x109D2, 91), (0x10A00, 66), (0x10A04, 170), (0x10A05, 66),
  (0x10A07, 170), (0x10A0C, 66), (0x10A14, 170), (0x10A15, 66), (0x10A18, 170), (0x10A19, 66),
  (0x10A36, 170), (0x10A38, 66), (0x10A3B, 170), (0x10A3F, 66), (0x10A49, 170), (0x10A50, 66),
  (0x10A59, 170)]

/-- The runs that start between U+10A60 and U+1E95E. -/
def runsFrom10A60 : List (Nat × Nat) := [
  (0x10A60, 116), (0x10A80, 112), (0x10AA0, 170), (0x10AC0, 85), (0x10AE7, 170), (0x10AEB, 85),
  (0x10AF7, 170), (0x10B00, 5), (0x10B36, 170), (0x10B39, 5), (0x10B40, 59), (0x10B56, 170),
  (0x10B58, 59), (0x10B60, 58), (0x10B73, 170), (0x10B78, 58), (0x10B80, 127), (0x10B92, 170),
  (0x10B99, 127), (0x10B9D, 170), (0x10BA9, 127), (0x10BB0, 170), (0x10C00, 117), (0x10C49, 170),
  (0x10C80, 110), (0x10CB3, 170), (0x10CC0, 110), (0x10CF3, 170), (0x10CFA, 110), (0x10D00, 51),
  (0x10D28, 170), (0x10D30, 51), (0x10D3A, 170), (0x10D40, 39), (0x10D66, 170), (0x10D69, 39),
  (0x10D86, 170), (0x10D8E, 39), (0x10D90, 170), (0x10E60, 3), (0x10E7F, 170), (0x10E80, 167),
  (0x10EAA, 170), (0x10EAB, 167), (0x10EAE, 170), (0x10EB0, 167), (0x10EB2, 170), (0x10EC2, 3),
  (0x10EC5, 170), (0x10EFC, 3), (0x10F00, 115), (0x10F28, 170), (0x10F30, 137), (0x10F5A, 170),
  (0x10F70, 118), (0x10F8A, 170), (0x10FB0, 23), (0x10FCC, 170), (0x10FE0, 37), (0x10FF7, 170),
  (0x11000, 13), (0x1104E, 170), (0x11052, 13), (0x11076, 170), (0x1107F, 13), (0x11080, 61),
  (0x110C3, 170), (0x110CD, 61), (0x110CE, 170), (0x110D0, 138), (0x110E9, 170), (0x110F0, 138),
  (0x110FA, 170), (0x11100, 20), (0x11135, 170), (0x11136, 20), (0x11148, 170), (0x11150, 81),
  (0x11177, 170), (0x11180, 132), (0x111E0, 170), (0x111E1, 136), (0x111F5, 170), (0x11200, 69),
  (0x11212, 170), (0x11213, 69), (0x11242, 170), (0x11280, 97), (0x11287, 170), (0x11288, 97),
  (0x11289, 170), (0x1128A, 97), (0x1128E, 170), (0x1128F, 97), (0x1129E, 170), (0x1129F, 97),
  (0x112AA, 170), (0x112B0, 70), (0x112EB, 170), (0x112F0, 70), (0x112FA, 170), (0x11300, 43),
  (0x11304, 170), (0x11305, 43), (0x1130D, 170), (0x1130F, 43), (0x11311, 170), (0x11313, 43),
  (0x11329, 170), (0x1132A, 43), (0x11331, 170), (0x11332, 43), (0x11334, 170), (0x11335, 43),
  (0x1133A, 170), (0x1133B, 57), (0x1133C, 43), (0x11345, 170), (0x11347, 43), (0x11349, 170),
  (0x1134B, 43), (0x1134E, 170), (0x11350, 43), (0x11351, 170), (0x11357, 43), (0x11358, 170),
  (0x1135D, 43), (0x11364, 170), (0x11366, 43), (0x1136D, 170), (0x11370, 43), (0x11375, 170),
  (0x11380, 161), (0x1138A, 170), (0x1138B, 161), (0x1138C, 170), (0x1138E, 161), (0x1138F, 170),
  (0x11390, 161), (0x113B6, 170), (0x113B7, 161), (0x113C1, 170), (0x113C2, 161), (0x113C3, 170),
  (0x113C5, 161), (0x113C6, 170), (0x113C7, 161), (0x113CB, 170), (0x113CC, 161), (0x113D6, 170),
  (0x113D7, 161), (0x113D9, 170), (0x113E1, 161), (0x113E3, 170), (0x11400, 103), (0x1145C, 170),
  (0x1145D, 103), (0x11462, 170), (0x11480, 158), (0x114C8, 170), (0x114D0, 158), (0x114DA, 170),
  (0x11580, 134), (0x115B6, 170), (0x115B8, 134), (0x115DE, 170), (0x11600, 94), (0x11645, 170),
  (0x11650, 94), (0x1165A, 170), (0x11660, 95), (0x1166D, 170), (0x11680, 149), (0x116BA, 170),
  (0x116C0, 149), (0x116CA, 170), (0x116D0, 98), (0x116E4, 170), (0x11700, 1), (0x1171B, 170),
  (0x1171D, 1), (0x1172C, 170), (0x11730, 1), (0x11747, 170), (0x11800, 33), (0x1183C, 170),
  (0x118A0, 166), (0x118F3, 170), (0x118FF, 166), (0x11900, 32), (0x11907, 170), (0x11909, 32),
  (0x1190A, 170), (0x1190C, 32), (0x11914, 170), (0x11915, 32), (0x11917, 170), (0x11918, 32),
  (0x11936, 170), (0x11937, 32), (0x11939, 170), (0x1193B, 32), (0x11947, 170), (0x11950, 32),
  (0x1195A, 170), (0x119A0, 101), (0x119A8, 170), (0x119AA, 101), (0x119D8, 170), (0x119DA, 101),
  (0x119E5, 170), (0x11A00, 169), (0x11A48, 170), (0x11A50, 139), (0x11AA3, 170), (0x11AB0, 17),
  (0x11AC0, 124), (0x11AF9, 170), (0x11B00, 31), (0x11B0A, 170), (0x11BC0, 141), (0x11BE2, 170),
  (0x11BF0, 141), (0x11BFA, 170), (0x11C00, 11), (0x11C09, 170), (0x11C0A, 11), (0x11C37, 170),
  (0x11C38, 11), (0x11C46, 170), (0x11C50, 11), (0x11C6D, 170), (0x11C70, 86), (0x11C90, 170),
  (0x11C92, 86), (0x11CA8, 170), (0x11CA9, 86), (0x11CB7, 170), (0x11D00, 87), (0x11D07, 170),
  (0x11D08, 87), (0x11D0A, 170), (0x11D0B, 87), (0x11D37, 170), (0x11D3A, 87), (0x11D3B, 170),
  (0x11D3C, 87), (0x11D3E, 170), (0x11D3F, 87), (0x11D48, 170), (0x11D50, 87), (0x11D5A, 170),
  (0x11D60, 46), (0x11D66, 170), (0x11D67, 46), (0x11D69, 170), (0x11D6A, 46), (0x11D8F, 170),
  (0x11D90, 46), (0x11D92, 170), (0x11D93, 46), (0x11D99, 170), (0x11DA0, 46), (0x11DAA, 170),
  (0x11EE0, 82), (0x11EF9, 170), (0x11F00, 64), (0x11F11, 170), (0x11F12, 64), (0x11F3B, 170),
  (0x11F3E, 64), (0x11F5B, 170), (0x11FB0, 78), (0x11FB1, 170), (0x11FC0, 150), (0x11FF2, 170),
  (0x11FFF, 150), (0x12000, 26), (0x1239A, 170), (0x12400, 26), (0x1246F, 170), (0x12470, 26),
  (0x12475, 170), (0x12480, 26), (0x12544, 170), (0x12F90, 28), (0x12FF3, 170), (0x13000, 35),
  (0x13456, 170), (0x13460, 35), (0x143FB, 170), (0x14400, 2), (0x14647, 170), (0x16100, 48),
  (0x1613A, 170), (0x16800, 7), (0x16A39, 170), (0x16A40, 96), (0x16A5F, 170), (0x16A60, 96),
  (0x16A6A, 170), (0x16A6E, 96), (0x16A70, 151), (0x16ABF, 170), (0x16AC0, 151), (0x16ACA, 170),
  (0x16AD0, 8), (0x16AEE, 170), (0x16AF0, 8), (0x16AF6, 170), (0x16B00, 122), (0x16B46, 170),
  (0x16B50, 122), (0x16B5A, 170), (0x16B5B, 122), (0x16B62, 170), (0x16B63, 122), (0x16B78, 170),
  (0x16B7D, 122), (0x16B90, 170), (0x16D40, 71), (0x16D7A, 170), (0x16E40, 88), (0x16E9B, 170),
  (0x16F00, 93), (0x16F4B, 170), (0x16F4F, 93), (0x16F88, 170), (0x16F8F, 93), (0x16FA0, 170),
  (0x16FE0, 152), (0x16FE1, 105), (0x16FE2, 49), (0x16FE4, 67), (0x16FE5, 170), (0x16FF0, 49),
  (0x16FF2, 170), (0x17000, 152), (0x187F8, 170), (0x18800, 152), (0x18B00, 67), (0x18CD6, 170),
  (0x18CFF, 67), (0x18D00, 152), (0x18D09, 170), (0x1AFF0, 63), (0x1AFF4, 170), (0x1AFF5, 63),
  (0x1AFFC, 170), (0x1AFFD, 63), (0x1AFFF, 170), (0x1B000, 63), (0x1B001, 55), (0x1B120, 63),
  (0x1B123, 170), (0x1B132, 55), (0x1B133, 170), (0x1B150, 55), (0x1B153, 170), (0x1B155, 63),
  (0x1B156, 170), (0x1B164, 63), (0x1B168, 170), (0x1B170, 105), (0x1B2FC, 170), (0x1BC00, 34),
  (0x1BC6B, 170), (0x1BC70, 34), (0x1BC7D, 170), (0x1BC80, 34), (0x1BC89, 170), (0x1BC90, 34),
  (0x1BC9A, 170), (0x1BC9C, 34), (0x1BCA0, 24), (0x1BCA4, 170), (0x1CC00, 24), (0x1CCFA, 170),
  (0x1CD00, 24), (0x1CEB4, 170), (0x1CF00, 57), (0x1CF2E, 170), (0x1CF30, 57), (0x1CF47, 170),
  (0x1CF50, 24), (0x1CFC4, 170), (0x1D000, 24), (0x1D0F6, 170), (0x1D100, 24), (0x1D127, 170),
  (0x1D129, 24), (0x1D167, 57), (0x1D16A, 24), (0x1D17B, 57), (0x1D183, 24), (0x1D185, 57),
  (0x1D18C, 24), (0x1D1AA, 57), (0x1D1AE, 24), (0x1D1EB, 170), (0x1D200, 44), (0x1D246, 170),
  (0x1D2C0, 24), (0x1D2D4, 170), (0x1D2E0, 24), (0x1D2F4, 170), (0x1D300, 24), (0x1D357, 170),
  (0x1D360, 24), (0x1D379, 170), (0x1D400, 24), (0x1D455, 170), (0x1D456, 24), (0x1D49D, 170),
  (0x1D49E, 24), (0x1D4A0, 170), (0x1D4A2, 24), (0x1D4A3, 170), (0x1D4A5, 24), (0x1D4A7, 170),
  (0x1D4A9, 24), (0x1D4AD, 170), (0x1D4AE, 24), (0x1D4BA, 170), (0x1D4BB, 24), (0x1D4BC, 170),
  (0x1D4BD, 24), (0x1D4C4, 170), (0x1D4C5, 24), (0x1D506, 170), (0x1D507, 24), (0x1D50B, 170),
  (0x1D50D, 24), (0x1D515, 170), (0x1D516, 24), (0x1D51D, 170), (0x1D51E, 24), (0x1D53A, 170),
  (0x1D53B, 24), (0x1D53F, 170), (0x1D540, 24), (0x1D545, 170), (0x1D546, 24), (0x1D547, 170),
  (0x1D54A, 24), (0x1D551, 170), (0x1D552, 24), (0x1D6A6, 170), (0x1D6A8, 24), (0x1D7CC, 170),
  (0x1D7CE, 24), (0x1D800, 135), (0x1DA8C, 170), (0x1DA9B, 135), (0x1DAA0, 170), (0x1DAA1, 135),
  (0x1DAB0, 170), (0x1DF00, 73), (0x1DF1F, 170), (0x1DF25, 73), (0x1DF2B, 170), (0x1E000, 41),
  (0x1E007, 170), (0x1E008, 41), (0x1E019, 170), (0x1E01B, 41), (0x1E022, 170), (0x1E023, 41),
  (0x1E025, 170), (0x1E026, 41), (0x1E02B, 170), (0x1E030, 29), (0x1E06E, 170), (0x1E08F, 29),
  (0x1E090, 170), (0x1E100, 106), (0x1E12D, 170), (0x1E130, 106), (0x1E13E, 170), (0x1E140, 106),
  (0x1E14A, 170), (0x1E14E, 106), (0x1E150, 170), (0x1E290, 160), (0x1E2AF, 170), (0x1E2C0, 165),
  (0x1E2FA, 170), (0x1E2FF, 165), (0x1E300, 170), (0x1E4D0, 100), (0x1E4FA, 170), (0x1E5D0, 109),
  (0x1E5FB, 170), (0x1E5FF, 109), (0x1E600, 170), (0x1E7E0, 38), (0x1E7E7, 170), (0x1E7E8, 38),
  (0x1E7EC, 170), (0x1E7ED, 38), (0x1E7EF, 170), (0x1E7F0, 38), (0x1E7FF, 170), (0x1E800, 90),
  (0x1E8C5, 170), (0x1E8C7, 90), (0x1E8D7, 170), (0x1E900, 0), (0x1E94C, 170), (0x1E950, 0),
  (0x1E95A, 170), (0x1E95E, 0)]

/-- The runs that start between U+1E960 and U+E01F0. -/
def runsFrom1E960 : List (Nat × Nat) := [
  (0x1E960, 170), (0x1EC71, 24), (0x1ECB5, 170), (0x1ED01, 24), (0x1ED3E, 170), (0x1EE00, 3),
  (0x1EE04, 170), (0x1EE05, 3), (0x1EE20, 170), (0x1EE21, 3), (0x1EE23, 170), (0x1EE24, 3),
  (0x1EE25, 170), (0x1EE27, 3), (0x1EE28, 170), (0x1EE29, 3), (0x1EE33, 170), (0x1EE34, 3),
  (0x1EE38, 170), (0x1EE39, 3), (0x1EE3A, 170), (0x1EE3B, 3), (0x1EE3C, 170), (0x1EE42, 3),
  (0x1EE43, 170), (0x1EE47, 3), (0x1EE48, 170), (0x1EE49, 3), (0x1EE4A, 170), (0x1EE4B, 3),
  (0x1EE4C, 170), (0x1EE4D, 3), (0x1EE50, 170), (0x1EE51, 3), (0x1EE53, 170), (0x1EE54, 3),
  (0x1EE55, 170), (0x1EE57, 3), (0x1EE58, 170), (0x1EE59, 3), (0x1EE5A, 170), (0x1EE5B, 3),
  (0x1EE5C, 170), (0x1EE5D, 3), (0x1EE5E, 170), (0x1EE5F, 3), (0x1EE60, 170), (0x1EE61, 3),
  (0x1EE63, 170), (0x1EE64, 3), (0x1EE65, 170), (0x1EE67, 3), (0x1EE6B, 170), (0x1EE6C, 3),
  (0x1EE73, 170), (0x1EE74, 3), (0x1EE78, 170), (0x1EE79, 3), (0x1EE7D, 170), (0x1EE7E, 3),
  (0x1EE7F, 170), (0x1EE80, 3), (0x1EE8A, 170), (0x1EE8B, 3), (0x1EE9C, 170), (0x1EEA1, 3),
  (0x1EEA4, 170), (0x1EEA5, 3), (0x1EEAA, 170), (0x1EEAB, 3), (0x1EEBC, 170), (0x1EEF0, 3),
  (0x1EEF2, 170), (0x1F000, 24), (0x1F02C, 170), (0x1F030, 24), (0x1F094, 170), (0x1F0A0, 24),
  (0x1F0AF, 170), (0x1F0B1, 24), (0x1F0C0, 170), (0x1F0C1, 24), (0x1F0D0, 170), (0x1F0D1, 24),
  (0x1F0F6, 170), (0x1F100, 24), (0x1F1AE, 170), (0x1F1E6, 24), (0x1F200, 55), (0x1F201, 24),
  (0x1F203, 170), (0x1F210, 24), (0x1F23C, 170), (0x1F240, 24), (0x1F249, 170), (0x1F250, 24),
  (0x1F252, 170), (0x1F260, 24), (0x1F266, 170), (0x1F300, 24), (0x1F6D8, 170), (0x1F6DC, 24),
  (0x1F6ED, 170), (0x1F6F0, 24), (0x1F6FD, 170), (0x1F700, 24), (0x1F777, 170), (0x1F77B, 24),
  (0x1F7DA, 170), (0x1F7E0, 24), (0x1F7EC, 170), (0x1F7F0, 24), (0x1F7F1, 170), (0x1F800, 24),
  (0x1F80C, 170), (0x1F810, 24), (0x1F848, 170), (0x1F850, 24), (0x1F85A, 170), (0x1F860, 24),
  (0x1F888, 170), (0x1F890, 24), (0x1F8AE, 170), (0x1F8B0, 24), (0x1F8BC, 170), (0x1F8C0, 24),
  (0x1F8C2, 170), (0x1F900, 24), (0x1FA54, 170), (0x1FA60, 24), (0x1FA6E, 170), (0x1FA70, 24),
  (0x1FA7D, 170), (0x1FA80, 24), (0x1FA8A, 170), (0x1FA8F, 24), (0x1FAC7, 170), (0x1FACE, 24),
  (0x1FADD, 170), (0x1FADF, 24), (0x1FAEA, 170), (0x1FAF0, 24), (0x1FAF9, 170), (0x1FB00, 24),
  (0x1FB93, 170), (0x1FB94, 24), (0x1FBFA, 170), (0x20000, 49), (0x2A6E0, 170), (0x2A700, 49),
  (0x2B73A, 170), (0x2B740, 49), (0x2B81E, 170), (0x2B820, 49), (0x2CEA2, 170), (0x2CEB0, 49),
  (0x2EBE1, 170), (0x2EBF0, 49), (0x2EE5E, 170), (0x2F800, 49), (0x2FA1E, 170), (0x30000, 49),
  (0x3134B, 170), (0x31350, 49), (0x323B0, 170), (0xE0001, 24), (0xE0002, 170), (0xE0020, 24),
  (0xE0080, 170), (0xE0100, 57), (0xE01F0, 170)]

/-- All runs after the first. -/
def runs : List (Nat × Nat) :=
  runsFrom0041 ++ runsFrom1B4E ++ runsFrom10A60 ++ runsFrom1E960

/-- The runs as a search tree. -/
def tree : Runs Nat := Runs.ofList 24 runs

/-- The position of the script of a character in the list of all scripts. -/
def positionOf (c : Char) : Nat := tree.valueAt c.toNat

end Script

end Highlighter
