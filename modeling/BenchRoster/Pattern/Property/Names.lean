/-
# Tables of properties

The names of scripts and ages, and of the properties that are known but make no sets.  Only two
scripts have members among the characters that matter; every one of these characters is of the first
age, and a set by age holds all characters up to that age.
-/
import BenchRoster.Pattern.Property.Table

namespace BenchRoster.Pattern.Property

/-- The scripts with members that matter. -/
def asciiScripts : List Entry := [
  ⟨["Zyyy", "Common"], [(0x0, 0x40), (0x5b, 0x60), (0x7b, 0x7f)], ⟨6384, 12436⟩, ⟨6888, 15516⟩⟩,
  ⟨["Latn", "Latin"], [(0x41, 0x5a), (0x61, 0x7a), (0x17f, 0x17f), (0x212a, 0x212a)], ⟨1648, 2668⟩,
    ⟨2048, 4688⟩⟩]

/-- The same scripts, with the characters that they share with other scripts. -/
def asciiScriptExtensions : List Entry := [
  ⟨["Zyyy", "Common"], [(0x0, 0x40), (0x5b, 0x60), (0x7b, 0x7f)], ⟨5440, 11048⟩, ⟨5768, 13052⟩⟩,
  ⟨["Latn", "Latin"], [(0x41, 0x5a), (0x61, 0x7a), (0x17f, 0x17f), (0x212a, 0x212a)], ⟨2288, 3920⟩,
    ⟨2728, 6332⟩⟩]

/-- The other scripts. -/
def otherScripts : List (List String) := [
  ["Adlm", "Adlam"], ["Ahom"], ["Hluw", "Anatolian_Hieroglyphs"], ["Arab", "Arabic"],
  ["Armn", "Armenian"], ["Avst", "Avestan"], ["Bali", "Balinese"], ["Bamu", "Bamum"],
  ["Bass", "Bassa_Vah"], ["Batk", "Batak"], ["Beng", "Bengali"], ["Bhks", "Bhaiksuki"],
  ["Bopo", "Bopomofo"], ["Brah", "Brahmi"], ["Brai", "Braille"], ["Bugi", "Buginese"],
  ["Buhd", "Buhid"], ["Cans", "Canadian_Aboriginal"], ["Cari", "Carian"],
  ["Aghb", "Caucasian_Albanian"], ["Cakm", "Chakma"], ["Cham"], ["Cher", "Cherokee"],
  ["Chrs", "Chorasmian"], ["Copt", "Coptic", "Qaac"], ["Xsux", "Cuneiform"], ["Cprt", "Cypriot"],
  ["Cpmn", "Cypro_Minoan"], ["Cyrl", "Cyrillic"], ["Dsrt", "Deseret"], ["Deva", "Devanagari"],
  ["Diak", "Dives_Akuru"], ["Dogr", "Dogra"], ["Dupl", "Duployan"],
  ["Egyp", "Egyptian_Hieroglyphs"], ["Elba", "Elbasan"], ["Elym", "Elymaic"], ["Ethi", "Ethiopic"],
  ["Gara", "Garay"], ["Geor", "Georgian"], ["Glag", "Glagolitic"], ["Goth", "Gothic"],
  ["Gran", "Grantha"], ["Grek", "Greek"], ["Gujr", "Gujarati"], ["Gong", "Gunjala_Gondi"],
  ["Guru", "Gurmukhi"], ["Gukh", "Gurung_Khema"], ["Hani", "Han"], ["Hang", "Hangul"],
  ["Rohg", "Hanifi_Rohingya"], ["Hano", "Hanunoo"], ["Hatr", "Hatran"], ["Hebr", "Hebrew"],
  ["Hira", "Hiragana"], ["Armi", "Imperial_Aramaic"], ["Zinh", "Inherited", "Qaai"],
  ["Phli", "Inscriptional_Pahlavi"], ["Prti", "Inscriptional_Parthian"], ["Java", "Javanese"],
  ["Kthi", "Kaithi"], ["Knda", "Kannada"], ["Kana", "Katakana"], ["Kawi"], ["Kali", "Kayah_Li"],
  ["Khar", "Kharoshthi"], ["Kits", "Khitan_Small_Script"], ["Khmr", "Khmer"], ["Khoj", "Khojki"],
  ["Sind", "Khudawadi"], ["Krai", "Kirat_Rai"], ["Laoo", "Lao"], ["Lepc", "Lepcha"],
  ["Limb", "Limbu"], ["Lina", "Linear_A"], ["Linb", "Linear_B"], ["Lisu"], ["Lyci", "Lycian"],
  ["Lydi", "Lydian"], ["Mahj", "Mahajani"], ["Maka", "Makasar"], ["Mlym", "Malayalam"],
  ["Mand", "Mandaic"], ["Mani", "Manichaean"], ["Marc", "Marchen"], ["Gonm", "Masaram_Gondi"],
  ["Medf", "Medefaidrin"], ["Mtei", "Meetei_Mayek"], ["Mend", "Mende_Kikakui"],
  ["Merc", "Meroitic_Cursive"], ["Mero", "Meroitic_Hieroglyphs"], ["Plrd", "Miao"], ["Modi"],
  ["Mong", "Mongolian"], ["Mroo", "Mro"], ["Mult", "Multani"], ["Mymr", "Myanmar"],
  ["Nbat", "Nabataean"], ["Nagm", "Nag_Mundari"], ["Nand", "Nandinagari"], ["Talu", "New_Tai_Lue"],
  ["Newa"], ["Nkoo", "Nko"], ["Nshu", "Nushu"], ["Hmnp", "Nyiakeng_Puachue_Hmong"],
  ["Ogam", "Ogham"], ["Olck", "Ol_Chiki"], ["Onao", "Ol_Onal"], ["Hung", "Old_Hungarian"],
  ["Ital", "Old_Italic"], ["Narb", "Old_North_Arabian"], ["Perm", "Old_Permic"],
  ["Xpeo", "Old_Persian"], ["Sogo", "Old_Sogdian"], ["Sarb", "Old_South_Arabian"],
  ["Orkh", "Old_Turkic"], ["Ougr", "Old_Uyghur"], ["Orya", "Oriya"], ["Osge", "Osage"],
  ["Osma", "Osmanya"], ["Hmng", "Pahawh_Hmong"], ["Palm", "Palmyrene"], ["Pauc", "Pau_Cin_Hau"],
  ["Phag", "Phags_Pa"], ["Phnx", "Phoenician"], ["Phlp", "Psalter_Pahlavi"], ["Rjng", "Rejang"],
  ["Runr", "Runic"], ["Samr", "Samaritan"], ["Saur", "Saurashtra"], ["Shrd", "Sharada"],
  ["Shaw", "Shavian"], ["Sidd", "Siddham"], ["Sgnw", "SignWriting"], ["Sinh", "Sinhala"],
  ["Sogd", "Sogdian"], ["Sora", "Sora_Sompeng"], ["Soyo", "Soyombo"], ["Sund", "Sundanese"],
  ["Sunu", "Sunuwar"], ["Sylo", "Syloti_Nagri"], ["Syrc", "Syriac"], ["Tglg", "Tagalog"],
  ["Tagb", "Tagbanwa"], ["Tale", "Tai_Le"], ["Lana", "Tai_Tham"], ["Tavt", "Tai_Viet"],
  ["Takr", "Takri"], ["Taml", "Tamil"], ["Tnsa", "Tangsa"], ["Tang", "Tangut"], ["Telu", "Telugu"],
  ["Thaa", "Thaana"], ["Thai"], ["Tibt", "Tibetan"], ["Tfng", "Tifinagh"], ["Tirh", "Tirhuta"],
  ["Todr", "Todhri"], ["Toto"], ["Tutg", "Tulu_Tigalari"], ["Ugar", "Ugaritic"], ["Vaii", "Vai"],
  ["Vith", "Vithkuqi"], ["Wcho", "Wancho"], ["Wara", "Warang_Citi"], ["Yezi", "Yezidi"],
  ["Yiii", "Yi"], ["Zanb", "Zanabazar_Square"]]

/-- The ages that have a set. -/
def ages : List (List String) := [
  ["1.1", "V1_1"], ["2.0", "V2_0"], ["2.1", "V2_1"], ["3.0", "V3_0"], ["3.1", "V3_1"],
  ["3.2", "V3_2"], ["4.0", "V4_0"], ["4.1", "V4_1"], ["5.0", "V5_0"], ["5.1", "V5_1"],
  ["5.2", "V5_2"], ["6.0", "V6_0"], ["6.1", "V6_1"], ["6.2", "V6_2"], ["6.3", "V6_3"],
  ["7.0", "V7_0"], ["8.0", "V8_0"], ["9.0", "V9_0"], ["10.0", "V10_0"], ["11.0", "V11_0"],
  ["12.0", "V12_0"], ["12.1", "V12_1"], ["13.0", "V13_0"], ["14.0", "V14_0"], ["15.0", "V15_0"],
  ["15.1", "V15_1"], ["16.0", "V16_0"]]

/-- The general categories and scripts that are known by name only. -/
def emptyValues : List String := [
  "Cs", "Surrogate", "Zzzz", "Unknown", "Hrkt", "Katakana_Or_Hiragana"]

/-- The properties that are known by name only. -/
def named : List String := [
  "kAccountingNumeric", "cjkAccountingNumeric", "kOtherNumeric", "cjkOtherNumeric",
  "kPrimaryNumeric", "cjkPrimaryNumeric", "Numeric_Value", "nv", "Bidi_Mirroring_Glyph", "bmg",
  "Bidi_Paired_Bracket", "bpb", "Case_Folding", "cf", "kCompatibilityVariant",
  "cjkCompatibilityVariant", "Decomposition_Mapping", "dm", "Equivalent_Unified_Ideograph",
  "EqUIdeo", "FC_NFKC_Closure", "FC_NFKC", "Lowercase_Mapping", "lc", "NFKC_Casefold", "NFKC_CF",
  "NFKC_Simple_Casefold", "NFKC_SCF", "Simple_Case_Folding", "scf", "sfc",
  "Simple_Lowercase_Mapping", "slc", "Simple_Titlecase_Mapping", "stc", "Simple_Uppercase_Mapping",
  "suc", "Titlecase_Mapping", "tc", "Uppercase_Mapping", "uc", "kIICore", "cjkIICore",
  "kIRG_GSource", "cjkIRG_GSource", "kIRG_HSource", "cjkIRG_HSource", "kIRG_JSource",
  "cjkIRG_JSource", "kIRG_KPSource", "cjkIRG_KPSource", "kIRG_KSource", "cjkIRG_KSource",
  "kIRG_MSource", "cjkIRG_MSource", "kIRG_SSource", "cjkIRG_SSource", "kIRG_TSource",
  "cjkIRG_TSource", "kIRG_UKSource", "cjkIRG_UKSource", "kIRG_USource", "cjkIRG_USource",
  "kIRG_VSource", "cjkIRG_VSource", "kRSUnicode", "cjkRSUnicode", "Unicode_Radical_Stroke", "URS",
  "kMandarin", "cjkMandarin", "kTotalStrokes", "cjkTotalStrokes", "kUnihanCore2020",
  "cjkUnihanCore2020", "kEH_Cat", "kEH_Desc", "kEH_HG", "kEH_IFAO", "kEH_JSesh", "kEH_NoMirror",
  "kEH_NoRotate", "ISO_Comment", "isc", "Jamo_Short_Name", "JSN", "Name", "na", "Unicode_1_Name",
  "na1", "Name_Alias", "Block", "blk", "Bidi_Class", "bc", "Bidi_Paired_Bracket_Type", "bpt",
  "Canonical_Combining_Class", "ccc", "Decomposition_Type", "dt", "East_Asian_Width", "ea",
  "Hangul_Syllable_Type", "hst", "Indic_Conjunct_Break", "InCB", "Indic_Positional_Category",
  "InPC", "Indic_Syllabic_Category", "InSC", "Joining_Group", "jg", "Joining_Type", "jt",
  "Line_Break", "lb", "NFC_Quick_Check", "NFC_QC", "NFD_Quick_Check", "NFD_QC", "NFKC_Quick_Check",
  "NFKC_QC", "NFKD_Quick_Check", "NFKD_QC", "Numeric_Type", "nt", "Vertical_Orientation", "vo",
  "Composition_Exclusion", "CE", "Full_Composition_Exclusion", "Comp_Ex",
  "Changes_When_NFKC_Casefolded", "CWKCF", "Expands_On_NFC", "XO_NFC", "Expands_On_NFD", "XO_NFD",
  "Expands_On_NFKC", "XO_NFKC", "Expands_On_NFKD", "XO_NFKD"]

end BenchRoster.Pattern.Property
