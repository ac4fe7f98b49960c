/-
# Tables of properties

The properties of characters by which sets can be named: those that hold or do not, the general
categories, and the values of three kinds of boundaries.  Each has its names, the ranges of its
members among the characters that matter, and the bulk of the property and of its complement.
-/
import BenchRoster.Pattern.CharSet

namespace BenchRoster.Pattern.Property

/-- A property, or a value of one, with its names. -/
structure Entry where
  names : List String
  members : List (Nat × Nat)
  inside : Bulk
  outside : Bulk

def Entry.set (e : Entry) : CharSet := .property e.members e.inside e.outside

/-- The characters of words: letters, marks, decimal digits, connectors and joiners. -/
def word : Entry :=
  ⟨["Word"], [(0x30, 0x39), (0x41, 0x5a), (0x5f, 0x5f), (0x61, 0x7a), (0x17f, 0x17f), (0x212a,
    0x212a)], ⟨20560, 49692⟩, ⟨19968, 46240⟩⟩

/-- The properties that a character has or has not. -/
def binary : List Entry := [
  ⟨["Alpha", "Alphabetic"], [(0x41, 0x5a), (0x61, 0x7a), (0x17f, 0x17f), (0x212a, 0x212a)], ⟨19768,
    47000⟩, ⟨19320, 44400⟩⟩,
  ⟨["AHex", "ASCII_Hex_Digit"], [(0x30, 0x39), (0x41, 0x46), (0x61, 0x66)], ⟨0, 0⟩, ⟨408, 928⟩⟩,
  ⟨["Bidi_C", "Bidi_Control"], [], ⟨256, 336⟩, ⟨648, 1544⟩⟩,
  ⟨["Bidi_M", "Bidi_Mirrored"], [(0x28, 0x29), (0x3c, 0x3c), (0x3e, 0x3e), (0x5b, 0x5b), (0x5d,
    0x5d), (0x7b, 0x7b), (0x7d, 0x7d)], ⟨2512, 5308⟩, ⟨3072, 8048⟩⟩,
  ⟨["CI", "Case_Ignorable"], [(0x27, 0x27), (0x2e, 0x2e), (0x3a, 0x3a), (0x5e, 0x5e), (0x60,
    0x60)], ⟨12440, 24316⟩, ⟨14184, 34696⟩⟩,
  ⟨["Cased"], [(0x41, 0x5a), (0x61, 0x7a), (0x17f, 0x17f), (0x212a, 0x212a)], ⟨4696, 10300⟩, ⟨5032,
    12320⟩⟩,
  ⟨["CWCF", "Changes_When_Casefolded"], [(0x41, 0x5a), (0x17f, 0x17f), (0x212a, 0x212a)], ⟨6864,
    25028⟩, ⟨7472, 28464⟩⟩,
  ⟨["CWCM", "Changes_When_Casemapped"], [(0x41, 0x5a), (0x61, 0x7a), (0x17f, 0x17f), (0x212a,
    0x212a)], ⟨3920, 8360⟩, ⟨4288, 10396⟩⟩,
  ⟨["CWL", "Changes_When_Lowercased"], [(0x41, 0x5a), (0x212a, 0x212a)], ⟨6608, 24468⟩, ⟨7256,
    27904⟩⟩,
  ⟨["CWT", "Changes_When_Titlecased"], [(0x61, 0x7a), (0x17f, 0x17f)], ⟨7008, 25348⟩, ⟨7624,
    28820⟩⟩,
  ⟨["CWU", "Changes_When_Uppercased"], [(0x61, 0x7a), (0x17f, 0x17f)], ⟨7056, 25416⟩, ⟨7680,
    28956⟩⟩,
  ⟨["Dash"], [(0x2d, 0x2d)], ⟨1128, 1596⟩, ⟨1664, 3952⟩⟩,
  ⟨["DI", "Default_Ignorable_Code_Point"], [], ⟨1200, 1476⟩, ⟨1680, 4164⟩⟩,
  ⟨["Dep", "Deprecated"], [], ⟨608, 736⟩, ⟨1056, 2632⟩⟩,
  ⟨["Dia", "Diacritic"], [(0x5e, 0x5e), (0x60, 0x60)], ⟨7368, 13404⟩, ⟨8936, 23640⟩⟩,
  ⟨["Emoji"], [(0x23, 0x23), (0x2a, 0x2a), (0x30, 0x39)], ⟨3344, 7552⟩, ⟨3888, 10188⟩⟩,
  ⟨["EComp", "Emoji_Component"], [(0x23, 0x23), (0x2a, 0x2a), (0x30, 0x39)], ⟨688, 800⟩, ⟨1080,
    2720⟩⟩,
  ⟨["EMod", "Emoji_Modifier"], [], ⟨192, 196⟩, ⟨520, 1264⟩⟩,
  ⟨["EBase", "Emoji_Modifier_Base"], [], ⟨1184, 2144⟩, ⟨1712, 4432⟩⟩,
  ⟨["EPres", "Emoji_Presentation"], [], ⟨2456, 4856⟩, ⟨2888, 6828⟩⟩,
  ⟨["ExtPict", "Extended_Pictographic"], [], ⟨3552, 8172⟩, ⟨4032, 10360⟩⟩,
  ⟨["Ext", "Extender"], [], ⟨1992, 2980⟩, ⟨2800, 7784⟩⟩,
  ⟨["Gr_Base", "Grapheme_Base"], [(0x20, 0x7e), (0x17f, 0x17f), (0x212a, 0x212a)], ⟨22648, 55468⟩,
    ⟨21824, 50048⟩⟩,
  ⟨["Gr_Ext", "Grapheme_Extend"], [], ⟨10184, 20196⟩, ⟨11736, 29652⟩⟩,
  ⟨["Gr_Link", "Grapheme_Link"], [], ⟨1300, 2600⟩, ⟨1900, 6128⟩⟩,
  ⟨["Hex", "Hex_Digit"], [(0x30, 0x39), (0x41, 0x46), (0x61, 0x66)], ⟨208, 268⟩, ⟨584, 1340⟩⟩,
  ⟨["Hyphen"], [(0x2d, 0x2d)], ⟨210, 420⟩, ⟨810, 1768⟩⟩,
  ⟨["ID_Compat_Math_Continue"], [], ⟨250, 500⟩, ⟨850, 1928⟩⟩,
  ⟨["ID_Compat_Math_Start"], [], ⟨210, 420⟩, ⟨810, 1768⟩⟩,
  ⟨["IDC", "ID_Continue"], [(0x30, 0x39), (0x41, 0x5a), (0x5f, 0x5f), (0x61, 0x7a), (0x17f, 0x17f),
    (0x212a, 0x212a)], ⟨20272, 49284⟩, ⟨19664, 45664⟩⟩,
  ⟨["IDS", "ID_Start"], [(0x41, 0x5a), (0x61, 0x7a), (0x17f, 0x17f), (0x212a, 0x212a)], ⟨18416,
    42796⟩, ⟨18480, 42756⟩⟩,
  ⟨["Ideo", "Ideographic"], [], ⟨1800, 3952⟩, ⟨1912, 3928⟩⟩,
  ⟨["IDSB", "IDS_Binary_Operator"], [], ⟨248, 300⟩, ⟨640, 1540⟩⟩,
  ⟨["IDST", "IDS_Trinary_Operator"], [], ⟨152, 164⟩, ⟨520, 1232⟩⟩,
  ⟨["IDSU", "IDS_Unary_Operator"], [], ⟨84, 168⟩, ⟨684, 1264⟩⟩,
  ⟨["Join_C", "Join_Control"], [], ⟨152, 164⟩, ⟨520, 1232⟩⟩,
  ⟨["LOE", "Logical_Order_Exception"], [], ⟨360, 540⟩, ⟨736, 1952⟩⟩,
  ⟨["Lower", "Lowercase"], [(0x61, 0x7a), (0x17f, 0x17f)], ⟨8328, 28160⟩, ⟨8968, 31900⟩⟩,
  ⟨["Math"], [(0x2b, 0x2b), (0x3c, 0x3e), (0x5e, 0x5e), (0x7c, 0x7c), (0x7e, 0x7e)], ⟨3168, 7088⟩,
    ⟨3648, 9404⟩⟩,
  ⟨["MCM", "Modifier_Combining_Mark"], [], ⟨165, 330⟩, ⟨765, 1588⟩⟩,
  ⟨["NChar", "Noncharacter_Code_Point"], [], ⟨440, 1992⟩, ⟨736, 5320⟩⟩,
  ⟨["OAlpha", "Other_Alphabetic"], [], ⟨7000, 14000⟩, ⟨7600, 28928⟩⟩,
  ⟨["ODI", "Other_Default_Ignorable_Code_Point"], [], ⟨350, 700⟩, ⟨950, 2328⟩⟩,
  ⟨["OGr_Ext", "Other_Grapheme_Extend"], [], ⟨950, 1900⟩, ⟨1550, 4728⟩⟩,
  ⟨["OIDC", "Other_ID_Continue"], [], ⟨210, 420⟩, ⟨810, 1768⟩⟩,
  ⟨["OIDS", "Other_ID_Start"], [], ⟨165, 330⟩, ⟨765, 1588⟩⟩,
  ⟨["OLower", "Other_Lowercase"], [], ⟨550, 1100⟩, ⟨1150, 3128⟩⟩,
  ⟨["OMath", "Other_Math"], [(0x5e, 0x5e)], ⟨2800, 5600⟩, ⟨3400, 12128⟩⟩,
  ⟨["OUpper", "Other_Uppercase"], [], ⟨190, 380⟩, ⟨790, 1688⟩⟩,
  ⟨["Pat_Syn", "Pattern_Syntax"], [(0x21, 0x2f), (0x3a, 0x40), (0x5b, 0x5e), (0x60, 0x60), (0x7b,
    0x7e)], ⟨944, 1784⟩, ⟨1312, 3096⟩⟩,
  ⟨["Pat_WS", "Pattern_White_Space"], [(0x9, 0xd), (0x20, 0x20)], ⟨208, 268⟩, ⟨584, 1372⟩⟩,
  ⟨["PCM", "Prepended_Concatenation_Mark"], [], ⟨210, 420⟩, ⟨810, 1768⟩⟩,
  ⟨["QMark", "Quotation_Mark"], [(0x22, 0x22), (0x27, 0x27)], ⟨552, 780⟩, ⟨1008, 2404⟩⟩,
  ⟨["Radical"], [], ⟨304, 404⟩, ⟨608, 1332⟩⟩,
  ⟨["RI", "Regional_Indicator"], [], ⟨192, 196⟩, ⟨520, 1264⟩⟩,
  ⟨["STerm", "Sentence_Terminal"], [(0x21, 0x21), (0x2e, 0x2e), (0x3f, 0x3f)], ⟨3632, 5688⟩, ⟨4832,
    13028⟩⟩,
  ⟨["SD", "Soft_Dotted"], [(0x69, 0x6a)], ⟨1528, 2212⟩, ⟨2168, 5164⟩⟩,
  ⟨["Term", "Terminal_Punctuation"], [(0x21, 0x21), (0x2c, 0x2c), (0x2e, 0x2e), (0x3a, 0x3b),
    (0x3f, 0x3f)], ⟨4480, 7136⟩, ⟨5864, 15556⟩⟩,
  ⟨["UIdeo", "Unified_Ideograph"], [], ⟨1208, 2776⟩, ⟨1328, 2788⟩⟩,
  ⟨["Upper", "Uppercase"], [(0x41, 0x5a), (0x212a, 0x212a)], ⟨7808, 26940⟩, ⟨8488, 30648⟩⟩,
  ⟨["VS", "Variation_Selector"], [], ⟨424, 500⟩, ⟨792, 1940⟩⟩,
  ⟨["WSpace", "White_Space", "space"], [(0x9, 0xd), (0x20, 0x20)], ⟨408, 608⟩, ⟨800, 1816⟩⟩,
  ⟨["XIDC", "XID_Continue"], [(0x30, 0x39), (0x41, 0x5a), (0x5f, 0x5f), (0x61, 0x7a), (0x17f,
    0x17f), (0x212a, 0x212a)], ⟨20384, 49672⟩, ⟨19760, 45948⟩⟩,
  ⟨["XIDS", "XID_Start"], [(0x41, 0x5a), (0x61, 0x7a), (0x17f, 0x17f), (0x212a, 0x212a)], ⟨18568,
    43184⟩, ⟨18616, 43040⟩⟩]

/-- The general categories, with the sets that are named like them. -/
def generalCategories : List Entry := [
  ⟨["C", "Other"], [(0x0, 0x1f), (0x7f, 0x7f)], ⟨19488, 43132⟩, ⟨20696, 50828⟩⟩,
  ⟨["Cc", "Control", "Cntrl"], [(0x0, 0x1f), (0x7f, 0x7f)], ⟨112, 132⟩, ⟨456, 996⟩⟩,
  ⟨["Cf", "Format"], [], ⟨1400, 1784⟩, ⟨1904, 4740⟩⟩,
  ⟨["Cn", "Unassigned"], [], ⟨19248, 42516⟩, ⟨20536, 51008⟩⟩,
  ⟨["Co", "Private_Use"], [], ⟨400, 864⟩, ⟨584, 1160⟩⟩,
  ⟨["L", "Letter"], [(0x41, 0x5a), (0x61, 0x7a), (0x17f, 0x17f), (0x212a, 0x212a)], ⟨18480, 42660⟩,
    ⟨18568, 42728⟩⟩,
  ⟨["LC", "Cased_Letter"], [(0x41, 0x5a), (0x61, 0x7a), (0x17f, 0x17f), (0x212a, 0x212a)], ⟨4368,
    9504⟩, ⟨4672, 11216⟩⟩,
  ⟨["Ll", "Lowercase_Letter"], [(0x61, 0x7a), (0x17f, 0x17f)], ⟨8104, 27532⟩, ⟨8720, 31100⟩⟩,
  ⟨["Lm", "Modifier_Letter"], [], ⟨3088, 4984⟩, ⟨4032, 10688⟩⟩,
  ⟨["Lo", "Other_Letter"], [], ⟨15200, 34076⟩, ⟨15688, 36684⟩⟩,
  ⟨["Lt", "Titlecase_Letter"], [], ⟨304, 552⟩, ⟨688, 1660⟩⟩,
  ⟨["Lu", "Uppercase_Letter"], [(0x41, 0x5a), (0x212a, 0x212a)], ⟨7544, 26460⟩, ⟨8208, 30000⟩⟩,
  ⟨["M", "Mark", "Combining_Mark"], [], ⟨9704, 18732⟩, ⟨11048, 27072⟩⟩,
  ⟨["Mc", "Spacing_Mark"], [], ⟨5008, 10308⟩, ⟨6000, 15896⟩⟩,
  ⟨["Me", "Enclosing_Mark"], [], ⟨384, 468⟩, ⟨824, 2052⟩⟩,
  ⟨["Mn", "Nonspacing_Mark"], [], ⟨9896, 19348⟩, ⟨11456, 28840⟩⟩,
  ⟨["N", "Number"], [(0x30, 0x39)], ⟨4880, 9712⟩, ⟨6272, 20328⟩⟩,
  ⟨["Nd", "Decimal_Number", "Digit"], [(0x30, 0x39)], ⟨1576, 5080⟩, ⟨2448, 12648⟩⟩,
  ⟨["Nl", "Letter_Number"], [], ⟨856, 1112⟩, ⟨1272, 3140⟩⟩,
  ⟨["No", "Other_Number"], [], ⟨3584, 5100⟩, ⟨4584, 10972⟩⟩,
  ⟨["P", "Punctuation", "Punct"], [(0x21, 0x23), (0x25, 0x2a), (0x2c, 0x2f), (0x3a, 0x3b), (0x3f,
    0x40), (0x5b, 0x5d), (0x5f, 0x5f), (0x7b, 0x7b), (0x7d, 0x7d)], ⟨6696, 11560⟩, ⟨8408, 22468⟩⟩,
  ⟨["Pc", "Connector_Punctuation"], [(0x5f, 0x5f)], ⟨352, 504⟩, ⟨752, 1812⟩⟩,
  ⟨["Pd", "Dash_Punctuation"], [(0x2d, 0x2d)], ⟨976, 1356⟩, ⟨1480, 3536⟩⟩,
  ⟨["Pe", "Close_Punctuation"], [(0x29, 0x29), (0x5d, 0x5d), (0x7d, 0x7d)], ⟨1528, 3396⟩, ⟨2080,
    5824⟩⟩,
  ⟨["Pf", "Final_Punctuation"], [], ⟨304, 552⟩, ⟨696, 1760⟩⟩,
  ⟨["Pi", "Initial_Punctuation"], [], ⟨312, 588⟩, ⟨704, 1796⟩⟩,
  ⟨["Po", "Other_Punctuation"], [(0x21, 0x23), (0x25, 0x27), (0x2a, 0x2a), (0x2c, 0x2c), (0x2e,
    0x2f), (0x3a, 0x3b), (0x3f, 0x40), (0x5c, 0x5c)], ⟨6240, 10924⟩, ⟨7872, 21212⟩⟩,
  ⟨["Ps", "Open_Punctuation"], [(0x28, 0x28), (0x5b, 0x5b), (0x7b, 0x7b)], ⟨1592, 3536⟩, ⟨2136,
    5896⟩⟩,
  ⟨["S", "Symbol"], [(0x24, 0x24), (0x2b, 0x2b), (0x3c, 0x3e), (0x5e, 0x5e), (0x60, 0x60), (0x7c,
    0x7c), (0x7e, 0x7e)], ⟨7976, 15548⟩, ⟨8872, 21104⟩⟩,
  ⟨["Sc", "Currency_Symbol"], [(0x24, 0x24)], ⟨1272, 1684⟩, ⟨1832, 4648⟩⟩,
  ⟨["Sk", "Modifier_Symbol"], [(0x5e, 0x5e), (0x60, 0x60)], ⟨1272, 1948⟩, ⟨1752, 4392⟩⟩,
  ⟨["Sm", "Math_Symbol"], [(0x2b, 0x2b), (0x3c, 0x3e), (0x7c, 0x7c), (0x7e, 0x7e)], ⟨2320, 3916⟩,
    ⟨2936, 7036⟩⟩,
  ⟨["So", "Other_Symbol"], [], ⟨6728, 13060⟩, ⟨7360, 16944⟩⟩,
  ⟨["Z", "Separator"], [(0x20, 0x20)], ⟨400, 572⟩, ⟨792, 1780⟩⟩,
  ⟨["Zl", "Line_Separator"], [], ⟨96, 96⟩, ⟨520, 1232⟩⟩,
  ⟨["Zp", "Paragraph_Separator"], [], ⟨96, 96⟩, ⟨520, 1232⟩⟩,
  ⟨["Zs", "Space_Separator"], [(0x20, 0x20)], ⟨392, 536⟩, ⟨784, 1744⟩⟩,
  ⟨["Any"], [(0x0, 0x7f), (0x17f, 0x17f), (0x212a, 0x212a)], ⟨408, 928⟩, ⟨32, 32⟩⟩,
  ⟨["Assigned"], [(0x0, 0x7f), (0x17f, 0x17f), (0x212a, 0x212a)], ⟨20536, 51008⟩, ⟨19248, 42516⟩⟩,
  ⟨["ASCII"], [(0x0, 0x7f)], ⟨0, 0⟩, ⟨408, 928⟩⟩]

/-- The values of `Grapheme_Cluster_Break`. -/
def graphemeBreaks : List Entry := [
  ⟨["CN", "Control"], [(0x0, 0x9), (0xb, 0xc), (0xe, 0x1f), (0x7f, 0x7f)], ⟨1040, 1412⟩, ⟨1496,
    3812⟩⟩,
  ⟨["CR"], [(0xd, 0xd)], ⟨0, 0⟩, ⟨408, 928⟩⟩,
  ⟨["EX", "Extend"], [], ⟨9960, 19632⟩, ⟨11520, 29156⟩⟩,
  ⟨["L"], [], ⟨288, 332⟩, ⟨632, 1536⟩⟩,
  ⟨["LF"], [(0xa, 0xa)], ⟨0, 0⟩, ⟨408, 928⟩⟩,
  ⟨["LV"], [], ⟨2016, 20156⟩, ⟨2384, 26456⟩⟩,
  ⟨["LVT"], [], ⟨2072, 25556⟩, ⟨2336, 21092⟩⟩,
  ⟨["PP", "Prepend"], [], ⟨904, 1180⟩, ⟨1376, 3364⟩⟩,
  ⟨["RI", "Regional_Indicator"], [], ⟨192, 196⟩, ⟨520, 1264⟩⟩,
  ⟨["SM", "SpacingMark"], [], ⟨4664, 9312⟩, ⟨5624, 14728⟩⟩,
  ⟨["T"], [], ⟨288, 332⟩, ⟨568, 1268⟩⟩,
  ⟨["V"], [], ⟨336, 400⟩, ⟨656, 1368⟩⟩,
  ⟨["ZWJ"], [], ⟨96, 96⟩, ⟨520, 1232⟩⟩]

/-- The values of `Word_Break`. -/
def wordBreaks : List Entry := [
  ⟨["CR"], [(0xd, 0xd)], ⟨0, 0⟩, ⟨408, 928⟩⟩,
  ⟨["DQ", "Double_Quote"], [(0x22, 0x22)], ⟨0, 0⟩, ⟨408, 928⟩⟩,
  ⟨["EX", "ExtendNumLet"], [(0x5f, 0x5f)], ⟨400, 540⟩, ⟨800, 1848⟩⟩,
  ⟨["Extend"], [], ⟨9568, 18512⟩, ⟨10904, 26884⟩⟩,
  ⟨["FO", "Format"], [], ⟨1344, 1680⟩, ⟨1904, 4740⟩⟩,
  ⟨["HL", "Hebrew_Letter"], [], ⟨304, 552⟩, ⟨688, 1692⟩⟩,
  ⟨["KA", "Katakana"], [], ⟨928, 1288⟩, ⟨1304, 3008⟩⟩,
  ⟨["LE", "ALetter"], [(0x41, 0x5a), (0x61, 0x7a), (0x17f, 0x17f), (0x212a, 0x212a)], ⟨15648,
    34936⟩, ⟨16032, 37556⟩⟩,
  ⟨["LF"], [(0xa, 0xa)], ⟨0, 0⟩, ⟨408, 928⟩⟩,
  ⟨["MB", "MidNumLet"], [(0x2e, 0x2e)], ⟨304, 404⟩, ⟨712, 1748⟩⟩,
  ⟨["ML", "MidLetter"], [(0x3a, 0x3a)], ⟨528, 672⟩, ⟨1000, 2400⟩⟩,
  ⟨["MN", "MidNum"], [(0x2c, 0x2c), (0x3b, 0x3b)], ⟨552, 848⟩, ⟨1032, 2680⟩⟩,
  ⟨["NL", "Newline"], [(0xb, 0xc)], ⟨200, 232⟩, ⟨576, 1336⟩⟩,
  ⟨["NU", "Numeric"], [(0x30, 0x39)], ⟨1448, 4640⟩, ⟨2272, 11620⟩⟩,
  ⟨["RI", "Regional_Indicator"], [], ⟨192, 196⟩, ⟨520, 1264⟩⟩,
  ⟨["SQ", "Single_Quote"], [(0x27, 0x27)], ⟨0, 0⟩, ⟨408, 928⟩⟩,
  ⟨["WSegSpace"], [(0x20, 0x20)], ⟨344, 468⟩, ⟨728, 1640⟩⟩,
  ⟨["ZWJ"], [], ⟨96, 96⟩, ⟨520, 1232⟩⟩]

/-- The values of `Sentence_Break`. -/
def sentenceBreaks : List Entry := [
  ⟨["AT", "ATerm"], [(0x2e, 0x2e)], ⟨288, 332⟩, ⟨696, 1676⟩⟩,
  ⟨["CL", "Close"], [(0x22, 0x22), (0x27, 0x29), (0x5b, 0x5b), (0x5d, 0x5d), (0x7b, 0x7b), (0x7d,
    0x7d)], ⟨1464, 2368⟩, ⟨1992, 4932⟩⟩,
  ⟨["CR"], [(0xd, 0xd)], ⟨0, 0⟩, ⟨408, 928⟩⟩,
  ⟨["EX", "Extend"], [], ⟨9480, 18412⟩, ⟨10800, 26648⟩⟩,
  ⟨["FO", "Format"], [], ⟨1352, 1716⟩, ⟨1912, 4776⟩⟩,
  ⟨["LE", "OLetter"], [], ⟨15400, 34536⟩, ⟨15976, 37732⟩⟩,
  ⟨["LF"], [(0xa, 0xa)], ⟨0, 0⟩, ⟨408, 928⟩⟩,
  ⟨["LO", "Lower"], [(0x61, 0x7a), (0x17f, 0x17f)], ⟨8192, 27844⟩, ⟨8832, 31552⟩⟩,
  ⟨["NU", "Numeric"], [(0x30, 0x39)], ⟨1448, 4640⟩, ⟨2272, 11620⟩⟩,
  ⟨["SC", "SContinue"], [(0x2c, 0x2d), (0x3a, 0x3a)], ⟨760, 1124⟩, ⟨1256, 2960⟩⟩,
  ⟨["SE", "Sep"], [], ⟨200, 232⟩, ⟨576, 1336⟩⟩,
  ⟨["SP", "Sp"], [(0x9, 0x9), (0xb, 0xc), (0x20, 0x20)], ⟨392, 536⟩, ⟨784, 1744⟩⟩,
  ⟨["ST", "STerm"], [(0x21, 0x21), (0x3f, 0x3f)], ⟨3392, 5168⟩, ⟨4544, 12160⟩⟩,
  ⟨["UP", "Upper"], [(0x41, 0x5a), (0x212a, 0x212a)], ⟨7696, 26732⟩, ⟨8352, 30268⟩⟩]

end BenchRoster.Pattern.Property
