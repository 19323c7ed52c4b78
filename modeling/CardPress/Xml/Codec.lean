import CardPress.Xml.CodePage

/-! The names of encodings. -/
namespace CardPress.Xml

/-- What a name of an encoding stands for. -/
inductive Codec where
  | page (p : CodePage)
  | notAscii
  | wide
  | notText
  | idna
  | punycode
  | undefined

namespace Codec

/-- Names in which a dot may stand for an underscore. -/
def aliases : List (List String × Codec) :=
  [(["646", "ansi_x3.4_1968", "ansi_x3.4_1986", "ansi_x3_4_1968", "cp367", "cp65001", "csascii",
    "csiso2022jp", "ibm367", "iso2022jp", "iso2022jp_1", "iso2022jp_2", "iso2022jp_2004",
    "iso2022jp_3", "iso2022jp_ext", "iso646_us", "iso_2022_jp", "iso_2022_jp_1", "iso_2022_jp_2",
    "iso_2022_jp_2004", "iso_2022_jp_3", "iso_2022_jp_ext", "iso_646.irv_1991", "iso_ir_6", "u8",
    "us", "us_ascii", "utf", "utf8", "utf8_ucs2", "utf8_ucs4"], page .ascii),
   (["cp1051", "ibm1051", "r8", "roman8"], page .cp1051),
   (["1125", "cp866u", "ibm1125", "ruscii"], page .cp1125),
   (["1250", "windows_1250"], page .cp1250),
   (["1251", "windows_1251"], page .cp1251),
   (["1252", "windows_1252"], page .cp1252),
   (["1253", "windows_1253"], page .cp1253),
   (["1254", "windows_1254"], page .cp1254),
   (["1255", "windows_1255"], page .cp1255),
   (["1256", "windows_1256"], page .cp1256),
   (["1257", "windows_1257"], page .cp1257),
   (["1258", "windows_1258"], page .cp1258),
   (["cp154", "csptcp154", "cyrillic_asian", "pt154"], page .cp154),
   (["437", "cspc8codepage437", "ibm437"], page .cp437),
   (["775", "cspc775baltic", "ibm775"], page .cp775),
   (["850", "cspc850multilingual", "ibm850"], page .cp850),
   (["852", "cspcp852", "ibm852"], page .cp852),
   (["855", "csibm855", "ibm855"], page .cp855),
   (["857", "csibm857", "ibm857"], page .cp857),
   (["858", "csibm858", "ibm858"], page .cp858),
   (["860", "csibm860", "ibm860"], page .cp860),
   (["861", "cp_is", "csibm861", "ibm861"], page .cp861),
   (["862", "cspc862latinhebrew", "ibm862"], page .cp862),
   (["863", "csibm863", "ibm863"], page .cp863),
   (["865", "csibm865", "ibm865"], page .cp865),
   (["866", "csibm866", "ibm866"], page .cp866),
   (["869", "cp_gr", "csibm869", "ibm869"], page .cp869),
   (["hz_gb", "hz_gb_2312", "hzgb"], page .hz),
   (["csisolatin6", "iso_8859_10", "iso_8859_10_1992", "iso_ir_157", "l6", "latin6"], page .iso8859_10),
   (["iso_8859_11", "iso_8859_11_2001", "thai"], page .iso8859_11),
   (["iso_8859_13", "l7", "latin7"], page .iso8859_13),
   (["iso_8859_14", "iso_8859_14_1998", "iso_celtic", "iso_ir_199", "l8", "latin8"], page .iso8859_14),
   (["iso_8859_15", "l9", "latin9"], page .iso8859_15),
   (["iso_8859_16", "iso_8859_16_2001", "iso_ir_226", "l10", "latin10"], page .iso8859_16),
   (["csisolatin2", "iso_8859_2", "iso_8859_2_1987", "iso_ir_101", "l2", "latin2"], page .iso8859_2),
   (["csisolatin3", "iso_8859_3", "iso_8859_3_1988", "iso_ir_109", "l3", "latin3"], page .iso8859_3),
   (["csisolatin4", "iso_8859_4", "iso_8859_4_1988", "iso_ir_110", "l4", "latin4"], page .iso8859_4),
   (["csisolatincyrillic", "cyrillic", "iso_8859_5", "iso_8859_5_1988", "iso_ir_144"], page .iso8859_5),
   (["arabic", "asmo_708", "csisolatinarabic", "ecma_114", "iso_8859_6", "iso_8859_6_1987",
    "iso_ir_127"], page .iso8859_6),
   (["csisolatingreek", "ecma_118", "elot_928", "greek", "greek8", "iso_8859_7", "iso_8859_7_1987",
    "iso_ir_126"], page .iso8859_7),
   (["csisolatinhebrew", "hebrew", "iso_8859_8", "iso_8859_8_1988", "iso_ir_138"], page .iso8859_8),
   (["csisolatin5", "iso_8859_9", "iso_8859_9_1989", "iso_ir_148", "l5", "latin5"], page .iso8859_9),
   (["cskoi8r"], page .koi8R),
   (["kz_1048", "rk1048", "strk1048_2002"], page .kz1048),
   (["8859", "cp819", "csisolatin1", "ibm819", "iso8859", "iso8859_1", "iso_8859_1",
    "iso_8859_1_1987", "iso_ir_100", "l1", "latin", "latin1"], page .latin1),
   (["maccyrillic"], page .macCyrillic),
   (["macgreek"], page .macGreek),
   (["maciceland"], page .macIceland),
   (["mac_centeuro", "maccentraleurope", "maclatin2"], page .macLatin2),
   (["macintosh", "macroman"], page .macRoman),
   (["macturkish"], page .macTurkish),
   (["iso_ir_166", "tis620", "tis_620_0", "tis_620_2529_0", "tis_620_2529_1"], page .tis620),
   (["037", "1026", "1140", "273", "424", "500", "864", "csibm037", "csibm1026", "csibm273",
    "csibm424", "csibm500", "csibm864", "ebcdic_cp_be", "ebcdic_cp_ca", "ebcdic_cp_ch",
    "ebcdic_cp_he", "ebcdic_cp_nl", "ebcdic_cp_us", "ebcdic_cp_wt", "ibm037", "ibm039", "ibm1026",
    "ibm1140", "ibm273", "ibm424", "ibm500", "ibm864"], notAscii),
   (["932", "936", "949", "950", "big5_hkscs", "big5_tw", "chinese", "cp1361", "cp936", "csbig5",
    "csiso2022kr", "csiso58gb231280", "csshiftjis", "euc_cn", "euc_jis2004", "euccn",
    "eucgb2312_cn", "eucjis2004", "eucjisx0213", "eucjp", "euckr", "gb18030_2000", "gb2312_1980",
    "gb2312_80", "hkscs", "iso2022kr", "iso_2022_kr", "iso_ir_58", "jisx0213", "korean",
    "ks_c_5601", "ks_c_5601_1987", "ks_x_1001", "ksc5601", "ksx1001", "ms1361", "ms932", "ms936",
    "ms949", "ms950", "ms_kanji", "mskanji", "s_jis", "s_jis_2004", "s_jisx0213", "shiftjis",
    "shiftjis2004", "shiftjisx0213", "sjis", "sjis_2004", "sjisx0213", "u16", "u32", "u7",
    "u_jis", "uhc", "ujis", "unicode_1_1_utf_7", "unicodebigunmarked", "unicodelittleunmarked",
    "utf16", "utf32", "utf7", "utf_16be", "utf_16le", "utf_32be", "utf_32le", "x_mac_japanese",
    "x_mac_korean", "x_mac_simp_chinese", "x_mac_trad_chinese"], wide),
   (["base64", "base_64", "bz2", "hex", "quopri", "quoted_printable", "quotedprintable", "rot13",
    "uu", "zip", "zlib"], notText)]

/-- Names that are spelled in one way. -/
def names : List (List String × Codec) :=
  [(["ascii", "iso2022_jp", "iso2022_jp_1", "iso2022_jp_2", "iso2022_jp_2004", "iso2022_jp_3",
    "iso2022_jp_ext", "utf_8", "utf_8_sig"], page .ascii),
   (["cp1006"], page .cp1006),
   (["hp_roman8"], page .cp1051),
   (["cp1125"], page .cp1125),
   (["cp1250"], page .cp1250),
   (["cp1251"], page .cp1251),
   (["cp1252"], page .cp1252),
   (["cp1253"], page .cp1253),
   (["cp1254"], page .cp1254),
   (["cp1255"], page .cp1255),
   (["cp1256"], page .cp1256),
   (["cp1257"], page .cp1257),
   (["cp1258"], page .cp1258),
   (["ptcp154"], page .cp154),
   (["cp437"], page .cp437),
   (["cp720"], page .cp720),
   (["cp737"], page .cp737),
   (["cp775"], page .cp775),
   (["cp850"], page .cp850),
   (["cp852"], page .cp852),
   (["cp855"], page .cp855),
   (["cp856"], page .cp856),
   (["cp857"], page .cp857),
   (["cp858"], page .cp858),
   (["cp860"], page .cp860),
   (["cp861"], page .cp861),
   (["cp862"], page .cp862),
   (["cp863"], page .cp863),
   (["cp865"], page .cp865),
   (["cp866"], page .cp866),
   (["cp869"], page .cp869),
   (["cp874"], page .cp874),
   (["hz"], page .hz),
   (["iso8859_10"], page .iso8859_10),
   (["iso8859_11"], page .iso8859_11),
   (["iso8859_13"], page .iso8859_13),
   (["iso8859_14"], page .iso8859_14),
   (["iso8859_15"], page .iso8859_15),
   (["iso8859_16"], page .iso8859_16),
   (["iso8859_2"], page .iso8859_2),
   (["iso8859_3"], page .iso8859_3),
   (["iso8859_4"], page .iso8859_4),
   (["iso8859_5"], page .iso8859_5),
   (["iso8859_6"], page .iso8859_6),
   (["iso8859_7"], page .iso8859_7),
   (["iso8859_8"], page .iso8859_8),
   (["iso8859_9"], page .iso8859_9),
   (["koi8_r"], page .koi8R),
   (["koi8_t"], page .koi8T),
   (["koi8_u"], page .koi8U),
   (["kz1048"], page .kz1048),
   (["charmap", "latin_1", "raw_unicode_escape", "unicode_escape"], page .latin1),
   (["mac_croatian"], page .macCroatian),
   (["mac_cyrillic"], page .macCyrillic),
   (["mac_greek"], page .macGreek),
   (["mac_iceland"], page .macIceland),
   (["mac_latin2"], page .macLatin2),
   (["mac_roman"], page .macRoman),
   (["mac_romanian"], page .macRomanian),
   (["mac_turkish"], page .macTurkish),
   (["palmos"], page .palmos),
   (["tis_620"], page .tis620),
   (["cp037", "cp1026", "cp1140", "cp273", "cp424", "cp500", "cp864", "cp875", "mac_arabic",
    "mac_farsi"], notAscii),
   (["big5", "big5hkscs", "cp932", "cp949", "cp950", "euc_jis_2004", "euc_jisx0213", "euc_jp",
    "euc_kr", "gb18030", "gb2312", "gbk", "iso2022_kr", "johab", "shift_jis", "shift_jis_2004",
    "shift_jisx0213", "utf_16", "utf_16_be", "utf_16_le", "utf_32", "utf_32_be", "utf_32_le",
    "utf_7"], wide),
   (["base64_codec", "bz2_codec", "hex_codec", "quopri_codec", "rot_13", "uu_codec", "zlib_codec"], notText),
   (["idna"], idna),
   (["punycode"], punycode),
   (["undefined"], undefined)]

/-- Runs of signs between letters and digits count as one underscore; dots are kept. -/
def normalized (pending : Bool) (started : Bool) : List Char → List Char
  | [] => []
  | c :: cs =>
    if c.isAlphanum || c = '.' then
      (if pending && started then ['_', c.toLower] else [c.toLower]) ++ normalized false true cs
    else normalized true started cs

def find? (rows : List (List String × Codec)) (name : String) : Option Codec :=
  (rows.find? fun row => row.1.contains name).map (·.2)

def ofName? (name : String) : Option Codec :=
  let key := normalized false false name.toList
  let undotted := key.map fun c => if c = '.' then '_' else c
  (find? aliases (String.ofList key)).or
    ((find? aliases (String.ofList undotted)).or (find? names (String.ofList key)))

end Codec

end CardPress.Xml
