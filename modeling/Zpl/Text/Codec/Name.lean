import Zpl.Text.Codec.Hz
import Zpl.Text.Codec.Iso2022
import Zpl.Text.Codec.Page
import Zpl.Text.Codec.Unicode

/-!
# Names of codecs

A codec goes by a name of its own and by others. Capitals do not matter in a name, and neither does
what stands between its letters and digits.

## Main definitions

* `Codec` — the codecs for texts.
* `Codec.simplified` — a name in the form in which names are listed.
* `Codec.named` — what goes by a name.
-/

namespace Zpl

/-- The codecs for texts. -/
inductive Codec where
  /-- UTF-8, and whether the text comes after a mark. -/
  | utf8 (marked : Bool)
  /-- UTF-16 in an order of bytes; without one there is a mark. -/
  | utf16 (order : Option ByteOrder)
  | utf32 (order : Option ByteOrder)
  | utf7
  | ascii
  | latin1
  | page (page : CodePage)
  | eastAsian (codec : EastAsian)
  | escaped (codec : Iso2022)
  | hz
  | escape
  | rawEscape
  | punycode
  | hostName
  /-- Refuses whatever there is. -/
  | undefined
  deriving DecidableEq, Repr

namespace Codec

/-- The names of a codec. -/
structure Entry where
  codec : Codec
  name : String
  aliases : List String := []
  deriving Repr

/-- Codecs of all of Unicode, and the simplest others. -/
def unicodeEntries : List Entry :=
  [
    { codec := .utf8 false
      name := "utf_8"
      aliases :=
        ["u8", "utf", "utf8", "utf8_ucs2", "utf8_ucs4", "cp65001"] },
    { codec := .utf8 true, name := "utf_8_sig" },
    { codec := .utf16 none
      name := "utf_16"
      aliases :=
        ["u16", "utf16"] },
    { codec := .utf16 (some .little)
      name := "utf_16_le"
      aliases :=
        ["unicodelittleunmarked", "utf_16le"] },
    { codec := .utf16 (some .big)
      name := "utf_16_be"
      aliases :=
        ["unicodebigunmarked", "utf_16be"] },
    { codec := .utf32 none
      name := "utf_32"
      aliases :=
        ["u32", "utf32"] },
    { codec := .utf32 (some .little)
      name := "utf_32_le"
      aliases :=
        ["utf_32le"] },
    { codec := .utf32 (some .big)
      name := "utf_32_be"
      aliases :=
        ["utf_32be"] },
    { codec := .utf7
      name := "utf_7"
      aliases :=
        ["u7", "utf7", "unicode_1_1_utf_7"] },
    { codec := .ascii
      name := "ascii"
      aliases :=
        ["646", "ansi_x3.4_1968", "ansi_x3_4_1968", "ansi_x3.4_1986", "cp367", "csascii", "ibm367",
          "iso646_us", "iso_646.irv_1991", "iso_ir_6", "us", "us_ascii"] },
    { codec := .latin1
      name := "latin_1"
      aliases :=
        ["8859", "cp819", "csisolatin1", "ibm819", "iso8859", "iso8859_1", "iso_8859_1",
          "iso_8859_1_1987", "iso_ir_100", "l1", "latin", "latin1"] },
    { codec := .latin1, name := "charmap" },
    { codec := .escape, name := "unicode_escape" },
    { codec := .rawEscape, name := "raw_unicode_escape" },
    { codec := .punycode, name := "punycode" },
    { codec := .hostName, name := "idna" },
    { codec := .undefined, name := "undefined" }
  ]

/-- Code pages of Windows. -/
def windowsEntries : List Entry :=
  [
    { codec := .page .cp874, name := "cp874" },
    { codec := .page .cp1250
      name := "cp1250"
      aliases :=
        ["1250", "windows_1250"] },
    { codec := .page .cp1251
      name := "cp1251"
      aliases :=
        ["1251", "windows_1251"] },
    { codec := .page .cp1252
      name := "cp1252"
      aliases :=
        ["1252", "windows_1252"] },
    { codec := .page .cp1253
      name := "cp1253"
      aliases :=
        ["1253", "windows_1253"] },
    { codec := .page .cp1254
      name := "cp1254"
      aliases :=
        ["1254", "windows_1254"] },
    { codec := .page .cp1255
      name := "cp1255"
      aliases :=
        ["1255", "windows_1255"] },
    { codec := .page .cp1256
      name := "cp1256"
      aliases :=
        ["1256", "windows_1256"] },
    { codec := .page .cp1257
      name := "cp1257"
      aliases :=
        ["1257", "windows_1257"] },
    { codec := .page .cp1258
      name := "cp1258"
      aliases :=
        ["1258", "windows_1258"] }
  ]

/-- Code pages of DOS. -/
def dosEntries : List Entry :=
  [
    { codec := .page .cp437
      name := "cp437"
      aliases :=
        ["437", "cspc8codepage437", "ibm437"] },
    { codec := .page .cp720, name := "cp720" },
    { codec := .page .cp737, name := "cp737" },
    { codec := .page .cp775
      name := "cp775"
      aliases :=
        ["775", "cspc775baltic", "ibm775"] },
    { codec := .page .cp850
      name := "cp850"
      aliases :=
        ["850", "cspc850multilingual", "ibm850"] },
    { codec := .page .cp852
      name := "cp852"
      aliases :=
        ["852", "cspcp852", "ibm852"] },
    { codec := .page .cp855
      name := "cp855"
      aliases :=
        ["855", "csibm855", "ibm855"] },
    { codec := .page .cp856, name := "cp856" },
    { codec := .page .cp857
      name := "cp857"
      aliases :=
        ["857", "csibm857", "ibm857"] },
    { codec := .page .cp858
      name := "cp858"
      aliases :=
        ["858", "csibm858", "ibm858"] },
    { codec := .page .cp860
      name := "cp860"
      aliases :=
        ["860", "csibm860", "ibm860"] },
    { codec := .page .cp861
      name := "cp861"
      aliases :=
        ["861", "cp_is", "csibm861", "ibm861"] },
    { codec := .page .cp862
      name := "cp862"
      aliases :=
        ["862", "cspc862latinhebrew", "ibm862"] },
    { codec := .page .cp863
      name := "cp863"
      aliases :=
        ["863", "csibm863", "ibm863"] },
    { codec := .page .cp864
      name := "cp864"
      aliases :=
        ["864", "csibm864", "ibm864"] },
    { codec := .page .cp865
      name := "cp865"
      aliases :=
        ["865", "csibm865", "ibm865"] },
    { codec := .page .cp866
      name := "cp866"
      aliases :=
        ["866", "csibm866", "ibm866"] },
    { codec := .page .cp869
      name := "cp869"
      aliases :=
        ["869", "cp_gr", "csibm869", "ibm869"] },
    { codec := .page .cp1125
      name := "cp1125"
      aliases :=
        ["1125", "ibm1125", "cp866u", "ruscii"] }
  ]

/-- Parts of ISO 8859. -/
def isoEntries : List Entry :=
  [
    { codec := .page .isoPart2
      name := "iso8859_2"
      aliases :=
        ["csisolatin2", "iso_8859_2", "iso_8859_2_1987", "iso_ir_101", "l2", "latin2"] },
    { codec := .page .isoPart3
      name := "iso8859_3"
      aliases :=
        ["csisolatin3", "iso_8859_3", "iso_8859_3_1988", "iso_ir_109", "l3", "latin3"] },
    { codec := .page .isoPart4
      name := "iso8859_4"
      aliases :=
        ["csisolatin4", "iso_8859_4", "iso_8859_4_1988", "iso_ir_110", "l4", "latin4"] },
    { codec := .page .isoPart5
      name := "iso8859_5"
      aliases :=
        ["csisolatincyrillic", "cyrillic", "iso_8859_5", "iso_8859_5_1988", "iso_ir_144"] },
    { codec := .page .isoPart6
      name := "iso8859_6"
      aliases :=
        ["arabic", "asmo_708", "csisolatinarabic", "ecma_114", "iso_8859_6", "iso_8859_6_1987",
          "iso_ir_127"] },
    { codec := .page .isoPart7
      name := "iso8859_7"
      aliases :=
        ["csisolatingreek", "ecma_118", "elot_928", "greek", "greek8", "iso_8859_7",
          "iso_8859_7_1987", "iso_ir_126"] },
    { codec := .page .isoPart8
      name := "iso8859_8"
      aliases :=
        ["csisolatinhebrew", "hebrew", "iso_8859_8", "iso_8859_8_1988", "iso_ir_138"] },
    { codec := .page .isoPart9
      name := "iso8859_9"
      aliases :=
        ["csisolatin5", "iso_8859_9", "iso_8859_9_1989", "iso_ir_148", "l5", "latin5"] },
    { codec := .page .isoPart10
      name := "iso8859_10"
      aliases :=
        ["csisolatin6", "iso_8859_10", "iso_8859_10_1992", "iso_ir_157", "l6", "latin6"] },
    { codec := .page .isoPart11
      name := "iso8859_11"
      aliases :=
        ["thai", "iso_8859_11", "iso_8859_11_2001"] },
    { codec := .page .isoPart13
      name := "iso8859_13"
      aliases :=
        ["iso_8859_13", "l7", "latin7"] },
    { codec := .page .isoPart14
      name := "iso8859_14"
      aliases :=
        ["iso_8859_14", "iso_8859_14_1998", "iso_celtic", "iso_ir_199", "l8", "latin8"] },
    { codec := .page .isoPart15
      name := "iso8859_15"
      aliases :=
        ["iso_8859_15", "l9", "latin9"] },
    { codec := .page .isoPart16
      name := "iso8859_16"
      aliases :=
        ["iso_8859_16", "iso_8859_16_2001", "iso_ir_226", "l10", "latin10"] }
  ]

/-- Code pages of the Macintosh. -/
def macEntries : List Entry :=
  [
    { codec := .page .macArabic, name := "mac_arabic" },
    { codec := .page .macCroatian, name := "mac_croatian" },
    { codec := .page .macCyrillic
      name := "mac_cyrillic"
      aliases :=
        ["maccyrillic"] },
    { codec := .page .macFarsi, name := "mac_farsi" },
    { codec := .page .macGreek
      name := "mac_greek"
      aliases :=
        ["macgreek"] },
    { codec := .page .macIceland
      name := "mac_iceland"
      aliases :=
        ["maciceland"] },
    { codec := .page .macLatin2
      name := "mac_latin2"
      aliases :=
        ["maccentraleurope", "mac_centeuro", "maclatin2"] },
    { codec := .page .macRoman
      name := "mac_roman"
      aliases :=
        ["macintosh", "macroman"] },
    { codec := .page .macRomanian, name := "mac_romanian" },
    { codec := .page .macTurkish
      name := "mac_turkish"
      aliases :=
        ["macturkish"] }
  ]

/-- Code pages of mainframes. -/
def ebcdicEntries : List Entry :=
  [
    { codec := .page .cp037
      name := "cp037"
      aliases :=
        ["037", "csibm037", "ebcdic_cp_ca", "ebcdic_cp_nl", "ebcdic_cp_us", "ebcdic_cp_wt",
          "ibm037", "ibm039"] },
    { codec := .page .cp273
      name := "cp273"
      aliases :=
        ["273", "ibm273", "csibm273"] },
    { codec := .page .cp424
      name := "cp424"
      aliases :=
        ["424", "csibm424", "ebcdic_cp_he", "ibm424"] },
    { codec := .page .cp500
      name := "cp500"
      aliases :=
        ["500", "csibm500", "ebcdic_cp_be", "ebcdic_cp_ch", "ibm500"] },
    { codec := .page .cp875, name := "cp875" },
    { codec := .page .cp1026
      name := "cp1026"
      aliases :=
        ["1026", "csibm1026", "ibm1026"] },
    { codec := .page .cp1140
      name := "cp1140"
      aliases :=
        ["1140", "ibm1140"] }
  ]

/-- Code pages of single regions and devices. -/
def regionalEntries : List Entry :=
  [
    { codec := .page .cp1006, name := "cp1006" },
    { codec := .page .hpRoman8
      name := "hp_roman8"
      aliases :=
        ["roman8", "r8", "cp1051", "ibm1051"] },
    { codec := .page .koi8R
      name := "koi8_r"
      aliases :=
        ["cskoi8r"] },
    { codec := .page .koi8T, name := "koi8_t" },
    { codec := .page .koi8U, name := "koi8_u" },
    { codec := .page .kz1048
      name := "kz1048"
      aliases :=
        ["kz_1048", "rk1048", "strk1048_2002"] },
    { codec := .page .palmos, name := "palmos" },
    { codec := .page .ptcp154
      name := "ptcp154"
      aliases :=
        ["csptcp154", "pt154", "cp154", "cyrillic_asian"] },
    { codec := .page .tis620
      name := "tis_620"
      aliases :=
        ["tis620", "tis_620_0", "tis_620_2529_0", "tis_620_2529_1", "iso_ir_166"] }
  ]

/-- Codecs of East Asia. -/
def eastAsianEntries : List Entry :=
  [
    { codec := .eastAsian .gb2312
      name := "gb2312"
      aliases :=
        ["chinese", "csiso58gb231280", "euc_cn", "euccn", "eucgb2312_cn", "gb2312_1980",
          "gb2312_80", "iso_ir_58", "x_mac_simp_chinese"] },
    { codec := .eastAsian .gbk
      name := "gbk"
      aliases :=
        ["936", "cp936", "ms936"] },
    { codec := .eastAsian .gb18030
      name := "gb18030"
      aliases :=
        ["gb18030_2000"] },
    { codec := .eastAsian .bigFive
      name := "big5"
      aliases :=
        ["big5_tw", "csbig5", "x_mac_trad_chinese"] },
    { codec := .eastAsian .cp950
      name := "cp950"
      aliases :=
        ["950", "ms950"] },
    { codec := .eastAsian .hongKong
      name := "big5hkscs"
      aliases :=
        ["big5_hkscs", "hkscs"] },
    { codec := .eastAsian .eucJp
      name := "euc_jp"
      aliases :=
        ["eucjp", "ujis", "u_jis"] },
    { codec := .eastAsian .eucJisX0213
      name := "euc_jisx0213"
      aliases :=
        ["eucjisx0213"] },
    { codec := .eastAsian .eucJis2004
      name := "euc_jis_2004"
      aliases :=
        ["jisx0213", "eucjis2004", "euc_jis2004"] },
    { codec := .eastAsian .shiftJis
      name := "shift_jis"
      aliases :=
        ["csshiftjis", "shiftjis", "sjis", "s_jis", "x_mac_japanese"] },
    { codec := .eastAsian .cp932
      name := "cp932"
      aliases :=
        ["932", "ms932", "mskanji", "ms_kanji"] },
    { codec := .eastAsian .shiftJisX0213
      name := "shift_jisx0213"
      aliases :=
        ["shiftjisx0213", "sjisx0213", "s_jisx0213"] },
    { codec := .eastAsian .shiftJis2004
      name := "shift_jis_2004"
      aliases :=
        ["shiftjis2004", "sjis_2004", "s_jis_2004"] },
    { codec := .eastAsian .eucKr
      name := "euc_kr"
      aliases :=
        ["euckr", "korean", "ksc5601", "ks_c_5601", "ks_c_5601_1987", "ksx1001", "ks_x_1001",
          "x_mac_korean"] },
    { codec := .eastAsian .cp949
      name := "cp949"
      aliases :=
        ["949", "ms949", "uhc"] },
    { codec := .eastAsian .johab
      name := "johab"
      aliases :=
        ["cp1361", "ms1361"] }
  ]

/-- Codecs of East Asia in bytes of ASCII. -/
def escapedEntries : List Entry :=
  [
    { codec := .escaped .japanese
      name := "iso2022_jp"
      aliases :=
        ["csiso2022jp", "iso2022jp", "iso_2022_jp"] },
    { codec := .escaped .supplemented
      name := "iso2022_jp_1"
      aliases :=
        ["iso2022jp_1", "iso_2022_jp_1"] },
    { codec := .escaped .international
      name := "iso2022_jp_2"
      aliases :=
        ["iso2022jp_2", "iso_2022_jp_2"] },
    { codec := .escaped (.jisX0213 .first)
      name := "iso2022_jp_3"
      aliases :=
        ["iso2022jp_3", "iso_2022_jp_3"] },
    { codec := .escaped (.jisX0213 .revised)
      name := "iso2022_jp_2004"
      aliases :=
        ["iso_2022_jp_2004", "iso2022jp_2004"] },
    { codec := .escaped .extended
      name := "iso2022_jp_ext"
      aliases :=
        ["iso2022jp_ext", "iso_2022_jp_ext"] },
    { codec := .escaped .korean
      name := "iso2022_kr"
      aliases :=
        ["csiso2022kr", "iso2022kr", "iso_2022_kr"] },
    { codec := .hz
      name := "hz"
      aliases :=
        ["hzgb", "hz_gb", "hz_gb_2312"] }
  ]

/-- The codecs with their names. -/
def entries : List Entry :=
  unicodeEntries ++ windowsEntries ++ dosEntries ++ isoEntries
    ++ macEntries ++ ebcdicEntries ++ regionalEntries ++ eastAsianEntries ++ escapedEntries

/-- Names of codecs that are not for texts. -/
def binaryNames : List String :=
  ["base64_codec", "bz2_codec", "hex_codec", "quopri_codec", "rot_13", "uu_codec", "zlib_codec"]

/-- Other names of codecs that are not for texts. -/
def binaryAliases : List String :=
  ["base64", "base_64", "bz2", "hex", "quopri", "quoted_printable", "quotedprintable", "rot13",
    "uu", "zip", "zlib"]

/-- Whether a character belongs to a name, and does not only separate its parts. -/
def isNamePart (c : CodePoint) : Bool :=
  let n := c.code
  n == 0x2E || (0x30 ≤ n && n ≤ 0x39) || (0x41 ≤ n && n ≤ 0x5A) || (0x61 ≤ n && n ≤ 0x7A)

/-- A character of a name in small letters. -/
def small (c : CodePoint) : Char :=
  if 0x41 ≤ c.code ∧ c.code ≤ 0x5A then Char.ofNat (c.code + 0x20) else Char.ofNat c.code

/-- The rest of a name with one low line between its parts; `parted` says whether there is
something between what comes before and what follows, `started` whether anything does. -/
def simplifyFrom (started parted : Bool) : Text → List Char
  | [] => []
  | c :: rest =>
    if isNamePart c then
      (if started && parted then ['_', small c] else [small c]) ++ simplifyFrom true false rest
    else simplifyFrom started true rest

/-- A name in small letters, with one low line between its parts. -/
def simplified (name : Text) : String := .ofList (simplifyFrom false false name)

/-- What goes by a name. -/
inductive Meaning where
  | codec (codec : Codec)
  /-- A codec that is not for texts. -/
  | binary
  | unknown

/-- What goes by a name. A name with dots is only looked for among the others of a codec, where low
lines may stand for the dots. -/
def named (name : Text) : Meaning :=
  let key := simplified name
  let undotted := key.map fun c => if c = '.' then '_' else c
  match entries.find? fun e => e.name == key || e.aliases.contains key
      || e.aliases.contains undotted with
  | some e => .codec e.codec
  | none =>
    if binaryNames.contains key || binaryAliases.contains undotted then .binary else .unknown

/-- The simplified names of the codecs that are most at hand. -/
def commonNames : List String :=
  ["utf8", "utf_8", "utf16", "utf_16", "utf32", "utf_32", "ascii", "us_ascii", "latin1", "latin_1",
    "iso_8859_1", "iso8859_1"]

/-- Whether a name is one of those that are most at hand. -/
def isCommon (name : Text) : Bool := commonNames.contains (simplified name)

end Codec

end Zpl
