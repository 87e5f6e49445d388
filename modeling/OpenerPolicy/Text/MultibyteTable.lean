/-
  File:      OpenerPolicy/Text/MultibyteTable.lean
  Subject:   THE ENCODINGS OF EAST ASIAN TEXT THAT ARE KNOWN.

  * `Multibyte`, `Multibyte.decode` -- the encodings, and the text of bytes under them;
  * `multibyteNames` -- the names they are known by.
-/
import OpenerPolicy.Text.Iso2022

namespace OpenerPolicy.Text

/-- The encodings of East Asian text. -/
inductive Multibyte where
  | gb2312
  | gbk
  | gb18030
  | hz
  | big5
  | cp950
  | big5Hkscs
  | eucKr
  | cp949
  | johab
  | eucJp
  | eucJis0213 (e : Edition)
  | shiftJis
  | shiftJis0213 (e : Edition)
  | cp932
  | iso2022 (v : Iso2022.Variant)
  deriving DecidableEq, Repr

/-- **The text of bytes under an encoding.** -/
def Multibyte.decode : Multibyte → List UInt8 → Except MultibyteFault (List Char)
  | .gb2312 => gb2312Scheme.decode
  | .gbk => gbkScheme.decode
  | .gb18030 => gb18030Scheme.decode
  | .hz => hzScheme.decode
  | .big5 => big5Scheme.decode
  | .cp950 => cp950Scheme.decode
  | .big5Hkscs => big5HkscsScheme.decode
  | .eucKr => eucKrScheme.decode
  | .cp949 => cp949Scheme.decode
  | .johab => johabScheme.decode
  | .eucJp => eucJpScheme.decode
  | .eucJis0213 .current => (eucJis0213Scheme .current "euc_jis_2004").decode
  | .eucJis0213 .former => (eucJis0213Scheme .former "euc_jisx0213").decode
  | .shiftJis => shiftJisScheme.decode
  | .shiftJis0213 .current => (shiftJis0213Scheme .current "shift_jis_2004").decode
  | .shiftJis0213 .former => (shiftJis0213Scheme .former "shift_jisx0213").decode
  | .cp932 => cp932Scheme.decode
  | .iso2022 v => (Iso2022.iso2022Scheme v).decode

/-- The names of the encodings. -/
def multibyteNames : List (List String × Multibyte) :=
  [(["gb2312", "chinese", "csiso58gb231280", "euc_cn", "euccn", "eucgb2312_cn", "gb2312_1980",
      "gb2312_80", "iso_ir_58", "x_mac_simp_chinese"], .gb2312),
   (["gbk", "936", "cp936", "ms936"], .gbk),
   (["gb18030", "gb18030_2000"], .gb18030),
   (["hz", "hzgb", "hz_gb", "hz_gb_2312"], .hz),
   (["big5", "big5_tw", "csbig5", "x_mac_trad_chinese"], .big5),
   (["cp950", "950", "ms950"], .cp950),
   (["big5hkscs", "big5_hkscs", "hkscs"], .big5Hkscs),
   (["euc_kr", "euckr", "korean", "ksc5601", "ks_c_5601", "ks_c_5601_1987", "ksx1001", "ks_x_1001",
      "x_mac_korean"], .eucKr),
   (["cp949", "949", "ms949", "uhc"], .cp949),
   (["johab", "cp1361", "ms1361"], .johab),
   (["euc_jp", "eucjp", "ujis", "u_jis"], .eucJp),
   (["euc_jis_2004", "jisx0213", "eucjis2004", "euc_jis2004"], .eucJis0213 .current),
   (["euc_jisx0213", "eucjisx0213"], .eucJis0213 .former),
   (["shift_jis", "csshiftjis", "shiftjis", "sjis", "s_jis", "x_mac_japanese"], .shiftJis),
   (["shift_jis_2004", "shiftjis2004", "sjis_2004", "s_jis_2004"], .shiftJis0213 .current),
   (["shift_jisx0213", "shiftjisx0213", "sjisx0213", "s_jisx0213"], .shiftJis0213 .former),
   (["cp932", "932", "ms932", "mskanji", "ms_kanji"], .cp932),
   (["iso2022_jp", "csiso2022jp", "iso2022jp", "iso_2022_jp"], .iso2022 Iso2022.jp),
   (["iso2022_jp_1", "iso2022jp_1", "iso_2022_jp_1"], .iso2022 Iso2022.jp1),
   (["iso2022_jp_2", "iso2022jp_2", "iso_2022_jp_2"], .iso2022 Iso2022.jp2),
   (["iso2022_jp_2004", "iso_2022_jp_2004", "iso2022jp_2004"], .iso2022 Iso2022.jp2004),
   (["iso2022_jp_3", "iso2022jp_3", "iso_2022_jp_3"], .iso2022 Iso2022.jp3),
   (["iso2022_jp_ext", "iso2022jp_ext", "iso_2022_jp_ext"], .iso2022 Iso2022.jpExt),
   (["iso2022_kr", "csiso2022kr", "iso2022kr", "iso_2022_kr"], .iso2022 Iso2022.kr)]

end OpenerPolicy.Text
