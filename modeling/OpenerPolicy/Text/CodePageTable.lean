/-
  File:      OpenerPolicy/Text/CodePageTable.lean
  Subject:   THE CODE PAGES THAT ARE KNOWN.

  Data only. The pages of the ISO 8859 family are named by their part, all others by their own names.
  Pages that are no extension of ASCII start at the byte zero. Characters without a visible form are
  written by their numbers.

  * `codePages` -- all of them.
-/
import OpenerPolicy.Text.CodePage

namespace OpenerPolicy.Text

namespace CodePage

def cp037 : CodePage where
  names := ["cp037", "037", "csibm037", "ebcdic_cp_ca", "ebcdic_cp_nl", "ebcdic_cp_us",
    "ebcdic_cp_wt", "ibm037", "ibm039"]
  first := 0x00
  rows :=
    ["\x00\x01\x02\x03\u009c\x09\u0086\x7f\u0097\u008d\u008e\x0b\x0c\x0d\x0e\x0f",
     "\x10\x11\x12\x13\u009d\u0085\x08\u0087\x18\x19\u0092\u008f\x1c\x1d\x1e\x1f",
     "\u0080\u0081\u0082\u0083\u0084\x0a\x17\x1b\u0088\u0089\u008a\u008b\u008c\x05\x06\x07",
     "\u0090\u0091\x16\u0093\u0094\u0095\u0096\x04\u0098\u0099\u009a\u009b\x14\x15\u009e\x1a",
     " \u00a0âäàáãåçñ¢.<(+|", "&éêëèíîïìß!$*);¬", "\x2d/ÂÄÀÁÃÅÇÑ¦,%_>?", "øÉÊËÈÍÎÏÌ\x60:#@'=\"",
     "Øabcdefghi«»ðýþ±", "°jklmnopqrªºæ¸Æ¤", "µ~stuvwxyz¡¿ÐÝÞ®", "^£¥·©§¶¼½¾[]¯¨´×",
     "\x7bABCDEFGHI\u00adôöòóõ", "\x7dJKLMNOPQR¹ûüùúÿ", "\\÷STUVWXYZ²ÔÖÒÓÕ",
     "0123456789³ÛÜÙÚ\u009f"]

def cp1006 : CodePage where
  names := ["cp1006"]
  first := 0x80
  rows :=
    ["\u0080\u0081\u0082\u0083\u0084\u0085\u0086\u0087",
     "\u0088\u0089\u008a\u008b\u008c\u008d\u008e\u008f",
     "\u0090\u0091\u0092\u0093\u0094\u0095\u0096\u0097",
     "\u0098\u0099\u009a\u009b\u009c\u009d\u009e\u009f",
     "\u00a0۰۱۲۳۴۵۶۷۸۹،\u061b\u00ad\u061f\ufe81",
     "\ufe8d\ufe8e\ufe8e\ufe8f\ufe91\ufb56\ufb58\ufe93",
     "\ufe95\ufe97\ufb66\ufb68\ufe99\ufe9b\ufe9d\ufe9f",
     "\ufb7a\ufb7c\ufea1\ufea3\ufea5\ufea7\ufea9\ufb84",
     "\ufeab\ufead\ufb8c\ufeaf\ufb8a\ufeb1\ufeb3\ufeb5",
     "\ufeb7\ufeb9\ufebb\ufebd\ufebf\ufec1\ufec5\ufec9",
     "\ufeca\ufecb\ufecc\ufecd\ufece\ufecf\ufed0\ufed1",
     "\ufed3\ufed5\ufed7\ufed9\ufedb\ufb92\ufb94\ufedd",
     "\ufedf\ufee0\ufee1\ufee3\ufb9e\ufee5\ufee7\ufe85",
     "\ufeed\ufba6\ufba8\ufba9\ufbaa\ufe80\ufe89\ufe8a",
     "\ufe8b\ufef1\ufef2\ufef3\ufbb0\ufbae\ufe7c\ufe7d"]

def cp1026 : CodePage where
  names := ["cp1026", "1026", "csibm1026", "ibm1026"]
  first := 0x00
  rows :=
    ["\x00\x01\x02\x03\u009c\x09\u0086\x7f\u0097\u008d\u008e\x0b\x0c\x0d\x0e\x0f",
     "\x10\x11\x12\x13\u009d\u0085\x08\u0087\x18\x19\u0092\u008f\x1c\x1d\x1e\x1f",
     "\u0080\u0081\u0082\u0083\u0084\x0a\x17\x1b\u0088\u0089\u008a\u008b\u008c\x05\x06\x07",
     "\u0090\u0091\x16\u0093\u0094\u0095\u0096\x04\u0098\u0099\u009a\u009b\x14\x15\u009e\x1a",
     " \u00a0âäàáãå\x7bñÇ.<(+!", "&éêëèíîïìßĞİ*);^", "\x2d/ÂÄÀÁÃÅ[Ñş,%_>?", "øÉÊËÈÍÎÏÌı:ÖŞ'=Ü",
     "Øabcdefghi«»\x7d\x60¦±", "°jklmnopqrªºæ¸Æ¤", "µöstuvwxyz¡¿]$@®", "¢£¥·©§¶¼½¾¬|¯¨´×",
     "çABCDEFGHI\u00adô~òóõ", "ğJKLMNOPQR¹û\\ùúÿ", "ü÷STUVWXYZ²Ô#ÒÓÕ", "0123456789³Û\"ÙÚ\u009f"]

def cp1125 : CodePage where
  names := ["cp1125", "1125", "cp866u", "ibm1125", "ruscii"]
  first := 0x80
  rows :=
    ["АБВГДЕЖЗИЙКЛМНОП", "РСТУФХЦЧШЩЪЫЬЭЮЯ", "абвгдежзийклмноп", "░▒▓│┤╡╢╖╕╣║╗╝╜╛┐",
     "└┴┬├─┼╞╟╚╔╩╦╠═╬╧", "╨╤╥╙╘╒╓╫╪┘┌█▄▌▐▀", "рстуфхцчшщъыьэюя", "ЁёҐґЄєІіЇї·√№¤■\u00a0"]

def cp1140 : CodePage where
  names := ["cp1140", "1140", "ibm1140"]
  first := 0x00
  rows :=
    ["\x00\x01\x02\x03\u009c\x09\u0086\x7f\u0097\u008d\u008e\x0b\x0c\x0d\x0e\x0f",
     "\x10\x11\x12\x13\u009d\u0085\x08\u0087\x18\x19\u0092\u008f\x1c\x1d\x1e\x1f",
     "\u0080\u0081\u0082\u0083\u0084\x0a\x17\x1b\u0088\u0089\u008a\u008b\u008c\x05\x06\x07",
     "\u0090\u0091\x16\u0093\u0094\u0095\u0096\x04\u0098\u0099\u009a\u009b\x14\x15\u009e\x1a",
     " \u00a0âäàáãåçñ¢.<(+|", "&éêëèíîïìß!$*);¬", "\x2d/ÂÄÀÁÃÅÇÑ¦,%_>?", "øÉÊËÈÍÎÏÌ\x60:#@'=\"",
     "Øabcdefghi«»ðýþ±", "°jklmnopqrªºæ¸Æ€", "µ~stuvwxyz¡¿ÐÝÞ®", "^£¥·©§¶¼½¾[]¯¨´×",
     "\x7bABCDEFGHI\u00adôöòóõ", "\x7dJKLMNOPQR¹ûüùúÿ", "\\÷STUVWXYZ²ÔÖÒÓÕ",
     "0123456789³ÛÜÙÚ\u009f"]

def cp1250 : CodePage where
  names := ["cp1250", "1250", "windows_1250"]
  first := 0x80
  rows :=
    ["€\ufffe‚\ufffe„…†‡\ufffe‰Š‹ŚŤŽŹ", "\ufffe‘’“”•–—\ufffe™š›śťžź",
     "\u00a0\u02c7˘Ł¤Ą¦§¨©Ş«¬\u00ad®Ż", "°±˛ł´µ¶·¸ąş»Ľ˝ľż", "ŔÁÂĂÄĹĆÇČÉĘËĚÍÎĎ", "ĐŃŇÓÔŐÖ×ŘŮÚŰÜÝŢß",
     "ŕáâăäĺćçčéęëěíîď", "đńňóôőö÷řůúűüýţ˙"]

def cp1251 : CodePage where
  names := ["cp1251", "1251", "windows_1251"]
  first := 0x80
  rows :=
    ["ЂЃ‚ѓ„…†‡€‰Љ‹ЊЌЋЏ", "ђ‘’“”•–—\ufffe™љ›њќћџ", "\u00a0ЎўЈ¤Ґ¦§Ё©Є«¬\u00ad®Ї", "°±Ііґµ¶·ё№є»јЅѕї",
     "АБВГДЕЖЗИЙКЛМНОП", "РСТУФХЦЧШЩЪЫЬЭЮЯ", "абвгдежзийклмноп", "рстуфхцчшщъыьэюя"]

def cp1252 : CodePage where
  names := ["cp1252", "1252", "windows_1252"]
  first := 0x80
  rows :=
    ["€\ufffe‚ƒ„…†‡\u02c6‰Š‹Œ\ufffeŽ\ufffe", "\ufffe‘’“”•–—˜™š›œ\ufffežŸ",
     "\u00a0¡¢£¤¥¦§¨©ª«¬\u00ad®¯", "°±²³´µ¶·¸¹º»¼½¾¿", "ÀÁÂÃÄÅÆÇÈÉÊËÌÍÎÏ", "ÐÑÒÓÔÕÖ×ØÙÚÛÜÝÞß",
     "àáâãäåæçèéêëìíîï", "ðñòóôõö÷øùúûüýþÿ"]

def cp1253 : CodePage where
  names := ["cp1253", "1253", "windows_1253"]
  first := 0x80
  rows :=
    ["€\ufffe‚ƒ„…†‡\ufffe‰\ufffe‹\ufffe\ufffe\ufffe\ufffe",
     "\ufffe‘’“”•–—\ufffe™\ufffe›\ufffe\ufffe\ufffe\ufffe", "\u00a0΅Ά£¤¥¦§¨©\ufffe«¬\u00ad®―",
     "°±²³΄µ¶·ΈΉΊ»Ό½ΎΏ", "ΐΑΒΓΔΕΖΗΘΙΚΛΜΝΞΟ", "ΠΡ\ufffeΣΤΥΦΧΨΩΪΫάέήί", "ΰαβγδεζηθικλμνξο",
     "πρςστυφχψωϊϋόύώ\ufffe"]

def cp1254 : CodePage where
  names := ["cp1254", "1254", "windows_1254"]
  first := 0x80
  rows :=
    ["€\ufffe‚ƒ„…†‡\u02c6‰Š‹Œ\ufffe\ufffe\ufffe", "\ufffe‘’“”•–—˜™š›œ\ufffe\ufffeŸ",
     "\u00a0¡¢£¤¥¦§¨©ª«¬\u00ad®¯", "°±²³´µ¶·¸¹º»¼½¾¿", "ÀÁÂÃÄÅÆÇÈÉÊËÌÍÎÏ", "ĞÑÒÓÔÕÖ×ØÙÚÛÜİŞß",
     "àáâãäåæçèéêëìíîï", "ğñòóôõö÷øùúûüışÿ"]

def cp1255 : CodePage where
  names := ["cp1255", "1255", "windows_1255"]
  first := 0x80
  rows :=
    ["€\ufffe‚ƒ„…†‡\u02c6‰\ufffe‹\ufffe\ufffe\ufffe\ufffe",
     "\ufffe‘’“”•–—˜™\ufffe›\ufffe\ufffe\ufffe\ufffe", "\u00a0¡¢£₪¥¦§¨©×«¬\u00ad®¯",
     "°±²³´µ¶·¸¹÷»¼½¾¿", "\u05b0\u05b1\u05b2\u05b3\u05b4\u05b5\u05b6\u05b7",
     "\u05b8\u05b9\ufffe\u05bb\u05bc\u05bd\u05be\u05bf",
     "\u05c0\u05c1\u05c2\u05c3\u05f0\u05f1\u05f2\u05f3",
     "\u05f4\ufffe\ufffe\ufffe\ufffe\ufffe\ufffe\ufffe",
     "\u05d0\u05d1\u05d2\u05d3\u05d4\u05d5\u05d6\u05d7",
     "\u05d8\u05d9\u05da\u05db\u05dc\u05dd\u05de\u05df",
     "\u05e0\u05e1\u05e2\u05e3\u05e4\u05e5\u05e6\u05e7",
     "\u05e8\u05e9\u05ea\ufffe\ufffe\u200e\u200f\ufffe"]

def cp1256 : CodePage where
  names := ["cp1256", "1256", "windows_1256"]
  first := 0x80
  rows :=
    ["€\u067e‚ƒ„…†‡\u02c6‰\u0679‹Œ\u0686\u0698\u0688",
     "\u06af‘’“”•–—\u06a9™\u0691›œ\u200c\u200d\u06ba", "\u00a0،¢£¤¥¦§¨©\u06be«¬\u00ad®¯",
     "°±²³´µ¶·¸¹\u061b»¼½¾\u061f", "\u06c1\u0621\u0622\u0623\u0624\u0625\u0626\u0627",
     "\u0628\u0629\u062a\u062b\u062c\u062d\u062e\u062f",
     "\u0630\u0631\u0632\u0633\u0634\u0635\u0636×",
     "\u0637\u0638\u0639\u063a\u0640\u0641\u0642\u0643",
     "à\u0644â\u0645\u0646\u0647\u0648çèéêë\u0649\u064aîï",
     "\u064b\u064c\u064d\u064eô\u064f\u0650÷\u0651ù\u0652ûü\u200e\u200f\u06d2"]

def cp1257 : CodePage where
  names := ["cp1257", "1257", "windows_1257"]
  first := 0x80
  rows :=
    ["€\ufffe‚\ufffe„…†‡\ufffe‰\ufffe‹\ufffe¨\u02c7¸", "\ufffe‘’“”•–—\ufffe™\ufffe›\ufffe¯˛\ufffe",
     "\u00a0\ufffe¢£¤\ufffe¦§Ø©Ŗ«¬\u00ad®Æ", "°±²³´µ¶·ø¹ŗ»¼½¾æ", "ĄĮĀĆÄÅĘĒČÉŹĖĢĶĪĻ",
     "ŠŃŅÓŌÕÖ×ŲŁŚŪÜŻŽß", "ąįāćäåęēčéźėģķīļ", "šńņóōõö÷ųłśūüżž˙"]

def cp1258 : CodePage where
  names := ["cp1258", "1258", "windows_1258"]
  first := 0x80
  rows :=
    ["€\ufffe‚ƒ„…†‡\u02c6‰\ufffe‹Œ\ufffe\ufffe\ufffe", "\ufffe‘’“”•–—˜™\ufffe›œ\ufffe\ufffeŸ",
     "\u00a0¡¢£¤¥¦§¨©ª«¬\u00ad®¯", "°±²³´µ¶·¸¹º»¼½¾¿", "ÀÁÂĂÄÅÆÇÈÉÊË\u0300ÍÎÏ",
     "ĐÑ\u0309ÓÔƠÖ×ØÙÚÛÜƯ\u0303ß", "àáâăäåæçèéêë\u0301íîï", "đñ\u0323óôơö÷øùúûüư₫ÿ"]

def cp273 : CodePage where
  names := ["cp273", "273", "csibm273", "ibm273"]
  first := 0x00
  rows :=
    ["\x00\x01\x02\x03\u009c\x09\u0086\x7f\u0097\u008d\u008e\x0b\x0c\x0d\x0e\x0f",
     "\x10\x11\x12\x13\u009d\u0085\x08\u0087\x18\x19\u0092\u008f\x1c\x1d\x1e\x1f",
     "\u0080\u0081\u0082\u0083\u0084\x0a\x17\x1b\u0088\u0089\u008a\u008b\u008c\x05\x06\x07",
     "\u0090\u0091\x16\u0093\u0094\u0095\u0096\x04\u0098\u0099\u009a\u009b\x14\x15\u009e\x1a",
     " \u00a0â\x7bàáãåçñÄ.<(+!", "&éêëèíîïì~Ü$*);^", "\x2d/Â[ÀÁÃÅÇÑö,%_>?", "øÉÊËÈÍÎÏÌ\x60:#§'=\"",
     "Øabcdefghi«»ðýþ±", "°jklmnopqrªºæ¸Æ¤", "µßstuvwxyz¡¿ÐÝÞ®", "¢£¥·©@¶¼½¾¬|‾¨´×",
     "äABCDEFGHI\u00adô¦òóõ", "üJKLMNOPQR¹û\x7dùúÿ", "Ö÷STUVWXYZ²Ô\\ÒÓÕ", "0123456789³Û]ÙÚ\u009f"]

def cp424 : CodePage where
  names := ["cp424", "424", "csibm424", "ebcdic_cp_he", "ibm424"]
  first := 0x00
  rows :=
    ["\x00\x01\x02\x03\u009c\x09\u0086\x7f\u0097\u008d\u008e\x0b\x0c\x0d\x0e\x0f",
     "\x10\x11\x12\x13\u009d\u0085\x08\u0087\x18\x19\u0092\u008f\x1c\x1d\x1e\x1f",
     "\u0080\u0081\u0082\u0083\u0084\x0a\x17\x1b\u0088\u0089\u008a\u008b\u008c\x05\x06\x07",
     "\u0090\u0091\x16\u0093\u0094\u0095\u0096\x04\u0098\u0099\u009a\u009b\x14\x15\u009e\x1a",
     " \u05d0\u05d1\u05d2\u05d3\u05d4\u05d5\u05d6\u05d7\u05d8¢.<(+|",
     "&\u05d9\u05da\u05db\u05dc\u05dd\u05de\u05df\u05e0\u05e1!$*);¬",
     "\x2d/\u05e2\u05e3\u05e4\u05e5\u05e6\u05e7\u05e8\u05e9¦,%_>?",
     "\ufffe\u05ea\ufffe\ufffe\u00a0\ufffe\ufffe\ufffe‗\x60:#@'=\"",
     "\ufffeabcdefghi«»\ufffe\ufffe\ufffe±", "°jklmnopqr\ufffe\ufffe\ufffe¸\ufffe¤",
     "µ~stuvwxyz\ufffe\ufffe\ufffe\ufffe\ufffe®", "^£¥·©§¶¼½¾[]¯¨´×",
     "\x7bABCDEFGHI\u00ad\ufffe\ufffe\ufffe\ufffe\ufffe",
     "\x7dJKLMNOPQR¹\ufffe\ufffe\ufffe\ufffe\ufffe", "\\÷STUVWXYZ²\ufffe\ufffe\ufffe\ufffe\ufffe",
     "0123456789³\ufffe\ufffe\ufffe\ufffe\u009f"]

def cp437 : CodePage where
  names := ["cp437", "437", "cspc8codepage437", "ibm437"]
  first := 0x80
  rows :=
    ["ÇüéâäàåçêëèïîìÄÅ", "ÉæÆôöòûùÿÖÜ¢£¥₧ƒ", "áíóúñÑªº¿⌐¬½¼¡«»", "░▒▓│┤╡╢╖╕╣║╗╝╜╛┐",
     "└┴┬├─┼╞╟╚╔╩╦╠═╬╧", "╨╤╥╙╘╒╓╫╪┘┌█▄▌▐▀", "αßΓπΣσµτΦΘΩδ∞φε∩", "≡±≥≤⌠⌡÷≈°∙·√\u207f²■\u00a0"]

def cp500 : CodePage where
  names := ["cp500", "500", "csibm500", "ebcdic_cp_be", "ebcdic_cp_ch", "ibm500"]
  first := 0x00
  rows :=
    ["\x00\x01\x02\x03\u009c\x09\u0086\x7f\u0097\u008d\u008e\x0b\x0c\x0d\x0e\x0f",
     "\x10\x11\x12\x13\u009d\u0085\x08\u0087\x18\x19\u0092\u008f\x1c\x1d\x1e\x1f",
     "\u0080\u0081\u0082\u0083\u0084\x0a\x17\x1b\u0088\u0089\u008a\u008b\u008c\x05\x06\x07",
     "\u0090\u0091\x16\u0093\u0094\u0095\u0096\x04\u0098\u0099\u009a\u009b\x14\x15\u009e\x1a",
     " \u00a0âäàáãåçñ[.<(+!", "&éêëèíîïìß]$*);^", "\x2d/ÂÄÀÁÃÅÇÑ¦,%_>?", "øÉÊËÈÍÎÏÌ\x60:#@'=\"",
     "Øabcdefghi«»ðýþ±", "°jklmnopqrªºæ¸Æ¤", "µ~stuvwxyz¡¿ÐÝÞ®", "¢£¥·©§¶¼½¾¬|¯¨´×",
     "\x7bABCDEFGHI\u00adôöòóõ", "\x7dJKLMNOPQR¹ûüùúÿ", "\\÷STUVWXYZ²ÔÖÒÓÕ",
     "0123456789³ÛÜÙÚ\u009f"]

def cp720 : CodePage where
  names := ["cp720"]
  first := 0x80
  rows :=
    ["\u0080\u0081éâ\u0084à\u0086çêëèïî\u008d\u008e\u008f",
     "\u0090\u0651\u0652ô¤\u0640ûù\u0621\u0622\u0623\u0624£\u0625\u0626\u0627",
     "\u0628\u0629\u062a\u062b\u062c\u062d\u062e\u062f\u0630\u0631\u0632\u0633\u0634\u0635«»",
     "░▒▓│┤╡╢╖╕╣║╗╝╜╛┐", "└┴┬├─┼╞╟╚╔╩╦╠═╬╧", "╨╤╥╙╘╒╓╫╪┘┌█▄▌▐▀",
     "\u0636\u0637\u0638\u0639\u063a\u0641µ\u0642",
     "\u0643\u0644\u0645\u0646\u0647\u0648\u0649\u064a",
     "≡\u064b\u064c\u064d\u064e\u064f\u0650≈°∙·√\u207f²■\u00a0"]

def cp737 : CodePage where
  names := ["cp737"]
  first := 0x80
  rows :=
    ["ΑΒΓΔΕΖΗΘΙΚΛΜΝΞΟΠ", "ΡΣΤΥΦΧΨΩαβγδεζηθ", "ικλμνξοπρσςτυφχψ", "░▒▓│┤╡╢╖╕╣║╗╝╜╛┐",
     "└┴┬├─┼╞╟╚╔╩╦╠═╬╧", "╨╤╥╙╘╒╓╫╪┘┌█▄▌▐▀", "ωάέήϊίόύϋώΆΈΉΊΌΎ", "Ώ±≥≤ΪΫ÷≈°∙·√\u207f²■\u00a0"]

def cp775 : CodePage where
  names := ["cp775", "775", "cspc775baltic", "ibm775"]
  first := 0x80
  rows :=
    ["ĆüéāäģåćłēŖŗīŹÄÅ", "ÉæÆōöĢ¢ŚśÖÜø£Ø×¤", "ĀĪóŻżź”¦©®¬½¼Ł«»", "░▒▓│┤ĄČĘĖ╣║╗╝ĮŠ┐",
     "└┴┬├─┼ŲŪ╚╔╩╦╠═╬Ž", "ąčęėįšųūž┘┌█▄▌▐▀", "ÓßŌŃõÕµńĶķĻļņĒŅ’", "\u00ad±“¾¶§÷„°∙·¹³²■\u00a0"]

def cp850 : CodePage where
  names := ["cp850", "850", "cspc850multilingual", "ibm850"]
  first := 0x80
  rows :=
    ["ÇüéâäàåçêëèïîìÄÅ", "ÉæÆôöòûùÿÖÜø£Ø×ƒ", "áíóúñÑªº¿®¬½¼¡«»", "░▒▓│┤ÁÂÀ©╣║╗╝¢¥┐",
     "└┴┬├─┼ãÃ╚╔╩╦╠═╬¤", "ðÐÊËÈıÍÎÏ┘┌█▄¦Ì▀", "ÓßÔÒõÕµþÞÚÛÙýÝ¯´", "\u00ad±‗¾¶§÷¸°¨·¹³²■\u00a0"]

def cp852 : CodePage where
  names := ["cp852", "852", "cspcp852", "ibm852"]
  first := 0x80
  rows :=
    ["ÇüéâäůćçłëŐőîŹÄĆ", "ÉĹĺôöĽľŚśÖÜŤťŁ×č", "áíóúĄąŽžĘę¬źČş«»", "░▒▓│┤ÁÂĚŞ╣║╗╝Żż┐",
     "└┴┬├─┼Ăă╚╔╩╦╠═╬¤", "đĐĎËďŇÍÎě┘┌█▄ŢŮ▀", "ÓßÔŃńňŠšŔÚŕŰýÝţ´", "\u00ad˝˛\u02c7˘§÷¸°¨˙űŘř■\u00a0"]

def cp855 : CodePage where
  names := ["cp855", "855", "csibm855", "ibm855"]
  first := 0x80
  rows :=
    ["ђЂѓЃёЁєЄѕЅіІїЇјЈ", "љЉњЊћЋќЌўЎџЏюЮъЪ", "аАбБцЦдДеЕфФгГ«»", "░▒▓│┤хХиИ╣║╗╝йЙ┐",
     "└┴┬├─┼кК╚╔╩╦╠═╬¤", "лЛмМнНоОп┘┌█▄Пя▀", "ЯрРсСтТуУжЖвВьЬ№", "\u00adыЫзЗшШэЭщЩчЧ§■\u00a0"]

def cp856 : CodePage where
  names := ["cp856"]
  first := 0x80
  rows :=
    ["\u05d0\u05d1\u05d2\u05d3\u05d4\u05d5\u05d6\u05d7",
     "\u05d8\u05d9\u05da\u05db\u05dc\u05dd\u05de\u05df",
     "\u05e0\u05e1\u05e2\u05e3\u05e4\u05e5\u05e6\u05e7\u05e8\u05e9\u05ea\ufffe£\ufffe×\ufffe",
     "\ufffe\ufffe\ufffe\ufffe\ufffe\ufffe\ufffe\ufffe\ufffe®¬½¼\ufffe«»",
     "░▒▓│┤\ufffe\ufffe\ufffe©╣║╗╝¢¥┐", "└┴┬├─┼\ufffe\ufffe╚╔╩╦╠═╬¤",
     "\ufffe\ufffe\ufffe\ufffe\ufffe\ufffe\ufffe\ufffe\ufffe┘┌█▄¦\ufffe▀",
     "\ufffe\ufffe\ufffe\ufffe\ufffe\ufffeµ\ufffe\ufffe\ufffe\ufffe\ufffe\ufffe\ufffe¯´",
     "\u00ad±‗¾¶§÷¸°¨·¹³²■\u00a0"]

def cp857 : CodePage where
  names := ["cp857", "857", "csibm857", "ibm857"]
  first := 0x80
  rows :=
    ["ÇüéâäàåçêëèïîıÄÅ", "ÉæÆôöòûùİÖÜø£ØŞş", "áíóúñÑĞğ¿®¬½¼¡«»", "░▒▓│┤ÁÂÀ©╣║╗╝¢¥┐",
     "└┴┬├─┼ãÃ╚╔╩╦╠═╬¤", "ºªÊËÈ\ufffeÍÎÏ┘┌█▄¦Ì▀", "ÓßÔÒõÕµ\ufffe×ÚÛÙìÿ¯´",
     "\u00ad±\ufffe¾¶§÷¸°¨·¹³²■\u00a0"]

def cp858 : CodePage where
  names := ["cp858", "858", "csibm858", "ibm858"]
  first := 0x80
  rows :=
    ["ÇüéâäàåçêëèïîìÄÅ", "ÉæÆôöòûùÿÖÜø£Ø×ƒ", "áíóúñÑªº¿®¬½¼¡«»", "░▒▓│┤ÁÂÀ©╣║╗╝¢¥┐",
     "└┴┬├─┼ãÃ╚╔╩╦╠═╬¤", "ðÐÊËÈ€ÍÎÏ┘┌█▄¦Ì▀", "ÓßÔÒõÕµþÞÚÛÙýÝ¯´", "\u00ad±‗¾¶§÷¸°¨·¹³²■\u00a0"]

def cp860 : CodePage where
  names := ["cp860", "860", "csibm860", "ibm860"]
  first := 0x80
  rows :=
    ["ÇüéâãàÁçêÊèÍÔìÃÂ", "ÉÀÈôõòÚùÌÕÜ¢£Ù₧Ó", "áíóúñÑªº¿Ò¬½¼¡«»", "░▒▓│┤╡╢╖╕╣║╗╝╜╛┐",
     "└┴┬├─┼╞╟╚╔╩╦╠═╬╧", "╨╤╥╙╘╒╓╫╪┘┌█▄▌▐▀", "αßΓπΣσµτΦΘΩδ∞φε∩", "≡±≥≤⌠⌡÷≈°∙·√\u207f²■\u00a0"]

def cp861 : CodePage where
  names := ["cp861", "861", "cp_is", "csibm861", "ibm861"]
  first := 0x80
  rows :=
    ["ÇüéâäàåçêëèÐðÞÄÅ", "ÉæÆôöþûÝýÖÜø£Ø₧ƒ", "áíóúÁÍÓÚ¿⌐¬½¼¡«»", "░▒▓│┤╡╢╖╕╣║╗╝╜╛┐",
     "└┴┬├─┼╞╟╚╔╩╦╠═╬╧", "╨╤╥╙╘╒╓╫╪┘┌█▄▌▐▀", "αßΓπΣσµτΦΘΩδ∞φε∩", "≡±≥≤⌠⌡÷≈°∙·√\u207f²■\u00a0"]

def cp862 : CodePage where
  names := ["cp862", "862", "cspc862latinhebrew", "ibm862"]
  first := 0x80
  rows :=
    ["\u05d0\u05d1\u05d2\u05d3\u05d4\u05d5\u05d6\u05d7",
     "\u05d8\u05d9\u05da\u05db\u05dc\u05dd\u05de\u05df",
     "\u05e0\u05e1\u05e2\u05e3\u05e4\u05e5\u05e6\u05e7\u05e8\u05e9\u05ea¢£¥₧ƒ", "áíóúñÑªº¿⌐¬½¼¡«»",
     "░▒▓│┤╡╢╖╕╣║╗╝╜╛┐", "└┴┬├─┼╞╟╚╔╩╦╠═╬╧", "╨╤╥╙╘╒╓╫╪┘┌█▄▌▐▀", "αßΓπΣσµτΦΘΩδ∞φε∩",
     "≡±≥≤⌠⌡÷≈°∙·√\u207f²■\u00a0"]

def cp863 : CodePage where
  names := ["cp863", "863", "csibm863", "ibm863"]
  first := 0x80
  rows :=
    ["ÇüéâÂà¶çêëèïî‗À§", "ÉÈÊôËÏûù¤ÔÜ¢£ÙÛƒ", "¦´óú¨¸³¯Î⌐¬½¼¾«»", "░▒▓│┤╡╢╖╕╣║╗╝╜╛┐",
     "└┴┬├─┼╞╟╚╔╩╦╠═╬╧", "╨╤╥╙╘╒╓╫╪┘┌█▄▌▐▀", "αßΓπΣσµτΦΘΩδ∞φε∩", "≡±≥≤⌠⌡÷≈°∙·√\u207f²■\u00a0"]

def cp864 : CodePage where
  names := ["cp864", "864", "csibm864", "ibm864"]
  first := 0x20
  rows :=
    [" !\"#$٪&'()*+,-./", "0123456789:;<=>?", "@ABCDEFGHIJKLMNO", "PQRSTUVWXYZ[\\]^_",
     "\x60abcdefghijklmno", "pqrstuvwxyz\x7b|\x7d~\x7f", "°·∙√▒─│┼┤┬├┴┐┌└┘",
     "β∞φ±½¼≈«»\ufef7\ufef8\ufffe\ufffe\ufefb\ufefc\ufffe",
     "\u00a0\u00ad\ufe82£¤\ufe84\ufffe\ufffe\ufe8e\ufe8f\ufe95\ufe99،\ufe9d\ufea1\ufea5",
     "\u0660\u0661\u0662\u0663\u0664\u0665\u0666\u0667",
     "\u0668\u0669\ufed1\u061b\ufeb1\ufeb5\ufeb9\u061f",
     "¢\ufe80\ufe81\ufe83\ufe85\ufeca\ufe8b\ufe8d",
     "\ufe91\ufe93\ufe97\ufe9b\ufe9f\ufea3\ufea7\ufea9",
     "\ufeab\ufead\ufeaf\ufeb3\ufeb7\ufebb\ufebf\ufec1\ufec5\ufecb\ufecf¦¬÷×\ufec9",
     "\u0640\ufed3\ufed7\ufedb\ufedf\ufee3\ufee7\ufeeb",
     "\ufeed\ufeef\ufef3\ufebd\ufecc\ufece\ufecd\ufee1",
     "\ufe7d\u0651\ufee5\ufee9\ufeec\ufef0\ufef2\ufed0",
     "\ufed5\ufef5\ufef6\ufedd\ufed9\ufef1■\ufffe"]

def cp865 : CodePage where
  names := ["cp865", "865", "csibm865", "ibm865"]
  first := 0x80
  rows :=
    ["ÇüéâäàåçêëèïîìÄÅ", "ÉæÆôöòûùÿÖÜø£Ø₧ƒ", "áíóúñÑªº¿⌐¬½¼¡«¤", "░▒▓│┤╡╢╖╕╣║╗╝╜╛┐",
     "└┴┬├─┼╞╟╚╔╩╦╠═╬╧", "╨╤╥╙╘╒╓╫╪┘┌█▄▌▐▀", "αßΓπΣσµτΦΘΩδ∞φε∩", "≡±≥≤⌠⌡÷≈°∙·√\u207f²■\u00a0"]

def cp866 : CodePage where
  names := ["cp866", "866", "csibm866", "ibm866"]
  first := 0x80
  rows :=
    ["АБВГДЕЖЗИЙКЛМНОП", "РСТУФХЦЧШЩЪЫЬЭЮЯ", "абвгдежзийклмноп", "░▒▓│┤╡╢╖╕╣║╗╝╜╛┐",
     "└┴┬├─┼╞╟╚╔╩╦╠═╬╧", "╨╤╥╙╘╒╓╫╪┘┌█▄▌▐▀", "рстуфхцчшщъыьэюя", "ЁёЄєЇїЎў°∙·√№¤■\u00a0"]

def cp869 : CodePage where
  names := ["cp869", "869", "cp_gr", "csibm869", "ibm869"]
  first := 0x80
  rows :=
    ["\ufffe\ufffe\ufffe\ufffe\ufffe\ufffeΆ\ufffe·¬¦‘’Έ―Ή", "ΊΪΌ\ufffe\ufffeΎΫ©Ώ²³ά£έήί",
     "ϊΐόύΑΒΓΔΕΖΗ½ΘΙ«»", "░▒▓│┤ΚΛΜΝ╣║╗╝ΞΟ┐", "└┴┬├─┼ΠΡ╚╔╩╦╠═╬Σ", "ΤΥΦΧΨΩαβγ┘┌█▄δε▀",
     "ζηθικλμνξοπρσςτ΄", "\u00ad±υφχ§ψ΅°¨ωϋΰώ■\u00a0"]

def cp874 : CodePage where
  names := ["cp874"]
  first := 0x80
  rows :=
    ["€\ufffe\ufffe\ufffe\ufffe…\ufffe\ufffe\ufffe\ufffe\ufffe\ufffe\ufffe\ufffe\ufffe\ufffe",
     "\ufffe‘’“”•–—\ufffe\ufffe\ufffe\ufffe\ufffe\ufffe\ufffe\ufffe", "\u00a0กขฃคฅฆงจฉชซฌญฎฏ",
     "ฐฑฒณดตถทธนบปผฝพฟ", "ภมยรฤลฦวศษสหฬอฮฯ",
     "ะ\u0e31าำ\u0e34\u0e35\u0e36\u0e37\u0e38\u0e39\u0e3a\ufffe\ufffe\ufffe\ufffe฿",
     "เแโใไๅ\u0e46\u0e47\u0e48\u0e49\u0e4a\u0e4b\u0e4c\u0e4d\u0e4e๏",
     "๐๑๒๓๔๕๖๗๘๙๚๛\ufffe\ufffe\ufffe\ufffe"]

def cp875 : CodePage where
  names := ["cp875"]
  first := 0x00
  rows :=
    ["\x00\x01\x02\x03\u009c\x09\u0086\x7f\u0097\u008d\u008e\x0b\x0c\x0d\x0e\x0f",
     "\x10\x11\x12\x13\u009d\u0085\x08\u0087\x18\x19\u0092\u008f\x1c\x1d\x1e\x1f",
     "\u0080\u0081\u0082\u0083\u0084\x0a\x17\x1b\u0088\u0089\u008a\u008b\u008c\x05\x06\x07",
     "\u0090\u0091\x16\u0093\u0094\u0095\u0096\x04\u0098\u0099\u009a\u009b\x14\x15\u009e\x1a",
     " ΑΒΓΔΕΖΗΘΙ[.<(+!", "&ΚΛΜΝΞΟΠΡΣ]$*);^", "\x2d/ΤΥΦΧΨΩΪΫ|,%_>?", "¨ΆΈΉ\u00a0ΊΌΎΏ\x60:#@'=\"",
     "΅abcdefghiαβγδεζ", "°jklmnopqrηθικλμ", "´~stuvwxyzνξοπρσ", "£άέήϊίόύϋώςτυφχψ",
     "\x7bABCDEFGHI\u00adωΐΰ‘―", "\x7dJKLMNOPQR±½\x1a·’¦", "\\\x1aSTUVWXYZ²§\x1a\x1a«¬",
     "0123456789³©\x1a\x1a»\u009f"]

def hpRoman8 : CodePage where
  names := ["hp_roman8", "cp1051", "csHPRoman8", "ibm1051", "r8", "roman8"]
  first := 0x80
  rows :=
    ["\u0080\u0081\u0082\u0083\u0084\u0085\u0086\u0087",
     "\u0088\u0089\u008a\u008b\u008c\u008d\u008e\u008f",
     "\u0090\u0091\u0092\u0093\u0094\u0095\u0096\u0097",
     "\u0098\u0099\u009a\u009b\u009c\u009d\u009e\u009f", "\u00a0ÀÂÈÊËÎÏ´\u02cb\u02c6¨˜ÙÛ₤",
     "¯Ýý°ÇçÑñ¡¿¤£¥§ƒ¢", "âêôûáéóúàèòùäëöü", "ÅîØÆåíøæÄìÖÜÉïßÔ", "ÁÃãÐðÍÌÓÒÕõŠšÚŸÿ",
     "Þþ·µ¶¾—¼½ªº«■»±\ufffe"]

def isoPart10 : CodePage where
  names := ["iso8859_10", "csisolatin6", "iso_8859_10", "iso_8859_10_1992", "iso_ir_157", "l6",
    "latin6"]
  first := 0x80
  rows :=
    ["\u0080\u0081\u0082\u0083\u0084\u0085\u0086\u0087",
     "\u0088\u0089\u008a\u008b\u008c\u008d\u008e\u008f",
     "\u0090\u0091\u0092\u0093\u0094\u0095\u0096\u0097",
     "\u0098\u0099\u009a\u009b\u009c\u009d\u009e\u009f", "\u00a0ĄĒĢĪĨĶ§ĻĐŠŦŽ\u00adŪŊ",
     "°ąēģīĩķ·ļđšŧž―ūŋ", "ĀÁÂÃÄÅÆĮČÉĘËĖÍÎÏ", "ÐŅŌÓÔÕÖŨØŲÚÛÜÝÞß", "āáâãäåæįčéęëėíîï",
     "ðņōóôõöũøųúûüýþĸ"]

def isoPart11 : CodePage where
  names := ["iso8859_11", "iso_8859_11", "iso_8859_11_2001", "thai"]
  first := 0x80
  rows :=
    ["\u0080\u0081\u0082\u0083\u0084\u0085\u0086\u0087",
     "\u0088\u0089\u008a\u008b\u008c\u008d\u008e\u008f",
     "\u0090\u0091\u0092\u0093\u0094\u0095\u0096\u0097",
     "\u0098\u0099\u009a\u009b\u009c\u009d\u009e\u009f", "\u00a0กขฃคฅฆงจฉชซฌญฎฏ",
     "ฐฑฒณดตถทธนบปผฝพฟ", "ภมยรฤลฦวศษสหฬอฮฯ",
     "ะ\u0e31าำ\u0e34\u0e35\u0e36\u0e37\u0e38\u0e39\u0e3a\ufffe\ufffe\ufffe\ufffe฿",
     "เแโใไๅ\u0e46\u0e47\u0e48\u0e49\u0e4a\u0e4b\u0e4c\u0e4d\u0e4e๏",
     "๐๑๒๓๔๕๖๗๘๙๚๛\ufffe\ufffe\ufffe\ufffe"]

def isoPart13 : CodePage where
  names := ["iso8859_13", "iso_8859_13", "l7", "latin7"]
  first := 0x80
  rows :=
    ["\u0080\u0081\u0082\u0083\u0084\u0085\u0086\u0087",
     "\u0088\u0089\u008a\u008b\u008c\u008d\u008e\u008f",
     "\u0090\u0091\u0092\u0093\u0094\u0095\u0096\u0097",
     "\u0098\u0099\u009a\u009b\u009c\u009d\u009e\u009f", "\u00a0”¢£¤„¦§Ø©Ŗ«¬\u00ad®Æ",
     "°±²³“µ¶·ø¹ŗ»¼½¾æ", "ĄĮĀĆÄÅĘĒČÉŹĖĢĶĪĻ", "ŠŃŅÓŌÕÖ×ŲŁŚŪÜŻŽß", "ąįāćäåęēčéźėģķīļ",
     "šńņóōõö÷ųłśūüżž’"]

def isoPart14 : CodePage where
  names := ["iso8859_14", "iso_8859_14", "iso_8859_14_1998", "iso_celtic", "iso_ir_199", "l8",
    "latin8"]
  first := 0x80
  rows :=
    ["\u0080\u0081\u0082\u0083\u0084\u0085\u0086\u0087",
     "\u0088\u0089\u008a\u008b\u008c\u008d\u008e\u008f",
     "\u0090\u0091\u0092\u0093\u0094\u0095\u0096\u0097",
     "\u0098\u0099\u009a\u009b\u009c\u009d\u009e\u009f", "\u00a0Ḃḃ£ĊċḊ§Ẁ©ẂḋỲ\u00ad®Ÿ",
     "ḞḟĠġṀṁ¶ṖẁṗẃṠỳẄẅṡ", "ÀÁÂÃÄÅÆÇÈÉÊËÌÍÎÏ", "ŴÑÒÓÔÕÖṪØÙÚÛÜÝŶß", "àáâãäåæçèéêëìíîï",
     "ŵñòóôõöṫøùúûüýŷÿ"]

def isoPart15 : CodePage where
  names := ["iso8859_15", "iso_8859_15", "l9", "latin9"]
  first := 0x80
  rows :=
    ["\u0080\u0081\u0082\u0083\u0084\u0085\u0086\u0087",
     "\u0088\u0089\u008a\u008b\u008c\u008d\u008e\u008f",
     "\u0090\u0091\u0092\u0093\u0094\u0095\u0096\u0097",
     "\u0098\u0099\u009a\u009b\u009c\u009d\u009e\u009f", "\u00a0¡¢£€¥Š§š©ª«¬\u00ad®¯",
     "°±²³Žµ¶·ž¹º»ŒœŸ¿", "ÀÁÂÃÄÅÆÇÈÉÊËÌÍÎÏ", "ÐÑÒÓÔÕÖ×ØÙÚÛÜÝÞß", "àáâãäåæçèéêëìíîï",
     "ðñòóôõö÷øùúûüýþÿ"]

def isoPart16 : CodePage where
  names := ["iso8859_16", "iso_8859_16", "iso_8859_16_2001", "iso_ir_226", "l10", "latin10"]
  first := 0x80
  rows :=
    ["\u0080\u0081\u0082\u0083\u0084\u0085\u0086\u0087",
     "\u0088\u0089\u008a\u008b\u008c\u008d\u008e\u008f",
     "\u0090\u0091\u0092\u0093\u0094\u0095\u0096\u0097",
     "\u0098\u0099\u009a\u009b\u009c\u009d\u009e\u009f", "\u00a0ĄąŁ€„Š§š©Ș«Ź\u00adźŻ",
     "°±ČłŽ”¶·žčș»ŒœŸż", "ÀÁÂĂÄĆÆÇÈÉÊËÌÍÎÏ", "ĐŃÒÓÔŐÖŚŰÙÚÛÜĘȚß", "àáâăäćæçèéêëìíîï",
     "đńòóôőöśűùúûüęțÿ"]

def isoPart2 : CodePage where
  names := ["iso8859_2", "csisolatin2", "iso_8859_2", "iso_8859_2_1987", "iso_ir_101", "l2",
    "latin2"]
  first := 0x80
  rows :=
    ["\u0080\u0081\u0082\u0083\u0084\u0085\u0086\u0087",
     "\u0088\u0089\u008a\u008b\u008c\u008d\u008e\u008f",
     "\u0090\u0091\u0092\u0093\u0094\u0095\u0096\u0097",
     "\u0098\u0099\u009a\u009b\u009c\u009d\u009e\u009f", "\u00a0Ą˘Ł¤ĽŚ§¨ŠŞŤŹ\u00adŽŻ",
     "°ą˛ł´ľś\u02c7¸šşťź˝žż", "ŔÁÂĂÄĹĆÇČÉĘËĚÍÎĎ", "ĐŃŇÓÔŐÖ×ŘŮÚŰÜÝŢß", "ŕáâăäĺćçčéęëěíîď",
     "đńňóôőö÷řůúűüýţ˙"]

def isoPart3 : CodePage where
  names := ["iso8859_3", "csisolatin3", "iso_8859_3", "iso_8859_3_1988", "iso_ir_109", "l3",
    "latin3"]
  first := 0x80
  rows :=
    ["\u0080\u0081\u0082\u0083\u0084\u0085\u0086\u0087",
     "\u0088\u0089\u008a\u008b\u008c\u008d\u008e\u008f",
     "\u0090\u0091\u0092\u0093\u0094\u0095\u0096\u0097",
     "\u0098\u0099\u009a\u009b\u009c\u009d\u009e\u009f", "\u00a0Ħ˘£¤\ufffeĤ§¨İŞĞĴ\u00ad\ufffeŻ",
     "°ħ²³´µĥ·¸ışğĵ½\ufffeż", "ÀÁÂ\ufffeÄĊĈÇÈÉÊËÌÍÎÏ", "\ufffeÑÒÓÔĠÖ×ĜÙÚÛÜŬŜß",
     "àáâ\ufffeäċĉçèéêëìíîï", "\ufffeñòóôġö÷ĝùúûüŭŝ˙"]

def isoPart4 : CodePage where
  names := ["iso8859_4", "csisolatin4", "iso_8859_4", "iso_8859_4_1988", "iso_ir_110", "l4",
    "latin4"]
  first := 0x80
  rows :=
    ["\u0080\u0081\u0082\u0083\u0084\u0085\u0086\u0087",
     "\u0088\u0089\u008a\u008b\u008c\u008d\u008e\u008f",
     "\u0090\u0091\u0092\u0093\u0094\u0095\u0096\u0097",
     "\u0098\u0099\u009a\u009b\u009c\u009d\u009e\u009f", "\u00a0ĄĸŖ¤ĨĻ§¨ŠĒĢŦ\u00adŽ¯",
     "°ą˛ŗ´ĩļ\u02c7¸šēģŧŊžŋ", "ĀÁÂÃÄÅÆĮČÉĘËĖÍÎĪ", "ĐŅŌĶÔÕÖ×ØŲÚÛÜŨŪß", "āáâãäåæįčéęëėíîī",
     "đņōķôõö÷øųúûüũū˙"]

def isoPart5 : CodePage where
  names := ["iso8859_5", "csisolatincyrillic", "cyrillic", "iso_8859_5", "iso_8859_5_1988",
    "iso_ir_144"]
  first := 0x80
  rows :=
    ["\u0080\u0081\u0082\u0083\u0084\u0085\u0086\u0087",
     "\u0088\u0089\u008a\u008b\u008c\u008d\u008e\u008f",
     "\u0090\u0091\u0092\u0093\u0094\u0095\u0096\u0097",
     "\u0098\u0099\u009a\u009b\u009c\u009d\u009e\u009f", "\u00a0ЁЂЃЄЅІЇЈЉЊЋЌ\u00adЎЏ",
     "АБВГДЕЖЗИЙКЛМНОП", "РСТУФХЦЧШЩЪЫЬЭЮЯ", "абвгдежзийклмноп", "рстуфхцчшщъыьэюя",
     "№ёђѓєѕіїјљњћќ§ўџ"]

def isoPart6 : CodePage where
  names := ["iso8859_6", "arabic", "asmo_708", "csisolatinarabic", "ecma_114", "iso_8859_6",
    "iso_8859_6_1987", "iso_ir_127"]
  first := 0x80
  rows :=
    ["\u0080\u0081\u0082\u0083\u0084\u0085\u0086\u0087",
     "\u0088\u0089\u008a\u008b\u008c\u008d\u008e\u008f",
     "\u0090\u0091\u0092\u0093\u0094\u0095\u0096\u0097",
     "\u0098\u0099\u009a\u009b\u009c\u009d\u009e\u009f",
     "\u00a0\ufffe\ufffe\ufffe¤\ufffe\ufffe\ufffe\ufffe\ufffe\ufffe\ufffe،\u00ad\ufffe\ufffe",
     "\ufffe\ufffe\ufffe\ufffe\ufffe\ufffe\ufffe\ufffe",
     "\ufffe\ufffe\ufffe\u061b\ufffe\ufffe\ufffe\u061f",
     "\ufffe\u0621\u0622\u0623\u0624\u0625\u0626\u0627",
     "\u0628\u0629\u062a\u062b\u062c\u062d\u062e\u062f",
     "\u0630\u0631\u0632\u0633\u0634\u0635\u0636\u0637",
     "\u0638\u0639\u063a\ufffe\ufffe\ufffe\ufffe\ufffe",
     "\u0640\u0641\u0642\u0643\u0644\u0645\u0646\u0647",
     "\u0648\u0649\u064a\u064b\u064c\u064d\u064e\u064f",
     "\u0650\u0651\u0652\ufffe\ufffe\ufffe\ufffe\ufffe",
     "\ufffe\ufffe\ufffe\ufffe\ufffe\ufffe\ufffe\ufffe"]

def isoPart7 : CodePage where
  names := ["iso8859_7", "csisolatingreek", "ecma_118", "elot_928", "greek", "greek8",
    "iso_8859_7", "iso_8859_7_1987", "iso_ir_126"]
  first := 0x80
  rows :=
    ["\u0080\u0081\u0082\u0083\u0084\u0085\u0086\u0087",
     "\u0088\u0089\u008a\u008b\u008c\u008d\u008e\u008f",
     "\u0090\u0091\u0092\u0093\u0094\u0095\u0096\u0097",
     "\u0098\u0099\u009a\u009b\u009c\u009d\u009e\u009f", "\u00a0‘’£€₯¦§¨©\u037a«¬\u00ad\ufffe―",
     "°±²³΄΅Ά·ΈΉΊ»Ό½ΎΏ", "ΐΑΒΓΔΕΖΗΘΙΚΛΜΝΞΟ", "ΠΡ\ufffeΣΤΥΦΧΨΩΪΫάέήί", "ΰαβγδεζηθικλμνξο",
     "πρςστυφχψωϊϋόύώ\ufffe"]

def isoPart8 : CodePage where
  names := ["iso8859_8", "csisolatinhebrew", "hebrew", "iso_8859_8", "iso_8859_8_1988",
    "iso_ir_138"]
  first := 0x80
  rows :=
    ["\u0080\u0081\u0082\u0083\u0084\u0085\u0086\u0087",
     "\u0088\u0089\u008a\u008b\u008c\u008d\u008e\u008f",
     "\u0090\u0091\u0092\u0093\u0094\u0095\u0096\u0097",
     "\u0098\u0099\u009a\u009b\u009c\u009d\u009e\u009f", "\u00a0\ufffe¢£¤¥¦§¨©×«¬\u00ad®¯",
     "°±²³´µ¶·¸¹÷»¼½¾\ufffe", "\ufffe\ufffe\ufffe\ufffe\ufffe\ufffe\ufffe\ufffe",
     "\ufffe\ufffe\ufffe\ufffe\ufffe\ufffe\ufffe\ufffe",
     "\ufffe\ufffe\ufffe\ufffe\ufffe\ufffe\ufffe\ufffe",
     "\ufffe\ufffe\ufffe\ufffe\ufffe\ufffe\ufffe‗",
     "\u05d0\u05d1\u05d2\u05d3\u05d4\u05d5\u05d6\u05d7",
     "\u05d8\u05d9\u05da\u05db\u05dc\u05dd\u05de\u05df",
     "\u05e0\u05e1\u05e2\u05e3\u05e4\u05e5\u05e6\u05e7",
     "\u05e8\u05e9\u05ea\ufffe\ufffe\u200e\u200f\ufffe"]

def isoPart9 : CodePage where
  names := ["iso8859_9", "csisolatin5", "iso_8859_9", "iso_8859_9_1989", "iso_ir_148", "l5",
    "latin5"]
  first := 0x80
  rows :=
    ["\u0080\u0081\u0082\u0083\u0084\u0085\u0086\u0087",
     "\u0088\u0089\u008a\u008b\u008c\u008d\u008e\u008f",
     "\u0090\u0091\u0092\u0093\u0094\u0095\u0096\u0097",
     "\u0098\u0099\u009a\u009b\u009c\u009d\u009e\u009f", "\u00a0¡¢£¤¥¦§¨©ª«¬\u00ad®¯",
     "°±²³´µ¶·¸¹º»¼½¾¿", "ÀÁÂÃÄÅÆÇÈÉÊËÌÍÎÏ", "ĞÑÒÓÔÕÖ×ØÙÚÛÜİŞß", "àáâãäåæçèéêëìíîï",
     "ğñòóôõö÷øùúûüışÿ"]

def koi8R : CodePage where
  names := ["koi8_r", "cskoi8r"]
  first := 0x80
  rows :=
    ["─│┌┐└┘├┤┬┴┼▀▄█▌▐", "░▒▓⌠■∙√≈≤≥\u00a0⌡°²·÷", "═║╒ё╓╔╕╖╗╘╙╚╛╜╝╞", "╟╠╡Ё╢╣╤╥╦╧╨╩╪╫╬©",
     "юабцдефгхийклмно", "пярстужвьызшэщчъ", "ЮАБЦДЕФГХИЙКЛМНО", "ПЯРСТУЖВЬЫЗШЭЩЧЪ"]

def koi8T : CodePage where
  names := ["koi8_t"]
  first := 0x80
  rows :=
    ["қғ‚Ғ„…†‡\ufffe‰ҳ‹ҲҷҶ\ufffe", "Қ‘’“”•–—\ufffe™\ufffe›\ufffe\ufffe\ufffe\ufffe",
     "\ufffeӯӮё¤ӣ¦§\ufffe\ufffe\ufffe«¬\u00ad®\ufffe",
     "°±²Ё\ufffeӢ¶·\ufffe№\ufffe»\ufffe\ufffe\ufffe©", "юабцдефгхийклмно", "пярстужвьызшэщчъ",
     "ЮАБЦДЕФГХИЙКЛМНО", "ПЯРСТУЖВЬЫЗШЭЩЧЪ"]

def koi8U : CodePage where
  names := ["koi8_u"]
  first := 0x80
  rows :=
    ["─│┌┐└┘├┤┬┴┼▀▄█▌▐", "░▒▓⌠■∙√≈≤≥\u00a0⌡°²·÷", "═║╒ёє╔ії╗╘╙╚╛ґ╝╞", "╟╠╡ЁЄ╣ІЇ╦╧╨╩╪Ґ╬©",
     "юабцдефгхийклмно", "пярстужвьызшэщчъ", "ЮАБЦДЕФГХИЙКЛМНО", "ПЯРСТУЖВЬЫЗШЭЩЧЪ"]

def kz1048 : CodePage where
  names := ["kz1048", "kz_1048", "rk1048", "strk1048_2002"]
  first := 0x80
  rows :=
    ["ЂЃ‚ѓ„…†‡€‰Љ‹ЊҚҺЏ", "ђ‘’“”•–—\ufffe™љ›њқһџ", "\u00a0ҰұӘ¤Ө¦§Ё©Ғ«¬\u00ad®Ү", "°±Ііөµ¶·ё№ғ»әҢңү",
     "АБВГДЕЖЗИЙКЛМНОП", "РСТУФХЦЧШЩЪЫЬЭЮЯ", "абвгдежзийклмноп", "рстуфхцчшщъыьэюя"]

def macArabic : CodePage where
  names := ["mac_arabic"]
  first := 0x80
  rows :=
    ["Ä\u00a0ÇÉÑÖÜáàâä\u06ba«çéè", "êëí…îïñó»ôö÷úùûü", " !\"#$٪&'()*+،-./",
     "\u0660\u0661\u0662\u0663\u0664\u0665\u0666\u0667\u0668\u0669:\u061b<=>\u061f",
     "❊\u0621\u0622\u0623\u0624\u0625\u0626\u0627",
     "\u0628\u0629\u062a\u062b\u062c\u062d\u062e\u062f",
     "\u0630\u0631\u0632\u0633\u0634\u0635\u0636\u0637\u0638\u0639\u063a[\\]^_",
     "\u0640\u0641\u0642\u0643\u0644\u0645\u0646\u0647",
     "\u0648\u0649\u064a\u064b\u064c\u064d\u064e\u064f",
     "\u0650\u0651\u0652\u067e\u0679\u0686\u06d5\u06a4\u06af\u0688\u0691\x7b|\x7d\u0698\u06d2"]

def macCroatian : CodePage where
  names := ["mac_croatian"]
  first := 0x80
  rows :=
    ["ÄÅÇÉÑÖÜáàâäãåçéè", "êëíìîïñóòôöõúùûü", "†°¢£§•¶ß®Š™´¨≠ŽØ", "∞±≤≥∆µ∂∑∏š∫ªºΩžø",
     "¿¡¬√ƒ≈Ć«Č…\u00a0ÀÃÕŒœ", "Đ—“”‘’÷◊\uf8ff©⁄€‹›Æ»", "–·‚„‰ÂćÁčÈÍÎÏÌÓÔ",
     "đÒÚÛÙı\u02c6˜¯πË˚¸Êæ\u02c7"]

def macCyrillic : CodePage where
  names := ["mac_cyrillic", "maccyrillic"]
  first := 0x80
  rows :=
    ["АБВГДЕЖЗИЙКЛМНОП", "РСТУФХЦЧШЩЪЫЬЭЮЯ", "†°Ґ£§•¶І®©™Ђђ≠Ѓѓ", "∞±≤≥іµґЈЄєЇїЉљЊњ",
     "јЅ¬√ƒ≈∆«»…\u00a0ЋћЌќѕ", "–—“”‘’÷„ЎўЏџ№Ёёя", "абвгдежзийклмноп", "рстуфхцчшщъыьэю€"]

def macFarsi : CodePage where
  names := ["mac_farsi"]
  first := 0x80
  rows :=
    ["Ä\u00a0ÇÉÑÖÜáàâä\u06ba«çéè", "êëí…îïñó»ôö÷úùûü", " !\"#$٪&'()*+،-./",
     "۰۱۲۳۴۵۶۷۸۹:\u061b<=>\u061f", "❊\u0621\u0622\u0623\u0624\u0625\u0626\u0627",
     "\u0628\u0629\u062a\u062b\u062c\u062d\u062e\u062f",
     "\u0630\u0631\u0632\u0633\u0634\u0635\u0636\u0637\u0638\u0639\u063a[\\]^_",
     "\u0640\u0641\u0642\u0643\u0644\u0645\u0646\u0647",
     "\u0648\u0649\u064a\u064b\u064c\u064d\u064e\u064f",
     "\u0650\u0651\u0652\u067e\u0679\u0686\u06d5\u06a4\u06af\u0688\u0691\x7b|\x7d\u0698\u06d2"]

def macGreek : CodePage where
  names := ["mac_greek", "macgreek"]
  first := 0x80
  rows :=
    ["Ä¹²É³ÖÜ΅àâä΄¨çéè", "êë£™îï•½‰ôö¦€ùûü", "†ΓΔΘΛΞΠß®©ΣΪ§≠°·", "Α±≤≥¥ΒΕΖΗΙΚΜΦΫΨΩ",
     "άΝ¬ΟΡ≈Τ«»…\u00a0ΥΧΆΈœ", "–―“”‘’÷ΉΊΌΎέήίόΏ", "ύαβψδεφγηιξκλμνο", "πώρστθωςχυζϊϋΐΰ\u00ad"]

def macIceland : CodePage where
  names := ["mac_iceland", "maciceland"]
  first := 0x80
  rows :=
    ["ÄÅÇÉÑÖÜáàâäãåçéè", "êëíìîïñóòôöõúùûü", "Ý°¢£§•¶ß®©™´¨≠ÆØ", "∞±≤≥¥µ∂∑∏π∫ªºΩæø",
     "¿¡¬√ƒ≈∆«»…\u00a0ÀÃÕŒœ", "–—“”‘’÷◊ÿŸ⁄€ÐðÞþ", "ý·‚„‰ÂÊÁËÈÍÎÏÌÓÔ",
     "\uf8ffÒÚÛÙı\u02c6˜¯˘˙˚¸˝˛\u02c7"]

def macLatin2 : CodePage where
  names := ["mac_latin2", "mac_centeuro", "maccentraleurope", "maclatin2"]
  first := 0x80
  rows :=
    ["ÄĀāÉĄÖÜáąČäčĆćéŹ", "źĎíďĒēĖóėôöõúĚěü", "†°Ę£§•¶ß®©™ę¨≠ģĮ", "įĪ≤≥īĶ∂∑łĻļĽľĹĺŅ",
     "ņŃ¬√ńŇ∆«»…\u00a0ňŐÕőŌ", "–—“”‘’÷◊ōŔŕŘ‹›řŖ", "ŗŠ‚„šŚśÁŤťÍŽžŪÓÔ", "ūŮÚůŰűŲųÝýķŻŁżĢ\u02c7"]

def macRoman : CodePage where
  names := ["mac_roman", "macintosh", "macroman"]
  first := 0x80
  rows :=
    ["ÄÅÇÉÑÖÜáàâäãåçéè", "êëíìîïñóòôöõúùûü", "†°¢£§•¶ß®©™´¨≠ÆØ", "∞±≤≥¥µ∂∑∏π∫ªºΩæø",
     "¿¡¬√ƒ≈∆«»…\u00a0ÀÃÕŒœ", "–—“”‘’÷◊ÿŸ⁄€‹›ﬁﬂ", "‡·‚„‰ÂÊÁËÈÍÎÏÌÓÔ",
     "\uf8ffÒÚÛÙı\u02c6˜¯˘˙˚¸˝˛\u02c7"]

def macRomanian : CodePage where
  names := ["mac_romanian"]
  first := 0x80
  rows :=
    ["ÄÅÇÉÑÖÜáàâäãåçéè", "êëíìîïñóòôöõúùûü", "†°¢£§•¶ß®©™´¨≠ĂȘ", "∞±≤≥¥µ∂∑∏π∫ªºΩăș",
     "¿¡¬√ƒ≈∆«»…\u00a0ÀÃÕŒœ", "–—“”‘’÷◊ÿŸ⁄€‹›Țț", "‡·‚„‰ÂÊÁËÈÍÎÏÌÓÔ",
     "\uf8ffÒÚÛÙı\u02c6˜¯˘˙˚¸˝˛\u02c7"]

def macTurkish : CodePage where
  names := ["mac_turkish", "macturkish"]
  first := 0x80
  rows :=
    ["ÄÅÇÉÑÖÜáàâäãåçéè", "êëíìîïñóòôöõúùûü", "†°¢£§•¶ß®©™´¨≠ÆØ", "∞±≤≥¥µ∂∑∏π∫ªºΩæø",
     "¿¡¬√ƒ≈∆«»…\u00a0ÀÃÕŒœ", "–—“”‘’÷◊ÿŸĞğİıŞş", "‡·‚„‰ÂÊÁËÈÍÎÏÌÓÔ",
     "\uf8ffÒÚÛÙ\uf8a0\u02c6˜¯˘˙˚¸˝˛\u02c7"]

def palmos : CodePage where
  names := ["palmos"]
  first := 0x80
  rows :=
    ["€\u0081‚ƒ„…†‡\u02c6‰Š‹Œ♦♣♥", "♠‘’“”•–—˜™š\u009bœ\u009d\u009eŸ", "\u00a0¡¢£¤¥¦§¨©ª«¬\u00ad®¯",
     "°±²³´µ¶·¸¹º»¼½¾¿", "ÀÁÂÃÄÅÆÇÈÉÊËÌÍÎÏ", "ÐÑÒÓÔÕÖ×ØÙÚÛÜÝÞß", "àáâãäåæçèéêëìíîï",
     "ðñòóôõö÷øùúûüýþÿ"]

def ptcp154 : CodePage where
  names := ["ptcp154", "cp154", "csptcp154", "cyrillic_asian", "pt154"]
  first := 0x80
  rows :=
    ["ҖҒӮғ„…ҶҮҲүҠӢҢҚҺҸ", "җ‘’“”•–—ҳҷҡӣңқһҹ", "\u00a0ЎўЈӨҘҰ§Ё©Ә«¬ӯ®Ҝ", "°ұІіҙө¶·ё№ә»јҪҫҝ",
     "АБВГДЕЖЗИЙКЛМНОП", "РСТУФХЦЧШЩЪЫЬЭЮЯ", "абвгдежзийклмноп", "рстуфхцчшщъыьэюя"]

def tis620 : CodePage where
  names := ["tis_620", "iso_ir_166", "tis620", "tis_620_0", "tis_620_2529_0", "tis_620_2529_1"]
  first := 0x80
  rows :=
    ["\u0080\u0081\u0082\u0083\u0084\u0085\u0086\u0087",
     "\u0088\u0089\u008a\u008b\u008c\u008d\u008e\u008f",
     "\u0090\u0091\u0092\u0093\u0094\u0095\u0096\u0097",
     "\u0098\u0099\u009a\u009b\u009c\u009d\u009e\u009f", "\ufffeกขฃคฅฆงจฉชซฌญฎฏ",
     "ฐฑฒณดตถทธนบปผฝพฟ", "ภมยรฤลฦวศษสหฬอฮฯ",
     "ะ\u0e31าำ\u0e34\u0e35\u0e36\u0e37\u0e38\u0e39\u0e3a\ufffe\ufffe\ufffe\ufffe฿",
     "เแโใไๅ\u0e46\u0e47\u0e48\u0e49\u0e4a\u0e4b\u0e4c\u0e4d\u0e4e๏",
     "๐๑๒๓๔๕๖๗๘๙๚๛\ufffe\ufffe\ufffe\ufffe"]

end CodePage

/-- **The code pages that are known.** -/
def codePages : List CodePage :=
  [.cp037, .cp1006, .cp1026, .cp1125, .cp1140, .cp1250, .cp1251, .cp1252, .cp1253, .cp1254,
   .cp1255, .cp1256, .cp1257, .cp1258, .cp273, .cp424, .cp437, .cp500, .cp720, .cp737, .cp775,
   .cp850, .cp852, .cp855, .cp856, .cp857, .cp858, .cp860, .cp861, .cp862, .cp863, .cp864, .cp865,
   .cp866, .cp869, .cp874, .cp875, .hpRoman8, .isoPart10, .isoPart11, .isoPart13, .isoPart14,
   .isoPart15, .isoPart16, .isoPart2, .isoPart3, .isoPart4, .isoPart5, .isoPart6, .isoPart7,
   .isoPart8, .isoPart9, .koi8R, .koi8T, .koi8U, .kz1048, .macArabic, .macCroatian, .macCyrillic,
   .macFarsi, .macGreek, .macIceland, .macLatin2, .macRoman, .macRomanian, .macTurkish, .palmos,
   .ptcp154, .tis620]

end OpenerPolicy.Text
