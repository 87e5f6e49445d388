/-
  File:      OpenerPolicy/Text/EncodingName.lean
  Subject:   ENCODINGS BY NAME, AND THE TEXT OF BYTES UNDER THEM.

  An encoding has several names. In a name capitals make no difference, and neither does it matter
  which characters stand between its words. Some names belong to conversions that do not lead from
  bytes to text; they are told apart from names that are not known.

  * `nameKey` -- a name in the form in which names are compared;
  * `Encoding`, `Encoding.ofName` -- the encodings, and how they are found by their names;
  * `Encoding.decode` -- the text of bytes under an encoding, or a `TextFault`.
-/
import OpenerPolicy.Text.CodePageTable
import OpenerPolicy.Text.Escapes
import OpenerPolicy.Text.Label
import OpenerPolicy.Text.MultibyteTable
import OpenerPolicy.Text.Utf7
import OpenerPolicy.Text.Wide

namespace OpenerPolicy.Text

/-! ## 1. Names -/

/-- The characters that count in a name, as a name is read on; `pending` says that others came
    between. -/
def keyChars (pending : Bool) : List Char → List Char
  | [] => []
  | c :: rest =>
    if c.isAlphanum || c = '.' then
      (if pending then ['_', c.toLower] else [c.toLower]) ++ keyChars false rest
    else keyChars true rest

/-- **A name in the form in which names are compared**: in lowercase, its words joined by
    underscores. -/
def nameKey (name : String) : String :=
  String.ofList (keyChars false (name.toList.dropWhile fun c => !(c.isAlphanum || c = '.')))

/-- Whether a key is one of several names. In all names but the first, a point may stand for an
    underscore. -/
def isNamed (names : List String) (key : String) : Bool :=
  names.contains key || names.tail.contains (key.map fun c => if c = '.' then '_' else c)

/-! ## 2. Encodings -/

/-- The encodings that bytes can be read in. -/
inductive Encoding where
  | utf8
  /-- UTF-8 after an optional byte order mark. -/
  | utf8Marked
  | utf7
  /-- UTF-16 in a given order, or in the one that its byte order mark tells. -/
  | utf16 (order : Option ByteOrder)
  | utf32 (order : Option ByteOrder)
  | ascii
  | latin1
  | page (p : CodePage)
  | multibyte (m : Multibyte)
  /-- Text with escapes, of all kinds or of two kinds only. -/
  | escapes
  | rawEscapes
  | punycode
  /-- The labels of domain names. -/
  | labels
  /-- Refuses whatever is read. -/
  | refusing
  deriving DecidableEq, Repr

/-- The names of the encodings other than code pages. -/
def encodingNames : List (List String × Encoding) :=
  [(["utf_8", "cp65001", "u8", "utf", "utf8", "utf8_ucs2", "utf8_ucs4"], .utf8),
   (["utf_8_sig"], .utf8Marked),
   (["utf_7", "u7", "unicode_1_1_utf_7", "utf7"], .utf7),
   (["utf_16", "u16", "utf16"], .utf16 none),
   (["utf_16_le", "unicodelittleunmarked", "utf_16le"], .utf16 (some .little)),
   (["utf_16_be", "unicodebigunmarked", "utf_16be"], .utf16 (some .big)),
   (["utf_32", "u32", "utf32"], .utf32 none),
   (["utf_32_le", "utf_32le"], .utf32 (some .little)),
   (["utf_32_be", "utf_32be"], .utf32 (some .big)),
   (["ascii", "646", "ansi_x3.4_1968", "ansi_x3.4_1986", "ansi_x3_4_1968", "cp367", "csascii",
      "ibm367", "iso646_us", "iso_646.irv_1991", "iso_ir_6", "us", "us_ascii"], .ascii),
   (["latin_1", "8859", "cp819", "csisolatin1", "ibm819", "iso8859", "iso8859_1", "iso_8859_1",
      "iso_8859_1_1987", "iso_ir_100", "l1", "latin", "latin1"], .latin1),
   (["charmap"], .latin1),
   (["unicode_escape"], .escapes),
   (["raw_unicode_escape"], .rawEscapes),
   (["punycode"], .punycode),
   (["idna"], .labels),
   (["undefined"], .refusing)]

/-- The names of conversions that do not lead from bytes to text. -/
def otherConversions : List (List String) :=
  [["base64_codec", "base64", "base_64"], ["bz2_codec", "bz2"], ["hex_codec", "hex"],
   ["quopri_codec", "quopri", "quoted_printable", "quotedprintable"], ["rot_13", "rot13"],
   ["uu_codec", "uu"], ["zlib_codec", "zip", "zlib"]]

/-- Why a name gives no encoding. -/
inductive NameFault where
  | unknown (name : String)
  | notForText (name : String)
  deriving DecidableEq, Repr

def NameFault.message : NameFault → String
  | .unknown name => "unknown encoding: " ++ name
  | .notForText name =>
    "'" ++ name ++ "' is not a text encoding; use codecs.open() to handle arbitrary codecs"

/-- The encoding of files unless another one is named; it can be asked for by this name, too. -/
def localName : String := "locale"

/-- **The encoding of a name.** -/
def Encoding.ofName (name : String) : Except NameFault Encoding :=
  let key := nameKey name
  if name = localName then .ok .utf8
  else
    match encodingNames.find? (isNamed ·.1 key) with
    | some (_, e) => .ok e
    | none =>
      match multibyteNames.find? (isNamed ·.1 key) with
      | some (_, m) => .ok (.multibyte m)
      | none =>
        match codePages.find? (isNamed ·.names key) with
        | some p => .ok (.page p)
        | none =>
          .error (if otherConversions.any (isNamed · key) then .notForText name else .unknown name)

/-! ## 3. Reading -/

/-- Why bytes have no text. -/
inductive TextFault where
  | malformed (f : DecodeFault)
  /-- The byte order mark that has to tell the order of bytes is missing. -/
  | unmarked (form : String)
  /-- A character of a set that cannot be used there. -/
  | unusableSet
  | noPunycode (f : Punycode.PunycodeFault)
  | noLabels (f : Label.LabelFault)
  | refused

def TextFault.message : TextFault → String
  | .malformed f => f.message
  | .unmarked form => form ++ " stream does not start with BOM"
  | .unusableSet => "internal codec error"
  | .noPunycode f => f.message
  | .noLabels f => f.message
  | .refused => "undefined encoding"

/-- The start of a byte order mark in UTF-8. -/
def markUtf8 : List UInt8 := [0xEF, 0xBB, 0xBF]

/-- The bytes after a byte order mark in UTF-8, if they start with one. A beginning of it alone is
    left out too. -/
def withoutMark (bytes : List UInt8) : List UInt8 :=
  if bytes.isPrefixOf markUtf8 then []
  else if markUtf8.isPrefixOf bytes then bytes.drop markUtf8.length
  else bytes

/-- The text of bytes with a byte order mark; `size` is the size of a unit. Without a mark the bytes
    are read in the usual order, and refused even if they are text. -/
def decodeMarked (mark? : List UInt8 → Option (ByteOrder × List UInt8))
    (decodeFrom : ByteOrder → Nat → List UInt8 → Except DecodeFault (List Char))
    (form : String) (size : Nat) (bytes : List UInt8) : Except TextFault (List Char) :=
  match mark? bytes with
  | some (o, rest) => (decodeFrom o size rest).mapError .malformed
  | none =>
    match decodeFrom .little 0 bytes with
    | .error f => .error (.malformed f)
    | .ok s => if bytes.isEmpty then .ok s else .error (.unmarked form)

/-- The code points of an outcome that is text. -/
def pointsOf (outcome : Except DecodeFault (List Char)) : Except TextFault (List Nat) :=
  match outcome with
  | .ok s => .ok (s.map Char.toNat)
  | .error f => .error (.malformed f)

/-- A fault of an encoding of East Asian text. -/
def TextFault.ofMultibyte : MultibyteFault → TextFault
  | .malformed f => .malformed f
  | .unusableSet => .unusableSet

/-- **The code points of bytes under an encoding.** Latin-1 gives every byte the character of its own
    number and refuses nothing. -/
def Encoding.decode : Encoding → List UInt8 → Except TextFault (List Nat)
  | .utf8, bytes => pointsOf (Utf8.decode bytes)
  | .utf8Marked, bytes => pointsOf (Utf8.decode (withoutMark bytes))
  | .utf7, bytes => (Utf7.decode bytes).mapError .malformed
  | .utf16 (some o), bytes => pointsOf (Utf16.decodeFrom o 0 bytes)
  | .utf16 none, bytes =>
    (decodeMarked Utf16.mark? Utf16.decodeFrom "UTF-16" 2 bytes).map (·.map Char.toNat)
  | .utf32 (some o), bytes => pointsOf (Utf32.decodeFrom o 0 bytes)
  | .utf32 none, bytes =>
    (decodeMarked Utf32.mark? Utf32.decodeFrom "UTF-32" 4 bytes).map (·.map Char.toNat)
  | .ascii, bytes => pointsOf (decodeAscii 0 bytes)
  | .latin1, bytes => .ok (bytes.map UInt8.toNat)
  | .page p, bytes => pointsOf (p.decode bytes)
  | .multibyte m, bytes =>
    ((m.decode bytes).map (·.map Char.toNat)).mapError TextFault.ofMultibyte
  | .escapes, bytes => (Escapes.decode bytes).mapError .malformed
  | .rawEscapes, bytes => (Escapes.decodeRaw bytes).mapError .malformed
  | .punycode, bytes => (Punycode.decode bytes).mapError .noPunycode
  | .labels, bytes => (Label.decode bytes).mapError .noLabels
  | .refusing, _ => .error .refused

end OpenerPolicy.Text
