/-
  File:      OpenerPolicy/Text/Chart/Composite.lean
  Subject:   CHARACTERS WITH MARKS.

  Data only. A composite is a character and a mark; the character may be a composite again. Marks have
  classes: those of one class stand in each other's way.

  * `composites` -- the composites that are taken apart and put together;
  * `laterComposites` -- those that are only put together;
  * `markClasses` -- the classes of marks.
-/

namespace OpenerPolicy.Text

/-- Characters and marks of consecutive composites, by turns, after the number of the first one. -/
def composites : List (Nat × String) :=
  [(0x00C0, "A\u0300A\u0301A\u0302A\u0303A\u0308A\u030a"),
   (0x00C7, "C\u0327E\u0300E\u0301E\u0302E\u0308I\u0300I\u0301I\u0302I\u0308"),
   (0x00D1, "N\u0303O\u0300O\u0301O\u0302O\u0303O\u0308"),
   (0x00D9, "U\u0300U\u0301U\u0302U\u0308Y\u0301"),
   (0x00E0, "a\u0300a\u0301a\u0302a\u0303a\u0308a\u030a"),
   (0x00E7, "c\u0327e\u0300e\u0301e\u0302e\u0308i\u0300i\u0301i\u0302i\u0308"),
   (0x00F1, "n\u0303o\u0300o\u0301o\u0302o\u0303o\u0308"),
   (0x00F9, "u\u0300u\u0301u\u0302u\u0308y\u0301"),
   (0x00FF, "y\u0308A\u0304a\u0304A\u0306a\u0306A\u0328a\u0328C\u0301c\u0301C\u0302c\u0302"),
   (0x010A, "C\u0307c\u0307C\u030cc\u030cD\u030cd\u030c"),
   (0x0112, "E\u0304e\u0304E\u0306e\u0306E\u0307e\u0307E\u0328e\u0328E\u030ce\u030cG\u0302"),
   (0x011D, "g\u0302G\u0306g\u0306G\u0307g\u0307G\u0327g\u0327H\u0302h\u0302"),
   (0x0128, "I\u0303i\u0303I\u0304i\u0304I\u0306i\u0306I\u0328i\u0328I\u0307"),
   (0x0134, "J\u0302j\u0302K\u0327k\u0327"),
   (0x0139, "L\u0301l\u0301L\u0327l\u0327L\u030cl\u030c"),
   (0x0143, "N\u0301n\u0301N\u0327n\u0327N\u030cn\u030c"),
   (0x014C, "O\u0304o\u0304O\u0306o\u0306O\u030bo\u030b"),
   (0x0154, "R\u0301r\u0301R\u0327r\u0327R\u030cr\u030cS\u0301s\u0301S\u0302s\u0302S\u0327"),
   (0x015F, "s\u0327S\u030cs\u030cT\u0327t\u0327T\u030ct\u030c"),
   (0x0168, "U\u0303u\u0303U\u0304u\u0304U\u0306u\u0306U\u030au\u030aU\u030bu\u030bU\u0328"),
   (0x0173, "u\u0328W\u0302w\u0302Y\u0302y\u0302Y\u0308Z\u0301z\u0301Z\u0307z\u0307Z\u030c"),
   (0x017E, "z\u030c"),
   (0x01A0, "O\u031bo\u031b"),
   (0x01AF, "U\u031bu\u031b"),
   (0x01CD, "A\u030ca\u030cI\u030ci\u030cO\u030co\u030cU\u030cu\u030cÜ\u0304ü\u0304Ü\u0301"),
   (0x01D8, "ü\u0301Ü\u030cü\u030cÜ\u0300ü\u0300"),
   (0x01DE, "Ä\u0304ä\u0304Ȧ\u0304ȧ\u0304Æ\u0304æ\u0304"),
   (0x01E6, "G\u030cg\u030cK\u030ck\u030cO\u0328o\u0328Ǫ\u0304ǫ\u0304Ʒ\u030cʒ\u030cj\u030c"),
   (0x01F4, "G\u0301g\u0301"),
   (0x01F8, "N\u0300n\u0300Å\u0301å\u0301Æ\u0301æ\u0301Ø\u0301ø\u0301A\u030fa\u030fA\u0311"),
   (0x0203, "a\u0311E\u030fe\u030fE\u0311e\u0311I\u030fi\u030fI\u0311i\u0311O\u030fo\u030f"),
   (0x020E, "O\u0311o\u0311R\u030fr\u030fR\u0311r\u0311U\u030fu\u030fU\u0311u\u0311S\u0326"),
   (0x0219, "s\u0326T\u0326t\u0326"),
   (0x021E, "H\u030ch\u030c"),
   (0x0226, "A\u0307a\u0307E\u0327e\u0327Ö\u0304ö\u0304Õ\u0304õ\u0304O\u0307o\u0307Ȯ\u0304"),
   (0x0231, "ȯ\u0304Y\u0304y\u0304"),
   (0x0385, "¨\u0301Α\u0301"),
   (0x0388, "Ε\u0301Η\u0301Ι\u0301"),
   (0x038C, "Ο\u0301"),
   (0x038E, "Υ\u0301Ω\u0301ϊ\u0301"),
   (0x03AA, "Ι\u0308Υ\u0308α\u0301ε\u0301η\u0301ι\u0301ϋ\u0301"),
   (0x03CA, "ι\u0308υ\u0308ο\u0301υ\u0301ω\u0301"),
   (0x03D3, "ϒ\u0301ϒ\u0308"),
   (0x0400, "Е\u0300Е\u0308"),
   (0x0403, "Г\u0301"),
   (0x0407, "І\u0308"),
   (0x040C, "К\u0301И\u0300У\u0306"),
   (0x0419, "И\u0306"),
   (0x0439, "и\u0306"),
   (0x0450, "е\u0300е\u0308"),
   (0x0453, "г\u0301"),
   (0x0457, "і\u0308"),
   (0x045C, "к\u0301и\u0300у\u0306"),
   (0x0476, "Ѵ\u030fѵ\u030f"),
   (0x04C1, "Ж\u0306ж\u0306"),
   (0x04D0, "А\u0306а\u0306А\u0308а\u0308"),
   (0x04D6, "Е\u0306е\u0306"),
   (0x04DA, "Ә\u0308ә\u0308Ж\u0308ж\u0308З\u0308з\u0308"),
   (0x04E2, "И\u0304и\u0304И\u0308и\u0308О\u0308о\u0308"),
   (0x04EA, "Ө\u0308ө\u0308Э\u0308э\u0308У\u0304у\u0304У\u0308у\u0308У\u030bу\u030bЧ\u0308"),
   (0x04F5, "ч\u0308"),
   (0x04F8, "Ы\u0308ы\u0308"),
   (0x0622, "\u0627\u0653\u0627\u0654\u0648\u0654\u0627\u0655\u064a\u0654"),
   (0x06C0, "\u06d5\u0654"),
   (0x06C2, "\u06c1\u0654"),
   (0x06D3, "\u06d2\u0654"),
   (0x0929, "न\u093c"),
   (0x0931, "र\u093c"),
   (0x0934, "ळ\u093c"),
   (0x09CB, "\u09c7\u09be\u09c7\u09d7"),
   (0x0B48, "\u0b47\u0b56"),
   (0x0B4B, "\u0b47\u0b3e\u0b47\u0b57"),
   (0x0B94, "ஒ\u0bd7"),
   (0x0BCA, "\u0bc6\u0bbe\u0bc7\u0bbe\u0bc6\u0bd7"),
   (0x0C48, "\u0c46\u0c56"),
   (0x0CC0, "\u0cbf\u0cd5"),
   (0x0CC7, "\u0cc6\u0cd5\u0cc6\u0cd6"),
   (0x0CCA, "\u0cc6\u0cc2\u0cca\u0cd5"),
   (0x0D4A, "\u0d46\u0d3e\u0d47\u0d3e\u0d46\u0d57"),
   (0x0DDA, "\u0dd9\u0dca"),
   (0x0DDC, "\u0dd9\u0dcf\u0ddc\u0dca\u0dd9\u0ddf"),
   (0x1026, "ဥ\u102e"),
   (0x1E00, "A\u0325a\u0325B\u0307b\u0307B\u0323b\u0323B\u0331b\u0331Ç\u0301ç\u0301D\u0307"),
   (0x1E0B, "d\u0307D\u0323d\u0323D\u0331d\u0331D\u0327d\u0327D\u032dd\u032dĒ\u0300ē\u0300"),
   (0x1E16, "Ē\u0301ē\u0301E\u032de\u032dE\u0330e\u0330Ȩ\u0306ȩ\u0306F\u0307f\u0307G\u0304"),
   (0x1E21, "g\u0304H\u0307h\u0307H\u0323h\u0323H\u0308h\u0308H\u0327h\u0327H\u032eh\u032e"),
   (0x1E2C, "I\u0330i\u0330Ï\u0301ï\u0301K\u0301k\u0301K\u0323k\u0323K\u0331k\u0331L\u0323"),
   (0x1E37, "l\u0323Ḷ\u0304ḷ\u0304L\u0331l\u0331L\u032dl\u032dM\u0301m\u0301M\u0307m\u0307"),
   (0x1E42, "M\u0323m\u0323N\u0307n\u0307N\u0323n\u0323N\u0331n\u0331N\u032dn\u032dÕ\u0301"),
   (0x1E4D, "õ\u0301Õ\u0308õ\u0308Ō\u0300ō\u0300Ō\u0301ō\u0301P\u0301p\u0301P\u0307p\u0307"),
   (0x1E58, "R\u0307r\u0307R\u0323r\u0323Ṛ\u0304ṛ\u0304R\u0331r\u0331S\u0307s\u0307S\u0323"),
   (0x1E63, "s\u0323Ś\u0307ś\u0307Š\u0307š\u0307Ṣ\u0307ṣ\u0307T\u0307t\u0307T\u0323t\u0323"),
   (0x1E6E, "T\u0331t\u0331T\u032dt\u032dU\u0324u\u0324U\u0330u\u0330U\u032du\u032dŨ\u0301"),
   (0x1E79, "ũ\u0301Ū\u0308ū\u0308V\u0303v\u0303V\u0323v\u0323W\u0300w\u0300W\u0301w\u0301"),
   (0x1E84, "W\u0308w\u0308W\u0307w\u0307W\u0323w\u0323X\u0307x\u0307X\u0308x\u0308Y\u0307"),
   (0x1E8F, "y\u0307Z\u0302z\u0302Z\u0323z\u0323Z\u0331z\u0331h\u0331t\u0308w\u030ay\u030a"),
   (0x1E9B, "ſ\u0307"),
   (0x1EA0, "A\u0323a\u0323A\u0309a\u0309Â\u0301â\u0301Â\u0300â\u0300Â\u0309â\u0309Â\u0303"),
   (0x1EAB, "â\u0303Ạ\u0302ạ\u0302Ă\u0301ă\u0301Ă\u0300ă\u0300Ă\u0309ă\u0309Ă\u0303ă\u0303"),
   (0x1EB6, "Ạ\u0306ạ\u0306E\u0323e\u0323E\u0309e\u0309E\u0303e\u0303Ê\u0301ê\u0301Ê\u0300"),
   (0x1EC1, "ê\u0300Ê\u0309ê\u0309Ê\u0303ê\u0303Ẹ\u0302ẹ\u0302I\u0309i\u0309I\u0323i\u0323"),
   (0x1ECC, "O\u0323o\u0323O\u0309o\u0309Ô\u0301ô\u0301Ô\u0300ô\u0300Ô\u0309ô\u0309Ô\u0303"),
   (0x1ED7, "ô\u0303Ọ\u0302ọ\u0302Ơ\u0301ơ\u0301Ơ\u0300ơ\u0300Ơ\u0309ơ\u0309Ơ\u0303ơ\u0303"),
   (0x1EE2, "Ơ\u0323ơ\u0323U\u0323u\u0323U\u0309u\u0309Ư\u0301ư\u0301Ư\u0300ư\u0300Ư\u0309"),
   (0x1EED, "ư\u0309Ư\u0303ư\u0303Ư\u0323ư\u0323Y\u0300y\u0300Y\u0323y\u0323Y\u0309y\u0309"),
   (0x1EF8, "Y\u0303y\u0303"),
   (0x1F00, "α\u0313α\u0314ἀ\u0300ἁ\u0300ἀ\u0301ἁ\u0301ἀ\u0342ἁ\u0342Α\u0313Α\u0314Ἀ\u0300"),
   (0x1F0B, "Ἁ\u0300Ἀ\u0301Ἁ\u0301Ἀ\u0342Ἁ\u0342ε\u0313ε\u0314ἐ\u0300ἑ\u0300ἐ\u0301ἑ\u0301"),
   (0x1F18, "Ε\u0313Ε\u0314Ἐ\u0300Ἑ\u0300Ἐ\u0301Ἑ\u0301"),
   (0x1F20, "η\u0313η\u0314ἠ\u0300ἡ\u0300ἠ\u0301ἡ\u0301ἠ\u0342ἡ\u0342Η\u0313Η\u0314Ἠ\u0300"),
   (0x1F2B, "Ἡ\u0300Ἠ\u0301Ἡ\u0301Ἠ\u0342Ἡ\u0342ι\u0313ι\u0314ἰ\u0300ἱ\u0300ἰ\u0301ἱ\u0301"),
   (0x1F36, "ἰ\u0342ἱ\u0342Ι\u0313Ι\u0314Ἰ\u0300Ἱ\u0300Ἰ\u0301Ἱ\u0301Ἰ\u0342Ἱ\u0342ο\u0313"),
   (0x1F41, "ο\u0314ὀ\u0300ὁ\u0300ὀ\u0301ὁ\u0301"),
   (0x1F48, "Ο\u0313Ο\u0314Ὀ\u0300Ὁ\u0300Ὀ\u0301Ὁ\u0301"),
   (0x1F50, "υ\u0313υ\u0314ὐ\u0300ὑ\u0300ὐ\u0301ὑ\u0301ὐ\u0342ὑ\u0342"),
   (0x1F59, "Υ\u0314"),
   (0x1F5B, "Ὑ\u0300"),
   (0x1F5D, "Ὑ\u0301"),
   (0x1F5F, "Ὑ\u0342ω\u0313ω\u0314ὠ\u0300ὡ\u0300ὠ\u0301ὡ\u0301ὠ\u0342ὡ\u0342Ω\u0313Ω\u0314"),
   (0x1F6A, "Ὠ\u0300Ὡ\u0300Ὠ\u0301Ὡ\u0301Ὠ\u0342Ὡ\u0342α\u0300"),
   (0x1F72, "ε\u0300"),
   (0x1F74, "η\u0300"),
   (0x1F76, "ι\u0300"),
   (0x1F78, "ο\u0300"),
   (0x1F7A, "υ\u0300"),
   (0x1F7C, "ω\u0300"),
   (0x1F80, "ἀ\u0345ἁ\u0345ἂ\u0345ἃ\u0345ἄ\u0345ἅ\u0345ἆ\u0345ἇ\u0345Ἀ\u0345Ἁ\u0345Ἂ\u0345"),
   (0x1F8B, "Ἃ\u0345Ἄ\u0345Ἅ\u0345Ἆ\u0345Ἇ\u0345ἠ\u0345ἡ\u0345ἢ\u0345ἣ\u0345ἤ\u0345ἥ\u0345"),
   (0x1F96, "ἦ\u0345ἧ\u0345Ἠ\u0345Ἡ\u0345Ἢ\u0345Ἣ\u0345Ἤ\u0345Ἥ\u0345Ἦ\u0345Ἧ\u0345ὠ\u0345"),
   (0x1FA1, "ὡ\u0345ὢ\u0345ὣ\u0345ὤ\u0345ὥ\u0345ὦ\u0345ὧ\u0345Ὠ\u0345Ὡ\u0345Ὢ\u0345Ὣ\u0345"),
   (0x1FAC, "Ὤ\u0345Ὥ\u0345Ὦ\u0345Ὧ\u0345α\u0306α\u0304ὰ\u0345α\u0345ά\u0345"),
   (0x1FB6, "α\u0342ᾶ\u0345Α\u0306Α\u0304Α\u0300"),
   (0x1FBC, "Α\u0345"),
   (0x1FC1, "¨\u0342ὴ\u0345η\u0345ή\u0345"),
   (0x1FC6, "η\u0342ῆ\u0345Ε\u0300"),
   (0x1FCA, "Η\u0300"),
   (0x1FCC, "Η\u0345᾿\u0300᾿\u0301᾿\u0342ι\u0306ι\u0304ϊ\u0300"),
   (0x1FD6, "ι\u0342ϊ\u0342Ι\u0306Ι\u0304Ι\u0300"),
   (0x1FDD, "῾\u0300῾\u0301῾\u0342υ\u0306υ\u0304ϋ\u0300"),
   (0x1FE4, "ρ\u0313ρ\u0314υ\u0342ϋ\u0342Υ\u0306Υ\u0304Υ\u0300"),
   (0x1FEC, "Ρ\u0314¨\u0300"),
   (0x1FF2, "ὼ\u0345ω\u0345ώ\u0345"),
   (0x1FF6, "ω\u0342ῶ\u0345Ο\u0300"),
   (0x1FFA, "Ω\u0300"),
   (0x1FFC, "Ω\u0345"),
   (0x219A, "←\u0338→\u0338"),
   (0x21AE, "↔\u0338"),
   (0x21CD, "⇐\u0338⇔\u0338⇒\u0338"),
   (0x2204, "∃\u0338"),
   (0x2209, "∈\u0338"),
   (0x220C, "∋\u0338"),
   (0x2224, "∣\u0338"),
   (0x2226, "∥\u0338"),
   (0x2241, "∼\u0338"),
   (0x2244, "≃\u0338"),
   (0x2247, "≅\u0338"),
   (0x2249, "≈\u0338"),
   (0x2260, "=\u0338"),
   (0x2262, "≡\u0338"),
   (0x226D, "≍\u0338<\u0338>\u0338≤\u0338≥\u0338"),
   (0x2274, "≲\u0338≳\u0338"),
   (0x2278, "≶\u0338≷\u0338"),
   (0x2280, "≺\u0338≻\u0338"),
   (0x2284, "⊂\u0338⊃\u0338"),
   (0x2288, "⊆\u0338⊇\u0338"),
   (0x22AC, "⊢\u0338⊨\u0338⊩\u0338⊫\u0338"),
   (0x22E0, "≼\u0338≽\u0338⊑\u0338⊒\u0338"),
   (0x22EA, "⊲\u0338⊳\u0338⊴\u0338⊵\u0338"),
   (0x304C, "か\u3099"),
   (0x304E, "き\u3099"),
   (0x3050, "く\u3099"),
   (0x3052, "け\u3099"),
   (0x3054, "こ\u3099"),
   (0x3056, "さ\u3099"),
   (0x3058, "し\u3099"),
   (0x305A, "す\u3099"),
   (0x305C, "せ\u3099"),
   (0x305E, "そ\u3099"),
   (0x3060, "た\u3099"),
   (0x3062, "ち\u3099"),
   (0x3065, "つ\u3099"),
   (0x3067, "て\u3099"),
   (0x3069, "と\u3099"),
   (0x3070, "は\u3099は\u309a"),
   (0x3073, "ひ\u3099ひ\u309a"),
   (0x3076, "ふ\u3099ふ\u309a"),
   (0x3079, "へ\u3099へ\u309a"),
   (0x307C, "ほ\u3099ほ\u309a"),
   (0x3094, "う\u3099"),
   (0x309E, "\u309d\u3099"),
   (0x30AC, "カ\u3099"),
   (0x30AE, "キ\u3099"),
   (0x30B0, "ク\u3099"),
   (0x30B2, "ケ\u3099"),
   (0x30B4, "コ\u3099"),
   (0x30B6, "サ\u3099"),
   (0x30B8, "シ\u3099"),
   (0x30BA, "ス\u3099"),
   (0x30BC, "セ\u3099"),
   (0x30BE, "ソ\u3099"),
   (0x30C0, "タ\u3099"),
   (0x30C2, "チ\u3099"),
   (0x30C5, "ツ\u3099"),
   (0x30C7, "テ\u3099"),
   (0x30C9, "ト\u3099"),
   (0x30D0, "ハ\u3099ハ\u309a"),
   (0x30D3, "ヒ\u3099ヒ\u309a"),
   (0x30D6, "フ\u3099フ\u309a"),
   (0x30D9, "ヘ\u3099ヘ\u309a"),
   (0x30DC, "ホ\u3099ホ\u309a"),
   (0x30F4, "ウ\u3099"),
   (0x30F7, "ワ\u3099ヰ\u3099ヱ\u3099ヲ\u3099"),
   (0x30FE, "\u30fd\u3099")]

/-- Composites that are put together but not taken apart. -/
def laterComposites : List (Nat × String) :=
  [(0x1B06, "ᬅ\u1b35"),
   (0x1B08, "ᬇ\u1b35"),
   (0x1B0A, "ᬉ\u1b35"),
   (0x1B0C, "ᬋ\u1b35"),
   (0x1B0E, "ᬍ\u1b35"),
   (0x1B12, "ᬑ\u1b35"),
   (0x1B3B, "\u1b3a\u1b35"),
   (0x1B3D, "\u1b3c\u1b35"),
   (0x1B40, "\u1b3e\u1b35\u1b3f\u1b35"),
   (0x1B43, "\u1b42\u1b35"),
   (0x1109A, "𑂚"),
   (0x1109C, "𑂜"),
   (0x110AB, "𑂫"),
   (0x1112E, "𑄮𑄯"),
   (0x1134B, "𑍋𑍌"),
   (0x114BB, "𑒻𑒼"),
   (0x114BE, "𑒾"),
   (0x115BA, "𑖺𑖻"),
   (0x11938, "𑤸")]

/-- The classes of marks: first and last mark, and their class. -/
def markClasses : List (Nat × Nat × Nat) :=
  [(0x0300, 0x0314, 230), (0x0315, 0x0315, 232), (0x0316, 0x0319, 220), (0x031A, 0x031A, 232),
   (0x031B, 0x031B, 216), (0x031C, 0x0320, 220), (0x0321, 0x0322, 202), (0x0323, 0x0326, 220),
   (0x0327, 0x0328, 202), (0x0329, 0x0333, 220), (0x0334, 0x0338, 1), (0x0339, 0x033C, 220),
   (0x033D, 0x0344, 230), (0x0345, 0x0345, 240), (0x0346, 0x0346, 230), (0x0347, 0x0349, 220),
   (0x034A, 0x034C, 230), (0x034D, 0x034E, 220), (0x0350, 0x0352, 230), (0x0353, 0x0356, 220),
   (0x0357, 0x0357, 230), (0x0358, 0x0358, 232), (0x0359, 0x035A, 220), (0x035B, 0x035B, 230),
   (0x035C, 0x035C, 233), (0x035D, 0x035E, 234), (0x035F, 0x035F, 233), (0x0360, 0x0361, 234),
   (0x0362, 0x0362, 233), (0x0363, 0x036F, 230), (0x0483, 0x0487, 230), (0x0591, 0x0591, 220),
   (0x0592, 0x0595, 230), (0x0596, 0x0596, 220), (0x0597, 0x0599, 230), (0x059A, 0x059A, 222),
   (0x059B, 0x059B, 220), (0x059C, 0x05A1, 230), (0x05A2, 0x05A7, 220), (0x05A8, 0x05A9, 230),
   (0x05AA, 0x05AA, 220), (0x05AB, 0x05AC, 230), (0x05AD, 0x05AD, 222), (0x05AE, 0x05AE, 228),
   (0x05AF, 0x05AF, 230), (0x05B0, 0x05B0, 10), (0x05B1, 0x05B1, 11), (0x05B2, 0x05B2, 12),
   (0x05B3, 0x05B3, 13), (0x05B4, 0x05B4, 14), (0x05B5, 0x05B5, 15), (0x05B6, 0x05B6, 16),
   (0x05B7, 0x05B7, 17), (0x05B8, 0x05B8, 18), (0x05B9, 0x05BA, 19), (0x05BB, 0x05BB, 20),
   (0x05BC, 0x05BC, 21), (0x05BD, 0x05BD, 22), (0x05BF, 0x05BF, 23), (0x05C1, 0x05C1, 24),
   (0x05C2, 0x05C2, 25), (0x05C4, 0x05C4, 230), (0x05C5, 0x05C5, 220), (0x05C7, 0x05C7, 18),
   (0x0610, 0x0617, 230), (0x0618, 0x0618, 30), (0x0619, 0x0619, 31), (0x061A, 0x061A, 32),
   (0x064B, 0x064B, 27), (0x064C, 0x064C, 28), (0x064D, 0x064D, 29), (0x064E, 0x064E, 30),
   (0x064F, 0x064F, 31), (0x0650, 0x0650, 32), (0x0651, 0x0651, 33), (0x0652, 0x0652, 34),
   (0x0653, 0x0654, 230), (0x0655, 0x0656, 220), (0x0657, 0x065B, 230), (0x065C, 0x065C, 220),
   (0x065D, 0x065E, 230), (0x065F, 0x065F, 220), (0x0670, 0x0670, 35), (0x06D6, 0x06DC, 230),
   (0x06DF, 0x06E2, 230), (0x06E3, 0x06E3, 220), (0x06E4, 0x06E4, 230), (0x06E7, 0x06E8, 230),
   (0x06EA, 0x06EA, 220), (0x06EB, 0x06EC, 230), (0x06ED, 0x06ED, 220), (0x0711, 0x0711, 36),
   (0x0730, 0x0730, 230), (0x0731, 0x0731, 220), (0x0732, 0x0733, 230), (0x0734, 0x0734, 220),
   (0x0735, 0x0736, 230), (0x0737, 0x0739, 220), (0x073A, 0x073A, 230), (0x073B, 0x073C, 220),
   (0x073D, 0x073D, 230), (0x073E, 0x073E, 220), (0x073F, 0x0741, 230), (0x0742, 0x0742, 220),
   (0x0743, 0x0743, 230), (0x0744, 0x0744, 220), (0x0745, 0x0745, 230), (0x0746, 0x0746, 220),
   (0x0747, 0x0747, 230), (0x0748, 0x0748, 220), (0x0749, 0x074A, 230), (0x07EB, 0x07F1, 230),
   (0x07F2, 0x07F2, 220), (0x07F3, 0x07F3, 230), (0x07FD, 0x07FD, 220), (0x0816, 0x0819, 230),
   (0x081B, 0x0823, 230), (0x0825, 0x0827, 230), (0x0829, 0x082D, 230), (0x0859, 0x085B, 220),
   (0x0898, 0x0898, 230), (0x0899, 0x089B, 220), (0x089C, 0x089F, 230), (0x08CA, 0x08CE, 230),
   (0x08CF, 0x08D3, 220), (0x08D4, 0x08E1, 230), (0x08E3, 0x08E3, 220), (0x08E4, 0x08E5, 230),
   (0x08E6, 0x08E6, 220), (0x08E7, 0x08E8, 230), (0x08E9, 0x08E9, 220), (0x08EA, 0x08EC, 230),
   (0x08ED, 0x08EF, 220), (0x08F0, 0x08F0, 27), (0x08F1, 0x08F1, 28), (0x08F2, 0x08F2, 29),
   (0x08F3, 0x08F5, 230), (0x08F6, 0x08F6, 220), (0x08F7, 0x08F8, 230), (0x08F9, 0x08FA, 220),
   (0x08FB, 0x08FF, 230), (0x093C, 0x093C, 7), (0x094D, 0x094D, 9), (0x0951, 0x0951, 230),
   (0x0952, 0x0952, 220), (0x0953, 0x0954, 230), (0x09BC, 0x09BC, 7), (0x09CD, 0x09CD, 9),
   (0x09FE, 0x09FE, 230), (0x0A3C, 0x0A3C, 7), (0x0A4D, 0x0A4D, 9), (0x0ABC, 0x0ABC, 7),
   (0x0ACD, 0x0ACD, 9), (0x0B3C, 0x0B3C, 7), (0x0B4D, 0x0B4D, 9), (0x0BCD, 0x0BCD, 9),
   (0x0C3C, 0x0C3C, 7), (0x0C4D, 0x0C4D, 9), (0x0C55, 0x0C55, 84), (0x0C56, 0x0C56, 91),
   (0x0CBC, 0x0CBC, 7), (0x0CCD, 0x0CCD, 9), (0x0D3B, 0x0D3C, 9), (0x0D4D, 0x0D4D, 9),
   (0x0DCA, 0x0DCA, 9), (0x0E38, 0x0E39, 103), (0x0E3A, 0x0E3A, 9), (0x0E48, 0x0E4B, 107),
   (0x0EB8, 0x0EB9, 118), (0x0EBA, 0x0EBA, 9), (0x0EC8, 0x0ECB, 122), (0x0F18, 0x0F19, 220),
   (0x0F35, 0x0F35, 220), (0x0F37, 0x0F37, 220), (0x0F39, 0x0F39, 216), (0x0F71, 0x0F71, 129),
   (0x0F72, 0x0F72, 130), (0x0F74, 0x0F74, 132), (0x0F7A, 0x0F7D, 130), (0x0F80, 0x0F80, 130),
   (0x0F82, 0x0F83, 230), (0x0F84, 0x0F84, 9), (0x0F86, 0x0F87, 230), (0x0FC6, 0x0FC6, 220),
   (0x1037, 0x1037, 7), (0x1039, 0x103A, 9), (0x108D, 0x108D, 220), (0x135D, 0x135F, 230),
   (0x1714, 0x1715, 9), (0x1734, 0x1734, 9), (0x17D2, 0x17D2, 9), (0x17DD, 0x17DD, 230),
   (0x18A9, 0x18A9, 228), (0x1939, 0x1939, 222), (0x193A, 0x193A, 230), (0x193B, 0x193B, 220),
   (0x1A17, 0x1A17, 230), (0x1A18, 0x1A18, 220), (0x1A60, 0x1A60, 9), (0x1A75, 0x1A7C, 230),
   (0x1A7F, 0x1A7F, 220), (0x1AB0, 0x1AB4, 230), (0x1AB5, 0x1ABA, 220), (0x1ABB, 0x1ABC, 230),
   (0x1ABD, 0x1ABD, 220), (0x1ABF, 0x1AC0, 220), (0x1AC1, 0x1AC2, 230), (0x1AC3, 0x1AC4, 220),
   (0x1AC5, 0x1AC9, 230), (0x1ACA, 0x1ACA, 220), (0x1ACB, 0x1ACE, 230), (0x1B34, 0x1B34, 7),
   (0x1B44, 0x1B44, 9), (0x1B6B, 0x1B6B, 230), (0x1B6C, 0x1B6C, 220), (0x1B6D, 0x1B73, 230),
   (0x1BAA, 0x1BAB, 9), (0x1BE6, 0x1BE6, 7), (0x1BF2, 0x1BF3, 9), (0x1C37, 0x1C37, 7),
   (0x1CD0, 0x1CD2, 230), (0x1CD4, 0x1CD4, 1), (0x1CD5, 0x1CD9, 220), (0x1CDA, 0x1CDB, 230),
   (0x1CDC, 0x1CDF, 220), (0x1CE0, 0x1CE0, 230), (0x1CE2, 0x1CE8, 1), (0x1CED, 0x1CED, 220),
   (0x1CF4, 0x1CF4, 230), (0x1CF8, 0x1CF9, 230), (0x1DC0, 0x1DC1, 230), (0x1DC2, 0x1DC2, 220),
   (0x1DC3, 0x1DC9, 230), (0x1DCA, 0x1DCA, 220), (0x1DCB, 0x1DCC, 230), (0x1DCD, 0x1DCD, 234),
   (0x1DCE, 0x1DCE, 214), (0x1DCF, 0x1DCF, 220), (0x1DD0, 0x1DD0, 202), (0x1DD1, 0x1DF5, 230),
   (0x1DF6, 0x1DF6, 232), (0x1DF7, 0x1DF8, 228), (0x1DF9, 0x1DF9, 220), (0x1DFA, 0x1DFA, 218),
   (0x1DFB, 0x1DFB, 230), (0x1DFC, 0x1DFC, 233), (0x1DFD, 0x1DFD, 220), (0x1DFE, 0x1DFE, 230),
   (0x1DFF, 0x1DFF, 220), (0x20D0, 0x20D1, 230), (0x20D2, 0x20D3, 1), (0x20D4, 0x20D7, 230),
   (0x20D8, 0x20DA, 1), (0x20DB, 0x20DC, 230), (0x20E1, 0x20E1, 230), (0x20E5, 0x20E6, 1),
   (0x20E7, 0x20E7, 230), (0x20E8, 0x20E8, 220), (0x20E9, 0x20E9, 230), (0x20EA, 0x20EB, 1),
   (0x20EC, 0x20EF, 220), (0x20F0, 0x20F0, 230), (0x2CEF, 0x2CF1, 230), (0x2D7F, 0x2D7F, 9),
   (0x2DE0, 0x2DFF, 230), (0x302A, 0x302A, 218), (0x302B, 0x302B, 228), (0x302C, 0x302C, 232),
   (0x302D, 0x302D, 222), (0x302E, 0x302F, 224), (0x3099, 0x309A, 8), (0xA66F, 0xA66F, 230),
   (0xA674, 0xA67D, 230), (0xA69E, 0xA69F, 230), (0xA6F0, 0xA6F1, 230), (0xA806, 0xA806, 9),
   (0xA82C, 0xA82C, 9), (0xA8C4, 0xA8C4, 9), (0xA8E0, 0xA8F1, 230), (0xA92B, 0xA92D, 220),
   (0xA953, 0xA953, 9), (0xA9B3, 0xA9B3, 7), (0xA9C0, 0xA9C0, 9), (0xAAB0, 0xAAB0, 230),
   (0xAAB2, 0xAAB3, 230), (0xAAB4, 0xAAB4, 220), (0xAAB7, 0xAAB8, 230), (0xAABE, 0xAABF, 230),
   (0xAAC1, 0xAAC1, 230), (0xAAF6, 0xAAF6, 9), (0xABED, 0xABED, 9), (0xFB1E, 0xFB1E, 26),
   (0xFE20, 0xFE26, 230), (0xFE27, 0xFE2D, 220), (0xFE2E, 0xFE2F, 230), (0x101FD, 0x101FD, 220),
   (0x102E0, 0x102E0, 220), (0x10376, 0x1037A, 230), (0x10A0D, 0x10A0D, 220),
   (0x10A0F, 0x10A0F, 230), (0x10A38, 0x10A38, 230), (0x10A39, 0x10A39, 1),
   (0x10A3A, 0x10A3A, 220), (0x10A3F, 0x10A3F, 9), (0x10AE5, 0x10AE5, 230),
   (0x10AE6, 0x10AE6, 220), (0x10D24, 0x10D27, 230), (0x10EAB, 0x10EAC, 230),
   (0x10F46, 0x10F47, 220), (0x10F48, 0x10F4A, 230), (0x10F4B, 0x10F4B, 220),
   (0x10F4C, 0x10F4C, 230), (0x10F4D, 0x10F50, 220), (0x10F82, 0x10F82, 230),
   (0x10F83, 0x10F83, 220), (0x10F84, 0x10F84, 230), (0x10F85, 0x10F85, 220),
   (0x11046, 0x11046, 9), (0x11070, 0x11070, 9), (0x1107F, 0x1107F, 9), (0x110B9, 0x110B9, 9),
   (0x110BA, 0x110BA, 7), (0x11100, 0x11102, 230), (0x11133, 0x11134, 9), (0x11173, 0x11173, 7),
   (0x111C0, 0x111C0, 9), (0x111CA, 0x111CA, 7), (0x11235, 0x11235, 9), (0x11236, 0x11236, 7),
   (0x112E9, 0x112E9, 7), (0x112EA, 0x112EA, 9), (0x1133B, 0x1133C, 7), (0x1134D, 0x1134D, 9),
   (0x11366, 0x1136C, 230), (0x11370, 0x11374, 230), (0x11442, 0x11442, 9), (0x11446, 0x11446, 7),
   (0x1145E, 0x1145E, 230), (0x114C2, 0x114C2, 9), (0x114C3, 0x114C3, 7), (0x115BF, 0x115BF, 9),
   (0x115C0, 0x115C0, 7), (0x1163F, 0x1163F, 9), (0x116B6, 0x116B6, 9), (0x116B7, 0x116B7, 7),
   (0x1172B, 0x1172B, 9), (0x11839, 0x11839, 9), (0x1183A, 0x1183A, 7), (0x1193D, 0x1193E, 9),
   (0x11943, 0x11943, 7), (0x119E0, 0x119E0, 9), (0x11A34, 0x11A34, 9), (0x11A47, 0x11A47, 9),
   (0x11A99, 0x11A99, 9), (0x11C3F, 0x11C3F, 9), (0x11D42, 0x11D42, 7), (0x11D44, 0x11D45, 9),
   (0x11D97, 0x11D97, 9), (0x16AF0, 0x16AF4, 1), (0x16B30, 0x16B36, 230), (0x16FF0, 0x16FF1, 6),
   (0x1BC9E, 0x1BC9E, 1), (0x1D165, 0x1D166, 216), (0x1D167, 0x1D169, 1), (0x1D16D, 0x1D16D, 226),
   (0x1D16E, 0x1D172, 216), (0x1D17B, 0x1D182, 220), (0x1D185, 0x1D189, 230),
   (0x1D18A, 0x1D18B, 220), (0x1D1AA, 0x1D1AD, 230), (0x1D242, 0x1D244, 230),
   (0x1E000, 0x1E006, 230), (0x1E008, 0x1E018, 230), (0x1E01B, 0x1E021, 230),
   (0x1E023, 0x1E024, 230), (0x1E026, 0x1E02A, 230), (0x1E130, 0x1E136, 230),
   (0x1E2AE, 0x1E2AE, 230), (0x1E2EC, 0x1E2EF, 230), (0x1E8D0, 0x1E8D6, 220),
   (0x1E944, 0x1E949, 230), (0x1E94A, 0x1E94A, 7)]

end OpenerPolicy.Text
