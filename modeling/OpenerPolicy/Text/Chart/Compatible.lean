/-
  File:      OpenerPolicy/Text/Chart/Compatible.lean
  Subject:   THE CHARACTERS THAT STAND FOR OTHER ONES.

  Data only. A presentation form, a letter in a circle or of a special width, or a second copy of an
  ideograph is compatible with plain characters. Of the characters with marks only those are here that
  are no composites.

  * `compatible` -- the characters that stand for a single one;
  * `expansions` -- the characters that stand for several; bars stand between those of neighbours.
-/
import OpenerPolicy.Text.Chart

namespace OpenerPolicy.Text

/-- The characters that stand for a single other one. -/
def compatible : Chart where
  runs :=
    [(0x00A0, "\x20"),
     (0x00AA, "a"),
     (0x00B2, "23"),
     (0x00B5, "μ"),
     (0x00B9, "1o"),
     (0x017F, "s"),
     (0x02B0, "hɦjrɹɻʁwy"),
     (0x02E0, "ɣlsxʕ"),
     (0x0340, "\u0300\u0301"),
     (0x0343, "\u0313"),
     (0x0374, "\u02b9"),
     (0x037E, ";"),
     (0x0387, "·"),
     (0x03D0, "βθΥ"),
     (0x03D5, "φπ"),
     (0x03F0, "κρς"),
     (0x03F4, "Θε"),
     (0x0F0C, "་"),
     (0x1FBE, "ι"),
     (0x1FEF, "\x60"),
     (0x2000, "\x20\x20\x20\x20\x20\x20\x20\x20\x20\x20\x20"),
     (0x2011, "‐"),
     (0x2024, "."),
     (0x202F, "\x20"),
     (0x205F, "\x20"),
     (0x2070, "0i"),
     (0x2074, "456789+−=()n"),
     (0x208A, "+−=()"),
     (0x2102, "C"),
     (0x2107, "Ɛ"),
     (0x210A, "gHHHhħIILl"),
     (0x2115, "N"),
     (0x2119, "PQRRR"),
     (0x2124, "Z"),
     (0x2126, "Ω"),
     (0x2128, "Z"),
     (0x212A, "K"),
     (0x212C, "BC"),
     (0x212F, "eEF"),
     (0x2133, "Mo\u05d0\u05d1\u05d2\u05d3i"),
     (0x213D, "γΓΠ∑"),
     (0x2145, "Ddeij"),
     (0x2160, "I"),
     (0x2164, "V"),
     (0x2169, "X"),
     (0x216C, "LCDMi"),
     (0x2174, "v"),
     (0x2179, "x"),
     (0x217C, "lcdm"),
     (0x2329, "〈〉"),
     (0x2460, "123456789"),
     (0x24EA, "0"),
     (0x2E9F, "母"),
     (0x2EF3, "龟"),
     (0x2F00, "一丨丶丿乙亅二亠人儿入八冂冖冫几凵刀力勹匕匚匸十卜卩厂厶又口囗土士夂夊夕大女子"),
     (0x2F27, "宀寸小尢尸屮山巛工己巾干幺广廴廾弋弓彐彡彳心戈戶手支攴文斗斤方无日曰月木欠止歹"),
     (0x2F4E, "殳毋比毛氏气水火爪父爻爿片牙牛犬玄玉瓜瓦甘生用田疋疒癶白皮皿目矛矢石示禸禾穴立"),
     (0x2F75, "竹米糸缶网羊羽老而耒耳聿肉臣自至臼舌舛舟艮色艸虍虫血行衣襾見角言谷豆豕豸貝赤走"),
     (0x2F9C, "足身車辛辰辵邑酉釆里金長門阜隶隹雨靑非面革韋韭音頁風飛食首香馬骨高髟鬥鬯鬲鬼魚"),
     (0x2FC3, "鳥鹵鹿麥麻黃黍黑黹黽鼎鼓鼠鼻齊齒龍龜龠"),
     (0x3000, "\x20"),
     (0x3036, "〒"),
     (0x3038, "十卄卅"),
     (0x3131, "ᄀᄁᆪᄂᆬᆭᄃᄄᄅᆰᆱᆲᆳᆴᆵᄚᄆᄇᄈᄡ"),
     (0x3164, "ᅠᄔᄕᇇᇈᇌᇎᇓᇗᇙᄜᇝᇟᄝᄞᄠᄢᄣᄧᄩᄫᄬᄭᄮᄯᄲᄶᅀᅇᅌᇱᇲᅗᅘᅙᆄᆅᆈᆑᆒᆔᆞᆡ"),
     (0x3192, "一二三四上中下甲乙丙丁天地人"),
     (0x3260, "ᄀᄂᄃᄅᄆᄇᄉᄋᄌᄎᄏᄐᄑᄒ"),
     (0x3280, "一二三四五六七八九十月火水木金土日株有社名特財祝労秘男女適優印注項休写正上中下"),
     (0x32A7, "左右医宗学監企資協夜"),
     (0x32D0, "アイウエオカキクケコサシスセソタチツテトナニヌネノハヒフヘホマミムメモヤユヨラ"),
     (0x32F7, "リルレロワヰヱヲ"),
     (0xF900, "豈更車賈滑串句龜龜契金喇奈懶癩羅蘿螺裸邏樂洛烙珞落酪駱亂卵欄爛蘭鸞嵐濫藍襤拉臘"),
     (0xF927, "蠟廊朗浪狼郎來冷勞擄櫓爐盧老蘆虜路露魯鷺碌祿綠菉錄鹿論壟弄籠聾牢磊賂雷壘屢樓淚"),
     (0xF94E, "漏累縷陋勒肋凜凌稜綾菱陵讀拏樂諾丹寧怒率異北磻便復不泌數索參塞省葉說殺辰沈拾若"),
     (0xF975, "掠略亮兩凉梁糧良諒量勵呂女廬旅濾礪閭驪麗黎力曆歷轢年憐戀撚漣煉璉秊練聯輦蓮連鍊"),
     (0xF99C, "列劣咽烈裂說廉念捻殮簾獵令囹寧嶺怜玲瑩羚聆鈴零靈領例禮醴隸惡了僚寮尿料樂燎療蓼"),
     (0xF9C3, "遼龍暈阮劉杻柳流溜琉留硫紐類六戮陸倫崙淪輪律慄栗率隆利吏履易李梨泥理痢罹裏裡里"),
     (0xF9EA, "離匿溺吝燐璘藺隣鱗麟林淋臨立笠粒狀炙識什茶刺"),
     (0xFA00, "切度拓糖宅洞暴輻行降見廓兀嗀"),
     (0xFA10, "塚"),
     (0xFA12, "晴"),
     (0xFA15, "凞猪益礼神祥福靖精羽"),
     (0xFA20, "蘒"),
     (0xFA22, "諸"),
     (0xFA25, "逸都"),
     (0xFA2A, "飯飼館鶴"),
     (0xFA30, "侮僧免勉勤卑喝嘆器塀墨層屮悔慨憎懲敏既暑梅海渚漢煮爫琢碑社祉祈祐祖祝禍禎穀突節"),
     (0xFA57, "練縉繁署者臭艹艹著褐視謁謹賓贈辶逸難響頻"),
     (0xFB20, "\u05e2\u05d0\u05d3\u05d4\u05db\u05dc\u05dd\u05e8\u05ea+"),
     (0xFB50, "\u0671\u0671\u067b\u067b\u067b\u067b\u067e\u067e\u067e\u067e\u0680\u0680\u0680"),
     (0xFB5D, "\u0680\u067a\u067a\u067a\u067a\u067f\u067f\u067f\u067f\u0679\u0679\u0679\u0679"),
     (0xFB6A, "\u06a4\u06a4\u06a4\u06a4\u06a6\u06a6\u06a6\u06a6\u0684\u0684\u0684\u0684\u0683"),
     (0xFB77, "\u0683\u0683\u0683\u0686\u0686\u0686\u0686\u0687\u0687\u0687\u0687\u068d\u068d"),
     (0xFB84, "\u068c\u068c\u068e\u068e\u0688\u0688\u0698\u0698\u0691\u0691\u06a9\u06a9\u06a9"),
     (0xFB91, "\u06a9\u06af\u06af\u06af\u06af\u06b3\u06b3\u06b3\u06b3\u06b1\u06b1\u06b1\u06b1"),
     (0xFB9E, "\u06ba\u06ba\u06bb\u06bb\u06bb\u06bb"),
     (0xFBA6, "\u06c1\u06c1\u06c1\u06c1\u06be\u06be\u06be\u06be\u06d2\u06d2"),
     (0xFBD3, "\u06ad\u06ad\u06ad\u06ad\u06c7\u06c7\u06c6\u06c6\u06c8\u06c8"),
     (0xFBDE, "\u06cb\u06cb\u06c5\u06c5\u06c9\u06c9\u06d0\u06d0\u06d0\u06d0\u0649\u0649"),
     (0xFBFC, "\u06cc\u06cc\u06cc\u06cc"),
     (0xFE31, "—–__()\x7b\x7d〔〕【】《》〈〉「」『』"),
     (0xFE4D, "___,、."),
     (0xFE54, ";:?!—()\x7b\x7d〔〕#&*+\x2d<>="),
     (0xFE68, "\\$%@"),
     (0xFE80, "\u0621"),
     (0xFE8D, "\u0627\u0627\u0628\u0628\u0628\u0628\u0629\u0629\u062a\u062a\u062a\u062a\u062b"),
     (0xFE9A, "\u062b\u062b\u062b\u062c\u062c\u062c\u062c\u062d\u062d\u062d\u062d\u062e\u062e"),
     (0xFEA7, "\u062e\u062e\u062f\u062f\u0630\u0630\u0631\u0631\u0632\u0632\u0633\u0633\u0633"),
     (0xFEB4, "\u0633\u0634\u0634\u0634\u0634\u0635\u0635\u0635\u0635\u0636\u0636\u0636\u0636"),
     (0xFEC1, "\u0637\u0637\u0637\u0637\u0638\u0638\u0638\u0638\u0639\u0639\u0639\u0639\u063a"),
     (0xFECE, "\u063a\u063a\u063a\u0641\u0641\u0641\u0641\u0642\u0642\u0642\u0642\u0643\u0643"),
     (0xFEDB, "\u0643\u0643\u0644\u0644\u0644\u0644\u0645\u0645\u0645\u0645\u0646\u0646\u0646"),
     (0xFEE8, "\u0646\u0647\u0647\u0647\u0647\u0648\u0648\u0649\u0649\u064a\u064a\u064a\u064a"),
     (0xFF5F, "⦅⦆。「」、・ヲァィゥェォャュョッ\u30fcアイウエオカキクケコサシスセソタチツテト"),
     (0xFF85, "ナニヌネノハヒフヘホマミムメモヤユヨラリルレロワン\u3099\u309aᅠᄀᄁᆪᄂᆬᆭᄃᄄᄅ"),
     (0xFFAA, "ᆰᆱᆲᆳᆴᆵᄚᄆᄇᄈᄡ"),
     (0xFFC2, "ᅡᅢᅣᅤᅥᅦ"),
     (0xFFCA, "ᅧᅨᅩᅪᅫᅬ"),
     (0xFFD2, "ᅭᅮᅯᅰᅱᅲ"),
     (0xFFDA, "ᅳᅴᅵ"),
     (0xFFE0, "¢£¬"),
     (0xFFE4, "¦¥₩"),
     (0xFFE8, "│←↑→↓■○"),
     (0x1D44E, "abcdefg"),
     (0x1D49C, "A"),
     (0x1D49E, "CD"),
     (0x1D4A2, "G"),
     (0x1D4A5, "JK"),
     (0x1D4A9, "NOPQ"),
     (0x1D4AE, "STUVWXYZabcd"),
     (0x1D4BB, "f"),
     (0x1D4BD, "hijk"),
     (0x1D4C2, "mn"),
     (0x1D500, "wxyzAB"),
     (0x1D507, "DEFG"),
     (0x1D50D, "JKLMNOPQ"),
     (0x1D516, "STUVWXY"),
     (0x1D538, "AB"),
     (0x1D53B, "DEFG"),
     (0x1D540, "IJKLM"),
     (0x1D546, "O"),
     (0x1D54A, "STUVWXY"),
     (0x1D600, "stuvwxyz"),
     (0x1D6B9, "ΘΣΤΥΦΧΨΩ∇"),
     (0x1D6DB, "∂εθκφρπ"),
     (0x1D6F3, "ΘΣΤΥΦΧΨΩ∇αβγδ"),
     (0x1D715, "∂εθκφρπ"),
     (0x1D72D, "ΘΣΤΥΦΧΨΩ∇"),
     (0x1D74F, "∂εθκφρπ"),
     (0x1D767, "ΘΣΤΥΦΧΨΩ∇"),
     (0x1D789, "∂εθκφρπ"),
     (0x1D7A1, "ΘΣΤΥΦΧΨΩ∇"),
     (0x1D7C3, "∂εθκφρπ"),
     (0x2F800, "丽丸乁𠄢你侮侻倂偺備僧像㒞𠘺免兔兤具𠔜㒹內再𠕋冗冤仌冬况𩇟凵刃㓟刻剆割剷㔕勇勉"),
     (0x2F827, "勤勺包匆北卉卑博即卽卿卿卿𠨬灰及叟𠭣叫叱吆咞吸呈周咢哶唐啓啣善善喙喫喳嗂圖嘆圗"),
     (0x2F84E, "噑噴切壮城埴堍型堲報墬𡓤売壷夆多夢奢𡚨𡛪姬娛娧姘婦㛮𡍪嬈嬾嬾𡧈寃寘寧寳𡬘寿将弳"),
     (0x2F875, "尢㞁屠屮峀岍𡷤嵃𡷦嵮嵫嵼巡巢㠯巽帨帽幩㡢𢆃㡼庰庳庶廊𪎒廾𢌱𢌱舁弢弢㣇𣊸𦇚形彫㣣"),
     (0x2F89C, "徚忍志忹悁㤺㤜悔𢛔惇慈慌慎慌慺憎憲憤憯懞懲懶成戛扝抱拔捐𢬌挽拼捨掃揤𢯱搢揅掩㨮"),
     (0x2F8C3, "摩摾撝摷㩬敏敬𣀊旣書晉㬙暑㬈㫤冒冕最暜肭䏙朗望朡杞杓𣏃㭉柺枅桒梅𣑭梎栟椔㮝楂榣"),
     (0x2F8EA, "槪檨𣚣櫛㰘次𣢧歔㱎歲殟殺殻𣪍𡴋𣫺汎𣲼沿泍汧洖"),
     (0x2F900, "派海流浩浸涅𣴞洴港湮㴳滋滇𣻑淹潮𣽞𣾎濆瀹瀞瀛㶖灊災灷炭𠔥煅𤉣熜䎫爨爵牐𤘈犀犕𤜵"),
     (0x2F927, "𤠔獺王㺬玥㺸㺸瑇瑜瑱璅瓊㼛甤𤰶甾𤲒異𢆟瘐𤾡𤾸𥁄㿼䀈直𥃳𥃲𥄙𥄳眞真真睊䀹瞋䁆䂖𥐝"),
     (0x2F94E, "硎碌磌䃣𥘦祖𥚚𥛅福秫䄯穀穊穏𥥼𥪧𥪧窮䈂𥮫篆築䈧𥲀糒䊠糨糣紀𥾆絣䌁緇縂繅䌴𦈨𦉇䍙"),
     (0x2F975, "𦋙罺𦌾羕翺者𦓚𦔣聠𦖨聰𣍟䏕育脃䐋脾媵𦞧𦞵𣎓𣎜舁舄辞䑫芑芋芝劳花芳芽苦𦬼若茝荣莭"),
     (0x2F99C, "茣莽菧著荓菊菌菜𦰶𦵫𦳕䔫蓱蓳蔖𧏊蕤𦼬䕝䕡𦾱𧃒䕫虐虜虧虩蚩蚈蜎蛢蝹蜨蝫螆䵗蟡蠁䗹"),
     (0x2F9C3, "衠衣𧙧裗裞䘵裺㒻𧢮𧥦䚾䛇誠諭變豕𧲨貫賁贛起𧼯𠠄跋趼跰𠣞軔輸𨗒𨗭邔郱鄑𨜮鄛鈸鋗鋘"),
     (0x2F9EA, "鉼鏹鐕𨯺開䦕閷𨵷䧦雃嶲霣𩅅𩈚䩮䩶韠𩐊䪲𩒖頋頋"),
     (0x2FA00, "頩𩖶飢䬳餩馧駂駾䯎𩬰鬒鱀鳽䳎䳭鵧𪃎䳸𪄅𪈎𪊑麻䵖黹黾鼅鼏鼖鼻𪘀")]
  ranges :=
    [(0x2080, 0x2089, 0x0030), (0x24B6, 0x24CF, 0x0041), (0x24D0, 0x24E9, 0x0061),
     (0x3145, 0x314E, 0x1109), (0x314F, 0x3163, 0x1161), (0xFF01, 0xFF5E, 0x0021),
     (0xFFB5, 0xFFBE, 0x1109), (0x1D400, 0x1D419, 0x0041), (0x1D41A, 0x1D433, 0x0061),
     (0x1D434, 0x1D44D, 0x0041), (0x1D456, 0x1D467, 0x0069), (0x1D468, 0x1D481, 0x0041),
     (0x1D482, 0x1D49B, 0x0061), (0x1D4C5, 0x1D4CF, 0x0070), (0x1D4D0, 0x1D4E9, 0x0041),
     (0x1D4EA, 0x1D4FF, 0x0061), (0x1D51E, 0x1D537, 0x0061), (0x1D552, 0x1D56B, 0x0061),
     (0x1D56C, 0x1D585, 0x0041), (0x1D586, 0x1D59F, 0x0061), (0x1D5A0, 0x1D5B9, 0x0041),
     (0x1D5BA, 0x1D5D3, 0x0061), (0x1D5D4, 0x1D5ED, 0x0041), (0x1D5EE, 0x1D5FF, 0x0061),
     (0x1D608, 0x1D621, 0x0041), (0x1D622, 0x1D63B, 0x0061), (0x1D63C, 0x1D655, 0x0041),
     (0x1D656, 0x1D66F, 0x0061), (0x1D670, 0x1D689, 0x0041), (0x1D68A, 0x1D6A3, 0x0061),
     (0x1D6A8, 0x1D6B8, 0x0391), (0x1D6C2, 0x1D6DA, 0x03B1), (0x1D6E2, 0x1D6F2, 0x0391),
     (0x1D700, 0x1D714, 0x03B5), (0x1D71C, 0x1D72C, 0x0391), (0x1D736, 0x1D74E, 0x03B1),
     (0x1D756, 0x1D766, 0x0391), (0x1D770, 0x1D788, 0x03B1), (0x1D790, 0x1D7A0, 0x0391),
     (0x1D7AA, 0x1D7C2, 0x03B1), (0x1D7CE, 0x1D7D7, 0x0030), (0x1D7D8, 0x1D7E1, 0x0030),
     (0x1D7E2, 0x1D7EB, 0x0030), (0x1D7EC, 0x1D7F5, 0x0030), (0x1D7F6, 0x1D7FF, 0x0030)]

/-- The characters that stand for several other ones, with bars between those of neighbours. -/
def expansions : List (Nat × String) :=
  [(0x00A8, "\x20\u0308"),
   (0x00AF, "\x20\u0304"),
   (0x00B4, "\x20\u0301"),
   (0x00B8, "\x20\u0327"),
   (0x00BC, "1⁄4|1⁄2|3⁄4"),
   (0x0132, "IJ|ij"),
   (0x013F, "L·|l·"),
   (0x0149, "\u02bcn"),
   (0x01C4, "DZ\u030c|Dz\u030c|dz\u030c|LJ|Lj|lj|NJ|Nj|nj"),
   (0x01F1, "DZ|Dz|dz"),
   (0x02D8, "\x20\u0306|\x20\u0307|\x20\u030a|\x20\u0328|\x20\u0303|\x20\u030b"),
   (0x0344, "\u0308\u0301"),
   (0x037A, "\x20\u0345"),
   (0x0384, "\x20\u0301"),
   (0x0587, "եւ"),
   (0x0675, "\u0627\u0674|\u0648\u0674|\u06c7\u0674|\u064a\u0674"),
   (0x0958, "क\u093c|ख\u093c|ग\u093c|ज\u093c|ड\u093c|ढ\u093c|फ\u093c|य\u093c"),
   (0x09DC, "ড\u09bc|ঢ\u09bc"),
   (0x09DF, "য\u09bc"),
   (0x0A33, "ਲ\u0a3c"),
   (0x0A36, "ਸ\u0a3c"),
   (0x0A59, "ਖ\u0a3c|ਗ\u0a3c|ਜ\u0a3c"),
   (0x0A5E, "ਫ\u0a3c"),
   (0x0B5C, "ଡ\u0b3c|ଢ\u0b3c"),
   (0x0E33, "\u0e4dา"),
   (0x0EB3, "\u0ecdາ"),
   (0x0EDC, "ຫນ|ຫມ"),
   (0x0F43, "ག\u0fb7"),
   (0x0F4D, "ཌ\u0fb7"),
   (0x0F52, "ད\u0fb7"),
   (0x0F57, "བ\u0fb7"),
   (0x0F5C, "ཛ\u0fb7"),
   (0x0F69, "ཀ\u0fb5"),
   (0x0F73, "\u0f71\u0f72"),
   (0x0F75, "\u0f71\u0f74|\u0fb2\u0f80|\u0fb2\u0f71\u0f80|\u0fb3\u0f80|\u0fb3\u0f71\u0f80"),
   (0x0F81, "\u0f71\u0f80"),
   (0x0F93, "\u0f92\u0fb7"),
   (0x0F9D, "\u0f9c\u0fb7"),
   (0x0FA2, "\u0fa1\u0fb7"),
   (0x0FA7, "\u0fa6\u0fb7"),
   (0x0FAC, "\u0fab\u0fb7"),
   (0x0FB9, "\u0f90\u0fb5"),
   (0x1E9A, "a\u02be"),
   (0x1F71, "α\u0301"),
   (0x1F73, "ε\u0301"),
   (0x1F75, "η\u0301"),
   (0x1F77, "ι\u0301"),
   (0x1F79, "ο\u0301"),
   (0x1F7B, "υ\u0301"),
   (0x1F7D, "ω\u0301"),
   (0x1FBB, "Α\u0301"),
   (0x1FBD, "\x20\u0313"),
   (0x1FBF, "\x20\u0313|\x20\u0342"),
   (0x1FC9, "Ε\u0301"),
   (0x1FCB, "Η\u0301"),
   (0x1FD3, "ι\u0308\u0301"),
   (0x1FDB, "Ι\u0301"),
   (0x1FE3, "υ\u0308\u0301"),
   (0x1FEB, "Υ\u0301"),
   (0x1FEE, "\x20\u0308\u0301"),
   (0x1FF9, "Ο\u0301"),
   (0x1FFB, "Ω\u0301"),
   (0x1FFD, "\x20\u0301|\x20\u0314"),
   (0x2017, "\x20\u0333"),
   (0x2025, "..|..."),
   (0x2033, "′′|′′′"),
   (0x2036, "‵‵|‵‵‵"),
   (0x203C, "!!"),
   (0x203E, "\x20\u0305"),
   (0x2047, "??|?!|!?"),
   (0x2057, "′′′′"),
   (0x20A8, "Rs"),
   (0x2100, "a\x2fc|a\x2fs"),
   (0x2103, "°C"),
   (0x2105, "c\x2fo|c\x2fu"),
   (0x2109, "°F"),
   (0x2116, "No"),
   (0x2120, "SM|TEL|TM"),
   (0x212B, "A\u030a"),
   (0x2153, "1⁄3|2⁄3|1⁄5|2⁄5|3⁄5|4⁄5|1⁄6|5⁄6|1⁄8|3⁄8|5⁄8|7⁄8|1⁄"),
   (0x2161, "II|III|IV"),
   (0x2165, "VI|VII|VIII|IX"),
   (0x216A, "XI|XII"),
   (0x2171, "ii|iii|iv"),
   (0x2175, "vi|vii|viii|ix"),
   (0x217A, "xi|xii"),
   (0x222C, "∫∫|∫∫∫"),
   (0x222F, "∮∮|∮∮∮"),
   (0x2469, "10|11|12|13|14|15|16|17|18|19|20|(1)|(2)|(3)|(4)|(5)|(6)|(7)|(8)|(9)|(10)|(11)"),
   (0x247F, "(12)|(13)|(14)|(15)|(16)|(17)|(18)|(19)|(20)|1.|2.|3.|4.|5.|6.|7.|8.|9.|10."),
   (0x2492, "11.|12.|13.|14.|15.|16.|17.|18.|19.|20.|(a)|(b)|(c)|(d)|(e)|(f)|(g)|(h)|(i)"),
   (0x24A5, "(j)|(k)|(l)|(m)|(n)|(o)|(p)|(q)|(r)|(s)|(t)|(u)|(v)|(w)|(x)|(y)|(z)"),
   (0x2A0C, "∫∫∫∫"),
   (0x2A74, "::=|==|==="),
   (0x2ADC, "⫝\u0338"),
   (0x309B, "\x20\u3099|\x20\u309a"),
   (0x309F, "より"),
   (0x30FF, "コト"),
   (0x3200, "(ᄀ)|(ᄂ)|(ᄃ)|(ᄅ)|(ᄆ)|(ᄇ)|(ᄉ)|(ᄋ)|(ᄌ)|(ᄎ)|(ᄏ)|(ᄐ)|(ᄑ)|(ᄒ)|(가)"),
   (0x320F, "(나)|(다)|(라)|(마)|(바)|(사)|(아)|(자)|(차)|(카)|(타)|(파)|(하)"),
   (0x321C, "(주)"),
   (0x3220, "(一)|(二)|(三)|(四)|(五)|(六)|(七)|(八)|(九)|(十)|(月)|(火)|(水)|(木)|(金)"),
   (0x322F, "(土)|(日)|(株)|(有)|(社)|(名)|(特)|(財)|(祝)|(労)|(代)|(呼)|(学)|(監)|(企)"),
   (0x323E, "(資)|(協)|(祭)|(休)|(自)|(至)"),
   (0x3251, "21|22|23|24|25|26|27|28|29|30|31|32|33|34|35"),
   (0x326E, "가|나|다|라|마|바|사|아|자|차|카|타|파|하"),
   (0x32B1, "36|37|38|39|40|41|42|43|44|45|46|47|48|49|50|1月|2月|3月|4月|5月|6月|7月|8月"),
   (0x32C8, "9月|10月|11月|12月"),
   (0x3300, "アハ\u309a\u30fcト|アルファ|アンヘ\u309aア|ア\u30fcル|イニンク\u3099|インチ"),
   (0x3306, "ウォン|エスク\u30fcト\u3099|エ\u30fcカ\u30fc|オンス|オ\u30fcム|カイリ|カラット"),
   (0x330D, "カロリ\u30fc|カ\u3099ロン|カ\u3099ンマ|キ\u3099カ\u3099|キ\u3099ニ\u30fc"),
   (0x3312, "キュリ\u30fc|キ\u3099ルタ\u3099\u30fc|キロ|キロク\u3099ラム|キロメ\u30fcトル"),
   (0x3317, "キロワット|ク\u3099ラム|ク\u3099ラムトン|クルセ\u3099イロ|クロ\u30fcネ"),
   (0x331C, "ケ\u30fcス|コルナ|コ\u30fcホ\u309a|サイクル|サンチ\u30fcム|シリンク\u3099"),
   (0x3322, "センチ|セント|タ\u3099\u30fcス|テ\u3099シ|ト\u3099ル|トン|ナノ|ノット|ハイツ"),
   (0x332B, "ハ\u309a\u30fcセント|ハ\u309a\u30fcツ|ハ\u3099\u30fcレル|ヒ\u309aアストル"),
   (0x332F, "ヒ\u309aクル|ヒ\u309aコ|ヒ\u3099ル|ファラット\u3099|フィ\u30fcト"),
   (0x3334, "フ\u3099ッシェル|フラン|ヘクタ\u30fcル|ヘ\u309aソ|ヘ\u309aニヒ|ヘルツ"),
   (0x333A, "ヘ\u309aンス|ヘ\u309a\u30fcシ\u3099|ヘ\u3099\u30fcタ|ホ\u309aイント"),
   (0x333E, "ホ\u3099ルト|ホン|ホ\u309aント\u3099|ホ\u30fcル|ホ\u30fcン|マイクロ|マイル"),
   (0x3345, "マッハ|マルク|マンション|ミクロン|ミリ|ミリハ\u3099\u30fcル|メカ\u3099"),
   (0x334C, "メカ\u3099トン|メ\u30fcトル|ヤ\u30fcト\u3099|ヤ\u30fcル|ユアン|リットル|リラ"),
   (0x3353, "ルヒ\u309a\u30fc|ル\u30fcフ\u3099ル|レム|レントケ\u3099ン|ワット|0点|1点|2点"),
   (0x335B, "3点|4点|5点|6点|7点|8点|9点|10点|11点|12点|13点|14点|15点|16点|17点|18点|19点"),
   (0x336C, "20点|21点|22点|23点|24点|hPa|da|AU|bar|oV|pc"),
   (0x337B, "平成|昭和|大正|明治|株式会社|pA|nA|μA|mA|kA|KB|MB|GB|cal|kcal|pF|nF|μF|μg|mg"),
   (0x338F, "kg|Hz|kHz|MHz|GHz|THz|μl|ml|dl|kl|fm|nm|μm|mm|cm|km|mm2|cm2|m2|km2|mm3|cm3|m3"),
   (0x33A6, "km3|m∕s|m∕s2|Pa|kPa|MPa|GPa|rad|rad∕s|rad∕s2|ps|ns|μs|ms|pV|nV|μV|mV|kV|MV|pW"),
   (0x33BB, "nW|μW|mW|kW|MW|kΩ|MΩ|a.m.|Bq|cc|cd|C∕kg|Co.|dB|Gy|ha|HP|in|KK|KM|kt|lm|ln|log"),
   (0x33D3, "lx|mb|mil|mol|PH|p.m.|PPM|PR|sr|Sv|Wb"),
   (0x33E0, "1日|2日|3日|4日|5日|6日|7日|8日|9日|10日|11日|12日|13日|14日|15日|16日|17日"),
   (0x33F1, "18日|19日|20日|21日|22日|23日|24日|25日|26日|27日|28日|29日|30日|31日"),
   (0xFB00, "ff|fi|fl|ffi|ffl|st|st"),
   (0xFB13, "մն|մե|մի|վն|մխ"),
   (0xFB1D, "\u05d9\u05b4"),
   (0xFB1F, "\u05f2\u05b7"),
   (0xFB2A, "\u05e9\u05c1|\u05e9\u05c2|\u05e9\u05bc\u05c1|\u05e9\u05bc\u05c2|\u05d0\u05b7"),
   (0xFB2F, "\u05d0\u05b8|\u05d0\u05bc|\u05d1\u05bc|\u05d2\u05bc|\u05d3\u05bc|\u05d4\u05bc"),
   (0xFB35, "\u05d5\u05bc|\u05d6\u05bc"),
   (0xFB38, "\u05d8\u05bc|\u05d9\u05bc|\u05da\u05bc|\u05db\u05bc|\u05dc\u05bc"),
   (0xFB3E, "\u05de\u05bc"),
   (0xFB40, "\u05e0\u05bc|\u05e1\u05bc"),
   (0xFB43, "\u05e3\u05bc|\u05e4\u05bc"),
   (0xFB46, "\u05e6\u05bc|\u05e7\u05bc|\u05e8\u05bc|\u05e9\u05bc|\u05ea\u05bc|\u05d5\u05b9"),
   (0xFB4C, "\u05d1\u05bf|\u05db\u05bf|\u05e4\u05bf|\u05d0\u05dc"),
   (0xFBA4, "\u06d5\u0654|\u06d5\u0654"),
   (0xFBB0, "\u06d2\u0654|\u06d2\u0654"),
   (0xFBDD, "\u06c7\u0674"),
   (0xFBEA, "\u064a\u0654\u0627|\u064a\u0654\u0627|\u064a\u0654\u06d5|\u064a\u0654\u06d5"),
   (0xFBEE, "\u064a\u0654\u0648|\u064a\u0654\u0648|\u064a\u0654\u06c7|\u064a\u0654\u06c7"),
   (0xFBF2, "\u064a\u0654\u06c6|\u064a\u0654\u06c6|\u064a\u0654\u06c8|\u064a\u0654\u06c8"),
   (0xFBF6, "\u064a\u0654\u06d0|\u064a\u0654\u06d0|\u064a\u0654\u06d0|\u064a\u0654\u0649"),
   (0xFBFA, "\u064a\u0654\u0649|\u064a\u0654\u0649"),
   (0xFC00, "\u064a\u0654\u062c|\u064a\u0654\u062d|\u064a\u0654\u0645|\u064a\u0654\u0649"),
   (0xFC04, "\u064a\u0654\u064a|\u0628\u062c|\u0628\u062d|\u0628\u062e|\u0628\u0645"),
   (0xFC09, "\u0628\u0649|\u0628\u064a|\u062a\u062c|\u062a\u062d|\u062a\u062e|\u062a\u0645"),
   (0xFC0F, "\u062a\u0649|\u062a\u064a|\u062b\u062c|\u062b\u0645|\u062b\u0649|\u062b\u064a"),
   (0xFC15, "\u062c\u062d|\u062c\u0645|\u062d\u062c|\u062d\u0645|\u062e\u062c|\u062e\u062d"),
   (0xFC1B, "\u062e\u0645|\u0633\u062c|\u0633\u062d|\u0633\u062e|\u0633\u0645|\u0635\u062d"),
   (0xFC21, "\u0635\u0645|\u0636\u062c|\u0636\u062d|\u0636\u062e|\u0636\u0645|\u0637\u062d"),
   (0xFC27, "\u0637\u0645|\u0638\u0645|\u0639\u062c|\u0639\u0645|\u063a\u062c|\u063a\u0645"),
   (0xFC2D, "\u0641\u062c|\u0641\u062d|\u0641\u062e|\u0641\u0645|\u0641\u0649|\u0641\u064a"),
   (0xFC33, "\u0642\u062d|\u0642\u0645|\u0642\u0649|\u0642\u064a|\u0643\u0627|\u0643\u062c"),
   (0xFC39, "\u0643\u062d|\u0643\u062e|\u0643\u0644|\u0643\u0645|\u0643\u0649|\u0643\u064a"),
   (0xFC3F, "\u0644\u062c|\u0644\u062d|\u0644\u062e|\u0644\u0645|\u0644\u0649|\u0644\u064a"),
   (0xFC45, "\u0645\u062c|\u0645\u062d|\u0645\u062e|\u0645\u0645|\u0645\u0649|\u0645\u064a"),
   (0xFC4B, "\u0646\u062c|\u0646\u062d|\u0646\u062e|\u0646\u0645|\u0646\u0649|\u0646\u064a"),
   (0xFC51, "\u0647\u062c|\u0647\u0645|\u0647\u0649|\u0647\u064a|\u064a\u062c|\u064a\u062d"),
   (0xFC57, "\u064a\u062e|\u064a\u0645|\u064a\u0649|\u064a\u064a|\u0630\u0670|\u0631\u0670"),
   (0xFC5D, "\u0649\u0670|\x20\u064c\u0651|\x20\u064d\u0651|\x20\u064e\u0651"),
   (0xFC61, "\x20\u064f\u0651|\x20\u0650\u0651|\x20\u0651\u0670|\u064a\u0654\u0631"),
   (0xFC65, "\u064a\u0654\u0632|\u064a\u0654\u0645|\u064a\u0654\u0646|\u064a\u0654\u0649"),
   (0xFC69, "\u064a\u0654\u064a|\u0628\u0631|\u0628\u0632|\u0628\u0645|\u0628\u0646"),
   (0xFC6E, "\u0628\u0649|\u0628\u064a|\u062a\u0631|\u062a\u0632|\u062a\u0645|\u062a\u0646"),
   (0xFC74, "\u062a\u0649|\u062a\u064a|\u062b\u0631|\u062b\u0632|\u062b\u0645|\u062b\u0646"),
   (0xFC7A, "\u062b\u0649|\u062b\u064a|\u0641\u0649|\u0641\u064a|\u0642\u0649|\u0642\u064a"),
   (0xFC80, "\u0643\u0627|\u0643\u0644|\u0643\u0645|\u0643\u0649|\u0643\u064a|\u0644\u0645"),
   (0xFC86, "\u0644\u0649|\u0644\u064a|\u0645\u0627|\u0645\u0645|\u0646\u0631|\u0646\u0632"),
   (0xFC8C, "\u0646\u0645|\u0646\u0646|\u0646\u0649|\u0646\u064a|\u0649\u0670|\u064a\u0631"),
   (0xFC92, "\u064a\u0632|\u064a\u0645|\u064a\u0646|\u064a\u0649|\u064a\u064a"),
   (0xFC97, "\u064a\u0654\u062c|\u064a\u0654\u062d|\u064a\u0654\u062e|\u064a\u0654\u0645"),
   (0xFC9B, "\u064a\u0654\u0647|\u0628\u062c|\u0628\u062d|\u0628\u062e|\u0628\u0645"),
   (0xFCA0, "\u0628\u0647|\u062a\u062c|\u062a\u062d|\u062a\u062e|\u062a\u0645|\u062a\u0647"),
   (0xFCA6, "\u062b\u0645|\u062c\u062d|\u062c\u0645|\u062d\u062c|\u062d\u0645|\u062e\u062c"),
   (0xFCAC, "\u062e\u0645|\u0633\u062c|\u0633\u062d|\u0633\u062e|\u0633\u0645|\u0635\u062d"),
   (0xFCB2, "\u0635\u062e|\u0635\u0645|\u0636\u062c|\u0636\u062d|\u0636\u062e|\u0636\u0645"),
   (0xFCB8, "\u0637\u062d|\u0638\u0645|\u0639\u062c|\u0639\u0645|\u063a\u062c|\u063a\u0645"),
   (0xFCBE, "\u0641\u062c|\u0641\u062d|\u0641\u062e|\u0641\u0645|\u0642\u062d|\u0642\u0645"),
   (0xFCC4, "\u0643\u062c|\u0643\u062d|\u0643\u062e|\u0643\u0644|\u0643\u0645|\u0644\u062c"),
   (0xFCCA, "\u0644\u062d|\u0644\u062e|\u0644\u0645|\u0644\u0647|\u0645\u062c|\u0645\u062d"),
   (0xFCD0, "\u0645\u062e|\u0645\u0645|\u0646\u062c|\u0646\u062d|\u0646\u062e|\u0646\u0645"),
   (0xFCD6, "\u0646\u0647|\u0647\u062c|\u0647\u0645|\u0647\u0670|\u064a\u062c|\u064a\u062d"),
   (0xFCDC, "\u064a\u062e|\u064a\u0645|\u064a\u0647|\u064a\u0654\u0645|\u064a\u0654\u0647"),
   (0xFCE1, "\u0628\u0645|\u0628\u0647|\u062a\u0645|\u062a\u0647|\u062b\u0645|\u062b\u0647"),
   (0xFCE7, "\u0633\u0645|\u0633\u0647|\u0634\u0645|\u0634\u0647|\u0643\u0644|\u0643\u0645"),
   (0xFCED, "\u0644\u0645|\u0646\u0645|\u0646\u0647|\u064a\u0645|\u064a\u0647"),
   (0xFCF2, "\u0640\u064e\u0651|\u0640\u064f\u0651|\u0640\u0650\u0651|\u0637\u0649"),
   (0xFCF6, "\u0637\u064a|\u0639\u0649|\u0639\u064a|\u063a\u0649|\u063a\u064a|\u0633\u0649"),
   (0xFCFC, "\u0633\u064a|\u0634\u0649|\u0634\u064a|\u062d\u0649|\u062d\u064a|\u062c\u0649"),
   (0xFD02, "\u062c\u064a|\u062e\u0649|\u062e\u064a|\u0635\u0649|\u0635\u064a|\u0636\u0649"),
   (0xFD08, "\u0636\u064a|\u0634\u062c|\u0634\u062d|\u0634\u062e|\u0634\u0645|\u0634\u0631"),
   (0xFD0E, "\u0633\u0631|\u0635\u0631|\u0636\u0631|\u0637\u0649|\u0637\u064a|\u0639\u0649"),
   (0xFD14, "\u0639\u064a|\u063a\u0649|\u063a\u064a|\u0633\u0649|\u0633\u064a|\u0634\u0649"),
   (0xFD1A, "\u0634\u064a|\u062d\u0649|\u062d\u064a|\u062c\u0649|\u062c\u064a|\u062e\u0649"),
   (0xFD20, "\u062e\u064a|\u0635\u0649|\u0635\u064a|\u0636\u0649|\u0636\u064a|\u0634\u062c"),
   (0xFD26, "\u0634\u062d|\u0634\u062e|\u0634\u0645|\u0634\u0631|\u0633\u0631|\u0635\u0631"),
   (0xFD2C, "\u0636\u0631|\u0634\u062c|\u0634\u062d|\u0634\u062e|\u0634\u0645|\u0633\u0647"),
   (0xFD32, "\u0634\u0647|\u0637\u0645|\u0633\u062c|\u0633\u062d|\u0633\u062e|\u0634\u062c"),
   (0xFD38, "\u0634\u062d|\u0634\u062e|\u0637\u0645|\u0638\u0645|\u0627\u064b|\u0627\u064b"),
   (0xFD50, "\u062a\u062c\u0645|\u062a\u062d\u062c|\u062a\u062d\u062c|\u062a\u062d\u0645"),
   (0xFD54, "\u062a\u062e\u0645|\u062a\u0645\u062c|\u062a\u0645\u062d|\u062a\u0645\u062e"),
   (0xFD58, "\u062c\u0645\u062d|\u062c\u0645\u062d|\u062d\u0645\u064a|\u062d\u0645\u0649"),
   (0xFD5C, "\u0633\u062d\u062c|\u0633\u062c\u062d|\u0633\u062c\u0649|\u0633\u0645\u062d"),
   (0xFD60, "\u0633\u0645\u062d|\u0633\u0645\u062c|\u0633\u0645\u0645|\u0633\u0645\u0645"),
   (0xFD64, "\u0635\u062d\u062d|\u0635\u062d\u062d|\u0635\u0645\u0645|\u0634\u062d\u0645"),
   (0xFD68, "\u0634\u062d\u0645|\u0634\u062c\u064a|\u0634\u0645\u062e|\u0634\u0645\u062e"),
   (0xFD6C, "\u0634\u0645\u0645|\u0634\u0645\u0645|\u0636\u062d\u0649|\u0636\u062e\u0645"),
   (0xFD70, "\u0636\u062e\u0645|\u0637\u0645\u062d|\u0637\u0645\u062d|\u0637\u0645\u0645"),
   (0xFD74, "\u0637\u0645\u064a|\u0639\u062c\u0645|\u0639\u0645\u0645|\u0639\u0645\u0645"),
   (0xFD78, "\u0639\u0645\u0649|\u063a\u0645\u0645|\u063a\u0645\u064a|\u063a\u0645\u0649"),
   (0xFD7C, "\u0641\u062e\u0645|\u0641\u062e\u0645|\u0642\u0645\u062d|\u0642\u0645\u0645"),
   (0xFD80, "\u0644\u062d\u0645|\u0644\u062d\u064a|\u0644\u062d\u0649|\u0644\u062c\u062c"),
   (0xFD84, "\u0644\u062c\u062c|\u0644\u062e\u0645|\u0644\u062e\u0645|\u0644\u0645\u062d"),
   (0xFD88, "\u0644\u0645\u062d|\u0645\u062d\u062c|\u0645\u062d\u0645|\u0645\u062d\u064a"),
   (0xFD8C, "\u0645\u062c\u062d|\u0645\u062c\u0645|\u0645\u062e\u062c|\u0645\u062e\u0645"),
   (0xFD92, "\u0645\u062c\u062e|\u0647\u0645\u062c|\u0647\u0645\u0645|\u0646\u062d\u0645"),
   (0xFD96, "\u0646\u062d\u0649|\u0646\u062c\u0645|\u0646\u062c\u0645|\u0646\u062c\u0649"),
   (0xFD9A, "\u0646\u0645\u064a|\u0646\u0645\u0649|\u064a\u0645\u0645|\u064a\u0645\u0645"),
   (0xFD9E, "\u0628\u062e\u064a|\u062a\u062c\u064a|\u062a\u062c\u0649|\u062a\u062e\u064a"),
   (0xFDA2, "\u062a\u062e\u0649|\u062a\u0645\u064a|\u062a\u0645\u0649|\u062c\u0645\u064a"),
   (0xFDA6, "\u062c\u062d\u0649|\u062c\u0645\u0649|\u0633\u062e\u0649|\u0635\u062d\u064a"),
   (0xFDAA, "\u0634\u062d\u064a|\u0636\u062d\u064a|\u0644\u062c\u064a|\u0644\u0645\u064a"),
   (0xFDAE, "\u064a\u062d\u064a|\u064a\u062c\u064a|\u064a\u0645\u064a|\u0645\u0645\u064a"),
   (0xFDB2, "\u0642\u0645\u064a|\u0646\u062d\u064a|\u0642\u0645\u062d|\u0644\u062d\u0645"),
   (0xFDB6, "\u0639\u0645\u064a|\u0643\u0645\u064a|\u0646\u062c\u062d|\u0645\u062e\u064a"),
   (0xFDBA, "\u0644\u062c\u0645|\u0643\u0645\u0645|\u0644\u062c\u0645|\u0646\u062c\u062d"),
   (0xFDBE, "\u062c\u062d\u064a|\u062d\u062c\u064a|\u0645\u062c\u064a|\u0641\u0645\u064a"),
   (0xFDC2, "\u0628\u062d\u064a|\u0643\u0645\u0645|\u0639\u062c\u0645|\u0635\u0645\u0645"),
   (0xFDC6, "\u0633\u062e\u064a|\u0646\u062c\u064a"),
   (0xFDF0, "\u0635\u0644\u06d2|\u0642\u0644\u06d2|\u0627\u0644\u0644\u0647"),
   (0xFDF3, "\u0627\u0643\u0628\u0631|\u0645\u062d\u0645\u062f|\u0635\u0644\u0639\u0645"),
   (0xFDF6, "\u0631\u0633\u0648\u0644|\u0639\u0644\u064a\u0647|\u0648\u0633\u0644\u0645"),
   (0xFDF9, "\u0635\u0644\u0649"),
   (0xFDFA, "\u0635\u0644\u0649\x20\u0627\u0644\u0644\u0647\x20\u0639\u0644\u064a\u0647\x20\u0648\u0633\u0644\u0645"),
   (0xFDFB, "\u062c\u0644\x20\u062c\u0644\u0627\u0644\u0647|\u0631\u06cc\u0627\u0644"),
   (0xFE30, ".."),
   (0xFE49, "\x20\u0305|\x20\u0305|\x20\u0305|\x20\u0305"),
   (0xFE70, "\x20\u064b|\u0640\u064b|\x20\u064c"),
   (0xFE74, "\x20\u064d"),
   (0xFE76, "\x20\u064e|\u0640\u064e|\x20\u064f|\u0640\u064f|\x20\u0650|\u0640\u0650"),
   (0xFE7C, "\x20\u0651|\u0640\u0651|\x20\u0652|\u0640\u0652"),
   (0xFE81, "\u0627\u0653|\u0627\u0653|\u0627\u0654|\u0627\u0654|\u0648\u0654|\u0648\u0654"),
   (0xFE87, "\u0627\u0655|\u0627\u0655|\u064a\u0654|\u064a\u0654|\u064a\u0654|\u064a\u0654"),
   (0xFEF5, "\u0644\u0627\u0653|\u0644\u0627\u0653|\u0644\u0627\u0654|\u0644\u0627\u0654"),
   (0xFEF9, "\u0644\u0627\u0655|\u0644\u0627\u0655|\u0644\u0627|\u0644\u0627"),
   (0xFFE3, "\x20\u0304"),
   (0x1D15E, "𝅗𝅥|𝅘𝅥|𝅘𝅥𝅮|𝅘𝅥𝅯|𝅘𝅥𝅰|𝅘𝅥𝅱|𝅘𝅥𝅲"),
   (0x1D1BB, "𝆹𝅥|𝆺𝅥|𝆹𝅥𝅮|𝆺𝅥𝅮|𝆹𝅥𝅯|𝆺𝅥𝅯")]

end OpenerPolicy.Text
