/-!
Characters that stand for others.

A variant of a character, such as a wide, raised or joined form of it, stands for that character,
or for a few of them. The tables here give for each variant that a name can hold what it
stands for, all the way down: what a variant stands for is no variant itself.
-/

namespace DocGuard.Text

/-- Runs of variants: the first code point, how many there are, and the code point for which the
first stands. -/
def variantRuns : List (Nat × Nat × Nat) :=
  [(0x340, 2, 0x300), (0x3f1, 2, 0x3c1), (0x1d30, 2, 0x44), (0x1d33, 8, 0x47), (0x1d40, 2, 0x54),
   (0x1d44, 2, 0x250), (0x1d48, 2, 0x64), (0x1d4b, 2, 0x25b), (0x1d54, 2, 0x1d16),
   (0x1d57, 2, 0x74), (0x1d5d, 3, 0x3b2), (0x1d60, 2, 0x3c6), (0x1d64, 2, 0x75), (0x1d66, 2, 0x3b2),
   (0x1d69, 2, 0x3c6), (0x1da4, 3, 0x268), (0x1dae, 4, 0x272), (0x1db3, 2, 0x282),
   (0x1db6, 2, 0x289), (0x1db9, 2, 0x28b), (0x1dbc, 3, 0x290), (0x2096, 4, 0x6b), (0x209b, 2, 0x73),
   (0x2119, 3, 0x50), (0x212c, 2, 0x42), (0x2130, 2, 0x45), (0x2135, 4, 0x5d0), (0x2146, 2, 0x64),
   (0x2148, 2, 0x69), (0x216d, 2, 0x43), (0x217d, 2, 0x63), (0x3039, 2, 0x5344),
   (0x3131, 2, 0x1100), (0x3135, 2, 0x11ac), (0x3137, 3, 0x1103), (0x313a, 6, 0x11b0),
   (0x3141, 3, 0x1106), (0x3145, 10, 0x1109), (0x314f, 21, 0x1161), (0x3165, 2, 0x1114),
   (0x3167, 2, 0x11c7), (0x3171, 2, 0x111d), (0x3174, 2, 0x1122), (0x3178, 5, 0x112b),
   (0x3182, 2, 0x11f1), (0x3184, 3, 0x1157), (0x3187, 2, 0x1184), (0x318a, 2, 0x1191),
   (0xfa52, 2, 0x798d), (0xfb22, 2, 0x5d3), (0xfb24, 3, 0x5db), (0xfb7d, 2, 0x686),
   (0xfb9f, 2, 0x6ba), (0xfe8e, 2, 0x627), (0xfe92, 2, 0x628), (0xfe94, 2, 0x629),
   (0xfe98, 2, 0x62a), (0xfe9c, 2, 0x62b), (0xfea0, 2, 0x62c), (0xfea4, 2, 0x62d),
   (0xfea8, 2, 0x62e), (0xfeaa, 2, 0x62f), (0xfeac, 2, 0x630), (0xfeae, 2, 0x631),
   (0xfeb0, 2, 0x632), (0xfeb4, 2, 0x633), (0xfeb8, 2, 0x634), (0xfebc, 2, 0x635),
   (0xfec0, 2, 0x636), (0xfec4, 2, 0x637), (0xfec8, 2, 0x638), (0xfecc, 2, 0x639),
   (0xfed4, 2, 0x641), (0xfed8, 2, 0x642), (0xfedc, 2, 0x643), (0xfee0, 2, 0x644),
   (0xfee4, 2, 0x645), (0xfee8, 2, 0x646), (0xfeec, 2, 0x647), (0xfeee, 2, 0x648),
   (0xfef0, 2, 0x649), (0xff10, 10, 0x30), (0xff21, 26, 0x41), (0xff41, 26, 0x61),
   (0xff75, 2, 0x30aa), (0xff85, 6, 0x30ca), (0xff8f, 5, 0x30de), (0xff96, 6, 0x30e8),
   (0xff9e, 2, 0x3099), (0xffa1, 2, 0x1100), (0xffa5, 2, 0x11ac), (0xffa7, 3, 0x1103),
   (0xffaa, 6, 0x11b0), (0xffb1, 3, 0x1106), (0xffb5, 10, 0x1109), (0xffc2, 6, 0x1161),
   (0xffca, 6, 0x1167), (0xffd2, 6, 0x116d), (0xffda, 3, 0x1173), (0x10781, 2, 0x2d0),
   (0x1078b, 2, 0x256), (0x10799, 2, 0x2aa), (0x107a3, 2, 0x276), (0x107a8, 2, 0x27d),
   (0x107b3, 2, 0x2a1), (0x107b6, 3, 0x1c0), (0x1d400, 26, 0x41), (0x1d41a, 26, 0x61),
   (0x1d434, 26, 0x41), (0x1d44e, 7, 0x61), (0x1d456, 18, 0x69), (0x1d468, 26, 0x41),
   (0x1d482, 26, 0x61), (0x1d49e, 2, 0x43), (0x1d4a5, 2, 0x4a), (0x1d4a9, 4, 0x4e),
   (0x1d4ae, 8, 0x53), (0x1d4b6, 4, 0x61), (0x1d4bd, 7, 0x68), (0x1d4c5, 11, 0x70),
   (0x1d4d0, 26, 0x41), (0x1d4ea, 26, 0x61), (0x1d504, 2, 0x41), (0x1d507, 4, 0x44),
   (0x1d50d, 8, 0x4a), (0x1d516, 7, 0x53), (0x1d51e, 26, 0x61), (0x1d538, 2, 0x41),
   (0x1d53b, 4, 0x44), (0x1d540, 5, 0x49), (0x1d54a, 7, 0x53), (0x1d552, 26, 0x61),
   (0x1d56c, 26, 0x41), (0x1d586, 26, 0x61), (0x1d5a0, 26, 0x41), (0x1d5ba, 26, 0x61),
   (0x1d5d4, 26, 0x41), (0x1d5ee, 26, 0x61), (0x1d608, 26, 0x41), (0x1d622, 26, 0x61),
   (0x1d63c, 26, 0x41), (0x1d656, 26, 0x61), (0x1d670, 26, 0x41), (0x1d68a, 26, 0x61),
   (0x1d6a8, 17, 0x391), (0x1d6ba, 7, 0x3a3), (0x1d6c2, 25, 0x3b1), (0x1d6e2, 17, 0x391),
   (0x1d6f4, 7, 0x3a3), (0x1d6fc, 25, 0x3b1), (0x1d71c, 17, 0x391), (0x1d72e, 7, 0x3a3),
   (0x1d736, 25, 0x3b1), (0x1d756, 17, 0x391), (0x1d768, 7, 0x3a3), (0x1d770, 25, 0x3b1),
   (0x1d790, 17, 0x391), (0x1d7a2, 7, 0x3a3), (0x1d7aa, 25, 0x3b1), (0x1d7ca, 2, 0x3dc),
   (0x1d7ce, 10, 0x30), (0x1d7d8, 10, 0x30), (0x1d7e2, 10, 0x30), (0x1d7ec, 10, 0x30),
   (0x1d7f6, 10, 0x30), (0x1ee00, 2, 0x627), (0x1ee0a, 4, 0x643), (0x1ee15, 2, 0x62a),
   (0x1ee2a, 4, 0x643), (0x1ee35, 2, 0x62a), (0x1ee6c, 2, 0x645), (0x1ee75, 2, 0x62a),
   (0x1ee80, 2, 0x627), (0x1ee84, 2, 0x647), (0x1ee8b, 3, 0x644), (0x1ee95, 2, 0x62a),
   (0x1eeab, 3, 0x644), (0x1eeb5, 2, 0x62a), (0x1fbf0, 10, 0x30), (0x2f829, 2, 0x5305),
   (0x2f881, 2, 0x5de1), (0x2f8f5, 2, 0x6bba), (0x2f945, 2, 0x771e), (0x2f9e8, 2, 0x92d7)]

/-- Variants that follow each other: the first code point, and the characters for which they stand,
in the same order. -/
def variantRows : List (Nat × String) :=
  [(0xaa, "a"), (0xb5, "μ"), (0xba, "o"), (0x17f, "s"), (0x2b0, "hɦjrɹɻʁwy"), (0x2e0, "ɣlsxʕ"),
   (0x343, "\u0313"), (0x374, "ʹ"), (0x387, "·"), (0x3d0, "βθΥ"), (0x3d5, "φπ"), (0x3f0, "κ"),
   (0x3f4, "Θε"), (0x3f9, "Σ"), (0x10fc, "ნ"), (0x1d2c, "AÆB"), (0x1d32, "Ǝ"), (0x1d3c, "OȢPR"),
   (0x1d42, "Wa"), (0x1d46, "ᴂb"), (0x1d4a, "ə"), (0x1d4d, "g"), (0x1d4f, "kmŋoɔ"), (0x1d56, "p"),
   (0x1d59, "ᴝɯvᴥ"), (0x1d62, "ir"), (0x1d68, "ρ"), (0x1d78, "н"), (0x1d9b, "ɒcɕðɜfɟɡɥ"),
   (0x1da7, "ᵻʝɭᶅʟɱɰ"), (0x1db2, "ɸ"), (0x1db5, "ƫ"), (0x1db8, "ᴜ"), (0x1dbb, "z"), (0x1dbf, "θ"),
   (0x1fbe, "ι"), (0x2071, "i"), (0x207f, "n"), (0x2090, "aeoxəh"), (0x209a, "p"), (0x2102, "C"),
   (0x2107, "Ɛ"), (0x210a, "gHHHhħIILl"), (0x2115, "N"), (0x211c, "RR"), (0x2124, "Z"),
   (0x2126, "Ω"), (0x2128, "Z"), (0x212a, "K"), (0x212f, "e"), (0x2133, "Mo"), (0x2139, "i"),
   (0x213c, "πγΓΠ"), (0x2145, "D"), (0x2160, "I"), (0x2164, "V"), (0x2169, "X"), (0x216c, "L"),
   (0x216f, "Mi"), (0x2174, "v"), (0x2179, "x"), (0x217c, "l"), (0x217f, "m"), (0x2c7c, "jV"),
   (0x2d6f, "ⵡ"), (0x3038, "十"), (0x3133, "ᆪᄂ"), (0x3140, "ᄚ"), (0x3144, "ᄡ"), (0x3164, "ᅠ"),
   (0x3169, "ᇌᇎᇓᇗᇙᄜᇝᇟ"), (0x3173, "ᄠ"), (0x3176, "ᄧᄩ"), (0x317d, "ᄲᄶᅀᅇᅌ"), (0x3189, "ᆈ"),
   (0x318c, "ᆔᆞᆡ"), (0xa69c, "ъь"), (0xa770, "ꝯ"), (0xa7f2, "CFQ"), (0xa7f8, "Ħœ"),
   (0xab5c, "ꜧꬷɫꭒ"), (0xab69, "ʍ"), (0xf900, "豈更車賈滑串句龜龜契金喇奈懶癩羅蘿螺裸邏樂洛烙珞落酪駱亂卵欄爛蘭鸞嵐濫藍襤拉臘蠟"),
   (0xf928, "廊朗浪狼郎來冷勞擄櫓爐盧老蘆虜路露魯鷺碌祿綠菉錄鹿論壟弄籠聾牢磊賂雷壘屢樓淚漏累"),
   (0xf950, "縷陋勒肋凜凌稜綾菱陵讀拏樂諾丹寧怒率異北磻便復不泌數索參塞省葉說殺辰沈拾若掠略亮"),
   (0xf978, "兩凉梁糧良諒量勵呂女廬旅濾礪閭驪麗黎力曆歷轢年憐戀撚漣煉璉秊練聯輦蓮連鍊列劣咽烈"),
   (0xf9a0, "裂說廉念捻殮簾獵令囹寧嶺怜玲瑩羚聆鈴零靈領例禮醴隸惡了僚寮尿料樂燎療蓼遼龍暈阮劉"),
   (0xf9c8, "杻柳流溜琉留硫紐類六戮陸倫崙淪輪律慄栗率隆利吏履易李梨泥理痢罹裏裡里離匿溺吝燐璘"), (0xf9f0, "藺隣鱗麟林淋臨立笠粒狀炙識什茶刺切度拓糖宅洞暴輻行降見廓兀嗀"),
   (0xfa10, "塚"), (0xfa12, "晴"), (0xfa15, "凞猪益礼神祥福靖精羽"), (0xfa20, "蘒"), (0xfa22, "諸"),
   (0xfa25, "逸都"), (0xfa2a, "飯飼館鶴郞隷侮僧免勉勤卑喝嘆器塀墨層屮悔慨憎懲敏既暑梅海渚漢煮爫琢碑社祉祈祐祖祝"),
   (0xfa54, "穀突節練縉繁署者臭艹艹著褐視謁謹賓贈辶逸難響頻恵𤋮舘"), (0xfa70, "並况全侀充冀勇勺喝啕喙嗢塚墳奄奔婢嬨廒廙彩徭惘慎愈憎慠懲戴揄搜摒敖晴朗望杖歹殺流"),
   (0xfa98, "滛滋漢瀞煮瞧爵犯猪瑱甆画瘝瘟益盛直睊着磌窱節类絛練缾者荒華蝹襁覆視調諸請謁諾諭謹"), (0xfac0, "變贈輸遲醙鉶陼難靖韛響頋頻鬒龜𢡊𢡄𣏕㮝䀘䀹𥉉𥳐𧻓齃龎"),
   (0xfb20, "עא"), (0xfb27, "רת"), (0xfb50, "ٱٱٻٻٻٻپپپپڀڀڀڀٺٺٺٺٿٿٿٿٹٹٹٹڤڤڤڤڦڦڦڦڄڄڄڄڃڃ"),
   (0xfb78, "ڃڃچچچ"), (0xfb7f, "ڇڇڇڍڍڌڌڎڎڈڈژژڑڑککککگگگگڳڳڳڳڱڱڱڱں"), (0xfba1, "ڻڻڻ"),
   (0xfba6, "ہہہہھھھھےے"), (0xfbd3, "ڭڭڭڭۇۇۆۆۈۈ"), (0xfbde, "ۋۋۅۅۉۉېېېېىى"), (0xfbfc, "یییی"),
   (0xfe33, "__"), (0xfe4d, "___"), (0xfe80, "ء"), (0xfe8d, "ا"), (0xfe90, "بب"), (0xfe96, "تت"),
   (0xfe9a, "ثث"), (0xfe9e, "جج"), (0xfea2, "حح"), (0xfea6, "خخ"), (0xfeb2, "سس"), (0xfeb6, "شش"),
   (0xfeba, "صص"), (0xfebe, "ضض"), (0xfec2, "طط"), (0xfec6, "ظظ"), (0xfeca, "عع"),
   (0xfece, "غغغففف"), (0xfed6, "قق"), (0xfeda, "كك"), (0xfede, "لل"), (0xfee2, "مم"),
   (0xfee6, "نن"), (0xfeea, "هه"), (0xfef2, "ييي"), (0xff3f, "_"), (0xff66, "ヲァィゥェォャュョッーアイウエ"),
   (0xff77, "キクケコサシスセソタチツテト"), (0xff8b, "ヒフヘホ"), (0xff94, "ヤユ"), (0xff9c, "ワン"), (0xffa0, "ᅠ"),
   (0xffa3, "ᆪᄂ"), (0xffb0, "ᄚ"), (0xffb4, "ᄡ"), (0x10783, "æʙɓ"), (0x10787, "ʣꭦʥʤ"),
   (0x1078d, "ᶑɘɞʩɤɢɠʛħʜɧʄ"), (0x1079b, "ɬ𝼄ꞎɮ𝼅ʎ𝼆ø"), (0x107a5, "qɺ𝼈"), (0x107aa, "ʀʨʦꭧʧʈⱱ"),
   (0x107b2, "ʏ"), (0x107b5, "ʘ"), (0x107b9, "𝼊𝼞"), (0x1d49c, "A"), (0x1d4a2, "G"), (0x1d4bb, "f"),
   (0x1d546, "O"), (0x1d6a4, "ıȷ"), (0x1d6b9, "Θ"), (0x1d6dc, "εθκφρπ"), (0x1d6f3, "Θ"),
   (0x1d716, "εθκφρπ"), (0x1d72d, "Θ"), (0x1d750, "εθκφρπ"), (0x1d767, "Θ"), (0x1d78a, "εθκφρπ"),
   (0x1d7a1, "Θ"), (0x1d7c4, "εθκφρπ"), (0x1ee02, "جد"), (0x1ee05, "وزحطي"), (0x1ee0e, "سعفصقرش"),
   (0x1ee17, "خذضظغٮںڡٯ"), (0x1ee21, "بج"), (0x1ee24, "ه"), (0x1ee27, "ح"), (0x1ee29, "ي"),
   (0x1ee2e, "سعفصق"), (0x1ee34, "ش"), (0x1ee37, "خ"), (0x1ee39, "ض"), (0x1ee3b, "غ"),
   (0x1ee42, "ج"), (0x1ee47, "ح"), (0x1ee49, "ي"), (0x1ee4b, "ل"), (0x1ee4d, "نسع"),
   (0x1ee51, "صق"), (0x1ee54, "ش"), (0x1ee57, "خ"), (0x1ee59, "ض"), (0x1ee5b, "غ"), (0x1ee5d, "ں"),
   (0x1ee5f, "ٯ"), (0x1ee61, "بج"), (0x1ee64, "ه"), (0x1ee67, "حطيك"), (0x1ee6e, "سعفصق"),
   (0x1ee74, "ش"), (0x1ee77, "خ"), (0x1ee79, "ضظغٮ"), (0x1ee7e, "ڡ"), (0x1ee82, "جد"),
   (0x1ee86, "زحطي"), (0x1ee8e, "سعفصقرش"), (0x1ee97, "خذضظغ"), (0x1eea1, "بجد"),
   (0x1eea5, "وزحطي"), (0x1eeae, "سعفصقرش"), (0x1eeb7, "خذضظغ"),
   (0x2f800, "丽丸乁𠄢你侮侻倂偺備僧像㒞𠘺免兔兤具𠔜㒹內再𠕋冗冤仌冬况𩇟凵刃㓟刻剆割剷㔕勇勉勤"), (0x2f828, "勺"),
   (0x2f82b, "北卉卑博即卽卿卿卿𠨬灰及叟𠭣叫叱吆咞吸呈周咢哶唐啓啣善善喙喫喳嗂圖嘆圗噑噴切壮城"),
   (0x2f853, "埴堍型堲報墬𡓤売壷夆多夢奢𡚨𡛪姬娛娧姘婦㛮㛼嬈嬾嬾𡧈寃寘寧寳𡬘寿将当尢㞁屠屮峀岍"), (0x2f87b, "𡷤嵃𡷦嵮嵫嵼"),
   (0x2f883, "㠯巽帨帽幩㡢𢆃㡼庰庳庶廊𪎒廾𢌱𢌱舁弢弢㣇𣊸𦇚形彫㣣徚忍志忹悁㤺㤜悔𢛔惇慈慌慎慌慺"),
   (0x2f8ab, "憎憲憤憯懞懲懶成戛扝抱拔捐𢬌挽拼捨掃揤𢯱搢揅掩㨮摩摾撝摷㩬敏敬𣀊旣書晉㬙暑㬈㫤冒"),
   (0x2f8d3, "冕最暜肭䏙朗望朡杞杓𣏃㭉柺枅桒梅𣑭梎栟椔㮝楂榣槪檨𣚣櫛㰘次𣢧歔㱎歲殟"),
   (0x2f8f7, "𣪍𡴋𣫺汎𣲼沿泍汧洖派海流浩浸涅𣴞洴港湮㴳滋滇𣻑淹潮𣽞𣾎濆瀹瀞瀛㶖灊災灷炭𠔥煅𤉣熜"),
   (0x2f91f, "𤎫爨爵牐𤘈犀犕𤜵𤠔獺王㺬玥㺸㺸瑇瑜瑱璅瓊㼛甤𤰶甾𤲒異𢆟瘐𤾡𤾸𥁄㿼䀈直𥃳𥃲𥄙𥄳"),
   (0x2f947, "真睊䀹瞋䁆䂖𥐝硎碌磌䃣𥘦祖𥚚𥛅福秫䄯穀穊穏𥥼𥪧𥪧竮䈂𥮫篆築䈧𥲀糒䊠糨糣紀𥾆絣䌁緇"),
   (0x2f96f, "縂繅䌴𦈨𦉇䍙𦋙罺𦌾羕翺者𦓚𦔣聠𦖨聰𣍟䏕育脃䐋脾媵𦞧𦞵𣎓𣎜舁舄辞䑫芑芋芝劳花芳芽苦"),
   (0x2f997, "𦬼若茝荣莭茣莽菧著荓菊菌菜𦰶𦵫𦳕䔫蓱蓳蔖𧏊蕤𦼬䕝䕡𦾱𧃒䕫虐虜虧虩蚩蚈蜎蛢蝹蜨蝫螆"),
   (0x2f9bf, "䗗蟡蠁䗹衠衣𧙧裗裞䘵裺㒻𧢮𧥦䚾䛇誠諭變豕𧲨貫賁贛起𧼯𠠄跋趼跰𠣞軔輸𨗒𨗭邔郱鄑𨜮鄛"), (0x2f9e7, "鈸"),
   (0x2f9ea, "鉼鏹鐕𨯺開䦕閷𨵷䧦雃嶲霣𩅅𩈚䩮䩶韠𩐊䪲𩒖頋頋頩𩖶飢䬳餩馧駂駾䯎𩬰鬒鱀鳽䳎䳭鵧𪃎䳸"), (0x2fa12, "𪄅𪈎𪊑麻䵖黹黾鼅鼏鼖鼻𪘀")]

/-- Variants that stand for more than one character and follow each other: the first code point, and
the code points for which they stand, in the same order. -/
def joinedRows : List (Nat × List (List Nat)) :=
  [(0x132, [[0x49, 0x4a], [0x69, 0x6a]]), (0x13f, [[0x4c, 0xb7], [0x6c, 0xb7]]),
   (0x149, [[0x2bc, 0x6e]]),
   (0x1c4, [[0x44, 0x5a, 0x30c], [0x44, 0x7a, 0x30c], [0x64, 0x7a, 0x30c], [0x4c, 0x4a]]),
   (0x1c8, [[0x4c, 0x6a], [0x6c, 0x6a], [0x4e, 0x4a], [0x4e, 0x6a]]), (0x1cc, [[0x6e, 0x6a]]),
   (0x1f1, [[0x44, 0x5a], [0x44, 0x7a], [0x64, 0x7a]]), (0x344, [[0x308, 0x301]]),
   (0x587, [[0x565, 0x582]]),
   (0x675, [[0x627, 0x674], [0x648, 0x674], [0x6c7, 0x674], [0x64a, 0x674]]),
   (0x958, [[0x915, 0x93c], [0x916, 0x93c], [0x917, 0x93c], [0x91c, 0x93c]]),
   (0x95c, [[0x921, 0x93c], [0x922, 0x93c], [0x92b, 0x93c], [0x92f, 0x93c]]),
   (0x9dc, [[0x9a1, 0x9bc], [0x9a2, 0x9bc]]), (0x9df, [[0x9af, 0x9bc]]), (0xa33, [[0xa32, 0xa3c]]),
   (0xa36, [[0xa38, 0xa3c]]), (0xa59, [[0xa16, 0xa3c], [0xa17, 0xa3c], [0xa1c, 0xa3c]]),
   (0xa5e, [[0xa2b, 0xa3c]]), (0xb5c, [[0xb21, 0xb3c], [0xb22, 0xb3c]]), (0xe33, [[0xe4d, 0xe32]]),
   (0xeb3, [[0xecd, 0xeb2]]), (0xedc, [[0xeab, 0xe99], [0xeab, 0xea1]]), (0xf43, [[0xf42, 0xfb7]]),
   (0xf4d, [[0xf4c, 0xfb7]]), (0xf52, [[0xf51, 0xfb7]]), (0xf57, [[0xf56, 0xfb7]]),
   (0xf5c, [[0xf5b, 0xfb7]]), (0xf69, [[0xf40, 0xfb5]]), (0xf73, [[0xf71, 0xf72]]),
   (0xf75, [[0xf71, 0xf74], [0xfb2, 0xf80], [0xfb2, 0xf71, 0xf80], [0xfb3, 0xf80]]),
   (0xf79, [[0xfb3, 0xf71, 0xf80]]), (0xf81, [[0xf71, 0xf80]]), (0xf93, [[0xf92, 0xfb7]]),
   (0xf9d, [[0xf9c, 0xfb7]]), (0xfa2, [[0xfa1, 0xfb7]]), (0xfa7, [[0xfa6, 0xfb7]]),
   (0xfac, [[0xfab, 0xfb7]]), (0xfb9, [[0xf90, 0xfb5]]), (0x1e9a, [[0x61, 0x2be]]),
   (0x1f71, [[0x3b1, 0x301]]), (0x1f73, [[0x3b5, 0x301]]), (0x1f75, [[0x3b7, 0x301]]),
   (0x1f77, [[0x3b9, 0x301]]), (0x1f79, [[0x3bf, 0x301]]), (0x1f7b, [[0x3c5, 0x301]]),
   (0x1f7d, [[0x3c9, 0x301]]), (0x1fbb, [[0x391, 0x301]]), (0x1fc9, [[0x395, 0x301]]),
   (0x1fcb, [[0x397, 0x301]]), (0x1fd3, [[0x3b9, 0x308, 0x301]]), (0x1fdb, [[0x399, 0x301]]),
   (0x1fe3, [[0x3c5, 0x308, 0x301]]), (0x1feb, [[0x3a5, 0x301]]), (0x1ff9, [[0x39f, 0x301]]),
   (0x1ffb, [[0x3a9, 0x301]]), (0x212b, [[0x41, 0x30a]]),
   (0x2161, [[0x49, 0x49], [0x49, 0x49, 0x49], [0x49, 0x56]]),
   (0x2165, [[0x56, 0x49], [0x56, 0x49, 0x49], [0x56, 0x49, 0x49, 0x49], [0x49, 0x58]]),
   (0x216a, [[0x58, 0x49], [0x58, 0x49, 0x49]]),
   (0x2171, [[0x69, 0x69], [0x69, 0x69, 0x69], [0x69, 0x76]]),
   (0x2175, [[0x76, 0x69], [0x76, 0x69, 0x69], [0x76, 0x69, 0x69, 0x69], [0x69, 0x78]]),
   (0x217a, [[0x78, 0x69], [0x78, 0x69, 0x69]]), (0x309f, [[0x3088, 0x308a]]),
   (0x30ff, [[0x30b3, 0x30c8]]),
   (0xfb00, [[0x66, 0x66], [0x66, 0x69], [0x66, 0x6c], [0x66, 0x66, 0x69]]),
   (0xfb04, [[0x66, 0x66, 0x6c], [0x73, 0x74], [0x73, 0x74]]),
   (0xfb13, [[0x574, 0x576], [0x574, 0x565], [0x574, 0x56b], [0x57e, 0x576]]),
   (0xfb17, [[0x574, 0x56d]]), (0xfb1d, [[0x5d9, 0x5b4]]), (0xfb1f, [[0x5f2, 0x5b7]]),
   (0xfb2a, [[0x5e9, 0x5c1], [0x5e9, 0x5c2], [0x5e9, 0x5bc, 0x5c1], [0x5e9, 0x5bc, 0x5c2]]),
   (0xfb2e, [[0x5d0, 0x5b7], [0x5d0, 0x5b8], [0x5d0, 0x5bc], [0x5d1, 0x5bc]]),
   (0xfb32, [[0x5d2, 0x5bc], [0x5d3, 0x5bc], [0x5d4, 0x5bc], [0x5d5, 0x5bc]]),
   (0xfb36, [[0x5d6, 0x5bc]]),
   (0xfb38, [[0x5d8, 0x5bc], [0x5d9, 0x5bc], [0x5da, 0x5bc], [0x5db, 0x5bc]]),
   (0xfb3c, [[0x5dc, 0x5bc]]), (0xfb3e, [[0x5de, 0x5bc]]),
   (0xfb40, [[0x5e0, 0x5bc], [0x5e1, 0x5bc]]), (0xfb43, [[0x5e3, 0x5bc], [0x5e4, 0x5bc]]),
   (0xfb46, [[0x5e6, 0x5bc], [0x5e7, 0x5bc], [0x5e8, 0x5bc], [0x5e9, 0x5bc]]),
   (0xfb4a, [[0x5ea, 0x5bc], [0x5d5, 0x5b9], [0x5d1, 0x5bf], [0x5db, 0x5bf]]),
   (0xfb4e, [[0x5e4, 0x5bf], [0x5d0, 0x5dc]]), (0xfba4, [[0x6d5, 0x654], [0x6d5, 0x654]]),
   (0xfbb0, [[0x6d2, 0x654], [0x6d2, 0x654]]), (0xfbdd, [[0x6c7, 0x674]]),
   (0xfbea, [[0x64a, 0x654, 0x627], [0x64a, 0x654, 0x627], [0x64a, 0x654, 0x6d5], [0x64a, 0x654,
     0x6d5]]),
   (0xfbee, [[0x64a, 0x654, 0x648], [0x64a, 0x654, 0x648], [0x64a, 0x654, 0x6c7], [0x64a, 0x654,
     0x6c7]]),
   (0xfbf2, [[0x64a, 0x654, 0x6c6], [0x64a, 0x654, 0x6c6], [0x64a, 0x654, 0x6c8], [0x64a, 0x654,
     0x6c8]]),
   (0xfbf6, [[0x64a, 0x654, 0x6d0], [0x64a, 0x654, 0x6d0], [0x64a, 0x654, 0x6d0], [0x64a, 0x654,
     0x649]]),
   (0xfbfa, [[0x64a, 0x654, 0x649], [0x64a, 0x654, 0x649]]),
   (0xfc00, [[0x64a, 0x654, 0x62c], [0x64a, 0x654, 0x62d], [0x64a, 0x654, 0x645], [0x64a, 0x654,
     0x649]]),
   (0xfc04, [[0x64a, 0x654, 0x64a], [0x628, 0x62c], [0x628, 0x62d], [0x628, 0x62e]]),
   (0xfc08, [[0x628, 0x645], [0x628, 0x649], [0x628, 0x64a], [0x62a, 0x62c]]),
   (0xfc0c, [[0x62a, 0x62d], [0x62a, 0x62e], [0x62a, 0x645], [0x62a, 0x649]]),
   (0xfc10, [[0x62a, 0x64a], [0x62b, 0x62c], [0x62b, 0x645], [0x62b, 0x649]]),
   (0xfc14, [[0x62b, 0x64a], [0x62c, 0x62d], [0x62c, 0x645], [0x62d, 0x62c]]),
   (0xfc18, [[0x62d, 0x645], [0x62e, 0x62c], [0x62e, 0x62d], [0x62e, 0x645]]),
   (0xfc1c, [[0x633, 0x62c], [0x633, 0x62d], [0x633, 0x62e], [0x633, 0x645]]),
   (0xfc20, [[0x635, 0x62d], [0x635, 0x645], [0x636, 0x62c], [0x636, 0x62d]]),
   (0xfc24, [[0x636, 0x62e], [0x636, 0x645], [0x637, 0x62d], [0x637, 0x645]]),
   (0xfc28, [[0x638, 0x645], [0x639, 0x62c], [0x639, 0x645], [0x63a, 0x62c]]),
   (0xfc2c, [[0x63a, 0x645], [0x641, 0x62c], [0x641, 0x62d], [0x641, 0x62e]]),
   (0xfc30, [[0x641, 0x645], [0x641, 0x649], [0x641, 0x64a], [0x642, 0x62d]]),
   (0xfc34, [[0x642, 0x645], [0x642, 0x649], [0x642, 0x64a], [0x643, 0x627]]),
   (0xfc38, [[0x643, 0x62c], [0x643, 0x62d], [0x643, 0x62e], [0x643, 0x644]]),
   (0xfc3c, [[0x643, 0x645], [0x643, 0x649], [0x643, 0x64a], [0x644, 0x62c]]),
   (0xfc40, [[0x644, 0x62d], [0x644, 0x62e], [0x644, 0x645], [0x644, 0x649]]),
   (0xfc44, [[0x644, 0x64a], [0x645, 0x62c], [0x645, 0x62d], [0x645, 0x62e]]),
   (0xfc48, [[0x645, 0x645], [0x645, 0x649], [0x645, 0x64a], [0x646, 0x62c]]),
   (0xfc4c, [[0x646, 0x62d], [0x646, 0x62e], [0x646, 0x645], [0x646, 0x649]]),
   (0xfc50, [[0x646, 0x64a], [0x647, 0x62c], [0x647, 0x645], [0x647, 0x649]]),
   (0xfc54, [[0x647, 0x64a], [0x64a, 0x62c], [0x64a, 0x62d], [0x64a, 0x62e]]),
   (0xfc58, [[0x64a, 0x645], [0x64a, 0x649], [0x64a, 0x64a], [0x630, 0x670]]),
   (0xfc5c, [[0x631, 0x670], [0x649, 0x670]]),
   (0xfc64, [[0x64a, 0x654, 0x631], [0x64a, 0x654, 0x632], [0x64a, 0x654, 0x645], [0x64a, 0x654,
     0x646]]),
   (0xfc68, [[0x64a, 0x654, 0x649], [0x64a, 0x654, 0x64a], [0x628, 0x631], [0x628, 0x632]]),
   (0xfc6c, [[0x628, 0x645], [0x628, 0x646], [0x628, 0x649], [0x628, 0x64a]]),
   (0xfc70, [[0x62a, 0x631], [0x62a, 0x632], [0x62a, 0x645], [0x62a, 0x646]]),
   (0xfc74, [[0x62a, 0x649], [0x62a, 0x64a], [0x62b, 0x631], [0x62b, 0x632]]),
   (0xfc78, [[0x62b, 0x645], [0x62b, 0x646], [0x62b, 0x649], [0x62b, 0x64a]]),
   (0xfc7c, [[0x641, 0x649], [0x641, 0x64a], [0x642, 0x649], [0x642, 0x64a]]),
   (0xfc80, [[0x643, 0x627], [0x643, 0x644], [0x643, 0x645], [0x643, 0x649]]),
   (0xfc84, [[0x643, 0x64a], [0x644, 0x645], [0x644, 0x649], [0x644, 0x64a]]),
   (0xfc88, [[0x645, 0x627], [0x645, 0x645], [0x646, 0x631], [0x646, 0x632]]),
   (0xfc8c, [[0x646, 0x645], [0x646, 0x646], [0x646, 0x649], [0x646, 0x64a]]),
   (0xfc90, [[0x649, 0x670], [0x64a, 0x631], [0x64a, 0x632], [0x64a, 0x645]]),
   (0xfc94, [[0x64a, 0x646], [0x64a, 0x649], [0x64a, 0x64a], [0x64a, 0x654, 0x62c]]),
   (0xfc98, [[0x64a, 0x654, 0x62d], [0x64a, 0x654, 0x62e], [0x64a, 0x654, 0x645], [0x64a, 0x654,
     0x647]]),
   (0xfc9c, [[0x628, 0x62c], [0x628, 0x62d], [0x628, 0x62e], [0x628, 0x645]]),
   (0xfca0, [[0x628, 0x647], [0x62a, 0x62c], [0x62a, 0x62d], [0x62a, 0x62e]]),
   (0xfca4, [[0x62a, 0x645], [0x62a, 0x647], [0x62b, 0x645], [0x62c, 0x62d]]),
   (0xfca8, [[0x62c, 0x645], [0x62d, 0x62c], [0x62d, 0x645], [0x62e, 0x62c]]),
   (0xfcac, [[0x62e, 0x645], [0x633, 0x62c], [0x633, 0x62d], [0x633, 0x62e]]),
   (0xfcb0, [[0x633, 0x645], [0x635, 0x62d], [0x635, 0x62e], [0x635, 0x645]]),
   (0xfcb4, [[0x636, 0x62c], [0x636, 0x62d], [0x636, 0x62e], [0x636, 0x645]]),
   (0xfcb8, [[0x637, 0x62d], [0x638, 0x645], [0x639, 0x62c], [0x639, 0x645]]),
   (0xfcbc, [[0x63a, 0x62c], [0x63a, 0x645], [0x641, 0x62c], [0x641, 0x62d]]),
   (0xfcc0, [[0x641, 0x62e], [0x641, 0x645], [0x642, 0x62d], [0x642, 0x645]]),
   (0xfcc4, [[0x643, 0x62c], [0x643, 0x62d], [0x643, 0x62e], [0x643, 0x644]]),
   (0xfcc8, [[0x643, 0x645], [0x644, 0x62c], [0x644, 0x62d], [0x644, 0x62e]]),
   (0xfccc, [[0x644, 0x645], [0x644, 0x647], [0x645, 0x62c], [0x645, 0x62d]]),
   (0xfcd0, [[0x645, 0x62e], [0x645, 0x645], [0x646, 0x62c], [0x646, 0x62d]]),
   (0xfcd4, [[0x646, 0x62e], [0x646, 0x645], [0x646, 0x647], [0x647, 0x62c]]),
   (0xfcd8, [[0x647, 0x645], [0x647, 0x670], [0x64a, 0x62c], [0x64a, 0x62d]]),
   (0xfcdc, [[0x64a, 0x62e], [0x64a, 0x645], [0x64a, 0x647], [0x64a, 0x654, 0x645]]),
   (0xfce0, [[0x64a, 0x654, 0x647], [0x628, 0x645], [0x628, 0x647], [0x62a, 0x645]]),
   (0xfce4, [[0x62a, 0x647], [0x62b, 0x645], [0x62b, 0x647], [0x633, 0x645]]),
   (0xfce8, [[0x633, 0x647], [0x634, 0x645], [0x634, 0x647], [0x643, 0x644]]),
   (0xfcec, [[0x643, 0x645], [0x644, 0x645], [0x646, 0x645], [0x646, 0x647]]),
   (0xfcf0, [[0x64a, 0x645], [0x64a, 0x647], [0x640, 0x64e, 0x651], [0x640, 0x64f, 0x651]]),
   (0xfcf4, [[0x640, 0x650, 0x651], [0x637, 0x649], [0x637, 0x64a], [0x639, 0x649]]),
   (0xfcf8, [[0x639, 0x64a], [0x63a, 0x649], [0x63a, 0x64a], [0x633, 0x649]]),
   (0xfcfc, [[0x633, 0x64a], [0x634, 0x649], [0x634, 0x64a], [0x62d, 0x649]]),
   (0xfd00, [[0x62d, 0x64a], [0x62c, 0x649], [0x62c, 0x64a], [0x62e, 0x649]]),
   (0xfd04, [[0x62e, 0x64a], [0x635, 0x649], [0x635, 0x64a], [0x636, 0x649]]),
   (0xfd08, [[0x636, 0x64a], [0x634, 0x62c], [0x634, 0x62d], [0x634, 0x62e]]),
   (0xfd0c, [[0x634, 0x645], [0x634, 0x631], [0x633, 0x631], [0x635, 0x631]]),
   (0xfd10, [[0x636, 0x631], [0x637, 0x649], [0x637, 0x64a], [0x639, 0x649]]),
   (0xfd14, [[0x639, 0x64a], [0x63a, 0x649], [0x63a, 0x64a], [0x633, 0x649]]),
   (0xfd18, [[0x633, 0x64a], [0x634, 0x649], [0x634, 0x64a], [0x62d, 0x649]]),
   (0xfd1c, [[0x62d, 0x64a], [0x62c, 0x649], [0x62c, 0x64a], [0x62e, 0x649]]),
   (0xfd20, [[0x62e, 0x64a], [0x635, 0x649], [0x635, 0x64a], [0x636, 0x649]]),
   (0xfd24, [[0x636, 0x64a], [0x634, 0x62c], [0x634, 0x62d], [0x634, 0x62e]]),
   (0xfd28, [[0x634, 0x645], [0x634, 0x631], [0x633, 0x631], [0x635, 0x631]]),
   (0xfd2c, [[0x636, 0x631], [0x634, 0x62c], [0x634, 0x62d], [0x634, 0x62e]]),
   (0xfd30, [[0x634, 0x645], [0x633, 0x647], [0x634, 0x647], [0x637, 0x645]]),
   (0xfd34, [[0x633, 0x62c], [0x633, 0x62d], [0x633, 0x62e], [0x634, 0x62c]]),
   (0xfd38, [[0x634, 0x62d], [0x634, 0x62e], [0x637, 0x645], [0x638, 0x645]]),
   (0xfd3c, [[0x627, 0x64b], [0x627, 0x64b]]),
   (0xfd50, [[0x62a, 0x62c, 0x645], [0x62a, 0x62d, 0x62c], [0x62a, 0x62d, 0x62c], [0x62a, 0x62d,
     0x645]]),
   (0xfd54, [[0x62a, 0x62e, 0x645], [0x62a, 0x645, 0x62c], [0x62a, 0x645, 0x62d], [0x62a, 0x645,
     0x62e]]),
   (0xfd58, [[0x62c, 0x645, 0x62d], [0x62c, 0x645, 0x62d], [0x62d, 0x645, 0x64a], [0x62d, 0x645,
     0x649]]),
   (0xfd5c, [[0x633, 0x62d, 0x62c], [0x633, 0x62c, 0x62d], [0x633, 0x62c, 0x649], [0x633, 0x645,
     0x62d]]),
   (0xfd60, [[0x633, 0x645, 0x62d], [0x633, 0x645, 0x62c], [0x633, 0x645, 0x645], [0x633, 0x645,
     0x645]]),
   (0xfd64, [[0x635, 0x62d, 0x62d], [0x635, 0x62d, 0x62d], [0x635, 0x645, 0x645], [0x634, 0x62d,
     0x645]]),
   (0xfd68, [[0x634, 0x62d, 0x645], [0x634, 0x62c, 0x64a], [0x634, 0x645, 0x62e], [0x634, 0x645,
     0x62e]]),
   (0xfd6c, [[0x634, 0x645, 0x645], [0x634, 0x645, 0x645], [0x636, 0x62d, 0x649], [0x636, 0x62e,
     0x645]]),
   (0xfd70, [[0x636, 0x62e, 0x645], [0x637, 0x645, 0x62d], [0x637, 0x645, 0x62d], [0x637, 0x645,
     0x645]]),
   (0xfd74, [[0x637, 0x645, 0x64a], [0x639, 0x62c, 0x645], [0x639, 0x645, 0x645], [0x639, 0x645,
     0x645]]),
   (0xfd78, [[0x639, 0x645, 0x649], [0x63a, 0x645, 0x645], [0x63a, 0x645, 0x64a], [0x63a, 0x645,
     0x649]]),
   (0xfd7c, [[0x641, 0x62e, 0x645], [0x641, 0x62e, 0x645], [0x642, 0x645, 0x62d], [0x642, 0x645,
     0x645]]),
   (0xfd80, [[0x644, 0x62d, 0x645], [0x644, 0x62d, 0x64a], [0x644, 0x62d, 0x649], [0x644, 0x62c,
     0x62c]]),
   (0xfd84, [[0x644, 0x62c, 0x62c], [0x644, 0x62e, 0x645], [0x644, 0x62e, 0x645], [0x644, 0x645,
     0x62d]]),
   (0xfd88, [[0x644, 0x645, 0x62d], [0x645, 0x62d, 0x62c], [0x645, 0x62d, 0x645], [0x645, 0x62d,
     0x64a]]),
   (0xfd8c, [[0x645, 0x62c, 0x62d], [0x645, 0x62c, 0x645], [0x645, 0x62e, 0x62c], [0x645, 0x62e,
     0x645]]),
   (0xfd92, [[0x645, 0x62c, 0x62e], [0x647, 0x645, 0x62c], [0x647, 0x645, 0x645], [0x646, 0x62d,
     0x645]]),
   (0xfd96, [[0x646, 0x62d, 0x649], [0x646, 0x62c, 0x645], [0x646, 0x62c, 0x645], [0x646, 0x62c,
     0x649]]),
   (0xfd9a, [[0x646, 0x645, 0x64a], [0x646, 0x645, 0x649], [0x64a, 0x645, 0x645], [0x64a, 0x645,
     0x645]]),
   (0xfd9e, [[0x628, 0x62e, 0x64a], [0x62a, 0x62c, 0x64a], [0x62a, 0x62c, 0x649], [0x62a, 0x62e,
     0x64a]]),
   (0xfda2, [[0x62a, 0x62e, 0x649], [0x62a, 0x645, 0x64a], [0x62a, 0x645, 0x649], [0x62c, 0x645,
     0x64a]]),
   (0xfda6, [[0x62c, 0x62d, 0x649], [0x62c, 0x645, 0x649], [0x633, 0x62e, 0x649], [0x635, 0x62d,
     0x64a]]),
   (0xfdaa, [[0x634, 0x62d, 0x64a], [0x636, 0x62d, 0x64a], [0x644, 0x62c, 0x64a], [0x644, 0x645,
     0x64a]]),
   (0xfdae, [[0x64a, 0x62d, 0x64a], [0x64a, 0x62c, 0x64a], [0x64a, 0x645, 0x64a], [0x645, 0x645,
     0x64a]]),
   (0xfdb2, [[0x642, 0x645, 0x64a], [0x646, 0x62d, 0x64a], [0x642, 0x645, 0x62d], [0x644, 0x62d,
     0x645]]),
   (0xfdb6, [[0x639, 0x645, 0x64a], [0x643, 0x645, 0x64a], [0x646, 0x62c, 0x62d], [0x645, 0x62e,
     0x64a]]),
   (0xfdba, [[0x644, 0x62c, 0x645], [0x643, 0x645, 0x645], [0x644, 0x62c, 0x645], [0x646, 0x62c,
     0x62d]]),
   (0xfdbe, [[0x62c, 0x62d, 0x64a], [0x62d, 0x62c, 0x64a], [0x645, 0x62c, 0x64a], [0x641, 0x645,
     0x64a]]),
   (0xfdc2, [[0x628, 0x62d, 0x64a], [0x643, 0x645, 0x645], [0x639, 0x62c, 0x645], [0x635, 0x645,
     0x645]]),
   (0xfdc6, [[0x633, 0x62e, 0x64a], [0x646, 0x62c, 0x64a]]),
   (0xfdf0, [[0x635, 0x644, 0x6d2], [0x642, 0x644, 0x6d2], [0x627, 0x644, 0x644, 0x647], [0x627,
     0x643, 0x628, 0x631]]),
   (0xfdf4, [[0x645, 0x62d, 0x645, 0x62f], [0x635, 0x644, 0x639, 0x645], [0x631, 0x633, 0x648,
     0x644], [0x639, 0x644, 0x64a, 0x647]]),
   (0xfdf8, [[0x648, 0x633, 0x644, 0x645], [0x635, 0x644, 0x649]]), (0xfe71, [[0x640, 0x64b]]),
   (0xfe77, [[0x640, 0x64e]]), (0xfe79, [[0x640, 0x64f]]), (0xfe7b, [[0x640, 0x650]]),
   (0xfe7d, [[0x640, 0x651]]), (0xfe7f, [[0x640, 0x652]]),
   (0xfe81, [[0x627, 0x653], [0x627, 0x653], [0x627, 0x654], [0x627, 0x654]]),
   (0xfe85, [[0x648, 0x654], [0x648, 0x654], [0x627, 0x655], [0x627, 0x655]]),
   (0xfe89, [[0x64a, 0x654], [0x64a, 0x654], [0x64a, 0x654], [0x64a, 0x654]]),
   (0xfef5, [[0x644, 0x627, 0x653], [0x644, 0x627, 0x653], [0x644, 0x627, 0x654], [0x644, 0x627,
     0x654]]),
   (0xfef9, [[0x644, 0x627, 0x655], [0x644, 0x627, 0x655], [0x644, 0x627], [0x644, 0x627]])]

/-- What a character stands for: itself, unless it is a variant. -/
def plainForm (c : Char) : List Char :=
  let n := c.toNat
  if n < 0x80 then [c]
  else match variantRuns.find? fun (first, size, _) => first ≤ n && n < first + size with
    | some (first, _, target) => [Char.ofNat (target + (n - first))]
    | none =>
      match variantRows.find? fun (first, row) => first ≤ n && n < first + row.length with
      | some (first, row) => [row.toList.getD (n - first) c]
      | none =>
        match joinedRows.find? fun (first, rows) => first ≤ n && n < first + rows.length with
        | some (first, rows) => (rows.getD (n - first) []).map Char.ofNat
        | none => [c]

end DocGuard.Text
