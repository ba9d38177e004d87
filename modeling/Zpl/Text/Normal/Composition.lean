import Zpl.Text.Basic

/-!
# Composed characters

Many letters with marks are characters of their own. A row tells for a mark which letters it makes
others of: a letter and what it becomes, one after the other. Such a composed character is taken
apart where texts are decomposed, unless it came later than the decompositions did.

Other characters are forms of some, or are made up of several. What is told here of such a
character is all that it finally consists of.

## Main definitions

* `CompositionRow` — the characters that are composed with a mark.
* `Composition.rows`, `Composition.lateRows` — the composed characters.
* `FormRow` — what characters that follow each other consist of.
* `Decomposition.singles` — characters that are forms of single ones.
* `Decomposition.several` — characters that several others make up.
-/

namespace Zpl

/-- Letters with what they become by a mark, one after the other. -/
structure CompositionRow where
  /-- The number of the mark. -/
  mark : Nat
  characters : String

namespace Composition

/-- The composed characters that are decomposed. -/
def rows : List CompositionRow :=
  [⟨0x300, "AÀEÈIÌNǸOÒUÙWẀYỲaàeèiìnǹoòuùwẁyỳ¨῭ÂẦÊỀÔỒÜǛâầêềôồüǜĂẰăằĒḔēḕŌṐōṑƠỜơờƯỪưừΑᾺΕῈΗῊΙῚ"⟩,
    ⟨0x300, "ΟῸΥῪΩῺαὰεὲηὴιὶοὸυὺωὼϊῒϋῢЕЀИЍеѐиѝἀἂἁἃἈἊἉἋἐἒἑἓἘἚἙἛἠἢἡἣἨἪἩἫἰἲἱἳἸἺἹἻὀὂὁὃὈὊὉὋὐὒὑὓὙὛ"⟩,
    ⟨0x300, "ὠὢὡὣὨὪὩὫ᾿῍῾῝"⟩,
    ⟨0x301, "AÁCĆEÉGǴIÍKḰLĹMḾNŃOÓPṔRŔSŚUÚWẂYÝZŹaácćeégǵiíkḱlĺmḿnńoópṕrŕsśuúwẃyýzź¨΅ÂẤÅǺÆǼÇḈ"⟩,
    ⟨0x301, "ÊẾÏḮÔỐÕṌØǾÜǗâấåǻæǽçḉêếïḯôốõṍøǿüǘĂẮăắĒḖēḗŌṒōṓŨṸũṹƠỚơớƯỨưứΑΆΕΈΗΉΙΊΟΌΥΎΩΏαάεέηήιί"⟩,
    ⟨0x301, "οόυύωώϊΐϋΰϒϓГЃКЌгѓкќἀἄἁἅἈἌἉἍἐἔἑἕἘἜἙἝἠἤἡἥἨἬἩἭἰἴἱἵἸἼἹἽὀὄὁὅὈὌὉὍὐὔὑὕὙὝὠὤὡὥὨὬὩὭ᾿῎῾῞"⟩,
    ⟨0x302, "AÂCĈEÊGĜHĤIÎJĴOÔSŜUÛWŴYŶZẐaâcĉeêgĝhĥiîjĵoôsŝuûwŵyŷzẑẠẬạậẸỆẹệỌỘọộ"⟩,
    ⟨0x303, "AÃEẼIĨNÑOÕUŨVṼYỸaãeẽiĩnñoõuũvṽyỹÂẪÊỄÔỖâẫêễôỗĂẴăẵƠỠơỡƯỮưữ"⟩,
    ⟨0x304, "AĀEĒGḠIĪOŌUŪYȲaāeēgḡiīoōuūyȳÄǞÆǢÕȬÖȪÜǕäǟæǣõȭöȫüǖǪǬǫǭȦǠȧǡȮȰȯȱΑᾹΙῙΥῩαᾱιῑυῡИӢУӮиӣ"⟩,
    ⟨0x304, "уӯḶḸḷḹṚṜṛṝ"⟩,
    ⟨0x306, "AĂEĔGĞIĬOŎUŬaăeĕgğiĭoŏuŭȨḜȩḝΑᾸΙῘΥῨαᾰιῐυῠАӐЕӖЖӁИЙУЎаӑеӗжӂийуўẠẶạặ"⟩,
    ⟨0x307, "AȦBḂCĊDḊEĖFḞGĠHḢIİMṀNṄOȮPṖRṘSṠTṪWẆXẊYẎZŻaȧbḃcċdḋeėfḟgġhḣmṁnṅoȯpṗrṙsṡtṫwẇxẋyẏzż"⟩,
    ⟨0x307, "ŚṤśṥŠṦšṧſẛṢṨṣṩ"⟩,
    ⟨0x308, "AÄEËHḦIÏOÖUÜWẄXẌYŸaäeëhḧiïoötẗuüwẅxẍyÿÕṎõṏŪṺūṻΙΪΥΫιϊυϋϒϔІЇАӒЕЁЖӜЗӞИӤОӦУӰЧӴЫӸЭӬ"⟩,
    ⟨0x308, "аӓеёжӝзӟиӥоӧуӱчӵыӹэӭіїӘӚәӛӨӪөӫ"⟩,
    ⟨0x309, "AẢEẺIỈOỎUỦYỶaảeẻiỉoỏuủyỷÂẨÊỂÔỔâẩêểôổĂẲăẳƠỞơởƯỬưử"⟩, ⟨0x30A, "AÅUŮaåuůwẘyẙ"⟩,
    ⟨0x30B, "OŐUŰoőuűУӲуӳ"⟩,
    ⟨0x30C, "AǍCČDĎEĚGǦHȞIǏKǨLĽNŇOǑRŘSŠTŤUǓZŽaǎcčdďeěgǧhȟiǐjǰkǩlľnňoǒrřsštťuǔzžÜǙüǚƷǮʒǯ"⟩,
    ⟨0x30F, "AȀEȄIȈOȌRȐUȔaȁeȅiȉoȍrȑuȕѴѶѵѷ"⟩, ⟨0x311, "AȂEȆIȊOȎRȒUȖaȃeȇiȋoȏrȓuȗ"⟩,
    ⟨0x313, "ΑἈΕἘΗἨΙἸΟὈΩὨαἀεἐηἠιἰοὀρῤυὐωὠ"⟩, ⟨0x314, "ΑἉΕἙΗἩΙἹΟὉΡῬΥὙΩὩαἁεἑηἡιἱοὁρῥυὑωὡ"⟩,
    ⟨0x31B, "OƠUƯoơuư"⟩,
    ⟨0x323, "AẠBḄDḌEẸHḤIỊKḲLḶMṂNṆOỌRṚSṢTṬUỤVṾWẈYỴZẒaạbḅdḍeẹhḥiịkḳlḷmṃnṇoọrṛsṣtṭuụvṿwẉyỵzẓƠỢ"⟩,
    ⟨0x323, "ơợƯỰưự"⟩, ⟨0x324, "UṲuṳ"⟩, ⟨0x325, "AḀaḁ"⟩, ⟨0x326, "SȘTȚsștț"⟩,
    ⟨0x327, "CÇDḐEȨGĢHḨKĶLĻNŅRŖSŞTŢcçdḑeȩgģhḩkķlļnņrŗsştţ"⟩, ⟨0x328, "AĄEĘIĮOǪUŲaąeęiįoǫuų"⟩,
    ⟨0x32D, "DḒEḘLḼNṊTṰUṶdḓeḙlḽnṋtṱuṷ"⟩, ⟨0x32E, "HḪhḫ"⟩, ⟨0x330, "EḚIḬUṴeḛiḭuṵ"⟩,
    ⟨0x331, "BḆDḎKḴLḺNṈRṞTṮZẔbḇdḏhẖkḵlḻnṉrṟtṯzẕ"⟩,
    ⟨0x338, "<≮=≠>≯←↚→↛↔↮⇐⇍⇒⇏⇔⇎∃∄∈∉∋∌∣∤∥∦∼≁≃≄≅≇≈≉≍≭≡≢≤≰≥≱≲≴≳≵≶≸≷≹≺⊀≻⊁≼⋠≽⋡⊂⊄⊃⊅⊆⊈⊇⊉⊑⋢⊒⋣⊢⊬⊨⊭⊩⊮"⟩,
    ⟨0x338, "⊫⊯⊲⋪⊳⋫⊴⋬⊵⋭"⟩, ⟨0x342, "¨῁αᾶηῆιῖυῦωῶϊῗϋῧἀἆἁἇἈἎἉἏἠἦἡἧἨἮἩἯἰἶἱἷἸἾἹἿὐὖὑὗὙὟὠὦὡὧὨὮὩὯ᾿῏῾῟"⟩,
    ⟨0x345, "ΑᾼΗῌΩῼάᾴήῄαᾳηῃωῳώῴἀᾀἁᾁἂᾂἃᾃἄᾄἅᾅἆᾆἇᾇἈᾈἉᾉἊᾊἋᾋἌᾌἍᾍἎᾎἏᾏἠᾐἡᾑἢᾒἣᾓἤᾔἥᾕἦᾖἧᾗἨᾘἩᾙἪᾚἫᾛἬᾜἭᾝ"⟩,
    ⟨0x345, "ἮᾞἯᾟὠᾠὡᾡὢᾢὣᾣὤᾤὥᾥὦᾦὧᾧὨᾨὩᾩὪᾪὫᾫὬᾬὭᾭὮᾮὯᾯὰᾲὴῂὼῲᾶᾷῆῇῶῷ"⟩, ⟨0x653, "اآ"⟩,
    ⟨0x654, "اأوؤيئہۂےۓەۀ"⟩, ⟨0x655, "اإ"⟩, ⟨0x93C, "नऩरऱळऴ"⟩, ⟨0x9BE, "\u09c7\u09cb"⟩,
    ⟨0x9D7, "\u09c7\u09cc"⟩, ⟨0xB3E, "\u0b47\u0b4b"⟩, ⟨0xB56, "\u0b47\u0b48"⟩,
    ⟨0xB57, "\u0b47\u0b4c"⟩, ⟨0xBBE, "\u0bc6\u0bca\u0bc7\u0bcb"⟩, ⟨0xBD7, "ஒஔ\u0bc6\u0bcc"⟩,
    ⟨0xC56, "\u0c46\u0c48"⟩, ⟨0xCC2, "\u0cc6\u0cca"⟩,
    ⟨0xCD5, "\u0cbf\u0cc0\u0cc6\u0cc7\u0cca\u0ccb"⟩, ⟨0xCD6, "\u0cc6\u0cc8"⟩,
    ⟨0xD3E, "\u0d46\u0d4a\u0d47\u0d4b"⟩, ⟨0xD57, "\u0d46\u0d4c"⟩,
    ⟨0xDCA, "\u0dd9\u0dda\u0ddc\u0ddd"⟩, ⟨0xDCF, "\u0dd9\u0ddc"⟩, ⟨0xDDF, "\u0dd9\u0dde"⟩,
    ⟨0x102E, "ဥဦ"⟩,
    ⟨0x3099, "うゔかがきぎくぐけげこごさざしじすずせぜそぞただちぢつづてでとどはばひびふぶへべほぼゝゞウヴカガキギクグケゲコゴサザシジスズセゼソゾタダチヂツヅテデトドハバ"⟩,
    ⟨0x3099, "ヒビフブヘベホボワヷヰヸヱヹヲヺヽヾ"⟩, ⟨0x309A, "はぱひぴふぷへぺほぽハパヒピフプヘペホポ"⟩]

/-- Letters, marks and composed characters that came later. -/
def lateRows : List (Nat × Nat × Nat) :=
  [(0x1B05, 0x1B35, 0x1B06), (0x1B07, 0x1B35, 0x1B08), (0x1B09, 0x1B35, 0x1B0A),
    (0x1B0B, 0x1B35, 0x1B0C), (0x1B0D, 0x1B35, 0x1B0E), (0x1B11, 0x1B35, 0x1B12),
    (0x1B3A, 0x1B35, 0x1B3B), (0x1B3C, 0x1B35, 0x1B3D), (0x1B3E, 0x1B35, 0x1B40),
    (0x1B3F, 0x1B35, 0x1B41), (0x1B42, 0x1B35, 0x1B43), (0x11099, 0x110BA, 0x1109A),
    (0x1109B, 0x110BA, 0x1109C), (0x110A5, 0x110BA, 0x110AB), (0x11131, 0x11127, 0x1112E),
    (0x11132, 0x11127, 0x1112F), (0x11347, 0x1133E, 0x1134B), (0x11347, 0x11357, 0x1134C),
    (0x114B9, 0x114BA, 0x114BB), (0x114B9, 0x114B0, 0x114BC), (0x114B9, 0x114BD, 0x114BE),
    (0x115B8, 0x115AF, 0x115BA), (0x115B9, 0x115AF, 0x115BB), (0x11935, 0x11930, 0x11938)]

end Composition

/-! ### Forms -/

/-- What characters that follow each other consist of. -/
structure FormRow where
  /-- The number of the first character. -/
  first : Nat
  forms : String

namespace Decomposition

/-- Characters that are forms of single ones. -/
def singles : List FormRow :=
  [⟨0xA0, " "⟩, ⟨0xAA, "a"⟩, ⟨0xB2, "23"⟩, ⟨0xB5, "μ"⟩, ⟨0xB9, "1o"⟩, ⟨0x17F, "s"⟩,
    ⟨0x2B0, "hɦjrɹɻʁwy"⟩, ⟨0x2E0, "ɣlsxʕ"⟩, ⟨0x340, "\u0300\u0301"⟩, ⟨0x343, "\u0313"⟩,
    ⟨0x374, "ʹ"⟩, ⟨0x37E, ";"⟩, ⟨0x387, "·"⟩, ⟨0x3D0, "βθΥ"⟩, ⟨0x3D5, "φπ"⟩, ⟨0x3F0, "κρς"⟩,
    ⟨0x3F4, "Θε"⟩, ⟨0xF0C, "་"⟩, ⟨0x1FBE, "ι"⟩, ⟨0x1FEF, "\x60"⟩, ⟨0x2000, "           "⟩,
    ⟨0x2011, "‐"⟩, ⟨0x2024, "."⟩, ⟨0x202F, " "⟩, ⟨0x205F, " "⟩, ⟨0x2070, "0i"⟩,
    ⟨0x2074, "456789+−=()n0123456789+−=()"⟩, ⟨0x2102, "C"⟩, ⟨0x2107, "Ɛ"⟩, ⟨0x210A, "gHHHhħIILl"⟩,
    ⟨0x2115, "N"⟩, ⟨0x2119, "PQRRR"⟩, ⟨0x2124, "Z"⟩, ⟨0x2126, "Ω"⟩, ⟨0x2128, "Z"⟩, ⟨0x212A, "K"⟩,
    ⟨0x212C, "BC"⟩, ⟨0x212F, "eEF"⟩, ⟨0x2133, "Moאבגדi"⟩, ⟨0x213D, "γΓΠ∑"⟩, ⟨0x2145, "Ddeij"⟩,
    ⟨0x2160, "I"⟩, ⟨0x2164, "V"⟩, ⟨0x2169, "X"⟩, ⟨0x216C, "LCDMi"⟩, ⟨0x2174, "v"⟩, ⟨0x2179, "x"⟩,
    ⟨0x217C, "lcdm"⟩, ⟨0x2329, "〈〉"⟩, ⟨0x2460, "123456789"⟩,
    ⟨0x24B6, "ABCDEFGHIJKLMNOPQRSTUVWXYZabcdefghijklmnopqrstuvwxyz0"⟩, ⟨0x2E9F, "母"⟩, ⟨0x2EF3, "龟"⟩,
    ⟨0x2F00, "一丨丶丿乙亅二亠人儿入八冂冖冫几凵刀力勹匕匚匸十卜卩厂厶又口囗土士夂夊夕大女子宀寸小尢尸屮山巛工己巾干幺广廴廾弋弓彐彡彳心戈戶手支攴文斗斤方无日曰月木欠止歹殳毋"⟩,
    ⟨0x2F50, "比毛氏气水火爪父爻爿片牙牛犬玄玉瓜瓦甘生用田疋疒癶白皮皿目矛矢石示禸禾穴立竹米糸缶网羊羽老而耒耳聿肉臣自至臼舌舛舟艮色艸虍虫血行衣襾見角言谷豆豕豸貝赤走足身車辛"⟩,
    ⟨0x2FA0, "辰辵邑酉釆里金長門阜隶隹雨靑非面革韋韭音頁風飛食首香馬骨高髟鬥鬯鬲鬼魚鳥鹵鹿麥麻黃黍黑黹黽鼎鼓鼠鼻齊齒龍龜龠"⟩, ⟨0x3000, " "⟩,
    ⟨0x3036, "〒"⟩, ⟨0x3038, "十卄卅"⟩,
    ⟨0x3131, "ᄀᄁᆪᄂᆬᆭᄃᄄᄅᆰᆱᆲᆳᆴᆵᄚᄆᄇᄈᄡᄉᄊᄋᄌᄍᄎᄏᄐᄑ하ᅢᅣᅤᅥᅦᅧᅨᅩᅪᅫᅬᅭᅮᅯᅰᅱᅲᅳᅴᅵᅠᄔᄕᇇᇈᇌᇎᇓᇗᇙᄜᇝᇟᄝᄞᄠᄢᄣᄧᄩᄫᄬᄭᄮᄯᄲᄶᅀᅇ"⟩,
    ⟨0x3181, "ᅌᇱᇲᅗᅘᅙᆄᆅᆈᆑᆒᆔᆞᆡ"⟩, ⟨0x3192, "一二三四上中下甲乙丙丁天地人"⟩, ⟨0x3260, "ᄀᄂᄃᄅᄆᄇᄉᄋᄌᄎᄏᄐᄑᄒ"⟩,
    ⟨0x3280, "一二三四五六七八九十月火水木金土日株有社名特財祝労秘男女適優印注項休写正上中下左右医宗学監企資協夜"⟩,
    ⟨0x32D0, "アイウエオカキクケコサシスセソタチツテトナニヌネノハヒフヘホマミムメモヤユヨラリルレロワヰヱヲ"⟩,
    ⟨0xF900, "豈更車賈滑串句龜龜契金喇奈懶癩羅蘿螺裸邏樂洛烙珞落酪駱亂卵欄爛蘭鸞嵐濫藍襤拉臘蠟廊朗浪狼郎來冷勞擄櫓爐盧老蘆虜路露魯鷺碌祿綠菉錄鹿論壟弄籠聾牢磊賂雷壘屢樓淚漏累"⟩,
    ⟨0xF950, "縷陋勒肋凜凌稜綾菱陵讀拏樂諾丹寧怒率異北磻便復不泌數索參塞省葉說殺辰沈拾若掠略亮兩凉梁糧良諒量勵呂女廬旅濾礪閭驪麗黎力曆歷轢年憐戀撚漣煉璉秊練聯輦蓮連鍊列劣咽烈"⟩,
    ⟨0xF9A0, "裂說廉念捻殮簾獵令囹寧嶺怜玲瑩羚聆鈴零靈領例禮醴隸惡了僚寮尿料樂燎療蓼遼龍暈阮劉杻柳流溜琉留硫紐類六戮陸倫崙淪輪律慄栗率隆利吏履易李梨泥理痢罹裏裡里離匿溺吝燐璘"⟩,
    ⟨0xF9F0, "藺隣鱗麟林淋臨立笠粒狀炙識什茶刺切度拓糖宅洞暴輻行降見廓兀嗀"⟩, ⟨0xFA10, "塚"⟩, ⟨0xFA12, "晴"⟩,
    ⟨0xFA15, "凞猪益礼神祥福靖精羽"⟩, ⟨0xFA20, "蘒"⟩, ⟨0xFA22, "諸"⟩, ⟨0xFA25, "逸都"⟩, ⟨0xFA2A, "飯飼館鶴"⟩,
    ⟨0xFA30, "侮僧免勉勤卑喝嘆器塀墨層屮悔慨憎懲敏既暑梅海渚漢煮爫琢碑社祉祈祐祖祝禍禎穀突節練縉繁署者臭艹艹著褐視謁謹賓贈辶逸難響頻"⟩, ⟨0xFB20, "עאדהכלםרת+"⟩,
    ⟨0xFB50, "ٱٱٻٻٻٻپپپپڀڀڀڀٺٺٺٺٿٿٿٿٹٹٹٹڤڤڤڤڦڦڦڦڄڄڄڄڃڃڃڃچچچچڇڇڇڇڍڍڌڌڎڎڈڈژژڑڑککککگگگگڳڳڳڳڱڱڱڱںں"⟩,
    ⟨0xFBA0, "ڻڻڻڻ"⟩, ⟨0xFBA6, "ہہہہھھھھےے"⟩, ⟨0xFBD3, "ڭڭڭڭۇۇۆۆۈۈ"⟩, ⟨0xFBDE, "ۋۋۅۅۉۉېېېېىى"⟩,
    ⟨0xFBFC, "یییی"⟩, ⟨0xFE31, "—–__()\x7b\x7d〔〕【】《》〈〉「」『』"⟩, ⟨0xFE4D, "___,、."⟩,
    ⟨0xFE54, ";:?!—()\x7b\x7d〔〕#&*+-<>="⟩, ⟨0xFE68, "\\$%@"⟩, ⟨0xFE80, "ء"⟩,
    ⟨0xFE8D, "ااببببةةتتتتثثثثججججححححخخخخددذذررززسسسسششششصصصصضضضضططططظظظظععععغغغغففففققققكككك"⟩,
    ⟨0xFEDD, "للللممممننننههههووىىيييي"⟩,
    ⟨0xFF01, "!\"#$%&'()*+,-./0123456789:;<=>?@ABCDEFGHIJKLMNOPQRSTUVWXYZ[\\]^_\x60abcdefghijk"⟩,
    ⟨0xFF4C, "lmnopqrstuvwxyz\x7b|\x7d~⦅⦆。「」、・ヲァィゥェォャュョッーアイウエオカキクケコサシスセソタチツテトナニヌネノハヒフヘホマミムメモヤユ"⟩,
    ⟨0xFF96, "ヨラリルレロワン\u3099\u309aᅠᄀᄁᆪᄂᆬᆭᄃᄄᄅᆰᆱᆲᆳᆴᆵᄚᄆᄇᄈᄡᄉᄊᄋᄌᄍᄎᄏᄐᄑᄒ"⟩, ⟨0xFFC2, "ᅡᅢᅣᅤᅥᅦ"⟩,
    ⟨0xFFCA, "ᅧᅨᅩᅪᅫᅬ"⟩, ⟨0xFFD2, "ᅭᅮᅯᅰᅱᅲ"⟩, ⟨0xFFDA, "ᅳᅴᅵ"⟩, ⟨0xFFE0, "¢£¬"⟩, ⟨0xFFE4, "¦¥₩"⟩,
    ⟨0xFFE8, "│←↑→↓■○"⟩,
    ⟨0x1D400, "ABCDEFGHIJKLMNOPQRSTUVWXYZabcdefghijklmnopqrstuvwxyzABCDEFGHIJKLMNOPQRSTUVWXYZa"⟩,
    ⟨0x1D44F, "bcdefg"⟩,
    ⟨0x1D456, "ijklmnopqrstuvwxyzABCDEFGHIJKLMNOPQRSTUVWXYZabcdefghijklmnopqrstuvwxyzA"⟩,
    ⟨0x1D49E, "CD"⟩, ⟨0x1D4A2, "G"⟩, ⟨0x1D4A5, "JK"⟩, ⟨0x1D4A9, "NOPQ"⟩, ⟨0x1D4AE, "STUVWXYZabcd"⟩,
    ⟨0x1D4BB, "f"⟩, ⟨0x1D4BD, "hijk"⟩, ⟨0x1D4C2, "mn"⟩,
    ⟨0x1D4C5, "pqrstuvwxyzABCDEFGHIJKLMNOPQRSTUVWXYZabcdefghijklmnopqrstuvwxyzAB"⟩,
    ⟨0x1D507, "DEFG"⟩, ⟨0x1D50D, "JKLMNOPQ"⟩, ⟨0x1D516, "STUVWXY"⟩,
    ⟨0x1D51E, "abcdefghijklmnopqrstuvwxyzAB"⟩, ⟨0x1D53B, "DEFG"⟩, ⟨0x1D540, "IJKLM"⟩,
    ⟨0x1D546, "O"⟩, ⟨0x1D54A, "STUVWXY"⟩,
    ⟨0x1D552, "abcdefghijklmnopqrstuvwxyzABCDEFGHIJKLMNOPQRSTUVWXYZabcdefghijklmnopqrstuvwxyzA"⟩,
    ⟨0x1D5A1, "BCDEFGHIJKLMNOPQRSTUVWXYZabcdefghijklmnopqrstuvwxyzABCDEFGHIJKLMNOPQRSTUVWXYZab"⟩,
    ⟨0x1D5F0, "cdefghijklmnopqrstuvwxyzABCDEFGHIJKLMNOPQRSTUVWXYZabcdefghijklmnopqrstuvwxyzABC"⟩,
    ⟨0x1D63F, "DEFGHIJKLMNOPQRSTUVWXYZabcdefghijklmnopqrstuvwxyzABCDEFGHIJKLMNOPQRSTUVWXYZabcd"⟩,
    ⟨0x1D68E, "efghijklmnopqrstuvwxyz"⟩,
    ⟨0x1D6A8, "ΑΒΓΔΕΖΗΘΙΚΛΜΝΞΟΠΡΘΣΤΥΦΧΨΩ∇αβγδεζηθικλμνξοπρςστυφχψω∂εθκφρπΑΒΓΔΕΖΗΘΙΚΛΜΝΞΟΠΡΘΣΤΥ"⟩,
    ⟨0x1D6F7, "ΦΧΨΩ∇αβγδεζηθικλμνξοπρςστυφχψω∂εθκφρπΑΒΓΔΕΖΗΘΙΚΛΜΝΞΟΠΡΘΣΤΥΦΧΨΩ∇αβγδεζηθικλμνξοπ"⟩,
    ⟨0x1D746, "ρςστυφχψω∂εθκφρπΑΒΓΔΕΖΗΘΙΚΛΜΝΞΟΠΡΘΣΤΥΦΧΨΩ∇αβγδεζηθικλμνξοπρςστυφχψω∂εθκφρπΑΒΓΔΕ"⟩,
    ⟨0x1D795, "ΖΗΘΙΚΛΜΝΞΟΠΡΘΣΤΥΦΧΨΩ∇αβγδεζηθικλμνξοπρςστυφχψω∂εθκφρπ"⟩,
    ⟨0x1D7CE, "01234567890123456789012345678901234567890123456789"⟩,
    ⟨0x2F800, "丽丸乁𠄢你侮侻倂偺備僧像㒞𠘺免兔兤具𠔜㒹內再𠕋冗冤仌冬况𩇟凵刃㓟刻剆割剷㔕勇勉勤勺包匆北卉卑博即卽卿卿卿𠨬灰及叟𠭣叫叱吆咞吸呈周咢哶唐啓啣善善喙喫喳嗂圖嘆圗噑"⟩,
    ⟨0x2F84F, "噴切壮城埴堍型堲報墬𡓤売壷夆多夢奢𡚨𡛪姬娛娧姘婦㛮𡍪嬈嬾嬾𡧈寃寘寧寳𡬘寿将弳尢㞁屠屮峀岍𡷤嵃𡷦嵮嵫嵼巡巢㠯巽帨帽幩㡢𢆃㡼庰庳庶廊𪎒廾𢌱𢌱舁弢弢㣇𣊸𦇚形彫㣣徚忍"⟩,
    ⟨0x2F89E, "志忹悁㤺㤜悔𢛔惇慈慌慎慌慺憎憲憤憯懞懲懶成戛扝抱拔捐𢬌挽拼捨掃揤𢯱搢揅掩㨮摩摾撝摷㩬敏敬𣀊旣書晉㬙暑㬈㫤冒冕最暜肭䏙朗望朡杞杓𣏃㭉柺枅桒梅𣑭梎栟椔㮝楂榣槪檨𣚣"⟩,
    ⟨0x2F8ED, "櫛㰘次𣢧歔㱎歲殟殺殻𣪍𡴋𣫺汎𣲼沿泍汧洖派海流浩浸涅𣴞洴港湮㴳滋滇𣻑淹潮𣽞𣾎濆瀹瀞瀛㶖灊災灷炭𠔥煅𤉣熜䎫爨爵牐𤘈犀犕𤜵𤠔獺王㺬玥㺸㺸瑇瑜瑱璅瓊㼛甤𤰶甾𤲒異𢆟瘐𤾡"⟩,
    ⟨0x2F93C, "𤾸𥁄㿼䀈直𥃳𥃲𥄙𥄳眞真真睊䀹瞋䁆䂖𥐝硎碌磌䃣𥘦祖𥚚𥛅福秫䄯穀穊穏𥥼𥪧𥪧窮䈂𥮫篆築䈧𥲀糒䊠糨糣紀𥾆絣䌁緇縂繅䌴𦈨𦉇䍙𦋙罺𦌾羕翺者𦓚𦔣聠𦖨聰𣍟䏕育脃䐋脾媵𦞧𦞵𣎓𣎜"⟩,
    ⟨0x2F98B, "舁舄辞䑫芑芋芝劳花芳芽苦𦬼若茝荣莭茣莽菧著荓菊菌菜𦰶𦵫𦳕䔫蓱蓳蔖𧏊蕤𦼬䕝䕡𦾱𧃒䕫虐虜虧虩蚩蚈蜎蛢蝹蜨蝫螆䵗蟡蠁䗹衠衣𧙧裗裞䘵裺㒻𧢮𧥦䚾䛇誠諭變豕𧲨貫賁贛起𧼯𠠄"⟩,
    ⟨0x2F9DA, "跋趼跰𠣞軔輸𨗒𨗭邔郱鄑𨜮鄛鈸鋗鋘鉼鏹鐕𨯺開䦕閷𨵷䧦雃嶲霣𩅅𩈚䩮䩶韠𩐊䪲𩒖頋頋頩𩖶飢䬳餩馧駂駾䯎𩬰鬒鱀鳽䳎䳭鵧𪃎䳸𪄅𪈎𪊑麻䵖黹黾鼅鼏鼖鼻𪘀"⟩]

/-- Characters that several others make up. Those of one character end with a bar before those of
the next one. -/
def several : List FormRow :=
  [⟨0xA8, " \u0308"⟩, ⟨0xAF, " \u0304"⟩, ⟨0xB4, " \u0301"⟩, ⟨0xB8, " \u0327"⟩,
    ⟨0xBC, "1⁄4|1⁄2|3⁄4"⟩, ⟨0x132, "IJ|ij"⟩, ⟨0x13F, "L·|l·"⟩, ⟨0x149, "ʼn"⟩,
    ⟨0x1C4, "DZ\u030c|Dz\u030c|dz\u030c|LJ|Lj|lj|NJ|Nj|nj"⟩, ⟨0x1F1, "DZ|Dz|dz"⟩,
    ⟨0x2D8, " \u0306| \u0307| \u030a| \u0328| \u0303| \u030b"⟩, ⟨0x344, "\u0308\u0301"⟩,
    ⟨0x37A, " \u0345"⟩, ⟨0x384, " \u0301"⟩, ⟨0x587, "եւ"⟩, ⟨0x675, "اٴ|وٴ|ۇٴ|يٴ"⟩,
    ⟨0x958, "क\u093c|ख\u093c|ग\u093c|ज\u093c|ड\u093c|ढ\u093c|फ\u093c|य\u093c"⟩,
    ⟨0x9DC, "ড\u09bc|ঢ\u09bc"⟩, ⟨0x9DF, "য\u09bc"⟩, ⟨0xA33, "ਲ\u0a3c"⟩, ⟨0xA36, "ਸ\u0a3c"⟩,
    ⟨0xA59, "ਖ\u0a3c|ਗ\u0a3c|ਜ\u0a3c"⟩, ⟨0xA5E, "ਫ\u0a3c"⟩, ⟨0xB5C, "ଡ\u0b3c|ଢ\u0b3c"⟩,
    ⟨0xE33, "\u0e4dา"⟩, ⟨0xEB3, "\u0ecdາ"⟩, ⟨0xEDC, "ຫນ|ຫມ"⟩, ⟨0xF43, "ག\u0fb7"⟩,
    ⟨0xF4D, "ཌ\u0fb7"⟩, ⟨0xF52, "ད\u0fb7"⟩, ⟨0xF57, "བ\u0fb7"⟩, ⟨0xF5C, "ཛ\u0fb7"⟩,
    ⟨0xF69, "ཀ\u0fb5"⟩, ⟨0xF73, "\u0f71\u0f72"⟩,
    ⟨0xF75, "\u0f71\u0f74|\u0fb2\u0f80|\u0fb2\u0f71\u0f80|\u0fb3\u0f80|\u0fb3\u0f71\u0f80"⟩,
    ⟨0xF81, "\u0f71\u0f80"⟩, ⟨0xF93, "\u0f92\u0fb7"⟩, ⟨0xF9D, "\u0f9c\u0fb7"⟩,
    ⟨0xFA2, "\u0fa1\u0fb7"⟩, ⟨0xFA7, "\u0fa6\u0fb7"⟩, ⟨0xFAC, "\u0fab\u0fb7"⟩,
    ⟨0xFB9, "\u0f90\u0fb5"⟩, ⟨0x1E9A, "aʾ"⟩, ⟨0x1F71, "α\u0301"⟩, ⟨0x1F73, "ε\u0301"⟩,
    ⟨0x1F75, "η\u0301"⟩, ⟨0x1F77, "ι\u0301"⟩, ⟨0x1F79, "ο\u0301"⟩, ⟨0x1F7B, "υ\u0301"⟩,
    ⟨0x1F7D, "ω\u0301"⟩, ⟨0x1FBB, "Α\u0301"⟩, ⟨0x1FBD, " \u0313"⟩, ⟨0x1FBF, " \u0313| \u0342"⟩,
    ⟨0x1FC9, "Ε\u0301"⟩, ⟨0x1FCB, "Η\u0301"⟩, ⟨0x1FD3, "ι\u0308\u0301"⟩, ⟨0x1FDB, "Ι\u0301"⟩,
    ⟨0x1FE3, "υ\u0308\u0301"⟩, ⟨0x1FEB, "Υ\u0301"⟩, ⟨0x1FEE, " \u0308\u0301"⟩, ⟨0x1FF9, "Ο\u0301"⟩,
    ⟨0x1FFB, "Ω\u0301"⟩, ⟨0x1FFD, " \u0301| \u0314"⟩, ⟨0x2017, " \u0333"⟩, ⟨0x2025, "..|..."⟩,
    ⟨0x2033, "′′|′′′"⟩, ⟨0x2036, "‵‵|‵‵‵"⟩, ⟨0x203C, "!!"⟩, ⟨0x203E, " \u0305"⟩,
    ⟨0x2047, "??|?!|!?"⟩, ⟨0x2057, "′′′′"⟩, ⟨0x20A8, "Rs"⟩, ⟨0x2100, "a/c|a/s"⟩, ⟨0x2103, "°C"⟩,
    ⟨0x2105, "c/o|c/u"⟩, ⟨0x2109, "°F"⟩, ⟨0x2116, "No"⟩, ⟨0x2120, "SM|TEL|TM"⟩, ⟨0x212B, "A\u030a"⟩,
    ⟨0x2153, "1⁄3|2⁄3|1⁄5|2⁄5|3⁄5|4⁄5|1⁄6|5⁄6|1⁄8|3⁄8|5⁄8|7⁄8|1⁄"⟩, ⟨0x2161, "II|III|IV"⟩,
    ⟨0x2165, "VI|VII|VIII|IX"⟩, ⟨0x216A, "XI|XII"⟩, ⟨0x2171, "ii|iii|iv"⟩,
    ⟨0x2175, "vi|vii|viii|ix"⟩, ⟨0x217A, "xi|xii"⟩, ⟨0x222C, "∫∫|∫∫∫"⟩, ⟨0x222F, "∮∮|∮∮∮"⟩,
    ⟨0x2469, "10|11|12|13|14|15|16|17|18|19|20|(1)|(2)|(3)|(4)|(5)|(6)|(7)|(8)|(9)|(10)|(11)"⟩,
    ⟨0x247F, "(12)|(13)|(14)|(15)|(16)|(17)|(18)|(19)|(20)|1.|2.|3.|4.|5.|6.|7.|8.|9.|10.|11."⟩,
    ⟨0x2493, "12.|13.|14.|15.|16.|17.|18.|19.|20.|(a)|(b)|(c)|(d)|(e)|(f)|(g)|(h)|(i)|(j)|(k)"⟩,
    ⟨0x24A7, "(l)|(m)|(n)|(o)|(p)|(q)|(r)|(s)|(t)|(u)|(v)|(w)|(x)|(y)|(z)"⟩, ⟨0x2A0C, "∫∫∫∫"⟩,
    ⟨0x2A74, "::=|==|==="⟩, ⟨0x2ADC, "⫝\u0338"⟩, ⟨0x309B, " \u3099| \u309a"⟩, ⟨0x309F, "より"⟩,
    ⟨0x30FF, "コト"⟩,
    ⟨0x3200, "(ᄀ)|(ᄂ)|(ᄃ)|(ᄅ)|(ᄆ)|(ᄇ)|(ᄉ)|(ᄋ)|(ᄌ)|(ᄎ)|(ᄏ)|(ᄐ)|(ᄑ)|(ᄒ)|(가)|(나)|(다)|(라)|(마)"⟩,
    ⟨0x3213, "(바)|(사)|(아)|(자)|(차)|(카)|(타)|(파)|(하)|(주)"⟩,
    ⟨0x3220, "(一)|(二)|(三)|(四)|(五)|(六)|(七)|(八)|(九)|(十)|(月)|(火)|(水)|(木)|(金)|(土)|(日)|(株)|(有)|(社)"⟩,
    ⟨0x3234, "(名)|(特)|(財)|(祝)|(労)|(代)|(呼)|(学)|(監)|(企)|(資)|(協)|(祭)|(休)|(自)|(至)"⟩,
    ⟨0x3251, "21|22|23|24|25|26|27|28|29|30|31|32|33|34|35"⟩,
    ⟨0x326E, "가|나|다|라|마|바|사|아|자|차|카|타|파|하"⟩,
    ⟨0x32B1, "36|37|38|39|40|41|42|43|44|45|46|47|48|49|50|1月|2月|3月|4月|5月|6月|7月|8月|9月|10月|11月"⟩,
    ⟨0x32CB, "12月"⟩,
    ⟨0x3300, "アハ\u309aート|アルファ|アンヘ\u309aア|アール|イニンク\u3099|インチ|ウォン|エスクート\u3099|エーカー|オンス|オーム|カイリ"⟩,
    ⟨0x330C, "カラット|カロリー|カ\u3099ロン|カ\u3099ンマ|キ\u3099カ\u3099|キ\u3099ニー|キュリー|キ\u3099ルタ\u3099ー|キロ"⟩,
    ⟨0x3315, "キロク\u3099ラム|キロメートル|キロワット|ク\u3099ラム|ク\u3099ラムトン|クルセ\u3099イロ|クローネ|ケース|コルナ"⟩,
    ⟨0x331E, "コーホ\u309a|サイクル|サンチーム|シリンク\u3099|センチ|セント|タ\u3099ース|テ\u3099シ|ト\u3099ル|トン|ナノ|ノット"⟩,
    ⟨0x332A, "ハイツ|ハ\u309aーセント|ハ\u309aーツ|ハ\u3099ーレル|ヒ\u309aアストル|ヒ\u309aクル|ヒ\u309aコ|ヒ\u3099ル"⟩,
    ⟨0x3332, "ファラット\u3099|フィート|フ\u3099ッシェル|フラン|ヘクタール|ヘ\u309aソ|ヘ\u309aニヒ|ヘルツ|ヘ\u309aンス"⟩,
    ⟨0x333B, "ヘ\u309aーシ\u3099|ヘ\u3099ータ|ホ\u309aイント|ホ\u3099ルト|ホン|ホ\u309aント\u3099|ホール|ホーン|マイクロ"⟩,
    ⟨0x3344, "マイル|マッハ|マルク|マンション|ミクロン|ミリ|ミリハ\u3099ール|メカ\u3099|メカ\u3099トン|メートル|ヤート\u3099|ヤール|ユアン"⟩,
    ⟨0x3351, "リットル|リラ|ルヒ\u309aー|ルーフ\u3099ル|レム|レントケ\u3099ン|ワット|0点|1点|2点|3点|4点|5点|6点|7点|8点|9点"⟩,
    ⟨0x3362, "10点|11点|12点|13点|14点|15点|16点|17点|18点|19点|20点|21点|22点|23点|24点|hPa|da|AU|bar|oV|pc"⟩,
    ⟨0x337B, "平成|昭和|大正|明治|株式会社|pA|nA|μA|mA|kA|KB|MB|GB|cal|kcal|pF|nF|μF|μg|mg|kg|Hz|kHz|MHz"⟩,
    ⟨0x3393, "GHz|THz|μl|ml|dl|kl|fm|nm|μm|mm|cm|km|mm2|cm2|m2|km2|mm3|cm3|m3|km3|m∕s|m∕s2|Pa"⟩,
    ⟨0x33AA, "kPa|MPa|GPa|rad|rad∕s|rad∕s2|ps|ns|μs|ms|pV|nV|μV|mV|kV|MV|pW|nW|μW|mW|kW|MW|kΩ"⟩,
    ⟨0x33C1, "MΩ|a.m.|Bq|cc|cd|C∕kg|Co.|dB|Gy|ha|HP|in|KK|KM|kt|lm|ln|log|lx|mb|mil|mol|PH"⟩,
    ⟨0x33D8, "p.m.|PPM|PR|sr|Sv|Wb"⟩,
    ⟨0x33E0, "1日|2日|3日|4日|5日|6日|7日|8日|9日|10日|11日|12日|13日|14日|15日|16日|17日|18日|19日|20日|21日|22日"⟩,
    ⟨0x33F6, "23日|24日|25日|26日|27日|28日|29日|30日|31日"⟩, ⟨0xFB00, "ff|fi|fl|ffi|ffl|st|st"⟩,
    ⟨0xFB13, "մն|մե|մի|վն|մխ"⟩, ⟨0xFB1D, "י\u05b4"⟩, ⟨0xFB1F, "ײ\u05b7"⟩,
    ⟨0xFB2A, "ש\u05c1|ש\u05c2|ש\u05bc\u05c1|ש\u05bc\u05c2|א\u05b7|א\u05b8|א\u05bc|ב\u05bc"⟩,
    ⟨0xFB32, "ג\u05bc|ד\u05bc|ה\u05bc|ו\u05bc|ז\u05bc"⟩,
    ⟨0xFB38, "ט\u05bc|י\u05bc|ך\u05bc|כ\u05bc|ל\u05bc"⟩, ⟨0xFB3E, "מ\u05bc"⟩,
    ⟨0xFB40, "נ\u05bc|ס\u05bc"⟩, ⟨0xFB43, "ף\u05bc|פ\u05bc"⟩,
    ⟨0xFB46, "צ\u05bc|ק\u05bc|ר\u05bc|ש\u05bc|ת\u05bc|ו\u05b9|ב\u05bf|כ\u05bf|פ\u05bf|אל"⟩,
    ⟨0xFBA4, "ە\u0654|ە\u0654"⟩, ⟨0xFBB0, "ے\u0654|ے\u0654"⟩, ⟨0xFBDD, "ۇٴ"⟩,
    ⟨0xFBEA, "ي\u0654ا|ي\u0654ا|ي\u0654ە|ي\u0654ە|ي\u0654و|ي\u0654و|ي\u0654ۇ|ي\u0654ۇ|ي\u0654ۆ"⟩,
    ⟨0xFBF3, "ي\u0654ۆ|ي\u0654ۈ|ي\u0654ۈ|ي\u0654ې|ي\u0654ې|ي\u0654ې|ي\u0654ى|ي\u0654ى|ي\u0654ى"⟩,
    ⟨0xFC00, "ي\u0654ج|ي\u0654ح|ي\u0654م|ي\u0654ى|ي\u0654ي|بج|بح|بخ|بم|بى|بي|تج|تح|تخ|تم|تى|تي"⟩,
    ⟨0xFC11, "ثج|ثم|ثى|ثي|جح|جم|حج|حم|خج|خح|خم|سج|سح|سخ|سم|صح|صم|ضج|ضح|ضخ|ضم|طح|طم|ظم|عج|عم|غج"⟩,
    ⟨0xFC2C, "غم|فج|فح|فخ|فم|فى|في|قح|قم|قى|قي|كا|كج|كح|كخ|كل|كم|كى|كي|لج|لح|لخ|لم|لى|لي|مج|مح"⟩,
    ⟨0xFC47, "مخ|مم|مى|مي|نج|نح|نخ|نم|نى|ني|هج|هم|هى|هي|يج|يح|يخ|يم|يى|يي|ذ\u0670|ر\u0670"⟩,
    ⟨0xFC5D, "ى\u0670| \u064c\u0651| \u064d\u0651| \u064e\u0651| \u064f\u0651| \u0650\u0651"⟩,
    ⟨0xFC63, " \u0651\u0670|ي\u0654ر|ي\u0654ز|ي\u0654م|ي\u0654ن|ي\u0654ى|ي\u0654ي|بر|بز|بم|بن"⟩,
    ⟨0xFC6E, "بى|بي|تر|تز|تم|تن|تى|تي|ثر|ثز|ثم|ثن|ثى|ثي|فى|في|قى|قي|كا|كل|كم|كى|كي|لم|لى|لي|ما"⟩,
    ⟨0xFC89, "مم|نر|نز|نم|نن|نى|ني|ى\u0670|ير|يز|يم|ين|يى|يي|ي\u0654ج|ي\u0654ح|ي\u0654خ"⟩,
    ⟨0xFC9A, "ي\u0654م|ي\u0654ه|بج|بح|بخ|بم|به|تج|تح|تخ|تم|ته|ثم|جح|جم|حج|حم|خج|خم|سج|سح|سخ|سم"⟩,
    ⟨0xFCB1, "صح|صخ|صم|ضج|ضح|ضخ|ضم|طح|ظم|عج|عم|غج|غم|فج|فح|فخ|فم|قح|قم|كج|كح|كخ|كل|كم|لج|لح|لخ"⟩,
    ⟨0xFCCC, "لم|له|مج|مح|مخ|مم|نج|نح|نخ|نم|نه|هج|هم|ه\u0670|يج|يح|يخ|يم|يه|ي\u0654م|ي\u0654ه"⟩,
    ⟨0xFCE1, "بم|به|تم|ته|ثم|ثه|سم|سه|شم|شه|كل|كم|لم|نم|نه|يم|يه|ـ\u064e\u0651|ـ\u064f\u0651"⟩,
    ⟨0xFCF4, "ـ\u0650\u0651|طى|طي|عى|عي|غى|غي|سى|سي|شى|شي|حى|حي|جى|جي|خى|خي|صى|صي|ضى|ضي|شج|شح"⟩,
    ⟨0xFD0B, "شخ|شم|شر|سر|صر|ضر|طى|طي|عى|عي|غى|غي|سى|سي|شى|شي|حى|حي|جى|جي|خى|خي|صى|صي|ضى|ضي|شج"⟩,
    ⟨0xFD26, "شح|شخ|شم|شر|سر|صر|ضر|شج|شح|شخ|شم|سه|شه|طم|سج|سح|سخ|شج|شح|شخ|طم|ظم|ا\u064b"⟩,
    ⟨0xFD3D, "ا\u064b"⟩,
    ⟨0xFD50, "تجم|تحج|تحج|تحم|تخم|تمج|تمح|تمخ|جمح|جمح|حمي|حمى|سحج|سجح|سجى|سمح|سمح|سمج|سمم|سمم"⟩,
    ⟨0xFD64, "صحح|صحح|صمم|شحم|شحم|شجي|شمخ|شمخ|شمم|شمم|ضحى|ضخم|ضخم|طمح|طمح|طمم|طمي|عجم|عمم|عمم"⟩,
    ⟨0xFD78, "عمى|غمم|غمي|غمى|فخم|فخم|قمح|قمم|لحم|لحي|لحى|لجج|لجج|لخم|لخم|لمح|لمح|محج|محم|محي"⟩,
    ⟨0xFD8C, "مجح|مجم|مخج|مخم"⟩,
    ⟨0xFD92, "مجخ|همج|همم|نحم|نحى|نجم|نجم|نجى|نمي|نمى|يمم|يمم|بخي|تجي|تجى|تخي|تخى|تمي|تمى|جمي"⟩,
    ⟨0xFDA6, "جحى|جمى|سخى|صحي|شحي|ضحي|لجي|لمي|يحي|يجي|يمي|ممي|قمي|نحي|قمح|لحم|عمي|كمي|نجح|مخي"⟩,
    ⟨0xFDBA, "لجم|كمم|لجم|نجح|جحي|حجي|مجي|فمي|بحي|كمم|عجم|صمم|سخي|نجي"⟩,
    ⟨0xFDF0, "صلے|قلے|الله|اكبر|محمد|صلعم|رسول|عليه|وسلم|صلى|صلى الله عليه وسلم|جل جلاله|ریال"⟩,
    ⟨0xFE30, ".."⟩, ⟨0xFE49, " \u0305| \u0305| \u0305| \u0305"⟩,
    ⟨0xFE70, " \u064b|ـ\u064b| \u064c"⟩, ⟨0xFE74, " \u064d"⟩,
    ⟨0xFE76, " \u064e|ـ\u064e| \u064f|ـ\u064f| \u0650|ـ\u0650| \u0651|ـ\u0651| \u0652|ـ\u0652"⟩,
    ⟨0xFE81, "ا\u0653|ا\u0653|ا\u0654|ا\u0654|و\u0654|و\u0654|ا\u0655|ا\u0655|ي\u0654|ي\u0654"⟩,
    ⟨0xFE8B, "ي\u0654|ي\u0654"⟩,
    ⟨0xFEF5, "لا\u0653|لا\u0653|لا\u0654|لا\u0654|لا\u0655|لا\u0655|لا|لا"⟩, ⟨0xFFE3, " \u0304"⟩,
    ⟨0x1D15E, "𝅗𝅥|𝅘𝅥|𝅘𝅥𝅮|𝅘𝅥𝅯|𝅘𝅥𝅰|𝅘𝅥𝅱|𝅘𝅥𝅲"⟩, ⟨0x1D1BB, "𝆹𝅥|𝆺𝅥|𝆹𝅥𝅮|𝆺𝅥𝅮|𝆹𝅥𝅯|𝆺𝅥𝅯"⟩]

end Decomposition

end Zpl
