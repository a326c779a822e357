import LspAdapter.Domain.Mapping.Rule
/-!
# Letters and symbols of the further planes

The code points from U+10000 on: letters of old scripts, letters for mathematics,
and further ideographs.
-/

namespace LspAdapter.Domain

def supplementRules : List Rule :=
  [⟨⟨0x10400, 0x10427⟩, .shifted 40⟩,
    ⟨⟨0x104B0, 0x104D3⟩, .shifted 40⟩,
    ⟨⟨0x10570, 0x10595⟩, .letters ["𐖗𐖘𐖙𐖚𐖛𐖜𐖝𐖞𐖟𐖠𐖡�𐖣𐖤𐖥𐖦𐖧𐖨𐖩𐖪𐖫𐖬𐖭𐖮𐖯𐖰𐖱�𐖳𐖴𐖵𐖶𐖷𐖸𐖹�𐖻𐖼"]⟩,
    ⟨⟨0x10781, 0x107BA⟩, .letters
      ["ːˑæʙɓ�ʣꭦʥʤɖɗᶑɘɞʩɤɢɠʛħʜɧʄʪʫɬ𝼄ꞎɮ𝼅ʎ𝼆øɶɷqɺ𝼈ɽɾʀʨʦꭧʧʈⱱ�ʏʡʢʘǀǁǂ𝼊𝼞"]⟩,
    ⟨⟨0x10C80, 0x10CB2⟩, .shifted 64⟩,
    ⟨⟨0x10D50, 0x10D65⟩, .shifted 32⟩,
    ⟨⟨0x118A0, 0x118BF⟩, .shifted 32⟩,
    ⟨⟨0x16E40, 0x16E5F⟩, .shifted 32⟩,
    ⟨⟨0x16EA0, 0x16EB8⟩, .shifted 27⟩,
    ⟨⟨0x1CCD6, 0x1CCEF⟩, .shifted (-117877)⟩,
    ⟨⟨0x1CCF0, 0x1CCF9⟩, .shifted (-117952)⟩,
    ⟨⟨0x1D15E, 0x1D164⟩, .words ["𝅗𝅥;𝅘𝅥;𝅘𝅥𝅮;𝅘𝅥𝅯;𝅘𝅥𝅰;𝅘𝅥𝅱;𝅘𝅥𝅲"]⟩,
    ⟨⟨0x1D1BB, 0x1D1C0⟩, .words ["𝆹𝅥;𝆺𝅥;𝆹𝅥𝅮;𝆺𝅥𝅮;𝆹𝅥𝅯;𝆺𝅥𝅯"]⟩,
    ⟨⟨0x1D400, 0x1D7FF⟩, .letters
      ["abcdefghijklmnopqrstuvwxyzabcdefghijklmnopqrstuvwxyzabcdefghijklmnopqrstuvwxyzabcd",
        "efg�ijklmnopqrstuvwxyzabcdefghijklmnopqrstuvwxyzabcdefghijklmnopqrstuvwxyza�cd��g�",
        "�jk��nopq�stuvwxyzabcd�f�hijklmn�pqrstuvwxyzabcdefghijklmnopqrstuvwxyzabcdefghijkl",
        "mnopqrstuvwxyzab�defg��jklmnopq�stuvwxy�abcdefghijklmnopqrstuvwxyzab�defg�ijklm�o�",
        "��stuvwxy�abcdefghijklmnopqrstuvwxyzabcdefghijklmnopqrstuvwxyzabcdefghijklmnopqrst",
        "uvwxyzabcdefghijklmnopqrstuvwxyzabcdefghijklmnopqrstuvwxyzabcdefghijklmnopqrstuvwx",
        "yzabcdefghijklmnopqrstuvwxyzabcdefghijklmnopqrstuvwxyzabcdefghijklmnopqrstuvwxyzab",
        "cdefghijklmnopqrstuvwxyzabcdefghijklmnopqrstuvwxyzabcdefghijklmnopqrstuvwxyzabcdef",
        "ghijklmnopqrstuvwxyzıȷ��αβγδεζηθικλμνξοπρθστυφχψω∇αβγδεζηθικλμνξοπρσστυφχψω∂εθκφρπ",
        "αβγδεζηθικλμνξοπρθστυφχψω∇αβγδεζηθικλμνξοπρσστυφχψω∂εθκφρπαβγδεζηθικλμνξοπρθστυφχψ",
        "ω∇αβγδεζηθικλμνξοπρσστυφχψω∂εθκφρπαβγδεζηθικλμνξοπρθστυφχψω∇αβγδεζηθικλμνξοπρσστυφ",
        "χψω∂εθκφρπαβγδεζηθικλμνξοπρθστυφχψω∇αβγδεζηθικλμνξοπρσστυφχψω∂εθκφρπϝϝ��0123456789",
        "0123456789012345678901234567890123456789"]⟩,
    ⟨⟨0x1E030, 0x1E06D⟩, .letters
      ["абвгдежзиклмопрстуфхцчшыэюꚉәіјөүӏабвгдежзиклопсуфхцчшъыґіѕџҫꙑұ"]⟩,
    ⟨⟨0x1E900, 0x1E921⟩, .shifted 34⟩,
    ⟨⟨0x1EE00, 0x1EEBB⟩, .letters
      ["ابجد�وزحطيكلمنسعفصقرشتثخذضظغٮںڡٯ�بج�ه��ح�يكلمنسعفصق�شتثخ�ض�غ������ج����ح�ي�ل�نسع�ص",
        "ق�ش��خ�ض�غ�ں�ٯ�بج�ه��حطيك�منسعفصق�شتثخ�ضظغٮ�ڡ�ابجدهوزحطي�لمنسعفصقرشتثخذضظغ�����بجد",
        "�وزحطي�لمنسعفصقرشتثخذضظغ"]⟩,
    ⟨⟨0x1F100, 0x1F14F⟩, .words
      ["�;0,;1,;2,;3,;4,;5,;6,;7,;8,;9,;🄋;🄌;🄍;🄎;🄏;(a);(b);(c);(d);(e);(f);(g);(h);(i);(j)",
        "(k);(l);(m);(n);(o);(p);(q);(r);(s);(t);(u);(v);(w);(x);(y);(z);〔s〕;c;r;cd;wz;🄯;a",
        "b;c;d;e;f;g;h;i;j;k;l;m;n;o;p;q;r;s;t;u;v;w;x;y;z;hv;mv;sd;ss;ppv;wc"]⟩,
    ⟨⟨0x1F16A, 0x1F16C⟩, .words ["mc;md;mr"]⟩,
    ⟨⟨0x1F190, 0x1F190⟩, .words ["dj"]⟩,
    ⟨⟨0x1F200, 0x1F202⟩, .words ["ほか;ココ;サ"]⟩,
    ⟨⟨0x1F210, 0x1F23B⟩, .letters ["手字双デ二多解天交映無料前後再新初終生販声吹演投捕一三遊左中右指走打禁空合満有月申割営配"]⟩,
    ⟨⟨0x1F240, 0x1F251⟩, .words ["〔本〕;〔三〕;〔二〕;〔安〕;〔点〕;〔打〕;〔盗〕;〔勝〕;〔敗〕;�;�;�;�;�;�;�;得;可"]⟩,
    ⟨⟨0x1FBF0, 0x1FBF9⟩, .shifted (-129984)⟩,
    ⟨⟨0x2F800, 0x2FA1D⟩, .letters
      ["丽丸乁𠄢你侮侻倂偺備僧像㒞𠘺免兔兤具𠔜㒹內再𠕋冗冤仌冬况𩇟凵刃㓟刻剆割剷㔕勇勉勤勺包匆北卉卑博即卽卿卿卿𠨬灰及叟𠭣叫叱吆咞吸呈周咢哶唐啓啣善善喙喫喳嗂圖嘆圗噑噴切壮",
        "城埴堍型堲報墬𡓤売壷夆多夢奢𡚨𡛪姬娛娧姘婦㛮㛼嬈嬾嬾𡧈寃寘寧寳𡬘寿将当尢㞁屠屮峀岍𡷤嵃𡷦嵮嵫嵼巡巢㠯巽帨帽幩㡢𢆃㡼庰庳庶廊𪎒廾𢌱𢌱舁弢弢㣇𣊸𦇚形彫㣣徚忍志忹悁㤺㤜悔",
        "𢛔惇慈慌慎慌慺憎憲憤憯懞懲懶成戛扝抱拔捐𢬌挽拼捨掃揤𢯱搢揅掩㨮摩摾撝摷㩬敏敬𣀊旣書晉㬙暑㬈㫤冒冕最暜肭䏙朗望朡杞杓𣏃㭉柺枅桒梅𣑭梎栟椔㮝楂榣槪檨𣚣櫛㰘次𣢧歔㱎歲殟殺",
        "殻𣪍𡴋𣫺汎𣲼沿泍汧洖派海流浩浸涅𣴞洴港湮㴳滋滇𣻑淹潮𣽞𣾎濆瀹瀞瀛㶖灊災灷炭𠔥煅𤉣熜𤎫爨爵牐𤘈犀犕𤜵𤠔獺王㺬玥㺸㺸瑇瑜瑱璅瓊㼛甤𤰶甾𤲒異𢆟瘐𤾡𤾸𥁄㿼䀈直𥃳𥃲𥄙𥄳眞真真",
        "睊䀹瞋䁆䂖𥐝硎碌磌䃣𥘦祖𥚚𥛅福秫䄯穀穊穏𥥼𥪧𥪧竮䈂𥮫篆築䈧𥲀糒䊠糨糣紀𥾆絣䌁緇縂繅䌴𦈨𦉇䍙𦋙罺𦌾羕翺者𦓚𦔣聠𦖨聰𣍟䏕育脃䐋脾媵𦞧𦞵𣎓𣎜舁舄辞䑫芑芋芝劳花芳芽苦𦬼若茝",
        "荣莭茣莽菧著荓菊菌菜𦰶𦵫𦳕䔫蓱蓳蔖𧏊蕤𦼬䕝䕡𦾱𧃒䕫虐虜虧虩蚩蚈蜎蛢蝹蜨蝫螆䗗蟡蠁䗹衠衣𧙧裗裞䘵裺㒻𧢮𧥦䚾䛇誠諭變豕𧲨貫賁贛起𧼯𠠄跋趼跰𠣞軔輸𨗒𨗭邔郱鄑𨜮鄛鈸鋗鋘鉼鏹",
        "鐕𨯺開䦕閷𨵷䧦雃嶲霣𩅅𩈚䩮䩶韠𩐊䪲𩒖頋頋頩𩖶飢䬳餩馧駂駾䯎𩬰鬒鱀鳽䳎䳭鵧𪃎䳸𪄅𪈎𪊑麻䵖黹黾鼅鼏鼖鼻𪘀"]⟩]

end LspAdapter.Domain
