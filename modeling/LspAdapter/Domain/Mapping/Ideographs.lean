import LspAdapter.Domain.Mapping.Rule
/-!
# Ideographs and syllables

The code points from U+2E00 to U+FAFF: radicals, enclosed and squared characters,
and ideographs that are written in two places.
-/

namespace LspAdapter.Domain

def ideographRules : List Rule :=
  [⟨⟨0x2E9F, 0x2E9F⟩, .shifted 15662⟩,
    ⟨⟨0x2EF3, 0x3002⟩, .letters
      ["龟������������一丨丶丿乙亅二亠人儿入八冂冖冫几凵刀力勹匕匚匸十卜卩厂厶又口囗土士夂夊夕大女子宀寸小尢尸屮山巛工己巾干幺广廴廾弋弓彐彡彳心戈戶手支攴文斗斤",
        "方无日曰月木欠止歹殳毋比毛氏气水火爪父爻爿片牙牛犬玄玉瓜瓦甘生用田疋疒癶白皮皿目矛矢石示禸禾穴立竹米糸缶网羊羽老而耒耳聿肉臣自至臼舌舛舟艮色艸虍虫血行衣襾見角言谷豆",
        "豕豸貝赤走足身車辛辰辵邑酉釆里金長門阜隶隹雨靑非面革韋韭音頁風飛食首香馬骨高髟鬥鬯鬲鬼魚鳥鹵鹿麥麻黃黍黑黹黽鼎鼓鼠鼻齊齒龍龜龠�������������������",
        "����������������������� 、."]⟩,
    ⟨⟨0x3036, 0x303A⟩, .letters ["〒〷十卄卅"]⟩,
    ⟨⟨0x309B, 0x309F⟩, .words [" \u3099; \u309a;ゝ;ゞ;より"]⟩,
    ⟨⟨0x30FF, 0x30FF⟩, .words ["コト"]⟩,
    ⟨⟨0x3131, 0x3163⟩, .letters ["ᄀᄁᆪᄂᆬᆭᄃᄄᄅᆰᆱᆲᆳᆴᆵᄚᄆᄇᄈᄡᄉᄊᄋᄌᄍᄎᄏᄐᄑ하ᅢᅣᅤᅥᅦᅧᅨᅩᅪᅫᅬᅭᅮᅯᅰᅱᅲᅳᅴᅵ"]⟩,
    ⟨⟨0x3165, 0x319F⟩, .letters
      ["ᄔᄕᇇᇈᇌᇎᇓᇗᇙᄜᇝᇟᄝᄞᄠᄢᄣᄧᄩᄫᄬᄭᄮᄯᄲᄶᅀᅇᅌᇱᇲᅗᅘᅙᆄᆅᆈᆑᆒᆔᆞᆡ�㆐㆑一二三四上中下甲乙丙丁天地人"]⟩,
    ⟨⟨0x31EF, 0x31EF⟩, .letters ["�"]⟩,
    ⟨⟨0x3200, 0x33FF⟩, .words
      ["(ᄀ);(ᄂ);(ᄃ);(ᄅ);(ᄆ);(ᄇ);(ᄉ);(ᄋ);(ᄌ);(ᄎ);(ᄏ);(ᄐ);(ᄑ);(ᄒ);(가);(나);(다);(라);(마);(바)",
        "(사);(아);(자);(차);(카);(타);(파);(하);(주);(오전);(오후);�;(一);(二);(三);(四);(五);(六);(七);(八)",
        "(九);(十);(月);(火);(水);(木);(金);(土);(日);(株);(有);(社);(名);(特);(財);(祝);(労);(代);(呼);(学)",
        "(監);(企);(資);(協);(祭);(休);(自);(至);問;幼;文;箏;㉈;㉉;㉊;㉋;㉌;㉍;㉎;㉏;pte;21;22;23;24;25;26;27",
        "28;29;30;31;32;33;34;35;ᄀ;ᄂ;ᄃ;ᄅ;ᄆ;ᄇ;ᄉ;ᄋ;ᄌ;ᄎ;ᄏ;ᄐ;ᄑ;ᄒ;가;나;다;라;마;바;사;아;자;차;카;타;파;하;참고",
        "주의;우;㉿;一;二;三;四;五;六;七;八;九;十;月;火;水;木;金;土;日;株;有;社;名;特;財;祝;労;秘;男;女;適;優;印;注;項;休;写;正;上;中",
        "下;左;右;医;宗;学;監;企;資;協;夜;36;37;38;39;40;41;42;43;44;45;46;47;48;49;50;1月;2月;3月;4月;5月",
        "6月;7月;8月;9月;10月;11月;12月;hg;erg;ev;ltd;ア;イ;ウ;エ;オ;カ;キ;ク;ケ;コ;サ;シ;ス;セ;ソ;タ;チ;ツ;テ;ト;ナ;ニ",
        "ヌ;ネ;ノ;ハ;ヒ;フ;ヘ;ホ;マ;ミ;ム;メ;モ;ヤ;ユ;ヨ;ラ;リ;ル;レ;ロ;ワ;ヰ;ヱ;ヲ;令和;アパート;アルファ;アンペア;アール;イニング;インチ",
        "ウォン;エスクード;エーカー;オンス;オーム;カイリ;カラット;カロリー;ガロン;ガンマ;ギガ;ギニー;キュリー;ギルダー;キロ;キログラム;キロメートル",
        "キロワット;グラム;グラムトン;クルゼイロ;クローネ;ケース;コルナ;コーポ;サイクル;サンチーム;シリング;センチ;セント;ダース;デシ;ドル;トン;ナノ;ノット",
        "ハイツ;パーセント;パーツ;バーレル;ピアストル;ピクル;ピコ;ビル;ファラッド;フィート;ブッシェル;フラン;ヘクタール;ペソ;ペニヒ;ヘルツ;ペンス;ページ",
        "ベータ;ポイント;ボルト;ホン;ポンド;ホール;ホーン;マイクロ;マイル;マッハ;マルク;マンション;ミクロン;ミリ;ミリバール;メガ;メガトン;メートル;ヤード",
        "ヤール;ユアン;リットル;リラ;ルピー;ルーブル;レム;レントゲン;ワット;0点;1点;2点;3点;4点;5点;6点;7点;8点;9点;10点;11点;12点",
        "13点;14点;15点;16点;17点;18点;19点;20点;21点;22点;23点;24点;hpa;da;au;bar;ov;pc;dm;dm2;dm3;iu",
        "平成;昭和;大正;明治;株式会社;pa;na;μa;ma;ka;kb;mb;gb;cal;kcal;pf;nf;μf;μg;mg;kg;hz;khz;mhz;ghz",
        "thz;μl;ml;dl;kl;fm;nm;μm;mm;cm;km;mm2;cm2;m2;km2;mm3;cm3;m3;km3;m∕s;m∕s2;pa;kpa",
        "mpa;gpa;rad;rad∕s;rad∕s2;ps;ns;μs;ms;pv;nv;μv;mv;kv;mv;pw;nw;μw;mw;kw;mw;kω;mω;�",
        "bq;cc;cd;c∕kg;�;db;gy;ha;hp;in;kk;km;kt;lm;ln;log;lx;mb;mil;mol;ph;�;ppm;pr;sr;sv",
        "wb;v∕m;a∕m;1日;2日;3日;4日;5日;6日;7日;8日;9日;10日;11日;12日;13日;14日;15日;16日;17日;18日;19日;20日",
        "21日;22日;23日;24日;25日;26日;27日;28日;29日;30日;31日;gal"]⟩,
    ⟨⟨0xA640, 0xA66C⟩, .paired⟩,
    ⟨⟨0xA680, 0xA69D⟩, .letters ["ꚁꚁꚃꚃꚅꚅꚇꚇꚉꚉꚋꚋꚍꚍꚏꚏꚑꚑꚓꚓꚕꚕꚗꚗꚙꚙꚛꚛъь"]⟩,
    ⟨⟨0xA722, 0xA72E⟩, .paired⟩,
    ⟨⟨0xA732, 0xA76E⟩, .paired⟩,
    ⟨⟨0xA770, 0xA7F9⟩, .letters
      ["ꝯꝱꝲꝳꝴꝵꝶꝷꝸꝺꝺꝼꝼᵹꝿꝿꞁꞁꞃꞃꞅꞅꞇꞇꞈ꞉꞊ꞌꞌɥꞎꞏꞑꞑꞓꞓꞔꞕꞗꞗꞙꞙꞛꞛꞝꞝꞟꞟꞡꞡꞣꞣꞥꞥꞧꞧꞩꞩɦɜɡɬɪꞯʞʇʝꭓꞵꞵꞷꞷꞹꞹꞻꞻꞽꞽꞿꞿꟁꟁ",
        "ꟃꟃꞔʂᶎꟈꟈꟊꟊɤꟍꟍ꟏꟏ꟑꟑꟓꟓꟕꟕꟗꟗꟙꟙꟛꟛƛ��������������������scfqꟶꟶꟷħœ"]⟩,
    ⟨⟨0xAB5C, 0xAB69⟩, .letters ["ꜧꬷɫꭒꭠꭡꭢꭣꭤꭥꭦꭧꭨʍ"]⟩,
    ⟨⟨0xAB70, 0xABBF⟩, .shifted (-38864)⟩,
    ⟨⟨0xF900, 0xFAD9⟩, .letters
      ["豈更車賈滑串句龜龜契金喇奈懶癩羅蘿螺裸邏樂洛烙珞落酪駱亂卵欄爛蘭鸞嵐濫藍襤拉臘蠟廊朗浪狼郎來冷勞擄櫓爐盧老蘆虜路露魯鷺碌祿綠菉錄鹿論壟弄籠聾牢磊賂雷壘屢樓淚漏累縷陋",
        "勒肋凜凌稜綾菱陵讀拏樂諾丹寧怒率異北磻便復不泌數索參塞省葉說殺辰沈拾若掠略亮兩凉梁糧良諒量勵呂女廬旅濾礪閭驪麗黎力曆歷轢年憐戀撚漣煉璉秊練聯輦蓮連鍊列劣咽烈裂說廉念",
        "捻殮簾獵令囹寧嶺怜玲瑩羚聆鈴零靈領例禮醴隸惡了僚寮尿料樂燎療蓼遼龍暈阮劉杻柳流溜琉留硫紐類六戮陸倫崙淪輪律慄栗率隆利吏履易李梨泥理痢罹裏裡里離匿溺吝燐璘藺隣鱗麟林淋",
        "臨立笠粒狀炙識什茶刺切度拓糖宅洞暴輻行降見廓兀嗀﨎﨏塚﨑晴﨓﨔凞猪益礼神祥福靖精羽﨟蘒﨡諸﨣﨤逸都﨧﨨﨩飯飼館鶴郞隷侮僧免勉勤卑喝嘆器塀墨層屮悔慨憎懲敏既暑梅海渚漢",
        "煮爫琢碑社祉祈祐祖祝禍禎穀突節練縉繁署者臭艹艹著褐視謁謹賓贈辶逸難響頻恵𤋮舘��並况全侀充冀勇勺喝啕喙嗢塚墳奄奔婢嬨廒廙彩徭惘慎愈憎慠懲戴揄搜摒敖晴朗望杖歹殺流滛滋",
        "漢瀞煮瞧爵犯猪瑱甆画瘝瘟益盛直睊着磌窱節类絛練缾者荒華蝹襁覆視調諸請謁諾諭謹變贈輸遲醙鉶陼難靖韛響頋頻鬒龜𢡊𢡄𣏕㮝䀘䀹𥉉𥳐𧻓齃龎"]⟩]

end LspAdapter.Domain
