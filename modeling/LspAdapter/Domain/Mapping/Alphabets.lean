import LspAdapter.Domain.Mapping.Rule
/-!
# Letters, signs and symbols

The code points up to U+2DFF: capital letters become small ones, and signs made of
letters and digits become these.
-/

namespace LspAdapter.Domain

def alphabetRules : List Rule :=
  [⟨⟨0xA0, 0xAA⟩, .words [" ;¡;¢;£;¤;¥;¦;§; \u0308;©;a"]⟩,
    ⟨⟨0xAF, 0xBE⟩, .words
      [" \u0304;°;±;2;3; \u0301;μ;¶;·; \u0327;1;o;»;1⁄4;1⁄2;3⁄4"]⟩,
    ⟨⟨0xC0, 0xD6⟩, .shifted 32⟩,
    ⟨⟨0xD8, 0xDE⟩, .shifted 32⟩,
    ⟨⟨0x100, 0x12E⟩, .paired⟩,
    ⟨⟨0x130, 0x149⟩, .words
      ["i\u0307;ı;ij;ij;ĵ;ĵ;ķ;ķ;ĸ;ĺ;ĺ;ļ;ļ;ľ;ľ;l·;l·;ł;ł;ń;ń;ņ;ņ;ň;ň;ʼn"]⟩,
    ⟨⟨0x14A, 0x176⟩, .paired⟩,
    ⟨⟨0x178, 0x1BC⟩, .letters
      ["ÿźźżżžžsƀɓƃƃƅƅɔƈƈɖɗƌƌƍǝəɛƒƒɠɣƕɩɨƙƙƚƛɯɲƞɵơơƣƣƥƥʀƨƨʃƪƫƭƭʈưưʊʋƴƴƶƶʒƹƹƺƻƽ"]⟩,
    ⟨⟨0x1C4, 0x1F7⟩, .words
      ["dž;dž;dž;lj;lj;lj;nj;nj;nj;ǎ;ǎ;ǐ;ǐ;ǒ;ǒ;ǔ;ǔ;ǖ;ǖ;ǘ;ǘ;ǚ;ǚ;ǜ;ǜ;ǝ;ǟ;ǟ;ǡ;ǡ;ǣ;ǣ;ǥ;ǥ;ǧ;ǧ;ǩ",
        "ǩ;ǫ;ǫ;ǭ;ǭ;ǯ;ǯ;ǰ;dz;dz;dz;ǵ;ǵ;ƕ;ƿ"]⟩,
    ⟨⟨0x1F8, 0x21E⟩, .paired⟩,
    ⟨⟨0x220, 0x24E⟩, .letters ["ƞȡȣȣȥȥȧȧȩȩȫȫȭȭȯȯȱȱȳȳȴȵȶȷȸȹⱥȼȼƚⱦȿɀɂɂƀʉʌɇɇɉɉɋɋɍɍɏ"]⟩,
    ⟨⟨0x2B0, 0x2B8⟩, .letters ["hɦjrɹɻʁwy"]⟩,
    ⟨⟨0x2D8, 0x2E4⟩, .words
      [" \u0306; \u0307; \u030a; \u0328; \u0303; \u030b;˞;˟;ɣ;l;s;x;ʕ"]⟩,
    ⟨⟨0x340, 0x345⟩, .words ["\u0300;\u0301;\u0342;\u0313;\u0308\u0301;ι"]⟩,
    ⟨⟨0x370, 0x37A⟩, .words ["ͱ;ͱ;ͳ;ͳ;ʹ;͵;ͷ;ͷ;�;�; ι"]⟩,
    ⟨⟨0x37E, 0x37F⟩, .letters [";ϳ"]⟩,
    ⟨⟨0x384, 0x385⟩, .words [" \u0301; \u0308\u0301"]⟩,
    ⟨⟨0x386, 0x3AB⟩, .letters ["ά·έήί�ό�ύώΐαβγδεζηθικλμνξοπρ�στυφχψωϊϋ"]⟩,
    ⟨⟨0x3CF, 0x40F⟩, .letters
      ["ϗβθυύϋφπϗϙϙϛϛϝϝϟϟϡϡϣϣϥϥϧϧϩϩϫϫϭϭϯϯκρσϳθε϶ϸϸσϻϻϼͻͼͽѐёђѓєѕіїјљњћќѝўџ"]⟩,
    ⟨⟨0x410, 0x42F⟩, .shifted 32⟩,
    ⟨⟨0x460, 0x480⟩, .paired⟩,
    ⟨⟨0x48A, 0x4BE⟩, .paired⟩,
    ⟨⟨0x4C0, 0x4CD⟩, .letters ["ӏӂӂӄӄӆӆӈӈӊӊӌӌӎ"]⟩,
    ⟨⟨0x4D0, 0x52E⟩, .paired⟩,
    ⟨⟨0x531, 0x556⟩, .shifted 48⟩,
    ⟨⟨0x587, 0x587⟩, .words ["եւ"]⟩,
    ⟨⟨0x675, 0x678⟩, .words ["اٴ;وٴ;ۇٴ;يٴ"]⟩,
    ⟨⟨0x958, 0x95F⟩, .words
      ["क\u093c;ख\u093c;ग\u093c;ज\u093c;ड\u093c;ढ\u093c;फ\u093c;य\u093c"]⟩,
    ⟨⟨0x9DC, 0x9DF⟩, .words ["ড\u09bc;ঢ\u09bc;�;য\u09bc"]⟩,
    ⟨⟨0xA33, 0xA36⟩, .words ["ਲ\u0a3c;�;ਵ;ਸ\u0a3c"]⟩,
    ⟨⟨0xA59, 0xA5E⟩, .words ["ਖ\u0a3c;ਗ\u0a3c;ਜ\u0a3c;ੜ;�;ਫ\u0a3c"]⟩,
    ⟨⟨0xB5C, 0xB5D⟩, .words ["ଡ\u0b3c;ଢ\u0b3c"]⟩,
    ⟨⟨0xE33, 0xE33⟩, .words ["\u0e4dา"]⟩,
    ⟨⟨0xEB3, 0xEB3⟩, .words ["\u0ecdາ"]⟩,
    ⟨⟨0xEDC, 0xEDD⟩, .words ["ຫນ;ຫມ"]⟩,
    ⟨⟨0xF0C, 0xF0C⟩, .shifted (-1)⟩,
    ⟨⟨0xF43, 0xF81⟩, .words
      ["ག\u0fb7;ང;ཅ;ཆ;ཇ;�;ཉ;ཊ;ཋ;ཌ;ཌ\u0fb7;ཎ;ཏ;ཐ;ད;ད\u0fb7;ན;པ;ཕ;བ;བ\u0fb7;མ;ཙ;ཚ;ཛ;ཛ\u0fb7",
        "ཝ;ཞ;ཟ;འ;ཡ;ར;ལ;ཤ;ཥ;ས;ཧ;ཨ;ཀ\u0fb5;ཪ;ཫ;ཬ;�;�;�;�;\u0f71;\u0f72;\u0f71\u0f72;\u0f74",
        "\u0f71\u0f74;\u0fb2\u0f80;\u0fb2\u0f71\u0f80;\u0fb3\u0f80;\u0fb3\u0f71\u0f80",
        "\u0f7a;\u0f7b;\u0f7c;\u0f7d;\u0f7e;\u0f7f;\u0f80;\u0f71\u0f80"]⟩,
    ⟨⟨0xF93, 0xFB9⟩, .words
      ["\u0f92\u0fb7;\u0f94;\u0f95;\u0f96;\u0f97;�;\u0f99;\u0f9a;\u0f9b;\u0f9c",
        "\u0f9c\u0fb7;\u0f9e;\u0f9f;\u0fa0;\u0fa1;\u0fa1\u0fb7;\u0fa3;\u0fa4;\u0fa5;\u0fa6",
        "\u0fa6\u0fb7;\u0fa8;\u0fa9;\u0faa;\u0fab;\u0fab\u0fb7;\u0fad;\u0fae;\u0faf;\u0fb0",
        "\u0fb1;\u0fb2;\u0fb3;\u0fb4;\u0fb5;\u0fb6;\u0fb7;\u0fb8;\u0f90\u0fb5"]⟩,
    ⟨⟨0x10A0, 0x10C5⟩, .shifted 7264⟩,
    ⟨⟨0x10C7, 0x10CD⟩, .letters ["ⴧ�����ⴭ"]⟩,
    ⟨⟨0x10FC, 0x10FC⟩, .shifted (-32)⟩,
    ⟨⟨0x13F8, 0x13FD⟩, .shifted (-8)⟩,
    ⟨⟨0x1C80, 0x1CBF⟩, .letters
      ["вдосттъѣꙋᲊᲊ�����აბგდევზთიკლმნოპჟრსტუფქღყშჩცძწჭხჯჰჱჲჳჴჵჶჷჸჹჺ��ჽჾჿ"]⟩,
    ⟨⟨0x1D2C, 0x1D78⟩, .letters
      ["aæbᴯdeǝghijklmnᴻoȣprtuwaɐɑᴂbdeəɛɜgᵎkmŋoɔᴖᴗptuᴝɯvᴥβγδφχiruvβγρφχᵫᵬᵭᵮᵯᵰᵱᵲᵳᵴᵵᵶᵷн"]⟩,
    ⟨⟨0x1D9B, 0x1DBF⟩, .letters ["ɒcɕðɜfɟɡɥɨɩɪᵻʝɭᶅʟɱɰɲɳɴɵɸʂʃƫʉʊᴜʋʌzʐʑʒθ"]⟩,
    ⟨⟨0x1E00, 0x1E94⟩, .paired⟩,
    ⟨⟨0x1E9A, 0x1E9E⟩, .words ["aʾ;ṡ;ẜ;ẝ;ß"]⟩,
    ⟨⟨0x1EA0, 0x1EFE⟩, .paired⟩,
    ⟨⟨0x1F08, 0x1F7D⟩, .letters
      ["ἀἁἂἃἄἅἆἇἐἑἒἓἔἕ��ἐἑἒἓἔἕ��ἠἡἢἣἤἥἦἧἠἡἢἣἤἥἦἧἰἱἲἳἴἵἶἷἰἱἲἳἴἵἶἷὀὁὂὃὄὅ��ὀὁὂὃὄὅ��ὐὑὒὓὔὕὖὗ�ὑ",
        "�ὓ�ὕ�ὗὠὡὢὣὤὥὦὧὠὡὢὣὤὥὦὧὰάὲέὴήὶίὸόὺύὼώ"]⟩,
    ⟨⟨0x1F80, 0x200A⟩, .words
      ["ἀι;ἁι;ἂι;ἃι;ἄι;ἅι;ἆι;ἇι;ἀι;ἁι;ἂι;ἃι;ἄι;ἅι;ἆι;ἇι;ἠι;ἡι;ἢι;ἣι;ἤι;ἥι;ἦι;ἧι;ἠι;ἡι;ἢι",
        "ἣι;ἤι;ἥι;ἦι;ἧι;ὠι;ὡι;ὢι;ὣι;ὤι;ὥι;ὦι;ὧι;ὠι;ὡι;ὢι;ὣι;ὤι;ὥι;ὦι;ὧι;ᾰ;ᾱ;ὰι;αι;άι;�;ᾶ;ᾶι",
        "ᾰ;ᾱ;ὰ;ά;αι; \u0313;ι; \u0313; \u0342; \u0308\u0342;ὴι;ηι;ήι;�;ῆ;ῆι;ὲ;έ;ὴ;ή;ηι",
        " \u0313\u0300; \u0313\u0301; \u0313\u0342;ῐ;ῑ;ῒ;ΐ;�;�;ῖ;ῗ;ῐ;ῑ;ὶ;ί;�; \u0314\u0300",
        " \u0314\u0301; \u0314\u0342;ῠ;ῡ;ῢ;ΰ;ῤ;ῥ;ῦ;ῧ;ῠ;ῡ;ὺ;ύ;ῥ; \u0308\u0300; \u0308\u0301",
        "`;�;�;ὼι;ωι;ώι;�;ῶ;ῶι;ὸ;ό;ὼ;ώ;ωι; \u0301; \u0314;�; ; ; ; ; ; ; ; ; ; ; "]⟩,
    ⟨⟨0x2011, 0x205F⟩, .words
      ["‐;‒;–;—;―;‖; \u0333;‘;’;‚;‛;“;”;„;‟;†;‡;•;‣;�;�;�;‧;�;�;�;�;�;�;�; ;‰;‱;′;′′;′′′;‵",
        "‵‵;‵‵‵;‸;‹;›;※;!!;‽; \u0305;‿;⁀;⁁;⁂;⁃;⁄;⁅;⁆;??;?!;!?;⁊;⁋;⁌;⁍;⁎;⁏;⁐;⁑;⁒;⁓;⁔;⁕;⁖",
        "′′′′;⁘;⁙;⁚;⁛;⁜;⁝;⁞; "]⟩,
    ⟨⟨0x2070, 0x209C⟩, .letters ["0i��456789+−=()n0123456789+−=()�aeoxəhklmnpst"]⟩,
    ⟨⟨0x20A8, 0x20A8⟩, .words ["rs"]⟩,
    ⟨⟨0x2100, 0x2189⟩, .words
      ["a/c;a/s;c;°c;℄;c/o;c/u;ɛ;℈;°f;g;h;h;h;h;ħ;i;i;l;l;℔;n;no;℗;℘;p;q;r;r;r;℞;℟;sm;tel",
        "tm;℣;z;℥;ω;℧;z;℩;k;å;b;c;℮;e;e;f;ⅎ;m;o;א;ב;ג;ד;i;℺;fax;π;γ;γ;π;∑;⅁;⅂;⅃;⅄;d;d;e;i;j",
        "⅊;⅋;⅌;⅍;ⅎ;⅏;1⁄7;1⁄9;1⁄10;1⁄3;2⁄3;1⁄5;2⁄5;3⁄5;4⁄5;1⁄6;5⁄6;1⁄8;3⁄8;5⁄8;7⁄8;1⁄;i;ii",
        "iii;iv;v;vi;vii;viii;ix;x;xi;xii;l;c;d;m;i;ii;iii;iv;v;vi;vii;viii;ix;x;xi;xii;l;c",
        "d;m;ↀ;ↁ;ↂ;ↄ;ↄ;ↅ;ↆ;ↇ;ↈ;0⁄3"]⟩,
    ⟨⟨0x222C, 0x2230⟩, .words ["∫∫;∫∫∫;∮;∮∮;∮∮∮"]⟩,
    ⟨⟨0x2329, 0x232A⟩, .shifted 3295⟩,
    ⟨⟨0x2460, 0x24B5⟩, .words
      ["1;2;3;4;5;6;7;8;9;10;11;12;13;14;15;16;17;18;19;20;(1);(2);(3);(4);(5);(6);(7);(8)",
        "(9);(10);(11);(12);(13);(14);(15);(16);(17);(18);(19);(20);�;�;�;�;�;�;�;�;�;�;�;�",
        "�;�;�;�;�;�;�;�;(a);(b);(c);(d);(e);(f);(g);(h);(i);(j);(k);(l);(m);(n);(o);(p)",
        "(q);(r);(s);(t);(u);(v);(w);(x);(y);(z)"]⟩,
    ⟨⟨0x24B6, 0x24EA⟩, .letters ["abcdefghijklmnopqrstuvwxyzabcdefghijklmnopqrstuvwxyz0"]⟩,
    ⟨⟨0x2A0C, 0x2A0C⟩, .words ["∫∫∫∫"]⟩,
    ⟨⟨0x2A74, 0x2A76⟩, .words ["::=;==;==="]⟩,
    ⟨⟨0x2ADC, 0x2ADC⟩, .words ["⫝\u0338"]⟩,
    ⟨⟨0x2C00, 0x2C2F⟩, .shifted 48⟩,
    ⟨⟨0x2C60, 0x2C7F⟩, .letters ["ⱡⱡɫᵽɽⱥⱦⱨⱨⱪⱪⱬⱬɑɱɐɒⱱⱳⱳⱴⱶⱶⱷⱸⱹⱺⱻjvȿɀ"]⟩,
    ⟨⟨0x2C80, 0x2CE2⟩, .paired⟩,
    ⟨⟨0x2CEB, 0x2CF2⟩, .letters ["ⳬⳬⳮⳮ\u2cef\u2cf0\u2cf1ⳳ"]⟩,
    ⟨⟨0x2D6F, 0x2D6F⟩, .shifted (-14)⟩]

end LspAdapter.Domain
