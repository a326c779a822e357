import LspAdapter.Domain.Mapping.Rule
/-!
# Presentation forms

The code points from U+FB00 to U+FFFF: ligatures, the shapes of Arabic letters, and
wide and narrow forms.
-/

namespace LspAdapter.Domain

def formRules : List Rule :=
  [⟨⟨0xFB00, 0xFB4F⟩, .words
      ["ff;fi;fl;ffi;ffl;st;st;�;�;�;�;�;�;�;�;�;�;�;�;մն;մե;մի;վն;մխ;�;�;�;�;�;י\u05b4",
        "\ufb1e;ײ\u05b7;ע;א;ד;ה;כ;ל;ם;ר;ת;+;ש\u05c1;ש\u05c2;ש\u05bc\u05c1;ש\u05bc\u05c2",
        "א\u05b7;א\u05b8;א\u05bc;ב\u05bc;ג\u05bc;ד\u05bc;ה\u05bc;ו\u05bc;ז\u05bc;�;ט\u05bc",
        "י\u05bc;ך\u05bc;כ\u05bc;ל\u05bc;�;מ\u05bc;�;נ\u05bc;ס\u05bc;�;ף\u05bc;פ\u05bc;�",
        "צ\u05bc;ק\u05bc;ר\u05bc;ש\u05bc;ת\u05bc;ו\u05b9;ב\u05bf;כ\u05bf;פ\u05bf;אל"]⟩,
    ⟨⟨0xFB50, 0xFBB1⟩, .letters
      ["ٱٱٻٻٻٻپپپپڀڀڀڀٺٺٺٺٿٿٿٿٹٹٹٹڤڤڤڤڦڦڦڦڄڄڄڄڃڃڃڃچچچچڇڇڇڇڍڍڌڌڎڎڈڈژژڑڑککککگگگگڳڳڳڳڱڱڱڱںںڻڻ",
        "ڻڻۀۀہہہہھھھھےےۓۓ"]⟩,
    ⟨⟨0xFBD3, 0xFD3D⟩, .words
      ["ڭ;ڭ;ڭ;ڭ;ۇ;ۇ;ۆ;ۆ;ۈ;ۈ;ۇٴ;ۋ;ۋ;ۅ;ۅ;ۉ;ۉ;ې;ې;ې;ې;ى;ى;ئا;ئا;ئە;ئە;ئو;ئو;ئۇ;ئۇ;ئۆ;ئۆ;ئۈ;ئۈ",
        "ئې;ئې;ئې;ئى;ئى;ئى;ی;ی;ی;ی;ئج;ئح;ئم;ئى;ئي;بج;بح;بخ;بم;بى;بي;تج;تح;تخ;تم;تى;تي;ثج;ثم",
        "ثى;ثي;جح;جم;حج;حم;خج;خح;خم;سج;سح;سخ;سم;صح;صم;ضج;ضح;ضخ;ضم;طح;طم;ظم;عج;عم;غج;غم;فج",
        "فح;فخ;فم;فى;في;قح;قم;قى;قي;كا;كج;كح;كخ;كل;كم;كى;كي;لج;لح;لخ;لم;لى;لي;مج;مح;مخ;مم",
        "مى;مي;نج;نح;نخ;نم;نى;ني;هج;هم;هى;هي;يج;يح;يخ;يم;يى;يي;ذ\u0670;ر\u0670;ى\u0670",
        " \u064c\u0651; \u064d\u0651; \u064e\u0651; \u064f\u0651; \u0650\u0651",
        " \u0651\u0670;ئر;ئز;ئم;ئن;ئى;ئي;بر;بز;بم;بن;بى;بي;تر;تز;تم;تن;تى;تي;ثر;ثز;ثم;ثن;ثى",
        "ثي;فى;في;قى;قي;كا;كل;كم;كى;كي;لم;لى;لي;ما;مم;نر;نز;نم;نن;نى;ني;ى\u0670;ير;يز;يم;ين",
        "يى;يي;ئج;ئح;ئخ;ئم;ئه;بج;بح;بخ;بم;به;تج;تح;تخ;تم;ته;ثم;جح;جم;حج;حم;خج;خم;سج;سح;سخ",
        "سم;صح;صخ;صم;ضج;ضح;ضخ;ضم;طح;ظم;عج;عم;غج;غم;فج;فح;فخ;فم;قح;قم;كج;كح;كخ;كل;كم;لج;لح",
        "لخ;لم;له;مج;مح;مخ;مم;نج;نح;نخ;نم;نه;هج;هم;ه\u0670;يج;يح;يخ;يم;يه;ئم;ئه;بم;به;تم;ته",
        "ثم;ثه;سم;سه;شم;شه;كل;كم;لم;نم;نه;يم;يه;ـ\u064e\u0651;ـ\u064f\u0651;ـ\u0650\u0651",
        "طى;طي;عى;عي;غى;غي;سى;سي;شى;شي;حى;حي;جى;جي;خى;خي;صى;صي;ضى;ضي;شج;شح;شخ;شم;شر;سر;صر",
        "ضر;طى;طي;عى;عي;غى;غي;سى;سي;شى;شي;حى;حي;جى;جي;خى;خي;صى;صي;ضى;ضي;شج;شح;شخ;شم;شر;سر",
        "صر;ضر;شج;شح;شخ;شم;سه;شه;طم;سج;سح;سخ;شج;شح;شخ;طم;ظم;ا\u064b;ا\u064b"]⟩,
    ⟨⟨0xFD50, 0xFDC7⟩, .words
      ["تجم;تحج;تحج;تحم;تخم;تمج;تمح;تمخ;جمح;جمح;حمي;حمى;سحج;سجح;سجى;سمح;سمح;سمج;سمم;سمم",
        "صحح;صحح;صمم;شحم;شحم;شجي;شمخ;شمخ;شمم;شمم;ضحى;ضخم;ضخم;طمح;طمح;طمم;طمي;عجم;عمم;عمم",
        "عمى;غمم;غمي;غمى;فخم;فخم;قمح;قمم;لحم;لحي;لحى;لجج;لجج;لخم;لخم;لمح;لمح;محج;محم;محي",
        "مجح;مجم;مخج;مخم;﶐;﶑;مجخ;همج;همم;نحم;نحى;نجم;نجم;نجى;نمي;نمى;يمم;يمم;بخي;تجي;تجى",
        "تخي;تخى;تمي;تمى;جمي;جحى;جمى;سخى;صحي;شحي;ضحي;لجي;لمي;يحي;يجي;يمي;ممي;قمي;نحي;قمح",
        "لحم;عمي;كمي;نجح;مخي;لجم;كمم;لجم;نجح;جحي;حجي;مجي;فمي;بحي;كمم;عجم;صمم;سخي;نجي"]⟩,
    ⟨⟨0xFDF0, 0xFDFC⟩, .words
      ["صلے;قلے;الله;اكبر;محمد;صلعم;رسول;عليه;وسلم;صلى;صلى الله عليه وسلم;جل جلاله;ریال"]⟩,
    ⟨⟨0xFE10, 0xFE44⟩, .letters
      [",、�:;!?〖〗�������\ufe20\ufe21\ufe22\ufe23\ufe24\ufe25\ufe26\ufe27\ufe28\ufe29\ufe2a",
        "\ufe2b\ufe2c\ufe2d\ufe2e\ufe2f�—–__()\x7b\x7d〔〕【】《》〈〉「」『』"]⟩,
    ⟨⟨0xFE47, 0xFE4C⟩, .words ["[;]; \u0305; \u0305; \u0305; \u0305"]⟩,
    ⟨⟨0xFE4D, 0xFE6B⟩, .letters ["___,、��;:?!—()\x7b\x7d〔〕#&*+-<>=�\\$%@"]⟩,
    ⟨⟨0xFE70, 0xFE7F⟩, .words
      [" \u064b;ـ\u064b; \u064c;ﹳ; \u064d;�; \u064e;ـ\u064e; \u064f;ـ\u064f; \u0650",
        "ـ\u0650; \u0651;ـ\u0651; \u0652;ـ\u0652"]⟩,
    ⟨⟨0xFE80, 0xFEF4⟩, .letters
      ["ءآآأأؤؤإإئئئئااببببةةتتتتثثثثججججححححخخخخددذذررززسسسسششششصصصصضضضضططططظظظظععععغغغغف",
        "فففققققككككللللممممننننههههووىىيييي"]⟩,
    ⟨⟨0xFEF5, 0xFEFC⟩, .words ["لآ;لآ;لأ;لأ;لإ;لإ;لا;لا"]⟩,
    ⟨⟨0xFF01, 0xFF20⟩, .shifted (-65248)⟩,
    ⟨⟨0xFF21, 0xFF3A⟩, .shifted (-65216)⟩,
    ⟨⟨0xFF3B, 0xFF5E⟩, .shifted (-65248)⟩,
    ⟨⟨0xFF5F, 0xFF9F⟩, .letters
      ["⦅⦆.「」、・ヲァィゥェォャュョッーアイウエオカキクケコサシスセソタチツテトナニヌネノハヒフヘホマミムメモヤユヨラリルレロワン\u3099\u309a"]⟩,
    ⟨⟨0xFFA1, 0xFFDC⟩, .letters
      ["ᄀᄁᆪᄂᆬᆭᄃᄄᄅᆰᆱᆲᆳᆴᆵᄚᄆᄇᄈᄡᄉᄊᄋᄌᄍᄎᄏᄐᄑᄒ���ᅡᅢᅣᅤᅥᅦ��ᅧᅨᅩᅪᅫᅬ��ᅭᅮᅯᅰᅱᅲ��ᅳᅴᅵ"]⟩,
    ⟨⟨0xFFE0, 0xFFFD⟩, .words
      ["¢;£;¬; \u0304;¦;¥;₩;�;│;←;↑;→;↓;■;○;�;�;�;�;�;�;�;�;�;�;�;�;�;�;�"]⟩]

end LspAdapter.Domain
