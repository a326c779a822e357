import LspAdapter.Text.Interval
/-!
# Composite characters

Characters that stand for two others, most often a letter and a mark, and the
Korean syllables, which are composed by arithmetic.  The pairs are those of
Unicode 17 that are written as one character wherever they meet.
-/

namespace LspAdapter.Text

/-- Pairs with the same second part: each first part with its composite behind
it. -/
structure CompositeRow where
  second : Char
  firsts : List String

def compositeRows : List CompositeRow :=
  [⟨'\u0300',
      ["AÀEÈIÌNǸOÒUÙWẀYỲaàeèiìnǹoòuùwẁyỳ¨῭ÂẦÊỀÔỒÜǛâầêềôồüǜĂẰăằĒḔēḕŌṐōṑƠỜơờƯỪưừΑᾺΕῈΗῊΙῚΟῸΥῪ",
        "ΩῺαὰεὲηὴιὶοὸυὺωὼϊῒϋῢЕЀИЍеѐиѝἀἂἁἃἈἊἉἋἐἒἑἓἘἚἙἛἠἢἡἣἨἪἩἫἰἲἱἳἸἺἹἻὀὂὁὃὈὊὉὋὐὒὑὓὙὛὠὢὡὣὨὪὩὫ",
        "᾿῍῾῝"]⟩,
    ⟨'\u0301',
      ["AÁCĆEÉGǴIÍKḰLĹMḾNŃOÓPṔRŔSŚUÚWẂYÝZŹaácćeégǵiíkḱlĺmḿnńoópṕrŕsśuúwẃyýzź¨΅ÂẤÅǺÆǼÇḈÊẾÏḮ",
        "ÔỐÕṌØǾÜǗâấåǻæǽçḉêếïḯôốõṍøǿüǘĂẮăắĒḖēḗŌṒōṓŨṸũṹƠỚơớƯỨưứΑΆΕΈΗΉΙΊΟΌΥΎΩΏαάεέηήιίοόυύωώϊΐ",
        "ϋΰϒϓГЃКЌгѓкќἀἄἁἅἈἌἉἍἐἔἑἕἘἜἙἝἠἤἡἥἨἬἩἭἰἴἱἵἸἼἹἽὀὄὁὅὈὌὉὍὐὔὑὕὙὝὠὤὡὥὨὬὩὭ᾿῎῾῞"]⟩,
    ⟨'\u0302', ["AÂCĈEÊGĜHĤIÎJĴOÔSŜUÛWŴYŶZẐaâcĉeêgĝhĥiîjĵoôsŝuûwŵyŷzẑẠẬạậẸỆẹệỌỘọộ"]⟩,
    ⟨'\u0303', ["AÃEẼIĨNÑOÕUŨVṼYỸaãeẽiĩnñoõuũvṽyỹÂẪÊỄÔỖâẫêễôỗĂẴăẵƠỠơỡƯỮưữ"]⟩,
    ⟨'\u0304',
      ["AĀEĒGḠIĪOŌUŪYȲaāeēgḡiīoōuūyȳÄǞÆǢÕȬÖȪÜǕäǟæǣõȭöȫüǖǪǬǫǭȦǠȧǡȮȰȯȱΑᾹΙῙΥῩαᾱιῑυῡИӢУӮиӣуӯḶḸ",
        "ḷḹṚṜṛṝ"]⟩,
    ⟨'\u0306', ["AĂEĔGĞIĬOŎUŬaăeĕgğiĭoŏuŭȨḜȩḝΑᾸΙῘΥῨαᾰιῐυῠАӐЕӖЖӁИЙУЎаӑеӗжӂийуўẠẶạặ"]⟩,
    ⟨'\u0307',
      ["AȦBḂCĊDḊEĖFḞGĠHḢIİMṀNṄOȮPṖRṘSṠTṪWẆXẊYẎZŻaȧbḃcċdḋeėfḟgġhḣmṁnṅoȯpṗrṙsṡtṫwẇxẋyẏzżŚṤśṥ",
        "ŠṦšṧſẛṢṨṣṩ𐗒𐗉𐗚𐗤"]⟩,
    ⟨'\u0308',
      ["AÄEËHḦIÏOÖUÜWẄXẌYŸaäeëhḧiïoötẗuüwẅxẍyÿÕṎõṏŪṺūṻΙΪΥΫιϊυϋϒϔІЇАӒЕЁЖӜЗӞИӤОӦУӰЧӴЫӸЭӬаӓеё",
        "жӝзӟиӥоӧуӱчӵыӹэӭіїӘӚәӛӨӪөӫ"]⟩,
    ⟨'\u0309', ["AẢEẺIỈOỎUỦYỶaảeẻiỉoỏuủyỷÂẨÊỂÔỔâẩêểôổĂẲăẳƠỞơởƯỬưử"]⟩,
    ⟨'\u030a', ["AÅUŮaåuůwẘyẙ"]⟩,
    ⟨'\u030b', ["OŐUŰoőuűУӲуӳ"]⟩,
    ⟨'\u030c',
      ["AǍCČDĎEĚGǦHȞIǏKǨLĽNŇOǑRŘSŠTŤUǓZŽaǎcčdďeěgǧhȟiǐjǰkǩlľnňoǒrřsštťuǔzžÜǙüǚƷǮʒǯ"]⟩,
    ⟨'\u030f', ["AȀEȄIȈOȌRȐUȔaȁeȅiȉoȍrȑuȕѴѶѵѷ"]⟩,
    ⟨'\u0311', ["AȂEȆIȊOȎRȒUȖaȃeȇiȋoȏrȓuȗ"]⟩,
    ⟨'\u0313', ["ΑἈΕἘΗἨΙἸΟὈΩὨαἀεἐηἠιἰοὀρῤυὐωὠ"]⟩,
    ⟨'\u0314', ["ΑἉΕἙΗἩΙἹΟὉΡῬΥὙΩὩαἁεἑηἡιἱοὁρῥυὑωὡ"]⟩,
    ⟨'\u031b', ["OƠUƯoơuư"]⟩,
    ⟨'\u0323',
      ["AẠBḄDḌEẸHḤIỊKḲLḶMṂNṆOỌRṚSṢTṬUỤVṾWẈYỴZẒaạbḅdḍeẹhḥiịkḳlḷmṃnṇoọrṛsṣtṭuụvṿwẉyỵzẓƠỢơợƯỰ",
        "ưự"]⟩,
    ⟨'\u0324', ["UṲuṳ"]⟩,
    ⟨'\u0325', ["AḀaḁ"]⟩,
    ⟨'\u0326', ["SȘTȚsștț"]⟩,
    ⟨'\u0327', ["CÇDḐEȨGĢHḨKĶLĻNŅRŖSŞTŢcçdḑeȩgģhḩkķlļnņrŗsştţ"]⟩,
    ⟨'\u0328', ["AĄEĘIĮOǪUŲaąeęiįoǫuų"]⟩,
    ⟨'\u032d', ["DḒEḘLḼNṊTṰUṶdḓeḙlḽnṋtṱuṷ"]⟩,
    ⟨'\u032e', ["HḪhḫ"]⟩,
    ⟨'\u0330', ["EḚIḬUṴeḛiḭuṵ"]⟩,
    ⟨'\u0331', ["BḆDḎKḴLḺNṈRṞTṮZẔbḇdḏhẖkḵlḻnṉrṟtṯzẕ"]⟩,
    ⟨'\u0338',
      ["<≮=≠>≯←↚→↛↔↮⇐⇍⇒⇏⇔⇎∃∄∈∉∋∌∣∤∥∦∼≁≃≄≅≇≈≉≍≭≡≢≤≰≥≱≲≴≳≵≶≸≷≹≺⊀≻⊁≼⋠≽⋡⊂⊄⊃⊅⊆⊈⊇⊉⊑⋢⊒⋣⊢⊬⊨⊭⊩⊮⊫⊯⊲⋪",
        "⊳⋫⊴⋬⊵⋭"]⟩,
    ⟨'\u0342', ["¨῁αᾶηῆιῖυῦωῶϊῗϋῧἀἆἁἇἈἎἉἏἠἦἡἧἨἮἩἯἰἶἱἷἸἾἹἿὐὖὑὗὙὟὠὦὡὧὨὮὩὯ᾿῏῾῟"]⟩,
    ⟨'\u0345',
      ["ΑᾼΗῌΩῼάᾴήῄαᾳηῃωῳώῴἀᾀἁᾁἂᾂἃᾃἄᾄἅᾅἆᾆἇᾇἈᾈἉᾉἊᾊἋᾋἌᾌἍᾍἎᾎἏᾏἠᾐἡᾑἢᾒἣᾓἤᾔἥᾕἦᾖἧᾗἨᾘἩᾙἪᾚἫᾛἬᾜἭᾝἮᾞἯᾟ",
        "ὠᾠὡᾡὢᾢὣᾣὤᾤὥᾥὦᾦὧᾧὨᾨὩᾩὪᾪὫᾫὬᾬὭᾭὮᾮὯᾯὰᾲὴῂὼῲᾶᾷῆῇῶῷ"]⟩,
    ⟨'\u0653', ["اآ"]⟩,
    ⟨'\u0654', ["اأوؤيئہۂےۓەۀ"]⟩,
    ⟨'\u0655', ["اإ"]⟩,
    ⟨'\u093c', ["नऩरऱळऴ"]⟩,
    ⟨'\u09be', ["\u09c7\u09cb"]⟩,
    ⟨'\u09d7', ["\u09c7\u09cc"]⟩,
    ⟨'\u0b3e', ["\u0b47\u0b4b"]⟩,
    ⟨'\u0b56', ["\u0b47\u0b48"]⟩,
    ⟨'\u0b57', ["\u0b47\u0b4c"]⟩,
    ⟨'\u0bbe', ["\u0bc6\u0bca\u0bc7\u0bcb"]⟩,
    ⟨'\u0bd7', ["ஒஔ\u0bc6\u0bcc"]⟩,
    ⟨'\u0c56', ["\u0c46\u0c48"]⟩,
    ⟨'\u0cc2', ["\u0cc6\u0cca"]⟩,
    ⟨'\u0cd5', ["\u0cbf\u0cc0\u0cc6\u0cc7\u0cca\u0ccb"]⟩,
    ⟨'\u0cd6', ["\u0cc6\u0cc8"]⟩,
    ⟨'\u0d3e', ["\u0d46\u0d4a\u0d47\u0d4b"]⟩,
    ⟨'\u0d57', ["\u0d46\u0d4c"]⟩,
    ⟨'\u0dca', ["\u0dd9\u0dda\u0ddc\u0ddd"]⟩,
    ⟨'\u0dcf', ["\u0dd9\u0ddc"]⟩,
    ⟨'\u0ddf', ["\u0dd9\u0dde"]⟩,
    ⟨'\u102e', ["ဥဦ"]⟩,
    ⟨'\u1b35',
      ["ᬅᬆᬇᬈᬉᬊᬋᬌᬍᬎᬑᬒ\u1b3a\u1b3b\u1b3c\u1b3d\u1b3e\u1b40\u1b3f\u1b41\u1b42\u1b43"]⟩,
    ⟨'\u3099',
      ["うゔかがきぎくぐけげこごさざしじすずせぜそぞただちぢつづてでとどはばひびふぶへべほぼゝゞウヴカガキギクグケゲコゴサザシジスズセゼソゾタダチヂツヅテデトドハバヒビフブ",
        "ヘベホボワヷヰヸヱヹヲヺヽヾ"]⟩,
    ⟨'\u309a', ["はぱひぴふぷへぺほぽハパヒピフプヘペホポ"]⟩,
    ⟨(Char.ofNat 0x110BA), ["𑂙𑂚𑂛𑂜𑂥𑂫"]⟩,
    ⟨(Char.ofNat 0x11127), ["𑄱𑄮𑄲𑄯"]⟩,
    ⟨(Char.ofNat 0x1133E), ["𑍇𑍋"]⟩,
    ⟨(Char.ofNat 0x11357), ["𑍇𑍌"]⟩,
    ⟨(Char.ofNat 0x113B8), ["𑏅𑎸"]⟩,
    ⟨(Char.ofNat 0x113BB), ["𑎄𑎅"]⟩,
    ⟨(Char.ofNat 0x113C2), ["𑎋𑎎𑏅𑏂"]⟩,
    ⟨(Char.ofNat 0x113C9), ["𑎂𑎃𑎐𑎑𑏅𑏉"]⟩,
    ⟨(Char.ofNat 0x114B0), ["𑒹𑒼"]⟩,
    ⟨(Char.ofNat 0x114BA), ["𑒹𑒻"]⟩,
    ⟨(Char.ofNat 0x114BD), ["𑒹𑒾"]⟩,
    ⟨(Char.ofNat 0x115AF), ["𑖸𑖺𑖹𑖻"]⟩,
    ⟨(Char.ofNat 0x11930), ["𑤵𑤸"]⟩,
    ⟨(Char.ofNat 0x1611E), ["𖄡𖄞"]⟩,
    ⟨(Char.ofNat 0x1611F), ["𖄦𖄡𖄦𖄢𖄧𖄩𖄤"]⟩,
    ⟨(Char.ofNat 0x16120), ["𖄨𖄡𖄨"]⟩,
    ⟨(Char.ofNat 0x16129), ["𖄡𖄩"]⟩,
    ⟨'𖵧', ["𖵣𖵪𖵨𖵩𖵪"]⟩]

structure Composite where
  first : Char
  second : Char
  whole : Char
  deriving DecidableEq, Repr

/-- The composites of a row, given its first parts and composites in turns. -/
def compositesOf (second : Char) : List Char → List Composite
  | first :: whole :: rest => ⟨first, second, whole⟩ :: compositesOf second rest
  | _ => []

/-- All composites apart from the Korean ones. -/
def composites : List Composite :=
  compositeRows.flatMap fun row => compositesOf row.second (row.firsts.flatMap String.toList)

/-! ## Korean syllables -/

namespace Hangul

def syllables : Interval :=
  ⟨0xAC00, 0xD7A3⟩

def leading : Interval :=
  ⟨0x1100, 0x1112⟩

def vowels : Interval :=
  ⟨0x1161, 0x1175⟩

def trailing : Interval :=
  ⟨0x11A8, 0x11C2⟩

/-- How many syllables share a leading consonant and a vowel. -/
def endings : Nat :=
  28

/-- The parts of a syllable: a syllable without trailing consonant and that
consonant, or a leading consonant and a vowel. -/
def parts? (n : Nat) : Option (Nat × Nat) :=
  if syllables.holds n then
    let index := n - syllables.first
    let ending := index % endings
    if ending = 0 then
      let index := index / endings
      some (leading.first + index / 21, vowels.first + index % 21)
    else some (n - ending, trailing.first + (ending - 1))
  else none

def whole? (a b : Nat) : Option Nat :=
  if leading.holds a && vowels.holds b then
    some (syllables.first + ((a - leading.first) * 21 + (b - vowels.first)) * endings)
  else if syllables.holds a && (a - syllables.first) % endings = 0 && trailing.holds b then
    some (a + (b - trailing.first) + 1)
  else none

end Hangul

/-! ## Parts and wholes -/

/-- The two characters that a composite stands for. -/
def parts? (c : Char) : Option (Char × Char) :=
  match Hangul.parts? c.toNat with
  | some (a, b) => some (Char.ofNat a, Char.ofNat b)
  | none => (composites.find? (·.whole = c)).map fun p => (p.first, p.second)

def whole? (a b : Char) : Option Char :=
  match Hangul.whole? a.toNat b.toNat with
  | some n => some (Char.ofNat n)
  | none => (composites.find? fun p => p.first = a && p.second = b).map (·.whole)

end LspAdapter.Text
