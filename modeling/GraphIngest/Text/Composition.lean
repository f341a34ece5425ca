import GraphIngest.Text.CombiningClass

/-!
# Composed text

A letter with marks can be written as one character, or as several. In its composed form a text has
as few characters as possible, and its marks are in the order of their classes.

## Main definitions

* `Composition.decompose`: the characters that a character consists of.
* `Composition.compose`: a text in its composed form.
-/

namespace GraphIngest

/-- A character that stands for two others. -/
structure Composite where
  whole : Char
  first : Char
  second : Char
  deriving DecidableEq, Repr, Inhabited

namespace Composition

/-! ## Composites -/

/-- For each second character the composites with it, each before its first character. What a first
character consists of is listed later. -/
def groups : List (Nat × String) := [
  (0x345, "ᾂἂᾃἃᾄἄᾅἅᾆἆᾇἇᾊἊᾋἋᾌἌᾍἍᾎἎᾏἏᾒἢᾓἣᾔἤᾕἥᾖἦᾗἧᾚἪᾛἫᾜἬᾝἭᾞἮᾟἯᾢὢᾣὣᾤὤᾥὥᾦὦᾧὧᾪὪᾫὫᾬὬᾭὭᾮὮᾯὯ"),
  (0x300, "ǛÜǜüḔĒḕēṐŌṑōẦÂầâẰĂằăỀÊềêỒÔồôỜƠờơỪƯừưἂἀἃἁἊἈἋἉἒἐἓἑἚἘἛἙἢἠἣἡἪἨἫἩἲἰἳἱἺἸἻἹὂὀὃὁὊὈὋὉὒὐὓὑ"),
  (0x300, "ὛὙὢὠὣὡὪὨὫὩῒϊῢϋ"),
  (0x301, "ǗÜǘüǺÅǻåΐϊΰϋḈÇḉçḖĒḗēḮÏḯïṌÕṍõṒŌṓōṸŨṹũẤÂấâẮĂắăẾÊếêỐÔốôỚƠớơỨƯứưἄἀἅἁἌἈἍἉἔἐἕἑἜἘἝἙἤἠἥἡ"),
  (0x301, "ἬἨἭἩἴἰἵἱἼἸἽἹὄὀὅὁὌὈὍὉὔὐὕὑὝὙὤὠὥὡὬὨὭὩ"), (0x302, "ẬẠậạỆẸệẹỘỌộọ"),
  (0x303, "ẪÂẫâẴĂẵăỄÊễêỖÔỗôỠƠỡơỮƯữư"), (0x304, "ǕÜǖüǞÄǟäǠȦǡȧǬǪǭǫȪÖȫöȬÕȭõȰȮȱȯḸḶḹḷṜṚṝṛ"),
  (0x306, "ḜȨḝȩẶẠặạ"), (0x307, "ṤŚṥśṦŠṧšṨṢṩṣ"), (0x308, "ṎÕṏõṺŪṻū"),
  (0x309, "ẨÂẩâẲĂẳăỂÊểêỔÔổôỞƠởơỬƯửư"), (0x30C, "ǙÜǚü"), (0x323, "ỢƠợơỰƯựư"),
  (0x342, "ἆἀἇἁἎἈἏἉἦἠἧἡἮἨἯἩἶἰἷἱἾἸἿἹὖὐὗὑὟὙὦὠὧὡὮὨὯὩῗϊῧϋ"),
  (0x345, "ᾀἀᾁἁᾈἈᾉἉᾐἠᾑἡᾘἨᾙἩᾠὠᾡὡᾨὨᾩὩᾲὰᾴάᾷᾶῂὴῄήῇῆῲὼῴώῷῶ"), (0xCD5, "\u0ccb\u0cca"),
  (0xDCA, "\u0ddd\u0ddc"), (0x1611F, "𖄦𖄡𖄧𖄢"), (0x16120, "𖄨𖄡"), (0x16D67, "𖵪𖵩"),
  (0x300, "ÀAÈEÌIÒOÙUàaèeìiòoùuǸNǹnЀЕЍИѐеѝиẀWẁwỲYỳyὰαὲεὴηὶιὸοὺυὼωᾺΑῈΕῊΗ῍᾿ῚΙ῝῾ῪΥ῭¨ῸΟῺΩ"),
  (0x301, "ÁAÉEÍIÓOÚUÝYáaéeíióoúuýyĆCćcĹLĺlŃNńnŔRŕrŚSśsŹZźzǴGǵgǼÆǽæǾØǿø΅¨ΆΑΈΕΉΗΊΙΌΟΎΥΏΩάαέε"),
  (0x301, "ήηίιόούυώωϓϒЃГЌКѓгќкḰKḱkḾMḿmṔPṕpẂWẃw῎᾿῞῾"),
  (0x302, "ÂAÊEÎIÔOÛUâaêeîiôoûuĈCĉcĜGĝgĤHĥhĴJĵjŜSŝsŴWŵwŶYŷyẐZẑz"),
  (0x303, "ÃAÑNÕOãañnõoĨIĩiŨUũuṼVṽvẼEẽeỸYỹy"),
  (0x304, "ĀAāaĒEēeĪIīiŌOōoŪUūuǢÆǣæȲYȳyӢИӣиӮУӯуḠGḡgᾱαᾹΑῑιῙΙῡυῩΥ"),
  (0x306, "ĂAăaĔEĕeĞGğgĬIĭiŎOŏoŬUŭuЎУЙИйиўуӁЖӂжӐАӑаӖЕӗеᾰαᾸΑῐιῘΙῠυῨΥ"),
  (0x307, "ĊCċcĖEėeĠGġgİIŻZżzȦAȧaȮOȯoḂBḃbḊDḋdḞFḟfḢHḣhṀMṁmṄNṅnṖPṗpṘRṙrṠSṡsṪTṫtẆWẇwẊXẋxẎYẏyẛſ"),
  (0x307, "𐗉𐗒𐗤𐗚"),
  (0x308, "ÄAËEÏIÖOÜUäaëeïiöoüuÿyŸYΪΙΫΥϊιϋυϔϒЁЕЇІёеїіӒАӓаӚӘӛәӜЖӝжӞЗӟзӤИӥиӦОӧоӪӨӫөӬЭӭэӰУӱуӴЧ"),
  (0x308, "ӵчӸЫӹыḦHḧhẄWẅwẌXẍxẗt"), (0x309, "ẢAảaẺEẻeỈIỉiỎOỏoỦUủuỶYỷy"), (0x30A, "ÅAåaŮUůuẘwẙy"),
  (0x30B, "ŐOőoŰUűuӲУӳу"),
  (0x30C, "ČCčcĎDďdĚEěeĽLľlŇNňnŘRřrŠSšsŤTťtŽZžzǍAǎaǏIǐiǑOǒoǓUǔuǦGǧgǨKǩkǮƷǯʒǰjȞHȟh"),
  (0x30F, "ȀAȁaȄEȅeȈIȉiȌOȍoȐRȑrȔUȕuѶѴѷѵ"), (0x311, "ȂAȃaȆEȇeȊIȋiȎOȏoȒRȓrȖUȗu"),
  (0x313, "ἀαἈΑἐεἘΕἠηἨΗἰιἸΙὀοὈΟὐυὠωὨΩῤρ"), (0x314, "ἁαἉΑἑεἙΕἡηἩΗἱιἹΙὁοὉΟὑυὙΥὡωὩΩῥρῬΡ"),
  (0x31B, "ƠOơoƯUưu"),
  (0x323, "ḄBḅbḌDḍdḤHḥhḲKḳkḶLḷlṂMṃmṆNṇnṚRṛrṢSṣsṬTṭtṾVṿvẈWẉwẒZẓzẠAạaẸEẹeỊIịiỌOọoỤUụuỴYỵy"),
  (0x324, "ṲUṳu"), (0x325, "ḀAḁa"), (0x326, "ȘSșsȚTțt"),
  (0x327, "ÇCçcĢGģgĶKķkĻLļlŅNņnŖRŗrŞSşsŢTţtȨEȩeḐDḑdḨHḩh"), (0x328, "ĄAąaĘEęeĮIįiŲUųuǪOǫo"),
  (0x32D, "ḒDḓdḘEḙeḼLḽlṊNṋnṰTṱtṶUṷu"), (0x32E, "ḪHḫh"), (0x330, "ḚEḛeḬIḭiṴUṵu"),
  (0x331, "ḆBḇbḎDḏdḴKḵkḺLḻlṈNṉnṞRṟrṮTṯtẔZẕzẖh"),
  (0x338, "↚←↛→↮↔⇍⇐⇎⇔⇏⇒∄∃∉∈∌∋∤∣∦∥≁∼≄≃≇≅≉≈≠=≢≡≭≍≮<≯>≰≤≱≥≴≲≵≳≸≶≹≷⊀≺⊁≻⊄⊂⊅⊃⊈⊆⊉⊇⊬⊢⊭⊨⊮⊩⊯⊫⋠≼⋡≽⋢⊑⋣⊒"),
  (0x338, "⋪⊲⋫⊳⋬⊴⋭⊵"), (0x342, "ᾶα῁¨ῆη῏᾿ῖι῟῾ῦυῶω"), (0x345, "ᾳαᾼΑῃηῌΗῳωῼΩ"),
  (0x653, "\u0622\u0627"),
  (0x654, "\u0623\u0627\u0624\u0648\u0626\u064a\u06c0\u06d5\u06c2\u06c1\u06d3\u06d2"),
  (0x655, "\u0625\u0627"), (0x93C, "ऩनऱरऴळ"), (0x9BE, "\u09cb\u09c7"), (0x9D7, "\u09cc\u09c7"),
  (0xB3E, "\u0b4b\u0b47"), (0xB56, "\u0b48\u0b47"), (0xB57, "\u0b4c\u0b47"),
  (0xBBE, "\u0bca\u0bc6\u0bcb\u0bc7"), (0xBD7, "ஔஒ\u0bcc\u0bc6"), (0xC56, "\u0c48\u0c46"),
  (0xCC2, "\u0cca\u0cc6"), (0xCD5, "\u0cc0\u0cbf\u0cc7\u0cc6"), (0xCD6, "\u0cc8\u0cc6"),
  (0xD3E, "\u0d4a\u0d46\u0d4b\u0d47"), (0xD57, "\u0d4c\u0d46"), (0xDCA, "\u0dda\u0dd9"),
  (0xDCF, "\u0ddc\u0dd9"), (0xDDF, "\u0dde\u0dd9"), (0x102E, "ဦဥ"),
  (0x1B35, "ᬆᬅᬈᬇᬊᬉᬌᬋᬎᬍᬒᬑ\u1b3b\u1b3a\u1b3d\u1b3c\u1b40\u1b3e\u1b41\u1b3f\u1b43\u1b42"),
  (0x3099, "がかぎきぐくげけごこざさじしずすぜせぞそだたぢちづつでてどとばはびひぶふべへぼほゔうゞゝガカギキグクゲケゴコザサジシズスゼセゾソダタヂチヅツデテドトバハビヒブフ"),
  (0x3099, "ベヘボホヴウヷワヸヰヹヱヺヲヾヽ"), (0x309A, "ぱはぴひぷふぺへぽほパハピヒプフペヘポホ"), (0x110BA, "𑂚𑂙𑂜𑂛𑂫𑂥"),
  (0x11127, "𑄮𑄱𑄯𑄲"), (0x1133E, "𑍋𑍇"), (0x11357, "𑍌𑍇"), (0x113B8, "𑏇𑏂"), (0x113BB, "𑎅𑎄"),
  (0x113C2, "𑎎𑎎𑏅"), (0x113C9, "𑎃𑎂𑎑𑎐𑏈𑏂"), (0x114B0, "𑒼𑒹"), (0x114BA, "𑒻𑒹"), (0x114BD, "𑒾𑒹"),
  (0x115AF, "𑖺𑖸𑖻𑖹"), (0x11930, "𑤸𑤵"), (0x1611E, "𖄡𖄞"), (0x1611F, "𖄣𖄧𖄩"), (0x16120, "𖄥𖄞"),
  (0x16129, "𖄢𖄞"), (0x16D67, "𖵨𖵧𖵩𖵣")]

/-- The composites in a row of composites and first characters. -/
def compositesWith (second : Char) : List Char → List Composite
  | whole :: first :: rest => ⟨whole, first, second⟩ :: compositesWith second rest
  | _ => []

/-- All composites but the syllables of Hangul. -/
def composites : List Composite :=
  groups.flatMap fun g => compositesWith (Char.ofNat g.1) g.2.toList

/-! ## Hangul -/

/-- The parts of a syllable: a consonant, a vowel, and perhaps a final consonant. -/
def syllableParts? (c : Char) : Option (List Char) :=
  let n := c.toNat - 0xAC00
  if 0xAC00 ≤ c.toNat ∧ n < 11172 then
    let final := if n % 28 = 0 then [] else [Char.ofNat (0x11A7 + n % 28)]
    some (Char.ofNat (0x1100 + n / 588) :: Char.ofNat (0x1161 + n % 588 / 28) :: final)
  else none

/-- The syllable that two characters form. -/
def syllable? (a b : Char) : Option Char :=
  let consonant := a.toNat - 0x1100
  let vowel := b.toNat - 0x1161
  let open_ := a.toNat - 0xAC00
  let final := b.toNat - 0x11A7
  if 0x1100 ≤ a.toNat ∧ consonant < 19 ∧ 0x1161 ≤ b.toNat ∧ vowel < 21 then
    some (Char.ofNat (0xAC00 + consonant * 588 + vowel * 28))
  else if 0xAC00 ≤ a.toNat ∧ open_ < 11172 ∧ open_ % 28 = 0 ∧ 0x11A7 < b.toNat ∧ final < 28 then
    some (Char.ofNat (a.toNat + final))
  else none

/-! ## Taking apart -/

/-- The characters that a character consists of, as far as some composites tell. -/
def decomposeWith : List Composite → Char → List Char
  | [], c => [c]
  | p :: rest, c =>
    if c = p.whole then decomposeWith rest p.first ++ [p.second] else decomposeWith rest c

/-- The characters that a character consists of. -/
def decompose (c : Char) : List Char :=
  if c.toNat < 0x80 then [c] else (syllableParts? c).getD (decomposeWith composites c)

theorem decompose_of_ascii {c : Char} (h : c.toNat < 0x80) : decompose c = [c] := by
  simp [decompose, h]

/-- Put a character before others, but behind marks of lower classes if it is a mark. -/
def insertMark (c : Char) : List Char → List Char
  | [] => [c]
  | d :: rest =>
    if 0 < CombiningClass.of d ∧ CombiningClass.of d < CombiningClass.of c then
      d :: insertMark c rest
    else c :: d :: rest

/-- The characters of a text, taken apart, their marks in order. -/
def decomposeAll (cs : List Char) : List Char :=
  (cs.flatMap decompose).foldr insertMark []

/-! ## Putting together -/

/-- The character that two characters form. The second is a mark, or part of a syllable. -/
def pair? (a b : Char) : Option Char :=
  if b.toNat < 0x300 then none
  else
    match composites.find? fun p => p.second = b ∧ p.first = a with
    | some p => some p.whole
    | none => syllable? a b

/-- A text whose last character that is no mark was `base`; `marks` came after it, in reverse. A
mark reaches the base if none of its class stands between them. -/
def composeFrom (base : Char) (marks : List Char) : List Char → List Char
  | [] => base :: marks.reverse
  | c :: rest =>
    let class_ := CombiningClass.of c
    let reaches := match marks with
      | [] => true
      | m :: _ => CombiningClass.of m < class_
    match (if reaches then pair? base c else none) with
    | some whole => composeFrom whole marks rest
    | none =>
      if class_ = 0 then base :: (marks.reverse ++ composeFrom c [] rest)
      else composeFrom base (c :: marks) rest

/-- A text in its composed form. -/
def compose (cs : List Char) : List Char :=
  match decomposeAll cs with
  | [] => []
  | c :: rest => composeFrom c [] rest

end Composition

end GraphIngest
