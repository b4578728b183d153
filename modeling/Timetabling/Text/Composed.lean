import Timetabling.Text.Mark

/-!
# Composed texts

A character with marks can be written as one character or as several, and marks in several orders.
In a composed text the marks of a character are in the order of their classes, and as many of them
as possible are one with the character. Characters are named by the numbers of their code points.
-/

namespace Timetabling.Text.Composed

/-! ### Tables -/

/-- The characters that no composed text has: they are always written as others. -/
def excluded : List (Nat × Nat) :=
  [(0x340, 0x341), (0x343, 0x344), (0x374, 0x374), (0x37E, 0x37E), (0x387, 0x387), (0x958, 0x95F),
    (0x9DC, 0x9DD), (0x9DF, 0x9DF), (0xA33, 0xA33), (0xA36, 0xA36), (0xA59, 0xA5B), (0xA5E, 0xA5E),
    (0xB5C, 0xB5D), (0xF43, 0xF43), (0xF4D, 0xF4D), (0xF52, 0xF52), (0xF57, 0xF57), (0xF5C, 0xF5C),
    (0xF69, 0xF69), (0xF73, 0xF73), (0xF75, 0xF76), (0xF78, 0xF78), (0xF81, 0xF81), (0xF93, 0xF93),
    (0xF9D, 0xF9D), (0xFA2, 0xFA2), (0xFA7, 0xFA7), (0xFAC, 0xFAC), (0xFB9, 0xFB9),
    (0x1F71, 0x1F71), (0x1F73, 0x1F73), (0x1F75, 0x1F75), (0x1F77, 0x1F77), (0x1F79, 0x1F79),
    (0x1F7B, 0x1F7B), (0x1F7D, 0x1F7D), (0x1FBB, 0x1FBB), (0x1FBE, 0x1FBE), (0x1FC9, 0x1FC9),
    (0x1FCB, 0x1FCB), (0x1FD3, 0x1FD3), (0x1FDB, 0x1FDB), (0x1FE3, 0x1FE3), (0x1FEB, 0x1FEB),
    (0x1FEE, 0x1FEF), (0x1FF9, 0x1FF9), (0x1FFB, 0x1FFB), (0x1FFD, 0x1FFD), (0x2000, 0x2001),
    (0x2126, 0x2126), (0x212A, 0x212B), (0x2329, 0x232A), (0x2ADC, 0x2ADC), (0xF900, 0xFA0D),
    (0xFA10, 0xFA10), (0xFA12, 0xFA12), (0xFA15, 0xFA1E), (0xFA20, 0xFA20), (0xFA22, 0xFA22),
    (0xFA25, 0xFA26), (0xFA2A, 0xFA6D), (0xFA70, 0xFAD9), (0xFB1D, 0xFB1D), (0xFB1F, 0xFB1F),
    (0xFB2A, 0xFB36), (0xFB38, 0xFB3C), (0xFB3E, 0xFB3E), (0xFB40, 0xFB41), (0xFB43, 0xFB44),
    (0xFB46, 0xFB4E), (0x1D15E, 0x1D164), (0x1D1BB, 0x1D1C0), (0x2F800, 0x2FA1D)]

def letters : List (Nat × String × String) :=
  [(0x300, "AEIOUaeiouÜüNnЕИеиĒēŌōWwÂâĂăÊêÔôƠơƯưYyἀἁἈἉἐἑἘἙἠἡἨἩἰἱἸἹὀὁὈὉὐὑὙὠὡὨὩαεηιουωΑΕΗ᾿ϊΙ῾ϋΥ¨ΟΩ",
    "ÀÈÌÒÙàèìòùǛǜǸǹЀЍѐѝḔḕṐṑẀẁẦầẰằỀềỒồỜờỪừỲỳἂἃἊἋἒἓἚἛἢἣἪἫἲἳἺἻὂὃὊὋὒὓὛὢὣὪὫὰὲὴὶὸὺὼᾺῈῊ῍ῒῚ῝ῢῪ῭ῸῺ"),
   (0x301, "AEIOUYaeiouyCcLlNnRrSsZzÜüGgÅåÆæØø¨ΑΕΗΙΟΥΩϊαεηιϋουωϒГКгкÇçĒēÏïKkMmÕõŌōPpŨũWwÂâĂă",
    "ÁÉÍÓÚÝáéíóúýĆćĹĺŃńŔŕŚśŹźǗǘǴǵǺǻǼǽǾǿ΅ΆΈΉΊΌΎΏΐάέήίΰόύώϓЃЌѓќḈḉḖḗḮḯḰḱḾḿṌṍṒṓṔṕṸṹẂẃẤấẮắ"),
   (0x301, "ÊêÔôƠơƯưἀἁἈἉἐἑἘἙἠἡἨἩἰἱἸἹὀὁὈὉὐὑὙὠὡὨὩ᾿῾",
    "ẾếỐốỚớỨứἄἅἌἍἔἕἜἝἤἥἬἭἴἵἼἽὄὅὌὍὔὕὝὤὥὬὭ῎῞"),
   (0x302, "AEIOUaeiouCcGgHhJjSsWwYyZzẠạẸẹỌọ", "ÂÊÎÔÛâêîôûĈĉĜĝĤĥĴĵŜŝŴŵŶŷẐẑẬậỆệỘộ"),
   (0x303, "ANOanoIiUuVvÂâĂăEeÊêÔôƠơƯưYy", "ÃÑÕãñõĨĩŨũṼṽẪẫẴẵẼẽỄễỖỗỠỡỮữỸỹ"),
   (0x304, "AaEeIiOoUuÜüÄäȦȧÆæǪǫÖöÕõȮȯYyИиУуGgḶḷṚṛαΑιΙυΥ",
    "ĀāĒēĪīŌōŪūǕǖǞǟǠǡǢǣǬǭȪȫȬȭȰȱȲȳӢӣӮӯḠḡḸḹṜṝᾱᾹῑῙῡῩ"),
   (0x306, "AaEeGgIiOoUuУИиуЖжАаЕеȨȩẠạαΑιΙυΥ", "ĂăĔĕĞğĬĭŎŏŬŭЎЙйўӁӂӐӑӖӗḜḝẶặᾰᾸῐῘῠῨ"),
   (0x307, "CcEeGgIZzAaOoBbDdFfHhMmNnPpRrSsŚśŠšṢṣTtWwXxYyſ",
    "ĊċĖėĠġİŻżȦȧȮȯḂḃḊḋḞḟḢḣṀṁṄṅṖṗṘṙṠṡṤṥṦṧṨṩṪṫẆẇẊẋẎẏẛ"),
   (0x308, "AEIOUaeiouyYΙΥιυϒЕІеіАаӘәЖжЗзИиОоӨөЭэУуЧчЫыHhÕõŪūWwXxt",
    "ÄËÏÖÜäëïöüÿŸΪΫϊϋϔЁЇёїӒӓӚӛӜӝӞӟӤӥӦӧӪӫӬӭӰӱӴӵӸӹḦḧṎṏṺṻẄẅẌẍẗ"),
   (0x309, "AaÂâĂăEeÊêIiOoÔôƠơUuƯưYy", "ẢảẨẩẲẳẺẻỂểỈỉỎỏỔổỞởỦủỬửỶỷ"),
   (0x30A, "AaUuwy", "ÅåŮůẘẙ"),
   (0x30B, "OoUuУу", "ŐőŰűӲӳ"),
   (0x30C, "CcDdEeLlNnRrSsTtZzAaIiOoUuÜüGgKkƷʒjHh", "ČčĎďĚěĽľŇňŘřŠšŤťŽžǍǎǏǐǑǒǓǔǙǚǦǧǨǩǮǯǰȞȟ"),
   (0x30F, "AaEeIiOoRrUuѴѵ", "ȀȁȄȅȈȉȌȍȐȑȔȕѶѷ"),
   (0x311, "AaEeIiOoRrUu", "ȂȃȆȇȊȋȎȏȒȓȖȗ"),
   (0x313, "αΑεΕηΗιΙοΟυωΩρ", "ἀἈἐἘἠἨἰἸὀὈὐὠὨῤ"),
   (0x314, "αΑεΕηΗιΙοΟυΥωΩρΡ", "ἁἉἑἙἡἩἱἹὁὉὑὙὡὩῥῬ"),
   (0x31B, "OoUu", "ƠơƯư"),
   (0x323, "BbDdHhKkLlMmNnRrSsTtVvWwZzAaEeIiOoƠơUuƯưYy",
    "ḄḅḌḍḤḥḲḳḶḷṂṃṆṇṚṛṢṣṬṭṾṿẈẉẒẓẠạẸẹỊịỌọỢợỤụỰựỴỵ"),
   (0x324, "Uu", "Ṳṳ"),
   (0x325, "Aa", "Ḁḁ"),
   (0x326, "SsTt", "ȘșȚț"),
   (0x327, "CcGgKkLlNnRrSsTtEeDdHh", "ÇçĢģĶķĻļŅņŖŗŞşŢţȨȩḐḑḨḩ"),
   (0x328, "AaEeIiUuOo", "ĄąĘęĮįŲųǪǫ"),
   (0x32D, "DdEeLlNnTtUu", "ḒḓḘḙḼḽṊṋṰṱṶṷ"),
   (0x32E, "Hh", "Ḫḫ"),
   (0x330, "EeIiUu", "ḚḛḬḭṴṵ"),
   (0x331, "BbDdKkLlNnRrTtZzh", "ḆḇḎḏḴḵḺḻṈṉṞṟṮṯẔẕẖ"),
   (0x338, "←→↔⇐⇔⇒∃∈∋∣∥∼≃≅≈=≡≍<>≤≥≲≳≶≷≺≻⊂⊃⊆⊇⊢⊨⊩⊫≼≽⊑⊒⊲⊳⊴⊵",
    "↚↛↮⇍⇎⇏∄∉∌∤∦≁≄≇≉≠≢≭≮≯≰≱≴≵≸≹⊀⊁⊄⊅⊈⊉⊬⊭⊮⊯⋠⋡⋢⋣⋪⋫⋬⋭"),
   (0x342, "ἀἁἈἉἠἡἨἩἰἱἸἹὐὑὙὠὡὨὩα¨η᾿ιϊ῾υϋω", "ἆἇἎἏἦἧἮἯἶἷἾἿὖὗὟὦὧὮὯᾶ῁ῆ῏ῖῗ῟ῦῧῶ"),
   (0x345, "ἀἁἂἃἄἅἆἇἈἉἊἋἌἍἎἏἠἡἢἣἤἥἦἧἨἩἪἫἬἭἮἯὠὡὢὣὤὥὦὧὨὩὪὫὬὭὮὯὰαάᾶΑὴηήῆΗὼωώῶΩ",
    "ᾀᾁᾂᾃᾄᾅᾆᾇᾈᾉᾊᾋᾌᾍᾎᾏᾐᾑᾒᾓᾔᾕᾖᾗᾘᾙᾚᾛᾜᾝᾞᾟᾠᾡᾢᾣᾤᾥᾦᾧᾨᾩᾪᾫᾬᾭᾮᾯᾲᾳᾴᾷᾼῂῃῄῇῌῲῳῴῷῼ"),
   (0x3099, "かきくけこさしすせそたちつてとはひふへほうゝカキクケコサシスセソタチツテトハヒフヘホウワヰヱヲヽ",
    "がぎぐげござじずぜぞだぢづでどばびぶべぼゔゞガギグゲゴザジズゼゾダヂヅデドバビブベボヴヷヸヹヺヾ"),
   (0x309A, "はひふへほハヒフヘホ", "ぱぴぷぺぽパピプペポ")]

def others : List (Nat × Nat × Nat) :=
  [(0x627, 0x653, 0x622), (0x627, 0x654, 0x623), (0x648, 0x654, 0x624), (0x64A, 0x654, 0x626),
    (0x6D5, 0x654, 0x6C0), (0x6C1, 0x654, 0x6C2), (0x6D2, 0x654, 0x6D3), (0x627, 0x655, 0x625),
    (0x928, 0x93C, 0x929), (0x930, 0x93C, 0x931), (0x933, 0x93C, 0x934), (0x9C7, 0x9BE, 0x9CB),
    (0x9C7, 0x9D7, 0x9CC), (0xB47, 0xB3E, 0xB4B), (0xB47, 0xB56, 0xB48), (0xB47, 0xB57, 0xB4C),
    (0xBC6, 0xBBE, 0xBCA), (0xBC7, 0xBBE, 0xBCB), (0xB92, 0xBD7, 0xB94), (0xBC6, 0xBD7, 0xBCC),
    (0xC46, 0xC56, 0xC48), (0xCC6, 0xCC2, 0xCCA), (0xCBF, 0xCD5, 0xCC0), (0xCC6, 0xCD5, 0xCC7),
    (0xCCA, 0xCD5, 0xCCB), (0xCC6, 0xCD6, 0xCC8), (0xD46, 0xD3E, 0xD4A), (0xD47, 0xD3E, 0xD4B),
    (0xD46, 0xD57, 0xD4C), (0xDD9, 0xDCA, 0xDDA), (0xDDC, 0xDCA, 0xDDD), (0xDD9, 0xDCF, 0xDDC),
    (0xDD9, 0xDDF, 0xDDE), (0x1025, 0x102E, 0x1026), (0x1B05, 0x1B35, 0x1B06),
    (0x1B07, 0x1B35, 0x1B08), (0x1B09, 0x1B35, 0x1B0A), (0x1B0B, 0x1B35, 0x1B0C),
    (0x1B0D, 0x1B35, 0x1B0E), (0x1B11, 0x1B35, 0x1B12), (0x1B3A, 0x1B35, 0x1B3B),
    (0x1B3C, 0x1B35, 0x1B3D), (0x1B3E, 0x1B35, 0x1B40), (0x1B3F, 0x1B35, 0x1B41),
    (0x1B42, 0x1B35, 0x1B43), (0x11099, 0x110BA, 0x1109A), (0x1109B, 0x110BA, 0x1109C),
    (0x110A5, 0x110BA, 0x110AB), (0x11131, 0x11127, 0x1112E), (0x11132, 0x11127, 0x1112F),
    (0x11347, 0x1133E, 0x1134B), (0x11347, 0x11357, 0x1134C), (0x114B9, 0x114B0, 0x114BC),
    (0x114B9, 0x114BA, 0x114BB), (0x114B9, 0x114BD, 0x114BE), (0x115B8, 0x115AF, 0x115BA),
    (0x115B9, 0x115AF, 0x115BB), (0x11935, 0x11930, 0x11938)]

/-- All pairs of characters with the character that they become, but for the syllables that are put
together by rule. -/
def pairs : List (Nat × Nat × Nat) :=
  letters.flatMap (fun (mark, plain, marked) =>
    (plain.toList.zip marked.toList).map fun (c, d) => (c.toNat, mark, d.toNat)) ++ others

/-! ### Pairs of characters -/

/-- The syllable of a leading consonant and a vowel, or of a syllable without a trailing consonant
and such a consonant. -/
def syllable? (first second : Nat) : Option Nat :=
  if 0x1100 ≤ first ∧ first < 0x1113 ∧ 0x1161 ≤ second ∧ second < 0x1176 then
    some (0xAC00 + 588 * (first - 0x1100) + 28 * (second - 0x1161))
  else if 0xAC00 ≤ first ∧ first < 0xD7A4 ∧ (first - 0xAC00) % 28 = 0 ∧
      0x11A8 ≤ second ∧ second < 0x11C3 then
    some (first + (second - 0x11A7))
  else none

def syllableParts? (n : Nat) : Option (Nat × Nat) :=
  if n < 0xAC00 ∨ 0xD7A4 ≤ n then none
  else
    let index := n - 0xAC00
    if index % 28 = 0 then some (0x1100 + index / 588, 0x1161 + index % 588 / 28)
    else some (n - index % 28, 0x11A7 + index % 28)

def pair? (first second : Nat) : Option Nat :=
  (syllable? first second).or
    ((pairs.find? fun (a, b, _) => a == first && b == second).map fun (_, _, c) => c)

def parts? (n : Nat) : Option (Nat × Nat) :=
  (syllableParts? n).or ((pairs.find? fun (_, _, c) => c == n).map fun (a, b, _) => (a, b))

/-! ### Taking apart -/

def depth : Nat := 3

/-- A character taken apart, at most as many times as given. Only a first part has parts. -/
def apart : Nat → Nat → List Nat
  | 0, n => [n]
  | times + 1, n =>
    match parts? n with
    | some (first, second) => apart times first ++ [second]
    | none => [n]

/-- Puts a mark behind those of the same character, given in reverse, that do not come after it. -/
def place (n : Nat) : List Nat → List Nat
  | [] => [n]
  | m :: before =>
    if Mark.combiningClass n ≠ 0 ∧ Mark.combiningClass n < Mark.combiningClass m then
      m :: place n before
    else n :: m :: before

def decomposed (ns : List Nat) : List Nat :=
  ((ns.flatMap (apart depth)).foldl (fun before n => place n before) []).reverse

/-! ### Putting together -/

/-- Whether the marks between a character and a mark, given in reverse, keep the two apart. -/
def areApart (marks : List Nat) (n : Nat) : Bool :=
  match marks with
  | [] => false
  | m :: _ => Mark.combiningClass n ≤ Mark.combiningClass m

/-- A character, the marks after it that stay, in reverse, and the text after them, put together. -/
def togetherFrom (first : Nat) (marks : List Nat) : List Nat → List Nat
  | [] => first :: marks.reverse
  | n :: after =>
    match if areApart marks n then none else pair? first n with
    | some one => togetherFrom one marks after
    | none =>
      if Mark.combiningClass n = 0 then first :: marks.reverse ++ togetherFrom n [] after
      else togetherFrom first (n :: marks) after

def together : List Nat → List Nat
  | [] => []
  | n :: after =>
    if Mark.combiningClass n = 0 then togetherFrom n [] after else n :: together after

/-! ### Composed texts -/

def isComposed (ns : List Nat) : Bool :=
  !ns.any (inRanges excluded) && together (decomposed ns) == ns

end Timetabling.Text.Composed
