/-!
# Scripts

The script that a character belongs to, by its number in a list of script names.
-/

namespace PhraseRules.Unicode

/-- The names of the scripts, in lower case and without separators; all names of one script stand
together, and its place in this list is its number. -/
def scriptNames : List (List String) := [
  ["adlm", "adlam"], ["aghb", "caucasianalbanian"], ["ahom"], ["arab", "arabic"],
  ["armi", "imperialaramaic"], ["armn", "armenian"], ["avst", "avestan"], ["bali", "balinese"],
  ["bamu", "bamum"], ["bass", "bassavah"], ["batk", "batak"], ["beng", "bengali"],
  ["bhks", "bhaiksuki"], ["bopo", "bopomofo"], ["brah", "brahmi"], ["brai", "braille"],
  ["bugi", "buginese"], ["buhd", "buhid"], ["cakm", "chakma"], ["cans", "canadianaboriginal"],
  ["cari", "carian"], ["cham"], ["cher", "cherokee"], ["chrs", "chorasmian"],
  ["copt", "coptic", "qaac"], ["cpmn", "cyprominoan"], ["cprt", "cypriot"], ["cyrl", "cyrillic"],
  ["deva", "devanagari"], ["diak", "divesakuru"], ["dogr", "dogra"], ["dsrt", "deseret"],
  ["dupl", "duployan"], ["egyp", "egyptianhieroglyphs"], ["elba", "elbasan"], ["elym", "elymaic"],
  ["ethi", "ethiopic"], ["geor", "georgian"], ["glag", "glagolitic"], ["gong", "gunjalagondi"],
  ["gonm", "masaramgondi"], ["goth", "gothic"], ["gran", "grantha"], ["grek", "greek"],
  ["gujr", "gujarati"], ["guru", "gurmukhi"], ["hang", "hangul"], ["hani", "han"],
  ["hano", "hanunoo"], ["hatr", "hatran"], ["hebr", "hebrew"], ["hira", "hiragana"],
  ["hluw", "anatolianhieroglyphs"], ["hmng", "pahawhhmong"], ["hmnp", "nyiakengpuachuehmong"],
  ["hung", "oldhungarian"], ["ital", "olditalic"], ["java", "javanese"], ["kali", "kayahli"],
  ["kana", "katakana"], ["kawi"], ["khar", "kharoshthi"], ["khmr", "khmer"], ["khoj", "khojki"],
  ["kits", "khitansmallscript"], ["knda", "kannada"], ["kthi", "kaithi"], ["lana", "taitham"],
  ["laoo", "lao"], ["latn", "latin"], ["lepc", "lepcha"], ["limb", "limbu"], ["lina", "lineara"],
  ["linb", "linearb"], ["lisu"], ["lyci", "lycian"], ["lydi", "lydian"], ["mahj", "mahajani"],
  ["maka", "makasar"], ["mand", "mandaic"], ["mani", "manichaean"], ["marc", "marchen"],
  ["medf", "medefaidrin"], ["mend", "mendekikakui"], ["merc", "meroiticcursive"],
  ["mero", "meroitichieroglyphs"], ["mlym", "malayalam"], ["modi"], ["mong", "mongolian"],
  ["mroo", "mro"], ["mtei", "meeteimayek"], ["mult", "multani"], ["mymr", "myanmar"],
  ["nagm", "nagmundari"], ["nand", "nandinagari"], ["narb", "oldnortharabian"],
  ["nbat", "nabataean"], ["newa"], ["nkoo", "nko"], ["nshu", "nushu"], ["ogam", "ogham"],
  ["olck", "olchiki"], ["orkh", "oldturkic"], ["orya", "oriya"], ["osge", "osage"],
  ["osma", "osmanya"], ["ougr", "olduyghur"], ["palm", "palmyrene"], ["pauc", "paucinhau"],
  ["perm", "oldpermic"], ["phag", "phagspa"], ["phli", "inscriptionalpahlavi"],
  ["phlp", "psalterpahlavi"], ["phnx", "phoenician"], ["plrd", "miao"],
  ["prti", "inscriptionalparthian"], ["rjng", "rejang"], ["rohg", "hanifirohingya"],
  ["runr", "runic"], ["samr", "samaritan"], ["sarb", "oldsoutharabian"], ["saur", "saurashtra"],
  ["sgnw", "signwriting"], ["shaw", "shavian"], ["shrd", "sharada"], ["sidd", "siddham"],
  ["sind", "khudawadi"], ["sinh", "sinhala"], ["sogd", "sogdian"], ["sogo", "oldsogdian"],
  ["sora", "sorasompeng"], ["soyo", "soyombo"], ["sund", "sundanese"], ["sylo", "sylotinagri"],
  ["syrc", "syriac"], ["tagb", "tagbanwa"], ["takr", "takri"], ["tale", "taile"],
  ["talu", "newtailue"], ["taml", "tamil"], ["tang", "tangut"], ["tavt", "taiviet"],
  ["telu", "telugu"], ["tfng", "tifinagh"], ["tglg", "tagalog"], ["thaa", "thaana"], ["thai"],
  ["tibt", "tibetan"], ["tirh", "tirhuta"], ["tnsa", "tangsa"], ["toto"], ["ugar", "ugaritic"],
  ["vaii", "vai"], ["vith", "vithkuqi"], ["wara", "warangciti"], ["wcho", "wancho"],
  ["xpeo", "oldpersian"], ["xsux", "cuneiform"], ["yezi", "yezidi"], ["yiii", "yi"],
  ["zanb", "zanabazarsquare"], ["zinh", "inherited", "qaai"], ["zyyy", "common"], ["gara", "garay"],
  ["gukh", "gurungkhema"], ["krai", "kiratrai"], ["onao", "olonal"], ["sunu", "sunuwar"],
  ["todr", "todhri"], ["tutg", "tulutigalari"]]

/-- A stretch of code points of one script. -/
structure ScriptRow where
  first : Nat
  last : Nat
  script : Nat

/-- Sorted rows, none of which ends after `last`. -/
structure ScriptBlock where
  last : Nat
  rows : List ScriptRow

/-- All code points that have a script. -/
def scriptBlocks : List ScriptBlock := [
  ⟨1866, [
    ⟨0, 64, 162⟩, ⟨65, 90, 69⟩, ⟨91, 96, 162⟩, ⟨97, 122, 69⟩, ⟨123, 169, 162⟩, ⟨170, 170, 69⟩,
    ⟨171, 185, 162⟩, ⟨186, 186, 69⟩, ⟨187, 191, 162⟩, ⟨192, 214, 69⟩, ⟨215, 215, 162⟩,
    ⟨216, 246, 69⟩, ⟨247, 247, 162⟩, ⟨248, 696, 69⟩, ⟨697, 735, 162⟩, ⟨736, 740, 69⟩,
    ⟨741, 745, 162⟩, ⟨746, 747, 13⟩, ⟨748, 767, 162⟩, ⟨768, 879, 161⟩, ⟨880, 883, 43⟩,
    ⟨884, 884, 162⟩, ⟨885, 887, 43⟩, ⟨890, 893, 43⟩, ⟨894, 894, 162⟩, ⟨895, 895, 43⟩,
    ⟨900, 900, 43⟩, ⟨901, 901, 162⟩, ⟨902, 902, 43⟩, ⟨903, 903, 162⟩, ⟨904, 906, 43⟩,
    ⟨908, 908, 43⟩, ⟨910, 929, 43⟩, ⟨931, 993, 43⟩, ⟨994, 1007, 24⟩, ⟨1008, 1023, 43⟩,
    ⟨1024, 1156, 27⟩, ⟨1157, 1158, 161⟩, ⟨1159, 1327, 27⟩, ⟨1329, 1366, 5⟩, ⟨1369, 1418, 5⟩,
    ⟨1421, 1423, 5⟩, ⟨1425, 1479, 50⟩, ⟨1488, 1514, 50⟩, ⟨1519, 1524, 50⟩, ⟨1536, 1540, 3⟩,
    ⟨1541, 1541, 162⟩, ⟨1542, 1547, 3⟩, ⟨1548, 1548, 162⟩, ⟨1549, 1562, 3⟩, ⟨1563, 1563, 162⟩,
    ⟨1564, 1566, 3⟩, ⟨1567, 1567, 162⟩, ⟨1568, 1599, 3⟩, ⟨1600, 1600, 162⟩, ⟨1601, 1610, 3⟩,
    ⟨1611, 1621, 161⟩, ⟨1622, 1647, 3⟩, ⟨1648, 1648, 161⟩, ⟨1649, 1756, 3⟩, ⟨1757, 1757, 162⟩,
    ⟨1758, 1791, 3⟩, ⟨1792, 1805, 134⟩, ⟨1807, 1866, 134⟩]⟩,
  ⟨2819, [
    ⟨1869, 1871, 134⟩, ⟨1872, 1919, 3⟩, ⟨1920, 1969, 145⟩, ⟨1984, 2042, 98⟩, ⟨2045, 2047, 98⟩,
    ⟨2048, 2093, 119⟩, ⟨2096, 2110, 119⟩, ⟨2112, 2139, 79⟩, ⟨2142, 2142, 79⟩, ⟨2144, 2154, 134⟩,
    ⟨2160, 2193, 3⟩, ⟨2199, 2273, 3⟩, ⟨2274, 2274, 162⟩, ⟨2275, 2303, 3⟩, ⟨2304, 2384, 28⟩,
    ⟨2385, 2388, 161⟩, ⟨2389, 2403, 28⟩, ⟨2404, 2405, 162⟩, ⟨2406, 2431, 28⟩, ⟨2432, 2435, 11⟩,
    ⟨2437, 2444, 11⟩, ⟨2447, 2448, 11⟩, ⟨2451, 2472, 11⟩, ⟨2474, 2480, 11⟩, ⟨2482, 2482, 11⟩,
    ⟨2486, 2489, 11⟩, ⟨2492, 2500, 11⟩, ⟨2503, 2504, 11⟩, ⟨2507, 2510, 11⟩, ⟨2519, 2519, 11⟩,
    ⟨2524, 2525, 11⟩, ⟨2527, 2531, 11⟩, ⟨2534, 2558, 11⟩, ⟨2561, 2563, 45⟩, ⟨2565, 2570, 45⟩,
    ⟨2575, 2576, 45⟩, ⟨2579, 2600, 45⟩, ⟨2602, 2608, 45⟩, ⟨2610, 2611, 45⟩, ⟨2613, 2614, 45⟩,
    ⟨2616, 2617, 45⟩, ⟨2620, 2620, 45⟩, ⟨2622, 2626, 45⟩, ⟨2631, 2632, 45⟩, ⟨2635, 2637, 45⟩,
    ⟨2641, 2641, 45⟩, ⟨2649, 2652, 45⟩, ⟨2654, 2654, 45⟩, ⟨2662, 2678, 45⟩, ⟨2689, 2691, 44⟩,
    ⟨2693, 2701, 44⟩, ⟨2703, 2705, 44⟩, ⟨2707, 2728, 44⟩, ⟨2730, 2736, 44⟩, ⟨2738, 2739, 44⟩,
    ⟨2741, 2745, 44⟩, ⟨2748, 2757, 44⟩, ⟨2759, 2761, 44⟩, ⟨2763, 2765, 44⟩, ⟨2768, 2768, 44⟩,
    ⟨2784, 2787, 44⟩, ⟨2790, 2801, 44⟩, ⟨2809, 2815, 44⟩, ⟨2817, 2819, 103⟩]⟩,
  ⟨3478, [
    ⟨2821, 2828, 103⟩, ⟨2831, 2832, 103⟩, ⟨2835, 2856, 103⟩, ⟨2858, 2864, 103⟩, ⟨2866, 2867, 103⟩,
    ⟨2869, 2873, 103⟩, ⟨2876, 2884, 103⟩, ⟨2887, 2888, 103⟩, ⟨2891, 2893, 103⟩, ⟨2901, 2903, 103⟩,
    ⟨2908, 2909, 103⟩, ⟨2911, 2915, 103⟩, ⟨2918, 2935, 103⟩, ⟨2946, 2947, 139⟩, ⟨2949, 2954, 139⟩,
    ⟨2958, 2960, 139⟩, ⟨2962, 2965, 139⟩, ⟨2969, 2970, 139⟩, ⟨2972, 2972, 139⟩, ⟨2974, 2975, 139⟩,
    ⟨2979, 2980, 139⟩, ⟨2984, 2986, 139⟩, ⟨2990, 3001, 139⟩, ⟨3006, 3010, 139⟩, ⟨3014, 3016, 139⟩,
    ⟨3018, 3021, 139⟩, ⟨3024, 3024, 139⟩, ⟨3031, 3031, 139⟩, ⟨3046, 3066, 139⟩, ⟨3072, 3084, 142⟩,
    ⟨3086, 3088, 142⟩, ⟨3090, 3112, 142⟩, ⟨3114, 3129, 142⟩, ⟨3132, 3140, 142⟩, ⟨3142, 3144, 142⟩,
    ⟨3146, 3149, 142⟩, ⟨3157, 3158, 142⟩, ⟨3160, 3162, 142⟩, ⟨3164, 3165, 142⟩, ⟨3168, 3171, 142⟩,
    ⟨3174, 3183, 142⟩, ⟨3191, 3199, 142⟩, ⟨3200, 3212, 65⟩, ⟨3214, 3216, 65⟩, ⟨3218, 3240, 65⟩,
    ⟨3242, 3251, 65⟩, ⟨3253, 3257, 65⟩, ⟨3260, 3268, 65⟩, ⟨3270, 3272, 65⟩, ⟨3274, 3277, 65⟩,
    ⟨3285, 3286, 65⟩, ⟨3292, 3294, 65⟩, ⟨3296, 3299, 65⟩, ⟨3302, 3311, 65⟩, ⟨3313, 3315, 65⟩,
    ⟨3328, 3340, 86⟩, ⟨3342, 3344, 86⟩, ⟨3346, 3396, 86⟩, ⟨3398, 3400, 86⟩, ⟨3402, 3407, 86⟩,
    ⟨3412, 3427, 86⟩, ⟨3430, 3455, 86⟩, ⟨3457, 3459, 127⟩, ⟨3461, 3478, 127⟩]⟩,
  ⟨5869, [
    ⟨3482, 3505, 127⟩, ⟨3507, 3515, 127⟩, ⟨3517, 3517, 127⟩, ⟨3520, 3526, 127⟩, ⟨3530, 3530, 127⟩,
    ⟨3535, 3540, 127⟩, ⟨3542, 3542, 127⟩, ⟨3544, 3551, 127⟩, ⟨3558, 3567, 127⟩, ⟨3570, 3572, 127⟩,
    ⟨3585, 3642, 146⟩, ⟨3647, 3647, 162⟩, ⟨3648, 3675, 146⟩, ⟨3713, 3714, 68⟩, ⟨3716, 3716, 68⟩,
    ⟨3718, 3722, 68⟩, ⟨3724, 3747, 68⟩, ⟨3749, 3749, 68⟩, ⟨3751, 3773, 68⟩, ⟨3776, 3780, 68⟩,
    ⟨3782, 3782, 68⟩, ⟨3784, 3790, 68⟩, ⟨3792, 3801, 68⟩, ⟨3804, 3807, 68⟩, ⟨3840, 3911, 147⟩,
    ⟨3913, 3948, 147⟩, ⟨3953, 3991, 147⟩, ⟨3993, 4028, 147⟩, ⟨4030, 4044, 147⟩, ⟨4046, 4052, 147⟩,
    ⟨4053, 4056, 162⟩, ⟨4057, 4058, 147⟩, ⟨4096, 4255, 92⟩, ⟨4256, 4293, 37⟩, ⟨4295, 4295, 37⟩,
    ⟨4301, 4301, 37⟩, ⟨4304, 4346, 37⟩, ⟨4347, 4347, 162⟩, ⟨4348, 4351, 37⟩, ⟨4352, 4607, 46⟩,
    ⟨4608, 4680, 36⟩, ⟨4682, 4685, 36⟩, ⟨4688, 4694, 36⟩, ⟨4696, 4696, 36⟩, ⟨4698, 4701, 36⟩,
    ⟨4704, 4744, 36⟩, ⟨4746, 4749, 36⟩, ⟨4752, 4784, 36⟩, ⟨4786, 4789, 36⟩, ⟨4792, 4798, 36⟩,
    ⟨4800, 4800, 36⟩, ⟨4802, 4805, 36⟩, ⟨4808, 4822, 36⟩, ⟨4824, 4880, 36⟩, ⟨4882, 4885, 36⟩,
    ⟨4888, 4954, 36⟩, ⟨4957, 4988, 36⟩, ⟨4992, 5017, 36⟩, ⟨5024, 5109, 22⟩, ⟨5112, 5117, 22⟩,
    ⟨5120, 5759, 19⟩, ⟨5760, 5788, 100⟩, ⟨5792, 5866, 118⟩, ⟨5867, 5869, 162⟩]⟩,
  ⟨7415, [
    ⟨5870, 5880, 118⟩, ⟨5888, 5909, 144⟩, ⟨5919, 5919, 144⟩, ⟨5920, 5940, 48⟩, ⟨5941, 5942, 162⟩,
    ⟨5952, 5971, 17⟩, ⟨5984, 5996, 135⟩, ⟨5998, 6000, 135⟩, ⟨6002, 6003, 135⟩, ⟨6016, 6109, 62⟩,
    ⟨6112, 6121, 62⟩, ⟨6128, 6137, 62⟩, ⟨6144, 6145, 88⟩, ⟨6146, 6147, 162⟩, ⟨6148, 6148, 88⟩,
    ⟨6149, 6149, 162⟩, ⟨6150, 6169, 88⟩, ⟨6176, 6264, 88⟩, ⟨6272, 6314, 88⟩, ⟨6320, 6389, 19⟩,
    ⟨6400, 6430, 71⟩, ⟨6432, 6443, 71⟩, ⟨6448, 6459, 71⟩, ⟨6464, 6464, 71⟩, ⟨6468, 6479, 71⟩,
    ⟨6480, 6509, 137⟩, ⟨6512, 6516, 137⟩, ⟨6528, 6571, 138⟩, ⟨6576, 6601, 138⟩, ⟨6608, 6618, 138⟩,
    ⟨6622, 6623, 138⟩, ⟨6624, 6655, 62⟩, ⟨6656, 6683, 16⟩, ⟨6686, 6687, 16⟩, ⟨6688, 6750, 67⟩,
    ⟨6752, 6780, 67⟩, ⟨6783, 6793, 67⟩, ⟨6800, 6809, 67⟩, ⟨6816, 6829, 67⟩, ⟨6832, 6877, 161⟩,
    ⟨6880, 6891, 161⟩, ⟨6912, 6988, 7⟩, ⟨6990, 7039, 7⟩, ⟨7040, 7103, 132⟩, ⟨7104, 7155, 10⟩,
    ⟨7164, 7167, 10⟩, ⟨7168, 7223, 70⟩, ⟨7227, 7241, 70⟩, ⟨7245, 7247, 70⟩, ⟨7248, 7295, 101⟩,
    ⟨7296, 7306, 27⟩, ⟨7312, 7354, 37⟩, ⟨7357, 7359, 37⟩, ⟨7360, 7367, 132⟩, ⟨7376, 7378, 161⟩,
    ⟨7379, 7379, 162⟩, ⟨7380, 7392, 161⟩, ⟨7393, 7393, 162⟩, ⟨7394, 7400, 161⟩, ⟨7401, 7404, 162⟩,
    ⟨7405, 7405, 161⟩, ⟨7406, 7411, 162⟩, ⟨7412, 7412, 161⟩, ⟨7413, 7415, 162⟩]⟩,
  ⟨11557, [
    ⟨7416, 7417, 161⟩, ⟨7418, 7418, 162⟩, ⟨7424, 7461, 69⟩, ⟨7462, 7466, 43⟩, ⟨7467, 7467, 27⟩,
    ⟨7468, 7516, 69⟩, ⟨7517, 7521, 43⟩, ⟨7522, 7525, 69⟩, ⟨7526, 7530, 43⟩, ⟨7531, 7543, 69⟩,
    ⟨7544, 7544, 27⟩, ⟨7545, 7614, 69⟩, ⟨7615, 7615, 43⟩, ⟨7616, 7679, 161⟩, ⟨7680, 7935, 69⟩,
    ⟨7936, 7957, 43⟩, ⟨7960, 7965, 43⟩, ⟨7968, 8005, 43⟩, ⟨8008, 8013, 43⟩, ⟨8016, 8023, 43⟩,
    ⟨8025, 8025, 43⟩, ⟨8027, 8027, 43⟩, ⟨8029, 8029, 43⟩, ⟨8031, 8061, 43⟩, ⟨8064, 8116, 43⟩,
    ⟨8118, 8132, 43⟩, ⟨8134, 8147, 43⟩, ⟨8150, 8155, 43⟩, ⟨8157, 8175, 43⟩, ⟨8178, 8180, 43⟩,
    ⟨8182, 8190, 43⟩, ⟨8192, 8203, 162⟩, ⟨8204, 8205, 161⟩, ⟨8206, 8292, 162⟩, ⟨8294, 8304, 162⟩,
    ⟨8305, 8305, 69⟩, ⟨8308, 8318, 162⟩, ⟨8319, 8319, 69⟩, ⟨8320, 8334, 162⟩, ⟨8336, 8348, 69⟩,
    ⟨8352, 8385, 162⟩, ⟨8400, 8432, 161⟩, ⟨8448, 8485, 162⟩, ⟨8486, 8486, 43⟩, ⟨8487, 8489, 162⟩,
    ⟨8490, 8491, 69⟩, ⟨8492, 8497, 162⟩, ⟨8498, 8498, 69⟩, ⟨8499, 8525, 162⟩, ⟨8526, 8526, 69⟩,
    ⟨8527, 8543, 162⟩, ⟨8544, 8584, 69⟩, ⟨8585, 8587, 162⟩, ⟨8592, 9257, 162⟩, ⟨9280, 9290, 162⟩,
    ⟨9312, 10239, 162⟩, ⟨10240, 10495, 15⟩, ⟨10496, 11123, 162⟩, ⟨11126, 11263, 162⟩,
    ⟨11264, 11359, 38⟩, ⟨11360, 11391, 69⟩, ⟨11392, 11507, 24⟩, ⟨11513, 11519, 24⟩,
    ⟨11520, 11557, 37⟩]⟩,
  ⟨42887, [
    ⟨11559, 11559, 37⟩, ⟨11565, 11565, 37⟩, ⟨11568, 11623, 143⟩, ⟨11631, 11632, 143⟩,
    ⟨11647, 11647, 143⟩, ⟨11648, 11670, 36⟩, ⟨11680, 11686, 36⟩, ⟨11688, 11694, 36⟩,
    ⟨11696, 11702, 36⟩, ⟨11704, 11710, 36⟩, ⟨11712, 11718, 36⟩, ⟨11720, 11726, 36⟩,
    ⟨11728, 11734, 36⟩, ⟨11736, 11742, 36⟩, ⟨11744, 11775, 27⟩, ⟨11776, 11869, 162⟩,
    ⟨11904, 11929, 47⟩, ⟨11931, 12019, 47⟩, ⟨12032, 12245, 47⟩, ⟨12272, 12292, 162⟩,
    ⟨12293, 12293, 47⟩, ⟨12294, 12294, 162⟩, ⟨12295, 12295, 47⟩, ⟨12296, 12320, 162⟩,
    ⟨12321, 12329, 47⟩, ⟨12330, 12333, 161⟩, ⟨12334, 12335, 46⟩, ⟨12336, 12343, 162⟩,
    ⟨12344, 12347, 47⟩, ⟨12348, 12351, 162⟩, ⟨12353, 12438, 51⟩, ⟨12441, 12442, 161⟩,
    ⟨12443, 12444, 162⟩, ⟨12445, 12447, 51⟩, ⟨12448, 12448, 162⟩, ⟨12449, 12538, 59⟩,
    ⟨12539, 12540, 162⟩, ⟨12541, 12543, 59⟩, ⟨12549, 12591, 13⟩, ⟨12593, 12686, 46⟩,
    ⟨12688, 12703, 162⟩, ⟨12704, 12735, 13⟩, ⟨12736, 12773, 162⟩, ⟨12783, 12783, 162⟩,
    ⟨12784, 12799, 59⟩, ⟨12800, 12830, 46⟩, ⟨12832, 12895, 162⟩, ⟨12896, 12926, 46⟩,
    ⟨12927, 13007, 162⟩, ⟨13008, 13054, 59⟩, ⟨13055, 13055, 162⟩, ⟨13056, 13143, 59⟩,
    ⟨13144, 13311, 162⟩, ⟨13312, 19903, 47⟩, ⟨19904, 19967, 162⟩, ⟨19968, 40959, 47⟩,
    ⟨40960, 42124, 159⟩, ⟨42128, 42182, 159⟩, ⟨42192, 42239, 74⟩, ⟨42240, 42539, 152⟩,
    ⟨42560, 42655, 27⟩, ⟨42656, 42743, 8⟩, ⟨42752, 42785, 162⟩, ⟨42786, 42887, 69⟩]⟩,
  ⟨65106, [
    ⟨42888, 42890, 162⟩, ⟨42891, 42972, 69⟩, ⟨42993, 43007, 69⟩, ⟨43008, 43052, 133⟩,
    ⟨43056, 43065, 162⟩, ⟨43072, 43127, 110⟩, ⟨43136, 43205, 121⟩, ⟨43214, 43225, 121⟩,
    ⟨43232, 43263, 28⟩, ⟨43264, 43309, 58⟩, ⟨43310, 43310, 162⟩, ⟨43311, 43311, 58⟩,
    ⟨43312, 43347, 116⟩, ⟨43359, 43359, 116⟩, ⟨43360, 43388, 46⟩, ⟨43392, 43469, 57⟩,
    ⟨43471, 43471, 162⟩, ⟨43472, 43481, 57⟩, ⟨43486, 43487, 57⟩, ⟨43488, 43518, 92⟩,
    ⟨43520, 43574, 21⟩, ⟨43584, 43597, 21⟩, ⟨43600, 43609, 21⟩, ⟨43612, 43615, 21⟩,
    ⟨43616, 43647, 92⟩, ⟨43648, 43714, 141⟩, ⟨43739, 43743, 141⟩, ⟨43744, 43766, 90⟩,
    ⟨43777, 43782, 36⟩, ⟨43785, 43790, 36⟩, ⟨43793, 43798, 36⟩, ⟨43808, 43814, 36⟩,
    ⟨43816, 43822, 36⟩, ⟨43824, 43866, 69⟩, ⟨43867, 43867, 162⟩, ⟨43868, 43876, 69⟩,
    ⟨43877, 43877, 43⟩, ⟨43878, 43881, 69⟩, ⟨43882, 43883, 162⟩, ⟨43888, 43967, 22⟩,
    ⟨43968, 44013, 90⟩, ⟨44016, 44025, 90⟩, ⟨44032, 55203, 46⟩, ⟨55216, 55238, 46⟩,
    ⟨55243, 55291, 46⟩, ⟨63744, 64109, 47⟩, ⟨64112, 64217, 47⟩, ⟨64256, 64262, 69⟩,
    ⟨64275, 64279, 5⟩, ⟨64285, 64310, 50⟩, ⟨64312, 64316, 50⟩, ⟨64318, 64318, 50⟩,
    ⟨64320, 64321, 50⟩, ⟨64323, 64324, 50⟩, ⟨64326, 64335, 50⟩, ⟨64336, 64829, 3⟩,
    ⟨64830, 64831, 162⟩, ⟨64832, 64975, 3⟩, ⟨65008, 65023, 3⟩, ⟨65024, 65039, 161⟩,
    ⟨65040, 65049, 162⟩, ⟨65056, 65069, 161⟩, ⟨65070, 65071, 27⟩, ⟨65072, 65106, 162⟩]⟩,
  ⟨66993, [
    ⟨65108, 65126, 162⟩, ⟨65128, 65131, 162⟩, ⟨65136, 65140, 3⟩, ⟨65142, 65276, 3⟩,
    ⟨65279, 65279, 162⟩, ⟨65281, 65312, 162⟩, ⟨65313, 65338, 69⟩, ⟨65339, 65344, 162⟩,
    ⟨65345, 65370, 69⟩, ⟨65371, 65381, 162⟩, ⟨65382, 65391, 59⟩, ⟨65392, 65392, 162⟩,
    ⟨65393, 65437, 59⟩, ⟨65438, 65439, 162⟩, ⟨65440, 65470, 46⟩, ⟨65474, 65479, 46⟩,
    ⟨65482, 65487, 46⟩, ⟨65490, 65495, 46⟩, ⟨65498, 65500, 46⟩, ⟨65504, 65510, 162⟩,
    ⟨65512, 65518, 162⟩, ⟨65529, 65533, 162⟩, ⟨65536, 65547, 73⟩, ⟨65549, 65574, 73⟩,
    ⟨65576, 65594, 73⟩, ⟨65596, 65597, 73⟩, ⟨65599, 65613, 73⟩, ⟨65616, 65629, 73⟩,
    ⟨65664, 65786, 73⟩, ⟨65792, 65794, 162⟩, ⟨65799, 65843, 162⟩, ⟨65847, 65855, 162⟩,
    ⟨65856, 65934, 43⟩, ⟨65936, 65948, 162⟩, ⟨65952, 65952, 43⟩, ⟨66000, 66044, 162⟩,
    ⟨66045, 66045, 161⟩, ⟨66176, 66204, 75⟩, ⟨66208, 66256, 20⟩, ⟨66272, 66272, 161⟩,
    ⟨66273, 66299, 162⟩, ⟨66304, 66339, 56⟩, ⟨66349, 66351, 56⟩, ⟨66352, 66378, 41⟩,
    ⟨66384, 66426, 109⟩, ⟨66432, 66461, 151⟩, ⟨66463, 66463, 151⟩, ⟨66464, 66499, 156⟩,
    ⟨66504, 66517, 156⟩, ⟨66560, 66639, 31⟩, ⟨66640, 66687, 123⟩, ⟨66688, 66717, 105⟩,
    ⟨66720, 66729, 105⟩, ⟨66736, 66771, 104⟩, ⟨66776, 66811, 104⟩, ⟨66816, 66855, 34⟩,
    ⟨66864, 66915, 1⟩, ⟨66927, 66927, 1⟩, ⟨66928, 66938, 153⟩, ⟨66940, 66954, 153⟩,
    ⟨66956, 66962, 153⟩, ⟨66964, 66965, 153⟩, ⟨66967, 66977, 153⟩, ⟨66979, 66993, 153⟩]⟩,
  ⟨69293, [
    ⟨66995, 67001, 153⟩, ⟨67003, 67004, 153⟩, ⟨67008, 67059, 168⟩, ⟨67072, 67382, 72⟩,
    ⟨67392, 67413, 72⟩, ⟨67424, 67431, 72⟩, ⟨67456, 67461, 69⟩, ⟨67463, 67504, 69⟩,
    ⟨67506, 67514, 69⟩, ⟨67584, 67589, 26⟩, ⟨67592, 67592, 26⟩, ⟨67594, 67637, 26⟩,
    ⟨67639, 67640, 26⟩, ⟨67644, 67644, 26⟩, ⟨67647, 67647, 26⟩, ⟨67648, 67669, 4⟩,
    ⟨67671, 67679, 4⟩, ⟨67680, 67711, 107⟩, ⟨67712, 67742, 96⟩, ⟨67751, 67759, 96⟩,
    ⟨67808, 67826, 49⟩, ⟨67828, 67829, 49⟩, ⟨67835, 67839, 49⟩, ⟨67840, 67867, 113⟩,
    ⟨67871, 67871, 113⟩, ⟨67872, 67897, 76⟩, ⟨67903, 67903, 76⟩, ⟨67968, 67999, 85⟩,
    ⟨68000, 68023, 84⟩, ⟨68028, 68047, 84⟩, ⟨68050, 68095, 84⟩, ⟨68096, 68099, 61⟩,
    ⟨68101, 68102, 61⟩, ⟨68108, 68115, 61⟩, ⟨68117, 68119, 61⟩, ⟨68121, 68149, 61⟩,
    ⟨68152, 68154, 61⟩, ⟨68159, 68168, 61⟩, ⟨68176, 68184, 61⟩, ⟨68192, 68223, 120⟩,
    ⟨68224, 68255, 95⟩, ⟨68288, 68326, 80⟩, ⟨68331, 68342, 80⟩, ⟨68352, 68405, 6⟩,
    ⟨68409, 68415, 6⟩, ⟨68416, 68437, 115⟩, ⟨68440, 68447, 115⟩, ⟨68448, 68466, 111⟩,
    ⟨68472, 68479, 111⟩, ⟨68480, 68497, 112⟩, ⟨68505, 68508, 112⟩, ⟨68521, 68527, 112⟩,
    ⟨68608, 68680, 102⟩, ⟨68736, 68786, 55⟩, ⟨68800, 68850, 55⟩, ⟨68858, 68863, 55⟩,
    ⟨68864, 68903, 117⟩, ⟨68912, 68921, 117⟩, ⟨68928, 68965, 163⟩, ⟨68969, 68997, 163⟩,
    ⟨69006, 69007, 163⟩, ⟨69216, 69246, 3⟩, ⟨69248, 69289, 158⟩, ⟨69291, 69293, 158⟩]⟩,
  ⟨71236, [
    ⟨69296, 69297, 158⟩, ⟨69314, 69319, 3⟩, ⟨69328, 69336, 3⟩, ⟨69370, 69375, 3⟩,
    ⟨69376, 69415, 129⟩, ⟨69424, 69465, 128⟩, ⟨69488, 69513, 106⟩, ⟨69552, 69579, 23⟩,
    ⟨69600, 69622, 35⟩, ⟨69632, 69709, 14⟩, ⟨69714, 69749, 14⟩, ⟨69759, 69759, 14⟩,
    ⟨69760, 69826, 66⟩, ⟨69837, 69837, 66⟩, ⟨69840, 69864, 130⟩, ⟨69872, 69881, 130⟩,
    ⟨69888, 69940, 18⟩, ⟨69942, 69959, 18⟩, ⟨69968, 70006, 77⟩, ⟨70016, 70111, 124⟩,
    ⟨70113, 70132, 127⟩, ⟨70144, 70161, 63⟩, ⟨70163, 70209, 63⟩, ⟨70272, 70278, 91⟩,
    ⟨70280, 70280, 91⟩, ⟨70282, 70285, 91⟩, ⟨70287, 70301, 91⟩, ⟨70303, 70313, 91⟩,
    ⟨70320, 70378, 126⟩, ⟨70384, 70393, 126⟩, ⟨70400, 70403, 42⟩, ⟨70405, 70412, 42⟩,
    ⟨70415, 70416, 42⟩, ⟨70419, 70440, 42⟩, ⟨70442, 70448, 42⟩, ⟨70450, 70451, 42⟩,
    ⟨70453, 70457, 42⟩, ⟨70459, 70459, 161⟩, ⟨70460, 70468, 42⟩, ⟨70471, 70472, 42⟩,
    ⟨70475, 70477, 42⟩, ⟨70480, 70480, 42⟩, ⟨70487, 70487, 42⟩, ⟨70493, 70499, 42⟩,
    ⟨70502, 70508, 42⟩, ⟨70512, 70516, 42⟩, ⟨70528, 70537, 169⟩, ⟨70539, 70539, 169⟩,
    ⟨70542, 70542, 169⟩, ⟨70544, 70581, 169⟩, ⟨70583, 70592, 169⟩, ⟨70594, 70594, 169⟩,
    ⟨70597, 70597, 169⟩, ⟨70599, 70602, 169⟩, ⟨70604, 70613, 169⟩, ⟨70615, 70616, 169⟩,
    ⟨70625, 70626, 169⟩, ⟨70656, 70747, 97⟩, ⟨70749, 70753, 97⟩, ⟨70784, 70855, 148⟩,
    ⟨70864, 70873, 148⟩, ⟨71040, 71093, 125⟩, ⟨71096, 71133, 125⟩, ⟨71168, 71236, 87⟩]⟩,
  ⟨82938, [
    ⟨71248, 71257, 87⟩, ⟨71264, 71276, 88⟩, ⟨71296, 71353, 136⟩, ⟨71360, 71369, 136⟩,
    ⟨71376, 71395, 92⟩, ⟨71424, 71450, 2⟩, ⟨71453, 71467, 2⟩, ⟨71472, 71494, 2⟩, ⟨71680, 71739, 30⟩,
    ⟨71840, 71922, 154⟩, ⟨71935, 71935, 154⟩, ⟨71936, 71942, 29⟩, ⟨71945, 71945, 29⟩,
    ⟨71948, 71955, 29⟩, ⟨71957, 71958, 29⟩, ⟨71960, 71989, 29⟩, ⟨71991, 71992, 29⟩,
    ⟨71995, 72006, 29⟩, ⟨72016, 72025, 29⟩, ⟨72096, 72103, 94⟩, ⟨72106, 72151, 94⟩,
    ⟨72154, 72164, 94⟩, ⟨72192, 72263, 160⟩, ⟨72272, 72354, 131⟩, ⟨72368, 72383, 19⟩,
    ⟨72384, 72440, 108⟩, ⟨72448, 72457, 28⟩, ⟨72544, 72551, 124⟩, ⟨72640, 72673, 167⟩,
    ⟨72688, 72697, 167⟩, ⟨72704, 72712, 12⟩, ⟨72714, 72758, 12⟩, ⟨72760, 72773, 12⟩,
    ⟨72784, 72812, 12⟩, ⟨72816, 72847, 81⟩, ⟨72850, 72871, 81⟩, ⟨72873, 72886, 81⟩,
    ⟨72960, 72966, 40⟩, ⟨72968, 72969, 40⟩, ⟨72971, 73014, 40⟩, ⟨73018, 73018, 40⟩,
    ⟨73020, 73021, 40⟩, ⟨73023, 73031, 40⟩, ⟨73040, 73049, 40⟩, ⟨73056, 73061, 39⟩,
    ⟨73063, 73064, 39⟩, ⟨73066, 73102, 39⟩, ⟨73104, 73105, 39⟩, ⟨73107, 73112, 39⟩,
    ⟨73120, 73129, 39⟩, ⟨73440, 73464, 78⟩, ⟨73472, 73488, 60⟩, ⟨73490, 73530, 60⟩,
    ⟨73534, 73562, 60⟩, ⟨73648, 73648, 74⟩, ⟨73664, 73713, 139⟩, ⟨73727, 73727, 139⟩,
    ⟨73728, 74649, 157⟩, ⟨74752, 74862, 157⟩, ⟨74864, 74868, 157⟩, ⟨74880, 75075, 157⟩,
    ⟨77712, 77810, 25⟩, ⟨77824, 78933, 33⟩, ⟨78944, 82938, 33⟩]⟩,
  ⟨119213, [
    ⟨82944, 83526, 52⟩, ⟨90368, 90425, 164⟩, ⟨92160, 92728, 8⟩, ⟨92736, 92766, 89⟩,
    ⟨92768, 92777, 89⟩, ⟨92782, 92783, 89⟩, ⟨92784, 92862, 149⟩, ⟨92864, 92873, 149⟩,
    ⟨92880, 92909, 9⟩, ⟨92912, 92917, 9⟩, ⟨92928, 92997, 53⟩, ⟨93008, 93017, 53⟩,
    ⟨93019, 93025, 53⟩, ⟨93027, 93047, 53⟩, ⟨93053, 93071, 53⟩, ⟨93504, 93561, 165⟩,
    ⟨93760, 93850, 82⟩, ⟨93952, 94026, 114⟩, ⟨94031, 94087, 114⟩, ⟨94095, 94111, 114⟩,
    ⟨94176, 94176, 140⟩, ⟨94177, 94177, 99⟩, ⟨94178, 94179, 47⟩, ⟨94180, 94180, 64⟩,
    ⟨94192, 94198, 47⟩, ⟨94208, 101119, 140⟩, ⟨101120, 101589, 64⟩, ⟨101631, 101631, 64⟩,
    ⟨101632, 101662, 140⟩, ⟨101760, 101874, 140⟩, ⟨110576, 110579, 59⟩, ⟨110581, 110587, 59⟩,
    ⟨110589, 110590, 59⟩, ⟨110592, 110592, 59⟩, ⟨110593, 110879, 51⟩, ⟨110880, 110882, 59⟩,
    ⟨110898, 110898, 51⟩, ⟨110928, 110930, 51⟩, ⟨110933, 110933, 59⟩, ⟨110948, 110951, 59⟩,
    ⟨110960, 111355, 99⟩, ⟨113664, 113770, 32⟩, ⟨113776, 113788, 32⟩, ⟨113792, 113800, 32⟩,
    ⟨113808, 113817, 32⟩, ⟨113820, 113823, 32⟩, ⟨113824, 113827, 162⟩, ⟨117760, 118012, 162⟩,
    ⟨118016, 118451, 162⟩, ⟨118458, 118480, 162⟩, ⟨118496, 118512, 162⟩, ⟨118528, 118573, 161⟩,
    ⟨118576, 118598, 161⟩, ⟨118608, 118723, 162⟩, ⟨118784, 119029, 162⟩, ⟨119040, 119078, 162⟩,
    ⟨119081, 119142, 162⟩, ⟨119143, 119145, 161⟩, ⟨119146, 119162, 162⟩, ⟨119163, 119170, 161⟩,
    ⟨119171, 119172, 162⟩, ⟨119173, 119179, 161⟩, ⟨119180, 119209, 162⟩, ⟨119210, 119213, 161⟩]⟩,
  ⟨126500, [
    ⟨119214, 119274, 162⟩, ⟨119296, 119365, 43⟩, ⟨119488, 119507, 162⟩, ⟨119520, 119539, 162⟩,
    ⟨119552, 119638, 162⟩, ⟨119648, 119672, 162⟩, ⟨119808, 119892, 162⟩, ⟨119894, 119964, 162⟩,
    ⟨119966, 119967, 162⟩, ⟨119970, 119970, 162⟩, ⟨119973, 119974, 162⟩, ⟨119977, 119980, 162⟩,
    ⟨119982, 119993, 162⟩, ⟨119995, 119995, 162⟩, ⟨119997, 120003, 162⟩, ⟨120005, 120069, 162⟩,
    ⟨120071, 120074, 162⟩, ⟨120077, 120084, 162⟩, ⟨120086, 120092, 162⟩, ⟨120094, 120121, 162⟩,
    ⟨120123, 120126, 162⟩, ⟨120128, 120132, 162⟩, ⟨120134, 120134, 162⟩, ⟨120138, 120144, 162⟩,
    ⟨120146, 120485, 162⟩, ⟨120488, 120779, 162⟩, ⟨120782, 120831, 162⟩, ⟨120832, 121483, 122⟩,
    ⟨121499, 121503, 122⟩, ⟨121505, 121519, 122⟩, ⟨122624, 122654, 69⟩, ⟨122661, 122666, 69⟩,
    ⟨122880, 122886, 38⟩, ⟨122888, 122904, 38⟩, ⟨122907, 122913, 38⟩, ⟨122915, 122916, 38⟩,
    ⟨122918, 122922, 38⟩, ⟨122928, 122989, 27⟩, ⟨123023, 123023, 27⟩, ⟨123136, 123180, 54⟩,
    ⟨123184, 123197, 54⟩, ⟨123200, 123209, 54⟩, ⟨123214, 123215, 54⟩, ⟨123536, 123566, 150⟩,
    ⟨123584, 123641, 155⟩, ⟨123647, 123647, 155⟩, ⟨124112, 124153, 93⟩, ⟨124368, 124410, 166⟩,
    ⟨124415, 124415, 166⟩, ⟨124896, 124902, 36⟩, ⟨124904, 124907, 36⟩, ⟨124909, 124910, 36⟩,
    ⟨124912, 124926, 36⟩, ⟨124928, 125124, 83⟩, ⟨125127, 125142, 83⟩, ⟨125184, 125259, 0⟩,
    ⟨125264, 125273, 0⟩, ⟨125278, 125279, 0⟩, ⟨126065, 126132, 162⟩, ⟨126209, 126269, 162⟩,
    ⟨126464, 126467, 3⟩, ⟨126469, 126495, 3⟩, ⟨126497, 126498, 3⟩, ⟨126500, 126500, 3⟩]⟩,
  ⟨129736, [
    ⟨126503, 126503, 3⟩, ⟨126505, 126514, 3⟩, ⟨126516, 126519, 3⟩, ⟨126521, 126521, 3⟩,
    ⟨126523, 126523, 3⟩, ⟨126530, 126530, 3⟩, ⟨126535, 126535, 3⟩, ⟨126537, 126537, 3⟩,
    ⟨126539, 126539, 3⟩, ⟨126541, 126543, 3⟩, ⟨126545, 126546, 3⟩, ⟨126548, 126548, 3⟩,
    ⟨126551, 126551, 3⟩, ⟨126553, 126553, 3⟩, ⟨126555, 126555, 3⟩, ⟨126557, 126557, 3⟩,
    ⟨126559, 126559, 3⟩, ⟨126561, 126562, 3⟩, ⟨126564, 126564, 3⟩, ⟨126567, 126570, 3⟩,
    ⟨126572, 126578, 3⟩, ⟨126580, 126583, 3⟩, ⟨126585, 126588, 3⟩, ⟨126590, 126590, 3⟩,
    ⟨126592, 126601, 3⟩, ⟨126603, 126619, 3⟩, ⟨126625, 126627, 3⟩, ⟨126629, 126633, 3⟩,
    ⟨126635, 126651, 3⟩, ⟨126704, 126705, 3⟩, ⟨126976, 127019, 162⟩, ⟨127024, 127123, 162⟩,
    ⟨127136, 127150, 162⟩, ⟨127153, 127167, 162⟩, ⟨127169, 127183, 162⟩, ⟨127185, 127221, 162⟩,
    ⟨127232, 127405, 162⟩, ⟨127462, 127487, 162⟩, ⟨127488, 127488, 51⟩, ⟨127489, 127490, 162⟩,
    ⟨127504, 127547, 162⟩, ⟨127552, 127560, 162⟩, ⟨127568, 127569, 162⟩, ⟨127584, 127589, 162⟩,
    ⟨127744, 128728, 162⟩, ⟨128732, 128748, 162⟩, ⟨128752, 128764, 162⟩, ⟨128768, 128985, 162⟩,
    ⟨128992, 129003, 162⟩, ⟨129008, 129008, 162⟩, ⟨129024, 129035, 162⟩, ⟨129040, 129095, 162⟩,
    ⟨129104, 129113, 162⟩, ⟨129120, 129159, 162⟩, ⟨129168, 129197, 162⟩, ⟨129200, 129211, 162⟩,
    ⟨129216, 129217, 162⟩, ⟨129232, 129240, 162⟩, ⟨129280, 129623, 162⟩, ⟨129632, 129645, 162⟩,
    ⟨129648, 129660, 162⟩, ⟨129664, 129674, 162⟩, ⟨129678, 129734, 162⟩, ⟨129736, 129736, 162⟩]⟩,
  ⟨917999, [
    ⟨129741, 129756, 162⟩, ⟨129759, 129770, 162⟩, ⟨129775, 129784, 162⟩, ⟨129792, 129938, 162⟩,
    ⟨129940, 130042, 162⟩, ⟨131072, 173791, 47⟩, ⟨173824, 178205, 47⟩, ⟨178208, 183981, 47⟩,
    ⟨183984, 191456, 47⟩, ⟨191472, 192093, 47⟩, ⟨194560, 195101, 47⟩, ⟨196608, 201546, 47⟩,
    ⟨201552, 210041, 47⟩, ⟨917505, 917505, 162⟩, ⟨917536, 917631, 162⟩, ⟨917760, 917999, 161⟩]⟩]

/-- The script that sorted rows give a code point. -/
def scriptInRows (point : Nat) : List ScriptRow → Option Nat
  | [] => none
  | row :: later =>
      if point < row.first then none
      else if point ≤ row.last then some row.script
      else scriptInRows point later

/-- The script that the blocks give a code point. -/
def scriptInBlocks (point : Nat) : List ScriptBlock → Option Nat
  | [] => none
  | block :: later =>
      if point ≤ block.last then scriptInRows point block.rows else scriptInBlocks point later

/-- The number of the script of a character, if it has one. -/
def script? (c : Char) : Option Nat :=
  scriptInBlocks c.toNat scriptBlocks

/-- The number of the script with the given name. -/
def scriptNumber? (name : String) : Option Nat :=
  scriptNames.findIdx? (·.contains name)

end PhraseRules.Unicode
