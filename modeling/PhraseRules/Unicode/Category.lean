/-!
# General categories

The general category of every character.  Stretches in which an uppercase letter and its lowercase
form alternate are written as one row.
-/

namespace PhraseRules.Unicode

/-- The general category of a character. -/
inductive Category where
  | uppercaseLetter | lowercaseLetter | titlecaseLetter | modifierLetter | otherLetter
  | nonspacingMark | spacingMark | enclosingMark | decimalNumber | letterNumber | otherNumber
  | connectorPunctuation | dashPunctuation | openPunctuation | closePunctuation
  | initialPunctuation | finalPunctuation | otherPunctuation | mathSymbol | currencySymbol
  | modifierSymbol | otherSymbol | spaceSeparator | lineSeparator | paragraphSeparator
  | control | format | privateUse | unassigned
deriving DecidableEq, Repr

/-- The categories in the order in which rows number them. -/
def Category.all : List Category := [
  .uppercaseLetter, .lowercaseLetter, .titlecaseLetter, .modifierLetter, .otherLetter,
  .nonspacingMark, .spacingMark, .enclosingMark, .decimalNumber, .letterNumber, .otherNumber,
  .connectorPunctuation, .dashPunctuation, .openPunctuation, .closePunctuation, .initialPunctuation,
  .finalPunctuation, .otherPunctuation, .mathSymbol, .currencySymbol, .modifierSymbol, .otherSymbol,
  .spaceSeparator, .lineSeparator, .paragraphSeparator, .control, .format, .privateUse, .unassigned]

/-- A stretch of code points of one category, or of alternating upper and lower case. -/
structure CategoryRow where
  first : Nat
  last : Nat
  code : Nat

/-- Sorted rows, none of which ends after `last`. -/
structure CategoryBlock where
  last : Nat
  rows : List CategoryRow

/-- The number that marks a stretch of alternating case. -/
def alternatingCode : Nat := 29

/-- The assigned code points below U+1000. -/
def lowBlocks : List CategoryBlock := [
  ⟨329, [
    ⟨0, 31, 25⟩, ⟨32, 32, 22⟩, ⟨33, 35, 17⟩, ⟨36, 36, 19⟩, ⟨37, 39, 17⟩, ⟨40, 40, 13⟩, ⟨41, 41, 14⟩,
    ⟨42, 42, 17⟩, ⟨43, 43, 18⟩, ⟨44, 44, 17⟩, ⟨45, 45, 12⟩, ⟨46, 47, 17⟩, ⟨48, 57, 8⟩, ⟨58, 59, 17⟩,
    ⟨60, 62, 18⟩, ⟨63, 64, 17⟩, ⟨65, 90, 0⟩, ⟨91, 91, 13⟩, ⟨92, 92, 17⟩, ⟨93, 93, 14⟩, ⟨94, 94, 20⟩,
    ⟨95, 95, 11⟩, ⟨96, 96, 20⟩, ⟨97, 122, 1⟩, ⟨123, 123, 13⟩, ⟨124, 124, 18⟩, ⟨125, 125, 14⟩,
    ⟨126, 126, 18⟩, ⟨127, 159, 25⟩, ⟨160, 160, 22⟩, ⟨161, 161, 17⟩, ⟨162, 165, 19⟩, ⟨166, 166, 21⟩,
    ⟨167, 167, 17⟩, ⟨168, 168, 20⟩, ⟨169, 169, 21⟩, ⟨170, 170, 4⟩, ⟨171, 171, 15⟩, ⟨172, 172, 18⟩,
    ⟨173, 173, 26⟩, ⟨174, 174, 21⟩, ⟨175, 175, 20⟩, ⟨176, 176, 21⟩, ⟨177, 177, 18⟩, ⟨178, 179, 10⟩,
    ⟨180, 180, 20⟩, ⟨181, 181, 1⟩, ⟨182, 183, 17⟩, ⟨184, 184, 20⟩, ⟨185, 185, 10⟩, ⟨186, 186, 4⟩,
    ⟨187, 187, 16⟩, ⟨188, 190, 10⟩, ⟨191, 191, 17⟩, ⟨192, 214, 0⟩, ⟨215, 215, 18⟩, ⟨216, 222, 0⟩,
    ⟨223, 246, 1⟩, ⟨247, 247, 18⟩, ⟨248, 255, 1⟩, ⟨256, 310, 29⟩, ⟨311, 312, 1⟩, ⟨313, 327, 29⟩,
    ⟨328, 329, 1⟩]⟩,
  ⟨569, [
    ⟨330, 375, 29⟩, ⟨376, 377, 0⟩, ⟨378, 378, 1⟩, ⟨379, 381, 29⟩, ⟨382, 384, 1⟩, ⟨385, 386, 0⟩,
    ⟨387, 387, 1⟩, ⟨388, 388, 0⟩, ⟨389, 389, 1⟩, ⟨390, 391, 0⟩, ⟨392, 392, 1⟩, ⟨393, 395, 0⟩,
    ⟨396, 397, 1⟩, ⟨398, 401, 0⟩, ⟨402, 402, 1⟩, ⟨403, 404, 0⟩, ⟨405, 405, 1⟩, ⟨406, 408, 0⟩,
    ⟨409, 411, 1⟩, ⟨412, 413, 0⟩, ⟨414, 414, 1⟩, ⟨415, 416, 0⟩, ⟨417, 417, 1⟩, ⟨418, 421, 29⟩,
    ⟨422, 423, 0⟩, ⟨424, 424, 1⟩, ⟨425, 425, 0⟩, ⟨426, 427, 1⟩, ⟨428, 428, 0⟩, ⟨429, 429, 1⟩,
    ⟨430, 431, 0⟩, ⟨432, 432, 1⟩, ⟨433, 435, 0⟩, ⟨436, 436, 1⟩, ⟨437, 437, 0⟩, ⟨438, 438, 1⟩,
    ⟨439, 440, 0⟩, ⟨441, 442, 1⟩, ⟨443, 443, 4⟩, ⟨444, 444, 0⟩, ⟨445, 447, 1⟩, ⟨448, 451, 4⟩,
    ⟨452, 452, 0⟩, ⟨453, 453, 2⟩, ⟨454, 454, 1⟩, ⟨455, 455, 0⟩, ⟨456, 456, 2⟩, ⟨457, 457, 1⟩,
    ⟨458, 458, 0⟩, ⟨459, 459, 2⟩, ⟨460, 460, 1⟩, ⟨461, 475, 29⟩, ⟨476, 477, 1⟩, ⟨478, 494, 29⟩,
    ⟨495, 496, 1⟩, ⟨497, 497, 0⟩, ⟨498, 498, 2⟩, ⟨499, 499, 1⟩, ⟨500, 500, 0⟩, ⟨501, 501, 1⟩,
    ⟨502, 504, 0⟩, ⟨505, 505, 1⟩, ⟨506, 562, 29⟩, ⟨563, 569, 1⟩]⟩,
  ⟨1218, [
    ⟨570, 571, 0⟩, ⟨572, 572, 1⟩, ⟨573, 574, 0⟩, ⟨575, 576, 1⟩, ⟨577, 577, 0⟩, ⟨578, 578, 1⟩,
    ⟨579, 582, 0⟩, ⟨583, 583, 1⟩, ⟨584, 590, 29⟩, ⟨591, 659, 1⟩, ⟨660, 661, 4⟩, ⟨662, 687, 1⟩,
    ⟨688, 705, 3⟩, ⟨706, 709, 20⟩, ⟨710, 721, 3⟩, ⟨722, 735, 20⟩, ⟨736, 740, 3⟩, ⟨741, 747, 20⟩,
    ⟨748, 748, 3⟩, ⟨749, 749, 20⟩, ⟨750, 750, 3⟩, ⟨751, 767, 20⟩, ⟨768, 879, 5⟩, ⟨880, 883, 29⟩,
    ⟨884, 884, 3⟩, ⟨885, 885, 20⟩, ⟨886, 886, 0⟩, ⟨887, 887, 1⟩, ⟨890, 890, 3⟩, ⟨891, 893, 1⟩,
    ⟨894, 894, 17⟩, ⟨895, 895, 0⟩, ⟨900, 901, 20⟩, ⟨902, 902, 0⟩, ⟨903, 903, 17⟩, ⟨904, 906, 0⟩,
    ⟨908, 908, 0⟩, ⟨910, 911, 0⟩, ⟨912, 912, 1⟩, ⟨913, 929, 0⟩, ⟨931, 939, 0⟩, ⟨940, 974, 1⟩,
    ⟨975, 975, 0⟩, ⟨976, 977, 1⟩, ⟨978, 980, 0⟩, ⟨981, 983, 1⟩, ⟨984, 1006, 29⟩, ⟨1007, 1011, 1⟩,
    ⟨1012, 1012, 0⟩, ⟨1013, 1013, 1⟩, ⟨1014, 1014, 18⟩, ⟨1015, 1015, 0⟩, ⟨1016, 1016, 1⟩,
    ⟨1017, 1018, 0⟩, ⟨1019, 1020, 1⟩, ⟨1021, 1071, 0⟩, ⟨1072, 1119, 1⟩, ⟨1120, 1153, 29⟩,
    ⟨1154, 1154, 21⟩, ⟨1155, 1159, 5⟩, ⟨1160, 1161, 7⟩, ⟨1162, 1215, 29⟩, ⟨1216, 1217, 0⟩,
    ⟨1218, 1218, 1⟩]⟩,
  ⟨1957, [
    ⟨1219, 1229, 29⟩, ⟨1230, 1231, 1⟩, ⟨1232, 1327, 29⟩, ⟨1329, 1366, 0⟩, ⟨1369, 1369, 3⟩,
    ⟨1370, 1375, 17⟩, ⟨1376, 1416, 1⟩, ⟨1417, 1417, 17⟩, ⟨1418, 1418, 12⟩, ⟨1421, 1422, 21⟩,
    ⟨1423, 1423, 19⟩, ⟨1425, 1469, 5⟩, ⟨1470, 1470, 12⟩, ⟨1471, 1471, 5⟩, ⟨1472, 1472, 17⟩,
    ⟨1473, 1474, 5⟩, ⟨1475, 1475, 17⟩, ⟨1476, 1477, 5⟩, ⟨1478, 1478, 17⟩, ⟨1479, 1479, 5⟩,
    ⟨1488, 1514, 4⟩, ⟨1519, 1522, 4⟩, ⟨1523, 1524, 17⟩, ⟨1536, 1541, 26⟩, ⟨1542, 1544, 18⟩,
    ⟨1545, 1546, 17⟩, ⟨1547, 1547, 19⟩, ⟨1548, 1549, 17⟩, ⟨1550, 1551, 21⟩, ⟨1552, 1562, 5⟩,
    ⟨1563, 1563, 17⟩, ⟨1564, 1564, 26⟩, ⟨1565, 1567, 17⟩, ⟨1568, 1599, 4⟩, ⟨1600, 1600, 3⟩,
    ⟨1601, 1610, 4⟩, ⟨1611, 1631, 5⟩, ⟨1632, 1641, 8⟩, ⟨1642, 1645, 17⟩, ⟨1646, 1647, 4⟩,
    ⟨1648, 1648, 5⟩, ⟨1649, 1747, 4⟩, ⟨1748, 1748, 17⟩, ⟨1749, 1749, 4⟩, ⟨1750, 1756, 5⟩,
    ⟨1757, 1757, 26⟩, ⟨1758, 1758, 21⟩, ⟨1759, 1764, 5⟩, ⟨1765, 1766, 3⟩, ⟨1767, 1768, 5⟩,
    ⟨1769, 1769, 21⟩, ⟨1770, 1773, 5⟩, ⟨1774, 1775, 4⟩, ⟨1776, 1785, 8⟩, ⟨1786, 1788, 4⟩,
    ⟨1789, 1790, 21⟩, ⟨1791, 1791, 4⟩, ⟨1792, 1805, 17⟩, ⟨1807, 1807, 26⟩, ⟨1808, 1808, 4⟩,
    ⟨1809, 1809, 5⟩, ⟨1810, 1839, 4⟩, ⟨1840, 1866, 5⟩, ⟨1869, 1957, 4⟩]⟩,
  ⟨2493, [
    ⟨1958, 1968, 5⟩, ⟨1969, 1969, 4⟩, ⟨1984, 1993, 8⟩, ⟨1994, 2026, 4⟩, ⟨2027, 2035, 5⟩,
    ⟨2036, 2037, 3⟩, ⟨2038, 2038, 21⟩, ⟨2039, 2041, 17⟩, ⟨2042, 2042, 3⟩, ⟨2045, 2045, 5⟩,
    ⟨2046, 2047, 19⟩, ⟨2048, 2069, 4⟩, ⟨2070, 2073, 5⟩, ⟨2074, 2074, 3⟩, ⟨2075, 2083, 5⟩,
    ⟨2084, 2084, 3⟩, ⟨2085, 2087, 5⟩, ⟨2088, 2088, 3⟩, ⟨2089, 2093, 5⟩, ⟨2096, 2110, 17⟩,
    ⟨2112, 2136, 4⟩, ⟨2137, 2139, 5⟩, ⟨2142, 2142, 17⟩, ⟨2144, 2154, 4⟩, ⟨2160, 2183, 4⟩,
    ⟨2184, 2184, 20⟩, ⟨2185, 2191, 4⟩, ⟨2192, 2193, 26⟩, ⟨2199, 2207, 5⟩, ⟨2208, 2248, 4⟩,
    ⟨2249, 2249, 3⟩, ⟨2250, 2273, 5⟩, ⟨2274, 2274, 26⟩, ⟨2275, 2306, 5⟩, ⟨2307, 2307, 6⟩,
    ⟨2308, 2361, 4⟩, ⟨2362, 2362, 5⟩, ⟨2363, 2363, 6⟩, ⟨2364, 2364, 5⟩, ⟨2365, 2365, 4⟩,
    ⟨2366, 2368, 6⟩, ⟨2369, 2376, 5⟩, ⟨2377, 2380, 6⟩, ⟨2381, 2381, 5⟩, ⟨2382, 2383, 6⟩,
    ⟨2384, 2384, 4⟩, ⟨2385, 2391, 5⟩, ⟨2392, 2401, 4⟩, ⟨2402, 2403, 5⟩, ⟨2404, 2405, 17⟩,
    ⟨2406, 2415, 8⟩, ⟨2416, 2416, 17⟩, ⟨2417, 2417, 3⟩, ⟨2418, 2432, 4⟩, ⟨2433, 2433, 5⟩,
    ⟨2434, 2435, 6⟩, ⟨2437, 2444, 4⟩, ⟨2447, 2448, 4⟩, ⟨2451, 2472, 4⟩, ⟨2474, 2480, 4⟩,
    ⟨2482, 2482, 4⟩, ⟨2486, 2489, 4⟩, ⟨2492, 2492, 5⟩, ⟨2493, 2493, 4⟩]⟩,
  ⟨2809, [
    ⟨2494, 2496, 6⟩, ⟨2497, 2500, 5⟩, ⟨2503, 2504, 6⟩, ⟨2507, 2508, 6⟩, ⟨2509, 2509, 5⟩,
    ⟨2510, 2510, 4⟩, ⟨2519, 2519, 6⟩, ⟨2524, 2525, 4⟩, ⟨2527, 2529, 4⟩, ⟨2530, 2531, 5⟩,
    ⟨2534, 2543, 8⟩, ⟨2544, 2545, 4⟩, ⟨2546, 2547, 19⟩, ⟨2548, 2553, 10⟩, ⟨2554, 2554, 21⟩,
    ⟨2555, 2555, 19⟩, ⟨2556, 2556, 4⟩, ⟨2557, 2557, 17⟩, ⟨2558, 2558, 5⟩, ⟨2561, 2562, 5⟩,
    ⟨2563, 2563, 6⟩, ⟨2565, 2570, 4⟩, ⟨2575, 2576, 4⟩, ⟨2579, 2600, 4⟩, ⟨2602, 2608, 4⟩,
    ⟨2610, 2611, 4⟩, ⟨2613, 2614, 4⟩, ⟨2616, 2617, 4⟩, ⟨2620, 2620, 5⟩, ⟨2622, 2624, 6⟩,
    ⟨2625, 2626, 5⟩, ⟨2631, 2632, 5⟩, ⟨2635, 2637, 5⟩, ⟨2641, 2641, 5⟩, ⟨2649, 2652, 4⟩,
    ⟨2654, 2654, 4⟩, ⟨2662, 2671, 8⟩, ⟨2672, 2673, 5⟩, ⟨2674, 2676, 4⟩, ⟨2677, 2677, 5⟩,
    ⟨2678, 2678, 17⟩, ⟨2689, 2690, 5⟩, ⟨2691, 2691, 6⟩, ⟨2693, 2701, 4⟩, ⟨2703, 2705, 4⟩,
    ⟨2707, 2728, 4⟩, ⟨2730, 2736, 4⟩, ⟨2738, 2739, 4⟩, ⟨2741, 2745, 4⟩, ⟨2748, 2748, 5⟩,
    ⟨2749, 2749, 4⟩, ⟨2750, 2752, 6⟩, ⟨2753, 2757, 5⟩, ⟨2759, 2760, 5⟩, ⟨2761, 2761, 6⟩,
    ⟨2763, 2764, 6⟩, ⟨2765, 2765, 5⟩, ⟨2768, 2768, 4⟩, ⟨2784, 2785, 4⟩, ⟨2786, 2787, 5⟩,
    ⟨2790, 2799, 8⟩, ⟨2800, 2800, 17⟩, ⟨2801, 2801, 19⟩, ⟨2809, 2809, 4⟩]⟩,
  ⟨3149, [
    ⟨2810, 2815, 5⟩, ⟨2817, 2817, 5⟩, ⟨2818, 2819, 6⟩, ⟨2821, 2828, 4⟩, ⟨2831, 2832, 4⟩,
    ⟨2835, 2856, 4⟩, ⟨2858, 2864, 4⟩, ⟨2866, 2867, 4⟩, ⟨2869, 2873, 4⟩, ⟨2876, 2876, 5⟩,
    ⟨2877, 2877, 4⟩, ⟨2878, 2878, 6⟩, ⟨2879, 2879, 5⟩, ⟨2880, 2880, 6⟩, ⟨2881, 2884, 5⟩,
    ⟨2887, 2888, 6⟩, ⟨2891, 2892, 6⟩, ⟨2893, 2893, 5⟩, ⟨2901, 2902, 5⟩, ⟨2903, 2903, 6⟩,
    ⟨2908, 2909, 4⟩, ⟨2911, 2913, 4⟩, ⟨2914, 2915, 5⟩, ⟨2918, 2927, 8⟩, ⟨2928, 2928, 21⟩,
    ⟨2929, 2929, 4⟩, ⟨2930, 2935, 10⟩, ⟨2946, 2946, 5⟩, ⟨2947, 2947, 4⟩, ⟨2949, 2954, 4⟩,
    ⟨2958, 2960, 4⟩, ⟨2962, 2965, 4⟩, ⟨2969, 2970, 4⟩, ⟨2972, 2972, 4⟩, ⟨2974, 2975, 4⟩,
    ⟨2979, 2980, 4⟩, ⟨2984, 2986, 4⟩, ⟨2990, 3001, 4⟩, ⟨3006, 3007, 6⟩, ⟨3008, 3008, 5⟩,
    ⟨3009, 3010, 6⟩, ⟨3014, 3016, 6⟩, ⟨3018, 3020, 6⟩, ⟨3021, 3021, 5⟩, ⟨3024, 3024, 4⟩,
    ⟨3031, 3031, 6⟩, ⟨3046, 3055, 8⟩, ⟨3056, 3058, 10⟩, ⟨3059, 3064, 21⟩, ⟨3065, 3065, 19⟩,
    ⟨3066, 3066, 21⟩, ⟨3072, 3072, 5⟩, ⟨3073, 3075, 6⟩, ⟨3076, 3076, 5⟩, ⟨3077, 3084, 4⟩,
    ⟨3086, 3088, 4⟩, ⟨3090, 3112, 4⟩, ⟨3114, 3129, 4⟩, ⟨3132, 3132, 5⟩, ⟨3133, 3133, 4⟩,
    ⟨3134, 3136, 5⟩, ⟨3137, 3140, 6⟩, ⟨3142, 3144, 5⟩, ⟨3146, 3149, 5⟩]⟩,
  ⟨3526, [
    ⟨3157, 3158, 5⟩, ⟨3160, 3162, 4⟩, ⟨3164, 3165, 4⟩, ⟨3168, 3169, 4⟩, ⟨3170, 3171, 5⟩,
    ⟨3174, 3183, 8⟩, ⟨3191, 3191, 17⟩, ⟨3192, 3198, 10⟩, ⟨3199, 3199, 21⟩, ⟨3200, 3200, 4⟩,
    ⟨3201, 3201, 5⟩, ⟨3202, 3203, 6⟩, ⟨3204, 3204, 17⟩, ⟨3205, 3212, 4⟩, ⟨3214, 3216, 4⟩,
    ⟨3218, 3240, 4⟩, ⟨3242, 3251, 4⟩, ⟨3253, 3257, 4⟩, ⟨3260, 3260, 5⟩, ⟨3261, 3261, 4⟩,
    ⟨3262, 3262, 6⟩, ⟨3263, 3263, 5⟩, ⟨3264, 3268, 6⟩, ⟨3270, 3270, 5⟩, ⟨3271, 3272, 6⟩,
    ⟨3274, 3275, 6⟩, ⟨3276, 3277, 5⟩, ⟨3285, 3286, 6⟩, ⟨3292, 3294, 4⟩, ⟨3296, 3297, 4⟩,
    ⟨3298, 3299, 5⟩, ⟨3302, 3311, 8⟩, ⟨3313, 3314, 4⟩, ⟨3315, 3315, 6⟩, ⟨3328, 3329, 5⟩,
    ⟨3330, 3331, 6⟩, ⟨3332, 3340, 4⟩, ⟨3342, 3344, 4⟩, ⟨3346, 3386, 4⟩, ⟨3387, 3388, 5⟩,
    ⟨3389, 3389, 4⟩, ⟨3390, 3392, 6⟩, ⟨3393, 3396, 5⟩, ⟨3398, 3400, 6⟩, ⟨3402, 3404, 6⟩,
    ⟨3405, 3405, 5⟩, ⟨3406, 3406, 4⟩, ⟨3407, 3407, 21⟩, ⟨3412, 3414, 4⟩, ⟨3415, 3415, 6⟩,
    ⟨3416, 3422, 10⟩, ⟨3423, 3425, 4⟩, ⟨3426, 3427, 5⟩, ⟨3430, 3439, 8⟩, ⟨3440, 3448, 10⟩,
    ⟨3449, 3449, 21⟩, ⟨3450, 3455, 4⟩, ⟨3457, 3457, 5⟩, ⟨3458, 3459, 6⟩, ⟨3461, 3478, 4⟩,
    ⟨3482, 3505, 4⟩, ⟨3507, 3515, 4⟩, ⟨3517, 3517, 4⟩, ⟨3520, 3526, 4⟩]⟩,
  ⟨3991, [
    ⟨3530, 3530, 5⟩, ⟨3535, 3537, 6⟩, ⟨3538, 3540, 5⟩, ⟨3542, 3542, 5⟩, ⟨3544, 3551, 6⟩,
    ⟨3558, 3567, 8⟩, ⟨3570, 3571, 6⟩, ⟨3572, 3572, 17⟩, ⟨3585, 3632, 4⟩, ⟨3633, 3633, 5⟩,
    ⟨3634, 3635, 4⟩, ⟨3636, 3642, 5⟩, ⟨3647, 3647, 19⟩, ⟨3648, 3653, 4⟩, ⟨3654, 3654, 3⟩,
    ⟨3655, 3662, 5⟩, ⟨3663, 3663, 17⟩, ⟨3664, 3673, 8⟩, ⟨3674, 3675, 17⟩, ⟨3713, 3714, 4⟩,
    ⟨3716, 3716, 4⟩, ⟨3718, 3722, 4⟩, ⟨3724, 3747, 4⟩, ⟨3749, 3749, 4⟩, ⟨3751, 3760, 4⟩,
    ⟨3761, 3761, 5⟩, ⟨3762, 3763, 4⟩, ⟨3764, 3772, 5⟩, ⟨3773, 3773, 4⟩, ⟨3776, 3780, 4⟩,
    ⟨3782, 3782, 3⟩, ⟨3784, 3790, 5⟩, ⟨3792, 3801, 8⟩, ⟨3804, 3807, 4⟩, ⟨3840, 3840, 4⟩,
    ⟨3841, 3843, 21⟩, ⟨3844, 3858, 17⟩, ⟨3859, 3859, 21⟩, ⟨3860, 3860, 17⟩, ⟨3861, 3863, 21⟩,
    ⟨3864, 3865, 5⟩, ⟨3866, 3871, 21⟩, ⟨3872, 3881, 8⟩, ⟨3882, 3891, 10⟩, ⟨3892, 3892, 21⟩,
    ⟨3893, 3893, 5⟩, ⟨3894, 3894, 21⟩, ⟨3895, 3895, 5⟩, ⟨3896, 3896, 21⟩, ⟨3897, 3897, 5⟩,
    ⟨3898, 3898, 13⟩, ⟨3899, 3899, 14⟩, ⟨3900, 3900, 13⟩, ⟨3901, 3901, 14⟩, ⟨3902, 3903, 6⟩,
    ⟨3904, 3911, 4⟩, ⟨3913, 3948, 4⟩, ⟨3953, 3966, 5⟩, ⟨3967, 3967, 6⟩, ⟨3968, 3972, 5⟩,
    ⟨3973, 3973, 17⟩, ⟨3974, 3975, 5⟩, ⟨3976, 3980, 4⟩, ⟨3981, 3991, 5⟩]⟩,
  ⟨4058, [
    ⟨3993, 4028, 5⟩, ⟨4030, 4037, 21⟩, ⟨4038, 4038, 5⟩, ⟨4039, 4044, 21⟩, ⟨4046, 4047, 21⟩,
    ⟨4048, 4052, 17⟩, ⟨4053, 4056, 21⟩, ⟨4057, 4058, 17⟩]⟩]

/-- The assigned code points from U+1000 to the end of the basic multilingual plane. -/
def middleBlocks : List CategoryBlock := [
  ⟨5109, [
    ⟨4096, 4138, 4⟩, ⟨4139, 4140, 6⟩, ⟨4141, 4144, 5⟩, ⟨4145, 4145, 6⟩, ⟨4146, 4151, 5⟩,
    ⟨4152, 4152, 6⟩, ⟨4153, 4154, 5⟩, ⟨4155, 4156, 6⟩, ⟨4157, 4158, 5⟩, ⟨4159, 4159, 4⟩,
    ⟨4160, 4169, 8⟩, ⟨4170, 4175, 17⟩, ⟨4176, 4181, 4⟩, ⟨4182, 4183, 6⟩, ⟨4184, 4185, 5⟩,
    ⟨4186, 4189, 4⟩, ⟨4190, 4192, 5⟩, ⟨4193, 4193, 4⟩, ⟨4194, 4196, 6⟩, ⟨4197, 4198, 4⟩,
    ⟨4199, 4205, 6⟩, ⟨4206, 4208, 4⟩, ⟨4209, 4212, 5⟩, ⟨4213, 4225, 4⟩, ⟨4226, 4226, 5⟩,
    ⟨4227, 4228, 6⟩, ⟨4229, 4230, 5⟩, ⟨4231, 4236, 6⟩, ⟨4237, 4237, 5⟩, ⟨4238, 4238, 4⟩,
    ⟨4239, 4239, 6⟩, ⟨4240, 4249, 8⟩, ⟨4250, 4252, 6⟩, ⟨4253, 4253, 5⟩, ⟨4254, 4255, 21⟩,
    ⟨4256, 4293, 0⟩, ⟨4295, 4295, 0⟩, ⟨4301, 4301, 0⟩, ⟨4304, 4346, 1⟩, ⟨4347, 4347, 17⟩,
    ⟨4348, 4348, 3⟩, ⟨4349, 4351, 1⟩, ⟨4352, 4680, 4⟩, ⟨4682, 4685, 4⟩, ⟨4688, 4694, 4⟩,
    ⟨4696, 4696, 4⟩, ⟨4698, 4701, 4⟩, ⟨4704, 4744, 4⟩, ⟨4746, 4749, 4⟩, ⟨4752, 4784, 4⟩,
    ⟨4786, 4789, 4⟩, ⟨4792, 4798, 4⟩, ⟨4800, 4800, 4⟩, ⟨4802, 4805, 4⟩, ⟨4808, 4822, 4⟩,
    ⟨4824, 4880, 4⟩, ⟨4882, 4885, 4⟩, ⟨4888, 4954, 4⟩, ⟨4957, 4959, 5⟩, ⟨4960, 4968, 17⟩,
    ⟨4969, 4988, 10⟩, ⟨4992, 5007, 4⟩, ⟨5008, 5017, 21⟩, ⟨5024, 5109, 0⟩]⟩,
  ⟨6449, [
    ⟨5112, 5117, 1⟩, ⟨5120, 5120, 12⟩, ⟨5121, 5740, 4⟩, ⟨5741, 5741, 21⟩, ⟨5742, 5742, 17⟩,
    ⟨5743, 5759, 4⟩, ⟨5760, 5760, 22⟩, ⟨5761, 5786, 4⟩, ⟨5787, 5787, 13⟩, ⟨5788, 5788, 14⟩,
    ⟨5792, 5866, 4⟩, ⟨5867, 5869, 17⟩, ⟨5870, 5872, 9⟩, ⟨5873, 5880, 4⟩, ⟨5888, 5905, 4⟩,
    ⟨5906, 5908, 5⟩, ⟨5909, 5909, 6⟩, ⟨5919, 5937, 4⟩, ⟨5938, 5939, 5⟩, ⟨5940, 5940, 6⟩,
    ⟨5941, 5942, 17⟩, ⟨5952, 5969, 4⟩, ⟨5970, 5971, 5⟩, ⟨5984, 5996, 4⟩, ⟨5998, 6000, 4⟩,
    ⟨6002, 6003, 5⟩, ⟨6016, 6067, 4⟩, ⟨6068, 6069, 5⟩, ⟨6070, 6070, 6⟩, ⟨6071, 6077, 5⟩,
    ⟨6078, 6085, 6⟩, ⟨6086, 6086, 5⟩, ⟨6087, 6088, 6⟩, ⟨6089, 6099, 5⟩, ⟨6100, 6102, 17⟩,
    ⟨6103, 6103, 3⟩, ⟨6104, 6106, 17⟩, ⟨6107, 6107, 19⟩, ⟨6108, 6108, 4⟩, ⟨6109, 6109, 5⟩,
    ⟨6112, 6121, 8⟩, ⟨6128, 6137, 10⟩, ⟨6144, 6149, 17⟩, ⟨6150, 6150, 12⟩, ⟨6151, 6154, 17⟩,
    ⟨6155, 6157, 5⟩, ⟨6158, 6158, 26⟩, ⟨6159, 6159, 5⟩, ⟨6160, 6169, 8⟩, ⟨6176, 6210, 4⟩,
    ⟨6211, 6211, 3⟩, ⟨6212, 6264, 4⟩, ⟨6272, 6276, 4⟩, ⟨6277, 6278, 5⟩, ⟨6279, 6312, 4⟩,
    ⟨6313, 6313, 5⟩, ⟨6314, 6314, 4⟩, ⟨6320, 6389, 4⟩, ⟨6400, 6430, 4⟩, ⟨6432, 6434, 5⟩,
    ⟨6435, 6438, 6⟩, ⟨6439, 6440, 5⟩, ⟨6441, 6443, 6⟩, ⟨6448, 6449, 6⟩]⟩,
  ⟨7077, [
    ⟨6450, 6450, 5⟩, ⟨6451, 6456, 6⟩, ⟨6457, 6459, 5⟩, ⟨6464, 6464, 21⟩, ⟨6468, 6469, 17⟩,
    ⟨6470, 6479, 8⟩, ⟨6480, 6509, 4⟩, ⟨6512, 6516, 4⟩, ⟨6528, 6571, 4⟩, ⟨6576, 6601, 4⟩,
    ⟨6608, 6617, 8⟩, ⟨6618, 6618, 10⟩, ⟨6622, 6655, 21⟩, ⟨6656, 6678, 4⟩, ⟨6679, 6680, 5⟩,
    ⟨6681, 6682, 6⟩, ⟨6683, 6683, 5⟩, ⟨6686, 6687, 17⟩, ⟨6688, 6740, 4⟩, ⟨6741, 6741, 6⟩,
    ⟨6742, 6742, 5⟩, ⟨6743, 6743, 6⟩, ⟨6744, 6750, 5⟩, ⟨6752, 6752, 5⟩, ⟨6753, 6753, 6⟩,
    ⟨6754, 6754, 5⟩, ⟨6755, 6756, 6⟩, ⟨6757, 6764, 5⟩, ⟨6765, 6770, 6⟩, ⟨6771, 6780, 5⟩,
    ⟨6783, 6783, 5⟩, ⟨6784, 6793, 8⟩, ⟨6800, 6809, 8⟩, ⟨6816, 6822, 17⟩, ⟨6823, 6823, 3⟩,
    ⟨6824, 6829, 17⟩, ⟨6832, 6845, 5⟩, ⟨6846, 6846, 7⟩, ⟨6847, 6877, 5⟩, ⟨6880, 6891, 5⟩,
    ⟨6912, 6915, 5⟩, ⟨6916, 6916, 6⟩, ⟨6917, 6963, 4⟩, ⟨6964, 6964, 5⟩, ⟨6965, 6965, 6⟩,
    ⟨6966, 6970, 5⟩, ⟨6971, 6971, 6⟩, ⟨6972, 6972, 5⟩, ⟨6973, 6977, 6⟩, ⟨6978, 6978, 5⟩,
    ⟨6979, 6980, 6⟩, ⟨6981, 6988, 4⟩, ⟨6990, 6991, 17⟩, ⟨6992, 7001, 8⟩, ⟨7002, 7008, 17⟩,
    ⟨7009, 7018, 21⟩, ⟨7019, 7027, 5⟩, ⟨7028, 7036, 21⟩, ⟨7037, 7039, 17⟩, ⟨7040, 7041, 5⟩,
    ⟨7042, 7042, 6⟩, ⟨7043, 7072, 4⟩, ⟨7073, 7073, 6⟩, ⟨7074, 7077, 5⟩]⟩,
  ⟨7991, [
    ⟨7078, 7079, 6⟩, ⟨7080, 7081, 5⟩, ⟨7082, 7082, 6⟩, ⟨7083, 7085, 5⟩, ⟨7086, 7087, 4⟩,
    ⟨7088, 7097, 8⟩, ⟨7098, 7141, 4⟩, ⟨7142, 7142, 5⟩, ⟨7143, 7143, 6⟩, ⟨7144, 7145, 5⟩,
    ⟨7146, 7148, 6⟩, ⟨7149, 7149, 5⟩, ⟨7150, 7150, 6⟩, ⟨7151, 7153, 5⟩, ⟨7154, 7155, 6⟩,
    ⟨7164, 7167, 17⟩, ⟨7168, 7203, 4⟩, ⟨7204, 7211, 6⟩, ⟨7212, 7219, 5⟩, ⟨7220, 7221, 6⟩,
    ⟨7222, 7223, 5⟩, ⟨7227, 7231, 17⟩, ⟨7232, 7241, 8⟩, ⟨7245, 7247, 4⟩, ⟨7248, 7257, 8⟩,
    ⟨7258, 7287, 4⟩, ⟨7288, 7293, 3⟩, ⟨7294, 7295, 17⟩, ⟨7296, 7304, 1⟩, ⟨7305, 7305, 0⟩,
    ⟨7306, 7306, 1⟩, ⟨7312, 7354, 0⟩, ⟨7357, 7359, 0⟩, ⟨7360, 7367, 17⟩, ⟨7376, 7378, 5⟩,
    ⟨7379, 7379, 17⟩, ⟨7380, 7392, 5⟩, ⟨7393, 7393, 6⟩, ⟨7394, 7400, 5⟩, ⟨7401, 7404, 4⟩,
    ⟨7405, 7405, 5⟩, ⟨7406, 7411, 4⟩, ⟨7412, 7412, 5⟩, ⟨7413, 7414, 4⟩, ⟨7415, 7415, 6⟩,
    ⟨7416, 7417, 5⟩, ⟨7418, 7418, 4⟩, ⟨7424, 7467, 1⟩, ⟨7468, 7530, 3⟩, ⟨7531, 7543, 1⟩,
    ⟨7544, 7544, 3⟩, ⟨7545, 7578, 1⟩, ⟨7579, 7615, 3⟩, ⟨7616, 7679, 5⟩, ⟨7680, 7828, 29⟩,
    ⟨7829, 7837, 1⟩, ⟨7838, 7934, 29⟩, ⟨7935, 7943, 1⟩, ⟨7944, 7951, 0⟩, ⟨7952, 7957, 1⟩,
    ⟨7960, 7965, 0⟩, ⟨7968, 7975, 1⟩, ⟨7976, 7983, 0⟩, ⟨7984, 7991, 1⟩]⟩,
  ⟨8260, [
    ⟨7992, 7999, 0⟩, ⟨8000, 8005, 1⟩, ⟨8008, 8013, 0⟩, ⟨8016, 8023, 1⟩, ⟨8025, 8025, 0⟩,
    ⟨8027, 8027, 0⟩, ⟨8029, 8029, 0⟩, ⟨8031, 8031, 0⟩, ⟨8032, 8039, 1⟩, ⟨8040, 8047, 0⟩,
    ⟨8048, 8061, 1⟩, ⟨8064, 8071, 1⟩, ⟨8072, 8079, 2⟩, ⟨8080, 8087, 1⟩, ⟨8088, 8095, 2⟩,
    ⟨8096, 8103, 1⟩, ⟨8104, 8111, 2⟩, ⟨8112, 8116, 1⟩, ⟨8118, 8119, 1⟩, ⟨8120, 8123, 0⟩,
    ⟨8124, 8124, 2⟩, ⟨8125, 8125, 20⟩, ⟨8126, 8126, 1⟩, ⟨8127, 8129, 20⟩, ⟨8130, 8132, 1⟩,
    ⟨8134, 8135, 1⟩, ⟨8136, 8139, 0⟩, ⟨8140, 8140, 2⟩, ⟨8141, 8143, 20⟩, ⟨8144, 8147, 1⟩,
    ⟨8150, 8151, 1⟩, ⟨8152, 8155, 0⟩, ⟨8157, 8159, 20⟩, ⟨8160, 8167, 1⟩, ⟨8168, 8172, 0⟩,
    ⟨8173, 8175, 20⟩, ⟨8178, 8180, 1⟩, ⟨8182, 8183, 1⟩, ⟨8184, 8187, 0⟩, ⟨8188, 8188, 2⟩,
    ⟨8189, 8190, 20⟩, ⟨8192, 8202, 22⟩, ⟨8203, 8207, 26⟩, ⟨8208, 8213, 12⟩, ⟨8214, 8215, 17⟩,
    ⟨8216, 8216, 15⟩, ⟨8217, 8217, 16⟩, ⟨8218, 8218, 13⟩, ⟨8219, 8220, 15⟩, ⟨8221, 8221, 16⟩,
    ⟨8222, 8222, 13⟩, ⟨8223, 8223, 15⟩, ⟨8224, 8231, 17⟩, ⟨8232, 8232, 23⟩, ⟨8233, 8233, 24⟩,
    ⟨8234, 8238, 26⟩, ⟨8239, 8239, 22⟩, ⟨8240, 8248, 17⟩, ⟨8249, 8249, 15⟩, ⟨8250, 8250, 16⟩,
    ⟨8251, 8254, 17⟩, ⟨8255, 8256, 11⟩, ⟨8257, 8259, 17⟩, ⟨8260, 8260, 18⟩]⟩,
  ⟨8522, [
    ⟨8261, 8261, 13⟩, ⟨8262, 8262, 14⟩, ⟨8263, 8273, 17⟩, ⟨8274, 8274, 18⟩, ⟨8275, 8275, 17⟩,
    ⟨8276, 8276, 11⟩, ⟨8277, 8286, 17⟩, ⟨8287, 8287, 22⟩, ⟨8288, 8292, 26⟩, ⟨8294, 8303, 26⟩,
    ⟨8304, 8304, 10⟩, ⟨8305, 8305, 3⟩, ⟨8308, 8313, 10⟩, ⟨8314, 8316, 18⟩, ⟨8317, 8317, 13⟩,
    ⟨8318, 8318, 14⟩, ⟨8319, 8319, 3⟩, ⟨8320, 8329, 10⟩, ⟨8330, 8332, 18⟩, ⟨8333, 8333, 13⟩,
    ⟨8334, 8334, 14⟩, ⟨8336, 8348, 3⟩, ⟨8352, 8385, 19⟩, ⟨8400, 8412, 5⟩, ⟨8413, 8416, 7⟩,
    ⟨8417, 8417, 5⟩, ⟨8418, 8420, 7⟩, ⟨8421, 8432, 5⟩, ⟨8448, 8449, 21⟩, ⟨8450, 8450, 0⟩,
    ⟨8451, 8454, 21⟩, ⟨8455, 8455, 0⟩, ⟨8456, 8457, 21⟩, ⟨8458, 8458, 1⟩, ⟨8459, 8461, 0⟩,
    ⟨8462, 8463, 1⟩, ⟨8464, 8466, 0⟩, ⟨8467, 8467, 1⟩, ⟨8468, 8468, 21⟩, ⟨8469, 8469, 0⟩,
    ⟨8470, 8471, 21⟩, ⟨8472, 8472, 18⟩, ⟨8473, 8477, 0⟩, ⟨8478, 8483, 21⟩, ⟨8484, 8484, 0⟩,
    ⟨8485, 8485, 21⟩, ⟨8486, 8486, 0⟩, ⟨8487, 8487, 21⟩, ⟨8488, 8488, 0⟩, ⟨8489, 8489, 21⟩,
    ⟨8490, 8493, 0⟩, ⟨8494, 8494, 21⟩, ⟨8495, 8495, 1⟩, ⟨8496, 8499, 0⟩, ⟨8500, 8500, 1⟩,
    ⟨8501, 8504, 4⟩, ⟨8505, 8505, 1⟩, ⟨8506, 8507, 21⟩, ⟨8508, 8509, 1⟩, ⟨8510, 8511, 0⟩,
    ⟨8512, 8516, 18⟩, ⟨8517, 8517, 0⟩, ⟨8518, 8521, 1⟩, ⟨8522, 8522, 21⟩]⟩,
  ⟨10091, [
    ⟨8523, 8523, 18⟩, ⟨8524, 8525, 21⟩, ⟨8526, 8526, 1⟩, ⟨8527, 8527, 21⟩, ⟨8528, 8543, 10⟩,
    ⟨8544, 8578, 9⟩, ⟨8579, 8579, 0⟩, ⟨8580, 8580, 1⟩, ⟨8581, 8584, 9⟩, ⟨8585, 8585, 10⟩,
    ⟨8586, 8587, 21⟩, ⟨8592, 8596, 18⟩, ⟨8597, 8601, 21⟩, ⟨8602, 8603, 18⟩, ⟨8604, 8607, 21⟩,
    ⟨8608, 8608, 18⟩, ⟨8609, 8610, 21⟩, ⟨8611, 8611, 18⟩, ⟨8612, 8613, 21⟩, ⟨8614, 8614, 18⟩,
    ⟨8615, 8621, 21⟩, ⟨8622, 8622, 18⟩, ⟨8623, 8653, 21⟩, ⟨8654, 8655, 18⟩, ⟨8656, 8657, 21⟩,
    ⟨8658, 8658, 18⟩, ⟨8659, 8659, 21⟩, ⟨8660, 8660, 18⟩, ⟨8661, 8691, 21⟩, ⟨8692, 8959, 18⟩,
    ⟨8960, 8967, 21⟩, ⟨8968, 8968, 13⟩, ⟨8969, 8969, 14⟩, ⟨8970, 8970, 13⟩, ⟨8971, 8971, 14⟩,
    ⟨8972, 8991, 21⟩, ⟨8992, 8993, 18⟩, ⟨8994, 9000, 21⟩, ⟨9001, 9001, 13⟩, ⟨9002, 9002, 14⟩,
    ⟨9003, 9083, 21⟩, ⟨9084, 9084, 18⟩, ⟨9085, 9114, 21⟩, ⟨9115, 9139, 18⟩, ⟨9140, 9179, 21⟩,
    ⟨9180, 9185, 18⟩, ⟨9186, 9257, 21⟩, ⟨9280, 9290, 21⟩, ⟨9312, 9371, 10⟩, ⟨9372, 9449, 21⟩,
    ⟨9450, 9471, 10⟩, ⟨9472, 9654, 21⟩, ⟨9655, 9655, 18⟩, ⟨9656, 9664, 21⟩, ⟨9665, 9665, 18⟩,
    ⟨9666, 9719, 21⟩, ⟨9720, 9727, 18⟩, ⟨9728, 9838, 21⟩, ⟨9839, 9839, 18⟩, ⟨9840, 10087, 21⟩,
    ⟨10088, 10088, 13⟩, ⟨10089, 10089, 14⟩, ⟨10090, 10090, 13⟩, ⟨10091, 10091, 14⟩]⟩,
  ⟨11084, [
    ⟨10092, 10092, 13⟩, ⟨10093, 10093, 14⟩, ⟨10094, 10094, 13⟩, ⟨10095, 10095, 14⟩,
    ⟨10096, 10096, 13⟩, ⟨10097, 10097, 14⟩, ⟨10098, 10098, 13⟩, ⟨10099, 10099, 14⟩,
    ⟨10100, 10100, 13⟩, ⟨10101, 10101, 14⟩, ⟨10102, 10131, 10⟩, ⟨10132, 10175, 21⟩,
    ⟨10176, 10180, 18⟩, ⟨10181, 10181, 13⟩, ⟨10182, 10182, 14⟩, ⟨10183, 10213, 18⟩,
    ⟨10214, 10214, 13⟩, ⟨10215, 10215, 14⟩, ⟨10216, 10216, 13⟩, ⟨10217, 10217, 14⟩,
    ⟨10218, 10218, 13⟩, ⟨10219, 10219, 14⟩, ⟨10220, 10220, 13⟩, ⟨10221, 10221, 14⟩,
    ⟨10222, 10222, 13⟩, ⟨10223, 10223, 14⟩, ⟨10224, 10239, 18⟩, ⟨10240, 10495, 21⟩,
    ⟨10496, 10626, 18⟩, ⟨10627, 10627, 13⟩, ⟨10628, 10628, 14⟩, ⟨10629, 10629, 13⟩,
    ⟨10630, 10630, 14⟩, ⟨10631, 10631, 13⟩, ⟨10632, 10632, 14⟩, ⟨10633, 10633, 13⟩,
    ⟨10634, 10634, 14⟩, ⟨10635, 10635, 13⟩, ⟨10636, 10636, 14⟩, ⟨10637, 10637, 13⟩,
    ⟨10638, 10638, 14⟩, ⟨10639, 10639, 13⟩, ⟨10640, 10640, 14⟩, ⟨10641, 10641, 13⟩,
    ⟨10642, 10642, 14⟩, ⟨10643, 10643, 13⟩, ⟨10644, 10644, 14⟩, ⟨10645, 10645, 13⟩,
    ⟨10646, 10646, 14⟩, ⟨10647, 10647, 13⟩, ⟨10648, 10648, 14⟩, ⟨10649, 10711, 18⟩,
    ⟨10712, 10712, 13⟩, ⟨10713, 10713, 14⟩, ⟨10714, 10714, 13⟩, ⟨10715, 10715, 14⟩,
    ⟨10716, 10747, 18⟩, ⟨10748, 10748, 13⟩, ⟨10749, 10749, 14⟩, ⟨10750, 11007, 18⟩,
    ⟨11008, 11055, 21⟩, ⟨11056, 11076, 18⟩, ⟨11077, 11078, 21⟩, ⟨11079, 11084, 18⟩]⟩,
  ⟨11807, [
    ⟨11085, 11123, 21⟩, ⟨11126, 11263, 21⟩, ⟨11264, 11311, 0⟩, ⟨11312, 11359, 1⟩, ⟨11360, 11360, 0⟩,
    ⟨11361, 11361, 1⟩, ⟨11362, 11364, 0⟩, ⟨11365, 11366, 1⟩, ⟨11367, 11372, 29⟩, ⟨11373, 11376, 0⟩,
    ⟨11377, 11377, 1⟩, ⟨11378, 11378, 0⟩, ⟨11379, 11380, 1⟩, ⟨11381, 11381, 0⟩, ⟨11382, 11387, 1⟩,
    ⟨11388, 11389, 3⟩, ⟨11390, 11392, 0⟩, ⟨11393, 11393, 1⟩, ⟨11394, 11490, 29⟩, ⟨11491, 11492, 1⟩,
    ⟨11493, 11498, 21⟩, ⟨11499, 11502, 29⟩, ⟨11503, 11505, 5⟩, ⟨11506, 11506, 0⟩, ⟨11507, 11507, 1⟩,
    ⟨11513, 11516, 17⟩, ⟨11517, 11517, 10⟩, ⟨11518, 11519, 17⟩, ⟨11520, 11557, 1⟩,
    ⟨11559, 11559, 1⟩, ⟨11565, 11565, 1⟩, ⟨11568, 11623, 4⟩, ⟨11631, 11631, 3⟩, ⟨11632, 11632, 17⟩,
    ⟨11647, 11647, 5⟩, ⟨11648, 11670, 4⟩, ⟨11680, 11686, 4⟩, ⟨11688, 11694, 4⟩, ⟨11696, 11702, 4⟩,
    ⟨11704, 11710, 4⟩, ⟨11712, 11718, 4⟩, ⟨11720, 11726, 4⟩, ⟨11728, 11734, 4⟩, ⟨11736, 11742, 4⟩,
    ⟨11744, 11775, 5⟩, ⟨11776, 11777, 17⟩, ⟨11778, 11778, 15⟩, ⟨11779, 11779, 16⟩,
    ⟨11780, 11780, 15⟩, ⟨11781, 11781, 16⟩, ⟨11782, 11784, 17⟩, ⟨11785, 11785, 15⟩,
    ⟨11786, 11786, 16⟩, ⟨11787, 11787, 17⟩, ⟨11788, 11788, 15⟩, ⟨11789, 11789, 16⟩,
    ⟨11790, 11798, 17⟩, ⟨11799, 11799, 12⟩, ⟨11800, 11801, 17⟩, ⟨11802, 11802, 12⟩,
    ⟨11803, 11803, 17⟩, ⟨11804, 11804, 15⟩, ⟨11805, 11805, 16⟩, ⟨11806, 11807, 17⟩]⟩,
  ⟨12329, [
    ⟨11808, 11808, 15⟩, ⟨11809, 11809, 16⟩, ⟨11810, 11810, 13⟩, ⟨11811, 11811, 14⟩,
    ⟨11812, 11812, 13⟩, ⟨11813, 11813, 14⟩, ⟨11814, 11814, 13⟩, ⟨11815, 11815, 14⟩,
    ⟨11816, 11816, 13⟩, ⟨11817, 11817, 14⟩, ⟨11818, 11822, 17⟩, ⟨11823, 11823, 3⟩,
    ⟨11824, 11833, 17⟩, ⟨11834, 11835, 12⟩, ⟨11836, 11839, 17⟩, ⟨11840, 11840, 12⟩,
    ⟨11841, 11841, 17⟩, ⟨11842, 11842, 13⟩, ⟨11843, 11855, 17⟩, ⟨11856, 11857, 21⟩,
    ⟨11858, 11860, 17⟩, ⟨11861, 11861, 13⟩, ⟨11862, 11862, 14⟩, ⟨11863, 11863, 13⟩,
    ⟨11864, 11864, 14⟩, ⟨11865, 11865, 13⟩, ⟨11866, 11866, 14⟩, ⟨11867, 11867, 13⟩,
    ⟨11868, 11868, 14⟩, ⟨11869, 11869, 12⟩, ⟨11904, 11929, 21⟩, ⟨11931, 12019, 21⟩,
    ⟨12032, 12245, 21⟩, ⟨12272, 12287, 21⟩, ⟨12288, 12288, 22⟩, ⟨12289, 12291, 17⟩,
    ⟨12292, 12292, 21⟩, ⟨12293, 12293, 3⟩, ⟨12294, 12294, 4⟩, ⟨12295, 12295, 9⟩, ⟨12296, 12296, 13⟩,
    ⟨12297, 12297, 14⟩, ⟨12298, 12298, 13⟩, ⟨12299, 12299, 14⟩, ⟨12300, 12300, 13⟩,
    ⟨12301, 12301, 14⟩, ⟨12302, 12302, 13⟩, ⟨12303, 12303, 14⟩, ⟨12304, 12304, 13⟩,
    ⟨12305, 12305, 14⟩, ⟨12306, 12307, 21⟩, ⟨12308, 12308, 13⟩, ⟨12309, 12309, 14⟩,
    ⟨12310, 12310, 13⟩, ⟨12311, 12311, 14⟩, ⟨12312, 12312, 13⟩, ⟨12313, 12313, 14⟩,
    ⟨12314, 12314, 13⟩, ⟨12315, 12315, 14⟩, ⟨12316, 12316, 12⟩, ⟨12317, 12317, 13⟩,
    ⟨12318, 12319, 14⟩, ⟨12320, 12320, 21⟩, ⟨12321, 12329, 9⟩]⟩,
  ⟨42651, [
    ⟨12330, 12333, 5⟩, ⟨12334, 12335, 6⟩, ⟨12336, 12336, 12⟩, ⟨12337, 12341, 3⟩, ⟨12342, 12343, 21⟩,
    ⟨12344, 12346, 9⟩, ⟨12347, 12347, 3⟩, ⟨12348, 12348, 4⟩, ⟨12349, 12349, 17⟩, ⟨12350, 12351, 21⟩,
    ⟨12353, 12438, 4⟩, ⟨12441, 12442, 5⟩, ⟨12443, 12444, 20⟩, ⟨12445, 12446, 3⟩, ⟨12447, 12447, 4⟩,
    ⟨12448, 12448, 12⟩, ⟨12449, 12538, 4⟩, ⟨12539, 12539, 17⟩, ⟨12540, 12542, 3⟩, ⟨12543, 12543, 4⟩,
    ⟨12549, 12591, 4⟩, ⟨12593, 12686, 4⟩, ⟨12688, 12689, 21⟩, ⟨12690, 12693, 10⟩,
    ⟨12694, 12703, 21⟩, ⟨12704, 12735, 4⟩, ⟨12736, 12773, 21⟩, ⟨12783, 12783, 21⟩,
    ⟨12784, 12799, 4⟩, ⟨12800, 12830, 21⟩, ⟨12832, 12841, 10⟩, ⟨12842, 12871, 21⟩,
    ⟨12872, 12879, 10⟩, ⟨12880, 12880, 21⟩, ⟨12881, 12895, 10⟩, ⟨12896, 12927, 21⟩,
    ⟨12928, 12937, 10⟩, ⟨12938, 12976, 21⟩, ⟨12977, 12991, 10⟩, ⟨12992, 13311, 21⟩,
    ⟨13312, 19903, 4⟩, ⟨19904, 19967, 21⟩, ⟨19968, 40980, 4⟩, ⟨40981, 40981, 3⟩, ⟨40982, 42124, 4⟩,
    ⟨42128, 42182, 21⟩, ⟨42192, 42231, 4⟩, ⟨42232, 42237, 3⟩, ⟨42238, 42239, 17⟩, ⟨42240, 42507, 4⟩,
    ⟨42508, 42508, 3⟩, ⟨42509, 42511, 17⟩, ⟨42512, 42527, 4⟩, ⟨42528, 42537, 8⟩, ⟨42538, 42539, 4⟩,
    ⟨42560, 42605, 29⟩, ⟨42606, 42606, 4⟩, ⟨42607, 42607, 5⟩, ⟨42608, 42610, 7⟩, ⟨42611, 42611, 17⟩,
    ⟨42612, 42621, 5⟩, ⟨42622, 42622, 17⟩, ⟨42623, 42623, 3⟩, ⟨42624, 42651, 29⟩]⟩,
  ⟨43203, [
    ⟨42652, 42653, 3⟩, ⟨42654, 42655, 5⟩, ⟨42656, 42725, 4⟩, ⟨42726, 42735, 9⟩, ⟨42736, 42737, 5⟩,
    ⟨42738, 42743, 17⟩, ⟨42752, 42774, 20⟩, ⟨42775, 42783, 3⟩, ⟨42784, 42785, 20⟩,
    ⟨42786, 42798, 29⟩, ⟨42799, 42801, 1⟩, ⟨42802, 42863, 29⟩, ⟨42864, 42864, 3⟩, ⟨42865, 42872, 1⟩,
    ⟨42873, 42876, 29⟩, ⟨42877, 42878, 0⟩, ⟨42879, 42879, 1⟩, ⟨42880, 42887, 29⟩, ⟨42888, 42888, 3⟩,
    ⟨42889, 42890, 20⟩, ⟨42891, 42894, 29⟩, ⟨42895, 42895, 4⟩, ⟨42896, 42898, 29⟩,
    ⟨42899, 42901, 1⟩, ⟨42902, 42921, 29⟩, ⟨42922, 42926, 0⟩, ⟨42927, 42927, 1⟩, ⟨42928, 42932, 0⟩,
    ⟨42933, 42933, 1⟩, ⟨42934, 42947, 29⟩, ⟨42948, 42951, 0⟩, ⟨42952, 42952, 1⟩, ⟨42953, 42953, 0⟩,
    ⟨42954, 42954, 1⟩, ⟨42955, 42956, 0⟩, ⟨42957, 42957, 1⟩, ⟨42958, 42972, 29⟩, ⟨42993, 42996, 3⟩,
    ⟨42997, 42997, 0⟩, ⟨42998, 42998, 1⟩, ⟨42999, 42999, 4⟩, ⟨43000, 43001, 3⟩, ⟨43002, 43002, 1⟩,
    ⟨43003, 43009, 4⟩, ⟨43010, 43010, 5⟩, ⟨43011, 43013, 4⟩, ⟨43014, 43014, 5⟩, ⟨43015, 43018, 4⟩,
    ⟨43019, 43019, 5⟩, ⟨43020, 43042, 4⟩, ⟨43043, 43044, 6⟩, ⟨43045, 43046, 5⟩, ⟨43047, 43047, 6⟩,
    ⟨43048, 43051, 21⟩, ⟨43052, 43052, 5⟩, ⟨43056, 43061, 10⟩, ⟨43062, 43063, 21⟩,
    ⟨43064, 43064, 19⟩, ⟨43065, 43065, 21⟩, ⟨43072, 43123, 4⟩, ⟨43124, 43127, 17⟩,
    ⟨43136, 43137, 6⟩, ⟨43138, 43187, 4⟩, ⟨43188, 43203, 6⟩]⟩,
  ⟨43702, [
    ⟨43204, 43205, 5⟩, ⟨43214, 43215, 17⟩, ⟨43216, 43225, 8⟩, ⟨43232, 43249, 5⟩, ⟨43250, 43255, 4⟩,
    ⟨43256, 43258, 17⟩, ⟨43259, 43259, 4⟩, ⟨43260, 43260, 17⟩, ⟨43261, 43262, 4⟩, ⟨43263, 43263, 5⟩,
    ⟨43264, 43273, 8⟩, ⟨43274, 43301, 4⟩, ⟨43302, 43309, 5⟩, ⟨43310, 43311, 17⟩, ⟨43312, 43334, 4⟩,
    ⟨43335, 43345, 5⟩, ⟨43346, 43347, 6⟩, ⟨43359, 43359, 17⟩, ⟨43360, 43388, 4⟩, ⟨43392, 43394, 5⟩,
    ⟨43395, 43395, 6⟩, ⟨43396, 43442, 4⟩, ⟨43443, 43443, 5⟩, ⟨43444, 43445, 6⟩, ⟨43446, 43449, 5⟩,
    ⟨43450, 43451, 6⟩, ⟨43452, 43453, 5⟩, ⟨43454, 43456, 6⟩, ⟨43457, 43469, 17⟩, ⟨43471, 43471, 3⟩,
    ⟨43472, 43481, 8⟩, ⟨43486, 43487, 17⟩, ⟨43488, 43492, 4⟩, ⟨43493, 43493, 5⟩, ⟨43494, 43494, 3⟩,
    ⟨43495, 43503, 4⟩, ⟨43504, 43513, 8⟩, ⟨43514, 43518, 4⟩, ⟨43520, 43560, 4⟩, ⟨43561, 43566, 5⟩,
    ⟨43567, 43568, 6⟩, ⟨43569, 43570, 5⟩, ⟨43571, 43572, 6⟩, ⟨43573, 43574, 5⟩, ⟨43584, 43586, 4⟩,
    ⟨43587, 43587, 5⟩, ⟨43588, 43595, 4⟩, ⟨43596, 43596, 5⟩, ⟨43597, 43597, 6⟩, ⟨43600, 43609, 8⟩,
    ⟨43612, 43615, 17⟩, ⟨43616, 43631, 4⟩, ⟨43632, 43632, 3⟩, ⟨43633, 43638, 4⟩, ⟨43639, 43641, 21⟩,
    ⟨43642, 43642, 4⟩, ⟨43643, 43643, 6⟩, ⟨43644, 43644, 5⟩, ⟨43645, 43645, 6⟩, ⟨43646, 43695, 4⟩,
    ⟨43696, 43696, 5⟩, ⟨43697, 43697, 4⟩, ⟨43698, 43700, 5⟩, ⟨43701, 43702, 4⟩]⟩,
  ⟨64847, [
    ⟨43703, 43704, 5⟩, ⟨43705, 43709, 4⟩, ⟨43710, 43711, 5⟩, ⟨43712, 43712, 4⟩, ⟨43713, 43713, 5⟩,
    ⟨43714, 43714, 4⟩, ⟨43739, 43740, 4⟩, ⟨43741, 43741, 3⟩, ⟨43742, 43743, 17⟩, ⟨43744, 43754, 4⟩,
    ⟨43755, 43755, 6⟩, ⟨43756, 43757, 5⟩, ⟨43758, 43759, 6⟩, ⟨43760, 43761, 17⟩, ⟨43762, 43762, 4⟩,
    ⟨43763, 43764, 3⟩, ⟨43765, 43765, 6⟩, ⟨43766, 43766, 5⟩, ⟨43777, 43782, 4⟩, ⟨43785, 43790, 4⟩,
    ⟨43793, 43798, 4⟩, ⟨43808, 43814, 4⟩, ⟨43816, 43822, 4⟩, ⟨43824, 43866, 1⟩, ⟨43867, 43867, 20⟩,
    ⟨43868, 43871, 3⟩, ⟨43872, 43880, 1⟩, ⟨43881, 43881, 3⟩, ⟨43882, 43883, 20⟩, ⟨43888, 43967, 1⟩,
    ⟨43968, 44002, 4⟩, ⟨44003, 44004, 6⟩, ⟨44005, 44005, 5⟩, ⟨44006, 44007, 6⟩, ⟨44008, 44008, 5⟩,
    ⟨44009, 44010, 6⟩, ⟨44011, 44011, 17⟩, ⟨44012, 44012, 6⟩, ⟨44013, 44013, 5⟩, ⟨44016, 44025, 8⟩,
    ⟨44032, 55203, 4⟩, ⟨55216, 55238, 4⟩, ⟨55243, 55291, 4⟩, ⟨57344, 63743, 27⟩, ⟨63744, 64109, 4⟩,
    ⟨64112, 64217, 4⟩, ⟨64256, 64262, 1⟩, ⟨64275, 64279, 1⟩, ⟨64285, 64285, 4⟩, ⟨64286, 64286, 5⟩,
    ⟨64287, 64296, 4⟩, ⟨64297, 64297, 18⟩, ⟨64298, 64310, 4⟩, ⟨64312, 64316, 4⟩, ⟨64318, 64318, 4⟩,
    ⟨64320, 64321, 4⟩, ⟨64323, 64324, 4⟩, ⟨64326, 64433, 4⟩, ⟨64434, 64450, 20⟩, ⟨64451, 64466, 21⟩,
    ⟨64467, 64829, 4⟩, ⟨64830, 64830, 14⟩, ⟨64831, 64831, 13⟩, ⟨64832, 64847, 21⟩]⟩,
  ⟨65292, [
    ⟨64848, 64911, 4⟩, ⟨64912, 64913, 21⟩, ⟨64914, 64967, 4⟩, ⟨64968, 64975, 21⟩, ⟨65008, 65019, 4⟩,
    ⟨65020, 65020, 19⟩, ⟨65021, 65023, 21⟩, ⟨65024, 65039, 5⟩, ⟨65040, 65046, 17⟩,
    ⟨65047, 65047, 13⟩, ⟨65048, 65048, 14⟩, ⟨65049, 65049, 17⟩, ⟨65056, 65071, 5⟩,
    ⟨65072, 65072, 17⟩, ⟨65073, 65074, 12⟩, ⟨65075, 65076, 11⟩, ⟨65077, 65077, 13⟩,
    ⟨65078, 65078, 14⟩, ⟨65079, 65079, 13⟩, ⟨65080, 65080, 14⟩, ⟨65081, 65081, 13⟩,
    ⟨65082, 65082, 14⟩, ⟨65083, 65083, 13⟩, ⟨65084, 65084, 14⟩, ⟨65085, 65085, 13⟩,
    ⟨65086, 65086, 14⟩, ⟨65087, 65087, 13⟩, ⟨65088, 65088, 14⟩, ⟨65089, 65089, 13⟩,
    ⟨65090, 65090, 14⟩, ⟨65091, 65091, 13⟩, ⟨65092, 65092, 14⟩, ⟨65093, 65094, 17⟩,
    ⟨65095, 65095, 13⟩, ⟨65096, 65096, 14⟩, ⟨65097, 65100, 17⟩, ⟨65101, 65103, 11⟩,
    ⟨65104, 65106, 17⟩, ⟨65108, 65111, 17⟩, ⟨65112, 65112, 12⟩, ⟨65113, 65113, 13⟩,
    ⟨65114, 65114, 14⟩, ⟨65115, 65115, 13⟩, ⟨65116, 65116, 14⟩, ⟨65117, 65117, 13⟩,
    ⟨65118, 65118, 14⟩, ⟨65119, 65121, 17⟩, ⟨65122, 65122, 18⟩, ⟨65123, 65123, 12⟩,
    ⟨65124, 65126, 18⟩, ⟨65128, 65128, 17⟩, ⟨65129, 65129, 19⟩, ⟨65130, 65131, 17⟩,
    ⟨65136, 65140, 4⟩, ⟨65142, 65276, 4⟩, ⟨65279, 65279, 26⟩, ⟨65281, 65283, 17⟩,
    ⟨65284, 65284, 19⟩, ⟨65285, 65287, 17⟩, ⟨65288, 65288, 13⟩, ⟨65289, 65289, 14⟩,
    ⟨65290, 65290, 17⟩, ⟨65291, 65291, 18⟩, ⟨65292, 65292, 17⟩]⟩,
  ⟨65533, [
    ⟨65293, 65293, 12⟩, ⟨65294, 65295, 17⟩, ⟨65296, 65305, 8⟩, ⟨65306, 65307, 17⟩,
    ⟨65308, 65310, 18⟩, ⟨65311, 65312, 17⟩, ⟨65313, 65338, 0⟩, ⟨65339, 65339, 13⟩,
    ⟨65340, 65340, 17⟩, ⟨65341, 65341, 14⟩, ⟨65342, 65342, 20⟩, ⟨65343, 65343, 11⟩,
    ⟨65344, 65344, 20⟩, ⟨65345, 65370, 1⟩, ⟨65371, 65371, 13⟩, ⟨65372, 65372, 18⟩,
    ⟨65373, 65373, 14⟩, ⟨65374, 65374, 18⟩, ⟨65375, 65375, 13⟩, ⟨65376, 65376, 14⟩,
    ⟨65377, 65377, 17⟩, ⟨65378, 65378, 13⟩, ⟨65379, 65379, 14⟩, ⟨65380, 65381, 17⟩,
    ⟨65382, 65391, 4⟩, ⟨65392, 65392, 3⟩, ⟨65393, 65437, 4⟩, ⟨65438, 65439, 3⟩, ⟨65440, 65470, 4⟩,
    ⟨65474, 65479, 4⟩, ⟨65482, 65487, 4⟩, ⟨65490, 65495, 4⟩, ⟨65498, 65500, 4⟩, ⟨65504, 65505, 19⟩,
    ⟨65506, 65506, 18⟩, ⟨65507, 65507, 20⟩, ⟨65508, 65508, 21⟩, ⟨65509, 65510, 19⟩,
    ⟨65512, 65512, 21⟩, ⟨65513, 65516, 18⟩, ⟨65517, 65518, 21⟩, ⟨65529, 65531, 26⟩,
    ⟨65532, 65533, 21⟩]⟩]

/-- The assigned code points of the supplementary planes. -/
def highBlocks : List CategoryBlock := [
  ⟨67637, [
    ⟨65536, 65547, 4⟩, ⟨65549, 65574, 4⟩, ⟨65576, 65594, 4⟩, ⟨65596, 65597, 4⟩, ⟨65599, 65613, 4⟩,
    ⟨65616, 65629, 4⟩, ⟨65664, 65786, 4⟩, ⟨65792, 65794, 17⟩, ⟨65799, 65843, 10⟩,
    ⟨65847, 65855, 21⟩, ⟨65856, 65908, 9⟩, ⟨65909, 65912, 10⟩, ⟨65913, 65929, 21⟩,
    ⟨65930, 65931, 10⟩, ⟨65932, 65934, 21⟩, ⟨65936, 65948, 21⟩, ⟨65952, 65952, 21⟩,
    ⟨66000, 66044, 21⟩, ⟨66045, 66045, 5⟩, ⟨66176, 66204, 4⟩, ⟨66208, 66256, 4⟩, ⟨66272, 66272, 5⟩,
    ⟨66273, 66299, 10⟩, ⟨66304, 66335, 4⟩, ⟨66336, 66339, 10⟩, ⟨66349, 66368, 4⟩, ⟨66369, 66369, 9⟩,
    ⟨66370, 66377, 4⟩, ⟨66378, 66378, 9⟩, ⟨66384, 66421, 4⟩, ⟨66422, 66426, 5⟩, ⟨66432, 66461, 4⟩,
    ⟨66463, 66463, 17⟩, ⟨66464, 66499, 4⟩, ⟨66504, 66511, 4⟩, ⟨66512, 66512, 17⟩, ⟨66513, 66517, 9⟩,
    ⟨66560, 66599, 0⟩, ⟨66600, 66639, 1⟩, ⟨66640, 66717, 4⟩, ⟨66720, 66729, 8⟩, ⟨66736, 66771, 0⟩,
    ⟨66776, 66811, 1⟩, ⟨66816, 66855, 4⟩, ⟨66864, 66915, 4⟩, ⟨66927, 66927, 17⟩, ⟨66928, 66938, 0⟩,
    ⟨66940, 66954, 0⟩, ⟨66956, 66962, 0⟩, ⟨66964, 66965, 0⟩, ⟨66967, 66977, 1⟩, ⟨66979, 66993, 1⟩,
    ⟨66995, 67001, 1⟩, ⟨67003, 67004, 1⟩, ⟨67008, 67059, 4⟩, ⟨67072, 67382, 4⟩, ⟨67392, 67413, 4⟩,
    ⟨67424, 67431, 4⟩, ⟨67456, 67461, 3⟩, ⟨67463, 67504, 3⟩, ⟨67506, 67514, 3⟩, ⟨67584, 67589, 4⟩,
    ⟨67592, 67592, 4⟩, ⟨67594, 67637, 4⟩]⟩,
  ⟨68941, [
    ⟨67639, 67640, 4⟩, ⟨67644, 67644, 4⟩, ⟨67647, 67669, 4⟩, ⟨67671, 67671, 17⟩, ⟨67672, 67679, 10⟩,
    ⟨67680, 67702, 4⟩, ⟨67703, 67704, 21⟩, ⟨67705, 67711, 10⟩, ⟨67712, 67742, 4⟩,
    ⟨67751, 67759, 10⟩, ⟨67808, 67826, 4⟩, ⟨67828, 67829, 4⟩, ⟨67835, 67839, 10⟩, ⟨67840, 67861, 4⟩,
    ⟨67862, 67867, 10⟩, ⟨67871, 67871, 17⟩, ⟨67872, 67897, 4⟩, ⟨67903, 67903, 17⟩,
    ⟨67904, 67929, 4⟩, ⟨67968, 68023, 4⟩, ⟨68028, 68029, 10⟩, ⟨68030, 68031, 4⟩, ⟨68032, 68047, 10⟩,
    ⟨68050, 68095, 10⟩, ⟨68096, 68096, 4⟩, ⟨68097, 68099, 5⟩, ⟨68101, 68102, 5⟩, ⟨68108, 68111, 5⟩,
    ⟨68112, 68115, 4⟩, ⟨68117, 68119, 4⟩, ⟨68121, 68149, 4⟩, ⟨68152, 68154, 5⟩, ⟨68159, 68159, 5⟩,
    ⟨68160, 68168, 10⟩, ⟨68176, 68184, 17⟩, ⟨68192, 68220, 4⟩, ⟨68221, 68222, 10⟩,
    ⟨68223, 68223, 17⟩, ⟨68224, 68252, 4⟩, ⟨68253, 68255, 10⟩, ⟨68288, 68295, 4⟩,
    ⟨68296, 68296, 21⟩, ⟨68297, 68324, 4⟩, ⟨68325, 68326, 5⟩, ⟨68331, 68335, 10⟩,
    ⟨68336, 68342, 17⟩, ⟨68352, 68405, 4⟩, ⟨68409, 68415, 17⟩, ⟨68416, 68437, 4⟩,
    ⟨68440, 68447, 10⟩, ⟨68448, 68466, 4⟩, ⟨68472, 68479, 10⟩, ⟨68480, 68497, 4⟩,
    ⟨68505, 68508, 17⟩, ⟨68521, 68527, 10⟩, ⟨68608, 68680, 4⟩, ⟨68736, 68786, 0⟩, ⟨68800, 68850, 1⟩,
    ⟨68858, 68863, 10⟩, ⟨68864, 68899, 4⟩, ⟨68900, 68903, 5⟩, ⟨68912, 68921, 8⟩, ⟨68928, 68937, 8⟩,
    ⟨68938, 68941, 4⟩]⟩,
  ⟨69951, [
    ⟨68942, 68942, 3⟩, ⟨68943, 68943, 4⟩, ⟨68944, 68965, 0⟩, ⟨68969, 68973, 5⟩, ⟨68974, 68974, 12⟩,
    ⟨68975, 68975, 3⟩, ⟨68976, 68997, 1⟩, ⟨69006, 69007, 18⟩, ⟨69216, 69246, 10⟩, ⟨69248, 69289, 4⟩,
    ⟨69291, 69292, 5⟩, ⟨69293, 69293, 12⟩, ⟨69296, 69297, 4⟩, ⟨69314, 69316, 4⟩, ⟨69317, 69317, 3⟩,
    ⟨69318, 69319, 4⟩, ⟨69328, 69328, 17⟩, ⟨69329, 69336, 21⟩, ⟨69370, 69375, 5⟩, ⟨69376, 69404, 4⟩,
    ⟨69405, 69414, 10⟩, ⟨69415, 69415, 4⟩, ⟨69424, 69445, 4⟩, ⟨69446, 69456, 5⟩, ⟨69457, 69460, 10⟩,
    ⟨69461, 69465, 17⟩, ⟨69488, 69505, 4⟩, ⟨69506, 69509, 5⟩, ⟨69510, 69513, 17⟩, ⟨69552, 69572, 4⟩,
    ⟨69573, 69579, 10⟩, ⟨69600, 69622, 4⟩, ⟨69632, 69632, 6⟩, ⟨69633, 69633, 5⟩, ⟨69634, 69634, 6⟩,
    ⟨69635, 69687, 4⟩, ⟨69688, 69702, 5⟩, ⟨69703, 69709, 17⟩, ⟨69714, 69733, 10⟩, ⟨69734, 69743, 8⟩,
    ⟨69744, 69744, 5⟩, ⟨69745, 69746, 4⟩, ⟨69747, 69748, 5⟩, ⟨69749, 69749, 4⟩, ⟨69759, 69761, 5⟩,
    ⟨69762, 69762, 6⟩, ⟨69763, 69807, 4⟩, ⟨69808, 69810, 6⟩, ⟨69811, 69814, 5⟩, ⟨69815, 69816, 6⟩,
    ⟨69817, 69818, 5⟩, ⟨69819, 69820, 17⟩, ⟨69821, 69821, 26⟩, ⟨69822, 69825, 17⟩,
    ⟨69826, 69826, 5⟩, ⟨69837, 69837, 26⟩, ⟨69840, 69864, 4⟩, ⟨69872, 69881, 8⟩, ⟨69888, 69890, 5⟩,
    ⟨69891, 69926, 4⟩, ⟨69927, 69931, 5⟩, ⟨69932, 69932, 6⟩, ⟨69933, 69940, 5⟩, ⟨69942, 69951, 8⟩]⟩,
  ⟨70477, [
    ⟨69952, 69955, 17⟩, ⟨69956, 69956, 4⟩, ⟨69957, 69958, 6⟩, ⟨69959, 69959, 4⟩, ⟨69968, 70002, 4⟩,
    ⟨70003, 70003, 5⟩, ⟨70004, 70005, 17⟩, ⟨70006, 70006, 4⟩, ⟨70016, 70017, 5⟩, ⟨70018, 70018, 6⟩,
    ⟨70019, 70066, 4⟩, ⟨70067, 70069, 6⟩, ⟨70070, 70078, 5⟩, ⟨70079, 70080, 6⟩, ⟨70081, 70084, 4⟩,
    ⟨70085, 70088, 17⟩, ⟨70089, 70092, 5⟩, ⟨70093, 70093, 17⟩, ⟨70094, 70094, 6⟩, ⟨70095, 70095, 5⟩,
    ⟨70096, 70105, 8⟩, ⟨70106, 70106, 4⟩, ⟨70107, 70107, 17⟩, ⟨70108, 70108, 4⟩, ⟨70109, 70111, 17⟩,
    ⟨70113, 70132, 10⟩, ⟨70144, 70161, 4⟩, ⟨70163, 70187, 4⟩, ⟨70188, 70190, 6⟩, ⟨70191, 70193, 5⟩,
    ⟨70194, 70195, 6⟩, ⟨70196, 70196, 5⟩, ⟨70197, 70197, 6⟩, ⟨70198, 70199, 5⟩, ⟨70200, 70205, 17⟩,
    ⟨70206, 70206, 5⟩, ⟨70207, 70208, 4⟩, ⟨70209, 70209, 5⟩, ⟨70272, 70278, 4⟩, ⟨70280, 70280, 4⟩,
    ⟨70282, 70285, 4⟩, ⟨70287, 70301, 4⟩, ⟨70303, 70312, 4⟩, ⟨70313, 70313, 17⟩, ⟨70320, 70366, 4⟩,
    ⟨70367, 70367, 5⟩, ⟨70368, 70370, 6⟩, ⟨70371, 70378, 5⟩, ⟨70384, 70393, 8⟩, ⟨70400, 70401, 5⟩,
    ⟨70402, 70403, 6⟩, ⟨70405, 70412, 4⟩, ⟨70415, 70416, 4⟩, ⟨70419, 70440, 4⟩, ⟨70442, 70448, 4⟩,
    ⟨70450, 70451, 4⟩, ⟨70453, 70457, 4⟩, ⟨70459, 70460, 5⟩, ⟨70461, 70461, 4⟩, ⟨70462, 70463, 6⟩,
    ⟨70464, 70464, 5⟩, ⟨70465, 70468, 6⟩, ⟨70471, 70472, 6⟩, ⟨70475, 70477, 6⟩]⟩,
  ⟨71215, [
    ⟨70480, 70480, 4⟩, ⟨70487, 70487, 6⟩, ⟨70493, 70497, 4⟩, ⟨70498, 70499, 6⟩, ⟨70502, 70508, 5⟩,
    ⟨70512, 70516, 5⟩, ⟨70528, 70537, 4⟩, ⟨70539, 70539, 4⟩, ⟨70542, 70542, 4⟩, ⟨70544, 70581, 4⟩,
    ⟨70583, 70583, 4⟩, ⟨70584, 70586, 6⟩, ⟨70587, 70592, 5⟩, ⟨70594, 70594, 6⟩, ⟨70597, 70597, 6⟩,
    ⟨70599, 70602, 6⟩, ⟨70604, 70605, 6⟩, ⟨70606, 70606, 5⟩, ⟨70607, 70607, 6⟩, ⟨70608, 70608, 5⟩,
    ⟨70609, 70609, 4⟩, ⟨70610, 70610, 5⟩, ⟨70611, 70611, 4⟩, ⟨70612, 70613, 17⟩, ⟨70615, 70616, 17⟩,
    ⟨70625, 70626, 5⟩, ⟨70656, 70708, 4⟩, ⟨70709, 70711, 6⟩, ⟨70712, 70719, 5⟩, ⟨70720, 70721, 6⟩,
    ⟨70722, 70724, 5⟩, ⟨70725, 70725, 6⟩, ⟨70726, 70726, 5⟩, ⟨70727, 70730, 4⟩, ⟨70731, 70735, 17⟩,
    ⟨70736, 70745, 8⟩, ⟨70746, 70747, 17⟩, ⟨70749, 70749, 17⟩, ⟨70750, 70750, 5⟩, ⟨70751, 70753, 4⟩,
    ⟨70784, 70831, 4⟩, ⟨70832, 70834, 6⟩, ⟨70835, 70840, 5⟩, ⟨70841, 70841, 6⟩, ⟨70842, 70842, 5⟩,
    ⟨70843, 70846, 6⟩, ⟨70847, 70848, 5⟩, ⟨70849, 70849, 6⟩, ⟨70850, 70851, 5⟩, ⟨70852, 70853, 4⟩,
    ⟨70854, 70854, 17⟩, ⟨70855, 70855, 4⟩, ⟨70864, 70873, 8⟩, ⟨71040, 71086, 4⟩, ⟨71087, 71089, 6⟩,
    ⟨71090, 71093, 5⟩, ⟨71096, 71099, 6⟩, ⟨71100, 71101, 5⟩, ⟨71102, 71102, 6⟩, ⟨71103, 71104, 5⟩,
    ⟨71105, 71127, 17⟩, ⟨71128, 71131, 4⟩, ⟨71132, 71133, 5⟩, ⟨71168, 71215, 4⟩]⟩,
  ⟨72144, [
    ⟨71216, 71218, 6⟩, ⟨71219, 71226, 5⟩, ⟨71227, 71228, 6⟩, ⟨71229, 71229, 5⟩, ⟨71230, 71230, 6⟩,
    ⟨71231, 71232, 5⟩, ⟨71233, 71235, 17⟩, ⟨71236, 71236, 4⟩, ⟨71248, 71257, 8⟩, ⟨71264, 71276, 17⟩,
    ⟨71296, 71338, 4⟩, ⟨71339, 71339, 5⟩, ⟨71340, 71340, 6⟩, ⟨71341, 71341, 5⟩, ⟨71342, 71343, 6⟩,
    ⟨71344, 71349, 5⟩, ⟨71350, 71350, 6⟩, ⟨71351, 71351, 5⟩, ⟨71352, 71352, 4⟩, ⟨71353, 71353, 17⟩,
    ⟨71360, 71369, 8⟩, ⟨71376, 71395, 8⟩, ⟨71424, 71450, 4⟩, ⟨71453, 71453, 5⟩, ⟨71454, 71454, 6⟩,
    ⟨71455, 71455, 5⟩, ⟨71456, 71457, 6⟩, ⟨71458, 71461, 5⟩, ⟨71462, 71462, 6⟩, ⟨71463, 71467, 5⟩,
    ⟨71472, 71481, 8⟩, ⟨71482, 71483, 10⟩, ⟨71484, 71486, 17⟩, ⟨71487, 71487, 21⟩,
    ⟨71488, 71494, 4⟩, ⟨71680, 71723, 4⟩, ⟨71724, 71726, 6⟩, ⟨71727, 71735, 5⟩, ⟨71736, 71736, 6⟩,
    ⟨71737, 71738, 5⟩, ⟨71739, 71739, 17⟩, ⟨71840, 71871, 0⟩, ⟨71872, 71903, 1⟩, ⟨71904, 71913, 8⟩,
    ⟨71914, 71922, 10⟩, ⟨71935, 71942, 4⟩, ⟨71945, 71945, 4⟩, ⟨71948, 71955, 4⟩, ⟨71957, 71958, 4⟩,
    ⟨71960, 71983, 4⟩, ⟨71984, 71989, 6⟩, ⟨71991, 71992, 6⟩, ⟨71995, 71996, 5⟩, ⟨71997, 71997, 6⟩,
    ⟨71998, 71998, 5⟩, ⟨71999, 71999, 4⟩, ⟨72000, 72000, 6⟩, ⟨72001, 72001, 4⟩, ⟨72002, 72002, 6⟩,
    ⟨72003, 72003, 5⟩, ⟨72004, 72006, 17⟩, ⟨72016, 72025, 8⟩, ⟨72096, 72103, 4⟩,
    ⟨72106, 72144, 4⟩]⟩,
  ⟨73014, [
    ⟨72145, 72147, 6⟩, ⟨72148, 72151, 5⟩, ⟨72154, 72155, 5⟩, ⟨72156, 72159, 6⟩, ⟨72160, 72160, 5⟩,
    ⟨72161, 72161, 4⟩, ⟨72162, 72162, 17⟩, ⟨72163, 72163, 4⟩, ⟨72164, 72164, 6⟩, ⟨72192, 72192, 4⟩,
    ⟨72193, 72202, 5⟩, ⟨72203, 72242, 4⟩, ⟨72243, 72248, 5⟩, ⟨72249, 72249, 6⟩, ⟨72250, 72250, 4⟩,
    ⟨72251, 72254, 5⟩, ⟨72255, 72262, 17⟩, ⟨72263, 72263, 5⟩, ⟨72272, 72272, 4⟩, ⟨72273, 72278, 5⟩,
    ⟨72279, 72280, 6⟩, ⟨72281, 72283, 5⟩, ⟨72284, 72329, 4⟩, ⟨72330, 72342, 5⟩, ⟨72343, 72343, 6⟩,
    ⟨72344, 72345, 5⟩, ⟨72346, 72348, 17⟩, ⟨72349, 72349, 4⟩, ⟨72350, 72354, 17⟩, ⟨72368, 72440, 4⟩,
    ⟨72448, 72457, 17⟩, ⟨72544, 72544, 5⟩, ⟨72545, 72545, 6⟩, ⟨72546, 72548, 5⟩, ⟨72549, 72549, 6⟩,
    ⟨72550, 72550, 5⟩, ⟨72551, 72551, 6⟩, ⟨72640, 72672, 4⟩, ⟨72673, 72673, 17⟩, ⟨72688, 72697, 8⟩,
    ⟨72704, 72712, 4⟩, ⟨72714, 72750, 4⟩, ⟨72751, 72751, 6⟩, ⟨72752, 72758, 5⟩, ⟨72760, 72765, 5⟩,
    ⟨72766, 72766, 6⟩, ⟨72767, 72767, 5⟩, ⟨72768, 72768, 4⟩, ⟨72769, 72773, 17⟩, ⟨72784, 72793, 8⟩,
    ⟨72794, 72812, 10⟩, ⟨72816, 72817, 17⟩, ⟨72818, 72847, 4⟩, ⟨72850, 72871, 5⟩, ⟨72873, 72873, 6⟩,
    ⟨72874, 72880, 5⟩, ⟨72881, 72881, 6⟩, ⟨72882, 72883, 5⟩, ⟨72884, 72884, 6⟩, ⟨72885, 72886, 5⟩,
    ⟨72960, 72966, 4⟩, ⟨72968, 72969, 4⟩, ⟨72971, 73008, 4⟩, ⟨73009, 73014, 5⟩]⟩,
  ⟨92728, [
    ⟨73018, 73018, 5⟩, ⟨73020, 73021, 5⟩, ⟨73023, 73029, 5⟩, ⟨73030, 73030, 4⟩, ⟨73031, 73031, 5⟩,
    ⟨73040, 73049, 8⟩, ⟨73056, 73061, 4⟩, ⟨73063, 73064, 4⟩, ⟨73066, 73097, 4⟩, ⟨73098, 73102, 6⟩,
    ⟨73104, 73105, 5⟩, ⟨73107, 73108, 6⟩, ⟨73109, 73109, 5⟩, ⟨73110, 73110, 6⟩, ⟨73111, 73111, 5⟩,
    ⟨73112, 73112, 4⟩, ⟨73120, 73129, 8⟩, ⟨73136, 73176, 4⟩, ⟨73177, 73177, 3⟩, ⟨73178, 73179, 4⟩,
    ⟨73184, 73193, 8⟩, ⟨73440, 73458, 4⟩, ⟨73459, 73460, 5⟩, ⟨73461, 73462, 6⟩, ⟨73463, 73464, 17⟩,
    ⟨73472, 73473, 5⟩, ⟨73474, 73474, 4⟩, ⟨73475, 73475, 6⟩, ⟨73476, 73488, 4⟩, ⟨73490, 73523, 4⟩,
    ⟨73524, 73525, 6⟩, ⟨73526, 73530, 5⟩, ⟨73534, 73535, 6⟩, ⟨73536, 73536, 5⟩, ⟨73537, 73537, 6⟩,
    ⟨73538, 73538, 5⟩, ⟨73539, 73551, 17⟩, ⟨73552, 73561, 8⟩, ⟨73562, 73562, 5⟩, ⟨73648, 73648, 4⟩,
    ⟨73664, 73684, 10⟩, ⟨73685, 73692, 21⟩, ⟨73693, 73696, 19⟩, ⟨73697, 73713, 21⟩,
    ⟨73727, 73727, 17⟩, ⟨73728, 74649, 4⟩, ⟨74752, 74862, 9⟩, ⟨74864, 74868, 17⟩, ⟨74880, 75075, 4⟩,
    ⟨77712, 77808, 4⟩, ⟨77809, 77810, 17⟩, ⟨77824, 78895, 4⟩, ⟨78896, 78911, 26⟩, ⟨78912, 78912, 5⟩,
    ⟨78913, 78918, 4⟩, ⟨78919, 78933, 5⟩, ⟨78944, 82938, 4⟩, ⟨82944, 83526, 4⟩, ⟨90368, 90397, 4⟩,
    ⟨90398, 90409, 5⟩, ⟨90410, 90412, 6⟩, ⟨90413, 90415, 5⟩, ⟨90416, 90425, 8⟩, ⟨92160, 92728, 4⟩]⟩,
  ⟨117999, [
    ⟨92736, 92766, 4⟩, ⟨92768, 92777, 8⟩, ⟨92782, 92783, 17⟩, ⟨92784, 92862, 4⟩, ⟨92864, 92873, 8⟩,
    ⟨92880, 92909, 4⟩, ⟨92912, 92916, 5⟩, ⟨92917, 92917, 17⟩, ⟨92928, 92975, 4⟩, ⟨92976, 92982, 5⟩,
    ⟨92983, 92987, 17⟩, ⟨92988, 92991, 21⟩, ⟨92992, 92995, 3⟩, ⟨92996, 92996, 17⟩,
    ⟨92997, 92997, 21⟩, ⟨93008, 93017, 8⟩, ⟨93019, 93025, 10⟩, ⟨93027, 93047, 4⟩, ⟨93053, 93071, 4⟩,
    ⟨93504, 93506, 3⟩, ⟨93507, 93546, 4⟩, ⟨93547, 93548, 3⟩, ⟨93549, 93551, 17⟩, ⟨93552, 93561, 8⟩,
    ⟨93760, 93791, 0⟩, ⟨93792, 93823, 1⟩, ⟨93824, 93846, 10⟩, ⟨93847, 93850, 17⟩, ⟨93856, 93880, 0⟩,
    ⟨93883, 93907, 1⟩, ⟨93952, 94026, 4⟩, ⟨94031, 94031, 5⟩, ⟨94032, 94032, 4⟩, ⟨94033, 94087, 6⟩,
    ⟨94095, 94098, 5⟩, ⟨94099, 94111, 3⟩, ⟨94176, 94177, 3⟩, ⟨94178, 94178, 17⟩, ⟨94179, 94179, 3⟩,
    ⟨94180, 94180, 5⟩, ⟨94192, 94193, 6⟩, ⟨94194, 94195, 3⟩, ⟨94196, 94198, 9⟩, ⟨94208, 101589, 4⟩,
    ⟨101631, 101662, 4⟩, ⟨101760, 101874, 4⟩, ⟨110576, 110579, 3⟩, ⟨110581, 110587, 3⟩,
    ⟨110589, 110590, 3⟩, ⟨110592, 110882, 4⟩, ⟨110898, 110898, 4⟩, ⟨110928, 110930, 4⟩,
    ⟨110933, 110933, 4⟩, ⟨110948, 110951, 4⟩, ⟨110960, 111355, 4⟩, ⟨113664, 113770, 4⟩,
    ⟨113776, 113788, 4⟩, ⟨113792, 113800, 4⟩, ⟨113808, 113817, 4⟩, ⟨113820, 113820, 21⟩,
    ⟨113821, 113822, 5⟩, ⟨113823, 113823, 17⟩, ⟨113824, 113827, 26⟩, ⟨117760, 117999, 21⟩]⟩,
  ⟨120275, [
    ⟨118000, 118009, 8⟩, ⟨118010, 118012, 21⟩, ⟨118016, 118451, 21⟩, ⟨118458, 118480, 21⟩,
    ⟨118496, 118511, 21⟩, ⟨118512, 118512, 18⟩, ⟨118528, 118573, 5⟩, ⟨118576, 118598, 5⟩,
    ⟨118608, 118723, 21⟩, ⟨118784, 119029, 21⟩, ⟨119040, 119078, 21⟩, ⟨119081, 119140, 21⟩,
    ⟨119141, 119142, 6⟩, ⟨119143, 119145, 5⟩, ⟨119146, 119148, 21⟩, ⟨119149, 119154, 6⟩,
    ⟨119155, 119162, 26⟩, ⟨119163, 119170, 5⟩, ⟨119171, 119172, 21⟩, ⟨119173, 119179, 5⟩,
    ⟨119180, 119209, 21⟩, ⟨119210, 119213, 5⟩, ⟨119214, 119274, 21⟩, ⟨119296, 119361, 21⟩,
    ⟨119362, 119364, 5⟩, ⟨119365, 119365, 21⟩, ⟨119488, 119507, 10⟩, ⟨119520, 119539, 10⟩,
    ⟨119552, 119638, 21⟩, ⟨119648, 119672, 10⟩, ⟨119808, 119833, 0⟩, ⟨119834, 119859, 1⟩,
    ⟨119860, 119885, 0⟩, ⟨119886, 119892, 1⟩, ⟨119894, 119911, 1⟩, ⟨119912, 119937, 0⟩,
    ⟨119938, 119963, 1⟩, ⟨119964, 119964, 0⟩, ⟨119966, 119967, 0⟩, ⟨119970, 119970, 0⟩,
    ⟨119973, 119974, 0⟩, ⟨119977, 119980, 0⟩, ⟨119982, 119989, 0⟩, ⟨119990, 119993, 1⟩,
    ⟨119995, 119995, 1⟩, ⟨119997, 120003, 1⟩, ⟨120005, 120015, 1⟩, ⟨120016, 120041, 0⟩,
    ⟨120042, 120067, 1⟩, ⟨120068, 120069, 0⟩, ⟨120071, 120074, 0⟩, ⟨120077, 120084, 0⟩,
    ⟨120086, 120092, 0⟩, ⟨120094, 120119, 1⟩, ⟨120120, 120121, 0⟩, ⟨120123, 120126, 0⟩,
    ⟨120128, 120132, 0⟩, ⟨120134, 120134, 0⟩, ⟨120138, 120144, 0⟩, ⟨120146, 120171, 1⟩,
    ⟨120172, 120197, 0⟩, ⟨120198, 120223, 1⟩, ⟨120224, 120249, 0⟩, ⟨120250, 120275, 1⟩]⟩,
  ⟨123214, [
    ⟨120276, 120301, 0⟩, ⟨120302, 120327, 1⟩, ⟨120328, 120353, 0⟩, ⟨120354, 120379, 1⟩,
    ⟨120380, 120405, 0⟩, ⟨120406, 120431, 1⟩, ⟨120432, 120457, 0⟩, ⟨120458, 120485, 1⟩,
    ⟨120488, 120512, 0⟩, ⟨120513, 120513, 18⟩, ⟨120514, 120538, 1⟩, ⟨120539, 120539, 18⟩,
    ⟨120540, 120545, 1⟩, ⟨120546, 120570, 0⟩, ⟨120571, 120571, 18⟩, ⟨120572, 120596, 1⟩,
    ⟨120597, 120597, 18⟩, ⟨120598, 120603, 1⟩, ⟨120604, 120628, 0⟩, ⟨120629, 120629, 18⟩,
    ⟨120630, 120654, 1⟩, ⟨120655, 120655, 18⟩, ⟨120656, 120661, 1⟩, ⟨120662, 120686, 0⟩,
    ⟨120687, 120687, 18⟩, ⟨120688, 120712, 1⟩, ⟨120713, 120713, 18⟩, ⟨120714, 120719, 1⟩,
    ⟨120720, 120744, 0⟩, ⟨120745, 120745, 18⟩, ⟨120746, 120770, 1⟩, ⟨120771, 120771, 18⟩,
    ⟨120772, 120777, 1⟩, ⟨120778, 120778, 0⟩, ⟨120779, 120779, 1⟩, ⟨120782, 120831, 8⟩,
    ⟨120832, 121343, 21⟩, ⟨121344, 121398, 5⟩, ⟨121399, 121402, 21⟩, ⟨121403, 121452, 5⟩,
    ⟨121453, 121460, 21⟩, ⟨121461, 121461, 5⟩, ⟨121462, 121475, 21⟩, ⟨121476, 121476, 5⟩,
    ⟨121477, 121478, 21⟩, ⟨121479, 121483, 17⟩, ⟨121499, 121503, 5⟩, ⟨121505, 121519, 5⟩,
    ⟨122624, 122633, 1⟩, ⟨122634, 122634, 4⟩, ⟨122635, 122654, 1⟩, ⟨122661, 122666, 1⟩,
    ⟨122880, 122886, 5⟩, ⟨122888, 122904, 5⟩, ⟨122907, 122913, 5⟩, ⟨122915, 122916, 5⟩,
    ⟨122918, 122922, 5⟩, ⟨122928, 122989, 3⟩, ⟨123023, 123023, 5⟩, ⟨123136, 123180, 4⟩,
    ⟨123184, 123190, 5⟩, ⟨123191, 123197, 3⟩, ⟨123200, 123209, 8⟩, ⟨123214, 123214, 4⟩]⟩,
  ⟨126548, [
    ⟨123215, 123215, 21⟩, ⟨123536, 123565, 4⟩, ⟨123566, 123566, 5⟩, ⟨123584, 123627, 4⟩,
    ⟨123628, 123631, 5⟩, ⟨123632, 123641, 8⟩, ⟨123647, 123647, 19⟩, ⟨124112, 124138, 4⟩,
    ⟨124139, 124139, 3⟩, ⟨124140, 124143, 5⟩, ⟨124144, 124153, 8⟩, ⟨124368, 124397, 4⟩,
    ⟨124398, 124399, 5⟩, ⟨124400, 124400, 4⟩, ⟨124401, 124410, 8⟩, ⟨124415, 124415, 17⟩,
    ⟨124608, 124638, 4⟩, ⟨124640, 124642, 4⟩, ⟨124643, 124643, 5⟩, ⟨124644, 124645, 4⟩,
    ⟨124646, 124646, 5⟩, ⟨124647, 124653, 4⟩, ⟨124654, 124655, 5⟩, ⟨124656, 124660, 4⟩,
    ⟨124661, 124661, 5⟩, ⟨124670, 124670, 4⟩, ⟨124671, 124671, 3⟩, ⟨124896, 124902, 4⟩,
    ⟨124904, 124907, 4⟩, ⟨124909, 124910, 4⟩, ⟨124912, 124926, 4⟩, ⟨124928, 125124, 4⟩,
    ⟨125127, 125135, 10⟩, ⟨125136, 125142, 5⟩, ⟨125184, 125217, 0⟩, ⟨125218, 125251, 1⟩,
    ⟨125252, 125258, 5⟩, ⟨125259, 125259, 3⟩, ⟨125264, 125273, 8⟩, ⟨125278, 125279, 17⟩,
    ⟨126065, 126123, 10⟩, ⟨126124, 126124, 21⟩, ⟨126125, 126127, 10⟩, ⟨126128, 126128, 19⟩,
    ⟨126129, 126132, 10⟩, ⟨126209, 126253, 10⟩, ⟨126254, 126254, 21⟩, ⟨126255, 126269, 10⟩,
    ⟨126464, 126467, 4⟩, ⟨126469, 126495, 4⟩, ⟨126497, 126498, 4⟩, ⟨126500, 126500, 4⟩,
    ⟨126503, 126503, 4⟩, ⟨126505, 126514, 4⟩, ⟨126516, 126519, 4⟩, ⟨126521, 126521, 4⟩,
    ⟨126523, 126523, 4⟩, ⟨126530, 126530, 4⟩, ⟨126535, 126535, 4⟩, ⟨126537, 126537, 4⟩,
    ⟨126539, 126539, 4⟩, ⟨126541, 126543, 4⟩, ⟨126545, 126546, 4⟩, ⟨126548, 126548, 4⟩]⟩,
  ⟨191456, [
    ⟨126551, 126551, 4⟩, ⟨126553, 126553, 4⟩, ⟨126555, 126555, 4⟩, ⟨126557, 126557, 4⟩,
    ⟨126559, 126559, 4⟩, ⟨126561, 126562, 4⟩, ⟨126564, 126564, 4⟩, ⟨126567, 126570, 4⟩,
    ⟨126572, 126578, 4⟩, ⟨126580, 126583, 4⟩, ⟨126585, 126588, 4⟩, ⟨126590, 126590, 4⟩,
    ⟨126592, 126601, 4⟩, ⟨126603, 126619, 4⟩, ⟨126625, 126627, 4⟩, ⟨126629, 126633, 4⟩,
    ⟨126635, 126651, 4⟩, ⟨126704, 126705, 18⟩, ⟨126976, 127019, 21⟩, ⟨127024, 127123, 21⟩,
    ⟨127136, 127150, 21⟩, ⟨127153, 127167, 21⟩, ⟨127169, 127183, 21⟩, ⟨127185, 127221, 21⟩,
    ⟨127232, 127244, 10⟩, ⟨127245, 127405, 21⟩, ⟨127462, 127490, 21⟩, ⟨127504, 127547, 21⟩,
    ⟨127552, 127560, 21⟩, ⟨127568, 127569, 21⟩, ⟨127584, 127589, 21⟩, ⟨127744, 127994, 21⟩,
    ⟨127995, 127999, 20⟩, ⟨128000, 128728, 21⟩, ⟨128732, 128748, 21⟩, ⟨128752, 128764, 21⟩,
    ⟨128768, 128985, 21⟩, ⟨128992, 129003, 21⟩, ⟨129008, 129008, 21⟩, ⟨129024, 129035, 21⟩,
    ⟨129040, 129095, 21⟩, ⟨129104, 129113, 21⟩, ⟨129120, 129159, 21⟩, ⟨129168, 129197, 21⟩,
    ⟨129200, 129211, 21⟩, ⟨129216, 129217, 21⟩, ⟨129232, 129240, 18⟩, ⟨129280, 129623, 21⟩,
    ⟨129632, 129645, 21⟩, ⟨129648, 129660, 21⟩, ⟨129664, 129674, 21⟩, ⟨129678, 129734, 21⟩,
    ⟨129736, 129736, 21⟩, ⟨129741, 129756, 21⟩, ⟨129759, 129770, 21⟩, ⟨129775, 129784, 21⟩,
    ⟨129792, 129938, 21⟩, ⟨129940, 130031, 21⟩, ⟨130032, 130041, 8⟩, ⟨130042, 130042, 21⟩,
    ⟨131072, 173791, 4⟩, ⟨173824, 178205, 4⟩, ⟨178208, 183981, 4⟩, ⟨183984, 191456, 4⟩]⟩,
  ⟨1114109, [
    ⟨191472, 192093, 4⟩, ⟨194560, 195101, 4⟩, ⟨196608, 201546, 4⟩, ⟨201552, 210041, 4⟩,
    ⟨917505, 917505, 26⟩, ⟨917536, 917631, 26⟩, ⟨917760, 917999, 5⟩, ⟨983040, 1048573, 27⟩,
    ⟨1048576, 1114109, 27⟩]⟩]

/-- The category that a row gives one of its code points. -/
def CategoryRow.category (row : CategoryRow) (point : Nat) : Category :=
  if row.code = alternatingCode then
    if (point - row.first) % 2 = 0 then .uppercaseLetter else .lowercaseLetter
  else
    Category.all.getD row.code .unassigned

/-- The category that sorted rows give a code point. -/
def categoryInRows (point : Nat) : List CategoryRow → Category
  | [] => .unassigned
  | row :: later =>
      if point < row.first then .unassigned
      else if point ≤ row.last then row.category point
      else categoryInRows point later

/-- The category that the blocks give a code point. -/
def categoryInBlocks (point : Nat) : List CategoryBlock → Category
  | [] => .unassigned
  | block :: later =>
      if point ≤ block.last then categoryInRows point block.rows
      else categoryInBlocks point later

/-- The general category of a character. -/
def category (c : Char) : Category :=
  if c.toNat < 4096 then categoryInBlocks c.toNat lowBlocks
  else if c.toNat < 65536 then categoryInBlocks c.toNat middleBlocks
  else categoryInBlocks c.toNat highBlocks

end PhraseRules.Unicode
