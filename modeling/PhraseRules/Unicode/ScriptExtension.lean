import PhraseRules.Unicode.Script

/-!
# Script extensions

Characters that are common to scripts, or take on the script of their neighbours, are used with
certain scripts only.  An extended script holds these characters as well, and what is common to all
is only what is used with no certain script.
-/

namespace PhraseRules.Unicode

/-- The scripts that common and inherited characters are used with, by first code point. -/
def extensionRows : List ScriptRow := [
  ⟨183, 183, 6⟩, ⟨183, 183, 20⟩, ⟨183, 183, 24⟩, ⟨183, 183, 32⟩, ⟨183, 183, 34⟩, ⟨183, 183, 37⟩,
  ⟨183, 183, 38⟩, ⟨183, 183, 39⟩, ⟨183, 183, 41⟩, ⟨183, 183, 43⟩, ⟨183, 183, 47⟩, ⟨183, 183, 69⟩,
  ⟨183, 183, 76⟩, ⟨183, 183, 77⟩, ⟨183, 183, 109⟩, ⟨183, 183, 123⟩, ⟨700, 700, 11⟩, ⟨700, 700, 27⟩,
  ⟨700, 700, 28⟩, ⟨700, 700, 69⟩, ⟨700, 700, 74⟩, ⟨700, 700, 146⟩, ⟨700, 700, 150⟩, ⟨711, 711, 13⟩,
  ⟨711, 711, 69⟩, ⟨713, 715, 13⟩, ⟨713, 715, 69⟩, ⟨717, 717, 69⟩, ⟨717, 717, 74⟩, ⟨727, 727, 69⟩,
  ⟨727, 727, 146⟩, ⟨729, 729, 13⟩, ⟨729, 729, 69⟩, ⟨768, 770, 22⟩, ⟨768, 768, 24⟩, ⟨768, 770, 27⟩,
  ⟨768, 769, 43⟩, ⟨768, 782, 69⟩, ⟨768, 768, 109⟩, ⟨768, 769, 137⟩, ⟨768, 769, 167⟩,
  ⟨769, 769, 104⟩, ⟨769, 769, 168⟩, ⟨770, 770, 143⟩, ⟨771, 771, 38⟩, ⟨771, 772, 134⟩,
  ⟨771, 771, 146⟩, ⟨771, 771, 167⟩, ⟨772, 772, 1⟩, ⟨772, 772, 22⟩, ⟨772, 773, 24⟩, ⟨772, 772, 27⟩,
  ⟨772, 773, 41⟩, ⟨772, 772, 43⟩, ⟨772, 772, 104⟩, ⟨772, 772, 143⟩, ⟨772, 772, 168⟩, ⟨773, 773, 34⟩,
  ⟨773, 773, 38⟩, ⟨773, 773, 59⟩, ⟨774, 774, 27⟩, ⟨774, 774, 43⟩, ⟨774, 776, 109⟩, ⟨774, 777, 143⟩,
  ⟨775, 775, 24⟩, ⟨775, 776, 32⟩, ⟨775, 776, 50⟩, ⟨775, 776, 134⟩, ⟨775, 776, 137⟩, ⟨775, 775, 168⟩,
  ⟨776, 776, 5⟩, ⟨776, 776, 27⟩, ⟨776, 776, 41⟩, ⟨776, 776, 43⟩, ⟨778, 778, 32⟩, ⟨778, 778, 134⟩,
  ⟨779, 780, 22⟩, ⟨779, 779, 27⟩, ⟨779, 779, 104⟩, ⟨780, 780, 137⟩, ⟨781, 781, 167⟩, ⟨782, 782, 36⟩,
  ⟨784, 785, 69⟩, ⟨784, 784, 167⟩, ⟨785, 785, 27⟩, ⟨785, 785, 168⟩, ⟨787, 787, 43⟩, ⟨787, 787, 69⟩,
  ⟨787, 787, 109⟩, ⟨787, 787, 168⟩, ⟨803, 804, 22⟩, ⟨803, 804, 32⟩, ⟨803, 803, 59⟩, ⟨803, 805, 69⟩,
  ⟨803, 805, 134⟩, ⟨803, 803, 143⟩, ⟨813, 814, 69⟩, ⟨813, 814, 134⟩, ⟨813, 813, 167⟩,
  ⟨816, 817, 22⟩, ⟨816, 817, 69⟩, ⟨816, 817, 134⟩, ⟨817, 817, 1⟩, ⟨817, 817, 41⟩, ⟨817, 817, 146⟩,
  ⟨817, 817, 167⟩, ⟨834, 834, 43⟩, ⟨837, 837, 43⟩, ⟨856, 856, 69⟩, ⟨856, 856, 104⟩, ⟨862, 862, 1⟩,
  ⟨862, 862, 69⟩, ⟨862, 862, 168⟩, ⟨867, 879, 69⟩, ⟨884, 885, 24⟩, ⟨884, 884, 43⟩,
  ⟨1155, 1155, 109⟩, ⟨1156, 1156, 38⟩, ⟨1157, 1158, 27⟩, ⟨1157, 1158, 69⟩, ⟨1159, 1159, 38⟩,
  ⟨1417, 1417, 37⟩, ⟨1417, 1417, 38⟩, ⟨1548, 1548, 3⟩, ⟨1548, 1548, 98⟩, ⟨1548, 1548, 117⟩,
  ⟨1548, 1548, 134⟩, ⟨1548, 1548, 145⟩, ⟨1548, 1548, 158⟩, ⟨1548, 1548, 163⟩, ⟨1563, 1563, 3⟩,
  ⟨1563, 1563, 98⟩, ⟨1563, 1563, 117⟩, ⟨1563, 1564, 134⟩, ⟨1563, 1564, 145⟩, ⟨1563, 1563, 158⟩,
  ⟨1563, 1563, 163⟩, ⟨1567, 1567, 0⟩, ⟨1567, 1567, 3⟩, ⟨1567, 1567, 98⟩, ⟨1567, 1567, 117⟩,
  ⟨1567, 1567, 134⟩, ⟨1567, 1567, 145⟩, ⟨1567, 1567, 158⟩, ⟨1567, 1567, 163⟩, ⟨1600, 1600, 0⟩,
  ⟨1600, 1600, 3⟩, ⟨1600, 1600, 79⟩, ⟨1600, 1600, 80⟩, ⟨1600, 1600, 106⟩, ⟨1600, 1600, 112⟩,
  ⟨1600, 1600, 117⟩, ⟨1600, 1600, 128⟩, ⟨1600, 1600, 134⟩, ⟨1611, 1621, 3⟩, ⟨1611, 1621, 134⟩,
  ⟨1632, 1641, 145⟩, ⟨1632, 1641, 158⟩, ⟨1648, 1648, 3⟩, ⟨1648, 1648, 134⟩, ⟨1748, 1748, 117⟩,
  ⟨2385, 2386, 11⟩, ⟨2385, 2386, 28⟩, ⟨2385, 2386, 42⟩, ⟨2385, 2386, 44⟩, ⟨2385, 2386, 45⟩,
  ⟨2385, 2386, 65⟩, ⟨2385, 2386, 69⟩, ⟨2385, 2386, 86⟩, ⟨2385, 2385, 94⟩, ⟨2385, 2386, 97⟩,
  ⟨2385, 2386, 103⟩, ⟨2385, 2385, 124⟩, ⟨2385, 2386, 139⟩, ⟨2385, 2386, 142⟩, ⟨2385, 2386, 148⟩,
  ⟨2404, 2405, 11⟩, ⟨2404, 2405, 28⟩, ⟨2404, 2415, 30⟩, ⟨2404, 2405, 39⟩, ⟨2404, 2405, 40⟩,
  ⟨2404, 2405, 42⟩, ⟨2404, 2405, 44⟩, ⟨2404, 2405, 45⟩, ⟨2404, 2405, 65⟩, ⟨2404, 2415, 77⟩,
  ⟨2404, 2405, 86⟩, ⟨2404, 2405, 94⟩, ⟨2404, 2405, 103⟩, ⟨2404, 2405, 126⟩, ⟨2404, 2405, 127⟩,
  ⟨2404, 2405, 133⟩, ⟨2404, 2405, 136⟩, ⟨2404, 2405, 139⟩, ⟨2404, 2405, 142⟩, ⟨2404, 2405, 148⟩,
  ⟨2404, 2405, 166⟩, ⟨2405, 2405, 71⟩, ⟨2405, 2405, 164⟩, ⟨2406, 2415, 66⟩, ⟨2534, 2543, 18⟩,
  ⟨2534, 2543, 133⟩, ⟨2662, 2671, 91⟩, ⟨2790, 2799, 63⟩, ⟨3046, 3059, 42⟩, ⟨3302, 3311, 94⟩,
  ⟨3302, 3311, 169⟩, ⟨4160, 4169, 18⟩, ⟨4160, 4169, 137⟩, ⟨4347, 4347, 37⟩, ⟨4347, 4347, 38⟩,
  ⟨4347, 4347, 69⟩, ⟨5867, 5869, 118⟩, ⟨5941, 5942, 17⟩, ⟨5941, 5942, 48⟩, ⟨5941, 5942, 135⟩,
  ⟨5941, 5942, 144⟩, ⟨6146, 6147, 88⟩, ⟨6146, 6147, 110⟩, ⟨6149, 6149, 88⟩, ⟨6149, 6149, 110⟩,
  ⟨7376, 7376, 11⟩, ⟨7376, 7414, 28⟩, ⟨7376, 7376, 42⟩, ⟨7376, 7376, 65⟩, ⟨7378, 7378, 11⟩,
  ⟨7378, 7379, 42⟩, ⟨7378, 7379, 65⟩, ⟨7381, 7382, 11⟩, ⟨7381, 7381, 97⟩, ⟨7381, 7382, 142⟩,
  ⟨7381, 7381, 148⟩, ⟨7383, 7384, 97⟩, ⟨7383, 7383, 124⟩, ⟨7384, 7384, 11⟩, ⟨7384, 7384, 142⟩,
  ⟨7385, 7385, 124⟩, ⟨7386, 7386, 65⟩, ⟨7386, 7386, 86⟩, ⟨7386, 7386, 103⟩, ⟨7386, 7386, 139⟩,
  ⟨7386, 7386, 142⟩, ⟨7388, 7389, 124⟩, ⟨7392, 7392, 124⟩, ⟨7393, 7393, 11⟩, ⟨7394, 7394, 97⟩,
  ⟨7394, 7394, 148⟩, ⟨7401, 7401, 94⟩, ⟨7401, 7401, 97⟩, ⟨7402, 7402, 11⟩, ⟨7402, 7402, 124⟩,
  ⟨7403, 7403, 97⟩, ⟨7405, 7405, 11⟩, ⟨7405, 7405, 97⟩, ⟨7405, 7405, 124⟩, ⟨7410, 7410, 11⟩,
  ⟨7410, 7412, 42⟩, ⟨7410, 7410, 65⟩, ⟨7410, 7410, 86⟩, ⟨7410, 7410, 94⟩, ⟨7410, 7410, 103⟩,
  ⟨7410, 7410, 127⟩, ⟨7410, 7410, 142⟩, ⟨7410, 7410, 148⟩, ⟨7410, 7410, 169⟩, ⟨7412, 7412, 65⟩,
  ⟨7412, 7412, 169⟩, ⟨7413, 7415, 11⟩, ⟨7416, 7417, 28⟩, ⟨7416, 7417, 42⟩, ⟨7418, 7418, 94⟩,
  ⟨7616, 7617, 43⟩, ⟨7672, 7672, 27⟩, ⟨7672, 7672, 69⟩, ⟨7672, 7672, 134⟩, ⟨7674, 7674, 134⟩,
  ⟨8239, 8239, 69⟩, ⟨8239, 8239, 88⟩, ⟨8239, 8239, 110⟩, ⟨8271, 8271, 0⟩, ⟨8271, 8271, 3⟩,
  ⟨8282, 8282, 20⟩, ⟨8282, 8282, 37⟩, ⟨8282, 8282, 38⟩, ⟨8282, 8282, 55⟩, ⟨8282, 8282, 75⟩,
  ⟨8282, 8282, 102⟩, ⟨8285, 8285, 20⟩, ⟨8285, 8285, 43⟩, ⟨8285, 8285, 55⟩, ⟨8285, 8285, 85⟩,
  ⟨8432, 8432, 28⟩, ⟨8432, 8432, 42⟩, ⟨8432, 8432, 69⟩, ⟨11799, 11799, 24⟩, ⟨11799, 11799, 69⟩,
  ⟨11824, 11825, 6⟩, ⟨11824, 11824, 102⟩, ⟨11825, 11825, 20⟩, ⟨11825, 11825, 37⟩,
  ⟨11825, 11825, 55⟩, ⟨11825, 11825, 66⟩, ⟨11825, 11825, 76⟩, ⟨11825, 11825, 119⟩,
  ⟨11836, 11836, 32⟩, ⟨11841, 11841, 0⟩, ⟨11841, 11841, 3⟩, ⟨11841, 11841, 55⟩, ⟨11843, 11843, 27⟩,
  ⟨11843, 11843, 38⟩, ⟨12272, 12287, 47⟩, ⟨12272, 12287, 140⟩, ⟨12289, 12291, 13⟩,
  ⟨12289, 12291, 46⟩, ⟨12289, 12291, 47⟩, ⟨12289, 12291, 51⟩, ⟨12289, 12291, 59⟩,
  ⟨12289, 12290, 88⟩, ⟨12289, 12290, 159⟩, ⟨12290, 12290, 110⟩, ⟨12294, 12294, 47⟩,
  ⟨12296, 12305, 13⟩, ⟨12296, 12305, 46⟩, ⟨12296, 12305, 47⟩, ⟨12296, 12305, 51⟩,
  ⟨12296, 12305, 59⟩, ⟨12296, 12299, 88⟩, ⟨12296, 12299, 147⟩, ⟨12296, 12305, 159⟩,
  ⟨12298, 12299, 74⟩, ⟨12307, 12319, 13⟩, ⟨12307, 12319, 46⟩, ⟨12307, 12319, 47⟩,
  ⟨12307, 12319, 51⟩, ⟨12307, 12319, 59⟩, ⟨12308, 12315, 159⟩, ⟨12330, 12333, 13⟩,
  ⟨12330, 12333, 47⟩, ⟨12336, 12336, 13⟩, ⟨12336, 12336, 46⟩, ⟨12336, 12336, 47⟩,
  ⟨12336, 12341, 51⟩, ⟨12336, 12341, 59⟩, ⟨12343, 12343, 13⟩, ⟨12343, 12343, 46⟩,
  ⟨12343, 12343, 47⟩, ⟨12343, 12343, 51⟩, ⟨12343, 12343, 59⟩, ⟨12348, 12351, 47⟩,
  ⟨12348, 12349, 51⟩, ⟨12348, 12349, 59⟩, ⟨12441, 12444, 51⟩, ⟨12441, 12444, 59⟩,
  ⟨12448, 12448, 51⟩, ⟨12448, 12448, 59⟩, ⟨12539, 12539, 13⟩, ⟨12539, 12539, 46⟩,
  ⟨12539, 12539, 47⟩, ⟨12539, 12540, 51⟩, ⟨12539, 12540, 59⟩, ⟨12539, 12539, 159⟩,
  ⟨12688, 12703, 47⟩, ⟨12736, 12773, 47⟩, ⟨12783, 12783, 47⟩, ⟨12783, 12783, 140⟩,
  ⟨12832, 12871, 47⟩, ⟨12928, 12976, 47⟩, ⟨12992, 13003, 47⟩, ⟨13055, 13055, 47⟩,
  ⟨13144, 13168, 47⟩, ⟨13179, 13183, 47⟩, ⟨13280, 13310, 47⟩, ⟨42607, 42607, 38⟩,
  ⟨42752, 42759, 47⟩, ⟨42752, 42759, 69⟩, ⟨43056, 43065, 28⟩, ⟨43056, 43065, 30⟩,
  ⟨43056, 43065, 44⟩, ⟨43056, 43065, 45⟩, ⟨43056, 43065, 63⟩, ⟨43056, 43061, 65⟩,
  ⟨43056, 43065, 66⟩, ⟨43056, 43065, 77⟩, ⟨43056, 43058, 86⟩, ⟨43056, 43065, 87⟩,
  ⟨43056, 43061, 94⟩, ⟨43056, 43061, 124⟩, ⟨43056, 43065, 126⟩, ⟨43056, 43065, 136⟩,
  ⟨43056, 43065, 148⟩, ⟨43056, 43061, 169⟩, ⟨43064, 43064, 124⟩, ⟨43249, 43249, 11⟩,
  ⟨43249, 43249, 169⟩, ⟨43251, 43251, 139⟩, ⟨43310, 43310, 58⟩, ⟨43310, 43310, 69⟩,
  ⟨43310, 43310, 92⟩, ⟨43471, 43471, 16⟩, ⟨43471, 43471, 57⟩, ⟨64830, 64831, 3⟩, ⟨64830, 64831, 98⟩,
  ⟨65010, 65010, 145⟩, ⟨65021, 65021, 145⟩, ⟨65093, 65094, 13⟩, ⟨65093, 65094, 46⟩,
  ⟨65093, 65094, 47⟩, ⟨65093, 65094, 51⟩, ⟨65093, 65094, 59⟩, ⟨65377, 65381, 13⟩,
  ⟨65377, 65381, 46⟩, ⟨65377, 65381, 47⟩, ⟨65377, 65381, 51⟩, ⟨65377, 65381, 59⟩,
  ⟨65377, 65381, 159⟩, ⟨65392, 65392, 51⟩, ⟨65392, 65392, 59⟩, ⟨65438, 65439, 51⟩,
  ⟨65438, 65439, 59⟩, ⟨65792, 65793, 25⟩, ⟨65792, 65794, 26⟩, ⟨65792, 65794, 73⟩,
  ⟨65799, 65843, 26⟩, ⟨65799, 65843, 72⟩, ⟨65799, 65843, 73⟩, ⟨65847, 65855, 26⟩,
  ⟨65847, 65855, 73⟩, ⟨66272, 66299, 3⟩, ⟨66272, 66299, 24⟩, ⟨68338, 68338, 106⟩,
  ⟨70401, 70401, 139⟩, ⟨70403, 70403, 139⟩, ⟨70459, 70459, 42⟩, ⟨70459, 70460, 139⟩,
  ⟨73680, 73681, 42⟩, ⟨73683, 73683, 42⟩, ⟨113824, 113827, 32⟩, ⟨119648, 119665, 47⟩,
  ⟨127568, 127569, 47⟩]

/-- The numbers of the scripts of inherited and of common characters. -/
def sharedScripts : List Nat := [161, 162]

/-- Whether a row covers the code point. -/
def ScriptRow.covers (row : ScriptRow) (point : Nat) : Bool :=
  row.first ≤ point && point ≤ row.last

/-- Whether the character is used with the script with the given number. -/
def isUsedWithScript (number : Nat) (c : Char) : Bool :=
  let rows := extensionRows.filter (·.covers c.toNat)
  if sharedScripts.contains number then script? c == some number && rows.isEmpty
  else script? c == some number || rows.any (·.script == number)

end PhraseRules.Unicode
