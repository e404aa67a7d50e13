import DocSearch.Text.Lowercase
import DocSearch.Text.Normal
import DocSearch.Text.Visible
import DocSearch.Url.Folding.Enclosed
import DocSearch.Url.Folding.Letter
import DocSearch.Url.Folding.Presentation
import DocSearch.Url.Folding.Supplement
import DocSearch.Url.Folding.Symbol

/-!
The form in which domains are compared: small letters, one spelling for characters that are variants
of each other, and nothing for those that do not show.
-/

namespace DocSearch.Url.Folding

def ignored : Text.Ranges :=
    [(173, 173), (847, 847), (4447, 4448), (6068, 6069), (6155, 6159), (8203, 8203), (8288, 8292),
    (8298, 8303), (12644, 12644), (65024, 65039), (65279, 65279), (65440, 65440),
    (113824, 113827), (119155, 119162), (917760, 917999)]

/-- The two joiners, which have no form of their own and yet count. -/
def isJoiner (c : Char) : Bool := c.toNat == 8204 || c.toNat == 8205

/-- The visible characters that no domain has: signs made with full stops, signs that describe
ideographs, and signs for missing characters. -/
def refusedSigns : Text.Ranges :=
    [(8228, 8230), (9352, 9371), (12272, 12287), (12783, 12783), (13250, 13250), (13255, 13255),
    (13272, 13272), (65042, 65042), (65049, 65049), (65072, 65072), (65106, 65106),
    (65532, 65533), (127232, 127232)]

def isRefused (c : Char) : Bool :=
  128 ≤ c.toNat && !ignored.contains c && !isJoiner c &&
    (Text.invisible.contains c || refusedSigns.contains c)

def shifted : Text.Shifts :=
    [(5112, 5117, 1, -8), (7473, 7481, 2, -7372), (7476, 7482, 2, -7372), (7598, 7601, 1, -6972),
    (8308, 8313, 1, -8256), (8320, 8329, 1, -8272), (8342, 8345, 1, -8235),
    (8501, 8504, 1, -7013), (9312, 9320, 1, -9263), (9398, 9423, 1, -9301),
    (9424, 9449, 1, -9327), (12602, 12607, 1, -8074), (12613, 12622, 1, -8252),
    (12623, 12643, 1, -8174), (12664, 12668, 1, -8269), (12905, 12909, 1, -8539),
    (13028, 13033, 1, -538), (13038, 13042, 1, -528), (13045, 13050, 1, -525),
    (13051, 13054, 1, -524), (43888, 43967, 1, -38864), (65089, 65092, 1, -52789),
    (65281, 65312, 1, -65248), (65313, 65338, 1, -65216), (65339, 65374, 1, -65248),
    (65413, 65418, 1, -52923), (65423, 65427, 1, -52913), (65430, 65435, 1, -52910),
    (65450, 65455, 1, -60922), (65461, 65470, 1, -61100), (65474, 65479, 1, -61025),
    (65482, 65487, 1, -61027), (65490, 65495, 1, -61029), (65513, 65516, 1, -56921),
    (117974, 117999, 1, -117877), (118000, 118009, 1, -117952), (119808, 119833, 1, -119711),
    (119834, 119859, 1, -119737), (119860, 119885, 1, -119763), (119886, 119910, 2, -119789),
    (119887, 119911, 4, -119789), (119897, 119909, 4, -119789), (119912, 119937, 1, -119815),
    (119938, 119963, 1, -119841), (119966, 119986, 4, -119867), (119983, 119989, 2, -119867),
    (119990, 119993, 1, -119893), (119995, 120015, 2, -119893), (119998, 120014, 4, -119893),
    (120016, 120041, 1, -119919), (120042, 120067, 1, -119945), (120069, 120081, 4, -119971),
    (120074, 120090, 4, -119971), (120079, 120091, 4, -119971), (120080, 120092, 4, -119971),
    (120094, 120119, 1, -119997), (120120, 120132, 4, -120023), (120126, 120142, 4, -120023),
    (120146, 120171, 1, -120049), (120172, 120197, 1, -120075), (120198, 120223, 1, -120101),
    (120224, 120249, 1, -120127), (120250, 120275, 1, -120153), (120276, 120301, 1, -120179),
    (120302, 120327, 1, -120205), (120328, 120353, 1, -120231), (120354, 120379, 1, -120257),
    (120380, 120405, 1, -120283), (120406, 120431, 1, -120309), (120432, 120457, 1, -120335),
    (120458, 120483, 1, -120361), (120488, 120504, 1, -119543), (120506, 120512, 1, -119543),
    (120514, 120530, 1, -119569), (120532, 120538, 1, -119569), (120546, 120562, 1, -119601),
    (120564, 120570, 1, -119601), (120572, 120588, 1, -119627), (120590, 120596, 1, -119627),
    (120604, 120620, 1, -119659), (120622, 120628, 1, -119659), (120630, 120646, 1, -119685),
    (120648, 120654, 1, -119685), (120662, 120678, 1, -119717), (120680, 120686, 1, -119717),
    (120688, 120704, 1, -119743), (120706, 120712, 1, -119743), (120720, 120736, 1, -119775),
    (120738, 120744, 1, -119775), (120746, 120762, 1, -119801), (120764, 120770, 1, -119801),
    (120782, 120791, 1, -120734), (120792, 120801, 1, -120744), (120802, 120811, 1, -120754),
    (120812, 120821, 1, -120764), (120822, 120831, 1, -120774), (122928, 122936, 1, -121856),
    (122940, 122950, 1, -121854), (122961, 122969, 1, -121889), (122975, 122980, 1, -121884),
    (126474, 126477, 1, -124871), (126506, 126509, 1, -124903), (127280, 127305, 1, -127183),
    (130032, 130041, 1, -129984)]

/-- The spelling of a character that a domain spells in another way. -/
def spelling? (n : Nat) : Option (List Nat) :=
  if n < 8192 then letters.at? n
  else if n < 12288 then symbols.at? n
  else if n < 64256 then enclosed.at? n
  else if n < 65536 then presentations.at? n
  else supplements.at? n

/-- The capital letters that stand for the small ones of their script. -/
def isLeadingCapital (c : Char) : Bool := 5024 ≤ c.toNat && c.toNat ≤ 5109

/-- A character in the form in which it is compared. -/
def foldChar (c : Char) : List Char :=
  if c.toNat < 128 then [c.toLower]
  else if ignored.contains c then []
  else if isLeadingCapital c then [c]
  else
    match spelling? c.toNat with
    | some ns => ns.map Char.ofNat
    | none =>
      match shifted.image? c with
      | some d => [d]
      | none => Text.lowerChar c

/-- A text in the form in which it is compared, if a domain may have its characters. -/
def fold? (s : List Char) : Option (List Char) :=
  if s.any isRefused then none else some (Text.composed (s.flatMap foldChar))

end DocSearch.Url.Folding
