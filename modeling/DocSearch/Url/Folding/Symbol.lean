import DocSearch.Text.Ranges

/-!
The signs, numbers and radicals that a domain spells in another way.
-/

namespace DocSearch.Url.Folding

/-- The spelling of each. -/
def symbols : Text.Runs (List Nat) :=
    [(8209, [[8208]]), (8215, [[32, 819]]), (8243, [[8242, 8242], [8242, 8242, 8242]]),
    (8246, [[8245, 8245], [8245, 8245, 8245]]), (8252, [[33, 33]]), (8254, [[32, 773]]),
    (8263, [[63, 63], [63, 33], [33, 63]]), (8279, [[8242, 8242, 8242, 8242]]), (8304, [[48],
    [105]]), (8314, [[43], [8722], [61], [40], [41], [110]]), (8330, [[43], [8722], [61], [40],
    [41]]), (8336, [[97], [101], [111], [120], [601], [104]]), (8346, [[112], [115], [116]]),
    (8360, [[114, 115]]), (8448, [[97, 47, 99], [97, 47, 115], [99], [176, 99]]),
    (8453, [[99, 47, 111], [99, 47, 117], [603]]), (8457, [[176, 102], [103], [104], [104], [104],
    [104], [295], [105], [105], [108], [108]]), (8469, [[110], [110, 111]]), (8473, [[112], [113],
    [114], [114], [114]]), (8480, [[115, 109], [116, 101, 108], [116, 109]]), (8484, [[122]]),
    (8488, [[122]]), (8492, [[98], [99]]), (8495, [[101], [101], [102]]), (8499, [[109], [111]]),
    (8505, [[105]]), (8507, [[102, 97, 120], [960], [947], [947], [960], [8721]]), (8517, [[100],
    [100], [101], [105], [106]]), (8528, [[49, 8260, 55], [49, 8260, 57], [49, 8260, 49, 48],
    [49, 8260, 51], [50, 8260, 51], [49, 8260, 53], [50, 8260, 53], [51, 8260, 53],
    [52, 8260, 53], [49, 8260, 54], [53, 8260, 54], [49, 8260, 56], [51, 8260, 56],
    [53, 8260, 56], [55, 8260, 56], [49, 8260], [105], [105, 105], [105, 105, 105], [105, 118],
    [118], [118, 105], [118, 105, 105], [118, 105, 105, 105], [105, 120], [120], [120, 105],
    [120, 105, 105], [108], [99], [100], [109], [105], [105, 105], [105, 105, 105], [105, 118],
    [118], [118, 105], [118, 105, 105], [118, 105, 105, 105], [105, 120], [120], [120, 105],
    [120, 105, 105], [108], [99], [100], [109]]), (8585, [[48, 8260, 51]]), (8748, [[8747, 8747],
    [8747, 8747, 8747]]), (8751, [[8750, 8750], [8750, 8750, 8750]]), (9321, [[49, 48], [49, 49],
    [49, 50], [49, 51], [49, 52], [49, 53], [49, 54], [49, 55], [49, 56], [49, 57], [50, 48],
    [40, 49, 41], [40, 50, 41], [40, 51, 41], [40, 52, 41], [40, 53, 41], [40, 54, 41],
    [40, 55, 41], [40, 56, 41], [40, 57, 41], [40, 49, 48, 41], [40, 49, 49, 41],
    [40, 49, 50, 41], [40, 49, 51, 41], [40, 49, 52, 41], [40, 49, 53, 41], [40, 49, 54, 41],
    [40, 49, 55, 41], [40, 49, 56, 41], [40, 49, 57, 41], [40, 50, 48, 41]]),
    (9372, [[40, 97, 41], [40, 98, 41], [40, 99, 41], [40, 100, 41], [40, 101, 41], [40, 102, 41],
    [40, 103, 41], [40, 104, 41], [40, 105, 41], [40, 106, 41], [40, 107, 41], [40, 108, 41],
    [40, 109, 41], [40, 110, 41], [40, 111, 41], [40, 112, 41], [40, 113, 41], [40, 114, 41],
    [40, 115, 41], [40, 116, 41], [40, 117, 41], [40, 118, 41], [40, 119, 41], [40, 120, 41],
    [40, 121, 41], [40, 122, 41]]), (9450, [[48]]), (10764, [[8747, 8747, 8747, 8747]]),
    (10868, [[58, 58, 61], [61, 61], [61, 61, 61]]), (11388, [[106], [118]]), (11631, [[11617]]),
    (11935, [[27597]]), (12019, [[40863]]), (12032, [[19968], [20008], [20022], [20031], [20057],
    [20101], [20108], [20128], [20154], [20799], [20837], [20843], [20866], [20886], [20907],
    [20960], [20981], [20992], [21147], [21241], [21269], [21274], [21304], [21313], [21340],
    [21353], [21378], [21430], [21448], [21475], [22231], [22303], [22763], [22786], [22794],
    [22805], [22823], [22899], [23376], [23424], [23544], [23567], [23586], [23608], [23662],
    [23665], [24027], [24037], [24049], [24062], [24178], [24186], [24191], [24308], [24318],
    [24331], [24339], [24400], [24417], [24435], [24515], [25096], [25142], [25163], [25903],
    [25908], [25991], [26007], [26020], [26041], [26080], [26085], [26352], [26376], [26408],
    [27424], [27490], [27513], [27571], [27595], [27604], [27611], [27663], [27668], [27700],
    [28779], [29226], [29238], [29243], [29247], [29255], [29273], [29275], [29356], [29572],
    [29577], [29916], [29926], [29976], [29983], [29992], [30000], [30091], [30098], [30326],
    [30333], [30382], [30399], [30446], [30683], [30690], [30707], [31034], [31160], [31166],
    [31348], [31435], [31481], [31859], [31992], [32566], [32593], [32650], [32701], [32769],
    [32780], [32786], [32819]]), (12160, [[32895], [32905], [33251], [33258], [33267], [33276],
    [33292], [33307], [33311], [33390], [33394], [33400], [34381], [34411], [34880], [34892],
    [34915], [35198], [35211], [35282], [35328], [35895], [35910], [35925], [35960], [35997],
    [36196], [36208], [36275], [36523], [36554], [36763], [36784], [36789], [37009], [37193],
    [37318], [37324], [37329], [38263], [38272], [38428], [38582], [38585], [38632], [38737],
    [38750], [38754], [38761], [38859], [38893], [38899], [38913], [39080], [39131], [39135],
    [39318], [39321], [39340], [39592], [39640], [39647], [39717], [39727], [39730], [39740],
    [39770], [40165], [40565], [40575], [40613], [40635], [40643], [40653], [40657], [40697],
    [40701], [40718], [40723], [40736], [40763], [40778], [40786], [40845], [40860], [40864]])]

end DocSearch.Url.Folding
