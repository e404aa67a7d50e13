import DocSearch.Text.Ranges

/-!
The characters of the other planes that a domain spells in another way.
-/

namespace DocSearch.Url.Folding

/-- The spelling of each. -/
def supplements : Text.Runs (List Nat) :=
    [(67457, [[720], [721], [230], [665], [595]]), (67463, [[675], [43878], [677], [676], [598],
    [599], [7569], [600], [606], [681], [612], [610], [608], [667], [295], [668], [615], [644],
    [682], [683], [620], [122628], [42894], [622], [122629], [654], [122630], [248], [630], [631],
    [113], [634], [122632], [637], [638], [640], [680], [678], [43879], [679], [648], [11377]]),
    (67506, [[655], [673], [674], [664], [448], [449], [450], [122634], [122654]]),
    (119889, [[100]]), (119964, [[97]]), (119967, [[100]]), (119973, [[106]]), (119977, [[110]]),
    (119979, [[112], [113]]), (119984, [[117]]), (119988, [[121]]), (120000, [[107]]),
    (120008, [[115]]), (120012, [[119]]), (120068, [[97]]), (120071, [[100], [101]]),
    (120089, [[118]]), (120121, [[98]]), (120123, [[100]]), (120125, [[102]]), (120129, [[106]]),
    (120131, [[108]]), (120139, [[116], [117], [118]]), (120143, [[120], [121]]), (120484, [[305],
    [567]]), (120505, [[952]]), (120513, [[8711]]), (120531, [[963]]), (120539, [[8706], [949],
    [952], [954], [966], [961], [960]]), (120563, [[952]]), (120571, [[8711]]), (120589, [[963]]),
    (120597, [[8706], [949], [952], [954], [966], [961], [960]]), (120621, [[952]]),
    (120629, [[8711]]), (120647, [[963]]), (120655, [[8706], [949], [952], [954], [966], [961],
    [960]]), (120679, [[952]]), (120687, [[8711]]), (120705, [[963]]), (120713, [[8706], [949],
    [952], [954], [966], [961], [960]]), (120737, [[952]]), (120745, [[8711]]), (120763, [[963]]),
    (120771, [[8706], [949], [952], [954], [966], [961], [960], [989], [989]]), (122937, [[1082],
    [1083], [1084]]), (122951, [[1099], [1101], [1102], [42633], [1241], [1110], [1112], [1257],
    [1199], [1231]]), (122970, [[1082], [1083], [1086], [1087], [1089]]), (122981, [[1098],
    [1099], [1169], [1110], [1109], [1119], [1195], [42577], [1201]]), (126464, [[1575], [1576],
    [1580], [1583]]), (126469, [[1608], [1586], [1581], [1591], [1610]]), (126478, [[1587],
    [1593], [1601], [1589], [1602], [1585], [1588], [1578], [1579], [1582], [1584], [1590],
    [1592], [1594], [1646], [1722], [1697], [1647]]), (126497, [[1576], [1580]]),
    (126500, [[1607]]), (126503, [[1581]]), (126505, [[1610]]), (126510, [[1587], [1593], [1601],
    [1589], [1602]]), (126516, [[1588], [1578], [1579], [1582]]), (126521, [[1590]]),
    (126523, [[1594]]), (126530, [[1580]]), (126535, [[1581]]), (126537, [[1610]]),
    (126539, [[1604]]), (126541, [[1606], [1587], [1593]]), (126545, [[1589], [1602]]),
    (126548, [[1588]]), (126551, [[1582]]), (126553, [[1590]]), (126555, [[1594]]),
    (126557, [[1722]]), (126559, [[1647]]), (126561, [[1576], [1580]]), (126564, [[1607]]),
    (126567, [[1581], [1591], [1610], [1603]]), (126572, [[1605], [1606], [1587], [1593], [1601],
    [1589], [1602]]), (126580, [[1588], [1578], [1579], [1582]]), (126585, [[1590], [1592],
    [1594], [1646]]), (126590, [[1697]]), (126592, [[1575], [1576], [1580], [1583], [1607],
    [1608], [1586], [1581], [1591], [1610]]), (126603, [[1604], [1605], [1606], [1587], [1593],
    [1601], [1589], [1602], [1585], [1588], [1578], [1579], [1582], [1584], [1590], [1592],
    [1594]]), (126625, [[1576], [1580], [1583]]), (126629, [[1608], [1586], [1581], [1591],
    [1610]]), (126635, [[1604], [1605], [1606], [1587], [1593], [1601], [1589], [1602], [1585],
    [1588], [1578], [1579], [1582], [1584], [1590], [1592], [1594]]), (127233, [[48, 44],
    [49, 44], [50, 44], [51, 44], [52, 44], [53, 44], [54, 44], [55, 44], [56, 44], [57, 44]]),
    (127248, [[40, 97, 41], [40, 98, 41], [40, 99, 41], [40, 100, 41], [40, 101, 41],
    [40, 102, 41], [40, 103, 41], [40, 104, 41], [40, 105, 41], [40, 106, 41], [40, 107, 41],
    [40, 108, 41], [40, 109, 41], [40, 110, 41], [40, 111, 41], [40, 112, 41], [40, 113, 41],
    [40, 114, 41], [40, 115, 41], [40, 116, 41], [40, 117, 41], [40, 118, 41], [40, 119, 41],
    [40, 120, 41], [40, 121, 41], [40, 122, 41], [12308, 115, 12309], [99], [114], [99, 100],
    [119, 122]]), (127306, [[104, 118], [109, 118], [115, 100], [115, 115], [112, 112, 118],
    [119, 99]]), (127338, [[109, 99], [109, 100], [109, 114]]), (127376, [[100, 106]]),
    (127488, [[12411, 12363], [12467, 12467], [12469]]), (127504, [[25163], [23383], [21452],
    [12487], [20108], [22810], [35299], [22825], [20132], [26144], [28961], [26009], [21069],
    [24460], [20877], [26032], [21021], [32066], [29983], [36009], [22768], [21561], [28436],
    [25237], [25429], [19968], [19977], [36938], [24038], [20013], [21491], [25351], [36208],
    [25171], [31105], [31354], [21512], [28288], [26377], [26376], [30003], [21106], [21942],
    [37197]]), (127552, [[12308, 26412, 12309], [12308, 19977, 12309], [12308, 20108, 12309],
    [12308, 23433, 12309], [12308, 28857, 12309], [12308, 25171, 12309], [12308, 30423, 12309],
    [12308, 21213, 12309], [12308, 25943, 12309]]), (127568, [[24471], [21487]])]

end DocSearch.Url.Folding
