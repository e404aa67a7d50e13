import DocSearch.Text.Ranges

/-!
The syllables and the signs in squares and circles that a domain spells in another way.
-/

namespace DocSearch.Url.Folding

/-- The spelling of each. -/
def enclosed : Text.Runs (List Nat) :=
    [(12290, [[46]]), (12342, [[12306]]), (12344, [[21313], [21316], [21317]]),
    (12443, [[32, 12441], [32, 12442]]), (12447, [[12424, 12426]]), (12543, [[12467, 12488]]),
    (12593, [[4352], [4353], [4522], [4354], [4524], [4525], [4355], [4356], [4357]]),
    (12608, [[4378], [4358], [4359], [4360], [4385]]), (12645, [[4372], [4373], [4551], [4552],
    [4556], [4558], [4563], [4567], [4569], [4380], [4573], [4575], [4381], [4382], [4384],
    [4386], [4387], [4391], [4393]]), (12669, [[4402], [4406], [4416], [4423], [4428], [4593],
    [4594], [4439], [4440], [4441], [4484], [4485], [4488], [4497], [4498], [4500], [4510],
    [4513]]), (12690, [[19968], [20108], [19977], [22235], [19978], [20013], [19979], [30002],
    [20057], [19993], [19969], [22825], [22320], [20154]]), (12800, [[40, 4352, 41],
    [40, 4354, 41], [40, 4355, 41], [40, 4357, 41], [40, 4358, 41], [40, 4359, 41],
    [40, 4361, 41], [40, 4363, 41], [40, 4364, 41], [40, 4366, 41], [40, 4367, 41],
    [40, 4368, 41], [40, 4369, 41], [40, 4370, 41], [40, 44032, 41], [40, 45208, 41],
    [40, 45796, 41], [40, 46972, 41], [40, 47560, 41], [40, 48148, 41], [40, 49324, 41],
    [40, 50500, 41], [40, 51088, 41], [40, 52264, 41], [40, 52852, 41], [40, 53440, 41],
    [40, 54028, 41], [40, 54616, 41], [40, 51452, 41], [40, 50724, 51204, 41],
    [40, 50724, 54980, 41]]), (12832, [[40, 19968, 41], [40, 20108, 41], [40, 19977, 41],
    [40, 22235, 41], [40, 20116, 41], [40, 20845, 41], [40, 19971, 41], [40, 20843, 41],
    [40, 20061, 41], [40, 21313, 41], [40, 26376, 41], [40, 28779, 41], [40, 27700, 41],
    [40, 26408, 41], [40, 37329, 41], [40, 22303, 41], [40, 26085, 41], [40, 26666, 41],
    [40, 26377, 41], [40, 31038, 41], [40, 21517, 41], [40, 29305, 41], [40, 36001, 41],
    [40, 31069, 41], [40, 21172, 41], [40, 20195, 41], [40, 21628, 41], [40, 23398, 41],
    [40, 30435, 41], [40, 20225, 41], [40, 36039, 41], [40, 21332, 41], [40, 31085, 41],
    [40, 20241, 41], [40, 33258, 41], [40, 33267, 41], [21839], [24188], [25991], [31631]]),
    (12880, [[112, 116, 101], [50, 49], [50, 50], [50, 51], [50, 52], [50, 53], [50, 54],
    [50, 55], [50, 56], [50, 57], [51, 48], [51, 49], [51, 50], [51, 51], [51, 52], [51, 53],
    [4352], [4354], [4355], [4357], [4358], [4359], [4361], [4363], [4364]]), (12910, [[44032],
    [45208], [45796], [46972], [47560], [48148], [49324], [50500], [51088], [52264], [52852],
    [53440], [54028], [54616], [52280, 44256], [51452, 51032], [50864]]), (12928, [[19968],
    [20108], [19977], [22235], [20116], [20845], [19971], [20843], [20061], [21313], [26376],
    [28779], [27700], [26408], [37329], [22303], [26085], [26666], [26377], [31038], [21517],
    [29305], [36001], [31069], [21172], [31192], [30007], [22899], [36969], [20778], [21360],
    [27880], [38917], [20241], [20889], [27491], [19978], [20013], [19979], [24038], [21491],
    [21307], [23447], [23398], [30435], [20225], [36039], [21332], [22812], [51, 54], [51, 55],
    [51, 56], [51, 57], [52, 48], [52, 49], [52, 50], [52, 51], [52, 52], [52, 53], [52, 54],
    [52, 55], [52, 56], [52, 57], [53, 48], [49, 26376], [50, 26376], [51, 26376], [52, 26376],
    [53, 26376], [54, 26376], [55, 26376], [56, 26376], [57, 26376], [49, 48, 26376],
    [49, 49, 26376], [49, 50, 26376], [104, 103], [101, 114, 103], [101, 118], [108, 116, 100],
    [12450], [12452], [12454], [12456], [12458], [12459], [12461], [12463], [12465], [12467],
    [12469], [12471], [12473], [12475], [12477], [12479], [12481], [12484], [12486], [12488]]),
    (13034, [[12498], [12501], [12504], [12507]]), (13043, [[12516], [12518]]),
    (13055, [[20196, 21644], [12450, 12497, 12540, 12488], [12450, 12523, 12501, 12449],
    [12450, 12531, 12506, 12450], [12450, 12540, 12523], [12452, 12491, 12531, 12464],
    [12452, 12531, 12481], [12454, 12457, 12531], [12456, 12473, 12463, 12540, 12489],
    [12456, 12540, 12459, 12540], [12458, 12531, 12473], [12458, 12540, 12512],
    [12459, 12452, 12522], [12459, 12521, 12483, 12488], [12459, 12525, 12522, 12540],
    [12460, 12525, 12531], [12460, 12531, 12510], [12462, 12460], [12462, 12491, 12540],
    [12461, 12517, 12522, 12540], [12462, 12523, 12480, 12540], [12461, 12525],
    [12461, 12525, 12464, 12521, 12512], [12461, 12525, 12513, 12540, 12488, 12523],
    [12461, 12525, 12527, 12483, 12488], [12464, 12521, 12512],
    [12464, 12521, 12512, 12488, 12531], [12463, 12523, 12476, 12452, 12525],
    [12463, 12525, 12540, 12493], [12465, 12540, 12473], [12467, 12523, 12490],
    [12467, 12540, 12509], [12469, 12452, 12463, 12523], [12469, 12531, 12481, 12540, 12512],
    [12471, 12522, 12531, 12464], [12475, 12531, 12481], [12475, 12531, 12488],
    [12480, 12540, 12473], [12487, 12471], [12489, 12523], [12488, 12531], [12490, 12494],
    [12494, 12483, 12488], [12495, 12452, 12484], [12497, 12540, 12475, 12531, 12488],
    [12497, 12540, 12484], [12496, 12540, 12524, 12523], [12500, 12450, 12473, 12488, 12523],
    [12500, 12463, 12523], [12500, 12467], [12499, 12523], [12501, 12449, 12521, 12483, 12489],
    [12501, 12451, 12540, 12488], [12502, 12483, 12471, 12455, 12523], [12501, 12521, 12531],
    [12504, 12463, 12479, 12540, 12523], [12506, 12477], [12506, 12491, 12498],
    [12504, 12523, 12484], [12506, 12531, 12473], [12506, 12540, 12472], [12505, 12540, 12479],
    [12509, 12452, 12531, 12488], [12508, 12523, 12488], [12507, 12531], [12509, 12531, 12489],
    [12507, 12540, 12523], [12507, 12540, 12531], [12510, 12452, 12463, 12525],
    [12510, 12452, 12523], [12510, 12483, 12495], [12510, 12523, 12463],
    [12510, 12531, 12471, 12519, 12531], [12511, 12463, 12525, 12531], [12511, 12522],
    [12511, 12522, 12496, 12540, 12523], [12513, 12460], [12513, 12460, 12488, 12531],
    [12513, 12540, 12488, 12523], [12516, 12540, 12489], [12516, 12540, 12523],
    [12518, 12450, 12531], [12522, 12483, 12488, 12523], [12522, 12521], [12523, 12500, 12540],
    [12523, 12540, 12502, 12523], [12524, 12512], [12524, 12531, 12488, 12466, 12531],
    [12527, 12483, 12488], [48, 28857], [49, 28857], [50, 28857], [51, 28857], [52, 28857],
    [53, 28857], [54, 28857], [55, 28857], [56, 28857], [57, 28857], [49, 48, 28857],
    [49, 49, 28857], [49, 50, 28857], [49, 51, 28857], [49, 52, 28857], [49, 53, 28857],
    [49, 54, 28857], [49, 55, 28857], [49, 56, 28857], [49, 57, 28857], [50, 48, 28857],
    [50, 49, 28857], [50, 50, 28857], [50, 51, 28857], [50, 52, 28857], [104, 112, 97], [100, 97],
    [97, 117], [98, 97, 114], [111, 118], [112, 99], [100, 109], [100, 109, 50], [100, 109, 51],
    [105, 117], [24179, 25104], [26157, 21644], [22823, 27491], [26126, 27835]]),
    (13183, [[26666, 24335, 20250, 31038], [112, 97], [110, 97], [956, 97], [109, 97], [107, 97],
    [107, 98], [109, 98], [103, 98], [99, 97, 108], [107, 99, 97, 108], [112, 102], [110, 102],
    [956, 102], [956, 103], [109, 103], [107, 103], [104, 122], [107, 104, 122], [109, 104, 122],
    [103, 104, 122], [116, 104, 122], [956, 108], [109, 108], [100, 108], [107, 108], [102, 109],
    [110, 109], [956, 109], [109, 109], [99, 109], [107, 109], [109, 109, 50], [99, 109, 50],
    [109, 50], [107, 109, 50], [109, 109, 51], [99, 109, 51], [109, 51], [107, 109, 51],
    [109, 8725, 115], [109, 8725, 115, 50], [112, 97], [107, 112, 97], [109, 112, 97],
    [103, 112, 97], [114, 97, 100], [114, 97, 100, 8725, 115], [114, 97, 100, 8725, 115, 50],
    [112, 115], [110, 115], [956, 115], [109, 115], [112, 118], [110, 118], [956, 118],
    [109, 118], [107, 118], [109, 118], [112, 119], [110, 119], [956, 119], [109, 119],
    [107, 119], [109, 119], [107, 969], [109, 969]]), (13251, [[98, 113], [99, 99], [99, 100],
    [99, 8725, 107, 103]]), (13256, [[100, 98], [103, 121], [104, 97], [104, 112], [105, 110],
    [107, 107], [107, 109], [107, 116], [108, 109], [108, 110], [108, 111, 103], [108, 120],
    [109, 98], [109, 105, 108], [109, 111, 108], [112, 104]]), (13273, [[112, 112, 109],
    [112, 114], [115, 114], [115, 118], [119, 98], [118, 8725, 109], [97, 8725, 109], [49, 26085],
    [50, 26085], [51, 26085], [52, 26085], [53, 26085], [54, 26085], [55, 26085], [56, 26085],
    [57, 26085], [49, 48, 26085], [49, 49, 26085], [49, 50, 26085], [49, 51, 26085],
    [49, 52, 26085], [49, 53, 26085], [49, 54, 26085], [49, 55, 26085], [49, 56, 26085],
    [49, 57, 26085], [50, 48, 26085], [50, 49, 26085], [50, 50, 26085], [50, 51, 26085],
    [50, 52, 26085], [50, 53, 26085], [50, 54, 26085], [50, 55, 26085], [50, 56, 26085],
    [50, 57, 26085], [51, 48, 26085], [51, 49, 26085], [103, 97, 108]]), (42652, [[1098],
    [1100]]), (42864, [[42863]]), (42993, [[115], [99], [102], [113]]), (43000, [[295], [339]]),
    (43868, [[42791], [43831], [619], [43858]]), (43881, [[653]])]

end DocSearch.Url.Folding
