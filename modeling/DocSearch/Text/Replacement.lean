import DocSearch.Text.Ranges

/-!
Characters that are kept for the sake of older character sets only. Others stand in their place.
-/

namespace DocSearch.Text

/-- The replaced characters of the first plane in runs of consecutive code points, each by its first
and by what stands in the place of its members. -/
def replacedBasic : Runs (List Nat) :=
    [(832, [[768], [769]]), (835, [[787], [776, 769]]), (884, [[697]]), (894, [[59]]),
    (903, [[183]]), (2392, [[2325, 2364], [2326, 2364], [2327, 2364], [2332, 2364], [2337, 2364],
    [2338, 2364], [2347, 2364], [2351, 2364]]), (2524, [[2465, 2492], [2466, 2492]]),
    (2527, [[2479, 2492]]), (2611, [[2610, 2620]]), (2614, [[2616, 2620]]), (2649, [[2582, 2620],
    [2583, 2620], [2588, 2620]]), (2654, [[2603, 2620]]), (2908, [[2849, 2876], [2850, 2876]]),
    (3907, [[3906, 4023]]), (3917, [[3916, 4023]]), (3922, [[3921, 4023]]),
    (3927, [[3926, 4023]]), (3932, [[3931, 4023]]), (3945, [[3904, 4021]]),
    (3955, [[3953, 3954]]), (3957, [[3953, 3956], [4018, 3968]]), (3960, [[4019, 3968]]),
    (3969, [[3953, 3968]]), (3987, [[3986, 4023]]), (3997, [[3996, 4023]]),
    (4002, [[4001, 4023]]), (4007, [[4006, 4023]]), (4012, [[4011, 4023]]),
    (4025, [[3984, 4021]]), (8049, [[945, 769]]), (8051, [[949, 769]]), (8053, [[951, 769]]),
    (8055, [[953, 769]]), (8057, [[959, 769]]), (8059, [[965, 769]]), (8061, [[969, 769]]),
    (8123, [[913, 769]]), (8126, [[953]]), (8137, [[917, 769]]), (8139, [[919, 769]]),
    (8147, [[953, 776, 769]]), (8155, [[921, 769]]), (8163, [[965, 776, 769]]),
    (8171, [[933, 769]]), (8174, [[168, 769], [96]]), (8185, [[927, 769]]), (8187, [[937, 769]]),
    (8189, [[180]]), (8192, [[8194], [8195]]), (8486, [[937]]), (8490, [[75], [65, 778]]),
    (9001, [[12296], [12297]]), (10972, [[10973, 824]]), (63744, [[35912], [26356], [36554],
    [36040], [28369], [20018], [21477], [40860], [40860], [22865], [37329], [21895], [22856],
    [25078], [30313], [32645], [34367], [34746], [35064], [37007], [27138], [27931], [28889],
    [29662], [33853], [37226], [39409], [20098], [21365], [27396], [29211], [34349], [40478],
    [23888], [28651], [34253], [35172], [25289], [33240], [34847], [24266], [26391], [28010],
    [29436], [37070], [20358], [20919], [21214], [25796], [27347], [29200], [30439], [32769],
    [34310], [34396], [36335], [38706], [39791], [40442], [30860], [31103], [32160], [33737],
    [37636], [40575], [35542], [22751], [24324], [31840], [32894], [29282], [30922], [36034],
    [38647], [22744], [23650], [27155], [28122], [28431], [32047], [32311], [38475], [21202],
    [32907], [20956], [20940], [31260], [32190], [33777], [38517], [35712], [25295], [27138],
    [35582], [20025], [23527], [24594], [29575], [30064], [21271], [30971], [20415], [24489],
    [19981], [27852], [25976], [32034], [21443], [22622], [30465], [33865], [35498], [27578],
    [36784], [27784], [25342], [33509], [25504], [30053], [20142], [20841], [20937], [26753],
    [31975], [33391], [35538], [37327], [21237], [21570], [22899], [24300], [26053], [28670],
    [31018], [38317], [39530], [40599], [40654], [21147], [26310], [27511], [36706], [24180],
    [24976], [25088], [25754], [28451], [29001], [29833], [31178], [32244], [32879], [36646],
    [34030], [36899], [37706], [21015], [21155], [21693], [28872], [35010], [35498], [24265],
    [24565], [25467], [27566], [31806], [29557], [20196], [22265], [23527], [23994], [24604],
    [29618], [29801], [32666], [32838], [37428], [38646], [38728], [38936], [20363], [31150],
    [37300], [38584], [24801], [20102], [20698], [23534], [23615], [26009], [27138], [29134],
    [30274], [34044], [36988], [40845], [26248], [38446], [21129]]), (63944, [[26491], [26611],
    [27969], [28316], [29705], [30041], [30827], [32016], [39006], [20845], [25134], [38520],
    [20523], [23833], [28138], [36650], [24459], [24900], [26647], [29575], [38534], [21033],
    [21519], [23653], [26131], [26446], [26792], [27877], [29702], [30178], [32633], [35023],
    [35041], [37324], [38626], [21311], [28346], [21533], [29136], [29848], [34298], [38563],
    [40023], [40607], [26519], [28107], [33256], [31435], [31520], [31890], [29376], [28825],
    [35672], [20160], [33590], [21050], [20999], [24230], [25299], [31958], [23429], [27934],
    [26292], [36667], [34892], [38477], [35211], [24275], [20800], [21952]]), (64016, [[22618]]),
    (64018, [[26228]]), (64021, [[20958], [29482], [30410], [31036], [31070], [31077], [31119],
    [38742], [31934], [32701]]), (64032, [[34322]]), (64034, [[35576]]), (64037, [[36920],
    [37117]]), (64042, [[39151], [39164], [39208], [40372], [37086], [38583], [20398], [20711],
    [20813], [21193], [21220], [21329], [21917], [22022], [22120], [22592], [22696], [23652],
    [23662], [24724], [24936], [24974], [25074], [25935], [26082], [26257], [26757], [28023],
    [28186], [28450], [29038], [29227], [29730], [30865], [31038], [31049], [31048], [31056],
    [31062], [31069], [31117], [31118], [31296], [31361], [31680], [32244], [32265], [32321],
    [32626], [32773], [33261], [33401], [33401], [33879], [35088], [35222], [35585], [35641],
    [36051], [36104], [36790], [36920], [38627], [38911], [38971], [24693], [148206], [33304]]),
    (64112, [[20006], [20917], [20840], [20352], [20805], [20864], [21191], [21242], [21917],
    [21845], [21913], [21986], [22618], [22707], [22852], [22868], [23138], [23336], [24274],
    [24281], [24425], [24493], [24792], [24910], [24840], [24974], [24928], [25074], [25140],
    [25540], [25628], [25682], [25942], [26228], [26391], [26395], [26454], [27513], [27578],
    [27969], [28379], [28363], [28450], [28702], [29038], [30631], [29237], [29359], [29482],
    [29809], [29958], [30011], [30237], [30239], [30410], [30427], [30452], [30538], [30528],
    [30924], [31409], [31680], [31867], [32091], [32244], [32574], [32773], [33618], [33775],
    [34681], [35137], [35206], [35222], [35519], [35576], [35531], [35585], [35582], [35565],
    [35641], [35722], [36104], [36664], [36978], [37273], [37494], [38524], [38627], [38742],
    [38875], [38911], [38923], [38971], [39698], [40860], [141386], [141380], [144341], [15261],
    [16408], [16441], [152137], [154832], [163539], [40771], [40846]]), (64285, [[1497, 1460]]),
    (64287, [[1522, 1463]]), (64298, [[1513, 1473], [1513, 1474], [1513, 1468, 1473],
    [1513, 1468, 1474], [1488, 1463], [1488, 1464], [1488, 1468], [1489, 1468], [1490, 1468],
    [1491, 1468], [1492, 1468], [1493, 1468], [1494, 1468]]), (64312, [[1496, 1468], [1497, 1468],
    [1498, 1468], [1499, 1468], [1500, 1468]]), (64318, [[1502, 1468]]), (64320, [[1504, 1468],
    [1505, 1468]]), (64323, [[1507, 1468], [1508, 1468]]), (64326, [[1510, 1468], [1511, 1468],
    [1512, 1468], [1513, 1468], [1514, 1468], [1493, 1465], [1489, 1471], [1499, 1471],
    [1508, 1471]])]

/-- The replaced characters of the other planes. -/
def replacedOther : Runs (List Nat) :=
    [(119134, [[119127, 119141], [119128, 119141], [119128, 119141, 119150],
    [119128, 119141, 119151], [119128, 119141, 119152], [119128, 119141, 119153],
    [119128, 119141, 119154]]), (119227, [[119225, 119141], [119226, 119141],
    [119225, 119141, 119150], [119226, 119141, 119150], [119225, 119141, 119151],
    [119226, 119141, 119151]]), (194560, [[20029], [20024], [20033], [131362], [20320], [20398],
    [20411], [20482], [20602], [20633], [20711], [20687], [13470], [132666], [20813], [20820],
    [20836], [20855], [132380], [13497], [20839], [20877], [132427], [20887], [20900], [20172],
    [20908], [20917], [168415], [20981], [20995], [13535], [21051], [21062], [21106], [21111],
    [13589], [21191], [21193], [21220], [21242], [21253], [21254], [21271], [21321], [21329],
    [21338], [21363], [21373], [21375], [21375], [21375], [133676], [28784], [21450], [21471],
    [133987], [21483], [21489], [21510], [21662], [21560], [21576], [21608], [21666], [21750],
    [21776], [21843], [21859], [21892], [21892], [21913], [21931], [21939], [21954], [22294],
    [22022], [22295], [22097], [22132], [20999], [22766], [22478], [22516], [22541], [22411],
    [22578], [22577], [22700], [136420], [22770], [22775], [22790], [22810], [22818], [22882],
    [136872], [136938], [23020], [23067], [23079], [23000], [23142], [14062], [14076], [23304],
    [23358], [23358], [137672], [23491], [23512], [23527], [23539], [138008], [23551], [23558],
    [24403], [23586], [14209], [23648], [23662], [23744], [23693], [138724], [23875], [138726],
    [23918], [23915], [23932], [24033], [24034], [14383], [24061], [24104], [24125], [24169],
    [14434], [139651], [14460], [24240], [24243], [24246], [24266], [172946], [24318], [140081],
    [140081], [33281], [24354], [24354], [14535], [144056], [156122], [24418], [24427], [14563],
    [24474], [24525], [24535], [24569], [24705], [14650], [14620], [24724], [141012], [24775],
    [24904], [24908], [24910], [24908], [24954], [24974], [25010], [24996], [25007], [25054],
    [25074], [25078], [25104], [25115], [25181], [25265], [25300], [25424], [142092], [25405],
    [25340], [25448], [25475], [25572], [142321], [25634], [25541], [25513], [14894], [25705],
    [25726], [25757], [25719], [14956]]), (194760, [[25935], [25964], [143370], [26083], [26360],
    [26185], [15129], [26257], [15112], [15076], [20882], [20885], [26368], [26268], [32941],
    [17369], [26391], [26395], [26401], [26462], [26451], [144323], [15177], [26618], [26501],
    [26706], [26757], [144493], [26766], [26655], [26900], [15261], [26946], [27043], [27114],
    [27304], [145059], [27355], [15384], [27425], [145575], [27476], [15438], [27506], [27551],
    [27578], [27579], [146061], [138507], [146170], [27726], [146620], [27839], [27853], [27751],
    [27926], [27966], [28023], [27969], [28009], [28024], [28037], [146718], [27956], [28207],
    [28270], [15667], [28363], [28359], [147153], [28153], [28526], [147294], [147342], [28614],
    [28729], [28702], [28699], [15766], [28746], [28797], [28791], [28845], [132389], [28997],
    [148067], [29084], [148395], [29224], [29237], [29264], [149000], [29312], [29333], [149301],
    [149524], [29562], [29579], [16044], [29605], [16056], [16056], [29767], [29788], [29809],
    [29829], [29898], [16155], [29988], [150582], [30014], [150674], [30064], [139679], [30224],
    [151457], [151480], [151620], [16380], [16392], [30452], [151795], [151794], [151833],
    [151859], [30494], [30495], [30495], [30538], [16441], [30603], [16454], [16534], [152605],
    [30798], [30860], [30924], [16611], [153126], [31062], [153242], [153285], [31119], [31211],
    [16687], [31296], [31306], [31311], [153980], [154279], [154279], [31470], [16898], [154539],
    [31686], [31689], [16935], [154752], [31954], [17056], [31976], [31971], [32000], [155526],
    [32099], [17153], [32199], [32258], [32325], [17204], [156200], [156231], [17241], [156377],
    [32634], [156478], [32661], [32762], [32773], [156890], [156963], [32864], [157096], [32880],
    [144223], [17365], [32946], [33027], [17419], [33086], [23221], [157607], [157621], [144275],
    [144284], [33281], [33284], [36766], [17515], [33425]]), (194960, [[33419], [33437], [21171],
    [33457], [33459], [33469], [33510], [158524], [33509], [33565], [33635], [33709], [33571],
    [33725], [33767], [33879], [33619], [33738], [33740], [33756], [158774], [159083], [158933],
    [17707], [34033], [34035], [34070], [160714], [34148], [159532], [17757], [17761], [159665],
    [159954], [17771], [34384], [34396], [34407], [34409], [34473], [34440], [34574], [34530],
    [34681], [34600], [34667], [34694], [17879], [34785], [34817], [17913], [34912], [34915],
    [161383], [35031], [35038], [17973], [35066], [13499], [161966], [162150], [18110], [18119],
    [35488], [35565], [35722], [35925], [162984], [36011], [36033], [36123], [36215], [163631],
    [133124], [36299], [36284], [36336], [133342], [36564], [36664], [165330], [165357], [37012],
    [37105], [37137], [165678], [37147], [37432], [37591], [37592], [37500], [37881], [37909],
    [166906], [38283], [18837], [38327], [167287], [18918], [38595], [23986], [38691], [168261],
    [168474], [19054], [19062], [38880], [168970], [19122], [169110], [38923], [38923], [38953],
    [169398], [39138], [19251], [39209], [39335], [39362], [39422], [19406], [170800], [39698],
    [40000], [40189], [19662], [19693], [40295], [172238], [19704], [172293], [172558], [172689],
    [40635], [19798], [40697], [40702], [40709], [40719], [40726], [40763], [173568]])]

/-- The code points in place of one, if it is replaced. -/
def replacement? (n : Nat) : Option (List Nat) :=
  (if n < 65536 then replacedBasic else replacedOther).at? n

end DocSearch.Text
