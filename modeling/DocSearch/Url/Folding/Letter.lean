import DocSearch.Text.Ranges

/-!
The letters that a domain spells in another way.
-/

namespace DocSearch.Url.Folding

/-- The spelling of each. -/
def letters : Text.Runs (List Nat) :=
    [(168, [[32, 776]]), (170, [[97]]), (175, [[32, 772]]), (178, [[50], [51], [32, 769], [956]]),
    (184, [[32, 807], [49], [111]]), (188, [[49, 8260, 52], [49, 8260, 50], [51, 8260, 52]]),
    (306, [[105, 106], [105, 106]]), (319, [[108, 183], [108, 183]]), (329, [[700, 110]]),
    (383, [[115]]), (452, [[100, 382], [100, 382], [100, 382], [108, 106], [108, 106], [108, 106],
    [110, 106], [110, 106], [110, 106]]), (497, [[100, 122], [100, 122], [100, 122]]),
    (688, [[104], [614], [106], [114], [633], [635], [641], [119], [121]]), (728, [[32, 774],
    [32, 775], [32, 778], [32, 808], [32, 771], [32, 779]]), (736, [[611], [108], [115], [120],
    [661]]), (837, [[953]]), (890, [[32, 953]]), (900, [[32, 769], [32, 776, 769]]), (976, [[946],
    [952], [965], [973], [971], [966], [960]]), (1008, [[954], [961], [963]]), (1013, [[949]]),
    (1017, [[963]]), (1415, [[1381, 1410]]), (1653, [[1575, 1652], [1608, 1652], [1735, 1652],
    [1610, 1652]]), (3635, [[3661, 3634]]), (3763, [[3789, 3762]]), (3804, [[3755, 3737],
    [3755, 3745]]), (3852, [[3851]]), (3959, [[4018, 3953, 3968]]), (3961, [[4019, 3953, 3968]]),
    (4348, [[4316]]), (7296, [[1074], [1076], [1086], [1089], [1090], [1090], [1098], [1123],
    [42571]]), (7468, [[97], [230], [98]]), (7472, [[100]]), (7474, [[477]]), (7484, [[111],
    [547], [112], [114], [116], [117], [119], [97], [592], [593], [7426], [98], [100], [101],
    [601], [603], [604], [103]]), (7503, [[107], [109], [331], [111], [596], [7446], [7447],
    [112], [116], [117], [7453], [623], [118], [7461], [946], [947], [948], [966], [967], [105],
    [114], [117], [118], [946], [947], [961], [966], [967]]), (7544, [[1085]]), (7579, [[594],
    [99], [597], [240], [604], [102], [607], [609], [613], [616], [617], [618], [7547], [669],
    [621], [7557], [671], [625], [624]]), (7602, [[632], [642], [643], [427], [649], [650],
    [7452], [651], [652], [122], [656], [657], [658], [952]]), (7834, [[97, 702], [7777]]),
    (8064, [[7936, 953], [7937, 953], [7938, 953], [7939, 953], [7940, 953], [7941, 953],
    [7942, 953], [7943, 953], [7936, 953], [7937, 953], [7938, 953], [7939, 953], [7940, 953],
    [7941, 953], [7942, 953], [7943, 953], [7968, 953], [7969, 953], [7970, 953], [7971, 953],
    [7972, 953], [7973, 953], [7974, 953], [7975, 953], [7968, 953], [7969, 953], [7970, 953],
    [7971, 953], [7972, 953], [7973, 953], [7974, 953], [7975, 953], [8032, 953], [8033, 953],
    [8034, 953], [8035, 953], [8036, 953], [8037, 953], [8038, 953], [8039, 953], [8032, 953],
    [8033, 953], [8034, 953], [8035, 953], [8036, 953], [8037, 953], [8038, 953], [8039, 953]]),
    (8114, [[8048, 953], [945, 953], [940, 953]]), (8119, [[8118, 953]]), (8123, [[940],
    [945, 953], [32, 787]]), (8127, [[32, 787], [32, 834], [32, 776, 834], [8052, 953],
    [951, 953], [942, 953]]), (8135, [[8134, 953]]), (8137, [[941]]), (8139, [[942], [951, 953],
    [32, 787, 768], [32, 787, 769], [32, 787, 834]]), (8155, [[943]]), (8157, [[32, 788, 768],
    [32, 788, 769], [32, 788, 834]]), (8171, [[973]]), (8173, [[32, 776, 768], [32, 776, 769]]),
    (8178, [[8060, 953], [969, 953], [974, 953]]), (8183, [[8182, 953]]), (8185, [[972]]),
    (8187, [[974], [969, 953], [32, 769], [32, 788]])]

end DocSearch.Url.Folding
