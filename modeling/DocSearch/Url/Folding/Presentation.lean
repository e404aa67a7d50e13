import DocSearch.Text.Ranges

/-!
The ligatures and the positional forms of letters that a domain spells in another way.
-/

namespace DocSearch.Url.Folding

/-- The spelling of each. -/
def presentations : Text.Runs (List Nat) :=
    [(64256, [[102, 102], [102, 105], [102, 108], [102, 102, 105], [102, 102, 108], [115, 116],
    [115, 116]]), (64275, [[1396, 1398], [1396, 1381], [1396, 1387], [1406, 1398], [1396, 1389]]),
    (64288, [[1506], [1488], [1491], [1492], [1499], [1500], [1501], [1512], [1514], [43]]),
    (64335, [[1488, 1500], [1649], [1649], [1659], [1659], [1659], [1659], [1662], [1662], [1662],
    [1662], [1664], [1664], [1664], [1664], [1658], [1658], [1658], [1658], [1663], [1663],
    [1663], [1663], [1657], [1657], [1657], [1657], [1700], [1700], [1700], [1700], [1702],
    [1702], [1702], [1702], [1668], [1668], [1668], [1668], [1667], [1667], [1667], [1667],
    [1670], [1670], [1670], [1670], [1671], [1671], [1671], [1671], [1677], [1677], [1676],
    [1676], [1678], [1678], [1672], [1672], [1688], [1688], [1681], [1681], [1705], [1705],
    [1705], [1705], [1711], [1711], [1711], [1711], [1715], [1715], [1715], [1715], [1713],
    [1713], [1713], [1713], [1722], [1722], [1723], [1723], [1723], [1723], [1728], [1728],
    [1729], [1729], [1729], [1729], [1726], [1726], [1726], [1726], [1746], [1746], [1747],
    [1747]]), (64467, [[1709], [1709], [1709], [1709], [1735], [1735], [1734], [1734], [1736],
    [1736], [1735, 1652], [1739], [1739], [1733], [1733], [1737], [1737], [1744], [1744], [1744],
    [1744], [1609], [1609], [1574, 1575], [1574, 1575], [1574, 1749], [1574, 1749], [1574, 1608],
    [1574, 1608], [1574, 1735], [1574, 1735], [1574, 1734], [1574, 1734], [1574, 1736],
    [1574, 1736], [1574, 1744], [1574, 1744], [1574, 1744], [1574, 1609], [1574, 1609],
    [1574, 1609], [1740], [1740], [1740], [1740], [1574, 1580], [1574, 1581], [1574, 1605],
    [1574, 1609], [1574, 1610], [1576, 1580], [1576, 1581], [1576, 1582], [1576, 1605],
    [1576, 1609], [1576, 1610], [1578, 1580], [1578, 1581], [1578, 1582], [1578, 1605],
    [1578, 1609], [1578, 1610], [1579, 1580], [1579, 1605], [1579, 1609], [1579, 1610],
    [1580, 1581], [1580, 1605], [1581, 1580], [1581, 1605], [1582, 1580], [1582, 1581],
    [1582, 1605], [1587, 1580], [1587, 1581], [1587, 1582], [1587, 1605], [1589, 1581],
    [1589, 1605], [1590, 1580], [1590, 1581], [1590, 1582], [1590, 1605], [1591, 1581],
    [1591, 1605], [1592, 1605], [1593, 1580], [1593, 1605], [1594, 1580], [1594, 1605],
    [1601, 1580], [1601, 1581], [1601, 1582], [1601, 1605], [1601, 1609], [1601, 1610],
    [1602, 1581], [1602, 1605], [1602, 1609], [1602, 1610], [1603, 1575], [1603, 1580],
    [1603, 1581], [1603, 1582], [1603, 1604], [1603, 1605], [1603, 1609], [1603, 1610],
    [1604, 1580], [1604, 1581], [1604, 1582], [1604, 1605], [1604, 1609], [1604, 1610],
    [1605, 1580], [1605, 1581], [1605, 1582], [1605, 1605], [1605, 1609], [1605, 1610],
    [1606, 1580], [1606, 1581], [1606, 1582], [1606, 1605], [1606, 1609], [1606, 1610],
    [1607, 1580], [1607, 1605]]), (64595, [[1607, 1609], [1607, 1610], [1610, 1580], [1610, 1581],
    [1610, 1582], [1610, 1605], [1610, 1609], [1610, 1610], [1584, 1648], [1585, 1648],
    [1609, 1648], [32, 1612, 1617], [32, 1613, 1617], [32, 1614, 1617], [32, 1615, 1617],
    [32, 1616, 1617], [32, 1617, 1648], [1574, 1585], [1574, 1586], [1574, 1605], [1574, 1606],
    [1574, 1609], [1574, 1610], [1576, 1585], [1576, 1586], [1576, 1605], [1576, 1606],
    [1576, 1609], [1576, 1610], [1578, 1585], [1578, 1586], [1578, 1605], [1578, 1606],
    [1578, 1609], [1578, 1610], [1579, 1585], [1579, 1586], [1579, 1605], [1579, 1606],
    [1579, 1609], [1579, 1610], [1601, 1609], [1601, 1610], [1602, 1609], [1602, 1610],
    [1603, 1575], [1603, 1604], [1603, 1605], [1603, 1609], [1603, 1610], [1604, 1605],
    [1604, 1609], [1604, 1610], [1605, 1575], [1605, 1605], [1606, 1585], [1606, 1586],
    [1606, 1605], [1606, 1606], [1606, 1609], [1606, 1610], [1609, 1648], [1610, 1585],
    [1610, 1586], [1610, 1605], [1610, 1606], [1610, 1609], [1610, 1610], [1574, 1580],
    [1574, 1581], [1574, 1582], [1574, 1605], [1574, 1607], [1576, 1580], [1576, 1581],
    [1576, 1582], [1576, 1605], [1576, 1607], [1578, 1580], [1578, 1581], [1578, 1582],
    [1578, 1605], [1578, 1607], [1579, 1605], [1580, 1581], [1580, 1605], [1581, 1580],
    [1581, 1605], [1582, 1580], [1582, 1605], [1587, 1580], [1587, 1581], [1587, 1582],
    [1587, 1605], [1589, 1581], [1589, 1582], [1589, 1605], [1590, 1580], [1590, 1581],
    [1590, 1582], [1590, 1605], [1591, 1581], [1592, 1605], [1593, 1580], [1593, 1605],
    [1594, 1580], [1594, 1605], [1601, 1580], [1601, 1581], [1601, 1582], [1601, 1605],
    [1602, 1581], [1602, 1605], [1603, 1580], [1603, 1581], [1603, 1582], [1603, 1604],
    [1603, 1605], [1604, 1580], [1604, 1581], [1604, 1582], [1604, 1605], [1604, 1607],
    [1605, 1580], [1605, 1581], [1605, 1582], [1605, 1605], [1606, 1580]]), (64723, [[1606, 1581],
    [1606, 1582], [1606, 1605], [1606, 1607], [1607, 1580], [1607, 1605], [1607, 1648],
    [1610, 1580], [1610, 1581], [1610, 1582], [1610, 1605], [1610, 1607], [1574, 1605],
    [1574, 1607], [1576, 1605], [1576, 1607], [1578, 1605], [1578, 1607], [1579, 1605],
    [1579, 1607], [1587, 1605], [1587, 1607], [1588, 1605], [1588, 1607], [1603, 1604],
    [1603, 1605], [1604, 1605], [1606, 1605], [1606, 1607], [1610, 1605], [1610, 1607],
    [1600, 1614, 1617], [1600, 1615, 1617], [1600, 1616, 1617], [1591, 1609], [1591, 1610],
    [1593, 1609], [1593, 1610], [1594, 1609], [1594, 1610], [1587, 1609], [1587, 1610],
    [1588, 1609], [1588, 1610], [1581, 1609], [1581, 1610], [1580, 1609], [1580, 1610],
    [1582, 1609], [1582, 1610], [1589, 1609], [1589, 1610], [1590, 1609], [1590, 1610],
    [1588, 1580], [1588, 1581], [1588, 1582], [1588, 1605], [1588, 1585], [1587, 1585],
    [1589, 1585], [1590, 1585], [1591, 1609], [1591, 1610], [1593, 1609], [1593, 1610],
    [1594, 1609], [1594, 1610], [1587, 1609], [1587, 1610], [1588, 1609], [1588, 1610],
    [1581, 1609], [1581, 1610], [1580, 1609], [1580, 1610], [1582, 1609], [1582, 1610],
    [1589, 1609], [1589, 1610], [1590, 1609], [1590, 1610], [1588, 1580], [1588, 1581],
    [1588, 1582], [1588, 1605], [1588, 1585], [1587, 1585], [1589, 1585], [1590, 1585],
    [1588, 1580], [1588, 1581], [1588, 1582], [1588, 1605], [1587, 1607], [1588, 1607],
    [1591, 1605], [1587, 1580], [1587, 1581], [1587, 1582], [1588, 1580], [1588, 1581],
    [1588, 1582], [1591, 1605], [1592, 1605], [1575, 1611], [1575, 1611]]),
    (64848, [[1578, 1580, 1605], [1578, 1581, 1580], [1578, 1581, 1580], [1578, 1581, 1605],
    [1578, 1582, 1605], [1578, 1605, 1580], [1578, 1605, 1581], [1578, 1605, 1582],
    [1580, 1605, 1581], [1580, 1605, 1581], [1581, 1605, 1610], [1581, 1605, 1609],
    [1587, 1581, 1580], [1587, 1580, 1581], [1587, 1580, 1609], [1587, 1605, 1581],
    [1587, 1605, 1581], [1587, 1605, 1580], [1587, 1605, 1605], [1587, 1605, 1605],
    [1589, 1581, 1581], [1589, 1581, 1581], [1589, 1605, 1605], [1588, 1581, 1605],
    [1588, 1581, 1605], [1588, 1580, 1610], [1588, 1605, 1582], [1588, 1605, 1582],
    [1588, 1605, 1605], [1588, 1605, 1605], [1590, 1581, 1609], [1590, 1582, 1605],
    [1590, 1582, 1605], [1591, 1605, 1581], [1591, 1605, 1581], [1591, 1605, 1605],
    [1591, 1605, 1610], [1593, 1580, 1605], [1593, 1605, 1605], [1593, 1605, 1605],
    [1593, 1605, 1609], [1594, 1605, 1605], [1594, 1605, 1610], [1594, 1605, 1609],
    [1601, 1582, 1605], [1601, 1582, 1605], [1602, 1605, 1581], [1602, 1605, 1605],
    [1604, 1581, 1605], [1604, 1581, 1610], [1604, 1581, 1609], [1604, 1580, 1580],
    [1604, 1580, 1580], [1604, 1582, 1605], [1604, 1582, 1605], [1604, 1605, 1581],
    [1604, 1605, 1581], [1605, 1581, 1580], [1605, 1581, 1605], [1605, 1581, 1610],
    [1605, 1580, 1581], [1605, 1580, 1605], [1605, 1582, 1580], [1605, 1582, 1605]]),
    (64914, [[1605, 1580, 1582], [1607, 1605, 1580], [1607, 1605, 1605], [1606, 1581, 1605],
    [1606, 1581, 1609], [1606, 1580, 1605], [1606, 1580, 1605], [1606, 1580, 1609],
    [1606, 1605, 1610], [1606, 1605, 1609], [1610, 1605, 1605], [1610, 1605, 1605],
    [1576, 1582, 1610], [1578, 1580, 1610], [1578, 1580, 1609], [1578, 1582, 1610],
    [1578, 1582, 1609], [1578, 1605, 1610], [1578, 1605, 1609], [1580, 1605, 1610],
    [1580, 1581, 1609], [1580, 1605, 1609], [1587, 1582, 1609], [1589, 1581, 1610],
    [1588, 1581, 1610], [1590, 1581, 1610], [1604, 1580, 1610], [1604, 1605, 1610],
    [1610, 1581, 1610], [1610, 1580, 1610], [1610, 1605, 1610], [1605, 1605, 1610],
    [1602, 1605, 1610], [1606, 1581, 1610], [1602, 1605, 1581], [1604, 1581, 1605],
    [1593, 1605, 1610], [1603, 1605, 1610], [1606, 1580, 1581], [1605, 1582, 1610],
    [1604, 1580, 1605], [1603, 1605, 1605], [1604, 1580, 1605], [1606, 1580, 1581],
    [1580, 1581, 1610], [1581, 1580, 1610], [1605, 1580, 1610], [1601, 1605, 1610],
    [1576, 1581, 1610], [1603, 1605, 1605], [1593, 1580, 1605], [1589, 1605, 1605],
    [1587, 1582, 1610], [1606, 1580, 1610]]), (65008, [[1589, 1604, 1746], [1602, 1604, 1746],
    [1575, 1604, 1604, 1607], [1575, 1603, 1576, 1585], [1605, 1581, 1605, 1583],
    [1589, 1604, 1593, 1605], [1585, 1587, 1608, 1604], [1593, 1604, 1610, 1607],
    [1608, 1587, 1604, 1605], [1589, 1604, 1609], [1589, 1604, 1609, 32, 1575, 1604, 1604, 1607,
    32, 1593, 1604, 1610, 1607, 32, 1608, 1587, 1604, 1605],
    [1580, 1604, 32, 1580, 1604, 1575, 1604, 1607], [1585, 1740, 1575, 1604]]), (65040, [[44],
    [12289]]), (65043, [[58], [59], [33], [63], [12310], [12311]]), (65073, [[8212], [8211], [95],
    [95], [40], [41], [123], [125], [12308], [12309], [12304], [12305], [12298], [12299], [12296],
    [12297]]), (65095, [[91], [93], [32, 773], [32, 773], [32, 773], [32, 773], [95], [95], [95],
    [44], [12289]]), (65108, [[59], [58], [63], [33], [8212], [40], [41], [123], [125], [12308],
    [12309], [35], [38], [42], [43], [45], [60], [62], [61]]), (65128, [[92], [36], [37], [64]]),
    (65136, [[32, 1611], [1600, 1611], [32, 1612]]), (65140, [[32, 1613]]), (65142, [[32, 1614],
    [1600, 1614], [32, 1615], [1600, 1615], [32, 1616], [1600, 1616], [32, 1617], [1600, 1617],
    [32, 1618], [1600, 1618], [1569], [1570], [1570], [1571], [1571], [1572], [1572], [1573],
    [1573], [1574], [1574], [1574], [1574], [1575], [1575], [1576], [1576], [1576], [1576],
    [1577], [1577], [1578], [1578], [1578], [1578], [1579], [1579], [1579], [1579], [1580],
    [1580], [1580], [1580], [1581], [1581], [1581], [1581], [1582], [1582], [1582], [1582],
    [1583], [1583], [1584], [1584], [1585], [1585], [1586], [1586], [1587], [1587], [1587],
    [1587], [1588], [1588], [1588], [1588], [1589], [1589], [1589], [1589], [1590], [1590],
    [1590], [1590], [1591], [1591], [1591], [1591], [1592], [1592], [1592], [1592], [1593],
    [1593], [1593], [1593], [1594], [1594], [1594], [1594], [1601], [1601], [1601], [1601],
    [1602], [1602], [1602], [1602], [1603], [1603], [1603], [1603], [1604], [1604], [1604],
    [1604], [1605], [1605], [1605], [1605], [1606], [1606], [1606], [1606], [1607], [1607],
    [1607], [1607], [1608], [1608], [1609], [1609], [1610], [1610], [1610], [1610],
    [1604, 1570]]), (65270, [[1604, 1570], [1604, 1571], [1604, 1571], [1604, 1573], [1604, 1573],
    [1604, 1575], [1604, 1575]]), (65375, [[10629], [10630], [46], [12300], [12301], [12289],
    [12539], [12530], [12449], [12451], [12453], [12455], [12457], [12515], [12517], [12519],
    [12483], [12540], [12450], [12452], [12454], [12456], [12458], [12459], [12461], [12463],
    [12465], [12467], [12469], [12471], [12473], [12475], [12477], [12479], [12481], [12484],
    [12486], [12488]]), (65419, [[12498], [12501], [12504], [12507]]), (65428, [[12516],
    [12518]]), (65436, [[12527], [12531], [12441], [12442]]), (65441, [[4352], [4353], [4522],
    [4354], [4524], [4525], [4355], [4356], [4357]]), (65456, [[4378], [4358], [4359], [4360],
    [4385]]), (65498, [[4467], [4468], [4469]]), (65504, [[162], [163], [172], [32, 772], [166],
    [165], [8361]]), (65512, [[9474]]), (65517, [[9632], [9675]])]

end DocSearch.Url.Folding
