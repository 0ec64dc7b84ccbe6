import CronCalendar.Zone.Basic

/-!
# Time zones of Africa

Each table lists the local types of a zone and, for each of its transitions, the second since
1970 at which it happens and the number of the local type that holds from then on.
-/

namespace CronCalendar.Zone
set_option autoImplicit false
set_option maxRecDepth 8000

/-- `Africa/Cairo`. -/
def cairo : Zone :=
  Zone.ofTable "Africa/Cairo"
    [⟨7509, "LMT"⟩, ⟨7200, "EET"⟩, ⟨10800, "EEST"⟩]
    [(-2185409109, 1), (-929844000, 2), (-923108400, 1), (-906170400, 2), (-892868400, 1),
      (-875844000, 2), (-857790000, 1), (-844308000, 2), (-825822000, 1), (-812685600, 2),
      (-794199600, 1), (-779853600, 2), (-762663600, 1), (-399088800, 2), (-386650800, 1),
      (-368330400, 2), (-355114800, 1), (-336790800, 2), (-323654400, 1), (-305168400, 2),
      (-292032000, 1), (-273632400, 2), (-260496000, 1), (-242096400, 2), (-228960000, 1),
      (-210560400, 2), (-197424000, 1), (-178938000, 2), (-165801600, 1), (-147402000, 2),
      (-134265600, 1), (-115866000, 2), (-102643200, 1), (-84330000, 2), (-71107200, 1),
      (-52707600, 2), (-39484800, 1), (-21171600, 2), (-7948800, 1), (10364400, 2), (23587200, 1),
      (41900400, 2), (55123200, 1), (73522800, 2), (86745600, 1), (105058800, 2), (118281600, 1),
      (136594800, 2), (149817600, 1), (168130800, 2), (181353600, 1), (199753200, 2),
      (212976000, 1), (231289200, 2), (244512000, 1), (262825200, 2), (276048000, 1),
      (294361200, 2), (307584000, 1), (325983600, 2), (339206400, 1), (357519600, 2),
      (370742400, 1), (396399600, 2), (402278400, 1), (426812400, 2), (433814400, 1),
      (452214000, 2), (465436800, 1), (483750000, 2), (496972800, 1), (515286000, 2),
      (528508800, 1), (546822000, 2), (560044800, 1), (578444400, 2), (591667200, 1),
      (610412400, 2), (623203200, 1), (641516400, 2), (654739200, 1), (673052400, 2),
      (686275200, 1), (704674800, 2), (717897600, 1), (736210800, 2), (749433600, 1),
      (767746800, 2), (780969600, 1), (799020000, 2), (812322000, 1), (830469600, 2),
      (843771600, 1), (861919200, 2), (875221200, 1), (893368800, 2), (906670800, 1),
      (925423200, 2), (938725200, 1), (956872800, 2), (970174800, 1), (988322400, 2),
      (1001624400, 1), (1019772000, 2), (1033074000, 1), (1051221600, 2), (1064523600, 1),
      (1083276000, 2), (1096578000, 1), (1114725600, 2), (1128027600, 1), (1146175200, 2),
      (1158872400, 1), (1177624800, 2), (1189112400, 1), (1209074400, 2), (1219957200, 1),
      (1240524000, 2), (1250802000, 1), (1272578400, 2), (1281474000, 1), (1284069600, 2),
      (1285880400, 1), (1400191200, 2), (1403816400, 1), (1406844000, 2), (1411678800, 1),
      (1682632800, 2), (1698354000, 1), (1714082400, 2), (1730408400, 1), (1745532000, 2),
      (1761858000, 1), (1776981600, 2), (1793307600, 1), (1809036000, 2), (1824757200, 1),
      (1840485600, 2), (1856206800, 1), (1871935200, 2), (1887656400, 1), (1903384800, 2),
      (1919710800, 1), (1934834400, 2), (1951160400, 1), (1966888800, 2), (1982610000, 1),
      (1998338400, 2), (2014059600, 1), (2029788000, 2), (2045509200, 1), (2061237600, 2),
      (2076958800, 1), (2092687200, 2), (2109013200, 1), (2124136800, 2), (2140462800, 1),
      (2156191200, 2), (2171912400, 1), (2187640800, 2), (2203362000, 1), (2219090400, 2),
      (2234811600, 1), (2250540000, 2), (2266866000, 1), (2281989600, 2), (2298315600, 1),
      (2313439200, 2), (2329765200, 1), (2345493600, 2), (2361214800, 1), (2376943200, 2),
      (2392664400, 1), (2408392800, 2), (2424114000, 1), (2439842400, 2), (2456168400, 1),
      (2471292000, 2), (2487618000, 1), (2503346400, 2), (2519067600, 1), (2534796000, 2),
      (2550517200, 1), (2566245600, 2), (2581966800, 1), (2597695200, 2), (2614021200, 1),
      (2629144800, 2), (2645470800, 1), (2660594400, 2), (2676920400, 1), (2692648800, 2),
      (2708370000, 1), (2724098400, 2), (2739819600, 1), (2755548000, 2), (2771269200, 1),
      (2786997600, 2), (2803323600, 1), (2818447200, 2), (2834773200, 1), (2850501600, 2),
      (2866222800, 1), (2881951200, 2), (2897672400, 1), (2913400800, 2), (2929122000, 1),
      (2944850400, 2), (2960571600, 1), (2976300000, 2), (2992626000, 1), (3007749600, 2),
      (3024075600, 1), (3039804000, 2), (3055525200, 1), (3071253600, 2), (3086974800, 1),
      (3102703200, 2), (3118424400, 1), (3134152800, 2), (3150478800, 1), (3165602400, 2),
      (3181928400, 1), (3197052000, 2), (3213378000, 1), (3229106400, 2), (3244827600, 1),
      (3260556000, 2), (3276277200, 1), (3292005600, 2), (3307726800, 1), (3323455200, 2),
      (3339781200, 1), (3354904800, 2), (3371230800, 1), (3386959200, 2), (3402680400, 1),
      (3418408800, 2), (3434130000, 1), (3449858400, 2), (3465579600, 1), (3481308000, 2),
      (3497634000, 1), (3512757600, 2), (3529083600, 1), (3544207200, 2), (3560533200, 1),
      (3576261600, 2), (3591982800, 1), (3607711200, 2), (3623432400, 1), (3639160800, 2),
      (3654882000, 1), (3670610400, 2), (3686936400, 1), (3702060000, 2), (3718386000, 1),
      (3734114400, 2), (3749835600, 1), (3765564000, 2), (3781285200, 1), (3797013600, 2),
      (3812734800, 1), (3828463200, 2), (3844184400, 1), (3859912800, 2), (3876238800, 1),
      (3891362400, 2), (3907688400, 1), (3923416800, 2), (3939138000, 1), (3954866400, 2),
      (3970587600, 1), (3986316000, 2), (4002037200, 1), (4017765600, 2), (4034091600, 1),
      (4049215200, 2), (4065541200, 1), (4080664800, 2), (4096990800, 1)]
    (by decide +kernel)

/-- `Africa/Casablanca`. -/
def casablanca : Zone :=
  Zone.ofTable "Africa/Casablanca"
    [⟨-1820, "LMT"⟩, ⟨0, "+00"⟩, ⟨3600, "+01"⟩]
    [(-1773012580, 1), (-956361600, 2), (-950490000, 1), (-942019200, 2), (-761187600, 1),
      (-617241600, 2), (-605149200, 1), (-81432000, 2), (-71110800, 1), (141264000, 2),
      (147222000, 1), (199756800, 2), (207702000, 1), (231292800, 2), (244249200, 1),
      (265507200, 2), (271033200, 1), (448243200, 2), (504918000, 1), (1212278400, 2),
      (1220223600, 1), (1243814400, 2), (1250809200, 1), (1272758400, 2), (1281222000, 1),
      (1301788800, 2), (1312066800, 1), (1335664800, 2), (1342749600, 1), (1345428000, 2),
      (1348970400, 1), (1367114400, 2), (1373162400, 1), (1376100000, 2), (1382839200, 1),
      (1396144800, 2), (1403920800, 1), (1406944800, 2), (1414288800, 1), (1427594400, 2),
      (1434247200, 1), (1437271200, 2), (1445738400, 1), (1459044000, 2), (1465092000, 1),
      (1468116000, 2), (1477792800, 1), (1490493600, 2), (1495332000, 1), (1498960800, 2),
      (1509242400, 1), (1521943200, 2), (1526176800, 1), (1529200800, 2), (1557021600, 1),
      (1560045600, 2), (1587261600, 1), (1590890400, 2), (1618106400, 1), (1621130400, 2),
      (1648346400, 1), (1651975200, 2), (1679191200, 1), (1682215200, 2), (1710036000, 1),
      (1713060000, 2), (1740276000, 1), (1743904800, 2), (1771120800, 1), (1774144800, 2),
      (1801965600, 1), (1804989600, 2), (1832205600, 1), (1835834400, 2), (1863050400, 1),
      (1866074400, 2), (1893290400, 1), (1896919200, 2), (1924135200, 1), (1927159200, 2),
      (1954980000, 1), (1958004000, 2), (1985220000, 1), (1988848800, 2), (2016064800, 1),
      (2019088800, 2), (2046304800, 1), (2049933600, 2), (2077149600, 1), (2080778400, 2),
      (2107994400, 1), (2111018400, 2), (2138234400, 1), (2141863200, 2), (2169079200, 1),
      (2172103200, 2), (2199924000, 1), (2202948000, 2), (2230164000, 1), (2233792800, 2),
      (2261008800, 1), (2264032800, 2), (2291248800, 1), (2294877600, 2), (2322093600, 1),
      (2325722400, 2), (2352938400, 1), (2355962400, 2), (2383178400, 1), (2386807200, 2),
      (2414023200, 1), (2417047200, 2), (2444868000, 1), (2447892000, 2), (2475108000, 1),
      (2478736800, 2), (2505952800, 1), (2508976800, 2), (2536192800, 1), (2539821600, 2),
      (2567037600, 1), (2570666400, 2), (2597882400, 1), (2600906400, 2), (2628122400, 1),
      (2631751200, 2), (2658967200, 1), (2661991200, 2), (2689812000, 1), (2692836000, 2),
      (2720052000, 1), (2723680800, 2), (2750896800, 1), (2753920800, 2), (2781136800, 1),
      (2784765600, 2), (2811981600, 1), (2815610400, 2), (2842826400, 1), (2845850400, 2),
      (2873066400, 1), (2876695200, 2), (2903911200, 1), (2906935200, 2), (2934756000, 1),
      (2937780000, 2), (2964996000, 1), (2968624800, 2), (2995840800, 1), (2998864800, 2),
      (3026080800, 1), (3029709600, 2), (3056925600, 1), (3060554400, 2), (3087770400, 1),
      (3090794400, 2), (3118010400, 1), (3121639200, 2), (3148855200, 1), (3151879200, 2),
      (3179700000, 1), (3182724000, 2), (3209940000, 1), (3213568800, 2), (3240784800, 1),
      (3243808800, 2), (3271024800, 1), (3274653600, 2), (3301869600, 1), (3305498400, 2),
      (3332714400, 1), (3335738400, 2), (3362954400, 1), (3366583200, 2), (3393799200, 1),
      (3396823200, 2), (3424644000, 1), (3427668000, 2), (3454884000, 1), (3458512800, 2),
      (3485728800, 1), (3488752800, 2), (3515968800, 1), (3519597600, 2), (3546813600, 1),
      (3549837600, 2), (3577658400, 1), (3580682400, 2), (3607898400, 1), (3611527200, 2),
      (3638743200, 1), (3641767200, 2), (3669588000, 1), (3672612000, 2), (3699828000, 1),
      (3703456800, 2)]
    (by decide +kernel)

/-- `Africa/Monrovia`. -/
def monrovia : Zone :=
  Zone.ofTable "Africa/Monrovia"
    [⟨-2588, "LMT"⟩, ⟨-2588, "MMT"⟩, ⟨-2670, "MMT"⟩, ⟨0, "GMT"⟩]
    [(-2776979812, 1), (-1604359012, 2), (63593070, 3)]
    (by decide +kernel)

end CronCalendar.Zone
