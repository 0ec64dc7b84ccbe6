import CronCalendar.Zone.Basic

/-!
# Time zones of the Pacific, Australia and Antarctica

Each table lists the local types of a zone and, for each of its transitions, the second since
1970 at which it happens and the number of the local type that holds from then on.
-/

namespace CronCalendar.Zone
set_option autoImplicit false
set_option maxRecDepth 8000

/-- `Australia/Lord_Howe`. -/
def lordHowe : Zone :=
  Zone.ofTable "Australia/Lord_Howe"
    [⟨38180, "LMT"⟩, ⟨36000, "AEST"⟩, ⟨37800, "+1030"⟩, ⟨41400, "+1130"⟩, ⟨39600, "+11"⟩]
    [(-2364114980, 1), (352216800, 2), (372785400, 3), (384273000, 2), (404839800, 3),
      (415722600, 2), (436289400, 3), (447172200, 2), (467739000, 3), (478621800, 2),
      (499188600, 4), (511282800, 2), (530033400, 4), (542732400, 2), (562087800, 4),
      (574786800, 2), (594142200, 4), (606236400, 2), (625591800, 4), (636476400, 2),
      (657041400, 4), (667926000, 2), (688491000, 4), (699375600, 2), (719940600, 4),
      (731430000, 2), (751995000, 4), (762879600, 2), (783444600, 4), (794329200, 2),
      (814894200, 4), (828198000, 2), (846343800, 4), (859647600, 2), (877793400, 4),
      (891097200, 2), (909243000, 4), (922546800, 2), (941297400, 4), (953996400, 2),
      (967303800, 4), (985446000, 2), (1004196600, 4), (1017500400, 2), (1035646200, 4),
      (1048950000, 2), (1067095800, 4), (1080399600, 2), (1099150200, 4), (1111849200, 2),
      (1130599800, 4), (1143903600, 2), (1162049400, 4), (1174748400, 2), (1193499000, 4),
      (1207407600, 2), (1223134200, 4), (1238857200, 2), (1254583800, 4), (1270306800, 2),
      (1286033400, 4), (1301756400, 2), (1317483000, 4), (1333206000, 2), (1349537400, 4),
      (1365260400, 2), (1380987000, 4), (1396710000, 2), (1412436600, 4), (1428159600, 2),
      (1443886200, 4), (1459609200, 2), (1475335800, 4), (1491058800, 2), (1506785400, 4),
      (1522508400, 2), (1538839800, 4), (1554562800, 2), (1570289400, 4), (1586012400, 2),
      (1601739000, 4), (1617462000, 2), (1633188600, 4), (1648911600, 2), (1664638200, 4),
      (1680361200, 2), (1696087800, 4), (1712415600, 2), (1728142200, 4), (1743865200, 2),
      (1759591800, 4), (1775314800, 2), (1791041400, 4), (1806764400, 2), (1822491000, 4),
      (1838214000, 2), (1853940600, 4), (1869663600, 2), (1885995000, 4), (1901718000, 2),
      (1917444600, 4), (1933167600, 2), (1948894200, 4), (1964617200, 2), (1980343800, 4),
      (1996066800, 2), (2011793400, 4), (2027516400, 2), (2043243000, 4), (2058966000, 2),
      (2075297400, 4), (2091020400, 2), (2106747000, 4), (2122470000, 2), (2138196600, 4),
      (2153919600, 2), (2169646200, 4), (2185369200, 2), (2201095800, 4), (2216818800, 2),
      (2233150200, 4), (2248873200, 2), (2264599800, 4), (2280322800, 2), (2296049400, 4),
      (2311772400, 2), (2327499000, 4), (2343222000, 2), (2358948600, 4), (2374671600, 2),
      (2390398200, 4), (2406121200, 2), (2422452600, 4), (2438175600, 2), (2453902200, 4),
      (2469625200, 2), (2485351800, 4), (2501074800, 2), (2516801400, 4), (2532524400, 2),
      (2548251000, 4), (2563974000, 2), (2579700600, 4), (2596028400, 2), (2611755000, 4),
      (2627478000, 2), (2643204600, 4), (2658927600, 2), (2674654200, 4), (2690377200, 2),
      (2706103800, 4), (2721826800, 2), (2737553400, 4), (2753276400, 2), (2769607800, 4),
      (2785330800, 2), (2801057400, 4), (2816780400, 2), (2832507000, 4), (2848230000, 2),
      (2863956600, 4), (2879679600, 2), (2895406200, 4), (2911129200, 2), (2926855800, 4),
      (2942578800, 2), (2958910200, 4), (2974633200, 2), (2990359800, 4), (3006082800, 2),
      (3021809400, 4), (3037532400, 2), (3053259000, 4), (3068982000, 2), (3084708600, 4),
      (3100431600, 2), (3116763000, 4), (3132486000, 2), (3148212600, 4), (3163935600, 2),
      (3179662200, 4), (3195385200, 2), (3211111800, 4), (3226834800, 2), (3242561400, 4),
      (3258284400, 2), (3274011000, 4), (3289734000, 2), (3306065400, 4), (3321788400, 2),
      (3337515000, 4), (3353238000, 2), (3368964600, 4), (3384687600, 2), (3400414200, 4),
      (3416137200, 2), (3431863800, 4), (3447586800, 2), (3463313400, 4), (3479641200, 2),
      (3495367800, 4), (3511090800, 2), (3526817400, 4), (3542540400, 2), (3558267000, 4),
      (3573990000, 2), (3589716600, 4), (3605439600, 2), (3621166200, 4), (3636889200, 2),
      (3653220600, 4), (3668943600, 2), (3684670200, 4), (3700393200, 2), (3716119800, 4),
      (3731842800, 2), (3747569400, 4), (3763292400, 2), (3779019000, 4), (3794742000, 2),
      (3810468600, 4), (3826191600, 2), (3842523000, 4), (3858246000, 2), (3873972600, 4),
      (3889695600, 2), (3905422200, 4), (3921145200, 2), (3936871800, 4), (3952594800, 2),
      (3968321400, 4), (3984044400, 2), (4000375800, 4), (4016098800, 2), (4031825400, 4),
      (4047548400, 2), (4063275000, 4), (4078998000, 2), (4094724600, 4)]
    (by decide +kernel)

/-- `Antarctica/Troll`. -/
def troll : Zone :=
  Zone.ofTable "Antarctica/Troll"
    [⟨0, "-00"⟩, ⟨0, "+00"⟩, ⟨7200, "+02"⟩]
    [(1108166400, 1), (1111885200, 2), (1130634000, 1), (1143334800, 2), (1162083600, 1),
      (1174784400, 2), (1193533200, 1), (1206838800, 2), (1224982800, 1), (1238288400, 2),
      (1256432400, 1), (1269738000, 2), (1288486800, 1), (1301187600, 2), (1319936400, 1),
      (1332637200, 2), (1351386000, 1), (1364691600, 2), (1382835600, 1), (1396141200, 2),
      (1414285200, 1), (1427590800, 2), (1445734800, 1), (1459040400, 2), (1477789200, 1),
      (1490490000, 2), (1509238800, 1), (1521939600, 2), (1540688400, 1), (1553994000, 2),
      (1572138000, 1), (1585443600, 2), (1603587600, 1), (1616893200, 2), (1635642000, 1),
      (1648342800, 2), (1667091600, 1), (1679792400, 2), (1698541200, 1), (1711846800, 2),
      (1729990800, 1), (1743296400, 2), (1761440400, 1), (1774746000, 2), (1792890000, 1),
      (1806195600, 2), (1824944400, 1), (1837645200, 2), (1856394000, 1), (1869094800, 2),
      (1887843600, 1), (1901149200, 2), (1919293200, 1), (1932598800, 2), (1950742800, 1),
      (1964048400, 2), (1982797200, 1), (1995498000, 2), (2014246800, 1), (2026947600, 2),
      (2045696400, 1), (2058397200, 2), (2077146000, 1), (2090451600, 2), (2108595600, 1),
      (2121901200, 2), (2140045200, 1), (2153350800, 2), (2172099600, 1), (2184800400, 2),
      (2203549200, 1), (2216250000, 2), (2234998800, 1), (2248304400, 2), (2266448400, 1),
      (2279754000, 2), (2297898000, 1), (2311203600, 2), (2329347600, 1), (2342653200, 2),
      (2361402000, 1), (2374102800, 2), (2392851600, 1), (2405552400, 2), (2424301200, 1),
      (2437606800, 2), (2455750800, 1), (2469056400, 2), (2487200400, 1), (2500506000, 2),
      (2519254800, 1), (2531955600, 2), (2550704400, 1), (2563405200, 2), (2582154000, 1),
      (2595459600, 2), (2613603600, 1), (2626909200, 2), (2645053200, 1), (2658358800, 2),
      (2676502800, 1), (2689808400, 2), (2708557200, 1), (2721258000, 2), (2740006800, 1),
      (2752707600, 2), (2771456400, 1), (2784762000, 2), (2802906000, 1), (2816211600, 2),
      (2834355600, 1), (2847661200, 2), (2866410000, 1), (2879110800, 2), (2897859600, 1),
      (2910560400, 2), (2929309200, 1), (2942010000, 2), (2960758800, 1), (2974064400, 2),
      (2992208400, 1), (3005514000, 2), (3023658000, 1), (3036963600, 2), (3055712400, 1),
      (3068413200, 2), (3087162000, 1), (3099862800, 2), (3118611600, 1), (3131917200, 2),
      (3150061200, 1), (3163366800, 2), (3181510800, 1), (3194816400, 2), (3212960400, 1),
      (3226266000, 2), (3245014800, 1), (3257715600, 2), (3276464400, 1), (3289165200, 2),
      (3307914000, 1), (3321219600, 2), (3339363600, 1), (3352669200, 2), (3370813200, 1),
      (3384118800, 2), (3402867600, 1), (3415568400, 2), (3434317200, 1), (3447018000, 2),
      (3465766800, 1), (3479072400, 2), (3497216400, 1), (3510522000, 2), (3528666000, 1),
      (3541971600, 2), (3560115600, 1), (3573421200, 2), (3592170000, 1), (3604870800, 2),
      (3623619600, 1), (3636320400, 2), (3655069200, 1), (3668374800, 2), (3686518800, 1),
      (3699824400, 2), (3717968400, 1), (3731274000, 2), (3750022800, 1), (3762723600, 2),
      (3781472400, 1), (3794173200, 2), (3812922000, 1), (3825622800, 2), (3844371600, 1),
      (3857677200, 2), (3875821200, 1), (3889126800, 2), (3907270800, 1), (3920576400, 2),
      (3939325200, 1), (3952026000, 2), (3970774800, 1), (3983475600, 2), (4002224400, 1),
      (4015530000, 2), (4033674000, 1), (4046979600, 2), (4065123600, 1), (4078429200, 2),
      (4096573200, 1)]
    (by decide +kernel)

/-- `Pacific/Apia`. -/
def apia : Zone :=
  Zone.ofTable "Pacific/Apia"
    [⟨45184, "LMT"⟩, ⟨-41216, "LMT"⟩, ⟨-41400, "-1130"⟩, ⟨-39600, "-11"⟩, ⟨-36000, "-10"⟩, ⟨50400, "+14"⟩, ⟨46800, "+13"⟩]
    [(-2445424384, 1), (-1861878784, 2), (-631110600, 3), (1285498800, 4), (1301752800, 3),
      (1316872800, 4), (1325239200, 5), (1333202400, 6), (1348927200, 5), (1365256800, 6),
      (1380376800, 5), (1396706400, 6), (1411826400, 5), (1428156000, 6), (1443276000, 5),
      (1459605600, 6), (1474725600, 5), (1491055200, 6), (1506175200, 5), (1522504800, 6),
      (1538229600, 5), (1554559200, 6), (1569679200, 5), (1586008800, 6), (1601128800, 5),
      (1617458400, 6)]
    (by decide +kernel)

/-- `Pacific/Kwajalein`. -/
def kwajalein : Zone :=
  Zone.ofTable "Pacific/Kwajalein"
    [⟨40160, "LMT"⟩, ⟨39600, "+11"⟩, ⟨36000, "+10"⟩, ⟨32400, "+09"⟩, ⟨-43200, "-12"⟩, ⟨43200, "+12"⟩]
    [(-2177492960, 1), (-1041418800, 2), (-907408800, 3), (-817462800, 1), (-7988400, 4),
      (745934400, 5)]
    (by decide +kernel)

/-- `Pacific/Chatham`. -/
def chatham : Zone :=
  Zone.ofTable "Pacific/Chatham"
    [⟨44028, "LMT"⟩, ⟨44100, "+1215"⟩, ⟨45900, "+1245"⟩, ⟨49500, "+1345"⟩]
    [(-3192437628, 1), (-757426500, 2), (152632800, 3), (162309600, 2), (183477600, 3),
      (194968800, 2), (215532000, 3), (226418400, 2), (246981600, 3), (257868000, 2),
      (278431200, 3), (289317600, 2), (309880800, 3), (320767200, 2), (341330400, 3),
      (352216800, 2), (372780000, 3), (384271200, 2), (404834400, 3), (415720800, 2),
      (436284000, 3), (447170400, 2), (467733600, 3), (478620000, 2), (499183200, 3),
      (510069600, 2), (530632800, 3), (541519200, 2), (562082400, 3), (573573600, 2),
      (594136800, 3), (605023200, 2), (623772000, 3), (637682400, 2), (655221600, 3),
      (669132000, 2), (686671200, 3), (700581600, 2), (718120800, 3), (732636000, 2),
      (749570400, 3), (764085600, 2), (781020000, 3), (795535200, 2), (812469600, 3),
      (826984800, 2), (844524000, 3), (858434400, 2), (875973600, 3), (889884000, 2),
      (907423200, 3), (921938400, 2), (938872800, 3), (953388000, 2), (970322400, 3),
      (984837600, 2), (1002376800, 3), (1016287200, 2), (1033826400, 3), (1047736800, 2),
      (1065276000, 3), (1079791200, 2), (1096725600, 3), (1111240800, 2), (1128175200, 3),
      (1142690400, 2), (1159624800, 3), (1174140000, 2), (1191074400, 3), (1207404000, 2),
      (1222524000, 3), (1238853600, 2), (1253973600, 3), (1270303200, 2), (1285423200, 3),
      (1301752800, 2), (1316872800, 3), (1333202400, 2), (1348927200, 3), (1365256800, 2),
      (1380376800, 3), (1396706400, 2), (1411826400, 3), (1428156000, 2), (1443276000, 3),
      (1459605600, 2), (1474725600, 3), (1491055200, 2), (1506175200, 3), (1522504800, 2),
      (1538229600, 3), (1554559200, 2), (1569679200, 3), (1586008800, 2), (1601128800, 3),
      (1617458400, 2), (1632578400, 3), (1648908000, 2), (1664028000, 3), (1680357600, 2),
      (1695477600, 3), (1712412000, 2), (1727532000, 3), (1743861600, 2), (1758981600, 3),
      (1775311200, 2), (1790431200, 3), (1806760800, 2), (1821880800, 3), (1838210400, 2),
      (1853330400, 3), (1869660000, 2), (1885384800, 3), (1901714400, 2), (1916834400, 3),
      (1933164000, 2), (1948284000, 3), (1964613600, 2), (1979733600, 3), (1996063200, 2),
      (2011183200, 3), (2027512800, 2), (2042632800, 3), (2058962400, 2), (2074687200, 3),
      (2091016800, 2), (2106136800, 3), (2122466400, 2), (2137586400, 3), (2153916000, 2),
      (2169036000, 3), (2185365600, 2), (2200485600, 3), (2216815200, 2), (2232540000, 3),
      (2248869600, 2), (2263989600, 3), (2280319200, 2), (2295439200, 3), (2311768800, 2),
      (2326888800, 3), (2343218400, 2), (2358338400, 3), (2374668000, 2), (2389788000, 3),
      (2406117600, 2), (2421842400, 3), (2438172000, 2), (2453292000, 3), (2469621600, 2),
      (2484741600, 3), (2501071200, 2), (2516191200, 3), (2532520800, 2), (2547640800, 3),
      (2563970400, 2), (2579090400, 3), (2596024800, 2), (2611144800, 3), (2627474400, 2),
      (2642594400, 3), (2658924000, 2), (2674044000, 3), (2690373600, 2), (2705493600, 3),
      (2721823200, 2), (2736943200, 3), (2753272800, 2), (2768997600, 3), (2785327200, 2),
      (2800447200, 3), (2816776800, 2), (2831896800, 3), (2848226400, 2), (2863346400, 3),
      (2879676000, 2), (2894796000, 3), (2911125600, 2), (2926245600, 3), (2942575200, 2),
      (2958300000, 3), (2974629600, 2), (2989749600, 3), (3006079200, 2), (3021199200, 3),
      (3037528800, 2), (3052648800, 3), (3068978400, 2), (3084098400, 3), (3100428000, 2),
      (3116152800, 3), (3132482400, 2), (3147602400, 3), (3163932000, 2), (3179052000, 3),
      (3195381600, 2), (3210501600, 3), (3226831200, 2), (3241951200, 3), (3258280800, 2),
      (3273400800, 3), (3289730400, 2), (3305455200, 3), (3321784800, 2), (3336904800, 3),
      (3353234400, 2), (3368354400, 3), (3384684000, 2), (3399804000, 3), (3416133600, 2),
      (3431253600, 3), (3447583200, 2), (3462703200, 3), (3479637600, 2), (3494757600, 3),
      (3511087200, 2), (3526207200, 3), (3542536800, 2), (3557656800, 3), (3573986400, 2),
      (3589106400, 3), (3605436000, 2), (3620556000, 3), (3636885600, 2), (3652610400, 3),
      (3668940000, 2), (3684060000, 3), (3700389600, 2), (3715509600, 3), (3731839200, 2),
      (3746959200, 3), (3763288800, 2), (3778408800, 3), (3794738400, 2), (3809858400, 3),
      (3826188000, 2), (3841912800, 3), (3858242400, 2), (3873362400, 3), (3889692000, 2),
      (3904812000, 3), (3921141600, 2), (3936261600, 3), (3952591200, 2), (3967711200, 3),
      (3984040800, 2), (3999765600, 3), (4016095200, 2), (4031215200, 3), (4047544800, 2),
      (4062664800, 3), (4078994400, 2), (4094114400, 3)]
    (by decide +kernel)

end CronCalendar.Zone
