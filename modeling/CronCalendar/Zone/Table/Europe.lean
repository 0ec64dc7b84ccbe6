import CronCalendar.Zone.Basic

/-!
# Time zones of Europe

Each table lists the local types of a zone and, for each of its transitions, the second since
1970 at which it happens and the number of the local type that holds from then on.
-/

namespace CronCalendar.Zone
set_option autoImplicit false
set_option maxRecDepth 8000

/-- `Europe/London`. -/
def london : Zone :=
  Zone.ofTable "Europe/London"
    [⟨-75, "LMT"⟩, ⟨0, "GMT"⟩, ⟨3600, "BST"⟩, ⟨7200, "BDST"⟩]
    [(-3852662325, 1), (-1691964000, 2), (-1680472800, 1), (-1664143200, 2), (-1650146400, 1),
      (-1633903200, 2), (-1617487200, 1), (-1601848800, 2), (-1586037600, 1), (-1570399200, 2),
      (-1552168800, 1), (-1538344800, 2), (-1522533600, 1), (-1507500000, 2), (-1490565600, 1),
      (-1473631200, 2), (-1460930400, 1), (-1442786400, 2), (-1428876000, 1), (-1410732000, 2),
      (-1396216800, 1), (-1379282400, 2), (-1364767200, 1), (-1348437600, 2), (-1333317600, 1),
      (-1315778400, 2), (-1301263200, 1), (-1284328800, 2), (-1269813600, 1), (-1253484000, 2),
      (-1238364000, 1), (-1221429600, 2), (-1206914400, 1), (-1189980000, 2), (-1175464800, 1),
      (-1159135200, 2), (-1143410400, 1), (-1126476000, 2), (-1111960800, 1), (-1095631200, 2),
      (-1080511200, 1), (-1063576800, 2), (-1049061600, 1), (-1032127200, 2), (-1017612000, 1),
      (-1001282400, 2), (-986162400, 1), (-969228000, 2), (-950479200, 1), (-942012000, 2),
      (-904518000, 3), (-896050800, 2), (-875487600, 3), (-864601200, 2), (-844038000, 3),
      (-832546800, 2), (-812588400, 3), (-798073200, 2), (-781052400, 3), (-772066800, 2),
      (-764805600, 1), (-748476000, 2), (-733356000, 1), (-719445600, 2), (-717030000, 3),
      (-706748400, 2), (-699487200, 1), (-687996000, 2), (-668037600, 1), (-654732000, 2),
      (-636588000, 1), (-622072800, 2), (-605743200, 1), (-590623200, 2), (-574293600, 1),
      (-558568800, 2), (-542239200, 1), (-527119200, 2), (-512604000, 1), (-496274400, 2),
      (-481154400, 1), (-464220000, 2), (-449704800, 1), (-432165600, 2), (-417650400, 1),
      (-401320800, 2), (-386200800, 1), (-369266400, 2), (-354751200, 1), (-337816800, 2),
      (-323301600, 1), (-306972000, 2), (-291852000, 1), (-276732000, 2), (-257983200, 1),
      (-245282400, 2), (-226533600, 1), (-213228000, 2), (-195084000, 1), (-182383200, 2),
      (-163634400, 1), (-150933600, 2), (-132184800, 1), (-119484000, 2), (-100735200, 1),
      (-88034400, 2), (-68680800, 1), (-59004000, 2), (57722400, 1), (69818400, 2), (89172000, 1),
      (101268000, 2), (120621600, 1), (132717600, 2), (152071200, 1), (164167200, 2),
      (183520800, 1), (196221600, 2), (214970400, 1), (227671200, 2), (246420000, 1),
      (259120800, 2), (278474400, 1), (290570400, 2), (309924000, 1), (322020000, 2),
      (341373600, 1), (354675600, 2), (372819600, 1), (386125200, 2), (404269200, 1),
      (417574800, 2), (435718800, 1), (449024400, 2), (467773200, 1), (481078800, 2),
      (499222800, 1), (512528400, 2), (530672400, 1), (543978000, 2), (562122000, 1),
      (575427600, 2), (593571600, 1), (606877200, 2), (625626000, 1), (638326800, 2),
      (657075600, 1), (670381200, 2), (688525200, 1), (701830800, 2), (719974800, 1),
      (733280400, 2), (751424400, 1), (764730000, 2), (782874000, 1), (796179600, 2),
      (814323600, 1), (828234000, 2), (846378000, 1), (859683600, 2), (877827600, 1),
      (891133200, 2), (909277200, 1), (922582800, 2), (941331600, 1), (954032400, 2),
      (972781200, 1), (985482000, 2), (1004230800, 1), (1017536400, 2), (1035680400, 1),
      (1048986000, 2), (1067130000, 1), (1080435600, 2), (1099184400, 1), (1111885200, 2),
      (1130634000, 1), (1143334800, 2), (1162083600, 1), (1174784400, 2), (1193533200, 1),
      (1206838800, 2), (1224982800, 1), (1238288400, 2), (1256432400, 1), (1269738000, 2),
      (1288486800, 1), (1301187600, 2), (1319936400, 1), (1332637200, 2), (1351386000, 1),
      (1364691600, 2), (1382835600, 1), (1396141200, 2), (1414285200, 1), (1427590800, 2),
      (1445734800, 1), (1459040400, 2), (1477789200, 1), (1490490000, 2), (1509238800, 1),
      (1521939600, 2), (1540688400, 1), (1553994000, 2), (1572138000, 1), (1585443600, 2),
      (1603587600, 1), (1616893200, 2), (1635642000, 1), (1648342800, 2), (1667091600, 1),
      (1679792400, 2), (1698541200, 1), (1711846800, 2), (1729990800, 1), (1743296400, 2),
      (1761440400, 1), (1774746000, 2), (1792890000, 1), (1806195600, 2), (1824944400, 1),
      (1837645200, 2), (1856394000, 1), (1869094800, 2), (1887843600, 1), (1901149200, 2),
      (1919293200, 1), (1932598800, 2), (1950742800, 1), (1964048400, 2), (1982797200, 1),
      (1995498000, 2), (2014246800, 1), (2026947600, 2), (2045696400, 1), (2058397200, 2),
      (2077146000, 1), (2090451600, 2), (2108595600, 1), (2121901200, 2), (2140045200, 1),
      (2153350800, 2), (2172099600, 1), (2184800400, 2), (2203549200, 1), (2216250000, 2),
      (2234998800, 1), (2248304400, 2), (2266448400, 1), (2279754000, 2), (2297898000, 1),
      (2311203600, 2), (2329347600, 1), (2342653200, 2), (2361402000, 1), (2374102800, 2),
      (2392851600, 1), (2405552400, 2), (2424301200, 1), (2437606800, 2), (2455750800, 1),
      (2469056400, 2), (2487200400, 1), (2500506000, 2), (2519254800, 1), (2531955600, 2),
      (2550704400, 1), (2563405200, 2), (2582154000, 1), (2595459600, 2), (2613603600, 1),
      (2626909200, 2), (2645053200, 1), (2658358800, 2), (2676502800, 1), (2689808400, 2),
      (2708557200, 1), (2721258000, 2), (2740006800, 1), (2752707600, 2), (2771456400, 1),
      (2784762000, 2), (2802906000, 1), (2816211600, 2), (2834355600, 1), (2847661200, 2),
      (2866410000, 1), (2879110800, 2), (2897859600, 1), (2910560400, 2), (2929309200, 1),
      (2942010000, 2), (2960758800, 1), (2974064400, 2), (2992208400, 1), (3005514000, 2),
      (3023658000, 1), (3036963600, 2), (3055712400, 1), (3068413200, 2), (3087162000, 1),
      (3099862800, 2), (3118611600, 1), (3131917200, 2), (3150061200, 1), (3163366800, 2),
      (3181510800, 1), (3194816400, 2), (3212960400, 1), (3226266000, 2), (3245014800, 1),
      (3257715600, 2), (3276464400, 1), (3289165200, 2), (3307914000, 1), (3321219600, 2),
      (3339363600, 1), (3352669200, 2), (3370813200, 1), (3384118800, 2), (3402867600, 1),
      (3415568400, 2), (3434317200, 1), (3447018000, 2), (3465766800, 1), (3479072400, 2),
      (3497216400, 1), (3510522000, 2), (3528666000, 1), (3541971600, 2), (3560115600, 1),
      (3573421200, 2), (3592170000, 1), (3604870800, 2), (3623619600, 1), (3636320400, 2),
      (3655069200, 1), (3668374800, 2), (3686518800, 1), (3699824400, 2), (3717968400, 1),
      (3731274000, 2), (3750022800, 1), (3762723600, 2), (3781472400, 1), (3794173200, 2),
      (3812922000, 1), (3825622800, 2), (3844371600, 1), (3857677200, 2), (3875821200, 1),
      (3889126800, 2), (3907270800, 1), (3920576400, 2), (3939325200, 1), (3952026000, 2),
      (3970774800, 1), (3983475600, 2), (4002224400, 1), (4015530000, 2), (4033674000, 1),
      (4046979600, 2), (4065123600, 1), (4078429200, 2), (4096573200, 1)]
    (by decide +kernel)

/-- `Europe/Dublin`. -/
def dublin : Zone :=
  Zone.ofTable "Europe/Dublin"
    [⟨-1521, "LMT"⟩, ⟨-1521, "DMT"⟩, ⟨2079, "IST"⟩, ⟨0, "GMT"⟩, ⟨3600, "BST"⟩, ⟨3600, "IST"⟩]
    [(-2821649679, 1), (-1691962479, 2), (-1680471279, 3), (-1664143200, 4), (-1650146400, 3),
      (-1633903200, 4), (-1617487200, 3), (-1601848800, 4), (-1586037600, 3), (-1570399200, 4),
      (-1552168800, 3), (-1538344800, 4), (-1522533600, 3), (-1507500000, 5), (-1490565600, 3),
      (-1473631200, 5), (-1460930400, 3), (-1442786400, 5), (-1428876000, 3), (-1410732000, 5),
      (-1396216800, 3), (-1379282400, 5), (-1364767200, 3), (-1348437600, 5), (-1333317600, 3),
      (-1315778400, 5), (-1301263200, 3), (-1284328800, 5), (-1269813600, 3), (-1253484000, 5),
      (-1238364000, 3), (-1221429600, 5), (-1206914400, 3), (-1189980000, 5), (-1175464800, 3),
      (-1159135200, 5), (-1143410400, 3), (-1126476000, 5), (-1111960800, 3), (-1095631200, 5),
      (-1080511200, 3), (-1063576800, 5), (-1049061600, 3), (-1032127200, 5), (-1017612000, 3),
      (-1001282400, 5), (-986162400, 3), (-969228000, 5), (-950479200, 3), (-942012000, 5),
      (-733356000, 3), (-719445600, 5), (-699487200, 3), (-684972000, 5), (-668037600, 3),
      (-654732000, 5), (-636588000, 3), (-622072800, 5), (-605743200, 3), (-590623200, 5),
      (-574293600, 3), (-558568800, 5), (-542239200, 3), (-527119200, 5), (-512604000, 3),
      (-496274400, 5), (-481154400, 3), (-464220000, 5), (-449704800, 3), (-432165600, 5),
      (-417650400, 3), (-401320800, 5), (-386200800, 3), (-369266400, 5), (-354751200, 3),
      (-337816800, 5), (-323301600, 3), (-306972000, 5), (-291852000, 3), (-276732000, 5),
      (-257983200, 3), (-245282400, 5), (-226533600, 3), (-213228000, 5), (-195084000, 3),
      (-182383200, 5), (-163634400, 3), (-150933600, 5), (-132184800, 3), (-119484000, 5),
      (-100735200, 3), (-88034400, 5), (-68680800, 3), (-59004000, 5), (57722400, 3), (69818400, 5),
      (89172000, 3), (101268000, 5), (120621600, 3), (132717600, 5), (152071200, 3), (164167200, 5),
      (183520800, 3), (196221600, 5), (214970400, 3), (227671200, 5), (246420000, 3),
      (259120800, 5), (278474400, 3), (290570400, 5), (309924000, 3), (322020000, 5),
      (341373600, 3), (354675600, 5), (372819600, 3), (386125200, 5), (404269200, 3),
      (417574800, 5), (435718800, 3), (449024400, 5), (467773200, 3), (481078800, 5),
      (499222800, 3), (512528400, 5), (530672400, 3), (543978000, 5), (562122000, 3),
      (575427600, 5), (593571600, 3), (606877200, 5), (625626000, 3), (638326800, 5),
      (657075600, 3), (670381200, 5), (688525200, 3), (701830800, 5), (719974800, 3),
      (733280400, 5), (751424400, 3), (764730000, 5), (782874000, 3), (796179600, 5),
      (814323600, 3), (828234000, 5), (846378000, 3), (859683600, 5), (877827600, 3),
      (891133200, 5), (909277200, 3), (922582800, 5), (941331600, 3), (954032400, 5),
      (972781200, 3), (985482000, 5), (1004230800, 3), (1017536400, 5), (1035680400, 3),
      (1048986000, 5), (1067130000, 3), (1080435600, 5), (1099184400, 3), (1111885200, 5),
      (1130634000, 3), (1143334800, 5), (1162083600, 3), (1174784400, 5), (1193533200, 3),
      (1206838800, 5), (1224982800, 3), (1238288400, 5), (1256432400, 3), (1269738000, 5),
      (1288486800, 3), (1301187600, 5), (1319936400, 3), (1332637200, 5), (1351386000, 3),
      (1364691600, 5), (1382835600, 3), (1396141200, 5), (1414285200, 3), (1427590800, 5),
      (1445734800, 3), (1459040400, 5), (1477789200, 3), (1490490000, 5), (1509238800, 3),
      (1521939600, 5), (1540688400, 3), (1553994000, 5), (1572138000, 3), (1585443600, 5),
      (1603587600, 3), (1616893200, 5), (1635642000, 3), (1648342800, 5), (1667091600, 3),
      (1679792400, 5), (1698541200, 3), (1711846800, 5), (1729990800, 3), (1743296400, 5),
      (1761440400, 3), (1774746000, 5), (1792890000, 3), (1806195600, 5), (1824944400, 3),
      (1837645200, 5), (1856394000, 3), (1869094800, 5), (1887843600, 3), (1901149200, 5),
      (1919293200, 3), (1932598800, 5), (1950742800, 3), (1964048400, 5), (1982797200, 3),
      (1995498000, 5), (2014246800, 3), (2026947600, 5), (2045696400, 3), (2058397200, 5),
      (2077146000, 3), (2090451600, 5), (2108595600, 3), (2121901200, 5), (2140045200, 3),
      (2153350800, 5), (2172099600, 3), (2184800400, 5), (2203549200, 3), (2216250000, 5),
      (2234998800, 3), (2248304400, 5), (2266448400, 3), (2279754000, 5), (2297898000, 3),
      (2311203600, 5), (2329347600, 3), (2342653200, 5), (2361402000, 3), (2374102800, 5),
      (2392851600, 3), (2405552400, 5), (2424301200, 3), (2437606800, 5), (2455750800, 3),
      (2469056400, 5), (2487200400, 3), (2500506000, 5), (2519254800, 3), (2531955600, 5),
      (2550704400, 3), (2563405200, 5), (2582154000, 3), (2595459600, 5), (2613603600, 3),
      (2626909200, 5), (2645053200, 3), (2658358800, 5), (2676502800, 3), (2689808400, 5),
      (2708557200, 3), (2721258000, 5), (2740006800, 3), (2752707600, 5), (2771456400, 3),
      (2784762000, 5), (2802906000, 3), (2816211600, 5), (2834355600, 3), (2847661200, 5),
      (2866410000, 3), (2879110800, 5), (2897859600, 3), (2910560400, 5), (2929309200, 3),
      (2942010000, 5), (2960758800, 3), (2974064400, 5), (2992208400, 3), (3005514000, 5),
      (3023658000, 3), (3036963600, 5), (3055712400, 3), (3068413200, 5), (3087162000, 3),
      (3099862800, 5), (3118611600, 3), (3131917200, 5), (3150061200, 3), (3163366800, 5),
      (3181510800, 3), (3194816400, 5), (3212960400, 3), (3226266000, 5), (3245014800, 3),
      (3257715600, 5), (3276464400, 3), (3289165200, 5), (3307914000, 3), (3321219600, 5),
      (3339363600, 3), (3352669200, 5), (3370813200, 3), (3384118800, 5), (3402867600, 3),
      (3415568400, 5), (3434317200, 3), (3447018000, 5), (3465766800, 3), (3479072400, 5),
      (3497216400, 3), (3510522000, 5), (3528666000, 3), (3541971600, 5), (3560115600, 3),
      (3573421200, 5), (3592170000, 3), (3604870800, 5), (3623619600, 3), (3636320400, 5),
      (3655069200, 3), (3668374800, 5), (3686518800, 3), (3699824400, 5), (3717968400, 3),
      (3731274000, 5), (3750022800, 3), (3762723600, 5), (3781472400, 3), (3794173200, 5),
      (3812922000, 3), (3825622800, 5), (3844371600, 3), (3857677200, 5), (3875821200, 3),
      (3889126800, 5), (3907270800, 3), (3920576400, 5), (3939325200, 3), (3952026000, 5),
      (3970774800, 3), (3983475600, 5), (4002224400, 3), (4015530000, 5), (4033674000, 3),
      (4046979600, 5), (4065123600, 3), (4078429200, 5), (4096573200, 3)]
    (by decide +kernel)

/-- `Europe/Berlin`. -/
def berlin : Zone :=
  Zone.ofTable "Europe/Berlin"
    [⟨3208, "LMT"⟩, ⟨3600, "CET"⟩, ⟨7200, "CEST"⟩, ⟨10800, "CEMT"⟩]
    [(-2422054408, 1), (-1693706400, 2), (-1680483600, 1), (-1663455600, 2), (-1650150000, 1),
      (-1632006000, 2), (-1618700400, 1), (-938905200, 2), (-857257200, 1), (-844556400, 2),
      (-828226800, 1), (-812502000, 2), (-796777200, 1), (-781052400, 2), (-776563200, 3),
      (-765936000, 2), (-761180400, 1), (-748479600, 2), (-733273200, 1), (-717631200, 2),
      (-714610800, 3), (-710380800, 2), (-701910000, 1), (-684975600, 2), (-670460400, 1),
      (-654130800, 2), (-639010800, 1), (323830800, 2), (338950800, 1), (354675600, 2),
      (370400400, 1), (386125200, 2), (401850000, 1), (417574800, 2), (433299600, 1),
      (449024400, 2), (465354000, 1), (481078800, 2), (496803600, 1), (512528400, 2),
      (528253200, 1), (543978000, 2), (559702800, 1), (575427600, 2), (591152400, 1),
      (606877200, 2), (622602000, 1), (638326800, 2), (654656400, 1), (670381200, 2),
      (686106000, 1), (701830800, 2), (717555600, 1), (733280400, 2), (749005200, 1),
      (764730000, 2), (780454800, 1), (796179600, 2), (811904400, 1), (828234000, 2),
      (846378000, 1), (859683600, 2), (877827600, 1), (891133200, 2), (909277200, 1),
      (922582800, 2), (941331600, 1), (954032400, 2), (972781200, 1), (985482000, 2),
      (1004230800, 1), (1017536400, 2), (1035680400, 1), (1048986000, 2), (1067130000, 1),
      (1080435600, 2), (1099184400, 1), (1111885200, 2), (1130634000, 1), (1143334800, 2),
      (1162083600, 1), (1174784400, 2), (1193533200, 1), (1206838800, 2), (1224982800, 1),
      (1238288400, 2), (1256432400, 1), (1269738000, 2), (1288486800, 1), (1301187600, 2),
      (1319936400, 1), (1332637200, 2), (1351386000, 1), (1364691600, 2), (1382835600, 1),
      (1396141200, 2), (1414285200, 1), (1427590800, 2), (1445734800, 1), (1459040400, 2),
      (1477789200, 1), (1490490000, 2), (1509238800, 1), (1521939600, 2), (1540688400, 1),
      (1553994000, 2), (1572138000, 1), (1585443600, 2), (1603587600, 1), (1616893200, 2),
      (1635642000, 1), (1648342800, 2), (1667091600, 1), (1679792400, 2), (1698541200, 1),
      (1711846800, 2), (1729990800, 1), (1743296400, 2), (1761440400, 1), (1774746000, 2),
      (1792890000, 1), (1806195600, 2), (1824944400, 1), (1837645200, 2), (1856394000, 1),
      (1869094800, 2), (1887843600, 1), (1901149200, 2), (1919293200, 1), (1932598800, 2),
      (1950742800, 1), (1964048400, 2), (1982797200, 1), (1995498000, 2), (2014246800, 1),
      (2026947600, 2), (2045696400, 1), (2058397200, 2), (2077146000, 1), (2090451600, 2),
      (2108595600, 1), (2121901200, 2), (2140045200, 1), (2153350800, 2), (2172099600, 1),
      (2184800400, 2), (2203549200, 1), (2216250000, 2), (2234998800, 1), (2248304400, 2),
      (2266448400, 1), (2279754000, 2), (2297898000, 1), (2311203600, 2), (2329347600, 1),
      (2342653200, 2), (2361402000, 1), (2374102800, 2), (2392851600, 1), (2405552400, 2),
      (2424301200, 1), (2437606800, 2), (2455750800, 1), (2469056400, 2), (2487200400, 1),
      (2500506000, 2), (2519254800, 1), (2531955600, 2), (2550704400, 1), (2563405200, 2),
      (2582154000, 1), (2595459600, 2), (2613603600, 1), (2626909200, 2), (2645053200, 1),
      (2658358800, 2), (2676502800, 1), (2689808400, 2), (2708557200, 1), (2721258000, 2),
      (2740006800, 1), (2752707600, 2), (2771456400, 1), (2784762000, 2), (2802906000, 1),
      (2816211600, 2), (2834355600, 1), (2847661200, 2), (2866410000, 1), (2879110800, 2),
      (2897859600, 1), (2910560400, 2), (2929309200, 1), (2942010000, 2), (2960758800, 1),
      (2974064400, 2), (2992208400, 1), (3005514000, 2), (3023658000, 1), (3036963600, 2),
      (3055712400, 1), (3068413200, 2), (3087162000, 1), (3099862800, 2), (3118611600, 1),
      (3131917200, 2), (3150061200, 1), (3163366800, 2), (3181510800, 1), (3194816400, 2),
      (3212960400, 1), (3226266000, 2), (3245014800, 1), (3257715600, 2), (3276464400, 1),
      (3289165200, 2), (3307914000, 1), (3321219600, 2), (3339363600, 1), (3352669200, 2),
      (3370813200, 1), (3384118800, 2), (3402867600, 1), (3415568400, 2), (3434317200, 1),
      (3447018000, 2), (3465766800, 1), (3479072400, 2), (3497216400, 1), (3510522000, 2),
      (3528666000, 1), (3541971600, 2), (3560115600, 1), (3573421200, 2), (3592170000, 1),
      (3604870800, 2), (3623619600, 1), (3636320400, 2), (3655069200, 1), (3668374800, 2),
      (3686518800, 1), (3699824400, 2), (3717968400, 1), (3731274000, 2), (3750022800, 1),
      (3762723600, 2), (3781472400, 1), (3794173200, 2), (3812922000, 1), (3825622800, 2),
      (3844371600, 1), (3857677200, 2), (3875821200, 1), (3889126800, 2), (3907270800, 1),
      (3920576400, 2), (3939325200, 1), (3952026000, 2), (3970774800, 1), (3983475600, 2),
      (4002224400, 1), (4015530000, 2), (4033674000, 1), (4046979600, 2), (4065123600, 1),
      (4078429200, 2), (4096573200, 1)]
    (by decide +kernel)

/-- `Europe/Kyiv`. -/
def kyiv : Zone :=
  Zone.ofTable "Europe/Kyiv"
    [⟨7324, "LMT"⟩, ⟨7324, "KMT"⟩, ⟨7200, "EET"⟩, ⟨10800, "MSK"⟩, ⟨7200, "CEST"⟩, ⟨3600, "CET"⟩,
      ⟨14400, "MSD"⟩, ⟨10800, "EEST"⟩]
    [(-2840148124, 1), (-1441159324, 2), (-1247536800, 3), (-892522800, 4), (-857257200, 5),
      (-844556400, 4), (-828226800, 5), (-825382800, 3), (354920400, 6), (370728000, 3),
      (386456400, 6), (402264000, 3), (417992400, 6), (433800000, 3), (449614800, 6),
      (465346800, 3), (481071600, 6), (496796400, 3), (512521200, 6), (528246000, 3),
      (543970800, 6), (559695600, 3), (575420400, 6), (591145200, 3), (606870000, 6),
      (622594800, 3), (638319600, 6), (646783200, 7), (686102400, 2), (701827200, 7),
      (717552000, 2), (733276800, 7), (749001600, 2), (764726400, 7), (780451200, 2),
      (796176000, 7), (811900800, 2), (828230400, 7), (846378000, 2), (859683600, 7),
      (877827600, 2), (891133200, 7), (909277200, 2), (922582800, 7), (941331600, 2),
      (954032400, 7), (972781200, 2), (985482000, 7), (1004230800, 2), (1017536400, 7),
      (1035680400, 2), (1048986000, 7), (1067130000, 2), (1080435600, 7), (1099184400, 2),
      (1111885200, 7), (1130634000, 2), (1143334800, 7), (1162083600, 2), (1174784400, 7),
      (1193533200, 2), (1206838800, 7), (1224982800, 2), (1238288400, 7), (1256432400, 2),
      (1269738000, 7), (1288486800, 2), (1301187600, 7), (1319936400, 2), (1332637200, 7),
      (1351386000, 2), (1364691600, 7), (1382835600, 2), (1396141200, 7), (1414285200, 2),
      (1427590800, 7), (1445734800, 2), (1459040400, 7), (1477789200, 2), (1490490000, 7),
      (1509238800, 2), (1521939600, 7), (1540688400, 2), (1553994000, 7), (1572138000, 2),
      (1585443600, 7), (1603587600, 2), (1616893200, 7), (1635642000, 2), (1648342800, 7),
      (1667091600, 2), (1679792400, 7), (1698541200, 2), (1711846800, 7), (1729990800, 2),
      (1743296400, 7), (1761440400, 2), (1774746000, 7), (1792890000, 2), (1806195600, 7),
      (1824944400, 2), (1837645200, 7), (1856394000, 2), (1869094800, 7), (1887843600, 2),
      (1901149200, 7), (1919293200, 2), (1932598800, 7), (1950742800, 2), (1964048400, 7),
      (1982797200, 2), (1995498000, 7), (2014246800, 2), (2026947600, 7), (2045696400, 2),
      (2058397200, 7), (2077146000, 2), (2090451600, 7), (2108595600, 2), (2121901200, 7),
      (2140045200, 2), (2153350800, 7), (2172099600, 2), (2184800400, 7), (2203549200, 2),
      (2216250000, 7), (2234998800, 2), (2248304400, 7), (2266448400, 2), (2279754000, 7),
      (2297898000, 2), (2311203600, 7), (2329347600, 2), (2342653200, 7), (2361402000, 2),
      (2374102800, 7), (2392851600, 2), (2405552400, 7), (2424301200, 2), (2437606800, 7),
      (2455750800, 2), (2469056400, 7), (2487200400, 2), (2500506000, 7), (2519254800, 2),
      (2531955600, 7), (2550704400, 2), (2563405200, 7), (2582154000, 2), (2595459600, 7),
      (2613603600, 2), (2626909200, 7), (2645053200, 2), (2658358800, 7), (2676502800, 2),
      (2689808400, 7), (2708557200, 2), (2721258000, 7), (2740006800, 2), (2752707600, 7),
      (2771456400, 2), (2784762000, 7), (2802906000, 2), (2816211600, 7), (2834355600, 2),
      (2847661200, 7), (2866410000, 2), (2879110800, 7), (2897859600, 2), (2910560400, 7),
      (2929309200, 2), (2942010000, 7), (2960758800, 2), (2974064400, 7), (2992208400, 2),
      (3005514000, 7), (3023658000, 2), (3036963600, 7), (3055712400, 2), (3068413200, 7),
      (3087162000, 2), (3099862800, 7), (3118611600, 2), (3131917200, 7), (3150061200, 2),
      (3163366800, 7), (3181510800, 2), (3194816400, 7), (3212960400, 2), (3226266000, 7),
      (3245014800, 2), (3257715600, 7), (3276464400, 2), (3289165200, 7), (3307914000, 2),
      (3321219600, 7), (3339363600, 2), (3352669200, 7), (3370813200, 2), (3384118800, 7),
      (3402867600, 2), (3415568400, 7), (3434317200, 2), (3447018000, 7), (3465766800, 2),
      (3479072400, 7), (3497216400, 2), (3510522000, 7), (3528666000, 2), (3541971600, 7),
      (3560115600, 2), (3573421200, 7), (3592170000, 2), (3604870800, 7), (3623619600, 2),
      (3636320400, 7), (3655069200, 2), (3668374800, 7), (3686518800, 2), (3699824400, 7),
      (3717968400, 2), (3731274000, 7), (3750022800, 2), (3762723600, 7), (3781472400, 2),
      (3794173200, 7), (3812922000, 2), (3825622800, 7), (3844371600, 2), (3857677200, 7),
      (3875821200, 2), (3889126800, 7), (3907270800, 2), (3920576400, 7), (3939325200, 2),
      (3952026000, 7), (3970774800, 2), (3983475600, 7), (4002224400, 2), (4015530000, 7),
      (4033674000, 2), (4046979600, 7), (4065123600, 2), (4078429200, 7), (4096573200, 2)]
    (by decide +kernel)

end CronCalendar.Zone
