import CronCalendar.Zone.Basic

/-!
# Time zones of Asia

Each table lists the local types of a zone and, for each of its transitions, the second since
1970 at which it happens and the number of the local type that holds from then on.
-/

namespace CronCalendar.Zone
set_option autoImplicit false
set_option maxRecDepth 8000

/-- `Asia/Tokyo`. -/
def tokyo : Zone :=
  Zone.ofTable "Asia/Tokyo"
    [⟨33539, "LMT"⟩, ⟨32400, "JST"⟩, ⟨36000, "JDT"⟩]
    [(-2587712400, 1), (-683802000, 2), (-672310800, 1), (-654771600, 2), (-640861200, 1),
      (-620298000, 2), (-609411600, 1), (-588848400, 2), (-577962000, 1)]
    (by decide +kernel)

/-- `Asia/Kolkata`. -/
def kolkata : Zone :=
  Zone.ofTable "Asia/Kolkata"
    [⟨21208, "LMT"⟩, ⟨21200, "HMT"⟩, ⟨19270, "MMT"⟩, ⟨19800, "IST"⟩, ⟨23400, "+0630"⟩]
    [(-3645237208, 1), (-3155694800, 2), (-2019705670, 3), (-891581400, 4), (-872058600, 3),
      (-862637400, 4), (-764145000, 3)]
    (by decide +kernel)

/-- `Asia/Kathmandu`. -/
def kathmandu : Zone :=
  Zone.ofTable "Asia/Kathmandu"
    [⟨20476, "LMT"⟩, ⟨19800, "+0530"⟩, ⟨20700, "+0545"⟩]
    [(-1577943676, 1), (504901800, 2)]
    (by decide +kernel)

/-- `Asia/Tehran`. -/
def tehran : Zone :=
  Zone.ofTable "Asia/Tehran"
    [⟨12344, "LMT"⟩, ⟨12344, "TMT"⟩, ⟨12600, "+0330"⟩, ⟨16200, "+0430"⟩, ⟨14400, "+04"⟩, ⟨18000, "+05"⟩]
    [(-1704165944, 1), (-1090466744, 2), (227820600, 3), (246223800, 4), (259617600, 5),
      (271108800, 4), (279576000, 2), (296598600, 3), (306531000, 2), (322432200, 3),
      (338499000, 2), (673216200, 3), (685481400, 2), (701209800, 3), (717103800, 2),
      (732745800, 3), (748639800, 2), (764281800, 3), (780175800, 2), (795817800, 3),
      (811711800, 2), (827353800, 3), (843247800, 2), (858976200, 3), (874870200, 2),
      (890512200, 3), (906406200, 2), (922048200, 3), (937942200, 2), (953584200, 3),
      (969478200, 2), (985206600, 3), (1001100600, 2), (1016742600, 3), (1032636600, 2),
      (1048278600, 3), (1064172600, 2), (1079814600, 3), (1095708600, 2), (1111437000, 3),
      (1127331000, 2), (1206045000, 3), (1221939000, 2), (1237667400, 3), (1253561400, 2),
      (1269203400, 3), (1285097400, 2), (1300739400, 3), (1316633400, 2), (1332275400, 3),
      (1348169400, 2), (1363897800, 3), (1379791800, 2), (1395433800, 3), (1411327800, 2),
      (1426969800, 3), (1442863800, 2), (1458505800, 3), (1474399800, 2), (1490128200, 3),
      (1506022200, 2), (1521664200, 3), (1537558200, 2), (1553200200, 3), (1569094200, 2),
      (1584736200, 3), (1600630200, 2), (1616358600, 3), (1632252600, 2), (1647894600, 3),
      (1663788600, 2)]
    (by decide +kernel)

/-- `Asia/Beirut`. -/
def beirut : Zone :=
  Zone.ofTable "Asia/Beirut"
    [⟨8520, "LMT"⟩, ⟨7200, "EET"⟩, ⟨10800, "EEST"⟩]
    [(-2840149320, 1), (-1570413600, 2), (-1552186800, 1), (-1538359200, 2), (-1522551600, 1),
      (-1507514400, 2), (-1490583600, 1), (-1473645600, 2), (-1460948400, 1), (-399866400, 2),
      (-386650800, 1), (-368330400, 2), (-355114800, 1), (-336794400, 2), (-323578800, 1),
      (-305172000, 2), (-291956400, 1), (-273636000, 2), (-260420400, 1), (78012000, 2),
      (86734800, 1), (105055200, 2), (118270800, 1), (136591200, 2), (149806800, 1), (168127200, 2),
      (181342800, 1), (199749600, 2), (212965200, 1), (231285600, 2), (244501200, 1),
      (262735200, 2), (275950800, 1), (452210400, 2), (466722000, 1), (483746400, 2),
      (498258000, 1), (515282400, 2), (529794000, 1), (546818400, 2), (561330000, 1),
      (581119200, 2), (592952400, 1), (610754400, 2), (624488400, 1), (641512800, 2),
      (656024400, 1), (673048800, 2), (687560400, 1), (704671200, 2), (718146000, 1),
      (733269600, 2), (748990800, 1), (764719200, 2), (780440400, 1), (796168800, 2),
      (811890000, 1), (828223200, 2), (843944400, 1), (859672800, 2), (875394000, 1),
      (891122400, 2), (906843600, 1), (922572000, 2), (941317200, 1), (954021600, 2),
      (972766800, 1), (985471200, 2), (1004216400, 1), (1017525600, 2), (1035666000, 1),
      (1048975200, 2), (1067115600, 1), (1080424800, 2), (1099170000, 1), (1111874400, 2),
      (1130619600, 1), (1143324000, 2), (1162069200, 1), (1174773600, 2), (1193518800, 1),
      (1206828000, 2), (1224968400, 1), (1238277600, 2), (1256418000, 1), (1269727200, 2),
      (1288472400, 1), (1301176800, 2), (1319922000, 1), (1332626400, 2), (1351371600, 1),
      (1364680800, 2), (1382821200, 1), (1396130400, 2), (1414270800, 1), (1427580000, 2),
      (1445720400, 1), (1459029600, 2), (1477774800, 1), (1490479200, 2), (1509224400, 1),
      (1521928800, 2), (1540674000, 1), (1553983200, 2), (1572123600, 1), (1585432800, 2),
      (1603573200, 1), (1616882400, 2), (1635627600, 1), (1648332000, 2), (1667077200, 1),
      (1679781600, 2), (1698526800, 1), (1711836000, 2), (1729976400, 1), (1743285600, 2),
      (1761426000, 1), (1774735200, 2), (1792875600, 1), (1806184800, 2), (1824930000, 1),
      (1837634400, 2), (1856379600, 1), (1869084000, 2), (1887829200, 1), (1901138400, 2),
      (1919278800, 1), (1932588000, 2), (1950728400, 1), (1964037600, 2), (1982782800, 1),
      (1995487200, 2), (2014232400, 1), (2026936800, 2), (2045682000, 1), (2058386400, 2),
      (2077131600, 1), (2090440800, 2), (2108581200, 1), (2121890400, 2), (2140030800, 1),
      (2153340000, 2), (2172085200, 1), (2184789600, 2), (2203534800, 1), (2216239200, 2),
      (2234984400, 1), (2248293600, 2), (2266434000, 1), (2279743200, 2), (2297883600, 1),
      (2311192800, 2), (2329333200, 1), (2342642400, 2), (2361387600, 1), (2374092000, 2),
      (2392837200, 1), (2405541600, 2), (2424286800, 1), (2437596000, 2), (2455736400, 1),
      (2469045600, 2), (2487186000, 1), (2500495200, 2), (2519240400, 1), (2531944800, 2),
      (2550690000, 1), (2563394400, 2), (2582139600, 1), (2595448800, 2), (2613589200, 1),
      (2626898400, 2), (2645038800, 1), (2658348000, 2), (2676488400, 1), (2689797600, 2),
      (2708542800, 1), (2721247200, 2), (2739992400, 1), (2752696800, 2), (2771442000, 1),
      (2784751200, 2), (2802891600, 1), (2816200800, 2), (2834341200, 1), (2847650400, 2),
      (2866395600, 1), (2879100000, 2), (2897845200, 1), (2910549600, 2), (2929294800, 1),
      (2941999200, 2), (2960744400, 1), (2974053600, 2), (2992194000, 1), (3005503200, 2),
      (3023643600, 1), (3036952800, 2), (3055698000, 1), (3068402400, 2), (3087147600, 1),
      (3099852000, 2), (3118597200, 1), (3131906400, 2), (3150046800, 1), (3163356000, 2),
      (3181496400, 1), (3194805600, 2), (3212946000, 1), (3226255200, 2), (3245000400, 1),
      (3257704800, 2), (3276450000, 1), (3289154400, 2), (3307899600, 1), (3321208800, 2),
      (3339349200, 1), (3352658400, 2), (3370798800, 1), (3384108000, 2), (3402853200, 1),
      (3415557600, 2), (3434302800, 1), (3447007200, 2), (3465752400, 1), (3479061600, 2),
      (3497202000, 1), (3510511200, 2), (3528651600, 1), (3541960800, 2), (3560101200, 1),
      (3573410400, 2), (3592155600, 1), (3604860000, 2), (3623605200, 1), (3636309600, 2),
      (3655054800, 1), (3668364000, 2), (3686504400, 1), (3699813600, 2), (3717954000, 1),
      (3731263200, 2), (3750008400, 1), (3762712800, 2), (3781458000, 1), (3794162400, 2),
      (3812907600, 1), (3825612000, 2), (3844357200, 1), (3857666400, 2), (3875806800, 1),
      (3889116000, 2), (3907256400, 1), (3920565600, 2), (3939310800, 1), (3952015200, 2),
      (3970760400, 1), (3983464800, 2), (4002210000, 1), (4015519200, 2), (4033659600, 1),
      (4046968800, 2), (4065109200, 1), (4078418400, 2), (4096558800, 1)]
    (by decide +kernel)

/-- `Asia/Manila`. -/
def manila : Zone :=
  Zone.ofTable "Asia/Manila"
    [⟨-57368, "LMT"⟩, ⟨29032, "LMT"⟩, ⟨28800, "PST"⟩, ⟨32400, "PDT"⟩, ⟨32400, "JST"⟩]
    [(-3944621032, 1), (-2219083200, 2), (-1046678400, 3), (-1040115600, 2), (-885024000, 3),
      (-880016400, 4), (-783594000, 3), (-760093200, 2), (-496224000, 3), (-491562000, 2),
      (228326400, 3), (243702000, 2), (643219200, 3), (649177200, 2)]
    (by decide +kernel)

end CronCalendar.Zone
