import CronCalendar.Zone.Basic

/-!
# Time zones of America

Each table lists the local types of a zone and, for each of its transitions, the second since
1970 at which it happens and the number of the local type that holds from then on.
-/

namespace CronCalendar.Zone
set_option autoImplicit false
set_option maxRecDepth 8000

/-- `EST`. -/
def est : Zone :=
  Zone.ofTable "EST"
    [⟨-19088, "LMT"⟩, ⟨-19176, "CMT"⟩, ⟨-18000, "EST"⟩]
    [(-2524502512, 1), (-1946918424, 2)]
    (by decide +kernel)

/-- `America/New_York`. -/
def newYork : Zone :=
  Zone.ofTable "America/New_York"
    [⟨-17762, "LMT"⟩, ⟨-18000, "EST"⟩, ⟨-14400, "EDT"⟩, ⟨-14400, "EWT"⟩, ⟨-14400, "EPT"⟩]
    [(-2717650800, 1), (-1633280400, 2), (-1615140000, 1), (-1601830800, 2), (-1583690400, 1),
      (-1570381200, 2), (-1551636000, 1), (-1536512400, 2), (-1523210400, 1), (-1504458000, 2),
      (-1491760800, 1), (-1473008400, 2), (-1459706400, 1), (-1441558800, 2), (-1428256800, 1),
      (-1410109200, 2), (-1396807200, 1), (-1378659600, 2), (-1365357600, 1), (-1347210000, 2),
      (-1333908000, 1), (-1315155600, 2), (-1301853600, 1), (-1283706000, 2), (-1270404000, 1),
      (-1252256400, 2), (-1238954400, 1), (-1220806800, 2), (-1207504800, 1), (-1189357200, 2),
      (-1176055200, 1), (-1157302800, 2), (-1144605600, 1), (-1125853200, 2), (-1112551200, 1),
      (-1094403600, 2), (-1081101600, 1), (-1062954000, 2), (-1049652000, 1), (-1031504400, 2),
      (-1018202400, 1), (-1000054800, 2), (-986752800, 1), (-968000400, 2), (-955303200, 1),
      (-936550800, 2), (-923248800, 1), (-905101200, 2), (-891799200, 1), (-880218000, 3),
      (-769395600, 4), (-765396000, 1), (-747248400, 2), (-733946400, 1), (-715798800, 2),
      (-702496800, 1), (-684349200, 2), (-671047200, 1), (-652899600, 2), (-639597600, 1),
      (-620845200, 2), (-608148000, 1), (-589395600, 2), (-576093600, 1), (-557946000, 2),
      (-544644000, 1), (-526496400, 2), (-513194400, 1), (-495046800, 2), (-481744800, 1),
      (-463597200, 2), (-447271200, 1), (-431542800, 2), (-415821600, 1), (-400093200, 2),
      (-384372000, 1), (-368643600, 2), (-352922400, 1), (-337194000, 2), (-321472800, 1),
      (-305744400, 2), (-289418400, 1), (-273690000, 2), (-257968800, 1), (-242240400, 2),
      (-226519200, 1), (-210790800, 2), (-195069600, 1), (-179341200, 2), (-163620000, 1),
      (-147891600, 2), (-131565600, 1), (-116442000, 2), (-100116000, 1), (-84387600, 2),
      (-68666400, 1), (-52938000, 2), (-37216800, 1), (-21488400, 2), (-5767200, 1), (9961200, 2),
      (25682400, 1), (41410800, 2), (57736800, 1), (73465200, 2), (89186400, 1), (104914800, 2),
      (120636000, 1), (126687600, 2), (152085600, 1), (162370800, 2), (183535200, 1),
      (199263600, 2), (215589600, 1), (230713200, 2), (247039200, 1), (262767600, 2),
      (278488800, 1), (294217200, 2), (309938400, 1), (325666800, 2), (341388000, 1),
      (357116400, 2), (372837600, 1), (388566000, 2), (404892000, 1), (420015600, 2),
      (436341600, 1), (452070000, 2), (467791200, 1), (483519600, 2), (499240800, 1),
      (514969200, 2), (530690400, 1), (544604400, 2), (562140000, 1), (576054000, 2),
      (594194400, 1), (607503600, 2), (625644000, 1), (638953200, 2), (657093600, 1),
      (671007600, 2), (688543200, 1), (702457200, 2), (719992800, 1), (733906800, 2),
      (752047200, 1), (765356400, 2), (783496800, 1), (796806000, 2), (814946400, 1),
      (828860400, 2), (846396000, 1), (860310000, 2), (877845600, 1), (891759600, 2),
      (909295200, 1), (923209200, 2), (941349600, 1), (954658800, 2), (972799200, 1),
      (986108400, 2), (1004248800, 1), (1018162800, 2), (1035698400, 1), (1049612400, 2),
      (1067148000, 1), (1081062000, 2), (1099202400, 1), (1112511600, 2), (1130652000, 1),
      (1143961200, 2), (1162101600, 1), (1173596400, 2), (1194156000, 1), (1205046000, 2),
      (1225605600, 1), (1236495600, 2), (1257055200, 1), (1268550000, 2), (1289109600, 1),
      (1299999600, 2), (1320559200, 1), (1331449200, 2), (1352008800, 1), (1362898800, 2),
      (1383458400, 1), (1394348400, 2), (1414908000, 1), (1425798000, 2), (1446357600, 1),
      (1457852400, 2), (1478412000, 1), (1489302000, 2), (1509861600, 1), (1520751600, 2),
      (1541311200, 1), (1552201200, 2), (1572760800, 1), (1583650800, 2), (1604210400, 1),
      (1615705200, 2), (1636264800, 1), (1647154800, 2), (1667714400, 1), (1678604400, 2),
      (1699164000, 1), (1710054000, 2), (1730613600, 1), (1741503600, 2), (1762063200, 1),
      (1772953200, 2), (1793512800, 1), (1805007600, 2), (1825567200, 1), (1836457200, 2),
      (1857016800, 1), (1867906800, 2), (1888466400, 1), (1899356400, 2), (1919916000, 1),
      (1930806000, 2), (1951365600, 1), (1962860400, 2), (1983420000, 1), (1994310000, 2),
      (2014869600, 1), (2025759600, 2), (2046319200, 1), (2057209200, 2), (2077768800, 1),
      (2088658800, 2), (2109218400, 1), (2120108400, 2), (2140668000, 1), (2152162800, 2),
      (2172722400, 1), (2183612400, 2), (2204172000, 1), (2215062000, 2), (2235621600, 1),
      (2246511600, 2), (2267071200, 1), (2277961200, 2), (2298520800, 1), (2309410800, 2),
      (2329970400, 1), (2341465200, 2), (2362024800, 1), (2372914800, 2), (2393474400, 1),
      (2404364400, 2), (2424924000, 1), (2435814000, 2), (2456373600, 1), (2467263600, 2),
      (2487823200, 1), (2499318000, 2), (2519877600, 1), (2530767600, 2), (2551327200, 1),
      (2562217200, 2), (2582776800, 1), (2593666800, 2), (2614226400, 1), (2625116400, 2),
      (2645676000, 1), (2656566000, 2), (2677125600, 1), (2688620400, 2), (2709180000, 1),
      (2720070000, 2), (2740629600, 1), (2751519600, 2), (2772079200, 1), (2782969200, 2),
      (2803528800, 1), (2814418800, 2), (2834978400, 1), (2846473200, 2), (2867032800, 1),
      (2877922800, 2), (2898482400, 1), (2909372400, 2), (2929932000, 1), (2940822000, 2),
      (2961381600, 1), (2972271600, 2), (2992831200, 1), (3003721200, 2), (3024280800, 1),
      (3035775600, 2), (3056335200, 1), (3067225200, 2), (3087784800, 1), (3098674800, 2),
      (3119234400, 1), (3130124400, 2), (3150684000, 1), (3161574000, 2), (3182133600, 1),
      (3193023600, 2), (3213583200, 1), (3225078000, 2), (3245637600, 1), (3256527600, 2),
      (3277087200, 1), (3287977200, 2), (3308536800, 1), (3319426800, 2), (3339986400, 1),
      (3350876400, 2), (3371436000, 1), (3382930800, 2), (3403490400, 1), (3414380400, 2),
      (3434940000, 1), (3445830000, 2), (3466389600, 1), (3477279600, 2), (3497839200, 1),
      (3508729200, 2), (3529288800, 1), (3540178800, 2), (3560738400, 1), (3572233200, 2),
      (3592792800, 1), (3603682800, 2), (3624242400, 1), (3635132400, 2), (3655692000, 1),
      (3666582000, 2), (3687141600, 1), (3698031600, 2), (3718591200, 1), (3730086000, 2),
      (3750645600, 1), (3761535600, 2), (3782095200, 1), (3792985200, 2), (3813544800, 1),
      (3824434800, 2), (3844994400, 1), (3855884400, 2), (3876444000, 1), (3887334000, 2),
      (3907893600, 1), (3919388400, 2), (3939948000, 1), (3950838000, 2), (3971397600, 1),
      (3982287600, 2), (4002847200, 1), (4013737200, 2), (4034296800, 1), (4045186800, 2),
      (4065746400, 1), (4076636400, 2), (4097196000, 1)]
    (by decide +kernel)

/-- `America/Toronto`. -/
def toronto : Zone :=
  Zone.ofTable "America/Toronto"
    [⟨-19052, "LMT"⟩, ⟨-18000, "EST"⟩, ⟨-14400, "EDT"⟩, ⟨-14400, "EWT"⟩, ⟨-14400, "EPT"⟩]
    [(-2366736148, 1), (-1632070800, 2), (-1615140000, 1), (-1601753400, 2), (-1583697600, 1),
      (-1567357200, 2), (-1554667200, 1), (-1534698000, 2), (-1524074400, 1), (-1503248400, 2),
      (-1492365600, 1), (-1471798800, 2), (-1460916000, 1), (-1440954000, 2), (-1428861600, 1),
      (-1409504400, 2), (-1397412000, 1), (-1378054800, 2), (-1365962400, 1), (-1346605200, 2),
      (-1333908000, 1), (-1315155600, 2), (-1301853600, 1), (-1283706000, 2), (-1270404000, 1),
      (-1252256400, 2), (-1238954400, 1), (-1220806800, 2), (-1207504800, 1), (-1188752400, 2),
      (-1176055200, 1), (-1157302800, 2), (-1144000800, 1), (-1125853200, 2), (-1112551200, 1),
      (-1094403600, 2), (-1081101600, 1), (-1062954000, 2), (-1049652000, 1), (-1031504400, 2),
      (-1018202400, 1), (-1000054800, 2), (-986752800, 1), (-968000400, 2), (-955303200, 1),
      (-936550800, 2), (-880218000, 3), (-769395600, 4), (-765396000, 1), (-747248400, 2),
      (-733946400, 1), (-715798800, 2), (-702496800, 1), (-684349200, 2), (-671047200, 1),
      (-652899600, 2), (-634154400, 1), (-620845200, 2), (-602704800, 1), (-589395600, 2),
      (-576093600, 1), (-557946000, 2), (-544644000, 1), (-526496400, 2), (-513194400, 1),
      (-495046800, 2), (-481744800, 1), (-463597200, 2), (-450295200, 1), (-431542800, 2),
      (-418240800, 1), (-400093200, 2), (-384372000, 1), (-368643600, 2), (-352922400, 1),
      (-337194000, 2), (-321472800, 1), (-305744400, 2), (-289418400, 1), (-273690000, 2),
      (-257968800, 1), (-242240400, 2), (-226519200, 1), (-210790800, 2), (-195069600, 1),
      (-179341200, 2), (-163620000, 1), (-147891600, 2), (-131565600, 1), (-116442000, 2),
      (-100116000, 1), (-84387600, 2), (-68666400, 1), (-52938000, 2), (-37216800, 1),
      (-21488400, 2), (-5767200, 1), (9961200, 2), (25682400, 1), (41410800, 2), (57736800, 1),
      (73465200, 2), (89186400, 1), (104914800, 2), (120636000, 1), (136364400, 2),
      (152085600, 1), (167814000, 2), (183535200, 1), (199263600, 2), (215589600, 1),
      (230713200, 2), (247039200, 1), (262767600, 2), (278488800, 1), (294217200, 2),
      (309938400, 1), (325666800, 2), (341388000, 1), (357116400, 2), (372837600, 1),
      (388566000, 2), (404892000, 1), (420015600, 2), (436341600, 1), (452070000, 2),
      (467791200, 1), (483519600, 2), (499240800, 1), (514969200, 2), (530690400, 1),
      (544604400, 2), (562140000, 1), (576054000, 2), (594194400, 1), (607503600, 2),
      (625644000, 1), (638953200, 2), (657093600, 1), (671007600, 2), (688543200, 1),
      (702457200, 2), (719992800, 1), (733906800, 2), (752047200, 1), (765356400, 2),
      (783496800, 1), (796806000, 2), (814946400, 1), (828860400, 2), (846396000, 1),
      (860310000, 2), (877845600, 1), (891759600, 2), (909295200, 1), (923209200, 2),
      (941349600, 1), (954658800, 2), (972799200, 1), (986108400, 2), (1004248800, 1),
      (1018162800, 2), (1035698400, 1), (1049612400, 2), (1067148000, 1), (1081062000, 2),
      (1099202400, 1), (1112511600, 2), (1130652000, 1), (1143961200, 2), (1162101600, 1),
      (1173596400, 2), (1194156000, 1), (1205046000, 2), (1225605600, 1), (1236495600, 2),
      (1257055200, 1), (1268550000, 2), (1289109600, 1), (1299999600, 2), (1320559200, 1),
      (1331449200, 2), (1352008800, 1), (1362898800, 2), (1383458400, 1), (1394348400, 2),
      (1414908000, 1), (1425798000, 2), (1446357600, 1), (1457852400, 2), (1478412000, 1),
      (1489302000, 2), (1509861600, 1), (1520751600, 2), (1541311200, 1), (1552201200, 2),
      (1572760800, 1), (1583650800, 2), (1604210400, 1), (1615705200, 2), (1636264800, 1),
      (1647154800, 2), (1667714400, 1), (1678604400, 2), (1699164000, 1), (1710054000, 2),
      (1730613600, 1), (1741503600, 2), (1762063200, 1), (1772953200, 2), (1793512800, 1),
      (1805007600, 2), (1825567200, 1), (1836457200, 2), (1857016800, 1), (1867906800, 2),
      (1888466400, 1), (1899356400, 2), (1919916000, 1), (1930806000, 2), (1951365600, 1),
      (1962860400, 2), (1983420000, 1), (1994310000, 2), (2014869600, 1), (2025759600, 2),
      (2046319200, 1), (2057209200, 2), (2077768800, 1), (2088658800, 2), (2109218400, 1),
      (2120108400, 2), (2140668000, 1), (2152162800, 2), (2172722400, 1), (2183612400, 2),
      (2204172000, 1), (2215062000, 2), (2235621600, 1), (2246511600, 2), (2267071200, 1),
      (2277961200, 2), (2298520800, 1), (2309410800, 2), (2329970400, 1), (2341465200, 2),
      (2362024800, 1), (2372914800, 2), (2393474400, 1), (2404364400, 2), (2424924000, 1),
      (2435814000, 2), (2456373600, 1), (2467263600, 2), (2487823200, 1), (2499318000, 2),
      (2519877600, 1), (2530767600, 2), (2551327200, 1), (2562217200, 2), (2582776800, 1),
      (2593666800, 2), (2614226400, 1), (2625116400, 2), (2645676000, 1), (2656566000, 2),
      (2677125600, 1), (2688620400, 2), (2709180000, 1), (2720070000, 2), (2740629600, 1),
      (2751519600, 2), (2772079200, 1), (2782969200, 2), (2803528800, 1), (2814418800, 2),
      (2834978400, 1), (2846473200, 2), (2867032800, 1), (2877922800, 2), (2898482400, 1),
      (2909372400, 2), (2929932000, 1), (2940822000, 2), (2961381600, 1), (2972271600, 2),
      (2992831200, 1), (3003721200, 2), (3024280800, 1), (3035775600, 2), (3056335200, 1),
      (3067225200, 2), (3087784800, 1), (3098674800, 2), (3119234400, 1), (3130124400, 2),
      (3150684000, 1), (3161574000, 2), (3182133600, 1), (3193023600, 2), (3213583200, 1),
      (3225078000, 2), (3245637600, 1), (3256527600, 2), (3277087200, 1), (3287977200, 2),
      (3308536800, 1), (3319426800, 2), (3339986400, 1), (3350876400, 2), (3371436000, 1),
      (3382930800, 2), (3403490400, 1), (3414380400, 2), (3434940000, 1), (3445830000, 2),
      (3466389600, 1), (3477279600, 2), (3497839200, 1), (3508729200, 2), (3529288800, 1),
      (3540178800, 2), (3560738400, 1), (3572233200, 2), (3592792800, 1), (3603682800, 2),
      (3624242400, 1), (3635132400, 2), (3655692000, 1), (3666582000, 2), (3687141600, 1),
      (3698031600, 2), (3718591200, 1), (3730086000, 2), (3750645600, 1), (3761535600, 2),
      (3782095200, 1), (3792985200, 2), (3813544800, 1), (3824434800, 2), (3844994400, 1),
      (3855884400, 2), (3876444000, 1), (3887334000, 2), (3907893600, 1), (3919388400, 2),
      (3939948000, 1), (3950838000, 2), (3971397600, 1), (3982287600, 2), (4002847200, 1),
      (4013737200, 2), (4034296800, 1), (4045186800, 2), (4065746400, 1), (4076636400, 2),
      (4097196000, 1)]
    (by decide +kernel)

/-- `America/St_Johns`. -/
def stJohns : Zone :=
  Zone.ofTable "America/St_Johns"
    [⟨-12652, "LMT"⟩, ⟨-12652, "NST"⟩, ⟨-9052, "NDT"⟩, ⟨-12600, "NST"⟩, ⟨-9000, "NDT"⟩, ⟨-9000, "NWT"⟩, ⟨-9000, "NPT"⟩, ⟨-5400, "NDDT"⟩]
    [(-2713897748, 1), (-1664130548, 2), (-1650137348, 1), (-1632076148, 2), (-1615145348, 1),
      (-1598650148, 2), (-1590100148, 1), (-1567286948, 2), (-1551565748, 1), (-1535837348, 2),
      (-1520116148, 1), (-1503782948, 2), (-1488666548, 1), (-1472333348, 2), (-1457216948, 1),
      (-1440883748, 2), (-1425767348, 1), (-1409434148, 2), (-1394317748, 1), (-1377984548, 2),
      (-1362263348, 1), (-1346534948, 2), (-1330813748, 1), (-1314480548, 2), (-1299364148, 1),
      (-1283030948, 2), (-1267914548, 1), (-1251581348, 2), (-1236464948, 1), (-1220131748, 2),
      (-1205015348, 1), (-1188682148, 2), (-1172960948, 1), (-1156627748, 2), (-1141511348, 1),
      (-1125178148, 2), (-1110061748, 1), (-1096921748, 3), (-1093728600, 4), (-1078612200, 3),
      (-1061670600, 4), (-1048973400, 3), (-1030221000, 4), (-1017523800, 3), (-998771400, 4),
      (-986074200, 3), (-966717000, 4), (-954624600, 3), (-935267400, 4), (-922570200, 3),
      (-903817800, 4), (-891120600, 3), (-872368200, 5), (-769395600, 6), (-765401400, 3),
      (-746044200, 4), (-733347000, 3), (-714594600, 4), (-701897400, 3), (-683145000, 4),
      (-670447800, 3), (-651695400, 4), (-638998200, 3), (-619641000, 4), (-606943800, 3),
      (-589401000, 4), (-576099000, 3), (-557951400, 4), (-544649400, 3), (-526501800, 4),
      (-513199800, 3), (-495052200, 4), (-481750200, 3), (-463602600, 4), (-450300600, 3),
      (-431548200, 4), (-418246200, 3), (-400098600, 4), (-386796600, 3), (-368649000, 4),
      (-355347000, 3), (-337199400, 4), (-323897400, 3), (-305749800, 4), (-289423800, 3),
      (-273695400, 4), (-257974200, 3), (-242245800, 4), (-226524600, 3), (-210796200, 4),
      (-195075000, 3), (-179346600, 4), (-163625400, 3), (-147897000, 4), (-131571000, 3),
      (-116447400, 4), (-100121400, 3), (-84393000, 4), (-68671800, 3), (-52943400, 4),
      (-37222200, 3), (-21493800, 4), (-5772600, 3), (9955800, 4), (25677000, 3), (41405400, 4),
      (57731400, 3), (73459800, 4), (89181000, 3), (104909400, 4), (120630600, 3), (136359000, 4),
      (152080200, 3), (167808600, 4), (183529800, 3), (199258200, 4), (215584200, 3),
      (230707800, 4), (247033800, 3), (262762200, 4), (278483400, 3), (294211800, 4),
      (309933000, 3), (325661400, 4), (341382600, 3), (357111000, 4), (372832200, 3),
      (388560600, 4), (404886600, 3), (420010200, 4), (436336200, 3), (452064600, 4),
      (467785800, 3), (483514200, 4), (499235400, 3), (514963800, 4), (530685000, 3),
      (544591860, 4), (562127460, 3), (576041460, 7), (594178260, 3), (607491060, 4),
      (625631460, 3), (638940660, 4), (657081060, 3), (670995060, 4), (688530660, 3),
      (702444660, 4), (719980260, 3), (733894260, 4), (752034660, 3), (765343860, 4),
      (783484260, 3), (796793460, 4), (814933860, 3), (828847860, 4), (846383460, 3),
      (860297460, 4), (877833060, 3), (891747060, 4), (909282660, 3), (923196660, 4),
      (941337060, 3), (954646260, 4), (972786660, 3), (986095860, 4), (1004236260, 3),
      (1018150260, 4), (1035685860, 3), (1049599860, 4), (1067135460, 3), (1081049460, 4),
      (1099189860, 3), (1112499060, 4), (1130639460, 3), (1143948660, 4), (1162089060, 3),
      (1173583860, 4), (1194143460, 3), (1205033460, 4), (1225593060, 3), (1236483060, 4),
      (1257042660, 3), (1268537460, 4), (1289097060, 3), (1299987060, 4), (1320553800, 3),
      (1331443800, 4), (1352003400, 3), (1362893400, 4), (1383453000, 3), (1394343000, 4),
      (1414902600, 3), (1425792600, 4), (1446352200, 3), (1457847000, 4), (1478406600, 3),
      (1489296600, 4), (1509856200, 3), (1520746200, 4), (1541305800, 3), (1552195800, 4),
      (1572755400, 3), (1583645400, 4), (1604205000, 3), (1615699800, 4), (1636259400, 3),
      (1647149400, 4), (1667709000, 3), (1678599000, 4), (1699158600, 3), (1710048600, 4),
      (1730608200, 3), (1741498200, 4), (1762057800, 3), (1772947800, 4), (1793507400, 3),
      (1805002200, 4), (1825561800, 3), (1836451800, 4), (1857011400, 3), (1867901400, 4),
      (1888461000, 3), (1899351000, 4), (1919910600, 3), (1930800600, 4), (1951360200, 3),
      (1962855000, 4), (1983414600, 3), (1994304600, 4), (2014864200, 3), (2025754200, 4),
      (2046313800, 3), (2057203800, 4), (2077763400, 3), (2088653400, 4), (2109213000, 3),
      (2120103000, 4), (2140662600, 3), (2152157400, 4), (2172717000, 3), (2183607000, 4),
      (2204166600, 3), (2215056600, 4), (2235616200, 3), (2246506200, 4), (2267065800, 3),
      (2277955800, 4), (2298515400, 3), (2309405400, 4), (2329965000, 3), (2341459800, 4),
      (2362019400, 3), (2372909400, 4), (2393469000, 3), (2404359000, 4), (2424918600, 3),
      (2435808600, 4), (2456368200, 3), (2467258200, 4), (2487817800, 3), (2499312600, 4),
      (2519872200, 3), (2530762200, 4), (2551321800, 3), (2562211800, 4), (2582771400, 3),
      (2593661400, 4), (2614221000, 3), (2625111000, 4), (2645670600, 3), (2656560600, 4),
      (2677120200, 3), (2688615000, 4), (2709174600, 3), (2720064600, 4), (2740624200, 3),
      (2751514200, 4), (2772073800, 3), (2782963800, 4), (2803523400, 3), (2814413400, 4),
      (2834973000, 3), (2846467800, 4), (2867027400, 3), (2877917400, 4), (2898477000, 3),
      (2909367000, 4), (2929926600, 3), (2940816600, 4), (2961376200, 3), (2972266200, 4),
      (2992825800, 3), (3003715800, 4), (3024275400, 3), (3035770200, 4), (3056329800, 3),
      (3067219800, 4), (3087779400, 3), (3098669400, 4), (3119229000, 3), (3130119000, 4),
      (3150678600, 3), (3161568600, 4), (3182128200, 3), (3193018200, 4), (3213577800, 3),
      (3225072600, 4), (3245632200, 3), (3256522200, 4), (3277081800, 3), (3287971800, 4),
      (3308531400, 3), (3319421400, 4), (3339981000, 3), (3350871000, 4), (3371430600, 3),
      (3382925400, 4), (3403485000, 3), (3414375000, 4), (3434934600, 3), (3445824600, 4),
      (3466384200, 3), (3477274200, 4), (3497833800, 3), (3508723800, 4), (3529283400, 3),
      (3540173400, 4), (3560733000, 3), (3572227800, 4), (3592787400, 3), (3603677400, 4),
      (3624237000, 3), (3635127000, 4), (3655686600, 3), (3666576600, 4), (3687136200, 3),
      (3698026200, 4), (3718585800, 3), (3730080600, 4), (3750640200, 3), (3761530200, 4),
      (3782089800, 3), (3792979800, 4), (3813539400, 3), (3824429400, 4), (3844989000, 3),
      (3855879000, 4), (3876438600, 3), (3887328600, 4), (3907888200, 3), (3919383000, 4),
      (3939942600, 3), (3950832600, 4), (3971392200, 3), (3982282200, 4), (4002841800, 3),
      (4013731800, 4), (4034291400, 3), (4045181400, 4), (4065741000, 3), (4076631000, 4),
      (4097190600, 3)]
    (by decide +kernel)

/-- `America/Argentina/Buenos_Aires`. -/
def buenosAires : Zone :=
  Zone.ofTable "America/Argentina/Buenos_Aires"
    [⟨-14028, "LMT"⟩, ⟨-15408, "CMT"⟩, ⟨-14400, "-04"⟩, ⟨-10800, "-03"⟩, ⟨-7200, "-02"⟩]
    [(-2372097972, 1), (-1567453392, 2), (-1233432000, 3), (-1222981200, 2), (-1205956800, 3),
      (-1194037200, 2), (-1172865600, 3), (-1162501200, 2), (-1141329600, 3), (-1130965200, 2),
      (-1109793600, 3), (-1099429200, 2), (-1078257600, 3), (-1067806800, 2), (-1046635200, 3),
      (-1036270800, 2), (-1015099200, 3), (-1004734800, 2), (-983563200, 3), (-973198800, 2),
      (-952027200, 3), (-941576400, 2), (-931032000, 3), (-900882000, 2), (-890337600, 3),
      (-833749200, 2), (-827265600, 3), (-752274000, 2), (-733780800, 3), (-197326800, 2),
      (-190843200, 3), (-184194000, 2), (-164491200, 3), (-152658000, 2), (-132955200, 3),
      (-121122000, 2), (-101419200, 3), (-86821200, 2), (-71092800, 3), (-54766800, 2),
      (-39038400, 3), (-23317200, 2), (-7588800, 3), (128142000, 4), (136605600, 3),
      (596948400, 4), (605066400, 3), (624423600, 4), (636516000, 3), (656478000, 4),
      (667965600, 3), (687927600, 4), (699415200, 3), (719377200, 4), (731469600, 3),
      (1198983600, 4), (1205632800, 3), (1224385200, 4), (1237082400, 3)]
    (by decide +kernel)

/-- `America/Sao_Paulo`. -/
def saoPaulo : Zone :=
  Zone.ofTable "America/Sao_Paulo"
    [⟨-11188, "LMT"⟩, ⟨-10800, "-03"⟩, ⟨-7200, "-02"⟩]
    [(-1767214412, 1), (-1206957600, 2), (-1191362400, 1), (-1175374800, 2), (-1159826400, 1),
      (-633819600, 2), (-622069200, 1), (-602283600, 2), (-591832800, 1), (-570747600, 2),
      (-560210400, 1), (-539125200, 2), (-531352800, 1), (-195426000, 2), (-184197600, 1),
      (-155163600, 2), (-150069600, 1), (-128898000, 2), (-121125600, 1), (-99954000, 2),
      (-89589600, 1), (-68418000, 2), (-57967200, 1), (499748400, 2), (511236000, 1),
      (530593200, 2), (540266400, 1), (562129200, 2), (571197600, 1), (592974000, 2),
      (602042400, 1), (624423600, 2), (634701600, 1), (656478000, 2), (666756000, 1),
      (687927600, 2), (697600800, 1), (719982000, 2), (728445600, 1), (750826800, 2),
      (761709600, 1), (782276400, 2), (793159200, 1), (813726000, 2), (824004000, 1),
      (844570800, 2), (856058400, 1), (876106800, 2), (888717600, 1), (908074800, 2),
      (919562400, 1), (938919600, 2), (951616800, 1), (970974000, 2), (982461600, 1),
      (1003028400, 2), (1013911200, 1), (1036292400, 2), (1045360800, 1), (1066532400, 2),
      (1076810400, 1), (1099364400, 2), (1108864800, 1), (1129431600, 2), (1140314400, 1),
      (1162695600, 2), (1172368800, 1), (1192330800, 2), (1203213600, 1), (1224385200, 2),
      (1234663200, 1), (1255834800, 2), (1266717600, 1), (1287284400, 2), (1298167200, 1),
      (1318734000, 2), (1330221600, 1), (1350788400, 2), (1361066400, 1), (1382238000, 2),
      (1392516000, 1), (1413687600, 2), (1424570400, 1), (1445137200, 2), (1456020000, 1),
      (1476586800, 2), (1487469600, 1), (1508036400, 2), (1518919200, 1), (1541300400, 2),
      (1550368800, 1)]
    (by decide +kernel)

/-- `America/Havana`. -/
def havana : Zone :=
  Zone.ofTable "America/Havana"
    [⟨-19768, "LMT"⟩, ⟨-19776, "HMT"⟩, ⟨-18000, "CST"⟩, ⟨-14400, "CDT"⟩]
    [(-2524501832, 1), (-1402813824, 2), (-1311534000, 3), (-1300996800, 2), (-933534000, 3),
      (-925675200, 2), (-902084400, 3), (-893620800, 2), (-870030000, 3), (-862171200, 2),
      (-775681200, 3), (-767822400, 2), (-744231600, 3), (-736372800, 2), (-144702000, 3),
      (-134251200, 2), (-113425200, 3), (-102542400, 2), (-86295600, 3), (-72907200, 2),
      (-54154800, 3), (-41457600, 2), (-21495600, 3), (-5774400, 2), (9954000, 3), (25675200, 2),
      (41403600, 3), (57729600, 2), (73458000, 3), (87364800, 2), (104907600, 3), (118900800, 2),
      (136357200, 3), (150436800, 2), (167806800, 3), (183528000, 2), (199256400, 3),
      (215582400, 2), (230706000, 3), (247032000, 2), (263365200, 3), (276667200, 2),
      (290581200, 3), (308721600, 2), (322030800, 3), (340171200, 2), (358318800, 3),
      (371620800, 2), (389768400, 3), (403070400, 2), (421218000, 3), (434520000, 2),
      (452667600, 3), (466574400, 2), (484117200, 3), (498024000, 2), (511333200, 3),
      (529473600, 2), (542782800, 3), (560923200, 2), (574837200, 3), (592372800, 2),
      (606286800, 3), (623822400, 2), (638946000, 3), (655876800, 2), (671000400, 3),
      (687330000, 2), (702450000, 3), (718779600, 2), (733899600, 3), (750229200, 2),
      (765349200, 3), (781678800, 2), (796798800, 3), (813128400, 2), (828853200, 3),
      (844578000, 2), (860302800, 3), (876632400, 2), (891147600, 3), (909291600, 2),
      (922597200, 3), (941346000, 2), (954651600, 3), (972795600, 2), (986101200, 3),
      (1004245200, 2), (1018155600, 3), (1035694800, 2), (1049605200, 3), (1067144400, 2),
      (1080450000, 3), (1162098000, 2), (1173589200, 3), (1193547600, 2), (1205643600, 3),
      (1224997200, 2), (1236488400, 3), (1256446800, 2), (1268542800, 3), (1288501200, 2),
      (1300597200, 3), (1321160400, 2), (1333256400, 3), (1352005200, 2), (1362891600, 3),
      (1383454800, 2), (1394341200, 3), (1414904400, 2), (1425790800, 3), (1446354000, 2),
      (1457845200, 3), (1478408400, 2), (1489294800, 3), (1509858000, 2), (1520744400, 3),
      (1541307600, 2), (1552194000, 3), (1572757200, 2), (1583643600, 3), (1604206800, 2),
      (1615698000, 3), (1636261200, 2), (1647147600, 3), (1667710800, 2), (1678597200, 3),
      (1699160400, 2), (1710046800, 3), (1730610000, 2), (1741496400, 3), (1762059600, 2),
      (1772946000, 3), (1793509200, 2), (1805000400, 3), (1825563600, 2), (1836450000, 3),
      (1857013200, 2), (1867899600, 3), (1888462800, 2), (1899349200, 3), (1919912400, 2),
      (1930798800, 3), (1951362000, 2), (1962853200, 3), (1983416400, 2), (1994302800, 3),
      (2014866000, 2), (2025752400, 3), (2046315600, 2), (2057202000, 3), (2077765200, 2),
      (2088651600, 3), (2109214800, 2), (2120101200, 3), (2140664400, 2), (2152155600, 3),
      (2172718800, 2), (2183605200, 3), (2204168400, 2), (2215054800, 3), (2235618000, 2),
      (2246504400, 3), (2267067600, 2), (2277954000, 3), (2298517200, 2), (2309403600, 3),
      (2329966800, 2), (2341458000, 3), (2362021200, 2), (2372907600, 3), (2393470800, 2),
      (2404357200, 3), (2424920400, 2), (2435806800, 3), (2456370000, 2), (2467256400, 3),
      (2487819600, 2), (2499310800, 3), (2519874000, 2), (2530760400, 3), (2551323600, 2),
      (2562210000, 3), (2582773200, 2), (2593659600, 3), (2614222800, 2), (2625109200, 3),
      (2645672400, 2), (2656558800, 3), (2677122000, 2), (2688613200, 3), (2709176400, 2),
      (2720062800, 3), (2740626000, 2), (2751512400, 3), (2772075600, 2), (2782962000, 3),
      (2803525200, 2), (2814411600, 3), (2834974800, 2), (2846466000, 3), (2867029200, 2),
      (2877915600, 3), (2898478800, 2), (2909365200, 3), (2929928400, 2), (2940814800, 3),
      (2961378000, 2), (2972264400, 3), (2992827600, 2), (3003714000, 3), (3024277200, 2),
      (3035768400, 3), (3056331600, 2), (3067218000, 3), (3087781200, 2), (3098667600, 3),
      (3119230800, 2), (3130117200, 3), (3150680400, 2), (3161566800, 3), (3182130000, 2),
      (3193016400, 3), (3213579600, 2), (3225070800, 3), (3245634000, 2), (3256520400, 3),
      (3277083600, 2), (3287970000, 3), (3308533200, 2), (3319419600, 3), (3339982800, 2),
      (3350869200, 3), (3371432400, 2), (3382923600, 3), (3403486800, 2), (3414373200, 3),
      (3434936400, 2), (3445822800, 3), (3466386000, 2), (3477272400, 3), (3497835600, 2),
      (3508722000, 3), (3529285200, 2), (3540171600, 3), (3560734800, 2), (3572226000, 3),
      (3592789200, 2), (3603675600, 3), (3624238800, 2), (3635125200, 3), (3655688400, 2),
      (3666574800, 3), (3687138000, 2), (3698024400, 3), (3718587600, 2), (3730078800, 3),
      (3750642000, 2), (3761528400, 3), (3782091600, 2), (3792978000, 3), (3813541200, 2),
      (3824427600, 3), (3844990800, 2), (3855877200, 3), (3876440400, 2), (3887326800, 3),
      (3907890000, 2), (3919381200, 3), (3939944400, 2), (3950830800, 3), (3971394000, 2),
      (3982280400, 3), (4002843600, 2), (4013730000, 3), (4034293200, 2), (4045179600, 3),
      (4065742800, 2), (4076629200, 3), (4097192400, 2)]
    (by decide +kernel)

/-- `America/Scoresbysund`. -/
def scoresbysund : Zone :=
  Zone.ofTable "America/Scoresbysund"
    [⟨-5272, "LMT"⟩, ⟨-7200, "-02"⟩, ⟨-3600, "-01"⟩, ⟨0, "+00"⟩]
    [(-1686090728, 1), (323841600, 2), (338961600, 1), (354679200, 3), (370400400, 2),
      (386125200, 3), (401850000, 2), (417574800, 3), (433299600, 2), (449024400, 3),
      (465354000, 2), (481078800, 3), (496803600, 2), (512528400, 3), (528253200, 2),
      (543978000, 3), (559702800, 2), (575427600, 3), (591152400, 2), (606877200, 3),
      (622602000, 2), (638326800, 3), (654656400, 2), (670381200, 3), (686106000, 2),
      (701830800, 3), (717555600, 2), (733280400, 3), (749005200, 2), (764730000, 3),
      (780454800, 2), (796179600, 3), (811904400, 2), (828234000, 3), (846378000, 2),
      (859683600, 3), (877827600, 2), (891133200, 3), (909277200, 2), (922582800, 3),
      (941331600, 2), (954032400, 3), (972781200, 2), (985482000, 3), (1004230800, 2),
      (1017536400, 3), (1035680400, 2), (1048986000, 3), (1067130000, 2), (1080435600, 3),
      (1099184400, 2), (1111885200, 3), (1130634000, 2), (1143334800, 3), (1162083600, 2),
      (1174784400, 3), (1193533200, 2), (1206838800, 3), (1224982800, 2), (1238288400, 3),
      (1256432400, 2), (1269738000, 3), (1288486800, 2), (1301187600, 3), (1319936400, 2),
      (1332637200, 3), (1351386000, 2), (1364691600, 3), (1382835600, 2), (1396141200, 3),
      (1414285200, 2), (1427590800, 3), (1445734800, 2), (1459040400, 3), (1477789200, 2),
      (1490490000, 3), (1509238800, 2), (1521939600, 3), (1540688400, 2), (1553994000, 3),
      (1572138000, 2), (1585443600, 3), (1603587600, 2), (1616893200, 3), (1635642000, 2),
      (1648342800, 3), (1667091600, 2), (1679792400, 3), (1698541200, 2), (1729990800, 1),
      (1743296400, 2), (1761440400, 1), (1774746000, 2), (1792890000, 1), (1806195600, 2),
      (1824944400, 1), (1837645200, 2), (1856394000, 1), (1869094800, 2), (1887843600, 1),
      (1901149200, 2), (1919293200, 1), (1932598800, 2), (1950742800, 1), (1964048400, 2),
      (1982797200, 1), (1995498000, 2), (2014246800, 1), (2026947600, 2), (2045696400, 1),
      (2058397200, 2), (2077146000, 1), (2090451600, 2), (2108595600, 1), (2121901200, 2),
      (2140045200, 1), (2153350800, 2), (2172099600, 1), (2184800400, 2), (2203549200, 1),
      (2216250000, 2), (2234998800, 1), (2248304400, 2), (2266448400, 1), (2279754000, 2),
      (2297898000, 1), (2311203600, 2), (2329347600, 1), (2342653200, 2), (2361402000, 1),
      (2374102800, 2), (2392851600, 1), (2405552400, 2), (2424301200, 1), (2437606800, 2),
      (2455750800, 1), (2469056400, 2), (2487200400, 1), (2500506000, 2), (2519254800, 1),
      (2531955600, 2), (2550704400, 1), (2563405200, 2), (2582154000, 1), (2595459600, 2),
      (2613603600, 1), (2626909200, 2), (2645053200, 1), (2658358800, 2), (2676502800, 1),
      (2689808400, 2), (2708557200, 1), (2721258000, 2), (2740006800, 1), (2752707600, 2),
      (2771456400, 1), (2784762000, 2), (2802906000, 1), (2816211600, 2), (2834355600, 1),
      (2847661200, 2), (2866410000, 1), (2879110800, 2), (2897859600, 1), (2910560400, 2),
      (2929309200, 1), (2942010000, 2), (2960758800, 1), (2974064400, 2), (2992208400, 1),
      (3005514000, 2), (3023658000, 1), (3036963600, 2), (3055712400, 1), (3068413200, 2),
      (3087162000, 1), (3099862800, 2), (3118611600, 1), (3131917200, 2), (3150061200, 1),
      (3163366800, 2), (3181510800, 1), (3194816400, 2), (3212960400, 1), (3226266000, 2),
      (3245014800, 1), (3257715600, 2), (3276464400, 1), (3289165200, 2), (3307914000, 1),
      (3321219600, 2), (3339363600, 1), (3352669200, 2), (3370813200, 1), (3384118800, 2),
      (3402867600, 1), (3415568400, 2), (3434317200, 1), (3447018000, 2), (3465766800, 1),
      (3479072400, 2), (3497216400, 1), (3510522000, 2), (3528666000, 1), (3541971600, 2),
      (3560115600, 1), (3573421200, 2), (3592170000, 1), (3604870800, 2), (3623619600, 1),
      (3636320400, 2), (3655069200, 1), (3668374800, 2), (3686518800, 1), (3699824400, 2),
      (3717968400, 1), (3731274000, 2), (3750022800, 1), (3762723600, 2), (3781472400, 1),
      (3794173200, 2), (3812922000, 1), (3825622800, 2), (3844371600, 1), (3857677200, 2),
      (3875821200, 1), (3889126800, 2), (3907270800, 1), (3920576400, 2), (3939325200, 1),
      (3952026000, 2), (3970774800, 1), (3983475600, 2), (4002224400, 1), (4015530000, 2),
      (4033674000, 1), (4046979600, 2), (4065123600, 1), (4078429200, 2), (4096573200, 1)]
    (by decide +kernel)

end CronCalendar.Zone
