import PowerRota.Calendar.Timetable

/-! Clock changes of Los Angeles, New York, Panama, São Paulo and St. John’s.

A change is a second of universal time and the offset from then on, in seconds
east of Greenwich. Where the rule of today has held since a year, that year and
the rule stand in place of the changes. -/

set_option autoImplicit false

namespace PowerRota.Calendar.Timetable

def losAngelesUntil1960 : List (Int × Int) := [
  (-2717640000, -28800), (-1633269600, -25200), (-1615129200, -28800), (-1601820000, -25200),
  (-1583679600, -28800), (-880207200, -25200), (-765385200, -28800), (-687967140, -25200),
  (-662655600, -28800), (-620838000, -25200), (-608137200, -28800), (-589388400, -25200),
  (-576082800, -28800), (-557938800, -25200), (-544633200, -28800), (-526489200, -25200),
  (-513183600, -28800), (-495039600, -25200), (-481734000, -28800), (-463590000, -25200),
  (-450284400, -28800), (-431535600, -25200), (-418230000, -28800), (-400086000, -25200),
  (-386780400, -28800), (-368636400, -25200), (-355330800, -28800), (-337186800, -25200),
  (-323881200, -28800), (-305737200, -25200), (-292431600, -28800)]

def losAngelesUntil1975 : List (Int × Int) := [
  (-273682800, -25200), (-260982000, -28800), (-242233200, -25200), (-226508400, -28800),
  (-210783600, -25200), (-195058800, -28800), (-179334000, -25200), (-163609200, -28800),
  (-147884400, -25200), (-131554800, -28800), (-116434800, -25200), (-100105200, -28800),
  (-84376800, -25200), (-68655600, -28800), (-52927200, -25200), (-37206000, -28800),
  (-21477600, -25200), (-5756400, -28800), (9972000, -25200), (25693200, -28800),
  (41421600, -25200), (57747600, -28800), (73476000, -25200), (89197200, -28800),
  (104925600, -25200), (120646800, -28800), (126698400, -25200), (152096400, -28800),
  (162381600, -25200), (183546000, -28800)]

def losAngelesUntil1990 : List (Int × Int) := [
  (199274400, -25200), (215600400, -28800), (230724000, -25200), (247050000, -28800),
  (262778400, -25200), (278499600, -28800), (294228000, -25200), (309949200, -28800),
  (325677600, -25200), (341398800, -28800), (357127200, -25200), (372848400, -28800),
  (388576800, -25200), (404902800, -28800), (420026400, -25200), (436352400, -28800),
  (452080800, -25200), (467802000, -28800), (483530400, -25200), (499251600, -28800),
  (514980000, -25200), (530701200, -28800), (544615200, -25200), (562150800, -28800),
  (576064800, -25200), (594205200, -28800), (607514400, -25200), (625654800, -28800),
  (638964000, -25200), (657104400, -28800)]

def losAngelesUntil2005 : List (Int × Int) := [
  (671018400, -25200), (688554000, -28800), (702468000, -25200), (720003600, -28800),
  (733917600, -25200), (752058000, -28800), (765367200, -25200), (783507600, -28800),
  (796816800, -25200), (814957200, -28800), (828871200, -25200), (846406800, -28800),
  (860320800, -25200), (877856400, -28800), (891770400, -25200), (909306000, -28800),
  (923220000, -25200), (941360400, -28800), (954669600, -25200), (972810000, -28800),
  (986119200, -25200), (1004259600, -28800), (1018173600, -25200), (1035709200, -28800),
  (1049623200, -25200), (1067158800, -28800), (1081072800, -25200), (1099213200, -28800),
  (1112522400, -25200), (1130662800, -28800)]

def losAngelesUntil2006 : List (Int × Int) := [
  (1143972000, -25200), (1162112400, -28800)]

def losAngeles : Timetable where
  initial := -28378
  changes := losAngelesUntil1960 ++ losAngelesUntil1975 ++ losAngelesUntil1990 ++
    losAngelesUntil2005 ++ losAngelesUntil2006
  since := 2007
  yearly := [⟨3, .nth 2, 0, 7200, -28800, -25200⟩, ⟨11, .nth 1, 0, 7200, -25200, -28800⟩]

def newYorkUntil1934 : List (Int × Int) := [
  (-2717650800, -18000), (-1633280400, -14400), (-1615140000, -18000), (-1601830800, -14400),
  (-1583690400, -18000), (-1570381200, -14400), (-1551636000, -18000), (-1536512400, -14400),
  (-1523210400, -18000), (-1504458000, -14400), (-1491760800, -18000), (-1473008400, -14400),
  (-1459706400, -18000), (-1441558800, -14400), (-1428256800, -18000), (-1410109200, -14400),
  (-1396807200, -18000), (-1378659600, -14400), (-1365357600, -18000), (-1347210000, -14400),
  (-1333908000, -18000), (-1315155600, -14400), (-1301853600, -18000), (-1283706000, -14400),
  (-1270404000, -18000), (-1252256400, -14400), (-1238954400, -18000), (-1220806800, -14400),
  (-1207504800, -18000), (-1189357200, -14400), (-1176055200, -18000), (-1157302800, -14400),
  (-1144605600, -18000), (-1125853200, -14400), (-1112551200, -18000)]

def newYorkUntil1954 : List (Int × Int) := [
  (-1094403600, -14400), (-1081101600, -18000), (-1062954000, -14400), (-1049652000, -18000),
  (-1031504400, -14400), (-1018202400, -18000), (-1000054800, -14400), (-986752800, -18000),
  (-968000400, -14400), (-955303200, -18000), (-936550800, -14400), (-923248800, -18000),
  (-905101200, -14400), (-891799200, -18000), (-880218000, -14400), (-765396000, -18000),
  (-747248400, -14400), (-733946400, -18000), (-715798800, -14400), (-702496800, -18000),
  (-684349200, -14400), (-671047200, -18000), (-652899600, -14400), (-639597600, -18000),
  (-620845200, -14400), (-608148000, -18000), (-589395600, -14400), (-576093600, -18000),
  (-557946000, -14400), (-544644000, -18000), (-526496400, -14400), (-513194400, -18000),
  (-495046800, -14400), (-481744800, -18000)]

def newYorkUntil1971 : List (Int × Int) := [
  (-463597200, -14400), (-447271200, -18000), (-431542800, -14400), (-415821600, -18000),
  (-400093200, -14400), (-384372000, -18000), (-368643600, -14400), (-352922400, -18000),
  (-337194000, -14400), (-321472800, -18000), (-305744400, -14400), (-289418400, -18000),
  (-273690000, -14400), (-257968800, -18000), (-242240400, -14400), (-226519200, -18000),
  (-210790800, -14400), (-195069600, -18000), (-179341200, -14400), (-163620000, -18000),
  (-147891600, -14400), (-131565600, -18000), (-116442000, -14400), (-100116000, -18000),
  (-84387600, -14400), (-68666400, -18000), (-52938000, -14400), (-37216800, -18000),
  (-21488400, -14400), (-5767200, -18000), (9961200, -14400), (25682400, -18000),
  (41410800, -14400), (57736800, -18000)]

def newYorkUntil1988 : List (Int × Int) := [
  (73465200, -14400), (89186400, -18000), (104914800, -14400), (120636000, -18000),
  (126687600, -14400), (152085600, -18000), (162370800, -14400), (183535200, -18000),
  (199263600, -14400), (215589600, -18000), (230713200, -14400), (247039200, -18000),
  (262767600, -14400), (278488800, -18000), (294217200, -14400), (309938400, -18000),
  (325666800, -14400), (341388000, -18000), (357116400, -14400), (372837600, -18000),
  (388566000, -14400), (404892000, -18000), (420015600, -14400), (436341600, -18000),
  (452070000, -14400), (467791200, -18000), (483519600, -14400), (499240800, -18000),
  (514969200, -14400), (530690400, -18000), (544604400, -14400), (562140000, -18000),
  (576054000, -14400), (594194400, -18000)]

def newYorkUntil2005 : List (Int × Int) := [
  (607503600, -14400), (625644000, -18000), (638953200, -14400), (657093600, -18000),
  (671007600, -14400), (688543200, -18000), (702457200, -14400), (719992800, -18000),
  (733906800, -14400), (752047200, -18000), (765356400, -14400), (783496800, -18000),
  (796806000, -14400), (814946400, -18000), (828860400, -14400), (846396000, -18000),
  (860310000, -14400), (877845600, -18000), (891759600, -14400), (909295200, -18000),
  (923209200, -14400), (941349600, -18000), (954658800, -14400), (972799200, -18000),
  (986108400, -14400), (1004248800, -18000), (1018162800, -14400), (1035698400, -18000),
  (1049612400, -14400), (1067148000, -18000), (1081062000, -14400), (1099202400, -18000),
  (1112511600, -14400), (1130652000, -18000)]

def newYorkUntil2006 : List (Int × Int) := [
  (1143961200, -14400), (1162101600, -18000)]

def newYork : Timetable where
  initial := -17762
  changes := newYorkUntil1934 ++ newYorkUntil1954 ++ newYorkUntil1971 ++ newYorkUntil1988 ++
    newYorkUntil2005 ++ newYorkUntil2006
  since := 2007
  yearly := [⟨3, .nth 2, 0, 7200, -18000, -14400⟩, ⟨11, .nth 1, 0, 7200, -14400, -18000⟩]

def panama : Timetable where
  initial := -19088
  changes := [
    (-2524502512, -19176), (-1946918424, -18000)]

def saoPauloUntil1988 : List (Int × Int) := [
  (-1767214412, -10800), (-1206957600, -7200), (-1191362400, -10800), (-1175374800, -7200),
  (-1159826400, -10800), (-633819600, -7200), (-622069200, -10800), (-602283600, -7200),
  (-591832800, -10800), (-570747600, -7200), (-560210400, -10800), (-539125200, -7200),
  (-531352800, -10800), (-195426000, -7200), (-184197600, -10800), (-155163600, -7200),
  (-150069600, -10800), (-128898000, -7200), (-121125600, -10800), (-99954000, -7200),
  (-89589600, -10800), (-68418000, -7200), (-57967200, -10800), (499748400, -7200),
  (511236000, -10800), (530593200, -7200), (540266400, -10800), (562129200, -7200),
  (571197600, -10800), (592974000, -7200)]

def saoPauloUntil2003 : List (Int × Int) := [
  (602042400, -10800), (624423600, -7200), (634701600, -10800), (656478000, -7200),
  (666756000, -10800), (687927600, -7200), (697600800, -10800), (719982000, -7200),
  (728445600, -10800), (750826800, -7200), (761709600, -10800), (782276400, -7200),
  (793159200, -10800), (813726000, -7200), (824004000, -10800), (844570800, -7200),
  (856058400, -10800), (876106800, -7200), (888717600, -10800), (908074800, -7200),
  (919562400, -10800), (938919600, -7200), (951616800, -10800), (970974000, -7200),
  (982461600, -10800), (1003028400, -7200), (1013911200, -10800), (1036292400, -7200),
  (1045360800, -10800), (1066532400, -7200)]

def saoPauloUntil2019 : List (Int × Int) := [
  (1076810400, -10800), (1099364400, -7200), (1108864800, -10800), (1129431600, -7200),
  (1140314400, -10800), (1162695600, -7200), (1172368800, -10800), (1192330800, -7200),
  (1203213600, -10800), (1224385200, -7200), (1234663200, -10800), (1255834800, -7200),
  (1266717600, -10800), (1287284400, -7200), (1298167200, -10800), (1318734000, -7200),
  (1330221600, -10800), (1350788400, -7200), (1361066400, -10800), (1382238000, -7200),
  (1392516000, -10800), (1413687600, -7200), (1424570400, -10800), (1445137200, -7200),
  (1456020000, -10800), (1476586800, -7200), (1487469600, -10800), (1508036400, -7200),
  (1518919200, -10800), (1541300400, -7200), (1550368800, -10800)]

def saoPaulo : Timetable where
  initial := -11188
  changes := saoPauloUntil1988 ++ saoPauloUntil2003 ++ saoPauloUntil2019

def stJohnsUntil1934 : List (Int × Int) := [
  (-1664130548, -9052), (-1650137348, -12652), (-1632076148, -9052), (-1615145348, -12652),
  (-1598650148, -9052), (-1590100148, -12652), (-1567286948, -9052), (-1551565748, -12652),
  (-1535837348, -9052), (-1520116148, -12652), (-1503782948, -9052), (-1488666548, -12652),
  (-1472333348, -9052), (-1457216948, -12652), (-1440883748, -9052), (-1425767348, -12652),
  (-1409434148, -9052), (-1394317748, -12652), (-1377984548, -9052), (-1362263348, -12652),
  (-1346534948, -9052), (-1330813748, -12652), (-1314480548, -9052), (-1299364148, -12652),
  (-1283030948, -9052), (-1267914548, -12652), (-1251581348, -9052), (-1236464948, -12652),
  (-1220131748, -9052), (-1205015348, -12652), (-1188682148, -9052), (-1172960948, -12652),
  (-1156627748, -9052), (-1141511348, -12652), (-1125178148, -9052), (-1110061748, -12652)]

def stJohnsUntil1955 : List (Int × Int) := [
  (-1096921748, -12600), (-1093728600, -9000), (-1078612200, -12600), (-1061670600, -9000),
  (-1048973400, -12600), (-1030221000, -9000), (-1017523800, -12600), (-998771400, -9000),
  (-986074200, -12600), (-966717000, -9000), (-954624600, -12600), (-935267400, -9000),
  (-922570200, -12600), (-903817800, -9000), (-891120600, -12600), (-872368200, -9000),
  (-765401400, -12600), (-746044200, -9000), (-733347000, -12600), (-714594600, -9000),
  (-701897400, -12600), (-683145000, -9000), (-670447800, -12600), (-651695400, -9000),
  (-638998200, -12600), (-619641000, -9000), (-606943800, -12600), (-589401000, -9000),
  (-576099000, -12600), (-557951400, -9000), (-544649400, -12600), (-526501800, -9000),
  (-513199800, -12600), (-495052200, -9000), (-481750200, -12600), (-463602600, -9000),
  (-450300600, -12600)]

def stJohnsUntil1973 : List (Int × Int) := [
  (-431548200, -9000), (-418246200, -12600), (-400098600, -9000), (-386796600, -12600),
  (-368649000, -9000), (-355347000, -12600), (-337199400, -9000), (-323897400, -12600),
  (-305749800, -9000), (-289423800, -12600), (-273695400, -9000), (-257974200, -12600),
  (-242245800, -9000), (-226524600, -12600), (-210796200, -9000), (-195075000, -12600),
  (-179346600, -9000), (-163625400, -12600), (-147897000, -9000), (-131571000, -12600),
  (-116447400, -9000), (-100121400, -12600), (-84393000, -9000), (-68671800, -12600),
  (-52943400, -9000), (-37222200, -12600), (-21493800, -9000), (-5772600, -12600),
  (9955800, -9000), (25677000, -12600), (41405400, -9000), (57731400, -12600), (73459800, -9000),
  (89181000, -12600), (104909400, -9000), (120630600, -12600)]

def stJohnsUntil1991 : List (Int × Int) := [
  (136359000, -9000), (152080200, -12600), (167808600, -9000), (183529800, -12600),
  (199258200, -9000), (215584200, -12600), (230707800, -9000), (247033800, -12600),
  (262762200, -9000), (278483400, -12600), (294211800, -9000), (309933000, -12600),
  (325661400, -9000), (341382600, -12600), (357111000, -9000), (372832200, -12600),
  (388560600, -9000), (404886600, -12600), (420010200, -9000), (436336200, -12600),
  (452064600, -9000), (467785800, -12600), (483514200, -9000), (499235400, -12600),
  (514963800, -9000), (530685000, -12600), (544591860, -9000), (562127460, -12600),
  (576041460, -5400), (594178260, -12600), (607491060, -9000), (625631460, -12600),
  (638940660, -9000), (657081060, -12600), (670995060, -9000), (688530660, -12600)]

def stJohnsUntil2009 : List (Int × Int) := [
  (702444660, -9000), (719980260, -12600), (733894260, -9000), (752034660, -12600),
  (765343860, -9000), (783484260, -12600), (796793460, -9000), (814933860, -12600),
  (828847860, -9000), (846383460, -12600), (860297460, -9000), (877833060, -12600),
  (891747060, -9000), (909282660, -12600), (923196660, -9000), (941337060, -12600),
  (954646260, -9000), (972786660, -12600), (986095860, -9000), (1004236260, -12600),
  (1018150260, -9000), (1035685860, -12600), (1049599860, -9000), (1067135460, -12600),
  (1081049460, -9000), (1099189860, -12600), (1112499060, -9000), (1130639460, -12600),
  (1143948660, -9000), (1162089060, -12600), (1173583860, -9000), (1194143460, -12600),
  (1205033460, -9000), (1225593060, -12600), (1236483060, -9000), (1257042660, -12600)]

def stJohnsUntil2011 : List (Int × Int) := [
  (1268537460, -9000), (1289097060, -12600), (1299987060, -9000), (1320553800, -12600)]

def stJohns : Timetable where
  initial := -12652
  changes := stJohnsUntil1934 ++ stJohnsUntil1955 ++ stJohnsUntil1973 ++ stJohnsUntil1991 ++
    stJohnsUntil2009 ++ stJohnsUntil2011
  since := 2012
  yearly := [⟨3, .nth 2, 0, 7200, -12600, -9000⟩, ⟨11, .nth 1, 0, 7200, -9000, -12600⟩]

end PowerRota.Calendar.Timetable
