import PowerRota.Calendar.Timetable

/-! Clock changes of Apia, Chatham, Lord Howe and Sydney.

A change is a second of universal time and the offset from then on, in seconds
east of Greenwich. Where the rule of today has held since a year, that year and
the rule stand in place of the changes. -/

set_option autoImplicit false

namespace PowerRota.Calendar.Timetable

def apia : Timetable where
  initial := 45184
  changes := [
    (-2445424384, -41216), (-1861878784, -41400), (-631110600, -39600), (1285498800, -36000),
    (1301752800, -39600), (1316872800, -36000), (1325239200, 50400), (1333202400, 46800),
    (1348927200, 50400), (1365256800, 46800), (1380376800, 50400), (1396706400, 46800),
    (1411826400, 50400), (1428156000, 46800), (1443276000, 50400), (1459605600, 46800),
    (1474725600, 50400), (1491055200, 46800), (1506175200, 50400), (1522504800, 46800),
    (1538229600, 50400), (1554559200, 46800), (1569679200, 50400), (1586008800, 46800),
    (1601128800, 50400), (1617458400, 46800)]

def chathamUntil1990 : List (Int × Int) := [
  (-3192437628, 44100), (-757426500, 45900), (152632800, 49500), (162309600, 45900),
  (183477600, 49500), (194968800, 45900), (215532000, 49500), (226418400, 45900),
  (246981600, 49500), (257868000, 45900), (278431200, 49500), (289317600, 45900),
  (309880800, 49500), (320767200, 45900), (341330400, 49500), (352216800, 45900),
  (372780000, 49500), (384271200, 45900), (404834400, 49500), (415720800, 45900),
  (436284000, 49500), (447170400, 45900), (467733600, 49500), (478620000, 45900),
  (499183200, 49500), (510069600, 45900), (530632800, 49500), (541519200, 45900),
  (562082400, 49500), (573573600, 45900), (594136800, 49500), (605023200, 45900),
  (623772000, 49500), (637682400, 45900), (655221600, 49500)]

def chathamUntil2007 : List (Int × Int) := [
  (669132000, 45900), (686671200, 49500), (700581600, 45900), (718120800, 49500),
  (732636000, 45900), (749570400, 49500), (764085600, 45900), (781020000, 49500),
  (795535200, 45900), (812469600, 49500), (826984800, 45900), (844524000, 49500),
  (858434400, 45900), (875973600, 49500), (889884000, 45900), (907423200, 49500),
  (921938400, 45900), (938872800, 49500), (953388000, 45900), (970322400, 49500),
  (984837600, 45900), (1002376800, 49500), (1016287200, 45900), (1033826400, 49500),
  (1047736800, 45900), (1065276000, 49500), (1079791200, 45900), (1096725600, 49500),
  (1111240800, 45900), (1128175200, 49500), (1142690400, 45900), (1159624800, 49500),
  (1174140000, 45900), (1191074400, 49500)]

def chatham : Timetable where
  initial := 44028
  changes := chathamUntil1990 ++ chathamUntil2007
  since := 2008
  yearly := [⟨4, .nth 1, 0, 13500, 49500, 45900⟩, ⟨9, .last, 0, 9900, 45900, 49500⟩]

def lordHoweUntil1993 : List (Int × Int) := [
  (-2364114980, 36000), (352216800, 37800), (372785400, 41400), (384273000, 37800),
  (404839800, 41400), (415722600, 37800), (436289400, 41400), (447172200, 37800),
  (467739000, 41400), (478621800, 37800), (499188600, 39600), (511282800, 37800),
  (530033400, 39600), (542732400, 37800), (562087800, 39600), (574786800, 37800),
  (594142200, 39600), (606236400, 37800), (625591800, 39600), (636476400, 37800),
  (657041400, 39600), (667926000, 37800), (688491000, 39600), (699375600, 37800),
  (719940600, 39600), (731430000, 37800), (751995000, 39600)]

def lordHoweUntil2007 : List (Int × Int) := [
  (762879600, 37800), (783444600, 39600), (794329200, 37800), (814894200, 39600),
  (828198000, 37800), (846343800, 39600), (859647600, 37800), (877793400, 39600),
  (891097200, 37800), (909243000, 39600), (922546800, 37800), (941297400, 39600),
  (953996400, 37800), (967303800, 39600), (985446000, 37800), (1004196600, 39600),
  (1017500400, 37800), (1035646200, 39600), (1048950000, 37800), (1067095800, 39600),
  (1080399600, 37800), (1099150200, 39600), (1111849200, 37800), (1130599800, 39600),
  (1143903600, 37800), (1162049400, 39600), (1174748400, 37800), (1193499000, 39600)]

def lordHowe : Timetable where
  initial := 38180
  changes := lordHoweUntil1993 ++ lordHoweUntil2007
  since := 2008
  yearly := [⟨4, .nth 1, 0, 7200, 39600, 37800⟩, ⟨10, .nth 1, 0, 7200, 37800, 39600⟩]

def sydneyUntil1980 : List (Int × Int) := [
  (-2364113092, 36000), (-1672560000, 39600), (-1665388800, 36000), (-883641600, 39600),
  (-876124800, 36000), (-860400000, 39600), (-844675200, 36000), (-828345600, 39600),
  (-813225600, 36000), (57686400, 39600), (67968000, 36000), (89136000, 39600),
  (100022400, 36000), (120585600, 39600), (131472000, 36000), (152035200, 39600),
  (162921600, 36000), (183484800, 39600), (194976000, 36000), (215539200, 39600),
  (226425600, 36000), (246988800, 39600), (257875200, 36000), (278438400, 39600),
  (289324800, 36000), (309888000, 39600), (320774400, 36000), (341337600, 39600)]

def sydneyUntil1994 : List (Int × Int) := [
  (352224000, 36000), (372787200, 39600), (386697600, 36000), (404841600, 39600),
  (415728000, 36000), (436291200, 39600), (447177600, 36000), (467740800, 39600),
  (478627200, 36000), (499190400, 39600), (511286400, 36000), (530035200, 39600),
  (542736000, 36000), (562089600, 39600), (574790400, 36000), (594144000, 39600),
  (606240000, 36000), (625593600, 39600), (636480000, 36000), (657043200, 39600),
  (667929600, 36000), (688492800, 39600), (699379200, 36000), (719942400, 39600),
  (731433600, 36000), (751996800, 39600), (762883200, 36000), (783446400, 39600)]

def sydneyUntil2007 : List (Int × Int) := [
  (794332800, 36000), (814896000, 39600), (828201600, 36000), (846345600, 39600),
  (859651200, 36000), (877795200, 39600), (891100800, 36000), (909244800, 39600),
  (922550400, 36000), (941299200, 39600), (954000000, 36000), (967305600, 39600),
  (985449600, 36000), (1004198400, 39600), (1017504000, 36000), (1035648000, 39600),
  (1048953600, 36000), (1067097600, 39600), (1080403200, 36000), (1099152000, 39600),
  (1111852800, 36000), (1130601600, 39600), (1143907200, 36000), (1162051200, 39600),
  (1174752000, 36000), (1193500800, 39600)]

def sydney : Timetable where
  initial := 36292
  changes := sydneyUntil1980 ++ sydneyUntil1994 ++ sydneyUntil2007
  since := 2008
  yearly := [⟨4, .nth 1, 0, 10800, 39600, 36000⟩, ⟨10, .nth 1, 0, 7200, 36000, 39600⟩]

end PowerRota.Calendar.Timetable
