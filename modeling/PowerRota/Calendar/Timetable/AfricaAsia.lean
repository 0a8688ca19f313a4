import PowerRota.Calendar.Timetable

/-! Clock changes of Cairo, Kathmandu, Kolkata and Tokyo.

A change is a second of universal time and the offset from then on, in seconds
east of Greenwich. Where the rule of today has held since a year, that year and
the rule stand in place of the changes. -/

set_option autoImplicit false

namespace PowerRota.Calendar.Timetable

def cairoUntil1965 : List (Int × Int) := [
  (-2185409109, 7200), (-929844000, 10800), (-923108400, 7200), (-906170400, 10800),
  (-892868400, 7200), (-875844000, 10800), (-857790000, 7200), (-844308000, 10800),
  (-825822000, 7200), (-812685600, 10800), (-794199600, 7200), (-779853600, 10800),
  (-762663600, 7200), (-399088800, 10800), (-386650800, 7200), (-368330400, 10800),
  (-355114800, 7200), (-336790800, 10800), (-323654400, 7200), (-305168400, 10800),
  (-292032000, 7200), (-273632400, 10800), (-260496000, 7200), (-242096400, 10800),
  (-228960000, 7200), (-210560400, 10800), (-197424000, 7200), (-178938000, 10800),
  (-165801600, 7200), (-147402000, 10800), (-134265600, 7200)]

def cairoUntil1981 : List (Int × Int) := [
  (-115866000, 10800), (-102643200, 7200), (-84330000, 10800), (-71107200, 7200),
  (-52707600, 10800), (-39484800, 7200), (-21171600, 10800), (-7948800, 7200), (10364400, 10800),
  (23587200, 7200), (41900400, 10800), (55123200, 7200), (73522800, 10800), (86745600, 7200),
  (105058800, 10800), (118281600, 7200), (136594800, 10800), (149817600, 7200),
  (168130800, 10800), (181353600, 7200), (199753200, 10800), (212976000, 7200),
  (231289200, 10800), (244512000, 7200), (262825200, 10800), (276048000, 7200),
  (294361200, 10800), (307584000, 7200), (325983600, 10800), (339206400, 7200),
  (357519600, 10800), (370742400, 7200)]

def cairoUntil1997 : List (Int × Int) := [
  (396399600, 10800), (402278400, 7200), (426812400, 10800), (433814400, 7200),
  (452214000, 10800), (465436800, 7200), (483750000, 10800), (496972800, 7200),
  (515286000, 10800), (528508800, 7200), (546822000, 10800), (560044800, 7200),
  (578444400, 10800), (591667200, 7200), (610412400, 10800), (623203200, 7200),
  (641516400, 10800), (654739200, 7200), (673052400, 10800), (686275200, 7200),
  (704674800, 10800), (717897600, 7200), (736210800, 10800), (749433600, 7200),
  (767746800, 10800), (780969600, 7200), (799020000, 10800), (812322000, 7200),
  (830469600, 10800), (843771600, 7200), (861919200, 10800), (875221200, 7200)]

def cairoUntil2014 : List (Int × Int) := [
  (893368800, 10800), (906670800, 7200), (925423200, 10800), (938725200, 7200),
  (956872800, 10800), (970174800, 7200), (988322400, 10800), (1001624400, 7200),
  (1019772000, 10800), (1033074000, 7200), (1051221600, 10800), (1064523600, 7200),
  (1083276000, 10800), (1096578000, 7200), (1114725600, 10800), (1128027600, 7200),
  (1146175200, 10800), (1158872400, 7200), (1177624800, 10800), (1189112400, 7200),
  (1209074400, 10800), (1219957200, 7200), (1240524000, 10800), (1250802000, 7200),
  (1272578400, 10800), (1281474000, 7200), (1284069600, 10800), (1285880400, 7200),
  (1400191200, 10800), (1403816400, 7200), (1406844000, 10800), (1411678800, 7200)]

def cairo : Timetable where
  initial := 7509
  changes := cairoUntil1965 ++ cairoUntil1981 ++ cairoUntil1997 ++ cairoUntil2014
  since := 2023
  yearly := [⟨4, .last, 5, 0, 7200, 10800⟩, ⟨10, .last, 4, 86400, 10800, 7200⟩]

def kathmandu : Timetable where
  initial := 20476
  changes := [
    (-1577943676, 19800), (504901800, 20700)]

def kolkata : Timetable where
  initial := 21208
  changes := [
    (-3645237208, 21200), (-3155694800, 19270), (-2019705670, 19800), (-891581400, 23400),
    (-872058600, 19800), (-862637400, 23400), (-764145000, 19800)]

def tokyo : Timetable where
  initial := 33539
  changes := [
    (-2587712400, 32400), (-683802000, 36000), (-672310800, 32400), (-654771600, 36000),
    (-640861200, 32400), (-620298000, 36000), (-609411600, 32400), (-588848400, 36000),
    (-577962000, 32400)]

end PowerRota.Calendar.Timetable
