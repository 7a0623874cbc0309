import VCalendar.Time.Zone

/-!
# The rules of some zones

For each zone: its mean solar offset, which stands in up to the year 1800, its offset
when the year 2000 begins, which stands in from there on, the transitions after that, and
the rule that holds after the last of them.
-/

namespace VCalendar

/-- A zone in the table. -/
structure ZoneEntry where
  meanSolar : Int
  initial : Int
  transitions : List Transition
  tail : TailRule

namespace ZoneEntry

/-- The beginning of the year 1800, in seconds since the epoch. -/
def year1800 : Int := (86400 * daysBeforeYear 1800 : Nat) - (epochSeconds : Int)

/-- The offset with which the year 1800 begins. -/
def offset1800 (e : ZoneEntry) : Int :=
  if e.transitions.isEmpty then e.tail.offset 1800 year1800 else e.initial

/-- The rules of a zone: the mean solar offset ends on the wall clock when 1800 begins. -/
def rules (e : ZoneEntry) : ZoneRules where
  initial := e.meanSolar
  transitions :=
    ⟨year1800 - max e.meanSolar e.offset1800, e.offset1800⟩ :: e.transitions
  tail := e.tail

end ZoneEntry

def ZoneEntry.africaCairo : ZoneEntry where
  meanSolar := 7509
  initial := 7200
  transitions :=
    [⟨956872800, 10800⟩, ⟨970174800, 7200⟩, ⟨988322400, 10800⟩, ⟨1001624400, 7200⟩,
      ⟨1019772000, 10800⟩, ⟨1033074000, 7200⟩, ⟨1051221600, 10800⟩, ⟨1064523600, 7200⟩,
      ⟨1083276000, 10800⟩, ⟨1096578000, 7200⟩, ⟨1114725600, 10800⟩, ⟨1128027600, 7200⟩,
      ⟨1146175200, 10800⟩, ⟨1158872400, 7200⟩, ⟨1177624800, 10800⟩, ⟨1189112400, 7200⟩,
      ⟨1209074400, 10800⟩, ⟨1219957200, 7200⟩, ⟨1240524000, 10800⟩, ⟨1250802000, 7200⟩,
      ⟨1272578400, 10800⟩, ⟨1281474000, 7200⟩, ⟨1284069600, 10800⟩, ⟨1285880400, 7200⟩,
      ⟨1400191200, 10800⟩, ⟨1403816400, 7200⟩, ⟨1406844000, 10800⟩, ⟨1411678800, 7200⟩,
      ⟨1682632800, 10800⟩]
  tail := .seasonal 7200 10800 ⟨4, 5, 5, 0⟩ ⟨10, 5, 4, 86400⟩

def ZoneEntry.africaJohannesburg : ZoneEntry where
  meanSolar := 6720
  initial := 7200
  transitions := []
  tail := .constant 7200

def ZoneEntry.americaAnchorage : ZoneEntry where
  meanSolar := 50424
  initial := -32400
  transitions :=
    [⟨954673200, -28800⟩, ⟨972813600, -32400⟩, ⟨986122800, -28800⟩, ⟨1004263200, -32400⟩,
      ⟨1018177200, -28800⟩, ⟨1035712800, -32400⟩, ⟨1049626800, -28800⟩, ⟨1067162400, -32400⟩,
      ⟨1081076400, -28800⟩, ⟨1099216800, -32400⟩, ⟨1112526000, -28800⟩, ⟨1130666400, -32400⟩,
      ⟨1143975600, -28800⟩, ⟨1162116000, -32400⟩, ⟨1173610800, -28800⟩]
  tail := .seasonal (-32400) (-28800) ⟨3, 2, 0, 7200⟩ ⟨11, 1, 0, 7200⟩

def ZoneEntry.americaBogota : ZoneEntry where
  meanSolar := -17776
  initial := -18000
  transitions := []
  tail := .constant (-18000)

def ZoneEntry.americaBuenosAires : ZoneEntry where
  meanSolar := -14028
  initial := -10800
  transitions :=
    [⟨952052400, -10800⟩, ⟨1198983600, -7200⟩, ⟨1205632800, -10800⟩, ⟨1224385200, -7200⟩,
      ⟨1237082400, -10800⟩]
  tail := .constant (-10800)

def ZoneEntry.americaChicago : ZoneEntry where
  meanSolar := -21036
  initial := -21600
  transitions :=
    [⟨954662400, -18000⟩, ⟨972802800, -21600⟩, ⟨986112000, -18000⟩, ⟨1004252400, -21600⟩,
      ⟨1018166400, -18000⟩, ⟨1035702000, -21600⟩, ⟨1049616000, -18000⟩, ⟨1067151600, -21600⟩,
      ⟨1081065600, -18000⟩, ⟨1099206000, -21600⟩, ⟨1112515200, -18000⟩, ⟨1130655600, -21600⟩,
      ⟨1143964800, -18000⟩, ⟨1162105200, -21600⟩, ⟨1173600000, -18000⟩]
  tail := .seasonal (-21600) (-18000) ⟨3, 2, 0, 7200⟩ ⟨11, 1, 0, 7200⟩

def ZoneEntry.americaDenver : ZoneEntry where
  meanSolar := -25196
  initial := -25200
  transitions :=
    [⟨954666000, -21600⟩, ⟨972806400, -25200⟩, ⟨986115600, -21600⟩, ⟨1004256000, -25200⟩,
      ⟨1018170000, -21600⟩, ⟨1035705600, -25200⟩, ⟨1049619600, -21600⟩, ⟨1067155200, -25200⟩,
      ⟨1081069200, -21600⟩, ⟨1099209600, -25200⟩, ⟨1112518800, -21600⟩, ⟨1130659200, -25200⟩,
      ⟨1143968400, -21600⟩, ⟨1162108800, -25200⟩, ⟨1173603600, -21600⟩]
  tail := .seasonal (-25200) (-21600) ⟨3, 2, 0, 7200⟩ ⟨11, 1, 0, 7200⟩

def ZoneEntry.americaHalifax : ZoneEntry where
  meanSolar := -15264
  initial := -14400
  transitions :=
    [⟨954655200, -10800⟩, ⟨972795600, -14400⟩, ⟨986104800, -10800⟩, ⟨1004245200, -14400⟩,
      ⟨1018159200, -10800⟩, ⟨1035694800, -14400⟩, ⟨1049608800, -10800⟩, ⟨1067144400, -14400⟩,
      ⟨1081058400, -10800⟩, ⟨1099198800, -14400⟩, ⟨1112508000, -10800⟩, ⟨1130648400, -14400⟩,
      ⟨1143957600, -10800⟩, ⟨1162098000, -14400⟩, ⟨1173592800, -10800⟩]
  tail := .seasonal (-14400) (-10800) ⟨3, 2, 0, 7200⟩ ⟨11, 1, 0, 7200⟩

def ZoneEntry.americaLosAngeles : ZoneEntry where
  meanSolar := -28378
  initial := -28800
  transitions :=
    [⟨954669600, -25200⟩, ⟨972810000, -28800⟩, ⟨986119200, -25200⟩, ⟨1004259600, -28800⟩,
      ⟨1018173600, -25200⟩, ⟨1035709200, -28800⟩, ⟨1049623200, -25200⟩, ⟨1067158800, -28800⟩,
      ⟨1081072800, -25200⟩, ⟨1099213200, -28800⟩, ⟨1112522400, -25200⟩, ⟨1130662800, -28800⟩,
      ⟨1143972000, -25200⟩, ⟨1162112400, -28800⟩, ⟨1173607200, -25200⟩]
  tail := .seasonal (-28800) (-25200) ⟨3, 2, 0, 7200⟩ ⟨11, 1, 0, 7200⟩

def ZoneEntry.americaNewYork : ZoneEntry where
  meanSolar := -17762
  initial := -18000
  transitions :=
    [⟨954658800, -14400⟩, ⟨972799200, -18000⟩, ⟨986108400, -14400⟩, ⟨1004248800, -18000⟩,
      ⟨1018162800, -14400⟩, ⟨1035698400, -18000⟩, ⟨1049612400, -14400⟩, ⟨1067148000, -18000⟩,
      ⟨1081062000, -14400⟩, ⟨1099202400, -18000⟩, ⟨1112511600, -14400⟩, ⟨1130652000, -18000⟩,
      ⟨1143961200, -14400⟩, ⟨1162101600, -18000⟩, ⟨1173596400, -14400⟩]
  tail := .seasonal (-18000) (-14400) ⟨3, 2, 0, 7200⟩ ⟨11, 1, 0, 7200⟩

def ZoneEntry.americaNuuk : ZoneEntry where
  meanSolar := -12416
  initial := -10800
  transitions :=
    [⟨954032400, -7200⟩, ⟨972781200, -10800⟩, ⟨985482000, -7200⟩, ⟨1004230800, -10800⟩,
      ⟨1017536400, -7200⟩, ⟨1035680400, -10800⟩, ⟨1048986000, -7200⟩, ⟨1067130000, -10800⟩,
      ⟨1080435600, -7200⟩, ⟨1099184400, -10800⟩, ⟨1111885200, -7200⟩, ⟨1130634000, -10800⟩,
      ⟨1143334800, -7200⟩, ⟨1162083600, -10800⟩, ⟨1174784400, -7200⟩, ⟨1193533200, -10800⟩,
      ⟨1206838800, -7200⟩, ⟨1224982800, -10800⟩, ⟨1238288400, -7200⟩, ⟨1256432400, -10800⟩,
      ⟨1269738000, -7200⟩, ⟨1288486800, -10800⟩, ⟨1301187600, -7200⟩, ⟨1319936400, -10800⟩,
      ⟨1332637200, -7200⟩, ⟨1351386000, -10800⟩, ⟨1364691600, -7200⟩, ⟨1382835600, -10800⟩,
      ⟨1396141200, -7200⟩, ⟨1414285200, -10800⟩, ⟨1427590800, -7200⟩, ⟨1445734800, -10800⟩,
      ⟨1459040400, -7200⟩, ⟨1477789200, -10800⟩, ⟨1490490000, -7200⟩, ⟨1509238800, -10800⟩,
      ⟨1521939600, -7200⟩, ⟨1540688400, -10800⟩, ⟨1553994000, -7200⟩, ⟨1572138000, -10800⟩,
      ⟨1585443600, -7200⟩, ⟨1603587600, -10800⟩, ⟨1616893200, -7200⟩, ⟨1635642000, -10800⟩,
      ⟨1648342800, -7200⟩, ⟨1667091600, -10800⟩, ⟨1679792400, -7200⟩, ⟨1698541200, -7200⟩]
  tail := .seasonal (-7200) (-3600) ⟨3, 5, 0, -3600⟩ ⟨10, 5, 0, 0⟩

def ZoneEntry.americaPhoenix : ZoneEntry where
  meanSolar := -26898
  initial := -25200
  transitions := []
  tail := .constant (-25200)

def ZoneEntry.americaSaoPaulo : ZoneEntry where
  meanSolar := -11188
  initial := -7200
  transitions :=
    [⟨951616800, -10800⟩, ⟨970974000, -7200⟩, ⟨982461600, -10800⟩, ⟨1003028400, -7200⟩,
      ⟨1013911200, -10800⟩, ⟨1036292400, -7200⟩, ⟨1045360800, -10800⟩, ⟨1066532400, -7200⟩,
      ⟨1076810400, -10800⟩, ⟨1099364400, -7200⟩, ⟨1108864800, -10800⟩, ⟨1129431600, -7200⟩,
      ⟨1140314400, -10800⟩, ⟨1162695600, -7200⟩, ⟨1172368800, -10800⟩, ⟨1192330800, -7200⟩,
      ⟨1203213600, -10800⟩, ⟨1224385200, -7200⟩, ⟨1234663200, -10800⟩, ⟨1255834800, -7200⟩,
      ⟨1266717600, -10800⟩, ⟨1287284400, -7200⟩, ⟨1298167200, -10800⟩, ⟨1318734000, -7200⟩,
      ⟨1330221600, -10800⟩, ⟨1350788400, -7200⟩, ⟨1361066400, -10800⟩, ⟨1382238000, -7200⟩,
      ⟨1392516000, -10800⟩, ⟨1413687600, -7200⟩, ⟨1424570400, -10800⟩, ⟨1445137200, -7200⟩,
      ⟨1456020000, -10800⟩, ⟨1476586800, -7200⟩, ⟨1487469600, -10800⟩, ⟨1508036400, -7200⟩,
      ⟨1518919200, -10800⟩, ⟨1541300400, -7200⟩, ⟨1550368800, -10800⟩]
  tail := .constant (-10800)

def ZoneEntry.americaStJohns : ZoneEntry where
  meanSolar := -12652
  initial := -12600
  transitions :=
    [⟨954646260, -9000⟩, ⟨972786660, -12600⟩, ⟨986095860, -9000⟩, ⟨1004236260, -12600⟩,
      ⟨1018150260, -9000⟩, ⟨1035685860, -12600⟩, ⟨1049599860, -9000⟩, ⟨1067135460, -12600⟩,
      ⟨1081049460, -9000⟩, ⟨1099189860, -12600⟩, ⟨1112499060, -9000⟩, ⟨1130639460, -12600⟩,
      ⟨1143948660, -9000⟩, ⟨1162089060, -12600⟩, ⟨1173583860, -9000⟩, ⟨1194143460, -12600⟩,
      ⟨1205033460, -9000⟩, ⟨1225593060, -12600⟩, ⟨1236483060, -9000⟩, ⟨1257042660, -12600⟩,
      ⟨1268537460, -9000⟩, ⟨1289097060, -12600⟩, ⟨1299987060, -9000⟩, ⟨1320114600, -9000⟩]
  tail := .seasonal (-12600) (-9000) ⟨3, 2, 0, 7200⟩ ⟨11, 1, 0, 7200⟩

def ZoneEntry.asiaDubai : ZoneEntry where
  meanSolar := 13272
  initial := 14400
  transitions := []
  tail := .constant 14400

def ZoneEntry.asiaJerusalem : ZoneEntry where
  meanSolar := 8454
  initial := 7200
  transitions :=
    [⟨955670400, 10800⟩, ⟨970783200, 7200⟩, ⟨986770800, 10800⟩, ⟨1001282400, 7200⟩,
      ⟨1017356400, 10800⟩, ⟨1033941600, 7200⟩, ⟨1048806000, 10800⟩, ⟨1065132000, 7200⟩,
      ⟨1081292400, 10800⟩, ⟨1095804000, 7200⟩, ⟨1112313600, 10800⟩, ⟨1128812400, 7200⟩,
      ⟨1143763200, 10800⟩, ⟨1159657200, 7200⟩, ⟨1175212800, 10800⟩, ⟨1189897200, 7200⟩,
      ⟨1206662400, 10800⟩, ⟨1223161200, 7200⟩, ⟨1238112000, 10800⟩, ⟨1254006000, 7200⟩,
      ⟨1269561600, 10800⟩, ⟨1284246000, 7200⟩, ⟨1301616000, 10800⟩, ⟨1317510000, 7200⟩,
      ⟨1333065600, 10800⟩, ⟨1348354800, 7200⟩, ⟨1364515200, 10800⟩]
  tail := .seasonal 7200 10800 ⟨3, 4, 4, 93600⟩ ⟨10, 5, 0, 7200⟩

def ZoneEntry.asiaKolkata : ZoneEntry where
  meanSolar := 21208
  initial := 19800
  transitions := []
  tail := .constant 19800

def ZoneEntry.asiaSeoul : ZoneEntry where
  meanSolar := 30472
  initial := 32400
  transitions := []
  tail := .constant 32400

def ZoneEntry.asiaShanghai : ZoneEntry where
  meanSolar := 29143
  initial := 28800
  transitions := []
  tail := .constant 28800

def ZoneEntry.asiaSingapore : ZoneEntry where
  meanSolar := 24925
  initial := 28800
  transitions := []
  tail := .constant 28800

def ZoneEntry.asiaTokyo : ZoneEntry where
  meanSolar := 33539
  initial := 32400
  transitions := []
  tail := .constant 32400

def ZoneEntry.asiaYangon : ZoneEntry where
  meanSolar := 23087
  initial := 23400
  transitions := []
  tail := .constant 23400

def ZoneEntry.australiaLordHowe : ZoneEntry where
  meanSolar := 38180
  initial := 39600
  transitions :=
    [⟨953996400, 37800⟩, ⟨967303800, 39600⟩, ⟨985446000, 37800⟩, ⟨1004196600, 39600⟩,
      ⟨1017500400, 37800⟩, ⟨1035646200, 39600⟩, ⟨1048950000, 37800⟩, ⟨1067095800, 39600⟩,
      ⟨1080399600, 37800⟩, ⟨1099150200, 39600⟩, ⟨1111849200, 37800⟩, ⟨1130599800, 39600⟩,
      ⟨1143903600, 37800⟩, ⟨1162049400, 39600⟩, ⟨1174748400, 37800⟩, ⟨1193499000, 39600⟩,
      ⟨1207407600, 37800⟩]
  tail := .seasonal 37800 39600 ⟨10, 1, 0, 7200⟩ ⟨4, 1, 0, 7200⟩

def ZoneEntry.australiaPerth : ZoneEntry where
  meanSolar := 27804
  initial := 28800
  transitions :=
    [⟨1165082400, 32400⟩, ⟨1174759200, 28800⟩, ⟨1193508000, 32400⟩, ⟨1206813600, 28800⟩,
      ⟨1224957600, 32400⟩, ⟨1238263200, 28800⟩]
  tail := .constant 28800

def ZoneEntry.australiaSydney : ZoneEntry where
  meanSolar := 36292
  initial := 39600
  transitions :=
    [⟨954000000, 36000⟩, ⟨967305600, 39600⟩, ⟨985449600, 36000⟩, ⟨1004198400, 39600⟩,
      ⟨1017504000, 36000⟩, ⟨1035648000, 39600⟩, ⟨1048953600, 36000⟩, ⟨1067097600, 39600⟩,
      ⟨1080403200, 36000⟩, ⟨1099152000, 39600⟩, ⟨1111852800, 36000⟩, ⟨1130601600, 39600⟩,
      ⟨1143907200, 36000⟩, ⟨1162051200, 39600⟩, ⟨1174752000, 36000⟩, ⟨1193500800, 39600⟩,
      ⟨1207411200, 36000⟩]
  tail := .seasonal 36000 39600 ⟨10, 1, 0, 7200⟩ ⟨4, 1, 0, 10800⟩

def ZoneEntry.europeAthens : ZoneEntry where
  meanSolar := 5692
  initial := 10800
  transitions := []
  tail := .seasonal 7200 10800 ⟨3, 5, 0, 10800⟩ ⟨10, 5, 0, 14400⟩

def ZoneEntry.europeBerlin : ZoneEntry where
  meanSolar := 3208
  initial := 7200
  transitions := []
  tail := .seasonal 3600 7200 ⟨3, 5, 0, 7200⟩ ⟨10, 5, 0, 10800⟩

def ZoneEntry.europeBucharest : ZoneEntry where
  meanSolar := 6264
  initial := 7200
  transitions := []
  tail := .seasonal 7200 10800 ⟨3, 5, 0, 10800⟩ ⟨10, 5, 0, 14400⟩

def ZoneEntry.europeBudapest : ZoneEntry where
  meanSolar := 4580
  initial := 7200
  transitions := []
  tail := .seasonal 3600 7200 ⟨3, 5, 0, 7200⟩ ⟨10, 5, 0, 10800⟩

def ZoneEntry.europeHelsinki : ZoneEntry where
  meanSolar := 5989
  initial := 10800
  transitions := []
  tail := .seasonal 7200 10800 ⟨3, 5, 0, 10800⟩ ⟨10, 5, 0, 14400⟩

def ZoneEntry.europeLondon : ZoneEntry where
  meanSolar := -75
  initial := 0
  transitions := []
  tail := .seasonal 0 3600 ⟨3, 5, 0, 3600⟩ ⟨10, 5, 0, 7200⟩

def ZoneEntry.europeMoscow : ZoneEntry where
  meanSolar := 9017
  initial := 10800
  transitions :=
    [⟨954025200, 14400⟩, ⟨972774000, 10800⟩, ⟨985474800, 14400⟩, ⟨1004223600, 10800⟩,
      ⟨1017529200, 14400⟩, ⟨1035673200, 10800⟩, ⟨1048978800, 14400⟩, ⟨1067122800, 10800⟩,
      ⟨1080428400, 14400⟩, ⟨1099177200, 10800⟩, ⟨1111878000, 14400⟩, ⟨1130626800, 10800⟩,
      ⟨1143327600, 14400⟩, ⟨1162076400, 10800⟩, ⟨1174777200, 14400⟩, ⟨1193526000, 10800⟩,
      ⟨1206831600, 14400⟩, ⟨1224975600, 10800⟩, ⟨1238281200, 14400⟩, ⟨1256425200, 10800⟩,
      ⟨1269730800, 14400⟩, ⟨1288479600, 10800⟩, ⟨1301180400, 14400⟩, ⟨1414274400, 10800⟩]
  tail := .constant 10800

def ZoneEntry.europeParis : ZoneEntry where
  meanSolar := 561
  initial := 7200
  transitions := []
  tail := .seasonal 3600 7200 ⟨3, 5, 0, 7200⟩ ⟨10, 5, 0, 10800⟩

def ZoneEntry.pacificApia : ZoneEntry where
  meanSolar := 45184
  initial := -39600
  transitions :=
    [⟨1285498800, -36000⟩, ⟨1301752800, -39600⟩, ⟨1316872800, -36000⟩, ⟨1325239200, 50400⟩,
      ⟨1333202400, 46800⟩, ⟨1348927200, 50400⟩, ⟨1365256800, 46800⟩, ⟨1380376800, 50400⟩,
      ⟨1396706400, 46800⟩, ⟨1411826400, 50400⟩, ⟨1428156000, 46800⟩, ⟨1443276000, 50400⟩,
      ⟨1459605600, 46800⟩, ⟨1474725600, 50400⟩, ⟨1491055200, 46800⟩, ⟨1506175200, 50400⟩,
      ⟨1522504800, 46800⟩, ⟨1538229600, 50400⟩, ⟨1554559200, 46800⟩, ⟨1569679200, 50400⟩,
      ⟨1586008800, 46800⟩, ⟨1601128800, 50400⟩, ⟨1617458400, 46800⟩]
  tail := .constant 46800

def ZoneEntry.pacificAuckland : ZoneEntry where
  meanSolar := 41944
  initial := 46800
  transitions :=
    [⟨953388000, 43200⟩, ⟨970322400, 46800⟩, ⟨984837600, 43200⟩, ⟨1002376800, 46800⟩,
      ⟨1016287200, 43200⟩, ⟨1033826400, 46800⟩, ⟨1047736800, 43200⟩, ⟨1065276000, 46800⟩,
      ⟨1079791200, 43200⟩, ⟨1096725600, 46800⟩, ⟨1111240800, 43200⟩, ⟨1128175200, 46800⟩,
      ⟨1142690400, 43200⟩, ⟨1159624800, 46800⟩, ⟨1174140000, 43200⟩, ⟨1191074400, 46800⟩]
  tail := .seasonal 43200 46800 ⟨9, 5, 0, 7200⟩ ⟨4, 1, 0, 10800⟩

def ZoneEntry.pacificChatham : ZoneEntry where
  meanSolar := 44028
  initial := 49500
  transitions :=
    [⟨953388000, 45900⟩, ⟨970322400, 49500⟩, ⟨984837600, 45900⟩, ⟨1002376800, 49500⟩,
      ⟨1016287200, 45900⟩, ⟨1033826400, 49500⟩, ⟨1047736800, 45900⟩, ⟨1065276000, 49500⟩,
      ⟨1079791200, 45900⟩, ⟨1096725600, 49500⟩, ⟨1111240800, 45900⟩, ⟨1128175200, 49500⟩,
      ⟨1142690400, 45900⟩, ⟨1159624800, 49500⟩, ⟨1174140000, 45900⟩, ⟨1191074400, 49500⟩]
  tail := .seasonal 45900 49500 ⟨9, 5, 0, 9900⟩ ⟨4, 1, 0, 13500⟩

def ZoneEntry.pacificHonolulu : ZoneEntry where
  meanSolar := -37886
  initial := -36000
  transitions := []
  tail := .constant (-36000)

/-- The zones with rules of their own. -/
def ZoneEntry.table : List (String × ZoneEntry) :=
  [("Africa/Cairo", .africaCairo),
    ("Africa/Johannesburg", .africaJohannesburg),
    ("America/Anchorage", .americaAnchorage),
    ("America/Bogota", .americaBogota),
    ("America/Buenos_Aires", .americaBuenosAires),
    ("America/Chicago", .americaChicago),
    ("America/Denver", .americaDenver),
    ("America/Halifax", .americaHalifax),
    ("America/Los_Angeles", .americaLosAngeles),
    ("America/New_York", .americaNewYork),
    ("America/Nuuk", .americaNuuk),
    ("America/Phoenix", .americaPhoenix),
    ("America/Sao_Paulo", .americaSaoPaulo),
    ("America/St_Johns", .americaStJohns),
    ("Asia/Dubai", .asiaDubai),
    ("Asia/Jerusalem", .asiaJerusalem),
    ("Asia/Kolkata", .asiaKolkata),
    ("Asia/Seoul", .asiaSeoul),
    ("Asia/Shanghai", .asiaShanghai),
    ("Asia/Singapore", .asiaSingapore),
    ("Asia/Tokyo", .asiaTokyo),
    ("Asia/Yangon", .asiaYangon),
    ("Australia/Lord_Howe", .australiaLordHowe),
    ("Australia/Perth", .australiaPerth),
    ("Australia/Sydney", .australiaSydney),
    ("Europe/Athens", .europeAthens),
    ("Europe/Berlin", .europeBerlin),
    ("Europe/Bucharest", .europeBucharest),
    ("Europe/Budapest", .europeBudapest),
    ("Europe/Helsinki", .europeHelsinki),
    ("Europe/London", .europeLondon),
    ("Europe/Moscow", .europeMoscow),
    ("Europe/Paris", .europeParis),
    ("Pacific/Apia", .pacificApia),
    ("Pacific/Auckland", .pacificAuckland),
    ("Pacific/Chatham", .pacificChatham),
    ("Pacific/Honolulu", .pacificHonolulu)]

/-- The rules of a named zone; a zone outside the table keeps universal time. -/
def ZoneRules.ofName (name : String) : ZoneRules :=
  (ZoneEntry.table.lookup name).elim (.constant 0) ZoneEntry.rules

end VCalendar
