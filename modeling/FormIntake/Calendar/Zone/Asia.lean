import FormIntake.Calendar.Zone.Record

/-! # Zones of Asia -/

namespace FormIntake.Calendar.Zone

/-- The zones of Asia. -/
def asia : List ZoneRecord :=
  [⟨"Asia/Almaty", "+06 21600,+07 25200,+05 18000",
    "0 15277da0.1 f13470.0 efff10.1 f13470.0 efff10.1 f13470.0 f15090.1 f00d20.0 eff100.1
     eff100.0 eff100.1 eff100.0 eff100.1 eff100.0 eff100.1 eff100.0 eff100.1 eff100.0 eff100.1
     f92b80.0 1dff010.2 93a800.0 5c3af0.1 eff100.0 eff100.1 eff100.0 eff100.1 eff100.0
     eff100.1 eff100.0 f92b80.1 114db00.0 cb0700.1 114db00.0 cb0700.1 114db00.0 cb0700.1
     11e1580.0 c1cc80.1 11e1580.0 c1cc80.1 11e1580.0 cb0700.1 114db00.0 cb0700.1 114db00.0
     cb0700.1 11e1580.0 245cd360.2",
    "<+05>-5"⟩,
   ⟨"Asia/Amman", "EET 7200,EEST 10800,+03 10800",
    "0 67279e0.1 9a3170.0 1178c10.1 c9a770.0 1178c10.1 c9a770.0 118dd90.1 f285f0.0 eead90.1
     c9a770.0 1163a90.1 c9a770.0 c3b2890.1 f13470.0 f3f390.1 efe2f0.0 efff10.1 efe2f0.0
     efff10.1 f91d70.0 118dd90.1 c70470.0 10bae90.1 d43370.0 ffd110.1 d6d670.0 1027410.1
     e6a870.0 efff10.1 efe2f0.0 efff10.1 dd6df0.0 10bae90.1 d44180.0 10ba080.1 dd7c00.0
     1026600.1 dd7c00.0 1026600.1 dd7c00.0 1790d00.1 700f80.0 f7da00.1 f14280.0 ee9f80.1
     f14280.0 eff100.1 eff100.0 eff100.1 114db00.0 cb0700.1 10ba080.0 dd7c00.1 eff100.0
     eff100.1 114db00.0 cb0700.1 114db00.0 cb0700.1 11e1580.0 c1cc80.1 11e1580.0 c1cc80.1
     11e1580.0 cb0700.1 114db00.0 cb0700.1 33e82f0.0 814110.1 11e1580.0 c1cc80.1 11e1580.0
     cb0700.1 114db00.0 cb0700.1 114db00.0 cb0700.1 114db00.0 cb0700.1 114db00.0 cb0700.1
     11e1580.0 c1cc80.1 11e1580.0 9ce280.1 142ff80.2",
    "<+03>-3"⟩,
   ⟨"Asia/Anadyr", "+13 46800,+14 50400,+12 43200,+11 39600",
    "0 15271b30.1 f13470.0 1e14190.2 efff10.0 f13470.2 f15090.0 f00d20.2 eff100.0 eff100.2
     eff100.0 eff100.2 eff100.0 eff100.2 eff100.0 eff100.2 eff100.0 eff100.2 eff100.0 f92b80.2
     1dff010.3 93a800.2 5c3af0.0 eff100.2 eff100.0 eff100.2 eff100.0 eff100.2 eff100.0
     eff100.2 f92b80.0 114db00.2 cb0700.0 114db00.2 cb0700.0 114db00.2 cb0700.0 11e1580.2
     c1cc80.0 11e1580.2 c1cc80.0 11e1580.2 cb0700.0 114db00.2 cb0700.0 114db00.2 cb0700.0
     11e1580.2 c1cc80.0 11e1580.2 c1cc80.0 11e1580.2 c1cc80.0 11e1580.2 cb0700.0 114db00.2
     cb0700.0 114db00.2 1e92a90.3 c1cc80.2",
    "<+12>-12"⟩,
   ⟨"Asia/Aqtau", "+05 18000,+06 21600,+04 14400",
    "0 1618ce30.1 1e12570.0 efff10.1 f13470.0 f15090.1 f00d20.0 eff100.1 eff100.0 eff100.1
     eff100.0 eff100.1 eff100.0 eff100.1 eff100.0 eff100.1 eff100.0 eff100.1 f92b80.0
     1dff010.2 93a800.0 5c3af0.1 eff100.0 eff100.1 eff100.0 eff100.1 eff100.2 efff10.0
     eff100.2 f92b80.0 114db00.2 cb0700.0 114db00.2 cb0700.0 114db00.2 cb0700.0 11e1580.2
     c1cc80.0 11e1580.2 c1cc80.0 11e1580.2 cb0700.0 114db00.2 cb0700.0 114db00.2 cb0700.0",
    "<+05>-5"⟩,
   ⟨"Asia/Aqtobe", "+05 18000,+06 21600,+04 14400",
    "0 15278bb0.1 2d267f0.0 efff10.1 f13470.0 f15090.1 f00d20.0 eff100.1 eff100.0 eff100.1
     eff100.0 eff100.1 eff100.0 eff100.1 eff100.0 eff100.1 eff100.0 eff100.1 f92b80.0
     1dff010.2 93a800.0 5c3af0.1 eff100.0 eff100.1 eff100.0 eff100.1 eff100.0 eff100.1
     eff100.0 f92b80.1 114db00.0 cb0700.1 114db00.0 cb0700.1 114db00.0 cb0700.1 11e1580.0
     c1cc80.1 11e1580.0 c1cc80.1 11e1580.0 cb0700.1 114db00.0 cb0700.1 114db00.0 cb0700.1
     11e1580.0",
    "<+05>-5"⟩,
   ⟨"Asia/Ashgabat", "+05 18000,+06 21600,+04 14400",
    "0 15278bb0.1 f13470.0 efff10.1 f13470.0 efff10.1 f13470.0 f15090.1 f00d20.0 eff100.1
     eff100.0 eff100.1 eff100.0 eff100.1 eff100.0 eff100.1 eff100.0 eff100.1 eff100.0 eff100.1
     f92b80.0 1dff010.2 93a800.0",
    "<+05>-5"⟩,
   ⟨"Asia/Atyrau", "+05 18000,+06 21600,+04 14400",
    "0 1618ce30.1 1e12570.0 efff10.1 f13470.0 f15090.1 f00d20.0 eff100.1 eff100.0 eff100.1
     eff100.0 eff100.1 eff100.0 eff100.1 eff100.0 eff100.1 eff100.0 eff100.1 f92b80.0
     1dff010.2 93a800.0 5c3af0.1 eff100.0 eff100.1 eff100.0 eff100.1 eff100.0 eff100.1
     eff100.0 f92b80.1 114db00.0 cb0700.1 114db00.0 cb0700.1 114db00.0 1e92a90.2 c1cc80.0
     11e1580.2 c1cc80.0 11e1580.2 cb0700.0 114db00.2 cb0700.0 114db00.2 cb0700.0",
    "<+05>-5"⟩,
   ⟨"Asia/Baghdad", "+03 10800,+04 14400",
    "0 17306850.1 c9a770.0 eead90.1 f285f0.0 f15090.1 f13470.0 efff10.1 eead90.0 eff100.1
     eff100.0 eff100.1 eff100.0 eff100.1 eff100.0 eff100.1 eff100.0 eff100.1 f92b80.0 f15ea0.1
     f14280.0 f14280.1 f14280.0 eff100.1 f14280.0 eff100.1 f14280.0 eff100.1 f14280.0 f14280.1
     f14280.0 eff100.1 f14280.0 eff100.1 f14280.0 eff100.1 f14280.0 f14280.1 f14280.0 eff100.1
     f14280.0 eff100.1 f14280.0 eff100.1 f14280.0 f14280.1 f14280.0 eff100.1 f14280.0 eff100.1
     f14280.0 eff100.1 f14280.0",
    "<+03>-3"⟩,
   ⟨"Asia/Baku", "+04 14400,+05 18000,+03 10800",
    "0 152799c0.1 f13470.0 efff10.1 f13470.0 efff10.1 f13470.0 f15090.1 f00d20.0 eff100.1
     eff100.0 eff100.1 eff100.0 eff100.1 eff100.0 eff100.1 eff100.0 eff100.1 eff100.0 eff100.1
     f92b80.0 1dff010.2 eff100.0 788dea0.1 114db00.0 caf8f0.1 114db00.0 cb0700.1 114db00.0
     cb0700.1 11e1580.0 c1cc80.1 11e1580.0 c1cc80.1 11e1580.0 cb0700.1 114db00.0 cb0700.1
     114db00.0 cb0700.1 11e1580.0 c1cc80.1 11e1580.0 c1cc80.1 11e1580.0 c1cc80.1 11e1580.0
     cb0700.1 114db00.0 cb0700.1 114db00.0 cb0700.1 11e1580.0 c1cc80.1 11e1580.0 c1cc80.1
     11e1580.0 cb0700.1 114db00.0 cb0700.1 114db00.0 cb0700.1 114db00.0",
    "<+04>-4"⟩,
   ⟨"Asia/Bangkok", "+07 25200",
    "0",
    "<+07>-7"⟩,
   ⟨"Asia/Barnaul", "+07 25200,+08 28800,+06 21600",
    "0 15276f90.1 f13470.0 efff10.1 f13470.0 efff10.1 f13470.0 f15090.1 f00d20.0 eff100.1
     eff100.0 eff100.1 eff100.0 eff100.1 eff100.0 eff100.1 eff100.0 eff100.1 eff100.0 eff100.1
     f92b80.0 1dff010.2 93a800.0 5c3af0.1 eff100.0 eff100.1 eff100.0 eff100.1 eff100.0
     eff100.1 52e450.0 9d1ac0.2 f92b80.0 114db00.2 cb0700.0 114db00.2 cb0700.0 114db00.2
     cb0700.0 11e1580.2 c1cc80.0 11e1580.2 c1cc80.0 11e1580.2 cb0700.0 114db00.2 cb0700.0
     114db00.2 cb0700.0 11e1580.2 c1cc80.0 11e1580.2 c1cc80.0 11e1580.2 c1cc80.0 11e1580.2
     cb0700.0 114db00.2 cb0700.0 114db00.2 cb0700.0 11e1580.2 c1cc80.0 6bdad70.2 2aaf710.0",
    "<+07>-7"⟩,
   ⟨"Asia/Beirut", "EET 7200,EEST 10800",
    "0 4a65e60.1 851970.0 1178c10.1 c9a770.0 1178c10.1 c9a770.0 1178c10.1 c9a770.0 118dd90.1
     c9a770.0 1178c10.1 c9a770.0 1163a90.1 c9a770.0 a818210.1 dd6df0.0 103c590.1 dd6df0.0
     103c590.1 dd6df0.0 103c590.1 dd6df0.0 12df590.1 b48f70.0 10fa310.1 d19070.0 103c590.1
     dd6df0.0 103c590.1 dd6df0.0 1051710.1 cd9bf0.0 e6c490.1 efe2f0.0 efff10.1 efe2f0.0
     efff10.1 efe2f0.0 f93990.1 efe2f0.0 efff10.1 efe2f0.0 efff10.1 efe2f0.0 efff10.1",
    "EET-2EEST,M3.5.0/0,M10.5.0/0"⟩,
   ⟨"Asia/Bishkek", "+06 21600,+07 25200,+05 18000",
    "0 15277da0.1 f13470.0 efff10.1 f13470.0 efff10.1 f13470.0 f15090.1 f00d20.0 eff100.1
     eff100.0 eff100.1 eff100.0 eff100.1 eff100.0 eff100.1 eff100.0 eff100.1 eff100.0 eff100.1
     f92b80.0 1b9a680.2 1289370.0 dd6df0.2 1027410.0 dd6df0.2 1027410.0 dd6df0.2 1027410.0
     dd6df0.2 1027410.0 e6a870.2 f02238.0 114ccf0.2 cb1510.0 114ccf0.2 cb1510.0 11e0770.2
     c1da90.0 11e0770.2 c1da90.0 11e0770.2 cb1510.0 114ccf0.2 cb1510.0 114ccf0.2 cb1510.0
     11e0770.2 c1da90.0",
    "<+06>-6"⟩,
   ⟨"Asia/Chita", "+09 32400,+10 36000,+08 28800",
    "0 15275370.1 f13470.0 efff10.1 f13470.0 efff10.1 f13470.0 f15090.1 f00d20.0 eff100.1
     eff100.0 eff100.1 eff100.0 eff100.1 eff100.0 eff100.1 eff100.0 eff100.1 eff100.0 eff100.1
     f92b80.0 1dff010.2 93a800.0 5c3af0.1 eff100.0 eff100.1 eff100.0 eff100.1 eff100.0
     eff100.1 eff100.0 f92b80.1 114db00.0 cb0700.1 114db00.0 cb0700.1 114db00.0 cb0700.1
     11e1580.0 c1cc80.1 11e1580.0 c1cc80.1 11e1580.0 cb0700.1 114db00.0 cb0700.1 114db00.0
     cb0700.1 11e1580.0 c1cc80.1 11e1580.0 c1cc80.1 11e1580.0 c1cc80.1 11e1580.0 cb0700.1
     114db00.0 cb0700.1 114db00.0 cb0700.1 11e1580.0 c1cc80.1 6bdad70.2 2ab0520.0",
    "<+09>-9"⟩,
   ⟨"Asia/Colombo", "+0530 19800,+0630 23400,+06 21600",
    "0 31a60028.1 cafff8.2 11ceea08.0",
    "<+0530>-5:30"⟩,
   ⟨"Asia/Damascus", "EET 7200,EEST 10800,+03 10800",
    "0 9e3400.1 c9a770.0 1178c10.1 c9a770.0 118dd90.1 c9a770.0 1178c10.1 c9a770.0 1178c10.1
     c9a770.0 1178c10.1 c9a770.0 118dd90.1 c9a770.0 1178c10.1 a21a70.0 13f1910.1 a21a70.0
     8a83790.1 e6a870.0 fbdc90.1 e6a870.0 2973090.1 135c270.0 bc9490.1 1419ff0.0 b35a10.1
     12f2af0.0 c72090.1 f285f0.0 efff10.1 efe2f0.0 f13470.1 f13470.0 fa8b10.1 e7f9f0.0
     e81610.1 f13470.0 f7e810.1 f13470.0 efff10.1 f13470.0 f15090.1 f13470.0 eead90.1 f285f0.0
     ed5c10.1 f3d770.0 efff10.1 f13470.0 f15090.1 f13470.0 efff10.1 f13470.0 efff10.1 f13470.0
     efff10.1 f13470.0 f15090.1 f13470.0 efff10.1 f13470.0 efff10.1 e556f0.0 f93990.1
     11e0770.0 cb1510.1 1161e70.0 c08910.1 11e0770.0 cb1510.1 114ccf0.0 cb1510.1 114ccf0.0
     cb1510.1 114ccf0.0 cb1510.1 114ccf0.0 cb1510.1 11e0770.0 c1da90.1 11e0770.0 c1da90.1
     11e0770.0 cb1510.1 114ccf0.0 cb1510.1 114ccf0.0 cb1510.1 114ccf0.0 cb1510.1 11e0770.0
     c1da90.1 11e0770.0 c1da90.1 11e0770.2",
    "<+03>-3"⟩,
   ⟨"Asia/Dhaka", "+06 21600,+07 25200",
    "0 4a3bc410.1 1011480.0",
    "<+06>-6"⟩,
   ⟨"Asia/Dili", "+09 32400,+08 28800",
    "0 bea3070.1 2dd96890.0",
    "<+09>-9"⟩,
   ⟨"Asia/Dubai", "+04 14400",
    "0",
    "<+04>-4"⟩,
   ⟨"Asia/Dushanbe", "+06 21600,+07 25200,+05 18000",
    "0 15277da0.1 f13470.0 efff10.1 f13470.0 efff10.1 f13470.0 f15090.1 f00d20.0 eff100.1
     eff100.0 eff100.1 eff100.0 eff100.1 eff100.0 eff100.1 eff100.0 eff100.1 eff100.0 eff100.1
     f92b80.0 1c59210.2",
    "<+05>-5"⟩,
   ⟨"Asia/Famagusta", "EET 7200,EEST 10800,+03 10800",
    "0 9edafe0.1 efe2f0.0 11cd210.1 c46170.0 e57310.1 e6a870.0 f93990.1 f13470.0 eead90.1
     efe2f0.0 f93990.1 e6a870.0 efff10.1 efe2f0.0 efff10.1 efe2f0.0 efff10.1 efe2f0.0 efff10.1
     f91d70.0 efff10.1 efe2f0.0 efff10.1 efe2f0.0 efff10.1 efe2f0.0 efff10.1 efe2f0.0 efff10.1
     efe2f0.0 efff10.1 f91d70.0 efff10.1 efe2f0.0 efff10.1 efe2f0.0 efff10.1 efe2f0.0 efff10.1
     efe2f0.0 efff10.1 efe2f0.0 f93990.1 efe2f0.0 efff10.1 efe2f0.0 efff10.1 1150530.0
     cb0700.1 11e1580.0 c1cc80.1 11e1580.0 c1cc80.1 11e1580.0 cb0700.1 114db00.0 cb0700.1
     114db00.0 cb0700.1 11e1580.0 c1cc80.1 11e1580.0 c1cc80.1 11e1580.0 c1cc80.1 11e1580.0
     cb0700.1 114db00.0 cb0700.1 114db00.0 cb0700.1 11e1580.0 c1cc80.1 11e1580.0 c1cc80.1
     11e1580.0 cb0700.1 114db00.0 cb0700.1 114db00.0 cb0700.1 114db00.0 cb0700.1 d94f40.2
     224a840.0",
    "EET-2EEST,M3.5.0/3,M10.5.0/4"⟩,
   ⟨"Asia/Gaza", "IST 7200,IDT 10800,EET 7200,EEST 10800",
    "0 87c8be0.1 8124f0.0 f93990.1 af4970.0 943c890.1 375f00.0 6d96b00.1 93a800.0 1308a80.1
     b883f0.0 1558290.1 9399f0.0 1221810.1 c70470.0 114e910.1 c1be70.0 139d310.1 a60ef0.0
     10bae90.1 caf8f0.0 114e910.1 d43370.0 114e910.1 d43370.0 1124610.1 cd9bf0.0 1124610.1
     c46170.0 11b8090.1 cd9bf0.0 9e4210.2 7d3e80.3 dd7c00.2 1026600.3 dd7c00.2 1026600.3
     dd7c00.2 114db00.3 efe2f0.2 f93990.3 efe2f0.2 efff10.3 efe2f0.2 efff10.3 efe2f0.2
     efff10.3 efe2f0.2 efff10.3 dd7c00.2 1026600.3 e2d010.2 ebee70.3 e556f0.2 fbdc90.3
     d99590.2 103a970.3 caf8f0.2 114e910.3 d44180.2 10cf23c.3 b48f34.2 1333bcc.3 a0c8b4.2
     13f1910.3 e6b680.2 f92b80.3 efe2f0.2 efff10.3 114ccf0.2 cc6690.3 1138980.2 cc6690.3
     11e0770.2 c1da90.3 11e0770.2 c1da90.3 11e0770.2 c9b580.3 1161e70.2 cb1510.3 114db00.2
     cb0700.3 11cc400.2 c46f80.3 11cd210.2 efff10.3 efe2f0.2 e6c490.3 f91d70.2 dd8a10.3
     10257f0.2 cb1510.3 114ccf0.2 cb1510.3 11e0770.2 c1da90.3 11e0770.2 c1da90.3 11e0770.2
     cb1510.3 114ccf0.2 cb1510.3 114ccf0.2 cb1510.3 11e0770.2 c1da90.3 11e0770.2 c1da90.3
     11e0770.2 c1da90.3 11e0770.2 cb1510.3 10b9270.2 d44f90.3 10257f0.2 dd8a10.3 efe2f0.2
     efff10.3 e6a870.2 f93990.3 d43370.2 40a790.3 92c70.2 cb1510.3 c1be70.2 376d10.3 1ba170.2
     cb1510.3 b883f0.2 376d10.3 24dbf0.2 cb1510.3 a60ef0.2 40a790.3 2e1670.2 cb1510.3 9cd470.2
     376d10.3 49c5f0.2 c1da90.3 9399f0.2 376d10.3 530070.2 c1da90.3 8124f0.2 40a790.3 5c3af0.2
     cb1510.3 6eaff0.2 376d10.3 6eaff0.2 cb1510.3 5c3af0.2 40a790.3 77ea70.2 cb1510.3 530070.2
     376d10.3 9399f0.2 c1da90.3 49c5f0.2 376d10.3 9cd470.2 c1da90.3 3750f0.2 40a790.3 a60ef0.2
     cb1510.3 24dbf0.2 376d10.3 b883f0.2 cb1510.3 1266f0.2 40a790.3 c1be70.2 cb1510.3 92c70.2
     40a790.3 caf8f0.2 1027410.3 e6a870.2 efff10.3 efe2f0.2 dd8a10.3 10257f0.2 d44f90.3
     10b9270.2 cb1510.3 114ccf0.2 cb1510.3 11e0770.2 c1da90.3 11e0770.2 c1da90.3 11e0770.2
     c1da90.3 11e0770.2 cb1510.3 114ccf0.2 cb1510.3 114ccf0.2 cb1510.3 11e0770.2 c1da90.3
     11e0770.2 c1da90.3 114ccf0.2 d44f90.3 10257f0.2 dd8a10.3 f91d70.2 e6c490.3 e6a870.2
     f93990.3 dd6df0.2 376d10.3 92c70.2 c1da90.3 d43370.2 376d10.3 1266f0.2 c1da90.3 c1be70.2
     40a790.3 1ba170.2 cb1510.3 af4970.2 376d10.3 2e1670.2 cb1510.3 9cd470.2 40a790.3 3750f0.2
     cb1510.3 9399f0.2 40a790.3 49c5f0.2 c1da90.3 8a5f70.2 376d10.3 5c3af0.2 c1da90.3 77ea70.2
     40a790.3 657570.2 cb1510.3 657570.2 376d10.3 77ea70.2 cb1510.3 5c3af0.2 376d10.3 8124f0.2
     cb1510.3 49c5f0.2 40a790.3 8a5f70.2 cb1510.3 408b70.2 376d10.3 a60ef0.2 c1da90.3 2e1670.2
     40a790.3 af4970.2 c1da90.3 24dbf0.2 40a790.3 b883f0.2 cb1510.3 1266f0.2 376d10.3",
    "EET-2EEST,M3.4.4/50,M10.4.4/50"⟩,
   ⟨"Asia/Hebron", "IST 7200,IDT 10800,EET 7200,EEST 10800",
    "0 87c8be0.1 8124f0.0 f93990.1 af4970.0 943c890.1 375f00.0 6d96b00.1 93a800.0 1308a80.1
     b883f0.0 1558290.1 9399f0.0 1221810.1 c70470.0 114e910.1 c1be70.0 139d310.1 a60ef0.0
     10bae90.1 caf8f0.0 114e910.1 d43370.0 114e910.1 d43370.0 1124610.1 cd9bf0.0 1124610.1
     c46170.0 11b8090.1 cd9bf0.0 9e4210.2 7d3e80.3 dd7c00.2 1026600.3 dd7c00.2 1026600.3
     dd7c00.2 114db00.3 efe2f0.2 f93990.3 efe2f0.2 efff10.3 efe2f0.2 efff10.3 efe2f0.2
     efff10.3 efe2f0.2 efff10.3 dd7c00.2 1026600.3 e2d010.2 ebee70.3 e556f0.2 fbdc90.3
     d99590.2 103a970.3 ceed70.2 110f490.3 d44180.2 10ba080.3 b5e0f0.2 1333bcc.3 a0c8b4.2
     264990.3 28d070.2 efff10.3 e6b680.2 f92b80.3 efe2f0.2 efff10.3 114ccf0.2 cc6690.3
     1138980.2 cc6690.3 11e0770.2 c1da90.3 11e0770.2 c1da90.3 11e0770.2 c9b580.3 1161e70.2
     cb1510.3 114db00.2 cb0700.3 11cc400.2 c46f80.3 11cd210.2 efff10.3 efe2f0.2 e6c490.3
     f91d70.2 dd8a10.3 10257f0.2 cb1510.3 114ccf0.2 cb1510.3 11e0770.2 c1da90.3 11e0770.2
     c1da90.3 11e0770.2 cb1510.3 114ccf0.2 cb1510.3 114ccf0.2 cb1510.3 11e0770.2 c1da90.3
     11e0770.2 c1da90.3 11e0770.2 c1da90.3 11e0770.2 cb1510.3 10b9270.2 d44f90.3 10257f0.2
     dd8a10.3 efe2f0.2 efff10.3 e6a870.2 f93990.3 d43370.2 40a790.3 92c70.2 cb1510.3 c1be70.2
     376d10.3 1ba170.2 cb1510.3 b883f0.2 376d10.3 24dbf0.2 cb1510.3 a60ef0.2 40a790.3 2e1670.2
     cb1510.3 9cd470.2 376d10.3 49c5f0.2 c1da90.3 9399f0.2 376d10.3 530070.2 c1da90.3 8124f0.2
     40a790.3 5c3af0.2 cb1510.3 6eaff0.2 376d10.3 6eaff0.2 cb1510.3 5c3af0.2 40a790.3 77ea70.2
     cb1510.3 530070.2 376d10.3 9399f0.2 c1da90.3 49c5f0.2 376d10.3 9cd470.2 c1da90.3 3750f0.2
     40a790.3 a60ef0.2 cb1510.3 24dbf0.2 376d10.3 b883f0.2 cb1510.3 1266f0.2 40a790.3 c1be70.2
     cb1510.3 92c70.2 40a790.3 caf8f0.2 1027410.3 e6a870.2 efff10.3 efe2f0.2 dd8a10.3
     10257f0.2 d44f90.3 10b9270.2 cb1510.3 114ccf0.2 cb1510.3 11e0770.2 c1da90.3 11e0770.2
     c1da90.3 11e0770.2 c1da90.3 11e0770.2 cb1510.3 114ccf0.2 cb1510.3 114ccf0.2 cb1510.3
     11e0770.2 c1da90.3 11e0770.2 c1da90.3 114ccf0.2 d44f90.3 10257f0.2 dd8a10.3 f91d70.2
     e6c490.3 e6a870.2 f93990.3 dd6df0.2 376d10.3 92c70.2 c1da90.3 d43370.2 376d10.3 1266f0.2
     c1da90.3 c1be70.2 40a790.3 1ba170.2 cb1510.3 af4970.2 376d10.3 2e1670.2 cb1510.3 9cd470.2
     40a790.3 3750f0.2 cb1510.3 9399f0.2 40a790.3 49c5f0.2 c1da90.3 8a5f70.2 376d10.3 5c3af0.2
     c1da90.3 77ea70.2 40a790.3 657570.2 cb1510.3 657570.2 376d10.3 77ea70.2 cb1510.3 5c3af0.2
     376d10.3 8124f0.2 cb1510.3 49c5f0.2 40a790.3 8a5f70.2 cb1510.3 408b70.2 376d10.3 a60ef0.2
     c1da90.3 2e1670.2 40a790.3 af4970.2 c1da90.3 24dbf0.2 40a790.3 b883f0.2 cb1510.3 1266f0.2
     376d10.3",
    "EET-2EEST,M3.4.4/50,M10.4.4/50"⟩,
   ⟨"Asia/Ho_Chi_Minh", "+08 28800,+07 25200",
    "0 a3dc700.1",
    "<+07>-7"⟩,
   ⟨"Asia/Hong_Kong", "HKT 28800,HKST 32400",
    "0 8e22b8.1 efe2f0.0 efff10.1 efe2f0.0 efff10.1 f91d70.0 efff10.1 efe2f0.0 5c5710.1
     1838af0.0 efff10.1 efe2f0.0 efff10.1 efe2f0.0 4d4ad10.1 d43370.0",
    "HKT-8"⟩,
   ⟨"Asia/Hovd", "+06 21600,+07 25200,+08 28800",
    "0 f0beaa0.1 9ddebf0.2 f13470.1 f15090.2 efe2f0.1 efff10.2 efe2f0.1 efff10.2 efe2f0.1
     efff10.2 efe2f0.1 efff10.2 efe2f0.1 efff10.2 efe2f0.1 efff10.2 f91d70.1 efff10.2 efe2f0.1
     efff10.2 efe2f0.1 efff10.2 efe2f0.1 efff10.2 efe2f0.1 efff10.2 efe2f0.1 f93990.2 efe2f0.1
     efff10.2 efe2f0.1 efff10.2 efe2f0.1 4dcb230.2 caf8f0.1 efff10.2 efe2f0.1 efff10.2
     efe2f0.1 efff10.2 efe2f0.1 efff10.2 efe2f0.1 efff10.2 f91d70.1 ff84990.2 efc6d0.1
     f01b30.2 efc6d0.1",
    "<+07>-7"⟩,
   ⟨"Asia/Irkutsk", "+08 28800,+09 32400,+07 25200",
    "0 15276180.1 f13470.0 efff10.1 f13470.0 efff10.1 f13470.0 f15090.1 f00d20.0 eff100.1
     eff100.0 eff100.1 eff100.0 eff100.1 eff100.0 eff100.1 eff100.0 eff100.1 eff100.0 eff100.1
     f92b80.0 1dff010.2 93a800.0 5c3af0.1 eff100.0 eff100.1 eff100.0 eff100.1 eff100.0
     eff100.1 eff100.0 f92b80.1 114db00.0 cb0700.1 114db00.0 cb0700.1 114db00.0 cb0700.1
     11e1580.0 c1cc80.1 11e1580.0 c1cc80.1 11e1580.0 cb0700.1 114db00.0 cb0700.1 114db00.0
     cb0700.1 11e1580.0 c1cc80.1 11e1580.0 c1cc80.1 11e1580.0 c1cc80.1 11e1580.0 cb0700.1
     114db00.0 cb0700.1 114db00.0 cb0700.1 11e1580.0 c1cc80.1 6bdad70.0",
    "<+08>-8"⟩,
   ⟨"Asia/Jakarta", "WIB 25200",
    "0",
    "WIB-7"⟩,
   ⟨"Asia/Jayapura", "WIT 32400",
    "0",
    "WIT-9"⟩,
   ⟨"Asia/Jerusalem", "IST 7200,IDT 10800",
    "0 87c8be0.1 8124f0.0 f93990.1 af4970.0 943c890.1 375f00.0 6d96b00.1 93a800.0 1308a80.1
     b883f0.0 1558290.1 9399f0.0 1221810.1 c70470.0 114e910.1 c1be70.0 139d310.1 a60ef0.0
     10bae90.1 caf8f0.0 114e910.1 d43370.0 114e910.1 d43370.0 1124610.1 cd9bf0.0 1124610.1
     c46170.0 11b8090.1 cd9bf0.0 ffd110.1 f3d770.0 f54510.1 e94b70.0 f69690.1 e010f0.0
     1126230.1 caf8f0.0 1275e10.1 e69a60.0 f3f390.1 dd6df0.0 f54510.1 fd11f0.0 e2d010.1
     f91d70.0 f69690.1 dd6df0.0 fbeaa0.1 fbc070.0 e42190.1 f285f0.0 ed5c10.1 e010f0.0 ffd110.1
     fbc070.0 e42190.1 f285f0.0 ed5c10.1 e010f0.0 1090b90.1 f285f0.0 ed5c10.1 e94b70.0
     f69690.1",
    "IST-2IDT,M3.4.4/26,M10.5.0"⟩,
   ⟨"Asia/Kabul", "+0430 16200",
    "0",
    "<+0430>-4:30"⟩,
   ⟨"Asia/Kamchatka", "+12 43200,+13 46800,+11 39600",
    "0 15272940.1 f13470.0 efff10.1 f13470.0 efff10.1 f13470.0 f15090.1 f00d20.0 eff100.1
     eff100.0 eff100.1 eff100.0 eff100.1 eff100.0 eff100.1 eff100.0 eff100.1 eff100.0 eff100.1
     f92b80.0 1dff010.2 93a800.0 5c3af0.1 eff100.0 eff100.1 eff100.0 eff100.1 eff100.0
     eff100.1 eff100.0 f92b80.1 114db00.0 cb0700.1 114db00.0 cb0700.1 114db00.0 cb0700.1
     11e1580.0 c1cc80.1 11e1580.0 c1cc80.1 11e1580.0 cb0700.1 114db00.0 cb0700.1 114db00.0
     cb0700.1 11e1580.0 c1cc80.1 11e1580.0 c1cc80.1 11e1580.0 c1cc80.1 11e1580.0 cb0700.1
     114db00.0 cb0700.1 114db00.0 1e92a90.2 c1cc80.0",
    "<+12>-12"⟩,
   ⟨"Asia/Karachi", "+05 18000,PKT 18000,PKST 21600",
    "0 24fab30.1 3a5f9a80.2 efe2f0.1 aa27790.2 c9a770.1 d99590.2 1079df0.1",
    "PKT-5"⟩,
   ⟨"Asia/Kathmandu", "+0530 19800,+0545 20700",
    "0 1e1830a8.1",
    "<+0545>-5:45"⟩,
   ⟨"Asia/Khandyga", "+09 32400,+10 36000,+08 28800,+11 39600",
    "0 15275370.1 f13470.0 efff10.1 f13470.0 efff10.1 f13470.0 f15090.1 f00d20.0 eff100.1
     eff100.0 eff100.1 eff100.0 eff100.1 eff100.0 eff100.1 eff100.0 eff100.1 eff100.0 eff100.1
     f92b80.0 1dff010.2 93a800.0 5c3af0.1 eff100.0 eff100.1 eff100.0 eff100.1 eff100.0
     eff100.1 eff100.0 f92b80.1 114db00.0 cb0700.1 114db00.0 cb0700.1 114db00.0 cb0700.1
     11e1580.0 c1cc80.1 11e1580.0 c1cc80.1 11e1580.0 cb0700.1 114db00.0 cb0700.1 114db00.0
     583860.1 72c090.3 11e1580.1 c1cc80.3 11e1580.1 c1cc80.3 11e1580.1 c1cc80.3 11e1580.1
     cb0700.3 114db00.1 cb0700.3 114db00.1 cb0700.3 11e1580.1 c1cc80.3 dff4d0.1 5ddc6b0.0",
    "<+09>-9"⟩,
   ⟨"Asia/Kolkata", "IST 19800",
    "0",
    "IST-5:30"⟩,
   ⟨"Asia/Krasnoyarsk", "+07 25200,+08 28800,+06 21600",
    "0 15276f90.1 f13470.0 efff10.1 f13470.0 efff10.1 f13470.0 f15090.1 f00d20.0 eff100.1
     eff100.0 eff100.1 eff100.0 eff100.1 eff100.0 eff100.1 eff100.0 eff100.1 eff100.0 eff100.1
     f92b80.0 1dff010.2 93a800.0 5c3af0.1 eff100.0 eff100.1 eff100.0 eff100.1 eff100.0
     eff100.1 eff100.0 f92b80.1 114db00.0 cb0700.1 114db00.0 cb0700.1 114db00.0 cb0700.1
     11e1580.0 c1cc80.1 11e1580.0 c1cc80.1 11e1580.0 cb0700.1 114db00.0 cb0700.1 114db00.0
     cb0700.1 11e1580.0 c1cc80.1 11e1580.0 c1cc80.1 11e1580.0 c1cc80.1 11e1580.0 cb0700.1
     114db00.0 cb0700.1 114db00.0 cb0700.1 11e1580.0 c1cc80.1 6bdad70.0",
    "<+07>-7"⟩,
   ⟨"Asia/Kuching", "+08 28800",
    "0",
    "<+08>-8"⟩,
   ⟨"Asia/Macau", "CST 28800,CDT 32400",
    "0 8e22b8.1 efe2f0.0 efff10.1 efe2f0.0 efff10.1 f91d70.0 efff10.1 efe2f0.0 5c5710.1
     1838af0.0 efff10.1 efe2f0.0 efff10.1 efe2f0.0 4d4ad10.1 d43370.0",
    "CST-8"⟩,
   ⟨"Asia/Magadan", "+11 39600,+12 43200,+10 36000",
    "0 15273750.1 f13470.0 efff10.1 f13470.0 efff10.1 f13470.0 f15090.1 f00d20.0 eff100.1
     eff100.0 eff100.1 eff100.0 eff100.1 eff100.0 eff100.1 eff100.0 eff100.1 eff100.0 eff100.1
     f92b80.0 1dff010.2 93a800.0 5c3af0.1 eff100.0 eff100.1 eff100.0 eff100.1 eff100.0
     eff100.1 eff100.0 f92b80.1 114db00.0 cb0700.1 114db00.0 cb0700.1 114db00.0 cb0700.1
     11e1580.0 c1cc80.1 11e1580.0 c1cc80.1 11e1580.0 cb0700.1 114db00.0 cb0700.1 114db00.0
     cb0700.1 11e1580.0 c1cc80.1 11e1580.0 c1cc80.1 11e1580.0 c1cc80.1 11e1580.0 cb0700.1
     114db00.0 cb0700.1 114db00.0 cb0700.1 11e1580.0 c1cc80.1 6bdad70.2 2cfef20.0",
    "<+11>-11"⟩,
   ⟨"Asia/Makassar", "WITA 28800",
    "0",
    "WITA-8"⟩,
   ⟨"Asia/Manila", "PST 28800,PDT 32400",
    "0 d9bfc00.1 ea9cf0.0 17d02610.1 5ae970.0",
    "PST-8"⟩,
   ⟨"Asia/Nicosia", "EET 7200,EEST 10800",
    "0 9edafe0.1 efe2f0.0 11cd210.1 c46170.0 e57310.1 e6a870.0 f93990.1 f13470.0 eead90.1
     efe2f0.0 f93990.1 e6a870.0 efff10.1 efe2f0.0 efff10.1 efe2f0.0 efff10.1 efe2f0.0 efff10.1
     f91d70.0 efff10.1 efe2f0.0 efff10.1 efe2f0.0 efff10.1 efe2f0.0 efff10.1 efe2f0.0 efff10.1
     efe2f0.0 efff10.1 f91d70.0 efff10.1 efe2f0.0 efff10.1 efe2f0.0 efff10.1 efe2f0.0 efff10.1
     efe2f0.0 efff10.1 efe2f0.0 f93990.1 efe2f0.0 efff10.1 efe2f0.0 efff10.1 1150530.0",
    "EET-2EEST,M3.5.0/3,M10.5.0/4"⟩,
   ⟨"Asia/Novokuznetsk", "+07 25200,+08 28800,+06 21600",
    "0 15276f90.1 f13470.0 efff10.1 f13470.0 efff10.1 f13470.0 f15090.1 f00d20.0 eff100.1
     eff100.0 eff100.1 eff100.0 eff100.1 eff100.0 eff100.1 eff100.0 eff100.1 eff100.0 eff100.1
     f92b80.0 1dff010.2 93a800.0 5c3af0.1 eff100.0 eff100.1 eff100.0 eff100.1 eff100.0
     eff100.1 eff100.0 f92b80.1 114db00.0 cb0700.1 114db00.0 cb0700.1 114db00.0 cb0700.1
     11e1580.0 c1cc80.1 11e1580.0 c1cc80.1 11e1580.0 cb0700.1 114db00.0 cb0700.1 114db00.0
     cb0700.1 11e1580.0 c1cc80.1 11e1580.0 c1cc80.1 11e1580.0 c1cc80.1 11e1580.0 cb0700.1
     114db00.0 cb0700.1 114db00.0 1e92a90.2 c1cc80.0",
    "<+07>-7"⟩,
   ⟨"Asia/Novosibirsk", "+07 25200,+08 28800,+06 21600",
    "0 15276f90.1 f13470.0 efff10.1 f13470.0 efff10.1 f13470.0 f15090.1 f00d20.0 eff100.1
     eff100.0 eff100.1 eff100.0 eff100.1 eff100.0 eff100.1 eff100.0 eff100.1 eff100.0 eff100.1
     f92b80.0 1dff010.2 93a800.0 5c3af0.1 eff100.0 eff100.1 49a9d0.0 a65540.2 eff100.0
     eff100.2 eff100.0 eff100.2 f92b80.0 114db00.2 cb0700.0 114db00.2 cb0700.0 114db00.2
     cb0700.0 11e1580.2 c1cc80.0 11e1580.2 c1cc80.0 11e1580.2 cb0700.0 114db00.2 cb0700.0
     114db00.2 cb0700.0 11e1580.2 c1cc80.0 11e1580.2 c1cc80.0 11e1580.2 c1cc80.0 11e1580.2
     cb0700.0 114db00.2 cb0700.0 114db00.2 cb0700.0 11e1580.2 c1cc80.0 6bdad70.2 347d990.0",
    "<+07>-7"⟩,
   ⟨"Asia/Omsk", "+06 21600,+07 25200,+05 18000",
    "0 15277da0.1 f13470.0 efff10.1 f13470.0 efff10.1 f13470.0 f15090.1 f00d20.0 eff100.1
     eff100.0 eff100.1 eff100.0 eff100.1 eff100.0 eff100.1 eff100.0 eff100.1 eff100.0 eff100.1
     f92b80.0 1dff010.2 93a800.0 5c3af0.1 eff100.0 eff100.1 eff100.0 eff100.1 eff100.0
     eff100.1 eff100.0 f92b80.1 114db00.0 cb0700.1 114db00.0 cb0700.1 114db00.0 cb0700.1
     11e1580.0 c1cc80.1 11e1580.0 c1cc80.1 11e1580.0 cb0700.1 114db00.0 cb0700.1 114db00.0
     cb0700.1 11e1580.0 c1cc80.1 11e1580.0 c1cc80.1 11e1580.0 c1cc80.1 11e1580.0 cb0700.1
     114db00.0 cb0700.1 114db00.0 cb0700.1 11e1580.0 c1cc80.1 6bdad70.0",
    "<+06>-6"⟩,
   ⟨"Asia/Oral", "+05 18000,+06 21600,+04 14400",
    "0 15278bb0.1 2d267f0.0 efff10.1 f13470.0 f15090.1 f00d20.0 eff100.1 eff100.0 eff100.1
     eff100.0 eff100.1 eff100.0 eff100.1 eff100.0 1dff010.2 eff100.0 f92b80.2 eff100.0
     eff100.2 93a800.0 14c3a00.2 eff100.0 eff100.2 eff100.0 eff100.2 eff100.0 eff100.2
     f92b80.0 114db00.2 cb0700.0 114db00.2 cb0700.0 114db00.2 cb0700.0 11e1580.2 c1cc80.0
     11e1580.2 c1cc80.0 11e1580.2 cb0700.0 114db00.2 cb0700.0 114db00.2 cb0700.0",
    "<+05>-5"⟩,
   ⟨"Asia/Pontianak", "WITA 28800,WIB 25200",
    "0 21da7480.1",
    "WIB-7"⟩,
   ⟨"Asia/Pyongyang", "KST 32400,KST 30600",
    "0 55ce0270.1 51e7300.0",
    "KST-9"⟩,
   ⟨"Asia/Qatar", "+04 14400,+03 10800",
    "0 48a92c0.1",
    "<+03>-3"⟩,
   ⟨"Asia/Qostanay", "+05 18000,+06 21600,+04 14400",
    "0 15278bb0.1 2d267f0.0 efff10.1 f13470.0 f15090.1 f00d20.0 eff100.1 eff100.0 eff100.1
     eff100.0 eff100.1 eff100.0 eff100.1 eff100.0 eff100.1 eff100.0 eff100.1 f92b80.0
     1dff010.2 93a800.0 5c3af0.1 eff100.0 eff100.1 eff100.0 eff100.1 eff100.0 eff100.1
     eff100.0 f92b80.1 114db00.0 cb0700.1 114db00.0 cb0700.1 114db00.0 cb0700.1 11e1580.0
     c1cc80.1 11e1580.0 c1cc80.1 11e1580.0 cb0700.1 114db00.0 cb0700.1 114db00.0 cb0700.1
     257adad0.0",
    "<+05>-5"⟩,
   ⟨"Asia/Qyzylorda", "+05 18000,+06 21600",
    "0 15278bb0.1 2d267f0.0 efff10.1 f13470.0 f15090.1 f00d20.0 eff100.1 eff100.0 eff100.1
     eff100.0 eff100.1 eff100.0 eff100.1 eff100.0 eff100.1 eff100.0 eff100.1 f92b80.0
     2738a00.1 14c3a00.0 eff100.1 eff100.0 eff100.1 eff100.0 eff100.1 eff100.0 f92b80.1
     114db00.0 cb0700.1 114db00.0 cb0700.1 114db00.0 cb0700.1 11e1580.0 c1cc80.1 11e1580.0
     c1cc80.1 11e1580.0 cb0700.1 114db00.0 cb0700.1 114db00.0 cb0700.1 1bb5ed50.0",
    "<+05>-5"⟩,
   ⟨"Asia/Riyadh", "+03 10800",
    "0",
    "<+03>-3"⟩,
   ⟨"Asia/Sakhalin", "+11 39600,+12 43200,+10 36000",
    "0 15273750.1 f13470.0 efff10.1 f13470.0 efff10.1 f13470.0 f15090.1 f00d20.0 eff100.1
     eff100.0 eff100.1 eff100.0 eff100.1 eff100.0 eff100.1 eff100.0 eff100.1 eff100.0 eff100.1
     f92b80.0 1dff010.2 93a800.0 5c3af0.1 eff100.0 eff100.1 eff100.0 eff100.1 eff100.0
     eff100.1 eff100.0 f92b80.1 114db00.0 1dff010.2 cb0700.0 114db00.2 cb0700.0 11e1580.2
     c1cc80.0 11e1580.2 c1cc80.0 11e1580.2 cb0700.0 114db00.2 cb0700.0 114db00.2 cb0700.0
     11e1580.2 c1cc80.0 11e1580.2 c1cc80.0 11e1580.2 c1cc80.0 11e1580.2 cb0700.0 114db00.2
     cb0700.0 114db00.2 cb0700.0 11e1580.2 c1cc80.0 6bdad70.2 2aaf710.0",
    "<+11>-11"⟩,
   ⟨"Asia/Samarkand", "+05 18000,+06 21600",
    "0 15278bb0.1 2d267f0.0 efff10.1 f13470.0 f15090.1 f00d20.0 eff100.1 eff100.0 eff100.1
     eff100.0 eff100.1 eff100.0 eff100.1 eff100.0 eff100.1 eff100.0 eff100.1 f92b80.0 eff100.1
     eff100.0",
    "<+05>-5"⟩,
   ⟨"Asia/Seoul", "KST 32400,KDT 36000",
    "0 20a36090.1 cb0700.0 114db00.1 cb0700.0",
    "KST-9"⟩,
   ⟨"Asia/Shanghai", "CST 28800,CDT 32400",
    "0 1eba5220.1 af4970.0 114e910.1 caf8f0.0 11e2390.1 c1be70.0 11e2390.1 caf8f0.0 114e910.1
     caf8f0.0 114e910.1 caf8f0.0",
    "CST-8"⟩,
   ⟨"Asia/Singapore", "+0730 27000,+08 28800",
    "0 1691ee00.1",
    "<+08>-8"⟩,
   ⟨"Asia/Srednekolymsk", "+11 39600,+12 43200,+10 36000",
    "0 15273750.1 f13470.0 efff10.1 f13470.0 efff10.1 f13470.0 f15090.1 f00d20.0 eff100.1
     eff100.0 eff100.1 eff100.0 eff100.1 eff100.0 eff100.1 eff100.0 eff100.1 eff100.0 eff100.1
     f92b80.0 1dff010.2 93a800.0 5c3af0.1 eff100.0 eff100.1 eff100.0 eff100.1 eff100.0
     eff100.1 eff100.0 f92b80.1 114db00.0 cb0700.1 114db00.0 cb0700.1 114db00.0 cb0700.1
     11e1580.0 c1cc80.1 11e1580.0 c1cc80.1 11e1580.0 cb0700.1 114db00.0 cb0700.1 114db00.0
     cb0700.1 11e1580.0 c1cc80.1 11e1580.0 c1cc80.1 11e1580.0 c1cc80.1 11e1580.0 cb0700.1
     114db00.0 cb0700.1 114db00.0 cb0700.1 11e1580.0 c1cc80.1 6bdad70.0",
    "<+11>-11"⟩,
   ⟨"Asia/Taipei", "CST 28800,CDT 32400",
    "0 7fc5600.1 f13470.0 efff10.1 f13470.0 70ce390.1 793bf0.0",
    "CST-8"⟩,
   ⟨"Asia/Tashkent", "+06 21600,+07 25200,+05 18000",
    "0 15277da0.1 f13470.0 efff10.1 f13470.0 efff10.1 f13470.0 f15090.1 f00d20.0 eff100.1
     eff100.0 eff100.1 eff100.0 eff100.1 eff100.0 eff100.1 eff100.0 eff100.1 eff100.0 eff100.1
     f92b80.0 1dff010.2",
    "<+05>-5"⟩,
   ⟨"Asia/Tbilisi", "+04 14400,+05 18000,+03 10800",
    "0 152799c0.1 f13470.0 efff10.1 f13470.0 efff10.1 f13470.0 f15090.1 f00d20.0 eff100.1
     eff100.0 eff100.1 eff100.0 eff100.1 eff100.0 eff100.1 eff100.0 eff100.1 eff100.0 eff100.1
     f92b80.0 1dff010.2 efd4e0.0 efe2f0.2 efff10.0 efe2f0.2 efff10.0 1dfd3f0.1 efe2f0.0
     f93990.1 2f4aef0.0 cb1510.1 114ccf0.0 cb1510.1 11e0770.0 c1da90.1 11e0770.0 c1da90.1
     11e0770.0 cb1510.1 114ccf0.0 cb1510.1 114ccf0.0 cb1510.1 77ea70.0 a65540.2 c1cc80.0",
    "<+04>-4"⟩,
   ⟨"Asia/Tehran", "+0330 12600,+0430 16200,+04 14400,+05 18000",
    "0 d944438.1 118cf80.2 cc5f88.3 af5780.2 813300.0 103be88.1 978e70.0 f2a210.1 f528f0.0
     13f36110.1 bb26f0.0 efff10.1 f285f0.0 eead90.1 f285f0.0 eead90.1 f285f0.0 eead90.1
     f285f0.0 eead90.1 f285f0.0 efff10.1 f285f0.0 eead90.1 f285f0.0 eead90.1 f285f0.0 eead90.1
     f285f0.0 efff10.1 f285f0.0 eead90.1 f285f0.0 eead90.1 f285f0.0 eead90.1 f285f0.0 efff10.1
     f285f0.0 4b11490.1 f285f0.0 efff10.1 f285f0.0 eead90.1 f285f0.0 eead90.1 f285f0.0
     eead90.1 f285f0.0 efff10.1 f285f0.0 eead90.1 f285f0.0 eead90.1 f285f0.0 eead90.1 f285f0.0
     efff10.1 f285f0.0 eead90.1 f285f0.0 eead90.1 f285f0.0 eead90.1 f285f0.0 efff10.1 f285f0.0
     eead90.1 f285f0.0",
    "<+0330>-3:30"⟩,
   ⟨"Asia/Thimphu", "+0530 19800,+06 21600",
    "0 21614da8.1",
    "<+06>-6"⟩,
   ⟨"Asia/Tokyo", "JST 32400",
    "0",
    "JST-9"⟩,
   ⟨"Asia/Tomsk", "+07 25200,+08 28800,+06 21600",
    "0 15276f90.1 f13470.0 efff10.1 f13470.0 efff10.1 f13470.0 f15090.1 f00d20.0 eff100.1
     eff100.0 eff100.1 eff100.0 eff100.1 eff100.0 eff100.1 eff100.0 eff100.1 eff100.0 eff100.1
     f92b80.0 1dff010.2 93a800.0 5c3af0.1 eff100.0 eff100.1 eff100.0 eff100.1 eff100.0
     eff100.1 eff100.0 f92b80.1 114db00.0 cb0700.1 114db00.0 cb0700.1 114db00.0 cb0700.1
     11e1580.0 c1cc80.1 11e1580.0 c1cc80.1 11e1580.0 cb0700.1 28de80.0 ec0a90.2 cb0700.0
     114db00.2 cb0700.0 11e1580.2 c1cc80.0 11e1580.2 c1cc80.0 11e1580.2 c1cc80.0 11e1580.2
     cb0700.0 114db00.2 cb0700.0 114db00.2 cb0700.0 11e1580.2 c1cc80.0 6bdad70.2 2fe0590.0",
    "<+07>-7"⟩,
   ⟨"Asia/Ulaanbaatar", "+07 25200,+08 28800,+09 32400",
    "0 f0bdc90.1 9ddebf0.2 f13470.1 f15090.2 efe2f0.1 efff10.2 efe2f0.1 efff10.2 efe2f0.1
     efff10.2 efe2f0.1 efff10.2 efe2f0.1 efff10.2 efe2f0.1 efff10.2 f91d70.1 efff10.2 efe2f0.1
     efff10.2 efe2f0.1 efff10.2 efe2f0.1 efff10.2 efe2f0.1 efff10.2 efe2f0.1 f93990.2 efe2f0.1
     efff10.2 efe2f0.1 efff10.2 efe2f0.1 4dcb230.2 caf8f0.1 efff10.2 efe2f0.1 efff10.2
     efe2f0.1 efff10.2 efe2f0.1 efff10.2 efe2f0.1 efff10.2 f91d70.1 ff84990.2 efc6d0.1
     f01b30.2 efc6d0.1",
    "<+08>-8"⟩,
   ⟨"Asia/Urumqi", "+06 21600",
    "0",
    "<+06>-6"⟩,
   ⟨"Asia/Ust-Nera", "+09 32400,+12 43200,+11 39600,+10 36000",
    "0 15275370.1 f11850.2 efff10.1 f13470.2 efff10.1 f13470.2 f15090.1 f00d20.2 eff100.1
     eff100.2 eff100.1 eff100.2 eff100.1 eff100.2 eff100.1 eff100.2 eff100.1 eff100.2 eff100.1
     f92b80.2 1dff010.3 93a800.2 5c3af0.1 eff100.2 eff100.1 eff100.2 eff100.1 eff100.2
     eff100.1 eff100.2 f92b80.1 114db00.2 cb0700.1 114db00.2 cb0700.1 114db00.2 cb0700.1
     11e1580.2 c1cc80.1 11e1580.2 c1cc80.1 11e1580.2 cb0700.1 114db00.2 cb0700.1 114db00.2
     cb0700.1 11e1580.2 c1cc80.1 11e1580.2 c1cc80.1 11e1580.2 c1cc80.1 11e1580.2 cb0700.1
     114db00.2 cb0700.1 114db00.2 cb0700.1 11e1580.2 c1cc80.1 dff4d0.2 5ddc6b0.3",
    "<+10>-10"⟩,
   ⟨"Asia/Vladivostok", "+10 36000,+11 39600,+09 32400",
    "0 15274560.1 f13470.0 efff10.1 f13470.0 efff10.1 f13470.0 f15090.1 f00d20.0 eff100.1
     eff100.0 eff100.1 eff100.0 eff100.1 eff100.0 eff100.1 eff100.0 eff100.1 eff100.0 eff100.1
     f92b80.0 1dff010.2 93a800.0 5c3af0.1 eff100.0 eff100.1 eff100.0 eff100.1 eff100.0
     eff100.1 eff100.0 f92b80.1 114db00.0 cb0700.1 114db00.0 cb0700.1 114db00.0 cb0700.1
     11e1580.0 c1cc80.1 11e1580.0 c1cc80.1 11e1580.0 cb0700.1 114db00.0 cb0700.1 114db00.0
     cb0700.1 11e1580.0 c1cc80.1 11e1580.0 c1cc80.1 11e1580.0 c1cc80.1 11e1580.0 cb0700.1
     114db00.0 cb0700.1 114db00.0 cb0700.1 11e1580.0 c1cc80.1 6bdad70.0",
    "<+10>-10"⟩,
   ⟨"Asia/Yakutsk", "+09 32400,+10 36000,+08 28800",
    "0 15275370.1 f13470.0 efff10.1 f13470.0 efff10.1 f13470.0 f15090.1 f00d20.0 eff100.1
     eff100.0 eff100.1 eff100.0 eff100.1 eff100.0 eff100.1 eff100.0 eff100.1 eff100.0 eff100.1
     f92b80.0 1dff010.2 93a800.0 5c3af0.1 eff100.0 eff100.1 eff100.0 eff100.1 eff100.0
     eff100.1 eff100.0 f92b80.1 114db00.0 cb0700.1 114db00.0 cb0700.1 114db00.0 cb0700.1
     11e1580.0 c1cc80.1 11e1580.0 c1cc80.1 11e1580.0 cb0700.1 114db00.0 cb0700.1 114db00.0
     cb0700.1 11e1580.0 c1cc80.1 11e1580.0 c1cc80.1 11e1580.0 c1cc80.1 11e1580.0 cb0700.1
     114db00.0 cb0700.1 114db00.0 cb0700.1 11e1580.0 c1cc80.1 6bdad70.0",
    "<+09>-9"⟩,
   ⟨"Asia/Yangon", "+0630 23400",
    "0",
    "<+0630>-6:30"⟩,
   ⟨"Asia/Yekaterinburg", "+05 18000,+06 21600,+04 14400",
    "0 15278bb0.1 f13470.0 efff10.1 f13470.0 efff10.1 f13470.0 f15090.1 f00d20.0 eff100.1
     eff100.0 eff100.1 eff100.0 eff100.1 eff100.0 eff100.1 eff100.0 eff100.1 eff100.0 eff100.1
     f92b80.0 1dff010.2 93a800.0 5c3af0.1 eff100.0 eff100.1 eff100.0 eff100.1 eff100.0
     eff100.1 eff100.0 f92b80.1 114db00.0 cb0700.1 114db00.0 cb0700.1 114db00.0 cb0700.1
     11e1580.0 c1cc80.1 11e1580.0 c1cc80.1 11e1580.0 cb0700.1 114db00.0 cb0700.1 114db00.0
     cb0700.1 11e1580.0 c1cc80.1 11e1580.0 c1cc80.1 11e1580.0 c1cc80.1 11e1580.0 cb0700.1
     114db00.0 cb0700.1 114db00.0 cb0700.1 11e1580.0 c1cc80.1 6bdad70.0",
    "<+05>-5"⟩,
   ⟨"Asia/Yerevan", "+04 14400,+05 18000,+03 10800",
    "0 152799c0.1 f13470.0 efff10.1 f13470.0 efff10.1 f13470.0 f15090.1 f00d20.0 eff100.1
     eff100.0 eff100.1 eff100.0 eff100.1 eff100.0 eff100.1 eff100.0 eff100.1 eff100.0 eff100.1
     f92b80.0 1dff010.2 eff100.0 eff100.2 eff100.0 eff100.2 eff100.0 eff100.2 eff100.0
     3c8f070.1 114db00.0 cb0700.1 114db00.0 cb0700.1 11e1580.0 c1cc80.1 11e1580.0 c1cc80.1
     11e1580.0 cb0700.1 114db00.0 cb0700.1 114db00.0 cb0700.1 11e1580.0 c1cc80.1 11e1580.0
     c1cc80.1 11e1580.0 c1cc80.1 11e1580.0 cb0700.1 114db00.0 cb0700.1 114db00.0 cb0700.1
     11e1580.0 c1cc80.1 11e1580.0",
    "<+04>-4"⟩]

end FormIntake.Calendar.Zone
