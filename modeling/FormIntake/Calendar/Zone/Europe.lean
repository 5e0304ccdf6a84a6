import FormIntake.Calendar.Zone.Record

/-! # Zones of Europe -/

namespace FormIntake.Calendar.Zone

/-- The zones of Europe. -/
def europe : List ZoneRecord :=
  [⟨"Europe/Andorra", "CET 3600,CEST 7200",
    "0 1cacae10.1 eff100.0 eff100.1 eff100.0 eff100.1 eff100.0 eff100.1 eff100.0 eff100.1
     eff100.0 eff100.1 f92b80.0 eff100.1 eff100.0 eff100.1 eff100.0 eff100.1 eff100.0 eff100.1
     eff100.0 eff100.1 eff100.0 f92b80.1",
    "CET-1CEST,M3.5.0,M10.5.0/3"⟩,
   ⟨"Europe/Astrakhan", "+04 14400,+05 18000,+03 10800",
    "0 152799c0.1 f13470.0 efff10.1 f13470.0 efff10.1 f13470.0 f15090.1 f00d20.0 eff100.1
     eff100.0 eff100.1 eff100.0 eff100.1 eff100.0 eff100.1 eff100.0 1dff010.2 eff100.0
     f92b80.2 eff100.0 2cfd300.2 eff100.0 eff100.2 eff100.0 eff100.2 eff100.0 eff100.2
     f92b80.0 114db00.2 cb0700.0 114db00.2 cb0700.0 114db00.2 cb0700.0 11e1580.2 c1cc80.0
     11e1580.2 c1cc80.0 11e1580.2 cb0700.0 114db00.2 cb0700.0 114db00.2 cb0700.0 11e1580.2
     c1cc80.0 11e1580.2 c1cc80.0 11e1580.2 c1cc80.0 11e1580.2 cb0700.0 114db00.2 cb0700.0
     114db00.2 cb0700.0 11e1580.2 c1cc80.0 6bdad70.2 2aaf710.0",
    "<+04>-4"⟩,
   ⟨"Europe/Athens", "EET 7200,EEST 10800",
    "0 9ec5e60.1 12c9600.0 b4b9a0.1 eff100.0 e6b680.1 e80800.0 f7da00.1 e6c490.0 f97fe0.1
     ee2f00.0 f3d770.1 ed3ff0.0 f02940.1 eff100.0 eff100.1 eff100.0 eff100.1 eff100.0 eff100.1
     f92b80.0 eff100.1 eff100.0 eff100.1 eff100.0 eff100.1 eff100.0 eff100.1 eff100.0 eff100.1
     eff100.0 eff100.1 f92b80.0 eff100.1 eff100.0 eff100.1 eff100.0 eff100.1 eff100.0 eff100.1
     eff100.0 eff100.1 eff100.0 f92b80.1",
    "EET-2EEST,M3.5.0/3,M10.5.0/4"⟩,
   ⟨"Europe/Belgrade", "CET 3600,CEST 7200",
    "0 18e3af90.1 eff100.0 eff100.1 f92b80.0 eff100.1 eff100.0 eff100.1 eff100.0 eff100.1
     eff100.0 eff100.1 eff100.0 eff100.1 eff100.0 eff100.1 f92b80.0 eff100.1 eff100.0 eff100.1
     eff100.0 eff100.1 eff100.0 eff100.1 eff100.0 eff100.1 eff100.0 f92b80.1",
    "CET-1CEST,M3.5.0,M10.5.0/3"⟩,
   ⟨"Europe/Berlin", "CET 3600,CEST 7200",
    "0 134d4410.1 e6b680.0 eff100.1 eff100.0 eff100.1 eff100.0 eff100.1 eff100.0 eff100.1
     f92b80.0 eff100.1 eff100.0 eff100.1 eff100.0 eff100.1 eff100.0 eff100.1 eff100.0 eff100.1
     eff100.0 eff100.1 f92b80.0 eff100.1 eff100.0 eff100.1 eff100.0 eff100.1 eff100.0 eff100.1
     eff100.0 eff100.1 eff100.0 f92b80.1",
    "CET-1CEST,M3.5.0,M10.5.0/3"⟩,
   ⟨"Europe/Brussels", "CET 3600,CEST 7200",
    "0 da46390.1 e6b680.0 f92b80.1 eff100.0 eff100.1 eff100.0 f92b80.1 e6b680.0 eff100.1
     eff100.0 eff100.1 eff100.0 eff100.1 eff100.0 eff100.1 f92b80.0 eff100.1 eff100.0 eff100.1
     eff100.0 eff100.1 eff100.0 eff100.1 eff100.0 eff100.1 eff100.0 eff100.1 f92b80.0 eff100.1
     eff100.0 eff100.1 eff100.0 eff100.1 eff100.0 eff100.1 eff100.0 eff100.1 eff100.0 f92b80.1",
    "CET-1CEST,M3.5.0,M10.5.0/3"⟩,
   ⟨"Europe/Bucharest", "EET 7200,EEST 10800",
    "0 11add160.1 a60ef0.0 f92b80.1 e6c490.0 f00d20.1 eff100.0 eff100.1 eff100.0 eff100.1
     eff100.0 eff100.1 f92b80.0 eff100.1 eff100.0 eff100.1 eff100.0 eff100.1 eff100.0 eff100.1
     eff100.0 eff100.1 eff100.0 eff100.1 f92b80.0 efd4e0.1 eff100.0 eff100.1 eff100.0 eff100.1
     eff100.0 eff100.1 efe2f0.0 efff10.1 efe2f0.0 f93990.1 114ccf0.0 cb3f40.1",
    "EET-2EEST,M3.5.0/3,M10.5.0/4"⟩,
   ⟨"Europe/Budapest", "CET 3600,CEST 7200",
    "0 134d27f0.1 e6b680.0 eff100.1 eff100.0 eff100.1 eff100.0 eff100.1 eff100.0 f00d20.1
     f92b80.0 eff100.1 eff100.0 eff100.1 eff100.0 eff100.1 eff100.0 eff100.1 eff100.0 eff100.1
     eff100.0 eff100.1 f92b80.0 eff100.1 eff100.0 eff100.1 eff100.0 eff100.1 eff100.0 eff100.1
     eff100.0 eff100.1 eff100.0 f92b80.1",
    "CET-1CEST,M3.5.0,M10.5.0/3"⟩,
   ⟨"Europe/Chisinau", "MSK 10800,MSD 14400,EEST 10800,EET 7200",
    "0 1527a7d0.1 f13470.0 efff10.1 f13470.0 efff10.1 f13470.0 f15090.1 f00d20.0 eff100.1
     eff100.0 eff100.1 eff100.0 eff100.1 eff100.0 eff100.1 eff100.0 eff100.1 eff100.0 eff100.1
     3750f0.2 c1e8a0.3 eff100.2 eff100.3 efd4e0.2 efe2f0.3 efff10.2 efe2f0.3 efff10.2 efe2f0.3
     efff10.2 efe2f0.3 f93990.2 114ccf0.3 cb3130.2 114db00.3 cb0700.2 114db00.3 cb0700.2
     11e1580.3 c1cc80.2 11e1580.3 c1cc80.2 11e1580.3 cb0700.2 114db00.3 cb0700.2 114db00.3
     cb0700.2 11e1580.3 c1cc80.2 11e1580.3 c1cc80.2 11e1580.3 c1cc80.2 11e1580.3 cb0700.2
     114db00.3 cb0700.2 114db00.3 cb0700.2 11e1580.3 c1cc80.2 11e1580.3 c1cc80.2 11e1580.3
     cb0700.2 114db00.3 cb0700.2 114db00.3 cb0700.2 114db00.3 cb0700.2 11e1580.3 c1cc80.2
     11e1580.3 c1cc80.2 11e1580.3 cb0700.2 114db00.3 cb0700.2 114db00.3 cb0700.2 11e1580.3
     c1da90.2",
    "EET-2EEST,M3.5.0/3,M10.5.0/4"⟩,
   ⟨"Europe/Dublin", "IST 3600,GMT 0",
    "0 370c620.1 b89200.0 1275000.1 b89200.0 1275000.1 b89200.0 1275000.1 b89200.0 1275000.1
     c1cc80.0 11e1580.1 c1cc80.0 11e1580.1 c1cc80.0 1275000.1 b89200.0 1275000.1 b89200.0
     1275000.1 caf8f0.0 114db00.1 cb0700.0 114db00.1 cb0700.0 114db00.1 cb0700.0 11e1580.1
     cb0700.0 114db00.1 cb0700.0 114db00.1 cb0700.0 114db00.1 cb0700.0 114db00.1 cb0700.0
     11e1580.1 c1cc80.0 11e1580.1 cb0700.0 114db00.1 cb0700.0 114db00.1 cb0700.0 114db00.1
     cb0700.0 114db00.1 cb0700.0 114db00.1 d44180.0",
    "GMT0IST,M3.5.0/1,M10.5.0"⟩,
   ⟨"Europe/Gibraltar", "CET 3600,CEST 7200",
    "0 1703cd90.1 eff100.0 eff100.1 eff100.0 eff100.1 f92b80.0 eff100.1 eff100.0 eff100.1
     eff100.0 eff100.1 eff100.0 eff100.1 eff100.0 eff100.1 eff100.0 eff100.1 f92b80.0 eff100.1
     eff100.0 eff100.1 eff100.0 eff100.1 eff100.0 eff100.1 eff100.0 eff100.1 eff100.0 f92b80.1",
    "CET-1CEST,M3.5.0,M10.5.0/3"⟩,
   ⟨"Europe/Helsinki", "EET 7200,EEST 10800",
    "0 1523dd80.1 eff100.0 eff100.1 eff100.0 efff10.1 eff100.0 eff100.1 f92b80.0 eff100.1
     eff100.0 eff100.1 eff100.0 eff100.1 eff100.0 eff100.1 eff100.0 eff100.1 eff100.0 eff100.1
     f92b80.0 eff100.1 eff100.0 eff100.1 eff100.0 eff100.1 eff100.0 eff100.1 eff100.0 eff100.1
     eff100.0 f92b80.1",
    "EET-2EEST,M3.5.0/3,M10.5.0/4"⟩,
   ⟨"Europe/Istanbul", "EET 7200,EEST 10800,+03 10800,+04 14400",
    "0 66e9370.1 cb0700.0 c1da90.1 11e0770.0 b74e90.1 1289370.0 b8a010.1 12741f0.0 cb1510.1
     10257f0.0 dd8a10.1 73d9d0.2 9919f20.3 530070.2 20a2010.0 e01f00.1 d44180.0 f14280.1
     eff100.0 eff100.1 eff100.0 eff100.1 eff100.0 eff100.1 eff100.0 eff100.1 f92b80.0 eff100.1
     eff100.0 eff100.1 eff100.0 eff100.1 eff100.0 e6b680.1 f92b80.0 eff100.1 eff100.0 f92b80.1
     114db00.0 cb0700.1 114db00.0 cb0700.1 114db00.0 cb0700.1 11e1580.0 c1cc80.1 11e1580.0
     c1cc80.1 11e1580.0 cb0700.1 114db00.0 cb0700.1 114db00.0 cb0700.1 11e1580.0 c1cc80.1
     11e1580.0 c1cc80.1 11e1580.0 c1e8a0.1 11e1580.0 cb0700.1 114db00.0 cb0700.1 114db00.0
     cb0700.1 11e1580.0 c31e00.1 11cc400.0 c1cc80.1 11e1580.0 cb0700.1 114db00.0 cc5880.1
     1138980.0 cb0700.1 1275000.0 b89200.1 d7fdc0.2",
    "<+03>-3"⟩,
   ⟨"Europe/Kaliningrad", "MSK 10800,MSD 14400,EEST 10800,EET 7200,+03 10800",
    "0 1527a7d0.1 f13470.0 efff10.1 f13470.0 efff10.1 f13470.0 f15090.1 f00d20.0 eff100.1
     eff100.0 eff100.1 eff100.0 eff100.1 eff100.0 eff100.1 eff100.0 eff100.2 efff10.3 eff100.2
     f92b80.3 eff100.2 eff100.3 eff100.2 eff100.3 eff100.2 eff100.3 eff100.2 eff100.3 eff100.2
     eff100.3 f92b80.2 114db00.3 cb0700.2 114db00.3 cb0700.2 114db00.3 cb0700.2 11e1580.3
     c1cc80.2 11e1580.3 c1cc80.2 11e1580.3 cb0700.2 114db00.3 cb0700.2 114db00.3 cb0700.2
     11e1580.3 c1cc80.2 11e1580.3 c1cc80.2 11e1580.3 c1cc80.2 11e1580.3 cb0700.2 114db00.3
     cb0700.2 114db00.3 cb0700.2 11e1580.3 c1cc80.4 6bdad70.3",
    "EET-2"⟩,
   ⟨"Europe/Kirov", "+04 14400,+05 18000,MSD 14400,MSK 10800,MSK 14400",
    "0 152799c0.1 f13470.0 efff10.1 f13470.0 efff10.1 f13470.0 f15090.1 f00d20.0 eff100.1
     eff100.0 eff100.1 eff100.0 eff100.1 eff100.0 eff100.1 eff100.0 eff100.2 efff10.3 eff100.2
     f92b80.3 eff100.0 1dfd3f0.2 efff10.3 eff100.2 eff100.3 eff100.2 eff100.3 eff100.2
     eff100.3 f92b80.2 114db00.3 cb0700.2 114db00.3 cb0700.2 114db00.3 cb0700.2 11e1580.3
     c1cc80.2 11e1580.3 c1cc80.2 11e1580.3 cb0700.2 114db00.3 cb0700.2 114db00.3 cb0700.2
     11e1580.3 c1cc80.2 11e1580.3 c1cc80.2 11e1580.3 c1cc80.2 11e1580.3 cb0700.2 114db00.3
     cb0700.2 114db00.3 cb0700.2 11e1580.3 c1cc80.4 6bdad70.3",
    "MSK-3"⟩,
   ⟨"Europe/Kyiv", "MSK 10800,MSD 14400,EEST 10800,EET 7200",
    "0 1527a7d0.1 f13470.0 efff10.1 f13470.0 efff10.1 f13470.0 f15090.1 f00d20.0 eff100.1
     eff100.0 eff100.1 eff100.0 eff100.1 eff100.0 eff100.1 eff100.0 eff100.1 eff100.0 eff100.1
     8124f0.2 257f6a0.3 eff100.2 eff100.3 eff100.2 eff100.3 eff100.2 eff100.3 eff100.2
     eff100.3 f92b80.2 114e910.3",
    "EET-2EEST,M3.5.0/3,M10.5.0/4"⟩,
   ⟨"Europe/Lisbon", "CET 3600,WET 0,WEST 3600,CEST 7200",
    "0 cab2a00.1 eff100.2 eff100.1 f93990.2 eff100.1 eff100.2 eff100.1 f92b80.2 e6b680.1
     efe2f0.2 eff100.1 eff100.2 eff100.1 eff100.2 eff100.1 eff100.2 f92b80.1 eff100.2 eff100.1
     efff10.2 eff100.1 eff100.2 eff100.1 eff100.2 eff100.1 eff100.2 eff100.1 eff100.2 f92b80.1
     eff100.2 eff100.1 eff100.2 eff100.0 eff100.3 eff100.0 eff100.3 eff100.0 eff100.3 eff100.0
     f92b80.2",
    "WET0WEST,M3.5.0/1,M10.5.0"⟩,
   ⟨"Europe/London", "BST 3600,GMT 0",
    "0 370c620.1 b89200.0 1275000.1 b89200.0 1275000.1 b89200.0 1275000.1 b89200.0 1275000.1
     c1cc80.0 11e1580.1 c1cc80.0 11e1580.1 c1cc80.0 1275000.1 b89200.0 1275000.1 b89200.0
     1275000.1 caf8f0.0 114db00.1 cb0700.0 114db00.1 cb0700.0 114db00.1 cb0700.0 11e1580.1
     cb0700.0 114db00.1 cb0700.0 114db00.1 cb0700.0 114db00.1 cb0700.0 114db00.1 cb0700.0
     11e1580.1 c1cc80.0 11e1580.1 cb0700.0 114db00.1 cb0700.0 114db00.1 cb0700.0 114db00.1
     cb0700.0 114db00.1 cb0700.0 114db00.1 d44180.0",
    "GMT0BST,M3.5.0/1,M10.5.0"⟩,
   ⟨"Europe/Madrid", "CET 3600,CEST 7200",
    "0 80dcde0.1 e6c490.0 f91d70.1 e6c490.0 e6a870.1 efff10.0 f91d70.1 e6c490.0 f947a0.1
     eff100.0 eff100.1 eff100.0 f92b80.1 e6b680.0 eff100.1 eff100.0 eff100.1 eff100.0 eff100.1
     eff100.0 eff100.1 f92b80.0 eff100.1 eff100.0 eff100.1 eff100.0 eff100.1 eff100.0 eff100.1
     eff100.0 eff100.1 eff100.0 eff100.1 f92b80.0 eff100.1 eff100.0 eff100.1 eff100.0 eff100.1
     eff100.0 eff100.1 eff100.0 eff100.1 eff100.0 f92b80.1",
    "CET-1CEST,M3.5.0,M10.5.0/3"⟩,
   ⟨"Europe/Malta", "CET 3600,CEST 7200",
    "0 c5b2f0.1 9ce280.0 139c500.1 a61d00.0 142ff80.1 a61d00.0 ee9f80.1 eff100.0 10cf200.1
     c31e00.0 11ce020.1 caf8f0.0 114e910.1 caf8f0.0 114e910.1 caf8f0.0 114e910.1 caf8f0.0
     114e910.1 caf8f0.0 103c590.1 e556f0.0 f93990.1 eff100.0 eff100.1 eff100.0 eff100.1
     eff100.0 eff100.1 f92b80.0 eff100.1 eff100.0 eff100.1 eff100.0 eff100.1 eff100.0 eff100.1
     eff100.0 eff100.1 eff100.0 eff100.1 f92b80.0 eff100.1 eff100.0 eff100.1 eff100.0 eff100.1
     eff100.0 eff100.1 eff100.0 eff100.1 eff100.0 f92b80.1",
    "CET-1CEST,M3.5.0,M10.5.0/3"⟩,
   ⟨"Europe/Minsk", "MSK 10800,MSD 14400,EEST 10800,EET 7200,+03 10800",
    "0 1527a7d0.1 f13470.0 efff10.1 f13470.0 efff10.1 f13470.0 f15090.1 f00d20.0 eff100.1
     eff100.0 eff100.1 eff100.0 eff100.1 eff100.0 eff100.1 eff100.0 eff100.1 eff100.0
     2d90d80.2 efff10.3 eff100.2 eff100.3 eff100.2 eff100.3 eff100.2 eff100.3 eff100.2
     eff100.3 f92b80.2 114db00.3 cb0700.2 114db00.3 cb0700.2 114db00.3 cb0700.2 11e1580.3
     c1cc80.2 11e1580.3 c1cc80.2 11e1580.3 cb0700.2 114db00.3 cb0700.2 114db00.3 cb0700.2
     11e1580.3 c1cc80.2 11e1580.3 c1cc80.2 11e1580.3 c1cc80.2 11e1580.3 cb0700.2 114db00.3
     cb0700.2 114db00.3 cb0700.2 11e1580.3 c1cc80.4",
    "<+03>-3"⟩,
   ⟨"Europe/Moscow", "MSK 10800,MSD 14400,EEST 10800,EET 7200,MSK 14400",
    "0 1527a7d0.1 f13470.0 efff10.1 f13470.0 efff10.1 f13470.0 f15090.1 f00d20.0 eff100.1
     eff100.0 eff100.1 eff100.0 eff100.1 eff100.0 eff100.1 eff100.0 eff100.1 eff100.0 eff100.1
     f92b80.0 eff100.2 efff10.3 93a800.0 5c3af0.1 eff100.0 eff100.1 eff100.0 eff100.1 eff100.0
     eff100.1 eff100.0 f92b80.1 114db00.0 cb0700.1 114db00.0 cb0700.1 114db00.0 cb0700.1
     11e1580.0 c1cc80.1 11e1580.0 c1cc80.1 11e1580.0 cb0700.1 114db00.0 cb0700.1 114db00.0
     cb0700.1 11e1580.0 c1cc80.1 11e1580.0 c1cc80.1 11e1580.0 c1cc80.1 11e1580.0 cb0700.1
     114db00.0 cb0700.1 114db00.0 cb0700.1 11e1580.0 c1cc80.4 6bdad70.0",
    "MSK-3"⟩,
   ⟨"Europe/Paris", "CET 3600,CEST 7200",
    "0 bbb3900.1 efe2f0.0 f947a0.1 e6b680.0 f92b80.1 eff100.0 eff100.1 eff100.0 f92b80.1
     e6b680.0 eff100.1 eff100.0 eff100.1 eff100.0 eff100.1 eff100.0 eff100.1 f92b80.0 eff100.1
     eff100.0 eff100.1 eff100.0 eff100.1 eff100.0 eff100.1 eff100.0 eff100.1 eff100.0 eff100.1
     f92b80.0 eff100.1 eff100.0 eff100.1 eff100.0 eff100.1 eff100.0 eff100.1 eff100.0 eff100.1
     eff100.0 f92b80.1",
    "CET-1CEST,M3.5.0,M10.5.0/3"⟩,
   ⟨"Europe/Prague", "CET 3600,CEST 7200",
    "0 11642790.1 eff100.0 f92b80.1 e6b680.0 eff100.1 eff100.0 eff100.1 eff100.0 eff100.1
     eff100.0 eff100.1 f92b80.0 eff100.1 eff100.0 eff100.1 eff100.0 eff100.1 eff100.0 eff100.1
     eff100.0 eff100.1 eff100.0 eff100.1 f92b80.0 eff100.1 eff100.0 eff100.1 eff100.0 eff100.1
     eff100.0 eff100.1 eff100.0 eff100.1 eff100.0 f92b80.1",
    "CET-1CEST,M3.5.0,M10.5.0/3"⟩,
   ⟨"Europe/Riga", "MSK 10800,MSD 14400,EEST 10800,EET 7200",
    "0 1527a7d0.1 f13470.0 efff10.1 f13470.0 efff10.1 f13470.0 f15090.1 f00d20.0 eff100.1
     eff100.0 eff100.1 eff100.0 eff100.1 eff100.0 eff100.1 eff100.0 eff100.2 efff10.3 eff100.2
     f92b80.3 eff100.2 eff100.3 eff100.2 eff100.3 eff100.2 eff100.3 eff100.2 eff100.3 eff100.2
     eff100.3 f92b80.2 eff100.3 efff10.2 114db00.3 cb0700.2 114db00.3 cb0700.2 11e1580.3
     2a1ae80.2",
    "EET-2EEST,M3.5.0/3,M10.5.0/4"⟩,
   ⟨"Europe/Rome", "CET 3600,CEST 7200",
    "0 c5b2f0.1 9ce280.0 139c500.1 a61d00.0 142ff80.1 a61d00.0 142ff80.1 9ce280.0 139c500.1
     a61d00.0 142ff80.1 9ce280.0 142ff80.1 9ce280.0 139c500.1 a61d00.0 142ff80.1 a61d00.0
     139c500.1 a61d00.0 f947a0.1 e6b680.0 eff100.1 eff100.0 eff100.1 eff100.0 eff100.1
     eff100.0 eff100.1 f92b80.0 eff100.1 eff100.0 eff100.1 eff100.0 eff100.1 eff100.0 eff100.1
     eff100.0 eff100.1 eff100.0 eff100.1 f92b80.0 eff100.1 eff100.0 eff100.1 eff100.0 eff100.1
     eff100.0 eff100.1 eff100.0 eff100.1 eff100.0 f92b80.1",
    "CET-1CEST,M3.5.0,M10.5.0/3"⟩,
   ⟨"Europe/Samara", "+04 14400,+05 18000,+03 10800",
    "0 152799c0.1 f13470.0 efff10.1 f13470.0 efff10.1 f13470.0 f15090.1 f00d20.0 eff100.1
     eff100.0 eff100.1 eff100.0 eff100.1 eff100.0 eff100.1 eff100.0 1dff010.2 eff100.0
     f92b80.2 1fb9f90.0 d42560.1 eff100.0 eff100.1 eff100.0 eff100.1 eff100.0 eff100.1
     eff100.0 f92b80.1 114db00.0 cb0700.1 114db00.0 cb0700.1 114db00.0 cb0700.1 11e1580.0
     c1cc80.1 11e1580.0 c1cc80.1 11e1580.0 cb0700.1 114db00.0 cb0700.1 114db00.0 cb0700.1
     11e1580.0 c1cc80.1 11e1580.0 c1cc80.1 11e1580.0 c1cc80.1 11e1580.0 cb0700.1 114db00.0
     cb0700.1 114db00.0 1e92a90.2 c1cc80.0",
    "<+04>-4"⟩,
   ⟨"Europe/Saratov", "+04 14400,+05 18000,+03 10800",
    "0 152799c0.1 f13470.0 efff10.1 f13470.0 efff10.1 f13470.0 f15090.1 f00d20.0 eff100.1
     eff100.0 eff100.1 eff100.0 eff100.1 eff100.0 1dff010.2 eff100.0 eff100.2 eff100.0
     f92b80.2 eff100.0 2cfd300.2 eff100.0 eff100.2 eff100.0 eff100.2 eff100.0 eff100.2
     f92b80.0 114db00.2 cb0700.0 114db00.2 cb0700.0 114db00.2 cb0700.0 11e1580.2 c1cc80.0
     11e1580.2 c1cc80.0 11e1580.2 cb0700.0 114db00.2 cb0700.0 114db00.2 cb0700.0 11e1580.2
     c1cc80.0 11e1580.2 c1cc80.0 11e1580.2 c1cc80.0 11e1580.2 cb0700.0 114db00.2 cb0700.0
     114db00.2 cb0700.0 11e1580.2 c1cc80.0 6bdad70.2 3f73110.0",
    "<+04>-4"⟩,
   ⟨"Europe/Simferopol", "MSK 10800,MSD 14400,EET 7200,EEST 10800,MSK 14400",
    "0 1527a7d0.1 f13470.0 efff10.1 f13470.0 efff10.1 f13470.0 f15090.1 f00d20.0 eff100.1
     eff100.0 eff100.1 eff100.0 eff100.1 eff100.0 eff100.1 eff100.0 eff100.1 eff100.0
     1712400.2 347d990.3 eff100.2 eff100.3 eff100.2 eff100.3 2dfa50.1 c1e8a0.0 eff100.1
     eff100.0 f90f60.1 1150530.0 cb1510.3 114db00.2 cb0700.3 114db00.2 cb0700.3 11e1580.2
     c1cc80.3 11e1580.2 c1cc80.3 11e1580.2 cb0700.3 114db00.2 cb0700.3 114db00.2 cb0700.3
     11e1580.2 c1cc80.3 11e1580.2 c1cc80.3 11e1580.2 c1cc80.3 11e1580.2 cb0700.3 114db00.2
     cb0700.3 114db00.2 cb0700.3 11e1580.2 c1cc80.3 11e1580.2 c1cc80.3 11e1580.2 cb0700.3
     114db00.2 caf8f0.4 114bee0.0",
    "MSK-3"⟩,
   ⟨"Europe/Sofia", "EET 7200,EEST 10800",
    "0 1163ef50.1 f15090.0 f7cbf0.1 e81610.0 f7cbf0.1 e6d2a0.0 f90f60.1 e6e0b0.0 eff100.1
     eff100.0 eff100.1 f92b80.0 eff100.1 eff100.0 eff100.1 eff100.0 eff100.1 eff100.0 eff100.1
     eff100.0 eff100.1 eff100.0 eff100.1 f92b80.0 efd4e0.1 efe2f0.0 efff10.1 efe2f0.0 efff10.1
     efe2f0.0 efff10.1 efe2f0.0 efff10.1 efe2f0.0 f93990.1 114ccf0.0 cb3f40.1",
    "EET-2EEST,M3.5.0/3,M10.5.0/4"⟩,
   ⟨"Europe/Tallinn", "MSK 10800,MSD 14400,EEST 10800,EET 7200",
    "0 1527a7d0.1 f13470.0 efff10.1 f13470.0 efff10.1 f13470.0 f15090.1 f00d20.0 eff100.1
     eff100.0 eff100.1 eff100.0 eff100.1 eff100.0 eff100.1 eff100.0 eff100.2 efff10.3 eff100.2
     f92b80.3 eff100.2 eff100.3 eff100.2 eff100.3 eff100.2 eff100.3 eff100.2 eff100.3 eff100.2
     eff100.3 f92b80.2 114db00.3 cb0700.2 114db00.3 cb0700.2 114e910.3 cb0700.2 11e1580.3
     48acb00.2",
    "EET-2EEST,M3.5.0/3,M10.5.0/4"⟩,
   ⟨"Europe/Tirane", "CET 3600,CEST 7200",
    "0 82839f0.1 c70470.0 1163a90.1 caf8f0.0 118dd90.1 caf8f0.0 11e2390.1 c1be70.0 11cd210.1
     c30ff0.0 11cd210.1 c30ff0.0 11cd210.1 caf8f0.0 10d0010.1 caf8f0.0 11e2390.1 caf8f0.0
     103c590.1 dacaf0.0 f15090.1 f00d20.0 eff100.1 eff100.0 eff100.1 eff100.0 eff100.1
     eff100.0 eff100.1 eff100.0 eff100.1 eff100.0 eff100.1 f92b80.0 eff100.1 eff100.0 eff100.1
     eff100.0 eff100.1 eff100.0 eff100.1 eff100.0 eff100.1 eff100.0 f92b80.1",
    "CET-1CEST,M3.5.0,M10.5.0/3"⟩,
   ⟨"Europe/Ulyanovsk", "+04 14400,+05 18000,+03 10800,+02 7200",
    "0 152799c0.1 f13470.0 efff10.1 f13470.0 efff10.1 f13470.0 f15090.1 f00d20.0 eff100.1
     eff100.0 eff100.1 eff100.0 eff100.1 eff100.0 eff100.1 eff100.0 1dff010.2 eff100.0
     f92b80.2 1dff010.3 93a800.2 5c3af0.0 eff100.2 eff100.0 eff100.2 eff100.0 eff100.2
     eff100.0 eff100.2 f92b80.0 114db00.2 cb0700.0 114db00.2 cb0700.0 114db00.2 cb0700.0
     11e1580.2 c1cc80.0 11e1580.2 c1cc80.0 11e1580.2 cb0700.0 114db00.2 cb0700.0 114db00.2
     cb0700.0 11e1580.2 c1cc80.0 11e1580.2 c1cc80.0 11e1580.2 c1cc80.0 11e1580.2 cb0700.0
     114db00.2 cb0700.0 114db00.2 cb0700.0 11e1580.2 c1cc80.0 6bdad70.2 2aaf710.0",
    "<+04>-4"⟩,
   ⟨"Europe/Vienna", "CET 3600,CEST 7200",
    "0 134d27f0.1 e6a870.0 f01b30.1 eff100.0 eff100.1 eff100.0 eff100.1 eff100.0 eff100.1
     f92b80.0 eff100.1 eff100.0 eff100.1 eff100.0 eff100.1 eff100.0 eff100.1 eff100.0 eff100.1
     eff100.0 eff100.1 f92b80.0 eff100.1 eff100.0 eff100.1 eff100.0 eff100.1 eff100.0 eff100.1
     eff100.0 eff100.1 eff100.0 f92b80.1",
    "CET-1CEST,M3.5.0,M10.5.0/3"⟩,
   ⟨"Europe/Vilnius", "MSK 10800,MSD 14400,EEST 10800,EET 7200,CEST 7200,CET 3600",
    "0 1527a7d0.1 f13470.0 efff10.1 f13470.0 efff10.1 f13470.0 f15090.1 f00d20.0 eff100.1
     eff100.0 eff100.1 eff100.0 eff100.1 eff100.0 eff100.1 eff100.0 eff100.2 efff10.3 eff100.2
     f92b80.3 eff100.2 eff100.3 eff100.2 eff100.3 eff100.2 eff100.3 eff100.2 eff100.3 eff100.2
     eff100.3 f92b80.2 114db00.3 cb0700.2 114db00.3 cb1510.4 114db00.5 cb0700.4 11e1580.3
     66aad00.2",
    "EET-2EEST,M3.5.0/3,M10.5.0/4"⟩,
   ⟨"Europe/Volgograd", "+04 14400,+05 18000,MSD 14400,MSK 10800,MSK 14400",
    "0 152799c0.1 f13470.0 efff10.1 f13470.0 efff10.1 f13470.0 f15090.1 f00d20.0 eff100.1
     eff100.0 eff100.1 eff100.0 eff100.1 eff100.0 eff100.2 efff10.3 eff100.2 eff100.3 eff100.2
     f92b80.3 eff100.0 1dfd3f0.2 efff10.3 eff100.2 eff100.3 eff100.2 eff100.3 eff100.2
     eff100.3 f92b80.2 114db00.3 cb0700.2 114db00.3 cb0700.2 114db00.3 cb0700.2 11e1580.3
     c1cc80.2 11e1580.3 c1cc80.2 11e1580.3 cb0700.2 114db00.3 cb0700.2 114db00.3 cb0700.2
     11e1580.3 c1cc80.2 11e1580.3 c1cc80.2 11e1580.3 c1cc80.2 11e1580.3 cb0700.2 114db00.3
     cb0700.2 114db00.3 cb0700.2 11e1580.3 c1cc80.4 6bdad70.3 788d090.0 412c470.3",
    "MSK-3"⟩,
   ⟨"Europe/Warsaw", "CET 3600,CEST 7200",
    "0 da45580.1 e6b680.0 f92b80.1 eff100.0 eff100.1 eff100.0 f92b80.1 e6b680.0 eff100.1
     eff100.0 eff100.1 eff100.0 eff100.1 eff100.0 eff100.1 f92b80.0 eff100.1 eff100.0 eff100.1
     eff100.0 eff100.1 eff100.0 efff10.1 eff100.0 eff100.1 eff100.0 eff100.1 f92b80.0 eff100.1
     eff100.0 eff100.1 eff100.0 eff100.1 eff100.0 eff100.1 eff100.0 eff100.1 eff100.0 f92b80.1",
    "CET-1CEST,M3.5.0,M10.5.0/3"⟩,
   ⟨"Europe/Zurich", "CET 3600,CEST 7200",
    "0 1523eb90.1 eff100.0 eff100.1 eff100.0 eff100.1 eff100.0 eff100.1 f92b80.0 eff100.1
     eff100.0 eff100.1 eff100.0 eff100.1 eff100.0 eff100.1 eff100.0 eff100.1 eff100.0 eff100.1
     f92b80.0 eff100.1 eff100.0 eff100.1 eff100.0 eff100.1 eff100.0 eff100.1 eff100.0 eff100.1
     eff100.0 f92b80.1",
    "CET-1CEST,M3.5.0,M10.5.0/3"⟩]

end FormIntake.Calendar.Zone
