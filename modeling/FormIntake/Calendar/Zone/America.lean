import FormIntake.Calendar.Zone.Record

/-! # Zones of the Americas -/

namespace FormIntake.Calendar.Zone

/-- The zones of the Americas. -/
def america : List ZoneRecord :=
  [⟨"America/Adak", "BST -39600,BDT -36000,AHST -36000,HST -36000,HDT -32400",
    "0 985350.1 efe2f0.0 efff10.1 f91d70.0 efff10.1 efe2f0.0 efff10.1 efe2f0.0 5c5710.1
     1838af0.0 9cf090.1 142f170.0 efff10.1 f91d70.0 e6c490.1 f91d70.0 efff10.1 efe2f0.0
     efff10.1 efe2f0.0 efff10.1 efe2f0.0 efff10.1 efe2f0.0 efff10.1 f91d70.0 e6c490.1 f91d70.2
     28c260.3 c72ea0.4 efe2f0.3 efff10.4 efe2f0.3 efff10.4 efe2f0.3 d44f90.4 10b9270.3
     d44f90.4 114ccf0.3 cb1510.4 114ccf0.3 cb1510.4 114ccf0.3 d44f90.4 10b9270.3 d44f90.4
     10b9270.3 d44f90.4 114ccf0.3 cb1510.4 114ccf0.3 cb1510.4 114ccf0.3 d44f90.4 10b9270.3
     d44f90.4 10b9270.3 d44f90.4 10b9270.3 d44f90.4 114ccf0.3 cb1510.4 114ccf0.3 cb1510.4
     114ccf0.3 d44f90.4 10b9270.3 d44f90.4 10b9270.3 d44f90.4 114ccf0.3 cb1510.4 114ccf0.3
     cb1510.4 114ccf0.3 af6590.4",
    "HST10HDT,M3.2.0,M11.1.0"⟩,
   ⟨"America/Anchorage", "AHST -36000,AHDT -32400,YST -32400,AKST -32400,AKDT -28800",
    "0 984540.1 efe2f0.0 efff10.1 f91d70.0 efff10.1 efe2f0.0 efff10.1 efe2f0.0 5c5710.1
     1838af0.0 9cf090.1 142f170.0 efff10.1 f91d70.0 e6c490.1 f91d70.0 efff10.1 efe2f0.0
     efff10.1 efe2f0.0 efff10.1 efe2f0.0 efff10.1 efe2f0.0 efff10.1 f91d70.0 e6c490.1 f91d70.2
     28c260.3 c72ea0.4 efe2f0.3 efff10.4 efe2f0.3 efff10.4 efe2f0.3 d44f90.4 10b9270.3
     d44f90.4 114ccf0.3 cb1510.4 114ccf0.3 cb1510.4 114ccf0.3 d44f90.4 10b9270.3 d44f90.4
     10b9270.3 d44f90.4 114ccf0.3 cb1510.4 114ccf0.3 cb1510.4 114ccf0.3 d44f90.4 10b9270.3
     d44f90.4 10b9270.3 d44f90.4 10b9270.3 d44f90.4 114ccf0.3 cb1510.4 114ccf0.3 cb1510.4
     114ccf0.3 d44f90.4 10b9270.3 d44f90.4 10b9270.3 d44f90.4 114ccf0.3 cb1510.4 114ccf0.3
     cb1510.4 114ccf0.3 af6590.4",
    "AKST9AKDT,M3.2.0,M11.1.0"⟩,
   ⟨"America/Araguaina", "-03 -10800,-02 -7200",
    "0 1dc98e30.1 af4970.0 1275e10.1 9399f0.0 14d9990.1 8a5f70.0 14c4810.1 8a5f70.0 1558290.1
     9cd470.0 aabb210.1 9cd470.0 139d310.1 af4970.0 131ea10.1 c06cf0.0 1275e10.1 af4970.0
     1275e10.1 c1be70.0 1275e10.1 af4970.0 139d310.1 a60ef0.0 1558290.1 8a5f70.0 12347490.1
     9cd470.0",
    "<-03>3"⟩,
   ⟨"America/Argentina/Buenos_Aires", "-03 -10800,-02 -7200",
    "0 7a34ab0.1 8124f0.0 1b704610.1 7bdef0.0 1275e10.1 b883f0.0 1309890.1 af4970.0 1309890.1
     af4970.0 1309890.1 b883f0.0 1bddb290.1 657570.0 11e2390.1 c1be70.0",
    "<-03>3"⟩,
   ⟨"America/Argentina/Catamarca", "-03 -10800,-02 -7200,-04 -14400",
    "0 7a34ab0.1 8124f0.0 1b704610.1 7bdef0.0 1275e10.1 b883f0.0 1309890.1 af4970.2 130a6a0.1
     af3b60.0 1309890.1 b883f0.0 15229a10.2 191a90.0 6a1fdf0.1 657570.0",
    "<-03>3"⟩,
   ⟨"America/Argentina/Cordoba", "-03 -10800,-02 -7200,-04 -14400",
    "0 7a34ab0.1 8124f0.0 1b704610.1 7bdef0.0 1275e10.1 b883f0.0 1309890.1 af4970.2 130a6a0.1
     af3b60.0 1309890.1 b883f0.0 1bddb290.1 657570.0 11e2390.1 c1be70.0",
    "<-03>3"⟩,
   ⟨"America/Argentina/Jujuy", "-03 -10800,-02 -7200,-04 -14400",
    "0 7a34ab0.1 8124f0.0 1b704610.1 7bdef0.0 1275e10.1 b883f0.2 139e120.0 b883f0.2 10bae90.1
     c1b060.0 1309890.1 b883f0.0 1bddb290.1 657570.0",
    "<-03>3"⟩,
   ⟨"America/Argentina/La_Rioja", "-03 -10800,-02 -7200,-04 -14400",
    "0 7a34ab0.1 8124f0.0 1b704610.1 7bdef0.0 1275e10.1 b883f0.0 1309890.1 aca670.2 5870a0.0
     dacaf0.1 af4970.0 1309890.1 b883f0.0 15229a10.2 191a90.0 6a1fdf0.1 657570.0",
    "<-03>3"⟩,
   ⟨"America/Argentina/Mendoza", "-03 -10800,-02 -7200,-04 -14400",
    "0 7a34ab0.1 8124f0.0 1b704610.1 7bdef0.0 1275e10.1 b883f0.2 128bda0.0 b48f70.2 12ca410.0
     b5e0f0.2 1309890.1 b875e0.0 1516bc90.2 a62b10.0 620caf0.1 657570.0",
    "<-03>3"⟩,
   ⟨"America/Argentina/Rio_Gallegos", "-03 -10800,-02 -7200,-04 -14400",
    "0 7a34ab0.1 8124f0.0 1b704610.1 7bdef0.0 1275e10.1 b883f0.0 1309890.1 af4970.0 1309890.1
     af4970.0 1309890.1 b883f0.0 15229a10.2 191a90.0 6a1fdf0.1 657570.0",
    "<-03>3"⟩,
   ⟨"America/Argentina/Salta", "-03 -10800,-02 -7200,-04 -14400",
    "0 7a34ab0.1 8124f0.0 1b704610.1 7bdef0.0 1275e10.1 b883f0.0 1309890.1 af4970.2 130a6a0.1
     af3b60.0 1309890.1 b883f0.0 1bddb290.1 657570.0",
    "<-03>3"⟩,
   ⟨"America/Argentina/San_Juan", "-03 -10800,-02 -7200,-04 -14400",
    "0 7a34ab0.1 8124f0.0 1b704610.1 7bdef0.0 1275e10.1 b883f0.0 1309890.1 aca670.2 5870a0.0
     dacaf0.1 af4970.0 1309890.1 b883f0.0 15214890.2 489090.0 673d970.1 657570.0",
    "<-03>3"⟩,
   ⟨"America/Argentina/San_Luis", "-03 -10800,-02 -7200,-04 -14400",
    "0 7a34ab0.1 8124f0.0 1b704610.1 7bdef0.0 1275e10.1 c5b2f0.2 11b8ea0.0 b48f70.2 795810.0
     187383f0.2 489090.0 673d970.1 1cf2f0.0 3f5610.2 11e2390.0 c1be70.2 11e2390.0",
    "<-03>3"⟩,
   ⟨"America/Argentina/Tucuman", "-03 -10800,-02 -7200,-04 -14400",
    "0 7a34ab0.1 8124f0.0 1b704610.1 7bdef0.0 1275e10.1 b883f0.0 1309890.1 af4970.2 130a6a0.1
     af3b60.0 1309890.1 b883f0.0 15229a10.2 fe010.0 6ab3870.1 657570.0 11e2390.1 c1be70.0",
    "<-03>3"⟩,
   ⟨"America/Argentina/Ushuaia", "-03 -10800,-02 -7200,-04 -14400",
    "0 7a34ab0.1 8124f0.0 1b704610.1 7bdef0.0 1275e10.1 b883f0.0 1309890.1 af4970.0 1309890.1
     af4970.0 1309890.1 b883f0.0 151ff710.2 1bbd90.0 6a1fdf0.1 657570.0",
    "<-03>3"⟩,
   ⟨"America/Asuncion", "-04 -14400,-03 -10800",
    "0 52bda40.1 2d11670.0 2d28410.1 c855f0.0 11a2f10.1 c70470.0 11a2f10.1 c70470.0 11a2f10.1
     efe2f0.0 f15090.1 f13470.0 f15090.1 efe2f0.0 f15090.1 efe2f0.0 f15090.1 efe2f0.0 f15090.1
     f13470.0 f15090.1 efe2f0.0 f15090.1 efe2f0.0 f15090.1 efe2f0.0 f15090.1 f13470.0 f15090.1
     efe2f0.0 10d0010.1 d43370.0 f15090.1 efe2f0.0 f7e810.1 c1be70.0 11f7510.1 e94b70.0
     f2a210.1 c46170.0 11cd210.1 c30ff0.0 11e2390.1 c855f0.0 120c690.1 b883f0.0 1275e10.1
     c1be70.0 11e2390.1 caf8f0.0 114e910.1 caf8f0.0 114e910.1 caf8f0.0 11e2390.1 efe2f0.0
     c1da90.1 11e0770.0 cb1510.1 114ccf0.0 1027410.1 c1be70.0 11e2390.1 c1be70.0 11e2390.1
     c1be70.0 1275e10.1 b883f0.0 1275e10.1 b883f0.0 1275e10.1 e6a870.0 e6c490.1 f91d70.0
     e6c490.1 f91d70.0 efff10.1 dd6df0.0 1027410.1 dd6df0.0 1027410.1 dd6df0.0 1027410.1
     e6a870.0 f93990.1 e6a870.0 f93990.1 e6a870.0 1027410.1 dd6df0.0 1027410.1 dd6df0.0
     1027410.1 e6a870.0 f93990.1 e6a870.0 f93990.1 e6a870.0 f93990.1 e6a870.0 1027410.1",
    "<-03>3"⟩,
   ⟨"America/Bahia", "-03 -10800,-02 -7200",
    "0 1dc98e30.1 af4970.0 1275e10.1 9399f0.0 14d9990.1 8a5f70.0 14c4810.1 8a5f70.0 1558290.1
     9cd470.0 14c4810.1 9cd470.0 1430d90.1 9399f0.0 1558290.1 8124f0.0 1558290.1 a60ef0.0
     139d310.1 a60ef0.0 139d310.1 9cd470.0 139d310.1 af4970.0 131ea10.1 c06cf0.0 1275e10.1
     af4970.0 1275e10.1 c1be70.0 1275e10.1 af4970.0 139d310.1 a60ef0.0 1558290.1 8a5f70.0
     104b5810.1 af4970.0",
    "<-03>3"⟩,
   ⟨"America/Bahia_Banderas", "MST -25200,MDT -21600,CDT -18000,CST -21600",
    "0 31678410.1 10b9270.0 d44f90.1 10b9270.0 d44f90.1 10b9270.0 d44f90.1 114ccf0.0 cb1510.1
     114ccf0.0 f93990.1 c1be70.0 f93990.1 10b9270.0 d44f90.1 10b9270.0 d44f90.1 114ccf0.0
     cb1510.1 114ccf0.0 cb1510.1 114ccf0.0 cb1510.1 114ccf0.0 d44f90.1 10b9270.0 d44f90.1
     10b9270.0 d44f90.2 114bee0.3 cb1510.2 114ccf0.3 cb1510.2 114ccf0.3 d44f90.2 10b9270.3
     d44f90.2 10b9270.3 d44f90.2 10b9270.3 d44f90.2 114ccf0.3 cb1510.2 114ccf0.3 cb1510.2
     114ccf0.3 d44f90.2 10b9270.3 d44f90.2 10b9270.3 d44f90.2 114ccf0.3 cb1510.2 114ccf0.3",
    "CST6"⟩,
   ⟨"America/Barbados", "AST -14400,ADT -10800",
    "0 e00f2e0.1 9399f0.0 1027410.1 dd6df0.0 1027410.1 dd6df0.0 10bae90.1 d03ef0.0",
    "AST4"⟩,
   ⟨"America/Belem", "-03 -10800,-02 -7200",
    "0 1dc98e30.1 af4970.0 1275e10.1 9399f0.0 14d9990.1 8a5f70.0",
    "<-03>3"⟩,
   ⟨"America/Belize", "CST -21600,CDT -18000",
    "0 762db60.1 56f4f0.0 10a7a110.1 49c5f0.0",
    "CST6"⟩,
   ⟨"America/Boa_Vista", "-04 -14400,-03 -10800",
    "0 1dc99c40.1 af4970.0 1275e10.1 9399f0.0 14d9990.1 8a5f70.0 15eafe10.1 c1be70.0 1275e10.1
     92c70.0",
    "<-04>4"⟩,
   ⟨"America/Bogota", "-05 -18000,-04 -14400",
    "0 2a037350.1 17115f0.0",
    "<-05>5"⟩,
   ⟨"America/Boise", "MST -25200,MDT -21600",
    "0 981b10.1 efe2f0.0 efff10.1 f91d70.0 efff10.1 efe2f0.0 efff10.1 efe2f0.0 814110.1
     15ea0f0.0 9cf090.1 142f170.0 efff10.1 f91d70.0 e6c490.1 f91d70.0 efff10.1 efe2f0.0
     efff10.1 efe2f0.0 efff10.1 efe2f0.0 efff10.1 efe2f0.0 efff10.1 f91d70.0 e6c490.1 f91d70.0
     efff10.1 efe2f0.0 efff10.1 efe2f0.0 efff10.1 efe2f0.0 d44f90.1 10b9270.0 d44f90.1
     114ccf0.0 cb1510.1 114ccf0.0 cb1510.1 114ccf0.0 d44f90.1 10b9270.0 d44f90.1 10b9270.0
     d44f90.1 114ccf0.0 cb1510.1 114ccf0.0 cb1510.1 114ccf0.0 d44f90.1 10b9270.0 d44f90.1
     10b9270.0 d44f90.1 10b9270.0 d44f90.1 114ccf0.0 cb1510.1 114ccf0.0 cb1510.1 114ccf0.0
     d44f90.1 10b9270.0 d44f90.1 10b9270.0 d44f90.1 114ccf0.0 cb1510.1 114ccf0.0 cb1510.1
     114ccf0.0 af6590.1",
    "MST7MDT,M3.2.0,M11.1.0"⟩,
   ⟨"America/Cambridge_Bay", "MST -25200,MDT -21600,CST -21600,CDT -18000,EST -18000",
    "0 4611990.1 efe2f0.0 efff10.1 efe2f0.0 efff10.1 efe2f0.0 efff10.1 efe2f0.0 efff10.1
     f91d70.0 e6c490.1 f91d70.0 efff10.1 efe2f0.0 efff10.1 efe2f0.0 efff10.1 efe2f0.0 efff10.1
     efe2f0.0 efff10.1 f91d70.0 e6c490.1 f91d70.0 efff10.1 efe2f0.0 efff10.1 efe2f0.0 efff10.1
     efe2f0.0 d44f90.1 10b9270.0 d44f90.1 114ccf0.0 cb1510.1 114ccf0.0 cb1510.1 114ccf0.0
     d44f90.1 10b9270.0 d44f90.1 10b9270.0 d44f90.1 114ccf0.0 cb1510.1 114ccf0.0 cb1510.1
     114ccf0.0 d44f90.1 10b9270.0 d44f90.1 10b9270.0 d44f90.1 10b9270.0 d44f90.1 114ccf0.2
     cb0700.3 114ccf0.4 91e60.2 c204c0.1 114ccf0.0 d44f90.1 10b9270.0 d44f90.1 10b9270.0
     d44f90.1 114ccf0.0 cb1510.1 114ccf0.0 cb1510.1 114ccf0.0 af6590.1",
    "MST7MDT,M3.2.0,M11.1.0"⟩,
   ⟨"America/Campo_Grande", "-04 -14400,-03 -10800",
    "0 1dc99c40.1 af4970.0 1275e10.1 9399f0.0 14d9990.1 8a5f70.0 14c4810.1 8a5f70.0 1558290.1
     9cd470.0 14c4810.1 9cd470.0 1430d90.1 9399f0.0 1558290.1 8124f0.0 1558290.1 a60ef0.0
     139d310.1 a60ef0.0 139d310.1 9cd470.0 139d310.1 af4970.0 131ea10.1 c06cf0.0 1275e10.1
     af4970.0 1275e10.1 c1be70.0 1275e10.1 af4970.0 139d310.1 a60ef0.0 1558290.1 8a5f70.0
     1430d90.1 9cd470.0 1582590.1 90f6f0.0 139d310.1 a60ef0.0 1558290.1 9399f0.0 1309890.1
     a60ef0.0 1430d90.1 9cd470.0 1430d90.1 a60ef0.0 139d310.1 a60ef0.0 139d310.1 af4970.0
     139d310.1 9cd470.0 1430d90.1 9cd470.0 1430d90.1 a60ef0.0 139d310.1 a60ef0.0 139d310.1
     a60ef0.0 139d310.1 a60ef0.0 1558290.1 8a5f70.0",
    "<-04>4"⟩,
   ⟨"America/Cancun", "CST -21600,EST -18000,CDT -18000,EDT -14400",
    "0 168ae600.1 1ece6d0.0 18efa930.2 10b9270.0 d44f90.2 10b9270.1 d44180.3 9cd470.2 6ecc10.0
     d44f90.2 114ccf0.0 cb1510.2 114ccf0.0 f93990.2 c1be70.0 f93990.2 10b9270.0 d44f90.2
     10b9270.0 d44f90.2 114ccf0.0 cb1510.2 114ccf0.0 cb1510.2 114ccf0.0 cb1510.2 114ccf0.0
     d44f90.2 10b9270.0 d44f90.2 10b9270.0 d44f90.2 114ccf0.0 cb1510.2 114ccf0.0 cb1510.2
     114ccf0.0 d44f90.2 10b9270.0 d44f90.2 10b9270.0 814110.1",
    "EST5"⟩,
   ⟨"America/Caracas", "-04 -14400,-0430 -16200",
    "0 475b9270.1 fca1700.0",
    "<-04>4"⟩,
   ⟨"America/Cayenne", "-03 -10800",
    "0",
    "<-03>3"⟩,
   ⟨"America/Chicago", "CST -21600,CDT -18000",
    "0 980d00.1 efe2f0.0 efff10.1 f91d70.0 efff10.1 efe2f0.0 efff10.1 efe2f0.0 5c5710.1
     1838af0.0 9cf090.1 142f170.0 efff10.1 f91d70.0 e6c490.1 f91d70.0 efff10.1 efe2f0.0
     efff10.1 efe2f0.0 efff10.1 efe2f0.0 efff10.1 efe2f0.0 efff10.1 f91d70.0 e6c490.1 f91d70.0
     efff10.1 efe2f0.0 efff10.1 efe2f0.0 efff10.1 efe2f0.0 d44f90.1 10b9270.0 d44f90.1
     114ccf0.0 cb1510.1 114ccf0.0 cb1510.1 114ccf0.0 d44f90.1 10b9270.0 d44f90.1 10b9270.0
     d44f90.1 114ccf0.0 cb1510.1 114ccf0.0 cb1510.1 114ccf0.0 d44f90.1 10b9270.0 d44f90.1
     10b9270.0 d44f90.1 10b9270.0 d44f90.1 114ccf0.0 cb1510.1 114ccf0.0 cb1510.1 114ccf0.0
     d44f90.1 10b9270.0 d44f90.1 10b9270.0 d44f90.1 114ccf0.0 cb1510.1 114ccf0.0 cb1510.1
     114ccf0.0 af6590.1",
    "CST6CDT,M3.2.0,M11.1.0"⟩,
   ⟨"America/Chihuahua", "CST -21600,CDT -18000,MDT -21600,MST -25200",
    "0 31677600.1 10b9270.0 d44f90.1 10b9270.0 d45da0.2 10b9270.3 d44f90.2 114ccf0.3 cb1510.2
     114ccf0.3 f93990.2 c1be70.3 f93990.2 10b9270.3 d44f90.2 10b9270.3 d44f90.2 114ccf0.3
     cb1510.2 114ccf0.3 cb1510.2 114ccf0.3 cb1510.2 114ccf0.3 d44f90.2 10b9270.3 d44f90.2
     10b9270.3 d44f90.2 114ccf0.3 cb1510.2 114ccf0.3 cb1510.2 114ccf0.3 d44f90.2 10b9270.3
     d44f90.2 10b9270.3 d44f90.2 10b9270.3 d44f90.2 114ccf0.3 cb1510.2 114ccf0.3 cb1510.2
     114ccf0.3 d44f90.2 10b9270.3 d44f90.2 10b9270.3 d44f90.2 114ccf0.3 cb1510.2 114ccf0.0",
    "CST6"⟩,
   ⟨"America/Ciudad_Juarez", "CST -21600,CDT -18000,MDT -21600,MST -25200",
    "0 31677600.1 10b9270.0 d44f90.1 10b9270.0 d45da0.2 10b9270.3 d44f90.2 114ccf0.3 cb1510.2
     114ccf0.3 f93990.2 c1be70.3 f93990.2 10b9270.3 d44f90.2 10b9270.3 d44f90.2 114ccf0.3
     cb1510.2 114ccf0.3 cb1510.2 114ccf0.3 cb1510.2 114ccf0.3 d44f90.2 10b9270.3 d44f90.2
     10b9270.3 b8a010.2 139b6f0.3 a62b10.2 139b6f0.3 a62b10.2 139b6f0.3 a62b10.2 139b6f0.3
     a62b10.2 139b6f0.3 a62b10.2 139b6f0.3 af6590.2 139b6f0.3 a62b10.2 139b6f0.3 a62b10.2
     139b6f0.3 a62b10.2 139b6f0.3 a62b10.2 139b6f0.3 af6590.2 139b6f0.3 a62b10.2 1307c70.0
     28c260.3",
    "MST7MDT,M3.2.0,M11.1.0"⟩,
   ⟨"America/Costa_Rica", "CST -21600,CDT -18000",
    "0 11364960.1 8124f0.0 15ebd10.1 8124f0.0 14009010.1 d6d670.0 1090b90.1 4b1770.0",
    "CST6"⟩,
   ⟨"America/Coyhaique", "-03 -10800,-04 -14400",
    "0 72dcb0.1 1027410.0 caf8f0.1 114e910.0 caf8f0.1 11e2390.0 c1be70.1 10bae90.0 d43370.1
     11e2390.0 c1be70.1 11e2390.0 caf8f0.1 114e910.0 caf8f0.1 114e910.0 caf8f0.1 11e2390.0
     c1be70.1 11e2390.0 c1be70.1 11e2390.0 caf8f0.1 114e910.0 caf8f0.1 114e910.0 caf8f0.1
     114e910.0 caf8f0.1 11e2390.0 c1be70.1 11e2390.0 c1be70.1 11e2390.0 efe2f0.1 efff10.0
     caf8f0.1 114e910.0 caf8f0.1 11e2390.0 c1be70.1 f93990.0 e6a870.1 11e2390.0 caf8f0.1
     114e910.0 caf8f0.1 114e910.0 caf8f0.1 114e910.0 caf8f0.1 11e2390.0 c1be70.1 11e2390.0
     dd6df0.1 1027410.0 caf8f0.1 1027410.0 f91d70.1 f93990.0 caf8f0.1 11e2390.0 c1be70.1
     11e2390.0 c1be70.1 11e2390.0 c1be70.1 11e2390.0 caf8f0.1 114e910.0 caf8f0.1 114e910.0
     caf8f0.1 11e2390.0 c1be70.1 11e2390.0 dd6df0.1 1027410.0 caf8f0.1 114e910.0 e6a870.1
     f93990.0 114ccf0.1 8a7b90.0 14c2bf0.1 a62b10.0 139b6f0.1 af6590.0 1307c70.1 af6590.0
     32c0df0.1 780690.0 167db70.1 780690.0 167db70.1 780690.0 139b6f0.1 cb1510.0 114ccf0.1
     cb1510.0 114ccf0.1 cb1510.0 114ccf0.1 d44f90.0 10b9270.1 cb1510.0 11e0770.1 cb1510.0",
    "<-03>3"⟩,
   ⟨"America/Cuiaba", "-04 -14400,-03 -10800",
    "0 1dc99c40.1 af4970.0 1275e10.1 9399f0.0 14d9990.1 8a5f70.0 14c4810.1 8a5f70.0 1558290.1
     9cd470.0 14c4810.1 9cd470.0 1430d90.1 9399f0.0 1558290.1 8124f0.0 1558290.1 a60ef0.0
     139d310.1 a60ef0.0 139d310.1 9cd470.0 139d310.1 af4970.0 131ea10.1 c06cf0.0 1275e10.1
     af4970.0 1275e10.1 c1be70.0 1275e10.1 af4970.0 139d310.1 a60ef0.0 1558290.1 8a5f70.0
     3380790.1 90f6f0.0 139d310.1 a60ef0.0 1558290.1 9399f0.0 1309890.1 a60ef0.0 1430d90.1
     9cd470.0 1430d90.1 a60ef0.0 139d310.1 a60ef0.0 139d310.1 af4970.0 139d310.1 9cd470.0
     1430d90.1 9cd470.0 1430d90.1 a60ef0.0 139d310.1 a60ef0.0 139d310.1 a60ef0.0 139d310.1
     a60ef0.0 1558290.1 8a5f70.0",
    "<-04>4"⟩,
   ⟨"America/Danmarkshavn", "-03 -10800,-02 -7200,GMT 0",
    "0 134d7c50.1 e67e40.0 eff100.1 eff100.0 eff100.1 eff100.0 eff100.1 eff100.0 eff100.1
     f92b80.0 eff100.1 eff100.0 eff100.1 eff100.0 eff100.1 eff100.0 eff100.1 eff100.0 eff100.1
     eff100.0 eff100.1 f92b80.0 eff100.1 eff100.0 eff100.1 eff100.0 eff100.1 eff100.0 eff100.1
     eff100.0 eff100.1 eff100.0 82a0a0.2",
    "GMT0"⟩,
   ⟨"America/Dawson", "YST -32400,PST -28800,PDT -25200,MST -25200",
    "0 730ec90.1 c388590.2 efe2f0.1 efff10.2 efe2f0.1 efff10.2 f91d70.1 e6c490.2 f91d70.1
     efff10.2 efe2f0.1 efff10.2 efe2f0.1 efff10.2 efe2f0.1 d44f90.2 10b9270.1 d44f90.2
     114ccf0.1 cb1510.2 114ccf0.1 cb1510.2 114ccf0.1 d44f90.2 10b9270.1 d44f90.2 10b9270.1
     d44f90.2 114ccf0.1 cb1510.2 114ccf0.1 cb1510.2 114ccf0.1 d44f90.2 10b9270.1 d44f90.2
     10b9270.1 d44f90.2 10b9270.1 d44f90.2 114ccf0.1 cb1510.2 114ccf0.1 cb1510.2 114ccf0.1
     d44f90.2 10b9270.1 d44f90.2 10b9270.1 d44f90.2 114ccf0.1 cb1510.2 114ccf0.1 cb1510.2
     114ccf0.1 af6590.2 139b6f0.1 a62b10.2 139b6f0.1 a62b10.2 139b6f0.1 af6590.2 139b6f0.1
     a62b10.2 139b6f0.1 a62b10.2 139b6f0.1 a62b10.2 139b6f0.1 a62b10.2 139b6f0.1 a62b10.2
     139b6f0.1 af6590.2 139b6f0.1 a62b10.2 139b6f0.1 a62b10.2 139b6f0.1 a62b10.2 139b6f0.1
     a62b10.2 1399ad0.3",
    "MST7"⟩,
   ⟨"America/Dawson_Creek", "PST -28800,PDT -25200,MST -25200",
    "0 982920.1 efe2f0.0 efff10.1 f91d70.0 efff10.1 a0c8f0.2",
    "MST7"⟩,
   ⟨"America/Denver", "MST -25200,MDT -21600",
    "0 981b10.1 efe2f0.0 efff10.1 f91d70.0 efff10.1 efe2f0.0 efff10.1 efe2f0.0 5c5710.1
     1838af0.0 9cf090.1 142f170.0 efff10.1 f91d70.0 e6c490.1 f91d70.0 efff10.1 efe2f0.0
     efff10.1 efe2f0.0 efff10.1 efe2f0.0 efff10.1 efe2f0.0 efff10.1 f91d70.0 e6c490.1 f91d70.0
     efff10.1 efe2f0.0 efff10.1 efe2f0.0 efff10.1 efe2f0.0 d44f90.1 10b9270.0 d44f90.1
     114ccf0.0 cb1510.1 114ccf0.0 cb1510.1 114ccf0.0 d44f90.1 10b9270.0 d44f90.1 10b9270.0
     d44f90.1 114ccf0.0 cb1510.1 114ccf0.0 cb1510.1 114ccf0.0 d44f90.1 10b9270.0 d44f90.1
     10b9270.0 d44f90.1 10b9270.0 d44f90.1 114ccf0.0 cb1510.1 114ccf0.0 cb1510.1 114ccf0.0
     d44f90.1 10b9270.0 d44f90.1 10b9270.0 d44f90.1 114ccf0.0 cb1510.1 114ccf0.0 cb1510.1
     114ccf0.0 af6590.1",
    "MST7MDT,M3.2.0,M11.1.0"⟩,
   ⟨"America/Detroit", "EST -18000,EDT -14400",
    "0 640df70.1 efe2f0.0 5c5710.1 1838af0.0 efff10.1 efe2f0.0 efff10.1 f91d70.0 e6c490.1
     f91d70.0 efff10.1 efe2f0.0 efff10.1 efe2f0.0 efff10.1 efe2f0.0 efff10.1 efe2f0.0 efff10.1
     f91d70.0 e6c490.1 f91d70.0 efff10.1 efe2f0.0 efff10.1 efe2f0.0 efff10.1 efe2f0.0 d44f90.1
     10b9270.0 d44f90.1 114ccf0.0 cb1510.1 114ccf0.0 cb1510.1 114ccf0.0 d44f90.1 10b9270.0
     d44f90.1 10b9270.0 d44f90.1 114ccf0.0 cb1510.1 114ccf0.0 cb1510.1 114ccf0.0 d44f90.1
     10b9270.0 d44f90.1 10b9270.0 d44f90.1 10b9270.0 d44f90.1 114ccf0.0 cb1510.1 114ccf0.0
     cb1510.1 114ccf0.0 d44f90.1 10b9270.0 d44f90.1 10b9270.0 d44f90.1 114ccf0.0 cb1510.1
     114ccf0.0 cb1510.1 114ccf0.0 af6590.1",
    "EST5EDT,M3.2.0,M11.1.0"⟩,
   ⟨"America/Edmonton", "MST -25200,MDT -21600",
    "0 4611990.1 efe2f0.0 efff10.1 efe2f0.0 efff10.1 efe2f0.0 efff10.1 efe2f0.0 efff10.1
     f91d70.0 e6c490.1 f91d70.0 efff10.1 efe2f0.0 efff10.1 efe2f0.0 efff10.1 efe2f0.0 efff10.1
     efe2f0.0 efff10.1 f91d70.0 e6c490.1 f91d70.0 efff10.1 efe2f0.0 efff10.1 efe2f0.0 efff10.1
     efe2f0.0 d44f90.1 10b9270.0 d44f90.1 114ccf0.0 cb1510.1 114ccf0.0 cb1510.1 114ccf0.0
     d44f90.1 10b9270.0 d44f90.1 10b9270.0 d44f90.1 114ccf0.0 cb1510.1 114ccf0.0 cb1510.1
     114ccf0.0 d44f90.1 10b9270.0 d44f90.1 10b9270.0 d44f90.1 10b9270.0 d44f90.1 114ccf0.0
     cb1510.1 114ccf0.0 cb1510.1 114ccf0.0 d44f90.1 10b9270.0 d44f90.1 10b9270.0 d44f90.1
     114ccf0.0 cb1510.1 114ccf0.0 cb1510.1 114ccf0.0 af6590.1",
    "MST7MDT,M3.2.0,M11.1.0"⟩,
   ⟨"America/Eirunepe", "-05 -18000,-04 -14400",
    "0 1dc9aa50.1 af4970.0 1275e10.1 9399f0.0 14d9990.1 8a5f70.0 ab4ec90.1 a60ef0.0 1af99f10.1
     a1e8570.0",
    "<-05>5"⟩,
   ⟨"America/El_Salvador", "CST -21600,CDT -18000",
    "0 209adce0.1 c1be70.0 11e2390.1 c1be70.0",
    "CST6"⟩,
   ⟨"America/Fort_Nelson", "PST -28800,PDT -25200,MST -25200",
    "0 982920.1 efe2f0.0 efff10.1 f91d70.0 efff10.1 efe2f0.0 efff10.1 efe2f0.0 efff10.1
     efe2f0.0 efff10.1 efe2f0.0 efff10.1 f91d70.0 e6c490.1 f91d70.0 efff10.1 efe2f0.0 efff10.1
     efe2f0.0 efff10.1 efe2f0.0 efff10.1 efe2f0.0 efff10.1 f91d70.0 e6c490.1 f91d70.0 efff10.1
     efe2f0.0 efff10.1 efe2f0.0 efff10.1 efe2f0.0 d44f90.1 10b9270.0 d44f90.1 114ccf0.0
     cb1510.1 114ccf0.0 cb1510.1 114ccf0.0 d44f90.1 10b9270.0 d44f90.1 10b9270.0 d44f90.1
     114ccf0.0 cb1510.1 114ccf0.0 cb1510.1 114ccf0.0 d44f90.1 10b9270.0 d44f90.1 10b9270.0
     d44f90.1 10b9270.0 d44f90.1 114ccf0.0 cb1510.1 114ccf0.0 cb1510.1 114ccf0.0 d44f90.1
     10b9270.0 d44f90.1 10b9270.0 d44f90.1 114ccf0.0 cb1510.1 114ccf0.0 cb1510.1 114ccf0.0
     af6590.1 139b6f0.0 a62b10.1 139b6f0.0 a62b10.1 139b6f0.0 af6590.1 139b6f0.0 a62b10.1
     139b6f0.0 a62b10.1 139b6f0.0 a62b10.1 139b6f0.0 a62b10.1 139b6f0.0 a62b10.2",
    "MST7"⟩,
   ⟨"America/Fortaleza", "-03 -10800,-02 -7200",
    "0 1dc98e30.1 af4970.0 1275e10.1 9399f0.0 14d9990.1 8a5f70.0 14c4810.1 8a5f70.0 1558290.1
     9cd470.0 1221ff90.1 c1be70.0 1275e10.1 1266f0.0 1d6b590.1 a60ef0.0",
    "<-03>3"⟩,
   ⟨"America/Glace_Bay", "AST -14400,ADT -10800",
    "0 460ef60.1 efe2f0.0 efff10.1 efe2f0.0 efff10.1 efe2f0.0 efff10.1 efe2f0.0 efff10.1
     f91d70.0 e6c490.1 f91d70.0 efff10.1 efe2f0.0 efff10.1 efe2f0.0 efff10.1 efe2f0.0 efff10.1
     efe2f0.0 efff10.1 f91d70.0 e6c490.1 f91d70.0 efff10.1 efe2f0.0 efff10.1 efe2f0.0 efff10.1
     efe2f0.0 d44f90.1 10b9270.0 d44f90.1 114ccf0.0 cb1510.1 114ccf0.0 cb1510.1 114ccf0.0
     d44f90.1 10b9270.0 d44f90.1 10b9270.0 d44f90.1 114ccf0.0 cb1510.1 114ccf0.0 cb1510.1
     114ccf0.0 d44f90.1 10b9270.0 d44f90.1 10b9270.0 d44f90.1 10b9270.0 d44f90.1 114ccf0.0
     cb1510.1 114ccf0.0 cb1510.1 114ccf0.0 d44f90.1 10b9270.0 d44f90.1 10b9270.0 d44f90.1
     114ccf0.0 cb1510.1 114ccf0.0 cb1510.1 114ccf0.0 af6590.1",
    "AST4ADT,M3.2.0,M11.1.0"⟩,
   ⟨"America/Goose_Bay", "AST -14400,ADT -10800,ADDT -7200",
    "0 97f0e0.1 efe2f0.0 efff10.1 f91d70.0 efff10.1 efe2f0.0 efff10.1 efe2f0.0 efff10.1
     efe2f0.0 efff10.1 efe2f0.0 efff10.1 f91d70.0 e6c490.1 f91d70.0 efff10.1 efe2f0.0 efff10.1
     efe2f0.0 efff10.1 efe2f0.0 efff10.1 efe2f0.0 efff10.1 f91d70.0 e6c490.1 f91d70.0 efff10.1
     efe2f0.0 efff10.1 efe2f0.0 efff10.1 efe2f0.0 d433ac.1 10b9270.0 d44f90.2 114bee0.0
     cb2320.1 114ccf0.0 cb1510.1 114ccf0.0 d44f90.1 10b9270.0 d44f90.1 10b9270.0 d44f90.1
     114ccf0.0 cb1510.1 114ccf0.0 cb1510.1 114ccf0.0 d44f90.1 10b9270.0 d44f90.1 10b9270.0
     d44f90.1 10b9270.0 d44f90.1 114ccf0.0 cb1510.1 114ccf0.0 cb1510.1 114ccf0.0 d44f90.1
     10b9270.0 d44f90.1 10b9270.0 d44f90.1 114ccf0.0 cb1510.1 114ccf0.0 cb1510.1 114ccf0.0
     af6590.1 139b6f0.0 a62b10.1 139b6f0.0 a62b10.1 139b6f0.0 af6590.1 139b6f0.0 a62b10.1
     139d2d4.0",
    "AST4ADT,M3.2.0,M11.1.0"⟩,
   ⟨"America/Grand_Turk", "EST -18000,EDT -14400,AST -14400",
    "0 118965f0.1 efe2f0.0 efff10.1 efe2f0.0 efff10.1 efe2f0.0 efff10.1 f91d70.0 e6c490.1
     f91d70.0 efff10.1 efe2f0.0 efff10.1 efe2f0.0 efff10.1 efe2f0.0 d44f90.1 10b9270.0
     d44f90.1 114ccf0.0 cb1510.1 114ccf0.0 cb1510.1 114ccf0.0 d44f90.1 10b9270.0 d44f90.1
     10b9270.0 d44f90.1 114ccf0.0 cb1510.1 114ccf0.0 cb1510.1 114ccf0.0 d44f90.1 10b9270.0
     d44f90.1 10b9270.0 d44f90.1 10b9270.0 d44f90.1 114ccf0.0 cb1510.1 114ccf0.0 cb1510.1
     114ccf0.0 d44f90.1 10b9270.0 d44f90.1 10b9270.0 d44f90.1 114ccf0.0 cb1510.1 114ccf0.0
     cb1510.1 114ccf0.0 af6590.1 139b6f0.0 a62b10.1 139b6f0.0 a62b10.1 139b6f0.0 af6590.1
     139b6f0.0 a62b10.1 139b6f0.0 a62b10.1 139b6f0.0 a62b10.1 139b6f0.0 a62b10.1 139b6f0.0
     a62b10.2 5a8e080.1",
    "EST5EDT,M3.2.0,M11.1.0"⟩,
   ⟨"America/Guatemala", "CST -21600,CDT -18000",
    "0 755ac60.1 77ea70.0 115ee190.1 a36bf0.0 e1b0a90.1 dd6df0.0 1b8bf590.1 caf8f0.0",
    "CST6"⟩,
   ⟨"America/Guayaquil", "-05 -18000,-04 -14400",
    "0 2b16fcd0.1 5ae970.0",
    "<-05>5"⟩,
   ⟨"America/Guyana", "-0345 -13500,-03 -10800,-04 -14400",
    "0 a7f05bc.1 1f563b04.2",
    "<-04>4"⟩,
   ⟨"America/Halifax", "AST -14400,ADT -10800",
    "0 97f0e0.1 efe2f0.0 efff10.1 f91d70.0 efff10.1 efe2f0.0 efff10.1 efe2f0.0 efff10.1
     efe2f0.0 efff10.1 efe2f0.0 efff10.1 f91d70.0 e6c490.1 f91d70.0 efff10.1 efe2f0.0 efff10.1
     efe2f0.0 efff10.1 efe2f0.0 efff10.1 efe2f0.0 efff10.1 f91d70.0 e6c490.1 f91d70.0 efff10.1
     efe2f0.0 efff10.1 efe2f0.0 efff10.1 efe2f0.0 d44f90.1 10b9270.0 d44f90.1 114ccf0.0
     cb1510.1 114ccf0.0 cb1510.1 114ccf0.0 d44f90.1 10b9270.0 d44f90.1 10b9270.0 d44f90.1
     114ccf0.0 cb1510.1 114ccf0.0 cb1510.1 114ccf0.0 d44f90.1 10b9270.0 d44f90.1 10b9270.0
     d44f90.1 10b9270.0 d44f90.1 114ccf0.0 cb1510.1 114ccf0.0 cb1510.1 114ccf0.0 d44f90.1
     10b9270.0 d44f90.1 10b9270.0 d44f90.1 114ccf0.0 cb1510.1 114ccf0.0 cb1510.1 114ccf0.0
     af6590.1",
    "AST4ADT,M3.2.0,M11.1.0"⟩,
   ⟨"America/Havana", "CST -18000,CDT -14400",
    "0 97e2d0.1 efe2f0.0 efff10.1 f91d70.0 efff10.1 d43370.0 10bae90.1 d584f0.0 10a5d10.1
     d6d670.0 1090b90.1 efe2f0.0 efff10.1 f91d70.0 e6c490.1 f91d70.0 f93990.1 caf8f0.0
     d44f90.1 114ccf0.0 cb1510.1 114ccf0.0 114e910.1 caf8f0.0 114e910.1 caf8f0.0 114e910.1
     caf8f0.0 114e910.1 d43370.0 10bae90.1 d43370.0 cb1510.1 114ccf0.0 cb1510.1 114ccf0.0
     d44f90.1 10b9270.0 d44f90.1 10b9270.0 e6c490.1 10257f0.0 e6c490.1 f92b80.0 e6b680.1
     f92b80.0 e6b680.1 f92b80.0 e6b680.1 f92b80.0 e6b680.1 f92b80.0 eff100.1 eff100.0 eff100.1
     f92b80.0 dd7c00.1 114db00.0 cb0700.1 11e1580.0 cb0700.1 114db00.0 cb0700.1 114db00.0
     d44180.1 10ba080.0 d44180.1 10ba080.0 cb0700.1 4ddd980.0 af5780.1 1308a80.0 b89200.1
     1275000.0 af5780.1 1308a80.0 b89200.1 1308a80.0 b89200.1 139c500.0 b89200.1",
    "CST5CDT,M3.2.0/0,M11.1.0/1"⟩,
   ⟨"America/Hermosillo", "MST -25200,MDT -21600",
    "0 31678410.1 10b9270.0 d44f90.1 10b9270.0 d44f90.1 10b9270.0",
    "MST7"⟩,
   ⟨"America/Indiana/Indianapolis", "EST -18000,EDT -14400",
    "0 97fef0.1 efe2f0.0 42a79490.1 114ccf0.0 af6590.1",
    "EST5EDT,M3.2.0,M11.1.0"⟩,
   ⟨"America/Indiana/Knox", "CST -21600,CDT -18000,EST -18000",
    "0 980d00.1 efe2f0.0 efff10.1 f91d70.0 efff10.1 efe2f0.0 efff10.1 efe2f0.0 5c5710.1
     1838af0.0 9cf090.1 142f170.0 efff10.1 f91d70.0 e6c490.1 f91d70.0 efff10.1 efe2f0.0
     efff10.1 efe2f0.0 efff10.1 efe2f0.0 efff10.1 efe2f0.0 efff10.1 f91d70.0 e6c490.1 f91d70.0
     efff10.1 efe2f0.0 efff10.1 efe2f0.0 efff10.1 efe2f0.0 d44f90.1 10b9270.0 d44f90.1
     114ccf0.0 cb1510.1 114ccf0.0 cb1510.1 114ccf0.0 d44f90.1 10b9270.2 1b251280.1 114db00.0
     af6590.1",
    "CST6CDT,M3.2.0,M11.1.0"⟩,
   ⟨"America/Indiana/Marengo", "EST -18000,EDT -14400,CDT -18000",
    "0 97fef0.1 efe2f0.0 efff10.1 f91d70.0 efff10.1 efe2f0.0 efff10.1 efe2f0.0 5c5710.2
     1839900.0 9ce280.1 142f170.0 393ef010.1 114ccf0.0 af6590.1",
    "EST5EDT,M3.2.0,M11.1.0"⟩,
   ⟨"America/Indiana/Petersburg", "CST -21600,CDT -18000,EST -18000",
    "0 980d00.1 efe2f0.0 efff10.1 f91d70.0 efff10.1 efe2f0.0 efff10.1 efe2f0.0 5c5710.1
     1838af0.0 9cf090.1 142f170.0 efff10.1 f91d70.0 e6c490.1 f91d70.2 3575e380.1 114db00.0
     af6590.1 139b6f0.2",
    "EST5EDT,M3.2.0,M11.1.0"⟩,
   ⟨"America/Indiana/Tell_City", "EST -18000,EDT -14400,CDT -18000,CST -21600",
    "0 97fef0.1 efe2f0.0 42a79490.2 114db00.3 af6590.2",
    "CST6CDT,M3.2.0,M11.1.0"⟩,
   ⟨"America/Indiana/Vevay", "EST -18000,EDT -14400",
    "0 97fef0.1 efe2f0.0 efff10.1 f91d70.0 efff10.1 efe2f0.0 3ede9610.1 114ccf0.0 af6590.1",
    "EST5EDT,M3.2.0,M11.1.0"⟩,
   ⟨"America/Indiana/Vincennes", "EST -18000,EDT -14400,CDT -18000,CST -21600",
    "0 97fef0.1 efe2f0.0 42a79490.2 114db00.3 af6590.2 139b6f0.0",
    "EST5EDT,M3.2.0,M11.1.0"⟩,
   ⟨"America/Indiana/Winamac", "EST -18000,EDT -14400,CDT -18000,CST -21600",
    "0 97fef0.1 efe2f0.0 42a79490.2 114db00.3 af6590.1",
    "EST5EDT,M3.2.0,M11.1.0"⟩,
   ⟨"America/Inuvik", "PST -28800,PDT -25200,MDT -21600,MST -25200",
    "0 46127a0.1 efe2f0.0 efff10.1 efe2f0.0 efff10.1 efe2f0.0 efff10.1 efe2f0.0 efff10.1
     f91d70.0 e6c490.1 f91d70.0 efff10.1 efe2f0.0 efff10.2 efd4e0.3 efff10.2 efe2f0.3 efff10.2
     efe2f0.3 efff10.2 f91d70.3 e6c490.2 f91d70.3 efff10.2 efe2f0.3 efff10.2 efe2f0.3 efff10.2
     efe2f0.3 d44f90.2 10b9270.3 d44f90.2 114ccf0.3 cb1510.2 114ccf0.3 cb1510.2 114ccf0.3
     d44f90.2 10b9270.3 d44f90.2 10b9270.3 d44f90.2 114ccf0.3 cb1510.2 114ccf0.3 cb1510.2
     114ccf0.3 d44f90.2 10b9270.3 d44f90.2 10b9270.3 d44f90.2 10b9270.3 d44f90.2 114ccf0.3
     cb1510.2 114ccf0.3 cb1510.2 114ccf0.3 d44f90.2 10b9270.3 d44f90.2 10b9270.3 d44f90.2
     114ccf0.3 cb1510.2 114ccf0.3 cb1510.2 114ccf0.3 af6590.2",
    "MST7MDT,M3.2.0,M11.1.0"⟩,
   ⟨"America/Iqaluit", "EST -18000,EDT -14400,CST -21600,CDT -18000",
    "0 460fd70.1 efe2f0.0 efff10.1 efe2f0.0 efff10.1 efe2f0.0 efff10.1 efe2f0.0 efff10.1
     f91d70.0 e6c490.1 f91d70.0 efff10.1 efe2f0.0 efff10.1 efe2f0.0 efff10.1 efe2f0.0 efff10.1
     efe2f0.0 efff10.1 f91d70.0 e6c490.1 f91d70.0 efff10.1 efe2f0.0 efff10.1 efe2f0.0 efff10.1
     efe2f0.0 d44f90.1 10b9270.0 d44f90.1 114ccf0.0 cb1510.1 114ccf0.0 cb1510.1 114ccf0.0
     d44f90.1 10b9270.0 d44f90.1 10b9270.0 d44f90.1 114ccf0.0 cb1510.1 114ccf0.0 cb1510.1
     114ccf0.0 d44f90.1 10b9270.0 d44f90.1 10b9270.0 d44f90.1 10b9270.0 d44f90.1 114ccf0.2
     cb2320.3 114ccf0.0 cb0700.1 114ccf0.0 d44f90.1 10b9270.0 d44f90.1 10b9270.0 d44f90.1
     114ccf0.0 cb1510.1 114ccf0.0 cb1510.1 114ccf0.0 af6590.1",
    "EST5EDT,M3.2.0,M11.1.0"⟩,
   ⟨"America/Jamaica", "EST -18000,EDT -14400",
    "0 78d1970.1 1838af0.0 9cf090.1 142f170.0 efff10.1 f91d70.0 e6c490.1 f91d70.0 efff10.1
     efe2f0.0 efff10.1 efe2f0.0 efff10.1 efe2f0.0 efff10.1 efe2f0.0 efff10.1 f91d70.0 e6c490.1
     f91d70.0",
    "EST5"⟩,
   ⟨"America/Juneau", "PST -28800,PDT -25200,YDT -28800,YST -32400,AKST -32400,AKDT -28800",
    "0 982920.1 efe2f0.0 efff10.1 f91d70.0 efff10.1 efe2f0.0 efff10.1 efe2f0.0 5c5710.1
     1838af0.0 9cf090.1 142f170.0 efff10.1 f91d70.0 e6c490.1 f91d70.0 efff10.1 efe2f0.0
     efff10.1 efe2f0.0 efff10.2 eff100.0 eff100.1 efe2f0.0 efff10.1 f91d70.0 e6c490.1 f91d70.3
     28de80.4 c72ea0.5 efe2f0.4 efff10.5 efe2f0.4 efff10.5 efe2f0.4 d44f90.5 10b9270.4
     d44f90.5 114ccf0.4 cb1510.5 114ccf0.4 cb1510.5 114ccf0.4 d44f90.5 10b9270.4 d44f90.5
     10b9270.4 d44f90.5 114ccf0.4 cb1510.5 114ccf0.4 cb1510.5 114ccf0.4 d44f90.5 10b9270.4
     d44f90.5 10b9270.4 d44f90.5 10b9270.4 d44f90.5 114ccf0.4 cb1510.5 114ccf0.4 cb1510.5
     114ccf0.4 d44f90.5 10b9270.4 d44f90.5 10b9270.4 d44f90.5 114ccf0.4 cb1510.5 114ccf0.4
     cb1510.5 114ccf0.4 af6590.5",
    "AKST9AKDT,M3.2.0,M11.1.0"⟩,
   ⟨"America/Kentucky/Louisville", "EST -18000,EDT -14400,CDT -18000",
    "0 97fef0.1 efe2f0.0 efff10.1 f91d70.0 efff10.1 efe2f0.0 efff10.1 efe2f0.0 5c5710.2
     1839900.0 9ce280.1 142f170.0 efff10.1 f91d70.0 e6c490.1 f91d70.0 efff10.1 efe2f0.0
     efff10.1 efe2f0.0 efff10.1 efe2f0.0 efff10.1 efe2f0.0 efff10.1 f91d70.0 e6c490.1 f91d70.0
     efff10.1 efe2f0.0 efff10.1 efe2f0.0 efff10.1 efe2f0.0 d44f90.1 10b9270.0 d44f90.1
     114ccf0.0 cb1510.1 114ccf0.0 cb1510.1 114ccf0.0 d44f90.1 10b9270.0 d44f90.1 10b9270.0
     d44f90.1 114ccf0.0 cb1510.1 114ccf0.0 cb1510.1 114ccf0.0 d44f90.1 10b9270.0 d44f90.1
     10b9270.0 d44f90.1 10b9270.0 d44f90.1 114ccf0.0 cb1510.1 114ccf0.0 cb1510.1 114ccf0.0
     d44f90.1 10b9270.0 d44f90.1 10b9270.0 d44f90.1 114ccf0.0 cb1510.1 114ccf0.0 cb1510.1
     114ccf0.0 af6590.1",
    "EST5EDT,M3.2.0,M11.1.0"⟩,
   ⟨"America/Kentucky/Monticello", "CST -21600,CDT -18000,EST -18000,EDT -14400",
    "0 980d00.1 efe2f0.0 efff10.1 f91d70.0 efff10.1 efe2f0.0 efff10.1 efe2f0.0 5c5710.1
     1838af0.0 9cf090.1 142f170.0 efff10.1 f91d70.0 e6c490.1 f91d70.0 efff10.1 efe2f0.0
     efff10.1 efe2f0.0 efff10.1 efe2f0.0 efff10.1 efe2f0.0 efff10.1 f91d70.0 e6c490.1 f91d70.0
     efff10.1 efe2f0.0 efff10.1 efe2f0.0 efff10.1 efe2f0.0 d44f90.1 10b9270.0 d44f90.1
     114ccf0.0 cb1510.1 114ccf0.0 cb1510.1 114ccf0.0 d44f90.1 10b9270.0 d44f90.1 10b9270.0
     d44f90.1 114ccf0.0 cb1510.1 114ccf0.0 cb1510.1 114ccf0.0 d44f90.1 10b9270.0 d44f90.1
     10b9270.0 d44f90.1 10b9270.0 d44f90.1 114ccf0.0 cb1510.1 114ccf0.2 cb0700.3 114ccf0.2
     d44f90.3 10b9270.2 d44f90.3 10b9270.2 d44f90.3 114ccf0.2 cb1510.3 114ccf0.2 cb1510.3
     114ccf0.2 af6590.3",
    "EST5EDT,M3.2.0,M11.1.0"⟩,
   ⟨"America/La_Paz", "-04 -14400",
    "0",
    "<-04>4"⟩,
   ⟨"America/Lima", "-05 -18000,-04 -14400",
    "0 1e18c450.1 7698f0.0 16a9a90.1 7698f0.0 52e5310.1 7698f0.0 70f8690.1 7698f0.0",
    "<-05>5"⟩,
   ⟨"America/Los_Angeles", "PST -28800,PDT -25200",
    "0 982920.1 efe2f0.0 efff10.1 f91d70.0 efff10.1 efe2f0.0 efff10.1 efe2f0.0 5c5710.1
     1838af0.0 9cf090.1 142f170.0 efff10.1 f91d70.0 e6c490.1 f91d70.0 efff10.1 efe2f0.0
     efff10.1 efe2f0.0 efff10.1 efe2f0.0 efff10.1 efe2f0.0 efff10.1 f91d70.0 e6c490.1 f91d70.0
     efff10.1 efe2f0.0 efff10.1 efe2f0.0 efff10.1 efe2f0.0 d44f90.1 10b9270.0 d44f90.1
     114ccf0.0 cb1510.1 114ccf0.0 cb1510.1 114ccf0.0 d44f90.1 10b9270.0 d44f90.1 10b9270.0
     d44f90.1 114ccf0.0 cb1510.1 114ccf0.0 cb1510.1 114ccf0.0 d44f90.1 10b9270.0 d44f90.1
     10b9270.0 d44f90.1 10b9270.0 d44f90.1 114ccf0.0 cb1510.1 114ccf0.0 cb1510.1 114ccf0.0
     d44f90.1 10b9270.0 d44f90.1 10b9270.0 d44f90.1 114ccf0.0 cb1510.1 114ccf0.0 cb1510.1
     114ccf0.0 af6590.1",
    "PST8PDT,M3.2.0,M11.1.0"⟩,
   ⟨"America/Maceio", "-03 -10800,-02 -7200",
    "0 1dc98e30.1 af4970.0 1275e10.1 9399f0.0 14d9990.1 8a5f70.0 14c4810.1 8a5f70.0 1558290.1
     9cd470.0 aabb210.1 9cd470.0 6d97910.1 c1be70.0 1275e10.1 1266f0.0 1d6b590.1 a60ef0.0",
    "<-03>3"⟩,
   ⟨"America/Managua", "CST -21600,EST -18000,CDT -18000",
    "0 6437460.1 360c9f0.0 7adba90.2 827670.0 15d6b90.2 827670.0 15ad3fd0.1 15fba30.0 829290.1
     7861170.0 f8ed190.2 e6a870.0 1150530.2 caeae0.0",
    "CST6"⟩,
   ⟨"America/Manaus", "-04 -14400,-03 -10800",
    "0 1dc99c40.1 af4970.0 1275e10.1 9399f0.0 14d9990.1 8a5f70.0 ab4ec90.1 a60ef0.0",
    "<-04>4"⟩,
   ⟨"America/Martinique", "AST -14400,ADT -10800",
    "0 134d6e40.1 e6a870.0",
    "AST4"⟩,
   ⟨"America/Matamoros", "CST -21600,CDT -18000",
    "0 2255f100.1 114ccf0.0 dfcb810.1 10b9270.0 d44f90.1 10b9270.0 d44f90.1 10b9270.0 d44f90.1
     114ccf0.0 cb1510.1 114ccf0.0 f93990.1 c1be70.0 f93990.1 10b9270.0 d44f90.1 10b9270.0
     d44f90.1 114ccf0.0 cb1510.1 114ccf0.0 cb1510.1 114ccf0.0 cb1510.1 114ccf0.0 d44f90.1
     10b9270.0 d44f90.1 10b9270.0 b8a010.1",
    "CST6CDT,M3.2.0,M11.1.0"⟩,
   ⟨"America/Mazatlan", "MST -25200,MDT -21600",
    "0 31678410.1 10b9270.0 d44f90.1 10b9270.0 d44f90.1 10b9270.0 d44f90.1 114ccf0.0 cb1510.1
     114ccf0.0 f93990.1 c1be70.0 f93990.1 10b9270.0 d44f90.1 10b9270.0 d44f90.1 114ccf0.0
     cb1510.1 114ccf0.0 cb1510.1 114ccf0.0 cb1510.1 114ccf0.0 d44f90.1 10b9270.0 d44f90.1
     10b9270.0 d44f90.1 114ccf0.0 cb1510.1 114ccf0.0 cb1510.1 114ccf0.0 d44f90.1 10b9270.0
     d44f90.1 10b9270.0 d44f90.1 10b9270.0 d44f90.1 114ccf0.0 cb1510.1 114ccf0.0 cb1510.1
     114ccf0.0 d44f90.1 10b9270.0 d44f90.1 10b9270.0 d44f90.1 114ccf0.0 cb1510.1 114ccf0.0",
    "MST7"⟩,
   ⟨"America/Menominee", "EST -18000,CDT -18000,CST -21600",
    "0 640df70.1 eff100.2 5c5710.1 1838af0.2 9cf090.1 142f170.2 efff10.1 f91d70.2 e6c490.1
     f91d70.2 efff10.1 efe2f0.2 efff10.1 efe2f0.2 efff10.1 efe2f0.2 efff10.1 efe2f0.2 efff10.1
     f91d70.2 e6c490.1 f91d70.2 efff10.1 efe2f0.2 efff10.1 efe2f0.2 efff10.1 efe2f0.2 d44f90.1
     10b9270.2 d44f90.1 114ccf0.2 cb1510.1 114ccf0.2 cb1510.1 114ccf0.2 d44f90.1 10b9270.2
     d44f90.1 10b9270.2 d44f90.1 114ccf0.2 cb1510.1 114ccf0.2 cb1510.1 114ccf0.2 d44f90.1
     10b9270.2 d44f90.1 10b9270.2 d44f90.1 10b9270.2 d44f90.1 114ccf0.2 cb1510.1 114ccf0.2
     cb1510.1 114ccf0.2 d44f90.1 10b9270.2 d44f90.1 10b9270.2 d44f90.1 114ccf0.2 cb1510.1
     114ccf0.2 cb1510.1 114ccf0.2 af6590.1",
    "CST6CDT,M3.2.0,M11.1.0"⟩,
   ⟨"America/Merida", "CST -21600,EST -18000,CDT -18000",
    "0 168ae600.1 199f470.0 19429b90.2 10b9270.0 d44f90.2 10b9270.0 d44f90.2 10b9270.0
     d44f90.2 114ccf0.0 cb1510.2 114ccf0.0 f93990.2 c1be70.0 f93990.2 10b9270.0 d44f90.2
     10b9270.0 d44f90.2 114ccf0.0 cb1510.2 114ccf0.0 cb1510.2 114ccf0.0 cb1510.2 114ccf0.0
     d44f90.2 10b9270.0 d44f90.2 10b9270.0 d44f90.2 114ccf0.0 cb1510.2 114ccf0.0 cb1510.2
     114ccf0.0 d44f90.2 10b9270.0 d44f90.2 10b9270.0 d44f90.2 10b9270.0 d44f90.2 114ccf0.0
     cb1510.2 114ccf0.0 cb1510.2 114ccf0.0 d44f90.2 10b9270.0 d44f90.2 10b9270.0 d44f90.2
     114ccf0.0 cb1510.2 114ccf0.0",
    "CST6"⟩,
   ⟨"America/Metlakatla", "PST -28800,PDT -25200,AKST -32400,AKDT -28800",
    "0 982920.1 efe2f0.0 efff10.1 f91d70.0 efff10.1 efe2f0.0 efff10.1 efe2f0.0 5c5710.1
     1838af0.0 9cf090.1 142f170.0 efff10.1 f91d70.0 e6c490.1 f91d70.0 efff10.1 efe2f0.0
     efff10.1 efe2f0.0 efff10.1 efe2f0.0 efff10.1 efe2f0.0 efff10.1 f91d70.0 e6c490.1 f91d70.0
     3c33ad10.2 af6590.3 139b6f0.2 a62b10.3 139b6f0.2 a62b10.3 139b6f0.0 658380.2",
    "AKST9AKDT,M3.2.0,M11.1.0"⟩,
   ⟨"America/Mexico_City", "CST -21600,CDT -18000",
    "0 31677600.1 10b9270.0 d44f90.1 10b9270.0 d44f90.1 10b9270.0 d44f90.1 114ccf0.0 cb1510.1
     114ccf0.0 f93990.1 c1be70.0 f93990.1 10b9270.0 d44f90.1 10b9270.0 d44f90.1 114ccf0.0
     cb1510.1 114ccf0.0 cb1510.1 114ccf0.0 cb1510.1 114ccf0.0 d44f90.1 10b9270.0 d44f90.1
     10b9270.0 d44f90.1 114ccf0.0 cb1510.1 114ccf0.0 cb1510.1 114ccf0.0 d44f90.1 10b9270.0
     d44f90.1 10b9270.0 d44f90.1 10b9270.0 d44f90.1 114ccf0.0 cb1510.1 114ccf0.0 cb1510.1
     114ccf0.0 d44f90.1 10b9270.0 d44f90.1 10b9270.0 d44f90.1 114ccf0.0 cb1510.1 114ccf0.0",
    "CST6"⟩,
   ⟨"America/Miquelon", "AST -14400,-03 -10800,-02 -7200",
    "0 136e63c0.1 d078110.2 10b9270.1 d44f90.2 114ccf0.1 cb1510.2 114ccf0.1 cb1510.2 114ccf0.1
     d44f90.2 10b9270.1 d44f90.2 10b9270.1 d44f90.2 114ccf0.1 cb1510.2 114ccf0.1 cb1510.2
     114ccf0.1 d44f90.2 10b9270.1 d44f90.2 10b9270.1 d44f90.2 10b9270.1 d44f90.2 114ccf0.1
     cb1510.2 114ccf0.1 cb1510.2 114ccf0.1 d44f90.2 10b9270.1 d44f90.2 10b9270.1 d44f90.2
     114ccf0.1 cb1510.2 114ccf0.1 cb1510.2 114ccf0.1 af6590.2",
    "<-03>3<-02>,M3.2.0,M11.1.0"⟩,
   ⟨"America/Moncton", "AST -14400,ADT -10800",
    "0 97f0e0.1 efe2f0.0 efff10.1 f91d70.0 efff10.1 efe2f0.0 2cfe110.1 efe2f0.0 efff10.1
     efe2f0.0 efff10.1 f91d70.0 e6c490.1 f91d70.0 efff10.1 efe2f0.0 efff10.1 efe2f0.0 efff10.1
     efe2f0.0 efff10.1 efe2f0.0 efff10.1 f91d70.0 e6c490.1 f91d70.0 efff10.1 efe2f0.0 efff10.1
     efe2f0.0 efff10.1 efe2f0.0 d44f90.1 10b9270.0 d44f90.1 114ccf0.0 cb1510.1 114ccf0.0
     cb1510.1 114ccf0.0 d44f90.1 10b9270.0 d44f90.1 10b9270.0 d433ac.1 114ccf0.0 cb1510.1
     114ccf0.0 cb1510.1 114ccf0.0 d44f90.1 10b9270.0 d44f90.1 10b9270.0 d44f90.1 10b9270.0
     d44f90.1 114ccf0.0 cb1510.1 114ccf0.0 cb1510.1 114ccf0.0 d44f90.1 10b9270.0 d44f90.1
     10b9270.0 d44f90.1 114ccf0.0 cb1510.1 114ccf0.0 cb1510.1 114ccf0.0 af8174.1",
    "AST4ADT,M3.2.0,M11.1.0"⟩,
   ⟨"America/Monterrey", "CST -21600,CDT -18000",
    "0 2255f100.1 114ccf0.0 dfcb810.1 10b9270.0 d44f90.1 10b9270.0 d44f90.1 10b9270.0 d44f90.1
     114ccf0.0 cb1510.1 114ccf0.0 f93990.1 c1be70.0 f93990.1 10b9270.0 d44f90.1 10b9270.0
     d44f90.1 114ccf0.0 cb1510.1 114ccf0.0 cb1510.1 114ccf0.0 cb1510.1 114ccf0.0 d44f90.1
     10b9270.0 d44f90.1 10b9270.0 d44f90.1 114ccf0.0 cb1510.1 114ccf0.0 cb1510.1 114ccf0.0
     d44f90.1 10b9270.0 d44f90.1 10b9270.0 d44f90.1 10b9270.0 d44f90.1 114ccf0.0 cb1510.1
     114ccf0.0 cb1510.1 114ccf0.0 d44f90.1 10b9270.0 d44f90.1 10b9270.0 d44f90.1 114ccf0.0
     cb1510.1 114ccf0.0",
    "CST6"⟩,
   ⟨"America/Montevideo", "-03 -10800,-02 -7200,-0130 -5400,-0230 -9000",
    "0 967530.1 41dcf0.0 37f3890.1 6eaff0.0 2cfe110.2 49bee8.3 e6c490.0 93af08.1 8124f0.0
     33e9f10.1 657570.0 167f790.1 77ea70.0 17a6c90.1 657570.0 49e210.1 1a874f0.0 e91b190.1
     6423f0.0 17a6c90.1 6eaff0.0 139d310.1 9cd470.0 139d310.1 af4970.0 139d310.1 a60ef0.0
     1309890.1 af4970.0 15bcd990.1 f93990.0 1027410.1 caf8f0.0 10bae90.1 d43370.0 114e910.1
     caf8f0.0 114e910.1 caf8f0.0 114e910.1 d43370.0 10bae90.1 d43370.0 10bae90.1 d43370.0
     114e910.1 caf8f0.0 114e910.1 caf8f0.0 114e910.1 caf8f0.0",
    "<-03>3"⟩,
   ⟨"America/New_York", "EST -18000,EDT -14400",
    "0 97fef0.1 efe2f0.0 efff10.1 f91d70.0 efff10.1 efe2f0.0 efff10.1 efe2f0.0 5c5710.1
     1838af0.0 9cf090.1 142f170.0 efff10.1 f91d70.0 e6c490.1 f91d70.0 efff10.1 efe2f0.0
     efff10.1 efe2f0.0 efff10.1 efe2f0.0 efff10.1 efe2f0.0 efff10.1 f91d70.0 e6c490.1 f91d70.0
     efff10.1 efe2f0.0 efff10.1 efe2f0.0 efff10.1 efe2f0.0 d44f90.1 10b9270.0 d44f90.1
     114ccf0.0 cb1510.1 114ccf0.0 cb1510.1 114ccf0.0 d44f90.1 10b9270.0 d44f90.1 10b9270.0
     d44f90.1 114ccf0.0 cb1510.1 114ccf0.0 cb1510.1 114ccf0.0 d44f90.1 10b9270.0 d44f90.1
     10b9270.0 d44f90.1 10b9270.0 d44f90.1 114ccf0.0 cb1510.1 114ccf0.0 cb1510.1 114ccf0.0
     d44f90.1 10b9270.0 d44f90.1 10b9270.0 d44f90.1 114ccf0.0 cb1510.1 114ccf0.0 cb1510.1
     114ccf0.0 af6590.1",
    "EST5EDT,M3.2.0,M11.1.0"⟩,
   ⟨"America/Nome", "BST -39600,BDT -36000,YST -32400,AKST -32400,AKDT -28800",
    "0 985350.1 efe2f0.0 efff10.1 f91d70.0 efff10.1 efe2f0.0 efff10.1 efe2f0.0 5c5710.1
     1838af0.0 9cf090.1 142f170.0 efff10.1 f91d70.0 e6c490.1 f91d70.0 efff10.1 efe2f0.0
     efff10.1 efe2f0.0 efff10.1 efe2f0.0 efff10.1 efe2f0.0 efff10.1 f91d70.0 e6c490.1 f91d70.2
     28b450.3 c72ea0.4 efe2f0.3 efff10.4 efe2f0.3 efff10.4 efe2f0.3 d44f90.4 10b9270.3
     d44f90.4 114ccf0.3 cb1510.4 114ccf0.3 cb1510.4 114ccf0.3 d44f90.4 10b9270.3 d44f90.4
     10b9270.3 d44f90.4 114ccf0.3 cb1510.4 114ccf0.3 cb1510.4 114ccf0.3 d44f90.4 10b9270.3
     d44f90.4 10b9270.3 d44f90.4 10b9270.3 d44f90.4 114ccf0.3 cb1510.4 114ccf0.3 cb1510.4
     114ccf0.3 d44f90.4 10b9270.3 d44f90.4 10b9270.3 d44f90.4 114ccf0.3 cb1510.4 114ccf0.3
     cb1510.4 114ccf0.3 af6590.4",
    "AKST9AKDT,M3.2.0,M11.1.0"⟩,
   ⟨"America/Noronha", "-02 -7200,-01 -3600",
    "0 1dc98020.1 af4970.0 1275e10.1 9399f0.0 14d9990.1 8a5f70.0 14c4810.1 8a5f70.0 1558290.1
     9cd470.0 1221ff90.1 c1be70.0 1275e10.1 92c70.0 1dff010.1 a60ef0.0",
    "<-02>2"⟩,
   ⟨"America/North_Dakota/Beulah", "MST -25200,MDT -21600,CST -21600",
    "0 981b10.1 efe2f0.0 efff10.1 f91d70.0 efff10.1 efe2f0.0 efff10.1 efe2f0.0 5c5710.1
     1838af0.0 9cf090.1 142f170.0 efff10.1 f91d70.0 e6c490.1 f91d70.0 efff10.1 efe2f0.0
     efff10.1 efe2f0.0 efff10.1 efe2f0.0 efff10.1 efe2f0.0 efff10.1 f91d70.0 e6c490.1 f91d70.0
     efff10.1 efe2f0.0 efff10.1 efe2f0.0 efff10.1 efe2f0.0 d44f90.1 10b9270.0 d44f90.1
     114ccf0.0 cb1510.1 114ccf0.0 cb1510.1 114ccf0.0 d44f90.1 10b9270.0 d44f90.1 10b9270.0
     d44f90.1 114ccf0.0 cb1510.1 114ccf0.0 cb1510.1 114ccf0.0 d44f90.1 10b9270.0 d44f90.1
     10b9270.0 d44f90.1 10b9270.0 d44f90.1 114ccf0.0 cb1510.1 114ccf0.0 cb1510.1 114ccf0.0
     d44f90.1 10b9270.0 d44f90.1 10b9270.0 d44f90.1 114ccf0.0 cb1510.1 114ccf0.0 cb1510.1
     114ccf0.0 af6590.1 139b6f0.0 a62b10.1 139b6f0.0 a62b10.1 139b6f0.0 af6590.1 139b6f0.2",
    "CST6CDT,M3.2.0,M11.1.0"⟩,
   ⟨"America/North_Dakota/Center", "MST -25200,MDT -21600,CST -21600,CDT -18000",
    "0 981b10.1 efe2f0.0 efff10.1 f91d70.0 efff10.1 efe2f0.0 efff10.1 efe2f0.0 5c5710.1
     1838af0.0 9cf090.1 142f170.0 efff10.1 f91d70.0 e6c490.1 f91d70.0 efff10.1 efe2f0.0
     efff10.1 efe2f0.0 efff10.1 efe2f0.0 efff10.1 efe2f0.0 efff10.1 f91d70.0 e6c490.1 f91d70.0
     efff10.1 efe2f0.0 efff10.1 efe2f0.0 efff10.1 efe2f0.0 d44f90.1 10b9270.0 d44f90.1
     114ccf0.0 cb1510.1 114ccf0.0 cb1510.1 114ccf0.0 d44f90.1 10b9270.0 d44f90.1 10b9270.2
     d44180.3 114ccf0.2 cb1510.3 114ccf0.2 cb1510.3 114ccf0.2 d44f90.3 10b9270.2 d44f90.3
     10b9270.2 d44f90.3 10b9270.2 d44f90.3 114ccf0.2 cb1510.3 114ccf0.2 cb1510.3 114ccf0.2
     d44f90.3 10b9270.2 d44f90.3 10b9270.2 d44f90.3 114ccf0.2 cb1510.3 114ccf0.2 cb1510.3
     114ccf0.2 af6590.3",
    "CST6CDT,M3.2.0,M11.1.0"⟩,
   ⟨"America/North_Dakota/New_Salem", "MST -25200,MDT -21600,CST -21600,CDT -18000",
    "0 981b10.1 efe2f0.0 efff10.1 f91d70.0 efff10.1 efe2f0.0 efff10.1 efe2f0.0 5c5710.1
     1838af0.0 9cf090.1 142f170.0 efff10.1 f91d70.0 e6c490.1 f91d70.0 efff10.1 efe2f0.0
     efff10.1 efe2f0.0 efff10.1 efe2f0.0 efff10.1 efe2f0.0 efff10.1 f91d70.0 e6c490.1 f91d70.0
     efff10.1 efe2f0.0 efff10.1 efe2f0.0 efff10.1 efe2f0.0 d44f90.1 10b9270.0 d44f90.1
     114ccf0.0 cb1510.1 114ccf0.0 cb1510.1 114ccf0.0 d44f90.1 10b9270.0 d44f90.1 10b9270.0
     d44f90.1 114ccf0.0 cb1510.1 114ccf0.0 cb1510.1 114ccf0.0 d44f90.1 10b9270.0 d44f90.1
     10b9270.0 d44f90.1 10b9270.0 d44f90.1 114ccf0.0 cb1510.1 114ccf0.0 cb1510.1 114ccf0.0
     d44f90.1 10b9270.0 d44f90.1 10b9270.2 d44180.3 114ccf0.2 cb1510.3 114ccf0.2 cb1510.3
     114ccf0.2 af6590.3",
    "CST6CDT,M3.2.0,M11.1.0"⟩,
   ⟨"America/Nuuk", "-03 -10800,-02 -7200,-01 -3600",
    "0 134d7c50.1 e67e40.0 eff100.1 eff100.0 eff100.1 eff100.0 eff100.1 eff100.0 eff100.1
     f92b80.0 eff100.1 eff100.0 eff100.1 eff100.0 eff100.1 eff100.0 eff100.1 eff100.0 eff100.1
     eff100.0 eff100.1 f92b80.0 eff100.1 eff100.0 eff100.1 eff100.0 eff100.1 eff100.0 eff100.1
     eff100.0 eff100.1 eff100.0 f92b80.1 114db00.0 cb0700.1 114db00.0 cb0700.1 114db00.0
     cb0700.1 11e1580.0 c1cc80.1 11e1580.0 c1cc80.1 11e1580.0 cb0700.1 114db00.0 cb0700.1
     114db00.0 cb0700.1 11e1580.0 c1cc80.1 11e1580.0 c1cc80.1 11e1580.0 c1cc80.1 11e1580.0
     cb0700.1 114db00.0 cb0700.1 114db00.0 cb0700.1 11e1580.0 c1cc80.1 11e1580.0 c1cc80.1
     11e1580.0 cb0700.1 114db00.0 cb0700.1 114db00.0 cb0700.1 114db00.0 cb0700.1 11e1580.0
     c1cc80.1 11e1580.0 c1cc80.1 11e1580.0 cb0700.1 114db00.0 cb0700.1 114db00.0 cb0700.1
     11e1580.0 c1cc80.1 11e1580.0 c1cc80.1 1e91c80.2",
    "<-02>2<-01>,M3.5.0/-1,M10.5.0/0"⟩,
   ⟨"America/Ojinaga", "CST -21600,CDT -18000,MDT -21600,MST -25200",
    "0 31677600.1 10b9270.0 d44f90.1 10b9270.0 d45da0.2 10b9270.3 d44f90.2 114ccf0.3 cb1510.2
     114ccf0.3 f93990.2 c1be70.3 f93990.2 10b9270.3 d44f90.2 10b9270.3 d44f90.2 114ccf0.3
     cb1510.2 114ccf0.3 cb1510.2 114ccf0.3 cb1510.2 114ccf0.3 d44f90.2 10b9270.3 d44f90.2
     10b9270.3 b8a010.2 139b6f0.3 a62b10.2 139b6f0.3 a62b10.2 139b6f0.3 a62b10.2 139b6f0.3
     a62b10.2 139b6f0.3 a62b10.2 139b6f0.3 af6590.2 139b6f0.3 a62b10.2 139b6f0.3 a62b10.2
     139b6f0.3 a62b10.2 139b6f0.3 a62b10.2 139b6f0.3 af6590.2 139b6f0.3 a62b10.2 1307c70.0
     af5780.1",
    "CST6CDT,M3.2.0,M11.1.0"⟩,
   ⟨"America/Panama", "EST -18000",
    "0",
    "EST5"⟩,
   ⟨"America/Paramaribo", "-0330 -12600,-03 -10800",
    "0 1bbe31b8.1",
    "<-03>3"⟩,
   ⟨"America/Phoenix", "MST -25200",
    "0",
    "MST7"⟩,
   ⟨"America/Port-au-Prince", "EST -18000,EDT -14400",
    "0 191b46d0.1 e6a870.0 efff10.1 efe2f0.0 efff10.1 efe2f0.0 efff10.1 efe2f0.0 efff10.1
     efe2f0.0 d45da0.1 114db00.0 cb0700.1 114db00.0 cb0700.1 114db00.0 d44180.1 10ba080.0
     d44180.1 10ba080.0 d44180.1 114db00.0 cb0700.1 114db00.0 cb0700.1 114db00.0 d44180.1
     10ba080.0 d44180.1 10ba080.0 dfc9bf0.1 114ccf0.0 cb1510.1 114ccf0.0 a182630.1 139b6f0.0
     a62b10.1 139b6f0.0 a62b10.1 139b6f0.0 a62b10.1 139b6f0.0 28f4790.1",
    "EST5EDT,M3.2.0,M11.1.0"⟩,
   ⟨"America/Porto_Velho", "-04 -14400,-03 -10800",
    "0 1dc99c40.1 af4970.0 1275e10.1 9399f0.0 14d9990.1 8a5f70.0",
    "<-04>4"⟩,
   ⟨"America/Puerto_Rico", "AST -14400",
    "0",
    "AST4"⟩,
   ⟨"America/Punta_Arenas", "-03 -10800,-04 -14400",
    "0 72dcb0.1 1027410.0 caf8f0.1 114e910.0 caf8f0.1 11e2390.0 c1be70.1 10bae90.0 d43370.1
     11e2390.0 c1be70.1 11e2390.0 caf8f0.1 114e910.0 caf8f0.1 114e910.0 caf8f0.1 11e2390.0
     c1be70.1 11e2390.0 c1be70.1 11e2390.0 caf8f0.1 114e910.0 caf8f0.1 114e910.0 caf8f0.1
     114e910.0 caf8f0.1 11e2390.0 c1be70.1 11e2390.0 c1be70.1 11e2390.0 efe2f0.1 efff10.0
     caf8f0.1 114e910.0 caf8f0.1 11e2390.0 c1be70.1 f93990.0 e6a870.1 11e2390.0 caf8f0.1
     114e910.0 caf8f0.1 114e910.0 caf8f0.1 114e910.0 caf8f0.1 11e2390.0 c1be70.1 11e2390.0
     dd6df0.1 1027410.0 caf8f0.1 1027410.0 f91d70.1 f93990.0 caf8f0.1 11e2390.0 c1be70.1
     11e2390.0 c1be70.1 11e2390.0 c1be70.1 11e2390.0 caf8f0.1 114e910.0 caf8f0.1 114e910.0
     caf8f0.1 11e2390.0 c1be70.1 11e2390.0 dd6df0.1 1027410.0 caf8f0.1 114e910.0 e6a870.1
     f93990.0 114ccf0.1 8a7b90.0 14c2bf0.1 a62b10.0 139b6f0.1 af6590.0 1307c70.1 af6590.0
     32c0df0.1 780690.0",
    "<-03>3"⟩,
   ⟨"America/Rankin_Inlet", "CST -21600,CDT -18000,EST -18000",
    "0 4610b80.1 efe2f0.0 efff10.1 efe2f0.0 efff10.1 efe2f0.0 efff10.1 efe2f0.0 efff10.1
     f91d70.0 e6c490.1 f91d70.0 efff10.1 efe2f0.0 efff10.1 efe2f0.0 efff10.1 efe2f0.0 efff10.1
     efe2f0.0 efff10.1 f91d70.0 e6c490.1 f91d70.0 efff10.1 efe2f0.0 efff10.1 efe2f0.0 efff10.1
     efe2f0.0 d44f90.1 10b9270.0 d44f90.1 114ccf0.0 cb1510.1 114ccf0.0 cb1510.1 114ccf0.0
     d44f90.1 10b9270.0 d44f90.1 10b9270.0 d44f90.1 114ccf0.0 cb1510.1 114ccf0.0 cb1510.1
     114ccf0.0 d44f90.1 10b9270.0 d44f90.1 10b9270.0 d44f90.1 10b9270.0 d44f90.1 114ccf0.0
     cb1510.1 114ccf0.2 cb1510.1 114ccf0.0 d44f90.1 10b9270.0 d44f90.1 10b9270.0 d44f90.1
     114ccf0.0 cb1510.1 114ccf0.0 cb1510.1 114ccf0.0 af6590.1",
    "CST6CDT,M3.2.0,M11.1.0"⟩,
   ⟨"America/Recife", "-03 -10800,-02 -7200",
    "0 1dc98e30.1 af4970.0 1275e10.1 9399f0.0 14d9990.1 8a5f70.0 14c4810.1 8a5f70.0 1558290.1
     9cd470.0 1221ff90.1 c1be70.0 1275e10.1 92c70.0 1dff010.1 a60ef0.0",
    "<-03>3"⟩,
   ⟨"America/Regina", "CST -21600",
    "0",
    "CST6"⟩,
   ⟨"America/Resolute", "CST -21600,CDT -18000,EST -18000",
    "0 4610b80.1 efe2f0.0 efff10.1 efe2f0.0 efff10.1 efe2f0.0 efff10.1 efe2f0.0 efff10.1
     f91d70.0 e6c490.1 f91d70.0 efff10.1 efe2f0.0 efff10.1 efe2f0.0 efff10.1 efe2f0.0 efff10.1
     efe2f0.0 efff10.1 f91d70.0 e6c490.1 f91d70.0 efff10.1 efe2f0.0 efff10.1 efe2f0.0 efff10.1
     efe2f0.0 d44f90.1 10b9270.0 d44f90.1 114ccf0.0 cb1510.1 114ccf0.0 cb1510.1 114ccf0.0
     d44f90.1 10b9270.0 d44f90.1 10b9270.0 d44f90.1 114ccf0.0 cb1510.1 114ccf0.0 cb1510.1
     114ccf0.0 d44f90.1 10b9270.0 d44f90.1 10b9270.0 d44f90.1 10b9270.0 d44f90.1 114ccf0.0
     cb1510.1 114ccf0.2 cb1510.1 114ccf0.0 d44f90.1 10b9270.0 d44f90.1 10b9270.0 d44f90.1
     114ccf0.0 cb1510.1 114ccf0.0 cb1510.1 114ccf0.2 af6590.1",
    "CST6CDT,M3.2.0,M11.1.0"⟩,
   ⟨"America/Rio_Branco", "-05 -18000,-04 -14400",
    "0 1dc9aa50.1 af4970.0 1275e10.1 9399f0.0 14d9990.1 8a5f70.0 26549a90.1 a1e8570.0",
    "<-05>5"⟩,
   ⟨"America/Santarem", "-04 -14400,-03 -10800",
    "0 1dc99c40.1 af4970.0 1275e10.1 9399f0.0 14d9990.1 8a5f70.0 26549a90.1",
    "<-03>3"⟩,
   ⟨"America/Santiago", "-03 -10800,-04 -14400",
    "0 72dcb0.1 1027410.0 caf8f0.1 114e910.0 caf8f0.1 11e2390.0 c1be70.1 10bae90.0 d43370.1
     11e2390.0 c1be70.1 11e2390.0 caf8f0.1 114e910.0 caf8f0.1 114e910.0 caf8f0.1 11e2390.0
     c1be70.1 11e2390.0 c1be70.1 11e2390.0 caf8f0.1 114e910.0 caf8f0.1 114e910.0 caf8f0.1
     114e910.0 caf8f0.1 11e2390.0 c1be70.1 11e2390.0 c1be70.1 11e2390.0 efe2f0.1 efff10.0
     caf8f0.1 114e910.0 caf8f0.1 11e2390.0 c1be70.1 f93990.0 e6a870.1 11e2390.0 caf8f0.1
     114e910.0 caf8f0.1 114e910.0 caf8f0.1 114e910.0 caf8f0.1 11e2390.0 c1be70.1 11e2390.0
     dd6df0.1 1027410.0 caf8f0.1 1027410.0 f91d70.1 f93990.0 caf8f0.1 11e2390.0 c1be70.1
     11e2390.0 c1be70.1 11e2390.0 c1be70.1 11e2390.0 caf8f0.1 114e910.0 caf8f0.1 114e910.0
     caf8f0.1 11e2390.0 c1be70.1 11e2390.0 dd6df0.1 1027410.0 caf8f0.1 114e910.0 e6a870.1
     f93990.0 114ccf0.1 8a7b90.0 14c2bf0.1 a62b10.0 139b6f0.1 af6590.0 1307c70.1 af6590.0
     32c0df0.1 780690.0 167db70.1 780690.0 167db70.1 780690.0 139b6f0.1 cb1510.0 114ccf0.1
     cb1510.0 114ccf0.1 cb1510.0 114ccf0.1 d44f90.0",
    "<-04>4<-03>,M9.1.6/24,M4.1.6/24"⟩,
   ⟨"America/Santo_Domingo", "-0430 -16200,EST -18000,AST -14400",
    "0 437bc8.1 1445808.0 72ab78.1 1767108.0 6c13f8.1 173ce08.0 6eb6f8.1 1712b08.0 700878.1
     16fd988.2 30eb2690.1 2e2480.2",
    "AST4"⟩,
   ⟨"America/Sao_Paulo", "-03 -10800,-02 -7200",
    "0 1dc98e30.1 af4970.0 1275e10.1 9399f0.0 14d9990.1 8a5f70.0 14c4810.1 8a5f70.0 1558290.1
     9cd470.0 14c4810.1 9cd470.0 1430d90.1 9399f0.0 1558290.1 8124f0.0 1558290.1 a60ef0.0
     139d310.1 a60ef0.0 139d310.1 9cd470.0 139d310.1 af4970.0 131ea10.1 c06cf0.0 1275e10.1
     af4970.0 1275e10.1 c1be70.0 1275e10.1 af4970.0 139d310.1 a60ef0.0 1558290.1 8a5f70.0
     1430d90.1 9cd470.0 1582590.1 90f6f0.0 139d310.1 a60ef0.0 1558290.1 9399f0.0 1309890.1
     a60ef0.0 1430d90.1 9cd470.0 1430d90.1 a60ef0.0 139d310.1 a60ef0.0 139d310.1 af4970.0
     139d310.1 9cd470.0 1430d90.1 9cd470.0 1430d90.1 a60ef0.0 139d310.1 a60ef0.0 139d310.1
     a60ef0.0 139d310.1 a60ef0.0 1558290.1 8a5f70.0",
    "<-03>3"⟩,
   ⟨"America/Scoresbysund", "-02 -7200,-01 -3600,+00 0",
    "0 134d6e40.1 e6b680.0 efd4e0.2 efe2f0.1 eff100.2 eff100.1 eff100.2 eff100.1 eff100.2
     f92b80.1 eff100.2 eff100.1 eff100.2 eff100.1 eff100.2 eff100.1 eff100.2 eff100.1 eff100.2
     eff100.1 eff100.2 f92b80.1 eff100.2 eff100.1 eff100.2 eff100.1 eff100.2 eff100.1 eff100.2
     eff100.1 eff100.2 eff100.1 f92b80.2 114db00.1 cb0700.2 114db00.1 cb0700.2 114db00.1
     cb0700.2 11e1580.1 c1cc80.2 11e1580.1 c1cc80.2 11e1580.1 cb0700.2 114db00.1 cb0700.2
     114db00.1 cb0700.2 11e1580.1 c1cc80.2 11e1580.1 c1cc80.2 11e1580.1 c1cc80.2 11e1580.1
     cb0700.2 114db00.1 cb0700.2 114db00.1 cb0700.2 11e1580.1 c1cc80.2 11e1580.1 c1cc80.2
     11e1580.1 cb0700.2 114db00.1 cb0700.2 114db00.1 cb0700.2 114db00.1 cb0700.2 11e1580.1
     c1cc80.2 11e1580.1 c1cc80.2 11e1580.1 cb0700.2 114db00.1 cb0700.2 114db00.1 cb0700.2
     11e1580.1 c1cc80.2 11e1580.1 c1cc80.2 11e1580.1 cb0700.1",
    "<-02>2<-01>,M3.5.0/-1,M10.5.0/0"⟩,
   ⟨"America/Sitka", "PST -28800,PDT -25200,YST -32400,AKST -32400,AKDT -28800",
    "0 982920.1 efe2f0.0 efff10.1 f91d70.0 efff10.1 efe2f0.0 efff10.1 efe2f0.0 5c5710.1
     1838af0.0 9cf090.1 142f170.0 efff10.1 f91d70.0 e6c490.1 f91d70.0 efff10.1 efe2f0.0
     efff10.1 efe2f0.0 efff10.1 efe2f0.0 efff10.1 efe2f0.0 efff10.1 f91d70.0 e6c490.1 f91d70.2
     28de80.3 c72ea0.4 efe2f0.3 efff10.4 efe2f0.3 efff10.4 efe2f0.3 d44f90.4 10b9270.3
     d44f90.4 114ccf0.3 cb1510.4 114ccf0.3 cb1510.4 114ccf0.3 d44f90.4 10b9270.3 d44f90.4
     10b9270.3 d44f90.4 114ccf0.3 cb1510.4 114ccf0.3 cb1510.4 114ccf0.3 d44f90.4 10b9270.3
     d44f90.4 10b9270.3 d44f90.4 10b9270.3 d44f90.4 114ccf0.3 cb1510.4 114ccf0.3 cb1510.4
     114ccf0.3 d44f90.4 10b9270.3 d44f90.4 10b9270.3 d44f90.4 114ccf0.3 cb1510.4 114ccf0.3
     cb1510.4 114ccf0.3 af6590.4",
    "AKST9AKDT,M3.2.0,M11.1.0"⟩,
   ⟨"America/St_Johns", "NST -12600,NDT -9000,NDDT -5400",
    "0 97e9d8.1 efe2f0.0 efff10.1 f91d70.0 efff10.1 efe2f0.0 efff10.1 efe2f0.0 efff10.1
     efe2f0.0 efff10.1 efe2f0.0 efff10.1 f91d70.0 e6c490.1 f91d70.0 efff10.1 efe2f0.0 efff10.1
     efe2f0.0 efff10.1 efe2f0.0 efff10.1 efe2f0.0 efff10.1 f91d70.0 e6c490.1 f91d70.0 efff10.1
     efe2f0.0 efff10.1 efe2f0.0 efff10.1 efe2f0.0 d433ac.1 10b9270.0 d44f90.2 114bee0.0
     cb2320.1 114ccf0.0 cb1510.1 114ccf0.0 d44f90.1 10b9270.0 d44f90.1 10b9270.0 d44f90.1
     114ccf0.0 cb1510.1 114ccf0.0 cb1510.1 114ccf0.0 d44f90.1 10b9270.0 d44f90.1 10b9270.0
     d44f90.1 10b9270.0 d44f90.1 114ccf0.0 cb1510.1 114ccf0.0 cb1510.1 114ccf0.0 d44f90.1
     10b9270.0 d44f90.1 10b9270.0 d44f90.1 114ccf0.0 cb1510.1 114ccf0.0 cb1510.1 114ccf0.0
     af6590.1 139b6f0.0 a62b10.1 139b6f0.0 a62b10.1 139b6f0.0 af6590.1 139b6f0.0 a62b10.1
     139d2d4.0",
    "NST3:30NDT,M3.2.0,M11.1.0"⟩,
   ⟨"America/Swift_Current", "MST -25200,CST -21600",
    "0 4611990.1",
    "CST6"⟩,
   ⟨"America/Tegucigalpa", "CST -21600,CDT -18000",
    "0 209adce0.1 c1be70.0 11e2390.1 c1be70.0 21210f90.1 793bf0.0",
    "CST6"⟩,
   ⟨"America/Thule", "AST -14400,ADT -10800",
    "0 27f57ae0.1 efe2f0.0 efff10.1 efe2f0.0 f93990.1 114ccf0.0 cb1510.1 114ccf0.0 cb1510.1
     114ccf0.0 d44f90.1 10b9270.0 d44f90.1 10b9270.0 d44f90.1 10b9270.0 d44f90.1 114ccf0.0
     cb1510.1 114ccf0.0 cb1510.1 114ccf0.0 d44f90.1 10b9270.0 d44f90.1 10b9270.0 d44f90.1
     114ccf0.0 cb1510.1 114ccf0.0 cb1510.1 114ccf0.0 af6590.1",
    "AST4ADT,M3.2.0,M11.1.0"⟩,
   ⟨"America/Tijuana", "PST -28800,PDT -25200",
    "0 982920.1 efe2f0.0 efff10.1 f91d70.0 efff10.1 efe2f0.0 efff10.1 efe2f0.0 5c5710.1
     1838af0.0 9cf090.1 142f170.0 efff10.1 f91d70.0 e6c490.1 f91d70.0 efff10.1 efe2f0.0
     efff10.1 efe2f0.0 efff10.1 efe2f0.0 efff10.1 efe2f0.0 efff10.1 f91d70.0 e6c490.1 f91d70.0
     efff10.1 efe2f0.0 efff10.1 efe2f0.0 efff10.1 efe2f0.0 d44f90.1 10b9270.0 d44f90.1
     114ccf0.0 cb1510.1 114ccf0.0 cb1510.1 114ccf0.0 d44f90.1 10b9270.0 d44f90.1 10b9270.0
     d44f90.1 114ccf0.0 cb1510.1 114ccf0.0 cb1510.1 114ccf0.0 d44f90.1 10b9270.0 d44f90.1
     10b9270.0 d44f90.1 10b9270.0 d44f90.1 114ccf0.0 cb1510.1 114ccf0.0 cb1510.1 114ccf0.0
     d44f90.1 10b9270.0 d44f90.1 10b9270.0 d44f90.1 114ccf0.0 cb1510.1 114ccf0.0 cb1510.1
     114ccf0.0 cb1510.1 114ccf0.0 d44f90.1 10b9270.0 d44f90.1 10b9270.0 b8a010.1",
    "PST8PDT,M3.2.0,M11.1.0"⟩,
   ⟨"America/Toronto", "EST -18000,EDT -14400",
    "0 97fef0.1 efe2f0.0 efff10.1 f91d70.0 efff10.1 efe2f0.0 efff10.1 efe2f0.0 efff10.1
     efe2f0.0 efff10.1 efe2f0.0 efff10.1 f91d70.0 e6c490.1 f91d70.0 efff10.1 efe2f0.0 efff10.1
     efe2f0.0 efff10.1 efe2f0.0 efff10.1 efe2f0.0 efff10.1 f91d70.0 e6c490.1 f91d70.0 efff10.1
     efe2f0.0 efff10.1 efe2f0.0 efff10.1 efe2f0.0 d44f90.1 10b9270.0 d44f90.1 114ccf0.0
     cb1510.1 114ccf0.0 cb1510.1 114ccf0.0 d44f90.1 10b9270.0 d44f90.1 10b9270.0 d44f90.1
     114ccf0.0 cb1510.1 114ccf0.0 cb1510.1 114ccf0.0 d44f90.1 10b9270.0 d44f90.1 10b9270.0
     d44f90.1 10b9270.0 d44f90.1 114ccf0.0 cb1510.1 114ccf0.0 cb1510.1 114ccf0.0 d44f90.1
     10b9270.0 d44f90.1 10b9270.0 d44f90.1 114ccf0.0 cb1510.1 114ccf0.0 cb1510.1 114ccf0.0
     af6590.1",
    "EST5EDT,M3.2.0,M11.1.0"⟩,
   ⟨"America/Vancouver", "PST -28800,PDT -25200",
    "0 982920.1 efe2f0.0 efff10.1 f91d70.0 efff10.1 efe2f0.0 efff10.1 efe2f0.0 efff10.1
     efe2f0.0 efff10.1 efe2f0.0 efff10.1 f91d70.0 e6c490.1 f91d70.0 efff10.1 efe2f0.0 efff10.1
     efe2f0.0 efff10.1 efe2f0.0 efff10.1 efe2f0.0 efff10.1 f91d70.0 e6c490.1 f91d70.0 efff10.1
     efe2f0.0 efff10.1 efe2f0.0 efff10.1 efe2f0.0 d44f90.1 10b9270.0 d44f90.1 114ccf0.0
     cb1510.1 114ccf0.0 cb1510.1 114ccf0.0 d44f90.1 10b9270.0 d44f90.1 10b9270.0 d44f90.1
     114ccf0.0 cb1510.1 114ccf0.0 cb1510.1 114ccf0.0 d44f90.1 10b9270.0 d44f90.1 10b9270.0
     d44f90.1 10b9270.0 d44f90.1 114ccf0.0 cb1510.1 114ccf0.0 cb1510.1 114ccf0.0 d44f90.1
     10b9270.0 d44f90.1 10b9270.0 d44f90.1 114ccf0.0 cb1510.1 114ccf0.0 cb1510.1 114ccf0.0
     af6590.1",
    "PST8PDT,M3.2.0,M11.1.0"⟩,
   ⟨"America/Whitehorse", "PST -28800,PDT -25200,MST -25200",
    "0 13697220.1 efe2f0.0 efff10.1 efe2f0.0 efff10.1 f91d70.0 e6c490.1 f91d70.0 efff10.1
     efe2f0.0 efff10.1 efe2f0.0 efff10.1 efe2f0.0 d44f90.1 10b9270.0 d44f90.1 114ccf0.0
     cb1510.1 114ccf0.0 cb1510.1 114ccf0.0 d44f90.1 10b9270.0 d44f90.1 10b9270.0 d44f90.1
     114ccf0.0 cb1510.1 114ccf0.0 cb1510.1 114ccf0.0 d44f90.1 10b9270.0 d44f90.1 10b9270.0
     d44f90.1 10b9270.0 d44f90.1 114ccf0.0 cb1510.1 114ccf0.0 cb1510.1 114ccf0.0 d44f90.1
     10b9270.0 d44f90.1 10b9270.0 d44f90.1 114ccf0.0 cb1510.1 114ccf0.0 cb1510.1 114ccf0.0
     af6590.1 139b6f0.0 a62b10.1 139b6f0.0 a62b10.1 139b6f0.0 af6590.1 139b6f0.0 a62b10.1
     139b6f0.0 a62b10.1 139b6f0.0 a62b10.1 139b6f0.0 a62b10.1 139b6f0.0 a62b10.1 139b6f0.0
     af6590.1 139b6f0.0 a62b10.1 139b6f0.0 a62b10.1 139b6f0.0 a62b10.1 139b6f0.0 a62b10.1
     1399ad0.2",
    "MST7"⟩,
   ⟨"America/Winnipeg", "CST -21600,CDT -18000",
    "0 980d00.1 eff100.0 eff100.1 f92b80.0 eff100.1 eff100.0 eff100.1 eff100.0 eff100.1
     eff100.0 eff100.1 eff100.0 eff100.1 f92b80.0 e6b680.1 f92b80.0 eff100.1 eff100.0 eff100.1
     eff100.0 eff100.1 eff100.0 eff100.1 eff100.0 eff100.1 f92b80.0 e6b680.1 f92b80.0 eff100.1
     eff100.0 eff100.1 eff100.0 eff100.1 eff100.0 d44180.1 10ba080.0 d44180.1 114db00.0
     cb0700.1 114db00.0 cb0700.1 114db00.0 d44180.1 10ba080.0 d44180.1 10ba080.0 d44180.1
     114db00.0 cb0700.1 114db00.0 cb0700.1 114db00.0 d44180.1 10ba080.0 d44180.1 10ba080.0
     d44180.1 10ba080.0 d44180.1 114db00.0 cb0700.1 114db00.0 cb0700.1 114db00.0 d44180.1
     10ba080.0 d44180.1 10ba080.0 d44180.1 114db00.0 cb0700.1 114db00.0 cb0700.1 114ccf0.0
     af6590.1",
    "CST6CDT,M3.2.0,M11.1.0"⟩,
   ⟨"America/Yakutat", "YST -32400,YDT -28800,AKST -32400,AKDT -28800",
    "0 983730.1 efe2f0.0 efff10.1 f91d70.0 efff10.1 efe2f0.0 efff10.1 efe2f0.0 5c5710.1
     1838af0.0 9cf090.1 142f170.0 efff10.1 f91d70.0 e6c490.1 f91d70.0 efff10.1 efe2f0.0
     efff10.1 efe2f0.0 efff10.1 efe2f0.0 efff10.1 efe2f0.0 efff10.1 f91d70.0 e6c490.1 f91d70.0
     28d070.2 c72ea0.3 efe2f0.2 efff10.3 efe2f0.2 efff10.3 efe2f0.2 d44f90.3 10b9270.2
     d44f90.3 114ccf0.2 cb1510.3 114ccf0.2 cb1510.3 114ccf0.2 d44f90.3 10b9270.2 d44f90.3
     10b9270.2 d44f90.3 114ccf0.2 cb1510.3 114ccf0.2 cb1510.3 114ccf0.2 d44f90.3 10b9270.2
     d44f90.3 10b9270.2 d44f90.3 10b9270.2 d44f90.3 114ccf0.2 cb1510.3 114ccf0.2 cb1510.3
     114ccf0.2 d44f90.3 10b9270.2 d44f90.3 10b9270.2 d44f90.3 114ccf0.2 cb1510.3 114ccf0.2
     cb1510.3 114ccf0.2 af6590.3",
    "AKST9AKDT,M3.2.0,M11.1.0"⟩]

end FormIntake.Calendar.Zone
