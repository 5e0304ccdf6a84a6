import FormIntake.Calendar.Zone.Record

/-! # Zones of the oceans, Australia and Antarctica, and the zones of fixed offset -/

namespace FormIntake.Calendar.Zone

/-- The zones of the oceans, Australia and Antarctica, and the zones of fixed offset. -/
def oceans : List ZoneRecord :=
  [⟨"Antarctica/Casey", "+08 28800,+11 39600",
    "0 4ada0620.1 b5c4d0.0 319d130.1 9a3170.0 8c66df0.1 299d390.0 1150530.1 d40940.0 10927b0.1
     cd7fd0.0 114db3c.1 d41714.0 10bcaec.1 d41714.0 10bcaec.1 d04cc4.0",
    "<+08>-8"⟩,
   ⟨"Antarctica/Davis", "+07 25200,+05 18000",
    "0 4ada1430.1 bde610.0 311aff0.1 9a4d90.0",
    "<+07>-7"⟩,
   ⟨"Antarctica/Macquarie", "AEDT 39600,AEST 36000",
    "0 569280.1 1308a80.0 b89200.1 1308a80.0 9ce280.1 142ff80.0 a61d00.1 139c500.0 a61d00.1
     139c500.0 a61d00.1 139c500.0 af5780.1 139c500.0 a61d00.1 139c500.0 a61d00.1 139c500.0
     a61d00.1 139c500.0 a61d00.1 139c500.0 a61d00.1 139c500.0 cb0700.1 11e1580.0 c1cc80.1
     11e1580.0 a61d00.1 139c500.0 a61d00.1 139c500.0 a61d00.1 1308a80.0 c1cc80.1 1275000.0
     c1cc80.1 1275000.0 b89200.1 1275000.0 b89200.1 1275000.0 cb0700.1 f92b80.0 e6b680.1
     f92b80.0 e6b680.1 f92b80.0 e6b680.1 f92b80.0 e6b680.1 f92b80.0 eff100.1 f92b80.0 e6b680.1
     f92b80.0 e6b680.1 f92b80.0 e6b680.1 f92b80.0 e6b680.1 cb0700.0 114db00.1 1026600.0
     e6b680.1 f92b80.0 e6b680.1 f92b80.0 e6b680.1 f92b80.0 e6b680.1 f92b80.0 eff100.1 eff100.0
     e6b680.1 1026600.0 eff100.1 eff100.0 eff100.1 eff100.0 2cfd300.1",
    "AEST-10AEDT,M10.1.0,M4.1.0/3"⟩,
   ⟨"Antarctica/Mawson", "+06 21600,+05 18000",
    "0 4ada2240.1",
    "<+05>-5"⟩,
   ⟨"Antarctica/Palmer", "-03 -10800,-02 -7200,-04 -14400",
    "0 7a34ab0.1 8124f0.0 f0c4d10.2 d5a110.0 caf8f0.2 114e910.0 caf8f0.2 11e2390.0 c1be70.2
     11e2390.0 c1be70.2 11e2390.0 efe2f0.2 efff10.0 caf8f0.2 114e910.0 caf8f0.2 11e2390.0
     c1be70.2 f93990.0 e6a870.2 11e2390.0 caf8f0.2 114e910.0 caf8f0.2 114e910.0 caf8f0.2
     114e910.0 caf8f0.2 11e2390.0 c1be70.2 11e2390.0 dd6df0.2 1027410.0 caf8f0.2 1027410.0
     f91d70.2 f93990.0 caf8f0.2 11e2390.0 c1be70.2 11e2390.0 c1be70.2 11e2390.0 c1be70.2
     11e2390.0 caf8f0.2 114e910.0 caf8f0.2 114e910.0 caf8f0.2 11e2390.0 c1be70.2 11e2390.0
     dd6df0.2 1027410.0 caf8f0.2 114e910.0 e6a870.2 f93990.0 114ccf0.2 8a7b90.0 14c2bf0.2
     a62b10.0 139b6f0.2 af6590.0 1307c70.2 af6590.0 32c0df0.2 780690.0",
    "<-03>3"⟩,
   ⟨"Antarctica/Rothera", "-00 0,-03 -10800",
    "0 d022d00.1",
    "<-03>3"⟩,
   ⟨"Antarctica/Troll", "-00 0,+00 0",
    "0 420d4700.1",
    "<+00>0<+02>-2,M3.5.0/1,M10.5.0/3"⟩,
   ⟨"Antarctica/Vostok", "+07 25200,-00 0,+05 18000",
    "0 2d4d3910.1 1684bf0.0 36c9c030.2",
    "<+05>-5"⟩,
   ⟨"Atlantic/Azores", "-01 -3600,+00 0,WET 0,WEST 3600",
    "0 1703cd90.1 eff100.0 eff100.1 eff100.0 eff100.1 f92b80.0 eff100.1 eff100.0 eff100.1
     eff100.0 eff100.1 eff100.0 eff100.1 eff100.0 eff100.1 eff100.0 eff100.1 f92b80.0 eff100.1
     eff100.0 eff100.1 eff100.0 780690.2 77ea70.3 6ac980.1 852780.0 eff100.1 eff100.0 eff100.1
     eff100.0 f92b80.1",
    "<-01>1<+00>,M3.5.0/0,M10.5.0/1"⟩,
   ⟨"Atlantic/Bermuda", "AST -14400,ADT -10800",
    "0 820b360.1 efe2f0.0 efff10.1 efe2f0.0 efff10.1 f91d70.0 e6c490.1 f91d70.0 efff10.1
     efe2f0.0 efff10.1 efe2f0.0 efff10.1 efe2f0.0 efff10.1 efe2f0.0 efff10.1 f91d70.0 e6c490.1
     f91d70.0 efff10.1 efe2f0.0 efff10.1 efe2f0.0 efff10.1 efe2f0.0 d44f90.1 10b9270.0
     d44f90.1 114ccf0.0 cb1510.1 114ccf0.0 cb1510.1 114ccf0.0 d44f90.1 10b9270.0 d44f90.1
     10b9270.0 d44f90.1 114ccf0.0 cb1510.1 114ccf0.0 cb1510.1 114ccf0.0 d44f90.1 10b9270.0
     d44f90.1 10b9270.0 d44f90.1 10b9270.0 d44f90.1 114ccf0.0 cb1510.1 114ccf0.0 cb1510.1
     114ccf0.0 d44f90.1 10b9270.0 d44f90.1 10b9270.0 d44f90.1 114ccf0.0 cb1510.1 114ccf0.0
     cb1510.1 114ccf0.0 af6590.1",
    "AST4ADT,M3.2.0,M11.1.0"⟩,
   ⟨"Atlantic/Canary", "WET 0,WEST 3600",
    "0 134d3600.1 e6c490.0 eff100.1 eff100.0 eff100.1 eff100.0 eff100.1 eff100.0 eff100.1
     f92b80.0 eff100.1 eff100.0 eff100.1 eff100.0 eff100.1 eff100.0 eff100.1 eff100.0 eff100.1
     eff100.0 eff100.1 f92b80.0 eff100.1 eff100.0 eff100.1 eff100.0 eff100.1 eff100.0 eff100.1
     eff100.0 eff100.1 eff100.0 f92b80.1",
    "WET0WEST,M3.5.0/1,M10.5.0"⟩,
   ⟨"Atlantic/Cape_Verde", "-02 -7200,-01 -3600",
    "0 b17f740.1",
    "<-01>1"⟩,
   ⟨"Atlantic/Faroe", "WET 0,WEST 3600",
    "0 1523eb90.1 eff100.0 eff100.1 eff100.0 eff100.1 eff100.0 eff100.1 f92b80.0 eff100.1
     eff100.0 eff100.1 eff100.0 eff100.1 eff100.0 eff100.1 eff100.0 eff100.1 eff100.0 eff100.1
     f92b80.0 eff100.1 eff100.0 eff100.1 eff100.0 eff100.1 eff100.0 eff100.1 eff100.0 eff100.1
     eff100.0 f92b80.1",
    "WET0WEST,M3.5.0/1,M10.5.0"⟩,
   ⟨"Atlantic/Madeira", "WET 0,WEST 3600",
    "0 170cfa00.1 e6b680.0 eff100.1 eff100.0 eff100.1 f92b80.0 eff100.1 eff100.0 eff100.1
     efff10.0 eff100.1 eff100.0 eff100.1 eff100.0 eff100.1 eff100.0 eff100.1 f92b80.0 eff100.1
     eff100.0 eff100.1 eff100.0 eff100.1 eff100.0 eff100.1 eff100.0 eff100.1 eff100.0 f92b80.1",
    "WET0WEST,M3.5.0/1,M10.5.0"⟩,
   ⟨"Atlantic/South_Georgia", "-02 -7200",
    "0",
    "<-02>2"⟩,
   ⟨"Atlantic/Stanley", "-04 -14400,-03 -10800,-02 -7200",
    "0 1911fe40.1 c1be70.2 11e0770.1 b8a010.2 12741f0.1 1d6b590.0 c1da90.1 11e0770.0 c1da90.1
     11e0770.0 c1da90.1 11e0770.0 c1da90.1 12741f0.0 b8a010.1 12741f0.0 c1da90.1 11e0770.0
     c1da90.1 11e0770.0 c1da90.1 11e0770.0 c1da90.1 11e0770.0 c1da90.1 12741f0.0 c1da90.1
     11e0770.0 c1da90.1 11e0770.0 c1da90.1 11e0770.0 c1da90.1 11e0770.0 c1da90.1 11e2390.0
     b8a010.1 1307c70.0 af6590.1 1307c70.0 b8a010.1 12741f0.0 b8a010.1 12741f0.0 b8a010.1
     12741f0.0 b8a010.1 12741f0.0 b8a010.1 1307c70.0 b8a010.1 12741f0.0 b8a010.1 12741f0.0
     b8a010.1",
    "<-03>3"⟩,
   ⟨"Australia/Adelaide", "ACST 34200,ACDT 37800",
    "0 3704088.1 9ce280.0 142ff80.1 a61d00.0 139c500.1 a61d00.0 139c500.1 a61d00.0 139c500.1
     af5780.0 139c500.1 a61d00.0 139c500.1 a61d00.0 139c500.1 a61d00.0 139c500.1 a61d00.0
     139c500.1 a61d00.0 139c500.1 af5780.0 139c500.1 a61d00.0 139c500.1 a61d00.0 139c500.1
     a61d00.0 139c500.1 b89200.0 11e1580.1 c1cc80.0 1275000.1 c1cc80.0 1275000.1 b89200.0
     1275000.1 b89200.0 1275000.1 a61d00.0 139c500.1 c1cc80.0 11e1580.1 af5780.0 139c500.1
     b89200.0 1275000.1 c1cc80.0 11e1580.1 cb0700.0 114db00.1 cb0700.0 114db00.1 cb0700.0
     114db00.1 cb0700.0 11e1580.1 c1cc80.0 11e1580.1 c1cc80.0 11e1580.1 cb0700.0 114db00.1
     cb0700.0 114db00.1 cb0700.0 11e1580.1 c1cc80.0 11e1580.1 cb0700.0 114db00.1 c1cc80.0
     11e1580.1",
    "ACST-9:30ACDT,M10.1.0,M4.1.0/3"⟩,
   ⟨"Australia/Brisbane", "AEST 36000,AEDT 39600",
    "0 3703980.1 9ce280.0 213cb100.1 a61d00.0 139c500.1 a61d00.0 139c500.1 a61d00.0",
    "AEST-10"⟩,
   ⟨"Australia/Broken_Hill", "ACST 34200,ACDT 37800",
    "0 3704088.1 9ce280.0 142ff80.1 a61d00.0 139c500.1 a61d00.0 139c500.1 a61d00.0 139c500.1
     af5780.0 139c500.1 a61d00.0 139c500.1 a61d00.0 139c500.1 a61d00.0 139c500.1 a61d00.0
     139c500.1 a61d00.0 139c500.1 d44180.0 114db00.1 a61d00.0 139c500.1 a61d00.0 139c500.1
     a61d00.0 139c500.1 b89200.0 11e1580.1 c1cc80.0 1275000.1 c1cc80.0 1275000.1 b89200.0
     1275000.1 a61d00.0 139c500.1 a61d00.0 139c500.1 a61d00.0 139c500.1 af5780.0 139c500.1
     a61d00.0 139c500.1 a61d00.0 139c500.1 cb0700.0 114db00.1 cb0700.0 114db00.1 cb0700.0
     114db00.1 cb0700.0 11e1580.1 c1cc80.0 11e1580.1 c1cc80.0 11e1580.1 cb0700.0 114db00.1
     cb0700.0 114db00.1 cb0700.0 11e1580.1 c1cc80.0 11e1580.1 cb0700.0 114db00.1 c1cc80.0
     11e1580.1",
    "ACST-9:30ACDT,M10.1.0,M4.1.0/3"⟩,
   ⟨"Australia/Darwin", "ACST 34200",
    "0",
    "ACST-9:30"⟩,
   ⟨"Australia/Eucla", "+0845 31500,+0945 35100",
    "0 90ff114.1 a61d00.0 104b4a00.1 a61d00.0 e7ddd00.1 8a6d80.0 1bc1f500.1 93a800.0 11e1580.1
     cb0700.0 114db00.1 cb0700.0",
    "<+0845>-8:45"⟩,
   ⟨"Australia/Hobart", "AEDT 39600,AEST 36000",
    "0 569280.1 1308a80.0 b89200.1 1308a80.0 9ce280.1 142ff80.0 a61d00.1 139c500.0 a61d00.1
     139c500.0 a61d00.1 139c500.0 af5780.1 139c500.0 a61d00.1 139c500.0 a61d00.1 139c500.0
     a61d00.1 139c500.0 a61d00.1 139c500.0 a61d00.1 139c500.0 cb0700.1 11e1580.0 c1cc80.1
     11e1580.0 a61d00.1 139c500.0 a61d00.1 139c500.0 a61d00.1 1308a80.0 c1cc80.1 1275000.0
     c1cc80.1 1275000.0 b89200.1 1275000.0 b89200.1 1275000.0 cb0700.1 f92b80.0 e6b680.1
     f92b80.0 e6b680.1 f92b80.0 e6b680.1 f92b80.0 e6b680.1 f92b80.0 eff100.1 f92b80.0 e6b680.1
     f92b80.0 e6b680.1 f92b80.0 e6b680.1 f92b80.0 e6b680.1 cb0700.0 114db00.1 1026600.0
     e6b680.1 f92b80.0 e6b680.1 f92b80.0 e6b680.1 f92b80.0 e6b680.1 f92b80.0 eff100.1 eff100.0
     e6b680.1 1026600.0",
    "AEST-10AEDT,M10.1.0,M4.1.0/3"⟩,
   ⟨"Australia/Lindeman", "AEST 36000,AEDT 39600",
    "0 3703980.1 9ce280.0 213cb100.1 a61d00.0 139c500.1 a61d00.0 139c500.1 a61d00.0 139c500.1
     af5780.0 139c500.1 a61d00.0",
    "AEST-10"⟩,
   ⟨"Australia/Lord_Howe", "AEST 36000,+1030 37800,+1130 41400,+11 39600",
    "0 14fe66e0.1 139da18.2 af4970.1 139d310.2 a60ef0.1 139d310.2 a60ef0.1 139d310.2 a60ef0.1
     139d310.3 b88af8.1 11e1c88.3 c1c578.1 1275708.3 c1c578.1 1275708.3 b88af8.1 1275708.3
     a615f8.1 139cc08.3 a615f8.1 139cc08.3 a615f8.1 139cc08.3 af5078.1 139cc08.3 a615f8.1
     139cc08.3 a615f8.1 139cc08.3 cafff8.1 114e208.3 cafff8.1 114e208.3 cafff8.1 114e208.3
     cafff8.1 11e1c88.3 c1c578.1 cb0e08.3 114d3f8.1 11e1c88.3 cafff8.1 114e208.3 cafff8.1
     114e208.3 cafff8.1 11e1c88.3 c1c578.1 11e1c88.3 cafff8.1 114e208.3 c1c578.1 11e1c88.3",
    "<+1030>-10:30<+11>-11,M10.1.0,M4.1.0"⟩,
   ⟨"Australia/Melbourne", "AEST 36000,AEDT 39600",
    "0 3703980.1 9ce280.0 142ff80.1 a61d00.0 139c500.1 a61d00.0 139c500.1 a61d00.0 139c500.1
     af5780.0 139c500.1 a61d00.0 139c500.1 a61d00.0 139c500.1 a61d00.0 139c500.1 a61d00.0
     139c500.1 a61d00.0 139c500.1 af5780.0 139c500.1 a61d00.0 139c500.1 a61d00.0 139c500.1
     a61d00.0 139c500.1 b89200.0 11e1580.1 c1cc80.0 11e1580.1 cb0700.0 1275000.1 b89200.0
     1275000.1 b89200.0 1275000.1 a61d00.0 139c500.1 a61d00.0 139c500.1 af5780.0 139c500.1
     a61d00.0 139c500.1 c1cc80.0 11e1580.1 cb0700.0 114db00.1 cb0700.0 114db00.1 cb0700.0
     114db00.1 cb0700.0 11e1580.1 c1cc80.0 cb0700.1 114db00.0 11e1580.1 cb0700.0 114db00.1
     cb0700.0 114db00.1 cb0700.0 11e1580.1 c1cc80.0 11e1580.1 cb0700.0 114db00.1 c1cc80.0
     11e1580.1",
    "AEST-10AEDT,M10.1.0,M4.1.0/3"⟩,
   ⟨"Australia/Perth", "AWST 28800,AWDT 32400",
    "0 90ffba0.1 a61d00.0 104b4a00.1 a61d00.0 e7ddd00.1 8a6d80.0 1bc1f500.1 93a800.0 11e1580.1
     cb0700.0 114db00.1 cb0700.0",
    "AWST-8"⟩,
   ⟨"Australia/Sydney", "AEST 36000,AEDT 39600",
    "0 3703980.1 9ce280.0 142ff80.1 a61d00.0 139c500.1 a61d00.0 139c500.1 a61d00.0 139c500.1
     af5780.0 139c500.1 a61d00.0 139c500.1 a61d00.0 139c500.1 a61d00.0 139c500.1 a61d00.0
     139c500.1 a61d00.0 139c500.1 d44180.0 114db00.1 a61d00.0 139c500.1 a61d00.0 139c500.1
     a61d00.0 139c500.1 b89200.0 11e1580.1 c1cc80.0 1275000.1 c1cc80.0 1275000.1 b89200.0
     1275000.1 a61d00.0 139c500.1 a61d00.0 139c500.1 a61d00.0 139c500.1 af5780.0 139c500.1
     a61d00.0 139c500.1 a61d00.0 139c500.1 cb0700.0 114db00.1 cb0700.0 114db00.1 cb0700.0
     114db00.1 cb0700.0 11e1580.1 c1cc80.0 cb0700.1 114db00.0 11e1580.1 cb0700.0 114db00.1
     cb0700.0 114db00.1 cb0700.0 11e1580.1 c1cc80.0 11e1580.1 cb0700.0 114db00.1 c1cc80.0
     11e1580.1",
    "AEST-10AEDT,M10.1.0,M4.1.0/3"⟩,
   ⟨"EET", "EET 7200,EEST 10800",
    "0 da46390.1 e6b680.0 f92b80.1 eff100.0 eff100.1 eff100.0 f92b80.1 e6b680.0 eff100.1
     eff100.0 eff100.1 eff100.0 eff100.1 eff100.0 eff100.1 f92b80.0 eff100.1 eff100.0 eff100.1
     eff100.0 eff100.1 eff100.0 eff100.1 eff100.0 eff100.1 eff100.0 eff100.1 f92b80.0 eff100.1
     eff100.0 eff100.1 eff100.0 eff100.1 eff100.0 eff100.1 eff100.0 eff100.1 eff100.0 f92b80.1",
    "EET-2EEST,M3.5.0/3,M10.5.0/4"⟩,
   ⟨"Etc/GMT+1", "-01 -3600",
    "0",
    "<-01>1"⟩,
   ⟨"Etc/GMT+12", "-12 -43200",
    "0",
    "<-12>12"⟩,
   ⟨"Etc/GMT+5", "-05 -18000",
    "0",
    "<-05>5"⟩,
   ⟨"Etc/GMT+6", "-06 -21600",
    "0",
    "<-06>6"⟩,
   ⟨"Etc/GMT+7", "-07 -25200",
    "0",
    "<-07>7"⟩,
   ⟨"Etc/GMT+8", "-08 -28800",
    "0",
    "<-08>8"⟩,
   ⟨"Etc/GMT-1", "+01 3600",
    "0",
    "<+01>-1"⟩,
   ⟨"Etc/GMT-13", "+13 46800",
    "0",
    "<+13>-13"⟩,
   ⟨"Etc/GMT-14", "+14 50400",
    "0",
    "<+14>-14"⟩,
   ⟨"Etc/GMT-2", "+02 7200",
    "0",
    "<+02>-2"⟩,
   ⟨"Etc/UTC", "UTC 0",
    "0",
    "UTC0"⟩,
   ⟨"Factory", "-00 0",
    "0",
    "<-00>0"⟩,
   ⟨"Indian/Chagos", "+05 18000,+06 21600",
    "0 30e6ddb0.1",
    "<+06>-6"⟩,
   ⟨"Indian/Maldives", "+05 18000",
    "0",
    "<+05>-5"⟩,
   ⟨"Indian/Mauritius", "+04 14400,+05 18000",
    "0 1805ed40.1 d584f0.0 302824b0.1 caf8f0.0",
    "<+04>-4"⟩,
   ⟨"MET", "MET 3600,MEST 7200",
    "0 da46390.1 e6b680.0 f92b80.1 eff100.0 eff100.1 eff100.0 f92b80.1 e6b680.0 eff100.1
     eff100.0 eff100.1 eff100.0 eff100.1 eff100.0 eff100.1 f92b80.0 eff100.1 eff100.0 eff100.1
     eff100.0 eff100.1 eff100.0 eff100.1 eff100.0 eff100.1 eff100.0 eff100.1 f92b80.0 eff100.1
     eff100.0 eff100.1 eff100.0 eff100.1 eff100.0 eff100.1 eff100.0 eff100.1 eff100.0 f92b80.1",
    "MET-1MEST,M3.5.0,M10.5.0/3"⟩,
   ⟨"Pacific/Apia", "-11 -39600,-10 -36000,+14 50400,+13 46800",
    "0 4c9f27b0.1 f80430.0 e6b680.1 7fa940.2 798240.3 eff100.2 f92b80.3 e6b680.2 f92b80.3
     e6b680.2 f92b80.3 e6b680.2 f92b80.3 e6b680.2 f92b80.3 e6b680.2 f92b80.3 eff100.2 f92b80.3
     e6b680.2 f92b80.3 e6b680.2 f92b80.3",
    "<+13>-13"⟩,
   ⟨"Pacific/Auckland", "NZST 43200,NZDT 46800",
    "0 918fde0.1 93a800.0 142ff80.1 af5780.0 139c500.1 a61d00.0 139c500.1 a61d00.0 139c500.1
     a61d00.0 139c500.1 a61d00.0 139c500.1 a61d00.0 139c500.1 af5780.0 139c500.1 a61d00.0
     139c500.1 a61d00.0 139c500.1 a61d00.0 139c500.1 a61d00.0 139c500.1 a61d00.0 139c500.1
     af5780.0 139c500.1 a61d00.0 11e1580.1 d44180.0 10ba080.1 d44180.0 10ba080.1 d44180.0
     10ba080.1 dd7c00.0 1026600.1 dd7c00.0 1026600.1 dd7c00.0 1026600.1 dd7c00.0 10ba080.1
     d44180.0 10ba080.1 d44180.0 10ba080.1 dd7c00.0 1026600.1 dd7c00.0 1026600.1 dd7c00.0
     10ba080.1 d44180.0 10ba080.1 d44180.0 10ba080.1 dd7c00.0 1026600.1 dd7c00.0 1026600.1
     dd7c00.0 1026600.1 dd7c00.0 1026600.1",
    "NZST-12NZDT,M9.5.0,M4.1.0/3"⟩,
   ⟨"Pacific/Bougainville", "+10 36000,+11 39600",
    "0 549ed780.1",
    "<+11>-11"⟩,
   ⟨"Pacific/Chatham", "+1245 45900,+1345 49500",
    "0 918fde0.1 93a800.0 142ff80.1 af5780.0 139c500.1 a61d00.0 139c500.1 a61d00.0 139c500.1
     a61d00.0 139c500.1 a61d00.0 139c500.1 a61d00.0 139c500.1 af5780.0 139c500.1 a61d00.0
     139c500.1 a61d00.0 139c500.1 a61d00.0 139c500.1 a61d00.0 139c500.1 a61d00.0 139c500.1
     af5780.0 139c500.1 a61d00.0 11e1580.1 d44180.0 10ba080.1 d44180.0 10ba080.1 d44180.0
     10ba080.1 dd7c00.0 1026600.1 dd7c00.0 1026600.1 dd7c00.0 1026600.1 dd7c00.0 10ba080.1
     d44180.0 10ba080.1 d44180.0 10ba080.1 dd7c00.0 1026600.1 dd7c00.0 1026600.1 dd7c00.0
     10ba080.1 d44180.0 10ba080.1 d44180.0 10ba080.1 dd7c00.0 1026600.1 dd7c00.0 1026600.1
     dd7c00.0 1026600.1 dd7c00.0 1026600.1",
    "<+1245>-12:45<+1345>,M9.5.0/2:45,M4.1.0/3:45"⟩,
   ⟨"Pacific/Easter", "-06 -21600,-07 -25200,-05 -18000",
    "0 72dcb0.1 1027410.0 caf8f0.1 114e910.0 caf8f0.1 11e2390.0 c1be70.1 10bae90.0 d43370.1
     11e2390.0 c1be70.1 11e2390.0 caf8f0.1 114e910.0 caf8f0.1 114e910.0 caf8f0.1 11e2390.0
     c1be70.1 11e2390.0 c1be70.1 11e2390.0 caf8f0.1 114e910.0 1dfe200.2 caf8f0.0 114e910.2
     caf8f0.0 11e2390.2 c1be70.0 11e2390.2 c1be70.0 11e2390.2 efe2f0.0 efff10.2 caf8f0.0
     114e910.2 caf8f0.0 11e2390.2 c1be70.0 f93990.2 e6a870.0 11e2390.2 caf8f0.0 114e910.2
     caf8f0.0 114e910.2 caf8f0.0 114e910.2 caf8f0.0 11e2390.2 c1be70.0 11e2390.2 dd6df0.0
     1027410.2 caf8f0.0 1027410.2 f91d70.0 f93990.2 caf8f0.0 11e2390.2 c1be70.0 11e2390.2
     c1be70.0 11e2390.2 c1be70.0 11e2390.2 caf8f0.0 114e910.2 caf8f0.0 114e910.2 caf8f0.0
     11e2390.2 c1be70.0 11e2390.2 dd6df0.0 1027410.2 caf8f0.0 114e910.2 e6a870.0 f93990.2
     114ccf0.0 8a7b90.2 14c2bf0.0 a62b10.2 139b6f0.0 af6590.2 1307c70.0 af6590.2 32c0df0.0
     780690.2 167db70.0 780690.2 167db70.0 780690.2 139b6f0.0 cb1510.2 114ccf0.0 cb1510.2
     114ccf0.0 cb1510.2 114ccf0.0 d44f90.2",
    "<-06>6<-05>,M9.1.6/22,M4.1.6/22"⟩,
   ⟨"Pacific/Efate", "+11 39600,+12 43200",
    "0 7799940.1 813300.0 11d82b90.1 efe2f0.0 efff10.1 efe2f0.0 f93990.1 e6a870.0 f93990.1
     efe2f0.0 efff10.1 efe2f0.0 efff10.1 efe2f0.0 efff10.1 efe2f0.0 efff10.1 efe2f0.0 f93990.1
     9cd470.0 167f790.1 77ea70.0",
    "<+11>-11"⟩,
   ⟨"Pacific/Fakaofo", "-11 -39600,+13 46800",
    "0 4efd99b0.1",
    "<+13>-13"⟩,
   ⟨"Pacific/Fiji", "+12 43200,+13 46800",
    "0 363b17e0.1 9ce280.0 14c3a00.1 93a800.0 12595080.1 9ce280.0 114db00.1 af5780.0 1308a80.1
     77f880.0 167e980.1 77f880.0 1712400.1 6eaff0.0 17a6c90.1 658380.0 17a5e80.1 658380.0
     1839900.1 5c4900.0 1839900.1 5c4900.0 1839900.1 5c4900.0 18cd380.1 530e80.0 1c43280.1
     24ea00.0",
    "<+12>-12"⟩,
   ⟨"Pacific/Galapagos", "-05 -18000,-06 -21600",
    "0 1e18c450.1 cfe4690.0 5ae970.1",
    "<-06>6"⟩,
   ⟨"Pacific/Gambier", "-09 -32400",
    "0",
    "<-09>9"⟩,
   ⟨"Pacific/Guadalcanal", "+11 39600",
    "0",
    "<+11>-11"⟩,
   ⟨"Pacific/Guam", "GST 36000,GDT 39600,ChST 36000",
    "0 972c00.1 af4970.0 1309890.1 af4970.0 44a3f90.1 5c3af0.0 43bbf10.1 73f62c.0 1430d54.1
     a60ef0.0 2bddbaf0.2",
    "ChST-10"⟩,
   ⟨"Pacific/Honolulu", "HST -36000",
    "0",
    "HST10"⟩,
   ⟨"Pacific/Kanton", "-12 -43200,-11 -39600,+13 46800",
    "0 125604c0.1 1caf34f0.2",
    "<+13>-13"⟩,
   ⟨"Pacific/Kiritimati", "-1040 -38400,-10 -36000,+14 50400",
    "0 1255f200.1 1caf39a0.2",
    "<+14>-14"⟩,
   ⟨"Pacific/Kosrae", "+12 43200,+11 39600",
    "0 368b6740.1",
    "<+11>-11"⟩,
   ⟨"Pacific/Kwajalein", "-12 -43200,+12 43200",
    "0 2c760e40.1",
    "<+12>-12"⟩,
   ⟨"Pacific/Marquesas", "-0930 -34200",
    "0",
    "<-0930>9:30"⟩,
   ⟨"Pacific/Nauru", "+1130 41400,+12 43200",
    "0 1121a8e8.1",
    "<+12>-12"⟩,
   ⟨"Pacific/Niue", "-11 -39600",
    "0",
    "<-11>11"⟩,
   ⟨"Pacific/Norfolk", "+1130 41400,+1230 45000,+11 39600,+12 43200",
    "0 90fca68.1 a61d00.0 4c59ff00.2 788c988.3",
    "<+11>-11<+12>,M10.1.0,M4.1.0/3"⟩,
   ⟨"Pacific/Noumea", "+11 39600,+12 43200",
    "0 ee6ba50.1 700170.0 16fe090.1 7152f0.0 21685cb0.1 77f880.0",
    "<+11>-11"⟩,
   ⟨"Pacific/Pago_Pago", "SST -39600",
    "0",
    "SST11"⟩,
   ⟨"Pacific/Palau", "+09 32400",
    "0",
    "<+09>-9"⟩,
   ⟨"Pacific/Pitcairn", "-0830 -30600,-08 -28800",
    "0 35444208.1",
    "<-08>8"⟩,
   ⟨"Pacific/Port_Moresby", "+10 36000",
    "0",
    "<+10>-10"⟩,
   ⟨"Pacific/Rarotonga", "-1030 -37800,-0930 -34200,-10 -36000",
    "0 10ac1b28.1 9399f0.2 139cc08.1 a615f8.2 139cc08.1 a615f8.2 139cc08.1 af5078.2 139cc08.1
     a615f8.2 139cc08.1 a615f8.2 139cc08.1 a615f8.2 139cc08.1 a615f8.2 139cc08.1 a615f8.2
     139cc08.1 af5078.2 139cc08.1 a615f8.2 139cc08.1 a615f8.2 139cc08.1 a615f8.2",
    "<-10>10"⟩,
   ⟨"Pacific/Tahiti", "-10 -36000",
    "0",
    "<-10>10"⟩,
   ⟨"Pacific/Tarawa", "+12 43200",
    "0",
    "<+12>-12"⟩,
   ⟨"Pacific/Tongatapu", "+13 46800,+14 50400",
    "0 37fb47d0.1 d83600.0 1308a80.1 6eaff0.0 1713210.1 6eaff0.0 1bcb3d90.1 5c4900.0",
    "<+13>-13"⟩,
   ⟨"WET", "WET 0,WEST 3600",
    "0 da46390.1 e6b680.0 f92b80.1 eff100.0 eff100.1 eff100.0 f92b80.1 e6b680.0 eff100.1
     eff100.0 eff100.1 eff100.0 eff100.1 eff100.0 eff100.1 f92b80.0 eff100.1 eff100.0 eff100.1
     eff100.0 eff100.1 eff100.0 eff100.1 eff100.0 eff100.1 eff100.0 eff100.1 f92b80.0 eff100.1
     eff100.0 eff100.1 eff100.0 eff100.1 eff100.0 eff100.1 eff100.0 eff100.1 eff100.0 f92b80.1",
    "WET0WEST,M3.5.0/1,M10.5.0"⟩]

end FormIntake.Calendar.Zone
