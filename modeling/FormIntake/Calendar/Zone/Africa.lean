import FormIntake.Calendar.Zone.Record

/-! # Zones of Africa -/

namespace FormIntake.Calendar.Zone

/-- The zones of Africa. -/
def africa : List ZoneRecord :=
  [⟨"Africa/Abidjan", "GMT 0",
    "0",
    "GMT0"⟩,
   ⟨"Africa/Algiers", "WET 0,WEST 3600,CET 3600,CEST 7200",
    "0 278c1f0.1 cb0700.0 a8c0e10.1 dd6df0.2 cb1510.3 efff10.2 20dea60.0 efff10.1 f93990.0
     efe2f0.2",
    "CET-1"⟩,
   ⟨"Africa/Bissau", "-01 -3600,GMT 0",
    "0 9676110.1",
    "GMT0"⟩,
   ⟨"Africa/Cairo", "EET 7200,EEST 10800",
    "0 9e25f0.1 c9c390.0 1176ff0.1 c9c390.0 118c170.1 c9c390.0 1176ff0.1 c9c390.0 1176ff0.1
     c9c390.0 1176ff0.1 c9c390.0 118c170.1 c9c390.0 1176ff0.1 c9c390.0 1176ff0.1 c9c390.0
     1176ff0.1 c9c390.0 118c170.1 c9c390.0 1176ff0.1 c9c390.0 1877f70.1 59b410.0 1765bf0.1
     6ad790.0 118c170.1 c9c390.0 1176ff0.1 c9c390.0 1176ff0.1 c9c390.0 1176ff0.1 c9c390.0
     118c170.1 c9c390.0 11e0770.1 c32c10.0 1176ff0.1 c9c390.0 1176ff0.1 c9c390.0 118c170.1
     c9c390.0 1176ff0.1 c9c390.0 1176ff0.1 c9c390.0 1136d60.1 caf8f0.0 114e910.1 caf8f0.0
     114e910.1 caf8f0.0 114e910.1 caf8f0.0 11e2390.1 caf8f0.0 114e910.1 caf8f0.0 114e910.1
     caf8f0.0 114e910.1 caf8f0.0 114e910.1 caf8f0.0 11e2390.1 caf8f0.0 114e910.1 caf8f0.0
     114e910.1 c1be70.0 11e2390.1 af4970.0 1309890.1 a60ef0.0 139d310.1 9cd470.0 14c4810.1
     87bc70.0 279b10.1 1ba170.0 6d03e90.1 3750f0.0 2e3290.1 49c5f0.0 10266e10.1",
    "EET-2EEST,M4.5.5/0,M10.5.4/24"⟩,
   ⟨"Africa/Casablanca", "+00 0,+01 3600",
    "0 86b8480.1 5ae970.0 3219e10.1 793bf0.0 167f790.1 c5b2f0.0 1445f10.1 5451f0.0 a900290.1
     360c9f0.0 2a297690.1 793bf0.0 167f790.1 6abb70.0 14eeb10.1 8124f0.0 139d310.1 9cd470.0
     16813b0.1 6c1b00.0 28de80.1 360d80.0 114db00.1 5c4900.0 2cd300.1 66d500.0 cb0700.1
     76a700.0 2e2480.1 700f80.0 cb0700.1 658380.0 2e2480.1 813300.0 cb0700.1 5c4900.0 2e2480.1
     93a800.0 c1cc80.1 49d400.0 375f00.1 9ce280.0 c1cc80.1 409980.0 2e2480.1 1a88300.0
     2e2480.1 19f4880.0 375f00.1 19f4880.0 2e2480.1 19f4880.0 375f00.1 19f4880.0 2e2480.1
     1a88300.0 2e2480.1 19f4880.0 375f00.1 19f4880.0 2e2480.1 1a88300.0 2e2480.1 19f4880.0
     375f00.1 19f4880.0 2e2480.1 19f4880.0 375f00.1 19f4880.0 2e2480.1 1a88300.0 2e2480.1
     19f4880.0 375f00.1 19f4880.0 2e2480.1 19f4880.0 375f00.1 19f4880.0 375f00.1 19f4880.0
     2e2480.1 19f4880.0 375f00.1 19f4880.0 2e2480.1 1a88300.0 2e2480.1 19f4880.0 375f00.1
     19f4880.0 2e2480.1 19f4880.0 375f00.1 19f4880.0 375f00.1 19f4880.0 2e2480.1 19f4880.0
     375f00.1 19f4880.0 2e2480.1 1a88300.0 2e2480.1 19f4880.0 375f00.1 19f4880.0 2e2480.1
     19f4880.0 375f00.1 19f4880.0 375f00.1 19f4880.0 2e2480.1 19f4880.0 375f00.1 19f4880.0
     2e2480.1 1a88300.0 2e2480.1 19f4880.0 375f00.1 19f4880.0 2e2480.1 19f4880.0 375f00.1
     19f4880.0 375f00.1 19f4880.0 2e2480.1 19f4880.0 375f00.1 19f4880.0 2e2480.1 1a88300.0
     2e2480.1 19f4880.0 375f00.1 19f4880.0 2e2480.1 19f4880.0 375f00.1 19f4880.0 375f00.1
     19f4880.0 2e2480.1 19f4880.0 375f00.1 19f4880.0 2e2480.1 1a88300.0 2e2480.1 19f4880.0
     375f00.1 19f4880.0 2e2480.1 19f4880.0 375f00.1 19f4880.0 375f00.1 19f4880.0 2e2480.1
     19f4880.0 375f00.1 19f4880.0 2e2480.1 1a88300.0 2e2480.1 19f4880.0 375f00.1 19f4880.0
     2e2480.1 19f4880.0 375f00.1 19f4880.0 2e2480.1 1a88300.0 2e2480.1 19f4880.0 375f00.1
     19f4880.0 2e2480.1 1a88300.0 2e2480.1 19f4880.0 375f00.1",
    "<+00>0<+01>,0/0,J365/25"⟩,
   ⟨"Africa/Ceuta", "WET 0,WEST 3600,CET 3600,CEST 7200",
    "0 86b8480.1 5ae970.0 3219e10.1 793bf0.0 167f790.1 c5b2f0.0 1445f10.1 5451f0.0 a900290.2
     3d4ea10.3 eff100.2 eff100.3 eff100.2 eff100.3 eff100.2 eff100.3 eff100.2 eff100.3
     f92b80.2 eff100.3 eff100.2 eff100.3 eff100.2 eff100.3 eff100.2 eff100.3 eff100.2 eff100.3
     eff100.2 f92b80.3",
    "CET-1CEST,M3.5.0,M10.5.0/3"⟩,
   ⟨"Africa/El_Aaiun", "-01 -3600,+00 0,+01 3600",
    "0 bd1b090.1 165b70.2 793bf0.1 167f790.2 c5b2f0.1 1445f10.2 5451f0.1 381a4310.2 793bf0.1
     167f790.2 6abb70.1 14eeb10.2 8124f0.1 139d310.2 9cd470.1 16813b0.2 6c1b00.1 28de80.2
     360d80.1 114db00.2 5c4900.1 2cd300.2 66d500.1 cb0700.2 76a700.1 2e2480.2 700f80.1
     cb0700.2 658380.1 2e2480.2 813300.1 cb0700.2 5c4900.1 2e2480.2 93a800.1 c1cc80.2 49d400.1
     375f00.2 9ce280.1 c1cc80.2 409980.1 2e2480.2 1a88300.1 2e2480.2 19f4880.1 375f00.2
     19f4880.1 2e2480.2 19f4880.1 375f00.2 19f4880.1 2e2480.2 1a88300.1 2e2480.2 19f4880.1
     375f00.2 19f4880.1 2e2480.2 1a88300.1 2e2480.2 19f4880.1 375f00.2 19f4880.1 2e2480.2
     19f4880.1 375f00.2 19f4880.1 2e2480.2 1a88300.1 2e2480.2 19f4880.1 375f00.2 19f4880.1
     2e2480.2 19f4880.1 375f00.2 19f4880.1 375f00.2 19f4880.1 2e2480.2 19f4880.1 375f00.2
     19f4880.1 2e2480.2 1a88300.1 2e2480.2 19f4880.1 375f00.2 19f4880.1 2e2480.2 19f4880.1
     375f00.2 19f4880.1 375f00.2 19f4880.1 2e2480.2 19f4880.1 375f00.2 19f4880.1 2e2480.2
     1a88300.1 2e2480.2 19f4880.1 375f00.2 19f4880.1 2e2480.2 19f4880.1 375f00.2 19f4880.1
     375f00.2 19f4880.1 2e2480.2 19f4880.1 375f00.2 19f4880.1 2e2480.2 1a88300.1 2e2480.2
     19f4880.1 375f00.2 19f4880.1 2e2480.2 19f4880.1 375f00.2 19f4880.1 375f00.2 19f4880.1
     2e2480.2 19f4880.1 375f00.2 19f4880.1 2e2480.2 1a88300.1 2e2480.2 19f4880.1 375f00.2
     19f4880.1 2e2480.2 19f4880.1 375f00.2 19f4880.1 375f00.2 19f4880.1 2e2480.2 19f4880.1
     375f00.2 19f4880.1 2e2480.2 1a88300.1 2e2480.2 19f4880.1 375f00.2 19f4880.1 2e2480.2
     19f4880.1 375f00.2 19f4880.1 375f00.2 19f4880.1 2e2480.2 19f4880.1 375f00.2 19f4880.1
     2e2480.2 1a88300.1 2e2480.2 19f4880.1 375f00.2 19f4880.1 2e2480.2 19f4880.1 375f00.2
     19f4880.1 2e2480.2 1a88300.1 2e2480.2 19f4880.1 375f00.2 19f4880.1 2e2480.2 1a88300.1
     2e2480.2 19f4880.1 375f00.2",
    "<+00>0<+01>,0/0,J365/25"⟩,
   ⟨"Africa/Johannesburg", "SAST 7200",
    "0",
    "SAST-2"⟩,
   ⟨"Africa/Juba", "CAT 7200,CAST 10800,EAT 10800",
    "0 9e17e0.1 dc1c70.0 103c590.1 dd6df0.0 1051710.1 dd6df0.0 1027410.1 debf70.0 1012290.1
     e010f0.0 ffd110.1 e16270.0 fe7f90.1 e40570.0 fbdc90.1 e556f0.0 103c590.1 dd6df0.0
     1027410.1 debf70.0 1012290.1 e16270.0 fe7f90.1 e2b3f0.0 fd2e10.1 e40570.0 fbdc90.1
     e556f0.0 103c590.1 debf70.0 1012290.1 e010f0.0 1acec650.2 2796d530.0",
    "CAT-2"⟩,
   ⟨"Africa/Khartoum", "CAT 7200,CAST 10800,EAT 10800",
    "0 9e17e0.1 dc1c70.0 103c590.1 dd6df0.0 1051710.1 dd6df0.0 1027410.1 debf70.0 1012290.1
     e010f0.0 ffd110.1 e16270.0 fe7f90.1 e40570.0 fbdc90.1 e556f0.0 103c590.1 dd6df0.0
     1027410.1 debf70.0 1012290.1 e16270.0 fe7f90.1 e2b3f0.0 fd2e10.1 e40570.0 fbdc90.1
     e556f0.0 103c590.1 debf70.0 1012290.1 e010f0.0 1acec650.2 21789f30.0",
    "CAT-2"⟩,
   ⟨"Africa/Lagos", "WAT 3600",
    "0",
    "WAT-1"⟩,
   ⟨"Africa/Maputo", "CAT 7200",
    "0",
    "CAT-2"⟩,
   ⟨"Africa/Monrovia", "MMT -2670,GMT 0",
    "0 3ca5a6e.1",
    "GMT0"⟩,
   ⟨"Africa/Nairobi", "EAT 10800",
    "0",
    "EAT-3"⟩,
   ⟨"Africa/Ndjamena", "WAT 3600,WAST 7200",
    "0 12667170.1 c06cf0.0",
    "WAT-1"⟩,
   ⟨"Africa/Sao_Tome", "GMT 0,WAT 3600",
    "0 5a498810.1 1e13380.0",
    "GMT0"⟩,
   ⟨"Africa/Tripoli", "EET 7200,CET 3600,CEST 7200",
    "0 16924260.1 76b510.2 f13470.1 efff10.2 f13470.1 f15090.2 f13470.1 f69690.2 ea9cf0.1
     f3f390.2 efe2f0.1 ed5c10.2 f13470.1 f15090.2 f13470.1 efff10.2 f13470.1 11b8090.0
     c0e3970.1 f54510.2 f13470.0 1c682e20.1 b74080.2 114db00.0",
    "EET-2"⟩,
   ⟨"Africa/Tunis", "CET 3600,CEST 7200",
    "0 dc7dff0.1 c1cc80.0 120b880.1 c9b580.0 122f2080.1 98ee00.0 eff100.1 eff100.0 120b880.1
     c86400.0 1b6ee680.1 c87210.0 e96790.1 11e1580.0 c1cc80.1 11e1580.0 cb0700.1 114db00.0",
    "CET-1"⟩,
   ⟨"Africa/Windhoek", "SAST 7200,CAT 7200,WAT 3600",
    "0 2606a7e0.1 7861f80.2 dc54b0.1 114ccf0.2 cb1510.1 11e0770.2 c1da90.1 11e0770.2 cb1510.1
     114ccf0.2 cb1510.1 114ccf0.2 cb1510.1 114ccf0.2 cb1510.1 114ccf0.2 cb1510.1 11e0770.2
     c1da90.1 11e0770.2 cb1510.1 114ccf0.2 cb1510.1 114ccf0.2 cb1510.1 114ccf0.2 cb1510.1
     114ccf0.2 cb1510.1 11e0770.2 cb1510.1 114ccf0.2 cb1510.1 114ccf0.2 cb1510.1 114ccf0.2
     cb1510.1 114ccf0.2 cb1510.1 11e0770.2 c1da90.1 11e0770.2 cb1510.1 114ccf0.2 cb1510.1
     114ccf0.2 cb1510.1 114ccf0.2 cb1510.1",
    "CAT-2"⟩]

end FormIntake.Calendar.Zone
