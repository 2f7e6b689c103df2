import NetworkTopology.Text.CodePoints
import NetworkTopology.Text.Table

/-!
# Writing direction

Letters are written from left to right or from right to left; other characters go either way.  A
name with a letter from right to left starts and ends with such letters and has none from left to
right.
-/

namespace NetworkTopology.Text

namespace Direction

/-- The letters that are written from right to left. -/
def rightToLeft : CodePoints :=
  [(0x5BE, 0x5BE), (0x5C0, 0x5C0), (0x5C3, 0x5C3), (0x5D0, 0x5EA), (0x5F0, 0x5F4), (0x61B, 0x61B),
    (0x61F, 0x61F), (0x621, 0x63A), (0x640, 0x64A), (0x66D, 0x66F), (0x671, 0x6D5), (0x6DD, 0x6DD),
    (0x6E5, 0x6E6), (0x6FA, 0x6FE), (0x700, 0x70D), (0x710, 0x710), (0x712, 0x72C), (0x780, 0x7A5),
    (0x7B1, 0x7B1), (0x200F, 0x200F), (0xFB1D, 0xFB1D), (0xFB1F, 0xFB28), (0xFB2A, 0xFB36),
    (0xFB38, 0xFB3C), (0xFB3E, 0xFB3E), (0xFB40, 0xFB41), (0xFB43, 0xFB44), (0xFB46, 0xFBB1),
    (0xFBD3, 0xFD3D), (0xFD50, 0xFD8F), (0xFD92, 0xFDC7), (0xFDF0, 0xFDFC), (0xFE70, 0xFE74),
    (0xFE76, 0xFEFC)]

/-- The letters that are written from left to right: first and last of each range. -/
def leftToRightTable : String :=
  "41.5A 61.7A AA.AA B5.B5 BA.BA C0.D6 D8.F6 F8.220 222.233 250.2AD 2B0.2B8 2BB.2C1 2D0.2D1
    2E0.2E4 2EE.2EE 37A.37A 386.386 388.38A 38C.38C 38E.3A1 3A3.3CE 3D0.3F5 400.482 48A.4CE
    4D0.4F5 4F8.4F9 500.50F 531.556 559.55F 561.587 589.589 903.903 905.939 93D.940 949.94C
    950.950 958.961 964.970 982.983 985.98C 98F.990 993.9A8 9AA.9B0 9B2.9B2 9B6.9B9 9BE.9C0
    9C7.9C8 9CB.9CC 9D7.9D7 9DC.9DD 9DF.9E1 9E6.9F1 9F4.9FA A05.A0A A0F.A10 A13.A28 A2A.A30
    A32.A33 A35.A36 A38.A39 A3E.A40 A59.A5C A5E.A5E A66.A6F A72.A74 A83.A83 A85.A8B A8D.A8D
    A8F.A91 A93.AA8 AAA.AB0 AB2.AB3 AB5.AB9 ABD.AC0 AC9.AC9 ACB.ACC AD0.AD0 AE0.AE0 AE6.AEF
    B02.B03 B05.B0C B0F.B10 B13.B28 B2A.B30 B32.B33 B36.B39 B3D.B3E B40.B40 B47.B48 B4B.B4C
    B57.B57 B5C.B5D B5F.B61 B66.B70 B83.B83 B85.B8A B8E.B90 B92.B95 B99.B9A B9C.B9C B9E.B9F
    BA3.BA4 BA8.BAA BAE.BB5 BB7.BB9 BBE.BBF BC1.BC2 BC6.BC8 BCA.BCC BD7.BD7 BE7.BF2 C01.C03
    C05.C0C C0E.C10 C12.C28 C2A.C33 C35.C39 C41.C44 C60.C61 C66.C6F C82.C83 C85.C8C C8E.C90
    C92.CA8 CAA.CB3 CB5.CB9 CBE.CBE CC0.CC4 CC7.CC8 CCA.CCB CD5.CD6 CDE.CDE CE0.CE1 CE6.CEF
    D02.D03 D05.D0C D0E.D10 D12.D28 D2A.D39 D3E.D40 D46.D48 D4A.D4C D57.D57 D60.D61 D66.D6F
    D82.D83 D85.D96 D9A.DB1 DB3.DBB DBD.DBD DC0.DC6 DCF.DD1 DD8.DDF DF2.DF4 E01.E30 E32.E33
    E40.E46 E4F.E5B E81.E82 E84.E84 E87.E88 E8A.E8A E8D.E8D E94.E97 E99.E9F EA1.EA3 EA5.EA5
    EA7.EA7 EAA.EAB EAD.EB0 EB2.EB3 EBD.EBD EC0.EC4 EC6.EC6 ED0.ED9 EDC.EDD F00.F17 F1A.F34
    F36.F36 F38.F38 F3E.F47 F49.F6A F7F.F7F F85.F85 F88.F8B FBE.FC5 FC7.FCC FCF.FCF 1000.1021
    1023.1027 1029.102A 102C.102C 1031.1031 1038.1038 1040.1057 10A0.10C5 10D0.10F8 10FB.10FB
    1100.1159 115F.11A2 11A8.11F9 1200.1206 1208.1246 1248.1248 124A.124D 1250.1256 1258.1258
    125A.125D 1260.1286 1288.1288 128A.128D 1290.12AE 12B0.12B0 12B2.12B5 12B8.12BE 12C0.12C0
    12C2.12C5 12C8.12CE 12D0.12D6 12D8.12EE 12F0.130E 1310.1310 1312.1315 1318.131E 1320.1346
    1348.135A 1361.137C 13A0.13F4 1401.1676 1681.169A 16A0.16F0 1700.170C 170E.1711 1720.1731
    1735.1736 1740.1751 1760.176C 176E.1770 1780.17B6 17BE.17C5 17C7.17C8 17D4.17DA 17DC.17DC
    17E0.17E9 1810.1819 1820.1877 1880.18A8 1E00.1E9B 1EA0.1EF9 1F00.1F15 1F18.1F1D 1F20.1F45
    1F48.1F4D 1F50.1F57 1F59.1F59 1F5B.1F5B 1F5D.1F5D 1F5F.1F7D 1F80.1FB4 1FB6.1FBC 1FBE.1FBE
    1FC2.1FC4 1FC6.1FCC 1FD0.1FD3 1FD6.1FDB 1FE0.1FEC 1FF2.1FF4 1FF6.1FFC 200E.200E 2071.2071
    207F.207F 2102.2102 2107.2107 210A.2113 2115.2115 2119.211D 2124.2124 2126.2126 2128.2128
    212A.212D 212F.2131 2133.2139 213D.213F 2145.2149 2160.2183 2336.237A 2395.2395 249C.24E9
    3005.3007 3021.3029 3031.3035 3038.303C 3041.3096 309D.309F 30A1.30FA 30FC.30FF 3105.312C
    3131.318E 3190.31B7 31F0.321C 3220.3243 3260.327B 327F.32B0 32C0.32CB 32D0.32FE 3300.3376
    337B.33DD 33E0.33FE 3400.4DB5 4E00.9FA5 A000.A48C AC00.D7A3 E000.FA2D FA30.FA6A FB00.FB06
    FB13.FB17 FF21.FF3A FF41.FF5A FF66.FFBE FFC2.FFC7 FFCA.FFCF FFD2.FFD7 FFDA.FFDC 10300.1031E
    10320.10323 10330.1034A 10400.10425 10428.1044D 1D000.1D0F5 1D100.1D126 1D12A.1D166
    1D16A.1D172 1D183.1D184 1D18C.1D1A9 1D1AE.1D1DD 1D400.1D454 1D456.1D49C 1D49E.1D49F
    1D4A2.1D4A2 1D4A5.1D4A6 1D4A9.1D4AC 1D4AE.1D4B9 1D4BB.1D4BB 1D4BD.1D4C0 1D4C2.1D4C3
    1D4C5.1D505 1D507.1D50A 1D50D.1D514 1D516.1D51C 1D51E.1D539 1D53B.1D53E 1D540.1D544
    1D546.1D546 1D54A.1D550 1D552.1D6A3 1D6A8.1D7C9 20000.2A6D6 2F800.2FA1D F0000.FFFFD
    100000.10FFFD"

/-- The letters that are written from left to right. -/
def leftToRight : CodePoints :=
  (rows leftToRightTable).filterMap fun
    | [first, last] => some (first, last)
    | _ => none

end Direction

/-- Can a text be read in one direction? -/
def hasOneDirection (cs : List Char) : Bool :=
  !cs.any Direction.rightToLeft.holds ||
    !cs.any Direction.leftToRight.holds && cs.head?.any Direction.rightToLeft.holds
      && cs.getLast?.any Direction.rightToLeft.holds

end NetworkTopology.Text
