import FormatServer.Unicode.Mark

/-!
Unicode's property `Bidi_Class`, as far as the characters of domains have it: which way a character
is written, or what it does among characters that are written one way or the other.
-/

namespace FormatServer.Unicode

inductive Direction where
  | left
  | right
  /-- A digit of the numbers that are written in Europe. -/
  | europeanNumber
  | arabicNumber
  | mark
  | neutral
  deriving DecidableEq

namespace Direction

def ofLetter : List Char → Direction
  | ['R'] => right
  | ['E'] => europeanNumber
  | ['A'] => arabicNumber
  | ['M'] => mark
  | ['N'] => neutral
  | _ => left

end Direction

/-- The code points that are not written from left to right; marks that take no space are here only
where they are no marks by direction. -/
def directionLines : List String := [
    "A1-A7:N A9:N AB-AC:N AE:N B0-B1:N B6-B7:N BB:N BF:N D7:N F7:N 2B9-2BA:N 2C2-2CF:N 2D2-2D7:N",
    "2DE-2DF:N 2E5-2ED:N 2EF-2FF:N 375:N 3F6:N 58A:N 58D-58F:N 5BE:R 5C0:R 5C3:R 5C6:R 5D0-5EA:R",
    "5EF-5F4:R 606-607:N 608:R 609-60A:N 60B:R 60C:N 60D:R 60E-60F:N 61B:R 61D-64A:R 660-669:A",
    "66A:N 66B-66C:A 66D-66F:R 671-674:R 679-6D5:R 6DE:N 6E5-6E6:R 6E9:N 6EE-6EF:R 6F0-6F9:E",
    "6FA-70D:R 710:R 712-72F:R 74D-7A5:R 7B1:R 7C0-7EA:R 7F4-7F5:R 7F6-7F9:N 7FA:R 7FE-815:R 81A:R",
    "824:R 828:R 830-83E:R 840-858:R 85E:R 860-86A:R 870-88F:R 8A0-8C9:R 9F2-9F3:N 9FB:N AF1:N",
    "BF3-BFA:N C78-C7E:N CBF:L CC6:L E3F:N F3A-F3D:N 1390-1399:N 1400:N 169B-169C:N 17DB:N",
    "17F0-17F9:N 1800-180A:N 1940:N 1944-1945:N 19DE-19FF:N 200C-200D:N 2010:N 2012-2016:N",
    "2018-2023:N 2027:N 2030-2032:N 2035:N 2038-203B:N 203D:N 203F-2046:N 204A-2056:N 2058-205E:N",
    "20A0-20A7:N 20A9-20C1:N 2104:N 2108:N 2114:N 2117-2118:N 211E-211F:N 2123:N 2125:N 2127:N",
    "2129:N 212E:N 213A:N 2141-2144:N 214A-214D:N 218A-218B:N 2190-222B:N 222E:N 2231-2328:N",
    "232B-2335:N 237B-2394:N 2396-2429:N 2440-244A:N 24EB-26AB:N 26AD-27FF:N 2900-2A0B:N",
    "2A0D-2A73:N 2A77-2ADB:N 2ADD-2B73:N 2B76-2BFF:N 2CE5-2CEA:N 2CF9-2CFF:N 2E00-2E5D:N",
    "2E80-2E99:N 2E9B-2E9E:N 2EA0-2EF2:N 3001:N 3003-3004:N 3008-3020:N 3030:N 3037:N 303D-303F:N",
    "30A0:N 30FB:N 31C0-31E5:N 4DC0-4DFF:N A490-A4C6:N A60D-A60F:N A673:N A67E-A67F:N A700-A721:N",
    "A788:N A828-A82B:N A838-A839:N A874-A877:N AB6A-AB6B:N FBB2-FBC2:R FBC3-FBD2:N FD3E-FD4F:N",
    "FD90-FD91:N FDC8-FDCF:N FDFD-FDFF:N FE45-FE46:N FE73:R 10101:N 10140-1018C:N 10190-1019C:N",
    "101A0:N 102E1-102FB:E 10800-10805:R 10808:R 1080A-10835:R 10837-10838:R 1083C:R 1083F-10855:R",
    "10857-1089E:R 108A7-108AF:R 108E0-108F2:R 108F4-108F5:R 108FB-1091B:R 1091F:N 10920-10939:R",
    "1093F-10959:R 10980-109B7:R 109BC-109CF:R 109D2-10A00:R 10A10-10A13:R 10A15-10A17:R",
    "10A19-10A35:R 10A40-10A48:R 10A50-10A58:R 10A60-10A9F:R 10AC0-10AE4:R 10AEB-10AF6:R",
    "10B00-10B35:R 10B39-10B3F:N 10B40-10B55:R 10B58-10B72:R 10B78-10B91:R 10B99-10B9C:R",
    "10BA9-10BAF:R 10C00-10C48:R 10CC0-10CF2:R 10CFA-10D23:R 10D30-10D39:A 10D40-10D49:A",
    "10D4A-10D4F:R 10D6E:N 10D6F-10D85:R 10D8E-10D8F:R 10E60-10E7E:A 10E80-10EA9:R 10EAD:R",
    "10EB0-10EB1:R 10EC2-10EC7:R 10ED0-10ED8:N 10F00-10F27:R 10F30-10F45:R 10F51-10F59:R",
    "10F70-10F81:R 10F86-10F89:R 10FB0-10FCB:R 10FE0-10FF6:R 11052-11065:N 11660-1166C:N 1171E:M",
    "11A07-11A08:L 11C3F:L 11FD5-11FF1:N 16FE2:N 1CC00-1CCD5:N 1CCFA-1CCFC:N 1CD00-1CEB3:N",
    "1CEBA-1CED0:N 1CEE0-1CEF0:N 1D1E9-1D1EA:N 1D200-1D241:N 1D245:N 1D300-1D356:N 1E2FF:N",
    "1E800-1E8C4:R 1E8C7-1E8CF:R 1E922-1E943:R 1E94B:R 1E950-1E959:R 1E95E-1E95F:R 1EC71-1ECB4:R",
    "1ED01-1ED3D:R 1EEF0-1EEF1:N 1F000-1F02B:N 1F030-1F093:N 1F0A0-1F0AE:N 1F0B1-1F0BF:N",
    "1F0C1-1F0CF:N 1F0D1-1F0F5:N 1F10B-1F10F:N 1F12F:N 1F16D-1F16F:N 1F1AD:N 1F260-1F265:N",
    "1F300-1F6D8:N 1F6DC-1F6EC:N 1F6F0-1F6FC:N 1F700-1F7D9:N 1F7E0-1F7EB:N 1F7F0:N 1F800-1F80B:N",
    "1F810-1F847:N 1F850-1F859:N 1F860-1F887:N 1F890-1F8AD:N 1F8B0-1F8BB:N 1F8C0-1F8C1:N",
    "1F8D0-1F8D8:N 1F900-1FA57:N 1FA60-1FA6D:N 1FA70-1FA7C:N 1FA80-1FA8A:N 1FA8E-1FAC6:N 1FAC8:N",
    "1FACD-1FADC:N 1FADF-1FAEA:N 1FAEF-1FAF8:N 1FB00-1FB92:N 1FB94-1FBEF:N 1FBFA:N"]

def directions : Table :=
  .ofLines directionLines

/-- The direction of an ASCII character. -/
def asciiDirection (c : Char) : Direction :=
  if c.isAlpha then .left else if c.isDigit then .europeanNumber else .neutral

def direction (c : Char) : Direction :=
  if c.toNat < 0x80 then asciiDirection c
  else match directions.find? c with
    | some row => .ofLetter row.note
    | none => if isNonspacing c then .mark else .left

end FormatServer.Unicode
