/-!
# The table of character names

The names of all characters whose name does not follow from their code point, in a compact form. A name
starts with as many characters of the name before it as its first sign says, and goes on with the
fragments of its other signs; a sign is one character or two.
-/

namespace ModuleDocs.CharacterName

/-- The code points of the names, in the order of the names: first those of the proper names, then those of the
aliases. -/
def pointRows : List String :=
  [
    "20-7E A0-377 37A-37F 384-38A 38C 38E-3A1 3A3-52F 531-556 559-58A 58D-58F 591-5C7 5D0-5EA 5EF-5F4 600-70D",
    "70F-74A 74D-7B1 7C0-7FA 7FD-82D 830-83E 840-85B 85E 860-86A 870-88E 890-891 898-983 985-98C 98F-990 993-9A8",
    "9AA-9B0 9B2 9B6-9B9 9BC-9C4 9C7-9C8 9CB-9CE 9D7 9DC-9DD 9DF-9E3 9E6-9FE A01-A03 A05-A0A A0F-A10 A13-A28",
    "A2A-A30 A32-A33 A35-A36 A38-A39 A3C A3E-A42 A47-A48 A4B-A4D A51 A59-A5C A5E A66-A76 A81-A83 A85-A8D A8F-A91",
    "A93-AA8 AAA-AB0 AB2-AB3 AB5-AB9 ABC-AC5 AC7-AC9 ACB-ACD AD0 AE0-AE3 AE6-AF1 AF9-AFF B01-B03 B05-B0C B0F-B10",
    "B13-B28 B2A-B30 B32-B33 B35-B39 B3C-B44 B47-B48 B4B-B4D B55-B57 B5C-B5D B5F-B63 B66-B77 B82-B83 B85-B8A",
    "B8E-B90 B92-B95 B99-B9A B9C B9E-B9F BA3-BA4 BA8-BAA BAE-BB9 BBE-BC2 BC6-BC8 BCA-BCD BD0 BD7 BE6-BFA C00-C0C",
    "C0E-C10 C12-C28 C2A-C39 C3C-C44 C46-C48 C4A-C4D C55-C56 C58-C5A C5D C60-C63 C66-C6F C77-C8C C8E-C90 C92-CA8",
    "CAA-CB3 CB5-CB9 CBC-CC4 CC6-CC8 CCA-CCD CD5-CD6 CDD-CDE CE0-CE3 CE6-CEF CF1-CF2 D00-D0C D0E-D10 D12-D44",
    "D46-D48 D4A-D4F D54-D63 D66-D7F D81-D83 D85-D96 D9A-DB1 DB3-DBB DBD DC0-DC6 DCA DCF-DD4 DD6 DD8-DDF DE6-DEF",
    "DF2-DF4 E01-E3A E3F-E5B E81-E82 E84 E86-E8A E8C-EA3 EA5 EA7-EBD EC0-EC4 EC6 EC8-ECD ED0-ED9 EDC-EDF F00-F47",
    "F49-F6C F71-F97 F99-FBC FBE-FCC FCE-FDA 1000-10C5 10C7 10CD 10D0-1248 124A-124D 1250-1256 1258 125A-125D",
    "1260-1288 128A-128D 1290-12B0 12B2-12B5 12B8-12BE 12C0 12C2-12C5 12C8-12D6 12D8-1310 1312-1315 1318-135A",
    "135D-137C 1380-1399 13A0-13F5 13F8-13FD 1400-169C 16A0-16F8 1700-1715 171F-1736 1740-1753 1760-176C 176E-1770",
    "1772-1773 1780-17DD 17E0-17E9 17F0-17F9 1800-1819 1820-1878 1880-18AA 18B0-18F5 1900-191E 1920-192B 1930-193B",
    "1940 1944-196D 1970-1974 1980-19AB 19B0-19C9 19D0-19DA 19DE-1A1B 1A1E-1A5E 1A60-1A7C 1A7F-1A89 1A90-1A99",
    "1AA0-1AAD 1AB0-1ACE 1B00-1B4C 1B50-1B7E 1B80-1BF3 1BFC-1C37 1C3B-1C49 1C4D-1C88 1C90-1CBA 1CBD-1CC7 1CD0-1CFA",
    "1D00-1F15 1F18-1F1D 1F20-1F45 1F48-1F4D 1F50-1F57 1F59 1F5B 1F5D 1F5F-1F7D 1F80-1FB4 1FB6-1FC4 1FC6-1FD3",
    "1FD6-1FDB 1FDD-1FEF 1FF2-1FF4 1FF6-1FFE 2000-2064 2066-2071 2074-208E 2090-209C 20A0-20C0 20D0-20F0 2100-218B",
    "2190-2426 2440-244A 2460-2B73 2B76-2B95 2B97-2CF3 2CF9-2D25 2D27 2D2D 2D30-2D67 2D6F-2D70 2D7F-2D96 2DA0-2DA6",
    "2DA8-2DAE 2DB0-2DB6 2DB8-2DBE 2DC0-2DC6 2DC8-2DCE 2DD0-2DD6 2DD8-2DDE 2DE0-2E5D 2E80-2E99 2E9B-2EF3 2F00-2FD5",
    "2FF0-2FFB 3000-303F 3041-3096 3099-30FF 3105-312F 3131-318E 3190-31E3 31F0-321E 3220-33FF 4DC0-4DFF A000-A48C",
    "A490-A4C6 A4D0-A62B A640-A6F7 A700-A7CA A7D0-A7D1 A7D3 A7D5-A7D9 A7F2-A82C A830-A839 A840-A877 A880-A8C5",
    "A8CE-A8D9 A8E0-A953 A95F-A97C A980-A9CD A9CF-A9D9 A9DE-A9FE AA00-AA36 AA40-AA4D AA50-AA59 AA5C-AAC2 AADB-AAF6",
    "AB01-AB06 AB09-AB0E AB11-AB16 AB20-AB26 AB28-AB2E AB30-AB6B AB70-ABED ABF0-ABF9 D7B0-D7C6 D7CB-D7FB FB00-FB06",
    "FB13-FB17 FB1D-FB36 FB38-FB3C FB3E FB40-FB41 FB43-FB44 FB46-FBC2 FBD3-FD8F FD92-FDC7 FDCF FDF0-FE19 FE20-FE52",
    "FE54-FE66 FE68-FE6B FE70-FE74 FE76-FEFC FEFF FF01-FFBE FFC2-FFC7 FFCA-FFCF FFD2-FFD7 FFDA-FFDC FFE0-FFE6",
    "FFE8-FFEE FFF9-FFFD 10000-1000B 1000D-10026 10028-1003A 1003C-1003D 1003F-1004D 10050-1005D 10080-100FA",
    "10100-10102 10107-10133 10137-1018E 10190-1019C 101A0 101D0-101FD 10280-1029C 102A0-102D0 102E0-102FB",
    "10300-10323 1032D-1034A 10350-1037A 10380-1039D 1039F-103C3 103C8-103D5 10400-1049D 104A0-104A9 104B0-104D3",
    "104D8-104FB 10500-10527 10530-10563 1056F-1057A 1057C-1058A 1058C-10592 10594-10595 10597-105A1 105A3-105B1",
    "105B3-105B9 105BB-105BC 10600-10736 10740-10755 10760-10767 10780-10785 10787-107B0 107B2-107BA 10800-10805",
    "10808 1080A-10835 10837-10838 1083C 1083F-10855 10857-1089E 108A7-108AF 108E0-108F2 108F4-108F5 108FB-1091B",
    "1091F-10939 1093F 10980-109B7 109BC-109CF 109D2-10A03 10A05-10A06 10A0C-10A13 10A15-10A17 10A19-10A35",
    "10A38-10A3A 10A3F-10A48 10A50-10A58 10A60-10A9F 10AC0-10AE6 10AEB-10AF6 10B00-10B35 10B39-10B55 10B58-10B72",
    "10B78-10B91 10B99-10B9C 10BA9-10BAF 10C00-10C48 10C80-10CB2 10CC0-10CF2 10CFA-10D27 10D30-10D39 10E60-10E7E",
    "10E80-10EA9 10EAB-10EAD 10EB0-10EB1 10F00-10F27 10F30-10F59 10F70-10F89 10FB0-10FCB 10FE0-10FF6 11000-1104D",
    "11052-11075 1107F-110C2 110CD 110D0-110E8 110F0-110F9 11100-11134 11136-11147 11150-11176 11180-111DF",
    "111E1-111F4 11200-11211 11213-1123E 11280-11286 11288 1128A-1128D 1128F-1129D 1129F-112A9 112B0-112EA",
    "112F0-112F9 11300-11303 11305-1130C 1130F-11310 11313-11328 1132A-11330 11332-11333 11335-11339 1133B-11344",
    "11347-11348 1134B-1134D 11350 11357 1135D-11363 11366-1136C 11370-11374 11400-1145B 1145D-11461 11480-114C7",
    "114D0-114D9 11580-115B5 115B8-115DD 11600-11644 11650-11659 11660-1166C 11680-116B9 116C0-116C9 11700-1171A",
    "1171D-1172B 11730-11746 11800-1183B 118A0-118F2 118FF-11906 11909 1190C-11913 11915-11916 11918-11935",
    "11937-11938 1193B-11946 11950-11959 119A0-119A7 119AA-119D7 119DA-119E4 11A00-11A47 11A50-11AA2 11AB0-11AF8",
    "11C00-11C08 11C0A-11C36 11C38-11C45 11C50-11C6C 11C70-11C8F 11C92-11CA7 11CA9-11CB6 11D00-11D06 11D08-11D09",
    "11D0B-11D36 11D3A 11D3C-11D3D 11D3F-11D47 11D50-11D59 11D60-11D65 11D67-11D68 11D6A-11D8E 11D90-11D91",
    "11D93-11D98 11DA0-11DA9 11EE0-11EF8 11FB0 11FC0-11FF1 11FFF-12399 12400-1246E 12470-12474 12480-12543",
    "12F90-12FF2 13000-1342E 13430-13438 14400-14646 16800-16A38 16A40-16A5E 16A60-16A69 16A6E-16ABE 16AC0-16AC9",
    "16AD0-16AED 16AF0-16AF5 16B00-16B45 16B50-16B59 16B5B-16B61 16B63-16B77 16B7D-16B8F 16E40-16E9A 16F00-16F4A",
    "16F4F-16F87 16F8F-16F9F 16FE0-16FE4 16FF0-16FF1 18800-18AFF 1AFF0-1AFF3 1AFF5-1AFFB 1AFFD-1AFFE 1B000-1B122",
    "1B150-1B152 1B164-1B167 1BC00-1BC6A 1BC70-1BC7C 1BC80-1BC88 1BC90-1BC99 1BC9C-1BCA3 1CF00-1CF2D 1CF30-1CF46",
    "1CF50-1CFC3 1D000-1D0F5 1D100-1D126 1D129-1D1EA 1D200-1D245 1D2E0-1D2F3 1D300-1D356 1D360-1D378 1D400-1D454",
    "1D456-1D49C 1D49E-1D49F 1D4A2 1D4A5-1D4A6 1D4A9-1D4AC 1D4AE-1D4B9 1D4BB 1D4BD-1D4C3 1D4C5-1D505 1D507-1D50A",
    "1D50D-1D514 1D516-1D51C 1D51E-1D539 1D53B-1D53E 1D540-1D544 1D546 1D54A-1D550 1D552-1D6A5 1D6A8-1D7CB",
    "1D7CE-1DA8B 1DA9B-1DA9F 1DAA1-1DAAF 1DF00-1DF1E 1E000-1E006 1E008-1E018 1E01B-1E021 1E023-1E024 1E026-1E02A",
    "1E100-1E12C 1E130-1E13D 1E140-1E149 1E14E-1E14F 1E290-1E2AE 1E2C0-1E2F9 1E2FF 1E7E0-1E7E6 1E7E8-1E7EB",
    "1E7ED-1E7EE 1E7F0-1E7FE 1E800-1E8C4 1E8C7-1E8D6 1E900-1E94B 1E950-1E959 1E95E-1E95F 1EC71-1ECB4 1ED01-1ED3D",
    "1EE00-1EE03 1EE05-1EE1F 1EE21-1EE22 1EE24 1EE27 1EE29-1EE32 1EE34-1EE37 1EE39 1EE3B 1EE42 1EE47 1EE49 1EE4B",
    "1EE4D-1EE4F 1EE51-1EE52 1EE54 1EE57 1EE59 1EE5B 1EE5D 1EE5F 1EE61-1EE62 1EE64 1EE67-1EE6A 1EE6C-1EE72",
    "1EE74-1EE77 1EE79-1EE7C 1EE7E 1EE80-1EE89 1EE8B-1EE9B 1EEA1-1EEA3 1EEA5-1EEA9 1EEAB-1EEBB 1EEF0-1EEF1",
    "1F000-1F02B 1F030-1F093 1F0A0-1F0AE 1F0B1-1F0BF 1F0C1-1F0CF 1F0D1-1F0F5 1F100-1F1AD 1F1E6-1F202 1F210-1F23B",
    "1F240-1F248 1F250-1F251 1F260-1F265 1F300-1F6D7 1F6DD-1F6EC 1F6F0-1F6FC 1F700-1F773 1F780-1F7D8 1F7E0-1F7EB",
    "1F7F0 1F800-1F80B 1F810-1F847 1F850-1F859 1F860-1F887 1F890-1F8AD 1F8B0-1F8B1 1F900-1FA53 1FA60-1FA6D",
    "1FA70-1FA74 1FA78-1FA7C 1FA80-1FA86 1FA90-1FAAC 1FAB0-1FABA 1FAC0-1FAC5 1FAD0-1FAD9 1FAE0-1FAE7 1FAF0-1FAF6",
    "1FB00-1FB92 1FB94-1FBCA 1FBF0-1FBF9 E0001 E0020-E007F E0100-E01EF 0 0-1 1-2 2-3 3-4 4-5 5-6 6-7 7-8 8-9 9 9",
    "9-A A A A A A-B B B-C C-D D-E E E-F F F-10 10-11 11-12 12-13 13-14 14-15 15-16 16-17 17-18 18-19 19-1A 1A-1B",
    "1B-1C 1C 1C-1D 1D 1D-1E 1E 1E-1F 1F 1F-20 7F 7F-80 80-81 81-82 82-83 83-84 84-85 85-86 86-87 87-88 88 88-89 89",
    "89-8A 8A 8A-8B 8B 8B-8C 8C 8C-8D 8D 8D-8E 8E 8E-8F 8F 8F-90 90-91 91 91-92 92 92-93 93-94 94-95 95-96 96 96-97",
    "97 97-98 98-99 99-9A 9A-9B 9B-9C 9C-9D 9D-9E 9E-9F 9F-A0 AD 1A2-1A3 34F 61C 709 CDE E9D E9F EA3 EA5 FD0",
    "11EC-11EF 180B-180F 200B-200F 202A-202F 205F-2060 2066-2069 2118 2448-2449 2B7A 2B7C A015 AA6E FE00-FE0F FE18",
    "FEFF FEFF FEFF 122D4-122D5 16E56-16E57 16E76-16E77 1B001 1D0C5 E0100-E01EF"
  ]

/-- What the signs stand for, in their order: a fragment of a name, or, after a plus, a number of characters. -/
def fragmentRows : List String :=
  [
    "+0|+19|+15|+14|+21|+16|+24|+17|+23|+18|+13|+6|+20|+22|+25| |I|S|A|E|U|+12|O|P|HA|+26|2|N|D|T|+7|3|L|M|+27|+9|K",
    "+28|+29|4|B|5|C|G|6|+11|1|7|8|H|Y|+10|X|-|9|+30|+8|SMALL LETTER |+31|+33|R|CAPITAL LETTER |+32| WITH |RA|+4|LA",
    "V|+1|F|W|PA|WA|KA| SIGN|YA|TWO|Q|RIGHT |TA|J| AND |ONE|+35|FOUR|DA|GA|+34|MA|Z|BA| SYMBOL|EE|LEFT |LETTER |SA",
    "HREE|NA|IVE|SE| BELOW|AA|DOUBLE |RE|JA|+38|EVEN|DE| ABOVE|EN|ER|NINE|SIX|EIGHT|IN|AT|RIGHT|+37|+3|SMALL |SH|VA",
    "FINAL FORM|AI| MARK|RO|BLACK |AU|HEAVY |HE|ING |ING|PE|DI|CA|AL|ED |CH|TH|+36|+42|LEFT|S |ET|ON|OR|SHA|RU",
    "WHITE |TE|TWO |ARROW|ME| TIMES |AR|GE|PI|OT|UP|RIGHTWARDS |LOW |NGA|+5|LE|UT| OVER |WE|NYA|UM| WITH STROKE",
    "TURNED |VE|I |AM|RI|AN|UR|IR|HIGH |ZA|LEFTWARDS |UP |HO|TRIANGLE|TO|OO|DIGIT ZERO|ANG|INITIAL FORM| S|LI",
    " ISOLATED FORM|REVERSED |HI|FA|UE| PLUS |AL |HUNDRED|LIGHT|EX|MEDIAL FORM|+44|DOWN |IAN |IT|WITH|ONE |10|PER",
    "NNA|FACE|THREE |OM|DOUBLE|+2|US|FE|CAPITAL |ES|LO|THOUSAND|AS|LONG |AN |FOUR | WITH HOOK|RIGHTWARDS ARROW|UN",
    "TU|SIGN | A|ACUTE|IM|MACRON|ST|EL|BE|ASH|E |TI|DDA|0|Y |PO|AND|DIAERESIS|KE|LU|RX| WITH DOT ABOVE|AE|EM|HU|+39",
    "E WITH |TER|VI|AD|TTA|U |TEN|UPWARDS |NG|JE|A |YANNA|HARPOON| BARB |DOWNWARDS |IL| ABOVE |NI| CIRCLE|ON |UAE",
    "KO|M |WI|ARROW WITH |20|IN |MU|DO|AB|LIGHT |YEH FINAL FORM|SHE|IC |SI|T |YO|OU|AG|OP|TILDE|GRAVE|RING|TSA",
    "ATION|AH| SINGLE|NO|OE|GO|FI|VOCALIC R|CIRCLED |30|DOT|IS|RY|KU|VERTICAL |LARGE|CE|INVERTED |ATE|NU|ZE|CHA|BU",
    "NUN|SO|FULL STOP|MI|HAR|EH|VO|ER |LINE|MAN|MON|MEDIUM|DOWN|AY|HREE |PH|O |AP|LL|HEAVY|EU|BLACK|IVE ",
    "TRIANGLE-HEADED | SMALL|OPEN|NE| MA|FINAL |IC| WITH DOT BELOW| OF |WO|GU| M|-2|HIEUH|COMMA|AK|CHI|YU|QA|WAA",
    " LETTER A| ORNAMENT|ZH|RON|SHORT |OR |L | N| K|HORIZONTAL |50|40|GREATER-THAN|VER|QU|BI|ED|DOT BELOW|HEH|NOTE",
    "WAW|JI|K |PIEUP|BARB ARROW|TONE|G |MEN|MO|KHA|ALEF|VISARGA|EIGHT |EN | W|MEEM INITIAL FORM|HAN|PU|TIKEUT|OL",
    "LE |SET|OMEGA|COMBINING |IA|TAN|LLA|VOWEL SIGN |BO|MEEM WITH |IG|EVEN |KI|UD|PRO|SIX |INDEX|SP|MIDDLE | HOOK",
    "UPPER |UL|ANUSVARA| MIDDLE |CIEUC|WEST-CREE |MEDIUM |TEEN|QUARTER| B|OPEN |FU|FOR |BELOW|OS|TRI|CK",
    "ALEF MAKSURA FINAL FORM|LESS-THAN|HALF|CAPITAL LETTER O WITH |TAIL| C|HALF |EI|IE|CO|EV|SUB|POINTING |DU|-1",
    " BLOCK|WHITE|YT|UX|REN|SMALL LETTER O WITH |CLOSED |YN|THE|DOTTED |UK|D | WITH DOT|LY|AC|TR|DER| BRACKET",
    " AND YPOGEGRAMMENI|001|CAPITAL LETTER A|AR |SMALL LETTER S|AF|D WITH |LAM|HAH WITH |JO|VOWEL SIGN AA|CIRCLE ",
    "ENT|UNG|RIEUL|WHITE ARROW|FL| BAR|NINE |BREVE|ALPHA|LONG|TER |TS|SU|UB| CENTRE|HORIZONTAL|IF|TON|MIEUM|ANT|GON",
    "FORM|DIAMOND|LEFTWARDS ARROW|OPERATOR|HEART|HAND|NGG|3 |HITTING |FACE WITH |QUOTATION MARK|ENG",
    "CAPITAL LETTER S|CAPITAL LETTER U WITH |SMALL LETTER U WITH | WITH RETROFLEX HOOK|T WITH |GH|P |SCRIPT |Z ",
    "ARROWHEAD|PAR|LOWER | P|UT |YE|PUNCTUATION|VERTICAL|HEAD|LOW|DED |EAR|GAR|THA|SHU|SIOS|EVENTY|CIRCUMFLEX AND ",
    "EQUAL TO|TOR|LOWER|TRIANGLE-HEADED ARROW|EQUALS SIGN| SQUARE BRACKET|GI|LINE | WITH CARON|CAPITAL LETTER K|NN",
    "R WITH |LETTER SMALL CAPITAL |ANGLE|CHE|IZ|SAL|DOTS|PEN|MIN|TOP | G|EK|CAR|OC|WENTY|WOO|RES|1 |70|ORKHON ",
    " GUNU|ASTERISK|COM|RIC|DIGRAPH|PHI|RED |RHO|NOT |KH|ATION |OD|LETTER A|TRA|FF|JEEM WITH |PEE|ONE HUNDRED|HAM",
    "UU|SSANG|ID|12|HUNDRED |5 |2 |60|YENISEI |FIST |+40|MER|GREE|LIGATURE |SMALL LETTER K|TOP|IOTA|TONE |GAMMA|PSI",
    "ANA|TRIPLE |JU|FOR|II|FON|-KIYEOK|ICAL |OR EQUAL TO|VERY | SQUARE|H ISOLATED FORM|00|QUESTION MARK|ETH|ESH",
    "UPSILON|HOOK|AT |TIC|HOOK ABOVE|ETA|EPSILON|MIL|SHIN|YEH|DAL|AIN|TY|FO|EA|NIEUN|XA|ROTATED |EP|RING |UPPER|14",
    "24|56|YEH ISOLATED FORM|MEEM FINAL FORM|TY THOUSAND|+47|CI|LATIN |BRE| WITH ACUTE|BAR| WITH PALATAL HOOK",
    " STROKE|YI|MARK |END OF |MEEM ISOLATED FORM|CON|LARGE |NYI|NY|TAR|ATO|CT|LY |UNDERBAR|OUT|UOX|OQ|6 |80|IEE",
    "COLON|D SIGN|RIGHT-POINTING |DOT ABOVE|MB|TRO| WITH TAIL|ATA|GHE|S SIGN|DASIA| CH| SE|TH |HAA|CAL|YAN|RIN",
    "PHIEUPH|HIRTY|-S|BAD|OXIA| AND PROSGEGRAMMENI|DASH|OUR|KEY|SIM|BOX|ING FACE|BACK|13|EQUILATERAL ARROWHEAD",
    "BOLD |TRIANGLE ARROWHEAD|MAE|ALEF MAKSURA ISOLATED FORM|JEEM INITIAL FORM|7 |90|NOT|SMALL LETTER E WITH |LEG",
    "CURL|OVERLAY|XI|HOR|DAGESH|HOU|HAMZA ABOVE|HEE|FIVE |MA |ZHA|ALI |THE |POL|TO |INTER|LAS|IDE|SE |REST|CIRCLE",
    "STA|KING|23|NT|4 | TIMES A| TENU| ROTATED NINETY DEGREES|INDEX | MIDDLE RIGHT|ANGLE |CAPITAL LETTER A WITH ",
    "STROKE|CAPITAL LETTER E WITH |TRIANGULAR |TING |GRA|ISH|TAH|OF|TA |ATH|DING |KUR|SSA|BOTTOM |RA |IYA|EO|HIR",
    "HOO|OW| SUB|SANS-SERIF |NORTH WEST |WEST |LE ARROW|TO BAR|ANGLE BRACKET| CROSS|-SHA|OLD COPTIC |OLD ",
    "NUMBER ONE|NAYA|EXCLAMATION MARK|CURLY BRACKET|A WITH |SMALL LETTER A WITH |RAISED |NO |BETA|FINAL|OK",
    "ATION MARK|MEM|AYIN| SEPARATOR|DOWNWARDS|SYMBOL |SHI|TED | SIGN |DHA|SIXTEEN|LOGICAL |STI|ORE|TION|THIEUTH|WII",
    "WU|ROC|HORN AND |VERTICAL BAR|WALL|EQUAL|PL|MOON|BALL|ALTERNATE |KED |58|PLI|DISH|BUR|HAH INITIAL FORM| BENT",
    "THUMB|THUMB SIDE|+43|PLUS SIGN|LATIN SMALL LETTER |H |GLOTTAL STOP|LINE BELOW|GRAM|TAU|VERTICAL STROKE|PAL|NOW",
    "TERN|MAT| COMMA|LETTER KA|RIS|OG|DEL| SU|TIL|HORIZONTAL STROKE|HER| SMALL |RAN|ARD| WITH S| WITH PSILI",
    "PSILI AND VARIA|DASIA AND VARIA| CORNER|SQUARE |WHITE CIRCLE|LES|123|57|VARIANT FORM|EYES|+45|CIRCUMFLEX",
    " SPACE|OUN|LEFT-POINTING | WITH CEDILLA|N WITH | WITH CIRCUMFLEX|LOOP|SMALL LETTER A|SW|RAM|FISH|HEI|ZHE",
    " WITH DOUBLE |BIN|TIE| WITH DESCENDER|PHA|RESH|ORA|MET|QAF|ALL|NOON|ARA|TT|BEE|ULAR | SA|ARK|HETH|EY|SION|TUR",
    "INSIDE|RAT|TAM|NUMBER TEN|MBA|ZU|MG|E-1|BAN|IEUNG|SC|GER|ARE|LEN|SMALL A|PSILI AND OXIA|DASIA AND OXIA",
    "DOUBLE ARROW|SMALL|INTEGRAL|GREATER-THAN |SHADOWED |TRE|124|LIT|JEEM ISOLATED FORM|-VAS|NEO|CY",
    "CAPITAL LETTER C|DELTA|MIDDLE TILDE|FIVE|DENT|MODIFIER LETTER |TED|ARCHAIC |OMICRON|KAPPA|RAIN|YER|ROUND |TICK",
    "EN WITH |FAC| MU|HAT|KAF|FATHA|KASRA|SMALL V|THREE DOTS ABOVE| MO|LIN|CTION|TAW|QUE|SS|RRA|ISS|HO |THO|ONG| BE",
    "IAN|-SIOS|-CREE |BLE|INE|INSULAR |RACH|URE|KING |9 |UNDER|MENT|CONTAIN|LESS-THAN |DIAGONAL |ROP| STAR",
    "WHITE SQUARE|TORTOISE SHELL BRACKET| SPOKED ASTERISK|POINTED BLACK STAR|PED |1234| SLANTED | COM|MOUTH",
    "HAH ISOLATED FORM|HINGE |ALTERNATING|MOVEMENT|LEFT TO LOWER|+41|+49|ACE|LAR|HYPHEN|CUR|Y WITH |DZ",
    "INVERTED BREVE|H WITH |SQUARE|LEFT HALF|WN|ITY|HAL|ZI|GIMEL|LAM WITH |YEH WITH |AIN WITH |FIL|LED|BETH|DH|TAA",
    "DES|LAN|SIGN VIRAMA|DD|DIAGONAL|KAR|CRE| NA|CAN|ET |ONG |CONSONANT SIGN |BOL|GAN|KHIEUKH|DIGIT ONE|FORTY|SIXTY",
    "LIP|BIR|HAND |THER|ARROW |ANTICLOCKWISE |LEFTWARDS|SOUTH EAST |INTERSECTION|BETWEEN|YS|UP AND |NESS|UCK",
    "POINTING INDEX|67|ISMA|OVER |-00|CONJOINED|CARON|SMALL LETTER Z|CAPITAL LETTER Z|EZ|CUS|SHORT|LEFT RIGHT |ATE ",
    "IOTIFIED |HHA|OMI |FEH|MAR|TWO DOTS ABOVE|MAL|ZERO|KAPH|UPWARDS|DAA|BOO|YA |OVER|DOT |DIS|AVAGRAHA|PAP|DO ",
    " SYMBOL |RIT|ATED | SHO| SP|AD |PLE|ION|VARIA|ESE |CAP|EAST |-HEADED |UOT|ICE |RIGHT HALF|SMILING |MALE|134",
    "234|68|78|578|678|5678| CROSSING |GG|8 |U2|YODH|A PLUS |THUMB |INDEX MIDDLE |+53|+51|RIGHT PARENTHESIS",
    "VERTICAL LINE|COP|PLUS|VU|RING ABOVE|OGONEK|SMALL LETTER C|CAPITAL LETTER G|CAPITAL LETTER I WITH |OPEN E|HORN",
    "WITH |NJ|DIAERESIS AND |VOIC|GREEK |ALMOST EQUAL TO|AND |NUMER|SAN|EF|STRA|GHA|ZAYIN|SAMEKH|DAMMA|STAR|RECT",
    "CE |POSITION|SY|SADHE| MIDDLE|WORD |N-|OUBLE DANDA| CANDRABINDU|LENGTH MARK|THS|SIGN ANUSVARA|VERTICAL BAR ",
    "VIRAMA|LAK|CHARAC| SHAD|FORM |W |KIYEOK|KAPYEOUN|AAI|ATHER|LAG| CA|KOET|WIND|FLAT|PSILI AND PERISPOMENI",
    "DASIA AND PERISPOMENI|LASH|COR|TWELVE|ARROW FROM BAR|PRODUCT|UNION|NOT EQUAL TO|BOARD|IGI|DOWN AND |NEGATIVE ",
    "ONE EIGHTH BLOCK|QUADRANT| BLACK|KNIGHT|IU|TLE|PLANE|34|567|568|SIDE |ZZ|PERSON|LEAF|IDEOGRAPHIC ",
    "KHAH INITIAL FORM| STA|LAMEDH|INDEX THUMB|KNIGHT ROTATED |DOL|CENT|LEFT PARENTHESIS|MINUS|GRAVE ACCENT|STE",
    "ONE QUARTER|U WITH |SMALL LETTER L WITH |L WITH |ANG |HY| SIGMA| WITH TONOS|IOT|LAMDA|ITA|E WITH DESCENDER",
    "LETTER|BEN|RIGHT-|LET|PARA|ARABIC|ZAIN|HEH WITH |NOON WITH |LAP|UNI|MUSI|ZO|CC|IT |DA |VOWEL |NUKTA|UND| SAL",
    "MAI |LATION|YEO|PRE|IFTY|TOO|PIN|HAP|CER|CAPITAL A|VY|BULLET|ARROW ABOVE|RIGHTWARDS ARROW WITH |DIVID|INE ",
    "EQUIVALENT TO|SQUARED |GLASS|SLO|CHECK| CUR|UP-POINTING |LOCK|UNIT|TWENTY|FILL|ROOK|BISHOP|CROSSING |ON WITH ",
    "OV|C-SIMPLIFIED |KHAH WITH |TAK4|FINGER|HINGED|LITTLE |-WALLPLANE|FLOORPLANE|OF SPADES|OF HEARTS|OF DIAMONDS",
    "OF CLUBS| SHAFT|+46|+48|POST|FT|IGHT| ACCENT|MAS|ATION SIGN|SMALL LETTER I WITH |DOTLESS ",
    "CAPITAL LETTER L WITH |STRE|CROSS| SHE|CANDRABINDU|BRI|IRC|PERISPOMENI|ZETA|THETA|LEFT-|POINT| SH|FOOT|BEH",
    "KAF WITH |MEE| COLON|RISING |BIT|ZEN|BAT|ANDA|IC LETTER |CK |DANDA|ABBREVIATION SIGN|DZA|TI |IGG|CLOS|PANSIOS",
    "SECTION MARK|WOR|FIN|HOL|INGLE |ELE|WAY |PARENTHESIS| WITH VARIA|CLOCKWISE |DOUBLE VERTICAL STROKE|TY |ELEVEN",
    "WAVE |TIP |DOWNWARDS ARROW WITH | CIRC|VOL|TILDE OPERATOR|BOW|OVERBAR|LOZENGE|TILE|OUS |LOWER RIGHT |EARTH|GE ",
    "DRA|MEDIUM SHADE|SUN|BALLO|REC|FLAG|FRON|THROUGH |ABOVE |CURVE |LIC|RUM|DALETH|IGI GUNU|O-1|ON LEFT|VAYA",
    "S ICHOS| STRAIGHT|FINGERS|RING LITTLE|LEFT TO UPPER|+54|SUPERSCRIPT |SMALL LETTER R| SIX|DOUBLE GRAVE|UP TACK",
    "DOWN TACK|TONE MARK|ALIZ|ULL|SIGMA|THETA SYMBOL|NJE|TSE|BIG YUS|HUNDRED THOUSAND|OH|CH |SIGN S|NUMBER |MARK",
    "ALAY|HAMZA|SEEN|GHAIN|DOTS ABOVE|MEEM|TWO DOTS|POINTED |AL WITH | AND DOT ABOVE|TWO DOTS BELOW|T OF |IGH|BEL",
    "ULAR|SEEN WITH |CEN|LED |SAD|PR|KET|IMA| SHA| SYLLABLE |RTAGS|GY|-A|BUB|ING S|RAMA|LITTLE|SANGSIOS|HIEUCH",
    "CARRIER |WEST-CREE L|TIN|GOR|MULTIPLE|MIC |PING|CIRCUMFLEX BELOW|V WITH |WID| OVER|ENCE|TELEPH|ARY |FIFTY",
    "SOUTH EAST ARROW|ED ARROW|LEFTWARDS ARROW WITH |RIGHTWARDS|TIAL |MBER|WAVE|CL|BOTTOM|VERTICAL AND |PENTA",
    "DOWN-POINTING |OB|EYE|TABULATION|DASH |EIGHTHS BLOCK|OGRAM|HALF BLACK|ISE|FIRE|PAWN| CLO|FOL|WATER|INN|ANO",
    "KHAH ISOLATED FORM|MEEM MEDIAL FORM|LETTER ALEPH|ORNAMENT|GISH|POVYSHE|ON RIGHT|SVETLAYA|POVODNAYA|ROTATION",
    "OCLOCK|-THIRTY|CENTRE TO |LOW LINE|ACUTE ACCENT|SMALL LETTER N WITH |CHWA|CAPITAL LETTER P|SH |LICK|BELT|SED ",
    "LON|PRIME|HALF RING|TACK|ME |AL SIGN|LUN|LETTER S|SHO|CYRILL|BY|LION|TURN|TEL|MAP|TEN THOUSAND|MADDA|KHAH|DAD",
    "TWE|VED |PLA|ANA |NA |ANTA|GR|SIGN NUKTA|S OF |-PILLA|KAN|CEL|TSHEG| CAN|SUM|EIGHTY|NINETY|T-|Y-CREE |RANCH",
    "VOWEL SIGN I|POD|ENT |NEW|RANA| TEDUNG|PET|TRIPLE|MIDDLE|HORIZONTAL BAR|QUADRUP|SPE|T OF|DOUBLE-STRUCK ",
    "ITALIC |UPWARDS ARROW WITH |WARDS | SLASH|MEAS|ROWN|LEFT AND |TIRE|UTION|OX|WHITE CHESS |QUEEN|BLACK CHESS ",
    "THEN|THES|WOMAN|ILD|XE|KATAK|GRE|HOP|YEE|NGGU|OBLIQUE STROKE|GAN2 TENU|U PLUS |GUNU|2 PLUS |2 TIMES |ARCHAION",
    "FIVE FINGERS SPRE|RINK|NUMBER SIGN|SEMICOLON|REVERSE SOLIDUS|ROK|CRO|FRACTION |O WITH |MULTIPLIC",
    "SMALL LETTER G|CAPITAL LETTER B|DIAGONAL STROKE|LETTER SMALL | WITH STROKE |CHED |C |IGHT |TONE BAR|BEG",
    "UPWARDS ARROW|JOINER|MIDDLE HOOK| CHE|GOL|IDD|-INDIC |ALEF WITH |TEX|DOT PUNCTUATION|THAL|WAVY |TEH WITH ",
    "ROUNDED | SK|TETH|KO |ALAA|ANDRA |SIGN|VEDIC |THREE|POWER|FIF|RAANA |MAHAAPRAANA |ALPAP| BA|VOWEL SIGN A|HANG",
    "UA|ANS|INITIAL |ALL |CIL|HANGUL|-PIEUP|FILLER|ARAE|NASKAP|DEE|JER|GAL|WAY|UTE|DOWNWARDS ARROW|SIMALUNGUN",
    " SVARITA| SC|LATIN|MACRON AND |BREVE AND |CLO|SEPARATOR|FIR|BACKS|ROM|ENTIAL|ELEMENT OF|AS |POR|PARALLE|ESS",
    "PRECEDES |SUCCEEDS |FLOOR|PAGE|PIECE|UPPER LEFT |EED|WIN|HEAVY AND RIGHT |HEAVY AND LEFT |ARC |LEFT HALF BLACK",
    "RIGHT HALF BLACK|INVERSE |HEA|VEN|OUNTAIN|WHEEL| SI|FIS|GREEK CROSS|RIGHT WHITE |17|TIMES |PING |BLACK ARROW",
    "CROSSED|KN|ITERATION MARK|CORNER BRACKET|ED SOUND MARK|HIRAGANA |PRES|TEN |LEFT-STEM TONE BAR|E ISOLATED FORM",
    "REH FINAL FORM|HAH FINAL FORM|TERS|QOPH|TWELFTHS|LAGA|KASKAL|B TIMES |CKET|MIK|RIST FLEX|+50|ROPHE|OLID|EFT ",
    "INAL |OFT |MINUS SIGN|CEDILLA|VISION|APOST|SMALL LETTER B|SMALL LETTER P|ASH |RETROFLEX HOOK|BARRED ",
    "CROSSED-TAIL|MODIFIER |NAS|END |ARC|HIMA|SIAN|OFT|LITTLE YUS|RILL|REH|INT|OF |ISH |TAH WITH |ARABIC LETTER ",
    "HI |PARAGRA|PERS|BEH WITH |DIGIT |VIYANI|ATTA|HEEL|ATHA|WAYS |UDATTA|INDI|EIGHTH|FRACTION ONE |ENTI|KA |YOO",
    "YIG M|CHAR|US |MEDIAL |SAYIS|ITH|IO|-B|FRA|MUO|TION |LAY|RYPTOGRAM| MURDA|PAN|DIA|QUAD|TO-|RIGHT DOUBLE |LER",
    " CON|DIFF|CONT|DIRECT |SHIP|LEC|CEILING|LOWER LEFT |ARM|CONTRO|TRANS|STIT|EIGHTEEN| SINGLE AND |DOUBLE AND ",
    "RIGHT TO |LOWER RIGHT|FULL| SMALL SQUARE|FALLING |ON BLACK SQUARE|ENVELO|TEARDROP|NORTH EAST ARROW|NOTCHED ",
    "LEFT WHITE |3456|FROM BAR|DOUBLE-|ANGE |ABOVE|REVERSE |NORTH |OLD NUB|HOS|TREE| ST|JEE|OGRAM B|ERO|ESH2|GESH2",
    "UAET|I-1|U-1|PERFE|CAL |MIDDLE UP|THUMB FORWARD|FORWARD|FLOORPLANE |OF CHARACTERS|OF BAMBOOS|OF CIRCLES|CAT ",
    "BOOK|-FIVE DEGREES|NEUTRAL CHESS | CENTRE TO|AMPERS|INDICATOR|ROW|THORN|REVERSE|TILDE AND |B |EXTRA|MID ",
    "OVERLINE|TILDE BELOW|ZIGZA|TELE|DIALYTIKA AND |YAT|ABKHA|SIS|NOR|UNC|IN DOT|LAME|JEEM|HAH|NOON |TWO DOTS ",
    "QAF WITH | STOP|EXTEN|SIN|WO |MASH|OUND |ATOR|ANDRA|MUL|CIRC|HIT|ELLIPSIS|YM|SSANGKIYEOK|SSANGPIEUP|CHIEUCH",
    "YESIEUNG|GLOTTAL |WEST-CREE P|WEST-CREE M|WEST-CREE Y|SS |SHORT-TWIG|LAU| SINGLE |INDEPEN|KAL|RIE|ARY|TAI ",
    " SASAK|ANTI|PANG|KI |DE |ROT|TIMES|TUG|TWO THIRD|THIRD|CORNER|SEMIC|PAIRED ARROWS|DASHED ARROW|DOES NOT |ALLY ",
    "APPROXIM|OR LESS-THAN|SET OF |TURNSTILE|NORMAL SUBGROU|EXTENSION|BOX |IFT |TEEN |TRIPLE DASH |EIGHTH ",
    "OUTLINED |APAN|FOUR POINTED |PINWHEEL STAR|SUPER|346|SOUTH WEST |SET OF ABOVE |YUS|DIALECT-|COND |TONG|TTO",
    " SQUARED|HEAD MARK|LONSUM|DAD WITH |ENTY THOUSAND|TALEN|CRESCENTS|POSING |SHIG|AR OVER | SHAR2| S KRYZHE",
    "NEPOSTO|ZAPYATAYA|LYUCHE|RYZHE|MA ARCHAION|NEO |MOS |DODEKATA|HEAD |TURE|CHEST|POINTING LEAF|POINTING BUD",
    "ANTIMON|HEAVY SHAFT|PRESSED ARROW|+56|YEN|FLEX|TIT| STRAIGHT |MALL |REH WITH |FEH WITH |LAM | CENTRE |MIM",
    "DOTS | WITH DOT |HING|SAK|DIG|IGN|WES|EAS|WEST-CREE|CROSS |TAG|BAL|JOINED |PARENTHE|LENG|VIS|ISOL|FROM|FACE ",
    "IMAGE |DIAMOND |QUAD |ARRI|ORN|JOIN|ERIF|SED| STE|LANTED |NORTH EAST |APO|IDEOGRAPH|DESCENDER|VAR|EQUI",
    "ONE HUNDRED |LEPH| SHAR|ZAPY|ITI|LEF|RING LITTLE |NEUTR|QUEEN |I WITH |PRECEDE|ESIS|LAT| SOLIDUS |DIALYTIKA",
    "IGATURE |DAM|TAK|REE|OME|EQU|MEL|STRU|EIGH|TW|LOG|AVA|REE |INS|ARD |CENTRE|NIN|PTO|EQUALS|MULTI|BLACK STAR|LUB",
    "FLE|OPH|-TAIL|SOUTH |POS|CONSONANT|ISK|VE |THIRD | S K|CONTA|BENT|SECTION|TILDE |TONOS|TSHE|ABBREVI| SEM|OBLI",
    "CURLY| SIDE|JOINED|GREA| SECTION|YLLABLE |-P|VOWEL|M WITH |PLIC|CREE|SET |ITION|SUCCEED|ROUN|HORIZONT|LEFT TO ",
    "SQUAR|ROSS|CRESCENT|DIGRA|ED S|DIV|ELLIP|KAP|OGRA|RACK|OUS|NEUTRAL |PLANE |GESH|VOD|OUTH |+58|+52|AMMA|ILLA",
    "DALET|LESS |DOUB|YLLAB|SYMBOL|EXCLAM|SON|BIS|OUBLE |URE |CTION |RIP|SCRIP|EXC|ITER|QUAR|STEM |MIC|PLUS |H A",
    "TIME|PH |ISED |MEDI|JEEM |2 TENU|VET|LYU|ESIS |BREVI|MODIFI|GLO|HEAR| SHELL|FLO| SQUAR|+57|IGMA|KAS|INT |IEUM",
    "OUTH|EUNG|VAS|RE |GROU|LACK|ANUS|LESS|YIN|XIM|ITAL|PRI|UPER|TENU|PIE|ONT|ARDS|+59|+70|+71|+61|+63|+55|+60"
  ]

/-- The names, as signs. -/
def nameRows : List String :=
  [
    "A%W.QA*4A&hA?LA:7.R8OA9%:88OA^L!P8I;7[3A:9A/2A(JA+RA$sA.S1:!A$JAR[49.A9pL8WL8Qe8kL8Ye8mL80e8uL81L8zA)gA?MA%r8O",
    "A&(A$!8OA(8A(K(m)G9083A)H%>EoEqEcETE8JErExEQE8UEkEgEhEbEWEXE8RE8AEREdEUE8HE8KE0EyE8d8IT;8&)A?N8I;9&)A+2;!A>CA",
    ":$A+SSBoBqBcBTB8JBrBxBQB8UBkBgBhBbBWBXB8RB8ABRBdBUB8HB8KB0ByB8d8I[5*5A/3A8S*5A!&A!/1)I$t+3A$B*4A:88OAX+4)hA.T",
    "%9,g8OA_z8OAo?O8x&HA|88OA!QA/4y848OA9/$K&I9Ac[6^MA+58q*V&hA)/8OAR[7.SA8r&*:%8r)hA!EA8v(n8OA/51[8A<%8QK8kA>DA$K",
    "?P8OAX!oq^N8OA%X![A[9A<%8WA;$qU&+9Ac[6^MA)i8q*V&hA/6gr%??Q:&M%sF9)%hRA$B(8A)H*W!(l!Cl+2l!&l!Ql/7NTEq+6E!Z!(l!C",
    "l+2l!QE|U!(l!Cl+2l!QE(9E+7!&E?R!(l!Cl+2l!&l!QA?S;%A)H%t*XE:(!(l!Cl+2l!QEy)JE^OL%[$LX9sB*6!(Z!CZ+2Z!&Z!QZ/7MTBq",
    "+6B!Z!(Z!CZ+2Z!QB|U!(Z!CZ+2Z!QB(9B+7!&B?R!(Z!CZ+2Z!&Z!QA8:[!8OA+SW9YB:(!(Z!CZ+2Z!QBy)JB^OB.U!QL*W!EL*7!EL*W&JL",
    "*7&JL*W/8L*7/8L,h)JL/9)JL,h+8L/9+8L,h!UL/9!UL,h&,L/9&,L8Bc&,L5c&,L8Bc9YL5c9YL*Y!EL):!EL*Y&JL):&JL*Y)jL):)jL*Y",
    "/8L):/8L*Y.>L):.>L/!+8L?T+8L/!8D&JL?T8D&JL/!!UL?T!UL/!+6L?T+6L8Bx+8L5x+8L8Bx9YL5x9YL/$!&L;&!&L/$!EL;&!EL/$&JL",
    ";&&JL/$/8L;&/8L/$)jL5;(QL9:(oQ8UL87(oQ8UL8B8U+8L58U+8L&.+6L(p+6M8EL;)!CL:)!CL;)[9L:)[9L;).>L:).>L;)%X![L:)%X![",
    "L;)*XL:)*XL8Bb)JL>E!CL8Bb+6L>E[9L8Bb&,L>E.>E|Vc%i!N[$[3L8B&iL5&iL%t!EL%!!EL%t&JL%!&JL%t8q!CL%!8q!CL9:(o!:L87(o",
    "!:L8B8A)JL<&)JL8B8A+6L<&+6L8B8A&,L<&&,L&j)JL%[)JL&j+8L%[+8L&j+6L%[+6L&j&,L%[&,L8Bd+6L5d+6L8Bd&,L5d&,L8Bd9YL5d",
    "9YL&k!&L&l!&L&k!EL&l!EL&k&JL&l&JL&k/7L&l/7L&k8q!CL&l8q!CL&k/8L&l/8L8B8K+8L58K+8L8By+8L5y+8L8B.U!QE8d)JL.?)JL.[",
    "!UL.?!UL.[&,L.?&,B9?RBo9YL?U9^l(q)KL[%8D(q)KL8B$<<(L5$<<(L8B%jWEq9^L/99^L8B%](L9[cEc9^l(q)KL5%^(q)KB9Z,iL8B9vT",
    "ER>FE/%E8J9^L58J9^L/!9^N~RL5x8HL8B(rN9YEk9^L(p9^B:*)KMS)k8Z9YL8B9ZhE+78^%YL>E9?8S);L%t,jl/&L%!/&L8BWQL5WQL>G9^",
    "L[&9^L8iy8AL8B(s8QL5(s8QL8B(!L8i9vT>H+9L5d)LL8Bd9^L5d9^L8Bd&mE:(/&L&l/&L8B($E8H9^Ey9^L5y9^L.[9YL.?9YL8BT$0GP^P",
    "cL5.]+T^PcI/(%uL8i8Q9YL8B(s,kL5(s,kL8i$B+U9YK8Ky&/K,l90q>IK8G!a90q>IK8<9aW.R%v>IK8r)l_0%v>IL8B.V&,N8D.?&,L5.V",
    "&,L8Bg8UN8D58UL5g8UL8B/)N8D58UL5/)L%>&,L+!&,L/$.>L;&.>L%t.>L%!.>L&k.>L&l.>L&k/*!EL&l/*!EL&k/*!CL&l/*!CL&k/*.>L",
    "&l/*.>L&k/*!(L&l/*!(B9ZTL*W/*!EL*7/*!EL%>!U8V!EL+!!U8V!EL%>!Z!EL+!!Z!EL/!9YL?T9YL/!&,L?T&,L&.&,L(p&,L%t/8L%!/8",
    "L%t/88V!EL%!/88V!EL8BT$0&,L5T$0&,B8U&,L8B.VN8D.?L5.VL/!)JL?T)JL8Bx8M9gE8Ky&/E+7!(L>E!(L*W/78V!CL*7/78V!CL%>T)J",
    "L5!V)JL%t*X8V!CL%!*X8V!CL*W<)L*7<)L*W.WL*7.WL*Y<)L):<)L*Y.WL):.WL/$<)L;&<)L/$.WL;&.WL%t<)L%!<)L%t.WL%!.WL8B&:",
    "<)L5&:<)L8B&:.WL5&:.WL&k<)L&l<)L&k.WL&l.WL&j8D$s8oL%[8D$s8oL8B&n$s8oL5&n$s8oL8B!9&oL5!9&oL8Bx&,L5x&,L8B+79?8S",
    ");L5%^)<L8B!!L5!!L.[9^L.?9^L%>!UL+!!UL*Y[9L):[9L%t/*!EL%!/*!EL%t^Q!EL%!^Q!EL%t)jL%!)jL%t)j8V!EL%!)j8V!EL8B.U!E",
    "L5.U!EB:*)<B+7)<B&n)<B;(8UM^R(MB8R&p(ML%>9YEq9YL/99YL;))KE&n?VL%[8D+$[(%uB8d8D+$[(%uL8B+UL5+UL?U9YEU&HE9Z8HET",
    "9YL):*XL8B8U9YL58U9YL9:?W8R9^P%uL58R9^P%uL8B8A9YL<&9YL8By9YL5y9YB9ZSB&KB9Z&KBo9^B%jWBq8D)<Bc)mZ(%B9vTBR>FG9^B",
    "/%B9v/%8b9^B%$9v/%B;(8U9YBr9^B&qrL&;rL5(tB+%8_/&B9ZxBx9^M&i9^BQ9YMW8TL&;QL:),jZ>JZ[)MT$0B9Zhi8D9?);Bh9^B+78^%Y",
    "Z[)L&;bL5[*WL&;!:L5%$%HB(NB9Z8Ai8D9?);7(%B&:9?);Z%uZ+&(%MT$$>K&:+&(%L&;8Ai$B8AL%[9^B(!B;(8U?X!P%YBR$%(&9v(!B9;",
    ".X)<B9ZdM&mBU&HM(u>LB8H9^B9Z8HZ8KZyL&;yL.?&mZ)<BT$0N8D)<L8i+UKX$L%%9K90/+8=8J(L838mK$B+UK;*d?YqK$&8G$&90q>IK87",
    "9:oL5%$/%L&;r9^ixL58U8D[+B9ZkL&;gL58R9^L8i+U9YK9v+U9YL5c&r(MM.]+T(MM&r(M8D)<Bd8_(MMT>H(MM?Z(M8D)<B9/b$=(MBg8_",
    "(MM&r(ML8i$&8G$&909%.^R8mC,l909%.^R8mL59Z.X+&(%.O8V%uA[,?WxI9^N8UN8AN9Z8A39^N9:$B8AN8KNyF>MF8q>MF9Z$sF[$[3F9v",
    "$sH?a>NF8h>NF+UF9v+UF8h&sF8S&sF9k&sF96&sF+2;!A.>A,m/3F!EF>DF:$F9P/3M!EM:$M>DF*Z)gF%w*Z)gF:8(O8S>NG8h>NF<*F<+F",
    "+RF[8A&JA)jA/7A/8A87!&A8q>DA,m(P((%YF;+;!F87(tNgNRN0N9v+UF^S19h?bF9h?bF^T?bF9P?bF^S19P?bFy!z8v&t*a<,H:+8v&t*a",
    "<,F/+8.FU[.9L8E,nF8q[$[3F9P96&sM9k&sM8h&sM8S&sN!hF%X:$I8q:$3>DF9P!&F*8)gF?c!z9h$<F[/9h$<F?c!z9P$<F[/9P$<F!5g8J",
    "F$g;,g8JF9P8h9GA%I:$z>Dz+2;!z!&z!Ez^Uz&Jz)jt%J8y|Wz()z/7z8q>Dz.>z/38wz8q/38wH:$z;.z.Wz9Z$s8wz$s8wz9v$s8wz$s!p",
    "84z:$8oz>D8oz8h>O8oz8S>O8oz8h&<8wz/&z8h>N8oz<*8oz<+8oz+R8oz[88oz8L|X<.$(%Y8oz[)8oz$)t%J8y|W8oz!)8oz$s8ot$(~Sz",
    "/8z!|+Vz;/c9K8oz$B8q[:x8oz.>8ot;:9X_0;!8oz&J8oz.W8oz^Vz!E8oz>Cz8q>Cz|9)=z._)MP)=z&L)MP)=z._|Y)=z&L|Y)=z8S>N8oz",
    "$B;/c9K8oz.Y8otT!$</8oz08wz!|!&z8q^Uz!(P<,z!CP<,z/,;;F!u$1!]F|ZP|!Fy!O9K+W$>Qz;/c9K8wz&(8oz8q!|+Vz8h&<8oz(Q!&",
    "8wz9l$?%&((8wz/.8wz.|9G8oz?d8oz*bX8+>P?ez8S&s8wz.ZP/7z8J8yh)nz08oz8h&s8oz8S&s8oZ//9k&s8oF%w/7z)jP84z(J8oz8q!)",
    "8oz^Wr8wz8q&J8oNH!EI8oH!&H.WH9_8oz+SSmTmQmWmUmqmcmxmhm8Amdm8Hm0A/,8Bx(*L5x(*L8B,oR9c9LL5,oR9c9LL/:>QL&u/:>QL>G",
    "9cX:,g978:(tL[&9cX:,g978:(tLy!O9K+W$>QL879v>R$C:.8fV%(>R$C:.8fV9v%(>R$C:.8fL(8L8By9ML|!L|ZP|!L8B&K:/LS*9^X%JL",
    "8B(+:/N8T:/E(r:/E,p:/E($:/E%H:/L5::*6^Y|!L8B&KE*!E(tE,iE(+E;<E(*E;=E(rE,qE:;E!0E$DE)>E,pE9LE(PE<:E+XE($E(NE$uE",
    "(uE%HE::*6|ZE($8D|ZL5&K:/B(+:/M8T:/B(r:/B($8D^Y|!B&KB*!B(tB,iB(+B;<B(*B;=B(rB,qB:;B!0B$DB)>B,pB9LB(PB*$:.B<:B",
    "+XB($B(NB$uB(uB%HB::*6|ZB($8D|ZB,p:/B($:/B%H:/L9:k8$8fL*!8fL<;L($9^8fB!C8V(%8fB/*(%8fL(N8feQ8fLk8$8fL8i,ok!%8L",
    "L5,ok!%8LL>Sd~4L5!F~4L8i8:(tL58:(tL8ik!%8LL(p!%8LL>S9c9LL%[9c9LA/4d!6&j+(e%[+(e8B9/Qe59/Qe&.+(e(p+(e8B)?Qe5)?Q",
    "e/!9q%Je?T9q%Je&j[;e%[[;e8Bc%xe5c%xA/,,q8fL(P8fL>R$C:.8fe8|&My9ML9:<;L>R.~(+8fL9v>R.~(+8fL8B>TL5>TL9:>R$C:.8fC",
    "8|&M/;L5/;L(P9Y8fL9:9v>R$C:.8fD%(>R$C:.8fD9v%(>R$C:.8fA>U!68BQ!Z!(OWGc!iGr!iG%),r97%yGc$EG>V!G9A9.[<1%),r97QG",
    ")NG!iGg!iG<<G|$Gk!iG|U!(G$2UGc+)GSG!HG9aG)oG8vG%yG+)OTGQG$2QG8NG!GOhObGWG8/G8yORG9EGUG/<GYG<=G&=G9BZ$FG$L)hG,s",
    "UGR[=8OGTG$vOSj+!N!HN9aN)oN8vN%yN+)ITNQN$2QN8NN!GIhIbNWN8/N8yIRN9ENUN/<NYN<=N&=N9BG$FN$L)hN,sUNR[=8ONTN$vISNQ",
    "!Z!(IWNc!iNr!iN%),r97%yNc$EN>V!G9A9.[<1%),r97QN)NN!iNg!iN<<N|$Nk!iN|U!(N$2UNc+)j8B%Hj5%Hj8B^Zj5^Zj8B/ATj5/ATj",
    "8B[>j5[>j8B/A[>j5/A[>j8B<>j5<>j8B/A<>j5/A<>j&.!7j(p!7j8B(uj5(uj8B8J:<j58J:<j8B&>9w!*j5&>9w!*j8B&>9w!*+*:$j5&>",
    "9w!*+*:$j8B%)j5%)j8B,t%Hj5,t%Hj8B%H8D_19<j5%H8D_19<j8B9Mj59Mj&.!%8Lj(p!%8Lj9=)p8I9*++8,>U!6_19<B8L|X<.!+B)q&v",
    "$h9X)nB(u9t&v$h9X)nM*%!^+,B<?)pB(,>W)p8Iy[?!68B$2Q)mj5$2Q)mj&j!W!][=8Oj%[!W!][=8Oj8BT&:,uj5T&:,uj/!x!Z9N>Xj5&o",
    "!Z9N>Xj8B)o9Yj5)o9Yj/!x!Z?fj5&o!Z?fj.[x:=j5$0:=j.[:=j.?:=j&.S+.j58N+.j&.*6+Yj(p*6+Yj&.S9Yj58N9Yj?U!Ik9gP8Nj[%",
    "!Ik9gP8Nj8B8x+.j58x+.j9:(o$|)oj87(o$|)oj>G!Z?fj[&!Z?fj8B^aR97Yj5^aR97Yj8B9;+.j59;+.j8Bd:=j5d:=j9::>_2Uj5/=?aUj",
    "9::>_2U9Yj5/=?aU9Yj8BY+.j5Y+.j9:(od!J<=j87(od!J<=j,hx:=j58>:=j,hx!Z+Yj58>!Z+Yj&j/Bj%[/Bj8B^a[<?gj5^a[<?gj8B^a",
    "[<)r:=j5^a[<)r:=j8i+ZW8>8Nj.[x!Z&Jj5$0!Z&Jj&.S9^j58N9^j8B!G)mj5!G)mj8B8x9^j58x9^j8B8x)mj58x)mj&.Y~5[<?gj5$[~5",
    "[<?gj8B!W)mj5!W)mN+ZW8>8Nj*W&Jj*7&Jj*W!Qj*7!Qj9:(o!j%yj87(o!j%yj8BQ!Z&Jj5Q!Z&Jj&j>Fj%[>Fj&j>F8D!Qj%[>F8D!Qj.[x",
    "!Z!Qj5$0!Z!Qj.[!Z!Qj.?!Z!Qj8B^aR97c$Ej5^aR97c$Ej/$!Ej;&!Ej/$!Qj;&!Qj%t!Qj%!!Qj8B[*Wj5[*Wj8B[*?R!Qj5[*?R!Qj*Y!Q",
    "j):!Qj&k!Ej&l!Ej&k!Qj&l!Qj&k8q!Cj&l8q!Cj,hx!Z!Qj58>!Z!Qj/!x:=j5&o:=j8B,s:(!Qj5,s:(!Qj8B)o?X!P%Yj5)o?X!P%Yj8BY",
    "9^j5Y9^j8BY9Yj5Y9Yj&./C8vj(p/C8vj&./Cc!ij(p/Cc!ij&./C8d!ij(p/C8d!ij&./C.V!ij(p/C.V!ij&./Cg!ij(p/Cg!ij&./C<<j(p",
    "/C<<j&./CR!ij(p/CR!ij&./Cd!ij(p/Cd!ij8B9v$Ej59v$Ej8B!G9^j5!G9^j8BgYj5gYj8B8AYj<&Yj8By!Vj5y!Vj8B$wj5$wj8B9Vj59V",
    "j%>9S&w8Nj+!9S&w8Nj8BT:*?fj5T:*?fj8B,v?fj5,v?fj>G:=j[&:=j&j/B+.j%[/B+.j8B,v8^%Yj5,v8^%Yj8B.V+)j5.V+)j8Bc&=j5c",
    "&=j8B!G+.j5!G+.A9J$>97%>yoG:?Gr!DG8ZGT8>G9iG$MOdG9nG+)GQ!qG9t.aG0$MG8;Gk8xG9lG8sG/>cGq$*G$>G)NG+aG9BG$NG$FGX$M",
    "G8U$*G8EGR$MG9a8KG!K.aG[[G%zG)N.aG9L8K8AGk$MG<[G/Dj,m8h>Nj[$[3j!W+/^b8%z0q%_*&j$sj(8j|%*&j59Z$UoN$UoN:?Nr!DN8Z",
    "NT8>N9iN$MIdN9nN+)NQ!qN9t.aN0$MN8;Nk8xN9lN8sN/>cNq$*N$>N)NN+aN9BN$NN$FNX$MN8U$*N8ENR$MN9a8KN!K.aN[[N%zN)N.aN9L",
    "8K8ANk$MN<[N/DF|aT<])N.aF8|&M)N9Yj$Jj.SA:[,w8,9J$>97T+b.b8OA;>,w8,9J$>97T+b.b8OA9J$>97c+%8OA8+)I8K;!P8|b!,8TD",
    "8n?hC.c!5:]D9i8R/<P$w%KM8a:7D!K8/YD8r!bSD8d9J$wDX!I8TD&x!K8HDd%09gD9K+:M,x8R|bH9By!DD8R9J$h!N:^D>Y*c!j9K:7SD8L",
    "8d8yD838l+TY%k(RDh9|!,CSY8L(RC8y$[MP!R%k8GDc9J8aD$wc8cD>Y*c!j8R8|(vD,s!,%i$|!9$?DW9SDQ!SyD8v9wD.d^ce)O;$+;!re",
    ";?;,89K,y%])s?hB8L*dB$w+cRDQ9d8RK<=8rK8n?hK8L*dK$w+cRK9l%_JPYR$O%l898HK$%$G&NK)[P$3>ZQ8RK+<Tr4^d9~!+$i+=4W~68E",
    "9/4^d9~(S8L8n8R4W[];[^eD^e4^d9~(SR[^8L&O8Re)O%Z![V&u![e&yP$HPY%k$[4W~6$w+c8_$w%Ke8i$]Do8|D.eD~TD8+D898HD/?Dx8|",
    "Dd8|Dy(TD$j,zD,zD^fcD$j*(D*(D$j$HD$HD/[D*)D$j8/D8/D$j!*8:D!*8:D8R*eD+:D(.D8T8He!9%*9me(oy?i[_8q898HG898HPy(TG",
    "8qy(Te&yP9K+:N9By!DA:_P?Le<^(vxe;]$+8%8ye<^%]YDh89de<_<|8wL?jq&P!J8&9MK8Y)t8&9MLP8EyL?jX$O(,9S8OH>a8O8I8J/>!q",
    "8O8I8Eo$k+dec$C**e!O8|!6$$8n8Oe!Ah!]8EV8j%L%L)]P<~8+$~9>&?%_V<~x!J9>&?%_V8Ex+cU%L+T<~8+D8:!B%L)]P9e!XV|cx+>9.4",
    "_39h*dJ(o?k.f(/J:|K,0K/]K,14T$K)ge:>8%e)P?ld8%e(w?m8%e(8e+e88h9g9b(/D=AD?k>b8wG)^D$,8D)^D?k=A8oD.g)^D$]D;^D9E",
    "+T/E$G8THC$*D^gD^hD>cD(:D?nD[[D:|D=BC)_bC!cD>dD*dD9ixD(;D=CD!R:~/FZ$V&[8oD8J9JR9b.g$B8Hm/F3$V=De8T>e!Ge8i/DD+=",
    "D,zD%_D=ED+?D$*D$,D$]$ik&O8ED(/e,0%Ke/]%Ke,1%Ke,0e/]e,1e9B!L4%)9|e>bx8we)^K%me%1&q$]e$B/]e)O^ir!X9&e8d8K+[k$Ue",
    "%M,28wJ$B,28wJ$)e9v/]e,08D=Fe?o=A8oL?j9pB8WB8QM8kB8YM8mB80M8uB81B8zLP9%:88Oe8v)G/G**e9=R**e)|=G/^e8i;(;^N+=D<%",
    "$]D$]$~9>8GMQ)t?o)^8X%mD9h=AGP$]O$,D:()^D9h=AP(/D+]$MJ$MD+^xD?p!)I,3P*+DX$MD9E$*D!H$*D%|)^I^j&z8wDb(/Dc(/D%|,3",
    "Ddq$*B$MDc(:C=H!)I$)8C8V87*dF.cC8Z.cC%aC=H,3P*+I9]=DD8A[[CT.X,2I!)I$)I,28oI$)=II/FD!ixD_49]=DD=B$l=IG9)&[8o(l",
    "8V,3CS%^=JG$V=DD[|,3D.h,3D;(/DD/D%+,4>f%mi%mD9axD_59)&[8oD8/$*D+=!UI,3D!R$*D+$[(,zD;_!)I)jD!hD;_9)&[8oDr%]H8D",
    "!)Db!;$MDr%]8D=JCU$MC%]8D,3D.f,2I)jI,38b%mD+?$lBr!X9&D8A+?D;A!)G,3D$*P!1S8>!I;|Ddq$*!UD:~(/8wJ!;8<N8D)^D9E+T/E",
    "$G*f!;8<D$,8D!)Dk9gr9w&r!:D!:DUD$vDk9gr9w&r$vD$,8D/FD9aD8J9JR9b(/D(/)mI,2D$,!UDTD.g9)&[8oJ)K|dG8D)^e$Je(UTe87",
    "9h(o8j%^.f$]$ik&O8Ei^k.f$]$ik&O8EJ%AJ_6$]J^gJ9)&[J=Be)P$U!,e/^=K9C^RT$4x&>o4_39h?q/HJ9N8S/_9q+_/HJ;(&0$m>cJ)QK",
    "9P=BK9h>bK$,K(/K9h(/J+?e>g/|*e+|8Uc!,e!WX(<_7&1^lMx=L^le?qx=L^l8D.i.j&Qe879P=Ee8ic=H$B8HD_4$B8HA^m&2:_?j9pl8Wl",
    "8Qm8kl8Ym8ml80m8ul81l8zA[~!58x$lD>d$lD=C$le!A^nc]A^L!PB;7/~P$>e8i:~$B8HA:A9dS?Z)P]B$WeR9N8E$P%?$Jjo$P%?$JjX8E",
    ",5&3;~jo,5&3;~e&R;~e)g?rT8K8=8^M84eR9N8E,5&3;~?rT8K8=8^jo,5&3;~?rT8K8=84e)R(V,6ex+~9S9[W=M9.F+<W=M9.FS:%+f.^e",
    "|%*&e(U;BxD<%S;BxD.kD8a/GBP&488;CD(:*gC9M~U(:S)t+fxD8+D$,D:|D,AD?sJP&488;CD$v.lJP8+D/ID%_S.lD_8D$HDR!Wk*gD*$|&",
    "k*gDTD8/D9v8/D:BD$w$WD+fxD(.D,7D]C97o,AN/>/GNc.c*geX&5Y8wD%mD![,ne8d$w+/8wD%mD![,ne8A8e8j8wK%me%(8d8G)~&RM9q=N",
    "ex8e8j8wK%mV19;9>!j![,neT8j8j8wK%me8A8MYe9/$K&I![e$%889B8Pe9Ck8N$[e9F!|=DO%m4$V=DJ%me|(,8P$P8wM%me;Dqe)K8r(Re",
    ">S+gc97$0(;N$[$WN9/A[~]D9)_9&R%,8oI$)8V,3I9)_9%2/J8o_y8V/FG^o&[8o=II$B,28oI,2D%|/FG$V_9%2/J8oDc=H^j&z%,8o8V87",
    "*dI$B,28oD[[9YD=O9]=DD.h/FG$V_9%2*+8wG^o_9&z%,8wD_5=JG$V_9%2/J8oD!R$*!UO,38[%2/J8oD=E!Ul%mD;A=JG87*d38HD.f)KD",
    "_4^j&z%,8wI)^D=O^j&z%,8wD%|87[~*d8o)F//=FD=O87[~*d8V=FD_487[~*d8V=FD%|87[~*d8wD?k^m&2:_?j]E8Q8w/08k8wD8J9JR9b",
    ".g^m&2:_?j]E8Q8w~P8k8w~38Y8oD$,8D^m&2:_?j]E8Q8w~Q8k8wD(/&H8r!Z^m&2:_?j]E8Q8w~>8k8wD%|^m&2:_?j]E8Y8oD=O^m&2:_?j",
    "]E8Y8wG$B8HD;_/FA&5>h8i)uD9B]FD+?UD8ESDo8pDgY]FDk8p%kDS9t%kD89S/6D=EUD9xS%kDc)u!SDd)uDg8p!0Dr8p%kC8l]FD=BUD8Z",
    "]FD9i]FD8T]FDy8pD8L]FD8s]FD$F]FDd.mDx)uDk)uDd)u!SD9iSDR)_$DCS!c!XD/Kc!XD9nD;ED(;UD=CUD$wS%kD$x/6eS8e.iQ4!28p.i",
    "QeQ$&.iQe8g+^.iQeU$G.iQe9o/L.iQeT!H.iQ4yo,B.iQeW%N.iQ4S%NS.iQeR%)9|e8ib8pAb?t9pz8Wz8Qt8kz8Yt8mz80t8uz81z8z8F(U",
    "t8gtQtTtUt9oVtc!$8e!79&tbt8et8Lt8Tt8st$Ft8Zt8EV8Et8jtr8et9xt8Nt8Gt>i$n9<$It8ct9WVStYt8Mt8Ptb/M$n9<$It%~>i8sF$F",
    "F8E8F%I$29h$<M9P$<M<A$<D9?.n=P*h$<B9h$<B9P$<B<A$<D[.<.*&D8q)j8F9h(s[$[38F9P(s[$[38F*,W$X8v&/8xtr8e*i9|8x8F$s8F",
    "*48F8G8s9W.o8Fc>j8P.o9R9A|e8O8F8T$Q8OA8j/EQ%K$yg%]H<BH8a$QH8Z|XHQyHo8pH<CH98H_1Hy9TH8N%]H8G<DH_8H$HH!79Q83H82H",
    "!<H!*S8:yH$%8JH+fxHR%BH8T%]z)O82H18<%]CW;F!S,CC)[tW8:!<$O8iT&]%&d!6y9Tt+~PT&]%&d!6y9Tz%M9?TETE/N9?8pE9?8pE8pE",
    "/N9?SE9?SESz,m$2Sz%M$2SE9?UEUz,mQz%M9?QEQEWER%)9|z)Ob|f/Kz&y$5|f/KN%]R8p8RI!h$(No8)N838c8)N*.y8P?uz|%*&z&yP|g",
    "(T!68RQ!*N.d$wSN8RQ!*N9i/<N,DUN+~8p$DNR[^^p9x83NS9&8)Ah<E<F.c$wC!2FrFcFxCU!59&CS8dC98CS+]Fk8jHFgFhFbFRC82C$YFR",
    "8dF8RF8AF88FdC%3!59&Ck!cC(;4S(W(L*&4$Nq<.*&49K&^*&4&yA:A9dS?Z8ih<~S_69QG8sG9WG!dG9&Z8lGoYG8EG%LZ8GG*jA[~?k]G?Y",
    ",07&_8S,0G84:C)MG8^:C)MG]G?Y,17*k8S,17,t)j8b?a,t![78h,t![7,t$)G)jG]G?Y&_8S,0=IG84:C)M=IG]G?Y*k8S,1=I7&_8S,08V",
    "8h!)G84:C)M8V8h!)G]G?Y*k8S,18V8h!)78S=A78h=Ae8T>eT:*/N|h<G=A6$,M=Je8i8?!z(/e8e8n&+,t![e*8,t![e8i;A$B,2D%|$B,2",
    "8oD*d$lI9)&[8oD!R:~^j&z%,8oe!|%ueX^q<|8w4%J;*8%8we879h:D8<1(x8dK9P:D*c8c9cIh8p8GNd9>]He>bP$x$.oe<%$],4$[*jRe~V",
    "=Q>be%w>b9U>be8i]D,28oI)^D(X/FD[|/FD/D$l8V,3D+=$lD.f9+&HD%O,3D.g=J8V)^8])jD_4+9D$,_!9982D8&_$/M(/D9P$]Dc=H9)&[",
    "8oD8j%^9)&[8oDr%]8D$B*XD/=?a$,D8d.h$B8H8wD.h9)&[8oD,z$lD+=$l8V*9=DD]D87=E8wD8/.X87=E8wD?p87d$M8wD_487+?8wD.g=J",
    "8V87+?8wD%](L9[/DN+=N+?D8/.X,2D?p,2C?p,2Cq:~,2D!R:~,2D&o.h,3D%](L9[^k,3D(X,38X%mD.f87[~*d8wD>k%]e878J9JR9b(/K",
    "9h8J9JR9b(/J(/&H8r!Z=JJ:DR!,J9ixe)S,t)jI%meR%)9|8oe!~!r8oK,t/O,E!r8oe879P$,K9h:D9J19CoJ=RJ(;J+=J;A,1K9P;A,1K9h",
    ":D*g1?n]IGR18j8U8ZG:Eb!]8JI_%8TI8R&SI8M8R9xJ;]$+8%8yJ<^%]Ye/P%C*/)P$U!,e9Z/]8oe|)P,0K/]K,1K,0%KK/]%KK,1%Ke(s9!",
    ")jV/FV+98wV9!$)V=JV+98oe%j,0%KV/]%KV,1%Ke879h$,e,08D!)J)je,1$le8h&s8we8S&s8we8h&s8oe8S&s8oe8q8S&s8w8X%+e8S&s8w",
    "%+e/]%+e<||*]J^ir!X9&Ac%0(v&4Q*:$B;.F;.F%bF$^t8i$2SJSBSJQBQJUBUJ!=ZgJq?vTJ$2TJTJ8$Jq?vWJ$2WJWJ8)J8NBYJ8aBYJ9QJ",
    "8;BYJ8sBYJ9WJ!dMYJ!LMYJ9&J8TBYJ8ZBYJ8lB9&J8LBYJ8eBYJ8cJ8PJ8EB8EJ8GB8GM8GJ89J9BB8jBSJYt%M!:I!:t>lF/Qt&ANQIQNUIU",
    "N!=68ANq?vTN$2TNTN8$Nq?vWN$2WNWN8)t.pt%M=S*c&5+c*lTNS8Kt9*t;*,9*:]KI9e]Kt:$t>Dt%Mq?v9?TN9yI9yt8i$wJk/BJr/BJ9iJ",
    ".q*;J8AYJ9xJy8PJ!=8AZ$Zt%M$N)v!6g6gt<HV:FV%P;G/HH8WH8QJ8kH8YJ8mH80J8uH81H8zt<It!A9h%W%.8,![t8iq?vSJ!:B!:JS8KJ",
    "9yB9yJ/E8M9dP!LJ*AJ8*8PJr8aJ8U8sJ+UJc!LJo8eAo&i*B9e$.4?w:GK%bK$^4(UFSCQFQCUFUC!=IgCTC8$CWC8)C8NFYC8aFYC9QC8;FY",
    "C8sFYC9WC!dHYC!LHYC9&C8TFYC8ZFYC8lC8LFYC8eFYC8cC8PC8EC8GC9BF8jFSCY4>lK/Q4&ABQMQBUMUB!=l8ABTB8$BWB8)4.p48ik%B;H",
    "8T4S!e:H48i,!FYCy8PC!=8AI$Z4%M$N)v!6glg49pD8WD8QC8kD8YC8mD80C8uD81D8z48i*l99%c.rI&u.r49C(Y8%D?w4.T%9q!N/:^rP8W",
    "i8Ql8ki8Yi9!~U8?9[*C8v!/&^^rH8v!/&^^rP*<4,$$L4r<E8%48i?x%b4<I4R!P9w8%Ar9fh%)9w*:!c$t%i]LDo]LD$^j(UHSFQHQFUHUF",
    "8gF8$F9oF8)F8NHYF8aHYF9QF8;HYF8sHYF9WF!dJYF!LJYF9&F8THYF8ZHYF8lF8LHYF8eHYF8cF8PF8EF8GH8GF89F9BHSFYj>lj&AMQEQMU",
    "EUM8gM8$M9oM8)j.pDU/Kdj8ik/BFr/BF9iF,!F9xj9pC8WC8QF8kC8YF8mC80F8uC81C8zj!KX9LjS!LkjQ9djU8EjT$/8~.sj!Ay$t!Ij<I",
    "9,8s,FQ8O:GD%bD$^j(UHSFQHQFUHUF!=Ggj;Iq?vTj8iTF8$j;Iq?vWj8iWF8)F8NHYF8aHYF9QF8;HYF8sHYF9WF!dJYF!LJYF9&F8THYF8Z",
    "HYF8lF8LHYF8eHYF8cF8PF8EF8GH8GF89F9BH8jHSFYj>lD/Qj&AMQEQMUEUM!=m8AMq?vTMTM8$Mq?vWMWM8)j.pj9*j8i!=8AG$Zj%M$N)v",
    "!6gmgj9pC8WC8QF8kC8YF8mC80F8uC81C8zj<Ij9C(Y8Oj8i*Aj<^%)9|CY!LD>bxD?y1/O;J8wD&B;J8wD8Q1&B;J8wA9A*m8O:Gt%bt$^L(U",
    "DSKQDQKUDUK!=EgKTK8$KWK8)K8NDYK8aDYK9QK8;DYK8sDYK9WK!dCYK!LCYK9&K8TDYK8ZDYK8lK8LDYK8eDYK8cK8PK8EK8GD8GK89K9BD",
    "8jDSKYL>lt/QL&AHQJQHUJUH!=Z8AHTH8$HWH8)L.pt^ULS9b:He!e:HL8i,!DYKy8PK!=8AE$ZL%M$N)v!6gZgL9pV8WV8QK8kV8YK8mV80K",
    "8uV81V8zL,$$LL8i8ML?Q:&B%sC9)%hRC9!*<8?B]MC9)*<:IA,GQ$4:Jt$^L(UDSKQDQKUDUKTDTK8$KWDWK8)K8NK9QK8;K8sK9WK!dK9&K",
    "8TK8lD9&K8LK8cK8PK8ED8EK8GD8GC8GK89K9BD8jDSKYL&AHQJQHUJUHTJTH8$HWJWH8)L.pL9*LS!e:HL9pV8WV8QK8kV8YK8mV80K8uV81V",
    "8zL,HK(ZH9=Lc$U8OL$R8?8OLy&38OL8v<B8OL.tc988OL9>8w8OL9C(Y8OL?L8IT!S$o*:%I;.8wK^s++%3V%bV$^V%I%b8we(UCSDQCQDUCU",
    "D!=NgDTCTD8$DWCWD8)D8NCYD8aCYD9QD8;CYD8sCYD9WD!dFYD!LFYD9&D8TCYD8ZCYD8lD8LCYD8eCYD8cD8PD8EC8ED8GC8GF8GD89D9BC",
    "8jCSDYe>lV/Qe&AJQBQJUBUJ!=i8AJTBTJ8$JWBWJ8)e.pe:HeS9b:He8i!*D<JD8A,!Db$t8p*l*D!SD!=8AN$Ze%M$N)v!6gige9pK8WK8QD",
    "8kK8YD8mK80D8uK81K8ze<^?i(ae?Q9pP%l(T%*?z>m8YN9!%l(T%*?z>m8YN9F%l(T%*?z>m8YI$V%l(T%*?z>m8YN9!%l%Q?z>m8YN9F%l%Q",
    "?z>m8YI$V%l%Q?z>m8Ye!Ad(b!0A8N9&;H<^X%.8.:GK;.K%bK$^KR?i(a4(UFSCQFQCUFUC!=IgCTFTC8$CWFWC8)C8NFYC8aFYC9QC8;FYC",
    "8sFYC9WC!dHYC!LHYC9&C8TFYC8ZFYC8lC8LFYC8eFYC8cC8PC8EF8EC8GF8GC89C9BF8jFSCY4>lK/Q4&ABQMQBUMUB!=l8ABTMTB8$BWMWB",
    "8)4.p4:H4S9b:H48ib$t8p*l*D!SC9xC!=8AI$Z4%M$N)v!6glg49pD8WD8QC8kD8YC8mD80C8uD81D8z4!A$.x89^t*mKU8L.l$Q*mAh<~S%_",
    "*:%I%b8wF^s++%3C%bC$^z8i?x%bHSJSHQJQHUJUH!=OgHTJTH8$HWJWH8)H8NJYH8aJYH9QH8;JYH8sJYH9WH!dBYH!LBYH9&H8TJYH8ZJYH",
    "8lJ9&H8LJYH8eJYH8cH8PH8EJ8EH8GJ8GB8GH89H9BJ8jJSHYHd!dz!A:K:LC^u+_:LC/Qz&AEQNQEUNUE!=38AETNTE8$EWNWE8)z.pz8i/O",
    "8r$Wz!A:^z8i$ug!S$pGyGg$ZzS!e:Hz]N8W1911!P180!K(9I(y!K(9B9)|i+,:IB9!|j]O(9G&CxB9)>eb+,:IB9!?08?z8i,o(zH!=8AO$Z",
    "z%M$N)v!6g3gz9pF8WF8QH8kF8YH8mF80H8uF81F8zz,HH(ZE9=z?Q:&I%sB9)%hRB9!*<8?I]MB9)*<:Izc$C8%z8i$u$Z!e&/OG8A8AGgOgG",
    "kA^nY8G8O:GK%b8PK$^8P4(U!kFS!kFT!kHT!kCQ!kFQ!kCU!kFU!kCQ9C!kJU!kF!S!kJU!kCT!kFT!kC8$!kCW!kFW!kC8)!kFg/R?18N!kC",
    "?28N!kC?3?18a!kC?28a!kCk>j8s.uS!7k8P8PC8j9W]P8a!kC?3?18;!kC?28;!kC?3?18s!kC?28s!kC.m!S8s.uS!7k8P8PI/;]Q8a.u$t",
    "!7k8P8PC8j9W]P8s!kC?3?1!d!kC?2!d!kC?3?1!L!kC?2!L!kFU9f*;8s.u!kC8j9W]P!L!kC?3?18T!kC?28T!kC?3?18Z!kC?28Z!kCc>j",
    "8s.u!kC8j9W]P8Z!kC?3?18L!kC?28L!kC?3?18e!kC?28e!kH!kCS,I?4!kC8P!kC8E!kCc>j8sP8G!kC89!kC.m!S8s+|!kC!09f*;8s+|!k",
    "Cc>j8s+|!kCY!kC!09f*;8sP8G!kC9x!k4!A8<1:MU8l4?5T8G>nB=T<K!V8Z>nB_&!j!V8Z>nB=T<K!]>nB_&!j!]>nB=T<KX8p>nB_&S&v8p",
    ">nBr!V!d>nBk9*$G89B_&S$69*$G89B!u)k!e8v8NG89PY!j!V8G>n6_&!j!V8G>n68a)wU%R!dB8a)wU%R!d49t)t9pB8WB8QM8kB8YM8mB80",
    "M8uB81B8z4%M_&S&|!V!d>nZ)wU%R!d4&y$6;K(:*mA&59b:N&M?tk8$F,%$[QEU83E8MQE8~B8Ek?6Cb!;$5$oCq,%q%BE8.E9qCR$X$ICq9l",
    ")r!:Cy$Xy8.C/S$F8ZC*E8L|cF,%d%BBb9q$R,&BX!X&5WC*9b8xC/Sc&~C*E8TWF,%8?&DES%BE,(C*9$DC%N?4=UQCX$X>gF,%$W&DC(=P9x",
    "CX,%X%BC(=P9xbCX,%R9c+/WC$?$iCy$Xy$tC8&P9CSFUCg$Xg8.FUC^o8M8xC$I;LSJ9C!7JR?7C,%9wXC9<)rU8GC$X9qC,%!/(R%)CX8$)w",
    "!/QCR+[!BC;MY:E$t83C8j*l8pEhMQEQM9yNTEEUC$W[]!XL9f%9,g/To!,dL$L%.!a+|*lTM!VMWM8$$iQ!09ei8<8$C:Mk?68PWC8c*mh*%J",
    "d8$k!XJP&~B,&M9dB8>]G8MCd%B&5k,yC!q$[^vCy9c$t>oC(0r$Q9R9pt8Wt8QV8kt8YV8mt80V8ut81t8z9R:N&M9qk%Bk!XC(R9*9TA8G$X",
    "8i!uV,%R&DC,GtX*B/>tb!;t%ztX*B$FtR$X,GtX*B8UYtb!9tX*B9WF!dJYF!LJYF9&t!1t9nV,%R&DC,GtX*B*;t!/t%Nt!OV,%R&Dt(=P,G",
    "tX,%,Gt(=9s&DtX*BoYt$?t!9tg$Xg8.CW9Mt$ntR?8k/U=VE8jVW9s&Dt,%R&DtX*B%LtWt,%,G8F^w8F?5C;M>oC8pFhCQFQCyFyCUFU8F!A",
    "X*B:L8F%M;Mk8~8F8n$K%M9<Bb!98F%MTFQCWC$UFQ8F?t8G8F(s;M&~K,&DQKq)n8M8F.v>pg*&8Fb<L!,:<8F9pz8Wz8Qt8kz8Yt8mz80t8u",
    "z81z8z8F,%!/e$?8F8i(Rh!e!;Fb!9A!K*!b=W9*4)Or&M]Rr$X%/^d/VSZ1U!v8Ab9c%iq!c$i3r&M>q$iK?9]R!;$pc9|$iK<M8,]R!;9sr",
    "!2$iD9J.w]Rr$X$W9f:O$iK]Rr$X>q:O$iKRo9Cg:OKoR*iP]R!;D8N1/W$=]R!;K*FR~W!6>qK+hQ$K&M>q%i/^K9BcK)TR:OK>q:OK)T8_>q",
    ":OK)x?gb/X&DR:ODr/M+W:OK(A.w1c,J%*=XP>P&L>rKr&M>q4|kW(<8/8O)r/Y=XNgY$==X49>)l*=<^*b&|q9[1]SP=XZ1(R$v%*8LZRc.xd",
    "&6rR4!A8A+hPc.s&|q%PG)TRG>sJb!$&|q%PI)TRJck%?8A+h.ur49pD8WD8QC8kD8YC8mD80C8uD81D8zD%w8WB8QM8kB8YM8mB80M8uB81B",
    "8zB/H4)OoRc]T=XK9QR%i,Jb$=)TP8d8GK(A.w1c,J%*=X%i$0Q$p%P>rK9QR%i8d&D9sr$3=XK&=$p!;K!*P1$W9CK$o$==XP=Y8~O9>K:+(R",
    ":+=Y8~O9>4!Ay%?|$RKh%?|$R4+eFYC8aFYC9QC8;FYC8sC9WC!dHYC!LHYC9&C8TFYC8ZFYC8lC8LFYC8eFYC8cC!*HYC<JHYC8MC*AFSC=ZC",
    "8PC8EC8GC9BF8jFSCYCSCk*jC!<0$(1:P8ECk8NC,!4&ABQMQBUMUB!=l8AiglgBTMTBWMW4!A8A!iR+iP9QP8&Db9c%iq!c4%M9vQmQ4!A)TP",
    "8d8G.u!j8ZKR>igc9e4)O.c>jK+ZU8T4!Agq9b=XKy:+=XKg/|!*>rKhq!X>rKr9C>rP8A=Y8.RHh8=8A=Y8.RK$Bhq!X>rj&P|+*:g/|!*>rI",
    "hq!X>rI$Bhq!X>rJ+eZYO8aZYO9QO8;ZYO8sO9WO!diYO!LiYO9&O8TZYO8ZZYO8lO8LZYO8eZYO8cO!*iYO<JiYO8MO*AZSO=ZO8PO8EO8GO",
    "9BZ8jZSOYOSOk*jO!<0$(1:P8M8[8P8[8E4k!e9CP$[H%i$0Q$p%P>r4.v+j;N*:$a,)83Z92,)83Zq:+9E1UZR=aP1q.c4*,c9d$4$GC8A/S",
    "8A!iCX!c)~rc9eC8A/S8A!iP8Ar/M+WC$W9fP8LCb$3$GEP)T8_1k:,!oNr>sP1k:,!oNo8d]A1k:,!oj_(P8A+h.u$=8A+hPc.sNr>s4)OoR",
    "8N1/Wr&|9b,K$X8Ar)wKh9W!vy%P&|9b,K$X8Ar)wK)T8_>qK?9o8A;H8A)U8,]R!;$pc9|$iK<M8,o8A;H8A)U8,]R!;9sr!2$iA:[,w=b89",
    "*>8OA;>,w=b89*>8OA:[,w=b89*>8O%+RA;>,w=b89*>8O%+RA!K*!bP)Og(>*hh8>9[=XK(V!o8,h8>9[=XAh)wh%?+eFYC8aFYC9QC8;FYC",
    "8sFYC9WF9WC!dHYC!LHYC9&C8TFYC8ZFYC8lC8LFYC8eFYC8cC8PC8EC8GC8MC8jCYC%LCSCR%B!BCQFQCUFUCTCh!sTCWC8)4%Md?!8pB8pBQ",
    "MQBUMUBTB8$Bh!s(zIWBT8w4:JK$)K$^C=cK9>834.y]U8P38E38M3Y48i|,d+|49pD8WD8QC8kD8YC8mD80C8uD81D8z4!A=d|.K|8j^x.zPg",
    "(B838mC(K/Z,nC%]*?$>*[$(Cr8x988m4>SYF8jC!=G8AIgGg4%M!=l8Aiglg48ih!s9QB8UYBo8eET4.yh!s]U8l8b8c8b8G4>S8a:Q8N%9=V",
    "4%MR8a:Q.s$|$b4<,9s8a:Q.s$|,y9wm!R&v9l48i_)+b&v^o.s$|&57X8M4%M_)+b&v^o.s$|$b859y4!A_)+b&v^o.s$|&T,L8[a8[f8[n8[",
    "p48i_*+b&v^o.s$|9&7y8M7&o8M4%M9Ko!j.s$|QB8N8P+T!:OUO8g4>Sx9[8NEYM8aM8;M9iM9WM8ZM8lM+/M9xM8eM&5MY4.y889[]U8M4%M",
    "889[8pGTO8wG$jy4<^x9[$<$qIfIpIsJq+4?$P$<$q6fZ!WX,y!6$<48i9C;M+ZS&DP9x4!A9C;M+ZS&DP$<1pjx9[9pB8WB8QM8kB8YM8mB80",
    "M8uB81B8zj_($6(a<K&T,LOf4?5Q&T!BZQ4~X;[9[8WM~Y!+A9K9Ar97%>bG,MG.0Gc8~G8xG!bbG<CG%KG82G>oG*GG$QGb9JG8~G&tG8d$LG",
    "8ETG/;G)VG9|GX$LGk$LGr%BG8R9JG(.G$ubO9eG$.gG?$O$LG09eG8U%BGYTOTO%yG9VG$LO!:G%%GS8xj(UbF,MF.0Fc8~F8xF!bbF<CF%KF",
    "82F>oF*GF$QFb9JF8~F&tF8d$LF8ETF/;F)VF9|FX$LFk$LFr%BF8R9JF(.F$ubH9eF$.gF?$H$LF09eF8U%BFYTHTH%yF9VF$LH!:F!<F%%FT",
    "9t!<F9Z.0F(;j]B$W**A,m9K9Ar97b9JA9K9Ar,*$y8xF$L)hF8G$&>QA?%)rW8n.x:RF^yF(?F%DF(c%DF&EF&UF$:F^zHQ%nH=eF,NF%dF(c",
    "%dF^0F.1F*]F)yF$rF(?(1F(c(?F(?1%DN$:F%D(1F&E1(?F(c&EF&E1$rF:S&EF&U?&F:S&UF$:(1N(?N%DN&7Z(1i%Di$:I=eIQ%n1%dN%dI",
    "=fN*]N)yF:S$:G^zF&7(1E(?E%DE&EE&UE$:Z(1ER=eE,NE%dN=fE.1E*]E)yE$rFq^v9y9X&7O=eHT,(8>~7&7l=eF<NF,N(1N%DN&UN$:N&7",
    "N<NF(c,NF,N1%dI=fN*]N)yF^1F%d1,NH^v9y9X%dG(c%dHT,(8>~7%di(c%dH=f1.1G$rBd9y9X^0HT,(8>~7^0F)y?&F:S)yF(c$rF;O)x$r",
    "F:R1%DF(?,+N%dN$rF%D1&EF?(e8U&D8n.x?(HSJTH8PBTH*nJH;OBHWH8MBTH!:H!9HUH9VWBJQH$vH$bH)NHQHS1WBUH8P1WM!9H*n1WMUM",
    "$bH;O1WEUHW1*nMB&xBWBUH!918PNTE*nMWMQHU=ZMTB*n1$bB&xBUH$v=ZM*nEM;ONMUMQH$b1UM$bH)N1UHQ=ZB8PBWBUB$bB?)SH?)SN1*n",
    "IUIQH(c?)SHS1$bH8P1UJ*n18PHW18PET4,(8n.x:RH^yH:R,+H(?N1%dI$rH%DH&EN(1I&UI$:I&7I*]I)yI$rH&UH$:N,+H&7J=eH,NH%dJ",
    "=fH.1H*]H)yH$rH:R1&EG&7(1H(?(1I%DI&7I<NI*]H%D(1G&EH&E(1,+I(?I%Dm1$rH(c&EH&E1&U(1m&7I$:,+m$rI:S$:IR=eI<NI.1I;O",
    ")x$rH&U(1I&EI$:I&7G=eI<NI^0I$rH:S&UH$:1&EI)yI$rH:S$:H&7(1N%DN&EN$:H<NH,N(1I^yH(c,NH,N1.1H^1O,+Z<NH)y?&H:S)yH$r",
    "1(?I&EI&UI$:H;O)x$rH:R1(?G$:G^0G.1G$rH(c(?A(9Q!%$k=WYBUBQB8pB8gMBWMSJ8GBUBQB8pB8gMBWB8MJ/BMUMQM8pM8gEMWM8MJ8cB",
    "UBQB8pB8gMBWB8MJR9iMUMQM8pM8gEMWM8MJ8EBUBQB8pB8gMBWB8MJ8jBUBQB8pB8gMBWB8MBYMUMQM8pM8gEMWM8MJ$wBUBQB8pB8gMBWMSB",
    "8MMQM8pM8gEBYMUMQM8pM8gEMWM8MEQE8pE8gNJ8eBUBQB8pB8gMBWB8MJ89BUBQB8pB8gMBWB8MJ8TBUBQB8pB8gMBWB8MJ8;BUBQB8pB8gMB",
    "WB8MJ([BUBQB8pB8gMBWMSB8MMQM8pM8gEJ8lBUBQB8pB8gMBWB8MB8PMUMQM8pM8gEMWM8MJ^2SZUZQZ8pZ8giZWZ8MJ8NBUBQB8pB8gMBWMS",
    "B8MMQM8pM8gEB([MUMQM8pM8gEMWM8MEQE8pE8gNJ8MBUBQB8pB8gMBWMSJX$L%%9K90SmUmQm8pm8g3mWJ9iBUBQB8pB8gMBWB8MBYMUMQM8p",
    "M8gEMWM8MJ8PBUBQB8pB8gMBWMSJ8ZBUBQB8pB8gMBWB8MB8ZMUMQM8pM8gEMWM8MJ8sBUBQB8pB8gMBWB8MJ8aBUBQB8pB8gMBWMSB8MMQM8p",
    "M8gEB8aMUMQM8pM8gEMWM$xJ&5MUMQM8pM8gEMWM8MJ$FMUMQM8pM8gEMWM8MJ+/MUMQM8pM8gEMWM8MJ!*MUMQM8pM8gEMWM8MB9iMUMQM8pM",
    "8gEMWESJ9xBUBQB8pB8gMBWB8MJ8LBUBQB8pB8gMBWB8MJ!^SJh8PJ8J8Pj%I9K&^!+8V;I:HB;I:HB9K&^*&j<Oj<Pc%W.Qj$Jj$sj?Mj)gj",
    ";P9(;~j(8j]B$W**j.2C8QF8kC8YF8mC80F8uC81C8zj,HH(CH)zF.3H;QF.4H&8F>tF>uF91F>ajR|/8n<D!H;Gh8MJh!wM8gEJ8n<D!H;Go",
    "8MJo!wM8gEJ8n<D!H;G8J8MJ8J!wM8gEJ8n<D!H;GX8MJX!wM8gEj&T90)Oy&>8|M%:8|M9dk9dkM$29dk9dkMc&S83Mk8x83Mq*o8|Mx*HdM",
    "%:T>vx*HdM*idA&=?O8g$yFTFQFWFUF8HF8aF8NF9KHQHWHUH8HFYHTHQHWHUH8HF8GHTHQHWHUH8HF8cHTHQHWHUF8lFx8lFb!,HTHQHWHUH",
    "8HF$%SJTJQJWJUJ8HF8jHHTHQHWHUH8HF8ZF8TF8vF9EF8:F!KF!1HUH8HH8GFd8GJTJQJWJUJ8HH8jJTJQJWJUJ8HF8MHTHQHWHUH8HF8PHTH",
    "QHWHUH8HFh8Hj5&xIQIWIUI8HNh8H8I(vc97R~W$k8_.SBTB:TBQMQBWMWB>w9oB=g8giQBSMSB9VE!F,,9VMQMT!F,,!wM(zMT!F,,*^MWMT",
    "!F,,$nM9oMT!F,,(DB?*9b(DB8MMT!F,,8MM8pMT!F,,$xB?*9b$xB8$B>w8KB+UB$j!CO!(O*k>NO&_>NO8S>Ni!hO8q!C8C$2+YRO%X![O$2",
    "+kO/5O<+B8xB82B8~B9eB8/M:TMQEQMWEWB>wX9oB=g)_lQB8LESM9VB^39VBX!wB^3!wBX*^B^3*^BX$nB^3$nBX(DB^3(DBX8MB^38MBX$xB",
    "^3$xB>wX$xBXB^3B=gxB9EM:TMQEQMWEWB>w;RB=g?+lQB8TESM9VB%e>eBd!wB%ed!wBd*^B%ed*^B8QB%e8QBd(DB%ed(DBd8MB%ed8MBd$x",
    "B%ed$xB?*9bd$xBdM9EEQEWESB!RM:TMQEQMWEWB>wk9oB8NESM9VB%ek9VBk!wB%ek!wBk*^B%ek*^Bk$nB%ek$nBk(DB%ek(DBk8MB%ek8MB",
    "k$xB%ek$xB?*Q$6$xBkM8KBR~8)08G9ay$6$M7Qx7<[7!,B$AM:TMQEQMWEWB>wq9oB8;ESM9VB%eq9VBq!wB%eq!wBq*^B%eq*^Bq$nB%eq$n",
    "Bq(DB%eq(DBq8MB%eq8MBq$xB%eq$xB?*Q%v$xBqB]V9b8?B9HM:TMQEQMWEWB>wh9oB8cESM9VB^49VBh!wB^4!wBh*^B^4*^Bh$nB^4$nBh",
    "(DB^4(DBh8MB^48MBh$xB^4$xB?*Q$p$xBhB^4BhxB]IX9>.v$pB]VQ$pB$hM:TMQEQMWEWB>wb9oB8lESM9VB%eb9VBb8MB%eb8MBb$xB%eb",
    "$xB?*Q$5$xMB=g!hBbxB9SM:TMQEQMWEWB>wg9oB8GESM9VB=h9VBg!wB=h!wBg*^B=h*^Bg$nB=h$nBg(DB=h(DBg8MB=h8MBg$xB=h$xBgB",
    "=hB]UgB8nM:TMQEQMWEWB>wR9oB8jESM9VB%eR9VBR!wB%eR!wBR*^B%eR*^BR$nB%eR$nBR(DB%eR(DBR8MB%eR8MBR$xB%eR$xB?*Q9s$xBR",
    "B]IX9>.v9sB+$B$c;]9sBh9o8n,,RkB?*Q?r8Kl18KlX8Mld8Mlk8Mlq8MB!5EQNQEWNWESNSE9VB_+;[9VB88!wB_+;[!wB88*^B_+;[*^B88",
    "$nB_+;[$nB88(DB_+;[(DB888MB_+;[8MB88$xB_+;[$xB88B&xM:TMQEQMWEWM,,]QMSESM9VB^59VBy!wB^5!wBy*^B^5*^By$nB^5$nBy(D",
    "B^5(DBy8MB^58MBy$xB^5$xB?*9by$xByB$&,.,,yB^5B]V9b)NB8rM,,8rB=hTB8A:TMQEQMWEWB=hWB8EESB=hSB8A$xB%e8A$xB8AB%e8AB",
    "]U8AB9/M:TMQEQMWEWMSESM$xB%e8J$xB8JB%&Bb,,%&Bd9wBb,,d9wB8?(zBb,,8?(zB,&NWESNSE$xB%e8?$xB8?M%&NQNWNSNM&xEQEWESB",
    "$HS!b$/8+lQmQlWmWlSmSlG&wxBxkB8R:TMQEQMWEWMSESMBdg8+NQNWNSB%e8r3Q3W3SB!h:TEQNQEWNWESNSEM!hB]VQ;,lQlWlSB(DcR,,",
    "%&8CQ8CW8CS8CBg9wNQEWNWESNSEB8?,,%&mQ3QmW3WmS3SmB8$!b9tk%iB$c;]PTmQmWmSm9V3Q3W3Sm$h3Q3W3Sm!R3Q3W3SB]V9b8+iQiWi",
    "SB=gr!XmWmT3TmQmSi9ClWlTmTlQlSi*_lWlTmTlQlSix*_mWmT3TmQmSid!XmWmT3TmQmSl9~mWmT3TmQmSi%ClWlTmTlQlSli$olWlTmTlQl",
    "Sik!XmWmT3TmQmSl!_mWmT3TmQmSmi$DlWlTmTlQlSi!0lWlTmTlQlSi$vlWlTmTlQlSi(xB]V9b(xB=g%~lTmTlQB]V9b$.B=g8sl(xmWmT3T",
    "mQmSi!SlWlTmTlQlSic!SmWmT3TmQmSig!XmWmT3TmQmSidg!X3W3T6T3Q3SmUmWmT3TmQmSi,JlWlTmTlQlSli?98dic,JmWmT3TmQmSi&OlW",
    "lTmTlQlSl!XmWmT3TmQmSmid&OmWmT3TmQmSiq!XmWmT3TmQmSi+]&O3W3T6T3Q3SM9w8OB$JB$wQB9QQMb&*IQNWIWNSISB(DcR,,8?9VT7Q",
    "8bQ7W8bW7S8bS3$j8?B$c;]$~A+g(a+38%L:>,)]WK!S!]K8J&3bK8j!oKb/aKU*gK8Z9gK=i$hK%z$ZDT9gdK!082K=jdK!h(>(:K/=&SK9C",
    "!]KS!ohKW&/K9fK(>*;.lK]X*;.lKT!2Y.lK9AKUQ$Z(>&/KQ<QKT9c%Bq<RgK8/]WL9/:U8%L9v9/:U8%A9Cb<F/D!e9/W+T9/P8JK8HKU9C",
    "&r9fPUKy8ADK8KKd!X+fS&r8?9f8_^OK(9K?8U&rSKW8_WK%.!BDT,OK&L]Y>x1W^6WK^71W^6WKWDTDbK8EQ/S8A/Y8rQ%*8AKk8)8lK=PK8N",
    "9|$6KrK&iK9Ko$X=Y%k&|D9JK*_b%~$~y&/$~KYr8G&rxCTr$4xK&L]Y>x1Yr?!xK^71Yr?!xKb8)8:&r)Uc.u%S$5K^718l%S$5K![,n1bKQ",
    "8j&rQ8_Q^6QKTK?,9[8UK,PK&L]Y>x1%?!VK^71%?SKQ8M&rT<[K9%d,%8/9A)tXK8<&*&rT%Ex0K$I!w9<9sDQ9K$4&L]Y>x)0%E9sD)?>v|j",
    "%P)0%E9sKqK8dK!K8M&rd9gP(<8APdK^71(<8APdKcKo8y>o9e,)9Aq%i8U+~9[oK^7]Y8U+~9[oK![,n|:K$g|:K$M8M&rT+TTK8c9&&r$Q$p",
    "K&L]Y>x1h!c8A$pK^71h!c8A$pK^88N&r:V!e9<>kPgK![,n1gK8.8M8dFK8Z8a&rc!V$=cKW?n9[T%&$4WK&3KQ9AKq9V9A8?D8<qDT8<qKR",
    "%KK&L]Y>x1y8AK^71y8AKQ>p!P$k1y8AK8RK0LR<S&yL=kP&yL_,&yL9J^8r8fLd!bh!c9f8fL=Mrd)?8fL8ikK88K9oK]ZbkR:WRk.w%ni!]i",
    "$Mi%.lT,OA_.S|k$yCQCUC8NC8aC9QC8TC8ZC8lC8LC8eC8cC8PC8EC8GC8MC8jCY4>yBU4.pKX9c%S>z48i,o8EAY$H9o$yCQCUC8NC8aC9QC",
    "8TC8ZC8lC8LC8eC8cC8PC8EC8GC8MC8jCY4>yBU4!AX9c%S>zA(N.5X,/^9&yt8q&yA$Gx(d$yKQKUK8NK8aK9QK8TK8ZK8lK8LK8eK8cK8PK",
    "8EK8GK8MK8jKYL>yHUA_.,M8M$yFQFUF8NF8aF9QF8TF8ZF8lF8LF8eF8cF8PF8GF8MF8jj>yMUA(Rh$O+eDYDWD9lKb!;K8;DYDWD9lKb!9K",
    "8ZKd&5K!1Kd,&Kb!/K8TDYDWD9lK!/K8eK+/DWD9lK$?K!9K8&K9<K$NK9BD$IDSKYK8GK$wL^!c>0;I$w8RZSOQZQOUZkZUi8HG!^ZyG%,ZyG",
    "8RTO8$OW$X(<X!J8W78QO8)L;I82+l>0S8RNSV!A8pHQJQHyJyHUJUJSH!:H8PH%yHTH!VJQH9oH8)L!A!q8N^vt8r!,h%)ty(b^$(>;S9~th",
    "(b!7k)W9et%o!]$Yto&V(Bt8&<Dt9n<Ek9w83t8N8N<Dt!,R8ZtR9c!9$//;9Wt!b9d9ct%z&ito]I;$83tk%Bt)KQ]Q/;tq9c$Dq&v(z$6(bx",
    "t9S$/;Rto,By8<t$W8l&~,x9etk9o!09TL.T%9,g/T^%gL!A|lk8EY8j9WVd&5.vL9pV8WV8QK8kV8YK8mV80K8uV81V8zL*,9S$/]G$/~ZI]a",
    "yIX(zIo%xGU8~IX+%i1]aylX(zlo%xmU8~A$R?h97.68az^wz$sz$Jz)gz9]&[z9n/SR[7.Sz!7!H=W%N;K^&8%8yz$Qq!X+dH$Jz!q9C$oz8J",
    "|m/b]bR<T)X$38W8b8Q8X8kz|;**z8J|m/b]bR<T)X$38Yz9pF8WF8QH8kF8YH8mF80H8uF81F8zz(UHTHQHWHUH!:H9yH8gH8lH9qH8eH8LH",
    "$wH8aH8cH8GH8jJYH8TH8ZH$FH8sH8PH8EH8MH9xH8NJYH!*H9iH)uH8d8EHgYH$0QH$uH9n/S9?|;8ONTNQNWNUN!:N9yN9qN8eN8LN$wN8aN",
    "8cN8TN8ZN$FN8sN!*N8PN8MN8NNr8pN)uN$.SNb%JN<JH!7o!JTNQIyN9yIN9qN8NN8aNYN8LN9BN8TN8ZN8sN9xNr8pN)uN!*N9iN8ESN$FN",
    "*AH$Q8>!eQG8NG8EG9xG*AH8>*6=FH*Br*B%bP8WZ$^P8WZ|bS9CZU)1S8cZ$BU)1S8cZ_/U8ZZ9)_/U8ZZSZQZ8NZ9QZ8;Z!dlYZ!LZ9&Z8TZ",
    "8ZZ8LiYZ*jZ*AiSZ!,H9n/S*Br*B8T6*AH$Q8>!e*Br*B/>79Q78;78UY7!d7c*;78T7*;7*j7q8P7*A8bSH*Br*B%wU68PH$Q8>!e*Br*BoYH",
    "*Br*B8Z?.8aH$Q8>!e*Br*BgYA.v!c97R~W$k8_WyB$UM$UB?/B!OyM$UM$nyBd$UBk$UM?/Bh$UB!/yM$UB]cB$IyM$UM9lyE$UE$nyB!9yM",
    "$UB8EyBb!wBW$.o<Ub!wBb*^BW$.o<Ub*^Bb$nBW$.o<Ub$nBb(DBW$.o<Ub(DB8A9VTEQNQEWNWESBW$.o<UXidikiqihibiRlxB_*+b$~B_)",
    "+b$~B*$+m!)O*8![B8A,,8A9VB=h9o38pB8?9VNSM8?9VN9oN8pMgx9VN9oB]VQ;[9Vl9oZ*pB=gr*_i8v$h&|8gir8pl8MB]V9b(xUB=g8U8M",
    "Bo(>$$Pc8x!Jg68AB=g,l90RA9t)k!e|;1=g:>L+eDYK8aDYK9QK8;DYK8sDYK)wK8TDYK8ZDYK8lK8LDYK8eDYK8cK8PK8EK8GK8MK9BD8jDS",
    "KYKr)wK(VL?5HQHUH8gH8$H9oH8)HTHWL%1_:8i8PI8EI8Me_3+eB9QB%bB8TB8lB8LB8cB8EB8Ge_(,xk$W%9rtk!W$W%9rt8j1Qtg9oL*4L",
    "(8L9pV8WV8QK8kV8YK8mV80K8uV81V8zA^(%F+eD([D9QD!*D8jD8PD8TCYD8GD8LCYD8cD9xD89DYD$wD$[Dd9BD8lDSDQD8gCxDUD9oCD9yD",
    "TDS9yCQD$<$qBfBnBpBsA>1P^(!S!J8i9h$wB9P$wB9h8NG([G9QB9P8NI([I9QB9h!*G8jG8PB9P!*I8jI8PB9h8TOYG8lB9P8TGYI8lB9h8L",
    "OYG8cB9P8LGYI8cB9h9xG89G8GB9P9xI89I8GB9hYG8ZG8eB9PYI8ZI8eB9hk89G089B9Pk89I089B9hR?7B9PR?7V%M;I._8x8yI8pI(zIUGU",
    "ITI!VIWGSI9yI$UG$UIUyIWyG$UIU,BIQyV8i$j8HO!hZOhOkOcOoV<,%4NaV9pJ8WJ8QB8kJ8YB8mJ80B8uJ81J8zV&5!v.2V!Ag!VM8HA(R",
    "(m/TX]I;$83K]a!N:XK9L9b:XK!H9b:XDU!s:XKX+%P:XH1]a!N:XJ9L9b:XJ!H9b:XBU!s:XK8Z&p:XF1]a!N:XH9L9b:XH!H9b:XJU!s:XHX",
    "+%P:XKd?:y9>83K]a!N*|K9L9b*|K!H9b*|DU!s*|KX+%P*|H1]a!N*|J9L9b*|J!H9b*|BU!s*|K8Z&p*|F1]a!N*|H9L9b*|H!H9b*|JU!s",
    "*|HX+%P*|A$Gr82/c+eF8aF9QJ8NF8LF8eF8cH8LF8TF8ZF8lH8EF8;F8sF9WJ8;F8PF8EF8GF89F8jFSFYj>yMUMTMWM!Vj8L%L8Mj)P|8A^(",
    "&5!v8i9h8NNYN([F9P8NE([EYF9QF9h8;NYF&1:WM8jM$FF9WF,FSF9h,FYF8ZF9P,FYF>2F9h8TNYF9P8TEYF8lF8eF9h8LNYE9xF9P8LM9xM",
    "+/F8cF9P8PF9h8PF8EH9yF8GH9yF8MF9h9BN8jNSEYF%LFSF9PYFQHQFUHUF8gF9oFg!VF|,d+|j.y]U8E68GGg!jd:+g8$j!A;Mk:+g8$j.y",
    "$j9QG9P8LG9h,FYP$39P8LG8cG8eG8jj!A_%9Mj?5M;MR83M8pMd?!8pMQEQM9yE9yEEUMWES8oEyMTM!VM9oM8$M&5!v8$MWS8wj!A;Mk9qD",
    "&T,LBaDk!X$|$<1fOnOpD*lY9cD;MR9cD(R9y:E!S!J8N+nj%Iq]d=l![j9l*l9pM8WM8QE8kM8YE8mM80E8uM81M8zj&5!v9pM8WM8QE8kM8Y",
    "E8mM80E8uM81M8zj!A!w9qB$xkD8j8MbD!R*qD9lyDc*%h8$D9v(]>2D;My9c*%D8N9eJk(bDR838N9eEk(bD?6D8;9qA%I~V=Q+2;!t%J8y|W",
    "1!)z82<Q.bz?;z(w![z0108oz8K<L)Y+Vz$g8%8oz8q$g8%8oz!3=P%/<.!+)M8ozR%/.x=P%/<.!+)M8oz_;R9;8wz8q_;R9;8wz_;R9;8oN",
    ")=z+S8K8om9Z8K8ot[5<V!p8^z/2!p84z:98oP8^z/28oP84z.Y%;R8wz?L8wz$B8q[:x8wz+R8wz8q+R8wi%mz(w>Dz+S,:r858A85dA8e$P",
    "8n*:%a!e(L!WJq^sD$Aq&~DR9f9qD~a!,j(Uk+[E>3FQk+[E>3F%)+[E>3F*l8r8LI>3Fg!j_<SG>3F&~+[F8$k+[F*%+[E>3F8NJ$i;T>2F8a",
    "J&|+;F9QF8;JP8G8;F8sJP?,SF9WF*f|XQkBh9f8Z$i;T>2F8Z]eP?3>2O8c;T>2F>i+%<DF8TJP,7SF8ZJ$i%3F8lF8LJP8N+ZF8eJP!R)k9q",
    "F8cF8PF8EF8GF8MF8j+|8aE8LJFYj!A8r8r>oj|;8O>3MU!SI+|9dM&O!_GP!o9TM*l8r8Li>3Mg!j_<Sl>3Md8<8.ZP8r8Li,n&Di8r8L>3M",
    "8/>4O>3jS8vr!B8vrj8i,z^)Hx9M^)Fd8d9g^)F/<^)F9a^)F9ig^)F9>$v8E^)H8A$F!68U9Wj9pC8WC8QF8kC8YF8mC80F8uC81C8zjX^*t",
    "8c8Zj:YUj(AQk&v9c&Dk!,C!7%RCX,Q%9j8L$>&ij;D)v/Tc,(O&iO&DO9ql+i+nrO8.OS&iO~9OS8.Zb$=9K8vG%I9Er$M8b8xc(^8bk!WX%a",
    "8t9t8b!i!;.08bk!W%C:*!i!;.08tg|U!i!;.08b:?8v8br,(G:[.7%j%3r.O!$8X%$d%)+Q$tG;>.7%j^+(l&D8b%$X:M+Q%)8b%j=mj]f<Kg",
    "&V9qt8c;Hg&V9qAR;K9e/c!A]f&xq&~Jr]c9JB!w=Rz(UHQHUH!VHWHTJUH8NH$wH8aH9QH8;H8sH9iH9WH8TH8ZH8lH8LH9xH89H8eH8cH8PH",
    "8EH8GH8MH8jH([HYz.yX9c8.^$i9Wk8EmQ!_z%M^+!X!SG$v!_G!V8G&iGW&LI9H>4I$h%a~9z!AX9c8p$MC:Lz.y8L/;.0$i8b8Mz8i$[HR8P",
    "z9pF8WF8QH8kF8YH8mF80H8uF81F8zz/Qz8i8rUHg$bHoYH$jkIhA8e|c$yK?<!BKYK?<PYKh<E!o8,YK8eK.sW?4K8LK?<P8LK8lKh<E!o8.",
    ".uK8MK?<P8MKX$t8L$/8MK8aK?<P8aK8sK8ZK8EK?<P8EK8cK?<$iD!!.8bP8TK^c.8bP8TK8jDQ/G&D9|+|Kh<E!o=bSK8PK?<P8PK9QK8GK",
    "?<P8GK9WK8;Kb8ZK,IKQKUL!Ad9*9LL%MTHX$t8L$/TH8gHQH.s$XQHWH.s$XWHUJP%l?<+|L.y!hExL^+W|Xj8~&W9eL*,++c!e>i+<&~B;S",
    "9Jo+;RB(xc%aB^+W|XAg(^$FP+eC8GCYD8aC8GD9QD8;CYD8sD9WD8TCYD8ZD8lD8LC8GCYD9xC8GD8eC8GD8cC8GD!*FYD<JD8PD8ED8GDYC",
    "8GD89D8jCYD8MDSe%1_:8i8PG8Ee&AJQJWBWJUBUJTe.ykNhNgNbNXN8ANdN)T:E!1Nk9qe!A+nV;Je&yP8T18&gB)U.w8?]Q!v8T18&gB;U1",
    "8MB&N(%P;U18MOe9pK8WK8QD8kK8YD8mK80D8uK81K8ze8i!dFYD!LAW$4$u^,9pC8WC8QF8kC8YF8mC80F8uC81C8zj8i8GF83HrH!hHgFg8p",
    "FS$tJ8UJhJ8KF9tF!]HxH)UH8AF!SFUqHcH&/HyF9SF(^H.qHbH8A8AF9<FW+]HoH8HHxjh!ed9~!Lrj8a!,8G!jd9~!L!$j!018a!,8G!jd9~",
    "!L!$j8rg8pj+/+~8pjSYcj&y,x8;!cE9+,x8;!cA>U!65?q9aN&L1);r8=8vNb.9WN!w^.9;Nd?!9EI8k1);r8=9EI?!$L)hi^ZN9|o,R&2%)A",
    "9K9Ar97h8T8H9Cg9b%>b7,M7.07c8~78x7!bb7<C7%K7827>o7*G7$Q7b9J78~7&t78d$L78ET7/;7)V79|7X$L7k$L7r%B78R9J7(.7$ub8b",
    "9e7$.g7?$8b$L709e78U%B7YT8bT8b%y79V7$L8b!:7!<7%%7T9t!<79Z.07(;8b8x7$L)h78G$&>QAR;K9e/c&yP++%3+i!^Sl^+&Lm9f8l8c",
    "lq$t8Elg$b9s)n9Ql]PR)n9Ql;HR)n9Ql8e9s)n9QA?x(s.s88(vt88+[tX%9$[L!A!qx88~!St8P8U9f?xh(d$P?=L(s8P8U9f?x!$*b8H/V",
    "^!,l?=N^!,l?=Nk]I]P^!,l?=tq^s8ot8P8U9f?xk]I]P^!,l?=?>x8&T%:t9+?=t>5?=tk]I]P9e]Kt$)t=JV$V&[8ot9dr?xk!Ih9g9b^!,l",
    "?=t83$L89?x^!,l?=L!A$^?=B]Kt9v$^P]Kt$^P9e]Kt9v$^P9e]Kt$^P]K)mB9e]K)mt%bP9e)V!;!0$[M8e*o!;!0$[M898c!;!0$[6)mt!K",
    "!^$tt8+)>:P9?%bt9?%bt8A8?:+9?%bt%bP&PYy)W,x$[V8A*;$^t(]+oY$^L(sq^s8wL!A$.x89^t*mtU8L.l$Q*mtS!Kk=cL(s/7t8q/7L!A",
    "8q%bP9e)V!;!0$[A)H&;SlTL59Z!VL&;[*oiqici(9lL59Z/%ZQL&;8Uikig9Yihi9vbiWlX$|WL%[*H]JWmX$|Wm9YB9Z!:L&;!!L5&_%wWB",
    "*k%wWL&;Xi9v8Ai9Z8AliUL%[*H]JUl]gT(E&>8=Ul9ZhL&;8Hi8Ki8diT$0K/+8=.R%%9K8</X9g&VK(;A/,&;(ti:;i9Li(Pi(uA>U!6&;!G",
    "A,m;VOTGoO9J(OoGcGTG9vTGrGxGQG8UGkGgGhGbG9vbGWOUGXG8AGdGUG8KF,SN9ZSN&KN9Z!VNoNcNTNR>FN/%N9Z/%NrN9ZQNkNhN&iNWIX",
    "$|WN&_%wWN*k%wWNXNdNUNR*H]JUN9ZhN8HN(;N*!N/,(tN,iN/,(NN$uA??*r&q5Qm8AmUm8HA/,%1&q5*!m(tm(Pm(Nm$uA+S9yBo8D,jB%^",
    ",jB8J8D,jB|<,jB+7,jBX8D,jB&:,jZ+&(%8V,jBR8D,jB&n,jB8d8D,jB9ZrA,m>U!68xA+S,:rB8?+p%ok(98&U&oV/$*XV8i(r9YBX9YV&k",
    "*XV8i($9YBo)LBc)LB8J)LBr)LBk)LBg)LBh)LBb)LBX)LB8A)LBR)LB(!)LB8H)LB0)LB8d)LBS&mMg+/&mBc9^8V%uBT&mB/%&mB9v/%&mBR",
    ">F&mBQ&mB%jW&mB(!&mBU&mBT$0&mA[,?W9Z&KNqI8D)<N(9N9v/%N8JN;(8U9YN&qrN9ZxNQ9YIW8TN9:Q69YN8U8D[+Ng&mm+Z)ng%YN9:gN",
    "h9^N9Z|<9?);N+78^%Ym[)N9:bN[*WN(NNR9^N(!Nd)LNU&HI(u>LN9:UN8H9^N9Z8HN8dI&mm)<NT$0N;=A%I%(:$H>DzR8l!R8ot9.&],C8%",
    "z!E1!Cz!(1!Ez!E1!(z!C1!Ez!(1!C1!(z!C1!(1!Cz)H<&8oz&J1!Ez!E1&Jz8q+28wz/88wz^Wr8oz!]8oz9f8wtR8wz+S:Z!f8=%jS8wm!V",
    "3W38Hm?Z[9m,:cm(9mrF&;rF(pmgF&;g85hF5bF&;b858AF<&P^/;KSmRm9?Rm8dm&Kmo3(*mR>Fm8Jmg+*,jm?R!3=P%/<.!+)MmXm(!m:(!3",
    "=P%/<.!+)Mm8Km*6!Qm?R!Qm:(!Qz<*8wz8N;W8N!p84I8^z)jP8^z!w^.$B;/c9K8oz$)P8^t<T*[8%t~b.W8oz/.8oz8h&s8wz8S&s8V96&s",
    "8oA)H*W!)8oL*7!)8oL?U!UL[%!UL?U$lL[%$lL?U8D+VL[%8D+VL,h+68V!CL/9+68V!CL8Bc!UL5c!UL8Bc$lL5c$lL8B%^+VL5%^+VL8Bc",
    "+6L5c+6L8B%^=nL5%^=nL*Y?[!(L):?[!(L*Y?[!CL):?[!CL*Y=nL):=nL*Y^VL):^VL*Y[98V&JL):[98V&JL8B8J!UL58J!UL/!8D!EL?T",
    "8D!EL8Bx!UL5x!UL8Bx$lL5x$lL8B.X!QL5.X!QL8Bx+6L5x+6L8B.X&J8oL5.X&J8oL/$^VL;&^VL/$/*!CL;&/*!CL&.)JL(p)JL&.$lL(p",
    "$lL&.8D+VL(p8D+VL;)$)L:)$)L;)$)8V!EL:)$)8V!EL;)+VL:)+VL;)=nL:)=nL8Bh)JL5h)JL8Bh!UL5h!UL8Bh$lL5h$lL8Bb!UL>E)jL",
    "8Bb$lL>E$)L8B+7+VL>E+VL8B+7=nL>E=nL%t^Q!CL%!^Q!CL%t^Q!QL%!^Q!QL%t?[!(L%!?[!(L%t?[!CL%!?[!CL>G)JL[&)JL>G!UL[&!U",
    "L8B8A!UL<&!UL8B8A$lL<&$lL8B8A$l8V!EL<&$l8V!EL8B&:+VL5&:+VL&j!UL%[!UL&j$lL%[$lL&j)J=IL%[)J=IL&j&,=IL%[&,=IL&j$l",
    "=IL%[$l=IL8Bd!UL5d!UL8Bd$lL5d$lL8B&n+VL5&n+VL8B&n=nL5&n=nL&k!Q8oL&l!Q8oL&k^VL&l^VL&k=nL&l=nL&k^Q!CL&l^Q!CL&k?[",
    "!QL&l?[!QL8B=o!&L5=o!&L8B8H$lL58H$lL8B8K8D!(L58K8D!(L8B8K)JL58K)JL8B8K8D!QL58K8D!QL8B8K!UL58K!UL8B8K$lL58K$lL",
    "8B0!UL50!UL8B08D!QL508D!QL8By!UL5y!UL.[+8L.?+8L.[$lL.?$lL.[8D+VL.?8D+VB.X+VB&n!QB8K8D/7B.U/7B*68S>NB9?R!U8C%J",
    "&W8<)M69h*XL&j$LX9sL5,iL%>$lL+!$lL*W()L*7()L*W&9!CL*7&9!CL*W&9!(L*7&9!(L*W&9()L*7&9()L*W&9!&L*7&9!&L*W&9$)L*7",
    "&9$)L*W?]!CL*7?]!CL*W?]!(L*7?]!(L*W?]()L*7?]()L*W?]!&L*7?]!&L*W?]$)L*7?]$)L*Y$)L):$)L*Y()L):()L*Y!&L):!&L*Y&9",
    "!CL):&9!CL*Y&9!(L):&9!(L*Y&9()L):&9()L*Y&9!&L):&9!&L*Y&9$)L):&9$)L/$()L;&()L/$$)L;&$)L%t$)L%!$)L%t()L%!()L%t&9",
    "!CL%!&9!CL%t&9!(L%!&9!(L%t&9()L%!&9()L%t&9!&L%!&9!&L%t&9$)L%!&9$)L%t*~!CL%!*~!CL%t*~!(L%!*~!(L%t*~()L%!*~()L%t",
    "*~!&L%!*~!&L%t*~$)L%!*~$)L&k$)L&l$)L&k()L&l()L&k*~!CL&l*~!CL&k*~!(L&l*~!(L&k*~()L&l*~()L&k*~!&L&l*~!&L&k*~$)L",
    "&l*~$)L8B.U!(L5.U!(L8By$lL5y$lL8B.U()L5.U()L8B.U!&L5.U!&L8B>619Vg>H$ZL5>619Vg>H$ZL8B>619Vg>H8HL5>619Vg>H8HL8B",
    ".U+9L5.U+9A/,5&K+q3)q3+r3+s3,T3,U3:a3:bL8B&K+q8C)q8C+r8C+s8C,T8C,U8C:a8C:bL5(++q8C)q8C+r8C+s8C,T8C,UL8B(++q8b",
    ")q8b+r8b+s8b,T8b,UL5(*+ql)ql+rl+sl,Tl,Ul:al:bL8B(*+q3)q3+r3+s3,T3,U3:a3:bL5(r+qm)qm+rm+sm,Tm,Um:am:bL8B(r+q6)q",
    "6+r6+s6,T6,U6:a6:bL5,p+q8C)q8C+r8C+s8C,T8C,UL8B,p+q8b)q8b+r8b+s8b,T8b,UL5($+q8C)q8C+r8C+s8C,T8C,U8C:a8C:bL8B($",
    "8D)q!Y8V/b95)295;;L5%H+q3)q3+r3+s3,T3,U3:a3:bL8B%H+q8C)q8C+r8C+s8C,T8C,U8C:a8C:bL5&K<W3)2B(+<W8C)2M8T<Wl)2B(r",
    "<Wm)2B,p<W8C)2B($<W8C)2B%H<W3)2B&K+q%<3)q%<3+r%<3+s%<3,T%<3,U%<3:a%<3:b%<L8B&K+q)38C)q)38C+r)38C+s)38C,T)38C,U",
    ")38C:a)38C:b)3L5(*+q%<l)q%<l+r%<l+s%<l,T%<l,U%<l:a%<l:b%<L8B(*+q)33)q)33+r)33+s)33,T)33,U)33:a)33:b)3L5%H+q%<3",
    ")q%<3+r%<3+s%<3,T%<3,U%<3:a%<3:b%<L8B%H+q)38C)q)38C+r)38C+s)38C,T)38C,U)38C:a)38C:b)3L5&K8D8H,;y3!E3/b%<3y!O9K",
    "+W$>Q3)2%<3;;.O%<L8B&K8D8H,;y8C!E8C/b8C)28C%TR9K+W$>QL!u$1!]L%TR9K+W$>Qe!79teT+fX|e!qL^Y;;L5(*<W%<ly!O9K+W$>Ql",
    ")2%<l;;!Y%<L8B(+<W8b)2N8T<W3)23%TR9K+W$>QL+rF)2F;;L5::*68H,;ym!Em^Y/b+Q)2m;;m^Y;;L8B::*68H,;y6!E6/b6)2L+sF)2F",
    ";;L5($8D8H,;y8C!E8C^Y/b;5)2B(P+ql)qB($8D;;8C^Y;;L8B($8D8H,;y8b!E8b/b8b)2E(P8D)qL^Y/bM)2L/bL5%H<W%<3y!O9K+W$>Q3",
    ")2%<3;;.O%<L8B,p<W8b)2IT8a<W8C)28C%TR9K+W$>QL)2L)qA$|]h8I!v]h8Ib+38Ih+3A?y19%1!W+3A8Y19%1!W+3A8019%1!W+3A!<r,<",
    "+3A&y+3A8?82+3AY9g+3A/HP=p8?+3t!/:E?et?eA;>]i848%A:[]i8^8%A.SA!/:E)IS,=.SA!<r~c)4A$|)48I!v)4A>7A8q/3e>CA8^^9&h",
    "A84^9&hAR<S&11,>&hex=L1^Pc1,>&hA8h8q&hA]j&hA8q&11,>&hex=L1^Pc1,>&h8I!$,P8I~bc!$,PA;XA*Z;XA9!/Og(>%:A9F/Og(>%:A",
    "$7^w8Iy$W8x(S;?A$P**A]B$W**A;>]i8S!W!H.q8.A:[]i8h!W!H.q8.A!O&p8:8r,690&XS+]8.A;>]i84=q8A*HA:[]i8^=q8A*HAb.9!/1",
    ")I$t+3AX$O(,9S8O8F>a8O8I9d9HA8q>MA(w>MA9v>Mj8q>Mj(w>MA(A8|AR<S+5*V&he)i*V&hA8A/<8y=r8%A8q*4A*F8&o9qA^UA,?+,A:N",
    "&M+,8I9J.w|n8y]b;?AS:%+fhA.SP;XA?QR:cA8^&)8D$%Q$ZA84&)8D$%Q$ZA8q(8A,8R]b*4A~Y(S(8A!K$1,**:8|A9vX!oq^N8OA8(9j;X",
    "L9O;XA9P(JA9v?MA?^*I9NA9F(J8_8<_(8=&z%,A(K(m)G90[8A+$&DP)4A$B,?+,A8J&u&y8%A9)?mA>8%F>MA9]?m8I$d?mA9F?mA9]![8%A",
    "%(;+A%o)gA!|9]&[A$S$i%&+cQ)v+3A:D?eA%kb~d$Y|=!+A82_=Qo%F^:z?_z/5A;>]i8S_>$CA:[]i8h_>$CA?|!F9s%/.x_>$CA!O&p8:8r",
    ",690_>$CA829w<B9s^x+<(LP+$$Y=mA%.!K8H.~R^x+<(LP+$$Y=mA829wo;G:_P&X=V=mA%.!K8H.~:_P&X=V=mAb!+90]ER;T9;8I9*[6]ER",
    ";T9;A<%/HV+SQV8YK8mV80K8uV81V8zV+RV:!V&(V:9V/2V+Sb9,o&q/Hz8Wz8Qt8kz8Yt8mz80t8uz81z8zz+Rz:!z&(z:9z/2A??*r&q+!mT",
    "mWm0mR>FmxmkmgmhmbmXmRmdA$b8&1.T%9,g8OA)g8O8I9C$EQ8&8OA8J%9<]]Zbq8OA9t8E8OA(,g8OAb8$8E8OAX9;(*8OA9C(Y8OA$nb8OA",
    ">1;,8R!G8OAc,(8OA$b8&8OA%RX8OA^;9dk8OAc,;8c8OA,Ph9[&])U8OA8/$I8OA$o+[!q8OAS9.%/>QAx!^8Hb%J8OA$A8:8OA9t8H~$d)5",
    "!/Q)pA>9R(,W8OA!f9K8OA]L9[9C(Y8OA,Dk[_9t8E8OA^cc$k8%8OA$Q838OA9C,.8OA.RQ8OA<B%z828OAR9*8OA%I8h!l8wz8S!l8wz9?/3",
    "P)=z$2/3P)=z.!;Yz<X;Yz8h;Yz8S;YVb$=)=z<X(_)=z.!(_)=z,3z9]=Dz8x<M8.!rM.YM&YM&B?~:cz.|;Yz8x<M=b|>bM)6/dM9N8K|o%2",
    "9mz?NP)=z<YP)=z9e$D.b8fz(w,?![z!w^.;/c9K8wz&ZP)=t.x9+|Y)=z9O!lP99!m*+z9j!lP99!m*+DP9G8oz8S9G8oz(J8wAS;F+4>!8I",
    ".q(E>K*E%&*r!i)XA>$9:q8ITr|m>p!79.A|pP$P8f8IS~$*e9,;HU8lA$b]k]l!F&VA,O9C/ZA8vr|m9xx%9+(dA&q87re9:xA$c18i9:xA>$",
    "9:xAX.o%p]l!F&VC9U9F9LA&q9:QA$c18i9:QA&q9:ge87gAg%i&H8fA>$9:bA/:W8OAR^q8r:d*h/4y848Iq~e!89:XA>$9:XN8RA&q9:8AA",
    "$c18i9:8AA>$9:8AA;P~f]b|cTA(EX8~8nAR8y!b$A8%A=s8W8O8I8E8v8%8OA$$R$k9SA>$9:8dA+4$A8O8Ixh8OA$B<[h8OA$c18i9:8dA9Z",
    "/,5(rAk!G!bb8OA9q!F[A8OA&q9:oA$c18i9:qAT*>h/V~XA&q87Te9:TC8JA9Z9:8JA&q9:he87WA$]8fAo8|8fA.e8fA~T8fA82&X(SR)5$A",
    "A(]9:8RA,w)7Q9S8OA>$879LM(tD9:(tN9LD:E=t>sh!+A9Z*s9:rZgA9v*s9:gA9Z*s9:yA>$>%9:cE87ciTiQi8UA%T9%<Z$PA9Z^L!PA9%",
    "8OA$t+,R!GRk!2A9Z878JA*,(y+|/EQ%K9s)5$AA/6gr%?]NR8u8?M|q8?M!f8?E*ocF^<RF9!?08?F9F?0:IH$V?0:IF9]?0:IF8W<(8?F,k",
    "<(:IF9!]MF9)]MRF)|]MRFR%Q]MRA?Q/:^rP8WA[A9[/:908WD8QC8kD8YC8mD80C8uD81D8zD!fD<aD:eD=uD(ZD)|91D9!9=A87[A9[/:90",
    "8WM8QE8kM8YE8mM80E8uM81M8zM!fM<aM:eM=uM(ZM)|91M9!9=A[A9[/:909!9=P?ZcD)|9=D>aD9v(ZA+S9vqA[A9[/:90%Ug.~&XD=uP&3",
    ")Y&XM9=D9!<?A/6gr%??Q/HP^=RA9Z]E8QD8kA&ZA?dA9_A?;A.|9GA9k969GA*t9GL/e9GA=vL*u9GA&Z9YA9_9YA9j<b9GA9O<b9GA9j9F&0",
    "=wA!g9F&0=wA9O9F&0=wA!n9F&0=wA&Z)mA9_)mA9j:fA!g:fA9O:fA!n:fA9k96!x8e8nA&Z9^A9_9^A=x+9A;Z+9A.|<b9Gt9G9YA!n^W$=",
    "9GA>&<c.$I=yA<d<c.$O=yA;Z^>P*+A<d^>P.$A.!&_^?;:*vA<X&_^?;:*vA*t.9*E&L&HA&ZP*w9U9_P*wA.!$g<e*vA<X$g<e*vA9j!lP99",
    "!m/Jl*+A!g!lP99!m=yZ.$A9O!lP99!m/Jm*+A!n!lP99!m=yl.$A9_9U&ZA?dP.$$m?;A&Z9U9_z^[A!g^[A9O^[A!n^[A9j!l9U9O!lA9O!l",
    "9U9j!lA9j,V9Y8FP8S,V9YA9O,V9YA9j,VA!g,VA9O,VA!n,VA.|,VA9k96,VA*t,VL/e,VA.%,VL*u,VA9j(w9GA9O(w9GA9jR$%<L*vA9OR",
    "$%<L*vA>&9+)MA<d9+)MA9j^]A!g^]A9O^]A!n^]A&ZP*wA9_P*wA9j&FA!g&FA9O&FA!n&FA!g9D:fM!s8/.nd8<68D>785+AD,VZP!s8/.nd",
    "8<A9O&FP_?P+BA*t.99n+tA=vP9n+tA9k96&FA8S!x,W!rA?;P.$$m?dA9)9_RA=x+YA;Z+YA.|!x+Y8F>(!x<YA;Z<YA.|!x<Y8F>($g/f9GA",
    "9O$g/f9GA.|$g/f9GA%l+>A(K/Z,[A&t=z]m8y[BA%&~$93!]&NL^^T)>!FA!WX<Z%GA82.t,[Ab!28GA[CA(Q9[[CA87[CA,]8_[D9H=0A^^",
    ",]P[D9H=0A87,]8_[D9H=0A)P%T*eA:E=t:gL%z:gL>sh!+A[89R19A1+RA/O/58IQ[!>)A|?:!A(JP&aA(_&aA;XP&aA+u8&9MAq&P!J8&9MA",
    "8Y)t8&9MA%T[E*[909nA82<Q.bA8S&<A&<A>*U(O&<A%W+l(2&<A;a9;8I!:8_(Q;aTA[F$49nA(Q[F$49nA*=!P49AA.&A:hA,XA8q,XA(w,X",
    "A]n)5P,XAR9f_[,XA<fU>P,XA<X,Xz]n)5P,XA.!]n)5P,XA.8/<*?A!Hq8)8nA,F]XA%T[E*[A/O:!A~g[GA9K|e%/!6%T[E*[A9l$?%&((A",
    "<gA9v!&A$B8G8dy9sAR;b=1A8K8rS)t:gA(Q!&A:!P!&A9>^x|r((^_&!A(Q9>^x|r((^_&!A^|$C)Y&!Do&w(Q%.9~^_&!A$h]W$O^|$C)Yb",
    "$3%.9~^_&!A/.A(Q/.A8<h%n!8+CP(3A(w!&A?!&!A;cAr*n+<(L^_;cA]mT%9/|.(A$Y%TS&=8_*Cg!D98Ar*n+<(L^_&!A^|$C)Y&!P$3*C",
    "_]*eA_][^$3^|$C)Y&!A)gP|sA|s;~A(_!z&!9R&!A:d(EX8~c8_9nAT*>+c9;8I$%Q9q+_9nA/^P|sA,iP&!A&!%i!N8v<Q|[A>*U(O>VA,8R",
    "*[8=&!A:iAQ,l(29nA(QQ,l(29nAR%o)X)Y;cA,^(3A,Y(3A%r9U&!A$!9U&!A,^o&w:iA,Yo&w:iA!0<]%r9R$!A.(A(Q;c8F%r8F$!8IT]W",
    "$O,^b(34,Yb(3A,^$3;cA,Y$3;cA$h]W$O,^b$3;c4,Yb$3;cA,^$3$!A,Y^~A$h]W$O,^b$3$!4,Yb^~A|VRA|]RA[H(3A[I(3A[H$3;cA[I",
    "$3;cA^^|Vj|]A%18n>!9,]CT>!A(QS*r8n>!4]CT>!A%1_A(39,9%_A(3Ab%x.8!B*r_Ab(3V9%_Ab(3A%1_A/(:i9,9%_A/(:iA|t%G4P?S!+",
    "j:hA+u_]*ee9A%P[6*ee_][^(3e9A%P[6[^(3e/d49NA!>/54:!4^:48:[!>)jW!8&a4(_&a4(JP&a4|s4)4A;d/54:!4^:4/O&aA8S>OA8h>O",
    "A<+A<*AS,98y*[A$?+hRA%/9yA(yq9;A(w:K8S_BA8q:K8q8S_B9,T8_(Q%T9aA(Q%/9yA^^(y$AA$hr/V8q:K8q8S_BA[H,?P8r;NA[I,?P8r",
    ";NA_C&p*eA,]8_[D_CXA_CX$m(3A,]8_[D_C&p(3A9A%P[6*eA_]*eA|t>ZA+lh98,*]l(xr$C$i%o0A*F)v$CA09AAb!P8I9AA8S&<8D[:L9m",
    "A:E=t*=!PD9AL.&L:hA_^&a8IW!8&aA/^P&aA8:[!P^:A<h+,A8h^ch90,w&$|&Q]o:gA8S^ch90,w&$|&Q]o:gA8^|&Q]o:gA84|&Q]o:g8IT",
    "$$>K|9|sA|)P*=9AD!PA9+*r%Gj9%%Ge.&e:hAX988>(ykA+C8V[F$49nA%r%+A$!%+A(4!0<]%rz$!A,^&!P$3$!A,Y&!P^~A&!P^~V$!V|VR",
    "V|]RA^^|VP$3+Cj|]P$3+CA(Q+u_][^(3t9A%P[6[^(3A+u_][^$3:ie9A%P[6[^$3:iA,^o&w(Q;cA,Yo&w(Q;cA[Ho&w(Q;cA[Io&w(Q;cA",
    "(Q_C&p*eA^^,]P[D_CXA(Q_CX$m(3A^^,]P[D_C&p$3+CA!|^wAh(d&+$7^wA9k8S,_^wA968S,_^wA[C8D9?+kF:K(&)P+kA87[C8D:K(&)P",
    "+kA[C!UF<iA87[C8D<iA[C8D)ZF9F+kRA,]R8D9?+kD:K(&)P+kA87,]R8D:K(&)P+kA,]R8D<iA87,]R8D<iA&r)/!+?4$=9H=0]pA]g9H!a",
    "8OAT]q%/!69GA)]8nA9k&sA96&sA%T!i)X8m8I8y>9)X8mA?o$PA8h]rA8S]rA8h[JA8S[JA*k8Sq,|e8hq,|A&_8Sq,|8F8hq,|A9v)/8OA+u",
    "<jA[:A8nr,[9,q&$A=s9!8r:d%:A/~P^MA!bT8Kc)n(5A+D.Q$m[]T*J8OA9Z)/8OA8Md8>Ax)5;eA&_8^+t8F84+tA*k8^+te84+tA&_%w,XA",
    "*k%w,XA8J>+AR(,TA9k&sP.(P9F>7RA!%]b)6AT8E*I*E*C84A0P!z!j/_*V)8A)6:jA+5*xA)i*xAT8E*I*E*C8^A:?<C!J!)A,g,5c(L.bA",
    "?!S|^c1%T.iTAR^x+<!^Ad9M909Cb)aA8:$>,CP9A:kbA)R(28T9%A;f8/Aq+4!ao*?e^nkA$Y$4%kb,68</TQ1!H9cNR$%[_]hN__+Ci;aTmS",
    "$Rci%~di*KN&BR<km%~dNR:c&HN?~:c&HN]h>)i?~:ci%ri$!N9j89$hN9O89$hN__&Zi9_N&B?~:cN<+P)ZI!G*fR<kN__96(A8|l!G8TN<+P",
    "%~dN!g89$hN__?dN<*P<iN+h9s<kN__9k(A8|i+hN<*P%~dN!n89$hN__?;G9M!J)ZN,iP)ZI%J$R%*)ZN%~!8)ZN&B)ZN9N/W!J%~dN8R/g!J",
    "]hN*K,~N]h;~N<*P!QN+hP!QN/^P!QN%~!8!QN&B!QN$T/WT9s<kN8^/WT9s<kN|9!QN,Y!QN$s&HN+hP!&N.dg8vN*>%F!&IT$K)gP)ZN__(Q",
    "+Ci,8R*[N96(A.w!&N9k(A.w!&N(rN(PN%HN&KP)ZN(+P)ZN(rP)ZN%HP)ZN&KA(Q;g8%A8S&<8D!n^W$=9GA>T%a8v(O%j)8A=Mg8fA/38D%X",
    "![A|n8y*[8fA]nQ$D<l,?$P8fA/P]nQ$D<l,?$P8fA!W+/^b8fA(K/~8fA.AP99_7/3A8x!a8fA8<+b83$d)68fAx!Gh8fA!>>78D)/8>49mP",
    "$TAo?O8x!r8D^c8?*u9GA;KW8fA$RW*L,.8fAx.)!a|W8fA$g1^uUQ>v)aX&wx1(<8/8fMg1(<8/8fA8L,98m|:</1$T1)aX9T8fK9N1)aX9T",
    "8fA]o.T%9d/T:P8QAR*e|j,Q1%kb,68fA$Y$4%kb,68</T]hA8v)G/G**P)68fA;P!b<l[KAb93!8[KA=S~6R|>b8fA=2&39s|>b8fA:9P(|%Y",
    "H_DH&%%YA/2P(|%YJ_DJ&%%YA8^&)P(|+tM_DM&%+tA84&)P(|+tE_DE&%+tA8h*5P(|%YB%X[LB&%%YA*5P_DA8S*5P(|%YM%X[LM&%%YA,XP",
    "_DA$7&+_DA[M$3<m*5|.L8S$3]s*5|.A>sh(S(qz=3A(q&)A=3&)E9U(q&)A8Ec(2*,=3A8h!|_E$PA8S!|_E$PA&R?>9[,5,LEfEvE2Ac]O!F",
    "!^/T!3=4&_848[*k848C99!rI:l$799!rI.*$799!rI&z8D9mI:l|_=H9mI.*|_=H9mI=4=1I:l|_=H=1I.*|_=H=1I:l&RI.*&RI=4&_8^8[",
    "*k8^A+u;]A8r>X8fAT!i)X8fA/3P_DA9H%/(2&Jj&L9U._j._9U&Lj&L9U9F._Rj9F._R9U&LM|+z+fT9HzT(V8n9Hj=58n9HA<n&||^cA%k8n",
    "A&_<VA*k<VA&_*5A*k*5A&_.BA*k.BA9D(V8/.d9XA:?<C!J(_99!rA/=;9.+A:Z.+A%.;h%9dAT]q%/(2.&A8vq!D9093X8~&C8fA8()i8q9m",
    "L+58q9mL;i8q9mL=68q9mL)i8q9m8D+AL+58q9m8D+AL)i9m+*+AA8<]t%v;jAR(q8Md8>A!K(m%v;jAx)5;e8D8J&1=b!PA8(%f+59mK)i9mK",
    ";i9mK=69mA8q+AA8(+u(y^lL&B%l8r:dcA?z8fLW:EW(W8f48fLR9S(^8fA=7R8y$$P=88fA*,%lb</t/^=K&08.M?ldt)P?ldB+nRh!],CK$%",
    "Q!^tS%p+a.j9Kt=MgVS%p%W.Qt$7=9t&+8J[Nt!|=9t:P8J[Ntq_|S<o8r>Xt88_F)aH82t8Z*f,5$/9;/dTV%0/h]u$48WZ8Qi8kZ8Yt:mS%p",
    "+a.j9KtR%%8>$1<l(d9St)P]vh!],C%5t.v>pt)P$St%1]w?:t9;/dTt.iT**t~%X**t8r:dc**t;k**t%W.Qtc<T9EAo.ok8fA%j)8A*,%l>1",
    "$Pt8v:]!J:P8Qt%1]w?:P:P8QA(B8A%Y8F$F9g8F(yk8F$B(yk8F>J%i.,9S9RW:Q+,9R>xP,M$/Q,l&S$k!+8F9c+4=K;g8F)48F.^9n(m!B",
    ";F+4!8$D=08F8q?~:cA!>.2D8QC8kD8YC8mD80C8uD81D8z4,HC<aC:eF*o%gC8Y%gF&S%gC*<F8u%gC]xC8z%gC;lA_;R&>8=.2M8QE8kM8YE",
    "8mM80E8uM81M8zD,HE<aE:eN*o%gE8Y%gN&S%gE*<N8u%gE]xE8z%gE;lA.2P$JL9F$Je$V$JL9]$Je$d$JL%U$Je%Q$JL$_$JL&I$JA,HP$Je",
    "<aP$Je:eP$J4*o_G$Je8Y_G$J4&S_G$Je*<P$J48u_G$Je]xP$Je8z_G$Je;lP$JA_;R&>8=+SS7o7q7c7T78J7r7x7Q78U7k7g7h7b7W7X78R",
    "78A7R7d7U78H78K707y78dA!>)H%>momqmcmTm8JmrmxmQm8UmkmgmhmbmWmXm8Rm8AmRmdmUm8Hm8Km0mym8dD+!ioiqiciTi8JirixiQi8Ui",
    "kigihibiWiXi8Ri8AiRidiUi8Hi8Ki0iyi8d49pA:m!><_<aG:eO*o%gG8Y%gO&S%gG*<O8u%gG]xG8z%gG;lA8q!>.2E8QN8kE8YN8mE80N8u",
    "E81E8zC,HA:m!>9pA_E<p[Or8_!3&RK8*&RK!3&zK8*&zK!3_H&RK8*_H&RK!3_H&zK8*_H&zK!3>8%F=!&RK8*>8%F=!&RK!3>8%F=!&zK8*",
    ">8%F=!&zK!3:l84K96928V8S$aJ[P92K8*:l84K!3:l8^K96928V8h$aJ[Q92K8*:l8^K!3.*84K9k928V8S$aF[P92K8*.*84K!3.*8^K9k92",
    "8V8h$aF[Q92K8*.*8^K!3=484K!|928V8S$aK9k[P9692K96[P9k92K!|[P92K96928V8S9k$aK9k928V8S96$aK8*=484K!3=48^K!|928V8h",
    "$aK9k[Q9692K96[Q9k92K!|[Q92K96928V8h9k$aK9k928V8h96$aK8*=48^K!3:l&RD[5[P9692K8S[Q9692K96928V$7$aJ$a8V$792K8S92",
    "8V8h96$aK8h928V8S96$aK8*:l&RK!3.*&RD[5[P9k92K8S[Q9k92K9k928V$7$aF$a8V$792K8S928V8h9k$aK8h928V8S9k$aK8*.*&RK!3",
    "=4&RD[5[P!|92K8S[Q!|92K!|928V$7$aK9k$a8V96$792K96$a8V9k$792K!|$a8V$792K8h9k[P9692K8S9k[Q9692K8h96[P9k92K8S96[Q",
    "9k92K96928V9k$7$aK9k928V96$7$aK8S928V8h!|$aK8h928V8S!|$aK8*=4&RK!38q=!&RK8*8q=!&RK!38q=!&zK8*8q=!&zK8q&RM&zC.a",
    "]y8S9+J]z84!.C&P%F:l84C.a]y8h9+J]z8^!.C&P%F:l8^K9N]y8S9+F]z84!.K8q.*84K9N]y8h9+F]z8^!.K8q.*8^K&z]y8S9+N]z84!.K",
    "8q=484K&z]y8h9+N]z8^!.K8q=48^C.a]y$79+J]z&R!.C&P%F:l&RK9N]y$79+F]z&R!.K8q.*&RK&z]y$79+N]z&R!.K8q=4&RK!3[R:l84",
    "8C8^I.*8^384B,_%Z]0&u8^8b||]1l;+B8^B9NB84B$TK8*8^B9NB84B$TK!3>,8*84B.*8*$TK8*>,!384B.*!3$TA%Z%s%5A&u:nz%h%5L9)",
    "=$L%s%5L)|=$L9)%hR%5LR%Q=$A]2%5A8hR%Q=$9R9)%hR%59R)|=$9R%s%59R9)=$9R:&%5j]M%5A/i%5A92:OTA<qAc+~:OTA%Z:nA8S:nA",
    ":oP&u8^C84j%Z8^B8V&u>,]1384G%Z848V&u8^;584C84M8V&u8^8X8V]1A$c(5A.AV8D?q^>RK,]8.:p]3A|~!Z$7;mV!|;mV9A,&&W8<*y,y",
    "<];mV%Z||<m;mJ]0]s;mV.r*y,y<];mA$c]3A%6]3A8(/_&<A9D/_&<A8(!|/_&<A9D!|/_&<A8([Fg=%A9D[Fg=%A8(;i9mA9D;i9mA8(;i87",
    "9mA9D;i879mA8()i9mA9D)i9mA8()i879mA9D)i879mA8()i!O*FA9D)i!O*FA8(=69mA9D=69mA8(=6879mA9D=6879mA8(+59mA9D+59mA8(",
    "+5879mA9D+5879mA8(+5!O*FA9D+5!O*FA8(&YA9D&YKP,]8.:p+m&YA+&=8A<jA+vA%(*KA*K8D!|;mAo</R=88I~&!rA*K8D[SV[TV&u=&V",
    "%Z=&J8S:o:pV?!o&w[M:o:pA[S!rA[T!rA[U;X4+vA%Z%w[U+vA&u%w[U+vA[M:o<e+_[:L8S:o<e+_[:A<m:o<e+_[:L8h:o<e+_[:A%Z%s!r",
    "A&u%s!rA8(<m9mV8h9mL[M9mV8S9mA9D;XA|~!Z[SV[TV[M,_=&V<m,_=&A.A8D!|o=(q*a$PL;i9m%+A;i9m8D[SZ[TA!~!rA.A8D[M:oJ]s",
    ":oG8S:oJ%Z8S:oL*K8D[M:oJ]s:oG8S:oJ%Z8S:oA[M9mL8S9mA]s9mA9D$S(5A8($S(5A9D$S]3A8($S]3A<m9mA$c+i+78E.)A?^%SA9X)I",
    "%LAR+a$QA%z+<A|uA%6,~A92b8.A8?,?R&$hA<rA9>=P*h!/8vA.n=P*h!/8vA)R(xb,6A!%/~A8(=s8WA9D=s8WA<s!8)8z8D;gF0A&?>.A9X",
    ")I$Z*6,rPc,|RAx9M,)$$S9KA%6/Wr9b[LA$c/Wr9b[LAR(a*|kA9v(]&G9A90&bP;XA8(8h..L8S..A9D8h..L9k..L8S..L96..ARk</8V;+",
    "o8WRA8;>/8OA8Ec]XS)X8m8OAo]XY8d9J)hA8;%3$A9.A9e(RA9A,&c>:*yAq]A(P8I~A$m9<,!,/j?,U&?!WA/^8V~BA8J9J!78fAS8:=Vk!K",
    "A(a(m8V!7%p9SA8/.Q8fAy!zy9qA%o+WP%l[V[WV:MTV=)V8?,?V:YKS!aVh[XV<nA[Y$mc$L8c9,98!J8J>+)9L/j9(A8(/j9(A%6+i+78E.)",
    "A?|R!8%hP+EA*G!8%hP+EA(m.TyA9//k8OA<nA/k8OA(xX~hA8j>XA9f~(Ab(^9~$hAX!S9nAS^%RA+X9CRA9K&^QA.v;UAg*nA8H9g!;A9to",
    "8EAR:d9L9.8IS&*!d9d9.A/d(L_~AS~iQ9.A9L,O9;A>;*MV><V;nV;oV:qV=*A>=*MV><V;nV;oV:qV=*LR8L8v+i98A9D&b+i98L&Y+i98A",
    "8(q|v+i98A9DR8L8v+i98A8(&b+i98L&Y+i98A9Dq|v+i98Ax9M/X!)RA%hP$+A_I$+A!H9c8=_I$+Re*<)t$+RA;D?Z:Z8OL8l,D>QLR$LX8O",
    "A*u:A9d%.*yA/e:A9d%.*yA;C$$R90<ty=28.8fA<ty=28./T%l(<X,L&v*G((RZa&v*G((RZf&v*G((RZn&v*G((RZp&v*G((RZs&v*G((RZv",
    "&v*G((RE9K$h(L$i!aQ8<RA8(;C$$R90<ty=28.8fA<tyq=Q8L9%8fA&t!K+>y1<tyq=Q8L9%8f8I8y$Q>08L9%8OA[Y$F9g8fA8:!J,w,Ljaj",
    "fjnjpjsA+v_!84J=FA$c!r8D9D/O84J9F9D&[A$R=%P%ly9qD82A~C!v%l|,&My9qt~)$O~*B9qt|,&M~*A9D<uA8(<uA(a(m8V9L%pA9eq)?A",
    ";+~D<PcRA*L(W$m!V,OU;BQ9.8I8;+wAS9S)k$kA8J&%Ar&3A*L(W$m+lh9;A)Wh8fA|w9f18v1g!]A_J%6,~A9)$PR]l$$r8,84I8^A8K9Jb",
    "8.8OA9h<f_.T8OA~V=Q9//k8O4/k8OA*F;j8=9//k8V/k8OA/k8V9//k8O9R99)M8OH///k8V9//k8OA!|/k9Y8OA$7/k9Y8OA%f+ve$c!re87",
    "+v8I_|S9K8fA~E9A$A8fA9|h_|8=&tdb8y]p8fAq*e<QA%kb8y909fbAb$b!aA$A(EA+Z*GA(x!/A9a*LA$u$1A8(+EPg!o]WAR93<k9,h=(0",
    "<kA$%82q9|0AR9;$%Q]h,FT8IW;F$O+FA8e8n+FA;d)6A9D<pU&od8_$QC*MA8(<pU&od8_$QC*MAR+ah9[99)a9s+a8I9|P;^82c=+%SA,rA",
    "8(R+a$QA8?,?=+%S8V,r8I9fb8=%6/Wr9b[Le$c/Wr9b[LA9D_^82(5A;p.o9;A/P!2=Q(AA|x:r8>9.A9L%pA(A9sg(d8.Ax!G9H&n%6*yA!>",
    ";p.o9;8IY|nA*9&C!^A+G8W1<U8h<U(V(W$kA8(8Q1<U8h<U(V(W$kA9D8Q1<U8h<U(V(W$kA8(8h.o!J(m9KA9D8h.o!J(m9KAc8A$dR&18OA",
    "8*9D=69mA8h%$&C!^A;d&?>.A]4,_!z+vP82:p(5A8(%/.,A*J(L*/8h&C!^%4NaAS!F$19*(2*,%l9f~(A$a!r9Y8V/FA=5+WA:[%B&2*Fg%.",
    "8==5+WA;>%B&2*Fg%.8==5+WA$B=5+WA8(_,!s*.!GcA(.9n;[)xTA8>9f8>8I9>:sAx!]9n(L[Z9EA9K%?99W&wx&PjP&c+wA>Z/T%l92)]8n",
    "8I[XA9X)I%LP!sr|^cA8J[X8I:VP!z<RT8I8y!^A8j!o%N838I~i!J8Y+tR8I%R8yA/hRk$CA]C;q+FAd&CA8U_K/c,Mk8fA&0R(s!(y+o8fA",
    "%k!G&v9XXAq9k]5A9D<u8D&R%c8(R%o8/A$c+|9/(<?>,$9ARA%Zo8G8v?>,$9ARA$c?>,$9ARA&uo8G8v?>,$9ARA%6?>,$9ARL8*;g8%A=s",
    "9!g(B;%8I$Y!Jc8A8mAS9g:tA]68/A*8[ade&cA!bq&$!N&cA8K9d*a&cA<m&]?$A&]?$A%Z8S&]?$A9D!qoA8(!qoA;g8%A8*;g8%A?S(S0A",
    "8*?S(S0A<s!80A8*<s!80A_J[bA8*[bA$g&Q*yA8*$g&Q*yA??*yA,Z9D??*yA_J??*yA/Gd/c;+A/^$m8Z!bcA9]]7)0!O+H(J9R<s8~)0!O",
    "+H(JA8*9]<s8~)0!O+H(JA9]q|v)0!O+H(JA8(_L/^A9D_L/^A%W+~+w8I,a^6_J%6,~A!>%6,~A$g_7|uA$c_7%6,~A_J|uA8*_J|uA_MA,Z",
    "%6,~A8*(JA$g_7(JA81.CL.DD_MA%U.DA$_=G/_Q$P%?|uA8*$_=G/_Q$P%?|uA:eP.DA*<P=G(JA]7)0!O+H(JA$g_7]7)0!O+H(JA8*]7)0",
    "!O+H(JA%U>48<.j:p8V9D&G*?d9EA8(&G*?d9EA9D&G*?d9EA$_>48<=Q_J8(&G*?d9EA!>$g_7$_=G/^A8*]7)0!O+H;S[YP(JAR+a&GS!RAd",
    "?a%o=,Q.~R+a&GS!RA$a)r%0$19s+a&GS!RA%W+~9SA$a/X+~9SA<s8~)0!O+H(JA$_]7)0!O+H%T8/$Z$O(JA8*$_]7)0!O+H%T8/$Z$O(JA",
    ";+8%A,Z+vA:m;d;+8%A<mc,|1,Z.AA%Z8Sc,|1,Z.AA<m,Z.AA%Z8S,Z.AA8((8$zA9D(8$zL*4$zA8(_^:!P9D0A8**48fA!3+AA%f+AA8*+A",
    "LR<S9Z$sP&h$zK$sP&h$zL8q9Z$sP&h$zK$sP&h$zL&1!.+dP&h$zz9++dP&h$zA.T>f~j]B$W8O$zA8**4$zL&bP*4$zL8(&bA(]8*8(&bP;X",
    "A&G9A90&bA(]&G9A90&bP;XA%f:9$ze/2$ze:Z!f8=:9$zH/2$ze+5*x$ze)i*x$zA8*+5*V&h$zL)i*V&h$zL+5*x$zL)i*x$zA!38h.B$zL",
    "8S.B$zA%f8h*5$ze8S*5$zAc8.o(&:m!>.268Q8C8k68Y8C8m6808C8u68168zO,H4!>*s.278Q8b8k78Y8b8m7808b8u78178zi,H4:m!>*s",
    ".28]8Q+Q8k8]8Y+Q8m8]80+Q8u8]818]8z8[,HA8*=pT/f9_L+RL[8L8:[!8OL=vL9_L]8A<p8J*a;?P9_A8*|^c1!KX.E9_A$e9_A8*$e9_A",
    ")48=$e9_A8*)48=$e9_A8(9_A?y1%*(q1928=9O&s4=31928=9O&sA8(9O&sA$a:p;h>f*+8V9_B/J8V9_AR$%(&8(9_A$a]l8;9a1=G8(9_A",
    "84*z&29D9_A8^*z&29D9_A)!1+j*/,Z9D9_A<v>v+j*/,Z9D9_A8*]11,Z9D9_L%Z:[,Z9D9_A]9]11,Z9D9_A|)P+9A]9%Z:[,Z9D9_A!>8*",
    "9D9_A%619/:U8=9_A$c19/:U8==vF9_F]8A$a:p19/:U8==vN9_N]8A]71)Ko8=9_A8*]7*zb+H9_A9Vc9K|y8=9_A8*9Vc9K|y8=9_A$g1_J",
    "9_A8q|)P+9A9)8:$>,C90&<A9D9mP,]8.+m9D9mA9%&]c$k=NA$g*r%Ge9%%GA8hR*z.E8e$=+h!D~hA8SR*z.E8e$=+h!D~hA9A_!,EA?NP;P",
    "$A*h%1%GA_N|?X<t$(=b[49.A+A8D+kA8c%&+c(2<A.rA9?8:[!A8c%&+c(2]4.rA;d*=!PF9AA9D&Y8D:8(O![A!P%+A[CP$g8,/JA]1+t%+A",
    "[M^>%+A8h!!&M|AA8S!!&M|AA]2P!!&M|AA)S<*L<+8I[5//]j_BC>O9R|t>Z8I.x8S>O9R8h>OA<*8D*K8wA<jP;a8=o!N$79C9SA%6]l8;9a",
    "1!7&2&Yi8D9j,u79O,uL|~!Z9j,uJ9O,uA8c%&+c(28h%6&)K8S%6&)K8h*xK8S*xK8h8q*xK]j*xK]!.BK[c.BK8h:Z!f8=<VK8S:Z!f8=<VA",
    "!g>8*vA!n>8*vA.!r$Y.E^u*vA<Xr$Y.E^u*vA8S!x!>/5A9?&Z9R9_9R.|9Gj>(,V9R9O,V9R.|,Vj>(:f9R9O:f9R9j8q:f9R9O8q:fFR$%",
    "<L*vAo8E!o%FX83+b%i.okF&[%4EaE(eEfE)$E*NE+xEnE(~E)AE,bE:uE/lE/mE.FEpEupEapE(epEfpE)$pE*NpE+xpEnpE(~pE)ApE,bpE",
    ":upE/lpE/mpE.FpEsEusEasE(esEfsE)$sE*NsE+xsEnsE(~sE)AsE,bsE_OEu_OEa_OE.FsE)BEu)BEa)BE(e)BEf)BE)$)BE*N)BE+x)BEn",
    ")BE(~)BE)A)BE,b)BE]$Eu]$Ea]$E(e]$EvE[dEavE(evEfvE)$vE*NvE+xvEnvE(~vE)AvE,bvE:uvE/lvE/mvE.FvE+yEu+yEa+yE(e+yEf",
    "+yE)$+yE*N+yE+x+yEn+yE(~+yE)A+yE,b+yE:u+yE/l+yE/m+yE.F+yE./Eu./Ea./E(e./Ef./E)$./E*N./E+x./En./E(~./E)A./E,b./",
    "E_OvE/l./E/m./E.F./E:vEu:vEa:vE(e:vEf:vE)$:vE*N:vE+x:vEn:vE(~:vE)A:vE,b:vE]$vE/l:vE/m:vE.F:vEwEuwEawE(ewEfwE)$",
    "wE*NwE+xwEnwE(~wE)AwE,bwE:uwE/lwE/mwE.FwE+IEu+IEa+IE(e+IEf+IE)$+IE*N+IE+x+IEn+IE(~+IE)A+IE,b+IE:u+IE/l+IE/m+IE",
    ".F+IE/nEu/nEa/nE(e/nEf/nE)$/nE*N/nE+x/nEn/nE(~/nE)A/nE,b/nE_OwE/l/nE/m/nE.F/nE:wEu:wEa:wE(e:wEf:wE)$:wE*N:wE+x",
    ":wEn:wE(~:wE)A:wE,b:wE]$wE/l:wE/m:wE.F:wE/oEu/oEa/oE(e/oEf/oE)$/oE*N/oE+x/oEn/oE(~/oE)A/oE,b/oE:u/oE/l/oE/m/oE",
    ".F/oE/pEu/pEa/pE(e/pEf/pE)$/pE*N/pE+x/pEn/pE(~/pE)A/pE,b/pE:u/pE/l/pE/m/pE.F/pE/qEu/qEa/qE(e/qEf/qE)$/qE*N/qE",
    "+x/qEn/qE(~/qE)A/qE,b/qE:u/qE/l/qE/m/qE.F/qE/rEu/rEa/rE(e/rEf/rE)$/rE*N/rE+x/rEn/rE(~/rE)A/rE,b/rE:u/rE/l/rE/m",
    "/rE.F/rA9O8Q/f!x+Y7<YA9j8q!x+YA9O8q!x+YA8h]j!x+YA9O8Q/f:fA9j8q:fA9O8q:fA<d+kA>&+k4(w9GA!n(w9GA9j8q=!9GA9O8q=!",
    "9GA9j_H9GA9O_H9GV$n/f_H9Gt!x%(:%hA?dP*wA?;P*wA9_)m8D+Y8C<Yt8Q/f9G)m858D+Y+Q<YA&Z|yA9_|yA9j,V|yA9O,V|yA&ZP*E8(",
    "&YA9_P*E8(&YA9j:fP*E8(&YA9O:fP*E8(&YA*t//=vL/e//_P9GL*u9G9^L/e9G9^A=v9^L*u9G9^A*t9G8V]8L/e9G8V=vA=v8V_P9GL*u9G",
    "8V*t9GA<A.r/s]4.rA]4.r/s<A.rA=v/s]8A]8/s=vA]4.r/s]8A<A.r/s=vA]8/s*t9GL*u9G/s]8A<b.9%28:/_)Y84A.9%29O>>;h8H8,/J",
    "!Y*+C!n>>;h8H8,.$8t=yA:[:x[R<X9GA;>:x[R.!9GA&_[R.!9GA*k[R.!9GA&_[R<X!x:!4.!!x/5A<m^?;:+_<X9GL8h^?;:+_.!9GA.!%$",
    "^u*vA<X%$^u*vA9_!p$2&ZA&Z!p$29_A$29_!p&ZA;Z/58oA=x/58oA9_P<w0A.|.9<w,W!rA!g8Q/f.9_?$f!rA8^!m9k84!m96!lz9684!m",
    "9k!lA9N!m8S$T!m8h!l48h$T!m8S!lA8^!m9k84!m9k!lA9N!m8S$T!m8S!lA8^!m9684!m96!lA9N!m8h$T!m8h!lA9j!lP99!m9k*wA9O!lP",
    "99!m9k*wA!g!lP99!m8S*wA!n!lP99!m8S*wA9j!lP99!m96*wA9O!lP99!m96*wA!g!lP99!m8h*wA!n!lP99!m8h*wA9j!lP99!m9k]%A9O",
    "!lP99!m9k]%A!g!lP99!m8S]%A!n!lP99!m8S]%A9j!lP99!m96]%A9O!lP99!m96]%A!g!lP99!m8h]%A!n!lP99!m8h]%A9j!lP99!m9N!p",
    "9j!lP99!m$TA!g!lP99!m8^,):x!g!lP99!m84A9O!lP99!m9N!p9O!lP99!m$TA!n!lP99!m8^,):x!n!lP99!m84A9j!lP99!m9N!p9O!lP",
    "99!m9Nl$T!p9O!lP99!m$TA9O!lP99!m9N!p9j!lP99!m9Nm$T!p9j!lP99!m$TA9j!lP99!m9N!p9?)4l$T8oP9?)4A9O!lP99!m9N!p9?)4m",
    "$T8oP9?)4A!g!lP99!m8^,):x!n!lP99!m84A!n!lP99!m8^,):x!g!lP99!m84A]j!x?q&0A&(!p9_A<g!p9_A&Z!p<gA9_!p<gI/.A%r!p&Z",
    "9,;8>(.9<w%rA$!!p9_A%1%G!p9_A&ZP<w%1%GA_N%G!p&ZA8h+&P%uA8S+&P%uA9k+&P%uA96+&P%uA(w:K+h!D~hA&r)/!+/X9Mt(<8/;~A",
    "]!*5A[c*5A]!<VA[c<VA&r)/(S8h=U9K%;t8S=U9K%;t8h++c8.%;t8S++c8.%;A8^&)8D)ZA84&)8D)ZA8^&)8D,uP!z(q+tA84&)8D,uP!z",
    "=3+tA8^&)8D,uP!z=3+tA84&)8D,uP!z(q+tA8h*x%+A8S*x%+A8h[R%r%;A8S[R$!%;A8q8h[R$!%;e8S[R%r%;A8h8(.BA8S8(.BA%(8J=rA",
    "!|^W$=$PA>*U(O*V$g8,8^A8S*V/bb&n.YA>*U(O8S&<%+A&<+pP,E8Iq?:P&<A%W+l(2*V$g8,8^G9NA9Z&<A9v&<A&<8D)ZA9v&<8D)ZA|(",
    ",8P*V$g8,9NN$TA>*U(O&<8D%j]tP8x*h!z.9%2.*84~]8^<$:l84~^8^<$848V9N<$>,9N<$848V$T<$>,$TA9v!WX<Z%GA!WX(<)s&n<iC,W",
    "!r8wC8S;YC8h;YA*K8D>7L%*+A4[Fg4?N49%&]c$k=NLP;a8=o!N>78V&_%w;a8=o!N+Ae/(_N!D!O>K0L%*^*q;j8K=(1(]8:[!8OA9k.9<w",
    "*KA!>9D;X4;X4%r4$!L8D87&B*E*C84V9F+k8_*E*C84A;d<A.r>)4]4.r>)4(J4,W!rj~iTA9F|+(5R8I9d&<!UD)ZA8_!z9mA9m+p|B8_(&",
    "=3A8S9m!p8h9mA8h9m,):x+AA+A,):x8S9mA<h!K!Z[SV[T8I~&P<h+,A^:8D[St[TA9Dx)5;eA8(x)5;eA8^$~<L)Y8J=rA84$~<L)Y8J=rA",
    "8h9+$~<L)Y8J=rA]j8K<L)Y8J=rA82(KX:]!J82<Q.bA+,9U82<Q.bA82<QQ<Z$hr$C%^+AA]&8x&2|t>ZA|~!Z]n!!(O)a$PA82.tS8n8_9>A",
    "&6(W%F:gA&(P!P.G[Fg8C8D!&8wAQ,l(2*E!P.G[FgArg%x8>,~kA.8h(Ty8l~kA=69m8D[Sl[TA8(&Y8D969GL<jA+v8D969GA$c!r8D969GA",
    "8y8A9A1[*.AK$c(5K9D&YK8(&YK+vK$c!rA9C9S18v]c$(8IT$$8n|Y&aAR[49.8D<iA?N8D+kAo%P9s[49.8F?NA8q/5A(w/5A+5.T>f*xA)i",
    ".T>f*xA=iyA&^yA:E=t!>/O&aD~l&aD[e&aL:hP&a%+Z/5L+u.&P&aK:hP&aA9F*=//&aV$3&aA:E^&9I&aAh(T%a$X9F>sA>s+cQ;q,XA>8%F",
    ",XP&aA<Q98!J&t!8,XA,X+**XjS$$S<o99>)A^u%a(S%kb,6A.![]T>k!+A&+[]T*b!K;q/_9q+_X83~m,t*DTN^?;:+_X83~m,t*DTH(Q82q",
    "!S*h*C*DTA,X!B,t!j;?P&aA$%S+bQ!s,XP&aA,X8D&Z9^D~n)pD.&D:hD<iD)ZA|AA)S8h9mP&aA&r)/(SR&=8c.H/~J9L=mB8&!i,6A+R8D",
    ",W!r8wC+2;!8wC!&8wC$)C^VC%1&q8QC8(9mA[88D$s8wF$)F]4&[F<A&[A+RP!z.Z!rK/i!rA9a)X$3$3_,:gA?S;%!UO)ZA8n$K]o:g8D=3",
    "=+|C8Ih[(:gA?S;%P!z.Z!rI/i!rA!>?S;%+8;!A?S;%P!z9+!rA!>8:[!8OA+RP!z9mA[8P!z9m8I%a!K|=;%P!z9mA*FQ$3:gA84.7*FQ$3",
    ":gA&r)/(S8r;N8<.H/~AS/Gr9c(S$3%z:gA.&%+A;C;q[8t<iA.&8D<iJ*=!PA;C;q*=9AL<x.&A.&!p:hA:h8w&H!p.&A.&8w&H!p:hA:h,)",
    ":x//|+8D:hA.&,):x//|+8D.&A%$:h+p|BRe.&+p|BRA8q+u.&D:hA%$:h+p|BR8VRh[(:gA*=!P!U49A!UA8q*=!PC9AA9F*F8nq*a*=!PO9A",
    "A;f[f)S9AD!PA*=9A=q;B[f*=!P4//99:C|Dh4W&:>6|Dh49e%^$7)44W&:$7)44!P+*<iH)ZH8q)ZA,2T!Z)ZA*=9A+*<iI)ZA&r)/(S!18c",
    "!z^*(E%o,6t8A](^*(E%o,6A&($lA(d]O)v!UA(w>78D<Yi(w+Y8I!o^.&a!UM<A&[A!7(,%?:![Z$K.RAq,(9C&C!UA|s8D(JA/.+8;!8IX%T",
    "~+$C)Y+CP(3A&(!p+RA+R!p&(A&(!p<gA9+;~P+CA8Q]l8nq9T$d&(R8I8k]l8nq9T$d&(RA&(8D/F8V=J86Q89,R&n9]=DA%r8D&B,EA$!8D",
    "&B,EA%r8D(88wA$!8D(88wA,^9A.G&!A,Y9A.G&!A,^9A.G&!_!,EA,Y9A.G&!_!,EA,^9A.G&!!UA,Y9A.G&!!UA,^9A.G&!!UP84A,Y9A.G",
    "&!!UP8^A,^$3^|$CA,Y$3^|$CA,^!P!.1&+:iA,Y!P!.1&+:iA%r8V(Q^|$CA$!8V(Q^|$CA%r!p]&&++C!p$!A$!!p]&&++C!p%rA%r8w[Z(,",
    "%?$3+CA$!8w[Z(,%?$3+CA%r!p)7Q.R!p$!A$!!p)7Q.R!p%rA%r!p$!!p]&&++CA$!!p%r!p]&&++CA%r8w.G+C!p$!8w.G+CA$!8w.G+C!p",
    "%r8w.G+CAR|E&!P^~M$!M%r_!,EM$!_!,EA]&&+&!P^~G$!VR|E&!P^~8C$!A!7(,%?^~t$!4<x%r!p&(D$!!p&(A8qb9;*/%rD$!D%r8D)ZA",
    "$!=q;B[f%rK!H:x%rA,^%$>V;h9aA,Y%$>V;h9aA,^%$o!N<y]).G+CA,Y%$o!N<y]).G+CA,W$Od%BA.Rr$Od%BA,W$O8?9[(3A.Rr$O8?9[",
    "(3A&(8Do9XXy8wA[H])!.1&+&(A[I])!.1&+&(A[H])!.1&+:iA[I])!.1&+:iA[H<x&(A[I<x&(A[H<x:iA[I<x:iA[H<x/.A[I<x/.A[H<x",
    "(Q/.A[I<x(Q/.A8q|VRe|]RA%1%G%+9,9%%G%+9,o8n&n+R8o9,]CT&n+R8o9,o8n&n?S;%8o9,]CT&n?S;%8o9,o_A(3!U9,9%_A(3!U9,o_Q",
    "&(9,9%_Q&(9,o_Q<g9,9%_Q<g9,o_Q/.9,9%_Q/.9,o_Q:i9,9%_Q:i8I~i!J8h%j_E&ae8S%j_E&aA%$%1%Gj9%%Gjo|?(3j9%|?(3A%1%G!p",
    "_N%G9,9%%G8w*r%G9,o%G8w*r%G9,9%%G!p_N%Gj!H:x%1%GF//_:o!N=!99*r%GA[CP$g8,*+AX988>(yk8D9E!J(qA]v$$R90.&A(y*MAb8~",
    "(y*MA$28h>OL<+L<*A9%&]c$k=N+pA:K(w8S_BA8q:K8h_BA:K8q8h_BA8q:K8q8h_BA9?=!_?P8h9H=0$m8q&zA$2<+8D<iL<*8D)ZD<x$2<+",
    "A8q<+e<*e*XP)/8OA9v9+)MP)/8OA^^;a!Z9v$hr!+>)A/38D*K8wZ%mA<+8D*K8oA[F:*+kD<gA(w:K++=t8r;NM/(+ke)gP&aeb9;*/%rD$!",
    "A]&$P.G,^(3M,Y(3A>5|Y++=t8r;NA)S(w:K&aA9+|Y&aA9D+AA:E=t9D+A8I9A)t/e&FL*u&FA.%&FL*u&FA.|&F8F>([gA!g[gA!n[gA|F[g",
    "L*u[gA.%[gL*u[gA.|[gA9k96[gA;Z<c*+Z/JA=x<c*+O/JA|~!Z&_=&V*k=&V%Z8S,_=&V]s,_=&A&Y8D[SK[TK&_=&K*k=&8I9M,n(5A8(!~",
    "(5A9D!~(5A8($$y]3A9D$$y]3A8(=5&WA9D=5&WL8+([&WA8(8+([&WA$78(8+([&WA8(!~!rL%f&YA9D%f&YA8(%f<jA9D%f<jA$c+m&YV<jA",
    "%6+m<jA8($7~F8nA9D$7~F8nA8(!|~F8nA9D!|~F8nA8h!x,W!rA9)&ZRA8h!x!>/58I.x9jR$%<L*v8IT;8>(8Q/f!x+Y8C<Yi]%E_H9Gz!x",
    "%(:%hE%u8D+Y6<Yz8Q/f9G)m8[8D+Y8]<Yz.9<w0A<b.9%28:/_)Y8^A&(!p&ZA]*<g!p&ZA&Z!p]*/.A9_P<w$!O_N%GA9j>8*vA9O>8*v8IT",
    "$$*I<g!p9_8I;9>(;YP]*/.A<g!p&ZA&Z!p/.N]*<gA9_!p]*<gA!n$e^W$=9GA._.G]+9GL?~|E|z9GA9D$S,~A$c$f,~A%6$f,~A8()i=5&W",
    "A9D)i=5&WA8*!~!rL;r=H;r90,EL*K8D&B,EVVc;L>.AR|E]+!x*p+H&0A?~|E|z!x*p+H%uAR|E]+!x$7%uA?~|E|z!x$7%u8I>0.9%2!n>>P",
    "]+_*dA$2o>0.9%2!n>>P]+_*dA9j&&A!g&&A9O&&A!n&&A.|&&A9k96&&A*t&&L/e&&A.%&&L*u&&A9j$e^]A!g$e^]A9O$e^]A!n$e^]A<X$e",
    "$g<e*vA.!$e$g<e*vA9j&&P*wA!g&&P*wA9O&&P*wA!n&&P*wA*t&&P*wL/e&&P*wA.%&&P*wL*u&&P*wA9j&&+*+kA!g&&+*+kA9O&&+*+kA",
    "!n&&+*+kA$78T^R)6A!|8T^R)6A9j&&9U9O&&A!g&&P.$$m!n&&A9O&&9U9j&&A!n&&P.$$m!g&&A9j$e^[A!g$e^[A9O$e^[A!n$e^[A9j8(",
    "!>&FA!g8(!>&FA9O8(!>&FA!n8(!>&FA.!$e8SU*zX=w3*kU*zX=w38hU*zX=w3&_U*zX=wA8r>XP8^e84A>1&+8^484A8Y+tP9GR<eg8,^*q",
    ";j8K=(A9O[gA*,%l(<X!J!j<T)X$1$kRA?y1%*(q1928=9j)%4:[928=!g)%4(q1928=9O)%4;>928=!n)%A8(9j)%L!g)%L9O)%L!n)%A!n$e",
    "!x9?<c.$;5=yA!g$e!x9?<c.$95=yA9j$e!x9?<c/JA9O$e!x9?<c/JA9j$e!x9?<c*+A9O$e!x9?<c*+A$c;h>f*+8V&Zi9_K/J8V&ZO9_K.$",
    "8V?dK=y8V?dK.$8V?;K=y8V?;A9doo!s.9968^J84K9k8^F84K8h9NK8S9NK8h$TK8S$TA!g9D:f8D>79,P&sP!z!j/_*V)8A/N;B[f.ARJ!P",
    ":p(5RV$c(5RA<s!8)88D!30A!>04)&0A$c(5&QcL&Y&QcA9Z8(=5&WA$78((B8T&WA8((B8T&WL%f;i9m&QcK=69m&QcK+59m&QcK)i9m&QcAb",
    "(^d9|!J:P8QA&_=&!rA*k=&!rA!3_L8(.^XA(]!3_L8(.^XA9D_L.^XA(]9D_L.^XA+u/~P^MA9|;Ud(;(<8OA~%X8%AX!S*E:P8QV8kt8YV8m",
    "A]vX!S9nA%TR8y;SSAS/=(>A:,&*(>AX<R9.A.+9.A9D+E)s,RSA8(_^8~*yAd9C!J!3+EP9J8TAqU9L!1AY.nA$E9.Ak$1%nAS*D>L8Ic+<%n",
    "A/6gq~(A|0T(d8~A[S,~A[T,~A*L&:[Sz[TA9j8Q/f!x)(RA!g8Q/f!x)(RA9O8Q/f!x)(RA!n8Q/f!x)(RAT+fP:P8Wz8QA|C8lA9C,9979>",
    ")l*=*,!br82<kl!/!b9Sl$%82<kl++W!b9SlR&CS&Wl,a8v?$TA&(8D82<Q.b8oA;C,n8fA8n:^,n8fA9+c8fAX9>|C8fA9v8S&<A8+$ZR8>8r",
    "Qo$OX8)8n8fAr:VW,c!6%>,JZo%)yZ9a8vZr:VW9tZc=78&Zy9;9~Z$08m9EZc$E9<Z$Ehg8sZQ+)i!q=zQ+)iZc?,!bZ8N!uZg(x8:!iZh.)",
    ",cTZ8l*.ZW$DZ!O!u$.Z/U!7Z;f$NZd8H9d!1ZU!_Z8J/UUZ+lUZW9~Z8/Z888TZd!7Z8>9d!bZ9BZ,sUmQiS!KZR9L%:!NYZ$vZ87_R8X)mZ",
    "!9Z(r,n+m_RZ<>Z::/V<>Z8J:<Z&>9w!*Z88d$Y$kZ)l!_8T*>!BZ??.~h.),cTZ8;%S$C)r9d!bt+!,JGo%)yG9a8vGr:VW9tGc=78&Gy9;9~",
    "G$08m9EGc$E9<G$Ehg8sGQ+)O!q=zQ+)OGc?,!bG8N!uGg(x8:!iGh.),cTG8l*.GW$DG!O!u$.G/U!7G;f$NGd8H9d!1GU!_G8J/UUG+lUGW",
    "9~G8/G888TGd!7G8>9d!bG9BG,sUiQOS!KGR9L%:!NYG$vG87_R7)mG!9G(r,n+m_RG<>G::/V<>G8J:<G&>9w!*G88d$Y$kG)l!_8T*>!BG??",
    ".~h.),cTG8;%S$C)r9d!bA)H;)9+&HL:)9+&HL;),jEX9YE8A)mL+!9YB&n?VL8Bx+.L5x+.L&.+.L(p+.L.[+.L.?+.L8B&KEh9^E9ZSmg+/L",
    "5=o84%YL8B8K9^L58K9^B=o)<L8B%wxL5%wxB%u~U(NB!Z)/8>B9Z8A)mB?R9P(_,EL&;9ZTL%1&q58UA,m9:8HA)H&j8D+$[(%uE8d8D+$[(",
    "%uA/4d!6%>g9xe58<9xe8B!b8Ze5!b8Ze8B(te5(te8B(:8Ze5(:8Ze8BT%ye5T%ye&j!!e%[!!e.[)ne.?)ne8Bx$Ce5x$Ce8B%&%&e5%&%&e",
    "8BQ8)8Ze5Q8)8Ze&.S8Le5~GSe8B^88Ge5^88Ge8B$Ke5$Ke8B!qe5!qe&.!7e(p!7e8BWe5We>GQe59Le8B8&e58&e&j=Ue%[=Ue8B+Xe5+Xe",
    "8B?7e5?7e8B!<e5!<e&.9we(p9we8B(ue5(ue8BW!!e5W!!e8B_S&p$]e5_S&p$]e8B*0(;e5*0(;e,h]d=lT%ye/9]d=lT%ye8B_S&p~GSe5",
    "_S&p~GSe8B_S&p!qe5_S&p!qe,h]d=l!qe/9]d=l!qe8B*0W!!e5*0W!!e&j9c9Le%[9c9Le8B[h;,Qe5[h;,Qe8B*0R+(e5*0R+(e8B*0(!e5",
    "*0(!e%>(R$K=lk+(e+!(R$K=lk+(e8B_S&p)?Qe5_S&p)?Qe8B*0)?Qe5*0)?Qe8B*0Ye5*0Ye8Bg*z.EYe5g*z.EYe8B*0+(e5*0+(e8B*0,y",
    "e5*0,ye8B*0r9q%Je5*0r9q%Je8B*0c8se5*0c8se8B*0R[;e5*0R[;e8B],97R[;e5],97R[;e8B],97b&*e5],97b&*e8B],97)Te5],97)T",
    "e8B],978MUe5],978MU4^x.z$68$Dh9b8&DX9b8&D*L9f%nD+XP8&Dk]A8&DR[;9s=Ue,h]d=lR+(e/9]d=lR+(e,h]d=lr9q%Je/9]d=lr9q",
    "%Je%I!q8wHR9L/U]T9>9%Z,R!]4$Y~,P8i%NYQ(L$6+(e5%NYQ(L$6+(e],97$JJ]o(8J82]o(8J$$*I;a8ye]N%s4</^leh9AX9l*=;a8yA9K",
    "9Ar9759eN,MN.0Nc8~N8xN!bbN<CN%KN82N>oN*GN$QNb9JN8~N&tN8d$LN8ETN/;N)VN9|NX$LNk$LNr%BN8R9JN(.N$ubI9eN$.gN?$I$LN0",
    "9eN8U%BNYTITI%yN9VN$LI!:N%%NS8xA!K<Q!$+T8i8PJoBxJrBxxFo8yo$O%.!c!W!N8P8UF8P8UJcBxBcMxH,BH%]JkF9~,Q$=y$tF8P(RxJ",
    "xFo8yo$O%.!c!W!Ny!,F9~,Q$=y!,Fy!,xJSJ(RF9~,Q$=8P(RF8P8RF9~,Q$=8P8RF)NHS$0FSY/t%?8P$0F9~,Q$=8P$0Fy8<JhJbF9~,Q$=",
    "y!$bO!hFy$YHUH9JB8AJ&oF9~,Q$=8P&oF$U$O8P&oFy9>BRBxJdBxJ8>J+]J8HJ8KJyJ8dF,7T$Z!W.w8P8dF8P:yHTHWj,m8G$&<.*&j?_8%",
    "j|1P?eA(9Q!%$k=W9<SJ$?SJ8&SJ$ISB9lSJ%NSJ9nSJ%zSJ!/SB!9SJ^2WSJ;ESJ!1SB!1SJ%~SJ,&SJq9lSJX9lSBWSJ/t8MEQE8gNJ*jMUM",
    "QM8pM8gEMWJq8;MUMQM8pM8gEMWJ:ySMUMQM8pM8gEMWJq$FEUEQE8pE8gNEWJ8R8PMUMQM8pM8gEMWJk8PMUMQM8pM8gEMWJ08PMUMQM8pM8g",
    "EMWJr8PMUMQM8pM8gEMWA%I>U<F!HZ9aZ)oZ8vZ+)iTZ8NZ!GihibZWZ8/Z8yiRZ9EZYZ<=Z&=Z9Bl$FZ8J:<Z9;19EZSZ%yZc?,8HZ$R~H~o",
    "%)Z^ZiUZ/ASZ[>Z<>Z/A<>A8S&<*r]w>/8%8yV%(%1]w>/8%8yA8^*r]w>/%;A84*r]w>/%;A8h%(%1]w>/%;A8S%(%1]w>/%;8IS~p*F*D*&",
    "8ye%(*F*D*&8yA%(]v/~8%8yA8h]v/~%;A8S]v/~%;8IS~p.YA8h*89*!],C%;A8S*89*!],C%;AT8:&$Q90%z$1!]A]BX].A(y+H]BX].A9v",
    "(y+H]BX].A:,>zQ9>9n9SA%(W=M%n9,.a>(9eq+;A!g9eq+;A%()i&<9,&P%F|(,8P.SA$B*F8&o9qA+Zh%i>xA.S8D!QA!&8D/7A8h9P:^$W",
    "8E8n%;A8S9P:^$W8E8n%;A!&!UC%mA8h+A8D$%Q$ZA8S+A8D$%Q$ZA&_.Z%;8F/i%;A*k.Z%;e/i%;A8^|*]JU%;A84|*]JU%;A8h8q<VA]j<V",
    "A=F9U9!?mA9!![9U^j&yA;d9]?mA)|![8%A9v(8A!|!&A(_;?A:D?_%c![A9Z$sA*8![e$sA9Z?MAc!$9K&:8h$o+oV8S$o+oA9Zc!$,P8IW&p",
    "%s|.8O8I$n1T!v)48I8k1T!v)4AR!f~H$W!6$JA!|%U&[A8K<L)Y/3A/d98%a9XA8q.SA9v$sA8q&11^Pc1,>&h8I9>.X8h9N>X8I~bR9.&],C",
    "8%A$B9P8N;W8NB8D8N;W8N8wA9P8N;W8Nz%+A8qR>O$(+d9,+]~D[49.A(wc!$,PA~q%08<+dA]B$W9.8%8I^dd]T<T89d9.8%Aq_~[_$$*I;a",
    "8y8I~AP8L+].U84*y)KH8^*y)KA!K$1,**:9:8|A~q%090*4j(8A8^&)9YA84&)9YA8^&)+**XA84&)+**XA&_%w:9j/2A*k%w:9V/2A|(,8P",
    ".SAq8U$/8Ec(28r8/83Vq9t(WV8n_T8WB8QM8kV:zV)8V8T,.V[i&S!J8WJ8QV~E82!+V8n8<K_38WJ8QV^fP8WH8QJ8kH8YVR8l!RV8?8r!cV",
    "R!/&w8WJ8QV&bP8WJ8QK!PV8EXVq9l!RV<rV+EV8v*gV$?.8V)G!bg,*V=.P8WJ8QV=)V8L:Q8WF8QV)7+J!<8=%wd|m%/9|kVq*qVc+gV8s8v",
    "V.z>!=+8?V=8V%W9g;G8WB8QVo9c/LVR!okV;sR!okVb.w8WF8QH8kF8YVh(!V!5(^V+%VT9VV%EcVo9C>H8WJ8QV9H83K9A)VV*b^68WJ8QB",
    "8kV!K,PV?^>?V*u8WH8QV;sR8gV)7+J!<8=/&V/&V;sR(Y8>Z8+$ZV;]V;s(AdV)7+J!<8=8MgkV8Mg$/8WH8QVq.bK1)7+J!<8=?hcV9?8WH",
    "8QV;s&LOr$CVh^q8WJ8QV,rVog9yV;s%Kb8=9S:UO:0O:YO&GyVT(&8WF8QH8kV;sT83V&0V;s)?8nVo8WVr].dV;s+&O.6cO&?dV)7+J!<$(",
    "$~[VdIy!G&1V;s8J8&rV8U1)7+J!<8=8uV;s8uV8U1)7+J!<8=;R8?V;s;R8?V8U1)7+J!<8=<p&WV;s<p&WV,D:sV8U1)7+J!<8=,D:sV;s,D",
    ":sAk9q09b8Ec(28WC$PC![CR:cFT)RcC(%C8QCg(dC$QC);RC8x!aF;9C96)8Cq/NCQ$AC8T,.C%j)8Ck!q9/C?zC8K8EXCR!O8~C8S%j)8C9w",
    "*h8x<M,<C!fC~E82!+C8n8<Cq9t(WC~.8H$CC!$(;C.IC8x<M,<F9J8?C,O9l.RC!;H9s&1%,C8u8.Co%PC>[C8>>]C8&*eC828>C,WC^fC:dX",
    "8nCR=S)aCh[XC9d$$C<PkC8WR!G8JC,D,MCc!^C$28?8r!cC%(q9t(WC9?R%/*HC9F&cRC>T9MC<hCRb)aCo+f:sC:%XC&bF8<o8ycC!19AC&c",
    "Co>xC8EXC~fdC8:X9%CS>^C.YC)/C<rF$UC+EC]/C~&CR(qC8v*gC9V|GbC/S)/C(KX,QC8J9fCq.oC:%9cC=.C=)Cq8G8KC8J:UC8q0C%wd|m",
    "%/9|kCR<zTC8J9qCq*qCc+gC%T(=;KC8s8vC9H>LC<kCR9V8|C9t9/CU8nC!<!GcC.z>!=+8?C!7%p.+C%(d&CC%6CRk82C+KC=8C%W&3C9GCR",
    "$<F9L/UCd~ICr,rC8;9aC!F!PCo9c/LC(LTCR!okC8U9JCb8|C!5(^C9/:UC%EcC!PCX&1C&3Co9C88C9H83F82!]!aCR!G8JC_|9aCh9A)VC",
    "_U9yC!%|0TC%N83CR(q=mCq%E9AC*b,9C!K,PC|nT)XCo9<(TC8Mg$/8x<M,<C?^>?C_)dCR8gC/&CR(Y8>C8H+>,BC!H9eCX%PC)1,PC!5$ZC",
    "8rcF9|C;]Co(TyC(AdC<B!aCh_~8.C8MgkCq.bC[OTC/P=i$o*cC8H~S9KC?hcC&LCr$CC$?;KCR8G9aF)?!8%u8=.6cC,rCog9yC8K$1rC9(C",
    "9S:UC%Kb8=9S:UC9S&~C$I;KC:0C:YC&GyCT83C&0C]Z>k&VC)?8nCo8WCd+>CY9gC8J;9CR%.9d!<)G90[OTC8;%ac$1Cr].dC+&C.6cC&?dC",
    "8v8yC8K[VdCx!WXCy!G&1C(,:]C$cCT)k8&*H!^C8J8&rC%o>zCc<0C,FC!/8nC8uC;R8?C<p&WC,D:sC&G?:A:18v~f]b:N&M||848b<x9n8o",
    "8b||>68V848b<x9n%c!P8o8b]29s9f|^c8bR9f,t_?8w;6%m;68^;6%Z8^<$84;6&u8^8b/N8G(dV%W.QV$sV$JA8:_V8%A8U_K/c82c9.%o8<",
    "]:!P+o8fA:1[jV<M8.8%V<_/HA8h*xA8S*xA8h8q*xA]j*xA8h[kA8S[kA]![kA[c[kA8h8(,R((=N%;A8S8(,R((=N%;A;78<8%Ar(*8%A8h",
    ".BA8S.BA]!,R((=N%;A[c,R((=N%;A]!.BA[c.BA8h%6&)A8S%6&)A<b)4A9v8q>MP&hA8q>MP&hA9P8q>MP&hA;790)O9(A?6$0W!e/:908WH",
    "8QJ8kH8YJ8mH80J8uH81H8zA:19S9a$4<,V<A<,V8v&t*a<,V&CT(_<,A?%^9/O<,e8q/O<,A?o)4A!|k>h8r8/838%E/(/+[lE)O%Z%sE/(/+",
    "[lP%Z%sE)O&u%sA!>;78<8%A:1^X*b~o&+8J[N**8fA?6$0W!e/:90!fJ(CJ)zA!|:1[jA;$U8%A&t!88<+b*&A:1/b]b^MV%w;m+3A[m?WSFS",
    "F87QFQF87UFUF87TFTF87WFWF8NF8aF%RF&*F!_F$oF!RF9KF!uF!;F8jF9iF!7F.dF&OF,JF8nF$EF$IF;EF8TF8ZF!KF8:F879~F9~F%3F9E",
    "F8vF9nF!1F8lHQHUHTHWFYF8eF8LF9wF$&F9LF!XF$GF%CF8+F!HF8/F9lF%NF!OF8cHQHUHTHWF878PF8PF87$vF$vF87!9F!9F8EHQHUHTHW",
    "F878MF8MHQHTHWFbF/6F878NITA%I>_(v1[m/+[ll8n$K1/+[lA>_(v1[m/+[lJ8n$K1/+[lA[m[jj/+8=[jj(MP!99dA>_(v1[m8q.S4P?WSF",
    "SF87QFQF87UFUF87TFTF87WFWF8NF8aF%RF&*F!_F$oF!RF9KF!uF!;F8jF9iF!7F.dF&OF,JF8nF$EF$IF;EF8TF8ZF!KF8:F879~F9~F%3F",
    "9EF8vF9nF!1F8lHQHUHTHWFYF8eF8LF9wF$&F9LF!XF$GF%CF8+F!HF8/F9lF%NF!OF8cHQHUHTHWF878PF8PF87$vF$vF87!9F!9F8EHQHUHT",
    "HWF878MF8MHQHTHWFbF/6F878NITF89HQHTHWj%X![41[m%T&L[l4P[jj/+8=[jj(MP!u9nAo!%9**e$X8ioFXFhF8JFcFdFbFgFrFkFxF8UF",
    "8RF0F$0F8>F88F8AF8dFqFRFSFWFTHxF8$F%xF8)F!!F9eF8xF9qF&iH8AFQFUF:rF8HF!hFrbFQxFW!UF&/A?%P8i:RD^yD:R,+D(?B1%dM$r",
    "D%DD(c%DD&EB(1M&UM$:M&7M*]M)yM$rD&UD$:D^zD$:,+D&7C=eD,ND%dD(c%dD^0D.1D*]D)yD$rDSCTD8PFTD*nCD;OFDWD8MFTD!:D!9DU",
    "D9VWFCQD$vD$bD)NDQe?(e8i(c(?D(?1%DM&7M<ND&E(1,+M%DM$:,+E9e&7M;O)x$rD&U?&M&7M<ND:S&UD$:(1M%DM&7(1O%DM%dM*]D:S$:",
    "N^zD&7(1B(?B%DB$:B%dD<ND(c,ND^1N,+I<ND:S)yD(c$rD;O)x$rCW18PBTHQCU1;OBHQD?)SBTA:19e)/(S,5*M8%I^P8%I8W8%I8Q8%G8k",
    "8%I8Y8%I(q8%I>68%I=38%I?|!F8%I8n_T<|I^=8%I8Y8?8%I[V[W8%I<n8%I$Q8%Ao!%9**e$X8i$GF.dF$.F$oF8gH&/F9oH&/F9gFS&/F=/",
    "FU&/F!DF&dFS=/HU&/HhF9*H!hF=/bj$j8iXNdNkNxj8i&oFgxF8dyj$j8irj8ir8KFk8KF!:F!,Aq8Uk)MPdt8Krt0rto0rt+$tx:yKrVXV8d",
    "8KrtR8d8Krtx8ddK8dXVX8KrV8d8KK:ytbtxtRtXt%Wtctx8dVrtR8dV8K8dVdVrtXcV8dtdbtR:yV8Krtx08KrV8d:yrtXrt8RA>_>h?W!_N",
    "!7IUN9nN$DNYIQIUITIWN!0N8EIQIUITIWA_;R&>8=?%P:RE(?E%DE&EE&UE$:E&7E,NE%dN=fE.1E*]E)yE$rE:R!BE(?!BE%D!BE&E!BE&U",
    "!BE$:!BE&7!BE,N!BE%d!BN=f!BE.1!BE*]!BE)y!BE$r!BE%dPUDk*?9[:N&MW!i8~8CP!XD|HP8WG8QO8kG8YO8mG80O8uG81G8zG!fG+EG",
    "=)G=.OW(TG+<8<G<nG<rO9n%pGY9aGR(B%y(<G8l9HG>9)G8<G<Q9e)G8<G)R*b9~;NGg!29AG8r[n&CGq+>G!F%SyO~/_=TG8x!a=S=(G(E)5",
    "$AG+>,*$AG9/*>89gG*JGR!G8JG8rS8>A!>|HP,8R*[Jk82%:&4!fJ,O*pgJ!u9n4,HP]5F(CP]5F)zP]5C.3P]5F;QP]5C.4P]5F&8P]5C>tP",
    "]5A&tdb8y]p8OA!><_;lP8WN8QI8kN8YI8mN80I8uN81N8zF)zEP8WN8QI8kN8YI8m4?%P:RC(?C%DC&EC&UC$:C&7C,NC%dF=fC.1C*]C)yC",
    "$rC:R!BC(?!BC%D!BC&E!BC&U!BC$:!BC&7!BC,N!BC%d!BF=f!BC.1!BC*]!BC)y!BC$r!B4k*?9[:N&Mq(a!uO(x$bQ4?%P,NPUAk*?9e]:",
    "!P+o8fA!>|HP8WJ8QB8kJ8YB8mJ80B8uJ81J8zJ!fJ+EJ=)J=.BW(TJ+<8<J<nJ<rB9n%pJY9aJR(B%y(<J8l9HJ>9)G8<J<Q9e)G8<J)R*b9~",
    ";NJg!29AJ8n.tdJ/kJ9//kJ&O:<,.J~gT$Z&CJ=S[]J83!f*[J98!WJ*JJ/4yM8A/_Jx=LJ|pJ&1BT;8J84J~qq,/J8rg%P/aJ!F%SyB~/_=TJ",
    "8x!a=S=(J(E)5$AJ+>,*$AJb;94<_d)z<(I8uN81N8zC.3MP8WE8QN8kE8YN8mE80N8uE81E8zF;QA:1^X*b$W/T%l8s$D^&79/o9C^&7/E8>7",
    "S~.g7h$U7(x$h8X%,78)$o!F7R(^9E=07W)X=78y7!/9a=078v$A=0A+uxre8yr48HA9t$K*/9t!2!o.b8OA!>>_>hSHQHUHTHWH8NJQJUJTJW",
    "H8jJQJUJTJWH8TJQJUJTJWH8lJQJUJTJWHYJQJUJTJWH8cJQJUJTJWH8PJUJWH8EJQJUJTJWH8MJQJTJWA+uT8E.u>P8rQ8MeS8L)W49Cx?74b",
    "X(>4S9CeQ|q$oj!KeU8~e9;%)(b!14&~8pe8~&O4W!0ek8$9dj8E_Vz9A(ze8a$1jb8c4Q8ajb(zeky9f(ze&*9C/Ke%R8&t$o+%Ut;|&$Ut8M",
    "_Ve$o+%UK&Te*iU$EQ8&zW8W48g&O4W9C8ljW!OeR8$*iUj*O(z!04Q!)U4]OtWe/K&O4T!74W9Ce&Teb=:4W_VeYQ9~e8L9>&CWz9~e8e,Q9C",
    "eX%J&O&$Uj*iUzWe.6Ue!X+[c!1j(z9ne$G,9,sUe!X+n4T!_.m9Ce8/$Ij!q9we+lU9~e&]&OjT.de!H(*e;?We%N9C9nex8~eX8~!1e*p9Cz",
    "beh8$*iWz9Cj/Bj9C!_jb:A8~4Q!_$1j9dto8p9C4T8at&TjT&$Uey8p!1z9C4U9ee/U&$Uj8E49N(zjU+LU4T!0j*O+g8xe8M_VA:1^X*b$W",
    "/T%lx)5P/H8t8W8t8Q!Y8k8t8Y!Y8m8t80!Y8u8t818t8z8t!f8t<a8t:e!Y*o%g8t8Y%g!Y&S%g8t*<!Y8u%g8t]x8t8z%g8t;l9518W+18Q",
    ";58k+18YA+ux8Le8Ze8)e)Ke;reXqechj_Wzq&P$(e:reT8E.u>P+(R%xF:A!!8MFd8$:A!!Fh%x.de:d[E!+eX!j9cXRe8le!0!B4Se8N4oe",
    ")keroe)vek)veX8Jeb8Jeh!e8Jzr4rekrex8de(R8dehx8de&o8de8?8deh!eg4gecgekge8Jhebhe!0$p4heqhekhehh_Weqh_Weh_Wekh_We",
    "hh%v&P$(eqh%v&P$(eh%v&P$(ekh%v&P$(eh9URC_We8Lek8Leh8Ler8Le8Ecz9URH_WeXRebRe!09s4ReX8Heb8Heh!e8H48Hek8Heh8HP9H",
    "8aeX8Keb8Ke!0$~48Kek8Keh:Q9H8ae$/<[he!v<[he9ceo8Re;F4c49Ukr4Wecoe=YeY4Xe82ekk4!v/d~,4degh4b4+g40e)k$f4!o4%Ee$W",
    "4h4Xh48AeR8A48He8Koe8H9UheS9UhA:1^X*b$W/T%l8Z!N8W858Q8t8k858Y8t8m85808t8u8581858z85!f85<a85:e8t*o%g858Y%g8t&S",
    "%g85*<8t8u%g85]x858z%g85;l+Q18W958Q+18k958Y+18m9580+18u9581958z8t)z+Q18WA+u?.A8+([+WP%l*C.t83$d[V[WH<t(^d$d<nK",
    "]m$k%a<Z(&*C?c=/8.Ky~8%k$4=,%,K8M988.K)R&GQ)XK*C]tyK<R*h9n9K.8K87,G8.K,a!c8.K8/.QK!F!P*>$ZK9/g&1]pK>|(&|0R9;,C",
    "K$?.n(<K&C!X!79>hK=,&18.K<P$/!s*C8vq$U$(K$Y%TS8>K]n!WX;NK$&*a8?8&U&oK>k.QK%W,c*aS&tdK8r>XK=/(B=rK>|(&,G8.K.I+t",
    "RK>|(&;PX8~8v+n$AK*C!2.)h90=.H=28.8,=)K82&GU=rKc9f!+K8r,a83K>|(&?zK%T>k[GKc+~8x8.$m*C92K*C9x(,yK!%/~Do|h,6K+h",
    "8m+n$AC.tS8nK82.tS8nK)I$t8?8&U&oK(K8,*E;|dKr:U8,9n9K.8K%C888,9N8K+oK!%[n,CK*C9V$ZK8r<f>/K%&:W%ac$1H9J~J8,8?,?H",
    "k8g[f*>$Z$p[XKc%0!G!%,[K*C/E!^8.$i*HbK!2;K9e$AK*C8Mb%:8yHr&C%F:YH%~y<l:MTK/P9%,CKg!D98!+K=/$Od9C8?K87;PX8~8v+n",
    "$AK%]!a.H/Z*[Ko/<*?.H/Z*[A)N=W98K0KKXK8|D0DDXV83K0KKXV)bDDXV9MK0KKXV93KV*_V<BD0DDXD8|C0CCXK83D0DDXK)bCCXK9MD0D",
    "DXK93DDXK9TD0DDXD!TCK%7D0DDXD!TCVX98D0DDXD93CCXK83D0DDXK)bCCXK9MD0DDXK9TD0DDXD!TCK%7D0DDXD!TCVo<BC0CCXC8|F0FFX",
    "D83C0CCXD)bFFXD9MC0CCXD93CCXD9TC0CCXC!TFD%7C0CCXVb<BC0CCXC93FFXD83C0CCXD9MC0CCXD9TC0CCXC!TFD%7C0CCXC!TFVxh98C0",
    "CCXC93FFXD83C0CCXD)bFFXD9MC0CCXD9TC0CCXC!TFDy0CCXC!TFVh98D0DDXD93CCXK83D0DDXK/gC0CCXK9MD0DDXK93DK9TD0DDXD!TCK",
    "%7D0DDXV!<dD0DDXK83D0DDXK>:DDXK9TD0DDXD!TCK%7D0DDXV!bdD0DDXD8|C0CCXK83D0DDXK9MD0DDXK93DXK9TD0DDXD!TCK%7D0DDXD",
    "!TCVc98D0DDXD93CCXK83D0DDXK)bCK9MD0DDXK93DDXK9TD0DDXD!TCV_1D0DDXD93CCXK83D0DDXK/gC0CCXK9MD0DDXK93DDXK9TD0DDXD",
    "!TCV.q98C0CCXC93FFXD83C0CCXD)bFFXD9MC0CCXD93CCXD9TC0CCXC!TFVbc98C0CCXC93FD83C0CCXD9MC0CCXD93CCXD9TC0CCXC!TFVxb",
    "98C0CCXC8|F0FFXD83C0CCXD)bFD9MC0CXD93CCXD9TVb98D0DDXD93CCXKS0DDXK)bCCXK9MD0DDXK93DDXK9TD0DDXD!TCVx,cC0CCXC93FF",
    "XD83C0CCXD)bFFXD>:CCXD93CCXD9TC0CCXC!TFD%7C0CCXC!TFV,cD0DDXD8|C0CCXK83D0DDXK/gC0CCXK9MD0DDXK93DDXK9TD0DDXD!TCK",
    "%7D0DDXD!TCVr98D0DDXD8|C0CCXK83D0DDXK/gC0CCXK9MD0DDXK8|D0DDXK9TD0DDXD!TCVk98D0DDXD93CCXK83D0DDXK)bCCXK9MD0DDXK",
    "8|D0DDXK9TD0DDXD!TCV/t98C0CC93FFXD83C0CCXD/gF0FFXD9MC0CCXD8|C0CCXD9TC0CCXC!TFVh&*93FD83C0CCXD)bFFXD9MC0CCXD93C",
    "CXD9TC0CCXC!TFVx098C0CCXC8|F0FFXD83C0CCXD/gF0FFXD9MC0CCXD93CCXVb&*93FFXD83C0CCXD/gF0FD9MC0CCXD93CCXV^vD93CK83D",
    "0DDXK/gC0CCXK9MD0DDXK93DDXV8MdD0DDXK)bCCXK>:DDXK93DDXV.ddD0DDXD93CCXK83D0DDXK)bCCXK9MD0DDXK93DDXK9TD0DDXD!TCK",
    "%7D0DDXD!TCVq98D0DDXD8|C0CCXK83D0DDXK)bCCXK9MD0DDXK93DDXK9TD0DDXD!TCK%7D0DDXD!TCV:y98C0CCXC8|F0FFXD83C0CCXD>:C",
    "CXD93CCXD%8CCXC!TFD%7C0CCXC!TFVb.ddC0CCXC93FFXD83C0CCXD)bFD>:CXD93CD%8CCXC!TFD%7C0CCXC!TFVR98D0DDXD93CCXK83D0D",
    "DXK)bCCXK9MD0DDXK93DDXK9TD0DDXD!TCK%7D0DDXD!TCKR98C0CCXC93FFXD83C0CCXD9MC0CCXD93CCXD9TC0CCXD%7C0CCXC!TFV*AdC0C",
    "CXD)bFFXD9MC0CCXD8|C0CCXD9TC0CCXC!TFD%7C0CCXC!TFVq,yC0CCXD/gF0FFXD9MC0CCXD8|C0CCXD%8CCXC!TFD%7C0CCXC!TFV,!0CD",
    ")bFD9MC0CCXD8|C0CCXD9TC0CCXC!TFD%7C0CCXC!TFVb,FC0CCXD>:CCXD8|C0CCXD9TC0CCXC!TFD%7C0CCXC!TFVR,yC0CCXD)bFFXD9MC0",
    "CCXD8|C0CCXD9TC0CCXC!TFD%7C0CCXC!TFV,FD0DDXK)bCCXK9MD0DDXK93DDXK9TD0DDXD!TCK%7D0DDXD!TCV$.dD0DDXD8|C0CCXK/gC0C",
    "CXK9MD0DDXK9TD0DDXD!TCK%7D0DDXD!TCV8R98D0DDXD8|C0CCXK/gC0CCXK9MD0DDXK9TD0DDXD!TCK%7D0DDXD!TCV8U$.dC0CCXC8|F0FF",
    "XD)bFFXD9MC0CCXD9TC0CCXC!TFD%7C0CCXV/)98C0CCXC8|F0FFXD)bFD9MC0CCXD%8CCXC!TFD%7C0CCXC!TFKy98C0CCXC8|F0FFXD)bFFX",
    "D9MC0CCXD9TC0CCXV098D0DDXD8|C0CCXK)bCK9MD0DDXK%7D0DDXD!TCVy98D0DDXD8|C0CCXK/gC0CCXK9MD0DDXK9TD0DDXD!TCK%7D0DDX",
    "D!TC868Ec(28R9Mt9ttk98t)TXt,gXtR!7t/t!%V(^t$Ktx098t%,8Atoo9Tth!%t!9tX9Ttx0UWtd83t8at,JXtq%7t.q9ft+Ltr$oWt)U!%t",
    "9~t!%t8U(xdt;EdtX%7tx$?ty98t8H9ftR:,t9aXt9it%~tb,JXt8U8Uytr9Mt8U$.Tt$nt%3t889ftg%yt,gVU!%VQXtx0!%tR,yt8d9ftR>~",
    "t&=t:yQ8|tbo%yt!RAg!]!e:>?4V8LKYV8ZV8TKYV8aV8NKYV8sV8;KYV<JV!*DYV8cV8lV8GV8jV*AKSV9QVYV([V/BV9xV8MV9BV8PV/>VSK",
    "TVTKUVQVWVUKTKxV!:V(sh/M!KH>i!OHh/Mq8PE%NE8lE!iU9R&y+dH$JA89Q=W8gCbK)_K9VTFbK(YKo)_D8gKh+^Kk(YK,K+^Kr+^K9/TK9a",
    "TKd8gD)_Kc)_C)_Kg8gK|dK?+Kb?+KR8gD)_K$ETD)_Kq8gK];Kb];K?AKk8gK&d8gKr8gK;|Kb8gD?AKQDbK9wCbK!wCbK9LKo9wDQKh$&Kk",
    "9LK,K$&Kr$&K!<K!bK!KD9wKc9wC9wK9tK9dK8:Kb8:K!7D9wK.dD9wK)GK$.Kb$.K)NK%RK&dQK&*K$KK!qD)NKSDbKb.0KYCbK8MCbK8LKoY",
    "DSK,IKk8LFbK,K8eKr8eK9xK89K8TDYK*;CYK8GK8EK8ZKb8ZK8jDYK9iDYK8;K8sKb8sK8PK8NCbK&dSK8aK8cK8lD8PK9oCbK*pK(DFbKX9o",
    "Ko*pD9oKh/LKkX9oK,K/LKr/LK(=WK$NWK;RD*pKc*pC*pKg9oK8&WKc9oKbc9oKR9oD*pK;EWD*pKq9oK%~WK/)9oK]QKk9oK&d9oKr9oKh9o",
    "Kb9oD]QKUDbK!XCbK*_CbK%CKo!XDUKh$GKk%CK,K$GKr$GK%kK/6K9~D!XKc!XC!XK!SK9CK%3Kb%3K&OD!XK,JD!XKqUK(xKb(xK$vK!_K?B",
    "K$oK!0K$DD$vKWDbKb&WK9lCbK$nCbK!OKo9lDWKh%NKk!OK,K%NKr%NFbK(=K$NK9nD9lKc9lC9lK9<K8&K!1Kb!1K$ID9lK;ED9lK%zK%~Kb",
    "%~K!9K!uK&dWK!;K$?K!/D!9KTDbK!h8xK8+CbK9VCbK8/Ko8+DTKh!HKk8/FbK,K!HKr!HFbK9/K9aK9ED8+Kc8+C8+K9SK8rK8vKb8vK8nD",
    "8+K$ED8+K$AK!iK<<K&xK!RK&dTHbK9KCbK9HK$hD&xDrK_<>>8y8F$s8F$J8F(88FR|/b!1%F9xB8NBR9oLh.zP9/&it!R&itd8.tb(zto9qt",
    "9xSt.mtc9qVW,(tk&Dt_Ut!11Wt8U,(8F9pz8Wz8Qt8kz8Yt8mz80t8uz81z8z8FR|/b:7T$iB!1A>U!6.[!Wg8Pj.?!Wg8Pj8Bc$E9<j5c$E",
    "9<j8B9vc$Ej59vc$Ej8B(rj5(rj8Bc?,8Hj5c?,8Hj8B$R~H~o%)j5$R~H~o%)j?U8&/Y%Hj[%8&/Y%Hj8B~K,sj5~K,sj8B,s:()!P,sj5,s",
    ":()!P,sj8B/A^Zj5/A^Zj8B9v$vj59v$vj8B/ASj5/ASj8B%$[>j5%$[>j?U,R&2_Rj[%,R&2_Rj8B/A%$[>j5/A%$[>j8B%%j5%%j8B9v<=j5",
    "9v<=j&j[78vj%[[78vj&j[7!Gj%[[7!Gj&j[7!Wj%[[7!Wj8B$R(B+_Wj5$R(B+_Wj8B++(B+_Wj5++(B+_Wj8B8q$R(B+_Wj58q$R(B+_Wj8i",
    "|t(B+_W8I9*++8,>U!68H8d+<B[o(,>W)pB(f(,>W)pB9=P(,>W)pAR8G$Nb!6(JA%I>U<F%),r97%yZQZ)NZUZ$L)hZ,sUZR[=8OZ%HB8N;W",
    "8NB8L&x?O8Iy[?!68N;W8Nj8L&x?Oj8Bc9Vj5c9Vj8B.V9Vj5.V9Vj.[x9Vj5$09Vj,h&=j/9&=j8B.V$Ej5.V$Ej8Bd!Z?fj5d!Z?fj8B>ej5",
    ">ej8B&N9Vj5&N9Vj8B&N8nj5&N8nj8Bd&=j5d&=j8Bx9Vj5x9Vj&jx9Vj5889Vj8B8qWj58qWj8B[hPWj5[hPWA,m>U!6$L)hOR[=8OA%I>U<F",
    "/<Z/ATAo9c9X$yK8NKUK!_K8gK|dKd!VKWK)TKQK8GK8LK9dQC8gKg8g8gK;|8gK.mKb/KD8s!WKhKR(bK!0K*.QDQD8+%8DT%8Kk?AD8|Kb!t",
    "CD8U!tKy)cK&6K$v8RDSKb9BK!R%8K8/%8Kb];Dd8gKX9yK*_TK(YK9/TK9CK!SK$KK!qK8r%8D!VKk8xK!hk8M8xC8aCSK>TKX!tK%kD9*K8M",
    "K8lK9tK9LKg)cK!uKh:?K%9K$>DSK!KK%RK$?Do8pKd8|Kk8LK!fK*O(bK8j,IK9xS))Kk;r(bC&o9*L%I)Ok)cbc8~Ed%)8K]ORLb8s!W9tL",
    "$JL)g4h8cL?ML(8A,m$ub/c(sy!z=m3:+=m3!zR?63:+R?63!z$%3:+$%3!z9C3:+9CF^S19h%(?bF9h%(?bF^T%(?bF9P%(?bF^S19P%(?bN",
    "9h%([pF9h%([pF^T%([pF9P%([pF^S19P%([pN9h[pF9h[pF^T[pF9P[pF^S19P[pF/O+AMR:cM>7F]1+tP&<F*89k9GI969GI*4I$B*4F9P$B",
    "*4F;*,98V9h$<i9P$<A)H8BT=Y|r*=$]L5T=Y|r*=$]L8BT=Y|r*=(;L5T=Y|r*=(;L8Bx&iL5x&iL8Bd8dL5d8dL8Bd(E!o9<L5d(E!o9<L,h",
    "U83[?WL/9U83[?WL,hU83[??R$sL/9U83[??R$sL&;8JiRL%>SL58pL%>WL+!WL%>UL58)L%>8HL+!8HL%>=o>7L+!=o>7L%>yL5$UL8B9vq%+",
    "L59vq%+L&.9YL(p9YL&.8D?VL(p8D?VL&.9Y8V?VL(p9Y8V?VL?U?O$|gL[%?O$|gL;)9h*XL:)9h*XL%t&L)MP)=L%!&L)MP)=L%t+9L%!+9L",
    "8B9oL59oL>G?X<w|IL[&?X<w|IL>G8D&G)5*cL[&8D&G)5*cL>G+p$%9g8r$4%uL[&+p$%9g8r$4%uL8B8R?X<w|IL58R?X<w|IL8B8R8D?VL5",
    "8R8D?VL8B8AP^/;KSL<&P^/;KSL8B<0P^/;KSL5<0P^/;KSL8B=o?VL5=o?VL8B;WL5;WL8B_=Q!;8?!68dL5_=Q!;8?!68dL8B^O9YL5^O9YL",
    "8B^O?X<w|IL5^O?X<w|IL8B[WcL5[WcL8B8|L58|L8B!]L5!]L8B)RL5)RA,m9.A+Sc9XBg9XBh9XBb9XB<0L&;<0L5d9XB9XL8B,:cL5,:cL",
    "8B,:8JL5,:8JL8B,:rE9Z,:rL59Z,:rL8B9ZgL59ZgL8B,:8AL5,:8AL8B,:RL5,:RL8B,:dL5,:dA,m9P+2;!F)gF$2&(A)H8B&?+j9<L5&?",
    "+j9<L8B9ZxL:)[)8V>JL>SQ!/*=![L8Bb+.L>E|IL,h8D)KL/98D)KZ+Z)ng%YBx)LL?U8D&G)5*cL[%8D&G)5*cL8B8J9YL58J9YL8B<fS%C",
    "$/!VL5<fS%C$/!VL8B<fS%C$/!:L5<fS%C$/!:L8B<fS%C$/9yL5<fS%C$/9yL/!8D?CL?T8D?CL&.8D?CL(p8D?CL8B+7?CL>E?CL8B&:?CL5",
    "&:?CL&j8D?CL%[8D?CL8Bx9^E9v/%E&qrE:*>JE879:QL&;8RL8B9ZkldE8U8D[+E$uE*!L5*!L8B%HL5%HL&k*XL&l*XL8B^2SL5^2SL8B^2Q",
    "L5^2QL8B^2UL5^2UL8B*1*D[_WL5*1*D[_WL8B9q<z(v$~L59q<z(v$~L,h)LER9^E8d)LE%^._)MP)=L5%^._)MP)=L&j8D._)MP)=L%[8D._",
    ")MP)=L8B%$,:rL5%$,:rB8q^OZ8Ky&/L8B%XR%z&N9sL5%XR%z&N9sL&j%P$?(d9sL%[%P$?(d9sA,m9:qG8JG8RA)H8B9v%wxL59v%wxLT9L",
    "*b$W<FR*H]JQA,m9:x9YF87(o!:A)H&;9ZhLT9L*b$W<F9v8J7XG$BhOP&LSG,ohA:A9<<Kb!$9d$yMQK!Ac_=|JSK8iUMTMWK!AYR>jK8i!uE",
    "9lM!;E9lK:JK8i%zE9lM%~E9lM_VN9lMc!1N9lM9nE9lM!1E9lM!/M!OE9lM%NE9lM$?M8&M9<M8A8&M$IM9lK?5GQGUGTG9oK!O8|!^8%%4Oa",
    "OfOnK!A+GYR>jA]+]L?Z?Q:&O%sE9)%hRE9!*<8?O]ME9)*<:IV%h8%V+D.Q<R%:8%V9C(Y8%V$%&V.b8%A+/rR|:!j+eHYF8aF9QF8;HYF8sF",
    "9WF8THYF8ZF8lF8LHYF8eF8cF!*JYF<JF8MF*AHSF,SF8PF8EF8GF9BHSFYFSFQFUFTFWF$wF([F9xFr8aF8gj%1_:8i8MZ8Pj8i!dJYF!LF9&",
    "F+G8PF/+T~)=VE%*YFS%W9g/V9xj%1_:8i8Et9%!<08=8i8Ej:>:GjR<S_Xj8q_Xj<|:OD9+:OA8j9f!Id*l:JF$^t(UBSJQBQJUBUJ!=i8AZg",
    "igJTBTJ8$JWBWJ8)J8NBYJ8aBYJ9QJ8;BYJ8sBYJ9WJ!dMYJ!LMYJ9&J8TBYJ8ZBYJ8lJ8LBYJ8eBYJ8cJ8PJ8EJ8GJ89J9BB8jBSJYJ%Lt.y",
    ")u9Ct&ANQIQNUIUN!=68A3g6gNTITN8$NWIWN8)t.pF;.t<HV:FV%P;G/HH8WH8QJ8kH8YJ8mH80J8uH81H8zA%Ic%0(v&49b9pi8Wi8Ql8ki",
    "8Yl8mi80l8ui81i8zE(UlUl8Nl8ll8Ll8El!bE!A/QAc%0(v&4Q8O/X%.8.:GF;.P:LF9+:GP:LF;.P8Qm8kl/QF%C889L8Nt8a&p?(t(A8|t",
    "&0*Xt<^?i(at8s!z9*t(Uyt?5yA8N8P+Tg9b9pC8WC8QF8kC8YF8mC80F8uC81C8zj+eHYF8aF9QF8jHYF9iF9WF8TFx8TF8lF8LHYF8cF8ZF",
    "8eF8EF8PF8GF8MF&5FYF89F8;FSF!:FQF9oj;I9yCTCUC8gCWj(s+D|xUD)v8PBP+D|xUj!Aq!wD888PA8r8U:++eD8aD9QD8TD8ZD8lD8LD8e",
    "D8cD8;D8sD9WD8jD8ED8GD8PD8MDYD,ID&dSC8ZCy8sDSe>yJUJTJ8$JWJ8)J$bBSe.y!hIN8ANxe:Le<OA?%)rW8n.x%D1&UI$:I&7I%dF&E",
    "(1N^yN%DN(c%DN&UN$:N^zN:S$:N&7N%dN.1F&U(1N%DN&7F$:,+1*]N.1N$rFR=e?&F,N1&EN$rF(c%d1$rE*]F)y1$rF$r,+F(c;O)x$rA8U",
    "|lb/c!A]fy9q8aD$Aq$tD]c9JD8K_()wj(UF9b8N!wHHQFUFX!j;U&~F9QP9S:]OP8ER8M8:FTF8$FWF8NJ^)Bh9f8ZF8aJ]eF9QF8;J]eF8sF",
    "9W]eF8s$i;T>2F9WF!dB$i;T>2F!LB$i;T>2F8l]eF8TJ]eF8ZJ$i;T>2F8lF8LJ]eF8eJ]eF8cF8PF8EJP!$&DF8GF8MF8j]eMS;T>2JFYj!A",
    "$A8;$/>YUj%M)V&DEW&LM*_!SGP|gQkM&O!_GP$>c9TMd8<8.Mc9g8a$p,<M8/>4j.yk8y8|GX&i^$Gq$t8Ej^+k8~j8h8r%9r.0j8S8r%9r.0",
    "j8L;H<EXDh!c8PD!Sx9fD:YUD^+k83Dg8.8jC&D!7DS8vrJ!B8vrDX=(g$Mj9Z8L;HX=(g$Mj^++nrk(^j9pC8WC8QF8kC8YF8mC80F8uC81C",
    "8zj8L;Hd9g*f9~+<9;D=(:E=(bAh)wh%?>Sx9[/>M$FM8UYM9&MoY4<^%B+|8K4,m889[8r%3|=!+48i^(8G8,9WO9xO8aZYO8sZYO!LiYO9&4",
    "^(8G8,9pG8WG8QO8kG8YO8mG80O8uG81G8z48i^(8G8,%LO8ZZYO8eZYAq(a$yVQVUVTV8$VWV8NKYV8aKYV!h9yDSV$FDYV8sKYVbx9yDSD8s",
    "V8TKYV8ZKYVb9yKSV!LV8LK8LKYV8eKYVh9yKSVo8eV8PV8EV8GV89V*jKSVY9R&AFQHQF%xFUF!:HF8$HUF9y9R.y8PM8EM8GM8M9R8i$jkJr",
    "J!h9R.y$j!h9R8i*$)rJdJbJXJyJ8AJgJ,99R.y$jhZx9R9pt8Wt8QV8kt8YV8mt80V8ut81t8z9R&y/X9g8<H<HJ:FH(w<HAh)wh%?8ik(a<K",
    "8aN8;IYN8sIYN9WN!dGYN!LGYIYN8lN8jNYIYN9x4,mk(a<K8r%3|=!+48ik(a<K([N9iN8Ej+g=%$6(a<KW$UG8RbGxh4*,S98!s~Y!+E8WE",
    "8Q4(U98!s8E4!A8L$X.s$|$<K^(8G8,$<$qlp4>Sx9VP+ZS&DP$Fl9BA^(!b.w8i9P!uF9h!uF9Pk9lF9hk9lF9P(R9lF9h(R9lF9P!;F9h!;F",
    "9Pb!;F9hb!;F9P%zF9h%zF9Pq9lF9hq9lF9P$IF9h$IF9Pb!9F9hb!9F9P!1F9h!1F9P9nF9h9nF9P,&F9h,&F9P!/F9h!/F9P%NF9h%NF9P!O",
    "F9h!OF9PX9lF9hX9lF9P(=F9h(=F&1,4F9h$?F9P!9F9h!9F9P8&F9h8&F9P9<F9h9<F9P$NF9h$NF9P9lF9h9lF9PWF9hWj;Mk9qj;I8pCQC",
    "9yFCTCWj;Mk^vj;I%JCU(>FSCS9yFyFbFhj(s;M&~J$D&iJ,&JR,(j*,k8~F$D&iFR9cF,%9lQF!u9b!uQA;|d%x$i&x$/8iTMWM$FM9WM!dNY",
    "M!LNYM9&M9BE8jK>yQG(bG:TOUO8)Kq+(k%BKS?6$6!X|bDb$.KR|/8r>4|[8%K:D8r>4|[8%K%M$^DQ=cA(9Q!%$k=W+]!XEQE8pE8gNEWJ.q",
    "!XEQE8pE8gNEWB,JMQM8pM8gEMWJ;F/BNUNQN8pN8gINWJo8eMUMQM8pM8gEMWA+S[*&KB!j^Pc)0>FB$c8iTM9J(OTB!Z&G)5*cB,RQ8_8JB",
    "&qr8D[+B:*$B8G8dy9sZ8q,jZ%X!)B|<[+B+7[+B&i8D[+B$c8iW8C9YB%jW9YB$B!:B9Z!:9Y8b+kiP$g1W8b9YB!F9g8A9k8AL&;&:8S);L",
    "<&P99W&w&c9SB8q8AB&:[+B8q&:[+B&q8Ai8D!)B8e8n&+(!B:($28S);E8e&:$28S);MQB9ZUQB:(8^%YB$uN8D9P8S!)8C8hR|BB08D9P8S",
    "!)lb$=8h);!Y8V9P8S!)(l/(R|BB.U$28S);A[,&J8D.Wj?Wx&iN:*$B8G8dy9sm,jN:(8^%YA+S_%YP^ZB/ATB%j!:BUWB$B&KA/,&;%HA+Sc",
    "&r(M&mBd8_(M&mM9fb8=&:,jA[,?W9Z8KF8h>OF8S>OA&=?OT!J+!NTNQNWNUN8HN8aN8NN9KIQIWIUI8HNYITIQIWIUI8HN8GITIQIWIUI8HN",
    "8cITIQIWIUN8lNx8lNb!,ITIQIWIUI8HN$%SGTGQGWGUG8HN8jIITIQIWIUI8HN8ZN8TN8vN9EN8:N!KN!1IUI8HI8GNd8GGTGQGWGUG8HI8jG",
    "TGQGWGUG8HN8MITIQIWIUI8HN8PA;|d%x$i&x$/8ik*%MR9cMg8$Mh98M8LM8lM$ugM+jMk)]M!h!!Md)]M8MQMy9qMx%)M9|MQMX(aM83*mMr",
    "*%M8U(aM8EQM8eM$.gMc!oMr)]Mc)]Mo(aM!u$/_YM8G9b_YMh;G_YMX!j_YM>i_YM+jP_YMb!;!e_YM9b_YK%M8~$YG82$YG(vXG_z$YGR+4",
    "$YG9|$YG&=82$YGb&DKq+(k+(K!S!vQy&~K$Y9|PQy&~K9pB8WB8QM8kB8YM8mB80M8uB81B8zA?%P8U&D8n.xW1;OBW1QH!9=ZETM*nHU1;OB",
    "Q1QH$v1!VMWH$b=ZM*nEMWHQ18P1WETM*nEBW1QB!9MUBQH?)S=ZIT4,(8n.x(?1&EI^0H(c%Dl?&H%D?&G&7l(1G%dO=fG*]H&E1^yI:R1$rH",
    "(c&E1.1H&E1&U1$rI$:1%Dm)yI^1OW)x$r1$rH:S&EH&U1(?I(c(?H(c&UH&U?&,+I%dH$:1%DI&E1)yI&UH^zH$:,+1%DI%dG=fH&71&UN:S",
    "$:J=e(1i%DJQ%n1<NN%dI=fN*]N$rH<N?&O:S$:H^11&UZ$rH%d?&I^zH(c%dH)y,+O*]A??+m(o(WNQNgN!<IgE9?8_dE!FA9J$>,*+m(oh$|",
    "+alT8>lQ!qG9a:Q+aGh$|0$MA8+)I:Q8i!9%^*oQ8Re;?P(xc*n)0]f[_|JQ8Ne(oy?i[_!9%*!9%*8L*d48|&M8<+b83$d*)D!w^.$]B~TB8+",
    "B,zB^fcB$j*(B+:B8T8HD8<+b83$d+RD(.+px^eO^eG)[8V88^e8[^eD?k8L*dG$w+cRG>ZQ8RD!H&n)[D.e8D)[D~T8D)[Dx!Z>ZQ8RD89=o",
    ")[D/?8D)[D9E&n)[D!9%^)[D$j;_)[D;_)[D^f%^)[D9H|<)[D$D+7)[D/[8D)[D$jX!Z)[DX!Z)[Dd=R|U)[D8R*e8D)[D(E.X)[D*.+7)[D",
    "8T=o)[D89=o9l%_D!H&n8E9/D;_8E9/DX!Z8E9/4|a$]P^fcA[~$]$~9>8G9uO8!D+^(6B8!B9rB94D8/(6J8!J9rJ94D;^T(6M8!M9rM94Dd",
    "9E8+(6E8!E9rE94CT8+(6M8!M9rM94C9E(6B8!B9rB94D9a(6J8!J9rJ94D8/8+(6M8!M9rM94Dc)CB8!B9rB94Db)CB8!B9rB94Dd&=(6M8!M",
    "9rM94BT(6N8!N9rN94D!L.c9uE8!CS.c9uM8!C%a9uJ8!C(:9uB8!D!i(6J8!D8A8r(6B8!D!R8+(6M8!M9rM94Dr%]9uJ8!J9rJ94C9y(6B8!",
    "B9rB94D!h!:(6M8!M9rM94CW!sr!X9&9uZ8!D8A+?9uM8!M9rM94D:~(/8w9u78!J!;8<9uI8!I9rI94J!1S8>!I9H[q38!39r394D(/&H8r[q",
    "O8!O/()^9u8]8!e*,)jJ%mD/FI%mC$V=DO%mO%2*+8w95%mD9]=DG%mD8q+A8oD^j&z%,8w8b%mD!)D87*d8wG%mD8MR8G8we8i!h9uH8!H9rH",
    "94DU9uF8!DW[qH8!D$v9uH8!D:()^9uD8H[qH8!Dk9gr9w&rW[qO8!N$v9uO8!D[qF8!F9rF94DU=L9fP8N9i(R$69gr9w&r$]$ik&O*l9r.P",
    "944|a.g)^8D$]9u)F8!+Q[q+18!8]$,9u;58!8]U9u958!8]W[q+18!8]$v9u+18!8][q958!959rFU=L9f$69gr9w&r.g)^8D)*~?8!~?9r4",
    "8|&M8J9JR9b)CG8!G9rG944|a.g)^8D,d8].J8])Q8])*8])CF]D,dO.JO=;O)QO)*O)CF?p,dO.JO=;O)QO)*O)CH:~,dZ)QZ)*Z)CF(X.JZ",
    ")QF%|,dO)QF;t,dZ.JZ)QF=O,dZ.JZ=;Z)QHS%^.JO)QF_Z,dO.JO=;O)QF[|.JO)QF9i.X)QF.h,dO)QF&o.h,di)QF_5,dO.JO=;O)QO)*O",
    ")CF^k.JO)QO)*O)CF;_$]9uO,dO.JO=;O%_9uO)QO)*O)CF.f,dO.JO=;O)QO)*O)CF%O,dZ.JZ=;Z)QZ)*Z)CF;A,dZ.JZ=;Z)QZ)*Z)CF:~",
    ",dO)QO)*O)CF.g,dO.JO=;O)QO)*O)CF8?=H<%$]9uF_4<%$]9uF$]$ikR9f*6<%$]9uF9B.q*6/]%K9ul,1%K9ul,09ul/]9ul,19ul<%$]9u",
    "F.g)^8D[r8]:|P8!8])D8]^i8!8]%q8]!4F]D[rO:|P8!O)DO^i8!O%qO!4F?p[rO:|P8!O)DO^i8!O%qO!4H:~[rZ:|P8!Z)DZ^i8!Z%qZ!4F",
    "_5%qO!4F^k%qO!4F;_$]P8!O_68!O)DO%qO!4F.f)DO%qO!4F%O$]P8!Z)DF;A[rZ:|P8!Z)DZ^i8!Z%qZ!4F$]$ikR9f*6<%$]P8!F.g[rO:|",
    "P8!O)DO^i8!O%qO!4O)^8D)+8]+M8]:28]%A8]$*P9rF]D)+O+MO:2O%AO$*P9rF?p)+O+MO:2O%AO$*P9rH:~%AF(X+MZ%AF%|)+O%AF;t)+Z",
    "%AF=O)+Z+MZ:2Z%AHS%^+MO:2O%AF_Z)+O+MO:2O%AF[|+MF9i.X%AF.h)+O%AF&o.h)+i%AF_5)+O+MO:2O%AF^k+MO%AF;_)+O+MO:2O_69r",
    "O%AF.f)+O+MO:2O%AO$*P9rF%O)+Z+MZ:2Z%AF;A)+Z+MZ:2Z%AZ$*P9rF:~)+O%AO<%$]P9rF.g)+O+MO:2O%AO$*P9rZ9c9i8w8D=<8]$*P",
    "94F]D=<O$*P94F?p=<O$*P94H:~=<Z$*P94F=O=<Z$*P94H8+,v=<i$*P94F;__694O=<F.f=<F;A=<Z$*P94F.g=<O$*P94F9B.q*6,0P94l",
    "/]P94l,1P94F[|)*O)CF.h)*O)CF&o.h)*i)CF=O)*Z)CH8+,v)*i)CF%|)*O)CF(X)*Z)CF;t)*Z)CF8j%^)*O)CF_Z)*O)CF!5,v,di.Ji=;",
    "i)Qi8r(6HT,v8r(6HS%^8r(6F_Z8r(6F[|%qO!4F.h%qO!4F&o.h%qi!4F=O%qZ!4H8+,v%qi!4F%|%qO!4F(X%qZ!4F;t%qZ!4F8j%^%qO!4F",
    "_Z%qO!4F!5,v~r8!i[sik[si)Di[rHT,v[rHS%^[rF_Z[rF!5,v)+i+Mi:2i%AHT,v$*P9rH8+,v$*P9rF[|%AF=O~r94ZY+T94Z>cP94H8+,v",
    "~r94iY+T94i>cP94F[|=<F9i.X=<F?k,0d9[8!8X_>/V&XA_~.~:9e/2A:_P(o8E[;!X!B%L!,J8:!B%L!,!e9ex8C8p8C9X8b8p79&F8j%L%L",
    "!,!e<~]A8M18p9txF<~]A9>)0?uhN!v9>)0?uhIS!j9>)0?uhNP9>)0?u9~$~9>)0?uhF$%c/PS[Z,!xFR+>+>!,!e<~]A$xS9t)_P8M1&?%_F",
    "<~Y!j9>)0?uhF8T8e+[]P8M1.m?uF8E[;x9X!B%L!,F?p(X%AO%|~r8!!Y9r8b%AO;t%AO%O)+8X+M8X:2F(X%O[s(l9rF%|%O!48X%qF=O%|",
    ")+Z(X+M8[%qZ%O[s(l9r8[)+8[)D.O9rHS%^%|[s8t9rO%O)DH8+,v%|)D.O9ri(X!4i%Ok[s8]9r85)D8]9rF_Z%|%qO;t)D(l9rF[|%O[s!Y",
    "9r8X%A8X!4F.h(X)DO%O)D(l9r8X%qF&o.h%O)D85!485%qF_5;t)D(l9rF^k%O[s8X)DF.f%|)D8b!48b%qO(X)+(l8!O;t)D(l9rO%O[s!Y",
    "9rF%O%|)+8X%A8X!4Z(X+M8[%AZ;t)+8[%AZ(X:2F:~%O)+8X%AF;A%|%A8X%qZ(X)D.O9r8[%qZ%O!48[%qF.g%O)D(l9rF]D;t!4F?p(X!4",
    "8X%qO;t!48X%qO%O!48X%qF(X%O!4Z%|%qZ%O%qF=O;t%qHS%^%|!4H8+,v%|!4F_Z%|!4F.f(X!4O%O!4F.g%|!4O(X!4O%O!4F%O%O!4F^k",
    "%O!4F;A%|!4F^k%O+MF.f%|%AF.h%O!4F;_%O!4F;A(X+MF%O;t!4F.f(X%AF;_%O)DF.f(X)DF;A(X[sF(X%|!4F%|(X!4F%O(X!4F_5%O!4F",
    "]D%|!4F;_%O%AF.h(X%AF8j%^%O%AHT,v;t!4F;A(X!4FR?u!0x!e<~b8pBg!jU>K[D!u+n$k^l8O9uF$wg!jU>K[D!u+n$k^l8O9uFS%L(6Hk",
    ")K9uFh<[~Rc9uF8j%_9uF8E$I%a9uF<~x[qF8M&?%_9uF8j%L9uE%L)]P<~x!J8M&?%_F8s%L8sg8<!!)]A9d>QA:_P(o~ah~S+T9J18Exh9[",
    "9J18E)_hF%1Y(v!X$~!j.m?uFS:yS$~!j8U+>A/b*[)s]q&$%4BaBfBnBpBsBvBwB2B9$MuMaMfMnMpMsA[n&C(S:P%l&z+d6:1$s+Q$J6)g6",
    "?M6*46(86]!,R((=N%;6[c,R((+_o8Ekq8|6$7^wA%I(o.ZB/iz8q|9.ZI/iz!EP.ZH/iz)R|A8,!Ez(o.Z8oB/i8oz|9.Z8oF/i8oz!EP.Z8o",
    "H/i8oz)R|A8,!E8oty[?!6_1g$X.ZO/iA[n&C(S:P%l!|9F/Og(>%:6T!v)48CbP)46>C6?o>C6:96/268h*568S*568h.B68S.B68h8(,R((",
    "=N%;68S8(,R((=N%;68h8q*x6]j*x68h*x68S*x68h[k68S[k6]![k6[c[kA8n8j>P![A%6)s8j>P![A[n&C(S:P%l!|8^&)684&)A)48=^UA",
    "|p&+^UA?o^UA8q?o^U8I!I8=>CA|p&+>CA?o>CA,W+dL:1$sL$JL?ML)gL(8L*4e!v)4L:9L/2L8h*5L8S*5L8h.BL8S.BL?LL^L!PeR!a|2L",
    "+RL.S1:!L%r8OL$!8OL&(L?NL:7.R8OL9%:88OL(K(m)G9083A:_P,0%K9ue8T>eT:*,0%K8we/]%K9ue%uP]Zr,[e,1%K9ue,09uK94e/]9uK",
    "94e,19uK94e9B!L9uD944%)9|9uK94e8i=A9uD?k>b8w9u8[8!G)^9u8[8!D$,8D)^9u8X8!D?k=A8o9u8[8!D.g)^9u8X8!8X9r8X94D$]9uB",
    "8!D!H(6J8!J9rJ94D9E+T/E$G8T9uZ8!J_>/V&XJ8!J9rJ94C8+(6B8!B9rB94D,dB8!B9rB94D.JJ8!J9rJ94D=;B8!B9rB94D(:9uJ8!D?n",
    "9uB8!D8r(6J8!D:|9uB8!D=B9uB8!B9rB94C)_b9uM8!M9rM94C!c9uJ8!J9rJ94D>d9uJ8!J9rJ94D8T(6J8!J9rJ94D9i(6J8!J9rJ94D(;",
    "9uJ8!J9rJ94D=C9uM8!M9rM94D9/(6J8!J9rJ94D+=9uJ8!J9rJ94D,z9uJ8!J9rJ94D%_9uJ8!J9rJ94D)QB8!B9rB94D+?9uB8!B9rB94D8+",
    "(6J8!J9rJ94D$,9uJ8!D)*i8!D)CJ8!J9rJ944|a.f?k>b8w9u)F8!8X)^9u)F8!.O%m9u)F8!3_>/V&X38!A/HP=p)t!/1)I$t+3A]2=p)t*4",
    "z&hz?Lz:7.R8Oz9%:88Oz^L!Pt;7[3z:9z/2z(Jz+Rz$sz.S1:!z$JzR[49.z9pF8WF8QH8kF8YH8mF80H8uF81F8zz)gz?Mz%r8Oz&(z$!8Oz",
    "(8z(K(m)G9083z)H%>6o6q6c6T68J6r6x6Q68U6k6g6h6b6W6X68R68A6R6d6U68H68K606y68dtT;8&)z?Nt;9&)z+2;!z>Cz:$z+SSmomqmc",
    "mTm8JmrmxmQm8UmkmgmhmbmWmXm8Rm8AmRmdmUm8Hm8Km0mym8dt[5*5z/3z8S*5z!&z]!<Vz[c<VA%s=p)t:1$Jz8h[kz8S[kz:1$sz>_(v%c",
    "![B8i$nZ,S8CQ8CU8CT8CW8C8P7U7W8C9~J1[m%T&L[lJ$yZQZUZTZWZ8NiQiUiTiWZ8jiQiUiTiWZ8TiQiUiTiWZ8liQiUiTiWZYiQiUiTiWZ",
    "8ciQiUiTiWZ8PiUiWZ8EiQiUiTiWZ8MZbB/+[lB8n$K1/+[lz?%P?(H8i:RG^yG:R,+G(?m1%d3$rG%DG(c%DG&Em(13&U3$:3&73*]3)y3$rG",
    "&UG$:G^zG$:,+G&7O=eG,NG%dG(c%dG^0G.1G*]G)yG$rGSOTG8PZTG*nOG;OZGWG8MZTG!:G!9GUG9VWZOQG$vG$bG)NGQA]2=p)t:88OzX+4",
    ")hz)/8Oz!Ezo?O8x&Hz_z8Oz$nb8OA%s=p)t&X8_!3&zz&Zz?dz9_z?;z$c(5z+vA*F$P%?9e)/(S9eq)?I?_I!a&^^rA=7!iq!88r>gq!W>0",
    ":N!aA8r>gq!W>0:N!aA$P%?o=Wo(7w!BMf/uTMa/uQMs(FWM9$PUM!M(F8ZMn(g8vM!M),8:Mu*P!1Mp(F%3E),8sMn)d!iMf)d%~Ms(g(xMv",
    "),8NMn*P!RMs),%RM(GP!uMw(F!_E!M$iMu&e9HMv&e$KMup,4M*N,xM!Ms.uMa*P$hM!?P!qMp(h!/E(g$DM!M&e8LMv(h8/Mf,>9LMu(F!OM",
    "$8P%CMu)d$wMv/u8RTMa(F8RQMf(h8RWM(iP8EMa),8rMp&e9dM!M(h8&Ma)d9CMfu+|M!M2)sMnu[ZMu(h$IM+I+iE,>8TM!M*P9EMf),!KM",
    "!M(g9nMs,>9~Mp*P8MMv(g9VM$9P!wE(h$nMu),9iMv*P$EM!yP;EEp!BaMnf!BfMw(g8)Mv(Fc9VM).Pc$nMnw$58MMa2&v/vMsa&v9EMv)d",
    "8EaMf&e8EfMs/u8&aE)d8TaMw),>eM2(F8Qth.z%i!MuwB2JaaJ:uJnvB2J)BJsfBnJv2JwaBfBsB2j*H]<u(7P$QE(h>[E*P8v8yE(g|KcN8J",
    "$p,QNh:3g>WEs8JPT9VN!v+%Ev8J;,1!;83N!v8+1!;83Ew8J9s*qN!v%N9JE28J%v*qNh%i</M!y$~[VdEu&Hg,BE(h%E8mEf/XQ$AE(g,g9%",
    "9.j$R]<(ev$6|GEw$6(v!uj*H]<u!?PW!oEu$~,/Eaj$R]<)$&e,Q8LE(g(mQj*H]<u$9%i$1$EE(F?hcEaE(g(DgEsM$8E(F/&EaEfEnj$R]<",
    "up)d,DWaj*H]<u+yEwE2=+8?M(iEuE(h&4,[E&e]t)5EnEpEsEvEwE2M(GEuEaE&e$R8?EnE)d]/EvEwE2M)eEuEaEfEnEpE2M).E(Fx!G+<Ba",
    "!yP;]R;RgEp%i*gd&PM!?/X&3E(F9GEaEf9s<PcEnEsM$9P[Y8=]S::E(F]S::E(h]S::P]Z9HE&e[YEpEsj$R]<)A),8:X9Ej*H]<)AwE2Mpu",
    "EaEfE*Pc9JdEpEsEvEwE2J8H[G!G%iuppZa(7lulalflnlplslvlwl2i9$lulalflnlplslvlwl2iaulalslvlwl2i$8Z!?pA!V9K9[:D?_P$P",
    "N![e;g8%e*2D8QC8kD8YC8mD80C8uD81D8zD!fC(CC)zD.3C;QD.4C&8D>tD>uD(ZD9F91C$V91D9]91C$d91D%U91C%Q91D$_91D&I91D9!9=",
    "D9F9=C$V9=D9]9=C$d9=D%U9=C%Q9=D$_9=D&I9=D>aC8K_aC*o)ED(y)EC&S)ED80)EC%0_aD|i)ED8z)Ee8K81?4*I;kD?|!F*r;kD8n_T%1",
    ";kD^=*r;kD8Y8?*r;kec!^P>*~c?|!F*r;ke9t$%Q%*>*~c?|!F*r;ke>*,<)s_T%1;kC^=*r;kA/,S?P$W8~!6S+]!6:&i%sic,;8cI,kO;8y",
    "O|391l9=O8J)EO|3_b&NI[o_b&NI=uP_b&NI|L_b&NI)|(f_b&NI9!9=P_b&NI)|9=P_b&Nl*L[tI!f:3[tI=u:3[tI(Z:3[tI)|91:3[tI9!",
    "9=:3[tI>a:3[tI?0)E:3[tI[oh[.H+lS$b!v9!+D(9$1H>?X978WH+lh/a978WHT9L8Z,<9[8QH>?X978QH,g%9S!69Fc,;;$HT9L8Z,<9[9Fc",
    ",;;$H)lT<C97,kl!f6P+G&XH+lh/a97!fHh[G8x97!fH>?X97!fi)zJ8&T<C97=u7P+G&XH+lh/a97=uH>?X97=uZ(ZZ9)91HT9L8Z,<9[)|91",
    "H)lT<C97)|91J8+%W97)|91Hq^&!F97)|91H8l097)|91H>?X979!9=Z)|9=H+h$W!6)|h[.H/=d97=u$p[.L9!%s8OBP+G&XL^<)pe$V%h)pL",
    "y&38OL_bd8OLc,;8c8OLW.z8OL9FW.z)pe$VW.z)pL9]W.z)pe$dW.z)pL9H,a9E)pLk^Z].?48n8OL9t(V8OL+4k%J8OL>^:%)pL9J8T!H8O4",
    ")5S8OL>k~R8OLd!^o>W?48n8OL/H8OL:&8OL^nU$IQ)hL]L,68OAb9*.:8OA[A9[R93%K)pL^d%J8OLR!W^d%J8O409~8G8OL8:$K]g)s09~8G",
    "8OL!79t$%S8OLc8x9J:r)pL$%829J:r)pLR9;!ad:r)pLc9N8~c:r)pLS)pL:8U9d>QAS,O%J8fA/,*,+XP(PA+/!]9n8_/Pq*:8/.n%/,*Mg",
    "9X8=&0Bd83;R8=&0B/dd8mMx>]B>[Bx!G+<Br8)*O:]B!K+[B9GB<hB*.!GcBq|vB$Q%.+wE_V%pB8j8KBg(dB/L(m9qB(A&]%/!N:tB:7Q9XB",
    "(KoBRg8.Bq%E9XbB+^x8mB]pB/&M*HBo</8_);Bq83B+%BT!$9SB!19aBd9|)UB+^B~L]/B8H,/B/Ry9CRB8&%G9EB9t%,B>:P)!B&G?:B*b!a",
    "B!F,r8yM_3S>^B?oo!PB%I?CA%,q,*$yDTDoCxDrDcDQD8KD8dD8?D8UDkD8RDgDhDbDhhD&/DUDXDkkD8ADRDdCdD9eD8xDxD0A(A,*$yDXaD",
    "cDgDU(bD8ADgcDSaD8RDoDhDWDcaDdD88FaCDq%4wDUD&/D0DbD+]aDXD,9DQDTD(b(bDkCaDbcD(bDrCaD!FFaD!hD(zDq1f2D+]D(b/vD8A",
    "8AD)kFaFfFnDgcaDTaDU(bf8I!%d!6(^%.!89=R8%K.2B8QM8kB8YM8mB80M8uB81B8zK,HE(CE)zM.3E;QM.4E&8M>tM>uM(ZM9F91E$V91M",
    "9]91E$d91M%U91E%Q91M$_91M&I91A*1>%(UJ!HJ!RJ8vJTJ9aJ$EJ8+J%&JQJ8NJ!GBhBbB88JWJ8/J!5J!_J8yBRJ9EJUJ&~RJX8+Jk8+J/<",
    "B8ARJ&=J(zJ(bJ[Gt/:908WB,kB!fB=ut8i&xJ^c.8bP<=JR!!.8bP<=A!;8?<F!,8jD8e9g>oD&*8eDc!$RD8$x/6RD$w9g8?8ED:r8sDYrgD",
    "8?:r8?DT!]Dk9.8cD:V9.D8c9&Db8):ID?,D9f9.D8L9g8?8ED>uD8EQ8ZDR8)!oDd%x8KRD[O8sD9xQ!XD<L8KRDx8M9gDW?nD&I91A*19%h",
    "<F9eJ+LJr8$J!1QJTJ$0WQJ.V9lQJ8d)nJ.V:<JQJ!u!RJg%xJ$>!:Jb8x!:J$NWQJ(YQJ8rQJR(zJd8$JUJ&=!^JR*pQMq*pQJy!^BT9CJWBW",
    "J/<JYJ&N:rJ$$J,sEQB83J%yJ$vBSJ%JA%I*19%h<F9el!1Ql8d)nlb8x!:lR(zAU8a/U<F8<8LF*!Fr9c8GF$[F,iF9lF$nF;<F9l8TFd8|Fy",
    "(TF,zF(.F:;F*(Fc.cF$HF,JFR9c8NF(;F%CF=RTF8RW8LF8E9BF&59&F=CF9nFQFUFR&Oj:D;a8yA*19%[<*:SHQHUH8NJUH8aJUH([H8;H8s",
    "JQH8TJUH8ZJQJUH&5H8LH8eH9xH8lJUH8cJQJUH8PH89JQH8EJUH8GH8jH9iH9BJ8jHYH8)=c8d/Ki$qiYH09B$U*g*mHc!,8P8)88Z$qH8e8a",
    "JU9X*cV:D;a8yV*2B8QM8xM(CB91A.n8y.w8B9?QlTlSmxlWmWI$2QmTmS3xmW3WI$UI*qI*_I?AIxI(YI+^Id8gI?+Iq)_I];Ik$UIr$UI/<I",
    "9aTI(9Id)_I9;I$ETI(!I+)TI8yGgGhGbOrIWQIT8K459?QZTZSixZWiWE$2QiTiSlxiWlWE$UE*qE*_E?AExE(YE+^Ed8gE?+Eq)_E];Ek$UE",
    "r$UE/<E9aTE(9Ed)_E9;E$ETE(!E+)TE8yNgNhNbIrEWQET8KA9B8H978i(YXCd9MC%R%pC9/TC8?=LC$IF,<C8>9f8>Cy(>Cx&DC$&oC8v!cC",
    "r!$C8H*qC%&yC;EWC>*,<C(xc9KC$nTCY1YC9<$ZC_8TC&SCT/tC!IF!1C8~C(DgC)aC!,C8&9JC$HCT83CS9KCQ$AC9NCW$tFW$EF!oCS9VF",
    "8rC9ACS9gC8y8ACS,!yC&3C,*C&x8KA%n$Q/M8i$]C8eC8TC8sC([C$[C?+gC8EC8jF9w82C*;C8;%%C8aC9xC$w%]C8N%]C8G9eC$K82C$D9|",
    "C$,CYC8PCSCTCQCWCUC8pC8gC9o49pD8WD8QC8kD8YC8mD80C8uD81D8z9,S<o%>NQIbNxEo8EE$FE$M$FNN82EYN8PEQE8NE$M8NEk8PE8GE",
    "8cE8lEWN82E8LE$M8LE8jNYE8TE$M8TE!*E$M!*Ed9BE*;EUE8ME$[E/>E9iNYL+!MQEbMxBo8EB$FB$M$FMM82BYM8PBQB8NB$M8NBk8PB8GB",
    "8cB8lBWM82B8LB$M8LB8jMYB8TB$M8TB!*B$M!*Bd9BB*;BUB8MB$[B/>B9iMYA!G8e/;$yC!HC$AF8+C8vCb8vCc8+C%xFC9/C9KF!iC8+CQC",
    "!iC!RC9SF9SC9HC$hFSF!iCWC8/C8RTC8rF8rC8nF8+C9EF8+CUC9aC>^CyC$EF8+C)oH~RCk8+Aq8)q9>978<,M,*$ygdZo8|Zr!DZc83ZToZ",
    "8d9JgZT%%Z$0!oZd9>Z$FZy*qcZ*AZ9goZ9BZ.oZQ9WZ>^%%Zc)wZ(AZ8Ux>:Z.sZ%,98Z8+%7Z$wyZS9AZq9lylQiy$UZ8c8RZ8R9JZ+aqZ.V",
    "y$UZ9BkZ8s%%Z8~Z(<$UZ9xhZ<JyZq,yZ&]Z)o.)Z,FZR,BkZ9ay8dZ!K8K8AZ>TyZQ.aZq8P8KiS%%Zy$UcZ9L8K8AZ%R8KBq98*&A8H]W!_",
    "8R9b%>Go!HOTG$AO8+G8vO8+G%xOG9/G8aGYOYGQO!iG!iG8NG8GO8GG9HG$hO!iGWG8/G$wG8rG8nO8+G9EO8+GUG9aG>^GyG$Ej+!No!HITN",
    "$AI8+N8vI8+N%xIN9/N8aNYIYNQI!iN!iN8NN8GI8GN9HN$hI!iNWN8/N$wN8rN8nI8+N9EI8+NUN9aN>^NyN$EA$P%?S*:!2%=JaJfJnJpJsJ",
    "vJwJ2H9$JuJfJsJvH!yJuB8JBhJaB8JBhJfBhJnJsJvJwC!MawoCo!Ma2H!?JuJnJvJwJ2H$9JuJnJpJsJvJwJ2H$8JuJfJnJpJsJvJwJ2H(iJ",
    "uJpJsJvJ2H(GJfJnJsJvJwJ2H)eJuJaJpJsJvCu(719$aCouuwH!yCu!yoCo(eaJfHfuSBoC)$uqCousnHvuH)eJwH2uC!?uHaHfHnHpHsHvHw",
    "H2SJoJqF9$HuHaHfSJoJqHnHpHsHvHwH2F!yHuHaHfHnHpHsHvHwH2F!?HuHaHfHnHpHsHvHwH2F$9HuHaHfHnHpHsHvHwH2F$8HuHaHfHnHpH",
    "sHvHwH2F(iHuHaHfHnHpHsHvHwH2F(GHuCn(7,eHu,eHa,eHf,eHn,eHp,eHs,eHv,eHw,eH2,eF9$,eHu,eHa,eHf,eHn,eHp,eHs,eHv,eHw",
    ",eC$8uHaHfHnHpHsHwH2F9$HuHaHfHpHsF!yHuHfHnHpHsHvHwH2F!?HuHaHnHpHsHvHwH2F$9HuHaHpHvHwH2F$8HuHaHfHnHpHsHvH2FsfHn",
    "HpHsHwH2F(GHuHaHfHnHpHsHvHwH2F)eHuHaHfHnHpHsHvHwH2F2uHaHnHpHsHwCs(7HuHaHfHnHsHwH2F9$HuHaHfHnHpHsHvHwH2F!yHuHaH",
    "fHnHsHvHwH2F:uHvHwF$9HaHfHnHpHsHwH2FpuHaHfHnHpHsHvHwH2F(iHuHaHfHnC(Gu!BHa%iH&ecH*PTH(g8JH)dxH),8UHw$6H,>gJ1(hg",
    "aB&egfB*PgnB)dgsF9$$~H(F0H(hyH&e%HH*P!2oHp%ioH),.qFa)d,ByyFf(h!iCw(7HuHaHfHnHpHsHvA[,&;8pH~/&q*Z)gl%w*Z)gH_3!V",
    "N9:oNo9^Nc&r(M8C&m8t)<I.]+T(MI)mm(%78V%uN9vTN%$9v/%N9/b$=(MN+%8_/&N9:rNr9^N9:r9^Nx9YN9:xNx&i9^N;(8U?X!P%YNg8_",
    "(MI&r(MI8D>JN9::*>JNg&m8V>JIT$0Z&mN9Zy38D>JNW9YN9:!:I9<>K%HN8RN9Z&:9?);958V[)N8A)mm+&(%N9:8ANd?Z(M8D)<I8_(M8C",
    "&mIT>H(MI&mN=o84%YN9:yF+U9YF9v+U9YF$&8G$&90q>IF,l90q>IF8G!a90q>IF8<9aW.R%v>IF8r)l_0%v>I&mF87R8D)<A,g=S::=WSHTH",
    "QHWHUH8sJWH8NJTJQJWJUH8GJTJQJWJUH8cJTJQJWJUH8lJTJQJWJUH8LJTJQJWJUH8EJTJQJWJUH8jJTJQJWJUH8TJTJQJWJUH8MJTJQJWH([",
    "JTH9iJWA!D9%Q90S=c!6==G.kG.eG<1G8+G$,G/?G,AG?sG/wG/IG:4G*(G$HG/[G*)G8/G:BG[uG+:G(.G,7H|88OH*2G8QO8kO8xO(CG(Zl",
    "9=G>aA+Zhy%9!J==H.kH.eH<1H8+H$,H/?H,AH?sH/wH/IH:4H*(H$j$HH$HH/[H*)H8/H:BH[uH+:H(.H,7V;81%2|wU$1z)i|wU$1z*2H8QJ",
    "8kH8YJ8mH!fJ(CA8l<D!V9[8i$jS|MHS|MH$j.kH.kH.eH<1H$j8+H8+H$,H/?H,AH?sH$j/wH/wH$j/IH/IH$j:4H:4H$j*(H*(H$j$HH$HH",
    "/[H*)H8/H:BH[uH+:H$j(.H(.H,7z*2H8QJ8kH8Yzq9C)G:P<_8Yz<_,kH!fJ(CH(ZAY%/9[==D.kD.eD<11+:D8+D$,D9i%%D,AD?sD/wD/ID",
    ":4D*(D$HD/[DS%%D8/D:BD[uD(.D,7e*2D,kD!fC(CD(ZAX9l8x$k,*$yg8JJo8|Jr9cgJ+hdJ8+J8MUJ9iQJx8|Jd8|Jy(TJ,zJ%_cJ*(J$HJ",
    "R!WkJ(;J8/J=RTJ8R*eJ8&88J(.J+Xt*2J!fB(CJ(ZJ8QB8kt:D?_A%,c,*$yDoDrDcDTD8HDQDyDkDgDhDbDWD8AD,9DdDUD8JD8RDRD+]D9e",
    "D8xD%,D&/Dqe*Z<|Ah]=98!69w]=r%,(Nq$ymTmQmWm8Pm8Mm8e6$qm8Lm8cm8l6$q3T6$qm8E6$qm8Gm$[m/Bm8j6$q3Tm8Nm$wm8T6$q3T6",
    "$q3Wm8ZN*,!bc8U7$qj.TR8m$yGTGQGWG8PG8MG8eG8LG8cG8lOTG8EG8GG$[G/BG8jG,o8jG8nG8NG$wG8TOTOWG8ZH?Q<aP[vZ9!%sH|k=%P",
    "8AhdZ!DbH*2G8QO8kG8YO8mG80O8uG81G8zG!fO(CO)zG.3O;QG.4O&8G(ZG9F91O$V91G9]91O$d91G%U91O%Q91G$_91G&I91G9!9=G9F9=O",
    "$V9=G9]9=O$d9=G%U9=O%Q9=G$_9=G&I9=G>aO8K_aO*o)EG(y)EO&S)EG80)EO%0_aG|i)EG8z)EG9!<?G9F<?O$V<?G9]<?O$d<?G%U<?O%Q",
    "<?G$_<?G&I<?H]N>eg;8xZ9F[vi$V[vZ9][vi$d[vZ%U[vi%Q[vZ$_[vZ&I[vZ[o[vA$[8&88d9w$yt>yNUN!=NTNWH:Ht!A8q!)8oF%bF$^t",
    "+eBYJ8aBYJ8;BYJ8sJ9WJ!dMYJ!LMYJ9&J8TBYJ8ZBYJ8lJ8LBYJ8eBYJ8cJ8PJ8EJ8GJ89J9BB8jBSJ9iJYJk8NJ+]&5ESJ8HYt?w&H8wFq8)",
    "8ZF$)t:Lt.2H8QJ8kH8Yt,HB(CJ(ZN9=t]N%st&yP![I,W!rI*KG(E:8&HI8c9Q%_Ig9M9.I<HG:FI$PRA*1|z+[o978i8+O:4O,AO*(O[uO$,",
    "O(.O+:O.kO,7OR83O/IO$HOk,AO:Bi9H(RO9/O$]Z%%O*;c8+O.eO<1O/>%%O?sO9i%%Oc.c(9O/wO&58Ki(9J*2O=uE8y!6^M8F]++[o978i",
    "$*O%_O^hO=EO+=O$,O9;$qO[[O;^Od$MO9;%4O,zO+?O>cO=RO9;1fO/DO$]Z82O>dO9K!WO(:O=CO*dO:|O?nO(/Od$*O9ixJ*2O!fZ(CA$QQ",
    "$FT9[==J.kB,AJ.eB9w|gJ<1J8+J$,t!A%St8i/?Bx*)J8U*)Bx*)J,AJ?sJ/wJ/IJ([$WJ$[$WJ:4J*;9H.lJ&59H.lJ*(J$HJ/[J*)B*)J8/",
    "J9/J:BJ[uJ0|xJ8Rx|xJ+:J(.B(.J,7t|%*&8wm%mt*2J,kJ!fB(CJ(Zt&y,~I|wU$1I8q/O99^eO!899^eZI=FI&+?(AS9aR%K$yFSFWFSWFb",
    "F9eFTHTCTFTCWFWCQFQCUFUC!RC>^F&xF9aC9KF9KF8+C$AC!iC9EF8+C8vF8+Cd9EC8/C9/C!HF8+Cb9KH&xH9aFTF&xF$hC9HCx9HCy&xFTC",
    "9aC8rC9SC8nC$EC!5C+)C88&xF!5C8+4|%*&A=i!N=F9U9!?mA87=F9U9!?mA)S=F9U9!?mL9!![9U^j&yL9F!)R9U9!(_&yL9!!)9U9F!)8_",
    "&yA82~f*[90&t8?97==3.k3.e3<138+3$,3/?3,A3?s3/w3/I3:43*(3$H3/[3*)38/3:B3[u3+:3(.3,7I*238Q68k38Y3!f6(C3(Z8b9=Fx",
    "8G!bP==m.km.em<1m8+m$,1*)1+:m/?m,Am?sm/wm/Im:4m*(1[um$Hm/[m8/m:B3x82m,7N*2m8Q38km8Ym!f3(Cm(Z79=AX&?&MX!,8G!bP",
    "==I.kI.eI<1I8+I$,1*)1+:I/?I,AI/wI/II:4I*(1[uI$HI/[I8/I:BGx82I,7F<OF9Z<OF9]_999*y6![F*2I8QG8kI8YI!fG(CI(ZA*1,Dk",
    "<F(HSJ(jSiTJ(HQJ(jQZTJ(HWZTJ(j!:J(H!2J(j!2J(H!VoJ(j!VoJ(H!$J(j!$J(H!VrJ(j!VrJ(H!cJ(j!cJ(HS$(O.]J(j.]J(H$UJ(j$U",
    "J(HS,BJ(jS,BJ(HS&~J(jS&~J(HW&~J(jW&~J(H8<J(j8<J(HS!GO!GdZhO9eZ8xJ(jS8xJ(H&CJ(j&CJ(H8xqJ(j8xqJ(HT)UJ(jT)UZ9qJ(H",
    "&iJ(jS&iJ(H(^O!%O$kOTqJ(jTqJ(HS8RJ(jS8RJ(HQ8RJ(jQ8RJ(H)cJ(j)cJ(H9JJ(j9JJ(HS8yZRZ9;Z88J(j!IJ(H(!J(j(!J(H83J(j83",
    "J(HS8|J(jS8|J(H9MOo!I8Fx9|&497%>3SmTomS)kmTq3bq3qR3cm!PmTm?^*ITm8g38J3r6y3xmQ3QmT8U3km$tm9|km!G6y3h3b6ymW3Wm!q",
    "k%ER+L$=!:m9C8:$>*f!:mW8gm(^3hX38Am$28ym9;68d3d3*O3(<38>mU3Um!qk%ER+L$=9ym9C8:$>*f9ym%038d6R3*O*z8/)hm9.D+!lSi",
    "ToiS)kiTqlbqlqRlci!PiTi?^*ITi8gl8JlrmylxiQlQiT8Ulki$ti9|ki!GmylhlbmyiWlWi!qk%ER+L$=!:i9C8:$>*f!:iW8gi(^lhXl8Ai",
    "$28yi9;m8dldl*Ol(<l8>iUlUi!qk%ER+L$=9yi9C8:$>*f9yi%0l8dmRl*O*z8/)hi9.D*2E,kE!fE=uE(ZO9=A%B&S9b8&_$8P$yI8eI8LI",
    "8TG8TI8sI8;IYI$[I9xI8ZG8ZI8EG8EI9iI8jGYI8NI8aI8GI8cI8lI8MIk82>i8MI8PIk82>i8PI9QG8PI89F;ISNQNUNTNWF)O_%82E>ik9l",
    "9&F!A$L8eYyE8TY8GI8lIR!7F9pN8WN8QI8kN8YI8mN80I8uN81N8zA<09b.2t8QV8kt8YV8mt80V8ut81t8z9R,HK(CK)zV.3K;QV.4K&8V>t",
    "V>uV(ZV9F91K$V91V9]91K$d91V%U91K%Q91V$_91V&I919R]N%sJ%hJ^=D^<RAy.](d9b8i!G&SD!HD8/C8+D%&D8nDq!DCx!DFx!DD/BD([D",
    "(:D9igD8ECYD9iD8sD^nCx82C!cD>dD8TD$EDT%%D08+%%D9xD89FP+G&XD+=D,zCx%]Dr%]D%_D_8D$HD9XD$,D*qDT8KDYyDy9MD8|e%I=A",
    "8%H>b8%e.S*&e8i%_!UDy9M+88wA*1R+gc97==B$jS|MB.kB$j.kB.eB8+B$j8+B$,B/?B,AB/wB/IB:4B*(B$HB$j$Hl8D!|%uB/[B*)Mg+b",
    ".~*)B8/B:BB$j:B38D!|%uB+:1*)1<1B(.B,7B$j,7l8D!|%uV*2B8QM8kB8YM8mB!fM(CM)zB(ZV]N%sV(o*)1<1AR+gc97==C.kC.eC8+C$,",
    "C/?C,AC/wC/IC:4C*(C$HC/[C*)C8/C:BC+:1*)C(.C,7C8J(9Cg(!4^!c>0(.4%I$)J=JJ)jJ/FJ<y])G%mJ()I%mJ&L%Y8oJ+:8oJ*X8o4*2",
    "C!fF(CC(Z4&yP9F+AR85%+RM*K%+M8Q!rR%+RM%s!r%+A*1Uy&o9fP==J.kJ.e1,AJ$,J/?J$j,AJ/wJ/IJ:4J*(J$HJ/[J8/J:BJ+:J(.J,7J",
    "g(!t%I)jO%mE/F3%mt&y&HI8Q&HRi&[I9]&[Aq)?9>h97==J,S|MJ.kJ.eJ<1J8+J$,J.T=Q$,J/?J,AJ/wJ/IJ:4J*(J$HJ/[J*)J8/J+:J(.",
    "J,7t*2J8QB8kJ8YJ!fB(CJ(ZAT%,8c!6==C.kC.eC<1C8+C$,C/?C,AC?sC/wC/IC:4C*(C$HC/[C*)C8/C:BC[uC+:C(.C,7j|a/?1/wAo8Ex",
    "$K8O:GV%bV$^V$.x89^t*mVU8L.l$Q*me(UCSDQCQDUCUD!=I8ANgIgDTD8$DWD8)D8NCYD8aCYD9QD8;CYD8sCYD9WD!dFYD!LFYD9&D8TCYD",
    "8ZCYD8lD8LCYD8eCYD8cD8PD8ED8GD89D9BC8jCSDYD%LD*1,GQ$4g%LG,!Gb9&e&AJo,y!K%Tg!e8pJQBQJUBUJ!=i8AZgigJTJ8$JWJ8)4Q",
    "=ce<H4:Fe&yP![E&P%F![B$PB~B&HBg9M9.e*2D8QC8kD8YC8mD80C8uD81D8zD!fC(CC)zD.3C;QD.4C&8D>tD>uD(ZJ9=e9pK8WK8QD8kK8Y",
    "D8mK80D8uK81K8ze!A*1,GQ$4:Le8i*1,GQ$4$2T3We%M*1,GQ$4$2T8bWe8i*1,GQ$4%Le<_?eA8N]WQ8O:GV%bV$^e(UCSDQCQDUCUDTD8$D",
    "WD8)D8NCYD8aCYD9QD8;CYD8sCYD9WD!dFYD!LF*;FYD8AYD9&D8TCYD8ZCYD8lD8LCYD8eCYD8cD8PD8ED8GD89D9BC8jCSDYe&AJQBQJUBUJ",
    "TJ8$JWJ8)e.pV;Je<IeT/:;%e?Le<Oe8q<O4<E4:Fe%M!=e?L8wAR+;9s9*&]$=>S!,M*dMo!,Mq!,Mc!,Mr!,Mh!,M9QxMg!,Mb!,M89xMX!,",
    "My!,M8ExM^hMk!,M8sxM9WxM!,MT$MMQxMUxM<[M$MM))K9pB8WB8QM8kB8YM8mB80M8uB81B8zA$Fk8c8O:GV%bV$^e(USDQDUDTDk8pC)uDr",
    "8pC)uD9QSDq8pC)uD8sSC)uD9WSDd.mF)uDc/KF)uD9&SD.mC)uD/KC)uDb8pDX8pC)uDo8pC)uDh8pDyy8pC8pD8ESDg8pD$xDR8pD)ue?5JQ",
    "BQJUBUJTJ8$JWJ8)JWQeW8%e8)8%e:Le8c$Uy8pe9pK8WK8QD8kK8YD8mK80D8uK81K8ze<Oe<H4:Fe(8e8ig)ue&AJ%xe8i89SA8cY8s!q$yF",
    "QFUFTFWF8NHYF8aHYF8;HYF8sHYF9WF!dJYF!LJYF9&F8THYF8ZHYF8lF8LHYF8eHYF8cF8EF8GF89F8jFYF,!j>lj<Ij<Oj(o889dA88+[8Z",
    "8O:GK%bK$^4(UFSCQFQCUFUC!=G8AIgGgCTC8$CWC8)C8NFYC8aFYC9QC8;FYC8sFYC9WC!dHYC!LHYC9&C8TFYC8ZFYC8lC8LFYC8eFYC8cC",
    "8PC8EC8GF8GC89C9BF8jFSCY4&ABQMQBUMUB!=l8AiglgBTB8$BWB8)4.pK/QK$.x89^t*mKU8L.l$Q*m49*4<Hj:F4<I4?_j!P9w8%j_(P;J4",
    ";I[,<|4^SP$2|;8%4&O(V8%4%M=S*c&5+c*lT4!A$B;.49pD8WD8QC8kD8YC8mD80C8uD81D8z4&~9c4<^?i(a4&0*X4]nQ$D;%4<O%4Ea8I82",
    ".c!j,o.2N8QI8kN8YI8mN80I8uN81N8zF,HG(CG)zI.3G;QI.4G&8I>tI>uI(Zi9=Ak9l8U%R$yCSDQDUDTD8$DWD8)D8NCYD8aC8aCYD9QD8;",
    "CYD8sC8sD9WD!dFYD!LFYD9&D8TCYD8ZC!LCYD8lD8LCYD8eC8eCYD8cD8PD8ED8GD89D8jDYD%Le&AJQBQJUJTJ8$JWJ8)e:JV:LV;JV9B!Le",
    "<H4:Fe:D?_e<Oe8q<Oe<Ie<^%)9|A^t%KQ$yCQCUCTC8NFYC8aFYC8;FYC8sF8sC9WC!dHYC!LH8ZHYC9&C8TFYC8ZFYC8lC8LFYC8eFYC8cC",
    "8PC8EC8GC89C8jCYC,!FY4<OAk!X8Z8M8:$yJSHQJQHUJUHTH8$HWH8)H8NJYH8aJ8aJYH9QH8;JYH8sJ8sJYH9WH!dBYH!LB8ZH,!Hc*;H9&H",
    "8TJYH8ZJYH8lH8LJYH8eJ8eJYH8cH8PH8EH8GH89H9BJSHYz:Jz&AEQNQEUNUETE8$EWE8)z>lC:Lz9pF8WF8QH8kF8YH8mF80H8uF81F8zAr",
    "+n&5*:%I%b8wD^s++%3K%bK$^4(UFSCQFQCUFUC!=IgC8gC8$C9oC8)C8NFYC8aFYC9QC8;FYC8sFYC9WC!dHYC!LHYC9&C8TFYC8ZFYC8lC8L",
    "FYC8eFYC8cC8PC8EC8GF8GC89C9BF8jFSCYA%I++%38oAr+n&5P>lK/Q4&ABQMQBUMUB!=l8AB8gB8$B9oB8)4.p49*4S!e:H4!AX!S8T48i?x",
    "%bE8q%bFW)v!68A8AI$Z4%M$N)v!6glgA%Ir+n&5P9pG8WG8QO8kG8YO8mG80J(UO8NO8lO!bO8LA>1S$yKSVQKQVUKUV!=E8AMgEgVTV8$VWV",
    "8)V8NKYV8aKYV9QDYV8;KYV8sKYV9WDYV!dDYV!LDYV9&V8TKYV8ZKYV8lKYV8LKYV8eKYV8cKYV8PV8EKYV8GKYV8MV9BK8jKSVY9R&AFQHQF",
    "UHUF!=O8AGgOgFTF8$FWF8)9R.pz;.z%bz$^z;Jz/Qz$j%b9R9*9RR?i9w9R<HL:F9R$s9R8a&p?(9R<I9R9pt8Wt8QV8kt8YV8mt80V8ut81t",
    "8zL~b$s9R+D.Q<R%:8%9R|n8y*[8O9RR!P9w8%9R8i?x%b9R!A$.x89^t*mzU8L.l$Q*mAd9g!X*f9e$.4(UFSCQFQCUFUC!=G8AIgGgCTC8$C",
    "WC8)C8NFYC8aFYC9QC8;FYC8sFYC9WC!dHYC!LHYC9&C8TFYC8ZFYC8lC8LFYC8eFYC8cC8PC8EC8GC89C9BF8jFSCY4&ABQMQBUMUB!=l8Aig",
    "lgBTB$2TB8$BWB$2WB8)4?w:GK%bK$^C=cK;JK/Q4r8H9q4<I49*49pD8WD8QC8kD8YC8mD80C8uD81D8zAR?i(a$yFSCQFQCUFUC!=G8AIgGg",
    "CTC8$CWC8)C8NFYC8aFYC9QC8;FYC8sFYC9WC!dHYC!LHYC9&C8TFYC8ZFYC8lC8LFYC8eFYC8cC8PC8EC8GC89C9BF8jFSCY4&ABQMQBUMUB",
    "!=l8ABTB8$BWB8)4?w:GK%bK$^C=cK;JKR?i(a4<Hj:F4?_P![J)K48r>4|[8%%4GaGf4)P?ld8%4<O8D%o,l8VU*z.E=>R8t%(_cZ8E.)8V%(",
    "_c8]8q_c8](w_cE8q!)8C8D8E.)E/(8q_cZ(w_cZ>8%F_cZR(^d9N%F_cZ*KR8V8E.)8t9F8x<MU(E8t9]8x<MU(E48i?y1&B+GQF$n1&B+GQ",
    "85QC+GU4%M+GU3UA$?8:$yKSVQKQVUKUV!=E8AMgEgVTV8$VWV8)V8NKYV8aKYV9QV8;KYV8sKYV9WV!dDYV!LDYV9&V8TKYV8ZKYV8lV8LKYV",
    "8eKYV8cV8PV8EV8GV89V9BK8jKSVYV%L9R&AFQHQFUHUF!=O8AGgOgFTF8$FWF8)9R:Jz$^V=cz+oYq^s9R<HL:F9R<I9R!A!X899R9pt8Wt8Q",
    "V8kt8YV8mt80V8ut81t8z9,b?h97.6r*6=>z(].68az8q.6r*6=>z(w.6r*6=>z.68a+*=>z(].6r*6=>m9+$zz$B.68aG+*=>z+$9g$4.68aE",
    "8D=>i9+$zz9Z+$9g$4.68a+*=>A|c9d$yDSKQDQKUDUKTK8$KWK8)K8NDYK8aDYK9QK8;DYK8sDYK9WK!dCYK!LCYK9&K8TDYK8ZDYK8lK8LDY",
    "K8eDYK8cK8PK8EK8GK89K9BDSKYK,!L:Jt$^L&AHQJQHUJUHTH8$HWH8)L.pt;JL8i,o$[L<IL9pV8WV8QK8kV8YK8mV80K8uV81V8zAS9l!v",
    "+eKYV9QKSV8TV+G8TV8LKYV8eV8cV8sV$FV&5V8EV8GV8jV9WVYVSV8ZKYV8aV+G8aV/>VoYV8UYV+G8e9R.y]U8Gi8Ei9t8a*a8E9R?5HSFQH",
    "QFUHUFTFS8KFWF8$Hh9R!Ak!o]k9R9pt8Wt8QV8kt8YV8mt80V8ut81t8z9R,HK(C9R?w$f|.tT,6z9Cg8$L^x.zP!b9R:>:WV!dDYV!LDYV9&",
    "V%LAc~H$yDSKQDQKUDUKTK8$KWK8)K8NDYK8aDYK9QK8;DYK8sDYK9WK!dCYK!LCYK9&K8TDYK8ZDYK8lK8LDYK8eDYK8cK8PK8EK8GK89K9BD",
    "8jDSKYK,!L&AHQJQHUJUH!=Z8AHTH8$HWH8)L:Jt$^K=ct;JL<IA8K9J:+)G<K8B9QSiSi!wi$vlSlWi(zi(biTiWi9qi8ai!uiT)Ui$v8UiUq",
    "iT&/iW.qid9Eib&Di8Zi83lhi$Gi%Ci9w!9lW9<m8A8Al9Ji,9(bl(zi!b!9V59QSOSO!wO$vZSZWO(zO(bOTOWO9qO8aO!uOT)UO$v8UOUqOT",
    "&/OW.qOd9EOb&DO8ZO83ZhO$GO%CO9w!9ZW9<i8A8AZ9JO,9(bZ(zO!b!9V9pJ8WJ8QB8kJ8YB8mJ80B8uJ81J8zV,HM(CM)zB.3M;QB.4M&8B",
    ">tB>uV9*A~E9;!B*iU$yMSBQMQBUMUBTBWB8NMYB8aMYB9QB8;MYB8sB9WB!dB!LEYB9&B8TMYB8ZMYB8lB8LMYB8eMYB8cB8PM8PB8EB8GB89",
    "B9BM8jMSBYB%LB9iV&AIQGQIUGUITI8$IWV:JH;.H.c>jV:LV;P!<08=[.>QV]U8PV?98EV]U8EV>lVc:FV8a&p?(V)P?ld8%V9pJ8WJ8QB8kJ",
    "8YB8mJ80B8uJ81J8zAb!PQ8l&4Q$yMSBQMQBUMUB!=l8ABTB8$BWB8)B8NMYB8aMYB9QB8;MYB8sMYB9WB!dEYB!LEYB9&B8TMYB8ZMYB8lB8L",
    "MYB8eMYB8cB8PB8EB8GB89B9BM8jMSBYB%LB,!V&AIQGQIUGUI!=8C8AITI8$IWI8)V:JH$^B=cH/QHR?i(aV&0*XV%M=S*c&5+c*lTA8d(v8e",
    "8d9J(5$yH>yl9ymlTl!:ml8$mUl9vQI:HH+eOYG8aOYG9QG8;OYG8sG9WG!dZYG!LZYG9&G8TOYG8ZOYG8lG8LOYG8eOYG8cG!*ZYG<JZYG*AO",
    "SG=ZG8PG8EG8GG89G9BO8jOSGYGk*jH$j|18%H.pN;.78D=>l8D=>N%bN$^H=29.!a1?98i8EO$j8i8P8t8E8t8G8t89H?9_XH<M8,_XH)O>qN",
    "9BcN9+:ON9?>qH?9]&,58=_XH<M8,]&,58=_XH%1?eA$Iy9*%N$y4>yB9yMBTBWMTB8$MUB!=igD:H4+eFYC8aFYC9QC8;FYC8sFYC9WC!dHYC",
    "!LHYC9&C8TFYC8ZFYC8lC8LFYC8eFYC8cC!*HYC<JC*AFSC=ZC8PC8EC8GC89C9BF8jFSCYCk*j4!A$.x89^t*mKU8L.l$Q*m4=29.!a1?98i",
    "8E68G69B8CS4$j.yrmkm!hmcmbmomhm8Amgm883m=Z4:JK$^49K&^*&4%1?e4)O>qK9BcK9+:OKX!S8T4_X8D+E8V<r8V(w8J^f(l8J^f8X4!a",
    "h[6<|%4NaA.v!c97R~W$kR.ud+jQ$/9w3QmW3WmS3Sl889d8CQ6W8CW6S8CSB>9EQEWESAX8)%v!zY!e8i8LB8NB8GB8cB8ZB9iB89B9QBYB8a",
    "B$[B8jB8eB8;B8TMYB8lB+/B8EB9xB$FBSBTBQBWBUMSB%JB$jXOkOdOhObOgO8KO!hOyV<A(s&LIVR!P]A+UV<A(s9?*$G*$VR!P]A+UP*$B",
    "(s&LIIP9?*$G*$Vh(d19S9a$4$<V+UP/b*OVh(d19S9a$4(s9?*$i*$V&11]4(s&LlV+UV&11]4(s9?*$m*$V+UP*$AoYQk&O%R$yJSHQJQHUJ",
    "UH!=Z8AOgHTH8$HWH8)H8NJYH8aJYH9QH8;JYH8sJYH9WH!dBYH!LBYH9&H8TJYH8ZJYH8lH8LJYH8eJYH8cH8PH8EH8GH89H9BJ8jJSHYz&AE",
    "QNQEUNUE!=38AmgETE8$EWE8)z?w:GC%bC$^H=cC/Qz<Ht:Fz:D?_z8a&p?(%4Eaz9pF8WF8QH8kF8YH8mF80H8uF81F8zz*2H8QJ8kH8YJ8mH",
    "80J8uH81H8zH!fJ(CJ)zH.3J;QH.4J&8H>tH>uz918_;k8%A/E8>$|_X4<|:O4+eFYC8aC9QC8;FYC8sC9WC8TFYC8ZC8lC8LFYC8eC8cC!*HY",
    "C<JC8MC*AFSC=ZC8PC8EC8GC9BFSCYCS4%1_:+eZYO8aO9QO8;ZYO8sO9WO8TZYO8ZO8lO8LZYO8eO8cO!*iYO<JO8MO*AZSO8PO8EO8GO9BZS",
    "OYOS4&ABQBUBTBW4:JK;.9,R+[!v&W8:$yNSEQNQEUNUETE8$EWE8)E8NNYE8aNYE9QE8;NYE8sNYE9WE!dIYE!LIYE9&E8TNYE8ZNYE8lE8LN",
    "YE8eNYE8cE8PE8EE8GE89E9BN8jNSEYE%LEk*jE8U9WE(VD&AOQZQOUZUO!=OTO8$OWO8)D:JB$^B;JBq^sB.c>jD:LD8r+/CS1k+[D9pM8WM",
    "8QE8kM8YE8mM80E8uM81M8zA$o/)8<!j&W8:$yNSEQNQEUNUE8gE8$E9oE8)E8PE89E8eNYE8cE8NNYE8TNYE8GE8aNYE8ZNYE8lE8;NYE!dIY",
    "E%LE8sNYE!LIYE9QE8LNYEYE8EE8jD&AOQZQOUZUO8gO8$O9oO8)D:JB$^D:LD9*D9pM8WM8QE8kM8YE8mM80E8uM81M8zA8c~5%?+eC8aC9QC",
    "8LC8eC8cC8TC8ZC8lC8;C8sC9WC8PC8EC8GC89C8jCS49q8N4>yBUBTBW4X9>)7o9q4)P|8Ag!]!e8iyYA,GQ$4]N?y1911!P1|j]O(9B8W191",
    "1!P180!K(9B81Q(9B.418Y8?B(y!K(9Bd)z18n)RcC9)|i+,:IE.418Y:IC9!|j]O(9B*<8?%4maB!f8?B]MC9)>eb+,:IE*<:IC9!?08?B%hB",
    "%s%4GaC9)%hRC$TR)v8,,w&$$6(z$0L!Ab!Gt$A!b9~t8p*A$t!_tU*Ak!_th(b/6*Ak!_t*i;CtX]Ik!_th%)*i;Ct8N%.Ut]f9cV8~t|J8p",
    ">otX8p+%t!_$0Qt9a9tL9Vd%v%a!K8H;%Lc!^%v%a!K8H;%L.o)hL&?!8]f8OL(Vc|[90.tc988OJ?LL.T%9d8OL//(T)hL%W&C8OLd9M>QL!z",
    "|0R9;,C8OL/^*a_?8Oe_(,x?n*mt898N*m8ESL&yP)P?ldAq9|%x&X*:SF*QI)1I?DIYI:kI8G&4(II!088IR!$FaFoH9I!IaGc9|f(IG?.Zb",
    "~sGYG<2O&^G[woG88(!G?E?EUJ?FHaJ9I8e:VO?DO9H9z8xO9BfO;uFcFkH9IT)xaGR^v/x=?FgH*QgGc!DaG=?GYGk!cfOQG!5GU88H9eHT$W",
    "F/EB9I!5FbH9U9eJ9)^:J~lb!$!j!%_d9[/5.u8al.YcH!5F;SF8EcB9I*iHk!2F&?aHxJP.d8Z*RB8N8e*RB.;[(^;a9U^;(h^;a9U^;(h/Rl",
    ".;!I8[/s!I9U!I9U!IJaJr!2C8eHcHrfH$LaHgJ9U_/J!$H8AJSaFQH*QG&4G<2FUH9Uo!e!2Z9|J;p$GH!SrM9U$G!SrH8AJaC8ZHrJP%R)7p",
    "9I/x^p7/E8C8e:V7Q8C8a8b9z^p7Q8b8Aa7%S8CY8C9g8b9z!S8Ck$t8C8G7U8b9z^pa8bh8C$h8C/R9z/R8C!78C;u8CU?Gr9ga788HhH8AJS",
    "fBnFQHoHhJ9I!5JaHbJP[xPU(IP+KH88FUH9U%3J?FJ!5_eHoJ9I]>JaHrJ%SHxHbJfB(IG(IJnH8AaCTF9I/RH.;!J$H9U$HFaH9I/xx/x8ZG",
    "&4G$KG&?O8+GUFc82Fr9gFgFbH9I.0al*RG9HJ;p8xJ!%_d8xJ.YcF%9H82aF88aF<CB*Qi9zg8<8[9Ig8<ibZ)1Zc9|f(I8X(IZYl(IZ<2Z[x",
    "8C_WiUfZ8Glg9Ig8<iQiUZ/vicC8aH(IHaJ9I/xc/xY8CY8C:kZo~s9zd!2ZbZ88l?G?.O)1i8A9z8EZ9fl9z8EO8ZZQih9I!5Z&PO!Gi9z8GZ",
    "bi9I?DO?Di8AZQinl9zSi8A?G&OOx/xg?E]>igl9z8GZQ9z9tZ&PaO<2Z889zx?E!IOk$tiR^$Z(dl9zg8<ZUf9z9eO8GO9H9z8xZQO$Hl9U$H",
    "O8LO&?i8AZ8+l9z,Di(dZ9XO;uOUZci9z%3B.;8aaH8eB/s8a8eHcJ9Ur/Yr_f&4HgJ&|!c9Ur/Yr_f&4J9cHhHbJaB*RM.;.0aM;p.0aH8AJf",
    "HR%BF(!=iN9I*iFQH9ITGUJ;p&*HnJ9U&*nB;p&*nHc!DH8AaB(IJfB9I/x:kZ?DZ:kZg?E:kZ8LH&?JxB/s=?M[e)1Z;uET$DFUH/s$oHaJ9I",
    "k$tl9I<2O$HO&?9z^;aB?FHcJ9I/x*iO*iB.;$o%*!S?.HgHhJ9I!5H8AJvJ9|B88CYH*RJ?FHgFQH9I!IiaG)1G+KGr!cGk82G$HG!5GUFUHo",
    "aB*QbZ.cZ[xZg*cZ%SHgaCQF!BFoFc!DB9UQ8:!v+L3.YcFrHQJP8:oB9dB.;:k9s*o9UR*oP%S9U%SB?FFgH9I?DHaFhH9I;uJ;p!DJ!%_d!D",
    "J.YcH82FbF8AF88C8NH*QOcZ9z!_fO88aG)1Z:VZ8AOQGT)xaO88aG8aZgZb~sZ8Ai9z9Bf9zSOQZ8AaZ889zR9Jm;p=?OUZ8AvG:kOhGk$tOQ",
    "ZcG9tOUG9HZ9z%38C&*8C9EOQZ9z$HU8dG$hO9|G9LG9CG8jZ8AOYZTZ(dZUO%POUx9fG)VGUOaOcOh9X9I8LO88G.dHaJ/s8NaHoHcaJfJnJp",
    "B9Uk!cpHkJ9I<2HgJ9I)1B;p^$HhaJnHR^$EP[w[yU9U[w[yUN.;[xP[w[yU9U[w[yUF]>FQH9I)1GUOcHcHbH&?JxJ!DpE9U%R)7pFUH9U9w",
    "9I!I(h!_9U9w9I!IaHfHnJP+zHvHgJ(IHbH8AJP!%_d*iH&6aF*_fuwC8GHr!2M*Ql9zc/xY8b&48bg8<lglbl>H.d8Z*Ri)1lQic9Ji8xi8am",
    "8Al%S39zr%SiYmglQ9I$Hi<2lhm9zY8X!Si%RmblUfmg39z9w9zSi[wol*clUmgi9Hm9z8xlU88i$hi!59z>sm98/x=?9zT)xa+Q~:m/v69z&6",
    "al9Xi_.mknlT9z/xR?E8liUl9zS8b?EUl?G!Ilcl88E.YcB8AM9I!539z>sE?FO9U8G&4(I;,Hx&6HgJ9Ig8<HhJ9I*il9z9CFQHgHhh/vH88F",
    "UH9I)1HaJ*QgO)1O]>m*RO?DO9w9I)1O!DOk!calfm9z!IZQOg/x!Iir!2O9H9z8xO$hZUO!79z!Iik?G$GO^;aMT$DB;pg/vB!%_dg/vB.YcM",
    "8+_eHfH?.M9U!S?.NX_d!S?.E!5_eHxHgHhJ9Ug9Xi&|_f&4C8cH9I;uJ?FHaHxH8AH88BaFTHRFQHbFUH=q,xHrJ(IHb%1H8Ar/vH88B*QZ*i",
    "Z9iM/N,x88m9I/x8lM;p!088BfM*Ql9z8:i8:E?FC8lHaH8aBP82$$,nM[e&6*RM!%_d8l8aB8AH!v$D+j!SJJaFTH*QG%SJ!5_eFQH9ITHaHh",
    "J9I?Di8A9z?DHb8ZaE*Qbm8869z!Ilr%Sl9H9z?Dl$hm9|l!569z!j9e8t88(l9z!IlU?G!Im88HR!$FUHuuHbJP8G&49I&46^p6&?8b9U$HP",
    ":V%?^:;L6U88B~:B.;$HB;p$H6P:V_f8G&4JU8dMP!2?H!Ir!26$&6%3r6r%S6<26k!cf68G6$h6!78Gf6/vE%R)7p9I$&8[PUC8LHcHbHXF]>",
    "FQH*QOoG$&OUGTGQOoGUOaJ;p9LH9drM9I^$i%Si9iE!%_dX9g%PC8EHoFQFUC8jH$=$D+j!SJJ*QO%3ioOYOk$tZ9fOg9XO$KO$HO&?Zx(dOd",
    "!2O/vZoZhZ8AZ88B.;R!$B?FHgJP[w[y!IaH9QaH8AFYJfB*QZ)1Z=?Z$hZ&6aZ,DZUi9zSJsJosJ8AaHTJP!XB/N;,&|!c9Ur/Yr_f&4ld!2",
    "9Ud!2&|_f&4Jr2JbJ88MaM%_H(dB*QZ!DJhB*QZ_/iU!SrZc82Z&4Z:km(IZ!_&6aZg%aZ!0rZ&?Jb%PJ8AB*RM.;R*oP+L9U+LJ8THUJ9U$B",
    "&6JaJ+LFQH(IHrJnB9UR%Pn;[/vHkaH8GfFUH=q+iHcJaHx9fHhJ!IH8AJ2C8THP(JJ[e9wG$KJ?FHoJ9U8T^R!q9Ub9b+K9U+KB.YcHrJ9I$&",
    "Or%SO!5iUO^;aO%SHknH8AFTH(IFQH*RHgH8AJ9I;uB.;d9gi&|!c9Ur/Yr_f&4FUHraHkHhH8AJ9U,DP9i9U9iCUF&|%SH!eUH.;!e8L9U8L",
    "&|_f&4GR9f9UR9fG!e9v.;!e^PcFaFoFcHP!_&6aJ[e)1G$KG?E?EU!Y(IJ?FJ!5_eO9I)1HUrFhH9I[woG9H9z8ZG9BfGUH++H9XB9I[xZ8LF",
    "bH(IF8AH/s9fJ!5_eHaJ9I/xY8C8lZgOYO$HO/vi9z!I7$&HnHQJfHUJ*QZ88r!2O)KOc9|O8aigib~si8AZUOYO:kZhZ88O%ROg9XO&^O8LO",
    "!5Z%PnO9~O?Er%SZcZ9C8ZJ8ZM9IUF88J*QO!_i8AO;uJ0JaJ9X0F9~%RF8dfJ9I[xHUC9iH*RJ;d[e*iHrHh0FTaFQH9U.dHfHoJP8N8e*RHr",
    "H8daFUHpJ*QH+LHhC~GPT%_Q9ECS[y$HHa*QF/E9I!_rC8Z$=%R)7p9IU?G^pJfF*c9z&6FU[y!5CT<C9Ir%SZ!5C8a?H9e9zk$t9zSZ88aFTa",
    "aF%PC!X88C8N*Qb!5O88fG=?O%SG9w9I!IaGg9XG8LG&6gG9~G9faC[w[y&*F/v;,_e9I)1B[e(!?Gg8<O&6Ch(!FU88f9I9iC8lnF82J2J8Z",
    "?H_/l&*FUuu*SCX]>P(JF9gaCR!$9I<2C!KaC9X9I9HFPUz/:$k*:9F!IG$V!II9]!IG$d!II%U!IG%Q!II$_!II&I!II9)+KI9]+KG$d+KI%U",
    "+KG%Q+KI$_+KI&I+KI9]UG$dUI%UUG%QUI$_UI&IUI9!]?I9F]?G$V]?I9]]?G$d]?I%U]?G%Q]?I$_]?I&I]?I9!~MUI9F~MUG$V~MUI9]~MU",
    "G$d~MUI8Q_gG8k_g8bP+zI8Y_gG8m_gI80_gG8u_gI81_gI8z_gI8W|NUI8Q|NUG8k|NU8bP+zI8Y|NUG8m|NUIR$L?H?.9z+K95&^I9!+LUI",
    "9F+LUG$V+LU7P+zI9]+LUG$d+LUI9)+zP(!us+1auI9]+zPg!D!0;5n;5!B)FoI%U+zP!I2G%Q+zPQ&^f;5!B)FoI$_+zP9.&O;5fI&I+zP!o",
    "!D!0)Ff)Fn)F!BI9F!I*RG$V!I*RI9]!I*RG$d!I*RI%U!I*RI9!,MaI9F,MaG$V,MaI9],Ma8CP+zG$d,Ma8CP+zIb:k8Z&^m(!I9!T!5fI9F",
    "T!5fI9!|4+KI^<8_+KI,k<(:IP+KI9!|4+z!BI^<8_+z!BI9!_I!Ii%hP!IGg%*9>:A8A978W<(8?(l%hGb!J%h&|9fi%wr9fIT%_98!J9!^=6",
    "^<R6.38C;QI9]!e+zG$d!e+zI%U!e+zG%Q!e+zI$_!e+zI&I!e+zz&y*:*19>:A8A97:D;a8yi&z;~i.r;~8[%o)g8[]h)gz!AS[y$H*RG&6aF",
    "c9I]>C)19I+K*RH$L?H!2al!ql9iFU9U$G9I8laC8Z9I;uHr9I*iF!D9I:kO!e!eUJ?H%SFUr*Qb!5Z88lP(&8^Oc82Z9|OT)xaO8aZQi8Aa(I",
    "i88OYZQO<2O[xZ9fi&6a69z[xO:M1!M!yihl9I*iZUx9z=?O^pZ9;ZQO!qO9LO!5ZQ(ICT?H*iG/RF)x(h0F88a/s]>F<C;,_e9I!I8b9w8b<2",
    "8b8G8[g8b9H8[R8b&OM^:+iC8a?H8e$LaOc!D(IZUr9I<28X[xOT%9O8ai8A9z8:8b$hOx/xSO!_&6?G[xO%_l9I*iZUxO!088O$hi9zTa7&*O",
    "*.hO8d&>aH8e*SF(!=i9IUF*c9I=?/s=?FU?H<2Hc9z=?9I;uCY*R(IFQ9I!I9U9w9I!IC8N9I$GG8NG!e!eUO8AC[w[y,J9U,JHk.<fMauEpM",
    "!?M$8EuMsaMv29U:M1!Mv2(IM)eEu9U:M1!MwuM2aBu!?MnaBa9$E2M!yEpEwMfwMspEsB:ufEvEwMwfEnM).BnnuE2N9I$om:km/R9z!Sf8t",
    "/R9z!SfmU?G8eM$8EvM(GMwfM).EaEfEpBp$8B(iwM[dN9I!Im)1mc9|f(I(Im!_fm8Gm)V3Tm/v3c39C8ZMfsMnwN9Ic&Pm8am:k8C(Im!qm",
    "/R9z/R9z!Sfm88(!9z%Rm%S39C8ZBv)AMn2F/v(I9I!IB[e+KO.cO/Rl9z/R9z!SfO;uC$K9z9ivFU88=q,x889I8a8[k$tC|q8Z?Hc!D(Il=?",
    "m%al9wlk]>l:M1!M$8l^pl/R9z/RlUm9zUm9C8ZCR!$(I9IYB[e8xO!5P(&8^O;uFYs*RHT=q;,B~lx&PaGb9caGR9JHU?G%3r9I!qOT?H9eFQ",
    "9I;uC;u9zR!$F9X9I?DO9)+KC9f(h82$$,nB[e%SHU9Ic+[fO:M1s/nZUfC9ivFU9U8d?ER9JHp9I9)+K*R8Iy%T1&^W9e*:qh%=NaNnNpNsNv",
    "NwN2E9$NuNaIoNfNpNvN2EauNfNnNpNsNvNwN2E!?NfNnNpNsNvNwN2E$9NuNnNsNvN2E$8NuNaNfNnNpNsNwN2E(iNuNaNfNnNsNvNwN2E(GN",
    "uNaNfNnNpIoNsNwN2E)eNuNaNfNnNpNsNvNwN2E).NuNaNnNpNsNvNwN2Mu(7NuNaNfNnNpNvNwN2E9$NaNnM!?uNaAT=YXd979w]=r%,X~m%=",
    "IaIfInIpGSIsGSGoIvIwI2N9$IuIaIfInGSIpIsIvGSIwI2N!yIuIaIfInIpIsIvIwI2N!?IuIaGSIfInIpIsIvIwI2N$9GSIuIaGSIfGSInIp",
    "GSIsIvIwI2N$8IuIaIfInIpIsIvIwI2N(iIuIaIfInIpIsIvIwI2N(GMo%=IaIfInIpGSIsIvIwI2Mq%=IaGSGoGqIfInIpIsIvIwI2N9$GSIu",
    "IaIfInIpIsIvIwI2N!yIuIaIfInMc%=IaIfInIpIsIvIwGSI2N9$IuIaIfInIpIsIvIwI2N!yIuIaIfInIpIsIvGSIwI2N!?IuGSIaIfInGSIp",
    "IsIvIwI2N$9IuIaIfInIpIsGSIvIwGSI2N$8GSGoGqGcGTG8JGrGxGQIuIaGSIfInGSIpIsIvIwI2N(iIuIaIfInIpIsIvGSGoGqGcGTG8JGrG",
    "xMT%=IaIfInIpIsIvIwGSI2GSN9$IuIaIfInIpIsGSIvGSIwI2N!yGSIuIaIfInIpIsIvIwGSI2N!?IuIaIfInGSIsIvIwM8J%=GSIaIfInIpI",
    "sIvIwI2N9$IuIaIfGSInIpIsIvIwI2N!yIuGSIaIfInIpIsIvIwI2N!?IuGSIaIfInIpIsIvGSIwGSI2N$9IuIaIfInIpGSIsGSIvGSIwI2N$8",
    "IuGSGoGqIaIfMr%=IaIfInIpIsGSIvGSGoIwI2N9$IuGSIaIfInIpIsIvIwI2N!yGSIuIaIfInIpIsGSIvIwI2N!?IuIaIfInIpIsGSIvGSIwI",
    "2N$9IuIaIfGSInIpGSIsIvIwI2N$8IuIaIfInMx%=IaIfInIpIsGSIvIwMQ%=IaIfInIpGSIsIvIwI2GSN9$GSIuGSIaIfInIpMk%=IaIfInIp",
    "IsIvIwMg%=IaGSIfInIpIsGSIvIwMh%=GSGoIaIfGSInIpIsIvIwI2N9$GSIuIaGSGoGqGcGTG8JGrGxIfInIpGSIsGSIvGSIwI2N!yIuIaGSI",
    "fInGSIpIsIvIwGSI2N!?IuGSIaIfGSGoInIpIsIvIwI2N$9GSIuIaIfInMb%=IaIfInIpIsIvIwI2N9$IuIaIfInIpIsIvIwGSGoI2N!yIuIaI",
    "fInIpGSIsIvIwI2N!?IuIaIfGSInGSIpGSIsIvGSIwI2N$9IuIaEg%=GaGfGnGpOSGsGvGwG2I9$GuGaGfGnGpGsGvOSGwG2I!yEU%=GaGfGnG",
    "pGsGvGwG2I9$OSGuOSGaGfGnGpGsGvGwOSG2I!yGuGaOSMW%=GSIaIfInIpGSIsGSGoGqGcGTG8JIvIwI2N9$GSGoGqIuIaIfInIpIsIvIwI2G",
    "SN!yGSIuIaIfInGSIpGSIsIvIwI2GSN!?GSIuIaIfGSInIpIsGSGoGqGcIvIwI2N$9IuIaIfInIpIsIvIwI2N$8GSGoIuMX%=GSIaIfGSInIpI",
    "sIvIwI2N9$IuM8R%=IaIfInIpIsIvM8A%=IaGSIfGSGoInIpIsIvIwI2N9$GSIuIaIfInIpIsGSIvIwI2N!yIuIaIfInIpIsIvIwI2MR%=IaGS",
    "IfInIpIsGSIvIwI2N9$IuIaIfInGSGoIpIsIvGSIwI2N!yIuIaIfInIpIsGSGoIvIwI2N!?IuIaIfInIpGSIsIvIwI2N$9IuIaIfInIpIsMd%=",
    "IaIfGSInIpIsIvGSIwGSI2GSN9$IuGSIaIfInIpIsGSIvIwI2N!yIuIaIfInIpIsIvIwI2N!?IuIaGSIfGSInIpIsMU%=IaIfInIpIsGSGoIvI",
    "wI2N9$IuIaIfInIpIsIvIwI2N!yIuIaIfGSInIpIsIvIwI2GSN!?IuIaGSIfInIpIsIvIwI2N$9IuIaM8H%=GSGoGqGcGTG8JGrGxGQIaGSIfI",
    "nIpIsIvGSGoIwI2N9$IuGSGoGqIaGSGoIfInIpIsIvIwI2N!yGSGoGqGcGTG8JGrGxGQG8UGkGgIuIaIfGSInIpIsIvIwGSI2GSN!?GSIuGSIa",
    "IfGSInIpIsIvGSIwI2N$9GSM8K%=IaIfGSInIpIsIvIwI2GSN9$GSIuIaIfInGSIpIsIvGSIwGSI2N!yIuIaIfInGSIpM0%=IaIfInGSGoIpIs",
    "GSIvIwGSMy%=GSIaIfInIpIsIvIwM8d%=IaGSGoGqGcIfGSGoInGSIpGSIsIvIwI2N9$IuIaIfInIpGSGoGqGcGTG8JGrGxGQIsGSGoGqGcGTG",
    "8JGrGxM8p%=GaGfGnGpGsGvOSOoGwG2I9$GuGaGfGnGpGsGvGwG2I!yGuGaGfGnGpGsGvGwG2I!?GuGaM!|?eM$7?eM|n8y!8(&(q,~d3=3,~d",
    "3&_8xc3*k8xcM)=:CM?c82)sr,[M[/8nr,[A(vd%E979w]=r%,X~m%=GaGfGnGpGsGvGwG2I9$OSGuGaGfGnGpGsGvGwG2I!yGuGaGfGnGpGsO",
    "SGvGwG2I!?GuGaGfGnGpGsGvGwG2OSI$9GuOSGaGfGnGpOSGsOSOoGvGwG2I$8GuGaGfGnGpGsGvGwG2I(iGuGaGfGnGpGsOSOoOqGvGwG2I(G",
    "GuGaGfGnGpGsGvGwG2I)eGuGaGfGnGpGsGvGwG2I).GuGaGfGnGpGsGvOSGwOSG2Nu(7OSGuOSGaOSGfGnOSOoOqGpOSOoGsGvOSOoOqGwG2I",
    "9$OSOoGuGaGfGnGpOSGsGvGwG2I!yGuGaGfGnGpOSGsGvGwG2I!?GuGaGfGnGpOSGsGvGwG2I$9GuGaGfGnGpGsGvGwG2I$8GuGaGfGnGpGsGv",
    "GwG2I(iGuGaGfGnGpGsGvGwG2I(GGuGaGfGnGpGsGvGwG2I)eGuGaGfGnGpGsGvGwG2I).GuGaGfGnGpGsGvGwG2Na(7GuGaOSOoGfGnGpGsGv",
    "OSGwG2OSI9$GuGaGfGnGpOSGsOSGvGwG2I!yGuGaGfGnGpGsGvOSGwG2I!?GuGaGfGnGpGsGvGwG2I$9GuGaGfGnGpGsGvGwG2I$8GuGaGfGnG",
    "pGsGvGwG2I(iGuGaGfGnGpGsGvOSGwG2I(GGuGaGfGnGpGsGvGwG2I)eGuGaGfGnGpGsGvGwG2OSI).GuGaGfGnOSGpGsGvGwG2OSNf(7GuGaG",
    "fGnGpGsGvGwG2OSI9$GuGaGfGnGpGsGvGwG2I!yGuGaGfGnGpGsGvGwG2OSI!?GuGaSOoOqGfGnGpGsOSOoOqGvGwG2I$9GuGaGfGnGpGsGvGw",
    "G2I$8GuGaGfGnGpGsGvGwG2OSI(iGuGaGfGnOSGpGsGvGwOSG2I(GGuOSGaGfGnGpGsGvGwG2I)eGuOSGaG&e*l$39dOSGnGpGsOSGvGwG2I).",
    "GuGaG&e81GnGpGsGvGwG2Nn(7GuGaGfGnGpGsGvGwG2I9$P?c!z|k=%8%O!j[/|k=%8%GuGaGfGnGpGsGvGwG2I!yGuGaGfGnGpGsGvGwG2I!?",
    "GuGaGfGnGpGsGvGwG2I$9GuGaGfGnGpGsGvGwG2I$8OSGuGaGfGnGpGsGvOSGwG2I(iGuGaGfGnGpGsGvGwG2I(GGuGaGfGnGpGsGvGwG2I)eG",
    "uGaGfGnGpGsGvGwG2I).GuGaGfGnGpGsGvN$8uGaGfGnGpGsGvGwG2I9$GuGaGfGnGpGsGvGwG2I!yGuGaGfGnGpGsGvGwG2I!?A8e!0!v8i+/",
    "8n1!j!hk9y$p(0Ero)fP(0EX!sh(0P9LX!V,Ko)f8[8eEb8p$p(0E&68x&68|Ed:<$p(0Eb9i$p(0E(.;H8L$5$.EX!sX!j/)9b9LX!V,Ko)f",
    "8t8eE)))kro)fEd!e)),IEb.0$oE))h9a%8IbR!tN9a!t9QhER$b9WhE*O)c&]Ek$b!R9Tb8ZEbk]LER(bE!h!_8x$E9XE;BS8RN.wk9TE*O$Y",
    "$p9xSE))!R9NEX!I!VE)o!t8ETEX9c9BTEh!s&dT][Eb,JbP9H9TE!e$v8R.uTE)o!t)o!tE*O$Y$5.mE^bSE,K8e8jN$b/)9*bc$b8RNW9*%C",
    "8RE,zSEX!j9S8y!V8MEb;H9S8y!V8ME>4E))hk&]E!q8NEX9NEd!tXEg!tXE~Z8shE9E?:U9VbE)))TE=TEb/K&dT][E!_)cE$?|e9TE&6hEg",
    "9*))E?|QE[AEkX)cER)cE>ZP~;8|ER*o!VE*O$YE88)c$588&wy9XE)Td$p,(!R!t8RE8L?)Eb8N?)E9|k+abE&d8xE))!7E/)9cE,I)TE)U8|",
    "E9E!tbER9ME8L9cEb88)fE))hE)TE8N8REb9BE9aTE!SEb8xNS8RE,I8RBo$5&68|Ed!e)),Ko)fER)fN.w9~Eg9*$59E9XE,I$i<TTEk)fhE",
    "&x9f!VE,I?)Ek9cE(Y*.Ey%]!e9S8y!V8ME_6b88&w9WhE*O)f;,U)cNc!e/)8pE)oU)o!thEX98E9~$5R)fE!5d$58s8RG!t8R9~Eh(0P9E!t",
    "8RNo;G,IS=TE)T$59E9XEk$b%C8RE)oU)obEk$b&x%8E8G(vTE8L<0E9a9XE!hk]L$p$NXIr$b$p$GE8K][E_%T!tE.mhEh$b8RE?B)ciP!~Eh",
    "8J*m8RER9yE)k$b9dN~<)fbE9WT))E%C9Q9cE9H&w&dT8|E9/%8Eh$G)cE9/TE!R!thE)~<<!t8lZU$wE:]E&dS9cNR8xE8cE%R8RE!h9*B?Z",
    "!h!_!J)),IN9iEy9XE8K9q!_)cE&d8xN8v!t|dNr8N8RE&o?)Eh+^!R8|Er8e)NE)U9g$pk:^8RP9H9|N9~$p<BEh!H9XE9L^%8xEbc9*$GE,I",
    "S:Wo8e9K1]/Ek$b!5!tXEr;TEk$b8N8REy!e]a))Eb$E9XE)k9yEb8n!tbEh<BEy$b8REk:^8RN8pE8n%8Eb8:8ZE.m9BTE/)9y8RE!K*fy9yE",
    "R][E?BS$|9WhE9a%8Eb?8(v8RE)~!R!t9dEb.mNr$o8~E;BEh.6)fbNr8e8j8RE*O~98eE9E?:%8E?BhE%kTEb8v9TN8jIY8REo&DE9a!t&]E",
    "=0!VE9CEb8s!WE%_E_1!tXEbR/gP!h9*N];8gE=TE?BE))!7No!thE!SEk9TE/)9cNr9*E*_XE?BT8|NR9*N!fE!_!%$58N?)Eb<rN|bE)~bR",
    ")fEy8pEbc$YE&6T8RN8|(0Eh$&N!V,IN8e)TEk$b8n%8Eh!H%8E!R9XE,I!j9L[zE$v8K)cE<<%8Eh)fN!tE*.8REk$|8G8KO9xd%P9yE9Q8RN",
    "S8RE9t8RE;SN8xEd8|Bc$p$GWE8MXEb$.Eh(0E/))fEg)fE<<9TNR)_N/t8p))Ny9cE*_S8xE!hk9|ER)_E!h~GE!R][9H9|E9E9TE!5!tE/)",
    "$YER9yE=TE8P!W))E!_9*ER$YEh9/9TEb8v%8E/kT9dNT9TE8n!t8RE_zE<<!thE!R/gP)k!tE!hk$b9dE9~Er)uE!hk?AE9/U9/][Eb?+E,Ko",
    "*e9XE9S!tXEbc8~E$RQNr!H9|E%C9TE,Ko)fN(=Eg9XEbR)fXE,ISEk8M8|E)U8|E9E!tbER9ME$v8K)cE!R9XE8E!WEd8g8gE!h!R!t8REh9/",
    "!tEbR)fdE!R9NE9LXNT9T!VE)U9yE:]E&dS9cEh8J)fE&d8M8xE$v9*E/RE$v!%Eb|bN9E9XER!tEk9|E&dT%8Ik)fEd/gE9H9|E!_8REb>sE",
    "9E9|E))<<dE&d$YE9S9XE?B9*N&6dN(xT8RE)o!tE!_E%9P%EcEd!VN)cE)TE9dQEg8g8gE;|8gNER(bE!0E*.QIT%8Ek?AE$DE&6E*O8gE(YE",
    "!qE88)cE%C8REh$NXEg)cE%9,x8>E!KE*O(bE,IS9s8uE8j8RE9xSBT$5c$YE;RbEh!H9XE;BE$NhE9<8~EX8pER9*E8E8REb&6!%Nc9|EX!tE",
    ",GE!h8NEk8/%8E*_WER8gE&dT][E8L9cE;RE!_!%Eg9*Eb88)fNr!%E))hE!h!R%8I)cN&6TE9d,K8eE<<%8E(YhER8pE?B8ETE,K8eE)o%8E",
    "!h!R!thN8s!W9tE>ZE9<9ME&d8g8gN8:8RE8T$|b9E9XE%GEX9XEb/K9s[=.+N/t!t9B!J9WhEy)fE)o9|Ed!tE&x!tE!OE9~))E!R!tER!tbE",
    "9E!t8RE9a!tE9V%8E8G9cE%CE.m8REr)u))Eb9K,<9TE!5!t8RE,K:?N+^Eb9i8RNk9*Ero8|Ed9XE!_8|Ey$YE)TP=2(>$$Ey98Eh9/U8REb",
    "]g8REX)f8REy9y8RE9S!thE%kTEr!H%8E!hk9NE=TE))E!hk8p$KE)odE9xE*O9XE8/9TE&x9XE&dT!tNy9b.(N,J8RE!O8~Eh)fE%k8|Eb!VE",
    "h!tE)o!tE%kPQEh!bEX?78RE!hk9XEk9TE~;dE*O$YE&x][E?BXE8L&v*n/ZE%k%v+>N9*Eb];ESEd)cEWEQE8G8REX!j+D9f8<E.mI8REb/K",
    "$p!N)]8nE*.8RE&x%8E!h!tEy!tbN)cP+$!Dh8.Oq/NNU8RIbE!R%8E8/%8E<<!JT!O8>EX9yE*_TE9/TE9aTE!SE$KE8r%8N!VE!h][ISE>TG",
    "8RE%kP8rh$(yE8lE9LEg)cE!uE$>NSI8REd$bE%RE$RE!fE9x8RE&o9*B8JP8NEUE!_E8gE|dEd!VE)TE8GE9dQI8gE;|8gE.mEb/KN8s!WEhE",
    "R(bNx(zNQNT%8Ek?AN8|Eb!tIN8U!tEy)cE&6E8PEb9BE8/%8E*O8gE*_TE(YE9CE!qE8r%8Ek8xE!hk8M8xI8aE>TEX!tE(=hE8ME9tN)cE!u",
    "Eh:?E%9E8cNWNo8pEd8|Ek8LE8j,IE/6T8RAh8&P8i8Ttb&*t!9t_8t8et8ZtSt(Nt$[QtYWtc8$tq!Xtk(>!Vt%Et))ht|qt8Lt9oVt8&t*.t",
    "d[Vt(>t8MtTt!ut.oKtYQt9dtd&~8F9pz8Wz8Qt8kz8Yt8mz80t8uz81z8z9R<E9R:FAd9qR!j8iW8dCqC8RC0DS8dCqC8RC0D8H8dCqC8RC0D",
    ".]CqC8RC0D&>CqC8RC0DU8dCqC8RC0DS8K8dFqF8RF0DU&>FqF8RF0D$j!hD9?U93D$2U.]MS8K0D9yqF8dF8RF0C:r8dHqH8RH0Dh8dCqC8RC",
    "0D8NCYD8aD9QD8jD8PD8MD8LD9WD+/D8eD8cD8lDYD8GDx8TD8TD8ZD8EDbYD9BD8;D!*D/>Dx!dD&5D([D9xD*;D$FD9ie9pK8WK8QD8kK8YD",
    "8mK80D8uK81K8zA8e*jP89+T8i8x!qH8NH8nH9xHh!HHy%yHr!,H.l(zHkX!,H%~Hx8MxH8MH;EHr$GH!1H$AHU*_H9nH8eH/6H&x82H8LH8M",
    "!LHSHWJWHUH8gJHQz%I9h$<M9P$<M^T$<M&11^T$<Mx=L19P$<z$JA8LY8K+Txh.x;Ik8goN8HMQoE8HMS&PN8HM&PE8HMToE8HM8$oN8HMW=7",
    "N8HMS8KoN8HMU!2N8HM=7E8HMQ!2N8HM!2E8HM8KoE8HMS!2N8HK|1P89UIb!*UI^8IYUIb^8I8EUIbk8)I8RYUIy8)Ix^8Ih8)I$FUIb$FUIx",
    "b8)I+DYUIb&5UG8)I8)I08)Iq8)K)O)G!vd&PN$INk9;IY8HN&O9cNx9*N+XhK!A$N8_,&hI9Bo%v8goJq!D?g!WJ$N8_d9w!2N9/!WJ0?A!v",
    "*O)>8HG(PGd;rG9xQoJ$NR)s%0J;|8U+i!2J$NR$59CSJQ^Ry9cJ([9.J)G!v&N;rP8&rK9pB8WB8QM8kB8YM8mB80M8uB81B8zK,HRM91RM>a",
    "RM(,>WRM(f(,>WRM[oo!o>WRE[?/aRK!A$N8_|vJ0]QJx9tJ^=1*L<ox9tJ8d8K8UP&58UJxb&PJb8R%PJ)>!2Jb9~8UJS8HJd0)_8UP$A%0J",
    ";|8UP<=ToJ+XJg%nJh9.J)G!vYQ8_g]Tb9n$=*O+gNq?7!v&N*p8UNd08K8HZ)r8K8HN%C^R8Z8KoNb(EPd%nKq.o*:|$T8UI?ArIg!]G8)8UI",
    "0]Q8UIk9oIY8K8UI!09>I,&8UGR!2I+/oI$[oI(aI898UI9x8UI8P8UId+$oIk8KhI8H8K8UA9H8v9x(d)xP8BhiRi8Hi8Ki83:ri8dikXiXid",
    "iri8JiQikiSi8UiTioiqiUi$vigi8RixXi)Ui0ici!:ibi8AiWi8$iyV5hORO8HO8KO83:rO8dOkXOXOdOrO8JOQOkOSO8UOTOoOqOUO$vOgO",
    "8ROxXO)UO0OcO!:ObO8AOWO8$OyV9pJ8WJ8QB8kJ8YB8mJ80B8uJ81J8zV,HB<aB:eM*o%gB8Y%gM&S%gB*<M8u%gB]xB8z%gV.2P+G&XJ9F+G",
    "&XB$V+G&XV$sV$JV*,8$89V~Y(S<[8I%J$X8i8LV8eVy9b8LV>gV8cKYV,o8cV9xV89K9xV8TV8ZVy9b!dFSV!dV!LV8lKYVy9b9&V,o8lV9&D",
    "YV8GK8PKYD8PVdgYVcgYVdgx8PVcgx8PV8NV8aVy9b8NV$wK8aV9QDYV,o9QVYV([V/>DYVd*jV.V9iV9WDYVd9BVc*AVy9bd9BCc*AV8r&X8=",
    "d9BV9BK8jV*AK9BV!*V<JVy9b!*V8jV9iK8jK9iD8jV,o:ySV:y8PDR8PV8MV!,V/BV;/VR)NV.V)NV9EK8nV8A9E9R!A|1P[,)K9R8i[.<.!+",
    "9R!AS%W9g!+z8r&X8=/+8.BS%W9g!+9R?5HSHxxHbJrFWHWF$nHFTHbJrFW,BFQHSJbBrHWHTHQHUH!hFUHSJbBrHUH%xH!hFyHQF!VJTF8y8A",
    "F?q8y8AF8yF?q8yF8$F%xF8)F!!FbHrFU+gF$vQF+gH8yF8H8KF%PF(>FQ,(FUQ9R(s84z&_84z])z%m9R8i$<$qHfHnHpHsHvHwV8r&X8=&T",
    ",LZaZnZpZsZwAd9q&w[jA$D&6P[jA*1$ub/c(%8%V[jAk9w%K+m&q?(A!b8|b9c/c+G8rS*h<|:W8bbYyAd9q9T.HX8Wb>v%=BaBfBnBpBsBvB",
    "wB2J9$BuBaBfBnBpBsBvBwB2J!yBuBaBfBnBpBsBvBwB2J!?BuBaBfBnBpBsBvBwB2J$9BuBaBfBnBpBsBvBwB2J$8BuBaBfBnBpBsBvBwB2J",
    "(iBuBaBfBnBpBsBvBwB2J(GBuBaBfBnBpBsBvBwB2J)eBuBaBfBnBpBsBvBwB2J).BuBaBfBnBpBsBvBwB2Hu(7BuBaBfBnBpBsBvBwB2J9$Bu",
    "BaBfBnBpBsBvBwB2J!yBuBaBfBnBpBsBvBwB2J!?BuBaBfBnBpBsBvBwB2J$9BuBaBfBnBpBsBvBwB2J$8BuBaBfBnBpBsBvBwB2J(iBuBaBfB",
    "nBpBsBvBwB2J(GBuBaBfBnBpBsBvBwB2J)eBuBaBfBnBpBsBvBwB2J).BuBaBfBnBpBsBvBwB2Ha(7BuBaBfBnBpBsBvBwB2J9$BuBaBfBnBpB",
    "sBvBwB2J!yBuBaBfBnBpBsBvBwB2J!?BuBaBfBnBpBsBvBwB2J$9BuBaBfBnBpBsBvBwB2J$8BuBaBfBnBpBsBvBwB2J(iBuBaBfBnBpBsBvBw",
    "B2J(GBuBaBfBnBpBsBvBwB2J)eBuBaBfBnBpBsBvBwB2J).BuBaBfBnBpBsBvBwB2Hf(7BuBaBfBnBpBsBvBwB2J9$BuBaBfBnBpBsBvBwB2J",
    "!yBuBaBfBnBpBsBvBwB2J!?BuBaBfBnBpBsBvBwB2J$9BuBaBfBnBpBsBvBwB2J$8BuBaBfBnBpBsBvBwB2J(iBuBaBfBnBpBsBvBwB2J(GBuB",
    "aBfBnBpBsBvBwB2J)eBuBaBfBnBpBsBvBwB2J).BuBaBfBnBpBsBvBwB2Hn(7BuBaBfBnBpBsBvBwB2J9$BuBaBfBnBpBsBvBwB2J!yBuBaBfB",
    "nBpBsBvBwB2J!?BuBaBfBnBpBsBvBwB2J$9BuBaBfBnBpBsBvBwB2J$8BuBaBfBnBpBsBvBwB2J(iBuBaBfBnBpBsBvBwB2J(GBuBaBfBnBpBs",
    "BvBwB2J)eBuBaBfBnBpBsBvBwB2J).BuBaBfBnBpBsBvBwB2Hp(7BuBaBfBnBpBsBvBwB2J9$BuBaBfBnBpBsBvBwB2J!yBuBaBfBnBpBsBvBw",
    "B2J!?BuBaBfBnBpBsBvBwB2J$9BuBaBfBnBpBsBvBwB2J$8BuBaBfBnBpBsBvBwB2J(iBuBaBfBnBpBsBvBwB2J(GBuBaBfBnBpBsBvBwB2J)e",
    "BuBaBfBnBpBsBvBwB2J).BuBaBfBnBpBsBvBwB2Hs(7BuBaBfBnBpBsBvBwB2J9$BuBaBfBnBpBsBvBwB2J!yBuBaBfBnBpBsBvBwB2J!?BuBa",
    "BfBnBpBsBvBwB2J$9BuBaBfBnBpBsBvBwB2J$8BuBaBfBnBpBsBvBwB2J(iBuBaBfBnBpBsBvBwB2J(GBuBaBfBnBpBsBvBwB2J)eBuBaBfBnB",
    "pBsBvBwB2J).BuBaBfBnBpBsBvBwB2Hv(7BuBaBfBnBpBsBvBwB2J9$BuBaBfBnBpBsBvBwB2J!yBuBaBfBnBpBsBvBwB2J!?BuBaBfBnBpBsB",
    "vBwB2J$9BuBaBfBnBpBsBvBwB2J$8BuBaBfBnBpBsBvBwB2J(iBuBaBfBnBpBsBvBwA>_>h8ih=/9[$<$qlflnlplvlwI[.<.8=&T,L8ta8tf",
    "8tn8tp8tv8twF,oTA[m8i,o&x8I&CS%P(v$y%4MaMfM$nJ]]MaMfMnJ]^MaMfMnMpJT$qMfMnMpMsJ<3MaMfJ8N%4EaEfEnEpEsEvEwE2E9$Nu",
    "E!RB]]EaEfEnEpEsEvEwB]^EaEfEnEpEsEvB,LEaEfEnEpEsB<3EaEfE%RJ8j%4EaEfEnEpEsEvEwB]]EaEfEnEpEsB]^EaEfEnEpEsEvEwB,L",
    "EaEfEnEpB<3EaEfEnEpEsEvJ8T%4EaEfEnB]]EaEfEnEpEsEvB]^EaEfEnE9nB,LEaEfEnEpEsEvEwE2B<3EaEfEnEpEsE8EJ8l%4EaEfEnEpE",
    "sEvEwE2B]]EaEfEnEpEsEvE9EB]^EaEfB,LEaEfEnEpEsE!uB<3EaEfEnEpJY%4EaEfEnEpEsEvEwE2E9$NuB]]EaEfEnEpEsEvB]^EaEfB,LE",
    "aEfEnEpEsEvB<3EaEfEnEpEsEvEwJ8c%4EaEfEnEpEsEvB]]EaEfEnEpEsEvB]^EaEfEnB,LEaE8cB<3EaEfEnEpEsJ8P%4EaEfEnEpE!9B]^E",
    "aEfEnB<3EaEfEnEpEsJ8E%4EaEfEnB]]EaEfEnEpEsEvB]^EaEfEnEpEsB,LEaEfEnB<3EaEfEnEpEsJ8M%4EaEfEnEpB]]EaEfEnEpB,LEaEf",
    "EnB<3EaEfEnEpEsEvJ:E!01h<3Za8I9g!$>h8i,o*_A>_>h8i,o)NOTG*_A[m?W!wITIWA>_>h?W!wITIWNbAc9N9<y9[8ixF0FXFdF8JFkFgF",
    "oFcF8HFrF8AFX$5Fc9sF8J$5Fk$pF8A9sF8?F;f9[.lF.lFkkF;f9[8UFxgFgxF8AxFhFbF8UFRFh$5Fb$pF8U$pF8_8UFh%+Fb%+F8U%+Z8_",
    ",E8V])FR%+Z8oFh9sFb9sF8U9sFR9sFh$59sFb$p9sF8U$p9sF8_8U9sF8U9s%+JbB9sF8_dBP8AJXBP8AFd9sJ8A9sF8KHxHP8AFR$5JhF$/",
    "8A9sF$=8A9sFR$6BP8AFSF;f9[*qFWSHFS!!FQFTF%yF$2QFUQF8gF;f9[$MF8&$Q97QF;f9[8gF9?QF&xFUF$bF08KFU$5F9?UF8&$Q97UFUx",
    "F;f9[UFW<[H8KHUF8MHWHQH%xH*qF[.90UNWNQNSF9%b!z9eGhF;f9[8xN9eN8~F$N)v!6hj%]!<0P8h&R)sq&VC^T&R)sq&VC8S&R)sq&VC9P",
    "&z)sq&VC^T&z)sq&VC9h&z)sq&VC]G?Y8nq&VG;>]i84)sq&VGd9q&CZ!oGT%YGQ%YGd9q&C%YC9h!CMd?a!CM!(M9?!(M![M*KM$PM=1M&zC",
    "9P!CBd?a!CB!(B9?!(B![B*KB$PB=1B&zB9Gj!A?R;+jd9w<G>ST]q&$j9+8%j&y)r829o$/$JA._.7&X(&:>=q;BH]nQ$D8.=q;BH$T|DXH9N",
    "|DXA8d8l$>b!N%I)Or+;8d/Sb&>!u_h!v<4Gb&>!u_h!v<4G!**f<4Gr+;8d/Sb&>?t<4Gb&>?t<4GR8rcb!J<4G/G$X=[P<4G=[P<4G;W$I?t",
    "<4G/G$X=[|59l(R9<!v<4G=[|59l(R9<!v<4G;W$I!u|59l(R9<!v<4Gr+;8d/Sb&>!u_h!v=]Gb&>!u_h!v=]G!**f=]Gr+;8d/Sb&>?t=]Gb",
    "&>?t=]GR8rcb!J=]G/G$X=[P=]G=[P=]G;W$I?t=]G/G$X=[|59l(R9<!v=]G=[|59l(R9<!v=]G;W$I!u|59l(R9<!v=]G&N)n_hhG/G$X=[",
    "_hhG/=b*9/G$X=[G=[_hh7d+n!/G;W$I!u_hhG/G$X=[]:+n!/Gr+;8d/S;W$I!uG$E9<G8~G8E8H!/G!K$[8PGo9A9i8PG%S+~SG>z$$d8NGg",
    "9*8NGk9N*3OS8>8NG$E$NkGR!u8eG8E8d8n8NGk!^$0P<4B&T908A]()Oh,;!/8[R~t9<8[d(E~t9<B)O9i%:$08NG8v9H!F[Wb!N9i%:$08NG",
    "W<=8>8NG>z$F*.T8b8D+YG8>!I8N6P*D*3G=78G8>!uG$I*|x/M!/$08NG9n8>8NGc$NT9n$uTB]G8>8,!|W+<B<|;h>fW+<Gk!^$0B&u&T90",
    "8A](^Mj=S&>8l$/[,g%0!G$q8CfZ8:8r~d8J.5Zk!^$0Z8&rjb$b>Pk!^%)MP!Kk:,C:^k,cCc89P8H?gg$DCk~u8>C8d=:+)kCR(qQ!*IP8_W",
    "8>k9*C9%T~N8NGP_i)w*3CR(qQ!*+pW*|x/M!/$08NC&=~u!F8NC+Z8NC_jC!;|v$uk%i9A8dyO!Kk:,Oh,;)UOR~t%,Od(E~t%,C8H8Ek9w/M",
    "%T*L8PGh,;*3G=^G,a=^Gk_k<5P%T*L8P8[h,;*38[=^8[,a=^C8q_jC9v&=~u!F8NC%:$&!*C$[(,WC8>!I8NC>z$F*.TCRk9c,B!*$p,;*3O",
    "=^O,a=^ZQ$[8PC8v9H!F[W)U$6~u8>CRk9c,B!*$6_k<5P=^8C_i)w*38C<5P!K$[8POc$NT&=g*3P%T*L8P8t=^8t_i)w*38tk_k<5F9<$0Q",
    "+,GP8_|O)WyO9ik!^d!:OR$6_lhCk!^$0C8&rC8J:<C!u>V8GC8dh,B!*C*Ld8PEP8_|O)WyGk_lhG|O)W!NQ$6_lhGk_l!v9b|O)WyN9ik!^",
    "8T8P6P8_|O)WyN8_8&r9*Gc/6h/M|OS(<$KG|O)W!N9b>z$F*.!WC*Dk%a&>hyC*Ld/M_i)w*3H8rg!j%T*L8PNh,;)/Q$[8PNk_l<5N*DU=_G",
    "~N*3N_i)w*3Nk_k=_m_i)w*3N!K$[/MX9T*3Nc$NT&=g*36*%_l<58C=_6S/Mk_k<56W=_$6_k<5Nr[A*3+p<S_jZW=_+p<S_jZ*3ZW=_8[+*",
    "_jik_l<585P=_C9H$ukEP!O~N)UNk_k$Nym!O~N)Um_i)w)UC;*g!jd!^9>+g*G*3l=_l;*g*3CW$I8NMP=^E,a=^Ek!^U!u<5P=^N_k<5P=^7",
    "_i)w*3C;*8G$6!^U!u<58CP=_7r[A*3+p<S_j85W=_+p<S_j85*385W=_)F+*_j8tk_l<5;6P=_7d!^9>8NC!_8J.:C=7:MWC%38ZCb!W8NC8L",
    "%)A>V8d&V;b;D)v/T(u9tO8Z8n%JO;;O>:%x!j&~(0|Pk8~68:+JO|J%x!j&~(0|Pk8~8C8:+JOk*gQ*>O:A8A+cQ%RO:^kg|P%ROyX*%9d^b",
    "8bP8:+JOk8r8c*>O$Y9;$X&~(0|Pk8~O93$X&~(0|Pk8~O^X%JOk]Oh)nO[$8&(=R8XP8:+JOR%%%08cO8?:<O%E%P!s?IO=jr!s?IO(u>LO$F",
    "$K>LO89d:,O!]!s?IOk]O_m8C*f?IO8j~+)nO&tQ8>8~O*L8H8&R!B>z93%JOW>^%J9b?IO|JT%J9b?IO|G%:_ml%&8cOk*G8cO8A%08cO9L9>",
    "_mO=i!$8cO(v%o8>.:O8n.:Z%%!$_m7h(*:38H8&UOWy+n!]_mO%&8cO9S$?QOc!9O%oSZ[GT8EOk,F!D)nO$Y9;$X93$X,fO8J,&*l?IO!D&S",
    "8?+;O)l[0!s?IOk83|lP)l[08~O8/*G&TZ!7[a&TOk~<%08cOq)?%0_mO8EX.:O:^8N+w_m3g|P^,?IOQ$Fc82Ob(vO>49>8cOk~<%0)~+>WO",
    ")l[0!s+>WO/=/t.:8TOr$18?.:8TO!]!s,fO%E%P!s,fZ0%x!j,fOX(**>Ok!!8J.:OX(*!F*%!!8J.:Ok,F!D*%!!8J.:O8/*Gd!s,fOk&C=U",
    "*f_n=:8CP_n=:Oy(u9tO[$8&(=8_,f8bQ9s%%.n_o,fOy[E8&QOk,FQ$?y[E8&8~OT8G<vO$F(,QO[0$1PQ~ZO|J%x!j,fO9L9>)~,fZ!7[ad",
    "!s,fOW8c>LO^*!R!/8cO%,r.:O:^kg|P^,,f3S+w)~,fOT!a!s:^8N+w8cOkyg.:O^*k8x*%yg.:O)l[0!s,fO&~;*X&TOR%%!$)~,fi8A8cOq",
    ")?%0)~,fOT8/,P8cO8n.:P,fO)>$1$6*G8cO)l[0W(u[a&TO(u[a9n%,r.:O)l[0W%,r.:8C:^8N+w8cO(u[a9n:^8N+w8cO)l[0%n%%!$8cO",
    "(u[ad%n%%!$8cO=jr%n%%%&&TO9Jr%n%%%&&TOT!a!s9Jr%n%%%&&TOWy+n.:P,fO%&+c!]_oT$I8t0W3!B+D+4l8_8N9b|G>?Ok)n~!8cO8x",
    "!1(08~Oy9/b$6)W3=:O*L8H8&ROk*G)~=:O8:+JP?IOk,FQ_m8bg9<7,fO|G%:)~,fi9tO8:+JO%o+JZT(V+JO!u$1!]O9S!D)~8x%n)r$1!!",
    "8Cc!9)r$18~8C%//a)r$18~7T*j$1)r$18~8C!D=(%n)r$1!!O=jr!s_n=:8C8L*J%P$>!sS+f!aS;5c93%JO8:=j&W7P8L*J%P$>!sS+f!aS",
    "$6)W~3=:;6c93%JO%o=j&WO9J&WOQ$K8:9J&WO8:9J&WO!$+g9b*D9b9J&*69J!;!aQ8bQ69H%oS7!76=j&*8XW!aQ6*D9b=j&*O/E(<9d!j%T",
    "9n<68b+>9b%T9n<68b8v%7]=<68b+>9b8v%7]=<68b%o9n<685(0Q9>8XT)V9n<6+Q);T9n<68b);T9n<68bX:V]X<6OQ_%Q!j>Y<lQ$u+c%nO",
    "[$8&(=9b>Y<lQ$u+c%nO9xb]=^bP9E(V(0Q9>8X$RW(0Q9>8X8:(0Q9>O/E(<9d!j|Jy<68bX^/;r^&<68X:V]X8_9E)V9n<6O=j8?[0!sb!B",
    "+D+48t8:+D+4O8x9J)>8_8N9b8J,&*l$NUOQ$K(08~m,&$1O8J,&*l?IP8v%7]=!e$k)]8C]g&TQ^,8L8]b(v8C8lW<68C]g&TQ^,8:8CRkg9g",
    "!s]g&T!s8:8C]g&TQ^,!R8];E8]!q$6)W+1=:8C8c:M8~)r8&)~8:(0Q9>)F$RW(0Q9>Zxd+;?r9t$1)r8&)~89^bZ8?+;?r9t$1)r8&)~:A8l",
    "!<8Cb8x=:O8>8&!j8dyr%n6k9t&T6%W*gQO8J,&*l9by8J~v9E)Vd!D9A/a8C8x9J$R]X8_^*(0%JOy8J~vd/U!D9A/aO8:~vd/U!D9A/a7T)V",
    "d!D9A/a8CS+JPcy$X_p8C$R=%_od[GT*l_p8C~Ch_o93P_p8C%o+W_o*%*E_pOy8J~vS+JPcy$X_p8C$R=%_od[GT*l_p8C~Ch_o93P_p8C%o",
    "+W_o*%*E_pO9K!q^,8:|W8Cy8J|WO]gR9n9t!B+JP[09d(lT?.Q8b8:+J8b>?T%nO)7?8Q8_>?T%n.OP8:)7!!8]%o)7!!+QT(V)7!!8b9J8n",
    "%n(lP8:)7!!.O%o)7!!8]T(V)7!!O~Ch)~/ti;8+g!;8_!!O!F~4O+~!K?t8L7$NU78a78:7!R7;E7!qOk&C=U*f_n9H$I8CP_n9H$I8C*f_nk",
    ")W8CP_nk)WZ*G)~k)WO=jr!s_nk)WA;D)v8f!.&H$PC9+&H$PC*$&H$PC]**$&H$PC)4$(&H$PC._&H$PC8h8r8/838OC8S8r8/838OFT8/(&",
    "&[C(:)sr!/H%v|GC8nr!/C%z8ZC8r8//V!<r9f,L6a6fC8J8yh)nN8oC)I*g8%Cq!V&O8ECo8A.QB=TC8W1$P:3(WC8Q1$P:3(WF8k1$P:3(WC",
    "8Y1$P:3(WF8m1$P:3(WC801$P:3(WB!F(_8J8rd:jC8Y1!F(_8J8rd:jCr%v|QEPW+]|lP8<8Tm8e*jCq%v|QC8J%v|QEPW+]|lP8<8Tm8e*jC",
    "c<0%v|Q%4OaC=kP>*~c*JC9+|NXN:ZC:ZP9NM$TC8l,D909NI$TCR$L&p9NE$TC%hP$<|NXl:ZC(Kh!s~nF&w~nCW+]|lP8<8TN8e*jC$%]L$A",
    "!7)~8<8Tl8e*jC|tP*JC8K9l%F*JC%w*JC%hP*JC_I*JC*<)t*JCd)z18n_T*JC.418Y)t*JC|L;l1_I*JC0P$+&0C~l$+&0C&B0P$+&0C+u$+",
    "_q%66$cC9mP$+_q9k%68[$c78h%68t$c78S%6!Y$c796%68t$c79k8S%68]$cC+EP$+_q%6m$cC9m1,t$+_q96%695$cC<VP$+&0C$NQ%*$+&0",
    "C$+&0:pF</P$+&0C=29.&M$+_q%68C$cC&JC8K9l%F$+C%w$+C%hP$+C_I$+C*<)t$+Cd)z18n_T$+C.418Y)t$+C|L;l1_I$+C%I:%hZ;P8>r",
    "9;9q|DhO,ah%E<37a7fC;v8=,ah%E<38Ca8CfC%I8)r,[(S![O<u%43a3f3n3pC?c82,)9cC[/!H9cC?c!z+,C[/+,C?c!zRg9fC[/Rg9fC?c",
    "!z$W8E8nC[/$W8E8nC%I%.:8O*L;F)WO~:9nO*L;F83,$Q$?Oh[:)W8C1*L;F)WO%.:81*L;F)WO9<,<C9J8//t%J*E9NZ$TC%I!198O~eO8J",
    ".5ORh&3O:?cO8q_U9yO(w_U9yC)x(y9ib!1C%1Q9nC8dC9L=:Ch.];EC(y9ECq(E=P!1C8vq(E=P!1C*b/|$+>)Z!/>)C%/F9fbC$B>XC>X>)M",
    "9NC=>)M%46a6f6n6p6s6v6w6269$8CuCY9Nd*>h9HC$h:?*>h9HC)P*>h9HC8v(n>)C%I96<hO9k<hO$L$R$kOR8l&p9L:y$k)WC8/(:8%E9N",
    "8%C%w8/(:8%Crg!]/;/S9NO$TC/(;v8l!oRC|bXBP+>C8c0=UC&LSC~wRC8n$K~w8_%6Z$cC&^=UE:pC8n_8Q!q)~%6Z$cC%kR!j%6M$cC&L!j",
    "]_q*f*JE!D]_q*f*JC~w8_*JC8n$K~w8_*JC&^Q)~*JC8n_8Q!q)~*JCd!WX]T]_)X9X%vU!v%T;N!J]_q8T)F!D]_q8T)F]_q*f8:&^>/%4N",
    "!D]_)X9X%vU!v%T;N!J]_q8T.P!D]_q8T~>P8:&^>/%4~[a~[fC?PQ0C>|=j97q%v|QO8J%v|QC+uoC8H9g8aC>z839.Cq9t_=CR.v8:.^C=2",
    "=U.^C&$q%a9.C[E/_9.GP_09.C,O!P$k]T_09.C&$q%a]T(EU;S9.CX9;*rX^dd!]C%R%09[q%v|QN)P[LN$j$+N<t:<d8m8%N8K9l%F$+N%w",
    "$+N%hP$+P~j$T(l9NN_I$+P~j$T!Y9NN:Z8OC$I9dC!u$1A/,$N]|)/!+8f%4lalflnlplslvlwl2l9$mumamfmnmpmsmvmwm2l!ymumamfmnl",
    "$8mumamfmnL82|h,[90)/!+8f%48Xa8Xn8Xp8Xv8Xw8Xuu8[a8[f8[n8[v8[w8[28X*N8[n8[p8[s8[v8[28X!?8[a8[s8[v8[w8[28X$98[a",
    "8[f8[p8[v8[w8[28X$88[u8[a8[f8[nA%I/,;D]|%/=(9HOT(V8n9HG=58n9HA/,;D]|9S!D8cAh$U9[/:90/HD8WD8QC8kD8YC8mD80C8uD81",
    "D8zD!fD<aD:eC*o%gD8Y%gC&S%gD*<C8u%gD]xD8z%g8I8~=%P%l<nA~C!v%l[V[W)Y<nV9X9[<nt<n)Y[V[WMU$QFA9E(V+WP(y&QD]2!rDh",
    "9g$(Do_|8yDk8g=m$fD)R(V^%(<D9>:8D!%/~Do>x8,)aD8v9/)X8m.+P$3/P&$*[CQ$$r=rDy~8%kg.+D82.tS8nD&]T%/!+D8rS8>D|6)XD",
    "<R*h)!D8M988.D=,&18.D!c89b$AD8rg_*TF^b%K$AD_*TD%~yD)R!f*[D8xc(>8H)5D%3+,RDq?6TD8vq!]8m.+D)&(E%E>/DX%.*MD);/aD",
    "<MT.+Dk82]pDr:U8.D;*!h8?DX9f.bD]2.+D(E(d=rD8G:Q9A,4+hD(EX8~8nD!;8,*E;|dD8xq+4[tDR9n9aD|,d.+D8x!~,[DX83+bD/UU8<",
    "D8J92D~!d.+P$38M!F8.D)RR%K,gD>*,<DT+b.bD;kyD8:&^*c,[D%$.ID$o+o$(.+C:U8,82D;$R8.DS;FU!0;ND!W=Mg*c,[D~VdD8Md8>D",
    "^n*MD=/8yD8v&t_rC+~8x8.C!Dh8.D93Y9.*[D8n9a+n$AC(q[KDx+o.+D(K/Z*[Cg%n,<D9x!o,<D!$*b8H!+D(K+D,*$AD!s*C$$9KD]m$k",
    "%a+,RDg!2!!!)D(=:%!)Aq+4*a8&%*;kP.2G8QO8kG8YO8mG80O8uG81G8zK!f8_.2G8QO8kG8YO8mG80O8uG81G8zA:1d^_)O8WI8QG8kI8YG",
    "8mAd^_)O8Wt,kA8c%&+c(2)&;VZoZqZcZTZ8JZrZxZQZ8UZkZgZhZbZWZXZ8RZ8AZRZdZUZ8HZ8KZ0ZyZ8dJ,SGoGqGcGTG8JGrGxGQG8UGkGg",
    "GhGbGWGXG8RG8AGRGdGUG8HG8KG0GyG8dK>%;VlolqlclTl8JlrlxlQl8UlklglhlblWlXl8Rl8AlRldlUl8Hl8Kl0lyl8dM,SZoZqZcZTZ8JZ",
    "rZQZ8UZkZgZhZbZWZXZ8RZ8AZRZdZUZ8HZ8KZ0ZyZ8dK)&>%;V7o7q7c7T78J7r7x7Q78U7k7g7h7b7W7X78R78A7R7d7U78H78K707y78dO,S",
    "6o6q6c6T68J6r6x6Q68U6k6g6h6b6W6X68R68A6R6d6U68H68K606y68dK&q;Vlqlclrl8UlklblWlXl8RlRldlUl8Hl8Kl0lyl8dM,SZoZqZc",
    "Z8JZxZQZ8UZkZgZhZbZXZ8RZ8AZRZdZUZ8HZ8KZ0ZyZ8dK)&&q;V7o7q7c7T78J7r7x7Q78U7k7g7h7b7W7X78R78A7R7d7U78H78K707y78dO",
    ",S6o6q6c6T68J6r6x6Q68U6k6g6h6b6W6X68R68A6R6d6U68H68K606y68dK]Zk,DP;VmomcmTm8Jmrm8UmkmgmhmbmWmXm8RmRmdmUm8Hm8Km",
    "0myE,SioiqiciTi8JirixiQi8UikigihibiWiXi8Ri8AiRidiUi8Hi8Ki0iyi8dK>$;V8Xo8Xc8XT8X8J8Xr8XQ8X8U8Xk8Xg8Xh8XW8XR8Xd",
    "8XU8X8H8X8K8X08Xyi,S7o7q7c7T78J7r7x7Q78U7k7g7h7b7W7X78R78A7R7d7U78H78K707y78dK)&]Zk,DP;V8bo8bq8bc8bT8b8J8br8bx",
    "8bQ8b8U8bk8bg8bh8bb8bW8bX8b8R8b8A8bR8bd8bU8b8H8b8K8b08by8b8dZ,S8Co8Cq8Cc8CT8C8J8Cr8Cx8CQ8C8U8Ck8Cg8Ch8Cb8CW8CX",
    "8C8R8C8A8CR8Cd8CU8C8H8C8K8C08Cy8C8dK*s;V8Co8Cq8Cc8CT8C8J8Cr8Cx8CQ8C8U8Ck8Cg8Ch8Cb8CW8CX8C8R8C8A8CR8Cd8CU8C8H8C",
    "8K8C08Cy8C8dG,S3o3q3c3T38J3r3x3Q38U3k3g3h3b3W3X38R38A3R3d3U38H38K303y38dG)&;V85o85q85c85T858J85r85x85Q858U85k",
    "85g85h85b85W85X858R858A85R85d85U858H858K85085y858dm,S8Xo8Xq8Xc8XT8X8J8Xr8Xx8XQ8X8U8Xk8Xg8Xh8Xb8XW8XX8X8R8X8A8X",
    "R8Xd8XU8X8H8X8K8X08Xy8X8dG>%;V!Yo!Yq!Yc!YT!Y8J!Yr!Yx!YQ!Y8U!Yk!Yg!Yh!Yb!YW!YX!Y8R!Y8A!YR!Yd!YU!Y8H!Y8K!Y0!Yy!Y",
    "8d6,S85o85q85c85T858J85r85x85Q858U85k85g85h85b85W85X858R858A85R85d85U858H858K85085y858dG)&>%;V95o95q95c95T958J",
    "95r95x95Q958U95k95g95h95b95W95X958R958A95R95d95U958H958K95095y958d8[,S8]o8]q8]c8]T8]8J8]r8]x8]Q8]8U8]k8]g8]h8]",
    "b8]W8]X8]8R8]8A8]R8]d8]U8]8H8]8K8]08]y8]8dK$R%n8L/|;V6o6q6c6T68J6r6x6Q68U6k6g6h6b6W6X68R68A6R6d6U68H68K606y68d",
    "I,SmomqmcmTm8JmrmxmQm8UmkmgmhmbmWmXm8Rm8AmRmdmUm8Hm8Km0mym8dK>%87;(Q8b8UK)&9:&KZ*!Z(tZ,iZ(+Z;<Z(*Z;=Z(rZ,qZ:;Z",
    "!0Z$DZ)>Z,pZ9LZ(PZ<;Z<:Z+XZ($Z(NZ$uZ(uZ%HJb!28GJ87&KG*!G(tG,iG(+G;<G(*G;=G(rG,qG:;G!0G$DG)>G,pG9LG(PG*$:.G<:G",
    "+XG($G(NG$uG(uG%HJ&t=z]m8y[BJ(+8fJ<;J,q8fJ(N8fJ(P8fJ9L8fK>%9:&Kl*!l(tl,il(+l;<l(*l;=l(rl,ql:;l!0l$Dl)>l,pl9Ll",
    "(Pl<;l<:l+Xl($l(Nl$ul(ul%HMb!28GM87&KZ*!Z(tZ,iZ(+Z;<Z(*Z;=Z(rZ,qZ:;Z!0Z$DZ)>Z,pZ9LZ(PZ*$:.Z<:Z+XZ($Z(NZ$uZ(uZ",
    "%HM&t=z]m8y[BM(+8fM<;M,q8fM(N8fM(P8fM9L8fK)&>%9:&K7*!7(t7,i7(+7;<7(*7;=7(r7,q7:;7!07$D7)>7,p79L7(P7<;7<:7+X7($",
    "7(N7$u7(u7%HOb!28GO87&K6*!6(t6,i6(+6;<6(*6;=6(r6,q6:;6!06$D6)>6,p69L6(P6*$:.6<:6+X6($6(N6$u6(u6%HO&t=z]m8y[BO",
    "(+8fO<;O,q8fO(N8fO(P8fO9L8fK*s)&9:&K85*!85(t85,i85(+85;<85(*85;=85(r85,q85:;85!085$D85)>85,p859L85(P85<;85<:85",
    "+X85($85(N85$u85(u85%Hmb!28Gm87&K8X*!8X(t8X,i8X(+8X;<8X(*8X;=8X(r8X,q8X:;8X!08X$D8X)>8X,p8X9L8X(P8X*$:.8X<:8X",
    "+X8X($8X(N8X$u8X(u8X%Hm&t=z]m8y[Bm(+8fm<;m,q8fm(N8fm(P8fm9L8fm>%9:&K95*!95(t95,i95(+95;<95(*95;=95(r95,q95:;95",
    "!095$D95)>95,p959L95(P95<;95<:95+X95($95(N95$u95(u95%H8[b!28G8[87&K8]*!8](t8],i8](+8];<8](*8];=8](r8],q8]:;8]",
    "!08]$D8])>8],p8]9L8](P8]*$:.8]<:8]+X8]($8](N8]$u8](u8]%H8[&t=z]m8y[B8[(+8f8[<;8[,q8f8[(N8f8[(P8f8[9L8fK)&9:8:",
    "(tJ878:(tJ9pG8WG8QO8kG8YO8mG80O8uG81G8zK>$9p78W78Q8b8k78Y8b8m7808b8u78178zK*s9p38W38Q68k38Y68m38068u38138zG)&",
    "9p8X8W8X8Q8[8k8X8Y8[8m8X808[8u8X818X8zK$R%n8L/|9pm8Wm8Q38km8Y38mm8038um81m8zA?w8K9d*a&c1(k%VH&B%VJ9k%VH;r90%VH",
    ".K%VH*V%VH(k%V+NH&B%V+NH(k/y,?P%V+NN*T*8[i.,9Slq9NX$(l;w8bP&1H&B*T_$TH(k%V:CH&B%V:CH(k/z|78X*8[i.,+w8X;wl9N%c",
    ";wl;wP]~l%X.=95P%V+N+1>6+N+1q9NX$(+1;w8[~A$(H&B/z[hH(k>6+N9U%VN%V+N=q:Cl%X+OH&B/z+OH(k%V:C_2+O+N8Xo>0+O<78X+O",
    "+N8X_$~D;P/Y+Pl9N%c;wP+P/1.=l;w%c9k+Pl]~9s;P/Y^A8X/yq9NX$(8];:.j.O(%$(8]8.$(N/y.(P%V:C<7N/z.=P+P~_P.=_y|7N%X/y",
    "*p+H*T9NN:5%Y8=]~l%X.=P;wP+P8[~A8=+P8[8~_:^A+1q9N.E^AN%X/yq9N.E*T9NN:5%v9N.E]~N%X/y!>*T9N.P;wN:5P9q=QW&w]~.O!z",
    "]~8b!>]~l%X/y.=P;w.O9q=Q)a)FN%X/y9q=QW&w*T9N~Q[h8]*T9NN:5%Y$(%c;wJg(&9]<88b+N8X;w8X.=95/X,cHq8G:Q9]<8P.=H(k9]",
    "<8P.=+NH.K9]<8P.=H:ZP?J!cN]HP?J!cN?J/Y8Y+NN]HP?J/Y8Y+NN?J!c+NN]HP?J!c+NN?J/Y^AHq9k?J!c(lP$gH.K?J/Y$gH;r90?J!cH",
    ":ZP?J/Y;w;6P+P.P*9+OEEP.(P+Z!v,w8.RN]HN+PN]HP+PN+O+Nl^BNR+D;G*T+Pl|p8bP+P+1+Nl=dHq8G8KEP+PN*9+ON^AH(%;h<z9yEHq",
    "9k$gMMP%j+PE+PE%j*9+OE*9+OE%j^AE^AB8A<zU!J$gOJ;:9SH;r8<EP+PN*9+ON^AH.K$giP^ANN$fI%j+PI+PI%j*9+OI*9+OI+PPd!!8>",
    "8,%Vm.(%c!)H&<H(k/z!)H&B/z!)H.K/z!)H*V/z!)H.K=dH(k/z!)+N(l.=H.K/z(_.=H(k;x$T7P~e/Z<7.O.T9ac8bW.8R!rcm9NN/y,?P",
    ";x9NH&B;x9NH;r90;x9NH*V;x9NH(k;x*8[i.,9Sm|7md!!&=8_+O3!X)kH.K;x+OH(k;x:5H.K;x:5H*V;x:5P:5P)a/0H(k;x%VH&B;x%VH",
    ".K;x%VH*V;x%VH(k/z=dH&B/z=dH.K/z=dI!)H*V/z=dH(k/z_,=dH&B/z_,=dH(k(_$TH.K(_96:5%Y:CH*V(_$T%c/y%V*yH(k(_9Ni*8[i",
    ".,9Si=dH&B<9H;r90<9H*V<9H(k!):C7P.=8b*8[i.,+wi%Vi+OH(%P(_+OH(k*T<9H&B*T<9J9f<zU!J*T|R8~H(%P*T|R)a(l82(l,?Hq9k",
    "*T<9H.K*T<9H*V*T|R)a(lH(k%X$TH.K>6H(k]~H&B]~H(k%X*8[i.,9Sm9k+PH(%%c+OH(k%X/y=dm=dm<9H*K%c<9J9f<z9y%c|R8~BX%c<9",
    "H.K%X<9H&<%c|R)a8]82.OH*K%c<9+NJ8G8K%c|R.=[2|*H(%%c|R.=P)a/182[2J82<o*T;wH(k*T+PH.K*T+PH(k:5P:x/y.r+1.=+1|7!Y",
    "%V+N!Y%N8?+N!Y*T_$T8b^BP%V<7;6|78b(%8b.T<z9y85|3/y,EHq8G:Q:5P<y/y,EH(k:5P<y/y,?8X;:9SHq9k:58CP$gH.K:5P$g8X!~8b",
    "8b$fH*V:5P)a8X828bH(k+OiP]Hl:x.r7.=7|7l^Bl.(P%V:C8[%X!)8[<9l,?P9F<8l.;9F<8l,?P9)<88b9]<8l.;9]*8[i.,+wEEP]HVd!!",
    "8>!.J=kJ.(V*b%W!.J=kJ.(VR%o!R!.B=kB.(Vo9C88!.J=kJ.(V9Co!.F=kF.(VR9f9(8fRM.(K,8.]!J!~!.M,W!.M)S=kM87=kE|f[BV&GQ",
    "<G!~!.J,W!.J)S=kJ87=kB|f[BVR,8.]!J&GQ<G.LV.M1.K9k96!~8X,W3R|f[Bi96R|f[Bi9k96.LP!~)F,Wi:x9n|*?>,$9ARE+B~L;vP|6",
    ")XE^C;vP|6)XE+B:t!.<7$f)F$S)F!~~Q!F8t8K[169+<78t8K[18t.L.P$~[16;+6>5_2.M8t8K[18t.L.P$~[16:?c$f8[$S8[!~6^>$f8t",
    "$S8t!~8t=|8C8+%p$f85$S85!~6)8$f8X$S8X!~6^Wr$f8t$S8t!~68/$tR$f85$S85!~V(V9ag;yP=|;y!.;69+;6.L8t;z!..P9+.P.Lm9B",
    "*Mm]t/X9g8<!.(l9+(l>5V.M1,_S?/$f8X$S8X!~(l!F39n>(,W8t$S8t!~+Q!F3.(!B?/$f+Q$S+Q!~;6!F8t9n>(,W;5$S;5!~/1!FE;z!.",
    "<7$f;6$S;6!~/0!F!Y8K[18C9+<7!Y8K[1!Y.L[2$~[18C;+8C>5_2.M!Y8K[1!Y.LP.M/18K[18C:?c8C^>$f!Y$S!Y!~78+%p8C)8$f8[$S",
    "8[!~8C^Wr$f!Y$S!Y!~8C8/$tR$f8t$S8t!~V(V9ag1^C=|1;z!.[29+[2.L!Y+B:t!..P9+.P.L39B*MV.M;yP<y%h$f+1$S+1!~[2!F85%s1",
    "*K$f.P$S.P!~<$!F85?y1%h!r$f~P$S6x9XX$f8[$S8[!~6+9$f8[$S8[!~8[879+6<b<y9+$f.P$S.P!~8]>5$f.P$S.P!~6<y>><78[c*y$f",
    "95$SV=|;y!.69+68<+b$CV.M;y=V*M6<y&f<v!8+B6x9X&p&f<v!8+B6+9P&f<v!8+B6<b&f<v!8+BV=|;y^9&f<v!8+B68q&f<v!8+B6.LP&f",
    "<v!8+BV.M;yP<y&f_s6x9X&p&f_s6+9P&f_s6<b&f_sV=|;y^9&f_s68q&f_s6.LP&f_sV.M;yP<b,_X*g$f[2$S[2!~E^C<y&f]r$f<$!~8Cx",
    "9X&p&f]r+m9+/0)S9+/087>5/0)S>58C+9P&f]r$f!./0!~!./0879+/0)S9+8C<b&f]r$f/0!~V=|1;z^9&f]r8C8q&f]r8C.LP&f]rV.M1^C",
    "<y&f[J$f~Q!~8Cx9X&p&f[J+m9+/1)S9+/1>5+m>5~P)S>58C+9P&f[J$f!./1!~!./1879+/1)S9+8C<b&f[J$f/1!~V=|1;z^9&f[J8C8q&f",
    "[J8C.LP&f[JV.M1^C<y,W8t$S8t!~+Q!F8t(K++$(8Cx9XX$f8C+9$f8C<bR8l!R8th+>85!~V=|1;z!.8C9+8C.LV.M1;z=V,=[FgE+B~L]t",
    "!r$f!.8]$S!.8]879+8]%f9+E^C]tP&B&f+B$f!._y$S!._y!~!._y879+_y%f9+_y)S9+E+B:t$~+f!8&B<vd!.[29+E;z$~+f!8&B&f+B!.",
    "~P9+E+B~L;v!rR!.;59+E^C;v!r8_&f+B!.~|9+Vcy8l=l&s$f3!~M9x!FMR&1M!f8nM8r8G0$(M!7^t%KT~J8CP.LMT(4W.8P~nM*b%38<V&0",
    "FP9dhH.M;y<78[+jdZ;z<7Z+B:t;h9aZ;z;h9aO!rV_[8:8r~d/~P!/*I^BP+jd8..O9k$3$T/1P+jd8.V=8o^NR_29N3|S8<3$TVc8r9c!N=8",
    "o^N8_~K$Tl96|S8<l9k|S8<l~K9NV(yT_q|S8<E|6)XE8K?K.jV+0P$gHR,8.]$(H?^|CC%i,5k!.N=kC8_%w$gH!w^.$gH%s=+|CH=p8x8,.M",
    "CP[OkC:cT8_9NN$TN&G9T9E!)C8a$E;y<78tP9+!Y.LM;z<7!YP9+(l.LM+B:t;h9acM;z;h9acM+B:t<eg8.V&=&~8_%C(W$(B|S8<BR.,$(V",
    "!f8n?g&~8_x=LO>6O&1V&3RV!/*I|S8<H|6)XH8K?K+wJ<L+wVS9g%i&18,)aF&Oq,=82Fo&1+m=|RFR.,+m=|RV)IS)t82Y9SB93Y9SVh~O%$",
    "|S8<O^BO|6)XJR(,TI$~?K.jG$gJ8J>+I$~?K.jG$gJ$g!rI^BI8K?K.jI;r8<i$~?K.jl8P.aI/_&<8C$~?K.j78P.aJk,$NP^BI8K?K.jJ!f",
    "8nIP^BGR.,$(V.58_[n>K9n9K.8CP&%9U(|F(|9U&%V.I+tRJ8K?K+w!.i9+V_U9y9s((,=W&w8J9JB<z,=.5RB<c.(P.5RId!!8>8,,EP.IB",
    ",E$p~O8r8G0$(B$?9a8_!$(;!F?g&~B|p9s((,=)aZ,EP.IKT(9HP.MJ!s_U9yiP.ME.5ROP.MJ<B!J.5RV.M;yP8s8KE^C8s8KV$h%pVY9gV",
    "~gQ9E,[V>T%ac$O9wX/X,/O/~RV+B:t/W%ac$O9wX,49aV;z/W%ac$O9wX,49aV>T%ac$O+j*a_?$~8$!FV&$$I;y_2;*d8>l.T>f:?cJ^Cd!w",
    "!F8.V%Zo(T!N+j*a_?P9w&p|A&NV9t)k.H++!+H_<8?%4GaGfGnGpGsGvV;vVg(B!+;y+3E;z+3MPx81E=p8?Ec(^8?E_q$h%pE&$$IE9t)k8_",
    "c:k&NV$sV$JV?MV)gV<VV;mP~x8y$qZfZnZpZsV=|P~x8y$q3f3n3p3s3v3w3239$6u6a6f6n6p6sA+S9/b$=(M8Dd[?B9v&qrL&;9ZrL59vkL",
    "&;:*>JL59S$0&mB9Z.U>JB9v&iB9Z&:9?);8V[)M9^8V[)L8i8r)l_0%v>I&mL5(!+*)K8t8V)<B9Z&n)<L8i$B+U8D)<K;*d?Yq8D)<D_39:",
    "9ZkL:)+&(%Bc.]+T(M)LB:*>J8V+Z)ng%YB&i)LB9Z8A)LB&:+&(%8V+Z)ng%YB9E>H(M)LBT$0)LBc.]+T(M&mBQ9Y8V[)BW&mB9E>H(M&mBq",
    "&mBR8D)<A%Ir:VW,c<FS,Jlo%)yl9a8vlr:VW9tlc=78&ly9;9~l$08m9Em!Wg8slQ+)m!q=zQ+)mlc?,!bl8N!ulg(x8:!ilh.),cTl8l*.lW",
    "$Dl!O!u$.l/U!7l;f$Nld8H9d!1lU!_l8J/UUl+lUl888Tld!7l8>9d!bl9Bl,sU6QmS!KmUl87_Rl!9l(r,n+m_Rl<>l::/V<>l8J:<A)T$t",
    "&iP%C%.!X!Jxh.x:>$i3!*3b8T38T3Y38l3([3b8N38;38G38j39i3b8;6!*38N38Z39W68E3893*O([3d([39x38E3$w38P3b$w38L308P3b",
    "8L3c8G3b>g3^h3h8G3>g38a3,!3S6S3Q3U3W6W3T6T38KI$<]Ylhl8Ul8HlRlrlcI!A%l:z8Cd_$8Cg(B!+8CS!q/G8C82$$9Eo,FTl0:Q08KG",
    "|/_<>>8yI9pm8Wm8Q38km8Y38mm8038um81m8zI|k=%P9W8UI!>8;A9n*E8i8LV8eV8TV8ZV8NV8aV8cV8lK8aV8jV$FV8PV8MV8sVYV8EV8GV",
    "QV)I*g!NQV:rV)I*g!N:rVUVTV)I*g!NTV*nV)I*g!N*nVWV!VV)I*g!N!VVS9R!A<A$<A8Mbq9l$ySCD8eD8;D8ZD8aD8PD+/D8GD8lD8LD8T",
    "CYD9xD8jCYD8sD9iD8MD89D8NDWD8)D8ED8cD$[DYDTDQD9QDUD$ZYD!*C8ED,(DS9qC!hD8.D8~D8xDS9eD9WDU8xD)Nxe(sd9NC!qV!uQC!q",
    "e9pK8WK8QD8kK8YD8mK80D8uK81K8ze!h9|8OA(9Q!%$k=Wxx8PEUEQE8pE8gNEWJ$o8E<oxx8MJxx!wE8gNJ$o8E<oh!wi8gO8R!wi8glOo!w",
    "i8gOk!wi8glOr!wi8glO8J!wi8gOX!wi8gA$>^.%R8N!_Q=Wh%=P%RZ(h8NZ&e!_Osp$68gO2(g!ROvs$69oOn/u!uG[d2$6?7G(7*P!wZ(g8M",
    "Z)d*_G(es$~8gOu/u9VZ*P(DG!Mn(g$nGu2*P*_QOnf$~%xG!Msu$~!bOn2$~89G)$2$~9aG(7),&^Z/u$QZ2,xbOp,>$>O2*P$RGupn,x9eOw",
    "2,x8xG!M9$P$&Zu?4Z(h$GGu$8P+^G!M2v,)G9$&e/LOf/u%NG!Mu&eQZn!BZ(gUGus&e8gO(7PTOs(g9oOn),WOf),%xZ(F82Z(g82O2(g9eO",
    "v/u8xG!Mu2[ZO!y+|Zu+iGusa)sTOus)sOfs9s9oG!Mv,>$IGu2s[ZSG!Ma(g9tZ)d8GZ),!SOw*Pg8gOv&e9SOp*Pg9oGup&e9<O9$P9?9SG",
    "!Mu)d8:Z),8ZZ/u%3Ow,>?+Gu)ePc9oZ(F!1G!Ma(h!KZ&e8TZ*P9~O2(Fd8gOp(g9EG9$*P;RG!Ms,>9nOa/u$.Z,>8sO!?P(xGup),];Ou&e",
    "!iO(iP%~WG!Ms&e%~G[d(g9?%~G!Mf(F)NZ(h8PZ&e$vG9$,>?AG!M)eP&xG(~(F]QOa(F!9G!Mf*P!<Z(g9xZ)d%kOv/u9/TZ(g9/G)$&e(=W",
    "G!Mw/u(=Gu2),%kSO!M(F9xbG!Mf),|qZw.ubZ,>$HGu[d$58xOs2$58~Ov)d9wG!Mn(FYGuw)d!XG!M$9P)_O2)d8+On(h*pGu$9P9lG!Mw&e",
    ")_QG(e/u*pUG!Mp&ex82Gu!?P%BG!Mw),x9|Op(hx8xGu2&ex8~G!Mn)d!X9eO).P&dQOn&e&dSOw(h?BGuu(g&d8gOn)d&dTOp)d&d9oO!yP",
    "&dWOp,>&d8pOa),?BSG!Mw)d9?&dTG9$)d9?&d9oOw&e9?&dWOp(g&*Ou(F8aOs/u$oO).&|8gOs)d$o%xZ),$o9eOw*P!h8xG!M+y$5&WG[dv",
    "$5$o9eG!Ms/u9LO2,>8LO$8P%COw(F(YOp(F8/G9$a&v9oG!Ms)d!OG(~p$p$&G!Ms(h,IG(ea$p$GG!Mnv$p+^Guww$p+^G!Mva$p!HG[da$p",
    "/LZn$p%NOw),)k(bOs(F9?h!HO!M(g9?h/LOn(h9?h%NOfa$69LG!M2a$68LOvn$6%COnn$6(YG9$w$68/O(e$6X9oO+I$6!OO)A&|$&G!M)B",
    "&|8eG(~w&|$GG!M2f&|+^G9$v&|!HG!Mvu&|/LZ!M&|%NG[d(F8EO*N$58:Z2$58ZZp$5%3O2u$5?+Ou2$58vG!M./$5c9oZn$5!1Gupa$58sO",
    "2a$5(xOn2$5];Of*P/)9oOw(h!bZ(g89Op(F/6Ov&e9aTG!Mw(g9aG(~*P$NWG!Mv),$NGusn$5~*G!M+I$5)wGu(GP)U9|G!M2w$5_zO(iP)U",
    "8~D.2M8QE8kM8YE8mM80E8uM81M8zD%I<_%gR7bR691R69=R8C$|9=R6<?R6(,>WRA!c_6%>g&SE/K9tE8G9cE$K!DE8eE^n)TQy8+E8/Eo8+E",
    "8EETE9xEQEWE*;Ey8+E$,E$HE,zE8PEUE$.!DE$uEYE$w%]E8aE9WE9~EbYE89E$[Er!HE9igEk!OE9BL58<&SB/K9tB8G9cB$K!DB8eB^n)TQ",
    "y8+B8/Bo8+B8EBTB9xBQBWB*;By8+B$,B$HB,zB8PBUB$.!DB$uBYB$w%]B8aB9WB9~BbYB89B$[Br!HB9igBk!OB9BL8<&SP_<>>8yL;I_<>>",
    "8yL9K&^*&L=AL|1P~x8yL9K&^.~|1P~x8yL;Je9><.*&L9pV8WV8QK8kV8YK8mV80K8uV81V8zL?9*4D(8A]Lq9s*m8RP*2B8QM8kB8YM8mB80",
    "M8uB81B8zB!fM(CM)zB.3M;QB.4M&8B>tB>uB(ZB9F91M$V91B9]91M$d91B%U91M%Q91B$_91B&I91B9!9=B9F9=M$V9=B9]9=M$d9=B%U9=M",
    "%Q9=B$_9=B&I9=B>aM8K_aM*o)EB(y)EM&S)EB80)EM%0_aB|i)EB8z)EB:MxI9eV:Mx8%V<_.s9AG9eB;P!<08=8Wl8Qm8kl8Ym8ml80m8ul",
    "81l8zV+D.Q<R%:V?Q:&O%sE9)%hRV9C(Y8%V<_+G8Wm8Q3$|9=V+G:Mx8%AW_V$Q9s*m8RP*2E8QN8kE8YN8mE80N8uE81E8zE!fN(CN)zE.3N",
    ";QE.4N&8E>tE>uE(ZE9F91N$V91E9]91N$d91E%U91N%Q91E$_91E&I91E9!9=E9F9=N$V9=E9]9=N$d9=E%U9=N%Q9=E$_9=E&I9=E>aN8K_a",
    "N*o)EE(y)EN&S)EE80)EN%0_aE|i)EE8z)ED8c,!%KD+G<_8Q8C8k68Y8C8m6808C8u68168z6!f69]916%U9169F9=8C$|9=D]N%si808?A:_",
    "$i%&+c(2$]M;^M^gM(:M$,M:|M^hM*dM(/M,zM%_M=EM+?M=BM(;M/DM=RM+=M[[M!58xMd$ME$*M>cM?nM>dM9ixM=CM;(;^l+?l/Dl+=M?9",
    ";^l^gl$*m!,l(/l,zl%_l=El+?l=Bl(;l/Dl=Rl+=l!58xld$Mm$*l>cl>dl=CM%u8=^gi^hi(/i%_i+?i=Bi(;i=Ri+=i!58xi>ci>di=Ci;(",
    "+?8X+=M;*d?Y;^3^g3$*6!,3*d3(/3,z3=E3+?3=B3(;3/D3=R3+=3!58x3d$M6$*3>c3>d39ix3=C3;(;^8t/DM+98=$]i;^i^gi(:i$*i$,i",
    ":|i^hi*di(/i%_i=Ei+?i=Bi(;i/Di=Ri+=i[[i!58xid$Ml$*i>ci?ni>di9ixi=CM>$;^8b^g8b(:8b$,8b:|8b^h8b*d8b(/8b%_8b=E8b",
    "+?8b=B8b(;8b/D8b=R8b+=8b[[8b!58x8bd$M8X$*8b>c8b?n8b>d8b9ix8b=CM&aP%O%|8T>e!Gm%|(:Ah!,8U.x<kP/e:YK|z:YK*u:YK]+",
    ":YK(O<p&WK>|$|<p&WK9D<p&WK9!^DK9F^DD$V^DK9]^DD$d^DK%U^DD%Q^DK$_^DK&I^DK9!^EK9F^ED$V^EK9]^ED$d^EK%U^ED%Q^EK$_^E",
    "K&I^EK9!^FK9F^FD$V^FK9]^FD$d^FK%U^FD%Q^FK$_^FK&I^FK+D9XK9A$ucKo9c/LK8>!^/;%&h9XK%W!)D9X(mKS9T9XbK8K*FK%~k8yK)!",
    "A!1$K*9<kP$7)!N.<.<iuiaifinipisGu.<iuiaifinipisGa.<iuiaifinipisGf.<iuiaifinipisGn.<iuiaifinipisGp.<iuiaifinipi",
    "sGs.<iuiaifinipisV!|)!M.<.<OuOaOfOnOpOsNu.<OuOaOfOnOpOsNa.<OuOaOfOnOpOsNf.<OuOaOfOnOpOsNn.<OuOaOfOnOpOsNp.<OuO",
    "aOfOnOpOsNs.<OuOaOfOnOpOsAX]c8,q|o)!KS/|;0K9F;0D$V;0K9];0D$d;0K%U;0D%Q;0K$_;0K&I;0K[o;0K8s<G;0K:qP;0K|T;0K,=;0",
    "KS/|;1K9F;1D$V;1K9];1D$d;1K%U;1D%Q;1K$_;1K&I;1K[o;1K8s<G;1K:qP;1K|T;1K,=;1K(O%~k8yKS/|;2K9F;2D$V;2K9];2D$d;2K",
    "%U;2D%Q;2K$_;2K&I;2K[o;2K8s<G;2K:qP;2K|T;2K,=;2K8(%~k8yKS/|;3K9F;3D$V;3K9];3D$d;3K%U;3D%Q;3K$_;3K&I;3K[o;3K8s",
    "<G;3K:qP;3K|T;3K,=;3K9D%~k8yK(=%EKd<0X%4BaBfBnBpBsBvBwB2B9$MuMaMfMnMpMsMvMwM2B!yMuA9pP$Jt$sL8W+dL8Q+de8k+dL8Y",
    "+de8m+dL80+de8u+dL81+dL8z+d9,!ho(&!>*s9p4:m!>*s9pA!>/H+p:c4.!9G4:7.R*:99=qg8$%*?~:cA_;R&>8=)H%>8Xo8Xq8Xc8XT8X",
    "8J8Xr8Xx8XQ8X8U8Xk8Xg8Xh8Xb8XW8XX8X8R8X8A8XR8Xd8XU8X8H8X8K8X08Xy8X8dA.B8=)H&jA!>>%)H,h8[8A4qc48K8d8I!%y8^8fA;d",
    ")H%>momqmcmTm8JmrmxmQm8UmkmgmhmbmWmXm8Rm8AmRmdmUm8Hm8Km0mym8d4x8H4h8H4RcjR4XX8H48KqA:m!>)H%>8to8tq8tc8tT8t8J8t",
    "r8tx8tQ8t8U8tk8tg8th8tb8tW8tX8t8R8t8A8tR8td8tU8t8H8t8K8t08ty8t8dA*8hq8O4)h48A8OA!>;Fj8D/Ng8$%*?~:c4x9X9[!<r,<A",
    ":m;d)H%>8to8tq8tc8tT8t8J8tr8tx8tQ8t8U8tk8tg8th8tb8tW8tX8t8R8t8A8tR8td8tU8t8H8t8K8t08ty8t8dA[hP:m;d)H>GA:m;d$kH",
    "8LH8jH!2H8KqA+uc8UL%*=2jW%E48J|d4(d4>1jr4*%4R%n49N8D*448HR49)c48n_TR|>b49Fk49]k4$_k4)|;?P8W4R%Q;?P8W4;l19F;?P",
    "8Q4.4&v4|L;l&v4+Sc4xqjc8AjQ1(E49<,9~)4888H4Uxc4~NA;$$/<Pk8fA8rr/a90^M8f$y7o7q7c7T78J7r7x7Q78U7k7g7h7b7W7X78R7",
    "8A7R7d7U78H78K707y78dA+u[m9l8NL%*>_>h!u!uH8j4q8U$/;C!<8=|H1s)Ao3po+y6f;F4>_>h8v4q8U$/;C!<8=|H1nTwq3p2uS3w2Tf3p",
    "2a23n(>n3ss!y3v(eu3sp223p)Ac68Jwq6uwc3spo!M3pauc3vcna6pu8J3w8;23+I8J!M6nf23s8J(~6a2p6fpp3nT(7723).nS3p8vs3nTac",
    "3pf8Jf3s!?v3wc(G3sapf3v2wu6SvS3p$9w3sT)e6(G27w3vpff3pava6pos32(~cA.B8=q8U$/;C!<8=|H1./aq)FnT!M2.Pwq)Fpow2)F(Go",
    "2)Fsapf)Fvscv)Fpa.q)Fsp+yA!>|HP!c8H>j9KB;F(^dA?q*,%l%kB!SBR)]B)>B&69q)>Bq8$A,g=28WA(=r=YA%$9X)I%LAb?a99,~RA<r",
    "+fT9Uh[XReAq.bR/d!J(&c9.kA<r%G9U$G>]8.RA,r<hA;/c<o(&b;9A=.P=1A<fq=:A(,k!N?/A<nP~yo!J$b,|T1%](LSVS9H(L9>KR%J18)",
    "/=g%JA~yo!Z(mQ8:?8A>1P+E8fA8M08,~BP+E8fA?|R!8%hP+E8fA8M08,&*oo<l+E8fA]2P+E8fA8Mb8,&*oo<l+E8fA*G!8%hP+E8fA8Mb8,",
    "~BP+E8fA~BP+EA>1,4;q9(A?|R!8%h,4;q9(A*G!8%h,4;q9(A]2,4;q9(A&O+79(Ar&18.,~AR*p*a/^A.8h|e!aA8(c,|:]A9D<rj8D,W=+",
    "%Sz;^82c=+%SN8D,rA?^U%^,rtR+at92b8.t&$8l!1A(=rA:Y%i&1)9A9l!8c+gA8T%zA+L/UWA_sb9TAR[Ng8.AT$$>|$|]/A8v)G%3<l]/A",
    "+Z!v]/A8;)X9.Ax9M&v(^9%A9~.5Aq+l!^%i9<,99*A8&8nA9w~a.^A<r8J&%Ao9<,99*A&3$mh8$$Ee(LTA+loA9]:0=+$$A>Z%F:0A8J+>$|",
    ":0A:0P&G9T9E(_!z:YA!0888&9*Ad9*)WAS&P8yr,/A*bX9;A9H>LA=.9H>LA%K,P,/A9S$RA,M(vAX,/$Y/ZA(O$Y/ZA>|$|$Y/ZAX&3868>A",
    "q+l^%RA/=8Ko8y!^A(a+L,PAR<zT$mX&>9iA9H(&!so8WA!O%a%/!N);A(LT%v~I8y9R+FAq9o+H(LT8I9f!^8V(LTA:%9c8,<hg8I8L)od!KA",
    ")I!cA8J%9<]8J^%RA8&S!F~D9V.wX9M)WAc9qWA(T8xA&O*.A8J^%c;[9dhX8I[_q$t!Z+$9g$48v?wAR[7/h.t9c8IY>fQ$AA/h.t9cAc!!&o",
    "b9TA%z*%%y8Ix(B%E$C&H8I!PyAg%E.5!%A.^d+oAx8Wy&v9MA._8;!RA:?*E)8A!O=K(=(TAq9o*MA(yk8Vk!q9/A9E%.9k99W&w&c9SA_%T",
    "%i9M:s8Vq9NA8K;b;eA%z%p%uP;eAd,|(2c?KA!H8y,xrAq,5*M,)8y,xrRA8e>V%i9M:sA(yk8V[i&S!Z+D$CA%N+]g!ZX!%[f:dkAX!%q_~A",
    "9doo8~A8K8EX.E[n&CA.68?c$U:W!RA8s%p1W1.o+bA8>+fdh[D]/A8J:U)r+fd;$8IQ8r<PkR4/X+~]kA<s8~A&t<ZX!%9%A)R9/d<K+FAd(v",
    "8e*f]/A[hP<uRAX;b8v:d!+A8U_K/c:7gRA(A&p;*S(mA:YP$u9HA+EP!bT8K8,;UT$RyA,O*pg+|d&=gA*b%3(S/dA~z&n<c!s*C8^Ao!!,8",
    "=K8J&%RA$K,c=t9H(:A8r&^c$O9doo8~A;D]|)6:j8D8s%pRAR9~8:$X~k,|x8WAg%0!G9s9t%:A]u$4[i=7RA!H9c8=9>=P*h;D]|$+Re.n=P",
    "*h;D]|$+RA.i!v]Zh9;A!ch,$Q!s,uT&NA(A~JT$4)?8nA8J8y+fP[YA8&$Z$O%z9>!aA+&8,*DT8V+&A~k,|x8W8I;r%y:W(mSAq,/8cA&0$W",
    "8WA9Jd!]!88L:]9EA&_,yA^u]Td&CA!K[zAq;BX$O:jA9%&X8,9J&NA8H*H$X8a9HA]o^vA;fd$i8>,/Ao!o9t~=A8a>Pc%yA<hg8.A8J&uX]c",
    "8,q~=A;D]|$+9,g!K/Z,xR(2$+RA8j0|x8WA$oQ)VA;D]|)6:jAd<0>4A!bW,5A;D)v?>*?A9C&/=b*od+p!IA!f!q8_8Eq,8d8V+FAR%R8VR",
    "^,/LdAo9>=T+F8V*pXA&=,8(O<uAR+a:j8yA9C&/8yAR9f8J8y8I[Ed8_9H(:Ad,|:,A)?*I8Eq8.AS9H(L9[;]+FA9Cro!N;]+FA+$!D(mA8K",
    "$_g&S!aA?h8J8yA8Eq8.,4&$,gq9Se(AAq(Lk.w<D8V+FA<fg,B+FA!<!G%*x(B)69s,u8V+FA/hx(B)69s,u8VX.,Ad!2%F!f!q8_8L.q9S8V",
    "+FAR+aP/d.Eh[XAq9c=mA!H%..X9X)I%L8IU>]8.]l|h,6A)]*I$G>]8.RAq.bR/dTA%:T<z!8)]*I$G>]8.Aq*GR(2$G>]8.A.n8ydLP!]g!P",
    "Ab!+90X+~A*L8:9XA)]*I$G>]8.L/(r+o8xAW(W/h$G>]8.A8U_K/c|0>!!<$AA$b,|T9[|0>!!<$AA].X~,A,MkAS9T9*/V>Y]k$i8>,/A9l",
    ">YA9<|39l>YA)R[WQ=r]:*?A,O*pgA8v&td,[]:*?A,w&$yAQ9i8N/M.o+bA8U_K/cq9>:sA$b,|T9[q9>:sA9D&]b&VA8(&]b&VA8M8H8,9D",
    "<ue8(<uA8&%G9EA8(8&%G9EA8G=MA)1h[]!s8Eq,8d8V&6d:s%z%p8I*q8V9GA9c$W+;AT$?$.P[,!<d8d8L%o<G(<X,L$q8Cf8Cn8Cp8CsA,F",
    "Ah~JTA>:A=.P$G(WS9<Aq*qA!K,PA9S!%+oA8Eo<BAq83A<p&WA?P%z8:9SA8KY9SAR8l!o86!RA)?8nA+%A!;83A!5(^A$R)6A8&%n!aA$u%p",
    "8xAc+gAX%PA%N9JAT|M&VA(B(q9.A%W9g8<~0A$GrA&VAx8Wy+^Ag!c!N+^:sA+&Ad,|(2+&Ao&1+&A,D:sA,y8>8,$u%pAo!2!N$u%pA<v>v",
    ",w8,o!2!N$u%pA.6cA&]$o82A!uS8GA!O(T9SAc[A$(^&:W|gAo%.%/,*:W|gA:7(NbAh!!*I9(A%z:Q9(Ad%P$O9(A8Eoo;G9(A^G9(A<pr!s",
    "9(A%W)a8.$~Y9SA)?*I9(A$R)6P9(A!1$=9(A9L$=9(A8J8&$=9(A(aR&M9(A$ng8JP9(A!H%?9(A]f;H9(8IQ$=!/8n8IS:QX)x&NA$uXh9|k",
    "A+0868I9JA!/8nA.IA_U9yA9D9k%2)!.7%VL96%2)!.7%VL8h%2)!.7%VL8S%2)!.7%VA[a*/%B)hA8M8H8,%B)hAW$/%B)hA+O8_9N8Oe$T8O",
    "Aq;B[f&c)pA%j&c)pAq>+A>[8_,yA=8;e9;A$h%p+,Ad)0*odA!i?8Ac(ERA%R$RWA$&%R!qA>[R=+>?AX9f8nA&co!$AX!!8>Ah?8/WTA*g9S",
    "((/WTAx=L1]H~Dx!:A>[8_/;(:e/L&NA;]X)x&NAo9.!8!zR!o)]8|9E8F8_!zR!o)]8|9E8IWyAr9ggA$QA>[A9x(,yA$Q8V>[P<R*h&cRA9F",
    "h$|<R*h&cR8F$nh$|<R*h&cRA*D/h*e!<;UA>[8D$G&/!N&3RA;/c!Z9a!oA]C;qo>L%*Y9gA8c+7$o!j9L$iWj,D,MA%Ec$O$QL>[A8e>VA)R",
    "|h~d<Pk8yAX)xq[GA8U_K/cW>|jr|(bAr].dAo!2!N9q!GA^S!a(E%o90S9t8xAS9t$|$RR!aA!DXARk</A82&X(S.n$/:zA$o~=$QAc9e;UA",
    ".5R,uAb8$$4*D*cA9($i*j9KAY;:9TA)Ko$O*DTA:A!)TA9L$ZAk,$8%A9<|3:>A!)Ar!W9s$<Ak,$Ao!!,8dAq!!+D!Z&bA9V.q8.Ao(>*a&b",
    "8I?O$|&bA9F&bRA%W+~g8,&bAr^N8,&bA~z&n9GAo!S!J&bA>|$|&bAy!G9P&bAX9fX%F&bA~z&n9doo8~A8r<f8H8,&bRA&bP8v:d!+A_^R;T",
    "!Z!j/O,EAT]q%/!6!3o%aoA9e,P8fA%N)kARg8g=m8fAq%E9t,C8fA%W:c=b9V838fAc,|:]8I!I8fA9L9S$mX9oA_08=o$k(^RA8::yy8fAR",
    "(Y<]<s8~Ad)]&o!8<s8~A9D8J&%A(f;?R8fA$R,B?4rA.T%9q!N~g?6TA8*:7.R8OA.tc;Gq+oA,Mk)/!Z_z8OD:7.R8OD$b8&8ODX+4)hAh8W",
    ".U[OrRA]S&n!g%/[///_z8OA8n83A:z8<.H%C!aA;//<8;8nA&^Q/PqA~1XX!Nc|2A!%d(2/PqAc8HcA!<%F=,%:A%j!<%F=,%:A[K8D)<9R,w",
    "8,9NA8;,Rc9JAd&31W(W:W,Rc9JAq|o%V8I$L&n!gd%9ct!nd%9cAo%?]SdAq.5:jA%C88;SA,t%C88;SA8L9%q.5A/=?a9C]kA*Z9C]kA^H)O",
    "d!2RA.j,PA$+^H48D8v%z,F$dq/NA%$^HA%j^HA>|$|^HAo!S!J^HA9A](^HA^HRA8l>P)19KAR?P$ZA*(WA=s9!<t%x$$A8L,PA9x0$i8>,/A",
    "8j>Y,c!J&VT9&AX&P<z!B.q8r^69<%S>9$t8yAq)_(_9H8a$W8WA)a_E(VyA82_E(VyAX%.8N9KAT18c!o8fA82(K8,]68/A]6X!Z!n;YA%$8c",
    "!o)88D&%8=<uM*8<uA$g$i!o)88D*8<uJ&%8=<uA;7)88F90/&A>1R8L9%A$?$&%F$W8WV8D9_P(&8^A!bo8A!+,48vA$?$&%F$W9!W(WA!/,4",
    "$&%F$W8WRA&VT&/*6)KRA8;(mSL8D8J:cA!bc*n:W(mSA^X[!A8Ec]XA8H*H(B9>%G9EA.i!v%T!iq&$A[E8T,.|D8rW8I8E,s,)!cRA|j!]*/",
    "9_RA<X=y8V9j$g<e*vR/08D!>9!)=z*+8V!g$g<e*vRA.!*+8V!g$g<e*vRA9Po84.+8fA9ho84.+8fA>9S!R&:.v>p;N)Mee8D9!R^q=1K9)R",
    "^q=1RA<D!ayA<T)X(L&v!SrA+5h!$b&Sy8,;eA)ih!$b&Sy8,;eA;j8D82$/&]A%$;j8D)6A)6A;jA%j;jA=Mg8F8D.v>p;N)M8IW*%<|A,5k",
    "8fA8Ec]X%i9T&TA)!8D9j;YA8x%^9j;YA;q*48D.|;YA$I;q9O;YA(q8D!g;YA*99!,?P]x8fA)6/dP!fA82X9T/T%l)H9::>RI87:>RH$D=0R",
    "H~XRH)H:>RA=)AT]q%/!6&$8>A8K%98>A(a(mAb9T8V.zdAx(B9lA9L!F%EA$K?PR/4TA^XR/4TAq!^!F90+FA%U=G*L&:%X![A8U_K/c*,%l",
    "?c=/8yA%oc>0!W,.hA8(+uo9T&TA.A%i9T&TA)S(O*KLog9y!rL9A](&YLo!S!J&YA879A](&YLo!S!J&YA;i(O9mA=6(O9mA;i87(O9mA=687",
    "(O9mA<m,Z+vA%Z8S,Z+vA!>_,X9*;|8I~A&v9*9H!Z%s1*K8oVA]98h^?;:g!Z9)&[48S^?;:g!Z9)&[A*,(y8%R%v;T!aA9D??*yA8*??*yA",
    ">p((*yA9*8fA!19a$m8/.QAk8p8eAh%n,8AR%%!$+g9yA$>+;.X&Io>x9;A<hg$m:,r%y%JA?^<G_[9!=~t9F=~V$V=~t9]=~V$d=~t%U=~V%Q",
    "=~t$_=~t&I=~t[o=~t<aP=~t:eP=~t8W>At8Q>AV8k>At8Y>AV8m>At80>AV8u>At81>At8z>At!f>At<a>At:e>AA8S>9$t8yK8D9!R^q=1B",
    "9)R^q=1RAo<//&4+p^q=1RA!)8,=MgA^HAq!P9SA$Q>Y[L%v;jA$c?r</8V;+o8WRA*99L8E,gA<RTAh9[!z$G!7.++i;Gg%0:<d8.ARg$b)t",
    "9A/XyAc+~P<r;e9;AR9L%:LP9VoA%~.),uAh9[c9eq8.A8h.7=s9!<t%x$$A=s9!<tT8m&:[KA8S.7=s9!<t%x$$A9Dd!!8>(s=s8WA8(d!!8>",
    "(s=s8WA=s9!!s(q$mh(T!WAq%_!5$Z,4$&%F$W8WA)!$m]68/AR,G.E]68/A]6X!Z92b8.A&Gy8,]68/A&]9UR,G.E]68/A,5+H8L9%q.5RA8(",
    "%C88;SA]s&]?$t+F;?P&]t8J[XP&]t8L[]o9C88tq8Ey8~8I[58K9d*a&cA9ZW$/%B)hA*8%B%^<8/X]c$(8IT$$>K*8%B%^<8/X]c$(j+O8_",
    "9N8OF$T8Oj!bq&$!N&cj.799%c;vP^mc$(8IS~p%B%^&t!8.(:C8V(_<8A9D96%28h.7%VAR*H]J9D8h..C8S..j8(8h..C8S..A8(8h%2)!.7",
    "%VL8S%2)!.7%VAR*H]J9D9k..C96..j8(9k..C96..A8(9k%2)!.7%VL96%2)!.7%VL&bA.nk(q.H%C!aA)6:j8Vh~JTA9)b8|<P+H(K%C[tA",
    "=S*F8IW[zP)vq%a^rA8(x+o~0P~1XX!Nc|2A9Dx+o~0P~1XX!Nc|2AR[=~0P~1XX!Nc|2Ad$Y!J(A%oc9KA!w(O)6:jA9!o9T&T,4U8nA9Fo9T",
    "&T,4U8n8I$Vo9T&T,4U8n8I~I+FA*1:z8<.H%C!aAx|oc|2AR|>bAX)x&MQ)RA9x0PQ)RA!%d(2/P?ZQ)RAc(BU$>&n?ldJ8VX$k_rDX$k_rA",
    "]Zh!ZX$k_rt<kRt9[0A8(=,%:A=,%:A%j=,%:Aq|o*T;a8yR9R!<%F)8A.iT:W++8|A!WX<Z$+zP[KKcA$+8FP[KecA!WX<Zc(BU,[L[KzRAc",
    "(BU,[A[K8FRA8M:%o9>=TA%W9g90$+&v!ce8;,Rc%?X!cA.nk&_:Y*qA&^Q$K$E8IS~+Q$EA/N;BA<X848V8h^?;:*vR8I9e>pg(S0A82.tS*I",
    "(0d[Z$E8fA8v.tS*I(0d[Z$E8fA(K[n,CA*1)6A8&g.j19k>1R8L9%A[K8D!>?ldAR9n<G]SdAc!$,P$6!q9/A.5RA>9S,=_q!zR!o)]8|9EA",
    "9)8E.)8wt%mt8^t84A8hR(Y<]=a,.A8SR(Y<]=a,.A9FR(Y<]=ao+w8I$VR(Y<]=ao+wA8hd)]&o!8=a,.A8Sd)]&o!8=a,.A8h9q$O=a,.A8S",
    "9q$O=a,.Ah9o%*=a,.A92b8,h9o%*=a,.DA<s!8)88D<sde&q0e)88D&q0jg%*&q0j08D)&&q0A!3;g8%A<s!8)88D)&;gA<Pg%*>ZAh+4!8%k",
    "$.Ad*%y$Xd*q8yA*Ld9y$m9to8y(<8I!o)]8|9E$m8U_KA$?y8$A>k=/)9K8D/j+0A&gd&3>m%~yA/j&g%j.Il8V/j+07q*1R9V837d;9%,1%$",
    "+0JY9<B_~RA[Ok)9A/j&g/j+0A9(+|$NU(_+hQ)G<l(=(TA8rg%y>f9(A/j&g&b*z.E+0J<r;e9;868Ak)9A~K9(A93[n,C~U9(AU8l!0>K9(A",
    "&gq*1R9V83A&]R$d9(A)R%k>K9(8F+4&29(Ak,$)9A_[8?^N8,S$6,$Ak,$8,&g/j+0J%$+0A&g!F.,1W&w_U9yZ8V[O,==86d;9%,1%$+0A/P",
    "$Y=G9(A<P9d8=9(A9q!^P9(AX)a)9Aq!^)9A]CT$$)9A&g9<*%$m%o9X$WA/P$Y=Go&w8rg%y>f9(A8J>+8,&g%j.IA9qU*c8=9(A8J&3%k$4",
    "9(A9V=t9(AR9S(^!N9(A!K(O9(A>k=Uq)9A9<%S)Yq!^)9A&g%j.IA!X888=9(A&g%j.I8Vq*1R9V839RR.t9c8,!z8J&3A9>&T*c8=9(A&GU",
    "888=9(AR9S(^)9A8::y!N9(A_[99W&w.IjP~q]|;$kA>k=/8,^G&g/j+0A^G&gd&3>m%~yA/j^G&g%j.IN&b*z.E+0A^G&g8K!^9s(,TAk,$8,",
    "^G&g%$+0AX!!*a^G9(Aq!^8,^G9(A9V=t^G9(AR92)Y8J>+)9j/j9(A9NR*H1969(A&g8&$Z8,+0z*9!;(T&|9;_rz*%&|9;_rA:zP<h8,?+X",
    "%,AR8g1!/1T!b$4$R)6A~z1!/1T!b$4$R)6A>9$t1!/1T!b$4$R)6A;TX!N:zP8E!]8,9!&cA:zP8E!]8,%N)t&c8_!zq<To8A!+e8J>+8.e/(",
    "X)a)9V=,&2&cRA*t_tA_P_tA|F_tA.%_tA9Z*t_te_P_te|F_te.%_tA*t%28H;b:0A_P%28H;b:0A|F%28H;b:0A.%%28H;b:0A8**t%28H;b",
    ":0L_P%28H;b:0L|F%28H;b:0L.%%28H;b:0A*t_uA_P_uA|F_uA.%_uA8**t_uL_P_uL|F_uL.%_u8I%E9P$%!od(5$zlP82:p(5AR[4P$%!od",
    "(5$ziP82:p(5A9j8&[zA!g8&[zA9O8&[zA!n8&[zA&q(o8|$zA8*&q(o8|$zA(o/%d$zA8*(o/%d$zL^L!P$zA+$[(^L!P$z8I?8)0|BP8*8q",
    "9Z$sP&h$zG$sP&h$zH9P9++dP&h$zA8**F8&o9q$zA*s*F8&o9q$zA8**s*F8&o9q$zA(48*R[49.t?NA;g$O:jA]*;g$O:j8IW[zA8+9t/4!a",
    "A:%S!v9<(K9M8mA8E!o<U(AAx=L1>98=d,rF8D;XP!/8nAd,rA9H)lA!38E!oA!F!+Ad+%8FP(AAo9.A8~(K8,o9.A)l$Z,Bo9.Ao9.^lA&^Qo",
    "9.A9c$G.o$AA=)P&i,/A*D/h(AA8~(K8,*D/h(AA8T)>A8~(K8,8T)>A8)9n$?$&9SA8~(K8,8)9n$?$&9SA8r.t!+909ax$k9SA+hQ(4%/.,A",
    "9J((%a/Vg9A!^A(Vq&$A$R+;!o9,9|8T!z8E!o?/AR9.&],CP8E!o?/Ah[X:W,.?/A!V9d90d+%?/A]pA^N%N83A%W[N%N83A$7(V(W!692A!|",
    "(V(W!692A)R|h,68OA*D/h(A8_8r<f8H8,92A*Z<uP!s;7A!19AA*9&C!^8OAR$?*M8fA*9R$?*M8fAX&w,c&M!z988_+D.Q8fA/S(Q,c!a8fA",
    "X9M!2%F=.8fAb8~|:9M!2%F=.8fA$&,gq9SA*9$&,gq+wA$&,gq9t!FAh[XP$&,gq9t!FA8/.n%/,*A*98/.n%o?8A8>>]%9*y8.A$>R8fA$n",
    "$>R8fA(E)l9*A8e>V8fA9nQ:]A=.=+%GA88*q8yAo*g8Fd&PA8L,9[E!8]ugA.^d9*RAo!$8a<oq8G!DA8h!Sr8a9KA9m8D?q^>RA%T9w<BT)h",
    "A!>82&X(SR)5$AA%N.)8fAr9ggR8fAq!!8>8V%_XARg8g[f%.(Kh(T!+8I>~[fo!$RA=Mg>~,)$Z9,cA+D.Q$m<P]pA(B8T&W>QAR>~[f)l$Z",
    ",B8I9~8LA8L!;8ZAx82c!ed!W/Z8I9TA!G%0^rAX]cr,tRg*HA[YA(_$GWyA(a(m8V8K%98>A*.!GcAWQ$4c<0A$?&$?/A8E!o<Ud~IAh9M$3",
    "%N83A;i$K,c=tS9g:tVS9g:tV,S9g:tA,S9g:tA^c8?_*>v%2S9g:tAS9g~L8v&t_rj_|8H8.A8j>Y,cTA8~(K8,=)P&i,/Ac%y8n$49<(K9M",
    "8mA8L,9&i$O]pA,O9o!aA$?&$?>9o!aA.v!:AR.jA&Gy=b8);UARk$C:jA8)*E(Lk9B8KA9L%p9k%/.,A8&g]k?r$CA8<&=h(2*,%l$%[][G=r",
    "NS9gN=)N<nN=.NS$%S(yd!]ZP8rr%J8C$qi!bd!V8C$qN8H,/&4m$q3fNR%a8J9fN(Ng%n!%+lR+ig8J9fN8(R%a8J9fN(m.Ty*rg!D$C!Y$q",
    "(lfN)G9&)KN&?dN!q,aN!b%o%Em$qN*|k;Ld6$qN?hcNR!o$$N9g!s*?3$qN?P.^$mQ$1N8r$o!S>mQ$1N/4X$O*?NQ$11/4X$O*?N%1g!D$C",
    "$m/49%N?P.^$m/49%8t$qI!%X$O_vQ$CN&?=K/4X$O_vQ$CI&Pg!D.~*e;L=K/49%N$$_&+fNd!z*?N9S/Y*?N_v!N*?N%1g!D$C$m_vyI8<=K",
    "_vyI&Pg!D.~*e;L=K_vyN8H,/&4$m_vyN8r$o!S>m_vy.O$qmm$q3f3nN8<^$Ql$qN/E8;!79EN&?19c$RQ%.N9JR8x$kN8r8<&4m$qN8)~e%P",
    ",[N~a!0)t*?N)V)Vl$qN$%Q<G9t9HNo+;0i$qlfN8<9XNW!oNR9L/UN=iq_rNr9XN8M0NX*q%:N)v0Nd9T(<N/d&wh9A9~9XN,O(^!a$m%~9aN",
    "8;%3$A9.N%o,lN/^(O%o,lN9<.n$<N$I$YN9f,/N)?*Ic&DN!I9;N!O!8!I9;N;/%pNX*q8v(O;/%pNS/Gr9cN/=9~!v_N]:,F9X+Q$qI&Pg!D",
    "!+N;P)GX98$CN/P+jgOR%E9a3$qNX9f&SyG,a9x,6Nq9C)G,.3$q6f6n6pNS9S)k$kNo*g$mh^&389X)5RN8r&$dNx)5Nb;9Nc$U1b;9N$R8?N",
    "%wc+%i+4$AA8(+5Q$I,O<T8_8S9mL;iQ$I,O<T8_8S9mL)iQ$I,O<T8_8S9mL=6Q$I,O<T8_8S9mLR92%,$f!rA%f)&+vA)&+vA8*+vA(48*+v",
    "A93,a9H)Y8*+vA+vP,]8.:p$f!rA,t)Vr8|A8(=iy(5LR92%,]3A!3.AA%f.AA)&.AA8*.AA(48*.AA93,a9H)Y8*.AA.AP,]8,8($$y]33$S",
    "(5A+u)Vr8|A8(=i!N&YL(487&YL$S+m&YA9D_^,]8,8((487&Y6%f&YA_^)Vr8|A8(=i!N<jL(487<jL$S+m<jA9D<jP,]8.:p+m<jA8?!z[bA",
    "!3[bA%f[bA)&[bA(4)&[b9R8*[bA93,a9H)Y8*[bA8?82;L>.A92;L>.A$S;L>.A)&&?>.A$a;L>.A(4$a;L>.A93,a9H)Y$a;L>.A!3,k.CA",
    "%f,k.CA)&,k.CA8*,k.CA(48*,k.CA93,a9H)Y8*,k.CA92<(.CA$S<(.CA)&80.CA$a<(.CA(4$a<(.CA93,a9H)Y$a<(.CA!381.CA%f81.C",
    "A)&81.CA8*81.CA(48*81.CA!39).DA%f9).DA9).DA%f9)=G_MA!39].DA%f9].DA9].DA%f_L_MA]*!3_L_MA!3)|.DA8*)|.DA%f%U.DA8*",
    "%U.DA%U=G_MA%f$_.DA8*$_.DA(48*$_.DA8*$_=G_MA!3:eP.DA8*:eP.DE_MA!>9mA:m!>9mA!>.YA:m!>.YA)S9A](*KLy!G&1!rL(nb!rL",
    "X9f/Z!rLo>+!rL(O.YLog9y(5L9A](.YLy!G&1(5L(nb(5LX9f/Z(5Lo>+(5A8*&(A=x87)(A>&87)(A;Z87)(A<d87)(A=x%f)(A>&%f)(A;Z",
    "%f)(A<d%f)(A=x)S)(A>&)S)(A;Z)S)(A<d)S)(A=x87)%A>&87)%A;Z87)%A<d87)%A=x)%A>&)%A;Z)%A<d)%A8*=x)%L>&)%L;Z)%L<d)%L",
    "=x)S)%L>&)S)%L;Z)S)%L<d)S)%A9j$e!xb9G;4A!g$e!xb9G;4A9O$e!xb9G;4A!n$e!xb9G;4A9j$e!x$S;4A!g$e!x$S;4A9O$e!x$S;4A",
    "!n$e!x$S;4A9j$e!x.zc;4A!g$e!x.zc;4A9O$e!x.zc;4A!n$e!x.zc;4A9j$e!x_wA!g$e!x_wA9O$e!x_wA!n$e!x_wA9j$e!x(4_wA!g$e",
    "!x(4_wA9O$e!x(4_wA!n$e!x(4_wA9j;v1;7P9GA!g;v1;7P9GA9O;v1;7P9GA!n;v1;7P9GA.$~2=wA/J~2=wA=y~2=wA*+~2=wA.$.H_xA/J",
    ".H_xA=y.H_xA*+.H_xA9j$a.H_xA!g$a.H_xA9O$a.H_xA!n$a.H_xA9j8*9GA!g8*9GA9O8*9GA!n8*9GA9j*s9GA!g*s9GA9O*s9GA!n*s9G",
    "A*t*s9GL/e*s9GA.%*s9GL*u*s9GA.|*s9GA9k96*s9GA=pT/f9j!3$;V!g!3$;V9O!3$;V!n!3$;V*t!3$;J/e!3$;V.%!3$;J*u!3$;V9j$;",
    "V!g$;V9O$;V!n$;V*t$;J/e$;V.%$;J*u$;V9j%f$;V!g%f$;V9O%f$;V!n%f$;V*t%f$;J/e%f$;V.%%f$;J*u%f$;V9j8*$;V!g8*$;V9O8*",
    "$;V!n8*$;V*t8*$;J/e8*$;V.%8*$;J*u8*$;V9j(48*$;V!g(48*$;V9O(48*$;V!n(48*$;V*t(48*$;J/e(48*$;V.%(48*$;J*u(48*$;A",
    "9j)(A!g)(A9O)(A!n)(A9j&FP99!z)(A!g&FP99!z)(A9O&FP99!z)(A!n&FP99!z)(A=x]9%uA>&]9%uA;Z]9%uA<d]9%uA8*9G;4P=p)t8WG",
    "^<RG9!%sl^=A9j=3*z&2&FA9O=3=V&2&FA9j(q=V&2&FA9O(q=V&2&FA9j8^*z&2&FA9O84*z&2&FA9j84*z&2&FA9O8^*z&2&FA9j)!1+j*/",
    ",Z&FA9O)!1+j*/,Z&FA9j<v>v+j*/,Z&FA9O<v>v+j*/,Z&FA&F;4P=p)t8WG^<RA.9%2!g>>P]+_)dC9O>>;h8H8,|z_)dA!>_,&XT!Z9]&[Z",
    "=FMA.Z!r8D9]&[N9)&[I^o&[N![FA$T8K|o,w8.%YF]9(%F(%%+F]9(%%+A;S?Y<8A9D&bAo>+P&bA;S8>8,&cA.dX9%1h~O9(A$R,B1h~O9(A",
    "&g.8h|e!aAb8y%*9(A8?82k)9A&g&0]Y<E9KA8&%N!89(A!X/t)9A?w$m*C/&RAq?!>P&cA*8)!$m&cA;>,w8,[adA:[,w8,[adA&c9B!R8F8D",
    "*T!P%c<8P[hA9b9<|3!9!e%B)hA&gq*q%N!N,yA?^.aP9(Ab8)8n/V9(A8&$Z8,!s*C[JP^8r_$Ac8&%E)9A%,)9A_[+ZhAR$h.])9A&g9!=8o",
    "^NP8EQ|CA>k=/)9+pd%?+0B9!!~8V8W+m=8A&g;v%v/N8,%$.5RA8n9d<l&g~XR%v/N8,.I8I(,8,&g/j+08V.7q/N8,.IA&g%jh~O$Nh988.A",
    ">Tq+H&g93X9<*h&0A;Prb&VP>[A)I9>>v8J[N8.A+Zh8_9k9n9K.8AR!G!<TAX)x$AAh9[!z9~>^!18IW.8)r+fd;$A889CrA:zP!18,(Ad[YA",
    "(x/tg8.A9/b;UA$?%:bP=58?>LA8K*J]kR8IS&M*DWA&c+FA~E8,;$kA!wg*/8J&%Ac9C|<c<0R,uRAq,5,=;e9;A9~)kg$O;eAR!O8~A!;90b",
    "8|A9d|wA?|R!8>g/|9H(:A8n_T>g/|9H(:A|4>g/|9H(:A)88,~y9aA/E=z9Jd8_;C&XA)<=b$<A8G;+T9s,u8V+FAR[=+FA&Gy8,/PqA?P,$",
    "&VAS$N8;!1AqUqU=0A8e)RAX9M)WA(A^/Ao!$9y+]!J)I!cA(nb;L!cAR.c9P]f$m(=(T8I9~(W8=:Z)I!cAT/tA;e$m(,kAX(>$D&NA%R8K&S",
    "9C98A]fq$t9;Ac9X+D8.A(yd9|!J%z*%%yA|c*n&w)8Aq>~R,uRA<hg+p!O8~Aq9N8D/=8K8IW)R9TAo*|%z9tA~;8I8rd$EgAqU=K9H83AR!P",
    "!w8>A.vb8=(=(TA:0!N(nbA$Q!;8IW8~:W!RAo!$!GA/j&g/j+08V9)&bRA8P.a)9A/j&gd&3A&g&t<Z*~&t<Z,yz9|%Q+08V?o.IA/N8+/V9(",
    "A8J8r.])9A|q8sA/P$o~p9(A_[<R*h)!Pd&3R9R/(/ZS*h+0A8j9dA8G^R%z83A!;/t+wA9w,=/LdA:Z/WTAq8EoA>WP9(AR:dX/aA,D)6A;Cq",
    "_~P9(AT!$9SAc.,A<DA88+~A*qgA(=0P9(Ao9T!a&GyA8v8yA=j~SAg&>+oA8A9w!/;U%nA889dhX8I$%(dA&*8E(W!J9(A$Eo*l9(Ax$(r$M",
    "+gAR8)8&>zA>v8r0Aq9d[zA>o&49oA%L8cAX(>%z%pA9wX!O!O,G9.A&t^/A8Eq%z8~Ag=7R!aAh%n$%Q9n8IQ?P!HA)1,PA+$9eAh9c$?8?A",
    "!1!1A;f8?A9M!a8I+n$o%KARk9|kA&GS&^!;AW.)!aAo(>$$8IQ~ZA8n8<A$oQ^.c+gA%To8.>rTAT$?$..HX8~>0(OY9gF|)PY9gF_/cF9DY",
    "9gAo8WA);A;]A;R8?A_Nx]=9R!b$Z(;8IS9/<Z9a!FA(>&:[V(_S(dA$?&$&>8=[Y$F9g8IS$D90[Y$F9g8ITq%B(2]tt);A&=/c9Vc9K8I9N",
    "8;!RA&?d=Vk8yA!H$$S<o)8A&4<zA8~/aA9xg%]!GA8K%]|wAo9T!aAh.~c?KA/hqU!HA=ao%Fd(>A)l$ZAR%K*h:zAk$h!G8,:zA8v%]P:zA",
    "&g$R(B9SA!c%adA8>>]A%Ec$O!c%adAo&3&2:zA]C;q&0R(A8Je82|D9c!N8&9*eq9t)k8.e!zg9M]T/~A8c9KA9xQ!^A89h9L8rA(m:zA!G8J",
    "Ar8x%yA;E)k%yAo,rA9A](&bAo!o=Q/dAR(A8JA~y9aRA%z83A$I%pRA(Or_F]68/A=)q~I8yA$.r8j:Q%C:y%F[LAd9;!89~!HA8/%oP+KAc",
    ">i8q8+9t0A(K8L,9AS8e.^A=)P93=i$o!]+lA;Rg)8A;/%pAh!$b8|A!Sr8a9K8IW]bo9M:sAR!O%E$m8?8r!cA+F$my9JbA8j9/<Z;SA,ncy",
    "%i&3Ao8&9*8I9>=TA8&$Z$m8L9%A)K$m$I$YA%W,(TA<t%xXdA8l8d%?S!0:]8I$b(Vg?g^6*MD><D;nD;oD:qD=*A>;:6.3^IA>=:6.3^IA^J",
    ":6.3^IA>;*M*SV><*SV;n*SV;o*SV:q*SV=**SA>=*M*SV><*SV;n*SV;o*SV:q*SV=**SA^J*M*SD><*SD;n*SD;o*SD:q*SD=**SA>;:6|Ld",
    ")z^IA>=:6|Ld)z^IA^J:6|Ld)z^IA>;9Z*MB><B;nB;oB:qB=*A>=9Z*MB><B;nB;oB:qB=*A^J9Z*ME><E;nE;oE:qE=*A>;:69F(f;l^IA>=",
    ":69F(f;l^IA^J:69F(f;l^IA>;,=(]9F(fR&8P8v(nRV|T(]9F(fR&8P8v(nRV;nP(]9F(fR&8P8v(nRV;oP(]9F(fR&8P8v(nRV:69F(fR&8P",
    "8v(nRV=*P(]9F(fR&8P8v(nRA>=,=(]9F(fR&8P8v(nRV|T(]9F(fR&8P8v(nRV;nP(]9F(fR&8P8v(nRV;oP(]9F(fR&8P8v(nRV:69F(fR&8",
    "P8v(nRV=*P(]9F(fR&8P8v(nRA^J,=(]9F(fR&8P8v(nRD|T(]9F(fR&8P8v(nRD;nP(]9F(fR&8P8v(nRD;oP(]9F(fR&8P8v(nRD:69F(fR",
    "&8P8v(nRD=*P(]9F(fR&8P8v(nRA>;:69)(f?0_G8v(nRA>=:69)(f?0_G8v(nRA^J:69)(f?0_G8v(nRA>;|K>~9%A>=|K>~9%A^J|K>~9%A",
    ">;|K>~9%*SA>=|K>~9%*SA^J|K>~9%*SA>;:q1><B;nB;oA>=:q1><B;nB;oA)>9q8R9b(Or8x8y8<Vh<E)xVT|M&VV)?8nV]S::KS&/8~VR%E",
    "8:8y48(r8x8y8<Dh<E)xDT|M&VD)?8nD]S::CS&/8~DR%E8:8yA_/:]/W9;A8W1[LP+$!D&O98A;//<RA._RA8?.x/;(:Ac,|$mo9<(TAS.l9;",
    "$do<E9KA:%d]./4TA018EyAq9Cd8>A!91!9A%R9EA8L,;?:A/L(m9qAh!$$k$~!PA;S)nAb9;*a:7gRA!)8=:tdA$F9gA8E8d9AAS>^A8:/M%_",
    "XA,M%~A$K,c=tx!G+<A%.:dc/aA9?c<0A%z828I9JX&C!^+|8KAR.t8Kc9d$$Ag!c%:A(%Ah9g8A9AA:Y*qAX>R,PA8n[Or$5[N9SAk)/A$G[z",
    "Ah!!*I(VXA;R8?o9C88A&0R$<A>gq+oA*|kAh9g8A$3+FAQ,l&S$k(Sq+oA9P<D!ayA(a8jA&GyA<PhA+^:sA%z%p8&S8>AX9M*/+D&VA(DcA",
    "9/:UAg9M9.A:d8<A!WX<Z$h!FAb9;&nT/tRA(vd9*(2&bAg&DRA8/!%%F!X/t8.8I8rrb&VP$Qj:z8I8yR;qq>+Aog9yo8y^%R8IT$Z&v(^9%A",
    "%E8mA:Z)I!cA8T/kA(0c9yA9E|GdAX!!(_9t$%(dA!H?8A8U9JA|gd)9A&?9T)9A&g%j+08V&c9U.Iz(Y,==8z,_.IA%(&+9(A$&*a.58I&Po",
    "+wA%B%^*T;v8V/y[hA9O&cA9j&cA+Z!v96&c9R9k&cA*T%2(&*C!bT8K8yA&bP&cRAo;j)s0d&V%4DaD(eDfD)$D*ND+xDnD(~D)AD,bD:uD/l",
    "D/mD.FDpDupDapD(epDfpD*NpD+xpDnpD(~pD)ApD,bpD:upD/lpD/mpD.FpDsDusDasD(esDfsD)$sD*NsD+xsDnsD(~sC)AsD_ODu_ODa_OD",
    ".FsD)BDu)BDa)BD(e)BDf)BD)$)BD*N)BD+x)BDn)BD(~)BD)A)BD,b)BD]$Du]$Da]$A]so;jP,_&%%c.N&Q/084Z(|%c.N&Q/0848C.N&QL",
    "84%5P,_(|%c<!&Q<$84i&%%c<!&Q<$847<!&Q7%X<!*U7>B&%*U7.N*U7>B(|*U7<!*U7>B%Z84L8^%5P,_%Z>B(|*U8C<!*U8C>B&%*U8C.N",
    "*U8C>B]18C%X.N*UA%Z84%5P,_&%%c.N&Q<$84i(|%c.N&Q<$847.N&QL8^%5P,_(|%c<!&Q/084Z&%%c<!&Q/0848C<!&Q8C%X<!*U8C>B&%",
    "*U8C.N*U8C>B(|*U8C<!*U8C>B%Z84L84%5P,_%Z>B(|*U7<!*U7>B&%*U7.N*U7>B]17%X.N*UL//848V&u*Z9)%hR%5A>,&%8V8S*Z9)%hR",
    "%5A(|8V>,&u*Z9)%hR%5A>,(|8V8S*Z9)%hR%59R*Z:&%5A%Z*Z:&%5A8S*Z:&%5A&u*Z:&%5A!|:n$qZfZnZpZsZvA$7:n$qlflnlplslvA>,",
    "&u:nj%Z:nA848V%Z:nz&u:nA(|8V&u:nA$7:n1)$+IA%Z:&%5L9)=$L)|=$L9)%hR%5LR%Q=$A8S:&%5L9)=$L)|=$L9)%hR%5LR%Q=$A.ZP<q",
    "A/iP<qA%Z%w<qA&u%w<qA[U<qA%Z%s%58V&u%w[U<qt[U<q8V&u%s%5A.ZP[U<q8V/i%5A;g$O:jP;mA[U;g$O:jP;mA8*$7;mA%Z||<m;mL]0",
    "]s;mL//&u*Z%s%5A>,8S*Z%s%5A[M*Z<qL8S*Z<qA<m*Z<qL8h*Z<qA_E<p[Or8_!3,_(|^K%c8^/184l%X.N&Q8X]0&%&Ql(|^K%c.N&Q/1]0",
    "&%&Ql%X.N^K*U+Q(|^K*Ul(|^K%c>,%X]0&%&Q/18S!P%c.N&Q~3*E&%^K%c8^/1.N^K*Ul%X<!^K%c]0&%&Q8X]0(|^K%c.N&Ql&YB|_=H+YA",
    "&s*z.E!O*FA[U;g8%A.ZP9C&/8,$QA/iP9C&/8,$QA[U<d<c.$A&Z8V(|8V&u:nA9_8V(|8V&u:nA?;8V8S:nA?d8V8S:nA.ZP=,%:A/iP=,%:",
    "A$NQ&2[bA8S%j;d![A:m.r*yJ%X]0&%&QJ&YA9D$a;L>.8D?q^>RA8h|49D8S..A%X|49D8S..A8S|49D8S..A:m;d(8A*><G!<r,<V8D]t8_",
    "8EQ|CK9S9e8,8^E84K/(c(ERA9D;i8>%0$1A8nr$>*/9pF8WF8QH8kF8YH8mF80H8uF81F8zAg9q?7<o_.A_.+38F*48F&h8F?L8F:7.R8O8F",
    "9%:88O8F^L!P9R;7[38F:98F/28F(J8F+R8F$s8F.S1:!8F$J8FR[49.8F9pz8Wz8Qt8kz8Yt8mz80t8uz81z8z8F)g8F?M8F%r8O8F&(8F$!",
    "8O8F(88F(K(m)G90838F)H%>OoOqOcOTO8JOrOxOQO8UOkOgOhObOWOXO8RO8AOROdOUO8HO8KO0OyO8d9RT;8&)8F?N9R;9&)8F+2;!8F>C8F",
    ":$8F+SSIoIqIcITI8JIrIxIQI8UIkIgIhIbIWIXI8RI8AIRIdIUI8HI8KI0IyI8d9R[5*58F/38F8S*58F!&A.v>pP_.A/b*[)s]q&$1[dMwM2",
    "B!yMuMaMfMnMpMsMvMwM2B!?MuMaMfMnMpMsMvMwM2B$9MuMaMfMnMpMsMvMwM2B$8MuMaMfMnMpMsMvMwM2B(iMuMaMfMnMpMsMvMwM2B(GMu",
    "MaMfMnMpMsMvMwM2B)eMuMaMfMnMpMsMvMwM2B).MuMaMfMnMpMsMvMwM2Bu(7EuEaEfEnEpEsEvEwE2M9$EuEaEfEnEpEsEvEwE2M!yEuEaEf",
    "EnEpEsEvEwE2M!?EuEaEfEnEpEsEvEwE2M$9EuEaEfEnEpEsEvEwE2M$8EuEaEfEnEpEsEvEwE2M(iEuEaEfEnEpEsEvEwE2M(GEuEaEfEnEpE",
    "sEvEwE2M)eEuEaEfEnEpEsEvEwE2M).EuEaEfEnEpEsEvEwE2Ba(7EuEaEfEnEpEsEvEwE2M9$EuEaEfEnEpEsEvEwE2M!yEuEaEfEnEpEsEvE",
    "wE2M!?EuEaEfEnEpEsEvEwE2M$9EuEaEfEnEpEsEvEwE2M$8EuEaEfEnEpEsAb%a86gAR<[8I)V=K&08.j?ld9,0A)P?ld8Id08Ibc$m]vh!]",
    ",C8I9M8Ib8R86UQ!^AS%p86+a.j9K8I]kdA=M8IS%p%W.Q8IRA:N&M=9A$7=98IdAd!2A)P$P8I%EAg8J8I;b8J[NA>1P$P8IgA&+=9A!|=98I",
    "dA(W8I9A!v8J[NAq_|S<o8r>X8I8AA;j8.188_F8WA88_F)a8IWA;j8.188_F/HA88_F828IQA8Z*f,5$/9;/dT8I9S8Iqu8I%0/h]u$48W8Iq",
    "a8I%0/h]u$48Q8Iqf8I%0/h]u$4?y8Iqn8I%0/h]u$48YAb$t8ITr83$dS%p+a.j9KAR%%868>$1<l(d9SA)P]vh!],C%58IdoA.v86>pA)P$S",
    "8I9*A%186]w?:AT,O86S8/A.iT**8IRA82&X!+**P8YA~%X**8IRA82&X!+**P?yI$nA8r:dc**8IRA82&X!+**P8WA;k**8IRA%WA+h86T9EA",
    "X!c86*h:N!aA9hW)X.w;P%G8I!%Ao$W8I8rS$/9%h98*/+lTAbox8I$X)IS$/+lTA82c8693Ab!G9,0!8$PA*j8I)V>!)s]q*/,QSA)P8n]q*/",
    ",QS8I8jA:N&M=9P%GA$7=9P%G8I&NA:N&M=98D(x*>!<q!+A$7=98D(x*>!<q!+8Id8UA&+=9P%GA!|=9P%G8I&NA&t=z&+$TK^B8Igc8I9J=z",
    "&+)!8K+oK9N8I!SA]*%V4&+8J[N8IQAR<S88_F8QL1*.;8$q8IRa8I<S88_F?yL1*.;81f8IRfAcqR8I%0/h]ug]:!)A~.8H.~U*I8Wt%48IUu",
    "8I9d8H.~U*I8Qt$q8I/vA|?]vh98]:$C8I&NA.v>pP:N!a8I8>A9H*j<o8M988.8I8KAR8L8I)V=K$o9J&2,QSj%T9Eq*/,QSA)P$o9J&2,QSe",
    "%T9Eq*/,QS8I8LAR%n8I)V>!]:!)8Irq8I<S*b$W!6:N&M82)l%3;U8I)G8I<S:N&M82)l%3;UA]ug)s,8b/|82)l%3;U8I!7A!F9,(_!a&^^r",
    "AW9%S*a:A~j$sbc8I,OAXh8I9d89q!N9H*j9KA$Yq9,|=(S=S=%+dbcAbo%WAR:,A)H/!YL5/>Aqr8UA8<hA:A9d%.*r,5&3;~?rT8K8=8^A8N",
    "9&;H8ig%LA8G$X8i(=P(0C$Ut8&t9<A!K*!b8%%i8N1/Wr&|9b,K$X8Ar)wA?%P8U,(8n.x^1(1Z^yH(c^1H^11.1A8J8HRu86a86fAh8HRA8J",
    "8HRnA8d8K%W9,/)9,8UAg8AhA8AghAg8rA8A9SAXc8JAg8&A8A9<A&/o%WAhh%WA8K8UAg9dA8A9tA8J!7AX8:A9VQ8y/=^6~Fd!6%kb,6A~k",
    "8AP!s9.8f9R)48fA9j$e!x<YA9O$e!x<YA)N=W[jAh)wh%?8ik(a<K%LA8HRu9,a9,f9,n9,p9,s9,v9,w9,29,9$86u86a86f86n86p86sA[n",
    "&C(S:P%l!|[c,R((=N%;Ao9*8I%7!J9A%:8%A8d.ao%WAq9|%x&X*:$Duu*RM.;$Du(F+L9U+LA9H8v9x(d)xP8Bxi!hV5xO!hAx&CS%P>h8i",
    ",LA>V8d&V;b;D)v/T;8x+;?r9t$1)r8&)~89^bA8HR[d86w8629,!y86u86a86f86n86p86s86v86w8629,!?86u86a86f86n86p86s86v86w",
    "8629,$986u86a86f86n86p86s86v86w8629,$886u86a86f86n86p86s86v86w8629,(i86u86a86f86n86p86s86v86w8629,(G86u86a86f",
    "86n86p86s86v86w8629,)e86u86a86f86n86p86s86v86w8629,).86u86a86f86n86p86s86v86w8629,u(78Fu8Fa8Ff8Fn8Fp8Fs8Fv8Fw",
    "8F2869$8Fu8Fa8Ff8Fn8Fp8Fs8Fv8Fw8F286!y8Fu8Fa8Ff8Fn8Fp8Fs8Fv8Fw8F286!?8Fu8Fa8Ff8Fn8Fp8Fs8Fv8Fw8F286$98Fu8Fa8Ff",
    "8Fn8Fp8Fs8Fv8Fw8F286$88Fu8Fa8Ff8Fn8Fp8Fs8Fv8Fw8F286(i8Fu8Fa8Ff8Fn8Fp8Fs8Fv8Fw8F286(G8Fu8Fa8Ff8Fn8Fp8Fs8Fv8Fw8F",
    "286)e8Fu8Fa8Ff8Fn8Fp8Fs8Fv8Fw8F286).8Fu8Fa8Ff8Fn8Fp8Fs8Fv8Fw8F29,a(78Fu8Fa8Ff8Fn8Fp8Fs8Fv8Fw8F2869$8Fu8Fa8Ff8F",
    "n8Fp8Fs8Fv8Fw8F286!y8Fu8Fa8Ff8Fn8Fp8Fs8Fv8Fw8F286!?8Fu8Fa8Ff8Fn8Fp8Fs8Fv8Fw8F286$98Fu8Fa8Ff8Fn8Fp8Fs8Fv8Fw8F2",
    "86$88Fu8Fa8Ff8Fn8Fp8Fs"
  ]

end ModuleDocs.CharacterName
