import BeaconCheck.Text.Casing
import BeaconCheck.Text.Digit
import BeaconCheck.Number.Numeral

/-!
# Names of characters

The Unicode names of the characters that are commonly named: ASCII with the control
characters, the Latin, Greek, Cyrillic, Hebrew and Japanese alphabets, punctuation, and
some symbols. `namedPoint?` looks a name up, in either case.
-/

namespace BeaconCheck

/-- Code points in hexadecimal, each followed by its name, and a semicolon between two. -/
def characterNames : List String :=
  [
    "0 NULL;0 NUL;1 START OF HEADING;7 ALERT;7 BEL;8 BACKSPACE;8 BS;9 CHARACTER TABULATION",
    "9 HORIZONTAL TABULATION;9 TAB;9 HT;a LINE FEED;a NEW LINE;a END OF LINE;a LF;a NL;a EOL",
    "b LINE TABULATION;b VERTICAL TABULATION;b VT;c FORM FEED;c FF;d CARRIAGE RETURN;d CR",
    "1b ESCAPE;1b ESC;20 SPACE;21 EXCLAMATION MARK;22 QUOTATION MARK;23 NUMBER SIGN",
    "24 DOLLAR SIGN;25 PERCENT SIGN;26 AMPERSAND;27 APOSTROPHE;28 LEFT PARENTHESIS",
    "29 RIGHT PARENTHESIS;2a ASTERISK;2b PLUS SIGN;2c COMMA;2d HYPHEN-MINUS;2e FULL STOP",
    "2f SOLIDUS;30 DIGIT ZERO;31 DIGIT ONE;32 DIGIT TWO;33 DIGIT THREE;34 DIGIT FOUR",
    "35 DIGIT FIVE;36 DIGIT SIX;37 DIGIT SEVEN;38 DIGIT EIGHT;39 DIGIT NINE;3a COLON",
    "3b SEMICOLON;3c LESS-THAN SIGN;3d EQUALS SIGN;3e GREATER-THAN SIGN;3f QUESTION MARK",
    "40 COMMERCIAL AT;41 LATIN CAPITAL LETTER A;42 LATIN CAPITAL LETTER B",
    "43 LATIN CAPITAL LETTER C;44 LATIN CAPITAL LETTER D;45 LATIN CAPITAL LETTER E",
    "46 LATIN CAPITAL LETTER F;47 LATIN CAPITAL LETTER G;48 LATIN CAPITAL LETTER H",
    "49 LATIN CAPITAL LETTER I;4a LATIN CAPITAL LETTER J;4b LATIN CAPITAL LETTER K",
    "4c LATIN CAPITAL LETTER L;4d LATIN CAPITAL LETTER M;4e LATIN CAPITAL LETTER N",
    "4f LATIN CAPITAL LETTER O;50 LATIN CAPITAL LETTER P;51 LATIN CAPITAL LETTER Q",
    "52 LATIN CAPITAL LETTER R;53 LATIN CAPITAL LETTER S;54 LATIN CAPITAL LETTER T",
    "55 LATIN CAPITAL LETTER U;56 LATIN CAPITAL LETTER V;57 LATIN CAPITAL LETTER W",
    "58 LATIN CAPITAL LETTER X;59 LATIN CAPITAL LETTER Y;5a LATIN CAPITAL LETTER Z",
    "5b LEFT SQUARE BRACKET;5c REVERSE SOLIDUS;5d RIGHT SQUARE BRACKET;5e CIRCUMFLEX ACCENT",
    "5f LOW LINE;60 GRAVE ACCENT;61 LATIN SMALL LETTER A;62 LATIN SMALL LETTER B",
    "63 LATIN SMALL LETTER C;64 LATIN SMALL LETTER D;65 LATIN SMALL LETTER E",
    "66 LATIN SMALL LETTER F;67 LATIN SMALL LETTER G;68 LATIN SMALL LETTER H",
    "69 LATIN SMALL LETTER I;6a LATIN SMALL LETTER J;6b LATIN SMALL LETTER K",
    "6c LATIN SMALL LETTER L;6d LATIN SMALL LETTER M;6e LATIN SMALL LETTER N",
    "6f LATIN SMALL LETTER O;70 LATIN SMALL LETTER P;71 LATIN SMALL LETTER Q",
    "72 LATIN SMALL LETTER R;73 LATIN SMALL LETTER S;74 LATIN SMALL LETTER T",
    "75 LATIN SMALL LETTER U;76 LATIN SMALL LETTER V;77 LATIN SMALL LETTER W",
    "78 LATIN SMALL LETTER X;79 LATIN SMALL LETTER Y;7a LATIN SMALL LETTER Z",
    "7b LEFT CURLY BRACKET;7c VERTICAL LINE;7d RIGHT CURLY BRACKET;7e TILDE;7f DELETE;7f DEL",
    "85 NEXT LINE;85 NEL;a0 NBSP;a0 NO-BREAK SPACE;a1 INVERTED EXCLAMATION MARK;a2 CENT SIGN",
    "a3 POUND SIGN;a4 CURRENCY SIGN;a5 YEN SIGN;a6 BROKEN BAR;a7 SECTION SIGN;a8 DIAERESIS",
    "a9 COPYRIGHT SIGN;aa FEMININE ORDINAL INDICATOR",
    "ab LEFT-POINTING DOUBLE ANGLE QUOTATION MARK;ac NOT SIGN;ad SOFT HYPHEN;ae REGISTERED SIGN",
    "af MACRON;b0 DEGREE SIGN;b1 PLUS-MINUS SIGN;b2 SUPERSCRIPT TWO;b3 SUPERSCRIPT THREE",
    "b4 ACUTE ACCENT;b5 MICRO SIGN;b6 PILCROW SIGN;b7 MIDDLE DOT;b8 CEDILLA;b9 SUPERSCRIPT ONE",
    "ba MASCULINE ORDINAL INDICATOR;bb RIGHT-POINTING DOUBLE ANGLE QUOTATION MARK",
    "bc VULGAR FRACTION ONE QUARTER;bd VULGAR FRACTION ONE HALF",
    "be VULGAR FRACTION THREE QUARTERS;bf INVERTED QUESTION MARK",
    "c0 LATIN CAPITAL LETTER A WITH GRAVE;c1 LATIN CAPITAL LETTER A WITH ACUTE",
    "c2 LATIN CAPITAL LETTER A WITH CIRCUMFLEX;c3 LATIN CAPITAL LETTER A WITH TILDE",
    "c4 LATIN CAPITAL LETTER A WITH DIAERESIS;c5 LATIN CAPITAL LETTER A WITH RING ABOVE",
    "c6 LATIN CAPITAL LETTER AE;c7 LATIN CAPITAL LETTER C WITH CEDILLA",
    "c8 LATIN CAPITAL LETTER E WITH GRAVE;c9 LATIN CAPITAL LETTER E WITH ACUTE",
    "ca LATIN CAPITAL LETTER E WITH CIRCUMFLEX;cb LATIN CAPITAL LETTER E WITH DIAERESIS",
    "cc LATIN CAPITAL LETTER I WITH GRAVE;cd LATIN CAPITAL LETTER I WITH ACUTE",
    "ce LATIN CAPITAL LETTER I WITH CIRCUMFLEX;cf LATIN CAPITAL LETTER I WITH DIAERESIS",
    "d0 LATIN CAPITAL LETTER ETH;d1 LATIN CAPITAL LETTER N WITH TILDE",
    "d2 LATIN CAPITAL LETTER O WITH GRAVE;d3 LATIN CAPITAL LETTER O WITH ACUTE",
    "d4 LATIN CAPITAL LETTER O WITH CIRCUMFLEX;d5 LATIN CAPITAL LETTER O WITH TILDE",
    "d6 LATIN CAPITAL LETTER O WITH DIAERESIS;d7 MULTIPLICATION SIGN",
    "d8 LATIN CAPITAL LETTER O WITH STROKE;d9 LATIN CAPITAL LETTER U WITH GRAVE",
    "da LATIN CAPITAL LETTER U WITH ACUTE;db LATIN CAPITAL LETTER U WITH CIRCUMFLEX",
    "dc LATIN CAPITAL LETTER U WITH DIAERESIS;dd LATIN CAPITAL LETTER Y WITH ACUTE",
    "de LATIN CAPITAL LETTER THORN;df LATIN SMALL LETTER SHARP S",
    "e0 LATIN SMALL LETTER A WITH GRAVE;e1 LATIN SMALL LETTER A WITH ACUTE",
    "e2 LATIN SMALL LETTER A WITH CIRCUMFLEX;e3 LATIN SMALL LETTER A WITH TILDE",
    "e4 LATIN SMALL LETTER A WITH DIAERESIS;e5 LATIN SMALL LETTER A WITH RING ABOVE",
    "e6 LATIN SMALL LETTER AE;e7 LATIN SMALL LETTER C WITH CEDILLA",
    "e8 LATIN SMALL LETTER E WITH GRAVE;e9 LATIN SMALL LETTER E WITH ACUTE",
    "ea LATIN SMALL LETTER E WITH CIRCUMFLEX;eb LATIN SMALL LETTER E WITH DIAERESIS",
    "ec LATIN SMALL LETTER I WITH GRAVE;ed LATIN SMALL LETTER I WITH ACUTE",
    "ee LATIN SMALL LETTER I WITH CIRCUMFLEX;ef LATIN SMALL LETTER I WITH DIAERESIS",
    "f0 LATIN SMALL LETTER ETH;f1 LATIN SMALL LETTER N WITH TILDE",
    "f2 LATIN SMALL LETTER O WITH GRAVE;f3 LATIN SMALL LETTER O WITH ACUTE",
    "f4 LATIN SMALL LETTER O WITH CIRCUMFLEX;f5 LATIN SMALL LETTER O WITH TILDE",
    "f6 LATIN SMALL LETTER O WITH DIAERESIS;f7 DIVISION SIGN;f8 LATIN SMALL LETTER O WITH STROKE",
    "f9 LATIN SMALL LETTER U WITH GRAVE;fa LATIN SMALL LETTER U WITH ACUTE",
    "fb LATIN SMALL LETTER U WITH CIRCUMFLEX;fc LATIN SMALL LETTER U WITH DIAERESIS",
    "fd LATIN SMALL LETTER Y WITH ACUTE;fe LATIN SMALL LETTER THORN",
    "ff LATIN SMALL LETTER Y WITH DIAERESIS;100 LATIN CAPITAL LETTER A WITH MACRON",
    "101 LATIN SMALL LETTER A WITH MACRON;102 LATIN CAPITAL LETTER A WITH BREVE",
    "103 LATIN SMALL LETTER A WITH BREVE;104 LATIN CAPITAL LETTER A WITH OGONEK",
    "105 LATIN SMALL LETTER A WITH OGONEK;106 LATIN CAPITAL LETTER C WITH ACUTE",
    "107 LATIN SMALL LETTER C WITH ACUTE;108 LATIN CAPITAL LETTER C WITH CIRCUMFLEX",
    "109 LATIN SMALL LETTER C WITH CIRCUMFLEX;10a LATIN CAPITAL LETTER C WITH DOT ABOVE",
    "10b LATIN SMALL LETTER C WITH DOT ABOVE;10c LATIN CAPITAL LETTER C WITH CARON",
    "10d LATIN SMALL LETTER C WITH CARON;10e LATIN CAPITAL LETTER D WITH CARON",
    "10f LATIN SMALL LETTER D WITH CARON;110 LATIN CAPITAL LETTER D WITH STROKE",
    "111 LATIN SMALL LETTER D WITH STROKE;112 LATIN CAPITAL LETTER E WITH MACRON",
    "113 LATIN SMALL LETTER E WITH MACRON;114 LATIN CAPITAL LETTER E WITH BREVE",
    "115 LATIN SMALL LETTER E WITH BREVE;116 LATIN CAPITAL LETTER E WITH DOT ABOVE",
    "117 LATIN SMALL LETTER E WITH DOT ABOVE;118 LATIN CAPITAL LETTER E WITH OGONEK",
    "119 LATIN SMALL LETTER E WITH OGONEK;11a LATIN CAPITAL LETTER E WITH CARON",
    "11b LATIN SMALL LETTER E WITH CARON;11c LATIN CAPITAL LETTER G WITH CIRCUMFLEX",
    "11d LATIN SMALL LETTER G WITH CIRCUMFLEX;11e LATIN CAPITAL LETTER G WITH BREVE",
    "11f LATIN SMALL LETTER G WITH BREVE;120 LATIN CAPITAL LETTER G WITH DOT ABOVE",
    "121 LATIN SMALL LETTER G WITH DOT ABOVE;122 LATIN CAPITAL LETTER G WITH CEDILLA",
    "123 LATIN SMALL LETTER G WITH CEDILLA;124 LATIN CAPITAL LETTER H WITH CIRCUMFLEX",
    "125 LATIN SMALL LETTER H WITH CIRCUMFLEX;126 LATIN CAPITAL LETTER H WITH STROKE",
    "127 LATIN SMALL LETTER H WITH STROKE;128 LATIN CAPITAL LETTER I WITH TILDE",
    "129 LATIN SMALL LETTER I WITH TILDE;12a LATIN CAPITAL LETTER I WITH MACRON",
    "12b LATIN SMALL LETTER I WITH MACRON;12c LATIN CAPITAL LETTER I WITH BREVE",
    "12d LATIN SMALL LETTER I WITH BREVE;12e LATIN CAPITAL LETTER I WITH OGONEK",
    "12f LATIN SMALL LETTER I WITH OGONEK;130 LATIN CAPITAL LETTER I WITH DOT ABOVE",
    "131 LATIN SMALL LETTER DOTLESS I;132 LATIN CAPITAL LIGATURE IJ;133 LATIN SMALL LIGATURE IJ",
    "134 LATIN CAPITAL LETTER J WITH CIRCUMFLEX;135 LATIN SMALL LETTER J WITH CIRCUMFLEX",
    "136 LATIN CAPITAL LETTER K WITH CEDILLA;137 LATIN SMALL LETTER K WITH CEDILLA",
    "138 LATIN SMALL LETTER KRA;139 LATIN CAPITAL LETTER L WITH ACUTE",
    "13a LATIN SMALL LETTER L WITH ACUTE;13b LATIN CAPITAL LETTER L WITH CEDILLA",
    "13c LATIN SMALL LETTER L WITH CEDILLA;13d LATIN CAPITAL LETTER L WITH CARON",
    "13e LATIN SMALL LETTER L WITH CARON;13f LATIN CAPITAL LETTER L WITH MIDDLE DOT",
    "140 LATIN SMALL LETTER L WITH MIDDLE DOT;141 LATIN CAPITAL LETTER L WITH STROKE",
    "142 LATIN SMALL LETTER L WITH STROKE;143 LATIN CAPITAL LETTER N WITH ACUTE",
    "144 LATIN SMALL LETTER N WITH ACUTE;145 LATIN CAPITAL LETTER N WITH CEDILLA",
    "146 LATIN SMALL LETTER N WITH CEDILLA;147 LATIN CAPITAL LETTER N WITH CARON",
    "148 LATIN SMALL LETTER N WITH CARON;149 LATIN SMALL LETTER N PRECEDED BY APOSTROPHE",
    "14a LATIN CAPITAL LETTER ENG;14b LATIN SMALL LETTER ENG",
    "14c LATIN CAPITAL LETTER O WITH MACRON;14d LATIN SMALL LETTER O WITH MACRON",
    "14e LATIN CAPITAL LETTER O WITH BREVE;14f LATIN SMALL LETTER O WITH BREVE",
    "150 LATIN CAPITAL LETTER O WITH DOUBLE ACUTE;151 LATIN SMALL LETTER O WITH DOUBLE ACUTE",
    "152 LATIN CAPITAL LIGATURE OE;153 LATIN SMALL LIGATURE OE",
    "154 LATIN CAPITAL LETTER R WITH ACUTE;155 LATIN SMALL LETTER R WITH ACUTE",
    "156 LATIN CAPITAL LETTER R WITH CEDILLA;157 LATIN SMALL LETTER R WITH CEDILLA",
    "158 LATIN CAPITAL LETTER R WITH CARON;159 LATIN SMALL LETTER R WITH CARON",
    "15a LATIN CAPITAL LETTER S WITH ACUTE;15b LATIN SMALL LETTER S WITH ACUTE",
    "15c LATIN CAPITAL LETTER S WITH CIRCUMFLEX;15d LATIN SMALL LETTER S WITH CIRCUMFLEX",
    "15e LATIN CAPITAL LETTER S WITH CEDILLA;15f LATIN SMALL LETTER S WITH CEDILLA",
    "160 LATIN CAPITAL LETTER S WITH CARON;161 LATIN SMALL LETTER S WITH CARON",
    "162 LATIN CAPITAL LETTER T WITH CEDILLA;163 LATIN SMALL LETTER T WITH CEDILLA",
    "164 LATIN CAPITAL LETTER T WITH CARON;165 LATIN SMALL LETTER T WITH CARON",
    "166 LATIN CAPITAL LETTER T WITH STROKE;167 LATIN SMALL LETTER T WITH STROKE",
    "168 LATIN CAPITAL LETTER U WITH TILDE;169 LATIN SMALL LETTER U WITH TILDE",
    "16a LATIN CAPITAL LETTER U WITH MACRON;16b LATIN SMALL LETTER U WITH MACRON",
    "16c LATIN CAPITAL LETTER U WITH BREVE;16d LATIN SMALL LETTER U WITH BREVE",
    "16e LATIN CAPITAL LETTER U WITH RING ABOVE;16f LATIN SMALL LETTER U WITH RING ABOVE",
    "170 LATIN CAPITAL LETTER U WITH DOUBLE ACUTE;171 LATIN SMALL LETTER U WITH DOUBLE ACUTE",
    "172 LATIN CAPITAL LETTER U WITH OGONEK;173 LATIN SMALL LETTER U WITH OGONEK",
    "174 LATIN CAPITAL LETTER W WITH CIRCUMFLEX;175 LATIN SMALL LETTER W WITH CIRCUMFLEX",
    "176 LATIN CAPITAL LETTER Y WITH CIRCUMFLEX;177 LATIN SMALL LETTER Y WITH CIRCUMFLEX",
    "178 LATIN CAPITAL LETTER Y WITH DIAERESIS;179 LATIN CAPITAL LETTER Z WITH ACUTE",
    "17a LATIN SMALL LETTER Z WITH ACUTE;17b LATIN CAPITAL LETTER Z WITH DOT ABOVE",
    "17c LATIN SMALL LETTER Z WITH DOT ABOVE;17d LATIN CAPITAL LETTER Z WITH CARON",
    "17e LATIN SMALL LETTER Z WITH CARON;17f LATIN SMALL LETTER LONG S",
    "391 GREEK CAPITAL LETTER ALPHA;392 GREEK CAPITAL LETTER BETA;393 GREEK CAPITAL LETTER GAMMA",
    "394 GREEK CAPITAL LETTER DELTA;395 GREEK CAPITAL LETTER EPSILON",
    "396 GREEK CAPITAL LETTER ZETA;397 GREEK CAPITAL LETTER ETA;398 GREEK CAPITAL LETTER THETA",
    "399 GREEK CAPITAL LETTER IOTA;39a GREEK CAPITAL LETTER KAPPA;39b GREEK CAPITAL LETTER LAMDA",
    "39c GREEK CAPITAL LETTER MU;39d GREEK CAPITAL LETTER NU;39e GREEK CAPITAL LETTER XI",
    "39f GREEK CAPITAL LETTER OMICRON;3a0 GREEK CAPITAL LETTER PI;3a1 GREEK CAPITAL LETTER RHO",
    "3a3 GREEK CAPITAL LETTER SIGMA;3a4 GREEK CAPITAL LETTER TAU",
    "3a5 GREEK CAPITAL LETTER UPSILON;3a6 GREEK CAPITAL LETTER PHI;3a7 GREEK CAPITAL LETTER CHI",
    "3a8 GREEK CAPITAL LETTER PSI;3a9 GREEK CAPITAL LETTER OMEGA",
    "3aa GREEK CAPITAL LETTER IOTA WITH DIALYTIKA",
    "3ab GREEK CAPITAL LETTER UPSILON WITH DIALYTIKA;3ac GREEK SMALL LETTER ALPHA WITH TONOS",
    "3ad GREEK SMALL LETTER EPSILON WITH TONOS;3ae GREEK SMALL LETTER ETA WITH TONOS",
    "3af GREEK SMALL LETTER IOTA WITH TONOS",
    "3b0 GREEK SMALL LETTER UPSILON WITH DIALYTIKA AND TONOS;3b1 GREEK SMALL LETTER ALPHA",
    "3b2 GREEK SMALL LETTER BETA;3b3 GREEK SMALL LETTER GAMMA;3b4 GREEK SMALL LETTER DELTA",
    "3b5 GREEK SMALL LETTER EPSILON;3b6 GREEK SMALL LETTER ZETA;3b7 GREEK SMALL LETTER ETA",
    "3b8 GREEK SMALL LETTER THETA;3b9 GREEK SMALL LETTER IOTA;3ba GREEK SMALL LETTER KAPPA",
    "3bb GREEK SMALL LETTER LAMDA;3bc GREEK SMALL LETTER MU;3bd GREEK SMALL LETTER NU",
    "3be GREEK SMALL LETTER XI;3bf GREEK SMALL LETTER OMICRON;3c0 GREEK SMALL LETTER PI",
    "3c1 GREEK SMALL LETTER RHO;3c2 GREEK SMALL LETTER FINAL SIGMA;3c3 GREEK SMALL LETTER SIGMA",
    "3c4 GREEK SMALL LETTER TAU;3c5 GREEK SMALL LETTER UPSILON;3c6 GREEK SMALL LETTER PHI",
    "3c7 GREEK SMALL LETTER CHI;3c8 GREEK SMALL LETTER PSI;3c9 GREEK SMALL LETTER OMEGA",
    "401 CYRILLIC CAPITAL LETTER IO;410 CYRILLIC CAPITAL LETTER A;411 CYRILLIC CAPITAL LETTER BE",
    "412 CYRILLIC CAPITAL LETTER VE;413 CYRILLIC CAPITAL LETTER GHE",
    "414 CYRILLIC CAPITAL LETTER DE;415 CYRILLIC CAPITAL LETTER IE",
    "416 CYRILLIC CAPITAL LETTER ZHE;417 CYRILLIC CAPITAL LETTER ZE",
    "418 CYRILLIC CAPITAL LETTER I;419 CYRILLIC CAPITAL LETTER SHORT I",
    "41a CYRILLIC CAPITAL LETTER KA;41b CYRILLIC CAPITAL LETTER EL",
    "41c CYRILLIC CAPITAL LETTER EM;41d CYRILLIC CAPITAL LETTER EN;41e CYRILLIC CAPITAL LETTER O",
    "41f CYRILLIC CAPITAL LETTER PE;420 CYRILLIC CAPITAL LETTER ER",
    "421 CYRILLIC CAPITAL LETTER ES;422 CYRILLIC CAPITAL LETTER TE;423 CYRILLIC CAPITAL LETTER U",
    "424 CYRILLIC CAPITAL LETTER EF;425 CYRILLIC CAPITAL LETTER HA",
    "426 CYRILLIC CAPITAL LETTER TSE;427 CYRILLIC CAPITAL LETTER CHE",
    "428 CYRILLIC CAPITAL LETTER SHA;429 CYRILLIC CAPITAL LETTER SHCHA",
    "42a CYRILLIC CAPITAL LETTER HARD SIGN;42b CYRILLIC CAPITAL LETTER YERU",
    "42c CYRILLIC CAPITAL LETTER SOFT SIGN;42d CYRILLIC CAPITAL LETTER E",
    "42e CYRILLIC CAPITAL LETTER YU;42f CYRILLIC CAPITAL LETTER YA;430 CYRILLIC SMALL LETTER A",
    "431 CYRILLIC SMALL LETTER BE;432 CYRILLIC SMALL LETTER VE;433 CYRILLIC SMALL LETTER GHE",
    "434 CYRILLIC SMALL LETTER DE;435 CYRILLIC SMALL LETTER IE;436 CYRILLIC SMALL LETTER ZHE",
    "437 CYRILLIC SMALL LETTER ZE;438 CYRILLIC SMALL LETTER I;439 CYRILLIC SMALL LETTER SHORT I",
    "43a CYRILLIC SMALL LETTER KA;43b CYRILLIC SMALL LETTER EL;43c CYRILLIC SMALL LETTER EM",
    "43d CYRILLIC SMALL LETTER EN;43e CYRILLIC SMALL LETTER O;43f CYRILLIC SMALL LETTER PE",
    "440 CYRILLIC SMALL LETTER ER;441 CYRILLIC SMALL LETTER ES;442 CYRILLIC SMALL LETTER TE",
    "443 CYRILLIC SMALL LETTER U;444 CYRILLIC SMALL LETTER EF;445 CYRILLIC SMALL LETTER HA",
    "446 CYRILLIC SMALL LETTER TSE;447 CYRILLIC SMALL LETTER CHE;448 CYRILLIC SMALL LETTER SHA",
    "449 CYRILLIC SMALL LETTER SHCHA;44a CYRILLIC SMALL LETTER HARD SIGN",
    "44b CYRILLIC SMALL LETTER YERU;44c CYRILLIC SMALL LETTER SOFT SIGN",
    "44d CYRILLIC SMALL LETTER E;44e CYRILLIC SMALL LETTER YU;44f CYRILLIC SMALL LETTER YA",
    "450 CYRILLIC SMALL LETTER IE WITH GRAVE;451 CYRILLIC SMALL LETTER IO;5d0 HEBREW LETTER ALEF",
    "5d1 HEBREW LETTER BET;5d2 HEBREW LETTER GIMEL;5d3 HEBREW LETTER DALET;5d4 HEBREW LETTER HE",
    "5d5 HEBREW LETTER VAV;5d6 HEBREW LETTER ZAYIN;5d7 HEBREW LETTER HET;5d8 HEBREW LETTER TET",
    "5d9 HEBREW LETTER YOD;5da HEBREW LETTER FINAL KAF;5db HEBREW LETTER KAF",
    "5dc HEBREW LETTER LAMED;5dd HEBREW LETTER FINAL MEM;5de HEBREW LETTER MEM",
    "5df HEBREW LETTER FINAL NUN;5e0 HEBREW LETTER NUN;5e1 HEBREW LETTER SAMEKH",
    "5e2 HEBREW LETTER AYIN;5e3 HEBREW LETTER FINAL PE;5e4 HEBREW LETTER PE",
    "5e5 HEBREW LETTER FINAL TSADI;5e6 HEBREW LETTER TSADI;5e7 HEBREW LETTER QOF",
    "5e8 HEBREW LETTER RESH;5e9 HEBREW LETTER SHIN;5ea HEBREW LETTER TAV;200b ZERO WIDTH SPACE",
    "200b ZWSP;200c ZERO WIDTH NON-JOINER;200c ZWNJ;200d ZERO WIDTH JOINER;200d ZWJ;2010 HYPHEN",
    "2011 NON-BREAKING HYPHEN;2012 FIGURE DASH;2013 EN DASH;2014 EM DASH;2015 HORIZONTAL BAR",
    "2016 DOUBLE VERTICAL LINE;2017 DOUBLE LOW LINE;2018 LEFT SINGLE QUOTATION MARK",
    "2019 RIGHT SINGLE QUOTATION MARK;201a SINGLE LOW-9 QUOTATION MARK",
    "201b SINGLE HIGH-REVERSED-9 QUOTATION MARK;201c LEFT DOUBLE QUOTATION MARK",
    "201d RIGHT DOUBLE QUOTATION MARK;201e DOUBLE LOW-9 QUOTATION MARK",
    "201f DOUBLE HIGH-REVERSED-9 QUOTATION MARK;2020 DAGGER;2021 DOUBLE DAGGER;2022 BULLET",
    "2023 TRIANGULAR BULLET;2024 ONE DOT LEADER;2025 TWO DOT LEADER;2026 HORIZONTAL ELLIPSIS",
    "2027 HYPHENATION POINT;202f NARROW NO-BREAK SPACE;2030 PER MILLE SIGN",
    "2031 PER TEN THOUSAND SIGN;2032 PRIME;2033 DOUBLE PRIME;2034 TRIPLE PRIME",
    "2035 REVERSED PRIME;2036 REVERSED DOUBLE PRIME;2037 REVERSED TRIPLE PRIME;2038 CARET",
    "2039 SINGLE LEFT-POINTING ANGLE QUOTATION MARK",
    "203a SINGLE RIGHT-POINTING ANGLE QUOTATION MARK;203b REFERENCE MARK",
    "203c DOUBLE EXCLAMATION MARK;203d INTERROBANG;203e OVERLINE;203f UNDERTIE",
    "2040 CHARACTER TIE;2041 CARET INSERTION POINT;2042 ASTERISM;2043 HYPHEN BULLET",
    "2044 FRACTION SLASH;2045 LEFT SQUARE BRACKET WITH QUILL",
    "2046 RIGHT SQUARE BRACKET WITH QUILL;2047 DOUBLE QUESTION MARK",
    "2048 QUESTION EXCLAMATION MARK;2049 EXCLAMATION QUESTION MARK;204a TIRONIAN SIGN ET",
    "204b REVERSED PILCROW SIGN;204c BLACK LEFTWARDS BULLET;204d BLACK RIGHTWARDS BULLET",
    "204e LOW ASTERISK;204f REVERSED SEMICOLON;2050 CLOSE UP",
    "2051 TWO ASTERISKS ALIGNED VERTICALLY;2052 COMMERCIAL MINUS SIGN;2053 SWUNG DASH",
    "2054 INVERTED UNDERTIE;2055 FLOWER PUNCTUATION MARK;2056 THREE DOT PUNCTUATION",
    "2057 QUADRUPLE PRIME;2058 FOUR DOT PUNCTUATION;2059 FIVE DOT PUNCTUATION",
    "205a TWO DOT PUNCTUATION;205b FOUR DOT MARK;205c DOTTED CROSS;205d TRICOLON",
    "205e VERTICAL FOUR DOTS;20a0 EURO-CURRENCY SIGN;20a1 COLON SIGN;20a2 CRUZEIRO SIGN",
    "20a3 FRENCH FRANC SIGN;20a4 LIRA SIGN;20a5 MILL SIGN;20a6 NAIRA SIGN;20a7 PESETA SIGN",
    "20a8 RUPEE SIGN;20a9 WON SIGN;20aa NEW SHEQEL SIGN;20ab DONG SIGN;20ac EURO SIGN",
    "20ad KIP SIGN;20ae TUGRIK SIGN;20af DRACHMA SIGN;20b0 GERMAN PENNY SIGN;20b1 PESO SIGN",
    "20b2 GUARANI SIGN;20b3 AUSTRAL SIGN;20b4 HRYVNIA SIGN;20b5 CEDI SIGN",
    "20b6 LIVRE TOURNOIS SIGN;20b7 SPESMILO SIGN;20b8 TENGE SIGN;20b9 INDIAN RUPEE SIGN",
    "20ba TURKISH LIRA SIGN;20bb NORDIC MARK SIGN;20bc MANAT SIGN;20bd RUBLE SIGN;20be LARI SIGN",
    "20bf BITCOIN SIGN;2100 ACCOUNT OF;2101 ADDRESSED TO THE SUBJECT",
    "2102 DOUBLE-STRUCK CAPITAL C;2103 DEGREE CELSIUS;2104 CENTRE LINE SYMBOL;2105 CARE OF",
    "2106 CADA UNA;2107 EULER CONSTANT;2108 SCRUPLE;2109 DEGREE FAHRENHEIT;210a SCRIPT SMALL G",
    "210b SCRIPT CAPITAL H;210c BLACK-LETTER CAPITAL H;210d DOUBLE-STRUCK CAPITAL H",
    "210e PLANCK CONSTANT;210f PLANCK CONSTANT OVER TWO PI;2110 SCRIPT CAPITAL I",
    "2111 BLACK-LETTER CAPITAL I;2112 SCRIPT CAPITAL L;2113 SCRIPT SMALL L;2114 L B BAR SYMBOL",
    "2115 DOUBLE-STRUCK CAPITAL N;2116 NUMERO SIGN;2117 SOUND RECORDING COPYRIGHT",
    "2118 SCRIPT CAPITAL P;2119 DOUBLE-STRUCK CAPITAL P;211a DOUBLE-STRUCK CAPITAL Q",
    "211b SCRIPT CAPITAL R;211c BLACK-LETTER CAPITAL R;211d DOUBLE-STRUCK CAPITAL R",
    "211e PRESCRIPTION TAKE;211f RESPONSE;2120 SERVICE MARK;2121 TELEPHONE SIGN",
    "2122 TRADE MARK SIGN;2123 VERSICLE;2124 DOUBLE-STRUCK CAPITAL Z;2125 OUNCE SIGN",
    "2126 OHM SIGN;2127 INVERTED OHM SIGN;2128 BLACK-LETTER CAPITAL Z",
    "2129 TURNED GREEK SMALL LETTER IOTA;212a KELVIN SIGN;212b ANGSTROM SIGN",
    "212c SCRIPT CAPITAL B;212d BLACK-LETTER CAPITAL C;212e ESTIMATED SYMBOL;212f SCRIPT SMALL E",
    "2130 SCRIPT CAPITAL E;2131 SCRIPT CAPITAL F;2132 TURNED CAPITAL F;2133 SCRIPT CAPITAL M",
    "2134 SCRIPT SMALL O;2135 ALEF SYMBOL;2136 BET SYMBOL;2137 GIMEL SYMBOL;2138 DALET SYMBOL",
    "2139 INFORMATION SOURCE;213a ROTATED CAPITAL Q;213b FACSIMILE SIGN",
    "213c DOUBLE-STRUCK SMALL PI;213d DOUBLE-STRUCK SMALL GAMMA;213e DOUBLE-STRUCK CAPITAL GAMMA",
    "213f DOUBLE-STRUCK CAPITAL PI;2140 DOUBLE-STRUCK N-ARY SUMMATION",
    "2141 TURNED SANS-SERIF CAPITAL G;2142 TURNED SANS-SERIF CAPITAL L",
    "2143 REVERSED SANS-SERIF CAPITAL L;2144 TURNED SANS-SERIF CAPITAL Y",
    "2145 DOUBLE-STRUCK ITALIC CAPITAL D;2146 DOUBLE-STRUCK ITALIC SMALL D",
    "2147 DOUBLE-STRUCK ITALIC SMALL E;2148 DOUBLE-STRUCK ITALIC SMALL I",
    "2149 DOUBLE-STRUCK ITALIC SMALL J;214a PROPERTY LINE;214b TURNED AMPERSAND;214c PER SIGN",
    "214d AKTIESELSKAB;214e TURNED SMALL F;214f SYMBOL FOR SAMARITAN SOURCE;2190 LEFTWARDS ARROW",
    "2191 UPWARDS ARROW;2192 RIGHTWARDS ARROW;2193 DOWNWARDS ARROW;2194 LEFT RIGHT ARROW",
    "2195 UP DOWN ARROW;2196 NORTH WEST ARROW;2197 NORTH EAST ARROW;2198 SOUTH EAST ARROW",
    "2199 SOUTH WEST ARROW;2200 FOR ALL;2201 COMPLEMENT;2202 PARTIAL DIFFERENTIAL",
    "2203 THERE EXISTS;2204 THERE DOES NOT EXIST;2205 EMPTY SET;2206 INCREMENT;2207 NABLA",
    "2208 ELEMENT OF;2209 NOT AN ELEMENT OF;220a SMALL ELEMENT OF;220b CONTAINS AS MEMBER",
    "220c DOES NOT CONTAIN AS MEMBER;220d SMALL CONTAINS AS MEMBER;220e END OF PROOF",
    "220f N-ARY PRODUCT;2211 N-ARY SUMMATION;2212 MINUS SIGN;2213 MINUS-OR-PLUS SIGN",
    "2214 DOT PLUS;2215 DIVISION SLASH;2216 SET MINUS;2217 ASTERISK OPERATOR;2218 RING OPERATOR",
    "2219 BULLET OPERATOR;221a SQUARE ROOT;221b CUBE ROOT;221c FOURTH ROOT;221d PROPORTIONAL TO",
    "221e INFINITY;2260 NOT EQUAL TO;2261 IDENTICAL TO;2262 NOT IDENTICAL TO",
    "2263 STRICTLY EQUIVALENT TO;2264 LESS-THAN OR EQUAL TO;2265 GREATER-THAN OR EQUAL TO",
    "2500 BOX DRAWINGS LIGHT HORIZONTAL;2501 BOX DRAWINGS HEAVY HORIZONTAL",
    "2502 BOX DRAWINGS LIGHT VERTICAL;25a0 BLACK SQUARE;25a1 WHITE SQUARE;25cf BLACK CIRCLE",
    "2600 BLACK SUN WITH RAYS;2601 CLOUD;2602 UMBRELLA;2603 SNOWMAN;2604 COMET;2605 BLACK STAR",
    "2606 WHITE STAR;2610 BALLOT BOX;2611 BALLOT BOX WITH CHECK;2612 BALLOT BOX WITH X",
    "2660 BLACK SPADE SUIT;2661 WHITE HEART SUIT;2662 WHITE DIAMOND SUIT;2663 BLACK CLUB SUIT",
    "2664 WHITE SPADE SUIT;2665 BLACK HEART SUIT;2666 BLACK DIAMOND SUIT;2667 WHITE CLUB SUIT",
    "2713 CHECK MARK;2714 HEAVY CHECK MARK;2715 MULTIPLICATION X;2716 HEAVY MULTIPLICATION X",
    "2717 BALLOT X;2718 HEAVY BALLOT X;3041 HIRAGANA LETTER SMALL A;3042 HIRAGANA LETTER A",
    "3043 HIRAGANA LETTER SMALL I;3044 HIRAGANA LETTER I;3045 HIRAGANA LETTER SMALL U",
    "3046 HIRAGANA LETTER U;3047 HIRAGANA LETTER SMALL E;3048 HIRAGANA LETTER E",
    "3049 HIRAGANA LETTER SMALL O;304a HIRAGANA LETTER O;304b HIRAGANA LETTER KA",
    "304c HIRAGANA LETTER GA;304d HIRAGANA LETTER KI;304e HIRAGANA LETTER GI",
    "304f HIRAGANA LETTER KU;3050 HIRAGANA LETTER GU;3051 HIRAGANA LETTER KE",
    "3052 HIRAGANA LETTER GE;3053 HIRAGANA LETTER KO;3054 HIRAGANA LETTER GO",
    "3055 HIRAGANA LETTER SA;3056 HIRAGANA LETTER ZA;3057 HIRAGANA LETTER SI",
    "3058 HIRAGANA LETTER ZI;3059 HIRAGANA LETTER SU;305a HIRAGANA LETTER ZU",
    "305b HIRAGANA LETTER SE;305c HIRAGANA LETTER ZE;305d HIRAGANA LETTER SO",
    "305e HIRAGANA LETTER ZO;305f HIRAGANA LETTER TA;3060 HIRAGANA LETTER DA",
    "3061 HIRAGANA LETTER TI;3062 HIRAGANA LETTER DI;3063 HIRAGANA LETTER SMALL TU",
    "3064 HIRAGANA LETTER TU;3065 HIRAGANA LETTER DU;3066 HIRAGANA LETTER TE",
    "3067 HIRAGANA LETTER DE;3068 HIRAGANA LETTER TO;3069 HIRAGANA LETTER DO",
    "306a HIRAGANA LETTER NA;306b HIRAGANA LETTER NI;306c HIRAGANA LETTER NU",
    "306d HIRAGANA LETTER NE;306e HIRAGANA LETTER NO;306f HIRAGANA LETTER HA",
    "3070 HIRAGANA LETTER BA;3071 HIRAGANA LETTER PA;3072 HIRAGANA LETTER HI",
    "3073 HIRAGANA LETTER BI;3074 HIRAGANA LETTER PI;3075 HIRAGANA LETTER HU",
    "3076 HIRAGANA LETTER BU;3077 HIRAGANA LETTER PU;3078 HIRAGANA LETTER HE",
    "3079 HIRAGANA LETTER BE;307a HIRAGANA LETTER PE;307b HIRAGANA LETTER HO",
    "307c HIRAGANA LETTER BO;307d HIRAGANA LETTER PO;307e HIRAGANA LETTER MA",
    "307f HIRAGANA LETTER MI;3080 HIRAGANA LETTER MU;3081 HIRAGANA LETTER ME",
    "3082 HIRAGANA LETTER MO;3083 HIRAGANA LETTER SMALL YA;3084 HIRAGANA LETTER YA",
    "3085 HIRAGANA LETTER SMALL YU;3086 HIRAGANA LETTER YU;3087 HIRAGANA LETTER SMALL YO",
    "3088 HIRAGANA LETTER YO;3089 HIRAGANA LETTER RA;308a HIRAGANA LETTER RI",
    "308b HIRAGANA LETTER RU;308c HIRAGANA LETTER RE;308d HIRAGANA LETTER RO",
    "308e HIRAGANA LETTER SMALL WA;308f HIRAGANA LETTER WA;3090 HIRAGANA LETTER WI",
    "3091 HIRAGANA LETTER WE;3092 HIRAGANA LETTER WO;3093 HIRAGANA LETTER N",
    "3094 HIRAGANA LETTER VU;3095 HIRAGANA LETTER SMALL KA;3096 HIRAGANA LETTER SMALL KE",
    "30a1 KATAKANA LETTER SMALL A;30a2 KATAKANA LETTER A;30a3 KATAKANA LETTER SMALL I",
    "30a4 KATAKANA LETTER I;30a5 KATAKANA LETTER SMALL U;30a6 KATAKANA LETTER U",
    "30a7 KATAKANA LETTER SMALL E;30a8 KATAKANA LETTER E;30a9 KATAKANA LETTER SMALL O",
    "30aa KATAKANA LETTER O;30ab KATAKANA LETTER KA;30ac KATAKANA LETTER GA",
    "30ad KATAKANA LETTER KI;30ae KATAKANA LETTER GI;30af KATAKANA LETTER KU",
    "30b0 KATAKANA LETTER GU;30b1 KATAKANA LETTER KE;30b2 KATAKANA LETTER GE",
    "30b3 KATAKANA LETTER KO;30b4 KATAKANA LETTER GO;30b5 KATAKANA LETTER SA",
    "30b6 KATAKANA LETTER ZA;30b7 KATAKANA LETTER SI;30b8 KATAKANA LETTER ZI",
    "30b9 KATAKANA LETTER SU;30ba KATAKANA LETTER ZU;30bb KATAKANA LETTER SE",
    "30bc KATAKANA LETTER ZE;30bd KATAKANA LETTER SO;30be KATAKANA LETTER ZO",
    "30bf KATAKANA LETTER TA;30c0 KATAKANA LETTER DA;30c1 KATAKANA LETTER TI",
    "30c2 KATAKANA LETTER DI;30c3 KATAKANA LETTER SMALL TU;30c4 KATAKANA LETTER TU",
    "30c5 KATAKANA LETTER DU;30c6 KATAKANA LETTER TE;30c7 KATAKANA LETTER DE",
    "30c8 KATAKANA LETTER TO;30c9 KATAKANA LETTER DO;30ca KATAKANA LETTER NA",
    "30cb KATAKANA LETTER NI;30cc KATAKANA LETTER NU;30cd KATAKANA LETTER NE",
    "30ce KATAKANA LETTER NO;30cf KATAKANA LETTER HA;30d0 KATAKANA LETTER BA",
    "30d1 KATAKANA LETTER PA;30d2 KATAKANA LETTER HI;30d3 KATAKANA LETTER BI",
    "30d4 KATAKANA LETTER PI;30d5 KATAKANA LETTER HU;30d6 KATAKANA LETTER BU",
    "30d7 KATAKANA LETTER PU;30d8 KATAKANA LETTER HE;30d9 KATAKANA LETTER BE",
    "30da KATAKANA LETTER PE;30db KATAKANA LETTER HO;30dc KATAKANA LETTER BO",
    "30dd KATAKANA LETTER PO;30de KATAKANA LETTER MA;30df KATAKANA LETTER MI",
    "30e0 KATAKANA LETTER MU;30e1 KATAKANA LETTER ME;30e2 KATAKANA LETTER MO",
    "30e3 KATAKANA LETTER SMALL YA;30e4 KATAKANA LETTER YA;30e5 KATAKANA LETTER SMALL YU",
    "30e6 KATAKANA LETTER YU;30e7 KATAKANA LETTER SMALL YO;30e8 KATAKANA LETTER YO",
    "30e9 KATAKANA LETTER RA;30ea KATAKANA LETTER RI;30eb KATAKANA LETTER RU",
    "30ec KATAKANA LETTER RE;30ed KATAKANA LETTER RO;30ee KATAKANA LETTER SMALL WA",
    "30ef KATAKANA LETTER WA;30f0 KATAKANA LETTER WI;30f1 KATAKANA LETTER WE",
    "30f2 KATAKANA LETTER WO;30f3 KATAKANA LETTER N;30f4 KATAKANA LETTER VU",
    "30f5 KATAKANA LETTER SMALL KA;30f6 KATAKANA LETTER SMALL KE;30f7 KATAKANA LETTER VA",
    "30f8 KATAKANA LETTER VI;30f9 KATAKANA LETTER VE;30fa KATAKANA LETTER VO",
    "feff BYTE ORDER MARK;feff BOM;feff ZWNBSP;feff ZERO WIDTH NO-BREAK SPACE",
    "fffd REPLACEMENT CHARACTER;1f4a9 PILE OF POO;1f600 GRINNING FACE",
    "1f601 GRINNING FACE WITH SMILING EYES;1f602 FACE WITH TEARS OF JOY",
    "1f603 SMILING FACE WITH OPEN MOUTH;1f604 SMILING FACE WITH OPEN MOUTH AND SMILING EYES",
    "1f605 SMILING FACE WITH OPEN MOUTH AND COLD SWEAT",
    "1f606 SMILING FACE WITH OPEN MOUTH AND TIGHTLY-CLOSED EYES;1f607 SMILING FACE WITH HALO",
    "1f608 SMILING FACE WITH HORNS;1f609 WINKING FACE;1f60a SMILING FACE WITH SMILING EYES",
    "1f60b FACE SAVOURING DELICIOUS FOOD;1f60c RELIEVED FACE",
    "1f60d SMILING FACE WITH HEART-SHAPED EYES;1f60e SMILING FACE WITH SUNGLASSES",
    "1f60f SMIRKING FACE;1f610 NEUTRAL FACE;1f611 EXPRESSIONLESS FACE;1f612 UNAMUSED FACE",
    "1f613 FACE WITH COLD SWEAT;1f614 PENSIVE FACE;1f615 CONFUSED FACE;1f616 CONFOUNDED FACE",
    "1f617 KISSING FACE;1f618 FACE THROWING A KISS;1f619 KISSING FACE WITH SMILING EYES",
    "1f61a KISSING FACE WITH CLOSED EYES;1f61b FACE WITH STUCK-OUT TONGUE",
    "1f61c FACE WITH STUCK-OUT TONGUE AND WINKING EYE",
    "1f61d FACE WITH STUCK-OUT TONGUE AND TIGHTLY-CLOSED EYES;1f61e DISAPPOINTED FACE",
    "1f61f WORRIED FACE;1f620 ANGRY FACE;1f621 POUTING FACE;1f622 CRYING FACE",
    "1f623 PERSEVERING FACE;1f624 FACE WITH LOOK OF TRIUMPH;1f625 DISAPPOINTED BUT RELIEVED FACE",
    "1f626 FROWNING FACE WITH OPEN MOUTH;1f627 ANGUISHED FACE;1f628 FEARFUL FACE",
    "1f629 WEARY FACE;1f62a SLEEPY FACE;1f62b TIRED FACE;1f62c GRIMACING FACE",
    "1f62d LOUDLY CRYING FACE;1f62e FACE WITH OPEN MOUTH;1f62f HUSHED FACE",
    "1f630 FACE WITH OPEN MOUTH AND COLD SWEAT;1f631 FACE SCREAMING IN FEAR",
    "1f632 ASTONISHED FACE;1f633 FLUSHED FACE;1f634 SLEEPING FACE;1f635 DIZZY FACE",
    "1f636 FACE WITHOUT MOUTH;1f637 FACE WITH MEDICAL MASK",
    "1f638 GRINNING CAT FACE WITH SMILING EYES;1f639 CAT FACE WITH TEARS OF JOY",
    "1f63a SMILING CAT FACE WITH OPEN MOUTH;1f63b SMILING CAT FACE WITH HEART-SHAPED EYES",
    "1f63c CAT FACE WITH WRY SMILE;1f63d KISSING CAT FACE WITH CLOSED EYES",
    "1f63e POUTING CAT FACE;1f63f CRYING CAT FACE;1f640 WEARY CAT FACE",
    "1f641 SLIGHTLY FROWNING FACE;1f642 SLIGHTLY SMILING FACE;1f643 UPSIDE-DOWN FACE",
    "1f644 FACE WITH ROLLING EYES;1f645 FACE WITH NO GOOD GESTURE;1f646 FACE WITH OK GESTURE",
    "1f647 PERSON BOWING DEEPLY;1f648 SEE-NO-EVIL MONKEY;1f649 HEAR-NO-EVIL MONKEY",
    "1f64a SPEAK-NO-EVIL MONKEY;1f64b HAPPY PERSON RAISING ONE HAND",
    "1f64c PERSON RAISING BOTH HANDS IN CELEBRATION;1f64d PERSON FROWNING",
    "1f64e PERSON WITH POUTING FACE;1f64f PERSON WITH FOLDED HANDS;1f680 ROCKET"]

/-- The capital of an ASCII letter. -/
def upperAscii (c : Char) : Char :=
  if 'a' ≤ c ∧ c ≤ 'z' then Char.ofNat (c.toNat - 32) else c

/-- The code point that an entry of the table gives to a name. -/
def pointIn? (name : List Char) (entry : String) : Option Nat :=
  let (digits, rest) := entry.toList.span (· != ' ')
  if rest = ' ' :: name then
    (digits.mapM (asciiDigit? 16)).map (Numeral.ofDigits 16)
  else none

/-- The code point of the character with a name. -/
def namedPoint? (name : List Char) : Option Nat :=
  (characterNames.flatMap fun line => line.splitOn ";").findSome? (pointIn? (name.map upperAscii))

end BeaconCheck
