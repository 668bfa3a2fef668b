/-!
# Names of characters

The names that Unicode 14 gives to characters, but for those of the unified ideographs and of the
Korean syllables, which are made by rule. Items are separated by semicolons. A plus sign and a code
point say where the names that follow begin; from there on they belong to one code point after the
other. Each name is written as the number of its first characters that are those of the name before
it, in two digits, and the other characters.
-/

namespace Hashmark.Text.Table

/-- The names of the code points from 0 to 10ff. -/
def lowestNames : List String :=
  ["+20;00SPACE;00EXCLAMATION MARK;00QUOTATION MARK;00NUMBER SIGN;00DOLLAR SIGN;00PERCENT SIGN",
   "00AMPERSAND;01POSTROPHE;00LEFT PARENTHESIS;00RIGHT PARENTHESIS;00ASTERISK;00PLUS SIGN;00COMMA",
   "00HYPHEN-MINUS;00FULL STOP;00SOLIDUS;00DIGIT ZERO;06ONE;06TWO;07HREE;06FOUR;07IVE;06SIX;07EVEN",
   "06EIGHT;06NINE;00COLON;00SEMICOLON;00LESS-THAN SIGN;00EQUALS SIGN;00GREATER-THAN SIGN",
   "00QUESTION MARK;00COMMERCIAL AT;00LATIN CAPITAL LETTER A;21B;21C;21D;21E;21F;21G;21H;21I;21J",
   "21K;21L;21M;21N;21O;21P;21Q;21R;21S;21T;21U;21V;21W;21X;21Y;21Z;01EFT SQUARE BRACKET",
   "00REVERSE SOLIDUS;01IGHT SQUARE BRACKET;00CIRCUMFLEX ACCENT;00LOW LINE;00GRAVE ACCENT",
   "00LATIN SMALL LETTER A;19B;19C;19D;19E;19F;19G;19H;19I;19J;19K;19L;19M;19N;19O;19P;19Q;19R;19S",
   "19T;19U;19V;19W;19X;19Y;19Z;01EFT CURLY BRACKET;00VERTICAL LINE;00RIGHT CURLY BRACKET;00TILDE",
   "+a0;00NO-BREAK SPACE;00INVERTED EXCLAMATION MARK;00CENT SIGN;00POUND SIGN;00CURRENCY SIGN",
   "00YEN SIGN;00BROKEN BAR;00SECTION SIGN;00DIAERESIS;00COPYRIGHT SIGN",
   "00FEMININE ORDINAL INDICATOR;00LEFT-POINTING DOUBLE ANGLE QUOTATION MARK;00NOT SIGN",
   "00SOFT HYPHEN;00REGISTERED SIGN;00MACRON;00DEGREE SIGN;00PLUS-MINUS SIGN;00SUPERSCRIPT TWO",
   "13HREE;00ACUTE ACCENT;00MICRO SIGN;00PILCROW SIGN;00MIDDLE DOT;00CEDILLA;00SUPERSCRIPT ONE",
   "00MASCULINE ORDINAL INDICATOR;00RIGHT-POINTING DOUBLE ANGLE QUOTATION MARK",
   "00VULGAR FRACTION ONE QUARTER;20HALF;16THREE QUARTERS;00INVERTED QUESTION MARK",
   "00LATIN CAPITAL LETTER A WITH GRAVE;28ACUTE;28CIRCUMFLEX;28TILDE;28DIAERESIS;28RING ABOVE;22E",
   "21C WITH CEDILLA;21E WITH GRAVE;28ACUTE;28CIRCUMFLEX;28DIAERESIS;21I WITH GRAVE;28ACUTE",
   "28CIRCUMFLEX;28DIAERESIS;21ETH;21N WITH TILDE;21O WITH GRAVE;28ACUTE;28CIRCUMFLEX;28TILDE",
   "28DIAERESIS;00MULTIPLICATION SIGN;00LATIN CAPITAL LETTER O WITH STROKE;21U WITH GRAVE;28ACUTE",
   "28CIRCUMFLEX;28DIAERESIS;21Y WITH ACUTE;21THORN;06SMALL LETTER SHARP S;19A WITH GRAVE;26ACUTE",
   "26CIRCUMFLEX;26TILDE;26DIAERESIS;26RING ABOVE;20E;19C WITH CEDILLA;19E WITH GRAVE;26ACUTE",
   "26CIRCUMFLEX;26DIAERESIS;19I WITH GRAVE;26ACUTE;26CIRCUMFLEX;26DIAERESIS;19ETH;19N WITH TILDE",
   "19O WITH GRAVE;26ACUTE;26CIRCUMFLEX;26TILDE;26DIAERESIS;00DIVISION SIGN",
   "00LATIN SMALL LETTER O WITH STROKE;19U WITH GRAVE;26ACUTE;26CIRCUMFLEX;26DIAERESIS",
   "19Y WITH ACUTE;19THORN;19Y WITH DIAERESIS;06CAPITAL LETTER A WITH MACRON",
   "06SMALL LETTER A WITH MACRON;06CAPITAL LETTER A WITH BREVE;06SMALL LETTER A WITH BREVE",
   "06CAPITAL LETTER A WITH OGONEK;06SMALL LETTER A WITH OGONEK;06CAPITAL LETTER C WITH ACUTE",
   "06SMALL LETTER C WITH ACUTE;06CAPITAL LETTER C WITH CIRCUMFLEX",
   "06SMALL LETTER C WITH CIRCUMFLEX;06CAPITAL LETTER C WITH DOT ABOVE",
   "06SMALL LETTER C WITH DOT ABOVE;06CAPITAL LETTER C WITH CARON;06SMALL LETTER C WITH CARON",
   "06CAPITAL LETTER D WITH CARON;06SMALL LETTER D WITH CARON;06CAPITAL LETTER D WITH STROKE",
   "06SMALL LETTER D WITH STROKE;06CAPITAL LETTER E WITH MACRON;06SMALL LETTER E WITH MACRON",
   "06CAPITAL LETTER E WITH BREVE;06SMALL LETTER E WITH BREVE;06CAPITAL LETTER E WITH DOT ABOVE",
   "06SMALL LETTER E WITH DOT ABOVE;06CAPITAL LETTER E WITH OGONEK;06SMALL LETTER E WITH OGONEK",
   "06CAPITAL LETTER E WITH CARON;06SMALL LETTER E WITH CARON;06CAPITAL LETTER G WITH CIRCUMFLEX",
   "06SMALL LETTER G WITH CIRCUMFLEX;06CAPITAL LETTER G WITH BREVE;06SMALL LETTER G WITH BREVE",
   "06CAPITAL LETTER G WITH DOT ABOVE;06SMALL LETTER G WITH DOT ABOVE",
   "06CAPITAL LETTER G WITH CEDILLA;06SMALL LETTER G WITH CEDILLA",
   "06CAPITAL LETTER H WITH CIRCUMFLEX;06SMALL LETTER H WITH CIRCUMFLEX",
   "06CAPITAL LETTER H WITH STROKE;06SMALL LETTER H WITH STROKE;06CAPITAL LETTER I WITH TILDE",
   "06SMALL LETTER I WITH TILDE;06CAPITAL LETTER I WITH MACRON;06SMALL LETTER I WITH MACRON",
   "06CAPITAL LETTER I WITH BREVE;06SMALL LETTER I WITH BREVE;06CAPITAL LETTER I WITH OGONEK",
   "06SMALL LETTER I WITH OGONEK;06CAPITAL LETTER I WITH DOT ABOVE;06SMALL LETTER DOTLESS I",
   "06CAPITAL LIGATURE IJ;06SMALL LIGATURE IJ;06CAPITAL LETTER J WITH CIRCUMFLEX",
   "06SMALL LETTER J WITH CIRCUMFLEX;06CAPITAL LETTER K WITH CEDILLA;06SMALL LETTER K WITH CEDILLA",
   "20RA;06CAPITAL LETTER L WITH ACUTE;06SMALL LETTER L WITH ACUTE;06CAPITAL LETTER L WITH CEDILLA",
   "06SMALL LETTER L WITH CEDILLA;06CAPITAL LETTER L WITH CARON;06SMALL LETTER L WITH CARON",
   "06CAPITAL LETTER L WITH MIDDLE DOT;06SMALL LETTER L WITH MIDDLE DOT",
   "06CAPITAL LETTER L WITH STROKE;06SMALL LETTER L WITH STROKE;06CAPITAL LETTER N WITH ACUTE",
   "06SMALL LETTER N WITH ACUTE;06CAPITAL LETTER N WITH CEDILLA;06SMALL LETTER N WITH CEDILLA",
   "06CAPITAL LETTER N WITH CARON;06SMALL LETTER N WITH CARON;21PRECEDED BY APOSTROPHE",
   "06CAPITAL LETTER ENG;06SMALL LETTER ENG;06CAPITAL LETTER O WITH MACRON",
   "06SMALL LETTER O WITH MACRON;06CAPITAL LETTER O WITH BREVE;06SMALL LETTER O WITH BREVE",
   "06CAPITAL LETTER O WITH DOUBLE ACUTE;06SMALL LETTER O WITH DOUBLE ACUTE;06CAPITAL LIGATURE OE",
   "06SMALL LIGATURE OE;06CAPITAL LETTER R WITH ACUTE;06SMALL LETTER R WITH ACUTE",
   "06CAPITAL LETTER R WITH CEDILLA;06SMALL LETTER R WITH CEDILLA;06CAPITAL LETTER R WITH CARON",
   "06SMALL LETTER R WITH CARON;06CAPITAL LETTER S WITH ACUTE;06SMALL LETTER S WITH ACUTE",
   "06CAPITAL LETTER S WITH CIRCUMFLEX;06SMALL LETTER S WITH CIRCUMFLEX",
   "06CAPITAL LETTER S WITH CEDILLA;06SMALL LETTER S WITH CEDILLA;06CAPITAL LETTER S WITH CARON",
   "06SMALL LETTER S WITH CARON;06CAPITAL LETTER T WITH CEDILLA;06SMALL LETTER T WITH CEDILLA",
   "06CAPITAL LETTER T WITH CARON;06SMALL LETTER T WITH CARON;06CAPITAL LETTER T WITH STROKE",
   "06SMALL LETTER T WITH STROKE;06CAPITAL LETTER U WITH TILDE;06SMALL LETTER U WITH TILDE",
   "06CAPITAL LETTER U WITH MACRON;06SMALL LETTER U WITH MACRON;06CAPITAL LETTER U WITH BREVE",
   "06SMALL LETTER U WITH BREVE;06CAPITAL LETTER U WITH RING ABOVE",
   "06SMALL LETTER U WITH RING ABOVE;06CAPITAL LETTER U WITH DOUBLE ACUTE",
   "06SMALL LETTER U WITH DOUBLE ACUTE;06CAPITAL LETTER U WITH OGONEK;06SMALL LETTER U WITH OGONEK",
   "06CAPITAL LETTER W WITH CIRCUMFLEX;06SMALL LETTER W WITH CIRCUMFLEX",
   "06CAPITAL LETTER Y WITH CIRCUMFLEX;06SMALL LETTER Y WITH CIRCUMFLEX",
   "06CAPITAL LETTER Y WITH DIAERESIS;21Z WITH ACUTE;06SMALL LETTER Z WITH ACUTE",
   "06CAPITAL LETTER Z WITH DOT ABOVE;06SMALL LETTER Z WITH DOT ABOVE",
   "06CAPITAL LETTER Z WITH CARON;06SMALL LETTER Z WITH CARON;19LONG S;19B WITH STROKE",
   "06CAPITAL LETTER B WITH HOOK;28TOPBAR;06SMALL LETTER B WITH TOPBAR;06CAPITAL LETTER TONE SIX",
   "06SMALL LETTER TONE SIX;06CAPITAL LETTER OPEN O;21C WITH HOOK;06SMALL LETTER C WITH HOOK",
   "06CAPITAL LETTER AFRICAN D;21D WITH HOOK;28TOPBAR;06SMALL LETTER D WITH TOPBAR;19TURNED DELTA",
   "06CAPITAL LETTER REVERSED E;21SCHWA;21OPEN E;21F WITH HOOK;06SMALL LETTER F WITH HOOK",
   "06CAPITAL LETTER G WITH HOOK;22AMMA;06SMALL LETTER HV;06CAPITAL LETTER IOTA;22 WITH STROKE",
   "21K WITH HOOK;06SMALL LETTER K WITH HOOK;19L WITH BAR;20AMBDA WITH STROKE",
   "06CAPITAL LETTER TURNED M;21N WITH LEFT HOOK;06SMALL LETTER N WITH LONG RIGHT LEG",
   "06CAPITAL LETTER O WITH MIDDLE TILDE;28HORN;06SMALL LETTER O WITH HORN;06CAPITAL LETTER OI",
   "06SMALL LETTER OI;06CAPITAL LETTER P WITH HOOK;06SMALL LETTER P WITH HOOK;06LETTER YR",
   "06CAPITAL LETTER TONE TWO;06SMALL LETTER TONE TWO;06CAPITAL LETTER ESH",
   "06LETTER REVERSED ESH LOOP;06SMALL LETTER T WITH PALATAL HOOK;06CAPITAL LETTER T WITH HOOK",
   "06SMALL LETTER T WITH HOOK;06CAPITAL LETTER T WITH RETROFLEX HOOK;21U WITH HORN",
   "06SMALL LETTER U WITH HORN;06CAPITAL LETTER UPSILON;21V WITH HOOK;21Y WITH HOOK",
   "06SMALL LETTER Y WITH HOOK;06CAPITAL LETTER Z WITH STROKE;06SMALL LETTER Z WITH STROKE",
   "06CAPITAL LETTER EZH;24 REVERSED;06SMALL LETTER EZH REVERSED;23WITH TAIL",
   "06LETTER TWO WITH STROKE;06CAPITAL LETTER TONE FIVE;06SMALL LETTER TONE FIVE",
   "06LETTER INVERTED GLOTTAL STOP WITH STROKE;13WYNN;13DENTAL CLICK;13LATERAL CLICK",
   "13ALVEOLAR CLICK;13RETROFLEX CLICK;06CAPITAL LETTER DZ WITH CARON",
   "22 WITH SMALL LETTER Z WITH CARON;06SMALL LETTER DZ WITH CARON;06CAPITAL LETTER LJ",
   "22 WITH SMALL LETTER J;06SMALL LETTER LJ;06CAPITAL LETTER NJ;22 WITH SMALL LETTER J",
   "06SMALL LETTER NJ;06CAPITAL LETTER A WITH CARON;06SMALL LETTER A WITH CARON",
   "06CAPITAL LETTER I WITH CARON;06SMALL LETTER I WITH CARON;06CAPITAL LETTER O WITH CARON",
   "06SMALL LETTER O WITH CARON;06CAPITAL LETTER U WITH CARON;06SMALL LETTER U WITH CARON",
   "06CAPITAL LETTER U WITH DIAERESIS AND MACRON;06SMALL LETTER U WITH DIAERESIS AND MACRON",
   "06CAPITAL LETTER U WITH DIAERESIS AND ACUTE;06SMALL LETTER U WITH DIAERESIS AND ACUTE",
   "06CAPITAL LETTER U WITH DIAERESIS AND CARON;06SMALL LETTER U WITH DIAERESIS AND CARON",
   "06CAPITAL LETTER U WITH DIAERESIS AND GRAVE;06SMALL LETTER U WITH DIAERESIS AND GRAVE",
   "19TURNED E;06CAPITAL LETTER A WITH DIAERESIS AND MACRON",
   "06SMALL LETTER A WITH DIAERESIS AND MACRON;06CAPITAL LETTER A WITH DOT ABOVE AND MACRON",
   "06SMALL LETTER A WITH DOT ABOVE AND MACRON;06CAPITAL LETTER AE WITH MACRON",
   "06SMALL LETTER AE WITH MACRON;06CAPITAL LETTER G WITH STROKE;06SMALL LETTER G WITH STROKE",
   "06CAPITAL LETTER G WITH CARON;06SMALL LETTER G WITH CARON;06CAPITAL LETTER K WITH CARON",
   "06SMALL LETTER K WITH CARON;06CAPITAL LETTER O WITH OGONEK;06SMALL LETTER O WITH OGONEK",
   "06CAPITAL LETTER O WITH OGONEK AND MACRON;06SMALL LETTER O WITH OGONEK AND MACRON",
   "06CAPITAL LETTER EZH WITH CARON;06SMALL LETTER EZH WITH CARON;19J WITH CARON",
   "06CAPITAL LETTER DZ;22 WITH SMALL LETTER Z;06SMALL LETTER DZ;06CAPITAL LETTER G WITH ACUTE",
   "06SMALL LETTER G WITH ACUTE;06CAPITAL LETTER HWAIR;21WYNN;21N WITH GRAVE",
   "06SMALL LETTER N WITH GRAVE;06CAPITAL LETTER A WITH RING ABOVE AND ACUTE",
   "06SMALL LETTER A WITH RING ABOVE AND ACUTE;06CAPITAL LETTER AE WITH ACUTE",
   "06SMALL LETTER AE WITH ACUTE;06CAPITAL LETTER O WITH STROKE AND ACUTE",
   "06SMALL LETTER O WITH STROKE AND ACUTE;06CAPITAL LETTER A WITH DOUBLE GRAVE",
   "06SMALL LETTER A WITH DOUBLE GRAVE;06CAPITAL LETTER A WITH INVERTED BREVE",
   "06SMALL LETTER A WITH INVERTED BREVE;06CAPITAL LETTER E WITH DOUBLE GRAVE",
   "06SMALL LETTER E WITH DOUBLE GRAVE;06CAPITAL LETTER E WITH INVERTED BREVE",
   "06SMALL LETTER E WITH INVERTED BREVE;06CAPITAL LETTER I WITH DOUBLE GRAVE",
   "06SMALL LETTER I WITH DOUBLE GRAVE;06CAPITAL LETTER I WITH INVERTED BREVE",
   "06SMALL LETTER I WITH INVERTED BREVE;06CAPITAL LETTER O WITH DOUBLE GRAVE",
   "06SMALL LETTER O WITH DOUBLE GRAVE;06CAPITAL LETTER O WITH INVERTED BREVE",
   "06SMALL LETTER O WITH INVERTED BREVE;06CAPITAL LETTER R WITH DOUBLE GRAVE",
   "06SMALL LETTER R WITH DOUBLE GRAVE;06CAPITAL LETTER R WITH INVERTED BREVE",
   "06SMALL LETTER R WITH INVERTED BREVE;06CAPITAL LETTER U WITH DOUBLE GRAVE",
   "06SMALL LETTER U WITH DOUBLE GRAVE;06CAPITAL LETTER U WITH INVERTED BREVE",
   "06SMALL LETTER U WITH INVERTED BREVE;06CAPITAL LETTER S WITH COMMA BELOW",
   "06SMALL LETTER S WITH COMMA BELOW;06CAPITAL LETTER T WITH COMMA BELOW",
   "06SMALL LETTER T WITH COMMA BELOW;06CAPITAL LETTER YOGH;06SMALL LETTER YOGH",
   "06CAPITAL LETTER H WITH CARON;06SMALL LETTER H WITH CARON",
   "06CAPITAL LETTER N WITH LONG RIGHT LEG;06SMALL LETTER D WITH CURL;06CAPITAL LETTER OU",
   "06SMALL LETTER OU;06CAPITAL LETTER Z WITH HOOK;06SMALL LETTER Z WITH HOOK",
   "06CAPITAL LETTER A WITH DOT ABOVE;06SMALL LETTER A WITH DOT ABOVE",
   "06CAPITAL LETTER E WITH CEDILLA;06SMALL LETTER E WITH CEDILLA",
   "06CAPITAL LETTER O WITH DIAERESIS AND MACRON;06SMALL LETTER O WITH DIAERESIS AND MACRON",
   "06CAPITAL LETTER O WITH TILDE AND MACRON;06SMALL LETTER O WITH TILDE AND MACRON",
   "06CAPITAL LETTER O WITH DOT ABOVE;06SMALL LETTER O WITH DOT ABOVE",
   "06CAPITAL LETTER O WITH DOT ABOVE AND MACRON;06SMALL LETTER O WITH DOT ABOVE AND MACRON",
   "06CAPITAL LETTER Y WITH MACRON;06SMALL LETTER Y WITH MACRON;19L WITH CURL;19N WITH CURL",
   "19T WITH CURL;19DOTLESS J;20B DIGRAPH;19QP DIGRAPH;06CAPITAL LETTER A WITH STROKE",
   "21C WITH STROKE;06SMALL LETTER C WITH STROKE;06CAPITAL LETTER L WITH BAR",
   "21T WITH DIAGONAL STROKE;06SMALL LETTER S WITH SWASH TAIL;19Z WITH SWASH TAIL",
   "06CAPITAL LETTER GLOTTAL STOP;06SMALL LETTER GLOTTAL STOP;06CAPITAL LETTER B WITH STROKE",
   "21U BAR;21TURNED V;21E WITH STROKE;06SMALL LETTER E WITH STROKE;06CAPITAL LETTER J WITH STROKE",
   "06SMALL LETTER J WITH STROKE;06CAPITAL LETTER SMALL Q WITH HOOK TAIL",
   "06SMALL LETTER Q WITH HOOK TAIL;06CAPITAL LETTER R WITH STROKE;06SMALL LETTER R WITH STROKE",
   "06CAPITAL LETTER Y WITH STROKE;06SMALL LETTER Y WITH STROKE;19TURNED A;19ALPHA;19TURNED ALPHA",
   "19B WITH HOOK;19OPEN O;19C WITH CURL;19D WITH TAIL;26HOOK;19REVERSED E;19SCHWA;24 WITH HOOK",
   "19OPEN E;19REVERSED OPEN E;34 WITH HOOK;19CLOSED REVERSED OPEN E;19DOTLESS J WITH STROKE",
   "19G WITH HOOK;19SCRIPT G;06LETTER SMALL CAPITAL G;06SMALL LETTER GAMMA;19RAMS HORN;19TURNED H",
   "19H WITH HOOK;20ENG WITH HOOK;19I WITH STROKE;20OTA;06LETTER SMALL CAPITAL I",
   "06SMALL LETTER L WITH MIDDLE TILDE;26BELT;26RETROFLEX HOOK;20EZH;19TURNED M;27 WITH LONG LEG",
   "19M WITH HOOK;19N WITH LEFT HOOK;26RETROFLEX HOOK;06LETTER SMALL CAPITAL N",
   "06SMALL LETTER BARRED O;06LETTER SMALL CAPITAL OE;06SMALL LETTER CLOSED OMEGA;19PHI;19TURNED R",
   "27 WITH LONG LEG;33HOOK;19R WITH LONG LEG;26TAIL;26FISHHOOK;20EVERSED R WITH FISHHOOK",
   "06LETTER SMALL CAPITAL R;27INVERTED R;06SMALL LETTER S WITH HOOK;19ESH",
   "19DOTLESS J WITH STROKE AND HOOK;19SQUAT REVERSED ESH;19ESH WITH CURL;19TURNED T",
   "20 WITH RETROFLEX HOOK;19U BAR;20PSILON;19V WITH HOOK;19TURNED V;26W;26Y",
   "06LETTER SMALL CAPITAL Y;06SMALL LETTER Z WITH RETROFLEX HOOK;26CURL;19EZH;22 WITH CURL",
   "06LETTER GLOTTAL STOP;13PHARYNGEAL VOICED FRICATIVE;13INVERTED GLOTTAL STOP;13STRETCHED C",
   "13BILABIAL CLICK;13SMALL CAPITAL B;06SMALL LETTER CLOSED OPEN E",
   "06LETTER SMALL CAPITAL G WITH HOOK;27H;06SMALL LETTER J WITH CROSSED-TAIL;19TURNED K",
   "06LETTER SMALL CAPITAL L;06SMALL LETTER Q WITH HOOK;06LETTER GLOTTAL STOP WITH STROKE",
   "13REVERSED GLOTTAL STOP WITH STROKE;06SMALL LETTER DZ DIGRAPH;20EZH DIGRAPH",
   "20Z DIGRAPH WITH CURL;19TS DIGRAPH;20ESH DIGRAPH;20C DIGRAPH WITH CURL;19FENG DIGRAPH",
   "19LS DIGRAPH;20Z DIGRAPH;06LETTER BILABIAL PERCUSSIVE;15DENTAL PERCUSSIVE",
   "06SMALL LETTER TURNED H WITH FISHHOOK;41 AND TAIL;00MODIFIER LETTER SMALL H;23 WITH HOOK;22J",
   "22R;22TURNED R;30 WITH HOOK;22CAPITAL INVERTED R;22W;22Y;16PRIME;16DOUBLE PRIME;16TURNED COMMA",
   "16APOSTROPHE;16REVERSED COMMA;17IGHT HALF RING;16LEFT HALF RING;16GLOTTAL STOP",
   "16REVERSED GLOTTAL STOP;16LEFT ARROWHEAD;16RIGHT ARROWHEAD;16UP ARROWHEAD;16DOWN ARROWHEAD",
   "16CIRCUMFLEX ACCENT;00CARON;00MODIFIER LETTER VERTICAL LINE;16MACRON;16ACUTE ACCENT",
   "16GRAVE ACCENT;16LOW VERTICAL LINE;20MACRON;20GRAVE ACCENT;20ACUTE ACCENT;16TRIANGULAR COLON",
   "16HALF TRIANGULAR COLON;16CENTRED RIGHT HALF RING;24LEFT HALF RING;16UP TACK;16DOWN TACK",
   "16PLUS SIGN;16MINUS SIGN;00BREVE;00DOT ABOVE;00RING ABOVE;00OGONEK;00SMALL TILDE",
   "00DOUBLE ACUTE ACCENT;00MODIFIER LETTER RHOTIC HOOK;16CROSS ACCENT;16SMALL GAMMA;22L;22S;22X",
   "22REVERSED GLOTTAL STOP;16EXTRA-HIGH TONE BAR;16HIGH TONE BAR;16MID TONE BAR;16LOW TONE BAR",
   "16EXTRA-LOW TONE BAR;16YIN DEPARTING TONE MARK;17ANG DEPARTING TONE MARK;16VOICING",
   "16UNASPIRATED;16DOUBLE APOSTROPHE;16LOW DOWN ARROWHEAD;20UP ARROWHEAD;20LEFT ARROWHEAD",
   "20RIGHT ARROWHEAD;22NG;16MIDDLE GRAVE ACCENT;23DOUBLE GRAVE ACCENT;30ACUTE ACCENT;16LOW TILDE",
   "16RAISED COLON;16BEGIN HIGH TONE;16END HIGH TONE;16BEGIN LOW TONE;16END LOW TONE;16SHELF",
   "16OPEN SHELF;16LOW LEFT ARROW;00COMBINING GRAVE ACCENT;10ACUTE ACCENT;10CIRCUMFLEX ACCENT",
   "10TILDE;10MACRON;10OVERLINE;10BREVE;10DOT ABOVE;11IAERESIS;10HOOK ABOVE;10RING ABOVE",
   "10DOUBLE ACUTE ACCENT;10CARON;10VERTICAL LINE ABOVE;10DOUBLE VERTICAL LINE ABOVE",
   "17GRAVE ACCENT;10CANDRABINDU;10INVERTED BREVE;10TURNED COMMA ABOVE;10COMMA ABOVE",
   "10REVERSED COMMA ABOVE;10COMMA ABOVE RIGHT;10GRAVE ACCENT BELOW;10ACUTE ACCENT BELOW",
   "10LEFT TACK BELOW;10RIGHT TACK BELOW;10LEFT ANGLE ABOVE;10HORN;10LEFT HALF RING BELOW",
   "10UP TACK BELOW;10DOWN TACK BELOW;10PLUS SIGN BELOW;10MINUS SIGN BELOW",
   "10PALATALIZED HOOK BELOW;10RETROFLEX HOOK BELOW;10DOT BELOW;11IAERESIS BELOW;10RING BELOW",
   "10COMMA BELOW;11EDILLA;10OGONEK;10VERTICAL LINE BELOW;10BRIDGE BELOW",
   "10INVERTED DOUBLE ARCH BELOW;10CARON BELOW;11IRCUMFLEX ACCENT BELOW;10BREVE BELOW",
   "10INVERTED BREVE BELOW;10TILDE BELOW;10MACRON BELOW;10LOW LINE;10DOUBLE LOW LINE",
   "10TILDE OVERLAY;10SHORT STROKE OVERLAY;10LONG STROKE OVERLAY;10SHORT SOLIDUS OVERLAY",
   "10LONG SOLIDUS OVERLAY;10RIGHT HALF RING BELOW;10INVERTED BRIDGE BELOW;10SQUARE BELOW",
   "11EAGULL BELOW;10X ABOVE;10VERTICAL TILDE;10DOUBLE OVERLINE;10GRAVE TONE MARK",
   "10ACUTE TONE MARK;10GREEK PERISPOMENI;16KORONIS;16DIALYTIKA TONOS;16YPOGEGRAMMENI",
   "10BRIDGE ABOVE;10EQUALS SIGN BELOW;10DOUBLE VERTICAL LINE BELOW;10LEFT ANGLE BELOW",
   "10NOT TILDE ABOVE;10HOMOTHETIC ABOVE;10ALMOST EQUAL TO ABOVE;10LEFT RIGHT ARROW BELOW",
   "10UPWARDS ARROW BELOW;10GRAPHEME JOINER;10RIGHT ARROWHEAD ABOVE;10LEFT HALF RING ABOVE",
   "10FERMATA;10X BELOW;10LEFT ARROWHEAD BELOW;10RIGHT ARROWHEAD BELOW;26AND UP ARROWHEAD BELOW",
   "16HALF RING ABOVE;10DOT ABOVE RIGHT;10ASTERISK BELOW;10DOUBLE RING BELOW;10ZIGZAG ABOVE",
   "10DOUBLE BREVE BELOW;22;17MACRON;23 BELOW;17TILDE;17INVERTED BREVE;17RIGHTWARDS ARROW BELOW",
   "10LATIN SMALL LETTER A;29E;29I;29O;29U;29C;29D;29H;29M;29R;29T;29V;29X",
   "00GREEK CAPITAL LETTER HETA;06SMALL LETTER HETA;06CAPITAL LETTER ARCHAIC SAMPI",
   "06SMALL LETTER ARCHAIC SAMPI;06NUMERAL SIGN;06LOWER NUMERAL SIGN",
   "06CAPITAL LETTER PAMPHYLIAN DIGAMMA;06SMALL LETTER PAMPHYLIAN DIGAMMA;+37a;06YPOGEGRAMMENI",
   "06SMALL REVERSED LUNATE SIGMA SYMBOL;12DOTTED LUNATE SIGMA SYMBOL",
   "12REVERSED DOTTED LUNATE SIGMA SYMBOL;06QUESTION MARK;06CAPITAL LETTER YOT;+384;06TONOS",
   "06DIALYTIKA TONOS;06CAPITAL LETTER ALPHA WITH TONOS;06ANO TELEIA",
   "06CAPITAL LETTER EPSILON WITH TONOS;22TA WITH TONOS;21IOTA WITH TONOS;+38c",
   "21OMICRON WITH TONOS;+38e;21UPSILON WITH TONOS;21OMEGA WITH TONOS",
   "06SMALL LETTER IOTA WITH DIALYTIKA AND TONOS;06CAPITAL LETTER ALPHA;21BETA;21GAMMA;21DELTA",
   "21EPSILON;21ZETA;21ETA;21THETA;21IOTA;21KAPPA;21LAMDA;21MU;21NU;21XI;21OMICRON;21PI;21RHO;+3a3",
   "21SIGMA;21TAU;21UPSILON;21PHI;21CHI;21PSI;21OMEGA;21IOTA WITH DIALYTIKA",
   "21UPSILON WITH DIALYTIKA;06SMALL LETTER ALPHA WITH TONOS;19EPSILON WITH TONOS;20TA WITH TONOS",
   "19IOTA WITH TONOS;19UPSILON WITH DIALYTIKA AND TONOS;19ALPHA;19BETA;19GAMMA;19DELTA;19EPSILON",
   "19ZETA;19ETA;19THETA;19IOTA;19KAPPA;19LAMDA;19MU;19NU;19XI;19OMICRON;19PI;19RHO;19FINAL SIGMA",
   "19SIGMA;19TAU;19UPSILON;19PHI;19CHI;19PSI;19OMEGA;19IOTA WITH DIALYTIKA",
   "19UPSILON WITH DIALYTIKA;19OMICRON WITH TONOS;19UPSILON WITH TONOS;19OMEGA WITH TONOS",
   "06CAPITAL KAI SYMBOL;06BETA SYMBOL;06THETA SYMBOL;06UPSILON WITH HOOK SYMBOL",
   "19ACUTE AND HOOK SYMBOL;19DIAERESIS AND HOOK SYMBOL;06PHI SYMBOL;07I SYMBOL;06KAI SYMBOL",
   "06LETTER ARCHAIC KOPPA;06SMALL LETTER ARCHAIC KOPPA;06LETTER STIGMA;06SMALL LETTER STIGMA",
   "06LETTER DIGAMMA;06SMALL LETTER DIGAMMA;06LETTER KOPPA;06SMALL LETTER KOPPA;06LETTER SAMPI",
   "06SMALL LETTER SAMPI;00COPTIC CAPITAL LETTER SHEI;07SMALL LETTER SHEI;07CAPITAL LETTER FEI",
   "07SMALL LETTER FEI;07CAPITAL LETTER KHEI;07SMALL LETTER KHEI;07CAPITAL LETTER HORI",
   "07SMALL LETTER HORI;07CAPITAL LETTER GANGIA;07SMALL LETTER GANGIA;07CAPITAL LETTER SHIMA",
   "07SMALL LETTER SHIMA;07CAPITAL LETTER DEI;07SMALL LETTER DEI;00GREEK KAPPA SYMBOL;06RHO SYMBOL",
   "06LUNATE SIGMA SYMBOL;07ETTER YOT;06CAPITAL THETA SYMBOL;06LUNATE EPSILON SYMBOL",
   "06REVERSED LUNATE EPSILON SYMBOL;06CAPITAL LETTER SHO;06SMALL LETTER SHO",
   "06CAPITAL LUNATE SIGMA SYMBOL;15ETTER SAN;06SMALL LETTER SAN;06RHO WITH STROKE SYMBOL",
   "06CAPITAL REVERSED LUNATE SIGMA SYMBOL;14DOTTED LUNATE SIGMA SYMBOL",
   "14REVERSED DOTTED LUNATE SIGMA SYMBOL;00CYRILLIC CAPITAL LETTER IE WITH GRAVE;25O;24DJE;24GJE",
   "24UKRAINIAN IE;24DZE;24BYELORUSSIAN-UKRAINIAN I;24YI;24JE;24LJE;24NJE;24TSHE;24KJE",
   "24I WITH GRAVE;24SHORT U;24DZHE;24A;24BE;24VE;24GHE;24DE;24IE;24ZHE;25E;24I;24SHORT I;24KA",
   "24EL;25M;25N;24O;24PE;24ER;25S;24TE;24U;24EF;24HA;24TSE;24CHE;24SHA;26CHA;24HARD SIGN;24YERU",
   "24SOFT SIGN;24E;24YU;25A;09SMALL LETTER A;22BE;22VE;22GHE;22DE;22IE;22ZHE;23E;22I;22SHORT I",
   "22KA;22EL;23M;23N;22O;22PE;22ER;23S;22TE;22U;22EF;22HA;22TSE;22CHE;22SHA;24CHA;22HARD SIGN",
   "22YERU;22SOFT SIGN;22E;22YU;23A;22IE WITH GRAVE;23O;22DJE;22GJE;22UKRAINIAN IE;22DZE",
   "22BYELORUSSIAN-UKRAINIAN I;22YI;22JE;22LJE;22NJE;22TSHE;22KJE;22I WITH GRAVE;22SHORT U;22DZHE",
   "09CAPITAL LETTER OMEGA;09SMALL LETTER OMEGA;09CAPITAL LETTER YAT;09SMALL LETTER YAT",
   "09CAPITAL LETTER IOTIFIED E;09SMALL LETTER IOTIFIED E;09CAPITAL LETTER LITTLE YUS",
   "09SMALL LETTER LITTLE YUS;09CAPITAL LETTER IOTIFIED LITTLE YUS",
   "09SMALL LETTER IOTIFIED LITTLE YUS;09CAPITAL LETTER BIG YUS;09SMALL LETTER BIG YUS",
   "09CAPITAL LETTER IOTIFIED BIG YUS;09SMALL LETTER IOTIFIED BIG YUS;09CAPITAL LETTER KSI",
   "09SMALL LETTER KSI;09CAPITAL LETTER PSI;09SMALL LETTER PSI;09CAPITAL LETTER FITA",
   "09SMALL LETTER FITA;09CAPITAL LETTER IZHITSA;09SMALL LETTER IZHITSA",
   "09CAPITAL LETTER IZHITSA WITH DOUBLE GRAVE ACCENT",
   "09SMALL LETTER IZHITSA WITH DOUBLE GRAVE ACCENT;09CAPITAL LETTER UK;09SMALL LETTER UK",
   "09CAPITAL LETTER ROUND OMEGA;09SMALL LETTER ROUND OMEGA;09CAPITAL LETTER OMEGA WITH TITLO",
   "09SMALL LETTER OMEGA WITH TITLO;09CAPITAL LETTER OT;09SMALL LETTER OT;09CAPITAL LETTER KOPPA",
   "09SMALL LETTER KOPPA;09THOUSANDS SIGN;01OMBINING CYRILLIC TITLO;19PALATALIZATION",
   "19DASIA PNEUMATA;19PSILI PNEUMATA;20OKRYTIE;19HUNDRED THOUSANDS SIGN;19MILLIONS SIGN",
   "01YRILLIC CAPITAL LETTER SHORT I WITH TAIL;09SMALL LETTER SHORT I WITH TAIL",
   "09CAPITAL LETTER SEMISOFT SIGN;09SMALL LETTER SEMISOFT SIGN;09CAPITAL LETTER ER WITH TICK",
   "09SMALL LETTER ER WITH TICK;09CAPITAL LETTER GHE WITH UPTURN;09SMALL LETTER GHE WITH UPTURN",
   "09CAPITAL LETTER GHE WITH STROKE;09SMALL LETTER GHE WITH STROKE",
   "09CAPITAL LETTER GHE WITH MIDDLE HOOK;09SMALL LETTER GHE WITH MIDDLE HOOK",
   "09CAPITAL LETTER ZHE WITH DESCENDER;09SMALL LETTER ZHE WITH DESCENDER",
   "09CAPITAL LETTER ZE WITH DESCENDER;09SMALL LETTER ZE WITH DESCENDER",
   "09CAPITAL LETTER KA WITH DESCENDER;09SMALL LETTER KA WITH DESCENDER",
   "09CAPITAL LETTER KA WITH VERTICAL STROKE;09SMALL LETTER KA WITH VERTICAL STROKE",
   "09CAPITAL LETTER KA WITH STROKE;09SMALL LETTER KA WITH STROKE;09CAPITAL LETTER BASHKIR KA",
   "09SMALL LETTER BASHKIR KA;09CAPITAL LETTER EN WITH DESCENDER;09SMALL LETTER EN WITH DESCENDER",
   "09CAPITAL LIGATURE EN GHE;09SMALL LIGATURE EN GHE;09CAPITAL LETTER PE WITH MIDDLE HOOK",
   "09SMALL LETTER PE WITH MIDDLE HOOK;09CAPITAL LETTER ABKHASIAN HA;09SMALL LETTER ABKHASIAN HA",
   "09CAPITAL LETTER ES WITH DESCENDER;09SMALL LETTER ES WITH DESCENDER",
   "09CAPITAL LETTER TE WITH DESCENDER;09SMALL LETTER TE WITH DESCENDER",
   "09CAPITAL LETTER STRAIGHT U;09SMALL LETTER STRAIGHT U;09CAPITAL LETTER STRAIGHT U WITH STROKE",
   "09SMALL LETTER STRAIGHT U WITH STROKE;09CAPITAL LETTER HA WITH DESCENDER",
   "09SMALL LETTER HA WITH DESCENDER;09CAPITAL LIGATURE TE TSE;09SMALL LIGATURE TE TSE",
   "09CAPITAL LETTER CHE WITH DESCENDER;09SMALL LETTER CHE WITH DESCENDER",
   "09CAPITAL LETTER CHE WITH VERTICAL STROKE;09SMALL LETTER CHE WITH VERTICAL STROKE",
   "09CAPITAL LETTER SHHA;09SMALL LETTER SHHA;09CAPITAL LETTER ABKHASIAN CHE",
   "09SMALL LETTER ABKHASIAN CHE;09CAPITAL LETTER ABKHASIAN CHE WITH DESCENDER",
   "09SMALL LETTER ABKHASIAN CHE WITH DESCENDER;09LETTER PALOCHKA;09CAPITAL LETTER ZHE WITH BREVE",
   "09SMALL LETTER ZHE WITH BREVE;09CAPITAL LETTER KA WITH HOOK;09SMALL LETTER KA WITH HOOK",
   "09CAPITAL LETTER EL WITH TAIL;09SMALL LETTER EL WITH TAIL;09CAPITAL LETTER EN WITH HOOK",
   "09SMALL LETTER EN WITH HOOK;09CAPITAL LETTER EN WITH TAIL;09SMALL LETTER EN WITH TAIL",
   "09CAPITAL LETTER KHAKASSIAN CHE;09SMALL LETTER KHAKASSIAN CHE;09CAPITAL LETTER EM WITH TAIL",
   "09SMALL LETTER EM WITH TAIL;22PALOCHKA;09CAPITAL LETTER A WITH BREVE",
   "09SMALL LETTER A WITH BREVE;09CAPITAL LETTER A WITH DIAERESIS;09SMALL LETTER A WITH DIAERESIS",
   "09CAPITAL LIGATURE A IE;09SMALL LIGATURE A IE;09CAPITAL LETTER IE WITH BREVE",
   "09SMALL LETTER IE WITH BREVE;09CAPITAL LETTER SCHWA;09SMALL LETTER SCHWA",
   "09CAPITAL LETTER SCHWA WITH DIAERESIS;09SMALL LETTER SCHWA WITH DIAERESIS",
   "09CAPITAL LETTER ZHE WITH DIAERESIS;09SMALL LETTER ZHE WITH DIAERESIS",
   "09CAPITAL LETTER ZE WITH DIAERESIS;09SMALL LETTER ZE WITH DIAERESIS",
   "09CAPITAL LETTER ABKHASIAN DZE;09SMALL LETTER ABKHASIAN DZE;09CAPITAL LETTER I WITH MACRON",
   "09SMALL LETTER I WITH MACRON;09CAPITAL LETTER I WITH DIAERESIS;09SMALL LETTER I WITH DIAERESIS",
   "09CAPITAL LETTER O WITH DIAERESIS;09SMALL LETTER O WITH DIAERESIS;09CAPITAL LETTER BARRED O",
   "09SMALL LETTER BARRED O;09CAPITAL LETTER BARRED O WITH DIAERESIS",
   "09SMALL LETTER BARRED O WITH DIAERESIS;09CAPITAL LETTER E WITH DIAERESIS",
   "09SMALL LETTER E WITH DIAERESIS;09CAPITAL LETTER U WITH MACRON;09SMALL LETTER U WITH MACRON",
   "09CAPITAL LETTER U WITH DIAERESIS;09SMALL LETTER U WITH DIAERESIS",
   "09CAPITAL LETTER U WITH DOUBLE ACUTE;09SMALL LETTER U WITH DOUBLE ACUTE",
   "09CAPITAL LETTER CHE WITH DIAERESIS;09SMALL LETTER CHE WITH DIAERESIS",
   "09CAPITAL LETTER GHE WITH DESCENDER;09SMALL LETTER GHE WITH DESCENDER",
   "09CAPITAL LETTER YERU WITH DIAERESIS;09SMALL LETTER YERU WITH DIAERESIS",
   "09CAPITAL LETTER GHE WITH STROKE AND HOOK;09SMALL LETTER GHE WITH STROKE AND HOOK",
   "09CAPITAL LETTER HA WITH HOOK;09SMALL LETTER HA WITH HOOK;09CAPITAL LETTER HA WITH STROKE",
   "09SMALL LETTER HA WITH STROKE;09CAPITAL LETTER KOMI DE;09SMALL LETTER KOMI DE",
   "09CAPITAL LETTER KOMI DJE;09SMALL LETTER KOMI DJE;09CAPITAL LETTER KOMI ZJE",
   "09SMALL LETTER KOMI ZJE;09CAPITAL LETTER KOMI DZJE;09SMALL LETTER KOMI DZJE",
   "09CAPITAL LETTER KOMI LJE;09SMALL LETTER KOMI LJE;09CAPITAL LETTER KOMI NJE",
   "09SMALL LETTER KOMI NJE;09CAPITAL LETTER KOMI SJE;09SMALL LETTER KOMI SJE",
   "09CAPITAL LETTER KOMI TJE;09SMALL LETTER KOMI TJE;09CAPITAL LETTER REVERSED ZE",
   "09SMALL LETTER REVERSED ZE;09CAPITAL LETTER EL WITH HOOK;09SMALL LETTER EL WITH HOOK",
   "09CAPITAL LETTER LHA;09SMALL LETTER LHA;09CAPITAL LETTER RHA;09SMALL LETTER RHA",
   "09CAPITAL LETTER YAE;09SMALL LETTER YAE;09CAPITAL LETTER QA;09SMALL LETTER QA",
   "09CAPITAL LETTER WE;09SMALL LETTER WE;09CAPITAL LETTER ALEUT KA;09SMALL LETTER ALEUT KA",
   "09CAPITAL LETTER EL WITH MIDDLE HOOK;09SMALL LETTER EL WITH MIDDLE HOOK",
   "09CAPITAL LETTER EN WITH MIDDLE HOOK;09SMALL LETTER EN WITH MIDDLE HOOK",
   "09CAPITAL LETTER PE WITH DESCENDER;09SMALL LETTER PE WITH DESCENDER",
   "09CAPITAL LETTER SHHA WITH DESCENDER;09SMALL LETTER SHHA WITH DESCENDER",
   "09CAPITAL LETTER EN WITH LEFT HOOK;09SMALL LETTER EN WITH LEFT HOOK;09CAPITAL LETTER DZZHE",
   "09SMALL LETTER DZZHE;09CAPITAL LETTER DCHE;09SMALL LETTER DCHE",
   "09CAPITAL LETTER EL WITH DESCENDER;09SMALL LETTER EL WITH DESCENDER;+531",
   "00ARMENIAN CAPITAL LETTER AYB;24BEN;24GIM;24DA;24ECH;24ZA;24EH;25T;24TO;24ZHE;24INI;24LIWN",
   "24XEH;24CA;24KEN;24HO;24JA;24GHAD;24CHEH;24MEN;24YI;24NOW;24SHA;24VO;24CHA;24PEH;24JHEH;24RA",
   "24SEH;24VEW;24TIWN;24REH;24CO;24YIWN;24PIWR;24KEH;24OH;24FEH;+559",
   "09MODIFIER LETTER LEFT HALF RING;09APOSTROPHE;09EMPHASIS MARK;10XCLAMATION MARK;09COMMA",
   "09QUESTION MARK;09ABBREVIATION MARK;09SMALL LETTER TURNED AYB;22AYB;22BEN;22GIM;22DA;22ECH",
   "22ZA;22EH;23T;22TO;22ZHE;22INI;22LIWN;22XEH;22CA;22KEN;22HO;22JA;22GHAD;22CHEH;22MEN;22YI",
   "22NOW;22SHA;22VO;22CHA;22PEH;22JHEH;22RA;22SEH;22VEW;22TIWN;22REH;22CO;22YIWN;22PIWR;22KEH",
   "22OH;22FEH;16IGATURE ECH YIWN;16ETTER YI WITH STROKE;09FULL STOP;09HYPHEN;+58d",
   "00RIGHT-FACING ARMENIAN ETERNITY SIGN;00LEFT-FACING ARMENIAN ETERNITY SIGN",
   "00ARMENIAN DRAM SIGN;+591;00HEBREW ACCENT ETNAHTA;14SEGOL;15HALSHELET;14ZAQEF QATAN;20GADOL",
   "14TIPEHA;14REVIA;14ZARQA;14PASHTA;14YETIV;14TEVIR;14GERESH;20 MUQDAM;17SHAYIM;14QARNEY PARA",
   "14TELISHA GEDOLA;14PAZER;14ATNAH HAFUKH;14MUNAH;15AHAPAKH;15ERKHA;20 KEFULA;14DARGA;14QADMA",
   "14TELISHA QETANA;14YERAH BEN YOMO;14OLE;14ILUY;14DEHI;14ZINOR;07MARK MASORA CIRCLE",
   "07POINT SHEVA;13HATAF SEGOL;19PATAH;19QAMATS;14IRIQ;13TSERE;13SEGOL;13PATAH;13QAMATS;13HOLAM",
   "18 HASER FOR VAV;13QUBUTS;13DAGESH OR MAPIQ;13METEG;08UNCTUATION MAQAF;08OINT RAFE",
   "08UNCTUATION PASEQ;08OINT SHIN DOT;14IN DOT;08UNCTUATION SOF PASUQ;07MARK UPPER DOT",
   "12LOWER DOT;07PUNCTUATION NUN HAFUKHA;08OINT QAMATS QATAN;+5d0;07LETTER ALEF;14BET;14GIMEL",
   "14DALET;14HE;14VAV;14ZAYIN;14HET;14TET;14YOD;14FINAL KAF;14KAF;14LAMED;14FINAL MEM;14MEM",
   "14FINAL NUN;14NUN;14SAMEKH;14AYIN;14FINAL PE;14PE;14FINAL TSADI;14TSADI;14QOF;14RESH;14SHIN",
   "14TAV;+5ef;07YOD TRIANGLE;07LIGATURE YIDDISH DOUBLE VAV;24VAV YOD;24DOUBLE YOD",
   "07PUNCTUATION GERESH;22SHAYIM;+600;00ARABIC NUMBER SIGN;07SIGN SANAH;07FOOTNOTE MARKER",
   "07SIGN SAFHA;14MVAT;07NUMBER MARK ABOVE;06-INDIC CUBE ROOT;13FOURTH ROOT;06 RAY",
   "06-INDIC PER MILLE SIGN;17TEN THOUSAND SIGN;01FGHANI SIGN;01RABIC COMMA;07DATE SEPARATOR",
   "07POETIC VERSE SIGN;07SIGN MISRA;12SALLALLAHOU ALAYHE WASSALLAM;12ALAYHE ASSALLAM",
   "12RAHMATULLAH ALAYHE;14DI ALLAHOU ANHU;12TAKHALLUS;08MALL HIGH TAH",
   "18LIGATURE ALEF WITH LAM WITH YEH;18ZAIN;13FATHA;13DAMMA;13KASRA;08EMICOLON;07LETTER MARK",
   "07END OF TEXT MARK;07TRIPLE DOT PUNCTUATION MARK;07QUESTION MARK;07LETTER KASHMIRI YEH;14HAMZA",
   "14ALEF WITH MADDA ABOVE;24HAMZA ABOVE;14WAW WITH HAMZA ABOVE;14ALEF WITH HAMZA BELOW",
   "14YEH WITH HAMZA ABOVE;14ALEF;14BEH;14TEH MARBUTA;17;15HEH;14JEEM;14HAH;14KHAH;14DAL;14THAL",
   "14REH;14ZAIN;14SEEN;15HEEN;15AD;14DAD;14TAH;14ZAH;14AIN;14GHAIN;14KEHEH WITH TWO DOTS ABOVE",
   "26HREE DOTS BELOW;14FARSI YEH WITH INVERTED V;29TWO DOTS ABOVE;30HREE DOTS ABOVE;07TATWEEL",
   "07LETTER FEH;14QAF;14KAF;14LAM;14MEEM;14NOON;14HEH;14WAW;14ALEF MAKSURA;14YEH;07FATHATAN",
   "07DAMMATAN;07KASRATAN;07FATHA;07DAMMA;07KASRA;07SHADDA;08UKUN;07MADDAH ABOVE;07HAMZA ABOVE",
   "13BELOW;07SUBSCRIPT ALEF;07INVERTED DAMMA;07MARK NOON GHUNNA;07ZWARAKAY",
   "07VOWEL SIGN SMALL V ABOVE;18INVERTED SMALL V ABOVE;18DOT BELOW;07REVERSED DAMMA",
   "07FATHA WITH TWO DOTS;07WAVY HAMZA BELOW;06-INDIC DIGIT ZERO;19ONE;19TWO;20HREE;19FOUR;20IVE",
   "19SIX;20EVEN;19EIGHT;19NINE;06 PERCENT SIGN;07DECIMAL SEPARATOR;07THOUSANDS SEPARATOR",
   "07FIVE POINTED STAR;07LETTER DOTLESS BEH;22QAF;14SUPERSCRIPT ALEF;14ALEF WASLA",
   "20ITH WAVY HAMZA ABOVE;35BELOW;14HIGH HAMZA;24 ALEF;25WAW;14U WITH HAMZA ABOVE",
   "14HIGH HAMZA YEH;14TTEH;18EH;14BEEH;14TEH WITH RING;23THREE DOTS ABOVE DOWNWARDS;14PEH;14TEHEH",
   "14BEHEH;14HAH WITH HAMZA ABOVE;23TWO DOTS VERTICAL ABOVE;14NYEH;14DYEH",
   "14HAH WITH THREE DOTS ABOVE;14TCHEH;19EH;14DDAL;15AL WITH RING;23DOT BELOW;32 AND SMALL TAH",
   "16HAL;15DAHAL;15UL;15AL WITH THREE DOTS ABOVE DOWNWARDS;23FOUR DOTS ABOVE;14RREH",
   "15EH WITH SMALL V;23RING;23DOT BELOW;23SMALL V BELOW;23DOT BELOW AND DOT ABOVE",
   "23TWO DOTS ABOVE;14JEH;14REH WITH FOUR DOTS ABOVE;14SEEN WITH DOT BELOW AND DOT ABOVE",
   "24THREE DOTS BELOW;40 AND THREE DOTS ABOVE;15AD WITH TWO DOTS BELOW;24HREE DOTS ABOVE",
   "14TAH WITH THREE DOTS ABOVE;14AIN WITH THREE DOTS ABOVE;14DOTLESS FEH",
   "14FEH WITH DOT MOVED BELOW;27BELOW;14VEH;14FEH WITH THREE DOTS BELOW;14PEHEH",
   "14QAF WITH DOT ABOVE;23THREE DOTS ABOVE;14KEHEH;14SWASH KAF;14KAF WITH RING;23DOT ABOVE;14NG",
   "14KAF WITH THREE DOTS BELOW;14GAF;17 WITH RING;14NGOEH;14GAF WITH TWO DOTS BELOW;15UEH",
   "15AF WITH THREE DOTS ABOVE;14LAM WITH SMALL V;23DOT ABOVE;23THREE DOTS ABOVE;34BELOW",
   "14NOON WITH DOT BELOW;19GHUNNA;14RNOON;14NOON WITH RING;24THREE DOTS ABOVE;14HEH DOACHASHMEE",
   "14TCHEH WITH DOT ABOVE;14HEH WITH YEH ABOVE;18GOAL;22 WITH HAMZA ABOVE;14TEH MARBUTA GOAL",
   "14WAW WITH RING;14KIRGHIZ OE;14OE;14U;14YU;14KIRGHIZ YU;14WAW WITH TWO DOTS ABOVE;14VE",
   "14FARSI YEH;14YEH WITH TAIL;23SMALL V;14WAW WITH DOT ABOVE;14E;14YEH WITH THREE DOTS BELOW",
   "18BARREE;24 WITH HAMZA ABOVE;07FULL STOP;07LETTER AE",
   "07SMALL HIGH LIGATURE SAD WITH LAM WITH ALEF MAKSURA;27QAF WITH LAM WITH ALEF MAKSURA",
   "18MEEM INITIAL FORM;18LAM ALEF;18JEEM;18THREE DOTS;18SEEN;07END OF AYAH;07START OF RUB EL HIZB",
   "08MALL HIGH ROUNDED ZERO;18UPRIGHT RECTANGULAR ZERO;18DOTLESS HEAD OF KHAH",
   "18MEEM ISOLATED FORM;13LOW SEEN;13HIGH MADDA;13WAW;13YEH;13HIGH YEH;18NOON;07PLACE OF SAJDAH",
   "07EMPTY CENTRE LOW STOP;20HIGH STOP;07ROUNDED HIGH STOP WITH FILLED CENTRE;07SMALL LOW MEEM",
   "07LETTER DAL WITH INVERTED V;14REH WITH INVERTED V;00EXTENDED ARABIC-INDIC DIGIT ZERO;28ONE",
   "28TWO;29HREE;28FOUR;29IVE;28SIX;29EVEN;28EIGHT;28NINE;00ARABIC LETTER SHEEN WITH DOT BELOW",
   "14DAD WITH DOT BELOW;14GHAIN WITH DOT BELOW;07SIGN SINDHI AMPERSAND;19POSTPOSITION MEN",
   "07LETTER HEH WITH INVERTED V;00SYRIAC END OF PARAGRAPH;07SUPRALINEAR FULL STOP",
   "09BLINEAR FULL STOP;09PRALINEAR COLON;09BLINEAR COLON;07HORIZONTAL COLON;07COLON SKEWED LEFT",
   "20RIGHT;07SUPRALINEAR COLON SKEWED LEFT;09BLINEAR COLON SKEWED RIGHT;07CONTRACTION",
   "07HARKLEAN OBELUS;16METOBELUS;16ASTERISCUS;+70f;07ABBREVIATION MARK;07LETTER ALAPH",
   "14SUPERSCRIPT ALAPH;14BETH;14GAMAL;19 GARSHUNI;14DALATH;15OTLESS DALATH RISH;14HE;14WAW;14ZAIN",
   "14HETH;14TETH;18 GARSHUNI;14YUDH;18 HE;14KAPH;14LAMADH;14MIM;14NUN;14SEMKATH;14FINAL SEMKATH",
   "14E;14PE;14REVERSED PE;14SADHE;14QAPH;14RISH;14SHIN;14TAW;14PERSIAN BHETH;22GHAMAL;22DHALATH",
   "07PTHAHA ABOVE;14BELOW;14DOTTED;07ZQAPHA ABOVE;14BELOW;14DOTTED;07RBASA ABOVE;13BELOW",
   "07DOTTED ZLAMA HORIZONTAL;20ANGULAR;07HBASA ABOVE;13BELOW;12-ESASA DOTTED;07ESASA ABOVE",
   "13BELOW;07RWAHA;07FEMININE DOT;07QUSHSHAYA;07RUKKAKHA;07TWO VERTICAL DOTS ABOVE;25BELOW",
   "08HREE DOTS ABOVE;18BELOW;07OBLIQUE LINE ABOVE;20BELOW;07MUSIC;07BARREKH;+74d",
   "07LETTER SOGDIAN ZHAIN;22KHAPH;22FE;00ARABIC LETTER BEH WITH THREE DOTS HORIZONTALLY BELOW",
   "23DOT BELOW AND THREE DOTS ABOVE;23THREE DOTS POINTING UPWARDS BELOW;56 AND TWO DOTS ABOVE",
   "24WO DOTS BELOW AND DOT ABOVE;23INVERTED SMALL V BELOW;23SMALL V;14HAH WITH TWO DOTS ABOVE",
   "24HREE DOTS POINTING UPWARDS BELOW;14DAL WITH TWO DOTS VERTICALLY BELOW AND SMALL TAH",
   "23INVERTED SMALL V BELOW;14REH WITH STROKE;14SEEN WITH FOUR DOTS ABOVE",
   "14AIN WITH TWO DOTS ABOVE;24HREE DOTS POINTING DOWNWARDS ABOVE;24WO DOTS VERTICALLY ABOVE",
   "14FEH WITH TWO DOTS BELOW;24HREE DOTS POINTING UPWARDS BELOW;14KEHEH WITH DOT ABOVE",
   "25THREE DOTS ABOVE;36POINTING UPWARDS BELOW;14MEEM WITH DOT ABOVE;28BELOW",
   "14NOON WITH TWO DOTS BELOW;24SMALL TAH;30V;14LAM WITH BAR;14REH WITH TWO DOTS VERTICALLY ABOVE",
   "23HAMZA ABOVE;14SEEN WITH TWO DOTS VERTICALLY ABOVE;14HAH WITH SMALL ARABIC LETTER TAH BELOW",
   "47AND TWO DOTS;14SEEN WITH SMALL ARABIC LETTER TAH AND TWO DOTS",
   "14REH WITH SMALL ARABIC LETTER TAH AND TWO DOTS;14HAH WITH SMALL ARABIC LETTER TAH ABOVE",
   "14ALEF WITH EXTENDED ARABIC-INDIC DIGIT TWO ABOVE;53HREE ABOVE",
   "14FARSI YEH WITH EXTENDED ARABIC-INDIC DIGIT TWO ABOVE;58HREE ABOVE;57FOUR BELOW",
   "14WAW WITH EXTENDED ARABIC-INDIC DIGIT TWO ABOVE;52HREE ABOVE",
   "14YEH BARREE WITH EXTENDED ARABIC-INDIC DIGIT TWO ABOVE;59HREE ABOVE",
   "14HAH WITH EXTENDED ARABIC-INDIC DIGIT FOUR BELOW",
   "14SEEN WITH EXTENDED ARABIC-INDIC DIGIT FOUR ABOVE;24INVERTED V;14KAF WITH TWO DOTS ABOVE",
   "00THAANA LETTER HAA;14SHAVIYANI;14NOONU;14RAA;14BAA;14LHAVIYANI;14KAAFU;14ALIFU;14VAAVU",
   "14MEEMU;14FAAFU;14DHAALU;14THAA;14LAAMU;14GAAFU;15NAVIYANI;14SEENU;14DAVIYANI;14ZAVIYANI",
   "14TAVIYANI;14YAA;14PAVIYANI;14JAVIYANI;14CHAVIYANI;14TTAA;14HHAA;14KHAA;14THAALU;14ZAA",
   "14SHEENU;15AADHU;14DAADHU;14TO;14ZO;14AINU;14GHAINU;14QAAFU;14WAAVU;07ABAFILI;08ABAAFILI",
   "07IBIFILI;07EEBEEFILI;07UBUFILI;07OOBOOFILI;07EBEFILI;08YBEYFILI;07OBOFILI;08ABOAFILI;07SUKUN",
   "07LETTER NAA;+7c0;00NKO DIGIT ZERO;10ONE;10TWO;11HREE;10FOUR;11IVE;10SIX;11EVEN;10EIGHT;10NINE",
   "04LETTER A;11EE;11I;11E;11U;11OO;12;11DAGBASINNA;11N;11BA;11PA;11TA;11JA;11CHA;11DA;11RA;12RA",
   "11SA;11GBA;11FA;11KA;11LA;11NA WOLOSO;11MA;11NYA;12A;11HA;11WA;11YA;11NYA WOLOSO;11JONA JA",
   "16CHA;16RA;04COMBINING SHORT HIGH TONE;20LOW TONE;20RISING TONE;14LONG DESCENDING TONE",
   "19HIGH TONE;19LOW TONE;19RISING TONE;14NASALIZATION MARK;14DOUBLE DOT ABOVE",
   "04HIGH TONE APOSTROPHE;04LOW TONE APOSTROPHE;04SYMBOL OO DENNEN;11GBAKURUNEN;04COMMA",
   "04EXCLAMATION MARK;04LAJANYALAN;+7fd;04DANTAYALAN;05OROME SIGN;04TAMAN SIGN",
   "00SAMARITAN LETTER ALAF;17BIT;17GAMAN;17DALAT;17IY;17BAA;17ZEN;17IT;17TIT;17YUT;17KAAF;17LABAT",
   "17MIM;17NUN;17SINGAAT;17IN;17FI;17TSAADIY;17QUF;17RISH;17SHAN;17TAAF;10MARK IN;17-ALAF",
   "15OCCLUSION;15DAGESH;11ODIFIER LETTER EPENTHETIC YUT;11ARK EPENTHETIC YUT;10VOWEL SIGN LONG E",
   "21E;21OVERLONG AA;21LONG AA;21AA;21OVERLONG A;21LONG A;21A;10MODIFIER LETTER SHORT A",
   "10VOWEL SIGN SHORT A;21LONG U;21U;10MODIFIER LETTER I;10VOWEL SIGN LONG I;21I;21O;21SUKUN",
   "10MARK NEQUDAA;+830;10PUNCTUATION NEQUDAA;22AFSAAQ;23NGED;22BAU;22ATMAAU;22SHIYYAALAA",
   "10ABBREVIATION MARK;10PUNCTUATION MELODIC QITSA;22ZIQAA;22QITSA;22ZAEF;22TURU;22ARKAANU",
   "22SOF MASHFAAT;22ANNAAU;+840;00MANDAIC LETTER HALQA;15AB;16G;16D;16H;15USHENNA;15AZ;15IT;15ATT",
   "16KSA;17;16L;16M;16N;16S;15IN;15AP;16SZ;16Q;16R;16SH;16T;15DUSHENNA;15KAD;15AIN",
   "08AFFRICATION MARK;08VOCALIZATION MARK;08GEMINATION MARK;+85e;08PUNCTUATION;+860",
   "00SYRIAC LETTER MALAYALAM NGA;24JA;24NYA;24TTA;24NNA;26NA;24BHA;24RA;24LLA;26LA;24SSA;+870",
   "00ARABIC LETTER ALEF WITH ATTACHED FATHA;33TOP RIGHT FATHA;24RIGHT MIDDLE STROKE",
   "24LEFT MIDDLE STROKE;24ATTACHED KASRA;33BOTTOM RIGHT KASRA;33ROUND DOT ABOVE;34IGHT ROUND DOT",
   "33LEFT ROUND DOT;33ROUND DOT BELOW;24DOT ABOVE;24ATTACHED TOP RIGHT FATHA AND DOT ABOVE",
   "24RIGHT MIDDLE STROKE AND DOT ABOVE;24ATTACHED BOTTOM RIGHT KASRA AND DOT ABOVE",
   "33TOP RIGHT FATHA AND LEFT RING;24RIGHT MIDDLE STROKE AND LEFT RING",
   "24ATTACHED BOTTOM RIGHT KASRA AND LEFT RING;33RIGHT HAMZA;33LEFT HAMZA",
   "07TATWEEL WITH OVERSTRUCK HAMZA;31WAW;20TWO DOTS BELOW;07LETTER THIN YEH;07BASELINE ROUND DOT",
   "07RAISED ROUND DOT;07LETTER NOON WITH INVERTED SMALL V;14HAH WITH INVERTED SMALL V BELOW",
   "14TAH WITH DOT BELOW;23THREE DOTS BELOW;14KEHEH WITH TWO DOTS VERTICALLY BELOW;07VERTICAL TAIL",
   "+890;07POUND MARK ABOVE;08IASTRE MARK ABOVE;+898;07SMALL HIGH WORD AL-JUZ;13LOW WORD ISHMAAM",
   "23MAALA;22TASHEEL;07MADDA WAAJIB;07SUPERSCRIPT ALEF MOKHASSAS;07DOUBLED MADDA",
   "07HALF MADDA OVER MADDA;07LETTER BEH WITH SMALL V BELOW;23HAMZA ABOVE",
   "14JEEM WITH TWO DOTS ABOVE;14TAH WITH TWO DOTS ABOVE;14FEH WITH DOT BELOW AND THREE DOTS ABOVE",
   "14QAF WITH DOT BELOW;14LAM WITH DOUBLE BAR;14MEEM WITH THREE DOTS ABOVE",
   "14YEH WITH TWO DOTS BELOW AND HAMZA ABOVE;42DOT ABOVE;14REH WITH LOOP;14WAW WITH DOT WITHIN",
   "14ROHINGYA YEH;14LOW ALEF;14DAL WITH THREE DOTS BELOW;14SAD WITH THREE DOTS BELOW",
   "14GAF WITH INVERTED STROKE;14STRAIGHT WAW;14ZAIN WITH INVERTED V ABOVE",
   "14AIN WITH THREE DOTS BELOW;14KAF WITH DOT BELOW;14QAF WITH DOT BELOW AND NO DOTS ABOVE",
   "14BEH WITH SMALL MEEM ABOVE;14PEH WITH SMALL MEEM ABOVE;14TEH WITH SMALL TEH ABOVE",
   "14REH WITH SMALL NOON ABOVE;14YEH WITH TWO DOTS BELOW AND SMALL NOON ABOVE;14AFRICAN FEH;22QAF",
   "22NOON;14PEH WITH SMALL V;14TEH WITH SMALL V;15TEH WITH SMALL V;15CHEH WITH SMALL V",
   "14KEHEH WITH SMALL V;14GHAIN WITH THREE DOTS ABOVE;14AFRICAN QAF WITH THREE DOTS ABOVE",
   "14JEEM WITH THREE DOTS ABOVE;35BELOW;14LAM WITH SMALL ARABIC LETTER TAH ABOVE;14GRAF",
   "07SMALL FARSI YEH;13HIGH FARSI YEH;18YEH BARREE WITH TWO DOTS BELOW;18WORD SAH;18ZAH",
   "07LARGE ROUND DOT ABOVE;23BELOW;07SUKUN BELOW;07LARGE CIRCLE BELOW",
   "13ROUND DOT INSIDE CIRCLE BELOW;07SMALL LOW WAW;13HIGH WORD AR-RUB;18SAD;18AIN;18QAF",
   "18NOON WITH KASRA;13LOW NOON WITH KASRA;13HIGH WORD ATH-THALATHA;24S-SAJDA;24N-NISF;23SAKTA",
   "23QIF;23WAQFA;18FOOTNOTE MARKER;18SIGN SAFHA;07DISPUTED END OF AYAH;07TURNED DAMMA BELOW",
   "07CURLY FATHA;13DAMMA;13KASRA;13FATHATAN;13DAMMATAN;13KASRATAN;07TONE ONE DOT ABOVE",
   "12TWO DOTS ABOVE;12LOOP ABOVE;12ONE DOT BELOW;12TWO DOTS BELOW;12LOOP BELOW;07OPEN FATHATAN",
   "12DAMMATAN;12KASRATAN;07SMALL HIGH WAW;07FATHA WITH RING;18DOT ABOVE;07KASRA WITH DOT BELOW",
   "07LEFT ARROWHEAD ABOVE;07RIGHT ARROWHEAD ABOVE;07LEFT ARROWHEAD BELOW;07RIGHT ARROWHEAD BELOW",
   "07DOUBLE RIGHT ARROWHEAD ABOVE;35 WITH DOT;07RIGHT ARROWHEAD ABOVE WITH DOT;07DAMMA WITH DOT",
   "07MARK SIDEWAYS NOON GHUNNA;00DEVANAGARI SIGN INVERTED CANDRABINDU;16CANDRABINDU;16ANUSVARA",
   "16VISARGA;11LETTER SHORT A;18A;19A;18I;19I;18U;19U;18VOCALIC R;26L;18CANDRA E;18SHORT E;18E",
   "18AI;18CANDRA O;18SHORT O;18O;18AU;18KA;19HA;18GA;19HA;18NGA;18CA;19HA;18JA;19HA;18NYA;18TTA",
   "20HA;18DDA;20HA;18NNA;18TA;19HA;18DA;19HA;18NA;19NNA;18PA;19HA;18BA;19HA;18MA;18YA;18RA;19RA",
   "18LA;19LA;20LA;18VA;18SHA;19SA;19A;18HA;11VOWEL SIGN OE;23OE;11SIGN NUKTA;16AVAGRAHA",
   "11VOWEL SIGN AA;22I;23I;22U;23U;22VOCALIC R;31R;22CANDRA E;22SHORT E;22E;22AI;22CANDRA O",
   "22SHORT O;22O;22AU;11SIGN VIRAMA;11VOWEL SIGN PRISHTHAMATRA E;22AW;11OM;11STRESS SIGN UDATTA",
   "23ANUDATTA;11GRAVE ACCENT;11ACUTE ACCENT;11VOWEL SIGN CANDRA LONG E;22UE;23UE;11LETTER QA",
   "18KHHA;18GHHA;18ZA;18DDDHA;18RHA;18FA;18YYA;18VOCALIC RR;26LL;11VOWEL SIGN VOCALIC L;31L",
   "11DANDA;12OUBLE DANDA;12IGIT ZERO;17ONE;17TWO;18HREE;17FOUR;18IVE;17SIX;18EVEN;17EIGHT;17NINE",
   "11ABBREVIATION SIGN;11SIGN HIGH SPACING DOT;11LETTER CANDRA A;18OE;19OE;18AW;18UE;19UE",
   "18MARWARI DDA;18ZHA;18HEAVY YA;18GGA;18JJA;18GLOTTAL STOP;18DDDA;18BBA;00BENGALI ANJI",
   "08SIGN CANDRABINDU;13ANUSVARA;13VISARGA;+985;08LETTER A;16A;15I;16I;15U;16U;15VOCALIC R;23L",
   "+98f;15E;15AI;+993;15O;15AU;15KA;16HA;15GA;16HA;15NGA;15CA;16HA;15JA;16HA;15NYA;15TTA;17HA",
   "15DDA;17HA;15NNA;15TA;16HA;15DA;16HA;15NA;+9aa;15PA;16HA;15BA;16HA;15MA;15YA;15RA;+9b2;15LA",
   "+9b6;15SHA;16SA;16A;15HA;+9bc;08SIGN NUKTA;13AVAGRAHA;08VOWEL SIGN AA;19I;20I;19U;20U",
   "19VOCALIC R;28R;+9c7;19E;19AI;+9cb;19O;19AU;08SIGN VIRAMA;08LETTER KHANDA TA;+9d7",
   "08AU LENGTH MARK;+9dc;08LETTER RRA;16HA;+9df;15YYA;15VOCALIC RR;23LL;08VOWEL SIGN VOCALIC L",
   "28L;+9e6;08DIGIT ZERO;14ONE;14TWO;15HREE;14FOUR;15IVE;14SIX;15EVEN;14EIGHT;14NINE",
   "08LETTER RA WITH MIDDLE DIAGONAL;23LOWER DIAGONAL;08RUPEE MARK;14SIGN;08CURRENCY NUMERATOR ONE",
   "27TWO;28HREE;27FOUR;27ONE LESS THAN THE DENOMINATOR;17DENOMINATOR SIXTEEN;08ISSHAR",
   "08GANDA MARK;08LETTER VEDIC ANUSVARA;08ABBREVIATION SIGN;08SANDHI MARK;+a01",
   "00GURMUKHI SIGN ADAK BINDI;14BINDI;14VISARGA;+a05;09LETTER A;17A;16I;17I;16U;17U;+a0f;16EE",
   "16AI;+a13;16OO;16AU;16KA;17HA;16GA;17HA;16NGA;16CA;17HA;16JA;17HA;16NYA;16TTA;18HA;16DDA;18HA",
   "16NNA;16TA;17HA;16DA;17HA;16NA;+a2a;16PA;17HA;16BA;17HA;16MA;16YA;16RA;+a32;16LA;17LA;+a35",
   "16VA;16SHA;+a38;17A;16HA;+a3c;09SIGN NUKTA;+a3e;09VOWEL SIGN AA;20I;21I;20U;21U;+a47;20EE;20AI",
   "+a4b;20OO;20AU;09SIGN VIRAMA;+a51;14UDAAT;+a59;09LETTER KHHA;16GHHA;16ZA;16RRA;+a5e;16FA;+a66",
   "09DIGIT ZERO;15ONE;15TWO;16HREE;15FOUR;16IVE;15SIX;16EVEN;15EIGHT;15NINE;09TIPPI;09ADDAK;09IRI",
   "09URA;09EK ONKAR;09SIGN YAKASH;09ABBREVIATION SIGN;+a81;02JARATI SIGN CANDRABINDU;14ANUSVARA",
   "14VISARGA;+a85;09LETTER A;17A;16I;17I;16U;17U;16VOCALIC R;24L;09VOWEL CANDRA E;+a8f;09LETTER E",
   "16AI;09VOWEL CANDRA O;+a93;09LETTER O;16AU;16KA;17HA;16GA;17HA;16NGA;16CA;17HA;16JA;17HA;16NYA",
   "16TTA;18HA;16DDA;18HA;16NNA;16TA;17HA;16DA;17HA;16NA;+aaa;16PA;17HA;16BA;17HA;16MA;16YA;16RA",
   "+ab2;16LA;17LA;+ab5;16VA;16SHA;17SA;17A;16HA;+abc;09SIGN NUKTA;14AVAGRAHA;09VOWEL SIGN AA;20I",
   "21I;20U;21U;20VOCALIC R;29R;20CANDRA E;+ac7;20E;20AI;20CANDRA O;+acb;20O;20AU;09SIGN VIRAMA",
   "+ad0;09OM;+ae0;09LETTER VOCALIC RR;24LL;09VOWEL SIGN VOCALIC L;29L;+ae6;09DIGIT ZERO;15ONE",
   "15TWO;16HREE;15FOUR;16IVE;15SIX;16EVEN;15EIGHT;15NINE;09ABBREVIATION SIGN;09RUPEE SIGN;+af9",
   "09LETTER ZHA;09SIGN SUKUN;15HADDA;14MADDAH;14THREE-DOT NUKTA ABOVE;14CIRCLE NUKTA ABOVE",
   "14TWO-CIRCLE NUKTA ABOVE;+b01;00ORIYA SIGN CANDRABINDU;11ANUSVARA;11VISARGA;+b05;06LETTER A",
   "14A;13I;14I;13U;14U;13VOCALIC R;21L;+b0f;13E;13AI;+b13;13O;13AU;13KA;14HA;13GA;14HA;13NGA;13CA",
   "14HA;13JA;14HA;13NYA;13TTA;15HA;13DDA;15HA;13NNA;13TA;14HA;13DA;14HA;13NA;+b2a;13PA;14HA;13BA",
   "14HA;13MA;13YA;13RA;+b32;13LA;14LA;+b35;13VA;13SHA;14SA;14A;13HA;+b3c;06SIGN NUKTA;11AVAGRAHA",
   "06VOWEL SIGN AA;17I;18I;17U;18U;17VOCALIC R;26R;+b47;17E;17AI;+b4b;17O;17AU;06SIGN VIRAMA;+b55",
   "11OVERLINE;06AI LENGTH MARK;07U LENGTH MARK;+b5c;06LETTER RRA;14HA;+b5f;13YYA;13VOCALIC RR",
   "21LL;06VOWEL SIGN VOCALIC L;26L;+b66;06DIGIT ZERO;12ONE;12TWO;13HREE;12FOUR;13IVE;12SIX;13EVEN",
   "12EIGHT;12NINE;06ISSHAR;06LETTER WA;06FRACTION ONE QUARTER;19HALF;15THREE QUARTERS",
   "15ONE SIXTEENTH;19EIGHTH;15THREE SIXTEENTHS;+b82;00TAMIL SIGN ANUSVARA;11VISARGA;+b85",
   "06LETTER A;14A;13I;14I;13U;14U;+b8e;13E;14E;13AI;+b92;13O;14O;13AU;13KA;+b99;13NGA;13CA;+b9c",
   "13JA;+b9e;13NYA;13TTA;+ba3;13NNA;13TA;+ba8;13NA;14NNA;13PA;+bae;13MA;13YA;13RA;14RA;13LA;14LA",
   "15LA;13VA;13SHA;14SA;14A;13HA;+bbe;06VOWEL SIGN AA;17I;18I;17U;18U;+bc6;17E;18E;17AI;+bca;17O",
   "18O;17AU;06SIGN VIRAMA;+bd0;06OM;+bd7;06AU LENGTH MARK;+be6;06DIGIT ZERO;12ONE;12TWO;13HREE",
   "12FOUR;13IVE;12SIX;13EVEN;12EIGHT;12NINE;06NUMBER TEN;13ONE HUNDRED;17THOUSAND;06DAY SIGN",
   "06MONTH SIGN;06YEAR SIGN;06DEBIT SIGN;06CREDIT SIGN;06AS ABOVE SIGN;06RUPEE SIGN;06NUMBER SIGN",
   "+c00;01ELUGU SIGN COMBINING CANDRABINDU ABOVE;13ANDRABINDU;12ANUSVARA;12VISARGA",
   "12COMBINING ANUSVARA ABOVE;07LETTER A;15A;14I;15I;14U;15U;14VOCALIC R;22L;+c0e;14E;15E;14AI",
   "+c12;14O;15O;14AU;14KA;15HA;14GA;15HA;14NGA;14CA;15HA;14JA;15HA;14NYA;14TTA;16HA;14DDA;16HA",
   "14NNA;14TA;15HA;14DA;15HA;14NA;+c2a;14PA;15HA;14BA;15HA;14MA;14YA;14RA;15RA;14LA;15LA;16LA",
   "14VA;14SHA;15SA;15A;14HA;+c3c;07SIGN NUKTA;12AVAGRAHA;07VOWEL SIGN AA;18I;19I;18U;19U",
   "18VOCALIC R;27R;+c46;18E;19E;18AI;+c4a;18O;19O;18AU;07SIGN VIRAMA;+c55;07LENGTH MARK",
   "07AI LENGTH MARK;+c58;07LETTER TSA;14DZA;14RRRA;+c5d;14NAKAARA POLLU;+c60;14VOCALIC RR;22LL",
   "07VOWEL SIGN VOCALIC L;27L;+c66;07DIGIT ZERO;13ONE;13TWO;14HREE;13FOUR;14IVE;13SIX;14EVEN",
   "13EIGHT;13NINE;+c77;07SIGN SIDDHAM;07FRACTION DIGIT ZERO FOR ODD POWERS OF FOUR",
   "22ONE FOR ODD POWERS OF FOUR;22TWO FOR ODD POWERS OF FOUR;23HREE FOR ODD POWERS OF FOUR",
   "22ONE FOR EVEN POWERS OF FOUR;22TWO FOR EVEN POWERS OF FOUR;23HREE FOR EVEN POWERS OF FOUR",
   "07SIGN TUUMU;00KANNADA SIGN SPACING CANDRABINDU;13CANDRABINDU;13ANUSVARA;13VISARGA;13SIDDHAM",
   "08LETTER A;16A;15I;16I;15U;16U;15VOCALIC R;23L;+c8e;15E;16E;15AI;+c92;15O;16O;15AU;15KA;16HA",
   "15GA;16HA;15NGA;15CA;16HA;15JA;16HA;15NYA;15TTA;17HA;15DDA;17HA;15NNA;15TA;16HA;15DA;16HA;15NA",
   "+caa;15PA;16HA;15BA;16HA;15MA;15YA;15RA;16RA;15LA;16LA;+cb5;15VA;15SHA;16SA;16A;15HA;+cbc",
   "08SIGN NUKTA;13AVAGRAHA;08VOWEL SIGN AA;19I;20I;19U;20U;19VOCALIC R;28R;+cc6;19E;20E;19AI;+cca",
   "19O;20O;19AU;08SIGN VIRAMA;+cd5;08LENGTH MARK;08AI LENGTH MARK;+cdd;08LETTER NAKAARA POLLU",
   "15FA;+ce0;15VOCALIC RR;23LL;08VOWEL SIGN VOCALIC L;28L;+ce6;08DIGIT ZERO;14ONE;14TWO;15HREE",
   "14FOUR;15IVE;14SIX;15EVEN;14EIGHT;14NINE;+cf1;08SIGN JIHVAMULIYA;13UPADHMANIYA;+d00",
   "00MALAYALAM SIGN COMBINING ANUSVARA ABOVE;16ANDRABINDU;15ANUSVARA;15VISARGA",
   "10LETTER VEDIC ANUSVARA;17A;18A;17I;18I;17U;18U;17VOCALIC R;25L;+d0e;17E;18E;17AI;+d12;17O;18O",
   "17AU;17KA;18HA;17GA;18HA;17NGA;17CA;18HA;17JA;18HA;17NYA;17TTA;19HA;17DDA;19HA;17NNA;17TA;18HA",
   "17DA;18HA;17NA;18NNA;17PA;18HA;17BA;18HA;17MA;17YA;17RA;18RA;17LA;18LA;19LA;17VA;17SHA;18SA",
   "18A;17HA;17TTTA;10SIGN VERTICAL BAR VIRAMA;15CIRCULAR VIRAMA;15AVAGRAHA;10VOWEL SIGN AA;21I",
   "22I;21U;22U;21VOCALIC R;30R;+d46;21E;22E;21AI;+d4a;21O;22O;21AU;10SIGN VIRAMA",
   "10LETTER DOT REPH;10SIGN PARA;+d54;10LETTER CHILLU M;24Y;24LLL;10AU LENGTH MARK",
   "10FRACTION ONE ONE-HUNDRED-AND-SIXTIETH;23FORTIETH;19THREE EIGHTIETHS;19ONE TWENTIETH;24ENTH",
   "19THREE TWENTIETHS;19ONE FIFTH;10LETTER ARCHAIC II;17VOCALIC RR;25LL;10VOWEL SIGN VOCALIC L",
   "30L;+d66;10DIGIT ZERO;16ONE;16TWO;17HREE;16FOUR;17IVE;16SIX;17EVEN;16EIGHT;16NINE;10NUMBER TEN",
   "17ONE HUNDRED;21THOUSAND;10FRACTION ONE QUARTER;23HALF;19THREE QUARTERS;19ONE SIXTEENTH",
   "23EIGHTH;19THREE SIXTEENTHS;10DATE MARK;10LETTER CHILLU NN;25;24RR;24L;25L;24K;+d81",
   "00SINHALA SIGN CANDRABINDU;13ANUSVARAYA;13VISARGAYA;+d85;08LETTER AYANNA;16AYANNA;16EYANNA",
   "17EYANNA;15IYANNA;16IYANNA;15UYANNA;16UYANNA;15IRUYANNA;18UYANNA;16LUYANNA;18UYANNA;15EYANNA",
   "16EYANNA;15AIYANNA;15OYANNA;16OYANNA;15AUYANNA;+d9a;16LPAPRAANA KAYANNA;15MAHAAPRAANA KAYANNA",
   "15ALPAPRAANA GAYANNA;15MAHAAPRAANA GAYANNA;15KANTAJA NAASIKYAYA;15SANYAKA GAYANNA",
   "15ALPAPRAANA CAYANNA;15MAHAAPRAANA CAYANNA;15ALPAPRAANA JAYANNA;15MAHAAPRAANA JAYANNA",
   "15TAALUJA NAASIKYAYA;23SANYOOGA NAAKSIKYAYA;15SANYAKA JAYANNA;15ALPAPRAANA TTAYANNA",
   "15MAHAAPRAANA TTAYANNA;15ALPAPRAANA DDAYANNA;15MAHAAPRAANA DDAYANNA;16UURDHAJA NAYANNA",
   "15SANYAKA DDAYANNA;15ALPAPRAANA TAYANNA;15MAHAAPRAANA TAYANNA;15ALPAPRAANA DAYANNA",
   "15MAHAAPRAANA DAYANNA;15DANTAJA NAYANNA;+db3;15SANYAKA DAYANNA;15ALPAPRAANA PAYANNA",
   "15MAHAAPRAANA PAYANNA;15ALPAPRAANA BAYANNA;15MAHAAPRAANA BAYANNA;17YANNA;15AMBA BAYANNA",
   "15YAYANNA;15RAYANNA;+dbd;15DANTAJA LAYANNA;+dc0;15VAYANNA;15TAALUJA SAYANNA",
   "15MUURDHAJA SAYANNA;15DANTAJA SAYANNA;15HAYANNA;15MUURDHAJA LAYANNA;15FAYANNA;+dca",
   "08SIGN AL-LAKUNA;+dcf;08VOWEL SIGN AELA-PILLA;19KETTI AEDA-PILLA;19DIGA AEDA-PILLA",
   "19KETTI IS-PILLA;19DIGA IS-PILLA;19KETTI PAA-PILLA;+dd6;19DIGA PAA-PILLA;+dd8;19GAETTA-PILLA",
   "19KOMBUVA;19DIGA KOMBUVA;19KOMBU DEKA;24VA HAA AELA-PILLA;31DIGA AELA-PILLA;31GAYANUKITTA",
   "19GAYANUKITTA;+de6;08LITH DIGIT ZERO;19ONE;19TWO;20HREE;19FOUR;20IVE;19SIX;20EVEN;19EIGHT",
   "19NINE;+df2;08VOWEL SIGN DIGA GAETTA-PILLA;26YANUKITTA;08PUNCTUATION KUNDDALIYA;+e01",
   "00THAI CHARACTER KO KAI;16HO KHAI;21UAT;21WAI;21ON;19RAKHANG;15NGO NGU;15CHO CHAN;21ING;21ANG",
   "15SO SO;15CHO CHOE;15YO YING;15DO CHADA;15TO PATAK;16HO THAN;19NANGMONTHO;19PHUTHAO;15NO NEN",
   "15DO DEK;15TO TAO;16HO THUNG;21AHAN;21ONG;15NO NU;15BO BAIMAI;15PO PLA;16HO PHUNG;15FO FA",
   "15PHO PHAN;15FO FAN;15PHO SAMPHAO;15MO MA;15YO YAK;15RO RUA;16U;15LO LING;16U;15WO WAEN",
   "15SO SALA;18RUSI;18SUA;15HO HIP;15LO CHULA;15O ANG;15HO NOKHUK;15PAIYANNOI;15SARA A",
   "15MAI HAN-AKAT;15SARA AA;21M;20I;21I;20UE;22E;21;21U;15PHINTHU;+e3f;06URRENCY SYMBOL BAHT",
   "06HARACTER SARA E;20AE;20O;20AI MAIMUAN;27ALAI;15LAKKHANGYAO;15MAIYAMOK;18TAIKHU;18 EK;19THO",
   "20RI;19CHATTAWA;15THANTHAKHAT;15NIKHAHIT;15YAMAKKAN;15FONGMAN;05DIGIT ZERO;11ONE;11TWO;12HREE",
   "11FOUR;12IVE;11SIX;12EVEN;11EIGHT;11NINE;05CHARACTER ANGKHANKHU;15KHOMUT;+e81;00LAO LETTER KO",
   "12HO SUNG;+e84;15TAM;+e86;11PALI GHA;11NGO;11CO;11PALI CHA;11SO TAM;+e8c;11PALI JHA;11NYO",
   "11PALI NYA;16TTA;18HA;16DDA;18HA;16NNA;11DO;11TO;12HO SUNG;15TAM;11PALI DHA;11NO;11BO;11PO",
   "12HO SUNG;11FO TAM;11PHO TAM;11FO SUNG;11PALI BHA;11MO;11YO;11LO LING;+ea5;15OOT;+ea7;11WO",
   "11SANSKRIT SHA;21SA;12O SUNG;11HO SUNG;11PALI LLA;11O;11HO TAM;04ELLIPSIS;04VOWEL SIGN A",
   "15MAI KAN;15AA;16M;15I;16I;15Y;16Y;15U;16U;04SIGN PALI VIRAMA;04VOWEL SIGN MAI KON",
   "04SEMIVOWEL SIGN LO;19NYO;+ec0;04VOWEL SIGN E;16I;15O;15AY;16I;+ec6;04KO LA;+ec8;04TONE MAI EK",
   "13THO;14I;13CATAWA;04CANCELLATION MARK;04NIGGAHITA;+ed0;04DIGIT ZERO;10ONE;10TWO;11HREE;10FOUR",
   "11IVE;10SIX;11EVEN;10EIGHT;10NINE;+edc;04HO NO;07MO;04LETTER KHMU GO;16NYO;+f00",
   "00TIBETAN SYLLABLE OM;08MARK GTER YIG MGO TRUNCATED A;26-UM RNAM BCAD MA;30GTER TSHEG MA",
   "13INITIAL YIG MGO MDUN MA;13CLOSING YIG MGO SGAB MA;14ARET YIG MGO PHUR SHAD MA",
   "13YIG MGO TSHEG SHAD MA;13SBRUL SHAD;13BSKUR YIG MGO;14KA- SHOG YIG MGO;13INTERSYLLABIC TSHEG",
   "13DELIMITER TSHEG BSTAR;13SHAD;13NYIS SHAD;13TSHEG SHAD;13NYIS TSHEG SHAD",
   "13RIN CHEN SPUNGS SHAD;14GYA GRAM SHAD;13CARET -DZUD RTAGS ME LONG CAN;13GTER TSHEG",
   "08LOGOTYPE SIGN CHAD RTAGS;22LHAG RTAGS;08ASTROLOGICAL SIGN SGRA GCAN -CHAR RTAGS;26-KHYUD PA",
   "26SDONG TSHUGS;08SIGN RDEL DKAR GCIG;24NYIS;24SUM;18NAG GCIG;23NYIS;18DKAR RDEL NAG",
   "08DIGIT ZERO;14ONE;14TWO;15HREE;14FOUR;15IVE;14SIX;15EVEN;14EIGHT;14NINE;14HALF ONE;19TWO",
   "20HREE;19FOUR;20IVE;19SIX;20EVEN;19EIGHT;19NINE;19ZERO;08MARK BSDUS RTAGS;13NGAS BZUNG NYI ZLA",
   "13CARET -DZUD RTAGS BZHI MIG CAN;13NGAS BZUNG SGOR RTAGS;13CHE MGO;13TSA -PHRU",
   "13GUG RTAGS GYON;25AS;13ANG KHANG GYON;25AS;08SIGN YAR TSHES;13MAR TSHES;08LETTER KA;16HA;15GA",
   "16HA;15NGA;15CA;16HA;15JA;+f49;15NYA;15TTA;17HA;15DDA;17HA;15NNA;15TA;16HA;15DA;16HA;15NA;15PA",
   "16HA;15BA;16HA;15MA;15TSA;17HA;15DZA;17HA;15WA;15ZHA;16A;15-A;15YA;15RA;15LA;15SHA;16SA;16A",
   "15HA;15A;15KSSA;15FIXED-FORM RA;15KKA;15RRA;+f71;08VOWEL SIGN AA;19I;20I;19U;20U;19VOCALIC R",
   "28R;27L;28L;19E;20E;19O;20O;08SIGN RJES SU NGA RO;14NAM BCAD;08VOWEL SIGN REVERSED I;29I",
   "08SIGN NYI ZLA NAA DA;13SNA LDAN;08MARK HALANTA;13PALUTA;08SIGN LCI RTAGS;13YANG RTAGS",
   "13LCE TSA CAN;13MCHU CAN;13GRU CAN RGYINGS;17MED RGYINGS;13INVERTED MCHU CAN",
   "09UBJOINED SIGN LCE TSA CAN;23MCHU CAN;23INVERTED MCHU CAN;18LETTER KA;26HA;25GA;26HA;25NGA",
   "25CA;26HA;25JA;+f99;25NYA;25TTA;27HA;25DDA;27HA;25NNA;25TA;26HA;25DA;26HA;25NA;25PA;26HA;25BA",
   "26HA;25MA;25TSA;27HA;25DZA;27HA;25WA;25ZHA;26A;25-A;25YA;25RA;25LA;25SHA;26SA;26A;25HA;25A",
   "25KSSA;25FIXED-FORM WA;36YA;36RA;+fbe;08KU RU KHA;17 BZHI MIG CAN",
   "08CANTILLATION SIGN HEAVY BEAT;26LIGHT BEAT;26CANG TE-U;26SBUB -CHAL;08SYMBOL DRIL BU",
   "15RDO RJE;15PADMA GDAN;15RDO RJE RGYA GRAM;15PHUR PA;15NOR BU;21 NYIS -KHYIL;22GSUM -KHYIL",
   "22BZHI -KHYIL;+fce;09IGN RDEL NAG RDEL DKAR;22GSUM;08MARK BSKA- SHOG GI MGO RGYAN",
   "13MNYAM YIG GI MGO RGYAN;13NYIS TSHEG;13INITIAL BRDA RNYING YIG MGO MDUN MA",
   "13CLOSING BRDA RNYING YIG MGO SGAB MA;00RIGHT-FACING SVASTI SIGN;00LEFT-FACING SVASTI SIGN",
   "00RIGHT-FACING SVASTI SIGN WITH DOTS;00LEFT-FACING SVASTI SIGN WITH DOTS",
   "00TIBETAN MARK LEADING MCHAN RTAGS;13TRAILING MCHAN RTAGS;+1000;00MYANMAR LETTER KA;16HA;15GA",
   "16HA;15NGA;15CA;16HA;15JA;16HA;15NYA;16NYA;15TTA;17HA;15DDA;17HA;15NNA;15TA;16HA;15DA;16HA",
   "15NA;15PA;16HA;15BA;16HA;15MA;15YA;15RA;15LA;15WA;15SA;15HA;15LLA;15A;15SHAN A;15I;16I;15U;16U",
   "15E;15MON E;15O;15AU;08VOWEL SIGN TALL AA;19AA;19I;20I;19U;20U;19E;19AI;19MON II;23O;19E ABOVE",
   "08SIGN ANUSVARA;13DOT BELOW;13VISARGA;15RAMA;13ASAT;08CONSONANT SIGN MEDIAL YA;30RA;30WA;30HA",
   "08LETTER GREAT SA;08DIGIT ZERO;14ONE;14TWO;15HREE;14FOUR;15IVE;14SIX;15EVEN;14EIGHT;14NINE",
   "08SIGN LITTLE SECTION;13SECTION;09YMBOL LOCATIVE;15COMPLETED;15AFOREMENTIONED;15GENITIVE",
   "08LETTER SHA;16SA;15VOCALIC R;24R;23L;24L;08VOWEL SIGN VOCALIC R;28R;27L;28L;08LETTER MON NGA",
   "19JHA;19BBA;21E;08CONSONANT SIGN MON MEDIAL NA;34MA;34LA;08LETTER SGAW KAREN SHA",
   "08VOWEL SIGN SGAW KAREN EU;08TONE MARK SGAW KAREN HATHI;29KE PHO",
   "08LETTER WESTERN PWO KAREN THA;33PWA;08VOWEL SIGN WESTERN PWO KAREN EU;37UE",
   "08SIGN WESTERN PWO KAREN TONE-1;362;363;364;365;08LETTER EASTERN PWO KAREN NNA;33YWA;33GHWA",
   "08VOWEL SIGN GEBA KAREN I;19KAYAH OE;25U;25EE;08LETTER SHAN KA;21HA;20GA;20CA;20ZA;20NYA;20DA",
   "20NA;20PHA;20FA;20BA;20THA;20HA;08CONSONANT SIGN SHAN MEDIAL WA;08VOWEL SIGN SHAN AA;24E",
   "25 ABOVE;24FINAL Y;08SIGN SHAN TONE-2;233;235;236;18COUNCIL TONE-2;313;26EMPHATIC TONE",
   "08LETTER RUMAI PALAUNG FA;08SIGN RUMAI PALAUNG TONE-5;09HAN DIGIT ZERO;19ONE;19TWO;20HREE",
   "19FOUR;20IVE;19SIX;20EVEN;19EIGHT;19NINE;09IGN KHAMTI TONE-1;253;08VOWEL SIGN AITON A;26I",
   "08SYMBOL SHAN ONE;20EXCLAMATION;00GEORGIAN CAPITAL LETTER AN;24BAN;24GAN;24DON;24EN;24VIN",
   "24ZEN;24TAN;24IN;24KAN;24LAS;24MAN;24NAR;24ON;24PAR;24ZHAR;24RAE;24SAN;24TAR;24UN;24PHAR",
   "24KHAR;24GHAN;24QAR;24SHIN;24CHIN;25AN;24JIL;24CIL;25HAR;24XAN;24JHAN;24HAE;25E;25IE;24WE",
   "24HAR;25OE;+10c7;24YN;+10cd;24AEN;+10d0;09LETTER AN;16BAN;16GAN;16DON;16EN;16VIN;16ZEN;16TAN",
   "16IN;16KAN;16LAS;16MAN;16NAR;16ON;16PAR;16ZHAR;16RAE;16SAN;16TAR;16UN;16PHAR;16KHAR;16GHAN",
   "16QAR;16SHIN;16CHIN;17AN;16JIL;16CIL;17HAR;16XAN;16JHAN;16HAE;17E;17IE;16WE;16HAR;17OE;16FI",
   "16YN;16ELIFI;16TURNED GAN;16AIN;09PARAGRAPH SEPARATOR;00MODIFIER LETTER GEORGIAN NAR",
   "00GEORGIAN LETTER AEN;16HARD SIGN;16LABIAL SIGN"]

/-- The names of the code points from 1100 to 2fff. -/
def lowNames : List String :=
  ["00HANGUL CHOSEONG KIYEOK;16SSANGKIYEOK;16NIEUN;16TIKEUT;16SSANGTIKEUT;16RIEUL;16MIEUM;16PIEUP",
   "16SSANGPIEUP;17IOS;17SANGSIOS;16IEUNG;16CIEUC;16SSANGCIEUC;16CHIEUCH;16KHIEUKH;16THIEUTH",
   "16PHIEUPH;16HIEUH;16NIEUN-KIYEOK;16SSANGNIEUN;16NIEUN-TIKEUT;22PIEUP;16TIKEUT-KIYEOK",
   "16RIEUL-NIEUN;16SSANGRIEUL;16RIEUL-HIEUH;16KAPYEOUNRIEUL;16MIEUM-PIEUP;16KAPYEOUNMIEUM",
   "16PIEUP-KIYEOK;22NIEUN;22TIKEUT;22SIOS;26-KIYEOK;27TIKEUT;27PIEUP;23SANGSIOS;23IOS-CIEUC",
   "22CIEUC;23HIEUCH;22THIEUTH;22PHIEUPH;16KAPYEOUNPIEUP;24SSANGPIEUP;16SIOS-KIYEOK;21NIEUN",
   "21TIKEUT;21RIEUL;21MIEUM;21PIEUP;26-KIYEOK;21SSANGSIOS;21IEUNG;21CIEUC;22HIEUCH;21KHIEUKH",
   "21THIEUTH;21PHIEUPH;21HIEUH;16CHITUEUMSIOS;25SANGSIOS;17EONGCHIEUMSIOS;28SANGSIOS;16PANSIOS",
   "16IEUNG-KIYEOK;22TIKEUT;22MIEUM;22PIEUP;22SIOS;22PANSIOS;16SSANGIEUNG;16IEUNG-CIEUC;23HIEUCH",
   "22THIEUTH;22PHIEUPH;16YESIEUNG;16CIEUC-IEUNG;17HITUEUMCIEUC;24SSANGCIEUC;17EONGCHIEUMCIEUC",
   "27SSANGCIEUC;17HIEUCH-KHIEUKH;24HIEUH;19TUEUMCHIEUCH;17EONGCHIEUMCHIEUCH;16PHIEUPH-PIEUP",
   "16KAPYEOUNPHIEUPH;16SSANGHIEUH;16YEORINHIEUH;16KIYEOK-TIKEUT;16NIEUN-SIOS;22CIEUC;22HIEUH",
   "16TIKEUT-RIEUL;16FILLER;07JUNGSEONG FILLER;17A;18E;17YA;19E;17EO;18;17YEO;19;17O;17WA;19E;17OE",
   "17YO;17U;17WEO;19;18I;17YU;17EU;17YI;17I;17A-O;19U;17YA-O;20YO;17EO-O;20U;20EU;17YEO-O;21U",
   "17O-EO;20;19YE;19O;19U;17YO-YA;22E;21EO;20O;20I;17U-A;20E;19EO-EU;19YE;19U;17YU-A;20EO;21",
   "20YEO;22;20U;20I;17EU-U;20EU;17YI-U;17I-A;19YA;19O;19U;19EU;19ARAEA;17ARAEA;22-EO;23U;23I",
   "17SSANGARAEA;17A-EU;17YA-U;18EO-YA;17O-YA;21E;08ONGSEONG KIYEOK;17SSANGKIYEOK;17KIYEOK-SIOS",
   "17NIEUN;22-CIEUC;23HIEUH;17TIKEUT;17RIEUL;22-KIYEOK;23MIEUM;23PIEUP;23SIOS;23THIEUTH;23PHIEUPH",
   "23HIEUH;17MIEUM;17PIEUP;22-SIOS;17SIOS;18SANGSIOS;17IEUNG;17CIEUC;18HIEUCH;17KHIEUKH;17THIEUTH",
   "17PHIEUPH;17HIEUH;17KIYEOK-RIEUL;24SIOS-KIYEOK;17NIEUN-KIYEOK;23TIKEUT;23SIOS;23PANSIOS",
   "23THIEUTH;17TIKEUT-KIYEOK;24RIEUL;17RIEUL-KIYEOK-SIOS;23NIEUN;23TIKEUT;29-HIEUH;17SSANGRIEUL",
   "17RIEUL-MIEUM-KIYEOK;29SIOS;23PIEUP-SIOS;29HIEUH;23KAPYEOUNPIEUP;23SSANGSIOS;23PANSIOS",
   "23KHIEUKH;23YEORINHIEUH;17MIEUM-KIYEOK;23RIEUL;23PIEUP;23SIOS;24SANGSIOS;23PANSIOS;23CHIEUCH",
   "23HIEUH;17KAPYEOUNMIEUM;17PIEUP-RIEUL;23PHIEUPH;23HIEUH;17KAPYEOUNPIEUP;17SIOS-KIYEOK;22TIKEUT",
   "22RIEUL;22PIEUP;17PANSIOS;17IEUNG-KIYEOK;23SSANGKIYEOK;17SSANGIEUNG;17IEUNG-KHIEUKH;17YESIEUNG",
   "25-SIOS;26PANSIOS;17PHIEUPH-PIEUP;17KAPYEOUNPHIEUPH;17HIEUH-NIEUN;23RIEUL;23MIEUM;23PIEUP",
   "17YEORINHIEUH;17KIYEOK-NIEUN;24PIEUP;24CHIEUCH;24KHIEUKH;24HIEUH;17SSANGNIEUN",
   "00ETHIOPIC SYLLABLE HA;19U;19I;19AA;19EE;20;19O;20A;18LA;19U;19I;19AA;19EE;20;19O;19WA;18HHA",
   "20U;20I;20AA;20EE;21;20O;20WA;18MA;19U;19I;19AA;19EE;20;19O;19WA;18SZA;20U;20I;20AA;20EE;21",
   "20O;20WA;18RA;19U;19I;19AA;19EE;20;19O;19WA;18SA;19U;19I;19AA;19EE;20;19O;19WA;19HA;20U;20I",
   "20AA;20EE;21;20O;20WA;18QA;19U;19I;19AA;19EE;20;19O;20A;19WA;+124a;20I;20AA;20EE;21;+1250;19HA",
   "20U;20I;20AA;20EE;21;20O;+1258;20WA;+125a;21I;21AA;21EE;22;+1260;18BA;19U;19I;19AA;19EE;20;19O",
   "19WA;18VA;19U;19I;19AA;19EE;20;19O;19WA;18TA;19U;19I;19AA;19EE;20;19O;19WA;18CA;19U;19I;19AA",
   "19EE;20;19O;19WA;18XA;19U;19I;19AA;19EE;20;19O;20A;19WA;+128a;20I;20AA;20EE;21;+1290;18NA;19U",
   "19I;19AA;19EE;20;19O;19WA;19YA;20U;20I;20AA;20EE;21;20O;20WA;18GLOTTAL A;26U;26I;26AA;26EE;27",
   "26O;26WA;18KA;19U;19I;19AA;19EE;20;19O;20A;19WA;+12b2;20I;20AA;20EE;21;+12b8;19XA;20U;20I;20AA",
   "20EE;21;20O;+12c0;20WA;+12c2;21I;21AA;21EE;22;+12c8;18WA;19U;19I;19AA;19EE;20;19O;20A",
   "18PHARYNGEAL A;29U;29I;29AA;29EE;30;29O;+12d8;18ZA;19U;19I;19AA;19EE;20;19O;19WA;19HA;20U;20I",
   "20AA;20EE;21;20O;20WA;18YA;19U;19I;19AA;19EE;20;19O;20A;18DA;19U;19I;19AA;19EE;20;19O;19WA",
   "19DA;20U;20I;20AA;20EE;21;20O;20WA;18JA;19U;19I;19AA;19EE;20;19O;19WA;18GA;19U;19I;19AA;19EE",
   "20;19O;20A;19WA;+1312;20I;20AA;20EE;21;+1318;19GA;20U;20I;20AA;20EE;21;20O;20WAA;18THA;20U;20I",
   "20AA;20EE;21;20O;20WA;18CHA;20U;20I;20AA;20EE;21;20O;20WA;18PHA;20U;20I;20AA;20EE;21;20O;20WA",
   "18TSA;20U;20I;20AA;20EE;21;20O;20WA;19ZA;20U;20I;20AA;20EE;21;20O;21A;18FA;19U;19I;19AA;19EE",
   "20;19O;19WA;18PA;19U;19I;19AA;19EE;20;19O;19WA;18RYA;18MYA;18FYA;+135d",
   "09COMBINING GEMINATION AND VOWEL LENGTH MARK;19VOWEL LENGTH MARK;19GEMINATION MARK",
   "09SECTION MARK;09WORDSPACE;09FULL STOP;09COMMA;09SEMICOLON;09COLON;09PREFACE COLON",
   "09QUESTION MARK;09PARAGRAPH SEPARATOR;09DIGIT ONE;15TWO;16HREE;15FOUR;16IVE;15SIX;16EVEN",
   "15EIGHT;15NINE;09NUMBER TEN;17WENTY;17HIRTY;16FORTY;17IFTY;16SIXTY;17EVENTY;16EIGHTY;16NINETY",
   "16HUNDRED;16TEN THOUSAND;+1380;09SYLLABLE SEBATBEIT MWA;18MWI;20EE;21;18SEBATBEIT BWA;18BWI",
   "20EE;21;18SEBATBEIT FWA;18FWI;20EE;21;18SEBATBEIT PWA;18PWI;20EE;21;09TONAL MARK YIZET;20DERET",
   "20RIKRIK;20SHORT RIKRIK;20DIFAT;20KENAT;20CHIRET;20HIDET;20DERET-HIDET;20KURT;+13a0",
   "00CHEROKEE LETTER A;16E;16I;16O;16U;16V;16GA;16KA;16GE;17I;17O;17U;17V;16HA;17E;17I;17O;17U",
   "17V;16LA;17E;17I;17O;17U;17V;16MA;17E;17I;17O;17U;16NA;16HNA;16NAH;17E;17I;17O;17U;17V;16QUA",
   "18E;18I;18O;18U;18V;16SA;17;17E;17I;17O;17U;17V;16DA;16TA;16DE;16TE;16DI;16TI;16DO;17U;17V",
   "17LA;16TLA;18E;18I;18O;18U;18V;17SA;18E;18I;18O;18U;18V;16WA;17E;17I;17O;17U;17V;16YA;17E;17I",
   "17O;17U;17V;16MV;+13f8;09SMALL LETTER YE;23I;23O;23U;23V;22MV;+1400;01ANADIAN SYLLABICS HYPHEN",
   "19E;19AAI;19I;20I;19O;20O;19Y-CREE OO;19CARRIER EE;27I;19A;20A;19WE;21ST-CREE WE;20I",
   "20EST-CREE WI;20II;20EST-CREE WII;20O;20EST-CREE WO;20OO;20EST-CREE WOO;19NASKAPI WOO;19WA",
   "20EST-CREE WA;20AA;20EST-CREE WAA;19NASKAPI WAA;19AI;19Y-CREE W;19GLOTTAL STOP;19FINAL ACUTE",
   "25GRAVE;25BOTTOM HALF RING;25TOP HALF RING;25RIGHT HALF RING;27NG;25DOUBLE ACUTE",
   "32SHORT VERTICAL STROKES;25MIDDLE DOT;25SHORT HORIZONTAL STROKE;25PLUS;25DOWN TACK;19EN;19IN",
   "19ON;19AN;19PE;20AAI;20I;21I;20O;21O;19Y-CREE POO;19CARRIER HEE;28I;19PA;21A;20WE",
   "19WEST-CREE PWE;19PWI;19WEST-CREE PWI;19PWII;19WEST-CREE PWII;19PWO;19WEST-CREE PWO;19PWOO",
   "19WEST-CREE PWOO;19PWA;19WEST-CREE PWA;19PWAA;19WEST-CREE PWAA;19Y-CREE PWAA;19P;19WEST-CREE P",
   "19CARRIER H;19TE;20AAI;20I;21I;20O;21O;19Y-CREE TOO;19CARRIER DEE;28I;19TA;21A;20WE",
   "19WEST-CREE TWE;19TWI;19WEST-CREE TWI;19TWII;19WEST-CREE TWII;19TWO;19WEST-CREE TWO;19TWOO",
   "19WEST-CREE TWOO;19TWA;19WEST-CREE TWA;19TWAA;19WEST-CREE TWAA;19NASKAPI TWAA;19T;20TE;21I;21O",
   "21A;19KE;20AAI;20I;21I;20O;21O;19Y-CREE KOO;19KA;21A;20WE;19WEST-CREE KWE;19KWI",
   "19WEST-CREE KWI;19KWII;19WEST-CREE KWII;19KWO;19WEST-CREE KWO;19KWOO;19WEST-CREE KWOO;19KWA",
   "19WEST-CREE KWA;19KWAA;19WEST-CREE KWAA;19NASKAPI KWAA;19K;20W;19SOUTH-SLAVEY KEH;33IH;33OH",
   "33AH;19CE;20AAI;20I;21I;20O;21O;19Y-CREE COO;19CA;21A;20WE;19WEST-CREE CWE;19CWI",
   "19WEST-CREE CWI;19CWII;19WEST-CREE CWII;19CWO;19WEST-CREE CWO;19CWOO;19WEST-CREE CWOO;19CWA",
   "19WEST-CREE CWA;19CWAA;19WEST-CREE CWAA;19NASKAPI CWAA;19C;19SAYISI TH;19ME;20AAI;20I;21I;20O",
   "21O;19Y-CREE MOO;19MA;21A;20WE;19WEST-CREE MWE;19MWI;19WEST-CREE MWI;19MWII;19WEST-CREE MWII",
   "19MWO;19WEST-CREE MWO;19MWOO;19WEST-CREE MWOO;19MWA;19WEST-CREE MWA;19MWAA;19WEST-CREE MWAA",
   "19NASKAPI MWAA;19M;19WEST-CREE M;19MH;19ATHAPASCAN M;19SAYISI M;19NE;20AAI;20I;21I;20O;21O",
   "19Y-CREE NOO;19NA;21A;20WE;19WEST-CREE NWE;19NWA;19WEST-CREE NWA;19NWAA;19WEST-CREE NWAA",
   "19NASKAPI NWAA;20;19CARRIER NG;19NH;19LE;20AAI;20I;21I;20O;21O;19Y-CREE LOO;19LA;21A;20WE",
   "19WEST-CREE LWE;19LWI;19WEST-CREE LWI;19LWII;19WEST-CREE LWII;19LWO;19WEST-CREE LWO;19LWOO",
   "19WEST-CREE LWOO;19LWA;19WEST-CREE LWA;19LWAA;19WEST-CREE LWAA;19L;19WEST-CREE L;19MEDIAL L",
   "19SE;20AAI;20I;21I;20O;21O;19Y-CREE SOO;19SA;21A;20WE;19WEST-CREE SWE;19SWI;19WEST-CREE SWI",
   "19SWII;19WEST-CREE SWII;19SWO;19WEST-CREE SWO;19SWOO;19WEST-CREE SWOO;19SWA;19WEST-CREE SWA",
   "19SWAA;19WEST-CREE SWAA;19NASKAPI SWAA;19S;19ATHAPASCAN S;19SW;19BLACKFOOT S;19MOOSE-CREE SK",
   "19NASKAPI SKW;28-W;28PWA;28TWA;28KWA;28CWA;19SHE;21I;22I;21O;22O;21A;22A;21WE;19WEST-CREE SHWE",
   "19SHWI;19WEST-CREE SHWI;19SHWII;19WEST-CREE SHWII;19SHWO;19WEST-CREE SHWO;19SHWOO",
   "19WEST-CREE SHWOO;19SHWA;19WEST-CREE SHWA;19SHWAA;19WEST-CREE SHWAA;19SH;19YE;20AAI;20I;21I",
   "20O;21O;20-CREE YOO;20A;21A;20WE;19WEST-CREE YWE;19YWI;19WEST-CREE YWI;19YWII;19WEST-CREE YWII",
   "19YWO;19WEST-CREE YWO;19YWOO;19WEST-CREE YWOO;19YWA;19WEST-CREE YWA;19YWAA;19WEST-CREE YWAA",
   "19NASKAPI YWAA;19Y;19BIBLE-CREE Y;19WEST-CREE Y;19SAYISI YI;19RE;20-CREE RE;19WEST-CREE LE",
   "19RAAI;20I;21I;20O;21O;19WEST-CREE LO;19RA;21A;19WEST-CREE LA;19RWAA;19WEST-CREE RWAA;19R",
   "19WEST-CREE R;19MEDIAL R;19FE;20AAI;20I;21I;20O;21O;20A;21A;20WAA;19WEST-CREE FWAA;19F;19THE",
   "19N-CREE THE;19THI;19N-CREE THI;19THII;19N-CREE THII;19THO;22O;21A;22A;21WAA;19WEST-CREE THWAA",
   "19TH;20THE;22I;22O;22A;22;20YE;21I;21O;21A;19NUNAVIK HE;28I;29I;28O;29O;28A;29A;28;24UT H;19HK",
   "19QAAI;20I;21I;20O;21O;20A;21A;20;19TLHE;22I;22O;22A;19WEST-CREE RE;30I;30O;30A;19NGAAI;21I",
   "22I;21O;22O;21A;22A;21;20NG;19SAYISI SHE;28I;28O;28A;19WOODS-CREE THE;32I;32O;32A;32;19LHI;22I",
   "21O;22O;21A;22A;21;19TH-CREE THE;29I;30I;29O;30O;29A;30A;29;19AIVILIK B;19BLACKFOOT E;29I;29O",
   "29A;29WE;30I;30O;30A;29NE;30I;30O;30A;29KE;30I;30O;30A;19SAYISI HE;27I;27O;27A;19CARRIER GHU",
   "29O;29E;30E;29I;29A;27RU;28O;28E;29E;28I;28A;27WU;28O;28E;29E;28I;28A;27HWU;29O;29E;30E;29I",
   "29A;27THU;29O;29E;30E;29I;29A;28TU;29O;29E;30E;29I;29A;27PU;28O;28E;29E;28I;28A;28;27GU;28O",
   "28E;29E;28I;28A;27KHU;29O;29E;30E;29I;29A;28KU;29O;29E;30E;29I;29A;29;27NU;28O;28E;29E;28I;28A",
   "27MU;28O;28E;29E;28I;28A;27YU;28O;28E;29E;28I;28A;27JU;19SAYISI JU;19CARRIER JO;28E;29E;28I",
   "19SAYISI JI;19CARRIER JA;28JU;29O;29E;30E;29I;29A;27LU;28O;28E;29E;28I;28A;27DLU;29O;29E;30E",
   "29I;29A;27LHU;29O;29E;30E;29I;29A;27TLHU;30O;30E;31E;30I;30A;29U;29O;29E;30E;29I;29A;27ZU;28O",
   "28E;29E;28I;28A;28;27INITIAL Z;27DZU;29O;29E;30E;29I;29A;27SU;28O;28E;29E;28I;28A;28HU;29O;29E",
   "30E;29I;29A;29;27TSU;29O;29E;30E;29I;29A;27CHU;29O;29E;30E;29I;29A;27TTSU;30O;30E;31E;30I;30A",
   "20HI SIGN;19FULL STOP;19QAI;19NGAI;20NGI;23I;22O;23O;22A;23A;19WOODS-CREE THWEE;33I;34I;33O",
   "34O;33A;34A;30FINAL TH;19BLACKFOOT W;00OGHAM SPACE MARK;06LETTER BEITH;13LUIS;13FEARN;13SAIL",
   "13NION;13UATH;13DAIR;13TINNE;13COLL;14EIRT;13MUIN;13GORT;13NGEADAL;13STRAIF;13RUIS;13AILM",
   "13ONN;13UR;13EADHADH;13IODHADH;13EABHADH;13OR;13UILLEANN;13IFIN;13EAMHANCHOLL;13PEITH",
   "06FEATHER MARK;06REVERSED FEATHER MARK;+16a0;00RUNIC LETTER FEHU FEOH FE F;13V;13URUZ UR U",
   "13YR;14;13W;13THURISAZ THURS THORN;13ETH;13ANSUZ A;13OS O;13AC A;14ESC;13LONG-BRANCH-OSS O",
   "13SHORT-TWIG-OSS O;13O;14E;14N;13RAIDO RAD REID R;13KAUNA;13CEN;13KAUN K;13G;13ENG",
   "13GEBO GYFU G;14AR;13WUNJO WYNN W;13HAGLAZ H;15EGL H;13LONG-BRANCH-HAGALL H",
   "13SHORT-TWIG-HAGALL H;13NAUDIZ NYD NAUD N;13SHORT-TWIG-NAUD N;13DOTTED-N;13ISAZ IS ISS I;13E",
   "13JERAN J;13GER;13LONG-BRANCH-AR AE;13SHORT-TWIG-AR A;13IWAZ EOH;13PERTHO PEORTH P",
   "13ALGIZ EOLHX;13SOWILO S;14IGEL LONG-BRANCH-SOL S;14HORT-TWIG-SOL S;13C;13Z;13TIWAZ TIR TYR T",
   "13SHORT-TWIG-TYR T;13D;13BERKANAN BEORC BJARKAN B;13SHORT-TWIG-BJARKAN B;13DOTTED-P;13OPEN-P",
   "13EHWAZ EH E;13MANNAZ MAN M;13LONG-BRANCH-MADR M;13SHORT-TWIG-MADR M;13LAUKAZ LAGU LOGR L",
   "13DOTTED-L;13INGWAZ;16;13DAGAZ DAEG D;13OTHALAN ETHEL O;13EAR;13IOR;13CWEORTH;14ALC;14EALC",
   "13STAN;13LONG-BRANCH-YR;13SHORT-TWIG-YR;13ICELANDIC-YR;13Q;13X;06SINGLE PUNCTUATION",
   "06MULTIPLE PUNCTUATION;06CROSS PUNCTUATION;06ARLAUG SYMBOL;06TVIMADUR SYMBOL;06BELGTHOR SYMBOL",
   "06LETTER K;13SH;13OO;13FRANKS CASKET OS;27IS;27EH;27AC;28ESC;+1700;00TAGALOG LETTER A;15I;15U",
   "15KA;15GA;15NGA;15TA;15DA;15NA;15PA;15BA;15MA;15YA;15RA;15LA;15WA;15SA;15HA;08VOWEL SIGN I;19U",
   "08SIGN VIRAMA;13PAMUDPOD;+171f;08LETTER ARCHAIC RA;00HANUNOO LETTER A;15I;15U;15KA;15GA;15NGA",
   "15TA;15DA;15NA;15PA;15BA;15MA;15YA;15RA;15LA;15WA;15SA;15HA;08VOWEL SIGN I;19U;08SIGN PAMUDPOD",
   "00PHILIPPINE SINGLE PUNCTUATION;11DOUBLE PUNCTUATION;+1740;00BUHID LETTER A;13I;13U;13KA;13GA",
   "13NGA;13TA;13DA;13NA;13PA;13BA;13MA;13YA;13RA;13LA;13WA;13SA;13HA;06VOWEL SIGN I;17U;+1760",
   "00TAGBANWA LETTER A;16I;16U;16KA;16GA;16NGA;16TA;16DA;16NA;16PA;16BA;16MA;16YA;+176e;16LA;16WA",
   "16SA;+1772;09VOWEL SIGN I;20U;+1780;00KHMER LETTER KA;14HA;14O;14HO;13NGO;13CA;14HA;14O;14HO",
   "13NYO;13DA;13TTHA;13DO;13TTHO;13NNO;13TA;14HA;14O;14HO;13NO;13BA;13PHA;14O;14HO;13MO;13YO;13RO",
   "13LO;13VO;13SHA;14SO;14A;13HA;13LA;13QA;06INDEPENDENT VOWEL QAQ;26A;25I;26I;25U;26K;26U;27V",
   "24RY;26Y;24LY;26Y;24QE;25AI;25OO TYPE ONE;33TWO;25AU;06VOWEL INHERENT AQ;22A;12SIGN AA;17I;18I",
   "17Y;18Y;17U;18U;18A;17OE;17YA;17IE;17E;17AE;18I;17OO;17AU;06SIGN NIKAHIT;11REAHMUK",
   "11YUUKALEAPINTU;11MUUSIKATOAN;11TRIISAP;11BANTOC;11ROBAT;11TOANDAKHIAT;11KAKABAT;11AHSDA",
   "11SAMYOK SANNYA;11VIRIAM;11COENG;11BATHAMASAT;11KHAN;11BARIYOOSAN;11CAMNUC PII KUUH;11LEK TOO",
   "11BEYYAL;11PHNAEK MUAN;11KOOMUUT;06CURRENCY SYMBOL RIEL;06SIGN AVAKRAHASANYA;12TTHACAN;+17e0",
   "06DIGIT ZERO;12ONE;12TWO;13HREE;12FOUR;13IVE;12SIX;13EVEN;12EIGHT;12NINE;+17f0",
   "06SYMBOL LEK ATTAK SON;23MUOY;23PII;23BEI;24UON;23PRAM;27-MUOY;28PII;28BEI;29UON;+1800",
   "00MONGOLIAN BIRGA;10ELLIPSIS;10COMMA;10FULL STOP;10COLON;10FOUR DOTS;10TODO SOFT HYPHEN",
   "10SIBE SYLLABLE BOUNDARY MARKER;10MANCHU COMMA;17FULL STOP;10NIRUGU",
   "10FREE VARIATION SELECTOR ONE;34TWO;35HREE;10VOWEL SEPARATOR;10FREE VARIATION SELECTOR FOUR",
   "10DIGIT ZERO;16ONE;16TWO;17HREE;16FOUR;17IVE;16SIX;17EVEN;16EIGHT;16NINE;+1820;10LETTER A;17E",
   "17I;17O;17U;17OE;17UE;17EE;17NA;17ANG;17BA;17PA;17QA;17GA;17MA;17LA;17SA;18HA;17TA;17DA;17CHA",
   "17JA;17YA;17RA;17WA;17FA;17KA;18HA;17TSA;17ZA;17HAA;17ZRA;17LHA;17ZHI;17CHI",
   "17TODO LONG VOWEL SIGN;22E;22I;22O;22U;22OE;22UE;22ANG;22BA;22PA;22QA;22GA;22MA;22TA;22DA",
   "22CHA;22JA;22TSA;22YA;22WA;22KA;22GAA;22HAA;22JIA;22NIA;22DZA;17SIBE E;22I;23Y;22UE;23;22ANG",
   "22KA;22GA;22HA;22PA;22SHA;22TA;22DA;22JA;22FA;22GAA;22HAA;22TSA;22ZA;22RAA;22CHA;22ZHA",
   "17MANCHU I;24KA;24RA;24FA;24ZHA;17CHA WITH TWO DOTS;+1880;17ALI GALI ANUSVARA ONE",
   "26VISARGA ONE;26DAMARU;26UBADAMA;26INVERTED UBADAMA;26BALUDA;26THREE BALUDA;26A;26I;26KA;26NGA",
   "26CA;26TTA;28HA;26DDA;26NNA;26TA;26DA;26PA;27HA;26SSA;26ZHA;27A;26AH;17TODO ALI GALI TA;31ZHA",
   "17MANCHU ALI GALI GHA;33NGA;33CA;33JHA;33TTA;33DDHA;33TA;33DHA;33SSA;33CYA;33ZHA;34A",
   "17ALI GALI HALF U;31YA;17MANCHU ALI GALI BHA;17ALI GALI DAGALGA;17MANCHU ALI GALI LHA;+18b0",
   "00CANADIAN SYLLABICS OY;19AY;20AY;19WAY;19POY;20AY;20WOY;19TAY;19KAY;20WAY;19MAY;19NOY;20AY",
   "19LAY;19SOY;20AY;20HOY;21AY;21WOY;19YOY;20AY;19RAY;19NWI;19OJIBWAY NWI;19NWII;19OJIBWAY NWII",
   "19NWO;19OJIBWAY NWO;19NWOO;19OJIBWAY NWOO;19RWEE;21I;22I;21O;22O;21A;19OJIBWAY P;27T;27K;27C",
   "27M;27N;27S;28H;19EASTERN W;19WESTERN W;19FINAL SMALL RING;25RAISED DOT;19R-CREE RWE",
   "19WEST-CREE LOO;30AA;19THWE;22A;20THWE;22OO;22AA;20LHWE;22OO;19SAYISI SHWE;28OO;26HOO",
   "19CARRIER GWU;27DENE GEE;27GAA;28WA;19SAYISI JUU;19CARRIER JWA;19BEAVER DENE L;31R",
   "19CARRIER DENTAL S;+1900;00LIMBU VOWEL-CARRIER LETTER;06LETTER KA;14HA;13GA;14HA;13NGA;13CA",
   "14HA;13JA;14HA;13YAN;13TA;14HA;13DA;14HA;13NA;13PA;14HA;13BA;14HA;13MA;13YA;13RA;13LA;13WA",
   "13SHA;14SA;14A;13HA;13GYAN;13TRA;+1920;06VOWEL SIGN A;17I;17U;17EE;17AI;17OO;17AU;17E;17O",
   "06SUBJOINED LETTER YA;23RA;23WA;+1930;07MALL LETTER KA;19NGA;19ANUSVARA;19TA;19NA;19PA;19MA",
   "19RA;19LA;07IGN MUKPHRENG;11KEMPHRENG;11SA-I;+1940;11LOO;+1944;06EXCLAMATION MARK",
   "06QUESTION MARK;06DIGIT ZERO;12ONE;12TWO;13HREE;12FOUR;13IVE;12SIX;13EVEN;12EIGHT;12NINE",
   "00TAI LE LETTER KA;14XA;14NGA;14TSA;14SA;14YA;14TA;15HA;14LA;14PA;15HA;14MA;14FA;14VA;14HA",
   "14QA;14KHA;14TSHA;14NA;14A;14I;14EE;15H;14U;14OO;15;14UE;14E;14AUE;15I;+1970;14TONE-2;193;194",
   "195;196;+1980;00NEW TAI LUE LETTER HIGH QA;19LOW QA;19HIGH KA;24XA;24NGA;19LOW KA;23XA;23NGA",
   "19HIGH TSA;24SA;24YA;19LOW TSA;23SA;23YA;19HIGH TA;25HA;24NA;19LOW TA;24HA;23NA;19HIGH PA;25HA",
   "24MA;19LOW PA;24HA;23MA;19HIGH FA;24VA;24LA;19LOW FA;23VA;23LA;19HIGH HA;24DA;24BA;19LOW HA",
   "23DA;23BA;19HIGH KVA;24XVA;19LOW KVA;23XVA;19HIGH SUA;19LOW SUA;+19b0",
   "12VOWEL SIGN VOWEL SHORTENER;23AA;23II;23U;24U;23E;23AE;23O;24A;23UE;23AY;24AY;23UY;23OY;24AY",
   "23UEY;23IY;12LETTER FINAL V;25NG;26;25M;25K;25D;25B;12TONE MARK-1;222;+19d0;12DIGIT ZERO;18ONE",
   "18TWO;19HREE;18FOUR;19IVE;18SIX;19EVEN;18EIGHT;18NINE;12THAM DIGIT ONE;+19de;12SIGN LAE;20V",
   "00KHMER SYMBOL PATHAMASAT;13MUOY KOET;13PII KOET;13BEI KOET;14UON KOET;13PRAM KOET",
   "17-MUOY KOET;18PII KOET;18BEI KOET;19UON KOET;13DAP KOET;16-MUOY KOET;17PII KOET;17BEI KOET",
   "18UON KOET;17PRAM KOET;13TUTEYASAT;13MUOY ROC;13PII ROC;13BEI ROC;14UON ROC;13PRAM ROC",
   "17-MUOY ROC;18PII ROC;18BEI ROC;19UON ROC;13DAP ROC;16-MUOY ROC;17PII ROC;17BEI ROC;18UON ROC",
   "17PRAM ROC;00BUGINESE LETTER KA;16GA;16NGA;18KA;16PA;16BA;16MA;17PA;16TA;16DA;16NA;17RA;16CA",
   "16JA;16NYA;18CA;16YA;16RA;16LA;16VA;16SA;16A;16HA;09VOWEL SIGN I;20U;20E;20O;20AE;+1a1e",
   "09PALLAWA;09END OF SECTION;00TAI THAM LETTER HIGH KA;22HA;22XA;16LOW KA;21XA;21HA;16NGA",
   "16HIGH CA;22HA;16LOW CA;20SA;20CHA;16NYA;16RATA;16HIGH RATHA;16DA;16LOW RATHA;16RANA;16HIGH TA",
   "22HA;16LOW TA;21HA;16NA;16BA;16HIGH PA;22HA;21FA;16LOW PA;20FA;20PHA;16MA;16LOW YA;16HIGH YA",
   "16RA;17UE;16LA;17UE;16WA;16HIGH SHA;22SA;22A;21HA;16LLA;16A;16LOW HA;16I;17I;16U;17U;16EE;16OO",
   "16LAE;16GREAT SA;09CONSONANT SIGN MEDIAL RA;31LA;24LA TANG LAI;09SIGN MAI KANG LAI",
   "09CONSONANT SIGN FINAL NGA;24LOW PA;24HIGH RATHA OR LOW PA;24MA;24BA;24SA;+1a60;09SIGN SAKOT",
   "09VOWEL SIGN A;20MAI SAT;20AA;20TALL AA;20I;21I;20UE;21UE;21;21U;20O;21A BELOW;21Y;20E;20AE",
   "20OO;20AI;20THAM AI;20OA ABOVE;09SIGN MAI KANG;14TONE-1;192;14KHUEN TONE-3;254;255;14RA HAAM",
   "14MAI SAM;14KHUEN-LUE KARAN;+1a7f;09COMBINING CRYPTOGRAMMIC DOT;09HORA DIGIT ZERO;20ONE;20TWO",
   "21HREE;20FOUR;21IVE;20SIX;21EVEN;20EIGHT;20NINE;+1a90;09THAM DIGIT ZERO;20ONE;20TWO;21HREE",
   "20FOUR;21IVE;20SIX;21EVEN;20EIGHT;20NINE;+1aa0;09SIGN WIANG;19WAAK;14SAWAN;14KEOW;14HOY",
   "14DOKMAI;14REVERSED ROTATED RANA;14MAI YAMOK;14KAAN;18KUU;14SATKAAN;21KUU;14HANG;14CAANG;+1ab0",
   "00COMBINING DOUBLED CIRCUMFLEX ACCENT;11IAERESIS-RING;10INFINITY;10DOWNWARDS ARROW",
   "10TRIPLE DOT;10X-X BELOW;10WIGGLY LINE BELOW;10OPEN MARK BELOW;10DOUBLE OPEN MARK BELOW",
   "10LIGHT CENTRALIZATION STROKE BELOW;10STRONG CENTRALIZATION STROKE BELOW;10PARENTHESES ABOVE",
   "10DOUBLE PARENTHESES ABOVE;10PARENTHESES BELOW;22OVERLAY;10LATIN SMALL LETTER W BELOW",
   "29TURNED W BELOW;11EFT PARENTHESIS ABOVE LEFT;10RIGHT PARENTHESIS ABOVE RIGHT",
   "10LEFT PARENTHESIS BELOW LEFT;10RIGHT PARENTHESIS BELOW RIGHT;10SQUARE BRACKETS ABOVE",
   "10NUMBER SIGN ABOVE;10INVERTED DOUBLE ARCH ABOVE;10PLUS SIGN ABOVE;10DOUBLE PLUS SIGN ABOVE",
   "27BELOW;10TRIPLE ACUTE ACCENT;10LATIN SMALL LETTER INSULAR G;37R;37T;+1b00",
   "00BALINESE SIGN ULU RICEM;18CANDRA;14CECEK;14SURANG;14BISAH;09LETTER AKARA;21 TEDUNG;16IKARA",
   "21 TEDUNG;16UKARA;21 TEDUNG;16RA REPA;23 TEDUNG;16LA LENGA;24 TEDUNG;16EKARA;16AIKARA;16OKARA",
   "21 TEDUNG;16KA;18 MAHAPRANA;16GA;18 GORA;16NGA;16CA;18 LACA;16JA;18 JERA;16NYA;16TA LATIK",
   "19MURDA MAHAPRANA;16DA MURDA ALPAPRANA;25MAHAPRANA;16NA RAMBAT;16TA;18 TAWA;16DA;18 MADU;16NA",
   "16PA;18 KAPAL;16BA;18 KEMBANG;16MA;16YA;16RA;16LA;16WA;16SA SAGA;21PA;18;16HA;09SIGN REREKAN",
   "09VOWEL SIGN TEDUNG;20ULU;23 SARI;20SUKU;24 ILUT;20RA REPA;27 TEDUNG;20LA LENGA;28 TEDUNG",
   "20TALING;26 REPA;27TEDUNG;27REPA TEDUNG;20PEPET;25 TEDUNG;09ADEG ADEG;09LETTER KAF SASAK",
   "17HOT SASAK;16TZIR SASAK;16EF SASAK;16VE SASAK;16ZAL SASAK;16ASYURA SASAK;17RCHAIC JNYA;+1b50",
   "09DIGIT ZERO;15ONE;15TWO;16HREE;15FOUR;16IVE;15SIX;16EVEN;15EIGHT;15NINE;09PANTI;11MADA",
   "09WINDU;09CARIK PAMUNGKAH;15SIKI;15PAREREN;09PAMENENG;09MUSICAL SYMBOL DONG;25ENG;25UNG;25ANG",
   "28 SURANG;25ING;25AENG;25EUNG;25AING;26NG GEDE;24COMBINING TEGEH;34ENDEP;34KEMPUL;38LI",
   "34JEGOGAN;34KEMPUL WITH JEGOGAN;38LI WITH JEGOGAN;34BENDE;34GONG;24RIGHT-HAND OPEN DUG;41AG",
   "35CLOSED TUK;43AK;24LEFT-HAND OPEN PANG;40UNG;34CLOSED PLAK;43UK;34OPEN PING;09PANTI LANTANG",
   "11MADA LANTANG;+1b80;00SUNDANESE SIGN PANYECEK;18GLAYAR;19WISAD;10LETTER A;17I;17U;17AE;17O",
   "17E;18U;17KA;17QA;17GA;17NGA;17CA;17JA;17ZA;17NYA;17TA;17DA;17NA;17PA;17FA;17VA;17BA;17MA;17YA",
   "17RA;17LA;17WA;17SA;17XA;17HA;10CONSONANT SIGN PAMINGKAL;27NYAKRA;29IKU;10VOWEL SIGN PANGHULU",
   "24YUKU;24AELAENG;24OLONG;23MEPET;23NEULEUNG;10SIGN PAMAAEH;15VIRAMA",
   "10CONSONANT SIGN PASANGAN MA;34WA;10LETTER KHA;17SYA;10DIGIT ZERO;16ONE;16TWO;17HREE;16FOUR",
   "17IVE;16SIX;17EVEN;16EIGHT;16NINE;10AVAGRAHA;10LETTER REU;17LEU;17BHA;17FINAL K;23M",
   "00BATAK LETTER A;13SIMALUNGUN A;13HA;13SIMALUNGUN HA;13MANDAILING HA;13BA;13KARO BA;13PA",
   "13SIMALUNGUN PA;13NA;13MANDAILING NA;13WA;13SIMALUNGUN WA;13PAKPAK WA;13GA;13SIMALUNGUN GA",
   "13JA;13DA;13RA;13SIMALUNGUN RA;13MA;13SIMALUNGUN MA;14OUTHERN TA;13NORTHERN TA;13SA",
   "14IMALUNGUN SA;13MANDAILING SA;13YA;13SIMALUNGUN YA;13NGA;13LA;13SIMALUNGUN LA;13NYA;13CA",
   "13NDA;13MBA;13I;13U;06SIGN TOMPI;06VOWEL SIGN E;17PAKPAK E;17EE;17I;17KARO I;17O;17KARO O;17U",
   "18 FOR SIMALUNGUN SA;06CONSONANT SIGN NG;21H;06PANGOLAT;09ONGONAN;+1bfc",
   "06SYMBOL BINDU NA METEK;19PINARBORAS;19JUDUL;19PANGOLAT;00LEPCHA LETTER KA;15LA;15HA;14GA;15LA",
   "14NGA;14CA;15HA;14JA;14NYA;14TA;15HA;14DA;14NA;14PA;15LA;15HA;14FA;15LA;14BA;15LA;14MA;15LA",
   "14TSA;16HA;14DZA;14YA;14RA;14LA;14HA;15LA;14VA;14SA;15HA;14WA;14A;07SUBJOINED LETTER YA;24RA",
   "07VOWEL SIGN AA;18I;18O;19O;18U;19U;18E;07CONSONANT SIGN K;22M;22L;22N;22P;22R;22T;22NYIN-DO",
   "22KANG;07SIGN RAN;12NUKTA;+1c3b;07PUNCTUATION TA-ROL;19NYET THYOOM TA-ROL;19CER-WA",
   "19TSHOOK CER-WA;25;07DIGIT ZERO;13ONE;13TWO;14HREE;13FOUR;14IVE;13SIX;14EVEN;13EIGHT;13NINE",
   "+1c4d;07LETTER TTA;16HA;14DDA;00OL CHIKI DIGIT ZERO;15ONE;15TWO;16HREE;15FOUR;16IVE;15SIX",
   "16EVEN;15EIGHT;15NINE;09LETTER LA;16AT;17G;17NG;17L;16LAA;16AAK;18J;18M;18W;16LI;16IS;17H;17NY",
   "17R;16LU;16UC;17D;17NN;17Y;16LE;16EP;17DD;17N;17RR;16LO;16OTT;17B;17V;17H;09MU TTUDDAG",
   "09GAAHLAA TTUDDAAG;09MU-GAAHLAA TTUDDAAG;09RELAA;09PHAARKAA;09AHAD;09PUNCTUATION MUCAAD",
   "21DOUBLE MUCAAD;00CYRILLIC SMALL LETTER ROUNDED VE;22LONG-LEGGED DE;22NARROW O;22WIDE ES",
   "22TALL TE;23HREE-LEGGED TE;23ALL HARD SIGN;27YAT;22UNBLENDED UK;+1c90",
   "00GEORGIAN MTAVRULI CAPITAL LETTER AN;33BAN;33GAN;33DON;33EN;33VIN;33ZEN;33TAN;33IN;33KAN",
   "33LAS;33MAN;33NAR;33ON;33PAR;33ZHAR;33RAE;33SAN;33TAR;33UN;33PHAR;33KHAR;33GHAN;33QAR;33SHIN",
   "33CHIN;34AN;33JIL;33CIL;34HAR;33XAN;33JHAN;33HAE;34E;34IE;33WE;33HAR;34OE;33FI;33YN;33ELIFI",
   "33TURNED GAN;33AIN;+1cbd;34EN;33HARD SIGN;33LABIAL SIGN;00SUNDANESE PUNCTUATION BINDU SURYA",
   "28PANGLONG;29URNAMA;28CAKRA;28LEU SATANGA;28KA SATANGA;28DA SATANGA;28BA SATANGA;+1cd0",
   "00VEDIC TONE KARSHANA;11SHARA;11PRENKHA;06SIGN NIHSHVASA;11YAJURVEDIC MIDLINE SVARITA",
   "06TONE YAJURVEDIC AGGRAVATED INDEPENDENT SVARITA;22INDEPENDENT SVARITA",
   "22KATHAKA INDEPENDENT SVARITA;11CANDRA BELOW",
   "11YAJURVEDIC KATHAKA INDEPENDENT SVARITA SCHROEDER;11DOUBLE SVARITA;11TRIPLE SVARITA",
   "11KATHAKA ANUDATTA;11DOT BELOW;11TWO DOTS BELOW;12HREE DOTS BELOW",
   "11RIGVEDIC KASHMIRI INDEPENDENT SVARITA;11ATHARVAVEDIC INDEPENDENT SVARITA",
   "06SIGN VISARGA SVARITA;19UDATTA;11REVERSED VISARGA UDATTA;11VISARGA ANUDATTA",
   "11REVERSED VISARGA ANUDATTA;11VISARGA UDATTA WITH TAIL;19ANUDATTA WITH TAIL",
   "11ANUSVARA ANTARGOMUKHA;20BAHIRGOMUKHA;20VAMAGOMUKHA;31 WITH TAIL;11TIRYAK",
   "11HEXIFORM LONG ANUSVARA;11LONG ANUSVARA;11RTHANG LONG ANUSVARA;11ANUSVARA UBHAYATO MUKHA",
   "12RDHAVISARGA;11ROTATED ARDHAVISARGA;06TONE CANDRA ABOVE;06SIGN JIHVAMULIYA;11UPADHMANIYA",
   "11ATIKRAMA;06TONE RING ABOVE;11DOUBLE RING ABOVE;06SIGN DOUBLE ANUSVARA ANTARGOMUKHA;+1d00",
   "00LATIN LETTER SMALL CAPITAL A;28E;06SMALL LETTER TURNED AE;06LETTER SMALL CAPITAL BARRED B",
   "27C;27D;27ETH;28;06SMALL LETTER TURNED OPEN E;26I;06LETTER SMALL CAPITAL J;27K;27L WITH STROKE",
   "27M;27REVERSED N;27O;28PEN O;06SMALL LETTER SIDEWAYS O;29PEN O;29 WITH STROKE;19TURNED OE",
   "06LETTER SMALL CAPITAL OU;06SMALL LETTER TOP HALF O;19BOTTOM HALF O;06LETTER SMALL CAPITAL P",
   "27REVERSED R;27TURNED R;28;27U;06SMALL LETTER SIDEWAYS U;28DIAERESIZED U;28TURNED M",
   "06LETTER SMALL CAPITAL V;27W;27Z;27EZH;13VOICED LARYNGEAL SPIRANT;13AIN",
   "00GREEK LETTER SMALL CAPITAL GAMMA;27LAMDA;27PI;27RHO;27PSI;00CYRILLIC LETTER SMALL CAPITAL EL",
   "00MODIFIER LETTER CAPITAL A;25E;24B;25ARRED B;24D;24E;24REVERSED E;24G;24H;24I;24J;24K;24L;24M",
   "24N;24REVERSED N;24O;25U;24P;24R;24T;24U;24W;16SMALL A;22TURNED A;22ALPHA;22TURNED AE;22B;22D",
   "22E;22SCHWA;22OPEN E;22TURNED OPEN E;22G;22TURNED I;22K;22M;22ENG;22O;23PEN O;22TOP HALF O",
   "22BOTTOM HALF O;22P;22T;22U;22SIDEWAYS U;22TURNED M;22V;22AIN;22BETA;22GREEK GAMMA;22DELTA",
   "22GREEK PHI;22CHI;00LATIN SUBSCRIPT SMALL LETTER I;29R;29U;29V",
   "00GREEK SUBSCRIPT SMALL LETTER BETA;29GAMMA;29RHO;29PHI;29CHI;00LATIN SMALL LETTER UE",
   "19B WITH MIDDLE TILDE;19D WITH MIDDLE TILDE;19F WITH MIDDLE TILDE;19M WITH MIDDLE TILDE",
   "19N WITH MIDDLE TILDE;19P WITH MIDDLE TILDE;19R WITH MIDDLE TILDE;26FISHHOOK AND MIDDLE TILDE",
   "19S WITH MIDDLE TILDE;19T WITH MIDDLE TILDE;19Z WITH MIDDLE TILDE;19TURNED G",
   "00MODIFIER LETTER CYRILLIC EN;00LATIN SMALL LETTER INSULAR G;19TH WITH STRIKETHROUGH",
   "12CAPITAL LETTER I WITH STROKE;12LETTER IOTA WITH STROKE;19P WITH STROKE",
   "12CAPITAL LETTER U WITH STROKE;12LETTER UPSILON WITH STROKE;19B WITH PALATAL HOOK",
   "19D WITH PALATAL HOOK;19F WITH PALATAL HOOK;19G WITH PALATAL HOOK;19K WITH PALATAL HOOK",
   "19L WITH PALATAL HOOK;19M WITH PALATAL HOOK;19N WITH PALATAL HOOK;19P WITH PALATAL HOOK",
   "19R WITH PALATAL HOOK;19S WITH PALATAL HOOK;19ESH WITH PALATAL HOOK;19V WITH PALATAL HOOK",
   "19X WITH PALATAL HOOK;19Z WITH PALATAL HOOK;19A WITH RETROFLEX HOOK;20LPHA WITH RETROFLEX HOOK",
   "19D WITH HOOK AND TAIL;19E WITH RETROFLEX HOOK;19OPEN E WITH RETROFLEX HOOK",
   "19REVERSED OPEN E WITH RETROFLEX HOOK;19SCHWA WITH RETROFLEX HOOK;19I WITH RETROFLEX HOOK",
   "19OPEN O WITH RETROFLEX HOOK;19ESH WITH RETROFLEX HOOK;19U WITH RETROFLEX HOOK",
   "19EZH WITH RETROFLEX HOOK;00MODIFIER LETTER SMALL TURNED ALPHA;22C;23 WITH CURL;22ETH",
   "22REVERSED OPEN E;22F;22DOTLESS J WITH STROKE;22SCRIPT G;22TURNED H;22I WITH STROKE;23OTA",
   "22CAPITAL I;31 WITH STROKE;22J WITH CROSSED-TAIL;22L WITH RETROFLEX HOOK;29PALATAL HOOK",
   "22CAPITAL L;22M WITH HOOK;22TURNED M WITH LONG LEG;22N WITH LEFT HOOK;29RETROFLEX HOOK",
   "22CAPITAL N;22BARRED O;22PHI;22S WITH HOOK;22ESH;22T WITH PALATAL HOOK;22U BAR;23PSILON",
   "22CAPITAL U;22V WITH HOOK;22TURNED V;22Z;23 WITH RETROFLEX HOOK;29CURL;22EZH;22THETA",
   "00COMBINING DOTTED GRAVE ACCENT;17ACUTE ACCENT;10SNAKE BELOW;11USPENSION MARK;10MACRON-ACUTE",
   "10GRAVE-MACRON;10MACRON-GRAVE;10ACUTE-MACRON;10GRAVE-ACUTE-GRAVE;10ACUTE-GRAVE-ACUTE",
   "10LATIN SMALL LETTER R BELOW;10BREVE-MACRON;10MACRON-BREVE;10DOUBLE CIRCUMFLEX ABOVE",
   "10OGONEK ABOVE;10ZIGZAG BELOW;10IS BELOW;10UR ABOVE;11S ABOVE",
   "10LATIN SMALL LETTER FLATTENED OPEN A ABOVE;29AE;30O;30V;29C CEDILLA;29INSULAR D;29ETH;29G",
   "16LETTER SMALL CAPITAL G;16SMALL LETTER K;29L;16LETTER SMALL CAPITAL L;37M;16SMALL LETTER N",
   "16LETTER SMALL CAPITAL N;37R;16SMALL LETTER R ROTUNDA;29S;29LONG S;29Z;29ALPHA;29B;30ETA",
   "29SCHWA;29F;29L WITH DOUBLE MIDDLE TILDE;29O WITH LIGHT CENTRALIZATION STROKE;29P;29ESH",
   "29U WITH LIGHT CENTRALIZATION STROKE;29W;29A WITH DIAERESIS;29O WITH DIAERESIS",
   "29U WITH DIAERESIS;10UP TACK ABOVE;10KAVYKA ABOVE RIGHT;23LEFT;10DOT ABOVE LEFT",
   "10WIDE INVERTED BRIDGE BELOW;10DOT BELOW LEFT;11ELETION MARK;11OUBLE INVERTED BREVE BELOW",
   "10ALMOST EQUAL TO BELOW;10LEFT ARROWHEAD ABOVE;10RIGHT ARROWHEAD AND DOWN ARROWHEAD BELOW",
   "00LATIN CAPITAL LETTER A WITH RING BELOW;06SMALL LETTER A WITH RING BELOW",
   "06CAPITAL LETTER B WITH DOT ABOVE;06SMALL LETTER B WITH DOT ABOVE",
   "06CAPITAL LETTER B WITH DOT BELOW;06SMALL LETTER B WITH DOT BELOW",
   "06CAPITAL LETTER B WITH LINE BELOW;06SMALL LETTER B WITH LINE BELOW",
   "06CAPITAL LETTER C WITH CEDILLA AND ACUTE;06SMALL LETTER C WITH CEDILLA AND ACUTE",
   "06CAPITAL LETTER D WITH DOT ABOVE;06SMALL LETTER D WITH DOT ABOVE",
   "06CAPITAL LETTER D WITH DOT BELOW;06SMALL LETTER D WITH DOT BELOW",
   "06CAPITAL LETTER D WITH LINE BELOW;06SMALL LETTER D WITH LINE BELOW",
   "06CAPITAL LETTER D WITH CEDILLA;06SMALL LETTER D WITH CEDILLA",
   "06CAPITAL LETTER D WITH CIRCUMFLEX BELOW;06SMALL LETTER D WITH CIRCUMFLEX BELOW",
   "06CAPITAL LETTER E WITH MACRON AND GRAVE;06SMALL LETTER E WITH MACRON AND GRAVE",
   "06CAPITAL LETTER E WITH MACRON AND ACUTE;06SMALL LETTER E WITH MACRON AND ACUTE",
   "06CAPITAL LETTER E WITH CIRCUMFLEX BELOW;06SMALL LETTER E WITH CIRCUMFLEX BELOW",
   "06CAPITAL LETTER E WITH TILDE BELOW;06SMALL LETTER E WITH TILDE BELOW",
   "06CAPITAL LETTER E WITH CEDILLA AND BREVE;06SMALL LETTER E WITH CEDILLA AND BREVE",
   "06CAPITAL LETTER F WITH DOT ABOVE;06SMALL LETTER F WITH DOT ABOVE",
   "06CAPITAL LETTER G WITH MACRON;06SMALL LETTER G WITH MACRON;06CAPITAL LETTER H WITH DOT ABOVE",
   "06SMALL LETTER H WITH DOT ABOVE;06CAPITAL LETTER H WITH DOT BELOW",
   "06SMALL LETTER H WITH DOT BELOW;06CAPITAL LETTER H WITH DIAERESIS",
   "06SMALL LETTER H WITH DIAERESIS;06CAPITAL LETTER H WITH CEDILLA;06SMALL LETTER H WITH CEDILLA",
   "06CAPITAL LETTER H WITH BREVE BELOW;06SMALL LETTER H WITH BREVE BELOW",
   "06CAPITAL LETTER I WITH TILDE BELOW;06SMALL LETTER I WITH TILDE BELOW",
   "06CAPITAL LETTER I WITH DIAERESIS AND ACUTE;06SMALL LETTER I WITH DIAERESIS AND ACUTE",
   "06CAPITAL LETTER K WITH ACUTE;06SMALL LETTER K WITH ACUTE;06CAPITAL LETTER K WITH DOT BELOW",
   "06SMALL LETTER K WITH DOT BELOW;06CAPITAL LETTER K WITH LINE BELOW",
   "06SMALL LETTER K WITH LINE BELOW;06CAPITAL LETTER L WITH DOT BELOW",
   "06SMALL LETTER L WITH DOT BELOW;06CAPITAL LETTER L WITH DOT BELOW AND MACRON",
   "06SMALL LETTER L WITH DOT BELOW AND MACRON;06CAPITAL LETTER L WITH LINE BELOW",
   "06SMALL LETTER L WITH LINE BELOW;06CAPITAL LETTER L WITH CIRCUMFLEX BELOW",
   "06SMALL LETTER L WITH CIRCUMFLEX BELOW;06CAPITAL LETTER M WITH ACUTE",
   "06SMALL LETTER M WITH ACUTE;06CAPITAL LETTER M WITH DOT ABOVE;06SMALL LETTER M WITH DOT ABOVE",
   "06CAPITAL LETTER M WITH DOT BELOW;06SMALL LETTER M WITH DOT BELOW",
   "06CAPITAL LETTER N WITH DOT ABOVE;06SMALL LETTER N WITH DOT ABOVE",
   "06CAPITAL LETTER N WITH DOT BELOW;06SMALL LETTER N WITH DOT BELOW",
   "06CAPITAL LETTER N WITH LINE BELOW;06SMALL LETTER N WITH LINE BELOW",
   "06CAPITAL LETTER N WITH CIRCUMFLEX BELOW;06SMALL LETTER N WITH CIRCUMFLEX BELOW",
   "06CAPITAL LETTER O WITH TILDE AND ACUTE;06SMALL LETTER O WITH TILDE AND ACUTE",
   "06CAPITAL LETTER O WITH TILDE AND DIAERESIS;06SMALL LETTER O WITH TILDE AND DIAERESIS",
   "06CAPITAL LETTER O WITH MACRON AND GRAVE;06SMALL LETTER O WITH MACRON AND GRAVE",
   "06CAPITAL LETTER O WITH MACRON AND ACUTE;06SMALL LETTER O WITH MACRON AND ACUTE",
   "06CAPITAL LETTER P WITH ACUTE;06SMALL LETTER P WITH ACUTE;06CAPITAL LETTER P WITH DOT ABOVE",
   "06SMALL LETTER P WITH DOT ABOVE;06CAPITAL LETTER R WITH DOT ABOVE",
   "06SMALL LETTER R WITH DOT ABOVE;06CAPITAL LETTER R WITH DOT BELOW",
   "06SMALL LETTER R WITH DOT BELOW;06CAPITAL LETTER R WITH DOT BELOW AND MACRON",
   "06SMALL LETTER R WITH DOT BELOW AND MACRON;06CAPITAL LETTER R WITH LINE BELOW",
   "06SMALL LETTER R WITH LINE BELOW;06CAPITAL LETTER S WITH DOT ABOVE",
   "06SMALL LETTER S WITH DOT ABOVE;06CAPITAL LETTER S WITH DOT BELOW",
   "06SMALL LETTER S WITH DOT BELOW;06CAPITAL LETTER S WITH ACUTE AND DOT ABOVE",
   "06SMALL LETTER S WITH ACUTE AND DOT ABOVE;06CAPITAL LETTER S WITH CARON AND DOT ABOVE",
   "06SMALL LETTER S WITH CARON AND DOT ABOVE;06CAPITAL LETTER S WITH DOT BELOW AND DOT ABOVE",
   "06SMALL LETTER S WITH DOT BELOW AND DOT ABOVE;06CAPITAL LETTER T WITH DOT ABOVE",
   "06SMALL LETTER T WITH DOT ABOVE;06CAPITAL LETTER T WITH DOT BELOW",
   "06SMALL LETTER T WITH DOT BELOW;06CAPITAL LETTER T WITH LINE BELOW",
   "06SMALL LETTER T WITH LINE BELOW;06CAPITAL LETTER T WITH CIRCUMFLEX BELOW",
   "06SMALL LETTER T WITH CIRCUMFLEX BELOW;06CAPITAL LETTER U WITH DIAERESIS BELOW",
   "06SMALL LETTER U WITH DIAERESIS BELOW;06CAPITAL LETTER U WITH TILDE BELOW",
   "06SMALL LETTER U WITH TILDE BELOW;06CAPITAL LETTER U WITH CIRCUMFLEX BELOW",
   "06SMALL LETTER U WITH CIRCUMFLEX BELOW;06CAPITAL LETTER U WITH TILDE AND ACUTE",
   "06SMALL LETTER U WITH TILDE AND ACUTE;06CAPITAL LETTER U WITH MACRON AND DIAERESIS",
   "06SMALL LETTER U WITH MACRON AND DIAERESIS;06CAPITAL LETTER V WITH TILDE",
   "06SMALL LETTER V WITH TILDE;06CAPITAL LETTER V WITH DOT BELOW;06SMALL LETTER V WITH DOT BELOW",
   "06CAPITAL LETTER W WITH GRAVE;06SMALL LETTER W WITH GRAVE;06CAPITAL LETTER W WITH ACUTE",
   "06SMALL LETTER W WITH ACUTE;06CAPITAL LETTER W WITH DIAERESIS;06SMALL LETTER W WITH DIAERESIS",
   "06CAPITAL LETTER W WITH DOT ABOVE;06SMALL LETTER W WITH DOT ABOVE",
   "06CAPITAL LETTER W WITH DOT BELOW;06SMALL LETTER W WITH DOT BELOW",
   "06CAPITAL LETTER X WITH DOT ABOVE;06SMALL LETTER X WITH DOT ABOVE",
   "06CAPITAL LETTER X WITH DIAERESIS;06SMALL LETTER X WITH DIAERESIS",
   "06CAPITAL LETTER Y WITH DOT ABOVE;06SMALL LETTER Y WITH DOT ABOVE",
   "06CAPITAL LETTER Z WITH CIRCUMFLEX;06SMALL LETTER Z WITH CIRCUMFLEX",
   "06CAPITAL LETTER Z WITH DOT BELOW;06SMALL LETTER Z WITH DOT BELOW",
   "06CAPITAL LETTER Z WITH LINE BELOW;06SMALL LETTER Z WITH LINE BELOW;19H WITH LINE BELOW",
   "19T WITH DIAERESIS;19W WITH RING ABOVE;19Y WITH RING ABOVE;19A WITH RIGHT HALF RING",
   "19LONG S WITH DOT ABOVE;32IAGONAL STROKE;31HIGH STROKE;06CAPITAL LETTER SHARP S",
   "06SMALL LETTER DELTA;06CAPITAL LETTER A WITH DOT BELOW;06SMALL LETTER A WITH DOT BELOW",
   "06CAPITAL LETTER A WITH HOOK ABOVE;06SMALL LETTER A WITH HOOK ABOVE",
   "06CAPITAL LETTER A WITH CIRCUMFLEX AND ACUTE;06SMALL LETTER A WITH CIRCUMFLEX AND ACUTE",
   "06CAPITAL LETTER A WITH CIRCUMFLEX AND GRAVE;06SMALL LETTER A WITH CIRCUMFLEX AND GRAVE",
   "06CAPITAL LETTER A WITH CIRCUMFLEX AND HOOK ABOVE",
   "06SMALL LETTER A WITH CIRCUMFLEX AND HOOK ABOVE;06CAPITAL LETTER A WITH CIRCUMFLEX AND TILDE",
   "06SMALL LETTER A WITH CIRCUMFLEX AND TILDE;06CAPITAL LETTER A WITH CIRCUMFLEX AND DOT BELOW",
   "06SMALL LETTER A WITH CIRCUMFLEX AND DOT BELOW;06CAPITAL LETTER A WITH BREVE AND ACUTE",
   "06SMALL LETTER A WITH BREVE AND ACUTE;06CAPITAL LETTER A WITH BREVE AND GRAVE",
   "06SMALL LETTER A WITH BREVE AND GRAVE;06CAPITAL LETTER A WITH BREVE AND HOOK ABOVE",
   "06SMALL LETTER A WITH BREVE AND HOOK ABOVE;06CAPITAL LETTER A WITH BREVE AND TILDE",
   "06SMALL LETTER A WITH BREVE AND TILDE;06CAPITAL LETTER A WITH BREVE AND DOT BELOW",
   "06SMALL LETTER A WITH BREVE AND DOT BELOW;06CAPITAL LETTER E WITH DOT BELOW",
   "06SMALL LETTER E WITH DOT BELOW;06CAPITAL LETTER E WITH HOOK ABOVE",
   "06SMALL LETTER E WITH HOOK ABOVE;06CAPITAL LETTER E WITH TILDE;06SMALL LETTER E WITH TILDE",
   "06CAPITAL LETTER E WITH CIRCUMFLEX AND ACUTE;06SMALL LETTER E WITH CIRCUMFLEX AND ACUTE",
   "06CAPITAL LETTER E WITH CIRCUMFLEX AND GRAVE;06SMALL LETTER E WITH CIRCUMFLEX AND GRAVE",
   "06CAPITAL LETTER E WITH CIRCUMFLEX AND HOOK ABOVE",
   "06SMALL LETTER E WITH CIRCUMFLEX AND HOOK ABOVE;06CAPITAL LETTER E WITH CIRCUMFLEX AND TILDE",
   "06SMALL LETTER E WITH CIRCUMFLEX AND TILDE;06CAPITAL LETTER E WITH CIRCUMFLEX AND DOT BELOW",
   "06SMALL LETTER E WITH CIRCUMFLEX AND DOT BELOW;06CAPITAL LETTER I WITH HOOK ABOVE",
   "06SMALL LETTER I WITH HOOK ABOVE;06CAPITAL LETTER I WITH DOT BELOW",
   "06SMALL LETTER I WITH DOT BELOW;06CAPITAL LETTER O WITH DOT BELOW",
   "06SMALL LETTER O WITH DOT BELOW;06CAPITAL LETTER O WITH HOOK ABOVE",
   "06SMALL LETTER O WITH HOOK ABOVE;06CAPITAL LETTER O WITH CIRCUMFLEX AND ACUTE",
   "06SMALL LETTER O WITH CIRCUMFLEX AND ACUTE;06CAPITAL LETTER O WITH CIRCUMFLEX AND GRAVE",
   "06SMALL LETTER O WITH CIRCUMFLEX AND GRAVE;06CAPITAL LETTER O WITH CIRCUMFLEX AND HOOK ABOVE",
   "06SMALL LETTER O WITH CIRCUMFLEX AND HOOK ABOVE;06CAPITAL LETTER O WITH CIRCUMFLEX AND TILDE",
   "06SMALL LETTER O WITH CIRCUMFLEX AND TILDE;06CAPITAL LETTER O WITH CIRCUMFLEX AND DOT BELOW",
   "06SMALL LETTER O WITH CIRCUMFLEX AND DOT BELOW;06CAPITAL LETTER O WITH HORN AND ACUTE",
   "06SMALL LETTER O WITH HORN AND ACUTE;06CAPITAL LETTER O WITH HORN AND GRAVE",
   "06SMALL LETTER O WITH HORN AND GRAVE;06CAPITAL LETTER O WITH HORN AND HOOK ABOVE",
   "06SMALL LETTER O WITH HORN AND HOOK ABOVE;06CAPITAL LETTER O WITH HORN AND TILDE",
   "06SMALL LETTER O WITH HORN AND TILDE;06CAPITAL LETTER O WITH HORN AND DOT BELOW",
   "06SMALL LETTER O WITH HORN AND DOT BELOW;06CAPITAL LETTER U WITH DOT BELOW",
   "06SMALL LETTER U WITH DOT BELOW;06CAPITAL LETTER U WITH HOOK ABOVE",
   "06SMALL LETTER U WITH HOOK ABOVE;06CAPITAL LETTER U WITH HORN AND ACUTE",
   "06SMALL LETTER U WITH HORN AND ACUTE;06CAPITAL LETTER U WITH HORN AND GRAVE",
   "06SMALL LETTER U WITH HORN AND GRAVE;06CAPITAL LETTER U WITH HORN AND HOOK ABOVE",
   "06SMALL LETTER U WITH HORN AND HOOK ABOVE;06CAPITAL LETTER U WITH HORN AND TILDE",
   "06SMALL LETTER U WITH HORN AND TILDE;06CAPITAL LETTER U WITH HORN AND DOT BELOW",
   "06SMALL LETTER U WITH HORN AND DOT BELOW;06CAPITAL LETTER Y WITH GRAVE",
   "06SMALL LETTER Y WITH GRAVE;06CAPITAL LETTER Y WITH DOT BELOW;06SMALL LETTER Y WITH DOT BELOW",
   "06CAPITAL LETTER Y WITH HOOK ABOVE;06SMALL LETTER Y WITH HOOK ABOVE",
   "06CAPITAL LETTER Y WITH TILDE;06SMALL LETTER Y WITH TILDE;06CAPITAL LETTER MIDDLE-WELSH LL",
   "06SMALL LETTER MIDDLE-WELSH LL;06CAPITAL LETTER MIDDLE-WELSH V;06SMALL LETTER MIDDLE-WELSH V",
   "06CAPITAL LETTER Y WITH LOOP;06SMALL LETTER Y WITH LOOP;00GREEK SMALL LETTER ALPHA WITH PSILI",
   "30DASIA;30PSILI AND VARIA;30DASIA AND VARIA;30PSILI AND OXIA;30DASIA AND OXIA",
   "30PSILI AND PERISPOMENI;30DASIA AND PERISPOMENI;06CAPITAL LETTER ALPHA WITH PSILI;32DASIA",
   "32PSILI AND VARIA;32DASIA AND VARIA;32PSILI AND OXIA;32DASIA AND OXIA;32PSILI AND PERISPOMENI",
   "32DASIA AND PERISPOMENI;06SMALL LETTER EPSILON WITH PSILI;32DASIA;32PSILI AND VARIA",
   "32DASIA AND VARIA;32PSILI AND OXIA;32DASIA AND OXIA;+1f18;06CAPITAL LETTER EPSILON WITH PSILI",
   "34DASIA;34PSILI AND VARIA;34DASIA AND VARIA;34PSILI AND OXIA;34DASIA AND OXIA;+1f20",
   "06SMALL LETTER ETA WITH PSILI;28DASIA;28PSILI AND VARIA;28DASIA AND VARIA;28PSILI AND OXIA",
   "28DASIA AND OXIA;28PSILI AND PERISPOMENI;28DASIA AND PERISPOMENI",
   "06CAPITAL LETTER ETA WITH PSILI;30DASIA;30PSILI AND VARIA;30DASIA AND VARIA;30PSILI AND OXIA",
   "30DASIA AND OXIA;30PSILI AND PERISPOMENI;30DASIA AND PERISPOMENI",
   "06SMALL LETTER IOTA WITH PSILI;29DASIA;29PSILI AND VARIA;29DASIA AND VARIA;29PSILI AND OXIA",
   "29DASIA AND OXIA;29PSILI AND PERISPOMENI;29DASIA AND PERISPOMENI",
   "06CAPITAL LETTER IOTA WITH PSILI;31DASIA;31PSILI AND VARIA;31DASIA AND VARIA;31PSILI AND OXIA",
   "31DASIA AND OXIA;31PSILI AND PERISPOMENI;31DASIA AND PERISPOMENI",
   "06SMALL LETTER OMICRON WITH PSILI;32DASIA;32PSILI AND VARIA;32DASIA AND VARIA;32PSILI AND OXIA",
   "32DASIA AND OXIA;+1f48;06CAPITAL LETTER OMICRON WITH PSILI;34DASIA;34PSILI AND VARIA",
   "34DASIA AND VARIA;34PSILI AND OXIA;34DASIA AND OXIA;+1f50;06SMALL LETTER UPSILON WITH PSILI",
   "32DASIA;32PSILI AND VARIA;32DASIA AND VARIA;32PSILI AND OXIA;32DASIA AND OXIA",
   "32PSILI AND PERISPOMENI;32DASIA AND PERISPOMENI;+1f59;06CAPITAL LETTER UPSILON WITH DASIA",
   "+1f5b;39 AND VARIA;+1f5d;44OXIA;+1f5f;44PERISPOMENI;06SMALL LETTER OMEGA WITH PSILI;30DASIA",
   "30PSILI AND VARIA;30DASIA AND VARIA;30PSILI AND OXIA;30DASIA AND OXIA;30PSILI AND PERISPOMENI",
   "30DASIA AND PERISPOMENI;06CAPITAL LETTER OMEGA WITH PSILI;32DASIA;32PSILI AND VARIA",
   "32DASIA AND VARIA;32PSILI AND OXIA;32DASIA AND OXIA;32PSILI AND PERISPOMENI",
   "32DASIA AND PERISPOMENI;06SMALL LETTER ALPHA WITH VARIA;30OXIA;19EPSILON WITH VARIA;32OXIA",
   "20TA WITH VARIA;28OXIA;19IOTA WITH VARIA;29OXIA;19OMICRON WITH VARIA;32OXIA",
   "19UPSILON WITH VARIA;32OXIA;19OMEGA WITH VARIA;30OXIA;+1f80",
   "19ALPHA WITH PSILI AND YPOGEGRAMMENI;30DASIA AND YPOGEGRAMMENI",
   "30PSILI AND VARIA AND YPOGEGRAMMENI;30DASIA AND VARIA AND YPOGEGRAMMENI",
   "30PSILI AND OXIA AND YPOGEGRAMMENI;30DASIA AND OXIA AND YPOGEGRAMMENI",
   "30PSILI AND PERISPOMENI AND YPOGEGRAMMENI;30DASIA AND PERISPOMENI AND YPOGEGRAMMENI",
   "06CAPITAL LETTER ALPHA WITH PSILI AND PROSGEGRAMMENI;32DASIA AND PROSGEGRAMMENI",
   "32PSILI AND VARIA AND PROSGEGRAMMENI;32DASIA AND VARIA AND PROSGEGRAMMENI",
   "32PSILI AND OXIA AND PROSGEGRAMMENI;32DASIA AND OXIA AND PROSGEGRAMMENI",
   "32PSILI AND PERISPOMENI AND PROSGEGRAMMENI;32DASIA AND PERISPOMENI AND PROSGEGRAMMENI",
   "06SMALL LETTER ETA WITH PSILI AND YPOGEGRAMMENI;28DASIA AND YPOGEGRAMMENI",
   "28PSILI AND VARIA AND YPOGEGRAMMENI;28DASIA AND VARIA AND YPOGEGRAMMENI",
   "28PSILI AND OXIA AND YPOGEGRAMMENI;28DASIA AND OXIA AND YPOGEGRAMMENI",
   "28PSILI AND PERISPOMENI AND YPOGEGRAMMENI;28DASIA AND PERISPOMENI AND YPOGEGRAMMENI",
   "06CAPITAL LETTER ETA WITH PSILI AND PROSGEGRAMMENI;30DASIA AND PROSGEGRAMMENI",
   "30PSILI AND VARIA AND PROSGEGRAMMENI;30DASIA AND VARIA AND PROSGEGRAMMENI",
   "30PSILI AND OXIA AND PROSGEGRAMMENI;30DASIA AND OXIA AND PROSGEGRAMMENI",
   "30PSILI AND PERISPOMENI AND PROSGEGRAMMENI;30DASIA AND PERISPOMENI AND PROSGEGRAMMENI",
   "06SMALL LETTER OMEGA WITH PSILI AND YPOGEGRAMMENI;30DASIA AND YPOGEGRAMMENI",
   "30PSILI AND VARIA AND YPOGEGRAMMENI;30DASIA AND VARIA AND YPOGEGRAMMENI",
   "30PSILI AND OXIA AND YPOGEGRAMMENI;30DASIA AND OXIA AND YPOGEGRAMMENI",
   "30PSILI AND PERISPOMENI AND YPOGEGRAMMENI;30DASIA AND PERISPOMENI AND YPOGEGRAMMENI",
   "06CAPITAL LETTER OMEGA WITH PSILI AND PROSGEGRAMMENI;32DASIA AND PROSGEGRAMMENI",
   "32PSILI AND VARIA AND PROSGEGRAMMENI;32DASIA AND VARIA AND PROSGEGRAMMENI",
   "32PSILI AND OXIA AND PROSGEGRAMMENI;32DASIA AND OXIA AND PROSGEGRAMMENI",
   "32PSILI AND PERISPOMENI AND PROSGEGRAMMENI;32DASIA AND PERISPOMENI AND PROSGEGRAMMENI",
   "06SMALL LETTER ALPHA WITH VRACHY;30MACRON;30VARIA AND YPOGEGRAMMENI;30YPOGEGRAMMENI",
   "30OXIA AND YPOGEGRAMMENI;+1fb6;30PERISPOMENI;41 AND YPOGEGRAMMENI",
   "06CAPITAL LETTER ALPHA WITH VRACHY;32MACRON;32VARIA;32OXIA;32PROSGEGRAMMENI;06KORONIS",
   "06PROSGEGRAMMENI;07SILI;07ERISPOMENI;06DIALYTIKA AND PERISPOMENI",
   "06SMALL LETTER ETA WITH VARIA AND YPOGEGRAMMENI;28YPOGEGRAMMENI;28OXIA AND YPOGEGRAMMENI;+1fc6",
   "28PERISPOMENI;39 AND YPOGEGRAMMENI;06CAPITAL LETTER EPSILON WITH VARIA;34OXIA;22TA WITH VARIA",
   "30OXIA;30PROSGEGRAMMENI;06PSILI AND VARIA;16OXIA;16PERISPOMENI;06SMALL LETTER IOTA WITH VRACHY",
   "29MACRON;29DIALYTIKA AND VARIA;43OXIA;+1fd6;29PERISPOMENI;29DIALYTIKA AND PERISPOMENI",
   "06CAPITAL LETTER IOTA WITH VRACHY;31MACRON;31VARIA;31OXIA;+1fdd;06DASIA AND VARIA;16OXIA",
   "16PERISPOMENI;06SMALL LETTER UPSILON WITH VRACHY;32MACRON;32DIALYTIKA AND VARIA;46OXIA",
   "19RHO WITH PSILI;28DASIA;19UPSILON WITH PERISPOMENI;32DIALYTIKA AND PERISPOMENI",
   "06CAPITAL LETTER UPSILON WITH VRACHY;34MACRON;34VARIA;34OXIA;21RHO WITH DASIA",
   "06DIALYTIKA AND VARIA;20OXIA;06VARIA;+1ff2;06SMALL LETTER OMEGA WITH VARIA AND YPOGEGRAMMENI",
   "30YPOGEGRAMMENI;30OXIA AND YPOGEGRAMMENI;+1ff6;30PERISPOMENI;41 AND YPOGEGRAMMENI",
   "06CAPITAL LETTER OMICRON WITH VARIA;34OXIA;23EGA WITH VARIA;32OXIA;32PROSGEGRAMMENI;06OXIA",
   "06DASIA;+2000;00EN QUAD;01M QUAD;01N SPACE;01M SPACE;00THREE-PER-EM SPACE;00FOUR-PER-EM SPACE",
   "00SIX-PER-EM SPACE;00FIGURE SPACE;00PUNCTUATION SPACE;00THIN SPACE;00HAIR SPACE",
   "00ZERO WIDTH SPACE;11NON-JOINER;11JOINER;00LEFT-TO-RIGHT MARK;00RIGHT-TO-LEFT MARK;00HYPHEN",
   "00NON-BREAKING HYPHEN;00FIGURE DASH;00EN DASH;01M DASH;00HORIZONTAL BAR;00DOUBLE VERTICAL LINE",
   "07LOW LINE;00LEFT SINGLE QUOTATION MARK;00RIGHT SINGLE QUOTATION MARK",
   "00SINGLE LOW-9 QUOTATION MARK;07HIGH-REVERSED-9 QUOTATION MARK;00LEFT DOUBLE QUOTATION MARK",
   "00RIGHT DOUBLE QUOTATION MARK;00DOUBLE LOW-9 QUOTATION MARK;07HIGH-REVERSED-9 QUOTATION MARK",
   "01AGGER;01OUBLE DAGGER;00BULLET;00TRIANGULAR BULLET;00ONE DOT LEADER;00TWO DOT LEADER",
   "00HORIZONTAL ELLIPSIS;01YPHENATION POINT;00LINE SEPARATOR;00PARAGRAPH SEPARATOR",
   "00LEFT-TO-RIGHT EMBEDDING;00RIGHT-TO-LEFT EMBEDDING;00POP DIRECTIONAL FORMATTING",
   "00LEFT-TO-RIGHT OVERRIDE;00RIGHT-TO-LEFT OVERRIDE;00NARROW NO-BREAK SPACE;00PER MILLE SIGN",
   "04TEN THOUSAND SIGN;01RIME;00DOUBLE PRIME;00TRIPLE PRIME;00REVERSED PRIME;09DOUBLE PRIME",
   "09TRIPLE PRIME;00CARET;00SINGLE LEFT-POINTING ANGLE QUOTATION MARK",
   "07RIGHT-POINTING ANGLE QUOTATION MARK;00REFERENCE MARK;00DOUBLE EXCLAMATION MARK;00INTERROBANG",
   "00OVERLINE;00UNDERTIE;00CHARACTER TIE;01ARET INSERTION POINT;00ASTERISM;00HYPHEN BULLET",
   "00FRACTION SLASH;00LEFT SQUARE BRACKET WITH QUILL;00RIGHT SQUARE BRACKET WITH QUILL",
   "00DOUBLE QUESTION MARK;00QUESTION EXCLAMATION MARK;00EXCLAMATION QUESTION MARK",
   "00TIRONIAN SIGN ET;00REVERSED PILCROW SIGN;00BLACK LEFTWARDS BULLET;06RIGHTWARDS BULLET",
   "00LOW ASTERISK;00REVERSED SEMICOLON;00CLOSE UP;00TWO ASTERISKS ALIGNED VERTICALLY",
   "00COMMERCIAL MINUS SIGN;00SWUNG DASH;00INVERTED UNDERTIE;00FLOWER PUNCTUATION MARK",
   "00THREE DOT PUNCTUATION;00QUADRUPLE PRIME;00FOUR DOT PUNCTUATION;01IVE DOT PUNCTUATION",
   "00TWO DOT PUNCTUATION;00FOUR DOT MARK;00DOTTED CROSS;00TRICOLON;00VERTICAL FOUR DOTS",
   "00MEDIUM MATHEMATICAL SPACE;00WORD JOINER;00FUNCTION APPLICATION;00INVISIBLE TIMES;10SEPARATOR",
   "10PLUS;+2066;00LEFT-TO-RIGHT ISOLATE;00RIGHT-TO-LEFT ISOLATE;00FIRST STRONG ISOLATE",
   "00POP DIRECTIONAL ISOLATE;00INHIBIT SYMMETRIC SWAPPING;00ACTIVATE SYMMETRIC SWAPPING",
   "00INHIBIT ARABIC FORM SHAPING;00ACTIVATE ARABIC FORM SHAPING;00NATIONAL DIGIT SHAPES",
   "01OMINAL DIGIT SHAPES;00SUPERSCRIPT ZERO;12LATIN SMALL LETTER I;+2074;12FOUR;13IVE;12SIX",
   "13EVEN;12EIGHT;12NINE;12PLUS SIGN;12MINUS;12EQUALS SIGN;12LEFT PARENTHESIS;12RIGHT PARENTHESIS",
   "12LATIN SMALL LETTER N;02BSCRIPT ZERO;10ONE;10TWO;11HREE;10FOUR;11IVE;10SIX;11EVEN;10EIGHT",
   "10NINE;10PLUS SIGN;10MINUS;10EQUALS SIGN;10LEFT PARENTHESIS;10RIGHT PARENTHESIS;+2090",
   "00LATIN SUBSCRIPT SMALL LETTER A;29E;29O;29X;29SCHWA;29H;29K;29L;29M;29N;29P;29S;29T;+20a0",
   "00EURO-CURRENCY SIGN;00COLON SIGN;01RUZEIRO SIGN;00FRENCH FRANC SIGN;00LIRA SIGN;00MILL SIGN",
   "00NAIRA SIGN;00PESETA SIGN;00RUPEE SIGN;00WON SIGN;00NEW SHEQEL SIGN;00DONG SIGN;00EURO SIGN",
   "00KIP SIGN;00TUGRIK SIGN;00DRACHMA SIGN;00GERMAN PENNY SIGN;00PESO SIGN;00GUARANI SIGN",
   "00AUSTRAL SIGN;00HRYVNIA SIGN;00CEDI SIGN;00LIVRE TOURNOIS SIGN;00SPESMILO SIGN;00TENGE SIGN",
   "00INDIAN RUPEE SIGN;00TURKISH LIRA SIGN;00NORDIC MARK SIGN;00MANAT SIGN;00RUBLE SIGN",
   "00LARI SIGN;00BITCOIN SIGN;00SOM SIGN;+20d0;00COMBINING LEFT HARPOON ABOVE",
   "10RIGHT HARPOON ABOVE;10LONG VERTICAL LINE OVERLAY;10SHORT VERTICAL LINE OVERLAY",
   "10ANTICLOCKWISE ARROW ABOVE;10CLOCKWISE ARROW ABOVE;10LEFT ARROW ABOVE;10RIGHT ARROW ABOVE",
   "12NG OVERLAY;10CLOCKWISE RING OVERLAY;10ANTICLOCKWISE RING OVERLAY;10THREE DOTS ABOVE",
   "10FOUR DOTS ABOVE;10ENCLOSING CIRCLE;20SQUARE;20DIAMOND;20CIRCLE BACKSLASH",
   "10LEFT RIGHT ARROW ABOVE;10ENCLOSING SCREEN;20KEYCAP;20UPWARD POINTING TRIANGLE",
   "10REVERSE SOLIDUS OVERLAY;10DOUBLE VERTICAL STROKE OVERLAY;10ANNUITY SYMBOL;10TRIPLE UNDERDOT",
   "10WIDE BRIDGE ABOVE;10LEFTWARDS ARROW OVERLAY;11ONG DOUBLE SOLIDUS OVERLAY",
   "10RIGHTWARDS HARPOON WITH BARB DOWNWARDS;10LEFTWARDS HARPOON WITH BARB DOWNWARDS",
   "14 ARROW BELOW;10RIGHT ARROW BELOW;10ASTERISK ABOVE;+2100;00ACCOUNT OF",
   "01DDRESSED TO THE SUBJECT;00DOUBLE-STRUCK CAPITAL C;01EGREE CELSIUS;00CENTRE LINE SYMBOL",
   "01ARE OF;02DA UNA;00EULER CONSTANT;00SCRUPLE;00DEGREE FAHRENHEIT;00SCRIPT SMALL G;07CAPITAL H",
   "00BLACK-LETTER CAPITAL H;00DOUBLE-STRUCK CAPITAL H;00PLANCK CONSTANT;15 OVER TWO PI",
   "00SCRIPT CAPITAL I;00BLACK-LETTER CAPITAL I;00SCRIPT CAPITAL L;07SMALL L;00L B BAR SYMBOL",
   "00DOUBLE-STRUCK CAPITAL N;00NUMERO SIGN;00SOUND RECORDING COPYRIGHT;01CRIPT CAPITAL P",
   "00DOUBLE-STRUCK CAPITAL P;22Q;00SCRIPT CAPITAL R;00BLACK-LETTER CAPITAL R",
   "00DOUBLE-STRUCK CAPITAL R;00PRESCRIPTION TAKE;00RESPONSE;00SERVICE MARK;00TELEPHONE SIGN",
   "01RADE MARK SIGN;00VERSICLE;00DOUBLE-STRUCK CAPITAL Z;00OUNCE SIGN;01HM SIGN",
   "00INVERTED OHM SIGN;00BLACK-LETTER CAPITAL Z;00TURNED GREEK SMALL LETTER IOTA;00KELVIN SIGN",
   "00ANGSTROM SIGN;00SCRIPT CAPITAL B;00BLACK-LETTER CAPITAL C;00ESTIMATED SYMBOL",
   "00SCRIPT SMALL E;07CAPITAL E;15F;00TURNED CAPITAL F;00SCRIPT CAPITAL M;07SMALL O;00ALEF SYMBOL",
   "00BET SYMBOL;00GIMEL SYMBOL;00DALET SYMBOL;00INFORMATION SOURCE;00ROTATED CAPITAL Q",
   "00FACSIMILE SIGN;00DOUBLE-STRUCK SMALL PI;20GAMMA;14CAPITAL GAMMA;22PI;14N-ARY SUMMATION",
   "00TURNED SANS-SERIF CAPITAL G;26L;00REVERSED SANS-SERIF CAPITAL L",
   "00TURNED SANS-SERIF CAPITAL Y;00DOUBLE-STRUCK ITALIC CAPITAL D;21SMALL D;27E;27I;27J",
   "00PROPERTY LINE;00TURNED AMPERSAND;00PER SIGN;00AKTIESELSKAB;00TURNED SMALL F",
   "00SYMBOL FOR SAMARITAN SOURCE;00VULGAR FRACTION ONE SEVENTH;20NINTH;20TENTH;21HIRD",
   "16TWO THIRDS;16ONE FIFTH;16TWO FIFTHS;17HREE FIFTHS;16FOUR FIFTHS;16ONE SIXTH;16FIVE SIXTHS",
   "16ONE EIGHTH;16THREE EIGHTHS;16FIVE EIGHTHS;16SEVEN EIGHTHS;00FRACTION NUMERATOR ONE",
   "00ROMAN NUMERAL ONE;14TWO;15HREE;14FOUR;15IVE;14SIX;15EVEN;14EIGHT;14NINE;14TEN;14ELEVEN",
   "14TWELVE;14FIFTY;14ONE HUNDRED;14FIVE HUNDRED;14ONE THOUSAND;00SMALL ROMAN NUMERAL ONE;20TWO",
   "21HREE;20FOUR;21IVE;20SIX;21EVEN;20EIGHT;20NINE;20TEN;20ELEVEN;20TWELVE;20FIFTY;20ONE HUNDRED",
   "20FIVE HUNDRED;20ONE THOUSAND;00ROMAN NUMERAL ONE THOUSAND C D;14FIVE THOUSAND;14TEN THOUSAND",
   "14REVERSED ONE HUNDRED;00LATIN SMALL LETTER REVERSED C;00ROMAN NUMERAL SIX LATE FORM",
   "14FIFTY EARLY FORM;20THOUSAND;14ONE HUNDRED THOUSAND;00VULGAR FRACTION ZERO THIRDS",
   "00TURNED DIGIT TWO;14HREE;+2190;00LEFTWARDS ARROW;00UPWARDS ARROW;00RIGHTWARDS ARROW",
   "00DOWNWARDS ARROW;00LEFT RIGHT ARROW;00UP DOWN ARROW;00NORTH WEST ARROW;06EAST ARROW",
   "00SOUTH EAST ARROW;06WEST ARROW;00LEFTWARDS ARROW WITH STROKE;00RIGHTWARDS ARROW WITH STROKE",
   "00LEFTWARDS WAVE ARROW;00RIGHTWARDS WAVE ARROW;00LEFTWARDS TWO HEADED ARROW",
   "00UPWARDS TWO HEADED ARROW;00RIGHTWARDS TWO HEADED ARROW;00DOWNWARDS TWO HEADED ARROW",
   "00LEFTWARDS ARROW WITH TAIL;00RIGHTWARDS ARROW WITH TAIL;00LEFTWARDS ARROW FROM BAR",
   "00UPWARDS ARROW FROM BAR;00RIGHTWARDS ARROW FROM BAR;00DOWNWARDS ARROW FROM BAR",
   "00UP DOWN ARROW WITH BASE;00LEFTWARDS ARROW WITH HOOK;00RIGHTWARDS ARROW WITH HOOK",
   "00LEFTWARDS ARROW WITH LOOP;00RIGHTWARDS ARROW WITH LOOP;00LEFT RIGHT WAVE ARROW",
   "11ARROW WITH STROKE;00DOWNWARDS ZIGZAG ARROW;00UPWARDS ARROW WITH TIP LEFTWARDS;23RIGHTWARDS",
   "00DOWNWARDS ARROW WITH TIP LEFTWARDS;25RIGHTWARDS;00RIGHTWARDS ARROW WITH CORNER DOWNWARDS",
   "00DOWNWARDS ARROW WITH CORNER LEFTWARDS;00ANTICLOCKWISE TOP SEMICIRCLE ARROW",
   "00CLOCKWISE TOP SEMICIRCLE ARROW;00NORTH WEST ARROW TO LONG BAR",
   "00LEFTWARDS ARROW TO BAR OVER RIGHTWARDS ARROW TO BAR;00ANTICLOCKWISE OPEN CIRCLE ARROW",
   "00CLOCKWISE OPEN CIRCLE ARROW;00LEFTWARDS HARPOON WITH BARB UPWARDS;28DOWNWARDS",
   "00UPWARDS HARPOON WITH BARB RIGHTWARDS;26LEFTWARDS;00RIGHTWARDS HARPOON WITH BARB UPWARDS",
   "29DOWNWARDS;00DOWNWARDS HARPOON WITH BARB RIGHTWARDS;28LEFTWARDS",
   "00RIGHTWARDS ARROW OVER LEFTWARDS ARROW;00UPWARDS ARROW LEFTWARDS OF DOWNWARDS ARROW",
   "00LEFTWARDS ARROW OVER RIGHTWARDS ARROW;10PAIRED ARROWS;00UPWARDS PAIRED ARROWS",
   "00RIGHTWARDS PAIRED ARROWS;00DOWNWARDS PAIRED ARROWS",
   "00LEFTWARDS HARPOON OVER RIGHTWARDS HARPOON;00RIGHTWARDS HARPOON OVER LEFTWARDS HARPOON",
   "00LEFTWARDS DOUBLE ARROW WITH STROKE;04 RIGHT DOUBLE ARROW WITH STROKE",
   "00RIGHTWARDS DOUBLE ARROW WITH STROKE;00LEFTWARDS DOUBLE ARROW;00UPWARDS DOUBLE ARROW",
   "00RIGHTWARDS DOUBLE ARROW;00DOWNWARDS DOUBLE ARROW;00LEFT RIGHT DOUBLE ARROW",
   "00UP DOWN DOUBLE ARROW;00NORTH WEST DOUBLE ARROW;06EAST DOUBLE ARROW;00SOUTH EAST DOUBLE ARROW",
   "06WEST DOUBLE ARROW;00LEFTWARDS TRIPLE ARROW;00RIGHTWARDS TRIPLE ARROW",
   "00LEFTWARDS SQUIGGLE ARROW;00RIGHTWARDS SQUIGGLE ARROW;00UPWARDS ARROW WITH DOUBLE STROKE",
   "00DOWNWARDS ARROW WITH DOUBLE STROKE;00LEFTWARDS DASHED ARROW;00UPWARDS DASHED ARROW",
   "00RIGHTWARDS DASHED ARROW;00DOWNWARDS DASHED ARROW;00LEFTWARDS ARROW TO BAR",
   "00RIGHTWARDS ARROW TO BAR;00LEFTWARDS WHITE ARROW;00UPWARDS WHITE ARROW",
   "00RIGHTWARDS WHITE ARROW;00DOWNWARDS WHITE ARROW;00UPWARDS WHITE ARROW FROM BAR;20ON PEDESTAL",
   "31 WITH HORIZONTAL BAR;37VERTICAL BAR;14DOUBLE ARROW;26 ON PEDESTAL",
   "00RIGHTWARDS WHITE ARROW FROM WALL;00NORTH WEST ARROW TO CORNER;00SOUTH EAST ARROW TO CORNER",
   "00UP DOWN WHITE ARROW;00RIGHT ARROW WITH SMALL CIRCLE",
   "00DOWNWARDS ARROW LEFTWARDS OF UPWARDS ARROW;00THREE RIGHTWARDS ARROWS",
   "00LEFTWARDS ARROW WITH VERTICAL STROKE;00RIGHTWARDS ARROW WITH VERTICAL STROKE",
   "00LEFT RIGHT ARROW WITH VERTICAL STROKE;04WARDS ARROW WITH DOUBLE VERTICAL STROKE",
   "00RIGHTWARDS ARROW WITH DOUBLE VERTICAL STROKE;00LEFT RIGHT ARROW WITH DOUBLE VERTICAL STROKE",
   "04WARDS OPEN-HEADED ARROW;00RIGHTWARDS OPEN-HEADED ARROW;00LEFT RIGHT OPEN-HEADED ARROW",
   "00FOR ALL;00COMPLEMENT;00PARTIAL DIFFERENTIAL;00THERE EXISTS;06DOES NOT EXIST;00EMPTY SET",
   "00INCREMENT;00NABLA;00ELEMENT OF;00NOT AN ELEMENT OF;00SMALL ELEMENT OF;00CONTAINS AS MEMBER",
   "00DOES NOT CONTAIN AS MEMBER;00SMALL CONTAINS AS MEMBER;00END OF PROOF;00N-ARY PRODUCT",
   "06COPRODUCT;06SUMMATION;00MINUS SIGN;05-OR-PLUS SIGN;00DOT PLUS;01IVISION SLASH;00SET MINUS",
   "00ASTERISK OPERATOR;00RING OPERATOR;00BULLET OPERATOR;00SQUARE ROOT;00CUBE ROOT;00FOURTH ROOT",
   "00PROPORTIONAL TO;00INFINITY;00RIGHT ANGLE;00ANGLE;00MEASURED ANGLE;00SPHERICAL ANGLE",
   "00DIVIDES;01OES NOT DIVIDE;00PARALLEL TO;00NOT PARALLEL TO;00LOGICAL AND;08OR;00INTERSECTION",
   "00UNION;00INTEGRAL;00DOUBLE INTEGRAL;00TRIPLE INTEGRAL;00CONTOUR INTEGRAL;00SURFACE INTEGRAL",
   "00VOLUME INTEGRAL;00CLOCKWISE INTEGRAL;10CONTOUR INTEGRAL;00ANTICLOCKWISE CONTOUR INTEGRAL",
   "00THEREFORE;00BECAUSE;00RATIO;00PROPORTION;00DOT MINUS;00EXCESS;00GEOMETRIC PROPORTION",
   "00HOMOTHETIC;00TILDE OPERATOR;00REVERSED TILDE;00INVERTED LAZY S;00SINE WAVE;00WREATH PRODUCT",
   "00NOT TILDE;00MINUS TILDE;00ASYMPTOTICALLY EQUAL TO;00NOT ASYMPTOTICALLY EQUAL TO",
   "00APPROXIMATELY EQUAL TO;14BUT NOT ACTUALLY EQUAL TO",
   "00NEITHER APPROXIMATELY NOR ACTUALLY EQUAL TO;00ALMOST EQUAL TO;00NOT ALMOST EQUAL TO",
   "00ALMOST EQUAL OR EQUAL TO;00TRIPLE TILDE;00ALL EQUAL TO;00EQUIVALENT TO",
   "00GEOMETRICALLY EQUIVALENT TO;00DIFFERENCE BETWEEN;00APPROACHES THE LIMIT",
   "00GEOMETRICALLY EQUAL TO;00APPROXIMATELY EQUAL TO OR THE IMAGE OF",
   "00IMAGE OF OR APPROXIMATELY EQUAL TO;00COLON EQUALS;00EQUALS COLON;00RING IN EQUAL TO",
   "05EQUAL TO;00CORRESPONDS TO;00ESTIMATES;01QUIANGULAR TO;00STAR EQUALS;00DELTA EQUAL TO",
   "00EQUAL TO BY DEFINITION;00MEASURED BY;00QUESTIONED EQUAL TO;00NOT EQUAL TO;00IDENTICAL TO",
   "00NOT IDENTICAL TO;00STRICTLY EQUIVALENT TO;00LESS-THAN OR EQUAL TO;00GREATER-THAN OR EQUAL TO",
   "00LESS-THAN OVER EQUAL TO;00GREATER-THAN OVER EQUAL TO;00LESS-THAN BUT NOT EQUAL TO",
   "00GREATER-THAN BUT NOT EQUAL TO;00MUCH LESS-THAN;05GREATER-THAN;00BETWEEN;00NOT EQUIVALENT TO",
   "04LESS-THAN;04GREATER-THAN;01EITHER LESS-THAN NOR EQUAL TO;08GREATER-THAN NOR EQUAL TO",
   "00LESS-THAN OR EQUIVALENT TO;00GREATER-THAN OR EQUIVALENT TO",
   "00NEITHER LESS-THAN NOR EQUIVALENT TO;08GREATER-THAN NOR EQUIVALENT TO",
   "00LESS-THAN OR GREATER-THAN;00GREATER-THAN OR LESS-THAN;00NEITHER LESS-THAN NOR GREATER-THAN",
   "08GREATER-THAN NOR LESS-THAN;00PRECEDES;00SUCCEEDS;00PRECEDES OR EQUAL TO",
   "00SUCCEEDS OR EQUAL TO;00PRECEDES OR EQUIVALENT TO;00SUCCEEDS OR EQUIVALENT TO",
   "00DOES NOT PRECEDE;09SUCCEED;00SUBSET OF;02PERSET OF;00NOT A SUBSET OF;08PERSET OF",
   "00SUBSET OF OR EQUAL TO;02PERSET OF OR EQUAL TO;00NEITHER A SUBSET OF NOR EQUAL TO",
   "12PERSET OF NOR EQUAL TO;00SUBSET OF WITH NOT EQUAL TO;02PERSET OF WITH NOT EQUAL TO",
   "00MULTISET;08 MULTIPLICATION;09UNION;00SQUARE IMAGE OF;07ORIGINAL OF;07IMAGE OF OR EQUAL TO",
   "07ORIGINAL OF OR EQUAL TO;07CAP;08UP;00CIRCLED PLUS;08MINUS;08TIMES;08DIVISION SLASH",
   "09OT OPERATOR;08RING OPERATOR;08ASTERISK OPERATOR;08EQUALS;08DASH;00SQUARED PLUS;08MINUS",
   "08TIMES;08DOT OPERATOR;00RIGHT TACK;00LEFT TACK;00DOWN TACK;00UP TACK;00ASSERTION;00MODELS",
   "00TRUE;00FORCES;00TRIPLE VERTICAL BAR RIGHT TURNSTILE",
   "00DOUBLE VERTICAL BAR DOUBLE RIGHT TURNSTILE;02ES NOT PROVE;00NOT TRUE;00DOES NOT FORCE",
   "00NEGATED DOUBLE VERTICAL BAR DOUBLE RIGHT TURNSTILE;00PRECEDES UNDER RELATION",
   "00SUCCEEDS UNDER RELATION;00NORMAL SUBGROUP OF;00CONTAINS AS NORMAL SUBGROUP",
   "00NORMAL SUBGROUP OF OR EQUAL TO;00CONTAINS AS NORMAL SUBGROUP OR EQUAL TO;00ORIGINAL OF",
   "00IMAGE OF;00MULTIMAP;00HERMITIAN CONJUGATE MATRIX;00INTERCALATE;00XOR;00NAND;01OR",
   "00RIGHT ANGLE WITH ARC;06TRIANGLE;00N-ARY LOGICAL AND;14OR;06INTERSECTION;06UNION",
   "00DIAMOND OPERATOR;01OT OPERATOR;00STAR OPERATOR;00DIVISION TIMES;00BOWTIE",
   "00LEFT NORMAL FACTOR SEMIDIRECT PRODUCT;00RIGHT NORMAL FACTOR SEMIDIRECT PRODUCT",
   "00LEFT SEMIDIRECT PRODUCT;00RIGHT SEMIDIRECT PRODUCT;01EVERSED TILDE EQUALS;00CURLY LOGICAL OR",
   "14AND;00DOUBLE SUBSET;09PERSET;07INTERSECTION;07UNION;00PITCHFORK;00EQUAL AND PARALLEL TO",
   "00LESS-THAN WITH DOT;00GREATER-THAN WITH DOT;00VERY MUCH LESS-THAN;10GREATER-THAN",
   "00LESS-THAN EQUAL TO OR GREATER-THAN;00GREATER-THAN EQUAL TO OR LESS-THAN",
   "00EQUAL TO OR LESS-THAN;12GREATER-THAN;12PRECEDES;12SUCCEEDS;00DOES NOT PRECEDE OR EQUAL",
   "09SUCCEED OR EQUAL;00NOT SQUARE IMAGE OF OR EQUAL TO;11ORIGINAL OF OR EQUAL TO",
   "00SQUARE IMAGE OF OR NOT EQUAL TO;07ORIGINAL OF OR NOT EQUAL TO",
   "00LESS-THAN BUT NOT EQUIVALENT TO;00GREATER-THAN BUT NOT EQUIVALENT TO",
   "00PRECEDES BUT NOT EQUIVALENT TO;00SUCCEEDS BUT NOT EQUIVALENT TO;00NOT NORMAL SUBGROUP OF",
   "00DOES NOT CONTAIN AS NORMAL SUBGROUP;00NOT NORMAL SUBGROUP OF OR EQUAL TO",
   "00DOES NOT CONTAIN AS NORMAL SUBGROUP OR EQUAL;00VERTICAL ELLIPSIS",
   "00MIDLINE HORIZONTAL ELLIPSIS;00UP RIGHT DIAGONAL ELLIPSIS;00DOWN RIGHT DIAGONAL ELLIPSIS",
   "00ELEMENT OF WITH LONG HORIZONTAL STROKE;16VERTICAL BAR AT END OF HORIZONTAL STROKE",
   "00SMALL ELEMENT OF WITH VERTICAL BAR AT END OF HORIZONTAL STROKE;00ELEMENT OF WITH DOT ABOVE",
   "16OVERBAR;00SMALL ELEMENT OF WITH OVERBAR;00ELEMENT OF WITH UNDERBAR;16TWO HORIZONTAL STROKES",
   "00CONTAINS WITH LONG HORIZONTAL STROKE;14VERTICAL BAR AT END OF HORIZONTAL STROKE",
   "00SMALL CONTAINS WITH VERTICAL BAR AT END OF HORIZONTAL STROKE;00CONTAINS WITH OVERBAR",
   "00SMALL CONTAINS WITH OVERBAR;00Z NOTATION BAG MEMBERSHIP;00DIAMETER SIGN;00ELECTRIC ARROW",
   "00HOUSE;00UP ARROWHEAD;00DOWN ARROWHEAD;00PROJECTIVE;01ERSPECTIVE;00WAVY LINE;00LEFT CEILING",
   "00RIGHT CEILING;00LEFT FLOOR;00RIGHT FLOOR;00BOTTOM RIGHT CROP;07LEFT CROP;00TOP RIGHT CROP",
   "04LEFT CROP;00REVERSED NOT SIGN;00SQUARE LOZENGE;00ARC;00SEGMENT;02CTOR;00TELEPHONE RECORDER",
   "00POSITION INDICATOR;00VIEWDATA SQUARE;00PLACE OF INTEREST SIGN;00TURNED NOT SIGN;00WATCH",
   "00HOURGLASS;00TOP LEFT CORNER;04RIGHT CORNER;00BOTTOM LEFT CORNER;07RIGHT CORNER",
   "00TOP HALF INTEGRAL;00BOTTOM HALF INTEGRAL;00FROWN;00SMILE",
   "00UP ARROWHEAD BETWEEN TWO HORIZONTAL BARS;00OPTION KEY;00ERASE TO THE RIGHT",
   "00X IN A RECTANGLE BOX;00KEYBOARD;00LEFT-POINTING ANGLE BRACKET;00RIGHT-POINTING ANGLE BRACKET",
   "00ERASE TO THE LEFT;00BENZENE RING;00CYLINDRICITY;00ALL AROUND-PROFILE;00SYMMETRY",
   "00TOTAL RUNOUT;00DIMENSION ORIGIN;00CONICAL TAPER;00SLOPE;00COUNTERBORE;07SINK",
   "00APL FUNCTIONAL SYMBOL I-BEAM;22SQUISH QUAD;22QUAD EQUAL;27DIVIDE;29AMOND;27JOT;27CIRCLE",
   "22CIRCLE STILE;29JOT;22SLASH BAR;22BACKSLASH BAR;22QUAD SLASH;27BACKSLASH;27LESS-THAN",
   "27GREATER-THAN;22LEFTWARDS VANE;22RIGHTWARDS VANE;22QUAD LEFTWARDS ARROW;27RIGHTWARDS ARROW",
   "22CIRCLE BACKSLASH;22DOWN TACK UNDERBAR;23ELTA STILE;22QUAD DOWN CARET;28ELTA;22DOWN TACK JOT",
   "22UPWARDS VANE;22QUAD UPWARDS ARROW;22UP TACK OVERBAR;22DEL STILE;22QUAD UP CARET;27DEL",
   "22UP TACK JOT;22DOWNWARDS VANE;22QUAD DOWNWARDS ARROW;24OTE UNDERBAR;22DELTA UNDERBAR",
   "23IAMOND UNDERBAR;22JOT UNDERBAR;22CIRCLE UNDERBAR;22UP SHOE JOT;22QUOTE QUAD;22CIRCLE STAR",
   "22QUAD COLON;22UP TACK DIAERESIS;22DEL DIAERESIS;22STAR DIAERESIS;22JOT DIAERESIS",
   "22CIRCLE DIAERESIS;22DOWN SHOE STILE;22LEFT SHOE STILE;22TILDE DIAERESIS",
   "22GREATER-THAN DIAERESIS;22COMMA BAR;22DEL TILDE;22ZILDE;22STILE TILDE;23EMICOLON UNDERBAR",
   "22QUAD NOT EQUAL;27QUESTION;22DOWN CARET TILDE;22UP CARET TILDE;22IOTA;22RHO;22OMEGA",
   "22ALPHA UNDERBAR;22EPSILON UNDERBAR;22IOTA UNDERBAR;22OMEGA UNDERBAR;22ALPHA;00NOT CHECK MARK",
   "00RIGHT ANGLE WITH DOWNWARDS ZIGZAG ARROW;00SHOULDERED OPEN BOX;00BELL SYMBOL",
   "00VERTICAL LINE WITH MIDDLE DOT;00INSERTION SYMBOL;00CONTINUOUS UNDERLINE SYMBOL",
   "00DISCONTINUOUS UNDERLINE SYMBOL;00EMPHASIS SYMBOL;00COMPOSITION SYMBOL",
   "00WHITE SQUARE WITH CENTRE VERTICAL LINE;00ENTER SYMBOL;00ALTERNATIVE KEY SYMBOL;00HELM SYMBOL",
   "00CIRCLED HORIZONTAL BAR WITH NOTCH;08TRIANGLE DOWN;00BROKEN CIRCLE WITH NORTHWEST ARROW",
   "00UNDO SYMBOL;00MONOSTABLE SYMBOL;00HYSTERESIS SYMBOL;00OPEN-CIRCUIT-OUTPUT H-TYPE SYMBOL",
   "20L-TYPE SYMBOL;00PASSIVE-PULL-DOWN-OUTPUT SYMBOL;13UP-OUTPUT SYMBOL",
   "00DIRECT CURRENT SYMBOL FORM TWO;00SOFTWARE-FUNCTION SYMBOL;00APL FUNCTIONAL SYMBOL QUAD",
   "00DECIMAL SEPARATOR KEY SYMBOL;00PREVIOUS PAGE;00NEXT PAGE;00PRINT SCREEN SYMBOL",
   "00CLEAR SCREEN SYMBOL;00LEFT PARENTHESIS UPPER HOOK;17EXTENSION;17LOWER HOOK",
   "00RIGHT PARENTHESIS UPPER HOOK;18EXTENSION;18LOWER HOOK;00LEFT SQUARE BRACKET UPPER CORNER",
   "20EXTENSION;20LOWER CORNER;00RIGHT SQUARE BRACKET UPPER CORNER;21EXTENSION;21LOWER CORNER",
   "00LEFT CURLY BRACKET UPPER HOOK;19MIDDLE PIECE;19LOWER HOOK;00CURLY BRACKET EXTENSION",
   "00RIGHT CURLY BRACKET UPPER HOOK;20MIDDLE PIECE;20LOWER HOOK;00INTEGRAL EXTENSION",
   "00HORIZONTAL LINE EXTENSION;00UPPER LEFT OR LOWER RIGHT CURLY BRACKET SECTION",
   "06RIGHT OR LOWER LEFT CURLY BRACKET SECTION;00SUMMATION TOP;10BOTTOM;00TOP SQUARE BRACKET",
   "00BOTTOM SQUARE BRACKET;21 OVER TOP SQUARE BRACKET;00RADICAL SYMBOL BOTTOM",
   "00LEFT VERTICAL BOX LINE;00RIGHT VERTICAL BOX LINE;00HORIZONTAL SCAN LINE-1;213;217;219",
   "00DENTISTRY SYMBOL LIGHT VERTICAL AND TOP RIGHT;36BOTTOM RIGHT;32WITH CIRCLE",
   "23DOWN AND HORIZONTAL WITH CIRCLE;23UP AND HORIZONTAL WITH CIRCLE;23VERTICAL WITH TRIANGLE",
   "23DOWN AND HORIZONTAL WITH TRIANGLE;23UP AND HORIZONTAL WITH TRIANGLE;23VERTICAL AND WAVE",
   "23DOWN AND HORIZONTAL WITH WAVE;23UP AND HORIZONTAL WITH WAVE;23DOWN AND HORIZONTAL",
   "23UP AND HORIZONTAL;23VERTICAL AND TOP LEFT;36BOTTOM LEFT;00SQUARE FOOT;00RETURN SYMBOL",
   "00EJECT SYMBOL;00VERTICAL LINE EXTENSION;00METRICAL BREVE;09LONG OVER SHORT;09SHORT OVER LONG",
   "09LONG OVER TWO SHORTS;09TWO SHORTS OVER LONG;20JOINED;10RISEME;10ETRASEME;09PENTASEME",
   "00EARTH GROUND;00FUSE;00TOP PARENTHESIS;00BOTTOM PARENTHESIS;00TOP CURLY BRACKET",
   "00BOTTOM CURLY BRACKET;00TOP TORTOISE SHELL BRACKET;00BOTTOM TORTOISE SHELL BRACKET",
   "00WHITE TRAPEZIUM;00BENZENE RING WITH CIRCLE;00STRAIGHTNESS;00FLATNESS;00AC CURRENT",
   "00ELECTRICAL INTERSECTION;00DECIMAL EXPONENT SYMBOL;00BLACK RIGHT-POINTING DOUBLE TRIANGLE",
   "06LEFT-POINTING DOUBLE TRIANGLE;06UP-POINTING DOUBLE TRIANGLE;06DOWN-POINTING DOUBLE TRIANGLE",
   "06RIGHT-POINTING DOUBLE TRIANGLE WITH VERTICAL BAR",
   "06LEFT-POINTING DOUBLE TRIANGLE WITH VERTICAL BAR",
   "06RIGHT-POINTING TRIANGLE WITH DOUBLE VERTICAL BAR;00ALARM CLOCK;00STOPWATCH;00TIMER CLOCK",
   "00HOURGLASS WITH FLOWING SAND;00BLACK MEDIUM LEFT-POINTING TRIANGLE;13RIGHT-POINTING TRIANGLE",
   "13UP-POINTING TRIANGLE;13DOWN-POINTING TRIANGLE;00DOUBLE VERTICAL BAR;00BLACK SQUARE FOR STOP",
   "06CIRCLE FOR RECORD;00POWER SYMBOL;06ON-OFF SYMBOL;08 SYMBOL;06SLEEP SYMBOL",
   "00OBSERVER EYE SYMBOL;00SYMBOL FOR NULL;11START OF HEADING;20TEXT;11END OF TEXT;19RANSMISSION",
   "13QUIRY;11ACKNOWLEDGE;11BELL;12ACKSPACE;11HORIZONTAL TABULATION;11LINE FEED",
   "11VERTICAL TABULATION;11FORM FEED;11CARRIAGE RETURN;11SHIFT OUT;17IN;11DATA LINK ESCAPE",
   "12EVICE CONTROL ONE;26TWO;27HREE;26FOUR;11NEGATIVE ACKNOWLEDGE;11SYNCHRONOUS IDLE",
   "11END OF TRANSMISSION BLOCK;11CANCEL;11END OF MEDIUM;11SUBSTITUTE;11ESCAPE;11FILE SEPARATOR",
   "11GROUP SEPARATOR;11RECORD SEPARATOR;11UNIT SEPARATOR;11SPACE;11DELETE;00BLANK SYMBOL",
   "00OPEN BOX;00SYMBOL FOR NEWLINE;11DELETE FORM TWO;11SUBSTITUTE FORM TWO;+2440;00OCR HOOK",
   "04CHAIR;04FORK;04INVERTED FORK;04BELT BUCKLE;05OW TIE;05RANCH BANK IDENTIFICATION",
   "04AMOUNT OF CHECK;04DASH;04CUSTOMER ACCOUNT NUMBER;04DOUBLE BACKSLASH;+2460",
   "00CIRCLED DIGIT ONE;14TWO;15HREE;14FOUR;15IVE;14SIX;15EVEN;14EIGHT;14NINE;08NUMBER TEN",
   "15ELEVEN;15TWELVE;16HIRTEEN;15FOURTEEN;16IFTEEN;15SIXTEEN;16EVENTEEN;15EIGHTEEN;15NINETEEN",
   "15TWENTY;00PARENTHESIZED DIGIT ONE;20TWO;21HREE;20FOUR;21IVE;20SIX;21EVEN;20EIGHT;20NINE",
   "14NUMBER TEN;21ELEVEN;21TWELVE;22HIRTEEN;21FOURTEEN;22IFTEEN;21SIXTEEN;22EVENTEEN;21EIGHTEEN",
   "21NINETEEN;21TWENTY;00DIGIT ONE FULL STOP;06TWO FULL STOP;07HREE FULL STOP;06FOUR FULL STOP",
   "07IVE FULL STOP;06SIX FULL STOP;07EVEN FULL STOP;06EIGHT FULL STOP;06NINE FULL STOP",
   "00NUMBER TEN FULL STOP;07ELEVEN FULL STOP;07TWELVE FULL STOP;08HIRTEEN FULL STOP",
   "07FOURTEEN FULL STOP;08IFTEEN FULL STOP;07SIXTEEN FULL STOP;08EVENTEEN FULL STOP",
   "07EIGHTEEN FULL STOP;07NINETEEN FULL STOP;07TWENTY FULL STOP",
   "00PARENTHESIZED LATIN SMALL LETTER A;33B;33C;33D;33E;33F;33G;33H;33I;33J;33K;33L;33M;33N;33O",
   "33P;33Q;33R;33S;33T;33U;33V;33W;33X;33Y;33Z;00CIRCLED LATIN CAPITAL LETTER A;29B;29C;29D;29E",
   "29F;29G;29H;29I;29J;29K;29L;29M;29N;29O;29P;29Q;29R;29S;29T;29U;29V;29W;29X;29Y;29Z",
   "14SMALL LETTER A;27B;27C;27D;27E;27F;27G;27H;27I;27J;27K;27L;27M;27N;27O;27P;27Q;27R;27S;27T",
   "27U;27V;27W;27X;27Y;27Z;08DIGIT ZERO;00NEGATIVE CIRCLED NUMBER ELEVEN;24TWELVE;25HIRTEEN",
   "24FOURTEEN;25IFTEEN;24SIXTEEN;25EVENTEEN;24EIGHTEEN;24NINETEEN;24TWENTY",
   "00DOUBLE CIRCLED DIGIT ONE;21TWO;22HREE;21FOUR;22IVE;21SIX;22EVEN;21EIGHT;21NINE;15NUMBER TEN",
   "00NEGATIVE CIRCLED DIGIT ZERO;00BOX DRAWINGS LIGHT HORIZONTAL;13HEAVY HORIZONTAL",
   "13LIGHT VERTICAL;13HEAVY VERTICAL;13LIGHT TRIPLE DASH HORIZONTAL",
   "13HEAVY TRIPLE DASH HORIZONTAL;13LIGHT TRIPLE DASH VERTICAL;13HEAVY TRIPLE DASH VERTICAL",
   "13LIGHT QUADRUPLE DASH HORIZONTAL;13HEAVY QUADRUPLE DASH HORIZONTAL",
   "13LIGHT QUADRUPLE DASH VERTICAL;13HEAVY QUADRUPLE DASH VERTICAL;13LIGHT DOWN AND RIGHT",
   "13DOWN LIGHT AND RIGHT HEAVY;18HEAVY AND RIGHT LIGHT;13HEAVY DOWN AND RIGHT",
   "13LIGHT DOWN AND LEFT;13DOWN LIGHT AND LEFT HEAVY;18HEAVY AND LEFT LIGHT;13HEAVY DOWN AND LEFT",
   "13LIGHT UP AND RIGHT;13UP LIGHT AND RIGHT HEAVY;16HEAVY AND RIGHT LIGHT;13HEAVY UP AND RIGHT",
   "13LIGHT UP AND LEFT;13UP LIGHT AND LEFT HEAVY;16HEAVY AND LEFT LIGHT;13HEAVY UP AND LEFT",
   "13LIGHT VERTICAL AND RIGHT;13VERTICAL LIGHT AND RIGHT HEAVY;13UP HEAVY AND RIGHT DOWN LIGHT",
   "13DOWN HEAVY AND RIGHT UP LIGHT;13VERTICAL HEAVY AND RIGHT LIGHT",
   "13DOWN LIGHT AND RIGHT UP HEAVY;13UP LIGHT AND RIGHT DOWN HEAVY;13HEAVY VERTICAL AND RIGHT",
   "13LIGHT VERTICAL AND LEFT;13VERTICAL LIGHT AND LEFT HEAVY;13UP HEAVY AND LEFT DOWN LIGHT",
   "13DOWN HEAVY AND LEFT UP LIGHT;13VERTICAL HEAVY AND LEFT LIGHT;13DOWN LIGHT AND LEFT UP HEAVY",
   "13UP LIGHT AND LEFT DOWN HEAVY;13HEAVY VERTICAL AND LEFT;13LIGHT DOWN AND HORIZONTAL",
   "14EFT HEAVY AND RIGHT DOWN LIGHT;13RIGHT HEAVY AND LEFT DOWN LIGHT",
   "13DOWN LIGHT AND HORIZONTAL HEAVY;18HEAVY AND HORIZONTAL LIGHT",
   "13RIGHT LIGHT AND LEFT DOWN HEAVY;13LEFT LIGHT AND RIGHT DOWN HEAVY",
   "13HEAVY DOWN AND HORIZONTAL;13LIGHT UP AND HORIZONTAL;14EFT HEAVY AND RIGHT UP LIGHT",
   "13RIGHT HEAVY AND LEFT UP LIGHT;13UP LIGHT AND HORIZONTAL HEAVY;16HEAVY AND HORIZONTAL LIGHT",
   "13RIGHT LIGHT AND LEFT UP HEAVY;13LEFT LIGHT AND RIGHT UP HEAVY;13HEAVY UP AND HORIZONTAL",
   "13LIGHT VERTICAL AND HORIZONTAL;14EFT HEAVY AND RIGHT VERTICAL LIGHT",
   "13RIGHT HEAVY AND LEFT VERTICAL LIGHT;13VERTICAL LIGHT AND HORIZONTAL HEAVY",
   "13UP HEAVY AND DOWN HORIZONTAL LIGHT;13DOWN HEAVY AND UP HORIZONTAL LIGHT",
   "13VERTICAL HEAVY AND HORIZONTAL LIGHT;13LEFT UP HEAVY AND RIGHT DOWN LIGHT",
   "13RIGHT UP HEAVY AND LEFT DOWN LIGHT;13LEFT DOWN HEAVY AND RIGHT UP LIGHT",
   "13RIGHT DOWN HEAVY AND LEFT UP LIGHT;13DOWN LIGHT AND UP HORIZONTAL HEAVY",
   "13UP LIGHT AND DOWN HORIZONTAL HEAVY;13RIGHT LIGHT AND LEFT VERTICAL HEAVY",
   "13LEFT LIGHT AND RIGHT VERTICAL HEAVY;13HEAVY VERTICAL AND HORIZONTAL",
   "13LIGHT DOUBLE DASH HORIZONTAL;13HEAVY DOUBLE DASH HORIZONTAL;13LIGHT DOUBLE DASH VERTICAL",
   "13HEAVY DOUBLE DASH VERTICAL;13DOUBLE HORIZONTAL;20VERTICAL;15WN SINGLE AND RIGHT DOUBLE",
   "18DOUBLE AND RIGHT SINGLE;15UBLE DOWN AND RIGHT;15WN SINGLE AND LEFT DOUBLE",
   "18DOUBLE AND LEFT SINGLE;15UBLE DOWN AND LEFT;13UP SINGLE AND RIGHT DOUBLE",
   "16DOUBLE AND RIGHT SINGLE;13DOUBLE UP AND RIGHT;13UP SINGLE AND LEFT DOUBLE",
   "16DOUBLE AND LEFT SINGLE;13DOUBLE UP AND LEFT;13VERTICAL SINGLE AND RIGHT DOUBLE",
   "22DOUBLE AND RIGHT SINGLE;13DOUBLE VERTICAL AND RIGHT;13VERTICAL SINGLE AND LEFT DOUBLE",
   "22DOUBLE AND LEFT SINGLE;13DOUBLE VERTICAL AND LEFT;15WN SINGLE AND HORIZONTAL DOUBLE",
   "18DOUBLE AND HORIZONTAL SINGLE;15UBLE DOWN AND HORIZONTAL;13UP SINGLE AND HORIZONTAL DOUBLE",
   "16DOUBLE AND HORIZONTAL SINGLE;13DOUBLE UP AND HORIZONTAL",
   "13VERTICAL SINGLE AND HORIZONTAL DOUBLE;22DOUBLE AND HORIZONTAL SINGLE",
   "13DOUBLE VERTICAL AND HORIZONTAL;13LIGHT ARC DOWN AND RIGHT;32LEFT;23UP AND LEFT;30RIGHT",
   "19DIAGONAL UPPER RIGHT TO LOWER LEFT;34LEFT TO LOWER RIGHT;28CROSS;19LEFT;19UP;19RIGHT;19DOWN",
   "13HEAVY LEFT;19UP;19RIGHT;19DOWN;13LIGHT LEFT AND HEAVY RIGHT;19UP AND HEAVY DOWN",
   "13HEAVY LEFT AND LIGHT RIGHT;19UP AND LIGHT DOWN;00UPPER HALF BLOCK;00LOWER ONE EIGHTH BLOCK",
   "10QUARTER BLOCK;06THREE EIGHTHS BLOCK;06HALF BLOCK;06FIVE EIGHTHS BLOCK;06THREE QUARTERS BLOCK",
   "06SEVEN EIGHTHS BLOCK;00FULL BLOCK;00LEFT SEVEN EIGHTHS BLOCK;05THREE QUARTERS BLOCK",
   "05FIVE EIGHTHS BLOCK;05HALF BLOCK;05THREE EIGHTHS BLOCK;05ONE QUARTER BLOCK;09EIGHTH BLOCK",
   "00RIGHT HALF BLOCK;00LIGHT SHADE;00MEDIUM SHADE;00DARK SHADE;00UPPER ONE EIGHTH BLOCK",
   "00RIGHT ONE EIGHTH BLOCK;00QUADRANT LOWER LEFT;15RIGHT;09UPPER LEFT",
   "19 AND LOWER LEFT AND LOWER RIGHT;30RIGHT;24UPPER RIGHT AND LOWER LEFT;46RIGHT;15RIGHT",
   "20 AND LOWER LEFT;35 AND LOWER RIGHT;00BLACK SQUARE;00WHITE SQUARE;12 WITH ROUNDED CORNERS",
   "13CONTAINING BLACK SMALL SQUARE;00SQUARE WITH HORIZONTAL FILL;12VERTICAL FILL",
   "12ORTHOGONAL CROSSHATCH FILL;12UPPER LEFT TO LOWER RIGHT FILL;18RIGHT TO LOWER LEFT FILL",
   "12DIAGONAL CROSSHATCH FILL;00BLACK SMALL SQUARE;00WHITE SMALL SQUARE;00BLACK RECTANGLE",
   "00WHITE RECTANGLE;00BLACK VERTICAL RECTANGLE;00WHITE VERTICAL RECTANGLE;00BLACK PARALLELOGRAM",
   "00WHITE PARALLELOGRAM;00BLACK UP-POINTING TRIANGLE;00WHITE UP-POINTING TRIANGLE",
   "00BLACK UP-POINTING SMALL TRIANGLE;00WHITE UP-POINTING SMALL TRIANGLE",
   "00BLACK RIGHT-POINTING TRIANGLE;00WHITE RIGHT-POINTING TRIANGLE",
   "00BLACK RIGHT-POINTING SMALL TRIANGLE;00WHITE RIGHT-POINTING SMALL TRIANGLE",
   "00BLACK RIGHT-POINTING POINTER;00WHITE RIGHT-POINTING POINTER;00BLACK DOWN-POINTING TRIANGLE",
   "00WHITE DOWN-POINTING TRIANGLE;00BLACK DOWN-POINTING SMALL TRIANGLE",
   "00WHITE DOWN-POINTING SMALL TRIANGLE;00BLACK LEFT-POINTING TRIANGLE",
   "00WHITE LEFT-POINTING TRIANGLE;00BLACK LEFT-POINTING SMALL TRIANGLE",
   "00WHITE LEFT-POINTING SMALL TRIANGLE;00BLACK LEFT-POINTING POINTER",
   "00WHITE LEFT-POINTING POINTER;00BLACK DIAMOND;00WHITE DIAMOND",
   "13 CONTAINING BLACK SMALL DIAMOND;00FISHEYE;00LOZENGE;00WHITE CIRCLE;00DOTTED CIRCLE",
   "00CIRCLE WITH VERTICAL FILL;00BULLSEYE;01LACK CIRCLE;00CIRCLE WITH LEFT HALF BLACK",
   "12RIGHT HALF BLACK;12LOWER HALF BLACK;12UPPER HALF BLACK;18RIGHT QUADRANT BLACK",
   "12ALL BUT UPPER LEFT QUADRANT BLACK;00LEFT HALF BLACK CIRCLE;00RIGHT HALF BLACK CIRCLE",
   "00INVERSE BULLET;08WHITE CIRCLE;00UPPER HALF INVERSE WHITE CIRCLE",
   "00LOWER HALF INVERSE WHITE CIRCLE;00UPPER LEFT QUADRANT CIRCULAR ARC",
   "06RIGHT QUADRANT CIRCULAR ARC;00LOWER RIGHT QUADRANT CIRCULAR ARC;06LEFT QUADRANT CIRCULAR ARC",
   "00UPPER HALF CIRCLE;00LOWER HALF CIRCLE;00BLACK LOWER RIGHT TRIANGLE;12LEFT TRIANGLE",
   "06UPPER LEFT TRIANGLE;12RIGHT TRIANGLE;00WHITE BULLET;00SQUARE WITH LEFT HALF BLACK",
   "12RIGHT HALF BLACK;12UPPER LEFT DIAGONAL HALF BLACK;12LOWER RIGHT DIAGONAL HALF BLACK",
   "00WHITE SQUARE WITH VERTICAL BISECTING LINE;06UP-POINTING TRIANGLE WITH DOT",
   "00UP-POINTING TRIANGLE WITH LEFT HALF BLACK;26RIGHT HALF BLACK;00LARGE CIRCLE",
   "00WHITE SQUARE WITH UPPER LEFT QUADRANT;18LOWER LEFT QUADRANT;24RIGHT QUADRANT",
   "18UPPER RIGHT QUADRANT;06CIRCLE WITH UPPER LEFT QUADRANT;18LOWER LEFT QUADRANT",
   "24RIGHT QUADRANT;18UPPER RIGHT QUADRANT;00UPPER LEFT TRIANGLE;06RIGHT TRIANGLE",
   "00LOWER LEFT TRIANGLE;00WHITE MEDIUM SQUARE;00BLACK MEDIUM SQUARE;00WHITE MEDIUM SMALL SQUARE",
   "00BLACK MEDIUM SMALL SQUARE;00LOWER RIGHT TRIANGLE;00BLACK SUN WITH RAYS;00CLOUD;00UMBRELLA",
   "00SNOWMAN;00COMET;00BLACK STAR;00WHITE STAR;00LIGHTNING;00THUNDERSTORM;00SUN;00ASCENDING NODE",
   "00DESCENDING NODE;00CONJUNCTION;00OPPOSITION;00BLACK TELEPHONE;00WHITE TELEPHONE;00BALLOT BOX",
   "10 WITH CHECK;16X;00SALTIRE;00UMBRELLA WITH RAIN DROPS;00HOT BEVERAGE;00WHITE SHOGI PIECE",
   "00BLACK SHOGI PIECE;00SHAMROCK;00REVERSED ROTATED FLORAL HEART BULLET",
   "00BLACK LEFT POINTING INDEX;06RIGHT POINTING INDEX;00WHITE LEFT POINTING INDEX",
   "06UP POINTING INDEX;06RIGHT POINTING INDEX;06DOWN POINTING INDEX;00SKULL AND CROSSBONES",
   "00CAUTION SIGN;00RADIOACTIVE SIGN;00BIOHAZARD SIGN;00CADUCEUS;00ANKH;00ORTHODOX CROSS",
   "00CHI RHO;01ROSS OF LORRAINE;09JERUSALEM;00STAR AND CRESCENT;00FARSI SYMBOL;00ADI SHAKTI",
   "00HAMMER AND SICKLE;00PEACE SYMBOL;00YIN YANG;00TRIGRAM FOR HEAVEN;12LAKE;12FIRE;12THUNDER",
   "12WIND;13ATER;12MOUNTAIN;12EARTH;00WHEEL OF DHARMA;02ITE FROWNING FACE;06SMILING FACE",
   "00BLACK SMILING FACE;00WHITE SUN WITH RAYS;00FIRST QUARTER MOON;00LAST QUARTER MOON;00MERCURY",
   "00FEMALE SIGN;00EARTH;00MALE SIGN;00JUPITER;00SATURN;00URANUS;00NEPTUNE;00PLUTO;00ARIES",
   "00TAURUS;00GEMINI;00CANCER;00LEO;00VIRGO;00LIBRA;00SCORPIUS;01AGITTARIUS;00CAPRICORN",
   "00AQUARIUS;00PISCES;00WHITE CHESS KING;12QUEEN;12ROOK;12BISHOP;12KNIGHT;12PAWN",
   "00BLACK CHESS KING;12QUEEN;12ROOK;12BISHOP;12KNIGHT;12PAWN;06SPADE SUIT;00WHITE HEART SUIT",
   "06DIAMOND SUIT;00BLACK CLUB SUIT;00WHITE SPADE SUIT;00BLACK HEART SUIT;06DIAMOND SUIT",
   "00WHITE CLUB SUIT;00HOT SPRINGS;00QUARTER NOTE;00EIGHTH NOTE;00BEAMED EIGHTH NOTES",
   "07SIXTEENTH NOTES;00MUSIC FLAT SIGN;06NATURAL SIGN;06SHARP SIGN;00WEST SYRIAC CROSS",
   "00EAST SYRIAC CROSS;00UNIVERSAL RECYCLING SYMBOL;00RECYCLING SYMBOL FOR TYPE-1 PLASTICS",
   "262 PLASTICS;263 PLASTICS;264 PLASTICS;265 PLASTICS;266 PLASTICS;267 PLASTICS",
   "21GENERIC MATERIALS;00BLACK UNIVERSAL RECYCLING SYMBOL;00RECYCLED PAPER SYMBOL",
   "00PARTIALLY-RECYCLED PAPER SYMBOL;01ERMANENT PAPER SIGN;00WHEELCHAIR SYMBOL;00DIE FACE-1;092",
   "093;094;095;096;00WHITE CIRCLE WITH DOT RIGHT;18TWO DOTS;00BLACK CIRCLE WITH WHITE DOT RIGHT",
   "18TWO WHITE DOTS;00MONOGRAM FOR YANG;14IN;00DIGRAM FOR GREATER YANG;11LESSER YIN;19ANG",
   "11GREATER YIN;00WHITE FLAG;00BLACK FLAG;00HAMMER AND PICK;00ANCHOR;00CROSSED SWORDS",
   "00STAFF OF AESCULAPIUS;01CALES;00ALEMBIC;00FLOWER;00GEAR;00STAFF OF HERMES;00ATOM SYMBOL",
   "00FLEUR-DE-LIS;00OUTLINED WHITE STAR;00THREE LINES CONVERGING RIGHT;23LEFT;00WARNING SIGN",
   "00HIGH VOLTAGE SIGN;00DOUBLED FEMALE SIGN;08MALE SIGN;00INTERLOCKED FEMALE AND MALE SIGN",
   "00MALE AND FEMALE SIGN;05WITH STROKE SIGN;17AND MALE AND FEMALE SIGN",
   "00VERTICAL MALE WITH STROKE SIGN;00HORIZONTAL MALE WITH STROKE SIGN;00MEDIUM WHITE CIRCLE",
   "07BLACK CIRCLE;07SMALL WHITE CIRCLE;01ARRIAGE SYMBOL;00DIVORCE SYMBOL",
   "00UNMARRIED PARTNERSHIP SYMBOL;00COFFIN;00FUNERAL URN;00NEUTER;00CERES;00PALLAS;00JUNO;00VESTA",
   "00CHIRON;00BLACK MOON LILITH;00SEXTILE;02MISEXTILE;00QUINCUNX;00SESQUIQUADRATE;01OCCER BALL",
   "00BASEBALL;00SQUARED KEY;00WHITE DRAUGHTS MAN;15KING;00BLACK DRAUGHTS MAN;15KING",
   "00SNOWMAN WITHOUT SNOW;01UN BEHIND CLOUD;00RAIN;00BLACK SNOWMAN;00THUNDER CLOUD AND RAIN",
   "01URNED WHITE SHOGI PIECE;07BLACK SHOGI PIECE;00WHITE DIAMOND IN SQUARE;00CROSSING LANES",
   "00DISABLED CAR;00OPHIUCHUS;00PICK;00CAR SLIDING;00HELMET WITH WHITE CROSS",
   "00CIRCLED CROSSING LANES;01HAINS;00NO ENTRY;00ALTERNATE ONE-WAY LEFT WAY TRAFFIC",
   "00BLACK TWO-WAY LEFT WAY TRAFFIC;00WHITE TWO-WAY LEFT WAY TRAFFIC;00BLACK LEFT LANE MERGE",
   "00WHITE LEFT LANE MERGE;00DRIVE SLOW SIGN;00HEAVY WHITE DOWN-POINTING TRIANGLE",
   "00LEFT CLOSED ENTRY;00SQUARED SALTIRE;00FALLING DIAGONAL IN WHITE CIRCLE IN BLACK SQUARE",
   "00BLACK TRUCK;00RESTRICTED LEFT ENTRY-1;222;00ASTRONOMICAL SYMBOL FOR URANUS",
   "00HEAVY CIRCLE WITH STROKE AND TWO DOTS ABOVE;00PENTAGRAM;00RIGHT-HANDED INTERLACED PENTAGRAM",
   "00LEFT-HANDED INTERLACED PENTAGRAM;00INVERTED PENTAGRAM;00BLACK CROSS ON SHIELD",
   "00SHINTO SHRINE;00CHURCH;01ASTLE;00HISTORIC SITE;00GEAR WITHOUT HUB;09 HANDLES",
   "00MAP SYMBOL FOR LIGHTHOUSE;01OUNTAIN;00UMBRELLA ON GROUND;00FOUNTAIN;01LAG IN HOLE;01ERRY",
   "00SAILBOAT;01QUARE FOUR CORNERS;01KIER;00ICE SKATE;00PERSON WITH BALL;00TENT",
   "00JAPANESE BANK SYMBOL;00HEADSTONE GRAVEYARD SYMBOL;00FUEL PUMP;00CUP ON BLACK SQUARE",
   "00WHITE FLAG WITH HORIZONTAL MIDDLE BLACK STRIPE;00BLACK SAFETY SCISSORS",
   "00UPPER BLADE SCISSORS;00BLACK SCISSORS;00LOWER BLADE SCISSORS;00WHITE SCISSORS",
   "06HEAVY CHECK MARK;00TELEPHONE LOCATION SIGN;01APE DRIVE;00AIRPLANE;00ENVELOPE;00RAISED FIST",
   "07HAND;00VICTORY HAND;00WRITING HAND;00LOWER RIGHT PENCIL;00PENCIL;00UPPER RIGHT PENCIL",
   "00WHITE NIB;00BLACK NIB;00CHECK MARK;00HEAVY CHECK MARK;00MULTIPLICATION X",
   "00HEAVY MULTIPLICATION X;00BALLOT X;00HEAVY BALLOT X;00OUTLINED GREEK CROSS",
   "00HEAVY GREEK CROSS;00OPEN CENTRE CROSS;00HEAVY OPEN CENTRE CROSS;00LATIN CROSS",
   "00SHADOWED WHITE LATIN CROSS;00OUTLINED LATIN CROSS;00MALTESE CROSS;00STAR OF DAVID",
   "00FOUR TEARDROP-SPOKED ASTERISK;05BALLOON-SPOKED ASTERISK;00HEAVY FOUR BALLOON-SPOKED ASTERISK",
   "00FOUR CLUB-SPOKED ASTERISK;00BLACK FOUR POINTED STAR;00WHITE FOUR POINTED STAR;00SPARKLES",
   "01TRESS OUTLINED WHITE STAR;00CIRCLED WHITE STAR;00OPEN CENTRE BLACK STAR",
   "00BLACK CENTRE WHITE STAR;00OUTLINED BLACK STAR;00HEAVY OUTLINED BLACK STAR;00PINWHEEL STAR",
   "00SHADOWED WHITE STAR;00HEAVY ASTERISK;00OPEN CENTRE ASTERISK;00EIGHT SPOKED ASTERISK",
   "06POINTED BLACK STAR;14PINWHEEL STAR;00SIX POINTED BLACK STAR",
   "00EIGHT POINTED RECTILINEAR BLACK STAR;00HEAVY EIGHT POINTED RECTILINEAR BLACK STAR",
   "00TWELVE POINTED BLACK STAR;00SIXTEEN POINTED ASTERISK;00TEARDROP-SPOKED ASTERISK",
   "00OPEN CENTRE TEARDROP-SPOKED ASTERISK;00HEAVY TEARDROP-SPOKED ASTERISK",
   "00SIX PETALLED BLACK AND WHITE FLORETTE;00BLACK FLORETTE;00WHITE FLORETTE",
   "00EIGHT PETALLED OUTLINED BLACK FLORETTE;00CIRCLED OPEN CENTRE EIGHT POINTED STAR",
   "00HEAVY TEARDROP-SPOKED PINWHEEL ASTERISK;00SNOWFLAKE;00TIGHT TRIFOLIATE SNOWFLAKE",
   "00HEAVY CHEVRON SNOWFLAKE;00SPARKLE;00HEAVY SPARKLE;00BALLOON-SPOKED ASTERISK",
   "00EIGHT TEARDROP-SPOKED PROPELLER ASTERISK;00HEAVY EIGHT TEARDROP-SPOKED PROPELLER ASTERISK",
   "00CROSS MARK;00SHADOWED WHITE CIRCLE;00NEGATIVE SQUARED CROSS MARK",
   "00LOWER RIGHT DROP-SHADOWED WHITE SQUARE;00UPPER RIGHT DROP-SHADOWED WHITE SQUARE",
   "00LOWER RIGHT SHADOWED WHITE SQUARE;00UPPER RIGHT SHADOWED WHITE SQUARE",
   "00BLACK QUESTION MARK ORNAMENT;00WHITE QUESTION MARK ORNAMENT;06EXCLAMATION MARK ORNAMENT",
   "00BLACK DIAMOND MINUS WHITE X;00HEAVY EXCLAMATION MARK SYMBOL;00LIGHT VERTICAL BAR",
   "00MEDIUM VERTICAL BAR;00HEAVY VERTICAL BAR;06SINGLE TURNED COMMA QUOTATION MARK ORNAMENT",
   "13COMMA QUOTATION MARK ORNAMENT;06DOUBLE TURNED COMMA QUOTATION MARK ORNAMENT",
   "13COMMA QUOTATION MARK ORNAMENT;06LOW SINGLE COMMA QUOTATION MARK ORNAMENT",
   "10DOUBLE COMMA QUOTATION MARK ORNAMENT;00CURVED STEM PARAGRAPH SIGN ORNAMENT",
   "00HEAVY EXCLAMATION MARK ORNAMENT;06HEART EXCLAMATION MARK ORNAMENT;06BLACK HEART",
   "00ROTATED HEAVY BLACK HEART BULLET;00FLORAL HEART;00ROTATED FLORAL HEART BULLET",
   "00MEDIUM LEFT PARENTHESIS ORNAMENT;07RIGHT PARENTHESIS ORNAMENT",
   "07FLATTENED LEFT PARENTHESIS ORNAMENT;17RIGHT PARENTHESIS ORNAMENT",
   "07LEFT-POINTING ANGLE BRACKET ORNAMENT;07RIGHT-POINTING ANGLE BRACKET ORNAMENT",
   "00HEAVY LEFT-POINTING ANGLE QUOTATION MARK ORNAMENT",
   "06RIGHT-POINTING ANGLE QUOTATION MARK ORNAMENT;06LEFT-POINTING ANGLE BRACKET ORNAMENT",
   "06RIGHT-POINTING ANGLE BRACKET ORNAMENT;00LIGHT LEFT TORTOISE SHELL BRACKET ORNAMENT",
   "06RIGHT TORTOISE SHELL BRACKET ORNAMENT;00MEDIUM LEFT CURLY BRACKET ORNAMENT",
   "07RIGHT CURLY BRACKET ORNAMENT;00DINGBAT NEGATIVE CIRCLED DIGIT ONE;31TWO;32HREE;31FOUR;32IVE",
   "31SIX;32EVEN;31EIGHT;31NINE;25NUMBER TEN;08CIRCLED SANS-SERIF DIGIT ONE;33TWO;34HREE;33FOUR",
   "34IVE;33SIX;34EVEN;33EIGHT;33NINE;27NUMBER TEN;08NEGATIVE CIRCLED SANS-SERIF DIGIT ONE;42TWO",
   "43HREE;42FOUR;43IVE;42SIX;43EVEN;42EIGHT;42NINE;36NUMBER TEN",
   "00HEAVY WIDE-HEADED RIGHTWARDS ARROW;06PLUS SIGN;06MINUS SIGN;06DIVISION SIGN",
   "06SOUTH EAST ARROW;06RIGHTWARDS ARROW;06NORTH EAST ARROW;00DRAFTING POINT RIGHTWARDS ARROW",
   "00HEAVY ROUND-TIPPED RIGHTWARDS ARROW;00TRIANGLE-HEADED RIGHTWARDS ARROW",
   "00HEAVY TRIANGLE-HEADED RIGHTWARDS ARROW;00DASHED TRIANGLE-HEADED RIGHTWARDS ARROW",
   "00HEAVY DASHED TRIANGLE-HEADED RIGHTWARDS ARROW;00BLACK RIGHTWARDS ARROW",
   "00THREE-D TOP-LIGHTED RIGHTWARDS ARROWHEAD;08BOTTOM-LIGHTED RIGHTWARDS ARROWHEAD",
   "00BLACK RIGHTWARDS ARROWHEAD;00HEAVY BLACK CURVED DOWNWARDS AND RIGHTWARDS ARROW",
   "19UPWARDS AND RIGHTWARDS ARROW;00SQUAT BLACK RIGHTWARDS ARROW",
   "00HEAVY CONCAVE-POINTED BLACK RIGHTWARDS ARROW;00RIGHT-SHADED WHITE RIGHTWARDS ARROW",
   "00LEFT-SHADED WHITE RIGHTWARDS ARROW;00BACK-TILTED SHADOWED WHITE RIGHTWARDS ARROW",
   "00FRONT-TILTED SHADOWED WHITE RIGHTWARDS ARROW",
   "00HEAVY LOWER RIGHT-SHADOWED WHITE RIGHTWARDS ARROW",
   "06UPPER RIGHT-SHADOWED WHITE RIGHTWARDS ARROW",
   "00NOTCHED LOWER RIGHT-SHADOWED WHITE RIGHTWARDS ARROW;00CURLY LOOP",
   "00NOTCHED UPPER RIGHT-SHADOWED WHITE RIGHTWARDS ARROW;00CIRCLED HEAVY WHITE RIGHTWARDS ARROW",
   "00WHITE-FEATHERED RIGHTWARDS ARROW;00BLACK-FEATHERED SOUTH EAST ARROW;16RIGHTWARDS ARROW",
   "16NORTH EAST ARROW;00HEAVY BLACK-FEATHERED SOUTH EAST ARROW;22RIGHTWARDS ARROW",
   "22NORTH EAST ARROW;00TEARDROP-BARBED RIGHTWARDS ARROW",
   "00HEAVY TEARDROP-SHANKED RIGHTWARDS ARROW;00WEDGE-TAILED RIGHTWARDS ARROW",
   "00HEAVY WEDGE-TAILED RIGHTWARDS ARROW;00OPEN-OUTLINED RIGHTWARDS ARROW;00DOUBLE CURLY LOOP",
   "00THREE DIMENSIONAL ANGLE;00WHITE TRIANGLE CONTAINING SMALL WHITE TRIANGLE;00PERPENDICULAR",
   "00OPEN SUBSET;07PERSET;00LEFT S-SHAPED BAG DELIMITER;00RIGHT S-SHAPED BAG DELIMITER",
   "00OR WITH DOT INSIDE;00REVERSE SOLIDUS PRECEDING SUBSET;00SUPERSET PRECEDING SOLIDUS",
   "00VERTICAL BAR WITH HORIZONTAL STROKE;00MATHEMATICAL RISING DIAGONAL;00LONG DIVISION",
   "00MATHEMATICAL FALLING DIAGONAL;00SQUARED LOGICAL AND;16OR;00WHITE DIAMOND WITH CENTRED DOT",
   "00AND WITH DOT;00ELEMENT OF OPENING UPWARDS;00LOWER RIGHT CORNER WITH DOT",
   "00UPPER LEFT CORNER WITH DOT;00LEFT OUTER JOIN;00RIGHT OUTER JOIN;00FULL OUTER JOIN",
   "00LARGE UP TACK;06DOWN TACK;01EFT AND RIGHT DOUBLE TURNSTILE;15TACK;05MULTIMAP",
   "01ONG RIGHT TACK;05LEFT TACK;00UP TACK WITH CIRCLE ABOVE;00LOZENGE DIVIDED BY HORIZONTAL RULE",
   "00WHITE CONCAVE-SIDED DIAMOND;27 WITH LEFTWARDS TICK;33RIGHTWARDS TICK",
   "06SQUARE WITH LEFTWARDS TICK;18RIGHTWARDS TICK;00MATHEMATICAL LEFT WHITE SQUARE BRACKET",
   "13RIGHT WHITE SQUARE BRACKET;13LEFT ANGLE BRACKET;13RIGHT ANGLE BRACKET",
   "13LEFT DOUBLE ANGLE BRACKET;13RIGHT DOUBLE ANGLE BRACKET;13LEFT WHITE TORTOISE SHELL BRACKET",
   "13RIGHT WHITE TORTOISE SHELL BRACKET;13LEFT FLATTENED PARENTHESIS",
   "13RIGHT FLATTENED PARENTHESIS;00UPWARDS QUADRUPLE ARROW;00DOWNWARDS QUADRUPLE ARROW",
   "00ANTICLOCKWISE GAPPED CIRCLE ARROW;00CLOCKWISE GAPPED CIRCLE ARROW",
   "00RIGHT ARROW WITH CIRCLED PLUS;00LONG LEFTWARDS ARROW;05RIGHTWARDS ARROW;05LEFT RIGHT ARROW",
   "09WARDS DOUBLE ARROW;05RIGHTWARDS DOUBLE ARROW;05LEFT RIGHT DOUBLE ARROW",
   "09WARDS ARROW FROM BAR;05RIGHTWARDS ARROW FROM BAR;05LEFTWARDS DOUBLE ARROW FROM BAR",
   "05RIGHTWARDS DOUBLE ARROW FROM BAR;16SQUIGGLE ARROW;00BRAILLE PATTERN BLANK;16DOTS-1;212;2112",
   "213;2113;2123;21123;214;2114;2124;21124;2134;21134;21234;211234;215;2115;2125;21125;2135;21135",
   "21235;211235;2145;21145;21245;211245;21345;211345;212345;2112345;216;2116;2126;21126;2136",
   "21136;21236;211236;2146;21146;21246;211246;21346;211346;212346;2112346;2156;21156;21256;211256",
   "21356;211356;212356;2112356;21456;211456;212456;2112456;213456;2113456;2123456;21123456;217",
   "2117;2127;21127;2137;21137;21237;211237;2147;21147;21247;211247;21347;211347;212347;2112347",
   "2157;21157;21257;211257;21357;211357;212357;2112357;21457;211457;212457;2112457;213457;2113457",
   "2123457;21123457;2167;21167;21267;211267;21367;211367;212367;2112367;21467;211467;212467",
   "2112467;213467;2113467;2123467;21123467;21567;211567;212567;2112567;213567;2113567;2123567",
   "21123567;214567;2114567;2124567;21124567;2134567;21134567;21234567;211234567;218;2118;2128",
   "21128;2138;21138;21238;211238;2148;21148;21248;211248;21348;211348;212348;2112348;2158;21158",
   "21258;211258;21358;211358;212358;2112358;21458;211458;212458;2112458;213458;2113458;2123458",
   "21123458;2168;21168;21268;211268;21368;211368;212368;2112368;21468;211468;212468;2112468",
   "213468;2113468;2123468;21123468;21568;211568;212568;2112568;213568;2113568;2123568;21123568",
   "214568;2114568;2124568;21124568;2134568;21134568;21234568;211234568;2178;21178;21278;211278",
   "21378;211378;212378;2112378;21478;211478;212478;2112478;213478;2113478;2123478;21123478;21578",
   "211578;212578;2112578;213578;2113578;2123578;21123578;214578;2114578;2124578;21124578;2134578",
   "21134578;21234578;211234578;21678;211678;212678;2112678;213678;2113678;2123678;21123678;214678",
   "2114678;2124678;21124678;2134678;21134678;21234678;211234678;215678;2115678;2125678;21125678",
   "2135678;21135678;21235678;211235678;2145678;21145678;21245678;211245678;21345678;211345678",
   "212345678;2112345678;00RIGHTWARDS TWO-HEADED ARROW WITH VERTICAL STROKE",
   "33DOUBLE VERTICAL STROKE;00LEFTWARDS DOUBLE ARROW WITH VERTICAL STROKE",
   "00RIGHTWARDS DOUBLE ARROW WITH VERTICAL STROKE;00LEFT RIGHT DOUBLE ARROW WITH VERTICAL STROKE",
   "00RIGHTWARDS TWO-HEADED ARROW FROM BAR;00LEFTWARDS DOUBLE ARROW FROM BAR",
   "00RIGHTWARDS DOUBLE ARROW FROM BAR;00DOWNWARDS ARROW WITH HORIZONTAL STROKE",
   "00UPWARDS ARROW WITH HORIZONTAL STROKE;08TRIPLE ARROW;00DOWNWARDS TRIPLE ARROW",
   "00LEFTWARDS DOUBLE DASH ARROW;00RIGHTWARDS DOUBLE DASH ARROW;00LEFTWARDS TRIPLE DASH ARROW",
   "00RIGHTWARDS TRIPLE DASH ARROW;12WO-HEADED TRIPLE DASH ARROW;11ARROW WITH DOTTED STEM",
   "00UPWARDS ARROW TO BAR;00DOWNWARDS ARROW TO BAR",
   "00RIGHTWARDS ARROW WITH TAIL WITH VERTICAL STROKE;32DOUBLE VERTICAL STROKE",
   "11TWO-HEADED ARROW WITH TAIL;37 WITH VERTICAL STROKE;43DOUBLE VERTICAL STROKE",
   "00LEFTWARDS ARROW-TAIL;00RIGHTWARDS ARROW-TAIL;00LEFTWARDS DOUBLE ARROW-TAIL",
   "00RIGHTWARDS DOUBLE ARROW-TAIL;00LEFTWARDS ARROW TO BLACK DIAMOND",
   "00RIGHTWARDS ARROW TO BLACK DIAMOND;00LEFTWARDS ARROW FROM BAR TO BLACK DIAMOND",
   "00RIGHTWARDS ARROW FROM BAR TO BLACK DIAMOND;00NORTH WEST AND SOUTH EAST ARROW",
   "06EAST AND SOUTH WEST ARROW;06WEST ARROW WITH HOOK;06EAST ARROW WITH HOOK",
   "00SOUTH EAST ARROW WITH HOOK;06WEST ARROW WITH HOOK;00NORTH WEST ARROW AND NORTH EAST ARROW",
   "06EAST ARROW AND SOUTH EAST ARROW;00SOUTH EAST ARROW AND SOUTH WEST ARROW",
   "06WEST ARROW AND NORTH WEST ARROW;00RISING DIAGONAL CROSSING FALLING DIAGONAL",
   "00FALLING DIAGONAL CROSSING RISING DIAGONAL;00SOUTH EAST ARROW CROSSING NORTH EAST ARROW",
   "00NORTH EAST ARROW CROSSING SOUTH EAST ARROW;00FALLING DIAGONAL CROSSING NORTH EAST ARROW",
   "00RISING DIAGONAL CROSSING SOUTH EAST ARROW;00NORTH EAST ARROW CROSSING NORTH WEST ARROW",
   "06WEST ARROW CROSSING NORTH EAST ARROW;00WAVE ARROW POINTING DIRECTLY RIGHT",
   "00ARROW POINTING RIGHTWARDS THEN CURVING UPWARDS;39DOWNWARDS",
   "15DOWNWARDS THEN CURVING LEFTWARDS;38RIGHTWARDS;00RIGHT-SIDE ARC CLOCKWISE ARROW",
   "00LEFT-SIDE ARC ANTICLOCKWISE ARROW;00TOP ARC ANTICLOCKWISE ARROW",
   "00BOTTOM ARC ANTICLOCKWISE ARROW;00TOP ARC CLOCKWISE ARROW WITH MINUS",
   "08ANTICLOCKWISE ARROW WITH PLUS;00LOWER RIGHT SEMICIRCULAR CLOCKWISE ARROW",
   "06LEFT SEMICIRCULAR ANTICLOCKWISE ARROW;00ANTICLOCKWISE CLOSED CIRCLE ARROW",
   "00CLOCKWISE CLOSED CIRCLE ARROW;00RIGHTWARDS ARROW ABOVE SHORT LEFTWARDS ARROW",
   "00LEFTWARDS ARROW ABOVE SHORT RIGHTWARDS ARROW;00SHORT RIGHTWARDS ARROW ABOVE LEFTWARDS ARROW",
   "00RIGHTWARDS ARROW WITH PLUS BELOW;00LEFTWARDS ARROW WITH PLUS BELOW",
   "00RIGHTWARDS ARROW THROUGH X;00LEFT RIGHT ARROW THROUGH SMALL CIRCLE",
   "00UPWARDS TWO-HEADED ARROW FROM SMALL CIRCLE;00LEFT BARB UP RIGHT BARB DOWN HARPOON",
   "10DOWN RIGHT BARB UP HARPOON;00UP BARB RIGHT DOWN BARB LEFT HARPOON",
   "08LEFT DOWN BARB RIGHT HARPOON;00LEFT BARB UP RIGHT BARB UP HARPOON",
   "00UP BARB RIGHT DOWN BARB RIGHT HARPOON;00LEFT BARB DOWN RIGHT BARB DOWN HARPOON",
   "00UP BARB LEFT DOWN BARB LEFT HARPOON;00LEFTWARDS HARPOON WITH BARB UP TO BAR",
   "00RIGHTWARDS HARPOON WITH BARB UP TO BAR;00UPWARDS HARPOON WITH BARB RIGHT TO BAR",
   "00DOWNWARDS HARPOON WITH BARB RIGHT TO BAR;00LEFTWARDS HARPOON WITH BARB DOWN TO BAR",
   "00RIGHTWARDS HARPOON WITH BARB DOWN TO BAR;00UPWARDS HARPOON WITH BARB LEFT TO BAR",
   "00DOWNWARDS HARPOON WITH BARB LEFT TO BAR;00LEFTWARDS HARPOON WITH BARB UP FROM BAR",
   "00RIGHTWARDS HARPOON WITH BARB UP FROM BAR;00UPWARDS HARPOON WITH BARB RIGHT FROM BAR",
   "00DOWNWARDS HARPOON WITH BARB RIGHT FROM BAR;00LEFTWARDS HARPOON WITH BARB DOWN FROM BAR",
   "00RIGHTWARDS HARPOON WITH BARB DOWN FROM BAR;00UPWARDS HARPOON WITH BARB LEFT FROM BAR",
   "00DOWNWARDS HARPOON WITH BARB LEFT FROM BAR",
   "00LEFTWARDS HARPOON WITH BARB UP ABOVE LEFTWARDS HARPOON WITH BARB DOWN",
   "00UPWARDS HARPOON WITH BARB LEFT BESIDE UPWARDS HARPOON WITH BARB RIGHT",
   "00RIGHTWARDS HARPOON WITH BARB UP ABOVE RIGHTWARDS HARPOON WITH BARB DOWN",
   "00DOWNWARDS HARPOON WITH BARB LEFT BESIDE DOWNWARDS HARPOON WITH BARB RIGHT",
   "00LEFTWARDS HARPOON WITH BARB UP ABOVE RIGHTWARDS HARPOON WITH BARB UP",
   "28DOWN ABOVE RIGHTWARDS HARPOON WITH BARB DOWN",
   "00RIGHTWARDS HARPOON WITH BARB UP ABOVE LEFTWARDS HARPOON WITH BARB UP",
   "29DOWN ABOVE LEFTWARDS HARPOON WITH BARB DOWN;00LEFTWARDS HARPOON WITH BARB UP ABOVE LONG DASH",
   "28DOWN BELOW LONG DASH;00RIGHTWARDS HARPOON WITH BARB UP ABOVE LONG DASH",
   "29DOWN BELOW LONG DASH",
   "00UPWARDS HARPOON WITH BARB LEFT BESIDE DOWNWARDS HARPOON WITH BARB RIGHT",
   "00DOWNWARDS HARPOON WITH BARB LEFT BESIDE UPWARDS HARPOON WITH BARB RIGHT",
   "00RIGHT DOUBLE ARROW WITH ROUNDED HEAD;00EQUALS SIGN ABOVE RIGHTWARDS ARROW",
   "00TILDE OPERATOR ABOVE RIGHTWARDS ARROW;00LEFTWARDS ARROW ABOVE TILDE OPERATOR",
   "00RIGHTWARDS ARROW ABOVE TILDE OPERATOR;23ALMOST EQUAL TO;00LESS-THAN ABOVE LEFTWARDS ARROW",
   "02FTWARDS ARROW THROUGH LESS-THAN;00GREATER-THAN ABOVE RIGHTWARDS ARROW",
   "00SUBSET ABOVE RIGHTWARDS ARROW;00LEFTWARDS ARROW THROUGH SUBSET",
   "00SUPERSET ABOVE LEFTWARDS ARROW;00LEFT FISH TAIL;00RIGHT FISH TAIL;00UP FISH TAIL",
   "00DOWN FISH TAIL;00TRIPLE VERTICAL BAR DELIMITER;00Z NOTATION SPOT;11TYPE COLON",
   "00LEFT WHITE CURLY BRACKET;00RIGHT WHITE CURLY BRACKET;00LEFT WHITE PARENTHESIS",
   "00RIGHT WHITE PARENTHESIS;00Z NOTATION LEFT IMAGE BRACKET;11RIGHT IMAGE BRACKET",
   "11LEFT BINDING BRACKET;11RIGHT BINDING BRACKET;00LEFT SQUARE BRACKET WITH UNDERBAR",
   "00RIGHT SQUARE BRACKET WITH UNDERBAR;00LEFT SQUARE BRACKET WITH TICK IN TOP CORNER",
   "00RIGHT SQUARE BRACKET WITH TICK IN BOTTOM CORNER",
   "00LEFT SQUARE BRACKET WITH TICK IN BOTTOM CORNER",
   "00RIGHT SQUARE BRACKET WITH TICK IN TOP CORNER;00LEFT ANGLE BRACKET WITH DOT",
   "00RIGHT ANGLE BRACKET WITH DOT;00LEFT ARC LESS-THAN BRACKET;00RIGHT ARC GREATER-THAN BRACKET",
   "00DOUBLE LEFT ARC GREATER-THAN BRACKET;07RIGHT ARC LESS-THAN BRACKET",
   "00LEFT BLACK TORTOISE SHELL BRACKET;00RIGHT BLACK TORTOISE SHELL BRACKET;00DOTTED FENCE",
   "00VERTICAL ZIGZAG LINE;00MEASURED ANGLE OPENING LEFT;00RIGHT ANGLE VARIANT WITH SQUARE",
   "00MEASURED RIGHT ANGLE WITH DOT;00ANGLE WITH S INSIDE;01CUTE ANGLE",
   "00SPHERICAL ANGLE OPENING LEFT;24UP;00TURNED ANGLE;00REVERSED ANGLE;00ANGLE WITH UNDERBAR",
   "00REVERSED ANGLE WITH UNDERBAR;00OBLIQUE ANGLE OPENING UP;22DOWN",
   "00MEASURED ANGLE WITH OPEN ARM ENDING IN ARROW POINTING UP AND RIGHT;61LEFT;54DOWN AND RIGHT",
   "63LEFT;54RIGHT AND UP;54LEFT AND UP;54RIGHT AND DOWN;54LEFT AND DOWN;00REVERSED EMPTY SET",
   "00EMPTY SET WITH OVERBAR;15SMALL CIRCLE ABOVE;15RIGHT ARROW ABOVE;15LEFT ARROW ABOVE",
   "00CIRCLE WITH HORIZONTAL BAR;06D VERTICAL BAR;08PARALLEL;08REVERSE SOLIDUS;08PERPENDICULAR",
   "06 DIVIDED BY HORIZONTAL BAR AND TOP HALF DIVIDED BY VERTICAL BAR;07WITH SUPERIMPOSED X",
   "06D ANTICLOCKWISE-ROTATED DIVISION SIGN;00UP ARROW THROUGH CIRCLE;00CIRCLED WHITE BULLET",
   "08BULLET;08LESS-THAN;08GREATER-THAN;06 WITH SMALL CIRCLE TO THE RIGHT",
   "12TWO HORIZONTAL STROKES TO THE RIGHT;00SQUARED RISING DIAGONAL SLASH;08FALLING DIAGONAL SLASH",
   "08ASTERISK;08SMALL CIRCLE;09QUARE;00TWO JOINED SQUARES;01RIANGLE WITH DOT ABOVE;14UNDERBAR",
   "00S IN TRIANGLE;00TRIANGLE WITH SERIFS AT BOTTOM;00RIGHT TRIANGLE ABOVE LEFT TRIANGLE",
   "00LEFT TRIANGLE BESIDE VERTICAL BAR;00VERTICAL BAR BESIDE RIGHT TRIANGLE",
   "00BOWTIE WITH LEFT HALF BLACK;12RIGHT HALF BLACK;01LACK BOWTIE;00TIMES WITH LEFT HALF BLACK",
   "11RIGHT HALF BLACK;00WHITE HOURGLASS;00BLACK HOURGLASS;00LEFT WIGGLY FENCE",
   "00RIGHT WIGGLY FENCE;00LEFT DOUBLE WIGGLY FENCE;00RIGHT DOUBLE WIGGLY FENCE",
   "00INCOMPLETE INFINITY;00TIE OVER INFINITY;00INFINITY NEGATED WITH VERTICAL BAR",
   "00DOUBLE-ENDED MULTIMAP;00SQUARE WITH CONTOURED OUTLINE;00INCREASES AS;00SHUFFLE PRODUCT",
   "00EQUALS SIGN AND SLANTED PARALLEL;32 WITH TILDE ABOVE;00IDENTICAL TO AND SLANTED PARALLEL",
   "00GLEICH STARK;00THERMODYNAMIC;00DOWN-POINTING TRIANGLE WITH LEFT HALF BLACK",
   "28RIGHT HALF BLACK;00BLACK DIAMOND WITH DOWN ARROW;06LOZENGE;00WHITE CIRCLE WITH DOWN ARROW",
   "00BLACK CIRCLE WITH DOWN ARROW;00ERROR-BARRED WHITE SQUARE;13BLACK SQUARE;13WHITE DIAMOND",
   "13BLACK DIAMOND;13WHITE CIRCLE;13BLACK CIRCLE;00RULE-DELAYED;01EVERSE SOLIDUS OPERATOR",
   "00SOLIDUS WITH OVERBAR;00REVERSE SOLIDUS WITH HORIZONTAL STROKE;00BIG SOLIDUS",
   "04REVERSE SOLIDUS;00DOUBLE PLUS;00TRIPLE PLUS;00LEFT-POINTING CURVED ANGLE BRACKET",
   "00RIGHT-POINTING CURVED ANGLE BRACKET;00TINY;00MINY;00N-ARY CIRCLED DOT OPERATOR",
   "14PLUS OPERATOR;14TIMES OPERATOR;06UNION OPERATOR WITH DOT;26PLUS",
   "06SQUARE INTERSECTION OPERATOR;13UNION OPERATOR;00TWO LOGICAL AND OPERATOR;12OR OPERATOR",
   "00N-ARY TIMES OPERATOR;00MODULO TWO SUM;00SUMMATION WITH INTEGRAL",
   "00QUADRUPLE INTEGRAL OPERATOR;00FINITE PART INTEGRAL;00INTEGRAL WITH DOUBLE STROKE",
   "09AVERAGE WITH SLASH;00CIRCULATION FUNCTION;00ANTICLOCKWISE INTEGRATION",
   "00LINE INTEGRATION WITH RECTANGULAR PATH AROUND POLE;22SEMICIRCULAR PATH AROUND POLE",
   "17NOT INCLUDING THE POLE;00INTEGRAL AROUND A POINT OPERATOR;00QUATERNION INTEGRAL OPERATOR",
   "00INTEGRAL WITH LEFTWARDS ARROW WITH HOOK;14TIMES SIGN;14INTERSECTION;14UNION;14OVERBAR",
   "14UNDERBAR;00JOIN;00LARGE LEFT TRIANGLE OPERATOR;00Z NOTATION SCHEMA COMPOSITION;18PIPING",
   "19ROJECTION;00PLUS SIGN WITH SMALL CIRCLE ABOVE;15CIRCUMFLEX ACCENT ABOVE;15TILDE ABOVE",
   "15DOT BELOW;15TILDE BELOW;15SUBSCRIPT TWO;15BLACK TRIANGLE;00MINUS SIGN WITH COMMA ABOVE",
   "16DOT BELOW;16FALLING DOTS;16RISING DOTS;00PLUS SIGN IN LEFT HALF CIRCLE;13RIGHT HALF CIRCLE",
   "00VECTOR OR CROSS PRODUCT;00MULTIPLICATION SIGN WITH DOT ABOVE;25UNDERBAR",
   "00SEMIDIRECT PRODUCT WITH BOTTOM CLOSED;01MASH PRODUCT",
   "00MULTIPLICATION SIGN IN LEFT HALF CIRCLE;23RIGHT HALF CIRCLE",
   "00CIRCLED MULTIPLICATION SIGN WITH CIRCUMFLEX ACCENT;00MULTIPLICATION SIGN IN DOUBLE CIRCLE",
   "00CIRCLED DIVISION SIGN;00PLUS SIGN IN TRIANGLE;00MINUS SIGN IN TRIANGLE",
   "01ULTIPLICATION SIGN IN TRIANGLE;00INTERIOR PRODUCT;00RIGHTHAND INTERIOR PRODUCT",
   "00Z NOTATION RELATIONAL COMPOSITION;00AMALGAMATION OR COPRODUCT;00INTERSECTION WITH DOT",
   "00UNION WITH MINUS SIGN;11OVERBAR;00INTERSECTION WITH OVERBAR;18LOGICAL AND",
   "00UNION WITH LOGICAL OR;06ABOVE INTERSECTION;00INTERSECTION ABOVE UNION",
   "00UNION ABOVE BAR ABOVE INTERSECTION;00INTERSECTION ABOVE BAR ABOVE UNION",
   "00UNION BESIDE AND JOINED WITH UNION;00INTERSECTION BESIDE AND JOINED WITH INTERSECTION",
   "00CLOSED UNION WITH SERIFS;07INTERSECTION WITH SERIFS;00DOUBLE SQUARE INTERSECTION;14UNION",
   "00CLOSED UNION WITH SERIFS AND SMASH PRODUCT;00LOGICAL AND WITH DOT ABOVE;08OR WITH DOT ABOVE",
   "00DOUBLE LOGICAL AND;15OR;00TWO INTERSECTING LOGICAL AND;25OR;00SLOPING LARGE OR;14AND",
   "00LOGICAL OR OVERLAPPING LOGICAL AND;08AND WITH MIDDLE STEM;08OR WITH MIDDLE STEM",
   "08AND WITH HORIZONTAL DASH;08OR WITH HORIZONTAL DASH;08AND WITH DOUBLE OVERBAR;17UNDERBAR",
   "17DOUBLE UNDERBAR;00SMALL VEE WITH UNDERBAR;00LOGICAL OR WITH DOUBLE OVERBAR;23UNDERBAR",
   "00Z NOTATION DOMAIN ANTIRESTRICTION;11RANGE ANTIRESTRICTION;00EQUALS SIGN WITH DOT BELOW",
   "00IDENTICAL WITH DOT ABOVE;00TRIPLE HORIZONTAL BAR WITH DOUBLE VERTICAL STROKE",
   "27TRIPLE VERTICAL STROKE;01ILDE OPERATOR WITH DOT ABOVE;20RISING DOTS;00SIMILAR MINUS SIMILAR",
   "00CONGRUENT WITH DOT ABOVE;00EQUALS WITH ASTERISK;00ALMOST EQUAL TO WITH CIRCUMFLEX ACCENT",
   "01PPROXIMATELY EQUAL OR EQUAL TO;00EQUALS SIGN ABOVE PLUS SIGN;00PLUS SIGN ABOVE EQUALS SIGN",
   "00EQUALS SIGN ABOVE TILDE OPERATOR;00DOUBLE COLON EQUAL;00TWO CONSECUTIVE EQUALS SIGNS",
   "01HREE CONSECUTIVE EQUALS SIGNS;00EQUALS SIGN WITH TWO DOTS ABOVE AND TWO DOTS BELOW",
   "03IVALENT WITH FOUR DOTS ABOVE;00LESS-THAN WITH CIRCLE INSIDE",
   "00GREATER-THAN WITH CIRCLE INSIDE;00LESS-THAN WITH QUESTION MARK ABOVE",
   "00GREATER-THAN WITH QUESTION MARK ABOVE;00LESS-THAN OR SLANTED EQUAL TO",
   "00GREATER-THAN OR SLANTED EQUAL TO;00LESS-THAN OR SLANTED EQUAL TO WITH DOT INSIDE",
   "00GREATER-THAN OR SLANTED EQUAL TO WITH DOT INSIDE",
   "00LESS-THAN OR SLANTED EQUAL TO WITH DOT ABOVE",
   "00GREATER-THAN OR SLANTED EQUAL TO WITH DOT ABOVE",
   "00LESS-THAN OR SLANTED EQUAL TO WITH DOT ABOVE RIGHT",
   "00GREATER-THAN OR SLANTED EQUAL TO WITH DOT ABOVE LEFT;00LESS-THAN OR APPROXIMATE",
   "00GREATER-THAN OR APPROXIMATE;00LESS-THAN AND SINGLE-LINE NOT EQUAL TO",
   "00GREATER-THAN AND SINGLE-LINE NOT EQUAL TO;00LESS-THAN AND NOT APPROXIMATE",
   "00GREATER-THAN AND NOT APPROXIMATE;00LESS-THAN ABOVE DOUBLE-LINE EQUAL ABOVE GREATER-THAN",
   "00GREATER-THAN ABOVE DOUBLE-LINE EQUAL ABOVE LESS-THAN;00LESS-THAN ABOVE SIMILAR OR EQUAL",
   "00GREATER-THAN ABOVE SIMILAR OR EQUAL;00LESS-THAN ABOVE SIMILAR ABOVE GREATER-THAN",
   "00GREATER-THAN ABOVE SIMILAR ABOVE LESS-THAN",
   "00LESS-THAN ABOVE GREATER-THAN ABOVE DOUBLE-LINE EQUAL",
   "00GREATER-THAN ABOVE LESS-THAN ABOVE DOUBLE-LINE EQUAL",
   "00LESS-THAN ABOVE SLANTED EQUAL ABOVE GREATER-THAN ABOVE SLANTED EQUAL",
   "00GREATER-THAN ABOVE SLANTED EQUAL ABOVE LESS-THAN ABOVE SLANTED EQUAL",
   "00SLANTED EQUAL TO OR LESS-THAN;20GREATER-THAN;20LESS-THAN WITH DOT INSIDE",
   "20GREATER-THAN WITH DOT INSIDE;00DOUBLE-LINE EQUAL TO OR LESS-THAN;24GREATER-THAN",
   "12SLANTED EQUAL TO OR LESS-THAN;32GREATER-THAN;00SIMILAR OR LESS-THAN;11GREATER-THAN",
   "08ABOVE LESS-THAN ABOVE EQUALS SIGN;14GREATER-THAN ABOVE EQUALS SIGN;00DOUBLE NESTED LESS-THAN",
   "14GREATER-THAN;14LESS-THAN WITH UNDERBAR;00GREATER-THAN OVERLAPPING LESS-THAN",
   "13BESIDE LESS-THAN;00LESS-THAN CLOSED BY CURVE;00GREATER-THAN CLOSED BY CURVE",
   "00LESS-THAN CLOSED BY CURVE ABOVE SLANTED EQUAL",
   "00GREATER-THAN CLOSED BY CURVE ABOVE SLANTED EQUAL;00SMALLER THAN;00LARGER THAN",
   "00SMALLER THAN OR EQUAL TO;00LARGER THAN OR EQUAL TO;00EQUALS SIGN WITH BUMPY ABOVE",
   "00PRECEDES ABOVE SINGLE-LINE EQUALS SIGN;00SUCCEEDS ABOVE SINGLE-LINE EQUALS SIGN",
   "00PRECEDES ABOVE SINGLE-LINE NOT EQUAL TO;00SUCCEEDS ABOVE SINGLE-LINE NOT EQUAL TO",
   "00PRECEDES ABOVE EQUALS SIGN;00SUCCEEDS ABOVE EQUALS SIGN;00PRECEDES ABOVE NOT EQUAL TO",
   "00SUCCEEDS ABOVE NOT EQUAL TO;00PRECEDES ABOVE ALMOST EQUAL TO",
   "00SUCCEEDS ABOVE ALMOST EQUAL TO;00PRECEDES ABOVE NOT ALMOST EQUAL TO",
   "00SUCCEEDS ABOVE NOT ALMOST EQUAL TO;00DOUBLE PRECEDES;07SUCCEEDS;00SUBSET WITH DOT",
   "02PERSET WITH DOT;02BSET WITH PLUS SIGN BELOW;02PERSET WITH PLUS SIGN BELOW",
   "02BSET WITH MULTIPLICATION SIGN BELOW;02PERSET WITH MULTIPLICATION SIGN BELOW",
   "02BSET OF OR EQUAL TO WITH DOT ABOVE;02PERSET OF OR EQUAL TO WITH DOT ABOVE",
   "02BSET OF ABOVE EQUALS SIGN;02PERSET OF ABOVE EQUALS SIGN;02BSET OF ABOVE TILDE OPERATOR",
   "02PERSET OF ABOVE TILDE OPERATOR;02BSET OF ABOVE ALMOST EQUAL TO",
   "02PERSET OF ABOVE ALMOST EQUAL TO;02BSET OF ABOVE NOT EQUAL TO;02PERSET OF ABOVE NOT EQUAL TO",
   "01QUARE LEFT OPEN BOX OPERATOR;07RIGHT OPEN BOX OPERATOR;00CLOSED SUBSET;09PERSET",
   "09BSET OR EQUAL TO;09PERSET OR EQUAL TO;00SUBSET ABOVE SUPERSET;02PERSET ABOVE SUBSET",
   "02BSET ABOVE SUBSET;02PERSET ABOVE SUPERSET;09BESIDE SUBSET;16AND JOINED BY DASH WITH SUBSET",
   "00ELEMENT OF OPENING DOWNWARDS;00PITCHFORK WITH TEE TOP;00TRANSVERSAL INTERSECTION;00FORKING",
   "00NONFORKING;00SHORT LEFT TACK;06DOWN TACK;06UP TACK;00PERPENDICULAR WITH S",
   "00VERTICAL BAR TRIPLE RIGHT TURNSTILE;00DOUBLE VERTICAL BAR LEFT TURNSTILE",
   "00VERTICAL BAR DOUBLE LEFT TURNSTILE;00DOUBLE VERTICAL BAR DOUBLE LEFT TURNSTILE",
   "00LONG DASH FROM LEFT MEMBER OF DOUBLE VERTICAL;00SHORT DOWN TACK WITH OVERBAR",
   "06UP TACK WITH UNDERBAR;14ABOVE SHORT DOWN TACK;00DOUBLE DOWN TACK;07UP TACK;07STROKE NOT SIGN",
   "00REVERSED DOUBLE STROKE NOT SIGN;00DOES NOT DIVIDE WITH REVERSED NEGATION SLASH",
   "00VERTICAL LINE WITH CIRCLE ABOVE;26BELOW;00DOWN TACK WITH CIRCLE BELOW",
   "00PARALLEL WITH HORIZONTAL STROKE;14TILDE OPERATOR;00TRIPLE VERTICAL BAR BINARY RELATION",
   "20WITH HORIZONTAL STROKE;07COLON OPERATOR;07NESTED LESS-THAN;14GREATER-THAN",
   "00DOUBLE-LINE SLANTED LESS-THAN OR EQUAL TO;20GREATER-THAN OR EQUAL TO",
   "00TRIPLE SOLIDUS BINARY RELATION;00LARGE TRIPLE VERTICAL BAR OPERATOR",
   "00DOUBLE SOLIDUS OPERATOR;00WHITE VERTICAL BAR;00N-ARY WHITE VERTICAL BAR",
   "01ORTH EAST WHITE ARROW;06WEST WHITE ARROW;00SOUTH EAST WHITE ARROW;06WEST WHITE ARROW",
   "00LEFT RIGHT WHITE ARROW;04WARDS BLACK ARROW;00UPWARDS BLACK ARROW;00DOWNWARDS BLACK ARROW",
   "00NORTH EAST BLACK ARROW;06WEST BLACK ARROW;00SOUTH EAST BLACK ARROW;06WEST BLACK ARROW",
   "00LEFT RIGHT BLACK ARROW;00UP DOWN BLACK ARROW;00RIGHTWARDS ARROW WITH TIP DOWNWARDS;26UPWARDS",
   "00LEFTWARDS ARROW WITH TIP DOWNWARDS;25UPWARDS;00SQUARE WITH TOP HALF BLACK",
   "12BOTTOM HALF BLACK;12UPPER RIGHT DIAGONAL HALF BLACK;12LOWER LEFT DIAGONAL HALF BLACK",
   "00DIAMOND WITH LEFT HALF BLACK;13RIGHT HALF BLACK;13TOP HALF BLACK;13BOTTOM HALF BLACK",
   "01OTTED SQUARE;00BLACK LARGE SQUARE;00WHITE LARGE SQUARE;00BLACK VERY SMALL SQUARE",
   "00WHITE VERY SMALL SQUARE;00BLACK PENTAGON;00WHITE PENTAGON;06HEXAGON;00BLACK HEXAGON",
   "00HORIZONTAL BLACK HEXAGON;00BLACK LARGE CIRCLE;06MEDIUM DIAMOND;00WHITE MEDIUM DIAMOND",
   "00BLACK MEDIUM LOZENGE;00WHITE MEDIUM LOZENGE;00BLACK SMALL DIAMOND;12LOZENGE",
   "00WHITE SMALL LOZENGE;00BLACK HORIZONTAL ELLIPSE;00WHITE HORIZONTAL ELLIPSE",
   "00BLACK VERTICAL ELLIPSE;00WHITE VERTICAL ELLIPSE;00LEFT ARROW WITH SMALL CIRCLE",
   "00THREE LEFTWARDS ARROWS;00LEFT ARROW WITH CIRCLED PLUS;01ONG LEFTWARDS SQUIGGLE ARROW",
   "01EFTWARDS TWO-HEADED ARROW WITH VERTICAL STROKE;32DOUBLE VERTICAL STROKE;27FROM BAR",
   "21TRIPLE DASH ARROW;10ARROW WITH DOTTED STEM;21TAIL WITH VERTICAL STROKE",
   "31DOUBLE VERTICAL STROKE;10TWO-HEADED ARROW WITH TAIL;36 WITH VERTICAL STROKE",
   "42DOUBLE VERTICAL STROKE;10ARROW THROUGH X;00WAVE ARROW POINTING DIRECTLY LEFT",
   "00EQUALS SIGN ABOVE LEFTWARDS ARROW;00REVERSE TILDE OPERATOR ABOVE LEFTWARDS ARROW",
   "00LEFTWARDS ARROW ABOVE REVERSE ALMOST EQUAL TO;00RIGHTWARDS ARROW THROUGH GREATER-THAN",
   "25SUPERSET;00LEFTWARDS QUADRUPLE ARROW;00RIGHTWARDS QUADRUPLE ARROW",
   "01EVERSE TILDE OPERATOR ABOVE RIGHTWARDS ARROW;01IGHTWARDS ARROW ABOVE REVERSE ALMOST EQUAL TO",
   "00TILDE OPERATOR ABOVE LEFTWARDS ARROW;00LEFTWARDS ARROW ABOVE ALMOST EQUAL TO",
   "22REVERSE TILDE OPERATOR;00RIGHTWARDS ARROW ABOVE REVERSE TILDE OPERATOR",
   "00DOWNWARDS TRIANGLE-HEADED ZIGZAG ARROW;00SHORT SLANTED NORTH ARROW;06BACKSLANTED SOUTH ARROW",
   "00WHITE MEDIUM STAR;00BLACK SMALL STAR;00WHITE SMALL STAR;00BLACK RIGHT-POINTING PENTAGON",
   "00WHITE RIGHT-POINTING PENTAGON;00HEAVY LARGE CIRCLE;06OVAL WITH OVAL INSIDE",
   "06CIRCLE WITH CIRCLE INSIDE;12;12D SALTIRE;00SLANTED NORTH ARROW WITH HOOKED HEAD",
   "00BACKSLANTED SOUTH ARROW WITH HOOKED TAIL;00SLANTED NORTH ARROW WITH HORIZONTAL TAIL",
   "00BACKSLANTED SOUTH ARROW WITH HORIZONTAL TAIL;01ENT ARROW POINTING DOWNWARDS THEN NORTH EAST",
   "00SHORT BENT ARROW POINTING DOWNWARDS THEN NORTH EAST;00LEFTWARDS TRIANGLE-HEADED ARROW",
   "00UPWARDS TRIANGLE-HEADED ARROW;00RIGHTWARDS TRIANGLE-HEADED ARROW",
   "00DOWNWARDS TRIANGLE-HEADED ARROW;00LEFT RIGHT TRIANGLE-HEADED ARROW",
   "00UP DOWN TRIANGLE-HEADED ARROW;00NORTH WEST TRIANGLE-HEADED ARROW",
   "06EAST TRIANGLE-HEADED ARROW;00SOUTH EAST TRIANGLE-HEADED ARROW;06WEST TRIANGLE-HEADED ARROW",
   "00LEFTWARDS TRIANGLE-HEADED DASHED ARROW;00UPWARDS TRIANGLE-HEADED DASHED ARROW",
   "00RIGHTWARDS TRIANGLE-HEADED DASHED ARROW;00DOWNWARDS TRIANGLE-HEADED DASHED ARROW",
   "00CLOCKWISE TRIANGLE-HEADED OPEN CIRCLE ARROW",
   "00ANTICLOCKWISE TRIANGLE-HEADED OPEN CIRCLE ARROW;00LEFTWARDS TRIANGLE-HEADED ARROW TO BAR",
   "00UPWARDS TRIANGLE-HEADED ARROW TO BAR;00RIGHTWARDS TRIANGLE-HEADED ARROW TO BAR",
   "00DOWNWARDS TRIANGLE-HEADED ARROW TO BAR;+2b76;00NORTH WEST TRIANGLE-HEADED ARROW TO BAR",
   "06EAST TRIANGLE-HEADED ARROW TO BAR;00SOUTH EAST TRIANGLE-HEADED ARROW TO BAR",
   "06WEST TRIANGLE-HEADED ARROW TO BAR",
   "00LEFTWARDS TRIANGLE-HEADED ARROW WITH DOUBLE HORIZONTAL STROKE",
   "00UPWARDS TRIANGLE-HEADED ARROW WITH DOUBLE HORIZONTAL STROKE",
   "00RIGHTWARDS TRIANGLE-HEADED ARROW WITH DOUBLE HORIZONTAL STROKE",
   "00DOWNWARDS TRIANGLE-HEADED ARROW WITH DOUBLE HORIZONTAL STROKE;00HORIZONTAL TAB KEY",
   "00VERTICAL TAB KEY;00LEFTWARDS TRIANGLE-HEADED ARROW OVER RIGHTWARDS TRIANGLE-HEADED ARROW",
   "00UPWARDS TRIANGLE-HEADED ARROW LEFTWARDS OF DOWNWARDS TRIANGLE-HEADED ARROW",
   "00RIGHTWARDS TRIANGLE-HEADED ARROW OVER LEFTWARDS TRIANGLE-HEADED ARROW",
   "00DOWNWARDS TRIANGLE-HEADED ARROW LEFTWARDS OF UPWARDS TRIANGLE-HEADED ARROW",
   "00LEFTWARDS TRIANGLE-HEADED PAIRED ARROWS;00UPWARDS TRIANGLE-HEADED PAIRED ARROWS",
   "00RIGHTWARDS TRIANGLE-HEADED PAIRED ARROWS;00DOWNWARDS TRIANGLE-HEADED PAIRED ARROWS",
   "00LEFTWARDS BLACK CIRCLED WHITE ARROW;00UPWARDS BLACK CIRCLED WHITE ARROW",
   "00RIGHTWARDS BLACK CIRCLED WHITE ARROW;00DOWNWARDS BLACK CIRCLED WHITE ARROW",
   "00ANTICLOCKWISE TRIANGLE-HEADED RIGHT U-SHAPED ARROW;30BOTTOM U-SHAPED ARROW",
   "30LEFT U-SHAPED ARROW;30TOP U-SHAPED ARROW;00RETURN LEFT;07RIGHT;00NEWLINE LEFT;08RIGHT",
   "00FOUR CORNER ARROWS CIRCLING ANTICLOCKWISE;00RIGHTWARDS BLACK ARROW;+2b97",
   "00SYMBOL FOR TYPE A ELECTRONICS;00THREE-D TOP-LIGHTED LEFTWARDS EQUILATERAL ARROWHEAD",
   "08RIGHT-LIGHTED UPWARDS EQUILATERAL ARROWHEAD;08TOP-LIGHTED RIGHTWARDS EQUILATERAL ARROWHEAD",
   "08LEFT-LIGHTED DOWNWARDS EQUILATERAL ARROWHEAD;00BLACK LEFTWARDS EQUILATERAL ARROWHEAD",
   "06UPWARDS EQUILATERAL ARROWHEAD;06RIGHTWARDS EQUILATERAL ARROWHEAD",
   "06DOWNWARDS EQUILATERAL ARROWHEAD;00DOWNWARDS TRIANGLE-HEADED ARROW WITH LONG TIP LEFTWARDS",
   "46RIGHTWARDS;00UPWARDS TRIANGLE-HEADED ARROW WITH LONG TIP LEFTWARDS;44RIGHTWARDS",
   "00LEFTWARDS TRIANGLE-HEADED ARROW WITH LONG TIP UPWARDS",
   "00RIGHTWARDS TRIANGLE-HEADED ARROW WITH LONG TIP UPWARDS",
   "00LEFTWARDS TRIANGLE-HEADED ARROW WITH LONG TIP DOWNWARDS",
   "00RIGHTWARDS TRIANGLE-HEADED ARROW WITH LONG TIP DOWNWARDS",
   "00BLACK CURVED DOWNWARDS AND LEFTWARDS ARROW;27RIGHTWARDS ARROW;13UPWARDS AND LEFTWARDS ARROW",
   "25RIGHTWARDS ARROW;13LEFTWARDS AND UPWARDS ARROW;13RIGHTWARDS AND UPWARDS ARROW",
   "13LEFTWARDS AND DOWNWARDS ARROW;13RIGHTWARDS AND DOWNWARDS ARROW;00RIBBON ARROW DOWN LEFT",
   "18RIGHT;13UP LEFT;16RIGHT;13LEFT UP;13RIGHT UP;13LEFT DOWN;13RIGHT DOWN",
   "00UPWARDS WHITE ARROW FROM BAR WITH HORIZONTAL BAR;02 ARROWHEAD IN A RECTANGLE BOX",
   "00OVERLAPPING WHITE SQUARES;18AND BLACK SQUARES;12BLACK SQUARES;00BALLOT BOX WITH LIGHT X",
   "00CIRCLED X;08BOLD X;00BLACK SQUARE CENTRED;06DIAMOND CENTRED;00TURNED BLACK PENTAGON",
   "00HORIZONTAL BLACK OCTAGON;00BLACK OCTAGON;06MEDIUM UP-POINTING TRIANGLE CENTRED",
   "13DOWN-POINTING TRIANGLE CENTRED;13LEFT-POINTING TRIANGLE CENTRED",
   "13RIGHT-POINTING TRIANGLE CENTRED;00NEPTUNE FORM TWO;00TOP HALF BLACK CIRCLE",
   "00BOTTOM HALF BLACK CIRCLE;00LIGHT FOUR POINTED BLACK CUSP",
   "00ROTATED LIGHT FOUR POINTED BLACK CUSP;00WHITE FOUR POINTED CUSP",
   "00ROTATED WHITE FOUR POINTED CUSP;00SQUARE POSITION INDICATOR;00UNCERTAINTY SIGN;00GROUP MARK",
   "00PLUTO FORM TWO;12HREE;11FOUR;12IVE;00TRANSPLUTO;00PROSERPINA;00ASTRAEA;00HYGIEA;00PHOLUS",
   "00NESSUS;00WHITE MOON SELENA;00BLACK DIAMOND ON CROSS;00TRUE LIGHT MOON ARTA;00CUPIDO;00HADES",
   "00ZEUS;00KRONOS;00APOLLON;01DMETOS;00VULCANUS;00POSEIDON;00LEFT HALF BLACK STAR",
   "00RIGHT HALF BLACK STAR;00STAR WITH LEFT HALF BLACK;10RIGHT HALF BLACK",
   "00LEFTWARDS TWO-HEADED ARROW WITH TRIANGLE ARROWHEADS",
   "00UPWARDS TWO-HEADED ARROW WITH TRIANGLE ARROWHEADS",
   "00RIGHTWARDS TWO-HEADED ARROW WITH TRIANGLE ARROWHEADS",
   "00DOWNWARDS TWO-HEADED ARROW WITH TRIANGLE ARROWHEADS;00ERIS FORM ONE;10TWO;00SEDNA",
   "00RUSSIAN ASTROLOGICAL SYMBOL VIGINTILE;28NOVILE;28QUINTILE;28BINOVILE;28SENTAGON;28TREDECILE",
   "00EQUALS SIGN WITH INFINITY BELOW;00UNITED SYMBOL;00SEPARATED SYMBOL;00DOUBLED SYMBOL",
   "00PASSED SYMBOL;00REVERSED RIGHT ANGLE;00HELLSCHREIBER PAUSE SYMBOL",
   "00GLAGOLITIC CAPITAL LETTER AZU;26BUKY;26VEDE;26GLAGOLI;26DOBRO;26YESTU;26ZHIVETE;26DZELO",
   "26ZEMLJA;26IZHE;27NITIAL IZHE;27;26DJERVI;26KAKO;26LJUDIJE;26MYSLITE;26NASHI;26ONU;26POKOJI",
   "26RITSI;26SLOVO;26TVRIDO;26UKU;26FRITU;26HERU;26OTU;26PE;26SHTA;26TSI;26CHRIVI;26SHA;26YERU",
   "29I;27ATI;26SPIDERY HA;26YU;26SMALL YUS;35 WITH TAIL;26YO;26IOTATED SMALL YUS;26BIG YUS",
   "26IOTATED BIG YUS;26FITA;26IZHITSA;26SHTAPIC;26TROKUTASTI A;26LATINATE MYSLITE",
   "26CAUDATE CHRIVI;11SMALL LETTER AZU;24BUKY;24VEDE;24GLAGOLI;24DOBRO;24YESTU;24ZHIVETE;24DZELO",
   "24ZEMLJA;24IZHE;25NITIAL IZHE;25;24DJERVI;24KAKO;24LJUDIJE;24MYSLITE;24NASHI;24ONU;24POKOJI",
   "24RITSI;24SLOVO;24TVRIDO;24UKU;24FRITU;24HERU;24OTU;24PE;24SHTA;24TSI;24CHRIVI;24SHA;24YERU",
   "27I;25ATI;24SPIDERY HA;24YU;24SMALL YUS;33 WITH TAIL;24YO;24IOTATED SMALL YUS;24BIG YUS",
   "24IOTATED BIG YUS;24FITA;24IZHITSA;24SHTAPIC;24TROKUTASTI A;24LATINATE MYSLITE",
   "24CAUDATE CHRIVI;00LATIN CAPITAL LETTER L WITH DOUBLE BAR;06SMALL LETTER L WITH DOUBLE BAR",
   "06CAPITAL LETTER L WITH MIDDLE TILDE;21P WITH STROKE;21R WITH TAIL",
   "06SMALL LETTER A WITH STROKE;19T WITH DIAGONAL STROKE;06CAPITAL LETTER H WITH DESCENDER",
   "06SMALL LETTER H WITH DESCENDER;06CAPITAL LETTER K WITH DESCENDER",
   "06SMALL LETTER K WITH DESCENDER;06CAPITAL LETTER Z WITH DESCENDER",
   "06SMALL LETTER Z WITH DESCENDER;06CAPITAL LETTER ALPHA;21M WITH HOOK;21TURNED A;29LPHA",
   "06SMALL LETTER V WITH RIGHT HOOK;06CAPITAL LETTER W WITH HOOK;06SMALL LETTER W WITH HOOK",
   "19V WITH CURL;06CAPITAL LETTER HALF H;06SMALL LETTER HALF H;19TAILLESS PHI;19E WITH NOTCH",
   "19TURNED R WITH TAIL;19O WITH LOW RING INSIDE;06LETTER SMALL CAPITAL TURNED E",
   "06SUBSCRIPT SMALL LETTER J;00MODIFIER LETTER CAPITAL V",
   "00LATIN CAPITAL LETTER S WITH SWASH TAIL;21Z WITH SWASH TAIL;00COPTIC CAPITAL LETTER ALFA",
   "07SMALL LETTER ALFA;07CAPITAL LETTER VIDA;07SMALL LETTER VIDA;07CAPITAL LETTER GAMMA",
   "07SMALL LETTER GAMMA;07CAPITAL LETTER DALDA;07SMALL LETTER DALDA;07CAPITAL LETTER EIE",
   "07SMALL LETTER EIE;07CAPITAL LETTER SOU;07SMALL LETTER SOU;07CAPITAL LETTER ZATA",
   "07SMALL LETTER ZATA;07CAPITAL LETTER HATE;07SMALL LETTER HATE;07CAPITAL LETTER THETHE",
   "07SMALL LETTER THETHE;07CAPITAL LETTER IAUDA;07SMALL LETTER IAUDA;07CAPITAL LETTER KAPA",
   "07SMALL LETTER KAPA;07CAPITAL LETTER LAULA;07SMALL LETTER LAULA;07CAPITAL LETTER MI",
   "07SMALL LETTER MI;07CAPITAL LETTER NI;07SMALL LETTER NI;07CAPITAL LETTER KSI",
   "07SMALL LETTER KSI;07CAPITAL LETTER O;07SMALL LETTER O;07CAPITAL LETTER PI;07SMALL LETTER PI",
   "07CAPITAL LETTER RO;07SMALL LETTER RO;07CAPITAL LETTER SIMA;07SMALL LETTER SIMA",
   "07CAPITAL LETTER TAU;07SMALL LETTER TAU;07CAPITAL LETTER UA;07SMALL LETTER UA",
   "07CAPITAL LETTER FI;07SMALL LETTER FI;07CAPITAL LETTER KHI;07SMALL LETTER KHI",
   "07CAPITAL LETTER PSI;07SMALL LETTER PSI;07CAPITAL LETTER OOU;07SMALL LETTER OOU",
   "07CAPITAL LETTER DIALECT-P ALEF;07SMALL LETTER DIALECT-P ALEF;07CAPITAL LETTER OLD COPTIC AIN",
   "07SMALL LETTER OLD COPTIC AIN;07CAPITAL LETTER CRYPTOGRAMMIC EIE",
   "07SMALL LETTER CRYPTOGRAMMIC EIE;07CAPITAL LETTER DIALECT-P KAPA;07SMALL LETTER DIALECT-P KAPA",
   "07CAPITAL LETTER DIALECT-P NI;07SMALL LETTER DIALECT-P NI;07CAPITAL LETTER CRYPTOGRAMMIC NI",
   "07SMALL LETTER CRYPTOGRAMMIC NI;07CAPITAL LETTER OLD COPTIC OOU;07SMALL LETTER OLD COPTIC OOU",
   "07CAPITAL LETTER SAMPI;07SMALL LETTER SAMPI;07CAPITAL LETTER CROSSED SHEI",
   "07SMALL LETTER CROSSED SHEI;07CAPITAL LETTER OLD COPTIC SHEI;07SMALL LETTER OLD COPTIC SHEI",
   "07CAPITAL LETTER OLD COPTIC ESH;07SMALL LETTER OLD COPTIC ESH;07CAPITAL LETTER AKHMIMIC KHEI",
   "07SMALL LETTER AKHMIMIC KHEI;07CAPITAL LETTER DIALECT-P HORI;07SMALL LETTER DIALECT-P HORI",
   "07CAPITAL LETTER OLD COPTIC HORI;07SMALL LETTER OLD COPTIC HORI;07CAPITAL LETTER OLD COPTIC HA",
   "07SMALL LETTER OLD COPTIC HA;07CAPITAL LETTER L-SHAPED HA;07SMALL LETTER L-SHAPED HA",
   "07CAPITAL LETTER OLD COPTIC HEI;07SMALL LETTER OLD COPTIC HEI;07CAPITAL LETTER OLD COPTIC HAT",
   "07SMALL LETTER OLD COPTIC HAT;07CAPITAL LETTER OLD COPTIC GANGIA",
   "07SMALL LETTER OLD COPTIC GANGIA;07CAPITAL LETTER OLD COPTIC DJA;07SMALL LETTER OLD COPTIC DJA",
   "07CAPITAL LETTER OLD COPTIC SHIMA;07SMALL LETTER OLD COPTIC SHIMA",
   "07CAPITAL LETTER OLD NUBIAN SHIMA;07SMALL LETTER OLD NUBIAN SHIMA",
   "07CAPITAL LETTER OLD NUBIAN NGI;07SMALL LETTER OLD NUBIAN NGI;07CAPITAL LETTER OLD NUBIAN NYI",
   "07SMALL LETTER OLD NUBIAN NYI;07CAPITAL LETTER OLD NUBIAN WAU;07SMALL LETTER OLD NUBIAN WAU",
   "08YMBOL KAI;14MI RO;14PI RO;14STAUROS;14TAU RO;14KHI RO;14SHIMA SIMA",
   "07CAPITAL LETTER CRYPTOGRAMMIC SHEI;07SMALL LETTER CRYPTOGRAMMIC SHEI",
   "07CAPITAL LETTER CRYPTOGRAMMIC GANGIA;07SMALL LETTER CRYPTOGRAMMIC GANGIA;07COMBINING NI ABOVE",
   "17SPIRITUS ASPER;26LENIS;08APITAL LETTER BOHAIRIC KHEI;07SMALL LETTER BOHAIRIC KHEI;+2cf9",
   "07OLD NUBIAN FULL STOP;18DIRECT QUESTION MARK;18INDIRECT QUESTION MARK;18VERSE DIVIDER",
   "07FRACTION ONE HALF;08ULL STOP;07MORPHOLOGICAL DIVIDER;00GEORGIAN SMALL LETTER AN;22BAN;22GAN",
   "22DON;22EN;22VIN;22ZEN;22TAN;22IN;22KAN;22LAS;22MAN;22NAR;22ON;22PAR;22ZHAR;22RAE;22SAN;22TAR",
   "22UN;22PHAR;22KHAR;22GHAN;22QAR;22SHIN;22CHIN;23AN;22JIL;22CIL;23HAR;22XAN;22JHAN;22HAE;23E",
   "23IE;22WE;22HAR;23OE;+2d27;22YN;+2d2d;22AEN;+2d30;00TIFINAGH LETTER YA;18B;19H;18G;19HH",
   "16BERBER ACADEMY YAJ;16YAJ;18D;19H;19D;20H;17EY;17AF;18K;16TUAREG YAK;16YAKHH;18H",
   "16BERBER ACADEMY YAH;16TUAREG YAH;16YAHH;18A;18KH;16TUAREG YAKH;16YAQ;16TUAREG YAQ;16YI;17AZH",
   "16AHAGGAR YAZH;16TUAREG YAZH;16YAL;18M;18N;16TUAREG YAGN;25NG;16YAP;17U;17AR;19R;18GH",
   "16TUAREG YAGH;16AYER YAGH;16YAS;19S;19H;18T;19H;18CH;18TT;18V;18W;18Y;18Z;16TAWELLEMET YAZ",
   "16YAZZ;17E;17O;+2d6f;09MODIFIER LETTER LABIALIZATION MARK;09SEPARATOR MARK;+2d7f",
   "09CONSONANT JOINER;00ETHIOPIC SYLLABLE LOA;18MOA;18ROA;18SOA;19HOA;18BOA;18TOA;18COA;18NOA",
   "19YOA;18GLOTTAL OA;18ZOA;18DOA;19DOA;18JOA;18THOA;18CHOA;18PHOA;19OA;18GGWA;21I;21EE;22;+2da0",
   "18SSA;20U;20I;20AA;20EE;21;20O;+2da8;18CCA;20U;20I;20AA;20EE;21;20O;+2db0;18ZZA;20U;20I;20AA",
   "20EE;21;20O;+2db8;18CCHA;21U;21I;21AA;21EE;22;21O;+2dc0;18QYA;20U;20I;20AA;20EE;21;20O;+2dc8",
   "18KYA;20U;20I;20AA;20EE;21;20O;+2dd0;18XYA;20U;20I;20AA;20EE;21;20O;+2dd8;18GYA;20U;20I;20AA",
   "20EE;21;20O;+2de0;00COMBINING CYRILLIC LETTER BE;26VE;26GHE;26DE;26ZHE;27E;26KA;26EL;27M;27N",
   "26O;26PE;26ER;27S;26TE;26HA;26TSE;26CHE;26SHA;28CHA;26FITA;26ES-TE;26A;26IE;26DJERV",
   "26MONOGRAPH UK;26YAT;27U;26IOTIFIED A;26LITTLE YUS;26BIG YUS;26IOTIFIED BIG YUS",
   "00RIGHT ANGLE SUBSTITUTION MARKER;12DOTTED SUBSTITUTION MARKER;00LEFT SUBSTITUTION BRACKET",
   "00RIGHT SUBSTITUTION BRACKET;00LEFT DOTTED SUBSTITUTION BRACKET",
   "00RIGHT DOTTED SUBSTITUTION BRACKET;01AISED INTERPOLATION MARKER;07DOTTED INTERPOLATION MARKER",
   "00DOTTED TRANSPOSITION MARKER;00LEFT TRANSPOSITION BRACKET;00RIGHT TRANSPOSITION BRACKET",
   "01AISED SQUARE;00LEFT RAISED OMISSION BRACKET;00RIGHT RAISED OMISSION BRACKET",
   "00EDITORIAL CORONIS;00PARAGRAPHOS;00FORKED PARAGRAPHOS;00REVERSED FORKED PARAGRAPHOS",
   "00HYPODIASTOLE;00DOTTED OBELOS;02WNWARDS ANCORA;00UPWARDS ANCORA;00DOTTED RIGHT-POINTING ANGLE",
   "02UBLE OBLIQUE HYPHEN;00INVERTED INTERROBANG;00PALM BRANCH;00HYPHEN WITH DIAERESIS",
   "00TILDE WITH RING ABOVE;00LEFT LOW PARAPHRASE BRACKET;00RIGHT LOW PARAPHRASE BRACKET",
   "00TILDE WITH DOT ABOVE;15BELOW;00LEFT VERTICAL BAR WITH QUILL;00RIGHT VERTICAL BAR WITH QUILL",
   "00TOP LEFT HALF BRACKET;04RIGHT HALF BRACKET;00BOTTOM LEFT HALF BRACKET;07RIGHT HALF BRACKET",
   "00LEFT SIDEWAYS U BRACKET;00RIGHT SIDEWAYS U BRACKET;00LEFT DOUBLE PARENTHESIS",
   "00RIGHT DOUBLE PARENTHESIS;00TWO DOTS OVER ONE DOT PUNCTUATION",
   "00ONE DOT OVER TWO DOTS PUNCTUATION;00SQUARED FOUR DOT PUNCTUATION;00FIVE DOT MARK",
   "00REVERSED QUESTION MARK;00VERTICAL TILDE;00RING POINT;00WORD SEPARATOR MIDDLE DOT",
   "00TURNED COMMA;00RAISED DOT;07COMMA;00TURNED SEMICOLON;00DAGGER WITH LEFT GUARD;12RIGHT GUARD",
   "00TURNED DAGGER;01OP HALF SECTION SIGN;01WO-EM DASH;01HREE-EM DASH;00STENOGRAPHIC FULL STOP",
   "00VERTICAL SIX DOTS;00WIGGLY VERTICAL LINE;00CAPITULUM;00DOUBLE HYPHEN;00REVERSED COMMA",
   "00DOUBLE LOW-REVERSED-9 QUOTATION MARK;01ASH WITH LEFT UPTURN;01OUBLE SUSPENSION MARK",
   "00INVERTED LOW KAVYKA;19 WITH KAVYKA ABOVE;00LOW KAVYKA;10 WITH DOT;00DOUBLE STACKED COMMA",
   "02TTED SOLIDUS;00TRIPLE DAGGER;00MEDIEVAL COMMA;00PARAGRAPHUS MARK;01UNCTUS ELEVATUS MARK",
   "00CORNISH VERSE DIVIDER;01ROSS PATTY WITH RIGHT CROSSBAR;17LEFT CROSSBAR",
   "00TIRONIAN SIGN CAPITAL ET;00MEDIEVAL EXCLAMATION MARK;09QUESTION MARK",
   "00LEFT SQUARE BRACKET WITH STROKE;00RIGHT SQUARE BRACKET WITH STROKE",
   "00LEFT SQUARE BRACKET WITH DOUBLE STROKE;00RIGHT SQUARE BRACKET WITH DOUBLE STROKE",
   "00TOP HALF LEFT PARENTHESIS;09RIGHT PARENTHESIS;00BOTTOM HALF LEFT PARENTHESIS",
   "12RIGHT PARENTHESIS;00OBLIQUE HYPHEN;+2e80;00CJK RADICAL REPEAT;12CLIFF;12SECOND ONE;19TWO",
   "20HREE;12PERSON;12BOX;12TABLE;12KNIFE ONE;18TWO;12DIVINATION;12SEAL;13MALL ONE;18TWO",
   "12LAME ONE;17TWO;18HREE;17FOUR;12SNAKE;12THREAD;12SNOUT ONE;18TWO;12HEART ONE;18TWO;13AND",
   "12RAP;+2e9b;12CHOKE;12SUN;12MOON;12DEATH;12MOTHER;12CIVILIAN;12WATER ONE;18TWO;12FIRE",
   "12PAW ONE;16TWO;12SIMPLIFIED HALF TREE TRUNK;12COW;12DOG;12JADE;12BOLT OF CLOTH;12EYE",
   "12SPIRIT ONE;19TWO;12BAMBOO;12SILK;12C-SIMPLIFIED SILK;12NET ONE;16TWO;17HREE;16FOUR;12MESH",
   "12SHEEP;12RAM;12EWE;12OLD;12BRUSH ONE;18TWO;12MEAT;13ORTAR;12GRASS ONE;18TWO;19HREE;12TIGER",
   "12CLOTHES;12WEST ONE;17TWO;12C-SIMPLIFIED SEE;12SIMPLIFIED HORN;12HORN;12C-SIMPLIFIED SPEECH",
   "26HELL;12FOOT;12C-SIMPLIFIED CART;12SIMPLIFIED WALK;12WALK ONE;17TWO;12CITY;13-SIMPLIFIED GOLD",
   "12LONG ONE;17TWO;12C-SIMPLIFIED LONG;25GATE;12MOUND ONE;18TWO;12RAIN;12BLUE",
   "12C-SIMPLIFIED TANNED LEATHER;25LEAF;25WIND;25FLY;12EAT ONE;16TWO;17HREE;12C-SIMPLIFIED EAT",
   "12HEAD;12C-SIMPLIFIED HORSE;12BONE;12GHOST;12C-SIMPLIFIED FISH;25BIRD;25SALT",
   "12SIMPLIFIED WHEAT;23YELLOW;12C-SIMPLIFIED FROG;12J-SIMPLIFIED EVEN;12C-SIMPLIFIED EVEN",
   "12J-SIMPLIFIED TOOTH;12C-SIMPLIFIED TOOTH;12J-SIMPLIFIED DRAGON;12C-SIMPLIFIED DRAGON;12TURTLE",
   "12J-SIMPLIFIED TURTLE;12C-SIMPLIFIED TURTLE;+2f00;00KANGXI RADICAL ONE;15LINE;15DOT;15SLASH",
   "16ECOND;15HOOK;15TWO;15LID;15MAN;15LEGS;15ENTER;16IGHT;15DOWN BOX;15COVER;15ICE;15TABLE",
   "15OPEN BOX;15KNIFE;15POWER;15WRAP;15SPOON;15RIGHT OPEN BOX;15HIDING ENCLOSURE;15TEN",
   "15DIVINATION;15SEAL;15CLIFF;15PRIVATE;15AGAIN;15MOUTH;15ENCLOSURE;16ARTH;15SCHOLAR;15GO",
   "17 SLOWLY;15EVENING;15BIG;15WOMAN;15CHILD;15ROOF;15INCH;15SMALL;15LAME;15CORPSE;15SPROUT",
   "15MOUNTAIN;15RIVER;15WORK;15ONESELF;15TURBAN;15DRY;15SHORT THREAD;15DOTTED CLIFF;15LONG STRIDE",
   "15TWO HANDS;15SHOOT;15BOW;15SNOUT;15BRISTLE;15STEP;15HEART;16ALBERD;15DOOR;15HAND;15BRANCH",
   "15RAP;15SCRIPT;15DIPPER;15AXE;15SQUARE;15NOT;15SUN;16AY;15MOON;15TREE;15LACK;15STOP;15DEATH",
   "15WEAPON;15DO NOT;15COMPARE;15FUR;15CLAN;15STEAM;15WATER;15FIRE;15CLAW;15FATHER;15DOUBLE X",
   "15HALF TREE TRUNK;15SLICE;15FANG;15COW;15DOG;15PROFOUND;15JADE;15MELON;15TILE;15SWEET;15LIFE",
   "15USE;15FIELD;15BOLT OF CLOTH;15SICKNESS;15DOTTED TENT;15WHITE;15SKIN;15DISH;15EYE;15SPEAR",
   "15ARROW;15STONE;16PIRIT;15TRACK;15GRAIN;15CAVE;15STAND;15BAMBOO;15RICE;15SILK;15JAR;15NET",
   "15SHEEP;15FEATHER;15OLD;15AND;15PLOW;15EAR;15BRUSH;15MEAT;16INISTER;15SELF;15ARRIVE;15MORTAR",
   "15TONGUE;15OPPOSE;15BOAT;15STOPPING;15COLOR;15GRASS;15TIGER;15INSECT;15BLOOD;15WALK ENCLOSURE",
   "15CLOTHES;15WEST;15SEE;15HORN;15SPEECH;15VALLEY;15BEAN;15PIG;15BADGER;15SHELL;15RED;16UN",
   "15FOOT;15BODY;15CART;15BITTER;15MORNING;15WALK;15CITY;15WINE;15DISTINGUISH;15VILLAGE;15GOLD",
   "15LONG;15GATE;15MOUND;15SLAVE;16HORT TAILED BIRD;15RAIN;15BLUE;15WRONG;15FACE;15LEATHER",
   "15TANNED LEATHER;15LEEK;15SOUND;15LEAF;15WIND;15FLY;15EAT;15HEAD;15FRAGRANT;15HORSE;15BONE",
   "15TALL;15HAIR;15FIGHT;15SACRIFICIAL WINE;15CAULDRON;15GHOST;15FISH;15BIRD;15SALT;15DEER",
   "15WHEAT;15HEMP;15YELLOW;15MILLET;15BLACK;15EMBROIDERY;15FROG;15TRIPOD;15DRUM;15RAT;15NOSE",
   "15EVEN;15TOOTH;15DRAGON;15TURTLE;15FLUTE;+2ff0",
   "00IDEOGRAPHIC DESCRIPTION CHARACTER LEFT TO RIGHT;34ABOVE TO BELOW;34LEFT TO MIDDLE AND RIGHT",
   "34ABOVE TO MIDDLE AND BELOW;34FULL SURROUND;34SURROUND FROM ABOVE;48BELOW;48LEFT;48UPPER LEFT",
   "54RIGHT;48LOWER LEFT;34OVERLAID"]

/-- The names of the code points from 3000 to abff. -/
def middleNames : List String :=
  ["+3000;12SPACE;12COMMA;12FULL STOP;00DITTO MARK;00JAPANESE INDUSTRIAL STANDARD SYMBOL",
   "00IDEOGRAPHIC ITERATION MARK;12CLOSING MARK;12NUMBER ZERO;00LEFT ANGLE BRACKET",
   "00RIGHT ANGLE BRACKET;00LEFT DOUBLE ANGLE BRACKET;00RIGHT DOUBLE ANGLE BRACKET",
   "00LEFT CORNER BRACKET;00RIGHT CORNER BRACKET;00LEFT WHITE CORNER BRACKET",
   "00RIGHT WHITE CORNER BRACKET;00LEFT BLACK LENTICULAR BRACKET;00RIGHT BLACK LENTICULAR BRACKET",
   "00POSTAL MARK;00GETA MARK;00LEFT TORTOISE SHELL BRACKET;00RIGHT TORTOISE SHELL BRACKET",
   "00LEFT WHITE LENTICULAR BRACKET;00RIGHT WHITE LENTICULAR BRACKET",
   "00LEFT WHITE TORTOISE SHELL BRACKET;00RIGHT WHITE TORTOISE SHELL BRACKET",
   "00LEFT WHITE SQUARE BRACKET;00RIGHT WHITE SQUARE BRACKET;00WAVE DASH",
   "00REVERSED DOUBLE PRIME QUOTATION MARK;00DOUBLE PRIME QUOTATION MARK",
   "00LOW DOUBLE PRIME QUOTATION MARK;00POSTAL MARK FACE;00HANGZHOU NUMERAL ONE;17TWO;18HREE",
   "17FOUR;18IVE;17SIX;18EVEN;17EIGHT;17NINE;00IDEOGRAPHIC LEVEL TONE MARK;12RISING TONE MARK",
   "12DEPARTING TONE MARK;12ENTERING TONE MARK;00HANGUL SINGLE DOT TONE MARK",
   "07DOUBLE DOT TONE MARK;00WAVY DASH;00VERTICAL KANA REPEAT MARK;21WITH VOICED SOUND MARK",
   "21MARK UPPER HALF;21WITH VOICED SOUND MARK UPPER HALF;21MARK LOWER HALF;00CIRCLED POSTAL MARK",
   "00IDEOGRAPHIC TELEGRAPH LINE FEED SEPARATOR SYMBOL;00HANGZHOU NUMERAL TEN;18WENTY;18HIRTY",
   "00VERTICAL IDEOGRAPHIC ITERATION MARK;00MASU MARK;00PART ALTERNATION MARK",
   "00IDEOGRAPHIC VARIATION INDICATOR;12HALF FILL SPACE;+3041;00HIRAGANA LETTER SMALL A;16A",
   "16SMALL I;16I;16SMALL U;16U;16SMALL E;16E;16SMALL O;16O;16KA;16GA;16KI;16GI;16KU;16GU;16KE",
   "16GE;16KO;16GO;16SA;16ZA;16SI;16ZI;16SU;16ZU;16SE;16ZE;16SO;16ZO;16TA;16DA;16TI;16DI",
   "16SMALL TU;16TU;16DU;16TE;16DE;16TO;16DO;16NA;17I;17U;17E;17O;16HA;16BA;16PA;16HI;16BI;16PI",
   "16HU;16BU;16PU;16HE;16BE;16PE;16HO;16BO;16PO;16MA;17I;17U;17E;17O;16SMALL YA;16YA;16SMALL YU",
   "16YU;16SMALL YO;16YO;16RA;17I;17U;17E;17O;16SMALL WA;16WA;17I;17E;17O;16N;16VU;16SMALL KA;23E",
   "+3099;00COMBINING KATAKANA-HIRAGANA VOICED SOUND MARK;28SEMI-VOICED SOUND MARK",
   "00KATAKANA-HIRAGANA VOICED SOUND MARK;18SEMI-VOICED SOUND MARK;00HIRAGANA ITERATION MARK",
   "09VOICED ITERATION MARK;09DIGRAPH YORI;00KATAKANA-HIRAGANA DOUBLE HYPHEN;08 LETTER SMALL A;16A",
   "16SMALL I;16I;16SMALL U;16U;16SMALL E;16E;16SMALL O;16O;16KA;16GA;16KI;16GI;16KU;16GU;16KE",
   "16GE;16KO;16GO;16SA;16ZA;16SI;16ZI;16SU;16ZU;16SE;16ZE;16SO;16ZO;16TA;16DA;16TI;16DI",
   "16SMALL TU;16TU;16DU;16TE;16DE;16TO;16DO;16NA;17I;17U;17E;17O;16HA;16BA;16PA;16HI;16BI;16PI",
   "16HU;16BU;16PU;16HE;16BE;16PE;16HO;16BO;16PO;16MA;17I;17U;17E;17O;16SMALL YA;16YA;16SMALL YU",
   "16YU;16SMALL YO;16YO;16RA;17I;17U;17E;17O;16SMALL WA;16WA;17I;17E;17O;16N;16VU;16SMALL KA;23E",
   "16VA;17I;17E;17O;09MIDDLE DOT;08-HIRAGANA PROLONGED SOUND MARK;08 ITERATION MARK",
   "09VOICED ITERATION MARK;09DIGRAPH KOTO;+3105;00BOPOMOFO LETTER B;16P;16M;16F;16D;16T;16N;16L",
   "16G;16K;16H;16J;16Q;16X;16ZH;16CH;16SH;16R;16Z;16C;16S;16A;16O;16E;17H;16AI;16EI;16AU;16OU",
   "16AN;16EN;16ANG;16ENG;17R;16I;16U;16IU;16V;16NG;16GN;16IH;16O WITH DOT ABOVE;16NN;+3131",
   "00HANGUL LETTER KIYEOK;14SSANGKIYEOK;14KIYEOK-SIOS;14NIEUN;19-CIEUC;20HIEUH;14TIKEUT",
   "14SSANGTIKEUT;14RIEUL;19-KIYEOK;20MIEUM;20PIEUP;20SIOS;20THIEUTH;20PHIEUPH;20HIEUH;14MIEUM",
   "14PIEUP;14SSANGPIEUP;14PIEUP-SIOS;14SIOS;15SANGSIOS;14IEUNG;14CIEUC;14SSANGCIEUC;14CHIEUCH",
   "14KHIEUKH;14THIEUTH;14PHIEUPH;14HIEUH;14A;15E;14YA;16E;14EO;15;14YEO;16;14O;14WA;16E;14OE;14YO",
   "14U;14WEO;16;15I;14YU;14EU;14YI;14I;07FILLER;07LETTER SSANGNIEUN;14NIEUN-TIKEUT;20SIOS",
   "20PANSIOS;14RIEUL-KIYEOK-SIOS;20TIKEUT;20PIEUP-SIOS;21ANSIOS;20YEORINHIEUH;14MIEUM-PIEUP",
   "20SIOS;20PANSIOS;14KAPYEOUNMIEUM;14PIEUP-KIYEOK;20TIKEUT;20SIOS-KIYEOK;25TIKEUT;20CIEUC",
   "20THIEUTH;14KAPYEOUNPIEUP;22SSANGPIEUP;14SIOS-KIYEOK;19NIEUN;19TIKEUT;19PIEUP;19CIEUC",
   "14PANSIOS;14SSANGIEUNG;14YESIEUNG;22-SIOS;23PANSIOS;14KAPYEOUNPHIEUPH;14SSANGHIEUH",
   "14YEORINHIEUH;15O-YA;19E;17I;15U-YEO;19;17I;14ARAEA;19E;+3190",
   "00IDEOGRAPHIC ANNOTATION LINKING MARK;23REVERSE MARK;23ONE MARK;23TWO MARK;24HREE MARK",
   "23FOUR MARK;23TOP MARK;23MIDDLE MARK;23BOTTOM MARK;23FIRST MARK;23SECOND MARK;23THIRD MARK",
   "23FOURTH MARK;23HEAVEN MARK;23EARTH MARK;23MAN MARK;00BOPOMOFO LETTER BU;16ZI;16JI;16GU;16EE",
   "17NN;16OO;17NN;16IR;16ANN;16INN;16UNN;16IM;16NGG;16AINN;17UNN;17M;16OM;17NG;16INNN",
   "09FINAL LETTER P;22T;22K;22H;09LETTER GH;16LH;16ZY;09FINAL LETTER G;09LETTER GW;16KW;16OE;16AH",
   "00CJK STROKE T;11WG;11XG;11BXG;11SW;11HZZ;13G;12P;12ZWG;11SZWG;11HZT;13ZP;12PWG;12ZW;13ZZ;11N",
   "11H;11S;11P;11SP;11D;11HZ;12G;11SZ;12WZ;12T;12G;11PD;12Z;11TN;11SZZ;12WG;11HXWG;12ZZZG;11PG",
   "11Q;+31f0;00KATAKANA LETTER SMALL KU;22SI;23U;22TO;22NU;22HA;23I;23U;23E;23O;22MU;22RA;23I;23U",
   "23E;23O;00PARENTHESIZED HANGUL KIYEOK;21NIEUN;21TIKEUT;21RIEUL;21MIEUM;21PIEUP;21SIOS;21IEUNG",
   "21CIEUC;22HIEUCH;21KHIEUKH;21THIEUTH;21PHIEUPH;21HIEUH;21KIYEOK A;21NIEUN A;21TIKEUT A",
   "21RIEUL A;21MIEUM A;21PIEUP A;21SIOS A;21IEUNG A;21CIEUC A;22HIEUCH A;21KHIEUKH A;21THIEUTH A",
   "21PHIEUPH A;21HIEUH A;21CIEUC U;14KOREAN CHARACTER OJEON;32 HU;+3220;14IDEOGRAPH ONE;24TWO",
   "25HREE;24FOUR;25IVE;24SIX;25EVEN;24EIGHT;24NINE;24TEN;24MOON;24FIRE;24WATER;25OOD;24METAL",
   "24EARTH;24SUN;25TOCK;24HAVE;24SOCIETY;24NAME;24SPECIAL;24FINANCIAL;24CONGRATULATION;24LABOR",
   "24REPRESENT;24CALL;24STUDY;25UPERVISE;24ENTERPRISE;24RESOURCE;24ALLIANCE;24FESTIVAL;24REST",
   "24SELF;24REACH;00CIRCLED IDEOGRAPH QUESTION;18KINDERGARTEN;18SCHOOL;18KOTO",
   "08NUMBER TEN ON BLACK SQUARE;16WENTY ON BLACK SQUARE;16HIRTY ON BLACK SQUARE",
   "15FORTY ON BLACK SQUARE;16IFTY ON BLACK SQUARE;15SIXTY ON BLACK SQUARE",
   "16EVENTY ON BLACK SQUARE;15EIGHTY ON BLACK SQUARE;00PARTNERSHIP SIGN",
   "00CIRCLED NUMBER TWENTY ONE;22TWO;23HREE;22FOUR;23IVE;22SIX;23EVEN;22EIGHT;22NINE;16HIRTY",
   "21 ONE;22TWO;23HREE;22FOUR;23IVE;08HANGUL KIYEOK;15NIEUN;15TIKEUT;15RIEUL;15MIEUM;15PIEUP",
   "15SIOS;15IEUNG;15CIEUC;16HIEUCH;15KHIEUKH;15THIEUTH;15PHIEUPH;15HIEUH;15KIYEOK A;15NIEUN A",
   "15TIKEUT A;15RIEUL A;15MIEUM A;15PIEUP A;15SIOS A;15IEUNG A;15CIEUC A;16HIEUCH A;15KHIEUKH A",
   "15THIEUTH A;15PHIEUPH A;15HIEUH A;08KOREAN CHARACTER CHAMKO;25JUEUI;08HANGUL IEUNG U",
   "00KOREAN STANDARD SYMBOL;00CIRCLED IDEOGRAPH ONE;18TWO;19HREE;18FOUR;19IVE;18SIX;19EVEN",
   "18EIGHT;18NINE;18TEN;18MOON;18FIRE;18WATER;19OOD;18METAL;18EARTH;18SUN;19TOCK;18HAVE;18SOCIETY",
   "18NAME;18SPECIAL;18FINANCIAL;18CONGRATULATION;18LABOR;18SECRET;18MALE;18FEMALE;18SUITABLE",
   "18EXCELLENT;18PRINT;18ATTENTION;18ITEM;18REST;18COPY;20RRECT;18HIGH;18CENTRE;18LOW;19EFT",
   "18RIGHT;18MEDICINE;18RELIGION;18STUDY;19UPERVISE;18ENTERPRISE;18RESOURCE;18ALLIANCE;18NIGHT",
   "08NUMBER THIRTY SIX;23EVEN;22EIGHT;22NINE;15FORTY;20 ONE;21TWO;22HREE;21FOUR;22IVE;21SIX",
   "22EVEN;21EIGHT;21NINE;16IFTY;00IDEOGRAPHIC TELEGRAPH SYMBOL FOR JANUARY;33FEBRUARY;33MARCH",
   "33APRIL;33MAY;33JUNE;35LY;33AUGUST;33SEPTEMBER;33OCTOBER;33NOVEMBER;33DECEMBER;00SQUARE HG",
   "07ERG;08V;00LIMITED LIABILITY SIGN;00CIRCLED KATAKANA A;17I;17U;17E;17O;17KA;18I;18U;18E;18O",
   "17SA;18I;18U;18E;18O;17TA;18I;18U;18E;18O;17NA;18I;18U;18E;18O;17HA;18I;18U;18E;18O;17MA;18I",
   "18U;18E;18O;17YA;18U;18O;17RA;18I;18U;18E;18O;17WA;18I;18E;18O;00SQUARE ERA NAME REIWA",
   "07APAATO;08RUHUA;08NPEA;08ARU;07ININGU;09TI;07UON;07ESUKUUDO;08EKAA;07ONSU;08OMU;07KAIRI",
   "09RATTO;10ORII;07GARON;09NMA;08IGA;09NII;07KYURII;07GIRUDAA;07KIRO;11GURAMU;11MEETORU;11WATTO",
   "07GURAMU;13TON;07KURUZEIRO;10OONE;08EESU;08ORUNA;09OPO;07SAIKURU;09NTIIMU;08IRINGU;08ENTI;11O",
   "07DAASU;08ESI;08ORU;07TON;07NANO;08OTTO;07HAITU;07PAASENTO;10TU;07BAARERU;07PIASUTORU;09KURU",
   "10O;07BIRU;07HUARADDO;09IITO;07BUSSYERU;07HURAN;08EKUTAARU;07PESO;09NIHI;07HERUTU;07PENSU",
   "09EZI;07BEETA;07POINTO;07BORUTO;07HON;07PONDO;07HOORU;10N;07MAIKURO;10RU;09HHA;09RUKU;09NSYON",
   "08IKURON;09RI;11BAARU;08EGA;11TON;09ETORU;07YAADO;10RU;08UAN;07RITTORU;09RA;08UPII;09UBURU",
   "08EMU;09NTOGEN;07WATTO;00IDEOGRAPHIC TELEGRAPH SYMBOL FOR HOUR ZERO;38ONE;38TWO;39HREE;38FOUR",
   "39IVE;38SIX;39EVEN;38EIGHT;38NINE;38TEN;38ELEVEN;38TWELVE;39HIRTEEN;38FOURTEEN;39IFTEEN",
   "38SIXTEEN;39EVENTEEN;38EIGHTEEN;38NINETEEN;38TWENTY;44-ONE;45TWO;46HREE;45FOUR;00SQUARE HPA",
   "07DA;07AU;07BAR;07OV;07PC;07DM;09 SQUARED;10CUBED;07IU;07ERA NAME HEISEI;16SYOUWA;16TAISYOU",
   "16MEIZI;07CORPORATION;07PA AMPS;07NA;07MU A;08A;07KA;08B;07MB;07GB;07CAL;07KCAL;07PF;07NF",
   "07MU F;10G;08G;07KG;07HZ;07KHZ;07MHZ;07GHZ;07THZ;07MU L;08L;07DL;07KL;07FM;07NM;07MU M;08M",
   "07CM;07KM;07MM SQUARED;07CM SQUARED;07M SQUARED;07KM SQUARED;07MM CUBED;07CM CUBED;07M CUBED",
   "07KM CUBED;07M OVER S;15 SQUARED;07PA;07KPA;07MPA;07GPA;07RAD;10 OVER S;17 SQUARED;07PS;07NS",
   "07MU S;08S;07PV;07NV;07MU V;08V;07KV;07MV MEGA;07PW;07NW;07MU W;08W;07KW;07MW MEGA;07K OHM",
   "07M OHM;07AM;07BQ;07CC;08D;08 OVER KG;08O;07DB;07GY;07HA;08P;07IN;07KK;08M CAPITAL;08T;07LM",
   "08N;08OG;08X;07MB SMALL;08IL;08OL;07PH;08M;08PM;08R;07SR;08V;07WB;07V OVER M;07A OVER M",
   "00IDEOGRAPHIC TELEGRAPH SYMBOL FOR DAY ONE;37TWO;38HREE;37FOUR;38IVE;37SIX;38EVEN;37EIGHT",
   "37NINE;37TEN;37ELEVEN;37TWELVE;38HIRTEEN;37FOURTEEN;38IFTEEN;37SIXTEEN;38EVENTEEN;37EIGHTEEN",
   "37NINETEEN;37TWENTY;43-ONE;44TWO;45HREE;44FOUR;45IVE;44SIX;45EVEN;44EIGHT;44NINE;38HIRTY",
   "43-ONE;00SQUARE GAL;+4dc0;00HEXAGRAM FOR THE CREATIVE HEAVEN;17RECEPTIVE EARTH",
   "13DIFFICULTY AT THE BEGINNING;13YOUTHFUL FOLLY;13WAITING;13CONFLICT;13THE ARMY",
   "13HOLDING TOGETHER;13SMALL TAMING;13TREADING;13PEACE;13STANDSTILL;13FELLOWSHIP",
   "13GREAT POSSESSION;13MODESTY;13ENTHUSIASM;13FOLLOWING;13WORK ON THE DECAYED;13APPROACH",
   "13CONTEMPLATION;13BITING THROUGH;13GRACE;13SPLITTING APART;13RETURN;13INNOCENCE;13GREAT TAMING",
   "13MOUTH CORNERS;13GREAT PREPONDERANCE;13THE ABYSMAL WATER;17CLINGING FIRE;13INFLUENCE",
   "13DURATION;13RETREAT;13GREAT POWER;13PROGRESS;13DARKENING OF THE LIGHT;13THE FAMILY",
   "13OPPOSITION;14BSTRUCTION;13DELIVERANCE;15CREASE;13INCREASE;13BREAKTHROUGH;13COMING TO MEET",
   "13GATHERING TOGETHER;13PUSHING UPWARD;13OPPRESSION;13THE WELL;13REVOLUTION;13THE CAULDRON",
   "17AROUSING THUNDER;17KEEPING STILL MOUNTAIN;13DEVELOPMENT;13THE MARRYING MAIDEN;13ABUNDANCE",
   "13THE WANDERER;17GENTLE WIND;17JOYOUS LAKE;13DISPERSION;13LIMITATION;13INNER TRUTH",
   "13SMALL PREPONDERANCE;13AFTER COMPLETION;13BEFORE COMPLETION;+a000;00YI SYLLABLE IT;13X;13;13P",
   "13ET;14X;14;14P;12AT;13X;13;13P;12UOX;14;14P;12OT;13X;13;13P;12EX;13;12WU;12BIT;14X;14;14P",
   "14ET;15X;15;15P;13AT;14X;14;14P;13UOX;15;15P;13OT;14X;14;14P;13EX;14;14P;13UT;14X;14;14P;14RX",
   "15;13YT;14X;14;14P;14RX;15;12PIT;14X;14;14P;14EX;15;15P;13AT;14X;14;14P;13UOX;15;15P;13OT;14X",
   "14;14P;13UT;14X;14;14P;14RX;15;13YT;14X;14;14P;14RX;15;12BBIT;15X;15;15P;15ET;16X;16;16P;14AT",
   "15X;15;15P;14UOX;16;16P;14OT;15X;15;15P;14EX;15;15P;14UT;15X;15;15P;15RX;16;14YT;15X;15;15P",
   "12NBIT;15X;15;15P;15EX;16;16P;14AT;15X;15;15P;14OT;15X;15;15P;14UT;15X;15;15P;15RX;16;14YT;15X",
   "15;15P;15RX;16;12HMIT;15X;15;15P;15EX;16;16P;14AT;15X;15;15P;14UOX;16;16P;14OT;15X;15;15P;14UT",
   "15X;15;15P;15RX;16;14YX;15;15P;15RX;16;12MIT;14X;14;14P;14EX;15;15P;13AT;14X;14;14P;13UOT;15X",
   "15;15P;13OT;14X;14;14P;13EX;14;13UT;14X;14;14P;14RX;15;13YT;14X;14;14P;12FIT;14X;14;14P;13AT",
   "14X;14;14P;13OX;14;14P;13UT;14X;14;14P;14RX;15;13YT;14X;14;14P;12VIT;14X;14;14P;14ET;15X;15",
   "15P;13AT;14X;14;14P;13OT;14X;14;14P;13EX;14P;13UT;14X;14;14P;14RX;15;13YT;14X;14;14P;14RX;15",
   "12DIT;14X;14;14P;14EX;15;15P;13AT;14X;14;14P;13UOX;15;13OT;14X;14;14P;13EX;14;14P;13UT;14X;14",
   "14P;14RX;15;12TIT;14X;14;14P;14EX;15;15P;13AT;14X;14;14P;13UOT;15X;15;15P;13OT;14X;14;14P;13EX",
   "14;14P;13UT;14X;14;14P;14RX;15;12DDIT;15X;15;15P;15EX;16;16P;14AT;15X;15;15P;14UOX;16;16P;14OT",
   "15X;15;15P;14EX;15;15P;14UT;15X;15;15P;15RX;16;12NDIT;15X;15;15P;15EX;16;14AT;15X;15;15P;14OT",
   "15X;15;15P;14EX;15;15P;14UT;15X;15;15P;15RX;16;12HNIT;15X;15;15P;15ET;16X;16;16P;14AT;15X;15",
   "15P;14UOX;16;14OT;15X;15P;14EX;15;15P;14UT;12NIT;14X;14;14P;14EX;15;15P;13AX;14;14P;13UOX;15",
   "15P;13OT;14X;14;14P;13EX;14;14P;13UT;14X;14;14P;14RX;15;12HLIT;15X;15;15P;15EX;16;16P;14AT;15X",
   "15;15P;14UOX;16;16P;14OX;15;15P;14EX;15;15P;14UT;15X;15;15P;15RX;16;14YT;15X;15;15P;15RX;16",
   "12LIT;14X;14;14P;14ET;15X;15;15P;13AT;14X;14;14P;13UOT;15X;15;15P;13OT;14X;14;14P;13EX;14;14P",
   "13UT;14X;14;14P;14RX;15;13YT;14X;14;14P;14RX;15;12GIT;14X;14;14P;14ET;15X;15;15P;13AT;14X;14",
   "14P;13UOT;15X;15;15P;13OT;14X;14;14P;13ET;14X;14;14P;13UT;14X;14;14P;14RX;15;12KIT;14X;14;14P",
   "14EX;15;15P;13AT;14X;14;14P;13UOX;15;15P;13OT;14X;14;14P;13ET;14X;14;14P;13UT;14X;14;14P;14RX",
   "15;12GGIT;15X;15;15EX;16;16P;14AT;15X;15;15P;14UOT;16X;16;16P;14OT;15X;15;15P;14ET;15X;15;15P",
   "14UT;15X;15;15P;15RX;16;12MGIEX;16;14AT;15X;15;15P;14UOX;16;16P;14OT;15X;15;15P;14EX;15;15P",
   "14UT;15X;15;15P;15RX;16;12HXIT;15X;15;15P;15ET;16X;16;16P;14AT;15X;15;15P;14UOT;16X;16;16P",
   "14OT;15X;15;15P;14EX;15;15P;12NGIEX;16;16P;14AT;15X;15;15P;14UOT;16X;16;14OT;15X;15;15P;14EX",
   "15;15P;12HIT;14EX;15;13AT;14X;14;14P;13UOT;15X;15;15P;13OT;14X;14;14P;13EX;14;14P;12WAT;14X;14",
   "14P;13UOX;15;15P;13OX;14;14P;13EX;14;14P;12ZIT;14X;14;14P;14EX;15;15P;13AT;14X;14;14P;13UOX;15",
   "15P;13OT;14X;14;14P;13EX;14;14P;13UT;14X;14;14P;14RX;15;13YT;14X;14;14P;14RX;15;12CIT;14X;14",
   "14P;14ET;15X;15;15P;13AT;14X;14;14P;13UOX;15;15P;13OT;14X;14;14P;13EX;14;14P;13UT;14X;14;14P",
   "14RX;15;13YT;14X;14;14P;14RX;15;12ZZIT;15X;15;15P;15ET;16X;16;16P;14AT;15X;15;15P;14OX;15;15P",
   "14EX;15;15P;14UX;15;15P;15RX;16;14YT;15X;15;15P;15RX;16;12NZIT;15X;15;15P;15EX;16;16P;14AT;15X",
   "15;15P;14UOX;16;14OX;15P;14EX;15;14UX;15;15P;15RX;16;14YT;15X;15;15P;15RX;16;12SIT;14X;14;14P",
   "14EX;15;15P;13AT;14X;14;14P;13UOX;15;15P;13OT;14X;14;14P;13EX;14;14P;13UT;14X;14;14P;14RX;15",
   "13YT;14X;14;14P;14RX;15;13SIT;15X;15;15P;15EX;16;16P;14AT;15X;15;15P;14OT;15X;15;15P;14EX;15",
   "15P;14UT;15X;15;15P;14YT;15X;15;15P;15RX;16;12ZHAT;15X;15;15P;14UOX;16;16P;14OT;15X;15;15P",
   "14ET;15X;15;15P;14UT;15X;15;15P;15RX;16;14YT;15X;15;15P;15RX;16;12CHAT;15X;15;15P;14UOT;16X;16",
   "16P;14OT;15X;15;15P;14ET;15X;15;15P;14UX;15;15P;15RX;16;14YT;15X;15;15P;15RX;16;12RRAX;15",
   "14UOX;16;14OT;15X;15;15P;14ET;15X;15;15P;14UT;15X;15;15P;15RX;16;14YT;15X;15;15P;15RX;16",
   "12NRAT;15X;15;15P;14OX;15;15P;14ET;15X;15;15P;14UT;15X;15;15P;15RX;16;14YT;15X;15;15P;15RX;16",
   "12SHAT;15X;15;15P;14UOX;16;16P;14OT;15X;15;15P;14ET;15X;15;15P;14UT;15X;15;15P;15RX;16;14YT",
   "15X;15;15P;15RX;16;12RAT;14X;14;14P;13UOX;15;15P;13OT;14X;14;14P;13EX;14;14P;13UT;14X;14;14P",
   "14RX;15;13YT;14X;14;14P;14RX;15;12JIT;14X;14;14P;14ET;15X;15;15P;13UOT;15X;15;15P;13OT;14X;14",
   "14P;13UT;14X;14;14P;14RX;15;13YT;14X;14;14P;14RX;15;12QIT;14X;14;14P;14ET;15X;15;15P;13UOT;15X",
   "15;15P;13OT;14X;14;14P;13UT;14X;14;14P;14RX;15;13YT;14X;14;14P;14RX;15;12JJIT;15X;15;15P;15ET",
   "16X;16;16P;14UOX;16;16P;14OT;15X;15;15P;14UT;15X;15;15P;15RX;16;14YT;15X;15;15P;12NJIT;15X;15",
   "15P;15ET;16X;16;16P;14UOX;16;14OT;15X;15;15P;14UX;15;15P;15RX;16;14YT;15X;15;15P;15RX;16;13YIT",
   "15X;15;15P;15ET;16X;16;16P;14UOX;16;16P;14OT;15X;15;15P;14UT;15X;15;15P;12XIT;14X;14;14P;14ET",
   "15X;15;15P;13UOX;15;13OT;14X;14;14P;13YT;14X;14;14P;14RX;15;12YIT;14X;14;14P;14ET;15X;15;15P",
   "13UOT;15X;15;15P;13OT;14X;14;14P;13UT;14X;14;14P;14RX;15;13YT;14X;14;14P;14RX;15;+a490",
   "03RADICAL QOT;11LI;11KIT;11NYIP;11CYP;11SSI;11GGOP;12EP;11MI;11HXIT;11LYR;11BBUT;11MOP;11YO",
   "11PUT;11HXUO;11TAT;11GA;11ZUP;11CYT;11DDUR;11BUR;11GGUO;11NYOP;11TU;11OP;11JJUT;11ZOT;11PYT",
   "11HMO;11YIT;11VUR;11SHY;11VEP;11ZA;11JO;11NZUP;11JJY;11GOT;11JJIE;11WO;11DU;11SHUR;11LIE;11CY",
   "12UOP;12IP;11HXOP;11SHAT;11ZUR;11SHOP;11CHE;11ZZIET;11NBIE;11KE;+a4d0;00LISU LETTER BA;12PA",
   "13HA;12DA;12TA;13HA;12GA;12KA;13HA;12JA;12CA;13HA;12DZA;12TSA;14HA;12MA;12NA;12LA;12SA;12ZHA",
   "13A;12NGA;12HA;12XA;12HHA;12FA;12WA;12SHA;12YA;12GHA;12A;13E;12E;13U;12I;12O;12U;13E;13H;12OE",
   "12TONE MYA TI;17NA PO;17MYA CYA;21BO;21NA;21JEU;05PUNCTUATION COMMA;17FULL STOP",
   "00VAI SYLLABLE EE;15N;13HEE;13WEE;16N;13PEE;13BHEE;14EE;13MBEE;13KPEE;13MGBEE;13GBEE;13FEE",
   "13VEE;13TEE;14HEE;13DHEE;15HEE;13LEE;13REE;13DEE;13NDEE;13SEE;14HEE;13ZEE;14HEE;13CEE;13JEE",
   "13NJEE;13YEE;13KEE;13NGGEE;13GEE;13MEE;13NEE;14YEE;13I;14N;13HI;15N;13WI;15N;13PI;13BHI;14I",
   "13MBI;13KPI;13MGBI;13GBI;13FI;13VI;13TI;14HI;13DHI;15HI;13LI;13RI;13DI;13NDI;13SI;14HI;13ZI",
   "14HI;13CI;13JI;13NJI;13YI;13KI;13NGGI;13GI;13MI;13NI;14YI;13A;14N;13NGAN;13HA;15N;13WA;15N",
   "13PA;13BHA;14A;13MBA;13KPA;16N;13MGBA;13GBA;13FA;13VA;13TA;14HA;13DHA;15HA;13LA;13RA;13DA",
   "13NDA;13SA;14HA;13ZA;14HA;13CA;13JA;13NJA;13YA;13KA;15N;13NGGA;13GA;13MA;13NA;14YA;13OO;15N",
   "13HOO;13WOO;16N;13POO;13BHOO;14OO;13MBOO;13KPOO;13MGBOO;13GBOO;13FOO;13VOO;13TOO;14HOO;13DHOO",
   "15HOO;13LOO;13ROO;13DOO;13NDOO;13SOO;14HOO;13ZOO;14HOO;13COO;13JOO;13NJOO;13YOO;13KOO;13NGGOO",
   "13GOO;13MOO;13NOO;14YOO;13U;14N;13HU;15N;13WU;15N;13PU;13BHU;14U;13MBU;13KPU;13MGBU;13GBU;13FU",
   "13VU;13TU;14HU;13DHU;15HU;13LU;13RU;13DU;13NDU;13SU;14HU;13ZU;14HU;13CU;13JU;13NJU;13YU;13KU",
   "13NGGU;13GU;13MU;13NU;14YU;13O;14N;13NGON;13HO;15N;13WO;15N;13PO;13BHO;14O;13MBO;13KPO;13MGBO",
   "13GBO;16N;13FO;13VO;13TO;14HO;13DHO;15HO;13LO;13RO;13DO;13NDO;13SO;14HO;13ZO;14HO;13CO;13JO",
   "13NJO;13YO;13KO;13NGGO;13GO;13MO;13NO;14YO;13E;14N;13NGEN;13HE;15N;13WE;15N;13PE;13BHE;14E",
   "13MBE;13KPE;16N;13MGBE;13GBE;16N;13FE;13VE;13TE;14HE;13DHE;15HE;13LE;13RE;13DE;13NDE;13SE;14HE",
   "13ZE;14HE;13CE;13JE;13NJE;13YE;13KE;13NGGE;17N;13GE;15N;13ME;13NE;14YE;14G;13LENGTHENER",
   "04COMMA;04FULL STOP;04QUESTION MARK;04SYLLABLE NDOLE FA;19KA;19SOO;06MBOL FEENG;11KEENG;11TING",
   "11NII;11BANG;11FAA;11TAA;11DANG;12OONG;11KUNG;11TONG;11DO-O;11JONG;04DIGIT ZERO;10ONE;10TWO",
   "11HREE;10FOUR;11IVE;10SIX;11EVEN;10EIGHT;10NINE;04SYLLABLE NDOLE MA;19DO;+a640",
   "00CYRILLIC CAPITAL LETTER ZEMLYA;09SMALL LETTER ZEMLYA;09CAPITAL LETTER DZELO",
   "09SMALL LETTER DZELO;09CAPITAL LETTER REVERSED DZE;09SMALL LETTER REVERSED DZE",
   "09CAPITAL LETTER IOTA;09SMALL LETTER IOTA;09CAPITAL LETTER DJERV;09SMALL LETTER DJERV",
   "09CAPITAL LETTER MONOGRAPH UK;09SMALL LETTER MONOGRAPH UK;09CAPITAL LETTER BROAD OMEGA",
   "09SMALL LETTER BROAD OMEGA;09CAPITAL LETTER NEUTRAL YER;09SMALL LETTER NEUTRAL YER",
   "09CAPITAL LETTER YERU WITH BACK YER;09SMALL LETTER YERU WITH BACK YER",
   "09CAPITAL LETTER IOTIFIED YAT;09SMALL LETTER IOTIFIED YAT;09CAPITAL LETTER REVERSED YU",
   "09SMALL LETTER REVERSED YU;09CAPITAL LETTER IOTIFIED A;09SMALL LETTER IOTIFIED A",
   "09CAPITAL LETTER CLOSED LITTLE YUS;09SMALL LETTER CLOSED LITTLE YUS",
   "09CAPITAL LETTER BLENDED YUS;09SMALL LETTER BLENDED YUS",
   "09CAPITAL LETTER IOTIFIED CLOSED LITTLE YUS;09SMALL LETTER IOTIFIED CLOSED LITTLE YUS",
   "09CAPITAL LETTER YN;09SMALL LETTER YN;09CAPITAL LETTER REVERSED TSE",
   "09SMALL LETTER REVERSED TSE;09CAPITAL LETTER SOFT DE;09SMALL LETTER SOFT DE",
   "09CAPITAL LETTER SOFT EL;09SMALL LETTER SOFT EL;09CAPITAL LETTER SOFT EM",
   "09SMALL LETTER SOFT EM;09CAPITAL LETTER MONOCULAR O;09SMALL LETTER MONOCULAR O",
   "09CAPITAL LETTER BINOCULAR O;09SMALL LETTER BINOCULAR O;09CAPITAL LETTER DOUBLE MONOCULAR O",
   "09SMALL LETTER DOUBLE MONOCULAR O;09LETTER MULTIOCULAR O;01OMBINING CYRILLIC VZMET",
   "19TEN MILLIONS SIGN;19HUNDRED MILLIONS SIGN;19THOUSAND MILLIONS SIGN;00SLAVONIC ASTERISK",
   "00COMBINING CYRILLIC LETTER UKRAINIAN IE;26I;26YI;26U;26HARD SIGN;26YERU;26SOFT SIGN;26OMEGA",
   "19KAVYKA;19PAYEROK;01YRILLIC KAVYKA;09PAYEROK;09CAPITAL LETTER DWE;09SMALL LETTER DWE",
   "09CAPITAL LETTER DZWE;09SMALL LETTER DZWE;09CAPITAL LETTER ZHWE;09SMALL LETTER ZHWE",
   "09CAPITAL LETTER CCHE;09SMALL LETTER CCHE;09CAPITAL LETTER DZZE;09SMALL LETTER DZZE",
   "09CAPITAL LETTER TE WITH MIDDLE HOOK;09SMALL LETTER TE WITH MIDDLE HOOK;09CAPITAL LETTER TWE",
   "09SMALL LETTER TWE;09CAPITAL LETTER TSWE;09SMALL LETTER TSWE;09CAPITAL LETTER TSSE",
   "09SMALL LETTER TSSE;09CAPITAL LETTER TCHE;09SMALL LETTER TCHE;09CAPITAL LETTER HWE",
   "09SMALL LETTER HWE;09CAPITAL LETTER SHWE;09SMALL LETTER SHWE;09CAPITAL LETTER DOUBLE O",
   "09SMALL LETTER DOUBLE O;09CAPITAL LETTER CROSSED O;09SMALL LETTER CROSSED O",
   "00MODIFIER LETTER CYRILLIC HARD SIGN;25SOFT SIGN;00COMBINING CYRILLIC LETTER EF;26IOTIFIED E",
   "00BAMUM LETTER A;13KA;13U;13KU;13EE;13REE;13TAE;13O;13NYI;13I;13LA;13PA;13RII;15EE;13LEEEE",
   "13MEEEE;13TAA;13NDAA;14JAEM;13M;13SUU;13MU;13SHII;14I;14HEUX;14EUX;13KYEE;14ET;13NUAE;15",
   "14JUAE;13YOQ;13SHU;13YUQ;14A;13NSHA;13KEUX;13PEUX;13NJEE;14TEE;13PUE;13WUE;13PEE;13FEE;13RU",
   "13LU;13MI;13NI;13REUX;14AE;13KEN;13NGKWAEN;15GA;15A;13SHO;13PUAE;13FU;14OM;13WA;13NA;13LI;13PI",
   "13LOQ;13KO;13MBEN;13REN;13MEN;14A;13TI;13KI;13MO;14BAA;13TET;13KPA;13TEN;13NTUU;13SAMBA",
   "13FAAMAE;13KOVUU;15GHOM;06COMBINING MARK KOQNDON;21TUKWENTIS;06NJAEMLI;06FULL STOP;06COLON",
   "08MMA;06SEMICOLON;06QUESTION MARK;+a700;00MODIFIER LETTER CHINESE TONE YIN PING;30ANG PING",
   "30IN SHANG;30ANG SHANG;30IN QU;30ANG QU;30IN RU;30ANG RU;16EXTRA-HIGH DOTTED TONE BAR",
   "16HIGH DOTTED TONE BAR;16MID DOTTED TONE BAR;16LOW DOTTED TONE BAR;16EXTRA-LOW DOTTED TONE BAR",
   "22HIGH DOTTED LEFT-STEM TONE BAR;16HIGH DOTTED LEFT-STEM TONE BAR",
   "16MID DOTTED LEFT-STEM TONE BAR;16LOW DOTTED LEFT-STEM TONE BAR",
   "16EXTRA-LOW DOTTED LEFT-STEM TONE BAR;22HIGH LEFT-STEM TONE BAR;16HIGH LEFT-STEM TONE BAR",
   "16MID LEFT-STEM TONE BAR;16LOW LEFT-STEM TONE BAR;16EXTRA-LOW LEFT-STEM TONE BAR",
   "16DOT VERTICAL BAR;20SLASH;20HORIZONTAL BAR;16LOWER RIGHT CORNER ANGLE;16RAISED UP ARROW",
   "23DOWN ARROW;23EXCLAMATION MARK;23INVERTED EXCLAMATION MARK;16LOW INVERTED EXCLAMATION MARK",
   "16STRESS AND HIGH TONE;27LOW TONE;00LATIN CAPITAL LETTER EGYPTOLOGICAL ALEF",
   "06SMALL LETTER EGYPTOLOGICAL ALEF;06CAPITAL LETTER EGYPTOLOGICAL AIN",
   "06SMALL LETTER EGYPTOLOGICAL AIN;06CAPITAL LETTER HENG;06SMALL LETTER HENG;06CAPITAL LETTER TZ",
   "06SMALL LETTER TZ;06CAPITAL LETTER TRESILLO;06SMALL LETTER TRESILLO;06CAPITAL LETTER CUATRILLO",
   "06SMALL LETTER CUATRILLO;06CAPITAL LETTER CUATRILLO WITH COMMA",
   "06SMALL LETTER CUATRILLO WITH COMMA;06LETTER SMALL CAPITAL F;27S;06CAPITAL LETTER AA",
   "06SMALL LETTER AA;06CAPITAL LETTER AO;06SMALL LETTER AO;06CAPITAL LETTER AU;06SMALL LETTER AU",
   "06CAPITAL LETTER AV;06SMALL LETTER AV;06CAPITAL LETTER AV WITH HORIZONTAL BAR",
   "06SMALL LETTER AV WITH HORIZONTAL BAR;06CAPITAL LETTER AY;06SMALL LETTER AY",
   "06CAPITAL LETTER REVERSED C WITH DOT;06SMALL LETTER REVERSED C WITH DOT",
   "06CAPITAL LETTER K WITH STROKE;06SMALL LETTER K WITH STROKE",
   "06CAPITAL LETTER K WITH DIAGONAL STROKE;06SMALL LETTER K WITH DIAGONAL STROKE",
   "06CAPITAL LETTER K WITH STROKE AND DIAGONAL STROKE",
   "06SMALL LETTER K WITH STROKE AND DIAGONAL STROKE;06CAPITAL LETTER BROKEN L",
   "06SMALL LETTER BROKEN L;06CAPITAL LETTER L WITH HIGH STROKE;06SMALL LETTER L WITH HIGH STROKE",
   "06CAPITAL LETTER O WITH LONG STROKE OVERLAY;06SMALL LETTER O WITH LONG STROKE OVERLAY",
   "06CAPITAL LETTER O WITH LOOP;06SMALL LETTER O WITH LOOP;06CAPITAL LETTER OO;06SMALL LETTER OO",
   "06CAPITAL LETTER P WITH STROKE THROUGH DESCENDER",
   "06SMALL LETTER P WITH STROKE THROUGH DESCENDER;06CAPITAL LETTER P WITH FLOURISH",
   "06SMALL LETTER P WITH FLOURISH;06CAPITAL LETTER P WITH SQUIRREL TAIL",
   "06SMALL LETTER P WITH SQUIRREL TAIL;06CAPITAL LETTER Q WITH STROKE THROUGH DESCENDER",
   "06SMALL LETTER Q WITH STROKE THROUGH DESCENDER;06CAPITAL LETTER Q WITH DIAGONAL STROKE",
   "06SMALL LETTER Q WITH DIAGONAL STROKE;06CAPITAL LETTER R ROTUNDA;06SMALL LETTER R ROTUNDA",
   "06CAPITAL LETTER RUM ROTUNDA;06SMALL LETTER RUM ROTUNDA",
   "06CAPITAL LETTER V WITH DIAGONAL STROKE;06SMALL LETTER V WITH DIAGONAL STROKE",
   "06CAPITAL LETTER VY;06SMALL LETTER VY;06CAPITAL LETTER VISIGOTHIC Z",
   "06SMALL LETTER VISIGOTHIC Z;06CAPITAL LETTER THORN WITH STROKE",
   "06SMALL LETTER THORN WITH STROKE;06CAPITAL LETTER THORN WITH STROKE THROUGH DESCENDER",
   "06SMALL LETTER THORN WITH STROKE THROUGH DESCENDER;06CAPITAL LETTER VEND;06SMALL LETTER VEND",
   "06CAPITAL LETTER ET;06SMALL LETTER ET;06CAPITAL LETTER IS;06SMALL LETTER IS",
   "06CAPITAL LETTER CON;06SMALL LETTER CON;00MODIFIER LETTER US;00LATIN SMALL LETTER DUM;19LUM",
   "19MUM;19NUM;19RUM;06LETTER SMALL CAPITAL RUM;06SMALL LETTER TUM;19UM",
   "06CAPITAL LETTER INSULAR D;06SMALL LETTER INSULAR D;06CAPITAL LETTER INSULAR F",
   "06SMALL LETTER INSULAR F;06CAPITAL LETTER INSULAR G;21TURNED INSULAR G",
   "06SMALL LETTER TURNED INSULAR G;06CAPITAL LETTER TURNED L;06SMALL LETTER TURNED L",
   "06CAPITAL LETTER INSULAR R;06SMALL LETTER INSULAR R;06CAPITAL LETTER INSULAR S",
   "06SMALL LETTER INSULAR S;06CAPITAL LETTER INSULAR T;06SMALL LETTER INSULAR T",
   "00MODIFIER LETTER LOW CIRCUMFLEX ACCENT;16COLON;16SHORT EQUALS SIGN",
   "00LATIN CAPITAL LETTER SALTILLO;06SMALL LETTER SALTILLO;06CAPITAL LETTER TURNED H",
   "06SMALL LETTER L WITH RETROFLEX HOOK AND BELT;06LETTER SINOLOGICAL DOT",
   "06CAPITAL LETTER N WITH DESCENDER;06SMALL LETTER N WITH DESCENDER;06CAPITAL LETTER C WITH BAR",
   "06SMALL LETTER C WITH BAR;26PALATAL HOOK;19H WITH PALATAL HOOK",
   "06CAPITAL LETTER B WITH FLOURISH;06SMALL LETTER B WITH FLOURISH;06CAPITAL LETTER F WITH STROKE",
   "06SMALL LETTER F WITH STROKE;06CAPITAL LETTER VOLAPUK AE;06SMALL LETTER VOLAPUK AE",
   "06CAPITAL LETTER VOLAPUK OE;06SMALL LETTER VOLAPUK OE;06CAPITAL LETTER VOLAPUK UE",
   "06SMALL LETTER VOLAPUK UE;06CAPITAL LETTER G WITH OBLIQUE STROKE",
   "06SMALL LETTER G WITH OBLIQUE STROKE;06CAPITAL LETTER K WITH OBLIQUE STROKE",
   "06SMALL LETTER K WITH OBLIQUE STROKE;06CAPITAL LETTER N WITH OBLIQUE STROKE",
   "06SMALL LETTER N WITH OBLIQUE STROKE;06CAPITAL LETTER R WITH OBLIQUE STROKE",
   "06SMALL LETTER R WITH OBLIQUE STROKE;06CAPITAL LETTER S WITH OBLIQUE STROKE",
   "06SMALL LETTER S WITH OBLIQUE STROKE;06CAPITAL LETTER H WITH HOOK;21REVERSED OPEN E;21SCRIPT G",
   "21L WITH BELT;21SMALL CAPITAL I;06LETTER SMALL CAPITAL Q;06CAPITAL LETTER TURNED K;28T",
   "21J WITH CROSSED-TAIL;21CHI;21BETA;06SMALL LETTER BETA;06CAPITAL LETTER OMEGA",
   "06SMALL LETTER OMEGA;06CAPITAL LETTER U WITH STROKE;06SMALL LETTER U WITH STROKE",
   "06CAPITAL LETTER GLOTTAL A;06SMALL LETTER GLOTTAL A;06CAPITAL LETTER GLOTTAL I",
   "06SMALL LETTER GLOTTAL I;06CAPITAL LETTER GLOTTAL U;06SMALL LETTER GLOTTAL U",
   "06CAPITAL LETTER OLD POLISH O;06SMALL LETTER OLD POLISH O;06CAPITAL LETTER ANGLICANA W",
   "06SMALL LETTER ANGLICANA W;06CAPITAL LETTER C WITH PALATAL HOOK;21S WITH HOOK",
   "21Z WITH PALATAL HOOK;21D WITH SHORT STROKE OVERLAY;06SMALL LETTER D WITH SHORT STROKE OVERLAY",
   "06CAPITAL LETTER S WITH SHORT STROKE OVERLAY;06SMALL LETTER S WITH SHORT STROKE OVERLAY;+a7d0",
   "06CAPITAL LETTER CLOSED INSULAR G;06SMALL LETTER CLOSED INSULAR G;+a7d3;19DOUBLE THORN;+a7d5",
   "26WYNN;06CAPITAL LETTER MIDDLE SCOTS S;06SMALL LETTER MIDDLE SCOTS S",
   "06CAPITAL LETTER SIGMOID S;06SMALL LETTER SIGMOID S;+a7f2;00MODIFIER LETTER CAPITAL C;24F;24Q",
   "00LATIN CAPITAL LETTER REVERSED HALF H;06SMALL LETTER REVERSED HALF H",
   "06EPIGRAPHIC LETTER SIDEWAYS I;00MODIFIER LETTER CAPITAL H WITH STROKE;16SMALL LIGATURE OE",
   "00LATIN LETTER SMALL CAPITAL TURNED M;06EPIGRAPHIC LETTER REVERSED F;33P;24INVERTED M;25 LONGA",
   "24ARCHAIC M;00SYLOTI NAGRI LETTER A;20I;13SIGN DVISVARA;13LETTER U;20E;20O;13SIGN HASANTA",
   "13LETTER KO;21HO;20GO;21HO;13SIGN ANUSVARA;13LETTER CO;21HO;20JO;21HO;20TTO;22HO;20DDO;22HO",
   "20TO;21HO;20DO;21HO;20NO;20PO;21HO;20BO;21HO;20MO;20RO;20LO;20RRO;20SO;20HO;13VOWEL SIGN A;24I",
   "24U;24E;24OO;13POETRY MARK-1;252;253;254;13SIGN ALTERNATE HASANTA;+a830",
   "00NORTH INDIC FRACTION ONE QUARTER;25HALF;21THREE QUARTERS;21ONE SIXTEENTH;25EIGHTH",
   "21THREE SIXTEENTHS;12QUARTER MARK;12PLACEHOLDER MARK;12RUPEE MARK;12QUANTITY MARK;+a840",
   "00PHAGS-PA LETTER KA;17HA;16GA;16NGA;16CA;17HA;16JA;16NYA;16TA;17HA;16DA;16NA;16PA;17HA;16BA",
   "16MA;16TSA;18HA;16DZA;16WA;16ZHA;17A;16SMALL A;16YA;16RA;16LA;16SHA;17A;16HA;16A;16I;16U;16E",
   "16O;16QA;16XA;16FA;16GGA;16EE;09SUBJOINED LETTER WA;26YA;09LETTER TTA;18HA;16DDA;16NNA",
   "16ALTERNATE YA;16VOICELESS SHA;21D HA;16ASPIRATED FA;09SUBJOINED LETTER RA",
   "11PERFIXED LETTER RA;09LETTER CANDRABINDU;09SINGLE HEAD MARK;09DOUBLE HEAD MARK;09MARK SHAD",
   "14DOUBLE SHAD;+a880;00SAURASHTRA SIGN ANUSVARA;16VISARGA;11LETTER A;19A;18I;19I;18U;19U",
   "18VOCALIC R;27R;26L;27L;18E;19E;18AI;18O;19O;18AU;18KA;19HA;18GA;19HA;18NGA;18CA;19HA;18JA",
   "19HA;18NYA;18TTA;20HA;18DDA;20HA;18NNA;18TA;19HA;18DA;19HA;18NA;18PA;19HA;18BA;19HA;18MA;18YA",
   "18RA;18LA;18VA;18SHA;19SA;19A;18HA;18LLA;11CONSONANT SIGN HAARU;11VOWEL SIGN AA;22I;23I;22U",
   "23U;22VOCALIC R;31R;30L;31L;22E;23E;22AI;22O;23O;22AU;11SIGN VIRAMA;16CANDRABINDU;+a8ce",
   "11DANDA;12OUBLE DANDA;12IGIT ZERO;17ONE;17TWO;18HREE;17FOUR;18IVE;17SIX;18EVEN;17EIGHT;17NINE",
   "+a8e0;00COMBINING DEVANAGARI DIGIT ZERO;27ONE;27TWO;28HREE;27FOUR;28IVE;27SIX;28EVEN;27EIGHT",
   "27NINE;21LETTER A;28U;28KA;28NA;28PA;28RA;28VI;21SIGN AVAGRAHA",
   "00DEVANAGARI SIGN SPACING CANDRABINDU;16CANDRABINDU VIRAMA;16DOUBLE CANDRABINDU VIRAMA",
   "16CANDRABINDU TWO;29HREE;28AVAGRAHA;16PUSHPIKA;11GAP FILLER;11CARET;11HEADSTROKE",
   "11SIGN SIDDHAM;11JAIN OM;11LETTER AY;11VOWEL SIGN AY;00KAYAH LI DIGIT ZERO;15ONE;15TWO;16HREE",
   "15FOUR;16IVE;15SIX;16EVEN;15EIGHT;15NINE;09LETTER KA;17HA;16GA;16NGA;16SA;17HA;16ZA;16NYA;16TA",
   "16HTA;16NA;16PA;17HA;16MA;16DA;16BA;16RA;16YA;16LA;16WA;16THA;16HA;16VA;16CA;16A;16OE;16I;16OO",
   "09VOWEL UE;15E;15U;15EE;15O;09TONE PLOPHU;14CALYA;19 PLOPHU;09SIGN CWI;14SHYA",
   "00REJANG LETTER KA;14GA;14NGA;14TA;14DA;14NA;14PA;14BA;14MA;14CA;14JA;14NYA;14SA;14RA;14LA",
   "14YA;14WA;14HA;14MBA;14NGGA;15DA;15YJA;14A;07VOWEL SIGN I;18U;18E;18AI;18O;18AU;18EU;19A",
   "07CONSONANT SIGN NG;23;22R;22H;07VIRAMA;+a95f;07SECTION MARK;00HANGUL CHOSEONG TIKEUT-MIEUM",
   "23PIEUP;23SIOS;23CIEUC;16RIEUL-KIYEOK;22SSANGKIYEOK;22TIKEUT;22SSANGTIKEUT;22MIEUM;22PIEUP",
   "22SSANGPIEUP;22KAPYEOUNPIEUP;22SIOS;22CIEUC;22KHIEUKH;16MIEUM-KIYEOK;22TIKEUT;22SIOS",
   "16PIEUP-SIOS-THIEUTH;22KHIEUKH;22HIEUH;16SSANGSIOS-PIEUP;16IEUNG-RIEUL;22HIEUH",
   "16SSANGCIEUC-HIEUH;21THIEUTH;16PHIEUPH-HIEUH;16HIEUH-SIOS;16SSANGYEORINHIEUH;+a980",
   "00JAVANESE SIGN PANYANGGA;14CECAK;14LAYAR;14WIGNYAN;09LETTER A;16I KAWI;17;17I;16U;16PA CEREK",
   "16NGA LELET;25 RASWADI;16E;16AI;16O;16KA;18 SASAK;19MURDA;16GA;18 MURDA;16NGA;16CA;18 MURDA",
   "16JA;16NYA MURDA;16JA MAHAPRANA;16NYA;16TTA;19 MAHAPRANA;16DDA;19 MAHAPRANA;16NA MURDA;16TA",
   "18 MURDA;16DA;18 MAHAPRANA;16NA;16PA;18 MURDA;16BA;18 MURDA;16MA;16YA;16RA;18 AGUNG;16LA;16WA",
   "16SA MURDA;20AHAPRANA;18;16HA;09SIGN CECAK TELU;09VOWEL SIGN TARUNG;21OLONG;20WULU;24 MELIK",
   "20SUKU;24 MENDUT;20TALING;20DIRGA MURE;20PEPET;09CONSONANT SIGN KERET;24PENGKAL;24CAKRA",
   "09PANGKON;09LEFT RERENGGAN;09RIGHT RERENGGAN;09PADA ANDAP;14MADYA;14LUHUR;14WINDU;14PANGKAT",
   "14LINGSA;15UNGSI;14ADEG;18 ADEG;14PISELEH;09TURNED PADA PISELEH;+a9cf;09PANGRANGKEP",
   "09DIGIT ZERO;15ONE;15TWO;16HREE;15FOUR;16IVE;15SIX;16EVEN;15EIGHT;15NINE;+a9de",
   "09PADA TIRTA TUMETES;14ISEN-ISEN;00MYANMAR LETTER SHAN GHA;20CHA;20JHA;20NNA;20BHA",
   "08SIGN SHAN SAW;08MODIFIER LETTER SHAN REDUPLICATION;08LETTER TAI LAING NYA;25FA;25GA;26HA",
   "25JA;26HA;25DDA;27HA;25NNA;08TAI LAING DIGIT ZERO;24ONE;24TWO;25HREE;24FOUR;25IVE;24SIX;25EVEN",
   "24EIGHT;24NINE;08LETTER TAI LAING LLA;25DA;26HA;25BA;26HA;+aa00;00CHAM LETTER A;12I;12U;12E",
   "12AI;12O;12KA;13HA;12GA;13HA;12NGUE;14A;12CHA;14HA;12JA;13HA;12NHUE;14A;14JA;12TA;13HA;12DA",
   "13HA;12NUE;13A;12DDA;12PA;13PA;13HA;12BA;13HA;12MUE;13A;12BBA;12YA;12RA;12LA;12VA;12SSA;13A",
   "12HA;05VOWEL SIGN AA;16I;17I;16EI;16U;16OE;17;16AI;17U;16UE;05CONSONANT SIGN YA;20RA;20LA;20WA",
   "+aa40;05LETTER FINAL K;18G;18NG;05CONSONANT SIGN FINAL NG;05LETTER FINAL CH;18T;18N;18P;18Y",
   "18R;18L;18SS;05CONSONANT SIGN FINAL M;26H;+aa50;05DIGIT ZERO;11ONE;11TWO;12HREE;11FOUR;12IVE",
   "11SIX;12EVEN;11EIGHT;11NINE;+aa5c;05PUNCTUATION SPIRAL;17DANDA;18OUBLE DANDA;17TRIPLE DANDA",
   "00MYANMAR LETTER KHAMTI GA;22CA;23HA;22JA;23HA;22NYA;22TTA;24HA;22DDA;24HA;23HA;22NA;22SA;22HA",
   "23HA;22FA;08MODIFIER LETTER KHAMTI REDUPLICATION;08LETTER KHAMTI XA;22ZA;22RA",
   "09OGOGRAM KHAMTI OAY;24QN;24HM;08SYMBOL AITON EXCLAMATION;21ONE;21TWO;08LETTER AITON RA",
   "08SIGN PAO KAREN TONE;13TAI LAING TONE-2;285;08LETTER SHWE PALAUNG CHA;28SHA",
   "00TAI VIET LETTER LOW KO;16HIGH KO;16LOW KHO;16HIGH KHO;16LOW KHHO;16HIGH KHHO;16LOW GO",
   "16HIGH GO;16LOW NGO;16HIGH NGO;16LOW CO;16HIGH CO;16LOW CHO;16HIGH CHO;16LOW SO;16HIGH SO",
   "16LOW NYO;16HIGH NYO;16LOW DO;16HIGH DO;16LOW TO;16HIGH TO;16LOW THO;16HIGH THO;16LOW NO",
   "16HIGH NO;16LOW BO;16HIGH BO;16LOW PO;16HIGH PO;16LOW PHO;16HIGH PHO;16LOW FO;16HIGH FO",
   "16LOW MO;16HIGH MO;16LOW YO;16HIGH YO;16LOW RO;16HIGH RO;16LOW LO;16HIGH LO;16LOW VO;16HIGH VO",
   "16LOW HO;16HIGH HO;16LOW O;16HIGH O;09MAI KANG;09VOWEL AA;15I;15UE;16;15E;15O;09MAI KHIT",
   "09VOWEL IA;15UEA;16A;15AUE;16Y;16N;16M;09TONE MAI EK;18NUENG;18THO;18SONG;+aadb;09SYMBOL KON",
   "16NUENG;16SAM;16HO HOI;16KOI KOI;00MEETEI MAYEK LETTER E;20O;20CHA;20NYA;20TTA;22HA;20DDA;22HA",
   "20NNA;20SHA;21SA;13VOWEL SIGN II;24UU;24AAI;25U;25AU;13CHEIKHAN;13AHANG KHUDAM;14NJI",
   "13SYLLABLE REPETITION MARK;13WORD REPETITION MARK;13VOWEL SIGN VISARGA;14IRAMA;+ab01",
   "00ETHIOPIC SYLLABLE TTHU;21I;21AA;21EE;22;21O;+ab09;18DDHU;21I;21AA;21EE;22;21O;+ab11;19ZU;20I",
   "20AA;20EE;21;20O;+ab20;18CCHHA;22U;22I;22AA;22EE;23;22O;+ab28;18BBA;20U;20I;20AA;20EE;21;20O",
   "+ab30;00LATIN SMALL LETTER BARRED ALPHA;19A REVERSED-SCHWA;19BLACKLETTER E;20ARRED E",
   "19E WITH FLOURISH;19LENIS F;19SCRIPT G WITH CROSSED-TAIL;19L WITH INVERTED LAZY S",
   "26DOUBLE MIDDLE TILDE;26MIDDLE RING;19M WITH CROSSED-TAIL;19N WITH CROSSED-TAIL",
   "19ENG WITH CROSSED-TAIL;19BLACKLETTER O;32 WITH STROKE;19OPEN O WITH STROKE;19INVERTED OE",
   "19TURNED OE WITH STROKE;34HORIZONTAL STROKE;27 OPEN-O;34 WITH STROKE;19STIRRUP R",
   "06LETTER SMALL CAPITAL R WITH RIGHT LEG;06SMALL LETTER R WITHOUT HANDLE;19DOUBLE R",
   "19R WITH CROSSED-TAIL;19DOUBLE R WITH CROSSED-TAIL;19SCRIPT R;27 WITH RING;19BASELINE ESH",
   "19U WITH SHORT RIGHT LEG;21BAR WITH SHORT RIGHT LEG;20I;19TURNED UI;19U WITH LEFT HOOK;19CHI",
   "22 WITH LOW RIGHT RING;32LEFT SERIF;19X WITH LOW RIGHT RING;28NG LEFT LEG",
   "39 AND LOW RIGHT RING;40WITH SERIF;19Y WITH SHORT RIGHT LEG",
   "00MODIFIER BREVE WITH INVERTED BREVE;09LETTER SMALL HENG;22L WITH INVERTED LAZY S",
   "29MIDDLE TILDE;22U WITH LEFT HOOK;00LATIN SMALL LETTER SAKHA YAT;19IOTIFIED E;19OPEN OE;19UO",
   "19INVERTED ALPHA;00GREEK LETTER SMALL CAPITAL OMEGA",
   "00LATIN SMALL LETTER DZ DIGRAPH WITH RETROFLEX HOOK;19TS DIGRAPH WITH RETROFLEX HOOK",
   "20URNED R WITH MIDDLE TILDE;00MODIFIER LETTER SMALL TURNED W;16LEFT TACK;16RIGHT TACK;+ab70",
   "00CHEROKEE SMALL LETTER A;22E;22I;22O;22U;22V;22GA;22KA;22GE;23I;23O;23U;23V;22HA;23E;23I;23O",
   "23U;23V;22LA;23E;23I;23O;23U;23V;22MA;23E;23I;23O;23U;22NA;22HNA;22NAH;23E;23I;23O;23U;23V",
   "22QUA;24E;24I;24O;24U;24V;22SA;23;23E;23I;23O;23U;23V;22DA;22TA;22DE;22TE;22DI;22TI;22DO;23U",
   "23V;23LA;22TLA;24E;24I;24O;24U;24V;23SA;24E;24I;24O;24U;24V;22WA;23E;23I;23O;23U;23V;22YA",
   "00MEETEI MAYEK LETTER KOK;20SAM;20LAI;20MIT;20PA;20NA;20CHIL;20TIL;20KHOU;20NGOU;20THOU;20WAI",
   "20YANG;20HUK;20UN;20I;20PHAM;20ATIYA;20GOK;20JHAM;20RAI;20BA;20JIL;20DIL;20GHOU;20DHOU;20BHAM",
   "20KOK LONSUM;20LAI LONSUM;20MIT LONSUM;20PA LONSUM;20NA LONSUM;20TIL LONSUM;20NGOU LONSUM",
   "20I LONSUM;13VOWEL SIGN ONAP;24INAP;24ANAP;24YENAP;24SOUNAP;24UNAP;24CHEINAP;24NUNG;13CHEIKHEI",
   "13LUM IYEK;13APUN IYEK;+abf0;13DIGIT ZERO;19ONE;19TWO;20HREE;19FOUR;20IVE;19SIX;20EVEN;19EIGHT",
   "19NINE"]

/-- The names of the code points from f900 to 10fff. -/
def highNames : List String :=
  ["+d7b0;00HANGUL JUNGSEONG O-YEO;19O-I;17YO-A;21E;20EO;17U-YEO;19I-I;17YU-AE;20O;17EU-A;20EO;21",
   "20O;17I-YA-O;21E;20EO;21;19O-I;19YO;20U;19I;17ARAEA-A;23E;+d7cb;08ONGSEONG NIEUN-RIEUL",
   "23CHIEUCH;17SSANGTIKEUT;28-PIEUP;17TIKEUT-PIEUP;24SIOS;28-KIYEOK;24CIEUC;25HIEUCH;24THIEUTH",
   "17RIEUL-SSANGKIYEOK;23KIYEOK-HIEUH;17SSANGRIEUL-KHIEUKH;17RIEUL-MIEUM-HIEUH;23PIEUP-TIKEUT",
   "29PHIEUPH;23YESIEUNG;25ORINHIEUH-HIEUH;17KAPYEOUNRIEUL;17MIEUM-NIEUN;23SSANGNIEUN;17SSANGMIEUM",
   "17MIEUM-PIEUP-SIOS;23CIEUC;17PIEUP-TIKEUT;23RIEUL-PHIEUPH;23MIEUM;17SSANGPIEUP",
   "17PIEUP-SIOS-TIKEUT;23CIEUC;24HIEUCH;17SIOS-MIEUM;22KAPYEOUNPIEUP;18SANGSIOS-KIYEOK;27TIKEUT",
   "18IOS-PANSIOS;22CIEUC;23HIEUCH;22THIEUTH;22HIEUH;17PANSIOS-PIEUP;25KAPYEOUNPIEUP",
   "17YESIEUNG-MIEUM;26HIEUH;17CIEUC-PIEUP;23SSANGPIEUP;17SSANGCIEUC;17PHIEUPH-SIOS;25THIEUTH",
   "+f900;00CJK COMPATIBILITY IDEOGRAPH-F900;311;312;313;314;315;316;317;318;319;31A;31B;31C;31D",
   "31E;31F;3010;311;312;313;314;315;316;317;318;319;31A;31B;31C;31D;31E;31F;3020;311;312;313;314",
   "315;316;317;318;319;31A;31B;31C;31D;31E;31F;3030;311;312;313;314;315;316;317;318;319;31A;31B",
   "31C;31D;31E;31F;3040;311;312;313;314;315;316;317;318;319;31A;31B;31C;31D;31E;31F;3050;311;312",
   "313;314;315;316;317;318;319;31A;31B;31C;31D;31E;31F;3060;311;312;313;314;315;316;317;318;319",
   "31A;31B;31C;31D;31E;31F;3070;311;312;313;314;315;316;317;318;319;31A;31B;31C;31D;31E;31F;3080",
   "311;312;313;314;315;316;317;318;319;31A;31B;31C;31D;31E;31F;3090;311;312;313;314;315;316;317",
   "318;319;31A;31B;31C;31D;31E;31F;30A0;311;312;313;314;315;316;317;318;319;31A;31B;31C;31D;31E",
   "31F;30B0;311;312;313;314;315;316;317;318;319;31A;31B;31C;31D;31E;31F;30C0;311;312;313;314;315",
   "316;317;318;319;31A;31B;31C;31D;31E;31F;30D0;311;312;313;314;315;316;317;318;319;31A;31B;31C",
   "31D;31E;31F;30E0;311;312;313;314;315;316;317;318;319;31A;31B;31C;31D;31E;31F;30F0;311;312;313",
   "314;315;316;317;318;319;31A;31B;31C;31D;31E;31F;29A00;311;312;313;314;315;316;317;318;319;31A",
   "31B;31C;31D;31E;31F;3010;311;312;313;314;315;316;317;318;319;31A;31B;31C;31D;31E;31F;3020;311",
   "312;313;314;315;316;317;318;319;31A;31B;31C;31D;31E;31F;3030;311;312;313;314;315;316;317;318",
   "319;31A;31B;31C;31D;31E;31F;3040;311;312;313;314;315;316;317;318;319;31A;31B;31C;31D;31E;31F",
   "3050;311;312;313;314;315;316;317;318;319;31A;31B;31C;31D;31E;31F;3060;311;312;313;314;315;316",
   "317;318;319;31A;31B;31C;31D;+fa70;3070;311;312;313;314;315;316;317;318;319;31A;31B;31C;31D;31E",
   "31F;3080;311;312;313;314;315;316;317;318;319;31A;31B;31C;31D;31E;31F;3090;311;312;313;314;315",
   "316;317;318;319;31A;31B;31C;31D;31E;31F;30A0;311;312;313;314;315;316;317;318;319;31A;31B;31C",
   "31D;31E;31F;30B0;311;312;313;314;315;316;317;318;319;31A;31B;31C;31D;31E;31F;30C0;311;312;313",
   "314;315;316;317;318;319;31A;31B;31C;31D;31E;31F;30D0;311;312;313;314;315;316;317;318;319;+fb00",
   "00LATIN SMALL LIGATURE FF;22I;22L;22FI;23L;21LONG S T;21ST;+fb13",
   "00ARMENIAN SMALL LIGATURE MEN NOW;28ECH;28INI;24VEW NOW;24MEN XEH;+fb1d",
   "00HEBREW LETTER YOD WITH HIRIQ;07POINT JUDEO-SPANISH VARIKA;07LIGATURE YIDDISH YOD YOD PATAH",
   "08ETTER ALTERNATIVE AYIN;14WIDE ALEF;19DALET;19HE;19KAF;19LAMED;19FINAL MEM;19RESH;19TAV",
   "14ALTERNATIVE PLUS SIGN;14SHIN WITH SHIN DOT;25IN DOT;24DAGESH AND SHIN DOT;36IN DOT",
   "14ALEF WITH PATAH;24QAMATS;24MAPIQ;14BET WITH DAGESH;14GIMEL WITH DAGESH;14DALET WITH DAGESH",
   "14HE WITH MAPIQ;14VAV WITH DAGESH;14ZAYIN WITH DAGESH;+fb38;14TET WITH DAGESH",
   "14YOD WITH DAGESH;14FINAL KAF WITH DAGESH;14KAF WITH DAGESH;14LAMED WITH DAGESH;+fb3e",
   "14MEM WITH DAGESH;+fb40;14NUN WITH DAGESH;14SAMEKH WITH DAGESH;+fb43;14FINAL PE WITH DAGESH",
   "14PE WITH DAGESH;+fb46;14TSADI WITH DAGESH;14QOF WITH DAGESH;14RESH WITH DAGESH",
   "14SHIN WITH DAGESH;14TAV WITH DAGESH;14VAV WITH HOLAM;14BET WITH RAFE;14KAF WITH RAFE",
   "14PE WITH RAFE;08IGATURE ALEF LAMED;00ARABIC LETTER ALEF WASLA ISOLATED FORM;25FINAL FORM",
   "14BEEH ISOLATED FORM;19FINAL FORM;19INITIAL FORM;19MEDIAL FORM;14PEH ISOLATED FORM",
   "18FINAL FORM;18INITIAL FORM;18MEDIAL FORM;14BEHEH ISOLATED FORM;20FINAL FORM;20INITIAL FORM",
   "20MEDIAL FORM;14TTEHEH ISOLATED FORM;21FINAL FORM;21INITIAL FORM;21MEDIAL FORM",
   "15EHEH ISOLATED FORM;20FINAL FORM;20INITIAL FORM;20MEDIAL FORM;15TEH ISOLATED FORM",
   "19FINAL FORM;19INITIAL FORM;19MEDIAL FORM;14VEH ISOLATED FORM;18FINAL FORM;18INITIAL FORM",
   "18MEDIAL FORM;14PEHEH ISOLATED FORM;20FINAL FORM;20INITIAL FORM;20MEDIAL FORM",
   "14DYEH ISOLATED FORM;19FINAL FORM;19INITIAL FORM;19MEDIAL FORM;14NYEH ISOLATED FORM",
   "19FINAL FORM;19INITIAL FORM;19MEDIAL FORM;14TCHEH ISOLATED FORM;20FINAL FORM;20INITIAL FORM",
   "20MEDIAL FORM;19EH ISOLATED FORM;22FINAL FORM;22INITIAL FORM;22MEDIAL FORM",
   "14DDAHAL ISOLATED FORM;21FINAL FORM;15AHAL ISOLATED FORM;20FINAL FORM;15UL ISOLATED FORM",
   "18FINAL FORM;15DAL ISOLATED FORM;19FINAL FORM;14JEH ISOLATED FORM;18FINAL FORM",
   "14RREH ISOLATED FORM;19FINAL FORM;14KEHEH ISOLATED FORM;20FINAL FORM;20INITIAL FORM",
   "20MEDIAL FORM;14GAF ISOLATED FORM;18FINAL FORM;18INITIAL FORM;18MEDIAL FORM",
   "15UEH ISOLATED FORM;19FINAL FORM;19INITIAL FORM;19MEDIAL FORM;14NGOEH ISOLATED FORM",
   "20FINAL FORM;20INITIAL FORM;20MEDIAL FORM;15OON GHUNNA ISOLATED FORM;26FINAL FORM",
   "14RNOON ISOLATED FORM;20FINAL FORM;20INITIAL FORM;20MEDIAL FORM",
   "14HEH WITH YEH ABOVE ISOLATED FORM;33FINAL FORM;18GOAL ISOLATED FORM;23FINAL FORM",
   "23INITIAL FORM;23MEDIAL FORM;18DOACHASHMEE ISOLATED FORM;30FINAL FORM;30INITIAL FORM",
   "30MEDIAL FORM;14YEH BARREE ISOLATED FORM;25FINAL FORM;25WITH HAMZA ABOVE ISOLATED FORM",
   "42FINAL FORM;07SYMBOL DOT ABOVE;18BELOW;14TWO DOTS ABOVE;23BELOW;15HREE DOTS ABOVE;25BELOW",
   "25POINTING DOWNWARDS ABOVE;44BELOW;14FOUR DOTS ABOVE;24BELOW;14DOUBLE VERTICAL BAR BELOW",
   "14TWO DOTS VERTICALLY ABOVE;34BELOW;14RING;14SMALL TAH ABOVE;24BELOW;14WASLA ABOVE;+fbd3",
   "07LETTER NG ISOLATED FORM;17FINAL FORM;17INITIAL FORM;17MEDIAL FORM;14U ISOLATED FORM",
   "16FINAL FORM;14OE ISOLATED FORM;17FINAL FORM;14YU ISOLATED FORM;17FINAL FORM",
   "14U WITH HAMZA ABOVE ISOLATED FORM;14VE ISOLATED FORM;17FINAL FORM;14KIRGHIZ OE ISOLATED FORM",
   "25FINAL FORM;22YU ISOLATED FORM;25FINAL FORM;14E ISOLATED FORM;16FINAL FORM;16INITIAL FORM",
   "16MEDIAL FORM;14UIGHUR KAZAKH KIRGHIZ ALEF MAKSURA INITIAL FORM;49MEDIAL FORM",
   "08IGATURE YEH WITH HAMZA ABOVE WITH ALEF ISOLATED FORM;47FINAL FORM;43E ISOLATED FORM",
   "45FINAL FORM;42WAW ISOLATED FORM;46FINAL FORM;42U ISOLATED FORM;44FINAL FORM",
   "42OE ISOLATED FORM;45FINAL FORM;42YU ISOLATED FORM;45FINAL FORM;42E ISOLATED FORM;44FINAL FORM",
   "44INITIAL FORM;16UIGHUR KIRGHIZ YEH WITH HAMZA ABOVE WITH ALEF MAKSURA ISOLATED FORM",
   "70FINAL FORM;70INITIAL FORM;08ETTER FARSI YEH ISOLATED FORM;24FINAL FORM;24INITIAL FORM",
   "24MEDIAL FORM;08IGATURE YEH WITH HAMZA ABOVE WITH JEEM ISOLATED FORM;42HAH ISOLATED FORM",
   "42MEEM ISOLATED FORM;42ALEF MAKSURA ISOLATED FORM;42YEH ISOLATED FORM",
   "16BEH WITH JEEM ISOLATED FORM;25HAH ISOLATED FORM;25KHAH ISOLATED FORM;25MEEM ISOLATED FORM",
   "25ALEF MAKSURA ISOLATED FORM;25YEH ISOLATED FORM;16TEH WITH JEEM ISOLATED FORM",
   "25HAH ISOLATED FORM;25KHAH ISOLATED FORM;25MEEM ISOLATED FORM;25ALEF MAKSURA ISOLATED FORM",
   "25YEH ISOLATED FORM;17HEH WITH JEEM ISOLATED FORM;26MEEM ISOLATED FORM",
   "26ALEF MAKSURA ISOLATED FORM;26YEH ISOLATED FORM;16JEEM WITH HAH ISOLATED FORM",
   "26MEEM ISOLATED FORM;16HAH WITH JEEM ISOLATED FORM;25MEEM ISOLATED FORM",
   "16KHAH WITH JEEM ISOLATED FORM;26HAH ISOLATED FORM;26MEEM ISOLATED FORM",
   "16SEEN WITH JEEM ISOLATED FORM;26HAH ISOLATED FORM;26KHAH ISOLATED FORM;26MEEM ISOLATED FORM",
   "17AD WITH HAH ISOLATED FORM;25MEEM ISOLATED FORM;16DAD WITH JEEM ISOLATED FORM",
   "25HAH ISOLATED FORM;25KHAH ISOLATED FORM;25MEEM ISOLATED FORM;16TAH WITH HAH ISOLATED FORM",
   "25MEEM ISOLATED FORM;16ZAH WITH MEEM ISOLATED FORM;16AIN WITH JEEM ISOLATED FORM",
   "25MEEM ISOLATED FORM;16GHAIN WITH JEEM ISOLATED FORM;27MEEM ISOLATED FORM",
   "16FEH WITH JEEM ISOLATED FORM;25HAH ISOLATED FORM;25KHAH ISOLATED FORM;25MEEM ISOLATED FORM",
   "25ALEF MAKSURA ISOLATED FORM;25YEH ISOLATED FORM;16QAF WITH HAH ISOLATED FORM",
   "25MEEM ISOLATED FORM;25ALEF MAKSURA ISOLATED FORM;25YEH ISOLATED FORM",
   "16KAF WITH ALEF ISOLATED FORM;25JEEM ISOLATED FORM;25HAH ISOLATED FORM;25KHAH ISOLATED FORM",
   "25LAM ISOLATED FORM;25MEEM ISOLATED FORM;25ALEF MAKSURA ISOLATED FORM;25YEH ISOLATED FORM",
   "16LAM WITH JEEM ISOLATED FORM;25HAH ISOLATED FORM;25KHAH ISOLATED FORM;25MEEM ISOLATED FORM",
   "25ALEF MAKSURA ISOLATED FORM;25YEH ISOLATED FORM;16MEEM WITH JEEM ISOLATED FORM",
   "26HAH ISOLATED FORM;26KHAH ISOLATED FORM;26MEEM ISOLATED FORM;26ALEF MAKSURA ISOLATED FORM",
   "26YEH ISOLATED FORM;16NOON WITH JEEM ISOLATED FORM;26HAH ISOLATED FORM;26KHAH ISOLATED FORM",
   "26MEEM ISOLATED FORM;26ALEF MAKSURA ISOLATED FORM;26YEH ISOLATED FORM",
   "16HEH WITH JEEM ISOLATED FORM;25MEEM ISOLATED FORM;25ALEF MAKSURA ISOLATED FORM",
   "25YEH ISOLATED FORM;16YEH WITH JEEM ISOLATED FORM;25HAH ISOLATED FORM;25KHAH ISOLATED FORM",
   "25MEEM ISOLATED FORM;25ALEF MAKSURA ISOLATED FORM;25YEH ISOLATED FORM",
   "16THAL WITH SUPERSCRIPT ALEF ISOLATED FORM;16REH WITH SUPERSCRIPT ALEF ISOLATED FORM",
   "16ALEF MAKSURA WITH SUPERSCRIPT ALEF ISOLATED FORM;16SHADDA WITH DAMMATAN ISOLATED FORM",
   "28KASRATAN ISOLATED FORM;28FATHA ISOLATED FORM;28DAMMA ISOLATED FORM;28KASRA ISOLATED FORM",
   "28SUPERSCRIPT ALEF ISOLATED FORM;16YEH WITH HAMZA ABOVE WITH REH FINAL FORM;42ZAIN FINAL FORM",
   "42MEEM FINAL FORM;42NOON FINAL FORM;42ALEF MAKSURA FINAL FORM;42YEH FINAL FORM",
   "16BEH WITH REH FINAL FORM;25ZAIN FINAL FORM;25MEEM FINAL FORM;25NOON FINAL FORM",
   "25ALEF MAKSURA FINAL FORM;25YEH FINAL FORM;16TEH WITH REH FINAL FORM;25ZAIN FINAL FORM",
   "25MEEM FINAL FORM;25NOON FINAL FORM;25ALEF MAKSURA FINAL FORM;25YEH FINAL FORM",
   "17HEH WITH REH FINAL FORM;26ZAIN FINAL FORM;26MEEM FINAL FORM;26NOON FINAL FORM",
   "26ALEF MAKSURA FINAL FORM;26YEH FINAL FORM;16FEH WITH ALEF MAKSURA FINAL FORM;25YEH FINAL FORM",
   "16QAF WITH ALEF MAKSURA FINAL FORM;25YEH FINAL FORM;16KAF WITH ALEF FINAL FORM",
   "25LAM FINAL FORM;25MEEM FINAL FORM;25ALEF MAKSURA FINAL FORM;25YEH FINAL FORM",
   "16LAM WITH MEEM FINAL FORM;25ALEF MAKSURA FINAL FORM;25YEH FINAL FORM",
   "16MEEM WITH ALEF FINAL FORM;26MEEM FINAL FORM;16NOON WITH REH FINAL FORM;26ZAIN FINAL FORM",
   "26MEEM FINAL FORM;26NOON FINAL FORM;26ALEF MAKSURA FINAL FORM;26YEH FINAL FORM",
   "16ALEF MAKSURA WITH SUPERSCRIPT ALEF FINAL FORM;16YEH WITH REH FINAL FORM;25ZAIN FINAL FORM",
   "25MEEM FINAL FORM;25NOON FINAL FORM;25ALEF MAKSURA FINAL FORM;25YEH FINAL FORM",
   "25HAMZA ABOVE WITH JEEM INITIAL FORM;42HAH INITIAL FORM;42KHAH INITIAL FORM",
   "42MEEM INITIAL FORM;42HEH INITIAL FORM;16BEH WITH JEEM INITIAL FORM;25HAH INITIAL FORM",
   "25KHAH INITIAL FORM;25MEEM INITIAL FORM;25HEH INITIAL FORM;16TEH WITH JEEM INITIAL FORM",
   "25HAH INITIAL FORM;25KHAH INITIAL FORM;25MEEM INITIAL FORM;25HEH INITIAL FORM",
   "17HEH WITH MEEM INITIAL FORM;16JEEM WITH HAH INITIAL FORM;26MEEM INITIAL FORM",
   "16HAH WITH JEEM INITIAL FORM;25MEEM INITIAL FORM;16KHAH WITH JEEM INITIAL FORM",
   "26MEEM INITIAL FORM;16SEEN WITH JEEM INITIAL FORM;26HAH INITIAL FORM;26KHAH INITIAL FORM",
   "26MEEM INITIAL FORM;17AD WITH HAH INITIAL FORM;25KHAH INITIAL FORM;25MEEM INITIAL FORM",
   "16DAD WITH JEEM INITIAL FORM;25HAH INITIAL FORM;25KHAH INITIAL FORM;25MEEM INITIAL FORM",
   "16TAH WITH HAH INITIAL FORM;16ZAH WITH MEEM INITIAL FORM;16AIN WITH JEEM INITIAL FORM",
   "25MEEM INITIAL FORM;16GHAIN WITH JEEM INITIAL FORM;27MEEM INITIAL FORM",
   "16FEH WITH JEEM INITIAL FORM;25HAH INITIAL FORM;25KHAH INITIAL FORM;25MEEM INITIAL FORM",
   "16QAF WITH HAH INITIAL FORM;25MEEM INITIAL FORM;16KAF WITH JEEM INITIAL FORM",
   "25HAH INITIAL FORM;25KHAH INITIAL FORM;25LAM INITIAL FORM;25MEEM INITIAL FORM",
   "16LAM WITH JEEM INITIAL FORM;25HAH INITIAL FORM;25KHAH INITIAL FORM;25MEEM INITIAL FORM",
   "25HEH INITIAL FORM;16MEEM WITH JEEM INITIAL FORM;26HAH INITIAL FORM;26KHAH INITIAL FORM",
   "26MEEM INITIAL FORM;16NOON WITH JEEM INITIAL FORM;26HAH INITIAL FORM;26KHAH INITIAL FORM",
   "26MEEM INITIAL FORM;26HEH INITIAL FORM;16HEH WITH JEEM INITIAL FORM;25MEEM INITIAL FORM",
   "25SUPERSCRIPT ALEF INITIAL FORM;16YEH WITH JEEM INITIAL FORM;25HAH INITIAL FORM",
   "25KHAH INITIAL FORM;25MEEM INITIAL FORM;25HEH INITIAL FORM;26AMZA ABOVE WITH MEEM MEDIAL FORM",
   "42HEH MEDIAL FORM;16BEH WITH MEEM MEDIAL FORM;25HEH MEDIAL FORM;16TEH WITH MEEM MEDIAL FORM",
   "25HEH MEDIAL FORM;17HEH WITH MEEM MEDIAL FORM;26HEH MEDIAL FORM;16SEEN WITH MEEM MEDIAL FORM",
   "26HEH MEDIAL FORM;17HEEN WITH MEEM MEDIAL FORM;27HEH MEDIAL FORM;16KAF WITH LAM MEDIAL FORM",
   "25MEEM MEDIAL FORM;16LAM WITH MEEM MEDIAL FORM;16NOON WITH MEEM MEDIAL FORM;26HEH MEDIAL FORM",
   "16YEH WITH MEEM MEDIAL FORM;25HEH MEDIAL FORM;16SHADDA WITH FATHA MEDIAL FORM",
   "28DAMMA MEDIAL FORM;28KASRA MEDIAL FORM;16TAH WITH ALEF MAKSURA ISOLATED FORM",
   "25YEH ISOLATED FORM;16AIN WITH ALEF MAKSURA ISOLATED FORM;25YEH ISOLATED FORM",
   "16GHAIN WITH ALEF MAKSURA ISOLATED FORM;27YEH ISOLATED FORM",
   "16SEEN WITH ALEF MAKSURA ISOLATED FORM;26YEH ISOLATED FORM",
   "17HEEN WITH ALEF MAKSURA ISOLATED FORM;27YEH ISOLATED FORM",
   "16HAH WITH ALEF MAKSURA ISOLATED FORM;25YEH ISOLATED FORM",
   "16JEEM WITH ALEF MAKSURA ISOLATED FORM;26YEH ISOLATED FORM",
   "16KHAH WITH ALEF MAKSURA ISOLATED FORM;26YEH ISOLATED FORM",
   "16SAD WITH ALEF MAKSURA ISOLATED FORM;25YEH ISOLATED FORM",
   "16DAD WITH ALEF MAKSURA ISOLATED FORM;25YEH ISOLATED FORM;16SHEEN WITH JEEM ISOLATED FORM",
   "27HAH ISOLATED FORM;27KHAH ISOLATED FORM;27MEEM ISOLATED FORM;27REH ISOLATED FORM",
   "17EEN WITH REH ISOLATED FORM;17AD WITH REH ISOLATED FORM;16DAD WITH REH ISOLATED FORM",
   "16TAH WITH ALEF MAKSURA FINAL FORM;25YEH FINAL FORM;16AIN WITH ALEF MAKSURA FINAL FORM",
   "25YEH FINAL FORM;16GHAIN WITH ALEF MAKSURA FINAL FORM;27YEH FINAL FORM",
   "16SEEN WITH ALEF MAKSURA FINAL FORM;26YEH FINAL FORM;17HEEN WITH ALEF MAKSURA FINAL FORM",
   "27YEH FINAL FORM;16HAH WITH ALEF MAKSURA FINAL FORM;25YEH FINAL FORM",
   "16JEEM WITH ALEF MAKSURA FINAL FORM;26YEH FINAL FORM;16KHAH WITH ALEF MAKSURA FINAL FORM",
   "26YEH FINAL FORM;16SAD WITH ALEF MAKSURA FINAL FORM;25YEH FINAL FORM",
   "16DAD WITH ALEF MAKSURA FINAL FORM;25YEH FINAL FORM;16SHEEN WITH JEEM FINAL FORM",
   "27HAH FINAL FORM;27KHAH FINAL FORM;27MEEM FINAL FORM;27REH FINAL FORM",
   "17EEN WITH REH FINAL FORM;17AD WITH REH FINAL FORM;16DAD WITH REH FINAL FORM",
   "16SHEEN WITH JEEM INITIAL FORM;27HAH INITIAL FORM;27KHAH INITIAL FORM;27MEEM INITIAL FORM",
   "17EEN WITH HEH INITIAL FORM;17HEEN WITH HEH INITIAL FORM;16TAH WITH MEEM INITIAL FORM",
   "16SEEN WITH JEEM MEDIAL FORM;26HAH MEDIAL FORM;26KHAH MEDIAL FORM;17HEEN WITH JEEM MEDIAL FORM",
   "27HAH MEDIAL FORM;27KHAH MEDIAL FORM;16TAH WITH MEEM MEDIAL FORM;16ZAH WITH MEEM MEDIAL FORM",
   "16ALEF WITH FATHATAN FINAL FORM;35ISOLATED FORM;00ORNATE LEFT PARENTHESIS;07RIGHT PARENTHESIS",
   "00ARABIC LIGATURE RAHIMAHU ALLAAH;18DI ALLAAHU ANH;32AA;32UM;34AA;33NNA",
   "16SALLALLAAHU ALAYHI WA-AALIH;16ALAYHI AS-SALAAM;22M AS-SALAAM;23AA AS-SALAAM",
   "22 AS-SALAATU WAS-SALAAM;16QUDDISA SIRRAH;16SALLALLAHU ALAYHI WAAALIHEE WA-SALLAM",
   "16ALAYHAA AS-SALAAM;16TABAARAKA WA-TAAALAA;16RAHIMAHUM ALLAAH",
   "16TEH WITH JEEM WITH MEEM INITIAL FORM;25HAH WITH JEEM FINAL FORM;39INITIAL FORM",
   "34MEEM INITIAL FORM;25KHAH WITH MEEM INITIAL FORM;25MEEM WITH JEEM INITIAL FORM",
   "35HAH INITIAL FORM;35KHAH INITIAL FORM;16JEEM WITH MEEM WITH HAH FINAL FORM;40INITIAL FORM",
   "16HAH WITH MEEM WITH YEH FINAL FORM;35ALEF MAKSURA FINAL FORM",
   "16SEEN WITH HAH WITH JEEM INITIAL FORM;26JEEM WITH HAH INITIAL FORM;36ALEF MAKSURA FINAL FORM",
   "26MEEM WITH HAH FINAL FORM;40INITIAL FORM;36JEEM INITIAL FORM;36MEEM FINAL FORM;41INITIAL FORM",
   "17AD WITH HAH WITH HAH FINAL FORM;38INITIAL FORM;25MEEM WITH MEEM FINAL FORM",
   "17HEEN WITH HAH WITH MEEM FINAL FORM;41INITIAL FORM;27JEEM WITH YEH FINAL FORM",
   "27MEEM WITH KHAH FINAL FORM;42INITIAL FORM;37MEEM FINAL FORM;42INITIAL FORM",
   "16DAD WITH HAH WITH ALEF MAKSURA FINAL FORM;25KHAH WITH MEEM FINAL FORM;40INITIAL FORM",
   "16TAH WITH MEEM WITH HAH FINAL FORM;39INITIAL FORM;35MEEM INITIAL FORM;35YEH FINAL FORM",
   "16AIN WITH JEEM WITH MEEM FINAL FORM;25MEEM WITH MEEM FINAL FORM;40INITIAL FORM",
   "35ALEF MAKSURA FINAL FORM;16GHAIN WITH MEEM WITH MEEM FINAL FORM;37YEH FINAL FORM",
   "37ALEF MAKSURA FINAL FORM;16FEH WITH KHAH WITH MEEM FINAL FORM;40INITIAL FORM",
   "16QAF WITH MEEM WITH HAH FINAL FORM;35MEEM FINAL FORM;16LAM WITH HAH WITH MEEM FINAL FORM",
   "34YEH FINAL FORM;34ALEF MAKSURA FINAL FORM;25JEEM WITH JEEM INITIAL FORM;40FINAL FORM",
   "25KHAH WITH MEEM FINAL FORM;40INITIAL FORM;25MEEM WITH HAH FINAL FORM;39INITIAL FORM",
   "16MEEM WITH HAH WITH JEEM INITIAL FORM;35MEEM INITIAL FORM;35YEH FINAL FORM",
   "26JEEM WITH HAH INITIAL FORM;36MEEM INITIAL FORM;26KHAH WITH JEEM INITIAL FORM",
   "36MEEM INITIAL FORM;+fd92;26JEEM WITH KHAH INITIAL FORM;16HEH WITH MEEM WITH JEEM INITIAL FORM",
   "35MEEM INITIAL FORM;16NOON WITH HAH WITH MEEM INITIAL FORM;35ALEF MAKSURA FINAL FORM",
   "26JEEM WITH MEEM FINAL FORM;41INITIAL FORM;36ALEF MAKSURA FINAL FORM",
   "26MEEM WITH YEH FINAL FORM;36ALEF MAKSURA FINAL FORM;16YEH WITH MEEM WITH MEEM FINAL FORM",
   "40INITIAL FORM;16BEH WITH KHAH WITH YEH FINAL FORM;16TEH WITH JEEM WITH YEH FINAL FORM",
   "35ALEF MAKSURA FINAL FORM;25KHAH WITH YEH FINAL FORM;35ALEF MAKSURA FINAL FORM",
   "25MEEM WITH YEH FINAL FORM;35ALEF MAKSURA FINAL FORM;16JEEM WITH MEEM WITH YEH FINAL FORM",
   "26HAH WITH ALEF MAKSURA FINAL FORM;26MEEM WITH ALEF MAKSURA FINAL FORM",
   "16SEEN WITH KHAH WITH ALEF MAKSURA FINAL FORM;17AD WITH HAH WITH YEH FINAL FORM",
   "17HEEN WITH HAH WITH YEH FINAL FORM;16DAD WITH HAH WITH YEH FINAL FORM",
   "16LAM WITH JEEM WITH YEH FINAL FORM;25MEEM WITH YEH FINAL FORM",
   "16YEH WITH HAH WITH YEH FINAL FORM;25JEEM WITH YEH FINAL FORM;25MEEM WITH YEH FINAL FORM",
   "16MEEM WITH MEEM WITH YEH FINAL FORM;16QAF WITH MEEM WITH YEH FINAL FORM",
   "16NOON WITH HAH WITH YEH FINAL FORM;16QAF WITH MEEM WITH HAH INITIAL FORM",
   "16LAM WITH HAH WITH MEEM INITIAL FORM;16AIN WITH MEEM WITH YEH FINAL FORM",
   "16KAF WITH MEEM WITH YEH FINAL FORM;16NOON WITH JEEM WITH HAH INITIAL FORM",
   "16MEEM WITH KHAH WITH YEH FINAL FORM;16LAM WITH JEEM WITH MEEM INITIAL FORM",
   "16KAF WITH MEEM WITH MEEM FINAL FORM;16LAM WITH JEEM WITH MEEM FINAL FORM",
   "16NOON WITH JEEM WITH HAH FINAL FORM;16JEEM WITH HAH WITH YEH FINAL FORM",
   "16HAH WITH JEEM WITH YEH FINAL FORM;16MEEM WITH JEEM WITH YEH FINAL FORM",
   "16FEH WITH MEEM WITH YEH FINAL FORM;16BEH WITH HAH WITH YEH FINAL FORM",
   "16KAF WITH MEEM WITH MEEM INITIAL FORM;16AIN WITH JEEM WITH MEEM INITIAL FORM",
   "16SAD WITH MEEM WITH MEEM INITIAL FORM;17EEN WITH KHAH WITH YEH FINAL FORM",
   "16NOON WITH JEEM WITH YEH FINAL FORM;+fdcf;16SALAAMUHU ALAYNAA;+fdf0",
   "19LA USED AS KORANIC STOP SIGN ISOLATED FORM;16QALA USED AS KORANIC STOP SIGN ISOLATED FORM",
   "16ALLAH ISOLATED FORM;17KBAR ISOLATED FORM;16MOHAMMAD ISOLATED FORM;16SALAM ISOLATED FORM",
   "16RASOUL ISOLATED FORM;16ALAYHE ISOLATED FORM;16WASALLAM ISOLATED FORM;16SALLA ISOLATED FORM",
   "21LLAHOU ALAYHE WASALLAM;16JALLAJALALOUHOU;00RIAL SIGN",
   "00ARABIC LIGATURE BISMILLAH AR-RAHMAN AR-RAHEEM;16SUBHAANAHU WA TAAALAA;16AZZA WA JALL",
   "00VARIATION SELECTOR-1;192;193;194;195;196;197;198;199;1910;201;202;203;204;205;206",
   "00PRESENTATION FORM FOR VERTICAL COMMA;31IDEOGRAPHIC COMMA;43FULL STOP;31COLON;31SEMICOLON",
   "31EXCLAMATION MARK;31QUESTION MARK;31LEFT WHITE LENTICULAR BRACKET",
   "31RIGHT WHITE LENTICULAR BRAKCET;31HORIZONTAL ELLIPSIS;+fe20;00COMBINING LIGATURE LEFT HALF",
   "19RIGHT HALF;10DOUBLE TILDE LEFT HALF;23RIGHT HALF;10MACRON LEFT HALF;17RIGHT HALF",
   "10CONJOINING MACRON;10LIGATURE LEFT HALF BELOW;19RIGHT HALF BELOW;10TILDE LEFT HALF BELOW",
   "16RIGHT HALF BELOW;10MACRON LEFT HALF BELOW;17RIGHT HALF BELOW;10CONJOINING MACRON BELOW",
   "11YRILLIC TITLO LEFT HALF;25RIGHT HALF;00PRESENTATION FORM FOR VERTICAL TWO DOT LEADER",
   "31EM DASH;32N DASH;31LOW LINE;31WAVY LOW LINE;31LEFT PARENTHESIS;31RIGHT PARENTHESIS",
   "31LEFT CURLY BRACKET;31RIGHT CURLY BRACKET;31LEFT TORTOISE SHELL BRACKET",
   "31RIGHT TORTOISE SHELL BRACKET;31LEFT BLACK LENTICULAR BRACKET",
   "31RIGHT BLACK LENTICULAR BRACKET;31LEFT DOUBLE ANGLE BRACKET;31RIGHT DOUBLE ANGLE BRACKET",
   "31LEFT ANGLE BRACKET;31RIGHT ANGLE BRACKET;31LEFT CORNER BRACKET;31RIGHT CORNER BRACKET",
   "31LEFT WHITE CORNER BRACKET;31RIGHT WHITE CORNER BRACKET;00SESAME DOT;00WHITE SESAME DOT",
   "00PRESENTATION FORM FOR VERTICAL LEFT SQUARE BRACKET;31RIGHT SQUARE BRACKET;00DASHED OVERLINE",
   "00CENTRELINE OVERLINE;00WAVY OVERLINE;00DOUBLE WAVY OVERLINE;01ASHED LOW LINE",
   "00CENTRELINE LOW LINE;00WAVY LOW LINE;00SMALL COMMA;06IDEOGRAPHIC COMMA;06FULL STOP;+fe54",
   "06SEMICOLON;06COLON;06QUESTION MARK;06EXCLAMATION MARK;07M DASH;06LEFT PARENTHESIS",
   "06RIGHT PARENTHESIS;06LEFT CURLY BRACKET;06RIGHT CURLY BRACKET;06LEFT TORTOISE SHELL BRACKET",
   "06RIGHT TORTOISE SHELL BRACKET;06NUMBER SIGN;06AMPERSAND;07STERISK;06PLUS SIGN;06HYPHEN-MINUS",
   "06LESS-THAN SIGN;06GREATER-THAN SIGN;06EQUALS SIGN;+fe68;06REVERSE SOLIDUS;06DOLLAR SIGN",
   "06PERCENT SIGN;06COMMERCIAL AT;+fe70;00ARABIC FATHATAN ISOLATED FORM",
   "07TATWEEL WITH FATHATAN ABOVE;07DAMMATAN ISOLATED FORM;07TAIL FRAGMENT",
   "07KASRATAN ISOLATED FORM;+fe76;07FATHA ISOLATED FORM;13MEDIAL FORM;07DAMMA ISOLATED FORM",
   "13MEDIAL FORM;07KASRA ISOLATED FORM;13MEDIAL FORM;07SHADDA ISOLATED FORM;14MEDIAL FORM",
   "08UKUN ISOLATED FORM;13MEDIAL FORM;07LETTER HAMZA ISOLATED FORM",
   "14ALEF WITH MADDA ABOVE ISOLATED FORM;36FINAL FORM;24HAMZA ABOVE ISOLATED FORM;36FINAL FORM",
   "14WAW WITH HAMZA ABOVE ISOLATED FORM;35FINAL FORM;14ALEF WITH HAMZA BELOW ISOLATED FORM",
   "36FINAL FORM;14YEH WITH HAMZA ABOVE ISOLATED FORM;35FINAL FORM;35INITIAL FORM;35MEDIAL FORM",
   "14ALEF ISOLATED FORM;19FINAL FORM;14BEH ISOLATED FORM;18FINAL FORM;18INITIAL FORM",
   "18MEDIAL FORM;14TEH MARBUTA ISOLATED FORM;26FINAL FORM;18ISOLATED FORM;18FINAL FORM",
   "18INITIAL FORM;18MEDIAL FORM;15HEH ISOLATED FORM;19FINAL FORM;19INITIAL FORM;19MEDIAL FORM",
   "14JEEM ISOLATED FORM;19FINAL FORM;19INITIAL FORM;19MEDIAL FORM;14HAH ISOLATED FORM",
   "18FINAL FORM;18INITIAL FORM;18MEDIAL FORM;14KHAH ISOLATED FORM;19FINAL FORM;19INITIAL FORM",
   "19MEDIAL FORM;14DAL ISOLATED FORM;18FINAL FORM;14THAL ISOLATED FORM;19FINAL FORM",
   "14REH ISOLATED FORM;18FINAL FORM;14ZAIN ISOLATED FORM;19FINAL FORM;14SEEN ISOLATED FORM",
   "19FINAL FORM;19INITIAL FORM;19MEDIAL FORM;15HEEN ISOLATED FORM;20FINAL FORM;20INITIAL FORM",
   "20MEDIAL FORM;15AD ISOLATED FORM;18FINAL FORM;18INITIAL FORM;18MEDIAL FORM;14DAD ISOLATED FORM",
   "18FINAL FORM;18INITIAL FORM;18MEDIAL FORM;14TAH ISOLATED FORM;18FINAL FORM;18INITIAL FORM",
   "18MEDIAL FORM;14ZAH ISOLATED FORM;18FINAL FORM;18INITIAL FORM;18MEDIAL FORM",
   "14AIN ISOLATED FORM;18FINAL FORM;18INITIAL FORM;18MEDIAL FORM;14GHAIN ISOLATED FORM",
   "20FINAL FORM;20INITIAL FORM;20MEDIAL FORM;14FEH ISOLATED FORM;18FINAL FORM;18INITIAL FORM",
   "18MEDIAL FORM;14QAF ISOLATED FORM;18FINAL FORM;18INITIAL FORM;18MEDIAL FORM",
   "14KAF ISOLATED FORM;18FINAL FORM;18INITIAL FORM;18MEDIAL FORM;14LAM ISOLATED FORM;18FINAL FORM",
   "18INITIAL FORM;18MEDIAL FORM;14MEEM ISOLATED FORM;19FINAL FORM;19INITIAL FORM;19MEDIAL FORM",
   "14NOON ISOLATED FORM;19FINAL FORM;19INITIAL FORM;19MEDIAL FORM;14HEH ISOLATED FORM",
   "18FINAL FORM;18INITIAL FORM;18MEDIAL FORM;14WAW ISOLATED FORM;18FINAL FORM",
   "14ALEF MAKSURA ISOLATED FORM;27FINAL FORM;14YEH ISOLATED FORM;18FINAL FORM;18INITIAL FORM",
   "18MEDIAL FORM;08IGATURE LAM WITH ALEF WITH MADDA ABOVE ISOLATED FORM;47FINAL FORM",
   "35HAMZA ABOVE ISOLATED FORM;47FINAL FORM;41BELOW ISOLATED FORM;47FINAL FORM;30ISOLATED FORM",
   "30FINAL FORM;+feff;00ZERO WIDTH NO-BREAK SPACE;+ff01;00FULLWIDTH EXCLAMATION MARK",
   "10QUOTATION MARK;10NUMBER SIGN;10DOLLAR SIGN;10PERCENT SIGN;10AMPERSAND;11POSTROPHE",
   "10LEFT PARENTHESIS;10RIGHT PARENTHESIS;10ASTERISK;10PLUS SIGN;10COMMA;10HYPHEN-MINUS",
   "10FULL STOP;10SOLIDUS;10DIGIT ZERO;16ONE;16TWO;17HREE;16FOUR;17IVE;16SIX;17EVEN;16EIGHT;16NINE",
   "10COLON;10SEMICOLON;10LESS-THAN SIGN;10EQUALS SIGN;10GREATER-THAN SIGN;10QUESTION MARK",
   "10COMMERCIAL AT;10LATIN CAPITAL LETTER A;31B;31C;31D;31E;31F;31G;31H;31I;31J;31K;31L;31M;31N",
   "31O;31P;31Q;31R;31S;31T;31U;31V;31W;31X;31Y;31Z;11EFT SQUARE BRACKET;10REVERSE SOLIDUS",
   "11IGHT SQUARE BRACKET;10CIRCUMFLEX ACCENT;10LOW LINE;10GRAVE ACCENT;10LATIN SMALL LETTER A;29B",
   "29C;29D;29E;29F;29G;29H;29I;29J;29K;29L;29M;29N;29O;29P;29Q;29R;29S;29T;29U;29V;29W;29X;29Y",
   "29Z;11EFT CURLY BRACKET;10VERTICAL LINE;10RIGHT CURLY BRACKET;10TILDE;10LEFT WHITE PARENTHESIS",
   "10RIGHT WHITE PARENTHESIS;00HALFWIDTH IDEOGRAPHIC FULL STOP;10LEFT CORNER BRACKET",
   "10RIGHT CORNER BRACKET;10IDEOGRAPHIC COMMA;10KATAKANA MIDDLE DOT;19LETTER WO;26SMALL A;32I;32U",
   "32E;32O;32YA;33U;33O;32TU;18-HIRAGANA PROLONGED SOUND MARK;18 LETTER A;26I;26U;26E;26O;26KA",
   "27I;27U;27E;27O;26SA;27I;27U;27E;27O;26TA;27I;27U;27E;27O;26NA;27I;27U;27E;27O;26HA;27I;27U",
   "27E;27O;26MA;27I;27U;27E;27O;26YA;27U;27O;26RA;27I;27U;27E;27O;26WA;26N;19VOICED SOUND MARK",
   "19SEMI-VOICED SOUND MARK;10HANGUL FILLER;17LETTER KIYEOK;24SSANGKIYEOK;24KIYEOK-SIOS;24NIEUN",
   "29-CIEUC;30HIEUH;24TIKEUT;24SSANGTIKEUT;24RIEUL;29-KIYEOK;30MIEUM;30PIEUP;30SIOS;30THIEUTH",
   "30PHIEUPH;30HIEUH;24MIEUM;24PIEUP;24SSANGPIEUP;24PIEUP-SIOS;24SIOS;25SANGSIOS;24IEUNG;24CIEUC",
   "24SSANGCIEUC;24CHIEUCH;24KHIEUKH;24THIEUTH;24PHIEUPH;24HIEUH;+ffc2;24A;25E;24YA;26E;24EO;25",
   "+ffca;24YEO;26;24O;24WA;26E;24OE;+ffd2;24YO;24U;24WEO;26;25I;24YU;+ffda;24EU;24YI;24I;+ffe0",
   "00FULLWIDTH CENT SIGN;10POUND SIGN;10NOT SIGN;10MACRON;10BROKEN BAR;10YEN SIGN;10WON SIGN",
   "+ffe8;00HALFWIDTH FORMS LIGHT VERTICAL;10LEFTWARDS ARROW;10UPWARDS ARROW;10RIGHTWARDS ARROW",
   "10DOWNWARDS ARROW;10BLACK SQUARE;10WHITE CIRCLE;+fff9;00INTERLINEAR ANNOTATION ANCHOR",
   "23SEPARATOR;23TERMINATOR;00OBJECT REPLACEMENT CHARACTER;00REPLACEMENT CHARACTER;+10000",
   "00LINEAR B SYLLABLE B008 A;2038 E;2028 I;2061 O;2010 U;2001 DA;2045 DE;2007 DI;2014 DO;2051 DU",
   "217 JA;2046 JE;+1000d;2036 JO;2065 JU;2077 KA;2044 KE;2067 KI;2070 KO;2081 KU;210 MA;2013 ME",
   "2073 MI;2015 MO;2023 MU;2006 NA;2024 NE;2030 NI;2052 NO;215 NU;2003 PA;2072 PE;2039 PI;2011 PO",
   "2050 PU;2016 QA;2078 QE;2021 QI;2032 QO;+10028;2060 RA;2027 RE;2053 RI;2002 RO;2026 RU;2031 SA",
   "2009 SE;2041 SI;2012 SO;2058 SU;219 TA;2004 TE;2037 TI;2005 TO;2069 TU;2054 WA;2075 WE;2040 WI",
   "212 WO;+1003c;2017 ZA;2074 ZE;+1003f;2020 ZO;215 A2;2043 A3;2085 AU;2071 DWE;2090 DWO;2048 NWA",
   "2029 PU2;2062 PTE;2076 RA2;2033 RA3;2068 RO2;216 TA2;2087 TWE;2091 TWO;+10050;11MBOL B018;199",
   "1822;1834;1847;199;1856;1863;194;1879;1882;193;196;199;+10080;09IDEOGRAM B100 MAN;212 WOMAN",
   "214 DEER;215 EQUID;22F MARE;22M STALLION;216F EWE;22M RAM;217F SHE-GOAT;22M HE-GOAT;218F SOW",
   "22M BOAR;219F COW;22M BULL;2020 WHEAT;211 BARLEY;212 OLIVE;213 SPICE;215 CYPERUS",
   "09MONOGRAM B127 KAPO;218 KANAKO;09IDEOGRAM B130 OIL;211 WINE;212;09MONOGRAM B133 AREPA",
   "215 MERI;09IDEOGRAM B140 BRONZE;211 GOLD;212;215 WOOL;216;2050;211 HORN;212;213;214",
   "09MONOGRAM B156 TURO2;09IDEOGRAM B157;218;219 CLOTH;2060;211;212 GARMENT;213 ARMOUR;214;215",
   "216;217;218;219;2070;211;212;213 MONTH;214;216 TREE;217;218;219;2080;211;212;213;214;215;219",
   "2090;211 HELMET;19220 FOOTSTOOL;215 BATHTUB;2030 SPEAR;211 ARROW;212;213 SWORD;214;216",
   "2040 WHEELED CHARIOT;211 CHARIOT;212 CHARIOT FRAME;213 WHEEL;215;216;09MONOGRAM B247 DIPTE",
   "09IDEOGRAM B248;219;2051;212;213;214 DART;215;216;217;218;219;18VESSEL B155;26200;281;282;283",
   "284;285;286;287;288;289;2710;281;282;283;284;285;286;287;288;289;2721;282;286;287;288;289;2750",
   "26305;+10100;00AEGEAN WORD SEPARATOR LINE;22DOT;07CHECK MARK;+10107;07NUMBER ONE;14TWO;15HREE",
   "14FOUR;15IVE;14SIX;15EVEN;14EIGHT;14NINE;14TEN;15WENTY;15HIRTY;14FORTY;15IFTY;14SIXTY;15EVENTY",
   "14EIGHTY;14NINETY;14ONE HUNDRED;14TWO HUNDRED;15HREE HUNDRED;14FOUR HUNDRED;15IVE HUNDRED",
   "14SIX HUNDRED;15EVEN HUNDRED;14EIGHT HUNDRED;14NINE HUNDRED;14ONE THOUSAND;14TWO THOUSAND",
   "15HREE THOUSAND;14FOUR THOUSAND;15IVE THOUSAND;14SIX THOUSAND;15EVEN THOUSAND;14EIGHT THOUSAND",
   "14NINE THOUSAND;14TEN THOUSAND;15WENTY THOUSAND;15HIRTY THOUSAND;14FORTY THOUSAND",
   "15IFTY THOUSAND;14SIXTY THOUSAND;15EVENTY THOUSAND;14EIGHTY THOUSAND;14NINETY THOUSAND;+10137",
   "07WEIGHT BASE UNIT;14FIRST SUBUNIT;14SECOND SUBUNIT;14THIRD SUBUNIT;14FOURTH SUBUNIT",
   "07DRY MEASURE FIRST SUBUNIT;07LIQUID MEASURE FIRST SUBUNIT;07MEASURE SECOND SUBUNIT",
   "15THIRD SUBUNIT;00GREEK ACROPHONIC ATTIC ONE QUARTER;27HALF;27DRACHMA;23FIVE;25FTY",
   "25VE HUNDRED;28THOUSAND;25FTY THOUSAND;25VE TALENTS;23TEN TALENTS;23FIFTY TALENTS",
   "23ONE HUNDRED TALENTS;23FIVE HUNDRED TALENTS;23ONE THOUSAND TALENTS;23FIVE THOUSAND TALENTS",
   "28STATERS;23TEN STATERS;23FIFTY STATERS;23ONE HUNDRED STATERS;23FIVE HUNDRED STATERS",
   "23ONE THOUSAND STATERS;23TEN THOUSAND STATERS;23FIFTY THOUSAND STATERS;23TEN MNAS",
   "17HERAEUM ONE PLETHRON;17THESPIAN ONE;17HERMIONIAN ONE;17EPIDAUREAN TWO;17THESPIAN TWO",
   "17CYRENAIC TWO DRACHMAS;17EPIDAUREAN TWO DRACHMAS;17TROEZENIAN FIVE;28TEN;31 ALTERNATE FORM",
   "17HERMIONIAN TEN;17MESSENIAN TEN;17THESPIAN TEN;27HIRTY;18ROEZENIAN FIFTY;33 ALTERNATE FORM",
   "17HERMIONIAN FIFTY;17THESPIAN FIFTY;26ONE HUNDRED;26THREE HUNDRED;17EPIDAUREAN FIVE HUNDRED",
   "17TROEZENIAN FIVE HUNDRED;18HESPIAN FIVE HUNDRED;17CARYSTIAN FIVE HUNDRED",
   "17NAXIAN FIVE HUNDRED;17THESPIAN ONE THOUSAND;26FIVE THOUSAND;17DELPHIC FIVE MNAS",
   "17STRATIAN FIFTY MNAS;06ONE HALF SIGN;19 ALTERNATE FORM;06TWO THIRDS SIGN;07HREE QUARTERS SIGN",
   "06YEAR SIGN;06TALENT SIGN;06DRACHMA SIGN;06OBOL SIGN;06TWO OBOLS SIGN;07HREE OBOLS SIGN",
   "06FOUR OBOLS SIGN;07IVE OBOLS SIGN;06METRETES SIGN;06KYATHOS BASE SIGN;06LITRA SIGN",
   "06OUNKIA SIGN;06XESTES SIGN;06ARTABE SIGN;08OURA SIGN;06GRAMMA SIGN;06TRYBLION BASE SIGN",
   "06ZERO SIGN;06ONE QUARTER SIGN;06SINUSOID SIGN;06INDICTION SIGN;00NOMISMA SIGN;+10190",
   "00ROMAN SEXTANS SIGN;06UNCIA SIGN;06SEMUNCIA SIGN;08XTULA SIGN;06DIMIDIA SEXTULA SIGN",
   "06SILIQUA SIGN;06DENARIUS SIGN;06QUINARIUS SIGN;06SESTERTIUS SIGN;06DUPONDIUS SIGN;06AS SIGN",
   "06CENTURIAL SIGN;00ASCIA SYMBOL;+101a0;00GREEK SYMBOL TAU RHO;+101d0",
   "00PHAISTOS DISC SIGN PEDESTRIAN;20LUMED HEAD;19TATTOOED HEAD;19CAPTIVE;20HILD;19WOMAN;19HELMET",
   "19GAUNTLET;19TIARA;19ARROW;19BOW;19SHIELD;19CLUB;19MANACLES;21TTOCK;19SAW;19LID;19BOOMERANG",
   "19CARPENTRY PLANE;19DOLIUM;19COMB;19SLING;19COLUMN;19BEEHIVE;19SHIP;19HORN;20IDE;19BULLS LEG",
   "19CAT;19RAM;19EAGLE;19DOVE;19TUNNY;19BEE;19PLANE TREE;19VINE;19PAPYRUS;19ROSETTE;19LILY",
   "19OX BACK;19FLUTE;19GRATER;19STRAINER;20MALL AXE;19WAVY BAND;19COMBINING OBLIQUE STROKE;+10280",
   "00LYCIAN LETTER A;14E;14B;15H;14G;14D;14I;14W;14Z;14TH;14J;14K;14Q;14L;14M;14N;14MM;14NN;14U",
   "14P;14KK;14R;14S;14T;15T;14AN;14EN;14H;14X;+102a0;00CARIAN LETTER A;14P2;14D;14L;14UUU;14R",
   "14LD;14A2;14Q;14B;14M;14O;14D2;14T;14SH;162;15;14C-18;14U;14NN;14X;14N;14TT2;14P;14SS;14I;14E",
   "14UUUU;14K;152;14ND;14UU;14G;152;14ST;162;14NG;14II;14C-39;14TT;14UUU2;14RR;14MB;162;163;164",
   "14LD2;14E2;14UUU3;+102e0;01OPTIC EPACT THOUSANDS MARK;13DIGIT ONE;19TWO;20HREE;19FOUR;20IVE",
   "19SIX;20EVEN;19EIGHT;19NINE;13NUMBER TEN;21WENTY;21HIRTY;20FORTY;21IFTY;20SIXTY;21EVENTY",
   "20EIGHTY;20NINETY;20ONE HUNDRED;20TWO HUNDRED;21HREE HUNDRED;20FOUR HUNDRED;21IVE HUNDRED",
   "20SIX HUNDRED;21EVEN HUNDRED;20EIGHT HUNDRED;20NINE HUNDRED;+10300;00OLD ITALIC LETTER A;18BE",
   "18KE;18DE;18E;18VE;18ZE;18HE;18THE;18I;18KA;18EL;19M;19N;19SH;18O;18PE;18SHE;18KU;18ER;19S",
   "18TE;18U;18EKS;18PHE;18KHE;18EF;19RS;18CHE;18II;18UU;18ESS;11NUMERAL ONE;19FIVE;19TEN;19FIFTY",
   "+1032d;11LETTER YE;18NORTHERN TSE;18SOUTHERN TSE;00GOTHIC LETTER AHSA;14BAIRKAN;14GIBA;14DAGS",
   "14AIHVUS;14QAIRTHRA;14IUJA;14HAGL;14THIUTH;14EIS;14KUSMA;14LAGUS;14MANNA;14NAUTHS;14JER;14URUS",
   "14PAIRTHRA;14NINETY;14RAIDA;14SAUIL;14TEIWS;14WINJA;14FAIHU;14IGGWS;14HWAIR;14OTHAL",
   "14NINE HUNDRED;+10350;00OLD PERMIC LETTER AN;18BUR;18GAI;18DOI;18E;18ZHOI;18DZHOI;18ZATA",
   "18DZITA;18I;18KOKE;18LEI;18MENOE;18NENOE;18VOOI;18PEEI;18REI;18SII;18TAI;18U;18CHERY;18SHOOI",
   "20CHOOI;18YRY;19ERU;18O;19O;18EF;18HA;18TSIU;18VER;18YER;21I;19AT;18IE;18YU;19A;18IA",
   "00COMBINING OLD PERMIC LETTER AN;28DOI;28ZATA;28NENOE;28SII;+10380;00UGARITIC LETTER ALPA",
   "16BETA;16GAMLA;16KHA;16DELTA;16HO;16WO;16ZETA;16HOTA;16TET;16YOD;16KAF;16SHIN;16LAMDA;16MEM",
   "16DHAL;16NUN;16ZU;16SAMKA;16AIN;16PU;16SADE;16QOPA;16RASHA;16THANNA;16GHAIN;16TO;16I;16U;16SSU",
   "+1039f;09WORD DIVIDER;00OLD PERSIAN SIGN A;17I;17U;17KA;18U;17GA;18U;17XA;17CA;17JA;18I;17TA",
   "18U;17DA;18I;18U;17THA;17PA;17BA;17FA;17NA;18U;17MA;18I;18U;17YA;17VA;18I;17RA;18U;17LA;17SA",
   "17ZA;17SHA;18SA;17HA;+103c8;17AURAMAZDAA;27-2;27HA;17XSHAAYATHIYA;17DAHYAAUSH;26-2;17BAGA",
   "18UUMISH;12WORD DIVIDER;12NUMBER ONE;19TWO;20EN;20WENTY;19HUNDRED;+10400",
   "00DESERET CAPITAL LETTER LONG I;28E;28A;29H;28O;29O;23SHORT I;29E;29A;30H;29O;30O;23AY;23OW",
   "23WU;23YEE;23H;23PEE;23BEE;23TEE;23DEE;23CHEE;23JEE;23KAY;23GAY;23EF;23VEE;23ETH;23THEE;23ES",
   "23ZEE;23ESH;23ZHEE;23ER;24L;24M;24N;25G;23OI;23EW;08SMALL LETTER LONG I;26E;26A;27H;26O;27O",
   "21SHORT I;27E;27A;28H;27O;28O;21AY;21OW;21WU;21YEE;21H;21PEE;21BEE;21TEE;21DEE;21CHEE;21JEE",
   "21KAY;21GAY;21EF;21VEE;21ETH;21THEE;21ES;21ZEE;21ESH;21ZHEE;21ER;22L;22M;22N;23G;21OI;21EW",
   "00SHAVIAN LETTER PEEP;15TOT;15KICK;15FEE;15THIGH;15SO;16URE;15CHURCH;15YEA;15HUNG;15BIB;15DEAD",
   "15GAG;15VOW;15THEY;15ZOO;15MEASURE;15JUDGE;15WOE;15HA-HA;15LOLL;15MIME;15IF;15EGG;15ASH;16DO",
   "15ON;15WOOL;15OUT;15AH;15ROAR;15NUN;15EAT;15AGE;15ICE;15UP;15OAK;16OZE;16IL;15AWE;16RE;15OR",
   "15AIR;15ERR;15ARRAY;15EAR;15IAN;15YEW;00OSMANYA LETTER ALEF;15BA;15TA;15JA;15XA;15KHA;15DEEL",
   "15RA;15SA;16HIIN;15DHA;15CAYN;15GA;15FA;15QAAF;15KAAF;15LAAN;15MIIN;15NUUN;15WAW;15HA;15YA;15A",
   "15E;15I;15O;15U;15AA;15EE;15OO;+104a0;08DIGIT ZERO;14ONE;14TWO;15HREE;14FOUR;15IVE;14SIX",
   "15EVEN;14EIGHT;14NINE;+104b0;02AGE CAPITAL LETTER A;22I;23N;22H;21BRA;21CHA;21EHCHA;22;22IN",
   "21HA;22YA;21I;21KA;21EHKA;21KYA;21LA;21MA;21NA;21O;22IN;21PA;21EHPA;21SA;22HA;21TA;21EHTA",
   "21TSA;21EHTSA;21TSHA;21DHA;21U;21WA;21KHA;21GHA;21ZA;22HA;+104d8;06SMALL LETTER A;20I;21N;20H",
   "19BRA;19CHA;19EHCHA;20;20IN;19HA;20YA;19I;19KA;19EHKA;19KYA;19LA;19MA;19NA;19O;20IN;19PA",
   "19EHPA;19SA;20HA;19TA;19EHTA;19TSA;19EHTSA;19TSHA;19DHA;19U;19WA;19KHA;19GHA;19ZA;20HA;+10500",
   "00ELBASAN LETTER A;15BE;15CE;16HE;15DE;15NDE;15DHE;15EI;16;15FE;15GE;16JE;15HE;15I;15JE;15KE",
   "15LE;16LE;15ME;15NE;16A;16JE;15O;15PE;15QE;15RE;16RE;15SE;16HE;15TE;16HE;15U;15VE;15XE;15Y",
   "15ZE;16HE;15GHE;17AMMA;15KHE;+10530;00CAUCASIAN ALBANIAN LETTER ALT;26BET;26GIM;26DAT;26EB",
   "26ZARL;26EYN;26ZHIL;26TAS;26CHA;26YOWD;26ZHA;26IRB;26SHA;26LAN;26INYA;26XEYN;26DYAN;26CAR",
   "26JHOX;26KAR;26LYIT;26HEYT;26QAY;26AOR;26CHOY;28I;27YAY;26MAQ;26QAR;26NOWC;26DZYAY;26SHAK",
   "26JAYN;26ON;26TYAY;26FAM;26DZAY;26CHAT;26PEN;26GHEYS;26RAT;26SEYK;26VEYZ;26TIWR;26SHOY;26IWN",
   "26CYAW;27AYN;26YAYD;26PIWR;26KIW;+1056f;19CITATION MARK;00VITHKUQI CAPITAL LETTER A;24BBE;25E",
   "24CE;25HE;24DE;25HE;24EI;25;24FE;24GA;+1057c;24HA;25HA;24I;25JE;24JE;24KA;24LA;25LA;24ME;24NE",
   "25JE;24O;24PE;24QA;24RE;+1058c;24SE;25HE;24TE;25HE;24U;24VE;24XE;+10594;24Y;24ZE;+10597",
   "09SMALL LETTER A;22BBE;23E;22CE;23HE;22DE;23HE;22EI;23;22FE;22GA;+105a3;22HA;23HA;22I;23JE",
   "22JE;22KA;22LA;23LA;22ME;22NE;23JE;22O;22PE;22QA;22RE;+105b3;22SE;23HE;22TE;23HE;22U;22VE;22XE",
   "+105bb;22Y;22ZE;+10600;00LINEAR A SIGN AB001;182;183;184;185;186;187;188;189;1710;181;183;186",
   "187;1720;181;19F;19M;182;19F;19M;183;19M;184;186;187;188;15028B;15B029;1730;181;184;187;188",
   "189;1740;181;184;185;186;187;188;189;1750;181;183;184;185;186;187;188;189;1760;181;185;186;187",
   "189;1770;183;184;186;187;188;189;1780;181;182;185;186;187;15100-102;15B118;1720;15120B;15B122",
   "183;1731A;19B;15131C;15B164;1771;1780;188;1791;15301;172;173;174;175;176;177;178;179A;18B;18C",
   "1610;171;172;173A;18B;18C;174;175;176;177;178;179;1620;171;172;173;174;175;176;177;178;179",
   "1630;171;172;173;174;175;176;177;178;179;1640;171;172;173;174;175;176;177;178;179;1650;171;172",
   "173;174;175;176;177;178;179;1660;171;172;173;174;175;176;177;178;179;1670;171;15400-VAS",
   "171-VAS;172-VAS;173-VAS;174-VAS;175-VAS;176-VAS;177-VAS;178-VAS;179-VAS;1610-VAS;171-VAS",
   "172-VAS;173-VAS;174-VAS;175-VAS;176-VAS;177-VAS;178-VAS;15501;172;173;174;175;176;178;179;1610",
   "171;172;173;175;176;1620;171;173;174;175;176;177;178;179;1630;171;172;174;175;176;177;178;179",
   "1640;171;172;175;177;178;179;1650;171;172;173;174;175;176;177;179;1663;174;175;176;178;179",
   "1670;171;172;173;174;175;176;177;178;179;1680;171;172;173;174;175;176;177;178;179;1691;172;174",
   "175;176;178;15600;171;172;173;174;176;178;179;1610;171;172;173;174;175;176;177;178;179;1620",
   "171;172;173;174;176;177;178;179;1634;177;178;1640;172;173;174;175;176;178;179;1651;172;173;174",
   "175;176;177;178;179;1660;171;172;173;174;+10740;15701 A;172 B;173 D;174 E;175 F;176 H;177 J",
   "178 K;179 L;18-2 L2;193 L3;194 L4;196 L6;1610 W;171 X;172 Y;173 OMEGA;174 ABB;175 BB;177 DD",
   "1626 EYYY;1632 JE;+10760;15800;171;172;173;174;175;176;177;+10780",
   "00MODIFIER LETTER SMALL CAPITAL AA;17UPERSCRIPT TRIANGULAR COLON;28HALF TRIANGULAR COLON",
   "17MALL AE;22CAPITAL B;22B WITH HOOK;+10787;22DZ DIGRAPH;32 WITH RETROFLEX HOOK;38CURL",
   "23EZH DIGRAPH;23 WITH TAIL;29HOOK;33 AND TAIL;22REVERSED E;22CLOSED REVERSED OPEN E",
   "22FENG DIGRAPH;22RAMS HORN;22CAPITAL G;22G WITH HOOK;22CAPITAL G WITH HOOK;22H WITH STROKE",
   "22CAPITAL H;22HENG WITH HOOK;22DOTLESS J WITH STROKE AND HOOK;22LS DIGRAPH;23Z DIGRAPH",
   "23 WITH BELT;22CAPITAL L WITH BELT;22L WITH RETROFLEX HOOK AND BELT;23EZH",
   "26 WITH RETROFLEX HOOK;22TURNED Y;30 WITH BELT;22O WITH STROKE;22CAPITAL OE;23LOSED OMEGA;22Q",
   "22TURNED R WITH LONG LEG;44 AND RETROFLEX HOOK;22R WITH TAIL;29FISHHOOK;22CAPITAL R",
   "22TC DIGRAPH WITH CURL;23S DIGRAPH;32 WITH RETROFLEX HOOK;23ESH DIGRAPH;23 WITH RETROFLEX HOOK",
   "22V WITH RIGHT HOOK;+107b2;22CAPITAL Y;16GLOTTAL STOP WITH STROKE",
   "16REVERSED GLOTTAL STOP WITH STROKE;16BILABIAL CLICK;16DENTAL CLICK;16LATERAL CLICK",
   "16ALVEOLAR CLICK;16RETROFLEX CLICK WITH RETROFLEX HOOK;16SMALL S WITH CURL;+10800",
   "00CYPRIOT SYLLABLE A;17E;17I;17O;17U;17JA;+10808;18O;+1080a;17KA;18E;18I;18O;18U;17LA;18E;18I",
   "18O;18U;17MA;18E;18I;18O;18U;17NA;18E;18I;18O;18U;17PA;18E;18I;18O;18U;17RA;18E;18I;18O;18U",
   "17SA;18E;18I;18O;18U;17TA;18E;18I;18O;18U;17WA;18E;18I;18O;+10837;17XA;18E;+1083c;17ZA;+1083f",
   "18O;00IMPERIAL ARAMAIC LETTER ALEPH;24BETH;24GIMEL;24DALETH;24HE;24WAW;24ZAYIN;24HETH;24TETH",
   "24YODH;24KAPH;24LAMEDH;24MEM;24NUN;24SAMEKH;24AYIN;24PE;24SADHE;24QOPH;24RESH;24SHIN;24TAW",
   "+10857;17SECTION SIGN;17NUMBER ONE;24TWO;25HREE;25EN;25WENTY;24ONE HUNDRED;28THOUSAND",
   "24TEN THOUSAND;00PALMYRENE LETTER ALEPH;17BETH;17GIMEL;17DALETH;17HE;17WAW;17ZAYIN;17HETH",
   "17TETH;17YODH;17KAPH;17LAMEDH;17MEM;17FINAL NUN;17NUN;17SAMEKH;17AYIN;17PE;17SADHE;17QOPH",
   "17RESH;17SHIN;17TAW;12FT-POINTING FLEURON;10RIGHT-POINTING FLEURON;10NUMBER ONE;17TWO;18HREE",
   "17FOUR;18IVE;17TEN;18WENTY;00NABATAEAN LETTER FINAL ALEPH;17ALEPH;17FINAL BETH;17BETH;17GIMEL",
   "17DALETH;17FINAL HE;17HE;17WAW;17ZAYIN;17HETH;17TETH;17FINAL YODH;17YODH;17FINAL KAPH;17KAPH",
   "17FINAL LAMEDH;17LAMEDH;17FINAL MEM;17MEM;17FINAL NUN;17NUN;17SAMEKH;17AYIN;17PE;17SADHE",
   "17QOPH;17RESH;17FINAL SHIN;17SHIN;17TAW;+108a7;10NUMBER ONE;17TWO;18HREE;17FOUR",
   "10CRUCIFORM NUMBER FOUR;10NUMBER FIVE;17TEN;18WENTY;17ONE HUNDRED;+108e0;00HATRAN LETTER ALEPH",
   "14BETH;14GIMEL;14DALETH-RESH;14HE;14WAW;14ZAYN;14HETH;14TETH;14YODH;14KAPH;14LAMEDH;14MEM",
   "14NUN;14SAMEKH;14AYN;14PE;14SADHE;14QOPH;+108f4;14SHIN;14TAW;+108fb;07NUMBER ONE;14FIVE;14TEN",
   "15WENTY;14ONE HUNDRED;00PHOENICIAN LETTER ALF;18BET;18GAML;18DELT;18HE;18WAU;18ZAI;18HET;18TET",
   "18YOD;18KAF;18LAMD;18MEM;18NUN;18SEMK;18AIN;18PE;18SADE;18QOF;18ROSH;18SHIN;18TAU;11NUMBER ONE",
   "18TEN;19WENTY;18ONE HUNDRED;18TWO;19HREE;+1091f;11WORD SEPARATOR;00LYDIAN LETTER A;14B;14G;14D",
   "14E;14V;14I;14Y;14K;14L;14M;14N;14O;14R;14SS;14T;14U;14F;14Q;14S;14TT;14AN;14EN;14LY;14NN;14C",
   "+1093f;07TRIANGULAR MARK;+10980;00MEROITIC HIEROGLYPHIC LETTER A;29E;29I;29O;29YA;29WA;29BA",
   "31-2;29PA;29MA;29NA;31-2;30E;31-2;29RA;31-2;29LA;29KHA;29HHA;29SA;31-2;30E;29KA;29QA;29TA;31-2",
   "30E;31-2;30O;29DA;22SYMBOL VIDJ;33-2;09CURSIVE LETTER A;24E;24I;24O;24YA;24WA;24BA;24PA;24MA",
   "24NA;25E;24RA;24LA;24KHA;24HHA;24SA;24ARCHAIC SA;24SE;24KA;24QA;24TA;25E;25O;24DA;+109bc",
   "17FRACTION ELEVEN TWELFTHS;26ONE HALF;17LOGOGRAM RMT;26IMN;17NUMBER ONE;24TWO;25HREE;24FOUR",
   "25IVE;24SIX;25EVEN;24EIGHT;24NINE;24TEN;25WENTY;25HIRTY;24FORTY;25IFTY;24SIXTY;25EVENTY;+109d2",
   "24ONE HUNDRED;24TWO HUNDRED;25HREE HUNDRED;24FOUR HUNDRED;25IVE HUNDRED;24SIX HUNDRED",
   "25EVEN HUNDRED;24EIGHT HUNDRED;24NINE HUNDRED;24ONE THOUSAND;24TWO THOUSAND;25HREE THOUSAND",
   "24FOUR THOUSAND;25IVE THOUSAND;24SIX THOUSAND;25EVEN THOUSAND;24EIGHT THOUSAND;24NINE THOUSAND",
   "24TEN THOUSAND;25WENTY THOUSAND;25HIRTY THOUSAND;24FORTY THOUSAND;25IFTY THOUSAND",
   "24SIXTY THOUSAND;25EVENTY THOUSAND;24EIGHTY THOUSAND;24NINETY THOUSAND;24ONE HUNDRED THOUSAND",
   "24TWO HUNDRED THOUSAND;25HREE HUNDRED THOUSAND;24FOUR HUNDRED THOUSAND;25IVE HUNDRED THOUSAND",
   "24SIX HUNDRED THOUSAND;25EVEN HUNDRED THOUSAND;24EIGHT HUNDRED THOUSAND",
   "24NINE HUNDRED THOUSAND;17FRACTION ONE TWELFTH;26TWO TWELFTHS;27HREE TWELFTHS;26FOUR TWELFTHS",
   "27IVE TWELFTHS;26SIX TWELFTHS;27EVEN TWELFTHS;26EIGHT TWELFTHS;26NINE TWELFTHS;26TEN TWELFTHS",
   "00KHAROSHTHI LETTER A;11VOWEL SIGN I;22U;22VOCALIC R;+10a05;22E;22O;+10a0c;17LENGTH MARK",
   "11SIGN DOUBLE RING BELOW;16ANUSVARA;16VISARGA;11LETTER KA;19HA;18GA;19HA;+10a15;18CA;19HA;18JA",
   "+10a19;18NYA;18TTA;20HA;18DDA;20HA;18NNA;18TA;19HA;18DA;19HA;18NA;18PA;19HA;18BA;19HA;18MA",
   "18YA;18RA;18LA;18VA;18SHA;19SA;19A;18ZA;18HA;18KKA;18TTTHA;21A;18VHA;+10a38;11SIGN BAR ABOVE",
   "16CAUDA;16DOT BELOW;+10a3f;11VIRAMA;11DIGIT ONE;17TWO;18HREE;17FOUR;11NUMBER TEN;19WENTY",
   "18ONE HUNDRED;22THOUSAND;11FRACTION ONE HALF;+10a50;11PUNCTUATION DOT;23SMALL CIRCLE;23CIRCLE",
   "24RESCENT BAR;23MANGALAM;23LOTUS;23DANDA;24OUBLE DANDA;23LINES;+10a60",
   "00OLD SOUTH ARABIAN LETTER HE;25LAMEDH;25HETH;25MEM;25QOPH;25WAW;25SHIN;25RESH;25BETH;25TAW",
   "25SAT;25KAPH;25NUN;25KHETH;25SADHE;27MEKH;25FE;25ALEF;26YN;25DHADHE;25GIMEL;25DALETH;25GHAYN",
   "25TETH;25ZAYN;25DHALETH;25YODH;25THAW;27ETH;18NUMBER ONE;25FIFTY;21ERIC INDICATOR",
   "04NORTH ARABIAN LETTER HEH;25LAM;25HAH;25MEEM;25QAF;25WAW;25ES-2;25REH;25BEH;25TEH;25ES-1",
   "25KAF;25NOON;25KHAH;25SAD;25ES-3;25FEH;25ALEF;26IN;25DAD;25GEEM;25DAL;25GHAIN;25TAH;25ZAIN",
   "25THAL;25YEH;25THEH;25ZAH;18NUMBER ONE;25TEN;26WENTY;+10ac0;00MANICHAEAN LETTER ALEPH;18BETH",
   "19HETH;18GIMEL;19HIMEL;18DALETH;18HE;18WAW;11SIGN UD;11LETTER ZAYIN;19HAYIN;18JAYIN;19HAYIN",
   "18HETH;18TETH;18YODH;18KAPH;18XAPH;18KHAPH;18LAMEDH;18DHAMEDH;18THAMEDH;18MEM;18NUN;18SAMEKH",
   "18AYIN;19AYIN;18PE;18FE;18SADHE;18QOPH;18XOPH;18QHOPH;18RESH;18SHIN;19SHIN;18TAW",
   "11ABBREVIATION MARK ABOVE;29BELOW;+10aeb;11NUMBER ONE;18FIVE;18TEN;19WENTY;18ONE HUNDRED",
   "11PUNCTUATION STAR;23FLEURON;23DOUBLE DOT WITHIN DOT;25T WITHIN DOT;26;23TWO DOTS",
   "23LINE FILLER;+10b00;00AVESTAN LETTER A;16A;16O;16AO;16N;16AN;16E;17E;15E;16E;15O;16O;15I;16I",
   "15U;16U;15KE;15XE;16YE;16VE;15GE;16GE;16HE;15CE;15JE;15TE;16HE;15DE;16HE;15TTE;15PE;15FE;15BE",
   "16HE;15NGE;17YE;17VE;16E;16YE;16NE;15ME;15HME;15YYE;16E;15VE;15RE;15LE;15SE;15ZE;15SHE;15ZHE",
   "15SHYE;16SHE;15HE;+10b39;08ABBREVIATION MARK;00TINY TWO DOTS OVER ONE DOT PUNCTUATION",
   "00SMALL TWO DOTS OVER ONE DOT PUNCTUATION;00LARGE TWO DOTS OVER ONE DOT PUNCTUATION",
   "06ONE DOT OVER TWO DOTS PUNCTUATION;06TWO RINGS OVER ONE RING PUNCTUATION",
   "06ONE RING OVER TWO RINGS PUNCTUATION;00INSCRIPTIONAL PARTHIAN LETTER ALEPH;30BETH;30GIMEL",
   "30DALETH;30HE;30WAW;30ZAYIN;30HETH;30TETH;30YODH;30KAPH;30LAMEDH;30MEM;30NUN;30SAMEKH;30AYIN",
   "30PE;30SADHE;30QOPH;30RESH;30SHIN;30TAW;+10b58;23NUMBER ONE;30TWO;31HREE;30FOUR;30TEN;31WENTY",
   "30ONE HUNDRED;34THOUSAND;16HLAVI LETTER ALEPH;29BETH;29GIMEL;29DALETH;29HE;29WAW-AYIN-RESH",
   "29ZAYIN;29HETH;29TETH;29YODH;29KAPH;29LAMEDH;29MEM-QOPH;29NUN;29SAMEKH;29PE;29SADHE;30HIN",
   "29TAW;+10b78;22NUMBER ONE;29TWO;30HREE;29FOUR;29TEN;30WENTY;29ONE HUNDRED;33THOUSAND",
   "00PSALTER PAHLAVI LETTER ALEPH;23BETH;23GIMEL;23DALETH;23HE;23WAW-AYIN-RESH;23ZAYIN;23HETH",
   "23YODH;23KAPH;23LAMEDH;23MEM-QOPH;23NUN;23SAMEKH;23PE;23SADHE;24HIN;23TAW;+10b99",
   "16SECTION MARK;16TURNED SECTION MARK;16FOUR DOTS WITH CROSS;31DOT;+10ba9;16NUMBER ONE;23TWO",
   "24HREE;23FOUR;23TEN;24WENTY;23ONE HUNDRED;+10c00;00OLD TURKIC LETTER ORKHON A;18YENISEI A;27E",
   "18ORKHON I;18YENISEI I;26E;18ORKHON O;26E;18YENISEI OE;18ORKHON AB;18YENISEI AB;18ORKHON AEB",
   "18YENISEI AEB;18ORKHON AG;18YENISEI AG;18ORKHON AEG;18YENISEI AEG;18ORKHON AD;18YENISEI AD",
   "18ORKHON AED;25EZ;18YENISEI EZ;18ORKHON AY;18YENISEI AY;18ORKHON AEY;18YENISEI AEY",
   "18ORKHON AEK;18YENISEI AEK;18ORKHON OEK;18YENISEI OEK;18ORKHON AL;18YENISEI AL;18ORKHON AEL",
   "25ELT;26M;25AN;26EN;18YENISEI AEN;18ORKHON ENT;18YENISEI ENT;18ORKHON ENC;18YENISEI ENC",
   "18ORKHON ENY;18YENISEI ENY;26ANG;18ORKHON ENG;18YENISEI AENG;18ORKHON EP;25OP;25IC;25EC",
   "18YENISEI EC;18ORKHON AQ;18YENISEI AQ;18ORKHON IQ;18YENISEI IQ;18ORKHON OQ;18YENISEI OQ",
   "18ORKHON AR;18YENISEI AR;18ORKHON AER;26S;26ES;26SH;18YENISEI ASH;18ORKHON ESH;18YENISEI ESH",
   "18ORKHON AT;18YENISEI AT;18ORKHON AET;18YENISEI AET;18ORKHON OT;25BASH;+10c80",
   "04HUNGARIAN CAPITAL LETTER A;30A;29EB;29AMB;29EC;30NC;30CS;30D;29AND;29E;29CLOSE E;29EE;30F",
   "30G;31Y;30H;29I;30I;29EJ;30K;29AK;29UNK;29EL;31Y;30M;30N;31Y;29O;30O;29NIKOLSBURG OE",
   "29RUDIMENTA OE;29OEE;29EP;30MP;30R;29SHORT ER;29ES;31Z;30T;30NT;30TY;30CH;29U;30U",
   "29NIKOLSBURG UE;29RUDIMENTA UE;29EV;30Z;31S;30NT-SHAPED SIGN;29US;+10cc0;14SMALL LETTER A;28A",
   "27EB;27AMB;27EC;28NC;28CS;28D;27AND;27E;27CLOSE E;27EE;28F;28G;29Y;28H;27I;28I;27EJ;28K;27AK",
   "27UNK;27EL;29Y;28M;28N;29Y;27O;28O;27NIKOLSBURG OE;27RUDIMENTA OE;27OEE;27EP;28MP;28R",
   "27SHORT ER;27ES;29Z;28T;28NT;28TY;28CH;27U;28U;27NIKOLSBURG UE;27RUDIMENTA UE;27EV;28Z;29S",
   "28NT-SHAPED SIGN;27US;+10cfa;14NUMBER ONE;21FIVE;21TEN;21FIFTY;21ONE HUNDRED;25THOUSAND",
   "00HANIFI ROHINGYA LETTER A;23BA;23PA;23TA;24TA;23JA;23CA;23HA;23KHA;23FA;23DA;24DA;23RA;24RA",
   "23ZA;23SA;24HA;23KA;23GA;23LA;23MA;23NA;23WA;23KINNA WA;23YA;23KINNA YA;23NGA;24YA;23VA",
   "16VOWEL A;22I;22U;22E;22O;16MARK SAKIN;21NA KHONNA;16SIGN HARBAHAY;21TAHALA;23NA;23SSI;+10d30",
   "16DIGIT ZERO;22ONE;22TWO;23HREE;22FOUR;23IVE;22SIX;23EVEN;22EIGHT;22NINE;+10e60",
   "00RUMI DIGIT ONE;11TWO;12HREE;11FOUR;12IVE;11SIX;12EVEN;11EIGHT;11NINE;05NUMBER TEN;13WENTY",
   "13HIRTY;12FORTY;13IFTY;12SIXTY;13EVENTY;12EIGHTY;12NINETY;12ONE HUNDRED;12TWO HUNDRED",
   "13HREE HUNDRED;12FOUR HUNDRED;13IVE HUNDRED;12SIX HUNDRED;13EVEN HUNDRED;12EIGHT HUNDRED",
   "12NINE HUNDRED;05FRACTION ONE HALF;18QUARTER;18THIRD;14TWO THIRDS;+10e80;00YEZIDI LETTER ELIF",
   "14BE;14PE;15HE;14THE;14SE;14CIM;15HIM;16HIM;14HHA;14XA;14DAL;14ZAL;14RA;15HA;14ZA;14JA;14SIN",
   "15HIN;15AD;14DAD;14TA;14ZE;14EYN;14XHEYN;14FA;14VA;16 ALTERNATE FORM;14QAF;14KAF;15HAF;14GAF",
   "14LAM;14MIM;14NUN;14UM;14WAW;14OW;14EW;14HAY;14YOT;14ET;+10eab;07COMBINING HAMZA MARK",
   "17MADDA MARK;07HYPHENATION MARK;+10eb0;07LETTER LAM WITH DOT ABOVE;14YOT WITH CIRCUMFLEX ABOVE",
   "+10f00;00OLD SOGDIAN LETTER ALEPH;19FINAL ALEPH;19BETH;19FINAL BETH;19GIMEL;19HE;19FINAL HE",
   "19WAW;19ZAYIN;19HETH;19YODH;19KAPH;19LAMEDH;19MEM;19NUN;19FINAL NUN;28 WITH VERTICAL TAIL",
   "19SAMEKH;19AYIN;20LTERNATE AYIN;19PE;19SADHE;19FINAL SADHE;30 WITH VERTICAL TAIL",
   "19RESH-AYIN-DALETH;19SHIN;19TAW;19FINAL TAW;28 WITH VERTICAL TAIL;12NUMBER ONE;19TWO;20HREE",
   "19FOUR;20IVE;19TEN;20WENTY;20HIRTY;19ONE HUNDRED;12FRACTION ONE HALF;12LIGATURE AYIN-DALETH",
   "+10f30;00SOGDIAN LETTER ALEPH;15BETH;15GIMEL;15HE;15WAW;15ZAYIN;15HETH;15YODH;15KAPH;15LAMEDH",
   "15MEM;15NUN;15SAMEKH;15AYIN;15PE;15SADHE;15RESH-AYIN;15SHIN;15TAW;15FETH;15LESH",
   "08INDEPENDENT SHIN;08COMBINING DOT BELOW;18TWO DOTS BELOW;18DOT ABOVE;18TWO DOTS ABOVE",
   "18CURVE ABOVE;24BELOW;18HOOK ABOVE;23BELOW;18LONG HOOK BELOW;18RESH BELOW;18STROKE BELOW",
   "08NUMBER ONE;15TEN;16WENTY;15ONE HUNDRED;08PUNCTUATION TWO VERTICAL BARS;37 WITH DOTS",
   "20CIRCLE WITH DOT;20TWO CIRCLES WITH DOTS;20HALF CIRCLE WITH DOT;+10f70",
   "00OLD UYGHUR LETTER ALEPH;18BETH;18GIMEL-HETH;18WAW;18ZAYIN;18FINAL HETH;18YODH;18KAPH",
   "18LAMEDH;18MEM;18NUN;18SAMEKH;18PE;18SADHE;18RESH;18SHIN;18TAW;18LESH;11COMBINING DOT ABOVE",
   "25BELOW;21TWO DOTS ABOVE;30BELOW;11PUNCTUATION BAR;23TWO BARS;27DOTS;23FOUR DOTS;+10fb0",
   "00CHORASMIAN LETTER ALEPH;18SMALL ALEPH;18BETH;18GIMEL;18DALETH;18HE;18WAW;18CURLED WAW",
   "18ZAYIN;18HETH;18YODH;18KAPH;18LAMEDH;18MEM;18NUN;18SAMEKH;18AYIN;18PE;18RESH;18SHIN;18TAW",
   "11NUMBER ONE;18TWO;19HREE;18FOUR;18TEN;19WENTY;18ONE HUNDRED;+10fe0;00ELYMAIC LETTER ALEPH",
   "15BETH;15GIMEL;15DALETH;15HE;15WAW;15ZAYIN;15HETH;15TETH;15YODH;15KAPH;15LAMEDH;15MEM;15NUN",
   "15SAMEKH;15AYIN;15PE;15SADHE;15QOPH;15RESH;15SHIN;15TAW;09IGATURE ZAYIN-YODH"]

/-- The names of the code points from 11000 to 1cfff. -/
def higherNames : List String :=
  ["+11000;00BRAHMI SIGN CANDRABINDU;12ANUSVARA;12VISARGA;12JIHVAMULIYA;12UPADHMANIYA;07LETTER A",
   "15A;14I;15I;14U;15U;14VOCALIC R;23R;22L;23L;14E;14AI;14O;14AU;14KA;15HA;14GA;15HA;14NGA;14CA",
   "15HA;14JA;15HA;14NYA;14TTA;16HA;14DDA;16HA;14NNA;14TA;15HA;14DA;15HA;14NA;14PA;15HA;14BA;15HA",
   "14MA;14YA;14RA;14LA;14VA;14SHA;15SA;15A;14HA;14LLA;14OLD TAMIL LLLA;24RRA;24NNNA",
   "07VOWEL SIGN AA;18BHATTIPROLU AA;18I;19I;18U;19U;18VOCALIC R;27R;26L;27L;18E;18AI;18O;18AU",
   "08IRAMA;07DANDA;08OUBLE DANDA;07PUNCTUATION DOT;21UBLE DOT;19LINE;19CRESCENT BAR;19LOTUS",
   "+11052;07NUMBER ONE;14TWO;15HREE;14FOUR;15IVE;14SIX;15EVEN;14EIGHT;14NINE;14TEN;15WENTY",
   "15HIRTY;14FORTY;15IFTY;14SIXTY;15EVENTY;14EIGHTY;14NINETY;14ONE HUNDRED;18THOUSAND",
   "07DIGIT ZERO;13ONE;13TWO;14HREE;13FOUR;14IVE;13SIX;14EVEN;13EIGHT;13NINE",
   "07SIGN OLD TAMIL VIRAMA;07LETTER OLD TAMIL SHORT E;30O;07VOWEL SIGN OLD TAMIL SHORT E;34O",
   "07LETTER OLD TAMIL LLA;+1107f;07NUMBER JOINER;00KAITHI SIGN CANDRABINDU;12ANUSVARA;12VISARGA",
   "07LETTER A;15A;14I;15I;14U;15U;14E;14AI;14O;14AU;14KA;15HA;14GA;15HA;14NGA;14CA;15HA;14JA;15HA",
   "14NYA;14TTA;16HA;14DDA;16DHA;16HA;14RHA;14NNA;14TA;15HA;14DA;15HA;14NA;14PA;15HA;14BA;15HA",
   "14MA;14YA;14RA;14LA;14VA;14SHA;15SA;15A;14HA;07VOWEL SIGN AA;18I;19I;18U;19U;18E;18AI;18O;18AU",
   "07SIGN VIRAMA;12NUKTA;07ABBREVIATION SIGN;07ENUMERATION SIGN;07NUMBER SIGN;07SECTION MARK",
   "07DOUBLE SECTION MARK;08ANDA;08OUBLE DANDA;07VOWEL SIGN VOCALIC R;+110cd;07NUMBER SIGN ABOVE",
   "+110d0;00SORA SOMPENG LETTER SAH;20TAH;20BAH;20CAH;20DAH;20GAH;20MAH;20NGAH;20LAH;20NAH;20VAH",
   "20PAH;20YAH;20RAH;20HAH;20KAH;20JAH;20NYAH;20AH;20EEH;20IH;20UH;20OH;20EH;20MAE;+110f0",
   "13DIGIT ZERO;19ONE;19TWO;20HREE;19FOUR;20IVE;19SIX;20EVEN;19EIGHT;19NINE;+11100",
   "00CHAKMA SIGN CANDRABINDU;12ANUSVARA;12VISARGA;07LETTER AA;14I;14U;14E;14KAA;15HAA;14GAA;15HAA",
   "14NGAA;14CAA;15HAA;14JAA;15HAA;14NYAA;14TTAA;16HAA;14DDAA;16HAA;14NNAA;14TAA;15HAA;14DAA;15HAA",
   "14NAA;14PAA;15HAA;14BAA;15HAA;14MAA;14YYAA;15AA;14RAA;14LAA;14WAA;14SAA;14HAA;07VOWEL SIGN A",
   "18I;19I;18U;19U;18E;18AI;18O;18AU;18OI;07O MARK;07AU MARK;07VIRAMA;07MAAYYAA;+11136",
   "07DIGIT ZERO;13ONE;13TWO;14HREE;13FOUR;14IVE;13SIX;14EVEN;13EIGHT;13NINE;07SECTION MARK",
   "07DANDA;08OUBLE DANDA;07QUESTION MARK;07LETTER LHAA;07VOWEL SIGN AA;18EI;07LETTER VAA;+11150",
   "00MAHAJANI LETTER A;16I;16U;16E;16O;16KA;17HA;16GA;17HA;16CA;17HA;16JA;17HA;16NYA;16TTA;18HA",
   "16DDA;18HA;16NNA;16TA;17HA;16DA;17HA;16NA;16PA;17HA;16BA;17HA;16MA;16RA;16LA;16VA;16SA;16HA",
   "16RRA;09SIGN NUKTA;09ABBREVIATION SIGN;09SECTION MARK;09LIGATURE SHRI;+11180",
   "00SHARADA SIGN CANDRABINDU;13ANUSVARA;13VISARGA;08LETTER A;16A;15I;16I;15U;16U;15VOCALIC R;24R",
   "23L;24L;15E;15AI;15O;15AU;15KA;16HA;15GA;16HA;15NGA;15CA;16HA;15JA;16HA;15NYA;15TTA;17HA;15DDA",
   "17HA;15NNA;15TA;16HA;15DA;16HA;15NA;15PA;16HA;15BA;16HA;15MA;15YA;15RA;15LA;16LA;15VA;15SHA",
   "16SA;16A;15HA;08VOWEL SIGN AA;19I;20I;19U;20U;19VOCALIC R;28R;27L;28L;19E;19AI;19O;19AU",
   "08SIGN VIRAMA;13AVAGRAHA;13JIHVAMULIYA;13UPADHMANIYA;08OM;08DANDA;09OUBLE DANDA",
   "08ABBREVIATION SIGN;08SEPARATOR;09ANDHI MARK;09IGN NUKTA;08VOWEL MODIFIER MARK",
   "08EXTRA SHORT VOWEL MARK;08SUTRA MARK;08VOWEL SIGN PRISHTHAMATRA E;08SIGN INVERTED CANDRABINDU",
   "08DIGIT ZERO;14ONE;14TWO;15HREE;14FOUR;15IVE;14SIX;15EVEN;14EIGHT;14NINE;08EKAM;08SIGN SIDDHAM",
   "08HEADSTROKE;08CONTINUATION SIGN;08SECTION MARK-1;212;+111e1;01INHALA ARCHAIC DIGIT ONE;22TWO",
   "23HREE;22FOUR;23IVE;22SIX;23EVEN;22EIGHT;22NINE;16NUMBER TEN;24WENTY;24HIRTY;23FORTY;24IFTY",
   "23SIXTY;24EVENTY;23EIGHTY;23NINETY;23ONE HUNDRED;27THOUSAND;+11200;00KHOJKI LETTER A;15A;14I",
   "14U;14E;14AI;14O;14AU;14KA;15HA;14GA;15GA;15HA;14NGA;14CA;15HA;14JA;15JA;+11213;14NYA;14TTA",
   "16HA;14DDA;16HA;14NNA;14TA;15HA;14DA;15DDA;15HA;14NA;14PA;15HA;14BA;15BA;15HA;14MA;14YA;14RA",
   "14LA;14VA;14SA;14HA;14LLA;07VOWEL SIGN AA;18I;19I;18U;18E;18AI;18O;18AU;07SIGN ANUSVARA",
   "12VIRAMA;12NUKTA;12SHADDA;07DANDA;08OUBLE DANDA;07WORD SEPARATOR;07SECTION MARK",
   "07DOUBLE SECTION MARK;07ABBREVIATION SIGN;07SIGN SUKUN;+11280;00MULTANI LETTER A;15I;15U;15E",
   "15KA;16HA;15GA;+11288;16HA;+1128a;15CA;16HA;15JA;16JA;+1128f;15NYA;15TTA;17HA;15DDA;17DA;17HA",
   "15NNA;15TA;16HA;15DA;16HA;15NA;15PA;16HA;15BA;+1129f;16HA;15MA;15YA;15RA;15LA;15VA;15SA;15HA",
   "15RRA;16HA;08SECTION MARK;+112b0;00KHUDAWADI LETTER A;18A;17I;18I;17U;18U;17E;17AI;17O;17AU",
   "17KA;18HA;17GA;18GA;18HA;17NGA;17CA;18HA;17JA;18JA;18HA;17NYA;17TTA;19HA;17DDA;19DA;17RRA",
   "17DDHA;17NNA;17TA;18HA;17DA;18HA;17NA;17PA;18HA;17BA;18BA;18HA;17MA;17YA;17RA;17LA;17VA;17SHA",
   "18A;17HA;10SIGN ANUSVARA;10VOWEL SIGN AA;21I;22I;21U;22U;21E;21AI;21O;21AU;10SIGN NUKTA",
   "15VIRAMA;+112f0;10DIGIT ZERO;16ONE;16TWO;17HREE;16FOUR;17IVE;16SIX;17EVEN;16EIGHT;16NINE",
   "+11300;00GRANTHA SIGN COMBINING ANUSVARA ABOVE;14ANDRABINDU;13ANUSVARA;13VISARGA;+11305",
   "08LETTER A;16A;15I;16I;15U;16U;15VOCALIC R;23L;+1130f;15EE;15AI;+11313;15OO;15AU;15KA;16HA",
   "15GA;16HA;15NGA;15CA;16HA;15JA;16HA;15NYA;15TTA;17HA;15DDA;17HA;15NNA;15TA;16HA;15DA;16HA;15NA",
   "+1132a;15PA;16HA;15BA;16HA;15MA;15YA;15RA;+11332;15LA;16LA;+11335;15VA;15SHA;16SA;16A;15HA",
   "+1133b;00COMBINING BINDU BELOW;00GRANTHA SIGN NUKTA;13AVAGRAHA;08VOWEL SIGN AA;19I;20I;19U;20U",
   "19VOCALIC R;28R;+11347;19EE;19AI;+1134b;19OO;19AU;08SIGN VIRAMA;+11350;08OM;+11357",
   "08AU LENGTH MARK;+1135d;08SIGN PLUTA;08LETTER VEDIC ANUSVARA;21DOUBLE ANUSVARA;16OCALIC RR",
   "23LL;08VOWEL SIGN VOCALIC L;28L;+11366;00COMBINING GRANTHA DIGIT ZERO;24ONE;24TWO;25HREE",
   "24FOUR;25IVE;24SIX;+11370;18LETTER A;25KA;25NA;25VI;25PA;+11400;00NEWA LETTER A;13A;12I;13I",
   "12U;13U;12VOCALIC R;21R;20L;21L;12E;12AI;12O;12AU;12KA;13HA;12GA;13HA;12NGA;14HA;12CA;13HA",
   "12JA;13HA;12NYA;14HA;12TTA;14HA;12DDA;14HA;12NNA;12TA;13HA;12DA;13HA;12NA;13HA;12PA;13HA;12BA",
   "13HA;12MA;13HA;12YA;12RA;13HA;12LA;13HA;12WA;12SHA;13SA;13A;12HA;05VOWEL SIGN AA;16I;17I;16U",
   "17U;16VOCALIC R;25R;24L;25L;16E;16AI;16O;16AU;05SIGN VIRAMA;10CANDRABINDU;10ANUSVARA;10VISARGA",
   "10NUKTA;10AVAGRAHA;10FINAL ANUSVARA;05OM;05SIDDHI;05DANDA;06OUBLE DANDA;05COMMA;05GAP FILLER",
   "05ABBREVIATION SIGN;05DIGIT ZERO;11ONE;11TWO;12HREE;11FOUR;12IVE;11SIX;12EVEN;11EIGHT;11NINE",
   "06OUBLE COMMA;05PLACEHOLDER MARK;+1145d;05INSERTION SIGN;05SANDHI MARK;05LETTER VEDIC ANUSVARA",
   "05SIGN JIHVAMULIYA;10UPADHMANIYA;+11480;00TIRHUTA ANJI;08LETTER A;16A;15I;16I;15U;16U",
   "15VOCALIC R;24R;23L;24L;15E;15AI;15O;15AU;15KA;16HA;15GA;16HA;15NGA;15CA;16HA;15JA;16HA;15NYA",
   "15TTA;17HA;15DDA;17HA;15NNA;15TA;16HA;15DA;16HA;15NA;15PA;16HA;15BA;16HA;15MA;15YA;15RA;15LA",
   "15VA;15SHA;16SA;16A;15HA;08VOWEL SIGN AA;19I;20I;19U;20U;19VOCALIC R;28R;27L;28L;19E;19SHORT E",
   "19AI;19O;19SHORT O;19AU;08SIGN CANDRABINDU;13ANUSVARA;13VISARGA;15RAMA;13NUKTA;13AVAGRAHA",
   "08GVANG;08ABBREVIATION SIGN;08OM;+114d0;08DIGIT ZERO;14ONE;14TWO;15HREE;14FOUR;15IVE;14SIX",
   "15EVEN;14EIGHT;14NINE;+11580;00SIDDHAM LETTER A;16A;15I;16I;15U;16U;15VOCALIC R;24R;23L;24L",
   "15E;15AI;15O;15AU;15KA;16HA;15GA;16HA;15NGA;15CA;16HA;15JA;16HA;15NYA;15TTA;17HA;15DDA;17HA",
   "15NNA;15TA;16HA;15DA;16HA;15NA;15PA;16HA;15BA;16HA;15MA;15YA;15RA;15LA;15VA;15SHA;16SA;16A",
   "15HA;08VOWEL SIGN AA;19I;20I;19U;20U;19VOCALIC R;28R;+115b8;19E;19AI;19O;19AU",
   "08SIGN CANDRABINDU;13ANUSVARA;13VISARGA;15RAMA;13NUKTA;13SIDDHAM;08DANDA;09OUBLE DANDA",
   "08SEPARATOR DOT;18BAR;08REPETITION MARK-1;242;243;08END OF TEXT MARK",
   "08SECTION MARK WITH TRIDENT AND U-SHAPED ORNAMENTS;38DOTTED CRESCENTS",
   "26RAYS AND DOTTED CRESCENTS;42DOUBLE CRESCENTS;42TRIPLE CRESCENTS;21DOUBLE RING;32 WITH RAYS",
   "21WITH DOUBLE CRESCENTS;26TRIPLE CRESCENTS;26QUADRUPLE CRESCENTS;26SEPTUPLE CRESCENTS",
   "26CIRCLES AND RAYS;38TWO ENCLOSURES;38FOUR ENCLOSURES;08LETTER THREE-CIRCLE ALTERNATE I",
   "16WO-CIRCLE ALTERNATE I;37I;15ALTERNATE U;08VOWEL SIGN ALTERNATE U;30U;+11600;00MODI LETTER A",
   "13A;12I;13I;12U;13U;12VOCALIC R;21R;20L;21L;12E;12AI;12O;12AU;12KA;13HA;12GA;13HA;12NGA;12CA",
   "13HA;12JA;13HA;12NYA;12TTA;14HA;12DDA;14HA;12NNA;12TA;13HA;12DA;13HA;12NA;12PA;13HA;12BA;13HA",
   "12MA;12YA;12RA;12LA;12VA;12SHA;13SA;13A;12HA;12LLA;05VOWEL SIGN AA;16I;17I;16U;17U;16VOCALIC R",
   "25R;24L;25L;16E;16AI;16O;16AU;05SIGN ANUSVARA;10VISARGA;12RAMA;10ARDHACANDRA;05DANDA",
   "06OUBLE DANDA;05ABBREVIATION SIGN;05SIGN HUVA;+11650;05DIGIT ZERO;11ONE;11TWO;12HREE;11FOUR",
   "12IVE;11SIX;12EVEN;11EIGHT;11NINE;+11660;02NGOLIAN BIRGA WITH ORNAMENT;10ROTATED BIRGA",
   "10DOUBLE BIRGA WITH ORNAMENT;10TRIPLE BIRGA WITH ORNAMENT;10BIRGA WITH DOUBLE ORNAMENT",
   "10ROTATED BIRGA WITH ORNAMENT;29DOUBLE ORNAMENT;10INVERTED BIRGA;24 WITH DOUBLE ORNAMENT",
   "10SWIRL BIRGA;21 WITH ORNAMENT;27DOUBLE ORNAMENT;10TURNED SWIRL BIRGA WITH DOUBLE ORNAMENT",
   "+11680;00TAKRI LETTER A;14A;13I;14I;13U;14U;13E;13AI;13O;13AU;13KA;14HA;13GA;14HA;13NGA;13CA",
   "14HA;13JA;14HA;13NYA;13TTA;15HA;13DDA;15HA;13NNA;13TA;14HA;13DA;14HA;13NA;13PA;14HA;13BA;14HA",
   "13MA;13YA;13RA;13LA;13VA;13SHA;14A;13HA;13RRA;06SIGN ANUSVARA;11VISARGA;06VOWEL SIGN AA;17I",
   "18I;17U;18U;17E;17AI;17O;17AU;06SIGN VIRAMA;11NUKTA;06LETTER ARCHAIC KHA;06ABBREVIATION SIGN",
   "+116c0;06DIGIT ZERO;12ONE;12TWO;13HREE;12FOUR;13IVE;12SIX;13EVEN;12EIGHT;12NINE;+11700",
   "00AHOM LETTER KA;13HA;12NGA;13A;12TA;12ALTERNATE TA;12PA;13HA;12BA;12MA;12JA;12CHA;12THA;12RA",
   "12LA;12SA;12NYA;12HA;12A;12DA;13HA;12GA;12ALTERNATE GA;12GHA;12BHA;12JHA;12ALTERNATE BA;+1171d",
   "05CONSONANT SIGN MEDIAL LA;27RA;27LIGATING RA;05VOWEL SIGN A;17A;16I;17I;16U;17U;16E;16AW;16O",
   "16AI;17M;05SIGN KILLER;+11730;05DIGIT ZERO;11ONE;11TWO;12HREE;11FOUR;12IVE;11SIX;12EVEN",
   "11EIGHT;11NINE;05NUMBER TEN;13WENTY;05SIGN SMALL SECTION;11ECTION;10RULAI;06YMBOL VI",
   "05LETTER CA;12TTA;14HA;12DDA;14HA;12NNA;12LLA;+11800;00DOGRA LETTER A;14A;13I;14I;13U;14U;13E",
   "13AI;13O;13AU;13KA;14HA;13GA;14HA;13NGA;13CA;14HA;13JA;14HA;13NYA;13TTA;15HA;13DDA;15HA;13NNA",
   "13TA;14HA;13DA;14HA;13NA;13PA;14HA;13BA;14HA;13MA;13YA;13RA;13LA;13VA;13SHA;14SA;14A;13HA",
   "13RRA;06VOWEL SIGN AA;17I;18I;17U;18U;17VOCALIC R;26R;17E;17AI;17O;17AU;06SIGN ANUSVARA",
   "11VISARGA;13RAMA;11NUKTA;06ABBREVIATION SIGN;+118a0;00WARANG CITI CAPITAL LETTER NGAA;27A;27WI",
   "27YU;28A;28O;27II;27UU;27E;27O;27ANG;27GA;27KO;27ENY;27YUJ;27UC;27ENN;27ODD;27TTE;27NUNG;27DA",
   "27AT;28M;27BU;27PU;27HIYO;28OLO;29RR;28AR;27SSUU;28II;27VIYO;12SMALL LETTER NGAA;25A;25WI;25YU",
   "26A;26O;25II;25UU;25E;25O;25ANG;25GA;25KO;25ENY;25YUJ;25UC;25ENN;25ODD;25TTE;25NUNG;25DA;25AT",
   "26M;25BU;25PU;25HIYO;26OLO;27RR;26AR;25SSUU;26II;25VIYO;12DIGIT ZERO;18ONE;18TWO;19HREE;18FOUR",
   "19IVE;18SIX;19EVEN;18EIGHT;18NINE;12NUMBER TEN;20WENTY;20HIRTY;19FORTY;20IFTY;19SIXTY;20EVENTY",
   "19EIGHTY;19NINETY;+118ff;12OM;00DIVES AKURU LETTER A;20A;19I;20I;19U;20U;19E;+11909;19O;+1190c",
   "19KA;20HA;19GA;20HA;19NGA;19CA;20HA;19JA;+11915;19NYA;19TTA;+11918;19DDA;21HA;19NNA;19TA;20HA",
   "19DA;20HA;19NA;19PA;20HA;19BA;20HA;19MA;19YA;20YA;19RA;19LA;19VA;19SHA;20SA;20A;19HA;19LLA",
   "19ZA;12VOWEL SIGN AA;23I;24I;23U;24U;23E;+11937;23AI;23O;+1193b;12SIGN ANUSVARA;17CANDRABINDU",
   "17HALANTA;12VIRAMA;12PREFIXED NASAL SIGN;12MEDIAL YA;12INITIAL RA;12MEDIAL RA;12SIGN NUKTA",
   "12DOUBLE DANDA;12GAP FILLER;12END OF TEXT MARK;+11950;12DIGIT ZERO;18ONE;18TWO;19HREE;18FOUR",
   "19IVE;18SIX;19EVEN;18EIGHT;18NINE;+119a0;00NANDINAGARI LETTER A;20A;19I;20I;19U;20U",
   "19VOCALIC R;28R;+119aa;19E;19AI;19O;19AU;19KA;20HA;19GA;20HA;19NGA;19CA;20HA;19JA;20HA;19NYA",
   "19TTA;21HA;19DDA;21HA;19NNA;19TA;20HA;19DA;20HA;19NA;19PA;20HA;19BA;20HA;19MA;19YA;19RA;19LA",
   "19VA;19SHA;20SA;20A;19HA;19LLA;19RRA;12VOWEL SIGN AA;23I;24I;23U;24U;23VOCALIC R;32R;+119da",
   "23E;23AI;23O;23AU;12SIGN ANUSVARA;17VISARGA;19RAMA;17AVAGRAHA;17SIDDHAM;12HEADSTROKE",
   "12VOWEL SIGN PRISHTHAMATRA E;+11a00;00ZANABAZAR SQUARE LETTER A;17VOWEL SIGN I;28UE;29;28E",
   "28OE;29;28AI;29U;28REVERSED I;23LENGTH MARK;17LETTER KA;25HA;24GA;25HA;24NGA;24CA;25HA;24JA",
   "24NYA;24TTA;26HA;24DDA;26HA;24NNA;24TA;25HA;24DA;25HA;24NA;24PA;25HA;24BA;25HA;24MA;24TSA;26HA",
   "24DZA;26HA;24ZHA;25A;24-A;24YA;24RA;24LA;24VA;24SHA;25SA;25A;24HA;24KSSA",
   "17FINAL CONSONANT MARK;17SIGN VIRAMA;22CANDRABINDU;33 WITH ORNAMENT;28 WITH ORNAMENT",
   "22ANUSVARA;22VISARGA;17CLUSTER-INITIAL LETTER RA;25FINAL LETTER YA;38RA;38LA;38VA",
   "17INITIAL HEAD MARK;17CLOSING HEAD MARK;17MARK TSHEG;22SHAD;22DOUBLE SHAD;22LONG TSHEG",
   "17INITIAL DOUBLE-LINED HEAD MARK;17CLOSING DOUBLE-LINED HEAD MARK;17SUBJOINER;+11a50",
   "00SOYOMBO LETTER A;08VOWEL SIGN I;19UE;20;19E;19O;20E;19AI;20U;19VOCALIC R;27L;14LENGTH MARK",
   "08LETTER KA;16HA;15GA;16HA;15NGA;15CA;16HA;15JA;16HA;15NYA;15TTA;17HA;15DDA;17HA;15NNA;15TA",
   "16HA;15DA;16HA;15NA;15PA;16HA;15BA;16HA;15MA;15TSA;17HA;15DZA;15ZHA;16A;15-A;15YA;15RA;15LA",
   "15VA;15SHA;16SA;16A;15HA;15KSSA;08SIGN JIHVAMULIYA;13UPADHMANIYA;08CLUSTER-INITIAL LETTER RA",
   "31LA;31SHA;32A;08FINAL CONSONANT SIGN G;29K;29NG;29D;29N;29B;29M;29R;29L;29SH;30;29-A",
   "08SIGN ANUSVARA;13VISARGA;08GEMINATION MARK;08SUBJOINER;08MARK TSHEG;13SHAD;13DOUBLE SHAD",
   "13PLUTA;08HEAD MARK WITH MOON AND SUN AND TRIPLE FLAME;40FLAME;35;08TERMINAL MARK-1;222;+11ab0",
   "00CANADIAN SYLLABICS NATTILIK HI;30I;29O;30O;29A;30A;28SHRI;32I;31O;32O;31A;32A;19SPE;21I;21O",
   "21A;00PAU CIN HAU LETTER PA;19KA;19LA;19MA;19DA;19ZA;19VA;19NGA;19HA;19GA;19KHA;19SA;19BA;19CA",
   "19TA;20HA;19NA;19PHA;19RA;19FA;19CHA;19A;19E;19I;19O;19U;20A;19IA;19FINAL P;25K;25T;25M;25N",
   "25L;25W;25NG;25Y;12RISING TONE LONG;23;12SANDHI GLOTTAL STOP;12RISING TONE LONG FINAL;24FINAL",
   "12SANDHI GLOTTAL STOP FINAL;19TONE LONG;23;23 LONG FINAL;24FINAL;12MID-LEVEL TONE",
   "12GLOTTAL STOP VARIANT;12MID-LEVEL TONE LONG FINAL;27FINAL;12LOW-FALLING TONE LONG;28",
   "12GLOTTAL STOP;12LOW-FALLING TONE LONG FINAL;29FINAL;12GLOTTAL STOP FINAL;+11c00",
   "00BHAIKSUKI LETTER A;18A;17I;18I;17U;18U;17VOCALIC R;26R;25L;+11c0a;17E;17AI;17O;17AU;17KA",
   "18HA;17GA;18HA;17NGA;17CA;18HA;17JA;18HA;17NYA;17TTA;19HA;17DDA;19HA;17NNA;17TA;18HA;17DA;18HA",
   "17NA;17PA;18HA;17BA;18HA;17MA;17YA;17RA;17LA;17VA;17SHA;18SA;18A;17HA;10VOWEL SIGN AA;21I;22I",
   "21U;22U;21VOCALIC R;30R;29L;+11c38;21E;21AI;21O;21AU;10SIGN CANDRABINDU;15ANUSVARA;15VISARGA",
   "17RAMA;15AVAGRAHA;10DANDA;11OUBLE DANDA;10WORD SEPARATOR;10GAP FILLER-1;212;+11c50",
   "10DIGIT ZERO;16ONE;16TWO;17HREE;16FOUR;17IVE;16SIX;17EVEN;16EIGHT;16NINE;10NUMBER ONE;17TWO",
   "18HREE;17FOUR;18IVE;17SIX;18EVEN;17EIGHT;17NINE;17TEN;18WENTY;18HIRTY;17FORTY;18IFTY;17SIXTY",
   "18EVENTY;17EIGHTY;17NINETY;10HUNDREDS UNIT MARK;+11c70;00MARCHEN HEAD MARK;08MARK SHAD",
   "08LETTER KA;16HA;15GA;15NGA;15CA;16HA;15JA;15NYA;15TA;16HA;15DA;15NA;15PA;16HA;15BA;15MA;15TSA",
   "17HA;15DZA;15WA;15ZHA;16A;15-A;15YA;15RA;15LA;15SHA;16A;15HA;15A;+11c92;08SUBJOINED LETTER KA",
   "26HA;25GA;25NGA;25CA;26HA;25JA;25NYA;25TA;26HA;25DA;25NA;25PA;26HA;25BA;25MA;25TSA;27HA;25DZA",
   "25WA;25ZHA;26A;+11ca9;25YA;25RA;25LA;25SHA;26A;25HA;25A;08VOWEL SIGN AA;19I;19U;19E;19O",
   "08SIGN ANUSVARA;13CANDRABINDU;+11d00;02SARAM GONDI LETTER A;22A;21I;22I;21U;22U;21E;+11d08",
   "21AI;21O;+11d0b;21AU;21KA;22HA;21GA;22HA;21NGA;21CA;22HA;21JA;22HA;21NYA;21TTA;23HA;21DDA;23HA",
   "21NNA;21TA;22HA;21DA;22HA;21NA;21PA;22HA;21BA;22HA;21MA;21YA;21RA;21LA;21VA;21SHA;22SA;22A",
   "21HA;21LLA;21KSSA;21JNYA;21TRA;14VOWEL SIGN AA;25I;26I;25U;26U;25VOCALIC R;+11d3a;25E;+11d3c",
   "25AI;25O;+11d3f;25AU;14SIGN ANUSVARA;19VISARGA;19NUKTA;19CANDRA;19HALANTA;14VIRAMA;14REPHA",
   "15A-KARA;+11d50;14DIGIT ZERO;20ONE;20TWO;21HREE;20FOUR;21IVE;20SIX;21EVEN;20EIGHT;20NINE",
   "+11d60;00GUNJALA GONDI LETTER A;22A;21I;22I;21U;22U;+11d67;21EE;21AI;+11d6a;21OO;21AU;21YA",
   "21VA;21BA;22HA;21MA;21KA;22HA;21TA;22HA;21LA;21GA;22HA;21DA;22HA;21NA;21CA;22HA;21TTA;23HA",
   "21LLA;21JA;22HA;21DDA;23HA;21NGA;21PA;22HA;21HA;21RA;21SA;14VOWEL SIGN AA;25I;26I;25U;26U",
   "+11d90;25EE;25AI;+11d93;25OO;25AU;14SIGN ANUSVARA;19VISARGA;14VIRAMA;14OM;+11da0;14DIGIT ZERO",
   "20ONE;20TWO;21HREE;20FOUR;21IVE;20SIX;21EVEN;20EIGHT;20NINE;+11ee0;00MAKASAR LETTER KA;15GA",
   "15NGA;15PA;15BA;15MA;15TA;15DA;15NA;15CA;15JA;15NYA;15YA;15RA;15LA;15VA;15SA;15A;08ANGKA",
   "08VOWEL SIGN I;19U;19E;19O;08PASSIMBANG;08END OF SECTION;+11fb0;00LISU LETTER YHA;+11fc0",
   "00TAMIL FRACTION ONE THREE-HUNDRED-AND-TWENTIETH;19ONE-HUNDRED-AND-SIXTIETH;19EIGHTIETH",
   "19SIXTY-FOURTH;19FORTIETH;19THIRTY-SECOND;15THREE EIGHTIETHS;21SIXTY-FOURTHS;15ONE TWENTIETH",
   "19SIXTEENTH-1;292;19TENTH;19EIGHTH;15THREE TWENTIETHS;21SIXTEENTHS;15ONE FIFTH;19QUARTER",
   "19HALF-1;242;15THREE QUARTERS;15DOWNSCALING FACTOR KIIZH;06SIGN NEL;11CEVITU;11AAZHAAKKU",
   "11UZHAKKU;11MUUVUZHAKKU;11KURUNI;11PATHAKKU;11MUKKURUNI;11KAACU;11PANAM;12ON;11VARAAKAN",
   "11PAARAM;11KUZHI;11VELI;06WET CULTIVATION SIGN;06DRY CULTIVATION SIGN;06LAND SIGN",
   "06SALT PAN SIGN;06TRADITIONAL CREDIT SIGN;18NUMBER SIGN;06CURRENT SIGN;06AND ODD SIGN",
   "06SPENT SIGN;06TOTAL SIGN;06IN POSSESSION SIGN;06STARTING FROM SIGN;07IGN MUTHALIYA",
   "11VAKAIYARAA;+11fff;06PUNCTUATION END OF TEXT;00CUNEIFORM SIGN A;16 TIMES A;23BAD;23GAN2 TENU",
   "23HA;23IGI;23LAGAR GUNU;23MUSH;23SAG;162;16B;17 TIMES ASH2;24DUN3 GUNU;24GAL;26N2 TENU;24HA",
   "24IGI GUNU;25MIN;24LAGAB;24SHESH;24U PLUS U PLUS U;18GUNU;172;18 TIMES BALAG;25GAN2 TENU",
   "25ME PLUS EN;25SHA3;25TAK4;16D;16K;17 TIMES ERIN2;24SHITA PLUS GISH;16L;17 TIMES AL;24DIM2",
   "24GISH;24HA;24KAD3;25I;24SHE;24USH;17AN;17EPH;16MAR;19 TIMES SHE;16N;17 OVER AN;18THREE TIMES",
   "18PLUS NAGA OPPOSING AN PLUS NAGA;28SQUARED;17SHE;16PIN;16RAD;19 TIMES KUR;17KAB;16SAL2;17H",
   "18 ZIDA TENU;19KABA TENU;19OVER ASH TUG2 OVER TUG2 TUG2 OVER TUG2 PAP;28OVER ASH",
   "36 CROSSING ASH OVER ASH OVER ASH;182;18GAB;15BA;17D;17G3;17HAR2;17L;18 OVER BAL;18AG;17R;18A2",
   "16I;17 TIMES A;24GAR;24IGI GUNU;16U;17 OVER BU AB;26UN;18CROSSING BU;17LUG;20 OVER BULUG;17R",
   "182;15DA;17G;18 KISIM5 TIMES A PLUS MASH;33MAR;32BALAG;33I;32GA;34 PLUS MASH;33I;34R2;33UD",
   "32HA;32IR;34 PLUS LU;32KAK;32LA;33U;34 PLUS MASH2;34M;32NE;32PAP PLUS PAP;32SI;32TAK4",
   "32U2 PLUS GIR2;33SH;17M;17R;18A3;194;16I;17B;17M;18 TIMES SHE;182;17N;18 KASKAL U GUNU DISH",
   "17SH;16U;17 OVER DU;18GUNU;18SHESHIG;17B;18 TIMES ESH2;182;17G;18UD;17H;17N;183;19 GUNU",
   "24 GUNU;184;17R2;15E;16 TIMES PAP;17OVER E NUN OVER NUN;162;17 TIMES A PLUS HA PLUS DA;24GAR",
   "24MI;24SAL;25HE;24U;16DIN;16GIR;16L;16N;17 TIMES GAN2;28 TENU;24ME;18CROSSING EN;18OPPOSING EN",
   "18SQUARED;16REN;17IN2;16SH2;16ZEN;19 TIMES A;27 PLUS LAL;36 TIMES LAL;27N;26BAD;26DUN3 GUNU",
   "35 GUNU;26HA;28 GUNU;26IGI GUNU;26KASKAL;32 SQUARED;27U3;26LA;28L TIMES LAL;27I;27U;26U2;27D",
   "15GA;17 GUNU;172;18 TIMES A PLUS DA PLUS HA;32HA;32IGI;26B2 TENU PLUS TAB;26N;26SH",
   "282 PLUS GAL;25BAD;27R PLUS RA;26UR;28 PLUS RA;25DA;26I;27M TIMES SHE;26UB;25EL;27 PLUS LA;26N",
   "27 TIMES GAN2 TENU;25GAN2 TENU;27R;26I;274;28 PLUS A;27R2 PLUS SU;25HA PLUS LU PLUS ESH2;27L",
   "28 PLUS LA;26I PLUS LI;26UB2;25IGI GUNU;26SH PLUS HU PLUS ASH;25KAK;27SKAL;26ID;28 PLUS LAL",
   "26U3 PLUS AN;25LA;25ME PLUS EN;26I;25NUN;28 OVER NUN;25PA;25SAL;27R;26HE;28 PLUS TUR;27ID;26UM",
   "25TAK4;25U;26D;27 PLUS DU;19OVER GA2;17BA;19 CROSSING GABA;17D;18 OVER GAD GAR OVER GAR;17L",
   "18 GAD OVER GAD GAR OVER GAR;18AM;17M;17N;182;19 TENU;20OVER GAN2;20CROSSING GAN2;17R;183",
   "17SHAN;16ESHTIN;22 TIMES KUR;16I;17 TIMES E;24U;18CROSSING GI;174;18 OVER GI4;19CROSSING GI4",
   "17DIM;17R2;19 GUNU;183;19 TIMES A PLUS IGI;26GAN2 TENU;26IGI;26LU PLUS IGI;26PA;17SAL;18H",
   "19 CROSSING GISH;20TIMES BAD;26TAK4;21ENU;16U;17 CROSSING GU;172;18 TIMES KAK",
   "28 TIMES IGI GUNU;25NUN;25SAL PLUS TUG2;19GUNU;17D;18 TIMES A PLUS KUR;25KUR;19OVER GUD LUGAL",
   "17L;17M;18 TIMES SHE;17R;187;18UN;19SH;15HA;17 TENU;18GUNU;17L;16I;17 TIMES ASH;272;24BAD",
   "24DISH;24GAD;24KIN;24NUN;24SHE;24U;16U;17B2;19 TIMES AN;26HAL;26KASKAL;26LISH;26UD;17L2;15I",
   "16 A;16B;16DIM;19 OVER IDIM BUR;30SQUARED;16G;17I;18 DIB;19RI",
   "19OVER IGI SHIR OVER SHIR UD OVER UD;19GUNU;16L;17 TIMES GAN2 TENU;172;16M;17 TIMES TAK4",
   "18CROSSING IM;18OPPOSING IM;18SQUARED;17IN;16N;16R;16SH;15KA;17 TIMES A;25D;26 PLUS KU3;25SH2",
   "24BAD;26LAG;26R;25I;24ERIN2;25SH2;24GA;26L;26N2 TENU;26R;27 PLUS SHA3 PLUS A;25I;26R2",
   "26SH PLUS SAR;29CROSSING GISH;25U;26R7;24IGI;25M;24KAK;25I;26D;24LI;25U;24ME;26 PLUS DU;32GI",
   "32TE;25I;26 PLUS NUNUZ;24NE;25UN;24PI;24RU;24SA;26R;25HA;26E;26ID;26U;25IG;25UHUR;24TAR;24U",
   "252;25D;25MUM TIMES PA;25SH;24ZI;172;18 CROSSING KA2;17B;17D2;183;184;185;19 OVER KAD5;17K",
   "18 TIMES IGI GUNU;17L;18 TIMES BAD;19CROSSING KAL;17M2;184;17SKAL",
   "21 LAGAB TIMES U OVER LAGAB TIMES U;22OVER KASKAL LAGAB TIMES U OVER LAGAB TIMES U;16ESH2;16I",
   "17 TIMES BAD;24U;25D;17D;17N;17SAL;18H;18IM5;21 OVER KISIM5;16U",
   "17 OVER HI TIMES ASH2 KU OVER HI TIMES ASH2;173;174;18 VARIANT FORM;177;17L;18 GUNU;17N;17R",
   "18 OPPOSING KUR;17SHU2;16WU318;15LA;17GAB;20 TIMES A;28 PLUS DA PLUS HA;34GAR;34LAL;28L;28N",
   "28SH ZIDA TENU;27BAD;28I;27DAR;27EN;27GA;29R;28UD;30 PLUS GUD;27HA;29L;28I TIMES NUN",
   "27IGI GUNU;28M;29 PLUS HA;35LU;27KI;29N;28U3;29L;30 PLUS HI PLUS A;27LAGAB;28ISH;28U;29L;27ME",
   "29 PLUS EN;28USH;27NE;27SHE PLUS SUM;29ITA PLUS GISH PLUS ERIN2;43TENU;29U2;31 PLUS SHU2;28UM",
   "27TAG;29K4;28E PLUS A PLUS SU PLUS NA;27U;28 PLUS A;34U PLUS U;282 PLUS ASH;28D;28SH;21SQUARED",
   "19R;20 TIMES SHE;30 PLUS SUM;21GUNU;25 OVER LAGAR GUNU SHE;17HSHU;17L;18 TIMES LAL;17M",
   "18 TIMES KUR;28 PLUS RU;16I;17L;17MMU2;17SH;16U;17 TIMES BAD;172;18 TIMES AL;25BAD;25ESH2",
   "29 TENU;25GAN2 TENU;25HI TIMES BAD;25IM;25KAD2;283;29 PLUS ASH;26I;25LA PLUS ASH;27GAB",
   "25ME PLUS EN;25NE;26U;25SI PLUS ASH;27K2 PLUS BU;25TUG2;20ENU;19CROSSING LU2;19OPPOSING LU2",
   "19SQUARED;20HESHIG;173;17GAL;20 OVER LUGAL;22PPOSING LUGAL;21SHESHIG;17H;17L;17M;18 OVER LUM",
   "27 GAR OVER GAR;15MA;17 TIMES TAK4;18GUNU;172;17H;17R;17SH;192;16E;17S;16I;17N;16U;17 OVER MU",
   "17G;18 GUNU;17NSUB;17RGU2;17SH;19 TIMES A;26KUR;26ZA;20OVER MUSH;29 TIMES A PLUS NA",
   "20CROSSING MUSH;193;20 TIMES A;28 PLUS DI;27DI;21GUNU;15NA;172;17GA;19 INVERTED",
   "20TIMES SHU TENU;20OPPOSING NAGA;19R;17M NUTILLU;18;182;16E;17 TIMES A;24UD;18SHESHIG;16I",
   "17 TIMES E;172;17M;18 TIMES GAN2 TENU;27R PLUS GAN2 TENU;17NDA2;21 TIMES AN;29SH;31 PLUS ASH",
   "28GUD;28ME PLUS GAN2 TENU;28NE;29UN;28SHE;31 PLUS A AN;38SH;40 PLUS ASH;28U2 PLUS ASH;29SH",
   "17SAG;16U;1711;17N;18 LAGAR TIMES GAR;31MASH;31SAL;34 OVER NUN LAGAR TIMES SAL;31USH;19TENU",
   "19OVER NUN;19CROSSING NUN;31 LAGAR OVER LAGAR;18UZ;20 AB2 TIMES ASHGAB;31BI;31DUG;31GUD",
   "31IGI GUNU;31KAD3;31LA;31NE;31SILA3;31U2;21KISIM5 TIMES BI;36 U;15PA;17D;17N;17P;16ESH2;16I",
   "17 TIMES A;25B;24BI;25U;24E;24I;25B;24U;252;18CROSSING PI;17RIG;20 TIMES KAL;27UD;27ZA",
   "21OPPOSING PIRIG;15RA;17B;16I;16U;15SA;17G NUTILLU;18;18 TIMES A;25DU;27B;25HA;25KAK;26UR",
   "25LUM;25MI;25NUN;25SAL;26HID;25TAB;25U2;26B;26M;26R;26SH;19OVER SAG;19GUNU;17L",
   "18 LAGAB TIMES ASH2;17NGA2;17R;16HA;183;19 TIMES A;26BAD;26GISH;26NE;26SHU2;26TUR;26U",
   "27 PLUS A;186;18B6;18R2;17E;18 HU;19OVER SHE GAD OVER GAD GAR OVER GAR",
   "28TAB OVER TAB GAR OVER GAR;18G9;18N;18SH;202;20LAM;17ID;19 TIMES A;26IM;18M;19 TIMES A;26BAL",
   "27ULUG;26DIN;26GAR;26IGI;29 GUNU;26KUSHU2;26LUL;26MUG;26SAL;18NIG;18R;19 TENU",
   "20OVER SHIR BUR OVER BUR;18TA;17U;18 OVER INVERTED SHU;182;18BUR;16I;17 GUNU;17G;184",
   "19 OVER SIG4 SHU2;17K2;17LA3;16U;17 OVER SU;17D;182;17HUR;17M;18ASH;17R;189;15TA;17 ASTERISK",
   "18TIMES HI;24MI;18GUNU;17B;18 OVER TAB NI OVER NI DISH OVER DISH;19SQUARED;17G;18 TIMES BI",
   "25GUD;25SHE;27U;25TUG2;25UD;17K4;17R;16E;17 GUNU;16I;17 TENU;17L;17R;18 TIMES TAK4;19OVER TIR",
   "27 GAD OVER GAD GAR OVER GAR;16U;17G2;17K;17M;17R;18 OVER TUR ZA OVER ZA;15U;16 GUD;17U U",
   "17OVER U PA OVER PA GAR OVER GAR;24SUR OVER SUR;24U REVERSED OVER U REVERSED;162;16B;16D",
   "17 KUSHU2;18TIMES BAD;24MI;24U PLUS U PLUS U;39 GUNU;18GUNU;18SHESHIG;25 TIMES BAD;17UG;16M",
   "17 TIMES LAGAB;24ME PLUS DA;24SHA3;24U;17BIN;17UM;19 TIMES KASKAL;26PA;16N;17 GUNU;16R",
   "17 CROSSING UR;18SHESHIG;172;18 TIMES A PLUS HA;32NA;26L;25HA;25NUN;25U2;27 PLUS ASH;33BI;174",
   "17I;183;17U;18 TIMES A;26SHGAB;25BAR;25DUN;25GA;27L;27N2 TENU;27R;26U;25HA;25IGI;26M;26SH;25KI",
   "25LUM;25MIN;25PA;25SHE;26IG4;25TU;25U PLUS GUD;26D;26RUDA;18DA;20 TIMES U;16SH;18 TIMES A;25KU",
   "27R;25TAK4;18X;182;18UMX;16TUKI;16Z3;18 TIMES KASKAL;17U;15ZA;17 TENU;18SQUARED TIMES KUR;17G",
   "17MX;16E2;16I;17 OVER ZI;173;17B;18 KABA TENU;17G;17Z2;16U;175;18 TIMES A;17BUR;17M",
   "15KAP ELAMITE;15AB TIMES NUN;172 TIMES A;16MAR TIMES KUG;15DAG KISIM5 TIMES U2 PLUS MASH;183",
   "16ISH PLUS SHU;16UB TIMES SHE;15EZEN TIMES GUD;26SHE;15GA2 TIMES AN PLUS KAK PLUS A;26SH2",
   "16E22;16IG;15HUSH;15KA TIMES ANSHE;25SH3;24GISH;25UD;24HI TIMES ASH2;24LUM;24PA;24SHUL;24TU",
   "24UR2;15LAGAB TIMES GI;16U2 SHESHIG TIMES BAD;19TIMES ESH2 PLUS LAL;25SHU;15MESH",
   "16USH3 TIMES ZA;15NA4;16IN;189;18DA2 TIMES BAL;28GI;16U11 ROTATED NINETY DEGREES",
   "15PESH2 ASTERISK;16IR2;15SAG TIMES IGI GUNU;15TI2;15UM TIMES ME;16 U;+12400",
   "10NUMERIC SIGN TWO ASH;24HREE ASH;23FOUR ASH;24IVE ASH;23SIX ASH;24EVEN ASH;23EIGHT ASH",
   "23NINE ASH;23THREE DISH;23FOUR DISH;24IVE DISH;23SIX DISH;24EVEN DISH;23EIGHT DISH;23NINE DISH",
   "23FOUR U;24IVE U;23SIX U;24EVEN U;23EIGHT U;23NINE U;23ONE GESH2;23TWO GESH2;24HREE GESH2",
   "23FOUR GESH2;24IVE GESH2;23SIX GESH2;24EVEN GESH2;23EIGHT GESH2;23NINE GESH2;23ONE GESHU",
   "23TWO GESHU;24HREE GESHU;23FOUR GESHU;24IVE GESHU;23TWO SHAR2;24HREE SHAR2;34 VARIANT FORM",
   "23FOUR SHAR2;24IVE SHAR2;23SIX SHAR2;24EVEN SHAR2;23EIGHT SHAR2;23NINE SHAR2;23ONE SHARU",
   "23TWO SHARU;24HREE SHARU;34 VARIANT FORM;23FOUR SHARU;24IVE SHARU;23SHAR2 TIMES GAL PLUS DISH",
   "44MIN;23ONE BURU;23TWO BURU;24HREE BURU;33 VARIANT FORM;23FOUR BURU;24IVE BURU",
   "23THREE VARIANT FORM ESH16;4521;23FOUR VARIANT FORM LIMMU;464;46 A;47B;23SIX VARIANT FORM ASH9",
   "24EVEN VARIANT FORM IMIN3;46 A;47B;23EIGHT VARIANT FORM USSU;463;23NINE VARIANT FORM ILIMMU",
   "473;474;47 A;23TWO ASH TENU;24HREE ASH TENU;23FOUR ASH TENU;24IVE ASH TENU;23SIX ASH TENU",
   "23ONE BAN2;23TWO BAN2;24HREE BAN2;23FOUR BAN2;32 VARIANT FORM;24IVE BAN2;32 VARIANT FORM",
   "23NIGIDAMIN;29ESH;23ONE ESHE3;23TWO ESHE3;23ONE THIRD DISH;23TWO THIRDS DISH",
   "23FIVE SIXTHS DISH;23ONE THIRD VARIANT FORM A;23TWO THIRDS VARIANT FORM A;23ONE EIGHTH ASH",
   "27QUARTER ASH;24LD ASSYRIAN ONE SIXTH;40QUARTER;24NE QUARTER GUR;27HALF GUR",
   "23ELAMITE ONE THIRD;31TWO THIRDS;31FORTY;32IFTY;23FOUR U VARIANT FORM;24IVE U VARIANT FORM",
   "23SIX U VARIANT FORM;24EVEN U VARIANT FORM;23EIGHT U VARIANT FORM;23NINE U VARIANT FORM;+12470",
   "10PUNCTUATION SIGN OLD ASSYRIAN WORD DIVIDER;27VERTICAL COLON;27DIAGONAL COLON;36TRICOLON",
   "36QUADCOLON;+12480;10SIGN AB TIMES NUN TENU;24SHU2;16D TIMES ESH2;15BAD TIMES DISH TENU",
   "17HAR2 TIMES AB2;28NI;28ZA;16U OVER BU TIMES NA2;15DA TIMES TAK4;17G TIMES KUR;16IM TIMES IGI",
   "25U U U;182 TIMES UD;16UG TIMES ANSHE;26SH;28 AT LEFT;25DIN;26UN;25ERIN2;25GA;26I;27R2 GUNU",
   "27SH;25HA;26I;25IGI GUNU;25KASKAL;26UR;27SHU2;31 PLUS KASKAL;25LAK-020;27M;28 TIMES KUR",
   "26UH PLUS GISH;25MASH;26ES;26I;25NI;25PI;25SHE;26I GUNU;15E2 TIMES KUR;24PAP;16RIN2 X",
   "16SH2 CROSSING ESH2;16ZEN SHESHIG TIMES ASH;34HI;34IGI GUNU;34LA;36L;34ME;36S;34SU;20TIMES SU",
   "15GA2 TIMES BAHAR2;25DIM GUNU;26UG TIMES IGI GUNU;35KASKAL;25EREN;25GA;27R PLUS DI;34NE",
   "25HA PLUS A;25KUSHU2 PLUS KASKAL;25LAM;28 TIMES KUR;26UH;25MUSH;25NE;27 PLUS E2;33GI;25SHIM",
   "25ZIZ2;17BA ROTATED NINETY DEGREES;16ESHTIN TIMES U;16ISH TIMES GISH CROSSING GISH",
   "16U2 TIMES IGI GUNU;17D PLUS GISH TIMES TAK4;15HA TENU GUNU;16I TIMES ASH OVER HI TIMES ASH",
   "15KA TIMES BU;24KA;24U U U;25R;15LAGAB TIMES ZU OVER ZU;17K-003;2021;215;2030;2050;211;2062",
   "2079 OVER LAK-079 GUNU;2080;211 OVER LAK-081;2092;19130;2042;19210;219;2020;215;218;2038;2065",
   "216;19343;217;218;2083;214;2090;19441;219;22 TIMES GU;29IGI;29PAP PLUS LU3;38PAP PLUS LU3",
   "29U2 PLUS BA;2050;217;2070;2083;2090;212;213;215;19550;19608;2017;22 TIMES ASH;29BAD",
   "29DUN3 GUNU GUNU;29KU3;29LA;29TAR;30E;29U2;30D;30RUDA;2036;2048;22 TIMES DUB;29GA;29IGI",
   "32 GUNU;29NI;29PAP PLUS PAP PLUS LU3;29SHESH PLUS KI;29UD;30RUDA;19724;2049",
   "16U2 GUNU TIMES ASH;19TIMES DISH;25HAL;25PAP;28 PLUS PAP PLUS LU3;25TAK4;15MI PLUS ZA7",
   "16USH OVER MUSH TIMES GA;36KAK;15NINDA2 TIMES DIM GUNU;28GISH;29UL;28HI;28KESH2;28LAK-050",
   "28MASH;28PAP PLUS PAP;28U;29 PLUS U;29RUDA;15SAG GUNU TIMES HA;19TIMES EN;25SHE AT LEFT;25TAK4",
   "16HA6 TENU;17E OVER SHE;19PLUS HUB2;24NAM2;24SAR;17U2 PLUS DUG TIMES NI;25E2 TIMES AN",
   "16I TIMES TAK4;15TAK4 PLUS SAG;16UM TIMES GAN2 TENU;25THREE DISH;15UR2 INVERTED;19TIMES UD",
   "17U TIMES DARA3;25LAK-668;26U3;15ZA7;16U OVER ZU PLUS SAR;175 TIMES THREE DISH TENU;+12f90",
   "01YPRO-MINOAN SIGN CM001;222;224;225;226;227;228;229;2110;221;222;23B;223;225;227;229;2121;223",
   "224;225;226;227;228;229;2130;223;224;225;226;227;228;229;2140;221;224;226;227;229;2150;221;222",
   "223;224;225;226;228;229;2160;221;222;223;224;226;227;228;229;2170;221;222;223;224;225;23B;226",
   "228;229;2180;221;222;223;224;225;226;227;228;229;2190;221;222;224;225;226;227;228;229;20100",
   "221;222;223;224;225;227;228;229;2110;222;224;20301;222;+13000;00EGYPTIAN HIEROGLYPH A001;232",
   "233;234;235;24A;236;24A;24B;237;238;239;2210;231;232;233;234;24A;235;236;237;24A;238;239;2220",
   "231;232;233;234;235;236;237;238;239;2230;231;232;24A;233;234;235;236;237;238;239;2240;24A;231",
   "232;24A;233;24A;234;235;24A;236;237;238;239;2250;231;232;233;234;235;236;237;238;239;2260;231",
   "232;233;234;235;236;237;238;239;2270;20B001;232;233;234;235;24A;236;237;238;239;20C001;232;24A",
   "24B;24C;233;234;235;236;237;238;239;2210;24A;231;232;233;234;235;236;237;238;239;2220;231;232",
   "233;234;20D001;232;233;234;235;236;237;238;24A;239;2210;231;232;233;234;235;236;237;238;239",
   "2220;231;232;233;234;235;236;237;24A;238;239;2230;231;24A;232;233;234;24A;235;236;237;238;239",
   "2240;231;232;233;234;235;236;24A;237;238;24A;239;2250;24A;24B;24C;24D;24E;24F;24G;24H;24I;231",
   "232;24A;233;234;24A;235;236;237;238;239;2260;231;232;233;234;235;236;237;24A;24B;24C;24D;24E",
   "24F;24G;24H;20E001;232;233;234;235;236;237;238;24A;239;24A;2210;231;232;233;234;235;236;24A",
   "237;24A;238;239;2220;24A;231;232;233;234;235;236;237;238;24A;239;2230;231;232;233;234;24A;236",
   "237;238;20F001;24A;232;233;234;235;236;237;238;239;2210;231;232;233;24A;234;235;236;237;238",
   "239;2220;231;24A;232;233;234;235;236;237;238;239;2230;231;24A;232;233;234;235;236;237;24A;238",
   "24A;239;2240;231;232;233;234;235;24A;236;24A;237;24A;238;239;2250;231;24A;24B;24C;232;233",
   "20G001;232;233;234;235;236;24A;237;24A;24B;238;239;2210;231;24A;232;233;234;235;236;237;238",
   "239;2220;24A;231;232;233;234;235;236;24A;237;238;239;2230;231;232;233;234;235;236;24A;237;24A",
   "238;239;2240;231;232;233;24A;234;235;24A;236;237;238;239;2250;231;232;233;234;20H001;232;233",
   "234;235;236;24A;237;238;20I001;232;233;234;235;24A;236;237;238;239;24A;2210;24A;231;24A;232",
   "233;234;235;20K001;232;233;234;235;236;237;238;20L001;232;24A;233;234;235;236;24A;237;238",
   "20M001;24A;24B;232;233;24A;234;235;236;237;238;239;2210;24A;231;232;24A;24B;24C;24D;24E;24F",
   "24G;24H;233;234;235;24A;236;24A;237;24A;238;239;2220;231;232;24A;233;234;24A;235;236;237;238",
   "24A;239;2230;231;24A;232;233;24A;24B;234;235;236;237;238;239;2240;24A;231;232;233;234;20N001",
   "232;233;234;235;236;237;238;239;2210;231;232;233;234;235;236;237;238;24A;24B;239;2220;231;232",
   "233;234;235;24A;236;237;238;239;2230;231;232;233;24A;234;24A;235;24A;236;237;24A;238;239;2240",
   "231;232;21L001;242;243;244;245;25A;246;247;248;249;2310;241;242;243;244;245;246;247;25A;248",
   "249;2320;21U001;242;243;244;245;246;247;248;249;2310;25A;241;25A;242;243;244;245;246;247;248",
   "25A;249;2320;241;242;25A;20O001;24A;232;233;234;235;24A;236;24A;24B;24C;24D;24E;24F;237;238",
   "239;2210;24A;24B;24C;231;232;233;234;235;236;237;238;239;24A;2220;24A;231;232;233;234;24A;235",
   "24A;236;237;238;239;24A;2230;24A;231;232;233;24A;234;235;236;24A;24B;24C;24D;237;238;239;2240",
   "231;232;233;234;235;236;237;238;239;2250;24A;24B;231;20P001;24A;232;233;24A;234;235;236;237",
   "238;239;2210;231;20Q001;232;233;234;235;236;237;20R001;232;24A;233;24A;24B;234;235;236;237;238",
   "239;2210;24A;231;232;233;234;235;236;24A;237;238;239;2220;231;232;233;234;235;236;237;238;239",
   "20S001;232;24A;233;234;235;236;24A;237;238;239;2210;231;232;233;234;24A;24B;235;236;237;24A",
   "238;239;2220;231;232;233;234;235;236;24A;24B;237;238;239;2230;231;232;233;234;235;24A;236;237",
   "238;239;2240;231;232;233;234;235;236;20T001;232;233;24A;234;235;236;237;24A;238;24A;239;24A",
   "2210;231;24A;232;233;234;235;236;24A;237;238;239;2220;231;232;233;234;235;236;237;238;239;2230",
   "231;232;24A;233;24A;234;235;236;20U001;232;233;234;235;236;24A;24B;237;238;239;2210;231;232",
   "233;234;235;236;237;238;239;2220;231;232;233;24A;234;235;236;237;238;239;24A;2230;231;232;24A",
   "233;234;235;236;237;238;239;2240;231;232;20V001;24A;24B;24C;24D;24E;24F;24G;24H;24I;232;24A",
   "233;234;235;236;237;24A;24B;238;239;2210;231;24A;24B;24C;232;24A;24B;233;234;235;236;237;238",
   "239;2220;24A;24B;24C;24D;24E;24F;24G;24H;24I;24J;24K;24L;231;232;233;24A;234;235;236;237;238",
   "24A;239;24A;2230;24A;231;24A;232;233;24A;234;235;236;237;24A;238;239;2240;24A;20W001;232;233",
   "24A;234;235;236;237;238;239;24A;2210;24A;231;232;233;234;24A;235;236;237;24A;238;24A;239;2220",
   "231;232;233;234;24A;235;20X001;232;233;234;24A;24B;235;236;24A;237;238;24A;20Y001;24A;232;233",
   "234;235;236;237;238;20Z001;232;24A;24B;24C;24D;233;24A;24B;234;24A;235;24A;236;237;238;239",
   "2210;231;232;233;234;235;24A;24B;24C;24D;24E;24F;24G;24H;24I;236;24A;24B;24C;24D;24E;24F;24G",
   "24H;20AA001;242;243;244;245;246;247;25A;25B;248;249;2310;241;242;243;244;245;246;247;248;249",
   "2320;241;242;243;244;245;246;247;248;249;2330;241;242;+13430;20VERTICAL JOINER",
   "20HORIZONTAL JOINER;20INSERT AT TOP START;30BOTTOM START;30TOP END;30BOTTOM END",
   "20OVERLAY MIDDLE;20BEGIN SEGMENT;20END SEGMENT;+14400;00ANATOLIAN HIEROGLYPH A001;242;243;244",
   "245;246;247;248;249;2310;25A;241;242;243;244;245;246;247;248;249;2320;241;242;243;244;245;246",
   "25A;247;248;249;2330;241;242;243;244;245;246;247;248;249;25A;2340;241;25A;242;243;244;245;25A",
   "246;25A;25B;247;248;249;2350;241;242;243;244;245;246;247;248;249;2360;241;242;243;244;245;246",
   "25A;25B;25C;247;248;249;2370;241;242;243;244;245;246;247;248;249;2380;241;242;243;244;245;246",
   "247;248;249;2390;241;242;243;244;245;246;247;25A;248;25A;249;22100;25A;241;25A;242;25A;243;244",
   "25A;25B;25C;245;25A;25B;246;247;25A;25B;25C;248;249;2310;25A;25B;241;242;243;244;245;25A;246",
   "247;248;249;2320;241;242;243;244;245;25A;246;247;248;249;2330;241;242;243;244;245;25A;246;247",
   "248;249;2340;241;242;243;244;245;246;247;248;249;2350;241;242;243;244;245;246;247;248;249;2360",
   "241;242;243;244;245;246;247;248;249;2370;241;242;243;244;245;246;247;248;249;2380;241;242;243",
   "244;245;246;247;248;249;2390;241;242;243;244;245;246;247;248;249;22200;241;242;25A;25B;243;244",
   "245;246;247;25A;248;249;25A;2310;241;242;243;244;245;25A;246;25A;247;248;249;2320;241;242;243",
   "244;245;246;247;25A;248;249;2330;241;242;243;244;245;246;247;248;249;2340;241;242;243;244;245",
   "246;247;248;249;2350;241;242;243;244;245;246;247;248;249;2360;241;242;243;244;245;246;247;25A",
   "248;249;2370;241;242;243;244;245;246;247;248;249;2380;241;242;243;244;245;246;247;248;249;25A",
   "2390;241;242;243;244;25A;245;246;247;248;249;25A;22300;241;242;243;244;245;246;247;248;249;25A",
   "2310;241;242;243;244;245;246;247;248;249;2320;241;242;243;244;245;246;247;248;249;25A;2330;241",
   "242A;25B;25C;243;244;245;246;25A;25B;25C;247;248;249;2340;241;242;243;244;245;246;247;248;249",
   "2350;241;242;243;244;245;246;247;248;249;25A;2360;241;242;243;244;25A;245;246;247;248;25A;249",
   "2370;241;25A;242;243;244;245;246;247;248;249;2380;241;25A;242;243 RA OR RI;25A;244;245;246;25A",
   "247;248;249;2390;241;242;243 EIGHT;244;245;246;247;248;249;22400;241;242;243;244;245;246;247",
   "248;249;2310 BEGIN LOGOGRAM MARK;25A END LOGOGRAM MARK;241;242;243;244;245;246;247;248;249",
   "2320;241;242;243;244;245;246;247;248;249;2330;241;242;243;244;245;246;247;248;249;2340;241;242",
   "243;244;245;246;247;248;249;2350;25A;241;242;243;244;245;246;247;25A;248;249;2360;241;242;243",
   "244;245;246;247;248;249;2370;241;242;243;244;245;246;247;248;249;2380;241;242;243;244;245;246",
   "247;248;249;2390;241;242;243;244;245;246;247;22501;242;243;244;245;246;247;248;249;2310;241",
   "242;243;244;245;246;247;248;249;2320;241;242;243;244;245;246;247;248;249;2330;+16800",
   "00BAMUM LETTER PHASE-A NGKUE MFON;21GBIEE FON;21PON MFON PIPAEMGBIEE;36BA;21NAA MFON",
   "21SHUENSHUET;21TITA MFON;21NZA MFON;21SHINDA PA NJI;21PON PA NJI PIPAEMGBIEE;38BA;21MAEMBGBIEE",
   "21TU MAEMBA;21NGANGU;21MAEMVEUX;23NSUAE;22VEUAENGAM;21SEUNYAM;21NTOQPEN;21KEUKEUTNDA;21NKINDI",
   "21SUU;21NGKUENZEUM;21LAPAQ;22ET KUT;21NTAP MFAA;21MAEKEUP;21PASHAE;21GHEUAERAE;21PAMSHAE",
   "21MON NGGEUAET;21NZUN MEUT;21U YUQ NAE;21GHEUAEGHEUAE;21NTAP NTAA;21SISA;21MGBASA",
   "22EUNJOMNDEUQ;22OOMPUQ;21KAFA;21PA LEERAEWA;21NDA LEERAEWA;21PET;21MAEMKPEN;21NIKA;21PUP",
   "21TUAEP;21LUAEP;21SONJAM;21TEUTEUWEN;21MAENYI;21KET;21NDAANGGEUAET;21KUOQ;21MOOMEUT;21SHUM",
   "21LOMMAE;21FIRI;21ROM;21KPOQ;21SOQ;21MAP PIEET;21SHIRAE;21NTAP;21SHOQ NSHUT YUM",
   "21NYIT MONGKEUAEQ;21PAARAE;21NKAARAE;21UNKNOWN;21NGGEN;21MAESI;21NJAM;21MBANYI;21NYET;21TEUAEN",
   "21SOT;21PAAM;21NSHIEE;21MAEM;21NYI;21KAQ;21NSHA;21VEE;21LU;21NEN;22AQ;21MBAQ;19B NSHUET",
   "21TU MAEMGBIEE;21SIEE;22ET TU;21LOM NTEUM;21MBA MAELEE;21KIEEM;21YEURAE;21MBAARAE;21KAM",
   "21PEESHI;21YAFU LEERAEWA;21LAM NSHUT NYAM;21NTIEE SHEUOQ;22DU NJAA;21GHEUGHEUAEM;21PIT",
   "21TU NSIEE;21SHET NJAQ;24UAEQTU;21MFON TEUAEQ;22BIT MBAAKET;21NYI NTEUM;21KEUPUQ;21GHEUGHEN",
   "21KEUYEUX;21LAANAE;21PARUM;21VEUM;21NGKINDI MVOP;23GEU MBU;21WUAET;21SAKEUAE;21TAAM;21MEUQ",
   "21NGGUOQ;27 LARGE;21MFIYAQ;21SUE;21MBEURI;22ONTIEEN;21NYAEMAE;21PUNGAAM;21MEUT NGGEET;21FEUX",
   "21MBUOQ;21FEE;21KEUAEM;21MA NJEUAENA;26UQA;21LET;21NGGAAM;22SEN;21MA;21KIQ;21NGOM",
   "19C NGKUE MAEMBA;22ZA;21YUM;21WANGKUOQ;21NGGEN;22DEUAEREE;22GKAQ;21GHARAE;21MBEEKEET;21GBAYI",
   "21NYIR MKPARAQ MEUN;22TU MBIT;21MBEUM;21PIRIEEN;21NDOMBU;21MBAA CABBAGE-TREE;21KEUSHEUAEP",
   "21GHAP;21KEUKAQ;21YU MUOMAE;21NZEUM;21MBUE;21NSEUAEN;21MBIT;21YEUQ;21KPARAQ;22AA;21SEUX",
   "21NDIDA;21TAASHAE;21NJUEQ;21TITA YUE;21SUAET;21NGGUAEN NYAM;21VEUX;21NANSANAQ;21MA KEUAERI",
   "21NTAA;22GGUON;21LAP;21MBIRIEEN;22GBASAQ;21NTEUNGBA;21TEUTEUX;21NGGUM;21FUE;21NDEUT;22SA;23HAQ",
   "21BUNG;21VEUAEPEN;21MBERAE;21RU;21NJAEM;21LAM;21TITUAEP;21NSUOT NGOM;22JEEEE;21KET;21NGGU",
   "21MAESI;22BUAEM;21LU;21KUT;21NJAM;22GOM;21WUP;21NGGUEET;22SOM;22TEN;21KUOP NKAARAE;21NSUN",
   "22DAM;21MA NSIEE;21YAA;21NDAP;21SHUEQ;22ETFON;21MBI;22AEMBA;22BANYI;21KEUSEUX;21MBEUX;21KEUM",
   "21MBAA PICKET;21YUWOQ;21NJEUX;21MIEE;22UAE;21SHIQ;21KEN LAW;25FATIGUE;21NGAQ;22AQ;21LIQ;21PIN",
   "22EN;21TET;19D MBUO;21WAP;21NJI;21MFON;21NJIEE;21LIEE;21NJEUT;22SHEE;22GGAAMAE;22YAM;21WUAEN",
   "21NGKUN;21SHEE;21NGKAP;21KEUAETMEUN;21TEUT;21SHEUAE;21NJAP;21SUE;21KET;21YAEMMAE;21KUOM;21SAP",
   "21MFEUT;21NDEUX;21MALEERI;22EUT;21SEUAEQ;21YEN;21NJEUAEM;21KEUOT MBUAE;21NGKEURI;21TU;21GHAA",
   "21NGKYEE;21FEUFEUAET;21NDEE;21MGBOFUM;21LEUAEP;21NDON;21MONI;22GBEUN;21PUUT;21MGBIEE;22FO",
   "21LUM;21NSIEEP;21MBAA;21KWAET;21NYET;21TEUAEN;21SOT;21YUWOQ;21KEUM;21RAEM;21TEEEE;21NGKEUAEQ",
   "21MFEUAE;21NSIEET;21KEUP;21PIP;22EUTAE;21NYUE;21LET;21NGGAAM;21MFIEE;21NGGWAEN;21YUOM;21PAP",
   "21YUOP;21NDAM;22TEUM;21SUAE;21KUN;21NGGEUX;23KIEE;21TUOT;21MEUN;21KUQ;21NSUM;21TEUN;21MAENJET",
   "21NGGAP;21LEUM;21NGGUOM;22SHUT;22JUEQ;21GHEUAE;21KU;21REN OLD;21TAE;22OQ;21NYI;21RII;21LEEEE",
   "21MEEEE;22;21SUU;21MU;21SHII;23EUX;21KYEE;21NU;21SHU;21NTEE;21PEE;21NI;21SHOQ;21PUQ;21MVOP",
   "21LOQ;21REN MUCH;21TI;21NTUU;21MBAA SEVEN;21SAQ;21FAA;19E NDAP;21TOON;21MBEUM;21LAP;21VOM",
   "21LOON;21PAA;21SOM;21RAQ;21NSHUOP;22DUN;21PUAE;21TAM;21NGKA;21KPEUX;21WUO;21SEE;21NGGEUAET",
   "21PAAM;21TOO;21KUOP;21LOM;21NSHIEE;22GOP;21MAEM;21NGKEUX;23OQ;22SHUE;21RIMGBA;21NJEUX;21PEEM",
   "21SAA;21NGGURAE;21MGBA;21GHEUX;21NGKEUAEM;22JAEMLI;21MAP;21LOOT;21NGGEEEE;22DIQ;21TAEN NTEUM",
   "21SET;21PUM;21NDAA SOFTNESS;22GGUAESHAE NYAM;21YIEE;21GHEUN;21TUAE;21YEUAE;21PO;21TUMAE",
   "21KEUAE;21SUAEN;21TEUAEQ;21VEUAE;21WEUX;21LAAM;21PU;21TAAQ;21GHAAMAE;21NGEUREUT;21SHEUAEQ",
   "21MGBEN;22BEE;21NZAQ;22KOM;21GBET;21TUM;21KUET;21YAP;21NYI CLEAVER;21YIT;21MFEUQ;21NDIAQ",
   "21PIEEQ;21YUEQ;21LEUAEM;21FUE;21GBEUX;21NGKUP;21KET;21MAE;21NGKAAMI;21GHET;21FA;21NTUM;21PEUT",
   "21YEUM;21NGGEUAE;22YI BETWEEN;22ZUQ;21POON;21MIEE;21FUET;21NAE;21MUAE;21GHEUAE;21FU I;21MVI",
   "21PUAQ;21NGKUM;21KUT;21PIET;21NTAP;21YEUAET;21NGGUP;21PA PEOPLE;21FU CALL;22OM;21NJEE;21A",
   "21TOQ;21O;21I;21LAQ;21PA PLURAL;21TAA;23Q;21NDAA MY HOUSE;21SHIQ;21YEUX;21NGUAE;21YUAEN",
   "22OQ SWIMMING;25COVER;22UQ;23N;21KEUX;21PEUX;21NJEE EPOCH;21PUE;21WUE;21FEE;21VEE;21LU;21MI",
   "21REUX;22AE;21NGUAET;23A;21SHO;24Q;21FU REMEDY;21NA;21PI;21LOQ;21KO;21MEN;22A;23Q;21TEU;21KI",
   "21MON;21TEN;21FAQ;21GHOM;19F KA;21U;21KU;21EE;21REE;21TAE;21NYI;21LA;21RII;23EE;21MEEEE;21TAA",
   "21NDAA;22JAEM;21M;21SUU;22HII;22I;22EUX;21KYEE;22ET;21NUAE;23;22JUAE;21YOQ;21SHU;21YA;21NSHA",
   "21PEUX;21NTEE;21WUE;21PEE;21RU;21NI;21REUX;21KEN;21NGKWAEN;23GA;21SHO;21PUAE;21FOM;21WA;21LI",
   "22OQ;21KO;21MBEN;21REN;21MA;22O;22BAA;21TET;21KPA;21SAMBA;21VUEQ;+16a40;00MRO LETTER TA;11NGI",
   "11YO;11MIM;11BA;11DA;11A;11PHI;11KHAI;11HAO;11DAI;11CHU;11KEAAE;11OL;11MAEM;11NIN;11PA;11OO;12",
   "11RO;11SHI;11THEA;11EA;11WA;11E;11KO;11LAN;13;11HAI;11RI;11TEK;+16a60;04DIGIT ZERO;10ONE;10TWO",
   "11HREE;10FOUR;11IVE;10SIX;11EVEN;10EIGHT;10NINE;+16a6e;05ANDA;05OUBLE DANDA;00TANGSA LETTER OZ",
   "15C;15Q;15X;14AZ;15C;15Q;15X;14VZ;15C;15Q;15X;14EZ;15C;15Q;15X;14IZ;15C;15Q;15X;14UZ;15C;15Q",
   "15X;14AWZ;16C;16Q;16X;14UIZ;16C;16Q;16X;14FINAL NG;14LONG UEX;14SHORT UEZ;20AWX;14UEC;16Z;16Q",
   "16X;15IUZ;17C;17Q;17X;14MZ;15C;15Q;15X;14KA;15HA;14GA;14NGA;14SA;14YA;14WA;14PA;14NYA;14PHA",
   "14BA;14MA;14NA;14HA;14LA;14HTA;14TA;14DA;14RA;14NHA;14SHA;14CA;14TSA;14GHA;14HTTA;14THA;14XA",
   "14FA;14DHA;14CHA;14ZA;+16ac0;07DIGIT ZERO;13ONE;13TWO;14HREE;13FOUR;14IVE;13SIX;14EVEN;13EIGHT",
   "13NINE;+16ad0;00BASSA VAH LETTER ENNI;17KA;17SE;17FA;17MBE;17YIE;17GAH;17DHII;17KPAH;17JO",
   "17HWAH;17WA;17ZO;17GBU;17DO;17CE;17UWU;17TO;17BA;17VU;17YEIN;17PA;17WADDA;17A;17O;18O;17U;17EE",
   "18;17I;+16af0;10COMBINING HIGH TONE;20LOW TONE;20MID TONE;20LOW-MID TONE;20HIGH-LOW TONE",
   "10FULL STOP;+16b00;00PAHAWH HMONG VOWEL KEEB;22V;20IB;21V;20AUB;22V;20UB;21V;20EB;21V;20AIB",
   "22V;20OOB;22V;20AWB;22V;20UAB;22V;20OB;21V;20IAB;22V;20AB;21V;20WB;21V;20AAB;22V",
   "13CONSONANT VAU;23NTSAU;23LAU;23HAU;23NLAU;23RAU;23NKAU;23QHAU;23YAU;23HLAU;23MAU;23CHAU",
   "23NCHAU;23HNAU;23PLHAU;23NTHAU;24AU;23AU;23XAU;23CAU;13MARK CIM TUB;22SO;22KES;23HAV;22SUAM",
   "22HOM;22TAUM;13SIGN VOS THOM;23SHAB CEEB;18CIM CHEEM;18VOS THIAB;22FEEM;18XYEEM NTXIV;24RHO",
   "24TOV;24FAIB;18VOS SEEV;18MEEJ SUAB;18VOS NRUA;18IB YAM;18XAUS;18CIM TSOV ROG;+16b50",
   "13DIGIT ZERO;19ONE;19TWO;20HREE;19FOUR;20IVE;19SIX;20EVEN;19EIGHT;19NINE;+16b5b;13NUMBER TENS",
   "20HUNDREDS;20TEN THOUSANDS;20MILLIONS;20HUNDRED MILLIONS;20TEN BILLIONS;21RILLIONS;+16b63",
   "13SIGN VOS LUB;18XYOO;18HLI;18THIRD-STAGE HLI;18ZWJ THAJ;18HNUB;18NQIG;18XIAB;18NTUJ;18AV",
   "18TXHEEJ CEEV;18MEEJ TSEEB;18TAU;18LOS;18MUS;18CIM HAIS LUS NTOG NTOG;22CUAM TSHOOJ;22TXWV",
   "26 CHWV;22PUB DAWB;22NRES TOS;+16b7d;13CLAN SIGN TSHEEJ;23YEEG;23LIS;24AUJ;23XYOOJ;23KOO",
   "23HAWJ;23MUAS;23THOJ;24SAB;23PHAB;23KHAB;23HAM;23VAJ;23FAJ;23YAJ;23TSWB;23KWM;23VWJ;+16e40",
   "00MEDEFAIDRIN CAPITAL LETTER M;27S;27V;27W;27ATIU;27Z;27KP;27P;27T;27G;27F;27I;27K;27A;27J;27E",
   "27B;27C;27U;27YU;27L;27Q;27HP;27NY;27X;27D;27OE;27N;27R;27O;27AI;27Y;12SMALL LETTER M;25S;25V",
   "25W;25ATIU;25Z;25KP;25P;25T;25G;25F;25I;25K;25A;25J;25E;25B;25C;25U;25YU;25L;25Q;25HP;25NY;25X",
   "25D;25OE;25N;25R;25O;25AI;25Y;12DIGIT ZERO;18ONE;18TWO;19HREE;18FOUR;19IVE;18SIX;19EVEN",
   "18EIGHT;18NINE;12NUMBER TEN;19ELEVEN;19TWELVE;20HIRTEEN;19FOURTEEN;20IFTEEN;19SIXTEEN",
   "20EVENTEEN;19EIGHTEEN;19NINETEEN;12DIGIT ONE ALTERNATE FORM;18TWO ALTERNATE FORM",
   "19HREE ALTERNATE FORM;12COMMA;12FULL STOP;12SYMBOL AIVA;12EXCLAMATION OH;+16f00",
   "01IAO LETTER PA;12BA;12YI PA;12PLA;12MA;13HA;12ARCHAIC MA;12FA;12VA;13FA;12TA;12DA;12YI TTA",
   "16A;12TTA;12DDA;12NA;13HA;12YI NNA;12ARCHAIC NA;12NNA;14HA;12LA;13YA;13HA;14YA;12TLHA;12DLHA",
   "12TLHYA;12DLHYA;12KA;12GA;12YI KA;12QA;13GA;12NGA;14HA;12ARCHAIC NGA;12HA;12XA;12GHA;14HA",
   "12TSSA;12DZZA;12NYA;14HA;12TSHA;12DZHA;12YI TSHA;15DZHA;12REFORMED TSHA;12SHA;13SA;12ZHA;13SHA",
   "12TSA;12DZA;12YI TSA;12SA;12ZA;13SA;13ZA;14SA;12ARCHAIC ZZA;12ZZYA;14SYA;12WA;12AH;12HHA;12BRI",
   "12SYI;12DZYI;12TE;13SE;12RTE;+16f4f;05SIGN CONSONANT MODIFIER BAR;05LETTER NASALIZATION",
   "05SIGN ASPIRATION;10REFORMED VOICING;19ASPIRATION;05VOWEL SIGN A;17A;17HH;17N;18G;16O;17O;16WO",
   "17;16E;17N;18G;16OEY;16I;17A;18N;19G;17O;17E;17I;17U;17NG;16U;17A;18N;19G;17U;17EI;17NG;16Y",
   "17I;16AE;18E;16ERR;16ROUNDED ERR;16ER;16ROUNDED ER;16AI;16EI;16AU;16OU;16N;17G;16UOG;16YUI",
   "16OG;17ER;16VW;16IG;16EA;16IONG;16UI;+16f8f;05TONE RIGHT;10TOP RIGHT;10ABOVE;10BELOW",
   "05LETTER TONE-2;173;174;175;176;177;178;12REFORMED TONE-1;262;264;265;266;268;+16fe0",
   "00TANGUT ITERATION MARK;00NUSHU ITERATION MARK;00OLD CHINESE HOOK MARK;12ITERATION MARK",
   "00KHITAN SMALL SCRIPT FILLER;+16ff0;00VIETNAMESE ALTERNATE READING MARK CA;34NHAY;+18800",
   "00TANGUT COMPONENT-001;192;193;194;195;196;197;198;199;1810;191;192;193;194;195;196;197;198",
   "199;1820;191;192;193;194;195;196;197;198;199;1830;191;192;193;194;195;196;197;198;199;1840;191",
   "192;193;194;195;196;197;198;199;1850;191;192;193;194;195;196;197;198;199;1860;191;192;193;194",
   "195;196;197;198;199;1870;191;192;193;194;195;196;197;198;199;1880;191;192;193;194;195;196;197",
   "198;199;1890;191;192;193;194;195;196;197;198;199;17100;191;192;193;194;195;196;197;198;199",
   "1810;191;192;193;194;195;196;197;198;199;1820;191;192;193;194;195;196;197;198;199;1830;191;192",
   "193;194;195;196;197;198;199;1840;191;192;193;194;195;196;197;198;199;1850;191;192;193;194;195",
   "196;197;198;199;1860;191;192;193;194;195;196;197;198;199;1870;191;192;193;194;195;196;197;198",
   "199;1880;191;192;193;194;195;196;197;198;199;1890;191;192;193;194;195;196;197;198;199;17200",
   "191;192;193;194;195;196;197;198;199;1810;191;192;193;194;195;196;197;198;199;1820;191;192;193",
   "194;195;196;197;198;199;1830;191;192;193;194;195;196;197;198;199;1840;191;192;193;194;195;196",
   "197;198;199;1850;191;192;193;194;195;196;197;198;199;1860;191;192;193;194;195;196;197;198;199",
   "1870;191;192;193;194;195;196;197;198;199;1880;191;192;193;194;195;196;197;198;199;1890;191;192",
   "193;194;195;196;197;198;199;17300;191;192;193;194;195;196;197;198;199;1810;191;192;193;194;195",
   "196;197;198;199;1820;191;192;193;194;195;196;197;198;199;1830;191;192;193;194;195;196;197;198",
   "199;1840;191;192;193;194;195;196;197;198;199;1850;191;192;193;194;195;196;197;198;199;1860;191",
   "192;193;194;195;196;197;198;199;1870;191;192;193;194;195;196;197;198;199;1880;191;192;193;194",
   "195;196;197;198;199;1890;191;192;193;194;195;196;197;198;199;17400;191;192;193;194;195;196;197",
   "198;199;1810;191;192;193;194;195;196;197;198;199;1820;191;192;193;194;195;196;197;198;199;1830",
   "191;192;193;194;195;196;197;198;199;1840;191;192;193;194;195;196;197;198;199;1850;191;192;193",
   "194;195;196;197;198;199;1860;191;192;193;194;195;196;197;198;199;1870;191;192;193;194;195;196",
   "197;198;199;1880;191;192;193;194;195;196;197;198;199;1890;191;192;193;194;195;196;197;198;199",
   "17500;191;192;193;194;195;196;197;198;199;1810;191;192;193;194;195;196;197;198;199;1820;191",
   "192;193;194;195;196;197;198;199;1830;191;192;193;194;195;196;197;198;199;1840;191;192;193;194",
   "195;196;197;198;199;1850;191;192;193;194;195;196;197;198;199;1860;191;192;193;194;195;196;197",
   "198;199;1870;191;192;193;194;195;196;197;198;199;1880;191;192;193;194;195;196;197;198;199;1890",
   "191;192;193;194;195;196;197;198;199;17600;191;192;193;194;195;196;197;198;199;1810;191;192;193",
   "194;195;196;197;198;199;1820;191;192;193;194;195;196;197;198;199;1830;191;192;193;194;195;196",
   "197;198;199;1840;191;192;193;194;195;196;197;198;199;1850;191;192;193;194;195;196;197;198;199",
   "1860;191;192;193;194;195;196;197;198;199;1870;191;192;193;194;195;196;197;198;199;1880;191;192",
   "193;194;195;196;197;198;199;1890;191;192;193;194;195;196;197;198;199;17700;191;192;193;194;195",
   "196;197;198;199;1810;191;192;193;194;195;196;197;198;199;1820;191;192;193;194;195;196;197;198",
   "199;1830;191;192;193;194;195;196;197;198;199;1840;191;192;193;194;195;196;197;198;199;1850;191",
   "192;193;194;195;196;197;198;199;1860;191;192;193;194;195;196;197;198",
   "00KHITAN SMALL SCRIPT CHARACTER-18B00;341;342;343;344;345;346;347;348;349;34A;34B;34C;34D;34E",
   "34F;3310;341;342;343;344;345;346;347;348;349;34A;34B;34C;34D;34E;34F;3320;341;342;343;344;345",
   "346;347;348;349;34A;34B;34C;34D;34E;34F;3330;341;342;343;344;345;346;347;348;349;34A;34B;34C",
   "34D;34E;34F;3340;341;342;343;344;345;346;347;348;349;34A;34B;34C;34D;34E;34F;3350;341;342;343",
   "344;345;346;347;348;349;34A;34B;34C;34D;34E;34F;3360;341;342;343;344;345;346;347;348;349;34A",
   "34B;34C;34D;34E;34F;3370;341;342;343;344;345;346;347;348;349;34A;34B;34C;34D;34E;34F;3380;341",
   "342;343;344;345;346;347;348;349;34A;34B;34C;34D;34E;34F;3390;341;342;343;344;345;346;347;348",
   "349;34A;34B;34C;34D;34E;34F;33A0;341;342;343;344;345;346;347;348;349;34A;34B;34C;34D;34E;34F",
   "33B0;341;342;343;344;345;346;347;348;349;34A;34B;34C;34D;34E;34F;33C0;341;342;343;344;345;346",
   "347;348;349;34A;34B;34C;34D;34E;34F;33D0;341;342;343;344;345;346;347;348;349;34A;34B;34C;34D",
   "34E;34F;33E0;341;342;343;344;345;346;347;348;349;34A;34B;34C;34D;34E;34F;33F0;341;342;343;344",
   "345;346;347;348;349;34A;34B;34C;34D;34E;34F;32C00;341;342;343;344;345;346;347;348;349;34A;34B",
   "34C;34D;34E;34F;3310;341;342;343;344;345;346;347;348;349;34A;34B;34C;34D;34E;34F;3320;341;342",
   "343;344;345;346;347;348;349;34A;34B;34C;34D;34E;34F;3330;341;342;343;344;345;346;347;348;349",
   "34A;34B;34C;34D;34E;34F;3340;341;342;343;344;345;346;347;348;349;34A;34B;34C;34D;34E;34F;3350",
   "341;342;343;344;345;346;347;348;349;34A;34B;34C;34D;34E;34F;3360;341;342;343;344;345;346;347",
   "348;349;34A;34B;34C;34D;34E;34F;3370;341;342;343;344;345;346;347;348;349;34A;34B;34C;34D;34E",
   "34F;3380;341;342;343;344;345;346;347;348;349;34A;34B;34C;34D;34E;34F;3390;341;342;343;344;345",
   "346;347;348;349;34A;34B;34C;34D;34E;34F;33A0;341;342;343;344;345;346;347;348;349;34A;34B;34C",
   "34D;34E;34F;33B0;341;342;343;344;345;346;347;348;349;34A;34B;34C;34D;34E;34F;33C0;341;342;343",
   "344;345;346;347;348;349;34A;34B;34C;34D;34E;34F;33D0;341;342;343;344;345;+1aff0",
   "01ATAKANA LETTER MINNAN TONE-2;283;284;285;+1aff5;287;288;23NASALIZED TONE-1;382;383;384;385",
   "+1affd;387;388;+1b000;16ARCHAIC E;00HIRAGANA LETTER ARCHAIC YE;01ENTAIGANA LETTER A-1;202;203",
   "20WO;18I-1;202;203;204;18U-1;202;203;204;205;18E-2;203;204;205;206;18O-1;202;203;18KA-1;212",
   "213;214;215;216;217;218;219;2110;221;21KE;19I-1;212;213;214;215;216;217;218;19U-1;212;213;214",
   "215;216;217;19E-1;212;213;214;215;216;19O-1;212;213;21KI;18SA-1;212;213;214;215;216;217;218",
   "19I-1;212;213;214;215;216;19U-1;212;213;214;215;216;217;218;19E-1;212;213;214;215;19O-1;212",
   "213;214;215;216;217;18TA-1;212;213;214;19I-1;212;213;214;215;216;217;19U-1;212;213;214;21TO",
   "19E-1;212;213;214;215;216;217;218;219;19O-1;212;213;214;215;216;21RA;18NA-1;212;213;214;215",
   "216;217;218;219;19I-1;212;213;214;215;216;217;21TE;19U-1;212;213;19E-1;212;213;214;215;216",
   "21KO;19O-1;212;213;214;215;18HA-1;212;213;214;215;216;217;218;219;2110;221;19I-1;212;213;214",
   "215;216;217;19U-1;212;213;19E-1;212;213;214;215;216;217;19O-1;212;213;214;215;216;217;218",
   "18MA-1;212;213;214;215;216;217;19I-1;212;213;214;215;216;217;19U-1;212;213;214;19E-1;212;21MA",
   "19O-1;212;213;214;215;216;18YA-1;212;213;214;215;21YO;19U-1;212;213;214;19O-1;212;213;214;215",
   "216;18RA-1;212;213;214;19I-1;212;213;214;215;216;217;19U-1;212;213;214;215;216;19E-1;212;213",
   "214;19O-1;212;213;214;215;216;18WA-1;212;213;214;215;19I-1;212;213;214;215;19E-1;212;213;214",
   "19O-1;212;213;214;215;216;217;18N-MU-MO-1;262;01IRAGANA LETTER ARCHAIC WU",
   "00KATAKANA LETTER ARCHAIC YI;25E;24WU;+1b150;00HIRAGANA LETTER SMALL WI;23E;23O;+1b164",
   "00KATAKANA LETTER SMALL WI;23E;23O;22N;+1b170;00NUSHU CHARACTER-1B170;201;202;203;204;205;206",
   "207;208;209;20A;20B;20C;20D;20E;20F;1980;201;202;203;204;205;206;207;208;209;20A;20B;20C;20D",
   "20E;20F;1990;201;202;203;204;205;206;207;208;209;20A;20B;20C;20D;20E;20F;19A0;201;202;203;204",
   "205;206;207;208;209;20A;20B;20C;20D;20E;20F;19B0;201;202;203;204;205;206;207;208;209;20A;20B",
   "20C;20D;20E;20F;19C0;201;202;203;204;205;206;207;208;209;20A;20B;20C;20D;20E;20F;19D0;201;202",
   "203;204;205;206;207;208;209;20A;20B;20C;20D;20E;20F;19E0;201;202;203;204;205;206;207;208;209",
   "20A;20B;20C;20D;20E;20F;19F0;201;202;203;204;205;206;207;208;209;20A;20B;20C;20D;20E;20F;18200",
   "201;202;203;204;205;206;207;208;209;20A;20B;20C;20D;20E;20F;1910;201;202;203;204;205;206;207",
   "208;209;20A;20B;20C;20D;20E;20F;1920;201;202;203;204;205;206;207;208;209;20A;20B;20C;20D;20E",
   "20F;1930;201;202;203;204;205;206;207;208;209;20A;20B;20C;20D;20E;20F;1940;201;202;203;204;205",
   "206;207;208;209;20A;20B;20C;20D;20E;20F;1950;201;202;203;204;205;206;207;208;209;20A;20B;20C",
   "20D;20E;20F;1960;201;202;203;204;205;206;207;208;209;20A;20B;20C;20D;20E;20F;1970;201;202;203",
   "204;205;206;207;208;209;20A;20B;20C;20D;20E;20F;1980;201;202;203;204;205;206;207;208;209;20A",
   "20B;20C;20D;20E;20F;1990;201;202;203;204;205;206;207;208;209;20A;20B;20C;20D;20E;20F;19A0;201",
   "202;203;204;205;206;207;208;209;20A;20B;20C;20D;20E;20F;19B0;201;202;203;204;205;206;207;208",
   "209;20A;20B;20C;20D;20E;20F;19C0;201;202;203;204;205;206;207;208;209;20A;20B;20C;20D;20E;20F",
   "19D0;201;202;203;204;205;206;207;208;209;20A;20B;20C;20D;20E;20F;19E0;201;202;203;204;205;206",
   "207;208;209;20A;20B;20C;20D;20E;20F;19F0;201;202;203;204;205;206;207;208;209;20A;20B;+1bc00",
   "00DUPLOYAN LETTER H;16X;16P;16T;16F;16K;16L;16B;16D;16V;16G;16R;16P N;16D S;16F N;16K M;16R S",
   "16TH;16SLOAN DH;16DH;16KK;16SLOAN J;16HL;16LH;16RH;16M;16N;16J;16S;16M N;16N M;16J M;16S J",
   "16M WITH DOT;16N WITH DOT;16J WITH DOT;26S INSIDE AND ABOVE;16S WITH DOT;26 BELOW;16M S;16N S",
   "16J S;16S S;16M N S;16N M S;16J M S;16S J S;16J S WITH DOT;18N;19 S;16S T;19 R;18P;19 R;16T S",
   "18R S;16W;17H;17 R;16S N;18M;16K R S;16G R S;16S K;19 R;16A;16SLOAN OW;16OA;17;16AOU;16I;16E",
   "16IE;16SHORT I;16UI;16EE;16SLOAN EH;16ROMANIAN I;16SLOAN EE;16LONG I;16YE;16U;16EU;16XW;16U N",
   "16LONG U;16ROMANIAN U;16UH;16SLOAN U;16OOH;17W;17U;16WA;17O;17I;17EI;17OW;16NASAL U;22O;22I",
   "22A;16PERNIN AN;24M;16SLOAN EN;22AN;22ON;16VOCALIC M;+1bc70;09AFFIX LEFT HORIZONTAL SECANT",
   "15MID HORIZONTAL SECANT;15RIGHT HORIZONTAL SECANT;15LOW VERTICAL SECANT;15MID VERTICAL SECANT",
   "15HIGH VERTICAL SECANT;15ATTACHED SECANT;24LEFT-TO-RIGHT SECANT;24TANGENT;26IL;24E HOOK",
   "24I HOOK;24TANGENT HOOK;+1bc80;15HIGH ACUTE;20TIGHT ACUTE;20GRAVE;20LONG GRAVE;20DOT;20CIRCLE",
   "20LINE;20WAVE;20VERTICAL;+1bc90;15LOW ACUTE;19TIGHT ACUTE;19GRAVE;19LONG GRAVE;19DOT;19CIRCLE",
   "19LINE;19WAVE;19VERTICAL;19ARROW;+1bc9c;09SIGN O WITH CROSS;09THICK LETTER SELECTOR",
   "09DOUBLE MARK;09PUNCTUATION CHINOOK FULL STOP;00SHORTHAND FORMAT LETTER OVERLAP",
   "17CONTINUING OVERLAP;17DOWN STEP;17UP STEP;+1cf00",
   "00ZNAMENNY COMBINING MARK GORAZDO NIZKO S KRYZHEM ON LEFT;24NIZKO S KRYZHEM ON LEFT",
   "24TSATA ON LEFT;24GORAZDO NIZKO ON LEFT;24NIZKO ON LEFT;24SREDNE ON LEFT",
   "24MALO POVYSHE ON LEFT;24POVYSHE ON LEFT;24VYSOKO ON LEFT;24MALO POVYSHE S KHOKHLOM ON LEFT",
   "24POVYSHE S KHOKHLOM ON LEFT;24VYSOKO S KHOKHLOM ON LEFT;24GORAZDO NIZKO S KRYZHEM ON RIGHT",
   "24NIZKO S KRYZHEM ON RIGHT;24TSATA ON RIGHT;24GORAZDO NIZKO ON RIGHT;24NIZKO ON RIGHT",
   "24SREDNE ON RIGHT;24MALO POVYSHE ON RIGHT;24POVYSHE ON RIGHT;24VYSOKO ON RIGHT",
   "24MALO POVYSHE S KHOKHLOM ON RIGHT;24POVYSHE S KHOKHLOM ON RIGHT;24VYSOKO S KHOKHLOM ON RIGHT",
   "24TSATA S KRYZHEM;24MALO POVYSHE S KRYZHEM;24STRANNO MALO POVYSHE;24POVYSHE S KRYZHEM;33TRANNO",
   "24VYSOKO S KRYZHEM;24MALO POVYSHE STRANNO;24GORAZDO VYSOKO;24ZELO;24ON;24RAVNO;24TIKHAYA",
   "24BORZAYA;24UDARKA;24PODVERTKA;24LOMKA;24KUPNAYA;25ACHKA;24ZEVOK;24SKOBA;24RAZSEKA",
   "24KRYZH ON LEFT;+1cf30;19TONAL RANGE MARK MRACHNO;36SVETLO;36TRESVETLO;19MARK ZADERZHKA",
   "24DEMESTVENNY ZADERZHKA;24OTSECHKA;24PODCHASHIE;34 WITH VERTICAL STROKE;24CHASHKA;31 POLNAYA",
   "24OBLACHKO;24SOROCHYA NOZHKA;24TOCHKA;24DVOETOCHIE;19ATTACHING VERTICAL OMET",
   "19MARK CURVED OMET;24KRYZH;19LOWER TONAL RANGE INDICATOR;09PRIZNAK MODIFIER LEVEL-2;323",
   "26DIRECTION FLIP;26KRYZH;26ROG;+1cf50;09NEUME KRYUK;20 TIKHY;15PARAKLIT;15DVA V CHELNU",
   "15KLYUCH;15ZANOZHEK;15STOPITSA;23 S OCHKOM;15PEREVODKA;24 NEPOSTOYANNAYA",
   "15STOPITSA WITH SOROCHYA NOZHKA;15CHELYUSTKA;15PALKA;15ZAPYATAYA;15GOLUBCHIK BORZY;25TIKHY",
   "25MRACHNY;25SVETLY;25TRESVETLY;15VRAKHIYA PROSTAYA;24MRACHNAYA;24SVETLAYA;24TRESVETLAYA",
   "24KLYUCHEVAYA PROSTAYA;36MRACHNAYA;36SVETLAYA;36TRESVETLAYA;15DOUBLE ZAPYATAYA",
   "15REVERSED CHELYUSTKA;15DERBITSA;15KHAMILO;15CHASHKA;15PODCHASHIE;15SKAMEYTSA MRACHNAYA",
   "25SVETLAYA;25TRESVETLAYA;26IKHAYA;15DEMESTVENNY KLYUCH;15SKAMEYTSA KLYUCHEVAYA SVETLAYA",
   "32NEPOSTOYANNAYA;32VAYA TIKHAYA;25DVOECHELNAYA PROSTAYA;38SVETLAYA;38NEPOSTOYANNAYA",
   "38KLYUCHEVAYA;16LOZHITIE;24 S ZAPYATOY;25ZAKRYTOE;25S KRYZHEM;15KRYZH;15ROG;15FITA;15KOBYLA",
   "15ZMEYTSA;15STATYA;21 S ZAPYATOY;24KRYZHEM;24ZAPYATOY I KRYZHEM;24KRYZHEM I ZAPYATOY",
   "22ZAKRYTAYA;31 S ZAPYATOY;22S ROGOM;24DVUMYA ZAPYATYMI;24ZAPYATOY I PODCHASHIEM;15POLKULIZMY",
   "15STATYA NEPOSTOYANNAYA;17RELA PROSTAYA;22MRACHNOTIKHAYA;22KRYZHEVAYA;22POLUPOVODNAYA",
   "24VODNAYA;22NEPOSTOYANNAYA;22KLYUCHEPOVODNAYA;29NEPOSTOYANNAYA;22TIKHAYA PUTNAYA",
   "22DVOECHELNAYA;31OKRYZHEVAYA;32POVODNAYA;31AYA KLYUCHEVAYA;31OPOVODNAYA KLYUCHEVAYA",
   "22GROMNAYA WITH SINGLE ZAPYATAYA;26OPOVODNAYA WITH SINGLE ZAPYATAYA;26NAYA;26OPOVODNAYA",
   "36 WITH DOUBLE ZAPYATAYA;27KRYZHEVAYA;37 POVODNAYA;15MECHIK;21 POVODNY;22KLYUCHEVOY;29POVODNY",
   "29NEPOSTOYANNY;15STRELA TRYASOGLASNAYA;28POVODNAYA;28STRELNAYA;15OSOKA;20 SVETLAYA",
   "21TRESVETLAYA;21KRYUKOVAYA SVETLAYA;22LYUCHEVAYA SVETLAYA;33NEPOSTOYANNAYA;15STRELA KRYUKOVAYA",
   "32 POVODNAYA;33GROMNAYA WITH SINGLE ZAPYATAYA;37OPOVODNAYA WITH SINGLE ZAPYATAYA;37NAYA",
   "37OPOVODNAYA;47 WITH DOUBLE ZAPYATAYA;38KRYZHEVAYA;48 POVODNAYA;33TRYASKA;15KUFISMA;15OBLAKO",
   "15DUDA;15NEMKA;15PAUK"]

/-- The names of the code points from 1d000 up. -/
def highestNames : List String :=
  ["+1d000;00BYZANTINE MUSICAL SYMBOL PSILI;25DASEIA;25PERISPOMENI;25OXEIA EKFONITIKON;31DIPLI",
   "25VAREIA EKFONITIKON;32DIPLI;25KATHISTI;25SYRMATIKI;25PARAKLITIKI;25YPOKRISIS;34 DIPLI",
   "25KREMASTI;25APESO EKFONITIKON;25EXO EKFONITIKON;25TELEIA;25KENTIMATA;25APOSTROFOS;35 DIPLI",
   "25SYNEVMA;25THITA;25OLIGON ARCHAION;25GORGON ARCHAION;25PSILON;25CHAMILON;25VATHY",
   "25ISON ARCHAION;25KENTIMA ARCHAION;32TA ARCHAION;25SAXIMATA;25PARICHON;25STAVROS APODEXIA",
   "25OXEIAI ARCHAION;25VAREIAI ARCHAION;25APODERMA ARCHAION;28THEMA;25KLASMA;25REVMA",
   "25PIASMA ARCHAION;25TINAGMA;25ANATRICHISMA;25SEISMA;26YNAGMA ARCHAION;33META STAVROU",
   "25OYRANISMA ARCHAION;25THEMA;25LEMOI;25DYO;25TRIA;26ESSERA;25KRATIMATA;25APESO EXO NEO",
   "25FTHORA ARCHAION;25IMIFTHORA;25TROMIKON ARCHAION;25KATAVA TROMIKON;25PELASTON;26SIFISTON",
   "25KONTEVMA;25CHOREVMA ARCHAION;25RAPISMA;25PARAKALESMA ARCHAION;30LITIKI ARCHAION;25ICHADIN",
   "25NANA;25PETASMA;25KONTEVMA ALLO;25TROMIKON ALLO;25STRAGGISMATA;25GRONTHISMATA;25ISON NEO",
   "25OLIGON NEO;26XEIA NEO;25PETASTI;25KOUFISMA;25PETASTOKOUFISMA;25KRATIMOKOUFISMA",
   "25PELASTON NEO;25KENTIMATA NEO ANO;32 NEO ANO;25YPSILI;25APOSTROFOS NEO;34I SYNDESMOS NEO",
   "25YPORROI;25KRATIMOYPORROON;25ELAFRON;25CHAMILI;25MIKRON ISON;25VAREIA NEO;25PIASMA NEO",
   "26SIFISTON NEO;25OMALON;25ANTIKENOMA;25LYGISMA;25PARAKLITIKI NEO;30ALESMA NEO",
   "25ETERON PARAKALESMA;25KYLISMA;25ANTIKENOKYLISMA;25TROMIKON NEO;25EKSTREPTON;25SYNAGMA NEO",
   "27RMA;25CHOREVMA NEO;25EPEGERMA;25SEISMA NEO;25XIRON KLASMA;25TROMIKOPSIFISTON",
   "25PSIFISTOLYGISMA;25TROMIKOLYGISMA;32PARAKALESMA;25PSIFISTOPARAKALESMA;25TROMIKOSYNAGMA",
   "25PSIFISTOSYNAGMA;25GORGOSYNTHETON;25ARGOSYNTHETON;25ETERON ARGOSYNTHETON;25OYRANISMA NEO",
   "25THEMATISMOS ESO;38XO;30 APLOUN;28S KAI APOTHES;25KATAVASMA;25ENDOFONON;25YFEN KATO;30ANO",
   "25STAVROS;25KLASMA ANO;25DIPLI ARCHAION;25KRATIMA ARCHAION;34LLO;33NEO;25APODERMA NEO;27LI",
   "25DIPLI;25TRIPLI;26ETRAPLI;25KORONIS;25LEIMMA ENOS CHRONOU;32DYO CHRONON;32TRION CHRONON",
   "33ESSARON CHRONON;32IMISEOS CHRONOU;25GORGON NEO ANO;32PARESTIGMENON ARISTERA;46DEXIA",
   "25DIGORGON;33 PARESTIGMENON ARISTERA KATO;57ANO;48DEXIA;25TRIGORGON;25ARGON;25IMIDIARGON",
   "25DIARGON;25AGOGI POLI ARGI;31ARGOTERI;34I;31METRIA;33SI;31GORGI;35OTERI;31POLI GORGI",
   "25MARTYRIA PROTOS ICHOS;34ALLI PROTOS ICHOS;34DEYTEROS ICHOS;34ALLI DEYTEROS ICHOS",
   "34TRITOS ICHOS;37FONIAS;35ETARTOS ICHOS;43LEGETOS ICHOS;34LEGETOS ICHOS;34PLAGIOS ICHOS",
   "25ISAKIA TELOUS ICHIMATOS;25APOSTROFOI TELOUS ICHIMATOS;25FANEROSIS TETRAFONIAS;35MONOFONIAS",
   "35DIFONIAS;25MARTYRIA VARYS ICHOS;34PROTOVARYS ICHOS;35LAGIOS TETARTOS ICHOS",
   "25GORTHMIKON N APLOUN;38DIPLOUN;25ENARXIS KAI FTHORA VOU;25IMIFONON;29THORON",
   "25FTHORA ARCHAION DEYTEROU ICHOU;32DIATONIKI PA;42NANA;32NAOS ICHOS;32DIATONIKI DI",
   "32SKLIRON DIATONON DI;32DIATONIKI KE;42ZO;42NI KATO;45ANO;32MALAKON CHROMA DIFONIAS",
   "47MONOFONIAS;26HTORA SKLIRON CHROMA VASIS;26THORA SKLIRON CHROMA SYNAFI;32NENANO;25CHROA ZYGOS",
   "31KLITON;31SPATHI;25FTHORA I YFESIS TETARTIMORION;32ENARMONIOS ANTIFONIA;25YFESIS TRITIMORION",
   "25DIESIS TRITIMORION;33ETARTIMORION;32APLI DYO DODEKATA;32MONOGRAMMOS TESSERA DODEKATA",
   "32DIGRAMMOS EX DODEKATA;32TRIGRAMMOS OKTO DODEKATA;25YFESIS APLI DYO DODEKATA",
   "32MONOGRAMMOS TESSERA DODEKATA;32DIGRAMMOS EX DODEKATA;32TRIGRAMMOS OKTO DODEKATA",
   "25GENIKI DIESIS;32YFESIS;25DIASTOLI APLI MIKRI;40EGALI;34DIPLI;34THESEOS;25SIMANSIS THESEOS",
   "41 DISIMOU;42TRISIMOU;43ETRASIMOU;34ARSEOS;40 DISIMOU;41TRISIMOU;42ETRASIMOU;25DIGRAMMA GG",
   "27FTOGGOS OU;25STIGMA;25ARKTIKO PA;33VOU;33GA;33DI;33KE;33ZO;33NI;25KENTIMATA NEO MESO",
   "32 NEO MESO;32TA NEO KATO;32 NEO KATO;26LASMA KATO;25GORGON NEO KATO;+1d100",
   "00MUSICAL SYMBOL SINGLE BARLINE;15DOUBLE BARLINE;15FINAL BARLINE;15REVERSE FINAL BARLINE",
   "15DASHED BARLINE;15SHORT BARLINE;15LEFT REPEAT SIGN;15RIGHT REPEAT SIGN;16EPEAT DOTS",
   "15DAL SEGNO;17 CAPO;15SEGNO;15CODA;15REPEATED FIGURE-1;312;313;15FERMATA;22 BELOW",
   "15BREATH MARK;15CAESURA;15BRACE;19KET;15ONE-LINE STAFF;15TWO-LINE STAFF;16HREE-LINE STAFF",
   "15FOUR-LINE STAFF;16IVE-LINE STAFF;15SIX-LINE STAFF;19STRING FRETBOARD;15FOUR-STRING FRETBOARD",
   "15G CLEF;21 OTTAVA ALTA;29BASSA;15C CLEF;15F CLEF;21 OTTAVA ALTA;29BASSA;15DRUM CLEF-1;252",
   "+1d129;15MULTIPLE MEASURE REST;15DOUBLE SHARP;22FLAT;15FLAT UP;20DOWN;15NATURAL UP;23DOWN",
   "15SHARP UP;21DOWN;15QUARTER TONE SHARP;28FLAT;15COMMON TIME;16UT TIME;15OTTAVA ALTA;22BASSA",
   "15QUINDICESIMA ALTA;28BASSA;15MULTI REST;15WHOLE REST;15HALF REST;15QUARTER REST;15EIGHTH REST",
   "15SIXTEENTH REST;15THIRTY-SECOND REST;15SIXTY-FOURTH REST;15ONE HUNDRED TWENTY-EIGHTH REST",
   "15X NOTEHEAD;15PLUS NOTEHEAD;15CIRCLE X NOTEHEAD;15SQUARE NOTEHEAD WHITE;31BLACK",
   "15TRIANGLE NOTEHEAD UP WHITE;36BLACK;33LEFT WHITE;38BLACK;33RIGHT WHITE;39BLACK;33DOWN WHITE",
   "38BLACK;33UP RIGHT WHITE;42BLACK;15MOON NOTEHEAD WHITE;29BLACK",
   "15TRIANGLE-ROUND NOTEHEAD DOWN WHITE;44BLACK;15PARENTHESIS NOTEHEAD;15VOID NOTEHEAD",
   "15NOTEHEAD BLACK;16ULL NOTEHEAD;15CLUSTER NOTEHEAD WHITE;32BLACK;15BREVE;15WHOLE NOTE",
   "15HALF NOTE;15QUARTER NOTE;15EIGHTH NOTE;15SIXTEENTH NOTE;15THIRTY-SECOND NOTE",
   "15SIXTY-FOURTH NOTE;15ONE HUNDRED TWENTY-EIGHTH NOTE;15COMBINING STEM;26PRECHGESANG STEM",
   "25TREMOLO-1;332;333;15FINGERED TREMOLO-1;322;323;15COMBINING AUGMENTATION DOT;25FLAG-1;302;303",
   "304;305;15BEGIN BEAM;15END BEAM;15BEGIN TIE;15END TIE;15BEGIN SLUR;15END SLUR;15BEGIN PHRASE",
   "15END PHRASE;15COMBINING ACCENT;25STACCATO;25TENUTO;25STACCATISSIMO;25MARCATO;32-STACCATO",
   "25ACCENT-STACCATO;25LOURE;15ARPEGGIATO UP;26DOWN;15COMBINING DOIT;25RIP;25FLIP;25SMEAR;25BEND",
   "25DOUBLE TONGUE;25TRIPLE TONGUE;15RINFORZANDO;15SUBITO;15Z;15PIANO;15MEZZO;15FORTE;15CRESCENDO",
   "15DECRESCENDO;15GRACE NOTE SLASH;26NO SLASH;15TR;16URN;15INVERTED TURN;15TURN SLASH;20UP",
   "15ORNAMENT STROKE-1;312;313;314;315;316;317;318;319;3110;321;15HAUPTSTIMME;15NEBENSTIMME",
   "15END OF STIMME;15DEGREE SLASH;15COMBINING DOWN BOW;25UP BOW;25HARMONIC;25SNAP PIZZICATO",
   "15PEDAL MARK;21UP MARK;15HALF PEDAL MARK;15GLISSANDO UP;25DOWN;15WITH FINGERNAILS;15DAMP",
   "19 ALL;15MAXIMA;15LONGA;15BREVIS;15SEMIBREVIS WHITE;26BLACK;15MINIMA;21 BLACK",
   "15SEMIMINIMA WHITE;26BLACK;15FUSA WHITE;20BLACK;15LONGA PERFECTA REST;21IMPERFECTA REST",
   "15BREVIS REST;15SEMIBREVIS REST;15MINIMA REST;15SEMIMINIMA REST",
   "15TEMPUS PERFECTUM CUM PROLATIONE PERFECTA;47IMPERFECTA;47PERFECTA DIMINUTION-1",
   "22IMPERFECTUM CUM PROLATIONE PERFECTA;49IMPERFECTA;59 DIMINUTION-1;712;713;15CROIX",
   "15GREGORIAN C CLEF;25F CLEF;15SQUARE B;15VIRGA;15PODATUS;15CLIVIS;15SCANDICUS;15CLIMACUS",
   "15TORCULUS;15PORRECTUS;24 FLEXUS;15SCANDICUS FLEXUS;15TORCULUS RESUPINUS;15PES SUBPUNCTIS",
   "15KIEVAN C CLEF;22END OF PIECE;22FINAL NOTE;22RECITATIVE MARK;22WHOLE NOTE;22HALF NOTE",
   "22QUARTER NOTE STEM DOWN;40UP;22EIGHTH NOTE STEM DOWN;39UP;22FLAT SIGN;15SORI;15KORON;+1d200",
   "00GREEK VOCAL NOTATION SYMBOL-1;282;283;284;285;286;287;288;289;2810;291;292;293;294;295;296",
   "297;298;299;2820;291;292;293;294;2850;291;292;293;294;06INSTRUMENTAL NOTATION SYMBOL-1;352;354",
   "355;357;358;3511;362;363;364;367;368;369;3523;364;365;366;367;369;3530;362;366;367;368;369",
   "3540;362;363;365;367;368;369;3550;361;362;363;364;00COMBINING GREEK MUSICAL TRISEME;25ETRASEME",
   "24PENTASEME;00GREEK MUSICAL LEIMMA;+1d2e0;00MAYAN NUMERAL ZERO;14ONE;14TWO;15HREE;14FOUR;15IVE",
   "14SIX;15EVEN;14EIGHT;14NINE;14TEN;14ELEVEN;14TWELVE;15HIRTEEN;14FOURTEEN;15IFTEEN;14SIXTEEN",
   "15EVENTEEN;14EIGHTEEN;14NINETEEN;+1d300;01ONOGRAM FOR EARTH;00DIGRAM FOR HEAVENLY EARTH",
   "12UMAN EARTH;11EARTHLY HEAVEN;20UMAN;16;00TETRAGRAM FOR CENTRE;14FULL CIRCLE;14MIRED;14BARRIER",
   "14KEEPING SMALL;14CONTRARIETY;14ASCENT;14OPPOSITION;14BRANCHING OUT",
   "14DEFECTIVENESS OR DISTORTION;15IVERGENCE;14YOUTHFULNESS;14INCREASE;14PENETRATION;14REACH",
   "14CONTACT;14HOLDING BACK;14WAITING;14FOLLOWING;14ADVANCE;14RELEASE;16SISTANCE;14EASE;14JOY",
   "14CONTENTION;14ENDEAVOUR;14DUTIES;14CHANGE;14DECISIVENESS;14BOLD RESOLUTION;14PACKING;14LEGION",
   "14CLOSENESS;14KINSHIP;14GATHERING;14STRENGTH;14PURITY;14FULLNESS;14RESIDENCE;14LAW OR MODEL",
   "14RESPONSE;14GOING TO MEET;14ENCOUNTERS;14STOVE;14GREATNESS;14ENLARGEMENT;14PATTERN;14RITUAL",
   "14FLIGHT;14VASTNESS OR WASTING;14CONSTANCY;14MEASURE;14ETERNITY;14UNITY;14DIMINISHMENT",
   "14CLOSED MOUTH;14GUARDEDNESS;15ATHERING IN;14MASSING;14ACCUMULATION;14EMBELLISHMENT;14DOUBT",
   "14WATCH;14SINKING;14INNER;14DEPARTURE;15ARKENING;15IMMING;14EXHAUSTION;14SEVERANCE;15TOPPAGE",
   "14HARDNESS;14COMPLETION;15LOSURE;14FAILURE;14AGGRAVATION;14COMPLIANCE;14ON THE VERGE",
   "14DIFFICULTIES;14LABOURING;14FOSTERING;+1d360;00COUNTING ROD UNIT DIGIT ONE;24TWO;25HREE",
   "24FOUR;25IVE;24SIX;25EVEN;24EIGHT;24NINE;13TENS DIGIT ONE;24TWO;25HREE;24FOUR;25IVE;24SIX",
   "25EVEN;24EIGHT;24NINE;00IDEOGRAPHIC TALLY MARK ONE;23TWO;24HREE;23FOUR;24IVE;00TALLY MARK ONE",
   "11FIVE;+1d400;00MATHEMATICAL BOLD CAPITAL A;26B;26C;26D;26E;26F;26G;26H;26I;26J;26K;26L;26M",
   "26N;26O;26P;26Q;26R;26S;26T;26U;26V;26W;26X;26Y;26Z;18SMALL A;24B;24C;24D;24E;24F;24G;24H;24I",
   "24J;24K;24L;24M;24N;24O;24P;24Q;24R;24S;24T;24U;24V;24W;24X;24Y;24Z;13ITALIC CAPITAL A;28B;28C",
   "28D;28E;28F;28G;28H;28I;28J;28K;28L;28M;28N;28O;28P;28Q;28R;28S;28T;28U;28V;28W;28X;28Y;28Z",
   "20SMALL A;26B;26C;26D;26E;26F;26G;+1d456;26I;26J;26K;26L;26M;26N;26O;26P;26Q;26R;26S;26T;26U",
   "26V;26W;26X;26Y;26Z;13BOLD ITALIC CAPITAL A;33B;33C;33D;33E;33F;33G;33H;33I;33J;33K;33L;33M",
   "33N;33O;33P;33Q;33R;33S;33T;33U;33V;33W;33X;33Y;33Z;25SMALL A;31B;31C;31D;31E;31F;31G;31H;31I",
   "31J;31K;31L;31M;31N;31O;31P;31Q;31R;31S;31T;31U;31V;31W;31X;31Y;31Z;13SCRIPT CAPITAL A;+1d49e",
   "28C;28D;+1d4a2;28G;+1d4a5;28J;28K;+1d4a9;28N;28O;28P;28Q;+1d4ae;28S;28T;28U;28V;28W;28X;28Y",
   "28Z;20SMALL A;26B;26C;26D;+1d4bb;26F;+1d4bd;26H;26I;26J;26K;26L;26M;26N;+1d4c5;26P;26Q;26R;26S",
   "26T;26U;26V;26W;26X;26Y;26Z;13BOLD SCRIPT CAPITAL A;33B;33C;33D;33E;33F;33G;33H;33I;33J;33K",
   "33L;33M;33N;33O;33P;33Q;33R;33S;33T;33U;33V;33W;33X;33Y;33Z;25SMALL A;31B;31C;31D;31E;31F;31G",
   "31H;31I;31J;31K;31L;31M;31N;31O;31P;31Q;31R;31S;31T;31U;31V;31W;31X;31Y;31Z",
   "13FRAKTUR CAPITAL A;29B;+1d507;29D;29E;29F;29G;+1d50d;29J;29K;29L;29M;29N;29O;29P;29Q;+1d516",
   "29S;29T;29U;29V;29W;29X;29Y;+1d51e;21SMALL A;27B;27C;27D;27E;27F;27G;27H;27I;27J;27K;27L;27M",
   "27N;27O;27P;27Q;27R;27S;27T;27U;27V;27W;27X;27Y;27Z;13DOUBLE-STRUCK CAPITAL A;35B;+1d53b;35D",
   "35E;35F;35G;+1d540;35I;35J;35K;35L;35M;+1d546;35O;+1d54a;35S;35T;35U;35V;35W;35X;35Y;+1d552",
   "27SMALL A;33B;33C;33D;33E;33F;33G;33H;33I;33J;33K;33L;33M;33N;33O;33P;33Q;33R;33S;33T;33U;33V",
   "33W;33X;33Y;33Z;13BOLD FRAKTUR CAPITAL A;34B;34C;34D;34E;34F;34G;34H;34I;34J;34K;34L;34M;34N",
   "34O;34P;34Q;34R;34S;34T;34U;34V;34W;34X;34Y;34Z;26SMALL A;32B;32C;32D;32E;32F;32G;32H;32I;32J",
   "32K;32L;32M;32N;32O;32P;32Q;32R;32S;32T;32U;32V;32W;32X;32Y;32Z;13SANS-SERIF CAPITAL A;32B;32C",
   "32D;32E;32F;32G;32H;32I;32J;32K;32L;32M;32N;32O;32P;32Q;32R;32S;32T;32U;32V;32W;32X;32Y;32Z",
   "24SMALL A;30B;30C;30D;30E;30F;30G;30H;30I;30J;30K;30L;30M;30N;30O;30P;30Q;30R;30S;30T;30U;30V",
   "30W;30X;30Y;30Z;24BOLD CAPITAL A;37B;37C;37D;37E;37F;37G;37H;37I;37J;37K;37L;37M;37N;37O;37P",
   "37Q;37R;37S;37T;37U;37V;37W;37X;37Y;37Z;29SMALL A;35B;35C;35D;35E;35F;35G;35H;35I;35J;35K;35L",
   "35M;35N;35O;35P;35Q;35R;35S;35T;35U;35V;35W;35X;35Y;35Z;24ITALIC CAPITAL A;39B;39C;39D;39E;39F",
   "39G;39H;39I;39J;39K;39L;39M;39N;39O;39P;39Q;39R;39S;39T;39U;39V;39W;39X;39Y;39Z;31SMALL A;37B",
   "37C;37D;37E;37F;37G;37H;37I;37J;37K;37L;37M;37N;37O;37P;37Q;37R;37S;37T;37U;37V;37W;37X;37Y",
   "37Z;24BOLD ITALIC CAPITAL A;44B;44C;44D;44E;44F;44G;44H;44I;44J;44K;44L;44M;44N;44O;44P;44Q",
   "44R;44S;44T;44U;44V;44W;44X;44Y;44Z;36SMALL A;42B;42C;42D;42E;42F;42G;42H;42I;42J;42K;42L;42M",
   "42N;42O;42P;42Q;42R;42S;42T;42U;42V;42W;42X;42Y;42Z;13MONOSPACE CAPITAL A;31B;31C;31D;31E;31F",
   "31G;31H;31I;31J;31K;31L;31M;31N;31O;31P;31Q;31R;31S;31T;31U;31V;31W;31X;31Y;31Z;23SMALL A;29B",
   "29C;29D;29E;29F;29G;29H;29I;29J;29K;29L;29M;29N;29O;29P;29Q;29R;29S;29T;29U;29V;29W;29X;29Y",
   "29Z;13ITALIC SMALL DOTLESS I;34J;+1d6a8;13BOLD CAPITAL ALPHA;26BETA;26GAMMA;26DELTA;26EPSILON",
   "26ZETA;26ETA;26THETA;26IOTA;26KAPPA;26LAMDA;26MU;26NU;26XI;26OMICRON;26PI;26RHO;26THETA SYMBOL",
   "26SIGMA;26TAU;26UPSILON;26PHI;26CHI;26PSI;26OMEGA;18NABLA;18SMALL ALPHA;24BETA;24GAMMA;24DELTA",
   "24EPSILON;24ZETA;24ETA;24THETA;24IOTA;24KAPPA;24LAMDA;24MU;24NU;24XI;24OMICRON;24PI;24RHO",
   "24FINAL SIGMA;24SIGMA;24TAU;24UPSILON;24PHI;24CHI;24PSI;24OMEGA;18PARTIAL DIFFERENTIAL",
   "18EPSILON SYMBOL;18THETA SYMBOL;18KAPPA SYMBOL;18PHI SYMBOL;18RHO SYMBOL;18PI SYMBOL",
   "13ITALIC CAPITAL ALPHA;28BETA;28GAMMA;28DELTA;28EPSILON;28ZETA;28ETA;28THETA;28IOTA;28KAPPA",
   "28LAMDA;28MU;28NU;28XI;28OMICRON;28PI;28RHO;28THETA SYMBOL;28SIGMA;28TAU;28UPSILON;28PHI;28CHI",
   "28PSI;28OMEGA;20NABLA;20SMALL ALPHA;26BETA;26GAMMA;26DELTA;26EPSILON;26ZETA;26ETA;26THETA",
   "26IOTA;26KAPPA;26LAMDA;26MU;26NU;26XI;26OMICRON;26PI;26RHO;26FINAL SIGMA;26SIGMA;26TAU",
   "26UPSILON;26PHI;26CHI;26PSI;26OMEGA;20PARTIAL DIFFERENTIAL;20EPSILON SYMBOL;20THETA SYMBOL",
   "20KAPPA SYMBOL;20PHI SYMBOL;20RHO SYMBOL;20PI SYMBOL;13BOLD ITALIC CAPITAL ALPHA;33BETA",
   "33GAMMA;33DELTA;33EPSILON;33ZETA;33ETA;33THETA;33IOTA;33KAPPA;33LAMDA;33MU;33NU;33XI;33OMICRON",
   "33PI;33RHO;33THETA SYMBOL;33SIGMA;33TAU;33UPSILON;33PHI;33CHI;33PSI;33OMEGA;25NABLA",
   "25SMALL ALPHA;31BETA;31GAMMA;31DELTA;31EPSILON;31ZETA;31ETA;31THETA;31IOTA;31KAPPA;31LAMDA",
   "31MU;31NU;31XI;31OMICRON;31PI;31RHO;31FINAL SIGMA;31SIGMA;31TAU;31UPSILON;31PHI;31CHI;31PSI",
   "31OMEGA;25PARTIAL DIFFERENTIAL;25EPSILON SYMBOL;25THETA SYMBOL;25KAPPA SYMBOL;25PHI SYMBOL",
   "25RHO SYMBOL;25PI SYMBOL;13SANS-SERIF BOLD CAPITAL ALPHA;37BETA;37GAMMA;37DELTA;37EPSILON",
   "37ZETA;37ETA;37THETA;37IOTA;37KAPPA;37LAMDA;37MU;37NU;37XI;37OMICRON;37PI;37RHO;37THETA SYMBOL",
   "37SIGMA;37TAU;37UPSILON;37PHI;37CHI;37PSI;37OMEGA;29NABLA;29SMALL ALPHA;35BETA;35GAMMA;35DELTA",
   "35EPSILON;35ZETA;35ETA;35THETA;35IOTA;35KAPPA;35LAMDA;35MU;35NU;35XI;35OMICRON;35PI;35RHO",
   "35FINAL SIGMA;35SIGMA;35TAU;35UPSILON;35PHI;35CHI;35PSI;35OMEGA;29PARTIAL DIFFERENTIAL",
   "29EPSILON SYMBOL;29THETA SYMBOL;29KAPPA SYMBOL;29PHI SYMBOL;29RHO SYMBOL;29PI SYMBOL",
   "29ITALIC CAPITAL ALPHA;44BETA;44GAMMA;44DELTA;44EPSILON;44ZETA;44ETA;44THETA;44IOTA;44KAPPA",
   "44LAMDA;44MU;44NU;44XI;44OMICRON;44PI;44RHO;44THETA SYMBOL;44SIGMA;44TAU;44UPSILON;44PHI;44CHI",
   "44PSI;44OMEGA;36NABLA;36SMALL ALPHA;42BETA;42GAMMA;42DELTA;42EPSILON;42ZETA;42ETA;42THETA",
   "42IOTA;42KAPPA;42LAMDA;42MU;42NU;42XI;42OMICRON;42PI;42RHO;42FINAL SIGMA;42SIGMA;42TAU",
   "42UPSILON;42PHI;42CHI;42PSI;42OMEGA;36PARTIAL DIFFERENTIAL;36EPSILON SYMBOL;36THETA SYMBOL",
   "36KAPPA SYMBOL;36PHI SYMBOL;36RHO SYMBOL;36PI SYMBOL;13BOLD CAPITAL DIGAMMA;18SMALL DIGAMMA",
   "+1d7ce;18DIGIT ZERO;24ONE;24TWO;25HREE;24FOUR;25IVE;24SIX;25EVEN;24EIGHT;24NINE",
   "13DOUBLE-STRUCK DIGIT ZERO;33ONE;33TWO;34HREE;33FOUR;34IVE;33SIX;34EVEN;33EIGHT;33NINE",
   "13SANS-SERIF DIGIT ZERO;30ONE;30TWO;31HREE;30FOUR;31IVE;30SIX;31EVEN;30EIGHT;30NINE",
   "24BOLD DIGIT ZERO;35ONE;35TWO;36HREE;35FOUR;36IVE;35SIX;36EVEN;35EIGHT;35NINE",
   "13MONOSPACE DIGIT ZERO;29ONE;29TWO;30HREE;29FOUR;30IVE;29SIX;30EVEN;29EIGHT;29NINE",
   "00SIGNWRITING HAND-FIST INDEX;17CIRCLE INDEX;18UP INDEX;17OVAL INDEX;17HINGE INDEX",
   "17ANGLE INDEX;17FIST INDEX BENT;17CIRCLE INDEX BENT;17FIST THUMB UNDER INDEX BENT",
   "22INDEX RAISED KNUCKLE;28CUPPED;28HINGED;34 LOW;17CIRCLE INDEX HINGE;17FIST INDEX MIDDLE",
   "17CIRCLE INDEX MIDDLE;17FIST INDEX MIDDLE BENT;35RAISED KNUCKLES;35HINGED;28UP MIDDLE HINGED",
   "28HINGED MIDDLE UP;28MIDDLE CONJOINED;44 INDEX BENT;45MIDDLE BENT;45CUPPED;45HINGED;36ROSSED",
   "17CIRCLE INDEX MIDDLE CROSSED;17FIST MIDDLE BENT OVER INDEX;22INDEX BENT OVER MIDDLE",
   "28MIDDLE THUMB;17CIRCLE INDEX MIDDLE THUMB;17FIST INDEX MIDDLE STRAIGHT THUMB BENT",
   "35BENT THUMB STRAIGHT;35THUMB BENT;35HINGED SPREAD THUMB SIDE;28UP MIDDLE HINGED THUMB SIDE",
   "51CONJOINED;28HINGED MIDDLE UP THUMB SIDE;28MIDDLE UP SPREAD THUMB FORWARD;35THUMB CUPPED",
   "42IRCLED;41HOOKED;42INGED;22THUMB BETWEEN INDEX MIDDLE STRAIGHT",
   "22INDEX MIDDLE CONJOINED THUMB SIDE;55 CONJOINED;56BENT;22MIDDLE THUMB HOOKED INDEX UP",
   "22INDEX THUMB HOOKED MIDDLE UP;28MIDDLE CONJOINED HINGED THUMB SIDE;36ROSSED THUMB SIDE",
   "36ONJOINED THUMB FORWARD;45CUPPED THUMB FORWARD;22MIDDLE THUMB CUPPED INDEX UP",
   "22INDEX THUMB CUPPED MIDDLE UP;22MIDDLE THUMB CIRCLED INDEX UP;49HINGED",
   "22INDEX THUMB ANGLED OUT MIDDLE UP;41IN MIDDLE UP;34CIRCLED MIDDLE UP",
   "28MIDDLE THUMB CONJOINED HINGED;41ANGLED OUT;47;22MIDDLE THUMB ANGLED OUT INDEX UP;52CROSSED",
   "42INDEX UP;22INDEX THUMB HOOKED MIDDLE HINGED;18LAT FOUR FINGERS;34 BENT;35HINGED;35CONJOINED",
   "44 SPLIT;17CLAW FOUR FINGERS CONJOINED;17FIST FOUR FINGERS CONJOINED BENT",
   "17HINGE FOUR FINGERS CONJOINED;17FLAT FIVE FINGERS SPREAD;22HEEL FIVE FINGERS SPREAD",
   "22FIVE FINGERS SPREAD FOUR BENT;22HEEL FIVE FINGERS SPREAD FOUR BENT",
   "22FIVE FINGERS SPREAD BENT;22HEEL FIVE FINGERS SPREAD BENT;22FIVE FINGERS SPREAD THUMB FORWARD",
   "17CUP FIVE FINGERS SPREAD;40 OPEN;17HINGE FIVE FINGERS SPREAD OPEN;17OVAL FIVE FINGERS SPREAD",
   "17FLAT FIVE FINGERS SPREAD HINGED;48 THUMB SIDE;49NO THUMB;21;21 BETWEEN PALM FACINGS;22HEEL",
   "22THUMB SIDE;22HEEL THUMB SIDE;22THUMB BENT;28FORWARD;22SPLIT INDEX THUMB SIDE;28CENTRE",
   "34 THUMB SIDE;45 BENT;28LITTLE;17CLAW;21 THUMB SIDE;22NO THUMB;22THUMB FORWARD;17HOOK CURLICUE",
   "21;17CUP OPEN;20;20 OPEN THUMB SIDE;21THUMB SIDE;21OPEN NO THUMB;21NO THUMB",
   "21OPEN THUMB FORWARD;21THUMB FORWARD;19RLICUE OPEN;25;18IRCLE;17OVAL;21 THUMB SIDE;22NO THUMB",
   "22THUMB FORWARD;17HINGE OPEN;27 THUMB FORWARD;22;22 SMALL;23OPEN THUMB SIDE;23THUMB SIDE",
   "23OPEN NO THUMB;23NO THUMB;23THUMB SIDE TOUCHING INDEX;29BETWEEN MIDDLE RING;17ANGLE",
   "17FIST INDEX MIDDLE RING;17CIRCLE INDEX MIDDLE RING;17HINGE INDEX MIDDLE RING",
   "17ANGLE INDEX MIDDLE RING;17HINGE LITTLE;17FIST INDEX MIDDLE RING BENT;40CONJOINED",
   "17HINGE INDEX MIDDLE RING CONJOINED;17FIST LITTLE DOWN;33 RIPPLE STRAIGHT;41CURVED",
   "34OTHERS CIRCLED;29UP;22THUMB UNDER LITTLE UP;17CIRCLE LITTLE UP;17OVAL LITTLE UP",
   "17ANGLE LITTLE UP;17FIST LITTLE RAISED KNUCKLE;29BENT;29TOUCHES THUMB;30HUMB",
   "17HINGE LITTLE THUMB;17FIST LITTLE INDEX THUMB;17HINGE LITTLE INDEX THUMB",
   "17ANGLE LITTLE INDEX THUMB INDEX THUMB OUT;53;17FIST LITTLE INDEX;17CIRCLE LITTLE INDEX",
   "17HINGE LITTLE INDEX;17ANGLE LITTLE INDEX;17FIST INDEX MIDDLE LITTLE",
   "17CIRCLE INDEX MIDDLE LITTLE;17HINGE INDEX MIDDLE LITTLE;23RING;17ANGLE INDEX MIDDLE LITTLE",
   "17FIST INDEX MIDDLE CROSS LITTLE;17CIRCLE INDEX MIDDLE CROSS LITTLE;17FIST RING DOWN",
   "17HINGE RING DOWN INDEX THUMB HOOK MIDDLE;17ANGLE RING DOWN MIDDLE THUMB INDEX CROSS",
   "17FIST RING UP;27RAISED KNUCKLE;27LITTLE;17CIRCLE RING LITTLE;17OVAL RING LITTLE",
   "17ANGLE RING LITTLE;17FIST RING MIDDLE;33 CONJOINED;34RAISED KNUCKLES;27INDEX;27THUMB",
   "17HOOK RING THUMB;17FIST INDEX RING LITTLE;17CIRCLE INDEX RING LITTLE",
   "18URLICUE INDEX RING LITTLE ON;17HOOK INDEX RING LITTLE OUT;40IN;40UNDER",
   "17CUP INDEX RING LITTLE;17HINGE INDEX RING LITTLE;17ANGLE INDEX RING LITTLE OUT;40",
   "17FIST MIDDLE DOWN;17HINGE MIDDLE;17FIST MIDDLE UP;17CIRCLE MIDDLE UP",
   "17FIST MIDDLE RAISED KNUCKLE;29UP THUMB SIDE;17HOOK MIDDLE THUMB;17FIST MIDDLE THUMB LITTLE",
   "29LITTLE;29RING LITTLE;17CIRCLE MIDDLE RING LITTLE;18URLICUE MIDDLE RING LITTLE ON",
   "19P MIDDLE RING LITTLE;17HINGE MIDDLE RING LITTLE;17ANGLE MIDDLE RING LITTLE OUT;42IN;41",
   "17CIRCLE MIDDLE RING LITTLE BENT;18LAW MIDDLE RING LITTLE CONJOINED;50 SIDE",
   "17HOOK MIDDLE RING LITTLE CONJOINED OUT;51IN;50;18INGE INDEX HINGED;17FIST INDEX THUMB SIDE",
   "17HINGE INDEX THUMB SIDE;17FIST INDEX THUMB SIDE THUMB DIAGONAL;45CONJOINED;45BENT",
   "39INDEX BENT;39BOTH BENT;39INDEX HINGE;34FORWARD INDEX STRAIGHT;48BENT;34HOOK;34CURLICUE",
   "37VE THUMB INSIDE;17CLAW INDEX THUMB CURVE THUMB INSIDE;17FIST INDEX THUMB CURVE THUMB UNDER",
   "35IRCLE;17CUP INDEX THUMB;32 OPEN;17HINGE INDEX THUMB OPEN;35LARGE;34;34 SMALL",
   "17ANGLE INDEX THUMB OUT;35IN;34;17FIST THUMB;27 HEEL;28SIDE DIAGONAL;33CONJOINED;33BENT",
   "28FORWARD;28BETWEEN INDEX MIDDLE;36MIDDLE RING;36RING LITTLE;28UNDER TWO FINGERS",
   "28OVER TWO FINGERS;28UNDER THREE FINGERS;34FOUR FINGERS;28OVER FOUR RAISED KNUCKLES;21;21 HEEL",
   "12TOUCH SINGLE;18MULTIPLE;18BETWEEN;12GRASP SINGLE;18MULTIPLE;18BETWEEN;12STRIKE SINGLE",
   "19MULTIPLE;19BETWEEN;12BRUSH SINGLE;18MULTIPLE;18BETWEEN;12RUB SINGLE;16MULTIPLE;16BETWEEN",
   "12SURFACE SYMBOLS;20BETWEEN;13QUEEZE LARGE SINGLE;20SMALL SINGLE;20LARGE MULTIPLE",
   "20SMALL MULTIPLE;21EQUENTIAL;12FLICK LARGE SINGLE;18SMALL SINGLE;18LARGE MULTIPLE",
   "18SMALL MULTIPLE;19EQUENTIAL;12SQUEEZE FLICK ALTERNATING;12MOVEMENT-HINGE UP DOWN LARGE",
   "35SMALL;30SEQUENTIAL;27DOWN SEQUENTIAL;27UP DOWN ALTERNATING LARGE;47SMALL",
   "27SIDE TO SIDE SCISSORS;21WALLPLANE FINGER CONTACT;21FLOORPLANE FINGER CONTACT",
   "21WALLPLANE SINGLE STRAIGHT SMALL;47MEDIUM;47LARGE;52ST;38WRIST FLEX;31DOUBLE STRAIGHT",
   "38WRIST FLEX;38ALTERNATING;49 WRIST FLEX;31CROSS;31TRIPLE STRAIGHT MOVEMENT;38WRIST FLEX",
   "38ALTERNATING;49 WRIST FLEX;31BEND SMALL;36MEDIUM;36LARGE;31CORNER SMALL;38MEDIUM;38LARGE",
   "38ROTATION;32HECK SMALL;37MEDIUM;37LARGE;31BOX SMALL;35MEDIUM;35LARGE;31ZIGZAG SMALL;38MEDIUM",
   "38LARGE;31PEAKS SMALL;37MEDIUM;37LARGE;12TRAVEL-WALLPLANE ROTATION-WALLPLANE SINGLE;48DOUBLE",
   "48ALTERNATING;38FLOORPLANE SINGLE;49DOUBLE;49ALTERNATING;29SHAKING;29ARM SPIRAL SINGLE",
   "40DOUBLE;40TRIPLE;12MOVEMENT-DIAGONAL AWAY SMALL;35MEDIUM;35LARGE;40ST;30TOWARDS SMALL",
   "38MEDIUM;38LARGE;43ST;30BETWEEN AWAY SMALL;43MEDIUM;43LARGE;48ST;38TOWARDS SMALL;46MEDIUM",
   "46LARGE;51ST;21FLOORPLANE SINGLE STRAIGHT SMALL;48MEDIUM;48LARGE;53ST;39WRIST FLEX",
   "32DOUBLE STRAIGHT;39WRIST FLEX;39ALTERNATING;50 WRIST FLEX;32CROSS;32TRIPLE STRAIGHT MOVEMENT",
   "39WRIST FLEX;39ALTERNATING MOVEMENT;51WRIST FLEX;32BEND;32CORNER SMALL;39MEDIUM;39LARGE;33HECK",
   "32BOX SMALL;36MEDIUM;36LARGE;32ZIGZAG SMALL;39MEDIUM;39LARGE;32PEAKS SMALL;38MEDIUM;38LARGE",
   "12TRAVEL-FLOORPLANE ROTATION-FLOORPLANE SINGLE;50DOUBLE;50ALTERNATING;39WALLPLANE SINGLE",
   "49DOUBLE;49ALTERNATING;30SHAKING;12MOVEMENT-WALLPLANE CURVE QUARTER SMALL;45MEDIUM;45LARGE",
   "50ST;37HALF-CIRCLE SMALL;49MEDIUM;49LARGE;54ST;37THREE-QUARTER CIRCLE SMALL;58MEDIUM",
   "31HUMP SMALL;36MEDIUM;36LARGE;31LOOP SMALL;36MEDIUM;36LARGE;36SMALL DOUBLE",
   "31WAVE CURVE DOUBLE SMALL;49MEDIUM;49LARGE;42TRIPLE SMALL;49MEDIUM;49LARGE",
   "31CURVE THEN STRAIGHT;36D CROSS SMALL;44MEDIUM;12ROTATION-WALLPLANE SINGLE;31DOUBLE",
   "31ALTERNATE;12MOVEMENT-WALLPLANE SHAKING;31CURVE HITTING FRONT WALL;31HUMP HITTING FRONT WALL",
   "31LOOP HITTING FRONT WALL;31WAVE HITTING FRONT WALL",
   "12ROTATION-WALLPLANE SINGLE HITTING FRONT WALL;31DOUBLE HITTING FRONT WALL",
   "31ALTERNATING HITTING FRONT WALL;12MOVEMENT-WALLPLANE CURVE HITTING CHEST;31HUMP HITTING CHEST",
   "31LOOP HITTING CHEST;31WAVE HITTING CHEST;12ROTATION-WALLPLANE SINGLE HITTING CHEST",
   "31DOUBLE HITTING CHEST;31ALTERNATING HITTING CHEST",
   "12MOVEMENT-WALLPLANE WAVE DIAGONAL PATH SMALL;50MEDIUM;50LARGE",
   "21FLOORPLANE CURVE HITTING CEILING SMALL;54LARGE;32HUMP HITTING CEILING SMALL DOUBLE",
   "53LARGE DOUBLE;53SMALL TRIPLE;53LARGE TRIPLE;32LOOP HITTING CEILING SMALL SINGLE",
   "53LARGE SINGLE;53SMALL DOUBLE;53LARGE DOUBLE;32WAVE HITTING CEILING SMALL;53LARGE",
   "12ROTATION-FLOORPLANE SINGLE HITTING CEILING;32DOUBLE HITTING CEILING",
   "32ALTERNATING HITTING CEILING;12MOVEMENT-FLOORPLANE CURVE HITTING FLOOR SMALL;52LARGE",
   "32HUMP HITTING FLOOR SMALL DOUBLE;51LARGE DOUBLE;51TRIPLE SMALL TRIPLE;58LARGE TRIPLE",
   "32LOOP HITTING FLOOR SMALL SINGLE;51LARGE SINGLE;51SMALL DOUBLE;51LARGE DOUBLE",
   "32WAVE HITTING FLOOR SMALL;51LARGE;12ROTATION-FLOORPLANE SINGLE HITTING FLOOR",
   "32DOUBLE HITTING FLOOR;32ALTERNATING HITTING FLOOR;12MOVEMENT-FLOORPLANE CURVE SMALL;38MEDIUM",
   "38LARGE;43ST;38COMBINED;32HUMP SMALL;32LOOP SMALL;32WAVE SNAKE;38MALL;37LARGE",
   "12ROTATION-FLOORPLANE SINGLE;32DOUBLE;32ALTERNATING;12MOVEMENT-FLOORPLANE SHAKING PARALLEL",
   "21WALLPLANE ARM CIRCLE SMALL SINGLE;42MEDIUM SINGLE;42SMALL DOUBLE;42MEDIUM DOUBLE",
   "21FLOORPLANE ARM CIRCLE HITTING WALL SMALL SINGLE;56MEDIUM SINGLE;56LARGE SINGLE",
   "56SMALL DOUBLE;56MEDIUM DOUBLE;56LARGE DOUBLE;21WALLPLANE WRIST CIRCLE FRONT SINGLE;50DOUBLE",
   "21FLOORPLANE WRIST CIRCLE HITTING WALL SINGLE;58DOUBLE;21WALLPLANE FINGER CIRCLES SINGLE",
   "46DOUBLE;21FLOORPLANE FINGER CIRCLES HITTING WALL SINGLE;60DOUBLE;12DYNAMIC ARROWHEAD SMALL",
   "30LARGE;20FAST;20SLOW;20TENSE;20RELAXED;20SIMULTANEOUS;32 ALTERNATING;20EVERY OTHER TIME",
   "20GRADUAL;12HEAD;16 RIM;17MOVEMENT-WALLPLANE STRAIGHT;36TILT;26FLOORPLANE STRAIGHT",
   "26WALLPLANE CURVE;26FLOORPLANE CURVE;25 CIRCLE;12FACE DIRECTION POSITION NOSE FORWARD TILTING",
   "41UP OR DOWN;51 TILTING;12EYEBROWS STRAIGHT UP;30NEUTRAL;30DOWN;12DREAMY EYEBROWS NEUTRAL DOWN",
   "28DOWN NEUTRAL;28UP NEUTRAL;28NEUTRAL UP;12FOREHEAD NEUTRAL;21CONTACT;21WRINKLED;12EYES OPEN",
   "17SQUEEZED;17CLOSED;15 BLINK SINGLE;22MULTIPLE;15S HALF OPEN;17WIDE OPEN;17HALF CLOSED",
   "17WIDENING MOVEMENT;15 WINK;15LASHES UP;22DOWN;22FLUTTERING;15GAZE-WALLPLANE STRAIGHT",
   "38 DOUBLE;39ALTERNATING;20FLOORPLANE STRAIGHT;39 DOUBLE;40ALTERNATING;20WALLPLANE CURVED",
   "20FLOORPLANE CURVED;20WALLPLANE CIRCLING;12CHEEKS PUFFED;19NEUTRAL;19SUCKED",
   "12TENSE CHEEKS HIGH;25MIDDLE;25LOW;12EARS;12NOSE NEUTRAL;17CONTACT;17WRINKLES;18IGGLES",
   "12AIR BLOWING OUT;16SUCKING IN;16BLOW SMALL ROTATIONS;16SUCK SMALL ROTATIONS;12BREATH INHALE",
   "19EXHALE;12MOUTH CLOSED NEUTRAL;25FORWARD;25CONTACT;18SMILE;23 WRINKLED;24OPEN;18FROWN",
   "23 WRINKLED;24OPEN;18OPEN CIRCLE;23FORWARD;23WRINKLED;23OVAL;27 WRINKLED;28YAWN;23RECTANGLE",
   "32 WRINKLED;33YAWN;18KISS;22 FORWARD;23WRINKLED;18TENSE;23 FORWARD;24SUCKED",
   "12LIPS PRESSED TOGETHER;15 LOWER OVER UPPER;16UPPER OVER LOWER;12MOUTH CORNERS",
   "18WRINKLES SINGLE;27DOUBLE;12TONGUE STICKING OUT FAR;19LICKING LIPS;19TIP BETWEEN LIPS",
   "23TOUCHING INSIDE MOUTH;19INSIDE MOUTH RELAXED;19MOVES AGAINST CHEEK;19CENTRE STICKING OUT",
   "26INSIDE MOUTH;13EETH;17 MOVEMENT;18ON TONGUE;27 MOVEMENT;21LIPS;25 MOVEMENT;18BITE LIPS",
   "12MOVEMENT-WALLPLANE JAW;21FLOORPLANE JAW;12NECK;12HAIR;12EXCITEMENT;12SHOULDER HIP SPINE",
   "25POSITIONS;12WALLPLANE SHOULDER HIP MOVE;12FLOORPLANE SHOULDER HIP MOVE",
   "12SHOULDER TILTING FROM WAIST;12TORSO-WALLPLANE STRAIGHT STRETCH;28CURVED BEND",
   "18FLOORPLANE TWISTING;12UPPER BODY TILTING FROM HIP JOINTS;12LIMB COMBINATION;17LENGTH-1;242",
   "243;244;245;246;247;12FINGER;12LOCATION-WALLPLANE SPACE;21FLOORPLANE SPACE;20 HEIGHT;21WIDTH",
   "21DEPTH;21HEAD NECK;21TORSO;21LIMBS DIGITS;12COMMA;12FULL STOP;12SEMICOLON;12COLON",
   "12PARENTHESIS;+1da9b;12FILL MODIFIER-2;263;264;265;266;+1daa1;12ROTATION MODIFIER-2;303;304",
   "305;306;307;308;309;3010;311;312;313;314;315;316;+1df00",
   "00LATIN SMALL LETTER FENG DIGRAPH WITH TRILL;19REVERSED SCRIPT G",
   "06LETTER SMALL CAPITAL TURNED G;06SMALL LETTER REVERSED K;06LETTER SMALL CAPITAL L WITH BELT",
   "06SMALL LETTER LEZH WITH RETROFLEX HOOK;19TURNED Y WITH BELT;19REVERSED ENG",
   "19TURNED R WITH LONG LEG AND RETROFLEX HOOK;20 WITH HOOK AND RETROFLEX HOOK",
   "06LETTER RETROFLEX CLICK WITH RETROFLEX HOOK;06SMALL LETTER ESH WITH DOUBLE BAR;38 AND CURL",
   "19TURNED T WITH CURL;06LETTER INVERTED GLOTTAL STOP WITH CURL;13STRETCHED C WITH CURL",
   "14MALL CAPITAL TURNED K;06SMALL LETTER L WITH FISHHOOK;19DEZH DIGRAPH WITH PALATAL HOOK",
   "19L WITH BELT AND PALATAL HOOK;19ENG WITH PALATAL HOOK;19TURNED R WITH PALATAL HOOK",
   "19R WITH FISHHOOK AND PALATAL HOOK;19TESH DIGRAPH WITH PALATAL HOOK;19EZH WITH PALATAL HOOK",
   "19DEZH DIGRAPH WITH RETROFLEX HOOK;19I WITH STROKE AND RETROFLEX HOOK;19O WITH RETROFLEX HOOK",
   "19TESH DIGRAPH WITH RETROFLEX HOOK;19C WITH RETROFLEX HOOK;19S WITH CURL;+1e000",
   "00COMBINING GLAGOLITIC LETTER AZU;28BUKY;28VEDE;28GLAGOLI;28DOBRO;28YESTU;28ZHIVETE;+1e008",
   "29EMLJA;28IZHE;29NITIAL IZHE;29;28DJERVI;28KAKO;28LJUDIJE;28MYSLITE;28NASHI;28ONU;28POKOJI",
   "28RITSI;28SLOVO;28TVRIDO;28UKU;28FRITU;28HERU;+1e01b;28SHTA;28TSI;28CHRIVI;28SHA;28YERU;31I",
   "29ATI;+1e023;29U;28SMALL YUS;+1e026;28YO;28IOTATED SMALL YUS;28BIG YUS;28IOTATED BIG YUS",
   "28FITA;+1e100;00NYIAKENG PUACHUE HMONG LETTER MA;30TSA;30NTA;30TA;30HA;30NA;30XA;30NKA;30CA",
   "30LA;30SA;30ZA;30NCA;31TSA;30KA;30DA;30NYA;31RA;30VA;30NTXA;30TXA;30FA;30RA;30QA;30YA;30NQA",
   "30PA;30XYA;30NPA;30DLA;30NPLA;30HAH;30MLA;30PLA;30GA;30RRA;30A;31A;30I;30U;30O;31O;30E;31E;30W",
   "+1e130;23TONE-B;28M;28J;28V;28S;28G;28D;23SIGN FOR PERSON;32THING;32LOCATION;32ANIMAL",
   "32INVERTEBRATE;28XW XW;24YLLABLE LENGTHENER;+1e140;23DIGIT ZERO;29ONE;29TWO;30HREE;29FOUR",
   "30IVE;29SIX;30EVEN;29EIGHT;29NINE;+1e14e;23LOGOGRAM NYAJ;23CIRCLED CA;+1e290;00TOTO LETTER PA",
   "12BA;12TA;12DA;12KA;12GA;12MA;12NA;13GA;12SA;12CHA;12YA;12WA;12JA;12HA;12RA;12LA;12I",
   "12BREATHY I;12IU;12BREATHY IU;12U;12E;12BREATHY E;12EO;12BREATHY EO;12O;12AE;12BREATHY AE;12A",
   "05SIGN RISING TONE;+1e2c0;00WANCHO LETTER AA;15;14BA;14CA;14DA;14GA;14YA;14PHA;14LA;14NA;14PA",
   "14TA;15HA;14FA;14SA;15HA;14JA;14ZA;14WA;14VA;14KA;14O;14AU;14RA;14MA;14KHA;14HA;14E;14I;14NGA",
   "14U;14LLHA;14TSA;15RA;14ONG;14AANG;15NG;14ING;14ON;14EN;14AAN;14NYA;14UEN;14YIH;07TONE TUP",
   "15NI;12KOI;15NI;07DIGIT ZERO;13ONE;13TWO;14HREE;13FOUR;14IVE;13SIX;14EVEN;13EIGHT;13NINE",
   "+1e2ff;07NGUN SIGN;+1e7e0;00ETHIOPIC SYLLABLE HHYA;21U;21I;21AA;21EE;22;21O;+1e7e8",
   "18GURAGE HHWA;18HHWI;21EE;22;+1e7ed;18GURAGE MWI;27EE;+1e7f0;25QWI;27EE;28;25BWI;27EE;25KWI",
   "27EE;28;25GWI;27EE;28;25FWI;27EE;25PWI;27EE;+1e800;00MENDE KIKAKUI SYLLABLE M001 KI;262 KA",
   "263 KU;2565 KEE;2595 KE;2576 KOO;2548 KO;24179 KUA;24004 WI;265 WA;266 WU;24126 WEE;2518 WE",
   "264 WOO;24045 WO;24194 WUI;2543 WEI;24061 WVI;2549 WVA;24139 WVE;24007 MIN;268 MAN;269 MUN",
   "2559 MEN;2594 MON;24154 MUAN;2589 MUEN;24010 BI;261 BA;262 BU;24150 BEE;24097 BE;24103 BOO",
   "2538 BO;24013 I;264 A;265 U;24163 EE;2500 E;2565 OO;2547 O;2537 EI;261 IN;265 IN;2595 AN",
   "2578 EN;24019 SI;2520 SA;261 SU;24162 SEE;2516 SE;2536 SOO;24079 SO;24196 SIA;24025 LI;266 LA",
   "267 LU;2584 LEE;2573 LE;2554 LOO;24153 LO;2510 LONG LE;24016 DI;267 DA;268 DU;2589 DEE",
   "24180 DOO;261 DO;24022 TI;263 TA;264 TU;2591 TEE;2555 TE;24104 TOO;24069 TO;2528 JI;269 JA",
   "2530 JU;24157 JEE;2513 JE;2560 JOO;24063 JO;24175 LONG JO;24031 YI;262 YA;263 YU;24109 YEE",
   "24080 YE;24141 YOO;2521 YO;24034 FI;265 FA;266 FU;2578 FEE;265 FE;24133 FOO;24088 FO;24197 FUA",
   "2501 FAN;24037 NIN;268 NAN;269 NUN;24117 NEN;2569 NON;2576 HI;24041 HA;24186 HU;24040 HEE",
   "2596 HE;2542 HOO;24140 HO;24083 HEEI;24128 HOOU;24053 HIN;24130 HAN;24087 HUN;2552 HEN",
   "24193 HON;24046 HUAN;2590 NGGI;2543 NGGA;2582 NGGU;24115 NGGEE;2546 NGGE;2556 NGGOO;2520 NGGO",
   "2559 NGGAA;2527 NGGUA;24086 LONG NGGE;24106 LONG NGGOO;2583 LONG NGGO;2555 GI;2511 GA;2568 GU",
   "2590 GEE;2566 GUEI;267 GUAN;2584 NGEN;24057 NGON;24177 NGUAN;24068 PI;2599 PA;2550 PU;2581 PEE",
   "2551 PE;24102 POO;24066 PO;24145 MBI;24062 MBA;24122 MBU;24047 MBEE;24188 MBEE;24072 MBE",
   "24172 MBOO;264 MBO;2587 MBUU;2561 LONG MBE;2505 LONG MBOO;2542 LONG MBO;2532 KPI;24092 KPA",
   "2574 KPU;2544 KPEE;24108 KPE;2512 KPOO;2558 KPO;2524 GBI;24056 GBA;24148 GBU;24093 GBEE",
   "24107 GBE;24071 GBOO;260 GBO;24171 RA;2523 NDI;269 NDA;265 NDU;2591 NDEE;2519 NDE;24067 NDOO",
   "264 NDO;24152 NJA;2592 NJU;2549 NJEE;2534 NJOO;2582 VI;265 VA;2551 VU;2573 VEE;24085 VE",
   "24144 VOO;24077 VO;24164 NYIN;24058 NYAN;24170 NYUN;24098 NYEN;2560 NYON;+1e8c7;14DIGIT ONE",
   "20TWO;21HREE;20FOUR;21IVE;20SIX;21EVEN;20EIGHT;20NINE;14COMBINING NUMBER TEENS;33NS;31HUNDREDS",
   "31THOUSANDS;32EN THOUSANDS;31HUNDRED THOUSANDS;31MILLIONS;+1e900;00ADLAM CAPITAL LETTER ALIF",
   "21DAALI;21LAAM;21MIIM;21BA;21SINNYIIYHE;21PE;21BHE;21RA;21E;21FA;21I;21O;21DHA;21YHE;21WAW",
   "21NUN;21KAF;21YA;21U;21JIIM;21CHI;21HA;21QAAF;21GA;21NYA;21TU;21NHA;21VA;21KHA;21GBE;21ZAL",
   "21KPO;21SHA;06SMALL LETTER ALIF;19DAALI;19LAAM;19MIIM;19BA;19SINNYIIYHE;19PE;19BHE;19RA;19E",
   "19FA;19I;19O;19DHA;19YHE;19WAW;19NUN;19KAF;19YA;19U;19JIIM;19CHI;19HA;19QAAF;19GA;19NYA;19TU",
   "19NHA;19VA;19KHA;19GBE;19ZAL;19KPO;19SHA;06ALIF LENGTHENER;06VOWEL LENGTHENER",
   "06GEMINATION MARK;06HAMZA;06CONSONANT MODIFIER;06GEMINATE CONSONANT MODIFIER;06NUKTA",
   "07ASALIZATION MARK;+1e950;06DIGIT ZERO;12ONE;12TWO;13HREE;12FOUR;13IVE;12SIX;13EVEN;12EIGHT",
   "12NINE;+1e95e;06INITIAL EXCLAMATION MARK;14QUESTION MARK;+1ec71;00INDIC SIYAQ NUMBER ONE;19TWO",
   "20HREE;19FOUR;20IVE;19SIX;20EVEN;19EIGHT;19NINE;19TEN;20WENTY;20HIRTY;19FORTY;20IFTY;19SIXTY",
   "20EVENTY;19EIGHTY;19NINETY;19ONE HUNDRED;19TWO HUNDRED;20HREE HUNDRED;19FOUR HUNDRED",
   "20IVE HUNDRED;19SIX HUNDRED;20EVEN HUNDRED;19EIGHT HUNDRED;19NINE HUNDRED;19ONE THOUSAND",
   "19TWO THOUSAND;20HREE THOUSAND;19FOUR THOUSAND;20IVE THOUSAND;19SIX THOUSAND;20EVEN THOUSAND",
   "19EIGHT THOUSAND;19NINE THOUSAND;19TEN THOUSAND;20WENTY THOUSAND;20HIRTY THOUSAND",
   "19FORTY THOUSAND;20IFTY THOUSAND;19SIXTY THOUSAND;20EVENTY THOUSAND;19EIGHTY THOUSAND",
   "19NINETY THOUSAND;19LAKH;23AN;12LAKH MARK;12NUMBER KAROR;24AN;19PREFIXED ONE;28TWO;29HREE",
   "28FOUR;29IVE;28SIX;29EVEN;28EIGHT;28NINE;12PLACEHOLDER;12FRACTION ONE QUARTER;25HALF",
   "21THREE QUARTERS;12RUPEE MARK;12NUMBER ALTERNATE ONE;29TWO;30EN THOUSAND;12ALTERNATE LAKH MARK",
   "+1ed01;00OTTOMAN SIYAQ NUMBER ONE;21TWO;22HREE;21FOUR;22IVE;21SIX;22EVEN;21EIGHT;21NINE;21TEN",
   "22WENTY;22HIRTY;21FORTY;22IFTY;21SIXTY;22EVENTY;21EIGHTY;21NINETY;21ONE HUNDRED;21TWO HUNDRED",
   "22HREE HUNDRED;21FOUR HUNDRED;22IVE HUNDRED;21SIX HUNDRED;22EVEN HUNDRED;21EIGHT HUNDRED",
   "21NINE HUNDRED;21ONE THOUSAND;21TWO THOUSAND;22HREE THOUSAND;21FOUR THOUSAND;22IVE THOUSAND",
   "21SIX THOUSAND;22EVEN THOUSAND;21EIGHT THOUSAND;21NINE THOUSAND;21TEN THOUSAND",
   "22WENTY THOUSAND;22HIRTY THOUSAND;21FORTY THOUSAND;22IFTY THOUSAND;21SIXTY THOUSAND",
   "22EVENTY THOUSAND;21EIGHTY THOUSAND;21NINETY THOUSAND;14MARRATAN;14ALTERNATE NUMBER TWO;32HREE",
   "31FOUR;32IVE;31SIX;32EVEN;31EIGHT;31NINE;31TEN;31FOUR HUNDRED;31SIX HUNDRED;31TWO THOUSAND",
   "32EN THOUSAND;14FRACTION ONE HALF;27SIXTH;+1ee00;00ARABIC MATHEMATICAL ALEF;20BEH;20JEEM;20DAL",
   "+1ee05;20WAW;20ZAIN;20HAH;20TAH;20YEH;20KAF;20LAM;20MEEM;20NOON;20SEEN;20AIN;20FEH;20SAD;20QAF",
   "20REH;20SHEEN;20TEH;21HEH;20KHAH;20THAL;20DAD;20ZAH;20GHAIN;20DOTLESS BEH;28NOON;28FEH;28QAF",
   "+1ee21;20INITIAL BEH;28JEEM;+1ee24;28HEH;+1ee27;29AH;+1ee29;28YEH;28KAF;28LAM;28MEEM;28NOON",
   "28SEEN;28AIN;28FEH;28SAD;28QAF;+1ee34;28SHEEN;28TEH;29HEH;28KHAH;+1ee39;28DAD;+1ee3b;28GHAIN",
   "+1ee42;20TAILED JEEM;+1ee47;27HAH;+1ee49;27YEH;+1ee4b;27LAM;+1ee4d;27NOON;27SEEN;27AIN;+1ee51",
   "27SAD;27QAF;+1ee54;27SHEEN;+1ee57;27KHAH;+1ee59;27DAD;+1ee5b;27GHAIN;+1ee5d;27DOTLESS NOON",
   "+1ee5f;35QAF;+1ee61;20STRETCHED BEH;30JEEM;+1ee64;30HEH;+1ee67;31AH;30TAH;30YEH;30KAF;+1ee6c",
   "30MEEM;30NOON;30SEEN;30AIN;30FEH;30SAD;30QAF;+1ee74;30SHEEN;30TEH;31HEH;30KHAH;+1ee79;30DAD",
   "30ZAH;30GHAIN;30DOTLESS BEH;+1ee7e;38FEH;+1ee80;20LOOPED ALEF;27BEH;27JEEM;27DAL;27HEH;27WAW",
   "27ZAIN;27HAH;27TAH;27YEH;+1ee8b;27LAM;27MEEM;27NOON;27SEEN;27AIN;27FEH;27SAD;27QAF;27REH",
   "27SHEEN;27TEH;28HEH;27KHAH;27THAL;27DAD;27ZAH;27GHAIN;+1eea1;20DOUBLE-STRUCK BEH;34JEEM;34DAL",
   "+1eea5;34WAW;34ZAIN;34HAH;34TAH;34YEH;+1eeab;34LAM;34MEEM;34NOON;34SEEN;34AIN;34FEH;34SAD",
   "34QAF;34REH;34SHEEN;34TEH;35HEH;34KHAH;34THAL;34DAD;34ZAH;34GHAIN;+1eef0",
   "20OPERATOR MEEM WITH HAH WITH TATWEEL;29HAH WITH DAL;+1f000;00MAHJONG TILE EAST WIND",
   "13SOUTH WIND;13WEST WIND;13NORTH WIND;13RED DRAGON;13GREEN DRAGON;13WHITE DRAGON",
   "13ONE OF CHARACTERS;13TWO OF CHARACTERS;14HREE OF CHARACTERS;13FOUR OF CHARACTERS",
   "14IVE OF CHARACTERS;13SIX OF CHARACTERS;14EVEN OF CHARACTERS;13EIGHT OF CHARACTERS",
   "13NINE OF CHARACTERS;13ONE OF BAMBOOS;13TWO OF BAMBOOS;14HREE OF BAMBOOS;13FOUR OF BAMBOOS",
   "14IVE OF BAMBOOS;13SIX OF BAMBOOS;14EVEN OF BAMBOOS;13EIGHT OF BAMBOOS;13NINE OF BAMBOOS",
   "13ONE OF CIRCLES;13TWO OF CIRCLES;14HREE OF CIRCLES;13FOUR OF CIRCLES;14IVE OF CIRCLES",
   "13SIX OF CIRCLES;14EVEN OF CIRCLES;13EIGHT OF CIRCLES;13NINE OF CIRCLES;13PLUM;13ORCHID",
   "13BAMBOO;13CHRYSANTHEMUM;13SPRING;14UMMER;13AUTUMN;13WINTER;13JOKER;13BACK;+1f030",
   "00DOMINO TILE HORIZONTAL BACK;22-00-00;271;272;273;274;275;276;241-00;271;272;273;274;275;276",
   "242-00;271;272;273;274;275;276;243-00;271;272;273;274;275;276;244-00;271;272;273;274;275;276",
   "245-00;271;272;273;274;275;276;246-00;271;272;273;274;275;276;12VERTICAL BACK;20-00-00;251;252",
   "253;254;255;256;221-00;251;252;253;254;255;256;222-00;251;252;253;254;255;256;223-00;251;252",
   "253;254;255;256;224-00;251;252;253;254;255;256;225-00;251;252;253;254;255;256;226-00;251;252",
   "253;254;255;256;+1f0a0;00PLAYING CARD BACK;13ACE OF SPADES;13TWO OF SPADES;14HREE OF SPADES",
   "13FOUR OF SPADES;14IVE OF SPADES;13SIX OF SPADES;14EVEN OF SPADES;13EIGHT OF SPADES",
   "13NINE OF SPADES;13TEN OF SPADES;13JACK OF SPADES;13KNIGHT OF SPADES;13QUEEN OF SPADES",
   "13KING OF SPADES;+1f0b1;13ACE OF HEARTS;13TWO OF HEARTS;14HREE OF HEARTS;13FOUR OF HEARTS",
   "14IVE OF HEARTS;13SIX OF HEARTS;14EVEN OF HEARTS;13EIGHT OF HEARTS;13NINE OF HEARTS",
   "13TEN OF HEARTS;13JACK OF HEARTS;13KNIGHT OF HEARTS;13QUEEN OF HEARTS;13KING OF HEARTS",
   "13RED JOKER;+1f0c1;13ACE OF DIAMONDS;13TWO OF DIAMONDS;14HREE OF DIAMONDS;13FOUR OF DIAMONDS",
   "14IVE OF DIAMONDS;13SIX OF DIAMONDS;14EVEN OF DIAMONDS;13EIGHT OF DIAMONDS;13NINE OF DIAMONDS",
   "13TEN OF DIAMONDS;13JACK OF DIAMONDS;13KNIGHT OF DIAMONDS;13QUEEN OF DIAMONDS",
   "13KING OF DIAMONDS;13BLACK JOKER;+1f0d1;13ACE OF CLUBS;13TWO OF CLUBS;14HREE OF CLUBS",
   "13FOUR OF CLUBS;14IVE OF CLUBS;13SIX OF CLUBS;14EVEN OF CLUBS;13EIGHT OF CLUBS;13NINE OF CLUBS",
   "13TEN OF CLUBS;13JACK OF CLUBS;13KNIGHT OF CLUBS;13QUEEN OF CLUBS;13KING OF CLUBS",
   "13WHITE JOKER;13FOOL;13TRUMP-1;192;193;194;195;196;197;198;199;1910;201;202;203;204;205;206",
   "207;208;209;1920;201;+1f100;00DIGIT ZERO FULL STOP;11COMMA;06ONE COMMA;06TWO COMMA",
   "07HREE COMMA;06FOUR COMMA;07IVE COMMA;06SIX COMMA;07EVEN COMMA;06EIGHT COMMA;06NINE COMMA",
   "02NGBAT CIRCLED SANS-SERIF DIGIT ZERO;08NEGATIVE CIRCLED SANS-SERIF DIGIT ZERO",
   "00CIRCLED ZERO WITH SLASH;08ANTICLOCKWISE ARROW;08DOLLAR SIGN WITH OVERLAID BACKSLASH",
   "00PARENTHESIZED LATIN CAPITAL LETTER A;35B;35C;35D;35E;35F;35G;35H;35I;35J;35K;35L;35M;35N;35O",
   "35P;35Q;35R;35S;35T;35U;35V;35W;35X;35Y;35Z;00TORTOISE SHELL BRACKETED LATIN CAPITAL LETTER S",
   "00CIRCLED ITALIC LATIN CAPITAL LETTER C;36R;08CD;08WZ;01OPYLEFT SYMBOL",
   "00SQUARED LATIN CAPITAL LETTER A;29B;29C;29D;29E;29F;29G;29H;29I;29J;29K;29L;29M;29N;29O;29P",
   "29Q;29R;29S;29T;29U;29V;29W;29X;29Y;29Z;08HV;08MV;08SD;09S;08PPV;08WC",
   "00NEGATIVE CIRCLED LATIN CAPITAL LETTER A;38B;38C;38D;38E;38F;38G;38H;38I;38J;38K;38L;38M;38N",
   "38O;38P;38Q;38R;38S;38T;38U;38V;38W;38X;38Y;38Z;00RAISED MC SIGN;08D SIGN;08R SIGN",
   "00CIRCLED CC;09 WITH OVERLAID BACKSLASH;08HUMAN FIGURE",
   "00NEGATIVE SQUARED LATIN CAPITAL LETTER A;38B;38C;38D;38E;38F;38G;38H;38I;38J;38K;38L;38M;38N",
   "38O;38P;38Q;38R;38S;38T;38U;38V;38W;38X;38Y;38Z",
   "00CROSSED NEGATIVE SQUARED LATIN CAPITAL LETTER P;00NEGATIVE SQUARED IC;17PA;17SA;17AB;17WC",
   "00SQUARE DJ;06D CL;09OOL;08FREE;08ID;08NEW;09G;08OK;08SOS;08UP WITH EXCLAMATION MARK;08VS",
   "08THREE D;08SECOND SCREEN;08TWO K;08FOUR K;08EIGHT K;08FIVE POINT ONE;08SEVEN POINT ONE",
   "08TWENTY-TWO POINT TWO;08SIXTY P;08ONE HUNDRED TWENTY P;08LATIN SMALL LETTER D;08HC;09DR",
   "09I-RES;08LOSSLESS;08SHV;08UHD;08VOD;00MASK WORK SYMBOL;+1f1e6",
   "00REGIONAL INDICATOR SYMBOL LETTER A;33B;33C;33D;33E;33F;33G;33H;33I;33J;33K;33L;33M;33N;33O",
   "33P;33Q;33R;33S;33T;33U;33V;33W;33X;33Y;33Z;00SQUARE HIRAGANA HOKA;06D KATAKANA KOKO;17SA",
   "+1f210;08CJK UNIFIED IDEOGRAPH-624B;305B57;313CC;08KATAKANA DE;08CJK UNIFIED IDEOGRAPH-4E8C",
   "30591A;3089E3;305929;304EA4;306620;307121;306599;30524D;31F8C;3118D;3065B0;30521D;307D42;3151F",
   "308CA9;3058F0;31439;306F14;31295;31355;304E00;339;30904A;305DE6;304E2D;3053F3;306307;308D70",
   "306253;307981;31A7A;305408;306E80;31709;338;307533;305272;315B6;30914D;+1f240",
   "00TORTOISE SHELL BRACKETED CJK UNIFIED IDEOGRAPH-672C;474E09;498C;475B89;4770B9;476253;4776D7",
   "4752DD;476557;+1f250;00CIRCLED IDEOGRAPH ADVANTAGE;19CCEPT;+1f260;00ROUNDED SYMBOL FOR FU;19LU",
   "19SHOU;19XI;19SHUANGXI;19CAI;+1f300;00CYCLONE;00FOGGY;00CLOSED UMBRELLA;00NIGHT WITH STARS",
   "00SUNRISE OVER MOUNTAINS;07;00CITYSCAPE AT DUSK;00SUNSET OVER BUILDINGS;00RAINBOW",
   "00BRIDGE AT NIGHT;00WATER WAVE;00VOLCANO;00MILKY WAY;00EARTH GLOBE EUROPE-AFRICA;12AMERICAS",
   "13SIA-AUSTRALIA;00GLOBE WITH MERIDIANS;00NEW MOON SYMBOL;00WAXING CRESCENT MOON SYMBOL",
   "00FIRST QUARTER MOON SYMBOL;00WAXING GIBBOUS MOON SYMBOL;00FULL MOON SYMBOL",
   "00WANING GIBBOUS MOON SYMBOL;00LAST QUARTER MOON SYMBOL;00WANING CRESCENT MOON SYMBOL",
   "00CRESCENT MOON;00NEW MOON WITH FACE;00FIRST QUARTER MOON WITH FACE",
   "00LAST QUARTER MOON WITH FACE;00FULL MOON WITH FACE;00SUN WITH FACE;00GLOWING STAR",
   "00SHOOTING STAR;00THERMOMETER;00BLACK DROPLET;00WHITE SUN;09 WITH SMALL CLOUD;10BEHIND CLOUD",
   "22 WITH RAIN;00CLOUD WITH RAIN;11SNOW;11LIGHTNING;11TORNADO;00FOG;00WIND BLOWING FACE",
   "00HOT DOG;00TACO;00BURRITO;00CHESTNUT;00SEEDLING;00EVERGREEN TREE;00DECIDUOUS TREE;00PALM TREE",
   "00CACTUS;00HOT PEPPER;00TULIP;00CHERRY BLOSSOM;00ROSE;00HIBISCUS;00SUNFLOWER;00BLOSSOM",
   "00EAR OF MAIZE;07RICE;00HERB;00FOUR LEAF CLOVER;00MAPLE LEAF;00FALLEN LEAF",
   "00LEAF FLUTTERING IN WIND;00MUSHROOM;00TOMATO;00AUBERGINE;00GRAPES;00MELON;00WATERMELON",
   "00TANGERINE;00LEMON;00BANANA;00PINEAPPLE;00RED APPLE;00GREEN APPLE;00PEAR;03CH;00CHERRIES",
   "00STRAWBERRY;00HAMBURGER;00SLICE OF PIZZA;00MEAT ON BONE;00POULTRY LEG;00RICE CRACKER;05BALL",
   "00COOKED RICE;01URRY AND RICE;00STEAMING BOWL;01PAGHETTI;00BREAD;00FRENCH FRIES",
   "00ROASTED SWEET POTATO;00DANGO;00ODEN;00SUSHI;00FRIED SHRIMP;01ISH CAKE WITH SWIRL DESIGN",
   "00SOFT ICE CREAM;01HAVED ICE;00ICE CREAM;00DOUGHNUT;00COOKIE;01HOCOLATE BAR;01ANDY;00LOLLIPOP",
   "00CUSTARD;00HONEY POT;00SHORTCAKE;00BENTO BOX;00POT OF FOOD;00COOKING;00FORK AND KNIFE",
   "00TEACUP WITHOUT HANDLE;00SAKE BOTTLE AND CUP;00WINE GLASS;00COCKTAIL GLASS;00TROPICAL DRINK",
   "00BEER MUG;00CLINKING BEER MUGS;00BABY BOTTLE;00FORK AND KNIFE WITH PLATE",
   "00BOTTLE WITH POPPING CORK;00POPCORN;00RIBBON;00WRAPPED PRESENT;00BIRTHDAY CAKE",
   "00JACK-O-LANTERN;00CHRISTMAS TREE;00FATHER CHRISTMAS;01IREWORKS;08 SPARKLER;00BALLOON",
   "00PARTY POPPER;00CONFETTI BALL;00TANABATA TREE;00CROSSED FLAGS;00PINE DECORATION",
   "00JAPANESE DOLLS;00CARP STREAMER;00WIND CHIME;00MOON VIEWING CEREMONY;00SCHOOL SATCHEL",
   "00GRADUATION CAP;00HEART WITH TIP ON THE LEFT;00BOUQUET OF FLOWERS;00MILITARY MEDAL",
   "00REMINDER RIBBON;00MUSICAL KEYBOARD WITH JACKS;00STUDIO MICROPHONE;00LEVEL SLIDER",
   "00CONTROL KNOBS;00BEAMED ASCENDING MUSICAL NOTES;07DESCENDING MUSICAL NOTES;00FILM FRAMES",
   "00ADMISSION TICKETS;00CAROUSEL HORSE;00FERRIS WHEEL;00ROLLER COASTER;00FISHING POLE AND FISH",
   "00MICROPHONE;01OVIE CAMERA;00CINEMA;00HEADPHONE;00ARTIST PALETTE;00TOP HAT;00CIRCUS TENT",
   "00TICKET;00CLAPPER BOARD;00PERFORMING ARTS;00VIDEO GAME;00DIRECT HIT;00SLOT MACHINE",
   "00BILLIARDS;00GAME DIE;00BOWLING;00FLOWER PLAYING CARDS;00MUSICAL NOTE;02LTIPLE MUSICAL NOTES",
   "00SAXOPHONE;00GUITAR;00MUSICAL KEYBOARD;00TRUMPET;00VIOLIN;00MUSICAL SCORE",
   "00RUNNING SHIRT WITH SASH;00TENNIS RACQUET AND BALL;00SKI AND SKI BOOT;00BASKETBALL AND HOOP",
   "00CHEQUERED FLAG;00SNOWBOARDER;00RUNNER;00SURFER;01PORTS MEDAL;00TROPHY;00HORSE RACING",
   "00AMERICAN FOOTBALL;00RUGBY FOOTBALL;00SWIMMER;00WEIGHT LIFTER;00GOLFER;00RACING MOTORCYCLE",
   "07CAR;00CRICKET BAT AND BALL;00VOLLEYBALL;00FIELD HOCKEY STICK AND BALL",
   "00ICE HOCKEY STICK AND PUCK;00TABLE TENNIS PADDLE AND BALL;00SNOW CAPPED MOUNTAIN;00CAMPING",
   "00BEACH WITH UMBRELLA;01UILDING CONSTRUCTION;00HOUSE BUILDINGS;00CITYSCAPE",
   "00DERELICT HOUSE BUILDING;00CLASSICAL BUILDING;00DESERT;06 ISLAND;00NATIONAL PARK;00STADIUM",
   "00HOUSE BUILDING;06WITH GARDEN;00OFFICE BUILDING;00JAPANESE POST OFFICE;00EUROPEAN POST OFFICE",
   "00HOSPITAL;00BANK;00AUTOMATED TELLER MACHINE;00HOTEL;00LOVE HOTEL;00CONVENIENCE STORE;00SCHOOL",
   "00DEPARTMENT STORE;00FACTORY;00IZAKAYA LANTERN;00JAPANESE CASTLE;00EUROPEAN CASTLE",
   "00WHITE PENNANT;00BLACK PENNANT;00WAVING WHITE FLAG;07BLACK FLAG;00ROSETTE;00BLACK ROSETTE",
   "00LABEL;00BADMINTON RACQUET AND SHUTTLECOCK;01OW AND ARROW;00AMPHORA",
   "00EMOJI MODIFIER FITZPATRICK TYPE-1-2;323;324;325;326;00RAT;00MOUSE;00OX;00WATER BUFFALO;00COW",
   "00TIGER;00LEOPARD;00RABBIT;00CAT;00DRAGON;00CROCODILE;00WHALE;00SNAIL;03KE;00HORSE;00RAM",
   "00GOAT;00SHEEP;00MONKEY;00ROOSTER;00CHICKEN;00DOG;00PIG;00BOAR;00ELEPHANT;00OCTOPUS",
   "00SPIRAL SHELL;00BUG;00ANT;00HONEYBEE;00LADY BEETLE;00FISH;00TROPICAL FISH;00BLOWFISH;00TURTLE",
   "00HATCHING CHICK;00BABY CHICK;00FRONT-FACING BABY CHICK;00BIRD;00PENGUIN;00KOALA;00POODLE",
   "00DROMEDARY CAMEL;00BACTRIAN CAMEL;00DOLPHIN;00MOUSE FACE;00COW FACE;00TIGER FACE",
   "00RABBIT FACE;00CAT FACE;00DRAGON FACE;00SPOUTING WHALE;00HORSE FACE;00MONKEY FACE;00DOG FACE",
   "00PIG FACE;00FROG FACE;00HAMSTER FACE;00WOLF FACE;00BEAR FACE;00PANDA FACE;01IG NOSE",
   "01AW PRINTS;00CHIPMUNK;00EYES;03;01AR;00NOSE;00MOUTH;00TONGUE",
   "00WHITE UP POINTING BACKHAND INDEX;06DOWN POINTING BACKHAND INDEX",
   "06LEFT POINTING BACKHAND INDEX;06RIGHT POINTING BACKHAND INDEX;00FISTED HAND SIGN",
   "00WAVING HAND SIGN;00OK HAND SIGN;00THUMBS UP SIGN;07DOWN SIGN;00CLAPPING HANDS SIGN",
   "00OPEN HANDS SIGN;00CROWN;00WOMANS HAT;00EYEGLASSES;00NECKTIE;00T-SHIRT;00JEANS;00DRESS",
   "00KIMONO;00BIKINI;00WOMANS CLOTHES;00PURSE;00HANDBAG;00POUCH;00MANS SHOE;00ATHLETIC SHOE",
   "00HIGH-HEELED SHOE;00WOMANS SANDAL;07BOOTS;00FOOTPRINTS;00BUST IN SILHOUETTE;04S IN SILHOUETTE",
   "01OY;00GIRL;00MAN;00WOMAN;00FAMILY;00MAN AND WOMAN HOLDING HANDS;00TWO MEN HOLDING HANDS",
   "04WOMEN HOLDING HANDS;00POLICE OFFICER;00WOMAN WITH BUNNY EARS;00BRIDE WITH VEIL",
   "00PERSON WITH BLOND HAIR;00MAN WITH GUA PI MAO;09TURBAN;00OLDER MAN;06WOMAN;00BABY",
   "00CONSTRUCTION WORKER;00PRINCESS;00JAPANESE OGRE;09GOBLIN;00GHOST;00BABY ANGEL",
   "00EXTRATERRESTRIAL ALIEN;00ALIEN MONSTER;00IMP;00SKULL;00INFORMATION DESK PERSON;00GUARDSMAN",
   "00DANCER;00LIPSTICK;00NAIL POLISH;00FACE MASSAGE;00HAIRCUT;00BARBER POLE;00SYRINGE;00PILL",
   "00KISS MARK;00LOVE LETTER;00RING;00GEM STONE;00KISS;00BOUQUET;00COUPLE WITH HEART;00WEDDING",
   "00BEATING HEART;01ROKEN HEART;00TWO HEARTS;00SPARKLING HEART;00GROWING HEART",
   "00HEART WITH ARROW;00BLUE HEART;00GREEN HEART;00YELLOW HEART;00PURPLE HEART",
   "00HEART WITH RIBBON;00REVOLVING HEARTS;00HEART DECORATION;00DIAMOND SHAPE WITH A DOT INSIDE",
   "00ELECTRIC LIGHT BULB;00ANGER SYMBOL;00BOMB;00SLEEPING SYMBOL;00COLLISION SYMBOL",
   "00SPLASHING SWEAT SYMBOL;00DROPLET;01ASH SYMBOL;00PILE OF POO;00FLEXED BICEPS;00DIZZY SYMBOL",
   "00SPEECH BALLOON;00THOUGHT BALLOON;00WHITE FLOWER;00HUNDRED POINTS SYMBOL;00MONEY BAG",
   "00CURRENCY EXCHANGE;00HEAVY DOLLAR SIGN;00CREDIT CARD;00BANKNOTE WITH YEN SIGN;14DOLLAR SIGN",
   "14EURO SIGN;14POUND SIGN;00MONEY WITH WINGS;00CHART WITH UPWARDS TREND AND YEN SIGN;00SEAT",
   "00PERSONAL COMPUTER;00BRIEFCASE;00MINIDISC;00FLOPPY DISK;00OPTICAL DISC;00DVD;00FILE FOLDER",
   "00OPEN FILE FOLDER;00PAGE WITH CURL;05FACING UP;00CALENDAR;00TEAR-OFF CALENDAR;00CARD INDEX",
   "01HART WITH UPWARDS TREND;11DOWNWARDS TREND;00BAR CHART;00CLIPBOARD;00PUSHPIN;00ROUND PUSHPIN",
   "00PAPERCLIP;00STRAIGHT RULER;00TRIANGULAR RULER;00BOOKMARK TABS;00LEDGER;00NOTEBOOK",
   "08 WITH DECORATIVE COVER;00CLOSED BOOK;00OPEN BOOK;00GREEN BOOK;00BLUE BOOK;00ORANGE BOOK",
   "00BOOKS;00NAME BADGE;00SCROLL;00MEMO;00TELEPHONE RECEIVER;00PAGER;00FAX MACHINE",
   "00SATELLITE ANTENNA;00PUBLIC ADDRESS LOUDSPEAKER;00CHEERING MEGAPHONE;00OUTBOX TRAY",
   "00INBOX TRAY;00PACKAGE;00E-MAIL SYMBOL;00INCOMING ENVELOPE",
   "00ENVELOPE WITH DOWNWARDS ARROW ABOVE;00CLOSED MAILBOX WITH LOWERED FLAG;20RAISED FLAG",
   "00OPEN MAILBOX WITH RAISED FLAG;18LOWERED FLAG;00POSTBOX;04AL HORN;00NEWSPAPER;00MOBILE PHONE",
   "12 WITH RIGHTWARDS ARROW AT LEFT;00VIBRATION MODE;00MOBILE PHONE OFF;00NO MOBILE PHONES",
   "00ANTENNA WITH BARS;00CAMERA;06 WITH FLASH;00VIDEO CAMERA;00TELEVISION;00RADIO;00VIDEOCASSETTE",
   "00FILM PROJECTOR;00PORTABLE STEREO;01RAYER BEADS;00TWISTED RIGHTWARDS ARROWS",
   "00CLOCKWISE RIGHTWARDS AND LEFTWARDS OPEN CIRCLE ARROWS;53 WITH CIRCLED ONE OVERLAY",
   "10DOWNWARDS AND UPWARDS OPEN CIRCLE ARROWS",
   "00ANTICLOCKWISE DOWNWARDS AND UPWARDS OPEN CIRCLE ARROWS;00LOW BRIGHTNESS SYMBOL",
   "00HIGH BRIGHTNESS SYMBOL;00SPEAKER WITH CANCELLATION STROKE;07;07 WITH ONE SOUND WAVE",
   "13THREE SOUND WAVES;00BATTERY;00ELECTRIC PLUG;00LEFT-POINTING MAGNIFYING GLASS",
   "00RIGHT-POINTING MAGNIFYING GLASS;00LOCK WITH INK PEN;00CLOSED LOCK WITH KEY;00KEY;00LOCK",
   "00OPEN LOCK;00BELL;04 WITH CANCELLATION STROKE;01OOKMARK;00LINK SYMBOL;00RADIO BUTTON",
   "00BACK WITH LEFTWARDS ARROW ABOVE;00END WITH LEFTWARDS ARROW ABOVE",
   "00ON WITH EXCLAMATION MARK WITH LEFT RIGHT ARROW ABOVE;00SOON WITH RIGHTWARDS ARROW ABOVE",
   "00TOP WITH UPWARDS ARROW ABOVE;00NO ONE UNDER EIGHTEEN SYMBOL;00KEYCAP TEN",
   "00INPUT SYMBOL FOR LATIN CAPITAL LETTERS;23SMALL LETTERS;17NUMBERS;17SYMBOLS;17LATIN LETTERS",
   "00FIRE;00ELECTRIC TORCH;00WRENCH;00HAMMER;00NUT AND BOLT;00HOCHO;00PISTOL;00MICROSCOPE",
   "00TELESCOPE;00CRYSTAL BALL;00SIX POINTED STAR WITH MIDDLE DOT;00JAPANESE SYMBOL FOR BEGINNER",
   "00TRIDENT EMBLEM;00BLACK SQUARE BUTTON;00WHITE SQUARE BUTTON;00LARGE RED CIRCLE;06BLUE CIRCLE",
   "06ORANGE DIAMOND;06BLUE DIAMOND;00SMALL ORANGE DIAMOND;06BLUE DIAMOND",
   "00UP-POINTING RED TRIANGLE;00DOWN-POINTING RED TRIANGLE;00UP-POINTING SMALL RED TRIANGLE",
   "00DOWN-POINTING SMALL RED TRIANGLE;00LOWER RIGHT SHADOWED WHITE CIRCLE",
   "00UPPER RIGHT SHADOWED WHITE CIRCLE;00CIRCLED CROSS POMMEE",
   "01ROSS POMMEE WITH HALF-CIRCLE BELOW;12;00NOTCHED LEFT SEMICIRCLE WITH THREE DOTS",
   "08RIGHT SEMICIRCLE WITH THREE DOTS;00SYMBOL FOR MARKS CHAPTER;00WHITE LATIN CROSS",
   "00HEAVY LATIN CROSS;00CELTIC CROSS;00OM SYMBOL;00DOVE OF PEACE;00KAABA;00MOSQUE;00SYNAGOGUE",
   "00MENORAH WITH NINE BRANCHES;00BOWL OF HYGIEIA;00CLOCK FACE ONE OCLOCK;11TWO OCLOCK",
   "12HREE OCLOCK;11FOUR OCLOCK;12IVE OCLOCK;11SIX OCLOCK;12EVEN OCLOCK;11EIGHT OCLOCK",
   "11NINE OCLOCK;11TEN OCLOCK;11ELEVEN OCLOCK;11TWELVE OCLOCK;11ONE-THIRTY;11TWO-THIRTY",
   "12HREE-THIRTY;11FOUR-THIRTY;12IVE-THIRTY;11SIX-THIRTY;12EVEN-THIRTY;11EIGHT-THIRTY",
   "11NINE-THIRTY;11TEN-THIRTY;11ELEVEN-THIRTY;11TWELVE-THIRTY;00RIGHT SPEAKER",
   "13 WITH ONE SOUND WAVE;19THREE SOUND WAVES;00BULLHORN;08 WITH SOUND WAVES;00RINGING BELL",
   "00BOOK;00CANDLE;00MANTELPIECE CLOCK;00BLACK SKULL AND CROSSBONES;00NO PIRACY;00HOLE",
   "00MAN IN BUSINESS SUIT LEVITATING;00SLEUTH OR SPY;00DARK SUNGLASSES;00SPIDER;06 WEB;00JOYSTICK",
   "00MAN DANCING;00LEFT HAND TELEPHONE RECEIVER;00TELEPHONE RECEIVER WITH PAGE",
   "00RIGHT HAND TELEPHONE RECEIVER;00WHITE TOUCHTONE TELEPHONE;00BLACK TOUCHTONE TELEPHONE",
   "00TELEPHONE ON TOP OF MODEM;00CLAMSHELL MOBILE PHONE;00BACK OF ENVELOPE;00STAMPED ENVELOPE",
   "00ENVELOPE WITH LIGHTNING;00FLYING ENVELOPE;00PEN OVER STAMPED ENVELOPE;00LINKED PAPERCLIPS",
   "00BLACK PUSHPIN;00LOWER LEFT PENCIL;11BALLPOINT PEN;11FOUNTAIN PEN;11PAINTBRUSH;11CRAYON",
   "01EFT WRITING HAND;00TURNED OK HAND SIGN;00RAISED HAND WITH FINGERS SPLAYED",
   "01EVERSED RAISED HAND WITH FINGERS SPLAYED;09THUMBS UP SIGN;16DOWN SIGN;09VICTORY HAND",
   "09HAND WITH MIDDLE FINGER EXTENDED;01AISED HAND WITH PART BETWEEN MIDDLE AND RING FINGERS",
   "00WHITE DOWN POINTING LEFT HAND INDEX;00SIDEWAYS WHITE LEFT POINTING INDEX",
   "15RIGHT POINTING INDEX;09BLACK LEFT POINTING INDEX;15RIGHT POINTING INDEX",
   "00BLACK LEFT POINTING BACKHAND INDEX;06RIGHT POINTING BACKHAND INDEX",
   "00SIDEWAYS WHITE UP POINTING INDEX;15DOWN POINTING INDEX;09BLACK UP POINTING INDEX",
   "15DOWN POINTING INDEX;00BLACK UP POINTING BACKHAND INDEX;06DOWN POINTING BACKHAND INDEX",
   "06HEART;00DESKTOP COMPUTER;00KEYBOARD AND MOUSE;00THREE NETWORKED COMPUTERS;00PRINTER",
   "01OCKET CALCULATOR;00BLACK HARD SHELL FLOPPY DISK;00WHITE HARD SHELL FLOPPY DISK",
   "00SOFT SHELL FLOPPY DISK;00TAPE CARTRIDGE;00WIRED KEYBOARD;00ONE BUTTON MOUSE",
   "00TWO BUTTON MOUSE;01HREE BUTTON MOUSE;01RACKBALL;00OLD PERSONAL COMPUTER;00HARD DISK;00SCREEN",
   "00PRINTER ICON;00FAX ICON;00OPTICAL DISC ICON;00DOCUMENT WITH TEXT;18 AND PICTURE;14PICTURE",
   "00FRAME WITH PICTURE;11TILES;11AN X;00BLACK FOLDER;00FOLDER;00OPEN FOLDER",
   "00CARD INDEX DIVIDERS;05FILE BOX;00FILE CABINET;00EMPTY NOTE;10 PAGE;13D;00NOTE;04 PAGE;07D",
   "00EMPTY DOCUMENT;06PAGE;10S;00DOCUMENT;00PAGE;04S;00WASTEBASKET;00SPIRAL NOTE PAD",
   "07CALENDAR PAD;00DESKTOP WINDOW;00MINIMIZE;01AXIMIZE;00OVERLAP",
   "00CLOCKWISE RIGHT AND LEFT SEMICIRCLE ARROWS;01ANCELLATION X;00INCREASE FONT SIZE SYMBOL",
   "00DECREASE FONT SIZE SYMBOL;00COMPRESSION;00OLD KEY;00ROLLED-UP NEWSPAPER",
   "00PAGE WITH CIRCLED TEXT;00STOCK CHART;00DAGGER KNIFE;00LIPS;00SPEAKING HEAD IN SILHOUETTE",
   "00THREE RAYS ABOVE;11BELOW;11LEFT;11RIGHT;00LEFT SPEECH BUBBLE;00RIGHT SPEECH BUBBLE",
   "00TWO SPEECH BUBBLES;01HREE SPEECH BUBBLES;00LEFT THOUGHT BUBBLE;00RIGHT THOUGHT BUBBLE",
   "00LEFT ANGER BUBBLE;00RIGHT ANGER BUBBLE;00MOOD BUBBLE;00LIGHTNING MOOD BUBBLE;14",
   "00BALLOT BOX WITH BALLOT;07SCRIPT X;07BOX WITH SCRIPT X;09LD SCRIPT X;09X WITH BOLD SCRIPT X",
   "00LIGHT CHECK MARK;00BALLOT BOX WITH BOLD CHECK;00WORLD MAP;00MOUNT FUJI;00TOKYO TOWER",
   "00STATUE OF LIBERTY;01ILHOUETTE OF JAPAN;00MOYAI;00GRINNING FACE;13 WITH SMILING EYES",
   "00FACE WITH TEARS OF JOY;00SMILING FACE WITH OPEN MOUTH;28 AND SMILING EYES;33COLD SWEAT",
   "33TIGHTLY-CLOSED EYES;18HALO;19ORNS;00WINKING FACE;00SMILING FACE WITH SMILING EYES",
   "00FACE SAVOURING DELICIOUS FOOD;00RELIEVED FACE;00SMILING FACE WITH HEART-SHAPED EYES",
   "18SUNGLASSES;03RKING FACE;00NEUTRAL FACE;00EXPRESSIONLESS FACE;00UNAMUSED FACE",
   "00FACE WITH COLD SWEAT;00PENSIVE FACE;00CONFUSED FACE;04OUNDED FACE;00KISSING FACE",
   "00FACE THROWING A KISS;00KISSING FACE WITH SMILING EYES;18CLOSED EYES",
   "00FACE WITH STUCK-OUT TONGUE;26 AND WINKING EYE;31TIGHTLY-CLOSED EYES;00DISAPPOINTED FACE",
   "00WORRIED FACE;00ANGRY FACE;00POUTING FACE;00CRYING FACE;00PERSEVERING FACE",
   "00FACE WITH LOOK OF TRIUMPH;00DISAPPOINTED BUT RELIEVED FACE;00FROWNING FACE WITH OPEN MOUTH",
   "00ANGUISHED FACE;00FEARFUL FACE;00WEARY FACE;00SLEEPY FACE;00TIRED FACE;00GRIMACING FACE",
   "00LOUDLY CRYING FACE;00FACE WITH OPEN MOUTH;00HUSHED FACE",
   "00FACE WITH OPEN MOUTH AND COLD SWEAT;05SCREAMING IN FEAR;00ASTONISHED FACE;00FLUSHED FACE",
   "00SLEEPING FACE;00DIZZY FACE;00FACE WITHOUT MOUTH;09 MEDICAL MASK",
   "00GRINNING CAT FACE WITH SMILING EYES;00CAT FACE WITH TEARS OF JOY",
   "00SMILING CAT FACE WITH OPEN MOUTH;22HEART-SHAPED EYES;00CAT FACE WITH WRY SMILE",
   "00KISSING CAT FACE WITH CLOSED EYES;00POUTING CAT FACE;00CRYING CAT FACE;00WEARY CAT FACE",
   "00SLIGHTLY FROWNING FACE;09SMILING FACE;00UPSIDE-DOWN FACE;00FACE WITH ROLLING EYES",
   "10NO GOOD GESTURE;10OK GESTURE;00PERSON BOWING DEEPLY;00SEE-NO-EVIL MONKEY",
   "00HEAR-NO-EVIL MONKEY;00SPEAK-NO-EVIL MONKEY;00HAPPY PERSON RAISING ONE HAND",
   "00PERSON RAISING BOTH HANDS IN CELEBRATION;07FROWNING;07WITH POUTING FACE;12FOLDED HANDS",
   "00NORTH WEST POINTING LEAF;00SOUTH WEST POINTING LEAF;00NORTH EAST POINTING LEAF",
   "00SOUTH EAST POINTING LEAF;00TURNED NORTH WEST POINTING LEAF;07SOUTH WEST POINTING LEAF",
   "07NORTH EAST POINTING LEAF;07SOUTH EAST POINTING LEAF;00NORTH WEST POINTING VINE LEAF",
   "00SOUTH WEST POINTING VINE LEAF;00NORTH EAST POINTING VINE LEAF",
   "00SOUTH EAST POINTING VINE LEAF;00HEAVY NORTH WEST POINTING VINE LEAF",
   "06SOUTH WEST POINTING VINE LEAF;06NORTH EAST POINTING VINE LEAF",
   "06SOUTH EAST POINTING VINE LEAF;00NORTH WEST POINTING BUD;00SOUTH WEST POINTING BUD",
   "00NORTH EAST POINTING BUD;00SOUTH EAST POINTING BUD;00HEAVY NORTH WEST POINTING BUD",
   "06SOUTH WEST POINTING BUD;06NORTH EAST POINTING BUD;06SOUTH EAST POINTING BUD",
   "01OLLOW QUILT SQUARE ORNAMENT;28 IN BLACK SQUARE;00SOLID QUILT SQUARE ORNAMENT",
   "27 IN BLACK SQUARE;00LEFTWARDS ROCKET;00UPWARDS ROCKET;00RIGHTWARDS ROCKET;00DOWNWARDS ROCKET",
   "00SCRIPT LIGATURE ET ORNAMENT;00HEAVY SCRIPT LIGATURE ET ORNAMENT;00LIGATURE OPEN ET ORNAMENT",
   "00HEAVY LIGATURE OPEN ET ORNAMENT;06AMPERSAND ORNAMENT;00SWASH AMPERSAND ORNAMENT",
   "01ANS-SERIF HEAVY DOUBLE TURNED COMMA QUOTATION MARK ORNAMENT;24COMMA QUOTATION MARK ORNAMENT",
   "17LOW DOUBLE COMMA QUOTATION MARK ORNAMENT;00HEAVY INTERROBANG ORNAMENT",
   "00SANS-SERIF INTERROBANG ORNAMENT;00HEAVY SANS-SERIF INTERROBANG ORNAMENT;00VERY HEAVY SOLIDUS",
   "11REVERSE SOLIDUS;00CHECKER BOARD;00REVERSE CHECKER BOARD;01OCKET;00HELICOPTER",
   "00STEAM LOCOMOTIVE;00RAILWAY CAR;00HIGH-SPEED TRAIN;16 WITH BULLET NOSE;00TRAIN;00METRO",
   "00LIGHT RAIL;00STATION;00TRAM;04 CAR;00BUS;00ONCOMING BUS;00TROLLEYBUS;00BUS STOP;00MINIBUS",
   "00AMBULANCE;00FIRE ENGINE;00POLICE CAR;00ONCOMING POLICE CAR;00TAXI;00ONCOMING TAXI",
   "00AUTOMOBILE;00ONCOMING AUTOMOBILE;00RECREATIONAL VEHICLE;00DELIVERY TRUCK;00ARTICULATED LORRY",
   "00TRACTOR;00MONORAIL;02UNTAIN RAILWAY;00SUSPENSION RAILWAY;00MOUNTAIN CABLEWAY",
   "00AERIAL TRAMWAY;00SHIP;00ROWBOAT;00SPEEDBOAT;00HORIZONTAL TRAFFIC LIGHT",
   "00VERTICAL TRAFFIC LIGHT;00CONSTRUCTION SIGN;00POLICE CARS REVOLVING LIGHT",
   "00TRIANGULAR FLAG ON POST;00DOOR;00NO ENTRY SIGN;00SMOKING SYMBOL;00NO SMOKING SYMBOL",
   "00PUT LITTER IN ITS PLACE SYMBOL;00DO NOT LITTER SYMBOL;00POTABLE WATER SYMBOL",
   "00NON-POTABLE WATER SYMBOL;00BICYCLE;00NO BICYCLES;00BICYCLIST;00MOUNTAIN BICYCLIST",
   "00PEDESTRIAN;00NO PEDESTRIANS;00CHILDREN CROSSING;00MENS SYMBOL;00WOMENS SYMBOL;00RESTROOM",
   "00BABY SYMBOL;00TOILET;00WATER CLOSET;00SHOWER;00BATH;04TUB;00PASSPORT CONTROL;00CUSTOMS",
   "00BAGGAGE CLAIM;00LEFT LUGGAGE;00TRIANGLE WITH ROUNDED CORNERS;00PROHIBITED SIGN",
   "00CIRCLED INFORMATION SOURCE;00BOYS SYMBOL;00GIRLS SYMBOL;00COUCH AND LAMP",
   "00SLEEPING ACCOMMODATION;01HOPPING BAGS;00BELLHOP BELL;02D;00PLACE OF WORSHIP;00OCTAGONAL SIGN",
   "00SHOPPING TROLLEY;01TUPA;00PAGODA;00HINDU TEMPLE;01UT;00ELEVATOR;+1f6dd;00PLAYGROUND SLIDE",
   "00WHEEL;00RING BUOY;00HAMMER AND WRENCH;00SHIELD;00OIL DRUM;00MOTORWAY;00RAILWAY TRACK",
   "00MOTOR BOAT;00UP-POINTING MILITARY AIRPLANE;12AIRPLANE;12SMALL AIRPLANE;00SMALL AIRPLANE",
   "00NORTHEAST-POINTING AIRPLANE;00AIRPLANE DEPARTURE;09ARRIVING;+1f6f0;00SATELLITE",
   "00ONCOMING FIRE ENGINE;00DIESEL LOCOMOTIVE;00PASSENGER SHIP;00SCOOTER;00MOTOR SCOOTER;00CANOE",
   "00SLED;00FLYING SAUCER;00SKATEBOARD;00AUTO RICKSHAW;00PICKUP TRUCK;00ROLLER SKATE;+1f700",
   "00ALCHEMICAL SYMBOL FOR QUINTESSENCE;22AIR;22FIRE;22EARTH;22WATER;22AQUAFORTIS;26 REGIA;32-2",
   "27VITAE;32-2;22VINEGAR;29-2;303;22SULFUR;22PHILOSOPHERS SULFUR;22BLACK SULFUR",
   "22MERCURY SUBLIMATE;39-2;403;22CINNABAR;22SALT;22NITRE;22VITRIOL;29-2;22ROCK SALT;31-2;22GOLD",
   "22SILVER;22IRON ORE;30-2;22CROCUS OF IRON;22REGULUS OF IRON;22COPPER ORE;22IRON-COPPER ORE",
   "22SUBLIMATE OF COPPER;22CROCUS OF COPPER;38-2;23OPPER ANTIMONIATE;22SALT OF COPPER ANTIMONIATE",
   "23UBLIMATE OF SALT OF COPPER;22VERDIGRIS;22TIN ORE;22LEAD ORE;22ANTIMONY ORE",
   "22SUBLIMATE OF ANTIMONY;23ALT OF ANTIMONY;23UBLIMATE OF SALT OF ANTIMONY;22VINEGAR OF ANTIMONY",
   "22REGULUS OF ANTIMONY;41-2;29;29-2;303;304;22ALKALI;28-2;22MARCASITE;22SAL-AMMONIAC;22ARSENIC",
   "22REALGAR;29-2;22AURIPIGMENT;22BISMUTH ORE;22TARTAR;28-2;22QUICK LIME;22BORAX;27-2;283;22ALUM",
   "22OIL;22SPIRIT;22TINCTURE;22GUM;22WAX;22POWDER;22CALX;22TUTTY;22CAPUT MORTUUM",
   "22SCEPTER OF JOVE;22CADUCEUS;22TRIDENT;22STARRED TRIDENT;22LODESTONE;22SOAP;22URINE",
   "22HORSE DUNG;22ASHES;22POT ASHES;22BRICK;22POWDERED BRICK;22AMALGAM;22STRATUM SUPER STRATUM",
   "43-2;23UBLIMATION;22PRECIPITATE;22DISTILL;25SOLVE;30-2;22PURIFY;24TREFACTION;22CRUCIBLE;30-2",
   "313;314;315;22ALEMBIC;22BATH OF MARY;30VAPOURS;22RETORT;22HOUR;22NIGHT;22DAY-NIGHT;22MONTH",
   "22HALF DRAM;27OUNCE;+1f780;00BLACK LEFT-POINTING ISOSCELES RIGHT TRIANGLE",
   "06UP-POINTING ISOSCELES RIGHT TRIANGLE;06RIGHT-POINTING ISOSCELES RIGHT TRIANGLE",
   "06DOWN-POINTING ISOSCELES RIGHT TRIANGLE;06SLIGHTLY SMALL CIRCLE;00MEDIUM BOLD WHITE CIRCLE",
   "00BOLD WHITE CIRCLE;00HEAVY WHITE CIRCLE;00VERY HEAVY WHITE CIRCLE",
   "00EXTREMELY HEAVY WHITE CIRCLE;00WHITE CIRCLE CONTAINING BLACK SMALL CIRCLE;00ROUND TARGET",
   "00BLACK TINY SQUARE;06SLIGHTLY SMALL SQUARE;00LIGHT WHITE SQUARE;00MEDIUM WHITE SQUARE",
   "00BOLD WHITE SQUARE;00HEAVY WHITE SQUARE;00VERY HEAVY WHITE SQUARE",
   "00EXTREMELY HEAVY WHITE SQUARE;00WHITE SQUARE CONTAINING BLACK VERY SMALL SQUARE",
   "30MEDIUM SQUARE;00SQUARE TARGET;00BLACK TINY DIAMOND;06VERY SMALL DIAMOND",
   "06MEDIUM SMALL DIAMOND;00WHITE DIAMOND CONTAINING BLACK VERY SMALL DIAMOND;31MEDIUM DIAMOND",
   "00DIAMOND TARGET;00BLACK TINY LOZENGE;06VERY SMALL LOZENGE;06MEDIUM SMALL LOZENGE",
   "00WHITE LOZENGE CONTAINING BLACK SMALL LOZENGE;00THIN GREEK CROSS;00LIGHT GREEK CROSS",
   "00MEDIUM GREEK CROSS;00BOLD GREEK CROSS;00VERY BOLD GREEK CROSS;05HEAVY GREEK CROSS",
   "00EXTREMELY HEAVY GREEK CROSS;00THIN SALTIRE;00LIGHT SALTIRE;00MEDIUM SALTIRE;00BOLD SALTIRE",
   "00HEAVY SALTIRE;00VERY HEAVY SALTIRE;00EXTREMELY HEAVY SALTIRE;00LIGHT FIVE SPOKED ASTERISK",
   "00MEDIUM FIVE SPOKED ASTERISK;00BOLD FIVE SPOKED ASTERISK;00HEAVY FIVE SPOKED ASTERISK",
   "00VERY HEAVY FIVE SPOKED ASTERISK;00EXTREMELY HEAVY FIVE SPOKED ASTERISK",
   "00LIGHT SIX SPOKED ASTERISK;00MEDIUM SIX SPOKED ASTERISK;00BOLD SIX SPOKED ASTERISK",
   "00HEAVY SIX SPOKED ASTERISK;00VERY HEAVY SIX SPOKED ASTERISK",
   "00EXTREMELY HEAVY SIX SPOKED ASTERISK;00LIGHT EIGHT SPOKED ASTERISK",
   "00MEDIUM EIGHT SPOKED ASTERISK;00BOLD EIGHT SPOKED ASTERISK;00HEAVY EIGHT SPOKED ASTERISK",
   "00VERY HEAVY EIGHT SPOKED ASTERISK;00LIGHT THREE POINTED BLACK STAR",
   "00MEDIUM THREE POINTED BLACK STAR;00THREE POINTED BLACK STAR",
   "00MEDIUM THREE POINTED PINWHEEL STAR;00LIGHT FOUR POINTED BLACK STAR",
   "00MEDIUM FOUR POINTED BLACK STAR;00FOUR POINTED BLACK STAR;00MEDIUM FOUR POINTED PINWHEEL STAR",
   "00REVERSE LIGHT FOUR POINTED PINWHEEL STAR;00LIGHT FIVE POINTED BLACK STAR",
   "00HEAVY FIVE POINTED BLACK STAR;00MEDIUM SIX POINTED BLACK STAR;00HEAVY SIX POINTED BLACK STAR",
   "00SIX POINTED PINWHEEL STAR;00MEDIUM EIGHT POINTED BLACK STAR;00HEAVY EIGHT POINTED BLACK STAR",
   "00VERY HEAVY EIGHT POINTED BLACK STAR;00HEAVY EIGHT POINTED PINWHEEL STAR",
   "00LIGHT TWELVE POINTED BLACK STAR;00HEAVY TWELVE POINTED BLACK STAR;21PINWHEEL STAR",
   "00CIRCLED TRIANGLE;00NEGATIVE CIRCLED TRIANGLE;00CIRCLED SQUARE;00NEGATIVE CIRCLED SQUARE",
   "+1f7e0;00LARGE ORANGE CIRCLE;06YELLOW CIRCLE;06GREEN CIRCLE;06PURPLE CIRCLE;06BROWN CIRCLE",
   "06RED SQUARE;06BLUE SQUARE;06ORANGE SQUARE;06YELLOW SQUARE;06GREEN SQUARE;06PURPLE SQUARE",
   "06BROWN SQUARE;+1f7f0;00HEAVY EQUALS SIGN;+1f800",
   "00LEFTWARDS ARROW WITH SMALL TRIANGLE ARROWHEAD;00UPWARDS ARROW WITH SMALL TRIANGLE ARROWHEAD",
   "00RIGHTWARDS ARROW WITH SMALL TRIANGLE ARROWHEAD",
   "00DOWNWARDS ARROW WITH SMALL TRIANGLE ARROWHEAD",
   "00LEFTWARDS ARROW WITH MEDIUM TRIANGLE ARROWHEAD",
   "00UPWARDS ARROW WITH MEDIUM TRIANGLE ARROWHEAD",
   "00RIGHTWARDS ARROW WITH MEDIUM TRIANGLE ARROWHEAD",
   "00DOWNWARDS ARROW WITH MEDIUM TRIANGLE ARROWHEAD",
   "00LEFTWARDS ARROW WITH LARGE TRIANGLE ARROWHEAD;00UPWARDS ARROW WITH LARGE TRIANGLE ARROWHEAD",
   "00RIGHTWARDS ARROW WITH LARGE TRIANGLE ARROWHEAD",
   "00DOWNWARDS ARROW WITH LARGE TRIANGLE ARROWHEAD;+1f810",
   "00LEFTWARDS ARROW WITH SMALL EQUILATERAL ARROWHEAD",
   "00UPWARDS ARROW WITH SMALL EQUILATERAL ARROWHEAD",
   "00RIGHTWARDS ARROW WITH SMALL EQUILATERAL ARROWHEAD",
   "00DOWNWARDS ARROW WITH SMALL EQUILATERAL ARROWHEAD",
   "00LEFTWARDS ARROW WITH EQUILATERAL ARROWHEAD;00UPWARDS ARROW WITH EQUILATERAL ARROWHEAD",
   "00RIGHTWARDS ARROW WITH EQUILATERAL ARROWHEAD;00DOWNWARDS ARROW WITH EQUILATERAL ARROWHEAD",
   "00HEAVY LEFTWARDS ARROW WITH EQUILATERAL ARROWHEAD;06UPWARDS ARROW WITH EQUILATERAL ARROWHEAD",
   "06RIGHTWARDS ARROW WITH EQUILATERAL ARROWHEAD;06DOWNWARDS ARROW WITH EQUILATERAL ARROWHEAD",
   "06LEFTWARDS ARROW WITH LARGE EQUILATERAL ARROWHEAD",
   "06UPWARDS ARROW WITH LARGE EQUILATERAL ARROWHEAD",
   "06RIGHTWARDS ARROW WITH LARGE EQUILATERAL ARROWHEAD",
   "06DOWNWARDS ARROW WITH LARGE EQUILATERAL ARROWHEAD",
   "00LEFTWARDS TRIANGLE-HEADED ARROW WITH NARROW SHAFT",
   "00UPWARDS TRIANGLE-HEADED ARROW WITH NARROW SHAFT",
   "00RIGHTWARDS TRIANGLE-HEADED ARROW WITH NARROW SHAFT",
   "00DOWNWARDS TRIANGLE-HEADED ARROW WITH NARROW SHAFT",
   "00LEFTWARDS TRIANGLE-HEADED ARROW WITH MEDIUM SHAFT",
   "00UPWARDS TRIANGLE-HEADED ARROW WITH MEDIUM SHAFT",
   "00RIGHTWARDS TRIANGLE-HEADED ARROW WITH MEDIUM SHAFT",
   "00DOWNWARDS TRIANGLE-HEADED ARROW WITH MEDIUM SHAFT",
   "00LEFTWARDS TRIANGLE-HEADED ARROW WITH BOLD SHAFT",
   "00UPWARDS TRIANGLE-HEADED ARROW WITH BOLD SHAFT",
   "00RIGHTWARDS TRIANGLE-HEADED ARROW WITH BOLD SHAFT",
   "00DOWNWARDS TRIANGLE-HEADED ARROW WITH BOLD SHAFT",
   "00LEFTWARDS TRIANGLE-HEADED ARROW WITH HEAVY SHAFT",
   "00UPWARDS TRIANGLE-HEADED ARROW WITH HEAVY SHAFT",
   "00RIGHTWARDS TRIANGLE-HEADED ARROW WITH HEAVY SHAFT",
   "00DOWNWARDS TRIANGLE-HEADED ARROW WITH HEAVY SHAFT",
   "00LEFTWARDS TRIANGLE-HEADED ARROW WITH VERY HEAVY SHAFT",
   "00UPWARDS TRIANGLE-HEADED ARROW WITH VERY HEAVY SHAFT",
   "00RIGHTWARDS TRIANGLE-HEADED ARROW WITH VERY HEAVY SHAFT",
   "00DOWNWARDS TRIANGLE-HEADED ARROW WITH VERY HEAVY SHAFT;00LEFTWARDS FINGER-POST ARROW",
   "00UPWARDS FINGER-POST ARROW;00RIGHTWARDS FINGER-POST ARROW;00DOWNWARDS FINGER-POST ARROW",
   "00LEFTWARDS SQUARED ARROW;00UPWARDS SQUARED ARROW;00RIGHTWARDS SQUARED ARROW",
   "00DOWNWARDS SQUARED ARROW;00LEFTWARDS COMPRESSED ARROW;00UPWARDS COMPRESSED ARROW",
   "00RIGHTWARDS COMPRESSED ARROW;00DOWNWARDS COMPRESSED ARROW;00LEFTWARDS HEAVY COMPRESSED ARROW",
   "00UPWARDS HEAVY COMPRESSED ARROW;00RIGHTWARDS HEAVY COMPRESSED ARROW",
   "00DOWNWARDS HEAVY COMPRESSED ARROW;00LEFTWARDS HEAVY ARROW;00UPWARDS HEAVY ARROW",
   "00RIGHTWARDS HEAVY ARROW;00DOWNWARDS HEAVY ARROW;+1f850;00LEFTWARDS SANS-SERIF ARROW",
   "00UPWARDS SANS-SERIF ARROW;00RIGHTWARDS SANS-SERIF ARROW;00DOWNWARDS SANS-SERIF ARROW",
   "00NORTH WEST SANS-SERIF ARROW;06EAST SANS-SERIF ARROW;00SOUTH EAST SANS-SERIF ARROW",
   "06WEST SANS-SERIF ARROW;00LEFT RIGHT SANS-SERIF ARROW;00UP DOWN SANS-SERIF ARROW;+1f860",
   "00WIDE-HEADED LEFTWARDS LIGHT BARB ARROW;12UPWARDS LIGHT BARB ARROW",
   "12RIGHTWARDS LIGHT BARB ARROW;12DOWNWARDS LIGHT BARB ARROW;12NORTH WEST LIGHT BARB ARROW",
   "18EAST LIGHT BARB ARROW;12SOUTH EAST LIGHT BARB ARROW;18WEST LIGHT BARB ARROW",
   "12LEFTWARDS BARB ARROW;12UPWARDS BARB ARROW;12RIGHTWARDS BARB ARROW;12DOWNWARDS BARB ARROW",
   "12NORTH WEST BARB ARROW;18EAST BARB ARROW;12SOUTH EAST BARB ARROW;18WEST BARB ARROW",
   "12LEFTWARDS MEDIUM BARB ARROW;12UPWARDS MEDIUM BARB ARROW;12RIGHTWARDS MEDIUM BARB ARROW",
   "12DOWNWARDS MEDIUM BARB ARROW;12NORTH WEST MEDIUM BARB ARROW;18EAST MEDIUM BARB ARROW",
   "12SOUTH EAST MEDIUM BARB ARROW;18WEST MEDIUM BARB ARROW;12LEFTWARDS HEAVY BARB ARROW",
   "12UPWARDS HEAVY BARB ARROW;12RIGHTWARDS HEAVY BARB ARROW;12DOWNWARDS HEAVY BARB ARROW",
   "12NORTH WEST HEAVY BARB ARROW;18EAST HEAVY BARB ARROW;12SOUTH EAST HEAVY BARB ARROW",
   "18WEST HEAVY BARB ARROW;12LEFTWARDS VERY HEAVY BARB ARROW;12UPWARDS VERY HEAVY BARB ARROW",
   "12RIGHTWARDS VERY HEAVY BARB ARROW;12DOWNWARDS VERY HEAVY BARB ARROW",
   "12NORTH WEST VERY HEAVY BARB ARROW;18EAST VERY HEAVY BARB ARROW",
   "12SOUTH EAST VERY HEAVY BARB ARROW;18WEST VERY HEAVY BARB ARROW;+1f890",
   "00LEFTWARDS TRIANGLE ARROWHEAD;00UPWARDS TRIANGLE ARROWHEAD;00RIGHTWARDS TRIANGLE ARROWHEAD",
   "00DOWNWARDS TRIANGLE ARROWHEAD;00LEFTWARDS WHITE ARROW WITHIN TRIANGLE ARROWHEAD",
   "00UPWARDS WHITE ARROW WITHIN TRIANGLE ARROWHEAD",
   "00RIGHTWARDS WHITE ARROW WITHIN TRIANGLE ARROWHEAD",
   "00DOWNWARDS WHITE ARROW WITHIN TRIANGLE ARROWHEAD;00LEFTWARDS ARROW WITH NOTCHED TAIL",
   "00UPWARDS ARROW WITH NOTCHED TAIL;00RIGHTWARDS ARROW WITH NOTCHED TAIL",
   "00DOWNWARDS ARROW WITH NOTCHED TAIL;00HEAVY ARROW SHAFT WIDTH ONE;24TWO THIRDS;24ONE HALF",
   "28THIRD;00LEFTWARDS BOTTOM-SHADED WHITE ARROW;00RIGHTWARDS BOTTOM SHADED WHITE ARROW",
   "00LEFTWARDS TOP SHADED WHITE ARROW;00RIGHTWARDS TOP SHADED WHITE ARROW",
   "00LEFTWARDS LEFT-SHADED WHITE ARROW;00RIGHTWARDS RIGHT-SHADED WHITE ARROW",
   "00LEFTWARDS RIGHT-SHADED WHITE ARROW;00RIGHTWARDS LEFT-SHADED WHITE ARROW",
   "00LEFTWARDS BACK-TILTED SHADOWED WHITE ARROW;00RIGHTWARDS BACK-TILTED SHADOWED WHITE ARROW",
   "00LEFTWARDS FRONT-TILTED SHADOWED WHITE ARROW;00RIGHTWARDS FRONT-TILTED SHADOWED WHITE ARROW",
   "00WHITE ARROW SHAFT WIDTH ONE;24TWO THIRDS;+1f8b0;00ARROW POINTING UPWARDS THEN NORTH WEST",
   "15RIGHTWARDS THEN CURVING SOUTH WEST;+1f900;00CIRCLED CROSS FORMEE WITH FOUR DOTS;26TWO DOTS",
   "20;00LEFT HALF CIRCLE WITH FOUR DOTS;22THREE DOTS;23WO DOTS;22DOT;16;00DOWNWARD FACING HOOK",
   "16NOTCHED HOOK;16HOOK WITH DOT;16NOTCHED HOOK WITH DOT;00PINCHED FINGERS;00WHITE HEART",
   "00BROWN HEART;00PINCHING HAND;00ZIPPER-MOUTH FACE;00MONEY-MOUTH FACE;00FACE WITH THERMOMETER",
   "00NERD FACE;00THINKING FACE;00FACE WITH HEAD-BANDAGE;00ROBOT FACE;00HUGGING FACE",
   "00SIGN OF THE HORNS;00CALL ME HAND;00RAISED BACK OF HAND;00LEFT-FACING FIST",
   "00RIGHT-FACING FIST;00HANDSHAKE;04 WITH INDEX AND MIDDLE FINGERS CROSSED",
   "00I LOVE YOU HAND SIGN;00FACE WITH COWBOY HAT;00CLOWN FACE;00NAUSEATED FACE",
   "00ROLLING ON THE FLOOR LAUGHING;00DROOLING FACE;00LYING FACE;00FACE PALM;00SNEEZING FACE",
   "00FACE WITH ONE EYEBROW RAISED;00GRINNING FACE WITH STAR EYES;19ONE LARGE AND ONE SMALL EYE",
   "00FACE WITH FINGER COVERING CLOSED LIPS;00SERIOUS FACE WITH SYMBOLS COVERING MOUTH",
   "01MILING FACE WITH SMILING EYES AND HAND COVERING MOUTH;00FACE WITH OPEN MOUTH VOMITING",
   "00SHOCKED FACE WITH EXPLODING HEAD;00PREGNANT WOMAN;00BREAST-FEEDING;00PALMS UP TOGETHER",
   "00SELFIE;00PRINCE;00MAN IN TUXEDO;01OTHER CHRISTMAS;00SHRUG;00PERSON DOING CARTWHEEL",
   "00JUGGLING;00FENCER;00MODERN PENTATHLON;00WRESTLERS;01ATER POLO;00HANDBALL;00DIVING MASK",
   "00WILTED FLOWER;00DRUM WITH DRUMSTICKS;00CLINKING GLASSES;00TUMBLER GLASS;00SPOON;00GOAL NET",
   "00RIFLE;00FIRST PLACE MEDAL;00SECOND PLACE MEDAL;00THIRD PLACE MEDAL;00BOXING GLOVE",
   "00MARTIAL ARTS UNIFORM;00CURLING STONE;00LACROSSE STICK AND BALL;00SOFTBALL;00FLYING DISC",
   "00CROISSANT;00AVOCADO;00CUCUMBER;00BACON;00POTATO;00CARROT;00BAGUETTE BREAD;00GREEN SALAD",
   "00SHALLOW PAN OF FOOD;01TUFFED FLATBREAD;00EGG;00GLASS OF MILK;00PEANUTS;00KIWIFRUIT",
   "00PANCAKES;00DUMPLING;00FORTUNE COOKIE;00TAKEOUT BOX;00CHOPSTICKS;00BOWL WITH SPOON",
   "00CUP WITH STRAW;01OCONUT;00BROCCOLI;00PIE;01RETZEL;00CUT OF MEAT;00SANDWICH;00CANNED FOOD",
   "00LEAFY GREEN;00MANGO;01OON CAKE;00BAGEL;00SMILING FACE WITH SMILING EYES AND THREE HEARTS",
   "00YAWNING FACE;00SMILING FACE WITH TEAR;00FACE WITH PARTY HORN AND PARTY HAT",
   "10UNEVEN EYES AND WAVY MOUTH;00OVERHEATED FACE;00FREEZING FACE;00NINJA;00DISGUISED FACE",
   "00FACE HOLDING BACK TEARS;05WITH PLEADING EYES;00SARI;00LAB COAT;00GOGGLES;00HIKING BOOT",
   "00FLAT SHOE;00CRAB;00LION FACE;00SCORPION;00TURKEY;00UNICORN FACE;00EAGLE;00DUCK;00BAT;00SHARK",
   "00OWL;00FOX FACE;00BUTTERFLY;00DEER;00GORILLA;00LIZARD;00RHINOCEROS;00SHRIMP;01QUID",
   "00GIRAFFE FACE;00ZEBRA FACE;00HEDGEHOG;00SAUROPOD;00T-REX;00CRICKET;00KANGAROO;00LLAMA",
   "00PEACOCK;00HIPPOPOTAMUS;00PARROT;00RACCOON;00LOBSTER;00MOSQUITO;01ICROBE;00BADGER;00SWAN",
   "00MAMMOTH;00DODO;00SLOTH;00OTTER;01RANGUTAN;00SKUNK;00FLAMINGO;00OYSTER;00BEAVER;01ISON;00SEAL",
   "00GUIDE DOG;00PROBING CANE;00EMOJI COMPONENT RED HAIR;16CURLY HAIR;16BALD;16WHITE HAIR;00BONE",
   "00LEG;00FOOT;00TOOTH;00SUPERHERO;05VILLAIN;01AFETY VEST;00EAR WITH HEARING AID",
   "00MOTORIZED WHEELCHAIR;01ANUAL WHEELCHAIR;01ECHANICAL ARM;11LEG;00CHEESE WEDGE;01UPCAKE",
   "00SALT SHAKER;00BEVERAGE BOX;00GARLIC;00ONION;00FALAFEL;00WAFFLE;00BUTTER;00MATE DRINK",
   "00ICE CUBE;00BUBBLE TEA;00TROLL;00STANDING PERSON;00KNEELING PERSON;00DEAF PERSON",
   "00FACE WITH MONOCLE;00ADULT;00CHILD;00OLDER ADULT;00BEARDED PERSON;00PERSON WITH HEADSCARF",
   "07IN STEAMY ROOM;07CLIMBING;07IN LOTUS POSITION;00MAGE;00FAIRY;00VAMPIRE;00MERPERSON;00ELF",
   "00GENIE;00ZOMBIE;00BRAIN;00ORANGE HEART;00BILLED CAP;00SCARF;00GLOVES;00COAT;00SOCKS",
   "00RED GIFT ENVELOPE;00FIRECRACKER;00JIGSAW PUZZLE PIECE;00TEST TUBE;00PETRI DISH",
   "00DNA DOUBLE HELIX;00COMPASS;00ABACUS;00FIRE EXTINGUISHER;00TOOLBOX;00BRICK;00MAGNET;00LUGGAGE",
   "01OTION BOTTLE;00SPOOL OF THREAD;00BALL OF YARN;00SAFETY PIN;00TEDDY BEAR;00BROOM;01ASKET",
   "00ROLL OF PAPER;00BAR OF SOAP;00SPONGE;00RECEIPT;00NAZAR AMULET;01EUTRAL CHESS KING;14QUEEN",
   "14ROOK;14BISHOP;14KNIGHT;14PAWN;00WHITE CHESS KNIGHT ROTATED FORTY-FIVE DEGREES",
   "00BLACK CHESS KNIGHT ROTATED FORTY-FIVE DEGREES",
   "00NEUTRAL CHESS KNIGHT ROTATED FORTY-FIVE DEGREES;00WHITE CHESS KING ROTATED NINETY DEGREES",
   "12QUEEN ROTATED NINETY DEGREES;12ROOK ROTATED NINETY DEGREES;12BISHOP ROTATED NINETY DEGREES",
   "12KNIGHT ROTATED NINETY DEGREES;12PAWN ROTATED NINETY DEGREES",
   "00BLACK CHESS KING ROTATED NINETY DEGREES;12QUEEN ROTATED NINETY DEGREES",
   "12ROOK ROTATED NINETY DEGREES;12BISHOP ROTATED NINETY DEGREES;12KNIGHT ROTATED NINETY DEGREES",
   "12PAWN ROTATED NINETY DEGREES;00NEUTRAL CHESS KING ROTATED NINETY DEGREES",
   "14QUEEN ROTATED NINETY DEGREES;14ROOK ROTATED NINETY DEGREES;14BISHOP ROTATED NINETY DEGREES",
   "14KNIGHT ROTATED NINETY DEGREES;14PAWN ROTATED NINETY DEGREES",
   "00WHITE CHESS KNIGHT ROTATED ONE HUNDRED THIRTY-FIVE DEGREES",
   "00BLACK CHESS KNIGHT ROTATED ONE HUNDRED THIRTY-FIVE DEGREES",
   "00NEUTRAL CHESS KNIGHT ROTATED ONE HUNDRED THIRTY-FIVE DEGREES;00WHITE CHESS TURNED KING",
   "19QUEEN;19ROOK;19BISHOP;19KNIGHT;19PAWN;00BLACK CHESS TURNED KING;19QUEEN;19ROOK;19BISHOP",
   "19KNIGHT;19PAWN;00NEUTRAL CHESS TURNED KING;21QUEEN;21ROOK;21BISHOP;21KNIGHT;21PAWN",
   "00WHITE CHESS KNIGHT ROTATED TWO HUNDRED TWENTY-FIVE DEGREES",
   "00BLACK CHESS KNIGHT ROTATED TWO HUNDRED TWENTY-FIVE DEGREES",
   "00NEUTRAL CHESS KNIGHT ROTATED TWO HUNDRED TWENTY-FIVE DEGREES",
   "00WHITE CHESS KING ROTATED TWO HUNDRED SEVENTY DEGREES",
   "12QUEEN ROTATED TWO HUNDRED SEVENTY DEGREES;12ROOK ROTATED TWO HUNDRED SEVENTY DEGREES",
   "12BISHOP ROTATED TWO HUNDRED SEVENTY DEGREES;12KNIGHT ROTATED TWO HUNDRED SEVENTY DEGREES",
   "12PAWN ROTATED TWO HUNDRED SEVENTY DEGREES",
   "00BLACK CHESS KING ROTATED TWO HUNDRED SEVENTY DEGREES",
   "12QUEEN ROTATED TWO HUNDRED SEVENTY DEGREES;12ROOK ROTATED TWO HUNDRED SEVENTY DEGREES",
   "12BISHOP ROTATED TWO HUNDRED SEVENTY DEGREES;12KNIGHT ROTATED TWO HUNDRED SEVENTY DEGREES",
   "12PAWN ROTATED TWO HUNDRED SEVENTY DEGREES",
   "00NEUTRAL CHESS KING ROTATED TWO HUNDRED SEVENTY DEGREES",
   "14QUEEN ROTATED TWO HUNDRED SEVENTY DEGREES;14ROOK ROTATED TWO HUNDRED SEVENTY DEGREES",
   "14BISHOP ROTATED TWO HUNDRED SEVENTY DEGREES;14KNIGHT ROTATED TWO HUNDRED SEVENTY DEGREES",
   "14PAWN ROTATED TWO HUNDRED SEVENTY DEGREES",
   "00WHITE CHESS KNIGHT ROTATED THREE HUNDRED FIFTEEN DEGREES",
   "00BLACK CHESS KNIGHT ROTATED THREE HUNDRED FIFTEEN DEGREES",
   "00NEUTRAL CHESS KNIGHT ROTATED THREE HUNDRED FIFTEEN DEGREES;00WHITE CHESS EQUIHOPPER",
   "00BLACK CHESS EQUIHOPPER;00NEUTRAL CHESS EQUIHOPPER",
   "00WHITE CHESS EQUIHOPPER ROTATED NINETY DEGREES",
   "00BLACK CHESS EQUIHOPPER ROTATED NINETY DEGREES",
   "00NEUTRAL CHESS EQUIHOPPER ROTATED NINETY DEGREES;00WHITE CHESS KNIGHT-QUEEN;19ROOK;19BISHOP",
   "00BLACK CHESS KNIGHT-QUEEN;19ROOK;19BISHOP;+1fa60;00XIANGQI RED GENERAL;12MANDARIN;12ELEPHANT",
   "12HORSE;12CHARIOT;13ANNON;12SOLDIER;08BLACK GENERAL;14MANDARIN;14ELEPHANT;14HORSE;14CHARIOT",
   "15ANNON;14SOLDIER;+1fa70;00BALLET SHOES;00ONE-PIECE SWIMSUIT;00BRIEFS;00SHORTS;00THONG SANDAL",
   "+1fa78;00DROP OF BLOOD;00ADHESIVE BANDAGE;00STETHOSCOPE;00X-RAY;00CRUTCH;+1fa80;00YO-YO;00KITE",
   "00PARACHUTE;00BOOMERANG;00MAGIC WAND;00PINATA;00NESTING DOLLS;+1fa90;00RINGED PLANET;00CHAIR",
   "00RAZOR;00AXE;00DIYA LAMP;00BANJO;00MILITARY HELMET;00ACCORDION;00LONG DRUM;00COIN",
   "01ARPENTRY SAW;00SCREWDRIVER;00LADDER;00HOOK;00MIRROR;00WINDOW;00PLUNGER;00SEWING NEEDLE",
   "00KNOT;00BUCKET;00MOUSE TRAP;00TOOTHBRUSH;00HEADSTONE;00PLACARD;00ROCK;00MIRROR BALL",
   "00IDENTIFICATION CARD;00LOW BATTERY;00HAMSA;+1fab0;00FLY;00WORM;00BEETLE;00COCKROACH",
   "00POTTED PLANT;00WOOD;00FEATHER;00LOTUS;00CORAL;00EMPTY NEST;00NEST WITH EGGS;+1fac0",
   "00ANATOMICAL HEART;00LUNGS;00PEOPLE HUGGING;01REGNANT MAN;09PERSON;01ERSON WITH CROWN;+1fad0",
   "00BLUEBERRIES;01ELL PEPPER;00OLIVE;00FLATBREAD;00TAMALE;00FONDUE;00TEAPOT;00POURING LIQUID",
   "00BEANS;00JAR;+1fae0;00MELTING FACE;00SALUTING FACE;00FACE WITH OPEN EYES AND HAND OVER MOUTH",
   "10PEEKING EYE;10DIAGONAL MOUTH;00DOTTED LINE FACE;00BITING LIP;01UBBLES;+1faf0",
   "00HAND WITH INDEX FINGER AND THUMB CROSSED;00RIGHTWARDS HAND;00LEFTWARDS HAND;00PALM DOWN HAND",
   "05UP HAND;00INDEX POINTING AT THE VIEWER;00HEART HANDS;+1fb00;00BLOCK SEXTANT-1;142;1412;143",
   "1413;1423;14123;144;1414;1424;14124;1434;14134;14234;141234;145;1415;1425;14125;1435;14235",
   "141235;1445;14145;14245;141245;14345;141345;142345;1412345;146;1416;1426;14126;1436;14136",
   "14236;141236;1446;14146;15246;14346;141346;142346;1412346;1456;14156;14256;141256;14356;141356",
   "142356;1412356;14456;141456;142456;1412456;143456;1413456;1423456",
   "00LOWER LEFT BLOCK DIAGONAL LOWER MIDDLE LEFT TO LOWER CENTRE;53RIGHT",
   "26UPPER MIDDLE LEFT TO LOWER CENTRE;53RIGHT;32LEFT TO LOWER CENTRE",
   "06RIGHT BLOCK DIAGONAL UPPER MIDDLE LEFT TO UPPER CENTRE;54RIGHT",
   "27LOWER MIDDLE LEFT TO UPPER CENTRE;54RIGHT;33LEFT TO UPPER CENTRE",
   "33MIDDLE LEFT TO UPPER MIDDLE RIGHT;33CENTRE TO LOWER MIDDLE RIGHT",
   "33LEFT TO LOWER MIDDLE RIGHT;33CENTRE TO UPPER MIDDLE RIGHT;33LEFT TO UPPER MIDDLE RIGHT",
   "33CENTRE TO UPPER RIGHT;06LEFT BLOCK DIAGONAL UPPER CENTRE TO UPPER MIDDLE RIGHT",
   "32LEFT TO UPPER MIDDLE RIGHT;32CENTRE TO LOWER MIDDLE RIGHT;32LEFT TO LOWER MIDDLE RIGHT",
   "32CENTRE TO LOWER RIGHT;32MIDDLE LEFT TO LOWER MIDDLE RIGHT",
   "00UPPER RIGHT BLOCK DIAGONAL LOWER MIDDLE LEFT TO LOWER CENTRE;54RIGHT",
   "27UPPER MIDDLE LEFT TO LOWER CENTRE;54RIGHT;33LEFT TO LOWER CENTRE",
   "06LEFT BLOCK DIAGONAL UPPER MIDDLE LEFT TO UPPER CENTRE;53RIGHT",
   "26LOWER MIDDLE LEFT TO UPPER CENTRE;53RIGHT;32LEFT TO UPPER CENTRE",
   "32MIDDLE LEFT TO UPPER MIDDLE RIGHT;32CENTRE TO LOWER MIDDLE RIGHT",
   "32LEFT TO LOWER MIDDLE RIGHT;32CENTRE TO UPPER MIDDLE RIGHT;32LEFT TO UPPER MIDDLE RIGHT",
   "32CENTRE TO UPPER RIGHT;06RIGHT BLOCK DIAGONAL UPPER CENTRE TO UPPER MIDDLE RIGHT",
   "33LEFT TO UPPER MIDDLE RIGHT;33CENTRE TO LOWER MIDDLE RIGHT;33LEFT TO LOWER MIDDLE RIGHT",
   "33CENTRE TO LOWER RIGHT;33MIDDLE LEFT TO LOWER MIDDLE RIGHT",
   "06AND RIGHT AND LOWER TRIANGULAR THREE QUARTERS BLOCK",
   "00LEFT AND LOWER AND RIGHT TRIANGULAR THREE QUARTERS BLOCK",
   "00UPPER AND LEFT AND LOWER TRIANGULAR THREE QUARTERS BLOCK",
   "00LEFT AND UPPER AND RIGHT TRIANGULAR THREE QUARTERS BLOCK;05TRIANGULAR ONE QUARTER BLOCK",
   "00UPPER TRIANGULAR ONE QUARTER BLOCK;00RIGHT TRIANGULAR ONE QUARTER BLOCK",
   "00LOWER TRIANGULAR ONE QUARTER BLOCK;00VERTICAL ONE EIGHTH BLOCK-2;263;264;265;266;267",
   "00HORIZONTAL ONE EIGHTH BLOCK-2;283;284;285;286;287;00LEFT AND LOWER ONE EIGHTH BLOCK",
   "09UPPER ONE EIGHTH BLOCK;00RIGHT AND UPPER ONE EIGHTH BLOCK;10LOWER ONE EIGHTH BLOCK",
   "00UPPER AND LOWER ONE EIGHTH BLOCK;00HORIZONTAL ONE EIGHTH BLOCK-1358",
   "00UPPER ONE QUARTER BLOCK;06THREE EIGHTHS BLOCK;06FIVE EIGHTHS BLOCK;06THREE QUARTERS BLOCK",
   "06SEVEN EIGHTHS BLOCK;00RIGHT ONE QUARTER BLOCK;06THREE EIGHTHS BLOCK;06FIVE EIGHTHS BLOCK",
   "06THREE QUARTERS BLOCK;06SEVEN EIGHTHS BLOCK;00LEFT HALF MEDIUM SHADE",
   "00RIGHT HALF MEDIUM SHADE;00UPPER HALF MEDIUM SHADE;00LOWER HALF MEDIUM SHADE",
   "00INVERSE MEDIUM SHADE;00UPPER HALF BLOCK AND LOWER HALF INVERSE MEDIUM SHADE",
   "11INVERSE MEDIUM SHADE AND LOWER HALF BLOCK;+1fb94",
   "00LEFT HALF INVERSE MEDIUM SHADE AND RIGHT HALF BLOCK;00CHECKER BOARD FILL",
   "00INVERSE CHECKER BOARD FILL;00HEAVY HORIZONTAL FILL;00UPPER LEFT TO LOWER RIGHT FILL",
   "06RIGHT TO LOWER LEFT FILL;06AND LOWER TRIANGULAR HALF BLOCK",
   "00LEFT AND RIGHT TRIANGULAR HALF BLOCK;00UPPER LEFT TRIANGULAR MEDIUM SHADE",
   "06RIGHT TRIANGULAR MEDIUM SHADE;00LOWER RIGHT TRIANGULAR MEDIUM SHADE",
   "06LEFT TRIANGULAR MEDIUM SHADE;00BOX DRAWINGS LIGHT DIAGONAL UPPER CENTRE TO MIDDLE LEFT",
   "51RIGHT;28MIDDLE LEFT TO LOWER CENTRE;35RIGHT TO LOWER CENTRE",
   "28UPPER CENTRE TO MIDDLE LEFT TO LOWER CENTRE;51RIGHT TO LOWER CENTRE",
   "28MIDDLE LEFT TO LOWER CENTRE TO MIDDLE RIGHT;43UPPER CENTRE TO MIDDLE RIGHT",
   "28UPPER CENTRE TO MIDDLE LEFT AND MIDDLE RIGHT TO LOWER CENTRE",
   "51RIGHT AND MIDDLE LEFT TO LOWER CENTRE;57TO LOWER CENTRE TO MIDDLE LEFT",
   "51LEFT TO LOWER CENTRE TO MIDDLE RIGHT",
   "28MIDDLE LEFT TO UPPER CENTRE TO MIDDLE RIGHT TO LOWER CENTRE",
   "35RIGHT TO UPPER CENTRE TO MIDDLE LEFT TO LOWER CENTRE;28DIAMOND",
   "19HORIZONTAL WITH VERTICAL STROKE;00ARROWHEAD-SHAPED POINTER;00INVERSE CHECK MARK",
   "00LEFT HALF RUNNING MAN;00RIGHT HALF RUNNING MAN;00INVERSE DOWNWARDS ARROW WITH TIP LEFTWARDS",
   "00LEFTWARDS ARROW AND UPPER AND LOWER ONE EIGHTH BLOCK",
   "00RIGHTWARDS ARROW AND UPPER AND LOWER ONE EIGHTH BLOCK",
   "00DOWNWARDS ARROW AND RIGHT ONE EIGHTH BLOCK;00UPWARDS ARROW AND RIGHT ONE EIGHTH BLOCK",
   "00LEFT HALF FOLDER;00RIGHT HALF FOLDER;00VOIDED GREEK CROSS;00RIGHT OPEN SQUARED DOT",
   "00NEGATIVE DIAGONAL CROSS;18MIDDLE RIGHT TO LOWER CENTRE;18DIAMOND",
   "00WHITE HEAVY SALTIRE WITH ROUNDED CORNERS;00LEFT THIRD WHITE RIGHT POINTING INDEX",
   "00MIDDLE THIRD WHITE RIGHT POINTING INDEX;00RIGHT THIRD WHITE RIGHT POINTING INDEX",
   "00NEGATIVE SQUARED QUESTION MARK;00STICK FIGURE;12 WITH ARMS RAISED;13LEANING LEFT;21RIGHT",
   "13WITH DRESS;00WHITE UP-POINTING CHEVRON;+1fbf0;00SEGMENTED DIGIT ZERO;16ONE;16TWO;17HREE",
   "16FOUR;17IVE;16SIX;17EVEN;16EIGHT;16NINE;+2f800;00CJK COMPATIBILITY IDEOGRAPH-2F800;321;322",
   "323;324;325;326;327;328;329;32A;32B;32C;32D;32E;32F;3110;321;322;323;324;325;326;327;328;329",
   "32A;32B;32C;32D;32E;32F;3120;321;322;323;324;325;326;327;328;329;32A;32B;32C;32D;32E;32F;3130",
   "321;322;323;324;325;326;327;328;329;32A;32B;32C;32D;32E;32F;3140;321;322;323;324;325;326;327",
   "328;329;32A;32B;32C;32D;32E;32F;3150;321;322;323;324;325;326;327;328;329;32A;32B;32C;32D;32E",
   "32F;3160;321;322;323;324;325;326;327;328;329;32A;32B;32C;32D;32E;32F;3170;321;322;323;324;325",
   "326;327;328;329;32A;32B;32C;32D;32E;32F;3180;321;322;323;324;325;326;327;328;329;32A;32B;32C",
   "32D;32E;32F;3190;321;322;323;324;325;326;327;328;329;32A;32B;32C;32D;32E;32F;31A0;321;322;323",
   "324;325;326;327;328;329;32A;32B;32C;32D;32E;32F;31B0;321;322;323;324;325;326;327;328;329;32A",
   "32B;32C;32D;32E;32F;31C0;321;322;323;324;325;326;327;328;329;32A;32B;32C;32D;32E;32F;31D0;321",
   "322;323;324;325;326;327;328;329;32A;32B;32C;32D;32E;32F;31E0;321;322;323;324;325;326;327;328",
   "329;32A;32B;32C;32D;32E;32F;31F0;321;322;323;324;325;326;327;328;329;32A;32B;32C;32D;32E;32F",
   "30900;321;322;323;324;325;326;327;328;329;32A;32B;32C;32D;32E;32F;3110;321;322;323;324;325;326",
   "327;328;329;32A;32B;32C;32D;32E;32F;3120;321;322;323;324;325;326;327;328;329;32A;32B;32C;32D",
   "32E;32F;3130;321;322;323;324;325;326;327;328;329;32A;32B;32C;32D;32E;32F;3140;321;322;323;324",
   "325;326;327;328;329;32A;32B;32C;32D;32E;32F;3150;321;322;323;324;325;326;327;328;329;32A;32B",
   "32C;32D;32E;32F;3160;321;322;323;324;325;326;327;328;329;32A;32B;32C;32D;32E;32F;3170;321;322",
   "323;324;325;326;327;328;329;32A;32B;32C;32D;32E;32F;3180;321;322;323;324;325;326;327;328;329",
   "32A;32B;32C;32D;32E;32F;3190;321;322;323;324;325;326;327;328;329;32A;32B;32C;32D;32E;32F;31A0",
   "321;322;323;324;325;326;327;328;329;32A;32B;32C;32D;32E;32F;31B0;321;322;323;324;325;326;327",
   "328;329;32A;32B;32C;32D;32E;32F;31C0;321;322;323;324;325;326;327;328;329;32A;32B;32C;32D;32E",
   "32F;31D0;321;322;323;324;325;326;327;328;329;32A;32B;32C;32D;32E;32F;31E0;321;322;323;324;325",
   "326;327;328;329;32A;32B;32C;32D;32E;32F;31F0;321;322;323;324;325;326;327;328;329;32A;32B;32C",
   "32D;32E;32F;30A00;321;322;323;324;325;326;327;328;329;32A;32B;32C;32D;32E;32F;3110;321;322;323",
   "324;325;326;327;328;329;32A;32B;32C;32D;+e0001;00LANGUAGE TAG;+e0020;00TAG SPACE",
   "04EXCLAMATION MARK;04QUOTATION MARK;04NUMBER SIGN;04DOLLAR SIGN;04PERCENT SIGN;04AMPERSAND",
   "05POSTROPHE;04LEFT PARENTHESIS;04RIGHT PARENTHESIS;04ASTERISK;04PLUS SIGN;04COMMA",
   "04HYPHEN-MINUS;04FULL STOP;04SOLIDUS;04DIGIT ZERO;10ONE;10TWO;11HREE;10FOUR;11IVE;10SIX;11EVEN",
   "10EIGHT;10NINE;04COLON;04SEMICOLON;04LESS-THAN SIGN;04EQUALS SIGN;04GREATER-THAN SIGN",
   "04QUESTION MARK;04COMMERCIAL AT;04LATIN CAPITAL LETTER A;25B;25C;25D;25E;25F;25G;25H;25I;25J",
   "25K;25L;25M;25N;25O;25P;25Q;25R;25S;25T;25U;25V;25W;25X;25Y;25Z;05EFT SQUARE BRACKET",
   "04REVERSE SOLIDUS;05IGHT SQUARE BRACKET;04CIRCUMFLEX ACCENT;04LOW LINE;04GRAVE ACCENT",
   "04LATIN SMALL LETTER A;23B;23C;23D;23E;23F;23G;23H;23I;23J;23K;23L;23M;23N;23O;23P;23Q;23R;23S",
   "23T;23U;23V;23W;23X;23Y;23Z;05EFT CURLY BRACKET;04VERTICAL LINE;04RIGHT CURLY BRACKET;04TILDE",
   "00CANCEL TAG;+e0100;00VARIATION SELECTOR-17;208;209;1920;201;202;203;204;205;206;207;208;209",
   "1930;201;202;203;204;205;206;207;208;209;1940;201;202;203;204;205;206;207;208;209;1950;201;202",
   "203;204;205;206;207;208;209;1960;201;202;203;204;205;206;207;208;209;1970;201;202;203;204;205",
   "206;207;208;209;1980;201;202;203;204;205;206;207;208;209;1990;201;202;203;204;205;206;207;208",
   "209;19100;211;212;213;214;215;216;217;218;219;2010;211;212;213;214;215;216;217;218;219;2020",
   "211;212;213;214;215;216;217;218;219;2030;211;212;213;214;215;216;217;218;219;2040;211;212;213",
   "214;215;216;217;218;219;2050;211;212;213;214;215;216;217;218;219;2060;211;212;213;214;215;216",
   "217;218;219;2070;211;212;213;214;215;216;217;218;219;2080;211;212;213;214;215;216;217;218;219",
   "2090;211;212;213;214;215;216;217;218;219;19200;211;212;213;214;215;216;217;218;219;2010;211",
   "212;213;214;215;216;217;218;219;2020;211;212;213;214;215;216;217;218;219;2030;211;212;213;214",
   "215;216;217;218;219;2040;211;212;213;214;215;216;217;218;219;2050;211;212;213;214;215;216"]

/-- The names of all code points. -/
def characterNames : List String :=
  lowestNames ++ lowNames ++ middleNames ++ highNames ++ higherNames ++ highestNames

/-- The other names of characters, among them those of the control characters, each behind its code
point. -/
def characterAliases : List String :=
  ["0 NULL;0 NUL;1 START OF HEADING;1 SOH;2 START OF TEXT;2 STX;3 END OF TEXT;3 ETX",
   "4 END OF TRANSMISSION;4 EOT;5 ENQUIRY;5 ENQ;6 ACKNOWLEDGE;6 ACK;7 ALERT;7 BEL;8 BACKSPACE;8 BS",
   "9 CHARACTER TABULATION;9 HORIZONTAL TABULATION;9 HT;9 TAB;a LINE FEED;a NEW LINE;a END OF LINE",
   "a LF;a NL;a EOL;b LINE TABULATION;b VERTICAL TABULATION;b VT;c FORM FEED;c FF",
   "d CARRIAGE RETURN;d CR;e SHIFT OUT;e LOCKING-SHIFT ONE;e SO;f SHIFT IN;f LOCKING-SHIFT ZERO",
   "f SI;10 DATA LINK ESCAPE;10 DLE;11 DEVICE CONTROL ONE;11 DC1;12 DEVICE CONTROL TWO;12 DC2",
   "13 DEVICE CONTROL THREE;13 DC3;14 DEVICE CONTROL FOUR;14 DC4;15 NEGATIVE ACKNOWLEDGE;15 NAK",
   "16 SYNCHRONOUS IDLE;16 SYN;17 END OF TRANSMISSION BLOCK;17 ETB;18 CANCEL;18 CAN",
   "19 END OF MEDIUM;19 EOM;1a SUBSTITUTE;1a SUB;1b ESCAPE;1b ESC;1c INFORMATION SEPARATOR FOUR",
   "1c FILE SEPARATOR;1c FS;1d INFORMATION SEPARATOR THREE;1d GROUP SEPARATOR;1d GS",
   "1e INFORMATION SEPARATOR TWO;1e RECORD SEPARATOR;1e RS;1f INFORMATION SEPARATOR ONE",
   "1f UNIT SEPARATOR;1f US;20 SP;7f DELETE;7f DEL;80 PADDING CHARACTER;80 PAD",
   "81 HIGH OCTET PRESET;81 HOP;82 BREAK PERMITTED HERE;82 BPH;83 NO BREAK HERE;83 NBH;84 INDEX",
   "84 IND;85 NEXT LINE;85 NEL;86 START OF SELECTED AREA;86 SSA;87 END OF SELECTED AREA;87 ESA",
   "88 CHARACTER TABULATION SET;88 HORIZONTAL TABULATION SET;88 HTS",
   "89 CHARACTER TABULATION WITH JUSTIFICATION;89 HORIZONTAL TABULATION WITH JUSTIFICATION;89 HTJ",
   "8a LINE TABULATION SET;8a VERTICAL TABULATION SET;8a VTS;8b PARTIAL LINE FORWARD",
   "8b PARTIAL LINE DOWN;8b PLD;8c PARTIAL LINE BACKWARD;8c PARTIAL LINE UP;8c PLU",
   "8d REVERSE LINE FEED;8d REVERSE INDEX;8d RI;8e SINGLE SHIFT TWO;8e SINGLE-SHIFT-2;8e SS2",
   "8f SINGLE SHIFT THREE;8f SINGLE-SHIFT-3;8f SS3;90 DEVICE CONTROL STRING;90 DCS",
   "91 PRIVATE USE ONE;91 PRIVATE USE-1;91 PU1;92 PRIVATE USE TWO;92 PRIVATE USE-2;92 PU2",
   "93 SET TRANSMIT STATE;93 STS;94 CANCEL CHARACTER;94 CCH;95 MESSAGE WAITING;95 MW",
   "96 START OF GUARDED AREA;96 START OF PROTECTED AREA;96 SPA;97 END OF GUARDED AREA",
   "97 END OF PROTECTED AREA;97 EPA;98 START OF STRING;98 SOS",
   "99 SINGLE GRAPHIC CHARACTER INTRODUCER;99 SGC;9a SINGLE CHARACTER INTRODUCER;9a SCI",
   "9b CONTROL SEQUENCE INTRODUCER;9b CSI;9c STRING TERMINATOR;9c ST;9d OPERATING SYSTEM COMMAND",
   "9d OSC;9e PRIVACY MESSAGE;9e PM;9f APPLICATION PROGRAM COMMAND;9f APC;a0 NBSP;ad SHY",
   "1a2 LATIN CAPITAL LETTER GHA;1a3 LATIN SMALL LETTER GHA;34f CGJ;61c ALM",
   "709 SYRIAC SUBLINEAR COLON SKEWED LEFT;cde KANNADA LETTER LLLA;e9d LAO LETTER FO FON",
   "e9f LAO LETTER FO FAY;ea3 LAO LETTER RO;ea5 LAO LETTER LO",
   "fd0 TIBETAN MARK BKA- SHOG GI MGO RGYAN;11ec HANGUL JONGSEONG YESIEUNG-KIYEOK",
   "11ed HANGUL JONGSEONG YESIEUNG-SSANGKIYEOK;11ee HANGUL JONGSEONG SSANGYESIEUNG",
   "11ef HANGUL JONGSEONG YESIEUNG-KHIEUKH;180b FVS1;180c FVS2;180d FVS3;180e MVS;180f FVS4",
   "200b ZWSP;200c ZWNJ;200d ZWJ;200e LRM;200f RLM;202a LRE;202b RLE;202c PDF;202d LRO;202e RLO",
   "202f NNBSP;205f MMSP;2060 WJ;2066 LRI;2067 RLI;2068 FSI;2069 PDI",
   "2118 WEIERSTRASS ELLIPTIC FUNCTION;2448 MICR ON US SYMBOL;2449 MICR DASH SYMBOL",
   "2b7a LEFTWARDS TRIANGLE-HEADED ARROW WITH DOUBLE VERTICAL STROKE",
   "2b7c RIGHTWARDS TRIANGLE-HEADED ARROW WITH DOUBLE VERTICAL STROKE",
   "a015 YI SYLLABLE ITERATION MARK;aa6e MYANMAR LETTER KHAMTI LLA;fe00 VS1;fe01 VS2;fe02 VS3",
   "fe03 VS4;fe04 VS5;fe05 VS6;fe06 VS7;fe07 VS8;fe08 VS9;fe09 VS10;fe0a VS11;fe0b VS12;fe0c VS13",
   "fe0d VS14;fe0e VS15;fe0f VS16",
   "fe18 PRESENTATION FORM FOR VERTICAL RIGHT WHITE LENTICULAR BRACKET;feff BYTE ORDER MARK",
   "feff BOM;feff ZWNBSP;122d4 CUNEIFORM SIGN NU11 TENU",
   "122d5 CUNEIFORM SIGN NU11 OVER NU11 BUR OVER BUR;16e56 MEDEFAIDRIN CAPITAL LETTER H",
   "16e57 MEDEFAIDRIN CAPITAL LETTER NG;16e76 MEDEFAIDRIN SMALL LETTER H",
   "16e77 MEDEFAIDRIN SMALL LETTER NG;1b001 HENTAIGANA LETTER E-1",
   "1d0c5 BYZANTINE MUSICAL SYMBOL FTHORA SKLIRON CHROMA VASIS;e0100 VS17;e0101 VS18;e0102 VS19",
   "e0103 VS20;e0104 VS21;e0105 VS22;e0106 VS23;e0107 VS24;e0108 VS25;e0109 VS26;e010a VS27",
   "e010b VS28;e010c VS29;e010d VS30;e010e VS31;e010f VS32;e0110 VS33;e0111 VS34;e0112 VS35",
   "e0113 VS36;e0114 VS37;e0115 VS38;e0116 VS39;e0117 VS40;e0118 VS41;e0119 VS42;e011a VS43",
   "e011b VS44;e011c VS45;e011d VS46;e011e VS47;e011f VS48;e0120 VS49;e0121 VS50;e0122 VS51",
   "e0123 VS52;e0124 VS53;e0125 VS54;e0126 VS55;e0127 VS56;e0128 VS57;e0129 VS58;e012a VS59",
   "e012b VS60;e012c VS61;e012d VS62;e012e VS63;e012f VS64;e0130 VS65;e0131 VS66;e0132 VS67",
   "e0133 VS68;e0134 VS69;e0135 VS70;e0136 VS71;e0137 VS72;e0138 VS73;e0139 VS74;e013a VS75",
   "e013b VS76;e013c VS77;e013d VS78;e013e VS79;e013f VS80;e0140 VS81;e0141 VS82;e0142 VS83",
   "e0143 VS84;e0144 VS85;e0145 VS86;e0146 VS87;e0147 VS88;e0148 VS89;e0149 VS90;e014a VS91",
   "e014b VS92;e014c VS93;e014d VS94;e014e VS95;e014f VS96;e0150 VS97;e0151 VS98;e0152 VS99",
   "e0153 VS100;e0154 VS101;e0155 VS102;e0156 VS103;e0157 VS104;e0158 VS105;e0159 VS106",
   "e015a VS107;e015b VS108;e015c VS109;e015d VS110;e015e VS111;e015f VS112;e0160 VS113",
   "e0161 VS114;e0162 VS115;e0163 VS116;e0164 VS117;e0165 VS118;e0166 VS119;e0167 VS120",
   "e0168 VS121;e0169 VS122;e016a VS123;e016b VS124;e016c VS125;e016d VS126;e016e VS127",
   "e016f VS128;e0170 VS129;e0171 VS130;e0172 VS131;e0173 VS132;e0174 VS133;e0175 VS134",
   "e0176 VS135;e0177 VS136;e0178 VS137;e0179 VS138;e017a VS139;e017b VS140;e017c VS141",
   "e017d VS142;e017e VS143;e017f VS144;e0180 VS145;e0181 VS146;e0182 VS147;e0183 VS148",
   "e0184 VS149;e0185 VS150;e0186 VS151;e0187 VS152;e0188 VS153;e0189 VS154;e018a VS155",
   "e018b VS156;e018c VS157;e018d VS158;e018e VS159;e018f VS160;e0190 VS161;e0191 VS162",
   "e0192 VS163;e0193 VS164;e0194 VS165;e0195 VS166;e0196 VS167;e0197 VS168;e0198 VS169",
   "e0199 VS170;e019a VS171;e019b VS172;e019c VS173;e019d VS174;e019e VS175;e019f VS176",
   "e01a0 VS177;e01a1 VS178;e01a2 VS179;e01a3 VS180;e01a4 VS181;e01a5 VS182;e01a6 VS183",
   "e01a7 VS184;e01a8 VS185;e01a9 VS186;e01aa VS187;e01ab VS188;e01ac VS189;e01ad VS190",
   "e01ae VS191;e01af VS192;e01b0 VS193;e01b1 VS194;e01b2 VS195;e01b3 VS196;e01b4 VS197",
   "e01b5 VS198;e01b6 VS199;e01b7 VS200;e01b8 VS201;e01b9 VS202;e01ba VS203;e01bb VS204",
   "e01bc VS205;e01bd VS206;e01be VS207;e01bf VS208;e01c0 VS209;e01c1 VS210;e01c2 VS211",
   "e01c3 VS212;e01c4 VS213;e01c5 VS214;e01c6 VS215;e01c7 VS216;e01c8 VS217;e01c9 VS218",
   "e01ca VS219;e01cb VS220;e01cc VS221;e01cd VS222;e01ce VS223;e01cf VS224;e01d0 VS225",
   "e01d1 VS226;e01d2 VS227;e01d3 VS228;e01d4 VS229;e01d5 VS230;e01d6 VS231;e01d7 VS232",
   "e01d8 VS233;e01d9 VS234;e01da VS235;e01db VS236;e01dc VS237;e01dd VS238;e01de VS239",
   "e01df VS240;e01e0 VS241;e01e1 VS242;e01e2 VS243;e01e3 VS244;e01e4 VS245;e01e5 VS246",
   "e01e6 VS247;e01e7 VS248;e01e8 VS249;e01e9 VS250;e01ea VS251;e01eb VS252;e01ec VS253",
   "e01ed VS254;e01ee VS255;e01ef VS256"]

end Hashmark.Text.Table
