/-! Names of characters from U+2000 to U+FFFF. -/
namespace CardPress.Text

/-- Each name behind the code of its character, which is left out if it is one more than the last,
and behind the number of words that it begins with like the name before it. -/
def symbolNames : String :=
  String.join [
    "=2000 0EN QUAD,0EM QUAD,0EN SPACE,0EM SPACE,0THREE-PER-EM SPACE,0FOUR-PER-EM SPACE,0SIX-PER-",
    "EM SPACE,0FIGURE SPACE,0PUNCTUATION SPACE,0THIN SPACE,0HAIR SPACE,0ZERO WIDTH SPACE,=200b 0Z",
    "WSP,0ZERO WIDTH NON-JOINER,=200c 0ZWNJ,0ZERO WIDTH JOINER,=200d 0ZWJ,0LEFT-TO-RIGHT MARK,=20",
    "0e 0LRM,0RIGHT-TO-LEFT MARK,=200f 0RLM,0HYPHEN,0NON-BREAKING HYPHEN,0FIGURE DASH,0EN DASH,0E",
    "M DASH,0HORIZONTAL BAR,0DOUBLE VERTICAL LINE,1LOW LINE,0LEFT SINGLE QUOTATION MARK,0RIGHT SI",
    "NGLE QUOTATION MARK,0SINGLE LOW-9 QUOTATION MARK,1HIGH-REVERSED-9 QUOTATION MARK,0LEFT DOUBL",
    "E QUOTATION MARK,0RIGHT DOUBLE QUOTATION MARK,0DOUBLE LOW-9 QUOTATION MARK,1HIGH-REVERSED-9 ",
    "QUOTATION MARK,0DAGGER,0DOUBLE DAGGER,0BULLET,0TRIANGULAR BULLET,0ONE DOT LEADER,0TWO DOT LE",
    "ADER,0HORIZONTAL ELLIPSIS,0HYPHENATION POINT,0LINE SEPARATOR,0PARAGRAPH SEPARATOR,0LEFT-TO-R",
    "IGHT EMBEDDING,=202a 0LRE,0RIGHT-TO-LEFT EMBEDDING,=202b 0RLE,0POP DIRECTIONAL FORMATTING,=2",
    "02c 0PDF,0LEFT-TO-RIGHT OVERRIDE,=202d 0LRO,0RIGHT-TO-LEFT OVERRIDE,=202e 0RLO,0NARROW NO-BR",
    "EAK SPACE,=202f 0NNBSP,0PER MILLE SIGN,1TEN THOUSAND SIGN,0PRIME,0DOUBLE PRIME,0TRIPLE PRIME",
    ",0REVERSED PRIME,1DOUBLE PRIME,1TRIPLE PRIME,0CARET,0SINGLE LEFT-POINTING ANGLE QUOTATION MA",
    "RK,1RIGHT-POINTING ANGLE QUOTATION MARK,0REFERENCE MARK,0DOUBLE EXCLAMATION MARK,0INTERROBAN",
    "G,0OVERLINE,0UNDERTIE,0CHARACTER TIE,0CARET INSERTION POINT,0ASTERISM,0HYPHEN BULLET,0FRACTI",
    "ON SLASH,0LEFT SQUARE BRACKET WITH QUILL,0RIGHT SQUARE BRACKET WITH QUILL,0DOUBLE QUESTION M",
    "ARK,0QUESTION EXCLAMATION MARK,0EXCLAMATION QUESTION MARK,0TIRONIAN SIGN ET,0REVERSED PILCRO",
    "W SIGN,0BLACK LEFTWARDS BULLET,1RIGHTWARDS BULLET,0LOW ASTERISK,0REVERSED SEMICOLON,0CLOSE U",
    "P,0TWO ASTERISKS ALIGNED VERTICALLY,0COMMERCIAL MINUS SIGN,0SWUNG DASH,0INVERTED UNDERTIE,0F",
    "LOWER PUNCTUATION MARK,0THREE DOT PUNCTUATION,0QUADRUPLE PRIME,0FOUR DOT PUNCTUATION,0FIVE D",
    "OT PUNCTUATION,0TWO DOT PUNCTUATION,0FOUR DOT MARK,0DOTTED CROSS,0TRICOLON,0VERTICAL FOUR DO",
    "TS,0MEDIUM MATHEMATICAL SPACE,=205f 0MMSP,0WORD JOINER,=2060 0WJ,0FUNCTION APPLICATION,0INVI",
    "SIBLE TIMES,1SEPARATOR,1PLUS,=2066 0LEFT-TO-RIGHT ISOLATE,=2066 0LRI,0RIGHT-TO-LEFT ISOLATE,",
    "=2067 0RLI,0FIRST STRONG ISOLATE,=2068 0FSI,0POP DIRECTIONAL ISOLATE,=2069 0PDI,0INHIBIT SYM",
    "METRIC SWAPPING,0ACTIVATE SYMMETRIC SWAPPING,0INHIBIT ARABIC FORM SHAPING,0ACTIVATE ARABIC F",
    "ORM SHAPING,0NATIONAL DIGIT SHAPES,0NOMINAL DIGIT SHAPES,0SUPERSCRIPT ZERO,1LATIN SMALL LETT",
    "ER I,=2074 1FOUR,1FIVE,1SIX,1SEVEN,1EIGHT,1NINE,1PLUS SIGN,1MINUS,1EQUALS SIGN,1LEFT PARENTH",
    "ESIS,1RIGHT PARENTHESIS,1LATIN SMALL LETTER N,0SUBSCRIPT ZERO,1ONE,1TWO,1THREE,1FOUR,1FIVE,1",
    "SIX,1SEVEN,1EIGHT,1NINE,1PLUS SIGN,1MINUS,1EQUALS SIGN,1LEFT PARENTHESIS,1RIGHT PARENTHESIS,",
    "=2090 0LATIN SUBSCRIPT SMALL LETTER A,4E,4O,4X,4SCHWA,4H,4K,4L,4M,4N,4P,4S,4T,=20a0 0EURO-CU",
    "RRENCY SIGN,0COLON SIGN,0CRUZEIRO SIGN,0FRENCH FRANC SIGN,0LIRA SIGN,0MILL SIGN,0NAIRA SIGN,",
    "0PESETA SIGN,0RUPEE SIGN,0WON SIGN,0NEW SHEQEL SIGN,0DONG SIGN,0EURO SIGN,0KIP SIGN,0TUGRIK ",
    "SIGN,0DRACHMA SIGN,0GERMAN PENNY SIGN,0PESO SIGN,0GUARANI SIGN,0AUSTRAL SIGN,0HRYVNIA SIGN,0",
    "CEDI SIGN,0LIVRE TOURNOIS SIGN,0SPESMILO SIGN,0TENGE SIGN,0INDIAN RUPEE SIGN,0TURKISH LIRA S",
    "IGN,0NORDIC MARK SIGN,0MANAT SIGN,0RUBLE SIGN,0LARI SIGN,0BITCOIN SIGN,0SOM SIGN,=20d0 0COMB",
    "INING LEFT HARPOON ABOVE,1RIGHT HARPOON ABOVE,1LONG VERTICAL LINE OVERLAY,1SHORT VERTICAL LI",
    "NE OVERLAY,1ANTICLOCKWISE ARROW ABOVE,1CLOCKWISE ARROW ABOVE,1LEFT ARROW ABOVE,1RIGHT ARROW ",
    "ABOVE,1RING OVERLAY,1CLOCKWISE RING OVERLAY,1ANTICLOCKWISE RING OVERLAY,1THREE DOTS ABOVE,1F",
    "OUR DOTS ABOVE,1ENCLOSING CIRCLE,2SQUARE,2DIAMOND,2CIRCLE BACKSLASH,1LEFT RIGHT ARROW ABOVE,",
    "1ENCLOSING SCREEN,2KEYCAP,2UPWARD POINTING TRIANGLE,1REVERSE SOLIDUS OVERLAY,1DOUBLE VERTICA",
    "L STROKE OVERLAY,1ANNUITY SYMBOL,1TRIPLE UNDERDOT,1WIDE BRIDGE ABOVE,1LEFTWARDS ARROW OVERLA",
    "Y,1LONG DOUBLE SOLIDUS OVERLAY,1RIGHTWARDS HARPOON WITH BARB DOWNWARDS,1LEFTWARDS HARPOON WI",
    "TH BARB DOWNWARDS,1LEFT ARROW BELOW,1RIGHT ARROW BELOW,1ASTERISK ABOVE,=2100 0ACCOUNT OF,0AD",
    "DRESSED TO THE SUBJECT,0DOUBLE-STRUCK CAPITAL C,0DEGREE CELSIUS,0CENTRE LINE SYMBOL,0CARE OF",
    ",0CADA UNA,0EULER CONSTANT,0SCRUPLE,0DEGREE FAHRENHEIT,0SCRIPT SMALL G,1CAPITAL H,0BLACK-LET",
    "TER CAPITAL H,0DOUBLE-STRUCK CAPITAL H,0PLANCK CONSTANT,2OVER TWO PI,0SCRIPT CAPITAL I,0BLAC",
    "K-LETTER CAPITAL I,0SCRIPT CAPITAL L,1SMALL L,0L B BAR SYMBOL,0DOUBLE-STRUCK CAPITAL N,0NUME",
    "RO SIGN,0SOUND RECORDING COPYRIGHT,0SCRIPT CAPITAL P,=2118 0WEIERSTRASS ELLIPTIC FUNCTION,0D",
    "OUBLE-STRUCK CAPITAL P,2Q,0SCRIPT CAPITAL R,0BLACK-LETTER CAPITAL R,0DOUBLE-STRUCK CAPITAL R",
    ",0PRESCRIPTION TAKE,0RESPONSE,0SERVICE MARK,0TELEPHONE SIGN,0TRADE MARK SIGN,0VERSICLE,0DOUB",
    "LE-STRUCK CAPITAL Z,0OUNCE SIGN,0OHM SIGN,0INVERTED OHM SIGN,0BLACK-LETTER CAPITAL Z,0TURNE",
    "D GREEK SMALL LETTER IOTA,0KELVIN SIGN,0ANGSTROM SIGN,0SCRIPT CAPITAL B,0BLACK-LETTER CAPITA",
    "L C,0ESTIMATED SYMBOL,0SCRIPT SMALL E,1CAPITAL E,2F,0TURNED CAPITAL F,0SCRIPT CAPITAL M,1SMA",
    "LL O,0ALEF SYMBOL,0BET SYMBOL,0GIMEL SYMBOL,0DALET SYMBOL,0INFORMATION SOURCE,0ROTATED CAPIT",
    "AL Q,0FACSIMILE SIGN,0DOUBLE-STRUCK SMALL PI,2GAMMA,1CAPITAL GAMMA,2PI,1N-ARY SUMMATION,0TUR",
    "NED SANS-SERIF CAPITAL G,3L,0REVERSED SANS-SERIF CAPITAL L,0TURNED SANS-SERIF CAPITAL Y,0DOU",
    "BLE-STRUCK ITALIC CAPITAL D,2SMALL D,3E,3I,3J,0PROPERTY LINE,0TURNED AMPERSAND,0PER SIGN,0AK",
    "TIESELSKAB,0TURNED SMALL F,0SYMBOL FOR SAMARITAN SOURCE,0VULGAR FRACTION ONE SEVENTH,3NINTH,",
    "3TENTH,3THIRD,2TWO THIRDS,2ONE FIFTH,2TWO FIFTHS,2THREE FIFTHS,2FOUR FIFTHS,2ONE SIXTH,2FIV",
    "E SIXTHS,2ONE EIGHTH,2THREE EIGHTHS,2FIVE EIGHTHS,2SEVEN EIGHTHS,0FRACTION NUMERATOR ONE,0RO",
    "MAN NUMERAL ONE,2TWO,2THREE,2FOUR,2FIVE,2SIX,2SEVEN,2EIGHT,2NINE,2TEN,2ELEVEN,2TWELVE,2FIFTY",
    ",2ONE HUNDRED,2FIVE HUNDRED,2ONE THOUSAND,0SMALL ROMAN NUMERAL ONE,3TWO,3THREE,3FOUR,3FIVE,3",
    "SIX,3SEVEN,3EIGHT,3NINE,3TEN,3ELEVEN,3TWELVE,3FIFTY,3ONE HUNDRED,3FIVE HUNDRED,3ONE THOUSAND",
    ",0ROMAN NUMERAL ONE THOUSAND C D,2FIVE THOUSAND,2TEN THOUSAND,2REVERSED ONE HUNDRED,0LATIN S",
    "MALL LETTER REVERSED C,0ROMAN NUMERAL SIX LATE FORM,2FIFTY EARLY FORM,3THOUSAND,2ONE HUNDRE",
    "D THOUSAND,0VULGAR FRACTION ZERO THIRDS,0TURNED DIGIT TWO,2THREE,=2190 0LEFTWARDS ARROW,0UPW",
    "ARDS ARROW,0RIGHTWARDS ARROW,0DOWNWARDS ARROW,0LEFT RIGHT ARROW,0UP DOWN ARROW,0NORTH WEST A",
    "RROW,1EAST ARROW,0SOUTH EAST ARROW,1WEST ARROW,0LEFTWARDS ARROW WITH STROKE,0RIGHTWARDS ARRO",
    "W WITH STROKE,0LEFTWARDS WAVE ARROW,0RIGHTWARDS WAVE ARROW,0LEFTWARDS TWO HEADED ARROW,0UPWA",
    "RDS TWO HEADED ARROW,0RIGHTWARDS TWO HEADED ARROW,0DOWNWARDS TWO HEADED ARROW,0LEFTWARDS ARR",
    "OW WITH TAIL,0RIGHTWARDS ARROW WITH TAIL,0LEFTWARDS ARROW FROM BAR,0UPWARDS ARROW FROM BAR,0",
    "RIGHTWARDS ARROW FROM BAR,0DOWNWARDS ARROW FROM BAR,0UP DOWN ARROW WITH BASE,0LEFTWARDS ARRO",
    "W WITH HOOK,0RIGHTWARDS ARROW WITH HOOK,0LEFTWARDS ARROW WITH LOOP,0RIGHTWARDS ARROW WITH LO",
    "OP,0LEFT RIGHT WAVE ARROW,2ARROW WITH STROKE,0DOWNWARDS ZIGZAG ARROW,0UPWARDS ARROW WITH TI",
    "P LEFTWARDS,4RIGHTWARDS,0DOWNWARDS ARROW WITH TIP LEFTWARDS,4RIGHTWARDS,0RIGHTWARDS ARROW WI",
    "TH CORNER DOWNWARDS,0DOWNWARDS ARROW WITH CORNER LEFTWARDS,0ANTICLOCKWISE TOP SEMICIRCLE ARR",
    "OW,0CLOCKWISE TOP SEMICIRCLE ARROW,0NORTH WEST ARROW TO LONG BAR,0LEFTWARDS ARROW TO BAR OVE",
    "R RIGHTWARDS ARROW TO BAR,0ANTICLOCKWISE OPEN CIRCLE ARROW,0CLOCKWISE OPEN CIRCLE ARROW,0LEF",
    "TWARDS HARPOON WITH BARB UPWARDS,4DOWNWARDS,0UPWARDS HARPOON WITH BARB RIGHTWARDS,4LEFTWARDS",
    ",0RIGHTWARDS HARPOON WITH BARB UPWARDS,4DOWNWARDS,0DOWNWARDS HARPOON WITH BARB RIGHTWARDS,4L",
    "EFTWARDS,0RIGHTWARDS ARROW OVER LEFTWARDS ARROW,0UPWARDS ARROW LEFTWARDS OF DOWNWARDS ARROW,",
    "0LEFTWARDS ARROW OVER RIGHTWARDS ARROW,1PAIRED ARROWS,0UPWARDS PAIRED ARROWS,0RIGHTWARDS PAI",
    "RED ARROWS,0DOWNWARDS PAIRED ARROWS,0LEFTWARDS HARPOON OVER RIGHTWARDS HARPOON,0RIGHTWARDS H",
    "ARPOON OVER LEFTWARDS HARPOON,0LEFTWARDS DOUBLE ARROW WITH STROKE,0LEFT RIGHT DOUBLE ARROW W",
    "ITH STROKE,0RIGHTWARDS DOUBLE ARROW WITH STROKE,0LEFTWARDS DOUBLE ARROW,0UPWARDS DOUBLE ARRO",
    "W,0RIGHTWARDS DOUBLE ARROW,0DOWNWARDS DOUBLE ARROW,0LEFT RIGHT DOUBLE ARROW,0UP DOWN DOUBLE ",
    "ARROW,0NORTH WEST DOUBLE ARROW,1EAST DOUBLE ARROW,0SOUTH EAST DOUBLE ARROW,1WEST DOUBLE ARRO",
    "W,0LEFTWARDS TRIPLE ARROW,0RIGHTWARDS TRIPLE ARROW,0LEFTWARDS SQUIGGLE ARROW,0RIGHTWARDS SQU",
    "IGGLE ARROW,0UPWARDS ARROW WITH DOUBLE STROKE,0DOWNWARDS ARROW WITH DOUBLE STROKE,0LEFTWARD",
    "S DASHED ARROW,0UPWARDS DASHED ARROW,0RIGHTWARDS DASHED ARROW,0DOWNWARDS DASHED ARROW,0LEFTW",
    "ARDS ARROW TO BAR,0RIGHTWARDS ARROW TO BAR,0LEFTWARDS WHITE ARROW,0UPWARDS WHITE ARROW,0RIGH",
    "TWARDS WHITE ARROW,0DOWNWARDS WHITE ARROW,0UPWARDS WHITE ARROW FROM BAR,3ON PEDESTAL,5WITH H",
    "ORIZONTAL BAR,6VERTICAL BAR,2DOUBLE ARROW,4ON PEDESTAL,0RIGHTWARDS WHITE ARROW FROM WALL,0NO",
    "RTH WEST ARROW TO CORNER,0SOUTH EAST ARROW TO CORNER,0UP DOWN WHITE ARROW,0RIGHT ARROW WITH ",
    "SMALL CIRCLE,0DOWNWARDS ARROW LEFTWARDS OF UPWARDS ARROW,0THREE RIGHTWARDS ARROWS,0LEFTWARD",
    "S ARROW WITH VERTICAL STROKE,0RIGHTWARDS ARROW WITH VERTICAL STROKE,0LEFT RIGHT ARROW WITH V",
    "ERTICAL STROKE,0LEFTWARDS ARROW WITH DOUBLE VERTICAL STROKE,0RIGHTWARDS ARROW WITH DOUBLE VE",
    "RTICAL STROKE,0LEFT RIGHT ARROW WITH DOUBLE VERTICAL STROKE,0LEFTWARDS OPEN-HEADED ARROW,0RI",
    "GHTWARDS OPEN-HEADED ARROW,0LEFT RIGHT OPEN-HEADED ARROW,0FOR ALL,0COMPLEMENT,0PARTIAL DIFFE",
    "RENTIAL,0THERE EXISTS,1DOES NOT EXIST,0EMPTY SET,0INCREMENT,0NABLA,0ELEMENT OF,0NOT AN ELEME",
    "NT OF,0SMALL ELEMENT OF,0CONTAINS AS MEMBER,0DOES NOT CONTAIN AS MEMBER,0SMALL CONTAINS AS M",
    "EMBER,0END OF PROOF,0N-ARY PRODUCT,1COPRODUCT,1SUMMATION,0MINUS SIGN,0MINUS-OR-PLUS SIGN,0DO",
    "T PLUS,0DIVISION SLASH,0SET MINUS,0ASTERISK OPERATOR,0RING OPERATOR,0BULLET OPERATOR,0SQUAR",
    "E ROOT,0CUBE ROOT,0FOURTH ROOT,0PROPORTIONAL TO,0INFINITY,0RIGHT ANGLE,0ANGLE,0MEASURED ANGL",
    "E,0SPHERICAL ANGLE,0DIVIDES,0DOES NOT DIVIDE,0PARALLEL TO,0NOT PARALLEL TO,0LOGICAL AND,1OR,",
    "0INTERSECTION,0UNION,0INTEGRAL,0DOUBLE INTEGRAL,0TRIPLE INTEGRAL,0CONTOUR INTEGRAL,0SURFACE ",
    "INTEGRAL,0VOLUME INTEGRAL,0CLOCKWISE INTEGRAL,1CONTOUR INTEGRAL,0ANTICLOCKWISE CONTOUR INTEG",
    "RAL,0THEREFORE,0BECAUSE,0RATIO,0PROPORTION,0DOT MINUS,0EXCESS,0GEOMETRIC PROPORTION,0HOMOTHE",
    "TIC,0TILDE OPERATOR,0REVERSED TILDE,0INVERTED LAZY S,0SINE WAVE,0WREATH PRODUCT,0NOT TILDE,0",
    "MINUS TILDE,0ASYMPTOTICALLY EQUAL TO,0NOT ASYMPTOTICALLY EQUAL TO,0APPROXIMATELY EQUAL TO,1B",
    "UT NOT ACTUALLY EQUAL TO,0NEITHER APPROXIMATELY NOR ACTUALLY EQUAL TO,0ALMOST EQUAL TO,0NOT ",
    "ALMOST EQUAL TO,0ALMOST EQUAL OR EQUAL TO,0TRIPLE TILDE,0ALL EQUAL TO,0EQUIVALENT TO,0GEOMET",
    "RICALLY EQUIVALENT TO,0DIFFERENCE BETWEEN,0APPROACHES THE LIMIT,0GEOMETRICALLY EQUAL TO,0APP",
    "ROXIMATELY EQUAL TO OR THE IMAGE OF,0IMAGE OF OR APPROXIMATELY EQUAL TO,0COLON EQUALS,0EQUAL",
    "S COLON,0RING IN EQUAL TO,1EQUAL TO,0CORRESPONDS TO,0ESTIMATES,0EQUIANGULAR TO,0STAR EQUALS,",
    "0DELTA EQUAL TO,0EQUAL TO BY DEFINITION,0MEASURED BY,0QUESTIONED EQUAL TO,0NOT EQUAL TO,0IDE",
    "NTICAL TO,0NOT IDENTICAL TO,0STRICTLY EQUIVALENT TO,0LESS-THAN OR EQUAL TO,0GREATER-THAN OR ",
    "EQUAL TO,0LESS-THAN OVER EQUAL TO,0GREATER-THAN OVER EQUAL TO,0LESS-THAN BUT NOT EQUAL TO,0G",
    "REATER-THAN BUT NOT EQUAL TO,0MUCH LESS-THAN,1GREATER-THAN,0BETWEEN,0NOT EQUIVALENT TO,1LESS",
    "-THAN,1GREATER-THAN,0NEITHER LESS-THAN NOR EQUAL TO,1GREATER-THAN NOR EQUAL TO,0LESS-THAN O",
    "R EQUIVALENT TO,0GREATER-THAN OR EQUIVALENT TO,0NEITHER LESS-THAN NOR EQUIVALENT TO,1GREATER",
    "-THAN NOR EQUIVALENT TO,0LESS-THAN OR GREATER-THAN,0GREATER-THAN OR LESS-THAN,0NEITHER LESS-",
    "THAN NOR GREATER-THAN,1GREATER-THAN NOR LESS-THAN,0PRECEDES,0SUCCEEDS,0PRECEDES OR EQUAL TO,",
    "0SUCCEEDS OR EQUAL TO,0PRECEDES OR EQUIVALENT TO,0SUCCEEDS OR EQUIVALENT TO,0DOES NOT PRECED",
    "E,2SUCCEED,0SUBSET OF,0SUPERSET OF,0NOT A SUBSET OF,2SUPERSET OF,0SUBSET OF OR EQUAL TO,0SUP",
    "ERSET OF OR EQUAL TO,0NEITHER A SUBSET OF NOR EQUAL TO,2SUPERSET OF NOR EQUAL TO,0SUBSET OF ",
    "WITH NOT EQUAL TO,0SUPERSET OF WITH NOT EQUAL TO,0MULTISET,1MULTIPLICATION,1UNION,0SQUARE IM",
    "AGE OF,1ORIGINAL OF,1IMAGE OF OR EQUAL TO,1ORIGINAL OF OR EQUAL TO,1CAP,1CUP,0CIRCLED PLUS,1",
    "MINUS,1TIMES,1DIVISION SLASH,1DOT OPERATOR,1RING OPERATOR,1ASTERISK OPERATOR,1EQUALS,1DASH,0",
    "SQUARED PLUS,1MINUS,1TIMES,1DOT OPERATOR,0RIGHT TACK,0LEFT TACK,0DOWN TACK,0UP TACK,0ASSERTI",
    "ON,0MODELS,0TRUE,0FORCES,0TRIPLE VERTICAL BAR RIGHT TURNSTILE,0DOUBLE VERTICAL BAR DOUBLE RI",
    "GHT TURNSTILE,0DOES NOT PROVE,0NOT TRUE,0DOES NOT FORCE,0NEGATED DOUBLE VERTICAL BAR DOUBLE ",
    "RIGHT TURNSTILE,0PRECEDES UNDER RELATION,0SUCCEEDS UNDER RELATION,0NORMAL SUBGROUP OF,0CONTA",
    "INS AS NORMAL SUBGROUP,0NORMAL SUBGROUP OF OR EQUAL TO,0CONTAINS AS NORMAL SUBGROUP OR EQUA",
    "L TO,0ORIGINAL OF,0IMAGE OF,0MULTIMAP,0HERMITIAN CONJUGATE MATRIX,0INTERCALATE,0XOR,0NAND,0N",
    "OR,0RIGHT ANGLE WITH ARC,1TRIANGLE,0N-ARY LOGICAL AND,2OR,1INTERSECTION,1UNION,0DIAMOND OPER",
    "ATOR,0DOT OPERATOR,0STAR OPERATOR,0DIVISION TIMES,0BOWTIE,0LEFT NORMAL FACTOR SEMIDIRECT PRO",
    "DUCT,0RIGHT NORMAL FACTOR SEMIDIRECT PRODUCT,0LEFT SEMIDIRECT PRODUCT,0RIGHT SEMIDIRECT PROD",
    "UCT,0REVERSED TILDE EQUALS,0CURLY LOGICAL OR,2AND,0DOUBLE SUBSET,1SUPERSET,1INTERSECTION,1UN",
    "ION,0PITCHFORK,0EQUAL AND PARALLEL TO,0LESS-THAN WITH DOT,0GREATER-THAN WITH DOT,0VERY MUCH ",
    "LESS-THAN,2GREATER-THAN,0LESS-THAN EQUAL TO OR GREATER-THAN,0GREATER-THAN EQUAL TO OR LESS-T",
    "HAN,0EQUAL TO OR LESS-THAN,3GREATER-THAN,3PRECEDES,3SUCCEEDS,0DOES NOT PRECEDE OR EQUAL,2SUC",
    "CEED OR EQUAL,0NOT SQUARE IMAGE OF OR EQUAL TO,2ORIGINAL OF OR EQUAL TO,0SQUARE IMAGE OF OR ",
    "NOT EQUAL TO,1ORIGINAL OF OR NOT EQUAL TO,0LESS-THAN BUT NOT EQUIVALENT TO,0GREATER-THAN BU",
    "T NOT EQUIVALENT TO,0PRECEDES BUT NOT EQUIVALENT TO,0SUCCEEDS BUT NOT EQUIVALENT TO,0NOT NOR",
    "MAL SUBGROUP OF,0DOES NOT CONTAIN AS NORMAL SUBGROUP,0NOT NORMAL SUBGROUP OF OR EQUAL TO,0DO",
    "ES NOT CONTAIN AS NORMAL SUBGROUP OR EQUAL,0VERTICAL ELLIPSIS,0MIDLINE HORIZONTAL ELLIPSIS,0",
    "UP RIGHT DIAGONAL ELLIPSIS,0DOWN RIGHT DIAGONAL ELLIPSIS,0ELEMENT OF WITH LONG HORIZONTAL ST",
    "ROKE,3VERTICAL BAR AT END OF HORIZONTAL STROKE,0SMALL ELEMENT OF WITH VERTICAL BAR AT END O",
    "F HORIZONTAL STROKE,0ELEMENT OF WITH DOT ABOVE,3OVERBAR,0SMALL ELEMENT OF WITH OVERBAR,0ELEM",
    "ENT OF WITH UNDERBAR,3TWO HORIZONTAL STROKES,0CONTAINS WITH LONG HORIZONTAL STROKE,2VERTICA",
    "L BAR AT END OF HORIZONTAL STROKE,0SMALL CONTAINS WITH VERTICAL BAR AT END OF HORIZONTAL STR",
    "OKE,0CONTAINS WITH OVERBAR,0SMALL CONTAINS WITH OVERBAR,0Z NOTATION BAG MEMBERSHIP,0DIAMETE",
    "R SIGN,0ELECTRIC ARROW,0HOUSE,0UP ARROWHEAD,0DOWN ARROWHEAD,0PROJECTIVE,0PERSPECTIVE,0WAVY L",
    "INE,0LEFT CEILING,0RIGHT CEILING,0LEFT FLOOR,0RIGHT FLOOR,0BOTTOM RIGHT CROP,1LEFT CROP,0TO",
    "P RIGHT CROP,1LEFT CROP,0REVERSED NOT SIGN,0SQUARE LOZENGE,0ARC,0SEGMENT,0SECTOR,0TELEPHONE ",
    "RECORDER,0POSITION INDICATOR,0VIEWDATA SQUARE,0PLACE OF INTEREST SIGN,0TURNED NOT SIGN,0WATC",
    "H,0HOURGLASS,0TOP LEFT CORNER,1RIGHT CORNER,0BOTTOM LEFT CORNER,1RIGHT CORNER,0TOP HALF INTE",
    "GRAL,0BOTTOM HALF INTEGRAL,0FROWN,0SMILE,0UP ARROWHEAD BETWEEN TWO HORIZONTAL BARS,0OPTION K",
    "EY,0ERASE TO THE RIGHT,0X IN A RECTANGLE BOX,0KEYBOARD,0LEFT-POINTING ANGLE BRACKET,0RIGHT-P",
    "OINTING ANGLE BRACKET,0ERASE TO THE LEFT,0BENZENE RING,0CYLINDRICITY,0ALL AROUND-PROFILE,0SY",
    "MMETRY,0TOTAL RUNOUT,0DIMENSION ORIGIN,0CONICAL TAPER,0SLOPE,0COUNTERBORE,0COUNTERSINK,0APL ",
    "FUNCTIONAL SYMBOL I-BEAM,3SQUISH QUAD,3QUAD EQUAL,4DIVIDE,4DIAMOND,4JOT,4CIRCLE,3CIRCLE STIL",
    "E,4JOT,3SLASH BAR,3BACKSLASH BAR,3QUAD SLASH,4BACKSLASH,4LESS-THAN,4GREATER-THAN,3LEFTWARDS ",
    "VANE,3RIGHTWARDS VANE,3QUAD LEFTWARDS ARROW,4RIGHTWARDS ARROW,3CIRCLE BACKSLASH,3DOWN TACK U",
    "NDERBAR,3DELTA STILE,3QUAD DOWN CARET,4DELTA,3DOWN TACK JOT,3UPWARDS VANE,3QUAD UPWARDS ARRO",
    "W,3UP TACK OVERBAR,3DEL STILE,3QUAD UP CARET,4DEL,3UP TACK JOT,3DOWNWARDS VANE,3QUAD DOWNWAR",
    "DS ARROW,3QUOTE UNDERBAR,3DELTA UNDERBAR,3DIAMOND UNDERBAR,3JOT UNDERBAR,3CIRCLE UNDERBAR,3U",
    "P SHOE JOT,3QUOTE QUAD,3CIRCLE STAR,3QUAD COLON,3UP TACK DIAERESIS,3DEL DIAERESIS,3STAR DIAE",
    "RESIS,3JOT DIAERESIS,3CIRCLE DIAERESIS,3DOWN SHOE STILE,3LEFT SHOE STILE,3TILDE DIAERESIS,3G",
    "REATER-THAN DIAERESIS,3COMMA BAR,3DEL TILDE,3ZILDE,3STILE TILDE,3SEMICOLON UNDERBAR,3QUAD NO",
    "T EQUAL,4QUESTION,3DOWN CARET TILDE,3UP CARET TILDE,3IOTA,3RHO,3OMEGA,3ALPHA UNDERBAR,3EPSIL",
    "ON UNDERBAR,3IOTA UNDERBAR,3OMEGA UNDERBAR,3ALPHA,0NOT CHECK MARK,0RIGHT ANGLE WITH DOWNWARD",
    "S ZIGZAG ARROW,0SHOULDERED OPEN BOX,0BELL SYMBOL,0VERTICAL LINE WITH MIDDLE DOT,0INSERTION S",
    "YMBOL,0CONTINUOUS UNDERLINE SYMBOL,0DISCONTINUOUS UNDERLINE SYMBOL,0EMPHASIS SYMBOL,0COMPOSI",
    "TION SYMBOL,0WHITE SQUARE WITH CENTRE VERTICAL LINE,0ENTER SYMBOL,0ALTERNATIVE KEY SYMBOL,0H",
    "ELM SYMBOL,0CIRCLED HORIZONTAL BAR WITH NOTCH,1TRIANGLE DOWN,0BROKEN CIRCLE WITH NORTHWEST A",
    "RROW,0UNDO SYMBOL,0MONOSTABLE SYMBOL,0HYSTERESIS SYMBOL,0OPEN-CIRCUIT-OUTPUT H-TYPE SYMBOL,1",
    "L-TYPE SYMBOL,0PASSIVE-PULL-DOWN-OUTPUT SYMBOL,0PASSIVE-PULL-UP-OUTPUT SYMBOL,0DIRECT CURREN",
    "T SYMBOL FORM TWO,0SOFTWARE-FUNCTION SYMBOL,0APL FUNCTIONAL SYMBOL QUAD,0DECIMAL SEPARATOR K",
    "EY SYMBOL,0PREVIOUS PAGE,0NEXT PAGE,0PRINT SCREEN SYMBOL,0CLEAR SCREEN SYMBOL,0LEFT PARENTHE",
    "SIS UPPER HOOK,2EXTENSION,2LOWER HOOK,0RIGHT PARENTHESIS UPPER HOOK,2EXTENSION,2LOWER HOOK,0",
    "LEFT SQUARE BRACKET UPPER CORNER,3EXTENSION,3LOWER CORNER,0RIGHT SQUARE BRACKET UPPER CORNER",
    ",3EXTENSION,3LOWER CORNER,0LEFT CURLY BRACKET UPPER HOOK,3MIDDLE PIECE,3LOWER HOOK,0CURLY BR",
    "ACKET EXTENSION,0RIGHT CURLY BRACKET UPPER HOOK,3MIDDLE PIECE,3LOWER HOOK,0INTEGRAL EXTENSIO",
    "N,0HORIZONTAL LINE EXTENSION,0UPPER LEFT OR LOWER RIGHT CURLY BRACKET SECTION,1RIGHT OR LOWE",
    "R LEFT CURLY BRACKET SECTION,0SUMMATION TOP,1BOTTOM,0TOP SQUARE BRACKET,0BOTTOM SQUARE BRACK",
    "ET,3OVER TOP SQUARE BRACKET,0RADICAL SYMBOL BOTTOM,0LEFT VERTICAL BOX LINE,0RIGHT VERTICAL B",
    "OX LINE,0HORIZONTAL SCAN LINE-1,2LINE-3,2LINE-7,2LINE-9,0DENTISTRY SYMBOL LIGHT VERTICAL AN",
    "D TOP RIGHT,5BOTTOM RIGHT,4WITH CIRCLE,3DOWN AND HORIZONTAL WITH CIRCLE,3UP AND HORIZONTAL W",
    "ITH CIRCLE,3VERTICAL WITH TRIANGLE,3DOWN AND HORIZONTAL WITH TRIANGLE,3UP AND HORIZONTAL WIT",
    "H TRIANGLE,3VERTICAL AND WAVE,3DOWN AND HORIZONTAL WITH WAVE,3UP AND HORIZONTAL WITH WAVE,3D",
    "OWN AND HORIZONTAL,3UP AND HORIZONTAL,3VERTICAL AND TOP LEFT,5BOTTOM LEFT,0SQUARE FOOT,0RETU",
    "RN SYMBOL,0EJECT SYMBOL,0VERTICAL LINE EXTENSION,0METRICAL BREVE,1LONG OVER SHORT,1SHORT OVE",
    "R LONG,1LONG OVER TWO SHORTS,1TWO SHORTS OVER LONG,3JOINED,1TRISEME,1TETRASEME,1PENTASEME,0E",
    "ARTH GROUND,0FUSE,0TOP PARENTHESIS,0BOTTOM PARENTHESIS,0TOP CURLY BRACKET,0BOTTOM CURLY BRAC",
    "KET,0TOP TORTOISE SHELL BRACKET,0BOTTOM TORTOISE SHELL BRACKET,0WHITE TRAPEZIUM,0BENZENE RIN",
    "G WITH CIRCLE,0STRAIGHTNESS,0FLATNESS,0AC CURRENT,0ELECTRICAL INTERSECTION,0DECIMAL EXPONEN",
    "T SYMBOL,0BLACK RIGHT-POINTING DOUBLE TRIANGLE,1LEFT-POINTING DOUBLE TRIANGLE,1UP-POINTING D",
    "OUBLE TRIANGLE,1DOWN-POINTING DOUBLE TRIANGLE,1RIGHT-POINTING DOUBLE TRIANGLE WITH VERTICAL ",
    "BAR,1LEFT-POINTING DOUBLE TRIANGLE WITH VERTICAL BAR,1RIGHT-POINTING TRIANGLE WITH DOUBLE VE",
    "RTICAL BAR,0ALARM CLOCK,0STOPWATCH,0TIMER CLOCK,0HOURGLASS WITH FLOWING SAND,0BLACK MEDIUM L",
    "EFT-POINTING TRIANGLE,2RIGHT-POINTING TRIANGLE,2UP-POINTING TRIANGLE,2DOWN-POINTING TRIANGLE",
    ",0DOUBLE VERTICAL BAR,0BLACK SQUARE FOR STOP,1CIRCLE FOR RECORD,0POWER SYMBOL,1ON-OFF SYMBOL",
    ",1ON SYMBOL,1SLEEP SYMBOL,0OBSERVER EYE SYMBOL,0SYMBOL FOR NULL,2START OF HEADING,4TEXT,2EN",
    "D OF TEXT,4TRANSMISSION,2ENQUIRY,2ACKNOWLEDGE,2BELL,2BACKSPACE,2HORIZONTAL TABULATION,2LINE ",
    "FEED,2VERTICAL TABULATION,2FORM FEED,2CARRIAGE RETURN,2SHIFT OUT,3IN,2DATA LINK ESCAPE,2DEVI",
    "CE CONTROL ONE,4TWO,4THREE,4FOUR,2NEGATIVE ACKNOWLEDGE,2SYNCHRONOUS IDLE,2END OF TRANSMISSIO",
    "N BLOCK,2CANCEL,2END OF MEDIUM,2SUBSTITUTE,2ESCAPE,2FILE SEPARATOR,2GROUP SEPARATOR,2RECORD ",
    "SEPARATOR,2UNIT SEPARATOR,2SPACE,2DELETE,0BLANK SYMBOL,0OPEN BOX,0SYMBOL FOR NEWLINE,2DELET",
    "E FORM TWO,2SUBSTITUTE FORM TWO,=2440 0OCR HOOK,1CHAIR,1FORK,1INVERTED FORK,1BELT BUCKLE,1BO",
    "W TIE,1BRANCH BANK IDENTIFICATION,1AMOUNT OF CHECK,1DASH,=2448 0MICR ON US SYMBOL,0OCR CUSTO",
    "MER ACCOUNT NUMBER,=2449 0MICR DASH SYMBOL,0OCR DOUBLE BACKSLASH,=2460 0CIRCLED DIGIT ONE,2T",
    "WO,2THREE,2FOUR,2FIVE,2SIX,2SEVEN,2EIGHT,2NINE,1NUMBER TEN,2ELEVEN,2TWELVE,2THIRTEEN,2FOURTE",
    "EN,2FIFTEEN,2SIXTEEN,2SEVENTEEN,2EIGHTEEN,2NINETEEN,2TWENTY,0PARENTHESIZED DIGIT ONE,2TWO,2T",
    "HREE,2FOUR,2FIVE,2SIX,2SEVEN,2EIGHT,2NINE,1NUMBER TEN,2ELEVEN,2TWELVE,2THIRTEEN,2FOURTEEN,2F",
    "IFTEEN,2SIXTEEN,2SEVENTEEN,2EIGHTEEN,2NINETEEN,2TWENTY,0DIGIT ONE FULL STOP,1TWO FULL STOP,1",
    "THREE FULL STOP,1FOUR FULL STOP,1FIVE FULL STOP,1SIX FULL STOP,1SEVEN FULL STOP,1EIGHT FULL ",
    "STOP,1NINE FULL STOP,0NUMBER TEN FULL STOP,1ELEVEN FULL STOP,1TWELVE FULL STOP,1THIRTEEN FUL",
    "L STOP,1FOURTEEN FULL STOP,1FIFTEEN FULL STOP,1SIXTEEN FULL STOP,1SEVENTEEN FULL STOP,1EIGHT",
    "EEN FULL STOP,1NINETEEN FULL STOP,1TWENTY FULL STOP,0PARENTHESIZED LATIN SMALL LETTER A,4B,4",
    "C,4D,4E,4F,4G,4H,4I,4J,4K,4L,4M,4N,4O,4P,4Q,4R,4S,4T,4U,4V,4W,4X,4Y,4Z,0CIRCLED LATIN CAPITA",
    "L LETTER A,4B,4C,4D,4E,4F,4G,4H,4I,4J,4K,4L,4M,4N,4O,4P,4Q,4R,4S,4T,4U,4V,4W,4X,4Y,4Z,2SMAL",
    "L LETTER A,4B,4C,4D,4E,4F,4G,4H,4I,4J,4K,4L,4M,4N,4O,4P,4Q,4R,4S,4T,4U,4V,4W,4X,4Y,4Z,1DIGI",
    "T ZERO,0NEGATIVE CIRCLED NUMBER ELEVEN,3TWELVE,3THIRTEEN,3FOURTEEN,3FIFTEEN,3SIXTEEN,3SEVENT",
    "EEN,3EIGHTEEN,3NINETEEN,3TWENTY,0DOUBLE CIRCLED DIGIT ONE,3TWO,3THREE,3FOUR,3FIVE,3SIX,3SEVE",
    "N,3EIGHT,3NINE,2NUMBER TEN,0NEGATIVE CIRCLED DIGIT ZERO,0BOX DRAWINGS LIGHT HORIZONTAL,2HEAV",
    "Y HORIZONTAL,2LIGHT VERTICAL,2HEAVY VERTICAL,2LIGHT TRIPLE DASH HORIZONTAL,2HEAVY TRIPLE DAS",
    "H HORIZONTAL,2LIGHT TRIPLE DASH VERTICAL,2HEAVY TRIPLE DASH VERTICAL,2LIGHT QUADRUPLE DASH H",
    "ORIZONTAL,2HEAVY QUADRUPLE DASH HORIZONTAL,2LIGHT QUADRUPLE DASH VERTICAL,2HEAVY QUADRUPLE D",
    "ASH VERTICAL,2LIGHT DOWN AND RIGHT,2DOWN LIGHT AND RIGHT HEAVY,3HEAVY AND RIGHT LIGHT,2HEAV",
    "Y DOWN AND RIGHT,2LIGHT DOWN AND LEFT,2DOWN LIGHT AND LEFT HEAVY,3HEAVY AND LEFT LIGHT,2HEAV",
    "Y DOWN AND LEFT,2LIGHT UP AND RIGHT,2UP LIGHT AND RIGHT HEAVY,3HEAVY AND RIGHT LIGHT,2HEAVY ",
    "UP AND RIGHT,2LIGHT UP AND LEFT,2UP LIGHT AND LEFT HEAVY,3HEAVY AND LEFT LIGHT,2HEAVY UP AN",
    "D LEFT,2LIGHT VERTICAL AND RIGHT,2VERTICAL LIGHT AND RIGHT HEAVY,2UP HEAVY AND RIGHT DOWN LI",
    "GHT,2DOWN HEAVY AND RIGHT UP LIGHT,2VERTICAL HEAVY AND RIGHT LIGHT,2DOWN LIGHT AND RIGHT UP ",
    "HEAVY,2UP LIGHT AND RIGHT DOWN HEAVY,2HEAVY VERTICAL AND RIGHT,2LIGHT VERTICAL AND LEFT,2VER",
    "TICAL LIGHT AND LEFT HEAVY,2UP HEAVY AND LEFT DOWN LIGHT,2DOWN HEAVY AND LEFT UP LIGHT,2VERT",
    "ICAL HEAVY AND LEFT LIGHT,2DOWN LIGHT AND LEFT UP HEAVY,2UP LIGHT AND LEFT DOWN HEAVY,2HEAV",
    "Y VERTICAL AND LEFT,2LIGHT DOWN AND HORIZONTAL,2LEFT HEAVY AND RIGHT DOWN LIGHT,2RIGHT HEAV",
    "Y AND LEFT DOWN LIGHT,2DOWN LIGHT AND HORIZONTAL HEAVY,3HEAVY AND HORIZONTAL LIGHT,2RIGHT LI",
    "GHT AND LEFT DOWN HEAVY,2LEFT LIGHT AND RIGHT DOWN HEAVY,2HEAVY DOWN AND HORIZONTAL,2LIGHT U",
    "P AND HORIZONTAL,2LEFT HEAVY AND RIGHT UP LIGHT,2RIGHT HEAVY AND LEFT UP LIGHT,2UP LIGHT AN",
    "D HORIZONTAL HEAVY,3HEAVY AND HORIZONTAL LIGHT,2RIGHT LIGHT AND LEFT UP HEAVY,2LEFT LIGHT AN",
    "D RIGHT UP HEAVY,2HEAVY UP AND HORIZONTAL,2LIGHT VERTICAL AND HORIZONTAL,2LEFT HEAVY AND RIG",
    "HT VERTICAL LIGHT,2RIGHT HEAVY AND LEFT VERTICAL LIGHT,2VERTICAL LIGHT AND HORIZONTAL HEAVY,",
    "2UP HEAVY AND DOWN HORIZONTAL LIGHT,2DOWN HEAVY AND UP HORIZONTAL LIGHT,2VERTICAL HEAVY AND ",
    "HORIZONTAL LIGHT,2LEFT UP HEAVY AND RIGHT DOWN LIGHT,2RIGHT UP HEAVY AND LEFT DOWN LIGHT,2LE",
    "FT DOWN HEAVY AND RIGHT UP LIGHT,2RIGHT DOWN HEAVY AND LEFT UP LIGHT,2DOWN LIGHT AND UP HORI",
    "ZONTAL HEAVY,2UP LIGHT AND DOWN HORIZONTAL HEAVY,2RIGHT LIGHT AND LEFT VERTICAL HEAVY,2LEFT ",
    "LIGHT AND RIGHT VERTICAL HEAVY,2HEAVY VERTICAL AND HORIZONTAL,2LIGHT DOUBLE DASH HORIZONTAL,",
    "2HEAVY DOUBLE DASH HORIZONTAL,2LIGHT DOUBLE DASH VERTICAL,2HEAVY DOUBLE DASH VERTICAL,2DOUBL",
    "E HORIZONTAL,3VERTICAL,2DOWN SINGLE AND RIGHT DOUBLE,3DOUBLE AND RIGHT SINGLE,2DOUBLE DOWN A",
    "ND RIGHT,2DOWN SINGLE AND LEFT DOUBLE,3DOUBLE AND LEFT SINGLE,2DOUBLE DOWN AND LEFT,2UP SING",
    "LE AND RIGHT DOUBLE,3DOUBLE AND RIGHT SINGLE,2DOUBLE UP AND RIGHT,2UP SINGLE AND LEFT DOUBLE",
    ",3DOUBLE AND LEFT SINGLE,2DOUBLE UP AND LEFT,2VERTICAL SINGLE AND RIGHT DOUBLE,3DOUBLE AND R",
    "IGHT SINGLE,2DOUBLE VERTICAL AND RIGHT,2VERTICAL SINGLE AND LEFT DOUBLE,3DOUBLE AND LEFT SIN",
    "GLE,2DOUBLE VERTICAL AND LEFT,2DOWN SINGLE AND HORIZONTAL DOUBLE,3DOUBLE AND HORIZONTAL SING",
    "LE,2DOUBLE DOWN AND HORIZONTAL,2UP SINGLE AND HORIZONTAL DOUBLE,3DOUBLE AND HORIZONTAL SINGL",
    "E,2DOUBLE UP AND HORIZONTAL,2VERTICAL SINGLE AND HORIZONTAL DOUBLE,3DOUBLE AND HORIZONTAL SI",
    "NGLE,2DOUBLE VERTICAL AND HORIZONTAL,2LIGHT ARC DOWN AND RIGHT,6LEFT,4UP AND LEFT,6RIGHT,3DI",
    "AGONAL UPPER RIGHT TO LOWER LEFT,5LEFT TO LOWER RIGHT,4CROSS,3LEFT,3UP,3RIGHT,3DOWN,2HEAVY L",
    "EFT,3UP,3RIGHT,3DOWN,2LIGHT LEFT AND HEAVY RIGHT,3UP AND HEAVY DOWN,2HEAVY LEFT AND LIGHT RI",
    "GHT,3UP AND LIGHT DOWN,0UPPER HALF BLOCK,0LOWER ONE EIGHTH BLOCK,2QUARTER BLOCK,1THREE EIGHT",
    "HS BLOCK,1HALF BLOCK,1FIVE EIGHTHS BLOCK,1THREE QUARTERS BLOCK,1SEVEN EIGHTHS BLOCK,0FULL BL",
    "OCK,0LEFT SEVEN EIGHTHS BLOCK,1THREE QUARTERS BLOCK,1FIVE EIGHTHS BLOCK,1HALF BLOCK,1THREE E",
    "IGHTHS BLOCK,1ONE QUARTER BLOCK,2EIGHTH BLOCK,0RIGHT HALF BLOCK,0LIGHT SHADE,0MEDIUM SHADE,0",
    "DARK SHADE,0UPPER ONE EIGHTH BLOCK,0RIGHT ONE EIGHTH BLOCK,0QUADRANT LOWER LEFT,2RIGHT,1UPPE",
    "R LEFT,3AND LOWER LEFT AND LOWER RIGHT,5RIGHT,4UPPER RIGHT AND LOWER LEFT,8RIGHT,2RIGHT,3AN",
    "D LOWER LEFT,6AND LOWER RIGHT,0BLACK SQUARE,0WHITE SQUARE,2WITH ROUNDED CORNERS,2CONTAINING ",
    "BLACK SMALL SQUARE,0SQUARE WITH HORIZONTAL FILL,2VERTICAL FILL,2ORTHOGONAL CROSSHATCH FILL,2",
    "UPPER LEFT TO LOWER RIGHT FILL,3RIGHT TO LOWER LEFT FILL,2DIAGONAL CROSSHATCH FILL,0BLACK SM",
    "ALL SQUARE,0WHITE SMALL SQUARE,0BLACK RECTANGLE,0WHITE RECTANGLE,0BLACK VERTICAL RECTANGLE,0",
    "WHITE VERTICAL RECTANGLE,0BLACK PARALLELOGRAM,0WHITE PARALLELOGRAM,0BLACK UP-POINTING TRIANG",
    "LE,0WHITE UP-POINTING TRIANGLE,0BLACK UP-POINTING SMALL TRIANGLE,0WHITE UP-POINTING SMALL TR",
    "IANGLE,0BLACK RIGHT-POINTING TRIANGLE,0WHITE RIGHT-POINTING TRIANGLE,0BLACK RIGHT-POINTING S",
    "MALL TRIANGLE,0WHITE RIGHT-POINTING SMALL TRIANGLE,0BLACK RIGHT-POINTING POINTER,0WHITE RIGH",
    "T-POINTING POINTER,0BLACK DOWN-POINTING TRIANGLE,0WHITE DOWN-POINTING TRIANGLE,0BLACK DOWN-P",
    "OINTING SMALL TRIANGLE,0WHITE DOWN-POINTING SMALL TRIANGLE,0BLACK LEFT-POINTING TRIANGLE,0WH",
    "ITE LEFT-POINTING TRIANGLE,0BLACK LEFT-POINTING SMALL TRIANGLE,0WHITE LEFT-POINTING SMALL TR",
    "IANGLE,0BLACK LEFT-POINTING POINTER,0WHITE LEFT-POINTING POINTER,0BLACK DIAMOND,0WHITE DIAMO",
    "ND,2CONTAINING BLACK SMALL DIAMOND,0FISHEYE,0LOZENGE,0WHITE CIRCLE,0DOTTED CIRCLE,0CIRCLE WI",
    "TH VERTICAL FILL,0BULLSEYE,0BLACK CIRCLE,0CIRCLE WITH LEFT HALF BLACK,2RIGHT HALF BLACK,2LOW",
    "ER HALF BLACK,2UPPER HALF BLACK,3RIGHT QUADRANT BLACK,2ALL BUT UPPER LEFT QUADRANT BLACK,0LE",
    "FT HALF BLACK CIRCLE,0RIGHT HALF BLACK CIRCLE,0INVERSE BULLET,1WHITE CIRCLE,0UPPER HALF INVE",
    "RSE WHITE CIRCLE,0LOWER HALF INVERSE WHITE CIRCLE,0UPPER LEFT QUADRANT CIRCULAR ARC,1RIGHT Q",
    "UADRANT CIRCULAR ARC,0LOWER RIGHT QUADRANT CIRCULAR ARC,1LEFT QUADRANT CIRCULAR ARC,0UPPER H",
    "ALF CIRCLE,0LOWER HALF CIRCLE,0BLACK LOWER RIGHT TRIANGLE,2LEFT TRIANGLE,1UPPER LEFT TRIANGL",
    "E,2RIGHT TRIANGLE,0WHITE BULLET,0SQUARE WITH LEFT HALF BLACK,2RIGHT HALF BLACK,2UPPER LEFT D",
    "IAGONAL HALF BLACK,2LOWER RIGHT DIAGONAL HALF BLACK,0WHITE SQUARE WITH VERTICAL BISECTING LI",
    "NE,1UP-POINTING TRIANGLE WITH DOT,0UP-POINTING TRIANGLE WITH LEFT HALF BLACK,3RIGHT HALF BLA",
    "CK,0LARGE CIRCLE,0WHITE SQUARE WITH UPPER LEFT QUADRANT,3LOWER LEFT QUADRANT,4RIGHT QUADRANT",
    ",3UPPER RIGHT QUADRANT,1CIRCLE WITH UPPER LEFT QUADRANT,3LOWER LEFT QUADRANT,4RIGHT QUADRANT",
    ",3UPPER RIGHT QUADRANT,0UPPER LEFT TRIANGLE,1RIGHT TRIANGLE,0LOWER LEFT TRIANGLE,0WHITE MEDI",
    "UM SQUARE,0BLACK MEDIUM SQUARE,0WHITE MEDIUM SMALL SQUARE,0BLACK MEDIUM SMALL SQUARE,0LOWER ",
    "RIGHT TRIANGLE,0BLACK SUN WITH RAYS,0CLOUD,0UMBRELLA,0SNOWMAN,0COMET,0BLACK STAR,0WHITE STAR",
    ",0LIGHTNING,0THUNDERSTORM,0SUN,0ASCENDING NODE,0DESCENDING NODE,0CONJUNCTION,0OPPOSITION,0BL",
    "ACK TELEPHONE,0WHITE TELEPHONE,0BALLOT BOX,2WITH CHECK,3X,0SALTIRE,0UMBRELLA WITH RAIN DROPS",
    ",0HOT BEVERAGE,0WHITE SHOGI PIECE,0BLACK SHOGI PIECE,0SHAMROCK,0REVERSED ROTATED FLORAL HEAR",
    "T BULLET,0BLACK LEFT POINTING INDEX,1RIGHT POINTING INDEX,0WHITE LEFT POINTING INDEX,1UP POI",
    "NTING INDEX,1RIGHT POINTING INDEX,1DOWN POINTING INDEX,0SKULL AND CROSSBONES,0CAUTION SIGN,0",
    "RADIOACTIVE SIGN,0BIOHAZARD SIGN,0CADUCEUS,0ANKH,0ORTHODOX CROSS,0CHI RHO,0CROSS OF LORRAINE",
    ",2JERUSALEM,0STAR AND CRESCENT,0FARSI SYMBOL,0ADI SHAKTI,0HAMMER AND SICKLE,0PEACE SYMBOL,0Y",
    "IN YANG,0TRIGRAM FOR HEAVEN,2LAKE,2FIRE,2THUNDER,2WIND,2WATER,2MOUNTAIN,2EARTH,0WHEEL OF DHA",
    "RMA,0WHITE FROWNING FACE,1SMILING FACE,0BLACK SMILING FACE,0WHITE SUN WITH RAYS,0FIRST QUART",
    "ER MOON,0LAST QUARTER MOON,0MERCURY,0FEMALE SIGN,0EARTH,0MALE SIGN,0JUPITER,0SATURN,0URANUS,",
    "0NEPTUNE,0PLUTO,0ARIES,0TAURUS,0GEMINI,0CANCER,0LEO,0VIRGO,0LIBRA,0SCORPIUS,0SAGITTARIUS,0CA",
    "PRICORN,0AQUARIUS,0PISCES,0WHITE CHESS KING,2QUEEN,2ROOK,2BISHOP,2KNIGHT,2PAWN,0BLACK CHESS ",
    "KING,2QUEEN,2ROOK,2BISHOP,2KNIGHT,2PAWN,1SPADE SUIT,0WHITE HEART SUIT,1DIAMOND SUIT,0BLACK C",
    "LUB SUIT,0WHITE SPADE SUIT,0BLACK HEART SUIT,1DIAMOND SUIT,0WHITE CLUB SUIT,0HOT SPRINGS,0QU",
    "ARTER NOTE,0EIGHTH NOTE,0BEAMED EIGHTH NOTES,1SIXTEENTH NOTES,0MUSIC FLAT SIGN,1NATURAL SIGN",
    ",1SHARP SIGN,0WEST SYRIAC CROSS,0EAST SYRIAC CROSS,0UNIVERSAL RECYCLING SYMBOL,0RECYCLING SY",
    "MBOL FOR TYPE-1 PLASTICS,3TYPE-2 PLASTICS,3TYPE-3 PLASTICS,3TYPE-4 PLASTICS,3TYPE-5 PLASTICS",
    ",3TYPE-6 PLASTICS,3TYPE-7 PLASTICS,3GENERIC MATERIALS,0BLACK UNIVERSAL RECYCLING SYMBOL,0REC",
    "YCLED PAPER SYMBOL,0PARTIALLY-RECYCLED PAPER SYMBOL,0PERMANENT PAPER SIGN,0WHEELCHAIR SYMBOL",
    ",0DIE FACE-1,1FACE-2,1FACE-3,1FACE-4,1FACE-5,1FACE-6,0WHITE CIRCLE WITH DOT RIGHT,3TWO DOTS,",
    "0BLACK CIRCLE WITH WHITE DOT RIGHT,3TWO WHITE DOTS,0MONOGRAM FOR YANG,2YIN,0DIGRAM FOR GREAT",
    "ER YANG,2LESSER YIN,3YANG,2GREATER YIN,0WHITE FLAG,0BLACK FLAG,0HAMMER AND PICK,0ANCHOR,0CRO",
    "SSED SWORDS,0STAFF OF AESCULAPIUS,0SCALES,0ALEMBIC,0FLOWER,0GEAR,0STAFF OF HERMES,0ATOM SYMB",
    "OL,0FLEUR-DE-LIS,0OUTLINED WHITE STAR,0THREE LINES CONVERGING RIGHT,3LEFT,0WARNING SIGN,0HIG",
    "H VOLTAGE SIGN,0DOUBLED FEMALE SIGN,1MALE SIGN,0INTERLOCKED FEMALE AND MALE SIGN,0MALE AND F",
    "EMALE SIGN,1WITH STROKE SIGN,3AND MALE AND FEMALE SIGN,0VERTICAL MALE WITH STROKE SIGN,0HORI",
    "ZONTAL MALE WITH STROKE SIGN,0MEDIUM WHITE CIRCLE,1BLACK CIRCLE,1SMALL WHITE CIRCLE,0MARRIAG",
    "E SYMBOL,0DIVORCE SYMBOL,0UNMARRIED PARTNERSHIP SYMBOL,0COFFIN,0FUNERAL URN,0NEUTER,0CERES,0",
    "PALLAS,0JUNO,0VESTA,0CHIRON,0BLACK MOON LILITH,0SEXTILE,0SEMISEXTILE,0QUINCUNX,0SESQUIQUADRA",
    "TE,0SOCCER BALL,0BASEBALL,0SQUARED KEY,0WHITE DRAUGHTS MAN,2KING,0BLACK DRAUGHTS MAN,2KING,0",
    "SNOWMAN WITHOUT SNOW,0SUN BEHIND CLOUD,0RAIN,0BLACK SNOWMAN,0THUNDER CLOUD AND RAIN,0TURNED ",
    "WHITE SHOGI PIECE,1BLACK SHOGI PIECE,0WHITE DIAMOND IN SQUARE,0CROSSING LANES,0DISABLED CAR,",
    "0OPHIUCHUS,0PICK,0CAR SLIDING,0HELMET WITH WHITE CROSS,0CIRCLED CROSSING LANES,0CHAINS,0NO E",
    "NTRY,0ALTERNATE ONE-WAY LEFT WAY TRAFFIC,0BLACK TWO-WAY LEFT WAY TRAFFIC,0WHITE TWO-WAY LEF",
    "T WAY TRAFFIC,0BLACK LEFT LANE MERGE,0WHITE LEFT LANE MERGE,0DRIVE SLOW SIGN,0HEAVY WHITE DO",
    "WN-POINTING TRIANGLE,0LEFT CLOSED ENTRY,0SQUARED SALTIRE,0FALLING DIAGONAL IN WHITE CIRCLE I",
    "N BLACK SQUARE,0BLACK TRUCK,0RESTRICTED LEFT ENTRY-1,2ENTRY-2,0ASTRONOMICAL SYMBOL FOR URANU",
    "S,0HEAVY CIRCLE WITH STROKE AND TWO DOTS ABOVE,0PENTAGRAM,0RIGHT-HANDED INTERLACED PENTAGRAM",
    ",0LEFT-HANDED INTERLACED PENTAGRAM,0INVERTED PENTAGRAM,0BLACK CROSS ON SHIELD,0SHINTO SHRINE",
    ",0CHURCH,0CASTLE,0HISTORIC SITE,0GEAR WITHOUT HUB,1WITH HANDLES,0MAP SYMBOL FOR LIGHTHOUSE,0",
    "MOUNTAIN,0UMBRELLA ON GROUND,0FOUNTAIN,0FLAG IN HOLE,0FERRY,0SAILBOAT,0SQUARE FOUR CORNERS,0",
    "SKIER,0ICE SKATE,0PERSON WITH BALL,0TENT,0JAPANESE BANK SYMBOL,0HEADSTONE GRAVEYARD SYMBOL,0",
    "FUEL PUMP,0CUP ON BLACK SQUARE,0WHITE FLAG WITH HORIZONTAL MIDDLE BLACK STRIPE,0BLACK SAFET",
    "Y SCISSORS,0UPPER BLADE SCISSORS,0BLACK SCISSORS,0LOWER BLADE SCISSORS,0WHITE SCISSORS,1HEAV",
    "Y CHECK MARK,0TELEPHONE LOCATION SIGN,0TAPE DRIVE,0AIRPLANE,0ENVELOPE,0RAISED FIST,1HAND,0VI",
    "CTORY HAND,0WRITING HAND,0LOWER RIGHT PENCIL,0PENCIL,0UPPER RIGHT PENCIL,0WHITE NIB,0BLACK N",
    "IB,0CHECK MARK,0HEAVY CHECK MARK,0MULTIPLICATION X,0HEAVY MULTIPLICATION X,0BALLOT X,0HEAVY ",
    "BALLOT X,0OUTLINED GREEK CROSS,0HEAVY GREEK CROSS,0OPEN CENTRE CROSS,0HEAVY OPEN CENTRE CROS",
    "S,0LATIN CROSS,0SHADOWED WHITE LATIN CROSS,0OUTLINED LATIN CROSS,0MALTESE CROSS,0STAR OF DAV",
    "ID,0FOUR TEARDROP-SPOKED ASTERISK,1BALLOON-SPOKED ASTERISK,0HEAVY FOUR BALLOON-SPOKED ASTERI",
    "SK,0FOUR CLUB-SPOKED ASTERISK,0BLACK FOUR POINTED STAR,0WHITE FOUR POINTED STAR,0SPARKLES,0S",
    "TRESS OUTLINED WHITE STAR,0CIRCLED WHITE STAR,0OPEN CENTRE BLACK STAR,0BLACK CENTRE WHITE ST",
    "AR,0OUTLINED BLACK STAR,0HEAVY OUTLINED BLACK STAR,0PINWHEEL STAR,0SHADOWED WHITE STAR,0HEAV",
    "Y ASTERISK,0OPEN CENTRE ASTERISK,0EIGHT SPOKED ASTERISK,1POINTED BLACK STAR,2PINWHEEL STAR,0",
    "SIX POINTED BLACK STAR,0EIGHT POINTED RECTILINEAR BLACK STAR,0HEAVY EIGHT POINTED RECTILINEA",
    "R BLACK STAR,0TWELVE POINTED BLACK STAR,0SIXTEEN POINTED ASTERISK,0TEARDROP-SPOKED ASTERISK,",
    "0OPEN CENTRE TEARDROP-SPOKED ASTERISK,0HEAVY TEARDROP-SPOKED ASTERISK,0SIX PETALLED BLACK AN",
    "D WHITE FLORETTE,0BLACK FLORETTE,0WHITE FLORETTE,0EIGHT PETALLED OUTLINED BLACK FLORETTE,0CI",
    "RCLED OPEN CENTRE EIGHT POINTED STAR,0HEAVY TEARDROP-SPOKED PINWHEEL ASTERISK,0SNOWFLAKE,0TI",
    "GHT TRIFOLIATE SNOWFLAKE,0HEAVY CHEVRON SNOWFLAKE,0SPARKLE,0HEAVY SPARKLE,0BALLOON-SPOKED AS",
    "TERISK,0EIGHT TEARDROP-SPOKED PROPELLER ASTERISK,0HEAVY EIGHT TEARDROP-SPOKED PROPELLER ASTE",
    "RISK,0CROSS MARK,0SHADOWED WHITE CIRCLE,0NEGATIVE SQUARED CROSS MARK,0LOWER RIGHT DROP-SHADO",
    "WED WHITE SQUARE,0UPPER RIGHT DROP-SHADOWED WHITE SQUARE,0LOWER RIGHT SHADOWED WHITE SQUARE,",
    "0UPPER RIGHT SHADOWED WHITE SQUARE,0BLACK QUESTION MARK ORNAMENT,0WHITE QUESTION MARK ORNAME",
    "NT,1EXCLAMATION MARK ORNAMENT,0BLACK DIAMOND MINUS WHITE X,0HEAVY EXCLAMATION MARK SYMBOL,0L",
    "IGHT VERTICAL BAR,0MEDIUM VERTICAL BAR,0HEAVY VERTICAL BAR,1SINGLE TURNED COMMA QUOTATION MA",
    "RK ORNAMENT,2COMMA QUOTATION MARK ORNAMENT,1DOUBLE TURNED COMMA QUOTATION MARK ORNAMENT,2COM",
    "MA QUOTATION MARK ORNAMENT,1LOW SINGLE COMMA QUOTATION MARK ORNAMENT,2DOUBLE COMMA QUOTATIO",
    "N MARK ORNAMENT,0CURVED STEM PARAGRAPH SIGN ORNAMENT,0HEAVY EXCLAMATION MARK ORNAMENT,1HEAR",
    "T EXCLAMATION MARK ORNAMENT,1BLACK HEART,0ROTATED HEAVY BLACK HEART BULLET,0FLORAL HEART,0RO",
    "TATED FLORAL HEART BULLET,0MEDIUM LEFT PARENTHESIS ORNAMENT,1RIGHT PARENTHESIS ORNAMENT,1FLA",
    "TTENED LEFT PARENTHESIS ORNAMENT,2RIGHT PARENTHESIS ORNAMENT,1LEFT-POINTING ANGLE BRACKET OR",
    "NAMENT,1RIGHT-POINTING ANGLE BRACKET ORNAMENT,0HEAVY LEFT-POINTING ANGLE QUOTATION MARK ORNA",
    "MENT,1RIGHT-POINTING ANGLE QUOTATION MARK ORNAMENT,1LEFT-POINTING ANGLE BRACKET ORNAMENT,1RI",
    "GHT-POINTING ANGLE BRACKET ORNAMENT,0LIGHT LEFT TORTOISE SHELL BRACKET ORNAMENT,1RIGHT TORTO",
    "ISE SHELL BRACKET ORNAMENT,0MEDIUM LEFT CURLY BRACKET ORNAMENT,1RIGHT CURLY BRACKET ORNAMENT",
    ",0DINGBAT NEGATIVE CIRCLED DIGIT ONE,4TWO,4THREE,4FOUR,4FIVE,4SIX,4SEVEN,4EIGHT,4NINE,3NUMBE",
    "R TEN,1CIRCLED SANS-SERIF DIGIT ONE,4TWO,4THREE,4FOUR,4FIVE,4SIX,4SEVEN,4EIGHT,4NINE,3NUMBE",
    "R TEN,1NEGATIVE CIRCLED SANS-SERIF DIGIT ONE,5TWO,5THREE,5FOUR,5FIVE,5SIX,5SEVEN,5EIGHT,5NIN",
    "E,4NUMBER TEN,0HEAVY WIDE-HEADED RIGHTWARDS ARROW,1PLUS SIGN,1MINUS SIGN,1DIVISION SIGN,1SOU",
    "TH EAST ARROW,1RIGHTWARDS ARROW,1NORTH EAST ARROW,0DRAFTING POINT RIGHTWARDS ARROW,0HEAVY RO",
    "UND-TIPPED RIGHTWARDS ARROW,0TRIANGLE-HEADED RIGHTWARDS ARROW,0HEAVY TRIANGLE-HEADED RIGHTWA",
    "RDS ARROW,0DASHED TRIANGLE-HEADED RIGHTWARDS ARROW,0HEAVY DASHED TRIANGLE-HEADED RIGHTWARDS ",
    "ARROW,0BLACK RIGHTWARDS ARROW,0THREE-D TOP-LIGHTED RIGHTWARDS ARROWHEAD,1BOTTOM-LIGHTED RIGH",
    "TWARDS ARROWHEAD,0BLACK RIGHTWARDS ARROWHEAD,0HEAVY BLACK CURVED DOWNWARDS AND RIGHTWARDS AR",
    "ROW,3UPWARDS AND RIGHTWARDS ARROW,0SQUAT BLACK RIGHTWARDS ARROW,0HEAVY CONCAVE-POINTED BLAC",
    "K RIGHTWARDS ARROW,0RIGHT-SHADED WHITE RIGHTWARDS ARROW,0LEFT-SHADED WHITE RIGHTWARDS ARROW,",
    "0BACK-TILTED SHADOWED WHITE RIGHTWARDS ARROW,0FRONT-TILTED SHADOWED WHITE RIGHTWARDS ARROW,0",
    "HEAVY LOWER RIGHT-SHADOWED WHITE RIGHTWARDS ARROW,1UPPER RIGHT-SHADOWED WHITE RIGHTWARDS ARR",
    "OW,0NOTCHED LOWER RIGHT-SHADOWED WHITE RIGHTWARDS ARROW,0CURLY LOOP,0NOTCHED UPPER RIGHT-SHA",
    "DOWED WHITE RIGHTWARDS ARROW,0CIRCLED HEAVY WHITE RIGHTWARDS ARROW,0WHITE-FEATHERED RIGHTWAR",
    "DS ARROW,0BLACK-FEATHERED SOUTH EAST ARROW,1RIGHTWARDS ARROW,1NORTH EAST ARROW,0HEAVY BLACK-",
    "FEATHERED SOUTH EAST ARROW,2RIGHTWARDS ARROW,2NORTH EAST ARROW,0TEARDROP-BARBED RIGHTWARDS A",
    "RROW,0HEAVY TEARDROP-SHANKED RIGHTWARDS ARROW,0WEDGE-TAILED RIGHTWARDS ARROW,0HEAVY WEDGE-TA",
    "ILED RIGHTWARDS ARROW,0OPEN-OUTLINED RIGHTWARDS ARROW,0DOUBLE CURLY LOOP,0THREE DIMENSIONAL ",
    "ANGLE,0WHITE TRIANGLE CONTAINING SMALL WHITE TRIANGLE,0PERPENDICULAR,0OPEN SUBSET,1SUPERSET,",
    "0LEFT S-SHAPED BAG DELIMITER,0RIGHT S-SHAPED BAG DELIMITER,0OR WITH DOT INSIDE,0REVERSE SOLI",
    "DUS PRECEDING SUBSET,0SUPERSET PRECEDING SOLIDUS,0VERTICAL BAR WITH HORIZONTAL STROKE,0MATHE",
    "MATICAL RISING DIAGONAL,0LONG DIVISION,0MATHEMATICAL FALLING DIAGONAL,0SQUARED LOGICAL AND,2",
    "OR,0WHITE DIAMOND WITH CENTRED DOT,0AND WITH DOT,0ELEMENT OF OPENING UPWARDS,0LOWER RIGHT CO",
    "RNER WITH DOT,0UPPER LEFT CORNER WITH DOT,0LEFT OUTER JOIN,0RIGHT OUTER JOIN,0FULL OUTER JOI",
    "N,0LARGE UP TACK,1DOWN TACK,0LEFT AND RIGHT DOUBLE TURNSTILE,3TACK,1MULTIMAP,0LONG RIGHT TAC",
    "K,1LEFT TACK,0UP TACK WITH CIRCLE ABOVE,0LOZENGE DIVIDED BY HORIZONTAL RULE,0WHITE CONCAVE-S",
    "IDED DIAMOND,3WITH LEFTWARDS TICK,4RIGHTWARDS TICK,1SQUARE WITH LEFTWARDS TICK,3RIGHTWARDS T",
    "ICK,0MATHEMATICAL LEFT WHITE SQUARE BRACKET,1RIGHT WHITE SQUARE BRACKET,1LEFT ANGLE BRACKET,",
    "1RIGHT ANGLE BRACKET,1LEFT DOUBLE ANGLE BRACKET,1RIGHT DOUBLE ANGLE BRACKET,1LEFT WHITE TORT",
    "OISE SHELL BRACKET,1RIGHT WHITE TORTOISE SHELL BRACKET,1LEFT FLATTENED PARENTHESIS,1RIGHT FL",
    "ATTENED PARENTHESIS,0UPWARDS QUADRUPLE ARROW,0DOWNWARDS QUADRUPLE ARROW,0ANTICLOCKWISE GAPPE",
    "D CIRCLE ARROW,0CLOCKWISE GAPPED CIRCLE ARROW,0RIGHT ARROW WITH CIRCLED PLUS,0LONG LEFTWARD",
    "S ARROW,1RIGHTWARDS ARROW,1LEFT RIGHT ARROW,1LEFTWARDS DOUBLE ARROW,1RIGHTWARDS DOUBLE ARROW",
    ",1LEFT RIGHT DOUBLE ARROW,1LEFTWARDS ARROW FROM BAR,1RIGHTWARDS ARROW FROM BAR,1LEFTWARDS DO",
    "UBLE ARROW FROM BAR,1RIGHTWARDS DOUBLE ARROW FROM BAR,2SQUIGGLE ARROW,0BRAILLE PATTERN BLANK",
    ",2DOTS-1,2DOTS-2,2DOTS-12,2DOTS-3,2DOTS-13,2DOTS-23,2DOTS-123,2DOTS-4,2DOTS-14,2DOTS-24,2DOT",
    "S-124,2DOTS-34,2DOTS-134,2DOTS-234,2DOTS-1234,2DOTS-5,2DOTS-15,2DOTS-25,2DOTS-125,2DOTS-35,2",
    "DOTS-135,2DOTS-235,2DOTS-1235,2DOTS-45,2DOTS-145,2DOTS-245,2DOTS-1245,2DOTS-345,2DOTS-1345,2",
    "DOTS-2345,2DOTS-12345,2DOTS-6,2DOTS-16,2DOTS-26,2DOTS-126,2DOTS-36,2DOTS-136,2DOTS-236,2DOTS",
    "-1236,2DOTS-46,2DOTS-146,2DOTS-246,2DOTS-1246,2DOTS-346,2DOTS-1346,2DOTS-2346,2DOTS-12346,2D",
    "OTS-56,2DOTS-156,2DOTS-256,2DOTS-1256,2DOTS-356,2DOTS-1356,2DOTS-2356,2DOTS-12356,2DOTS-456,",
    "2DOTS-1456,2DOTS-2456,2DOTS-12456,2DOTS-3456,2DOTS-13456,2DOTS-23456,2DOTS-123456,2DOTS-7,2D",
    "OTS-17,2DOTS-27,2DOTS-127,2DOTS-37,2DOTS-137,2DOTS-237,2DOTS-1237,2DOTS-47,2DOTS-147,2DOTS-2",
    "47,2DOTS-1247,2DOTS-347,2DOTS-1347,2DOTS-2347,2DOTS-12347,2DOTS-57,2DOTS-157,2DOTS-257,2DOTS",
    "-1257,2DOTS-357,2DOTS-1357,2DOTS-2357,2DOTS-12357,2DOTS-457,2DOTS-1457,2DOTS-2457,2DOTS-1245",
    "7,2DOTS-3457,2DOTS-13457,2DOTS-23457,2DOTS-123457,2DOTS-67,2DOTS-167,2DOTS-267,2DOTS-1267,2D",
    "OTS-367,2DOTS-1367,2DOTS-2367,2DOTS-12367,2DOTS-467,2DOTS-1467,2DOTS-2467,2DOTS-12467,2DOTS-",
    "3467,2DOTS-13467,2DOTS-23467,2DOTS-123467,2DOTS-567,2DOTS-1567,2DOTS-2567,2DOTS-12567,2DOTS-",
    "3567,2DOTS-13567,2DOTS-23567,2DOTS-123567,2DOTS-4567,2DOTS-14567,2DOTS-24567,2DOTS-124567,2D",
    "OTS-34567,2DOTS-134567,2DOTS-234567,2DOTS-1234567,2DOTS-8,2DOTS-18,2DOTS-28,2DOTS-128,2DOTS-",
    "38,2DOTS-138,2DOTS-238,2DOTS-1238,2DOTS-48,2DOTS-148,2DOTS-248,2DOTS-1248,2DOTS-348,2DOTS-13",
    "48,2DOTS-2348,2DOTS-12348,2DOTS-58,2DOTS-158,2DOTS-258,2DOTS-1258,2DOTS-358,2DOTS-1358,2DOTS",
    "-2358,2DOTS-12358,2DOTS-458,2DOTS-1458,2DOTS-2458,2DOTS-12458,2DOTS-3458,2DOTS-13458,2DOTS-2",
    "3458,2DOTS-123458,2DOTS-68,2DOTS-168,2DOTS-268,2DOTS-1268,2DOTS-368,2DOTS-1368,2DOTS-2368,2D",
    "OTS-12368,2DOTS-468,2DOTS-1468,2DOTS-2468,2DOTS-12468,2DOTS-3468,2DOTS-13468,2DOTS-23468,2DO",
    "TS-123468,2DOTS-568,2DOTS-1568,2DOTS-2568,2DOTS-12568,2DOTS-3568,2DOTS-13568,2DOTS-23568,2DO",
    "TS-123568,2DOTS-4568,2DOTS-14568,2DOTS-24568,2DOTS-124568,2DOTS-34568,2DOTS-134568,2DOTS-234",
    "568,2DOTS-1234568,2DOTS-78,2DOTS-178,2DOTS-278,2DOTS-1278,2DOTS-378,2DOTS-1378,2DOTS-2378,2D",
    "OTS-12378,2DOTS-478,2DOTS-1478,2DOTS-2478,2DOTS-12478,2DOTS-3478,2DOTS-13478,2DOTS-23478,2DO",
    "TS-123478,2DOTS-578,2DOTS-1578,2DOTS-2578,2DOTS-12578,2DOTS-3578,2DOTS-13578,2DOTS-23578,2DO",
    "TS-123578,2DOTS-4578,2DOTS-14578,2DOTS-24578,2DOTS-124578,2DOTS-34578,2DOTS-134578,2DOTS-234",
    "578,2DOTS-1234578,2DOTS-678,2DOTS-1678,2DOTS-2678,2DOTS-12678,2DOTS-3678,2DOTS-13678,2DOTS-2",
    "3678,2DOTS-123678,2DOTS-4678,2DOTS-14678,2DOTS-24678,2DOTS-124678,2DOTS-34678,2DOTS-134678,2",
    "DOTS-234678,2DOTS-1234678,2DOTS-5678,2DOTS-15678,2DOTS-25678,2DOTS-125678,2DOTS-35678,2DOTS-",
    "135678,2DOTS-235678,2DOTS-1235678,2DOTS-45678,2DOTS-145678,2DOTS-245678,2DOTS-1245678,2DOTS-",
    "345678,2DOTS-1345678,2DOTS-2345678,2DOTS-12345678,0RIGHTWARDS TWO-HEADED ARROW WITH VERTICA",
    "L STROKE,4DOUBLE VERTICAL STROKE,0LEFTWARDS DOUBLE ARROW WITH VERTICAL STROKE,0RIGHTWARDS DO",
    "UBLE ARROW WITH VERTICAL STROKE,0LEFT RIGHT DOUBLE ARROW WITH VERTICAL STROKE,0RIGHTWARDS TW",
    "O-HEADED ARROW FROM BAR,0LEFTWARDS DOUBLE ARROW FROM BAR,0RIGHTWARDS DOUBLE ARROW FROM BAR,0",
    "DOWNWARDS ARROW WITH HORIZONTAL STROKE,0UPWARDS ARROW WITH HORIZONTAL STROKE,1TRIPLE ARROW,0",
    "DOWNWARDS TRIPLE ARROW,0LEFTWARDS DOUBLE DASH ARROW,0RIGHTWARDS DOUBLE DASH ARROW,0LEFTWARD",
    "S TRIPLE DASH ARROW,0RIGHTWARDS TRIPLE DASH ARROW,1TWO-HEADED TRIPLE DASH ARROW,1ARROW WITH ",
    "DOTTED STEM,0UPWARDS ARROW TO BAR,0DOWNWARDS ARROW TO BAR,0RIGHTWARDS ARROW WITH TAIL WITH V",
    "ERTICAL STROKE,5DOUBLE VERTICAL STROKE,1TWO-HEADED ARROW WITH TAIL,5WITH VERTICAL STROKE,6DO",
    "UBLE VERTICAL STROKE,0LEFTWARDS ARROW-TAIL,0RIGHTWARDS ARROW-TAIL,0LEFTWARDS DOUBLE ARROW-TA",
    "IL,0RIGHTWARDS DOUBLE ARROW-TAIL,0LEFTWARDS ARROW TO BLACK DIAMOND,0RIGHTWARDS ARROW TO BLAC",
    "K DIAMOND,0LEFTWARDS ARROW FROM BAR TO BLACK DIAMOND,0RIGHTWARDS ARROW FROM BAR TO BLACK DIA",
    "MOND,0NORTH WEST AND SOUTH EAST ARROW,1EAST AND SOUTH WEST ARROW,1WEST ARROW WITH HOOK,1EAS",
    "T ARROW WITH HOOK,0SOUTH EAST ARROW WITH HOOK,1WEST ARROW WITH HOOK,0NORTH WEST ARROW AND NO",
    "RTH EAST ARROW,1EAST ARROW AND SOUTH EAST ARROW,0SOUTH EAST ARROW AND SOUTH WEST ARROW,1WES",
    "T ARROW AND NORTH WEST ARROW,0RISING DIAGONAL CROSSING FALLING DIAGONAL,0FALLING DIAGONAL CR",
    "OSSING RISING DIAGONAL,0SOUTH EAST ARROW CROSSING NORTH EAST ARROW,0NORTH EAST ARROW CROSSIN",
    "G SOUTH EAST ARROW,0FALLING DIAGONAL CROSSING NORTH EAST ARROW,0RISING DIAGONAL CROSSING SOU",
    "TH EAST ARROW,0NORTH EAST ARROW CROSSING NORTH WEST ARROW,1WEST ARROW CROSSING NORTH EAST AR",
    "ROW,0WAVE ARROW POINTING DIRECTLY RIGHT,0ARROW POINTING RIGHTWARDS THEN CURVING UPWARDS,5DOW",
    "NWARDS,2DOWNWARDS THEN CURVING LEFTWARDS,5RIGHTWARDS,0RIGHT-SIDE ARC CLOCKWISE ARROW,0LEFT-S",
    "IDE ARC ANTICLOCKWISE ARROW,0TOP ARC ANTICLOCKWISE ARROW,0BOTTOM ARC ANTICLOCKWISE ARROW,0TO",
    "P ARC CLOCKWISE ARROW WITH MINUS,2ANTICLOCKWISE ARROW WITH PLUS,0LOWER RIGHT SEMICIRCULAR CL",
    "OCKWISE ARROW,1LEFT SEMICIRCULAR ANTICLOCKWISE ARROW,0ANTICLOCKWISE CLOSED CIRCLE ARROW,0CLO",
    "CKWISE CLOSED CIRCLE ARROW,0RIGHTWARDS ARROW ABOVE SHORT LEFTWARDS ARROW,0LEFTWARDS ARROW AB",
    "OVE SHORT RIGHTWARDS ARROW,0SHORT RIGHTWARDS ARROW ABOVE LEFTWARDS ARROW,0RIGHTWARDS ARROW W",
    "ITH PLUS BELOW,0LEFTWARDS ARROW WITH PLUS BELOW,0RIGHTWARDS ARROW THROUGH X,0LEFT RIGHT ARRO",
    "W THROUGH SMALL CIRCLE,0UPWARDS TWO-HEADED ARROW FROM SMALL CIRCLE,0LEFT BARB UP RIGHT BARB ",
    "DOWN HARPOON,2DOWN RIGHT BARB UP HARPOON,0UP BARB RIGHT DOWN BARB LEFT HARPOON,2LEFT DOWN BA",
    "RB RIGHT HARPOON,0LEFT BARB UP RIGHT BARB UP HARPOON,0UP BARB RIGHT DOWN BARB RIGHT HARPOON,",
    "0LEFT BARB DOWN RIGHT BARB DOWN HARPOON,0UP BARB LEFT DOWN BARB LEFT HARPOON,0LEFTWARDS HARP",
    "OON WITH BARB UP TO BAR,0RIGHTWARDS HARPOON WITH BARB UP TO BAR,0UPWARDS HARPOON WITH BARB R",
    "IGHT TO BAR,0DOWNWARDS HARPOON WITH BARB RIGHT TO BAR,0LEFTWARDS HARPOON WITH BARB DOWN TO B",
    "AR,0RIGHTWARDS HARPOON WITH BARB DOWN TO BAR,0UPWARDS HARPOON WITH BARB LEFT TO BAR,0DOWNWAR",
    "DS HARPOON WITH BARB LEFT TO BAR,0LEFTWARDS HARPOON WITH BARB UP FROM BAR,0RIGHTWARDS HARPOO",
    "N WITH BARB UP FROM BAR,0UPWARDS HARPOON WITH BARB RIGHT FROM BAR,0DOWNWARDS HARPOON WITH BA",
    "RB RIGHT FROM BAR,0LEFTWARDS HARPOON WITH BARB DOWN FROM BAR,0RIGHTWARDS HARPOON WITH BARB D",
    "OWN FROM BAR,0UPWARDS HARPOON WITH BARB LEFT FROM BAR,0DOWNWARDS HARPOON WITH BARB LEFT FRO",
    "M BAR,0LEFTWARDS HARPOON WITH BARB UP ABOVE LEFTWARDS HARPOON WITH BARB DOWN,0UPWARDS HARPOO",
    "N WITH BARB LEFT BESIDE UPWARDS HARPOON WITH BARB RIGHT,0RIGHTWARDS HARPOON WITH BARB UP ABO",
    "VE RIGHTWARDS HARPOON WITH BARB DOWN,0DOWNWARDS HARPOON WITH BARB LEFT BESIDE DOWNWARDS HARP",
    "OON WITH BARB RIGHT,0LEFTWARDS HARPOON WITH BARB UP ABOVE RIGHTWARDS HARPOON WITH BARB UP,4D",
    "OWN ABOVE RIGHTWARDS HARPOON WITH BARB DOWN,0RIGHTWARDS HARPOON WITH BARB UP ABOVE LEFTWARD",
    "S HARPOON WITH BARB UP,4DOWN ABOVE LEFTWARDS HARPOON WITH BARB DOWN,0LEFTWARDS HARPOON WITH ",
    "BARB UP ABOVE LONG DASH,4DOWN BELOW LONG DASH,0RIGHTWARDS HARPOON WITH BARB UP ABOVE LONG DA",
    "SH,4DOWN BELOW LONG DASH,0UPWARDS HARPOON WITH BARB LEFT BESIDE DOWNWARDS HARPOON WITH BARB ",
    "RIGHT,0DOWNWARDS HARPOON WITH BARB LEFT BESIDE UPWARDS HARPOON WITH BARB RIGHT,0RIGHT DOUBL",
    "E ARROW WITH ROUNDED HEAD,0EQUALS SIGN ABOVE RIGHTWARDS ARROW,0TILDE OPERATOR ABOVE RIGHTWAR",
    "DS ARROW,0LEFTWARDS ARROW ABOVE TILDE OPERATOR,0RIGHTWARDS ARROW ABOVE TILDE OPERATOR,3ALMOS",
    "T EQUAL TO,0LESS-THAN ABOVE LEFTWARDS ARROW,0LEFTWARDS ARROW THROUGH LESS-THAN,0GREATER-THA",
    "N ABOVE RIGHTWARDS ARROW,0SUBSET ABOVE RIGHTWARDS ARROW,0LEFTWARDS ARROW THROUGH SUBSET,0SUP",
    "ERSET ABOVE LEFTWARDS ARROW,0LEFT FISH TAIL,0RIGHT FISH TAIL,0UP FISH TAIL,0DOWN FISH TAIL,0",
    "TRIPLE VERTICAL BAR DELIMITER,0Z NOTATION SPOT,2TYPE COLON,0LEFT WHITE CURLY BRACKET,0RIGHT ",
    "WHITE CURLY BRACKET,0LEFT WHITE PARENTHESIS,0RIGHT WHITE PARENTHESIS,0Z NOTATION LEFT IMAGE ",
    "BRACKET,2RIGHT IMAGE BRACKET,2LEFT BINDING BRACKET,2RIGHT BINDING BRACKET,0LEFT SQUARE BRACK",
    "ET WITH UNDERBAR,0RIGHT SQUARE BRACKET WITH UNDERBAR,0LEFT SQUARE BRACKET WITH TICK IN TOP C",
    "ORNER,0RIGHT SQUARE BRACKET WITH TICK IN BOTTOM CORNER,0LEFT SQUARE BRACKET WITH TICK IN BOT",
    "TOM CORNER,0RIGHT SQUARE BRACKET WITH TICK IN TOP CORNER,0LEFT ANGLE BRACKET WITH DOT,0RIGH",
    "T ANGLE BRACKET WITH DOT,0LEFT ARC LESS-THAN BRACKET,0RIGHT ARC GREATER-THAN BRACKET,0DOUBL",
    "E LEFT ARC GREATER-THAN BRACKET,1RIGHT ARC LESS-THAN BRACKET,0LEFT BLACK TORTOISE SHELL BRAC",
    "KET,0RIGHT BLACK TORTOISE SHELL BRACKET,0DOTTED FENCE,0VERTICAL ZIGZAG LINE,0MEASURED ANGLE ",
    "OPENING LEFT,0RIGHT ANGLE VARIANT WITH SQUARE,0MEASURED RIGHT ANGLE WITH DOT,0ANGLE WITH S I",
    "NSIDE,0ACUTE ANGLE,0SPHERICAL ANGLE OPENING LEFT,3UP,0TURNED ANGLE,0REVERSED ANGLE,0ANGLE WI",
    "TH UNDERBAR,0REVERSED ANGLE WITH UNDERBAR,0OBLIQUE ANGLE OPENING UP,3DOWN,0MEASURED ANGLE WI",
    "TH OPEN ARM ENDING IN ARROW POINTING UP AND RIGHT,bLEFT,9DOWN AND RIGHT,bLEFT,9RIGHT AND UP,",
    "9LEFT AND UP,9RIGHT AND DOWN,9LEFT AND DOWN,0REVERSED EMPTY SET,0EMPTY SET WITH OVERBAR,3SMA",
    "LL CIRCLE ABOVE,3RIGHT ARROW ABOVE,3LEFT ARROW ABOVE,0CIRCLE WITH HORIZONTAL BAR,0CIRCLED VE",
    "RTICAL BAR,1PARALLEL,1REVERSE SOLIDUS,1PERPENDICULAR,0CIRCLE DIVIDED BY HORIZONTAL BAR AND T",
    "OP HALF DIVIDED BY VERTICAL BAR,1WITH SUPERIMPOSED X,0CIRCLED ANTICLOCKWISE-ROTATED DIVISIO",
    "N SIGN,0UP ARROW THROUGH CIRCLE,0CIRCLED WHITE BULLET,1BULLET,1LESS-THAN,1GREATER-THAN,0CIRC",
    "LE WITH SMALL CIRCLE TO THE RIGHT,2TWO HORIZONTAL STROKES TO THE RIGHT,0SQUARED RISING DIAGO",
    "NAL SLASH,1FALLING DIAGONAL SLASH,1ASTERISK,1SMALL CIRCLE,1SQUARE,0TWO JOINED SQUARES,0TRIAN",
    "GLE WITH DOT ABOVE,2UNDERBAR,0S IN TRIANGLE,0TRIANGLE WITH SERIFS AT BOTTOM,0RIGHT TRIANGLE ",
    "ABOVE LEFT TRIANGLE,0LEFT TRIANGLE BESIDE VERTICAL BAR,0VERTICAL BAR BESIDE RIGHT TRIANGLE,0",
    "BOWTIE WITH LEFT HALF BLACK,2RIGHT HALF BLACK,0BLACK BOWTIE,0TIMES WITH LEFT HALF BLACK,2RIG",
    "HT HALF BLACK,0WHITE HOURGLASS,0BLACK HOURGLASS,0LEFT WIGGLY FENCE,0RIGHT WIGGLY FENCE,0LEF",
    "T DOUBLE WIGGLY FENCE,0RIGHT DOUBLE WIGGLY FENCE,0INCOMPLETE INFINITY,0TIE OVER INFINITY,0IN",
    "FINITY NEGATED WITH VERTICAL BAR,0DOUBLE-ENDED MULTIMAP,0SQUARE WITH CONTOURED OUTLINE,0INCR",
    "EASES AS,0SHUFFLE PRODUCT,0EQUALS SIGN AND SLANTED PARALLEL,5WITH TILDE ABOVE,0IDENTICAL TO ",
    "AND SLANTED PARALLEL,0GLEICH STARK,0THERMODYNAMIC,0DOWN-POINTING TRIANGLE WITH LEFT HALF BLA",
    "CK,3RIGHT HALF BLACK,0BLACK DIAMOND WITH DOWN ARROW,1LOZENGE,0WHITE CIRCLE WITH DOWN ARROW,0",
    "BLACK CIRCLE WITH DOWN ARROW,0ERROR-BARRED WHITE SQUARE,1BLACK SQUARE,1WHITE DIAMOND,1BLACK ",
    "DIAMOND,1WHITE CIRCLE,1BLACK CIRCLE,0RULE-DELAYED,0REVERSE SOLIDUS OPERATOR,0SOLIDUS WITH OV",
    "ERBAR,0REVERSE SOLIDUS WITH HORIZONTAL STROKE,0BIG SOLIDUS,1REVERSE SOLIDUS,0DOUBLE PLUS,0TR",
    "IPLE PLUS,0LEFT-POINTING CURVED ANGLE BRACKET,0RIGHT-POINTING CURVED ANGLE BRACKET,0TINY,0MI",
    "NY,0N-ARY CIRCLED DOT OPERATOR,2PLUS OPERATOR,2TIMES OPERATOR,1UNION OPERATOR WITH DOT,4PLUS",
    ",1SQUARE INTERSECTION OPERATOR,2UNION OPERATOR,0TWO LOGICAL AND OPERATOR,2OR OPERATOR,0N-AR",
    "Y TIMES OPERATOR,0MODULO TWO SUM,0SUMMATION WITH INTEGRAL,0QUADRUPLE INTEGRAL OPERATOR,0FINI",
    "TE PART INTEGRAL,0INTEGRAL WITH DOUBLE STROKE,1AVERAGE WITH SLASH,0CIRCULATION FUNCTION,0ANT",
    "ICLOCKWISE INTEGRATION,0LINE INTEGRATION WITH RECTANGULAR PATH AROUND POLE,3SEMICIRCULAR PAT",
    "H AROUND POLE,2NOT INCLUDING THE POLE,0INTEGRAL AROUND A POINT OPERATOR,0QUATERNION INTEGRA",
    "L OPERATOR,0INTEGRAL WITH LEFTWARDS ARROW WITH HOOK,2TIMES SIGN,2INTERSECTION,2UNION,2OVERBA",
    "R,2UNDERBAR,0JOIN,0LARGE LEFT TRIANGLE OPERATOR,0Z NOTATION SCHEMA COMPOSITION,3PIPING,3PROJ",
    "ECTION,0PLUS SIGN WITH SMALL CIRCLE ABOVE,3CIRCUMFLEX ACCENT ABOVE,3TILDE ABOVE,3DOT BELOW,3",
    "TILDE BELOW,3SUBSCRIPT TWO,3BLACK TRIANGLE,0MINUS SIGN WITH COMMA ABOVE,3DOT BELOW,3FALLING ",
    "DOTS,3RISING DOTS,0PLUS SIGN IN LEFT HALF CIRCLE,3RIGHT HALF CIRCLE,0VECTOR OR CROSS PRODUCT",
    ",0MULTIPLICATION SIGN WITH DOT ABOVE,3UNDERBAR,0SEMIDIRECT PRODUCT WITH BOTTOM CLOSED,0SMAS",
    "H PRODUCT,0MULTIPLICATION SIGN IN LEFT HALF CIRCLE,3RIGHT HALF CIRCLE,0CIRCLED MULTIPLICATIO",
    "N SIGN WITH CIRCUMFLEX ACCENT,0MULTIPLICATION SIGN IN DOUBLE CIRCLE,0CIRCLED DIVISION SIGN,0",
    "PLUS SIGN IN TRIANGLE,0MINUS SIGN IN TRIANGLE,0MULTIPLICATION SIGN IN TRIANGLE,0INTERIOR PRO",
    "DUCT,0RIGHTHAND INTERIOR PRODUCT,0Z NOTATION RELATIONAL COMPOSITION,0AMALGAMATION OR COPRODU",
    "CT,0INTERSECTION WITH DOT,0UNION WITH MINUS SIGN,2OVERBAR,0INTERSECTION WITH OVERBAR,2LOGICA",
    "L AND,0UNION WITH LOGICAL OR,1ABOVE INTERSECTION,0INTERSECTION ABOVE UNION,0UNION ABOVE BAR ",
    "ABOVE INTERSECTION,0INTERSECTION ABOVE BAR ABOVE UNION,0UNION BESIDE AND JOINED WITH UNION,0",
    "INTERSECTION BESIDE AND JOINED WITH INTERSECTION,0CLOSED UNION WITH SERIFS,1INTERSECTION WIT",
    "H SERIFS,0DOUBLE SQUARE INTERSECTION,2UNION,0CLOSED UNION WITH SERIFS AND SMASH PRODUCT,0LOG",
    "ICAL AND WITH DOT ABOVE,1OR WITH DOT ABOVE,0DOUBLE LOGICAL AND,2OR,0TWO INTERSECTING LOGICA",
    "L AND,3OR,0SLOPING LARGE OR,2AND,0LOGICAL OR OVERLAPPING LOGICAL AND,1AND WITH MIDDLE STEM,1",
    "OR WITH MIDDLE STEM,1AND WITH HORIZONTAL DASH,1OR WITH HORIZONTAL DASH,1AND WITH DOUBLE OVER",
    "BAR,3UNDERBAR,3DOUBLE UNDERBAR,0SMALL VEE WITH UNDERBAR,0LOGICAL OR WITH DOUBLE OVERBAR,4UND",
    "ERBAR,0Z NOTATION DOMAIN ANTIRESTRICTION,2RANGE ANTIRESTRICTION,0EQUALS SIGN WITH DOT BELOW,",
    "0IDENTICAL WITH DOT ABOVE,0TRIPLE HORIZONTAL BAR WITH DOUBLE VERTICAL STROKE,4TRIPLE VERTICA",
    "L STROKE,0TILDE OPERATOR WITH DOT ABOVE,3RISING DOTS,0SIMILAR MINUS SIMILAR,0CONGRUENT WITH ",
    "DOT ABOVE,0EQUALS WITH ASTERISK,0ALMOST EQUAL TO WITH CIRCUMFLEX ACCENT,0APPROXIMATELY EQUA",
    "L OR EQUAL TO,0EQUALS SIGN ABOVE PLUS SIGN,0PLUS SIGN ABOVE EQUALS SIGN,0EQUALS SIGN ABOVE T",
    "ILDE OPERATOR,0DOUBLE COLON EQUAL,0TWO CONSECUTIVE EQUALS SIGNS,0THREE CONSECUTIVE EQUALS SI",
    "GNS,0EQUALS SIGN WITH TWO DOTS ABOVE AND TWO DOTS BELOW,0EQUIVALENT WITH FOUR DOTS ABOVE,0LE",
    "SS-THAN WITH CIRCLE INSIDE,0GREATER-THAN WITH CIRCLE INSIDE,0LESS-THAN WITH QUESTION MARK AB",
    "OVE,0GREATER-THAN WITH QUESTION MARK ABOVE,0LESS-THAN OR SLANTED EQUAL TO,0GREATER-THAN OR S",
    "LANTED EQUAL TO,0LESS-THAN OR SLANTED EQUAL TO WITH DOT INSIDE,0GREATER-THAN OR SLANTED EQUA",
    "L TO WITH DOT INSIDE,0LESS-THAN OR SLANTED EQUAL TO WITH DOT ABOVE,0GREATER-THAN OR SLANTED ",
    "EQUAL TO WITH DOT ABOVE,0LESS-THAN OR SLANTED EQUAL TO WITH DOT ABOVE RIGHT,0GREATER-THAN O",
    "R SLANTED EQUAL TO WITH DOT ABOVE LEFT,0LESS-THAN OR APPROXIMATE,0GREATER-THAN OR APPROXIMAT",
    "E,0LESS-THAN AND SINGLE-LINE NOT EQUAL TO,0GREATER-THAN AND SINGLE-LINE NOT EQUAL TO,0LESS-T",
    "HAN AND NOT APPROXIMATE,0GREATER-THAN AND NOT APPROXIMATE,0LESS-THAN ABOVE DOUBLE-LINE EQUA",
    "L ABOVE GREATER-THAN,0GREATER-THAN ABOVE DOUBLE-LINE EQUAL ABOVE LESS-THAN,0LESS-THAN ABOVE ",
    "SIMILAR OR EQUAL,0GREATER-THAN ABOVE SIMILAR OR EQUAL,0LESS-THAN ABOVE SIMILAR ABOVE GREATER",
    "-THAN,0GREATER-THAN ABOVE SIMILAR ABOVE LESS-THAN,0LESS-THAN ABOVE GREATER-THAN ABOVE DOUBLE",
    "-LINE EQUAL,0GREATER-THAN ABOVE LESS-THAN ABOVE DOUBLE-LINE EQUAL,0LESS-THAN ABOVE SLANTED E",
    "QUAL ABOVE GREATER-THAN ABOVE SLANTED EQUAL,0GREATER-THAN ABOVE SLANTED EQUAL ABOVE LESS-THA",
    "N ABOVE SLANTED EQUAL,0SLANTED EQUAL TO OR LESS-THAN,4GREATER-THAN,4LESS-THAN WITH DOT INSID",
    "E,4GREATER-THAN WITH DOT INSIDE,0DOUBLE-LINE EQUAL TO OR LESS-THAN,4GREATER-THAN,1SLANTED EQ",
    "UAL TO OR LESS-THAN,5GREATER-THAN,0SIMILAR OR LESS-THAN,2GREATER-THAN,1ABOVE LESS-THAN ABOV",
    "E EQUALS SIGN,2GREATER-THAN ABOVE EQUALS SIGN,0DOUBLE NESTED LESS-THAN,2GREATER-THAN,2LESS-T",
    "HAN WITH UNDERBAR,0GREATER-THAN OVERLAPPING LESS-THAN,1BESIDE LESS-THAN,0LESS-THAN CLOSED B",
    "Y CURVE,0GREATER-THAN CLOSED BY CURVE,0LESS-THAN CLOSED BY CURVE ABOVE SLANTED EQUAL,0GREATE",
    "R-THAN CLOSED BY CURVE ABOVE SLANTED EQUAL,0SMALLER THAN,0LARGER THAN,0SMALLER THAN OR EQUA",
    "L TO,0LARGER THAN OR EQUAL TO,0EQUALS SIGN WITH BUMPY ABOVE,0PRECEDES ABOVE SINGLE-LINE EQUA",
    "LS SIGN,0SUCCEEDS ABOVE SINGLE-LINE EQUALS SIGN,0PRECEDES ABOVE SINGLE-LINE NOT EQUAL TO,0SU",
    "CCEEDS ABOVE SINGLE-LINE NOT EQUAL TO,0PRECEDES ABOVE EQUALS SIGN,0SUCCEEDS ABOVE EQUALS SIG",
    "N,0PRECEDES ABOVE NOT EQUAL TO,0SUCCEEDS ABOVE NOT EQUAL TO,0PRECEDES ABOVE ALMOST EQUAL TO,",
    "0SUCCEEDS ABOVE ALMOST EQUAL TO,0PRECEDES ABOVE NOT ALMOST EQUAL TO,0SUCCEEDS ABOVE NOT ALMO",
    "ST EQUAL TO,0DOUBLE PRECEDES,1SUCCEEDS,0SUBSET WITH DOT,0SUPERSET WITH DOT,0SUBSET WITH PLU",
    "S SIGN BELOW,0SUPERSET WITH PLUS SIGN BELOW,0SUBSET WITH MULTIPLICATION SIGN BELOW,0SUPERSE",
    "T WITH MULTIPLICATION SIGN BELOW,0SUBSET OF OR EQUAL TO WITH DOT ABOVE,0SUPERSET OF OR EQUA",
    "L TO WITH DOT ABOVE,0SUBSET OF ABOVE EQUALS SIGN,0SUPERSET OF ABOVE EQUALS SIGN,0SUBSET OF A",
    "BOVE TILDE OPERATOR,0SUPERSET OF ABOVE TILDE OPERATOR,0SUBSET OF ABOVE ALMOST EQUAL TO,0SUPE",
    "RSET OF ABOVE ALMOST EQUAL TO,0SUBSET OF ABOVE NOT EQUAL TO,0SUPERSET OF ABOVE NOT EQUAL TO,",
    "0SQUARE LEFT OPEN BOX OPERATOR,1RIGHT OPEN BOX OPERATOR,0CLOSED SUBSET,1SUPERSET,1SUBSET OR ",
    "EQUAL TO,1SUPERSET OR EQUAL TO,0SUBSET ABOVE SUPERSET,0SUPERSET ABOVE SUBSET,0SUBSET ABOVE S",
    "UBSET,0SUPERSET ABOVE SUPERSET,1BESIDE SUBSET,2AND JOINED BY DASH WITH SUBSET,0ELEMENT OF OP",
    "ENING DOWNWARDS,0PITCHFORK WITH TEE TOP,0TRANSVERSAL INTERSECTION,0FORKING,0NONFORKING,0SHOR",
    "T LEFT TACK,1DOWN TACK,1UP TACK,0PERPENDICULAR WITH S,0VERTICAL BAR TRIPLE RIGHT TURNSTILE,0",
    "DOUBLE VERTICAL BAR LEFT TURNSTILE,0VERTICAL BAR DOUBLE LEFT TURNSTILE,0DOUBLE VERTICAL BAR ",
    "DOUBLE LEFT TURNSTILE,0LONG DASH FROM LEFT MEMBER OF DOUBLE VERTICAL,0SHORT DOWN TACK WITH O",
    "VERBAR,1UP TACK WITH UNDERBAR,3ABOVE SHORT DOWN TACK,0DOUBLE DOWN TACK,1UP TACK,1STROKE NOT ",
    "SIGN,0REVERSED DOUBLE STROKE NOT SIGN,0DOES NOT DIVIDE WITH REVERSED NEGATION SLASH,0VERTICA",
    "L LINE WITH CIRCLE ABOVE,4BELOW,0DOWN TACK WITH CIRCLE BELOW,0PARALLEL WITH HORIZONTAL STROK",
    "E,2TILDE OPERATOR,0TRIPLE VERTICAL BAR BINARY RELATION,3WITH HORIZONTAL STROKE,1COLON OPERAT",
    "OR,1NESTED LESS-THAN,2GREATER-THAN,0DOUBLE-LINE SLANTED LESS-THAN OR EQUAL TO,2GREATER-THAN ",
    "OR EQUAL TO,0TRIPLE SOLIDUS BINARY RELATION,0LARGE TRIPLE VERTICAL BAR OPERATOR,0DOUBLE SOLI",
    "DUS OPERATOR,0WHITE VERTICAL BAR,0N-ARY WHITE VERTICAL BAR,0NORTH EAST WHITE ARROW,1WEST WHI",
    "TE ARROW,0SOUTH EAST WHITE ARROW,1WEST WHITE ARROW,0LEFT RIGHT WHITE ARROW,0LEFTWARDS BLACK ",
    "ARROW,0UPWARDS BLACK ARROW,0DOWNWARDS BLACK ARROW,0NORTH EAST BLACK ARROW,1WEST BLACK ARROW,",
    "0SOUTH EAST BLACK ARROW,1WEST BLACK ARROW,0LEFT RIGHT BLACK ARROW,0UP DOWN BLACK ARROW,0RIGH",
    "TWARDS ARROW WITH TIP DOWNWARDS,4UPWARDS,0LEFTWARDS ARROW WITH TIP DOWNWARDS,4UPWARDS,0SQUAR",
    "E WITH TOP HALF BLACK,2BOTTOM HALF BLACK,2UPPER RIGHT DIAGONAL HALF BLACK,2LOWER LEFT DIAGON",
    "AL HALF BLACK,0DIAMOND WITH LEFT HALF BLACK,2RIGHT HALF BLACK,2TOP HALF BLACK,2BOTTOM HALF B",
    "LACK,0DOTTED SQUARE,0BLACK LARGE SQUARE,0WHITE LARGE SQUARE,0BLACK VERY SMALL SQUARE,0WHITE ",
    "VERY SMALL SQUARE,0BLACK PENTAGON,0WHITE PENTAGON,1HEXAGON,0BLACK HEXAGON,0HORIZONTAL BLACK ",
    "HEXAGON,0BLACK LARGE CIRCLE,1MEDIUM DIAMOND,0WHITE MEDIUM DIAMOND,0BLACK MEDIUM LOZENGE,0WHI",
    "TE MEDIUM LOZENGE,0BLACK SMALL DIAMOND,2LOZENGE,0WHITE SMALL LOZENGE,0BLACK HORIZONTAL ELLIP",
    "SE,0WHITE HORIZONTAL ELLIPSE,0BLACK VERTICAL ELLIPSE,0WHITE VERTICAL ELLIPSE,0LEFT ARROW WIT",
    "H SMALL CIRCLE,0THREE LEFTWARDS ARROWS,0LEFT ARROW WITH CIRCLED PLUS,0LONG LEFTWARDS SQUIGGL",
    "E ARROW,0LEFTWARDS TWO-HEADED ARROW WITH VERTICAL STROKE,4DOUBLE VERTICAL STROKE,3FROM BAR,2",
    "TRIPLE DASH ARROW,1ARROW WITH DOTTED STEM,3TAIL WITH VERTICAL STROKE,5DOUBLE VERTICAL STROKE",
    ",1TWO-HEADED ARROW WITH TAIL,5WITH VERTICAL STROKE,6DOUBLE VERTICAL STROKE,1ARROW THROUGH X,",
    "0WAVE ARROW POINTING DIRECTLY LEFT,0EQUALS SIGN ABOVE LEFTWARDS ARROW,0REVERSE TILDE OPERATO",
    "R ABOVE LEFTWARDS ARROW,0LEFTWARDS ARROW ABOVE REVERSE ALMOST EQUAL TO,0RIGHTWARDS ARROW THR",
    "OUGH GREATER-THAN,3SUPERSET,0LEFTWARDS QUADRUPLE ARROW,0RIGHTWARDS QUADRUPLE ARROW,0REVERSE ",
    "TILDE OPERATOR ABOVE RIGHTWARDS ARROW,0RIGHTWARDS ARROW ABOVE REVERSE ALMOST EQUAL TO,0TILD",
    "E OPERATOR ABOVE LEFTWARDS ARROW,0LEFTWARDS ARROW ABOVE ALMOST EQUAL TO,3REVERSE TILDE OPERA",
    "TOR,0RIGHTWARDS ARROW ABOVE REVERSE TILDE OPERATOR,0DOWNWARDS TRIANGLE-HEADED ZIGZAG ARROW,0",
    "SHORT SLANTED NORTH ARROW,1BACKSLANTED SOUTH ARROW,0WHITE MEDIUM STAR,0BLACK SMALL STAR,0WHI",
    "TE SMALL STAR,0BLACK RIGHT-POINTING PENTAGON,0WHITE RIGHT-POINTING PENTAGON,0HEAVY LARGE CIR",
    "CLE,1OVAL WITH OVAL INSIDE,1CIRCLE WITH CIRCLE INSIDE,2,1CIRCLED SALTIRE,0SLANTED NORTH ARRO",
    "W WITH HOOKED HEAD,0BACKSLANTED SOUTH ARROW WITH HOOKED TAIL,0SLANTED NORTH ARROW WITH HORIZ",
    "ONTAL TAIL,0BACKSLANTED SOUTH ARROW WITH HORIZONTAL TAIL,0BENT ARROW POINTING DOWNWARDS THE",
    "N NORTH EAST,0SHORT BENT ARROW POINTING DOWNWARDS THEN NORTH EAST,0LEFTWARDS TRIANGLE-HEADE",
    "D ARROW,0UPWARDS TRIANGLE-HEADED ARROW,0RIGHTWARDS TRIANGLE-HEADED ARROW,0DOWNWARDS TRIANGLE",
    "-HEADED ARROW,0LEFT RIGHT TRIANGLE-HEADED ARROW,0UP DOWN TRIANGLE-HEADED ARROW,0NORTH WEST T",
    "RIANGLE-HEADED ARROW,1EAST TRIANGLE-HEADED ARROW,0SOUTH EAST TRIANGLE-HEADED ARROW,1WEST TRI",
    "ANGLE-HEADED ARROW,0LEFTWARDS TRIANGLE-HEADED DASHED ARROW,0UPWARDS TRIANGLE-HEADED DASHED A",
    "RROW,0RIGHTWARDS TRIANGLE-HEADED DASHED ARROW,0DOWNWARDS TRIANGLE-HEADED DASHED ARROW,0CLOCK",
    "WISE TRIANGLE-HEADED OPEN CIRCLE ARROW,0ANTICLOCKWISE TRIANGLE-HEADED OPEN CIRCLE ARROW,0LEF",
    "TWARDS TRIANGLE-HEADED ARROW TO BAR,0UPWARDS TRIANGLE-HEADED ARROW TO BAR,0RIGHTWARDS TRIANG",
    "LE-HEADED ARROW TO BAR,0DOWNWARDS TRIANGLE-HEADED ARROW TO BAR,=2b76 0NORTH WEST TRIANGLE-HE",
    "ADED ARROW TO BAR,1EAST TRIANGLE-HEADED ARROW TO BAR,0SOUTH EAST TRIANGLE-HEADED ARROW TO BA",
    "R,1WEST TRIANGLE-HEADED ARROW TO BAR,0LEFTWARDS TRIANGLE-HEADED ARROW WITH DOUBLE HORIZONTA",
    "L STROKE,=2b7a 5VERTICAL STROKE,0UPWARDS TRIANGLE-HEADED ARROW WITH DOUBLE HORIZONTAL STROKE",
    ",0RIGHTWARDS TRIANGLE-HEADED ARROW WITH DOUBLE HORIZONTAL STROKE,=2b7c 5VERTICAL STROKE,0DOW",
    "NWARDS TRIANGLE-HEADED ARROW WITH DOUBLE HORIZONTAL STROKE,0HORIZONTAL TAB KEY,0VERTICAL TA",
    "B KEY,0LEFTWARDS TRIANGLE-HEADED ARROW OVER RIGHTWARDS TRIANGLE-HEADED ARROW,0UPWARDS TRIANG",
    "LE-HEADED ARROW LEFTWARDS OF DOWNWARDS TRIANGLE-HEADED ARROW,0RIGHTWARDS TRIANGLE-HEADED ARR",
    "OW OVER LEFTWARDS TRIANGLE-HEADED ARROW,0DOWNWARDS TRIANGLE-HEADED ARROW LEFTWARDS OF UPWARD",
    "S TRIANGLE-HEADED ARROW,0LEFTWARDS TRIANGLE-HEADED PAIRED ARROWS,0UPWARDS TRIANGLE-HEADED PA",
    "IRED ARROWS,0RIGHTWARDS TRIANGLE-HEADED PAIRED ARROWS,0DOWNWARDS TRIANGLE-HEADED PAIRED ARRO",
    "WS,0LEFTWARDS BLACK CIRCLED WHITE ARROW,0UPWARDS BLACK CIRCLED WHITE ARROW,0RIGHTWARDS BLAC",
    "K CIRCLED WHITE ARROW,0DOWNWARDS BLACK CIRCLED WHITE ARROW,0ANTICLOCKWISE TRIANGLE-HEADED RI",
    "GHT U-SHAPED ARROW,2BOTTOM U-SHAPED ARROW,2LEFT U-SHAPED ARROW,2TOP U-SHAPED ARROW,0RETURN L",
    "EFT,1RIGHT,0NEWLINE LEFT,1RIGHT,0FOUR CORNER ARROWS CIRCLING ANTICLOCKWISE,0RIGHTWARDS BLAC",
    "K ARROW,=2b97 0SYMBOL FOR TYPE A ELECTRONICS,0THREE-D TOP-LIGHTED LEFTWARDS EQUILATERAL ARRO",
    "WHEAD,1RIGHT-LIGHTED UPWARDS EQUILATERAL ARROWHEAD,1TOP-LIGHTED RIGHTWARDS EQUILATERAL ARROW",
    "HEAD,1LEFT-LIGHTED DOWNWARDS EQUILATERAL ARROWHEAD,0BLACK LEFTWARDS EQUILATERAL ARROWHEAD,1U",
    "PWARDS EQUILATERAL ARROWHEAD,1RIGHTWARDS EQUILATERAL ARROWHEAD,1DOWNWARDS EQUILATERAL ARROWH",
    "EAD,0DOWNWARDS TRIANGLE-HEADED ARROW WITH LONG TIP LEFTWARDS,6RIGHTWARDS,0UPWARDS TRIANGLE-H",
    "EADED ARROW WITH LONG TIP LEFTWARDS,6RIGHTWARDS,0LEFTWARDS TRIANGLE-HEADED ARROW WITH LONG T",
    "IP UPWARDS,0RIGHTWARDS TRIANGLE-HEADED ARROW WITH LONG TIP UPWARDS,0LEFTWARDS TRIANGLE-HEADE",
    "D ARROW WITH LONG TIP DOWNWARDS,0RIGHTWARDS TRIANGLE-HEADED ARROW WITH LONG TIP DOWNWARDS,0B",
    "LACK CURVED DOWNWARDS AND LEFTWARDS ARROW,4RIGHTWARDS ARROW,2UPWARDS AND LEFTWARDS ARROW,4RI",
    "GHTWARDS ARROW,2LEFTWARDS AND UPWARDS ARROW,2RIGHTWARDS AND UPWARDS ARROW,2LEFTWARDS AND DOW",
    "NWARDS ARROW,2RIGHTWARDS AND DOWNWARDS ARROW,0RIBBON ARROW DOWN LEFT,3RIGHT,2UP LEFT,3RIGHT,",
    "2LEFT UP,2RIGHT UP,2LEFT DOWN,2RIGHT DOWN,0UPWARDS WHITE ARROW FROM BAR WITH HORIZONTAL BAR,",
    "0UP ARROWHEAD IN A RECTANGLE BOX,0OVERLAPPING WHITE SQUARES,2AND BLACK SQUARES,1BLACK SQUARE",
    "S,0BALLOT BOX WITH LIGHT X,0CIRCLED X,1BOLD X,0BLACK SQUARE CENTRED,1DIAMOND CENTRED,0TURNE",
    "D BLACK PENTAGON,0HORIZONTAL BLACK OCTAGON,0BLACK OCTAGON,1MEDIUM UP-POINTING TRIANGLE CENTR",
    "ED,2DOWN-POINTING TRIANGLE CENTRED,2LEFT-POINTING TRIANGLE CENTRED,2RIGHT-POINTING TRIANGLE ",
    "CENTRED,0NEPTUNE FORM TWO,0TOP HALF BLACK CIRCLE,0BOTTOM HALF BLACK CIRCLE,0LIGHT FOUR POINT",
    "ED BLACK CUSP,0ROTATED LIGHT FOUR POINTED BLACK CUSP,0WHITE FOUR POINTED CUSP,0ROTATED WHIT",
    "E FOUR POINTED CUSP,0SQUARE POSITION INDICATOR,0UNCERTAINTY SIGN,0GROUP MARK,0PLUTO FORM TWO",
    ",2THREE,2FOUR,2FIVE,0TRANSPLUTO,0PROSERPINA,0ASTRAEA,0HYGIEA,0PHOLUS,0NESSUS,0WHITE MOON SEL",
    "ENA,0BLACK DIAMOND ON CROSS,0TRUE LIGHT MOON ARTA,0CUPIDO,0HADES,0ZEUS,0KRONOS,0APOLLON,0ADM",
    "ETOS,0VULCANUS,0POSEIDON,0LEFT HALF BLACK STAR,0RIGHT HALF BLACK STAR,0STAR WITH LEFT HALF B",
    "LACK,2RIGHT HALF BLACK,0LEFTWARDS TWO-HEADED ARROW WITH TRIANGLE ARROWHEADS,0UPWARDS TWO-HEA",
    "DED ARROW WITH TRIANGLE ARROWHEADS,0RIGHTWARDS TWO-HEADED ARROW WITH TRIANGLE ARROWHEADS,0DO",
    "WNWARDS TWO-HEADED ARROW WITH TRIANGLE ARROWHEADS,0ERIS FORM ONE,2TWO,0SEDNA,0RUSSIAN ASTROL",
    "OGICAL SYMBOL VIGINTILE,3NOVILE,3QUINTILE,3BINOVILE,3SENTAGON,3TREDECILE,0EQUALS SIGN WITH I",
    "NFINITY BELOW,0UNITED SYMBOL,0SEPARATED SYMBOL,0DOUBLED SYMBOL,0PASSED SYMBOL,0REVERSED RIGH",
    "T ANGLE,0HELLSCHREIBER PAUSE SYMBOL,0GLAGOLITIC CAPITAL LETTER AZU,3BUKY,3VEDE,3GLAGOLI,3DOB",
    "RO,3YESTU,3ZHIVETE,3DZELO,3ZEMLJA,3IZHE,3INITIAL IZHE,3I,3DJERVI,3KAKO,3LJUDIJE,3MYSLITE,3NA",
    "SHI,3ONU,3POKOJI,3RITSI,3SLOVO,3TVRIDO,3UKU,3FRITU,3HERU,3OTU,3PE,3SHTA,3TSI,3CHRIVI,3SHA,3Y",
    "ERU,3YERI,3YATI,3SPIDERY HA,3YU,3SMALL YUS,5WITH TAIL,3YO,3IOTATED SMALL YUS,3BIG YUS,3IOTAT",
    "ED BIG YUS,3FITA,3IZHITSA,3SHTAPIC,3TROKUTASTI A,3LATINATE MYSLITE,3CAUDATE CHRIVI,1SMALL LE",
    "TTER AZU,3BUKY,3VEDE,3GLAGOLI,3DOBRO,3YESTU,3ZHIVETE,3DZELO,3ZEMLJA,3IZHE,3INITIAL IZHE,3I,3",
    "DJERVI,3KAKO,3LJUDIJE,3MYSLITE,3NASHI,3ONU,3POKOJI,3RITSI,3SLOVO,3TVRIDO,3UKU,3FRITU,3HERU,3",
    "OTU,3PE,3SHTA,3TSI,3CHRIVI,3SHA,3YERU,3YERI,3YATI,3SPIDERY HA,3YU,3SMALL YUS,5WITH TAIL,3YO,",
    "3IOTATED SMALL YUS,3BIG YUS,3IOTATED BIG YUS,3FITA,3IZHITSA,3SHTAPIC,3TROKUTASTI A,3LATINAT",
    "E MYSLITE,3CAUDATE CHRIVI,0LATIN CAPITAL LETTER L WITH DOUBLE BAR,1SMALL LETTER L WITH DOUBL",
    "E BAR,1CAPITAL LETTER L WITH MIDDLE TILDE,3P WITH STROKE,3R WITH TAIL,1SMALL LETTER A WITH S",
    "TROKE,3T WITH DIAGONAL STROKE,1CAPITAL LETTER H WITH DESCENDER,1SMALL LETTER H WITH DESCENDE",
    "R,1CAPITAL LETTER K WITH DESCENDER,1SMALL LETTER K WITH DESCENDER,1CAPITAL LETTER Z WITH DES",
    "CENDER,1SMALL LETTER Z WITH DESCENDER,1CAPITAL LETTER ALPHA,3M WITH HOOK,3TURNED A,4ALPHA,1S",
    "MALL LETTER V WITH RIGHT HOOK,1CAPITAL LETTER W WITH HOOK,1SMALL LETTER W WITH HOOK,3V WITH ",
    "CURL,1CAPITAL LETTER HALF H,1SMALL LETTER HALF H,3TAILLESS PHI,3E WITH NOTCH,3TURNED R WITH ",
    "TAIL,3O WITH LOW RING INSIDE,1LETTER SMALL CAPITAL TURNED E,1SUBSCRIPT SMALL LETTER J,0MODIF",
    "IER LETTER CAPITAL V,0LATIN CAPITAL LETTER S WITH SWASH TAIL,3Z WITH SWASH TAIL,0COPTIC CAPI",
    "TAL LETTER ALFA,1SMALL LETTER ALFA,1CAPITAL LETTER VIDA,1SMALL LETTER VIDA,1CAPITAL LETTER G",
    "AMMA,1SMALL LETTER GAMMA,1CAPITAL LETTER DALDA,1SMALL LETTER DALDA,1CAPITAL LETTER EIE,1SMAL",
    "L LETTER EIE,1CAPITAL LETTER SOU,1SMALL LETTER SOU,1CAPITAL LETTER ZATA,1SMALL LETTER ZATA,1",
    "CAPITAL LETTER HATE,1SMALL LETTER HATE,1CAPITAL LETTER THETHE,1SMALL LETTER THETHE,1CAPITAL ",
    "LETTER IAUDA,1SMALL LETTER IAUDA,1CAPITAL LETTER KAPA,1SMALL LETTER KAPA,1CAPITAL LETTER LAU",
    "LA,1SMALL LETTER LAULA,1CAPITAL LETTER MI,1SMALL LETTER MI,1CAPITAL LETTER NI,1SMALL LETTER ",
    "NI,1CAPITAL LETTER KSI,1SMALL LETTER KSI,1CAPITAL LETTER O,1SMALL LETTER O,1CAPITAL LETTER P",
    "I,1SMALL LETTER PI,1CAPITAL LETTER RO,1SMALL LETTER RO,1CAPITAL LETTER SIMA,1SMALL LETTER SI",
    "MA,1CAPITAL LETTER TAU,1SMALL LETTER TAU,1CAPITAL LETTER UA,1SMALL LETTER UA,1CAPITAL LETTE",
    "R FI,1SMALL LETTER FI,1CAPITAL LETTER KHI,1SMALL LETTER KHI,1CAPITAL LETTER PSI,1SMALL LETTE",
    "R PSI,1CAPITAL LETTER OOU,1SMALL LETTER OOU,1CAPITAL LETTER DIALECT-P ALEF,1SMALL LETTER DIA",
    "LECT-P ALEF,1CAPITAL LETTER OLD COPTIC AIN,1SMALL LETTER OLD COPTIC AIN,1CAPITAL LETTER CRYP",
    "TOGRAMMIC EIE,1SMALL LETTER CRYPTOGRAMMIC EIE,1CAPITAL LETTER DIALECT-P KAPA,1SMALL LETTER D",
    "IALECT-P KAPA,1CAPITAL LETTER DIALECT-P NI,1SMALL LETTER DIALECT-P NI,1CAPITAL LETTER CRYPTO",
    "GRAMMIC NI,1SMALL LETTER CRYPTOGRAMMIC NI,1CAPITAL LETTER OLD COPTIC OOU,1SMALL LETTER OLD C",
    "OPTIC OOU,1CAPITAL LETTER SAMPI,1SMALL LETTER SAMPI,1CAPITAL LETTER CROSSED SHEI,1SMALL LETT",
    "ER CROSSED SHEI,1CAPITAL LETTER OLD COPTIC SHEI,1SMALL LETTER OLD COPTIC SHEI,1CAPITAL LETTE",
    "R OLD COPTIC ESH,1SMALL LETTER OLD COPTIC ESH,1CAPITAL LETTER AKHMIMIC KHEI,1SMALL LETTER AK",
    "HMIMIC KHEI,1CAPITAL LETTER DIALECT-P HORI,1SMALL LETTER DIALECT-P HORI,1CAPITAL LETTER OLD ",
    "COPTIC HORI,1SMALL LETTER OLD COPTIC HORI,1CAPITAL LETTER OLD COPTIC HA,1SMALL LETTER OLD CO",
    "PTIC HA,1CAPITAL LETTER L-SHAPED HA,1SMALL LETTER L-SHAPED HA,1CAPITAL LETTER OLD COPTIC HEI",
    ",1SMALL LETTER OLD COPTIC HEI,1CAPITAL LETTER OLD COPTIC HAT,1SMALL LETTER OLD COPTIC HAT,1C",
    "APITAL LETTER OLD COPTIC GANGIA,1SMALL LETTER OLD COPTIC GANGIA,1CAPITAL LETTER OLD COPTIC D",
    "JA,1SMALL LETTER OLD COPTIC DJA,1CAPITAL LETTER OLD COPTIC SHIMA,1SMALL LETTER OLD COPTIC SH",
    "IMA,1CAPITAL LETTER OLD NUBIAN SHIMA,1SMALL LETTER OLD NUBIAN SHIMA,1CAPITAL LETTER OLD NUBI",
    "AN NGI,1SMALL LETTER OLD NUBIAN NGI,1CAPITAL LETTER OLD NUBIAN NYI,1SMALL LETTER OLD NUBIAN ",
    "NYI,1CAPITAL LETTER OLD NUBIAN WAU,1SMALL LETTER OLD NUBIAN WAU,1SYMBOL KAI,2MI RO,2PI RO,2S",
    "TAUROS,2TAU RO,2KHI RO,2SHIMA SIMA,1CAPITAL LETTER CRYPTOGRAMMIC SHEI,1SMALL LETTER CRYPTOGR",
    "AMMIC SHEI,1CAPITAL LETTER CRYPTOGRAMMIC GANGIA,1SMALL LETTER CRYPTOGRAMMIC GANGIA,1COMBININ",
    "G NI ABOVE,2SPIRITUS ASPER,3LENIS,1CAPITAL LETTER BOHAIRIC KHEI,1SMALL LETTER BOHAIRIC KHEI,",
    "=2cf9 1OLD NUBIAN FULL STOP,3DIRECT QUESTION MARK,3INDIRECT QUESTION MARK,3VERSE DIVIDER,1FR",
    "ACTION ONE HALF,1FULL STOP,1MORPHOLOGICAL DIVIDER,0GEORGIAN SMALL LETTER AN,3BAN,3GAN,3DON,3",
    "EN,3VIN,3ZEN,3TAN,3IN,3KAN,3LAS,3MAN,3NAR,3ON,3PAR,3ZHAR,3RAE,3SAN,3TAR,3UN,3PHAR,3KHAR,3GHA",
    "N,3QAR,3SHIN,3CHIN,3CAN,3JIL,3CIL,3CHAR,3XAN,3JHAN,3HAE,3HE,3HIE,3WE,3HAR,3HOE,=2d27 3YN,=2d",
    "2d 3AEN,=2d30 0TIFINAGH LETTER YA,2YAB,2YABH,2YAG,2YAGHH,2BERBER ACADEMY YAJ,2YAJ,2YAD,2YADH",
    ",2YADD,2YADDH,2YEY,2YAF,2YAK,2TUAREG YAK,2YAKHH,2YAH,2BERBER ACADEMY YAH,2TUAREG YAH,2YAHH,2",
    "YAA,2YAKH,2TUAREG YAKH,2YAQ,2TUAREG YAQ,2YI,2YAZH,2AHAGGAR YAZH,2TUAREG YAZH,2YAL,2YAM,2YAN,",
    "2TUAREG YAGN,3YANG,2YAP,2YU,2YAR,2YARR,2YAGH,2TUAREG YAGH,2AYER YAGH,2YAS,2YASS,2YASH,2YAT,2",
    "YATH,2YACH,2YATT,2YAV,2YAW,2YAY,2YAZ,2TAWELLEMET YAZ,2YAZZ,2YE,2YO,=2d6f 1MODIFIER LETTER LA",
    "BIALIZATION MARK,1SEPARATOR MARK,=2d7f 1CONSONANT JOINER,0ETHIOPIC SYLLABLE LOA,2MOA,2ROA,2S",
    "OA,2SHOA,2BOA,2TOA,2COA,2NOA,2NYOA,2GLOTTAL OA,2ZOA,2DOA,2DDOA,2JOA,2THOA,2CHOA,2PHOA,2POA,2",
    "GGWA,2GGWI,2GGWEE,2GGWE,=2da0 2SSA,2SSU,2SSI,2SSAA,2SSEE,2SSE,2SSO,=2da8 2CCA,2CCU,2CCI,2CCA",
    "A,2CCEE,2CCE,2CCO,=2db0 2ZZA,2ZZU,2ZZI,2ZZAA,2ZZEE,2ZZE,2ZZO,=2db8 2CCHA,2CCHU,2CCHI,2CCHAA,",
    "2CCHEE,2CCHE,2CCHO,=2dc0 2QYA,2QYU,2QYI,2QYAA,2QYEE,2QYE,2QYO,=2dc8 2KYA,2KYU,2KYI,2KYAA,2KY",
    "EE,2KYE,2KYO,=2dd0 2XYA,2XYU,2XYI,2XYAA,2XYEE,2XYE,2XYO,=2dd8 2GYA,2GYU,2GYI,2GYAA,2GYEE,2GY",
    "E,2GYO,=2de0 0COMBINING CYRILLIC LETTER BE,3VE,3GHE,3DE,3ZHE,3ZE,3KA,3EL,3EM,3EN,3O,3PE,3ER,",
    "3ES,3TE,3HA,3TSE,3CHE,3SHA,3SHCHA,3FITA,3ES-TE,3A,3IE,3DJERV,3MONOGRAPH UK,3YAT,3YU,3IOTIFIE",
    "D A,3LITTLE YUS,3BIG YUS,3IOTIFIED BIG YUS,0RIGHT ANGLE SUBSTITUTION MARKER,2DOTTED SUBSTITU",
    "TION MARKER,0LEFT SUBSTITUTION BRACKET,0RIGHT SUBSTITUTION BRACKET,0LEFT DOTTED SUBSTITUTIO",
    "N BRACKET,0RIGHT DOTTED SUBSTITUTION BRACKET,0RAISED INTERPOLATION MARKER,1DOTTED INTERPOLAT",
    "ION MARKER,0DOTTED TRANSPOSITION MARKER,0LEFT TRANSPOSITION BRACKET,0RIGHT TRANSPOSITION BRA",
    "CKET,0RAISED SQUARE,0LEFT RAISED OMISSION BRACKET,0RIGHT RAISED OMISSION BRACKET,0EDITORIAL ",
    "CORONIS,0PARAGRAPHOS,0FORKED PARAGRAPHOS,0REVERSED FORKED PARAGRAPHOS,0HYPODIASTOLE,0DOTTED ",
    "OBELOS,0DOWNWARDS ANCORA,0UPWARDS ANCORA,0DOTTED RIGHT-POINTING ANGLE,0DOUBLE OBLIQUE HYPHEN",
    ",0INVERTED INTERROBANG,0PALM BRANCH,0HYPHEN WITH DIAERESIS,0TILDE WITH RING ABOVE,0LEFT LOW ",
    "PARAPHRASE BRACKET,0RIGHT LOW PARAPHRASE BRACKET,0TILDE WITH DOT ABOVE,3BELOW,0LEFT VERTICA",
    "L BAR WITH QUILL,0RIGHT VERTICAL BAR WITH QUILL,0TOP LEFT HALF BRACKET,1RIGHT HALF BRACKET,0",
    "BOTTOM LEFT HALF BRACKET,1RIGHT HALF BRACKET,0LEFT SIDEWAYS U BRACKET,0RIGHT SIDEWAYS U BRAC",
    "KET,0LEFT DOUBLE PARENTHESIS,0RIGHT DOUBLE PARENTHESIS,0TWO DOTS OVER ONE DOT PUNCTUATION,0O",
    "NE DOT OVER TWO DOTS PUNCTUATION,0SQUARED FOUR DOT PUNCTUATION,0FIVE DOT MARK,0REVERSED QUES",
    "TION MARK,0VERTICAL TILDE,0RING POINT,0WORD SEPARATOR MIDDLE DOT,0TURNED COMMA,0RAISED DOT,1",
    "COMMA,0TURNED SEMICOLON,0DAGGER WITH LEFT GUARD,2RIGHT GUARD,0TURNED DAGGER,0TOP HALF SECTIO",
    "N SIGN,0TWO-EM DASH,0THREE-EM DASH,0STENOGRAPHIC FULL STOP,0VERTICAL SIX DOTS,0WIGGLY VERTIC",
    "AL LINE,0CAPITULUM,0DOUBLE HYPHEN,0REVERSED COMMA,0DOUBLE LOW-REVERSED-9 QUOTATION MARK,0DAS",
    "H WITH LEFT UPTURN,0DOUBLE SUSPENSION MARK,0INVERTED LOW KAVYKA,3WITH KAVYKA ABOVE,0LOW KAVY",
    "KA,2WITH DOT,0DOUBLE STACKED COMMA,0DOTTED SOLIDUS,0TRIPLE DAGGER,0MEDIEVAL COMMA,0PARAGRAPH",
    "US MARK,0PUNCTUS ELEVATUS MARK,0CORNISH VERSE DIVIDER,0CROSS PATTY WITH RIGHT CROSSBAR,3LEF",
    "T CROSSBAR,0TIRONIAN SIGN CAPITAL ET,0MEDIEVAL EXCLAMATION MARK,1QUESTION MARK,0LEFT SQUARE ",
    "BRACKET WITH STROKE,0RIGHT SQUARE BRACKET WITH STROKE,0LEFT SQUARE BRACKET WITH DOUBLE STROK",
    "E,0RIGHT SQUARE BRACKET WITH DOUBLE STROKE,0TOP HALF LEFT PARENTHESIS,2RIGHT PARENTHESIS,0BO",
    "TTOM HALF LEFT PARENTHESIS,2RIGHT PARENTHESIS,0OBLIQUE HYPHEN,=2e80 0CJK RADICAL REPEAT,2CLI",
    "FF,2SECOND ONE,3TWO,3THREE,2PERSON,2BOX,2TABLE,2KNIFE ONE,3TWO,2DIVINATION,2SEAL,2SMALL ONE,",
    "3TWO,2LAME ONE,3TWO,3THREE,3FOUR,2SNAKE,2THREAD,2SNOUT ONE,3TWO,2HEART ONE,3TWO,2HAND,2RAP,=",
    "2e9b 2CHOKE,2SUN,2MOON,2DEATH,2MOTHER,2CIVILIAN,2WATER ONE,3TWO,2FIRE,2PAW ONE,3TWO,2SIMPLIF",
    "IED HALF TREE TRUNK,2COW,2DOG,2JADE,2BOLT OF CLOTH,2EYE,2SPIRIT ONE,3TWO,2BAMBOO,2SILK,2C-SI",
    "MPLIFIED SILK,2NET ONE,3TWO,3THREE,3FOUR,2MESH,2SHEEP,2RAM,2EWE,2OLD,2BRUSH ONE,3TWO,2MEAT,2",
    "MORTAR,2GRASS ONE,3TWO,3THREE,2TIGER,2CLOTHES,2WEST ONE,3TWO,2C-SIMPLIFIED SEE,2SIMPLIFIED H",
    "ORN,2HORN,2C-SIMPLIFIED SPEECH,3SHELL,2FOOT,2C-SIMPLIFIED CART,2SIMPLIFIED WALK,2WALK ONE,3T",
    "WO,2CITY,2C-SIMPLIFIED GOLD,2LONG ONE,3TWO,2C-SIMPLIFIED LONG,3GATE,2MOUND ONE,3TWO,2RAIN,2B",
    "LUE,2C-SIMPLIFIED TANNED LEATHER,3LEAF,3WIND,3FLY,2EAT ONE,3TWO,3THREE,2C-SIMPLIFIED EAT,2HE",
    "AD,2C-SIMPLIFIED HORSE,2BONE,2GHOST,2C-SIMPLIFIED FISH,3BIRD,3SALT,2SIMPLIFIED WHEAT,3YELLOW",
    ",2C-SIMPLIFIED FROG,2J-SIMPLIFIED EVEN,2C-SIMPLIFIED EVEN,2J-SIMPLIFIED TOOTH,2C-SIMPLIFIED ",
    "TOOTH,2J-SIMPLIFIED DRAGON,2C-SIMPLIFIED DRAGON,2TURTLE,2J-SIMPLIFIED TURTLE,2C-SIMPLIFIED T",
    "URTLE,=2f00 0KANGXI RADICAL ONE,2LINE,2DOT,2SLASH,2SECOND,2HOOK,2TWO,2LID,2MAN,2LEGS,2ENTER,",
    "2EIGHT,2DOWN BOX,2COVER,2ICE,2TABLE,2OPEN BOX,2KNIFE,2POWER,2WRAP,2SPOON,2RIGHT OPEN BOX,2HI",
    "DING ENCLOSURE,2TEN,2DIVINATION,2SEAL,2CLIFF,2PRIVATE,2AGAIN,2MOUTH,2ENCLOSURE,2EARTH,2SCHOL",
    "AR,2GO,3SLOWLY,2EVENING,2BIG,2WOMAN,2CHILD,2ROOF,2INCH,2SMALL,2LAME,2CORPSE,2SPROUT,2MOUNTAI",
    "N,2RIVER,2WORK,2ONESELF,2TURBAN,2DRY,2SHORT THREAD,2DOTTED CLIFF,2LONG STRIDE,2TWO HANDS,2SH",
    "OOT,2BOW,2SNOUT,2BRISTLE,2STEP,2HEART,2HALBERD,2DOOR,2HAND,2BRANCH,2RAP,2SCRIPT,2DIPPER,2AXE",
    ",2SQUARE,2NOT,2SUN,2SAY,2MOON,2TREE,2LACK,2STOP,2DEATH,2WEAPON,2DO NOT,2COMPARE,2FUR,2CLAN,2",
    "STEAM,2WATER,2FIRE,2CLAW,2FATHER,2DOUBLE X,2HALF TREE TRUNK,2SLICE,2FANG,2COW,2DOG,2PROFOUND",
    ",2JADE,2MELON,2TILE,2SWEET,2LIFE,2USE,2FIELD,2BOLT OF CLOTH,2SICKNESS,2DOTTED TENT,2WHITE,2S",
    "KIN,2DISH,2EYE,2SPEAR,2ARROW,2STONE,2SPIRIT,2TRACK,2GRAIN,2CAVE,2STAND,2BAMBOO,2RICE,2SILK,2",
    "JAR,2NET,2SHEEP,2FEATHER,2OLD,2AND,2PLOW,2EAR,2BRUSH,2MEAT,2MINISTER,2SELF,2ARRIVE,2MORTAR,2",
    "TONGUE,2OPPOSE,2BOAT,2STOPPING,2COLOR,2GRASS,2TIGER,2INSECT,2BLOOD,2WALK ENCLOSURE,2CLOTHES,",
    "2WEST,2SEE,2HORN,2SPEECH,2VALLEY,2BEAN,2PIG,2BADGER,2SHELL,2RED,2RUN,2FOOT,2BODY,2CART,2BITT",
    "ER,2MORNING,2WALK,2CITY,2WINE,2DISTINGUISH,2VILLAGE,2GOLD,2LONG,2GATE,2MOUND,2SLAVE,2SHORT T",
    "AILED BIRD,2RAIN,2BLUE,2WRONG,2FACE,2LEATHER,2TANNED LEATHER,2LEEK,2SOUND,2LEAF,2WIND,2FLY,2",
    "EAT,2HEAD,2FRAGRANT,2HORSE,2BONE,2TALL,2HAIR,2FIGHT,2SACRIFICIAL WINE,2CAULDRON,2GHOST,2FISH",
    ",2BIRD,2SALT,2DEER,2WHEAT,2HEMP,2YELLOW,2MILLET,2BLACK,2EMBROIDERY,2FROG,2TRIPOD,2DRUM,2RAT,",
    "2NOSE,2EVEN,2TOOTH,2DRAGON,2TURTLE,2FLUTE,=2ff0 0IDEOGRAPHIC DESCRIPTION CHARACTER LEFT TO R",
    "IGHT,3ABOVE TO BELOW,3LEFT TO MIDDLE AND RIGHT,3ABOVE TO MIDDLE AND BELOW,3FULL SURROUND,3SU",
    "RROUND FROM ABOVE,5BELOW,5LEFT,5UPPER LEFT,6RIGHT,5LOWER LEFT,3OVERLAID,=3000 1SPACE,1COMMA,",
    "1FULL STOP,0DITTO MARK,0JAPANESE INDUSTRIAL STANDARD SYMBOL,0IDEOGRAPHIC ITERATION MARK,1CLO",
    "SING MARK,1NUMBER ZERO,0LEFT ANGLE BRACKET,0RIGHT ANGLE BRACKET,0LEFT DOUBLE ANGLE BRACKET,0",
    "RIGHT DOUBLE ANGLE BRACKET,0LEFT CORNER BRACKET,0RIGHT CORNER BRACKET,0LEFT WHITE CORNER BRA",
    "CKET,0RIGHT WHITE CORNER BRACKET,0LEFT BLACK LENTICULAR BRACKET,0RIGHT BLACK LENTICULAR BRAC",
    "KET,0POSTAL MARK,0GETA MARK,0LEFT TORTOISE SHELL BRACKET,0RIGHT TORTOISE SHELL BRACKET,0LEF",
    "T WHITE LENTICULAR BRACKET,0RIGHT WHITE LENTICULAR BRACKET,0LEFT WHITE TORTOISE SHELL BRACKE",
    "T,0RIGHT WHITE TORTOISE SHELL BRACKET,0LEFT WHITE SQUARE BRACKET,0RIGHT WHITE SQUARE BRACKET",
    ",0WAVE DASH,0REVERSED DOUBLE PRIME QUOTATION MARK,0DOUBLE PRIME QUOTATION MARK,0LOW DOUBLE P",
    "RIME QUOTATION MARK,0POSTAL MARK FACE,0HANGZHOU NUMERAL ONE,2TWO,2THREE,2FOUR,2FIVE,2SIX,2SE",
    "VEN,2EIGHT,2NINE,0IDEOGRAPHIC LEVEL TONE MARK,1RISING TONE MARK,1DEPARTING TONE MARK,1ENTERI",
    "NG TONE MARK,0HANGUL SINGLE DOT TONE MARK,1DOUBLE DOT TONE MARK,0WAVY DASH,0VERTICAL KANA RE",
    "PEAT MARK,3WITH VOICED SOUND MARK,3MARK UPPER HALF,3WITH VOICED SOUND MARK UPPER HALF,3MARK ",
    "LOWER HALF,0CIRCLED POSTAL MARK,0IDEOGRAPHIC TELEGRAPH LINE FEED SEPARATOR SYMBOL,0HANGZHOU ",
    "NUMERAL TEN,2TWENTY,2THIRTY,0VERTICAL IDEOGRAPHIC ITERATION MARK,0MASU MARK,0PART ALTERNATIO",
    "N MARK,0IDEOGRAPHIC VARIATION INDICATOR,1HALF FILL SPACE,=3041 0HIRAGANA LETTER SMALL A,2A,2",
    "SMALL I,2I,2SMALL U,2U,2SMALL E,2E,2SMALL O,2O,2KA,2GA,2KI,2GI,2KU,2GU,2KE,2GE,2KO,2GO,2SA,2",
    "ZA,2SI,2ZI,2SU,2ZU,2SE,2ZE,2SO,2ZO,2TA,2DA,2TI,2DI,2SMALL TU,2TU,2DU,2TE,2DE,2TO,2DO,2NA,2NI",
    ",2NU,2NE,2NO,2HA,2BA,2PA,2HI,2BI,2PI,2HU,2BU,2PU,2HE,2BE,2PE,2HO,2BO,2PO,2MA,2MI,2MU,2ME,2MO",
    ",2SMALL YA,2YA,2SMALL YU,2YU,2SMALL YO,2YO,2RA,2RI,2RU,2RE,2RO,2SMALL WA,2WA,2WI,2WE,2WO,2N,",
    "2VU,2SMALL KA,3KE,=3099 0COMBINING KATAKANA-HIRAGANA VOICED SOUND MARK,2SEMI-VOICED SOUND MA",
    "RK,0KATAKANA-HIRAGANA VOICED SOUND MARK,1SEMI-VOICED SOUND MARK,0HIRAGANA ITERATION MARK,1VO",
    "ICED ITERATION MARK,1DIGRAPH YORI,0KATAKANA-HIRAGANA DOUBLE HYPHEN,0KATAKANA LETTER SMALL A,",
    "2A,2SMALL I,2I,2SMALL U,2U,2SMALL E,2E,2SMALL O,2O,2KA,2GA,2KI,2GI,2KU,2GU,2KE,2GE,2KO,2GO,2",
    "SA,2ZA,2SI,2ZI,2SU,2ZU,2SE,2ZE,2SO,2ZO,2TA,2DA,2TI,2DI,2SMALL TU,2TU,2DU,2TE,2DE,2TO,2DO,2NA",
    ",2NI,2NU,2NE,2NO,2HA,2BA,2PA,2HI,2BI,2PI,2HU,2BU,2PU,2HE,2BE,2PE,2HO,2BO,2PO,2MA,2MI,2MU,2ME",
    ",2MO,2SMALL YA,2YA,2SMALL YU,2YU,2SMALL YO,2YO,2RA,2RI,2RU,2RE,2RO,2SMALL WA,2WA,2WI,2WE,2WO",
    ",2N,2VU,2SMALL KA,3KE,2VA,2VI,2VE,2VO,1MIDDLE DOT,0KATAKANA-HIRAGANA PROLONGED SOUND MARK,0K",
    "ATAKANA ITERATION MARK,1VOICED ITERATION MARK,1DIGRAPH KOTO,=3105 0BOPOMOFO LETTER B,2P,2M,2",
    "F,2D,2T,2N,2L,2G,2K,2H,2J,2Q,2X,2ZH,2CH,2SH,2R,2Z,2C,2S,2A,2O,2E,2EH,2AI,2EI,2AU,2OU,2AN,2EN",
    ",2ANG,2ENG,2ER,2I,2U,2IU,2V,2NG,2GN,2IH,2O WITH DOT ABOVE,2NN,=3131 0HANGUL LETTER KIYEOK,2S",
    "SANGKIYEOK,2KIYEOK-SIOS,2NIEUN,2NIEUN-CIEUC,2NIEUN-HIEUH,2TIKEUT,2SSANGTIKEUT,2RIEUL,2RIEUL-",
    "KIYEOK,2RIEUL-MIEUM,2RIEUL-PIEUP,2RIEUL-SIOS,2RIEUL-THIEUTH,2RIEUL-PHIEUPH,2RIEUL-HIEUH,2MIE",
    "UM,2PIEUP,2SSANGPIEUP,2PIEUP-SIOS,2SIOS,2SSANGSIOS,2IEUNG,2CIEUC,2SSANGCIEUC,2CHIEUCH,2KHIEU",
    "KH,2THIEUTH,2PHIEUPH,2HIEUH,2A,2AE,2YA,2YAE,2EO,2E,2YEO,2YE,2O,2WA,2WAE,2OE,2YO,2U,2WEO,2WE,",
    "2WI,2YU,2EU,2YI,2I,1FILLER,1LETTER SSANGNIEUN,2NIEUN-TIKEUT,2NIEUN-SIOS,2NIEUN-PANSIOS,2RIEU",
    "L-KIYEOK-SIOS,2RIEUL-TIKEUT,2RIEUL-PIEUP-SIOS,2RIEUL-PANSIOS,2RIEUL-YEORINHIEUH,2MIEUM-PIEUP",
    ",2MIEUM-SIOS,2MIEUM-PANSIOS,2KAPYEOUNMIEUM,2PIEUP-KIYEOK,2PIEUP-TIKEUT,2PIEUP-SIOS-KIYEOK,2P",
    "IEUP-SIOS-TIKEUT,2PIEUP-CIEUC,2PIEUP-THIEUTH,2KAPYEOUNPIEUP,2KAPYEOUNSSANGPIEUP,2SIOS-KIYEOK",
    ",2SIOS-NIEUN,2SIOS-TIKEUT,2SIOS-PIEUP,2SIOS-CIEUC,2PANSIOS,2SSANGIEUNG,2YESIEUNG,2YESIEUNG-S",
    "IOS,2YESIEUNG-PANSIOS,2KAPYEOUNPHIEUPH,2SSANGHIEUH,2YEORINHIEUH,2YO-YA,2YO-YAE,2YO-I,2YU-YEO",
    ",2YU-YE,2YU-I,2ARAEA,2ARAEAE,=3190 0IDEOGRAPHIC ANNOTATION LINKING MARK,2REVERSE MARK,2ONE M",
    "ARK,2TWO MARK,2THREE MARK,2FOUR MARK,2TOP MARK,2MIDDLE MARK,2BOTTOM MARK,2FIRST MARK,2SECON",
    "D MARK,2THIRD MARK,2FOURTH MARK,2HEAVEN MARK,2EARTH MARK,2MAN MARK,0BOPOMOFO LETTER BU,2ZI,2",
    "JI,2GU,2EE,2ENN,2OO,2ONN,2IR,2ANN,2INN,2UNN,2IM,2NGG,2AINN,2AUNN,2AM,2OM,2ONG,2INNN,1FINAL L",
    "ETTER P,3T,3K,3H,1LETTER GH,2LH,2ZY,1FINAL LETTER G,1LETTER GW,2KW,2OE,2AH,0CJK STROKE T,2WG",
    ",2XG,2BXG,2SW,2HZZ,2HZG,2HP,2HZWG,2SZWG,2HZT,2HZZP,2HPWG,2HZW,2HZZZ,2N,2H,2S,2P,2SP,2D,2HZ,2",
    "HG,2SZ,2SWZ,2ST,2SG,2PD,2PZ,2TN,2SZZ,2SWG,2HXWG,2HZZZG,2PG,2Q,=31f0 0KATAKANA LETTER SMALL K",
    "U,3SI,3SU,3TO,3NU,3HA,3HI,3HU,3HE,3HO,3MU,3RA,3RI,3RU,3RE,3RO,0PARENTHESIZED HANGUL KIYEOK,2",
    "NIEUN,2TIKEUT,2RIEUL,2MIEUM,2PIEUP,2SIOS,2IEUNG,2CIEUC,2CHIEUCH,2KHIEUKH,2THIEUTH,2PHIEUPH,2",
    "HIEUH,2KIYEOK A,2NIEUN A,2TIKEUT A,2RIEUL A,2MIEUM A,2PIEUP A,2SIOS A,2IEUNG A,2CIEUC A,2CHI",
    "EUCH A,2KHIEUKH A,2THIEUTH A,2PHIEUPH A,2HIEUH A,2CIEUC U,1KOREAN CHARACTER OJEON,3O HU,=322",
    "0 1IDEOGRAPH ONE,2TWO,2THREE,2FOUR,2FIVE,2SIX,2SEVEN,2EIGHT,2NINE,2TEN,2MOON,2FIRE,2WATER,2W",
    "OOD,2METAL,2EARTH,2SUN,2STOCK,2HAVE,2SOCIETY,2NAME,2SPECIAL,2FINANCIAL,2CONGRATULATION,2LABO",
    "R,2REPRESENT,2CALL,2STUDY,2SUPERVISE,2ENTERPRISE,2RESOURCE,2ALLIANCE,2FESTIVAL,2REST,2SELF,2",
    "REACH,0CIRCLED IDEOGRAPH QUESTION,2KINDERGARTEN,2SCHOOL,2KOTO,1NUMBER TEN ON BLACK SQUARE,2T",
    "WENTY ON BLACK SQUARE,2THIRTY ON BLACK SQUARE,2FORTY ON BLACK SQUARE,2FIFTY ON BLACK SQUARE,",
    "2SIXTY ON BLACK SQUARE,2SEVENTY ON BLACK SQUARE,2EIGHTY ON BLACK SQUARE,0PARTNERSHIP SIGN,0C",
    "IRCLED NUMBER TWENTY ONE,3TWO,3THREE,3FOUR,3FIVE,3SIX,3SEVEN,3EIGHT,3NINE,2THIRTY,3ONE,3TWO,",
    "3THREE,3FOUR,3FIVE,1HANGUL KIYEOK,2NIEUN,2TIKEUT,2RIEUL,2MIEUM,2PIEUP,2SIOS,2IEUNG,2CIEUC,2C",
    "HIEUCH,2KHIEUKH,2THIEUTH,2PHIEUPH,2HIEUH,2KIYEOK A,2NIEUN A,2TIKEUT A,2RIEUL A,2MIEUM A,2PIE",
    "UP A,2SIOS A,2IEUNG A,2CIEUC A,2CHIEUCH A,2KHIEUKH A,2THIEUTH A,2PHIEUPH A,2HIEUH A,1KOREAN ",
    "CHARACTER CHAMKO,3JUEUI,1HANGUL IEUNG U,0KOREAN STANDARD SYMBOL,0CIRCLED IDEOGRAPH ONE,2TWO,",
    "2THREE,2FOUR,2FIVE,2SIX,2SEVEN,2EIGHT,2NINE,2TEN,2MOON,2FIRE,2WATER,2WOOD,2METAL,2EARTH,2SUN",
    ",2STOCK,2HAVE,2SOCIETY,2NAME,2SPECIAL,2FINANCIAL,2CONGRATULATION,2LABOR,2SECRET,2MALE,2FEMAL",
    "E,2SUITABLE,2EXCELLENT,2PRINT,2ATTENTION,2ITEM,2REST,2COPY,2CORRECT,2HIGH,2CENTRE,2LOW,2LEFT",
    ",2RIGHT,2MEDICINE,2RELIGION,2STUDY,2SUPERVISE,2ENTERPRISE,2RESOURCE,2ALLIANCE,2NIGHT,1NUMBE",
    "R THIRTY SIX,3SEVEN,3EIGHT,3NINE,2FORTY,3ONE,3TWO,3THREE,3FOUR,3FIVE,3SIX,3SEVEN,3EIGHT,3NIN",
    "E,2FIFTY,0IDEOGRAPHIC TELEGRAPH SYMBOL FOR JANUARY,4FEBRUARY,4MARCH,4APRIL,4MAY,4JUNE,4JULY,",
    "4AUGUST,4SEPTEMBER,4OCTOBER,4NOVEMBER,4DECEMBER,0SQUARE HG,1ERG,1EV,0LIMITED LIABILITY SIGN,",
    "0CIRCLED KATAKANA A,2I,2U,2E,2O,2KA,2KI,2KU,2KE,2KO,2SA,2SI,2SU,2SE,2SO,2TA,2TI,2TU,2TE,2TO,",
    "2NA,2NI,2NU,2NE,2NO,2HA,2HI,2HU,2HE,2HO,2MA,2MI,2MU,2ME,2MO,2YA,2YU,2YO,2RA,2RI,2RU,2RE,2RO,",
    "2WA,2WI,2WE,2WO,0SQUARE ERA NAME REIWA,1APAATO,1ARUHUA,1ANPEA,1AARU,1ININGU,1INTI,1UON,1ESUK",
    "UUDO,1EEKAA,1ONSU,1OOMU,1KAIRI,1KARATTO,1KARORII,1GARON,1GANMA,1GIGA,1GINII,1KYURII,1GIRUDAA",
    ",1KIRO,1KIROGURAMU,1KIROMEETORU,1KIROWATTO,1GURAMU,1GURAMUTON,1KURUZEIRO,1KUROONE,1KEESU,1KO",
    "RUNA,1KOOPO,1SAIKURU,1SANTIIMU,1SIRINGU,1SENTI,1SENTO,1DAASU,1DESI,1DORU,1TON,1NANO,1NOTTO,1",
    "HAITU,1PAASENTO,1PAATU,1BAARERU,1PIASUTORU,1PIKURU,1PIKO,1BIRU,1HUARADDO,1HUIITO,1BUSSYERU,1",
    "HURAN,1HEKUTAARU,1PESO,1PENIHI,1HERUTU,1PENSU,1PEEZI,1BEETA,1POINTO,1BORUTO,1HON,1PONDO,1HOO",
    "RU,1HOON,1MAIKURO,1MAIRU,1MAHHA,1MARUKU,1MANSYON,1MIKURON,1MIRI,1MIRIBAARU,1MEGA,1MEGATON,1M",
    "EETORU,1YAADO,1YAARU,1YUAN,1RITTORU,1RIRA,1RUPII,1RUUBURU,1REMU,1RENTOGEN,1WATTO,0IDEOGRAPHI",
    "C TELEGRAPH SYMBOL FOR HOUR ZERO,5ONE,5TWO,5THREE,5FOUR,5FIVE,5SIX,5SEVEN,5EIGHT,5NINE,5TEN,",
    "5ELEVEN,5TWELVE,5THIRTEEN,5FOURTEEN,5FIFTEEN,5SIXTEEN,5SEVENTEEN,5EIGHTEEN,5NINETEEN,5TWENTY",
    ",5TWENTY-ONE,5TWENTY-TWO,5TWENTY-THREE,5TWENTY-FOUR,0SQUARE HPA,1DA,1AU,1BAR,1OV,1PC,1DM,2SQ",
    "UARED,2CUBED,1IU,1ERA NAME HEISEI,3SYOUWA,3TAISYOU,3MEIZI,1CORPORATION,1PA AMPS,1NA,1MU A,1M",
    "A,1KA,1KB,1MB,1GB,1CAL,1KCAL,1PF,1NF,1MU F,2G,1MG,1KG,1HZ,1KHZ,1MHZ,1GHZ,1THZ,1MU L,1ML,1DL,",
    "1KL,1FM,1NM,1MU M,1MM,1CM,1KM,1MM SQUARED,1CM SQUARED,1M SQUARED,1KM SQUARED,1MM CUBED,1CM C",
    "UBED,1M CUBED,1KM CUBED,1M OVER S,4SQUARED,1PA,1KPA,1MPA,1GPA,1RAD,2OVER S,4SQUARED,1PS,1NS,",
    "1MU S,1MS,1PV,1NV,1MU V,1MV,1KV,1MV MEGA,1PW,1NW,1MU W,1MW,1KW,1MW MEGA,1K OHM,1M OHM,1AM,1B",
    "Q,1CC,1CD,1C OVER KG,1CO,1DB,1GY,1HA,1HP,1IN,1KK,1KM CAPITAL,1KT,1LM,1LN,1LOG,1LX,1MB SMALL,",
    "1MIL,1MOL,1PH,1PM,1PPM,1PR,1SR,1SV,1WB,1V OVER M,1A OVER M,0IDEOGRAPHIC TELEGRAPH SYMBOL FO",
    "R DAY ONE,5TWO,5THREE,5FOUR,5FIVE,5SIX,5SEVEN,5EIGHT,5NINE,5TEN,5ELEVEN,5TWELVE,5THIRTEEN,5F",
    "OURTEEN,5FIFTEEN,5SIXTEEN,5SEVENTEEN,5EIGHTEEN,5NINETEEN,5TWENTY,5TWENTY-ONE,5TWENTY-TWO,5TW",
    "ENTY-THREE,5TWENTY-FOUR,5TWENTY-FIVE,5TWENTY-SIX,5TWENTY-SEVEN,5TWENTY-EIGHT,5TWENTY-NINE,5T",
    "HIRTY,5THIRTY-ONE,0SQUARE GAL,=4dc0 0HEXAGRAM FOR THE CREATIVE HEAVEN,3RECEPTIVE EARTH,2DIFF",
    "ICULTY AT THE BEGINNING,2YOUTHFUL FOLLY,2WAITING,2CONFLICT,2THE ARMY,2HOLDING TOGETHER,2SMAL",
    "L TAMING,2TREADING,2PEACE,2STANDSTILL,2FELLOWSHIP,2GREAT POSSESSION,2MODESTY,2ENTHUSIASM,2FO",
    "LLOWING,2WORK ON THE DECAYED,2APPROACH,2CONTEMPLATION,2BITING THROUGH,2GRACE,2SPLITTING APAR",
    "T,2RETURN,2INNOCENCE,2GREAT TAMING,2MOUTH CORNERS,2GREAT PREPONDERANCE,2THE ABYSMAL WATER,3C",
    "LINGING FIRE,2INFLUENCE,2DURATION,2RETREAT,2GREAT POWER,2PROGRESS,2DARKENING OF THE LIGHT,2T",
    "HE FAMILY,2OPPOSITION,2OBSTRUCTION,2DELIVERANCE,2DECREASE,2INCREASE,2BREAKTHROUGH,2COMING T",
    "O MEET,2GATHERING TOGETHER,2PUSHING UPWARD,2OPPRESSION,2THE WELL,2REVOLUTION,2THE CAULDRON,3",
    "AROUSING THUNDER,3KEEPING STILL MOUNTAIN,2DEVELOPMENT,2THE MARRYING MAIDEN,2ABUNDANCE,2THE W",
    "ANDERER,3GENTLE WIND,3JOYOUS LAKE,2DISPERSION,2LIMITATION,2INNER TRUTH,2SMALL PREPONDERANCE,",
    "2AFTER COMPLETION,2BEFORE COMPLETION,=a000 0YI SYLLABLE IT,2IX,2I,2IP,2IET,2IEX,2IE,2IEP,2AT",
    ",2AX,2A,2AP,2UOX,2UO,2UOP,2OT,2OX,2O,2OP,2EX,2E,2WU,=a015 2ITERATION MARK,2BIT,2BIX,2BI,2BIP",
    ",2BIET,2BIEX,2BIE,2BIEP,2BAT,2BAX,2BA,2BAP,2BUOX,2BUO,2BUOP,2BOT,2BOX,2BO,2BOP,2BEX,2BE,2BEP",
    ",2BUT,2BUX,2BU,2BUP,2BURX,2BUR,2BYT,2BYX,2BY,2BYP,2BYRX,2BYR,2PIT,2PIX,2PI,2PIP,2PIEX,2PIE,2",
    "PIEP,2PAT,2PAX,2PA,2PAP,2PUOX,2PUO,2PUOP,2POT,2POX,2PO,2POP,2PUT,2PUX,2PU,2PUP,2PURX,2PUR,2P",
    "YT,2PYX,2PY,2PYP,2PYRX,2PYR,2BBIT,2BBIX,2BBI,2BBIP,2BBIET,2BBIEX,2BBIE,2BBIEP,2BBAT,2BBAX,2B",
    "BA,2BBAP,2BBUOX,2BBUO,2BBUOP,2BBOT,2BBOX,2BBO,2BBOP,2BBEX,2BBE,2BBEP,2BBUT,2BBUX,2BBU,2BBUP,",
    "2BBURX,2BBUR,2BBYT,2BBYX,2BBY,2BBYP,2NBIT,2NBIX,2NBI,2NBIP,2NBIEX,2NBIE,2NBIEP,2NBAT,2NBAX,2",
    "NBA,2NBAP,2NBOT,2NBOX,2NBO,2NBOP,2NBUT,2NBUX,2NBU,2NBUP,2NBURX,2NBUR,2NBYT,2NBYX,2NBY,2NBYP,",
    "2NBYRX,2NBYR,2HMIT,2HMIX,2HMI,2HMIP,2HMIEX,2HMIE,2HMIEP,2HMAT,2HMAX,2HMA,2HMAP,2HMUOX,2HMUO,",
    "2HMUOP,2HMOT,2HMOX,2HMO,2HMOP,2HMUT,2HMUX,2HMU,2HMUP,2HMURX,2HMUR,2HMYX,2HMY,2HMYP,2HMYRX,2H",
    "MYR,2MIT,2MIX,2MI,2MIP,2MIEX,2MIE,2MIEP,2MAT,2MAX,2MA,2MAP,2MUOT,2MUOX,2MUO,2MUOP,2MOT,2MOX,",
    "2MO,2MOP,2MEX,2ME,2MUT,2MUX,2MU,2MUP,2MURX,2MUR,2MYT,2MYX,2MY,2MYP,2FIT,2FIX,2FI,2FIP,2FAT,2",
    "FAX,2FA,2FAP,2FOX,2FO,2FOP,2FUT,2FUX,2FU,2FUP,2FURX,2FUR,2FYT,2FYX,2FY,2FYP,2VIT,2VIX,2VI,2V",
    "IP,2VIET,2VIEX,2VIE,2VIEP,2VAT,2VAX,2VA,2VAP,2VOT,2VOX,2VO,2VOP,2VEX,2VEP,2VUT,2VUX,2VU,2VUP",
    ",2VURX,2VUR,2VYT,2VYX,2VY,2VYP,2VYRX,2VYR,2DIT,2DIX,2DI,2DIP,2DIEX,2DIE,2DIEP,2DAT,2DAX,2DA,",
    "2DAP,2DUOX,2DUO,2DOT,2DOX,2DO,2DOP,2DEX,2DE,2DEP,2DUT,2DUX,2DU,2DUP,2DURX,2DUR,2TIT,2TIX,2TI",
    ",2TIP,2TIEX,2TIE,2TIEP,2TAT,2TAX,2TA,2TAP,2TUOT,2TUOX,2TUO,2TUOP,2TOT,2TOX,2TO,2TOP,2TEX,2TE",
    ",2TEP,2TUT,2TUX,2TU,2TUP,2TURX,2TUR,2DDIT,2DDIX,2DDI,2DDIP,2DDIEX,2DDIE,2DDIEP,2DDAT,2DDAX,2",
    "DDA,2DDAP,2DDUOX,2DDUO,2DDUOP,2DDOT,2DDOX,2DDO,2DDOP,2DDEX,2DDE,2DDEP,2DDUT,2DDUX,2DDU,2DDUP",
    ",2DDURX,2DDUR,2NDIT,2NDIX,2NDI,2NDIP,2NDIEX,2NDIE,2NDAT,2NDAX,2NDA,2NDAP,2NDOT,2NDOX,2NDO,2N",
    "DOP,2NDEX,2NDE,2NDEP,2NDUT,2NDUX,2NDU,2NDUP,2NDURX,2NDUR,2HNIT,2HNIX,2HNI,2HNIP,2HNIET,2HNIE",
    "X,2HNIE,2HNIEP,2HNAT,2HNAX,2HNA,2HNAP,2HNUOX,2HNUO,2HNOT,2HNOX,2HNOP,2HNEX,2HNE,2HNEP,2HNUT,",
    "2NIT,2NIX,2NI,2NIP,2NIEX,2NIE,2NIEP,2NAX,2NA,2NAP,2NUOX,2NUO,2NUOP,2NOT,2NOX,2NO,2NOP,2NEX,2",
    "NE,2NEP,2NUT,2NUX,2NU,2NUP,2NURX,2NUR,2HLIT,2HLIX,2HLI,2HLIP,2HLIEX,2HLIE,2HLIEP,2HLAT,2HLAX",
    ",2HLA,2HLAP,2HLUOX,2HLUO,2HLUOP,2HLOX,2HLO,2HLOP,2HLEX,2HLE,2HLEP,2HLUT,2HLUX,2HLU,2HLUP,2HL",
    "URX,2HLUR,2HLYT,2HLYX,2HLY,2HLYP,2HLYRX,2HLYR,2LIT,2LIX,2LI,2LIP,2LIET,2LIEX,2LIE,2LIEP,2LAT",
    ",2LAX,2LA,2LAP,2LUOT,2LUOX,2LUO,2LUOP,2LOT,2LOX,2LO,2LOP,2LEX,2LE,2LEP,2LUT,2LUX,2LU,2LUP,2L",
    "URX,2LUR,2LYT,2LYX,2LY,2LYP,2LYRX,2LYR,2GIT,2GIX,2GI,2GIP,2GIET,2GIEX,2GIE,2GIEP,2GAT,2GAX,2",
    "GA,2GAP,2GUOT,2GUOX,2GUO,2GUOP,2GOT,2GOX,2GO,2GOP,2GET,2GEX,2GE,2GEP,2GUT,2GUX,2GU,2GUP,2GUR",
    "X,2GUR,2KIT,2KIX,2KI,2KIP,2KIEX,2KIE,2KIEP,2KAT,2KAX,2KA,2KAP,2KUOX,2KUO,2KUOP,2KOT,2KOX,2KO",
    ",2KOP,2KET,2KEX,2KE,2KEP,2KUT,2KUX,2KU,2KUP,2KURX,2KUR,2GGIT,2GGIX,2GGI,2GGIEX,2GGIE,2GGIEP,",
    "2GGAT,2GGAX,2GGA,2GGAP,2GGUOT,2GGUOX,2GGUO,2GGUOP,2GGOT,2GGOX,2GGO,2GGOP,2GGET,2GGEX,2GGE,2G",
    "GEP,2GGUT,2GGUX,2GGU,2GGUP,2GGURX,2GGUR,2MGIEX,2MGIE,2MGAT,2MGAX,2MGA,2MGAP,2MGUOX,2MGUO,2MG",
    "UOP,2MGOT,2MGOX,2MGO,2MGOP,2MGEX,2MGE,2MGEP,2MGUT,2MGUX,2MGU,2MGUP,2MGURX,2MGUR,2HXIT,2HXIX,",
    "2HXI,2HXIP,2HXIET,2HXIEX,2HXIE,2HXIEP,2HXAT,2HXAX,2HXA,2HXAP,2HXUOT,2HXUOX,2HXUO,2HXUOP,2HXO",
    "T,2HXOX,2HXO,2HXOP,2HXEX,2HXE,2HXEP,2NGIEX,2NGIE,2NGIEP,2NGAT,2NGAX,2NGA,2NGAP,2NGUOT,2NGUOX",
    ",2NGUO,2NGOT,2NGOX,2NGO,2NGOP,2NGEX,2NGE,2NGEP,2HIT,2HIEX,2HIE,2HAT,2HAX,2HA,2HAP,2HUOT,2HUO",
    "X,2HUO,2HUOP,2HOT,2HOX,2HO,2HOP,2HEX,2HE,2HEP,2WAT,2WAX,2WA,2WAP,2WUOX,2WUO,2WUOP,2WOX,2WO,2",
    "WOP,2WEX,2WE,2WEP,2ZIT,2ZIX,2ZI,2ZIP,2ZIEX,2ZIE,2ZIEP,2ZAT,2ZAX,2ZA,2ZAP,2ZUOX,2ZUO,2ZUOP,2Z",
    "OT,2ZOX,2ZO,2ZOP,2ZEX,2ZE,2ZEP,2ZUT,2ZUX,2ZU,2ZUP,2ZURX,2ZUR,2ZYT,2ZYX,2ZY,2ZYP,2ZYRX,2ZYR,2",
    "CIT,2CIX,2CI,2CIP,2CIET,2CIEX,2CIE,2CIEP,2CAT,2CAX,2CA,2CAP,2CUOX,2CUO,2CUOP,2COT,2COX,2CO,2",
    "COP,2CEX,2CE,2CEP,2CUT,2CUX,2CU,2CUP,2CURX,2CUR,2CYT,2CYX,2CY,2CYP,2CYRX,2CYR,2ZZIT,2ZZIX,2Z",
    "ZI,2ZZIP,2ZZIET,2ZZIEX,2ZZIE,2ZZIEP,2ZZAT,2ZZAX,2ZZA,2ZZAP,2ZZOX,2ZZO,2ZZOP,2ZZEX,2ZZE,2ZZEP",
    ",2ZZUX,2ZZU,2ZZUP,2ZZURX,2ZZUR,2ZZYT,2ZZYX,2ZZY,2ZZYP,2ZZYRX,2ZZYR,2NZIT,2NZIX,2NZI,2NZIP,2N",
    "ZIEX,2NZIE,2NZIEP,2NZAT,2NZAX,2NZA,2NZAP,2NZUOX,2NZUO,2NZOX,2NZOP,2NZEX,2NZE,2NZUX,2NZU,2NZU",
    "P,2NZURX,2NZUR,2NZYT,2NZYX,2NZY,2NZYP,2NZYRX,2NZYR,2SIT,2SIX,2SI,2SIP,2SIEX,2SIE,2SIEP,2SAT,",
    "2SAX,2SA,2SAP,2SUOX,2SUO,2SUOP,2SOT,2SOX,2SO,2SOP,2SEX,2SE,2SEP,2SUT,2SUX,2SU,2SUP,2SURX,2SU",
    "R,2SYT,2SYX,2SY,2SYP,2SYRX,2SYR,2SSIT,2SSIX,2SSI,2SSIP,2SSIEX,2SSIE,2SSIEP,2SSAT,2SSAX,2SSA,",
    "2SSAP,2SSOT,2SSOX,2SSO,2SSOP,2SSEX,2SSE,2SSEP,2SSUT,2SSUX,2SSU,2SSUP,2SSYT,2SSYX,2SSY,2SSYP,",
    "2SSYRX,2SSYR,2ZHAT,2ZHAX,2ZHA,2ZHAP,2ZHUOX,2ZHUO,2ZHUOP,2ZHOT,2ZHOX,2ZHO,2ZHOP,2ZHET,2ZHEX,2",
    "ZHE,2ZHEP,2ZHUT,2ZHUX,2ZHU,2ZHUP,2ZHURX,2ZHUR,2ZHYT,2ZHYX,2ZHY,2ZHYP,2ZHYRX,2ZHYR,2CHAT,2CHA",
    "X,2CHA,2CHAP,2CHUOT,2CHUOX,2CHUO,2CHUOP,2CHOT,2CHOX,2CHO,2CHOP,2CHET,2CHEX,2CHE,2CHEP,2CHUX,",
    "2CHU,2CHUP,2CHURX,2CHUR,2CHYT,2CHYX,2CHY,2CHYP,2CHYRX,2CHYR,2RRAX,2RRA,2RRUOX,2RRUO,2RROT,2R",
    "ROX,2RRO,2RROP,2RRET,2RREX,2RRE,2RREP,2RRUT,2RRUX,2RRU,2RRUP,2RRURX,2RRUR,2RRYT,2RRYX,2RRY,2",
    "RRYP,2RRYRX,2RRYR,2NRAT,2NRAX,2NRA,2NRAP,2NROX,2NRO,2NROP,2NRET,2NREX,2NRE,2NREP,2NRUT,2NRUX",
    ",2NRU,2NRUP,2NRURX,2NRUR,2NRYT,2NRYX,2NRY,2NRYP,2NRYRX,2NRYR,2SHAT,2SHAX,2SHA,2SHAP,2SHUOX,2",
    "SHUO,2SHUOP,2SHOT,2SHOX,2SHO,2SHOP,2SHET,2SHEX,2SHE,2SHEP,2SHUT,2SHUX,2SHU,2SHUP,2SHURX,2SHU",
    "R,2SHYT,2SHYX,2SHY,2SHYP,2SHYRX,2SHYR,2RAT,2RAX,2RA,2RAP,2RUOX,2RUO,2RUOP,2ROT,2ROX,2RO,2ROP",
    ",2REX,2RE,2REP,2RUT,2RUX,2RU,2RUP,2RURX,2RUR,2RYT,2RYX,2RY,2RYP,2RYRX,2RYR,2JIT,2JIX,2JI,2JI",
    "P,2JIET,2JIEX,2JIE,2JIEP,2JUOT,2JUOX,2JUO,2JUOP,2JOT,2JOX,2JO,2JOP,2JUT,2JUX,2JU,2JUP,2JURX,",
    "2JUR,2JYT,2JYX,2JY,2JYP,2JYRX,2JYR,2QIT,2QIX,2QI,2QIP,2QIET,2QIEX,2QIE,2QIEP,2QUOT,2QUOX,2QU",
    "O,2QUOP,2QOT,2QOX,2QO,2QOP,2QUT,2QUX,2QU,2QUP,2QURX,2QUR,2QYT,2QYX,2QY,2QYP,2QYRX,2QYR,2JJIT",
    ",2JJIX,2JJI,2JJIP,2JJIET,2JJIEX,2JJIE,2JJIEP,2JJUOX,2JJUO,2JJUOP,2JJOT,2JJOX,2JJO,2JJOP,2JJU",
    "T,2JJUX,2JJU,2JJUP,2JJURX,2JJUR,2JJYT,2JJYX,2JJY,2JJYP,2NJIT,2NJIX,2NJI,2NJIP,2NJIET,2NJIEX,",
    "2NJIE,2NJIEP,2NJUOX,2NJUO,2NJOT,2NJOX,2NJO,2NJOP,2NJUX,2NJU,2NJUP,2NJURX,2NJUR,2NJYT,2NJYX,2",
    "NJY,2NJYP,2NJYRX,2NJYR,2NYIT,2NYIX,2NYI,2NYIP,2NYIET,2NYIEX,2NYIE,2NYIEP,2NYUOX,2NYUO,2NYUOP",
    ",2NYOT,2NYOX,2NYO,2NYOP,2NYUT,2NYUX,2NYU,2NYUP,2XIT,2XIX,2XI,2XIP,2XIET,2XIEX,2XIE,2XIEP,2XU",
    "OX,2XUO,2XOT,2XOX,2XO,2XOP,2XYT,2XYX,2XY,2XYP,2XYRX,2XYR,2YIT,2YIX,2YI,2YIP,2YIET,2YIEX,2YIE",
    ",2YIEP,2YUOT,2YUOX,2YUO,2YUOP,2YOT,2YOX,2YO,2YOP,2YUT,2YUX,2YU,2YUP,2YURX,2YUR,2YYT,2YYX,2YY",
    ",2YYP,2YYRX,2YYR,=a490 1RADICAL QOT,2LI,2KIT,2NYIP,2CYP,2SSI,2GGOP,2GEP,2MI,2HXIT,2LYR,2BBUT",
    ",2MOP,2YO,2PUT,2HXUO,2TAT,2GA,2ZUP,2CYT,2DDUR,2BUR,2GGUO,2NYOP,2TU,2OP,2JJUT,2ZOT,2PYT,2HMO,",
    "2YIT,2VUR,2SHY,2VEP,2ZA,2JO,2NZUP,2JJY,2GOT,2JJIE,2WO,2DU,2SHUR,2LIE,2CY,2CUOP,2CIP,2HXOP,2S",
    "HAT,2ZUR,2SHOP,2CHE,2ZZIET,2NBIE,2KE,=a4d0 0LISU LETTER BA,2PA,2PHA,2DA,2TA,2THA,2GA,2KA,2KH",
    "A,2JA,2CA,2CHA,2DZA,2TSA,2TSHA,2MA,2NA,2LA,2SA,2ZHA,2ZA,2NGA,2HA,2XA,2HHA,2FA,2WA,2SHA,2YA,2",
    "GHA,2A,2AE,2E,2EU,2I,2O,2U,2UE,2UH,2OE,2TONE MYA TI,3NA PO,3MYA CYA,4BO,4NA,4JEU,1PUNCTUATIO",
    "N COMMA,2FULL STOP,0VAI SYLLABLE EE,2EEN,2HEE,2WEE,2WEEN,2PEE,2BHEE,2BEE,2MBEE,2KPEE,2MGBEE,",
    "2GBEE,2FEE,2VEE,2TEE,2THEE,2DHEE,2DHHEE,2LEE,2REE,2DEE,2NDEE,2SEE,2SHEE,2ZEE,2ZHEE,2CEE,2JEE",
    ",2NJEE,2YEE,2KEE,2NGGEE,2GEE,2MEE,2NEE,2NYEE,2I,2IN,2HI,2HIN,2WI,2WIN,2PI,2BHI,2BI,2MBI,2KPI",
    ",2MGBI,2GBI,2FI,2VI,2TI,2THI,2DHI,2DHHI,2LI,2RI,2DI,2NDI,2SI,2SHI,2ZI,2ZHI,2CI,2JI,2NJI,2YI,",
    "2KI,2NGGI,2GI,2MI,2NI,2NYI,2A,2AN,2NGAN,2HA,2HAN,2WA,2WAN,2PA,2BHA,2BA,2MBA,2KPA,2KPAN,2MGBA",
    ",2GBA,2FA,2VA,2TA,2THA,2DHA,2DHHA,2LA,2RA,2DA,2NDA,2SA,2SHA,2ZA,2ZHA,2CA,2JA,2NJA,2YA,2KA,2K",
    "AN,2NGGA,2GA,2MA,2NA,2NYA,2OO,2OON,2HOO,2WOO,2WOON,2POO,2BHOO,2BOO,2MBOO,2KPOO,2MGBOO,2GBOO,",
    "2FOO,2VOO,2TOO,2THOO,2DHOO,2DHHOO,2LOO,2ROO,2DOO,2NDOO,2SOO,2SHOO,2ZOO,2ZHOO,2COO,2JOO,2NJOO",
    ",2YOO,2KOO,2NGGOO,2GOO,2MOO,2NOO,2NYOO,2U,2UN,2HU,2HUN,2WU,2WUN,2PU,2BHU,2BU,2MBU,2KPU,2MGBU",
    ",2GBU,2FU,2VU,2TU,2THU,2DHU,2DHHU,2LU,2RU,2DU,2NDU,2SU,2SHU,2ZU,2ZHU,2CU,2JU,2NJU,2YU,2KU,2N",
    "GGU,2GU,2MU,2NU,2NYU,2O,2ON,2NGON,2HO,2HON,2WO,2WON,2PO,2BHO,2BO,2MBO,2KPO,2MGBO,2GBO,2GBON,",
    "2FO,2VO,2TO,2THO,2DHO,2DHHO,2LO,2RO,2DO,2NDO,2SO,2SHO,2ZO,2ZHO,2CO,2JO,2NJO,2YO,2KO,2NGGO,2G",
    "O,2MO,2NO,2NYO,2E,2EN,2NGEN,2HE,2HEN,2WE,2WEN,2PE,2BHE,2BE,2MBE,2KPE,2KPEN,2MGBE,2GBE,2GBEN,",
    "2FE,2VE,2TE,2THE,2DHE,2DHHE,2LE,2RE,2DE,2NDE,2SE,2SHE,2ZE,2ZHE,2CE,2JE,2NJE,2YE,2KE,2NGGE,2N",
    "GGEN,2GE,2GEN,2ME,2NE,2NYE,2NG,2LENGTHENER,1COMMA,1FULL STOP,1QUESTION MARK,1SYLLABLE NDOLE ",
    "FA,3KA,3SOO,1SYMBOL FEENG,2KEENG,2TING,2NII,2BANG,2FAA,2TAA,2DANG,2DOONG,2KUNG,2TONG,2DO-O,2",
    "JONG,1DIGIT ZERO,2ONE,2TWO,2THREE,2FOUR,2FIVE,2SIX,2SEVEN,2EIGHT,2NINE,1SYLLABLE NDOLE MA,3D",
    "O,=a640 0CYRILLIC CAPITAL LETTER ZEMLYA,1SMALL LETTER ZEMLYA,1CAPITAL LETTER DZELO,1SMALL LE",
    "TTER DZELO,1CAPITAL LETTER REVERSED DZE,1SMALL LETTER REVERSED DZE,1CAPITAL LETTER IOTA,1SMA",
    "LL LETTER IOTA,1CAPITAL LETTER DJERV,1SMALL LETTER DJERV,1CAPITAL LETTER MONOGRAPH UK,1SMAL",
    "L LETTER MONOGRAPH UK,1CAPITAL LETTER BROAD OMEGA,1SMALL LETTER BROAD OMEGA,1CAPITAL LETTER ",
    "NEUTRAL YER,1SMALL LETTER NEUTRAL YER,1CAPITAL LETTER YERU WITH BACK YER,1SMALL LETTER YERU ",
    "WITH BACK YER,1CAPITAL LETTER IOTIFIED YAT,1SMALL LETTER IOTIFIED YAT,1CAPITAL LETTER REVERS",
    "ED YU,1SMALL LETTER REVERSED YU,1CAPITAL LETTER IOTIFIED A,1SMALL LETTER IOTIFIED A,1CAPITA",
    "L LETTER CLOSED LITTLE YUS,1SMALL LETTER CLOSED LITTLE YUS,1CAPITAL LETTER BLENDED YUS,1SMAL",
    "L LETTER BLENDED YUS,1CAPITAL LETTER IOTIFIED CLOSED LITTLE YUS,1SMALL LETTER IOTIFIED CLOSE",
    "D LITTLE YUS,1CAPITAL LETTER YN,1SMALL LETTER YN,1CAPITAL LETTER REVERSED TSE,1SMALL LETTER ",
    "REVERSED TSE,1CAPITAL LETTER SOFT DE,1SMALL LETTER SOFT DE,1CAPITAL LETTER SOFT EL,1SMALL LE",
    "TTER SOFT EL,1CAPITAL LETTER SOFT EM,1SMALL LETTER SOFT EM,1CAPITAL LETTER MONOCULAR O,1SMAL",
    "L LETTER MONOCULAR O,1CAPITAL LETTER BINOCULAR O,1SMALL LETTER BINOCULAR O,1CAPITAL LETTER D",
    "OUBLE MONOCULAR O,1SMALL LETTER DOUBLE MONOCULAR O,1LETTER MULTIOCULAR O,0COMBINING CYRILLI",
    "C VZMET,2TEN MILLIONS SIGN,2HUNDRED MILLIONS SIGN,2THOUSAND MILLIONS SIGN,0SLAVONIC ASTERISK",
    ",0COMBINING CYRILLIC LETTER UKRAINIAN IE,3I,3YI,3U,3HARD SIGN,3YERU,3SOFT SIGN,3OMEGA,2KAVYK",
    "A,2PAYEROK,0CYRILLIC KAVYKA,1PAYEROK,1CAPITAL LETTER DWE,1SMALL LETTER DWE,1CAPITAL LETTER D",
    "ZWE,1SMALL LETTER DZWE,1CAPITAL LETTER ZHWE,1SMALL LETTER ZHWE,1CAPITAL LETTER CCHE,1SMALL L",
    "ETTER CCHE,1CAPITAL LETTER DZZE,1SMALL LETTER DZZE,1CAPITAL LETTER TE WITH MIDDLE HOOK,1SMAL",
    "L LETTER TE WITH MIDDLE HOOK,1CAPITAL LETTER TWE,1SMALL LETTER TWE,1CAPITAL LETTER TSWE,1SMA",
    "LL LETTER TSWE,1CAPITAL LETTER TSSE,1SMALL LETTER TSSE,1CAPITAL LETTER TCHE,1SMALL LETTER TC",
    "HE,1CAPITAL LETTER HWE,1SMALL LETTER HWE,1CAPITAL LETTER SHWE,1SMALL LETTER SHWE,1CAPITAL LE",
    "TTER DOUBLE O,1SMALL LETTER DOUBLE O,1CAPITAL LETTER CROSSED O,1SMALL LETTER CROSSED O,0MODI",
    "FIER LETTER CYRILLIC HARD SIGN,3SOFT SIGN,0COMBINING CYRILLIC LETTER EF,3IOTIFIED E,0BAMUM L",
    "ETTER A,2KA,2U,2KU,2EE,2REE,2TAE,2O,2NYI,2I,2LA,2PA,2RII,2RIEE,2LEEEE,2MEEEE,2TAA,2NDAA,2NJA",
    "EM,2M,2SUU,2MU,2SHII,2SI,2SHEUX,2SEUX,2KYEE,2KET,2NUAE,2NU,2NJUAE,2YOQ,2SHU,2YUQ,2YA,2NSHA,2",
    "KEUX,2PEUX,2NJEE,2NTEE,2PUE,2WUE,2PEE,2FEE,2RU,2LU,2MI,2NI,2REUX,2RAE,2KEN,2NGKWAEN,2NGGA,2N",
    "GA,2SHO,2PUAE,2FU,2FOM,2WA,2NA,2LI,2PI,2LOQ,2KO,2MBEN,2REN,2MEN,2MA,2TI,2KI,2MO,2MBAA,2TET,2",
    "KPA,2TEN,2NTUU,2SAMBA,2FAAMAE,2KOVUU,2KOGHOM,1COMBINING MARK KOQNDON,3TUKWENTIS,1NJAEMLI,1FU",
    "LL STOP,1COLON,1COMMA,1SEMICOLON,1QUESTION MARK,=a700 0MODIFIER LETTER CHINESE TONE YIN PING",
    ",4YANG PING,4YIN SHANG,4YANG SHANG,4YIN QU,4YANG QU,4YIN RU,4YANG RU,2EXTRA-HIGH DOTTED TON",
    "E BAR,2HIGH DOTTED TONE BAR,2MID DOTTED TONE BAR,2LOW DOTTED TONE BAR,2EXTRA-LOW DOTTED TON",
    "E BAR,2EXTRA-HIGH DOTTED LEFT-STEM TONE BAR,2HIGH DOTTED LEFT-STEM TONE BAR,2MID DOTTED LEFT",
    "-STEM TONE BAR,2LOW DOTTED LEFT-STEM TONE BAR,2EXTRA-LOW DOTTED LEFT-STEM TONE BAR,2EXTRA-HI",
    "GH LEFT-STEM TONE BAR,2HIGH LEFT-STEM TONE BAR,2MID LEFT-STEM TONE BAR,2LOW LEFT-STEM TONE B",
    "AR,2EXTRA-LOW LEFT-STEM TONE BAR,2DOT VERTICAL BAR,3SLASH,3HORIZONTAL BAR,2LOWER RIGHT CORNE",
    "R ANGLE,2RAISED UP ARROW,3DOWN ARROW,3EXCLAMATION MARK,3INVERTED EXCLAMATION MARK,2LOW INVER",
    "TED EXCLAMATION MARK,2STRESS AND HIGH TONE,4LOW TONE,0LATIN CAPITAL LETTER EGYPTOLOGICAL ALE",
    "F,1SMALL LETTER EGYPTOLOGICAL ALEF,1CAPITAL LETTER EGYPTOLOGICAL AIN,1SMALL LETTER EGYPTOLOG",
    "ICAL AIN,1CAPITAL LETTER HENG,1SMALL LETTER HENG,1CAPITAL LETTER TZ,1SMALL LETTER TZ,1CAPITA",
    "L LETTER TRESILLO,1SMALL LETTER TRESILLO,1CAPITAL LETTER CUATRILLO,1SMALL LETTER CUATRILLO,1",
    "CAPITAL LETTER CUATRILLO WITH COMMA,1SMALL LETTER CUATRILLO WITH COMMA,1LETTER SMALL CAPITA",
    "L F,4S,1CAPITAL LETTER AA,1SMALL LETTER AA,1CAPITAL LETTER AO,1SMALL LETTER AO,1CAPITAL LETT",
    "ER AU,1SMALL LETTER AU,1CAPITAL LETTER AV,1SMALL LETTER AV,1CAPITAL LETTER AV WITH HORIZONTA",
    "L BAR,1SMALL LETTER AV WITH HORIZONTAL BAR,1CAPITAL LETTER AY,1SMALL LETTER AY,1CAPITAL LETT",
    "ER REVERSED C WITH DOT,1SMALL LETTER REVERSED C WITH DOT,1CAPITAL LETTER K WITH STROKE,1SMAL",
    "L LETTER K WITH STROKE,1CAPITAL LETTER K WITH DIAGONAL STROKE,1SMALL LETTER K WITH DIAGONAL ",
    "STROKE,1CAPITAL LETTER K WITH STROKE AND DIAGONAL STROKE,1SMALL LETTER K WITH STROKE AND DIA",
    "GONAL STROKE,1CAPITAL LETTER BROKEN L,1SMALL LETTER BROKEN L,1CAPITAL LETTER L WITH HIGH STR",
    "OKE,1SMALL LETTER L WITH HIGH STROKE,1CAPITAL LETTER O WITH LONG STROKE OVERLAY,1SMALL LETTE",
    "R O WITH LONG STROKE OVERLAY,1CAPITAL LETTER O WITH LOOP,1SMALL LETTER O WITH LOOP,1CAPITAL ",
    "LETTER OO,1SMALL LETTER OO,1CAPITAL LETTER P WITH STROKE THROUGH DESCENDER,1SMALL LETTER P W",
    "ITH STROKE THROUGH DESCENDER,1CAPITAL LETTER P WITH FLOURISH,1SMALL LETTER P WITH FLOURISH,1",
    "CAPITAL LETTER P WITH SQUIRREL TAIL,1SMALL LETTER P WITH SQUIRREL TAIL,1CAPITAL LETTER Q WIT",
    "H STROKE THROUGH DESCENDER,1SMALL LETTER Q WITH STROKE THROUGH DESCENDER,1CAPITAL LETTER Q W",
    "ITH DIAGONAL STROKE,1SMALL LETTER Q WITH DIAGONAL STROKE,1CAPITAL LETTER R ROTUNDA,1SMALL LE",
    "TTER R ROTUNDA,1CAPITAL LETTER RUM ROTUNDA,1SMALL LETTER RUM ROTUNDA,1CAPITAL LETTER V WITH ",
    "DIAGONAL STROKE,1SMALL LETTER V WITH DIAGONAL STROKE,1CAPITAL LETTER VY,1SMALL LETTER VY,1CA",
    "PITAL LETTER VISIGOTHIC Z,1SMALL LETTER VISIGOTHIC Z,1CAPITAL LETTER THORN WITH STROKE,1SMAL",
    "L LETTER THORN WITH STROKE,1CAPITAL LETTER THORN WITH STROKE THROUGH DESCENDER,1SMALL LETTE",
    "R THORN WITH STROKE THROUGH DESCENDER,1CAPITAL LETTER VEND,1SMALL LETTER VEND,1CAPITAL LETTE",
    "R ET,1SMALL LETTER ET,1CAPITAL LETTER IS,1SMALL LETTER IS,1CAPITAL LETTER CON,1SMALL LETTER ",
    "CON,0MODIFIER LETTER US,0LATIN SMALL LETTER DUM,3LUM,3MUM,3NUM,3RUM,1LETTER SMALL CAPITAL RU",
    "M,1SMALL LETTER TUM,3UM,1CAPITAL LETTER INSULAR D,1SMALL LETTER INSULAR D,1CAPITAL LETTER IN",
    "SULAR F,1SMALL LETTER INSULAR F,1CAPITAL LETTER INSULAR G,3TURNED INSULAR G,1SMALL LETTER TU",
    "RNED INSULAR G,1CAPITAL LETTER TURNED L,1SMALL LETTER TURNED L,1CAPITAL LETTER INSULAR R,1SM",
    "ALL LETTER INSULAR R,1CAPITAL LETTER INSULAR S,1SMALL LETTER INSULAR S,1CAPITAL LETTER INSUL",
    "AR T,1SMALL LETTER INSULAR T,0MODIFIER LETTER LOW CIRCUMFLEX ACCENT,2COLON,2SHORT EQUALS SIG",
    "N,0LATIN CAPITAL LETTER SALTILLO,1SMALL LETTER SALTILLO,1CAPITAL LETTER TURNED H,1SMALL LETT",
    "ER L WITH RETROFLEX HOOK AND BELT,1LETTER SINOLOGICAL DOT,1CAPITAL LETTER N WITH DESCENDER,1",
    "SMALL LETTER N WITH DESCENDER,1CAPITAL LETTER C WITH BAR,1SMALL LETTER C WITH BAR,5PALATAL H",
    "OOK,3H WITH PALATAL HOOK,1CAPITAL LETTER B WITH FLOURISH,1SMALL LETTER B WITH FLOURISH,1CAPI",
    "TAL LETTER F WITH STROKE,1SMALL LETTER F WITH STROKE,1CAPITAL LETTER VOLAPUK AE,1SMALL LETTE",
    "R VOLAPUK AE,1CAPITAL LETTER VOLAPUK OE,1SMALL LETTER VOLAPUK OE,1CAPITAL LETTER VOLAPUK UE,",
    "1SMALL LETTER VOLAPUK UE,1CAPITAL LETTER G WITH OBLIQUE STROKE,1SMALL LETTER G WITH OBLIQUE ",
    "STROKE,1CAPITAL LETTER K WITH OBLIQUE STROKE,1SMALL LETTER K WITH OBLIQUE STROKE,1CAPITAL LE",
    "TTER N WITH OBLIQUE STROKE,1SMALL LETTER N WITH OBLIQUE STROKE,1CAPITAL LETTER R WITH OBLIQU",
    "E STROKE,1SMALL LETTER R WITH OBLIQUE STROKE,1CAPITAL LETTER S WITH OBLIQUE STROKE,1SMALL LE",
    "TTER S WITH OBLIQUE STROKE,1CAPITAL LETTER H WITH HOOK,3REVERSED OPEN E,3SCRIPT G,3L WITH BE",
    "LT,3SMALL CAPITAL I,1LETTER SMALL CAPITAL Q,1CAPITAL LETTER TURNED K,4T,3J WITH CROSSED-TAIL",
    ",3CHI,3BETA,1SMALL LETTER BETA,1CAPITAL LETTER OMEGA,1SMALL LETTER OMEGA,1CAPITAL LETTER U W",
    "ITH STROKE,1SMALL LETTER U WITH STROKE,1CAPITAL LETTER GLOTTAL A,1SMALL LETTER GLOTTAL A,1CA",
    "PITAL LETTER GLOTTAL I,1SMALL LETTER GLOTTAL I,1CAPITAL LETTER GLOTTAL U,1SMALL LETTER GLOTT",
    "AL U,1CAPITAL LETTER OLD POLISH O,1SMALL LETTER OLD POLISH O,1CAPITAL LETTER ANGLICANA W,1SM",
    "ALL LETTER ANGLICANA W,1CAPITAL LETTER C WITH PALATAL HOOK,3S WITH HOOK,3Z WITH PALATAL HOOK",
    ",3D WITH SHORT STROKE OVERLAY,1SMALL LETTER D WITH SHORT STROKE OVERLAY,1CAPITAL LETTER S WI",
    "TH SHORT STROKE OVERLAY,1SMALL LETTER S WITH SHORT STROKE OVERLAY,=a7d0 1CAPITAL LETTER CLOS",
    "ED INSULAR G,1SMALL LETTER CLOSED INSULAR G,=a7d3 3DOUBLE THORN,=a7d5 4WYNN,1CAPITAL LETTER ",
    "MIDDLE SCOTS S,1SMALL LETTER MIDDLE SCOTS S,1CAPITAL LETTER SIGMOID S,1SMALL LETTER SIGMOID ",
    "S,=a7f2 0MODIFIER LETTER CAPITAL C,3F,3Q,0LATIN CAPITAL LETTER REVERSED HALF H,1SMALL LETTE",
    "R REVERSED HALF H,1EPIGRAPHIC LETTER SIDEWAYS I,0MODIFIER LETTER CAPITAL H WITH STROKE,2SMAL",
    "L LIGATURE OE,0LATIN LETTER SMALL CAPITAL TURNED M,1EPIGRAPHIC LETTER REVERSED F,4P,3INVERTE",
    "D M,3I LONGA,3ARCHAIC M,0SYLOTI NAGRI LETTER A,3I,2SIGN DVISVARA,2LETTER U,3E,3O,2SIGN HASAN",
    "TA,2LETTER KO,3KHO,3GO,3GHO,2SIGN ANUSVARA,2LETTER CO,3CHO,3JO,3JHO,3TTO,3TTHO,3DDO,3DDHO,3T",
    "O,3THO,3DO,3DHO,3NO,3PO,3PHO,3BO,3BHO,3MO,3RO,3LO,3RRO,3SO,3HO,2VOWEL SIGN A,4I,4U,4E,4OO,2P",
    "OETRY MARK-1,3MARK-2,3MARK-3,3MARK-4,2SIGN ALTERNATE HASANTA,=a830 0NORTH INDIC FRACTION ON",
    "E QUARTER,4HALF,3THREE QUARTERS,3ONE SIXTEENTH,4EIGHTH,3THREE SIXTEENTHS,2QUARTER MARK,2PLAC",
    "EHOLDER MARK,2RUPEE MARK,2QUANTITY MARK,=a840 0PHAGS-PA LETTER KA,2KHA,2GA,2NGA,2CA,2CHA,2JA",
    ",2NYA,2TA,2THA,2DA,2NA,2PA,2PHA,2BA,2MA,2TSA,2TSHA,2DZA,2WA,2ZHA,2ZA,2SMALL A,2YA,2RA,2LA,2S",
    "HA,2SA,2HA,2A,2I,2U,2E,2O,2QA,2XA,2FA,2GGA,2EE,1SUBJOINED LETTER WA,3YA,1LETTER TTA,2TTHA,2D",
    "DA,2NNA,2ALTERNATE YA,2VOICELESS SHA,2VOICED HA,2ASPIRATED FA,1SUBJOINED LETTER RA,1SUPERFIX",
    "ED LETTER RA,1LETTER CANDRABINDU,1SINGLE HEAD MARK,1DOUBLE HEAD MARK,1MARK SHAD,2DOUBLE SHAD",
    ",=a880 0SAURASHTRA SIGN ANUSVARA,2VISARGA,1LETTER A,2AA,2I,2II,2U,2UU,2VOCALIC R,3RR,3L,3LL,",
    "2E,2EE,2AI,2O,2OO,2AU,2KA,2KHA,2GA,2GHA,2NGA,2CA,2CHA,2JA,2JHA,2NYA,2TTA,2TTHA,2DDA,2DDHA,2N",
    "NA,2TA,2THA,2DA,2DHA,2NA,2PA,2PHA,2BA,2BHA,2MA,2YA,2RA,2LA,2VA,2SHA,2SSA,2SA,2HA,2LLA,1CONSO",
    "NANT SIGN HAARU,1VOWEL SIGN AA,3I,3II,3U,3UU,3VOCALIC R,4RR,4L,4LL,3E,3EE,3AI,3O,3OO,3AU,1SI",
    "GN VIRAMA,2CANDRABINDU,=a8ce 1DANDA,1DOUBLE DANDA,1DIGIT ZERO,2ONE,2TWO,2THREE,2FOUR,2FIVE,2",
    "SIX,2SEVEN,2EIGHT,2NINE,=a8e0 0COMBINING DEVANAGARI DIGIT ZERO,3ONE,3TWO,3THREE,3FOUR,3FIVE,",
    "3SIX,3SEVEN,3EIGHT,3NINE,2LETTER A,3U,3KA,3NA,3PA,3RA,3VI,2SIGN AVAGRAHA,0DEVANAGARI SIGN SP",
    "ACING CANDRABINDU,2CANDRABINDU VIRAMA,2DOUBLE CANDRABINDU VIRAMA,2CANDRABINDU TWO,3THREE,3AV",
    "AGRAHA,2PUSHPIKA,1GAP FILLER,1CARET,1HEADSTROKE,1SIGN SIDDHAM,1JAIN OM,1LETTER AY,1VOWEL SIG",
    "N AY,0KAYAH LI DIGIT ZERO,3ONE,3TWO,3THREE,3FOUR,3FIVE,3SIX,3SEVEN,3EIGHT,3NINE,2LETTER KA,3",
    "KHA,3GA,3NGA,3SA,3SHA,3ZA,3NYA,3TA,3HTA,3NA,3PA,3PHA,3MA,3DA,3BA,3RA,3YA,3LA,3WA,3THA,3HA,3V",
    "A,3CA,3A,3OE,3I,3OO,2VOWEL UE,3E,3U,3EE,3O,2TONE PLOPHU,3CALYA,4PLOPHU,2SIGN CWI,3SHYA,0REJA",
    "NG LETTER KA,2GA,2NGA,2TA,2DA,2NA,2PA,2BA,2MA,2CA,2JA,2NYA,2SA,2RA,2LA,2YA,2WA,2HA,2MBA,2NGG",
    "A,2NDA,2NYJA,2A,1VOWEL SIGN I,3U,3E,3AI,3O,3AU,3EU,3EA,1CONSONANT SIGN NG,3N,3R,3H,1VIRAMA,=",
    "a95f 1SECTION MARK,0HANGUL CHOSEONG TIKEUT-MIEUM,2TIKEUT-PIEUP,2TIKEUT-SIOS,2TIKEUT-CIEUC,2R",
    "IEUL-KIYEOK,2RIEUL-SSANGKIYEOK,2RIEUL-TIKEUT,2RIEUL-SSANGTIKEUT,2RIEUL-MIEUM,2RIEUL-PIEUP,2R",
    "IEUL-SSANGPIEUP,2RIEUL-KAPYEOUNPIEUP,2RIEUL-SIOS,2RIEUL-CIEUC,2RIEUL-KHIEUKH,2MIEUM-KIYEOK,2",
    "MIEUM-TIKEUT,2MIEUM-SIOS,2PIEUP-SIOS-THIEUTH,2PIEUP-KHIEUKH,2PIEUP-HIEUH,2SSANGSIOS-PIEUP,2I",
    "EUNG-RIEUL,2IEUNG-HIEUH,2SSANGCIEUC-HIEUH,2SSANGTHIEUTH,2PHIEUPH-HIEUH,2HIEUH-SIOS,2SSANGYEO",
    "RINHIEUH,=a980 0JAVANESE SIGN PANYANGGA,2CECAK,2LAYAR,2WIGNYAN,1LETTER A,2I KAWI,3,2II,2U,2P",
    "A CEREK,2NGA LELET,4RASWADI,2E,2AI,2O,2KA,3SASAK,3MURDA,2GA,3MURDA,2NGA,2CA,3MURDA,2JA,2NYA ",
    "MURDA,2JA MAHAPRANA,2NYA,2TTA,3MAHAPRANA,2DDA,3MAHAPRANA,2NA MURDA,2TA,3MURDA,2DA,3MAHAPRANA",
    ",2NA,2PA,3MURDA,2BA,3MURDA,2MA,2YA,2RA,3AGUNG,2LA,2WA,2SA MURDA,3MAHAPRANA,3,2HA,1SIGN CECA",
    "K TELU,1VOWEL SIGN TARUNG,3TOLONG,3WULU,4MELIK,3SUKU,4MENDUT,3TALING,3DIRGA MURE,3PEPET,1CON",
    "SONANT SIGN KERET,3PENGKAL,3CAKRA,1PANGKON,1LEFT RERENGGAN,1RIGHT RERENGGAN,1PADA ANDAP,2MAD",
    "YA,2LUHUR,2WINDU,2PANGKAT,2LINGSA,2LUNGSI,2ADEG,3ADEG,2PISELEH,1TURNED PADA PISELEH,=a9cf 1P",
    "ANGRANGKEP,1DIGIT ZERO,2ONE,2TWO,2THREE,2FOUR,2FIVE,2SIX,2SEVEN,2EIGHT,2NINE,=a9de 1PADA TIR",
    "TA TUMETES,2ISEN-ISEN,0MYANMAR LETTER SHAN GHA,3CHA,3JHA,3NNA,3BHA,1SIGN SHAN SAW,1MODIFIER ",
    "LETTER SHAN REDUPLICATION,1LETTER TAI LAING NYA,4FA,4GA,4GHA,4JA,4JHA,4DDA,4DDHA,4NNA,1TAI L",
    "AING DIGIT ZERO,4ONE,4TWO,4THREE,4FOUR,4FIVE,4SIX,4SEVEN,4EIGHT,4NINE,1LETTER TAI LAING LLA,",
    "4DA,4DHA,4BA,4BHA,=aa00 0CHAM LETTER A,2I,2U,2E,2AI,2O,2KA,2KHA,2GA,2GHA,2NGUE,2NGA,2CHA,2CH",
    "HA,2JA,2JHA,2NHUE,2NHA,2NHJA,2TA,2THA,2DA,2DHA,2NUE,2NA,2DDA,2PA,2PPA,2PHA,2BA,2BHA,2MUE,2MA",
    ",2BBA,2YA,2RA,2LA,2VA,2SSA,2SA,2HA,1VOWEL SIGN AA,3I,3II,3EI,3U,3OE,3O,3AI,3AU,3UE,1CONSONAN",
    "T SIGN YA,3RA,3LA,3WA,=aa40 1LETTER FINAL K,3G,3NG,1CONSONANT SIGN FINAL NG,1LETTER FINAL CH",
    ",3T,3N,3P,3Y,3R,3L,3SS,1CONSONANT SIGN FINAL M,4H,=aa50 1DIGIT ZERO,2ONE,2TWO,2THREE,2FOUR,2",
    "FIVE,2SIX,2SEVEN,2EIGHT,2NINE,=aa5c 1PUNCTUATION SPIRAL,2DANDA,2DOUBLE DANDA,2TRIPLE DANDA,0",
    "MYANMAR LETTER KHAMTI GA,3CA,3CHA,3JA,3JHA,3NYA,3TTA,3TTHA,3DDA,3DDHA,3DHA,3NA,3SA,3HA,3HHA,",
    "=aa6e 3LLA,3FA,1MODIFIER LETTER KHAMTI REDUPLICATION,1LETTER KHAMTI XA,3ZA,3RA,1LOGOGRAM KHA",
    "MTI OAY,3QN,3HM,1SYMBOL AITON EXCLAMATION,3ONE,3TWO,1LETTER AITON RA,1SIGN PAO KAREN TONE,2T",
    "AI LAING TONE-2,4TONE-5,1LETTER SHWE PALAUNG CHA,4SHA,0TAI VIET LETTER LOW KO,3HIGH KO,3LOW ",
    "KHO,3HIGH KHO,3LOW KHHO,3HIGH KHHO,3LOW GO,3HIGH GO,3LOW NGO,3HIGH NGO,3LOW CO,3HIGH CO,3LO",
    "W CHO,3HIGH CHO,3LOW SO,3HIGH SO,3LOW NYO,3HIGH NYO,3LOW DO,3HIGH DO,3LOW TO,3HIGH TO,3LOW T",
    "HO,3HIGH THO,3LOW NO,3HIGH NO,3LOW BO,3HIGH BO,3LOW PO,3HIGH PO,3LOW PHO,3HIGH PHO,3LOW FO,3",
    "HIGH FO,3LOW MO,3HIGH MO,3LOW YO,3HIGH YO,3LOW RO,3HIGH RO,3LOW LO,3HIGH LO,3LOW VO,3HIGH VO",
    ",3LOW HO,3HIGH HO,3LOW O,3HIGH O,2MAI KANG,2VOWEL AA,3I,3UE,3U,3E,3O,2MAI KHIT,2VOWEL IA,3UE",
    "A,3UA,3AUE,3AY,3AN,3AM,2TONE MAI EK,4NUENG,4THO,4SONG,=aadb 2SYMBOL KON,3NUENG,3SAM,3HO HOI,",
    "3KOI KOI,0MEETEI MAYEK LETTER E,3O,3CHA,3NYA,3TTA,3TTHA,3DDA,3DDHA,3NNA,3SHA,3SSA,2VOWEL SIG",
    "N II,4UU,4AAI,4AU,4AAU,2CHEIKHAN,2AHANG KHUDAM,2ANJI,2SYLLABLE REPETITION MARK,2WORD REPETIT",
    "ION MARK,2VOWEL SIGN VISARGA,2VIRAMA,=ab01 0ETHIOPIC SYLLABLE TTHU,2TTHI,2TTHAA,2TTHEE,2TTHE",
    ",2TTHO,=ab09 2DDHU,2DDHI,2DDHAA,2DDHEE,2DDHE,2DDHO,=ab11 2DZU,2DZI,2DZAA,2DZEE,2DZE,2DZO,=ab",
    "20 2CCHHA,2CCHHU,2CCHHI,2CCHHAA,2CCHHEE,2CCHHE,2CCHHO,=ab28 2BBA,2BBU,2BBI,2BBAA,2BBEE,2BBE,",
    "2BBO,=ab30 0LATIN SMALL LETTER BARRED ALPHA,3A REVERSED-SCHWA,3BLACKLETTER E,3BARRED E,3E WI",
    "TH FLOURISH,3LENIS F,3SCRIPT G WITH CROSSED-TAIL,3L WITH INVERTED LAZY S,5DOUBLE MIDDLE TILD",
    "E,5MIDDLE RING,3M WITH CROSSED-TAIL,3N WITH CROSSED-TAIL,3ENG WITH CROSSED-TAIL,3BLACKLETTE",
    "R O,5WITH STROKE,3OPEN O WITH STROKE,3INVERTED OE,3TURNED OE WITH STROKE,6HORIZONTAL STROKE,",
    "4O OPEN-O,6WITH STROKE,3STIRRUP R,1LETTER SMALL CAPITAL R WITH RIGHT LEG,1SMALL LETTER R WIT",
    "HOUT HANDLE,3DOUBLE R,3R WITH CROSSED-TAIL,3DOUBLE R WITH CROSSED-TAIL,3SCRIPT R,5WITH RING,",
    "3BASELINE ESH,3U WITH SHORT RIGHT LEG,4BAR WITH SHORT RIGHT LEG,3UI,3TURNED UI,3U WITH LEFT ",
    "HOOK,3CHI,4WITH LOW RIGHT RING,6LEFT SERIF,3X WITH LOW RIGHT RING,5LONG LEFT LEG,8AND LOW RI",
    "GHT RING,8WITH SERIF,3Y WITH SHORT RIGHT LEG,0MODIFIER BREVE WITH INVERTED BREVE,1LETTER SMA",
    "LL HENG,3L WITH INVERTED LAZY S,5MIDDLE TILDE,3U WITH LEFT HOOK,0LATIN SMALL LETTER SAKHA YA",
    "T,3IOTIFIED E,3OPEN OE,3UO,3INVERTED ALPHA,0GREEK LETTER SMALL CAPITAL OMEGA,0LATIN SMALL LE",
    "TTER DZ DIGRAPH WITH RETROFLEX HOOK,3TS DIGRAPH WITH RETROFLEX HOOK,3TURNED R WITH MIDDLE TI",
    "LDE,0MODIFIER LETTER SMALL TURNED W,2LEFT TACK,2RIGHT TACK,=ab70 0CHEROKEE SMALL LETTER A,3E",
    ",3I,3O,3U,3V,3GA,3KA,3GE,3GI,3GO,3GU,3GV,3HA,3HE,3HI,3HO,3HU,3HV,3LA,3LE,3LI,3LO,3LU,3LV,3MA",
    ",3ME,3MI,3MO,3MU,3NA,3HNA,3NAH,3NE,3NI,3NO,3NU,3NV,3QUA,3QUE,3QUI,3QUO,3QUU,3QUV,3SA,3S,3SE,",
    "3SI,3SO,3SU,3SV,3DA,3TA,3DE,3TE,3DI,3TI,3DO,3DU,3DV,3DLA,3TLA,3TLE,3TLI,3TLO,3TLU,3TLV,3TSA,",
    "3TSE,3TSI,3TSO,3TSU,3TSV,3WA,3WE,3WI,3WO,3WU,3WV,3YA,0MEETEI MAYEK LETTER KOK,3SAM,3LAI,3MIT",
    ",3PA,3NA,3CHIL,3TIL,3KHOU,3NGOU,3THOU,3WAI,3YANG,3HUK,3UN,3I,3PHAM,3ATIYA,3GOK,3JHAM,3RAI,3B",
    "A,3JIL,3DIL,3GHOU,3DHOU,3BHAM,3KOK LONSUM,3LAI LONSUM,3MIT LONSUM,3PA LONSUM,3NA LONSUM,3TI",
    "L LONSUM,3NGOU LONSUM,3I LONSUM,2VOWEL SIGN ONAP,4INAP,4ANAP,4YENAP,4SOUNAP,4UNAP,4CHEINAP,4",
    "NUNG,2CHEIKHEI,2LUM IYEK,2APUN IYEK,=abf0 2DIGIT ZERO,3ONE,3TWO,3THREE,3FOUR,3FIVE,3SIX,3SEV",
    "EN,3EIGHT,3NINE,=d7b0 0HANGUL JUNGSEONG O-YEO,2O-O-I,2YO-A,2YO-AE,2YO-EO,2U-YEO,2U-I-I,2YU-A",
    "E,2YU-O,2EU-A,2EU-EO,2EU-E,2EU-O,2I-YA-O,2I-YAE,2I-YEO,2I-YE,2I-O-I,2I-YO,2I-YU,2I-I,2ARAEA-",
    "A,2ARAEA-E,=d7cb 1JONGSEONG NIEUN-RIEUL,2NIEUN-CHIEUCH,2SSANGTIKEUT,2SSANGTIKEUT-PIEUP,2TIKE",
    "UT-PIEUP,2TIKEUT-SIOS,2TIKEUT-SIOS-KIYEOK,2TIKEUT-CIEUC,2TIKEUT-CHIEUCH,2TIKEUT-THIEUTH,2RIE",
    "UL-SSANGKIYEOK,2RIEUL-KIYEOK-HIEUH,2SSANGRIEUL-KHIEUKH,2RIEUL-MIEUM-HIEUH,2RIEUL-PIEUP-TIKEU",
    "T,2RIEUL-PIEUP-PHIEUPH,2RIEUL-YESIEUNG,2RIEUL-YEORINHIEUH-HIEUH,2KAPYEOUNRIEUL,2MIEUM-NIEUN,",
    "2MIEUM-SSANGNIEUN,2SSANGMIEUM,2MIEUM-PIEUP-SIOS,2MIEUM-CIEUC,2PIEUP-TIKEUT,2PIEUP-RIEUL-PHIE",
    "UPH,2PIEUP-MIEUM,2SSANGPIEUP,2PIEUP-SIOS-TIKEUT,2PIEUP-CIEUC,2PIEUP-CHIEUCH,2SIOS-MIEUM,2SIO",
    "S-KAPYEOUNPIEUP,2SSANGSIOS-KIYEOK,2SSANGSIOS-TIKEUT,2SIOS-PANSIOS,2SIOS-CIEUC,2SIOS-CHIEUCH,",
    "2SIOS-THIEUTH,2SIOS-HIEUH,2PANSIOS-PIEUP,2PANSIOS-KAPYEOUNPIEUP,2YESIEUNG-MIEUM,2YESIEUNG-HI",
    "EUH,2CIEUC-PIEUP,2CIEUC-SSANGPIEUP,2SSANGCIEUC,2PHIEUPH-SIOS,2PHIEUPH-THIEUTH,=fb00 0LATIN S",
    "MALL LIGATURE FF,3FI,3FL,3FFI,3FFL,3LONG S T,3ST,=fb13 0ARMENIAN SMALL LIGATURE MEN NOW,4ECH",
    ",4INI,3VEW NOW,3MEN XEH,=fb1d 0HEBREW LETTER YOD WITH HIRIQ,1POINT JUDEO-SPANISH VARIKA,1LIG",
    "ATURE YIDDISH YOD YOD PATAH,1LETTER ALTERNATIVE AYIN,2WIDE ALEF,3DALET,3HE,3KAF,3LAMED,3FINA",
    "L MEM,3RESH,3TAV,2ALTERNATIVE PLUS SIGN,2SHIN WITH SHIN DOT,4SIN DOT,4DAGESH AND SHIN DOT,6S",
    "IN DOT,2ALEF WITH PATAH,4QAMATS,4MAPIQ,2BET WITH DAGESH,2GIMEL WITH DAGESH,2DALET WITH DAGES",
    "H,2HE WITH MAPIQ,2VAV WITH DAGESH,2ZAYIN WITH DAGESH,=fb38 2TET WITH DAGESH,2YOD WITH DAGESH",
    ",2FINAL KAF WITH DAGESH,2KAF WITH DAGESH,2LAMED WITH DAGESH,=fb3e 2MEM WITH DAGESH,=fb40 2NU",
    "N WITH DAGESH,2SAMEKH WITH DAGESH,=fb43 2FINAL PE WITH DAGESH,2PE WITH DAGESH,=fb46 2TSADI W",
    "ITH DAGESH,2QOF WITH DAGESH,2RESH WITH DAGESH,2SHIN WITH DAGESH,2TAV WITH DAGESH,2VAV WITH H",
    "OLAM,2BET WITH RAFE,2KAF WITH RAFE,2PE WITH RAFE,1LIGATURE ALEF LAMED,0ARABIC LETTER ALEF WA",
    "SLA ISOLATED FORM,4FINAL FORM,2BEEH ISOLATED FORM,3FINAL FORM,3INITIAL FORM,3MEDIAL FORM,2PE",
    "H ISOLATED FORM,3FINAL FORM,3INITIAL FORM,3MEDIAL FORM,2BEHEH ISOLATED FORM,3FINAL FORM,3INI",
    "TIAL FORM,3MEDIAL FORM,2TTEHEH ISOLATED FORM,3FINAL FORM,3INITIAL FORM,3MEDIAL FORM,2TEHEH I",
    "SOLATED FORM,3FINAL FORM,3INITIAL FORM,3MEDIAL FORM,2TTEH ISOLATED FORM,3FINAL FORM,3INITIA",
    "L FORM,3MEDIAL FORM,2VEH ISOLATED FORM,3FINAL FORM,3INITIAL FORM,3MEDIAL FORM,2PEHEH ISOLATE",
    "D FORM,3FINAL FORM,3INITIAL FORM,3MEDIAL FORM,2DYEH ISOLATED FORM,3FINAL FORM,3INITIAL FORM,",
    "3MEDIAL FORM,2NYEH ISOLATED FORM,3FINAL FORM,3INITIAL FORM,3MEDIAL FORM,2TCHEH ISOLATED FORM",
    ",3FINAL FORM,3INITIAL FORM,3MEDIAL FORM,2TCHEHEH ISOLATED FORM,3FINAL FORM,3INITIAL FORM,3ME",
    "DIAL FORM,2DDAHAL ISOLATED FORM,3FINAL FORM,2DAHAL ISOLATED FORM,3FINAL FORM,2DUL ISOLATED F",
    "ORM,3FINAL FORM,2DDAL ISOLATED FORM,3FINAL FORM,2JEH ISOLATED FORM,3FINAL FORM,2RREH ISOLATE",
    "D FORM,3FINAL FORM,2KEHEH ISOLATED FORM,3FINAL FORM,3INITIAL FORM,3MEDIAL FORM,2GAF ISOLATE",
    "D FORM,3FINAL FORM,3INITIAL FORM,3MEDIAL FORM,2GUEH ISOLATED FORM,3FINAL FORM,3INITIAL FORM,",
    "3MEDIAL FORM,2NGOEH ISOLATED FORM,3FINAL FORM,3INITIAL FORM,3MEDIAL FORM,2NOON GHUNNA ISOLAT",
    "ED FORM,4FINAL FORM,2RNOON ISOLATED FORM,3FINAL FORM,3INITIAL FORM,3MEDIAL FORM,2HEH WITH YE",
    "H ABOVE ISOLATED FORM,6FINAL FORM,3GOAL ISOLATED FORM,4FINAL FORM,4INITIAL FORM,4MEDIAL FORM",
    ",3DOACHASHMEE ISOLATED FORM,4FINAL FORM,4INITIAL FORM,4MEDIAL FORM,2YEH BARREE ISOLATED FORM",
    ",4FINAL FORM,4WITH HAMZA ABOVE ISOLATED FORM,7FINAL FORM,1SYMBOL DOT ABOVE,3BELOW,2TWO DOTS ",
    "ABOVE,4BELOW,2THREE DOTS ABOVE,4BELOW,4POINTING DOWNWARDS ABOVE,6BELOW,2FOUR DOTS ABOVE,4BEL",
    "OW,2DOUBLE VERTICAL BAR BELOW,2TWO DOTS VERTICALLY ABOVE,5BELOW,2RING,2SMALL TAH ABOVE,4BELO",
    "W,2WASLA ABOVE,=fbd3 1LETTER NG ISOLATED FORM,3FINAL FORM,3INITIAL FORM,3MEDIAL FORM,2U ISOL",
    "ATED FORM,3FINAL FORM,2OE ISOLATED FORM,3FINAL FORM,2YU ISOLATED FORM,3FINAL FORM,2U WITH HA",
    "MZA ABOVE ISOLATED FORM,2VE ISOLATED FORM,3FINAL FORM,2KIRGHIZ OE ISOLATED FORM,4FINAL FORM,",
    "3YU ISOLATED FORM,4FINAL FORM,2E ISOLATED FORM,3FINAL FORM,3INITIAL FORM,3MEDIAL FORM,2UIGHU",
    "R KAZAKH KIRGHIZ ALEF MAKSURA INITIAL FORM,7MEDIAL FORM,1LIGATURE YEH WITH HAMZA ABOVE WITH ",
    "ALEF ISOLATED FORM,8FINAL FORM,7AE ISOLATED FORM,8FINAL FORM,7WAW ISOLATED FORM,8FINAL FORM,",
    "7U ISOLATED FORM,8FINAL FORM,7OE ISOLATED FORM,8FINAL FORM,7YU ISOLATED FORM,8FINAL FORM,7E ",
    "ISOLATED FORM,8FINAL FORM,8INITIAL FORM,2UIGHUR KIRGHIZ YEH WITH HAMZA ABOVE WITH ALEF MAKSU",
    "RA ISOLATED FORM,bFINAL FORM,bINITIAL FORM,1LETTER FARSI YEH ISOLATED FORM,4FINAL FORM,4INIT",
    "IAL FORM,4MEDIAL FORM,1LIGATURE YEH WITH HAMZA ABOVE WITH JEEM ISOLATED FORM,7HAH ISOLATED F",
    "ORM,7MEEM ISOLATED FORM,7ALEF MAKSURA ISOLATED FORM,7YEH ISOLATED FORM,2BEH WITH JEEM ISOLAT",
    "ED FORM,4HAH ISOLATED FORM,4KHAH ISOLATED FORM,4MEEM ISOLATED FORM,4ALEF MAKSURA ISOLATED FO",
    "RM,4YEH ISOLATED FORM,2TEH WITH JEEM ISOLATED FORM,4HAH ISOLATED FORM,4KHAH ISOLATED FORM,4M",
    "EEM ISOLATED FORM,4ALEF MAKSURA ISOLATED FORM,4YEH ISOLATED FORM,2THEH WITH JEEM ISOLATED FO",
    "RM,4MEEM ISOLATED FORM,4ALEF MAKSURA ISOLATED FORM,4YEH ISOLATED FORM,2JEEM WITH HAH ISOLATE",
    "D FORM,4MEEM ISOLATED FORM,2HAH WITH JEEM ISOLATED FORM,4MEEM ISOLATED FORM,2KHAH WITH JEEM ",
    "ISOLATED FORM,4HAH ISOLATED FORM,4MEEM ISOLATED FORM,2SEEN WITH JEEM ISOLATED FORM,4HAH ISOL",
    "ATED FORM,4KHAH ISOLATED FORM,4MEEM ISOLATED FORM,2SAD WITH HAH ISOLATED FORM,4MEEM ISOLATE",
    "D FORM,2DAD WITH JEEM ISOLATED FORM,4HAH ISOLATED FORM,4KHAH ISOLATED FORM,4MEEM ISOLATED FO",
    "RM,2TAH WITH HAH ISOLATED FORM,4MEEM ISOLATED FORM,2ZAH WITH MEEM ISOLATED FORM,2AIN WITH JE",
    "EM ISOLATED FORM,4MEEM ISOLATED FORM,2GHAIN WITH JEEM ISOLATED FORM,4MEEM ISOLATED FORM,2FE",
    "H WITH JEEM ISOLATED FORM,4HAH ISOLATED FORM,4KHAH ISOLATED FORM,4MEEM ISOLATED FORM,4ALEF M",
    "AKSURA ISOLATED FORM,4YEH ISOLATED FORM,2QAF WITH HAH ISOLATED FORM,4MEEM ISOLATED FORM,4ALE",
    "F MAKSURA ISOLATED FORM,4YEH ISOLATED FORM,2KAF WITH ALEF ISOLATED FORM,4JEEM ISOLATED FORM,",
    "4HAH ISOLATED FORM,4KHAH ISOLATED FORM,4LAM ISOLATED FORM,4MEEM ISOLATED FORM,4ALEF MAKSURA ",
    "ISOLATED FORM,4YEH ISOLATED FORM,2LAM WITH JEEM ISOLATED FORM,4HAH ISOLATED FORM,4KHAH ISOLA",
    "TED FORM,4MEEM ISOLATED FORM,4ALEF MAKSURA ISOLATED FORM,4YEH ISOLATED FORM,2MEEM WITH JEEM ",
    "ISOLATED FORM,4HAH ISOLATED FORM,4KHAH ISOLATED FORM,4MEEM ISOLATED FORM,4ALEF MAKSURA ISOLA",
    "TED FORM,4YEH ISOLATED FORM,2NOON WITH JEEM ISOLATED FORM,4HAH ISOLATED FORM,4KHAH ISOLATED ",
    "FORM,4MEEM ISOLATED FORM,4ALEF MAKSURA ISOLATED FORM,4YEH ISOLATED FORM,2HEH WITH JEEM ISOLA",
    "TED FORM,4MEEM ISOLATED FORM,4ALEF MAKSURA ISOLATED FORM,4YEH ISOLATED FORM,2YEH WITH JEEM I",
    "SOLATED FORM,4HAH ISOLATED FORM,4KHAH ISOLATED FORM,4MEEM ISOLATED FORM,4ALEF MAKSURA ISOLAT",
    "ED FORM,4YEH ISOLATED FORM,2THAL WITH SUPERSCRIPT ALEF ISOLATED FORM,2REH WITH SUPERSCRIPT A",
    "LEF ISOLATED FORM,2ALEF MAKSURA WITH SUPERSCRIPT ALEF ISOLATED FORM,2SHADDA WITH DAMMATAN IS",
    "OLATED FORM,4KASRATAN ISOLATED FORM,4FATHA ISOLATED FORM,4DAMMA ISOLATED FORM,4KASRA ISOLATE",
    "D FORM,4SUPERSCRIPT ALEF ISOLATED FORM,2YEH WITH HAMZA ABOVE WITH REH FINAL FORM,7ZAIN FINA",
    "L FORM,7MEEM FINAL FORM,7NOON FINAL FORM,7ALEF MAKSURA FINAL FORM,7YEH FINAL FORM,2BEH WITH ",
    "REH FINAL FORM,4ZAIN FINAL FORM,4MEEM FINAL FORM,4NOON FINAL FORM,4ALEF MAKSURA FINAL FORM,4",
    "YEH FINAL FORM,2TEH WITH REH FINAL FORM,4ZAIN FINAL FORM,4MEEM FINAL FORM,4NOON FINAL FORM,4",
    "ALEF MAKSURA FINAL FORM,4YEH FINAL FORM,2THEH WITH REH FINAL FORM,4ZAIN FINAL FORM,4MEEM FIN",
    "AL FORM,4NOON FINAL FORM,4ALEF MAKSURA FINAL FORM,4YEH FINAL FORM,2FEH WITH ALEF MAKSURA FIN",
    "AL FORM,4YEH FINAL FORM,2QAF WITH ALEF MAKSURA FINAL FORM,4YEH FINAL FORM,2KAF WITH ALEF FIN",
    "AL FORM,4LAM FINAL FORM,4MEEM FINAL FORM,4ALEF MAKSURA FINAL FORM,4YEH FINAL FORM,2LAM WITH ",
    "MEEM FINAL FORM,4ALEF MAKSURA FINAL FORM,4YEH FINAL FORM,2MEEM WITH ALEF FINAL FORM,4MEEM FI",
    "NAL FORM,2NOON WITH REH FINAL FORM,4ZAIN FINAL FORM,4MEEM FINAL FORM,4NOON FINAL FORM,4ALEF ",
    "MAKSURA FINAL FORM,4YEH FINAL FORM,2ALEF MAKSURA WITH SUPERSCRIPT ALEF FINAL FORM,2YEH WITH ",
    "REH FINAL FORM,4ZAIN FINAL FORM,4MEEM FINAL FORM,4NOON FINAL FORM,4ALEF MAKSURA FINAL FORM,4",
    "YEH FINAL FORM,4HAMZA ABOVE WITH JEEM INITIAL FORM,7HAH INITIAL FORM,7KHAH INITIAL FORM,7MEE",
    "M INITIAL FORM,7HEH INITIAL FORM,2BEH WITH JEEM INITIAL FORM,4HAH INITIAL FORM,4KHAH INITIA",
    "L FORM,4MEEM INITIAL FORM,4HEH INITIAL FORM,2TEH WITH JEEM INITIAL FORM,4HAH INITIAL FORM,4K",
    "HAH INITIAL FORM,4MEEM INITIAL FORM,4HEH INITIAL FORM,2THEH WITH MEEM INITIAL FORM,2JEEM WIT",
    "H HAH INITIAL FORM,4MEEM INITIAL FORM,2HAH WITH JEEM INITIAL FORM,4MEEM INITIAL FORM,2KHAH W",
    "ITH JEEM INITIAL FORM,4MEEM INITIAL FORM,2SEEN WITH JEEM INITIAL FORM,4HAH INITIAL FORM,4KHA",
    "H INITIAL FORM,4MEEM INITIAL FORM,2SAD WITH HAH INITIAL FORM,4KHAH INITIAL FORM,4MEEM INITIA",
    "L FORM,2DAD WITH JEEM INITIAL FORM,4HAH INITIAL FORM,4KHAH INITIAL FORM,4MEEM INITIAL FORM,2",
    "TAH WITH HAH INITIAL FORM,2ZAH WITH MEEM INITIAL FORM,2AIN WITH JEEM INITIAL FORM,4MEEM INIT",
    "IAL FORM,2GHAIN WITH JEEM INITIAL FORM,4MEEM INITIAL FORM,2FEH WITH JEEM INITIAL FORM,4HAH I",
    "NITIAL FORM,4KHAH INITIAL FORM,4MEEM INITIAL FORM,2QAF WITH HAH INITIAL FORM,4MEEM INITIAL F",
    "ORM,2KAF WITH JEEM INITIAL FORM,4HAH INITIAL FORM,4KHAH INITIAL FORM,4LAM INITIAL FORM,4MEE",
    "M INITIAL FORM,2LAM WITH JEEM INITIAL FORM,4HAH INITIAL FORM,4KHAH INITIAL FORM,4MEEM INITIA",
    "L FORM,4HEH INITIAL FORM,2MEEM WITH JEEM INITIAL FORM,4HAH INITIAL FORM,4KHAH INITIAL FORM,4",
    "MEEM INITIAL FORM,2NOON WITH JEEM INITIAL FORM,4HAH INITIAL FORM,4KHAH INITIAL FORM,4MEEM IN",
    "ITIAL FORM,4HEH INITIAL FORM,2HEH WITH JEEM INITIAL FORM,4MEEM INITIAL FORM,4SUPERSCRIPT ALE",
    "F INITIAL FORM,2YEH WITH JEEM INITIAL FORM,4HAH INITIAL FORM,4KHAH INITIAL FORM,4MEEM INITIA",
    "L FORM,4HEH INITIAL FORM,4HAMZA ABOVE WITH MEEM MEDIAL FORM,7HEH MEDIAL FORM,2BEH WITH MEEM ",
    "MEDIAL FORM,4HEH MEDIAL FORM,2TEH WITH MEEM MEDIAL FORM,4HEH MEDIAL FORM,2THEH WITH MEEM MED",
    "IAL FORM,4HEH MEDIAL FORM,2SEEN WITH MEEM MEDIAL FORM,4HEH MEDIAL FORM,2SHEEN WITH MEEM MEDI",
    "AL FORM,4HEH MEDIAL FORM,2KAF WITH LAM MEDIAL FORM,4MEEM MEDIAL FORM,2LAM WITH MEEM MEDIAL F",
    "ORM,2NOON WITH MEEM MEDIAL FORM,4HEH MEDIAL FORM,2YEH WITH MEEM MEDIAL FORM,4HEH MEDIAL FORM",
    ",2SHADDA WITH FATHA MEDIAL FORM,4DAMMA MEDIAL FORM,4KASRA MEDIAL FORM,2TAH WITH ALEF MAKSUR",
    "A ISOLATED FORM,4YEH ISOLATED FORM,2AIN WITH ALEF MAKSURA ISOLATED FORM,4YEH ISOLATED FORM,2",
    "GHAIN WITH ALEF MAKSURA ISOLATED FORM,4YEH ISOLATED FORM,2SEEN WITH ALEF MAKSURA ISOLATED FO",
    "RM,4YEH ISOLATED FORM,2SHEEN WITH ALEF MAKSURA ISOLATED FORM,4YEH ISOLATED FORM,2HAH WITH AL",
    "EF MAKSURA ISOLATED FORM,4YEH ISOLATED FORM,2JEEM WITH ALEF MAKSURA ISOLATED FORM,4YEH ISOLA",
    "TED FORM,2KHAH WITH ALEF MAKSURA ISOLATED FORM,4YEH ISOLATED FORM,2SAD WITH ALEF MAKSURA ISO",
    "LATED FORM,4YEH ISOLATED FORM,2DAD WITH ALEF MAKSURA ISOLATED FORM,4YEH ISOLATED FORM,2SHEE",
    "N WITH JEEM ISOLATED FORM,4HAH ISOLATED FORM,4KHAH ISOLATED FORM,4MEEM ISOLATED FORM,4REH IS",
    "OLATED FORM,2SEEN WITH REH ISOLATED FORM,2SAD WITH REH ISOLATED FORM,2DAD WITH REH ISOLATED ",
    "FORM,2TAH WITH ALEF MAKSURA FINAL FORM,4YEH FINAL FORM,2AIN WITH ALEF MAKSURA FINAL FORM,4YE",
    "H FINAL FORM,2GHAIN WITH ALEF MAKSURA FINAL FORM,4YEH FINAL FORM,2SEEN WITH ALEF MAKSURA FIN",
    "AL FORM,4YEH FINAL FORM,2SHEEN WITH ALEF MAKSURA FINAL FORM,4YEH FINAL FORM,2HAH WITH ALEF M",
    "AKSURA FINAL FORM,4YEH FINAL FORM,2JEEM WITH ALEF MAKSURA FINAL FORM,4YEH FINAL FORM,2KHAH W",
    "ITH ALEF MAKSURA FINAL FORM,4YEH FINAL FORM,2SAD WITH ALEF MAKSURA FINAL FORM,4YEH FINAL FOR",
    "M,2DAD WITH ALEF MAKSURA FINAL FORM,4YEH FINAL FORM,2SHEEN WITH JEEM FINAL FORM,4HAH FINAL F",
    "ORM,4KHAH FINAL FORM,4MEEM FINAL FORM,4REH FINAL FORM,2SEEN WITH REH FINAL FORM,2SAD WITH RE",
    "H FINAL FORM,2DAD WITH REH FINAL FORM,2SHEEN WITH JEEM INITIAL FORM,4HAH INITIAL FORM,4KHAH ",
    "INITIAL FORM,4MEEM INITIAL FORM,2SEEN WITH HEH INITIAL FORM,2SHEEN WITH HEH INITIAL FORM,2TA",
    "H WITH MEEM INITIAL FORM,2SEEN WITH JEEM MEDIAL FORM,4HAH MEDIAL FORM,4KHAH MEDIAL FORM,2SHE",
    "EN WITH JEEM MEDIAL FORM,4HAH MEDIAL FORM,4KHAH MEDIAL FORM,2TAH WITH MEEM MEDIAL FORM,2ZAH ",
    "WITH MEEM MEDIAL FORM,2ALEF WITH FATHATAN FINAL FORM,5ISOLATED FORM,0ORNATE LEFT PARENTHESIS",
    ",1RIGHT PARENTHESIS,0ARABIC LIGATURE RAHIMAHU ALLAAH,2RADI ALLAAHU ANH,4ANHAA,4ANHUM,4ANHUMA",
    "A,4ANHUNNA,2SALLALLAAHU ALAYHI WA-AALIH,2ALAYHI AS-SALAAM,2ALAYHIM AS-SALAAM,2ALAYHIMAA AS-S",
    "ALAAM,2ALAYHI AS-SALAATU WAS-SALAAM,2QUDDISA SIRRAH,2SALLALLAHU ALAYHI WAAALIHEE WA-SALLAM,2",
    "ALAYHAA AS-SALAAM,2TABAARAKA WA-TAAALAA,2RAHIMAHUM ALLAAH,2TEH WITH JEEM WITH MEEM INITIAL F",
    "ORM,4HAH WITH JEEM FINAL FORM,7INITIAL FORM,6MEEM INITIAL FORM,4KHAH WITH MEEM INITIAL FORM,",
    "4MEEM WITH JEEM INITIAL FORM,6HAH INITIAL FORM,6KHAH INITIAL FORM,2JEEM WITH MEEM WITH HAH F",
    "INAL FORM,7INITIAL FORM,2HAH WITH MEEM WITH YEH FINAL FORM,6ALEF MAKSURA FINAL FORM,2SEEN WI",
    "TH HAH WITH JEEM INITIAL FORM,4JEEM WITH HAH INITIAL FORM,6ALEF MAKSURA FINAL FORM,4MEEM WIT",
    "H HAH FINAL FORM,7INITIAL FORM,6JEEM INITIAL FORM,6MEEM FINAL FORM,7INITIAL FORM,2SAD WITH H",
    "AH WITH HAH FINAL FORM,7INITIAL FORM,4MEEM WITH MEEM FINAL FORM,2SHEEN WITH HAH WITH MEEM FI",
    "NAL FORM,7INITIAL FORM,4JEEM WITH YEH FINAL FORM,4MEEM WITH KHAH FINAL FORM,7INITIAL FORM,6M",
    "EEM FINAL FORM,7INITIAL FORM,2DAD WITH HAH WITH ALEF MAKSURA FINAL FORM,4KHAH WITH MEEM FINA",
    "L FORM,7INITIAL FORM,2TAH WITH MEEM WITH HAH FINAL FORM,7INITIAL FORM,6MEEM INITIAL FORM,6YE",
    "H FINAL FORM,2AIN WITH JEEM WITH MEEM FINAL FORM,4MEEM WITH MEEM FINAL FORM,7INITIAL FORM,6A",
    "LEF MAKSURA FINAL FORM,2GHAIN WITH MEEM WITH MEEM FINAL FORM,6YEH FINAL FORM,6ALEF MAKSURA F",
    "INAL FORM,2FEH WITH KHAH WITH MEEM FINAL FORM,7INITIAL FORM,2QAF WITH MEEM WITH HAH FINAL FO",
    "RM,6MEEM FINAL FORM,2LAM WITH HAH WITH MEEM FINAL FORM,6YEH FINAL FORM,6ALEF MAKSURA FINAL F",
    "ORM,4JEEM WITH JEEM INITIAL FORM,7FINAL FORM,4KHAH WITH MEEM FINAL FORM,7INITIAL FORM,4MEEM ",
    "WITH HAH FINAL FORM,7INITIAL FORM,2MEEM WITH HAH WITH JEEM INITIAL FORM,6MEEM INITIAL FORM,6",
    "YEH FINAL FORM,4JEEM WITH HAH INITIAL FORM,6MEEM INITIAL FORM,4KHAH WITH JEEM INITIAL FORM,6",
    "MEEM INITIAL FORM,=fd92 4JEEM WITH KHAH INITIAL FORM,2HEH WITH MEEM WITH JEEM INITIAL FORM,6",
    "MEEM INITIAL FORM,2NOON WITH HAH WITH MEEM INITIAL FORM,6ALEF MAKSURA FINAL FORM,4JEEM WITH ",
    "MEEM FINAL FORM,7INITIAL FORM,6ALEF MAKSURA FINAL FORM,4MEEM WITH YEH FINAL FORM,6ALEF MAKSU",
    "RA FINAL FORM,2YEH WITH MEEM WITH MEEM FINAL FORM,7INITIAL FORM,2BEH WITH KHAH WITH YEH FINA",
    "L FORM,2TEH WITH JEEM WITH YEH FINAL FORM,6ALEF MAKSURA FINAL FORM,4KHAH WITH YEH FINAL FORM",
    ",6ALEF MAKSURA FINAL FORM,4MEEM WITH YEH FINAL FORM,6ALEF MAKSURA FINAL FORM,2JEEM WITH MEE",
    "M WITH YEH FINAL FORM,4HAH WITH ALEF MAKSURA FINAL FORM,4MEEM WITH ALEF MAKSURA FINAL FORM,2",
    "SEEN WITH KHAH WITH ALEF MAKSURA FINAL FORM,2SAD WITH HAH WITH YEH FINAL FORM,2SHEEN WITH HA",
    "H WITH YEH FINAL FORM,2DAD WITH HAH WITH YEH FINAL FORM,2LAM WITH JEEM WITH YEH FINAL FORM,4",
    "MEEM WITH YEH FINAL FORM,2YEH WITH HAH WITH YEH FINAL FORM,4JEEM WITH YEH FINAL FORM,4MEEM W",
    "ITH YEH FINAL FORM,2MEEM WITH MEEM WITH YEH FINAL FORM,2QAF WITH MEEM WITH YEH FINAL FORM,2N",
    "OON WITH HAH WITH YEH FINAL FORM,2QAF WITH MEEM WITH HAH INITIAL FORM,2LAM WITH HAH WITH MEE",
    "M INITIAL FORM,2AIN WITH MEEM WITH YEH FINAL FORM,2KAF WITH MEEM WITH YEH FINAL FORM,2NOON W",
    "ITH JEEM WITH HAH INITIAL FORM,2MEEM WITH KHAH WITH YEH FINAL FORM,2LAM WITH JEEM WITH MEEM ",
    "INITIAL FORM,2KAF WITH MEEM WITH MEEM FINAL FORM,2LAM WITH JEEM WITH MEEM FINAL FORM,2NOON W",
    "ITH JEEM WITH HAH FINAL FORM,2JEEM WITH HAH WITH YEH FINAL FORM,2HAH WITH JEEM WITH YEH FINA",
    "L FORM,2MEEM WITH JEEM WITH YEH FINAL FORM,2FEH WITH MEEM WITH YEH FINAL FORM,2BEH WITH HAH ",
    "WITH YEH FINAL FORM,2KAF WITH MEEM WITH MEEM INITIAL FORM,2AIN WITH JEEM WITH MEEM INITIAL F",
    "ORM,2SAD WITH MEEM WITH MEEM INITIAL FORM,2SEEN WITH KHAH WITH YEH FINAL FORM,2NOON WITH JEE",
    "M WITH YEH FINAL FORM,=fdcf 2SALAAMUHU ALAYNAA,=fdf0 2SALLA USED AS KORANIC STOP SIGN ISOLAT",
    "ED FORM,2QALA USED AS KORANIC STOP SIGN ISOLATED FORM,2ALLAH ISOLATED FORM,2AKBAR ISOLATED F",
    "ORM,2MOHAMMAD ISOLATED FORM,2SALAM ISOLATED FORM,2RASOUL ISOLATED FORM,2ALAYHE ISOLATED FORM",
    ",2WASALLAM ISOLATED FORM,2SALLA ISOLATED FORM,2SALLALLAHOU ALAYHE WASALLAM,2JALLAJALALOUHOU,",
    "0RIAL SIGN,0ARABIC LIGATURE BISMILLAH AR-RAHMAN AR-RAHEEM,2SUBHAANAHU WA TAAALAA,2AZZA WA JA",
    "LL,0VARIATION SELECTOR-1,=fe00 0VS1,0VARIATION SELECTOR-2,=fe01 0VS2,0VARIATION SELECTOR-3,=",
    "fe02 0VS3,0VARIATION SELECTOR-4,=fe03 0VS4,0VARIATION SELECTOR-5,=fe04 0VS5,0VARIATION SELEC",
    "TOR-6,=fe05 0VS6,0VARIATION SELECTOR-7,=fe06 0VS7,0VARIATION SELECTOR-8,=fe07 0VS8,0VARIATIO",
    "N SELECTOR-9,=fe08 0VS9,0VARIATION SELECTOR-10,=fe09 0VS10,0VARIATION SELECTOR-11,=fe0a 0VS1",
    "1,0VARIATION SELECTOR-12,=fe0b 0VS12,0VARIATION SELECTOR-13,=fe0c 0VS13,0VARIATION SELECTOR-",
    "14,=fe0d 0VS14,0VARIATION SELECTOR-15,=fe0e 0VS15,0VARIATION SELECTOR-16,=fe0f 0VS16,0PRESEN",
    "TATION FORM FOR VERTICAL COMMA,4IDEOGRAPHIC COMMA,5FULL STOP,4COLON,4SEMICOLON,4EXCLAMATION ",
    "MARK,4QUESTION MARK,4LEFT WHITE LENTICULAR BRACKET,4RIGHT WHITE LENTICULAR BRAKCET,=fe18 7BR",
    "ACKET,4HORIZONTAL ELLIPSIS,=fe20 0COMBINING LIGATURE LEFT HALF,2RIGHT HALF,1DOUBLE TILDE LEF",
    "T HALF,3RIGHT HALF,1MACRON LEFT HALF,2RIGHT HALF,1CONJOINING MACRON,1LIGATURE LEFT HALF BELO",
    "W,2RIGHT HALF BELOW,1TILDE LEFT HALF BELOW,2RIGHT HALF BELOW,1MACRON LEFT HALF BELOW,2RIGHT ",
    "HALF BELOW,1CONJOINING MACRON BELOW,1CYRILLIC TITLO LEFT HALF,3RIGHT HALF,0PRESENTATION FOR",
    "M FOR VERTICAL TWO DOT LEADER,4EM DASH,4EN DASH,4LOW LINE,4WAVY LOW LINE,4LEFT PARENTHESIS,4",
    "RIGHT PARENTHESIS,4LEFT CURLY BRACKET,4RIGHT CURLY BRACKET,4LEFT TORTOISE SHELL BRACKET,4RIG",
    "HT TORTOISE SHELL BRACKET,4LEFT BLACK LENTICULAR BRACKET,4RIGHT BLACK LENTICULAR BRACKET,4LE",
    "FT DOUBLE ANGLE BRACKET,4RIGHT DOUBLE ANGLE BRACKET,4LEFT ANGLE BRACKET,4RIGHT ANGLE BRACKET",
    ",4LEFT CORNER BRACKET,4RIGHT CORNER BRACKET,4LEFT WHITE CORNER BRACKET,4RIGHT WHITE CORNER B",
    "RACKET,0SESAME DOT,0WHITE SESAME DOT,0PRESENTATION FORM FOR VERTICAL LEFT SQUARE BRACKET,4RI",
    "GHT SQUARE BRACKET,0DASHED OVERLINE,0CENTRELINE OVERLINE,0WAVY OVERLINE,0DOUBLE WAVY OVERLIN",
    "E,0DASHED LOW LINE,0CENTRELINE LOW LINE,0WAVY LOW LINE,0SMALL COMMA,1IDEOGRAPHIC COMMA,1FUL",
    "L STOP,=fe54 1SEMICOLON,1COLON,1QUESTION MARK,1EXCLAMATION MARK,1EM DASH,1LEFT PARENTHESIS,1",
    "RIGHT PARENTHESIS,1LEFT CURLY BRACKET,1RIGHT CURLY BRACKET,1LEFT TORTOISE SHELL BRACKET,1RIG",
    "HT TORTOISE SHELL BRACKET,1NUMBER SIGN,1AMPERSAND,1ASTERISK,1PLUS SIGN,1HYPHEN-MINUS,1LESS-T",
    "HAN SIGN,1GREATER-THAN SIGN,1EQUALS SIGN,=fe68 1REVERSE SOLIDUS,1DOLLAR SIGN,1PERCENT SIGN,1",
    "COMMERCIAL AT,=fe70 0ARABIC FATHATAN ISOLATED FORM,1TATWEEL WITH FATHATAN ABOVE,1DAMMATAN IS",
    "OLATED FORM,1TAIL FRAGMENT,1KASRATAN ISOLATED FORM,=fe76 1FATHA ISOLATED FORM,2MEDIAL FORM,1",
    "DAMMA ISOLATED FORM,2MEDIAL FORM,1KASRA ISOLATED FORM,2MEDIAL FORM,1SHADDA ISOLATED FORM,2ME",
    "DIAL FORM,1SUKUN ISOLATED FORM,2MEDIAL FORM,1LETTER HAMZA ISOLATED FORM,2ALEF WITH MADDA ABO",
    "VE ISOLATED FORM,6FINAL FORM,4HAMZA ABOVE ISOLATED FORM,6FINAL FORM,2WAW WITH HAMZA ABOVE IS",
    "OLATED FORM,6FINAL FORM,2ALEF WITH HAMZA BELOW ISOLATED FORM,6FINAL FORM,2YEH WITH HAMZA ABO",
    "VE ISOLATED FORM,6FINAL FORM,6INITIAL FORM,6MEDIAL FORM,2ALEF ISOLATED FORM,3FINAL FORM,2BE",
    "H ISOLATED FORM,3FINAL FORM,3INITIAL FORM,3MEDIAL FORM,2TEH MARBUTA ISOLATED FORM,4FINAL FOR",
    "M,3ISOLATED FORM,3FINAL FORM,3INITIAL FORM,3MEDIAL FORM,2THEH ISOLATED FORM,3FINAL FORM,3INI",
    "TIAL FORM,3MEDIAL FORM,2JEEM ISOLATED FORM,3FINAL FORM,3INITIAL FORM,3MEDIAL FORM,2HAH ISOLA",
    "TED FORM,3FINAL FORM,3INITIAL FORM,3MEDIAL FORM,2KHAH ISOLATED FORM,3FINAL FORM,3INITIAL FOR",
    "M,3MEDIAL FORM,2DAL ISOLATED FORM,3FINAL FORM,2THAL ISOLATED FORM,3FINAL FORM,2REH ISOLATED ",
    "FORM,3FINAL FORM,2ZAIN ISOLATED FORM,3FINAL FORM,2SEEN ISOLATED FORM,3FINAL FORM,3INITIAL FO",
    "RM,3MEDIAL FORM,2SHEEN ISOLATED FORM,3FINAL FORM,3INITIAL FORM,3MEDIAL FORM,2SAD ISOLATED FO",
    "RM,3FINAL FORM,3INITIAL FORM,3MEDIAL FORM,2DAD ISOLATED FORM,3FINAL FORM,3INITIAL FORM,3MEDI",
    "AL FORM,2TAH ISOLATED FORM,3FINAL FORM,3INITIAL FORM,3MEDIAL FORM,2ZAH ISOLATED FORM,3FINAL ",
    "FORM,3INITIAL FORM,3MEDIAL FORM,2AIN ISOLATED FORM,3FINAL FORM,3INITIAL FORM,3MEDIAL FORM,2G",
    "HAIN ISOLATED FORM,3FINAL FORM,3INITIAL FORM,3MEDIAL FORM,2FEH ISOLATED FORM,3FINAL FORM,3IN",
    "ITIAL FORM,3MEDIAL FORM,2QAF ISOLATED FORM,3FINAL FORM,3INITIAL FORM,3MEDIAL FORM,2KAF ISOLA",
    "TED FORM,3FINAL FORM,3INITIAL FORM,3MEDIAL FORM,2LAM ISOLATED FORM,3FINAL FORM,3INITIAL FORM",
    ",3MEDIAL FORM,2MEEM ISOLATED FORM,3FINAL FORM,3INITIAL FORM,3MEDIAL FORM,2NOON ISOLATED FORM",
    ",3FINAL FORM,3INITIAL FORM,3MEDIAL FORM,2HEH ISOLATED FORM,3FINAL FORM,3INITIAL FORM,3MEDIA",
    "L FORM,2WAW ISOLATED FORM,3FINAL FORM,2ALEF MAKSURA ISOLATED FORM,4FINAL FORM,2YEH ISOLATED ",
    "FORM,3FINAL FORM,3INITIAL FORM,3MEDIAL FORM,1LIGATURE LAM WITH ALEF WITH MADDA ABOVE ISOLATE",
    "D FORM,8FINAL FORM,6HAMZA ABOVE ISOLATED FORM,8FINAL FORM,7BELOW ISOLATED FORM,8FINAL FORM,5",
    "ISOLATED FORM,5FINAL FORM,=feff 0ZERO WIDTH NO-BREAK SPACE,=feff 0BYTE ORDER MARK,=feff 0BOM",
    ",=feff 0ZWNBSP,=ff01 0FULLWIDTH EXCLAMATION MARK,1QUOTATION MARK,1NUMBER SIGN,1DOLLAR SIGN,1",
    "PERCENT SIGN,1AMPERSAND,1APOSTROPHE,1LEFT PARENTHESIS,1RIGHT PARENTHESIS,1ASTERISK,1PLUS SIG",
    "N,1COMMA,1HYPHEN-MINUS,1FULL STOP,1SOLIDUS,1DIGIT ZERO,2ONE,2TWO,2THREE,2FOUR,2FIVE,2SIX,2SE",
    "VEN,2EIGHT,2NINE,1COLON,1SEMICOLON,1LESS-THAN SIGN,1EQUALS SIGN,1GREATER-THAN SIGN,1QUESTIO",
    "N MARK,1COMMERCIAL AT,1LATIN CAPITAL LETTER A,4B,4C,4D,4E,4F,4G,4H,4I,4J,4K,4L,4M,4N,4O,4P,4",
    "Q,4R,4S,4T,4U,4V,4W,4X,4Y,4Z,1LEFT SQUARE BRACKET,1REVERSE SOLIDUS,1RIGHT SQUARE BRACKET,1CI",
    "RCUMFLEX ACCENT,1LOW LINE,1GRAVE ACCENT,1LATIN SMALL LETTER A,4B,4C,4D,4E,4F,4G,4H,4I,4J,4K,",
    "4L,4M,4N,4O,4P,4Q,4R,4S,4T,4U,4V,4W,4X,4Y,4Z,1LEFT CURLY BRACKET,1VERTICAL LINE,1RIGHT CURL",
    "Y BRACKET,1TILDE,1LEFT WHITE PARENTHESIS,1RIGHT WHITE PARENTHESIS,0HALFWIDTH IDEOGRAPHIC FUL",
    "L STOP,1LEFT CORNER BRACKET,1RIGHT CORNER BRACKET,1IDEOGRAPHIC COMMA,1KATAKANA MIDDLE DOT,2L",
    "ETTER WO,3SMALL A,4I,4U,4E,4O,4YA,4YU,4YO,4TU,1KATAKANA-HIRAGANA PROLONGED SOUND MARK,1KATAK",
    "ANA LETTER A,3I,3U,3E,3O,3KA,3KI,3KU,3KE,3KO,3SA,3SI,3SU,3SE,3SO,3TA,3TI,3TU,3TE,3TO,3NA,3NI",
    ",3NU,3NE,3NO,3HA,3HI,3HU,3HE,3HO,3MA,3MI,3MU,3ME,3MO,3YA,3YU,3YO,3RA,3RI,3RU,3RE,3RO,3WA,3N,",
    "2VOICED SOUND MARK,2SEMI-VOICED SOUND MARK,1HANGUL FILLER,2LETTER KIYEOK,3SSANGKIYEOK,3KIYEO",
    "K-SIOS,3NIEUN,3NIEUN-CIEUC,3NIEUN-HIEUH,3TIKEUT,3SSANGTIKEUT,3RIEUL,3RIEUL-KIYEOK,3RIEUL-MIE",
    "UM,3RIEUL-PIEUP,3RIEUL-SIOS,3RIEUL-THIEUTH,3RIEUL-PHIEUPH,3RIEUL-HIEUH,3MIEUM,3PIEUP,3SSANGP",
    "IEUP,3PIEUP-SIOS,3SIOS,3SSANGSIOS,3IEUNG,3CIEUC,3SSANGCIEUC,3CHIEUCH,3KHIEUKH,3THIEUTH,3PHIE",
    "UPH,3HIEUH,=ffc2 3A,3AE,3YA,3YAE,3EO,3E,=ffca 3YEO,3YE,3O,3WA,3WAE,3OE,=ffd2 3YO,3U,3WEO,3WE",
    ",3WI,3YU,=ffda 3EU,3YI,3I,=ffe0 0FULLWIDTH CENT SIGN,1POUND SIGN,1NOT SIGN,1MACRON,1BROKEN B",
    "AR,1YEN SIGN,1WON SIGN,=ffe8 0HALFWIDTH FORMS LIGHT VERTICAL,1LEFTWARDS ARROW,1UPWARDS ARROW",
    ",1RIGHTWARDS ARROW,1DOWNWARDS ARROW,1BLACK SQUARE,1WHITE CIRCLE,=fff9 0INTERLINEAR ANNOTATIO",
    "N ANCHOR,2SEPARATOR,2TERMINATOR,0OBJECT REPLACEMENT CHARACTER,0REPLACEMENT CHARACTER"]

end CardPress.Text
