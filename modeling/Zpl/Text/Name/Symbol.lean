import Zpl.Text.Name.Row

/-!
# Names of signs

Punctuation, currencies, arrows, operators and technical signs; and signs that stand for words, such
as those of cuneiform and hieroglyphs.

## Main definitions

* `NameRow.symbol`, `NameRow.wordSign` — the names.
-/

namespace Zpl.NameRow

/-- Punctuation, currencies, arrows, operators and technical signs. -/
def symbol : List NameRow :=
  [⟨0x2000, ["0EN QUAD|0EM QUAD|0EN SPACE|0EM SPACE|0THREE-PER-EM SPACE|0FOUR-PER-EM SPACE",
      "0SIX-PER-EM SPACE|0FIGURE SPACE|0PUNCTUATION SPACE|0THIN SPACE|0HAIR SPACE",
      "0ZERO WIDTH SPACE|2NON-JOINER|2JOINER|0LEFT-TO-RIGHT MARK|0RIGHT-TO-LEFT MARK|0HYPHEN",
      "0NON-BREAKING HYPHEN|0FIGURE DASH|0EN DASH|0EM DASH|0HORIZONTAL BAR",
      "0DOUBLE VERTICAL LINE|1LOW LINE|0LEFT SINGLE QUOTATION MARK|0RIGHT SINGLE QUOTATION MARK",
      "0SINGLE LOW-9 QUOTATION MARK|1HIGH-REVERSED-9 QUOTATION MARK|0LEFT DOUBLE QUOTATION MARK",
      "0RIGHT DOUBLE QUOTATION MARK|0DOUBLE LOW-9 QUOTATION MARK",
      "1HIGH-REVERSED-9 QUOTATION MARK|0DAGGER|0DOUBLE DAGGER|0BULLET|0TRIANGULAR BULLET",
      "0ONE DOT LEADER|0TWO DOT LEADER|0HORIZONTAL ELLIPSIS|0HYPHENATION POINT|0LINE SEPARATOR",
      "0PARAGRAPH SEPARATOR|0LEFT-TO-RIGHT EMBEDDING|0RIGHT-TO-LEFT EMBEDDING",
      "0POP DIRECTIONAL FORMATTING|0LEFT-TO-RIGHT OVERRIDE|0RIGHT-TO-LEFT OVERRIDE",
      "0NARROW NO-BREAK SPACE|0PER MILLE SIGN|1TEN THOUSAND SIGN|0PRIME|0DOUBLE PRIME",
      "0TRIPLE PRIME|0REVERSED PRIME|1DOUBLE PRIME|1TRIPLE PRIME|0CARET",
      "0SINGLE LEFT-POINTING ANGLE QUOTATION MARK|1RIGHT-POINTING ANGLE QUOTATION MARK",
      "0REFERENCE MARK|0DOUBLE EXCLAMATION MARK|0INTERROBANG|0OVERLINE|0UNDERTIE|0CHARACTER TIE",
      "0CARET INSERTION POINT|0ASTERISM|0HYPHEN BULLET|0FRACTION SLASH",
      "0LEFT SQUARE BRACKET WITH QUILL|0RIGHT SQUARE BRACKET WITH QUILL|0DOUBLE QUESTION MARK",
      "0QUESTION EXCLAMATION MARK|0EXCLAMATION QUESTION MARK|0TIRONIAN SIGN ET",
      "0REVERSED PILCROW SIGN|0BLACK LEFTWARDS BULLET|1RIGHTWARDS BULLET|0LOW ASTERISK",
      "0REVERSED SEMICOLON|0CLOSE UP|0TWO ASTERISKS ALIGNED VERTICALLY|0COMMERCIAL MINUS SIGN",
      "0SWUNG DASH|0INVERTED UNDERTIE|0FLOWER PUNCTUATION MARK|0THREE DOT PUNCTUATION",
      "0QUADRUPLE PRIME|0FOUR DOT PUNCTUATION|0FIVE DOT PUNCTUATION|0TWO DOT PUNCTUATION",
      "0FOUR DOT MARK|0DOTTED CROSS|0TRICOLON|0VERTICAL FOUR DOTS|0MEDIUM MATHEMATICAL SPACE",
      "0WORD JOINER|0FUNCTION APPLICATION|0INVISIBLE TIMES|1SEPARATOR|1PLUS"]⟩,
    ⟨0x2066, ["0LEFT-TO-RIGHT ISOLATE|0RIGHT-TO-LEFT ISOLATE|0FIRST STRONG ISOLATE",
      "0POP DIRECTIONAL ISOLATE|0INHIBIT SYMMETRIC SWAPPING|0ACTIVATE SYMMETRIC SWAPPING",
      "0INHIBIT ARABIC FORM SHAPING|0ACTIVATE ARABIC FORM SHAPING|0NATIONAL DIGIT SHAPES",
      "0NOMINAL DIGIT SHAPES|0SUPERSCRIPT ZERO|1LATIN SMALL LETTER I"]⟩, ⟨0x2074, ["1FOUR|1FIVE",
      "1SIX|1SEVEN|1EIGHT|1NINE|1PLUS SIGN|1MINUS|1EQUALS SIGN|1LEFT PARENTHESIS",
      "1RIGHT PARENTHESIS|1LATIN SMALL LETTER N|0SUBSCRIPT ZERO|1ONE|1TWO|1THREE|1FOUR|1FIVE",
      "1SIX|1SEVEN|1EIGHT|1NINE|1PLUS SIGN|1MINUS|1EQUALS SIGN|1LEFT PARENTHESIS",
      "1RIGHT PARENTHESIS"]⟩, ⟨0x2090, ["0LATIN SUBSCRIPT SMALL LETTER A|4E|4O|4X|4SCHWA|4H|4K",
      "4L|4M|4N|4P|4S|4T"]⟩, ⟨0x20A0, ["0EURO-CURRENCY SIGN|0COLON SIGN|0CRUZEIRO SIGN",
      "0FRENCH FRANC SIGN|0LIRA SIGN|0MILL SIGN|0NAIRA SIGN|0PESETA SIGN|0RUPEE SIGN|0WON SIGN",
      "0NEW SHEQEL SIGN|0DONG SIGN|0EURO SIGN|0KIP SIGN|0TUGRIK SIGN|0DRACHMA SIGN",
      "0GERMAN PENNY SIGN|0PESO SIGN|0GUARANI SIGN|0AUSTRAL SIGN|0HRYVNIA SIGN|0CEDI SIGN",
      "0LIVRE TOURNOIS SIGN|0SPESMILO SIGN|0TENGE SIGN|0INDIAN RUPEE SIGN|0TURKISH LIRA SIGN",
      "0NORDIC MARK SIGN|0MANAT SIGN|0RUBLE SIGN|0LARI SIGN|0BITCOIN SIGN|0SOM SIGN"]⟩,
    ⟨0x20D0, ["0COMBINING LEFT HARPOON ABOVE|1RIGHT HARPOON ABOVE|1LONG VERTICAL LINE OVERLAY",
      "1SHORT VERTICAL LINE OVERLAY|1ANTICLOCKWISE ARROW ABOVE|1CLOCKWISE ARROW ABOVE",
      "1LEFT ARROW ABOVE|1RIGHT ARROW ABOVE|1RING OVERLAY|1CLOCKWISE RING OVERLAY",
      "1ANTICLOCKWISE RING OVERLAY|1THREE DOTS ABOVE|1FOUR DOTS ABOVE|1ENCLOSING CIRCLE|2SQUARE",
      "2DIAMOND|2CIRCLE BACKSLASH|1LEFT RIGHT ARROW ABOVE|1ENCLOSING SCREEN|2KEYCAP",
      "2UPWARD POINTING TRIANGLE|1REVERSE SOLIDUS OVERLAY|1DOUBLE VERTICAL STROKE OVERLAY",
      "1ANNUITY SYMBOL|1TRIPLE UNDERDOT|1WIDE BRIDGE ABOVE|1LEFTWARDS ARROW OVERLAY",
      "1LONG DOUBLE SOLIDUS OVERLAY|1RIGHTWARDS HARPOON WITH BARB DOWNWARDS",
      "1LEFTWARDS HARPOON WITH BARB DOWNWARDS|1LEFT ARROW BELOW|1RIGHT ARROW BELOW",
      "1ASTERISK ABOVE"]⟩, ⟨0x2100, ["0ACCOUNT OF|0ADDRESSED TO THE SUBJECT",
      "0DOUBLE-STRUCK CAPITAL C|0DEGREE CELSIUS|0CENTRE LINE SYMBOL|0CARE OF|0CADA UNA",
      "0EULER CONSTANT|0SCRUPLE|0DEGREE FAHRENHEIT|0SCRIPT SMALL G|1CAPITAL H",
      "0BLACK-LETTER CAPITAL H|0DOUBLE-STRUCK CAPITAL H|0PLANCK CONSTANT|1CONSTANT OVER TWO PI",
      "0SCRIPT CAPITAL I|0BLACK-LETTER CAPITAL I|0SCRIPT CAPITAL L|1SMALL L|0L B BAR SYMBOL",
      "0DOUBLE-STRUCK CAPITAL N|0NUMERO SIGN|0SOUND RECORDING COPYRIGHT|0SCRIPT CAPITAL P",
      "0DOUBLE-STRUCK CAPITAL P|3Q|0SCRIPT CAPITAL R|0BLACK-LETTER CAPITAL R",
      "0DOUBLE-STRUCK CAPITAL R|0PRESCRIPTION TAKE|0RESPONSE|0SERVICE MARK|0TELEPHONE SIGN",
      "0TRADE MARK SIGN|0VERSICLE|0DOUBLE-STRUCK CAPITAL Z|0OUNCE SIGN|0OHM SIGN",
      "0INVERTED OHM SIGN|0BLACK-LETTER CAPITAL Z|0TURNED GREEK SMALL LETTER IOTA|0KELVIN SIGN",
      "0ANGSTROM SIGN|0SCRIPT CAPITAL B|0BLACK-LETTER CAPITAL C|0ESTIMATED SYMBOL",
      "0SCRIPT SMALL E|1CAPITAL E|2F|0TURNED CAPITAL F|0SCRIPT CAPITAL M|1SMALL O|0ALEF SYMBOL",
      "0BET SYMBOL|0GIMEL SYMBOL|0DALET SYMBOL|0INFORMATION SOURCE|0ROTATED CAPITAL Q",
      "0FACSIMILE SIGN|0DOUBLE-STRUCK SMALL PI|3GAMMA|2CAPITAL GAMMA|3PI|2N-ARY SUMMATION",
      "0TURNED SANS-SERIF CAPITAL G|4L|0REVERSED SANS-SERIF CAPITAL L",
      "0TURNED SANS-SERIF CAPITAL Y|0DOUBLE-STRUCK ITALIC CAPITAL D|3SMALL D|4E|4I|4J",
      "0PROPERTY LINE|0TURNED AMPERSAND|0PER SIGN|0AKTIESELSKAB|0TURNED SMALL F",
      "0SYMBOL FOR SAMARITAN SOURCE|0VULGAR FRACTION ONE SEVENTH|3NINTH|3TENTH|3THIRD",
      "2TWO THIRDS|2ONE FIFTH|2TWO FIFTHS|2THREE FIFTHS|2FOUR FIFTHS|2ONE SIXTH|2FIVE SIXTHS",
      "2ONE EIGHTH|2THREE EIGHTHS|2FIVE EIGHTHS|2SEVEN EIGHTHS|0FRACTION NUMERATOR ONE",
      "0ROMAN NUMERAL ONE|2TWO|2THREE|2FOUR|2FIVE|2SIX|2SEVEN|2EIGHT|2NINE|2TEN|2ELEVEN|2TWELVE",
      "2FIFTY|2ONE HUNDRED|2FIVE HUNDRED|2ONE THOUSAND|0SMALL ROMAN NUMERAL ONE|3TWO|3THREE",
      "3FOUR|3FIVE|3SIX|3SEVEN|3EIGHT|3NINE|3TEN|3ELEVEN|3TWELVE|3FIFTY|3ONE HUNDRED",
      "3FIVE HUNDRED|3ONE THOUSAND|0ROMAN NUMERAL ONE THOUSAND C D|2FIVE THOUSAND|2TEN THOUSAND",
      "2REVERSED ONE HUNDRED|0LATIN SMALL LETTER REVERSED C|0ROMAN NUMERAL SIX LATE FORM",
      "2FIFTY EARLY FORM|3THOUSAND|2ONE HUNDRED THOUSAND|0VULGAR FRACTION ZERO THIRDS",
      "0TURNED DIGIT TWO|2THREE"]⟩, ⟨0x2190, ["0LEFTWARDS ARROW|0UPWARDS ARROW",
      "0RIGHTWARDS ARROW|0DOWNWARDS ARROW|0LEFT RIGHT ARROW|0UP DOWN ARROW|0NORTH WEST ARROW",
      "1EAST ARROW|0SOUTH EAST ARROW|1WEST ARROW|0LEFTWARDS ARROW WITH STROKE",
      "0RIGHTWARDS ARROW WITH STROKE|0LEFTWARDS WAVE ARROW|0RIGHTWARDS WAVE ARROW",
      "0LEFTWARDS TWO HEADED ARROW|0UPWARDS TWO HEADED ARROW|0RIGHTWARDS TWO HEADED ARROW",
      "0DOWNWARDS TWO HEADED ARROW|0LEFTWARDS ARROW WITH TAIL|0RIGHTWARDS ARROW WITH TAIL",
      "0LEFTWARDS ARROW FROM BAR|0UPWARDS ARROW FROM BAR|0RIGHTWARDS ARROW FROM BAR",
      "0DOWNWARDS ARROW FROM BAR|0UP DOWN ARROW WITH BASE|0LEFTWARDS ARROW WITH HOOK",
      "0RIGHTWARDS ARROW WITH HOOK|0LEFTWARDS ARROW WITH LOOP|0RIGHTWARDS ARROW WITH LOOP",
      "0LEFT RIGHT WAVE ARROW|2ARROW WITH STROKE|0DOWNWARDS ZIGZAG ARROW",
      "0UPWARDS ARROW WITH TIP LEFTWARDS|4RIGHTWARDS|0DOWNWARDS ARROW WITH TIP LEFTWARDS",
      "4RIGHTWARDS|0RIGHTWARDS ARROW WITH CORNER DOWNWARDS",
      "0DOWNWARDS ARROW WITH CORNER LEFTWARDS|0ANTICLOCKWISE TOP SEMICIRCLE ARROW",
      "0CLOCKWISE TOP SEMICIRCLE ARROW|0NORTH WEST ARROW TO LONG BAR",
      "0LEFTWARDS ARROW TO BAR OVER RIGHTWARDS ARROW TO BAR|0ANTICLOCKWISE OPEN CIRCLE ARROW",
      "0CLOCKWISE OPEN CIRCLE ARROW|0LEFTWARDS HARPOON WITH BARB UPWARDS|4DOWNWARDS",
      "0UPWARDS HARPOON WITH BARB RIGHTWARDS|4LEFTWARDS|0RIGHTWARDS HARPOON WITH BARB UPWARDS",
      "4DOWNWARDS|0DOWNWARDS HARPOON WITH BARB RIGHTWARDS|4LEFTWARDS",
      "0RIGHTWARDS ARROW OVER LEFTWARDS ARROW|0UPWARDS ARROW LEFTWARDS OF DOWNWARDS ARROW",
      "0LEFTWARDS ARROW OVER RIGHTWARDS ARROW|1PAIRED ARROWS|0UPWARDS PAIRED ARROWS",
      "0RIGHTWARDS PAIRED ARROWS|0DOWNWARDS PAIRED ARROWS",
      "0LEFTWARDS HARPOON OVER RIGHTWARDS HARPOON|0RIGHTWARDS HARPOON OVER LEFTWARDS HARPOON",
      "0LEFTWARDS DOUBLE ARROW WITH STROKE|0LEFT RIGHT DOUBLE ARROW WITH STROKE",
      "0RIGHTWARDS DOUBLE ARROW WITH STROKE|0LEFTWARDS DOUBLE ARROW|0UPWARDS DOUBLE ARROW",
      "0RIGHTWARDS DOUBLE ARROW|0DOWNWARDS DOUBLE ARROW|0LEFT RIGHT DOUBLE ARROW",
      "0UP DOWN DOUBLE ARROW|0NORTH WEST DOUBLE ARROW|1EAST DOUBLE ARROW",
      "0SOUTH EAST DOUBLE ARROW|1WEST DOUBLE ARROW|0LEFTWARDS TRIPLE ARROW",
      "0RIGHTWARDS TRIPLE ARROW|0LEFTWARDS SQUIGGLE ARROW|0RIGHTWARDS SQUIGGLE ARROW",
      "0UPWARDS ARROW WITH DOUBLE STROKE|0DOWNWARDS ARROW WITH DOUBLE STROKE",
      "0LEFTWARDS DASHED ARROW|0UPWARDS DASHED ARROW|0RIGHTWARDS DASHED ARROW",
      "0DOWNWARDS DASHED ARROW|0LEFTWARDS ARROW TO BAR|0RIGHTWARDS ARROW TO BAR",
      "0LEFTWARDS WHITE ARROW|0UPWARDS WHITE ARROW|0RIGHTWARDS WHITE ARROW",
      "0DOWNWARDS WHITE ARROW|0UPWARDS WHITE ARROW FROM BAR|3ON PEDESTAL",
      "4PEDESTAL WITH HORIZONTAL BAR|6VERTICAL BAR|2DOUBLE ARROW|3ARROW ON PEDESTAL",
      "0RIGHTWARDS WHITE ARROW FROM WALL|0NORTH WEST ARROW TO CORNER",
      "0SOUTH EAST ARROW TO CORNER|0UP DOWN WHITE ARROW|0RIGHT ARROW WITH SMALL CIRCLE",
      "0DOWNWARDS ARROW LEFTWARDS OF UPWARDS ARROW|0THREE RIGHTWARDS ARROWS",
      "0LEFTWARDS ARROW WITH VERTICAL STROKE|0RIGHTWARDS ARROW WITH VERTICAL STROKE",
      "0LEFT RIGHT ARROW WITH VERTICAL STROKE|0LEFTWARDS ARROW WITH DOUBLE VERTICAL STROKE",
      "0RIGHTWARDS ARROW WITH DOUBLE VERTICAL STROKE",
      "0LEFT RIGHT ARROW WITH DOUBLE VERTICAL STROKE|0LEFTWARDS OPEN-HEADED ARROW",
      "0RIGHTWARDS OPEN-HEADED ARROW|0LEFT RIGHT OPEN-HEADED ARROW|0FOR ALL|0COMPLEMENT",
      "0PARTIAL DIFFERENTIAL|0THERE EXISTS|1DOES NOT EXIST|0EMPTY SET|0INCREMENT|0NABLA",
      "0ELEMENT OF|0NOT AN ELEMENT OF|0SMALL ELEMENT OF|0CONTAINS AS MEMBER",
      "0DOES NOT CONTAIN AS MEMBER|0SMALL CONTAINS AS MEMBER|0END OF PROOF|0N-ARY PRODUCT",
      "2COPRODUCT|2SUMMATION|0MINUS SIGN|0MINUS-OR-PLUS SIGN|0DOT PLUS|0DIVISION SLASH",
      "0SET MINUS|0ASTERISK OPERATOR|0RING OPERATOR|0BULLET OPERATOR|0SQUARE ROOT|0CUBE ROOT",
      "0FOURTH ROOT|0PROPORTIONAL TO|0INFINITY|0RIGHT ANGLE|0ANGLE|0MEASURED ANGLE",
      "0SPHERICAL ANGLE|0DIVIDES|0DOES NOT DIVIDE|0PARALLEL TO|0NOT PARALLEL TO|0LOGICAL AND",
      "1OR|0INTERSECTION|0UNION|0INTEGRAL|0DOUBLE INTEGRAL|0TRIPLE INTEGRAL|0CONTOUR INTEGRAL",
      "0SURFACE INTEGRAL|0VOLUME INTEGRAL|0CLOCKWISE INTEGRAL|1CONTOUR INTEGRAL",
      "0ANTICLOCKWISE CONTOUR INTEGRAL|0THEREFORE|0BECAUSE|0RATIO|0PROPORTION|0DOT MINUS",
      "0EXCESS|0GEOMETRIC PROPORTION|0HOMOTHETIC|0TILDE OPERATOR|0REVERSED TILDE",
      "0INVERTED LAZY S|0SINE WAVE|0WREATH PRODUCT|0NOT TILDE|0MINUS TILDE",
      "0ASYMPTOTICALLY EQUAL TO|0NOT ASYMPTOTICALLY EQUAL TO|0APPROXIMATELY EQUAL TO",
      "1BUT NOT ACTUALLY EQUAL TO|0NEITHER APPROXIMATELY NOR ACTUALLY EQUAL TO|0ALMOST EQUAL TO",
      "0NOT ALMOST EQUAL TO|0ALMOST EQUAL OR EQUAL TO|0TRIPLE TILDE|0ALL EQUAL TO",
      "0EQUIVALENT TO|0GEOMETRICALLY EQUIVALENT TO|0DIFFERENCE BETWEEN|0APPROACHES THE LIMIT",
      "0GEOMETRICALLY EQUAL TO|0APPROXIMATELY EQUAL TO OR THE IMAGE OF",
      "0IMAGE OF OR APPROXIMATELY EQUAL TO|0COLON EQUALS|0EQUALS COLON|0RING IN EQUAL TO",
      "1EQUAL TO|0CORRESPONDS TO|0ESTIMATES|0EQUIANGULAR TO|0STAR EQUALS|0DELTA EQUAL TO",
      "0EQUAL TO BY DEFINITION|0MEASURED BY|0QUESTIONED EQUAL TO|0NOT EQUAL TO|0IDENTICAL TO",
      "0NOT IDENTICAL TO|0STRICTLY EQUIVALENT TO|0LESS-THAN OR EQUAL TO",
      "0GREATER-THAN OR EQUAL TO|0LESS-THAN OVER EQUAL TO|0GREATER-THAN OVER EQUAL TO",
      "0LESS-THAN BUT NOT EQUAL TO|0GREATER-THAN BUT NOT EQUAL TO|0MUCH LESS-THAN|1GREATER-THAN",
      "0BETWEEN|0NOT EQUIVALENT TO|1LESS-THAN|1GREATER-THAN|0NEITHER LESS-THAN NOR EQUAL TO",
      "1GREATER-THAN NOR EQUAL TO|0LESS-THAN OR EQUIVALENT TO|0GREATER-THAN OR EQUIVALENT TO",
      "0NEITHER LESS-THAN NOR EQUIVALENT TO|1GREATER-THAN NOR EQUIVALENT TO",
      "0LESS-THAN OR GREATER-THAN|0GREATER-THAN OR LESS-THAN",
      "0NEITHER LESS-THAN NOR GREATER-THAN|1GREATER-THAN NOR LESS-THAN|0PRECEDES|0SUCCEEDS",
      "0PRECEDES OR EQUAL TO|0SUCCEEDS OR EQUAL TO|0PRECEDES OR EQUIVALENT TO",
      "0SUCCEEDS OR EQUIVALENT TO|0DOES NOT PRECEDE|2SUCCEED|0SUBSET OF|0SUPERSET OF",
      "0NOT A SUBSET OF|2SUPERSET OF|0SUBSET OF OR EQUAL TO|0SUPERSET OF OR EQUAL TO",
      "0NEITHER A SUBSET OF NOR EQUAL TO|2SUPERSET OF NOR EQUAL TO|0SUBSET OF WITH NOT EQUAL TO",
      "0SUPERSET OF WITH NOT EQUAL TO|0MULTISET|0MULTISET MULTIPLICATION|1UNION",
      "0SQUARE IMAGE OF|1ORIGINAL OF|1IMAGE OF OR EQUAL TO|1ORIGINAL OF OR EQUAL TO|1CAP|1CUP",
      "0CIRCLED PLUS|1MINUS|1TIMES|1DIVISION SLASH|1DOT OPERATOR|1RING OPERATOR",
      "1ASTERISK OPERATOR|1EQUALS|1DASH|0SQUARED PLUS|1MINUS|1TIMES|1DOT OPERATOR|0RIGHT TACK",
      "0LEFT TACK|0DOWN TACK|0UP TACK|0ASSERTION|0MODELS|0TRUE|0FORCES",
      "0TRIPLE VERTICAL BAR RIGHT TURNSTILE|0DOUBLE VERTICAL BAR DOUBLE RIGHT TURNSTILE",
      "0DOES NOT PROVE|0NOT TRUE|0DOES NOT FORCE",
      "0NEGATED DOUBLE VERTICAL BAR DOUBLE RIGHT TURNSTILE|0PRECEDES UNDER RELATION",
      "0SUCCEEDS UNDER RELATION|0NORMAL SUBGROUP OF|0CONTAINS AS NORMAL SUBGROUP",
      "0NORMAL SUBGROUP OF OR EQUAL TO|0CONTAINS AS NORMAL SUBGROUP OR EQUAL TO|0ORIGINAL OF",
      "0IMAGE OF|0MULTIMAP|0HERMITIAN CONJUGATE MATRIX|0INTERCALATE|0XOR|0NAND|0NOR",
      "0RIGHT ANGLE WITH ARC|1TRIANGLE|0N-ARY LOGICAL AND|3OR|2INTERSECTION|2UNION",
      "0DIAMOND OPERATOR|0DOT OPERATOR|0STAR OPERATOR|0DIVISION TIMES|0BOWTIE",
      "0LEFT NORMAL FACTOR SEMIDIRECT PRODUCT|0RIGHT NORMAL FACTOR SEMIDIRECT PRODUCT",
      "0LEFT SEMIDIRECT PRODUCT|0RIGHT SEMIDIRECT PRODUCT|0REVERSED TILDE EQUALS",
      "0CURLY LOGICAL OR|2AND|0DOUBLE SUBSET|1SUPERSET|1INTERSECTION|1UNION|0PITCHFORK",
      "0EQUAL AND PARALLEL TO|0LESS-THAN WITH DOT|0GREATER-THAN WITH DOT|0VERY MUCH LESS-THAN",
      "2GREATER-THAN|0LESS-THAN EQUAL TO OR GREATER-THAN|0GREATER-THAN EQUAL TO OR LESS-THAN",
      "0EQUAL TO OR LESS-THAN|3GREATER-THAN|3PRECEDES|3SUCCEEDS|0DOES NOT PRECEDE OR EQUAL",
      "2SUCCEED OR EQUAL|0NOT SQUARE IMAGE OF OR EQUAL TO|2ORIGINAL OF OR EQUAL TO",
      "0SQUARE IMAGE OF OR NOT EQUAL TO|1ORIGINAL OF OR NOT EQUAL TO",
      "0LESS-THAN BUT NOT EQUIVALENT TO|0GREATER-THAN BUT NOT EQUIVALENT TO",
      "0PRECEDES BUT NOT EQUIVALENT TO|0SUCCEEDS BUT NOT EQUIVALENT TO|0NOT NORMAL SUBGROUP OF",
      "0DOES NOT CONTAIN AS NORMAL SUBGROUP|0NOT NORMAL SUBGROUP OF OR EQUAL TO",
      "0DOES NOT CONTAIN AS NORMAL SUBGROUP OR EQUAL|0VERTICAL ELLIPSIS",
      "0MIDLINE HORIZONTAL ELLIPSIS|0UP RIGHT DIAGONAL ELLIPSIS|0DOWN RIGHT DIAGONAL ELLIPSIS",
      "0ELEMENT OF WITH LONG HORIZONTAL STROKE|3VERTICAL BAR AT END OF HORIZONTAL STROKE",
      "0SMALL ELEMENT OF WITH VERTICAL BAR AT END OF HORIZONTAL STROKE",
      "0ELEMENT OF WITH DOT ABOVE|3OVERBAR|0SMALL ELEMENT OF WITH OVERBAR",
      "0ELEMENT OF WITH UNDERBAR|3TWO HORIZONTAL STROKES|0CONTAINS WITH LONG HORIZONTAL STROKE",
      "2VERTICAL BAR AT END OF HORIZONTAL STROKE",
      "0SMALL CONTAINS WITH VERTICAL BAR AT END OF HORIZONTAL STROKE|0CONTAINS WITH OVERBAR",
      "0SMALL CONTAINS WITH OVERBAR|0Z NOTATION BAG MEMBERSHIP|0DIAMETER SIGN|0ELECTRIC ARROW",
      "0HOUSE|0UP ARROWHEAD|0DOWN ARROWHEAD|0PROJECTIVE|0PERSPECTIVE|0WAVY LINE|0LEFT CEILING",
      "0RIGHT CEILING|0LEFT FLOOR|0RIGHT FLOOR|0BOTTOM RIGHT CROP|1LEFT CROP|0TOP RIGHT CROP",
      "1LEFT CROP|0REVERSED NOT SIGN|0SQUARE LOZENGE|0ARC|0SEGMENT|0SECTOR|0TELEPHONE RECORDER",
      "0POSITION INDICATOR|0VIEWDATA SQUARE|0PLACE OF INTEREST SIGN|0TURNED NOT SIGN|0WATCH",
      "0HOURGLASS|0TOP LEFT CORNER|1RIGHT CORNER|0BOTTOM LEFT CORNER|1RIGHT CORNER",
      "0TOP HALF INTEGRAL|0BOTTOM HALF INTEGRAL|0FROWN|0SMILE",
      "0UP ARROWHEAD BETWEEN TWO HORIZONTAL BARS|0OPTION KEY|0ERASE TO THE RIGHT",
      "0X IN A RECTANGLE BOX|0KEYBOARD|0LEFT-POINTING ANGLE BRACKET",
      "0RIGHT-POINTING ANGLE BRACKET|0ERASE TO THE LEFT|0BENZENE RING|0CYLINDRICITY",
      "0ALL AROUND-PROFILE|0SYMMETRY|0TOTAL RUNOUT|0DIMENSION ORIGIN|0CONICAL TAPER|0SLOPE",
      "0COUNTERBORE|0COUNTERSINK|0APL FUNCTIONAL SYMBOL I-BEAM|3SQUISH QUAD|3QUAD EQUAL|4DIVIDE",
      "4DIAMOND|4JOT|4CIRCLE|3CIRCLE STILE|4JOT|3SLASH BAR|3BACKSLASH BAR|3QUAD SLASH",
      "4BACKSLASH|4LESS-THAN|4GREATER-THAN|3LEFTWARDS VANE|3RIGHTWARDS VANE",
      "3QUAD LEFTWARDS ARROW|4RIGHTWARDS ARROW|3CIRCLE BACKSLASH|3DOWN TACK UNDERBAR",
      "3DELTA STILE|3QUAD DOWN CARET|4DELTA|3DOWN TACK JOT|3UPWARDS VANE|3QUAD UPWARDS ARROW",
      "3UP TACK OVERBAR|3DEL STILE|3QUAD UP CARET|4DEL|3UP TACK JOT|3DOWNWARDS VANE",
      "3QUAD DOWNWARDS ARROW|3QUOTE UNDERBAR|3DELTA UNDERBAR|3DIAMOND UNDERBAR|3JOT UNDERBAR",
      "3CIRCLE UNDERBAR|3UP SHOE JOT|3QUOTE QUAD|3CIRCLE STAR|3QUAD COLON|3UP TACK DIAERESIS",
      "3DEL DIAERESIS|3STAR DIAERESIS|3JOT DIAERESIS|3CIRCLE DIAERESIS|3DOWN SHOE STILE",
      "3LEFT SHOE STILE|3TILDE DIAERESIS|3GREATER-THAN DIAERESIS|3COMMA BAR|3DEL TILDE|3ZILDE",
      "3STILE TILDE|3SEMICOLON UNDERBAR|3QUAD NOT EQUAL|4QUESTION|3DOWN CARET TILDE",
      "3UP CARET TILDE|3IOTA|3RHO|3OMEGA|3ALPHA UNDERBAR|3EPSILON UNDERBAR|3IOTA UNDERBAR",
      "3OMEGA UNDERBAR|3ALPHA|0NOT CHECK MARK|0RIGHT ANGLE WITH DOWNWARDS ZIGZAG ARROW",
      "0SHOULDERED OPEN BOX|0BELL SYMBOL|0VERTICAL LINE WITH MIDDLE DOT|0INSERTION SYMBOL",
      "0CONTINUOUS UNDERLINE SYMBOL|0DISCONTINUOUS UNDERLINE SYMBOL|0EMPHASIS SYMBOL",
      "0COMPOSITION SYMBOL|0WHITE SQUARE WITH CENTRE VERTICAL LINE|0ENTER SYMBOL",
      "0ALTERNATIVE KEY SYMBOL|0HELM SYMBOL|0CIRCLED HORIZONTAL BAR WITH NOTCH|1TRIANGLE DOWN",
      "0BROKEN CIRCLE WITH NORTHWEST ARROW|0UNDO SYMBOL|0MONOSTABLE SYMBOL|0HYSTERESIS SYMBOL",
      "0OPEN-CIRCUIT-OUTPUT H-TYPE SYMBOL|3L-TYPE SYMBOL|0PASSIVE-PULL-DOWN-OUTPUT SYMBOL",
      "2UP-OUTPUT SYMBOL|0DIRECT CURRENT SYMBOL FORM TWO|0SOFTWARE-FUNCTION SYMBOL",
      "0APL FUNCTIONAL SYMBOL QUAD|0DECIMAL SEPARATOR KEY SYMBOL|0PREVIOUS PAGE|0NEXT PAGE",
      "0PRINT SCREEN SYMBOL|0CLEAR SCREEN SYMBOL|0LEFT PARENTHESIS UPPER HOOK|2EXTENSION",
      "2LOWER HOOK|0RIGHT PARENTHESIS UPPER HOOK|2EXTENSION|2LOWER HOOK",
      "0LEFT SQUARE BRACKET UPPER CORNER|3EXTENSION|3LOWER CORNER",
      "0RIGHT SQUARE BRACKET UPPER CORNER|3EXTENSION|3LOWER CORNER",
      "0LEFT CURLY BRACKET UPPER HOOK|3MIDDLE PIECE|3LOWER HOOK|0CURLY BRACKET EXTENSION",
      "0RIGHT CURLY BRACKET UPPER HOOK|3MIDDLE PIECE|3LOWER HOOK|0INTEGRAL EXTENSION",
      "0HORIZONTAL LINE EXTENSION|0UPPER LEFT OR LOWER RIGHT CURLY BRACKET SECTION",
      "1RIGHT OR LOWER LEFT CURLY BRACKET SECTION|0SUMMATION TOP|1BOTTOM|0TOP SQUARE BRACKET",
      "0BOTTOM SQUARE BRACKET|2BRACKET OVER TOP SQUARE BRACKET|0RADICAL SYMBOL BOTTOM",
      "0LEFT VERTICAL BOX LINE|0RIGHT VERTICAL BOX LINE|0HORIZONTAL SCAN LINE-1|33|37|39",
      "0DENTISTRY SYMBOL LIGHT VERTICAL AND TOP RIGHT|5BOTTOM RIGHT|4WITH CIRCLE",
      "3DOWN AND HORIZONTAL WITH CIRCLE|3UP AND HORIZONTAL WITH CIRCLE|3VERTICAL WITH TRIANGLE",
      "3DOWN AND HORIZONTAL WITH TRIANGLE|3UP AND HORIZONTAL WITH TRIANGLE|3VERTICAL AND WAVE",
      "3DOWN AND HORIZONTAL WITH WAVE|3UP AND HORIZONTAL WITH WAVE|3DOWN AND HORIZONTAL",
      "3UP AND HORIZONTAL|3VERTICAL AND TOP LEFT|5BOTTOM LEFT|0SQUARE FOOT|0RETURN SYMBOL",
      "0EJECT SYMBOL|0VERTICAL LINE EXTENSION|0METRICAL BREVE|1LONG OVER SHORT|1SHORT OVER LONG",
      "1LONG OVER TWO SHORTS|1TWO SHORTS OVER LONG|3JOINED|1TRISEME|1TETRASEME|1PENTASEME",
      "0EARTH GROUND|0FUSE|0TOP PARENTHESIS|0BOTTOM PARENTHESIS|0TOP CURLY BRACKET",
      "0BOTTOM CURLY BRACKET|0TOP TORTOISE SHELL BRACKET|0BOTTOM TORTOISE SHELL BRACKET",
      "0WHITE TRAPEZIUM|0BENZENE RING WITH CIRCLE|0STRAIGHTNESS|0FLATNESS|0AC CURRENT",
      "0ELECTRICAL INTERSECTION|0DECIMAL EXPONENT SYMBOL|0BLACK RIGHT-POINTING DOUBLE TRIANGLE",
      "1LEFT-POINTING DOUBLE TRIANGLE|1UP-POINTING DOUBLE TRIANGLE",
      "1DOWN-POINTING DOUBLE TRIANGLE|1RIGHT-POINTING DOUBLE TRIANGLE WITH VERTICAL BAR",
      "1LEFT-POINTING DOUBLE TRIANGLE WITH VERTICAL BAR",
      "1RIGHT-POINTING TRIANGLE WITH DOUBLE VERTICAL BAR|0ALARM CLOCK|0STOPWATCH|0TIMER CLOCK",
      "0HOURGLASS WITH FLOWING SAND|0BLACK MEDIUM LEFT-POINTING TRIANGLE",
      "2RIGHT-POINTING TRIANGLE|2UP-POINTING TRIANGLE|2DOWN-POINTING TRIANGLE",
      "0DOUBLE VERTICAL BAR|0BLACK SQUARE FOR STOP|1CIRCLE FOR RECORD|0POWER SYMBOL",
      "1ON-OFF SYMBOL|1ON SYMBOL|1SLEEP SYMBOL|0OBSERVER EYE SYMBOL|0SYMBOL FOR NULL",
      "2START OF HEADING|4TEXT|2END OF TEXT|4TRANSMISSION|2ENQUIRY|2ACKNOWLEDGE|2BELL",
      "2BACKSPACE|2HORIZONTAL TABULATION|2LINE FEED|2VERTICAL TABULATION|2FORM FEED",
      "2CARRIAGE RETURN|2SHIFT OUT|3IN|2DATA LINK ESCAPE|2DEVICE CONTROL ONE|4TWO|4THREE|4FOUR",
      "2NEGATIVE ACKNOWLEDGE|2SYNCHRONOUS IDLE|2END OF TRANSMISSION BLOCK|2CANCEL",
      "2END OF MEDIUM|2SUBSTITUTE|2ESCAPE|2FILE SEPARATOR|2GROUP SEPARATOR|2RECORD SEPARATOR",
      "2UNIT SEPARATOR|2SPACE|2DELETE|0BLANK SYMBOL|0OPEN BOX|0SYMBOL FOR NEWLINE",
      "2DELETE FORM TWO|2SUBSTITUTE FORM TWO"]⟩, ⟨0x2440, ["0OCR HOOK|1CHAIR|1FORK",
      "1INVERTED FORK|1BELT BUCKLE|1BOW TIE|1BRANCH BANK IDENTIFICATION|1AMOUNT OF CHECK|1DASH",
      "1CUSTOMER ACCOUNT NUMBER|1DOUBLE BACKSLASH"]⟩, ⟨0x2460, ["0CIRCLED DIGIT ONE|2TWO|2THREE",
      "2FOUR|2FIVE|2SIX|2SEVEN|2EIGHT|2NINE|1NUMBER TEN|2ELEVEN|2TWELVE|2THIRTEEN|2FOURTEEN",
      "2FIFTEEN|2SIXTEEN|2SEVENTEEN|2EIGHTEEN|2NINETEEN|2TWENTY|0PARENTHESIZED DIGIT ONE|2TWO",
      "2THREE|2FOUR|2FIVE|2SIX|2SEVEN|2EIGHT|2NINE|1NUMBER TEN|2ELEVEN|2TWELVE|2THIRTEEN",
      "2FOURTEEN|2FIFTEEN|2SIXTEEN|2SEVENTEEN|2EIGHTEEN|2NINETEEN|2TWENTY|0DIGIT ONE FULL STOP",
      "1TWO FULL STOP|1THREE FULL STOP|1FOUR FULL STOP|1FIVE FULL STOP|1SIX FULL STOP",
      "1SEVEN FULL STOP|1EIGHT FULL STOP|1NINE FULL STOP|0NUMBER TEN FULL STOP",
      "1ELEVEN FULL STOP|1TWELVE FULL STOP|1THIRTEEN FULL STOP|1FOURTEEN FULL STOP",
      "1FIFTEEN FULL STOP|1SIXTEEN FULL STOP|1SEVENTEEN FULL STOP|1EIGHTEEN FULL STOP",
      "1NINETEEN FULL STOP|1TWENTY FULL STOP|0PARENTHESIZED LATIN SMALL LETTER A|4B|4C|4D|4E|4F",
      "4G|4H|4I|4J|4K|4L|4M|4N|4O|4P|4Q|4R|4S|4T|4U|4V|4W|4X|4Y|4Z",
      "0CIRCLED LATIN CAPITAL LETTER A|4B|4C|4D|4E|4F|4G|4H|4I|4J|4K|4L|4M|4N|4O|4P|4Q|4R|4S|4T",
      "4U|4V|4W|4X|4Y|4Z|2SMALL LETTER A|4B|4C|4D|4E|4F|4G|4H|4I|4J|4K|4L|4M|4N|4O|4P|4Q|4R|4S",
      "4T|4U|4V|4W|4X|4Y|4Z|1DIGIT ZERO|0NEGATIVE CIRCLED NUMBER ELEVEN|3TWELVE|3THIRTEEN",
      "3FOURTEEN|3FIFTEEN|3SIXTEEN|3SEVENTEEN|3EIGHTEEN|3NINETEEN|3TWENTY",
      "0DOUBLE CIRCLED DIGIT ONE|3TWO|3THREE|3FOUR|3FIVE|3SIX|3SEVEN|3EIGHT|3NINE|2NUMBER TEN",
      "0NEGATIVE CIRCLED DIGIT ZERO"]⟩]

/-! ### Word signs -/

/-- Cuneiform signs, hieroglyphs, and syllables of Africa and East Asia. -/
def wordSign : List NameRow :=
  [⟨0x12000, ["0CUNEIFORM SIGN A|2A TIMES A|4BAD|4GAN2 TENU|4HA|4IGI|4LAGAR GUNU|4MUSH|4SAG",
      "2A2|2AB|2AB TIMES ASH2|4DUN3 GUNU|4GAL|4GAN2 TENU|4HA|4IGI GUNU|4IMIN|4LAGAB|4SHESH",
      "4U PLUS U PLUS U|3GUNU|2AB2|2AB2 TIMES BALAG|4GAN2 TENU|4ME PLUS EN|4SHA3|4TAK4|2AD|2AK",
      "2AK TIMES ERIN2|4SHITA PLUS GISH|2AL|2AL TIMES AL|4DIM2|4GISH|4HA|4KAD3|4KI|4SHE|4USH",
      "2ALAN|2ALEPH|2AMAR|2AMAR TIMES SHE|2AN|2AN OVER AN|3THREE TIMES",
      "3PLUS NAGA OPPOSING AN PLUS NAGA|5SQUARED|2ANSHE|2APIN|2ARAD|2ARAD TIMES KUR|2ARKAB",
      "2ASAL2|2ASH|2ASH ZIDA TENU|3KABA TENU|3OVER ASH TUG2 OVER TUG2 TUG2 OVER TUG2 PAP",
      "5OVER ASH|6ASH CROSSING ASH OVER ASH OVER ASH|2ASH2|2ASHGAB|2BA|2BAD|2BAG3|2BAHAR2|2BAL",
      "2BAL OVER BAL|2BALAG|2BAR|2BARA2|2BI|2BI TIMES A|4GAR|4IGI GUNU|2BU|2BU OVER BU AB|5UN",
      "3CROSSING BU|2BULUG|2BULUG OVER BULUG|2BUR|2BUR2|2DA|2DAG|2DAG KISIM5 TIMES A PLUS MASH",
      "5AMAR|5BALAG|5BI|5GA|5GA PLUS MASH|5GI|5GIR2|5GUD|5HA|5IR|5IR PLUS LU|5KAK|5LA|5LU",
      "5LU PLUS MASH2|5LUM|5NE|5PAP PLUS PAP|5SI|5TAK4|5U2 PLUS GIR2|5USH|2DAM|2DAR|2DARA3",
      "2DARA4|2DI|2DIB|2DIM|2DIM TIMES SHE|2DIM2|2DIN|2DIN KASKAL U GUNU DISH|2DISH|2DU",
      "2DU OVER DU|3GUNU|3SHESHIG|2DUB|2DUB TIMES ESH2|2DUB2|2DUG|2DUGUD|2DUH|2DUN|2DUN3",
      "2DUN3 GUNU|3GUNU GUNU|2DUN4|2DUR2|2E|2E TIMES PAP|3OVER E NUN OVER NUN|2E2",
      "2E2 TIMES A PLUS HA PLUS DA|4GAR|4MI|4SAL|4SHE|4U|2EDIN|2EGIR|2EL|2EN|2EN TIMES GAN2",
      "4GAN2 TENU|4ME|3CROSSING EN|3OPPOSING EN|3SQUARED|2EREN|2ERIN2|2ESH2|2EZEN|2EZEN TIMES A",
      "4A PLUS LAL|6LAL TIMES LAL|4AN|4BAD|4DUN3 GUNU|5GUNU GUNU|4HA|4HA GUNU|4IGI GUNU|4KASKAL",
      "4KASKAL SQUARED|4KU3|4LA|4LAL TIMES LAL|4LI|4LU|4U2|4UD|2GA|2GA GUNU|2GA2",
      "2GA2 TIMES A PLUS DA PLUS HA|6HA|6IGI|4AB2 TENU PLUS TAB|4AN|4ASH|4ASH2 PLUS GAL|4BAD",
      "4BAR PLUS RA|4BUR|4BUR PLUS RA|4DA|4DI|4DIM TIMES SHE|4DUB|4EL|4EL PLUS LA|4EN",
      "4EN TIMES GAN2 TENU|4GAN2 TENU|4GAR|4GI|4GI4|4GI4 PLUS A|4GIR2 PLUS SU",
      "4HA PLUS LU PLUS ESH2|4HAL|4HAL PLUS LA|4HI PLUS LI|4HUB2|4IGI GUNU",
      "4ISH PLUS HU PLUS ASH|4KAK|4KASKAL|4KID|4KID PLUS LAL|4KU3 PLUS AN|4LA|4ME PLUS EN|4MI",
      "4NUN|4NUN OVER NUN|4PA|4SAL|4SAR|4SHE|4SHE PLUS TUR|4SHID|4SUM|4TAK4|4U|4UD|4UD PLUS DU",
      "3OVER GA2|2GABA|2GABA CROSSING GABA|2GAD|2GAD OVER GAD GAR OVER GAR|2GAL",
      "2GAL GAD OVER GAD GAR OVER GAR|2GALAM|2GAM|2GAN|2GAN2|2GAN2 TENU|3OVER GAN2",
      "3CROSSING GAN2|2GAR|2GAR3|2GASHAN|2GESHTIN|2GESHTIN TIMES KUR|2GI|2GI TIMES E|4U",
      "3CROSSING GI|2GI4|2GI4 OVER GI4|3CROSSING GI4|2GIDIM|2GIR2|2GIR2 GUNU|2GIR3",
      "2GIR3 TIMES A PLUS IGI|4GAN2 TENU|4IGI|4LU PLUS IGI|4PA|2GISAL|2GISH|2GISH CROSSING GISH",
      "3TIMES BAD|4TAK4|3TENU|2GU|2GU CROSSING GU|2GU2|2GU2 TIMES KAK|4KAK TIMES IGI GUNU|4NUN",
      "4SAL PLUS TUG2|3GUNU|2GUD|2GUD TIMES A PLUS KUR|4KUR|3OVER GUD LUGAL|2GUL|2GUM",
      "2GUM TIMES SHE|2GUR|2GUR7|2GURUN|2GURUSH|2HA|2HA TENU|3GUNU|2HAL|2HI|2HI TIMES ASH|4ASH2",
      "4BAD|4DISH|4GAD|4KIN|4NUN|4SHE|4U|2HU|2HUB2|2HUB2 TIMES AN|4HAL|4KASKAL|4LISH|4UD|2HUL2",
      "2I|2I A|2IB|2IDIM|2IDIM OVER IDIM BUR|5SQUARED|2IG|2IGI|2IGI DIB|3RI",
      "3OVER IGI SHIR OVER SHIR UD OVER UD|3GUNU|2IL|2IL TIMES GAN2 TENU|2IL2|2IM",
      "2IM TIMES TAK4|3CROSSING IM|3OPPOSING IM|3SQUARED|2IMIN|2IN|2IR|2ISH|2KA|2KA TIMES A|4AD",
      "4AD PLUS KU3|4ASH2|4BAD|4BALAG|4BAR|4BI|4ERIN2|4ESH2|4GA|4GAL|4GAN2 TENU|4GAR",
      "4GAR PLUS SHA3 PLUS A|4GI|4GIR2|4GISH PLUS SAR|5CROSSING GISH|4GU|4GUR7|4IGI|4IM|4KAK",
      "4KI|4KID|4LI|4LU|4ME|4ME PLUS DU|6GI|6TE|4MI|4MI PLUS NUNUZ|4NE|4NUN|4PI|4RU|4SA|4SAR",
      "4SHA|4SHE|4SHID|4SHU|4SIG|4SUHUR|4TAR|4U|4U2|4UD|4UMUM TIMES PA|4USH|4ZI|2KA2",
      "2KA2 CROSSING KA2|2KAB|2KAD2|2KAD3|2KAD4|2KAD5|2KAD5 OVER KAD5|2KAK|2KAK TIMES IGI GUNU",
      "2KAL|2KAL TIMES BAD|3CROSSING KAL|2KAM2|2KAM4|2KASKAL",
      "2KASKAL LAGAB TIMES U OVER LAGAB TIMES U|3OVER KASKAL LAGAB TIMES U OVER LAGAB TIMES U",
      "2KESH2|2KI|2KI TIMES BAD|4U|4UD|2KID|2KIN|2KISAL|2KISH|2KISIM5|2KISIM5 OVER KISIM5|2KU",
      "2KU OVER HI TIMES ASH2 KU OVER HI TIMES ASH2|2KU3|2KU4|2KU4 VARIANT FORM|2KU7|2KUL",
      "2KUL GUNU|2KUN|2KUR|2KUR OPPOSING KUR|2KUSHU2|2KWU318|2LA|2LAGAB|2LAGAB TIMES A",
      "4A PLUS DA PLUS HA|6GAR|6LAL|4AL|4AN|4ASH ZIDA TENU|4BAD|4BI|4DAR|4EN|4GA|4GAR|4GUD",
      "4GUD PLUS GUD|4HA|4HAL|4HI TIMES NUN|4IGI GUNU|4IM|4IM PLUS HA|6LU|4KI|4KIN|4KU3|4KUL",
      "4KUL PLUS HI PLUS A|4LAGAB|4LISH|4LU|4LUL|4ME|4ME PLUS EN|4MUSH|4NE|4SHE PLUS SUM",
      "4SHITA PLUS GISH PLUS ERIN2|7TENU|4SHU2|4SHU2 PLUS SHU2|4SUM|4TAG|4TAK4",
      "4TE PLUS A PLUS SU PLUS NA|4U|4U PLUS A|6U PLUS U|4U2 PLUS ASH|4UD|4USH|3SQUARED|2LAGAR",
      "2LAGAR TIMES SHE|4SHE PLUS SUM|3GUNU|3GUNU OVER LAGAR GUNU SHE|2LAHSHU|2LAL",
      "2LAL TIMES LAL|2LAM|2LAM TIMES KUR|4KUR PLUS RU|2LI|2LIL|2LIMMU2|2LISH|2LU|2LU TIMES BAD",
      "2LU2|2LU2 TIMES AL|4BAD|4ESH2|4ESH2 TENU|4GAN2 TENU|4HI TIMES BAD|4IM|4KAD2|4KAD3",
      "4KAD3 PLUS ASH|4KI|4LA PLUS ASH|4LAGAB|4ME PLUS EN|4NE|4NU|4SI PLUS ASH|4SIK2 PLUS BU",
      "4TUG2|3TENU|3CROSSING LU2|3OPPOSING LU2|3SQUARED|3SHESHIG|2LU3|2LUGAL|2LUGAL OVER LUGAL",
      "3OPPOSING LUGAL|3SHESHIG|2LUH|2LUL|2LUM|2LUM OVER LUM|4LUM GAR OVER GAR|2MA",
      "2MA TIMES TAK4|3GUNU|2MA2|2MAH|2MAR|2MASH|2MASH2|2ME|2MES|2MI|2MIN|2MU|2MU OVER MU|2MUG",
      "2MUG GUNU|2MUNSUB|2MURGU2|2MUSH|2MUSH TIMES A|4KUR|4ZA|3OVER MUSH|4MUSH TIMES A PLUS NA",
      "3CROSSING MUSH|2MUSH3|2MUSH3 TIMES A|4A PLUS DI|4DI|3GUNU|2NA|2NA2|2NAGA|2NAGA INVERTED",
      "3TIMES SHU TENU|3OPPOSING NAGA|2NAGAR|2NAM NUTILLU|2NAM|2NAM2|2NE|2NE TIMES A|4UD",
      "3SHESHIG|2NI|2NI TIMES E|2NI2|2NIM|2NIM TIMES GAN2 TENU|4GAR PLUS GAN2 TENU|2NINDA2",
      "2NINDA2 TIMES AN|4ASH|4ASH PLUS ASH|4GUD|4ME PLUS GAN2 TENU|4NE|4NUN|4SHE|4SHE PLUS A AN",
      "6ASH|6ASH PLUS ASH|4U2 PLUS ASH|4USH|2NISAG|2NU|2NU11|2NUN|2NUN LAGAR TIMES GAR|5MASH",
      "5SAL|5SAL OVER NUN LAGAR TIMES SAL|5USH|3TENU|3OVER NUN|3CROSSING NUN",
      "4NUN LAGAR OVER LAGAR|2NUNUZ|2NUNUZ AB2 TIMES ASHGAB|5BI|5DUG|5GUD|5IGI GUNU|5KAD3|5LA",
      "5NE|5SILA3|5U2|3KISIM5 TIMES BI|5BI U|2PA|2PAD|2PAN|2PAP|2PESH2|2PI|2PI TIMES A|4AB|4BI",
      "4BU|4E|4I|4IB|4U|4U2|3CROSSING PI|2PIRIG|2PIRIG TIMES KAL|4UD|4ZA|3OPPOSING PIRIG|2RA",
      "2RAB|2RI|2RU|2SA|2SAG NUTILLU|2SAG|2SAG TIMES A|4DU|4DUB|4HA|4KAK|4KUR|4LUM|4MI|4NUN",
      "4SAL|4SHID|4TAB|4U2|4UB|4UM|4UR|4USH|3OVER SAG|3GUNU|2SAL|2SAL LAGAB TIMES ASH2|2SANGA2",
      "2SAR|2SHA|2SHA3|2SHA3 TIMES A|4BAD|4GISH|4NE|4SHU2|4TUR|4U|4U PLUS A|2SHA6|2SHAB6|2SHAR2",
      "2SHE|2SHE HU|3OVER SHE GAD OVER GAD GAR OVER GAR|5TAB OVER TAB GAR OVER GAR|2SHEG9|2SHEN",
      "2SHESH|2SHESH2|2SHESHLAM|2SHID|2SHID TIMES A|4IM|2SHIM|2SHIM TIMES A|4BAL|4BULUG|4DIN",
      "4GAR|4IGI|4IGI GUNU|4KUSHU2|4LUL|4MUG|4SAL|2SHINIG|2SHIR|2SHIR TENU",
      "3OVER SHIR BUR OVER BUR|2SHITA|2SHU|2SHU OVER INVERTED SHU|2SHU2|2SHUBUR|2SI|2SI GUNU",
      "2SIG|2SIG4|2SIG4 OVER SIG4 SHU2|2SIK2|2SILA3|2SU|2SU OVER SU|2SUD|2SUD2|2SUHUR|2SUM",
      "2SUMASH|2SUR|2SUR9|2TA|2TA ASTERISK|3TIMES HI|4MI|3GUNU|2TAB",
      "2TAB OVER TAB NI OVER NI DISH OVER DISH|3SQUARED|2TAG|2TAG TIMES BI|4GUD|4SHE|4SHU|4TUG2",
      "4UD|2TAK4|2TAR|2TE|2TE GUNU|2TI|2TI TENU|2TIL|2TIR|2TIR TIMES TAK4|3OVER TIR",
      "4TIR GAD OVER GAD GAR OVER GAR|2TU|2TUG2|2TUK|2TUM|2TUR|2TUR OVER TUR ZA OVER ZA|2U",
      "2U GUD|3U U|3OVER U PA OVER PA GAR OVER GAR|5SUR OVER SUR|5U REVERSED OVER U REVERSED",
      "2U2|2UB|2UD|2UD KUSHU2|3TIMES BAD|4MI|4U PLUS U PLUS U|8U GUNU|3GUNU|3SHESHIG",
      "3SHESHIG TIMES BAD|2UDUG|2UM|2UM TIMES LAGAB|4ME PLUS DA|4SHA3|4U|2UMBIN|2UMUM",
      "2UMUM TIMES KASKAL|4PA|2UN|2UN GUNU|2UR|2UR CROSSING UR|3SHESHIG|2UR2",
      "2UR2 TIMES A PLUS HA|6NA|4AL|4HA|4NUN|4U2|4U2 PLUS ASH|6BI|2UR4|2URI|2URI3|2URU",
      "2URU TIMES A|4ASHGAB|4BAR|4DUN|4GA|4GAL|4GAN2 TENU|4GAR|4GU|4HA|4IGI|4IM|4ISH|4KI|4LUM",
      "4MIN|4PA|4SHE|4SIG4|4TU|4U PLUS GUD|4UD|4URUDA|2URUDA|2URUDA TIMES U|2USH|2USH TIMES A",
      "4KU|4KUR|4TAK4|2USHX|2USH2|2USHUMX|2UTUKI|2UZ3|2UZ3 TIMES KASKAL|2UZU|2ZA|2ZA TENU",
      "3SQUARED TIMES KUR|2ZAG|2ZAMX|2ZE2|2ZI|2ZI OVER ZI|2ZI3|2ZIB|2ZIB KABA TENU|2ZIG|2ZIZ2",
      "2ZU|2ZU5|2ZU5 TIMES A|2ZUBUR|2ZUM|2KAP ELAMITE|2AB TIMES NUN|2AB2 TIMES A",
      "2AMAR TIMES KUG|2DAG KISIM5 TIMES U2 PLUS MASH|2DAG3|2DISH PLUS SHU|2DUB TIMES SHE",
      "2EZEN TIMES GUD|4SHE|2GA2 TIMES AN PLUS KAK PLUS A|4ASH2|2GE22|2GIG|2HUSH",
      "2KA TIMES ANSHE|4ASH3|4GISH|4GUD|4HI TIMES ASH2|4LUM|4PA|4SHUL|4TU|4UR2|2LAGAB TIMES GI",
      "2LU2 SHESHIG TIMES BAD|3TIMES ESH2 PLUS LAL|4SHU|2MESH|2MUSH3 TIMES ZA|2NA4|2NIN|2NIN9",
      "2NINDA2 TIMES BAL|4GI|2NU11 ROTATED NINETY DEGREES|2PESH2 ASTERISK|2PIR2",
      "2SAG TIMES IGI GUNU|2TI2|2UM TIMES ME|2U U"]⟩, ⟨0x12400, ["1NUMERIC SIGN TWO ASH",
      "3THREE ASH|3FOUR ASH|3FIVE ASH|3SIX ASH|3SEVEN ASH|3EIGHT ASH|3NINE ASH|3THREE DISH",
      "3FOUR DISH|3FIVE DISH|3SIX DISH|3SEVEN DISH|3EIGHT DISH|3NINE DISH|3FOUR U|3FIVE U",
      "3SIX U|3SEVEN U|3EIGHT U|3NINE U|3ONE GESH2|3TWO GESH2|3THREE GESH2|3FOUR GESH2",
      "3FIVE GESH2|3SIX GESH2|3SEVEN GESH2|3EIGHT GESH2|3NINE GESH2|3ONE GESHU|3TWO GESHU",
      "3THREE GESHU|3FOUR GESHU|3FIVE GESHU|3TWO SHAR2|3THREE SHAR2|4SHAR2 VARIANT FORM",
      "3FOUR SHAR2|3FIVE SHAR2|3SIX SHAR2|3SEVEN SHAR2|3EIGHT SHAR2|3NINE SHAR2|3ONE SHARU",
      "3TWO SHARU|3THREE SHARU|4SHARU VARIANT FORM|3FOUR SHARU|3FIVE SHARU",
      "3SHAR2 TIMES GAL PLUS DISH|7MIN|3ONE BURU|3TWO BURU|3THREE BURU|4BURU VARIANT FORM",
      "3FOUR BURU|3FIVE BURU|3THREE VARIANT FORM ESH16|6ESH21|3FOUR VARIANT FORM LIMMU|6LIMMU4",
      "6LIMMU A|7B|3SIX VARIANT FORM ASH9|3SEVEN VARIANT FORM IMIN3|6IMIN A|7B",
      "3EIGHT VARIANT FORM USSU|6USSU3|3NINE VARIANT FORM ILIMMU|6ILIMMU3|6ILIMMU4|6ILIMMU A",
      "3TWO ASH TENU|3THREE ASH TENU|3FOUR ASH TENU|3FIVE ASH TENU|3SIX ASH TENU|3ONE BAN2",
      "3TWO BAN2|3THREE BAN2|3FOUR BAN2|4BAN2 VARIANT FORM|3FIVE BAN2|4BAN2 VARIANT FORM",
      "3NIGIDAMIN|3NIGIDAESH|3ONE ESHE3|3TWO ESHE3|3ONE THIRD DISH|3TWO THIRDS DISH",
      "3FIVE SIXTHS DISH|3ONE THIRD VARIANT FORM A|3TWO THIRDS VARIANT FORM A|3ONE EIGHTH ASH",
      "4QUARTER ASH|3OLD ASSYRIAN ONE SIXTH|6QUARTER|3ONE QUARTER GUR|4HALF GUR",
      "3ELAMITE ONE THIRD|4TWO THIRDS|4FORTY|4FIFTY|3FOUR U VARIANT FORM|3FIVE U VARIANT FORM",
      "3SIX U VARIANT FORM|3SEVEN U VARIANT FORM|3EIGHT U VARIANT FORM|3NINE U VARIANT FORM"]⟩,
    ⟨0x12470, ["1PUNCTUATION SIGN OLD ASSYRIAN WORD DIVIDER|3VERTICAL COLON|3DIAGONAL COLON",
      "4TRICOLON|4QUADCOLON"]⟩, ⟨0x12480, ["1SIGN AB TIMES NUN TENU|4SHU2|2AD TIMES ESH2",
      "2BAD TIMES DISH TENU|2BAHAR2 TIMES AB2|4NI|4ZA|2BU OVER BU TIMES NA2|2DA TIMES TAK4",
      "2DAG TIMES KUR|2DIM TIMES IGI|4U U U|2DIM2 TIMES UD|2DUG TIMES ANSHE|4ASH|4ASH AT LEFT",
      "4DIN|4DUN|4ERIN2|4GA|4GI|4GIR2 GUNU|4GISH|4HA|4HI|4IGI GUNU|4KASKAL|4KUR|4KUSHU2",
      "4KUSHU2 PLUS KASKAL|4LAK-020|4LAM|4LAM TIMES KUR|4LUH PLUS GISH|4MASH|4MES|4MI|4NI|4PI",
      "4SHE|4SI GUNU|2E2 TIMES KUR|4PAP|2ERIN2 X|2ESH2 CROSSING ESH2|2EZEN SHESHIG TIMES ASH",
      "5HI|5IGI GUNU|5LA|5LAL|5ME|5MES|5SU|3TIMES SU|2GA2 TIMES BAHAR2|4DIM GUNU",
      "4DUG TIMES IGI GUNU|6KASKAL|4EREN|4GA|4GAR PLUS DI|6NE|4HA PLUS A|4KUSHU2 PLUS KASKAL",
      "4LAM|4LAM TIMES KUR|4LUH|4MUSH|4NE|4NE PLUS E2|6GI|4SHIM|4ZIZ2",
      "2GABA ROTATED NINETY DEGREES|2GESHTIN TIMES U|2GISH TIMES GISH CROSSING GISH",
      "2GU2 TIMES IGI GUNU|2GUD PLUS GISH TIMES TAK4|2HA TENU GUNU",
      "2HI TIMES ASH OVER HI TIMES ASH|2KA TIMES BU|4KA|4U U U|4UR|2LAGAB TIMES ZU OVER ZU",
      "2LAK-003|3021|3025|3030|3050|3051|3062|3079 OVER LAK-079 GUNU|3080|3081 OVER LAK-081",
      "3092|3130|3142|3210|3219|3220|3225|3228|3238|3265|3266|3343|3347|3348|3383|3384|3390",
      "3441|3449|3449 TIMES GU|5IGI|5PAP PLUS LU3|7PAP PLUS LU3|5U2 PLUS BA|3450|3457|3470|3483",
      "3490|3492|3493|3495|3550|3608|3617|3617 TIMES ASH|5BAD|5DUN3 GUNU GUNU|5KU3|5LA|5TAR|5TE",
      "5U2|5UD|5URUDA|3636|3648|3648 TIMES DUB|5GA|5IGI|5IGI GUNU|5NI|5PAP PLUS PAP PLUS LU3",
      "5SHESH PLUS KI|5UD|5URUDA|3724|3749|2LU2 GUNU TIMES ASH|3TIMES DISH|4HAL|4PAP",
      "4PAP PLUS PAP PLUS LU3|4TAK4|2MI PLUS ZA7|2MUSH OVER MUSH TIMES GA|6KAK",
      "2NINDA2 TIMES DIM GUNU|4GISH|4GUL|4HI|4KESH2|4LAK-050|4MASH|4PAP PLUS PAP|4U|4U PLUS U",
      "4URUDA|2SAG GUNU TIMES HA|3TIMES EN|4SHE AT LEFT|4TAK4|2SHA6 TENU|2SHE OVER SHE",
      "3PLUS HUB2|4NAM2|4SAR|2SHU2 PLUS DUG TIMES NI|4E2 TIMES AN|2SI TIMES TAK4|2TAK4 PLUS SAG",
      "2TUM TIMES GAN2 TENU|4THREE DISH|2UR2 INVERTED|3TIMES UD|2URU TIMES DARA3|4LAK-668|4LU3",
      "2ZA7|2ZU OVER ZU PLUS SAR|2ZU5 TIMES THREE DISH TENU"]⟩,
    ⟨0x12F90, ["0CYPRO-MINOAN SIGN CM001|3CM002|3CM004|3CM005|3CM006|3CM007|3CM008|3CM009",
      "3CM010|3CM011|3CM012|3CM012B|3CM013|3CM015|3CM017|3CM019|3CM021|3CM023|3CM024|3CM025",
      "3CM026|3CM027|3CM028|3CM029|3CM030|3CM033|3CM034|3CM035|3CM036|3CM037|3CM038|3CM039",
      "3CM040|3CM041|3CM044|3CM046|3CM047|3CM049|3CM050|3CM051|3CM052|3CM053|3CM054|3CM055",
      "3CM056|3CM058|3CM059|3CM060|3CM061|3CM062|3CM063|3CM064|3CM066|3CM067|3CM068|3CM069",
      "3CM070|3CM071|3CM072|3CM073|3CM074|3CM075|3CM075B|3CM076|3CM078|3CM079|3CM080|3CM081",
      "3CM082|3CM083|3CM084|3CM085|3CM086|3CM087|3CM088|3CM089|3CM090|3CM091|3CM092|3CM094",
      "3CM095|3CM096|3CM097|3CM098|3CM099|3CM100|3CM101|3CM102|3CM103|3CM104|3CM105|3CM107",
      "3CM108|3CM109|3CM110|3CM112|3CM114|3CM301|3CM302"]⟩,
    ⟨0x13000, ["0EGYPTIAN HIEROGLYPH A001|2A002|2A003|2A004|2A005|2A005A|2A006|2A006A|2A006B",
      "2A007|2A008|2A009|2A010|2A011|2A012|2A013|2A014|2A014A|2A015|2A016|2A017|2A017A|2A018",
      "2A019|2A020|2A021|2A022|2A023|2A024|2A025|2A026|2A027|2A028|2A029|2A030|2A031|2A032",
      "2A032A|2A033|2A034|2A035|2A036|2A037|2A038|2A039|2A040|2A040A|2A041|2A042|2A042A|2A043",
      "2A043A|2A044|2A045|2A045A|2A046|2A047|2A048|2A049|2A050|2A051|2A052|2A053|2A054|2A055",
      "2A056|2A057|2A058|2A059|2A060|2A061|2A062|2A063|2A064|2A065|2A066|2A067|2A068|2A069",
      "2A070|2B001|2B002|2B003|2B004|2B005|2B005A|2B006|2B007|2B008|2B009|2C001|2C002|2C002A",
      "2C002B|2C002C|2C003|2C004|2C005|2C006|2C007|2C008|2C009|2C010|2C010A|2C011|2C012|2C013",
      "2C014|2C015|2C016|2C017|2C018|2C019|2C020|2C021|2C022|2C023|2C024|2D001|2D002|2D003",
      "2D004|2D005|2D006|2D007|2D008|2D008A|2D009|2D010|2D011|2D012|2D013|2D014|2D015|2D016",
      "2D017|2D018|2D019|2D020|2D021|2D022|2D023|2D024|2D025|2D026|2D027|2D027A|2D028|2D029",
      "2D030|2D031|2D031A|2D032|2D033|2D034|2D034A|2D035|2D036|2D037|2D038|2D039|2D040|2D041",
      "2D042|2D043|2D044|2D045|2D046|2D046A|2D047|2D048|2D048A|2D049|2D050|2D050A|2D050B|2D050C",
      "2D050D|2D050E|2D050F|2D050G|2D050H|2D050I|2D051|2D052|2D052A|2D053|2D054|2D054A|2D055",
      "2D056|2D057|2D058|2D059|2D060|2D061|2D062|2D063|2D064|2D065|2D066|2D067|2D067A|2D067B",
      "2D067C|2D067D|2D067E|2D067F|2D067G|2D067H|2E001|2E002|2E003|2E004|2E005|2E006|2E007",
      "2E008|2E008A|2E009|2E009A|2E010|2E011|2E012|2E013|2E014|2E015|2E016|2E016A|2E017|2E017A",
      "2E018|2E019|2E020|2E020A|2E021|2E022|2E023|2E024|2E025|2E026|2E027|2E028|2E028A|2E029",
      "2E030|2E031|2E032|2E033|2E034|2E034A|2E036|2E037|2E038|2F001|2F001A|2F002|2F003|2F004",
      "2F005|2F006|2F007|2F008|2F009|2F010|2F011|2F012|2F013|2F013A|2F014|2F015|2F016|2F017",
      "2F018|2F019|2F020|2F021|2F021A|2F022|2F023|2F024|2F025|2F026|2F027|2F028|2F029|2F030",
      "2F031|2F031A|2F032|2F033|2F034|2F035|2F036|2F037|2F037A|2F038|2F038A|2F039|2F040|2F041",
      "2F042|2F043|2F044|2F045|2F045A|2F046|2F046A|2F047|2F047A|2F048|2F049|2F050|2F051|2F051A",
      "2F051B|2F051C|2F052|2F053|2G001|2G002|2G003|2G004|2G005|2G006|2G006A|2G007|2G007A|2G007B",
      "2G008|2G009|2G010|2G011|2G011A|2G012|2G013|2G014|2G015|2G016|2G017|2G018|2G019|2G020",
      "2G020A|2G021|2G022|2G023|2G024|2G025|2G026|2G026A|2G027|2G028|2G029|2G030|2G031|2G032",
      "2G033|2G034|2G035|2G036|2G036A|2G037|2G037A|2G038|2G039|2G040|2G041|2G042|2G043|2G043A",
      "2G044|2G045|2G045A|2G046|2G047|2G048|2G049|2G050|2G051|2G052|2G053|2G054|2H001|2H002",
      "2H003|2H004|2H005|2H006|2H006A|2H007|2H008|2I001|2I002|2I003|2I004|2I005|2I005A|2I006",
      "2I007|2I008|2I009|2I009A|2I010|2I010A|2I011|2I011A|2I012|2I013|2I014|2I015|2K001|2K002",
      "2K003|2K004|2K005|2K006|2K007|2K008|2L001|2L002|2L002A|2L003|2L004|2L005|2L006|2L006A",
      "2L007|2L008|2M001|2M001A|2M001B|2M002|2M003|2M003A|2M004|2M005|2M006|2M007|2M008|2M009",
      "2M010|2M010A|2M011|2M012|2M012A|2M012B|2M012C|2M012D|2M012E|2M012F|2M012G|2M012H|2M013",
      "2M014|2M015|2M015A|2M016|2M016A|2M017|2M017A|2M018|2M019|2M020|2M021|2M022|2M022A|2M023",
      "2M024|2M024A|2M025|2M026|2M027|2M028|2M028A|2M029|2M030|2M031|2M031A|2M032|2M033|2M033A",
      "2M033B|2M034|2M035|2M036|2M037|2M038|2M039|2M040|2M040A|2M041|2M042|2M043|2M044|2N001",
      "2N002|2N003|2N004|2N005|2N006|2N007|2N008|2N009|2N010|2N011|2N012|2N013|2N014|2N015",
      "2N016|2N017|2N018|2N018A|2N018B|2N019|2N020|2N021|2N022|2N023|2N024|2N025|2N025A|2N026",
      "2N027|2N028|2N029|2N030|2N031|2N032|2N033|2N033A|2N034|2N034A|2N035|2N035A|2N036|2N037",
      "2N037A|2N038|2N039|2N040|2N041|2N042|2NL001|2NL002|2NL003|2NL004|2NL005|2NL005A|2NL006",
      "2NL007|2NL008|2NL009|2NL010|2NL011|2NL012|2NL013|2NL014|2NL015|2NL016|2NL017|2NL017A",
      "2NL018|2NL019|2NL020|2NU001|2NU002|2NU003|2NU004|2NU005|2NU006|2NU007|2NU008|2NU009",
      "2NU010|2NU010A|2NU011|2NU011A|2NU012|2NU013|2NU014|2NU015|2NU016|2NU017|2NU018|2NU018A",
      "2NU019|2NU020|2NU021|2NU022|2NU022A|2O001|2O001A|2O002|2O003|2O004|2O005|2O005A|2O006",
      "2O006A|2O006B|2O006C|2O006D|2O006E|2O006F|2O007|2O008|2O009|2O010|2O010A|2O010B|2O010C",
      "2O011|2O012|2O013|2O014|2O015|2O016|2O017|2O018|2O019|2O019A|2O020|2O020A|2O021|2O022",
      "2O023|2O024|2O024A|2O025|2O025A|2O026|2O027|2O028|2O029|2O029A|2O030|2O030A|2O031|2O032",
      "2O033|2O033A|2O034|2O035|2O036|2O036A|2O036B|2O036C|2O036D|2O037|2O038|2O039|2O040|2O041",
      "2O042|2O043|2O044|2O045|2O046|2O047|2O048|2O049|2O050|2O050A|2O050B|2O051|2P001|2P001A",
      "2P002|2P003|2P003A|2P004|2P005|2P006|2P007|2P008|2P009|2P010|2P011|2Q001|2Q002|2Q003",
      "2Q004|2Q005|2Q006|2Q007|2R001|2R002|2R002A|2R003|2R003A|2R003B|2R004|2R005|2R006|2R007",
      "2R008|2R009|2R010|2R010A|2R011|2R012|2R013|2R014|2R015|2R016|2R016A|2R017|2R018|2R019",
      "2R020|2R021|2R022|2R023|2R024|2R025|2R026|2R027|2R028|2R029|2S001|2S002|2S002A|2S003",
      "2S004|2S005|2S006|2S006A|2S007|2S008|2S009|2S010|2S011|2S012|2S013|2S014|2S014A|2S014B",
      "2S015|2S016|2S017|2S017A|2S018|2S019|2S020|2S021|2S022|2S023|2S024|2S025|2S026|2S026A",
      "2S026B|2S027|2S028|2S029|2S030|2S031|2S032|2S033|2S034|2S035|2S035A|2S036|2S037|2S038",
      "2S039|2S040|2S041|2S042|2S043|2S044|2S045|2S046|2T001|2T002|2T003|2T003A|2T004|2T005",
      "2T006|2T007|2T007A|2T008|2T008A|2T009|2T009A|2T010|2T011|2T011A|2T012|2T013|2T014|2T015",
      "2T016|2T016A|2T017|2T018|2T019|2T020|2T021|2T022|2T023|2T024|2T025|2T026|2T027|2T028",
      "2T029|2T030|2T031|2T032|2T032A|2T033|2T033A|2T034|2T035|2T036|2U001|2U002|2U003|2U004",
      "2U005|2U006|2U006A|2U006B|2U007|2U008|2U009|2U010|2U011|2U012|2U013|2U014|2U015|2U016",
      "2U017|2U018|2U019|2U020|2U021|2U022|2U023|2U023A|2U024|2U025|2U026|2U027|2U028|2U029",
      "2U029A|2U030|2U031|2U032|2U032A|2U033|2U034|2U035|2U036|2U037|2U038|2U039|2U040|2U041",
      "2U042|2V001|2V001A|2V001B|2V001C|2V001D|2V001E|2V001F|2V001G|2V001H|2V001I|2V002|2V002A",
      "2V003|2V004|2V005|2V006|2V007|2V007A|2V007B|2V008|2V009|2V010|2V011|2V011A|2V011B|2V011C",
      "2V012|2V012A|2V012B|2V013|2V014|2V015|2V016|2V017|2V018|2V019|2V020|2V020A|2V020B|2V020C",
      "2V020D|2V020E|2V020F|2V020G|2V020H|2V020I|2V020J|2V020K|2V020L|2V021|2V022|2V023|2V023A",
      "2V024|2V025|2V026|2V027|2V028|2V028A|2V029|2V029A|2V030|2V030A|2V031|2V031A|2V032|2V033",
      "2V033A|2V034|2V035|2V036|2V037|2V037A|2V038|2V039|2V040|2V040A|2W001|2W002|2W003|2W003A",
      "2W004|2W005|2W006|2W007|2W008|2W009|2W009A|2W010|2W010A|2W011|2W012|2W013|2W014|2W014A",
      "2W015|2W016|2W017|2W017A|2W018|2W018A|2W019|2W020|2W021|2W022|2W023|2W024|2W024A|2W025",
      "2X001|2X002|2X003|2X004|2X004A|2X004B|2X005|2X006|2X006A|2X007|2X008|2X008A|2Y001|2Y001A",
      "2Y002|2Y003|2Y004|2Y005|2Y006|2Y007|2Y008|2Z001|2Z002|2Z002A|2Z002B|2Z002C|2Z002D|2Z003",
      "2Z003A|2Z003B|2Z004|2Z004A|2Z005|2Z005A|2Z006|2Z007|2Z008|2Z009|2Z010|2Z011|2Z012|2Z013",
      "2Z014|2Z015|2Z015A|2Z015B|2Z015C|2Z015D|2Z015E|2Z015F|2Z015G|2Z015H|2Z015I|2Z016|2Z016A",
      "2Z016B|2Z016C|2Z016D|2Z016E|2Z016F|2Z016G|2Z016H|2AA001|2AA002|2AA003|2AA004|2AA005",
      "2AA006|2AA007|2AA007A|2AA007B|2AA008|2AA009|2AA010|2AA011|2AA012|2AA013|2AA014|2AA015",
      "2AA016|2AA017|2AA018|2AA019|2AA020|2AA021|2AA022|2AA023|2AA024|2AA025|2AA026|2AA027",
      "2AA028|2AA029|2AA030|2AA031|2AA032"]⟩, ⟨0x13430, ["2VERTICAL JOINER|2HORIZONTAL JOINER",
      "2INSERT AT TOP START|4BOTTOM START|4TOP END|4BOTTOM END|2OVERLAY MIDDLE|2BEGIN SEGMENT",
      "2END SEGMENT"]⟩, ⟨0x14400, ["0ANATOLIAN HIEROGLYPH A001|2A002|2A003|2A004|2A005|2A006",
      "2A007|2A008|2A009|2A010|2A010A|2A011|2A012|2A013|2A014|2A015|2A016|2A017|2A018|2A019",
      "2A020|2A021|2A022|2A023|2A024|2A025|2A026|2A026A|2A027|2A028|2A029|2A030|2A031|2A032",
      "2A033|2A034|2A035|2A036|2A037|2A038|2A039|2A039A|2A040|2A041|2A041A|2A042|2A043|2A044",
      "2A045|2A045A|2A046|2A046A|2A046B|2A047|2A048|2A049|2A050|2A051|2A052|2A053|2A054|2A055",
      "2A056|2A057|2A058|2A059|2A060|2A061|2A062|2A063|2A064|2A065|2A066|2A066A|2A066B|2A066C",
      "2A067|2A068|2A069|2A070|2A071|2A072|2A073|2A074|2A075|2A076|2A077|2A078|2A079|2A080",
      "2A081|2A082|2A083|2A084|2A085|2A086|2A087|2A088|2A089|2A090|2A091|2A092|2A093|2A094",
      "2A095|2A096|2A097|2A097A|2A098|2A098A|2A099|2A100|2A100A|2A101|2A101A|2A102|2A102A|2A103",
      "2A104|2A104A|2A104B|2A104C|2A105|2A105A|2A105B|2A106|2A107|2A107A|2A107B|2A107C|2A108",
      "2A109|2A110|2A110A|2A110B|2A111|2A112|2A113|2A114|2A115|2A115A|2A116|2A117|2A118|2A119",
      "2A120|2A121|2A122|2A123|2A124|2A125|2A125A|2A126|2A127|2A128|2A129|2A130|2A131|2A132",
      "2A133|2A134|2A135|2A135A|2A136|2A137|2A138|2A139|2A140|2A141|2A142|2A143|2A144|2A145",
      "2A146|2A147|2A148|2A149|2A150|2A151|2A152|2A153|2A154|2A155|2A156|2A157|2A158|2A159",
      "2A160|2A161|2A162|2A163|2A164|2A165|2A166|2A167|2A168|2A169|2A170|2A171|2A172|2A173",
      "2A174|2A175|2A176|2A177|2A178|2A179|2A180|2A181|2A182|2A183|2A184|2A185|2A186|2A187",
      "2A188|2A189|2A190|2A191|2A192|2A193|2A194|2A195|2A196|2A197|2A198|2A199|2A200|2A201",
      "2A202|2A202A|2A202B|2A203|2A204|2A205|2A206|2A207|2A207A|2A208|2A209|2A209A|2A210|2A211",
      "2A212|2A213|2A214|2A215|2A215A|2A216|2A216A|2A217|2A218|2A219|2A220|2A221|2A222|2A223",
      "2A224|2A225|2A226|2A227|2A227A|2A228|2A229|2A230|2A231|2A232|2A233|2A234|2A235|2A236",
      "2A237|2A238|2A239|2A240|2A241|2A242|2A243|2A244|2A245|2A246|2A247|2A248|2A249|2A250",
      "2A251|2A252|2A253|2A254|2A255|2A256|2A257|2A258|2A259|2A260|2A261|2A262|2A263|2A264",
      "2A265|2A266|2A267|2A267A|2A268|2A269|2A270|2A271|2A272|2A273|2A274|2A275|2A276|2A277",
      "2A278|2A279|2A280|2A281|2A282|2A283|2A284|2A285|2A286|2A287|2A288|2A289|2A289A|2A290",
      "2A291|2A292|2A293|2A294|2A294A|2A295|2A296|2A297|2A298|2A299|2A299A|2A300|2A301|2A302",
      "2A303|2A304|2A305|2A306|2A307|2A308|2A309|2A309A|2A310|2A311|2A312|2A313|2A314|2A315",
      "2A316|2A317|2A318|2A319|2A320|2A321|2A322|2A323|2A324|2A325|2A326|2A327|2A328|2A329",
      "2A329A|2A330|2A331|2A332A|2A332B|2A332C|2A333|2A334|2A335|2A336|2A336A|2A336B|2A336C",
      "2A337|2A338|2A339|2A340|2A341|2A342|2A343|2A344|2A345|2A346|2A347|2A348|2A349|2A350",
      "2A351|2A352|2A353|2A354|2A355|2A356|2A357|2A358|2A359|2A359A|2A360|2A361|2A362|2A363",
      "2A364|2A364A|2A365|2A366|2A367|2A368|2A368A|2A369|2A370|2A371|2A371A|2A372|2A373|2A374",
      "2A375|2A376|2A377|2A378|2A379|2A380|2A381|2A381A|2A382|2A383 RA OR RI|2A383A|2A384|2A385",
      "2A386|2A386A|2A387|2A388|2A389|2A390|2A391|2A392|2A393 EIGHT|2A394|2A395|2A396|2A397",
      "2A398|2A399|2A400|2A401|2A402|2A403|2A404|2A405|2A406|2A407|2A408|2A409",
      "2A410 BEGIN LOGOGRAM MARK|2A410A END LOGOGRAM MARK|2A411|2A412|2A413|2A414|2A415|2A416",
      "2A417|2A418|2A419|2A420|2A421|2A422|2A423|2A424|2A425|2A426|2A427|2A428|2A429|2A430",
      "2A431|2A432|2A433|2A434|2A435|2A436|2A437|2A438|2A439|2A440|2A441|2A442|2A443|2A444",
      "2A445|2A446|2A447|2A448|2A449|2A450|2A450A|2A451|2A452|2A453|2A454|2A455|2A456|2A457",
      "2A457A|2A458|2A459|2A460|2A461|2A462|2A463|2A464|2A465|2A466|2A467|2A468|2A469|2A470",
      "2A471|2A472|2A473|2A474|2A475|2A476|2A477|2A478|2A479|2A480|2A481|2A482|2A483|2A484",
      "2A485|2A486|2A487|2A488|2A489|2A490|2A491|2A492|2A493|2A494|2A495|2A496|2A497|2A501",
      "2A502|2A503|2A504|2A505|2A506|2A507|2A508|2A509|2A510|2A511|2A512|2A513|2A514|2A515",
      "2A516|2A517|2A518|2A519|2A520|2A521|2A522|2A523|2A524|2A525|2A526|2A527|2A528|2A529",
      "2A530"]⟩, ⟨0x16800, ["0BAMUM LETTER PHASE-A NGKUE MFON|4GBIEE FON|4PON MFON PIPAEMGBIEE",
      "6PIPAEMBA|4NAA MFON|4SHUENSHUET|4TITA MFON|4NZA MFON|4SHINDA PA NJI",
      "4PON PA NJI PIPAEMGBIEE|7PIPAEMBA|4MAEMBGBIEE|4TU MAEMBA|4NGANGU|4MAEMVEUX|4MANSUAE",
      "4MVEUAENGAM|4SEUNYAM|4NTOQPEN|4KEUKEUTNDA|4NKINDI|4SUU|4NGKUENZEUM|4LAPAQ|4LET KUT",
      "4NTAP MFAA|4MAEKEUP|4PASHAE|4GHEUAERAE|4PAMSHAE|4MON NGGEUAET|4NZUN MEUT|4U YUQ NAE",
      "4GHEUAEGHEUAE|4NTAP NTAA|4SISA|4MGBASA|4MEUNJOMNDEUQ|4MOOMPUQ|4KAFA|4PA LEERAEWA",
      "4NDA LEERAEWA|4PET|4MAEMKPEN|4NIKA|4PUP|4TUAEP|4LUAEP|4SONJAM|4TEUTEUWEN|4MAENYI|4KET",
      "4NDAANGGEUAET|4KUOQ|4MOOMEUT|4SHUM|4LOMMAE|4FIRI|4ROM|4KPOQ|4SOQ|4MAP PIEET|4SHIRAE",
      "4NTAP|4SHOQ NSHUT YUM|4NYIT MONGKEUAEQ|4PAARAE|4NKAARAE|4UNKNOWN|4NGGEN|4MAESI|4NJAM",
      "4MBANYI|4NYET|4TEUAEN|4SOT|4PAAM|4NSHIEE|4MAEM|4NYI|4KAQ|4NSHA|4VEE|4LU|4NEN|4NAQ|4MBAQ",
      "3B NSHUET|4TU MAEMGBIEE|4SIEE|4SET TU|4LOM NTEUM|4MBA MAELEE|4KIEEM|4YEURAE|4MBAARAE",
      "4KAM|4PEESHI|4YAFU LEERAEWA|4LAM NSHUT NYAM|4NTIEE SHEUOQ|4NDU NJAA|4GHEUGHEUAEM|4PIT",
      "4TU NSIEE|4SHET NJAQ|4SHEUAEQTU|4MFON TEUAEQ|4MBIT MBAAKET|4NYI NTEUM|4KEUPUQ|4GHEUGHEN",
      "4KEUYEUX|4LAANAE|4PARUM|4VEUM|4NGKINDI MVOP|4NGGEU MBU|4WUAET|4SAKEUAE|4TAAM|4MEUQ",
      "4NGGUOQ|4NGGUOQ LARGE|4MFIYAQ|4SUE|4MBEURI|4MONTIEEN|4NYAEMAE|4PUNGAAM|4MEUT NGGEET",
      "4FEUX|4MBUOQ|4FEE|4KEUAEM|4MA NJEUAENA|5NJUQA|4LET|4NGGAAM|4NSEN|4MA|4KIQ|4NGOM",
      "3C NGKUE MAEMBA|4NZA|4YUM|4WANGKUOQ|4NGGEN|4NDEUAEREE|4NGKAQ|4GHARAE|4MBEEKEET|4GBAYI",
      "4NYIR MKPARAQ MEUN|4NTU MBIT|4MBEUM|4PIRIEEN|4NDOMBU|4MBAA CABBAGE-TREE|4KEUSHEUAEP",
      "4GHAP|4KEUKAQ|4YU MUOMAE|4NZEUM|4MBUE|4NSEUAEN|4MBIT|4YEUQ|4KPARAQ|4KAA|4SEUX|4NDIDA",
      "4TAASHAE|4NJUEQ|4TITA YUE|4SUAET|4NGGUAEN NYAM|4VEUX|4NANSANAQ|4MA KEUAERI|4NTAA|4NGGUON",
      "4LAP|4MBIRIEEN|4MGBASAQ|4NTEUNGBA|4TEUTEUX|4NGGUM|4FUE|4NDEUT|4NSA|4NSHAQ|4BUNG",
      "4VEUAEPEN|4MBERAE|4RU|4NJAEM|4LAM|4TITUAEP|4NSUOT NGOM|4NJEEEE|4KET|4NGGU|4MAESI|4MBUAEM",
      "4LU|4KUT|4NJAM|4NGOM|4WUP|4NGGUEET|4NSOM|4NTEN|4KUOP NKAARAE|4NSUN|4NDAM|4MA NSIEE|4YAA",
      "4NDAP|4SHUEQ|4SETFON|4MBI|4MAEMBA|4MBANYI|4KEUSEUX|4MBEUX|4KEUM|4MBAA PICKET|4YUWOQ",
      "4NJEUX|4MIEE|4MUAE|4SHIQ|4KEN LAW|5FATIGUE|4NGAQ|4NAQ|4LIQ|4PIN|4PEN|4TET|3D MBUO|4WAP",
      "4NJI|4MFON|4NJIEE|4LIEE|4NJEUT|4NSHEE|4NGGAAMAE|4NYAM|4WUAEN|4NGKUN|4SHEE|4NGKAP",
      "4KEUAETMEUN|4TEUT|4SHEUAE|4NJAP|4SUE|4KET|4YAEMMAE|4KUOM|4SAP|4MFEUT|4NDEUX|4MALEERI",
      "4MEUT|4SEUAEQ|4YEN|4NJEUAEM|4KEUOT MBUAE|4NGKEURI|4TU|4GHAA|4NGKYEE|4FEUFEUAET|4NDEE",
      "4MGBOFUM|4LEUAEP|4NDON|4MONI|4MGBEUN|4PUUT|4MGBIEE|4MFO|4LUM|4NSIEEP|4MBAA|4KWAET|4NYET",
      "4TEUAEN|4SOT|4YUWOQ|4KEUM|4RAEM|4TEEEE|4NGKEUAEQ|4MFEUAE|4NSIEET|4KEUP|4PIP|4PEUTAE",
      "4NYUE|4LET|4NGGAAM|4MFIEE|4NGGWAEN|4YUOM|4PAP|4YUOP|4NDAM|4NTEUM|4SUAE|4KUN|4NGGEUX",
      "4NGKIEE|4TUOT|4MEUN|4KUQ|4NSUM|4TEUN|4MAENJET|4NGGAP|4LEUM|4NGGUOM|4NSHUT|4NJUEQ|4GHEUAE",
      "4KU|4REN OLD|4TAE|4TOQ|4NYI|4RII|4LEEEE|4MEEEE|4M|4SUU|4MU|4SHII|4SHEUX|4KYEE|4NU|4SHU",
      "4NTEE|4PEE|4NI|4SHOQ|4PUQ|4MVOP|4LOQ|4REN MUCH|4TI|4NTUU|4MBAA SEVEN|4SAQ|4FAA|3E NDAP",
      "4TOON|4MBEUM|4LAP|4VOM|4LOON|4PAA|4SOM|4RAQ|4NSHUOP|4NDUN|4PUAE|4TAM|4NGKA|4KPEUX|4WUO",
      "4SEE|4NGGEUAET|4PAAM|4TOO|4KUOP|4LOM|4NSHIEE|4NGOP|4MAEM|4NGKEUX|4NGOQ|4NSHUE|4RIMGBA",
      "4NJEUX|4PEEM|4SAA|4NGGURAE|4MGBA|4GHEUX|4NGKEUAEM|4NJAEMLI|4MAP|4LOOT|4NGGEEEE|4NDIQ",
      "4TAEN NTEUM|4SET|4PUM|4NDAA SOFTNESS|4NGGUAESHAE NYAM|4YIEE|4GHEUN|4TUAE|4YEUAE|4PO",
      "4TUMAE|4KEUAE|4SUAEN|4TEUAEQ|4VEUAE|4WEUX|4LAAM|4PU|4TAAQ|4GHAAMAE|4NGEUREUT|4SHEUAEQ",
      "4MGBEN|4MBEE|4NZAQ|4NKOM|4GBET|4TUM|4KUET|4YAP|4NYI CLEAVER|4YIT|4MFEUQ|4NDIAQ|4PIEEQ",
      "4YUEQ|4LEUAEM|4FUE|4GBEUX|4NGKUP|4KET|4MAE|4NGKAAMI|4GHET|4FA|4NTUM|4PEUT|4YEUM|4NGGEUAE",
      "4NYI BETWEEN|4NZUQ|4POON|4MIEE|4FUET|4NAE|4MUAE|4GHEUAE|4FU I|4MVI|4PUAQ|4NGKUM|4KUT",
      "4PIET|4NTAP|4YEUAET|4NGGUP|4PA PEOPLE|4FU CALL|4FOM|4NJEE|4A|4TOQ|4O|4I|4LAQ|4PA PLURAL",
      "4TAA|4TAQ|4NDAA MY HOUSE|4SHIQ|4YEUX|4NGUAE|4YUAEN|4YOQ SWIMMING|5COVER|4YUQ|4YUN|4KEUX",
      "4PEUX|4NJEE EPOCH|4PUE|4WUE|4FEE|4VEE|4LU|4MI|4REUX|4RAE|4NGUAET|4NGA|4SHO|4SHOQ",
      "4FU REMEDY|4NA|4PI|4LOQ|4KO|4MEN|4MA|4MAQ|4TEU|4KI|4MON|4TEN|4FAQ|4GHOM|3F KA|4U|4KU|4EE",
      "4REE|4TAE|4NYI|4LA|4RII|4RIEE|4MEEEE|4TAA|4NDAA|4NJAEM|4M|4SUU|4SHII|4SI|4SEUX|4KYEE",
      "4KET|4NUAE|4NU|4NJUAE|4YOQ|4SHU|4YA|4NSHA|4PEUX|4NTEE|4WUE|4PEE|4RU|4NI|4REUX|4KEN",
      "4NGKWAEN|4NGGA|4SHO|4PUAE|4FOM|4WA|4LI|4LOQ|4KO|4MBEN|4REN|4MA|4MO|4MBAA|4TET|4KPA",
      "4SAMBA|4VUEQ"]⟩, ⟨0x16A40, ["0MRO LETTER TA|2NGI|2YO|2MIM|2BA|2DA|2A|2PHI|2KHAI|2HAO",
      "2DAI|2CHU|2KEAAE|2OL|2MAEM|2NIN|2PA|2OO|2O|2RO|2SHI|2THEA|2EA|2WA|2E|2KO|2LAN|2LA|2HAI",
      "2RI|2TEK"]⟩, ⟨0x16A60, ["1DIGIT ZERO|2ONE|2TWO|2THREE|2FOUR|2FIVE|2SIX|2SEVEN|2EIGHT",
      "2NINE"]⟩, ⟨0x16A6E, ["1DANDA|1DOUBLE DANDA|0TANGSA LETTER OZ|2OC|2OQ|2OX|2AZ|2AC|2AQ|2AX",
      "2VZ|2VC|2VQ|2VX|2EZ|2EC|2EQ|2EX|2IZ|2IC|2IQ|2IX|2UZ|2UC|2UQ|2UX|2AWZ|2AWC|2AWQ|2AWX|2UIZ",
      "2UIC|2UIQ|2UIX|2FINAL NG|2LONG UEX|2SHORT UEZ|3AWX|2UEC|2UEZ|2UEQ|2UEX|2UIUZ|2UIUC|2UIUQ",
      "2UIUX|2MZ|2MC|2MQ|2MX|2KA|2KHA|2GA|2NGA|2SA|2YA|2WA|2PA|2NYA|2PHA|2BA|2MA|2NA|2HA|2LA",
      "2HTA|2TA|2DA|2RA|2NHA|2SHA|2CA|2TSA|2GHA|2HTTA|2THA|2XA|2FA|2DHA|2CHA|2ZA"]⟩,
    ⟨0x16AC0, ["1DIGIT ZERO|2ONE|2TWO|2THREE|2FOUR|2FIVE|2SIX|2SEVEN|2EIGHT|2NINE"]⟩,
    ⟨0x16AD0, ["0BASSA VAH LETTER ENNI|3KA|3SE|3FA|3MBE|3YIE|3GAH|3DHII|3KPAH|3JO|3HWAH|3WA|3ZO",
      "3GBU|3DO|3CE|3UWU|3TO|3BA|3VU|3YEIN|3PA|3WADDA|3A|3O|3OO|3U|3EE|3E|3I"]⟩,
    ⟨0x16AF0, ["2COMBINING HIGH TONE|3LOW TONE|3MID TONE|3LOW-MID TONE|3HIGH-LOW TONE",
      "2FULL STOP"]⟩, ⟨0x16B00, ["0PAHAWH HMONG VOWEL KEEB|3KEEV|3KIB|3KIV|3KAUB|3KAUV|3KUB",
      "3KUV|3KEB|3KEV|3KAIB|3KAIV|3KOOB|3KOOV|3KAWB|3KAWV|3KUAB|3KUAV|3KOB|3KOV|3KIAB|3KIAV",
      "3KAB|3KAV|3KWB|3KWV|3KAAB|3KAAV|2CONSONANT VAU|3NTSAU|3LAU|3HAU|3NLAU|3RAU|3NKAU|3QHAU",
      "3YAU|3HLAU|3MAU|3CHAU|3NCHAU|3HNAU|3PLHAU|3NTHAU|3NAU|3AU|3XAU|3CAU|2MARK CIM TUB|4SO",
      "4KES|4KHAV|4SUAM|4HOM|4TAUM|2SIGN VOS THOM|4TSHAB CEEB|3CIM CHEEM|3VOS THIAB|4FEEM",
      "3XYEEM NTXIV|4RHO|4TOV|4FAIB|3VOS SEEV|3MEEJ SUAB|3VOS NRUA|3IB YAM|3XAUS|3CIM TSOV ROG"]⟩,
    ⟨0x16B50, ["2DIGIT ZERO|3ONE|3TWO|3THREE|3FOUR|3FIVE|3SIX|3SEVEN|3EIGHT|3NINE"]⟩,
    ⟨0x16B5B, ["2NUMBER TENS|3HUNDREDS|3TEN THOUSANDS|3MILLIONS|3HUNDRED MILLIONS|3TEN BILLIONS",
      "3TRILLIONS"]⟩, ⟨0x16B63, ["2SIGN VOS LUB|3XYOO|3HLI|3THIRD-STAGE HLI|3ZWJ THAJ|3HNUB",
      "3NQIG|3XIAB|3NTUJ|3AV|3TXHEEJ CEEV|3MEEJ TSEEB|3TAU|3LOS|3MUS|3CIM HAIS LUS NTOG NTOG",
      "4CUAM TSHOOJ|4TXWV|4TXWV CHWV|4PUB DAWB|4NRES TOS"]⟩, ⟨0x16B7D, ["2CLAN SIGN TSHEEJ",
      "4YEEG|4LIS|4LAUJ|4XYOOJ|4KOO|4HAWJ|4MUAS|4THOJ|4TSAB|4PHAB|4KHAB|4HAM|4VAJ|4FAJ|4YAJ",
      "4TSWB|4KWM|4VWJ"]⟩, ⟨0x16E40, ["0MEDEFAIDRIN CAPITAL LETTER M|3S|3V|3W|3ATIU|3Z|3KP|3P",
      "3T|3G|3F|3I|3K|3A|3J|3E|3B|3C|3U|3YU|3L|3Q|3HP|3NY|3X|3D|3OE|3N|3R|3O|3AI|3Y",
      "1SMALL LETTER M|3S|3V|3W|3ATIU|3Z|3KP|3P|3T|3G|3F|3I|3K|3A|3J|3E|3B|3C|3U|3YU|3L|3Q|3HP",
      "3NY|3X|3D|3OE|3N|3R|3O|3AI|3Y|1DIGIT ZERO|2ONE|2TWO|2THREE|2FOUR|2FIVE|2SIX|2SEVEN",
      "2EIGHT|2NINE|1NUMBER TEN|2ELEVEN|2TWELVE|2THIRTEEN|2FOURTEEN|2FIFTEEN|2SIXTEEN",
      "2SEVENTEEN|2EIGHTEEN|2NINETEEN|1DIGIT ONE ALTERNATE FORM|2TWO ALTERNATE FORM",
      "2THREE ALTERNATE FORM|1COMMA|1FULL STOP|1SYMBOL AIVA|1EXCLAMATION OH"]⟩,
    ⟨0x16F00, ["0MIAO LETTER PA|2BA|2YI PA|2PLA|2MA|2MHA|2ARCHAIC MA|2FA|2VA|2VFA|2TA|2DA",
      "2YI TTA|3TA|2TTA|2DDA|2NA|2NHA|2YI NNA|2ARCHAIC NA|2NNA|2NNHA|2LA|2LYA|2LHA|2LHYA|2TLHA",
      "2DLHA|2TLHYA|2DLHYA|2KA|2GA|2YI KA|2QA|2QGA|2NGA|2NGHA|2ARCHAIC NGA|2HA|2XA|2GHA|2GHHA",
      "2TSSA|2DZZA|2NYA|2NYHA|2TSHA|2DZHA|2YI TSHA|3DZHA|2REFORMED TSHA|2SHA|2SSA|2ZHA|2ZSHA",
      "2TSA|2DZA|2YI TSA|2SA|2ZA|2ZSA|2ZZA|2ZZSA|2ARCHAIC ZZA|2ZZYA|2ZZSYA|2WA|2AH|2HHA|2BRI",
      "2SYI|2DZYI|2TE|2TSE|2RTE"]⟩, ⟨0x16F4F, ["1SIGN CONSONANT MODIFIER BAR",
      "1LETTER NASALIZATION|1SIGN ASPIRATION|2REFORMED VOICING|3ASPIRATION|1VOWEL SIGN A|3AA",
      "3AHH|3AN|3ANG|3O|3OO|3WO|3W|3E|3EN|3ENG|3OEY|3I|3IA|3IAN|3IANG|3IO|3IE|3II|3IU|3ING|3U",
      "3UA|3UAN|3UANG|3UU|3UEI|3UNG|3Y|3YI|3AE|3AEE|3ERR|3ROUNDED ERR|3ER|3ROUNDED ER|3AI|3EI",
      "3AU|3OU|3N|3NG|3UOG|3YUI|3OG|3OER|3VW|3IG|3EA|3IONG|3UI"]⟩, ⟨0x16F8F, ["1TONE RIGHT",
      "2TOP RIGHT|2ABOVE|2BELOW|1LETTER TONE-2|33|34|35|36|37|38|2REFORMED TONE-1|42|44|45|46",
      "48"]⟩, ⟨0x16FE0, ["0TANGUT ITERATION MARK|0NUSHU ITERATION MARK|0OLD CHINESE HOOK MARK",
      "2ITERATION MARK|0KHITAN SMALL SCRIPT FILLER"]⟩,
    ⟨0x16FF0, ["0VIETNAMESE ALTERNATE READING MARK CA|4NHAY"]⟩,
    ⟨0x18800, ["0TANGUT COMPONENT-001|2002|2003|2004|2005|2006|2007|2008|2009|2010|2011|2012",
      "2013|2014|2015|2016|2017|2018|2019|2020|2021|2022|2023|2024|2025|2026|2027|2028|2029",
      "2030|2031|2032|2033|2034|2035|2036|2037|2038|2039|2040|2041|2042|2043|2044|2045|2046",
      "2047|2048|2049|2050|2051|2052|2053|2054|2055|2056|2057|2058|2059|2060|2061|2062|2063",
      "2064|2065|2066|2067|2068|2069|2070|2071|2072|2073|2074|2075|2076|2077|2078|2079|2080",
      "2081|2082|2083|2084|2085|2086|2087|2088|2089|2090|2091|2092|2093|2094|2095|2096|2097",
      "2098|2099|2100|2101|2102|2103|2104|2105|2106|2107|2108|2109|2110|2111|2112|2113|2114",
      "2115|2116|2117|2118|2119|2120|2121|2122|2123|2124|2125|2126|2127|2128|2129|2130|2131",
      "2132|2133|2134|2135|2136|2137|2138|2139|2140|2141|2142|2143|2144|2145|2146|2147|2148",
      "2149|2150|2151|2152|2153|2154|2155|2156|2157|2158|2159|2160|2161|2162|2163|2164|2165",
      "2166|2167|2168|2169|2170|2171|2172|2173|2174|2175|2176|2177|2178|2179|2180|2181|2182",
      "2183|2184|2185|2186|2187|2188|2189|2190|2191|2192|2193|2194|2195|2196|2197|2198|2199",
      "2200|2201|2202|2203|2204|2205|2206|2207|2208|2209|2210|2211|2212|2213|2214|2215|2216",
      "2217|2218|2219|2220|2221|2222|2223|2224|2225|2226|2227|2228|2229|2230|2231|2232|2233",
      "2234|2235|2236|2237|2238|2239|2240|2241|2242|2243|2244|2245|2246|2247|2248|2249|2250",
      "2251|2252|2253|2254|2255|2256|2257|2258|2259|2260|2261|2262|2263|2264|2265|2266|2267",
      "2268|2269|2270|2271|2272|2273|2274|2275|2276|2277|2278|2279|2280|2281|2282|2283|2284",
      "2285|2286|2287|2288|2289|2290|2291|2292|2293|2294|2295|2296|2297|2298|2299|2300|2301",
      "2302|2303|2304|2305|2306|2307|2308|2309|2310|2311|2312|2313|2314|2315|2316|2317|2318",
      "2319|2320|2321|2322|2323|2324|2325|2326|2327|2328|2329|2330|2331|2332|2333|2334|2335",
      "2336|2337|2338|2339|2340|2341|2342|2343|2344|2345|2346|2347|2348|2349|2350|2351|2352",
      "2353|2354|2355|2356|2357|2358|2359|2360|2361|2362|2363|2364|2365|2366|2367|2368|2369",
      "2370|2371|2372|2373|2374|2375|2376|2377|2378|2379|2380|2381|2382|2383|2384|2385|2386",
      "2387|2388|2389|2390|2391|2392|2393|2394|2395|2396|2397|2398|2399|2400|2401|2402|2403",
      "2404|2405|2406|2407|2408|2409|2410|2411|2412|2413|2414|2415|2416|2417|2418|2419|2420",
      "2421|2422|2423|2424|2425|2426|2427|2428|2429|2430|2431|2432|2433|2434|2435|2436|2437",
      "2438|2439|2440|2441|2442|2443|2444|2445|2446|2447|2448|2449|2450|2451|2452|2453|2454",
      "2455|2456|2457|2458|2459|2460|2461|2462|2463|2464|2465|2466|2467|2468|2469|2470|2471",
      "2472|2473|2474|2475|2476|2477|2478|2479|2480|2481|2482|2483|2484|2485|2486|2487|2488",
      "2489|2490|2491|2492|2493|2494|2495|2496|2497|2498|2499|2500|2501|2502|2503|2504|2505",
      "2506|2507|2508|2509|2510|2511|2512|2513|2514|2515|2516|2517|2518|2519|2520|2521|2522",
      "2523|2524|2525|2526|2527|2528|2529|2530|2531|2532|2533|2534|2535|2536|2537|2538|2539",
      "2540|2541|2542|2543|2544|2545|2546|2547|2548|2549|2550|2551|2552|2553|2554|2555|2556",
      "2557|2558|2559|2560|2561|2562|2563|2564|2565|2566|2567|2568|2569|2570|2571|2572|2573",
      "2574|2575|2576|2577|2578|2579|2580|2581|2582|2583|2584|2585|2586|2587|2588|2589|2590",
      "2591|2592|2593|2594|2595|2596|2597|2598|2599|2600|2601|2602|2603|2604|2605|2606|2607",
      "2608|2609|2610|2611|2612|2613|2614|2615|2616|2617|2618|2619|2620|2621|2622|2623|2624",
      "2625|2626|2627|2628|2629|2630|2631|2632|2633|2634|2635|2636|2637|2638|2639|2640|2641",
      "2642|2643|2644|2645|2646|2647|2648|2649|2650|2651|2652|2653|2654|2655|2656|2657|2658",
      "2659|2660|2661|2662|2663|2664|2665|2666|2667|2668|2669|2670|2671|2672|2673|2674|2675",
      "2676|2677|2678|2679|2680|2681|2682|2683|2684|2685|2686|2687|2688|2689|2690|2691|2692",
      "2693|2694|2695|2696|2697|2698|2699|2700|2701|2702|2703|2704|2705|2706|2707|2708|2709",
      "2710|2711|2712|2713|2714|2715|2716|2717|2718|2719|2720|2721|2722|2723|2724|2725|2726",
      "2727|2728|2729|2730|2731|2732|2733|2734|2735|2736|2737|2738|2739|2740|2741|2742|2743",
      "2744|2745|2746|2747|2748|2749|2750|2751|2752|2753|2754|2755|2756|2757|2758|2759|2760",
      "2761|2762|2763|2764|2765|2766|2767|2768"]⟩, ⟨0x1AFF0, ["0KATAKANA LETTER MINNAN TONE-2",
      "43|44|45"]⟩, ⟨0x1AFF5, ["47|48|3NASALIZED TONE-1|52|53|54|55"]⟩, ⟨0x1AFFD, ["57|58"]⟩,
    ⟨0x1B000, ["2ARCHAIC E|0HIRAGANA LETTER ARCHAIC YE|0HENTAIGANA LETTER A-1|32|33|3WO|2I-1|32",
      "33|34|2U-1|32|33|34|35|2E-2|33|34|35|36|2O-1|32|33|2KA-1|32|33|34|35|36|37|38|39|310|311",
      "3KE|2KI-1|32|33|34|35|36|37|38|2KU-1|32|33|34|35|36|37|2KE-1|32|33|34|35|36|2KO-1|32|33",
      "3KI|2SA-1|32|33|34|35|36|37|38|2SI-1|32|33|34|35|36|2SU-1|32|33|34|35|36|37|38|2SE-1|32",
      "33|34|35|2SO-1|32|33|34|35|36|37|2TA-1|32|33|34|2TI-1|32|33|34|35|36|37|2TU-1|32|33|34",
      "3TO|2TE-1|32|33|34|35|36|37|38|39|2TO-1|32|33|34|35|36|3RA|2NA-1|32|33|34|35|36|37|38|39",
      "2NI-1|32|33|34|35|36|37|3TE|2NU-1|32|33|2NE-1|32|33|34|35|36|3KO|2NO-1|32|33|34|35|2HA-1",
      "32|33|34|35|36|37|38|39|310|311|2HI-1|32|33|34|35|36|37|2HU-1|32|33|2HE-1|32|33|34|35|36",
      "37|2HO-1|32|33|34|35|36|37|38|2MA-1|32|33|34|35|36|37|2MI-1|32|33|34|35|36|37|2MU-1|32",
      "33|34|2ME-1|32|3MA|2MO-1|32|33|34|35|36|2YA-1|32|33|34|35|3YO|2YU-1|32|33|34|2YO-1|32|33",
      "34|35|36|2RA-1|32|33|34|2RI-1|32|33|34|35|36|37|2RU-1|32|33|34|35|36|2RE-1|32|33|34",
      "2RO-1|32|33|34|35|36|2WA-1|32|33|34|35|2WI-1|32|33|34|35|2WE-1|32|33|34|2WO-1|32|33|34",
      "35|36|37|2N-MU-MO-1|52|0HIRAGANA LETTER ARCHAIC WU|0KATAKANA LETTER ARCHAIC YI|3YE|3WU"]⟩,
    ⟨0x1B150, ["0HIRAGANA LETTER SMALL WI|3WE|3WO"]⟩, ⟨0x1B164, ["0KATAKANA LETTER SMALL WI|3WE",
      "3WO|3N"]⟩, ⟨0x1BC00, ["0DUPLOYAN LETTER H|2X|2P|2T|2F|2K|2L|2B|2D|2V|2G|2R|2P N|2D S",
      "2F N|2K M|2R S|2TH|2SLOAN DH|2DH|2KK|2SLOAN J|2HL|2LH|2RH|2M|2N|2J|2S|2M N|2N M|2J M",
      "2S J|2M WITH DOT|2N WITH DOT|2J WITH DOT|4DOTS INSIDE AND ABOVE|2S WITH DOT|4DOT BELOW",
      "2M S|2N S|2J S|2S S|2M N S|2N M S|2J M S|2S J S|2J S WITH DOT|3N|3N S|2S T|3T R|3P|3P R",
      "2T S|3R S|2W|2WH|2W R|2S N|3M|2K R S|2G R S|2S K|3K R|2A|2SLOAN OW|2OA|2O|2AOU|2I|2E|2IE",
      "2SHORT I|2UI|2EE|2SLOAN EH|2ROMANIAN I|2SLOAN EE|2LONG I|2YE|2U|2EU|2XW|2U N|2LONG U",
      "2ROMANIAN U|2UH|2SLOAN U|2OOH|2OW|2OU|2WA|2WO|2WI|2WEI|2WOW|2NASAL U|3O|3I|3A|2PERNIN AN",
      "3AM|2SLOAN EN|3AN|3ON|2VOCALIC M"]⟩, ⟨0x1BC70, ["1AFFIX LEFT HORIZONTAL SECANT",
      "2MID HORIZONTAL SECANT|2RIGHT HORIZONTAL SECANT|2LOW VERTICAL SECANT",
      "2MID VERTICAL SECANT|2HIGH VERTICAL SECANT|2ATTACHED SECANT|3LEFT-TO-RIGHT SECANT",
      "3TANGENT|3TAIL|3E HOOK|3I HOOK|3TANGENT HOOK"]⟩, ⟨0x1BC80, ["2HIGH ACUTE|3TIGHT ACUTE",
      "3GRAVE|3LONG GRAVE|3DOT|3CIRCLE|3LINE|3WAVE|3VERTICAL"]⟩, ⟨0x1BC90, ["2LOW ACUTE",
      "3TIGHT ACUTE|3GRAVE|3LONG GRAVE|3DOT|3CIRCLE|3LINE|3WAVE|3VERTICAL|3ARROW"]⟩,
    ⟨0x1BC9C, ["1SIGN O WITH CROSS|1THICK LETTER SELECTOR|1DOUBLE MARK",
      "1PUNCTUATION CHINOOK FULL STOP|0SHORTHAND FORMAT LETTER OVERLAP|2CONTINUING OVERLAP",
      "2DOWN STEP|2UP STEP"]⟩]

end Zpl.NameRow
