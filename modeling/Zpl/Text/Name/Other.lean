import Zpl.Text.Name.Row

/-!
# Other names

Controls have no proper name, but names by which they are called. Other characters have
abbreviations, and some a name that corrects the one they were given. Sequences of characters have
names as well, which go with numbers for private use.

## Main definitions

* `NameRow.others` — the other names.
* `NameRow.sequences` — the names of sequences.
-/

namespace Zpl.NameRow

/-- The other names of characters that follow each other. A bar parts those of one character. -/
def others : List NameRow :=
  [⟨0x0, ["NULL|NUL", "START OF HEADING|SOH", "START OF TEXT|STX", "END OF TEXT|ETX",
      "END OF TRANSMISSION|EOT", "ENQUIRY|ENQ", "ACKNOWLEDGE|ACK", "ALERT|BEL", "BACKSPACE|BS",
      "CHARACTER TABULATION|HORIZONTAL TABULATION|HT|TAB",
      "LINE FEED|NEW LINE|END OF LINE|LF|NL|EOL", "LINE TABULATION|VERTICAL TABULATION|VT",
      "FORM FEED|FF", "CARRIAGE RETURN|CR", "SHIFT OUT|LOCKING-SHIFT ONE|SO",
      "SHIFT IN|LOCKING-SHIFT ZERO|SI", "DATA LINK ESCAPE|DLE", "DEVICE CONTROL ONE|DC1",
      "DEVICE CONTROL TWO|DC2", "DEVICE CONTROL THREE|DC3", "DEVICE CONTROL FOUR|DC4",
      "NEGATIVE ACKNOWLEDGE|NAK", "SYNCHRONOUS IDLE|SYN", "END OF TRANSMISSION BLOCK|ETB",
      "CANCEL|CAN", "END OF MEDIUM|EOM", "SUBSTITUTE|SUB", "ESCAPE|ESC",
      "INFORMATION SEPARATOR FOUR|FILE SEPARATOR|FS",
      "INFORMATION SEPARATOR THREE|GROUP SEPARATOR|GS",
      "INFORMATION SEPARATOR TWO|RECORD SEPARATOR|RS",
      "INFORMATION SEPARATOR ONE|UNIT SEPARATOR|US", "SP"]⟩, ⟨0x7F, ["DELETE|DEL",
      "PADDING CHARACTER|PAD", "HIGH OCTET PRESET|HOP", "BREAK PERMITTED HERE|BPH",
      "NO BREAK HERE|NBH", "INDEX|IND", "NEXT LINE|NEL", "START OF SELECTED AREA|SSA",
      "END OF SELECTED AREA|ESA", "CHARACTER TABULATION SET|HORIZONTAL TABULATION SET|HTS",
      "CHARACTER TABULATION WITH JUSTIFICATION|HORIZONTAL TABULATION WITH JUSTIFICATION|HTJ",
      "LINE TABULATION SET|VERTICAL TABULATION SET|VTS",
      "PARTIAL LINE FORWARD|PARTIAL LINE DOWN|PLD", "PARTIAL LINE BACKWARD|PARTIAL LINE UP|PLU",
      "REVERSE LINE FEED|REVERSE INDEX|RI", "SINGLE SHIFT TWO|SINGLE-SHIFT-2|SS2",
      "SINGLE SHIFT THREE|SINGLE-SHIFT-3|SS3", "DEVICE CONTROL STRING|DCS",
      "PRIVATE USE ONE|PRIVATE USE-1|PU1", "PRIVATE USE TWO|PRIVATE USE-2|PU2",
      "SET TRANSMIT STATE|STS", "CANCEL CHARACTER|CCH", "MESSAGE WAITING|MW",
      "START OF GUARDED AREA|START OF PROTECTED AREA|SPA",
      "END OF GUARDED AREA|END OF PROTECTED AREA|EPA", "START OF STRING|SOS",
      "SINGLE GRAPHIC CHARACTER INTRODUCER|SGC", "SINGLE CHARACTER INTRODUCER|SCI",
      "CONTROL SEQUENCE INTRODUCER|CSI", "STRING TERMINATOR|ST", "OPERATING SYSTEM COMMAND|OSC",
      "PRIVACY MESSAGE|PM", "APPLICATION PROGRAM COMMAND|APC", "NBSP"]⟩, ⟨0xAD, ["SHY"]⟩,
    ⟨0x1A2, ["LATIN CAPITAL LETTER GHA", "LATIN SMALL LETTER GHA"]⟩, ⟨0x34F, ["CGJ"]⟩,
    ⟨0x61C, ["ALM"]⟩, ⟨0x709, ["SYRIAC SUBLINEAR COLON SKEWED LEFT"]⟩,
    ⟨0xCDE, ["KANNADA LETTER LLLA"]⟩, ⟨0xE9D, ["LAO LETTER FO FON"]⟩,
    ⟨0xE9F, ["LAO LETTER FO FAY"]⟩, ⟨0xEA3, ["LAO LETTER RO"]⟩, ⟨0xEA5, ["LAO LETTER LO"]⟩,
    ⟨0xFD0, ["TIBETAN MARK BKA- SHOG GI MGO RGYAN"]⟩, ⟨0x11EC, ["HANGUL JONGSEONG YESIEUNG-KIYEOK",
      "HANGUL JONGSEONG YESIEUNG-SSANGKIYEOK", "HANGUL JONGSEONG SSANGYESIEUNG",
      "HANGUL JONGSEONG YESIEUNG-KHIEUKH"]⟩, ⟨0x180B, ["FVS1", "FVS2", "FVS3", "MVS", "FVS4"]⟩,
    ⟨0x200B, ["ZWSP", "ZWNJ", "ZWJ", "LRM", "RLM"]⟩, ⟨0x202A, ["LRE", "RLE", "PDF", "LRO", "RLO",
      "NNBSP"]⟩, ⟨0x205F, ["MMSP", "WJ"]⟩, ⟨0x2066, ["LRI", "RLI", "FSI", "PDI"]⟩,
    ⟨0x2118, ["WEIERSTRASS ELLIPTIC FUNCTION"]⟩, ⟨0x2448, ["MICR ON US SYMBOL",
      "MICR DASH SYMBOL"]⟩,
    ⟨0x2B7A, ["LEFTWARDS TRIANGLE-HEADED ARROW WITH DOUBLE VERTICAL STROKE"]⟩,
    ⟨0x2B7C, ["RIGHTWARDS TRIANGLE-HEADED ARROW WITH DOUBLE VERTICAL STROKE"]⟩,
    ⟨0xA015, ["YI SYLLABLE ITERATION MARK"]⟩, ⟨0xAA6E, ["MYANMAR LETTER KHAMTI LLA"]⟩,
    ⟨0xFE18, ["PRESENTATION FORM FOR VERTICAL RIGHT WHITE LENTICULAR BRACKET"]⟩,
    ⟨0xFEFF, ["BYTE ORDER MARK|BOM|ZWNBSP"]⟩, ⟨0x122D4, ["CUNEIFORM SIGN NU11 TENU",
      "CUNEIFORM SIGN NU11 OVER NU11 BUR OVER BUR"]⟩, ⟨0x16E56, ["MEDEFAIDRIN CAPITAL LETTER H",
      "MEDEFAIDRIN CAPITAL LETTER NG"]⟩, ⟨0x16E76, ["MEDEFAIDRIN SMALL LETTER H",
      "MEDEFAIDRIN SMALL LETTER NG"]⟩, ⟨0x1B001, ["HENTAIGANA LETTER E-1"]⟩,
    ⟨0x1D0C5, ["BYZANTINE MUSICAL SYMBOL FTHORA SKLIRON CHROMA VASIS"]⟩]

/-! ### Sequences -/

/-- Names of sequences of characters, which go with numbers for private use. -/
def sequences : List NameRow :=
  [⟨0xF0200, ["0KEYCAP NUMBER SIGN|1ASTERISK|1DIGIT ZERO|2ONE|2TWO|2THREE|2FOUR|2FIVE|2SIX",
      "2SEVEN|2EIGHT|2NINE|0LATIN CAPITAL LETTER A WITH MACRON AND GRAVE",
      "1SMALL LETTER A WITH MACRON AND GRAVE|1CAPITAL LETTER I WITH MACRON AND GRAVE",
      "1SMALL LETTER I WITH MACRON AND GRAVE|1CAPITAL LETTER U WITH MACRON AND GRAVE",
      "1SMALL LETTER U WITH MACRON AND GRAVE|1CAPITAL LETTER E WITH VERTICAL LINE BELOW",
      "1SMALL LETTER E WITH VERTICAL LINE BELOW",
      "1CAPITAL LETTER E WITH VERTICAL LINE BELOW AND GRAVE",
      "1SMALL LETTER E WITH VERTICAL LINE BELOW AND GRAVE",
      "1CAPITAL LETTER E WITH VERTICAL LINE BELOW AND ACUTE",
      "1SMALL LETTER E WITH VERTICAL LINE BELOW AND ACUTE",
      "1CAPITAL LETTER O WITH VERTICAL LINE BELOW|1SMALL LETTER O WITH VERTICAL LINE BELOW",
      "1CAPITAL LETTER O WITH VERTICAL LINE BELOW AND GRAVE",
      "1SMALL LETTER O WITH VERTICAL LINE BELOW AND GRAVE",
      "1CAPITAL LETTER O WITH VERTICAL LINE BELOW AND ACUTE",
      "1SMALL LETTER O WITH VERTICAL LINE BELOW AND ACUTE",
      "1CAPITAL LETTER S WITH VERTICAL LINE BELOW|1SMALL LETTER S WITH VERTICAL LINE BELOW",
      "1CAPITAL LETTER E WITH CIRCUMFLEX AND MACRON|1SMALL LETTER E WITH CIRCUMFLEX AND MACRON",
      "1CAPITAL LETTER E WITH CIRCUMFLEX AND CARON|1SMALL LETTER E WITH CIRCUMFLEX AND CARON",
      "3I WITH DOT ABOVE AND ACUTE|3NG WITH TILDE ABOVE|1CAPITAL LETTER A WITH OGONEK AND ACUTE",
      "1SMALL LETTER A WITH OGONEK AND ACUTE|1CAPITAL LETTER A WITH OGONEK AND TILDE",
      "1SMALL LETTER A WITH OGONEK AND TILDE|1CAPITAL LETTER E WITH OGONEK AND ACUTE",
      "1SMALL LETTER E WITH OGONEK AND ACUTE|1CAPITAL LETTER E WITH OGONEK AND TILDE",
      "1SMALL LETTER E WITH OGONEK AND TILDE|1CAPITAL LETTER E WITH DOT ABOVE AND ACUTE",
      "1SMALL LETTER E WITH DOT ABOVE AND ACUTE|1CAPITAL LETTER E WITH DOT ABOVE AND TILDE",
      "1SMALL LETTER E WITH DOT ABOVE AND TILDE|3I WITH DOT ABOVE AND GRAVE|8TILDE",
      "1CAPITAL LETTER I WITH OGONEK AND ACUTE",
      "1SMALL LETTER I WITH OGONEK AND DOT ABOVE AND ACUTE",
      "1CAPITAL LETTER I WITH OGONEK AND TILDE",
      "1SMALL LETTER I WITH OGONEK AND DOT ABOVE AND TILDE|1CAPITAL LETTER J WITH TILDE",
      "1SMALL LETTER J WITH DOT ABOVE AND TILDE|1CAPITAL LETTER L WITH TILDE",
      "1SMALL LETTER L WITH TILDE|1CAPITAL LETTER M WITH TILDE|1SMALL LETTER M WITH TILDE",
      "1CAPITAL LETTER R WITH TILDE|1SMALL LETTER R WITH TILDE",
      "1CAPITAL LETTER U WITH OGONEK AND ACUTE|1SMALL LETTER U WITH OGONEK AND ACUTE",
      "1CAPITAL LETTER U WITH OGONEK AND TILDE|1SMALL LETTER U WITH OGONEK AND TILDE",
      "1CAPITAL LETTER U WITH MACRON AND ACUTE|1SMALL LETTER U WITH MACRON AND ACUTE",
      "1CAPITAL LETTER U WITH MACRON AND TILDE|1SMALL LETTER U WITH MACRON AND TILDE",
      "3AE WITH GRAVE|3OPEN O WITH GRAVE|6ACUTE|3TURNED V WITH GRAVE|6ACUTE|3SCHWA WITH GRAVE",
      "5ACUTE|3HOOKED SCHWA WITH GRAVE|6ACUTE|0ARABIC SEQUENCE YEH WITH HAMZA ABOVE WITH ALEF",
      "7WAW|7ALEF MAKSURA|7OE|7U|7YU|7E|7AE|2NOON WITH KEHEH|0DEVANAGARI SEQUENCE FOR LETTER QA",
      "4KHHA|4GHHA|4ZA|4DDDHA|4RHA|4FA|4YYA|0BENGALI SEQUENCE FOR LETTER RRA|4RHA|4YYA",
      "0GURMUKHI SEQUENCE FOR LETTER LLA|4SHA|4KHHA|4GHHA|4ZA|4FA",
      "0ORIYA SEQUENCE FOR LETTER RRA|4RHA|0BENGALI LETTER KHINYA|0TAMIL CONSONANT K|2NG|2C|2NY",
      "2TT|2NN|2T|2N|2P|2M|2Y|2R|2L|2V|2LLL|2LL|2RR|2NNN|2J|2SH|2SS|2S|2H|2KSS|1SYLLABLE KAA",
      "2KI|2KII|2KU|2KUU|2KE|2KEE|2KAI|2KO|2KOO|2KAU|2NGAA|2NGI|2NGII|2NGU|2NGUU|2NGE|2NGEE",
      "2NGAI|2NGO|2NGOO|2NGAU|2CAA|2CI|2CII|2CU|2CUU|2CE|2CEE|2CAI|2CO|2COO|2CAU|2NYAA|2NYI",
      "2NYII|2NYU|2NYUU|2NYE|2NYEE|2NYAI|2NYO|2NYOO|2NYAU|2TTAA|2TTI|2TTII|2TTU|2TTUU|2TTE",
      "2TTEE|2TTAI|2TTO|2TTOO|2TTAU|2NNAA|2NNI|2NNII|2NNU|2NNUU|2NNE|2NNEE|2NNAI|2NNO|2NNOO",
      "2NNAU|2TAA|2TI|2TII|2TU|2TUU|2TE|2TEE|2TAI|2TO|2TOO|2TAU|2NAA|2NI|2NII|2NU|2NUU|2NE|2NEE",
      "2NAI|2NO|2NOO|2NAU|2PAA|2PI|2PII|2PU|2PUU|2PE|2PEE|2PAI|2PO|2POO|2PAU|2MAA|2MI|2MII|2MU",
      "2MUU|2ME|2MEE|2MAI|2MO|2MOO|2MAU|2YAA|2YI|2YII|2YU|2YUU|2YE|2YEE|2YAI|2YO|2YOO|2YAU|2RAA",
      "2RI|2RII|2RU|2RUU|2RE|2REE|2RAI|2RO|2ROO|2RAU|2LAA|2LI|2LII|2LU|2LUU|2LE|2LEE|2LAI|2LO",
      "2LOO|2LAU|2VAA|2VI|2VII|2VU|2VUU|2VE|2VEE|2VAI|2VO|2VOO|2VAU|2LLLAA|2LLLI|2LLLII|2LLLU",
      "2LLLUU|2LLLE|2LLLEE|2LLLAI|2LLLO|2LLLOO|2LLLAU|2LLAA|2LLI|2LLII|2LLU|2LLUU|2LLE|2LLEE",
      "2LLAI|2LLO|2LLOO|2LLAU|2RRAA|2RRI|2RRII|2RRU|2RRUU|2RRE|2RREE|2RRAI|2RRO|2RROO|2RRAU",
      "2NNNAA|2NNNI|2NNNII|2NNNU|2NNNUU|2NNNE|2NNNEE|2NNNAI|2NNNO|2NNNOO|2NNNAU|2JAA|2JI|2JII",
      "2JU|2JUU|2JE|2JEE|2JAI|2JO|2JOO|2JAU|2SHAA|2SHI|2SHII|2SHU|2SHUU|2SHE|2SHEE|2SHAI|2SHO",
      "2SHOO|2SHAU|2SSAA|2SSI|2SSII|2SSU|2SSUU|2SSE|2SSEE|2SSAI|2SSO|2SSOO|2SSAU|2SAA|2SI|2SII",
      "2SU|2SUU|2SE|2SEE|2SAI|2SO|2SOO|2SAU|2HAA|2HI|2HII|2HU|2HUU|2HE|2HEE|2HAI|2HO|2HOO|2HAU",
      "2KSSA|2KSSAA|2KSSI|2KSSII|2KSSU|2KSSUU|2KSSE|2KSSEE|2KSSAI|2KSSO|2KSSOO|2KSSAU|2SHRII",
      "0SINHALA CONSONANT SIGN YANSAYA|3RAKAARAANSAYA|3REPAYA|0GEORGIAN LETTER U-BRJGU",
      "0KHMER CONSONANT SIGN COENG KA|4KHA|4KO|4KHO|4NGO|4CA|4CHA|4CO|4CHO|4NYO|4DA|4TTHA|4DO",
      "4TTHO|4NA|4TA|4THA|4TO|4THO|4NO|4BA|4PHA|4PO|4PHO|4MO|4YO|4RO|4LO|4VO|4SHA|4SSA|4SA|4HA",
      "4LA|1VOWEL SIGN COENG QA|1INDEPENDENT VOWEL SIGN COENG QU|5RY|5RYY|5QE|1VOWEL SIGN OM",
      "3AAM|0HIRAGANA LETTER BIDAKUON NGA|3NGI|3NGU|3NGE|3NGO|0KATAKANA LETTER BIDAKUON NGA",
      "3NGI|3NGU|3NGE|3NGO|2AINU CE|3TU|3TO|3P",
      "0MODIFIER LETTER EXTRA-HIGH EXTRA-LOW CONTOUR TONE BAR|3LOW EXTRA-HIGH CONTOUR TONE BAR"]⟩]

end Zpl.NameRow
