import RuleLexer.Text.CharacterName.Run

namespace RuleLexer.Text

def alphabetRuns : List NameRun :=
  [⟨0x20, "",
     "SPACE,EXCLAMATION MARK,QUOTATION MARK,NUMBER SIGN,DOLLAR SIGN,PERCENT SIGN,AMPERSAND,
      APOSTROPHE,LEFT PARENTHESIS,RIGHT PARENTHESIS,ASTERISK,PLUS SIGN,COMMA,HYPHEN-MINUS,
      FULL STOP,SOLIDUS"⟩,
   ⟨0x30, "DIGIT ", "ZERO,ONE,TWO,THREE,FOUR,FIVE,SIX,SEVEN,EIGHT,NINE"⟩,
   ⟨0x3A, "",
     "COLON,SEMICOLON,LESS-THAN SIGN,EQUALS SIGN,GREATER-THAN SIGN,QUESTION MARK,COMMERCIAL AT"⟩,
   ⟨0x41, "LATIN CAPITAL LETTER ", "A,B,C,D,E,F,G,H,I,J,K,L,M,N,O,P,Q,R,S,T,U,V,W,X,Y,Z"⟩,
   ⟨0x5B, "",
     "LEFT SQUARE BRACKET,REVERSE SOLIDUS,RIGHT SQUARE BRACKET,CIRCUMFLEX ACCENT,LOW LINE,
      GRAVE ACCENT"⟩,
   ⟨0x61, "LATIN SMALL LETTER ", "A,B,C,D,E,F,G,H,I,J,K,L,M,N,O,P,Q,R,S,T,U,V,W,X,Y,Z"⟩,
   ⟨0x7B, "", "LEFT CURLY BRACKET,VERTICAL LINE,RIGHT CURLY BRACKET,TILDE"⟩,
   ⟨0xA0, "",
     "NO-BREAK SPACE,INVERTED EXCLAMATION MARK,CENT SIGN,POUND SIGN,CURRENCY SIGN,YEN SIGN,
      BROKEN BAR,SECTION SIGN,DIAERESIS,COPYRIGHT SIGN,FEMININE ORDINAL INDICATOR,
      LEFT-POINTING DOUBLE ANGLE QUOTATION MARK,NOT SIGN,SOFT HYPHEN,REGISTERED SIGN,MACRON,
      DEGREE SIGN,PLUS-MINUS SIGN,SUPERSCRIPT TWO,SUPERSCRIPT THREE,ACUTE ACCENT,MICRO SIGN,
      PILCROW SIGN,MIDDLE DOT,CEDILLA,SUPERSCRIPT ONE,MASCULINE ORDINAL INDICATOR,
      RIGHT-POINTING DOUBLE ANGLE QUOTATION MARK,VULGAR FRACTION ONE QUARTER,
      VULGAR FRACTION ONE HALF,VULGAR FRACTION THREE QUARTERS,INVERTED QUESTION MARK"⟩,
   ⟨0xC0, "LATIN CAPITAL LETTER ",
     "A WITH GRAVE,A WITH ACUTE,A WITH CIRCUMFLEX,A WITH TILDE,A WITH DIAERESIS,A WITH RING ABOVE,
      AE,C WITH CEDILLA,E WITH GRAVE,E WITH ACUTE,E WITH CIRCUMFLEX,E WITH DIAERESIS,I WITH GRAVE,
      I WITH ACUTE,I WITH CIRCUMFLEX,I WITH DIAERESIS,ETH,N WITH TILDE,O WITH GRAVE,O WITH ACUTE,
      O WITH CIRCUMFLEX,O WITH TILDE,O WITH DIAERESIS"⟩,
   ⟨0xD7, "MULTIPLICATION ", "SIGN"⟩,
   ⟨0xD8, "LATIN CAPITAL LETTER ",
     "O WITH STROKE,U WITH GRAVE,U WITH ACUTE,U WITH CIRCUMFLEX,U WITH DIAERESIS,Y WITH ACUTE,
      THORN"⟩,
   ⟨0xDF, "LATIN SMALL LETTER ",
     "SHARP S,A WITH GRAVE,A WITH ACUTE,A WITH CIRCUMFLEX,A WITH TILDE,A WITH DIAERESIS,
      A WITH RING ABOVE,AE,C WITH CEDILLA,E WITH GRAVE,E WITH ACUTE,E WITH CIRCUMFLEX,
      E WITH DIAERESIS,I WITH GRAVE,I WITH ACUTE,I WITH CIRCUMFLEX,I WITH DIAERESIS,ETH,
      N WITH TILDE,O WITH GRAVE,O WITH ACUTE,O WITH CIRCUMFLEX,O WITH TILDE,O WITH DIAERESIS"⟩,
   ⟨0xF7, "DIVISION ", "SIGN"⟩,
   ⟨0xF8, "LATIN SMALL LETTER ",
     "O WITH STROKE,U WITH GRAVE,U WITH ACUTE,U WITH CIRCUMFLEX,U WITH DIAERESIS,Y WITH ACUTE,
      THORN,Y WITH DIAERESIS"⟩,
   ⟨0x100, "LATIN ",
     "CAPITAL LETTER A WITH MACRON,SMALL LETTER A WITH MACRON,CAPITAL LETTER A WITH BREVE,
      SMALL LETTER A WITH BREVE,CAPITAL LETTER A WITH OGONEK,SMALL LETTER A WITH OGONEK,
      CAPITAL LETTER C WITH ACUTE,SMALL LETTER C WITH ACUTE,CAPITAL LETTER C WITH CIRCUMFLEX,
      SMALL LETTER C WITH CIRCUMFLEX,CAPITAL LETTER C WITH DOT ABOVE,SMALL LETTER C WITH DOT ABOVE,
      CAPITAL LETTER C WITH CARON,SMALL LETTER C WITH CARON,CAPITAL LETTER D WITH CARON,
      SMALL LETTER D WITH CARON,CAPITAL LETTER D WITH STROKE,SMALL LETTER D WITH STROKE,
      CAPITAL LETTER E WITH MACRON,SMALL LETTER E WITH MACRON,CAPITAL LETTER E WITH BREVE,
      SMALL LETTER E WITH BREVE,CAPITAL LETTER E WITH DOT ABOVE,SMALL LETTER E WITH DOT ABOVE,
      CAPITAL LETTER E WITH OGONEK,SMALL LETTER E WITH OGONEK,CAPITAL LETTER E WITH CARON,
      SMALL LETTER E WITH CARON,CAPITAL LETTER G WITH CIRCUMFLEX,SMALL LETTER G WITH CIRCUMFLEX,
      CAPITAL LETTER G WITH BREVE,SMALL LETTER G WITH BREVE,CAPITAL LETTER G WITH DOT ABOVE,
      SMALL LETTER G WITH DOT ABOVE,CAPITAL LETTER G WITH CEDILLA,SMALL LETTER G WITH CEDILLA,
      CAPITAL LETTER H WITH CIRCUMFLEX,SMALL LETTER H WITH CIRCUMFLEX,CAPITAL LETTER H WITH STROKE,
      SMALL LETTER H WITH STROKE,CAPITAL LETTER I WITH TILDE,SMALL LETTER I WITH TILDE,
      CAPITAL LETTER I WITH MACRON,SMALL LETTER I WITH MACRON,CAPITAL LETTER I WITH BREVE,
      SMALL LETTER I WITH BREVE,CAPITAL LETTER I WITH OGONEK,SMALL LETTER I WITH OGONEK,
      CAPITAL LETTER I WITH DOT ABOVE,SMALL LETTER DOTLESS I,CAPITAL LIGATURE IJ,SMALL LIGATURE IJ,
      CAPITAL LETTER J WITH CIRCUMFLEX,SMALL LETTER J WITH CIRCUMFLEX,
      CAPITAL LETTER K WITH CEDILLA,SMALL LETTER K WITH CEDILLA,SMALL LETTER KRA,
      CAPITAL LETTER L WITH ACUTE,SMALL LETTER L WITH ACUTE,CAPITAL LETTER L WITH CEDILLA,
      SMALL LETTER L WITH CEDILLA,CAPITAL LETTER L WITH CARON,SMALL LETTER L WITH CARON,
      CAPITAL LETTER L WITH MIDDLE DOT,SMALL LETTER L WITH MIDDLE DOT,CAPITAL LETTER L WITH STROKE,
      SMALL LETTER L WITH STROKE,CAPITAL LETTER N WITH ACUTE,SMALL LETTER N WITH ACUTE,
      CAPITAL LETTER N WITH CEDILLA,SMALL LETTER N WITH CEDILLA,CAPITAL LETTER N WITH CARON,
      SMALL LETTER N WITH CARON,SMALL LETTER N PRECEDED BY APOSTROPHE,CAPITAL LETTER ENG,
      SMALL LETTER ENG,CAPITAL LETTER O WITH MACRON,SMALL LETTER O WITH MACRON,
      CAPITAL LETTER O WITH BREVE,SMALL LETTER O WITH BREVE,CAPITAL LETTER O WITH DOUBLE ACUTE,
      SMALL LETTER O WITH DOUBLE ACUTE,CAPITAL LIGATURE OE,SMALL LIGATURE OE,
      CAPITAL LETTER R WITH ACUTE,SMALL LETTER R WITH ACUTE,CAPITAL LETTER R WITH CEDILLA,
      SMALL LETTER R WITH CEDILLA,CAPITAL LETTER R WITH CARON,SMALL LETTER R WITH CARON,
      CAPITAL LETTER S WITH ACUTE,SMALL LETTER S WITH ACUTE,CAPITAL LETTER S WITH CIRCUMFLEX,
      SMALL LETTER S WITH CIRCUMFLEX,CAPITAL LETTER S WITH CEDILLA,SMALL LETTER S WITH CEDILLA,
      CAPITAL LETTER S WITH CARON,SMALL LETTER S WITH CARON,CAPITAL LETTER T WITH CEDILLA,
      SMALL LETTER T WITH CEDILLA,CAPITAL LETTER T WITH CARON,SMALL LETTER T WITH CARON,
      CAPITAL LETTER T WITH STROKE,SMALL LETTER T WITH STROKE,CAPITAL LETTER U WITH TILDE,
      SMALL LETTER U WITH TILDE,CAPITAL LETTER U WITH MACRON,SMALL LETTER U WITH MACRON,
      CAPITAL LETTER U WITH BREVE,SMALL LETTER U WITH BREVE,CAPITAL LETTER U WITH RING ABOVE,
      SMALL LETTER U WITH RING ABOVE,CAPITAL LETTER U WITH DOUBLE ACUTE,
      SMALL LETTER U WITH DOUBLE ACUTE,CAPITAL LETTER U WITH OGONEK,SMALL LETTER U WITH OGONEK,
      CAPITAL LETTER W WITH CIRCUMFLEX,SMALL LETTER W WITH CIRCUMFLEX,
      CAPITAL LETTER Y WITH CIRCUMFLEX,SMALL LETTER Y WITH CIRCUMFLEX,
      CAPITAL LETTER Y WITH DIAERESIS,CAPITAL LETTER Z WITH ACUTE,SMALL LETTER Z WITH ACUTE,
      CAPITAL LETTER Z WITH DOT ABOVE,SMALL LETTER Z WITH DOT ABOVE,CAPITAL LETTER Z WITH CARON,
      SMALL LETTER Z WITH CARON,SMALL LETTER LONG S,SMALL LETTER B WITH STROKE,
      CAPITAL LETTER B WITH HOOK,CAPITAL LETTER B WITH TOPBAR,SMALL LETTER B WITH TOPBAR,
      CAPITAL LETTER TONE SIX,SMALL LETTER TONE SIX,CAPITAL LETTER OPEN O,
      CAPITAL LETTER C WITH HOOK,SMALL LETTER C WITH HOOK,CAPITAL LETTER AFRICAN D,
      CAPITAL LETTER D WITH HOOK,CAPITAL LETTER D WITH TOPBAR,SMALL LETTER D WITH TOPBAR,
      SMALL LETTER TURNED DELTA,CAPITAL LETTER REVERSED E,CAPITAL LETTER SCHWA,
      CAPITAL LETTER OPEN E,CAPITAL LETTER F WITH HOOK,SMALL LETTER F WITH HOOK,
      CAPITAL LETTER G WITH HOOK,CAPITAL LETTER GAMMA,SMALL LETTER HV,CAPITAL LETTER IOTA,
      CAPITAL LETTER I WITH STROKE,CAPITAL LETTER K WITH HOOK,SMALL LETTER K WITH HOOK,
      SMALL LETTER L WITH BAR,SMALL LETTER LAMBDA WITH STROKE,CAPITAL LETTER TURNED M,
      CAPITAL LETTER N WITH LEFT HOOK,SMALL LETTER N WITH LONG RIGHT LEG,
      CAPITAL LETTER O WITH MIDDLE TILDE,CAPITAL LETTER O WITH HORN,SMALL LETTER O WITH HORN,
      CAPITAL LETTER OI,SMALL LETTER OI,CAPITAL LETTER P WITH HOOK,SMALL LETTER P WITH HOOK,
      LETTER YR,CAPITAL LETTER TONE TWO,SMALL LETTER TONE TWO,CAPITAL LETTER ESH,
      LETTER REVERSED ESH LOOP,SMALL LETTER T WITH PALATAL HOOK,CAPITAL LETTER T WITH HOOK,
      SMALL LETTER T WITH HOOK,CAPITAL LETTER T WITH RETROFLEX HOOK,CAPITAL LETTER U WITH HORN,
      SMALL LETTER U WITH HORN,CAPITAL LETTER UPSILON,CAPITAL LETTER V WITH HOOK,
      CAPITAL LETTER Y WITH HOOK,SMALL LETTER Y WITH HOOK,CAPITAL LETTER Z WITH STROKE,
      SMALL LETTER Z WITH STROKE,CAPITAL LETTER EZH,CAPITAL LETTER EZH REVERSED,
      SMALL LETTER EZH REVERSED,SMALL LETTER EZH WITH TAIL,LETTER TWO WITH STROKE,
      CAPITAL LETTER TONE FIVE,SMALL LETTER TONE FIVE,LETTER INVERTED GLOTTAL STOP WITH STROKE,
      LETTER WYNN,LETTER DENTAL CLICK,LETTER LATERAL CLICK,LETTER ALVEOLAR CLICK,
      LETTER RETROFLEX CLICK,CAPITAL LETTER DZ WITH CARON,
      CAPITAL LETTER D WITH SMALL LETTER Z WITH CARON,SMALL LETTER DZ WITH CARON,CAPITAL LETTER LJ,
      CAPITAL LETTER L WITH SMALL LETTER J,SMALL LETTER LJ,CAPITAL LETTER NJ,
      CAPITAL LETTER N WITH SMALL LETTER J,SMALL LETTER NJ,CAPITAL LETTER A WITH CARON,
      SMALL LETTER A WITH CARON,CAPITAL LETTER I WITH CARON,SMALL LETTER I WITH CARON,
      CAPITAL LETTER O WITH CARON,SMALL LETTER O WITH CARON,CAPITAL LETTER U WITH CARON,
      SMALL LETTER U WITH CARON,CAPITAL LETTER U WITH DIAERESIS AND MACRON,
      SMALL LETTER U WITH DIAERESIS AND MACRON,CAPITAL LETTER U WITH DIAERESIS AND ACUTE,
      SMALL LETTER U WITH DIAERESIS AND ACUTE,CAPITAL LETTER U WITH DIAERESIS AND CARON,
      SMALL LETTER U WITH DIAERESIS AND CARON,CAPITAL LETTER U WITH DIAERESIS AND GRAVE,
      SMALL LETTER U WITH DIAERESIS AND GRAVE,SMALL LETTER TURNED E,
      CAPITAL LETTER A WITH DIAERESIS AND MACRON,SMALL LETTER A WITH DIAERESIS AND MACRON,
      CAPITAL LETTER A WITH DOT ABOVE AND MACRON,SMALL LETTER A WITH DOT ABOVE AND MACRON,
      CAPITAL LETTER AE WITH MACRON,SMALL LETTER AE WITH MACRON,CAPITAL LETTER G WITH STROKE,
      SMALL LETTER G WITH STROKE,CAPITAL LETTER G WITH CARON,SMALL LETTER G WITH CARON,
      CAPITAL LETTER K WITH CARON,SMALL LETTER K WITH CARON,CAPITAL LETTER O WITH OGONEK,
      SMALL LETTER O WITH OGONEK,CAPITAL LETTER O WITH OGONEK AND MACRON,
      SMALL LETTER O WITH OGONEK AND MACRON,CAPITAL LETTER EZH WITH CARON,
      SMALL LETTER EZH WITH CARON,SMALL LETTER J WITH CARON,CAPITAL LETTER DZ,
      CAPITAL LETTER D WITH SMALL LETTER Z,SMALL LETTER DZ,CAPITAL LETTER G WITH ACUTE,
      SMALL LETTER G WITH ACUTE,CAPITAL LETTER HWAIR,CAPITAL LETTER WYNN,
      CAPITAL LETTER N WITH GRAVE,SMALL LETTER N WITH GRAVE,
      CAPITAL LETTER A WITH RING ABOVE AND ACUTE,SMALL LETTER A WITH RING ABOVE AND ACUTE,
      CAPITAL LETTER AE WITH ACUTE,SMALL LETTER AE WITH ACUTE,
      CAPITAL LETTER O WITH STROKE AND ACUTE,SMALL LETTER O WITH STROKE AND ACUTE,
      CAPITAL LETTER A WITH DOUBLE GRAVE,SMALL LETTER A WITH DOUBLE GRAVE,
      CAPITAL LETTER A WITH INVERTED BREVE,SMALL LETTER A WITH INVERTED BREVE,
      CAPITAL LETTER E WITH DOUBLE GRAVE,SMALL LETTER E WITH DOUBLE GRAVE,
      CAPITAL LETTER E WITH INVERTED BREVE,SMALL LETTER E WITH INVERTED BREVE,
      CAPITAL LETTER I WITH DOUBLE GRAVE,SMALL LETTER I WITH DOUBLE GRAVE,
      CAPITAL LETTER I WITH INVERTED BREVE,SMALL LETTER I WITH INVERTED BREVE,
      CAPITAL LETTER O WITH DOUBLE GRAVE,SMALL LETTER O WITH DOUBLE GRAVE,
      CAPITAL LETTER O WITH INVERTED BREVE,SMALL LETTER O WITH INVERTED BREVE,
      CAPITAL LETTER R WITH DOUBLE GRAVE,SMALL LETTER R WITH DOUBLE GRAVE,
      CAPITAL LETTER R WITH INVERTED BREVE,SMALL LETTER R WITH INVERTED BREVE,
      CAPITAL LETTER U WITH DOUBLE GRAVE,SMALL LETTER U WITH DOUBLE GRAVE,
      CAPITAL LETTER U WITH INVERTED BREVE,SMALL LETTER U WITH INVERTED BREVE,
      CAPITAL LETTER S WITH COMMA BELOW,SMALL LETTER S WITH COMMA BELOW,
      CAPITAL LETTER T WITH COMMA BELOW,SMALL LETTER T WITH COMMA BELOW,CAPITAL LETTER YOGH,
      SMALL LETTER YOGH,CAPITAL LETTER H WITH CARON,SMALL LETTER H WITH CARON,
      CAPITAL LETTER N WITH LONG RIGHT LEG,SMALL LETTER D WITH CURL,CAPITAL LETTER OU,
      SMALL LETTER OU,CAPITAL LETTER Z WITH HOOK,SMALL LETTER Z WITH HOOK,
      CAPITAL LETTER A WITH DOT ABOVE,SMALL LETTER A WITH DOT ABOVE,CAPITAL LETTER E WITH CEDILLA,
      SMALL LETTER E WITH CEDILLA,CAPITAL LETTER O WITH DIAERESIS AND MACRON,
      SMALL LETTER O WITH DIAERESIS AND MACRON,CAPITAL LETTER O WITH TILDE AND MACRON,
      SMALL LETTER O WITH TILDE AND MACRON,CAPITAL LETTER O WITH DOT ABOVE,
      SMALL LETTER O WITH DOT ABOVE,CAPITAL LETTER O WITH DOT ABOVE AND MACRON,
      SMALL LETTER O WITH DOT ABOVE AND MACRON,CAPITAL LETTER Y WITH MACRON"⟩,
   ⟨0x233, "LATIN SMALL LETTER ",
     "Y WITH MACRON,L WITH CURL,N WITH CURL,T WITH CURL,DOTLESS J,DB DIGRAPH,QP DIGRAPH"⟩,
   ⟨0x23A, "LATIN ",
     "CAPITAL LETTER A WITH STROKE,CAPITAL LETTER C WITH STROKE,SMALL LETTER C WITH STROKE,
      CAPITAL LETTER L WITH BAR,CAPITAL LETTER T WITH DIAGONAL STROKE,
      SMALL LETTER S WITH SWASH TAIL,SMALL LETTER Z WITH SWASH TAIL,CAPITAL LETTER GLOTTAL STOP,
      SMALL LETTER GLOTTAL STOP,CAPITAL LETTER B WITH STROKE,CAPITAL LETTER U BAR,
      CAPITAL LETTER TURNED V,CAPITAL LETTER E WITH STROKE,SMALL LETTER E WITH STROKE,
      CAPITAL LETTER J WITH STROKE,SMALL LETTER J WITH STROKE,
      CAPITAL LETTER SMALL Q WITH HOOK TAIL,SMALL LETTER Q WITH HOOK TAIL,
      CAPITAL LETTER R WITH STROKE,SMALL LETTER R WITH STROKE,CAPITAL LETTER Y WITH STROKE"⟩,
   ⟨0x24F, "LATIN SMALL LETTER ",
     "Y WITH STROKE,TURNED A,ALPHA,TURNED ALPHA,B WITH HOOK,OPEN O,C WITH CURL,D WITH TAIL,
      D WITH HOOK,REVERSED E,SCHWA,SCHWA WITH HOOK,OPEN E,REVERSED OPEN E,
      REVERSED OPEN E WITH HOOK,CLOSED REVERSED OPEN E,DOTLESS J WITH STROKE,G WITH HOOK,SCRIPT G"⟩,
   ⟨0x262, "LATIN LETTER SMALL CAPITAL ", "G"⟩,
   ⟨0x263, "LATIN SMALL LETTER ",
     "GAMMA,RAMS HORN,TURNED H,H WITH HOOK,HENG WITH HOOK,I WITH STROKE,IOTA"⟩,
   ⟨0x26A, "LATIN LETTER SMALL CAPITAL ", "I"⟩,
   ⟨0x26B, "LATIN SMALL LETTER ",
     "L WITH MIDDLE TILDE,L WITH BELT,L WITH RETROFLEX HOOK,LEZH,TURNED M,TURNED M WITH LONG LEG,
      M WITH HOOK,N WITH LEFT HOOK,N WITH RETROFLEX HOOK"⟩,
   ⟨0x274, "LATIN ", "LETTER SMALL CAPITAL N,SMALL LETTER BARRED O,LETTER SMALL CAPITAL OE"⟩,
   ⟨0x277, "LATIN SMALL LETTER ",
     "CLOSED OMEGA,PHI,TURNED R,TURNED R WITH LONG LEG,TURNED R WITH HOOK,R WITH LONG LEG,
      R WITH TAIL,R WITH FISHHOOK,REVERSED R WITH FISHHOOK"⟩,
   ⟨0x280, "LATIN LETTER SMALL CAPITAL ", "R,INVERTED R"⟩,
   ⟨0x282, "LATIN SMALL LETTER ",
     "S WITH HOOK,ESH,DOTLESS J WITH STROKE AND HOOK,SQUAT REVERSED ESH,ESH WITH CURL,TURNED T,
      T WITH RETROFLEX HOOK,U BAR,UPSILON,V WITH HOOK,TURNED V,TURNED W,TURNED Y"⟩,
   ⟨0x28F, "LATIN ",
     "LETTER SMALL CAPITAL Y,SMALL LETTER Z WITH RETROFLEX HOOK,SMALL LETTER Z WITH CURL,
      SMALL LETTER EZH,SMALL LETTER EZH WITH CURL,LETTER GLOTTAL STOP,
      LETTER PHARYNGEAL VOICED FRICATIVE,LETTER INVERTED GLOTTAL STOP,LETTER STRETCHED C,
      LETTER BILABIAL CLICK,LETTER SMALL CAPITAL B,SMALL LETTER CLOSED OPEN E,
      LETTER SMALL CAPITAL G WITH HOOK,LETTER SMALL CAPITAL H,SMALL LETTER J WITH CROSSED-TAIL,
      SMALL LETTER TURNED K,LETTER SMALL CAPITAL L,SMALL LETTER Q WITH HOOK,
      LETTER GLOTTAL STOP WITH STROKE,LETTER REVERSED GLOTTAL STOP WITH STROKE"⟩,
   ⟨0x2A3, "LATIN SMALL LETTER ",
     "DZ DIGRAPH,DEZH DIGRAPH,DZ DIGRAPH WITH CURL,TS DIGRAPH,TESH DIGRAPH,TC DIGRAPH WITH CURL,
      FENG DIGRAPH,LS DIGRAPH,LZ DIGRAPH"⟩,
   ⟨0x2AC, "LATIN LETTER ", "BILABIAL PERCUSSIVE,BIDENTAL PERCUSSIVE"⟩,
   ⟨0x2AE, "LATIN SMALL LETTER TURNED H WITH ", "FISHHOOK,FISHHOOK AND TAIL"⟩,
   ⟨0x2B0, "MODIFIER LETTER SMALL ",
     "H,H WITH HOOK,J,R,TURNED R,TURNED R WITH HOOK,CAPITAL INVERTED R,W,Y"⟩,
   ⟨0x2B9, "MODIFIER LETTER ",
     "PRIME,DOUBLE PRIME,TURNED COMMA,APOSTROPHE,REVERSED COMMA,RIGHT HALF RING,LEFT HALF RING,
      GLOTTAL STOP,REVERSED GLOTTAL STOP,LEFT ARROWHEAD,RIGHT ARROWHEAD,UP ARROWHEAD,
      DOWN ARROWHEAD,CIRCUMFLEX ACCENT"⟩,
   ⟨0x2C7, "", "CARON"⟩,
   ⟨0x2C8, "MODIFIER LETTER ",
     "VERTICAL LINE,MACRON,ACUTE ACCENT,GRAVE ACCENT,LOW VERTICAL LINE,LOW MACRON,LOW GRAVE ACCENT,
      LOW ACUTE ACCENT,TRIANGULAR COLON,HALF TRIANGULAR COLON,CENTRED RIGHT HALF RING,
      CENTRED LEFT HALF RING,UP TACK,DOWN TACK,PLUS SIGN,MINUS SIGN"⟩,
   ⟨0x2D8, "", "BREVE,DOT ABOVE,RING ABOVE,OGONEK,SMALL TILDE,DOUBLE ACUTE ACCENT"⟩,
   ⟨0x2DE, "MODIFIER LETTER ",
     "RHOTIC HOOK,CROSS ACCENT,SMALL GAMMA,SMALL L,SMALL S,SMALL X,SMALL REVERSED GLOTTAL STOP,
      EXTRA-HIGH TONE BAR,HIGH TONE BAR,MID TONE BAR,LOW TONE BAR,EXTRA-LOW TONE BAR,
      YIN DEPARTING TONE MARK,YANG DEPARTING TONE MARK,VOICING,UNASPIRATED,DOUBLE APOSTROPHE,
      LOW DOWN ARROWHEAD,LOW UP ARROWHEAD,LOW LEFT ARROWHEAD,LOW RIGHT ARROWHEAD,LOW RING,
      MIDDLE GRAVE ACCENT,MIDDLE DOUBLE GRAVE ACCENT,MIDDLE DOUBLE ACUTE ACCENT,LOW TILDE,
      RAISED COLON,BEGIN HIGH TONE,END HIGH TONE,BEGIN LOW TONE,END LOW TONE,SHELF,OPEN SHELF,
      LOW LEFT ARROW"⟩,
   ⟨0x300, "COMBINING ",
     "GRAVE ACCENT,ACUTE ACCENT,CIRCUMFLEX ACCENT,TILDE,MACRON,OVERLINE,BREVE,DOT ABOVE,DIAERESIS,
      HOOK ABOVE,RING ABOVE,DOUBLE ACUTE ACCENT,CARON,VERTICAL LINE ABOVE,
      DOUBLE VERTICAL LINE ABOVE,DOUBLE GRAVE ACCENT,CANDRABINDU,INVERTED BREVE,TURNED COMMA ABOVE,
      COMMA ABOVE,REVERSED COMMA ABOVE,COMMA ABOVE RIGHT,GRAVE ACCENT BELOW,ACUTE ACCENT BELOW,
      LEFT TACK BELOW,RIGHT TACK BELOW,LEFT ANGLE ABOVE,HORN,LEFT HALF RING BELOW,UP TACK BELOW,
      DOWN TACK BELOW,PLUS SIGN BELOW,MINUS SIGN BELOW,PALATALIZED HOOK BELOW,RETROFLEX HOOK BELOW,
      DOT BELOW,DIAERESIS BELOW,RING BELOW,COMMA BELOW,CEDILLA,OGONEK,VERTICAL LINE BELOW,
      BRIDGE BELOW,INVERTED DOUBLE ARCH BELOW,CARON BELOW,CIRCUMFLEX ACCENT BELOW,BREVE BELOW,
      INVERTED BREVE BELOW,TILDE BELOW,MACRON BELOW,LOW LINE,DOUBLE LOW LINE,TILDE OVERLAY,
      SHORT STROKE OVERLAY,LONG STROKE OVERLAY,SHORT SOLIDUS OVERLAY,LONG SOLIDUS OVERLAY,
      RIGHT HALF RING BELOW,INVERTED BRIDGE BELOW,SQUARE BELOW,SEAGULL BELOW,X ABOVE,
      VERTICAL TILDE,DOUBLE OVERLINE,GRAVE TONE MARK,ACUTE TONE MARK,GREEK PERISPOMENI,
      GREEK KORONIS,GREEK DIALYTIKA TONOS,GREEK YPOGEGRAMMENI,BRIDGE ABOVE,EQUALS SIGN BELOW,
      DOUBLE VERTICAL LINE BELOW,LEFT ANGLE BELOW,NOT TILDE ABOVE,HOMOTHETIC ABOVE,
      ALMOST EQUAL TO ABOVE,LEFT RIGHT ARROW BELOW,UPWARDS ARROW BELOW,GRAPHEME JOINER,
      RIGHT ARROWHEAD ABOVE,LEFT HALF RING ABOVE,FERMATA,X BELOW,LEFT ARROWHEAD BELOW,
      RIGHT ARROWHEAD BELOW,RIGHT ARROWHEAD AND UP ARROWHEAD BELOW,RIGHT HALF RING ABOVE,
      DOT ABOVE RIGHT,ASTERISK BELOW,DOUBLE RING BELOW,ZIGZAG ABOVE"⟩,
   ⟨0x35C, "COMBINING DOUBLE ",
     "BREVE BELOW,BREVE,MACRON,MACRON BELOW,TILDE,INVERTED BREVE,RIGHTWARDS ARROW BELOW"⟩,
   ⟨0x363, "COMBINING LATIN SMALL LETTER ", "A,E,I,O,U,C,D,H,M,R,T,V,X"⟩,
   ⟨0x370, "GREEK ",
     "CAPITAL LETTER HETA,SMALL LETTER HETA,CAPITAL LETTER ARCHAIC SAMPI,
      SMALL LETTER ARCHAIC SAMPI,NUMERAL SIGN,LOWER NUMERAL SIGN,CAPITAL LETTER PAMPHYLIAN DIGAMMA,
      SMALL LETTER PAMPHYLIAN DIGAMMA,,,YPOGEGRAMMENI,SMALL REVERSED LUNATE SIGMA SYMBOL,
      SMALL DOTTED LUNATE SIGMA SYMBOL,SMALL REVERSED DOTTED LUNATE SIGMA SYMBOL,QUESTION MARK,
      CAPITAL LETTER YOT,,,,,TONOS,DIALYTIKA TONOS,CAPITAL LETTER ALPHA WITH TONOS,ANO TELEIA"⟩,
   ⟨0x388, "GREEK CAPITAL LETTER ",
     "EPSILON WITH TONOS,ETA WITH TONOS,IOTA WITH TONOS,,OMICRON WITH TONOS,,UPSILON WITH TONOS,
      OMEGA WITH TONOS"⟩,
   ⟨0x390, "GREEK SMALL LETTER IOTA WITH DIALYTIKA AND ", "TONOS"⟩,
   ⟨0x391, "GREEK CAPITAL LETTER ",
     "ALPHA,BETA,GAMMA,DELTA,EPSILON,ZETA,ETA,THETA,IOTA,KAPPA,LAMDA,MU,NU,XI,OMICRON,PI,RHO,,
      SIGMA,TAU,UPSILON,PHI,CHI,PSI,OMEGA,IOTA WITH DIALYTIKA,UPSILON WITH DIALYTIKA"⟩,
   ⟨0x3AC, "GREEK SMALL LETTER ",
     "ALPHA WITH TONOS,EPSILON WITH TONOS,ETA WITH TONOS,IOTA WITH TONOS,
      UPSILON WITH DIALYTIKA AND TONOS,ALPHA,BETA,GAMMA,DELTA,EPSILON,ZETA,ETA,THETA,IOTA,KAPPA,
      LAMDA,MU,NU,XI,OMICRON,PI,RHO,FINAL SIGMA,SIGMA,TAU,UPSILON,PHI,CHI,PSI,OMEGA,
      IOTA WITH DIALYTIKA,UPSILON WITH DIALYTIKA,OMICRON WITH TONOS,UPSILON WITH TONOS,
      OMEGA WITH TONOS"⟩,
   ⟨0x3CF, "GREEK ",
     "CAPITAL KAI SYMBOL,BETA SYMBOL,THETA SYMBOL,UPSILON WITH HOOK SYMBOL,
      UPSILON WITH ACUTE AND HOOK SYMBOL,UPSILON WITH DIAERESIS AND HOOK SYMBOL,PHI SYMBOL,
      PI SYMBOL,KAI SYMBOL,LETTER ARCHAIC KOPPA,SMALL LETTER ARCHAIC KOPPA,LETTER STIGMA,
      SMALL LETTER STIGMA,LETTER DIGAMMA,SMALL LETTER DIGAMMA,LETTER KOPPA,SMALL LETTER KOPPA,
      LETTER SAMPI,SMALL LETTER SAMPI"⟩,
   ⟨0x3E2, "COPTIC ",
     "CAPITAL LETTER SHEI,SMALL LETTER SHEI,CAPITAL LETTER FEI,SMALL LETTER FEI,
      CAPITAL LETTER KHEI,SMALL LETTER KHEI,CAPITAL LETTER HORI,SMALL LETTER HORI,
      CAPITAL LETTER GANGIA,SMALL LETTER GANGIA,CAPITAL LETTER SHIMA,SMALL LETTER SHIMA,
      CAPITAL LETTER DEI,SMALL LETTER DEI"⟩,
   ⟨0x3F0, "GREEK ",
     "KAPPA SYMBOL,RHO SYMBOL,LUNATE SIGMA SYMBOL,LETTER YOT,CAPITAL THETA SYMBOL,
      LUNATE EPSILON SYMBOL,REVERSED LUNATE EPSILON SYMBOL,CAPITAL LETTER SHO,SMALL LETTER SHO,
      CAPITAL LUNATE SIGMA SYMBOL,CAPITAL LETTER SAN,SMALL LETTER SAN,RHO WITH STROKE SYMBOL,
      CAPITAL REVERSED LUNATE SIGMA SYMBOL,CAPITAL DOTTED LUNATE SIGMA SYMBOL,
      CAPITAL REVERSED DOTTED LUNATE SIGMA SYMBOL"⟩,
   ⟨0x400, "CYRILLIC CAPITAL LETTER ",
     "IE WITH GRAVE,IO,DJE,GJE,UKRAINIAN IE,DZE,BYELORUSSIAN-UKRAINIAN I,YI,JE,LJE,NJE,TSHE,KJE,
      I WITH GRAVE,SHORT U,DZHE,A,BE,VE,GHE,DE,IE,ZHE,ZE,I,SHORT I,KA,EL,EM,EN,O,PE,ER,ES,TE,U,EF,
      HA,TSE,CHE,SHA,SHCHA,HARD SIGN,YERU,SOFT SIGN,E,YU,YA"⟩,
   ⟨0x430, "CYRILLIC SMALL LETTER ",
     "A,BE,VE,GHE,DE,IE,ZHE,ZE,I,SHORT I,KA,EL,EM,EN,O,PE,ER,ES,TE,U,EF,HA,TSE,CHE,SHA,SHCHA,
      HARD SIGN,YERU,SOFT SIGN,E,YU,YA,IE WITH GRAVE,IO,DJE,GJE,UKRAINIAN IE,DZE,
      BYELORUSSIAN-UKRAINIAN I,YI,JE,LJE,NJE,TSHE,KJE,I WITH GRAVE,SHORT U,DZHE"⟩,
   ⟨0x460, "CYRILLIC ",
     "CAPITAL LETTER OMEGA,SMALL LETTER OMEGA,CAPITAL LETTER YAT,SMALL LETTER YAT,
      CAPITAL LETTER IOTIFIED E,SMALL LETTER IOTIFIED E,CAPITAL LETTER LITTLE YUS,
      SMALL LETTER LITTLE YUS,CAPITAL LETTER IOTIFIED LITTLE YUS,SMALL LETTER IOTIFIED LITTLE YUS,
      CAPITAL LETTER BIG YUS,SMALL LETTER BIG YUS,CAPITAL LETTER IOTIFIED BIG YUS,
      SMALL LETTER IOTIFIED BIG YUS,CAPITAL LETTER KSI,SMALL LETTER KSI,CAPITAL LETTER PSI,
      SMALL LETTER PSI,CAPITAL LETTER FITA,SMALL LETTER FITA,CAPITAL LETTER IZHITSA,
      SMALL LETTER IZHITSA,CAPITAL LETTER IZHITSA WITH DOUBLE GRAVE ACCENT,
      SMALL LETTER IZHITSA WITH DOUBLE GRAVE ACCENT,CAPITAL LETTER UK,SMALL LETTER UK,
      CAPITAL LETTER ROUND OMEGA,SMALL LETTER ROUND OMEGA,CAPITAL LETTER OMEGA WITH TITLO,
      SMALL LETTER OMEGA WITH TITLO,CAPITAL LETTER OT,SMALL LETTER OT,CAPITAL LETTER KOPPA,
      SMALL LETTER KOPPA,THOUSANDS SIGN"⟩,
   ⟨0x483, "COMBINING CYRILLIC ",
     "TITLO,PALATALIZATION,DASIA PNEUMATA,PSILI PNEUMATA,POKRYTIE,HUNDRED THOUSANDS SIGN,
      MILLIONS SIGN"⟩,
   ⟨0x48A, "CYRILLIC ",
     "CAPITAL LETTER SHORT I WITH TAIL,SMALL LETTER SHORT I WITH TAIL,CAPITAL LETTER SEMISOFT SIGN,
      SMALL LETTER SEMISOFT SIGN,CAPITAL LETTER ER WITH TICK,SMALL LETTER ER WITH TICK,
      CAPITAL LETTER GHE WITH UPTURN,SMALL LETTER GHE WITH UPTURN,CAPITAL LETTER GHE WITH STROKE,
      SMALL LETTER GHE WITH STROKE,CAPITAL LETTER GHE WITH MIDDLE HOOK,
      SMALL LETTER GHE WITH MIDDLE HOOK,CAPITAL LETTER ZHE WITH DESCENDER,
      SMALL LETTER ZHE WITH DESCENDER,CAPITAL LETTER ZE WITH DESCENDER,
      SMALL LETTER ZE WITH DESCENDER,CAPITAL LETTER KA WITH DESCENDER,
      SMALL LETTER KA WITH DESCENDER,CAPITAL LETTER KA WITH VERTICAL STROKE,
      SMALL LETTER KA WITH VERTICAL STROKE,CAPITAL LETTER KA WITH STROKE,
      SMALL LETTER KA WITH STROKE,CAPITAL LETTER BASHKIR KA,SMALL LETTER BASHKIR KA,
      CAPITAL LETTER EN WITH DESCENDER,SMALL LETTER EN WITH DESCENDER,CAPITAL LIGATURE EN GHE,
      SMALL LIGATURE EN GHE,CAPITAL LETTER PE WITH MIDDLE HOOK,SMALL LETTER PE WITH MIDDLE HOOK,
      CAPITAL LETTER ABKHASIAN HA,SMALL LETTER ABKHASIAN HA,CAPITAL LETTER ES WITH DESCENDER,
      SMALL LETTER ES WITH DESCENDER,CAPITAL LETTER TE WITH DESCENDER,
      SMALL LETTER TE WITH DESCENDER,CAPITAL LETTER STRAIGHT U,SMALL LETTER STRAIGHT U,
      CAPITAL LETTER STRAIGHT U WITH STROKE,SMALL LETTER STRAIGHT U WITH STROKE,
      CAPITAL LETTER HA WITH DESCENDER,SMALL LETTER HA WITH DESCENDER,CAPITAL LIGATURE TE TSE,
      SMALL LIGATURE TE TSE,CAPITAL LETTER CHE WITH DESCENDER,SMALL LETTER CHE WITH DESCENDER,
      CAPITAL LETTER CHE WITH VERTICAL STROKE,SMALL LETTER CHE WITH VERTICAL STROKE,
      CAPITAL LETTER SHHA,SMALL LETTER SHHA,CAPITAL LETTER ABKHASIAN CHE,
      SMALL LETTER ABKHASIAN CHE,CAPITAL LETTER ABKHASIAN CHE WITH DESCENDER,
      SMALL LETTER ABKHASIAN CHE WITH DESCENDER,LETTER PALOCHKA,CAPITAL LETTER ZHE WITH BREVE,
      SMALL LETTER ZHE WITH BREVE,CAPITAL LETTER KA WITH HOOK,SMALL LETTER KA WITH HOOK,
      CAPITAL LETTER EL WITH TAIL,SMALL LETTER EL WITH TAIL,CAPITAL LETTER EN WITH HOOK,
      SMALL LETTER EN WITH HOOK,CAPITAL LETTER EN WITH TAIL,SMALL LETTER EN WITH TAIL,
      CAPITAL LETTER KHAKASSIAN CHE,SMALL LETTER KHAKASSIAN CHE,CAPITAL LETTER EM WITH TAIL,
      SMALL LETTER EM WITH TAIL,SMALL LETTER PALOCHKA,CAPITAL LETTER A WITH BREVE,
      SMALL LETTER A WITH BREVE,CAPITAL LETTER A WITH DIAERESIS,SMALL LETTER A WITH DIAERESIS,
      CAPITAL LIGATURE A IE,SMALL LIGATURE A IE,CAPITAL LETTER IE WITH BREVE,
      SMALL LETTER IE WITH BREVE,CAPITAL LETTER SCHWA,SMALL LETTER SCHWA,
      CAPITAL LETTER SCHWA WITH DIAERESIS,SMALL LETTER SCHWA WITH DIAERESIS,
      CAPITAL LETTER ZHE WITH DIAERESIS,SMALL LETTER ZHE WITH DIAERESIS,
      CAPITAL LETTER ZE WITH DIAERESIS,SMALL LETTER ZE WITH DIAERESIS,CAPITAL LETTER ABKHASIAN DZE,
      SMALL LETTER ABKHASIAN DZE,CAPITAL LETTER I WITH MACRON,SMALL LETTER I WITH MACRON,
      CAPITAL LETTER I WITH DIAERESIS,SMALL LETTER I WITH DIAERESIS,
      CAPITAL LETTER O WITH DIAERESIS,SMALL LETTER O WITH DIAERESIS,CAPITAL LETTER BARRED O,
      SMALL LETTER BARRED O,CAPITAL LETTER BARRED O WITH DIAERESIS,
      SMALL LETTER BARRED O WITH DIAERESIS,CAPITAL LETTER E WITH DIAERESIS,
      SMALL LETTER E WITH DIAERESIS,CAPITAL LETTER U WITH MACRON,SMALL LETTER U WITH MACRON,
      CAPITAL LETTER U WITH DIAERESIS,SMALL LETTER U WITH DIAERESIS,
      CAPITAL LETTER U WITH DOUBLE ACUTE,SMALL LETTER U WITH DOUBLE ACUTE,
      CAPITAL LETTER CHE WITH DIAERESIS,SMALL LETTER CHE WITH DIAERESIS,
      CAPITAL LETTER GHE WITH DESCENDER,SMALL LETTER GHE WITH DESCENDER,
      CAPITAL LETTER YERU WITH DIAERESIS,SMALL LETTER YERU WITH DIAERESIS,
      CAPITAL LETTER GHE WITH STROKE AND HOOK,SMALL LETTER GHE WITH STROKE AND HOOK,
      CAPITAL LETTER HA WITH HOOK,SMALL LETTER HA WITH HOOK,CAPITAL LETTER HA WITH STROKE,
      SMALL LETTER HA WITH STROKE,CAPITAL LETTER KOMI DE,SMALL LETTER KOMI DE,
      CAPITAL LETTER KOMI DJE,SMALL LETTER KOMI DJE,CAPITAL LETTER KOMI ZJE,SMALL LETTER KOMI ZJE,
      CAPITAL LETTER KOMI DZJE,SMALL LETTER KOMI DZJE,CAPITAL LETTER KOMI LJE,
      SMALL LETTER KOMI LJE,CAPITAL LETTER KOMI NJE,SMALL LETTER KOMI NJE,CAPITAL LETTER KOMI SJE,
      SMALL LETTER KOMI SJE,CAPITAL LETTER KOMI TJE,SMALL LETTER KOMI TJE,
      CAPITAL LETTER REVERSED ZE,SMALL LETTER REVERSED ZE,CAPITAL LETTER EL WITH HOOK,
      SMALL LETTER EL WITH HOOK,CAPITAL LETTER LHA,SMALL LETTER LHA,CAPITAL LETTER RHA,
      SMALL LETTER RHA,CAPITAL LETTER YAE,SMALL LETTER YAE,CAPITAL LETTER QA,SMALL LETTER QA,
      CAPITAL LETTER WE,SMALL LETTER WE,CAPITAL LETTER ALEUT KA,SMALL LETTER ALEUT KA,
      CAPITAL LETTER EL WITH MIDDLE HOOK,SMALL LETTER EL WITH MIDDLE HOOK,
      CAPITAL LETTER EN WITH MIDDLE HOOK,SMALL LETTER EN WITH MIDDLE HOOK,
      CAPITAL LETTER PE WITH DESCENDER,SMALL LETTER PE WITH DESCENDER,
      CAPITAL LETTER SHHA WITH DESCENDER,SMALL LETTER SHHA WITH DESCENDER,
      CAPITAL LETTER EN WITH LEFT HOOK,SMALL LETTER EN WITH LEFT HOOK,CAPITAL LETTER DZZHE,
      SMALL LETTER DZZHE,CAPITAL LETTER DCHE,SMALL LETTER DCHE,CAPITAL LETTER EL WITH DESCENDER,
      SMALL LETTER EL WITH DESCENDER"⟩,
   ⟨0x531, "ARMENIAN CAPITAL LETTER ",
     "AYB,BEN,GIM,DA,ECH,ZA,EH,ET,TO,ZHE,INI,LIWN,XEH,CA,KEN,HO,JA,GHAD,CHEH,MEN,YI,NOW,SHA,VO,CHA,
      PEH,JHEH,RA,SEH,VEW,TIWN,REH,CO,YIWN,PIWR,KEH,OH,FEH"⟩,
   ⟨0x559, "ARMENIAN ",
     "MODIFIER LETTER LEFT HALF RING,APOSTROPHE,EMPHASIS MARK,EXCLAMATION MARK,COMMA,QUESTION MARK,
      ABBREVIATION MARK"⟩,
   ⟨0x560, "ARMENIAN SMALL LETTER ",
     "TURNED AYB,AYB,BEN,GIM,DA,ECH,ZA,EH,ET,TO,ZHE,INI,LIWN,XEH,CA,KEN,HO,JA,GHAD,CHEH,MEN,YI,NOW,
      SHA,VO,CHA,PEH,JHEH,RA,SEH,VEW,TIWN,REH,CO,YIWN,PIWR,KEH,OH,FEH"⟩,
   ⟨0x587, "ARMENIAN ", "SMALL LIGATURE ECH YIWN,SMALL LETTER YI WITH STROKE,FULL STOP,HYPHEN"⟩,
   ⟨0x58D, "",
     "RIGHT-FACING ARMENIAN ETERNITY SIGN,LEFT-FACING ARMENIAN ETERNITY SIGN,ARMENIAN DRAM SIGN"⟩,
   ⟨0x591, "HEBREW ACCENT ",
     "ETNAHTA,SEGOL,SHALSHELET,ZAQEF QATAN,ZAQEF GADOL,TIPEHA,REVIA,ZARQA,PASHTA,YETIV,TEVIR,
      GERESH,GERESH MUQDAM,GERSHAYIM,QARNEY PARA,TELISHA GEDOLA,PAZER,ATNAH HAFUKH,MUNAH,MAHAPAKH,
      MERKHA,MERKHA KEFULA,DARGA,QADMA,TELISHA QETANA,YERAH BEN YOMO,OLE,ILUY,DEHI,ZINOR"⟩,
   ⟨0x5AF, "HEBREW MARK MASORA ", "CIRCLE"⟩,
   ⟨0x5B0, "HEBREW POINT ",
     "SHEVA,HATAF SEGOL,HATAF PATAH,HATAF QAMATS,HIRIQ,TSERE,SEGOL,PATAH,QAMATS,HOLAM,
      HOLAM HASER FOR VAV,QUBUTS,DAGESH OR MAPIQ,METEG"⟩,
   ⟨0x5BE, "HEBREW ",
     "PUNCTUATION MAQAF,POINT RAFE,PUNCTUATION PASEQ,POINT SHIN DOT,POINT SIN DOT,
      PUNCTUATION SOF PASUQ,MARK UPPER DOT,MARK LOWER DOT,PUNCTUATION NUN HAFUKHA,
      POINT QAMATS QATAN"⟩,
   ⟨0x5D0, "HEBREW LETTER ",
     "ALEF,BET,GIMEL,DALET,HE,VAV,ZAYIN,HET,TET,YOD,FINAL KAF,KAF,LAMED,FINAL MEM,MEM,FINAL NUN,
      NUN,SAMEKH,AYIN,FINAL PE,PE,FINAL TSADI,TSADI,QOF,RESH,SHIN,TAV"⟩,
   ⟨0x5EF, "HEBREW ",
     "YOD TRIANGLE,LIGATURE YIDDISH DOUBLE VAV,LIGATURE YIDDISH VAV YOD,
      LIGATURE YIDDISH DOUBLE YOD,PUNCTUATION GERESH,PUNCTUATION GERSHAYIM"⟩,
   ⟨0x600, "ARABIC ",
     "NUMBER SIGN,SIGN SANAH,FOOTNOTE MARKER,SIGN SAFHA,SIGN SAMVAT,NUMBER MARK ABOVE"⟩,
   ⟨0x606, "",
     "ARABIC-INDIC CUBE ROOT,ARABIC-INDIC FOURTH ROOT,ARABIC RAY,ARABIC-INDIC PER MILLE SIGN,
      ARABIC-INDIC PER TEN THOUSAND SIGN,AFGHANI SIGN"⟩,
   ⟨0x60C, "ARABIC ",
     "COMMA,DATE SEPARATOR,POETIC VERSE SIGN,SIGN MISRA,SIGN SALLALLAHOU ALAYHE WASSALLAM,
      SIGN ALAYHE ASSALLAM,SIGN RAHMATULLAH ALAYHE,SIGN RADI ALLAHOU ANHU,SIGN TAKHALLUS,
      SMALL HIGH TAH,SMALL HIGH LIGATURE ALEF WITH LAM WITH YEH,SMALL HIGH ZAIN,SMALL FATHA,
      SMALL DAMMA,SMALL KASRA,SEMICOLON,LETTER MARK,END OF TEXT MARK,TRIPLE DOT PUNCTUATION MARK,
      QUESTION MARK"⟩,
   ⟨0x620, "ARABIC LETTER ",
     "KASHMIRI YEH,HAMZA,ALEF WITH MADDA ABOVE,ALEF WITH HAMZA ABOVE,WAW WITH HAMZA ABOVE,
      ALEF WITH HAMZA BELOW,YEH WITH HAMZA ABOVE,ALEF,BEH,TEH MARBUTA,TEH,THEH,JEEM,HAH,KHAH,DAL,
      THAL,REH,ZAIN,SEEN,SHEEN,SAD,DAD,TAH,ZAH,AIN,GHAIN,KEHEH WITH TWO DOTS ABOVE,
      KEHEH WITH THREE DOTS BELOW,FARSI YEH WITH INVERTED V,FARSI YEH WITH TWO DOTS ABOVE,
      FARSI YEH WITH THREE DOTS ABOVE"⟩,
   ⟨0x640, "ARABIC ", "TATWEEL"⟩,
   ⟨0x641, "ARABIC LETTER ", "FEH,QAF,KAF,LAM,MEEM,NOON,HEH,WAW,ALEF MAKSURA,YEH"⟩,
   ⟨0x64B, "ARABIC ",
     "FATHATAN,DAMMATAN,KASRATAN,FATHA,DAMMA,KASRA,SHADDA,SUKUN,MADDAH ABOVE,HAMZA ABOVE,
      HAMZA BELOW,SUBSCRIPT ALEF,INVERTED DAMMA,MARK NOON GHUNNA,ZWARAKAY,VOWEL SIGN SMALL V ABOVE,
      VOWEL SIGN INVERTED SMALL V ABOVE,VOWEL SIGN DOT BELOW,REVERSED DAMMA,FATHA WITH TWO DOTS,
      WAVY HAMZA BELOW"⟩,
   ⟨0x660, "ARABIC-INDIC DIGIT ", "ZERO,ONE,TWO,THREE,FOUR,FIVE,SIX,SEVEN,EIGHT,NINE"⟩,
   ⟨0x66A, "ARABIC ", "PERCENT SIGN,DECIMAL SEPARATOR,THOUSANDS SEPARATOR,FIVE POINTED STAR"⟩,
   ⟨0x66E, "ARABIC LETTER ",
     "DOTLESS BEH,DOTLESS QAF,SUPERSCRIPT ALEF,ALEF WASLA,ALEF WITH WAVY HAMZA ABOVE,
      ALEF WITH WAVY HAMZA BELOW,HIGH HAMZA,HIGH HAMZA ALEF,HIGH HAMZA WAW,U WITH HAMZA ABOVE,
      HIGH HAMZA YEH,TTEH,TTEHEH,BEEH,TEH WITH RING,TEH WITH THREE DOTS ABOVE DOWNWARDS,PEH,TEHEH,
      BEHEH,HAH WITH HAMZA ABOVE,HAH WITH TWO DOTS VERTICAL ABOVE,NYEH,DYEH,
      HAH WITH THREE DOTS ABOVE,TCHEH,TCHEHEH,DDAL,DAL WITH RING,DAL WITH DOT BELOW,
      DAL WITH DOT BELOW AND SMALL TAH,DAHAL,DDAHAL,DUL,DAL WITH THREE DOTS ABOVE DOWNWARDS,
      DAL WITH FOUR DOTS ABOVE,RREH,REH WITH SMALL V,REH WITH RING,REH WITH DOT BELOW,
      REH WITH SMALL V BELOW,REH WITH DOT BELOW AND DOT ABOVE,REH WITH TWO DOTS ABOVE,JEH,
      REH WITH FOUR DOTS ABOVE,SEEN WITH DOT BELOW AND DOT ABOVE,SEEN WITH THREE DOTS BELOW,
      SEEN WITH THREE DOTS BELOW AND THREE DOTS ABOVE,SAD WITH TWO DOTS BELOW,
      SAD WITH THREE DOTS ABOVE,TAH WITH THREE DOTS ABOVE,AIN WITH THREE DOTS ABOVE,DOTLESS FEH,
      FEH WITH DOT MOVED BELOW,FEH WITH DOT BELOW,VEH,FEH WITH THREE DOTS BELOW,PEHEH,
      QAF WITH DOT ABOVE,QAF WITH THREE DOTS ABOVE,KEHEH,SWASH KAF,KAF WITH RING,
      KAF WITH DOT ABOVE,NG,KAF WITH THREE DOTS BELOW,GAF,GAF WITH RING,NGOEH,
      GAF WITH TWO DOTS BELOW,GUEH,GAF WITH THREE DOTS ABOVE,LAM WITH SMALL V,LAM WITH DOT ABOVE,
      LAM WITH THREE DOTS ABOVE,LAM WITH THREE DOTS BELOW,NOON WITH DOT BELOW,NOON GHUNNA,RNOON,
      NOON WITH RING,NOON WITH THREE DOTS ABOVE,HEH DOACHASHMEE,TCHEH WITH DOT ABOVE,
      HEH WITH YEH ABOVE,HEH GOAL,HEH GOAL WITH HAMZA ABOVE,TEH MARBUTA GOAL,WAW WITH RING,
      KIRGHIZ OE,OE,U,YU,KIRGHIZ YU,WAW WITH TWO DOTS ABOVE,VE,FARSI YEH,YEH WITH TAIL,
      YEH WITH SMALL V,WAW WITH DOT ABOVE,E,YEH WITH THREE DOTS BELOW,YEH BARREE,
      YEH BARREE WITH HAMZA ABOVE"⟩,
   ⟨0x6D4, "ARABIC ", "FULL STOP,LETTER AE"⟩,
   ⟨0x6D6, "ARABIC SMALL HIGH ",
     "LIGATURE SAD WITH LAM WITH ALEF MAKSURA,LIGATURE QAF WITH LAM WITH ALEF MAKSURA,
      MEEM INITIAL FORM,LAM ALEF,JEEM,THREE DOTS,SEEN"⟩,
   ⟨0x6DD, "ARABIC ",
     "END OF AYAH,START OF RUB EL HIZB,SMALL HIGH ROUNDED ZERO,SMALL HIGH UPRIGHT RECTANGULAR ZERO,
      SMALL HIGH DOTLESS HEAD OF KHAH,SMALL HIGH MEEM ISOLATED FORM,SMALL LOW SEEN,
      SMALL HIGH MADDA,SMALL WAW,SMALL YEH,SMALL HIGH YEH,SMALL HIGH NOON,PLACE OF SAJDAH,
      EMPTY CENTRE LOW STOP,EMPTY CENTRE HIGH STOP,ROUNDED HIGH STOP WITH FILLED CENTRE,
      SMALL LOW MEEM,LETTER DAL WITH INVERTED V,LETTER REH WITH INVERTED V"⟩,
   ⟨0x6F0, "EXTENDED ARABIC-INDIC DIGIT ", "ZERO,ONE,TWO,THREE,FOUR,FIVE,SIX,SEVEN,EIGHT,NINE"⟩,
   ⟨0x6FA, "ARABIC ",
     "LETTER SHEEN WITH DOT BELOW,LETTER DAD WITH DOT BELOW,LETTER GHAIN WITH DOT BELOW,
      SIGN SINDHI AMPERSAND,SIGN SINDHI POSTPOSITION MEN,LETTER HEH WITH INVERTED V"⟩,
   ⟨0x700, "SYRIAC ",
     "END OF PARAGRAPH,SUPRALINEAR FULL STOP,SUBLINEAR FULL STOP,SUPRALINEAR COLON,SUBLINEAR COLON,
      HORIZONTAL COLON,COLON SKEWED LEFT,COLON SKEWED RIGHT,SUPRALINEAR COLON SKEWED LEFT,
      SUBLINEAR COLON SKEWED RIGHT,CONTRACTION,HARKLEAN OBELUS,HARKLEAN METOBELUS,
      HARKLEAN ASTERISCUS,,ABBREVIATION MARK"⟩,
   ⟨0x710, "SYRIAC LETTER ",
     "ALAPH,SUPERSCRIPT ALAPH,BETH,GAMAL,GAMAL GARSHUNI,DALATH,DOTLESS DALATH RISH,HE,WAW,ZAIN,
      HETH,TETH,TETH GARSHUNI,YUDH,YUDH HE,KAPH,LAMADH,MIM,NUN,SEMKATH,FINAL SEMKATH,E,PE,
      REVERSED PE,SADHE,QAPH,RISH,SHIN,TAW,PERSIAN BHETH,PERSIAN GHAMAL,PERSIAN DHALATH"⟩,
   ⟨0x730, "SYRIAC ",
     "PTHAHA ABOVE,PTHAHA BELOW,PTHAHA DOTTED,ZQAPHA ABOVE,ZQAPHA BELOW,ZQAPHA DOTTED,RBASA ABOVE,
      RBASA BELOW,DOTTED ZLAMA HORIZONTAL,DOTTED ZLAMA ANGULAR,HBASA ABOVE,HBASA BELOW,
      HBASA-ESASA DOTTED,ESASA ABOVE,ESASA BELOW,RWAHA,FEMININE DOT,QUSHSHAYA,RUKKAKHA,
      TWO VERTICAL DOTS ABOVE,TWO VERTICAL DOTS BELOW,THREE DOTS ABOVE,THREE DOTS BELOW,
      OBLIQUE LINE ABOVE,OBLIQUE LINE BELOW,MUSIC,BARREKH"⟩,
   ⟨0x74D, "SYRIAC LETTER SOGDIAN ", "ZHAIN,KHAPH,FE"⟩,
   ⟨0x750, "ARABIC LETTER BEH WITH ",
     "THREE DOTS HORIZONTALLY BELOW,DOT BELOW AND THREE DOTS ABOVE,
      THREE DOTS POINTING UPWARDS BELOW,THREE DOTS POINTING UPWARDS BELOW AND TWO DOTS ABOVE,
      TWO DOTS BELOW AND DOT ABOVE,INVERTED SMALL V BELOW,SMALL V"⟩,
   ⟨0x757, "ARABIC LETTER ",
     "HAH WITH TWO DOTS ABOVE,HAH WITH THREE DOTS POINTING UPWARDS BELOW,
      DAL WITH TWO DOTS VERTICALLY BELOW AND SMALL TAH,DAL WITH INVERTED SMALL V BELOW,
      REH WITH STROKE,SEEN WITH FOUR DOTS ABOVE,AIN WITH TWO DOTS ABOVE,
      AIN WITH THREE DOTS POINTING DOWNWARDS ABOVE,AIN WITH TWO DOTS VERTICALLY ABOVE,
      FEH WITH TWO DOTS BELOW,FEH WITH THREE DOTS POINTING UPWARDS BELOW,KEHEH WITH DOT ABOVE,
      KEHEH WITH THREE DOTS ABOVE,KEHEH WITH THREE DOTS POINTING UPWARDS BELOW,MEEM WITH DOT ABOVE,
      MEEM WITH DOT BELOW,NOON WITH TWO DOTS BELOW,NOON WITH SMALL TAH,NOON WITH SMALL V,
      LAM WITH BAR,REH WITH TWO DOTS VERTICALLY ABOVE,REH WITH HAMZA ABOVE,
      SEEN WITH TWO DOTS VERTICALLY ABOVE,HAH WITH SMALL ARABIC LETTER TAH BELOW,
      HAH WITH SMALL ARABIC LETTER TAH AND TWO DOTS,SEEN WITH SMALL ARABIC LETTER TAH AND TWO DOTS,
      REH WITH SMALL ARABIC LETTER TAH AND TWO DOTS,HAH WITH SMALL ARABIC LETTER TAH ABOVE"⟩,
   ⟨0x773, "ARABIC LETTER ALEF WITH EXTENDED ARABIC-INDIC DIGIT ", "TWO ABOVE,THREE ABOVE"⟩,
   ⟨0x775, "ARABIC LETTER FARSI YEH WITH EXTENDED ARABIC-INDIC DIGIT ",
     "TWO ABOVE,THREE ABOVE,FOUR BELOW"⟩,
   ⟨0x778, "ARABIC LETTER WAW WITH EXTENDED ARABIC-INDIC DIGIT ", "TWO ABOVE,THREE ABOVE"⟩,
   ⟨0x77A, "ARABIC LETTER YEH BARREE WITH EXTENDED ARABIC-INDIC DIGIT ", "TWO ABOVE,THREE ABOVE"⟩,
   ⟨0x77C, "ARABIC LETTER ",
     "HAH WITH EXTENDED ARABIC-INDIC DIGIT FOUR BELOW,
      SEEN WITH EXTENDED ARABIC-INDIC DIGIT FOUR ABOVE,SEEN WITH INVERTED V,
      KAF WITH TWO DOTS ABOVE"⟩,
   ⟨0x780, "THAANA LETTER ",
     "HAA,SHAVIYANI,NOONU,RAA,BAA,LHAVIYANI,KAAFU,ALIFU,VAAVU,MEEMU,FAAFU,DHAALU,THAA,LAAMU,GAAFU,
      GNAVIYANI,SEENU,DAVIYANI,ZAVIYANI,TAVIYANI,YAA,PAVIYANI,JAVIYANI,CHAVIYANI,TTAA,HHAA,KHAA,
      THAALU,ZAA,SHEENU,SAADHU,DAADHU,TO,ZO,AINU,GHAINU,QAAFU,WAAVU"⟩,
   ⟨0x7A6, "THAANA ",
     "ABAFILI,AABAAFILI,IBIFILI,EEBEEFILI,UBUFILI,OOBOOFILI,EBEFILI,EYBEYFILI,OBOFILI,OABOAFILI,
      SUKUN,LETTER NAA"⟩,
   ⟨0x7C0, "NKO DIGIT ", "ZERO,ONE,TWO,THREE,FOUR,FIVE,SIX,SEVEN,EIGHT,NINE"⟩,
   ⟨0x7CA, "NKO LETTER ",
     "A,EE,I,E,U,OO,O,DAGBASINNA,N,BA,PA,TA,JA,CHA,DA,RA,RRA,SA,GBA,FA,KA,LA,NA WOLOSO,MA,NYA,NA,
      HA,WA,YA,NYA WOLOSO,JONA JA,JONA CHA,JONA RA"⟩,
   ⟨0x7EB, "NKO COMBINING ",
     "SHORT HIGH TONE,SHORT LOW TONE,SHORT RISING TONE,LONG DESCENDING TONE,LONG HIGH TONE,
      LONG LOW TONE,LONG RISING TONE,NASALIZATION MARK,DOUBLE DOT ABOVE"⟩,
   ⟨0x7F4, "NKO ",
     "HIGH TONE APOSTROPHE,LOW TONE APOSTROPHE,SYMBOL OO DENNEN,SYMBOL GBAKURUNEN,COMMA,
      EXCLAMATION MARK,LAJANYALAN,,,DANTAYALAN,DOROME SIGN,TAMAN SIGN"⟩,
   ⟨0x800, "SAMARITAN LETTER ",
     "ALAF,BIT,GAMAN,DALAT,IY,BAA,ZEN,IT,TIT,YUT,KAAF,LABAT,MIM,NUN,SINGAAT,IN,FI,TSAADIY,QUF,RISH,
      SHAN,TAAF"⟩,
   ⟨0x816, "SAMARITAN ",
     "MARK IN,MARK IN-ALAF,MARK OCCLUSION,MARK DAGESH,MODIFIER LETTER EPENTHETIC YUT,
      MARK EPENTHETIC YUT"⟩,
   ⟨0x81C, "SAMARITAN VOWEL SIGN ", "LONG E,E,OVERLONG AA,LONG AA,AA,OVERLONG A,LONG A,A"⟩,
   ⟨0x824, "SAMARITAN ",
     "MODIFIER LETTER SHORT A,VOWEL SIGN SHORT A,VOWEL SIGN LONG U,VOWEL SIGN U,MODIFIER LETTER I,
      VOWEL SIGN LONG I,VOWEL SIGN I,VOWEL SIGN O,VOWEL SIGN SUKUN,MARK NEQUDAA,,,
      PUNCTUATION NEQUDAA,PUNCTUATION AFSAAQ,PUNCTUATION ANGED,PUNCTUATION BAU,PUNCTUATION ATMAAU,
      PUNCTUATION SHIYYAALAA,ABBREVIATION MARK"⟩,
   ⟨0x837, "SAMARITAN PUNCTUATION ",
     "MELODIC QITSA,ZIQAA,QITSA,ZAEF,TURU,ARKAANU,SOF MASHFAAT,ANNAAU"⟩,
   ⟨0x840, "MANDAIC LETTER ",
     "HALQA,AB,AG,AD,AH,USHENNA,AZ,IT,ATT,AKSA,AK,AL,AM,AN,AS,IN,AP,ASZ,AQ,AR,ASH,AT,DUSHENNA,KAD,
      AIN"⟩,
   ⟨0x859, "MANDAIC ", "AFFRICATION MARK,VOCALIZATION MARK,GEMINATION MARK,,,PUNCTUATION"⟩,
   ⟨0x860, "SYRIAC LETTER MALAYALAM ", "NGA,JA,NYA,TTA,NNA,NNNA,BHA,RA,LLA,LLLA,SSA"⟩,
   ⟨0x870, "ARABIC LETTER ALEF WITH ",
     "ATTACHED FATHA,ATTACHED TOP RIGHT FATHA,RIGHT MIDDLE STROKE,LEFT MIDDLE STROKE,
      ATTACHED KASRA,ATTACHED BOTTOM RIGHT KASRA,ATTACHED ROUND DOT ABOVE,ATTACHED RIGHT ROUND DOT,
      ATTACHED LEFT ROUND DOT,ATTACHED ROUND DOT BELOW,DOT ABOVE,
      ATTACHED TOP RIGHT FATHA AND DOT ABOVE,RIGHT MIDDLE STROKE AND DOT ABOVE,
      ATTACHED BOTTOM RIGHT KASRA AND DOT ABOVE,ATTACHED TOP RIGHT FATHA AND LEFT RING,
      RIGHT MIDDLE STROKE AND LEFT RING,ATTACHED BOTTOM RIGHT KASRA AND LEFT RING,
      ATTACHED RIGHT HAMZA,ATTACHED LEFT HAMZA"⟩,
   ⟨0x883, "ARABIC ",
     "TATWEEL WITH OVERSTRUCK HAMZA,TATWEEL WITH OVERSTRUCK WAW,TATWEEL WITH TWO DOTS BELOW,
      LETTER THIN YEH,BASELINE ROUND DOT,RAISED ROUND DOT,LETTER NOON WITH INVERTED SMALL V,
      LETTER HAH WITH INVERTED SMALL V BELOW,LETTER TAH WITH DOT BELOW,
      LETTER TAH WITH THREE DOTS BELOW,LETTER KEHEH WITH TWO DOTS VERTICALLY BELOW,VERTICAL TAIL,,
      POUND MARK ABOVE,PIASTRE MARK ABOVE,,,,,,,SMALL HIGH WORD AL-JUZ,SMALL LOW WORD ISHMAAM,
      SMALL LOW WORD IMAALA,SMALL LOW WORD TASHEEL,MADDA WAAJIB,SUPERSCRIPT ALEF MOKHASSAS,
      DOUBLED MADDA,HALF MADDA OVER MADDA"⟩,
   ⟨0x8A0, "ARABIC LETTER ",
     "BEH WITH SMALL V BELOW,BEH WITH HAMZA ABOVE,JEEM WITH TWO DOTS ABOVE,TAH WITH TWO DOTS ABOVE,
      FEH WITH DOT BELOW AND THREE DOTS ABOVE,QAF WITH DOT BELOW,LAM WITH DOUBLE BAR,
      MEEM WITH THREE DOTS ABOVE,YEH WITH TWO DOTS BELOW AND HAMZA ABOVE,
      YEH WITH TWO DOTS BELOW AND DOT ABOVE,REH WITH LOOP,WAW WITH DOT WITHIN,ROHINGYA YEH,
      LOW ALEF,DAL WITH THREE DOTS BELOW,SAD WITH THREE DOTS BELOW,GAF WITH INVERTED STROKE,
      STRAIGHT WAW,ZAIN WITH INVERTED V ABOVE,AIN WITH THREE DOTS BELOW,KAF WITH DOT BELOW,
      QAF WITH DOT BELOW AND NO DOTS ABOVE,BEH WITH SMALL MEEM ABOVE,PEH WITH SMALL MEEM ABOVE,
      TEH WITH SMALL TEH ABOVE,REH WITH SMALL NOON ABOVE,
      YEH WITH TWO DOTS BELOW AND SMALL NOON ABOVE,AFRICAN FEH,AFRICAN QAF,AFRICAN NOON,
      PEH WITH SMALL V,TEH WITH SMALL V,TTEH WITH SMALL V,TCHEH WITH SMALL V,KEHEH WITH SMALL V,
      GHAIN WITH THREE DOTS ABOVE,AFRICAN QAF WITH THREE DOTS ABOVE,JEEM WITH THREE DOTS ABOVE,
      JEEM WITH THREE DOTS BELOW,LAM WITH SMALL ARABIC LETTER TAH ABOVE,GRAF"⟩,
   ⟨0x8C9, "ARABIC ",
     "SMALL FARSI YEH,SMALL HIGH FARSI YEH,SMALL HIGH YEH BARREE WITH TWO DOTS BELOW,
      SMALL HIGH WORD SAH,SMALL HIGH ZAH,LARGE ROUND DOT ABOVE,LARGE ROUND DOT BELOW,SUKUN BELOW,
      LARGE CIRCLE BELOW,LARGE ROUND DOT INSIDE CIRCLE BELOW"⟩,
   ⟨0x8D3, "ARABIC SMALL ",
     "LOW WAW,HIGH WORD AR-RUB,HIGH SAD,HIGH AIN,HIGH QAF,HIGH NOON WITH KASRA,
      LOW NOON WITH KASRA"⟩,
   ⟨0x8DA, "ARABIC SMALL HIGH WORD ", "ATH-THALATHA,AS-SAJDA,AN-NISF,SAKTA,QIF,WAQFA"⟩,
   ⟨0x8E0, "ARABIC ",
     "SMALL HIGH FOOTNOTE MARKER,SMALL HIGH SIGN SAFHA,DISPUTED END OF AYAH,TURNED DAMMA BELOW,
      CURLY FATHA,CURLY DAMMA,CURLY KASRA,CURLY FATHATAN,CURLY DAMMATAN,CURLY KASRATAN,
      TONE ONE DOT ABOVE,TONE TWO DOTS ABOVE,TONE LOOP ABOVE,TONE ONE DOT BELOW,
      TONE TWO DOTS BELOW,TONE LOOP BELOW,OPEN FATHATAN,OPEN DAMMATAN,OPEN KASRATAN,SMALL HIGH WAW,
      FATHA WITH RING,FATHA WITH DOT ABOVE,KASRA WITH DOT BELOW,LEFT ARROWHEAD ABOVE,
      RIGHT ARROWHEAD ABOVE,LEFT ARROWHEAD BELOW,RIGHT ARROWHEAD BELOW,
      DOUBLE RIGHT ARROWHEAD ABOVE,DOUBLE RIGHT ARROWHEAD ABOVE WITH DOT,
      RIGHT ARROWHEAD ABOVE WITH DOT,DAMMA WITH DOT,MARK SIDEWAYS NOON GHUNNA"⟩,
   ⟨0x900, "DEVANAGARI SIGN ", "INVERTED CANDRABINDU,CANDRABINDU,ANUSVARA,VISARGA"⟩,
   ⟨0x904, "DEVANAGARI LETTER ",
     "SHORT A,A,AA,I,II,U,UU,VOCALIC R,VOCALIC L,CANDRA E,SHORT E,E,AI,CANDRA O,SHORT O,O,AU,KA,
      KHA,GA,GHA,NGA,CA,CHA,JA,JHA,NYA,TTA,TTHA,DDA,DDHA,NNA,TA,THA,DA,DHA,NA,NNNA,PA,PHA,BA,BHA,
      MA,YA,RA,RRA,LA,LLA,LLLA,VA,SHA,SSA,SA,HA"⟩,
   ⟨0x93A, "DEVANAGARI ", "VOWEL SIGN OE,VOWEL SIGN OOE,SIGN NUKTA,SIGN AVAGRAHA"⟩,
   ⟨0x93E, "DEVANAGARI VOWEL SIGN ",
     "AA,I,II,U,UU,VOCALIC R,VOCALIC RR,CANDRA E,SHORT E,E,AI,CANDRA O,SHORT O,O,AU"⟩,
   ⟨0x94D, "DEVANAGARI ",
     "SIGN VIRAMA,VOWEL SIGN PRISHTHAMATRA E,VOWEL SIGN AW,OM,STRESS SIGN UDATTA,
      STRESS SIGN ANUDATTA,GRAVE ACCENT,ACUTE ACCENT,VOWEL SIGN CANDRA LONG E,VOWEL SIGN UE,
      VOWEL SIGN UUE,LETTER QA,LETTER KHHA,LETTER GHHA,LETTER ZA,LETTER DDDHA,LETTER RHA,LETTER FA,
      LETTER YYA,LETTER VOCALIC RR,LETTER VOCALIC LL,VOWEL SIGN VOCALIC L,VOWEL SIGN VOCALIC LL,
      DANDA,DOUBLE DANDA,DIGIT ZERO,DIGIT ONE,DIGIT TWO,DIGIT THREE,DIGIT FOUR,DIGIT FIVE,
      DIGIT SIX,DIGIT SEVEN,DIGIT EIGHT,DIGIT NINE,ABBREVIATION SIGN,SIGN HIGH SPACING DOT"⟩,
   ⟨0x972, "DEVANAGARI LETTER ",
     "CANDRA A,OE,OOE,AW,UE,UUE,MARWARI DDA,ZHA,HEAVY YA,GGA,JJA,GLOTTAL STOP,DDDA,BBA"⟩,
   ⟨0x980, "BENGALI ", "ANJI,SIGN CANDRABINDU,SIGN ANUSVARA,SIGN VISARGA"⟩,
   ⟨0x985, "BENGALI LETTER ",
     "A,AA,I,II,U,UU,VOCALIC R,VOCALIC L,,,E,AI,,,O,AU,KA,KHA,GA,GHA,NGA,CA,CHA,JA,JHA,NYA,TTA,
      TTHA,DDA,DDHA,NNA,TA,THA,DA,DHA,NA,,PA,PHA,BA,BHA,MA,YA,RA,,LA,,,,SHA,SSA,SA,HA"⟩,
   ⟨0x9BC, "BENGALI SIGN ", "NUKTA,AVAGRAHA"⟩,
   ⟨0x9BE, "BENGALI VOWEL SIGN ", "AA,I,II,U,UU,VOCALIC R,VOCALIC RR,,,E,AI,,,O,AU"⟩,
   ⟨0x9CD, "BENGALI ",
     "SIGN VIRAMA,LETTER KHANDA TA,,,,,,,,,AU LENGTH MARK,,,,,LETTER RRA,LETTER RHA,,LETTER YYA,
      LETTER VOCALIC RR,LETTER VOCALIC LL,VOWEL SIGN VOCALIC L,VOWEL SIGN VOCALIC LL,,,DIGIT ZERO,
      DIGIT ONE,DIGIT TWO,DIGIT THREE,DIGIT FOUR,DIGIT FIVE,DIGIT SIX,DIGIT SEVEN,DIGIT EIGHT,
      DIGIT NINE,LETTER RA WITH MIDDLE DIAGONAL,LETTER RA WITH LOWER DIAGONAL,RUPEE MARK,
      RUPEE SIGN"⟩,
   ⟨0x9F4, "BENGALI CURRENCY NUMERATOR ", "ONE,TWO,THREE,FOUR,ONE LESS THAN THE DENOMINATOR"⟩,
   ⟨0x9F9, "BENGALI ",
     "CURRENCY DENOMINATOR SIXTEEN,ISSHAR,GANDA MARK,LETTER VEDIC ANUSVARA,ABBREVIATION SIGN,
      SANDHI MARK"⟩,
   ⟨0xA01, "GURMUKHI SIGN ", "ADAK BINDI,BINDI,VISARGA"⟩,
   ⟨0xA05, "GURMUKHI LETTER ",
     "A,AA,I,II,U,UU,,,,,EE,AI,,,OO,AU,KA,KHA,GA,GHA,NGA,CA,CHA,JA,JHA,NYA,TTA,TTHA,DDA,DDHA,NNA,
      TA,THA,DA,DHA,NA,,PA,PHA,BA,BHA,MA,YA,RA,,LA,LLA,,VA,SHA,,SA,HA"⟩,
   ⟨0xA3C, "GURMUKHI SIGN ", "NUKTA"⟩,
   ⟨0xA3E, "GURMUKHI VOWEL SIGN ", "AA,I,II,U,UU,,,,,EE,AI,,,OO,AU"⟩,
   ⟨0xA4D, "GURMUKHI SIGN ", "VIRAMA,,,,UDAAT"⟩,
   ⟨0xA59, "GURMUKHI LETTER ", "KHHA,GHHA,ZA,RRA,,FA"⟩,
   ⟨0xA66, "GURMUKHI DIGIT ", "ZERO,ONE,TWO,THREE,FOUR,FIVE,SIX,SEVEN,EIGHT,NINE"⟩,
   ⟨0xA70, "GURMUKHI ", "TIPPI,ADDAK,IRI,URA,EK ONKAR,SIGN YAKASH,ABBREVIATION SIGN"⟩,
   ⟨0xA81, "GUJARATI ",
     "SIGN CANDRABINDU,SIGN ANUSVARA,SIGN VISARGA,,LETTER A,LETTER AA,LETTER I,LETTER II,LETTER U,
      LETTER UU,LETTER VOCALIC R,LETTER VOCALIC L,VOWEL CANDRA E,,LETTER E,LETTER AI,
      VOWEL CANDRA O"⟩,
   ⟨0xA93, "GUJARATI LETTER ",
     "O,AU,KA,KHA,GA,GHA,NGA,CA,CHA,JA,JHA,NYA,TTA,TTHA,DDA,DDHA,NNA,TA,THA,DA,DHA,NA,,PA,PHA,BA,
      BHA,MA,YA,RA,,LA,LLA,,VA,SHA,SSA,SA,HA"⟩,
   ⟨0xABC, "GUJARATI SIGN ", "NUKTA,AVAGRAHA"⟩,
   ⟨0xABE, "GUJARATI VOWEL SIGN ",
     "AA,I,II,U,UU,VOCALIC R,VOCALIC RR,CANDRA E,,E,AI,CANDRA O,,O,AU"⟩,
   ⟨0xACD, "GUJARATI ", "SIGN VIRAMA,,,OM"⟩,
   ⟨0xAE0, "GUJARATI ",
     "LETTER VOCALIC RR,LETTER VOCALIC LL,VOWEL SIGN VOCALIC L,VOWEL SIGN VOCALIC LL,,,DIGIT ZERO,
      DIGIT ONE,DIGIT TWO,DIGIT THREE,DIGIT FOUR,DIGIT FIVE,DIGIT SIX,DIGIT SEVEN,DIGIT EIGHT,
      DIGIT NINE,ABBREVIATION SIGN,RUPEE SIGN,,,,,,,,LETTER ZHA,SIGN SUKUN,SIGN SHADDA,SIGN MADDAH,
      SIGN THREE-DOT NUKTA ABOVE,SIGN CIRCLE NUKTA ABOVE,SIGN TWO-CIRCLE NUKTA ABOVE"⟩,
   ⟨0xB01, "ORIYA SIGN ", "CANDRABINDU,ANUSVARA,VISARGA"⟩,
   ⟨0xB05, "ORIYA LETTER ",
     "A,AA,I,II,U,UU,VOCALIC R,VOCALIC L,,,E,AI,,,O,AU,KA,KHA,GA,GHA,NGA,CA,CHA,JA,JHA,NYA,TTA,
      TTHA,DDA,DDHA,NNA,TA,THA,DA,DHA,NA,,PA,PHA,BA,BHA,MA,YA,RA,,LA,LLA,,VA,SHA,SSA,SA,HA"⟩,
   ⟨0xB3C, "ORIYA SIGN ", "NUKTA,AVAGRAHA"⟩,
   ⟨0xB3E, "ORIYA VOWEL SIGN ", "AA,I,II,U,UU,VOCALIC R,VOCALIC RR,,,E,AI,,,O,AU"⟩,
   ⟨0xB4D, "ORIYA ",
     "SIGN VIRAMA,,,,,,,,SIGN OVERLINE,AI LENGTH MARK,AU LENGTH MARK,,,,,LETTER RRA,LETTER RHA,,
      LETTER YYA,LETTER VOCALIC RR,LETTER VOCALIC LL,VOWEL SIGN VOCALIC L,VOWEL SIGN VOCALIC LL,,,
      DIGIT ZERO,DIGIT ONE,DIGIT TWO,DIGIT THREE,DIGIT FOUR,DIGIT FIVE,DIGIT SIX,DIGIT SEVEN,
      DIGIT EIGHT,DIGIT NINE,ISSHAR,LETTER WA"⟩,
   ⟨0xB72, "ORIYA FRACTION ",
     "ONE QUARTER,ONE HALF,THREE QUARTERS,ONE SIXTEENTH,ONE EIGHTH,THREE SIXTEENTHS"⟩,
   ⟨0xB82, "TAMIL SIGN ", "ANUSVARA,VISARGA"⟩,
   ⟨0xB85, "TAMIL LETTER ",
     "A,AA,I,II,U,UU,,,,E,EE,AI,,O,OO,AU,KA,,,,NGA,CA,,JA,,NYA,TTA,,,,NNA,TA,,,,NA,NNNA,PA,,,,MA,
      YA,RA,RRA,LA,LLA,LLLA,VA,SHA,SSA,SA,HA"⟩,
   ⟨0xBBE, "TAMIL VOWEL SIGN ", "AA,I,II,U,UU,,,,E,EE,AI,,O,OO,AU"⟩,
   ⟨0xBCD, "TAMIL ", "SIGN VIRAMA,,,OM,,,,,,,AU LENGTH MARK"⟩,
   ⟨0xBE6, "TAMIL DIGIT ", "ZERO,ONE,TWO,THREE,FOUR,FIVE,SIX,SEVEN,EIGHT,NINE"⟩,
   ⟨0xBF0, "TAMIL ",
     "NUMBER TEN,NUMBER ONE HUNDRED,NUMBER ONE THOUSAND,DAY SIGN,MONTH SIGN,YEAR SIGN,DEBIT SIGN,
      CREDIT SIGN,AS ABOVE SIGN,RUPEE SIGN,NUMBER SIGN"⟩,
   ⟨0xC00, "TELUGU SIGN ",
     "COMBINING CANDRABINDU ABOVE,CANDRABINDU,ANUSVARA,VISARGA,COMBINING ANUSVARA ABOVE"⟩,
   ⟨0xC05, "TELUGU LETTER ",
     "A,AA,I,II,U,UU,VOCALIC R,VOCALIC L,,E,EE,AI,,O,OO,AU,KA,KHA,GA,GHA,NGA,CA,CHA,JA,JHA,NYA,TTA,
      TTHA,DDA,DDHA,NNA,TA,THA,DA,DHA,NA,,PA,PHA,BA,BHA,MA,YA,RA,RRA,LA,LLA,LLLA,VA,SHA,SSA,SA,HA"⟩,
   ⟨0xC3C, "TELUGU SIGN ", "NUKTA,AVAGRAHA"⟩,
   ⟨0xC3E, "TELUGU VOWEL SIGN ", "AA,I,II,U,UU,VOCALIC R,VOCALIC RR,,E,EE,AI,,O,OO,AU"⟩,
   ⟨0xC4D, "TELUGU ",
     "SIGN VIRAMA,,,,,,,,LENGTH MARK,AI LENGTH MARK,,LETTER TSA,LETTER DZA,LETTER RRRA,,,
      LETTER NAKAARA POLLU,,,LETTER VOCALIC RR,LETTER VOCALIC LL,VOWEL SIGN VOCALIC L,
      VOWEL SIGN VOCALIC LL"⟩,
   ⟨0xC66, "TELUGU DIGIT ", "ZERO,ONE,TWO,THREE,FOUR,FIVE,SIX,SEVEN,EIGHT,NINE"⟩,
   ⟨0xC77, "TELUGU SIGN ", "SIDDHAM"⟩,
   ⟨0xC78, "TELUGU FRACTION DIGIT ",
     "ZERO FOR ODD POWERS OF FOUR,ONE FOR ODD POWERS OF FOUR,TWO FOR ODD POWERS OF FOUR,
      THREE FOR ODD POWERS OF FOUR,ONE FOR EVEN POWERS OF FOUR,TWO FOR EVEN POWERS OF FOUR,
      THREE FOR EVEN POWERS OF FOUR"⟩,
   ⟨0xC7F, "TELUGU SIGN ", "TUUMU"⟩,
   ⟨0xC80, "KANNADA SIGN ", "SPACING CANDRABINDU,CANDRABINDU,ANUSVARA,VISARGA,SIDDHAM"⟩,
   ⟨0xC85, "KANNADA LETTER ",
     "A,AA,I,II,U,UU,VOCALIC R,VOCALIC L,,E,EE,AI,,O,OO,AU,KA,KHA,GA,GHA,NGA,CA,CHA,JA,JHA,NYA,TTA,
      TTHA,DDA,DDHA,NNA,TA,THA,DA,DHA,NA,,PA,PHA,BA,BHA,MA,YA,RA,RRA,LA,LLA,,VA,SHA,SSA,SA,HA"⟩,
   ⟨0xCBC, "KANNADA SIGN ", "NUKTA,AVAGRAHA"⟩,
   ⟨0xCBE, "KANNADA VOWEL SIGN ", "AA,I,II,U,UU,VOCALIC R,VOCALIC RR,,E,EE,AI,,O,OO,AU"⟩,
   ⟨0xCCD, "KANNADA ",
     "SIGN VIRAMA,,,,,,,,LENGTH MARK,AI LENGTH MARK,,,,,,,LETTER NAKAARA POLLU,LETTER FA,,
      LETTER VOCALIC RR,LETTER VOCALIC LL,VOWEL SIGN VOCALIC L,VOWEL SIGN VOCALIC LL"⟩,
   ⟨0xCE6, "KANNADA DIGIT ", "ZERO,ONE,TWO,THREE,FOUR,FIVE,SIX,SEVEN,EIGHT,NINE"⟩,
   ⟨0xCF1, "KANNADA SIGN ", "JIHVAMULIYA,UPADHMANIYA"⟩,
   ⟨0xD00, "MALAYALAM SIGN ", "COMBINING ANUSVARA ABOVE,CANDRABINDU,ANUSVARA,VISARGA"⟩,
   ⟨0xD04, "MALAYALAM LETTER ",
     "VEDIC ANUSVARA,A,AA,I,II,U,UU,VOCALIC R,VOCALIC L,,E,EE,AI,,O,OO,AU,KA,KHA,GA,GHA,NGA,CA,CHA,
      JA,JHA,NYA,TTA,TTHA,DDA,DDHA,NNA,TA,THA,DA,DHA,NA,NNNA,PA,PHA,BA,BHA,MA,YA,RA,RRA,LA,LLA,
      LLLA,VA,SHA,SSA,SA,HA,TTTA"⟩,
   ⟨0xD3B, "MALAYALAM SIGN ", "VERTICAL BAR VIRAMA,CIRCULAR VIRAMA,AVAGRAHA"⟩,
   ⟨0xD3E, "MALAYALAM VOWEL SIGN ", "AA,I,II,U,UU,VOCALIC R,VOCALIC RR,,E,EE,AI,,O,OO,AU"⟩,
   ⟨0xD4D, "MALAYALAM ",
     "SIGN VIRAMA,LETTER DOT REPH,SIGN PARA,,,,,LETTER CHILLU M,LETTER CHILLU Y,LETTER CHILLU LLL,
      AU LENGTH MARK,FRACTION ONE ONE-HUNDRED-AND-SIXTIETH,FRACTION ONE FORTIETH,
      FRACTION THREE EIGHTIETHS,FRACTION ONE TWENTIETH,FRACTION ONE TENTH,
      FRACTION THREE TWENTIETHS,FRACTION ONE FIFTH,LETTER ARCHAIC II,LETTER VOCALIC RR,
      LETTER VOCALIC LL,VOWEL SIGN VOCALIC L,VOWEL SIGN VOCALIC LL,,,DIGIT ZERO,DIGIT ONE,
      DIGIT TWO,DIGIT THREE,DIGIT FOUR,DIGIT FIVE,DIGIT SIX,DIGIT SEVEN,DIGIT EIGHT,DIGIT NINE,
      NUMBER TEN,NUMBER ONE HUNDRED,NUMBER ONE THOUSAND,FRACTION ONE QUARTER,FRACTION ONE HALF,
      FRACTION THREE QUARTERS,FRACTION ONE SIXTEENTH,FRACTION ONE EIGHTH,FRACTION THREE SIXTEENTHS,
      DATE MARK"⟩,
   ⟨0xD7A, "MALAYALAM LETTER CHILLU ", "NN,N,RR,L,LL,K"⟩,
   ⟨0xD81, "SINHALA SIGN ", "CANDRABINDU,ANUSVARAYA,VISARGAYA"⟩,
   ⟨0xD85, "SINHALA LETTER ",
     "AYANNA,AAYANNA,AEYANNA,AEEYANNA,IYANNA,IIYANNA,UYANNA,UUYANNA,IRUYANNA,IRUUYANNA,ILUYANNA,
      ILUUYANNA,EYANNA,EEYANNA,AIYANNA,OYANNA,OOYANNA,AUYANNA,,,,ALPAPRAANA KAYANNA,
      MAHAAPRAANA KAYANNA,ALPAPRAANA GAYANNA,MAHAAPRAANA GAYANNA,KANTAJA NAASIKYAYA,
      SANYAKA GAYANNA,ALPAPRAANA CAYANNA,MAHAAPRAANA CAYANNA,ALPAPRAANA JAYANNA,
      MAHAAPRAANA JAYANNA,TAALUJA NAASIKYAYA,TAALUJA SANYOOGA NAAKSIKYAYA,SANYAKA JAYANNA,
      ALPAPRAANA TTAYANNA,MAHAAPRAANA TTAYANNA,ALPAPRAANA DDAYANNA,MAHAAPRAANA DDAYANNA,
      MUURDHAJA NAYANNA,SANYAKA DDAYANNA,ALPAPRAANA TAYANNA,MAHAAPRAANA TAYANNA,ALPAPRAANA DAYANNA,
      MAHAAPRAANA DAYANNA,DANTAJA NAYANNA,,SANYAKA DAYANNA,ALPAPRAANA PAYANNA,MAHAAPRAANA PAYANNA,
      ALPAPRAANA BAYANNA,MAHAAPRAANA BAYANNA,MAYANNA,AMBA BAYANNA,YAYANNA,RAYANNA,,DANTAJA LAYANNA,,,
      VAYANNA,TAALUJA SAYANNA,MUURDHAJA SAYANNA,DANTAJA SAYANNA,HAYANNA,MUURDHAJA LAYANNA,FAYANNA"⟩,
   ⟨0xDCA, "SINHALA SIGN AL-", "LAKUNA"⟩,
   ⟨0xDCF, "SINHALA VOWEL SIGN ",
     "AELA-PILLA,KETTI AEDA-PILLA,DIGA AEDA-PILLA,KETTI IS-PILLA,DIGA IS-PILLA,KETTI PAA-PILLA,,
      DIGA PAA-PILLA,,GAETTA-PILLA,KOMBUVA,DIGA KOMBUVA,KOMBU DEKA,KOMBUVA HAA AELA-PILLA,
      KOMBUVA HAA DIGA AELA-PILLA,KOMBUVA HAA GAYANUKITTA,GAYANUKITTA"⟩,
   ⟨0xDE6, "SINHALA LITH DIGIT ", "ZERO,ONE,TWO,THREE,FOUR,FIVE,SIX,SEVEN,EIGHT,NINE"⟩,
   ⟨0xDF2, "SINHALA ",
     "VOWEL SIGN DIGA GAETTA-PILLA,VOWEL SIGN DIGA GAYANUKITTA,PUNCTUATION KUNDDALIYA"⟩,
   ⟨0xE01, "THAI CHARACTER ",
     "KO KAI,KHO KHAI,KHO KHUAT,KHO KHWAI,KHO KHON,KHO RAKHANG,NGO NGU,CHO CHAN,CHO CHING,
      CHO CHANG,SO SO,CHO CHOE,YO YING,DO CHADA,TO PATAK,THO THAN,THO NANGMONTHO,THO PHUTHAO,
      NO NEN,DO DEK,TO TAO,THO THUNG,THO THAHAN,THO THONG,NO NU,BO BAIMAI,PO PLA,PHO PHUNG,FO FA,
      PHO PHAN,FO FAN,PHO SAMPHAO,MO MA,YO YAK,RO RUA,RU,LO LING,LU,WO WAEN,SO SALA,SO RUSI,SO SUA,
      HO HIP,LO CHULA,O ANG,HO NOKHUK,PAIYANNOI,SARA A,MAI HAN-AKAT,SARA AA,SARA AM,SARA I,SARA II,
      SARA UE,SARA UEE,SARA U,SARA UU,PHINTHU"⟩,
   ⟨0xE3F, "THAI CURRENCY SYMBOL ", "BAHT"⟩,
   ⟨0xE40, "THAI CHARACTER ",
     "SARA E,SARA AE,SARA O,SARA AI MAIMUAN,SARA AI MAIMALAI,LAKKHANGYAO,MAIYAMOK,MAITAIKHU,MAI EK,
      MAI THO,MAI TRI,MAI CHATTAWA,THANTHAKHAT,NIKHAHIT,YAMAKKAN,FONGMAN"⟩,
   ⟨0xE50, "THAI DIGIT ", "ZERO,ONE,TWO,THREE,FOUR,FIVE,SIX,SEVEN,EIGHT,NINE"⟩,
   ⟨0xE5A, "THAI CHARACTER ", "ANGKHANKHU,KHOMUT"⟩,
   ⟨0xE81, "LAO LETTER ",
     "KO,KHO SUNG,,KHO TAM,,PALI GHA,NGO,CO,PALI CHA,SO TAM,,PALI JHA,NYO,PALI NYA,PALI TTA,
      PALI TTHA,PALI DDA,PALI DDHA,PALI NNA,DO,TO,THO SUNG,THO TAM,PALI DHA,NO,BO,PO,PHO SUNG,
      FO TAM,PHO TAM,FO SUNG,PALI BHA,MO,YO,LO LING,,LO LOOT,,WO,SANSKRIT SHA,SANSKRIT SSA,SO SUNG,
      HO SUNG,PALI LLA,O,HO TAM"⟩,
   ⟨0xEAF, "LAO ", "ELLIPSIS"⟩,
   ⟨0xEB0, "LAO VOWEL SIGN ", "A,MAI KAN,AA,AM,I,II,Y,YY,U,UU"⟩,
   ⟨0xEBA, "LAO ",
     "SIGN PALI VIRAMA,VOWEL SIGN MAI KON,SEMIVOWEL SIGN LO,SEMIVOWEL SIGN NYO,,,VOWEL SIGN E,
      VOWEL SIGN EI,VOWEL SIGN O,VOWEL SIGN AY,VOWEL SIGN AI,,KO LA,,TONE MAI EK,TONE MAI THO,
      TONE MAI TI,TONE MAI CATAWA,CANCELLATION MARK,NIGGAHITA"⟩,
   ⟨0xED0, "LAO DIGIT ", "ZERO,ONE,TWO,THREE,FOUR,FIVE,SIX,SEVEN,EIGHT,NINE"⟩,
   ⟨0xEDC, "LAO ", "HO NO,HO MO,LETTER KHMU GO,LETTER KHMU NYO"⟩,
   ⟨0xF00, "TIBETAN SYLLABLE ", "OM"⟩,
   ⟨0xF01, "TIBETAN MARK ",
     "GTER YIG MGO TRUNCATED A,GTER YIG MGO -UM RNAM BCAD MA,GTER YIG MGO -UM GTER TSHEG MA,
      INITIAL YIG MGO MDUN MA,CLOSING YIG MGO SGAB MA,CARET YIG MGO PHUR SHAD MA,
      YIG MGO TSHEG SHAD MA,SBRUL SHAD,BSKUR YIG MGO,BKA- SHOG YIG MGO,INTERSYLLABIC TSHEG,
      DELIMITER TSHEG BSTAR,SHAD,NYIS SHAD,TSHEG SHAD,NYIS TSHEG SHAD,RIN CHEN SPUNGS SHAD,
      RGYA GRAM SHAD,CARET -DZUD RTAGS ME LONG CAN,GTER TSHEG"⟩,
   ⟨0xF15, "TIBETAN LOGOTYPE SIGN ", "CHAD RTAGS,LHAG RTAGS"⟩,
   ⟨0xF17, "TIBETAN ASTROLOGICAL SIGN ", "SGRA GCAN -CHAR RTAGS,-KHYUD PA,SDONG TSHUGS"⟩,
   ⟨0xF1A, "TIBETAN SIGN RDEL ",
     "DKAR GCIG,DKAR GNYIS,DKAR GSUM,NAG GCIG,NAG GNYIS,DKAR RDEL NAG"⟩,
   ⟨0xF20, "TIBETAN DIGIT ", "ZERO,ONE,TWO,THREE,FOUR,FIVE,SIX,SEVEN,EIGHT,NINE"⟩,
   ⟨0xF2A, "TIBETAN DIGIT HALF ", "ONE,TWO,THREE,FOUR,FIVE,SIX,SEVEN,EIGHT,NINE,ZERO"⟩,
   ⟨0xF34, "TIBETAN MARK ",
     "BSDUS RTAGS,NGAS BZUNG NYI ZLA,CARET -DZUD RTAGS BZHI MIG CAN,NGAS BZUNG SGOR RTAGS,CHE MGO,
      TSA -PHRU,GUG RTAGS GYON,GUG RTAGS GYAS,ANG KHANG GYON,ANG KHANG GYAS"⟩,
   ⟨0xF3E, "TIBETAN SIGN ", "YAR TSHES,MAR TSHES"⟩,
   ⟨0xF40, "TIBETAN LETTER ",
     "KA,KHA,GA,GHA,NGA,CA,CHA,JA,,NYA,TTA,TTHA,DDA,DDHA,NNA,TA,THA,DA,DHA,NA,PA,PHA,BA,BHA,MA,TSA,
      TSHA,DZA,DZHA,WA,ZHA,ZA,-A,YA,RA,LA,SHA,SSA,SA,HA,A,KSSA,FIXED-FORM RA,KKA,RRA"⟩,
   ⟨0xF71, "TIBETAN VOWEL SIGN ",
     "AA,I,II,U,UU,VOCALIC R,VOCALIC RR,VOCALIC L,VOCALIC LL,E,EE,O,OO"⟩,
   ⟨0xF7E, "TIBETAN ",
     "SIGN RJES SU NGA RO,SIGN RNAM BCAD,VOWEL SIGN REVERSED I,VOWEL SIGN REVERSED II,
      SIGN NYI ZLA NAA DA,SIGN SNA LDAN,MARK HALANTA,MARK PALUTA,SIGN LCI RTAGS,SIGN YANG RTAGS,
      SIGN LCE TSA CAN,SIGN MCHU CAN,SIGN GRU CAN RGYINGS,SIGN GRU MED RGYINGS,
      SIGN INVERTED MCHU CAN,SUBJOINED SIGN LCE TSA CAN,SUBJOINED SIGN MCHU CAN,
      SUBJOINED SIGN INVERTED MCHU CAN"⟩,
   ⟨0xF90, "TIBETAN SUBJOINED LETTER ",
     "KA,KHA,GA,GHA,NGA,CA,CHA,JA,,NYA,TTA,TTHA,DDA,DDHA,NNA,TA,THA,DA,DHA,NA,PA,PHA,BA,BHA,MA,TSA,
      TSHA,DZA,DZHA,WA,ZHA,ZA,-A,YA,RA,LA,SHA,SSA,SA,HA,A,KSSA,FIXED-FORM WA,FIXED-FORM YA,
      FIXED-FORM RA"⟩,
   ⟨0xFBE, "TIBETAN KU RU ", "KHA,KHA BZHI MIG CAN"⟩,
   ⟨0xFC0, "TIBETAN CANTILLATION SIGN ", "HEAVY BEAT,LIGHT BEAT,CANG TE-U,SBUB -CHAL"⟩,
   ⟨0xFC4, "TIBETAN SYMBOL ",
     "DRIL BU,RDO RJE,PADMA GDAN,RDO RJE RGYA GRAM,PHUR PA,NOR BU,NOR BU NYIS -KHYIL,
      NOR BU GSUM -KHYIL,NOR BU BZHI -KHYIL"⟩,
   ⟨0xFCE, "TIBETAN SIGN RDEL NAG ", "RDEL DKAR,GSUM"⟩,
   ⟨0xFD0, "TIBETAN MARK ",
     "BSKA- SHOG GI MGO RGYAN,MNYAM YIG GI MGO RGYAN,NYIS TSHEG,
      INITIAL BRDA RNYING YIG MGO MDUN MA,CLOSING BRDA RNYING YIG MGO SGAB MA"⟩,
   ⟨0xFD5, "",
     "RIGHT-FACING SVASTI SIGN,LEFT-FACING SVASTI SIGN,RIGHT-FACING SVASTI SIGN WITH DOTS,
      LEFT-FACING SVASTI SIGN WITH DOTS,TIBETAN MARK LEADING MCHAN RTAGS,
      TIBETAN MARK TRAILING MCHAN RTAGS"⟩,
   ⟨0x1000, "MYANMAR LETTER ",
     "KA,KHA,GA,GHA,NGA,CA,CHA,JA,JHA,NYA,NNYA,TTA,TTHA,DDA,DDHA,NNA,TA,THA,DA,DHA,NA,PA,PHA,BA,
      BHA,MA,YA,RA,LA,WA,SA,HA,LLA,A,SHAN A,I,II,U,UU,E,MON E,O,AU"⟩,
   ⟨0x102B, "MYANMAR VOWEL SIGN ", "TALL AA,AA,I,II,U,UU,E,AI,MON II,MON O,E ABOVE"⟩,
   ⟨0x1036, "MYANMAR SIGN ", "ANUSVARA,DOT BELOW,VISARGA,VIRAMA,ASAT"⟩,
   ⟨0x103B, "MYANMAR CONSONANT SIGN MEDIAL ", "YA,RA,WA,HA"⟩,
   ⟨0x103F, "MYANMAR ",
     "LETTER GREAT SA,DIGIT ZERO,DIGIT ONE,DIGIT TWO,DIGIT THREE,DIGIT FOUR,DIGIT FIVE,DIGIT SIX,
      DIGIT SEVEN,DIGIT EIGHT,DIGIT NINE,SIGN LITTLE SECTION,SIGN SECTION,SYMBOL LOCATIVE,
      SYMBOL COMPLETED,SYMBOL AFOREMENTIONED,SYMBOL GENITIVE,LETTER SHA,LETTER SSA"⟩,
   ⟨0x1052, "MYANMAR LETTER VOCALIC ", "R,RR,L,LL"⟩,
   ⟨0x1056, "MYANMAR VOWEL SIGN VOCALIC ", "R,RR,L,LL"⟩,
   ⟨0x105A, "MYANMAR LETTER MON ", "NGA,JHA,BBA,BBE"⟩,
   ⟨0x105E, "MYANMAR CONSONANT SIGN MON MEDIAL ", "NA,MA,LA"⟩,
   ⟨0x1061, "MYANMAR ",
     "LETTER SGAW KAREN SHA,VOWEL SIGN SGAW KAREN EU,TONE MARK SGAW KAREN HATHI,
      TONE MARK SGAW KAREN KE PHO,LETTER WESTERN PWO KAREN THA,LETTER WESTERN PWO KAREN PWA,
      VOWEL SIGN WESTERN PWO KAREN EU,VOWEL SIGN WESTERN PWO KAREN UE"⟩,
   ⟨0x1069, "MYANMAR SIGN WESTERN PWO KAREN TONE-", "1,2,3,4,5"⟩,
   ⟨0x106E, "MYANMAR LETTER EASTERN PWO KAREN ", "NNA,YWA,GHWA"⟩,
   ⟨0x1071, "MYANMAR VOWEL SIGN ", "GEBA KAREN I,KAYAH OE,KAYAH U,KAYAH EE"⟩,
   ⟨0x1075, "MYANMAR LETTER SHAN ", "KA,KHA,GA,CA,ZA,NYA,DA,NA,PHA,FA,BA,THA,HA"⟩,
   ⟨0x1082, "MYANMAR CONSONANT SIGN SHAN MEDIAL ", "WA"⟩,
   ⟨0x1083, "MYANMAR VOWEL SIGN SHAN ", "AA,E,E ABOVE,FINAL Y"⟩,
   ⟨0x1087, "MYANMAR SIGN SHAN ",
     "TONE-2,TONE-3,TONE-5,TONE-6,COUNCIL TONE-2,COUNCIL TONE-3,COUNCIL EMPHATIC TONE"⟩,
   ⟨0x108E, "MYANMAR ", "LETTER RUMAI PALAUNG FA,SIGN RUMAI PALAUNG TONE-5"⟩,
   ⟨0x1090, "MYANMAR SHAN DIGIT ", "ZERO,ONE,TWO,THREE,FOUR,FIVE,SIX,SEVEN,EIGHT,NINE"⟩,
   ⟨0x109A, "MYANMAR ",
     "SIGN KHAMTI TONE-1,SIGN KHAMTI TONE-3,VOWEL SIGN AITON A,VOWEL SIGN AITON AI,SYMBOL SHAN ONE,
      SYMBOL SHAN EXCLAMATION"⟩,
   ⟨0x10A0, "GEORGIAN CAPITAL LETTER ",
     "AN,BAN,GAN,DON,EN,VIN,ZEN,TAN,IN,KAN,LAS,MAN,NAR,ON,PAR,ZHAR,RAE,SAN,TAR,UN,PHAR,KHAR,GHAN,
      QAR,SHIN,CHIN,CAN,JIL,CIL,CHAR,XAN,JHAN,HAE,HE,HIE,WE,HAR,HOE,,YN,,,,,,AEN"⟩,
   ⟨0x10D0, "GEORGIAN LETTER ",
     "AN,BAN,GAN,DON,EN,VIN,ZEN,TAN,IN,KAN,LAS,MAN,NAR,ON,PAR,ZHAR,RAE,SAN,TAR,UN,PHAR,KHAR,GHAN,
      QAR,SHIN,CHIN,CAN,JIL,CIL,CHAR,XAN,JHAN,HAE,HE,HIE,WE,HAR,HOE,FI,YN,ELIFI,TURNED GAN,AIN"⟩,
   ⟨0x10FB, "", "GEORGIAN PARAGRAPH SEPARATOR,MODIFIER LETTER GEORGIAN NAR"⟩,
   ⟨0x10FD, "GEORGIAN LETTER ", "AEN,HARD SIGN,LABIAL SIGN"⟩,
   ⟨0x1100, "HANGUL CHOSEONG ",
     "KIYEOK,SSANGKIYEOK,NIEUN,TIKEUT,SSANGTIKEUT,RIEUL,MIEUM,PIEUP,SSANGPIEUP,SIOS,SSANGSIOS,
      IEUNG,CIEUC,SSANGCIEUC,CHIEUCH,KHIEUKH,THIEUTH,PHIEUPH,HIEUH,NIEUN-KIYEOK,SSANGNIEUN,
      NIEUN-TIKEUT,NIEUN-PIEUP,TIKEUT-KIYEOK,RIEUL-NIEUN,SSANGRIEUL,RIEUL-HIEUH,KAPYEOUNRIEUL,
      MIEUM-PIEUP,KAPYEOUNMIEUM,PIEUP-KIYEOK,PIEUP-NIEUN,PIEUP-TIKEUT,PIEUP-SIOS,PIEUP-SIOS-KIYEOK,
      PIEUP-SIOS-TIKEUT,PIEUP-SIOS-PIEUP,PIEUP-SSANGSIOS,PIEUP-SIOS-CIEUC,PIEUP-CIEUC,
      PIEUP-CHIEUCH,PIEUP-THIEUTH,PIEUP-PHIEUPH,KAPYEOUNPIEUP,KAPYEOUNSSANGPIEUP,SIOS-KIYEOK,
      SIOS-NIEUN,SIOS-TIKEUT,SIOS-RIEUL,SIOS-MIEUM,SIOS-PIEUP,SIOS-PIEUP-KIYEOK,SIOS-SSANGSIOS,
      SIOS-IEUNG,SIOS-CIEUC,SIOS-CHIEUCH,SIOS-KHIEUKH,SIOS-THIEUTH,SIOS-PHIEUPH,SIOS-HIEUH,
      CHITUEUMSIOS,CHITUEUMSSANGSIOS,CEONGCHIEUMSIOS,CEONGCHIEUMSSANGSIOS,PANSIOS,IEUNG-KIYEOK,
      IEUNG-TIKEUT,IEUNG-MIEUM,IEUNG-PIEUP,IEUNG-SIOS,IEUNG-PANSIOS,SSANGIEUNG,IEUNG-CIEUC,
      IEUNG-CHIEUCH,IEUNG-THIEUTH,IEUNG-PHIEUPH,YESIEUNG,CIEUC-IEUNG,CHITUEUMCIEUC,
      CHITUEUMSSANGCIEUC,CEONGCHIEUMCIEUC,CEONGCHIEUMSSANGCIEUC,CHIEUCH-KHIEUKH,CHIEUCH-HIEUH,
      CHITUEUMCHIEUCH,CEONGCHIEUMCHIEUCH,PHIEUPH-PIEUP,KAPYEOUNPHIEUPH,SSANGHIEUH,YEORINHIEUH,
      KIYEOK-TIKEUT,NIEUN-SIOS,NIEUN-CIEUC,NIEUN-HIEUH,TIKEUT-RIEUL,FILLER"⟩,
   ⟨0x1160, "HANGUL JUNGSEONG ",
     "FILLER,A,AE,YA,YAE,EO,E,YEO,YE,O,WA,WAE,OE,YO,U,WEO,WE,WI,YU,EU,YI,I,A-O,A-U,YA-O,YA-YO,EO-O,
      EO-U,EO-EU,YEO-O,YEO-U,O-EO,O-E,O-YE,O-O,O-U,YO-YA,YO-YAE,YO-YEO,YO-O,YO-I,U-A,U-AE,U-EO-EU,
      U-YE,U-U,YU-A,YU-EO,YU-E,YU-YEO,YU-YE,YU-U,YU-I,EU-U,EU-EU,YI-U,I-A,I-YA,I-O,I-U,I-EU,
      I-ARAEA,ARAEA,ARAEA-EO,ARAEA-U,ARAEA-I,SSANGARAEA,A-EU,YA-U,YEO-YA,O-YA,O-YAE"⟩,
   ⟨0x11A8, "HANGUL JONGSEONG ",
     "KIYEOK,SSANGKIYEOK,KIYEOK-SIOS,NIEUN,NIEUN-CIEUC,NIEUN-HIEUH,TIKEUT,RIEUL,RIEUL-KIYEOK,
      RIEUL-MIEUM,RIEUL-PIEUP,RIEUL-SIOS,RIEUL-THIEUTH,RIEUL-PHIEUPH,RIEUL-HIEUH,MIEUM,PIEUP,
      PIEUP-SIOS,SIOS,SSANGSIOS,IEUNG,CIEUC,CHIEUCH,KHIEUKH,THIEUTH,PHIEUPH,HIEUH,KIYEOK-RIEUL,
      KIYEOK-SIOS-KIYEOK,NIEUN-KIYEOK,NIEUN-TIKEUT,NIEUN-SIOS,NIEUN-PANSIOS,NIEUN-THIEUTH,
      TIKEUT-KIYEOK,TIKEUT-RIEUL,RIEUL-KIYEOK-SIOS,RIEUL-NIEUN,RIEUL-TIKEUT,RIEUL-TIKEUT-HIEUH,
      SSANGRIEUL,RIEUL-MIEUM-KIYEOK,RIEUL-MIEUM-SIOS,RIEUL-PIEUP-SIOS,RIEUL-PIEUP-HIEUH,
      RIEUL-KAPYEOUNPIEUP,RIEUL-SSANGSIOS,RIEUL-PANSIOS,RIEUL-KHIEUKH,RIEUL-YEORINHIEUH,
      MIEUM-KIYEOK,MIEUM-RIEUL,MIEUM-PIEUP,MIEUM-SIOS,MIEUM-SSANGSIOS,MIEUM-PANSIOS,MIEUM-CHIEUCH,
      MIEUM-HIEUH,KAPYEOUNMIEUM,PIEUP-RIEUL,PIEUP-PHIEUPH,PIEUP-HIEUH,KAPYEOUNPIEUP,SIOS-KIYEOK,
      SIOS-TIKEUT,SIOS-RIEUL,SIOS-PIEUP,PANSIOS,IEUNG-KIYEOK,IEUNG-SSANGKIYEOK,SSANGIEUNG,
      IEUNG-KHIEUKH,YESIEUNG,YESIEUNG-SIOS,YESIEUNG-PANSIOS,PHIEUPH-PIEUP,KAPYEOUNPHIEUPH,
      HIEUH-NIEUN,HIEUH-RIEUL,HIEUH-MIEUM,HIEUH-PIEUP,YEORINHIEUH,KIYEOK-NIEUN,KIYEOK-PIEUP,
      KIYEOK-CHIEUCH,KIYEOK-KHIEUKH,KIYEOK-HIEUH,SSANGNIEUN"⟩,
   ⟨0x1200, "ETHIOPIC SYLLABLE ",
     "HA,HU,HI,HAA,HEE,HE,HO,HOA,LA,LU,LI,LAA,LEE,LE,LO,LWA,HHA,HHU,HHI,HHAA,HHEE,HHE,HHO,HHWA,MA,
      MU,MI,MAA,MEE,ME,MO,MWA,SZA,SZU,SZI,SZAA,SZEE,SZE,SZO,SZWA,RA,RU,RI,RAA,REE,RE,RO,RWA,SA,SU,
      SI,SAA,SEE,SE,SO,SWA,SHA,SHU,SHI,SHAA,SHEE,SHE,SHO,SHWA,QA,QU,QI,QAA,QEE,QE,QO,QOA,QWA,,QWI,
      QWAA,QWEE,QWE,,,QHA,QHU,QHI,QHAA,QHEE,QHE,QHO,,QHWA,,QHWI,QHWAA,QHWEE,QHWE,,,BA,BU,BI,BAA,
      BEE,BE,BO,BWA,VA,VU,VI,VAA,VEE,VE,VO,VWA,TA,TU,TI,TAA,TEE,TE,TO,TWA,CA,CU,CI,CAA,CEE,CE,CO,
      CWA,XA,XU,XI,XAA,XEE,XE,XO,XOA,XWA,,XWI,XWAA,XWEE,XWE,,,NA,NU,NI,NAA,NEE,NE,NO,NWA,NYA,NYU,
      NYI,NYAA,NYEE,NYE,NYO,NYWA,GLOTTAL A,GLOTTAL U,GLOTTAL I,GLOTTAL AA,GLOTTAL EE,GLOTTAL E,
      GLOTTAL O,GLOTTAL WA,KA,KU,KI,KAA,KEE,KE,KO,KOA,KWA,,KWI,KWAA,KWEE,KWE,,,KXA,KXU,KXI,KXAA,
      KXEE,KXE,KXO,,KXWA,,KXWI,KXWAA,KXWEE,KXWE,,,WA,WU,WI,WAA,WEE,WE,WO,WOA,PHARYNGEAL A,
      PHARYNGEAL U,PHARYNGEAL I,PHARYNGEAL AA,PHARYNGEAL EE,PHARYNGEAL E,PHARYNGEAL O,,ZA,ZU,ZI,
      ZAA,ZEE,ZE,ZO,ZWA,ZHA,ZHU,ZHI,ZHAA,ZHEE,ZHE,ZHO,ZHWA,YA,YU,YI,YAA,YEE,YE,YO,YOA,DA,DU,DI,DAA,
      DEE,DE,DO,DWA,DDA,DDU,DDI,DDAA,DDEE,DDE,DDO,DDWA,JA,JU,JI,JAA,JEE,JE,JO,JWA,GA,GU,GI,GAA,GEE,
      GE,GO,GOA,GWA,,GWI,GWAA,GWEE,GWE,,,GGA,GGU,GGI,GGAA,GGEE,GGE,GGO,GGWAA,THA,THU,THI,THAA,THEE,
      THE,THO,THWA,CHA,CHU,CHI,CHAA,CHEE,CHE,CHO,CHWA,PHA,PHU,PHI,PHAA,PHEE,PHE,PHO,PHWA,TSA,TSU,
      TSI,TSAA,TSEE,TSE,TSO,TSWA,TZA,TZU,TZI,TZAA,TZEE,TZE,TZO,TZOA,FA,FU,FI,FAA,FEE,FE,FO,FWA,PA,
      PU,PI,PAA,PEE,PE,PO,PWA,RYA,MYA,FYA"⟩,
   ⟨0x135D, "ETHIOPIC ",
     "COMBINING GEMINATION AND VOWEL LENGTH MARK,COMBINING VOWEL LENGTH MARK,
      COMBINING GEMINATION MARK,SECTION MARK,WORDSPACE,FULL STOP,COMMA,SEMICOLON,COLON,
      PREFACE COLON,QUESTION MARK,PARAGRAPH SEPARATOR"⟩,
   ⟨0x1369, "ETHIOPIC DIGIT ", "ONE,TWO,THREE,FOUR,FIVE,SIX,SEVEN,EIGHT,NINE"⟩,
   ⟨0x1372, "ETHIOPIC NUMBER ",
     "TEN,TWENTY,THIRTY,FORTY,FIFTY,SIXTY,SEVENTY,EIGHTY,NINETY,HUNDRED,TEN THOUSAND"⟩,
   ⟨0x1380, "ETHIOPIC SYLLABLE ",
     "SEBATBEIT MWA,MWI,MWEE,MWE,SEBATBEIT BWA,BWI,BWEE,BWE,SEBATBEIT FWA,FWI,FWEE,FWE,
      SEBATBEIT PWA,PWI,PWEE,PWE"⟩,
   ⟨0x1390, "ETHIOPIC TONAL MARK ",
     "YIZET,DERET,RIKRIK,SHORT RIKRIK,DIFAT,KENAT,CHIRET,HIDET,DERET-HIDET,KURT"⟩,
   ⟨0x13A0, "CHEROKEE LETTER ",
     "A,E,I,O,U,V,GA,KA,GE,GI,GO,GU,GV,HA,HE,HI,HO,HU,HV,LA,LE,LI,LO,LU,LV,MA,ME,MI,MO,MU,NA,HNA,
      NAH,NE,NI,NO,NU,NV,QUA,QUE,QUI,QUO,QUU,QUV,SA,S,SE,SI,SO,SU,SV,DA,TA,DE,TE,DI,TI,DO,DU,DV,
      DLA,TLA,TLE,TLI,TLO,TLU,TLV,TSA,TSE,TSI,TSO,TSU,TSV,WA,WE,WI,WO,WU,WV,YA,YE,YI,YO,YU,YV,MV"⟩,
   ⟨0x13F8, "CHEROKEE SMALL LETTER ", "YE,YI,YO,YU,YV,MV"⟩,
   ⟨0x1400, "CANADIAN SYLLABICS ",
     "HYPHEN,E,AAI,I,II,O,OO,Y-CREE OO,CARRIER EE,CARRIER I,A,AA,WE,WEST-CREE WE,WI,WEST-CREE WI,
      WII,WEST-CREE WII,WO,WEST-CREE WO,WOO,WEST-CREE WOO,NASKAPI WOO,WA,WEST-CREE WA,WAA,
      WEST-CREE WAA,NASKAPI WAA,AI,Y-CREE W,GLOTTAL STOP,FINAL ACUTE,FINAL GRAVE,
      FINAL BOTTOM HALF RING,FINAL TOP HALF RING,FINAL RIGHT HALF RING,FINAL RING,
      FINAL DOUBLE ACUTE,FINAL DOUBLE SHORT VERTICAL STROKES,FINAL MIDDLE DOT,
      FINAL SHORT HORIZONTAL STROKE,FINAL PLUS,FINAL DOWN TACK,EN,IN,ON,AN,PE,PAAI,PI,PII,PO,POO,
      Y-CREE POO,CARRIER HEE,CARRIER HI,PA,PAA,PWE,WEST-CREE PWE,PWI,WEST-CREE PWI,PWII,
      WEST-CREE PWII,PWO,WEST-CREE PWO,PWOO,WEST-CREE PWOO,PWA,WEST-CREE PWA,PWAA,WEST-CREE PWAA,
      Y-CREE PWAA,P,WEST-CREE P,CARRIER H,TE,TAAI,TI,TII,TO,TOO,Y-CREE TOO,CARRIER DEE,CARRIER DI,
      TA,TAA,TWE,WEST-CREE TWE,TWI,WEST-CREE TWI,TWII,WEST-CREE TWII,TWO,WEST-CREE TWO,TWOO,
      WEST-CREE TWOO,TWA,WEST-CREE TWA,TWAA,WEST-CREE TWAA,NASKAPI TWAA,T,TTE,TTI,TTO,TTA,KE,KAAI,
      KI,KII,KO,KOO,Y-CREE KOO,KA,KAA,KWE,WEST-CREE KWE,KWI,WEST-CREE KWI,KWII,WEST-CREE KWII,KWO,
      WEST-CREE KWO,KWOO,WEST-CREE KWOO,KWA,WEST-CREE KWA,KWAA,WEST-CREE KWAA,NASKAPI KWAA,K,KW,
      SOUTH-SLAVEY KEH,SOUTH-SLAVEY KIH,SOUTH-SLAVEY KOH,SOUTH-SLAVEY KAH,CE,CAAI,CI,CII,CO,COO,
      Y-CREE COO,CA,CAA,CWE,WEST-CREE CWE,CWI,WEST-CREE CWI,CWII,WEST-CREE CWII,CWO,WEST-CREE CWO,
      CWOO,WEST-CREE CWOO,CWA,WEST-CREE CWA,CWAA,WEST-CREE CWAA,NASKAPI CWAA,C,SAYISI TH,ME,MAAI,
      MI,MII,MO,MOO,Y-CREE MOO,MA,MAA,MWE,WEST-CREE MWE,MWI,WEST-CREE MWI,MWII,WEST-CREE MWII,MWO,
      WEST-CREE MWO,MWOO,WEST-CREE MWOO,MWA,WEST-CREE MWA,MWAA,WEST-CREE MWAA,NASKAPI MWAA,M,
      WEST-CREE M,MH,ATHAPASCAN M,SAYISI M,NE,NAAI,NI,NII,NO,NOO,Y-CREE NOO,NA,NAA,NWE,
      WEST-CREE NWE,NWA,WEST-CREE NWA,NWAA,WEST-CREE NWAA,NASKAPI NWAA,N,CARRIER NG,NH,LE,LAAI,LI,
      LII,LO,LOO,Y-CREE LOO,LA,LAA,LWE,WEST-CREE LWE,LWI,WEST-CREE LWI,LWII,WEST-CREE LWII,LWO,
      WEST-CREE LWO,LWOO,WEST-CREE LWOO,LWA,WEST-CREE LWA,LWAA,WEST-CREE LWAA,L,WEST-CREE L,
      MEDIAL L,SE,SAAI,SI,SII,SO,SOO,Y-CREE SOO,SA,SAA,SWE,WEST-CREE SWE,SWI,WEST-CREE SWI,SWII,
      WEST-CREE SWII,SWO,WEST-CREE SWO,SWOO,WEST-CREE SWOO,SWA,WEST-CREE SWA,SWAA,WEST-CREE SWAA,
      NASKAPI SWAA,S,ATHAPASCAN S,SW,BLACKFOOT S,MOOSE-CREE SK,NASKAPI SKW,NASKAPI S-W,
      NASKAPI SPWA,NASKAPI STWA,NASKAPI SKWA,NASKAPI SCWA,SHE,SHI,SHII,SHO,SHOO,SHA,SHAA,SHWE,
      WEST-CREE SHWE,SHWI,WEST-CREE SHWI,SHWII,WEST-CREE SHWII,SHWO,WEST-CREE SHWO,SHWOO,
      WEST-CREE SHWOO,SHWA,WEST-CREE SHWA,SHWAA,WEST-CREE SHWAA,SH,YE,YAAI,YI,YII,YO,YOO,
      Y-CREE YOO,YA,YAA,YWE,WEST-CREE YWE,YWI,WEST-CREE YWI,YWII,WEST-CREE YWII,YWO,WEST-CREE YWO,
      YWOO,WEST-CREE YWOO,YWA,WEST-CREE YWA,YWAA,WEST-CREE YWAA,NASKAPI YWAA,Y,BIBLE-CREE Y,
      WEST-CREE Y,SAYISI YI,RE,R-CREE RE,WEST-CREE LE,RAAI,RI,RII,RO,ROO,WEST-CREE LO,RA,RAA,
      WEST-CREE LA,RWAA,WEST-CREE RWAA,R,WEST-CREE R,MEDIAL R,FE,FAAI,FI,FII,FO,FOO,FA,FAA,FWAA,
      WEST-CREE FWAA,F,THE,N-CREE THE,THI,N-CREE THI,THII,N-CREE THII,THO,THOO,THA,THAA,THWAA,
      WEST-CREE THWAA,TH,TTHE,TTHI,TTHO,TTHA,TTH,TYE,TYI,TYO,TYA,NUNAVIK HE,NUNAVIK HI,NUNAVIK HII,
      NUNAVIK HO,NUNAVIK HOO,NUNAVIK HA,NUNAVIK HAA,NUNAVIK H,NUNAVUT H,HK,QAAI,QI,QII,QO,QOO,QA,
      QAA,Q,TLHE,TLHI,TLHO,TLHA,WEST-CREE RE,WEST-CREE RI,WEST-CREE RO,WEST-CREE RA,NGAAI,NGI,NGII,
      NGO,NGOO,NGA,NGAA,NG,NNG,SAYISI SHE,SAYISI SHI,SAYISI SHO,SAYISI SHA,WOODS-CREE THE,
      WOODS-CREE THI,WOODS-CREE THO,WOODS-CREE THA,WOODS-CREE TH,LHI,LHII,LHO,LHOO,LHA,LHAA,LH,
      TH-CREE THE,TH-CREE THI,TH-CREE THII,TH-CREE THO,TH-CREE THOO,TH-CREE THA,TH-CREE THAA,
      TH-CREE TH,AIVILIK B"⟩,
   ⟨0x15B0, "CANADIAN SYLLABICS BLACKFOOT ", "E,I,O,A,WE,WI,WO,WA,NE,NI,NO,NA,KE,KI,KO,KA"⟩,
   ⟨0x15C0, "CANADIAN SYLLABICS SAYISI ", "HE,HI,HO,HA"⟩,
   ⟨0x15C4, "CANADIAN SYLLABICS CARRIER ",
     "GHU,GHO,GHE,GHEE,GHI,GHA,RU,RO,RE,REE,RI,RA,WU,WO,WE,WEE,WI,WA,HWU,HWO,HWE,HWEE,HWI,HWA,THU,
      THO,THE,THEE,THI,THA,TTU,TTO,TTE,TTEE,TTI,TTA,PU,PO,PE,PEE,PI,PA,P,GU,GO,GE,GEE,GI,GA,KHU,
      KHO,KHE,KHEE,KHI,KHA,KKU,KKO,KKE,KKEE,KKI,KKA,KK,NU,NO,NE,NEE,NI,NA,MU,MO,ME,MEE,MI,MA,YU,YO,
      YE,YEE,YI,YA,JU"⟩,
   ⟨0x1615, "CANADIAN SYLLABICS ",
     "SAYISI JU,CARRIER JO,CARRIER JE,CARRIER JEE,CARRIER JI,SAYISI JI"⟩,
   ⟨0x161B, "CANADIAN SYLLABICS CARRIER ",
     "JA,JJU,JJO,JJE,JJEE,JJI,JJA,LU,LO,LE,LEE,LI,LA,DLU,DLO,DLE,DLEE,DLI,DLA,LHU,LHO,LHE,LHEE,LHI,
      LHA,TLHU,TLHO,TLHE,TLHEE,TLHI,TLHA,TLU,TLO,TLE,TLEE,TLI,TLA,ZU,ZO,ZE,ZEE,ZI,ZA,Z,INITIAL Z,
      DZU,DZO,DZE,DZEE,DZI,DZA,SU,SO,SE,SEE,SI,SA,SHU,SHO,SHE,SHEE,SHI,SHA,SH,TSU,TSO,TSE,TSEE,TSI,
      TSA,CHU,CHO,CHE,CHEE,CHI,CHA,TTSU,TTSO,TTSE,TTSEE,TTSI,TTSA"⟩,
   ⟨0x166D, "CANADIAN SYLLABICS ", "CHI SIGN,FULL STOP,QAI,NGAI,NNGI,NNGII,NNGO,NNGOO,NNGA,NNGAA"⟩,
   ⟨0x1677, "CANADIAN SYLLABICS WOODS-CREE ", "THWEE,THWI,THWII,THWO,THWOO,THWA,THWAA,FINAL TH"⟩,
   ⟨0x167F, "", "CANADIAN SYLLABICS BLACKFOOT W,OGHAM SPACE MARK"⟩,
   ⟨0x1681, "OGHAM LETTER ",
     "BEITH,LUIS,FEARN,SAIL,NION,UATH,DAIR,TINNE,COLL,CEIRT,MUIN,GORT,NGEADAL,STRAIF,RUIS,AILM,ONN,
      UR,EADHADH,IODHADH,EABHADH,OR,UILLEANN,IFIN,EAMHANCHOLL,PEITH"⟩,
   ⟨0x169B, "OGHAM ", "FEATHER MARK,REVERSED FEATHER MARK"⟩,
   ⟨0x16A0, "RUNIC LETTER ",
     "FEHU FEOH FE F,V,URUZ UR U,YR,Y,W,THURISAZ THURS THORN,ETH,ANSUZ A,OS O,AC A,AESC,
      LONG-BRANCH-OSS O,SHORT-TWIG-OSS O,O,OE,ON,RAIDO RAD REID R,KAUNA,CEN,KAUN K,G,ENG,
      GEBO GYFU G,GAR,WUNJO WYNN W,HAGLAZ H,HAEGL H,LONG-BRANCH-HAGALL H,SHORT-TWIG-HAGALL H,
      NAUDIZ NYD NAUD N,SHORT-TWIG-NAUD N,DOTTED-N,ISAZ IS ISS I,E,JERAN J,GER,LONG-BRANCH-AR AE,
      SHORT-TWIG-AR A,IWAZ EOH,PERTHO PEORTH P,ALGIZ EOLHX,SOWILO S,SIGEL LONG-BRANCH-SOL S,
      SHORT-TWIG-SOL S,C,Z,TIWAZ TIR TYR T,SHORT-TWIG-TYR T,D,BERKANAN BEORC BJARKAN B,
      SHORT-TWIG-BJARKAN B,DOTTED-P,OPEN-P,EHWAZ EH E,MANNAZ MAN M,LONG-BRANCH-MADR M,
      SHORT-TWIG-MADR M,LAUKAZ LAGU LOGR L,DOTTED-L,INGWAZ,ING,DAGAZ DAEG D,OTHALAN ETHEL O,EAR,
      IOR,CWEORTH,CALC,CEALC,STAN,LONG-BRANCH-YR,SHORT-TWIG-YR,ICELANDIC-YR,Q,X"⟩,
   ⟨0x16EB, "RUNIC ",
     "SINGLE PUNCTUATION,MULTIPLE PUNCTUATION,CROSS PUNCTUATION,ARLAUG SYMBOL,TVIMADUR SYMBOL,
      BELGTHOR SYMBOL,LETTER K,LETTER SH,LETTER OO"⟩,
   ⟨0x16F4, "RUNIC LETTER FRANKS CASKET ", "OS,IS,EH,AC,AESC"⟩,
   ⟨0x1700, "TAGALOG LETTER ", "A,I,U,KA,GA,NGA,TA,DA,NA,PA,BA,MA,YA,RA,LA,WA,SA,HA"⟩,
   ⟨0x1712, "TAGALOG ",
     "VOWEL SIGN I,VOWEL SIGN U,SIGN VIRAMA,SIGN PAMUDPOD,,,,,,,,,,LETTER ARCHAIC RA"⟩,
   ⟨0x1720, "HANUNOO LETTER ", "A,I,U,KA,GA,NGA,TA,DA,NA,PA,BA,MA,YA,RA,LA,WA,SA,HA"⟩,
   ⟨0x1732, "HANUNOO ", "VOWEL SIGN I,VOWEL SIGN U,SIGN PAMUDPOD"⟩,
   ⟨0x1735, "PHILIPPINE ", "SINGLE PUNCTUATION,DOUBLE PUNCTUATION"⟩,
   ⟨0x1740, "BUHID LETTER ", "A,I,U,KA,GA,NGA,TA,DA,NA,PA,BA,MA,YA,RA,LA,WA,SA,HA"⟩,
   ⟨0x1752, "BUHID VOWEL SIGN ", "I,U"⟩,
   ⟨0x1760, "TAGBANWA LETTER ", "A,I,U,KA,GA,NGA,TA,DA,NA,PA,BA,MA,YA,,LA,WA,SA"⟩,
   ⟨0x1772, "TAGBANWA VOWEL SIGN ", "I,U"⟩,
   ⟨0x1780, "KHMER LETTER ",
     "KA,KHA,KO,KHO,NGO,CA,CHA,CO,CHO,NYO,DA,TTHA,DO,TTHO,NNO,TA,THA,TO,THO,NO,BA,PHA,PO,PHO,MO,YO,
      RO,LO,VO,SHA,SSO,SA,HA,LA,QA"⟩,
   ⟨0x17A3, "KHMER INDEPENDENT VOWEL ",
     "QAQ,QAA,QI,QII,QU,QUK,QUU,QUUV,RY,RYY,LY,LYY,QE,QAI,QOO TYPE ONE,QOO TYPE TWO,QAU"⟩,
   ⟨0x17B4, "KHMER VOWEL INHERENT ", "AQ,AA"⟩,
   ⟨0x17B6, "KHMER VOWEL SIGN ", "AA,I,II,Y,YY,U,UU,UA,OE,YA,IE,E,AE,AI,OO,AU"⟩,
   ⟨0x17C6, "KHMER SIGN ",
     "NIKAHIT,REAHMUK,YUUKALEAPINTU,MUUSIKATOAN,TRIISAP,BANTOC,ROBAT,TOANDAKHIAT,KAKABAT,AHSDA,
      SAMYOK SANNYA,VIRIAM,COENG,BATHAMASAT,KHAN,BARIYOOSAN,CAMNUC PII KUUH,LEK TOO,BEYYAL,
      PHNAEK MUAN,KOOMUUT"⟩,
   ⟨0x17DB, "KHMER ", "CURRENCY SYMBOL RIEL,SIGN AVAKRAHASANYA,SIGN ATTHACAN"⟩,
   ⟨0x17E0, "KHMER DIGIT ", "ZERO,ONE,TWO,THREE,FOUR,FIVE,SIX,SEVEN,EIGHT,NINE"⟩,
   ⟨0x17F0, "KHMER SYMBOL LEK ATTAK ",
     "SON,MUOY,PII,BEI,BUON,PRAM,PRAM-MUOY,PRAM-PII,PRAM-BEI,PRAM-BUON"⟩,
   ⟨0x1800, "MONGOLIAN ",
     "BIRGA,ELLIPSIS,COMMA,FULL STOP,COLON,FOUR DOTS,TODO SOFT HYPHEN,
      SIBE SYLLABLE BOUNDARY MARKER,MANCHU COMMA,MANCHU FULL STOP,NIRUGU,
      FREE VARIATION SELECTOR ONE,FREE VARIATION SELECTOR TWO,FREE VARIATION SELECTOR THREE,
      VOWEL SEPARATOR,FREE VARIATION SELECTOR FOUR"⟩,
   ⟨0x1810, "MONGOLIAN DIGIT ", "ZERO,ONE,TWO,THREE,FOUR,FIVE,SIX,SEVEN,EIGHT,NINE"⟩,
   ⟨0x1820, "MONGOLIAN LETTER ",
     "A,E,I,O,U,OE,UE,EE,NA,ANG,BA,PA,QA,GA,MA,LA,SA,SHA,TA,DA,CHA,JA,YA,RA,WA,FA,KA,KHA,TSA,ZA,
      HAA,ZRA,LHA,ZHI,CHI"⟩,
   ⟨0x1843, "MONGOLIAN LETTER TODO ",
     "LONG VOWEL SIGN,E,I,O,U,OE,UE,ANG,BA,PA,QA,GA,MA,TA,DA,CHA,JA,TSA,YA,WA,KA,GAA,HAA,JIA,NIA,
      DZA"⟩,
   ⟨0x185D, "MONGOLIAN LETTER SIBE ",
     "E,I,IY,UE,U,ANG,KA,GA,HA,PA,SHA,TA,DA,JA,FA,GAA,HAA,TSA,ZA,RAA,CHA,ZHA"⟩,
   ⟨0x1873, "MONGOLIAN LETTER ",
     "MANCHU I,MANCHU KA,MANCHU RA,MANCHU FA,MANCHU ZHA,CHA WITH TWO DOTS"⟩,
   ⟨0x1880, "MONGOLIAN LETTER ALI GALI ",
     "ANUSVARA ONE,VISARGA ONE,DAMARU,UBADAMA,INVERTED UBADAMA,BALUDA,THREE BALUDA,A,I,KA,NGA,CA,
      TTA,TTHA,DDA,NNA,TA,DA,PA,PHA,SSA,ZHA,ZA,AH"⟩,
   ⟨0x1898, "MONGOLIAN LETTER TODO ALI GALI ", "TA,ZHA"⟩,
   ⟨0x189A, "MONGOLIAN LETTER MANCHU ALI GALI ", "GHA,NGA,CA,JHA,TTA,DDHA,TA,DHA,SSA,CYA,ZHA,ZA"⟩,
   ⟨0x18A6, "MONGOLIAN LETTER ",
     "ALI GALI HALF U,ALI GALI HALF YA,MANCHU ALI GALI BHA,ALI GALI DAGALGA,MANCHU ALI GALI LHA"⟩,
   ⟨0x18B0, "CANADIAN SYLLABICS ",
     "OY,AY,AAY,WAY,POY,PAY,PWOY,TAY,KAY,KWAY,MAY,NOY,NAY,LAY,SOY,SAY,SHOY,SHAY,SHWOY,YOY,YAY,RAY,
      NWI,OJIBWAY NWI,NWII,OJIBWAY NWII,NWO,OJIBWAY NWO,NWOO,OJIBWAY NWOO,RWEE,RWI,RWII,RWO,RWOO,
      RWA,OJIBWAY P,OJIBWAY T,OJIBWAY K,OJIBWAY C,OJIBWAY M,OJIBWAY N,OJIBWAY S,OJIBWAY SH,
      EASTERN W,WESTERN W,FINAL SMALL RING,FINAL RAISED DOT,R-CREE RWE,WEST-CREE LOO,WEST-CREE LAA,
      THWE,THWA,TTHWE,TTHOO,TTHAA,TLHWE,TLHOO,SAYISI SHWE,SAYISI SHOO,SAYISI HOO,CARRIER GWU,
      CARRIER DENE GEE,CARRIER GAA,CARRIER GWA,SAYISI JUU,CARRIER JWA,BEAVER DENE L,BEAVER DENE R,
      CARRIER DENTAL S"⟩,
   ⟨0x1900, "LIMBU VOWEL-CARRIER ", "LETTER"⟩,
   ⟨0x1901, "LIMBU LETTER ",
     "KA,KHA,GA,GHA,NGA,CA,CHA,JA,JHA,YAN,TA,THA,DA,DHA,NA,PA,PHA,BA,BHA,MA,YA,RA,LA,WA,SHA,SSA,SA,
      HA,GYAN,TRA"⟩,
   ⟨0x1920, "LIMBU VOWEL SIGN ", "A,I,U,EE,AI,OO,AU,E,O"⟩,
   ⟨0x1929, "LIMBU SUBJOINED LETTER ", "YA,RA,WA"⟩,
   ⟨0x1930, "LIMBU SMALL LETTER ", "KA,NGA,ANUSVARA,TA,NA,PA,MA,RA,LA"⟩,
   ⟨0x1939, "LIMBU ",
     "SIGN MUKPHRENG,SIGN KEMPHRENG,SIGN SA-I,,,,,SIGN LOO,,,,EXCLAMATION MARK,QUESTION MARK"⟩,
   ⟨0x1946, "LIMBU DIGIT ", "ZERO,ONE,TWO,THREE,FOUR,FIVE,SIX,SEVEN,EIGHT,NINE"⟩,
   ⟨0x1950, "TAI LE LETTER ",
     "KA,XA,NGA,TSA,SA,YA,TA,THA,LA,PA,PHA,MA,FA,VA,HA,QA,KHA,TSHA,NA,A,I,EE,EH,U,OO,O,UE,E,AUE,AI,,,
      TONE-2,TONE-3,TONE-4,TONE-5,TONE-6"⟩,
   ⟨0x1980, "NEW TAI LUE LETTER ",
     "HIGH QA,LOW QA,HIGH KA,HIGH XA,HIGH NGA,LOW KA,LOW XA,LOW NGA,HIGH TSA,HIGH SA,HIGH YA,
      LOW TSA,LOW SA,LOW YA,HIGH TA,HIGH THA,HIGH NA,LOW TA,LOW THA,LOW NA,HIGH PA,HIGH PHA,
      HIGH MA,LOW PA,LOW PHA,LOW MA,HIGH FA,HIGH VA,HIGH LA,LOW FA,LOW VA,LOW LA,HIGH HA,HIGH DA,
      HIGH BA,LOW HA,LOW DA,LOW BA,HIGH KVA,HIGH XVA,LOW KVA,LOW XVA,HIGH SUA,LOW SUA"⟩,
   ⟨0x19B0, "NEW TAI LUE VOWEL SIGN ",
     "VOWEL SHORTENER,AA,II,U,UU,E,AE,O,OA,UE,AY,AAY,UY,OY,OAY,UEY,IY"⟩,
   ⟨0x19C1, "NEW TAI LUE LETTER FINAL ", "V,NG,N,M,K,D,B"⟩,
   ⟨0x19C8, "NEW TAI LUE TONE MARK-", "1,2"⟩,
   ⟨0x19D0, "NEW TAI LUE DIGIT ", "ZERO,ONE,TWO,THREE,FOUR,FIVE,SIX,SEVEN,EIGHT,NINE"⟩,
   ⟨0x19DA, "NEW TAI LUE ", "THAM DIGIT ONE,,,,SIGN LAE,SIGN LAEV"⟩,
   ⟨0x19E0, "KHMER SYMBOL ",
     "PATHAMASAT,MUOY KOET,PII KOET,BEI KOET,BUON KOET,PRAM KOET,PRAM-MUOY KOET,PRAM-PII KOET,
      PRAM-BEI KOET,PRAM-BUON KOET,DAP KOET,DAP-MUOY KOET,DAP-PII KOET,DAP-BEI KOET,DAP-BUON KOET,
      DAP-PRAM KOET,TUTEYASAT,MUOY ROC,PII ROC,BEI ROC,BUON ROC,PRAM ROC,PRAM-MUOY ROC,
      PRAM-PII ROC,PRAM-BEI ROC,PRAM-BUON ROC,DAP ROC,DAP-MUOY ROC,DAP-PII ROC,DAP-BEI ROC,
      DAP-BUON ROC,DAP-PRAM ROC"⟩,
   ⟨0x1A00, "BUGINESE LETTER ",
     "KA,GA,NGA,NGKA,PA,BA,MA,MPA,TA,DA,NA,NRA,CA,JA,NYA,NYCA,YA,RA,LA,VA,SA,A,HA"⟩,
   ⟨0x1A17, "BUGINESE VOWEL SIGN ", "I,U,E,O,AE"⟩,
   ⟨0x1A1E, "BUGINESE ", "PALLAWA,END OF SECTION"⟩,
   ⟨0x1A20, "TAI THAM LETTER ",
     "HIGH KA,HIGH KHA,HIGH KXA,LOW KA,LOW KXA,LOW KHA,NGA,HIGH CA,HIGH CHA,LOW CA,LOW SA,LOW CHA,
      NYA,RATA,HIGH RATHA,DA,LOW RATHA,RANA,HIGH TA,HIGH THA,LOW TA,LOW THA,NA,BA,HIGH PA,HIGH PHA,
      HIGH FA,LOW PA,LOW FA,LOW PHA,MA,LOW YA,HIGH YA,RA,RUE,LA,LUE,WA,HIGH SHA,HIGH SSA,HIGH SA,
      HIGH HA,LLA,A,LOW HA,I,II,U,UU,EE,OO,LAE,GREAT SA"⟩,
   ⟨0x1A55, "TAI THAM ",
     "CONSONANT SIGN MEDIAL RA,CONSONANT SIGN MEDIAL LA,CONSONANT SIGN LA TANG LAI,
      SIGN MAI KANG LAI"⟩,
   ⟨0x1A59, "TAI THAM CONSONANT SIGN ", "FINAL NGA,LOW PA,HIGH RATHA OR LOW PA,MA,BA,SA"⟩,
   ⟨0x1A60, "TAI THAM SIGN ", "SAKOT"⟩,
   ⟨0x1A61, "TAI THAM VOWEL SIGN ",
     "A,MAI SAT,AA,TALL AA,I,II,UE,UUE,U,UU,O,OA BELOW,OY,E,AE,OO,AI,THAM AI,OA ABOVE"⟩,
   ⟨0x1A74, "TAI THAM SIGN ",
     "MAI KANG,TONE-1,TONE-2,KHUEN TONE-3,KHUEN TONE-4,KHUEN TONE-5,RA HAAM,MAI SAM,
      KHUEN-LUE KARAN"⟩,
   ⟨0x1A7F, "TAI THAM COMBINING CRYPTOGRAMMIC ", "DOT"⟩,
   ⟨0x1A80, "TAI THAM HORA DIGIT ", "ZERO,ONE,TWO,THREE,FOUR,FIVE,SIX,SEVEN,EIGHT,NINE"⟩,
   ⟨0x1A90, "TAI THAM THAM DIGIT ", "ZERO,ONE,TWO,THREE,FOUR,FIVE,SIX,SEVEN,EIGHT,NINE"⟩,
   ⟨0x1AA0, "TAI THAM SIGN ",
     "WIANG,WIANGWAAK,SAWAN,KEOW,HOY,DOKMAI,REVERSED ROTATED RANA,MAI YAMOK,KAAN,KAANKUU,SATKAAN,
      SATKAANKUU,HANG,CAANG"⟩,
   ⟨0x1AB0, "COMBINING ",
     "DOUBLED CIRCUMFLEX ACCENT,DIAERESIS-RING,INFINITY,DOWNWARDS ARROW,TRIPLE DOT,X-X BELOW,
      WIGGLY LINE BELOW,OPEN MARK BELOW,DOUBLE OPEN MARK BELOW,LIGHT CENTRALIZATION STROKE BELOW,
      STRONG CENTRALIZATION STROKE BELOW,PARENTHESES ABOVE,DOUBLE PARENTHESES ABOVE,
      PARENTHESES BELOW,PARENTHESES OVERLAY,LATIN SMALL LETTER W BELOW,
      LATIN SMALL LETTER TURNED W BELOW,LEFT PARENTHESIS ABOVE LEFT,RIGHT PARENTHESIS ABOVE RIGHT,
      LEFT PARENTHESIS BELOW LEFT,RIGHT PARENTHESIS BELOW RIGHT,SQUARE BRACKETS ABOVE,
      NUMBER SIGN ABOVE,INVERTED DOUBLE ARCH ABOVE,PLUS SIGN ABOVE,DOUBLE PLUS SIGN ABOVE,
      DOUBLE PLUS SIGN BELOW,TRIPLE ACUTE ACCENT"⟩,
   ⟨0x1ACC, "COMBINING LATIN SMALL LETTER INSULAR ", "G,R,T"⟩,
   ⟨0x1B00, "BALINESE SIGN ", "ULU RICEM,ULU CANDRA,CECEK,SURANG,BISAH"⟩,
   ⟨0x1B05, "BALINESE LETTER ",
     "AKARA,AKARA TEDUNG,IKARA,IKARA TEDUNG,UKARA,UKARA TEDUNG,RA REPA,RA REPA TEDUNG,LA LENGA,
      LA LENGA TEDUNG,EKARA,AIKARA,OKARA,OKARA TEDUNG,KA,KA MAHAPRANA,GA,GA GORA,NGA,CA,CA LACA,JA,
      JA JERA,NYA,TA LATIK,TA MURDA MAHAPRANA,DA MURDA ALPAPRANA,DA MURDA MAHAPRANA,NA RAMBAT,TA,
      TA TAWA,DA,DA MADU,NA,PA,PA KAPAL,BA,BA KEMBANG,MA,YA,RA,LA,WA,SA SAGA,SA SAPA,SA,HA"⟩,
   ⟨0x1B34, "BALINESE SIGN ", "REREKAN"⟩,
   ⟨0x1B35, "BALINESE VOWEL SIGN ",
     "TEDUNG,ULU,ULU SARI,SUKU,SUKU ILUT,RA REPA,RA REPA TEDUNG,LA LENGA,LA LENGA TEDUNG,TALING,
      TALING REPA,TALING TEDUNG,TALING REPA TEDUNG,PEPET,PEPET TEDUNG"⟩,
   ⟨0x1B44, "BALINESE ADEG ", "ADEG"⟩,
   ⟨0x1B45, "BALINESE LETTER ",
     "KAF SASAK,KHOT SASAK,TZIR SASAK,EF SASAK,VE SASAK,ZAL SASAK,ASYURA SASAK,ARCHAIC JNYA"⟩,
   ⟨0x1B50, "BALINESE DIGIT ", "ZERO,ONE,TWO,THREE,FOUR,FIVE,SIX,SEVEN,EIGHT,NINE"⟩,
   ⟨0x1B5A, "BALINESE ", "PANTI,PAMADA,WINDU,CARIK PAMUNGKAH,CARIK SIKI,CARIK PAREREN,PAMENENG"⟩,
   ⟨0x1B61, "BALINESE MUSICAL SYMBOL ",
     "DONG,DENG,DUNG,DANG,DANG SURANG,DING,DAENG,DEUNG,DAING,DANG GEDE"⟩,
   ⟨0x1B6B, "BALINESE MUSICAL SYMBOL COMBINING ",
     "TEGEH,ENDEP,KEMPUL,KEMPLI,JEGOGAN,KEMPUL WITH JEGOGAN,KEMPLI WITH JEGOGAN,BENDE,GONG"⟩,
   ⟨0x1B74, "BALINESE MUSICAL SYMBOL RIGHT-HAND ", "OPEN DUG,OPEN DAG,CLOSED TUK,CLOSED TAK"⟩,
   ⟨0x1B78, "BALINESE MUSICAL SYMBOL LEFT-HAND ",
     "OPEN PANG,OPEN PUNG,CLOSED PLAK,CLOSED PLUK,OPEN PING"⟩,
   ⟨0x1B7D, "BALINESE ", "PANTI LANTANG,PAMADA LANTANG"⟩,
   ⟨0x1B80, "SUNDANESE SIGN ", "PANYECEK,PANGLAYAR,PANGWISAD"⟩,
   ⟨0x1B83, "SUNDANESE LETTER ",
     "A,I,U,AE,O,E,EU,KA,QA,GA,NGA,CA,JA,ZA,NYA,TA,DA,NA,PA,FA,VA,BA,MA,YA,RA,LA,WA,SA,XA,HA"⟩,
   ⟨0x1BA1, "SUNDANESE CONSONANT SIGN ", "PAMINGKAL,PANYAKRA,PANYIKU"⟩,
   ⟨0x1BA4, "SUNDANESE VOWEL SIGN ", "PANGHULU,PANYUKU,PANAELAENG,PANOLONG,PAMEPET,PANEULEUNG"⟩,
   ⟨0x1BAA, "SUNDANESE ",
     "SIGN PAMAAEH,SIGN VIRAMA,CONSONANT SIGN PASANGAN MA,CONSONANT SIGN PASANGAN WA,LETTER KHA,
      LETTER SYA,DIGIT ZERO,DIGIT ONE,DIGIT TWO,DIGIT THREE,DIGIT FOUR,DIGIT FIVE,DIGIT SIX,
      DIGIT SEVEN,DIGIT EIGHT,DIGIT NINE,AVAGRAHA,LETTER REU,LETTER LEU,LETTER BHA,LETTER FINAL K,
      LETTER FINAL M"⟩,
   ⟨0x1BC0, "BATAK LETTER ",
     "A,SIMALUNGUN A,HA,SIMALUNGUN HA,MANDAILING HA,BA,KARO BA,PA,SIMALUNGUN PA,NA,MANDAILING NA,
      WA,SIMALUNGUN WA,PAKPAK WA,GA,SIMALUNGUN GA,JA,DA,RA,SIMALUNGUN RA,MA,SIMALUNGUN MA,
      SOUTHERN TA,NORTHERN TA,SA,SIMALUNGUN SA,MANDAILING SA,YA,SIMALUNGUN YA,NGA,LA,SIMALUNGUN LA,
      NYA,CA,NDA,MBA,I,U"⟩,
   ⟨0x1BE6, "BATAK SIGN ", "TOMPI"⟩,
   ⟨0x1BE7, "BATAK VOWEL SIGN ", "E,PAKPAK E,EE,I,KARO I,O,KARO O,U,U FOR SIMALUNGUN SA"⟩,
   ⟨0x1BF0, "BATAK ", "CONSONANT SIGN NG,CONSONANT SIGN H,PANGOLAT,PANONGONAN"⟩,
   ⟨0x1BFC, "BATAK SYMBOL BINDU ", "NA METEK,PINARBORAS,JUDUL,PANGOLAT"⟩,
   ⟨0x1C00, "LEPCHA LETTER ",
     "KA,KLA,KHA,GA,GLA,NGA,CA,CHA,JA,NYA,TA,THA,DA,NA,PA,PLA,PHA,FA,FLA,BA,BLA,MA,MLA,TSA,TSHA,
      DZA,YA,RA,LA,HA,HLA,VA,SA,SHA,WA,A"⟩,
   ⟨0x1C24, "LEPCHA SUBJOINED LETTER ", "YA,RA"⟩,
   ⟨0x1C26, "LEPCHA VOWEL SIGN ", "AA,I,O,OO,U,UU,E"⟩,
   ⟨0x1C2D, "LEPCHA CONSONANT SIGN ", "K,M,L,N,P,R,T,NYIN-DO,KANG"⟩,
   ⟨0x1C36, "LEPCHA SIGN ", "RAN,NUKTA"⟩,
   ⟨0x1C3B, "LEPCHA PUNCTUATION ", "TA-ROL,NYET THYOOM TA-ROL,CER-WA,TSHOOK CER-WA,TSHOOK"⟩,
   ⟨0x1C40, "LEPCHA DIGIT ", "ZERO,ONE,TWO,THREE,FOUR,FIVE,SIX,SEVEN,EIGHT,NINE"⟩,
   ⟨0x1C4D, "LEPCHA LETTER ", "TTA,TTHA,DDA"⟩,
   ⟨0x1C50, "OL CHIKI DIGIT ", "ZERO,ONE,TWO,THREE,FOUR,FIVE,SIX,SEVEN,EIGHT,NINE"⟩,
   ⟨0x1C5A, "OL CHIKI LETTER ",
     "LA,AT,AG,ANG,AL,LAA,AAK,AAJ,AAM,AAW,LI,IS,IH,INY,IR,LU,UC,UD,UNN,UY,LE,EP,EDD,EN,ERR,LO,OTT,
      OB,OV,OH"⟩,
   ⟨0x1C78, "OL CHIKI ",
     "MU TTUDDAG,GAAHLAA TTUDDAAG,MU-GAAHLAA TTUDDAAG,RELAA,PHAARKAA,AHAD,PUNCTUATION MUCAAD,
      PUNCTUATION DOUBLE MUCAAD"⟩,
   ⟨0x1C80, "CYRILLIC SMALL LETTER ",
     "ROUNDED VE,LONG-LEGGED DE,NARROW O,WIDE ES,TALL TE,THREE-LEGGED TE,TALL HARD SIGN,TALL YAT,
      UNBLENDED UK"⟩,
   ⟨0x1C90, "GEORGIAN MTAVRULI CAPITAL LETTER ",
     "AN,BAN,GAN,DON,EN,VIN,ZEN,TAN,IN,KAN,LAS,MAN,NAR,ON,PAR,ZHAR,RAE,SAN,TAR,UN,PHAR,KHAR,GHAN,
      QAR,SHIN,CHIN,CAN,JIL,CIL,CHAR,XAN,JHAN,HAE,HE,HIE,WE,HAR,HOE,FI,YN,ELIFI,TURNED GAN,AIN,,,
      AEN,HARD SIGN,LABIAL SIGN"⟩,
   ⟨0x1CC0, "SUNDANESE PUNCTUATION BINDU ",
     "SURYA,PANGLONG,PURNAMA,CAKRA,LEU SATANGA,KA SATANGA,DA SATANGA,BA SATANGA"⟩,
   ⟨0x1CD0, "VEDIC ",
     "TONE KARSHANA,TONE SHARA,TONE PRENKHA,SIGN NIHSHVASA,SIGN YAJURVEDIC MIDLINE SVARITA"⟩,
   ⟨0x1CD5, "VEDIC TONE ",
     "YAJURVEDIC AGGRAVATED INDEPENDENT SVARITA,YAJURVEDIC INDEPENDENT SVARITA,
      YAJURVEDIC KATHAKA INDEPENDENT SVARITA,CANDRA BELOW,
      YAJURVEDIC KATHAKA INDEPENDENT SVARITA SCHROEDER,DOUBLE SVARITA,TRIPLE SVARITA,
      KATHAKA ANUDATTA,DOT BELOW,TWO DOTS BELOW,THREE DOTS BELOW,
      RIGVEDIC KASHMIRI INDEPENDENT SVARITA,ATHARVAVEDIC INDEPENDENT SVARITA"⟩,
   ⟨0x1CE2, "VEDIC SIGN ",
     "VISARGA SVARITA,VISARGA UDATTA,REVERSED VISARGA UDATTA,VISARGA ANUDATTA,
      REVERSED VISARGA ANUDATTA,VISARGA UDATTA WITH TAIL,VISARGA ANUDATTA WITH TAIL,
      ANUSVARA ANTARGOMUKHA,ANUSVARA BAHIRGOMUKHA,ANUSVARA VAMAGOMUKHA,
      ANUSVARA VAMAGOMUKHA WITH TAIL,TIRYAK,HEXIFORM LONG ANUSVARA,LONG ANUSVARA,
      RTHANG LONG ANUSVARA,ANUSVARA UBHAYATO MUKHA,ARDHAVISARGA,ROTATED ARDHAVISARGA"⟩,
   ⟨0x1CF4, "VEDIC ",
     "TONE CANDRA ABOVE,SIGN JIHVAMULIYA,SIGN UPADHMANIYA,SIGN ATIKRAMA,TONE RING ABOVE,
      TONE DOUBLE RING ABOVE,SIGN DOUBLE ANUSVARA ANTARGOMUKHA"⟩,
   ⟨0x1D00, "LATIN ", "LETTER SMALL CAPITAL A,LETTER SMALL CAPITAL AE,SMALL LETTER TURNED AE"⟩,
   ⟨0x1D03, "LATIN LETTER SMALL CAPITAL ", "BARRED B,C,D,ETH,E"⟩,
   ⟨0x1D08, "LATIN SMALL LETTER TURNED ", "OPEN E,I"⟩,
   ⟨0x1D0A, "LATIN LETTER SMALL CAPITAL ", "J,K,L WITH STROKE,M,REVERSED N,O,OPEN O"⟩,
   ⟨0x1D11, "LATIN SMALL LETTER SIDEWAYS ", "O,OPEN O,O WITH STROKE"⟩,
   ⟨0x1D14, "LATIN ",
     "SMALL LETTER TURNED OE,LETTER SMALL CAPITAL OU,SMALL LETTER TOP HALF O,
      SMALL LETTER BOTTOM HALF O"⟩,
   ⟨0x1D18, "LATIN LETTER SMALL CAPITAL ", "P,REVERSED R,TURNED R,T,U"⟩,
   ⟨0x1D1D, "LATIN SMALL LETTER SIDEWAYS ", "U,DIAERESIZED U,TURNED M"⟩,
   ⟨0x1D20, "LATIN LETTER SMALL CAPITAL ", "V,W,Z,EZH"⟩,
   ⟨0x1D24, "LATIN LETTER ", "VOICED LARYNGEAL SPIRANT,AIN"⟩,
   ⟨0x1D26, "GREEK LETTER SMALL CAPITAL ", "GAMMA,LAMDA,PI,RHO,PSI"⟩,
   ⟨0x1D2B, "CYRILLIC LETTER SMALL CAPITAL ", "EL"⟩,
   ⟨0x1D2C, "MODIFIER LETTER CAPITAL ",
     "A,AE,B,BARRED B,D,E,REVERSED E,G,H,I,J,K,L,M,N,REVERSED N,O,OU,P,R,T,U,W"⟩,
   ⟨0x1D43, "MODIFIER LETTER SMALL ",
     "A,TURNED A,ALPHA,TURNED AE,B,D,E,SCHWA,OPEN E,TURNED OPEN E,G,TURNED I,K,M,ENG,O,OPEN O,
      TOP HALF O,BOTTOM HALF O,P,T,U,SIDEWAYS U,TURNED M,V,AIN,BETA,GREEK GAMMA,DELTA,GREEK PHI,
      CHI"⟩,
   ⟨0x1D62, "LATIN SUBSCRIPT SMALL LETTER ", "I,R,U,V"⟩,
   ⟨0x1D66, "GREEK SUBSCRIPT SMALL LETTER ", "BETA,GAMMA,RHO,PHI,CHI"⟩,
   ⟨0x1D6B, "LATIN SMALL LETTER ",
     "UE,B WITH MIDDLE TILDE,D WITH MIDDLE TILDE,F WITH MIDDLE TILDE,M WITH MIDDLE TILDE,
      N WITH MIDDLE TILDE,P WITH MIDDLE TILDE,R WITH MIDDLE TILDE,R WITH FISHHOOK AND MIDDLE TILDE,
      S WITH MIDDLE TILDE,T WITH MIDDLE TILDE,Z WITH MIDDLE TILDE,TURNED G"⟩,
   ⟨0x1D78, "MODIFIER LETTER CYRILLIC ", "EN"⟩,
   ⟨0x1D79, "LATIN SMALL ",
     "LETTER INSULAR G,LETTER TH WITH STRIKETHROUGH,CAPITAL LETTER I WITH STROKE,
      LETTER IOTA WITH STROKE,LETTER P WITH STROKE,CAPITAL LETTER U WITH STROKE"⟩,
   ⟨0x1D7F, "LATIN SMALL LETTER ",
     "UPSILON WITH STROKE,B WITH PALATAL HOOK,D WITH PALATAL HOOK,F WITH PALATAL HOOK,
      G WITH PALATAL HOOK,K WITH PALATAL HOOK,L WITH PALATAL HOOK,M WITH PALATAL HOOK,
      N WITH PALATAL HOOK,P WITH PALATAL HOOK,R WITH PALATAL HOOK,S WITH PALATAL HOOK,
      ESH WITH PALATAL HOOK,V WITH PALATAL HOOK,X WITH PALATAL HOOK,Z WITH PALATAL HOOK,
      A WITH RETROFLEX HOOK,ALPHA WITH RETROFLEX HOOK,D WITH HOOK AND TAIL,E WITH RETROFLEX HOOK,
      OPEN E WITH RETROFLEX HOOK,REVERSED OPEN E WITH RETROFLEX HOOK,SCHWA WITH RETROFLEX HOOK,
      I WITH RETROFLEX HOOK,OPEN O WITH RETROFLEX HOOK,ESH WITH RETROFLEX HOOK,
      U WITH RETROFLEX HOOK,EZH WITH RETROFLEX HOOK"⟩,
   ⟨0x1D9B, "MODIFIER LETTER SMALL ",
     "TURNED ALPHA,C,C WITH CURL,ETH,REVERSED OPEN E,F,DOTLESS J WITH STROKE,SCRIPT G,TURNED H,
      I WITH STROKE,IOTA,CAPITAL I,CAPITAL I WITH STROKE,J WITH CROSSED-TAIL,L WITH RETROFLEX HOOK,
      L WITH PALATAL HOOK,CAPITAL L,M WITH HOOK,TURNED M WITH LONG LEG,N WITH LEFT HOOK,
      N WITH RETROFLEX HOOK,CAPITAL N,BARRED O,PHI,S WITH HOOK,ESH,T WITH PALATAL HOOK,U BAR,
      UPSILON,CAPITAL U,V WITH HOOK,TURNED V,Z,Z WITH RETROFLEX HOOK,Z WITH CURL,EZH,THETA"⟩,
   ⟨0x1DC0, "COMBINING ",
     "DOTTED GRAVE ACCENT,DOTTED ACUTE ACCENT,SNAKE BELOW,SUSPENSION MARK,MACRON-ACUTE,
      GRAVE-MACRON,MACRON-GRAVE,ACUTE-MACRON,GRAVE-ACUTE-GRAVE,ACUTE-GRAVE-ACUTE,
      LATIN SMALL LETTER R BELOW,BREVE-MACRON,MACRON-BREVE,DOUBLE CIRCUMFLEX ABOVE,OGONEK ABOVE,
      ZIGZAG BELOW,IS BELOW,UR ABOVE,US ABOVE"⟩,
   ⟨0x1DD3, "COMBINING LATIN SMALL LETTER ",
     "FLATTENED OPEN A ABOVE,AE,AO,AV,C CEDILLA,INSULAR D,ETH,G"⟩,
   ⟨0x1DDB, "COMBINING LATIN ",
     "LETTER SMALL CAPITAL G,SMALL LETTER K,SMALL LETTER L,LETTER SMALL CAPITAL L,
      LETTER SMALL CAPITAL M,SMALL LETTER N,LETTER SMALL CAPITAL N,LETTER SMALL CAPITAL R"⟩,
   ⟨0x1DE3, "COMBINING LATIN SMALL LETTER ",
     "R ROTUNDA,S,LONG S,Z,ALPHA,B,BETA,SCHWA,F,L WITH DOUBLE MIDDLE TILDE,
      O WITH LIGHT CENTRALIZATION STROKE,P,ESH,U WITH LIGHT CENTRALIZATION STROKE,W,
      A WITH DIAERESIS,O WITH DIAERESIS,U WITH DIAERESIS"⟩,
   ⟨0x1DF5, "COMBINING ",
     "UP TACK ABOVE,KAVYKA ABOVE RIGHT,KAVYKA ABOVE LEFT,DOT ABOVE LEFT,WIDE INVERTED BRIDGE BELOW,
      DOT BELOW LEFT,DELETION MARK,DOUBLE INVERTED BREVE BELOW,ALMOST EQUAL TO BELOW,
      LEFT ARROWHEAD ABOVE,RIGHT ARROWHEAD AND DOWN ARROWHEAD BELOW"⟩,
   ⟨0x1E00, "LATIN ",
     "CAPITAL LETTER A WITH RING BELOW,SMALL LETTER A WITH RING BELOW,
      CAPITAL LETTER B WITH DOT ABOVE,SMALL LETTER B WITH DOT ABOVE,
      CAPITAL LETTER B WITH DOT BELOW,SMALL LETTER B WITH DOT BELOW,
      CAPITAL LETTER B WITH LINE BELOW,SMALL LETTER B WITH LINE BELOW,
      CAPITAL LETTER C WITH CEDILLA AND ACUTE,SMALL LETTER C WITH CEDILLA AND ACUTE,
      CAPITAL LETTER D WITH DOT ABOVE,SMALL LETTER D WITH DOT ABOVE,
      CAPITAL LETTER D WITH DOT BELOW,SMALL LETTER D WITH DOT BELOW,
      CAPITAL LETTER D WITH LINE BELOW,SMALL LETTER D WITH LINE BELOW,
      CAPITAL LETTER D WITH CEDILLA,SMALL LETTER D WITH CEDILLA,
      CAPITAL LETTER D WITH CIRCUMFLEX BELOW,SMALL LETTER D WITH CIRCUMFLEX BELOW,
      CAPITAL LETTER E WITH MACRON AND GRAVE,SMALL LETTER E WITH MACRON AND GRAVE,
      CAPITAL LETTER E WITH MACRON AND ACUTE,SMALL LETTER E WITH MACRON AND ACUTE,
      CAPITAL LETTER E WITH CIRCUMFLEX BELOW,SMALL LETTER E WITH CIRCUMFLEX BELOW,
      CAPITAL LETTER E WITH TILDE BELOW,SMALL LETTER E WITH TILDE BELOW,
      CAPITAL LETTER E WITH CEDILLA AND BREVE,SMALL LETTER E WITH CEDILLA AND BREVE,
      CAPITAL LETTER F WITH DOT ABOVE,SMALL LETTER F WITH DOT ABOVE,CAPITAL LETTER G WITH MACRON,
      SMALL LETTER G WITH MACRON,CAPITAL LETTER H WITH DOT ABOVE,SMALL LETTER H WITH DOT ABOVE,
      CAPITAL LETTER H WITH DOT BELOW,SMALL LETTER H WITH DOT BELOW,
      CAPITAL LETTER H WITH DIAERESIS,SMALL LETTER H WITH DIAERESIS,CAPITAL LETTER H WITH CEDILLA,
      SMALL LETTER H WITH CEDILLA,CAPITAL LETTER H WITH BREVE BELOW,
      SMALL LETTER H WITH BREVE BELOW,CAPITAL LETTER I WITH TILDE BELOW,
      SMALL LETTER I WITH TILDE BELOW,CAPITAL LETTER I WITH DIAERESIS AND ACUTE,
      SMALL LETTER I WITH DIAERESIS AND ACUTE,CAPITAL LETTER K WITH ACUTE,
      SMALL LETTER K WITH ACUTE,CAPITAL LETTER K WITH DOT BELOW,SMALL LETTER K WITH DOT BELOW,
      CAPITAL LETTER K WITH LINE BELOW,SMALL LETTER K WITH LINE BELOW,
      CAPITAL LETTER L WITH DOT BELOW,SMALL LETTER L WITH DOT BELOW,
      CAPITAL LETTER L WITH DOT BELOW AND MACRON,SMALL LETTER L WITH DOT BELOW AND MACRON,
      CAPITAL LETTER L WITH LINE BELOW,SMALL LETTER L WITH LINE BELOW,
      CAPITAL LETTER L WITH CIRCUMFLEX BELOW,SMALL LETTER L WITH CIRCUMFLEX BELOW,
      CAPITAL LETTER M WITH ACUTE,SMALL LETTER M WITH ACUTE,CAPITAL LETTER M WITH DOT ABOVE,
      SMALL LETTER M WITH DOT ABOVE,CAPITAL LETTER M WITH DOT BELOW,SMALL LETTER M WITH DOT BELOW,
      CAPITAL LETTER N WITH DOT ABOVE,SMALL LETTER N WITH DOT ABOVE,
      CAPITAL LETTER N WITH DOT BELOW,SMALL LETTER N WITH DOT BELOW,
      CAPITAL LETTER N WITH LINE BELOW,SMALL LETTER N WITH LINE BELOW,
      CAPITAL LETTER N WITH CIRCUMFLEX BELOW,SMALL LETTER N WITH CIRCUMFLEX BELOW,
      CAPITAL LETTER O WITH TILDE AND ACUTE,SMALL LETTER O WITH TILDE AND ACUTE,
      CAPITAL LETTER O WITH TILDE AND DIAERESIS,SMALL LETTER O WITH TILDE AND DIAERESIS,
      CAPITAL LETTER O WITH MACRON AND GRAVE,SMALL LETTER O WITH MACRON AND GRAVE,
      CAPITAL LETTER O WITH MACRON AND ACUTE,SMALL LETTER O WITH MACRON AND ACUTE,
      CAPITAL LETTER P WITH ACUTE,SMALL LETTER P WITH ACUTE,CAPITAL LETTER P WITH DOT ABOVE,
      SMALL LETTER P WITH DOT ABOVE,CAPITAL LETTER R WITH DOT ABOVE,SMALL LETTER R WITH DOT ABOVE,
      CAPITAL LETTER R WITH DOT BELOW,SMALL LETTER R WITH DOT BELOW,
      CAPITAL LETTER R WITH DOT BELOW AND MACRON,SMALL LETTER R WITH DOT BELOW AND MACRON,
      CAPITAL LETTER R WITH LINE BELOW,SMALL LETTER R WITH LINE BELOW,
      CAPITAL LETTER S WITH DOT ABOVE,SMALL LETTER S WITH DOT ABOVE,
      CAPITAL LETTER S WITH DOT BELOW,SMALL LETTER S WITH DOT BELOW,
      CAPITAL LETTER S WITH ACUTE AND DOT ABOVE,SMALL LETTER S WITH ACUTE AND DOT ABOVE,
      CAPITAL LETTER S WITH CARON AND DOT ABOVE,SMALL LETTER S WITH CARON AND DOT ABOVE,
      CAPITAL LETTER S WITH DOT BELOW AND DOT ABOVE,SMALL LETTER S WITH DOT BELOW AND DOT ABOVE,
      CAPITAL LETTER T WITH DOT ABOVE,SMALL LETTER T WITH DOT ABOVE,
      CAPITAL LETTER T WITH DOT BELOW,SMALL LETTER T WITH DOT BELOW,
      CAPITAL LETTER T WITH LINE BELOW,SMALL LETTER T WITH LINE BELOW,
      CAPITAL LETTER T WITH CIRCUMFLEX BELOW,SMALL LETTER T WITH CIRCUMFLEX BELOW,
      CAPITAL LETTER U WITH DIAERESIS BELOW,SMALL LETTER U WITH DIAERESIS BELOW,
      CAPITAL LETTER U WITH TILDE BELOW,SMALL LETTER U WITH TILDE BELOW,
      CAPITAL LETTER U WITH CIRCUMFLEX BELOW,SMALL LETTER U WITH CIRCUMFLEX BELOW,
      CAPITAL LETTER U WITH TILDE AND ACUTE,SMALL LETTER U WITH TILDE AND ACUTE,
      CAPITAL LETTER U WITH MACRON AND DIAERESIS,SMALL LETTER U WITH MACRON AND DIAERESIS,
      CAPITAL LETTER V WITH TILDE,SMALL LETTER V WITH TILDE,CAPITAL LETTER V WITH DOT BELOW,
      SMALL LETTER V WITH DOT BELOW,CAPITAL LETTER W WITH GRAVE,SMALL LETTER W WITH GRAVE,
      CAPITAL LETTER W WITH ACUTE,SMALL LETTER W WITH ACUTE,CAPITAL LETTER W WITH DIAERESIS,
      SMALL LETTER W WITH DIAERESIS,CAPITAL LETTER W WITH DOT ABOVE,SMALL LETTER W WITH DOT ABOVE,
      CAPITAL LETTER W WITH DOT BELOW,SMALL LETTER W WITH DOT BELOW,
      CAPITAL LETTER X WITH DOT ABOVE,SMALL LETTER X WITH DOT ABOVE,
      CAPITAL LETTER X WITH DIAERESIS,SMALL LETTER X WITH DIAERESIS,
      CAPITAL LETTER Y WITH DOT ABOVE,SMALL LETTER Y WITH DOT ABOVE,
      CAPITAL LETTER Z WITH CIRCUMFLEX,SMALL LETTER Z WITH CIRCUMFLEX,
      CAPITAL LETTER Z WITH DOT BELOW,SMALL LETTER Z WITH DOT BELOW,
      CAPITAL LETTER Z WITH LINE BELOW"⟩,
   ⟨0x1E95, "LATIN SMALL LETTER ",
     "Z WITH LINE BELOW,H WITH LINE BELOW,T WITH DIAERESIS,W WITH RING ABOVE,Y WITH RING ABOVE,
      A WITH RIGHT HALF RING,LONG S WITH DOT ABOVE,LONG S WITH DIAGONAL STROKE,
      LONG S WITH HIGH STROKE"⟩,
   ⟨0x1E9E, "LATIN ",
     "CAPITAL LETTER SHARP S,SMALL LETTER DELTA,CAPITAL LETTER A WITH DOT BELOW,
      SMALL LETTER A WITH DOT BELOW,CAPITAL LETTER A WITH HOOK ABOVE,
      SMALL LETTER A WITH HOOK ABOVE,CAPITAL LETTER A WITH CIRCUMFLEX AND ACUTE,
      SMALL LETTER A WITH CIRCUMFLEX AND ACUTE,CAPITAL LETTER A WITH CIRCUMFLEX AND GRAVE,
      SMALL LETTER A WITH CIRCUMFLEX AND GRAVE,CAPITAL LETTER A WITH CIRCUMFLEX AND HOOK ABOVE,
      SMALL LETTER A WITH CIRCUMFLEX AND HOOK ABOVE,CAPITAL LETTER A WITH CIRCUMFLEX AND TILDE,
      SMALL LETTER A WITH CIRCUMFLEX AND TILDE,CAPITAL LETTER A WITH CIRCUMFLEX AND DOT BELOW,
      SMALL LETTER A WITH CIRCUMFLEX AND DOT BELOW,CAPITAL LETTER A WITH BREVE AND ACUTE,
      SMALL LETTER A WITH BREVE AND ACUTE,CAPITAL LETTER A WITH BREVE AND GRAVE,
      SMALL LETTER A WITH BREVE AND GRAVE,CAPITAL LETTER A WITH BREVE AND HOOK ABOVE,
      SMALL LETTER A WITH BREVE AND HOOK ABOVE,CAPITAL LETTER A WITH BREVE AND TILDE,
      SMALL LETTER A WITH BREVE AND TILDE,CAPITAL LETTER A WITH BREVE AND DOT BELOW,
      SMALL LETTER A WITH BREVE AND DOT BELOW,CAPITAL LETTER E WITH DOT BELOW,
      SMALL LETTER E WITH DOT BELOW,CAPITAL LETTER E WITH HOOK ABOVE,
      SMALL LETTER E WITH HOOK ABOVE,CAPITAL LETTER E WITH TILDE,SMALL LETTER E WITH TILDE,
      CAPITAL LETTER E WITH CIRCUMFLEX AND ACUTE,SMALL LETTER E WITH CIRCUMFLEX AND ACUTE,
      CAPITAL LETTER E WITH CIRCUMFLEX AND GRAVE,SMALL LETTER E WITH CIRCUMFLEX AND GRAVE,
      CAPITAL LETTER E WITH CIRCUMFLEX AND HOOK ABOVE,
      SMALL LETTER E WITH CIRCUMFLEX AND HOOK ABOVE,CAPITAL LETTER E WITH CIRCUMFLEX AND TILDE,
      SMALL LETTER E WITH CIRCUMFLEX AND TILDE,CAPITAL LETTER E WITH CIRCUMFLEX AND DOT BELOW,
      SMALL LETTER E WITH CIRCUMFLEX AND DOT BELOW,CAPITAL LETTER I WITH HOOK ABOVE,
      SMALL LETTER I WITH HOOK ABOVE,CAPITAL LETTER I WITH DOT BELOW,SMALL LETTER I WITH DOT BELOW,
      CAPITAL LETTER O WITH DOT BELOW,SMALL LETTER O WITH DOT BELOW,
      CAPITAL LETTER O WITH HOOK ABOVE,SMALL LETTER O WITH HOOK ABOVE,
      CAPITAL LETTER O WITH CIRCUMFLEX AND ACUTE,SMALL LETTER O WITH CIRCUMFLEX AND ACUTE,
      CAPITAL LETTER O WITH CIRCUMFLEX AND GRAVE,SMALL LETTER O WITH CIRCUMFLEX AND GRAVE,
      CAPITAL LETTER O WITH CIRCUMFLEX AND HOOK ABOVE,
      SMALL LETTER O WITH CIRCUMFLEX AND HOOK ABOVE,CAPITAL LETTER O WITH CIRCUMFLEX AND TILDE,
      SMALL LETTER O WITH CIRCUMFLEX AND TILDE,CAPITAL LETTER O WITH CIRCUMFLEX AND DOT BELOW,
      SMALL LETTER O WITH CIRCUMFLEX AND DOT BELOW,CAPITAL LETTER O WITH HORN AND ACUTE,
      SMALL LETTER O WITH HORN AND ACUTE,CAPITAL LETTER O WITH HORN AND GRAVE,
      SMALL LETTER O WITH HORN AND GRAVE,CAPITAL LETTER O WITH HORN AND HOOK ABOVE,
      SMALL LETTER O WITH HORN AND HOOK ABOVE,CAPITAL LETTER O WITH HORN AND TILDE,
      SMALL LETTER O WITH HORN AND TILDE,CAPITAL LETTER O WITH HORN AND DOT BELOW,
      SMALL LETTER O WITH HORN AND DOT BELOW,CAPITAL LETTER U WITH DOT BELOW,
      SMALL LETTER U WITH DOT BELOW,CAPITAL LETTER U WITH HOOK ABOVE,
      SMALL LETTER U WITH HOOK ABOVE,CAPITAL LETTER U WITH HORN AND ACUTE,
      SMALL LETTER U WITH HORN AND ACUTE,CAPITAL LETTER U WITH HORN AND GRAVE,
      SMALL LETTER U WITH HORN AND GRAVE,CAPITAL LETTER U WITH HORN AND HOOK ABOVE,
      SMALL LETTER U WITH HORN AND HOOK ABOVE,CAPITAL LETTER U WITH HORN AND TILDE,
      SMALL LETTER U WITH HORN AND TILDE,CAPITAL LETTER U WITH HORN AND DOT BELOW,
      SMALL LETTER U WITH HORN AND DOT BELOW,CAPITAL LETTER Y WITH GRAVE,SMALL LETTER Y WITH GRAVE,
      CAPITAL LETTER Y WITH DOT BELOW,SMALL LETTER Y WITH DOT BELOW,
      CAPITAL LETTER Y WITH HOOK ABOVE,SMALL LETTER Y WITH HOOK ABOVE,CAPITAL LETTER Y WITH TILDE,
      SMALL LETTER Y WITH TILDE,CAPITAL LETTER MIDDLE-WELSH LL,SMALL LETTER MIDDLE-WELSH LL,
      CAPITAL LETTER MIDDLE-WELSH V,SMALL LETTER MIDDLE-WELSH V,CAPITAL LETTER Y WITH LOOP,
      SMALL LETTER Y WITH LOOP"⟩,
   ⟨0x1F00, "GREEK SMALL LETTER ALPHA WITH ",
     "PSILI,DASIA,PSILI AND VARIA,DASIA AND VARIA,PSILI AND OXIA,DASIA AND OXIA,
      PSILI AND PERISPOMENI,DASIA AND PERISPOMENI"⟩,
   ⟨0x1F08, "GREEK CAPITAL LETTER ALPHA WITH ",
     "PSILI,DASIA,PSILI AND VARIA,DASIA AND VARIA,PSILI AND OXIA,DASIA AND OXIA,
      PSILI AND PERISPOMENI,DASIA AND PERISPOMENI"⟩,
   ⟨0x1F10, "GREEK SMALL LETTER EPSILON WITH ",
     "PSILI,DASIA,PSILI AND VARIA,DASIA AND VARIA,PSILI AND OXIA,DASIA AND OXIA"⟩,
   ⟨0x1F18, "GREEK CAPITAL LETTER EPSILON WITH ",
     "PSILI,DASIA,PSILI AND VARIA,DASIA AND VARIA,PSILI AND OXIA,DASIA AND OXIA"⟩,
   ⟨0x1F20, "GREEK SMALL LETTER ETA WITH ",
     "PSILI,DASIA,PSILI AND VARIA,DASIA AND VARIA,PSILI AND OXIA,DASIA AND OXIA,
      PSILI AND PERISPOMENI,DASIA AND PERISPOMENI"⟩,
   ⟨0x1F28, "GREEK CAPITAL LETTER ETA WITH ",
     "PSILI,DASIA,PSILI AND VARIA,DASIA AND VARIA,PSILI AND OXIA,DASIA AND OXIA,
      PSILI AND PERISPOMENI,DASIA AND PERISPOMENI"⟩,
   ⟨0x1F30, "GREEK SMALL LETTER IOTA WITH ",
     "PSILI,DASIA,PSILI AND VARIA,DASIA AND VARIA,PSILI AND OXIA,DASIA AND OXIA,
      PSILI AND PERISPOMENI,DASIA AND PERISPOMENI"⟩,
   ⟨0x1F38, "GREEK CAPITAL LETTER IOTA WITH ",
     "PSILI,DASIA,PSILI AND VARIA,DASIA AND VARIA,PSILI AND OXIA,DASIA AND OXIA,
      PSILI AND PERISPOMENI,DASIA AND PERISPOMENI"⟩,
   ⟨0x1F40, "GREEK SMALL LETTER OMICRON WITH ",
     "PSILI,DASIA,PSILI AND VARIA,DASIA AND VARIA,PSILI AND OXIA,DASIA AND OXIA"⟩,
   ⟨0x1F48, "GREEK CAPITAL LETTER OMICRON WITH ",
     "PSILI,DASIA,PSILI AND VARIA,DASIA AND VARIA,PSILI AND OXIA,DASIA AND OXIA"⟩,
   ⟨0x1F50, "GREEK SMALL LETTER UPSILON WITH ",
     "PSILI,DASIA,PSILI AND VARIA,DASIA AND VARIA,PSILI AND OXIA,DASIA AND OXIA,
      PSILI AND PERISPOMENI,DASIA AND PERISPOMENI"⟩,
   ⟨0x1F59, "GREEK CAPITAL LETTER UPSILON WITH ",
     "DASIA,,DASIA AND VARIA,,DASIA AND OXIA,,DASIA AND PERISPOMENI"⟩,
   ⟨0x1F60, "GREEK SMALL LETTER OMEGA WITH ",
     "PSILI,DASIA,PSILI AND VARIA,DASIA AND VARIA,PSILI AND OXIA,DASIA AND OXIA,
      PSILI AND PERISPOMENI,DASIA AND PERISPOMENI"⟩,
   ⟨0x1F68, "GREEK CAPITAL LETTER OMEGA WITH ",
     "PSILI,DASIA,PSILI AND VARIA,DASIA AND VARIA,PSILI AND OXIA,DASIA AND OXIA,
      PSILI AND PERISPOMENI,DASIA AND PERISPOMENI"⟩,
   ⟨0x1F70, "GREEK SMALL LETTER ",
     "ALPHA WITH VARIA,ALPHA WITH OXIA,EPSILON WITH VARIA,EPSILON WITH OXIA,ETA WITH VARIA,
      ETA WITH OXIA,IOTA WITH VARIA,IOTA WITH OXIA,OMICRON WITH VARIA,OMICRON WITH OXIA,
      UPSILON WITH VARIA,UPSILON WITH OXIA,OMEGA WITH VARIA,OMEGA WITH OXIA"⟩,
   ⟨0x1F80, "GREEK SMALL LETTER ALPHA WITH ",
     "PSILI AND YPOGEGRAMMENI,DASIA AND YPOGEGRAMMENI,PSILI AND VARIA AND YPOGEGRAMMENI,
      DASIA AND VARIA AND YPOGEGRAMMENI,PSILI AND OXIA AND YPOGEGRAMMENI,
      DASIA AND OXIA AND YPOGEGRAMMENI,PSILI AND PERISPOMENI AND YPOGEGRAMMENI,
      DASIA AND PERISPOMENI AND YPOGEGRAMMENI"⟩,
   ⟨0x1F88, "GREEK CAPITAL LETTER ALPHA WITH ",
     "PSILI AND PROSGEGRAMMENI,DASIA AND PROSGEGRAMMENI,PSILI AND VARIA AND PROSGEGRAMMENI,
      DASIA AND VARIA AND PROSGEGRAMMENI,PSILI AND OXIA AND PROSGEGRAMMENI,
      DASIA AND OXIA AND PROSGEGRAMMENI,PSILI AND PERISPOMENI AND PROSGEGRAMMENI,
      DASIA AND PERISPOMENI AND PROSGEGRAMMENI"⟩,
   ⟨0x1F90, "GREEK SMALL LETTER ETA WITH ",
     "PSILI AND YPOGEGRAMMENI,DASIA AND YPOGEGRAMMENI,PSILI AND VARIA AND YPOGEGRAMMENI,
      DASIA AND VARIA AND YPOGEGRAMMENI,PSILI AND OXIA AND YPOGEGRAMMENI,
      DASIA AND OXIA AND YPOGEGRAMMENI,PSILI AND PERISPOMENI AND YPOGEGRAMMENI,
      DASIA AND PERISPOMENI AND YPOGEGRAMMENI"⟩,
   ⟨0x1F98, "GREEK CAPITAL LETTER ETA WITH ",
     "PSILI AND PROSGEGRAMMENI,DASIA AND PROSGEGRAMMENI,PSILI AND VARIA AND PROSGEGRAMMENI,
      DASIA AND VARIA AND PROSGEGRAMMENI,PSILI AND OXIA AND PROSGEGRAMMENI,
      DASIA AND OXIA AND PROSGEGRAMMENI,PSILI AND PERISPOMENI AND PROSGEGRAMMENI,
      DASIA AND PERISPOMENI AND PROSGEGRAMMENI"⟩,
   ⟨0x1FA0, "GREEK SMALL LETTER OMEGA WITH ",
     "PSILI AND YPOGEGRAMMENI,DASIA AND YPOGEGRAMMENI,PSILI AND VARIA AND YPOGEGRAMMENI,
      DASIA AND VARIA AND YPOGEGRAMMENI,PSILI AND OXIA AND YPOGEGRAMMENI,
      DASIA AND OXIA AND YPOGEGRAMMENI,PSILI AND PERISPOMENI AND YPOGEGRAMMENI,
      DASIA AND PERISPOMENI AND YPOGEGRAMMENI"⟩,
   ⟨0x1FA8, "GREEK CAPITAL LETTER OMEGA WITH ",
     "PSILI AND PROSGEGRAMMENI,DASIA AND PROSGEGRAMMENI,PSILI AND VARIA AND PROSGEGRAMMENI,
      DASIA AND VARIA AND PROSGEGRAMMENI,PSILI AND OXIA AND PROSGEGRAMMENI,
      DASIA AND OXIA AND PROSGEGRAMMENI,PSILI AND PERISPOMENI AND PROSGEGRAMMENI,
      DASIA AND PERISPOMENI AND PROSGEGRAMMENI"⟩,
   ⟨0x1FB0, "GREEK SMALL LETTER ALPHA WITH ",
     "VRACHY,MACRON,VARIA AND YPOGEGRAMMENI,YPOGEGRAMMENI,OXIA AND YPOGEGRAMMENI,,PERISPOMENI,
      PERISPOMENI AND YPOGEGRAMMENI"⟩,
   ⟨0x1FB8, "GREEK CAPITAL LETTER ALPHA WITH ", "VRACHY,MACRON,VARIA,OXIA,PROSGEGRAMMENI"⟩,
   ⟨0x1FBD, "GREEK ", "KORONIS,PROSGEGRAMMENI,PSILI,PERISPOMENI,DIALYTIKA AND PERISPOMENI"⟩,
   ⟨0x1FC2, "GREEK SMALL LETTER ETA WITH ",
     "VARIA AND YPOGEGRAMMENI,YPOGEGRAMMENI,OXIA AND YPOGEGRAMMENI,,PERISPOMENI,
      PERISPOMENI AND YPOGEGRAMMENI"⟩,
   ⟨0x1FC8, "GREEK CAPITAL LETTER ",
     "EPSILON WITH VARIA,EPSILON WITH OXIA,ETA WITH VARIA,ETA WITH OXIA,ETA WITH PROSGEGRAMMENI"⟩,
   ⟨0x1FCD, "GREEK PSILI AND ", "VARIA,OXIA,PERISPOMENI"⟩,
   ⟨0x1FD0, "GREEK SMALL LETTER IOTA WITH ",
     "VRACHY,MACRON,DIALYTIKA AND VARIA,DIALYTIKA AND OXIA,,,PERISPOMENI,
      DIALYTIKA AND PERISPOMENI"⟩,
   ⟨0x1FD8, "GREEK CAPITAL LETTER IOTA WITH ", "VRACHY,MACRON,VARIA,OXIA"⟩,
   ⟨0x1FDD, "GREEK DASIA AND ", "VARIA,OXIA,PERISPOMENI"⟩,
   ⟨0x1FE0, "GREEK SMALL LETTER ",
     "UPSILON WITH VRACHY,UPSILON WITH MACRON,UPSILON WITH DIALYTIKA AND VARIA,
      UPSILON WITH DIALYTIKA AND OXIA,RHO WITH PSILI,RHO WITH DASIA,UPSILON WITH PERISPOMENI,
      UPSILON WITH DIALYTIKA AND PERISPOMENI"⟩,
   ⟨0x1FE8, "GREEK CAPITAL LETTER UPSILON WITH ", "VRACHY,MACRON,VARIA,OXIA"⟩,
   ⟨0x1FEC, "GREEK ",
     "CAPITAL LETTER RHO WITH DASIA,DIALYTIKA AND VARIA,DIALYTIKA AND OXIA,VARIA"⟩,
   ⟨0x1FF2, "GREEK SMALL LETTER OMEGA WITH ",
     "VARIA AND YPOGEGRAMMENI,YPOGEGRAMMENI,OXIA AND YPOGEGRAMMENI,,PERISPOMENI,
      PERISPOMENI AND YPOGEGRAMMENI"⟩,
   ⟨0x1FF8, "GREEK CAPITAL LETTER ",
     "OMICRON WITH VARIA,OMICRON WITH OXIA,OMEGA WITH VARIA,OMEGA WITH OXIA,
      OMEGA WITH PROSGEGRAMMENI"⟩,
   ⟨0x1FFD, "GREEK ", "OXIA,DASIA"⟩]

end RuleLexer.Text
