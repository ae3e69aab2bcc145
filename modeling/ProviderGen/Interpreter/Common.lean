import ProviderGen.Interpreter
import ProviderGen.Text.Split

/-!
An interpreter to run with. It knows the names of characters in common use, says nothing of what it
refuses, and does not break down. It knows of no other users, and its clock stands still.
-/

namespace ProviderGen.Interpreter

namespace Common

/-- Names of characters, by the words that they begin with. -/
def names : List (String × String) :=
  [("LATIN CAPITAL LETTER ",
      "A;B;C;D;E;F;G;H;I;J;K;L;M;N;O;P;Q;R;S;T;U;V;W;X;Y;Z;A WITH GRAVE;A WITH ACUTE;" ++
      "A WITH CIRCUMFLEX;A WITH TILDE;A WITH DIAERESIS;A WITH RING ABOVE;AE;C WITH CEDILLA;" ++
      "E WITH GRAVE;E WITH ACUTE;E WITH CIRCUMFLEX;E WITH DIAERESIS;I WITH GRAVE;I WITH ACUTE;" ++
      "I WITH CIRCUMFLEX;I WITH DIAERESIS;ETH;N WITH TILDE;O WITH GRAVE;O WITH ACUTE;" ++
      "O WITH CIRCUMFLEX;O WITH TILDE;O WITH DIAERESIS;O WITH STROKE;U WITH GRAVE;U WITH ACUTE;" ++
      "U WITH CIRCUMFLEX;U WITH DIAERESIS;Y WITH ACUTE;THORN"),
   ("LATIN SMALL LETTER ",
      "A;B;C;D;E;F;G;H;I;J;K;L;M;N;O;P;Q;R;S;T;U;V;W;X;Y;Z;SHARP S;A WITH GRAVE;A WITH ACUTE;" ++
      "A WITH CIRCUMFLEX;A WITH TILDE;A WITH DIAERESIS;A WITH RING ABOVE;AE;C WITH CEDILLA;" ++
      "E WITH GRAVE;E WITH ACUTE;E WITH CIRCUMFLEX;E WITH DIAERESIS;I WITH GRAVE;I WITH ACUTE;" ++
      "I WITH CIRCUMFLEX;I WITH DIAERESIS;ETH;N WITH TILDE;O WITH GRAVE;O WITH ACUTE;" ++
      "O WITH CIRCUMFLEX;O WITH TILDE;O WITH DIAERESIS;O WITH STROKE;U WITH GRAVE;U WITH ACUTE;" ++
      "U WITH CIRCUMFLEX;U WITH DIAERESIS;Y WITH ACUTE;THORN;Y WITH DIAERESIS"),
   ("GREEK CAPITAL LETTER ",
      "ALPHA;BETA;GAMMA;DELTA;EPSILON;ZETA;ETA;THETA;IOTA;KAPPA;LAMDA;MU;NU;XI;OMICRON;PI;RHO;" ++
      "SIGMA;TAU;UPSILON;PHI;CHI;PSI;OMEGA"),
   ("GREEK SMALL LETTER ",
      "ALPHA;BETA;GAMMA;DELTA;EPSILON;ZETA;ETA;THETA;IOTA;KAPPA;LAMDA;MU;NU;XI;OMICRON;PI;RHO;" ++
      "FINAL SIGMA;SIGMA;TAU;UPSILON;PHI;CHI;PSI;OMEGA"),
   ("CYRILLIC CAPITAL LETTER ",
      "A;BE;VE;GHE;DE;IE;ZHE;ZE;I;SHORT I;KA;EL;EM;EN;O;PE;ER;ES;TE;U;EF;HA;TSE;CHE;SHA;SHCHA;" ++
      "HARD SIGN;YERU;SOFT SIGN;E;YU;YA"),
   ("CYRILLIC SMALL LETTER ",
      "A;BE;VE;GHE;DE;IE;ZHE;ZE;I;SHORT I;KA;EL;EM;EN;O;PE;ER;ES;TE;U;EF;HA;TSE;CHE;SHA;SHCHA;" ++
      "HARD SIGN;YERU;SOFT SIGN;E;YU;YA"),
   ("DIGIT ",
      "ZERO;ONE;TWO;THREE;FOUR;FIVE;SIX;SEVEN;EIGHT;NINE"),
   ("COMBINING ",
      "GRAVE ACCENT;ACUTE ACCENT;CIRCUMFLEX ACCENT;TILDE;MACRON;DOT ABOVE;DIAERESIS"),
   ("WHITE ",
      "SQUARE;UP-POINTING TRIANGLE;DIAMOND;CIRCLE;STAR;FROWNING FACE;SMILING FACE;CHESS KING;" ++
      "CHESS QUEEN;CHESS ROOK;CHESS BISHOP;CHESS KNIGHT;CHESS PAWN;HEART SUIT;DIAMOND SUIT;" ++
      "SPADE SUIT;CLUB SUIT"),
   ("BLACK ",
      "SQUARE;UP-POINTING TRIANGLE;DIAMOND;CIRCLE;SUN WITH RAYS;STAR;TELEPHONE;SMILING FACE;" ++
      "CHESS KING;CHESS QUEEN;CHESS ROOK;CHESS BISHOP;CHESS KNIGHT;CHESS PAWN;SPADE SUIT;" ++
      "CLUB SUIT;HEART SUIT;DIAMOND SUIT"),
   ("LEFT",
      " PARENTHESIS; SQUARE BRACKET; CURLY BRACKET;-POINTING DOUBLE ANGLE QUOTATION MARK;" ++
      " SINGLE QUOTATION MARK; DOUBLE QUOTATION MARK;WARDS ARROW; RIGHT ARROW;" ++
      "WARDS DOUBLE ARROW; RIGHT DOUBLE ARROW"),
   ("RIGHT",
      " PARENTHESIS; SQUARE BRACKET; CURLY BRACKET;-POINTING DOUBLE ANGLE QUOTATION MARK;" ++
      " SINGLE QUOTATION MARK; DOUBLE QUOTATION MARK;WARDS ARROW;WARDS DOUBLE ARROW"),
   ("SMILING ",
      "FACE WITH OPEN MOUTH;FACE WITH OPEN MOUTH AND SMILING EYES;" ++
      "FACE WITH OPEN MOUTH AND COLD SWEAT;FACE WITH OPEN MOUTH AND TIGHTLY-CLOSED EYES;" ++
      "FACE WITH HALO;FACE WITH HORNS;FACE WITH SMILING EYES;FACE WITH HEART-SHAPED EYES;" ++
      "FACE WITH SUNGLASSES;CAT FACE WITH OPEN MOUTH;CAT FACE WITH HEART-SHAPED EYES"),
   ("",
      "SPACE;EXCLAMATION MARK;QUOTATION MARK;NUMBER SIGN;DOLLAR SIGN;PERCENT SIGN;AMPERSAND;" ++
      "APOSTROPHE;ASTERISK;PLUS SIGN;COMMA;HYPHEN-MINUS;FULL STOP;SOLIDUS;COLON;SEMICOLON;" ++
      "LESS-THAN SIGN;EQUALS SIGN;GREATER-THAN SIGN;QUESTION MARK;COMMERCIAL AT;" ++
      "REVERSE SOLIDUS;CIRCUMFLEX ACCENT;LOW LINE;GRAVE ACCENT;VERTICAL LINE;TILDE;" ++
      "NO-BREAK SPACE;INVERTED EXCLAMATION MARK;CENT SIGN;POUND SIGN;CURRENCY SIGN;YEN SIGN;" ++
      "BROKEN BAR;SECTION SIGN;DIAERESIS;COPYRIGHT SIGN;FEMININE ORDINAL INDICATOR;NOT SIGN;" ++
      "SOFT HYPHEN;REGISTERED SIGN;MACRON;DEGREE SIGN;PLUS-MINUS SIGN;SUPERSCRIPT TWO;" ++
      "SUPERSCRIPT THREE;ACUTE ACCENT;MICRO SIGN;PILCROW SIGN;MIDDLE DOT;CEDILLA;" ++
      "SUPERSCRIPT ONE;MASCULINE ORDINAL INDICATOR;VULGAR FRACTION ONE QUARTER;" ++
      "VULGAR FRACTION ONE HALF;VULGAR FRACTION THREE QUARTERS;INVERTED QUESTION MARK;" ++
      "MULTIPLICATION SIGN;DIVISION SIGN;EN SPACE;EM SPACE;THREE-PER-EM SPACE;" ++
      "FOUR-PER-EM SPACE;SIX-PER-EM SPACE;FIGURE SPACE;PUNCTUATION SPACE;THIN SPACE;HAIR SPACE;" ++
      "ZERO WIDTH SPACE;ZERO WIDTH NON-JOINER;ZERO WIDTH JOINER;HYPHEN;NON-BREAKING HYPHEN;" ++
      "FIGURE DASH;EN DASH;EM DASH;HORIZONTAL BAR;SINGLE LOW-9 QUOTATION MARK;" ++
      "SINGLE HIGH-REVERSED-9 QUOTATION MARK;DOUBLE LOW-9 QUOTATION MARK;DAGGER;DOUBLE DAGGER;" ++
      "BULLET;HORIZONTAL ELLIPSIS;LINE SEPARATOR;PARAGRAPH SEPARATOR;PER MILLE SIGN;" ++
      "PER TEN THOUSAND SIGN;PRIME;DOUBLE PRIME;SINGLE LEFT-POINTING ANGLE QUOTATION MARK;" ++
      "SINGLE RIGHT-POINTING ANGLE QUOTATION MARK;EURO SIGN;INDIAN RUPEE SIGN;" ++
      "TURKISH LIRA SIGN;NORDIC MARK SIGN;MANAT SIGN;RUBLE SIGN;LARI SIGN;BITCOIN SIGN;" ++
      "NUMERO SIGN;TRADE MARK SIGN;OHM SIGN;ANGSTROM SIGN;UPWARDS ARROW;DOWNWARDS ARROW;" ++
      "UP DOWN ARROW;NORTH WEST ARROW;NORTH EAST ARROW;SOUTH EAST ARROW;SOUTH WEST ARROW;" ++
      "UPWARDS DOUBLE ARROW;DOWNWARDS DOUBLE ARROW;FOR ALL;COMPLEMENT;PARTIAL DIFFERENTIAL;" ++
      "THERE EXISTS;THERE DOES NOT EXIST;EMPTY SET;INCREMENT;NABLA;ELEMENT OF;" ++
      "NOT AN ELEMENT OF;SMALL ELEMENT OF;CONTAINS AS MEMBER;DOES NOT CONTAIN AS MEMBER;" ++
      "SMALL CONTAINS AS MEMBER;END OF PROOF;N-ARY PRODUCT;N-ARY COPRODUCT;N-ARY SUMMATION;" ++
      "MINUS SIGN;MINUS-OR-PLUS SIGN;DOT PLUS;RING OPERATOR;BULLET OPERATOR;SQUARE ROOT;" ++
      "CUBE ROOT;FOURTH ROOT;PROPORTIONAL TO;INFINITY;LOGICAL AND;LOGICAL OR;INTERSECTION;" ++
      "UNION;INTEGRAL;ALMOST EQUAL TO;NOT EQUAL TO;IDENTICAL TO;LESS-THAN OR EQUAL TO;" ++
      "GREATER-THAN OR EQUAL TO;SUBSET OF;SUPERSET OF;NOT A SUBSET OF;NOT A SUPERSET OF;" ++
      "SUBSET OF OR EQUAL TO;SUPERSET OF OR EQUAL TO;CLOUD;UMBRELLA;SNOWMAN;COMET;BALLOT BOX;" ++
      "BALLOT BOX WITH CHECK;BALLOT BOX WITH X;HOT BEVERAGE;SKULL AND CROSSBONES;CAUTION SIGN;" ++
      "RADIOACTIVE SIGN;BIOHAZARD SIGN;PEACE SYMBOL;YIN YANG;EIGHTH NOTE;BEAMED EIGHTH NOTES;" ++
      "BEAMED SIXTEENTH NOTES;MUSIC FLAT SIGN;MUSIC NATURAL SIGN;MUSIC SHARP SIGN;CHECK MARK;" ++
      "HEAVY CHECK MARK;MULTIPLICATION X;HEAVY MULTIPLICATION X;BALLOT X;SPARKLES;" ++
      "HEAVY BLACK HEART;ZERO WIDTH NO-BREAK SPACE;REPLACEMENT CHARACTER;SNAKE;PARTY POPPER;" ++
      "THUMBS UP SIGN;THUMBS DOWN SIGN;PILE OF POO;FIRE;GRINNING FACE;" ++
      "GRINNING FACE WITH SMILING EYES;FACE WITH TEARS OF JOY;WINKING FACE;" ++
      "FACE SAVOURING DELICIOUS FOOD;RELIEVED FACE;SMIRKING FACE;NEUTRAL FACE;" ++
      "EXPRESSIONLESS FACE;UNAMUSED FACE;FACE WITH COLD SWEAT;PENSIVE FACE;CONFUSED FACE;" ++
      "CONFOUNDED FACE;KISSING FACE;FACE THROWING A KISS;KISSING FACE WITH SMILING EYES;" ++
      "KISSING FACE WITH CLOSED EYES;FACE WITH STUCK-OUT TONGUE;" ++
      "FACE WITH STUCK-OUT TONGUE AND WINKING EYE;" ++
      "FACE WITH STUCK-OUT TONGUE AND TIGHTLY-CLOSED EYES;DISAPPOINTED FACE;WORRIED FACE;" ++
      "ANGRY FACE;POUTING FACE;CRYING FACE;PERSEVERING FACE;FACE WITH LOOK OF TRIUMPH;" ++
      "DISAPPOINTED BUT RELIEVED FACE;FROWNING FACE WITH OPEN MOUTH;ANGUISHED FACE;" ++
      "FEARFUL FACE;WEARY FACE;SLEEPY FACE;TIRED FACE;GRIMACING FACE;LOUDLY CRYING FACE;" ++
      "FACE WITH OPEN MOUTH;HUSHED FACE;FACE WITH OPEN MOUTH AND COLD SWEAT;" ++
      "FACE SCREAMING IN FEAR;ASTONISHED FACE;FLUSHED FACE;SLEEPING FACE;DIZZY FACE;" ++
      "FACE WITHOUT MOUTH;FACE WITH MEDICAL MASK;GRINNING CAT FACE WITH SMILING EYES;" ++
      "CAT FACE WITH TEARS OF JOY;CAT FACE WITH WRY SMILE;KISSING CAT FACE WITH CLOSED EYES;" ++
      "POUTING CAT FACE;CRYING CAT FACE;WEARY CAT FACE;SLIGHTLY FROWNING FACE;" ++
      "SLIGHTLY SMILING FACE;UPSIDE-DOWN FACE;FACE WITH ROLLING EYES;FACE WITH NO GOOD GESTURE;" ++
      "FACE WITH OK GESTURE;PERSON BOWING DEEPLY;SEE-NO-EVIL MONKEY;HEAR-NO-EVIL MONKEY;" ++
      "SPEAK-NO-EVIL MONKEY;HAPPY PERSON RAISING ONE HAND;" ++
      "PERSON RAISING BOTH HANDS IN CELEBRATION;PERSON FROWNING;PERSON WITH POUTING FACE;" ++
      "PERSON WITH FOLDED HANDS;ROCKET;NULL;NUL;ALERT;BEL;BACKSPACE;BS;CHARACTER TABULATION;" ++
      "HORIZONTAL TABULATION;TAB;LINE FEED;NEW LINE;LF;LINE TABULATION;VERTICAL TABULATION;" ++
      "FORM FEED;CARRIAGE RETURN;CR;ESCAPE;ESC;DELETE;DEL;NEXT LINE;NBSP;SHY;ZWSP;ZWNJ;ZWJ;" ++
      "BYTE ORDER MARK;BOM")]

/-- Small letters count as capitals. -/
def namesCharacter (text : List Char) : Bool :=
  let name := text.map Char.toUpper
  names.any fun (words, ends) =>
    words.toList.isPrefixOf name &&
      (Text.pieces ';' ends).contains (String.ofList (name.drop words.length))

scoped instance common : Interpreter where
  namesCharacter := namesCharacter
  sourceComplaint := fun _ => ""
  sourceBreakdown? := fun _ => none
  documentComplaint := fun _ => ""
  documentBreakdown? := fun _ => none
  homeOf? := fun _ => none
  moment := fun _ => "2024-01-01 00:00:00,000"
  elapsed := fun _ => "0.00s"

end Common

end ProviderGen.Interpreter
