import RpcClients.Text.Split

/-! # Frequent words of names

Words that many names have, the most frequent ones first. In tables of names one lower case letter stands for
each of the first 26 words, and two of them for each of the others. -/

namespace RpcClients.Text.Name

def frequentLines : List String :=
  ["CAPITAL LETTER;WITH;SMALL;LETTER;RIGHT;RIGHTWARDS;SIGN;DOUBLE;LEFT;LEFTWARDS;ABOVE;THREE;VERTICAL;AND;",
   "DOWNWARDS;ARROW;BLACK;ALEF MAKSURA;ISOLATED;HORIZONTAL;FINAL;WEST-CREE;DIGIT ZERO;WHITE;BELOW;FOUR;CAPITAL;",
   "MIDDLE;UPWARDS;SYMBOL;TIMES;EIGHT;REVERSED;INITIAL;STROKE;SEVEN;CIRCLE;CIRCUMFLEX;HEAVY;TRIANGLE;FIVE;",
   "POINTING;MARK;INVERTED;LESS-THAN;TURNED;VOWEL;SQUARE;ONE HUNDRED;TWO;VOCALIC;GREATER;DIAERESIS;PLUS;DOWN;",
   "ANUSVARA;NINE;PUNCTUATION;MEDIUM;COMBINING;LOWER;MEEM;ONE;LIGHT;SINGLE;NUMBER;EQUAL TO;BRACKET;CIRCLED;MEDIAL;",
   "CANDRABINDU;UPPER;DASIA;PSILI;PERISPOMENI;HOOK;OVER;TILDE;DIAGONAL;EXCLAMATION;PARENTHESIS;DOT;DOTS;LARGE;",
   "CENTRE;ACUTE;MODIFIER;CROSSING;HARPOON;THUMB;TWENTY;ANTICLOCKWISE;FLOORPLANE;FULL STOP;RETROFLEX;INDEX;",
   "ABBREVIATION;HALF;MACRON;NORTH WEST;VISARGA;HIGH;THOUSAND;SHORT;JEEM;WALLPLANE;LONG;INTERSECTION;LIGATURE;",
   "KIYEOK;GRAVE;ALTERNATING;OPEN;VIRAMA;RING;QUESTION;LATIN;GLOTTAL STOP;OPERATOR;SIX;TRIPLE;FACE;CONSONANT;",
   "SIMPLIFIED;QUARTER;SQUARED;ANGLE;SUPERSET;HEADED;YENISEI;UPSILON;ARROWHEAD;VARIANT FORM;DIAMOND;SOUTH;TIKEUT;",
   "BOTTOM;NORTH EAST;ALTERNATE;IDEOGRAPHIC;SEPARATOR;STRAIGHT;VARIA;EXTENDED ARABIC-INDIC DIGIT;PIEUP;CLOSED;",
   "EPSILON;ACCENT;EQUALS;LINE;ASTERISK;DOTTED;ORKHON;CONJOINED;YPOGEGRAMMENI;COMMA;LITTLE;FRACTION;",
   "TORTOISE SHELL;MULTIPLICATION;KHAH;REVERSE SOLIDUS;THIRTY;TONE;BREVE;MOVEMENT;PHIEUPH;DIGRAPH;POINTED;LOW;YEH;",
   "GUNU;OMEGA;HIEUH;HAMZA;NEUTRAL;THIEUTH;ROTATED;ALPHA;FIFTY;RAISED;SIOS;SUBSET;BARB;DESCENDER;NORMAL SUBGROUP;",
   "SYLLABLE;AVAGRAHA;SUPERSCRIPT;PARTIAL DIFFERENTIAL;HAH;TAIL;SECTION;CHIEUCH;OMICRON;CROSS;OXIA;KNIGHT;",
   "NEGATIVE;CLOCKWISE;TTHA;MAHAAPRAANA;TEN;SCRIPT;ARCHAIC;EIGHTH;SEVENTY;OLD COPTIC;CEDILLA;SANS-SERIF;SLANTED;",
   "BETWEEN;SIMALUNGUN;CYRILLIC;BAR;DDHA;MIEUM;RIEUL;UNDERBAR;SEMICOLON;QUOTATION;DIALYTIKA;ALEF;HUNDRED;CROSSED;",
   "CIEUC;KHIEUKH;SMILING;FINGERS;NGA;SHA;COLON;NOON;NINETY;TRIANGULAR;HEART;THETA;PROSGEGRAMMENI;PRECEDES;",
   "SUCCEEDS;ALPAPRAANA;WRIST FLEX;GAN2 TENU;FORWARD;HITTING;CHA;QUARTERS;KAPYEOUNPIEUP;MINUS;NUKTA;ORNAMENT;",
   "ARCHAION;NYA;PANSIOS;DOTLESS;KHA;CHESS KING;SSANGSIOS;NIEUN;TELEPHONE;THA;CORNER;SAMEKH;HYPHEN;KATAKANA;",
   "HIRAGANA;SIXTY;MOUTH;END OF;MALO POVYSHE;MULTIPLE;LOGICAL;INTEGRAL;HINGE;IOTA;FIST;CURLY;DELTA;GAMMA;BLOCK;",
   "SHIN;ARABIC;APOSTROPHE;EIGHTY;CANDRA;EQUIVALENT;HINGED;SOLIDUS;CARRIER;PHA;DIGIT;IOTIFIED;SSANGKIYEOK;SHEEN;",
   "FORTY;SHADOWED;DOES NOT;ROTATION;FORM;SEEN;LAMEDH;INSIDE;PERSON;TWELVE;BISHOP;GREEK;CARON;KAPPA;QUEEN;THROUGH;",
   "REVERSE;MUSICAL;EIGHTHS;MATHEMATICAL;TTA;MAHAPRANA;CHARACTER;INDICATOR;SEVENTEEN;DDA;VOICED;GIMEL;VERTICALLY;",
   "GHAIN;VARIATION SELECTOR;DALETH;ELEVEN;HAND;WEST;RISING;EIGHTEEN;NEPOSTOYANNAYA;NOTEHEAD;BOLD;EQUAL;",
   "CONTAINING;DHA;GHA;THAN;OVERLAY;INSULAR;IEUNG;YEORINHIEUH;SIXTEEN;JIHVAMULIYA;UPADHMANIYA;KLYUCHEVAYA;ROUNDED;",
   "SIGMA;OVERBAR;UNION;NASKAPI;NNA;DASH;LENGTH;CRYPTOGRAMMIC;KASKAL;ALMOST;BULLET;EAST;APPROXIMATELY;BHA;",
   "SIDEWAYS;SIXTEENTH;DANDA;ZAYIN;AMPERSAND;SUBSCRIPT;TOP;MOUNTAIN;IDEOGRAPH;THIRTEEN;FOURTEEN;NINETEEN;",
   "QUADRUPLE;NOTATION;TENU;OPPOSING;DIVISION;OUTLINED;PINWHEEL;SIDE;PARALLEL;BENT;BACKSLASH;CONTAINS;EXTENSION;",
   "NUN;SSANGPIEUP;TACK;HORN;ITALIC;NUMERAL;STAR;FIFTEEN;FALLING;INVERSE;ELEMENT;PRODUCT;STRUCK;LARGEST;Y-CREE;",
   "TEDUNG;SLASH;SSA;LAMDA;ALEPH;SADHE;CURVE;TEARDROP-SPOKED;WAW;EYES;SSANGTIKEUT;SOUND;NOT;SECOND;INDEPENDENT;",
   "JAPANESE;WAVE;SVETLAYA;GROMOPOVODNAYA;ENVELOPE;BESIDE;WRINKLED;ALI GALI;THE;PALATAL;SUBJOINED;JHA;LAM;",
   "THOUSANDS;ITERATION;S KRYZHEM;ZAPYATAYA;SHESHIG;LOZENGE;YIG MGO;EXTREMELY;SHE;BETA;RESH;POINT;COMMERCIAL AT;",
   "SPACE;CHECK;THIRD;WATER;EARTH;PARENTHESIZED;GORAZDO NIZKO;FILLER;HANGUL;SSANGCIEUC;BARRED;FOR;LENTICULAR;",
   "THIRDS;CURL;SHAPED;OLD NUBIAN;BRANCH;GEMINATION;CANADIAN SYLLABICS;CURVED;OGONEK;VERY;SPREAD;SAYISI;AIN;HEAD;",
   "SIDDHAM;MURDA;AYIN;FATHA;KASRA;FATHATAN;MONOGRAM;THESPIAN;ASH;FISHHOOK;HETH;CRESCENT;ATTACHED;ZAPYATOY;ROUND;",
   "TAK4;GISH;CURRENCY;CHESS;CANCELLATION;WESTERN PWO KAREN;SUBLIMATE OF;IMAGE OF;TSA;TSHA;UKRAINIAN;LOOP;WORD;",
   "ZAIN;BETH;YODH;KAPH;MOON;FROM;OLD TAMIL;KENTIMATA;PARAGRAPH;ZIGZAG;ARROWS;FINGER;KAF;HEH;DAMMA;TSHEG;",
   "TRESVETLAYA;LAGAB;LLA;RHO;DISH;KAPYEOUNPHIEUPH;PRISHTHAMATRA E;ROOK;OBLIQUE;TAH;QAF;DIVIDER;IOTATED;CORNERS;",
   "NOTCHED;SIMILAR;CEILING;SIXTEENTHS;CARET;SCHWA;YESIEUNG;SSANGNIEUN;REH;DAMMATAN;KASRATAN;ELLIPSIS;DASHED;",
   "OVERLINE;DOLLAR;IDEOGRAM;FOURTH;ZETA;NIKOLSBURG;PHI;GEORGIAN;TUAREG;JOINER;BOX;HORSE;IGI;GAR;FACING;",
   "CENTRALIZATION;UMBRELLA;BALLOT;MEASURED;INFINITY;KEYBOARD;ONCOMING;CURLICUE;QUAD;ORIGINAL;CHI;ZERO;BACK;YANG;",
   "THEH;SAD;FEH;KAPYEOUNMIEUM;PAWN;BALL;PERPENDICULAR;ZHA;NORTH;TAI LAING;MADDA;WOMAN;FIRST;RUDIMENTA;DIALECT-P;",
   "TELEGRAPH;BIRGA;POVODNAYA;BEGIN;CUM PROLATIONE PERFECTA;SEBATBEIT;ABKHASIAN;RECTANGLE;LIGHTNING;TURNSTILE;",
   "IDENTICAL;SUMMATION;RTAGS;GREEN;UNDER;SOFT;KAVYKA;GLOTTAL;SHAN;WITHOUT;KIRGHIZ;SHADDA;PRESENTATION;LESS;",
   "PERCENT;MEASURE;CIRCLES;MYSLITE;DAGGER;FIRE;TONGUE;CLOSING;FEMALE;VYSOKO;DVOECHELNAYA;PARESTIGMENON ARISTERA;",
   "NOTE;CONTACT;DEGREES;NASALIZATION;BRIDGE;ETA;VRACHY;SALTIRE;LIGHTED;OPENING;THEN CURVING;SEMICIRCULAR;HOOKED;",
   "CONSTRUCTION;ORANGE;MOBILE PHONE;CUPPED;BREATHY;OJIBWAY;NEITHER;BEH;MAN;RRA;KLYUCHENEPOSTOYANNAYA;MILLIONS;",
   "EXTRA;PLACEHOLDER;RUPEE;LOGOGRAM;ETHIOPIC;ARMENIAN;ALTERNATIVE;MEM;TEH;DAD;WAVY;SUKUN;TETH;QOPH;INTERROBANG;",
   "TOGETHER;SLOAN;PROSTAYA;GROMNAYA;EKFONITIKON;DIPLI;PARAKLITIKI;TROMIKON;PARAKALESMA;OTTAVA ALTA;PIECE;BAD;",
   "LAGAR;ASH2;EMPTY;SUPRALINEAR;ANUDATTA;QUADRANT;FROWNING;COMPOSITION;OVERLAPPING;BACKSLANTED;POSITION;",
   "CJK UNIFIED;BUILDING;INFORMATION;ELECTRIC;RECEIVER;FLOOR;CREE;CHE;DVOECHELNOPOVODNAYA;MONOGRAMMOS TESSERA;",
   "UNIVERSAL RECYCLING;LENGTHENER;YERU;HARD;BROKEN;BELT;OLD;DEVANAGARI;"]

def frequentWords : Array (List Char) :=
  (frequentLines.flatMap fun line => (pieces ';' line.toList).dropLast).toArray

def letterIndex? (c : Char) : Option Nat := if 'a' ≤ c ∧ c ≤ 'z' then some (c.toNat - 'a'.toNat) else none

/-- The word that lower case letters stand for. -/
def frequentWord? (letters : List Char) : Option (List Char) :=
  match letters.mapM letterIndex? with
  | some [i] => frequentWords[i]?
  | some [i, j] => frequentWords[26 * (i + 1) + j]?
  | _ => none

end RpcClients.Text.Name
