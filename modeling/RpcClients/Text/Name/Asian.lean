import RpcClients.Text.Name.Block

/-! # Names of letters and signs of East Asia -/

namespace RpcClients.Text.Name

/-- Glagolitic, Coptic, Tifinagh and Ethiopic additions, and further punctuation. -/
def glagoliticNames : Block where
  first := 0x2C00
  lines :=
    ["0GLAGOLITIC a AZU;3BUKY;3VEDE;3GLAGOLI;3DOBRO;3YESTU;3ZHIVETE;3DZELO;3ZEMLJA;3IZHE;3ah+1;3I;3DJERVI;3KAKO;",
     "3LJUDIJE;3wo;3NASHI;3ONU;3POKOJI;3RITSI;3SLOVO;3TVRIDO;3UKU;3FRITU;3HERU;3OTU;3PE;3SHTA;3TSI;3CHRIVI;3hw;3zu;",
     "3YERI;3YATI;3SPIDERY HA;3YU;3c YUS;5b gj;3YO;3tg c YUS;3BIG+1;3tg+2;3FITA;3IZHITSA;3SHTAPIC;3TROKUTASTI A;",
     "3LATINATE wo;3CAUDATE CHRIVI;1c d AZU;3BUKY;3VEDE;3GLAGOLI;3DOBRO;3YESTU;3ZHIVETE;3DZELO;3ZEMLJA;3IZHE;3ah+1;",
     "3I;3DJERVI;3KAKO;3LJUDIJE;3wo;3NASHI;3ONU;3POKOJI;3RITSI;3SLOVO;3TVRIDO;3UKU;3FRITU;3HERU;3OTU;3PE;3SHTA;3TSI;",
     "3CHRIVI;3hw;3zu;3YERI;3YATI;3SPIDERY HA;3YU;3c YUS;5b gj;3YO;3tg c YUS;3BIG+1;3tg+2;3FITA;3IZHITSA;3SHTAPIC;",
     "3TROKUTASTI A;3LATINATE wo;3CAUDATE CHRIVI;0dm a L b h hg;1c+5;1a L b ab bz;3P b ai;3R b gj;1c d A b ai;",
     "3T b ca+1;1a H b gc;1c+4;1a K+2;1c+4;1a Z+2;1c+4;1a fw;3M b bx;3at A;4fw;1c d V b e bx;1a W b+1;1c+4;3V b qp;",
     "1a ct H;1c+3;3TAILLESS ub;3E b NOTCH;3at R b gj;3O b fn dk kp;1d c aa at E;1nd c d J;0ci d aa V;",
     "0dm a S b SWASH gj;3Z+3;0COPTIC a ALFA;1c+2;1a VIDA;1c+2;1a js;1c+2;1a DALDA;1c+2;1a EIE;1c+2;1a SOU;1c+2;",
     "1a ZATA;1c+2;1a HATE;1c+2;1a THETHE;1c+2;1a IAUDA;1c+2;1a KAPA;1c+2;1a LAULA;1c+2;1a MI;1c+2;1a NI;1c+2;",
     "1a KSI;1c+2;1a O;1c+2;1a PI;1c+2;1a RO;1c+2;1a SIMA;1c+2;1a TAU;1c+2;1a UA;1c+2;1a FI;1c+2;1a KHI;1c+2;1a PSI;",
     "1c+2;1a OOU;1c+2;1a vm ho;1c+4;1a gz ra;1c+4;1a mr EIE;1c+3;1a vm KAPA;1c+4;1a vm NI;1c+4;1a mr+1;1c+3;",
     "1a gz OOU;1c+4;1a SAMPI;1c+2;1a hq SHEI;1c+3;1a gz+1;1c+4;1a gz ESH;1c+4;1a AKHMIMIC KHEI;1c+3;1a vm HORI;",
     "1c+4;1a gz+1;1c+4;1a gz HA;1c+4;1a L-qq+1;1c+4;1a gz HEI;1c+4;1a gz HAT;1c+4;1a gz GANGIA;1c+4;1a gz DJA;1c+4;",
     "1a gz SHIMA;1c+4;1a qr+1;1c+4;1a qr NGI;1c+4;1a qr NYI;1c+4;1a qr WAU;1c+4;1ad KAI;2MI RO;2PI+1;2STAUROS;",
     "2TAU RO;2KHI+1;2SHIMA SIMA;1a mr SHEI;1c+3;1a mr GANGIA;1c+3;1bh NI k;2SPIRITUS ASPER;3LENIS;1a BOHAIRIC KHEI;",
     "1c+3;-5;1qr cp;3DIRECT dl aq;3INDIRECT+2;3VERSE tf;1fb bk ct;1cp;1MORPHOLOGICAL tf;0uc c d AN;3BAN;3GAN;3DON;",
     "3EN;3VIN;3ZEN;3TAN;3IN;3KAN;3LAS;3xs;3NAR;3ON;3PAR;3ZHAR;3RAE;3SAN;3TAR;3UN;3PHAR;3KHAR;3GHAN;3QAR;3ju;3CHIN;",
     "3CAN;3JIL;3CIL;3CHAR;3XAN;3JHAN;3HAE;3HE;3HIE;3WE;3HAR;3HOE;;3YN;-5;3AEN;;;0TIFINAGH d YA;2YAB;2YABH;2YAG;",
     "2YAGHH;2BERBER ACADEMY YAJ;2+1;2YAD;2YADH;2YADD;2YADDH;2YEY;2YAF;2YAK;2ud+1;2YAKHH;2YAH;2BERBER ACADEMY+1;",
     "2ud+1;2YAHH;2YAA;2YAKH;2ud+1;2YAQ;2ud+1;2YI;2YAZH;2AHAGGAR+1;2ud+1;2YAL;+2;2ud YAGN;3ux;2YAP;2YU;2YAR;2YARR;",
     "2YAGH;2ud+1;2AYER+1;2YAS;2YASS;2YASH;2YAT;2YATH;2YACH;2YATT;2YAV;+1;2YAY;+1;2TAWELLEMET+1;2YAZZ;2YE;2YO;-7;",
     "1ci d LABIALIZATION aq;1ek+1;-14;1ds ue;0ya ge LOA;2MOA;2ROA;2SOA;2SHOA;2BOA;2TOA;2COA;2NOA;2NYOA;2we OA;2ZOA;",
     "2DOA;2DDOA;2JOA;2THOA;2CHOA;2PHOA;2POA;2GGWA;2GGWI;2GGWEE;2GGWE;-9;2oo;2SSU;2SSI;2SSAA;2SSEE;2SSE;2SSO;;2CCA;",
     "2CCU;2CCI;2CCAA;2CCEE;2CCE;2CCO;;2ZZA;2ZZU;2ZZI;2ZZAA;2ZZEE;2ZZE;2ZZO;;2CCHA;2CCHU;2CCHI;2CCHAA;2CCHEE;2CCHE;",
     "2CCHO;;2QYA;2QYU;2QYI;2QYAA;2QYEE;2QYE;2QYO;;2KYA;2KYU;2KYI;2KYAA;2KYEE;2KYE;2KYO;;2XYA;2XYU;2XYI;2XYAA;2XYEE;",
     "2XYE;2XYO;;2GYA;2GYU;2GYI;2GYAA;2GYEE;2GYE;2GYO;;0bh hf d BE;3VE;3GHE;3DE;3ZHE;3ZE;3KA;3EL;+2;3O;3PE;3ER;+1;",
     "3TE;3HA;3TSE;3zp;3hw;3SHCHA;3FITA;3ES-TE;3A;3IE;3DJERV;3MONOGRAPH UK;3YAT;3YU;3kf A;3fa YUS;3BIG+1;3kf+2;",
     "0e dw SUBSTITUTION MARKER;2ev+2;0i SUBSTITUTION bp;0e+2;0i ev+2;0e+3;0fy INTERPOLATION MARKER;1ev+2;",
     "0ev TRANSPOSITION+1;0i TRANSPOSITION bp;0e+2;0fy av;0i fy OMISSION bp;0e+3;0EDITORIAL CORONIS;0PARAGRAPHOS;",
     "0FORKED PARAGRAPHOS;0ag FORKED+1;0HYPODIASTOLE;0ev OBELOS;0o ANCORA;0ac+1;0ev e-ap dw;0h tc jd;0ar yk;",
     "0PALM qs;0jd b ba;0bz b dk k;0i fn PARAPHRASE bp;0e+3;0bz b cd k;3y;0i m hg b QUILL;0e+4;0ne i ct bp;1e+2;",
     "0eg i+2;1e+2;0i my U+1;0e+3;0i h cc;0e+2;0ax ce by bk cd bf;0bk cd by ax ce+1;0dv z cd+1;0ao cd aq;0ag dl+1;",
     "0m bz;0dk pz;0sd ek ab cd;0at ez;0fy cd;1ez;0at hl;0wp b i GUARD;2e+1;0at wp;0ne ct gk g;0ax-EM mp;0l+2;",
     "0STENOGRAPHIC cp;0m dp ce;0WIGGLY m et;0CAPITULUM;0h jd;0ag ez;0h fn-ag-9 hm aq;0mp b i UPTURN;",
     "0h SUSPENSION aq;0ar fn wd;3b wd k;0fn wd;2b cd;0h STACKED ez;0ev kb;0dq wp;0MEDIEVAL ez;0PARAGRAPHUS aq;",
     "0PUNCTUS ELEVATUS+1;0CORNISH VERSE tf;0gn PATTY b e CROSSBAR;3i+1;0TIRONIAN g aa ET;0MEDIEVAL cb aq;1dl+1;",
     "0i av bp b ai;0e+4;0i av bp b h+1;0e+5;0ne ct i cc;2e+1;0eg ct i+1;2e+1;0tc jd;"]

/-- Radicals, punctuation, kana, and enclosed signs of East Asia. -/
def radicalNames : Block where
  first := 0x2E80
  lines :=
    ["0CJK RADICAL REPEAT;2CLIFF;2oz bk;3ax;3l;2kq;2uf;2TABLE;2KNIFE bk;3ax;2DIVINATION;2SEAL;2c bk;3ax;2LAME bk;",
     "3ax;3l;3z;2SNAKE;2THREAD;2SNOUT bk;3ax;2ib bk;3ax;2lp;2RAP;;2CHOKE;2SUN;2si;2DEATH;2MOTHER;2CIVILIAN;2qe bk;",
     "3ax;2wq;2PAW bk;3ax;2dt ct TREE TRUNK;2COW;2DOG;2JADE;2BOLT OF CLOTH;2EYE;2SPIRIT bk;3ax;2BAMBOO;2SILK;",
     "2C-dt+1;2NET bk;3ax;3l;3z;2MESH;2SHEEP;2RAM;2EWE;2zy;2BRUSH bk;3ax;2MEAT;2MORTAR;2GRASS bk;3ax;3l;2TIGER;",
     "2CLOTHES;2lq bk;3ax;2C-dt SEE;2dt oa;2+1;2C-dt SPEECH;4SHELL;2FOOT;2C-dt CART;2dt WALK;2WALK bk;3ax;2CITY;",
     "2C-dt GOLD;2dc bk;3ax;2C-dt dc;4GATE;2MOUND bk;3ax;2RAIN;2BLUE;2C-dt TANNED LEATHER;4LEAF;4WIND;4FLY;2EAT bk;",
     "3ax;3l;2C-dt EAT;2rb;2C-dt ug;2BONE;2GHOST;2C-dt FISH;4BIRD;4SALT;2dt WHEAT;3YELLOW;2C-dt FROG;2J-dt EVEN;",
     "2C+2;2J-dt TOOTH;2C+2;2J-dt DRAGON;2C+2;2TURTLE;2J-dt+1;2C+2;-12;0KANGXI RADICAL bk;2et;2cd;2on;2oz;2bx;2ax;",
     "2LID;2xs;2LEGS;2ENTER;2af;2bc uf;2COVER;2ICE;2TABLE;2di uf;2KNIFE;2POWER;2WRAP;2SPOON;2e di uf;",
     "2HIDING ENCLOSURE;2gu;2DIVINATION;2SEAL;2CLIFF;2PRIVATE;2AGAIN;2jh;2ENCLOSURE;2qf;2SCHOLAR;2GO;3SLOWLY;",
     "2EVENING;2BIG;2vj;2CHILD;2ROOF;2INCH;2c;2LAME;2CORPSE;2SPROUT;2nf;2RIVER;2WORK;2ONESELF;2TURBAN;2DRY;",
     "2cz THREAD;2ev CLIFF;2dc STRIDE;2ax HANDS;2SHOOT;2BOW;2SNOUT;2BRISTLE;2STEP;2ib;2HALBERD;2DOOR;2lp;2qs;2RAP;",
     "2gv;2DIPPER;2AXE;2av;2oy;2SUN;2SAY;2si;2TREE;2LACK;2STOP;2DEATH;2WEAPON;2DO oy;2COMPARE;2FUR;2CLAN;2STEAM;2qe;",
     "2wq;2CLAW;2FATHER;2h X;2ct TREE TRUNK;2SLICE;2FANG;2COW;2DOG;2PROFOUND;2JADE;2MELON;2TILE;2SWEET;2LIFE;2USE;",
     "2FIELD;2BOLT OF CLOTH;2SICKNESS;2ev TENT;2x;2SKIN;2sy;2EYE;2SPEAR;2p;2STONE;2SPIRIT;2TRACK;2GRAIN;2CAVE;",
     "2STAND;2BAMBOO;2RICE;2SILK;2JAR;2NET;2SHEEP;2FEATHER;2zy;2n;2PLOW;2EAR;2BRUSH;2MEAT;2MINISTER;2SELF;2ARRIVE;",
     "2MORTAR;2wr;2OPPOSE;2BOAT;2STOPPING;2COLOR;2GRASS;2TIGER;2INSECT;2BLOOD;2WALK ENCLOSURE;2CLOTHES;2lq;2SEE;2oa;",
     "2SPEECH;2VALLEY;2BEAN;2PIG;2BADGER;2SHELL;2RED;2RUN;2FOOT;2BODY;2CART;2BITTER;2MORNING;2WALK;2CITY;2WINE;",
     "2DISTINGUISH;2VILLAGE;2GOLD;2dc;2GATE;2MOUND;2SLAVE;2cz TAILED BIRD;2RAIN;2BLUE;2WRONG;2dr;2LEATHER;2TANNED+1;",
     "2LEEK;2ox;2LEAF;2WIND;2FLY;2EAT;2rb;2FRAGRANT;2ug;2BONE;2TALL;2HAIR;2FIGHT;2SACRIFICIAL WINE;2CAULDRON;2GHOST;",
     "2FISH;2BIRD;2SALT;2DEER;2WHEAT;2HEMP;2YELLOW;2MILLET;2q;2EMBROIDERY;2FROG;2TRIPOD;2DRUM;2RAT;2NOSE;2EVEN;",
     "2TOOTH;2DRAGON;2TURTLE;2FLUTE;-26;0ej DESCRIPTION le i TO e;3k TO y;3i TO ab n e;3k TO ab n y;3FULL SURROUND;",
     "3SURROUND sj k;5y;5i;5bt+1;6e;5bi i;3OVERLAID;-4;1qb;1ez;1cp;0DITTO aq;0pb INDUSTRIAL STANDARD ad;0ej pp aq;",
     "1ws+1;1bn uv;0i dw bp;0e+2;0i h+2;0e+3;0i jb+1;0e+2;0i x+2;0e+3;0i q qn+1;0e+3;0POSTAL aq;0GETA+1;0i fc bp;",
     "0e+3;0i x qn+1;0e+3;0i x fc+1;0e+4;0i x av+1;0e+3;0pc mp;0ag h PRIME hm aq;0h+3;0fn h+3;0POSTAL aq dr;",
     "0HANGZHOU oc bk;2ax;2l;2z;2ao;2dp;2aj;2af;2be;0ej LEVEL fh aq;1lr+2;1DEPARTING+2;1ENTERING+2;0qj bm cd+2;1h+3;",
     "0yg mp;0m KANA REPEAT aq;3b li ox+1;3aq bt ct;3b li ox+3;3aq bi+1;0bq POSTAL aq;0ej vn et FEED ek ad;",
     "0HANGZHOU oc gu;2cm;2fg;0m ej pp aq;0MASU+1;0PART ALTERNATION+1;0ej VARIATION lf;1ct FILL qb;;0jf d c A;2A;",
     "2c I;2I;2c U;2U;2c E;2E;2c O;2O;2KA;2GA;2KI;2GI;2KU;2GU;2KE;2GE;2KO;2GO;2SA;2ZA;2SI;2ZI;2SU;2ZU;2SE;2ZE;2SO;",
     "2ZO;2TA;2DA;2TI;2DI;2c TU;2TU;2DU;2TE;2DE;2TO;2DO;2NA;2NI;2NU;2NE;2NO;2HA;2BA;2PA;2HI;2BI;2PI;2HU;2BU;2PU;2HE;",
     "2BE;2PE;2HO;2BO;2PO;2MA;2MI;2MU;2ME;2MO;2c YA;2YA;2c YU;2YU;2c YO;2YO;2RA;2RI;2RU;2RE;2RO;2c WA;2WA;2WI;2WE;",
     "2WO;2N;2VU;2c KA;3KE;;;0bh je-jf li ox aq;3SEMI-li+2;0je-jf li+2;2SEMI-li+2;0jf pp+1;1li+2;1fl YORI;",
     "0je-jf h jd;1d c A;2A;2c I;2I;2c U;2U;2c E;2E;2c O;2O;2KA;2GA;2KI;2GI;2KU;2GU;2KE;2GE;2KO;2GO;2SA;2ZA;2SI;2ZI;",
     "2SU;2ZU;2SE;2ZE;2SO;2ZO;2TA;2DA;2TI;2DI;2c TU;2TU;2DU;2TE;2DE;2TO;2DO;2NA;2NI;2NU;2NE;2NO;2HA;2BA;2PA;2HI;2BI;",
     "2PI;2HU;2BU;2PU;2HE;2BE;2PE;2HO;2BO;2PO;2MA;2MI;2MU;2ME;2MO;2c YA;2YA;2c YU;2YU;2c YO;2YO;2RA;2RI;2RU;2RE;2RO;",
     "2c WA;2WA;2WI;2WE;2WO;2N;2VU;2c KA;3KE;2VA;2VI;2VE;2VO;1ab cd;1-jf PROLONGED ox aq;1pp+1;1li+2;1fl KOTO;-5;",
     "0BOPOMOFO d B;2P;2M;2F;2D;2T;2N;2L;2G;2K;2H;2J;2Q;2X;2ZH;2CH;2SH;2R;2Z;2C;2S;2A;2O;2E;2EH;2AI;2EI;2AU;2OU;2AN;",
     "2EN;2ANG;2ENG;2ER;2I;2U;2IU;2V;2NG;2GN;2IH;2O b cd k;2NN;;0qj d df;2kg;2df-fz;2iy;3-hr;3-fr;2ef;2ow;2hj;3-df;",
     "3-hi;3-eo;3-fz;3-fu;3-fk;3-fr;2hi;2eo;2ny;2eo-fz;2fz;2ix;2md;2hr;2qk;2gl;2hs;2fu;2fk;2fr;2A;2AE;2YA;2YAE;2EO;",
     "2E;2YEO;2YE;2O;2WA;2WAE;2OE;2YO;2U;2WEO;2WE;2WI;2YU;2EU;2YI;2I;1qi;1d tp;2iy-ef;3-fz;3-it;2hj-df-fz;3-ef;",
     "3-eo-fz;3-it;3-me;2hi-eo;3-fz;3-it;2vb;2eo-df;3-ef;3-fz-df;4-ef;3-hr;3-fu;2in;2KAPYEOUNSSANGPIEUP;2fz-df;3-iy;",
     "3-ef;3-eo;3-hr;2it;2SSANGIEUNG;2to;3-fz;3-it;2sz;2SSANGHIEUH;2me;2YO-YA;3-YAE;3-I;2YU-YEO;3-YE;3-I;2ARAEA;",
     "2ARAEAE;;0ej ANNOTATION LINKING aq;2ky+1;2bk+1;2ax+1;2l+1;2z+1;2ne+1;2ab+1;2eg+1;2vk+1;2oz+1;2qd+1;2ty+1;",
     "2HEAVEN+1;2qf+1;2xs+1;0BOPOMOFO d BU;2ZI;2JI;2GU;2EE;2ENN;2OO;2ONN;2IR;2ANN;2INN;2UNN;2IM;2NGG;2AINN;2AUNN;",
     "2AM;2OM;2ONG;2INNN;1u d P;3T;3K;3H;1d GH;2LH;2ZY;1u d G;1d GW;2KW;2OE;2AH;0CJK ai T;2WG;2XG;2BXG;2SW;2HZZ;",
     "2HZG;2HP;2HZWG;2SZWG;2HZT;2HZZP;2HPWG;2HZW;2HZZZ;2N;2H;2S;2P;2SP;2D;2HZ;2HG;2SZ;2SWZ;2ST;2SG;2PD;2PZ;2TN;2SZZ;",
     "2SWG;2HXWG;2HZZZG;2PG;2Q;-12;0je d c KU;3SI;3SU;3TO;3NU;3HA;3HI;3HU;3HE;3HO;3MU;3RA;3RI;3RU;3RE;3RO;0qg qj df;",
     "2iy;2ef;2hj;2hi;2eo;2fz;2md;2hr;2gl;2hs;2fu;2fk;2fr;2df A;2iy A;2ef A;2hj A;2hi A;2eo A;2fz A;2md A;2hr A;",
     "2gl A;2hs A;2fu A;2fk A;2fr A;2hr U;1KOREAN le OJEON;3O HU;;1ng bk;2ax;2l;2z;2ao;2dp;2aj;2af;2be;2gu;2si;2wq;",
     "2qe;2WOOD;2METAL;2qf;2SUN;2STOCK;2HAVE;2SOCIETY;2NAME;2SPECIAL;2FINANCIAL;2CONGRATULATION;2LABOR;2REPRESENT;",
     "2CALL;2STUDY;2SUPERVISE;2ENTERPRISE;2RESOURCE;2ALLIANCE;2FESTIVAL;2REST;2SELF;2REACH;0bq ng dl;2KINDERGARTEN;",
     "2SCHOOL;2KOTO;1bn gu ON q av;2cm+3;2fg+3;2ki+3;2fx+3;2jg+3;2gy+3;2jx+3;0PARTNERSHIP g;0bq bn cm bk;3ax;3l;3z;",
     "3ao;3dp;3aj;3af;3be;2fg;3bk;3ax;3l;3z;3ao;1qj df;2iy;2ef;2hj;2hi;2eo;2fz;2md;2hr;2gl;2hs;2fu;2fk;2fr;2df A;",
     "2iy A;2ef A;2hj A;2hi A;2eo A;2fz A;2md A;2hr A;2gl A;2hs A;2fu A;2fk A;2fr A;1KOREAN le CHAMKO;3JUEUI;",
     "1qj md U;0KOREAN STANDARD ad;0bq ng bk;2ax;2l;2z;2ao;2dp;2aj;2af;2be;2gu;2si;2wq;2qe;2WOOD;2METAL;2qf;2SUN;",
     "2STOCK;2HAVE;2SOCIETY;2NAME;2SPECIAL;2FINANCIAL;2CONGRATULATION;2LABOR;2SECRET;2MALE;2wt;2SUITABLE;2EXCELLENT;",
     "2PRINT;2ATTENTION;2ITEM;2REST;2COPY;2CORRECT;2cx;2cg;2fn;2i;2e;2MEDICINE;2RELIGION;2STUDY;2SUPERVISE;",
     "2ENTERPRISE;2RESOURCE;2ALLIANCE;2NIGHT;1bn fg dp;3aj;3af;3be;2ki;3bk;3ax;3l;3z;3ao;3dp;3aj;3af;3be;2fx;",
     "0ej vn ad qm JANUARY;4FEBRUARY;4MARCH;4APRIL;4MAY;4JUNE;4JULY;4AUGUST;4SEPTEMBER;4OCTOBER;4NOVEMBER;4DECEMBER;",
     "0av HG;1ERG;1EV;0LIMITED LIABILITY g;0bq je A;2I;2U;2E;2O;2KA;2KI;2KU;2KE;2KO;2SA;2SI;2SU;2SE;2SO;2TA;2TI;2TU;",
     "2TE;2TO;2NA;2NI;2NU;2NE;2NO;2HA;2HI;2HU;2HE;2HO;2MA;2MI;2MU;2ME;2MO;2YA;2YU;2YO;2RA;2RI;2RU;2RE;2RO;2WA;2WI;",
     "2WE;2WO;0av ERA NAME REIWA;1APAATO;1ARUHUA;1ANPEA;1AARU;1ININGU;1INTI;1UON;1ESUKUUDO;1EEKAA;1ONSU;1OOMU;",
     "1KAIRI;1KARATTO;1KARORII;1GARON;1GANMA;1GIGA;1GINII;1KYURII;1GIRUDAA;1KIRO;1KIROGURAMU;1KIROMEETORU;",
     "1KIROWATTO;1GURAMU;1GURAMUTON;1KURUZEIRO;1KUROONE;1KEESU;1KORUNA;1KOOPO;1SAIKURU;1SANTIIMU;1SIRINGU;1SENTI;",
     "1SENTO;1DAASU;1DESI;1DORU;1TON;1NANO;1NOTTO;1HAITU;1PAASENTO;1PAATU;1BAARERU;1PIASUTORU;1PIKURU;1PIKO;1BIRU;",
     "1HUARADDO;1HUIITO;1BUSSYERU;1HURAN;1HEKUTAARU;1PESO;1PENIHI;1HERUTU;1PENSU;1PEEZI;1BEETA;1POINTO;1BORUTO;1HON;",
     "1PONDO;1HOORU;1HOON;1MAIKURO;1MAIRU;1MAHHA;1MARUKU;1MANSYON;1MIKURON;1MIRI;1MIRIBAARU;1MEGA;1MEGATON;1MEETORU;",
     "1YAADO;1YAARU;1YUAN;1RITTORU;1RIRA;1RUPII;1RUUBURU;1REMU;1RENTOGEN;1WATTO;0ej vn ad qm HOUR uv;5bk;5ax;5l;5z;",
     "5ao;5dp;5aj;5af;5be;5gu;5lo;5kr;5nh;5ni;5oe;5mf;5lg;5ls;5nj;5cm;6-bk;6-ax;6-l;6-z;0av HPA;1DA;1AU;1hg;1OV;1PC;",
     "1DM;2dv;2CUBED;1IU;1ERA NAME HEISEI;3SYOUWA;3TAISYOU;3MEIZI;1CORPORATION;1PA AMPS;1NA;1MU A;1MA;1KA;+1;1MB;",
     "1GB;1CAL;1KCAL;1PF;1NF;1MU F;2G;1MG;1KG;1HZ;1KHZ;1MHZ;1GHZ;1THZ;1MU L;1ML;1DL;1KL;1FM;1NM;1MU M;1MM;1CM;1KM;",
     "1MM dv;1CM+1;1M+1;1KM+1;1MM CUBED;1CM+1;1M+1;1KM+1;1M by S;4dv;1PA;1KPA;1MPA;1GPA;1RAD;2by S;4dv;1PS;1NS;",
     "1MU S;1MS;1PV;1NV;1MU V;1MV;1KV;1MV MEGA;1PW;1NW;1MU W;1MW;1KW;1MW MEGA;1K OHM;1M+1;1AM;1BQ;1CC;+1;1C by KG;",
     "1CO;1DB;1GY;1HA;1HP;1IN;1KK;1KM aa;1KT;1LM;+1;1LOG;1LX;1MB c;1MIL;1MOL;1PH;1PM;1PPM;1PR;1SR;1SV;1WB;1V by M;",
     "1A+2;0ej vn ad qm DAY bk;5ax;5l;5z;5ao;5dp;5aj;5af;5be;5gu;5lo;5kr;5nh;5ni;5oe;5mf;5lg;5ls;5nj;5cm;6-bk;6-ax;",
     "6-l;6-z;6-ao;6-dp;6-aj;6-af;6-be;5fg;6-bk;0av GAL;"]

/-- Hexagrams. -/
def hexagramNames : Block where
  first := 0x4DC0
  lines :=
    ["0HEXAGRAM qm pj CREATIVE HEAVEN;3RECEPTIVE qf;2DIFFICULTY AT pj BEGINNING;2YOUTHFUL FOLLY;2WAITING;2CONFLICT;",
     "2pj ARMY;2HOLDING yl;2c TAMING;2TREADING;2PEACE;2STANDSTILL;2FELLOWSHIP;2GREAT POSSESSION;2MODESTY;",
     "2ENTHUSIASM;2FOLLOWING;2WORK ON pj DECAYED;2APPROACH;2CONTEMPLATION;2BITING kx;2GRACE;2SPLITTING APART;",
     "2RETURN;2INNOCENCE;2GREAT TAMING;2jh th;2GREAT PREPONDERANCE;2pj ABYSMAL qe;3CLINGING wq;2INFLUENCE;2DURATION;",
     "2RETREAT;2GREAT POWER;2PROGRESS;2DARKENING OF pj bl;2pj FAMILY;2OPPOSITION;2OBSTRUCTION;2DELIVERANCE;",
     "2DECREASE;2INCREASE;2BREAKTHROUGH;2COMING TO MEET;2GATHERING yl;2PUSHING UPWARD;2OPPRESSION;2pj WELL;",
     "2REVOLUTION;2pj CAULDRON;3AROUSING THUNDER;3KEEPING STILL nf;2DEVELOPMENT;2pj MARRYING MAIDEN;2ABUNDANCE;",
     "2pj WANDERER;3GENTLE WIND;3JOYOUS LAKE;2DISPERSION;2LIMITATION;2INNER TRUTH;2c PREPONDERANCE;",
     "2AFTER COMPLETION;2BEFORE+1;"]

/-- Syllables and radicals of Yi. -/
def yiNames : Block where
  first := 0xA000
  lines :=
    ["0YI ge IT;2IX;2I;2IP;2IET;2IEX;2IE;2IEP;2AT;2AX;2A;2AP;2UOX;2UO;2UOP;2OT;2OX;2O;2OP;2EX;2E;2WU;2BIT;2BIX;2BI;",
     "2BIP;2BIET;2BIEX;2BIE;2BIEP;2BAT;2BAX;2BA;2BAP;2BUOX;2BUO;2BUOP;2BOT;2uf;2BO;2BOP;2BEX;2BE;2BEP;2BUT;2BUX;2BU;",
     "2BUP;2BURX;2BUR;2BYT;2BYX;2BY;2BYP;2BYRX;2BYR;2PIT;2PIX;2PI;2PIP;2PIEX;2PIE;2PIEP;2PAT;2PAX;2PA;2PAP;2PUOX;",
     "2PUO;2PUOP;2POT;2POX;2PO;2POP;2PUT;2PUX;2PU;2PUP;2PURX;2PUR;2PYT;2PYX;2PY;2PYP;2PYRX;2PYR;2BBIT;2BBIX;2BBI;",
     "2BBIP;2BBIET;2BBIEX;2BBIE;2BBIEP;2BBAT;2BBAX;2BBA;2BBAP;2BBUOX;2BBUO;2BBUOP;2BBOT;2BBOX;2BBO;2BBOP;2BBEX;2BBE;",
     "2BBEP;2BBUT;2BBUX;2BBU;2BBUP;2BBURX;2BBUR;2BBYT;2BBYX;2BBY;2BBYP;2NBIT;2NBIX;2NBI;2NBIP;2NBIEX;2NBIE;2NBIEP;",
     "2NBAT;2NBAX;2NBA;2NBAP;2NBOT;2NBOX;2NBO;2NBOP;2NBUT;2NBUX;2NBU;2NBUP;2NBURX;2NBUR;2NBYT;2NBYX;2NBY;2NBYP;",
     "2NBYRX;2NBYR;2HMIT;2HMIX;2HMI;2HMIP;2HMIEX;2HMIE;2HMIEP;2HMAT;2HMAX;2HMA;2HMAP;2HMUOX;2HMUO;2HMUOP;2HMOT;",
     "2HMOX;2HMO;2HMOP;2HMUT;2HMUX;2HMU;2HMUP;2HMURX;2HMUR;2HMYX;2HMY;2HMYP;2HMYRX;2HMYR;2MIT;2MIX;2MI;2MIP;2MIEX;",
     "2MIE;2MIEP;2MAT;2MAX;2MA;2MAP;2MUOT;2MUOX;2MUO;2MUOP;2MOT;2MOX;2MO;2MOP;2MEX;2ME;2MUT;2MUX;2MU;2MUP;2MURX;",
     "2MUR;2MYT;2MYX;2MY;2MYP;2FIT;2FIX;2FI;2FIP;2FAT;2FAX;2FA;2FAP;2FOX;2FO;2FOP;2FUT;2FUX;2FU;2FUP;2FURX;2FUR;",
     "2FYT;2FYX;2FY;2FYP;2VIT;2VIX;2VI;2VIP;2VIET;2VIEX;2VIE;2VIEP;2VAT;2VAX;2VA;2VAP;2VOT;2VOX;2VO;2VOP;2VEX;2VEP;",
     "2VUT;2VUX;2VU;2VUP;2VURX;2VUR;2VYT;2VYX;2VY;2VYP;2VYRX;2VYR;2DIT;2DIX;2DI;2DIP;2DIEX;2DIE;2DIEP;2DAT;2DAX;2DA;",
     "2DAP;2DUOX;2DUO;2cd;2DOX;2DO;2DOP;2DEX;2DE;2DEP;2DUT;2DUX;2DU;2DUP;2DURX;2DUR;2TIT;2TIX;2TI;2TIP;2TIEX;2TIE;",
     "2TIEP;2TAT;2TAX;2TA;2TAP;2TUOT;2TUOX;2TUO;2TUOP;2TOT;2TOX;2TO;2ne;2TEX;2TE;2TEP;2TUT;2TUX;2TU;2TUP;2TURX;2TUR;",
     "2DDIT;2DDIX;2DDI;2DDIP;2DDIEX;2DDIE;2DDIEP;2DDAT;2DDAX;2lh;2DDAP;2DDUOX;2DDUO;2DDUOP;2DDOT;2DDOX;2DDO;2DDOP;",
     "2DDEX;2DDE;2DDEP;2DDUT;2DDUX;2DDU;2DDUP;2DDURX;2DDUR;2NDIT;2NDIX;2NDI;2NDIP;2NDIEX;2NDIE;2NDAT;2NDAX;2NDA;",
     "2NDAP;2NDOT;2NDOX;2NDO;2NDOP;2NDEX;2NDE;2NDEP;2NDUT;2NDUX;2NDU;2NDUP;2NDURX;2NDUR;2HNIT;2HNIX;2HNI;2HNIP;",
     "2HNIET;2HNIEX;2HNIE;2HNIEP;2HNAT;2HNAX;2HNA;2HNAP;2HNUOX;2HNUO;2HNOT;2HNOX;2HNOP;2HNEX;2HNE;2HNEP;2HNUT;2NIT;",
     "2NIX;2NI;2NIP;2NIEX;2NIE;2NIEP;2NAX;2NA;2NAP;2NUOX;2NUO;2NUOP;2oy;2NOX;2NO;2NOP;2NEX;2NE;2NEP;2NUT;2NUX;2NU;",
     "2NUP;2NURX;2NUR;2HLIT;2HLIX;2HLI;2HLIP;2HLIEX;2HLIE;2HLIEP;2HLAT;2HLAX;2HLA;2HLAP;2HLUOX;2HLUO;2HLUOP;2HLOX;",
     "2HLO;2HLOP;2HLEX;2HLE;2HLEP;2HLUT;2HLUX;2HLU;2HLUP;2HLURX;2HLUR;2HLYT;2HLYX;2HLY;2HLYP;2HLYRX;2HLYR;2LIT;2LIX;",
     "2LI;2LIP;2LIET;2LIEX;2LIE;2LIEP;2LAT;2LAX;2LA;2LAP;2LUOT;2LUOX;2LUO;2LUOP;2LOT;2LOX;2LO;2LOP;2LEX;2LE;2LEP;",
     "2LUT;2LUX;2LU;2LUP;2LURX;2LUR;2LYT;2LYX;2LY;2LYP;2LYRX;2LYR;2GIT;2GIX;2GI;2GIP;2GIET;2GIEX;2GIE;2GIEP;2GAT;",
     "2GAX;2GA;2GAP;2GUOT;2GUOX;2GUO;2GUOP;2GOT;2GOX;2GO;2GOP;2GET;2GEX;2GE;2GEP;2GUT;2GUX;2GU;2GUP;2GURX;2GUR;2KIT;",
     "2KIX;2KI;2KIP;2KIEX;2KIE;2KIEP;2KAT;2KAX;2KA;2KAP;2KUOX;2KUO;2KUOP;2KOT;2KOX;2KO;2KOP;2KET;2KEX;2KE;2KEP;2KUT;",
     "2KUX;2KU;2KUP;2KURX;2KUR;2GGIT;2GGIX;2GGI;2GGIEX;2GGIE;2GGIEP;2GGAT;2GGAX;2GGA;2GGAP;2GGUOT;2GGUOX;2GGUO;",
     "2GGUOP;2GGOT;2GGOX;2GGO;2GGOP;2GGET;2GGEX;2GGE;2GGEP;2GGUT;2GGUX;2GGU;2GGUP;2GGURX;2GGUR;2MGIEX;2MGIE;2MGAT;",
     "2MGAX;2MGA;2MGAP;2MGUOX;2MGUO;2MGUOP;2MGOT;2MGOX;2MGO;2MGOP;2MGEX;2MGE;2MGEP;2MGUT;2MGUX;2MGU;2MGUP;2MGURX;",
     "2MGUR;2HXIT;2HXIX;2HXI;2HXIP;2HXIET;2HXIEX;2HXIE;2HXIEP;2HXAT;2HXAX;2HXA;2HXAP;2HXUOT;2HXUOX;2HXUO;2HXUOP;",
     "2HXOT;2HXOX;2HXO;2HXOP;2HXEX;2HXE;2HXEP;2NGIEX;2NGIE;2NGIEP;2NGAT;2NGAX;2hv;2NGAP;2NGUOT;2NGUOX;2NGUO;2NGOT;",
     "2NGOX;2NGO;2NGOP;2NGEX;2NGE;2NGEP;2HIT;2HIEX;2HIE;2HAT;2HAX;2HA;2HAP;2HUOT;2HUOX;2HUO;2HUOP;2HOT;2HOX;2HO;",
     "2HOP;2HEX;2HE;2HEP;2WAT;2WAX;2WA;2WAP;2WUOX;2WUO;2WUOP;2WOX;2WO;2WOP;2WEX;2WE;2WEP;2ZIT;2ZIX;2ZI;2ZIP;2ZIEX;",
     "2ZIE;2ZIEP;2ZAT;2ZAX;2ZA;2ZAP;2ZUOX;2ZUO;2ZUOP;2ZOT;2ZOX;2ZO;2ZOP;2ZEX;2ZE;2ZEP;2ZUT;2ZUX;2ZU;2ZUP;2ZURX;2ZUR;",
     "2ZYT;2ZYX;2ZY;2ZYP;2ZYRX;2ZYR;2CIT;2CIX;2CI;2CIP;2CIET;2CIEX;2CIE;2CIEP;2CAT;2CAX;2CA;2CAP;2CUOX;2CUO;2CUOP;",
     "2COT;2COX;2CO;2COP;2CEX;2CE;2CEP;2CUT;2CUX;2CU;2CUP;2CURX;2CUR;2CYT;2CYX;2CY;2CYP;2CYRX;2CYR;2ZZIT;2ZZIX;2ZZI;",
     "2ZZIP;2ZZIET;2ZZIEX;2ZZIE;2ZZIEP;2ZZAT;2ZZAX;2ZZA;2ZZAP;2ZZOX;2ZZO;2ZZOP;2ZZEX;2ZZE;2ZZEP;2ZZUX;2ZZU;2ZZUP;",
     "2ZZURX;2ZZUR;2ZZYT;2ZZYX;2ZZY;2ZZYP;2ZZYRX;2ZZYR;2NZIT;2NZIX;2NZI;2NZIP;2NZIEX;2NZIE;2NZIEP;2NZAT;2NZAX;2NZA;",
     "2NZAP;2NZUOX;2NZUO;2NZOX;2NZOP;2NZEX;2NZE;2NZUX;2NZU;2NZUP;2NZURX;2NZUR;2NZYT;2NZYX;2NZY;2NZYP;2NZYRX;2NZYR;",
     "2SIT;2dp;2SI;2SIP;2SIEX;2SIE;2SIEP;2SAT;2SAX;2SA;2SAP;2SUOX;2SUO;2SUOP;2SOT;2SOX;2SO;2SOP;2SEX;2SE;2SEP;2SUT;",
     "2SUX;2SU;2SUP;2SURX;2SUR;2SYT;2SYX;2SY;2SYP;2SYRX;2SYR;2SSIT;2SSIX;2SSI;2SSIP;2SSIEX;2SSIE;2SSIEP;2SSAT;2SSAX;",
     "2oo;2SSAP;2SSOT;2SSOX;2SSO;2SSOP;2SSEX;2SSE;2SSEP;2SSUT;2SSUX;2SSU;2SSUP;2SSYT;2SSYX;2SSY;2SSYP;2SSYRX;2SSYR;",
     "2ZHAT;2ZHAX;2vf;2ZHAP;2ZHUOX;2ZHUO;2ZHUOP;2ZHOT;2ZHOX;2ZHO;2ZHOP;2ZHET;2ZHEX;2ZHE;2ZHEP;2ZHUT;2ZHUX;2ZHU;",
     "2ZHUP;2ZHURX;2ZHUR;2ZHYT;2ZHYX;2ZHY;2ZHYP;2ZHYRX;2ZHYR;2CHAT;2CHAX;2il;2CHAP;2CHUOT;2CHUOX;2CHUO;2CHUOP;2CHOT;",
     "2CHOX;2CHO;2CHOP;2CHET;2CHEX;2zp;2CHEP;2CHUX;2CHU;2CHUP;2CHURX;2CHUR;2CHYT;2CHYX;2CHY;2CHYP;2CHYRX;2CHYR;",
     "2RRAX;2xt;2RRUOX;2RRUO;2RROT;2RROX;2RRO;2RROP;2RRET;2RREX;2RRE;2RREP;2RRUT;2RRUX;2RRU;2RRUP;2RRURX;2RRUR;",
     "2RRYT;2RRYX;2RRY;2RRYP;2RRYRX;2RRYR;2NRAT;2NRAX;2NRA;2NRAP;2NROX;2NRO;2NROP;2NRET;2NREX;2NRE;2NREP;2NRUT;",
     "2NRUX;2NRU;2NRUP;2NRURX;2NRUR;2NRYT;2NRYX;2NRY;2NRYP;2NRYRX;2NRYR;2SHAT;2SHAX;2hw;2SHAP;2SHUOX;2SHUO;2SHUOP;",
     "2SHOT;2SHOX;2SHO;2SHOP;2SHET;2SHEX;2pw;2SHEP;2SHUT;2SHUX;2SHU;2SHUP;2SHURX;2SHUR;2SHYT;2SHYX;2SHY;2SHYP;",
     "2SHYRX;2SHYR;2RAT;2RAX;2RA;2RAP;2RUOX;2RUO;2RUOP;2ROT;2ROX;2RO;2ROP;2REX;2RE;2REP;2RUT;2RUX;2RU;2RUP;2RURX;",
     "2RUR;2RYT;2RYX;2RY;2RYP;2RYRX;2RYR;2JIT;2JIX;2JI;2JIP;2JIET;2JIEX;2JIE;2JIEP;2JUOT;2JUOX;2JUO;2JUOP;2JOT;2JOX;",
     "2JO;2JOP;2JUT;2JUX;2JU;2JUP;2JURX;2JUR;2JYT;2JYX;2JY;2JYP;2JYRX;2JYR;2QIT;2QIX;2QI;2QIP;2QIET;2QIEX;2QIE;",
     "2QIEP;2QUOT;2QUOX;2QUO;2QUOP;2QOT;2QOX;2QO;2QOP;2QUT;2QUX;2QU;2QUP;2QURX;2QUR;2QYT;2QYX;2QY;2QYP;2QYRX;2QYR;",
     "2JJIT;2JJIX;2JJI;2JJIP;2JJIET;2JJIEX;2JJIE;2JJIEP;2JJUOX;2JJUO;2JJUOP;2JJOT;2JJOX;2JJO;2JJOP;2JJUT;2JJUX;2JJU;",
     "2JJUP;2JJURX;2JJUR;2JJYT;2JJYX;2JJY;2JJYP;2NJIT;2NJIX;2NJI;2NJIP;2NJIET;2NJIEX;2NJIE;2NJIEP;2NJUOX;2NJUO;",
     "2NJOT;2NJOX;2NJO;2NJOP;2NJUX;2NJU;2NJUP;2NJURX;2NJUR;2NJYT;2NJYX;2NJY;2NJYP;2NJYRX;2NJYR;2NYIT;2NYIX;2NYI;",
     "2NYIP;2NYIET;2NYIEX;2NYIE;2NYIEP;2NYUOX;2NYUO;2NYUOP;2NYOT;2NYOX;2NYO;2NYOP;2NYUT;2NYUX;2NYU;2NYUP;2XIT;2XIX;",
     "2XI;2XIP;2XIET;2XIEX;2XIE;2XIEP;2XUOX;2XUO;2XOT;2XOX;2XO;2XOP;2XYT;2XYX;2XY;2XYP;2XYRX;2XYR;2YIT;2YIX;2YI;",
     "2YIP;2YIET;2YIEX;2YIE;2YIEP;2YUOT;2YUOX;2YUO;2YUOP;2YOT;2YOX;2YO;2YOP;2YUT;2YUX;2YU;2YUP;2YURX;2YUR;2YYT;2YYX;",
     "2YY;2YYP;2YYRX;2YYR;;;;1RADICAL QOT;2LI;2KIT;2NYIP;2CYP;2SSI;2GGOP;2GEP;2MI;2HXIT;2LYR;2BBUT;2MOP;2YO;2PUT;",
     "2HXUO;2TAT;2GA;2ZUP;2CYT;2DDUR;2BUR;2GGUO;2NYOP;2TU;2OP;2JJUT;2ZOT;2PYT;2HMO;2YIT;2VUR;2SHY;2VEP;2ZA;2JO;",
     "2NZUP;2JJY;2GOT;2JJIE;2WO;2DU;2SHUR;2LIE;2CY;2CUOP;2CIP;2HXOP;2SHAT;2ZUR;2SHOP;2zp;2ZZIET;2NBIE;2KE;"]

end RpcClients.Text.Name
