import RpcClients.Text.Name.Block

/-! # Names of letters of ancient scripts -/

namespace RpcClients.Text.Name

/-- Linear syllables and ideograms. -/
def linearNames : Block where
  first := 0x10000
  lines :=
    ["0LINEAR B ge B008 A;3B038 E;3B028 I;3B061 O;3B010 U;3B001 DA;3B045 DE;3B007 DI;3B014 DO;3B051 DU;3B057 JA;",
     "3B046 JE;;3B036 JO;3B065 JU;3B077 KA;3B044 KE;3B067 KI;3B070 KO;3B081 KU;3B080 MA;3B013 ME;3B073 MI;3B015 MO;",
     "3B023 MU;3B006 NA;3B024 NE;3B030 NI;3B052 NO;3B055 NU;3B003 PA;3B072 PE;3B039 PI;3B011 PO;3B050 PU;3B016 QA;",
     "3B078 QE;3B021 QI;3B032 QO;;3B060 RA;3B027 RE;3B053 RI;3B002 RO;3B026 RU;3B031 SA;3B009 SE;3B041 SI;3B012 SO;",
     "3B058 SU;3B059 TA;3B004 TE;3B037 TI;3B005 TO;3B069 TU;3B054 WA;3B075 WE;3B040 WI;3B042 WO;;3B017 ZA;3B074 ZE;;",
     "3B020 ZO;3B025 A2;3B043 A3;3B085 AU;3B071 DWE;3B090 DWO;3B048 NWA;3B029 PU2;3B062 PTE;3B076 RA2;3B033 RA3;",
     "3B068 RO2;3B066 TA2;3B087 TWE;3B091 ax;;;2ad B018;+1;3B022;3B034;3B047;3B049;3B056;3B063;+1;3B079;3B082;+1;",
     "3B086;3B089;-34;2tx B100 xs;3B102 vj;3B104 DEER;3B105 EQUID;3B105F MARE;3B105M STALLION;3B106F EWE;3B106M RAM;",
     "3B107F pw-GOAT;3B107M HE+1;3B108F SOW;3B108M BOAR;3B109F COW;3B109M BULL;3B120 WHEAT;3B121 BARLEY;3B122 OLIVE;",
     "3B123 SPICE;3B125 CYPERUS;2ri B127 KAPO;3B128 KANAKO;2tx B130 OIL;3B131 WINE;3B132;2ri B133 AREPA;3B135 MERI;",
     "2tx B140 BRONZE;3B141 GOLD;3B142;3B145 WOOL;3B146;3B150;3B151 oa;3B152;+2;2ri B156 TURO2;2tx B157;+1;",
     "3B159 CLOTH;3B160;+1;3B162 GARMENT;3B163 ARMOUR;3B164;+8;3B173 MONTH;3B174;3B176 TREE;3B177;+8;3B189;+1;",
     "3B191 HELMET;3B220 FOOTSTOOL;3B225 BATHTUB;3B230 SPEAR;3B231 p;3B232;3B233 SWORD;3B234;3B236;",
     "3B240 WHEELED CHARIOT;3B241+1;3B242 CHARIOT FRAME;3B243 WHEEL;3B245;+1;2ri B247 DIPTE;2tx B248;+1;3B251;+2;",
     "3B254 DART;3B255;+4;3VESSEL B155;4B200;+19;4B221;+1;4B226;+3;4B250;4B305;-5;0AEGEAN sd ek et;3cd;1qc aq;-4;",
     "1bn bk;2ax;2l;2z;2ao;2dp;2aj;2af;2be;2gu;2cm;2fg;2ki;2fx;2jg;2gy;2jx;2hz;2aw;2ax+1;2l+1;2z+1;2ao+1;2dp+1;",
     "2aj+1;2af+1;2be+1;2bk cy;2ax+1;2l+1;2z+1;2ao+1;2dp+1;2aj+1;2af+1;2be+1;2gu+1;2cm+1;2fg+1;2ki+1;2fx+1;2jg+1;",
     "2gy+1;2jx+1;2hz+1;;;;1WEIGHT BASE UNIT;2vk SUBUNIT;2oz+1;2qd+1;2ty+1;1DRY wm vk+1;1LIQUID+3;1wm oz+1;2qd+1;"]

/-- Ancient numbers, signs and letters of the Mediterranean. -/
def aegeanNames : Block where
  first := 0x10140
  lines :=
    ["0kt ACROPHONIC ATTIC bk du;4ct;4DRACHMA;3ao;3fx;3ao hp;4cy;3fx+1;3ao TALENTS;3gu+1;3fx+1;3aw+1;3ao+2;3bk cy+1;",
     "3ao+2;4STATERS;3gu+1;3fx+1;3aw+1;3ao+2;3bk cy+1;3gu+2;3fx+2;3gu MNAS;2HERAEUM bk PLETHRON;2rj bk;",
     "2HERMIONIAN+1;2EPIDAUREAN ax;2rj+1;2CYRENAIC ax DRACHMAS;2EPIDAUREAN+2;2TROEZENIAN ao;3gu;4ei km;",
     "2HERMIONIAN gu;2MESSENIAN+1;2rj+1;3fg;2TROEZENIAN fx;4ei km;2HERMIONIAN fx;2rj+1;3aw;3l+1;2EPIDAUREAN ao+1;",
     "2TROEZENIAN+2;2rj+2;2CARYSTIAN+2;2NAXIAN+2;2rj bk cy;3ao+1;2DELPHIC ao MNAS;2STRATIAN fx+1;1bk ct g;4ei km;",
     "1ax qo g;1l im+1;1YEAR+1;1TALENT+1;1DRACHMA+1;1OBOL+1;1ax OBOLS+1;1l+2;1z+2;1ao+2;1METRETES+1;1KYATHOS BASE+1;",
     "1LITRA+1;1OUNKIA+1;1XESTES+1;1ARTABE+1;1AROURA+1;1GRAMMA+1;1TRYBLION BASE+1;1uv+1;1bk du+1;1SINUSOID+1;",
     "1INDICTION+1;0NOMISMA+1;;0ROMAN SEXTANS+1;1UNCIA+1;1SEMUNCIA+1;1SEXTULA+1;1DIMIDIA+2;1SILIQUA+1;1DENARIUS+1;",
     "1QUINARIUS+1;1SESTERTIUS+1;1DUPONDIUS+1;1AS+1;1CENTURIAL+1;0ASCIA ad;;;;0kt ad TAU sx;-47;",
     "0PHAISTOS DISC g PEDESTRIAN;3PLUMED rb;3TATTOOED+1;3CAPTIVE;3CHILD;3vj;3HELMET;3GAUNTLET;3TIARA;3p;3BOW;",
     "3SHIELD;3CLUB;3MANACLES;3MATTOCK;3SAW;3LID;3BOOMERANG;3CARPENTRY PLANE;3DOLIUM;3COMB;3SLING;3COLUMN;3BEEHIVE;",
     "3SHIP;3oa;3HIDE;3BULLS LEG;3CAT;3RAM;3EAGLE;3DOVE;3TUNNY;3BEE;3PLANE TREE;3VINE;3PAPYRUS;3ROSETTE;3LILY;",
     "3OX uw;3FLUTE;3GRATER;3STRAINER;3c AXE;3yg BAND;3bh tc ai;-130;0LYCIAN d A;2E;2B;2BH;2G;2D;2I;2W;2Z;2TH;2J;2K;",
     "2Q;2L;+2;2MM;2NN;2U;2P;2KK;2R;+2;2TT;2AN;2EN;2H;2X;;;;0CARIAN d A;2P2;2D;2L;2UUU;2R;2LD;2A2;2Q;2B;2M;2O;2D2;",
     "2T;2SH;2SH2;2S;2C-18;2U;2NN;2X;2N;2TT2;2P;2SS;2I;2E;2UUUU;2K;2K2;2ND;2UU;2G;2G2;2ST;2ST2;2NG;2II;2C-39;2TT;",
     "2UUU2;2RR;2MB;2MB2;+2;2LD2;2E2;2UUU3;-15;0COPTIC EPACT po aq;2ke bk;3ax;3l;3z;3ao;3dp;3aj;3af;3be;2bn gu;3cm;",
     "3fg;3ki;3fx;3jg;3gy;3jx;3hz;3aw;3ax+1;3l+1;3z+1;3ao+1;3dp+1;3aj+1;3af+1;3be+1;-4;0zy ob d A;3BE;3KE;3DE;3E;",
     "3VE;3ZE;3HE;3pj;3I;3KA;3EL;+2;3ESH;3O;3PE;3pw;3KU;3ER;+1;3TE;3U;3EKS;3PHE;3KHE;3EF;3ERS;3zp;3II;3UU;3ESS;",
     "2oc bk;3ao;3gu;3fx;-9;2d YE;3NORTHERN TSE;3SOUTHERN+1;0GOTHIC d AHSA;2BAIRKAN;2GIBA;2DAGS;2AIHVUS;2QAIRTHRA;",
     "2IUJA;2HAGL;2THIUTH;2EIS;2KUSMA;2LAGUS;2MANNA;2NAUTHS;2JER;2URUS;2PAIRTHRA;2hz;2RAIDA;2SAUIL;2TEIWS;2WINJA;",
     "2FAIHU;2IGGWS;2HWAIR;2OTHAL;2be hp;-5;0zy PERMIC d AN;3BUR;3GAI;3DOI;3E;3ZHOI;3DZHOI;3ZATA;3DZITA;3I;3KOKE;",
     "3LEI;3MENOE;3NENOE;3VOOI;3PEEI;3REI;3SII;3TAI;3U;3CHERY;3SHOOI;3SHCHOOI;3YRY;3zu;3O;3OO;3EF;3HA;3TSIU;3VER;",
     "3YER;3YERI;3YAT;3IE;3YU;3YA;3IA;0bh zy PERMIC d AN;4DOI;4ZATA;4NENOE;4SII;-5;0UGARITIC d ALPA;2px;2GAMLA;2iv;",
     "2jr;2HO;2WO;2tz;2HOTA;2TET;2YOD;2sq;2ju;2op;2yd;2DHAL;2nx;2ZU;2SAMKA;2ra;2PU;2SADE;2QOPA;2RASHA;2THANNA;2ll;",
     "2TO;2I;2U;2SSU;;1sd tf;0zy PERSIAN g A;3I;3U;3KA;3KU;3GA;3GU;3XA;3CA;3JA;3JI;3TA;3TU;3DA;3DI;3DU;3ja;3PA;3BA;",
     "3FA;3NA;3NU;3MA;3MI;3MU;3YA;3VA;3VI;3RA;3RU;3LA;3SA;3ZA;3hw;3oo;3HA;-4;3AURAMAZDAA;4-2;3AURAMAZDAAHA;",
     "3XSHAAYATHIYA;3DAHYAAUSH;4-2;3BAGA;3BUUMISH;2sd tf;2bn bk;3ax;3gu;3cm;3hp;-42;0DESERET a dc I;4E;4A;4AH;4O;",
     "4OO;3cz I;4E;4A;4AH;4O;4OO;3AY;3OW;3WU;3YEE;3H;3PEE;3BEE;3TEE;3DEE;3CHEE;3JEE;3KAY;3GAY;3EF;3VEE;3ETH;3THEE;",
     "3ES;3ZEE;3ESH;3ZHEE;3ER;3EL;+2;3ENG;3OI;3EW;1c d dc I;4E;4A;4AH;4O;4OO;3cz I;4E;4A;4AH;4O;4OO;3AY;3OW;3WU;",
     "3YEE;3H;3PEE;3BEE;3TEE;3DEE;3CHEE;3JEE;3KAY;3GAY;3EF;3VEE;3ETH;3THEE;3ES;3ZEE;3ESH;3ZHEE;3ER;3EL;+2;3ENG;3OI;",
     "3EW;0SHAVIAN d PEEP;2TOT;2KICK;2FEE;2THIGH;2SO;2SURE;2CHURCH;2YEA;2HUNG;2BIB;2DEAD;2GAG;2VOW;2THEY;2ZOO;2wm;",
     "2JUDGE;2WOE;2HA-HA;2LOLL;2MIME;2IF;2EGG;2rk;2ADO;2ON;2WOOL;2OUT;2AH;2ROAR;2nx;2EAT;2AGE;2ICE;2UP;2OAK;2OOZE;",
     "2OIL;2AWE;2ARE;2OR;2AIR;2ERR;2ARRAY;2EAR;2IAN;2YEW;0OSMANYA d ho;2BA;2TA;2JA;2XA;2iv;2DEEL;2RA;2SA;2SHIIN;2ly;",
     "2CAYN;2GA;2FA;2QAAF;2KAAF;2LAAN;2MIIN;2NUUN;2ou;2HA;2YA;2A;2E;2I;2O;2U;2AA;2EE;2OO;;;1w;2bk;2ax;2l;2z;2ao;2dp;",
     "2aj;2af;2be;-6;0OSAGE a A;3AI;3ra;3AH;3BRA;3il;3EHCHA;3E;3EIN;3HA;3HYA;3I;3KA;3EHKA;3KYA;3LA;3MA;3NA;3O;3OIN;",
     "3PA;3EHPA;3SA;3hw;3TA;3EHTA;3rz;3EHTSA;3sa;3ly;3U;3WA;3iv;3lz;3ZA;3vf;-4;1c d A;3AI;3ra;3AH;3BRA;3il;3EHCHA;",
     "3E;3EIN;3HA;3HYA;3I;3KA;3EHKA;3KYA;3LA;3MA;3NA;3O;3OIN;3PA;3EHPA;3SA;3hw;3TA;3EHTA;3rz;3EHTSA;3sa;3ly;3U;3WA;",
     "3iv;3lz;3ZA;3vf;-4;0ELBASAN d A;2BE;2CE;2zp;2DE;2NDE;2DHE;2EI;2E;2FE;2GE;2GJE;2HE;2I;2JE;2KE;2LE;2LLE;2ME;2NE;",
     "2NA;2NJE;2O;2PE;2QE;2RE;2RRE;2SE;2pw;2TE;2pj;2U;2VE;2XE;2Y;2ZE;2ZHE;2GHE;2GHAMMA;2KHE;-8;",
     "0CAUCASIAN ALBANIAN d ALT;3BET;3GIM;3DAT;3EB;3ZARL;3EYN;3ZHIL;3TAS;3il;3YOWD;3vf;3IRB;3hw;3LAN;3INYA;3XEYN;",
     "3DYAN;3CAR;3JHOX;3KAR;3LYIT;3HEYT;3QAY;3AOR;3CHOY;3uu;3CYAY;3MAQ;3QAR;3NOWC;3DZYAY;3SHAK;3JAYN;3ON;3TYAY;3FAM;",
     "3DZAY;3CHAT;3PEN;3GHEYS;3RAT;3SEYK;3VEYZ;3TIWR;3SHOY;3IWN;3CYAW;3CAYN;3YAYD;3PIWR;3KIW;-11;2CITATION aq;",
     "0VITHKUQI a A;3BBE;3BE;3CE;3zp;3DE;3DHE;3EI;3E;3FE;3GA;;3HA;3HHA;3I;3IJE;3JE;3KA;3LA;3sw;3ME;3NE;3NJE;3O;3PE;",
     "3QA;3RE;;3SE;3pw;3TE;3pj;3U;3VE;3XE;;3Y;3ZE;;1c d A;3BBE;3BE;3CE;3zp;3DE;3DHE;3EI;3E;3FE;3GA;;3HA;3HHA;3I;",
     "3IJE;3JE;3KA;3LA;3sw;3ME;3NE;3NJE;3O;3PE;3QA;3RE;;3SE;3pw;3TE;3pj;3U;3VE;3XE;;3Y;3ZE;-67;0LINEAR A g AB001;",
     "+10;3AB013;3AB016;+1;3AB020;+1;3AB021F;3AB021M;3AB022;3AB022F;3AB022M;3AB023;3AB023M;3AB024;3AB026;+2;3A028B;",
     "3AB029;+2;3AB034;3AB037;+4;3AB044;+7;3AB053;+8;3AB065;+2;3AB069;+1;3AB073;+1;3AB076;+6;3AB085;+2;3A100-102;",
     "3AB118;3AB120;3A120B;3AB122;+1;3AB131A;+1;3A131C;3AB164;3AB171;3AB180;3AB188;3AB191;3A301;+7;3A309A;+2;3A310;",
     "+2;3A313A;+2;3A314;+57;3A400-VAS;3A401+1;3A402+1;3A403+1;3A404+1;3A405+1;3A406+1;3A407+1;3A408+1;3A409+1;",
     "3A410+1;3A411+1;3A412+1;3A413+1;3A414+1;3A415+1;3A416+1;3A417+1;3A418+1;3A501;+5;3A508;+5;3A515;+1;3A520;+1;",
     "3A523;+9;3A534;+8;3A545;3A547;+10;3A559;3A563;+3;3A568;+21;3A591;+1;3A594;+2;3A598;3A600;+4;3A606;3A608;+16;",
     "3A626;+3;3A634;3A637;+1;3A640;3A642;+4;3A648;+1;3A651;+13;-9;3A701 A;3A702 B;3A703 D;3A704 E;3A705 F;3A706 H;",
     "3A707 J;3A708 K;3A709 L;4-2 L2;4-3 L3;4-4 L4;4-6 L6;3A710 W;3A711 X;3A712 Y;3A713 fq;3A714 ABB;3A715 BB;",
     "3A717 DD;3A726 EYYY;3A732 JE;-10;3A800;+7;"]

/-- Latin modifiers, and letters of the ancient Near East. -/
def latinModifierNames : Block where
  first := 0x10780
  lines :=
    ["0ci d c aa AA;2gg ia hx;3ct+2;2c AE;3aa B;3B b bx;;3DZ fl;5b cq bx;6qp;3DEZH fl;3D b gj;5bx;6n gj;3ag E;",
     "3ep ag di E;3FENG fl;3RAMS oa;3aa G;3G b bx;3aa+3;3H b ai;3aa H;3HENG b bx;3iu J b ai n+1;3LS fl;3LZ+1;",
     "3L b zx;3aa+3;3L b cq bx n+1;3LEZH;4b cq bx;3at Y;5b zx;3O b ai;3aa OE;3ep fq;3Q;3at R b dc LEG;8n cq bx;",
     "3R b gj;5rl;3aa R;3TC fl b qp;3TS fl;5b cq bx;3TESH fl;3T b cq bx;3V b e+1;;3aa Y;2dn b ai;2ag+4;",
     "2BILABIAL CLICK;2DENTAL+1;2LATERAL+1;2ALVEOLAR+1;2cq CLICK b cq bx;2c S b qp;-69;0CYPRIOT ge A;2E;2I;2O;2U;",
     "2JA;;;2JO;;2KA;2KE;2KI;2KO;2KU;2LA;2LE;2LI;2LO;2LU;2MA;2ME;2MI;2MO;2MU;2NA;2NE;2NI;2NO;2NU;2PA;2PE;2PI;2PO;",
     "2PU;2RA;2RE;2RI;2RO;2RU;2SA;2SE;2SI;2SO;2SU;2TA;2TE;2TI;2TO;2TU;2WA;2WE;2WI;2WO;;2XA;2XE;;;;2ZA;;;2ZO;",
     "0IMPERIAL ARAMAIC d oq;3sf;3lj;3ln;3HE;3ou;3nb;3rm;3yi;3sg;3sh;3ko;3yd;3nx;3jc;3re;3PE;3or;3yj;3py;3ju;3TAW;;",
     "2gk g;2bn bk;3ax;3l;3gu;3cm;3aw;4cy;3gu+1;0PALMYRENE d oq;2sf;2lj;2ln;2HE;2ou;2nb;2rm;2yi;2sg;2sh;2ko;2yd;",
     "2u nx;2+1;2jc;2re;2PE;2or;2yj;2py;2ju;2TAW;1i-ap FLEURON;1e+2;1bn bk;2ax;2l;2z;2ao;2gu;2cm;0NABATAEAN d u oq;",
     "2+1;2u sf;2+1;2lj;2ln;2u HE;2HE;2ou;2nb;2rm;2yi;2u sg;2+1;2u sh;2+1;2u ko;2+1;2u yd;2+1;2u nx;2+1;2jc;2re;2PE;",
     "2or;2yj;2py;2u ju;2+1;2TAW;-8;1bn bk;2ax;2l;2z;1CRUCIFORM+2;1bn ao;2gu;2cm;2aw;-48;0HATRAN d oq;2sf;2lj;",
     "2ln-py;2HE;2ou;2ZAYN;2rm;2yi;2sg;2sh;2ko;2yd;2nx;2jc;2AYN;2PE;2or;2yj;;2ju;2TAW;-5;1bn bk;2ao;2gu;2cm;2aw;",
     "0PHOENICIAN d ALF;2BET;2GAML;2DELT;2HE;2WAU;2ZAI;2HET;2TET;2YOD;2sq;2LAMD;2yd;2nx;2SEMK;2ra;2PE;2SADE;2QOF;",
     "2ROSH;2ju;2TAU;1bn bk;2gu;2cm;2aw;2ax;2l;;;;1sd ek;0LYDIAN d A;2B;2G;2D;2E;2V;2I;2Y;2K;+4;2R;2SS;2T;2U;2F;2Q;",
     "2S;2TT;2AN;2EN;2LY;2NN;2C;-5;1ia aq;-64;0MEROITIC HIEROGLYPHIC d A;3E;3I;3O;3YA;3WA;3BA;4-2;3PA;3MA;3NA;4-2;",
     "3NE;4-2;3RA;4-2;3LA;3iv;3HHA;3SA;4-2;3SE;3KA;3QA;3TA;4-2;3TE;4-2;3TO;3DA;2ad VIDJ;4-2;1CURSIVE d A;3E;3I;3O;",
     "3YA;3WA;3BA;3PA;3MA;3NA;3NE;3RA;3LA;3iv;3HHA;3SA;3gw+1;3SE;3KA;3QA;3TA;3TE;3TO;3DA;-4;2fb lo TWELFTHS;3bk ct;",
     "2xz RMT;3IMN;2bn bk;3ax;3l;3z;3ao;3dp;3aj;3af;3be;3gu;3cm;3fg;3ki;3fx;3jg;3gy;;;3aw;3ax+1;3l+1;3z+1;3ao+1;",
     "3dp+1;3aj+1;3af+1;3be+1;3bk cy;3ax+1;3l+1;3z+1;3ao+1;3dp+1;3aj+1;3af+1;3be+1;3gu+1;3cm+1;3fg+1;3ki+1;3fx+1;",
     "3jg+1;3gy+1;3jx+1;3hz+1;3aw+1;3ax+2;3l+2;3z+2;3ao+2;3dp+2;3aj+2;3af+2;3be+2;2fb bk TWELFTH;3ax TWELFTHS;3l+1;",
     "3z+1;3ao+1;3dp+1;3aj+1;3af+1;3be+1;3gu+1;0KHAROSHTHI d A;1au g I;3U;3ay R;;3E;3O;-5;2mq aq;1g h dk y;2bd;2cw;",
     "1d KA;2iv;2GA;2lz;;2CA;2il;2JA;;2is;2lc;2gs;2lh;2hh;2mo;2TA;2ja;2DA;2ly;2NA;2PA;2kd;2BA;2mx;2MA;2YA;2RA;2LA;",
     "2VA;2hw;2oo;2SA;2ZA;2HA;2KKA;2TTTHA;2TTTA;2VHA;;;1g hg k;2CAUDA;2cd y;-4;1dj;1ke bk;2ax;2l;2z;1bn gu;2cm;2aw;",
     "3cy;1fb bk ct;-7;1bf cd;2c ak;2+1;2rn hg;2MANGALAM;2LOTUS;2na;2h+1;2LINES;-7;0zy ee ARABIAN d HE;4ko;4rm;4yd;",
     "4yj;4ou;4ju;4py;4sf;4TAW;4SAT;4sh;4nx;4KHETH;4or;4jc;4FE;4ho;4AYN;4DHADHE;4lj;4ln;4GHAYN;4yi;4ZAYN;4DHALETH;",
     "4sg;4THAW;4THETH;3bn bk;4fx;3NUMERIC lf;1vg ARABIAN d sr;4pn;4gi;4bj;4te;4ou;4ES-2;4tq;4xr;4ye;4ES-1;4sq;4hy;",
     "4fe;4uz;4ES-3;4va;4ho;4ra;4yf;4GEEM;4DAL;4ll;4td;4se;4THAL;4fo;4uy;4ZAH;3bn bk;4gu;4cm;-32;0MANICHAEAN d oq;",
     "2sf;2BHETH;2lj;2GHIMEL;2ln;2HE;2ou;1g UD;1d nb;2ZHAYIN;2JAYIN;2JHAYIN;2rm;2yi;2sg;2sh;2XAPH;2KHAPH;2ko;",
     "2DHAMEDH;2THAMEDH;2yd;2nx;2jc;2re;2AAYIN;2PE;2FE;2or;2yj;2XOPH;2QHOPH;2py;2ju;2SSHIN;2TAW;1cs aq k;3y;-4;",
     "1bn bk;2ao;2gu;2cm;2aw;1bf od;2FLEURON;2h cd WITHIN cd;2+3;3;2ax ce;2et qi;-9;0AVESTAN d A;2AA;2AO;2AAO;2AN;",
     "2AAN;2AE;2AEE;2E;2EE;2O;2OO;2I;2II;2U;2UU;2KE;2XE;2XYE;2XVE;2GE;2GGE;2GHE;2CE;2JE;2TE;2pj;2DE;2DHE;2TTE;2PE;",
     "2FE;2BE;2BHE;2NGE;2NGYE;2NGVE;2NE;2NYE;2NNE;2ME;2HME;2YYE;2YE;2VE;2RE;2LE;2SE;2ZE;2pw;2ZHE;2SHYE;2SSHE;2HE;;;;",
     "1cs aq;0TINY ax ce by bk cd bf;0c+6;0cf+6;1bk cd by ax ce+1;1ax RINGS by bk dk+1;1bk dk by ax RINGS+1;",
     "0INSCRIPTIONAL PARTHIAN d oq;3sf;3lj;3ln;3HE;3ou;3nb;3rm;3yi;3sg;3sh;3ko;3yd;3nx;3jc;3re;3PE;3or;3yj;3py;3ju;",
     "3TAW;;;2bn bk;3ax;3l;3z;3gu;3cm;3aw;4cy;1PAHLAVI d oq;3sf;3lj;3ln;3HE;3ou-re-py;3nb;3rm;3yi;3sg;3sh;3ko;",
     "3yd-yj;3nx;3jc;3PE;3or;3ju;3TAW;-5;2bn bk;3ax;3l;3z;3gu;3cm;3aw;4cy;0PSALTER PAHLAVI d oq;3sf;3lj;3ln;3HE;",
     "3ou-re-py;3nb;3rm;3sg;3sh;3ko;3yd-yj;3nx;3jc;3PE;3or;3ju;3TAW;-7;2gk aq;2at+2;2z ce b gn;5cd;-12;2bn bk;3ax;",
     "3l;3z;3gu;3cm;3aw;-80;0zy TURKIC d ew A;3dz A;4AE;3ew I;3dz I;4E;3ew O;4OE;3dz+1;3ew AB;3dz+1;3ew AEB;3dz+1;",
     "3ew AG;3dz+1;3ew AEG;3dz+1;3ew AD;3dz+1;3ew AED;4EZ;3dz+1;3ew AY;3dz+1;3ew AEY;3dz+1;3ew AEK;3dz+1;3ew OEK;",
     "3dz+1;3ew AL;3dz+1;3ew AEL;4ELT;4EM;4AN;4AEN;3dz+1;3ew ENT;3dz+1;3ew ENC;3dz+1;3ew ENY;3dz+1;4ANG;3ew ENG;",
     "3dz AENG;3ew EP;4OP;4IC;4EC;3dz+1;3ew AQ;3dz+1;3ew IQ;3dz+1;3ew OQ;3dz+1;3ew AR;3dz+1;3ew AER;4AS;4AES;4rk;",
     "3dz+1;3ew ESH;3dz+1;3ew AT;3dz+1;3ew AET;3dz+1;3ew OT;4BASH;-55;1HUNGARIAN a A;4AA;4EB;4AMB;4EC;4ENC;4ECS;4ED;",
     "4n;4E;4CLOSE E;4EE;+2;4EGY;4EH;4I;4II;4EJ;+1;4AK;4UNK;4EL;4ELY;4EM;+1;4ENY;4O;4OO;4ua OE;4vl+1;4OEE;4EP;4EMP;",
     "4ER;4cz+1;4ES;4ESZ;4ET;4ENT;4ETY;4ECH;4U;4UU;4ua UE;4vl+1;4EV;4EZ;4EZS;4ENT-qq g;4US;-13;2c d A;4AA;4EB;4AMB;",
     "4EC;4ENC;4ECS;4ED;4n;4E;4CLOSE E;4EE;+2;4EGY;4EH;4I;4II;4EJ;+1;4AK;4UNK;4EL;4ELY;4EM;+1;4ENY;4O;4OO;4ua OE;",
     "4vl+1;4OEE;4EP;4EMP;4ER;4cz+1;4ES;4ESZ;4ET;4ENT;4ETY;4ECH;4U;4UU;4ua UE;4vl+1;4EV;4EZ;4EZS;4ENT-qq g;4US;-7;",
     "2bn bk;3ao;3gu;3fx;3aw;4cy;0HANIFI ROHINGYA d A;3BA;3PA;3TA;3lc;3JA;3CA;3HA;3iv;3FA;3DA;3lh;3RA;3xt;3ZA;3SA;",
     "3hw;3KA;3GA;3LA;3MA;3NA;3WA;3KINNA+1;3YA;3KINNA+1;3hv;3is;3VA;2au A;3I;3U;3E;3O;2aq SAKIN;3NA KHONNA;",
     "2g HARBAHAY;3TAHALA;3TANA;3TASSI;-8;2w;3bk;3ax;3l;3z;3ao;3dp;3aj;3af;3be;-294;0RUMI ke bk;2ax;2l;2z;2ao;2dp;",
     "2aj;2af;2be;1bn gu;2cm;2fg;2ki;2fx;2jg;2gy;2jx;2hz;2aw;2ax+1;2l+1;2z+1;2ao+1;2dp+1;2aj+1;2af+1;2be+1;",
     "1fb bk ct;3du;3qd;2ax qo;;0YEZIDI d ELIF;2BE;2PE;2PHE;2pj;2SE;2CIM;2CHIM;2CHHIM;2HHA;2XA;2DAL;2ZAL;2RA;2RHA;",
     "2ZA;2JA;2SIN;2ju;2uz;2yf;2TA;2ZE;2EYN;2XHEYN;2FA;2VA;3ei km;2te;2sq;2KHAF;2GAF;2pn;2MIM;2nx;2UM;2ou;2OW;2EW;",
     "2HAY;2YOT;2ET;;1bh fs aq;2vi+1;1HYPHENATION+1;;;1d pn b cd k;2YOT b al+1;-78;0zy SOGDIAN d oq;3u+1;3sf;3u+1;",
     "3lj;3HE;3u+1;3ou;3nb;3rm;3sg;3sh;3ko;3yd;3nx;3u+1;5b m gj;3jc;3re;3ei+1;3PE;3or;3u+1;5b m gj;3py-re-ln;3ju;",
     "3TAW;3u+1;5b m gj;2bn bk;3ax;3l;3z;3ao;3gu;3cm;3fg;3aw;2fb bk ct;2de re-ln;-8;0SOGDIAN d oq;2sf;2lj;2HE;2ou;",
     "2nb;2rm;2sg;2sh;2ko;2yd;2nx;2jc;2re;2PE;2or;2py-re;2ju;2TAW;2FETH;2LESH;1pa ju;1bh cd y;2ax ce+1;2cd k;",
     "2ax ce+1;2os+1;3y;2bx k;3y;2dc+2;2py+1;2ai+1;1bn bk;2gu;2cm;2aw;1bf ax m BARS;5b ce;2ak b cd;2ax wn b ce;",
     "2ct ak b cd;-22;0zy UYGHUR d oq;3sf;3lj-rm;3ou;3nb;3u rm;3sg;3sh;3ko;3yd;3nx;3jc;3PE;3or;3py;3ju;3TAW;3LESH;",
     "2bh cd k;4y;3ax ce k;5y;2bf hg;3ax BARS;4ce;3z+1;-38;0CHORASMIAN d oq;2c+1;2sf;2lj;2ln;2HE;2ou;2CURLED+1;2nb;",
     "2rm;2sg;2sh;2ko;2yd;2nx;2jc;2re;2PE;2py;2ju;2TAW;1bn bk;2ax;2l;2z;2gu;2cm;2aw;-20;0ELYMAIC d oq;2sf;2lj;2ln;",
     "2HE;2ou;2nb;2rm;2yi;2sg;2sh;2ko;2yd;2nx;2jc;2re;2PE;2or;2yj;2py;2ju;2TAW;1de nb-sg;"]

end RpcClients.Text.Name
