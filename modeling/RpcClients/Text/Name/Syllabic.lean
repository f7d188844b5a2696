import RpcClients.Text.Name.Block

/-! # Names of syllables and letters of America and Asia -/

namespace RpcClients.Text.Name

/-- Cherokee and Canadian syllables. -/
def americanNames : Block where
  first := 0x13A0
  lines :=
    ["0CHEROKEE d A;2E;2I;2O;2U;2V;2GA;2KA;2GE;2GI;2GO;2GU;+1;2HA;2HE;2HI;2HO;2HU;+1;2LA;2LE;2LI;2LO;2LU;+1;2MA;2ME;",
     "2MI;2MO;2MU;2NA;2HNA;2NAH;2NE;2NI;2NO;2NU;+1;2QUA;2QUE;2QUI;2QUO;2QUU;+1;2SA;2S;2SE;2SI;2SO;2SU;+1;2DA;2TA;",
     "2DE;2TE;2DI;2TI;2DO;2DU;+1;2DLA;2TLA;2TLE;2TLI;2TLO;2TLU;+1;2rz;2TSE;2TSI;2TSO;2TSU;+1;2WA;2WE;2WI;2WO;2WU;+1;",
     "2YA;2YE;2YI;2YO;2YU;+1;2MV;;;1c d YE;3YI;3YO;3YU;+1;3MV;;;0qu jd;2E;2AAI;2I;2II;2O;2OO;2ol+1;2kc EE;3I;2A;2AA;",
     "2WE;2v+1;2WI;2v+1;2WII;2v+1;2WO;2v+1;2WOO;2v+1;2mn+1;2WA;2v+1;2WAA;2v+1;2mn+1;2AI;2ol W;2dn;2u ch;3dg;",
     "3eg ct dk;3ne+2;3e+2;3+1;3h ch;4cz m STROKES;3ab cd;3cz t ai;3bb;3bc nz;2EN;2IN;2ON;2AN;2PE;2PAAI;2PI;2PII;",
     "2PO;2POO;2ol+1;2kc HEE;3HI;2PA;2PAA;2PWE;2v+1;2PWI;2v+1;2PWII;2v+1;2PWO;2v+1;2PWOO;2v+1;2PWA;2v+1;2PWAA;2v+1;",
     "2Y+2;2P;2v P;2kc H;2TE;2TAAI;2TI;2TII;2TO;2TOO;2ol+1;2kc DEE;3DI;2TA;2TAA;2TWE;2v+1;2TWI;2v+1;2TWII;2v+1;2ax;",
     "2v+1;2TWOO;2v+1;2TWA;2v+1;2TWAA;2v+1;2mn+1;2T;2TTE;2TTI;2TTO;2lc;2KE;2KAAI;2KI;2KII;2KO;2KOO;2ol+1;2KA;2KAA;",
     "2KWE;2v+1;2KWI;2v+1;2KWII;2v+1;2KWO;2v+1;2KWOO;2v+1;2KWA;2v+1;2KWAA;2v+1;2mn+1;2K;2KW;2ee-SLAVEY KEH;4KIH;",
     "4KOH;4KAH;2CE;2CAAI;2CI;2CII;2CO;2COO;2ol+1;2CA;2CAA;2CWE;2v+1;2CWI;2v+1;2CWII;2v+1;2CWO;2v+1;2CWOO;2v+1;2CWA;",
     "2v+1;2CWAA;2v+1;2mn+1;2C;2qz TH;2ME;2MAAI;2MI;2MII;2MO;2MOO;2ol+1;2MA;2MAA;2MWE;2v+1;2MWI;2v+1;2MWII;2v+1;",
     "2MWO;2v+1;2MWOO;2v+1;2MWA;2v+1;2MWAA;2v+1;2mn+1;2M;2v M;2MH;2ATHAPASCAN M;2qz M;2NE;2NAAI;2NI;2NII;2NO;2NOO;",
     "2ol+1;2NA;2NAA;2NWE;2v+1;2NWA;2v+1;2NWAA;2v+1;2mn+1;2N;2kc NG;2NH;2LE;2LAAI;2LI;2LII;2LO;2LOO;2ol+1;2LA;2LAA;",
     "2LWE;2v+1;2LWI;2v+1;2LWII;2v+1;2LWO;2v+1;2LWOO;2v+1;2LWA;2v+1;2LWAA;2v+1;2L;2v L;2br L;2SE;2SAAI;2SI;2SII;2SO;",
     "2SOO;2ol+1;2SA;2SAA;2SWE;2v+1;2SWI;2v+1;2SWII;2v+1;2SWO;2v+1;2SWOO;2v+1;2SWA;2v+1;2SWAA;2v+1;2mn+1;2S;",
     "2ATHAPASCAN S;2SW;2BLACKFOOT S;2MOOSE-zo SK;2mn SKW;3S-W;3SPWA;3STWA;3SKWA;3SCWA;2pw;2SHI;2SHII;2SHO;2SHOO;",
     "2hw;2SHAA;2SHWE;2v+1;2SHWI;2v+1;2SHWII;2v+1;2SHWO;2v+1;2SHWOO;2v+1;2SHWA;2v+1;2SHWAA;2v+1;2SH;2YE;2YAAI;2YI;",
     "2YII;2YO;2YOO;2ol+1;2YA;2YAA;2YWE;2v+1;2YWI;2v+1;2YWII;2v+1;2YWO;2v+1;2YWOO;2v+1;2YWA;2v+1;2YWAA;2v+1;2mn+1;",
     "2Y;2BIBLE-zo Y;2lq+2;2qz YI;2RE;2R-zo+1;2v LE;2RAAI;2RI;2RII;2RO;2ROO;2v LO;2RA;2RAA;2v LA;2RWAA;2v+1;2R;2v R;",
     "2br R;2FE;2FAAI;2FI;2FII;2FO;2FOO;2FA;2FAA;2FWAA;2v+1;2F;2pj;2N-zo+1;2THI;2N-zo+1;2THII;2N-zo+1;2THO;2THOO;",
     "2ja;2THAA;2THWAA;2v+1;2TH;2TTHE;2TTHI;2TTHO;2gs;2TTH;2TYE;2TYI;2TYO;2TYA;2NUNAVIK HE;3HI;3HII;3HO;3HOO;3HA;",
     "3HAA;3H;2NUNAVUT H;2HK;2QAAI;2QI;2QII;2QO;2QOO;2QA;2QAA;2Q;2TLHE;2TLHI;2TLHO;2TLHA;2v RE;4RI;4RO;4RA;2NGAAI;",
     "2NGI;2NGII;2NGO;2NGOO;2hv;2NGAA;2NG;2NNG;2qz pw;3SHI;3SHO;3hw;2WOODS-zo pj;4THI;4THO;4ja;4TH;2LHI;2LHII;2LHO;",
     "2LHOO;2LHA;2LHAA;2LH;2TH-zo pj;4THI;4THII;4THO;4THOO;4ja;4THAA;4TH;2AIVILIK B;2BLACKFOOT E;3I;3O;3A;3WE;3WI;",
     "3WO;3WA;3NE;3NI;3NO;3NA;3KE;3KI;3KO;3KA;2qz HE;3HI;3HO;3HA;2kc GHU;3GHO;3GHE;3GHEE;3GHI;3lz;3RU;3RO;3RE;3REE;",
     "3RI;3RA;3WU;3WO;3WE;3WEE;3WI;3WA;3HWU;3HWO;3HWE;3HWEE;3HWI;3HWA;3THU;3THO;3pj;3THEE;3THI;3ja;3TTU;3TTO;3TTE;",
     "3TTEE;3TTI;3lc;3PU;3PO;3PE;3PEE;3PI;3PA;3P;3GU;3GO;3GE;3GEE;3GI;3GA;3KHU;3KHO;3KHE;3KHEE;3KHI;3iv;3KKU;3KKO;",
     "3KKE;3KKEE;3KKI;3KKA;3KK;3NU;3NO;3NE;3NEE;3NI;3NA;3MU;3MO;3ME;3MEE;3MI;3MA;3YU;3YO;3YE;3YEE;3YI;3YA;3JU;2qz+1;",
     "2kc JO;3JE;3JEE;3JI;2qz+1;2kc JA;3JJU;3JJO;3JJE;3JJEE;3JJI;3JJA;3LU;3LO;3LE;3LEE;3LI;3LA;3DLU;3DLO;3DLE;3DLEE;",
     "3DLI;3DLA;3LHU;3LHO;3LHE;3LHEE;3LHI;3LHA;3TLHU;3TLHO;3TLHE;3TLHEE;3TLHI;3TLHA;3TLU;3TLO;3TLE;3TLEE;3TLI;3TLA;",
     "3ZU;3ZO;3ZE;3ZEE;3ZI;3ZA;3Z;3ah Z;3DZU;3DZO;3DZE;3DZEE;3DZI;3DZA;3SU;3SO;3SE;3SEE;3SI;3SA;3SHU;3SHO;3pw;3SHEE;",
     "3SHI;3hw;3SH;3TSU;3TSO;3TSE;3TSEE;3TSI;3rz;3CHU;3CHO;3zp;3CHEE;3uu;3il;3TTSU;3TTSO;3TTSE;3TTSEE;3TTSI;3TTSA;",
     "2uu g;2cp;2QAI;2NGAI;2NNGI;2NNGII;2NNGO;2NNGOO;2NNGA;2NNGAA;2WOODS-zo THWEE;4THWI;4THWII;4THWO;4THWOO;4THWA;",
     "4THWAA;4u TH;2BLACKFOOT W;"]

/-- Ogham, Runic, Philippine, Khmer and Mongolian letters. -/
def runicNames : Block where
  first := 0x1680
  lines :=
    ["0OGHAM qb aq;1d BEITH;2LUIS;2FEARN;2SAIL;2NION;2UATH;2DAIR;2TINNE;2COLL;2CEIRT;2MUIN;2GORT;2NGEADAL;2STRAIF;",
     "2RUIS;2AILM;2ONN;2UR;2EADHADH;2IODHADH;2EABHADH;2OR;2UILLEANN;2IFIN;2EAMHANCHOLL;2PEITH;1FEATHER aq;1ag+2;;;;",
     "0RUNIC d FEHU FEOH FE F;2V;2URUZ UR U;2YR;2Y;2W;2THURISAZ THURS THORN;2ETH;2ANSUZ A;2OS O;2AC A;2AESC;",
     "2dc-qs-OSS O;2cz-TWIG+2;2O;2OE;2ON;2RAIDO RAD REID R;2KAUNA;2CEN;2KAUN K;2G;2ENG;2GEBO GYFU G;2ui;",
     "2WUNJO WYNN W;2HAGLAZ H;2HAEGL H;2dc-qs-HAGALL H;2cz-TWIG+2;2NAUDIZ NYD NAUD N;2cz-TWIG-NAUD N;2ev-N;",
     "2ISAZ IS ISS I;2E;2JERAN J;2GER;2dc-qs-AR AE;2cz-TWIG-AR A;2IWAZ EOH;2PERTHO PEORTH P;2ALGIZ EOLHX;2SOWILO S;",
     "2SIGEL dc-qs-SOL S;2cz-TWIG+2;2C;2Z;2TIWAZ TIR TYR T;2cz-TWIG-TYR T;2D;2BERKANAN BEORC BJARKAN B;",
     "2cz-TWIG-BJARKAN B;2ev-P;2di-P;2EHWAZ EH E;2MANNAZ xs M;2dc-qs-MADR M;2cz-TWIG+2;2LAUKAZ LAGU LOGR L;2ev-L;",
     "2INGWAZ;2ING;2DAGAZ DAEG D;2OTHALAN ETHEL O;2EAR;2IOR;2CWEORTH;2CALC;2CEALC;2STAN;2dc-qs-YR;2cz-TWIG+1;",
     "2ICELANDIC+1;2Q;2X;1bm bf;1jk+1;1gn+1;1ARLAUG ad;1TVIMADUR+1;1BELGTHOR+1;1d K;2SH;2OO;2FRANKS CASKET OS;4IS;",
     "4EH;4AC;4AESC;-7;0TAGALOG d A;2I;2U;2KA;2GA;2hv;2TA;2DA;2NA;2PA;2BA;2MA;2YA;2RA;2LA;2WA;2SA;2HA;1au g I;3U;",
     "1g dj;2PAMUDPOD;-9;1d gw RA;0HANUNOO d A;2I;2U;2KA;2GA;2hv;2TA;2DA;2NA;2PA;2BA;2MA;2YA;2RA;2LA;2WA;2SA;2HA;",
     "1au g I;3U;1g PAMUDPOD;0PHILIPPINE bm bf;1h+1;-9;0BUHID d A;2I;2U;2KA;2GA;2hv;2TA;2DA;2NA;2PA;2BA;2MA;2YA;2RA;",
     "2LA;2WA;2SA;2HA;1au g I;3U;-12;0TAGBANWA d A;2I;2U;2KA;2GA;2hv;2TA;2DA;2NA;2PA;2BA;2MA;2YA;;2LA;2WA;2SA;;",
     "1au g I;3U;-12;0KHMER d KA;2iv;2KO;2KHO;2NGO;2CA;2il;2CO;2CHO;2NYO;2DA;2gs;2DO;2TTHO;2NNO;2TA;2ja;2TO;2THO;",
     "2NO;2BA;2kd;2PO;2PHO;2MO;2YO;2RO;2LO;2VO;2hw;2SSO;2SA;2HA;2LA;2QA;1pa au QAQ;3QAA;3QI;3QII;3QU;3QUK;3QUU;",
     "3QUUV;3RY;3RYY;3LY;3LYY;3QE;3QAI;3QOO TYPE bk;5ax;3QAU;1au INHERENT AQ;3AA;2g+1;3I;3II;3Y;3YY;3U;3UU;3UA;3OE;",
     "3YA;3IE;3E;3AE;3AI;3OO;3AU;1g NIKAHIT;2REAHMUK;2YUUKALEAPINTU;2MUUSIKATOAN;2TRIISAP;2BANTOC;2ROBAT;",
     "2TOANDAKHIAT;2KAKABAT;2AHSDA;2SAMYOK SANNYA;2VIRIAM;2COENG;2BATHAMASAT;2KHAN;2BARIYOOSAN;2CAMNUC PII KUUH;",
     "2LEK TOO;2BEYYAL;2PHNAEK MUAN;2KOOMUUT;1rt ad RIEL;1g AVAKRAHASANYA;2ATTHACAN;;;1w;2bk;2ax;2l;2z;2ao;2dp;2aj;",
     "2af;2be;-6;1ad LEK ATTAK SON;4MUOY;4PII;4BEI;4BUON;4PRAM;5-MUOY;5-PII;5-BEI;5-BUON;-6;0MONGOLIAN vo;1tt;1ez;",
     "1cp;1hx;1z ce;1TODO wc jd;1SIBE ge BOUNDARY MARKER;1MANCHU ez;2cp;1NIRUGU;1FREE lm bk;4ax;4l;1au ek;",
     "1FREE lm z;1w;2bk;2ax;2l;2z;2ao;2dp;2aj;2af;2be;-6;1d A;2E;2I;2O;2U;2OE;2UE;2EE;2NA;2ANG;2BA;2PA;2QA;2GA;2MA;",
     "2LA;2SA;2hw;2TA;2DA;2il;2JA;2YA;2RA;2WA;2FA;2KA;2iv;2rz;2ZA;2HAA;2ZRA;2LHA;2ZHI;2uu;2TODO dc au g;3E;3I;3O;3U;",
     "3OE;3UE;3ANG;3BA;3PA;3QA;3GA;3MA;3TA;3DA;3il;3JA;3rz;3YA;3WA;3KA;3GAA;3HAA;3JIA;3NIA;3DZA;2SIBE E;3I;3IY;3UE;",
     "3U;3ANG;3KA;3GA;3HA;3PA;3hw;3TA;3DA;3JA;3FA;3GAA;3HAA;3rz;3ZA;3RAA;3il;3vf;2MANCHU I;3KA;3RA;3FA;3vf;",
     "2il b ax ce;-7;2pi bd bk;4cw+1;4DAMARU;4UBADAMA;4ar+1;4BALUDA;4l+1;4A;4I;4KA;4hv;4CA;4lc;4gs;4lh;4mo;4TA;4DA;",
     "4PA;4kd;4oo;4vf;4ZA;4AH;2TODO pi TA;5vf;2MANCHU pi lz;5hv;5CA;5pm;5lc;5hh;5TA;5ly;5oo;5CYA;5vf;5ZA;2pi ct U;",
     "5YA;2MANCHU pi mx;2pi DAGALGA;2MANCHU pi LHA;"]

/-- Further Canadian syllables, and letters of South-East Asia. -/
def canadianExtensionNames : Block where
  first := 0x18B0
  lines :=
    ["0qu OY;2AY;2AAY;2WAY;2POY;2PAY;2PWOY;2TAY;2KAY;2KWAY;2MAY;2NOY;2NAY;2LAY;2SOY;2SAY;2SHOY;2SHAY;2SHWOY;2YOY;",
     "2YAY;2RAY;2NWI;2xp+1;2NWII;2xp+1;2NWO;2xp+1;2NWOO;2xp+1;2RWEE;2RWI;2RWII;2RWO;2RWOO;2RWA;2xp P;3T;3K;3C;3M;3N;",
     "3S;3SH;2EASTERN W;2WESTERN W;2u c dk;3fy cd;2R-zo RWE;2v LOO;4LAA;2THWE;2THWA;2TTHWE;2TTHOO;2TTHAA;2TLHWE;",
     "2TLHOO;2qz SHWE;3SHOO;3HOO;2kc GWU;3DENE GEE;3GAA;3GWA;2qz JUU;2kc JWA;2BEAVER DENE L;4R;2kc DENTAL S;-10;",
     "0LIMBU au-kc d;1d KA;2iv;2GA;2lz;2hv;2CA;2il;2JA;2pm;2YAN;2TA;2ja;2DA;2ly;2NA;2PA;2kd;2BA;2mx;2MA;2YA;2RA;2LA;",
     "2WA;2hw;2oo;2SA;2HA;2GYAN;2TRA;;1au g A;3I;3U;3EE;3AI;3OO;3AU;3E;3O;1pl d YA;3RA;3WA;-4;1c d KA;3hv;3bd;3TA;",
     "3NA;3PA;3MA;3RA;3LA;1g MUKPHRENG;2KEMPHRENG;2SA-I;-4;2LOO;;;;1cb aq;1dl+1;1w;2bk;2ax;2l;2z;2ao;2dp;2aj;2af;",
     "2be;0TAI LE d KA;3XA;3hv;3rz;3SA;3YA;3TA;3ja;3LA;3PA;3kd;3MA;3FA;3VA;3HA;3QA;3iv;3sa;3NA;3A;3I;3EE;3EH;3U;3OO;",
     "3O;3UE;3E;3AUE;3AI;;;3fh-2;+4;-11;0NEW TAI LUE d cx QA;4fn+1;4cx KA;5XA;5hv;4fn KA;5XA;5hv;4cx rz;5SA;5YA;",
     "4fn rz;5SA;5YA;4cx TA;5ja;5NA;4fn TA;5ja;5NA;4cx PA;5kd;5MA;4fn PA;5kd;5MA;4cx FA;5VA;5LA;4fn FA;5VA;5LA;",
     "4cx HA;5DA;5BA;4fn HA;5DA;5BA;4cx KVA;5XVA;4fn KVA;5XVA;4cx SUA;4fn+1;-4;3au g au SHORTENER;5AA;5II;5U;5UU;5E;",
     "5AE;5O;5OA;5UE;5AY;5AAY;5UY;5OY;5OAY;5UEY;5IY;3d u V;5NG;5N;5M;5K;5D;5B;3fh aq-1;+1;-6;3w;4bk;4ax;4l;4z;4ao;",
     "4dp;4aj;4af;4be;3THAM ke bk;;;;3g LAE;4LAEV;0KHMER ad PATHAMASAT;2MUOY KOET;2PII+1;2BEI+1;2BUON+1;2PRAM+1;",
     "3-MUOY+1;3-PII+1;3-BEI+1;3-BUON+1;2DAP+1;3-MUOY+1;3-PII+1;3-BEI+1;3-BUON+1;3-PRAM+1;2TUTEYASAT;2MUOY ROC;",
     "2PII+1;2BEI+1;2BUON+1;2PRAM+1;3-MUOY+1;3-PII+1;3-BEI+1;3-BUON+1;2DAP+1;3-MUOY+1;3-PII+1;3-BEI+1;3-BUON+1;",
     "3-PRAM+1;0BUGINESE d KA;2GA;2hv;2NGKA;2PA;2BA;2MA;2MPA;2TA;2DA;2NA;2NRA;2CA;2JA;2is;2NYCA;2YA;2RA;2LA;2VA;2SA;",
     "2A;2HA;1au g I;3U;3E;3O;3AE;;;1PALLAWA;1ji gk;0TAI THAM d cx KA;4iv;4KXA;3fn KA;4KXA;4iv;3hv;3cx CA;4il;",
     "3fn CA;4SA;4il;3is;3RATA;3cx RATHA;3DA;3fn RATHA;3RANA;3cx TA;4ja;3fn TA;4ja;3NA;3BA;3cx PA;4kd;4FA;3fn PA;",
     "4FA;4kd;3MA;3fn YA;3cx+1;3RA;3RUE;3LA;3LUE;3WA;3cx hw;4oo;4SA;4HA;3sw;3A;3fn HA;3I;3II;3U;3UU;3EE;3OO;3LAE;",
     "3GREAT SA;2ds g br RA;5LA;4LA TANG LAI;2g MAI KANG+1;2ds g u hv;4fn PA;4cx RATHA OR+2;4MA;4BA;4SA;;2g SAKOT;",
     "2au g A;4MAI SAT;4AA;4TALL+1;4I;4II;4UE;4UUE;4U;4UU;4O;4OA y;4OY;4E;4AE;4OO;4AI;4THAM+1;4OA k;2g MAI KANG;",
     "3fh-1;+1;3KHUEN fh-3;+2;3RA HAAM;3MAI SAM;3KHUEN-LUE KARAN;;;2bh mr cd;2HORA w;4bk;4ax;4l;4z;4ao;4dp;4aj;4af;",
     "4be;-6;2THAM w;4bk;4ax;4l;4z;4ao;4dp;4aj;4af;4be;-6;2g WIANG;3WIANGWAAK;3SAWAN;3KEOW;3HOY;3DOKMAI;3ag fv RANA;",
     "3MAI YAMOK;3KAAN;3KAANKUU;3SATKAAN;3SATKAANKUU;3HANG;3CAANG;;;0bh DOUBLED al er;1ba-dk;1uo;1o p;1dq cd;1X-X y;",
     "1WIGGLY et+1;1di aq+1;1h+3;1bl uk ai+1;1STRONG+3;1PARENTHESES k;1h+2;1PARENTHESES y;2mb;1dm c d W y;4at+2;",
     "1i cc k i;1e cc k e;1i cc y i;1e cc y e;1av BRACKETS k;1bn g+1;1ar h ARCH+1;1bb g+1;1h+3;4y;1dq ch er;",
     "1dm c d mc G;5R;5T;"]

/-- Balinese, Sundanese, Batak, Lepcha and Ol Chiki letters. -/
def indonesianNames : Block where
  first := 0x1B00
  lines :=
    ["0BALINESE g ULU RICEM;3jy;2CECEK;2SURANG;2BISAH;1d AKARA;3om;2IKARA;3om;2UKARA;3om;2RA REPA;4om;2LA LENGA;4om;",
     "2EKARA;2AIKARA;2OKARA;3om;2KA;3ld;2GA;3GORA;2hv;2CA;3LACA;2JA;3JERA;2is;2TA LATIK;3rd ld;2DA rd ALPAPRANA;4ld;",
     "2NA RAMBAT;2TA;3TAWA;2DA;3MADU;2NA;2PA;3KAPAL;2BA;3KEMBANG;2MA;2YA;2RA;2LA;2WA;2SA SAGA;3SAPA;3;2HA;",
     "1g REREKAN;1au g om;3ULU;4SARI;3SUKU;4ILUT;3RA REPA;5om;3LA LENGA;5om;3TALING;4REPA;4om;4REPA+1;3PEPET;4om;",
     "1ADEG ADEG;1d sq SASAK;2KHOT+1;2TZIR+1;2EF+1;2VE+1;2ZAL+1;2ASYURA+1;2gw JNYA;;;;1w;2bk;2ax;2l;2z;2ao;2dp;2aj;",
     "2af;2be;1PANTI;1PAMADA;1WINDU;1CARIK PAMUNGKAH;2SIKI;2PAREREN;1PAMENENG;1kz ad DONG;3DENG;3DUNG;3DANG;4SURANG;",
     "3DING;3DAENG;3DEUNG;3DAING;3DANG GEDE;3bh TEGEH;4ENDEP;4KEMPUL;4KEMPLI;4JEGOGAN;4KEMPUL b+1;4KEMPLI+2;4BENDE;",
     "4GONG;3e-lp di DUG;6DAG;5ep TUK;6TAK;3i-lp di PANG;6PUNG;5ep PLAK;6PLUK;5di PING;1PANTI LANTANG;1PAMADA+1;;",
     "0SUNDANESE g PANYECEK;2PANGLAYAR;2PANGWISAD;1d A;2I;2U;2AE;2O;2E;2EU;2KA;2QA;2GA;2hv;2CA;2JA;2ZA;2is;2TA;2DA;",
     "2NA;2PA;2FA;2VA;2BA;2MA;2YA;2RA;2LA;2WA;2SA;2XA;2HA;1ds g PAMINGKAL;3PANYAKRA;3PANYIKU;1au g PANGHULU;",
     "3PANYUKU;3PANAELAENG;3PANOLONG;3PAMEPET;3PANEULEUNG;1g PAMAAEH;2dj;1ds g PASANGAN MA;4WA;1d iv;2SYA;1w;2bk;",
     "2ax;2l;2z;2ao;2dp;2aj;2af;2be;1gf;1d REU;2LEU;2mx;2u K;3M;0BATAK d A;2he A;2HA;2he+1;2MANDAILING+1;2BA;",
     "2KARO+1;2PA;2he+1;2NA;2MANDAILING+1;2WA;2he+1;2PAKPAK+1;2GA;2he+1;2JA;2DA;2RA;2he+1;2MA;2he+1;2SOUTHERN TA;",
     "2NORTHERN+1;2SA;2he+1;2MANDAILING+1;2YA;2he+1;2hv;2LA;2he+1;2is;2CA;2NDA;2MBA;2I;2U;1g TOMPI;1au g E;",
     "3PAKPAK E;3EE;3I;3KARO I;3O;3KARO O;3U;4qm he SA;1ds g NG;3H;1PANGOLAT;1PANONGONAN;-8;1ad BINDU NA METEK;",
     "3PINARBORAS;3JUDUL;3PANGOLAT;0LEPCHA d KA;2KLA;2iv;2GA;2GLA;2hv;2CA;2il;2JA;2is;2TA;2ja;2DA;2NA;2PA;2PLA;2kd;",
     "2FA;2FLA;2BA;2BLA;2MA;2MLA;2rz;2sa;2DZA;2YA;2RA;2LA;2HA;2HLA;2VA;2SA;2hw;2WA;2A;1pl d YA;3RA;1au g AA;3I;3O;",
     "3OO;3U;3UU;3E;1ds g K;3M;3L;3N;3P;3R;3T;3NYIN-DO;3KANG;1g RAN;2ip;;;;1bf TA-ROL;2NYET THYOOM+2;2CER-WA;",
     "2TSHOOK+2;3;1w;2bk;2ax;2l;2z;2ao;2dp;2aj;2af;2be;;;;1d lc;2gs;2lh;0OL CHIKI w;3bk;3ax;3l;3z;3ao;3dp;3aj;3af;",
     "3be;2d LA;3AT;3AG;3ANG;3AL;3LAA;3AAK;3AAJ;3AAM;3AAW;3LI;3IS;3IH;3INY;3IR;3LU;3UC;+1;3UNN;3UY;3LE;3EP;3EDD;3EN;",
     "3ERR;3LO;3OTT;3OB;3OV;3OH;2MU TTUDDAG;2GAAHLAA TTUDDAAG;2MU-GAAHLAA+1;2RELAA;2PHAARKAA;2AHAD;2bf MUCAAD;3h+1;"]

end RpcClients.Text.Name
