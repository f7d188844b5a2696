import RpcClients.Text.Name.Block

/-! # Names of further letters of Asia and Africa, and of compatible forms -/

namespace RpcClients.Text.Name

/-- Lisu, Vai, Cyrillic and Latin additions, and letters of India and Indonesia. -/
def lisuNames : Block where
  first := 0xA4D0
  lines :=
    ["0LISU d BA;2PA;2kd;2DA;2TA;2ja;2GA;2KA;2iv;2JA;2CA;2il;2DZA;2rz;2sa;2MA;2NA;2LA;2SA;2vf;2ZA;2hv;2HA;2XA;2HHA;",
     "2FA;2WA;2hw;2YA;2lz;2A;2AE;2E;2EU;2I;2O;2U;2UE;2UH;2OE;2fh MYA TI;3NA PO;3MYA CYA;4BO;4NA;4JEU;1bf ez;2cp;",
     "0VAI ge EE;2EEN;2HEE;2WEE;2WEEN;2PEE;2BHEE;2BEE;2MBEE;2KPEE;2MGBEE;2GBEE;2FEE;2VEE;2TEE;2THEE;2DHEE;2DHHEE;",
     "2LEE;2REE;2DEE;2NDEE;2SEE;2SHEE;2ZEE;2ZHEE;2CEE;2JEE;2NJEE;2YEE;2KEE;2NGGEE;2GEE;2MEE;2NEE;2NYEE;2I;2IN;2HI;",
     "2HIN;2WI;2WIN;2PI;2BHI;2BI;2MBI;2KPI;2MGBI;2GBI;2FI;2VI;2TI;2THI;2DHI;2DHHI;2LI;2RI;2DI;2NDI;2SI;2SHI;2ZI;",
     "2ZHI;2CI;2JI;2NJI;2YI;2KI;2NGGI;2GI;2MI;2NI;2NYI;2A;2AN;2NGAN;2HA;2HAN;2WA;2WAN;2PA;2mx;2BA;2MBA;2KPA;2KPAN;",
     "2MGBA;2GBA;2FA;2VA;2TA;2ja;2ly;2DHHA;2LA;2RA;2DA;2NDA;2SA;2hw;2ZA;2vf;2CA;2JA;2NJA;2YA;2KA;2KAN;2NGGA;2GA;2MA;",
     "2NA;2is;2OO;2OON;2HOO;2WOO;2WOON;2POO;2BHOO;2BOO;2MBOO;2KPOO;2MGBOO;2GBOO;2FOO;2VOO;2TOO;2THOO;2DHOO;2DHHOO;",
     "2LOO;2ROO;2DOO;2NDOO;2SOO;2SHOO;2ZOO;2ZHOO;2COO;2JOO;2NJOO;2YOO;2KOO;2NGGOO;2GOO;2MOO;2NOO;2NYOO;2U;2UN;2HU;",
     "2HUN;2WU;2WUN;2PU;2BHU;2BU;2MBU;2KPU;2MGBU;2GBU;2FU;2VU;2TU;2THU;2DHU;2DHHU;2LU;2RU;2DU;2NDU;2SU;2SHU;2ZU;",
     "2ZHU;2CU;2JU;2NJU;2YU;2KU;2NGGU;2GU;2MU;2NU;2NYU;2O;2ON;2NGON;2HO;2HON;2WO;2WON;2PO;2BHO;2BO;2MBO;2KPO;2MGBO;",
     "2GBO;2GBON;2FO;2VO;2TO;2THO;2DHO;2DHHO;2LO;2RO;2DO;2NDO;2SO;2SHO;2ZO;2ZHO;2CO;2JO;2NJO;2YO;2KO;2NGGO;2GO;2MO;",
     "2NO;2NYO;2E;2EN;2NGEN;2HE;2HEN;2WE;2WEN;2PE;2BHE;2BE;2MBE;2KPE;2KPEN;2MGBE;2GBE;2GBEN;2FE;2VE;2TE;2pj;2DHE;",
     "2DHHE;2LE;2RE;2DE;2NDE;2SE;2pw;2ZE;2ZHE;2CE;2JE;2NJE;2YE;2KE;2NGGE;2NGGEN;2GE;2GEN;2ME;2NE;2NYE;2NG;2zt;1ez;",
     "1cp;1dl aq;1ge NDOLE FA;3KA;3SOO;1ad FEENG;2KEENG;2TING;2NII;2BANG;2FAA;2TAA;2DANG;2DOONG;2KUNG;2TONG;2DO-O;",
     "2JONG;1w;2bk;2ax;2l;2z;2ao;2dp;2aj;2af;2be;1ge NDOLE MA;3DO;-20;0hf a ZEMLYA;1c+2;1a DZELO;1c+2;1a ag DZE;",
     "1c+3;1a jo;1c+2;1a DJERV;1c+2;1a MONOGRAPH UK;1c+3;1a BROAD fq;1c+3;1a ft YER;1c+3;1a zu b uw+1;1c+5;",
     "1a kf YAT;1c+3;1a ag YU;1c+3;1a kf A;1c+3;1a ep fa YUS;1c+4;1a BLENDED+1;1c+3;1a kf ep fa+1;1c+5;1a YN;1c+2;",
     "1a ag TSE;1c+3;1a wc DE;1c+3;1a wc EL;1c+3;1a wc EM;1c+3;1a MONOCULAR O;1c+3;1a BINOCULAR O;1c+3;",
     "1a h MONOCULAR O;1c+4;1d MULTIOCULAR O;0bh hf VZMET;2gu xv g;2hp+2;2cy+2;0SLAVONIC eu;0bh hf d sb IE;3I;3YI;",
     "3U;3zv g;3zu;3wc g;3fq;2wd;2PAYEROK;0hf wd;1PAYEROK;1a DWE;1c+2;1a DZWE;1c+2;1a ZHWE;1c+2;1a CCHE;1c+2;",
     "1a DZZE;1c+2;1a TE b ab bx;1c+5;1a TWE;1c+2;1a TSWE;1c+2;1a TSSE;1c+2;1a TCHE;1c+2;1a HWE;1c+2;1a SHWE;1c+2;",
     "1a h O;1c+3;1a hq O;1c+3;0ci d hf zv g;3wc+1;0bh hf d EF;3kf E;0BAMUM d A;2KA;2U;2KU;2EE;2REE;2TAE;2O;2NYI;2I;",
     "2LA;2PA;2RII;2RIEE;2LEEEE;2MEEEE;2TAA;2NDAA;2NJAEM;2M;2SUU;2MU;2SHII;2SI;2SHEUX;2SEUX;2KYEE;2KET;2NUAE;2NU;",
     "2NJUAE;2YOQ;2SHU;2YUQ;2YA;2NSHA;2KEUX;2PEUX;2NJEE;2NTEE;2PUE;2WUE;2PEE;2FEE;2RU;2LU;2MI;2NI;2REUX;2RAE;2KEN;",
     "2NGKWAEN;2NGGA;2hv;2SHO;2PUAE;2FU;2FOM;2WA;2NA;2LI;2PI;2LOQ;2KO;2MBEN;2REN;2MEN;2MA;2TI;2KI;2MO;2MBAA;2TET;",
     "2KPA;2gu;2NTUU;2SAMBA;2FAAMAE;2KOVUU;2KOGHOM;1bh aq KOQNDON;3TUKWENTIS;1NJAEMLI;1cp;1hx;1ez;1hl;1dl aq;-8;",
     "0ci d CHINESE fh YIN PING;4ux+1;4YIN SHANG;4ux+1;4YIN QU;4ux+1;4YIN RU;4ux+1;2xw-cx ev fh hg;2cx+3;2MID+3;",
     "2fn+3;2xw-fn+3;3-cx ev i-STEM+2;2cx+5;2MID+5;2fn+5;2xw-fn+5;3-cx+4;2cx+4;2MID+4;2fn+4;2xw-fn+4;2cd m+1;3on;",
     "3t hg;2bi e jb dw;2fy UP p;3bc+1;3cb aq;3ar+2;2fn+3;2STRESS n cx fh;4fn+1;0dm a EGYPTOLOGICAL ho;1c+3;",
     "1a EGYPTOLOGICAL ra;1c+3;1a HENG;1c+2;1a TZ;1c+2;1a TRESILLO;1c+2;1a CUATRILLO;1c+2;1a CUATRILLO b ez;1c+4;",
     "1d c aa F;4S;1a AA;1c+2;1a AO;1c+2;1a AU;1c+2;1a AV;1c+2;1a AV b t hg;1c+5;1a AY;1c+2;1a ag C b cd;1c+5;",
     "1a K b ai;1c+4;1a K b ca+1;1c+5;1a K b ai n+2;1c+7;1a zw L;1c+3;1a L b cx ai;1c+5;1a O b dc ai mb;1c+6;",
     "1a O b sc;1c+4;1a OO;1c+2;1a P b ai kx gc;1c+6;1a P b FLOURISH;1c+4;1a P b SQUIRREL gj;1c+5;1a Q b ai kx gc;",
     "1c+6;1a Q b ca ai;1c+5;1a R ROTUNDA;1c+3;1a RUM+1;1c+3;1a V b ca ai;1c+5;1a VY;1c+2;1a VISIGOTHIC Z;1c+3;",
     "1a THORN b ai;1c+4;1a THORN b ai kx gc;1c+6;1a VEND;1c+2;1a ET;1c+2;1a IS;1c+2;1a CON;1c+2;0ci d US;",
     "0dm c d DUM;3LUM;3MUM;3NUM;3RUM;1d c aa+1;1c d TUM;3UM;1a mc D;1c+3;1a mc F;1c+3;1a mc G;3at+2;1c+4;1a at L;",
     "1c+3;1a mc R;1c+3;1a mc S;1c+3;1a mc T;1c+3;0ci d fn al er;2hx;2cz es g;0dm a SALTILLO;1c+2;1a at H;",
     "1c d L b cq bx n zx;1d SINOLOGICAL cd;1a N b gc;1c+4;1a C b hg;1c+4;5pk bx;3H+3;1a B b FLOURISH;1c+4;",
     "1a F b ai;1c+4;1a VOLAPUK AE;1c+3;1a VOLAPUK OE;1c+3;1a VOLAPUK UE;1c+3;1a G b tc ai;1c+5;1a K+3;1c+5;1a N+3;",
     "1c+5;1a R+3;1c+5;1a S+3;1c+5;1a H b bx;3ag di E;3gv G;3L b zx;3c aa I;1d c aa Q;1a at K;4T;3J b hq-gj;3uu;3px;",
     "1c+2;1a fq;1c+2;1a U b ai;1c+4;1a we A;1c+3;1a we I;1c+3;1a we U;1c+3;1a zy POLISH O;1c+4;1a ANGLICANA W;1c+3;",
     "1a C b pk bx;3S b+1;3Z b pk+1;3D b cz ai mb;1c+6;1a S+4;1c+6;-5;1a ep mc G;1c+4;;3h THORN;;4WYNN;",
     "1a ab SCOTS S;1c+4;1a SIGMOID S;1c+3;-24;0ci d aa C;3F;3Q;0dm a ag ct H;1c+4;1EPIGRAPHIC d my I;",
     "0ci d aa H b ai;2c de OE;0dm d c aa at M;1EPIGRAPHIC d ag F;4P;3ar M;3I LONGA;3gw M;0SYLOTI NAGRI d A;3I;",
     "2g DVISVARA;2d U;3E;3O;2g HASANTA;2d KO;3KHO;3GO;3GHO;2g bd;2d CO;3CHO;3JO;3JHO;3TTO;3TTHO;3DDO;3DDHO;3TO;",
     "3THO;3DO;3DHO;3NO;3PO;3PHO;3BO;3BHO;3MO;3RO;3LO;3RRO;3SO;3HO;2au g A;4I;4U;4E;4OO;2POETRY aq-1;+3;",
     "2g ei HASANTA;;;;0vg INDIC fb bk du;4ct;3l im;3bk mz;4gx;3l tl;2du aq;2xx+1;2xy+1;2QUANTITY+1;-6;",
     "0PHAGS-PA d KA;3iv;3GA;3hv;3CA;3il;3JA;3is;3TA;3ja;3DA;3NA;3PA;3kd;3BA;3MA;3rz;3sa;3DZA;3WA;3vf;3ZA;3c A;3YA;",
     "3RA;3LA;3hw;3SA;3HA;3A;3I;3U;3E;3O;3QA;3XA;3FA;3GGA;3EE;2pl d WA;4YA;2d lc;3gs;3lh;3mo;3ei YA;3VOICELESS hw;",
     "3li HA;3ASPIRATED FA;2pl d RA;2SUPERFIXED+2;2d bs;2bm rb aq;2h+2;2aq SHAD;3h+1;-8;0SAURASHTRA g bd;2cw;1d A;",
     "2AA;2I;2II;2U;2UU;2ay R;3RR;3L;3LL;2E;2EE;2AI;2O;2OO;2AU;2KA;2iv;2GA;2lz;2hv;2CA;2il;2JA;2pm;2is;2lc;2gs;2lh;",
     "2hh;2mo;2TA;2ja;2DA;2ly;2NA;2PA;2kd;2BA;2mx;2MA;2YA;2RA;2LA;2VA;2hw;2oo;2SA;2HA;2sw;1ds g HAARU;1au g AA;3I;",
     "3II;3U;3UU;3ay R;4RR;4L;4LL;3E;3EE;3AI;3O;3OO;3AU;1g dj;2bs;-8;1na;1h+1;1w;2bk;2ax;2l;2z;2ao;2dp;2aj;2af;2be;",
     "-6;0bh zz w;3bk;3ax;3l;3z;3ao;3dp;3aj;3af;3be;2d A;3U;3KA;3NA;3PA;3RA;3VI;2g gf;0zz g SPACING bs;2bs dj;2h+2;",
     "2bs ax;3l;3gf;2PUSHPIKA;1GAP qi;1tm;1HEADSTROKE;1g rc;1JAIN OM;1d AY;1au g+1;0KAYAH LI w;3bk;3ax;3l;3z;3ao;",
     "3dp;3aj;3af;3be;2d KA;3iv;3GA;3hv;3SA;3hw;3ZA;3is;3TA;3HTA;3NA;3PA;3kd;3MA;3DA;3BA;3RA;3YA;3LA;3WA;3ja;3HA;",
     "3VA;3CA;3A;3OE;3I;3OO;2au UE;3E;3U;3EE;3O;2fh PLOPHU;3CALYA;4PLOPHU;2g CWI;3SHYA;0REJANG d KA;2GA;2hv;2TA;2DA;",
     "2NA;2PA;2BA;2MA;2CA;2JA;2is;2SA;2RA;2LA;2YA;2WA;2HA;2MBA;2NGGA;2NDA;2NYJA;2A;1au g I;3U;3E;3AI;3O;3AU;3EU;3EA;",
     "1ds g NG;3N;3R;3H;1dj;-11;1gk aq;0qj CHOSEONG ef-hi;3-eo;3-fz;3-hr;2hj-df;3-kg;3-ef;3-ow;3-hi;3-eo;3-ny;3-in;",
     "3-fz;3-hr;3-hs;2hi-df;3-ef;3-fz;2eo-fz-fu;3-hs;3-fr;2ix-eo;2md-hj;3-fr;2qk+1;2SSANGTHIEUTH;2fk-fr;2fr-fz;",
     "2SSANGYEORINHIEUH;;;;0JAVANESE g PANYANGGA;2CECAK;2LAYAR;2WIGNYAN;1d A;2I KAWI;3;2II;2U;2PA CEREK;2hv LELET;",
     "4RASWADI;2E;2AI;2O;2KA;3SASAK;3rd;2GA;3rd;2hv;2CA;3rd;2JA;2is rd;2JA ld;2is;2lc;3ld;2lh;3ld;2NA rd;2TA;3rd;",
     "2DA;3ld;2NA;2PA;3rd;2BA;3rd;2MA;2YA;2RA;3AGUNG;2LA;2WA;2SA rd;3ld;3;2HA;1g CECAK TELU;1au g TARUNG;3TOLONG;",
     "3WULU;4MELIK;3SUKU;4MENDUT;3TALING;3DIRGA MURE;3PEPET;1ds g KERET;3PENGKAL;3CAKRA;1PANGKON;1i RERENGGAN;1e+1;",
     "1PADA ANDAP;2MADYA;2LUHUR;2WINDU;2PANGKAT;2LINGSA;2LUNGSI;2ADEG;3ADEG;2PISELEH;1at+2;;1PANGRANGKEP;1w;2bk;2ax;",
     "2l;2z;2ao;2dp;2aj;2af;2be;-4;1PADA TIRTA TUMETES;2ISEN-ISEN;0MYANMAR d wf lz;3il;3pm;3mo;3mx;1g wf SAW;",
     "1ci d wf REDUPLICATION;1d vh is;4FA;4GA;4lz;4JA;4pm;4lh;4hh;4mo;1vh w;4bk;4ax;4l;4z;4ao;4dp;4aj;4af;4be;",
     "1d vh sw;4DA;4ly;4BA;4mx;;0CHAM d A;2I;2U;2E;2AI;2O;2KA;2iv;2GA;2lz;2NGUE;2hv;2il;2CHHA;2JA;2pm;2NHUE;2NHA;",
     "2NHJA;2TA;2ja;2DA;2ly;2NUE;2NA;2lh;2PA;2PPA;2kd;2BA;2mx;2MUE;2MA;2BBA;2YA;2RA;2LA;2VA;2oo;2SA;2HA;1au g AA;3I;",
     "3II;3EI;3U;3OE;3O;3AI;3AU;3UE;1ds g YA;3RA;3LA;3WA;-9;1d u K;3G;3NG;1ds g+2;1d u CH;3T;3N;3P;3Y;3R;3L;3SS;",
     "1ds g u M;4H;;;1w;2bk;2ax;2l;2z;2ao;2dp;2aj;2af;2be;;;1bf SPIRAL;2na;2h+1;2dq+1;0MYANMAR d KHAMTI GA;3CA;3il;",
     "3JA;3pm;3is;3lc;3gs;3lh;3hh;3ly;3NA;3SA;3HA;3HHA;3FA;1ci d KHAMTI REDUPLICATION;1d KHAMTI XA;3ZA;3RA;",
     "1xz KHAMTI OAY;3QN;3HM;1ad AITON cb;3bk;3ax;1d AITON RA;1g PAO KAREN fh;2vh fh-2;5-5;1d SHWE PALAUNG il;4hw;",
     "0TAI VIET d fn KO;3cx+1;3fn KHO;3cx+1;3fn KHHO;3cx+1;3fn GO;3cx+1;3fn NGO;3cx+1;3fn CO;3cx+1;3fn CHO;3cx+1;",
     "3fn SO;3cx+1;3fn NYO;3cx+1;3fn DO;3cx+1;3fn TO;3cx+1;3fn THO;3cx+1;3fn NO;3cx+1;3fn BO;3cx+1;3fn PO;3cx+1;",
     "3fn PHO;3cx+1;3fn FO;3cx+1;3fn MO;3cx+1;3fn YO;3cx+1;3fn RO;3cx+1;3fn LO;3cx+1;3fn VO;3cx+1;3fn HO;3cx+1;",
     "3fn O;3cx O;2MAI KANG;2au AA;3I;3UE;3U;3E;3O;2MAI KHIT;2au IA;3UEA;3UA;3AUE;3AY;3AN;3AM;2fh MAI EK;4NUENG;",
     "4THO;4SONG;-24;2ad KON;3NUENG;3SAM;3HO HOI;3KOI KOI;0MEETEI MAYEK d E;3O;3il;3is;3lc;3gs;3lh;3hh;3mo;3hw;3oo;",
     "2au g II;4UU;4AAI;4AU;4AAU;2CHEIKHAN;2AHANG KHUDAM;2ANJI;2ge REPETITION aq;2sd+2;2au g cw;2dj;"]

/-- Meetei, Ethiopic, Latin and Cherokee additions. -/
def meeteiNames : Block where
  first := 0xAB01
  lines :=
    ["0ya ge TTHU;2TTHI;2TTHAA;2TTHEE;2TTHE;2TTHO;;;2DDHU;2DDHI;2DDHAA;2DDHEE;2DDHE;2DDHO;;;2DZU;2DZI;2DZAA;2DZEE;",
     "2DZE;2DZO;-9;2CCHHA;2CCHHU;2CCHHI;2CCHHAA;2CCHHEE;2CCHHE;2CCHHO;;2BBA;2BBU;2BBI;2BBAA;2BBEE;2BBE;2BBO;;",
     "0dm c d ql fw;3A ag-tn;3BLACKLETTER E;3ql E;3E b FLOURISH;3LENIS F;3gv G b hq-gj;3L b ar LAZY S;5h ab bz;",
     "5ab dk;3M b hq-gj;3N+3;3ENG+3;3BLACKLETTER O;5b ai;3di+3;3ar OE;3at OE b ai;6t+1;4O di-O;7b ai;3STIRRUP R;",
     "1d c aa R b e LEG;1c d R wg HANDLE;3h R;3R b hq-gj;3h+4;3gv R;5b dk;3BASELINE ESH;3U b cz e LEG;4hg+4;3UI;",
     "3at+1;3U b i bx;3uu;4b fn e dk;6i SERIF;3X b fn e dk;5dc i LEG;8n fn e dk;8b SERIF;3Y b cz e LEG;",
     "0ci fi b ar fi;1d c HENG;3L b ar LAZY S;5ab bz;3U b i bx;0dm c d SAKHA YAT;3kf E;3di OE;3UO;3ar fw;",
     "0kt d c aa fq;0dm c d DZ fl b cq bx;3TS+4;3at R b ab bz;0ci d c at W;2i nz;2e+1;-4;0CHEROKEE c d A;3E;3I;3O;",
     "3U;3V;3GA;3KA;3GE;3GI;3GO;3GU;+1;3HA;3HE;3HI;3HO;3HU;+1;3LA;3LE;3LI;3LO;3LU;+1;3MA;3ME;3MI;3MO;3MU;3NA;3HNA;",
     "3NAH;3NE;3NI;3NO;3NU;+1;3QUA;3QUE;3QUI;3QUO;3QUU;+1;3SA;3S;3SE;3SI;3SO;3SU;+1;3DA;3TA;3DE;3TE;3DI;3TI;3DO;3DU;",
     "+1;3DLA;3TLA;3TLE;3TLI;3TLO;3TLU;+1;3rz;3TSE;3TSI;3TSO;3TSU;+1;3WA;3WE;3WI;3WO;3WU;+1;3YA;0MEETEI MAYEK d KOK;",
     "3SAM;3LAI;3MIT;3PA;3NA;3CHIL;3TIL;3KHOU;3NGOU;3THOU;3WAI;3ux;3HUK;3UN;3I;3PHAM;3ATIYA;3GOK;3JHAM;3RAI;3BA;",
     "3JIL;3DIL;3GHOU;3DHOU;3BHAM;3KOK LONSUM;3LAI+1;3MIT+1;3PA+1;3NA+1;3TIL+1;3NGOU+1;3I+1;2au g ONAP;4INAP;4ANAP;",
     "4YENAP;4SOUNAP;4UNAP;4CHEINAP;4NUNG;2CHEIKHEI;2LUM IYEK;2APUN+1;;;2w;3bk;3ax;3l;3z;3ao;3dp;3aj;3af;3be;"]

/-- Further parts of Hangul syllables. -/
def jamoExtensionNames : Block where
  first := 0xD7B0
  lines :=
    ["0qj JUNGSEONG O-YEO;3-O-I;2YO-A;3-AE;3-EO;2U-YEO;3-I-I;2YU-AE;3-O;2EU-A;3-EO;3-E;3-O;2I-YA-O;3-YAE;3-YEO;3-YE;",
     "3-O-I;3-YO;3-YU;3-I;2ARAEA-A;3-E;-4;1JONGSEONG iy-hj;3-gl;2ow;3-eo;2ef+1;3-fz;4-df;3-hr;3-gl;3-fu;2hj-kg;",
     "3-df-fr;2SSANGRIEUL-hs;2hj-hi-fr;3-eo-ef;4-fk;3-to;3-me-fr;2KAPYEOUNRIEUL;2hi-iy;3-tp;2SSANGMIEUM;2hi-eo-fz;",
     "3-hr;2eo-ef;3-hj-fk;3-hi;2ny;2eo-fz-ef;3-hr;3-gl;2fz-hi;3-in;2ix-df;3-ef;2fz-it;3-hr;3-gl;3-fu;3-fr;2it-eo;",
     "3-in;2to-hi;3-fr;2hr-eo;3-ny;2qk;2fk-fz;3-fu;"]

/-- Ligatures and presentation forms. -/
def presentationNames : Block where
  first := 0xFB00
  lines :=
    ["0dm c de FF;3FI;3FL;3FFI;3FFL;3dc S T;3ST;-12;0yb c de MEN NOW;4ECH;4INI;3VEW NOW;3MEN XEH;-5;",
     "0HEBREW d YOD b HIRIQ;1pz JUDEO-SPANISH VARIKA;1de YIDDISH YOD YOD PATAH;1d yc re;2WIDE ho;3DALET;3HE;3sq;",
     "3LAMED;3u yd;3py;3TAV;2yc bb g;2ju b ju cd;4SIN+1;4DAGESH n ju+1;6SIN+1;2ho b PATAH;4QAMATS;4MAPIQ;",
     "2BET b DAGESH;2lj+2;2DALET+2;2HE b MAPIQ;2VAV b DAGESH;2nb+2;;2TET+2;2YOD+2;2u sq+2;2+3;2LAMED+2;;2yd+2;;",
     "2nx+2;2jc+2;;2u PE+2;2+3;;2TSADI+2;2QOF+2;2py+2;2ju+2;2TAV+2;2VAV b HOLAM;2BET b RAFE;2sq+2;2PE+2;",
     "1de ho LAMED;0jv d ho WASLA s km;4u+1;2BEEH s+1;3u+1;3ah+1;3br+1;2PEH s+1;3u+1;3ah+1;3br+1;2BEHEH s+1;3u+1;",
     "3ah+1;3br+1;2TTEHEH s+1;3u+1;3ah+1;3br+1;2TEHEH s+1;3u+1;3ah+1;3br+1;2TTEH s+1;3u+1;3ah+1;3br+1;2VEH s+1;3u+1;",
     "3ah+1;3br+1;2PEHEH s+1;3u+1;3ah+1;3br+1;2DYEH s+1;3u+1;3ah+1;3br+1;2NYEH s+1;3u+1;3ah+1;3br+1;2TCHEH s+1;3u+1;",
     "3ah+1;3br+1;2TCHEHEH s+1;3u+1;3ah+1;3br+1;2DDAHAL s+1;3u+1;2DAHAL s+1;3u+1;2DUL s+1;3u+1;2DDAL s+1;3u+1;",
     "2JEH s+1;3u+1;2RREH s+1;3u+1;2KEHEH s+1;3u+1;3ah+1;3br+1;2GAF s+1;3u+1;3ah+1;3br+1;2GUEH s+1;3u+1;3ah+1;3br+1;",
     "2NGOEH s+1;3u+1;3ah+1;3br+1;2hy GHUNNA s+1;4u+1;2RNOON s+1;3u+1;3ah+1;3br+1;2sr b fo k s+1;6u+1;3GOAL s+1;",
     "4u+1;4ah+1;4br+1;3DOACHASHMEE s+1;4u+1;4ah+1;4br+1;2fo BARREE s+1;4u+1;4b fs k s+1;7u+1;1ad cd k;3y;2ax ce k;",
     "4y;2l ce k;4y;4ap o k;6y;2z ce k;4y;2h m hg+1;2ax ce lk k;5y;2dk;2c td k;4y;2WASLA k;-16;1d NG s km;3u+1;",
     "3ah+1;3br+1;2U s+1;3u+1;2OE s+1;3u+1;2YU s+1;3u+1;2U b fs k s+1;2VE+2;3u+1;2wh OE s+1;4u+1;3YU s+1;4u+1;",
     "2E s+1;3u+1;3ah+1;3br+1;2UIGHUR KAZAKH wh r ah+1;7br+1;1de fo b fs k b ho s+1;8u+1;7AE s+1;8u+1;7ou s+1;8u+1;",
     "7U s+1;8u+1;7OE s+1;8u+1;7YU s+1;8u+1;7E s+1;8u+1;8ah+1;2UIGHUR wh fo b fs k b r s+1;9r u+1;9r ah+1;",
     "1d FARSI fo s+1;4u+1;4ah+1;4br+1;1de fo b fs k b da s+1;7gi+2;7bj+2;7r+2;7fo+2;2xr b da+2;4gi+2;4fe+2;4bj+2;",
     "4r+2;4fo+2;2ye b da+2;4gi+2;4fe+2;4bj+2;4r+2;4fo+2;2uy b da+2;4bj+2;4r+2;4fo+2;2da b gi+2;4bj+2;2gi b da+2;",
     "4bj+2;2fe b da+2;4gi+2;4bj+2;2kn b da+2;4gi+2;4fe+2;4bj+2;2uz b gi+2;4bj+2;2yf b da+2;4gi+2;4fe+2;4bj+2;",
     "2td b gi+2;4bj+2;2ZAH+4;2ra b da+2;4bj+2;2ll b da+2;4bj+2;2va b da+2;4gi+2;4fe+2;4bj+2;4r+2;4fo+2;2te b gi+2;",
     "4bj+2;4r+2;4fo+2;2sq b ho+2;4da+2;4gi+2;4fe+2;4pn+2;4bj+2;4r+2;4fo+2;2pn b da+2;4gi+2;4fe+2;4bj+2;4r+2;4fo+2;",
     "2bj b da+2;4gi+2;4fe+2;4bj+2;4r+2;4fo+2;2hy b da+2;4gi+2;4fe+2;4bj+2;4r+2;4fo+2;2sr b da+2;4bj+2;4r+2;4fo+2;",
     "2fo b da+2;4gi+2;4fe+2;4bj+2;4r+2;4fo+2;2THAL b gg ho+2;2tq+5;2r+5;2wi b tr+2;4ts+2;4rf+2;4ss+2;4rg+2;",
     "4gg ho+2;2fo b fs k b tq u+1;7se+2;7bj+2;7hy+2;7r+2;7fo+2;2xr b tq+2;4se+2;4bj+2;4hy+2;4r+2;4fo+2;2ye b tq+2;",
     "4se+2;4bj+2;4hy+2;4r+2;4fo+2;2uy b tq+2;4se+2;4bj+2;4hy+2;4r+2;4fo+2;2va b r+2;4fo+2;2te b r+2;4fo+2;",
     "2sq b ho+2;4pn+2;4bj+2;4r+2;4fo+2;2pn b bj+2;4r+2;4fo+2;2bj b ho+2;4bj+2;2hy b tq+2;4se+2;4bj+2;4hy+2;4r+2;",
     "4fo+2;2r b gg ho+2;2fo b tq+2;4se+2;4bj+2;4hy+2;4r+2;4fo+2;4fs k b da ah+1;7gi+2;7fe+2;7bj+2;7sr+2;2xr b da+2;",
     "4gi+2;4fe+2;4bj+2;4sr+2;2ye b da+2;4gi+2;4fe+2;4bj+2;4sr+2;2uy b bj+2;2da b gi+2;4bj+2;2gi b da+2;4bj+2;",
     "2fe b da+2;4bj+2;2kn b da+2;4gi+2;4fe+2;4bj+2;2uz b gi+2;4fe+2;4bj+2;2yf b da+2;4gi+2;4fe+2;4bj+2;2td b gi+2;",
     "2ZAH b bj+2;2ra b da+2;4bj+2;2ll b da+2;4bj+2;2va b da+2;4gi+2;4fe+2;4bj+2;2te b gi+2;4bj+2;2sq b da+2;4gi+2;",
     "4fe+2;4pn+2;4bj+2;2pn b da+2;4gi+2;4fe+2;4bj+2;4sr+2;2bj b da+2;4gi+2;4fe+2;4bj+2;2hy b da+2;4gi+2;4fe+2;",
     "4bj+2;4sr+2;2sr b da+2;4bj+2;4gg ho+2;2fo b da+2;4gi+2;4fe+2;4bj+2;4sr+2;4fs k b bj br+1;7sr+2;2xr b bj+2;",
     "4sr+2;2ye b bj+2;4sr+2;2uy b bj+2;4sr+2;2kn b bj+2;4sr+2;2kh b bj+2;4sr+2;2sq b pn+2;4bj+2;2pn+4;2hy+4;4sr+2;",
     "2fo b bj+2;4sr+2;2wi b rf+2;4ss+2;4rg+2;2td b r s+1;4fo+2;2ra b r+2;4fo+2;2ll b r+2;4fo+2;2kn b r+2;4fo+2;",
     "2kh b r+2;4fo+2;2gi b r+2;4fo+2;2da b r+2;4fo+2;2fe b r+2;4fo+2;2uz b r+2;4fo+2;2yf b r+2;4fo+2;2kh b da+2;",
     "4gi+2;4fe+2;4bj+2;4tq+2;2kn+4;2uz+4;2yf+4;2td b r u+1;4fo+2;2ra b r+2;4fo+2;2ll b r+2;4fo+2;2kn b r+2;4fo+2;",
     "2kh b r+2;4fo+2;2gi b r+2;4fo+2;2da b r+2;4fo+2;2fe b r+2;4fo+2;2uz b r+2;4fo+2;2yf b r+2;4fo+2;2kh b da+2;",
     "4gi+2;4fe+2;4bj+2;4tq+2;2kn+4;2uz+4;2yf+4;2kh b da ah+1;4gi+2;4fe+2;4bj+2;2kn b sr+2;2kh+4;2td b bj+2;",
     "2kn b da br+1;4gi+2;4fe+2;2kh b da+2;4gi+2;4fe+2;2td b bj+2;2ZAH+4;2ho b rh u+1;5s+1;0ORNATE i cc;1e+1;",
     "0jv de RAHIMAHU ALLAAH;2RADI ALLAAHU ANH;4ANHAA;4ANHUM;4ANHUMAA;4ANHUNNA;2SALLALLAAHU ALAYHI WA-AALIH;",
     "2ALAYHI AS-SALAAM;2ALAYHIM+2;2ALAYHIMAA+2;2ALAYHI AS-SALAATU WAS+1;2QUDDISA SIRRAH;",
     "2SALLALLAHU ALAYHI WAAALIHEE WA-SALLAM;2ALAYHAA AS-SALAAM;2TABAARAKA WA-TAAALAA;2RAHIMAHUM ALLAAH;",
     "2ye b da b bj ah km;4gi b da u+1;7ah+1;6bj+2;4fe+4;4bj b da+2;6gi+2;6fe+2;2da b bj b gi u+1;7ah+1;",
     "2gi b bj b fo u+1;6r+2;2kn b gi b da ah+1;4da b gi+2;6r u+1;4bj b gi+2;7ah+1;6da+2;6bj u+1;7ah+1;",
     "2uz b gi b gi u+1;7ah+1;4bj b bj u+1;2kh b gi+4;7ah+1;4da b fo u+1;4bj b fe+2;7ah+1;6bj u+1;7ah+1;",
     "2yf b gi b r u+1;4fe b bj+2;7ah+1;2td b bj b gi u+1;7ah+1;6bj+2;6fo u+1;2ra b da b bj+2;4bj+4;7ah+1;6r u+1;",
     "2ll b bj b bj+2;6fo+2;6r+2;2va b fe b bj+2;7ah+1;2te b bj b gi u+1;6bj+2;2pn b gi+4;6fo+2;6r+2;4da b da ah+1;",
     "7u+1;4fe b bj+2;7ah+1;4bj b gi u+1;7ah+1;2bj b gi b da+2;6bj+2;6fo u+1;4da b gi ah+1;6bj+2;4fe b da+2;6bj+2;;;",
     "4da b fe+2;2sr b bj b da+2;6bj+2;2hy b gi+4;6r u+1;4da b bj+2;7ah+1;6r u+1;4bj b fo+2;6r+2;2fo b bj b bj+2;",
     "7ah+1;2xr b fe b fo u+1;2ye b da+4;6r+2;4fe b fo+2;6r+2;4bj b fo+2;6r+2;2da b bj b fo+2;4gi b r+2;4bj+5;",
     "2kn b fe+5;2uz b gi b fo+2;2kh+6;2yf+6;2pn b da+4;4bj+4;2fo b gi+4;4da+4;4bj+4;2bj+6;2te+6;2hy b gi+4;",
     "2te b bj b gi ah+1;2pn b gi b bj+2;2ra b bj b fo u+1;2sq+6;2hy b da b gi ah+1;2bj b fe b fo u+1;",
     "2pn b da b bj ah+1;2sq b bj b bj u+1;2pn b da+4;2hy b da b gi+2;2da b gi b fo+2;2gi b da+4;2bj+6;2va b bj+4;",
     "2xr b gi+4;2sq b bj b bj ah+1;2ra b da+4;2uz b bj+4;2kn b fe b fo u+1;2hy b da+4;-7;2SALAAMUHU ALAYNAA;-32;",
     "2SALLA USED AS KORANIC STOP g s km;2QALA+7;2ALLAH+2;2AKBAR+2;2MOHAMMAD+2;2SALAM+2;2RASOUL+2;2ALAYHE+2;",
     "2WASALLAM+2;2SALLA+2;2SALLALLAHOU ALAYHE WASALLAM;2JALLAJALALOUHOU;0RIAL g;",
     "0jv de BISMILLAH AR-RAHMAN AR-RAHEEM;2SUBHAANAHU WA TAAALAA;2AZZA WA JALL;"]

/-- Small, half-width and full-width forms. -/
def halfwidthNames : Block where
  first := 0xFE00
  lines :=
    ["0lm-1;+15;0wj km qm m ez;4ej+1;5cp;4hx;4hl;4cb aq;4dl+1;4i x qn bp;4e x qn BRAKCET;4t tt;-6;0bh de i ct;2e+1;",
     "1h bz i+1;3e+1;1cu i+1;2e+1;1CONJOINING cu;1de i ct y;2e+2;1bz i+2;2e+2;1cu i+2;2e+2;1CONJOINING cu+1;",
     "1hf TITLO i ct;3e+1;0wj km qm m ax cd LEADER;4EM mp;4EN+1;4fn et;4yg+2;4i cc;4e+1;4i jq bp;4e+2;4i fc+1;4e+3;",
     "4i q qn+1;4e+3;4i h dw+1;4e+3;4i+2;4e+2;4i jb+1;4e+2;4i x+2;4e+3;0SESAME cd;0x SESAME+1;0wj km qm m i av bp;",
     "4e+2;0tu tv;0CENTRELINE+1;0yg+1;0h yg+1;0tu fn et;0CENTRELINE+2;0yg+2;0c ez;1ej+1;1cp;;1hl;1hx;1dl aq;1cb+1;",
     "1EM mp;1i cc;1e+1;1i jq bp;1e+2;1i fc+1;1e+3;1bn g;1nc;1eu;1bb g;1jd-io;1as g;1az+2;1es+1;;1ff;1tw g;1wl+1;",
     "1qa;-4;0jv rh s km;1TATWEEL b rh k;1tr s km;1gj FRAGMENT;1ts s km;;1rf+2;2br+1;1ss s+1;2br+1;1rg s+1;2br+1;",
     "1wi s+1;2br+1;1yh s+1;2br+1;1d fs s+1;2ho b vi k+2;6u+1;4fs k s+1;6u+1;2ou b fs k s+1;6u+1;2ho b fs y s+1;",
     "6u+1;2fo b fs k s+1;6u+1;6ah+1;6br+1;2ho s+1;3u+1;2xr s+1;3u+1;3ah+1;3br+1;2ye MARBUTA s+1;4u+1;3s+1;3u+1;",
     "3ah+1;3br+1;2uy s+1;3u+1;3ah+1;3br+1;2da s+1;3u+1;3ah+1;3br+1;2gi s+1;3u+1;3ah+1;3br+1;2fe s+1;3u+1;3ah+1;",
     "3br+1;2DAL s+1;3u+1;2THAL s+1;3u+1;2tq s+1;3u+1;2se s+1;3u+1;2kn s+1;3u+1;3ah+1;3br+1;2kh s+1;3u+1;3ah+1;",
     "3br+1;2uz s+1;3u+1;3ah+1;3br+1;2yf s+1;3u+1;3ah+1;3br+1;2td s+1;3u+1;3ah+1;3br+1;2ZAH s+1;3u+1;3ah+1;3br+1;",
     "2ra s+1;3u+1;3ah+1;3br+1;2ll s+1;3u+1;3ah+1;3br+1;2va s+1;3u+1;3ah+1;3br+1;2te s+1;3u+1;3ah+1;3br+1;2sq s+1;",
     "3u+1;3ah+1;3br+1;2pn s+1;3u+1;3ah+1;3br+1;2bj s+1;3u+1;3ah+1;3br+1;2hy s+1;3u+1;3ah+1;3br+1;2sr s+1;3u+1;",
     "3ah+1;3br+1;2ou s+1;3u+1;2r s+1;4u+1;2fo s+1;3u+1;3ah+1;3br+1;1de pn b ho b vi k s+1;8u+1;6fs k s+1;8u+1;",
     "7y s+1;8u+1;5s+1;5u+1;;;0uv WIDTH NO-BREAK qb;;0FULLWIDTH cb aq;1hm+1;1bn g;1tw+1;1wl+1;1nc;1jw;1i cc;1e+1;",
     "1eu;1bb g;1ez;1jd-io;1cp;1kb;1w;2bk;2ax;2l;2z;2ao;2dp;2aj;2af;2be;1hx;1hl;1as g;1es+1;1az-ma+1;1dl aq;1qa;",
     "1dm a A;+25;1i av bp;1ff;1e av bp;1al er;1fn et;1dg er;1dm c d A;+25;1i jq bp;1m et;1e jq bp;1bz;1i x cc;1e+2;",
     "0HALFWIDTH ej cp;1i jb bp;1e+2;1ej ez;1je ab cd;2d WO;3c A;4I;4U;4E;4O;4YA;4YU;4YO;4TU;2-jf PROLONGED ox aq;",
     "2d A;3I;3U;3E;3O;3KA;3KI;3KU;3KE;3KO;3SA;3SI;3SU;3SE;3SO;3TA;3TI;3TU;3TE;3TO;3NA;3NI;3NU;3NE;3NO;3HA;3HI;3HU;",
     "3HE;3HO;3MA;3MI;3MU;3ME;3MO;3YA;3YU;3YO;3RA;3RI;3RU;3RE;3RO;3WA;3N;2li ox aq;2SEMI-li+2;1qj qi;2d df;3kg;",
     "3df-fz;3iy;4-hr;4-fr;3ef;3ow;3hj;4-df;4-hi;4-eo;4-fz;4-fu;4-fk;4-fr;3hi;3eo;3ny;3eo-fz;3fz;3ix;3md;3hr;3qk;",
     "3gl;3hs;3fu;3fk;3fr;;;;3A;3AE;3YA;3YAE;3EO;3E;;;3YEO;3YE;3O;3WA;3WAE;3OE;;;3YO;3U;3WEO;3WE;3WI;3YU;;;3EU;3YI;",
     "3I;;;;0FULLWIDTH CENT g;1POUND+1;1oy+1;1cu;1zw hg;1YEN g;1WON+1;;0HALFWIDTH FORMS bl m;1j p;1ac+1;1f+1;1o+1;",
     "1q av;1x ak;-10;0INTERLINEAR ANNOTATION ANCHOR;2ek;2TERMINATOR;0OBJECT REPLACEMENT le;0REPLACEMENT+1;"]

end RpcClients.Text.Name
