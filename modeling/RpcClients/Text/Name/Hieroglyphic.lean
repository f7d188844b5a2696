import RpcClients.Text.Name.Block

/-! # Names of hieroglyphs and syllables -/

namespace RpcClients.Text.Name

/-- Egyptian hieroglyphs. -/
def egyptianNames : Block where
  first := 0x13000
  lines :=
    ["0EGYPTIAN HIEROGLYPH A001;+4;2A005A;2A006;2A006A;+1;2A007;+7;2A014A;2A015;+2;2A017A;2A018;+14;2A032A;2A033;+7;",
     "2A040A;2A041;+1;2A042A;2A043;2A043A;2A044;+1;2A045A;2A046;+24;2B001;+4;2B005A;2B006;+3;2C001;+1;2C002A;+2;",
     "2C003;+7;2C010A;2C011;+13;2D001;+7;2D008A;2D009;+18;2D027A;2D028;+3;2D031A;2D032;+2;2D034A;2D035;+11;2D046A;",
     "2D047;+1;2D048A;2D049;+1;2D050A;+8;2D051;+1;2D052A;2D053;+1;2D054A;2D055;+12;2D067A;+7;2E001;+7;2E008A;2E009;",
     "2E009A;2E010;+6;2E016A;2E017;2E017A;2E018;+2;2E020A;2E021;+7;2E028A;2E029;+5;2E034A;2E036;+2;2F001;2F001A;",
     "2F002;+11;2F013A;2F014;+7;2F021A;2F022;+9;2F031A;2F032;+5;2F037A;2F038;2F038A;2F039;+6;2F045A;2F046;2F046A;",
     "2F047;2F047A;2F048;+3;2F051A;+2;2F052;+1;2G001;+5;2G006A;2G007;2G007A;+1;2G008;+3;2G011A;2G012;+8;2G020A;",
     "2G021;+5;2G026A;2G027;+9;2G036A;2G037;2G037A;2G038;+5;2G043A;2G044;+1;2G045A;2G046;+8;2H001;+5;2H006A;2H007;",
     "+1;2I001;+4;2I005A;2I006;+3;2I009A;2I010;2I010A;2I011;2I011A;2I012;+3;2K001;+7;2L001;+1;2L002A;2L003;+3;",
     "2L006A;2L007;+1;2M001;2M001A;+1;2M002;+1;2M003A;2M004;+6;2M010A;2M011;+1;2M012A;+7;2M013;+2;2M015A;2M016;",
     "2M016A;2M017;2M017A;2M018;+4;2M022A;2M023;+1;2M024A;2M025;+3;2M028A;2M029;+2;2M031A;2M032;+1;2M033A;+1;2M034;",
     "+6;2M040A;2M041;+3;2N001;+17;2N018A;+1;2N019;+6;2N025A;2N026;+7;2N033A;2N034;2N034A;2N035;2N035A;2N036;+1;",
     "2N037A;2N038;+4;2NL001;+4;2NL005A;2NL006;+11;2NL017A;2NL018;+2;2NU001;+9;2NU010A;2NU011;2NU011A;2NU012;+6;",
     "2NU018A;2NU019;+3;2NU022A;2O001;2O001A;2O002;+3;2O005A;2O006;2O006A;+5;2O007;+3;2O010A;+2;2O011;+8;2O019A;",
     "2O020;2O020A;2O021;+3;2O024A;2O025;2O025A;2O026;+3;2O029A;2O030;2O030A;2O031;+2;2O033A;2O034;+2;2O036A;+3;",
     "2O037;+13;2O050A;+1;2O051;2P001;2P001A;2P002;+1;2P003A;2P004;+7;2Q001;+6;2R001;+1;2R002A;2R003;2R003A;+1;",
     "2R004;+6;2R010A;2R011;+5;2R016A;2R017;+12;2S001;+1;2S002A;2S003;+3;2S006A;2S007;+7;2S014A;+1;2S015;+2;2S017A;",
     "2S018;+8;2S026A;+1;2S027;+8;2S035A;2S036;+10;2T001;+2;2T003A;2T004;+3;2T007A;2T008;2T008A;2T009;2T009A;2T010;",
     "+1;2T011A;2T012;+4;2T016A;2T017;+15;2T032A;2T033;2T033A;2T034;+2;2U001;+5;2U006A;+1;2U007;+16;2U023A;2U024;+5;",
     "2U029A;2U030;+2;2U032A;2U033;+9;2V001;2V001A;+8;2V002;2V002A;2V003;+4;2V007A;+1;2V008;+3;2V011A;+2;2V012;",
     "2V012A;+1;2V013;+7;2V020A;+11;2V021;+2;2V023A;2V024;+4;2V028A;2V029;2V029A;2V030;2V030A;2V031;2V031A;2V032;+1;",
     "2V033A;2V034;+3;2V037A;2V038;+2;2V040A;2W001;+2;2W003A;2W004;+5;2W009A;2W010;2W010A;2W011;+3;2W014A;2W015;+2;",
     "2W017A;2W018;2W018A;2W019;+5;2W024A;2W025;2X001;+3;2X004A;+1;2X005;+1;2X006A;2X007;+1;2X008A;2Y001;2Y001A;",
     "2Y002;+6;2Z001;+1;2Z002A;+3;2Z003;2Z003A;+1;2Z004;2Z004A;2Z005;2Z005A;2Z006;+9;2Z015A;+8;2Z016;2Z016A;+7;",
     "2AA001;+6;2AA007A;+1;2AA008;+24;;2m ue;2t+1;2INSERT AT ne START;4eg+1;4ne END;4eg+1;2mb ab;2vq SEGMENT;2END+1;"]

/-- Anatolian hieroglyphs. -/
def anatolianNames : Block where
  first := 0x14400
  lines :=
    ["0ANATOLIAN HIEROGLYPH A001;+9;2A010A;2A011;+15;2A026A;2A027;+12;2A039A;2A040;+1;2A041A;2A042;+3;2A045A;2A046;",
     "2A046A;+1;2A047;+19;2A066A;+2;2A067;+30;2A097A;2A098;2A098A;2A099;+1;2A100A;2A101;2A101A;2A102;2A102A;2A103;",
     "+1;2A104A;+2;2A105;2A105A;+1;2A106;+1;2A107A;+2;2A108;+2;2A110A;+1;2A111;+4;2A115A;2A116;+9;2A125A;2A126;+9;",
     "2A135A;2A136;+66;2A202A;+1;2A203;+4;2A207A;2A208;+1;2A209A;2A210;+5;2A215A;2A216;2A216A;2A217;+10;2A227A;",
     "2A228;+39;2A267A;2A268;+21;2A289A;2A290;+4;2A294A;2A295;+4;2A299A;2A300;+9;2A309A;2A310;+19;2A329A;2A330;+1;",
     "2A332A;+2;2A333;+3;2A336A;+2;2A337;+22;2A359A;2A360;+4;2A364A;2A365;+3;2A368A;2A369;+2;2A371A;2A372;+9;2A381A;",
     "2A382;2A383 RA OR RI;2A383A;2A384;+2;2A386A;2A387;+5;2A393 af;2A394;+15;2A410 vq xz aq;2A410A END+2;2A411;+39;",
     "2A450A;2A451;+6;2A457A;2A458;+39;2A501;+29;"]

/-- Bamum, Mro, Tangsa, Bassa Vah, Pahawh Hmong, Medefaidrin and Miao letters. -/
def bamumNames : Block where
  first := 0x16800
  lines :=
    ["0BAMUM d PHASE-A NGKUE MFON;4GBIEE FON;4PON MFON PIPAEMGBIEE;6PIPAEMBA;4NAA MFON;4SHUENSHUET;4TITA MFON;",
     "4NZA+1;4SHINDA PA NJI;4PON PA NJI PIPAEMGBIEE;7PIPAEMBA;4MAEMBGBIEE;4TU MAEMBA;4NGANGU;4MAEMVEUX;4MANSUAE;",
     "4MVEUAENGAM;4SEUNYAM;4NTOQPEN;4KEUKEUTNDA;4NKINDI;4SUU;4NGKUENZEUM;4LAPAQ;4LET KUT;4NTAP MFAA;4MAEKEUP;",
     "4PASHAE;4GHEUAERAE;4PAMSHAE;4MON NGGEUAET;4NZUN MEUT;4U YUQ NAE;4GHEUAEGHEUAE;4NTAP NTAA;4SISA;4MGBASA;",
     "4MEUNJOMNDEUQ;4MOOMPUQ;4KAFA;4PA LEERAEWA;4NDA+1;4PET;4MAEMKPEN;4NIKA;4PUP;4TUAEP;4LUAEP;4SONJAM;4TEUTEUWEN;",
     "4MAENYI;4KET;4NDAANGGEUAET;4KUOQ;4MOOMEUT;4SHUM;4LOMMAE;4FIRI;4ROM;4KPOQ;4SOQ;4MAP PIEET;4SHIRAE;4NTAP;",
     "4SHOQ NSHUT YUM;4NYIT MONGKEUAEQ;4PAARAE;4NKAARAE;4UNKNOWN;4NGGEN;4MAESI;4NJAM;4MBANYI;4NYET;4TEUAEN;4SOT;",
     "4PAAM;4NSHIEE;4MAEM;4NYI;4KAQ;4NSHA;4VEE;4LU;4NEN;4NAQ;4MBAQ;3-B NSHUET;4TU MAEMGBIEE;4SIEE;4SET TU;",
     "4LOM NTEUM;4MBA MAELEE;4KIEEM;4YEURAE;4MBAARAE;4KAM;4PEESHI;4YAFU LEERAEWA;4pn NSHUT NYAM;4NTIEE SHEUOQ;",
     "4NDU NJAA;4GHEUGHEUAEM;4PIT;4TU NSIEE;4SHET NJAQ;4SHEUAEQTU;4MFON TEUAEQ;4MBIT MBAAKET;4NYI NTEUM;4KEUPUQ;",
     "4GHEUGHEN;4KEUYEUX;4LAANAE;4PARUM;4VEUM;4NGKINDI MVOP;4NGGEU MBU;4WUAET;4SAKEUAE;4TAAM;4MEUQ;4NGGUOQ;5cf;",
     "4MFIYAQ;4SUE;4MBEURI;4MONTIEEN;4NYAEMAE;4PUNGAAM;4MEUT NGGEET;4FEUX;4MBUOQ;4FEE;4KEUAEM;4MA NJEUAENA;5NJUQA;",
     "4LET;4NGGAAM;4NSEN;4MA;4KIQ;4NGOM;3-C NGKUE MAEMBA;4NZA;4YUM;4WANGKUOQ;4NGGEN;4NDEUAEREE;4NGKAQ;4GHARAE;",
     "4MBEEKEET;4GBAYI;4NYIR MKPARAQ MEUN;4NTU MBIT;4MBEUM;4PIRIEEN;4NDOMBU;4MBAA CABBAGE-TREE;4KEUSHEUAEP;4GHAP;",
     "4KEUKAQ;4YU MUOMAE;4NZEUM;4MBUE;4NSEUAEN;4MBIT;4YEUQ;4KPARAQ;4KAA;4SEUX;4NDIDA;4TAASHAE;4NJUEQ;4TITA YUE;",
     "4SUAET;4NGGUAEN NYAM;4VEUX;4NANSANAQ;4MA KEUAERI;4NTAA;4NGGUON;4LAP;4MBIRIEEN;4MGBASAQ;4NTEUNGBA;4TEUTEUX;",
     "4NGGUM;4FUE;4NDEUT;4NSA;4NSHAQ;4BUNG;4VEUAEPEN;4MBERAE;4RU;4NJAEM;4pn;4TITUAEP;4NSUOT NGOM;4NJEEEE;4KET;4NGGU;",
     "4MAESI;4MBUAEM;4LU;4KUT;4NJAM;4NGOM;4WUP;4NGGUEET;4NSOM;4NTEN;4KUOP NKAARAE;4NSUN;4NDAM;4MA NSIEE;4YAA;4NDAP;",
     "4SHUEQ;4SETFON;4MBI;4MAEMBA;4MBANYI;4KEUSEUX;4MBEUX;4KEUM;4MBAA PICKET;4YUWOQ;4NJEUX;4MIEE;4MUAE;4SHIQ;",
     "4KEN LAW;5FATIGUE;4NGAQ;4NAQ;4LIQ;4PIN;4PEN;4TET;3-D MBUO;4WAP;4NJI;4MFON;4NJIEE;4LIEE;4NJEUT;4NSHEE;",
     "4NGGAAMAE;4NYAM;4WUAEN;4NGKUN;4SHEE;4NGKAP;4KEUAETMEUN;4TEUT;4SHEUAE;4NJAP;4SUE;4KET;4YAEMMAE;4KUOM;4SAP;",
     "4MFEUT;4NDEUX;4MALEERI;4MEUT;4SEUAEQ;4YEN;4NJEUAEM;4KEUOT MBUAE;4NGKEURI;4TU;4GHAA;4NGKYEE;4FEUFEUAET;4NDEE;",
     "4MGBOFUM;4LEUAEP;4NDON;4MONI;4MGBEUN;4PUUT;4MGBIEE;4MFO;4LUM;4NSIEEP;4MBAA;4KWAET;4NYET;4TEUAEN;4SOT;4YUWOQ;",
     "4KEUM;4RAEM;4TEEEE;4NGKEUAEQ;4MFEUAE;4NSIEET;4KEUP;4PIP;4PEUTAE;4NYUE;4LET;4NGGAAM;4MFIEE;4NGGWAEN;4YUOM;4PAP;",
     "4YUOP;4NDAM;4NTEUM;4SUAE;4KUN;4NGGEUX;4NGKIEE;4TUOT;4MEUN;4KUQ;4NSUM;4TEUN;4MAENJET;4NGGAP;4LEUM;4NGGUOM;",
     "4NSHUT;4NJUEQ;4GHEUAE;4KU;4REN zy;4TAE;4TOQ;4NYI;4RII;4LEEEE;4MEEEE;4M;4SUU;4MU;4SHII;4SHEUX;4KYEE;4NU;4SHU;",
     "4NTEE;4PEE;4NI;4SHOQ;4PUQ;4MVOP;4LOQ;4REN MUCH;4TI;4NTUU;4MBAA aj;4SAQ;4FAA;3-E NDAP;4TOON;4MBEUM;4LAP;4VOM;",
     "4LOON;4PAA;4SOM;4RAQ;4NSHUOP;4NDUN;4PUAE;4TAM;4NGKA;4KPEUX;4WUO;4SEE;4NGGEUAET;4PAAM;4TOO;4KUOP;4LOM;4NSHIEE;",
     "4NGOP;4MAEM;4NGKEUX;4NGOQ;4NSHUE;4RIMGBA;4NJEUX;4PEEM;4SAA;4NGGURAE;4MGBA;4GHEUX;4NGKEUAEM;4NJAEMLI;4MAP;",
     "4LOOT;4NGGEEEE;4NDIQ;4TAEN NTEUM;4SET;4PUM;4NDAA SOFTNESS;4NGGUAESHAE NYAM;4YIEE;4GHEUN;4TUAE;4YEUAE;4PO;",
     "4TUMAE;4KEUAE;4SUAEN;4TEUAEQ;4VEUAE;4WEUX;4LAAM;4PU;4TAAQ;4GHAAMAE;4NGEUREUT;4SHEUAEQ;4MGBEN;4MBEE;4NZAQ;",
     "4NKOM;4GBET;4TUM;4KUET;4YAP;4NYI CLEAVER;4YIT;4MFEUQ;4NDIAQ;4PIEEQ;4YUEQ;4LEUAEM;4FUE;4GBEUX;4NGKUP;4KET;4MAE;",
     "4NGKAAMI;4GHET;4FA;4NTUM;4PEUT;4YEUM;4NGGEUAE;4NYI hd;4NZUQ;4POON;4MIEE;4FUET;4NAE;4MUAE;4GHEUAE;4FU I;4MVI;",
     "4PUAQ;4NGKUM;4KUT;4PIET;4NTAP;4YEUAET;4NGGUP;4PA PEOPLE;4FU CALL;4FOM;4NJEE;4A;4TOQ;4O;4I;4LAQ;4PA PLURAL;",
     "4TAA;4TAQ;4NDAA MY HOUSE;4SHIQ;4YEUX;4NGUAE;4YUAEN;4YOQ SWIMMING;5COVER;4YUQ;4YUN;4KEUX;4PEUX;4NJEE EPOCH;",
     "4PUE;4WUE;4FEE;4VEE;4LU;4MI;4REUX;4RAE;4NGUAET;4hv;4SHO;4SHOQ;4FU REMEDY;4NA;4PI;4LOQ;4KO;4MEN;4MA;4MAQ;4TEU;",
     "4KI;4MON;4gu;4FAQ;4GHOM;3-F KA;4U;4KU;4EE;4REE;4TAE;4NYI;4LA;4RII;4RIEE;4MEEEE;4TAA;4NDAA;4NJAEM;4M;4SUU;",
     "4SHII;4SI;4SEUX;4KYEE;4KET;4NUAE;4NU;4NJUAE;4YOQ;4SHU;4YA;4NSHA;4PEUX;4NTEE;4WUE;4PEE;4RU;4NI;4REUX;4KEN;",
     "4NGKWAEN;4NGGA;4SHO;4PUAE;4FOM;4WA;4LI;4LOQ;4KO;4MBEN;4REN;4MA;4MO;4MBAA;4TET;4KPA;4SAMBA;4VUEQ;-7;0MRO d TA;",
     "2NGI;2YO;2MIM;2BA;2DA;2A;2ub;2KHAI;2HAO;2DAI;2CHU;2KEAAE;2OL;2MAEM;2NIN;2PA;2OO;2O;2RO;2SHI;2THEA;2EA;2WA;2E;",
     "2KO;2LAN;2LA;2HAI;2RI;2TEK;;1w;2bk;2ax;2l;2z;2ao;2dp;2aj;2af;2be;-4;1na;1h+1;0TANGSA d OZ;2OC;2OQ;2OX;2AZ;2AC;",
     "2AQ;2AX;2VZ;2VC;2VQ;2VX;2EZ;2EC;2EQ;2EX;2IZ;2IC;2IQ;2IX;2UZ;2UC;2UQ;2UX;2AWZ;2AWC;2AWQ;2AWX;2UIZ;2UIC;2UIQ;",
     "2UIX;2u NG;2dc UEX;2cz UEZ;3AWX;2UEC;2UEZ;2UEQ;2UEX;2UIUZ;2UIUC;2UIUQ;2UIUX;2MZ;2MC;2MQ;2MX;2KA;2iv;2GA;2hv;",
     "2SA;2YA;2WA;2PA;2is;2kd;2BA;2MA;2NA;2HA;2LA;2HTA;2TA;2DA;2RA;2NHA;2hw;2CA;2rz;2lz;2HTTA;2ja;2XA;2FA;2ly;2il;",
     "2ZA;;1w;2bk;2ax;2l;2z;2ao;2dp;2aj;2af;2be;-6;0BASSA VAH d ENNI;3KA;3SE;3FA;3MBE;3YIE;3GAH;3DHII;3KPAH;3JO;",
     "3HWAH;3WA;3ZO;3GBU;3DO;3CE;3UWU;3TO;3BA;3VU;3YEIN;3PA;3WADDA;3A;3O;3OO;3U;3EE;3E;3I;;;2bh cx fh;3fn+1;3MID+1;",
     "3fn-MID+1;3cx-fn+1;2cp;-10;0PAHAWH HMONG au KEEB;3KEEV;3KIB;3KIV;3KAUB;3KAUV;3KUB;3KUV;3KEB;3KEV;3KAIB;3KAIV;",
     "3KOOB;3KOOV;3KAWB;3KAWV;3KUAB;3KUAV;3KOB;3KOV;3KIAB;3KIAV;3KAB;3KAV;3KWB;3KWV;3KAAB;3KAAV;2ds VAU;3NTSAU;3LAU;",
     "3HAU;3NLAU;3RAU;3NKAU;3QHAU;3YAU;3HLAU;3MAU;3CHAU;3NCHAU;3HNAU;3PLHAU;3NTHAU;3NAU;3AU;3XAU;3CAU;2aq CIM TUB;",
     "4SO;4KES;4KHAV;4SUAM;4HOM;4TAUM;2g VOS THOM;4TSHAB CEEB;3CIM CHEEM;3VOS THIAB;4FEEM;3XYEEM NTXIV;4sx;4TOV;",
     "4FAIB;3VOS SEEV;3MEEJ SUAB;3VOS NRUA;3IB YAM;3XAUS;3CIM TSOV ROG;-10;2w;3bk;3ax;3l;3z;3ao;3dp;3aj;3af;3be;;",
     "2bn TENS;3HUNDREDS;3gu po;3xv;3hp+1;3gu BILLIONS;3TRILLIONS;;2g VOS LUB;3XYOO;3HLI;3qd-STAGE+1;3ZWJ THAJ;",
     "3HNUB;3NQIG;3XIAB;3NTUJ;3AV;3TXHEEJ CEEV;3MEEJ TSEEB;3TAU;3LOS;3MUS;3CIM HAIS LUS NTOG NTOG;4CUAM TSHOOJ;",
     "4TXWV;5CHWV;4PUB DAWB;4NRES TOS;-5;2CLAN g TSHEEJ;4YEEG;4LIS;4LAUJ;4XYOOJ;4KOO;4HAWJ;4MUAS;4THOJ;4TSAB;4PHAB;",
     "4KHAB;4HAM;4VAJ;4FAJ;4YAJ;4TSWB;4KWM;4VWJ;-688;0MEDEFAIDRIN a M;3S;3V;3W;3ATIU;3Z;3KP;3P;3T;3G;3F;3I;3K;3A;3J;",
     "3E;3B;3C;3U;3YU;3L;3Q;3HP;3NY;3X;3D;3OE;3N;3R;3O;3AI;3Y;1c d M;3S;3V;3W;3ATIU;3Z;3KP;3P;3T;3G;3F;3I;3K;3A;3J;",
     "3E;3B;3C;3U;3YU;3L;3Q;3HP;3NY;3X;3D;3OE;3N;3R;3O;3AI;3Y;1w;2bk;2ax;2l;2z;2ao;2dp;2aj;2af;2be;1bn gu;2lo;2kr;",
     "2nh;2ni;2oe;2mf;2lg;2ls;2nj;1ke bk ei km;2ax+2;2l+2;1ez;1cp;1ad AIVA;1cb OH;-101;0MIAO d PA;2BA;2YI PA;2PLA;",
     "2MA;2MHA;2gw MA;2FA;2VA;2VFA;2TA;2DA;2YI lc;3TA;2lc;2lh;2NA;2NHA;2YI mo;2gw NA;2mo;2NNHA;2LA;2LYA;2LHA;2LHYA;",
     "2TLHA;2DLHA;2TLHYA;2DLHYA;2KA;2GA;2YI KA;2QA;2QGA;2hv;2NGHA;2gw hv;2HA;2XA;2lz;2GHHA;2TSSA;2DZZA;2is;2NYHA;",
     "2sa;2DZHA;2YI sa;3DZHA;2REFORMED sa;2hw;2oo;2vf;2ZSHA;2rz;2DZA;2YI rz;2SA;2ZA;2ZSA;2ZZA;2ZZSA;2gw ZZA;2ZZYA;",
     "2ZZSYA;2WA;2AH;2HHA;2BRI;2SYI;2DZYI;2TE;2TSE;2RTE;-4;1g ds ci hg;1d xa;1g ASPIRATION;2REFORMED VOICING;",
     "3ASPIRATION;1au g A;3AA;3AHH;3AN;3ANG;3O;3OO;3WO;3W;3E;3EN;3ENG;3OEY;3I;3IA;3IAN;3IANG;3IO;3IE;3II;3IU;3ING;",
     "3U;3UA;3UAN;3UANG;3UU;3UEI;3UNG;3Y;3YI;3AE;3AEE;3ERR;3mj+1;3ER;3mj+1;3AI;3EI;3AU;3OU;3N;3NG;3UOG;3YUI;3OG;",
     "3OER;3VW;3IG;3EA;3IONG;3UI;-7;1fh e;2ne+1;2k;2y;1d fh-2;+6;2REFORMED fh-1;+1;4-4;+2;4-8;-64;0TANGUT pp aq;",
     "0NUSHU+2;0zy CHINESE bx+1;2pp+1;0KHITAN c gv qi;-11;0VIETNAMESE ei READING aq CA;4NHAY;"]

end RpcClients.Text.Name
