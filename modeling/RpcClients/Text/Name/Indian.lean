import RpcClients.Text.Name.Block

/-! # Names of letters of India, Tibet and the lands around them -/

namespace RpcClients.Text.Name

/-- Devanagari, Bengali, Gurmukhi, Gujarati and Oriya letters. -/
def northIndianNames : Block where
  first := 0x900
  lines :=
    ["0zz g ar bs;2+1;2bd;2cw;1d cz A;2A;2AA;2I;2II;2U;2UU;2ay R;3L;2jy E;2cz E;2E;2AI;2jy O;2cz O;2O;2AU;2KA;2iv;",
     "2GA;2lz;2hv;2CA;2il;2JA;2pm;2is;2lc;2gs;2lh;2hh;2mo;2TA;2ja;2DA;2ly;2NA;2NNNA;2PA;2kd;2BA;2mx;2MA;2YA;2RA;2xt;",
     "2LA;2sw;2LLLA;2VA;2hw;2oo;2SA;2HA;1au g OE;3OOE;1g ip;2gf;1au g AA;3I;3II;3U;3UU;3ay R;4RR;3jy E;3cz E;3E;3AI;",
     "3jy O;3cz O;3O;3AU;1g dj;1au g ta;3AW;1OM;1STRESS g UDATTA;3zb;1dg er;1ch+1;1au g jy dc E;3UE;3UUE;1d QA;",
     "2KHHA;2GHHA;2ZA;2DDDHA;2RHA;2FA;2YYA;2ay RR;3LL;1au g ay L;4LL;1na;1h+1;1w;2bk;2ax;2l;2z;2ao;2dp;2aj;2af;2be;",
     "1cs g;1g cx SPACING cd;1d jy A;2OE;2OOE;2AW;2UE;2UUE;2MARWARI lh;2vf;2am YA;2GGA;2JJA;2dn;2DDDA;2BBA;",
     "0BENGALI ANJI;1g bs;2bd;2cw;;1d A;2AA;2I;2II;2U;2UU;2ay R;3L;;;2E;2AI;;;2O;2AU;2KA;2iv;2GA;2lz;2hv;2CA;2il;",
     "2JA;2pm;2is;2lc;2gs;2lh;2hh;2mo;2TA;2ja;2DA;2ly;2NA;;2PA;2kd;2BA;2mx;2MA;2YA;2RA;;2LA;;;;2hw;2oo;2SA;2HA;;;",
     "1g ip;2gf;1au g AA;3I;3II;3U;3UU;3ay R;4RR;;;3E;3AI;;;3O;3AU;1g dj;1d KHANDA TA;-8;1AU mq aq;-4;1d xt;2RHA;;",
     "2YYA;2ay RR;3LL;1au g ay L;4LL;;;1w;2bk;2ax;2l;2z;2ao;2dp;2aj;2af;2be;1d RA b ab ca;4bi+1;1xy aq;2g;",
     "1rt NUMERATOR bk;3ax;3l;3z;3bk wk ma pj DENOMINATOR;2DENOMINATOR mf;1ISSHAR;1GANDA aq;1d VEDIC bd;1cs g;",
     "1SANDHI aq;;;0GURMUKHI g ADAK BINDI;2+1;2cw;;1d A;2AA;2I;2II;2U;2UU;-4;2EE;2AI;;;2OO;2AU;2KA;2iv;2GA;2lz;2hv;",
     "2CA;2il;2JA;2pm;2is;2lc;2gs;2lh;2hh;2mo;2TA;2ja;2DA;2ly;2NA;;2PA;2kd;2BA;2mx;2MA;2YA;2RA;;2LA;2sw;;2VA;2hw;;",
     "2SA;2HA;;;1g ip;;1au g AA;3I;3II;3U;3UU;-4;3EE;3AI;;;3OO;3AU;1g dj;;;;2UDAAT;-7;1d KHHA;2GHHA;2ZA;2xt;;2FA;-7;",
     "1w;2bk;2ax;2l;2z;2ao;2dp;2aj;2af;2be;1TIPPI;1ADDAK;1IRI;1URA;1EK ONKAR;1g YAKASH;1cs g;-10;0GUJARATI g bs;2bd;",
     "2cw;;1d A;2AA;2I;2II;2U;2UU;2ay R;3L;1au jy E;;1d E;2AI;1au jy O;;1d O;2AU;2KA;2iv;2GA;2lz;2hv;2CA;2il;2JA;",
     "2pm;2is;2lc;2gs;2lh;2hh;2mo;2TA;2ja;2DA;2ly;2NA;;2PA;2kd;2BA;2mx;2MA;2YA;2RA;;2LA;2sw;;2VA;2hw;2oo;2SA;2HA;;;",
     "1g ip;2gf;1au g AA;3I;3II;3U;3UU;3ay R;4RR;3jy E;;3E;3AI;3jy O;;3O;3AU;1g dj;;;1OM;-15;1d ay RR;3LL;",
     "1au g ay L;4LL;;;1w;2bk;2ax;2l;2z;2ao;2dp;2aj;2af;2be;1cs g;1xy+1;-7;1d vf;1g yh;2wi;2MADDAH;2l-cd ip k;2ak+2;",
     "2ax-ak+2;;0ORIYA g bs;2bd;2cw;;1d A;2AA;2I;2II;2U;2UU;2ay R;3L;;;2E;2AI;;;2O;2AU;2KA;2iv;2GA;2lz;2hv;2CA;2il;",
     "2JA;2pm;2is;2lc;2gs;2lh;2hh;2mo;2TA;2ja;2DA;2ly;2NA;;2PA;2kd;2BA;2mx;2MA;2YA;2RA;;2LA;2sw;;2VA;2hw;2oo;2SA;",
     "2HA;;;1g ip;2gf;1au g AA;3I;3II;3U;3UU;3ay R;4RR;;;3E;3AI;;;3O;3AU;1g dj;-7;2tv;1AI mq aq;1AU+2;-4;1d xt;2RHA;",
     ";2YYA;2ay RR;3LL;1au g ay L;4LL;;;1w;2bk;2ax;2l;2z;2ao;2dp;2aj;2af;2be;1ISSHAR;1d WA;1fb bk du;3ct;2l im;",
     "2bk mz;3gx;2l tl;"]

/-- Tamil, Telugu, Kannada, Malayalam and Sinhala letters. -/
def southIndianNames : Block where
  first := 0xB82
  lines :=
    ["0TAMIL g bd;2cw;;1d A;2AA;2I;2II;2U;2UU;;;;2E;2EE;2AI;;2O;2OO;2AU;2KA;;;;2hv;2CA;;2JA;;2is;2lc;;;;2mo;2TA;;;;",
     "2NA;2NNNA;2PA;;;;2MA;2YA;2RA;2xt;2LA;2sw;2LLLA;2VA;2hw;2oo;2SA;2HA;-4;1au g AA;3I;3II;3U;3UU;;;;3E;3EE;3AI;;",
     "3O;3OO;3AU;1g dj;;;1OM;-6;1AU mq aq;-14;1w;2bk;2ax;2l;2z;2ao;2dp;2aj;2af;2be;1bn gu;2aw;3cy;1DAY g;1MONTH+1;",
     "1YEAR+1;1DEBIT+1;1CREDIT+1;1AS k+1;1xy+1;1bn+1;-5;0TELUGU g bh bs k;2bs;2bd;2cw;2bh bd k;1d A;2AA;2I;2II;2U;",
     "2UU;2ay R;3L;;2E;2EE;2AI;;2O;2OO;2AU;2KA;2iv;2GA;2lz;2hv;2CA;2il;2JA;2pm;2is;2lc;2gs;2lh;2hh;2mo;2TA;2ja;2DA;",
     "2ly;2NA;;2PA;2kd;2BA;2mx;2MA;2YA;2RA;2xt;2LA;2sw;2LLLA;2VA;2hw;2oo;2SA;2HA;;;1g ip;2gf;1au g AA;3I;3II;3U;3UU;",
     "3ay R;4RR;;3E;3EE;3AI;;3O;3OO;3AU;1g dj;-7;1mq aq;1AI+2;;1d rz;2DZA;2RRRA;;;2NAKAARA POLLU;;;2ay RR;3LL;",
     "1au g ay L;4LL;;;1w;2bk;2ax;2l;2z;2ao;2dp;2aj;2af;2be;-7;1g rc;1fb w qm ODD POWERS OF z;3bk+5;3ax+5;3l+5;",
     "3bk qm EVEN+3;3ax+5;3l+5;1g TUUMU;0KANNADA g SPACING bs;2+1;2bd;2cw;2rc;1d A;2AA;2I;2II;2U;2UU;2ay R;3L;;2E;",
     "2EE;2AI;;2O;2OO;2AU;2KA;2iv;2GA;2lz;2hv;2CA;2il;2JA;2pm;2is;2lc;2gs;2lh;2hh;2mo;2TA;2ja;2DA;2ly;2NA;;2PA;2kd;",
     "2BA;2mx;2MA;2YA;2RA;2xt;2LA;2sw;;2VA;2hw;2oo;2SA;2HA;;;1g ip;2gf;1au g AA;3I;3II;3U;3UU;3ay R;4RR;;3E;3EE;3AI;",
     ";3O;3OO;3AU;1g dj;-7;1mq aq;1AI+2;-6;1d NAKAARA POLLU;2FA;;2ay RR;3LL;1au g ay L;4LL;;;1w;2bk;2ax;2l;2z;2ao;",
     "2dp;2aj;2af;2be;;1g mg;2mh;-13;0MALAYALAM g bh bd k;2bs;2bd;2cw;1d VEDIC bd;2A;2AA;2I;2II;2U;2UU;2ay R;3L;;2E;",
     "2EE;2AI;;2O;2OO;2AU;2KA;2iv;2GA;2lz;2hv;2CA;2il;2JA;2pm;2is;2lc;2gs;2lh;2hh;2mo;2TA;2ja;2DA;2ly;2NA;2NNNA;2PA;",
     "2kd;2BA;2mx;2MA;2YA;2RA;2xt;2LA;2sw;2LLLA;2VA;2hw;2oo;2SA;2HA;2TTTA;1g m hg dj;2CIRCULAR+1;2gf;1au g AA;3I;",
     "3II;3U;3UU;3ay R;4RR;;3E;3EE;3AI;;3O;3OO;3AU;1g dj;1d cd REPH;1g PARA;-4;1d CHILLU M;3Y;3LLL;1AU mq aq;",
     "1fb bk bk-hp-n-SIXTIETH;3FORTIETH;2l EIGHTIETHS;2bk TWENTIETH;3TENTH;2l TWENTIETHS;2bk FIFTH;1d gw II;2ay RR;",
     "3LL;1au g ay L;4LL;;;1w;2bk;2ax;2l;2z;2ao;2dp;2aj;2af;2be;1bn gu;2aw;3cy;1fb bk du;3ct;2l im;2bk mz;3gx;2l tl;",
     "1DATE aq;1d CHILLU NN;3N;3RR;3L;3LL;3K;;0SINHALA g bs;2ANUSVARAYA;2VISARGAYA;;1d AYANNA;2AAYANNA;2AEYANNA;",
     "2AEEYANNA;2IYANNA;2IIYANNA;2UYANNA;2UUYANNA;2IRUYANNA;2IRUUYANNA;2ILUYANNA;2ILUUYANNA;2EYANNA;2EEYANNA;",
     "2AIYANNA;2OYANNA;2OOYANNA;2AUYANNA;;;;2ig KAYANNA;2gt+1;2ig GAYANNA;2gt+1;2KANTAJA NAASIKYAYA;",
     "2SANYAKA GAYANNA;2ig CAYANNA;2gt+1;2ig JAYANNA;2gt+1;2TAALUJA NAASIKYAYA;3SANYOOGA NAAKSIKYAYA;",
     "2SANYAKA JAYANNA;2ig TTAYANNA;2gt+1;2ig DDAYANNA;2gt+1;2MUURDHAJA NAYANNA;2SANYAKA DDAYANNA;2ig TAYANNA;2gt+1;",
     "2ig DAYANNA;2gt+1;2DANTAJA NAYANNA;;2SANYAKA DAYANNA;2ig PAYANNA;2gt+1;2ig BAYANNA;2gt+1;2MAYANNA;",
     "2AMBA BAYANNA;2YAYANNA;2RAYANNA;;2DANTAJA LAYANNA;;;2VAYANNA;2TAALUJA SAYANNA;2MUURDHAJA+1;2DANTAJA+1;",
     "2HAYANNA;2MUURDHAJA LAYANNA;2FAYANNA;;;;1g AL-LAKUNA;-4;1au g AELA-PILLA;3KETTI AEDA+1;3DIGA+2;3KETTI IS+1;",
     "3DIGA+2;3KETTI PAA+1;;3DIGA+2;;3GAETTA+1;3KOMBUVA;3DIGA+1;3KOMBU DEKA;3KOMBUVA HAA AELA-PILLA;5DIGA+2;",
     "5GAYANUKITTA;3+1;-6;1LITH w;3bk;3ax;3l;3z;3ao;3dp;3aj;3af;3be;;;1au g DIGA GAETTA-PILLA;4GAYANUKITTA;",
     "1bf KUNDDALIYA;"]

/-- Thai, Lao, Tibetan and Myanmar letters. -/
def tibetanNames : Block where
  first := 0xE01
  lines :=
    ["0THAI le KO KAI;2KHO KHAI;3KHUAT;3KHWAI;3KHON;3RAKHANG;2NGO NGU;2CHO CHAN;3CHING;3CHANG;2SO SO;2CHO CHOE;",
     "2YO YING;2DO CHADA;2TO PATAK;2THO ma;3NANGMONTHO;3PHUTHAO;2NO NEN;2DO DEK;2TO TAO;2THO THUNG;3THAHAN;3THONG;",
     "2NO NU;2BO BAIMAI;2PO PLA;2PHO PHUNG;2FO FA;2PHO PHAN;2FO FAN;2PHO SAMPHAO;2MO MA;2YO YAK;2RO RUA;2RU;",
     "2LO LING;2LU;2WO WAEN;2SO SALA;3RUSI;3SUA;2HO HIP;2LO CHULA;2O ANG;2HO NOKHUK;2PAIYANNOI;2SARA A;",
     "2MAI HAN-AKAT;2SARA AA;3AM;3I;3II;3UE;3UEE;3U;3UU;2PHINTHU;-4;1rt ad BAHT;1le SARA E;3AE;3O;3AI MAIMUAN;",
     "4MAIMALAI;2LAKKHANGYAO;2MAIYAMOK;2MAITAIKHU;2MAI EK;3THO;3TRI;3CHATTAWA;2THANTHAKHAT;2NIKHAHIT;2YAMAKKAN;",
     "2FONGMAN;1w;2bk;2ax;2l;2z;2ao;2dp;2aj;2af;2be;1le ANGKHANKHU;2KHOMUT;-37;0LAO d KO;2KHO SUNG;;3TAM;;2PALI lz;",
     "2NGO;2CO;2PALI il;2SO TAM;;2PALI pm;2NYO;2PALI is;3lc;3gs;3lh;3hh;3mo;2DO;2TO;2THO SUNG;3TAM;2PALI ly;2NO;2BO;",
     "2PO;2PHO SUNG;2FO TAM;2PHO+1;2FO SUNG;2PALI mx;2MO;2YO;2LO LING;;3LOOT;;2WO;2SANSKRIT hw;3oo;2SO SUNG;2HO+1;",
     "2PALI sw;2O;2HO TAM;1tt;1au g A;3MAI KAN;3AA;3AM;3I;3II;3Y;3YY;3U;3UU;1g PALI dj;1au g MAI KON;",
     "1SEMIVOWEL g LO;3NYO;;;1au g E;3EI;3O;3AY;3AI;;1KO LA;;1fh MAI EK;3THO;3TI;3CATAWA;1rv aq;1NIGGAHITA;;;1w;2bk;",
     "2ax;2l;2z;2ao;2dp;2aj;2af;2be;;;1HO NO;2MO;1d KHMU GO;3NYO;-32;0TIBETAN ge OM;1aq GTER pu TRUNCATED A;",
     "5 -UM RNAM BCAD MA;7GTER st+1;2ah pu MDUN+1;2ws pu SGAB+1;2tm pu PHUR SHAD+1;2pu st+2;2SBRUL SHAD;2BSKUR pu;",
     "2BKA- SHOG+2;2INTERSYLLABIC st;2DELIMITER st BSTAR;2SHAD;2NYIS+1;2st+1;2NYIS+2;2RIN CHEN SPUNGS+1;",
     "2RGYA GRAM+1;2tm -DZUD vz ME dc CAN;2GTER st;1LOGOTYPE g CHAD vz;3LHAG+1;1ASTROLOGICAL g SGRA GCAN -CHAR+1;",
     "3 -KHYUD PA;3SDONG TSHUGS;1g RDEL DKAR GCIG;4GNYIS;4GSUM;3NAG GCIG;4GNYIS;3DKAR RDEL NAG;1w;2bk;2ax;2l;2z;2ao;",
     "2dp;2aj;2af;2be;2ct bk;3ax;3l;3z;3ao;3dp;3aj;3af;3be;3uv;1aq BSDUS vz;2NGAS BZUNG NYI ZLA;",
     "2tm -DZUD vz BZHI MIG CAN;2NGAS BZUNG SGOR vz;2zp MGO;2rz -PHRU;2GUG vz GYON;4GYAS;2ANG KHANG GYON;4GYAS;",
     "1g YAR TSHES;2MAR+1;1d KA;2iv;2GA;2lz;2hv;2CA;2il;2JA;;2is;2lc;2gs;2lh;2hh;2mo;2TA;2ja;2DA;2ly;2NA;2PA;2kd;",
     "2BA;2mx;2MA;2rz;2sa;2DZA;2DZHA;2WA;2vf;2ZA;2 -A;2YA;2RA;2LA;2hw;2oo;2SA;2HA;2A;2KSSA;2FIXED-km RA;2KKA;2xt;-4;",
     "1au g AA;3I;3II;3U;3UU;3ay R;4RR;4L;4LL;3E;3EE;3O;3OO;1g RJES SU hv RO;2RNAM BCAD;1au g ag I;4II;",
     "1g NYI ZLA NAA DA;2SNA LDAN;1aq HALANTA;2PALUTA;1g LCI vz;2ux+1;2LCE rz CAN;2MCHU+1;2GRU CAN RGYINGS;3MED+1;",
     "2ar MCHU CAN;1pl g LCE rz+1;3MCHU+1;3ar+2;2d KA;3iv;3GA;3lz;3hv;3CA;3il;3JA;;3is;3lc;3gs;3lh;3hh;3mo;3TA;3ja;",
     "3DA;3ly;3NA;3PA;3kd;3BA;3mx;3MA;3rz;3sa;3DZA;3DZHA;3WA;3vf;3ZA;3 -A;3YA;3RA;3LA;3hw;3oo;3SA;3HA;3A;3KSSA;",
     "3FIXED-km WA;5YA;5RA;;1KU RU iv;4BZHI MIG CAN;1CANTILLATION g am BEAT;3bl+1;3CANG TE-U;3SBUB -CHAL;",
     "1ad DRIL BU;2RDO RJE;2PADMA GDAN;2RDO RJE RGYA GRAM;2PHUR PA;2NOR BU;4NYIS -KHYIL;4GSUM+2;4BZHI+2;;",
     "1g RDEL NAG RDEL DKAR;4GSUM;1aq BSKA- SHOG GI MGO RGYAN;2MNYAM YIG+3;2NYIS st;2ah BRDA RNYING pu MDUN MA;",
     "2ws BRDA RNYING pu SGAB+1;0e-uj SVASTI g;0i+3;0e-uj SVASTI g b ce;0i+5;0TIBETAN aq LEADING MCHAN vz;",
     "2TRAILING+2;-37;0MYANMAR d KA;2iv;2GA;2lz;2hv;2CA;2il;2JA;2pm;2is;2NNYA;2lc;2gs;2lh;2hh;2mo;2TA;2ja;2DA;2ly;",
     "2NA;2PA;2kd;2BA;2mx;2MA;2YA;2RA;2LA;2WA;2SA;2HA;2sw;2A;2wf A;2I;2II;2U;2UU;2E;2MON E;2O;2AU;1au g TALL AA;3AA;",
     "3I;3II;3U;3UU;3E;3AI;3MON II;4O;3E k;1g bd;2cd y;2cw;2dj;2ASAT;1ds g br YA;4RA;4WA;4HA;1d GREAT SA;1w;2bk;2ax;",
     "2l;2z;2ao;2dp;2aj;2af;2be;1g fa gk;2+1;1ad LOCATIVE;2COMPLETED;2AFOREMENTIONED;2GENITIVE;1d hw;2oo;2ay R;3RR;",
     "3L;3LL;1au g ay R;4RR;4L;4LL;1d MON hv;3pm;3BBA;3BBE;1ds g MON br NA;5MA;5LA;1d SGAW KAREN hw;",
     "1au g SGAW KAREN EU;1fh aq SGAW KAREN HATHI;5KE PHO;1d rw ja;5PWA;1au g rw EU;6UE;1g rw fh-1;+4;",
     "1d EASTERN PWO KAREN mo;5YWA;5GHWA;1au g GEBA KAREN I;3KAYAH OE;4U;4EE;1d wf KA;3iv;3GA;3CA;3ZA;3is;3DA;3NA;",
     "3kd;3FA;3BA;3ja;3HA;1ds g wf br WA;1au g wf AA;4E;5k;4u Y;1g wf fh-2;+1;4-5;+1;3COUNCIL fh-2;+1;4EMPHATIC fh;",
     "1d RUMAI PALAUNG FA;1g RUMAI PALAUNG fh-5;1wf w;3bk;3ax;3l;3z;3ao;3dp;3aj;3af;3be;1g KHAMTI fh-1;4-3;",
     "1au g AITON A;4AI;1ad wf bk;3cb;"]

end RpcClients.Text.Name
