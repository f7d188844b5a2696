import RpcClients.Text.Name.Block

/-! # Names of letters of Brahmic scripts -/

namespace RpcClients.Text.Name

/-- Brahmi and the scripts of northern India. -/
def brahmiNames : Block where
  first := 0x11000
  lines :=
    ["0BRAHMI g bs;2bd;2cw;2mg;2mh;1d A;2AA;2I;2II;2U;2UU;2ay R;3RR;3L;3LL;2E;2AI;2O;2AU;2KA;2iv;2GA;2lz;2hv;2CA;",
     "2il;2JA;2pm;2is;2lc;2gs;2lh;2hh;2mo;2TA;2ja;2DA;2ly;2NA;2PA;2kd;2BA;2mx;2MA;2YA;2RA;2LA;2VA;2hw;2oo;2SA;2HA;",
     "2sw;2sk LLLA;4xt;4NNNA;1au g AA;3BHATTIPROLU+1;3I;3II;3U;3UU;3ay R;4RR;4L;4LL;3E;3AI;3O;3AU;1dj;1na;1h+1;",
     "1bf cd;2h+1;2et;2rn hg;2LOTUS;-4;1bn bk;2ax;2l;2z;2ao;2dp;2aj;2af;2be;2gu;2cm;2fg;2ki;2fx;2jg;2gy;2jx;2hz;2aw;",
     "3cy;1w;2bk;2ax;2l;2z;2ao;2dp;2aj;2af;2be;1g sk dj;1d sk cz E;5O;1au g sk cz E;6O;1d sk sw;-9;1bn ue;",
     "0KAITHI g bs;2bd;2cw;1d A;2AA;2I;2II;2U;2UU;2E;2AI;2O;2AU;2KA;2iv;2GA;2lz;2hv;2CA;2il;2JA;2pm;2is;2lc;2gs;2lh;",
     "2DDDHA;2hh;2RHA;2mo;2TA;2ja;2DA;2ly;2NA;2PA;2kd;2BA;2mx;2MA;2YA;2RA;2LA;2VA;2hw;2oo;2SA;2HA;1au g AA;3I;3II;",
     "3U;3UU;3E;3AI;3O;3AU;1g dj;2ip;1cs g;1ENUMERATION+1;1bn+1;1gk aq;1h+2;1na;1h+1;1au g ay R;-10;1bn g k;;;",
     "0SORA SOMPENG d SAH;3td;3BAH;3CAH;3DAH;3GAH;3MAH;3NGAH;3LAH;3NAH;3VAH;3PAH;3YAH;3RAH;3gi;3KAH;3JAH;3NYAH;3AH;",
     "3EEH;3IH;3UH;3OH;3EH;3MAE;-7;2w;3bk;3ax;3l;3z;3ao;3dp;3aj;3af;3be;-6;0CHAKMA g bs;2bd;2cw;1d AA;2I;2U;2E;2KAA;",
     "2KHAA;2GAA;2GHAA;2NGAA;2CAA;2CHAA;2JAA;2JHAA;2NYAA;2TTAA;2TTHAA;2DDAA;2DDHAA;2NNAA;2TAA;2THAA;2DAA;2DHAA;2NAA;",
     "2PAA;2PHAA;2BAA;2BHAA;2MAA;2YYAA;2YAA;2RAA;2LAA;2WAA;2SAA;2HAA;1au g A;3I;3II;3U;3UU;3E;3AI;3O;3AU;3OI;1O aq;",
     "1AU+1;1dj;1MAAYYAA;;1w;2bk;2ax;2l;2z;2ao;2dp;2aj;2af;2be;1gk aq;1na;1h+1;1dl aq;1d LHAA;1au g AA;3EI;1d VAA;",
     "-8;0MAHAJANI d A;2I;2U;2E;2O;2KA;2iv;2GA;2lz;2CA;2il;2JA;2pm;2is;2lc;2gs;2lh;2hh;2mo;2TA;2ja;2DA;2ly;2NA;2PA;",
     "2kd;2BA;2mx;2MA;2RA;2LA;2VA;2SA;2HA;2xt;1g ip;1cs g;1gk aq;1de SHRI;-9;0SHARADA g bs;2bd;2cw;1d A;2AA;2I;2II;",
     "2U;2UU;2ay R;3RR;3L;3LL;2E;2AI;2O;2AU;2KA;2iv;2GA;2lz;2hv;2CA;2il;2JA;2pm;2is;2lc;2gs;2lh;2hh;2mo;2TA;2ja;2DA;",
     "2ly;2NA;2PA;2kd;2BA;2mx;2MA;2YA;2RA;2LA;2sw;2VA;2hw;2oo;2SA;2HA;1au g AA;3I;3II;3U;3UU;3ay R;4RR;4L;4LL;3E;",
     "3AI;3O;3AU;1g dj;2gf;2mg;2mh;1OM;1na;1h+1;1cs g;1ek;1SANDHI aq;1g ip;1au ci aq;1xw cz au+1;1SUTRA+1;1au g ta;",
     "1g ar bs;1w;2bk;2ax;2l;2z;2ao;2dp;2aj;2af;2be;1EKAM;1g rc;1HEADSTROKE;1CONTINUATION g;1gk aq-1;+1;;",
     "0SINHALA gw ke bk;3ax;3l;3z;3ao;3dp;3aj;3af;3be;2bn gu;3cm;3fg;3ki;3fx;3jg;3gy;3jx;3hz;3aw;4cy;-11;",
     "0KHOJKI d A;2AA;2I;2U;2E;2AI;2O;2AU;2KA;2iv;2GA;2GGA;2lz;2hv;2CA;2il;2JA;2JJA;;2is;2lc;2gs;2lh;2hh;2mo;2TA;",
     "2ja;2DA;2DDDA;2ly;2NA;2PA;2kd;2BA;2BBA;2mx;2MA;2YA;2RA;2LA;2VA;2SA;2HA;2sw;1au g AA;3I;3II;3U;3E;3AI;3O;3AU;",
     "1g bd;2dj;2ip;2wi;1na;1h+1;1sd ek;1gk aq;1h+2;1cs g;1g yh;-65;0MULTANI d A;2I;2U;2E;2KA;2iv;2GA;;2lz;;2CA;2il;",
     "2JA;2JJA;;2is;2lc;2gs;2lh;2DDDA;2hh;2mo;2TA;2ja;2DA;2ly;2NA;2PA;2kd;2BA;;2mx;2MA;2YA;2RA;2LA;2VA;2SA;2HA;2xt;",
     "2RHA;1gk aq;-6;0KHUDAWADI d A;2AA;2I;2II;2U;2UU;2E;2AI;2O;2AU;2KA;2iv;2GA;2GGA;2lz;2hv;2CA;2il;2JA;2JJA;2pm;",
     "2is;2lc;2gs;2lh;2DDDA;2xt;2hh;2mo;2TA;2ja;2DA;2ly;2NA;2PA;2kd;2BA;2BBA;2mx;2MA;2YA;2RA;2LA;2VA;2hw;2SA;2HA;",
     "1g bd;1au g AA;3I;3II;3U;3UU;3E;3AI;3O;3AU;1g ip;2dj;-5;1w;2bk;2ax;2l;2z;2ao;2dp;2aj;2af;2be;-6;",
     "0GRANTHA g bh bd k;2bs;2bd;2cw;;1d A;2AA;2I;2II;2U;2UU;2ay R;3L;;;2EE;2AI;;;2OO;2AU;2KA;2iv;2GA;2lz;2hv;2CA;",
     "2il;2JA;2pm;2is;2lc;2gs;2lh;2hh;2mo;2TA;2ja;2DA;2ly;2NA;;2PA;2kd;2BA;2mx;2MA;2YA;2RA;;2LA;2sw;;2VA;2hw;2oo;",
     "2SA;2HA;;0bh BINDU y;0GRANTHA g ip;2gf;1au g AA;3I;3II;3U;3UU;3ay R;4RR;;;3EE;3AI;;;3OO;3AU;1g dj;;;1OM;-6;",
     "1AU mq aq;-5;1g PLUTA;1d VEDIC bd;3h+1;2ay RR;3LL;1au g ay L;4LL;;;0bh GRANTHA w;3bk;3ax;3l;3z;3ao;3dp;;;;",
     "2d A;3KA;3NA;3VI;3PA;-139;0NEWA d A;2AA;2I;2II;2U;2UU;2ay R;3RR;3L;3LL;2E;2AI;2O;2AU;2KA;2iv;2GA;2lz;2hv;",
     "2NGHA;2CA;2il;2JA;2pm;2is;2NYHA;2lc;2gs;2lh;2hh;2mo;2TA;2ja;2DA;2ly;2NA;2NHA;2PA;2kd;2BA;2mx;2MA;2MHA;2YA;2RA;",
     "2RHA;2LA;2LHA;2WA;2hw;2oo;2SA;2HA;1au g AA;3I;3II;3U;3UU;3ay R;4RR;4L;4LL;3E;3AI;3O;3AU;1g dj;2bs;2bd;2cw;2ip;",
     "2gf;2u bd;1OM;1SIDDHI;1na;1h+1;1ez;1GAP qi;1cs g;1w;2bk;2ax;2l;2z;2ao;2dp;2aj;2af;2be;1h ez;1xx aq;;",
     "1INSERTION g;1SANDHI aq;1d VEDIC bd;1g mg;2mh;"]

/-- Tirhuta and the scripts of eastern and southern India. -/
def tirhutaNames : Block where
  first := 0x11480
  lines :=
    ["0TIRHUTA ANJI;1d A;2AA;2I;2II;2U;2UU;2ay R;3RR;3L;3LL;2E;2AI;2O;2AU;2KA;2iv;2GA;2lz;2hv;2CA;2il;2JA;2pm;2is;",
     "2lc;2gs;2lh;2hh;2mo;2TA;2ja;2DA;2ly;2NA;2PA;2kd;2BA;2mx;2MA;2YA;2RA;2LA;2VA;2hw;2oo;2SA;2HA;1au g AA;3I;3II;",
     "3U;3UU;3ay R;4RR;4L;4LL;3E;3cz E;3AI;3O;3cz O;3AU;1g bs;2bd;2cw;2dj;2ip;2gf;1GVANG;1cs g;1OM;-8;1w;2bk;2ax;2l;",
     "2z;2ao;2dp;2aj;2af;2be;-166;0rc d A;2AA;2I;2II;2U;2UU;2ay R;3RR;3L;3LL;2E;2AI;2O;2AU;2KA;2iv;2GA;2lz;2hv;2CA;",
     "2il;2JA;2pm;2is;2lc;2gs;2lh;2hh;2mo;2TA;2ja;2DA;2ly;2NA;2PA;2kd;2BA;2mx;2MA;2YA;2RA;2LA;2VA;2hw;2oo;2SA;2HA;",
     "1au g AA;3I;3II;3U;3UU;3ay R;4RR;;;3E;3AI;3O;3AU;1g bs;2bd;2cw;2dj;2ip;2rc;1na;1h+1;1ek cd;2hg;",
     "1REPETITION aq-1;+2;1ji TEXT aq;1gk aq b TRIDENT n U-qq ORNAMENTS;6ev CRESCENTS;4RAYS+3;7h+1;7dq+1;3h dk;",
     "5b RAYS;3b h CRESCENTS;4dq+1;4nk+1;4SEPTUPLE+1;4wn n RAYS;6ax ENCLOSURES;6z+1;1d l-ak ei I;2ax+3;5II;2ei U;",
     "1au g+2;4UU;-34;0MODI d A;2AA;2I;2II;2U;2UU;2ay R;3RR;3L;3LL;2E;2AI;2O;2AU;2KA;2iv;2GA;2lz;2hv;2CA;2il;2JA;",
     "2pm;2is;2lc;2gs;2lh;2hh;2mo;2TA;2ja;2DA;2ly;2NA;2PA;2kd;2BA;2mx;2MA;2YA;2RA;2LA;2VA;2hw;2oo;2SA;2HA;2sw;",
     "1au g AA;3I;3II;3U;3UU;3ay R;4RR;4L;4LL;3E;3AI;3O;3AU;1g bd;2cw;2dj;2ARDHACANDRA;1na;1h+1;1cs g;1g HUVA;-11;",
     "1w;2bk;2ax;2l;2z;2ao;2dp;2aj;2af;2be;-6;0MONGOLIAN vo b iq;1fv vo;1h vo b iq;1dq+3;1vo b h+1;1fv vo b+1;4h+1;",
     "1ar vo;3b h iq;1SWIRL vo;3b iq;4h+1;1at+5;-19;0TAKRI d A;2AA;2I;2II;2U;2UU;2E;2AI;2O;2AU;2KA;2iv;2GA;2lz;2hv;",
     "2CA;2il;2JA;2pm;2is;2lc;2gs;2lh;2hh;2mo;2TA;2ja;2DA;2ly;2NA;2PA;2kd;2BA;2mx;2MA;2YA;2RA;2LA;2VA;2hw;2SA;2HA;",
     "2xt;1g bd;2cw;1au g AA;3I;3II;3U;3UU;3E;3AI;3O;3AU;1g dj;2ip;1d gw iv;1cs g;-6;1w;2bk;2ax;2l;2z;2ao;2dp;2aj;",
     "2af;2be;-54;0AHOM d KA;2iv;2hv;2NA;2TA;2ei+1;2PA;2kd;2BA;2MA;2JA;2il;2ja;2RA;2LA;2SA;2is;2HA;2A;2DA;2ly;2GA;",
     "2ei+1;2lz;2mx;2pm;2ei BA;;;1ds g br LA;4RA;4LIGATING+1;1au g A;3AA;3I;3II;3U;3UU;3E;3AW;3O;3AI;3AM;1g KILLER;",
     "-4;1w;2bk;2ax;2l;2z;2ao;2dp;2aj;2af;2be;1bn gu;2cm;1g c gk;2+1;2RULAI;1ad VI;1d CA;2lc;2gs;2lh;2hh;2mo;2sw;",
     "-185;0DOGRA d A;2AA;2I;2II;2U;2UU;2E;2AI;2O;2AU;2KA;2iv;2GA;2lz;2hv;2CA;2il;2JA;2pm;2is;2lc;2gs;2lh;2hh;2mo;",
     "2TA;2ja;2DA;2ly;2NA;2PA;2kd;2BA;2mx;2MA;2YA;2RA;2LA;2VA;2hw;2oo;2SA;2HA;2xt;1au g AA;3I;3II;3U;3UU;3ay R;4RR;",
     "3E;3AI;3O;3AU;1g bd;2cw;2dj;2ip;1cs g;-100;0WARANG CITI a NGAA;4A;4WI;4YU;4YA;4YO;4II;4UU;4E;4O;4ANG;4GA;4KO;",
     "4ENY;4YUJ;4UC;4ENN;4ODD;4TTE;4NUNG;4DA;4AT;4AM;4BU;4PU;4HIYO;4HOLO;4HORR;4HAR;4SSUU;4SII;4VIYO;2c d NGAA;4A;",
     "4WI;4YU;4YA;4YO;4II;4UU;4E;4O;4ANG;4GA;4KO;4ENY;4YUJ;4UC;4ENN;4ODD;4TTE;4NUNG;4DA;4AT;4AM;4BU;4PU;4HIYO;4HOLO;",
     "4HORR;4HAR;4SSUU;4SII;4VIYO;2w;3bk;3ax;3l;3z;3ao;3dp;3aj;3af;3be;2bn gu;3cm;3fg;3ki;3fx;3jg;3gy;3jx;3hz;-12;",
     "2OM;0DIVES AKURU d A;3AA;3I;3II;3U;3UU;3E;;;3O;;;3KA;3iv;3GA;3lz;3hv;3CA;3il;3JA;;3is;3lc;;3lh;3hh;3mo;3TA;",
     "3ja;3DA;3ly;3NA;3PA;3kd;3BA;3mx;3MA;3YA;3YYA;3RA;3LA;3VA;3hw;3oo;3SA;3HA;3sw;3ZA;2au g AA;4I;4II;4U;4UU;4E;;",
     "4AI;4O;;;2g bd;3bs;3HALANTA;2dj;2PREFIXED NASAL g;2br YA;2ah RA;2br+1;2g ip;2h na;2GAP qi;2ji TEXT aq;-9;2w;",
     "3bk;3ax;3l;3z;3ao;3dp;3aj;3af;3be;-70;0NANDINAGARI d A;2AA;2I;2II;2U;2UU;2ay R;3RR;;;2E;2AI;2O;2AU;2KA;2iv;",
     "2GA;2lz;2hv;2CA;2il;2JA;2pm;2is;2lc;2gs;2lh;2hh;2mo;2TA;2ja;2DA;2ly;2NA;2PA;2kd;2BA;2mx;2MA;2YA;2RA;2LA;2VA;",
     "2hw;2oo;2SA;2HA;2sw;2xt;1au g AA;3I;3II;3U;3UU;3ay R;4RR;;;3E;3AI;3O;3AU;1g bd;2cw;2dj;2gf;2rc;1HEADSTROKE;",
     "1au g ta;-27;0ZANABAZAR av d A;2au g I;4UE;4U;4E;4OE;4O;4AI;4AU;4ag I;3mq aq;2d KA;3iv;3GA;3lz;3hv;3CA;3il;",
     "3JA;3is;3lc;3gs;3lh;3hh;3mo;3TA;3ja;3DA;3ly;3NA;3PA;3kd;3BA;3mx;3MA;3rz;3sa;3DZA;3DZHA;3vf;3ZA;3 -A;3YA;3RA;",
     "3LA;3VA;3hw;3oo;3SA;3HA;3KSSA;2u ds aq;2g dj;3bs;4b iq;3jy+2;3bd;3cw;2CLUSTER-ah d RA;3-u d YA;5RA;5LA;5VA;",
     "2ah rb aq;2ws+2;2aq st;3SHAD;3h+1;3dc st;2ah h-LINED rb aq;2ws+4;2SUBJOINER;-8;0SOYOMBO d A;1au g I;3UE;3U;3E;",
     "3O;3OE;3AI;3AU;3ay R;4L;2mq aq;1d KA;2iv;2GA;2lz;2hv;2CA;2il;2JA;2pm;2is;2lc;2gs;2lh;2hh;2mo;2TA;2ja;2DA;2ly;",
     "2NA;2PA;2kd;2BA;2mx;2MA;2rz;2sa;2DZA;2vf;2ZA;2 -A;2YA;2RA;2LA;2VA;2hw;2oo;2SA;2HA;2KSSA;1g mg;2mh;",
     "1CLUSTER-ah d RA;4LA;4hw;4SA;1u ds g G;4K;4NG;4D;4N;4B;4M;4R;4L;4SH;4S;4 -A;1g bd;2cw;1qt aq;1SUBJOINER;",
     "1aq st;2SHAD;2h+1;2PLUTA;1rb aq b si n SUN n dq FLAME;8+1;7;1TERMINAL aq-1;+1;-13;0qu NATTILIK HI;3HII;3HO;",
     "3HOO;3HA;3HAA;3SHRI;3SHRII;3SHRO;3SHROO;3SHRA;3SHRAA;2SPE;2SPI;2SPO;2SPA;0PAU CIN HAU d PA;4KA;4LA;4MA;4DA;",
     "4ZA;4VA;4hv;4HA;4GA;4iv;4SA;4BA;4CA;4TA;4ja;4NA;4kd;4RA;4FA;4il;4A;4E;4I;4O;4U;4UA;4IA;4u P;5K;5T;5M;5N;5L;5W;",
     "5NG;5Y;3lr fh dc;5;3SANDHI dn;3lr fh dc u;5+1;3SANDHI dn+1;4fh dc;5;5dc u;5+1;3MID-LEVEL fh;3dn VARIANT;",
     "3MID-LEVEL fh dc u;6+1;3fn-of fh dc;6;3dn;3fn-of fh dc u;6+1;3dn+1;-263;0BHAIKSUKI d A;2AA;2I;2II;2U;2UU;",
     "2ay R;3RR;3L;;2E;2AI;2O;2AU;2KA;2iv;2GA;2lz;2hv;2CA;2il;2JA;2pm;2is;2lc;2gs;2lh;2hh;2mo;2TA;2ja;2DA;2ly;2NA;",
     "2PA;2kd;2BA;2mx;2MA;2YA;2RA;2LA;2VA;2hw;2oo;2SA;2HA;1au g AA;3I;3II;3U;3UU;3ay R;4RR;4L;;3E;3AI;3O;3AU;1g bs;",
     "2bd;2cw;2dj;2gf;1na;1h+1;1sd ek;1GAP qi-1;+1;-10;1w;2bk;2ax;2l;2z;2ao;2dp;2aj;2af;2be;1bn bk;2ax;2l;2z;2ao;",
     "2dp;2aj;2af;2be;2gu;2cm;2fg;2ki;2fx;2jg;2gy;2jx;2hz;1HUNDREDS UNIT aq;;;;0MARCHEN rb+1;1aq SHAD;1d KA;2iv;2GA;",
     "2hv;2CA;2il;2JA;2is;2TA;2ja;2DA;2NA;2PA;2kd;2BA;2MA;2rz;2sa;2DZA;2WA;2vf;2ZA;2 -A;2YA;2RA;2LA;2hw;2SA;2HA;2A;;",
     ";1pl d KA;3iv;3GA;3hv;3CA;3il;3JA;3is;3TA;3ja;3DA;3NA;3PA;3kd;3BA;3MA;3rz;3sa;3DZA;3WA;3vf;3ZA;;3YA;3RA;3LA;",
     "3hw;3SA;3HA;3A;1au g AA;3I;3U;3E;3O;1g bd;2bs;-73;0MASARAM GONDI d A;3AA;3I;3II;3U;3UU;3E;;3AI;3O;;3AU;3KA;",
     "3iv;3GA;3lz;3hv;3CA;3il;3JA;3pm;3is;3lc;3gs;3lh;3hh;3mo;3TA;3ja;3DA;3ly;3NA;3PA;3kd;3BA;3mx;3MA;3YA;3RA;3LA;",
     "3VA;3hw;3oo;3SA;3HA;3sw;3KSSA;3JNYA;3TRA;2au g AA;4I;4II;4U;4UU;4ay R;;;;4E;;4AI;4O;;4AU;2g bd;3cw;3ip;3jy;",
     "3HALANTA;2dj;2REPHA;2RA-KARA;-8;2w;3bk;3ax;3l;3z;3ao;3dp;3aj;3af;3be;-6;0GUNJALA GONDI d A;3AA;3I;3II;3U;3UU;;",
     "3EE;3AI;;3OO;3AU;3YA;3VA;3BA;3mx;3MA;3KA;3iv;3TA;3ja;3LA;3GA;3lz;3DA;3ly;3NA;3CA;3il;3lc;3gs;3sw;3JA;3pm;3lh;",
     "3hh;3hv;3PA;3kd;3HA;3RA;3SA;2au g AA;4I;4II;4U;4UU;;4EE;4AI;;4OO;4AU;2g bd;3cw;2dj;2OM;-7;2w;3bk;3ax;3l;3z;",
     "3ao;3dp;3aj;3af;3be;-310;0MAKASAR d KA;2GA;2hv;2PA;2BA;2MA;2TA;2DA;2NA;2CA;2JA;2is;2YA;2RA;2LA;2VA;2SA;2A;",
     "1ANGKA;1au g I;3U;3E;3O;1PASSIMBANG;1ji gk;-183;0LISU d YHA;-15;0TAMIL fb bk l-hp-n-TWENTIETH;",
     "3bk-hp-n-SIXTIETH;3EIGHTIETH;3jg-ty;3FORTIETH;3fg-oz;2l EIGHTIETHS;3jg-FOURTHS;2bk TWENTIETH;3mz-1;+1;3TENTH;",
     "3gx;2l TWENTIETHS;3tl;2bk FIFTH;3du;3ct-1;+1;2l im;2DOWNSCALING FACTOR KIIZH;1g NEL;2CEVITU;2AAZHAAKKU;",
     "2UZHAKKU;2MUUVUZHAKKU;2KURUNI;2PATHAKKU;2MUKKURUNI;2KAACU;2PANAM;2PON;2VARAAKAN;2PAARAM;2KUZHI;2VELI;",
     "1WET CULTIVATION g;1DRY+2;1LAND+1;1SALT PAN+1;1TRADITIONAL CREDIT+1;2bn+1;1CURRENT+1;1n ODD+1;1SPENT+1;",
     "1TOTAL+1;1IN POSSESSION+1;1STARTING sj+1;1g MUTHALIYA;2VAKAIYARAA;-13;1bf ji TEXT;"]

end RpcClients.Text.Name
