import RpcClients.Text.Name.Block

/-! # Names of European letters, marks and signs -/

namespace RpcClients.Text.Name

/-- Latin letters, digits and punctuation. -/
def latinNames : Block where
  first := 0x20
  lines :=
    ["0qb;0cb aq;0hm+1;0bn g;0tw+1;0wl+1;0nc;0jw;0i cc;0e+1;0eu;0bb g;0ez;0jd-io;0cp;0kb;0w;1bk;1ax;1l;1z;1ao;1dp;",
     "1aj;1af;1be;0hx;0hl;0as g;0es+1;0az-ma+1;0dl aq;0qa;0dm a A;+25;0i av bp;0ff;0e av bp;0al er;0fn et;0dg er;",
     "0dm c d A;+25;0i jq bp;0m et;0e jq bp;0bz;-33;0NO-BREAK qb;0ar cb aq;0CENT g;0POUND+1;0rt+1;0YEN+1;0zw hg;",
     "0gk g;0ba;0COPYRIGHT g;0FEMININE ORDINAL lf;0i-ap h dw hm aq;0oy g;0wc jd;0REGISTERED g;0cu;0DEGREE g;",
     "0bb-io+1;0gg ax;1l;0ch er;0MICRO g;0PILCROW+1;0ab cd;0ha;0gg bk;0MASCULINE ORDINAL lf;0e-ap h dw hm aq;",
     "0VULGAR fb bk du;3ct;2l im;0ar dl aq;0dm a A b dg;5ch;5al;5bz;5ba;5dk k;3AE;3C b ha;3E b dg;5ch;5al;5ba;",
     "3I b dg;5ch;5al;5ba;3ETH;3N b bz;3O b dg;5ch;5al;5bz;5ba;0fd g;0dm a O b ai;3U b dg;5ch;5al;5ba;3Y b ch;",
     "3THORN;1c d SHARP S;3A b dg;5ch;5al;5bz;5ba;5dk k;3AE;3C b ha;3E b dg;5ch;5al;5ba;3I b dg;5ch;5al;5ba;3ETH;",
     "3N b bz;3O b dg;5ch;5al;5bz;5ba;0no g;0dm c d O b ai;3U b dg;5ch;5al;5ba;3Y b ch;3THORN;3Y b ba;1a A b cu;",
     "1c+4;1a A b fi;1c+4;1a A b qw;1c+4;1a C b ch;1c+4;1a C b al;1c+4;1a C b cd k;1c+5;1a C b ku;1c+4;1a D+2;1c+4;",
     "1a D b ai;1c+4;1a E b cu;1c+4;1a E b fi;1c+4;1a E b cd k;1c+5;1a E b qw;1c+4;1a E b ku;1c+4;1a G b al;1c+4;",
     "1a G b fi;1c+4;1a G b cd k;1c+5;1a G b ha;1c+4;1a H b al;1c+4;1a H b ai;1c+4;1a I b bz;1c+4;1a I b cu;1c+4;",
     "1a I b fi;1c+4;1a I b qw;1c+4;1a I b cd k;1c d iu I;1aa de IJ;1c+2;1a J b al;1c+4;1a K b ha;1c+4;3KRA;",
     "1a L b ch;1c+4;1a L b ha;1c+4;1a L b ku;1c+4;1a L b ab cd;1c+5;1a L b ai;1c+4;1a N b ch;1c+4;1a N b ha;1c+4;",
     "1a N b ku;1c+4;4PRECEDED BY jw;1a ENG;1c+2;1a O b cu;1c+4;1a O b fi;1c+4;1a O b h ch;1c+5;1aa de OE;1c+2;",
     "1a R b ch;1c+4;1a R b ha;1c+4;1a R b ku;1c+4;1a S b ch;1c+4;1a S b al;1c+4;1a S b ha;1c+4;1a S b ku;1c+4;",
     "1a T b ha;1c+4;1a T b ku;1c+4;1a T b ai;1c+4;1a U b bz;1c+4;1a U b cu;1c+4;1a U b fi;1c+4;1a U b dk k;1c+5;",
     "1a U b h ch;1c+5;1a U b qw;1c+4;1a W b al;1c+4;1a Y+2;1c+4;1a Y b ba;3Z b ch;1c+4;1a Z b cd k;1c+5;1a Z b ku;",
     "1c+4;3dc S;3B b ai;1a B b bx;5TOPBAR;1c+4;1a fh dp;1c+3;1a di O;3C b bx;1c+4;1a AFRICAN D;3D b bx;5TOPBAR;",
     "1c+4;3at jr;1a ag E;3tn;3di E;3F b bx;1c+4;1a G+2;3js;1c d HV;1a jo;3I b ai;3K b bx;1c+4;3L b hg;3LAMBDA b ai;",
     "1a at M;3N b i bx;1c d N b dc e LEG;1a O b ab bz;5oa;1c+4;1a OI;1c+2;1a P b bx;1c+4;1d YR;1a fh ax;1c+3;",
     "1a ESH;1d ag ESH sc;1c d T b pk bx;1a T b+1;1c+4;1a T b cq+1;3U b oa;1c+4;1a ea;3V b bx;3Y+2;1c+4;1a Z b ai;",
     "1c+4;1a EZH;4ag;1c+3;4b gj;1d ax b ai;1a fh ao;1c+3;1d ar dn b ai;2WYNN;2DENTAL CLICK;2LATERAL+1;2ALVEOLAR+1;",
     "2cq+1;1a DZ b ku;3D b c d Z+2;1c d DZ+2;1a LJ;3L b c d J;1c d LJ;1a NJ;3N b c d J;1c d NJ;1a A b ku;1c+4;",
     "1a I+2;1c+4;1a O+2;1c+4;1a U+2;1c+4;1a U b ba n cu;1c+6;1a U b ba n ch;1c+6;1a U b ba n ku;1c+6;",
     "1a U b ba n dg;1c+6;3at E;1a A b ba n cu;1c+6;1a A b cd k+2;1c+7;1a AE b+1;1c+4;1a G b ai;1c+4;1a G b ku;1c+4;",
     "1a K+2;1c+4;1a O b qw;1c+4;1a O b qw n cu;1c+6;1a EZH b ku;1c+4;3J+2;1a DZ;3D b c d Z;1c d DZ;1a G b ch;1c+4;",
     "1a HWAIR;3WYNN;3N b dg;1c+4;1a A b dk k n ch;1c+7;1a AE b+1;1c+4;1a O b ai n+1;1c+6;1a A b h dg;1c+5;",
     "1a A b ar fi;1c+5;1a E b h dg;1c+5;1a E b ar fi;1c+5;1a I b h dg;1c+5;1a I b ar fi;1c+5;1a O b h dg;1c+5;",
     "1a O b ar fi;1c+5;1a R b h dg;1c+5;1a R b ar fi;1c+5;1a U b h dg;1c+5;1a U b ar fi;1c+5;1a S b ez y;1c+5;",
     "1a T+3;1c+5;1a YOGH;1c+2;1a H b ku;1c+4;1a N b dc e LEG;1c d D b qp;1a OU;1c+2;1a Z b bx;1c+4;1a A b cd k;",
     "1c+5;1a E b ha;1c+4;1a O b ba n cu;1c+6;1a O b bz+2;1c+6;1a O b cd k;1c+5;1a O b cd k n cu;1c+7;1a Y b+1;1c+4;",
     "3L b qp;3N+2;3T+2;3iu J;3DB fl;3QP+1;1a A b ai;3C+2;1c+4;1a L b hg;3T b ca ai;1c d S b SWASH gj;3Z+3;1a dn;",
     "1c+3;1a B b ai;3U hg;3at V;3E b ai;1c+4;1a J+2;1c+4;1a c Q b bx gj;1c d+4;1a R b ai;1c+4;1a Y+2;1c+4;"]

/-- Phonetic letters, modifiers and combining marks. -/
def phoneticNames : Block where
  first := 0x250
  lines :=
    ["0dm c d at A;3fw;3at+1;3B b bx;3di O;3C b qp;3D b gj;5bx;3ag E;3tn;4b bx;3di E;3ag+2;6b bx;3ep ag di E;",
     "3iu J b ai;3G b bx;3gv G;1d c aa G;1c d js;3RAMS oa;3at H;3H b bx;3HENG+2;3I b ai;3jo;1d c aa I;",
     "1c d L b ab bz;5zx;5cq bx;3LEZH;3at M;5b dc LEG;3M b bx;3N b i+1;5cq+1;1d c aa N;1c d ql O;1d c aa OE;",
     "1c d ep fq;3ub;3at R;5b dc LEG;6bx;3R b dc LEG;5gj;5rl;3ag+3;1d c aa R;4ar R;1c d S b bx;3ESH;3iu J b ai n bx;",
     "3SQUAT ag ESH;3ESH b qp;3at T;3T b cq bx;3U hg;3ea;3V b bx;3at V;4W;4Y;1d c aa Y;1c d Z b cq bx;5qp;3EZH;",
     "4b qp;1d dn;2PHARYNGEAL li FRICATIVE;2ar dn;2STRETCHED C;2BILABIAL CLICK;2c aa B;1c d ep di E;1d c aa G b bx;",
     "4H;1c d J b hq-gj;3at K;1d c aa L;1c d Q b bx;1d dn b ai;2ag+4;1c d DZ fl;3DEZH+1;3DZ fl b qp;3TS fl;3TESH+1;",
     "3TC fl b qp;3FENG fl;3LS+1;3LZ+1;1d BILABIAL PERCUSSIVE;2BIDENTAL+1;1c d at H b rl;7n gj;0ci d c H;4b bx;3J;",
     "3R;3at R;5b bx;3aa ar R;3W;3Y;2PRIME;2h+1;2at ez;2jw;2ag ez;2e ct dk;2i+2;2dn;2ag+2;2i eb;2e+1;2UP+1;2bc+1;",
     "2al er;0ku;0ci d m et;2cu;2ch er;2dg+1;2fn m et;3cu;3dg er;3ch+1;2ia hx;2ct+2;2CENTRED e ct dk;3i+2;2UP nz;",
     "2bc+1;2bb g;2io+1;0fi;0cd k;0dk+1;0qw;0c bz;0h ch er;0ci d RHOTIC bx;2gn er;2c js;3L;3S;3X;3ag dn;",
     "2xw-cx fh hg;2cx+2;2MID+2;2fn+2;2xw-fn+2;2YIN DEPARTING fh aq;2ux+3;2VOICING;2UNASPIRATED;2h jw;2fn bc eb;",
     "3UP+1;3i+1;3e+1;3dk;2ab dg er;3h+2;4ch+1;2fn bz;2fy hx;2vq cx fh;2END+2;2vq fn+1;2END+2;2SHELF;2di+1;2fn i p;",
     "0bh dg er;1ch+1;1al+1;1bz;1cu;1tv;1fi;1cd k;1ba;1bx k;1dk+1;1h ch er;1ku;1m et k;1h+3;2dg er;1bs;1ar fi;",
     "1at ez k;1+2;1ag+2;1ez k e;1dg er y;1ch+2;1i nz+1;1e+2;1i dw k;1oa;1i ct dk y;1UP nz+1;1bc+2;1bb g+1;1io+2;",
     "1PALATALIZED bx+1;1cq+2;1cd+1;1ba+1;1dk+1;1ez+1;1ha;1qw;1m et y;1xb+1;1ar h ARCH+1;1ku+1;1al er+1;1fi+1;1ar+2;",
     "1bz+1;1cu+1;1fn et;1h+2;1bz mb;1cz ai+1;1dc+2;1cz kb+1;1dc+2;1e ct dk y;1ar xb+1;1av+1;1SEAGULL+1;1X k;1m bz;",
     "1h tv;1dg fh aq;1ch+2;1kt bw;2KORONIS;2hn TONOS;2ey;1xb k;1es g y;1h m et+1;1i dw+1;1oy bz k;1HOMOTHETIC+1;",
     "1mt bo+1;1i e p y;1ac+2;1GRAPHEME ue;1e eb k;1i ct dk+1;1FERMATA;1X y;1i eb+1;1e+2;3n UP eb+1;2ct dk k;",
     "1cd k e;1eu y;1h dk+1;1sn k;1h fi y;3;2cu;3y;2bz;2ar fi;2f p y;1dm c d A;4E;4I;4O;4U;4C;4D;4H;4M;4R;4T;4V;4X;"]

/-- Greek and Coptic letters. -/
def greekNames : Block where
  first := 0x370
  lines :=
    ["0kt a HETA;1c+2;1a gw SAMPI;1c+3;1oc g;1bi+2;1a PAMPHYLIAN DIGAMMA;1c+3;;;1ey;1c ag LUNATE mk ad;2ev+3;2ag+4;",
     "1dl aq;1a YOT;-4;1TONOS;1hn+1;1a fw b+1;1ANO TELEIA;1a eq b TONOS;3xc+2;3jo+2;;3gm+2;;3ea+2;3fq+2;",
     "1c d jo b hn n+1;1a fw;3px;3js;3jr;3eq;3tz;3xc;3ic;3jo;3kv;3op;3MU;3NU;3XI;3gm;3PI;3sx;;3mk;3TAU;3ea;3ub;3uu;",
     "3PSI;3fq;3jo b hn;3ea+2;1c d fw b TONOS;3eq+2;3xc+2;3jo+2;3ea b hn n+1;3fw;3px;3js;3jr;3eq;3tz;3xc;3ic;3jo;",
     "3kv;3op;3MU;3NU;3XI;3gm;3PI;3sx;3u mk;3+1;3TAU;3ea;3ub;3uu;3PSI;3fq;3jo b hn;3ea+2;3gm b TONOS;3ea+2;3fq+2;",
     "1aa KAI ad;1px+1;1ic+1;1ea b bx+1;3ch n+2;3ba+3;1ub+1;1PI+1;1KAI+1;1d gw KOPPA;1c+3;1d STIGMA;1c+2;1d DIGAMMA;",
     "1c+2;1d KOPPA;1c+2;1d SAMPI;1c+2;0COPTIC a SHEI;1c+2;1a FEI;1c+2;1a KHEI;1c+2;1a HORI;1c+2;1a GANGIA;1c+2;",
     "1a SHIMA;1c+2;1a DEI;1c+2;0kt kv ad;1sx+1;1LUNATE mk+1;1d YOT;1aa ic ad;1LUNATE eq+1;1ag+3;1a SHO;1c+2;",
     "1aa LUNATE mk ad;2d SAN;1c+2;1sx b ai ad;1aa ag LUNATE mk+1;2ev+3;2ag+4;"]

/-- Cyrillic and Armenian letters. -/
def cyrillicNames : Block where
  first := 0x400
  lines :=
    ["0hf a IE b dg;3IO;3DJE;3GJE;3sb IE;3DZE;3BYELORUSSIAN-sb I;3YI;3JE;3LJE;3NJE;3TSHE;3KJE;3I b dg;3cz U;3DZHE;",
     "3A;3BE;3VE;3GHE;3DE;3IE;3ZHE;3ZE;3I;3cz I;3KA;3EL;+2;3O;3PE;3ER;+1;3TE;3U;3EF;3HA;3TSE;3zp;3hw;3SHCHA;3zv g;",
     "3zu;3wc g;3E;3YU;3YA;1c d A;3BE;3VE;3GHE;3DE;3IE;3ZHE;3ZE;3I;3cz I;3KA;3EL;+2;3O;3PE;3ER;+1;3TE;3U;3EF;3HA;",
     "3TSE;3zp;3hw;3SHCHA;3zv g;3zu;3wc g;3E;3YU;3YA;3IE b dg;3IO;3DJE;3GJE;3sb IE;3DZE;3BYELORUSSIAN-sb I;3YI;3JE;",
     "3LJE;3NJE;3TSHE;3KJE;3I b dg;3cz U;3DZHE;1a fq;1c+2;1a YAT;1c+2;1a kf E;1c+3;1a fa YUS;1c+3;1a kf+2;1c+4;",
     "1a BIG+1;1c+3;1a kf+2;1c+4;1a KSI;1c+2;1a PSI;1c+2;1a FITA;1c+2;1a IZHITSA;1c+2;1a IZHITSA b h dg er;1c+6;",
     "1a UK;1c+2;1a rq fq;1c+3;1a fq b TITLO;1c+4;1a OT;1c+2;1a KOPPA;1c+2;1po g;0bh hf TITLO;2PALATALIZATION;",
     "2bu PNEUMATA;2bv+1;2POKRYTIE;2hp po g;2xv+1;0hf a cz I b gj;1c+5;1a SEMISOFT g;1c+3;1a ER b TICK;1c+4;",
     "1a GHE b UPTURN;1c+4;1a GHE b ai;1c+4;1a GHE b ab bx;1c+5;1a ZHE b gc;1c+4;1a ZE+2;1c+4;1a KA+2;1c+4;",
     "1a KA b m ai;1c+5;1a KA b+1;1c+4;1a BASHKIR KA;1c+3;1a EN b gc;1c+4;1aa de EN GHE;1c+3;1a PE b ab bx;1c+5;",
     "1a vt HA;1c+3;1a ES b gc;1c+4;1a TE+2;1c+4;1a el U;1c+3;1a el U b ai;1c+5;1a HA b gc;1c+4;1aa de TE TSE;1c+3;",
     "1a zp b gc;1c+4;1a zp b m ai;1c+5;1a SHHA;1c+2;1a vt zp;1c+3;1a vt zp b gc;1c+5;1d PALOCHKA;1a ZHE b fi;1c+4;",
     "1a KA b bx;1c+4;1a EL b gj;1c+4;1a EN b bx;1c+4;1a EN b gj;1c+4;1a KHAKASSIAN zp;1c+3;1a EM b gj;1c+4;",
     "3PALOCHKA;1a A b fi;1c+4;1a A b ba;1c+4;1aa de A IE;1c+3;1a IE b fi;1c+4;1a tn;1c+2;1a tn b ba;1c+4;1a ZHE+2;",
     "1c+4;1a ZE+2;1c+4;1a vt DZE;1c+3;1a I b cu;1c+4;1a I b ba;1c+4;1a O+2;1c+4;1a ql O;1c+3;1a ql O b ba;1c+5;",
     "1a E+2;1c+4;1a U b cu;1c+4;1a U b ba;1c+4;1a U b h ch;1c+5;1a zp b ba;1c+4;1a GHE b gc;1c+4;1a zu b ba;1c+4;",
     "1a GHE b ai n bx;1c+6;1a HA b+1;1c+4;1a HA b ai;1c+4;1a KOMI DE;1c+3;1a KOMI DJE;1c+3;1a KOMI ZJE;1c+3;",
     "1a KOMI DZJE;1c+3;1a KOMI LJE;1c+3;1a KOMI NJE;1c+3;1a KOMI SJE;1c+3;1a KOMI TJE;1c+3;1a ag ZE;1c+3;",
     "1a EL b bx;1c+4;1a LHA;1c+2;1a RHA;1c+2;1a YAE;1c+2;1a QA;1c+2;1a WE;1c+2;1a ALEUT KA;1c+3;1a EL b ab bx;1c+5;",
     "1a EN+3;1c+5;1a PE b gc;1c+4;1a SHHA+2;1c+4;1a EN b i bx;1c+5;1a DZZHE;1c+2;1a DCHE;1c+2;1a EL b gc;1c+4;;",
     "0yb a AYB;3BEN;3GIM;3DA;3ECH;3ZA;3EH;3ET;3TO;3ZHE;3INI;3LIWN;3XEH;3CA;3KEN;3HO;3JA;3GHAD;3CHEH;3MEN;3YI;3NOW;",
     "3hw;3VO;3il;3PEH;3JHEH;3RA;3SEH;3VEW;3TIWN;3tq;3CO;3YIWN;3PIWR;3KEH;3OH;3va;;;1ci d i ct dk;1jw;1EMPHASIS aq;",
     "1cb+1;1ez;1dl aq;1cs+1;1c d at AYB;3+1;3BEN;3GIM;3DA;3ECH;3ZA;3EH;3ET;3TO;3ZHE;3INI;3LIWN;3XEH;3CA;3KEN;3HO;",
     "3JA;3GHAD;3CHEH;3MEN;3YI;3NOW;3hw;3VO;3il;3PEH;3JHEH;3RA;3SEH;3VEW;3TIWN;3tq;3CO;3YIWN;3PIWR;3KEH;3OH;3va;",
     "2de ECH YIWN;2d YI b ai;1cp;1jd;;;0e-uj yb ETERNITY g;0i+4;0yb DRAM+1;"]

/-- Phonetic extensions and further combining marks. -/
def phoneticExtensionNames : Block where
  first := 0x1D00
  lines :=
    ["0dm d c aa A;4AE;1c d at+1;1d c aa ql B;4C;4D;4ETH;4E;1c d at di E;4I;1d c aa J;4K;4L b ai;4M;4ag N;4O;4di O;",
     "1c d my O;4di O;4O b ai;3at OE;1d c aa OU;1c d ne ct O;3eg+2;1d c aa P;4ag R;4at R;4T;4U;1c d my U;",
     "4DIAERESIZED U;4at M;1d c aa V;4W;4Z;4EZH;2li LARYNGEAL SPIRANT;2ra;0kt d c aa js;4op;4PI;4sx;4PSI;",
     "0hf d c aa EL;0ci d aa A;3AE;3B;3ql B;3D;3E;3ag E;3G;+7;3ag N;3O;3OU;3P;3R;3T;3U;3W;2c A;3at A;3fw;3at AE;3B;",
     "3D;3E;3tn;3di E;3at+2;3G;3at I;3K;3M;3ENG;3O;3di O;3ne ct O;3eg+2;3P;3T;3U;3my U;3at M;3V;3ra;3px;3kt js;3jr;",
     "3kt ub;3uu;0dm nd c d I;4R;4U;4V;0kt nd c d px;4js;4sx;4ub;4uu;0dm c d UE;3B b ab bz;3D+3;3F+3;3M+3;3N+3;3P+3;",
     "3R+3;5rl n+2;3S b+2;3T+3;3Z+3;3at G;0ci d hf EN;0dm c d mc G;3TH b STRIKETHROUGH;2a I b ai;2d jo+2;3P+2;",
     "2a U+2;2d ea+2;3B b pk bx;3D+3;3F+3;3G+3;3K+3;3L+3;3M+3;3N+3;3P+3;3R+3;3S+3;3ESH+3;3V+3;3X+3;3Z+3;3A b cq+1;",
     "3fw+3;3D b bx n gj;3E b cq bx;3di+4;3ag+5;3tn+3;3I+3;3di O+3;3ESH+3;3U+3;3EZH+3;0ci d c at fw;3C;4b qp;3ETH;",
     "3ag di E;3F;3iu J b ai;3gv G;3at H;3I b ai;3jo;3aa I;5b ai;3J b hq-gj;3L b cq bx;5pk+1;3aa L;3M b bx;",
     "3at M b dc LEG;3N b i bx;5cq+1;3aa N;3ql O;3ub;3S b bx;3ESH;3T b pk bx;3U hg;3ea;3aa U;3V b bx;3at V;3Z;",
     "4b cq bx;5qp;3EZH;3ic;0bh ev dg er;2ch+1;1SNAKE y;1SUSPENSION aq;1cu-ch;1dg-cu;1cu-dg;1ch-cu;1dg-ch-dg;",
     "1ch-dg-ch;1dm c d R y;1fi-cu;1cu-fi;1h al k;1qw+1;1sn y;1IS+1;1UR k;1US+1;1dm c d FLATTENED di A+1;4AE;4AO;",
     "4AV;4C ha;4mc D;4ETH;4G;2d c aa G;2c d K;4L;2d c aa L;5M;2c d N;2d c aa N;5R;2c d R ROTUNDA;4S;4dc S;4Z;4fw;",
     "4B;4px;4tn;4F;4L b h ab bz;4O b bl uk ai;4P;4ESH;4U b bl uk ai;4W;4A b ba;4O+2;4U+2;1UP nz k;1wd k e;3i;1cd+2;",
     "1WIDE ar xb y;1cd y i;1DELETION aq;1h ar fi y;1mt bo+1;1i eb k;1e eb n bc eb y;"]

/-- Additional Latin letters. -/
def latinAdditionNames : Block where
  first := 0x1E00
  lines :=
    ["0dm a A b dk y;1c+5;1a B b cd k;1c+5;1a B b cd y;1c+5;1a B b et+1;1c+5;1a C b ha n ch;1c+6;1a D b cd k;1c+5;",
     "1a D b cd y;1c+5;1a D b et+1;1c+5;1a D b ha;1c+4;1a D b al y;1c+5;1a E b cu n dg;1c+6;1a E b cu n ch;1c+6;",
     "1a E b al y;1c+5;1a E b bz+1;1c+5;1a E b ha n fi;1c+6;1a F b cd k;1c+5;1a G b cu;1c+4;1a H b cd k;1c+5;",
     "1a H b cd y;1c+5;1a H b ba;1c+4;1a H b ha;1c+4;1a H b fi y;1c+5;1a I b bz+1;1c+5;1a I b ba n ch;1c+6;1a K b+1;",
     "1c+4;1a K b cd y;1c+5;1a K b et+1;1c+5;1a L b cd+1;1c+5;1a L b cd y n cu;1c+7;1a L b et y;1c+5;1a L b al+1;",
     "1c+5;1a M b ch;1c+4;1a M b cd k;1c+5;1a M b cd y;1c+5;1a N b cd k;1c+5;1a N b cd y;1c+5;1a N b et+1;1c+5;",
     "1a N b al+1;1c+5;1a O b bz n ch;1c+6;1a O b bz n ba;1c+6;1a O b cu n dg;1c+6;1a O b cu n ch;1c+6;1a P b+1;",
     "1c+4;1a P b cd k;1c+5;1a R+3;1c+5;1a R b cd y;1c+5;1a R b cd y n cu;1c+7;1a R b et y;1c+5;1a S b cd k;1c+5;",
     "1a S b cd y;1c+5;1a S b ch n cd k;1c+7;1a S b ku+3;1c+7;1a S b cd y+3;1c+8;1a T b+2;1c+5;1a T b cd y;1c+5;",
     "1a T b et+1;1c+5;1a T b al+1;1c+5;1a U b ba+1;1c+5;1a U b bz+1;1c+5;1a U b al+1;1c+5;1a U b bz n ch;1c+6;",
     "1a U b cu n ba;1c+6;1a V b bz;1c+4;1a V b cd y;1c+5;1a W b dg;1c+4;1a W b ch;1c+4;1a W b ba;1c+4;1a W b cd k;",
     "1c+5;1a W b cd y;1c+5;1a X b cd k;1c+5;1a X b ba;1c+4;1a Y b cd k;1c+5;1a Z b al;1c+4;1a Z b cd y;1c+5;",
     "1a Z b et+1;1c+5;3H+3;3T b ba;3W b dk k;3Y+3;3A b e ct dk;3dc S b cd k;6ca ai;6cx+1;1a SHARP S;1c d jr;",
     "1a A b cd y;1c+5;1a A b bx k;1c+5;1a A b al n ch;1c+6;1a A b al n dg;1c+6;1a A b al n bx k;1c+7;",
     "1a A b al n bz;1c+6;1a A b al n cd y;1c+7;1a A b fi n ch;1c+6;1a A b fi n dg;1c+6;1a A b fi n bx k;1c+7;",
     "1a A b fi n bz;1c+6;1a A b fi n cd y;1c+7;1a E b+2;1c+5;1a E b bx k;1c+5;1a E b bz;1c+4;1a E b al n ch;1c+6;",
     "1a E b al n dg;1c+6;1a E b al n bx k;1c+7;1a E b al n bz;1c+6;1a E b al n cd y;1c+7;1a I b bx k;1c+5;",
     "1a I b cd y;1c+5;1a O+3;1c+5;1a O b bx k;1c+5;1a O b al n ch;1c+6;1a O b al n dg;1c+6;1a O b al n bx k;1c+7;",
     "1a O b al n bz;1c+6;1a O b al n cd y;1c+7;1a O b oa n ch;1c+6;1a O b oa n dg;1c+6;1a O b oa n bx k;1c+7;",
     "1a O b oa n bz;1c+6;1a O b oa n cd y;1c+7;1a U b+2;1c+5;1a U b bx k;1c+5;1a U b oa n ch;1c+6;1a U b oa n dg;",
     "1c+6;1a U b oa n bx k;1c+7;1a U b oa n bz;1c+6;1a U b oa n cd y;1c+7;1a Y b dg;1c+4;1a Y b cd y;1c+5;",
     "1a Y b bx k;1c+5;1a Y b bz;1c+4;1a ab-WELSH LL;1c+4;1a ab-WELSH V;1c+4;1a Y b sc;1c+4;"]

/-- Greek letters with several marks. -/
def greekExtensionNames : Block where
  first := 0x1F00
  lines :=
    ["0kt c d fw b bv;5bu;5bv n em;5bu+2;5bv n go;5bu+2;5bv n bw;5bu+2;1a fw b bv;5bu;5bv n em;5bu+2;5bv n go;5bu+2;",
     "5bv n bw;5bu+2;1c d eq b bv;5bu;5bv n em;5bu+2;5bv n go;5bu+2;;;1a eq b bv;5bu;5bv n em;5bu+2;5bv n go;5bu+2;;",
     ";1c d xc b bv;5bu;5bv n em;5bu+2;5bv n go;5bu+2;5bv n bw;5bu+2;1a xc b bv;5bu;5bv n em;5bu+2;5bv n go;5bu+2;",
     "5bv n bw;5bu+2;1c d jo b bv;5bu;5bv n em;5bu+2;5bv n go;5bu+2;5bv n bw;5bu+2;1a jo b bv;5bu;5bv n em;5bu+2;",
     "5bv n go;5bu+2;5bv n bw;5bu+2;1c d gm b bv;5bu;5bv n em;5bu+2;5bv n go;5bu+2;;;1a gm b bv;5bu;5bv n em;5bu+2;",
     "5bv n go;5bu+2;;;1c d ea b bv;5bu;5bv n em;5bu+2;5bv n go;5bu+2;5bv n bw;5bu+2;;1a ea b bu;;6n em;;7go;;7bw;",
     "1c d fq b bv;5bu;5bv n em;5bu+2;5bv n go;5bu+2;5bv n bw;5bu+2;1a fq b bv;5bu;5bv n em;5bu+2;5bv n go;5bu+2;",
     "5bv n bw;5bu+2;1c d fw b em;5go;3eq b em;5go;3xc b em;5go;3jo b em;5go;3gm b em;5go;3ea b em;5go;3fq b em;5go;",
     ";;3fw b bv n ey;5bu+2;5bv n em+2;5bu+4;5bv n go+2;5bu+4;5bv n bw+2;5bu+4;1a fw b bv n id;5bu+2;5bv n em+2;",
     "5bu+4;5bv n go+2;5bu+4;5bv n bw+2;5bu+4;1c d xc b bv n ey;5bu+2;5bv n em+2;5bu+4;5bv n go+2;5bu+4;5bv n bw+2;",
     "5bu+4;1a xc b bv n id;5bu+2;5bv n em+2;5bu+4;5bv n go+2;5bu+4;5bv n bw+2;5bu+4;1c d fq b bv n ey;5bu+2;",
     "5bv n em+2;5bu+4;5bv n go+2;5bu+4;5bv n bw+2;5bu+4;1a fq b bv n id;5bu+2;5bv n em+2;5bu+4;5bv n go+2;5bu+4;",
     "5bv n bw+2;5bu+4;1c d fw b xd;5cu;5em n ey;5+1;5go n+1;;5bw;6n ey;1a fw b xd;5cu;5em;5go;5id;1KORONIS;1id;1bv;",
     "1bw;1hn n+1;1c d xc b em n ey;5+1;5go n+1;;5bw;6n ey;1a eq b em;5go;3xc b em;5go;5id;1bv n em;3go;3bw;",
     "1c d jo b xd;5cu;5hn n em;7go;;;5bw;5hn n+1;1a jo b xd;5cu;5em;5go;;1bu n em;3go;3bw;1c d ea b xd;5cu;",
     "5hn n em;7go;3sx b bv;5bu;3ea b bw;5hn n+1;1a ea b xd;5cu;5em;5go;3sx b bu;1hn n em;3go;1em;;;",
     "1c d fq b em n ey;5+1;5go n+1;;5bw;6n ey;1a gm b em;5go;3fq b em;5go;5id;1go;1bu;"]

end RpcClients.Text.Name
