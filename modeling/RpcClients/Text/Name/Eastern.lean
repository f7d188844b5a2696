import RpcClients.Text.Name.Block

/-! # Names of letters of the Near East -/

namespace RpcClients.Text.Name

/-- Hebrew, Arabic, Syriac, Thaana, Nko, Samaritan and Mandaic letters. -/
def semiticNames : Block where
  first := 0x591
  lines :=
    ["0HEBREW er ETNAHTA;2SEGOL;2SHALSHELET;2ZAQEF QATAN;3GADOL;2TIPEHA;2REVIA;2ZARQA;2PASHTA;2YETIV;2TEVIR;2GERESH;",
     "3MUQDAM;2GERSHAYIM;2QARNEY PARA;2TELISHA GEDOLA;2PAZER;2ATNAH HAFUKH;2MUNAH;2MAHAPAKH;2MERKHA;3KEFULA;2DARGA;",
     "2QADMA;2TELISHA QETANA;2YERAH BEN YOMO;2OLE;2ILUY;2DEHI;2ZINOR;1aq MASORA ak;1pz SHEVA;2HATAF SEGOL;3PATAH;",
     "3QAMATS;2HIRIQ;2TSERE;2SEGOL;2PATAH;2QAMATS;2HOLAM;3HASER qm VAV;2QUBUTS;2DAGESH OR MAPIQ;2METEG;1bf MAQAF;",
     "1pz RAFE;1bf PASEQ;1pz ju cd;2SIN+1;1bf SOF PASUQ;1aq bt cd;2bi+1;1bf nx HAFUKHA;1pz QAMATS QATAN;-8;1d ho;",
     "2BET;2lj;2DALET;2HE;2VAV;2nb;2HET;2TET;2YOD;2u sq;2+1;2LAMED;2u yd;2+1;2u nx;2+1;2jc;2re;2u PE;2PE;2u TSADI;",
     "2+1;2QOF;2py;2ju;2TAV;-4;1YOD an;1de YIDDISH h VAV;3VAV YOD;3h+1;1bf GERESH;2GERSHAYIM;-11;0jv bn g;1g SANAH;",
     "1FOOTNOTE MARKER;1g SAFHA;2SAMVAT;1bn aq k;1-INDIC CUBE ROOT;2ty+1;1RAY;1-INDIC PER MILLE g;3gu cy+1;",
     "0AFGHANI+1;0jv ez;1DATE ek;1POETIC VERSE g;1g MISRA;2SALLALLAHOU ALAYHE WASSALLAM;2ALAYHE ASSALLAM;",
     "2RAHMATULLAH ALAYHE;2RADI ALLAHOU ANHU;2TAKHALLUS;1c cx td;3de ho b pn b fo;3se;2rf;2ss;2rg;1hl;1d aq;",
     "1ji TEXT+1;1dq cd bf+1;1dl+1;1d KASHMIRI fo;2fs;2ho b vi k;4fs+1;2ou+3;2ho b fs y;2fo b fs k;2ho;2xr;",
     "2ye MARBUTA;3;2uy;2da;2gi;2fe;2DAL;2THAL;2tq;2se;2kn;2kh;2uz;2yf;2td;2ZAH;2ra;2ll;2KEHEH b ax ce k;4l ce y;",
     "2FARSI fo b ar V;5ax ce k;5l+2;1TATWEEL;1d va;2te;2sq;2pn;2bj;2hy;2sr;2ou;2r;2fo;1rh;1tr;1ts;1rf;1ss;1rg;1wi;",
     "1yh;1MADDAH k;1fs+1;2y;1nd ho;1ar ss;1aq hy GHUNNA;1ZWARAKAY;1au g c V k;3ar+3;3cd y;1ag ss;1rf b ax ce;",
     "1yg fs y;1-INDIC w;3bk;3ax;3l;3z;3ao;3dp;3aj;3af;3be;1wl g;1DECIMAL ek;1po+1;1ao fm od;1d iu xr;3te;2gg ho;",
     "2ho WASLA;3b yg fs k;6y;2cx fs;4ho;4ou;2U b fs k;2cx fs fo;2TTEH;2TTEHEH;2BEEH;2ye b dk;4l ce k o;2PEH;2TEHEH;",
     "2BEHEH;2gi b fs k;4ax ce m+1;2NYEH;2DYEH;2gi b l ce k;2TCHEH;2TCHEHEH;2DDAL;2DAL b dk;4cd y;6n c td;2DAHAL;",
     "2DDAHAL;2DUL;2DAL b l ce k o;4z ce k;2RREH;2tq b c V;4dk;4cd y;4c V+1;4cd y n cd k;4ax ce+1;2JEH;2tq b z ce k;",
     "2kn b cd y n cd+1;4l ce y;7n l ce k;2uz b ax ce y;4l ce k;2td+4;2ra+4;2iu va;2va b cd MOVED y;5+1;2VEH;",
     "2va b l ce y;2PEHEH;2te b cd k;4l ce+1;2KEHEH;2SWASH sq;2sq b dk;4cd k;2NG;2sq b l ce y;2GAF;3b dk;2NGOEH;",
     "2GAF b ax ce y;2GUEH;2GAF b l ce k;2pn b c V;4cd k;4l ce+1;6y;2hy b cd+1;3GHUNNA;2RNOON;2hy b dk;4l ce k;",
     "2sr DOACHASHMEE;2TCHEH b cd k;2sr b fo+1;3GOAL;4b fs k;2ye MARBUTA GOAL;2ou b dk;2wh OE;2OE;2U;2YU;2wh+1;",
     "2ou b ax ce k;2VE;2FARSI fo;2fo b gj;4c V;2ou b cd k;2E;2fo b l ce y;3BARREE;4b fs k;1cp;1d AE;",
     "1c cx de uz b pn b r;4te+5;3bj ah km;3pn ho;3da;3l ce;3kn;1ji AYAH;1START OF RUB EL HIZB;1c cx mj uv;",
     "3UPRIGHT RECTANGULAR+1;3iu rb OF fe;3bj s km;2fn kn;2cx vi;2ou;2fo;2cx+1;3hy;1PLACE OF SAJDAH;1yz cg fn STOP;",
     "3cx+1;1mj cx STOP b FILLED cg;1c fn bj;1d DAL b ar V;2tq+3;0EXTENDED jv-INDIC w;4bk;4ax;4l;4z;4ao;4dp;4aj;4af;",
     "4be;0jv d kh b cd y;2yf+3;2ll+3;1g SINDHI nc;3POSTPOSITION MEN;1d sr b ar V;0SYRIAC ji sm;1za cp;1SUBLINEAR+2;",
     "1za hx;1SUBLINEAR+1;1t+1;1hx SKEWED i;3e;1za hx SKEWED i;1SUBLINEAR hx SKEWED e;1CONTRACTION;1HARKLEAN OBELUS;",
     "2METOBELUS;2ASTERISCUS;;1cs aq;1d ALAPH;2gg+1;2sf;2GAMAL;3GARSHUNI;2DALATH;2iu DALATH RISH;2HE;2ou;2se;2rm;",
     "2yi;3GARSHUNI;2YUDH;3HE;2sh;2LAMADH;2MIM;2nx;2SEMKATH;2u+1;2E;2PE;2ag+1;2or;2QAPH;2RISH;2ju;2TAW;",
     "2PERSIAN BHETH;3GHAMAL;3DHALATH;1PTHAHA k;2y;2ev;1ZQAPHA k;2y;2ev;1RBASA k;2y;1ev ZLAMA t;3ANGULAR;1HBASA k;",
     "2y;2-ESASA ev;1ESASA k;2y;1RWAHA;1FEMININE cd;1QUSHSHAYA;1RUKKAKHA;1ax m ce k;4y;1l ce k;3y;1tc et k;3y;",
     "1MUSIC;1BARREKH;;;1d SOGDIAN ZHAIN;3KHAPH;3FE;0jv d xr b l ce HORIZONTALLY y;4cd y n l ce k;4l ce ap ac y;",
     "9n ax ce k;4ax ce y n cd+1;4ar c V y;4c V;2gi b ax ce k;4l ce ap ac y;2DAL b ax ce lk y n c td;4ar c V y;",
     "2tq b ai;2kn b z ce k;2ra b ax+2;4l ce ap o+1;4ax ce lk+1;2va b ax ce y;4l ce ap ac+1;2KEHEH b cd k;4l ce+1;",
     "6ap ac y;2bj b cd k;5y;2hy b ax ce+1;4c td;5V;2pn b hg;2tq b ax ce lk k;4fs+1;2kn b ax ce lk+1;",
     "2gi b c jv d td y;8n ax ce;2kn+8;2tq+8;2gi b c jv d td k;2ho b en ax+1;8l+1;2FARSI fo b en ax+1;9l+1;9z y;",
     "2ou b en ax k;8l+1;2fo BARREE b en ax+1;9l+1;2gi b en z y;2kn b en z k;4ar V;2sq b ax ce k;0THAANA d HAA;",
     "2SHAVIYANI;2NOONU;2RAA;2BAA;2LHAVIYANI;2KAAFU;2ALIFU;2VAAVU;2MEEMU;2FAAFU;2DHAALU;2THAA;2LAAMU;2GAAFU;",
     "2GNAVIYANI;2SEENU;2DAVIYANI;2ZAVIYANI;2TAVIYANI;2YAA;2PAVIYANI;2JAVIYANI;2CHAVIYANI;2TTAA;2HHAA;2KHAA;2THAALU;",
     "2ZAA;2SHEENU;2SAADHU;2DAADHU;2TO;2ZO;2AINU;2GHAINU;2QAAFU;2WAAVU;1ABAFILI;1AABAAFILI;1IBIFILI;1EEBEEFILI;",
     "1UBUFILI;1OOBOOFILI;1EBEFILI;1EYBEYFILI;1OBOFILI;1OABOAFILI;1yh;1d NAA;-14;0NKO w;2bk;2ax;2l;2z;2ao;2dp;2aj;",
     "2af;2be;1d A;2EE;2I;2E;2U;2OO;2O;2DAGBASINNA;2N;2BA;2PA;2TA;2JA;2il;2DA;2RA;2xt;2SA;2GBA;2FA;2KA;2LA;",
     "2NA WOLOSO;2MA;2is;2NA;2HA;2WA;2YA;2is WOLOSO;2JONA JA;3il;3RA;1bh cz cx fh;3fn+1;3lr+1;2dc DESCENDING+1;",
     "3cx+1;3fn+1;3lr+1;2xa aq;2h cd k;1cx fh jw;1fn+2;1ad OO DENNEN;2GBAKURUNEN;1ez;1cb aq;1LAJANYALAN;;;",
     "1DANTAYALAN;1DOROME g;1TAMAN+1;0SAMARITAN d ALAF;2BIT;2GAMAN;2DALAT;2IY;2BAA;2ZEN;2IT;2TIT;2YUT;2KAAF;2LABAT;",
     "2MIM;2nx;2SINGAAT;2IN;2FI;2TSAADIY;2QUF;2RISH;2wf;2TAAF;1aq IN;3-ALAF;2OCCLUSION;2DAGESH;1ci d EPENTHETIC YUT;",
     "1aq+2;1au g dc E;3E;3OVERLONG AA;3dc+1;3AA;3OVERLONG A;3dc A;3A;1ci d cz A;1au g+2;3dc U;3U;1ci d I;",
     "1au g dc I;3I;3O;3yh;1aq NEQUDAA;;;1bf+1;2AFSAAQ;2ANGED;2BAU;2ATMAAU;2SHIYYAALAA;1cs aq;1bf MELODIC QITSA;",
     "2ZIQAA;2QITSA;2ZAEF;2TURU;2ARKAANU;2SOF MASHFAAT;2ANNAAU;;0MANDAIC d HALQA;2AB;2AG;2AD;2AH;2USHENNA;2AZ;2IT;",
     "2ATT;2AKSA;2AK;+3;2AS;2IN;2AP;2ASZ;2AQ;+1;2rk;2AT;2DUSHENNA;2KAD;2ra;1AFFRICATION aq;1VOCALIZATION+1;1qt+1;;;",
     "1bf;;0SYRIAC d MALAYALAM hv;3JA;3is;3lc;3mo;3NNNA;3mx;3RA;3sw;3LLLA;3oo;-5;0jv d ho b ro rf;5ne e+1;4e ab ai;",
     "4i+2;4ro rg;5eg e+1;5rq cd k;5e rq cd;5i+2;5rq cd y;4cd k;4ro ne e rf n+2;4e ab ai+3;4ro eg e rg+3;",
     "5ne e rf n i dk;4e ab ai+3;4ro eg e rg+3;5e fs;5i+1;1TATWEEL b OVERSTRUCK+1;4ou;3ax ce y;1d THIN fo;",
     "1BASELINE rq cd;1fy+2;1d hy b ar c V;2gi b ar c V y;2td b cd+1;4l ce+1;2KEHEH b ax ce lk+1;1m gj;;1POUND aq k;",
     "1PIASTRE+2;-6;1c cx sd AL-JUZ;2fn sd ISHMAAM;4IMAALA;4TASHEEL;1vi WAAJIB;1gg ho MOKHASSAS;1DOUBLED vi;",
     "1ct vi by+1;1d xr b c V y;4fs k;2da b ax ce+1;2td+4;2va b cd y n l+2;2te b cd y;2pn b h hg;2bj b l ce k;",
     "2fo b ax ce y n fs+1;8cd+1;2tq b sc;2ou b cd WITHIN;2ROHINGYA fo;2fn ho;2DAL b l ce y;2uz+4;2GAF b ar ai;",
     "2el ou;2se b ar V k;2ra b l ce y;2sq b cd+1;2te b cd y n NO ce k;2xr b c bj+1;2PEH+4;2ye b c ye+1;",
     "2tq b c hy+1;2fo b ax ce y n+3;2AFRICAN va;3te;3hy;2PEH b c V;2ye+3;2TTEH+3;2TCHEH+3;2KEHEH+3;2ll b l ce k;",
     "2AFRICAN te+4;2da+4;6y;2pn b c jv d td k;2GRAF;1c FARSI fo;2cx+2;3fo BARREE b ax ce y;3sd SAH;3ZAH;",
     "1cf rq cd k;4y;1yh+1;1cf ak+1;2rq cd kp+2;1c fn ou;2cx sd AR-RUB;3uz;3ra;3te;3hy b rg;2fn+3;",
     "2cx sd ATH-THALATHA;4AS-SAJDA;4AN-NISF;4SAKTA;4QIF;4WAQFA;3FOOTNOTE MARKER;3g SAFHA;1DISPUTED ji AYAH;",
     "1at ss y;1jq rf;2ss;2rg;2rh;2tr;2ts;1fh bk cd k;2ax ce+1;2sc+1;2bk cd y;2ax ce+1;2sc+1;1di rh;2tr;2ts;",
     "1c cx ou;1rf b dk;3cd k;1rg b cd y;1i eb k;1e+2;1i eb y;1e+2;1h e eb k;5b cd;1+5;1ss+2;1aq my hy GHUNNA;"]

/-- Cyrillic and Georgian additions. -/
def georgianAdditionNames : Block where
  first := 0x1C80
  lines :=
    ["0hf c d mj VE;3dc-LEGGED DE;3NARROW O;3WIDE ES;3TALL TE;3l-LEGGED+1;3TALL zv g;4YAT;3UNBLENDED UK;-7;",
     "0uc MTAVRULI a AN;4BAN;4GAN;4DON;4EN;4VIN;4ZEN;4TAN;4IN;4KAN;4LAS;4xs;4NAR;4ON;4PAR;4ZHAR;4RAE;4SAN;4TAR;4UN;",
     "4PHAR;4KHAR;4GHAN;4QAR;4ju;4CHIN;4CAN;4JIL;4CIL;4CHAR;4XAN;4JHAN;4HAE;4HE;4HIE;4WE;4HAR;4HOE;4FI;4YN;4ELIFI;",
     "4at GAN;4ra;;;4AEN;4zv g;4LABIAL+1;0SUNDANESE bf BINDU SURYA;3PANGLONG;3PURNAMA;3CAKRA;3LEU SATANGA;3KA+1;",
     "3DA+1;3BA+1;-8;0VEDIC fh KARSHANA;2SHARA;2PRENKHA;1g NIHSHVASA;2YAJURVEDIC MIDLINE SVARITA;",
     "1fh YAJURVEDIC AGGRAVATED pa+1;3+2;3KATHAKA+2;2jy y;2YAJURVEDIC KATHAKA pa SVARITA SCHROEDER;2h SVARITA;2dq+1;",
     "2KATHAKA zb;2cd y;2ax ce+1;2l+2;2RIGVEDIC KASHMIRI pa SVARITA;2ATHARVAVEDIC+2;1g cw+1;3UDATTA;2ag+2;2cw zb;",
     "2ag+2;2cw UDATTA b gj;3zb+2;2bd ANTARGOMUKHA;3BAHIRGOMUKHA;3VAMAGOMUKHA;4b gj;2TIRYAK;2HEXIFORM dc bd;2+2;",
     "2RTHANG+2;2bd UBHAYATO MUKHA;2ARDHAVISARGA;2fv+1;1fh jy k;1g mg;2mh;2ATIKRAMA;1fh dk k;2h+2;",
     "1g h bd ANTARGOMUKHA;"]

/-- Georgian letters, parts of Hangul syllables, and Ethiopic syllables. -/
def caucasianNames : Block where
  first := 0x10A0
  lines :=
    ["0uc a AN;3BAN;3GAN;3DON;3EN;3VIN;3ZEN;3TAN;3IN;3KAN;3LAS;3xs;3NAR;3ON;3PAR;3ZHAR;3RAE;3SAN;3TAR;3UN;3PHAR;",
     "3KHAR;3GHAN;3QAR;3ju;3CHIN;3CAN;3JIL;3CIL;3CHAR;3XAN;3JHAN;3HAE;3HE;3HIE;3WE;3HAR;3HOE;;3YN;-5;3AEN;;;1d AN;",
     "2BAN;2GAN;2DON;2EN;2VIN;2ZEN;2TAN;2IN;2KAN;2LAS;2xs;2NAR;2ON;2PAR;2ZHAR;2RAE;2SAN;2TAR;2UN;2PHAR;2KHAR;2GHAN;",
     "2QAR;2ju;2CHIN;2CAN;2JIL;2CIL;2CHAR;2XAN;2JHAN;2HAE;2HE;2HIE;2WE;2HAR;2HOE;2FI;2YN;2ELIFI;2at GAN;2ra;1sm ek;",
     "0ci d uc NAR;0uc d AEN;2zv g;2LABIAL+1;0qj CHOSEONG df;2kg;2iy;2ef;2ow;2hj;2hi;2eo;2ny;2fz;2ix;2md;2hr;2qk;",
     "2gl;2hs;2fu;2fk;2fr;2iy-df;2tp;2iy-ef;3-eo;2ef-df;2hj-iy;2SSANGRIEUL;2hj-fr;2KAPYEOUNRIEUL;2hi-eo;2vb;2eo-df;",
     "3-iy;3-ef;3-fz;4-df;4-ef;4-eo;3-ix;3-fz-hr;3+1;3-gl;3-fu;3-fk;2in;2KAPYEOUNSSANGPIEUP;2fz-df;3-iy;3-ef;3-hj;",
     "3-hi;3-eo;4-df;3-ix;3-md;3-hr;3-gl;3-hs;3-fu;3-fk;3-fr;2CHITUEUMSIOS;2CHITUEUMSSANGSIOS;2CEONGCHIEUMSIOS;",
     "2CEONGCHIEUMSSANGSIOS;2it;2md-df;3-ef;3-hi;3-eo;3-fz;3-it;2SSANGIEUNG;2md-hr;3-gl;3-fu;3-fk;2to;2hr-md;",
     "2CHITUEUMCIEUC;2CHITUEUMSSANGCIEUC;2CEONGCHIEUMCIEUC;2CEONGCHIEUMSSANGCIEUC;2gl-hs;3-fr;2CHITUEUMCHIEUCH;",
     "2CEONGCHIEUMCHIEUCH;2fk-eo;2sz;2SSANGHIEUH;2me;2df-ef;2iy-fz;3-hr;3-fr;2ef-hj;2qi;1JUNGSEONG+1;2A;2AE;2YA;",
     "2YAE;2EO;2E;2YEO;2YE;2O;2WA;2WAE;2OE;2YO;2U;2WEO;2WE;2WI;2YU;2EU;2YI;2I;2A-O;3-U;2YA-O;3-YO;2EO-O;3-U;3-EU;",
     "2YEO-O;3-U;2O-EO;3-E;3-YE;3-O;3-U;2YO-YA;3-YAE;3-YEO;3-O;3-I;2U-A;3-AE;3-EO-EU;3-YE;3-U;2YU-A;3-EO;3-E;3-YEO;",
     "3-YE;3-U;3-I;2EU-U;3-EU;2YI-U;2I-A;3-YA;3-O;3-U;3-EU;3-ARAEA;2ARAEA;3-EO;3-U;3-I;2SSANGARAEA;2A-EU;2YA-U;",
     "2YEO-YA;2O+1;3-YAE;1JONGSEONG df;2kg;2df-fz;2iy;3-hr;3-fr;2ef;2hj;3-df;3-hi;3-eo;3-fz;3-fu;3-fk;3-fr;2hi;2eo;",
     "3-fz;2fz;2ix;2md;2hr;2gl;2hs;2fu;2fk;2fr;2df-hj;3-fz-df;2iy+1;3-ef;3-fz;3-it;3-fu;2ef-df;3-hj;2hj-df-fz;3-iy;",
     "3-ef;4-fr;2SSANGRIEUL;2hj-hi-df;4-fz;3-eo+1;4-fr;3-in;3-ix;3-it;3-hs;3-me;2hi-df;3-hj;3-eo;3-fz;3-ix;3-it;",
     "3-gl;3-fr;2vb;2eo-hj;3-fk;3-fr;2in;2fz-df;3-ef;3-hj;3-eo;2it;2md-df;3-kg;2SSANGIEUNG;2md-hs;2to;3-fz;3-it;",
     "2fk-eo;2sz;2fr-iy;3-hj;3-hi;3-eo;2me;2df-iy;3-eo;3-gl;3-hs;3-fr;2tp;0ya ge HA;2HU;2HI;2HAA;2HEE;2HE;2HO;2HOA;",
     "2LA;2LU;2LI;2LAA;2LEE;2LE;2LO;2LWA;2HHA;2HHU;2HHI;2HHAA;2HHEE;2HHE;2HHO;2HHWA;2MA;2MU;2MI;2MAA;2MEE;2ME;2MO;",
     "2MWA;2SZA;2SZU;2SZI;2SZAA;2SZEE;2SZE;2SZO;2SZWA;2RA;2RU;2RI;2RAA;2REE;2RE;2RO;2RWA;2SA;2SU;2SI;2SAA;2SEE;2SE;",
     "2SO;2SWA;2hw;2SHU;2SHI;2SHAA;2SHEE;2pw;2SHO;2SHWA;2QA;2QU;2QI;2QAA;2QEE;2QE;2QO;2QOA;2QWA;;2QWI;2QWAA;2QWEE;",
     "2QWE;;;2QHA;2QHU;2QHI;2QHAA;2QHEE;2QHE;2QHO;;2QHWA;;2QHWI;2QHWAA;2QHWEE;2QHWE;;;2BA;2BU;2BI;2BAA;2BEE;2BE;2BO;",
     "2BWA;2VA;2VU;2VI;2VAA;2VEE;2VE;2VO;2VWA;2TA;2TU;2TI;2TAA;2TEE;2TE;2TO;2TWA;2CA;2CU;2CI;2CAA;2CEE;2CE;2CO;2CWA;",
     "2XA;2XU;2XI;2XAA;2XEE;2XE;2XO;2XOA;2XWA;;2XWI;2XWAA;2XWEE;2XWE;;;2NA;2NU;2NI;2NAA;2NEE;2NE;2NO;2NWA;2is;2NYU;",
     "2NYI;2NYAA;2NYEE;2NYE;2NYO;2NYWA;2we A;3U;3I;3AA;3EE;3E;3O;3WA;2KA;2KU;2KI;2KAA;2KEE;2KE;2KO;2KOA;2KWA;;2KWI;",
     "2KWAA;2KWEE;2KWE;;;2KXA;2KXU;2KXI;2KXAA;2KXEE;2KXE;2KXO;;2KXWA;;2KXWI;2KXWAA;2KXWEE;2KXWE;;;2WA;2WU;2WI;2WAA;",
     "2WEE;2WE;2WO;2WOA;2PHARYNGEAL A;3U;3I;3AA;3EE;3E;3O;;2ZA;2ZU;2ZI;2ZAA;2ZEE;2ZE;2ZO;2ZWA;2vf;2ZHU;2ZHI;2ZHAA;",
     "2ZHEE;2ZHE;2ZHO;2ZHWA;2YA;2YU;2YI;2YAA;2YEE;2YE;2YO;2YOA;2DA;2DU;2DI;2DAA;2DEE;2DE;2DO;2DWA;2lh;2DDU;2DDI;",
     "2DDAA;2DDEE;2DDE;2DDO;2DDWA;2JA;2JU;2JI;2JAA;2JEE;2JE;2JO;2JWA;2GA;2GU;2GI;2GAA;2GEE;2GE;2GO;2GOA;2GWA;;2GWI;",
     "2GWAA;2GWEE;2GWE;;;2GGA;2GGU;2GGI;2GGAA;2GGEE;2GGE;2GGO;2GGWAA;2ja;2THU;2THI;2THAA;2THEE;2pj;2THO;2THWA;2il;",
     "2CHU;2uu;2CHAA;2CHEE;2zp;2CHO;2CHWA;2kd;2PHU;2ub;2PHAA;2PHEE;2PHE;2PHO;2PHWA;2rz;2TSU;2TSI;2TSAA;2TSEE;2TSE;",
     "2TSO;2TSWA;2TZA;2TZU;2TZI;2TZAA;2TZEE;2TZE;2TZO;2TZOA;2FA;2FU;2FI;2FAA;2FEE;2FE;2FO;2FWA;2PA;2PU;2PI;2PAA;",
     "2PEE;2PE;2PO;2PWA;2RYA;2MYA;2FYA;;;1bh qt n au mq aq;2+3;2qt+1;1gk+1;1WORDSPACE;1cp;1ez;1hl;1hx;1PREFACE+1;",
     "1dl aq;1sm ek;1ke bk;2ax;2l;2z;2ao;2dp;2aj;2af;2be;1bn gu;2cm;2fg;2ki;2fx;2jg;2gy;2jx;2hz;2hp;2gu cy;;;;",
     "1ge vs MWA;2MWI;2MWEE;2MWE;2vs BWA;2BWI;2BWEE;2BWE;2vs FWA;2FWI;2FWEE;2FWE;2vs PWA;2PWI;2PWEE;2PWE;",
     "1TONAL aq YIZET;3DERET;3RIKRIK;3cz+1;3DIFAT;3KENAT;3CHIRET;3HIDET;3DERET-HIDET;3KURT;"]

end RpcClients.Text.Name
