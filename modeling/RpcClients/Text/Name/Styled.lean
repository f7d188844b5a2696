import RpcClients.Text.Name.Block

/-! # Names of styled letters and of sign writing -/

namespace RpcClients.Text.Name

/-- Mathematical letters. -/
def styledNames : Block where
  first := 0x1D400
  lines :=
    ["0lb lv aa A;+25;2c A;+25;1ob aa A;+25;2c A;+6;;3I;+17;1lv ob aa A;+25;3c A;+25;1gv aa A;;3C;3D;;;3G;;;3J;3K;;;",
     "3N;+3;;3S;+7;2c A;+3;;3F;;3H;+6;;3P;+10;1lv gv aa A;+25;3c A;+25;1FRAKTUR aa A;3B;;3D;+3;;;3J;+7;;3S;+6;;2c A;",
     "+25;1h-oj aa A;4B;;4D;+3;;4I;+4;;4O;;;;4S;+6;;3c A;+25;1lv FRAKTUR aa A;+25;3c A;+25;1hb aa A;+25;3c A;+25;",
     "3lv aa A;+25;4c A;+25;3ob aa A;+25;4c A;+25;3lv ob aa A;+25;5c A;+25;1MONOSPACE aa A;+25;2c A;+25;1ob c iu I;",
     "4J;;;1lv aa fw;3px;3js;3jr;3eq;3tz;3xc;3ic;3jo;3kv;3op;3MU;3NU;3XI;3gm;3PI;3sx;3ic ad;3mk;3TAU;3ea;3ub;3uu;",
     "3PSI;3fq;2NABLA;2c fw;3px;3js;3jr;3eq;3tz;3xc;3ic;3jo;3kv;3op;3MU;3NU;3XI;3gm;3PI;3sx;3u mk;3+1;3TAU;3ea;3ub;",
     "3uu;3PSI;3fq;2gh;2eq ad;2ic+1;2kv+1;2ub+1;2sx+1;2PI+1;1ob aa fw;3px;3js;3jr;3eq;3tz;3xc;3ic;3jo;3kv;3op;3MU;",
     "3NU;3XI;3gm;3PI;3sx;3ic ad;3mk;3TAU;3ea;3ub;3uu;3PSI;3fq;2NABLA;2c fw;3px;3js;3jr;3eq;3tz;3xc;3ic;3jo;3kv;3op;",
     "3MU;3NU;3XI;3gm;3PI;3sx;3u mk;3+1;3TAU;3ea;3ub;3uu;3PSI;3fq;2gh;2eq ad;2ic+1;2kv+1;2ub+1;2sx+1;2PI+1;",
     "1lv ob aa fw;4px;4js;4jr;4eq;4tz;4xc;4ic;4jo;4kv;4op;4MU;4NU;4XI;4gm;4PI;4sx;4ic ad;4mk;4TAU;4ea;4ub;4uu;4PSI;",
     "4fq;3NABLA;3c fw;4px;4js;4jr;4eq;4tz;4xc;4ic;4jo;4kv;4op;4MU;4NU;4XI;4gm;4PI;4sx;4u mk;4+1;4TAU;4ea;4ub;4uu;",
     "4PSI;4fq;3gh;3eq ad;3ic+1;3kv+1;3ub+1;3sx+1;3PI+1;1hb lv aa fw;5px;5js;5jr;5eq;5tz;5xc;5ic;5jo;5kv;5op;5MU;",
     "5NU;5XI;5gm;5PI;5sx;5ic ad;5mk;5TAU;5ea;5ub;5uu;5PSI;5fq;4NABLA;4c fw;5px;5js;5jr;5eq;5tz;5xc;5ic;5jo;5kv;5op;",
     "5MU;5NU;5XI;5gm;5PI;5sx;5u mk;5+1;5TAU;5ea;5ub;5uu;5PSI;5fq;4gh;4eq ad;4ic+1;4kv+1;4ub+1;4sx+1;4PI+1;",
     "4ob aa fw;6px;6js;6jr;6eq;6tz;6xc;6ic;6jo;6kv;6op;6MU;6NU;6XI;6gm;6PI;6sx;6ic ad;6mk;6TAU;6ea;6ub;6uu;6PSI;",
     "6fq;5NABLA;5c fw;6px;6js;6jr;6eq;6tz;6xc;6ic;6jo;6kv;6op;6MU;6NU;6XI;6gm;6PI;6sx;6u mk;6+1;6TAU;6ea;6ub;6uu;",
     "6PSI;6fq;5gh;5eq ad;5ic+1;5kv+1;5ub+1;5sx+1;5PI+1;1lv aa DIGAMMA;2c+1;;;2w;3bk;3ax;3l;3z;3ao;3dp;3aj;3af;3be;",
     "1h-oj w;4bk;4ax;4l;4z;4ao;4dp;4aj;4af;4be;1hb w;4bk;4ax;4l;4z;4ao;4dp;4aj;4af;4be;3lv w;5bk;5ax;5l;5z;5ao;5dp;",
     "5aj;5af;5be;1MONOSPACE w;3bk;3ax;3l;3z;3ao;3dp;3aj;3af;3be;"]

/-- Sign writing. -/
def signWritingNames : Block where
  first := 0x1D800
  lines :=
    ["0SIGNWRITING lp-jp cr;2-ak+1;2-CUP+1;2-OVAL+1;2-jn+1;2-dw+1;2-jp cr nt;2-ak+2;2-jp cl wb+2;3cr fy KNUCKLE;4xn;",
     "4ka;5fn;2-ak cr jn;2-jp cr ab;2-ak+2;2-jp cr ab nt;5fy KNUCKLES;5ka;4UP+2;4ka ab UP;4ab ex;6cr nt;6ab+1;6xn;",
     "6ka;5hq;2-ak+3;2-jp ab nt by cr;3cr nt by ab;4ab cl;2-ak+3;2-jp cr ab el cl nt;5nt cl el;5cl nt;5ka qy cl nr;",
     "4UP ab ka+2;8ex;4ka ab UP cl nr;4ab UP qy cl ij;5cl xn;6bq;6xj;6ka;3cl hd cr ab el;3cr ab ex cl nr;8ex;8nt;",
     "3ab cl xj cr UP;3cr cl xj ab+1;4ab ex ka cl nr;5hq+2;5ex cl ij;6xn+2;3ab cl xn cr UP;3cr cl xn ab+1;",
     "3ab cl bq cr+1;7ka;3cr cl ANGLED OUT ab UP;6IN+2;5bq+2;4ab cl ex ka;6ANGLED OUT;7;3ab cl ANGLED OUT cr UP;8hq;",
     "6cr UP;3cr cl xj ab ka;2-FLAT z hu;5nt;5ka;5ex;6SPLIT;2-CLAW z hu ex;2-jp z hu ex nt;2-jn z hu ex;",
     "2-FLAT ao hu qy;3HEEL+3;3ao hu qy z nt;3HEEL+5;3ao hu qy+1;3HEEL+4;3ao hu qy cl ij;2-CUP ao hu qy;6di;2-jn+4;",
     "2-OVAL ao hu qy;2-FLAT ao hu qy ka;7cl nr;7NO cl;3;3hd PALM FACINGS;3HEEL;3cl nr;3HEEL+2;3cl nt;4ij;",
     "3SPLIT cr cl nr;4cg;5cl nr;7nt;4fa;2-CLAW;3cl nr;3NO cl;3cl ij;2-bx ur;3;2-CUP di;3;3di cl nr;3+2;3di NO cl;",
     "3+2;3di cl ij;3+2;2-ur di;3;2-ak;2-OVAL;3cl nr;3NO cl;3cl ij;2-jn di;4cl ij;3;3c;3di cl nr;3+2;3di NO cl;3+2;",
     "3cl nr TOUCHING cr;4hd ab dk;2-dw;2-jp cr ab dk;2-ak+3;2-jn+3;2-dw+3;2-jn fa;2-jp cr ab dk nt;6ex;2-jn+4;",
     "2-jp fa bc;5RIPPLE el;6qv;5OTHERS bq;4UP;3cl wb+2;2-ak+2;2-OVAL+2;2-dw+2;2-jp fa fy KNUCKLE;4nt;4TOUCHES cl;",
     "4+1;2-jn+2;2-jp fa cr+1;2-jn+3;2-dw fa cr cl cr cl OUT;8;2-jp fa cr;2-ak+2;2-jn+2;2-dw+2;2-jp cr ab fa;2-ak+3;",
     "2-jn+3;3dk;2-dw cr ab fa;2-jp cr ab gn+1;2-ak+4;2-jp dk bc;2-jn dk bc cr cl bx ab;2-dw dk bc ab cl cr gn;",
     "2-jp dk UP;4fy KNUCKLE;4fa;2-ak+2;2-OVAL+2;2-dw+2;2-jp dk ab;5ex;5fy KNUCKLES;4cr;4cl;2-bx+2;2-jp cr dk fa;",
     "2-ak+3;2-ur cr dk fa ON;2-bx cr dk fa OUT;6IN;6wb;2-CUP cr dk fa;2-jn+3;2-dw cr dk fa OUT;6;2-jp ab bc;",
     "2-jn ab;2-jp ab UP;2-ak+2;2-jp ab fy KNUCKLE;4UP cl nr;2-bx ab cl;2-jp ab cl fa;4+1;4dk+1;2-ak+3;",
     "2-ur ab dk fa ON;2-CUP ab dk fa;2-jn+3;2-dw ab dk fa OUT;6IN;6;2-ak ab dk fa nt;2-CLAW ab dk fa ex;7nr;",
     "2-bx ab dk fa ex OUT;7IN;7;2-jn cr ka;2-jp cr cl nr;2-jn+3;2-jp cr cl nr cl ca;7ex;7nt;6cr+1;6BOTH+1;6cr jn;",
     "5ij cr el;7nt;5bx;5ur;5os cl kp;2-CLAW+5;2-jp cr cl os cl wb;5ak;2-CUP cr cl;5di;2-jn+3;5cf;5;5c;",
     "2-dw cr cl OUT;5IN;5;2-jp+1;4HEEL;4nr ca;5ex;5nt;4ij;4hd cr ab;5ab dk;5dk fa;4wb ax hu;4by+2;4wb l+1;5z+1;",
     "4by z fy KNUCKLES;3;3HEEL;1TOUCH bm;2jk;2hd;1GRASP bm;2jk;2hd;1STRIKE bm;2jk;2hd;1BRUSH bm;2jk;2hd;1RUB bm;",
     "2jk;2hd;1SURFACE SYMBOLS;2hd;1SQUEEZE cf bm;2c+1;2cf jk;2c+1;2SEQUENTIAL;1FLICK cf bm;2c+1;2cf jk;2c+1;",
     "2SEQUENTIAL;1SQUEEZE FLICK dh;1fj-jn UP bc cf;5c;4SEQUENTIAL;3bc+1;3UP bc dh cf;6c;3nr TO nr SCISSORS;",
     "2-db sp wy;2-co+2;2-db bm el c;5bg;5cf;5ok;4ih;3h el;4ih;4dh;5ih;3gn;3dq el fj;4ih;4dh;5ih;3BEND c;4bg;4cf;",
     "3jb c;4bg;4cf;4kl;3qc c;4bg;4cf;3uf c;4bg;4cf;3sn c;4bg;4cf;3PEAKS c;4bg;4cf;1TRAVEL-db kl-db bm;5h;5dh;",
     "4-co bm;5h;5dh;3SHAKING;3ARM SPIRAL bm;5h;5dq;1fj-ca AWAY c;4bg;4cf;4ok;3TOWARDS c;4bg;4cf;4ok;3hd AWAY c;5bg;",
     "5cf;5ok;4TOWARDS c;5bg;5cf;5ok;2-co bm el c;5bg;5cf;5ok;4ih;3h el;4ih;4dh;5ih;3gn;3dq el fj;4ih;4dh fj;5ih;",
     "3BEND;3jb c;4bg;4cf;3qc;3uf c;4bg;4cf;3sn c;4bg;4cf;3PEAKS c;4bg;4cf;1TRAVEL-co kl-co bm;5h;5dh;4-db bm;5h;",
     "5dh;3SHAKING;1fj-db os du c;5bg;5cf;5ok;4ct-ak c;6bg;6cf;6ok;4l-du ak c;7bg;3HUMP c;4bg;4cf;3sc c;4bg;4cf;",
     "4c h;3pc os h c;6bg;6cf;5dq c;6bg;6cf;3os THEN el;3qv gn c;5bg;1kl-db bm;3h;3ei;1fj-db SHAKING;",
     "3os ik FRONT WALL;3HUMP+3;3sc+3;3pc+3;1kl-db bm+3;3h+3;3dh+3;1fj-db os ik CHEST;3HUMP+2;3sc+2;3pc+2;",
     "1kl-db bm+2;3h+2;3dh+2;1fj-db pc ca PATH c;6bg;6cf;2-co os ik tk c;6cf;3HUMP ik tk c h;6cf+1;6c dq;6cf+1;",
     "3sc ik tk c bm;6cf+1;6c h;6cf+1;3pc ik tk c;6cf;1kl-co bm ik tk;3h+2;3dh+2;1fj-co os ik zn c;6cf;",
     "3HUMP ik zn c h;6cf+1;6dq c dq;7cf+1;3sc ik zn c bm;6cf+1;6c h;6cf+1;3pc ik zn c;6cf;1kl-co bm ik zn;3h+2;",
     "3dh+2;1fj-co os c;4bg;4cf;4ok;4COMBINED;3HUMP c;3sc+1;3pc SNAKE;4c;4cf;1kl-co bm;3h;3dh;1fj-co SHAKING ns;",
     "2-db ARM ak c bm;5bg+1;5c h;5bg+1;2-co ARM ak ik WALL c bm;7bg+1;7cf+1;7c h;7bg+1;7cf+1;",
     "2-db WRIST ak FRONT bm;6h;2-co WRIST ak ik WALL bm;7h;2-db sp wn bm;5h;2-co sp wn ik WALL bm;7h;1DYNAMIC eb c;",
     "3cf;2FAST;2SLOW;2TENSE;2RELAXED;2SIMULTANEOUS;3dh;2EVERY OTHER TIME;2GRADUAL;1rb;2RIM;2fj-db el;4TILT;3-co el;",
     "3-db os;3-co+1;3ak;1dr DIRECTION zh NOSE ij TILTING;5UP OR bc;8TILTING;1EYEBROWS el UP;3ft;3bc;",
     "1DREAMY EYEBROWS ft+1;3bc ft;3UP+1;3ft UP;1FOREHEAD ft;2wy;2ph;1ov di;2SQUEEZED;2ep;1EYE BLINK bm;3jk;",
     "1ov ct di;2WIDE+1;2ct ep;2WIDENING fj;1EYE WINK;1EYELASHES UP;2bc;2FLUTTERING;1EYEGAZE-db el;4h;4dh;2-co el;",
     "4h;4dh;2-db qv;2-co+1;2-db CIRCLING;1CHEEKS PUFFED;2ft;2SUCKED;1TENSE CHEEKS cx;3ab;3fn;1EARS;1NOSE ft;2wy;",
     "2WRINKLES;2WIGGLES;1AIR BLOWING OUT;2SUCKING IN;2BLOW c ROTATIONS;2SUCK+2;1BREATH INHALE;2EXHALE;1jh ep ft;",
     "3ij;3wy;2SMILE;3ph;3di;2FROWN;3ph;3di;2di ak;3ij;3ph;3OVAL;4ph;4YAWN;3vu;4ph;4YAWN;2KISS;3ij;3ph;2TENSE;3ij;",
     "3SUCKED;1LIPS PRESSED yl;1LIP bi by bt;2bt by bi;1jh th;2WRINKLES bm;3h;1wr STICKING OUT FAR;2LICKING LIPS;",
     "2TIP hd+1;3TOUCHING kp jh;2kp jh RELAXED;2MOVES AGAINST CHEEK;2cg STICKING OUT;3kp jh;1TEETH;2fj;2ON wr;4fj;",
     "3LIPS;4fj;2BITE LIPS;1fj-db JAW;2-co+1;1NECK;1HAIR;1EXCITEMENT;1SHOULDER HIP SPINE;3POSITIONS;",
     "1db SHOULDER HIP MOVE;1co+3;1SHOULDER TILTING sj WAIST;1TORSO-db el STRETCH;3qv BEND;2-co TWISTING;",
     "1bt BODY TILTING sj HIP JOINTS;1LIMB COMBINATION;2mq-1;+6;1sp;1LOCATION-db qb;2-co+1;2HEIGHT;2WIDTH;2DEPTH;",
     "2rb NECK;2TORSO;2LIMBS DIGITS;1ez;1cp;1hl;1hx;1cc;-15;1FILL ci-2;+4;;1kl ci-2;+14;"]

/-- Further Latin, Glagolitic and African letters. -/
def latinExtensionNames : Block where
  first := 0x1DF00
  lines :=
    ["0dm c d FENG fl b TRILL;3ag gv G;1d c aa at G;1c d ag K;1d c aa L b zx;1c d LEZH b cq bx;3at Y b zx;3ag ENG;",
     "3at R b dc LEG n cq bx;3T b bx+3;1d cq CLICK b+2;1c d ESH b h hg;7n qp;3at T b+1;1d ar dn+2;2STRETCHED C+2;",
     "2c aa at K;1c d L b rl;3DEZH fl b pk bx;3L b zx n+2;3ENG b+2;3at R+3;3R b rl n+2;3TESH fl b+2;3EZH+3;",
     "3DEZH fl b cq+1;3I b ai n+2;3O b+2;3TESH fl+3;3C+3;3S b qp;-225;0bh GLAGOLITIC d AZU;3BUKY;3VEDE;3GLAGOLI;",
     "3DOBRO;3YESTU;3ZHIVETE;;3ZEMLJA;3IZHE;3ah+1;3I;3DJERVI;3KAKO;3LJUDIJE;3wo;3NASHI;3ONU;3POKOJI;3RITSI;3SLOVO;",
     "3TVRIDO;3UKU;3FRITU;3HERU;;;3SHTA;3TSI;3CHRIVI;3hw;3zu;3YERI;3YATI;;3YU;3c YUS;;3YO;3tg c YUS;3BIG+1;3tg+2;",
     "3FITA;-213;0NYIAKENG PUACHUE HMONG d MA;4rz;4NTA;4TA;4HA;4NA;4XA;4NKA;4CA;4LA;4SA;4ZA;4NCA;4NTSA;4KA;4DA;4is;",
     "4NRA;4VA;4NTXA;4TXA;4FA;4RA;4QA;4YA;4NQA;4PA;4XYA;4NPA;4DLA;4NPLA;4gi;4MLA;4PLA;4GA;4xt;4A;4AA;4I;4U;4O;4OO;",
     "4E;4EE;4W;;;;3fh-B;4-M;4-J;4-V;4-S;4-G;4-D;3g qm kq;5THING;5LOCATION;5ANIMAL;5INVERTEBRATE;4XW XW;3ge zt;;;3w;",
     "4bk;4ax;4l;4z;4ao;4dp;4aj;4af;4be;-4;3xz NYAJ;3bq CA;-320;0TOTO d PA;2BA;2TA;2DA;2KA;2GA;2MA;2NA;2hv;2SA;2il;",
     "2YA;2WA;2JA;2HA;2RA;2LA;2I;2xo I;2IU;2xo+1;2U;2E;2xo E;2EO;2xo+1;2O;2AE;2xo+1;2A;1g lr fh;-17;0WANCHO d AA;2A;",
     "2BA;2CA;2DA;2GA;2YA;2kd;2LA;2NA;2PA;2TA;2ja;2FA;2SA;2hw;2JA;2ZA;2WA;2VA;2KA;2O;2AU;2RA;2MA;2iv;2HA;2E;2I;2hv;",
     "2U;2LLHA;2rz;2TRA;2ONG;2AANG;2ANG;2ING;2ON;2EN;2AAN;2is;2UEN;2YIH;1fh TUP;2TUPNI;2KOI;2KOINI;1w;2bk;2ax;2l;2z;",
     "2ao;2dp;2aj;2af;2be;-5;1NGUN g;-1248;0ya ge HHYA;2HHYU;2HHYI;2HHYAA;2HHYEE;2HHYE;2HHYO;;2GURAGE HHWA;2HHWI;",
     "2HHWEE;2HHWE;;2GURAGE MWI;3MWEE;;3QWI;3QWEE;3QWE;3BWI;3BWEE;3KWI;3KWEE;3KWE;3GWI;3GWEE;3GWE;3FWI;3FWEE;3PWI;",
     "3PWEE;;0MENDE KIKAKUI ge M001 KI;3M002 KA;3M003 KU;3M065 KEE;3M095 KE;3M076 KOO;3M048 KO;3M179 KUA;3M004 WI;",
     "3M005 WA;3M006 WU;3M126 WEE;3M118 WE;3M114 WOO;3M045 WO;3M194 WUI;3M143 WEI;3M061 WVI;3M049 WVA;3M139 WVE;",
     "3M007 MIN;3M008 xs;3M009 MUN;3M059 MEN;3M094 MON;3M154 MUAN;3M189 MUEN;3M010 BI;3M011 BA;3M012 BU;3M150 BEE;",
     "3M097 BE;3M103 BOO;3M138 BO;3M013 I;3M014 A;3M015 U;3M163 EE;3M100 E;3M165 OO;3M147 O;3M137 EI;3M131 IN;",
     "3M135+1;3M195 AN;3M178 EN;3M019 SI;3M020 SA;3M021 SU;3M162 SEE;3M116 SE;3M136 SOO;3M079 SO;3M196 SIA;3M025 LI;",
     "3M026 LA;3M027 LU;3M084 LEE;3M073 LE;3M054 LOO;3M153 LO;3M110 dc LE;3M016 DI;3M017 DA;3M018 DU;3M089 DEE;",
     "3M180 DOO;3M181 DO;3M022 TI;3M023 TA;3M024 TU;3M091 TEE;3M055 TE;3M104 TOO;3M069 TO;3M028 JI;3M029 JA;",
     "3M030 JU;3M157 JEE;3M113 JE;3M160 JOO;3M063 JO;3M175 dc+1;3M031 YI;3M032 YA;3M033 YU;3M109 YEE;3M080 YE;",
     "3M141 YOO;3M121 YO;3M034 FI;3M035 FA;3M036 FU;3M078 FEE;3M075 FE;3M133 FOO;3M088 FO;3M197 FUA;3M101 FAN;",
     "3M037 NIN;3M038 NAN;3M039 nx;3M117 NEN;3M169 NON;3M176 HI;3M041 HA;3M186 HU;3M040 HEE;3M096 HE;3M042 HOO;",
     "3M140 HO;3M083 HEEI;3M128 HOOU;3M053 HIN;3M130 HAN;3M087 HUN;3M052 HEN;3M193 HON;3M046 HUAN;3M090 NGGI;",
     "3M043 NGGA;3M082 NGGU;3M115 NGGEE;3M146 NGGE;3M156 NGGOO;3M120 NGGO;3M159 NGGAA;3M127 NGGUA;3M086 dc NGGE;",
     "3M106 dc NGGOO;3M183 dc NGGO;3M155 GI;3M111 GA;3M168 GU;3M190 GEE;3M166 GUEI;3M167 GUAN;3M184 NGEN;3M057 NGON;",
     "3M177 NGUAN;3M068 PI;3M099 PA;3M050 PU;3M081 PEE;3M051 PE;3M102 POO;3M066 PO;3M145 MBI;3M062 MBA;3M122 MBU;",
     "3M047 MBEE;3M188+1;3M072 MBE;3M172 MBOO;3M174 MBO;3M187 MBUU;3M161 dc MBE;3M105 dc MBOO;3M142 dc MBO;",
     "3M132 KPI;3M092 KPA;3M074 KPU;3M044 KPEE;3M108 KPE;3M112 KPOO;3M158 KPO;3M124 GBI;3M056 GBA;3M148 GBU;",
     "3M093 GBEE;3M107 GBE;3M071 GBOO;3M070 GBO;3M171 RA;3M123 NDI;3M129 NDA;3M125 NDU;3M191 NDEE;3M119 NDE;",
     "3M067 NDOO;3M064 NDO;3M152 NJA;3M192 NJU;3M149 NJEE;3M134 NJOO;3M182 VI;3M185 VA;3M151 VU;3M173 VEE;3M085 VE;",
     "3M144 VOO;3M077 VO;3M164 NYIN;3M058 NYAN;3M170 NYUN;3M098 NYEN;3M060 NYON;;;2ke bk;3ax;3l;3z;3ao;3dp;3aj;3af;",
     "3be;2bh bn TEENS;4TENS;4HUNDREDS;4po;4gu+1;4hp+1;4xv;-41;0ADLAM a ALIF;3DAALI;3LAAM;3MIIM;3BA;3SINNYIIYHE;3PE;",
     "3BHE;3RA;3E;3FA;3I;3O;3ly;3YHE;3ou;3nx;3sq;3YA;3U;3JIIM;3uu;3HA;3QAAF;3GA;3is;3TU;3NHA;3VA;3iv;3GBE;3ZAL;3KPO;",
     "3hw;1c d ALIF;3DAALI;3LAAM;3MIIM;3BA;3SINNYIIYHE;3PE;3BHE;3RA;3E;3FA;3I;3O;3ly;3YHE;3ou;3nx;3sq;3YA;3U;3JIIM;",
     "3uu;3HA;3QAAF;3GA;3is;3TU;3NHA;3VA;3iv;3GBE;3ZAL;3KPO;3hw;1ALIF zt;1au+1;1qt aq;1fs;1ds ci;1GEMINATE+2;1ip;",
     "1xa aq;-4;1w;2bk;2ax;2l;2z;2ao;2dp;2aj;2af;2be;-4;1ah cb aq;2dl+1;"]

/-- Number forms and Arabic mathematical letters. -/
def numberFormNames : Block where
  first := 0x1EC71
  lines :=
    ["0INDIC SIYAQ bn bk;3ax;3l;3z;3ao;3dp;3aj;3af;3be;3gu;3cm;3fg;3ki;3fx;3jg;3gy;3jx;3hz;3aw;3ax+1;3l+1;3z+1;",
     "3ao+1;3dp+1;3aj+1;3af+1;3be+1;3bk cy;3ax+1;3l+1;3z+1;3ao+1;3dp+1;3aj+1;3af+1;3be+1;3gu+1;3cm+1;3fg+1;3ki+1;",
     "3fx+1;3jg+1;3gy+1;3jx+1;3hz+1;3LAKH;3LAKHAN;2LAKH aq;2bn KAROR;3KARORAN;3PREFIXED bk;4ax;4l;4z;4ao;4dp;4aj;",
     "4af;4be;2xx;2fb bk du;4ct;3l im;2xy aq;2bn ei bk;4ax;4gu cy;2ei LAKH aq;-76;0OTTOMAN SIYAQ bn bk;3ax;3l;3z;",
     "3ao;3dp;3aj;3af;3be;3gu;3cm;3fg;3ki;3fx;3jg;3gy;3jx;3hz;3aw;3ax+1;3l+1;3z+1;3ao+1;3dp+1;3aj+1;3af+1;3be+1;",
     "3bk cy;3ax+1;3l+1;3z+1;3ao+1;3dp+1;3aj+1;3af+1;3be+1;3gu+1;3cm+1;3fg+1;3ki+1;3fx+1;3jg+1;3gy+1;3jx+1;3hz+1;",
     "2MARRATAN;2ei bn ax;4l;4z;4ao;4dp;4aj;4af;4be;4gu;4z hp;4dp+1;4ax cy;4gu+1;2fb bk ct;4SIXTH;-194;0jv lb ho;",
     "2xr;2da;2DAL;;2ou;2se;2gi;2td;2fo;2sq;2pn;2bj;2hy;2kn;2ra;2va;2uz;2te;2tq;2kh;2ye;2uy;2fe;2THAL;2yf;2ZAH;2ll;",
     "2iu xr;3hy;3va;3te;;2ah xr;3da;;3sr;;;3gi;;3fo;3sq;3pn;3bj;3hy;3kn;3ra;3va;3uz;3te;;3kh;3ye;3uy;3fe;;3yf;;3ll;",
     "-6;2TAILED da;-4;3gi;;3fo;;3pn;;3hy;3kn;3ra;;3uz;3te;;3kh;;;3fe;;3yf;;3ll;;3iu hy;;4te;;2STRETCHED xr;3da;;",
     "3sr;;;3gi;3td;3fo;3sq;;3bj;3hy;3kn;3ra;3va;3uz;3te;;3kh;3ye;3uy;3fe;;3yf;3ZAH;3ll;3iu xr;;4va;;2LOOPED ho;3xr;",
     "3da;3DAL;3sr;3ou;3se;3gi;3td;3fo;;3pn;3bj;3hy;3kn;3ra;3va;3uz;3te;3tq;3kh;3ye;3uy;3fe;3THAL;3yf;3ZAH;3ll;-5;",
     "2h-oj xr;4da;4DAL;;4ou;4se;4gi;4td;4fo;;4pn;4bj;4hy;4kn;4ra;4va;4uz;4te;4tq;4kh;4ye;4uy;4fe;4THAL;4yf;4ZAH;",
     "4ll;-52;2do bj b gi b TATWEEL;3gi b DAL;"]

end RpcClients.Text.Name
