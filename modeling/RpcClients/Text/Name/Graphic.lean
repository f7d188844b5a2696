import RpcClients.Text.Name.Block

/-! # Names of lines, shapes and patterns -/

namespace RpcClients.Text.Name

/-- Lines, blocks and geometric shapes. -/
def drawingNames : Block where
  first := 0x2500
  lines :=
    ["0uf DRAWINGS bl t;2am+1;2bl m;2am+1;2bl dq mp t;2am+3;2bl dq mp m;2am+3;2bl nk mp t;2am+3;2bl nk mp m;2am+3;",
     "2bl bc n e;2bc bl n e am;3am n e bl;2am bc n e;2bl bc n i;2bc bl n i am;3am n i bl;2am bc n i;2bl UP n e;",
     "2UP bl n e am;3am n e bl;2am UP n e;2bl UP n i;2UP bl n i am;3am n i bl;2am UP n i;2bl m n e;2m bl n e am;",
     "2UP am n e bc bl;2bc am n e UP+1;2m am n e+1;2bc bl n e UP am;2UP bl n e bc+1;2am m n e;2bl m n i;",
     "2m bl n i am;2UP am n i bc bl;2bc am n i UP+1;2m am n i+1;2bc bl n i UP am;2UP bl n i bc+1;2am m n i;",
     "2bl bc n t;2i am n e bc bl;2e am n i+2;2bc bl n t am;3am n t bl;2e bl n i bc am;2i bl n e+2;2am bc n t;",
     "2bl UP+2;2i am n e UP bl;2e am n i+2;2UP bl n t am;3am n t bl;2e bl n i UP am;2i bl n e+2;2am UP n t;2bl m+2;",
     "2i am n e m bl;2e am n i+2;2m bl n t am;2UP am n bc t bl;2bc am n UP+2;2m am n+2;2i UP am n e bc+1;",
     "2e UP am n i+2;2i bc am n e UP+1;2e bc am n i+2;2bc bl n UP t am;2UP bl n bc+2;2e bl n i m+1;2i bl n e+2;",
     "2am m n t;2bl h mp+1;2am+3;2bl h mp m;2am+3;2h t;3m;2bc bm n e h;3h n e bm;2h bc n e;2bc bm n i h;3h n i bm;",
     "2h bc n i;2UP bm n e h;3h n e bm;2h UP n e;2UP bm n i h;3h n i bm;2h UP n i;2m bm n e h;3h n e bm;2h m n e;",
     "2m bm n i h;3h n i bm;2h m n i;2bc bm n t h;3h n t bm;2h bc n t;2UP bm n t h;3h n t bm;2h UP n t;2m bm n t h;",
     "3h n t bm;2h m n t;2bl ARC bc n e;6i;4UP+2;6e;3ca bt e TO bi i;5i TO bi e;4gn;3i;3UP;3e;3bc;2am i;3UP;3e;3bc;",
     "2bl i n am e;3UP n am bc;2am i n bl e;3UP n bl bc;0bt ct jt;0bi bk gx+1;2du+1;1l la+1;1ct+1;1ao la+1;1l im+1;",
     "1aj la+1;0FULL+1;0i aj la+1;1l im+1;1ao la+1;1ct+1;1l la+1;1bk du+1;2gx+1;0e ct+1;0bl SHADE;0bg+1;0DARK+1;",
     "0bt bk gx jt;0e+3;0zc bi i;2e;1bt i;3n bi i n bi e;5+1;4bt e n bi i;8e;2+1;3n bi i;6n bi e;0q av;0x+1;",
     "2b mj th;2lx q c av;0av b t FILL;2m+1;2ORTHOGONAL CROSSHATCH+1;2bt i TO bi e+1;3e TO bi i+1;2ca CROSSHATCH+1;",
     "0q c av;0x+2;0q vu;0x+1;0q m+1;0x+2;0q PARALLELOGRAM;0x+1;0q UP-ap an;0x+3;0q UP-ap c+1;0x+4;0q e-ap+1;0x+3;",
     "0q e-ap c+1;0x+4;0q e-ap POINTER;0x+3;0q bc-ap an;0x+3;0q bc-ap c+1;0x+4;0q i-ap+1;0x+3;0q i-ap c+1;0x+4;",
     "0q i-ap POINTER;0x+3;0q ed;0x+1;2lx q c ed;0FISHEYE;0pt;0x ak;0ev+1;0ak b m FILL;0BULLSEYE;0q ak;0ak b i ct q;",
     "2e+2;2bi+2;2bt+2;3e zc+1;2ALL BUT bt i+2;0i ct q ak;0e+3;0og mu;1x ak;0bt ct og+2;0bi+4;0bt i zc CIRCULAR ARC;",
     "1e+3;0bi+4;1i+3;0bt ct ak;0bi+2;0q bi e an;2i+1;1bt+2;2e+1;0x mu;0av b i ct q;2e+2;2bt i ca+2;2bi e+3;",
     "0x av b m BISECTING et;1UP-ap an b cd;0UP-ap an b i ct q;4e+2;0cf ak;0x av b bt i zc;3bi+2;4e+1;3bt+2;",
     "1ak b bt i+1;3bi+2;4e+1;3bt+2;0bt i an;1e+1;0bi i+1;0x bg av;0q+2;0x bg c+1;0q+3;0bi e an;"]

/-- Weather, game and other symbols. -/
def symbolNames : Block where
  first := 0x2600
  lines :=
    ["0q SUN b RAYS;0CLOUD;0ul;0SNOWMAN;0COMET;0q od;0x+1;0vv;0THUNDERSTORM;0SUN;0ASCENDING NODE;0DESCENDING+1;",
     "0CONJUNCTION;0OPPOSITION;0q iz;0x+1;0um uf;2b qc;3X;0xe;0ul b RAIN DROPS;0HOT BEVERAGE;0x SHOGI yv;0q+2;",
     "0SHAMROCK;0ag fv FLORAL ib mu;0q i ap cr;1e+2;0x i+2;1UP+2;1e+2;1bc+2;0SKULL n CROSSBONES;0CAUTION g;",
     "0RADIOACTIVE+1;0BIOHAZARD+1;0CADUCEUS;0ANKH;0ORTHODOX gn;0uu sx;0gn OF LORRAINE;2JERUSALEM;0od n rn;0FARSI ad;",
     "0ADI SHAKTI;0HAMMER n SICKLE;0PEACE ad;0YIN ux;0TRIGRAM qm HEAVEN;2LAKE;2wq;2THUNDER;2WIND;2qe;2nf;2qf;",
     "0WHEEL OF DHARMA;0x zd dr;1ht+1;0q+2;0x SUN b RAYS;0vk du si;0LAST+2;0MERCURY;0wt g;0qf;0MALE g;0JUPITER;",
     "0SATURN;0URANUS;0NEPTUNE;0PLUTO;0ARIES;0TAURUS;0GEMINI;0CANCER;0LEO;0VIRGO;0LIBRA;0SCORPIUS;0SAGITTARIUS;",
     "0CAPRICORN;0AQUARIUS;0PISCES;0x iw;2kw;2tb;2ks;2gp;2vc;0q iw;2kw;2tb;2ks;2gp;2vc;1SPADE SUIT;0x ib+1;1ed+1;",
     "0q CLUB+1;0x SPADE+1;0q ib+1;1ed+1;0x CLUB+1;0HOT SPRINGS;0du wx;0gx+1;0BEAMED gx NOTES;1mz+1;0MUSIC FLAT g;",
     "1NATURAL+1;1SHARP+1;0lq SYRIAC gn;0mv+2;0zs ad;0RECYCLING ad qm TYPE-1 PLASTICS;4-2+1;4-3+1;4-4+1;4-5+1;4-6+1;",
     "4-7+1;3GENERIC MATERIALS;0q zs ad;0RECYCLED PAPER+1;0PARTIALLY-RECYCLED+2;0PERMANENT PAPER g;0WHEELCHAIR ad;",
     "0DIE dr-1;+5;0x ak b cd e;3ax ce;0q ak b x cd e;3ax x ce;0ri qm ux;2YIN;0DIGRAM qm az ux;2LESSER YIN;3ux;",
     "2az YIN;0x FLAG;0q+1;0HAMMER n PICK;0ANCHOR;0hq SWORDS;0STAFF OF AESCULAPIUS;0SCALES;0ALEMBIC;0FLOWER;0GEAR;",
     "0STAFF OF HERMES;0ATOM ad;0FLEUR-DE-LIS;0np x od;0l LINES CONVERGING e;3i;0WARNING g;0cx VOLTAGE+1;",
     "0DOUBLED wt+1;1MALE+1;0INTERLOCKED wt n+2;0MALE n wt+1;1b ai+1;3n MALE n wt+1;0m MALE b ai+1;0t+4;0bg x ak;",
     "1q+1;1c x+1;0MARRIAGE ad;0DIVORCE+1;0UNMARRIED PARTNERSHIP+1;0COFFIN;0FUNERAL URN;0NEUTER;0CERES;0PALLAS;",
     "0JUNO;0VESTA;0CHIRON;0q si LILITH;0SEXTILE;0SEMISEXTILE;0QUINCUNX;0SESQUIQUADRATE;0SOCCER vd;0BASEBALL;",
     "0dv KEY;0x DRAUGHTS xs;2KING;0q DRAUGHTS xs;2KING;0SNOWMAN wg SNOW;0SUN BEHIND CLOUD;0RAIN;0q SNOWMAN;",
     "0THUNDER CLOUD n RAIN;0at x SHOGI yv;1q+2;0x ed IN av;0cj LANES;0DISABLED CAR;0OPHIUCHUS;0PICK;0CAR SLIDING;",
     "0HELMET b x gn;0bq cj LANES;0CHAINS;0NO ENTRY;0ei bk-WAY i WAY TRAFFIC;0q ax+4;0x+5;0q i LANE MERGE;0x+3;",
     "0DRIVE SLOW g;0am x bc-ap an;0i ep ENTRY;0dv xe;0of ca IN x ak IN q av;0q TRUCK;0RESTRICTED i ENTRY-1;+1;",
     "0ASTRONOMICAL ad qm URANUS;0am ak b ai n ax ce k;0PENTAGRAM;0e-HANDED INTERLACED PENTAGRAM;0i+3;0ar+1;",
     "0q gn ON SHIELD;0SHINTO SHRINE;0CHURCH;0CASTLE;0HISTORIC SITE;0GEAR wg HUB;1b HANDLES;0MAP ad qm LIGHTHOUSE;",
     "0nf;0ul ON GROUND;0FOUNTAIN;0FLAG IN HOLE;0FERRY;0SAILBOAT;0av z th;0SKIER;0ICE SKATE;0kq b vd;0TENT;",
     "0pb BANK ad;0HEADSTONE GRAVEYARD+1;0FUEL PUMP;0CUP ON q av;0x FLAG b t ab q STRIPE;0q SAFETY SCISSORS;",
     "0bt BLADE+1;0q+1;0bi BLADE+1;0x+1;1am qc aq;0iz LOCATION g;0TAPE DRIVE;0AIRPLANE;0pf;0fy jp;1lp;0VICTORY+1;",
     "0WRITING+1;0bi e PENCIL;0PENCIL;0bt e PENCIL;0x NIB;0q+1;0qc aq;0am qc+1;0fd X;0am fd X;0um X;0am um X;",
     "0np kt gn;0am+2;0di cg+1;0am di+2;0dm+1;0kj x dm+1;0np+2;0MALTESE+1;0od OF DAVID;0z ot eu;1BALLOON+2;0am z+3;",
     "0z CLUB+2;0q z fm od;0x+3;0SPARKLES;0STRESS np x od;0bq+2;0di cg q+1;0q cg x+1;0np q+1;0am np+2;0nq+1;0kj x+1;",
     "0am eu;0di cg+1;0af SPOKED+1;1fm q od;2nq+1;0dp fm q+1;0af fm RECTILINEAR+2;0am af+4;0kr fm+2;0mf fm eu;0ot+1;",
     "0di cg TEARDROP+2;0am+3;0dp PETALLED q n x FLORETTE;0q+1;0x+1;0af PETALLED np q+1;0bq di cg af fm od;",
     "0am ot nq eu;0SNOWFLAKE;0TIGHT TRIFOLIATE SNOWFLAKE;0am CHEVRON+1;0SPARKLE;0am SPARKLE;0BALLOON-SPOKED eu;",
     "0af ot PROPELLER+1;0am af+4;0gn aq;0kj x ak;0gq dv gn aq;0bi e DROP-kj x av;0bt+5;0bi e kj+2;0bt+4;",
     "0q dl aq iq;0x+3;1cb+2;0q ed io x X;0am cb aq ad;0bl m hg;0bg+2;0am+2;1bm at ez hm aq iq;2+4;1h at+4;2+4;",
     "1fn bm+4;2h+4;0qv STEM sm g+1;0am cb aq+1;1ib+3;1q ib;0fv am q ib mu;0FLORAL ib;0fv FLORAL ib mu;0bg i cc iq;",
     "1e+2;1FLATTENED i+2;2e+2;1i-ap dw bp+1;1e+4;0am i-ap dw hm aq+1;1e+5;1i-ap dw bp+1;1e+4;0bl i fc+2;1e+4;",
     "0bg i jq+2;1e+3;0DINGBAT gq bq ke bk;4ax;4l;4z;4ao;4dp;4aj;4af;4be;3bn gu;1bq hb ke bk;5ax;5l;5z;5ao;5dp;5aj;",
     "5af;5be;4bn gu;1gq bq hb ke bk;6ax;6l;6z;6ao;6dp;6aj;6af;6be;5bn gu;0am WIDE-dy f p;1bb g;1io+1;1no+1;",
     "1ee mv p;1f+1;1eh+1;0DRAFTING pz f+1;0am rq-TIPPED+2;0an-dy+2;0am an+3;0tu+4;0am tu+4;0q+2;0l-D ne-xf f eb;",
     "2eg+3;0q+2;0am q qv o n f p;3ac+3;0SQUAT q+2;0am CONCAVE-fm+3;0e-SHADED x+2;0i+4;0uw-TILTED kj+3;0FRONT+5;",
     "0am bi e-kj+3;1bt+5;0ti bi+5;0jq sc;0ti bt e-kj x f p;0bq am+3;0x-FEATHERED+2;0q-FEATHERED ee mv+1;2f+1;2eh+1;",
     "0am q-FEATHERED ee+2;3f+1;3eh+1;0TEARDROP-BARBED f+1;0am TEARDROP-SHANKED+2;0WEDGE-TAILED+2;0am WEDGE+3;",
     "0di-np+2;0h jq sc;"]

/-- Further arrows, patterns of Braille, and mathematical symbols. -/
def supplementaryNames : Block where
  first := 0x27C0
  lines :=
    ["0l DIMENSIONAL dw;0x an lx c x an;0ve;0di ga;1dx;0i S-qq BAG DELIMITER;0e+4;0OR b cd kp;0ff PRECEDING ga;",
     "0dx PRECEDING kb;0m hg b t ai;0lb lr ca;0dc no;0lb of ca;0dv jl n;2OR;0x ed b CENTRED cd;0n b+1;0oh OF xg ac;",
     "0bi e jb b cd;0bt i+3;0i OUTER JOIN;0e+2;0FULL+2;0cf UP nz;1bc+1;0i n e h vw;3nz;1MULTIMAP;0dc e nz;1i+1;",
     "0UP nz b ak k;0pt DIVIDED BY t RULE;0x CONCAVE-SIDED ed;4b j TICK;5f+1;1av b j+1;3f+1;0lb i x av bp;1e+3;",
     "1i dw+1;1e+2;1i h+2;1e+3;1i x fc+1;1e+4;1i FLATTENED cc;1e+2;0ac nk p;0o+2;0cn GAPPED ak+1;0gr+3;0e p b bq bb;",
     "0dc j p;1f+1;1i e+1;1j h+1;1f+2;1i e+2;1j p sj hg;1f+3;1j h+3;1f+4;2SQUIGGLE p;0BRAILLE PATTERN BLANK;2ce-1;",
     "+1;3-12;3-3;3-13;3-23;3-123;3-4;3-14;3-24;3-124;3-34;3-134;3-234;3-1234;3-5;3-15;3-25;3-125;3-35;3-135;3-235;",
     "3-1235;3-45;3-145;3-245;3-1245;3-345;3-1345;3-2345;3-12345;3-6;3-16;3-26;3-126;3-36;3-136;3-236;3-1236;3-46;",
     "3-146;3-246;3-1246;3-346;3-1346;3-2346;3-12346;3-56;3-156;3-256;3-1256;3-356;3-1356;3-2356;3-12356;3-456;",
     "3-1456;3-2456;3-12456;3-3456;3-13456;3-23456;3-123456;3-7;3-17;3-27;3-127;3-37;3-137;3-237;3-1237;3-47;3-147;",
     "3-247;3-1247;3-347;3-1347;3-2347;3-12347;3-57;3-157;3-257;3-1257;3-357;3-1357;3-2357;3-12357;3-457;3-1457;",
     "3-2457;3-12457;3-3457;3-13457;3-23457;3-123457;3-67;3-167;3-267;3-1267;3-367;3-1367;3-2367;3-12367;3-467;",
     "3-1467;3-2467;3-12467;3-3467;3-13467;3-23467;3-123467;3-567;3-1567;3-2567;3-12567;3-3567;3-13567;3-23567;",
     "3-123567;3-4567;3-14567;3-24567;3-124567;3-34567;3-134567;3-234567;3-1234567;3-8;3-18;3-28;3-128;3-38;3-138;",
     "3-238;3-1238;3-48;3-148;3-248;3-1248;3-348;3-1348;3-2348;3-12348;3-58;3-158;3-258;3-1258;3-358;3-1358;3-2358;",
     "3-12358;3-458;3-1458;3-2458;3-12458;3-3458;3-13458;3-23458;3-123458;3-68;3-168;3-268;3-1268;3-368;3-1368;",
     "3-2368;3-12368;3-468;3-1468;3-2468;3-12468;3-3468;3-13468;3-23468;3-123468;3-568;3-1568;3-2568;3-12568;3-3568;",
     "3-13568;3-23568;3-123568;3-4568;3-14568;3-24568;3-124568;3-34568;3-134568;3-234568;3-1234568;3-78;3-178;3-278;",
     "3-1278;3-378;3-1378;3-2378;3-12378;3-478;3-1478;3-2478;3-12478;3-3478;3-13478;3-23478;3-123478;3-578;3-1578;",
     "3-2578;3-12578;3-3578;3-13578;3-23578;3-123578;3-4578;3-14578;3-24578;3-124578;3-34578;3-134578;3-234578;",
     "3-1234578;3-678;3-1678;3-2678;3-12678;3-3678;3-13678;3-23678;3-123678;3-4678;3-14678;3-24678;3-124678;3-34678;",
     "3-134678;3-234678;3-1234678;3-5678;3-15678;3-25678;3-125678;3-35678;3-135678;3-235678;3-1235678;3-45678;",
     "3-145678;3-245678;3-1245678;3-345678;3-1345678;3-2345678;3-12345678;0f ax-dy p b m ai;5h+2;0j h p b+2;0f+5;",
     "0i e+5;0f ax-dy p sj hg;0j h+3;0f+4;0o p b t ai;0ac+4;1dq p;0o+2;0j h mp+1;0f+3;0j dq+2;0f+3;1ax-dy+3;",
     "1p b ev STEM;0ac p TO hg;0o+3;0f p b gj b m ai;5h+2;1ax-dy p b gj;6b m ai;7h+2;0j p-gj;0f+2;0j h+2;0f+3;",
     "0j p TO q ed;0f+4;0j p sj hg+3;0f+6;0cv n ee mv p;1mv n ee lq+1;1lq p b bx;1mv+3;0ee+4;1lq+3;0cv p n eh p;",
     "1mv p n ee+2;0ee mv p n ee lq+1;1lq p n vg+2;0lr ca cj of ca;0of ca cj lr+1;0ee mv p cj eh p;0eh p cj ee+2;",
     "0of ca cj vg+2;0lr ca cj ee+2;0eh p cj cv+1;1lq p cj eh+1;0pc p ap DIRECTLY e;0p ap f xh ac;5o;2o xh j;5f;",
     "0e-nr ARC gr p;0i-nr ARC cn+1;0ne+3;0eg+3;0ne ARC gr p b io;2cn p b bb;0bi e xi gr p;1i xi cn+1;0cn ep ak+1;",
     "0gr+3;0f p k cz j+1;0j p k cz f+1;0cz f p k j+1;0f p b bb y;0j+4;0f p kx X;0i e p kx c ak;0ac ax-dy p sj+2;",
     "0i gb UP e gb bc ck;2bc e gb UP+1;0UP gb e bc gb i+1;2i bc gb e+1;0i gb UP e gb UP+1;0UP gb e bc gb e+1;",
     "0i gb bc e gb bc+1;0UP gb i bc gb i+1;0j ck b gb UP TO hg;0f+6;0ac ck b gb e+2;0o+6;0j ck b gb bc+2;0f+6;",
     "0ac ck b gb i+2;0o+6;0j ck b gb UP sj+1;0f+6;0ac ck b gb e+2;0o+6;0j ck b gb bc+2;0f+6;0ac ck b gb i+2;0o+6;",
     "0j ck b gb UP k j ck b gb bc;0ac ck b gb i pg ac ck b gb e;0f ck b gb UP k f ck b gb bc;",
     "0o ck b gb i pg o ck b gb e;0j ck b gb UP k f ck b gb UP;4bc k f ck b gb bc;0f ck b gb UP k j ck b gb UP;",
     "4bc k j ck b gb bc;0j ck b gb UP k dc mp;4bc y+2;0f ck b gb UP k+2;4bc y+2;0ac ck b gb i pg o ck b gb e;",
     "0o ck b gb i pg ac+4;0e h p b mj rb;0es g k f p;0bz do+3;0j p k bz do;0f+4;3mt bo;0as k j p;0j p kx as;",
     "0az-ma k f p;0ga+3;0j p kx ga;0dx k j p;0i FISH gj;0e+2;0UP+2;0bc+2;0dq m hg DELIMITER;0Z nl SPOT;2TYPE hx;",
     "0i x jq bp;0e+3;0i x cc;0e+2;0Z nl i IMAGE bp;2e+2;2i BINDING+1;2e+2;0i av bp b hk;0e+4;",
     "0i av bp b TICK IN ne jb;0e av bp b TICK IN eg+1;0i+7;0e av bp b TICK IN ne+1;0i dw bp b cd;0e+4;0i ARC as bp;",
     "0e ARC az+2;0h i+4;1e ARC wk+2;0i q fc+1;0e+4;0ev FENCE;0m sn et;0un dw xg i;0e dw VARIANT b av;0un e dw b cd;",
     "0dw b S kp;0ch dw;0SPHERICAL dw xg i;3UP;0at dw;0ag+1;0dw b hk;0ag dw+2;0tc dw xg UP;3bc;",
     "0un dw b di ARM ENDING IN p ap UP n e;9UP n i;9bc n e;9bc n i;9e n UP;9i+2;9e n bc;9i+2;0ag yz SET;",
     "0yz SET b ml;3c ak k;3e p+1;3i+2;0ak b t hg;0bq m+1;1ns;1ff;1ve;0ak DIVIDED BY t hg n ne ct DIVIDED BY m hg;",
     "1b SUPERIMPOSED X;0bq cn-fv no g;0UP p kx ak;0bq x mu;1+1;1as;1az+1;0ak b c ak TO pj e;2ax t STROKES+3;",
     "0dv lr ca on;1of+2;1eu;1c ak;1av;0ax JOINED SQUARES;0an b cd k;2hk;0S IN an;0an b SERIFS AT eg;0e an k i an;",
     "0i an pg m hg;0m hg pg e an;0BOWTIE b i ct q;2e+2;0q BOWTIE;0ae b i ct q;2e+2;0x HOURGLASS;0q+1;",
     "0i WIGGLY FENCE;0e+2;0i h+2;0e+3;0INCOMPLETE uo;0TIE by+1;0uo NEGATED b m hg;0h-ENDED MULTIMAP;",
     "0av b CONTOURED OUTLINE;0INCREASES AS;0SHUFFLE oi;0es g n hc ns;5b bz k;0vx TO n hc ns;0GLEICH STARK;",
     "0THERMODYNAMIC;0bc-ap an b i ct q;4e+2;0q ed b bc p;1pt;0x ak b bc p;0q+4;0ERROR-ql x av;2q+1;2x ed;2q+1;",
     "2x ak;2q+1;0RULE-DELAYED;0ff do;0kb b ml;0ff b t ai;0BIG kb;1ky+1;0h bb;0dq+1;0i-ap qv dw bp;0e+4;0TINY;0MINY;",
     "0N-ARY bq cd do;3bb+1;3ae+1;2mm do b cd;5bb;2av dd do;3mm+1;0ax jl n+1;2OR+1;0N-ARY ae+1;0MODULO ax SUM;",
     "0vy b jm;0nk jm do;0FINITE PART jm;0jm b h ai;1AVERAGE b on;0CIRCULATION FUNCTION;0cn INTEGRATION;",
     "0et INTEGRATION b RECTANGULAR PATH AROUND POLE;3xi+3;2oy INCLUDING pj+1;0jm AROUND A pz do;0QUATERNION jm+1;",
     "0jm b j p b bx;2ae g;2dd;2mm;2ml;2hk;0JOIN;0cf i an do;0Z nl SCHEMA ze;3PIPING;3PROJECTION;0bb g b c ak k;",
     "3al er+1;3bz+1;3cd y;3bz+1;3nd ax;3q an;0io g b ez k;3cd y;3of ce;3lr+1;0bb g IN i ct ak;3e+2;",
     "0VECTOR OR gn oi;0fd g b cd k;3hk;0SEMIDIRECT oi b eg ep;0SMASH oi;0fd g IN i ct ak;3e+2;0bq fd g b al er;",
     "0fd g IN h ak;0bq no g;0bb g IN an;0io+3;0fd+3;0INTERIOR oi;0RIGHTHAND INTERIOR+1;0Z nl RELATIONAL ze;",
     "0AMALGAMATION OR COPRODUCT;0dd b cd;0mm b io g;2ml;0dd+2;2jl n;0mm b jl OR;1k dd;0dd k mm;0mm k hg k dd;",
     "0dd k hg k mm;0mm pg n JOINED b+1;0dd pg n JOINED b dd;0ep mm b SERIFS;1dd+2;0h av dd;2mm;",
     "0ep mm b SERIFS n SMASH oi;0jl n b cd k;1OR+3;0h jl n;2OR;0ax INTERSECTING jl n;3OR;0SLOPING cf+1;2n;",
     "0jl OR zf jl+1;1n b ab STEM;1OR+3;1n b t mp;1OR+3;1n b h ml;3hk;3h+1;0c VEE b+1;0jl OR b h ml;4hk;",
     "0Z nl DOMAIN ANTIRESTRICTION;2RANGE+1;0es g b cd y;0vx b cd k;0dq t hg b h m ai;4dq+2;0bz do b cd k;3lr ce;",
     "0tj io tj;0CONGRUENT b cd k;0es b eu;0mt bo b al er;0mw lw OR bo;0es g k bb g;0bb g k es+1;0es g k bz do;",
     "0h hx lw;0ax CONSECUTIVE es SIGNS;0l+3;0es g b ax ce k n ax ce y;0jz b z ce k;0as b ak kp;0az+4;0as b dl aq k;",
     "0az+5;0as OR hc bo;0az+5;0as OR hc bo b cd kp;0az+8;0as OR hc bo b cd k;0az+8;0as OR hc bo b cd k e;",
     "0az-ma OR hc bo b cd k i;0as OR APPROXIMATE;0az+3;0as n bm-et oy bo;0az+7;0as n oy APPROXIMATE;0az+4;",
     "0as k h-et lw k az-ma;0az-ma k h-et lw k wk+1;0as k tj OR lw;0az+5;0as k tj k az-ma;0az-ma k tj k wk+1;",
     "0as k az-ma k h-et lw;0az-ma k wk+5;0as k hc lw k az-ma k hc+1;0az-ma k hc lw k wk+4;0hc bo OR as;4az+1;",
     "4as b cd kp;4az+4;0h-et bo OR as;5az+1;2hc bo OR wk+1;6az+1;0tj OR wk+1;2az+1;1k as k es g;2az+4;0h NESTED as;",
     "2az+1;2as b hk;0az-ma zf as;2pg+2;0as ep BY os;0az+4;0as ep BY os k hc lw;0az+7;0SMALLER ma;0LARGER+1;",
     "0SMALLER ma OR bo;0LARGER+4;0es g b BUMPY k;0ie k bm-et es g;0if+5;0ie k bm-et oy bo;0if+6;0ie k es g;0if+3;",
     "0ie k oy bo;0if+4;0ie k mt+2;0if+4;0ie k oy+3;0if+5;0h ie;1if;0ga b cd;0dx+2;0ga b bb g y;0dx+4;0ga b fd+2;",
     "0dx+4;0ga OF OR bo b cd k;0dx+7;0ga OF k es g;0dx+4;0ga OF k bz do;0dx+4;0ga OF k mt bo;0dx+5;0ga OF k oy+2;",
     "0dx+5;0av i di uf do;1e+3;0ep ga;1dx;1ga OR bo;1dx+3;0ga k dx;0dx k ga;0ga+2;0dx k dx;1pg ga;",
     "2n JOINED BY mp b+1;0oh OF xg o;0PITCHFORK b TEE ne;0TRANSVERSAL dd;0FORKING;0NONFORKING;0cz i nz;1bc+1;1UP+1;",
     "0ve b S;0m hg dq e vw;0h m hg i+1;0m hg h+2;0h m+4;0dc mp sj i MEMBER OF h m;0cz bc nz b ml;1UP nz b hk;",
     "3k cz bc nz;0h+2;1UP+1;1ai oy g;0ag h+3;0kk DIVIDE b ag NEGATION on;0m et b ak k;4y;0bc nz+3;0ns b t ai;",
     "2bz do;0dq m hg BINARY RELATION;3b t ai;1hx do;1NESTED as;2az+1;0h-et hc as OR bo;3az+4;",
     "0dq kb BINARY RELATION;0cf dq m hg do;0h kb+1;0x m hg;0N-ARY x+2;0eh x p;1lq+2;0ee mv+2;1lq+2;0i e+2;0j q+1;",
     "0ac+2;0o+2;0eh+2;1lq+2;0ee mv+2;1lq+2;0i e+2;0UP bc+2;0f p b TIP o;4ac;0j p b TIP o;4ac;0av b ne ct q;2eg+2;",
     "2bt e ca+2;2bi i+3;0ed b i+2;2e+2;2ne+2;2eg+2;0ev av;0q cf+1;0x+2;0q qx c+1;0x+3;0q PENTAGON;0x+1;1HEXAGON;",
     "0q+1;0t q+1;0q cf ak;1bg ed;0x+2;0q bg pt;0x+2;0q c ed;2pt;0x+2;0q t ELLIPSE;0x+2;0q m+1;0x+2;0i p b c ak;",
     "0l j so;0i p b bq bb;0dc j SQUIGGLE p;0j ax-dy p b m ai;5h+2;4sj hg;3dq mp p;1p b ev STEM;3gj b m ai;5h+2;",
     "1ax-dy p b gj;6b m ai;7h+2;1p kx X;0pc p ap DIRECTLY i;0es g k j p;0ky bz do+3;0j p k ky mt bo;0f p kx az-ma;",
     "3dx;0j nk p;0f+2;0ky bz do k f+1;0f p k ky mt bo;0bz do k j p;0j p k mt bo;3ky bz do;0f+5;0o an-dy sn p;",
     "0cz hc vg+1;1zg ee+1;0x bg od;0q c+1;0x+2;0q e-ap PENTAGON;0x+3;0am cf ak;1OVAL b OVAL kp;1ak b ak+1;2;1bq xe;",
     "0hc vg p b xj rb;0zg ee p b xj gj;0hc vg p b t+1;0zg ee+4;0nt p ap o THEN eh;0cz nt+6;0j an-dy p;0ac+3;0f+3;",
     "0o+3;0i e+3;0UP bc+3;0cv+3;1mv+3;0ee+4;1lq+3;0j an-dy tu+1;0ac+4;0f+4;0o+4;0gr an-dy di ak+1;0cn+5;",
     "0j an-dy p TO hg;0ac+5;0f+5;0o+5;;;0cv+5;1mv+5;0ee+6;1lq+5;0j an-dy p b h t ai;0ac+7;0f+7;0o+7;0t TAB KEY;",
     "0m+2;0j an-dy p by f an-dy p;0ac an-dy p j OF o+3;0f an-dy p by j+3;0o an-dy p j OF ac+3;0j an-dy PAIRED so;",
     "0ac+4;0f+4;0o+4;0j q bq x p;0ac+4;0f+4;0o+4;0cn an-dy e U-qq+1;3eg+3;3i+3;3ne+3;0RETURN i;1e;0NEWLINE i;1e;",
     "0z jb so CIRCLING cn;0f q p;;0ad qm TYPE A ELECTRONICS;0l-D ne-xf j EQUILATERAL eb;2e-xf ac+2;2ne-xf f+2;",
     "2i-xf o+2;0q j+2;1ac+2;1f+2;1o+2;0o an-dy p b dc TIP j;7f;0ac an-dy p b dc TIP j;7f;0j an-dy p b dc TIP ac;",
     "0f+7;0j an-dy p b dc TIP o;0f+7;0q qv o n j p;4f+1;2ac n j+1;4f+1;2j n ac+1;2f+3;2j n o+1;2f+3;0RIBBON p bc i;",
     "3e;2UP i;3e;2i UP;2e+1;2i bc;2e+1;0ac x p sj hg b t hg;0UP eb IN A vu uf;0zf x SQUARES;2n q+1;1+2;",
     "0um uf b bl X;0bq X;1lv X;0q av CENTRED;1ed+1;0at q PENTAGON;0t q OCTAGON;0q+1;1bg UP-ap an CENTRED;2bc+3;",
     "2i+3;2e+3;0NEPTUNE km ax;0ne ct q ak;0eg+3;0bl z fm q CUSP;0fv bl+4;0x z fm+1;0fv x+3;0av zh lf;",
     "0UNCERTAINTY g;0GROUP aq;0PLUTO km ax;2l;2z;2ao;0TRANSPLUTO;0PROSERPINA;0ASTRAEA;0HYGIEA;0PHOLUS;0NESSUS;",
     "0x si SELENA;0q ed ON gn;0TRUE bl si ARTA;0CUPIDO;0HADES;0ZEUS;0KRONOS;0APOLLON;0ADMETOS;0VULCANUS;0POSEIDON;",
     "0i ct q od;0e+3;0od b i ct q;2e+2;0j ax-dy p b an ARROWHEADS;0ac+6;0f+6;0o+6;0ERIS km bk;2ax;0SEDNA;",
     "0RUSSIAN ASTROLOGICAL ad VIGINTILE;3NOVILE;3QUINTILE;3BINOVILE;3SENTAGON;3TREDECILE;0es g b uo y;0UNITED ad;",
     "0SEPARATED+1;0DOUBLED+1;0PASSED+1;0ag e dw;0HELLSCHREIBER PAUSE ad;"]

end RpcClients.Text.Name
