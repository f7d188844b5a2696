import RpcClients.Text.Name.Block

/-! # Names of punctuation and symbols -/

namespace RpcClients.Text.Name

/-- Spaces, dashes, quotation marks, raised and lowered digits, and currency signs. -/
def punctuationNames : Block where
  first := 0x2000
  lines :=
    ["0EN us;0EM+1;0EN qb;0EM+1;0l-PER-EM+1;0z+3;0dp+3;0FIGURE+1;0bf+1;0THIN+1;0HAIR+1;0uv WIDTH+1;2NON-ue;2ue;",
     "0i-TO-e aq;0e-TO-i+1;0jd;0NON-BREAKING jd;0FIGURE mp;0EN+1;0EM+1;0t hg;0h m et;1fn+1;0i bm hm aq;0e+3;",
     "0bm fn-9+2;1cx-ag+3;0i h+2;0e+3;0h fn-9+2;1cx-ag+3;0wp;0h wp;0mu;0ia mu;0bk cd LEADER;0ax+2;0t tt;",
     "0HYPHENATION pz;0et ek;0sm+1;0i-TO-e EMBEDDING;0e-TO-i+1;0POP DIRECTIONAL FORMATTING;0i-TO-e OVERRIDE;",
     "0e-TO-i+1;0NARROW NO-BREAK qb;0PER MILLE g;1gu cy+1;0PRIME;0h PRIME;0dq+1;0ag+1;1h+1;1dq+1;0tm;",
     "0bm i-ap dw hm aq;1e+4;0REFERENCE+1;0h cb+1;0yk;0tv;0UNDERTIE;0le TIE;0tm INSERTION pz;0ASTERISM;0jd mu;",
     "0fb on;0i av bp b QUILL;0e+4;0h dl aq;0dl cb+1;0cb dl+1;0TIRONIAN g ET;0ag PILCROW g;0q j mu;1f+1;0fn eu;",
     "0ag hl;0CLOSE UP;0ax ASTERISKS ALIGNED lk;0COMMERCIAL io g;0SWUNG mp;0ar UNDERTIE;0FLOWER bf aq;0l cd bf;",
     "0nk PRIME;0z cd bf;0ao+2;0ax+2;0z cd aq;0ev gn;0TRICOLON;0m z ce;0bg lb qb;0sd ue;0FUNCTION APPLICATION;",
     "0INVISIBLE ae;1ek;1bb;;0i-TO-e ISOLATE;0e-TO-i+1;0vk STRONG+1;0POP DIRECTIONAL+1;0INHIBIT SYMMETRIC SWAPPING;",
     "0ACTIVATE+2;0INHIBIT jv km SHAPING;0ACTIVATE+3;0NATIONAL ke SHAPES;0NOMINAL+2;0gg uv;1dm c d I;;;1z;1ao;1dp;",
     "1aj;1af;1be;1bb g;1io;1es g;1i cc;1e+1;1dm c d N;0nd uv;1bk;1ax;1l;1z;1ao;1dp;1aj;1af;1be;1bb g;1io;1es g;",
     "1i cc;1e+1;;0dm nd c d A;4E;4O;4X;4tn;4H;4K;+3;4P;4S;4T;;;;0EURO-rt g;0hx+1;0CRUZEIRO+1;0FRENCH FRANC+1;",
     "0LIRA+1;0MILL+1;0NAIRA+1;0PESETA+1;0xy+1;0WON+1;0NEW SHEQEL+1;0DONG+1;0EURO+1;0KIP+1;0TUGRIK+1;0DRACHMA+1;",
     "0GERMAN PENNY+1;0PESO+1;0GUARANI+1;0AUSTRAL+1;0HRYVNIA+1;0CEDI+1;0LIVRE TOURNOIS+1;0SPESMILO+1;0TENGE+1;",
     "0INDIAN xy+1;0TURKISH LIRA+1;0NORDIC aq+1;0MANAT+1;0RUBLE+1;0LARI+1;0BITCOIN+1;0SOM+1;-15;0bh i ck k;1e+2;",
     "1dc m et mb;1cz+3;1cn p k;1gr+2;1i+2;1e+2;1dk mb;1gr+2;1cn+2;1l ce k;1z+2;1ENCLOSING ak;2av;2ed;2ak nu;",
     "1i e p k;1ENCLOSING SCREEN;2KEYCAP;2UPWARD ap an;1ff mb;1h m ai+1;1ANNUITY ad;1dq UNDERDOT;1WIDE xb k;1j p mb;",
     "1dc h kb+1;1f ck b gb o;1j+4;1i p y;1e+2;1eu k;"]

/-- Letters and numbers used as symbols. -/
def letterlikeNames : Block where
  first := 0x2100
  lines :=
    ["0ACCOUNT OF;0ADDRESSED TO pj SUBJECT;0h-oj aa C;0DEGREE CELSIUS;0cg et ad;0CARE OF;0CADA UNA;0EULER CONSTANT;",
     "0SCRUPLE;0DEGREE FAHRENHEIT;0gv c G;1aa H;0q-d+2;0h-oj+2;0PLANCK CONSTANT;2by ax PI;0gv aa I;0q-d+2;0gv aa L;",
     "1c L;0L B hg ad;0h-oj aa N;0NUMERO g;0ox RECORDING COPYRIGHT;0gv aa P;0h-oj+2;3Q;0gv aa R;0q-d+2;0h-oj+2;",
     "0PRESCRIPTION TAKE;0RESPONSE;0SERVICE aq;0iz g;0TRADE aq+1;0VERSICLE;0h-oj aa Z;0OUNCE g;0OHM+1;0ar OHM+1;",
     "0q-d aa Z;0at kt c d jo;0KELVIN g;0ANGSTROM+1;0gv aa B;0q-d aa C;0ESTIMATED ad;0gv c E;1aa E;2F;0at+2;",
     "0gv aa M;1c O;0ho ad;0BET+1;0lj+1;0DALET+1;0zk SOURCE;0fv aa Q;0FACSIMILE g;0h-oj c PI;3js;2aa+1;3PI;",
     "2N-ARY vy;0at hb aa G;4L;0ag+4;0at hb aa Y;0h-oj ob aa D;3c D;4E;4I;4J;0PROPERTY et;0at nc;0PER g;",
     "0AKTIESELSKAB;0at c F;0ad qm SAMARITAN SOURCE;0VULGAR fb bk SEVENTH;3NINTH;3TENTH;3qd;2ax qo;2bk FIFTH;",
     "2ax FIFTHS;2l+1;2z+1;2bk SIXTH;2ao SIXTHS;2bk gx;2l la;2ao+1;2aj+1;0fb NUMERATOR bk;0ROMAN oc+1;2ax;2l;2z;2ao;",
     "2dp;2aj;2af;2be;2gu;2lo;2kr;2fx;2aw;2ao+1;2bk cy;0c ROMAN oc bk;3ax;3l;3z;3ao;3dp;3aj;3af;3be;3gu;3lo;3kr;3fx;",
     "3aw;3ao+1;3bk cy;0ROMAN oc bk cy C D;2ao cy;2gu+1;2ag aw;0dm c d ag C;0ROMAN oc dp LATE km;2fx EARLY+1;3cy;",
     "2aw+1;0VULGAR fb uv qo;0at ke ax;2l;"]

/-- Arrows. -/
def arrowNames : Block where
  first := 0x2190
  lines :=
    ["0j p;0ac+1;0f+1;0o+1;0i e+1;0UP bc+1;0cv+1;1mv+1;0ee+2;1lq+1;0j p b ai;0f+3;0j pc p;0f+2;0j ax dy+1;0ac+3;",
     "0f+3;0o+3;0j p b gj;0f+3;0j p sj hg;0ac+3;0f+3;0o+3;0UP bc p b BASE;0j p b bx;0f+3;0j p b sc;0f+3;0i e pc p;",
     "2p b ai;0o sn p;0ac p b TIP j;4f;0o p b TIP j;4f;0f p b jb o;0o p b jb j;0cn ne SEMICIRCLE p;0gr+3;",
     "0cv p TO dc hg;0j p TO hg by f p TO+1;0cn di ak p;0gr+3;0j ck b gb ac;4o;0ac ck b gb f;4j;0f ck b gb ac;4o;",
     "0o ck b gb f;4j;0f p by j p;0ac p j OF o+1;0j p by f+1;1PAIRED so;0ac+2;0f+2;0o+2;0j ck by f ck;0f ck by j+1;",
     "0j h p b ai;0i e+4;0f+4;0j h p;0ac+2;0f+2;0o+2;0i e+2;0UP bc+2;0cv+2;1mv+2;0ee+3;1lq+2;0j dq+1;0f+2;",
     "0j SQUIGGLE+1;0f+2;0ac p b h ai;0o+4;0j tu p;0ac+2;0f+2;0o+2;0j p TO hg;0f+3;0j x p;0ac+2;0f+2;0o+2;",
     "0ac x p sj hg;3ON PEDESTAL;5b t hg;6m+1;2h p;4ON PEDESTAL;0f x p sj WALL;0cv p TO jb;0ee mv+3;0UP bc x p;",
     "0e p b c ak;0o p j OF ac p;0l f so;0j p b m ai;0f+4;0i e+4;0j p b h+2;0f+5;0i e+5;0j di-dy p;0f+3;0i e+3;"]

/-- Mathematical operators. -/
def mathematicalNames : Block where
  first := 0x2200
  lines :=
    ["0qm ALL;0COMPLEMENT;0gh;0THERE EXISTS;1kk EXIST;0yz SET;0INCREMENT;0NABLA;0oh OF;0oy AN oh+1;0c+2;",
     "0nv AS MEMBER;0kk CONTAIN+2;0c nv+2;0ji PROOF;0N-ARY oi;2COPRODUCT;2vy;0io g;1-OR-bb+1;0cd bb;0no on;0SET io;",
     "0eu do;0dk+1;0mu+1;0av ROOT;0CUBE+1;0ty+1;0PROPORTIONAL TO;0uo;0e dw;0dw;0un dw;0SPHERICAL+1;0DIVIDES;",
     "0kk DIVIDE;0ns TO;0oy ns+1;0jl n;1OR;0dd;0mm;0jm;0h jm;0dq+1;0CONTOUR+1;0SURFACE+1;0VOLUME+1;0gr+1;1CONTOUR+1;",
     "0cn+2;0THEREFORE;0BECAUSE;0RATIO;0PROPORTION;0cd io;0EXCESS;0GEOMETRIC PROPORTION;0HOMOTHETIC;0bz do;0ag bz;",
     "0ar LAZY S;0SINE pc;0WREATH oi;0oy bz;0io+1;0ASYMPTOTICALLY bo;0oy ASYMPTOTICALLY+2;0mw+2;1BUT oy ACTUALLY+2;",
     "0xq mw NOR+3;0mt+2;0oy mt+2;0mt lw OR+2;0dq bz;0ALL bo;0jz+1;0GEOMETRICALLY jz+1;0DIFFERENCE hd;",
     "0APPROACHES pj LIMIT;0GEOMETRICALLY bo;0mw bo OR pj ry;0ry OR mw bo;0hx es;0es hx;0dk IN bo;1+2;",
     "0CORRESPONDS+1;0ESTIMATES;0EQUIANGULAR TO;0od es;0jr bo;0bo BY DEFINITION;0un BY;0QUESTIONED bo;0oy+2;0vx+1;",
     "0oy vx+1;0STRICTLY jz+1;0as OR lw+1;0az+4;0as by+2;0az+4;0as BUT oy+2;0az+5;0MUCH as;1az+1;0hd;0oy jz TO;1as;",
     "1az+1;0xq as NOR bo;1az+4;0as OR jz+1;0az+4;0xq as NOR+2;1az+4;0as OR az-ma;0az-ma OR wk+1;0xq as NOR az+1;",
     "1az-ma NOR wk+1;0ie;0if;0ie OR bo;0if+3;0ie OR jz+1;0if+3;0kk PRECEDE;2SUCCEED;0ga OF;0dx+1;0oy A ga+1;2dx+1;",
     "0ga OF OR bo;0dx+4;0xq A ga OF NOR+2;2dx+4;0ga OF b oy+2;0dx+5;0MULTISET;1fd;1mm;0av ry;1ut+1;1ry OR bo;1ut+4;",
     "1CAP;1CUP;0bq bb;1io;1ae;1no on;1cd do;1dk+1;1eu+1;1es;1mp;0dv bb;1io;1ae;1cd do;0e nz;0i+1;0bc+1;0UP+1;",
     "0ASSERTION;0MODELS;0TRUE;0FORCES;0dq m hg e vw;0h m hg h+2;0kk PROVE;0oy TRUE;0kk FORCE;",
     "0NEGATED h m hg h e vw;0ie wb RELATION;0if+2;0gd OF;0nv AS gd;0gd OF OR bo;0nv AS gd+3;0ut OF;0IMAGE+1;",
     "0MULTIMAP;0HERMITIAN CONJUGATE MATRIX;0INTERCALATE;0XOR;0NAND;0NOR;0e dw b ARC;1an;0N-ARY jl n;3OR;2dd;2mm;",
     "0ed do;0cd+1;0od+1;0no ae;0BOWTIE;0i NORMAL FACTOR SEMIDIRECT oi;0e+4;0i+2;0e+2;0ag bz es;0jq jl OR;2n;0h ga;",
     "1dx;1dd;1mm;0PITCHFORK;0lw n ns TO;0as b cd;0az+3;0qx MUCH as;2az+1;0as bo OR+2;0az-ma bo OR wk+1;0lw+4;3az+1;",
     "3ie;3if;0kk PRECEDE OR lw;2SUCCEED+2;0oy av ry OR bo;2ut+4;0av ry OR oy+2;1ut+5;0as BUT oy jz+1;0az+5;0ie+4;",
     "0if+4;0oy gd OF;0kk CONTAIN AS gd;0oy gd OF OR bo;0kk CONTAIN AS gd OR lw;0m tt;0MIDLINE t+1;0UP e ca+1;0bc+3;",
     "0oh OF b dc t ai;3m hg AT ji+2;0c oh+9;0oh OF b cd k;3ml;0c oh+3;0oh OF b hk;3ax t STROKES;0nv b dc t ai;",
     "2m hg AT ji+2;0c nv+8;0nv b ml;0c nv+2;0Z nl BAG MEMBERSHIP;"]

/-- Technical symbols, control pictures and enclosed letters. -/
def technicalNames : Block where
  first := 0x2300
  lines :=
    ["0DIAMETER g;0zl p;0HOUSE;0UP eb;0bc+1;0PROJECTIVE;0PERSPECTIVE;0yg et;0i tk;0e+1;0i zn;0e+1;0eg e CROP;1i+1;",
     "0ne e+1;1i+1;0ag oy g;0av pt;0ARC;0SEGMENT;0SECTOR;0iz RECORDER;0zh lf;0VIEWDATA av;0PLACE OF INTEREST g;",
     "0at oy+1;0WATCH;0HOURGLASS;0ne i jb;1e+1;0eg i+1;1e+1;0ne ct jm;0eg+2;0FROWN;0SMILE;0UP eb hd ax t BARS;",
     "0OPTION KEY;0ERASE TO pj e;0X IN A vu uf;0up;0i-ap dw bp;0e+3;0ERASE TO pj i;0BENZENE dk;0CYLINDRICITY;",
     "0ALL AROUND-PROFILE;0SYMMETRY;0TOTAL RUNOUT;0DIMENSION ORIGIN;0CONICAL TAPER;0SLOPE;0COUNTERBORE;0COUNTERSINK;",
     "0APL FUNCTIONAL ad I-BEAM;3SQUISH us;3us lw;4DIVIDE;4ed;4JOT;4ak;3ak STILE;4JOT;3on hg;3nu+1;3us on;4nu;4as;",
     "4az+1;3j VANE;3f+1;3us j p;4f+1;3ak nu;3bc nz hk;3jr STILE;3us bc tm;4jr;3bc nz JOT;3ac VANE;3us ac p;",
     "3UP nz ml;3DEL STILE;3us UP tm;4DEL;3UP nz JOT;3o VANE;3us o p;3QUOTE hk;3jr+1;3ed+1;3JOT+1;3ak+1;",
     "3UP SHOE JOT;3QUOTE us;3ak od;3us hx;3UP nz ba;3DEL+1;3od+1;3JOT+1;3ak+1;3bc SHOE STILE;3i+2;3bz ba;3az-ma+1;",
     "3ez hg;3DEL bz;3ZILDE;3STILE bz;3hl hk;3us oy lw;4dl;3bc tm bz;3UP+2;3jo;3sx;3fq;3fw hk;3eq+1;3jo+1;3fq+1;3fw;",
     "0oy qc aq;0e dw b o sn p;0SHOULDERED di uf;0BELL ad;0m et b ab cd;0INSERTION ad;0CONTINUOUS UNDERLINE+1;",
     "0DISCONTINUOUS+2;0EMPHASIS+1;0ze+1;0x av b cg m et;0ENTER ad;0yc KEY+1;0HELM+1;0bq t hg b NOTCH;1an bc;",
     "0zw ak b NORTHWEST p;0UNDO ad;0MONOSTABLE+1;0HYSTERESIS+1;0di-CIRCUIT-OUTPUT H-TYPE+1;3L+2;",
     "0PASSIVE-PULL-bc-OUTPUT+1;2-UP+2;0DIRECT CURRENT ad km ax;0SOFTWARE-FUNCTION ad;0APL FUNCTIONAL ad us;",
     "0DECIMAL ek KEY ad;0PREVIOUS PAGE;0NEXT+1;0PRINT SCREEN ad;0CLEAR+2;0i cc bt bx;2nw;2bi bx;0e cc bt+1;2nw;",
     "2bi bx;0i av bp bt jb;3nw;3bi jb;0e av bp bt+1;3nw;3bi jb;0i jq bp bt bx;3ab yv;3bi bx;0jq bp nw;",
     "0e jq bp bt bx;3ab yv;3bi bx;0jm nw;0t et+1;0bt i OR bi e jq bp gk;1e OR bi i+3;0vy ne;1eg;0ne av bp;0eg+2;",
     "3by ne av bp;0RADICAL ad eg;0i m uf et;0e+3;0t SCAN et-1;3-3;3-7;3-9;0DENTISTRY ad bl m n ne e;5eg+1;4b ak;",
     "3bc n t+2;3UP+4;3m b an;3bc n t+2;3UP+4;3m n pc;3bc n t b+1;3UP+4;3bc n t;3UP+2;3m n ne i;5eg+1;0av FOOT;",
     "0RETURN ad;0EJECT+1;0m et nw;0METRICAL fi;1dc by cz;1cz by dc;1dc by ax SHORTS;1ax SHORTS by dc;3JOINED;",
     "1TRISEME;1TETRASEME;1PENTASEME;0qf GROUND;0FUSE;0ne cc;0eg+1;0ne jq bp;0eg+2;0ne fc+1;0eg+3;0x TRAPEZIUM;",
     "0BENZENE dk b ak;0STRAIGHTNESS;0FLATNESS;0AC CURRENT;0ELECTRICAL dd;0DECIMAL EXPONENT ad;0q e-ap h an;1i+3;",
     "1UP+3;1bc+3;1e-ap h an b m hg;1i+6;1e-ap an b h+2;0ALARM CLOCK;0STOPWATCH;0TIMER CLOCK;",
     "0HOURGLASS b FLOWING SAND;0q bg i-ap an;2e+2;2UP+2;2bc+2;0h m hg;0q av qm STOP;1ak qm RECORD;0POWER ad;",
     "1ON-OFF+1;2+1;1SLEEP+1;0OBSERVER EYE+1;0ad qm NULL;2START OF HEADING;4TEXT;2END+2;4TRANSMISSION;2ENQUIRY;",
     "2ACKNOWLEDGE;2BELL;2BACKSPACE;2t TABULATION;2et FEED;2m TABULATION;2km FEED;2CARRIAGE RETURN;2SHIFT OUT;3IN;",
     "2DATA LINK ESCAPE;2DEVICE CONTROL bk;4ax;4l;4z;2gq ACKNOWLEDGE;2SYNCHRONOUS IDLE;2ji TRANSMISSION jt;2CANCEL;",
     "2ji bg;2SUBSTITUTE;2ESCAPE;2FILE ek;2GROUP+1;2RECORD+1;2UNIT+1;2qb;2DELETE;0BLANK ad;0di uf;0ad qm NEWLINE;",
     "2DELETE km ax;2SUBSTITUTE+2;-25;0OCR bx;1CHAIR;1FORK;1ar+1;1zx BUCKLE;1BOW TIE;1qs BANK IDENTIFICATION;",
     "1AMOUNT OF qc;1mp;1CUSTOMER ACCOUNT bn;1h nu;-21;0bq ke bk;2ax;2l;2z;2ao;2dp;2aj;2af;2be;1bn gu;2lo;2kr;2nh;",
     "2ni;2oe;2mf;2lg;2ls;2nj;2cm;0qg ke bk;2ax;2l;2z;2ao;2dp;2aj;2af;2be;1bn gu;2lo;2kr;2nh;2ni;2oe;2mf;2lg;2ls;",
     "2nj;2cm;0ke bk cp;1ax+2;1l+2;1z+2;1ao+2;1dp+2;1aj+2;1af+2;1be+2;0bn gu+2;1lo+2;1kr+2;1nh+2;1ni+2;1oe+2;1mf+2;",
     "1lg+2;1ls+2;1nj+2;1cm+2;0qg dm c d A;+25;0bq dm a A;+25;2c d A;+25;1w;0gq bq bn lo;3kr;3nh;3ni;3oe;3mf;3lg;",
     "3ls;3nj;3cm;0h bq ke bk;3ax;3l;3z;3ao;3dp;3aj;3af;3be;2bn gu;0gq bq w;"]

end RpcClients.Text.Name
