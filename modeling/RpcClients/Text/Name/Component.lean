import RpcClients.Text.Name.Block

/-! # Names of components, kana and notation -/

namespace RpcClients.Text.Name

/-- Components of Tangut. -/
def tangutNames : Block where
  first := 0x18800
  lines :=
    ["0TANGUT COMPONENT-001;+767;"]

/-- Further kana. -/
def kanaExtensionNames : Block where
  first := 0x1AFF0
  lines :=
    ["0je d MINNAN fh-2;+3;;4-7;+1;3NASALIZED fh-1;+4;;5-7;+1;;2gw E;0jf d gw YE;0HENTAIGANA d A-1;+2;3-WO;2I-1;+3;",
     "2U-1;+4;2E-2;+4;2O-1;+2;2KA-1;+10;3-KE;2KI-1;+7;2KU-1;+6;2KE-1;+5;2KO-1;+2;3-KI;2SA-1;+7;2SI-1;+5;2SU-1;+7;",
     "2SE-1;+4;2SO-1;+6;2TA-1;+3;2TI-1;+6;2TU-1;+3;3-TO;2TE-1;+8;2TO-1;+5;3-RA;2NA-1;+8;2NI-1;+6;3-TE;2NU-1;+2;",
     "2NE-1;+5;3-KO;2NO-1;+4;2HA-1;+10;2HI-1;+6;2HU-1;+2;2HE-1;+6;2HO-1;+7;2MA-1;+6;2MI-1;+6;2MU-1;+3;2ME-1;+1;3-MA;",
     "2MO-1;+5;2YA-1;+4;3-YO;2YU-1;+3;2YO-1;+5;2RA-1;+3;2RI-1;+6;2RU-1;+5;2RE-1;+3;2RO-1;+5;2WA-1;+4;2WI-1;+4;2WE-1;",
     "+3;2WO-1;+6;2N-MU-MO-1;+1;0jf d gw WU;0je d gw YI;3YE;3WU;-45;0jf d c WI;3WE;3WO;-17;0je d c WI;3WE;3WO;3N;"]

/-- Shorthand. -/
def duployanNames : Block where
  first := 0x1BC00
  lines :=
    ["0DUPLOYAN d H;2X;2P;2T;2F;2K;2L;2B;2D;2V;2G;2R;2P N;2D S;2F N;2K M;2R S;2TH;2ym DH;2DH;2KK;2ym J;2HL;2LH;2RH;",
     "2M;2N;2J;2S;2M N;2N M;2J M;2S J;2M b cd;2N+2;2J+2;4ce kp n k;2S b cd;5y;2M S;2N S;2J S;2S S;2M N S;2N M S;",
     "2J+2;2S J S;2J S b cd;3N;4S;2S T;4R;3P;4R;2T S;3R S;2W;2WH;2W R;2S N;3M;2K R S;2G+2;2S K;4R;2A;2ym OW;2OA;2O;",
     "2AOU;2I;2E;2IE;2cz I;2UI;2EE;2ym EH;2ROMANIAN I;2ym EE;2dc I;2YE;2U;2EU;2XW;2U N;2dc U;2ROMANIAN U;2UH;2ym U;",
     "2OOH;2OW;2OU;2WA;2WO;2WI;2WEI;2WOW;2NASAL U;3O;3I;3A;2PERNIN AN;3AM;2ym EN;3AN;3ON;2ay M;-5;1AFFIX i t SECANT;",
     "2MID+2;2e+2;2fn m+1;2MID+2;2cx+2;2ro+1;3i-TO-e+1;3TANGENT;3gj;3E bx;3I+1;3TANGENT+1;;;;2cx ch;3TIGHT+1;3dg;",
     "3dc+1;3cd;3ak;3et;3pc;3m;-7;2fn ch;3TIGHT+1;3dg;3dc+1;3cd;3ak;3et;3pc;3m;3p;;;1g O b gn;1THICK d SELECTOR;",
     "1h aq;1bf CHINOOK cp;0SHORTHAND FORMAT d OVERLAP;2CONTINUING+1;2bc STEP;2UP+1;"]

/-- Musical notation. -/
def musicalNames : Block where
  first := 0x1CF00
  lines :=
    ["0ZNAMENNY bh aq qh pq ON i;3+5;3TSATA+2;3qh+2;3+3;3SREDNE+2;3jj+2;3+3;3wu+2;3jj S KHOKHLOM+2;3+5;3wu+4;",
     "3qh pq ON e;3+5;3TSATA+2;3qh+2;3+3;3SREDNE+2;3jj+2;3+3;3wu+2;3jj S KHOKHLOM+2;3+5;3wu+4;3TSATA pq;3jj+2;",
     "3STRANNO jj;3POVYSHE pq;4STRANNO;3wu pq;3jj STRANNO;3GORAZDO wu;3ZELO;3ON;3RAVNO;3TIKHAYA;3BORZAYA;3UDARKA;",
     "3PODVERTKA;3LOMKA;3KUPNAYA;3KACHKA;3ZEVOK;3SKOBA;3RAZSEKA;3KRYZH ON i;;;2TONAL RANGE aq MRACHNO;5SVETLO;",
     "5TRESVETLO;2aq ZADERZHKA;3DEMESTVENNY+1;3OTSECHKA;3PODCHASHIE;4b m ai;3CHASHKA;4POLNAYA;3OBLACHKO;",
     "3SOROCHYA NOZHKA;3TOCHKA;3DVOETOCHIE;2ATTACHING m OMET;2aq qv+1;3KRYZH;2bi TONAL RANGE lf;1PRIZNAK ci LEVEL-2;",
     "+1;3DIRECTION FLIP;3KRYZH;3ROG;-9;1NEUME KRYUK;3TIKHY;2PARAKLIT;2DVA V CHELNU;2KLYUCH;2ZANOZHEK;2STOPITSA;",
     "3S OCHKOM;2PEREVODKA;3lt;2STOPITSA b SOROCHYA NOZHKA;2CHELYUSTKA;2PALKA;2pr;2GOLUBCHIK BORZY;3TIKHY;3MRACHNY;",
     "3SVETLY;3TRESVETLY;2VRAKHIYA yn;3MRACHNAYA;3pd;3su;3mi yn;4MRACHNAYA;4pd;4su;2h pr;2ag CHELYUSTKA;2DERBITSA;",
     "2KHAMILO;2CHASHKA;2PODCHASHIE;2SKAMEYTSA MRACHNAYA;3pd;3su;3TIKHAYA;2DEMESTVENNY KLYUCH;2SKAMEYTSA mi pd;3xu;",
     "3mi TIKHAYA;3wv yn;4pd;4lt;4mi;2SLOZHITIE;3S rp;3ZAKRYTOE;3pq;2KRYZH;2ROG;2FITA;2KOBYLA;2ZMEYTSA;2STATYA;",
     "3S rp;4KRYZHEM;4rp I+1;4KRYZHEM I rp;3ZAKRYTAYA;4S rp;3S ROGOM;4DVUMYA ZAPYATYMI;4rp I PODCHASHIEM;",
     "2POLKULIZMY;2STATYA lt;2STRELA yn;3MRACHNOTIKHAYA;3KRYZHEVAYA;3POLUPOVODNAYA;3vp;3lt;3KLYUCHEPOVODNAYA;3xu;",
     "3TIKHAYA PUTNAYA;3wv;3DVOECHELNOKRYZHEVAYA;3zq;3wv mi;3zq+1;3yo b bm pr;3pe+3;3yo;3pe;4b h pr;",
     "3GROMOKRYZHEVAYA;4vp;2MECHIK;3POVODNY;3KLYUCHEVOY;3KLYUCHEPOVODNY;3KLYUCHENEPOSTOYANNY;2STRELA TRYASOGLASNAYA;",
     "3TRYASOPOVODNAYA;3TRYASOSTRELNAYA;2OSOKA;3pd;3su;3KRYUKOVAYA pd;3mi+1;4lt;2STRELA KRYUKOVAYA;4vp;4yo b bm pr;",
     "4pe+3;4yo;4pe;5b h pr;4GROMOKRYZHEVAYA;5vp;4TRYASKA;2KUFISMA;2OBLAKO;2DUDA;2NEMKA;2PAUK;-60;",
     "0BYZANTINE kz ad bv;3DASEIA;3bw;3OXEIA yp;4yq;3VAREIA yp;4yq;3KATHISTI;3SYRMATIKI;3yr;3YPOKRISIS;4yq;",
     "3KREMASTI;3APESO yp;3EXO+1;3TELEIA;3sl;3APOSTROFOS;4yq;3SYNEVMA;3THITA;3OLIGON ir;3GORGON+1;3PSILON;3CHAMILON;",
     "3VATHY;3ISON ir;3KENTIMA+1;3sl+1;3SAXIMATA;3PARICHON;3STAVROS APODEXIA;3OXEIAI ir;3VAREIAI+1;3APODERMA+1;",
     "3APOTHEMA;3KLASMA;3REVMA;3PIASMA ir;3TINAGMA;3ANATRICHISMA;3SEISMA;3SYNAGMA ir;4META STAVROU;3OYRANISMA ir;",
     "3THEMA;3LEMOI;3DYO;3TRIA;3TESSERA;3KRATIMATA;3APESO EXO NEO;3FTHORA ir;3IMIFTHORA;3ys ir;3KATAVA ys;3PELASTON;",
     "3PSIFISTON;3KONTEVMA;3CHOREVMA ir;3RAPISMA;3yt ir;3yr+1;3ICHADIN;3NANA;3PETASMA;3KONTEVMA ALLO;3ys+1;",
     "3STRAGGISMATA;3GRONTHISMATA;3ISON NEO;3OLIGON+1;3OXEIA+1;3PETASTI;3KOUFISMA;3PETASTOKOUFISMA;3KRATIMOKOUFISMA;",
     "3PELASTON NEO;3sl NEO ANO;3KENTIMA+2;3YPSILI;3APOSTROFOS NEO;3APOSTROFOI SYNDESMOS+1;3YPORROI;",
     "3KRATIMOYPORROON;3ELAFRON;3CHAMILI;3MIKRON ISON;3VAREIA NEO;3PIASMA+1;3PSIFISTON+1;3OMALON;3ANTIKENOMA;",
     "3LYGISMA;3yr NEO;3yt+1;3ETERON yt;3KYLISMA;3ANTIKENOKYLISMA;3ys NEO;3EKSTREPTON;3SYNAGMA NEO;3SYRMA;",
     "3CHOREVMA NEO;3EPEGERMA;3SEISMA NEO;3XIRON KLASMA;3TROMIKOPSIFISTON;3PSIFISTOLYGISMA;3TROMIKOLYGISMA;",
     "3TROMIKOPARAKALESMA;3PSIFISTOPARAKALESMA;3TROMIKOSYNAGMA;3PSIFISTOSYNAGMA;3GORGOSYNTHETON;3ARGOSYNTHETON;",
     "3ETERON+1;3OYRANISMA NEO;3THEMATISMOS ESO;4EXO;3THEMA APLOUN;3THES KAI APOTHES;3KATAVASMA;3ENDOFONON;",
     "3YFEN KATO;4ANO;3STAVROS;3KLASMA ANO;3yq ir;3KRATIMA+1;4ALLO;4NEO;3APODERMA+1;3APLI;3yq;3TRIPLI;3TETRAPLI;",
     "3KORONIS;3LEIMMA ENOS CHRONOU;4DYO CHRONON;4TRION+1;4TESSARON+1;4IMISEOS CHRONOU;3GORGON NEO ANO;4ww;5DEXIA;",
     "3DIGORGON;4ww KATO;6ANO;5DEXIA;3TRIGORGON;3ARGON;3IMIDIARGON;3DIARGON;3AGOGI POLI ARGI;4ARGOTERI;4ARGI;",
     "4METRIA;4MESI;4GORGI;4GORGOTERI;4POLI GORGI;3MARTYRIA PROTOS ICHOS;4ALLI+2;4DEYTEROS+1;4ALLI+2;4TRITOS+1;",
     "4TRIFONIAS;4TETARTOS ICHOS;5LEGETOS+1;4+2;4PLAGIOS+1;3ISAKIA TELOUS ICHIMATOS;3APOSTROFOI+2;",
     "3FANEROSIS TETRAFONIAS;4MONOFONIAS;4DIFONIAS;3MARTYRIA VARYS ICHOS;4PROTOVARYS+1;4PLAGIOS TETARTOS+1;",
     "3GORTHMIKON N APLOUN;5DIPLOUN;3ENARXIS KAI FTHORA VOU;3IMIFONON;3IMIFTHORON;3FTHORA ir DEYTEROU ICHOU;",
     "4DIATONIKI PA;5NANA;4NAOS ICHOS;4DIATONIKI DI;4SKLIRON DIATONON+1;4DIATONIKI KE;5ZO;5NI KATO;6ANO;",
     "4MALAKON CHROMA DIFONIAS;6MONOFONIAS;3FHTORA SKLIRON CHROMA VASIS;3FTHORA SKLIRON CHROMA SYNAFI;4NENANO;",
     "3CHROA ZYGOS;4KLITON;4SPATHI;3FTHORA I YFESIS TETARTIMORION;4ENARMONIOS ANTIFONIA;3YFESIS TRITIMORION;",
     "3DIESIS+1;4TETARTIMORION;4APLI DYO DODEKATA;4zr+1;4DIGRAMMOS EX+1;4TRIGRAMMOS OKTO+1;3YFESIS APLI DYO+1;4zr+1;",
     "4DIGRAMMOS EX+1;4TRIGRAMMOS OKTO+1;3GENIKI DIESIS;4YFESIS;3DIASTOLI APLI MIKRI;5MEGALI;4yq;4THESEOS;",
     "3SIMANSIS+1;5DISIMOU;5TRISIMOU;5TETRASIMOU;4ARSEOS;5DISIMOU;5TRISIMOU;5TETRASIMOU;3DIGRAMMA GG;3DIFTOGGOS OU;",
     "3STIGMA;3ARKTIKO PA;4VOU;4GA;4DI;4KE;4ZO;4NI;3sl NEO MESO;3KENTIMA+2;3sl NEO KATO;3KENTIMA+2;3KLASMA+1;",
     "3GORGON NEO+1;-10;0kz ad bm BARLINE;2h+1;2u+1;2ky+2;2tu+1;2cz+1;2i REPEAT g;2e+2;2REPEAT ce;2DAL SEGNO;",
     "2DA CAPO;2SEGNO;2CODA;2REPEATED FIGURE-1;+2;2FERMATA;3y;2BREATH aq;2CAESURA;2BRACE;2bp;2bk-et STAFF;2ax+2;",
     "2l+2;2z+2;2ao+2;2dp+2;3-STRING FRETBOARD;2z+2;2G CLEF;4yu;5BASSA;2C CLEF;2F+1;4yu;5BASSA;2DRUM CLEF-1;+1;;;",
     "2jk wm REST;2h SHARP;3FLAT;2FLAT UP;3bc;2NATURAL UP;3bc;2SHARP UP;3bc;2du fh SHARP;4FLAT;2COMMON TIME;2CUT+1;",
     "2yu;3BASSA;2QUINDICESIMA ALTA;3BASSA;2MULTI REST;2WHOLE+1;2ct+1;2du+1;2gx+1;2mz+1;2fg-oz+1;2jg-ty+1;",
     "2aw cm-gx+1;2X lu;2bb+1;2ak X+1;2av lu x;4q;2an lu UP x;5q;4i x;5q;4e x;5q;4bc x;5q;4UP e x;6q;2si lu x;4q;",
     "2an-rq lu bc x;6q;2cc lu;2VOID+1;2lu q;2NULL lu;2CLUSTER lu x;4q;2fi;2WHOLE wx;2ct+1;2du+1;2gx+1;2mz+1;",
     "2fg-oz+1;2jg-ty+1;2aw cm-gx+1;2bh STEM;3SPRECHGESANG+1;3TREMOLO-1;+2;2FINGERED TREMOLO-1;+2;",
     "2bh AUGMENTATION cd;3FLAG-1;+4;2vq BEAM;2END+1;2vq TIE;2END+1;2vq SLUR;2END+1;2vq PHRASE;2END+1;2bh er;",
     "3STACCATO;3TENUTO;3STACCATISSIMO;3MARCATO;4-STACCATO;3er+1;3LOURE;2ARPEGGIATO UP;3bc;2bh DOIT;3RIP;3FLIP;",
     "3SMEAR;3BEND;3h wr;3dq+1;2RINFORZANDO;2SUBITO;2Z;2PIANO;2MEZZO;2FORTE;2CRESCENDO;2DECRESCENDO;2GRACE wx on;",
     "4NO+1;2TR;2TURN;2ar+1;2TURN on;3UP;2iq ai-1;+10;2HAUPTSTIMME;2NEBENSTIMME;2ji STIMME;2DEGREE on;2bh bc BOW;",
     "3UP+1;3HARMONIC;3SNAP PIZZICATO;2PEDAL aq;3UP+1;2ct PEDAL+1;2GLISSANDO UP;3bc;2b FINGERNAILS;2DAMP;3ALL;",
     "2MAXIMA;2LONGA;2BREVIS;2SEMIBREVIS x;3q;2MINIMA;3q;2SEMIMINIMA x;3q;2FUSA x;3q;2LONGA PERFECTA REST;",
     "3IMPERFECTA+1;2BREVIS+1;2SEMIBREVIS+1;2MINIMA+1;2SEMIMINIMA+1;2TEMPUS PERFECTUM vr;6IMPERFECTA;",
     "6PERFECTA DIMINUTION-1;3IMPERFECTUM vr;6IMPERFECTA;7DIMINUTION-1;+2;2CROIX;2GREGORIAN C CLEF;3F+1;2av B;",
     "2VIRGA;2PODATUS;2CLIVIS;2SCANDICUS;2CLIMACUS;2TORCULUS;2PORRECTUS;3FLEXUS;2SCANDICUS+1;2TORCULUS RESUPINUS;",
     "2PES SUBPUNCTIS;2KIEVAN C CLEF;3ji yv;3u wx;3RECITATIVE aq;3WHOLE wx;3ct+1;3du wx STEM bc;6UP;3gx wx STEM bc;",
     "6UP;3FLAT g;2SORI;2KORON;-21;0kt VOCAL nl ad-1;+23;4-50;+4;1INSTRUMENTAL nl ad-1;+1;4-4;+1;4-7;+1;4-11;+3;",
     "4-17;+2;4-23;+4;4-29;+1;4-32;4-36;+4;4-42;+1;4-45;4-47;+7;0bh kt kz TRISEME;3TETRASEME;3PENTASEME;",
     "0kt kz LEIMMA;"]

/-- Numerals, and symbols of divination. -/
def numeralNames : Block where
  first := 0x1D2E0
  lines :=
    ["0MAYAN oc uv;2bk;2ax;2l;2z;2ao;2dp;2aj;2af;2be;2gu;2lo;2kr;2nh;2ni;2oe;2mf;2lg;2ls;2nj;-12;0ri qm qf;",
     "0DIGRAM qm HEAVENLY+1;2HUMAN+1;2EARTHLY HEAVEN;3HUMAN;2qf;0TETRAGRAM qm cg;2FULL ak;2MIRED;2BARRIER;",
     "2KEEPING c;2CONTRARIETY;2ASCENT;2OPPOSITION;2BRANCHING OUT;2DEFECTIVENESS OR DISTORTION;2DIVERGENCE;",
     "2YOUTHFULNESS;2INCREASE;2PENETRATION;2REACH;2wy;2HOLDING uw;2WAITING;2FOLLOWING;2ADVANCE;2RELEASE;2RESISTANCE;",
     "2EASE;2JOY;2CONTENTION;2ENDEAVOUR;2DUTIES;2CHANGE;2DECISIVENESS;2lv RESOLUTION;2PACKING;2LEGION;2CLOSENESS;",
     "2KINSHIP;2GATHERING;2STRENGTH;2PURITY;2FULLNESS;2RESIDENCE;2LAW OR MODEL;2RESPONSE;2GOING TO MEET;2ENCOUNTERS;",
     "2STOVE;2GREATNESS;2ENLARGEMENT;2PATTERN;2RITUAL;2FLIGHT;2VASTNESS OR WASTING;2CONSTANCY;2wm;2ETERNITY;2UNITY;",
     "2DIMINISHMENT;2ep jh;2GUARDEDNESS;2GATHERING IN;2MASSING;2ACCUMULATION;2EMBELLISHMENT;2DOUBT;2WATCH;2SINKING;",
     "2INNER;2DEPARTURE;2DARKENING;2DIMMING;2EXHAUSTION;2SEVERANCE;2STOPPAGE;2HARDNESS;2COMPLETION;2CLOSURE;",
     "2FAILURE;2AGGRAVATION;2COMPLIANCE;2ON pj VERGE;2DIFFICULTIES;2LABOURING;2FOSTERING;-9;",
     "0COUNTING ROD UNIT ke bk;4ax;4l;4z;4ao;4dp;4aj;4af;4be;2TENS ke bk;4ax;4l;4z;4ao;4dp;4aj;4af;4be;",
     "0ej TALLY aq bk;3ax;3l;3z;3ao;0TALLY aq bk;2ao;"]

end RpcClients.Text.Name
