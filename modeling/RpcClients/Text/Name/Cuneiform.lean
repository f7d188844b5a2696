import RpcClients.Text.Name.Block

/-! # Names of cuneiform signs -/

namespace RpcClients.Text.Name

/-- Cuneiform signs. -/
def cuneiformNames : Block where
  first := 0x12000
  lines :=
    ["0CUNEIFORM g A;3ae A;4yw;4ii;4HA;4uh;4yx fp;4MUSH;4SAG;2A2;2AB;3ae yy;4DUN3 fp;4GAL;4ii;4HA;4uh fp;4IMIN;4sv;",
     "4SHESH;4U bb U bb U;3fp;2AB2;3ae BALAG;4ii;4ME bb EN;4SHA3;4rr;2AD;2AK;3ae ERIN2;4SHITA bb rs;2AL;3ae AL;",
     "4DIM2;4rs;4HA;4KAD3;4KI;4pw;4USH;2ALAN;2oq;2AMAR;3ae pw;2AN;3by AN;3l ae;3bb NAGA nn AN bb NAGA;5dv;2ANSHE;",
     "2APIN;2ARAD;3ae KUR;2ARKAB;2ASAL2;2rk;3ZIDA nm;3KABA+1;3by rk TUG2 by TUG2 TUG2 by TUG2 PAP;5by rk;",
     "7cj rk by rk by rk;2yy;2ASHGAB;2BA;2yw;2BAG3;2BAHAR2;2BAL;3by BAL;2BALAG;2hg;2BARA2;2BI;3ae A;4ui;4uh fp;2BU;",
     "3by BU AB;5UN;3cj BU;2BULUG;3by BULUG;2BUR;2BUR2;2DA;2DAG;3KISIM5 ae A bb MASH;5AMAR;5BALAG;5BI;5GA;6bb MASH;",
     "5GI;5GIR2;5GUD;5HA;5IR;6bb LU;5KAK;5LA;5LU;6bb MASH2;5LUM;5NE;5PAP bb PAP;5SI;5rr;5U2 bb GIR2;5USH;2DAM;2DAR;",
     "2DARA3;+1;2DI;2DIB;2DIM;3ae pw;2DIM2;2DIN;3ms U fp sy;2+1;2DU;3by DU;3fp;3ps;2DUB;3ae ESH2;2DUB2;2DUG;2DUGUD;",
     "2DUH;2DUN;2DUN3;3fp;4fp;2DUN4;2DUR2;2E;3ae PAP;3by E nx by nx;2E2;3ae A bb HA bb DA;4ui;4MI;4SAL;4pw;4U;2EDIN;",
     "2EGIR;2EL;2EN;3ae GAN2;5nm;4ME;3cj EN;3nn+1;3dv;2EREN;2ERIN2;2ESH2;2EZEN;3ae A;5bb LAL;7ae LAL;4AN;4yw;",
     "4DUN3 fp;6fp;4HA;5fp;4uh+1;4ms;5dv;4KU3;4LA;4LAL ae LAL;4LI;4LU;4U2;4UD;2GA;3fp;2GA2;3ae A bb DA bb HA;6HA;",
     "6uh;4AB2 nm bb TAB;4AN;4rk;4yy bb GAL;4yw;4hg bb RA;4BUR;5bb RA;4DA;4DI;4DIM ae pw;4DUB;4EL;5bb LA;4EN;5ae ii;",
     "4+2;4ui;4GI;4GI4;5bb A;4GIR2 bb SU;4HA bb LU bb ESH2;4HAL;5bb LA;4HI bb LI;4HUB2;4uh fp;4ISH bb HU bb rk;4KAK;",
     "4ms;4KID;5bb LAL;4KU3 bb AN;4LA;4ME bb EN;4MI;4nx;5by nx;4PA;4SAL;4SAR;4pw;5bb TUR;4SHID;4SUM;4rr;4U;4UD;",
     "5bb DU;3by GA2;2GABA;3cj GABA;2GAD;3by GAD ui by ui;2GAL;3GAD by GAD ui by ui;2GALAM;2GAM;+1;2GAN2;3nm;",
     "3by GAN2;3cj+1;2ui;2GAR3;2GASHAN;2GESHTIN;3ae KUR;2GI;3ae E;4U;3cj GI;2GI4;3by GI4;3cj+1;2GIDIM;2GIR2;3fp;",
     "2GIR3;3ae A bb uh;4ii;4uh;4LU bb+1;4PA;2GISAL;2rs;3cj rs;3ae yw;4rr;3nm;2GU;3cj GU;2GU2;3ae KAK;5ae uh fp;4nx;",
     "4SAL bb TUG2;3fp;2GUD;3ae A bb KUR;4+1;3by GUD LUGAL;2GUL;+1;3ae pw;2GUR;2GUR7;2GURUN;2GURUSH;2HA;3nm;3fp;",
     "2HAL;2HI;3ae rk;4yy;4yw;4sy;4GAD;4KIN;4nx;4pw;4U;2HU;2HUB2;3ae AN;4HAL;4ms;4LISH;4UD;2HUL2;2I;3A;2IB;2IDIM;",
     "3by IDIM BUR;5dv;2IG;2uh;3DIB;3RI;3by uh SHIR by SHIR UD by UD;3fp;2IL;3ae ii;2IL2;2IM;3ae rr;3cj IM;3nn+1;",
     "3dv;2IMIN;2IN;2IR;2ISH;2KA;3ae A;4AD;5bb KU3;4yy;4yw;4BALAG;4hg;4BI;4ERIN2;4ESH2;4GA;4GAL;4ii;4ui;",
     "5bb SHA3 bb A;4GI;4GIR2;4rs bb SAR;5cj rs;4GU;4GUR7;4uh;4IM;4KAK;4KI;4KID;4LI;4LU;4ME;5bb DU;6GI;6TE;4MI;",
     "5bb NUNUZ;4NE;4nx;4PI;4RU;4SA;4SAR;4hw;4pw;4SHID;4SHU;4SIG;4SUHUR;4TAR;4U;4U2;4UD;4UMUM ae PA;4USH;4ZI;2KA2;",
     "3cj KA2;2KAB;2KAD2;+3;3by KAD5;2KAK;3ae uh fp;2KAL;3ae yw;3cj KAL;2KAM2;2KAM4;2ms;3sv ae U by sv ae U;",
     "3by ms+7;2KESH2;2KI;3ae yw;4U;4UD;2KID;2KIN;2KISAL;2KISH;2KISIM5;3by KISIM5;2KU;3by HI ae yy KU by HI ae yy;",
     "2KU3;+1;3ec;2KU7;2KUL;3fp;2KUN;2KUR;3nn KUR;2KUSHU2;2KWU318;2LA;2sv;3ae A;5bb DA bb HA;6ui;6LAL;4AL;4AN;",
     "4rk ZIDA nm;4yw;4BI;4DAR;4EN;4GA;4ui;4GUD;5bb GUD;4HA;4HAL;4HI ae nx;4uh fp;4IM;5bb HA;6LU;4KI;4KIN;4KU3;4KUL;",
     "5bb HI bb A;4sv;4LISH;4LU;4LUL;4ME;5bb EN;4MUSH;4NE;4pw bb SUM;4SHITA bb rs bb ERIN2;7nm;4SHU2;5bb SHU2;4SUM;",
     "4TAG;4rr;4TE bb A bb SU bb NA;4U;5bb A;6U bb U;4U2 bb rk;4UD;4USH;3dv;2yx;3ae pw;5bb SUM;3fp;4by yx fp pw;",
     "2LAHSHU;2LAL;3ae LAL;2pn;3ae KUR;5bb RU;2LI;2LIL;2LIMMU2;2LISH;2LU;3ae yw;2LU2;3ae AL;4yw;4ESH2;5nm;4GAN2+1;",
     "4HI ae yw;4IM;4KAD2;+1;5bb rk;4KI;4LA bb rk;4sv;4ME bb EN;4NE;4NU;4SI bb rk;4SIK2 bb BU;4TUG2;3nm;3cj LU2;",
     "3nn+1;3dv;3ps;2LU3;2LUGAL;3by LUGAL;3nn+1;3ps;2LUH;2LUL;+1;3by LUM;5ui by ui;2MA;3ae rr;3fp;2MA2;2MAH;2MAR;",
     "2MASH;2MASH2;2ME;2MES;2MI;2MIN;2MU;3by MU;2MUG;3fp;2MUNSUB;2MURGU2;2MUSH;3ae A;4KUR;4ZA;3by MUSH;5ae A bb NA;",
     "3cj MUSH;2MUSH3;3ae A;5bb DI;4DI;3fp;2NA;2NA2;2NAGA;3ar;3ae SHU nm;3nn NAGA;2NAGAR;2NAM NUTILLU;3;2NAM2;2NE;",
     "3ae A;4UD;3ps;2NI;3ae E;2NI2;2NIM;3ae ii;4ui bb+2;2NINDA2;3ae AN;4rk;5bb rk;4GUD;4ME bb ii;4NE;4nx;4pw;",
     "5bb A AN;6rk;7bb rk;4U2+2;4USH;2NISAG;2NU;2NU11;2nx;3yx ae ui;5MASH;5SAL;6by nx yx ae SAL;5USH;3nm;3by nx;",
     "3cj+1;5yx by yx;2NUNUZ;3AB2 ae ASHGAB;5BI;5DUG;5GUD;5uh fp;5KAD3;5LA;5NE;5SILA3;5U2;3KISIM5 ae BI;6U;2PA;2PAD;",
     "2PAN;2PAP;2PESH2;2PI;3ae A;4AB;4BI;4BU;4E;4I;4IB;4U;4U2;3cj PI;2PIRIG;3ae KAL;4UD;4ZA;3nn PIRIG;2RA;2RAB;2RI;",
     "2RU;2SA;2SAG NUTILLU;3;3ae A;4DU;4DUB;4HA;4KAK;4KUR;4LUM;4MI;4nx;4SAL;4SHID;4TAB;4U2;4UB;4UM;4UR;4USH;3by SAG;",
     "3fp;2SAL;3sv ae yy;2SANGA2;2SAR;2hw;2SHA3;3ae A;4yw;4rs;4NE;4SHU2;4TUR;4U;5bb A;2SHA6;2SHAB6;2SHAR2;2pw;3HU;",
     "3by pw GAD by GAD ui by ui;5TAB by TAB+3;2SHEG9;2SHEN;2SHESH;2SHESH2;2SHESHLAM;2SHID;3ae A;4IM;2SHIM;3ae A;",
     "4BAL;4BULUG;4DIN;4ui;4uh;5fp;4KUSHU2;4LUL;4MUG;4SAL;2SHINIG;2SHIR;3nm;3by SHIR BUR by BUR;2SHITA;2SHU;",
     "3by ar SHU;2SHU2;2SHUBUR;2SI;3fp;2SIG;2SIG4;3by SIG4 SHU2;2SIK2;2SILA3;2SU;3by SU;2SUD;2SUD2;2SUHUR;2SUM;",
     "2SUMASH;2SUR;2SUR9;2TA;3eu;3ae HI;4MI;3fp;2TAB;3by TAB NI by NI sy by sy;3dv;2TAG;3ae BI;4GUD;4pw;4SHU;4TUG2;",
     "4UD;2rr;2TAR;2TE;3fp;2TI;3nm;2TIL;2TIR;3ae rr;3by TIR;5GAD by GAD ui by ui;2TU;2TUG2;2TUK;2TUM;2TUR;",
     "3by TUR ZA by ZA;2U;3GUD;3U U;3by U PA by PA ui by ui;5SUR by SUR;5U ag by U ag;2U2;2UB;2UD;3KUSHU2;3ae yw;",
     "4MI;4U bb U bb U;9fp;3+1;3ps;4ae yw;2UDUG;2UM;3ae sv;4ME bb DA;4SHA3;4U;2UMBIN;2UMUM;3ae ms;4PA;2UN;3fp;2UR;",
     "3cj UR;3ps;2UR2;3ae A bb HA;6NA;4AL;4HA;4nx;4U2;5bb rk;6BI;2UR4;2URI;2URI3;2URU;3ae A;4ASHGAB;4hg;4DUN;4GA;",
     "4GAL;4ii;4ui;4GU;4HA;4uh;4IM;4ISH;4KI;4LUM;4MIN;4PA;4pw;4SIG4;4TU;4U bb GUD;4UD;4URUDA;2+1;3ae U;2USH;3ae A;",
     "4KU;4KUR;4rr;2USHX;2USH2;2USHUMX;2UTUKI;2UZ3;3ae ms;2UZU;2ZA;3nm;3dv ae KUR;2ZAG;2ZAMX;2ZE2;2ZI;3by ZI;2ZI3;",
     "2ZIB;3KABA nm;2ZIG;2ZIZ2;2ZU;2ZU5;3ae A;2ZUBUR;2ZUM;2KAP ELAMITE;2AB ae nx;2AB2 ae A;2AMAR ae KUG;",
     "2DAG KISIM5 ae U2 bb MASH;2DAG3;2sy bb SHU;2DUB ae pw;2EZEN ae GUD;4pw;2GA2 ae AN bb KAK bb A;4yy;2GE22;2GIG;",
     "2HUSH;2KA ae ANSHE;4ASH3;4rs;4GUD;4HI ae yy;4LUM;4PA;4SHUL;4TU;4UR2;2sv ae GI;2LU2 ps ae yw;3ae ESH2 bb LAL;",
     "4SHU;2MESH;2MUSH3 ae ZA;2NA4;2NIN;2NIN9;2NINDA2 ae BAL;4GI;2NU11 fv hz wz;2PESH2 eu;2PIR2;2SAG ae uh fp;2TI2;",
     "2UM ae ME;2U U;-102;1NUMERIC g ax rk;3l+1;3z+1;3ao+1;3dp+1;3aj+1;3af+1;3be+1;3l sy;3z+1;3ao+1;3dp+1;3aj+1;",
     "3af+1;3be+1;3z U;3ao U;3dp U;3aj U;3af U;3be U;3bk GESH2;3ax+1;3l+1;3z+1;3ao+1;3dp+1;3aj+1;3af+1;3be+1;",
     "3bk GESHU;3ax+1;3l+1;3z+1;3ao+1;3ax SHAR2;3l+1;5ec;3z SHAR2;3ao+1;3dp+1;3aj+1;3af+1;3be+1;3bk SHARU;3ax+1;",
     "3l+1;5ec;3z SHARU;3ao+1;3SHAR2 ae GAL bb sy;7MIN;3bk BURU;3ax+1;3l+1;5ec;3z BURU;3ao+1;3l ec ESH16;6ESH21;",
     "3z ec LIMMU;6LIMMU4;6LIMMU A;7B;3dp ec ASH9;3aj ec IMIN3;6IMIN A;7B;3af ec USSU;6USSU3;3be ec ILIMMU;6ILIMMU3;",
     "+1;6ILIMMU A;3ax rk nm;3l+2;3z+2;3ao+2;3dp+2;3bk BAN2;3ax+1;3l+1;3z+1;5ec;3ao BAN2;5ec;3NIGIDAMIN;3NIGIDAESH;",
     "3bk ESHE3;3ax+1;3bk qd sy;3ax qo+1;3ao SIXTHS+1;3bk qd ec A;3ax qo+3;3bk gx rk;4du+1;3zy ASSYRIAN bk SIXTH;",
     "6du;3bk du GUR;4ct+1;3ELAMITE bk qd;4ax qo;4ki;4fx;3z U ec;3ao+3;3dp+3;3aj+3;3af+3;3be+3;;",
     "1bf g zy ASSYRIAN sd tf;3m hx;3ca+1;4TRICOLON;4QUADCOLON;-11;1g AB ae nx nm;4SHU2;2AD ae ESH2;2yw ae sy nm;",
     "2BAHAR2 ae AB2;4NI;4ZA;2BU by BU ae NA2;2DA ae rr;2DAG ae KUR;2DIM ae uh;4U U U;2DIM2 ae UD;2DUG ae ANSHE;4rk;",
     "5AT i;4DIN;4DUN;4ERIN2;4GA;4GI;4GIR2 fp;4rs;4HA;4HI;4uh fp;4ms;4KUR;4KUSHU2;5bb ms;4LAK-020;4pn;5ae KUR;",
     "4LUH bb rs;4MASH;4MES;4MI;4NI;4PI;4pw;4SI fp;2E2 ae KUR;4PAP;2ERIN2 X;2ESH2 cj ESH2;2EZEN ps ae rk;5HI;5uh fp;",
     "5LA;5LAL;5ME;5MES;5SU;3+2;2GA2 ae BAHAR2;4DIM fp;4DUG ae uh+1;6ms;4EREN;4GA;4ui bb DI;6NE;4HA bb A;",
     "4KUSHU2 bb ms;4pn;5ae KUR;4LUH;4MUSH;4NE;5bb E2;6GI;4SHIM;4ZIZ2;2GABA fv hz wz;2GESHTIN ae U;2rs ae rs cj rs;",
     "2GU2 ae uh fp;2GUD bb rs ae rr;2HA nm fp;2HI ae rk by HI ae rk;2KA ae BU;4KA;4U U U;4UR;2sv ae ZU by ZU;",
     "2LAK-003;3-021;3-025;3-030;3-050;+1;3-062;3-079 by LAK-079 fp;3-080;3-081 by LAK-081;3-092;3-130;3-142;3-210;",
     "3-219;+1;3-225;3-228;3-238;3-265;+1;3-343;3-347;+1;3-383;+1;3-390;3-441;3-449;4ae GU;5uh;5PAP bb LU3;",
     "7PAP bb+1;5U2 bb BA;3-450;3-457;3-470;3-483;3-490;3-492;+1;3-495;3-550;3-608;3-617;4ae rk;5yw;5DUN3 fp fp;",
     "5KU3;5LA;5TAR;5TE;5U2;5UD;5URUDA;3-636;3-648;4ae DUB;5GA;5uh;6fp;5NI;5PAP bb PAP bb LU3;5SHESH bb KI;5UD;",
     "5URUDA;3-724;3-749;2LU2 fp ae rk;3ae sy;4HAL;4PAP;5bb PAP bb LU3;4rr;2MI bb ZA7;2MUSH by MUSH ae GA;6KAK;",
     "2NINDA2 ae DIM fp;4rs;4GUL;4HI;4KESH2;4LAK-050;4MASH;4PAP bb PAP;4U;5bb U;4URUDA;2SAG fp ae HA;3ae EN;",
     "4pw AT i;4rr;2SHA6 nm;2pw by pw;3bb HUB2;4NAM2;4SAR;2SHU2 bb DUG ae NI;4E2 ae AN;2SI ae rr;2rr bb SAG;",
     "2TUM ae ii;4l sy;2UR2 ar;3ae UD;2URU ae DARA3;4LAK-668;4LU3;2ZA7;2ZU by ZU bb SAR;2ZU5 ae l sy nm;"]

/-- Signs of Cypro-Minoan. -/
def cyproNames : Block where
  first := 0x12F90
  lines :=
    ["0CYPRO-MINOAN g CM001;+1;3CM004;+8;3CM012B;3CM013;3CM015;3CM017;3CM019;3CM021;3CM023;+7;3CM033;+8;3CM044;",
     "3CM046;+1;3CM049;+7;3CM058;+6;3CM066;+9;3CM075B;3CM076;3CM078;+14;3CM094;+11;3CM107;+3;3CM112;3CM114;3CM301;",
     "+1;"]

end RpcClients.Text.Name
