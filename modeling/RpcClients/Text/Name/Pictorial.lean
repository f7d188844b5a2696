import RpcClients.Text.Name.Block

/-! # Names of game symbols, pictographs and tags -/

namespace RpcClients.Text.Name

/-- Tiles, cards and enclosed signs. -/
def gameNames : Block where
  first := 0x1F000
  lines :=
    ["0MAHJONG TILE mv WIND;2ee+1;2lq+1;2vg+1;2RED DRAGON;2wa+1;2x+1;2bk OF CHARACTERS;2ax+2;2l+2;2z+2;2ao+2;2dp+2;",
     "2aj+2;2af+2;2be+2;2bk OF BAMBOOS;2ax+2;2l+2;2z+2;2ao+2;2dp+2;2aj+2;2af+2;2be+2;2bk OF wn;2ax+2;2l+2;2z+2;",
     "2ao+2;2dp+2;2aj+2;2af+2;2be+2;2PLUM;2ORCHID;2BAMBOO;2CHRYSANTHEMUM;2SPRING;2SUMMER;2AUTUMN;2WINTER;2JOKER;2uw;",
     "-4;0DOMINO TILE t+1;3-00-00;+6;3-01-00;+6;3-02-00;+6;3-03-00;+6;3-04-00;+6;3-05-00;+6;3-06-00;+6;2m uw;",
     "3-00-00;+6;3-01-00;+6;3-02-00;+6;3-03-00;+6;3-04-00;+6;3-05-00;+6;3-06-00;+6;-12;0PLAYING CARD uw;",
     "2ACE OF SPADES;2ax+2;2l+2;2z+2;2ao+2;2dp+2;2aj+2;2af+2;2be+2;2gu+2;2JACK+2;2gp+2;2kw+2;2KING+2;;;",
     "2ACE OF HEARTS;2ax+2;2l+2;2z+2;2ao+2;2dp+2;2aj+2;2af+2;2be+2;2gu+2;2JACK+2;2gp+2;2kw+2;2KING+2;2RED JOKER;;",
     "2ACE OF DIAMONDS;2ax+2;2l+2;2z+2;2ao+2;2dp+2;2aj+2;2af+2;2be+2;2gu+2;2JACK+2;2gp+2;2kw+2;2KING+2;2q JOKER;;",
     "2ACE OF CLUBS;2ax+2;2l+2;2z+2;2ao+2;2dp+2;2aj+2;2af+2;2be+2;2gu+2;2JACK+2;2gp+2;2kw+2;2KING+2;2x JOKER;2FOOL;",
     "2TRUMP-1;+20;-10;0w cp;2ez;1bk+1;1ax+1;1l+1;1z+1;1ao+1;1dp+1;1aj+1;1af+1;1be+1;0DINGBAT bq hb w;1gq+5;",
     "0bq uv b on;1cn p;1tw g b OVERLAID nu;0qg dm a A;+25;0fc BRACKETED dm a S;0bq ob dm a C;5R;1CD;1WZ;",
     "0COPYLEFT ad;0dv dm a A;+25;1HV;1MV;1SD;1SS;1PPV;1WC;0gq bq dm a A;+25;0fy MC g;1MD+1;1MR+1;0bq CC;",
     "1C b OVERLAID nu;1HUMAN FIGURE;0gq dv dm a A;+25;0hq gq dv dm a P;0gq dv IC;2PA;2SA;2AB;2WC;0av DJ;0dv CL;",
     "1COOL;1FREE;1ID;1NEW;1NG;1OK;1SOS;1UP b cb aq;1VS;1l D;1oz SCREEN;1ax K;1z K;1af K;1ao pz bk;1aj+2;",
     "1cm-ax pz ax;1jg P;1aw cm P;1dm c d D;1HC;1HDR;1HI-RES;1LOSSLESS;1SHV;1UHD;1VOD;0MASK WORK ad;-56;",
     "0REGIONAL lf ad d A;+25;0av jf HOKA;0dv je KOKO;2SA;-13;1zi ng-624B;4-5B57;4-53CC;1je DE;1zi ng-4E8C;4-591A;",
     "4-89E3;4-5929;4-4EA4;4-6620;4-7121;4-6599;4-524D;4-5F8C;4-518D;4-65B0;4-521D;4-7D42;4-751F;4-8CA9;4-58F0;",
     "4-5439;4-6F14;4-6295;4-6355;4-4E00;4-4E09;4-904A;4-5DE6;4-4E2D;4-53F3;4-6307;4-8D70;4-6253;4-7981;4-7A7A;",
     "4-5408;4-6E80;4-6709;4-6708;4-7533;4-5272;4-55B6;4-914D;-4;0fc BRACKETED zi ng-672C;6-4E09;6-4E8C;6-5B89;",
     "6-70B9;6-6253;6-76D7;6-52DD;6-6557;-7;0bq ng ADVANTAGE;2ACCEPT;-14;0mj ad qm FU;3LU;3SHOU;3XI;3SHUANGXI;3CAI;"]

/-- Pictographs and faces. -/
def pictographNames : Block where
  first := 0x1F300
  lines :=
    ["0CYCLONE;0FOGGY;0ep ul;0NIGHT b STARS;0SUNRISE by MOUNTAINS;1;0CITYSCAPE AT DUSK;0SUNSET by BUILDINGS;",
     "0RAINBOW;0xb AT NIGHT;0qe pc;0VOLCANO;0MILKY WAY;0qf GLOBE EUROPE-AFRICA;2AMERICAS;2ASIA-AUSTRALIA;",
     "0GLOBE b MERIDIANS;0NEW si ad;0WAXING rn+2;0vk du+2;0WAXING GIBBOUS+2;0FULL+2;0WANING GIBBOUS+2;0LAST du+2;",
     "0WANING rn+2;0rn si;0NEW si b dr;0vk du+3;0LAST+4;0FULL+3;0SUN+2;0GLOWING od;0SHOOTING+1;0THERMOMETER;",
     "0q DROPLET;0x SUN;2b c CLOUD;2BEHIND+1;4b RAIN;0CLOUD+2;2SNOW;2vv;2TORNADO;0FOG;0WIND BLOWING dr;0HOT DOG;",
     "0TACO;0BURRITO;0CHESTNUT;0SEEDLING;0EVERGREEN TREE;0DECIDUOUS+1;0PALM+1;0CACTUS;0HOT PEPPER;0TULIP;",
     "0CHERRY BLOSSOM;0ROSE;0HIBISCUS;0SUNFLOWER;0BLOSSOM;0EAR OF MAIZE;2RICE;0HERB;0z LEAF CLOVER;0MAPLE LEAF;",
     "0FALLEN+1;0LEAF FLUTTERING IN WIND;0MUSHROOM;0TOMATO;0AUBERGINE;0GRAPES;0MELON;0WATERMELON;0TANGERINE;0LEMON;",
     "0BANANA;0PINEAPPLE;0RED APPLE;0wa+1;0PEAR;0PEACH;0CHERRIES;0STRAWBERRY;0HAMBURGER;0SLICE OF PIZZA;",
     "0MEAT ON BONE;0POULTRY LEG;0RICE CRACKER;1vd;0COOKED RICE;0CURRY n+1;0STEAMING BOWL;0SPAGHETTI;0BREAD;",
     "0FRENCH FRIES;0ROASTED SWEET POTATO;0DANGO;0ODEN;0SUSHI;0FRIED SHRIMP;0FISH CAKE b SWIRL DESIGN;0wc ICE CREAM;",
     "0SHAVED ICE;0ICE CREAM;0DOUGHNUT;0COOKIE;0CHOCOLATE hg;0CANDY;0LOLLIPOP;0CUSTARD;0HONEY POT;0SHORTCAKE;",
     "0BENTO uf;0POT OF FOOD;0COOKING;0FORK n KNIFE;0TEACUP wg HANDLE;0SAKE BOTTLE n CUP;0WINE GLASS;0COCKTAIL+1;",
     "0TROPICAL DRINK;0BEER MUG;0CLINKING BEER MUGS;0BABY BOTTLE;0FORK n KNIFE b PLATE;0BOTTLE b POPPING CORK;",
     "0POPCORN;0RIBBON;0WRAPPED PRESENT;0BIRTHDAY CAKE;0JACK-O-LANTERN;0CHRISTMAS TREE;0FATHER CHRISTMAS;0FIREWORKS;",
     "0FIREWORK SPARKLER;0BALLOON;0PARTY POPPER;0CONFETTI vd;0TANABATA TREE;0hq FLAGS;0PINE DECORATION;0pb DOLLS;",
     "0CARP STREAMER;0WIND CHIME;0si VIEWING CEREMONY;0SCHOOL SATCHEL;0GRADUATION CAP;0ib b TIP ON pj i;",
     "0BOUQUET OF FLOWERS;0MILITARY MEDAL;0REMINDER RIBBON;0kz up b JACKS;0STUDIO MICROPHONE;0LEVEL SLIDER;",
     "0CONTROL KNOBS;0BEAMED ASCENDING kz NOTES;1DESCENDING+2;0FILM FRAMES;0ADMISSION TICKETS;0CAROUSEL ug;",
     "0FERRIS WHEEL;0ROLLER COASTER;0FISHING POLE n FISH;0MICROPHONE;0MOVIE CAMERA;0CINEMA;0HEADPHONE;",
     "0ARTIST PALETTE;0ne HAT;0CIRCUS TENT;0TICKET;0CLAPPER BOARD;0PERFORMING ARTS;0VIDEO GAME;0DIRECT HIT;",
     "0SLOT MACHINE;0BILLIARDS;0GAME DIE;0BOWLING;0FLOWER PLAYING CARDS;0kz wx;0jk kz NOTES;0SAXOPHONE;0GUITAR;",
     "0kz up;0TRUMPET;0VIOLIN;0kz SCORE;0RUNNING SHIRT b SASH;0TENNIS RACQUET n vd;0SKI n SKI BOOT;",
     "0BASKETBALL n HOOP;0CHEQUERED FLAG;0SNOWBOARDER;0RUNNER;0SURFER;0SPORTS MEDAL;0TROPHY;0ug RACING;",
     "0AMERICAN FOOTBALL;0RUGBY+1;0SWIMMER;0WEIGHT LIFTER;0GOLFER;0RACING MOTORCYCLE;1CAR;0CRICKET BAT n vd;",
     "0VOLLEYBALL;0FIELD HOCKEY STICK n vd;0ICE HOCKEY STICK n PUCK;0TABLE TENNIS PADDLE n vd;0SNOW CAPPED nf;",
     "0CAMPING;0BEACH b ul;0zj xk;0HOUSE BUILDINGS;0CITYSCAPE;0DERELICT HOUSE zj;0CLASSICAL+1;0DESERT;1ISLAND;",
     "0NATIONAL PARK;0STADIUM;0HOUSE zj;1b GARDEN;0OFFICE zj;0pb POST OFFICE;0EUROPEAN+2;0HOSPITAL;0BANK;",
     "0AUTOMATED TELLER MACHINE;0HOTEL;0LOVE HOTEL;0CONVENIENCE STORE;0SCHOOL;0DEPARTMENT STORE;0FACTORY;",
     "0IZAKAYA LANTERN;0pb CASTLE;0EUROPEAN+1;0x PENNANT;0q+1;0WAVING x FLAG;1q+1;0ROSETTE;0q ROSETTE;0LABEL;",
     "0BADMINTON RACQUET n SHUTTLECOCK;0BOW n p;0AMPHORA;0EMOJI ci FITZPATRICK TYPE-1-2;4-3;+3;0RAT;0MOUSE;0OX;",
     "0qe BUFFALO;0COW;0TIGER;0LEOPARD;0RABBIT;0CAT;0DRAGON;0CROCODILE;0WHALE;0SNAIL;0SNAKE;0ug;0RAM;0GOAT;0SHEEP;",
     "0MONKEY;0ROOSTER;0CHICKEN;0DOG;0PIG;0BOAR;0ELEPHANT;0OCTOPUS;0SPIRAL SHELL;0BUG;0ANT;0HONEYBEE;0LADY BEETLE;",
     "0FISH;0TROPICAL FISH;0BLOWFISH;0TURTLE;0HATCHING CHICK;0BABY+1;0FRONT-uj BABY+1;0BIRD;0PENGUIN;0KOALA;0POODLE;",
     "0DROMEDARY CAMEL;0BACTRIAN+1;0DOLPHIN;0MOUSE dr;0COW+1;0TIGER+1;0RABBIT+1;0CAT+1;0DRAGON+1;0SPOUTING WHALE;",
     "0ug dr;0MONKEY+1;0DOG+1;0PIG+1;0FROG+1;0HAMSTER+1;0WOLF+1;0BEAR+1;0PANDA+1;0PIG NOSE;0PAW PRINTS;0CHIPMUNK;",
     "0ov;0EYE;0EAR;0NOSE;0jh;0wr;0x UP ap BACKHAND cr;1bc+3;1i+3;1e+3;0FISTED lp g;0WAVING+2;0OK+2;0THUMBS UP+1;",
     "1bc+1;0CLAPPING HANDS+1;0di+2;0CROWN;0WOMANS HAT;0EYEGLASSES;0NECKTIE;0T-SHIRT;0JEANS;0DRESS;0KIMONO;0BIKINI;",
     "0WOMANS CLOTHES;0PURSE;0HANDBAG;0POUCH;0MANS SHOE;0ATHLETIC+1;0cx-HEELED+1;0WOMANS SANDAL;1BOOTS;0FOOTPRINTS;",
     "0BUST IN SILHOUETTE;0BUSTS+2;0BOY;0GIRL;0xs;0vj;0FAMILY;0xs n vj HOLDING HANDS;0ax MEN+2;1WOMEN+2;",
     "0POLICE OFFICER;0vj b BUNNY EARS;0BRIDE b VEIL;0kq b BLOND HAIR;0xs b GUA PI MAO;2TURBAN;0OLDER xs;1vj;0BABY;",
     "0xk WORKER;0PRINCESS;0pb OGRE;1GOBLIN;0GHOST;0BABY ANGEL;0EXTRATERRESTRIAL ALIEN;0ALIEN MONSTER;0IMP;0SKULL;",
     "0zk DESK kq;0GUARDSMAN;0DANCER;0LIPSTICK;0NAIL POLISH;0dr MASSAGE;0HAIRCUT;0BARBER POLE;0SYRINGE;0PILL;",
     "0KISS aq;0LOVE d;0dk;0GEM STONE;0KISS;0BOUQUET;0COUPLE b ib;0WEDDING;0BEATING ib;0zw+1;0ax HEARTS;",
     "0SPARKLING ib;0GROWING+1;0ib b p;0BLUE ib;0wa+1;0YELLOW+1;0PURPLE+1;0ib b RIBBON;0REVOLVING HEARTS;",
     "0ib DECORATION;0ed SHAPE b A cd kp;0zl bl BULB;0ANGER ad;0BOMB;0SLEEPING ad;0COLLISION+1;0SPLASHING SWEAT+1;",
     "0DROPLET;0mp ad;0PILE OF POO;0FLEXED BICEPS;0DIZZY ad;0SPEECH BALLOON;0THOUGHT+1;0x FLOWER;0hp POINTS ad;",
     "0MONEY BAG;0rt EXCHANGE;0am tw g;0CREDIT CARD;0BANKNOTE b YEN g;2tw+1;2EURO+1;2POUND+1;0MONEY b WINGS;",
     "0CHART b ac TREND n YEN g;0SEAT;0PERSONAL COMPUTER;0BRIEFCASE;0MINIDISC;0FLOPPY DISK;0OPTICAL DISC;0DVD;",
     "0FILE FOLDER;0di FILE+1;0PAGE b qp;1uj UP;0CALENDAR;0TEAR-OFF CALENDAR;0CARD cr;0CHART b ac TREND;2o+1;",
     "0hg CHART;0CLIPBOARD;0PUSHPIN;0rq PUSHPIN;0PAPERCLIP;0el RULER;0ia+1;0BOOKMARK TABS;0LEDGER;0NOTEBOOK;",
     "1b DECORATIVE COVER;0ep BOOK;0di+1;0wa+1;0BLUE+1;0xl+1;0BOOKS;0NAME BADGE;0SCROLL;0MEMO;0iz zm;0PAGER;",
     "0FAX MACHINE;0SATELLITE ANTENNA;0PUBLIC ADDRESS LOUDSPEAKER;0CHEERING MEGAPHONE;0OUTBOX TRAY;0INBOX+1;",
     "0PACKAGE;0E-MAIL ad;0INCOMING pf;0pf b o p k;0ep MAILBOX b LOWERED FLAG;3fy+1;0di+4;3LOWERED+1;0POSTBOX;",
     "0POSTAL oa;0NEWSPAPER;0xm;2b f p AT i;0VIBRATION MODE;0xm OFF;0NO MOBILE PHONES;0ANTENNA b BARS;0CAMERA;",
     "1b FLASH;0VIDEO CAMERA;0TELEVISION;0RADIO;0VIDEOCASSETTE;0FILM PROJECTOR;0PORTABLE STEREO;0PRAYER BEADS;",
     "0TWISTED f so;0gr f n j di ak+1;7b bq bk mb;1o n ac di ak so;0cn+6;0fn BRIGHTNESS ad;0cx+2;0SPEAKER b rv ai;1;",
     "1b bk ox pc;2l ox WAVES;0BATTERY;0zl PLUG;0i-ap MAGNIFYING GLASS;0e+3;0LOCK b INK PEN;0ep LOCK b KEY;0KEY;",
     "0LOCK;0di LOCK;0BELL;1b rv ai;0BOOKMARK;0LINK ad;0RADIO BUTTON;0uw b j p k;0END+4;0ON b cb aq b i e+2;",
     "0SOON b f+2;0ne b ac+2;0NO bk wb ls ad;0KEYCAP gu;0INPUT ad qm dm aa LETTERS;4c+1;3NUMBERS;3SYMBOLS;",
     "3dm LETTERS;0wq;0zl TORCH;0WRENCH;0HAMMER;0NUT n BOLT;0HOCHO;0PISTOL;0MICROSCOPE;0TELESCOPE;0CRYSTAL vd;",
     "0dp fm od b ab cd;0pb ad qm BEGINNER;0TRIDENT EMBLEM;0q av BUTTON;0x+2;0cf RED ak;1BLUE+1;1xl ed;1BLUE+1;",
     "0c xl+1;1BLUE+1;0UP-ap RED an;0bc+3;0UP-ap c+2;0bc+4;0bi e kj x ak;0bt+4;0bq gn POMMEE;0gn POMMEE b ct-ak y;2;",
     "0ti i SEMICIRCLE b l ce;1e+4;0ad qm MARKS CHAPTER;0x dm gn;0am+2;0CELTIC+1;0OM ad;0DOVE OF PEACE;0KAABA;",
     "0MOSQUE;0SYNAGOGUE;0MENORAH b be BRANCHES;0BOWL OF HYGIEIA;0CLOCK dr bk OCLOCK;2ax+1;2l+1;2z+1;2ao+1;2dp+1;",
     "2aj+1;2af+1;2be+1;2gu+1;2lo+1;2kr+1;2bk-fg;2ax+1;2l+1;2z+1;2ao+1;2dp+1;2aj+1;2af+1;2be+1;2gu+1;2lo+1;2kr+1;",
     "0e SPEAKER;2b bk ox pc;3l ox WAVES;0BULLHORN;1b ox WAVES;0RINGING BELL;0BOOK;0CANDLE;0MANTELPIECE CLOCK;",
     "0q SKULL n CROSSBONES;0NO PIRACY;0HOLE;0xs IN BUSINESS SUIT LEVITATING;0SLEUTH OR SPY;0DARK SUNGLASSES;",
     "0SPIDER;1WEB;0JOYSTICK;0xs DANCING;0i lp iz zm;0iz zm b PAGE;0e lp iz zm;0x TOUCHTONE iz;0q+2;",
     "0iz ON ne OF MODEM;0CLAMSHELL xm;0uw OF pf;0STAMPED+1;0pf b vv;0FLYING pf;0PEN by STAMPED+1;",
     "0LINKED PAPERCLIPS;0q PUSHPIN;0bi i PENCIL;2BALLPOINT PEN;2FOUNTAIN+1;2PAINTBRUSH;2CRAYON;0i WRITING lp;",
     "0at OK lp g;0fy lp b hu SPLAYED;0ag fy+4;1THUMBS UP g;2bc+1;1VICTORY lp;1lp b ab sp EXTENDED;",
     "0fy lp b PART hd ab n dk hu;0x bc ap i lp cr;0my x i ap+1;2e+2;1q i+2;2e+2;0q i ap BACKHAND+1;1e+3;",
     "0my x UP ap+1;2bc+2;1q UP+2;2bc+2;0q UP ap BACKHAND+1;1bc+3;1ib;0DESKTOP COMPUTER;0up n MOUSE;",
     "0l NETWORKED COMPUTERS;0PRINTER;0POCKET CALCULATOR;0q zv SHELL FLOPPY DISK;0x+4;0wc+3;0TAPE CARTRIDGE;",
     "0WIRED up;0bk BUTTON MOUSE;0ax+2;0l+2;0TRACKBALL;0zy PERSONAL COMPUTER;0zv DISK;0SCREEN;0PRINTER ICON;0FAX+1;",
     "0OPTICAL DISC+1;0DOCUMENT b TEXT;3n PICTURE;2+1;0FRAME+2;2TILES;2AN X;0q FOLDER;0FOLDER;0di FOLDER;",
     "0CARD cr DIVIDERS;1FILE uf;0FILE CABINET;0yz wx;2PAGE;2PAD;0wx;1PAGE;1PAD;0yz DOCUMENT;1PAGE;1PAGES;0DOCUMENT;",
     "0PAGE;0PAGES;0WASTEBASKET;0SPIRAL wx PAD;1CALENDAR+1;0DESKTOP WINDOW;0MINIMIZE;0MAXIMIZE;0OVERLAP;",
     "0gr e n i SEMICIRCLE so;0rv X;0INCREASE FONT SIZE ad;0DECREASE+3;0COMPRESSION;0zy KEY;0ROLLED-UP NEWSPAPER;",
     "0PAGE b bq TEXT;0STOCK CHART;0wp KNIFE;0LIPS;0SPEAKING rb IN SILHOUETTE;0l RAYS k;2y;2i;2e;0i SPEECH BUBBLE;",
     "0e+2;0ax SPEECH BUBBLES;0l+2;0i THOUGHT BUBBLE;0e+2;0i ANGER+1;0e+2;0MOOD+1;0vv MOOD+1;2;0um uf b um;1gv X;",
     "1uf b+2;1lv+2;1uf b+3;0bl qc aq;0um uf b lv qc;0WORLD MAP;0MOUNT FUJI;0TOKYO TOWER;0STATUE OF LIBERTY;",
     "0SILHOUETTE OF JAPAN;0MOYAI;0GRINNING dr;2b ht ov;0dr b TEARS OF JOY;0ht dr b di jh;5n ht ov;6COLD SWEAT;",
     "6TIGHTLY-ep ov;3HALO;3HORNS;0WINKING dr;0ht dr b ht ov;0dr SAVOURING DELICIOUS FOOD;0RELIEVED dr;",
     "0ht dr b ib-qq ov;3SUNGLASSES;0SMIRKING dr;0ft+1;0EXPRESSIONLESS+1;0UNAMUSED+1;0dr b COLD SWEAT;0PENSIVE dr;",
     "0CONFUSED+1;0CONFOUNDED+1;0KISSING+1;0dr THROWING A KISS;0KISSING dr b ht ov;3ep+1;0dr b STUCK-OUT wr;",
     "5n WINKING EYE;6TIGHTLY-ep ov;0DISAPPOINTED dr;0WORRIED+1;0ANGRY+1;0POUTING+1;0CRYING+1;0PERSEVERING+1;",
     "0dr b LOOK OF TRIUMPH;0DISAPPOINTED BUT RELIEVED dr;0zd dr b di jh;0ANGUISHED dr;0FEARFUL+1;0WEARY+1;",
     "0SLEEPY+1;0TIRED+1;0GRIMACING+1;0LOUDLY CRYING+1;0dr b di jh;0HUSHED dr;0dr b di jh n COLD SWEAT;",
     "1SCREAMING IN FEAR;0ASTONISHED dr;0FLUSHED+1;0SLEEPING+1;0DIZZY+1;0dr wg jh;1b MEDICAL MASK;",
     "0GRINNING CAT dr b ht ov;0CAT dr b TEARS OF JOY;0ht CAT dr b di jh;4ib-qq ov;0CAT dr b WRY SMILE;",
     "0KISSING CAT dr b ep ov;0POUTING CAT dr;0CRYING+2;0WEARY+2;0SLIGHTLY zd+1;1ht+1;0UPSIDE-bc+1;0dr b ROLLING ov;",
     "2NO GOOD GESTURE;2OK+1;0kq BOWING DEEPLY;0SEE-NO-EVIL MONKEY;0HEAR+3;0SPEAK+3;0HAPPY kq RAISING bk lp;",
     "0kq RAISING BOTH HANDS IN CELEBRATION;1zd;1b POUTING dr;2FOLDED HANDS;"]

/-- Ornaments, transport and map symbols. -/
def transportNames : Block where
  first := 0x1F650
  lines :=
    ["0cv ap LEAF;0ee+3;0eh+2;0ee+3;0at cv+2;1ee+3;1eh+2;1ee+3;0cv ap VINE+1;0ee+4;0eh+3;0ee+4;0am cv+3;1ee+4;1eh+3;",
     "1ee+4;0cv ap BUD;0ee+3;0eh+2;0ee+3;0am cv+2;1ee+3;1eh+2;1ee+3;0HOLLOW QUILT av iq;4IN q av;0SOLID QUILT av iq;",
     "4IN q av;0j ROCKET;0ac+1;0f+1;0o+1;0gv de ET iq;0am gv+3;0de di+2;0am de+3;1nc+1;0SWASH+2;",
     "0hb am h at ez hm aq+1;4+4;3fn+5;0am yk+1;0hb+2;0am SANS+3;0qx am kb;2ky+1;0CHECKER BOARD;0ky CHECKER+1;",
     "0ROCKET;0HELICOPTER;0STEAM LOCOMOTIVE;0RAILWAY CAR;0cx-SPEED TRAIN;3b mu NOSE;0TRAIN;0METRO;0bl RAIL;0STATION;",
     "0TRAM;1CAR;0BUS;0uq BUS;0TROLLEYBUS;0BUS STOP;0MINIBUS;0AMBULANCE;0wq ENGINE;0POLICE CAR;0uq POLICE+1;0TAXI;",
     "0uq TAXI;0AUTOMOBILE;0uq AUTOMOBILE;0RECREATIONAL VEHICLE;0DELIVERY TRUCK;0ARTICULATED LORRY;0TRACTOR;",
     "0MONORAIL;0nf RAILWAY;0SUSPENSION+1;0nf CABLEWAY;0AERIAL TRAMWAY;0SHIP;0ROWBOAT;0SPEEDBOAT;0t TRAFFIC bl;0m+2;",
     "0xk g;0POLICE CARS REVOLVING bl;0ia FLAG ON POST;0DOOR;0NO ENTRY g;0SMOKING ad;0NO SMOKING+1;",
     "0PUT LITTER IN ITS PLACE+1;0DO oy LITTER+1;0POTABLE qe+1;0NON-POTABLE+2;0BICYCLE;0NO BICYCLES;0BICYCLIST;",
     "0nf BICYCLIST;0PEDESTRIAN;0NO PEDESTRIANS;0CHILDREN cj;0MENS ad;0WOMENS+1;0RESTROOM;0BABY ad;0TOILET;",
     "0qe CLOSET;0SHOWER;0BATH;0BATHTUB;0PASSPORT CONTROL;0CUSTOMS;0BAGGAGE CLAIM;0i LUGGAGE;0an b mj th;",
     "0PROHIBITED g;0bq zk SOURCE;0BOYS ad;0GIRLS+1;0COUCH n LAMP;0SLEEPING ACCOMMODATION;0SHOPPING BAGS;",
     "0BELLHOP BELL;0BED;0PLACE OF WORSHIP;0OCTAGONAL g;0SHOPPING TROLLEY;0STUPA;0PAGODA;0HINDU TEMPLE;0HUT;",
     "0ELEVATOR;-5;0PLAYGROUND SLIDE;0WHEEL;0dk BUOY;0HAMMER n WRENCH;0SHIELD;0OIL DRUM;0MOTORWAY;0RAILWAY TRACK;",
     "0MOTOR BOAT;0UP-ap MILITARY AIRPLANE;2+1;2c+1;0c+1;0NORTHEAST-ap+1;0AIRPLANE DEPARTURE;1ARRIVING;;;;",
     "0SATELLITE;0uq wq ENGINE;0DIESEL LOCOMOTIVE;0PASSENGER SHIP;0SCOOTER;0MOTOR SCOOTER;0CANOE;0SLED;",
     "0FLYING SAUCER;0SKATEBOARD;0AUTO RICKSHAW;0PICKUP TRUCK;0ROLLER SKATE;"]

/-- Alchemical symbols, shapes and arrows. -/
def alchemicalNames : Block where
  first := 0x1F700
  lines :=
    ["0ALCHEMICAL ad qm QUINTESSENCE;3AIR;3wq;3qf;3qe;3AQUAFORTIS;3AQUA REGIA;5-2;4VITAE;5-2;3VINEGAR;4-2;+1;",
     "3SULFUR;3PHILOSOPHERS+1;3q+1;3MERCURY SUBLIMATE;5-2;+1;3CINNABAR;3SALT;3NITRE;3VITRIOL;4-2;3ROCK SALT;5-2;",
     "3GOLD;3SILVER;3IRON ORE;5-2;3CROCUS OF IRON;3REGULUS+2;3COPPER ORE;3IRON-COPPER+1;3rx COPPER;3CROCUS+2;6-2;",
     "3COPPER ANTIMONIATE;3SALT OF+2;3rx SALT OF COPPER;3VERDIGRIS;3TIN ORE;3LEAD+1;3ANTIMONY+1;3rx ANTIMONY;",
     "3SALT+2;3rx+3;3VINEGAR+2;3REGULUS+2;6-2;4;4-2;+2;3ALKALI;4-2;3MARCASITE;3SAL-AMMONIAC;3ARSENIC;3REALGAR;4-2;",
     "3AURIPIGMENT;3BISMUTH ORE;3TARTAR;4-2;3QUICK LIME;3BORAX;4-2;+1;3ALUM;3OIL;3SPIRIT;3TINCTURE;3GUM;3WAX;",
     "3POWDER;3CALX;3TUTTY;3CAPUT MORTUUM;3SCEPTER OF JOVE;3CADUCEUS;3TRIDENT;3STARRED+1;3LODESTONE;3SOAP;3URINE;",
     "3ug DUNG;3ASHES;3POT+1;3BRICK;3POWDERED+1;3AMALGAM;3STRATUM SUPER STRATUM;6-2;3SUBLIMATION;3PRECIPITATE;",
     "3DISTILL;3DISSOLVE;4-2;3PURIFY;3PUTREFACTION;3CRUCIBLE;4-2;+3;3ALEMBIC;3BATH OF MARY;5VAPOURS;3RETORT;3HOUR;",
     "3NIGHT;3DAY-NIGHT;3MONTH;3ct DRAM;4OUNCE;-12;0q i-ap ISOSCELES e an;1UP+4;1e+4;1bc+4;1SLIGHTLY c ak;",
     "0bg lv x+1;0lv+2;0am+2;0qx am+2;0pv+3;0x ak lx q c+1;0rq TARGET;0q TINY av;1SLIGHTLY c+1;0bl x+1;0bg+2;0lv+2;",
     "0am+2;0qx am+2;0pv+3;0x av lx q qx c+1;4bg+1;0av TARGET;0q TINY ed;1qx c+1;1bg+2;0x ed lx q qx+2;4bg+1;",
     "0ed TARGET;0q TINY pt;1qx c+1;1bg+2;0x pt lx q+2;0THIN kt gn;0bl+2;0bg+2;0lv+2;0qx lv+2;1am+2;0pv+3;0THIN xe;",
     "0bl+1;0bg+1;0lv+1;0am+1;0qx am+1;0pv+2;0bl ao SPOKED eu;0bg+3;0lv+3;0am+3;0qx am+3;0pv+4;0bl dp+2;0bg+3;0lv+3;",
     "0am+3;0qx am+3;0pv+4;0bl af+2;0bg+3;0lv+3;0am+3;0qx am+3;0bl l fm q od;0bg+4;0l+3;0bg l fm nq+1;0bl z fm q+1;",
     "0bg+4;0z+3;0bg z fm nq+1;0ky bl+4;0bl ao fm q+1;0am+4;0bg dp+3;0am+4;0dp fm nq+1;0bg af fm q+1;0am+4;0qx am+4;",
     "0am af fm nq+1;0bl kr fm q+1;0am+4;3nq+1;0bq an;0gq bq+1;0bq av;0gq bq+1;-7;0cf xl ak;1YELLOW+1;1wa+1;",
     "1PURPLE+1;1BROWN+1;1RED av;1BLUE+1;1xl+1;1YELLOW+1;1wa+1;1PURPLE+1;1BROWN+1;-4;0am es g;-15;0j p b c an eb;",
     "0ac+5;0f+5;0o+5;0j p b bg+2;0ac+5;0f+5;0o+5;0j p b cf+2;0ac+5;0f+5;0o+5;-4;0j p b c EQUILATERAL+1;0ac+5;0f+5;",
     "0o+5;0j p b+2;0ac+4;0f+4;0o+4;0am j+4;1ac+4;1f+4;1o+4;1j p b cf+2;1ac+5;1f+5;1o+5;0j an-dy p b NARROW SHAFT;",
     "0ac+6;0f+6;0o+6;0j an-dy p b bg+1;0ac+6;0f+6;0o+6;0j an-dy p b lv+1;0ac+6;0f+6;0o+6;0j an-dy p b am+1;0ac+6;",
     "0f+6;0o+6;0j an-dy p b qx+2;0ac+7;0f+7;0o+7;0j sp-POST p;0ac+3;0f+3;0o+3;0j dv+1;0ac+2;0f+2;0o+2;",
     "0j COMPRESSED+1;0ac+2;0f+2;0o+2;0j am+2;0ac+3;0f+3;0o+3;0j am+1;0ac+2;0f+2;0o+2;-8;0j hb+1;0ac+3;0f+3;0o+3;",
     "0cv+3;1mv+3;0ee+4;1lq+3;0i e+3;0UP bc+3;-6;0WIDE-dy j bl gb+1;2ac+3;2f+3;2o+3;2cv+3;3mv+3;2ee+4;3lq+3;2j+2;",
     "2ac+2;2f+2;2o+2;2cv+2;3mv+2;2ee+3;3lq+2;2j bg+2;2ac+3;2f+3;2o+3;2cv+3;3mv+3;2ee+4;3lq+3;2j am+2;2ac+3;2f+3;",
     "2o+3;2cv+3;3mv+3;2ee+4;3lq+3;2j qx+3;2ac+4;2f+4;2o+4;2cv+4;3mv+4;2ee+5;3lq+4;-8;0j an eb;0ac+2;0f+2;0o+2;",
     "0j x p WITHIN+2;0ac+5;0f+5;0o+5;0j p b ti gj;0ac+4;0f+4;0o+4;0am p SHAFT WIDTH bk;4ax qo;4bk ct;5qd;",
     "0j eg-SHADED x p;0f eg SHADED+2;0j ne+3;0f+4;0j i-SHADED+2;0f e+3;0j+4;0f i+3;0j uw-TILTED kj+2;0f+5;",
     "0j FRONT+4;0f+5;0x p SHAFT WIDTH bk;4ax qo;;;0p ap ac THEN cv;2f xh ee+1;"]

/-- Gestures, animals, food and people. -/
def gestureNames : Block where
  first := 0x1F900
  lines :=
    ["0bq gn FORMEE b z ce;4ax+1;3;0i ct ak b z ce;4l+1;4ax+1;4cd;3;0DOWNWARD uj bx;2ti+1;2bx b cd;2ti+3;",
     "0PINCHED hu;0x ib;0BROWN+1;0PINCHING lp;0ZIPPER-jh dr;0MONEY+2;0dr b THERMOMETER;0NERD dr;0THINKING+1;",
     "0dr b rb-BANDAGE;0ROBOT dr;0HUGGING+1;0g OF pj HORNS;0CALL ME lp;0fy uw OF+1;0i-uj jp;0e+2;0HANDSHAKE;",
     "0lp b cr n ab hu hq;0I LOVE YOU lp g;0dr b COWBOY HAT;0CLOWN dr;0NAUSEATED+1;0ROLLING ON pj zn LAUGHING;",
     "0DROOLING dr;0LYING+1;0dr PALM;0SNEEZING dr;0dr b bk EYEBROW fy;0GRINNING dr b od ov;3bk cf n bk c EYE;",
     "0dr b sp COVERING ep LIPS;0SERIOUS dr b SYMBOLS COVERING jh;0ht dr b ht ov n lp+2;0dr b di jh VOMITING;",
     "0SHOCKED dr b EXPLODING rb;0PREGNANT vj;0BREAST-FEEDING;0PALMS UP yl;0SELFIE;0PRINCE;0xs IN TUXEDO;",
     "0MOTHER CHRISTMAS;0SHRUG;0kq DOING CARTWHEEL;0JUGGLING;0FENCER;0MODERN PENTATHLON;0WRESTLERS;0qe POLO;",
     "0HANDBALL;0DIVING MASK;0WILTED FLOWER;0DRUM b DRUMSTICKS;0CLINKING GLASSES;0TUMBLER GLASS;0SPOON;0GOAL NET;",
     "0RIFLE;0vk PLACE MEDAL;0oz+2;0qd+2;0BOXING GLOVE;0MARTIAL ARTS UNIFORM;0CURLING STONE;0LACROSSE STICK n vd;",
     "0SOFTBALL;0FLYING DISC;0CROISSANT;0AVOCADO;0CUCUMBER;0BACON;0POTATO;0CARROT;0BAGUETTE BREAD;0wa SALAD;",
     "0SHALLOW PAN OF FOOD;0STUFFED FLATBREAD;0EGG;0GLASS OF MILK;0PEANUTS;0KIWIFRUIT;0PANCAKES;0DUMPLING;",
     "0FORTUNE COOKIE;0TAKEOUT uf;0CHOPSTICKS;0BOWL b SPOON;0CUP b STRAW;0COCONUT;0BROCCOLI;0PIE;0PRETZEL;",
     "0CUT OF MEAT;0SANDWICH;0CANNED FOOD;0LEAFY wa;0MANGO;0si CAKE;0BAGEL;0ht dr b ht ov n l HEARTS;0YAWNING dr;",
     "0ht dr b TEAR;0dr b PARTY oa n PARTY HAT;2UNEVEN ov n yg jh;0OVERHEATED dr;0FREEZING+1;0NINJA;0DISGUISED dr;",
     "0dr HOLDING uw TEARS;1b PLEADING ov;0SARI;0LAB COAT;0GOGGLES;0HIKING BOOT;0FLAT SHOE;0CRAB;0LION dr;0SCORPION;",
     "0TURKEY;0UNICORN dr;0EAGLE;0DUCK;0BAT;0SHARK;0OWL;0FOX dr;0BUTTERFLY;0DEER;0GORILLA;0LIZARD;0RHINOCEROS;",
     "0SHRIMP;0SQUID;0GIRAFFE dr;0ZEBRA+1;0HEDGEHOG;0SAUROPOD;0T-REX;0CRICKET;0KANGAROO;0LLAMA;0PEACOCK;",
     "0HIPPOPOTAMUS;0PARROT;0RACCOON;0LOBSTER;0MOSQUITO;0MICROBE;0BADGER;0SWAN;0MAMMOTH;0DODO;0SLOTH;0OTTER;",
     "0ORANGUTAN;0SKUNK;0FLAMINGO;0OYSTER;0BEAVER;0BISON;0SEAL;0GUIDE DOG;0PROBING CANE;0EMOJI COMPONENT RED HAIR;",
     "2jq+1;2BALD;2x HAIR;0BONE;0LEG;0FOOT;0TOOTH;0SUPERHERO;0SUPERVILLAIN;0SAFETY VEST;0EAR b HEARING AID;",
     "0MOTORIZED WHEELCHAIR;0MANUAL+1;0MECHANICAL ARM;1LEG;0CHEESE WEDGE;0CUPCAKE;0SALT SHAKER;0BEVERAGE uf;0GARLIC;",
     "0ONION;0FALAFEL;0WAFFLE;0BUTTER;0MATE DRINK;0ICE CUBE;0BUBBLE TEA;0TROLL;0STANDING kq;0KNEELING+1;0DEAF+1;",
     "0dr b MONOCLE;0ADULT;0CHILD;0OLDER ADULT;0BEARDED kq;0kq b HEADSCARF;1IN STEAMY ROOM;1CLIMBING;1IN LOTUS zh;",
     "0MAGE;0FAIRY;0VAMPIRE;0MERPERSON;0ELF;0GENIE;0ZOMBIE;0BRAIN;0xl ib;0BILLED CAP;0SCARF;0GLOVES;0COAT;0SOCKS;",
     "0RED GIFT pf;0FIRECRACKER;0JIGSAW PUZZLE yv;0TEST TUBE;0PETRI sy;0DNA h HELIX;0COMPASS;0ABACUS;",
     "0wq EXTINGUISHER;0TOOLBOX;0BRICK;0MAGNET;0LUGGAGE;0LOTION BOTTLE;0SPOOL OF THREAD;0vd OF YARN;0SAFETY PIN;",
     "0TEDDY BEAR;0BROOM;0BASKET;0ROLL OF PAPER;0hg OF SOAP;0SPONGE;0RECEIPT;0NAZAR AMULET;0ft iw;2kw;2tb;2ks;2gp;",
     "2vc;0x ru gp fv ki-ao wz;0q+6;0ft+6;0x iw fv hz+1;2kw+3;2tb+3;2ks+3;2gp+3;2vc+3;0q iw+3;2kw+3;2tb+3;2ks+3;",
     "2gp+3;2vc+3;0ft iw+3;2kw+3;2tb+3;2ks+3;2gp+3;2vc+3;0x ru gp fv aw fg-ao+1;0q+8;0ft+8;0x ru at KING;3kw;3tb;",
     "3ks;3gp;3vc;0q ru at KING;3kw;3tb;3ks;3gp;3vc;0ft ru at KING;3kw;3tb;3ks;3gp;3vc;0x ru gp fv ax hp cm-ao wz;",
     "0q+8;0ft+8;0x iw fv ax hp gy+1;2kw+5;2tb+5;2ks+5;2gp+5;2vc+5;0q iw+5;2kw+5;2tb+5;2ks+5;2gp+5;2vc+5;0ft iw+5;",
     "2kw+5;2tb+5;2ks+5;2gp+5;2vc+5;0x ru gp fv l hp oe+1;0q+7;0ft+7;0x ru EQUIHOPPER;0q+2;0ft+2;",
     "0x ru EQUIHOPPER fv hz wz;0q+5;0ft+5;0x ru gp-kw;3-tb;3-ks;0q ru gp-kw;3-tb;3-ks;-12;0XIANGQI RED GENERAL;",
     "2MANDARIN;2ELEPHANT;2ug;2CHARIOT;2CANNON;2SOLDIER;1q GENERAL;2MANDARIN;2ELEPHANT;2ug;2CHARIOT;2CANNON;",
     "2SOLDIER;;;0BALLET SHOES;0bk-yv SWIMSUIT;0BRIEFS;0SHORTS;0THONG SANDAL;;;;0DROP OF BLOOD;0ADHESIVE BANDAGE;",
     "0STETHOSCOPE;0X-RAY;0CRUTCH;;;;0YO-YO;0KITE;0PARACHUTE;0BOOMERANG;0MAGIC WAND;0PINATA;0NESTING DOLLS;-9;",
     "0RINGED PLANET;0CHAIR;0RAZOR;0AXE;0DIYA LAMP;0BANJO;0MILITARY HELMET;0ACCORDION;0dc DRUM;0COIN;0CARPENTRY SAW;",
     "0SCREWDRIVER;0LADDER;0bx;0MIRROR;0WINDOW;0PLUNGER;0SEWING NEEDLE;0KNOT;0BUCKET;0MOUSE TRAP;0TOOTHBRUSH;",
     "0HEADSTONE;0PLACARD;0ROCK;0MIRROR vd;0IDENTIFICATION CARD;0fn BATTERY;0HAMSA;;;;0FLY;0WORM;0BEETLE;0COCKROACH;",
     "0POTTED PLANT;0WOOD;0FEATHER;0LOTUS;0CORAL;0yz NEST;0NEST b EGGS;-5;0ANATOMICAL ib;0LUNGS;0PEOPLE HUGGING;",
     "0PREGNANT xs;1kq;0kq b CROWN;-10;0BLUEBERRIES;0BELL PEPPER;0OLIVE;0FLATBREAD;0TAMALE;0FONDUE;0TEAPOT;",
     "0POURING LIQUID;0BEANS;0JAR;-6;0MELTING dr;0SALUTING+1;0dr b di ov n lp by jh;2PEEKING EYE;2ca jh;0ev et dr;",
     "0BITING LIP;0BUBBLES;-8;0lp b cr sp n cl hq;0f lp;0j+1;0PALM bc+1;1UP+1;0cr ap AT pj VIEWER;0ib HANDS;"]

/-- Symbols of old computers. -/
def legacyNames : Block where
  first := 0x1FB00
  lines :=
    ["0jt SEXTANT-1;+1;2-12;2-3;2-13;2-23;2-123;2-4;2-14;2-24;2-124;2-34;2-134;2-234;2-1234;2-5;2-15;2-25;2-125;",
     "2-35;2-235;2-1235;2-45;2-145;2-245;2-1245;2-345;2-1345;2-2345;2-12345;2-6;2-16;2-26;2-126;2-36;2-136;2-236;",
     "2-1236;2-46;2-146;2-1246;2-346;2-1346;2-2346;2-12346;2-56;2-156;2-256;2-1256;2-356;2-1356;2-2356;2-12356;",
     "2-456;2-1456;2-2456;2-12456;2-3456;2-13456;2-23456;0bi i jt ca bi ab i TO bi cg;9e;4bt ab i TO bi cg;9e;",
     "5i TO bi cg;1e jt ca bt ab i TO bt+1;9e;4bi ab i TO bt cg;9e;5i TO bt cg;5ab i TO bt ab e;5cg TO bi+2;5i+4;",
     "5cg TO bt+2;5i+4;5cg TO bt+1;1i jt ca bt cg TO bt ab+1;5i+4;5cg TO bi+2;5i+4;5cg TO bi+1;5ab i TO bi ab+1;",
     "0bt e jt ca bi ab i TO bi cg;9e;4bt ab i TO bi cg;9e;5i TO bi cg;1i jt ca bt ab i TO bt+1;9e;",
     "4bi ab i TO bt cg;9e;5i TO bt cg;5ab i TO bt ab e;5cg TO bi+2;5i+4;5cg TO bt+2;5i+4;5cg TO bt+1;",
     "1e jt ca bt cg TO bt ab+1;5i+4;5cg TO bi+2;5i+4;5cg TO bi+1;5ab i TO bi ab+1;1n e n bi ia l im jt;",
     "0i n bi n e+4;0bt n i n bi+4;0i n bt n e+4;1ia bk du+1;0bt+4;0e+4;0bi+4;0m bk gx jt-2;+5;0t bk gx jt-2;+5;",
     "0i n bi bk gx jt;2bt+3;0e+5;2bi+3;0bt+5;0t bk gx jt-1358;0bt bk du jt;1l la+1;1ao+2;1l im+1;1aj la+1;",
     "0e bk du+1;1l la+1;1ao+2;1l im+1;1aj la+1;0i ct bg SHADE;0e+3;0bt+3;0bi+3;0og+2;0bt ct jt n bi ct og+2;",
     "2og bg SHADE n bi ct jt;;0i ct og bg SHADE n e+2;0CHECKER BOARD FILL;0og CHECKER+2;0am t+1;0bt i TO bi e+1;",
     "1e TO bi i+1;1n bi ia ct jt;0i n e+3;0bt i ia bg SHADE;1e+3;0bi+4;1i+3;0uf DRAWINGS bl ca bt cg TO ab i;8e;",
     "4ab i TO bi cg;5e+3;4bt cg TO ab i+3;8e+3;4ab i TO bi cg TO ab e;7bt+4;4bt cg TO ab i n ab e TO bi cg;",
     "8e n ab i+3;9TO bi cg TO ab i;8i TO bi cg TO ab e;4ab i TO bt cg TO ab e TO bi cg;5e TO bt cg TO ab i+3;4ed;",
     "3t b m ai;0eb-qq POINTER;0og qc aq;0i ct RUNNING xs;0e+3;0og o p b TIP j;0j p n bt n bi bk gx jt;0f+8;",
     "0o p n e+3;0ac+6;0i ct FOLDER;0e+2;0VOIDED kt gn;0e di dv cd;0gq ca gn;2ab e TO bi cg;2ed;0x am xe b mj th;",
     "0i qd x e ap cr;0ab+5;0e+5;0gq dv dl aq;0STICK FIGURE;2b ARMS fy;2LEANING i;3e;2b DRESS;0x UP-ap CHEVRON;-37;",
     "0SEGMENTED w;2bk;2ax;2l;2z;2ao;2dp;2aj;2af;2be;"]

/-- Tags. -/
def tagNames : Block where
  first := 0xE0001
  lines :=
    ["0LANGUAGE TAG;-30;0TAG qb;1cb aq;1hm+1;1bn g;1tw+1;1wl+1;1nc;1jw;1i cc;1e+1;1eu;1bb g;1ez;1jd-io;1cp;1kb;1w;",
     "2bk;2ax;2l;2z;2ao;2dp;2aj;2af;2be;1hx;1hl;1as g;1es+1;1az-ma+1;1dl aq;1qa;1dm a A;+25;1i av bp;1ff;1e av bp;",
     "1al er;1fn et;1dg er;1dm c d A;+25;1i jq bp;1m et;1e jq bp;1bz;0CANCEL TAG;"]

/-- Variation selectors. -/
def selectorNames : Block where
  first := 0xE0100
  lines :=
    ["0lm-17;+239;"]

end RpcClients.Text.Name
