/-!
The names of radicals, kana and syllables of eastern Asia.
-/

namespace Promptuary.Text.CharacterName

/-- Runs of names: the number of the first character, what the names of the run begin with, and how
they go on for one character after another. An empty place passes over a character. -/
def eastern : String :=
"11776:RIGHT ANGLE :SUBSTITUTION MARKER,DOTTED SUBSTITUTION MARKER;11778::
LEFT SUBSTITUTION BRACKET,RIGHT SUBSTITUTION BRACKET,LEFT DOTTED SUBSTITUTION BRACKET;11781::
RIGHT DOTTED SUBSTITUTION BRACKET,RAISED INTERPOLATION MARKER,RAISED DOTTED INTERPOLATION MARKER,
DOTTED TRANSPOSITION MARKER,LEFT TRANSPOSITION BRACKET;11786::RIGHT TRANSPOSITION BRACKET,
RAISED SQUARE,LEFT RAISED OMISSION BRACKET,RIGHT RAISED OMISSION BRACKET,EDITORIAL CORONIS;11791::
PARAGRAPHOS,FORKED PARAGRAPHOS,REVERSED FORKED PARAGRAPHOS,HYPODIASTOLE,DOTTED OBELOS;11796::
DOWNWARDS ANCORA,UPWARDS ANCORA,DOTTED RIGHT-POINTING ANGLE,DOUBLE OBLIQUE HYPHEN,
INVERTED INTERROBANG;11801::PALM BRANCH,HYPHEN WITH DIAERESIS,TILDE WITH RING ABOVE,
LEFT LOW PARAPHRASE BRACKET,RIGHT LOW PARAPHRASE BRACKET;11806:TILDE WITH DOT :ABOVE,BELOW;11808::
LEFT VERTICAL BAR WITH QUILL,RIGHT VERTICAL BAR WITH QUILL;11810::TOP LEFT HALF BRACKET,
TOP RIGHT HALF BRACKET,BOTTOM LEFT HALF BRACKET,BOTTOM RIGHT HALF BRACKET,LEFT SIDEWAYS U BRACKET;
11815::RIGHT SIDEWAYS U BRACKET,LEFT DOUBLE PARENTHESIS,RIGHT DOUBLE PARENTHESIS,
TWO DOTS OVER ONE DOT PUNCTUATION,ONE DOT OVER TWO DOTS PUNCTUATION;11820::
SQUARED FOUR DOT PUNCTUATION,FIVE DOT MARK,REVERSED QUESTION MARK,VERTICAL TILDE,RING POINT;11825:
:WORD SEPARATOR MIDDLE DOT,TURNED COMMA,RAISED DOT,RAISED COMMA,TURNED SEMICOLON;11830:
DAGGER WITH :LEFT GUARD,RIGHT GUARD;11832::TURNED DAGGER,TOP HALF SECTION SIGN,TWO-EM DASH;11835::
THREE-EM DASH,STENOGRAPHIC FULL STOP,VERTICAL SIX DOTS,WIGGLY VERTICAL LINE,CAPITULUM;11840::
DOUBLE HYPHEN,REVERSED COMMA,DOUBLE LOW-REVERSED-9 QUOTATION MARK,DASH WITH LEFT UPTURN,
DOUBLE SUSPENSION MARK;11845:INVERTED LOW :KAVYKA,KAVYKA WITH KAVYKA ABOVE;11847::LOW KAVYKA,
LOW KAVYKA WITH DOT,DOUBLE STACKED COMMA,DOTTED SOLIDUS;11851::TRIPLE DAGGER,MEDIEVAL COMMA,
PARAGRAPHUS MARK,PUNCTUS ELEVATUS MARK,CORNISH VERSE DIVIDER;11856:CROSS PATTY WITH :
RIGHT CROSSBAR,LEFT CROSSBAR;11858::TIRONIAN SIGN CAPITAL ET,MEDIEVAL EXCLAMATION MARK,
MEDIEVAL QUESTION MARK,LEFT SQUARE BRACKET WITH STROKE;11862::RIGHT SQUARE BRACKET WITH STROKE,
LEFT SQUARE BRACKET WITH DOUBLE STROKE,RIGHT SQUARE BRACKET WITH DOUBLE STROKE,
TOP HALF LEFT PARENTHESIS,TOP HALF RIGHT PARENTHESIS;11867:BOTTOM HALF :LEFT PARENTHESIS,
RIGHT PARENTHESIS;11869::OBLIQUE HYPHEN;11904:CJK RADICAL :REPEAT,CLIFF,SECOND ONE,SECOND TWO,
SECOND THREE,PERSON,BOX,TABLE,KNIFE ONE,KNIFE TWO,DIVINATION,SEAL,SMALL ONE,SMALL TWO,LAME ONE,
LAME TWO,LAME THREE,LAME FOUR,SNAKE,THREAD,SNOUT ONE,SNOUT TWO,HEART ONE,HEART TWO,HAND,RAP,,
CHOKE,SUN,MOON,DEATH,MOTHER,CIVILIAN,WATER ONE,WATER TWO,FIRE,PAW ONE,PAW TWO,
SIMPLIFIED HALF TREE TRUNK,COW,DOG,JADE,BOLT OF CLOTH,EYE,SPIRIT ONE,SPIRIT TWO,BAMBOO,SILK,
C-SIMPLIFIED SILK,NET ONE,NET TWO,NET THREE,NET FOUR,MESH,SHEEP,RAM,EWE,OLD,BRUSH ONE,BRUSH TWO,
MEAT,MORTAR,GRASS ONE,GRASS TWO,GRASS THREE,TIGER,CLOTHES,WEST ONE,WEST TWO,C-SIMPLIFIED SEE,
SIMPLIFIED HORN,HORN,C-SIMPLIFIED SPEECH,C-SIMPLIFIED SHELL,FOOT,C-SIMPLIFIED CART,
SIMPLIFIED WALK,WALK ONE,WALK TWO,CITY,C-SIMPLIFIED GOLD,LONG ONE,LONG TWO,C-SIMPLIFIED LONG,
C-SIMPLIFIED GATE,MOUND ONE,MOUND TWO,RAIN,BLUE,C-SIMPLIFIED TANNED LEATHER,C-SIMPLIFIED LEAF,
C-SIMPLIFIED WIND,C-SIMPLIFIED FLY,EAT ONE,EAT TWO,EAT THREE,C-SIMPLIFIED EAT,HEAD,
C-SIMPLIFIED HORSE,BONE,GHOST,C-SIMPLIFIED FISH,C-SIMPLIFIED BIRD,C-SIMPLIFIED SALT,
SIMPLIFIED WHEAT,SIMPLIFIED YELLOW,C-SIMPLIFIED FROG,J-SIMPLIFIED EVEN,C-SIMPLIFIED EVEN,
J-SIMPLIFIED TOOTH,C-SIMPLIFIED TOOTH,J-SIMPLIFIED DRAGON,C-SIMPLIFIED DRAGON,TURTLE,
J-SIMPLIFIED TURTLE,C-SIMPLIFIED TURTLE;12032:KANGXI RADICAL :ONE,LINE,DOT,SLASH,SECOND,HOOK,TWO,
LID,MAN,LEGS,ENTER,EIGHT,DOWN BOX,COVER,ICE,TABLE,OPEN BOX,KNIFE,POWER,WRAP,SPOON,RIGHT OPEN BOX,
HIDING ENCLOSURE,TEN,DIVINATION,SEAL,CLIFF,PRIVATE,AGAIN,MOUTH,ENCLOSURE,EARTH,SCHOLAR,GO,
GO SLOWLY,EVENING,BIG,WOMAN,CHILD,ROOF,INCH,SMALL,LAME,CORPSE,SPROUT,MOUNTAIN,RIVER,WORK,ONESELF,
TURBAN,DRY,SHORT THREAD,DOTTED CLIFF,LONG STRIDE,TWO HANDS,SHOOT,BOW,SNOUT,BRISTLE,STEP,HEART,
HALBERD,DOOR,HAND,BRANCH,RAP,SCRIPT,DIPPER,AXE,SQUARE,NOT,SUN,SAY,MOON,TREE,LACK,STOP,DEATH,
WEAPON,DO NOT,COMPARE,FUR,CLAN,STEAM,WATER,FIRE,CLAW,FATHER,DOUBLE X,HALF TREE TRUNK,SLICE,FANG,
COW,DOG,PROFOUND,JADE,MELON,TILE,SWEET,LIFE,USE,FIELD,BOLT OF CLOTH,SICKNESS,DOTTED TENT,WHITE,
SKIN,DISH,EYE,SPEAR,ARROW,STONE,SPIRIT,TRACK,GRAIN,CAVE,STAND,BAMBOO,RICE,SILK,JAR,NET,SHEEP,
FEATHER,OLD,AND,PLOW,EAR,BRUSH,MEAT,MINISTER,SELF,ARRIVE,MORTAR,TONGUE,OPPOSE,BOAT,STOPPING,COLOR,
GRASS,TIGER,INSECT,BLOOD,WALK ENCLOSURE,CLOTHES,WEST,SEE,HORN,SPEECH,VALLEY,BEAN,PIG,BADGER,SHELL,
RED,RUN,FOOT,BODY,CART,BITTER,MORNING,WALK,CITY,WINE,DISTINGUISH,VILLAGE,GOLD,LONG,GATE,MOUND,
SLAVE,SHORT TAILED BIRD,RAIN,BLUE,WRONG,FACE,LEATHER,TANNED LEATHER,LEEK,SOUND,LEAF,WIND,FLY,EAT,
HEAD,FRAGRANT,HORSE,BONE,TALL,HAIR,FIGHT,SACRIFICIAL WINE,CAULDRON,GHOST,FISH,BIRD,SALT,DEER,
WHEAT,HEMP,YELLOW,MILLET,BLACK,EMBROIDERY,FROG,TRIPOD,DRUM,RAT,NOSE,EVEN,TOOTH,DRAGON,TURTLE,
FLUTE;12272:IDEOGRAPHIC DESCRIPTION CHARACTER :LEFT TO RIGHT,ABOVE TO BELOW,
LEFT TO MIDDLE AND RIGHT,ABOVE TO MIDDLE AND BELOW,FULL SURROUND;12277:
IDEOGRAPHIC DESCRIPTION CHARACTER SURROUND FROM :ABOVE,BELOW,LEFT,UPPER LEFT,UPPER RIGHT,
LOWER LEFT;12283:IDEOGRAPHIC :DESCRIPTION CHARACTER OVERLAID,,,,,SPACE,COMMA,FULL STOP;12291::
DITTO MARK,JAPANESE INDUSTRIAL STANDARD SYMBOL;12293:IDEOGRAPHIC :ITERATION MARK,CLOSING MARK,
NUMBER ZERO;12296::LEFT ANGLE BRACKET,RIGHT ANGLE BRACKET,LEFT DOUBLE ANGLE BRACKET,
RIGHT DOUBLE ANGLE BRACKET,LEFT CORNER BRACKET;12301::RIGHT CORNER BRACKET,
LEFT WHITE CORNER BRACKET,RIGHT WHITE CORNER BRACKET,LEFT BLACK LENTICULAR BRACKET,
RIGHT BLACK LENTICULAR BRACKET;12306::POSTAL MARK,GETA MARK,LEFT TORTOISE SHELL BRACKET,
RIGHT TORTOISE SHELL BRACKET,LEFT WHITE LENTICULAR BRACKET;12311::RIGHT WHITE LENTICULAR BRACKET,
LEFT WHITE TORTOISE SHELL BRACKET,RIGHT WHITE TORTOISE SHELL BRACKET,LEFT WHITE SQUARE BRACKET,
RIGHT WHITE SQUARE BRACKET;12316::WAVE DASH,REVERSED DOUBLE PRIME QUOTATION MARK,
DOUBLE PRIME QUOTATION MARK,LOW DOUBLE PRIME QUOTATION MARK,POSTAL MARK FACE;12321:
HANGZHOU NUMERAL :ONE,TWO,THREE,FOUR,FIVE,SIX,SEVEN,EIGHT,NINE;12330:IDEOGRAPHIC :LEVEL TONE MARK,
RISING TONE MARK,DEPARTING TONE MARK,ENTERING TONE MARK;12334::HANGUL SINGLE DOT TONE MARK,
HANGUL DOUBLE DOT TONE MARK,WAVY DASH;12337:VERTICAL KANA REPEAT :MARK,WITH VOICED SOUND MARK,
MARK UPPER HALF,WITH VOICED SOUND MARK UPPER HALF,MARK LOWER HALF;12342::CIRCLED POSTAL MARK,
IDEOGRAPHIC TELEGRAPH LINE FEED SEPARATOR SYMBOL;12344:HANGZHOU NUMERAL :TEN,TWENTY,THIRTY;12347::
VERTICAL IDEOGRAPHIC ITERATION MARK,MASU MARK,PART ALTERNATION MARK;12350:IDEOGRAPHIC :
VARIATION INDICATOR,HALF FILL SPACE;12353:HIRAGANA LETTER :SMALL A,A,SMALL I,I,SMALL U,U,SMALL E,
E,SMALL O,O,KA,GA,KI,GI,KU,GU,KE,GE,KO,GO,SA,ZA,SI,ZI,SU,ZU,SE,ZE,SO,ZO,TA,DA,TI,DI,SMALL TU,TU,
DU,TE,DE,TO,DO,NA,NI,NU,NE,NO,HA,BA,PA,HI,BI,PI,HU,BU,PU,HE,BE,PE,HO,BO,PO,MA,MI,MU,ME,MO,
SMALL YA,YA,SMALL YU,YU,SMALL YO,YO,RA,RI,RU,RE,RO,SMALL WA,WA,WI,WE,WO,N,VU,SMALL KA,SMALL KE;
12441:COMBINING KATAKANA-HIRAGANA :VOICED SOUND MARK,SEMI-VOICED SOUND MARK;12443:
KATAKANA-HIRAGANA :VOICED SOUND MARK,SEMI-VOICED SOUND MARK;12445:HIRAGANA :ITERATION MARK,
VOICED ITERATION MARK,DIGRAPH YORI;12448::KATAKANA-HIRAGANA DOUBLE HYPHEN;12449:KATAKANA LETTER :
SMALL A,A,SMALL I,I,SMALL U,U,SMALL E,E,SMALL O,O,KA,GA,KI,GI,KU,GU,KE,GE,KO,GO,SA,ZA,SI,ZI,SU,ZU,
SE,ZE,SO,ZO,TA,DA,TI,DI,SMALL TU,TU,DU,TE,DE,TO,DO,NA,NI,NU,NE,NO,HA,BA,PA,HI,BI,PI,HU,BU,PU,HE,
BE,PE,HO,BO,PO,MA,MI,MU,ME,MO,SMALL YA,YA,SMALL YU,YU,SMALL YO,YO,RA,RI,RU,RE,RO,SMALL WA,WA,WI,
WE,WO,N,VU,SMALL KA,SMALL KE,VA,VI,VE,VO;12539::KATAKANA MIDDLE DOT,
KATAKANA-HIRAGANA PROLONGED SOUND MARK;12541:KATAKANA :ITERATION MARK,VOICED ITERATION MARK,
DIGRAPH KOTO;12549:BOPOMOFO LETTER :B,P,M,F,D,T,N,L,G,K,H,J,Q,X,ZH,CH,SH,R,Z,C,S,A,O,E,EH,AI,EI,
AU,OU,AN,EN,ANG,ENG,ER,I,U,IU,V,NG,GN,IH,O WITH DOT ABOVE,NN;12593:HANGUL LETTER :KIYEOK,
SSANGKIYEOK,KIYEOK-SIOS,NIEUN,NIEUN-CIEUC,NIEUN-HIEUH,TIKEUT,SSANGTIKEUT,RIEUL,RIEUL-KIYEOK,
RIEUL-MIEUM,RIEUL-PIEUP,RIEUL-SIOS,RIEUL-THIEUTH,RIEUL-PHIEUPH,RIEUL-HIEUH,MIEUM,PIEUP,SSANGPIEUP,
PIEUP-SIOS,SIOS,SSANGSIOS,IEUNG,CIEUC,SSANGCIEUC,CHIEUCH,KHIEUKH,THIEUTH,PHIEUPH,HIEUH,A,AE,YA,
YAE,EO,E,YEO,YE,O,WA,WAE,OE,YO,U,WEO,WE,WI,YU,EU,YI,I;12644::HANGUL FILLER;12645:HANGUL LETTER :
SSANGNIEUN,NIEUN-TIKEUT,NIEUN-SIOS,NIEUN-PANSIOS,RIEUL-KIYEOK-SIOS,RIEUL-TIKEUT,RIEUL-PIEUP-SIOS,
RIEUL-PANSIOS,RIEUL-YEORINHIEUH,MIEUM-PIEUP,MIEUM-SIOS,MIEUM-PANSIOS,KAPYEOUNMIEUM,PIEUP-KIYEOK,
PIEUP-TIKEUT,PIEUP-SIOS-KIYEOK,PIEUP-SIOS-TIKEUT,PIEUP-CIEUC,PIEUP-THIEUTH,KAPYEOUNPIEUP,
KAPYEOUNSSANGPIEUP,SIOS-KIYEOK,SIOS-NIEUN,SIOS-TIKEUT,SIOS-PIEUP,SIOS-CIEUC,PANSIOS,SSANGIEUNG,
YESIEUNG,YESIEUNG-SIOS,YESIEUNG-PANSIOS,KAPYEOUNPHIEUPH,SSANGHIEUH,YEORINHIEUH,YO-YA,YO-YAE,YO-I,
YU-YEO,YU-YE,YU-I,ARAEA,ARAEAE;12688:IDEOGRAPHIC ANNOTATION :LINKING MARK,REVERSE MARK,ONE MARK,
TWO MARK,THREE MARK,FOUR MARK,TOP MARK,MIDDLE MARK,BOTTOM MARK,FIRST MARK,SECOND MARK,THIRD MARK,
FOURTH MARK,HEAVEN MARK,EARTH MARK,MAN MARK;12704:BOPOMOFO LETTER :BU,ZI,JI,GU,EE,ENN,OO,ONN,IR,
ANN,INN,UNN,IM,NGG,AINN,AUNN,AM,OM,ONG,INNN;12724:BOPOMOFO FINAL LETTER :P,T,K,H;12728:BOPOMOFO :
LETTER GH,LETTER LH,LETTER ZY,FINAL LETTER G;12732:BOPOMOFO LETTER :GW,KW,OE,AH;12736:CJK STROKE :
T,WG,XG,BXG,SW,HZZ,HZG,HP,HZWG,SZWG,HZT,HZZP,HPWG,HZW,HZZZ,N,H,S,P,SP,D,HZ,HG,SZ,SWZ,ST,SG,PD,PZ,
TN,SZZ,SWG,HXWG,HZZZG,PG,Q;12784:KATAKANA LETTER SMALL :KU,SI,SU,TO,NU,HA,HI,HU,HE,HO,MU,RA,RI,RU,
RE,RO;12800:PARENTHESIZED HANGUL :KIYEOK,NIEUN,TIKEUT,RIEUL,MIEUM,PIEUP,SIOS,IEUNG,CIEUC,CHIEUCH,
KHIEUKH,THIEUTH,PHIEUPH,HIEUH,KIYEOK A,NIEUN A,TIKEUT A,RIEUL A,MIEUM A,PIEUP A,SIOS A,IEUNG A,
CIEUC A,CHIEUCH A,KHIEUKH A,THIEUTH A,PHIEUPH A,HIEUH A,CIEUC U;12829:
PARENTHESIZED KOREAN CHARACTER :OJEON,O HU;12832:PARENTHESIZED IDEOGRAPH :ONE,TWO,THREE,FOUR,FIVE,
SIX,SEVEN,EIGHT,NINE,TEN,MOON,FIRE,WATER,WOOD,METAL,EARTH,SUN,STOCK,HAVE,SOCIETY,NAME,SPECIAL,
FINANCIAL,CONGRATULATION,LABOR,REPRESENT,CALL,STUDY,SUPERVISE,ENTERPRISE,RESOURCE,ALLIANCE,
FESTIVAL,REST,SELF,REACH;12868:CIRCLED IDEOGRAPH :QUESTION,KINDERGARTEN,SCHOOL,KOTO;12872:
CIRCLED NUMBER :TEN ON BLACK SQUARE,TWENTY ON BLACK SQUARE,THIRTY ON BLACK SQUARE,
FORTY ON BLACK SQUARE,FIFTY ON BLACK SQUARE,SIXTY ON BLACK SQUARE,SEVENTY ON BLACK SQUARE,
EIGHTY ON BLACK SQUARE;12880::PARTNERSHIP SIGN;12881:CIRCLED NUMBER TWENTY :ONE,TWO,THREE,FOUR,
FIVE,SIX,SEVEN,EIGHT,NINE;12890::CIRCLED NUMBER THIRTY;12891:CIRCLED NUMBER THIRTY :ONE,TWO,THREE,
FOUR,FIVE;12896:CIRCLED HANGUL :KIYEOK,NIEUN,TIKEUT,RIEUL,MIEUM,PIEUP,SIOS,IEUNG,CIEUC,CHIEUCH,
KHIEUKH,THIEUTH,PHIEUPH,HIEUH,KIYEOK A,NIEUN A,TIKEUT A,RIEUL A,MIEUM A,PIEUP A,SIOS A,IEUNG A,
CIEUC A,CHIEUCH A,KHIEUKH A,THIEUTH A,PHIEUPH A,HIEUH A;12924:CIRCLED KOREAN CHARACTER :CHAMKO,
JUEUI;12926::CIRCLED HANGUL IEUNG U,KOREAN STANDARD SYMBOL;12928:CIRCLED IDEOGRAPH :ONE,TWO,THREE,
FOUR,FIVE,SIX,SEVEN,EIGHT,NINE,TEN,MOON,FIRE,WATER,WOOD,METAL,EARTH,SUN,STOCK,HAVE,SOCIETY,NAME,
SPECIAL,FINANCIAL,CONGRATULATION,LABOR,SECRET,MALE,FEMALE,SUITABLE,EXCELLENT,PRINT,ATTENTION,ITEM,
REST,COPY,CORRECT,HIGH,CENTRE,LOW,LEFT,RIGHT,MEDICINE,RELIGION,STUDY,SUPERVISE,ENTERPRISE,
RESOURCE,ALLIANCE,NIGHT;12977:CIRCLED NUMBER :THIRTY SIX,THIRTY SEVEN,THIRTY EIGHT,THIRTY NINE,
FORTY,FORTY ONE,FORTY TWO,FORTY THREE,FORTY FOUR,FORTY FIVE,FORTY SIX,FORTY SEVEN,FORTY EIGHT,
FORTY NINE,FIFTY;12992:IDEOGRAPHIC TELEGRAPH SYMBOL FOR :JANUARY,FEBRUARY,MARCH,APRIL,MAY,JUNE,
JULY,AUGUST,SEPTEMBER,OCTOBER,NOVEMBER,DECEMBER;13004:SQUARE :HG,ERG,EV;13007::
LIMITED LIABILITY SIGN;13008:CIRCLED KATAKANA :A,I,U,E,O,KA,KI,KU,KE,KO,SA,SI,SU,SE,SO,TA,TI,TU,
TE,TO,NA,NI,NU,NE,NO,HA,HI,HU,HE,HO,MA,MI,MU,ME,MO,YA,YU,YO,RA,RI,RU,RE,RO,WA,WI,WE,WO;13055:
SQUARE :ERA NAME REIWA,APAATO,ARUHUA,ANPEA,AARU,ININGU,INTI,UON,ESUKUUDO,EEKAA,ONSU,OOMU,KAIRI,
KARATTO,KARORII,GARON,GANMA,GIGA,GINII,KYURII,GIRUDAA,KIRO,KIROGURAMU,KIROMEETORU,KIROWATTO,
GURAMU,GURAMUTON,KURUZEIRO,KUROONE,KEESU,KORUNA,KOOPO,SAIKURU,SANTIIMU,SIRINGU,SENTI,SENTO,DAASU,
DESI,DORU,TON,NANO,NOTTO,HAITU,PAASENTO,PAATU,BAARERU,PIASUTORU,PIKURU,PIKO,BIRU,HUARADDO,HUIITO,
BUSSYERU,HURAN,HEKUTAARU,PESO,PENIHI,HERUTU,PENSU,PEEZI,BEETA,POINTO,BORUTO,HON,PONDO,HOORU,HOON,
MAIKURO,MAIRU,MAHHA,MARUKU,MANSYON,MIKURON,MIRI,MIRIBAARU,MEGA,MEGATON,MEETORU,YAADO,YAARU,YUAN,
RITTORU,RIRA,RUPII,RUUBURU,REMU,RENTOGEN,WATTO;13144:IDEOGRAPHIC TELEGRAPH SYMBOL FOR HOUR :ZERO,
ONE,TWO,THREE,FOUR,FIVE,SIX,SEVEN,EIGHT,NINE,TEN,ELEVEN,TWELVE,THIRTEEN,FOURTEEN,FIFTEEN,SIXTEEN,
SEVENTEEN,EIGHTEEN,NINETEEN,TWENTY,TWENTY-ONE,TWENTY-TWO,TWENTY-THREE,TWENTY-FOUR;13169:SQUARE :
HPA,DA,AU,BAR,OV,PC,DM,DM SQUARED,DM CUBED,IU,ERA NAME HEISEI,ERA NAME SYOUWA,ERA NAME TAISYOU,
ERA NAME MEIZI,CORPORATION,PA AMPS,NA,MU A,MA,KA,KB,MB,GB,CAL,KCAL,PF,NF,MU F,MU G,MG,KG,HZ,KHZ,
MHZ,GHZ,THZ,MU L,ML,DL,KL,FM,NM,MU M,MM,CM,KM,MM SQUARED,CM SQUARED,M SQUARED,KM SQUARED,MM CUBED,
CM CUBED,M CUBED,KM CUBED,M OVER S,M OVER S SQUARED,PA,KPA,MPA,GPA,RAD,RAD OVER S,
RAD OVER S SQUARED,PS,NS,MU S,MS,PV,NV,MU V,MV,KV,MV MEGA,PW,NW,MU W,MW,KW,MW MEGA,K OHM,M OHM,AM,
BQ,CC,CD,C OVER KG,CO,DB,GY,HA,HP,IN,KK,KM CAPITAL,KT,LM,LN,LOG,LX,MB SMALL,MIL,MOL,PH,PM,PPM,PR,
SR,SV,WB,V OVER M,A OVER M;13280:IDEOGRAPHIC TELEGRAPH SYMBOL FOR DAY :ONE,TWO,THREE,FOUR,FIVE,
SIX,SEVEN,EIGHT,NINE,TEN,ELEVEN,TWELVE,THIRTEEN,FOURTEEN,FIFTEEN,SIXTEEN,SEVENTEEN,EIGHTEEN,
NINETEEN,TWENTY,TWENTY-ONE,TWENTY-TWO,TWENTY-THREE,TWENTY-FOUR,TWENTY-FIVE,TWENTY-SIX,
TWENTY-SEVEN,TWENTY-EIGHT,TWENTY-NINE,THIRTY,THIRTY-ONE;13311::SQUARE GAL;19904:HEXAGRAM FOR :
THE CREATIVE HEAVEN,THE RECEPTIVE EARTH,DIFFICULTY AT THE BEGINNING,YOUTHFUL FOLLY,WAITING,
CONFLICT,THE ARMY,HOLDING TOGETHER,SMALL TAMING,TREADING,PEACE,STANDSTILL,FELLOWSHIP,
GREAT POSSESSION,MODESTY,ENTHUSIASM,FOLLOWING,WORK ON THE DECAYED,APPROACH,CONTEMPLATION,
BITING THROUGH,GRACE,SPLITTING APART,RETURN,INNOCENCE,GREAT TAMING,MOUTH CORNERS,
GREAT PREPONDERANCE,THE ABYSMAL WATER,THE CLINGING FIRE,INFLUENCE,DURATION,RETREAT,GREAT POWER,
PROGRESS,DARKENING OF THE LIGHT,THE FAMILY,OPPOSITION,OBSTRUCTION,DELIVERANCE,DECREASE,INCREASE,
BREAKTHROUGH,COMING TO MEET,GATHERING TOGETHER,PUSHING UPWARD,OPPRESSION,THE WELL,REVOLUTION,
THE CAULDRON,THE AROUSING THUNDER,THE KEEPING STILL MOUNTAIN,DEVELOPMENT,THE MARRYING MAIDEN,
ABUNDANCE,THE WANDERER,THE GENTLE WIND,THE JOYOUS LAKE,DISPERSION,LIMITATION,INNER TRUTH,
SMALL PREPONDERANCE,AFTER COMPLETION,BEFORE COMPLETION;40960:YI SYLLABLE :IT,IX,I,IP,IET,IEX,IE,
IEP,AT,AX,A,AP,UOX,UO,UOP,OT,OX,O,OP,EX,E,WU,BIT,BIX,BI,BIP,BIET,BIEX,BIE,BIEP,BAT,BAX,BA,BAP,
BUOX,BUO,BUOP,BOT,BOX,BO,BOP,BEX,BE,BEP,BUT,BUX,BU,BUP,BURX,BUR,BYT,BYX,BY,BYP,BYRX,BYR,PIT,PIX,
PI,PIP,PIEX,PIE,PIEP,PAT,PAX,PA,PAP,PUOX,PUO,PUOP,POT,POX,PO,POP,PUT,PUX,PU,PUP,PURX,PUR,PYT,PYX,
PY,PYP,PYRX,PYR,BBIT,BBIX,BBI,BBIP,BBIET,BBIEX,BBIE,BBIEP,BBAT,BBAX,BBA,BBAP,BBUOX,BBUO,BBUOP,
BBOT,BBOX,BBO,BBOP,BBEX,BBE,BBEP,BBUT,BBUX,BBU,BBUP,BBURX,BBUR,BBYT,BBYX,BBY,BBYP,NBIT,NBIX,NBI,
NBIP,NBIEX,NBIE,NBIEP,NBAT,NBAX,NBA,NBAP,NBOT,NBOX,NBO,NBOP,NBUT,NBUX,NBU,NBUP,NBURX,NBUR,NBYT,
NBYX,NBY,NBYP,NBYRX,NBYR,HMIT,HMIX,HMI,HMIP,HMIEX,HMIE,HMIEP,HMAT,HMAX,HMA,HMAP,HMUOX,HMUO,HMUOP,
HMOT,HMOX,HMO,HMOP,HMUT,HMUX,HMU,HMUP,HMURX,HMUR,HMYX,HMY,HMYP,HMYRX,HMYR,MIT,MIX,MI,MIP,MIEX,MIE,
MIEP,MAT,MAX,MA,MAP,MUOT,MUOX,MUO,MUOP,MOT,MOX,MO,MOP,MEX,ME,MUT,MUX,MU,MUP,MURX,MUR,MYT,MYX,MY,
MYP,FIT,FIX,FI,FIP,FAT,FAX,FA,FAP,FOX,FO,FOP,FUT,FUX,FU,FUP,FURX,FUR,FYT,FYX,FY,FYP,VIT,VIX,VI,
VIP,VIET,VIEX,VIE,VIEP,VAT,VAX,VA,VAP,VOT,VOX,VO,VOP,VEX,VEP,VUT,VUX,VU,VUP,VURX,VUR,VYT,VYX,VY,
VYP,VYRX,VYR,DIT,DIX,DI,DIP,DIEX,DIE,DIEP,DAT,DAX;41225:YI SYLLABLE :DA,DAP,DUOX,DUO,DOT,DOX,DO,
DOP,DEX,DE,DEP,DUT,DUX,DU,DUP,DURX,DUR,TIT,TIX,TI,TIP,TIEX,TIE,TIEP,TAT,TAX,TA,TAP,TUOT,TUOX,TUO,
TUOP,TOT,TOX,TO,TOP,TEX,TE,TEP,TUT,TUX,TU,TUP,TURX,TUR,DDIT,DDIX,DDI,DDIP,DDIEX,DDIE,DDIEP,DDAT,
DDAX,DDA,DDAP,DDUOX,DDUO,DDUOP,DDOT,DDOX,DDO,DDOP,DDEX,DDE,DDEP,DDUT,DDUX,DDU,DDUP,DDURX,DDUR,
NDIT,NDIX,NDI,NDIP,NDIEX,NDIE,NDAT,NDAX,NDA,NDAP,NDOT,NDOX,NDO,NDOP,NDEX,NDE,NDEP,NDUT,NDUX,NDU,
NDUP,NDURX,NDUR,HNIT,HNIX,HNI,HNIP,HNIET,HNIEX,HNIE,HNIEP,HNAT,HNAX,HNA,HNAP,HNUOX,HNUO,HNOT,HNOX,
HNOP,HNEX,HNE,HNEP,HNUT,NIT,NIX,NI,NIP,NIEX,NIE,NIEP,NAX,NA,NAP,NUOX,NUO,NUOP,NOT,NOX,NO,NOP,NEX,
NE,NEP,NUT,NUX,NU,NUP,NURX,NUR,HLIT,HLIX,HLI,HLIP,HLIEX,HLIE,HLIEP,HLAT,HLAX,HLA,HLAP,HLUOX,HLUO,
HLUOP,HLOX,HLO,HLOP,HLEX,HLE,HLEP,HLUT,HLUX,HLU,HLUP,HLURX,HLUR,HLYT,HLYX,HLY,HLYP,HLYRX,HLYR,LIT,
LIX,LI,LIP,LIET,LIEX,LIE,LIEP,LAT,LAX,LA,LAP,LUOT,LUOX,LUO,LUOP,LOT,LOX,LO,LOP,LEX,LE,LEP,LUT,LUX,
LU,LUP,LURX,LUR,LYT,LYX,LY,LYP,LYRX,LYR,GIT,GIX,GI,GIP,GIET,GIEX,GIE,GIEP,GAT,GAX,GA,GAP,GUOT,
GUOX,GUO,GUOP,GOT,GOX,GO,GOP,GET,GEX,GE,GEP,GUT,GUX,GU,GUP,GURX,GUR,KIT,KIX,KI,KIP,KIEX,KIE,KIEP,
KAT,KAX,KA,KAP,KUOX,KUO,KUOP,KOT,KOX,KO,KOP,KET,KEX,KE,KEP,KUT,KUX,KU,KUP,KURX,KUR,GGIT,GGIX,GGI,
GGIEX,GGIE,GGIEP,GGAT,GGAX,GGA,GGAP,GGUOT,GGUOX,GGUO,GGUOP,GGOT,GGOX,GGO,GGOP,GGET,GGEX,GGE,GGEP,
GGUT,GGUX,GGU,GGUP,GGURX,GGUR,MGIEX,MGIE,MGAT,MGAX,MGA,MGAP,MGUOX,MGUO,MGUOP,MGOT,MGOX,MGO,MGOP,
MGEX,MGE,MGEP,MGUT,MGUX,MGU,MGUP,MGURX,MGUR,HXIT,HXIX,HXI,HXIP,HXIET,HXIEX,HXIE,HXIEP,HXAT,HXAX,
HXA,HXAP,HXUOT,HXUOX,HXUO,HXUOP,HXOT,HXOX,HXO,HXOP,HXEX,HXE,HXEP,NGIEX,NGIE,NGIEP,NGAT,NGAX,NGA,
NGAP,NGUOT,NGUOX,NGUO,NGOT,NGOX,NGO,NGOP,NGEX,NGE,NGEP,HIT,HIEX,HIE,HAT,HAX,HA,HAP,HUOT,HUOX,HUO,
HUOP,HOT,HOX,HO,HOP,HEX,HE,HEP,WAT,WAX,WA,WAP,WUOX,WUO,WUOP,WOX,WO,WOP,WEX,WE,WEP,ZIT,ZIX,ZI,ZIP,
ZIEX,ZIE,ZIEP,ZAT,ZAX,ZA,ZAP,ZUOX,ZUO,ZUOP,ZOT,ZOX,ZO,ZOP,ZEX,ZE,ZEP,ZUT,ZUX,ZU,ZUP,ZURX,ZUR,ZYT,
ZYX,ZY,ZYP,ZYRX,ZYR,CIT,CIX,CI,CIP,CIET,CIEX,CIE,CIEP,CAT,CAX,CA,CAP,CUOX,CUO,CUOP,COT,COX,CO,COP,
CEX,CE,CEP,CUT,CUX,CU,CUP,CURX,CUR,CYT,CYX,CY,CYP,CYRX,CYR,ZZIT,ZZIX,ZZI,ZZIP,ZZIET,ZZIEX,ZZIE,
ZZIEP,ZZAT,ZZAX,ZZA,ZZAP,ZZOX,ZZO,ZZOP,ZZEX,ZZE,ZZEP,ZZUX,ZZU,ZZUP,ZZURX,ZZUR,ZZYT,ZZYX,ZZY,ZZYP,
ZZYRX,ZZYR,NZIT,NZIX,NZI,NZIP,NZIEX,NZIE,NZIEP,NZAT,NZAX,NZA,NZAP,NZUOX,NZUO,NZOX,NZOP,NZEX,NZE,
NZUX,NZU,NZUP,NZURX,NZUR,NZYT,NZYX,NZY,NZYP,NZYRX,NZYR,SIT,SIX,SI,SIP,SIEX,SIE,SIEP,SAT,SAX,SA,
SAP,SUOX,SUO,SUOP,SOT,SOX,SO,SOP,SEX,SE,SEP,SUT,SUX,SU,SUP,SURX,SUR,SYT,SYX,SY,SYP,SYRX,SYR,SSIT,
SSIX,SSI,SSIP,SSIEX,SSIE,SSIEP,SSAT,SSAX,SSA,SSAP,SSOT,SSOX,SSO,SSOP,SSEX,SSE,SSEP,SSUT,SSUX,SSU,
SSUP,SSYT,SSYX,SSY,SSYP,SSYRX,SSYR,ZHAT,ZHAX,ZHA,ZHAP,ZHUOX,ZHUO,ZHUOP,ZHOT,ZHOX,ZHO,ZHOP,ZHET,
ZHEX,ZHE,ZHEP,ZHUT,ZHUX,ZHU,ZHUP,ZHURX,ZHUR,ZHYT,ZHYX,ZHY,ZHYP,ZHYRX,ZHYR,CHAT,CHAX,CHA,CHAP,
CHUOT,CHUOX,CHUO,CHUOP,CHOT,CHOX,CHO,CHOP,CHET,CHEX,CHE,CHEP,CHUX,CHU,CHUP,CHURX,CHUR,CHYT,CHYX,
CHY,CHYP,CHYRX,CHYR,RRAX,RRA,RRUOX,RRUO,RROT,RROX,RRO,RROP,RRET,RREX,RRE,RREP,RRUT,RRUX,RRU,RRUP,
RRURX,RRUR,RRYT,RRYX,RRY,RRYP,RRYRX,RRYR,NRAT,NRAX,NRA,NRAP,NROX,NRO,NROP,NRET,NREX,NRE,NREP,NRUT,
NRUX,NRU,NRUP,NRURX,NRUR,NRYT,NRYX,NRY,NRYP,NRYRX,NRYR,SHAT,SHAX,SHA,SHAP,SHUOX,SHUO,SHUOP,SHOT,
SHOX,SHO,SHOP,SHET,SHEX,SHE,SHEP,SHUT,SHUX,SHU,SHUP,SHURX,SHUR,SHYT,SHYX,SHY,SHYP,SHYRX,SHYR,RAT,
RAX,RA,RAP,RUOX,RUO,RUOP,ROT,ROX,RO,ROP,REX,RE,REP,RUT,RUX,RU,RUP,RURX,RUR,RYT,RYX,RY,RYP,RYRX,
RYR,JIT,JIX,JI,JIP,JIET,JIEX,JIE,JIEP,JUOT,JUOX,JUO,JUOP,JOT,JOX,JO,JOP,JUT,JUX,JU,JUP,JURX,JUR,
JYT,JYX,JY,JYP,JYRX,JYR,QIT,QIX,QI,QIP,QIET,QIEX,QIE,QIEP,QUOT,QUOX,QUO,QUOP,QOT,QOX,QO,QOP,QUT,
QUX,QU,QUP,QURX,QUR,QYT,QYX,QY,QYP,QYRX,QYR,JJIT,JJIX,JJI,JJIP,JJIET,JJIEX,JJIE,JJIEP,JJUOX,JJUO,
JJUOP,JJOT,JJOX,JJO,JJOP,JJUT,JJUX,JJU,JJUP,JJURX,JJUR,JJYT,JJYX,JJY,JJYP,NJIT,NJIX,NJI,NJIP,
NJIET,NJIEX,NJIE,NJIEP,NJUOX,NJUO,NJOT,NJOX,NJO,NJOP,NJUX,NJU,NJUP,NJURX,NJUR,NJYT,NJYX,NJY,NJYP,
NJYRX,NJYR,NYIT,NYIX,NYI,NYIP,NYIET,NYIEX,NYIE,NYIEP,NYUOX,NYUO,NYUOP,NYOT,NYOX,NYO,NYOP,NYUT,
NYUX,NYU,NYUP,XIT,XIX,XI,XIP,XIET,XIEX,XIE,XIEP,XUOX,XUO,XOT,XOX,XO,XOP,XYT,XYX,XY,XYP,XYRX,XYR,
YIT,YIX,YI,YIP,YIET,YIEX,YIE,YIEP,YUOT,YUOX,YUO,YUOP,YOT,YOX,YO,YOP,YUT,YUX,YU,YUP,YURX,YUR,YYT,
YYX,YY,YYP,YYRX,YYR;42128:YI RADICAL :QOT,LI,KIT,NYIP,CYP,SSI,GGOP,GEP,MI,HXIT,LYR,BBUT,MOP,YO,
PUT,HXUO,TAT,GA,ZUP,CYT,DDUR,BUR,GGUO,NYOP,TU,OP,JJUT,ZOT,PYT,HMO,YIT,VUR,SHY,VEP,ZA,JO,NZUP,JJY,
GOT,JJIE,WO,DU,SHUR,LIE,CY,CUOP,CIP,HXOP,SHAT,ZUR,SHOP,CHE,ZZIET,NBIE,KE;"

end Promptuary.Text.CharacterName
