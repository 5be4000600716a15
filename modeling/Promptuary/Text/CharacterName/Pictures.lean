/-!
The names of letters of recent scripts, game pieces, pictures and tags.
-/

namespace Promptuary.Text.CharacterName

/-- Runs of names: the number of the first character, what the names of the run begin with, and how
they go on for one character after another. An empty place passes over a character. -/
def pictures : String :=
"122880:COMBINING GLAGOLITIC LETTER :AZU,BUKY,VEDE,GLAGOLI,DOBRO,YESTU,ZHIVETE,,ZEMLJA,IZHE,
INITIAL IZHE,I,DJERVI,KAKO,LJUDIJE,MYSLITE,NASHI,ONU,POKOJI,RITSI,SLOVO,TVRIDO,UKU,FRITU,HERU,,,
SHTA,TSI,CHRIVI,SHA,YERU,YERI,YATI,,YU,SMALL YUS,,YO,IOTATED SMALL YUS,BIG YUS,IOTATED BIG YUS,
FITA;123136:NYIAKENG PUACHUE HMONG LETTER :MA,TSA,NTA,TA,HA,NA,XA,NKA,CA,LA,SA,ZA,NCA,NTSA,KA,DA,
NYA,NRA,VA,NTXA,TXA,FA,RA,QA,YA,NQA,PA,XYA,NPA,DLA,NPLA,HAH,MLA,PLA,GA,RRA,A,AA,I,U,O,OO,E,EE,W;
123184:NYIAKENG PUACHUE HMONG TONE-:B,M,J,V,S,G,D;123191:NYIAKENG PUACHUE HMONG SIGN FOR :PERSON,
THING,LOCATION,ANIMAL,INVERTEBRATE;123196:NYIAKENG PUACHUE HMONG :SIGN XW XW,SYLLABLE LENGTHENER,,
,DIGIT ZERO,DIGIT ONE,DIGIT TWO,DIGIT THREE,DIGIT FOUR,DIGIT FIVE,DIGIT SIX,DIGIT SEVEN,
DIGIT EIGHT,DIGIT NINE,,,,,LOGOGRAM NYAJ,CIRCLED CA;123536:TOTO LETTER :PA,BA,TA,DA,KA,GA,MA,NA,
NGA,SA,CHA,YA,WA,JA,HA,RA,LA,I,BREATHY I,IU,BREATHY IU,U,E,BREATHY E,EO,BREATHY EO,O,AE,
BREATHY AE,A;123566::TOTO SIGN RISING TONE;123584:WANCHO LETTER :AA,A,BA,CA,DA,GA,YA,PHA,LA,NA,PA,
TA,THA,FA,SA,SHA,JA,ZA,WA,VA,KA,O,AU,RA,MA,KHA,HA,E,I,NGA,U,LLHA,TSA,TRA,ONG,AANG,ANG,ING,ON,EN,
AAN,NYA,UEN,YIH;123628:WANCHO TONE :TUP,TUPNI,KOI,KOINI;123632:WANCHO DIGIT :ZERO,ONE,TWO,THREE,
FOUR,FIVE,SIX,SEVEN,EIGHT,NINE;123647::WANCHO NGUN SIGN;124896:ETHIOPIC SYLLABLE :HHYA,HHYU,HHYI,
HHYAA,HHYEE,HHYE,HHYO,,GURAGE HHWA,HHWI,HHWEE,HHWE;124909:ETHIOPIC SYLLABLE GURAGE :MWI,MWEE,,QWI,
QWEE,QWE,BWI,BWEE,KWI,KWEE,KWE,GWI,GWEE,GWE,FWI,FWEE,PWI,PWEE;124928:MENDE KIKAKUI SYLLABLE :
M001 KI,M002 KA,M003 KU,M065 KEE,M095 KE,M076 KOO,M048 KO,M179 KUA,M004 WI,M005 WA,M006 WU,
M126 WEE,M118 WE,M114 WOO,M045 WO,M194 WUI,M143 WEI,M061 WVI,M049 WVA,M139 WVE,M007 MIN,M008 MAN,
M009 MUN,M059 MEN,M094 MON,M154 MUAN,M189 MUEN,M010 BI,M011 BA,M012 BU,M150 BEE,M097 BE,M103 BOO,
M138 BO,M013 I,M014 A,M015 U,M163 EE,M100 E,M165 OO,M147 O,M137 EI,M131 IN,M135 IN,M195 AN,
M178 EN,M019 SI,M020 SA,M021 SU,M162 SEE,M116 SE,M136 SOO,M079 SO,M196 SIA,M025 LI,M026 LA,
M027 LU,M084 LEE,M073 LE,M054 LOO,M153 LO,M110 LONG LE,M016 DI,M017 DA,M018 DU,M089 DEE,M180 DOO,
M181 DO,M022 TI,M023 TA,M024 TU,M091 TEE,M055 TE,M104 TOO,M069 TO,M028 JI,M029 JA,M030 JU,
M157 JEE,M113 JE,M160 JOO,M063 JO,M175 LONG JO,M031 YI,M032 YA,M033 YU,M109 YEE,M080 YE,M141 YOO,
M121 YO,M034 FI,M035 FA,M036 FU,M078 FEE,M075 FE,M133 FOO,M088 FO,M197 FUA,M101 FAN,M037 NIN,
M038 NAN,M039 NUN,M117 NEN,M169 NON,M176 HI,M041 HA,M186 HU,M040 HEE,M096 HE,M042 HOO,M140 HO,
M083 HEEI,M128 HOOU,M053 HIN,M130 HAN,M087 HUN,M052 HEN,M193 HON,M046 HUAN,M090 NGGI,M043 NGGA,
M082 NGGU,M115 NGGEE,M146 NGGE,M156 NGGOO,M120 NGGO,M159 NGGAA,M127 NGGUA,M086 LONG NGGE,
M106 LONG NGGOO,M183 LONG NGGO,M155 GI,M111 GA,M168 GU,M190 GEE,M166 GUEI,M167 GUAN,M184 NGEN,
M057 NGON,M177 NGUAN,M068 PI,M099 PA,M050 PU,M081 PEE,M051 PE,M102 POO,M066 PO,M145 MBI,M062 MBA,
M122 MBU,M047 MBEE,M188 MBEE,M072 MBE,M172 MBOO,M174 MBO,M187 MBUU,M161 LONG MBE,M105 LONG MBOO,
M142 LONG MBO,M132 KPI,M092 KPA,M074 KPU,M044 KPEE,M108 KPE,M112 KPOO,M158 KPO,M124 GBI,M056 GBA,
M148 GBU,M093 GBEE,M107 GBE,M071 GBOO,M070 GBO,M171 RA,M123 NDI,M129 NDA,M125 NDU,M191 NDEE,
M119 NDE,M067 NDOO,M064 NDO,M152 NJA,M192 NJU,M149 NJEE,M134 NJOO,M182 VI,M185 VA,M151 VU,
M173 VEE,M085 VE,M144 VOO,M077 VO,M164 NYIN,M058 NYAN,M170 NYUN,M098 NYEN,M060 NYON;125127:
MENDE KIKAKUI DIGIT :ONE,TWO,THREE,FOUR,FIVE,SIX,SEVEN,EIGHT,NINE;125136:
MENDE KIKAKUI COMBINING NUMBER :TEENS,TENS,HUNDREDS,THOUSANDS,TEN THOUSANDS,HUNDRED THOUSANDS,
MILLIONS;125184:ADLAM CAPITAL LETTER :ALIF,DAALI,LAAM,MIIM,BA,SINNYIIYHE,PE,BHE,RA,E,FA,I,O,DHA,
YHE,WAW,NUN,KAF,YA,U,JIIM,CHI,HA,QAAF,GA,NYA,TU,NHA,VA,KHA,GBE,ZAL,KPO,SHA;125218:
ADLAM SMALL LETTER :ALIF,DAALI,LAAM,MIIM,BA,SINNYIIYHE,PE,BHE,RA,E,FA,I,O,DHA,YHE,WAW,NUN,KAF,YA,
U,JIIM,CHI,HA,QAAF,GA,NYA,TU,NHA,VA,KHA,GBE,ZAL,KPO,SHA;125252:ADLAM :ALIF LENGTHENER,
VOWEL LENGTHENER,GEMINATION MARK,HAMZA,CONSONANT MODIFIER,GEMINATE CONSONANT MODIFIER,NUKTA,
NASALIZATION MARK;125264:ADLAM DIGIT :ZERO,ONE,TWO,THREE,FOUR,FIVE,SIX,SEVEN,EIGHT,NINE;125278:
ADLAM INITIAL :EXCLAMATION MARK,QUESTION MARK;126065:INDIC SIYAQ NUMBER :ONE,TWO,THREE,FOUR,FIVE,
SIX,SEVEN,EIGHT,NINE,TEN,TWENTY,THIRTY,FORTY,FIFTY,SIXTY,SEVENTY,EIGHTY,NINETY,ONE HUNDRED,
TWO HUNDRED,THREE HUNDRED,FOUR HUNDRED,FIVE HUNDRED,SIX HUNDRED,SEVEN HUNDRED,EIGHT HUNDRED,
NINE HUNDRED,ONE THOUSAND,TWO THOUSAND,THREE THOUSAND,FOUR THOUSAND,FIVE THOUSAND,SIX THOUSAND,
SEVEN THOUSAND,EIGHT THOUSAND,NINE THOUSAND,TEN THOUSAND,TWENTY THOUSAND,THIRTY THOUSAND,
FORTY THOUSAND,FIFTY THOUSAND,SIXTY THOUSAND,SEVENTY THOUSAND,EIGHTY THOUSAND,NINETY THOUSAND,
LAKH,LAKHAN;126112:INDIC SIYAQ :LAKH MARK,NUMBER KAROR,NUMBER KARORAN;126115:
INDIC SIYAQ NUMBER PREFIXED :ONE,TWO,THREE,FOUR,FIVE,SIX,SEVEN,EIGHT,NINE;126124:INDIC SIYAQ :
PLACEHOLDER,FRACTION ONE QUARTER,FRACTION ONE HALF,FRACTION THREE QUARTERS,RUPEE MARK,
NUMBER ALTERNATE ONE,NUMBER ALTERNATE TWO,NUMBER ALTERNATE TEN THOUSAND,ALTERNATE LAKH MARK;
126209:OTTOMAN SIYAQ NUMBER :ONE,TWO,THREE,FOUR,FIVE,SIX,SEVEN,EIGHT,NINE,TEN,TWENTY,THIRTY,FORTY,
FIFTY,SIXTY,SEVENTY,EIGHTY,NINETY,ONE HUNDRED,TWO HUNDRED,THREE HUNDRED,FOUR HUNDRED,FIVE HUNDRED,
SIX HUNDRED,SEVEN HUNDRED,EIGHT HUNDRED,NINE HUNDRED,ONE THOUSAND,TWO THOUSAND,THREE THOUSAND,
FOUR THOUSAND,FIVE THOUSAND,SIX THOUSAND,SEVEN THOUSAND,EIGHT THOUSAND,NINE THOUSAND,TEN THOUSAND,
TWENTY THOUSAND,THIRTY THOUSAND,FORTY THOUSAND,FIFTY THOUSAND,SIXTY THOUSAND,SEVENTY THOUSAND,
EIGHTY THOUSAND,NINETY THOUSAND;126254::OTTOMAN SIYAQ MARRATAN;126255:
OTTOMAN SIYAQ ALTERNATE NUMBER :TWO,THREE,FOUR,FIVE,SIX,SEVEN,EIGHT,NINE,TEN,FOUR HUNDRED,
SIX HUNDRED,TWO THOUSAND,TEN THOUSAND;126268:OTTOMAN SIYAQ FRACTION ONE :HALF,SIXTH;126464:
ARABIC MATHEMATICAL :ALEF,BEH,JEEM,DAL,,WAW,ZAIN,HAH,TAH,YEH,KAF,LAM,MEEM,NOON,SEEN,AIN,FEH,SAD,
QAF,REH,SHEEN,TEH,THEH,KHAH,THAL,DAD,ZAH,GHAIN,DOTLESS BEH,DOTLESS NOON,DOTLESS FEH,DOTLESS QAF;
126497:ARABIC MATHEMATICAL INITIAL :BEH,JEEM,,HEH,,,HAH,,YEH,KAF,LAM,MEEM,NOON,SEEN,AIN,FEH,SAD,
QAF,,SHEEN,TEH,THEH,KHAH,,DAD,,GHAIN;126530:ARABIC MATHEMATICAL TAILED :JEEM,,,,,HAH,,YEH,,LAM,,
NOON,SEEN,AIN,,SAD,QAF,,SHEEN,,,KHAH,,DAD,,GHAIN,,DOTLESS NOON,,DOTLESS QAF;126561:
ARABIC MATHEMATICAL STRETCHED :BEH,JEEM,,HEH,,,HAH,TAH,YEH,KAF,,MEEM,NOON,SEEN,AIN,FEH,SAD,QAF,,
SHEEN,TEH,THEH,KHAH,,DAD,ZAH,GHAIN,DOTLESS BEH,,DOTLESS FEH;126592:ARABIC MATHEMATICAL LOOPED :
ALEF,BEH,JEEM,DAL,HEH,WAW,ZAIN,HAH,TAH,YEH,,LAM,MEEM,NOON,SEEN,AIN,FEH,SAD,QAF,REH,SHEEN,TEH,THEH,
KHAH,THAL,DAD,ZAH,GHAIN;126625:ARABIC MATHEMATICAL DOUBLE-STRUCK :BEH,JEEM,DAL,,WAW,ZAIN,HAH,TAH,
YEH,,LAM,MEEM,NOON,SEEN,AIN,FEH,SAD,QAF,REH,SHEEN,TEH,THEH,KHAH,THAL,DAD,ZAH,GHAIN;126704:
ARABIC MATHEMATICAL OPERATOR :MEEM WITH HAH WITH TATWEEL,HAH WITH DAL;126976:MAHJONG TILE :
EAST WIND,SOUTH WIND,WEST WIND,NORTH WIND,RED DRAGON,GREEN DRAGON,WHITE DRAGON,ONE OF CHARACTERS,
TWO OF CHARACTERS,THREE OF CHARACTERS,FOUR OF CHARACTERS,FIVE OF CHARACTERS,SIX OF CHARACTERS,
SEVEN OF CHARACTERS,EIGHT OF CHARACTERS,NINE OF CHARACTERS,ONE OF BAMBOOS,TWO OF BAMBOOS,
THREE OF BAMBOOS,FOUR OF BAMBOOS,FIVE OF BAMBOOS,SIX OF BAMBOOS,SEVEN OF BAMBOOS,EIGHT OF BAMBOOS,
NINE OF BAMBOOS,ONE OF CIRCLES,TWO OF CIRCLES,THREE OF CIRCLES,FOUR OF CIRCLES,FIVE OF CIRCLES,
SIX OF CIRCLES,SEVEN OF CIRCLES,EIGHT OF CIRCLES,NINE OF CIRCLES,PLUM,ORCHID,BAMBOO,CHRYSANTHEMUM,
SPRING,SUMMER,AUTUMN,WINTER,JOKER,BACK;127024::DOMINO TILE HORIZONTAL BACK;127025:
DOMINO TILE HORIZONTAL-:00-00,00-01,00-02,00-03,00-04,00-05,00-06,01-00,01-01,01-02,01-03,01-04,
01-05,01-06,02-00,02-01,02-02,02-03,02-04,02-05,02-06,03-00,03-01,03-02,03-03,03-04,03-05,03-06,
04-00,04-01,04-02,04-03,04-04,04-05,04-06,05-00,05-01,05-02,05-03,05-04,05-05,05-06,06-00,06-01,
06-02,06-03,06-04,06-05,06-06;127074::DOMINO TILE VERTICAL BACK;127075:DOMINO TILE VERTICAL-:
00-00,00-01,00-02,00-03,00-04,00-05,00-06,01-00,01-01,01-02,01-03,01-04,01-05,01-06,02-00,02-01,
02-02,02-03,02-04,02-05,02-06,03-00,03-01,03-02,03-03,03-04,03-05,03-06,04-00,04-01,04-02,04-03,
04-04,04-05,04-06,05-00,05-01,05-02,05-03,05-04,05-05,05-06,06-00,06-01,06-02,06-03,06-04,06-05,
06-06;127136:PLAYING CARD :BACK,ACE OF SPADES,TWO OF SPADES,THREE OF SPADES,FOUR OF SPADES,
FIVE OF SPADES,SIX OF SPADES,SEVEN OF SPADES,EIGHT OF SPADES,NINE OF SPADES,TEN OF SPADES,
JACK OF SPADES,KNIGHT OF SPADES,QUEEN OF SPADES,KING OF SPADES,,,ACE OF HEARTS,TWO OF HEARTS,
THREE OF HEARTS,FOUR OF HEARTS,FIVE OF HEARTS,SIX OF HEARTS,SEVEN OF HEARTS,EIGHT OF HEARTS,
NINE OF HEARTS,TEN OF HEARTS,JACK OF HEARTS,KNIGHT OF HEARTS,QUEEN OF HEARTS,KING OF HEARTS,
RED JOKER,,ACE OF DIAMONDS,TWO OF DIAMONDS,THREE OF DIAMONDS,FOUR OF DIAMONDS,FIVE OF DIAMONDS,
SIX OF DIAMONDS,SEVEN OF DIAMONDS,EIGHT OF DIAMONDS,NINE OF DIAMONDS,TEN OF DIAMONDS,
JACK OF DIAMONDS,KNIGHT OF DIAMONDS,QUEEN OF DIAMONDS,KING OF DIAMONDS,BLACK JOKER,,ACE OF CLUBS,
TWO OF CLUBS,THREE OF CLUBS,FOUR OF CLUBS,FIVE OF CLUBS,SIX OF CLUBS,SEVEN OF CLUBS,
EIGHT OF CLUBS,NINE OF CLUBS,TEN OF CLUBS,JACK OF CLUBS,KNIGHT OF CLUBS,QUEEN OF CLUBS,
KING OF CLUBS,WHITE JOKER,FOOL;127201:PLAYING CARD TRUMP-:1,2,3,4,5,6,7,8,9,10,11,12,13,14,15,16,
17,18,19,20,21;127232:DIGIT :ZERO FULL STOP,ZERO COMMA,ONE COMMA,TWO COMMA,THREE COMMA,FOUR COMMA,
FIVE COMMA,SIX COMMA,SEVEN COMMA,EIGHT COMMA,NINE COMMA;127243:DINGBAT :
CIRCLED SANS-SERIF DIGIT ZERO,NEGATIVE CIRCLED SANS-SERIF DIGIT ZERO;127245:CIRCLED :
ZERO WITH SLASH,ANTICLOCKWISE ARROW,DOLLAR SIGN WITH OVERLAID BACKSLASH;127248:
PARENTHESIZED LATIN CAPITAL LETTER :A,B,C,D,E,F,G,H,I,J,K,L,M,N,O,P,Q,R,S,T,U,V,W,X,Y,Z;127274::
TORTOISE SHELL BRACKETED LATIN CAPITAL LETTER S;127275:CIRCLED ITALIC LATIN CAPITAL LETTER :C,R;
127277::CIRCLED CD,CIRCLED WZ,COPYLEFT SYMBOL;127280:SQUARED LATIN CAPITAL LETTER :A,B,C,D,E,F,G,
H,I,J,K,L,M,N,O,P,Q,R,S,T,U,V,W,X,Y,Z;127306:SQUARED :HV,MV,SD,SS,PPV,WC;127312:
NEGATIVE CIRCLED LATIN CAPITAL LETTER :A,B,C,D,E,F,G,H,I,J,K,L,M,N,O,P,Q,R,S,T,U,V,W,X,Y,Z;127338:
RAISED :MC SIGN,MD SIGN,MR SIGN;127341:CIRCLED :CC,C WITH OVERLAID BACKSLASH,HUMAN FIGURE;127344:
NEGATIVE SQUARED LATIN CAPITAL LETTER :A,B,C,D,E,F,G,H,I,J,K,L,M,N,O,P,Q,R,S,T,U,V,W,X,Y,Z;127370:
:CROSSED NEGATIVE SQUARED LATIN CAPITAL LETTER P;127371:NEGATIVE SQUARED :IC,PA,SA,AB,WC;127376::
SQUARE DJ;127377:SQUARED :CL,COOL,FREE,ID,NEW,NG,OK,SOS,UP WITH EXCLAMATION MARK,VS,THREE D,
SECOND SCREEN,TWO K,FOUR K,EIGHT K,FIVE POINT ONE,SEVEN POINT ONE,TWENTY-TWO POINT TWO,SIXTY P,
ONE HUNDRED TWENTY P,LATIN SMALL LETTER D,HC,HDR,HI-RES,LOSSLESS,SHV,UHD,VOD;127405::
MASK WORK SYMBOL;127462:REGIONAL INDICATOR SYMBOL LETTER :A,B,C,D,E,F,G,H,I,J,K,L,M,N,O,P,Q,R,S,T,
U,V,W,X,Y,Z;127488::SQUARE HIRAGANA HOKA;127489:SQUARED KATAKANA :KOKO,SA;127504:
SQUARED CJK UNIFIED IDEOGRAPH-:624B,5B57,53CC;127507::SQUARED KATAKANA DE;127508:
SQUARED CJK UNIFIED IDEOGRAPH-:4E8C,591A,89E3,5929,4EA4,6620,7121,6599,524D,5F8C,518D,65B0,521D,
7D42,751F,8CA9,58F0,5439,6F14,6295,6355,4E00,4E09,904A,5DE6,4E2D,53F3,6307,8D70,6253,7981,7A7A,
5408,6E80,6709,6708,7533,5272,55B6,914D;127552:TORTOISE SHELL BRACKETED CJK UNIFIED IDEOGRAPH-:
672C,4E09,4E8C,5B89,70B9,6253,76D7,52DD,6557;127568:CIRCLED IDEOGRAPH :ADVANTAGE,ACCEPT;127584:
ROUNDED SYMBOL FOR :FU,LU,SHOU,XI,SHUANGXI,CAI;127744::CYCLONE,FOGGY,CLOSED UMBRELLA;127747::
NIGHT WITH STARS,SUNRISE OVER MOUNTAINS,SUNRISE,CITYSCAPE AT DUSK,SUNSET OVER BUILDINGS;127752::
RAINBOW,BRIDGE AT NIGHT,WATER WAVE,VOLCANO,MILKY WAY;127757:EARTH GLOBE :EUROPE-AFRICA,AMERICAS,
ASIA-AUSTRALIA;127760::GLOBE WITH MERIDIANS,NEW MOON SYMBOL,WAXING CRESCENT MOON SYMBOL,
FIRST QUARTER MOON SYMBOL,WAXING GIBBOUS MOON SYMBOL;127765::FULL MOON SYMBOL,
WANING GIBBOUS MOON SYMBOL,LAST QUARTER MOON SYMBOL,WANING CRESCENT MOON SYMBOL,CRESCENT MOON;
127770::NEW MOON WITH FACE,FIRST QUARTER MOON WITH FACE,LAST QUARTER MOON WITH FACE,
FULL MOON WITH FACE,SUN WITH FACE;127775::GLOWING STAR,SHOOTING STAR,THERMOMETER,BLACK DROPLET,
WHITE SUN;127780:WHITE SUN :WITH SMALL CLOUD,BEHIND CLOUD,BEHIND CLOUD WITH RAIN;127783:
CLOUD WITH :RAIN,SNOW,LIGHTNING,TORNADO;127787::FOG,WIND BLOWING FACE,HOT DOG,TACO,BURRITO;127792:
:CHESTNUT,SEEDLING,EVERGREEN TREE,DECIDUOUS TREE,PALM TREE;127797::CACTUS,HOT PEPPER,TULIP,
CHERRY BLOSSOM,ROSE;127802::HIBISCUS,SUNFLOWER,BLOSSOM,EAR OF MAIZE,EAR OF RICE;127807::HERB,
FOUR LEAF CLOVER,MAPLE LEAF,FALLEN LEAF,LEAF FLUTTERING IN WIND;127812::MUSHROOM,TOMATO,AUBERGINE,
GRAPES,MELON;127817::WATERMELON,TANGERINE,LEMON,BANANA,PINEAPPLE;127822::RED APPLE,GREEN APPLE,
PEAR,PEACH,CHERRIES;127827::STRAWBERRY,HAMBURGER,SLICE OF PIZZA,MEAT ON BONE,POULTRY LEG;127832:
RICE :CRACKER,BALL;127834::COOKED RICE,CURRY AND RICE,STEAMING BOWL,SPAGHETTI,BREAD;127839::
FRENCH FRIES,ROASTED SWEET POTATO,DANGO,ODEN,SUSHI;127844::FRIED SHRIMP,
FISH CAKE WITH SWIRL DESIGN,SOFT ICE CREAM,SHAVED ICE,ICE CREAM;127849::DOUGHNUT,COOKIE,
CHOCOLATE BAR,CANDY,LOLLIPOP;127854::CUSTARD,HONEY POT,SHORTCAKE,BENTO BOX,POT OF FOOD;127859::
COOKING,FORK AND KNIFE,TEACUP WITHOUT HANDLE,SAKE BOTTLE AND CUP,WINE GLASS;127864::
COCKTAIL GLASS,TROPICAL DRINK,BEER MUG,CLINKING BEER MUGS,BABY BOTTLE;127869::
FORK AND KNIFE WITH PLATE,BOTTLE WITH POPPING CORK,POPCORN,RIBBON,WRAPPED PRESENT;127874::
BIRTHDAY CAKE,JACK-O-LANTERN,CHRISTMAS TREE,FATHER CHRISTMAS,FIREWORKS;127879::FIREWORK SPARKLER,
BALLOON,PARTY POPPER,CONFETTI BALL,TANABATA TREE;127884::CROSSED FLAGS,PINE DECORATION,
JAPANESE DOLLS,CARP STREAMER,WIND CHIME;127889::MOON VIEWING CEREMONY,SCHOOL SATCHEL,
GRADUATION CAP,HEART WITH TIP ON THE LEFT,BOUQUET OF FLOWERS;127894::MILITARY MEDAL,
REMINDER RIBBON,MUSICAL KEYBOARD WITH JACKS,STUDIO MICROPHONE,LEVEL SLIDER;127899::CONTROL KNOBS,
BEAMED ASCENDING MUSICAL NOTES,BEAMED DESCENDING MUSICAL NOTES,FILM FRAMES,ADMISSION TICKETS;
127904::CAROUSEL HORSE,FERRIS WHEEL,ROLLER COASTER,FISHING POLE AND FISH,MICROPHONE;127909::
MOVIE CAMERA,CINEMA,HEADPHONE,ARTIST PALETTE,TOP HAT;127914::CIRCUS TENT,TICKET,CLAPPER BOARD,
PERFORMING ARTS,VIDEO GAME;127919::DIRECT HIT,SLOT MACHINE,BILLIARDS,GAME DIE,BOWLING;127924::
FLOWER PLAYING CARDS,MUSICAL NOTE,MULTIPLE MUSICAL NOTES,SAXOPHONE,GUITAR;127929::
MUSICAL KEYBOARD,TRUMPET,VIOLIN,MUSICAL SCORE,RUNNING SHIRT WITH SASH;127934::
TENNIS RACQUET AND BALL,SKI AND SKI BOOT,BASKETBALL AND HOOP,CHEQUERED FLAG,SNOWBOARDER;127939::
RUNNER,SURFER,SPORTS MEDAL,TROPHY,HORSE RACING;127944::AMERICAN FOOTBALL,RUGBY FOOTBALL,SWIMMER,
WEIGHT LIFTER,GOLFER;127949:RACING :MOTORCYCLE,CAR;127951::CRICKET BAT AND BALL,VOLLEYBALL,
FIELD HOCKEY STICK AND BALL,ICE HOCKEY STICK AND PUCK;127955::TABLE TENNIS PADDLE AND BALL,
SNOW CAPPED MOUNTAIN,CAMPING,BEACH WITH UMBRELLA,BUILDING CONSTRUCTION;127960::HOUSE BUILDINGS,
CITYSCAPE,DERELICT HOUSE BUILDING,CLASSICAL BUILDING,DESERT;127965::DESERT ISLAND,NATIONAL PARK,
STADIUM,HOUSE BUILDING,HOUSE WITH GARDEN;127970::OFFICE BUILDING,JAPANESE POST OFFICE,
EUROPEAN POST OFFICE,HOSPITAL,BANK;127975::AUTOMATED TELLER MACHINE,HOTEL,LOVE HOTEL,
CONVENIENCE STORE,SCHOOL;127980::DEPARTMENT STORE,FACTORY,IZAKAYA LANTERN,JAPANESE CASTLE,
EUROPEAN CASTLE;127985::WHITE PENNANT,BLACK PENNANT,WAVING WHITE FLAG,WAVING BLACK FLAG,ROSETTE;
127990::BLACK ROSETTE,LABEL,BADMINTON RACQUET AND SHUTTLECOCK,BOW AND ARROW,AMPHORA;127995:
EMOJI MODIFIER FITZPATRICK TYPE-:1-2,3,4,5,6;128000::RAT,MOUSE,OX,WATER BUFFALO,COW;128005::TIGER,
LEOPARD,RABBIT,CAT,DRAGON;128010::CROCODILE,WHALE,SNAIL,SNAKE,HORSE;128015::RAM,GOAT,SHEEP,MONKEY,
ROOSTER;128020::CHICKEN,DOG,PIG,BOAR,ELEPHANT;128025::OCTOPUS,SPIRAL SHELL,BUG,ANT,HONEYBEE;
128030::LADY BEETLE,FISH,TROPICAL FISH,BLOWFISH,TURTLE;128035::HATCHING CHICK,BABY CHICK,
FRONT-FACING BABY CHICK,BIRD,PENGUIN;128040::KOALA,POODLE,DROMEDARY CAMEL,BACTRIAN CAMEL,DOLPHIN;
128045::MOUSE FACE,COW FACE,TIGER FACE,RABBIT FACE,CAT FACE;128050::DRAGON FACE,SPOUTING WHALE,
HORSE FACE,MONKEY FACE,DOG FACE;128055::PIG FACE,FROG FACE,HAMSTER FACE,WOLF FACE,BEAR FACE;
128060::PANDA FACE,PIG NOSE,PAW PRINTS,CHIPMUNK,EYES;128065::EYE,EAR,NOSE,MOUTH,TONGUE;128070:
WHITE :UP POINTING BACKHAND INDEX,DOWN POINTING BACKHAND INDEX,LEFT POINTING BACKHAND INDEX,
RIGHT POINTING BACKHAND INDEX;128074::FISTED HAND SIGN,WAVING HAND SIGN,OK HAND SIGN,
THUMBS UP SIGN,THUMBS DOWN SIGN;128079::CLAPPING HANDS SIGN,OPEN HANDS SIGN,CROWN,WOMANS HAT,
EYEGLASSES;128084::NECKTIE,T-SHIRT,JEANS,DRESS,KIMONO;128089::BIKINI,WOMANS CLOTHES,PURSE,HANDBAG,
POUCH;128094::MANS SHOE,ATHLETIC SHOE,HIGH-HEELED SHOE,WOMANS SANDAL,WOMANS BOOTS;128099::
FOOTPRINTS,BUST IN SILHOUETTE,BUSTS IN SILHOUETTE,BOY,GIRL;128104::MAN,WOMAN,FAMILY,
MAN AND WOMAN HOLDING HANDS,TWO MEN HOLDING HANDS;128109::TWO WOMEN HOLDING HANDS,POLICE OFFICER,
WOMAN WITH BUNNY EARS,BRIDE WITH VEIL,PERSON WITH BLOND HAIR;128114:MAN WITH :GUA PI MAO,TURBAN;
128116::OLDER MAN,OLDER WOMAN,BABY,CONSTRUCTION WORKER;128120::PRINCESS,JAPANESE OGRE,
JAPANESE GOBLIN,GHOST,BABY ANGEL;128125::EXTRATERRESTRIAL ALIEN,ALIEN MONSTER,IMP,SKULL,
INFORMATION DESK PERSON;128130::GUARDSMAN,DANCER,LIPSTICK,NAIL POLISH,FACE MASSAGE;128135::
HAIRCUT,BARBER POLE,SYRINGE,PILL,KISS MARK;128140::LOVE LETTER,RING,GEM STONE,KISS,BOUQUET;128145:
:COUPLE WITH HEART,WEDDING,BEATING HEART,BROKEN HEART,TWO HEARTS;128150::SPARKLING HEART,
GROWING HEART,HEART WITH ARROW,BLUE HEART,GREEN HEART;128155::YELLOW HEART,PURPLE HEART,
HEART WITH RIBBON,REVOLVING HEARTS,HEART DECORATION;128160::DIAMOND SHAPE WITH A DOT INSIDE,
ELECTRIC LIGHT BULB,ANGER SYMBOL,BOMB,SLEEPING SYMBOL;128165::COLLISION SYMBOL,
SPLASHING SWEAT SYMBOL,DROPLET,DASH SYMBOL,PILE OF POO;128170::FLEXED BICEPS,DIZZY SYMBOL,
SPEECH BALLOON,THOUGHT BALLOON,WHITE FLOWER;128175::HUNDRED POINTS SYMBOL,MONEY BAG,
CURRENCY EXCHANGE,HEAVY DOLLAR SIGN,CREDIT CARD;128180:BANKNOTE WITH :YEN SIGN,DOLLAR SIGN,
EURO SIGN,POUND SIGN;128184::MONEY WITH WINGS,CHART WITH UPWARDS TREND AND YEN SIGN,SEAT,
PERSONAL COMPUTER,BRIEFCASE;128189::MINIDISC,FLOPPY DISK,OPTICAL DISC,DVD,FILE FOLDER;128194::
OPEN FILE FOLDER,PAGE WITH CURL,PAGE FACING UP,CALENDAR,TEAR-OFF CALENDAR;128199::CARD INDEX,
CHART WITH UPWARDS TREND,CHART WITH DOWNWARDS TREND,BAR CHART,CLIPBOARD;128204::PUSHPIN,
ROUND PUSHPIN,PAPERCLIP,STRAIGHT RULER,TRIANGULAR RULER;128209::BOOKMARK TABS,LEDGER,NOTEBOOK,
NOTEBOOK WITH DECORATIVE COVER,CLOSED BOOK;128214::OPEN BOOK,GREEN BOOK,BLUE BOOK,ORANGE BOOK,
BOOKS;128219::NAME BADGE,SCROLL,MEMO,TELEPHONE RECEIVER,PAGER;128224::FAX MACHINE,
SATELLITE ANTENNA,PUBLIC ADDRESS LOUDSPEAKER,CHEERING MEGAPHONE,OUTBOX TRAY;128229::INBOX TRAY,
PACKAGE,E-MAIL SYMBOL,INCOMING ENVELOPE,ENVELOPE WITH DOWNWARDS ARROW ABOVE;128234:
CLOSED MAILBOX WITH :LOWERED FLAG,RAISED FLAG;128236:OPEN MAILBOX WITH :RAISED FLAG,LOWERED FLAG;
128238::POSTBOX,POSTAL HORN,NEWSPAPER,MOBILE PHONE;128242::
MOBILE PHONE WITH RIGHTWARDS ARROW AT LEFT,VIBRATION MODE,MOBILE PHONE OFF,NO MOBILE PHONES,
ANTENNA WITH BARS;128247::CAMERA,CAMERA WITH FLASH,VIDEO CAMERA,TELEVISION,RADIO;128252::
VIDEOCASSETTE,FILM PROJECTOR,PORTABLE STEREO,PRAYER BEADS,TWISTED RIGHTWARDS ARROWS;128257:
CLOCKWISE RIGHTWARDS AND LEFTWARDS OPEN CIRCLE :ARROWS,ARROWS WITH CIRCLED ONE OVERLAY;128259::
CLOCKWISE DOWNWARDS AND UPWARDS OPEN CIRCLE ARROWS,
ANTICLOCKWISE DOWNWARDS AND UPWARDS OPEN CIRCLE ARROWS,LOW BRIGHTNESS SYMBOL,
HIGH BRIGHTNESS SYMBOL;128263::SPEAKER WITH CANCELLATION STROKE,SPEAKER,
SPEAKER WITH ONE SOUND WAVE,SPEAKER WITH THREE SOUND WAVES,BATTERY;128268::ELECTRIC PLUG,
LEFT-POINTING MAGNIFYING GLASS,RIGHT-POINTING MAGNIFYING GLASS,LOCK WITH INK PEN,
CLOSED LOCK WITH KEY;128273::KEY,LOCK,OPEN LOCK,BELL,BELL WITH CANCELLATION STROKE;128278::
BOOKMARK,LINK SYMBOL,RADIO BUTTON,BACK WITH LEFTWARDS ARROW ABOVE,END WITH LEFTWARDS ARROW ABOVE;
128283::ON WITH EXCLAMATION MARK WITH LEFT RIGHT ARROW ABOVE,SOON WITH RIGHTWARDS ARROW ABOVE,
TOP WITH UPWARDS ARROW ABOVE,NO ONE UNDER EIGHTEEN SYMBOL,KEYCAP TEN;128288:INPUT SYMBOL FOR :
LATIN CAPITAL LETTERS,LATIN SMALL LETTERS,NUMBERS,SYMBOLS,LATIN LETTERS;128293::FIRE,
ELECTRIC TORCH,WRENCH,HAMMER,NUT AND BOLT;128298::HOCHO,PISTOL,MICROSCOPE,TELESCOPE,CRYSTAL BALL;
128303::SIX POINTED STAR WITH MIDDLE DOT,JAPANESE SYMBOL FOR BEGINNER,TRIDENT EMBLEM,
BLACK SQUARE BUTTON,WHITE SQUARE BUTTON;128308:LARGE :RED CIRCLE,BLUE CIRCLE,ORANGE DIAMOND,
BLUE DIAMOND;128312::SMALL ORANGE DIAMOND,SMALL BLUE DIAMOND,UP-POINTING RED TRIANGLE,
DOWN-POINTING RED TRIANGLE;128316::UP-POINTING SMALL RED TRIANGLE,
DOWN-POINTING SMALL RED TRIANGLE,LOWER RIGHT SHADOWED WHITE CIRCLE,
UPPER RIGHT SHADOWED WHITE CIRCLE,CIRCLED CROSS POMMEE;128321::
CROSS POMMEE WITH HALF-CIRCLE BELOW,CROSS POMMEE,NOTCHED LEFT SEMICIRCLE WITH THREE DOTS,
NOTCHED RIGHT SEMICIRCLE WITH THREE DOTS,SYMBOL FOR MARKS CHAPTER;128326::WHITE LATIN CROSS,
HEAVY LATIN CROSS,CELTIC CROSS,OM SYMBOL,DOVE OF PEACE;128331::KAABA,MOSQUE,SYNAGOGUE,
MENORAH WITH NINE BRANCHES,BOWL OF HYGIEIA;128336:CLOCK FACE :ONE OCLOCK,TWO OCLOCK,THREE OCLOCK,
FOUR OCLOCK,FIVE OCLOCK,SIX OCLOCK,SEVEN OCLOCK,EIGHT OCLOCK,NINE OCLOCK,TEN OCLOCK,ELEVEN OCLOCK,
TWELVE OCLOCK,ONE-THIRTY,TWO-THIRTY,THREE-THIRTY,FOUR-THIRTY,FIVE-THIRTY,SIX-THIRTY,SEVEN-THIRTY,
EIGHT-THIRTY,NINE-THIRTY,TEN-THIRTY,ELEVEN-THIRTY,TWELVE-THIRTY;128360:RIGHT :SPEAKER,
SPEAKER WITH ONE SOUND WAVE,SPEAKER WITH THREE SOUND WAVES;128363::BULLHORN,
BULLHORN WITH SOUND WAVES,RINGING BELL,BOOK,CANDLE;128368::MANTELPIECE CLOCK,
BLACK SKULL AND CROSSBONES,NO PIRACY,HOLE,MAN IN BUSINESS SUIT LEVITATING;128373::SLEUTH OR SPY,
DARK SUNGLASSES,SPIDER,SPIDER WEB,JOYSTICK;128378::MAN DANCING,LEFT HAND TELEPHONE RECEIVER,
TELEPHONE RECEIVER WITH PAGE,RIGHT HAND TELEPHONE RECEIVER,WHITE TOUCHTONE TELEPHONE;128383::
BLACK TOUCHTONE TELEPHONE,TELEPHONE ON TOP OF MODEM,CLAMSHELL MOBILE PHONE,BACK OF ENVELOPE,
STAMPED ENVELOPE;128388::ENVELOPE WITH LIGHTNING,FLYING ENVELOPE,PEN OVER STAMPED ENVELOPE,
LINKED PAPERCLIPS,BLACK PUSHPIN;128393:LOWER LEFT :PENCIL,BALLPOINT PEN,FOUNTAIN PEN,PAINTBRUSH,
CRAYON;128398::LEFT WRITING HAND,TURNED OK HAND SIGN,RAISED HAND WITH FINGERS SPLAYED;128401:
REVERSED :RAISED HAND WITH FINGERS SPLAYED,THUMBS UP SIGN,THUMBS DOWN SIGN,VICTORY HAND,
HAND WITH MIDDLE FINGER EXTENDED;128406::RAISED HAND WITH PART BETWEEN MIDDLE AND RING FINGERS,
WHITE DOWN POINTING LEFT HAND INDEX;128408:SIDEWAYS :WHITE LEFT POINTING INDEX,
WHITE RIGHT POINTING INDEX,BLACK LEFT POINTING INDEX,BLACK RIGHT POINTING INDEX;128412:BLACK :
LEFT POINTING BACKHAND INDEX,RIGHT POINTING BACKHAND INDEX;128414:SIDEWAYS :
WHITE UP POINTING INDEX,WHITE DOWN POINTING INDEX,BLACK UP POINTING INDEX,
BLACK DOWN POINTING INDEX;128418:BLACK :UP POINTING BACKHAND INDEX,DOWN POINTING BACKHAND INDEX,
HEART;128421::DESKTOP COMPUTER,KEYBOARD AND MOUSE,THREE NETWORKED COMPUTERS,PRINTER,
POCKET CALCULATOR;128426::BLACK HARD SHELL FLOPPY DISK,WHITE HARD SHELL FLOPPY DISK,
SOFT SHELL FLOPPY DISK,TAPE CARTRIDGE,WIRED KEYBOARD;128431::ONE BUTTON MOUSE,TWO BUTTON MOUSE,
THREE BUTTON MOUSE,TRACKBALL,OLD PERSONAL COMPUTER;128436::HARD DISK,SCREEN,PRINTER ICON,FAX ICON,
OPTICAL DISC ICON;128441:DOCUMENT WITH :TEXT,TEXT AND PICTURE,PICTURE;128444:FRAME WITH :PICTURE,
TILES,AN X;128447::BLACK FOLDER,FOLDER,OPEN FOLDER,CARD INDEX DIVIDERS,CARD FILE BOX;128452::
FILE CABINET,EMPTY NOTE,EMPTY NOTE PAGE,EMPTY NOTE PAD,NOTE;128457:NOTE :PAGE,PAD;128459:EMPTY :
DOCUMENT,PAGE,PAGES;128462::DOCUMENT,PAGE;128464::PAGES,WASTEBASKET,SPIRAL NOTE PAD,
SPIRAL CALENDAR PAD,DESKTOP WINDOW;128469::MINIMIZE,MAXIMIZE,OVERLAP,
CLOCKWISE RIGHT AND LEFT SEMICIRCLE ARROWS,CANCELLATION X;128474::INCREASE FONT SIZE SYMBOL,
DECREASE FONT SIZE SYMBOL,COMPRESSION,OLD KEY,ROLLED-UP NEWSPAPER;128479::PAGE WITH CIRCLED TEXT,
STOCK CHART,DAGGER KNIFE,LIPS,SPEAKING HEAD IN SILHOUETTE;128484:THREE RAYS :ABOVE,BELOW,LEFT,
RIGHT;128488::LEFT SPEECH BUBBLE,RIGHT SPEECH BUBBLE,TWO SPEECH BUBBLES,THREE SPEECH BUBBLES;
128492::LEFT THOUGHT BUBBLE,RIGHT THOUGHT BUBBLE,LEFT ANGER BUBBLE,RIGHT ANGER BUBBLE,MOOD BUBBLE;
128497:LIGHTNING :MOOD BUBBLE,MOOD;128499:BALLOT :BOX WITH BALLOT,SCRIPT X,BOX WITH SCRIPT X,
BOLD SCRIPT X,BOX WITH BOLD SCRIPT X;128504::LIGHT CHECK MARK;128505::BALLOT BOX WITH BOLD CHECK,
WORLD MAP,MOUNT FUJI,TOKYO TOWER,STATUE OF LIBERTY;128510::SILHOUETTE OF JAPAN,MOYAI,
GRINNING FACE,GRINNING FACE WITH SMILING EYES,FACE WITH TEARS OF JOY;128515:SMILING FACE WITH :
OPEN MOUTH,OPEN MOUTH AND SMILING EYES,OPEN MOUTH AND COLD SWEAT,
OPEN MOUTH AND TIGHTLY-CLOSED EYES,HALO,HORNS;128521::WINKING FACE,SMILING FACE WITH SMILING EYES,
FACE SAVOURING DELICIOUS FOOD,RELIEVED FACE;128525:SMILING FACE WITH :HEART-SHAPED EYES,
SUNGLASSES;128527::SMIRKING FACE,NEUTRAL FACE,EXPRESSIONLESS FACE,UNAMUSED FACE,
FACE WITH COLD SWEAT;128532::PENSIVE FACE,CONFUSED FACE,CONFOUNDED FACE,KISSING FACE,
FACE THROWING A KISS;128537:KISSING FACE WITH :SMILING EYES,CLOSED EYES;128539:
FACE WITH STUCK-OUT :TONGUE,TONGUE AND WINKING EYE,TONGUE AND TIGHTLY-CLOSED EYES;128542::
DISAPPOINTED FACE,WORRIED FACE,ANGRY FACE;128545::POUTING FACE,CRYING FACE,PERSEVERING FACE,
FACE WITH LOOK OF TRIUMPH,DISAPPOINTED BUT RELIEVED FACE;128550::FROWNING FACE WITH OPEN MOUTH,
ANGUISHED FACE,FEARFUL FACE,WEARY FACE,SLEEPY FACE;128555::TIRED FACE,GRIMACING FACE,
LOUDLY CRYING FACE,FACE WITH OPEN MOUTH,HUSHED FACE;128560::FACE WITH OPEN MOUTH AND COLD SWEAT,
FACE SCREAMING IN FEAR,ASTONISHED FACE,FLUSHED FACE,SLEEPING FACE;128565::DIZZY FACE,
FACE WITHOUT MOUTH,FACE WITH MEDICAL MASK,GRINNING CAT FACE WITH SMILING EYES,
CAT FACE WITH TEARS OF JOY;128570:SMILING CAT FACE WITH :OPEN MOUTH,HEART-SHAPED EYES;128572::
CAT FACE WITH WRY SMILE,KISSING CAT FACE WITH CLOSED EYES,POUTING CAT FACE;128575::
CRYING CAT FACE,WEARY CAT FACE,SLIGHTLY FROWNING FACE,SLIGHTLY SMILING FACE,UPSIDE-DOWN FACE;
128580:FACE WITH :ROLLING EYES,NO GOOD GESTURE,OK GESTURE;128583::PERSON BOWING DEEPLY,
SEE-NO-EVIL MONKEY,HEAR-NO-EVIL MONKEY,SPEAK-NO-EVIL MONKEY,HAPPY PERSON RAISING ONE HAND;128588:
PERSON :RAISING BOTH HANDS IN CELEBRATION,FROWNING,WITH POUTING FACE,WITH FOLDED HANDS;128592::
NORTH WEST POINTING LEAF,SOUTH WEST POINTING LEAF,NORTH EAST POINTING LEAF,
SOUTH EAST POINTING LEAF;128596:TURNED :NORTH WEST POINTING LEAF,SOUTH WEST POINTING LEAF,
NORTH EAST POINTING LEAF,SOUTH EAST POINTING LEAF;128600::NORTH WEST POINTING VINE LEAF,
SOUTH WEST POINTING VINE LEAF,NORTH EAST POINTING VINE LEAF,SOUTH EAST POINTING VINE LEAF;128604:
HEAVY :NORTH WEST POINTING VINE LEAF,SOUTH WEST POINTING VINE LEAF,NORTH EAST POINTING VINE LEAF,
SOUTH EAST POINTING VINE LEAF;128608::NORTH WEST POINTING BUD,SOUTH WEST POINTING BUD,
NORTH EAST POINTING BUD,SOUTH EAST POINTING BUD;128612:HEAVY :NORTH WEST POINTING BUD,
SOUTH WEST POINTING BUD,NORTH EAST POINTING BUD,SOUTH EAST POINTING BUD;128616:
HOLLOW QUILT SQUARE :ORNAMENT,ORNAMENT IN BLACK SQUARE;128618:SOLID QUILT SQUARE :ORNAMENT,
ORNAMENT IN BLACK SQUARE;128620::LEFTWARDS ROCKET,UPWARDS ROCKET,RIGHTWARDS ROCKET,
DOWNWARDS ROCKET,SCRIPT LIGATURE ET ORNAMENT;128625::HEAVY SCRIPT LIGATURE ET ORNAMENT,
LIGATURE OPEN ET ORNAMENT,HEAVY LIGATURE OPEN ET ORNAMENT,HEAVY AMPERSAND ORNAMENT,
SWASH AMPERSAND ORNAMENT;128630:SANS-SERIF HEAVY :DOUBLE TURNED COMMA QUOTATION MARK ORNAMENT,
DOUBLE COMMA QUOTATION MARK ORNAMENT,LOW DOUBLE COMMA QUOTATION MARK ORNAMENT;128633::
HEAVY INTERROBANG ORNAMENT,SANS-SERIF INTERROBANG ORNAMENT,HEAVY SANS-SERIF INTERROBANG ORNAMENT;
128636:VERY HEAVY :SOLIDUS,REVERSE SOLIDUS;128638::CHECKER BOARD,REVERSE CHECKER BOARD,ROCKET,
HELICOPTER,STEAM LOCOMOTIVE;128643::RAILWAY CAR,HIGH-SPEED TRAIN,
HIGH-SPEED TRAIN WITH BULLET NOSE,TRAIN,METRO;128648::LIGHT RAIL,STATION,TRAM,TRAM CAR,BUS;128653:
:ONCOMING BUS,TROLLEYBUS,BUS STOP,MINIBUS,AMBULANCE;128658::FIRE ENGINE,POLICE CAR,
ONCOMING POLICE CAR,TAXI,ONCOMING TAXI;128663::AUTOMOBILE,ONCOMING AUTOMOBILE,
RECREATIONAL VEHICLE,DELIVERY TRUCK,ARTICULATED LORRY;128668::TRACTOR,MONORAIL,MOUNTAIN RAILWAY,
SUSPENSION RAILWAY,MOUNTAIN CABLEWAY;128673::AERIAL TRAMWAY,SHIP,ROWBOAT,SPEEDBOAT,
HORIZONTAL TRAFFIC LIGHT;128678::VERTICAL TRAFFIC LIGHT,CONSTRUCTION SIGN,
POLICE CARS REVOLVING LIGHT,TRIANGULAR FLAG ON POST,DOOR;128683::NO ENTRY SIGN,SMOKING SYMBOL,
NO SMOKING SYMBOL,PUT LITTER IN ITS PLACE SYMBOL,DO NOT LITTER SYMBOL;128688::
POTABLE WATER SYMBOL,NON-POTABLE WATER SYMBOL,BICYCLE,NO BICYCLES,BICYCLIST;128693::
MOUNTAIN BICYCLIST,PEDESTRIAN,NO PEDESTRIANS,CHILDREN CROSSING,MENS SYMBOL;128698::WOMENS SYMBOL,
RESTROOM,BABY SYMBOL,TOILET,WATER CLOSET;128703::SHOWER,BATH,BATHTUB,PASSPORT CONTROL,CUSTOMS;
128708::BAGGAGE CLAIM,LEFT LUGGAGE,TRIANGLE WITH ROUNDED CORNERS,PROHIBITED SIGN,
CIRCLED INFORMATION SOURCE;128713::BOYS SYMBOL,GIRLS SYMBOL,COUCH AND LAMP,SLEEPING ACCOMMODATION,
SHOPPING BAGS;128718::BELLHOP BELL,BED,PLACE OF WORSHIP,OCTAGONAL SIGN,SHOPPING TROLLEY;128723::
STUPA,PAGODA,HINDU TEMPLE,HUT,ELEVATOR;128733::PLAYGROUND SLIDE,WHEEL,RING BUOY,HAMMER AND WRENCH;
128737::SHIELD,OIL DRUM,MOTORWAY,RAILWAY TRACK,MOTOR BOAT;128742:UP-POINTING :MILITARY AIRPLANE,
AIRPLANE,SMALL AIRPLANE;128745::SMALL AIRPLANE,NORTHEAST-POINTING AIRPLANE,AIRPLANE DEPARTURE,
AIRPLANE ARRIVING;128752::SATELLITE,ONCOMING FIRE ENGINE,DIESEL LOCOMOTIVE;128755::PASSENGER SHIP,
SCOOTER,MOTOR SCOOTER,CANOE,SLED;128760::FLYING SAUCER,SKATEBOARD,AUTO RICKSHAW,PICKUP TRUCK,
ROLLER SKATE;128768:ALCHEMICAL SYMBOL FOR :QUINTESSENCE,AIR,FIRE,EARTH,WATER,AQUAFORTIS,
AQUA REGIA,AQUA REGIA-2,AQUA VITAE,AQUA VITAE-2,VINEGAR,VINEGAR-2,VINEGAR-3,SULFUR,
PHILOSOPHERS SULFUR,BLACK SULFUR,MERCURY SUBLIMATE,MERCURY SUBLIMATE-2,MERCURY SUBLIMATE-3,
CINNABAR,SALT,NITRE,VITRIOL,VITRIOL-2,ROCK SALT,ROCK SALT-2,GOLD,SILVER,IRON ORE,IRON ORE-2,
CROCUS OF IRON,REGULUS OF IRON,COPPER ORE,IRON-COPPER ORE,SUBLIMATE OF COPPER,CROCUS OF COPPER,
CROCUS OF COPPER-2,COPPER ANTIMONIATE,SALT OF COPPER ANTIMONIATE,SUBLIMATE OF SALT OF COPPER,
VERDIGRIS,TIN ORE,LEAD ORE,ANTIMONY ORE,SUBLIMATE OF ANTIMONY,SALT OF ANTIMONY,
SUBLIMATE OF SALT OF ANTIMONY,VINEGAR OF ANTIMONY,REGULUS OF ANTIMONY,REGULUS OF ANTIMONY-2,
REGULUS,REGULUS-2,REGULUS-3,REGULUS-4,ALKALI,ALKALI-2,MARCASITE,SAL-AMMONIAC,ARSENIC,REALGAR,
REALGAR-2,AURIPIGMENT,BISMUTH ORE,TARTAR,TARTAR-2,QUICK LIME,BORAX,BORAX-2,BORAX-3,ALUM,OIL,
SPIRIT,TINCTURE,GUM,WAX,POWDER,CALX,TUTTY,CAPUT MORTUUM,SCEPTER OF JOVE,CADUCEUS,TRIDENT,
STARRED TRIDENT,LODESTONE,SOAP,URINE,HORSE DUNG,ASHES,POT ASHES,BRICK,POWDERED BRICK,AMALGAM,
STRATUM SUPER STRATUM,STRATUM SUPER STRATUM-2,SUBLIMATION,PRECIPITATE,DISTILL,DISSOLVE,DISSOLVE-2,
PURIFY,PUTREFACTION,CRUCIBLE,CRUCIBLE-2,CRUCIBLE-3,CRUCIBLE-4,CRUCIBLE-5,ALEMBIC,BATH OF MARY,
BATH OF VAPOURS,RETORT,HOUR,NIGHT,DAY-NIGHT,MONTH,HALF DRAM,HALF OUNCE;128896:BLACK :
LEFT-POINTING ISOSCELES RIGHT TRIANGLE,UP-POINTING ISOSCELES RIGHT TRIANGLE,
RIGHT-POINTING ISOSCELES RIGHT TRIANGLE,DOWN-POINTING ISOSCELES RIGHT TRIANGLE,
SLIGHTLY SMALL CIRCLE;128901::MEDIUM BOLD WHITE CIRCLE,BOLD WHITE CIRCLE,HEAVY WHITE CIRCLE,
VERY HEAVY WHITE CIRCLE,EXTREMELY HEAVY WHITE CIRCLE;128906::
WHITE CIRCLE CONTAINING BLACK SMALL CIRCLE,ROUND TARGET,BLACK TINY SQUARE,
BLACK SLIGHTLY SMALL SQUARE,LIGHT WHITE SQUARE;128911::MEDIUM WHITE SQUARE,BOLD WHITE SQUARE,
HEAVY WHITE SQUARE,VERY HEAVY WHITE SQUARE,EXTREMELY HEAVY WHITE SQUARE;128916:
WHITE SQUARE CONTAINING BLACK :VERY SMALL SQUARE,MEDIUM SQUARE;128918::SQUARE TARGET;128919:
BLACK :TINY DIAMOND,VERY SMALL DIAMOND,MEDIUM SMALL DIAMOND;128922:
WHITE DIAMOND CONTAINING BLACK :VERY SMALL DIAMOND,MEDIUM DIAMOND;128924::DIAMOND TARGET,
BLACK TINY LOZENGE,BLACK VERY SMALL LOZENGE,BLACK MEDIUM SMALL LOZENGE,
WHITE LOZENGE CONTAINING BLACK SMALL LOZENGE;128929::THIN GREEK CROSS,LIGHT GREEK CROSS,
MEDIUM GREEK CROSS,BOLD GREEK CROSS,VERY BOLD GREEK CROSS;128934::VERY HEAVY GREEK CROSS,
EXTREMELY HEAVY GREEK CROSS,THIN SALTIRE,LIGHT SALTIRE,MEDIUM SALTIRE;128939::BOLD SALTIRE,
HEAVY SALTIRE,VERY HEAVY SALTIRE,EXTREMELY HEAVY SALTIRE,LIGHT FIVE SPOKED ASTERISK;128944::
MEDIUM FIVE SPOKED ASTERISK,BOLD FIVE SPOKED ASTERISK,HEAVY FIVE SPOKED ASTERISK,
VERY HEAVY FIVE SPOKED ASTERISK,EXTREMELY HEAVY FIVE SPOKED ASTERISK;128949::
LIGHT SIX SPOKED ASTERISK,MEDIUM SIX SPOKED ASTERISK,BOLD SIX SPOKED ASTERISK,
HEAVY SIX SPOKED ASTERISK,VERY HEAVY SIX SPOKED ASTERISK;128954::
EXTREMELY HEAVY SIX SPOKED ASTERISK,LIGHT EIGHT SPOKED ASTERISK,MEDIUM EIGHT SPOKED ASTERISK,
BOLD EIGHT SPOKED ASTERISK,HEAVY EIGHT SPOKED ASTERISK;128959::VERY HEAVY EIGHT SPOKED ASTERISK,
LIGHT THREE POINTED BLACK STAR,MEDIUM THREE POINTED BLACK STAR,THREE POINTED BLACK STAR,
MEDIUM THREE POINTED PINWHEEL STAR;128964::LIGHT FOUR POINTED BLACK STAR,
MEDIUM FOUR POINTED BLACK STAR,FOUR POINTED BLACK STAR,MEDIUM FOUR POINTED PINWHEEL STAR,
REVERSE LIGHT FOUR POINTED PINWHEEL STAR;128969::LIGHT FIVE POINTED BLACK STAR,
HEAVY FIVE POINTED BLACK STAR,MEDIUM SIX POINTED BLACK STAR,HEAVY SIX POINTED BLACK STAR,
SIX POINTED PINWHEEL STAR;128974::MEDIUM EIGHT POINTED BLACK STAR,HEAVY EIGHT POINTED BLACK STAR,
VERY HEAVY EIGHT POINTED BLACK STAR,HEAVY EIGHT POINTED PINWHEEL STAR,
LIGHT TWELVE POINTED BLACK STAR;128979:HEAVY TWELVE POINTED :BLACK STAR,PINWHEEL STAR;128981::
CIRCLED TRIANGLE,NEGATIVE CIRCLED TRIANGLE,CIRCLED SQUARE,NEGATIVE CIRCLED SQUARE;128992:LARGE :
ORANGE CIRCLE,YELLOW CIRCLE,GREEN CIRCLE,PURPLE CIRCLE,BROWN CIRCLE,RED SQUARE,BLUE SQUARE,
ORANGE SQUARE,YELLOW SQUARE,GREEN SQUARE,PURPLE SQUARE,BROWN SQUARE;129008::HEAVY EQUALS SIGN;
129024::LEFTWARDS ARROW WITH SMALL TRIANGLE ARROWHEAD,UPWARDS ARROW WITH SMALL TRIANGLE ARROWHEAD,
RIGHTWARDS ARROW WITH SMALL TRIANGLE ARROWHEAD,DOWNWARDS ARROW WITH SMALL TRIANGLE ARROWHEAD,
LEFTWARDS ARROW WITH MEDIUM TRIANGLE ARROWHEAD;129029::
UPWARDS ARROW WITH MEDIUM TRIANGLE ARROWHEAD,RIGHTWARDS ARROW WITH MEDIUM TRIANGLE ARROWHEAD,
DOWNWARDS ARROW WITH MEDIUM TRIANGLE ARROWHEAD,LEFTWARDS ARROW WITH LARGE TRIANGLE ARROWHEAD,
UPWARDS ARROW WITH LARGE TRIANGLE ARROWHEAD;129034::
RIGHTWARDS ARROW WITH LARGE TRIANGLE ARROWHEAD,DOWNWARDS ARROW WITH LARGE TRIANGLE ARROWHEAD,,,,,
LEFTWARDS ARROW WITH SMALL EQUILATERAL ARROWHEAD,UPWARDS ARROW WITH SMALL EQUILATERAL ARROWHEAD,
RIGHTWARDS ARROW WITH SMALL EQUILATERAL ARROWHEAD;129043::
DOWNWARDS ARROW WITH SMALL EQUILATERAL ARROWHEAD,LEFTWARDS ARROW WITH EQUILATERAL ARROWHEAD,
UPWARDS ARROW WITH EQUILATERAL ARROWHEAD,RIGHTWARDS ARROW WITH EQUILATERAL ARROWHEAD,
DOWNWARDS ARROW WITH EQUILATERAL ARROWHEAD;129048:HEAVY :
LEFTWARDS ARROW WITH EQUILATERAL ARROWHEAD,UPWARDS ARROW WITH EQUILATERAL ARROWHEAD,
RIGHTWARDS ARROW WITH EQUILATERAL ARROWHEAD,DOWNWARDS ARROW WITH EQUILATERAL ARROWHEAD,
LEFTWARDS ARROW WITH LARGE EQUILATERAL ARROWHEAD,UPWARDS ARROW WITH LARGE EQUILATERAL ARROWHEAD,
RIGHTWARDS ARROW WITH LARGE EQUILATERAL ARROWHEAD,
DOWNWARDS ARROW WITH LARGE EQUILATERAL ARROWHEAD;129056::
LEFTWARDS TRIANGLE-HEADED ARROW WITH NARROW SHAFT,UPWARDS TRIANGLE-HEADED ARROW WITH NARROW SHAFT,
RIGHTWARDS TRIANGLE-HEADED ARROW WITH NARROW SHAFT,
DOWNWARDS TRIANGLE-HEADED ARROW WITH NARROW SHAFT,
LEFTWARDS TRIANGLE-HEADED ARROW WITH MEDIUM SHAFT;129061::
UPWARDS TRIANGLE-HEADED ARROW WITH MEDIUM SHAFT,
RIGHTWARDS TRIANGLE-HEADED ARROW WITH MEDIUM SHAFT,
DOWNWARDS TRIANGLE-HEADED ARROW WITH MEDIUM SHAFT,LEFTWARDS TRIANGLE-HEADED ARROW WITH BOLD SHAFT,
UPWARDS TRIANGLE-HEADED ARROW WITH BOLD SHAFT;129066::
RIGHTWARDS TRIANGLE-HEADED ARROW WITH BOLD SHAFT,DOWNWARDS TRIANGLE-HEADED ARROW WITH BOLD SHAFT,
LEFTWARDS TRIANGLE-HEADED ARROW WITH HEAVY SHAFT,UPWARDS TRIANGLE-HEADED ARROW WITH HEAVY SHAFT,
RIGHTWARDS TRIANGLE-HEADED ARROW WITH HEAVY SHAFT;129071::
DOWNWARDS TRIANGLE-HEADED ARROW WITH HEAVY SHAFT,
LEFTWARDS TRIANGLE-HEADED ARROW WITH VERY HEAVY SHAFT,
UPWARDS TRIANGLE-HEADED ARROW WITH VERY HEAVY SHAFT,
RIGHTWARDS TRIANGLE-HEADED ARROW WITH VERY HEAVY SHAFT,
DOWNWARDS TRIANGLE-HEADED ARROW WITH VERY HEAVY SHAFT;129076::LEFTWARDS FINGER-POST ARROW,
UPWARDS FINGER-POST ARROW,RIGHTWARDS FINGER-POST ARROW,DOWNWARDS FINGER-POST ARROW,
LEFTWARDS SQUARED ARROW;129081::UPWARDS SQUARED ARROW,RIGHTWARDS SQUARED ARROW,
DOWNWARDS SQUARED ARROW,LEFTWARDS COMPRESSED ARROW,UPWARDS COMPRESSED ARROW;129086::
RIGHTWARDS COMPRESSED ARROW,DOWNWARDS COMPRESSED ARROW,LEFTWARDS HEAVY COMPRESSED ARROW,
UPWARDS HEAVY COMPRESSED ARROW,RIGHTWARDS HEAVY COMPRESSED ARROW;129091::
DOWNWARDS HEAVY COMPRESSED ARROW,LEFTWARDS HEAVY ARROW,UPWARDS HEAVY ARROW,RIGHTWARDS HEAVY ARROW,
DOWNWARDS HEAVY ARROW;129104::LEFTWARDS SANS-SERIF ARROW,UPWARDS SANS-SERIF ARROW,
RIGHTWARDS SANS-SERIF ARROW,DOWNWARDS SANS-SERIF ARROW,NORTH WEST SANS-SERIF ARROW;129109::
NORTH EAST SANS-SERIF ARROW,SOUTH EAST SANS-SERIF ARROW,SOUTH WEST SANS-SERIF ARROW,
LEFT RIGHT SANS-SERIF ARROW,UP DOWN SANS-SERIF ARROW;129120:WIDE-HEADED :
LEFTWARDS LIGHT BARB ARROW,UPWARDS LIGHT BARB ARROW,RIGHTWARDS LIGHT BARB ARROW,
DOWNWARDS LIGHT BARB ARROW,NORTH WEST LIGHT BARB ARROW,NORTH EAST LIGHT BARB ARROW,
SOUTH EAST LIGHT BARB ARROW,SOUTH WEST LIGHT BARB ARROW,LEFTWARDS BARB ARROW,UPWARDS BARB ARROW,
RIGHTWARDS BARB ARROW,DOWNWARDS BARB ARROW,NORTH WEST BARB ARROW,NORTH EAST BARB ARROW,
SOUTH EAST BARB ARROW,SOUTH WEST BARB ARROW,LEFTWARDS MEDIUM BARB ARROW,UPWARDS MEDIUM BARB ARROW,
RIGHTWARDS MEDIUM BARB ARROW,DOWNWARDS MEDIUM BARB ARROW,NORTH WEST MEDIUM BARB ARROW,
NORTH EAST MEDIUM BARB ARROW,SOUTH EAST MEDIUM BARB ARROW,SOUTH WEST MEDIUM BARB ARROW,
LEFTWARDS HEAVY BARB ARROW,UPWARDS HEAVY BARB ARROW,RIGHTWARDS HEAVY BARB ARROW,
DOWNWARDS HEAVY BARB ARROW,NORTH WEST HEAVY BARB ARROW,NORTH EAST HEAVY BARB ARROW,
SOUTH EAST HEAVY BARB ARROW,SOUTH WEST HEAVY BARB ARROW,LEFTWARDS VERY HEAVY BARB ARROW,
UPWARDS VERY HEAVY BARB ARROW,RIGHTWARDS VERY HEAVY BARB ARROW,DOWNWARDS VERY HEAVY BARB ARROW,
NORTH WEST VERY HEAVY BARB ARROW,NORTH EAST VERY HEAVY BARB ARROW,
SOUTH EAST VERY HEAVY BARB ARROW,SOUTH WEST VERY HEAVY BARB ARROW;129168::
LEFTWARDS TRIANGLE ARROWHEAD,UPWARDS TRIANGLE ARROWHEAD;129170::RIGHTWARDS TRIANGLE ARROWHEAD,
DOWNWARDS TRIANGLE ARROWHEAD,LEFTWARDS WHITE ARROW WITHIN TRIANGLE ARROWHEAD,
UPWARDS WHITE ARROW WITHIN TRIANGLE ARROWHEAD,RIGHTWARDS WHITE ARROW WITHIN TRIANGLE ARROWHEAD;
129175::DOWNWARDS WHITE ARROW WITHIN TRIANGLE ARROWHEAD,LEFTWARDS ARROW WITH NOTCHED TAIL,
UPWARDS ARROW WITH NOTCHED TAIL,RIGHTWARDS ARROW WITH NOTCHED TAIL,
DOWNWARDS ARROW WITH NOTCHED TAIL;129180:HEAVY ARROW SHAFT WIDTH :ONE,TWO THIRDS,ONE HALF,
ONE THIRD;129184::LEFTWARDS BOTTOM-SHADED WHITE ARROW,RIGHTWARDS BOTTOM SHADED WHITE ARROW;129186:
:LEFTWARDS TOP SHADED WHITE ARROW,RIGHTWARDS TOP SHADED WHITE ARROW,
LEFTWARDS LEFT-SHADED WHITE ARROW,RIGHTWARDS RIGHT-SHADED WHITE ARROW,
LEFTWARDS RIGHT-SHADED WHITE ARROW;129191::RIGHTWARDS LEFT-SHADED WHITE ARROW,
LEFTWARDS BACK-TILTED SHADOWED WHITE ARROW,RIGHTWARDS BACK-TILTED SHADOWED WHITE ARROW,
LEFTWARDS FRONT-TILTED SHADOWED WHITE ARROW,RIGHTWARDS FRONT-TILTED SHADOWED WHITE ARROW;129196:
WHITE ARROW SHAFT WIDTH :ONE,TWO THIRDS;129200:ARROW POINTING :UPWARDS THEN NORTH WEST,
RIGHTWARDS THEN CURVING SOUTH WEST;129280:CIRCLED CROSS :FORMEE WITH FOUR DOTS,
FORMEE WITH TWO DOTS,FORMEE;129283:LEFT HALF CIRCLE WITH :FOUR DOTS,THREE DOTS,TWO DOTS,DOT;
129287::LEFT HALF CIRCLE;129288:DOWNWARD FACING :HOOK,NOTCHED HOOK,HOOK WITH DOT,
NOTCHED HOOK WITH DOT;129292::PINCHED FINGERS,WHITE HEART,BROWN HEART,PINCHING HAND;129296::
ZIPPER-MOUTH FACE,MONEY-MOUTH FACE,FACE WITH THERMOMETER,NERD FACE,THINKING FACE;129301::
FACE WITH HEAD-BANDAGE,ROBOT FACE,HUGGING FACE,SIGN OF THE HORNS,CALL ME HAND;129306::
RAISED BACK OF HAND,LEFT-FACING FIST,RIGHT-FACING FIST,HANDSHAKE,
HAND WITH INDEX AND MIDDLE FINGERS CROSSED;129311::I LOVE YOU HAND SIGN,FACE WITH COWBOY HAT,
CLOWN FACE,NAUSEATED FACE,ROLLING ON THE FLOOR LAUGHING;129316::DROOLING FACE,LYING FACE,
FACE PALM,SNEEZING FACE,FACE WITH ONE EYEBROW RAISED;129321:GRINNING FACE WITH :STAR EYES,
ONE LARGE AND ONE SMALL EYE;129323::FACE WITH FINGER COVERING CLOSED LIPS,
SERIOUS FACE WITH SYMBOLS COVERING MOUTH;129325::
SMILING FACE WITH SMILING EYES AND HAND COVERING MOUTH,FACE WITH OPEN MOUTH VOMITING,
SHOCKED FACE WITH EXPLODING HEAD,PREGNANT WOMAN,BREAST-FEEDING;129330::PALMS UP TOGETHER,SELFIE,
PRINCE,MAN IN TUXEDO,MOTHER CHRISTMAS;129335::SHRUG,PERSON DOING CARTWHEEL,JUGGLING,FENCER,
MODERN PENTATHLON;129340::WRESTLERS,WATER POLO,HANDBALL,DIVING MASK,WILTED FLOWER;129345::
DRUM WITH DRUMSTICKS,CLINKING GLASSES,TUMBLER GLASS,SPOON,GOAL NET;129350::RIFLE,
FIRST PLACE MEDAL,SECOND PLACE MEDAL,THIRD PLACE MEDAL,BOXING GLOVE;129355::MARTIAL ARTS UNIFORM,
CURLING STONE,LACROSSE STICK AND BALL,SOFTBALL,FLYING DISC;129360::CROISSANT,AVOCADO,CUCUMBER,
BACON,POTATO;129365::CARROT,BAGUETTE BREAD,GREEN SALAD,SHALLOW PAN OF FOOD,STUFFED FLATBREAD;
129370::EGG,GLASS OF MILK,PEANUTS,KIWIFRUIT,PANCAKES;129375::DUMPLING,FORTUNE COOKIE,TAKEOUT BOX,
CHOPSTICKS,BOWL WITH SPOON;129380::CUP WITH STRAW,COCONUT,BROCCOLI,PIE,PRETZEL;129385::
CUT OF MEAT,SANDWICH,CANNED FOOD,LEAFY GREEN,MANGO;129390::MOON CAKE,BAGEL,
SMILING FACE WITH SMILING EYES AND THREE HEARTS,YAWNING FACE,SMILING FACE WITH TEAR;129395:
FACE WITH :PARTY HORN AND PARTY HAT,UNEVEN EYES AND WAVY MOUTH;129397::OVERHEATED FACE,
FREEZING FACE,NINJA,DISGUISED FACE;129401::FACE HOLDING BACK TEARS,FACE WITH PLEADING EYES,SARI,
LAB COAT,GOGGLES;129406::HIKING BOOT,FLAT SHOE,CRAB,LION FACE,SCORPION;129411::TURKEY,
UNICORN FACE,EAGLE,DUCK,BAT;129416::SHARK,OWL,FOX FACE,BUTTERFLY,DEER;129421::GORILLA,LIZARD,
RHINOCEROS,SHRIMP,SQUID;129426::GIRAFFE FACE,ZEBRA FACE,HEDGEHOG,SAUROPOD,T-REX;129431::CRICKET,
KANGAROO,LLAMA,PEACOCK,HIPPOPOTAMUS;129436::PARROT,RACCOON,LOBSTER,MOSQUITO,MICROBE;129441::
BADGER,SWAN,MAMMOTH,DODO,SLOTH;129446::OTTER,ORANGUTAN,SKUNK,FLAMINGO,OYSTER;129451::BEAVER,BISON,
SEAL,GUIDE DOG,PROBING CANE;129456:EMOJI COMPONENT :RED HAIR,CURLY HAIR,BALD,WHITE HAIR;129460::
BONE,LEG,FOOT,TOOTH,SUPERHERO;129465::SUPERVILLAIN,SAFETY VEST,EAR WITH HEARING AID,
MOTORIZED WHEELCHAIR,MANUAL WHEELCHAIR;129470:MECHANICAL :ARM,LEG;129472::CHEESE WEDGE;129473::
CUPCAKE,SALT SHAKER,BEVERAGE BOX,GARLIC,ONION;129478::FALAFEL,WAFFLE,BUTTER,MATE DRINK,ICE CUBE;
129483::BUBBLE TEA,TROLL,STANDING PERSON,KNEELING PERSON,DEAF PERSON;129488::FACE WITH MONOCLE,
ADULT,CHILD,OLDER ADULT,BEARDED PERSON;129493:PERSON :WITH HEADSCARF,IN STEAMY ROOM,CLIMBING,
IN LOTUS POSITION;129497::MAGE,FAIRY,VAMPIRE,MERPERSON;129501::ELF,GENIE,ZOMBIE,BRAIN,
ORANGE HEART;129506::BILLED CAP,SCARF,GLOVES,COAT,SOCKS;129511::RED GIFT ENVELOPE,FIRECRACKER,
JIGSAW PUZZLE PIECE,TEST TUBE,PETRI DISH;129516::DNA DOUBLE HELIX,COMPASS,ABACUS,
FIRE EXTINGUISHER,TOOLBOX;129521::BRICK,MAGNET,LUGGAGE,LOTION BOTTLE,SPOOL OF THREAD;129526::
BALL OF YARN,SAFETY PIN,TEDDY BEAR,BROOM,BASKET;129531::ROLL OF PAPER,BAR OF SOAP,SPONGE,RECEIPT,
NAZAR AMULET;129536:NEUTRAL CHESS :KING,QUEEN,ROOK,BISHOP,KNIGHT,PAWN;129542::
WHITE CHESS KNIGHT ROTATED FORTY-FIVE DEGREES,BLACK CHESS KNIGHT ROTATED FORTY-FIVE DEGREES,
NEUTRAL CHESS KNIGHT ROTATED FORTY-FIVE DEGREES;129545:WHITE CHESS :KING ROTATED NINETY DEGREES,
QUEEN ROTATED NINETY DEGREES,ROOK ROTATED NINETY DEGREES,BISHOP ROTATED NINETY DEGREES,
KNIGHT ROTATED NINETY DEGREES,PAWN ROTATED NINETY DEGREES;129551:BLACK CHESS :
KING ROTATED NINETY DEGREES,QUEEN ROTATED NINETY DEGREES,ROOK ROTATED NINETY DEGREES,
BISHOP ROTATED NINETY DEGREES,KNIGHT ROTATED NINETY DEGREES,PAWN ROTATED NINETY DEGREES;129557:
NEUTRAL CHESS :KING ROTATED NINETY DEGREES,QUEEN ROTATED NINETY DEGREES,
ROOK ROTATED NINETY DEGREES,BISHOP ROTATED NINETY DEGREES,KNIGHT ROTATED NINETY DEGREES,
PAWN ROTATED NINETY DEGREES;129563::WHITE CHESS KNIGHT ROTATED ONE HUNDRED THIRTY-FIVE DEGREES,
BLACK CHESS KNIGHT ROTATED ONE HUNDRED THIRTY-FIVE DEGREES,
NEUTRAL CHESS KNIGHT ROTATED ONE HUNDRED THIRTY-FIVE DEGREES;129566:WHITE CHESS TURNED :KING,
QUEEN,ROOK,BISHOP,KNIGHT,PAWN;129572:BLACK CHESS TURNED :KING,QUEEN,ROOK,BISHOP,KNIGHT,PAWN;
129578:NEUTRAL CHESS TURNED :KING,QUEEN,ROOK,BISHOP,KNIGHT,PAWN;129584::
WHITE CHESS KNIGHT ROTATED TWO HUNDRED TWENTY-FIVE DEGREES,
BLACK CHESS KNIGHT ROTATED TWO HUNDRED TWENTY-FIVE DEGREES,
NEUTRAL CHESS KNIGHT ROTATED TWO HUNDRED TWENTY-FIVE DEGREES;129587:WHITE CHESS :
KING ROTATED TWO HUNDRED SEVENTY DEGREES,QUEEN ROTATED TWO HUNDRED SEVENTY DEGREES,
ROOK ROTATED TWO HUNDRED SEVENTY DEGREES,BISHOP ROTATED TWO HUNDRED SEVENTY DEGREES,
KNIGHT ROTATED TWO HUNDRED SEVENTY DEGREES,PAWN ROTATED TWO HUNDRED SEVENTY DEGREES;129593:
BLACK CHESS :KING ROTATED TWO HUNDRED SEVENTY DEGREES,QUEEN ROTATED TWO HUNDRED SEVENTY DEGREES,
ROOK ROTATED TWO HUNDRED SEVENTY DEGREES,BISHOP ROTATED TWO HUNDRED SEVENTY DEGREES,
KNIGHT ROTATED TWO HUNDRED SEVENTY DEGREES,PAWN ROTATED TWO HUNDRED SEVENTY DEGREES;129599:
NEUTRAL CHESS :KING ROTATED TWO HUNDRED SEVENTY DEGREES,QUEEN ROTATED TWO HUNDRED SEVENTY DEGREES,
ROOK ROTATED TWO HUNDRED SEVENTY DEGREES,BISHOP ROTATED TWO HUNDRED SEVENTY DEGREES,
KNIGHT ROTATED TWO HUNDRED SEVENTY DEGREES,PAWN ROTATED TWO HUNDRED SEVENTY DEGREES;129605::
WHITE CHESS KNIGHT ROTATED THREE HUNDRED FIFTEEN DEGREES,
BLACK CHESS KNIGHT ROTATED THREE HUNDRED FIFTEEN DEGREES,
NEUTRAL CHESS KNIGHT ROTATED THREE HUNDRED FIFTEEN DEGREES,WHITE CHESS EQUIHOPPER;129609::
BLACK CHESS EQUIHOPPER,NEUTRAL CHESS EQUIHOPPER,WHITE CHESS EQUIHOPPER ROTATED NINETY DEGREES,
BLACK CHESS EQUIHOPPER ROTATED NINETY DEGREES,NEUTRAL CHESS EQUIHOPPER ROTATED NINETY DEGREES;
129614:WHITE CHESS KNIGHT-:QUEEN,ROOK,BISHOP;129617:BLACK CHESS KNIGHT-:QUEEN,ROOK,BISHOP;129632:
XIANGQI RED :GENERAL,MANDARIN,ELEPHANT,HORSE,CHARIOT,CANNON,SOLDIER;129639:XIANGQI BLACK :GENERAL,
MANDARIN,ELEPHANT,HORSE,CHARIOT,CANNON,SOLDIER;129648::BALLET SHOES,ONE-PIECE SWIMSUIT,BRIEFS,
SHORTS,THONG SANDAL;129656::DROP OF BLOOD,ADHESIVE BANDAGE,STETHOSCOPE,X-RAY,CRUTCH;129664::YO-YO,
KITE;129666::PARACHUTE,BOOMERANG,MAGIC WAND,PINATA,NESTING DOLLS;129680::RINGED PLANET,CHAIR,
RAZOR,AXE,DIYA LAMP;129685::BANJO,MILITARY HELMET,ACCORDION,LONG DRUM,COIN;129690::CARPENTRY SAW,
SCREWDRIVER,LADDER,HOOK,MIRROR;129695::WINDOW,PLUNGER,SEWING NEEDLE,KNOT,BUCKET;129700::
MOUSE TRAP,TOOTHBRUSH,HEADSTONE,PLACARD,ROCK;129705::MIRROR BALL,IDENTIFICATION CARD,LOW BATTERY,
HAMSA,,,,FLY;129713::WORM,BEETLE,COCKROACH,POTTED PLANT,WOOD;129718::FEATHER,LOTUS,CORAL,
EMPTY NEST,NEST WITH EGGS;129728::ANATOMICAL HEART;129729::LUNGS,PEOPLE HUGGING,PREGNANT MAN,
PREGNANT PERSON,PERSON WITH CROWN;129744::BLUEBERRIES,BELL PEPPER,OLIVE,FLATBREAD,TAMALE;129749::
FONDUE,TEAPOT,POURING LIQUID,BEANS,JAR;129760::MELTING FACE,SALUTING FACE;129762:FACE WITH :
OPEN EYES AND HAND OVER MOUTH,PEEKING EYE,DIAGONAL MOUTH;129765::DOTTED LINE FACE,BITING LIP,
BUBBLES,,,,,,,,,HAND WITH INDEX FINGER AND THUMB CROSSED,RIGHTWARDS HAND;129778::LEFTWARDS HAND,
PALM DOWN HAND,PALM UP HAND,INDEX POINTING AT THE VIEWER,HEART HANDS;129792:BLOCK SEXTANT-:1,2,12,
3,13,23,123,4,14,24,124,34,134,234,1234,5,15,25,125,35,235,1235,45,145,245,1245,345,1345,2345,
12345,6,16,26,126,36,136,236,1236,46,146,1246,346,1346,2346,12346,56,156,256,1256,356,1356,2356,
12356,456,1456,2456,12456,3456,13456,23456;129852:
LOWER LEFT BLOCK DIAGONAL LOWER MIDDLE LEFT TO LOWER :CENTRE,RIGHT;129854:
LOWER LEFT BLOCK DIAGONAL UPPER :MIDDLE LEFT TO LOWER CENTRE,MIDDLE LEFT TO LOWER RIGHT,
LEFT TO LOWER CENTRE;129857:LOWER RIGHT BLOCK DIAGONAL UPPER MIDDLE LEFT TO UPPER :CENTRE,RIGHT;
129859:LOWER RIGHT BLOCK DIAGONAL LOWER :MIDDLE LEFT TO UPPER CENTRE,MIDDLE LEFT TO UPPER RIGHT,
LEFT TO UPPER CENTRE,MIDDLE LEFT TO UPPER MIDDLE RIGHT,CENTRE TO LOWER MIDDLE RIGHT,
LEFT TO LOWER MIDDLE RIGHT,CENTRE TO UPPER MIDDLE RIGHT,LEFT TO UPPER MIDDLE RIGHT,
CENTRE TO UPPER RIGHT;129868:LOWER LEFT BLOCK DIAGONAL UPPER :CENTRE TO UPPER MIDDLE RIGHT,
LEFT TO UPPER MIDDLE RIGHT,CENTRE TO LOWER MIDDLE RIGHT,LEFT TO LOWER MIDDLE RIGHT,
CENTRE TO LOWER RIGHT,MIDDLE LEFT TO LOWER MIDDLE RIGHT;129874:
UPPER RIGHT BLOCK DIAGONAL LOWER MIDDLE LEFT TO LOWER :CENTRE,RIGHT;129876:
UPPER RIGHT BLOCK DIAGONAL UPPER :MIDDLE LEFT TO LOWER CENTRE,MIDDLE LEFT TO LOWER RIGHT,
LEFT TO LOWER CENTRE;129879:UPPER LEFT BLOCK DIAGONAL UPPER MIDDLE LEFT TO UPPER :CENTRE,RIGHT;
129881:UPPER LEFT BLOCK DIAGONAL LOWER :MIDDLE LEFT TO UPPER CENTRE,MIDDLE LEFT TO UPPER RIGHT,
LEFT TO UPPER CENTRE,MIDDLE LEFT TO UPPER MIDDLE RIGHT,CENTRE TO LOWER MIDDLE RIGHT,
LEFT TO LOWER MIDDLE RIGHT,CENTRE TO UPPER MIDDLE RIGHT,LEFT TO UPPER MIDDLE RIGHT,
CENTRE TO UPPER RIGHT;129890:UPPER RIGHT BLOCK DIAGONAL UPPER :CENTRE TO UPPER MIDDLE RIGHT,
LEFT TO UPPER MIDDLE RIGHT,CENTRE TO LOWER MIDDLE RIGHT,LEFT TO LOWER MIDDLE RIGHT,
CENTRE TO LOWER RIGHT,MIDDLE LEFT TO LOWER MIDDLE RIGHT;129896::
UPPER AND RIGHT AND LOWER TRIANGULAR THREE QUARTERS BLOCK,
LEFT AND LOWER AND RIGHT TRIANGULAR THREE QUARTERS BLOCK,
UPPER AND LEFT AND LOWER TRIANGULAR THREE QUARTERS BLOCK;129899::
LEFT AND UPPER AND RIGHT TRIANGULAR THREE QUARTERS BLOCK,LEFT TRIANGULAR ONE QUARTER BLOCK,
UPPER TRIANGULAR ONE QUARTER BLOCK,RIGHT TRIANGULAR ONE QUARTER BLOCK,
LOWER TRIANGULAR ONE QUARTER BLOCK;129904:VERTICAL ONE EIGHTH BLOCK-:2,3,4,5,6,7;129910:
HORIZONTAL ONE EIGHTH BLOCK-:2,3,4,5,6,7;129916:LEFT AND :LOWER ONE EIGHTH BLOCK,
UPPER ONE EIGHTH BLOCK;129918:RIGHT AND :UPPER ONE EIGHTH BLOCK,LOWER ONE EIGHTH BLOCK;129920::
UPPER AND LOWER ONE EIGHTH BLOCK,HORIZONTAL ONE EIGHTH BLOCK-1358;129922:UPPER :ONE QUARTER BLOCK,
THREE EIGHTHS BLOCK,FIVE EIGHTHS BLOCK,THREE QUARTERS BLOCK,SEVEN EIGHTHS BLOCK;129927:RIGHT :
ONE QUARTER BLOCK,THREE EIGHTHS BLOCK,FIVE EIGHTHS BLOCK,THREE QUARTERS BLOCK,SEVEN EIGHTHS BLOCK;
129932::LEFT HALF MEDIUM SHADE,RIGHT HALF MEDIUM SHADE,UPPER HALF MEDIUM SHADE,
LOWER HALF MEDIUM SHADE,INVERSE MEDIUM SHADE;129937:UPPER HALF :
BLOCK AND LOWER HALF INVERSE MEDIUM SHADE,INVERSE MEDIUM SHADE AND LOWER HALF BLOCK;129940::
LEFT HALF INVERSE MEDIUM SHADE AND RIGHT HALF BLOCK,CHECKER BOARD FILL,INVERSE CHECKER BOARD FILL,
HEAVY HORIZONTAL FILL;129944:UPPER :LEFT TO LOWER RIGHT FILL,RIGHT TO LOWER LEFT FILL,
AND LOWER TRIANGULAR HALF BLOCK;129947::LEFT AND RIGHT TRIANGULAR HALF BLOCK,
UPPER LEFT TRIANGULAR MEDIUM SHADE,UPPER RIGHT TRIANGULAR MEDIUM SHADE,
LOWER RIGHT TRIANGULAR MEDIUM SHADE,LOWER LEFT TRIANGULAR MEDIUM SHADE;129952:
BOX DRAWINGS LIGHT DIAGONAL :UPPER CENTRE TO MIDDLE LEFT,UPPER CENTRE TO MIDDLE RIGHT,
MIDDLE LEFT TO LOWER CENTRE,MIDDLE RIGHT TO LOWER CENTRE,
UPPER CENTRE TO MIDDLE LEFT TO LOWER CENTRE,UPPER CENTRE TO MIDDLE RIGHT TO LOWER CENTRE,
MIDDLE LEFT TO LOWER CENTRE TO MIDDLE RIGHT,MIDDLE LEFT TO UPPER CENTRE TO MIDDLE RIGHT,
UPPER CENTRE TO MIDDLE LEFT AND MIDDLE RIGHT TO LOWER CENTRE,
UPPER CENTRE TO MIDDLE RIGHT AND MIDDLE LEFT TO LOWER CENTRE,
UPPER CENTRE TO MIDDLE RIGHT TO LOWER CENTRE TO MIDDLE LEFT,
UPPER CENTRE TO MIDDLE LEFT TO LOWER CENTRE TO MIDDLE RIGHT,
MIDDLE LEFT TO UPPER CENTRE TO MIDDLE RIGHT TO LOWER CENTRE,
MIDDLE RIGHT TO UPPER CENTRE TO MIDDLE LEFT TO LOWER CENTRE,DIAMOND;129967::
BOX DRAWINGS LIGHT HORIZONTAL WITH VERTICAL STROKE,ARROWHEAD-SHAPED POINTER,INVERSE CHECK MARK,
LEFT HALF RUNNING MAN;129971::RIGHT HALF RUNNING MAN,INVERSE DOWNWARDS ARROW WITH TIP LEFTWARDS,
LEFTWARDS ARROW AND UPPER AND LOWER ONE EIGHTH BLOCK,
RIGHTWARDS ARROW AND UPPER AND LOWER ONE EIGHTH BLOCK,DOWNWARDS ARROW AND RIGHT ONE EIGHTH BLOCK;
129976::UPWARDS ARROW AND RIGHT ONE EIGHTH BLOCK,LEFT HALF FOLDER,RIGHT HALF FOLDER,
VOIDED GREEK CROSS,RIGHT OPEN SQUARED DOT;129981:NEGATIVE DIAGONAL :CROSS,
MIDDLE RIGHT TO LOWER CENTRE,DIAMOND;129984::WHITE HEAVY SALTIRE WITH ROUNDED CORNERS;129985::
LEFT THIRD WHITE RIGHT POINTING INDEX,MIDDLE THIRD WHITE RIGHT POINTING INDEX,
RIGHT THIRD WHITE RIGHT POINTING INDEX,NEGATIVE SQUARED QUESTION MARK,STICK FIGURE;129990:
STICK FIGURE :WITH ARMS RAISED,LEANING LEFT,LEANING RIGHT,WITH DRESS;129994::
WHITE UP-POINTING CHEVRON;130032:SEGMENTED DIGIT :ZERO,ONE,TWO,THREE,FOUR,FIVE,SIX,SEVEN,EIGHT,
NINE;917505::LANGUAGE TAG;917536:TAG :SPACE,EXCLAMATION MARK,QUOTATION MARK,NUMBER SIGN,
DOLLAR SIGN,PERCENT SIGN,AMPERSAND,APOSTROPHE,LEFT PARENTHESIS,RIGHT PARENTHESIS,ASTERISK,
PLUS SIGN,COMMA,HYPHEN-MINUS,FULL STOP,SOLIDUS;917552:TAG DIGIT :ZERO,ONE,TWO,THREE,FOUR,FIVE,SIX,
SEVEN,EIGHT,NINE;917562:TAG :COLON,SEMICOLON,LESS-THAN SIGN,EQUALS SIGN,GREATER-THAN SIGN,
QUESTION MARK,COMMERCIAL AT;917569:TAG LATIN CAPITAL LETTER :A,B,C,D,E,F,G,H,I,J,K,L,M,N,O,P,Q,R,
S,T,U,V,W,X,Y,Z;917595:TAG :LEFT SQUARE BRACKET,REVERSE SOLIDUS,RIGHT SQUARE BRACKET,
CIRCUMFLEX ACCENT,LOW LINE,GRAVE ACCENT;917601:TAG LATIN SMALL LETTER :A,B,C,D,E,F,G,H,I,J,K,L,M,
N,O,P,Q,R,S,T,U,V,W,X,Y,Z;917627:TAG :LEFT CURLY BRACKET,VERTICAL LINE,RIGHT CURLY BRACKET,TILDE;
917631::CANCEL TAG;917760:VARIATION SELECTOR-:17,18,19,20,21,22,23,24,25,26,27,28,29,30,31,32,33,
34,35,36,37,38,39,40,41,42,43,44,45,46,47,48,49,50,51,52,53,54,55,56,57,58,59,60,61,62,63,64,65,
66,67,68,69,70,71,72,73,74,75,76,77,78,79,80,81,82,83,84,85,86,87,88,89,90,91,92,93,94,95,96,97,
98,99,100,101,102,103,104,105,106,107,108,109,110,111,112,113,114,115,116,117,118,119,120,121,122,
123,124,125,126,127,128,129,130,131,132,133,134,135,136,137,138,139,140,141,142,143,144,145,146,
147,148,149,150,151,152,153,154,155,156,157,158,159,160,161,162,163,164,165,166,167,168,169,170,
171,172,173,174,175,176,177,178,179,180,181,182,183,184,185,186,187,188,189,190,191,192,193,194,
195,196,197,198,199,200,201,202,203,204,205,206,207,208,209,210,211,212,213,214,215,216,217,218,
219,220,221,222,223,224,225,226,227,228,229,230,231,232,233,234,235,236,237,238,239,240,241,242,
243,244,245,246,247,248,249,250,251,252,253,254,255,256;"

end Promptuary.Text.CharacterName
