/-!
The names of letters of southern Asia, Africa and America.
-/

namespace Promptuary.Text.CharacterName

/-- Runs of names: the number of the first character, what the names of the run begin with, and how
they go on for one character after another. An empty place passes over a character. -/
def southern : String :=
"2304:DEVANAGARI SIGN :INVERTED CANDRABINDU,CANDRABINDU,ANUSVARA,VISARGA;2308:DEVANAGARI LETTER :
SHORT A,A,AA,I,II,U,UU,VOCALIC R,VOCALIC L,CANDRA E,SHORT E,E,AI,CANDRA O,SHORT O,O,AU,KA,KHA,GA,
GHA,NGA,CA,CHA,JA,JHA,NYA,TTA,TTHA,DDA,DDHA,NNA,TA,THA,DA,DHA,NA,NNNA,PA,PHA,BA,BHA,MA,YA,RA,RRA,
LA,LLA,LLLA,VA,SHA,SSA,SA,HA;2362:DEVANAGARI :VOWEL SIGN OE,VOWEL SIGN OOE,SIGN NUKTA,
SIGN AVAGRAHA;2366:DEVANAGARI VOWEL SIGN :AA,I,II,U,UU,VOCALIC R,VOCALIC RR,CANDRA E,SHORT E,E,AI,
CANDRA O,SHORT O,O,AU;2381:DEVANAGARI :SIGN VIRAMA,VOWEL SIGN PRISHTHAMATRA E,VOWEL SIGN AW,OM,
STRESS SIGN UDATTA,STRESS SIGN ANUDATTA,GRAVE ACCENT,ACUTE ACCENT;2389:DEVANAGARI VOWEL SIGN :
CANDRA LONG E,UE,UUE;2392:DEVANAGARI LETTER :QA,KHHA,GHHA,ZA,DDDHA,RHA,FA,YYA,VOCALIC RR,
VOCALIC LL;2402:DEVANAGARI :VOWEL SIGN VOCALIC L,VOWEL SIGN VOCALIC LL,DANDA,DOUBLE DANDA;2406:
DEVANAGARI DIGIT :ZERO,ONE,TWO,THREE,FOUR,FIVE,SIX,SEVEN,EIGHT,NINE;2416:DEVANAGARI :
ABBREVIATION SIGN,SIGN HIGH SPACING DOT;2418:DEVANAGARI LETTER :CANDRA A,OE,OOE,AW,UE,UUE,
MARWARI DDA,ZHA,HEAVY YA,GGA,JJA,GLOTTAL STOP,DDDA,BBA;2432:BENGALI :ANJI,SIGN CANDRABINDU,
SIGN ANUSVARA,SIGN VISARGA;2437:BENGALI LETTER :A,AA,I,II,U,UU,VOCALIC R,VOCALIC L,,,E,AI,,,O,AU,
KA,KHA,GA,GHA,NGA,CA,CHA,JA,JHA,NYA,TTA,TTHA,DDA,DDHA,NNA,TA,THA,DA,DHA,NA,,PA,PHA,BA,BHA,MA,YA,
RA,,LA,,,,SHA,SSA,SA,HA;2492:BENGALI SIGN :NUKTA,AVAGRAHA;2494:BENGALI VOWEL SIGN :AA,I,II,U,UU,
VOCALIC R,VOCALIC RR,,,E,AI,,,O,AU;2509:BENGALI :SIGN VIRAMA,LETTER KHANDA TA,,,,,,,,,
AU LENGTH MARK;2524:BENGALI LETTER :RRA,RHA,,YYA,VOCALIC RR,VOCALIC LL;2530:
BENGALI VOWEL SIGN VOCALIC :L,LL;2534:BENGALI DIGIT :ZERO,ONE,TWO,THREE,FOUR,FIVE,SIX,SEVEN,EIGHT,
NINE;2544:BENGALI LETTER RA WITH :MIDDLE DIAGONAL,LOWER DIAGONAL;2546:BENGALI RUPEE :MARK,SIGN;
2548:BENGALI CURRENCY NUMERATOR :ONE,TWO,THREE,FOUR,ONE LESS THAN THE DENOMINATOR;2553:BENGALI :
CURRENCY DENOMINATOR SIXTEEN,ISSHAR,GANDA MARK,LETTER VEDIC ANUSVARA,ABBREVIATION SIGN,
SANDHI MARK;2561:GURMUKHI SIGN :ADAK BINDI,BINDI,VISARGA;2565:GURMUKHI LETTER :A,AA,I,II,U,UU,,,,,
EE,AI,,,OO,AU,KA,KHA,GA,GHA,NGA,CA,CHA,JA,JHA,NYA,TTA,TTHA,DDA,DDHA,NNA,TA,THA,DA,DHA,NA,,PA,PHA,
BA,BHA,MA,YA,RA,,LA,LLA,,VA,SHA,,SA,HA;2620::GURMUKHI SIGN NUKTA;2622:GURMUKHI VOWEL SIGN :AA,I,
II,U,UU,,,,,EE,AI,,,OO,AU;2637:GURMUKHI SIGN :VIRAMA,,,,UDAAT;2649:GURMUKHI LETTER :KHHA,GHHA,ZA,
RRA,,FA;2662:GURMUKHI DIGIT :ZERO,ONE,TWO,THREE,FOUR,FIVE,SIX,SEVEN,EIGHT,NINE;2672:GURMUKHI :
TIPPI,ADDAK,IRI,URA,EK ONKAR,SIGN YAKASH,ABBREVIATION SIGN;2689:GUJARATI SIGN :CANDRABINDU,
ANUSVARA,VISARGA;2693:GUJARATI LETTER :A,AA,I,II,U,UU,VOCALIC R,VOCALIC L;2701:GUJARATI :
VOWEL CANDRA E,,LETTER E,LETTER AI,VOWEL CANDRA O;2707:GUJARATI LETTER :O,AU,KA,KHA,GA,GHA,NGA,CA,
CHA,JA,JHA,NYA,TTA,TTHA,DDA,DDHA,NNA,TA,THA,DA,DHA,NA,,PA,PHA,BA,BHA,MA,YA,RA,,LA,LLA,,VA,SHA,SSA,
SA,HA;2748:GUJARATI SIGN :NUKTA,AVAGRAHA;2750:GUJARATI VOWEL SIGN :AA,I,II,U,UU,VOCALIC R,
VOCALIC RR,CANDRA E,,E,AI,CANDRA O,,O,AU;2765:GUJARATI :SIGN VIRAMA,,,OM;2784:
GUJARATI LETTER VOCALIC :RR,LL;2786:GUJARATI VOWEL SIGN VOCALIC :L,LL;2790:GUJARATI DIGIT :ZERO,
ONE,TWO,THREE,FOUR,FIVE,SIX,SEVEN,EIGHT,NINE;2800:GUJARATI :ABBREVIATION SIGN,RUPEE SIGN,,,,,,,,
LETTER ZHA;2810:GUJARATI SIGN :SUKUN,SHADDA,MADDAH,THREE-DOT NUKTA ABOVE,CIRCLE NUKTA ABOVE,
TWO-CIRCLE NUKTA ABOVE;2817:ORIYA SIGN :CANDRABINDU,ANUSVARA,VISARGA;2821:ORIYA LETTER :A,AA,I,II,
U,UU,VOCALIC R,VOCALIC L,,,E,AI,,,O,AU,KA,KHA,GA,GHA,NGA,CA,CHA,JA,JHA,NYA,TTA,TTHA,DDA,DDHA,NNA,
TA,THA,DA,DHA,NA,,PA,PHA,BA,BHA,MA,YA,RA,,LA,LLA,,VA,SHA,SSA,SA,HA;2876:ORIYA SIGN :NUKTA,
AVAGRAHA;2878:ORIYA VOWEL SIGN :AA,I,II,U,UU,VOCALIC R,VOCALIC RR,,,E,AI,,,O,AU;2893:ORIYA :
SIGN VIRAMA,,,,,,,,SIGN OVERLINE,AI LENGTH MARK,AU LENGTH MARK;2908:ORIYA LETTER :RRA,RHA,,YYA,
VOCALIC RR,VOCALIC LL;2914:ORIYA VOWEL SIGN VOCALIC :L,LL;2918:ORIYA DIGIT :ZERO,ONE,TWO,THREE,
FOUR,FIVE,SIX,SEVEN,EIGHT,NINE;2928:ORIYA :ISSHAR,LETTER WA;2930:ORIYA FRACTION :ONE QUARTER,
ONE HALF,THREE QUARTERS,ONE SIXTEENTH,ONE EIGHTH,THREE SIXTEENTHS;2946:TAMIL SIGN :ANUSVARA,
VISARGA;2949:TAMIL LETTER :A,AA,I,II,U,UU,,,,E,EE,AI,,O,OO,AU,KA,,,,NGA,CA,,JA,,NYA,TTA,,,,NNA,TA,
,,,NA,NNNA,PA,,,,MA,YA,RA,RRA,LA,LLA,LLLA,VA,SHA,SSA,SA,HA;3006:TAMIL VOWEL SIGN :AA,I,II,U,UU,,,,
E,EE,AI,,O,OO,AU;3021:TAMIL :SIGN VIRAMA,,,OM,,,,,,,AU LENGTH MARK;3046:TAMIL DIGIT :ZERO,ONE,TWO,
THREE,FOUR,FIVE,SIX,SEVEN,EIGHT,NINE;3056:TAMIL :NUMBER TEN,NUMBER ONE HUNDRED,
NUMBER ONE THOUSAND,DAY SIGN,MONTH SIGN,YEAR SIGN,DEBIT SIGN,CREDIT SIGN,AS ABOVE SIGN,RUPEE SIGN,
NUMBER SIGN;3072:TELUGU SIGN :COMBINING CANDRABINDU ABOVE,CANDRABINDU,ANUSVARA,VISARGA,
COMBINING ANUSVARA ABOVE;3077:TELUGU LETTER :A,AA,I,II,U,UU,VOCALIC R,VOCALIC L,,E,EE,AI,,O,OO,AU,
KA,KHA,GA,GHA,NGA,CA,CHA,JA,JHA,NYA,TTA,TTHA,DDA,DDHA,NNA,TA,THA,DA,DHA,NA,,PA,PHA,BA,BHA,MA,YA,
RA,RRA,LA,LLA,LLLA,VA,SHA,SSA,SA,HA;3132:TELUGU SIGN :NUKTA,AVAGRAHA;3134:TELUGU VOWEL SIGN :AA,I,
II,U,UU,VOCALIC R,VOCALIC RR,,E,EE,AI,,O,OO,AU;3149:TELUGU :SIGN VIRAMA,,,,,,,,LENGTH MARK,
AI LENGTH MARK;3160:TELUGU LETTER :TSA,DZA,RRRA,,,NAKAARA POLLU,,,VOCALIC RR,VOCALIC LL;3170:
TELUGU VOWEL SIGN VOCALIC :L,LL;3174:TELUGU DIGIT :ZERO,ONE,TWO,THREE,FOUR,FIVE,SIX,SEVEN,EIGHT,
NINE;3191::TELUGU SIGN SIDDHAM;3192:TELUGU FRACTION DIGIT :ZERO FOR ODD POWERS OF FOUR,
ONE FOR ODD POWERS OF FOUR,TWO FOR ODD POWERS OF FOUR,THREE FOR ODD POWERS OF FOUR,
ONE FOR EVEN POWERS OF FOUR,TWO FOR EVEN POWERS OF FOUR,THREE FOR EVEN POWERS OF FOUR;3199::
TELUGU SIGN TUUMU;3200:KANNADA SIGN :SPACING CANDRABINDU,CANDRABINDU,ANUSVARA,VISARGA,SIDDHAM;
3205:KANNADA LETTER :A,AA,I,II,U,UU,VOCALIC R,VOCALIC L,,E,EE,AI,,O,OO,AU,KA,KHA,GA,GHA,NGA,CA,
CHA,JA,JHA,NYA,TTA,TTHA,DDA,DDHA,NNA,TA,THA,DA,DHA,NA,,PA,PHA,BA,BHA,MA,YA,RA,RRA,LA,LLA,,VA,SHA,
SSA,SA,HA;3260:KANNADA SIGN :NUKTA,AVAGRAHA;3262:KANNADA VOWEL SIGN :AA,I,II,U,UU,VOCALIC R,
VOCALIC RR,,E,EE,AI,,O,OO,AU;3277:KANNADA :SIGN VIRAMA,,,,,,,,LENGTH MARK,AI LENGTH MARK;3293:
KANNADA LETTER :NAKAARA POLLU,FA,,VOCALIC RR,VOCALIC LL;3298:KANNADA VOWEL SIGN VOCALIC :L,LL;
3302:KANNADA DIGIT :ZERO,ONE,TWO,THREE,FOUR,FIVE,SIX,SEVEN,EIGHT,NINE;3313:KANNADA SIGN :
JIHVAMULIYA,UPADHMANIYA;3328:MALAYALAM SIGN :COMBINING ANUSVARA ABOVE,CANDRABINDU,ANUSVARA,
VISARGA;3332:MALAYALAM LETTER :VEDIC ANUSVARA,A,AA,I,II,U,UU,VOCALIC R,VOCALIC L,,E,EE,AI,,O,OO,
AU,KA,KHA,GA,GHA,NGA,CA,CHA,JA,JHA,NYA,TTA,TTHA,DDA,DDHA,NNA,TA,THA,DA,DHA,NA,NNNA,PA,PHA,BA,BHA,
MA,YA,RA,RRA,LA,LLA,LLLA,VA,SHA,SSA,SA,HA,TTTA;3387:MALAYALAM SIGN :VERTICAL BAR VIRAMA,
CIRCULAR VIRAMA,AVAGRAHA;3390:MALAYALAM VOWEL SIGN :AA,I,II,U,UU,VOCALIC R,VOCALIC RR,,E,EE,AI,,O,
OO,AU;3405:MALAYALAM :SIGN VIRAMA,LETTER DOT REPH,SIGN PARA,,,,,LETTER CHILLU M,LETTER CHILLU Y,
LETTER CHILLU LLL,AU LENGTH MARK;3416:MALAYALAM FRACTION :ONE ONE-HUNDRED-AND-SIXTIETH,
ONE FORTIETH,THREE EIGHTIETHS,ONE TWENTIETH,ONE TENTH,THREE TWENTIETHS,ONE FIFTH;3423:
MALAYALAM LETTER :ARCHAIC II,VOCALIC RR,VOCALIC LL;3426:MALAYALAM VOWEL SIGN VOCALIC :L,LL;3430:
MALAYALAM DIGIT :ZERO,ONE,TWO,THREE,FOUR,FIVE,SIX,SEVEN,EIGHT,NINE;3440:MALAYALAM NUMBER :TEN,
ONE HUNDRED,ONE THOUSAND;3443:MALAYALAM FRACTION :ONE QUARTER,ONE HALF,THREE QUARTERS,
ONE SIXTEENTH,ONE EIGHTH,THREE SIXTEENTHS;3449::MALAYALAM DATE MARK;3450:MALAYALAM LETTER CHILLU :
NN,N,RR,L,LL,K;3457:SINHALA SIGN :CANDRABINDU,ANUSVARAYA,VISARGAYA;3461:SINHALA LETTER :AYANNA,
AAYANNA,AEYANNA,AEEYANNA,IYANNA,IIYANNA,UYANNA,UUYANNA,IRUYANNA,IRUUYANNA,ILUYANNA,ILUUYANNA,
EYANNA,EEYANNA,AIYANNA,OYANNA,OOYANNA,AUYANNA,,,,ALPAPRAANA KAYANNA,MAHAAPRAANA KAYANNA,
ALPAPRAANA GAYANNA,MAHAAPRAANA GAYANNA,KANTAJA NAASIKYAYA,SANYAKA GAYANNA,ALPAPRAANA CAYANNA,
MAHAAPRAANA CAYANNA,ALPAPRAANA JAYANNA,MAHAAPRAANA JAYANNA,TAALUJA NAASIKYAYA,
TAALUJA SANYOOGA NAAKSIKYAYA,SANYAKA JAYANNA,ALPAPRAANA TTAYANNA,MAHAAPRAANA TTAYANNA,
ALPAPRAANA DDAYANNA,MAHAAPRAANA DDAYANNA,MUURDHAJA NAYANNA,SANYAKA DDAYANNA,ALPAPRAANA TAYANNA,
MAHAAPRAANA TAYANNA,ALPAPRAANA DAYANNA,MAHAAPRAANA DAYANNA,DANTAJA NAYANNA,,SANYAKA DAYANNA,
ALPAPRAANA PAYANNA,MAHAAPRAANA PAYANNA,ALPAPRAANA BAYANNA,MAHAAPRAANA BAYANNA,MAYANNA,
AMBA BAYANNA,YAYANNA,RAYANNA,,DANTAJA LAYANNA,,,VAYANNA,TAALUJA SAYANNA,MUURDHAJA SAYANNA,
DANTAJA SAYANNA,HAYANNA,MUURDHAJA LAYANNA,FAYANNA;3530::SINHALA SIGN AL-LAKUNA;3535:
SINHALA VOWEL SIGN :AELA-PILLA,KETTI AEDA-PILLA,DIGA AEDA-PILLA,KETTI IS-PILLA,DIGA IS-PILLA,
KETTI PAA-PILLA,,DIGA PAA-PILLA,,GAETTA-PILLA,KOMBUVA,DIGA KOMBUVA,KOMBU DEKA,
KOMBUVA HAA AELA-PILLA,KOMBUVA HAA DIGA AELA-PILLA,KOMBUVA HAA GAYANUKITTA,GAYANUKITTA;3558:
SINHALA LITH DIGIT :ZERO,ONE,TWO,THREE,FOUR,FIVE,SIX,SEVEN,EIGHT,NINE;3570:SINHALA :
VOWEL SIGN DIGA GAETTA-PILLA,VOWEL SIGN DIGA GAYANUKITTA,PUNCTUATION KUNDDALIYA;3585:
THAI CHARACTER :KO KAI,KHO KHAI,KHO KHUAT,KHO KHWAI,KHO KHON,KHO RAKHANG,NGO NGU,CHO CHAN,
CHO CHING,CHO CHANG,SO SO,CHO CHOE,YO YING,DO CHADA,TO PATAK,THO THAN,THO NANGMONTHO,THO PHUTHAO,
NO NEN,DO DEK,TO TAO,THO THUNG,THO THAHAN,THO THONG,NO NU,BO BAIMAI,PO PLA,PHO PHUNG,FO FA,
PHO PHAN,FO FAN,PHO SAMPHAO,MO MA,YO YAK,RO RUA,RU,LO LING,LU,WO WAEN,SO SALA,SO RUSI,SO SUA,
HO HIP,LO CHULA,O ANG,HO NOKHUK,PAIYANNOI,SARA A,MAI HAN-AKAT,SARA AA,SARA AM,SARA I,SARA II,
SARA UE,SARA UEE,SARA U,SARA UU,PHINTHU;3647::THAI CURRENCY SYMBOL BAHT;3648:THAI CHARACTER :
SARA E,SARA AE,SARA O,SARA AI MAIMUAN,SARA AI MAIMALAI,LAKKHANGYAO,MAIYAMOK,MAITAIKHU,MAI EK,
MAI THO,MAI TRI,MAI CHATTAWA,THANTHAKHAT,NIKHAHIT,YAMAKKAN,FONGMAN;3664:THAI DIGIT :ZERO,ONE,TWO,
THREE,FOUR,FIVE,SIX,SEVEN,EIGHT,NINE;3674:THAI CHARACTER :ANGKHANKHU,KHOMUT;3713:LAO LETTER :KO,
KHO SUNG,,KHO TAM,,PALI GHA,NGO,CO,PALI CHA,SO TAM,,PALI JHA,NYO,PALI NYA,PALI TTA,PALI TTHA,
PALI DDA,PALI DDHA,PALI NNA,DO,TO,THO SUNG,THO TAM,PALI DHA,NO,BO,PO,PHO SUNG,FO TAM,PHO TAM,
FO SUNG,PALI BHA,MO,YO,LO LING,,LO LOOT,,WO,SANSKRIT SHA,SANSKRIT SSA,SO SUNG,HO SUNG,PALI LLA,O,
HO TAM;3759::LAO ELLIPSIS;3760:LAO VOWEL SIGN :A,MAI KAN,AA,AM,I,II,Y,YY,U,UU;3770:LAO :
SIGN PALI VIRAMA,VOWEL SIGN MAI KON;3772:LAO SEMIVOWEL SIGN :LO,NYO;3776:LAO VOWEL SIGN :E,EI,O,
AY,AI;3782::LAO KO LA;3784:LAO TONE MAI :EK,THO,TI,CATAWA;3788:LAO :CANCELLATION MARK,NIGGAHITA;
3792:LAO DIGIT :ZERO,ONE,TWO,THREE,FOUR,FIVE,SIX,SEVEN,EIGHT,NINE;3804:LAO HO :NO,MO;3806:
LAO LETTER KHMU :GO,NYO;3840::TIBETAN SYLLABLE OM;3841:TIBETAN MARK GTER YIG MGO :TRUNCATED A,
-UM RNAM BCAD MA,-UM GTER TSHEG MA;3844:TIBETAN MARK :INITIAL YIG MGO MDUN MA,
CLOSING YIG MGO SGAB MA,CARET YIG MGO PHUR SHAD MA,YIG MGO TSHEG SHAD MA,SBRUL SHAD,BSKUR YIG MGO,
BKA- SHOG YIG MGO,INTERSYLLABIC TSHEG,DELIMITER TSHEG BSTAR,SHAD,NYIS SHAD,TSHEG SHAD,
NYIS TSHEG SHAD,RIN CHEN SPUNGS SHAD,RGYA GRAM SHAD,CARET -DZUD RTAGS ME LONG CAN,GTER TSHEG;3861:
TIBETAN LOGOTYPE SIGN :CHAD RTAGS,LHAG RTAGS;3863:TIBETAN ASTROLOGICAL SIGN :
SGRA GCAN -CHAR RTAGS,-KHYUD PA,SDONG TSHUGS;3866:TIBETAN SIGN RDEL :DKAR GCIG,DKAR GNYIS,
DKAR GSUM,NAG GCIG,NAG GNYIS,DKAR RDEL NAG;3872:TIBETAN DIGIT :ZERO,ONE,TWO,THREE,FOUR,FIVE,SIX,
SEVEN,EIGHT,NINE;3882:TIBETAN DIGIT HALF :ONE,TWO,THREE,FOUR,FIVE,SIX,SEVEN,EIGHT,NINE,ZERO;3892:
TIBETAN MARK :BSDUS RTAGS,NGAS BZUNG NYI ZLA,CARET -DZUD RTAGS BZHI MIG CAN,NGAS BZUNG SGOR RTAGS,
CHE MGO,TSA -PHRU,GUG RTAGS GYON,GUG RTAGS GYAS,ANG KHANG GYON,ANG KHANG GYAS;3902:TIBETAN SIGN :
YAR TSHES,MAR TSHES;3904:TIBETAN LETTER :KA,KHA,GA,GHA,NGA,CA,CHA,JA,,NYA,TTA,TTHA,DDA,DDHA,NNA,
TA,THA,DA,DHA,NA,PA,PHA,BA,BHA,MA,TSA,TSHA,DZA,DZHA,WA,ZHA,ZA,-A,YA,RA,LA,SHA,SSA,SA,HA,A,KSSA,
FIXED-FORM RA,KKA,RRA;3953:TIBETAN VOWEL SIGN :AA,I,II,U,UU,VOCALIC R,VOCALIC RR,VOCALIC L,
VOCALIC LL,E,EE,O,OO;3966:TIBETAN :SIGN RJES SU NGA RO,SIGN RNAM BCAD,VOWEL SIGN REVERSED I,
VOWEL SIGN REVERSED II,SIGN NYI ZLA NAA DA,SIGN SNA LDAN,MARK HALANTA,MARK PALUTA;3974:
TIBETAN SIGN :LCI RTAGS,YANG RTAGS,LCE TSA CAN,MCHU CAN,GRU CAN RGYINGS,GRU MED RGYINGS,
INVERTED MCHU CAN;3981:TIBETAN SUBJOINED SIGN :LCE TSA CAN,MCHU CAN,INVERTED MCHU CAN;3984:
TIBETAN SUBJOINED LETTER :KA,KHA,GA,GHA,NGA,CA,CHA,JA,,NYA,TTA,TTHA,DDA,DDHA,NNA,TA,THA,DA,DHA,NA,
PA,PHA,BA,BHA,MA,TSA,TSHA,DZA,DZHA,WA,ZHA,ZA,-A,YA,RA,LA,SHA,SSA,SA,HA,A,KSSA,FIXED-FORM WA,
FIXED-FORM YA,FIXED-FORM RA;4030:TIBETAN KU RU :KHA,KHA BZHI MIG CAN;4032:
TIBETAN CANTILLATION SIGN :HEAVY BEAT,LIGHT BEAT,CANG TE-U,SBUB -CHAL;4036:TIBETAN SYMBOL :
DRIL BU,RDO RJE,PADMA GDAN,RDO RJE RGYA GRAM,PHUR PA,NOR BU,NOR BU NYIS -KHYIL,NOR BU GSUM -KHYIL,
NOR BU BZHI -KHYIL;4046:TIBETAN SIGN RDEL NAG :RDEL DKAR,GSUM;4048:TIBETAN MARK :
BSKA- SHOG GI MGO RGYAN,MNYAM YIG GI MGO RGYAN,NYIS TSHEG,INITIAL BRDA RNYING YIG MGO MDUN MA,
CLOSING BRDA RNYING YIG MGO SGAB MA;4053::RIGHT-FACING SVASTI SIGN,LEFT-FACING SVASTI SIGN,
RIGHT-FACING SVASTI SIGN WITH DOTS,LEFT-FACING SVASTI SIGN WITH DOTS;4057:TIBETAN MARK :
LEADING MCHAN RTAGS,TRAILING MCHAN RTAGS;4096:MYANMAR LETTER :KA,KHA,GA,GHA,NGA,CA,CHA,JA,JHA,NYA,
NNYA,TTA,TTHA,DDA,DDHA,NNA,TA,THA,DA,DHA,NA,PA,PHA,BA,BHA,MA,YA,RA,LA,WA,SA,HA,LLA,A,SHAN A,I,II,
U,UU,E,MON E,O,AU;4139:MYANMAR VOWEL SIGN :TALL AA,AA,I,II,U,UU,E,AI,MON II,MON O,E ABOVE;4150:
MYANMAR SIGN :ANUSVARA,DOT BELOW,VISARGA,VIRAMA,ASAT;4155:MYANMAR CONSONANT SIGN MEDIAL :YA,RA,WA,
HA;4159::MYANMAR LETTER GREAT SA;4160:MYANMAR DIGIT :ZERO,ONE,TWO,THREE,FOUR,FIVE,SIX,SEVEN,EIGHT,
NINE;4170:MYANMAR :SIGN LITTLE SECTION,SIGN SECTION,SYMBOL LOCATIVE,SYMBOL COMPLETED,
SYMBOL AFOREMENTIONED,SYMBOL GENITIVE,LETTER SHA,LETTER SSA;4178:MYANMAR LETTER VOCALIC :R,RR,L,
LL;4182:MYANMAR VOWEL SIGN VOCALIC :R,RR,L,LL;4186:MYANMAR LETTER MON :NGA,JHA,BBA,BBE;4190:
MYANMAR CONSONANT SIGN MON MEDIAL :NA,MA,LA;4193:MYANMAR :LETTER SGAW KAREN SHA,
VOWEL SIGN SGAW KAREN EU;4195:MYANMAR TONE MARK SGAW KAREN :HATHI,KE PHO;4197:
MYANMAR LETTER WESTERN PWO KAREN :THA,PWA;4199:MYANMAR VOWEL SIGN WESTERN PWO KAREN :EU,UE;4201:
MYANMAR SIGN WESTERN PWO KAREN TONE-:1,2,3,4,5;4206:MYANMAR LETTER EASTERN PWO KAREN :NNA,YWA,
GHWA;4209:MYANMAR VOWEL SIGN :GEBA KAREN I,KAYAH OE,KAYAH U,KAYAH EE;4213:MYANMAR LETTER SHAN :KA,
KHA,GA,CA,ZA,NYA,DA,NA,PHA,FA,BA,THA,HA;4226::MYANMAR CONSONANT SIGN SHAN MEDIAL WA;4227:
MYANMAR VOWEL SIGN SHAN :AA,E,E ABOVE,FINAL Y;4231:MYANMAR SIGN SHAN TONE-:2,3,5,6;4235:
MYANMAR SIGN SHAN COUNCIL :TONE-2,TONE-3,EMPHATIC TONE;4238:MYANMAR :LETTER RUMAI PALAUNG FA,
SIGN RUMAI PALAUNG TONE-5;4240:MYANMAR SHAN DIGIT :ZERO,ONE,TWO,THREE,FOUR,FIVE,SIX,SEVEN,EIGHT,
NINE;4250:MYANMAR SIGN KHAMTI TONE-:1,3;4252:MYANMAR VOWEL SIGN AITON :A,AI;4254:
MYANMAR SYMBOL SHAN :ONE,EXCLAMATION;4256:GEORGIAN CAPITAL LETTER :AN,BAN,GAN,DON,EN,VIN,ZEN,TAN,
IN,KAN,LAS,MAN,NAR,ON,PAR,ZHAR,RAE,SAN,TAR,UN,PHAR,KHAR,GHAN,QAR,SHIN,CHIN,CAN,JIL,CIL,CHAR,XAN,
JHAN,HAE,HE,HIE,WE,HAR,HOE,,YN,,,,,,AEN;4304:GEORGIAN LETTER :AN,BAN,GAN,DON,EN,VIN,ZEN,TAN,IN,
KAN,LAS,MAN,NAR,ON,PAR,ZHAR,RAE,SAN,TAR,UN,PHAR,KHAR,GHAN,QAR,SHIN,CHIN,CAN,JIL,CIL,CHAR,XAN,JHAN,
HAE,HE,HIE,WE,HAR,HOE,FI,YN,ELIFI,TURNED GAN,AIN;4347::GEORGIAN PARAGRAPH SEPARATOR,
MODIFIER LETTER GEORGIAN NAR;4349:GEORGIAN LETTER :AEN,HARD SIGN,LABIAL SIGN;4352:
HANGUL CHOSEONG :KIYEOK,SSANGKIYEOK,NIEUN,TIKEUT,SSANGTIKEUT,RIEUL,MIEUM,PIEUP,SSANGPIEUP,SIOS,
SSANGSIOS,IEUNG,CIEUC,SSANGCIEUC,CHIEUCH,KHIEUKH,THIEUTH,PHIEUPH,HIEUH,NIEUN-KIYEOK,SSANGNIEUN,
NIEUN-TIKEUT,NIEUN-PIEUP,TIKEUT-KIYEOK,RIEUL-NIEUN,SSANGRIEUL,RIEUL-HIEUH,KAPYEOUNRIEUL,
MIEUM-PIEUP,KAPYEOUNMIEUM;4382:HANGUL CHOSEONG PIEUP-:KIYEOK,NIEUN,TIKEUT,SIOS,SIOS-KIYEOK,
SIOS-TIKEUT,SIOS-PIEUP,SSANGSIOS,SIOS-CIEUC,CIEUC,CHIEUCH,THIEUTH,PHIEUPH;4395:HANGUL CHOSEONG :
KAPYEOUNPIEUP,KAPYEOUNSSANGPIEUP;4397:HANGUL CHOSEONG SIOS-:KIYEOK,NIEUN,TIKEUT,RIEUL,MIEUM,PIEUP,
PIEUP-KIYEOK,SSANGSIOS,IEUNG,CIEUC,CHIEUCH,KHIEUKH,THIEUTH,PHIEUPH,HIEUH;4412:HANGUL CHOSEONG :
CHITUEUMSIOS,CHITUEUMSSANGSIOS,CEONGCHIEUMSIOS,CEONGCHIEUMSSANGSIOS,PANSIOS,IEUNG-KIYEOK,
IEUNG-TIKEUT,IEUNG-MIEUM,IEUNG-PIEUP,IEUNG-SIOS,IEUNG-PANSIOS,SSANGIEUNG,IEUNG-CIEUC,
IEUNG-CHIEUCH,IEUNG-THIEUTH,IEUNG-PHIEUPH,YESIEUNG,CIEUC-IEUNG,CHITUEUMCIEUC,CHITUEUMSSANGCIEUC,
CEONGCHIEUMCIEUC,CEONGCHIEUMSSANGCIEUC,CHIEUCH-KHIEUKH,CHIEUCH-HIEUH,CHITUEUMCHIEUCH,
CEONGCHIEUMCHIEUCH,PHIEUPH-PIEUP,KAPYEOUNPHIEUPH,SSANGHIEUH,YEORINHIEUH,KIYEOK-TIKEUT,NIEUN-SIOS,
NIEUN-CIEUC,NIEUN-HIEUH,TIKEUT-RIEUL,FILLER;4448:HANGUL JUNGSEONG :FILLER,A,AE,YA,YAE,EO,E,YEO,YE,
O,WA,WAE,OE,YO,U,WEO,WE,WI,YU,EU,YI,I,A-O,A-U,YA-O,YA-YO,EO-O,EO-U,EO-EU,YEO-O,YEO-U,O-EO,O-E,
O-YE,O-O,O-U,YO-YA,YO-YAE,YO-YEO,YO-O,YO-I,U-A,U-AE,U-EO-EU,U-YE,U-U,YU-A,YU-EO,YU-E,YU-YEO,YU-YE,
YU-U,YU-I,EU-U,EU-EU,YI-U,I-A,I-YA,I-O,I-U,I-EU,I-ARAEA,ARAEA,ARAEA-EO,ARAEA-U,ARAEA-I,SSANGARAEA,
A-EU,YA-U,YEO-YA,O-YA,O-YAE;4520:HANGUL JONGSEONG :KIYEOK,SSANGKIYEOK,KIYEOK-SIOS,NIEUN,
NIEUN-CIEUC,NIEUN-HIEUH,TIKEUT,RIEUL,RIEUL-KIYEOK,RIEUL-MIEUM,RIEUL-PIEUP,RIEUL-SIOS,
RIEUL-THIEUTH,RIEUL-PHIEUPH,RIEUL-HIEUH,MIEUM,PIEUP,PIEUP-SIOS,SIOS,SSANGSIOS,IEUNG,CIEUC,CHIEUCH,
KHIEUKH,THIEUTH,PHIEUPH,HIEUH,KIYEOK-RIEUL,KIYEOK-SIOS-KIYEOK,NIEUN-KIYEOK,NIEUN-TIKEUT,
NIEUN-SIOS,NIEUN-PANSIOS,NIEUN-THIEUTH,TIKEUT-KIYEOK,TIKEUT-RIEUL,RIEUL-KIYEOK-SIOS,RIEUL-NIEUN,
RIEUL-TIKEUT,RIEUL-TIKEUT-HIEUH,SSANGRIEUL;4561:HANGUL JONGSEONG RIEUL-:MIEUM-KIYEOK,MIEUM-SIOS,
PIEUP-SIOS,PIEUP-HIEUH,KAPYEOUNPIEUP,SSANGSIOS,PANSIOS,KHIEUKH,YEORINHIEUH;4570:
HANGUL JONGSEONG MIEUM-:KIYEOK,RIEUL,PIEUP,SIOS,SSANGSIOS,PANSIOS,CHIEUCH,HIEUH;4578:
HANGUL JONGSEONG :KAPYEOUNMIEUM,PIEUP-RIEUL,PIEUP-PHIEUPH,PIEUP-HIEUH,KAPYEOUNPIEUP,SIOS-KIYEOK,
SIOS-TIKEUT,SIOS-RIEUL,SIOS-PIEUP,PANSIOS,IEUNG-KIYEOK,IEUNG-SSANGKIYEOK,SSANGIEUNG,IEUNG-KHIEUKH,
YESIEUNG,YESIEUNG-SIOS,YESIEUNG-PANSIOS,PHIEUPH-PIEUP,KAPYEOUNPHIEUPH,HIEUH-NIEUN,HIEUH-RIEUL,
HIEUH-MIEUM,HIEUH-PIEUP,YEORINHIEUH,KIYEOK-NIEUN,KIYEOK-PIEUP,KIYEOK-CHIEUCH,KIYEOK-KHIEUKH,
KIYEOK-HIEUH,SSANGNIEUN;4608:ETHIOPIC SYLLABLE :HA,HU,HI,HAA,HEE,HE,HO,HOA,LA,LU,LI,LAA,LEE,LE,LO,
LWA,HHA,HHU,HHI,HHAA,HHEE,HHE,HHO,HHWA,MA,MU,MI,MAA,MEE,ME,MO,MWA,SZA,SZU,SZI,SZAA,SZEE,SZE,SZO,
SZWA,RA,RU,RI,RAA,REE,RE,RO,RWA,SA,SU,SI,SAA,SEE,SE,SO,SWA,SHA,SHU,SHI,SHAA,SHEE,SHE,SHO,SHWA,QA,
QU,QI,QAA,QEE,QE,QO,QOA,QWA,,QWI,QWAA,QWEE,QWE,,,QHA,QHU,QHI,QHAA,QHEE,QHE,QHO,,QHWA,,QHWI,QHWAA,
QHWEE,QHWE,,,BA,BU,BI,BAA,BEE,BE,BO,BWA,VA,VU,VI,VAA,VEE,VE,VO,VWA,TA,TU,TI,TAA,TEE,TE,TO,TWA,CA,
CU,CI,CAA,CEE,CE,CO,CWA,XA,XU,XI,XAA,XEE,XE,XO,XOA,XWA,,XWI,XWAA,XWEE,XWE,,,NA,NU,NI,NAA,NEE,NE,
NO,NWA,NYA,NYU,NYI,NYAA,NYEE,NYE,NYO,NYWA;4768:ETHIOPIC SYLLABLE GLOTTAL :A,U,I,AA,EE,E,O,WA;4776:
ETHIOPIC SYLLABLE :KA,KU,KI,KAA,KEE,KE,KO,KOA,KWA,,KWI,KWAA,KWEE,KWE,,,KXA,KXU,KXI,KXAA,KXEE,KXE,
KXO,,KXWA,,KXWI,KXWAA,KXWEE,KXWE,,,WA,WU,WI,WAA,WEE,WE,WO,WOA;4816:ETHIOPIC SYLLABLE PHARYNGEAL :
A,U,I,AA,EE,E,O;4824:ETHIOPIC SYLLABLE :ZA,ZU,ZI,ZAA,ZEE,ZE,ZO,ZWA,ZHA,ZHU,ZHI,ZHAA,ZHEE,ZHE,ZHO,
ZHWA,YA,YU,YI,YAA,YEE,YE,YO,YOA,DA,DU,DI,DAA,DEE,DE,DO,DWA,DDA,DDU,DDI,DDAA,DDEE,DDE,DDO,DDWA,JA,
JU,JI,JAA,JEE,JE,JO,JWA,GA,GU,GI,GAA,GEE,GE,GO,GOA,GWA,,GWI,GWAA,GWEE,GWE,,,GGA,GGU,GGI,GGAA,GGEE,
GGE,GGO,GGWAA,THA,THU,THI,THAA,THEE,THE,THO,THWA,CHA,CHU,CHI,CHAA,CHEE,CHE,CHO,CHWA,PHA,PHU,PHI,
PHAA,PHEE,PHE,PHO,PHWA,TSA,TSU,TSI,TSAA,TSEE,TSE,TSO,TSWA,TZA,TZU,TZI,TZAA,TZEE,TZE,TZO,TZOA,FA,
FU,FI,FAA,FEE,FE,FO,FWA,PA,PU,PI,PAA,PEE,PE,PO,PWA,RYA,MYA,FYA;4957:ETHIOPIC COMBINING :
GEMINATION AND VOWEL LENGTH MARK,VOWEL LENGTH MARK,GEMINATION MARK;4960:ETHIOPIC :SECTION MARK,
WORDSPACE,FULL STOP,COMMA,SEMICOLON,COLON,PREFACE COLON,QUESTION MARK,PARAGRAPH SEPARATOR;4969:
ETHIOPIC DIGIT :ONE,TWO,THREE,FOUR,FIVE,SIX,SEVEN,EIGHT,NINE;4978:ETHIOPIC NUMBER :TEN,TWENTY,
THIRTY,FORTY,FIFTY,SIXTY,SEVENTY,EIGHTY,NINETY,HUNDRED,TEN THOUSAND;4992:ETHIOPIC SYLLABLE :
SEBATBEIT MWA,MWI,MWEE,MWE,SEBATBEIT BWA,BWI,BWEE,BWE,SEBATBEIT FWA,FWI,FWEE,FWE,SEBATBEIT PWA,
PWI,PWEE,PWE;5008:ETHIOPIC TONAL MARK :YIZET,DERET,RIKRIK,SHORT RIKRIK,DIFAT,KENAT,CHIRET,HIDET,
DERET-HIDET,KURT;5024:CHEROKEE LETTER :A,E,I,O,U,V,GA,KA,GE,GI,GO,GU,GV,HA,HE,HI,HO,HU,HV,LA,LE,
LI,LO,LU,LV,MA,ME,MI,MO,MU,NA,HNA,NAH,NE,NI,NO,NU,NV,QUA,QUE,QUI,QUO,QUU,QUV,SA,S,SE,SI,SO,SU,SV,
DA,TA,DE,TE,DI,TI,DO,DU,DV,DLA,TLA,TLE,TLI,TLO,TLU,TLV,TSA,TSE,TSI,TSO,TSU,TSV,WA,WE,WI,WO,WU,WV,
YA,YE,YI,YO,YU,YV,MV;5112:CHEROKEE SMALL LETTER :YE,YI,YO,YU,YV,MV;5120:CANADIAN SYLLABICS :
HYPHEN,E,AAI,I,II,O,OO,Y-CREE OO,CARRIER EE,CARRIER I,A,AA,WE,WEST-CREE WE,WI,WEST-CREE WI,WII,
WEST-CREE WII,WO,WEST-CREE WO,WOO,WEST-CREE WOO,NASKAPI WOO,WA,WEST-CREE WA,WAA,WEST-CREE WAA,
NASKAPI WAA,AI,Y-CREE W,GLOTTAL STOP;5151:CANADIAN SYLLABICS FINAL :ACUTE,GRAVE,BOTTOM HALF RING,
TOP HALF RING,RIGHT HALF RING,RING,DOUBLE ACUTE,DOUBLE SHORT VERTICAL STROKES,MIDDLE DOT,
SHORT HORIZONTAL STROKE,PLUS,DOWN TACK;5163:CANADIAN SYLLABICS :EN,IN,ON,AN,PE,PAAI,PI,PII,PO,POO,
Y-CREE POO,CARRIER HEE,CARRIER HI,PA,PAA,PWE,WEST-CREE PWE,PWI,WEST-CREE PWI,PWII,WEST-CREE PWII,
PWO,WEST-CREE PWO,PWOO,WEST-CREE PWOO,PWA,WEST-CREE PWA,PWAA,WEST-CREE PWAA,Y-CREE PWAA,P,
WEST-CREE P,CARRIER H,TE,TAAI,TI,TII,TO,TOO,Y-CREE TOO,CARRIER DEE,CARRIER DI,TA,TAA,TWE,
WEST-CREE TWE,TWI,WEST-CREE TWI,TWII,WEST-CREE TWII,TWO,WEST-CREE TWO,TWOO,WEST-CREE TWOO,TWA,
WEST-CREE TWA,TWAA,WEST-CREE TWAA,NASKAPI TWAA,T,TTE,TTI,TTO,TTA,KE,KAAI,KI,KII,KO,KOO,Y-CREE KOO,
KA,KAA,KWE,WEST-CREE KWE,KWI,WEST-CREE KWI,KWII,WEST-CREE KWII,KWO,WEST-CREE KWO,KWOO,
WEST-CREE KWOO,KWA,WEST-CREE KWA,KWAA,WEST-CREE KWAA,NASKAPI KWAA,K,KW,SOUTH-SLAVEY KEH,
SOUTH-SLAVEY KIH,SOUTH-SLAVEY KOH,SOUTH-SLAVEY KAH,CE,CAAI,CI,CII,CO,COO,Y-CREE COO,CA,CAA,CWE,
WEST-CREE CWE,CWI,WEST-CREE CWI,CWII,WEST-CREE CWII,CWO,WEST-CREE CWO,CWOO,WEST-CREE CWOO,CWA,
WEST-CREE CWA,CWAA,WEST-CREE CWAA,NASKAPI CWAA,C,SAYISI TH,ME,MAAI,MI,MII,MO,MOO,Y-CREE MOO,MA,
MAA,MWE,WEST-CREE MWE,MWI,WEST-CREE MWI,MWII,WEST-CREE MWII,MWO,WEST-CREE MWO,MWOO,WEST-CREE MWOO,
MWA,WEST-CREE MWA,MWAA,WEST-CREE MWAA,NASKAPI MWAA,M,WEST-CREE M,MH,ATHAPASCAN M,SAYISI M,NE,NAAI,
NI,NII,NO,NOO,Y-CREE NOO,NA,NAA,NWE,WEST-CREE NWE,NWA,WEST-CREE NWA,NWAA,WEST-CREE NWAA,
NASKAPI NWAA,N,CARRIER NG,NH,LE,LAAI,LI,LII,LO,LOO,Y-CREE LOO,LA,LAA,LWE,WEST-CREE LWE,LWI,
WEST-CREE LWI,LWII,WEST-CREE LWII,LWO,WEST-CREE LWO,LWOO,WEST-CREE LWOO,LWA,WEST-CREE LWA,LWAA,
WEST-CREE LWAA,L,WEST-CREE L,MEDIAL L,SE,SAAI,SI,SII,SO,SOO,Y-CREE SOO,SA,SAA,SWE,WEST-CREE SWE,
SWI,WEST-CREE SWI,SWII,WEST-CREE SWII,SWO,WEST-CREE SWO,SWOO,WEST-CREE SWOO,SWA,WEST-CREE SWA,
SWAA,WEST-CREE SWAA,NASKAPI SWAA,S,ATHAPASCAN S,SW,BLACKFOOT S,MOOSE-CREE SK,NASKAPI SKW,
NASKAPI S-W,NASKAPI SPWA,NASKAPI STWA,NASKAPI SKWA,NASKAPI SCWA,SHE,SHI,SHII,SHO,SHOO,SHA,SHAA,
SHWE,WEST-CREE SHWE,SHWI,WEST-CREE SHWI,SHWII,WEST-CREE SHWII,SHWO,WEST-CREE SHWO,SHWOO,
WEST-CREE SHWOO,SHWA,WEST-CREE SHWA,SHWAA,WEST-CREE SHWAA,SH,YE,YAAI,YI,YII,YO,YOO,Y-CREE YOO,YA,
YAA,YWE,WEST-CREE YWE,YWI,WEST-CREE YWI,YWII,WEST-CREE YWII,YWO,WEST-CREE YWO,YWOO,WEST-CREE YWOO,
YWA,WEST-CREE YWA,YWAA,WEST-CREE YWAA,NASKAPI YWAA,Y,BIBLE-CREE Y,WEST-CREE Y,SAYISI YI,RE,
R-CREE RE,WEST-CREE LE,RAAI,RI,RII,RO,ROO,WEST-CREE LO,RA,RAA,WEST-CREE LA,RWAA,WEST-CREE RWAA,R,
WEST-CREE R,MEDIAL R,FE,FAAI,FI,FII,FO,FOO,FA,FAA,FWAA,WEST-CREE FWAA,F,THE,N-CREE THE,THI,
N-CREE THI,THII,N-CREE THII,THO,THOO,THA,THAA,THWAA,WEST-CREE THWAA,TH,TTHE,TTHI,TTHO,TTHA,TTH,
TYE,TYI,TYO,TYA,NUNAVIK HE,NUNAVIK HI,NUNAVIK HII,NUNAVIK HO,NUNAVIK HOO,NUNAVIK HA,NUNAVIK HAA,
NUNAVIK H,NUNAVUT H,HK,QAAI,QI,QII,QO,QOO,QA,QAA,Q,TLHE,TLHI,TLHO,TLHA,WEST-CREE RE,WEST-CREE RI,
WEST-CREE RO,WEST-CREE RA,NGAAI,NGI,NGII,NGO,NGOO,NGA,NGAA,NG,NNG,SAYISI SHE,SAYISI SHI,
SAYISI SHO,SAYISI SHA,WOODS-CREE THE,WOODS-CREE THI,WOODS-CREE THO,WOODS-CREE THA,WOODS-CREE TH,
LHI,LHII,LHO,LHOO,LHA,LHAA,LH,TH-CREE THE,TH-CREE THI,TH-CREE THII,TH-CREE THO,TH-CREE THOO,
TH-CREE THA,TH-CREE THAA,TH-CREE TH,AIVILIK B;5552:CANADIAN SYLLABICS BLACKFOOT :E,I,O,A,WE,WI,WO,
WA,NE,NI,NO,NA,KE,KI,KO,KA;5568:CANADIAN SYLLABICS SAYISI :HE,HI,HO,HA;5572:
CANADIAN SYLLABICS CARRIER :GHU,GHO,GHE,GHEE,GHI,GHA,RU,RO,RE,REE,RI,RA,WU,WO,WE,WEE,WI,WA,HWU,
HWO,HWE,HWEE,HWI,HWA,THU,THO,THE,THEE,THI,THA,TTU,TTO,TTE,TTEE,TTI,TTA,PU,PO,PE,PEE,PI,PA,P,GU,GO,
GE,GEE,GI,GA,KHU,KHO,KHE,KHEE,KHI,KHA,KKU,KKO,KKE,KKEE,KKI,KKA,KK,NU,NO,NE,NEE,NI,NA,MU,MO,ME,MEE,
MI,MA,YU,YO,YE,YEE,YI,YA,JU;5653:CANADIAN SYLLABICS :SAYISI JU,CARRIER JO,CARRIER JE,CARRIER JEE,
CARRIER JI,SAYISI JI;5659:CANADIAN SYLLABICS CARRIER :JA,JJU,JJO,JJE,JJEE,JJI,JJA,LU,LO,LE,LEE,LI,
LA,DLU,DLO,DLE,DLEE,DLI,DLA,LHU,LHO,LHE,LHEE,LHI,LHA,TLHU,TLHO,TLHE,TLHEE,TLHI,TLHA,TLU,TLO,TLE,
TLEE,TLI,TLA,ZU,ZO,ZE,ZEE,ZI,ZA,Z,INITIAL Z,DZU,DZO,DZE,DZEE,DZI,DZA,SU,SO,SE,SEE,SI,SA,SHU,SHO,
SHE,SHEE,SHI,SHA,SH,TSU,TSO,TSE,TSEE,TSI,TSA,CHU,CHO,CHE,CHEE,CHI,CHA,TTSU,TTSO,TTSE,TTSEE,TTSI,
TTSA;5741:CANADIAN SYLLABICS :CHI SIGN,FULL STOP,QAI,NGAI,NNGI,NNGII,NNGO,NNGOO,NNGA,NNGAA;5751:
CANADIAN SYLLABICS WOODS-CREE :THWEE,THWI,THWII,THWO,THWOO,THWA,THWAA,FINAL TH;5759::
CANADIAN SYLLABICS BLACKFOOT W,OGHAM SPACE MARK;5761:OGHAM LETTER :BEITH,LUIS,FEARN,SAIL,NION,
UATH,DAIR,TINNE,COLL,CEIRT,MUIN,GORT,NGEADAL,STRAIF,RUIS,AILM,ONN,UR,EADHADH,IODHADH,EABHADH,OR,
UILLEANN,IFIN,EAMHANCHOLL,PEITH;5787:OGHAM :FEATHER MARK,REVERSED FEATHER MARK;5792:RUNIC LETTER :
FEHU FEOH FE F,V,URUZ UR U,YR,Y,W,THURISAZ THURS THORN,ETH,ANSUZ A,OS O,AC A,AESC,
LONG-BRANCH-OSS O,SHORT-TWIG-OSS O,O,OE,ON,RAIDO RAD REID R,KAUNA,CEN,KAUN K,G,ENG,GEBO GYFU G,
GAR,WUNJO WYNN W,HAGLAZ H,HAEGL H,LONG-BRANCH-HAGALL H,SHORT-TWIG-HAGALL H,NAUDIZ NYD NAUD N,
SHORT-TWIG-NAUD N,DOTTED-N,ISAZ IS ISS I,E,JERAN J,GER,LONG-BRANCH-AR AE,SHORT-TWIG-AR A,IWAZ EOH,
PERTHO PEORTH P,ALGIZ EOLHX,SOWILO S,SIGEL LONG-BRANCH-SOL S,SHORT-TWIG-SOL S,C,Z,TIWAZ TIR TYR T,
SHORT-TWIG-TYR T,D,BERKANAN BEORC BJARKAN B,SHORT-TWIG-BJARKAN B,DOTTED-P,OPEN-P,EHWAZ EH E,
MANNAZ MAN M,LONG-BRANCH-MADR M,SHORT-TWIG-MADR M,LAUKAZ LAGU LOGR L,DOTTED-L,INGWAZ,ING,
DAGAZ DAEG D,OTHALAN ETHEL O,EAR,IOR,CWEORTH,CALC,CEALC,STAN,LONG-BRANCH-YR,SHORT-TWIG-YR,
ICELANDIC-YR,Q,X;5867:RUNIC :SINGLE PUNCTUATION,MULTIPLE PUNCTUATION,CROSS PUNCTUATION,
ARLAUG SYMBOL,TVIMADUR SYMBOL,BELGTHOR SYMBOL,LETTER K,LETTER SH,LETTER OO;5876:
RUNIC LETTER FRANKS CASKET :OS,IS,EH,AC,AESC;5888:TAGALOG LETTER :A,I,U,KA,GA,NGA,TA,DA,NA,PA,BA,
MA,YA,RA,LA,WA,SA,HA;5906:TAGALOG :VOWEL SIGN I,VOWEL SIGN U,SIGN VIRAMA,SIGN PAMUDPOD;5919::
TAGALOG LETTER ARCHAIC RA;5920:HANUNOO LETTER :A,I,U,KA,GA,NGA,TA,DA,NA,PA,BA,MA,YA,RA,LA,WA,SA,
HA;5938:HANUNOO :VOWEL SIGN I,VOWEL SIGN U,SIGN PAMUDPOD;5941:PHILIPPINE :SINGLE PUNCTUATION,
DOUBLE PUNCTUATION;5952:BUHID LETTER :A,I,U,KA,GA,NGA,TA,DA,NA,PA,BA,MA,YA,RA,LA,WA,SA,HA;5970:
BUHID VOWEL SIGN :I,U;5984:TAGBANWA LETTER :A,I,U,KA,GA,NGA,TA,DA,NA,PA,BA,MA,YA,,LA,WA,SA;6002:
TAGBANWA VOWEL SIGN :I,U;6016:KHMER LETTER :KA,KHA,KO,KHO,NGO,CA,CHA,CO,CHO,NYO,DA,TTHA,DO,TTHO,
NNO,TA,THA,TO,THO,NO,BA,PHA,PO,PHO,MO,YO,RO,LO,VO,SHA,SSO,SA,HA,LA,QA;6051:
KHMER INDEPENDENT VOWEL :QAQ,QAA,QI,QII,QU,QUK,QUU,QUUV,RY,RYY,LY,LYY,QE,QAI,QOO TYPE ONE,
QOO TYPE TWO,QAU;6068:KHMER VOWEL INHERENT :AQ,AA;6070:KHMER VOWEL SIGN :AA,I,II,Y,YY,U,UU,UA,OE,
YA,IE,E,AE,AI,OO,AU;6086:KHMER SIGN :NIKAHIT,REAHMUK,YUUKALEAPINTU,MUUSIKATOAN,TRIISAP,BANTOC,
ROBAT,TOANDAKHIAT,KAKABAT,AHSDA,SAMYOK SANNYA,VIRIAM,COENG,BATHAMASAT,KHAN,BARIYOOSAN,
CAMNUC PII KUUH,LEK TOO,BEYYAL,PHNAEK MUAN,KOOMUUT;6107:KHMER :CURRENCY SYMBOL RIEL,
SIGN AVAKRAHASANYA,SIGN ATTHACAN;6112:KHMER DIGIT :ZERO,ONE,TWO,THREE,FOUR,FIVE,SIX,SEVEN,EIGHT,
NINE;6128:KHMER SYMBOL LEK ATTAK :SON,MUOY,PII,BEI,BUON,PRAM,PRAM-MUOY,PRAM-PII,PRAM-BEI,
PRAM-BUON;6144:MONGOLIAN :BIRGA,ELLIPSIS,COMMA,FULL STOP,COLON,FOUR DOTS,TODO SOFT HYPHEN,
SIBE SYLLABLE BOUNDARY MARKER,MANCHU COMMA,MANCHU FULL STOP,NIRUGU;6155:
MONGOLIAN FREE VARIATION SELECTOR :ONE,TWO,THREE;6158:MONGOLIAN :VOWEL SEPARATOR,
FREE VARIATION SELECTOR FOUR;6160:MONGOLIAN DIGIT :ZERO,ONE,TWO,THREE,FOUR,FIVE,SIX,SEVEN,EIGHT,
NINE;6176:MONGOLIAN LETTER :A,E,I,O,U,OE,UE,EE,NA,ANG,BA,PA,QA,GA,MA,LA,SA,SHA,TA,DA,CHA,JA,YA,RA,
WA,FA,KA,KHA,TSA,ZA,HAA,ZRA,LHA,ZHI,CHI;6211:MONGOLIAN LETTER TODO :LONG VOWEL SIGN,E,I,O,U,OE,UE,
ANG,BA,PA,QA,GA,MA,TA,DA,CHA,JA,TSA,YA,WA,KA,GAA,HAA,JIA,NIA,DZA;6237:MONGOLIAN LETTER SIBE :E,I,
IY,UE,U,ANG,KA,GA,HA,PA,SHA,TA,DA,JA,FA,GAA,HAA,TSA,ZA,RAA,CHA,ZHA;6259:MONGOLIAN LETTER MANCHU :
I,KA,RA,FA,ZHA;6264::MONGOLIAN LETTER CHA WITH TWO DOTS;6272:MONGOLIAN LETTER ALI GALI :
ANUSVARA ONE,VISARGA ONE,DAMARU,UBADAMA,INVERTED UBADAMA,BALUDA,THREE BALUDA,A,I,KA,NGA,CA,TTA,
TTHA,DDA,NNA,TA,DA,PA,PHA,SSA,ZHA,ZA,AH;6296:MONGOLIAN LETTER TODO ALI GALI :TA,ZHA;6298:
MONGOLIAN LETTER MANCHU ALI GALI :GHA,NGA,CA,JHA,TTA,DDHA,TA,DHA,SSA,CYA,ZHA,ZA;6310:
MONGOLIAN LETTER :ALI GALI HALF U,ALI GALI HALF YA,MANCHU ALI GALI BHA,ALI GALI DAGALGA,
MANCHU ALI GALI LHA;6320:CANADIAN SYLLABICS :OY,AY,AAY,WAY,POY,PAY,PWOY,TAY,KAY,KWAY,MAY,NOY,NAY,
LAY,SOY,SAY,SHOY,SHAY,SHWOY,YOY,YAY,RAY,NWI,OJIBWAY NWI,NWII,OJIBWAY NWII,NWO,OJIBWAY NWO,NWOO,
OJIBWAY NWOO,RWEE,RWI,RWII,RWO,RWOO,RWA,OJIBWAY P,OJIBWAY T,OJIBWAY K,OJIBWAY C,OJIBWAY M,
OJIBWAY N,OJIBWAY S,OJIBWAY SH,EASTERN W,WESTERN W,FINAL SMALL RING,FINAL RAISED DOT,R-CREE RWE,
WEST-CREE LOO,WEST-CREE LAA,THWE,THWA,TTHWE,TTHOO,TTHAA,TLHWE,TLHOO,SAYISI SHWE,SAYISI SHOO,
SAYISI HOO,CARRIER GWU,CARRIER DENE GEE,CARRIER GAA,CARRIER GWA,SAYISI JUU,CARRIER JWA,
BEAVER DENE L,BEAVER DENE R,CARRIER DENTAL S;6400::LIMBU VOWEL-CARRIER LETTER;6401:LIMBU LETTER :
KA,KHA,GA,GHA,NGA,CA,CHA,JA,JHA,YAN,TA,THA,DA,DHA,NA,PA,PHA,BA,BHA,MA,YA,RA,LA,WA,SHA,SSA,SA,HA,
GYAN,TRA;6432:LIMBU VOWEL SIGN :A,I,U,EE,AI,OO,AU,E,O;6441:LIMBU SUBJOINED LETTER :YA,RA,WA;6448:
LIMBU SMALL LETTER :KA,NGA,ANUSVARA,TA,NA,PA,MA,RA,LA;6457:LIMBU SIGN :MUKPHRENG,KEMPHRENG,SA-I,,,
,,LOO;6468:LIMBU :EXCLAMATION MARK,QUESTION MARK;6470:LIMBU DIGIT :ZERO,ONE,TWO,THREE,FOUR,FIVE,
SIX,SEVEN,EIGHT,NINE;6480:TAI LE LETTER :KA,XA,NGA,TSA,SA,YA,TA,THA,LA,PA,PHA,MA,FA,VA,HA,QA,KHA,
TSHA,NA,A,I,EE,EH,U,OO,O,UE,E,AUE,AI,,,TONE-2,TONE-3,TONE-4,TONE-5,TONE-6;6528:
NEW TAI LUE LETTER :HIGH QA,LOW QA,HIGH KA,HIGH XA,HIGH NGA,LOW KA,LOW XA,LOW NGA,HIGH TSA,
HIGH SA,HIGH YA,LOW TSA,LOW SA,LOW YA,HIGH TA,HIGH THA,HIGH NA,LOW TA,LOW THA,LOW NA,HIGH PA,
HIGH PHA,HIGH MA,LOW PA,LOW PHA,LOW MA,HIGH FA,HIGH VA,HIGH LA,LOW FA,LOW VA,LOW LA,HIGH HA,
HIGH DA,HIGH BA,LOW HA,LOW DA,LOW BA,HIGH KVA,HIGH XVA,LOW KVA,LOW XVA,HIGH SUA,LOW SUA;6576:
NEW TAI LUE VOWEL SIGN :VOWEL SHORTENER,AA,II,U,UU,E,AE,O,OA,UE,AY,AAY,UY,OY,OAY,UEY,IY;6593:
NEW TAI LUE LETTER FINAL :V,NG,N,M,K,D,B;6600:NEW TAI LUE TONE MARK-:1,2;6608:NEW TAI LUE DIGIT :
ZERO,ONE,TWO,THREE,FOUR,FIVE,SIX,SEVEN,EIGHT,NINE;6618:NEW TAI LUE :THAM DIGIT ONE,,,,SIGN LAE,
SIGN LAEV;6624:KHMER SYMBOL :PATHAMASAT,MUOY KOET,PII KOET,BEI KOET,BUON KOET,PRAM KOET,
PRAM-MUOY KOET,PRAM-PII KOET,PRAM-BEI KOET,PRAM-BUON KOET,DAP KOET,DAP-MUOY KOET,DAP-PII KOET,
DAP-BEI KOET,DAP-BUON KOET,DAP-PRAM KOET,TUTEYASAT,MUOY ROC,PII ROC,BEI ROC,BUON ROC,PRAM ROC,
PRAM-MUOY ROC,PRAM-PII ROC,PRAM-BEI ROC,PRAM-BUON ROC,DAP ROC,DAP-MUOY ROC,DAP-PII ROC,
DAP-BEI ROC,DAP-BUON ROC,DAP-PRAM ROC;6656:BUGINESE LETTER :KA,GA,NGA,NGKA,PA,BA,MA,MPA,TA,DA,NA,
NRA,CA,JA,NYA,NYCA,YA,RA,LA,VA,SA,A,HA;6679:BUGINESE VOWEL SIGN :I,U,E,O,AE;6686:BUGINESE :
PALLAWA,END OF SECTION;6688:TAI THAM LETTER :HIGH KA,HIGH KHA,HIGH KXA,LOW KA,LOW KXA,LOW KHA,NGA,
HIGH CA,HIGH CHA,LOW CA,LOW SA,LOW CHA,NYA,RATA,HIGH RATHA,DA,LOW RATHA,RANA,HIGH TA,HIGH THA,
LOW TA,LOW THA,NA,BA,HIGH PA,HIGH PHA,HIGH FA,LOW PA,LOW FA,LOW PHA,MA,LOW YA,HIGH YA,RA,RUE,LA,
LUE,WA,HIGH SHA,HIGH SSA,HIGH SA,HIGH HA,LLA,A,LOW HA,I,II,U,UU,EE,OO,LAE,GREAT SA;6741:
TAI THAM CONSONANT SIGN :MEDIAL RA,MEDIAL LA,LA TANG LAI;6744::TAI THAM SIGN MAI KANG LAI;6745:
TAI THAM CONSONANT SIGN :FINAL NGA,LOW PA,HIGH RATHA OR LOW PA,MA,BA,SA;6752::TAI THAM SIGN SAKOT;
6753:TAI THAM VOWEL SIGN :A,MAI SAT,AA,TALL AA,I,II,UE,UUE,U,UU,O,OA BELOW,OY,E,AE,OO,AI,THAM AI,
OA ABOVE;6772:TAI THAM SIGN :MAI KANG,TONE-1,TONE-2,KHUEN TONE-3,KHUEN TONE-4,KHUEN TONE-5,
RA HAAM,MAI SAM,KHUEN-LUE KARAN;6783::TAI THAM COMBINING CRYPTOGRAMMIC DOT;6784:
TAI THAM HORA DIGIT :ZERO,ONE,TWO,THREE,FOUR,FIVE,SIX,SEVEN,EIGHT,NINE;6800:TAI THAM THAM DIGIT :
ZERO,ONE,TWO,THREE,FOUR,FIVE,SIX,SEVEN,EIGHT,NINE;6816:TAI THAM SIGN :WIANG,WIANGWAAK,SAWAN,KEOW,
HOY,DOKMAI,REVERSED ROTATED RANA,MAI YAMOK,KAAN,KAANKUU,SATKAAN,SATKAANKUU,HANG,CAANG;6832:
COMBINING :DOUBLED CIRCUMFLEX ACCENT,DIAERESIS-RING,INFINITY,DOWNWARDS ARROW,TRIPLE DOT,X-X BELOW,
WIGGLY LINE BELOW,OPEN MARK BELOW,DOUBLE OPEN MARK BELOW,LIGHT CENTRALIZATION STROKE BELOW,
STRONG CENTRALIZATION STROKE BELOW,PARENTHESES ABOVE,DOUBLE PARENTHESES ABOVE,PARENTHESES BELOW,
PARENTHESES OVERLAY,LATIN SMALL LETTER W BELOW,LATIN SMALL LETTER TURNED W BELOW,
LEFT PARENTHESIS ABOVE LEFT,RIGHT PARENTHESIS ABOVE RIGHT,LEFT PARENTHESIS BELOW LEFT,
RIGHT PARENTHESIS BELOW RIGHT,SQUARE BRACKETS ABOVE,NUMBER SIGN ABOVE,INVERTED DOUBLE ARCH ABOVE,
PLUS SIGN ABOVE,DOUBLE PLUS SIGN ABOVE,DOUBLE PLUS SIGN BELOW,TRIPLE ACUTE ACCENT;6860:
COMBINING LATIN SMALL LETTER INSULAR :G,R,T;6912:BALINESE SIGN :ULU RICEM,ULU CANDRA,CECEK,SURANG,
BISAH;6917:BALINESE LETTER :AKARA,AKARA TEDUNG,IKARA,IKARA TEDUNG,UKARA,UKARA TEDUNG,RA REPA,
RA REPA TEDUNG,LA LENGA,LA LENGA TEDUNG,EKARA,AIKARA,OKARA,OKARA TEDUNG,KA,KA MAHAPRANA,GA,
GA GORA,NGA,CA,CA LACA,JA,JA JERA,NYA,TA LATIK,TA MURDA MAHAPRANA,DA MURDA ALPAPRANA,
DA MURDA MAHAPRANA,NA RAMBAT,TA,TA TAWA,DA,DA MADU,NA,PA,PA KAPAL,BA,BA KEMBANG,MA,YA,RA,LA,WA,
SA SAGA,SA SAPA,SA,HA;6964::BALINESE SIGN REREKAN;6965:BALINESE VOWEL SIGN :TEDUNG,ULU,ULU SARI,
SUKU,SUKU ILUT,RA REPA,RA REPA TEDUNG,LA LENGA,LA LENGA TEDUNG,TALING,TALING REPA,TALING TEDUNG,
TALING REPA TEDUNG,PEPET,PEPET TEDUNG;6980::BALINESE ADEG ADEG;6981:BALINESE LETTER :KAF SASAK,
KHOT SASAK,TZIR SASAK,EF SASAK,VE SASAK,ZAL SASAK,ASYURA SASAK,ARCHAIC JNYA;6992:BALINESE DIGIT :
ZERO,ONE,TWO,THREE,FOUR,FIVE,SIX,SEVEN,EIGHT,NINE;7002:BALINESE :PANTI,PAMADA,WINDU,
CARIK PAMUNGKAH,CARIK SIKI,CARIK PAREREN,PAMENENG;7009:BALINESE MUSICAL SYMBOL :DONG,DENG,DUNG,
DANG,DANG SURANG,DING,DAENG,DEUNG,DAING,DANG GEDE;7019:BALINESE MUSICAL SYMBOL COMBINING :TEGEH,
ENDEP,KEMPUL,KEMPLI,JEGOGAN,KEMPUL WITH JEGOGAN,KEMPLI WITH JEGOGAN,BENDE,GONG;7028:
BALINESE MUSICAL SYMBOL RIGHT-HAND :OPEN DUG,OPEN DAG,CLOSED TUK,CLOSED TAK;7032:
BALINESE MUSICAL SYMBOL LEFT-HAND :OPEN PANG,OPEN PUNG,CLOSED PLAK,CLOSED PLUK,OPEN PING;7037:
BALINESE :PANTI LANTANG,PAMADA LANTANG;7040:SUNDANESE SIGN :PANYECEK,PANGLAYAR,PANGWISAD;7043:
SUNDANESE LETTER :A,I,U,AE,O,E,EU,KA,QA,GA,NGA,CA,JA,ZA,NYA,TA,DA,NA,PA,FA,VA,BA,MA,YA,RA,LA,WA,
SA,XA,HA;7073:SUNDANESE CONSONANT SIGN :PAMINGKAL,PANYAKRA,PANYIKU;7076:SUNDANESE VOWEL SIGN :
PANGHULU,PANYUKU,PANAELAENG,PANOLONG,PAMEPET,PANEULEUNG;7082:SUNDANESE :SIGN PAMAAEH,SIGN VIRAMA,
CONSONANT SIGN PASANGAN MA,CONSONANT SIGN PASANGAN WA,LETTER KHA,LETTER SYA;7088:SUNDANESE DIGIT :
ZERO,ONE,TWO,THREE,FOUR,FIVE,SIX,SEVEN,EIGHT,NINE;7098::SUNDANESE AVAGRAHA;7099:SUNDANESE LETTER :
REU,LEU,BHA,FINAL K,FINAL M;7104:BATAK LETTER :A,SIMALUNGUN A,HA,SIMALUNGUN HA,MANDAILING HA,BA,
KARO BA,PA,SIMALUNGUN PA,NA,MANDAILING NA,WA,SIMALUNGUN WA,PAKPAK WA,GA,SIMALUNGUN GA,JA,DA,RA,
SIMALUNGUN RA,MA,SIMALUNGUN MA,SOUTHERN TA,NORTHERN TA,SA,SIMALUNGUN SA,MANDAILING SA,YA,
SIMALUNGUN YA,NGA,LA,SIMALUNGUN LA,NYA,CA,NDA,MBA,I,U;7142::BATAK SIGN TOMPI;7143:
BATAK VOWEL SIGN :E,PAKPAK E,EE,I,KARO I,O,KARO O,U,U FOR SIMALUNGUN SA;7152:BATAK :
CONSONANT SIGN NG,CONSONANT SIGN H,PANGOLAT,PANONGONAN;7164:BATAK SYMBOL BINDU :NA METEK,
PINARBORAS,JUDUL,PANGOLAT;7168:LEPCHA LETTER :KA,KLA,KHA,GA,GLA,NGA,CA,CHA,JA,NYA,TA,THA,DA,NA,PA,
PLA,PHA,FA,FLA,BA,BLA,MA,MLA,TSA,TSHA,DZA,YA,RA,LA,HA,HLA,VA,SA,SHA,WA,A;7204:
LEPCHA SUBJOINED LETTER :YA,RA;7206:LEPCHA VOWEL SIGN :AA,I,O,OO,U,UU,E;7213:
LEPCHA CONSONANT SIGN :K,M,L,N,P,R,T,NYIN-DO,KANG;7222:LEPCHA SIGN :RAN,NUKTA;7227:
LEPCHA PUNCTUATION :TA-ROL,NYET THYOOM TA-ROL,CER-WA,TSHOOK CER-WA,TSHOOK;7232:LEPCHA DIGIT :ZERO,
ONE,TWO,THREE,FOUR,FIVE,SIX,SEVEN,EIGHT,NINE;7245:LEPCHA LETTER :TTA,TTHA,DDA;7248:
OL CHIKI DIGIT :ZERO,ONE,TWO,THREE,FOUR,FIVE,SIX,SEVEN,EIGHT,NINE;7258:OL CHIKI LETTER :LA,AT,AG,
ANG,AL,LAA,AAK,AAJ,AAM,AAW,LI,IS,IH,INY,IR,LU,UC,UD,UNN,UY,LE,EP,EDD,EN,ERR,LO,OTT,OB,OV,OH;7288:
OL CHIKI :MU TTUDDAG,GAAHLAA TTUDDAAG,MU-GAAHLAA TTUDDAAG,RELAA,PHAARKAA,AHAD,PUNCTUATION MUCAAD,
PUNCTUATION DOUBLE MUCAAD;7296:CYRILLIC SMALL LETTER :ROUNDED VE,LONG-LEGGED DE,NARROW O,WIDE ES,
TALL TE,THREE-LEGGED TE,TALL HARD SIGN,TALL YAT,UNBLENDED UK;7312:
GEORGIAN MTAVRULI CAPITAL LETTER :AN,BAN,GAN,DON,EN,VIN,ZEN,TAN,IN,KAN,LAS,MAN,NAR,ON,PAR,ZHAR,
RAE,SAN,TAR,UN,PHAR,KHAR,GHAN,QAR,SHIN,CHIN,CAN,JIL,CIL,CHAR,XAN,JHAN,HAE,HE,HIE,WE,HAR,HOE,FI,YN,
ELIFI,TURNED GAN,AIN,,,AEN,HARD SIGN,LABIAL SIGN;7360:SUNDANESE PUNCTUATION BINDU :SURYA,PANGLONG,
PURNAMA,CAKRA,LEU SATANGA,KA SATANGA,DA SATANGA,BA SATANGA;7376:VEDIC :TONE KARSHANA,TONE SHARA,
TONE PRENKHA,SIGN NIHSHVASA,SIGN YAJURVEDIC MIDLINE SVARITA;7381:VEDIC TONE YAJURVEDIC :
AGGRAVATED INDEPENDENT SVARITA,INDEPENDENT SVARITA,KATHAKA INDEPENDENT SVARITA;7384:VEDIC TONE :
CANDRA BELOW,YAJURVEDIC KATHAKA INDEPENDENT SVARITA SCHROEDER,DOUBLE SVARITA,TRIPLE SVARITA,
KATHAKA ANUDATTA,DOT BELOW,TWO DOTS BELOW,THREE DOTS BELOW,RIGVEDIC KASHMIRI INDEPENDENT SVARITA,
ATHARVAVEDIC INDEPENDENT SVARITA;7394:VEDIC SIGN :VISARGA SVARITA,VISARGA UDATTA,
REVERSED VISARGA UDATTA,VISARGA ANUDATTA,REVERSED VISARGA ANUDATTA,VISARGA UDATTA WITH TAIL,
VISARGA ANUDATTA WITH TAIL,ANUSVARA ANTARGOMUKHA,ANUSVARA BAHIRGOMUKHA,ANUSVARA VAMAGOMUKHA,
ANUSVARA VAMAGOMUKHA WITH TAIL,TIRYAK,HEXIFORM LONG ANUSVARA,LONG ANUSVARA,RTHANG LONG ANUSVARA,
ANUSVARA UBHAYATO MUKHA,ARDHAVISARGA,ROTATED ARDHAVISARGA;7412:VEDIC :TONE CANDRA ABOVE,
SIGN JIHVAMULIYA,SIGN UPADHMANIYA,SIGN ATIKRAMA,TONE RING ABOVE,TONE DOUBLE RING ABOVE,
SIGN DOUBLE ANUSVARA ANTARGOMUKHA;"

end Promptuary.Text.CharacterName
