/-!
The names of components of Tangut, notes, signed gestures and mathematical letters.
-/

namespace Promptuary.Text.CharacterName

/-- Runs of names: the number of the first character, what the names of the run begin with, and how
they go on for one character after another. An empty place passes over a character. -/
def formal : String :=
"100352:TANGUT COMPONENT-:001,002,003,004,005,006,007,008,009,010,011,012,013,014,015,016,017,018,
019,020,021,022,023,024,025,026,027,028,029,030,031,032,033,034,035,036,037,038,039,040,041,042,
043,044,045,046,047,048,049,050,051,052,053,054,055,056,057,058,059,060,061,062,063,064,065,066,
067,068,069,070,071,072,073,074,075,076,077,078,079,080,081,082,083,084,085,086,087,088,089,090,
091,092,093,094,095,096,097,098,099,100,101,102,103,104,105,106,107,108,109,110,111,112,113,114,
115,116,117,118,119,120,121,122,123,124,125,126,127,128,129,130,131,132,133,134,135,136,137,138,
139,140,141,142,143,144,145,146,147,148,149,150,151,152,153,154,155,156,157,158,159,160,161,162,
163,164,165,166,167,168,169,170,171,172,173,174,175,176,177,178,179,180,181,182,183,184,185,186,
187,188,189,190,191,192,193,194,195,196,197,198,199,200,201,202,203,204,205,206,207,208,209,210,
211,212,213,214,215,216,217,218,219,220,221,222,223,224,225,226,227,228,229,230,231,232,233,234,
235,236,237,238,239,240,241,242,243,244,245,246,247,248,249,250,251,252,253,254,255,256,257,258,
259,260,261,262,263,264,265,266,267,268,269,270,271,272,273,274,275,276,277,278,279,280,281,282,
283,284,285,286,287,288,289,290,291,292,293,294,295,296,297,298,299,300,301,302,303,304,305,306,
307,308,309,310,311,312,313,314,315,316,317,318,319,320,321,322,323,324,325,326,327,328,329,330,
331,332,333,334,335,336,337,338,339,340,341,342,343,344,345,346,347,348,349,350,351,352,353,354,
355,356,357,358,359,360,361,362,363,364,365,366,367,368,369,370,371,372,373,374,375,376,377,378,
379,380,381,382,383,384,385,386,387,388,389,390,391,392,393,394,395,396,397,398,399,400,401,402,
403,404,405,406,407,408,409,410,411,412,413,414,415,416,417,418,419,420,421,422,423,424,425,426,
427,428,429,430,431,432,433,434,435,436,437,438,439,440,441,442,443,444,445,446,447,448,449,450,
451,452,453,454,455,456,457,458,459,460,461,462,463,464,465,466,467,468,469,470,471,472,473,474,
475,476,477,478,479,480,481,482,483,484,485,486,487,488,489,490,491,492,493,494,495,496,497,498,
499,500,501,502,503,504,505,506,507,508,509,510,511,512,513,514,515,516,517,518,519,520,521,522,
523,524,525,526,527,528,529,530,531,532,533,534,535,536,537,538,539,540,541,542,543,544,545,546,
547,548,549,550,551,552,553,554,555,556,557,558,559,560,561,562,563,564,565,566,567,568,569,570,
571,572,573,574,575,576,577,578,579,580,581,582,583,584,585,586,587,588,589,590,591,592,593,594,
595,596,597,598,599,600,601,602,603,604,605,606,607,608,609,610,611,612,613,614,615,616,617,618,
619,620,621,622,623,624,625,626,627,628,629,630,631,632,633,634,635,636,637,638,639,640,641,642,
643,644,645,646,647,648,649,650,651,652,653,654,655,656,657,658,659,660,661,662,663,664,665,666,
667,668,669,670,671,672,673,674,675,676,677,678,679,680,681,682,683,684,685,686,687,688,689,690,
691,692,693,694,695,696,697,698,699,700,701,702,703,704,705,706,707,708,709,710,711,712,713,714,
715,716,717,718,719,720,721,722,723,724,725,726,727,728,729,730,731,732,733,734,735,736,737,738,
739,740,741,742,743,744,745,746,747,748,749,750,751,752,753,754,755,756,757,758,759,760,761,762,
763,764,765,766,767,768;110576:KATAKANA LETTER MINNAN TONE-:2,3,4,5,,7,8;110583:
KATAKANA LETTER MINNAN NASALIZED TONE-:1,2,3,4,5,,7,8;110592::KATAKANA LETTER ARCHAIC E,
HIRAGANA LETTER ARCHAIC YE;110594:HENTAIGANA LETTER :A-1,A-2,A-3,A-WO,I-1,I-2,I-3,I-4,U-1,U-2,U-3,
U-4,U-5,E-2,E-3,E-4,E-5,E-6,O-1,O-2,O-3,KA-1,KA-2,KA-3,KA-4,KA-5,KA-6,KA-7,KA-8,KA-9,KA-10,KA-11,
KA-KE,KI-1,KI-2,KI-3,KI-4,KI-5,KI-6,KI-7,KI-8,KU-1,KU-2,KU-3,KU-4,KU-5,KU-6,KU-7,KE-1,KE-2,KE-3,
KE-4,KE-5,KE-6,KO-1,KO-2,KO-3,KO-KI,SA-1,SA-2,SA-3,SA-4,SA-5,SA-6,SA-7,SA-8,SI-1,SI-2,SI-3,SI-4,
SI-5,SI-6,SU-1,SU-2,SU-3,SU-4,SU-5,SU-6,SU-7,SU-8,SE-1,SE-2,SE-3,SE-4,SE-5,SO-1,SO-2,SO-3,SO-4,
SO-5,SO-6,SO-7,TA-1,TA-2,TA-3,TA-4,TI-1,TI-2,TI-3,TI-4,TI-5,TI-6,TI-7,TU-1,TU-2,TU-3,TU-4,TU-TO,
TE-1,TE-2,TE-3,TE-4,TE-5,TE-6,TE-7,TE-8,TE-9,TO-1,TO-2,TO-3,TO-4,TO-5,TO-6,TO-RA,NA-1,NA-2,NA-3,
NA-4,NA-5,NA-6,NA-7,NA-8,NA-9,NI-1,NI-2,NI-3,NI-4,NI-5,NI-6,NI-7,NI-TE,NU-1,NU-2,NU-3,NE-1,NE-2,
NE-3,NE-4,NE-5,NE-6,NE-KO,NO-1,NO-2,NO-3,NO-4,NO-5,HA-1,HA-2,HA-3,HA-4,HA-5,HA-6,HA-7,HA-8,HA-9,
HA-10,HA-11,HI-1,HI-2,HI-3,HI-4,HI-5,HI-6,HI-7,HU-1,HU-2,HU-3,HE-1,HE-2,HE-3,HE-4,HE-5,HE-6,HE-7,
HO-1,HO-2,HO-3,HO-4,HO-5,HO-6,HO-7,HO-8,MA-1,MA-2,MA-3,MA-4,MA-5,MA-6,MA-7,MI-1,MI-2,MI-3,MI-4,
MI-5,MI-6,MI-7,MU-1,MU-2,MU-3,MU-4,ME-1,ME-2,ME-MA,MO-1,MO-2,MO-3,MO-4,MO-5,MO-6,YA-1,YA-2,YA-3,
YA-4,YA-5,YA-YO,YU-1,YU-2,YU-3,YU-4,YO-1,YO-2,YO-3,YO-4,YO-5,YO-6,RA-1,RA-2,RA-3,RA-4,RI-1,RI-2,
RI-3,RI-4,RI-5,RI-6,RI-7,RU-1,RU-2,RU-3,RU-4,RU-5,RU-6,RE-1,RE-2,RE-3,RE-4,RO-1,RO-2,RO-3,RO-4,
RO-5,RO-6,WA-1,WA-2,WA-3,WA-4,WA-5,WI-1,WI-2,WI-3,WI-4,WI-5,WE-1,WE-2,WE-3,WE-4,WO-1,WO-2,WO-3,
WO-4,WO-5,WO-6,WO-7,N-MU-MO-1,N-MU-MO-2;110879::HIRAGANA LETTER ARCHAIC WU;110880:
KATAKANA LETTER ARCHAIC :YI,YE,WU;110928:HIRAGANA LETTER SMALL :WI,WE,WO;110948:
KATAKANA LETTER SMALL :WI,WE,WO,N;113664:DUPLOYAN LETTER :H,X,P,T,F,K,L,B,D,V,G,R,P N,D S,F N,K M,
R S,TH,SLOAN DH,DH,KK,SLOAN J,HL,LH,RH,M,N,J,S,M N,N M,J M,S J,M WITH DOT,N WITH DOT,J WITH DOT,
J WITH DOTS INSIDE AND ABOVE,S WITH DOT,S WITH DOT BELOW,M S,N S,J S,S S,M N S,N M S,J M S,S J S,
J S WITH DOT,J N,J N S,S T,S T R,S P,S P R,T S,T R S,W,WH,W R,S N,S M,K R S,G R S,S K,S K R,A,
SLOAN OW,OA,O,AOU,I,E,IE,SHORT I,UI,EE,SLOAN EH,ROMANIAN I,SLOAN EE,LONG I,YE,U,EU,XW,U N,LONG U,
ROMANIAN U,UH,SLOAN U,OOH,OW,OU,WA,WO,WI,WEI,WOW,NASAL U,NASAL O,NASAL I,NASAL A,PERNIN AN,
PERNIN AM,SLOAN EN,SLOAN AN,SLOAN ON,VOCALIC M;113776:DUPLOYAN AFFIX :LEFT HORIZONTAL SECANT,
MID HORIZONTAL SECANT,RIGHT HORIZONTAL SECANT,LOW VERTICAL SECANT,MID VERTICAL SECANT,
HIGH VERTICAL SECANT;113782:DUPLOYAN AFFIX ATTACHED :SECANT,LEFT-TO-RIGHT SECANT,TANGENT,TAIL,
E HOOK,I HOOK,TANGENT HOOK;113792:DUPLOYAN AFFIX HIGH :ACUTE,TIGHT ACUTE,GRAVE,LONG GRAVE,DOT,
CIRCLE,LINE,WAVE,VERTICAL;113808:DUPLOYAN AFFIX LOW :ACUTE,TIGHT ACUTE,GRAVE,LONG GRAVE,DOT,
CIRCLE,LINE,WAVE,VERTICAL,ARROW;113820:DUPLOYAN :SIGN O WITH CROSS,THICK LETTER SELECTOR,
DOUBLE MARK,PUNCTUATION CHINOOK FULL STOP;113824:SHORTHAND FORMAT :LETTER OVERLAP,
CONTINUING OVERLAP,DOWN STEP,UP STEP;118528:ZNAMENNY COMBINING MARK :
GORAZDO NIZKO S KRYZHEM ON LEFT,NIZKO S KRYZHEM ON LEFT,TSATA ON LEFT,GORAZDO NIZKO ON LEFT,
NIZKO ON LEFT,SREDNE ON LEFT,MALO POVYSHE ON LEFT,POVYSHE ON LEFT,VYSOKO ON LEFT,
MALO POVYSHE S KHOKHLOM ON LEFT,POVYSHE S KHOKHLOM ON LEFT,VYSOKO S KHOKHLOM ON LEFT,
GORAZDO NIZKO S KRYZHEM ON RIGHT,NIZKO S KRYZHEM ON RIGHT,TSATA ON RIGHT,GORAZDO NIZKO ON RIGHT,
NIZKO ON RIGHT,SREDNE ON RIGHT,MALO POVYSHE ON RIGHT,POVYSHE ON RIGHT,VYSOKO ON RIGHT,
MALO POVYSHE S KHOKHLOM ON RIGHT,POVYSHE S KHOKHLOM ON RIGHT,VYSOKO S KHOKHLOM ON RIGHT,
TSATA S KRYZHEM,MALO POVYSHE S KRYZHEM,STRANNO MALO POVYSHE,POVYSHE S KRYZHEM,POVYSHE STRANNO,
VYSOKO S KRYZHEM,MALO POVYSHE STRANNO,GORAZDO VYSOKO,ZELO,ON,RAVNO,TIKHAYA,BORZAYA,UDARKA,
PODVERTKA,LOMKA,KUPNAYA,KACHKA,ZEVOK,SKOBA,RAZSEKA,KRYZH ON LEFT;118576:
ZNAMENNY COMBINING TONAL RANGE MARK :MRACHNO,SVETLO,TRESVETLO;118579:ZNAMENNY COMBINING MARK :
ZADERZHKA,DEMESTVENNY ZADERZHKA,OTSECHKA,PODCHASHIE,PODCHASHIE WITH VERTICAL STROKE,CHASHKA,
CHASHKA POLNAYA,OBLACHKO,SOROCHYA NOZHKA,TOCHKA,DVOETOCHIE;118590:ZNAMENNY COMBINING :
ATTACHING VERTICAL OMET,MARK CURVED OMET,MARK KRYZH,LOWER TONAL RANGE INDICATOR;118594:
ZNAMENNY PRIZNAK MODIFIER :LEVEL-2,LEVEL-3,DIRECTION FLIP,KRYZH,ROG;118608:ZNAMENNY NEUME :KRYUK,
KRYUK TIKHY,PARAKLIT,DVA V CHELNU,KLYUCH,ZANOZHEK,STOPITSA,STOPITSA S OCHKOM,PEREVODKA,
PEREVODKA NEPOSTOYANNAYA,STOPITSA WITH SOROCHYA NOZHKA,CHELYUSTKA,PALKA,ZAPYATAYA;118622:
ZNAMENNY NEUME GOLUBCHIK :BORZY,TIKHY,MRACHNY,SVETLY,TRESVETLY;118627:ZNAMENNY NEUME VRAKHIYA :
PROSTAYA,MRACHNAYA,SVETLAYA,TRESVETLAYA;118631:ZNAMENNY NEUME VRAKHIYA KLYUCHEVAYA :PROSTAYA,
MRACHNAYA,SVETLAYA,TRESVETLAYA;118635:ZNAMENNY NEUME :DOUBLE ZAPYATAYA,REVERSED CHELYUSTKA,
DERBITSA,KHAMILO,CHASHKA,PODCHASHIE,SKAMEYTSA MRACHNAYA,SKAMEYTSA SVETLAYA,SKAMEYTSA TRESVETLAYA,
SKAMEYTSA TIKHAYA,DEMESTVENNY KLYUCH,SKAMEYTSA KLYUCHEVAYA SVETLAYA,
SKAMEYTSA KLYUCHENEPOSTOYANNAYA,SKAMEYTSA KLYUCHEVAYA TIKHAYA;118649:
ZNAMENNY NEUME SKAMEYTSA DVOECHELNAYA :PROSTAYA,SVETLAYA,NEPOSTOYANNAYA,KLYUCHEVAYA;118653:
ZNAMENNY NEUME :SLOZHITIE,SLOZHITIE S ZAPYATOY,SLOZHITIE ZAKRYTOE,SLOZHITIE S KRYZHEM,KRYZH,ROG,
FITA,KOBYLA,ZMEYTSA,STATYA;118663:ZNAMENNY NEUME STATYA :S ZAPYATOY,S KRYZHEM,
S ZAPYATOY I KRYZHEM,S KRYZHEM I ZAPYATOY,ZAKRYTAYA,ZAKRYTAYA S ZAPYATOY,S ROGOM,
S DVUMYA ZAPYATYMI,S ZAPYATOY I PODCHASHIEM;118672:ZNAMENNY NEUME :POLKULIZMY,
STATYA NEPOSTOYANNAYA;118674:ZNAMENNY NEUME STRELA :PROSTAYA,MRACHNOTIKHAYA,KRYZHEVAYA,
POLUPOVODNAYA,POVODNAYA,NEPOSTOYANNAYA,KLYUCHEPOVODNAYA,KLYUCHENEPOSTOYANNAYA,TIKHAYA PUTNAYA,
DVOECHELNAYA,DVOECHELNOKRYZHEVAYA,DVOECHELNOPOVODNAYA,DVOECHELNAYA KLYUCHEVAYA,
DVOECHELNOPOVODNAYA KLYUCHEVAYA,GROMNAYA WITH SINGLE ZAPYATAYA,
GROMOPOVODNAYA WITH SINGLE ZAPYATAYA,GROMNAYA,GROMOPOVODNAYA,GROMOPOVODNAYA WITH DOUBLE ZAPYATAYA,
GROMOKRYZHEVAYA,GROMOKRYZHEVAYA POVODNAYA;118695:ZNAMENNY NEUME :MECHIK,MECHIK POVODNY,
MECHIK KLYUCHEVOY,MECHIK KLYUCHEPOVODNY,MECHIK KLYUCHENEPOSTOYANNY,STRELA TRYASOGLASNAYA,
STRELA TRYASOPOVODNAYA,STRELA TRYASOSTRELNAYA,OSOKA,OSOKA SVETLAYA,OSOKA TRESVETLAYA,
OSOKA KRYUKOVAYA SVETLAYA,OSOKA KLYUCHEVAYA SVETLAYA,OSOKA KLYUCHEVAYA NEPOSTOYANNAYA,
STRELA KRYUKOVAYA;118710:ZNAMENNY NEUME STRELA KRYUKOVAYA :POVODNAYA,
GROMNAYA WITH SINGLE ZAPYATAYA,GROMOPOVODNAYA WITH SINGLE ZAPYATAYA,GROMNAYA,GROMOPOVODNAYA,
GROMOPOVODNAYA WITH DOUBLE ZAPYATAYA,GROMOKRYZHEVAYA,GROMOKRYZHEVAYA POVODNAYA,TRYASKA;118719:
ZNAMENNY NEUME :KUFISMA,OBLAKO,DUDA,NEMKA,PAUK;118784:BYZANTINE MUSICAL SYMBOL :PSILI,DASEIA,
PERISPOMENI,OXEIA EKFONITIKON,OXEIA DIPLI,VAREIA EKFONITIKON,VAREIA DIPLI,KATHISTI,SYRMATIKI,
PARAKLITIKI,YPOKRISIS,YPOKRISIS DIPLI,KREMASTI,APESO EKFONITIKON,EXO EKFONITIKON,TELEIA,KENTIMATA,
APOSTROFOS,APOSTROFOS DIPLI,SYNEVMA,THITA,OLIGON ARCHAION,GORGON ARCHAION,PSILON,CHAMILON,VATHY,
ISON ARCHAION,KENTIMA ARCHAION,KENTIMATA ARCHAION,SAXIMATA,PARICHON,STAVROS APODEXIA,
OXEIAI ARCHAION,VAREIAI ARCHAION,APODERMA ARCHAION,APOTHEMA,KLASMA,REVMA,PIASMA ARCHAION,TINAGMA,
ANATRICHISMA,SEISMA,SYNAGMA ARCHAION,SYNAGMA META STAVROU,OYRANISMA ARCHAION,THEMA,LEMOI,DYO,TRIA,
TESSERA,KRATIMATA,APESO EXO NEO,FTHORA ARCHAION,IMIFTHORA,TROMIKON ARCHAION,KATAVA TROMIKON,
PELASTON,PSIFISTON,KONTEVMA,CHOREVMA ARCHAION,RAPISMA,PARAKALESMA ARCHAION,PARAKLITIKI ARCHAION,
ICHADIN,NANA,PETASMA,KONTEVMA ALLO,TROMIKON ALLO,STRAGGISMATA,GRONTHISMATA,ISON NEO,OLIGON NEO,
OXEIA NEO,PETASTI,KOUFISMA,PETASTOKOUFISMA,KRATIMOKOUFISMA,PELASTON NEO,KENTIMATA NEO ANO,
KENTIMA NEO ANO,YPSILI,APOSTROFOS NEO,APOSTROFOI SYNDESMOS NEO,YPORROI,KRATIMOYPORROON,ELAFRON,
CHAMILI,MIKRON ISON,VAREIA NEO,PIASMA NEO,PSIFISTON NEO,OMALON,ANTIKENOMA,LYGISMA,PARAKLITIKI NEO,
PARAKALESMA NEO,ETERON PARAKALESMA,KYLISMA,ANTIKENOKYLISMA,TROMIKON NEO,EKSTREPTON,SYNAGMA NEO,
SYRMA,CHOREVMA NEO,EPEGERMA,SEISMA NEO,XIRON KLASMA,TROMIKOPSIFISTON,PSIFISTOLYGISMA,
TROMIKOLYGISMA,TROMIKOPARAKALESMA,PSIFISTOPARAKALESMA,TROMIKOSYNAGMA,PSIFISTOSYNAGMA,
GORGOSYNTHETON,ARGOSYNTHETON,ETERON ARGOSYNTHETON,OYRANISMA NEO,THEMATISMOS ESO,THEMATISMOS EXO,
THEMA APLOUN,THES KAI APOTHES,KATAVASMA,ENDOFONON,YFEN KATO,YFEN ANO,STAVROS,KLASMA ANO,
DIPLI ARCHAION,KRATIMA ARCHAION,KRATIMA ALLO,KRATIMA NEO,APODERMA NEO,APLI,DIPLI,TRIPLI,TETRAPLI,
KORONIS,LEIMMA ENOS CHRONOU,LEIMMA DYO CHRONON,LEIMMA TRION CHRONON,LEIMMA TESSARON CHRONON,
LEIMMA IMISEOS CHRONOU,GORGON NEO ANO,GORGON PARESTIGMENON ARISTERA,GORGON PARESTIGMENON DEXIA,
DIGORGON,DIGORGON PARESTIGMENON ARISTERA KATO,DIGORGON PARESTIGMENON ARISTERA ANO,
DIGORGON PARESTIGMENON DEXIA,TRIGORGON,ARGON,IMIDIARGON,DIARGON;118938:
BYZANTINE MUSICAL SYMBOL AGOGI :POLI ARGI,ARGOTERI,ARGI,METRIA,MESI,GORGI,GORGOTERI,POLI GORGI;
118946:BYZANTINE MUSICAL SYMBOL MARTYRIA :PROTOS ICHOS,ALLI PROTOS ICHOS,DEYTEROS ICHOS,
ALLI DEYTEROS ICHOS,TRITOS ICHOS,TRIFONIAS,TETARTOS ICHOS,TETARTOS LEGETOS ICHOS,LEGETOS ICHOS,
PLAGIOS ICHOS;118956:BYZANTINE MUSICAL SYMBOL :ISAKIA TELOUS ICHIMATOS,
APOSTROFOI TELOUS ICHIMATOS,FANEROSIS TETRAFONIAS,FANEROSIS MONOFONIAS,FANEROSIS DIFONIAS,
MARTYRIA VARYS ICHOS,MARTYRIA PROTOVARYS ICHOS,MARTYRIA PLAGIOS TETARTOS ICHOS,
GORTHMIKON N APLOUN,GORTHMIKON N DIPLOUN,ENARXIS KAI FTHORA VOU,IMIFONON,IMIFTHORON;118969:
BYZANTINE MUSICAL SYMBOL FTHORA :ARCHAION DEYTEROU ICHOU,DIATONIKI PA,DIATONIKI NANA,NAOS ICHOS,
DIATONIKI DI,SKLIRON DIATONON DI,DIATONIKI KE,DIATONIKI ZO,DIATONIKI NI KATO,DIATONIKI NI ANO,
MALAKON CHROMA DIFONIAS,MALAKON CHROMA MONOFONIAS;118981:BYZANTINE MUSICAL SYMBOL :
FHTORA SKLIRON CHROMA VASIS,FTHORA SKLIRON CHROMA SYNAFI,FTHORA NENANO,CHROA ZYGOS,CHROA KLITON,
CHROA SPATHI,FTHORA I YFESIS TETARTIMORION,FTHORA ENARMONIOS ANTIFONIA,YFESIS TRITIMORION,
DIESIS TRITIMORION,DIESIS TETARTIMORION,DIESIS APLI DYO DODEKATA,
DIESIS MONOGRAMMOS TESSERA DODEKATA,DIESIS DIGRAMMOS EX DODEKATA,DIESIS TRIGRAMMOS OKTO DODEKATA,
YFESIS APLI DYO DODEKATA,YFESIS MONOGRAMMOS TESSERA DODEKATA,YFESIS DIGRAMMOS EX DODEKATA,
YFESIS TRIGRAMMOS OKTO DODEKATA,GENIKI DIESIS,GENIKI YFESIS,DIASTOLI APLI MIKRI,
DIASTOLI APLI MEGALI,DIASTOLI DIPLI,DIASTOLI THESEOS,SIMANSIS THESEOS,SIMANSIS THESEOS DISIMOU,
SIMANSIS THESEOS TRISIMOU,SIMANSIS THESEOS TETRASIMOU,SIMANSIS ARSEOS,SIMANSIS ARSEOS DISIMOU,
SIMANSIS ARSEOS TRISIMOU,SIMANSIS ARSEOS TETRASIMOU,DIGRAMMA GG,DIFTOGGOS OU,STIGMA,ARKTIKO PA,
ARKTIKO VOU,ARKTIKO GA,ARKTIKO DI,ARKTIKO KE,ARKTIKO ZO,ARKTIKO NI,KENTIMATA NEO MESO,
KENTIMA NEO MESO,KENTIMATA NEO KATO,KENTIMA NEO KATO,KLASMA KATO,GORGON NEO KATO;119040:
MUSICAL SYMBOL :SINGLE BARLINE,DOUBLE BARLINE,FINAL BARLINE,REVERSE FINAL BARLINE,DASHED BARLINE,
SHORT BARLINE,LEFT REPEAT SIGN,RIGHT REPEAT SIGN,REPEAT DOTS,DAL SEGNO,DA CAPO,SEGNO,CODA,
REPEATED FIGURE-1,REPEATED FIGURE-2,REPEATED FIGURE-3,FERMATA,FERMATA BELOW,BREATH MARK,CAESURA,
BRACE,BRACKET,ONE-LINE STAFF,TWO-LINE STAFF,THREE-LINE STAFF,FOUR-LINE STAFF,FIVE-LINE STAFF,
SIX-LINE STAFF,SIX-STRING FRETBOARD,FOUR-STRING FRETBOARD,G CLEF,G CLEF OTTAVA ALTA,
G CLEF OTTAVA BASSA,C CLEF,F CLEF,F CLEF OTTAVA ALTA,F CLEF OTTAVA BASSA,DRUM CLEF-1,DRUM CLEF-2,,
,MULTIPLE MEASURE REST,DOUBLE SHARP,DOUBLE FLAT,FLAT UP,FLAT DOWN,NATURAL UP,NATURAL DOWN,
SHARP UP,SHARP DOWN,QUARTER TONE SHARP,QUARTER TONE FLAT,COMMON TIME,CUT TIME,OTTAVA ALTA,
OTTAVA BASSA,QUINDICESIMA ALTA,QUINDICESIMA BASSA,MULTI REST,WHOLE REST,HALF REST,QUARTER REST,
EIGHTH REST,SIXTEENTH REST,THIRTY-SECOND REST,SIXTY-FOURTH REST,ONE HUNDRED TWENTY-EIGHTH REST,
X NOTEHEAD,PLUS NOTEHEAD,CIRCLE X NOTEHEAD,SQUARE NOTEHEAD WHITE,SQUARE NOTEHEAD BLACK;119112:
MUSICAL SYMBOL TRIANGLE NOTEHEAD :UP WHITE,UP BLACK,LEFT WHITE,LEFT BLACK,RIGHT WHITE,RIGHT BLACK,
DOWN WHITE,DOWN BLACK,UP RIGHT WHITE,UP RIGHT BLACK;119122:MUSICAL SYMBOL :MOON NOTEHEAD WHITE,
MOON NOTEHEAD BLACK,TRIANGLE-ROUND NOTEHEAD DOWN WHITE,TRIANGLE-ROUND NOTEHEAD DOWN BLACK,
PARENTHESIS NOTEHEAD,VOID NOTEHEAD,NOTEHEAD BLACK,NULL NOTEHEAD,CLUSTER NOTEHEAD WHITE,
CLUSTER NOTEHEAD BLACK,BREVE,WHOLE NOTE,HALF NOTE,QUARTER NOTE,EIGHTH NOTE,SIXTEENTH NOTE,
THIRTY-SECOND NOTE,SIXTY-FOURTH NOTE,ONE HUNDRED TWENTY-EIGHTH NOTE;119141:
MUSICAL SYMBOL COMBINING :STEM,SPRECHGESANG STEM,TREMOLO-1,TREMOLO-2,TREMOLO-3;119146:
MUSICAL SYMBOL FINGERED TREMOLO-:1,2,3;119149:MUSICAL SYMBOL COMBINING :AUGMENTATION DOT,FLAG-1,
FLAG-2,FLAG-3,FLAG-4,FLAG-5;119155:MUSICAL SYMBOL :BEGIN BEAM,END BEAM,BEGIN TIE,END TIE,
BEGIN SLUR,END SLUR,BEGIN PHRASE,END PHRASE;119163:MUSICAL SYMBOL COMBINING :ACCENT,STACCATO,
TENUTO,STACCATISSIMO,MARCATO,MARCATO-STACCATO,ACCENT-STACCATO,LOURE;119171:
MUSICAL SYMBOL ARPEGGIATO :UP,DOWN;119173:MUSICAL SYMBOL COMBINING :DOIT,RIP,FLIP,SMEAR,BEND,
DOUBLE TONGUE,TRIPLE TONGUE;119180:MUSICAL SYMBOL :RINFORZANDO,SUBITO,Z,PIANO,MEZZO,FORTE,
CRESCENDO,DECRESCENDO,GRACE NOTE SLASH,GRACE NOTE NO SLASH,TR,TURN,INVERTED TURN,TURN SLASH,
TURN UP;119195:MUSICAL SYMBOL ORNAMENT STROKE-:1,2,3,4,5,6,7,8,9,10,11;119206:MUSICAL SYMBOL :
HAUPTSTIMME,NEBENSTIMME,END OF STIMME,DEGREE SLASH,COMBINING DOWN BOW,COMBINING UP BOW,
COMBINING HARMONIC,COMBINING SNAP PIZZICATO,PEDAL MARK,PEDAL UP MARK,HALF PEDAL MARK,GLISSANDO UP,
GLISSANDO DOWN,WITH FINGERNAILS,DAMP,DAMP ALL,MAXIMA,LONGA,BREVIS,SEMIBREVIS WHITE,
SEMIBREVIS BLACK,MINIMA,MINIMA BLACK,SEMIMINIMA WHITE,SEMIMINIMA BLACK,FUSA WHITE,FUSA BLACK,
LONGA PERFECTA REST,LONGA IMPERFECTA REST,BREVIS REST,SEMIBREVIS REST,MINIMA REST,SEMIMINIMA REST;
119239:MUSICAL SYMBOL TEMPUS PERFECTUM CUM PROLATIONE :PERFECTA,IMPERFECTA,PERFECTA DIMINUTION-1;
119242:MUSICAL SYMBOL TEMPUS IMPERFECTUM CUM PROLATIONE :PERFECTA,IMPERFECTA,
IMPERFECTA DIMINUTION-1,IMPERFECTA DIMINUTION-2,IMPERFECTA DIMINUTION-3;119247:MUSICAL SYMBOL :
CROIX,GREGORIAN C CLEF,GREGORIAN F CLEF,SQUARE B,VIRGA,PODATUS,CLIVIS,SCANDICUS,CLIMACUS,TORCULUS,
PORRECTUS,PORRECTUS FLEXUS,SCANDICUS FLEXUS,TORCULUS RESUPINUS,PES SUBPUNCTIS;119262:
MUSICAL SYMBOL KIEVAN :C CLEF,END OF PIECE,FINAL NOTE,RECITATIVE MARK,WHOLE NOTE,HALF NOTE,
QUARTER NOTE STEM DOWN,QUARTER NOTE STEM UP,EIGHTH NOTE STEM DOWN,EIGHTH NOTE STEM UP,FLAT SIGN;
119273:MUSICAL SYMBOL :SORI,KORON;119296:GREEK VOCAL NOTATION SYMBOL-:1,2,3,4,5,6,7,8,9,10,11,12,
13,14,15,16,17,18,19,20,21,22,23,24,50,51,52,53,54;119325:GREEK INSTRUMENTAL NOTATION SYMBOL-:1,2,
4,5,7,8,11,12,13,14,17,18,19,23,24,25,26,27,29,30,32,36,37,38,39,40,42,43,45,47,48,49,50,51,52,53,
54;119362:COMBINING GREEK MUSICAL :TRISEME,TETRASEME,PENTASEME;119365::GREEK MUSICAL LEIMMA;
119520:MAYAN NUMERAL :ZERO,ONE,TWO,THREE,FOUR,FIVE,SIX,SEVEN,EIGHT,NINE,TEN,ELEVEN,TWELVE,
THIRTEEN,FOURTEEN,FIFTEEN,SIXTEEN,SEVENTEEN,EIGHTEEN,NINETEEN;119552::MONOGRAM FOR EARTH;119553:
DIGRAM FOR :HEAVENLY EARTH,HUMAN EARTH,EARTHLY HEAVEN,EARTHLY HUMAN,EARTH;119558:TETRAGRAM FOR :
CENTRE,FULL CIRCLE,MIRED,BARRIER,KEEPING SMALL,CONTRARIETY,ASCENT,OPPOSITION,BRANCHING OUT,
DEFECTIVENESS OR DISTORTION,DIVERGENCE,YOUTHFULNESS,INCREASE,PENETRATION,REACH,CONTACT,
HOLDING BACK,WAITING,FOLLOWING,ADVANCE,RELEASE,RESISTANCE,EASE,JOY,CONTENTION,ENDEAVOUR,DUTIES,
CHANGE,DECISIVENESS,BOLD RESOLUTION,PACKING,LEGION,CLOSENESS,KINSHIP,GATHERING,STRENGTH,PURITY,
FULLNESS,RESIDENCE,LAW OR MODEL,RESPONSE,GOING TO MEET,ENCOUNTERS,STOVE,GREATNESS,ENLARGEMENT,
PATTERN,RITUAL,FLIGHT,VASTNESS OR WASTING,CONSTANCY,MEASURE,ETERNITY,UNITY,DIMINISHMENT,
CLOSED MOUTH,GUARDEDNESS,GATHERING IN,MASSING,ACCUMULATION,EMBELLISHMENT,DOUBT,WATCH,SINKING,
INNER,DEPARTURE,DARKENING,DIMMING,EXHAUSTION,SEVERANCE,STOPPAGE,HARDNESS,COMPLETION,CLOSURE,
FAILURE,AGGRAVATION,COMPLIANCE,ON THE VERGE,DIFFICULTIES,LABOURING,FOSTERING;119648:
COUNTING ROD UNIT DIGIT :ONE,TWO,THREE,FOUR,FIVE,SIX,SEVEN,EIGHT,NINE;119657:
COUNTING ROD TENS DIGIT :ONE,TWO,THREE,FOUR,FIVE,SIX,SEVEN,EIGHT,NINE;119666:
IDEOGRAPHIC TALLY MARK :ONE,TWO,THREE,FOUR,FIVE;119671:TALLY MARK :ONE,FIVE;119808:
MATHEMATICAL BOLD CAPITAL :A,B,C,D,E,F,G,H,I,J,K,L,M,N,O,P,Q,R,S,T,U,V,W,X,Y,Z;119834:
MATHEMATICAL BOLD SMALL :A,B,C,D,E,F,G,H,I,J,K,L,M,N,O,P,Q,R,S,T,U,V,W,X,Y,Z;119860:
MATHEMATICAL ITALIC CAPITAL :A,B,C,D,E,F,G,H,I,J,K,L,M,N,O,P,Q,R,S,T,U,V,W,X,Y,Z;119886:
MATHEMATICAL ITALIC SMALL :A,B,C,D,E,F,G,,I,J,K,L,M,N,O,P,Q,R,S,T,U,V,W,X,Y,Z;119912:
MATHEMATICAL BOLD ITALIC CAPITAL :A,B,C,D,E,F,G,H,I,J,K,L,M,N,O,P,Q,R,S,T,U,V,W,X,Y,Z;119938:
MATHEMATICAL BOLD ITALIC SMALL :A,B,C,D,E,F,G,H,I,J,K,L,M,N,O,P,Q,R,S,T,U,V,W,X,Y,Z;119964:
MATHEMATICAL SCRIPT CAPITAL :A,,C,D,,,G,,,J,K,,,N,O,P,Q,,S,T,U,V,W,X,Y,Z;119990:
MATHEMATICAL SCRIPT SMALL :A,B,C,D,,F,,H,I,J,K,L,M,N,,P,Q,R,S,T,U,V,W,X,Y,Z;120016:
MATHEMATICAL BOLD SCRIPT CAPITAL :A,B,C,D,E,F,G,H,I,J,K,L,M,N,O,P,Q,R,S,T,U,V,W,X,Y,Z;120042:
MATHEMATICAL BOLD SCRIPT SMALL :A,B,C,D,E,F,G,H,I,J,K,L,M,N,O,P,Q,R,S,T,U,V,W,X,Y,Z;120068:
MATHEMATICAL FRAKTUR CAPITAL :A,B,,D,E,F,G,,,J,K,L,M,N,O,P,Q,,S,T,U,V,W,X,Y;120094:
MATHEMATICAL FRAKTUR SMALL :A,B,C,D,E,F,G,H,I,J,K,L,M,N,O,P,Q,R,S,T,U,V,W,X,Y,Z;120120:
MATHEMATICAL DOUBLE-STRUCK CAPITAL :A,B,,D,E,F,G,,I,J,K,L,M,,O,,,,S,T,U,V,W,X,Y;120146:
MATHEMATICAL DOUBLE-STRUCK SMALL :A,B,C,D,E,F,G,H,I,J,K,L,M,N,O,P,Q,R,S,T,U,V,W,X,Y,Z;120172:
MATHEMATICAL BOLD FRAKTUR CAPITAL :A,B,C,D,E,F,G,H,I,J,K,L,M,N,O,P,Q,R,S,T,U,V,W,X,Y,Z;120198:
MATHEMATICAL BOLD FRAKTUR SMALL :A,B,C,D,E,F,G,H,I,J,K,L,M,N,O,P,Q,R,S,T,U,V,W,X,Y,Z;120224:
MATHEMATICAL SANS-SERIF CAPITAL :A,B,C,D,E,F,G,H,I,J,K,L,M,N,O,P,Q,R,S,T,U,V,W,X,Y,Z;120250:
MATHEMATICAL SANS-SERIF SMALL :A,B,C,D,E,F,G,H,I,J,K,L,M,N,O,P,Q,R,S,T,U,V,W,X,Y,Z;120276:
MATHEMATICAL SANS-SERIF BOLD CAPITAL :A,B,C,D,E,F,G,H,I,J,K,L,M,N,O,P,Q,R,S,T,U,V,W,X,Y,Z;120302:
MATHEMATICAL SANS-SERIF BOLD SMALL :A,B,C,D,E,F,G,H,I,J,K,L,M,N,O,P,Q,R,S,T,U,V,W,X,Y,Z;120328:
MATHEMATICAL SANS-SERIF ITALIC CAPITAL :A,B,C,D,E,F,G,H,I,J,K,L,M,N,O,P,Q,R,S,T,U,V,W,X,Y,Z;
120354:MATHEMATICAL SANS-SERIF ITALIC SMALL :A,B,C,D,E,F,G,H,I,J,K,L,M,N,O,P,Q,R,S,T,U,V,W,X,Y,Z;
120380:MATHEMATICAL SANS-SERIF BOLD ITALIC CAPITAL :A,B,C,D,E,F,G,H,I,J,K,L,M,N,O,P,Q,R,S,T,U,V,W,
X,Y,Z;120406:MATHEMATICAL SANS-SERIF BOLD ITALIC SMALL :A,B,C,D,E,F,G,H,I,J,K,L,M,N,O,P,Q,R,S,T,U,
V,W,X,Y,Z;120432:MATHEMATICAL MONOSPACE CAPITAL :A,B,C,D,E,F,G,H,I,J,K,L,M,N,O,P,Q,R,S,T,U,V,W,X,
Y,Z;120458:MATHEMATICAL MONOSPACE SMALL :A,B,C,D,E,F,G,H,I,J,K,L,M,N,O,P,Q,R,S,T,U,V,W,X,Y,Z;
120484:MATHEMATICAL ITALIC SMALL DOTLESS :I,J;120488:MATHEMATICAL BOLD CAPITAL :ALPHA,BETA,GAMMA,
DELTA,EPSILON,ZETA,ETA,THETA,IOTA,KAPPA,LAMDA,MU,NU,XI,OMICRON,PI,RHO,THETA SYMBOL,SIGMA,TAU,
UPSILON,PHI,CHI,PSI,OMEGA;120513::MATHEMATICAL BOLD NABLA;120514:MATHEMATICAL BOLD SMALL :ALPHA,
BETA,GAMMA,DELTA,EPSILON,ZETA,ETA,THETA,IOTA,KAPPA,LAMDA,MU,NU,XI,OMICRON,PI,RHO,FINAL SIGMA,
SIGMA,TAU,UPSILON,PHI,CHI,PSI,OMEGA;120539:MATHEMATICAL BOLD :PARTIAL DIFFERENTIAL,EPSILON SYMBOL,
THETA SYMBOL,KAPPA SYMBOL,PHI SYMBOL,RHO SYMBOL,PI SYMBOL;120546:MATHEMATICAL ITALIC CAPITAL :
ALPHA,BETA,GAMMA,DELTA,EPSILON,ZETA,ETA,THETA,IOTA,KAPPA,LAMDA,MU,NU,XI,OMICRON,PI,RHO,
THETA SYMBOL,SIGMA,TAU,UPSILON,PHI,CHI,PSI,OMEGA;120571::MATHEMATICAL ITALIC NABLA;120572:
MATHEMATICAL ITALIC SMALL :ALPHA,BETA,GAMMA,DELTA,EPSILON,ZETA,ETA,THETA,IOTA,KAPPA,LAMDA,MU,NU,
XI,OMICRON,PI,RHO,FINAL SIGMA,SIGMA,TAU,UPSILON,PHI,CHI,PSI,OMEGA;120597:MATHEMATICAL ITALIC :
PARTIAL DIFFERENTIAL,EPSILON SYMBOL,THETA SYMBOL,KAPPA SYMBOL,PHI SYMBOL,RHO SYMBOL,PI SYMBOL;
120604:MATHEMATICAL BOLD ITALIC CAPITAL :ALPHA,BETA,GAMMA,DELTA,EPSILON,ZETA,ETA,THETA,IOTA,KAPPA,
LAMDA,MU,NU,XI,OMICRON,PI,RHO,THETA SYMBOL,SIGMA,TAU,UPSILON,PHI,CHI,PSI,OMEGA;120629::
MATHEMATICAL BOLD ITALIC NABLA;120630:MATHEMATICAL BOLD ITALIC SMALL :ALPHA,BETA,GAMMA,DELTA,
EPSILON,ZETA,ETA,THETA,IOTA,KAPPA,LAMDA,MU,NU,XI,OMICRON,PI,RHO,FINAL SIGMA,SIGMA,TAU,UPSILON,PHI,
CHI,PSI,OMEGA;120655:MATHEMATICAL BOLD ITALIC :PARTIAL DIFFERENTIAL,EPSILON SYMBOL,THETA SYMBOL,
KAPPA SYMBOL,PHI SYMBOL,RHO SYMBOL,PI SYMBOL;120662:MATHEMATICAL SANS-SERIF BOLD CAPITAL :ALPHA,
BETA,GAMMA,DELTA,EPSILON,ZETA,ETA,THETA,IOTA,KAPPA,LAMDA,MU,NU,XI,OMICRON,PI,RHO,THETA SYMBOL,
SIGMA,TAU,UPSILON,PHI,CHI,PSI,OMEGA;120687::MATHEMATICAL SANS-SERIF BOLD NABLA;120688:
MATHEMATICAL SANS-SERIF BOLD SMALL :ALPHA,BETA,GAMMA,DELTA,EPSILON,ZETA,ETA,THETA,IOTA,KAPPA,
LAMDA,MU,NU,XI,OMICRON,PI,RHO,FINAL SIGMA,SIGMA,TAU,UPSILON,PHI,CHI,PSI,OMEGA;120713:
MATHEMATICAL SANS-SERIF BOLD :PARTIAL DIFFERENTIAL,EPSILON SYMBOL,THETA SYMBOL,KAPPA SYMBOL,
PHI SYMBOL,RHO SYMBOL,PI SYMBOL;120720:MATHEMATICAL SANS-SERIF BOLD ITALIC CAPITAL :ALPHA,BETA,
GAMMA,DELTA,EPSILON,ZETA,ETA,THETA,IOTA,KAPPA,LAMDA,MU,NU,XI,OMICRON,PI,RHO,THETA SYMBOL,SIGMA,
TAU,UPSILON,PHI,CHI,PSI,OMEGA;120745::MATHEMATICAL SANS-SERIF BOLD ITALIC NABLA;120746:
MATHEMATICAL SANS-SERIF BOLD ITALIC SMALL :ALPHA,BETA,GAMMA,DELTA,EPSILON,ZETA,ETA,THETA,IOTA,
KAPPA,LAMDA,MU,NU,XI,OMICRON,PI,RHO,FINAL SIGMA,SIGMA,TAU,UPSILON,PHI,CHI,PSI,OMEGA;120771:
MATHEMATICAL SANS-SERIF BOLD ITALIC :PARTIAL DIFFERENTIAL,EPSILON SYMBOL,THETA SYMBOL,
KAPPA SYMBOL,PHI SYMBOL,RHO SYMBOL,PI SYMBOL;120778:MATHEMATICAL BOLD :CAPITAL DIGAMMA,
SMALL DIGAMMA;120782:MATHEMATICAL BOLD DIGIT :ZERO,ONE,TWO,THREE,FOUR,FIVE,SIX,SEVEN,EIGHT,NINE;
120792:MATHEMATICAL DOUBLE-STRUCK DIGIT :ZERO,ONE,TWO,THREE,FOUR,FIVE,SIX,SEVEN,EIGHT,NINE;120802:
MATHEMATICAL SANS-SERIF DIGIT :ZERO,ONE,TWO,THREE,FOUR,FIVE,SIX,SEVEN,EIGHT,NINE;120812:
MATHEMATICAL SANS-SERIF BOLD DIGIT :ZERO,ONE,TWO,THREE,FOUR,FIVE,SIX,SEVEN,EIGHT,NINE;120822:
MATHEMATICAL MONOSPACE DIGIT :ZERO,ONE,TWO,THREE,FOUR,FIVE,SIX,SEVEN,EIGHT,NINE;120832:
SIGNWRITING HAND-:FIST INDEX,CIRCLE INDEX,CUP INDEX,OVAL INDEX,HINGE INDEX,ANGLE INDEX,
FIST INDEX BENT,CIRCLE INDEX BENT,FIST THUMB UNDER INDEX BENT,FIST INDEX RAISED KNUCKLE,
FIST INDEX CUPPED,FIST INDEX HINGED,FIST INDEX HINGED LOW,CIRCLE INDEX HINGE,FIST INDEX MIDDLE,
CIRCLE INDEX MIDDLE;120848:SIGNWRITING HAND-FIST INDEX :MIDDLE BENT,MIDDLE RAISED KNUCKLES,
MIDDLE HINGED,UP MIDDLE HINGED,HINGED MIDDLE UP,MIDDLE CONJOINED;120854:
SIGNWRITING HAND-FIST INDEX MIDDLE CONJOINED :INDEX BENT,MIDDLE BENT,CUPPED,HINGED;120858:
SIGNWRITING HAND-:FIST INDEX MIDDLE CROSSED,CIRCLE INDEX MIDDLE CROSSED,
FIST MIDDLE BENT OVER INDEX,FIST INDEX BENT OVER MIDDLE,FIST INDEX MIDDLE THUMB,
CIRCLE INDEX MIDDLE THUMB;120864:SIGNWRITING HAND-FIST INDEX :MIDDLE STRAIGHT THUMB BENT,
MIDDLE BENT THUMB STRAIGHT,MIDDLE THUMB BENT,MIDDLE HINGED SPREAD THUMB SIDE,
UP MIDDLE HINGED THUMB SIDE,UP MIDDLE HINGED THUMB CONJOINED,HINGED MIDDLE UP THUMB SIDE,
MIDDLE UP SPREAD THUMB FORWARD;120872:SIGNWRITING HAND-FIST INDEX MIDDLE THUMB :CUPPED,CIRCLED,
HOOKED,HINGED;120876:SIGNWRITING HAND-FIST :THUMB BETWEEN INDEX MIDDLE STRAIGHT,
INDEX MIDDLE CONJOINED THUMB SIDE,INDEX MIDDLE CONJOINED THUMB SIDE CONJOINED,
INDEX MIDDLE CONJOINED THUMB SIDE BENT,MIDDLE THUMB HOOKED INDEX UP,INDEX THUMB HOOKED MIDDLE UP,
INDEX MIDDLE CONJOINED HINGED THUMB SIDE,INDEX MIDDLE CROSSED THUMB SIDE,
INDEX MIDDLE CONJOINED THUMB FORWARD,INDEX MIDDLE CONJOINED CUPPED THUMB FORWARD,
MIDDLE THUMB CUPPED INDEX UP,INDEX THUMB CUPPED MIDDLE UP,MIDDLE THUMB CIRCLED INDEX UP,
MIDDLE THUMB CIRCLED INDEX HINGED,INDEX THUMB ANGLED OUT MIDDLE UP,
INDEX THUMB ANGLED IN MIDDLE UP,INDEX THUMB CIRCLED MIDDLE UP,INDEX MIDDLE THUMB CONJOINED HINGED,
INDEX MIDDLE THUMB ANGLED OUT,INDEX MIDDLE THUMB ANGLED,MIDDLE THUMB ANGLED OUT INDEX UP,
MIDDLE THUMB ANGLED OUT INDEX CROSSED,MIDDLE THUMB ANGLED INDEX UP,
INDEX THUMB HOOKED MIDDLE HINGED;120900:SIGNWRITING HAND-FLAT FOUR :FINGERS,FINGERS BENT,
FINGERS HINGED,FINGERS CONJOINED,FINGERS CONJOINED SPLIT;120905:SIGNWRITING HAND-:
CLAW FOUR FINGERS CONJOINED,FIST FOUR FINGERS CONJOINED BENT,HINGE FOUR FINGERS CONJOINED,
FLAT FIVE FINGERS SPREAD,FLAT HEEL FIVE FINGERS SPREAD,FLAT FIVE FINGERS SPREAD FOUR BENT,
FLAT HEEL FIVE FINGERS SPREAD FOUR BENT,FLAT FIVE FINGERS SPREAD BENT,
FLAT HEEL FIVE FINGERS SPREAD BENT,FLAT FIVE FINGERS SPREAD THUMB FORWARD,CUP FIVE FINGERS SPREAD,
CUP FIVE FINGERS SPREAD OPEN,HINGE FIVE FINGERS SPREAD OPEN,OVAL FIVE FINGERS SPREAD,
FLAT FIVE FINGERS SPREAD HINGED,FLAT FIVE FINGERS SPREAD HINGED THUMB SIDE,
FLAT FIVE FINGERS SPREAD HINGED NO THUMB,FLAT,FLAT BETWEEN PALM FACINGS,FLAT HEEL,FLAT THUMB SIDE,
FLAT HEEL THUMB SIDE,FLAT THUMB BENT,FLAT THUMB FORWARD,FLAT SPLIT INDEX THUMB SIDE,
FLAT SPLIT CENTRE,FLAT SPLIT CENTRE THUMB SIDE,FLAT SPLIT CENTRE THUMB SIDE BENT,
FLAT SPLIT LITTLE,CLAW,CLAW THUMB SIDE,CLAW NO THUMB,CLAW THUMB FORWARD,HOOK CURLICUE,HOOK,
CUP OPEN,CUP,CUP OPEN THUMB SIDE,CUP THUMB SIDE,CUP OPEN NO THUMB,CUP NO THUMB,
CUP OPEN THUMB FORWARD,CUP THUMB FORWARD,CURLICUE OPEN,CURLICUE,CIRCLE,OVAL,OVAL THUMB SIDE,
OVAL NO THUMB,OVAL THUMB FORWARD,HINGE OPEN,HINGE OPEN THUMB FORWARD,HINGE,HINGE SMALL,
HINGE OPEN THUMB SIDE,HINGE THUMB SIDE,HINGE OPEN NO THUMB,HINGE NO THUMB,
HINGE THUMB SIDE TOUCHING INDEX,HINGE THUMB BETWEEN MIDDLE RING,ANGLE,FIST INDEX MIDDLE RING,
CIRCLE INDEX MIDDLE RING,HINGE INDEX MIDDLE RING,ANGLE INDEX MIDDLE RING,HINGE LITTLE,
FIST INDEX MIDDLE RING BENT,FIST INDEX MIDDLE RING CONJOINED,HINGE INDEX MIDDLE RING CONJOINED,
FIST LITTLE DOWN,FIST LITTLE DOWN RIPPLE STRAIGHT,FIST LITTLE DOWN RIPPLE CURVED,
FIST LITTLE DOWN OTHERS CIRCLED,FIST LITTLE UP,FIST THUMB UNDER LITTLE UP,CIRCLE LITTLE UP,
OVAL LITTLE UP,ANGLE LITTLE UP,FIST LITTLE RAISED KNUCKLE,FIST LITTLE BENT,
FIST LITTLE TOUCHES THUMB,FIST LITTLE THUMB,HINGE LITTLE THUMB,FIST LITTLE INDEX THUMB,
HINGE LITTLE INDEX THUMB,ANGLE LITTLE INDEX THUMB INDEX THUMB OUT,
ANGLE LITTLE INDEX THUMB INDEX THUMB,FIST LITTLE INDEX,CIRCLE LITTLE INDEX,HINGE LITTLE INDEX,
ANGLE LITTLE INDEX,FIST INDEX MIDDLE LITTLE,CIRCLE INDEX MIDDLE LITTLE,HINGE INDEX MIDDLE LITTLE,
HINGE RING,ANGLE INDEX MIDDLE LITTLE,FIST INDEX MIDDLE CROSS LITTLE,
CIRCLE INDEX MIDDLE CROSS LITTLE,FIST RING DOWN,HINGE RING DOWN INDEX THUMB HOOK MIDDLE,
ANGLE RING DOWN MIDDLE THUMB INDEX CROSS,FIST RING UP,FIST RING RAISED KNUCKLE,FIST RING LITTLE,
CIRCLE RING LITTLE,OVAL RING LITTLE,ANGLE RING LITTLE,FIST RING MIDDLE,FIST RING MIDDLE CONJOINED,
FIST RING MIDDLE RAISED KNUCKLES,FIST RING INDEX,FIST RING THUMB,HOOK RING THUMB,
FIST INDEX RING LITTLE,CIRCLE INDEX RING LITTLE,CURLICUE INDEX RING LITTLE ON,
HOOK INDEX RING LITTLE OUT,HOOK INDEX RING LITTLE IN,HOOK INDEX RING LITTLE UNDER,
CUP INDEX RING LITTLE,HINGE INDEX RING LITTLE,ANGLE INDEX RING LITTLE OUT,ANGLE INDEX RING LITTLE,
FIST MIDDLE DOWN,HINGE MIDDLE,FIST MIDDLE UP,CIRCLE MIDDLE UP,FIST MIDDLE RAISED KNUCKLE,
FIST MIDDLE UP THUMB SIDE,HOOK MIDDLE THUMB,FIST MIDDLE THUMB LITTLE,FIST MIDDLE LITTLE,
FIST MIDDLE RING LITTLE,CIRCLE MIDDLE RING LITTLE,CURLICUE MIDDLE RING LITTLE ON,
CUP MIDDLE RING LITTLE,HINGE MIDDLE RING LITTLE,ANGLE MIDDLE RING LITTLE OUT,
ANGLE MIDDLE RING LITTLE IN,ANGLE MIDDLE RING LITTLE,CIRCLE MIDDLE RING LITTLE BENT,
CLAW MIDDLE RING LITTLE CONJOINED,CLAW MIDDLE RING LITTLE CONJOINED SIDE,
HOOK MIDDLE RING LITTLE CONJOINED OUT,HOOK MIDDLE RING LITTLE CONJOINED IN,
HOOK MIDDLE RING LITTLE CONJOINED,HINGE INDEX HINGED,FIST INDEX THUMB SIDE,HINGE INDEX THUMB SIDE;
121054:SIGNWRITING HAND-FIST INDEX THUMB :SIDE THUMB DIAGONAL,SIDE THUMB CONJOINED,
SIDE THUMB BENT,SIDE INDEX BENT,SIDE BOTH BENT,SIDE INDEX HINGE,FORWARD INDEX STRAIGHT,
FORWARD INDEX BENT,HOOK,CURLICUE,CURVE THUMB INSIDE;121065:SIGNWRITING HAND-:
CLAW INDEX THUMB CURVE THUMB INSIDE,FIST INDEX THUMB CURVE THUMB UNDER,FIST INDEX THUMB CIRCLE,
CUP INDEX THUMB,CUP INDEX THUMB OPEN,HINGE INDEX THUMB OPEN,HINGE INDEX THUMB LARGE,
HINGE INDEX THUMB,HINGE INDEX THUMB SMALL,ANGLE INDEX THUMB OUT,ANGLE INDEX THUMB IN,
ANGLE INDEX THUMB,FIST THUMB;121078:SIGNWRITING HAND-FIST THUMB :HEEL,SIDE DIAGONAL,
SIDE CONJOINED,SIDE BENT,FORWARD,BETWEEN INDEX MIDDLE,BETWEEN MIDDLE RING,BETWEEN RING LITTLE,
UNDER TWO FINGERS,OVER TWO FINGERS,UNDER THREE FINGERS,UNDER FOUR FINGERS,
OVER FOUR RAISED KNUCKLES;121091:SIGNWRITING :HAND-FIST,HAND-FIST HEEL,TOUCH SINGLE,
TOUCH MULTIPLE,TOUCH BETWEEN,GRASP SINGLE,GRASP MULTIPLE,GRASP BETWEEN,STRIKE SINGLE,
STRIKE MULTIPLE,STRIKE BETWEEN,BRUSH SINGLE,BRUSH MULTIPLE,BRUSH BETWEEN,RUB SINGLE,RUB MULTIPLE,
RUB BETWEEN,SURFACE SYMBOLS,SURFACE BETWEEN,SQUEEZE LARGE SINGLE,SQUEEZE SMALL SINGLE,
SQUEEZE LARGE MULTIPLE,SQUEEZE SMALL MULTIPLE,SQUEEZE SEQUENTIAL,FLICK LARGE SINGLE,
FLICK SMALL SINGLE,FLICK LARGE MULTIPLE,FLICK SMALL MULTIPLE,FLICK SEQUENTIAL,
SQUEEZE FLICK ALTERNATING;121121:SIGNWRITING MOVEMENT-HINGE :UP DOWN LARGE,UP DOWN SMALL,
UP SEQUENTIAL,DOWN SEQUENTIAL,UP DOWN ALTERNATING LARGE,UP DOWN ALTERNATING SMALL,
SIDE TO SIDE SCISSORS;121128:SIGNWRITING MOVEMENT-:WALLPLANE FINGER CONTACT,
FLOORPLANE FINGER CONTACT;121130:SIGNWRITING MOVEMENT-WALLPLANE SINGLE STRAIGHT :SMALL,MEDIUM,
LARGE,LARGEST;121134:SIGNWRITING MOVEMENT-WALLPLANE :SINGLE WRIST FLEX,DOUBLE STRAIGHT,
DOUBLE WRIST FLEX,DOUBLE ALTERNATING,DOUBLE ALTERNATING WRIST FLEX,CROSS,TRIPLE STRAIGHT MOVEMENT,
TRIPLE WRIST FLEX,TRIPLE ALTERNATING,TRIPLE ALTERNATING WRIST FLEX,BEND SMALL,BEND MEDIUM,
BEND LARGE,CORNER SMALL,CORNER MEDIUM,CORNER LARGE,CORNER ROTATION,CHECK SMALL,CHECK MEDIUM,
CHECK LARGE,BOX SMALL,BOX MEDIUM,BOX LARGE,ZIGZAG SMALL,ZIGZAG MEDIUM,ZIGZAG LARGE,PEAKS SMALL,
PEAKS MEDIUM,PEAKS LARGE;121163:SIGNWRITING TRAVEL-WALLPLANE ROTATION-:WALLPLANE SINGLE,
WALLPLANE DOUBLE,WALLPLANE ALTERNATING,FLOORPLANE SINGLE,FLOORPLANE DOUBLE,FLOORPLANE ALTERNATING;
121169:SIGNWRITING TRAVEL-WALLPLANE :SHAKING,ARM SPIRAL SINGLE,ARM SPIRAL DOUBLE,
ARM SPIRAL TRIPLE;121173:SIGNWRITING MOVEMENT-DIAGONAL :AWAY SMALL,AWAY MEDIUM,AWAY LARGE,
AWAY LARGEST,TOWARDS SMALL,TOWARDS MEDIUM,TOWARDS LARGE,TOWARDS LARGEST;121181:
SIGNWRITING MOVEMENT-DIAGONAL BETWEEN :AWAY SMALL,AWAY MEDIUM,AWAY LARGE,AWAY LARGEST,
TOWARDS SMALL,TOWARDS MEDIUM,TOWARDS LARGE,TOWARDS LARGEST;121189:
SIGNWRITING MOVEMENT-FLOORPLANE SINGLE STRAIGHT :SMALL,MEDIUM,LARGE,LARGEST;121193:
SIGNWRITING MOVEMENT-FLOORPLANE :SINGLE WRIST FLEX,DOUBLE STRAIGHT,DOUBLE WRIST FLEX,
DOUBLE ALTERNATING,DOUBLE ALTERNATING WRIST FLEX,CROSS,TRIPLE STRAIGHT MOVEMENT,TRIPLE WRIST FLEX,
TRIPLE ALTERNATING MOVEMENT,TRIPLE ALTERNATING WRIST FLEX,BEND,CORNER SMALL,CORNER MEDIUM,
CORNER LARGE,CHECK,BOX SMALL,BOX MEDIUM,BOX LARGE,ZIGZAG SMALL,ZIGZAG MEDIUM,ZIGZAG LARGE,
PEAKS SMALL,PEAKS MEDIUM,PEAKS LARGE;121217:SIGNWRITING TRAVEL-FLOORPLANE ROTATION-:
FLOORPLANE SINGLE,FLOORPLANE DOUBLE,FLOORPLANE ALTERNATING,WALLPLANE SINGLE,WALLPLANE DOUBLE,
WALLPLANE ALTERNATING;121223::SIGNWRITING TRAVEL-FLOORPLANE SHAKING;121224:
SIGNWRITING MOVEMENT-WALLPLANE CURVE QUARTER :SMALL,MEDIUM,LARGE,LARGEST;121228:
SIGNWRITING MOVEMENT-WALLPLANE CURVE HALF-CIRCLE :SMALL,MEDIUM,LARGE,LARGEST;121232:
SIGNWRITING MOVEMENT-WALLPLANE :CURVE THREE-QUARTER CIRCLE SMALL,
CURVE THREE-QUARTER CIRCLE MEDIUM,HUMP SMALL,HUMP MEDIUM,HUMP LARGE,LOOP SMALL,LOOP MEDIUM,
LOOP LARGE,LOOP SMALL DOUBLE,WAVE CURVE DOUBLE SMALL,WAVE CURVE DOUBLE MEDIUM,
WAVE CURVE DOUBLE LARGE,WAVE CURVE TRIPLE SMALL,WAVE CURVE TRIPLE MEDIUM,WAVE CURVE TRIPLE LARGE,
CURVE THEN STRAIGHT,CURVED CROSS SMALL,CURVED CROSS MEDIUM;121250:SIGNWRITING ROTATION-WALLPLANE :
SINGLE,DOUBLE,ALTERNATE;121253:SIGNWRITING MOVEMENT-WALLPLANE :SHAKING,CURVE HITTING FRONT WALL,
HUMP HITTING FRONT WALL,LOOP HITTING FRONT WALL,WAVE HITTING FRONT WALL;121258:
SIGNWRITING ROTATION-WALLPLANE :SINGLE HITTING FRONT WALL,DOUBLE HITTING FRONT WALL,
ALTERNATING HITTING FRONT WALL;121261:SIGNWRITING MOVEMENT-WALLPLANE :CURVE HITTING CHEST,
HUMP HITTING CHEST,LOOP HITTING CHEST,WAVE HITTING CHEST;121265:SIGNWRITING ROTATION-WALLPLANE :
SINGLE HITTING CHEST,DOUBLE HITTING CHEST,ALTERNATING HITTING CHEST;121268:
SIGNWRITING MOVEMENT-WALLPLANE WAVE DIAGONAL PATH :SMALL,MEDIUM,LARGE;121271:
SIGNWRITING MOVEMENT-FLOORPLANE CURVE HITTING CEILING :SMALL,LARGE;121273:
SIGNWRITING MOVEMENT-FLOORPLANE HUMP HITTING CEILING :SMALL DOUBLE,LARGE DOUBLE,SMALL TRIPLE,
LARGE TRIPLE;121277:SIGNWRITING MOVEMENT-FLOORPLANE LOOP HITTING CEILING :SMALL SINGLE,
LARGE SINGLE,SMALL DOUBLE,LARGE DOUBLE;121281:
SIGNWRITING MOVEMENT-FLOORPLANE WAVE HITTING CEILING :SMALL,LARGE;121283:
SIGNWRITING ROTATION-FLOORPLANE :SINGLE HITTING CEILING,DOUBLE HITTING CEILING,
ALTERNATING HITTING CEILING;121286:SIGNWRITING MOVEMENT-FLOORPLANE CURVE HITTING FLOOR :SMALL,
LARGE;121288:SIGNWRITING MOVEMENT-FLOORPLANE HUMP HITTING FLOOR :SMALL DOUBLE,LARGE DOUBLE,
TRIPLE SMALL TRIPLE,TRIPLE LARGE TRIPLE;121292:
SIGNWRITING MOVEMENT-FLOORPLANE LOOP HITTING FLOOR :SMALL SINGLE,LARGE SINGLE,SMALL DOUBLE,
LARGE DOUBLE;121296:SIGNWRITING MOVEMENT-FLOORPLANE WAVE HITTING FLOOR :SMALL,LARGE;121298:
SIGNWRITING ROTATION-FLOORPLANE :SINGLE HITTING FLOOR,DOUBLE HITTING FLOOR,
ALTERNATING HITTING FLOOR;121301:SIGNWRITING MOVEMENT-FLOORPLANE :CURVE SMALL,CURVE MEDIUM,
CURVE LARGE,CURVE LARGEST,CURVE COMBINED,HUMP SMALL,LOOP SMALL,WAVE SNAKE,WAVE SMALL,WAVE LARGE;
121311:SIGNWRITING ROTATION-FLOORPLANE :SINGLE,DOUBLE,ALTERNATING;121314::
SIGNWRITING MOVEMENT-FLOORPLANE SHAKING PARALLEL;121315:
SIGNWRITING MOVEMENT-WALLPLANE ARM CIRCLE :SMALL SINGLE,MEDIUM SINGLE,SMALL DOUBLE,MEDIUM DOUBLE;
121319:SIGNWRITING MOVEMENT-FLOORPLANE ARM CIRCLE HITTING WALL :SMALL SINGLE,MEDIUM SINGLE,
LARGE SINGLE,SMALL DOUBLE,MEDIUM DOUBLE,LARGE DOUBLE;121325:
SIGNWRITING MOVEMENT-WALLPLANE WRIST CIRCLE FRONT :SINGLE,DOUBLE;121327:
SIGNWRITING MOVEMENT-FLOORPLANE WRIST CIRCLE HITTING WALL :SINGLE,DOUBLE;121329:
SIGNWRITING MOVEMENT-WALLPLANE FINGER CIRCLES :SINGLE,DOUBLE;121331:
SIGNWRITING MOVEMENT-FLOORPLANE FINGER CIRCLES HITTING WALL :SINGLE,DOUBLE;121333:
SIGNWRITING DYNAMIC :ARROWHEAD SMALL,ARROWHEAD LARGE,FAST,SLOW,TENSE,RELAXED,SIMULTANEOUS,
SIMULTANEOUS ALTERNATING,EVERY OTHER TIME,GRADUAL;121343:SIGNWRITING :HEAD,HEAD RIM;121345:
SIGNWRITING HEAD MOVEMENT-:WALLPLANE STRAIGHT,WALLPLANE TILT,FLOORPLANE STRAIGHT,WALLPLANE CURVE,
FLOORPLANE CURVE;121350::SIGNWRITING HEAD MOVEMENT CIRCLE;121351:
SIGNWRITING FACE DIRECTION POSITION NOSE :FORWARD TILTING,UP OR DOWN,UP OR DOWN TILTING;121354:
SIGNWRITING EYEBROWS STRAIGHT :UP,NEUTRAL,DOWN;121357:SIGNWRITING DREAMY EYEBROWS :NEUTRAL DOWN,
DOWN NEUTRAL,UP NEUTRAL,NEUTRAL UP;121361:SIGNWRITING :FOREHEAD NEUTRAL,FOREHEAD CONTACT,
FOREHEAD WRINKLED,EYES OPEN,EYES SQUEEZED,EYES CLOSED,EYE BLINK SINGLE,EYE BLINK MULTIPLE,
EYES HALF OPEN,EYES WIDE OPEN,EYES HALF CLOSED,EYES WIDENING MOVEMENT,EYE WINK,EYELASHES UP,
EYELASHES DOWN,EYELASHES FLUTTERING;121377:SIGNWRITING EYEGAZE-:WALLPLANE STRAIGHT,
WALLPLANE STRAIGHT DOUBLE,WALLPLANE STRAIGHT ALTERNATING,FLOORPLANE STRAIGHT,
FLOORPLANE STRAIGHT DOUBLE,FLOORPLANE STRAIGHT ALTERNATING,WALLPLANE CURVED,FLOORPLANE CURVED,
WALLPLANE CIRCLING;121386:SIGNWRITING :CHEEKS PUFFED,CHEEKS NEUTRAL,CHEEKS SUCKED,
TENSE CHEEKS HIGH,TENSE CHEEKS MIDDLE,TENSE CHEEKS LOW,EARS,NOSE NEUTRAL,NOSE CONTACT,
NOSE WRINKLES,NOSE WIGGLES,AIR BLOWING OUT,AIR SUCKING IN,AIR BLOW SMALL ROTATIONS,
AIR SUCK SMALL ROTATIONS,BREATH INHALE,BREATH EXHALE;121403:SIGNWRITING MOUTH :CLOSED NEUTRAL,
CLOSED FORWARD,CLOSED CONTACT,SMILE,SMILE WRINKLED,SMILE OPEN,FROWN,FROWN WRINKLED,FROWN OPEN,
OPEN CIRCLE,OPEN FORWARD,OPEN WRINKLED,OPEN OVAL,OPEN OVAL WRINKLED,OPEN OVAL YAWN,OPEN RECTANGLE,
OPEN RECTANGLE WRINKLED,OPEN RECTANGLE YAWN,KISS,KISS FORWARD,KISS WRINKLED,TENSE,TENSE FORWARD,
TENSE SUCKED;121427:SIGNWRITING :LIPS PRESSED TOGETHER,LIP LOWER OVER UPPER,LIP UPPER OVER LOWER,
MOUTH CORNERS,MOUTH WRINKLES SINGLE,MOUTH WRINKLES DOUBLE;121433:SIGNWRITING TONGUE :
STICKING OUT FAR,LICKING LIPS,TIP BETWEEN LIPS,TIP TOUCHING INSIDE MOUTH,INSIDE MOUTH RELAXED,
MOVES AGAINST CHEEK,CENTRE STICKING OUT,CENTRE INSIDE MOUTH;121441:SIGNWRITING :TEETH,
TEETH MOVEMENT,TEETH ON TONGUE,TEETH ON TONGUE MOVEMENT,TEETH ON LIPS,TEETH ON LIPS MOVEMENT,
TEETH BITE LIPS,MOVEMENT-WALLPLANE JAW,MOVEMENT-FLOORPLANE JAW,NECK,HAIR,EXCITEMENT,
SHOULDER HIP SPINE,SHOULDER HIP POSITIONS,WALLPLANE SHOULDER HIP MOVE,
FLOORPLANE SHOULDER HIP MOVE,SHOULDER TILTING FROM WAIST,TORSO-WALLPLANE STRAIGHT STRETCH,
TORSO-WALLPLANE CURVED BEND,TORSO-FLOORPLANE TWISTING,UPPER BODY TILTING FROM HIP JOINTS,
LIMB COMBINATION;121463:SIGNWRITING LIMB LENGTH-:1,2,3,4,5,6,7;121470:SIGNWRITING :FINGER,
LOCATION-WALLPLANE SPACE,LOCATION-FLOORPLANE SPACE;121473:SIGNWRITING LOCATION :HEIGHT,WIDTH,
DEPTH,HEAD NECK,TORSO,LIMBS DIGITS;121479:SIGNWRITING :COMMA,FULL STOP,SEMICOLON,COLON,
PARENTHESIS;121499:SIGNWRITING FILL MODIFIER-:2,3,4,5,6;121505:SIGNWRITING ROTATION MODIFIER-:2,3,
4,5,6,7,8,9,10,11,12,13,14,15,16;122624:LATIN :SMALL LETTER FENG DIGRAPH WITH TRILL,
SMALL LETTER REVERSED SCRIPT G,LETTER SMALL CAPITAL TURNED G,SMALL LETTER REVERSED K,
LETTER SMALL CAPITAL L WITH BELT;122629:LATIN SMALL LETTER :LEZH WITH RETROFLEX HOOK,
TURNED Y WITH BELT,REVERSED ENG,TURNED R WITH LONG LEG AND RETROFLEX HOOK,
T WITH HOOK AND RETROFLEX HOOK;122634::LATIN LETTER RETROFLEX CLICK WITH RETROFLEX HOOK;122635:
LATIN SMALL LETTER :ESH WITH DOUBLE BAR,ESH WITH DOUBLE BAR AND CURL,TURNED T WITH CURL;122638:
LATIN LETTER :INVERTED GLOTTAL STOP WITH CURL,STRETCHED C WITH CURL,SMALL CAPITAL TURNED K;122641:
LATIN SMALL LETTER :L WITH FISHHOOK,DEZH DIGRAPH WITH PALATAL HOOK,L WITH BELT AND PALATAL HOOK,
ENG WITH PALATAL HOOK,TURNED R WITH PALATAL HOOK,R WITH FISHHOOK AND PALATAL HOOK,
TESH DIGRAPH WITH PALATAL HOOK,EZH WITH PALATAL HOOK,DEZH DIGRAPH WITH RETROFLEX HOOK,
I WITH STROKE AND RETROFLEX HOOK,O WITH RETROFLEX HOOK,TESH DIGRAPH WITH RETROFLEX HOOK,
C WITH RETROFLEX HOOK,S WITH CURL;"

end Promptuary.Text.CharacterName
