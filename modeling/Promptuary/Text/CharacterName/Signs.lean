/-!
The names of phonetic letters, punctuation and mathematical, technical and geometric signs.
-/

namespace Promptuary.Text.CharacterName

/-- Runs of names: the number of the first character, what the names of the run begin with, and how
they go on for one character after another. An empty place passes over a character. -/
def signs : String :=
"7424:LATIN LETTER SMALL CAPITAL :A,AE;7426::LATIN SMALL LETTER TURNED AE;7427:
LATIN LETTER SMALL CAPITAL :BARRED B,C,D,ETH,E;7432:LATIN SMALL LETTER TURNED :OPEN E,I;7434:
LATIN LETTER SMALL CAPITAL :J,K,L WITH STROKE,M,REVERSED N,O,OPEN O;7441:
LATIN SMALL LETTER SIDEWAYS :O,OPEN O,O WITH STROKE;7444:LATIN :SMALL LETTER TURNED OE,
LETTER SMALL CAPITAL OU,SMALL LETTER TOP HALF O,SMALL LETTER BOTTOM HALF O;7448:
LATIN LETTER SMALL CAPITAL :P,REVERSED R,TURNED R,T,U;7453:LATIN SMALL LETTER SIDEWAYS :U,
DIAERESIZED U,TURNED M;7456:LATIN LETTER SMALL CAPITAL :V,W,Z,EZH;7460:LATIN LETTER :
VOICED LARYNGEAL SPIRANT,AIN;7462:GREEK LETTER SMALL CAPITAL :GAMMA,LAMDA,PI,RHO,PSI;7467::
CYRILLIC LETTER SMALL CAPITAL EL;7468:MODIFIER LETTER CAPITAL :A,AE,B,BARRED B,D,E,REVERSED E,G,H,
I,J,K,L,M,N,REVERSED N,O,OU,P,R,T,U,W;7491:MODIFIER LETTER SMALL :A,TURNED A,ALPHA,TURNED AE,B,D,
E,SCHWA,OPEN E,TURNED OPEN E,G,TURNED I,K,M,ENG,O,OPEN O,TOP HALF O,BOTTOM HALF O,P,T,U,
SIDEWAYS U,TURNED M,V,AIN,BETA,GREEK GAMMA,DELTA,GREEK PHI,CHI;7522:LATIN SUBSCRIPT SMALL LETTER :
I,R,U,V;7526:GREEK SUBSCRIPT SMALL LETTER :BETA,GAMMA,RHO,PHI,CHI;7531:LATIN SMALL LETTER :UE,
B WITH MIDDLE TILDE,D WITH MIDDLE TILDE,F WITH MIDDLE TILDE,M WITH MIDDLE TILDE,
N WITH MIDDLE TILDE,P WITH MIDDLE TILDE,R WITH MIDDLE TILDE,R WITH FISHHOOK AND MIDDLE TILDE,
S WITH MIDDLE TILDE,T WITH MIDDLE TILDE,Z WITH MIDDLE TILDE,TURNED G;7544::
MODIFIER LETTER CYRILLIC EN;7545:LATIN SMALL :LETTER INSULAR G,LETTER TH WITH STRIKETHROUGH,
CAPITAL LETTER I WITH STROKE,LETTER IOTA WITH STROKE,LETTER P WITH STROKE,
CAPITAL LETTER U WITH STROKE;7551:LATIN SMALL LETTER :UPSILON WITH STROKE,B WITH PALATAL HOOK,
D WITH PALATAL HOOK,F WITH PALATAL HOOK,G WITH PALATAL HOOK,K WITH PALATAL HOOK,
L WITH PALATAL HOOK,M WITH PALATAL HOOK,N WITH PALATAL HOOK,P WITH PALATAL HOOK,
R WITH PALATAL HOOK,S WITH PALATAL HOOK,ESH WITH PALATAL HOOK,V WITH PALATAL HOOK,
X WITH PALATAL HOOK,Z WITH PALATAL HOOK,A WITH RETROFLEX HOOK,ALPHA WITH RETROFLEX HOOK,
D WITH HOOK AND TAIL,E WITH RETROFLEX HOOK,OPEN E WITH RETROFLEX HOOK,
REVERSED OPEN E WITH RETROFLEX HOOK,SCHWA WITH RETROFLEX HOOK,I WITH RETROFLEX HOOK,
OPEN O WITH RETROFLEX HOOK,ESH WITH RETROFLEX HOOK,U WITH RETROFLEX HOOK,EZH WITH RETROFLEX HOOK;
7579:MODIFIER LETTER SMALL :TURNED ALPHA,C,C WITH CURL,ETH,REVERSED OPEN E,F,
DOTLESS J WITH STROKE,SCRIPT G,TURNED H,I WITH STROKE,IOTA,CAPITAL I,CAPITAL I WITH STROKE,
J WITH CROSSED-TAIL,L WITH RETROFLEX HOOK,L WITH PALATAL HOOK,CAPITAL L,M WITH HOOK,
TURNED M WITH LONG LEG,N WITH LEFT HOOK,N WITH RETROFLEX HOOK,CAPITAL N,BARRED O,PHI,S WITH HOOK,
ESH,T WITH PALATAL HOOK,U BAR,UPSILON,CAPITAL U,V WITH HOOK,TURNED V,Z,Z WITH RETROFLEX HOOK,
Z WITH CURL,EZH,THETA;7616:COMBINING :DOTTED GRAVE ACCENT,DOTTED ACUTE ACCENT,SNAKE BELOW,
SUSPENSION MARK,MACRON-ACUTE,GRAVE-MACRON,MACRON-GRAVE,ACUTE-MACRON,GRAVE-ACUTE-GRAVE,
ACUTE-GRAVE-ACUTE,LATIN SMALL LETTER R BELOW,BREVE-MACRON,MACRON-BREVE,DOUBLE CIRCUMFLEX ABOVE,
OGONEK ABOVE,ZIGZAG BELOW,IS BELOW,UR ABOVE,US ABOVE;7635:COMBINING LATIN SMALL LETTER :
FLATTENED OPEN A ABOVE,AE,AO,AV,C CEDILLA,INSULAR D,ETH,G;7643:COMBINING LATIN :
LETTER SMALL CAPITAL G,SMALL LETTER K,SMALL LETTER L,LETTER SMALL CAPITAL L,
LETTER SMALL CAPITAL M,SMALL LETTER N,LETTER SMALL CAPITAL N,LETTER SMALL CAPITAL R;7651:
COMBINING LATIN SMALL LETTER :R ROTUNDA,S,LONG S,Z,ALPHA,B,BETA,SCHWA,F,
L WITH DOUBLE MIDDLE TILDE,O WITH LIGHT CENTRALIZATION STROKE,P,ESH,
U WITH LIGHT CENTRALIZATION STROKE,W,A WITH DIAERESIS,O WITH DIAERESIS,U WITH DIAERESIS;7669:
COMBINING :UP TACK ABOVE,KAVYKA ABOVE RIGHT,KAVYKA ABOVE LEFT,DOT ABOVE LEFT,
WIDE INVERTED BRIDGE BELOW,DOT BELOW LEFT,DELETION MARK,DOUBLE INVERTED BREVE BELOW,
ALMOST EQUAL TO BELOW,LEFT ARROWHEAD ABOVE,RIGHT ARROWHEAD AND DOWN ARROWHEAD BELOW;7680:LATIN :
CAPITAL LETTER A WITH RING BELOW,SMALL LETTER A WITH RING BELOW,CAPITAL LETTER B WITH DOT ABOVE,
SMALL LETTER B WITH DOT ABOVE,CAPITAL LETTER B WITH DOT BELOW,SMALL LETTER B WITH DOT BELOW,
CAPITAL LETTER B WITH LINE BELOW,SMALL LETTER B WITH LINE BELOW,
CAPITAL LETTER C WITH CEDILLA AND ACUTE,SMALL LETTER C WITH CEDILLA AND ACUTE,
CAPITAL LETTER D WITH DOT ABOVE,SMALL LETTER D WITH DOT ABOVE,CAPITAL LETTER D WITH DOT BELOW,
SMALL LETTER D WITH DOT BELOW,CAPITAL LETTER D WITH LINE BELOW,SMALL LETTER D WITH LINE BELOW,
CAPITAL LETTER D WITH CEDILLA,SMALL LETTER D WITH CEDILLA,CAPITAL LETTER D WITH CIRCUMFLEX BELOW,
SMALL LETTER D WITH CIRCUMFLEX BELOW,CAPITAL LETTER E WITH MACRON AND GRAVE,
SMALL LETTER E WITH MACRON AND GRAVE,CAPITAL LETTER E WITH MACRON AND ACUTE,
SMALL LETTER E WITH MACRON AND ACUTE,CAPITAL LETTER E WITH CIRCUMFLEX BELOW,
SMALL LETTER E WITH CIRCUMFLEX BELOW,CAPITAL LETTER E WITH TILDE BELOW,
SMALL LETTER E WITH TILDE BELOW,CAPITAL LETTER E WITH CEDILLA AND BREVE,
SMALL LETTER E WITH CEDILLA AND BREVE,CAPITAL LETTER F WITH DOT ABOVE,
SMALL LETTER F WITH DOT ABOVE,CAPITAL LETTER G WITH MACRON,SMALL LETTER G WITH MACRON,
CAPITAL LETTER H WITH DOT ABOVE,SMALL LETTER H WITH DOT ABOVE,CAPITAL LETTER H WITH DOT BELOW,
SMALL LETTER H WITH DOT BELOW,CAPITAL LETTER H WITH DIAERESIS,SMALL LETTER H WITH DIAERESIS,
CAPITAL LETTER H WITH CEDILLA,SMALL LETTER H WITH CEDILLA,CAPITAL LETTER H WITH BREVE BELOW,
SMALL LETTER H WITH BREVE BELOW,CAPITAL LETTER I WITH TILDE BELOW,SMALL LETTER I WITH TILDE BELOW,
CAPITAL LETTER I WITH DIAERESIS AND ACUTE,SMALL LETTER I WITH DIAERESIS AND ACUTE,
CAPITAL LETTER K WITH ACUTE,SMALL LETTER K WITH ACUTE,CAPITAL LETTER K WITH DOT BELOW,
SMALL LETTER K WITH DOT BELOW,CAPITAL LETTER K WITH LINE BELOW,SMALL LETTER K WITH LINE BELOW,
CAPITAL LETTER L WITH DOT BELOW,SMALL LETTER L WITH DOT BELOW,
CAPITAL LETTER L WITH DOT BELOW AND MACRON,SMALL LETTER L WITH DOT BELOW AND MACRON,
CAPITAL LETTER L WITH LINE BELOW,SMALL LETTER L WITH LINE BELOW,
CAPITAL LETTER L WITH CIRCUMFLEX BELOW,SMALL LETTER L WITH CIRCUMFLEX BELOW,
CAPITAL LETTER M WITH ACUTE,SMALL LETTER M WITH ACUTE,CAPITAL LETTER M WITH DOT ABOVE,
SMALL LETTER M WITH DOT ABOVE,CAPITAL LETTER M WITH DOT BELOW,SMALL LETTER M WITH DOT BELOW,
CAPITAL LETTER N WITH DOT ABOVE,SMALL LETTER N WITH DOT ABOVE,CAPITAL LETTER N WITH DOT BELOW,
SMALL LETTER N WITH DOT BELOW,CAPITAL LETTER N WITH LINE BELOW,SMALL LETTER N WITH LINE BELOW,
CAPITAL LETTER N WITH CIRCUMFLEX BELOW,SMALL LETTER N WITH CIRCUMFLEX BELOW,
CAPITAL LETTER O WITH TILDE AND ACUTE,SMALL LETTER O WITH TILDE AND ACUTE,
CAPITAL LETTER O WITH TILDE AND DIAERESIS,SMALL LETTER O WITH TILDE AND DIAERESIS,
CAPITAL LETTER O WITH MACRON AND GRAVE,SMALL LETTER O WITH MACRON AND GRAVE,
CAPITAL LETTER O WITH MACRON AND ACUTE,SMALL LETTER O WITH MACRON AND ACUTE,
CAPITAL LETTER P WITH ACUTE,SMALL LETTER P WITH ACUTE,CAPITAL LETTER P WITH DOT ABOVE,
SMALL LETTER P WITH DOT ABOVE,CAPITAL LETTER R WITH DOT ABOVE,SMALL LETTER R WITH DOT ABOVE,
CAPITAL LETTER R WITH DOT BELOW,SMALL LETTER R WITH DOT BELOW,
CAPITAL LETTER R WITH DOT BELOW AND MACRON,SMALL LETTER R WITH DOT BELOW AND MACRON,
CAPITAL LETTER R WITH LINE BELOW,SMALL LETTER R WITH LINE BELOW,CAPITAL LETTER S WITH DOT ABOVE,
SMALL LETTER S WITH DOT ABOVE,CAPITAL LETTER S WITH DOT BELOW,SMALL LETTER S WITH DOT BELOW,
CAPITAL LETTER S WITH ACUTE AND DOT ABOVE,SMALL LETTER S WITH ACUTE AND DOT ABOVE,
CAPITAL LETTER S WITH CARON AND DOT ABOVE,SMALL LETTER S WITH CARON AND DOT ABOVE,
CAPITAL LETTER S WITH DOT BELOW AND DOT ABOVE,SMALL LETTER S WITH DOT BELOW AND DOT ABOVE,
CAPITAL LETTER T WITH DOT ABOVE,SMALL LETTER T WITH DOT ABOVE,CAPITAL LETTER T WITH DOT BELOW,
SMALL LETTER T WITH DOT BELOW,CAPITAL LETTER T WITH LINE BELOW,SMALL LETTER T WITH LINE BELOW,
CAPITAL LETTER T WITH CIRCUMFLEX BELOW,SMALL LETTER T WITH CIRCUMFLEX BELOW,
CAPITAL LETTER U WITH DIAERESIS BELOW,SMALL LETTER U WITH DIAERESIS BELOW,
CAPITAL LETTER U WITH TILDE BELOW,SMALL LETTER U WITH TILDE BELOW,
CAPITAL LETTER U WITH CIRCUMFLEX BELOW,SMALL LETTER U WITH CIRCUMFLEX BELOW,
CAPITAL LETTER U WITH TILDE AND ACUTE,SMALL LETTER U WITH TILDE AND ACUTE,
CAPITAL LETTER U WITH MACRON AND DIAERESIS,SMALL LETTER U WITH MACRON AND DIAERESIS,
CAPITAL LETTER V WITH TILDE,SMALL LETTER V WITH TILDE,CAPITAL LETTER V WITH DOT BELOW,
SMALL LETTER V WITH DOT BELOW,CAPITAL LETTER W WITH GRAVE,SMALL LETTER W WITH GRAVE,
CAPITAL LETTER W WITH ACUTE,SMALL LETTER W WITH ACUTE,CAPITAL LETTER W WITH DIAERESIS,
SMALL LETTER W WITH DIAERESIS,CAPITAL LETTER W WITH DOT ABOVE,SMALL LETTER W WITH DOT ABOVE,
CAPITAL LETTER W WITH DOT BELOW,SMALL LETTER W WITH DOT BELOW,CAPITAL LETTER X WITH DOT ABOVE,
SMALL LETTER X WITH DOT ABOVE,CAPITAL LETTER X WITH DIAERESIS,SMALL LETTER X WITH DIAERESIS,
CAPITAL LETTER Y WITH DOT ABOVE,SMALL LETTER Y WITH DOT ABOVE,CAPITAL LETTER Z WITH CIRCUMFLEX,
SMALL LETTER Z WITH CIRCUMFLEX,CAPITAL LETTER Z WITH DOT BELOW,SMALL LETTER Z WITH DOT BELOW,
CAPITAL LETTER Z WITH LINE BELOW;7829:LATIN SMALL LETTER :Z WITH LINE BELOW,H WITH LINE BELOW,
T WITH DIAERESIS,W WITH RING ABOVE,Y WITH RING ABOVE,A WITH RIGHT HALF RING,LONG S WITH DOT ABOVE,
LONG S WITH DIAGONAL STROKE,LONG S WITH HIGH STROKE;7838:LATIN :CAPITAL LETTER SHARP S,
SMALL LETTER DELTA,CAPITAL LETTER A WITH DOT BELOW,SMALL LETTER A WITH DOT BELOW,
CAPITAL LETTER A WITH HOOK ABOVE,SMALL LETTER A WITH HOOK ABOVE,
CAPITAL LETTER A WITH CIRCUMFLEX AND ACUTE,SMALL LETTER A WITH CIRCUMFLEX AND ACUTE,
CAPITAL LETTER A WITH CIRCUMFLEX AND GRAVE,SMALL LETTER A WITH CIRCUMFLEX AND GRAVE,
CAPITAL LETTER A WITH CIRCUMFLEX AND HOOK ABOVE,SMALL LETTER A WITH CIRCUMFLEX AND HOOK ABOVE,
CAPITAL LETTER A WITH CIRCUMFLEX AND TILDE,SMALL LETTER A WITH CIRCUMFLEX AND TILDE,
CAPITAL LETTER A WITH CIRCUMFLEX AND DOT BELOW,SMALL LETTER A WITH CIRCUMFLEX AND DOT BELOW,
CAPITAL LETTER A WITH BREVE AND ACUTE,SMALL LETTER A WITH BREVE AND ACUTE,
CAPITAL LETTER A WITH BREVE AND GRAVE,SMALL LETTER A WITH BREVE AND GRAVE,
CAPITAL LETTER A WITH BREVE AND HOOK ABOVE,SMALL LETTER A WITH BREVE AND HOOK ABOVE,
CAPITAL LETTER A WITH BREVE AND TILDE,SMALL LETTER A WITH BREVE AND TILDE,
CAPITAL LETTER A WITH BREVE AND DOT BELOW,SMALL LETTER A WITH BREVE AND DOT BELOW,
CAPITAL LETTER E WITH DOT BELOW,SMALL LETTER E WITH DOT BELOW,CAPITAL LETTER E WITH HOOK ABOVE,
SMALL LETTER E WITH HOOK ABOVE,CAPITAL LETTER E WITH TILDE,SMALL LETTER E WITH TILDE,
CAPITAL LETTER E WITH CIRCUMFLEX AND ACUTE,SMALL LETTER E WITH CIRCUMFLEX AND ACUTE,
CAPITAL LETTER E WITH CIRCUMFLEX AND GRAVE,SMALL LETTER E WITH CIRCUMFLEX AND GRAVE,
CAPITAL LETTER E WITH CIRCUMFLEX AND HOOK ABOVE,SMALL LETTER E WITH CIRCUMFLEX AND HOOK ABOVE,
CAPITAL LETTER E WITH CIRCUMFLEX AND TILDE,SMALL LETTER E WITH CIRCUMFLEX AND TILDE,
CAPITAL LETTER E WITH CIRCUMFLEX AND DOT BELOW,SMALL LETTER E WITH CIRCUMFLEX AND DOT BELOW,
CAPITAL LETTER I WITH HOOK ABOVE,SMALL LETTER I WITH HOOK ABOVE,CAPITAL LETTER I WITH DOT BELOW,
SMALL LETTER I WITH DOT BELOW,CAPITAL LETTER O WITH DOT BELOW,SMALL LETTER O WITH DOT BELOW,
CAPITAL LETTER O WITH HOOK ABOVE,SMALL LETTER O WITH HOOK ABOVE,
CAPITAL LETTER O WITH CIRCUMFLEX AND ACUTE,SMALL LETTER O WITH CIRCUMFLEX AND ACUTE,
CAPITAL LETTER O WITH CIRCUMFLEX AND GRAVE,SMALL LETTER O WITH CIRCUMFLEX AND GRAVE,
CAPITAL LETTER O WITH CIRCUMFLEX AND HOOK ABOVE,SMALL LETTER O WITH CIRCUMFLEX AND HOOK ABOVE,
CAPITAL LETTER O WITH CIRCUMFLEX AND TILDE,SMALL LETTER O WITH CIRCUMFLEX AND TILDE,
CAPITAL LETTER O WITH CIRCUMFLEX AND DOT BELOW,SMALL LETTER O WITH CIRCUMFLEX AND DOT BELOW,
CAPITAL LETTER O WITH HORN AND ACUTE,SMALL LETTER O WITH HORN AND ACUTE,
CAPITAL LETTER O WITH HORN AND GRAVE,SMALL LETTER O WITH HORN AND GRAVE,
CAPITAL LETTER O WITH HORN AND HOOK ABOVE,SMALL LETTER O WITH HORN AND HOOK ABOVE,
CAPITAL LETTER O WITH HORN AND TILDE,SMALL LETTER O WITH HORN AND TILDE,
CAPITAL LETTER O WITH HORN AND DOT BELOW,SMALL LETTER O WITH HORN AND DOT BELOW,
CAPITAL LETTER U WITH DOT BELOW,SMALL LETTER U WITH DOT BELOW,CAPITAL LETTER U WITH HOOK ABOVE,
SMALL LETTER U WITH HOOK ABOVE,CAPITAL LETTER U WITH HORN AND ACUTE,
SMALL LETTER U WITH HORN AND ACUTE,CAPITAL LETTER U WITH HORN AND GRAVE,
SMALL LETTER U WITH HORN AND GRAVE,CAPITAL LETTER U WITH HORN AND HOOK ABOVE,
SMALL LETTER U WITH HORN AND HOOK ABOVE,CAPITAL LETTER U WITH HORN AND TILDE,
SMALL LETTER U WITH HORN AND TILDE,CAPITAL LETTER U WITH HORN AND DOT BELOW,
SMALL LETTER U WITH HORN AND DOT BELOW,CAPITAL LETTER Y WITH GRAVE,SMALL LETTER Y WITH GRAVE,
CAPITAL LETTER Y WITH DOT BELOW,SMALL LETTER Y WITH DOT BELOW,CAPITAL LETTER Y WITH HOOK ABOVE,
SMALL LETTER Y WITH HOOK ABOVE,CAPITAL LETTER Y WITH TILDE,SMALL LETTER Y WITH TILDE,
CAPITAL LETTER MIDDLE-WELSH LL,SMALL LETTER MIDDLE-WELSH LL,CAPITAL LETTER MIDDLE-WELSH V,
SMALL LETTER MIDDLE-WELSH V,CAPITAL LETTER Y WITH LOOP,SMALL LETTER Y WITH LOOP;7936:
GREEK SMALL LETTER ALPHA WITH :PSILI,DASIA,PSILI AND VARIA,DASIA AND VARIA,PSILI AND OXIA,
DASIA AND OXIA,PSILI AND PERISPOMENI,DASIA AND PERISPOMENI;7944:GREEK CAPITAL LETTER ALPHA WITH :
PSILI,DASIA,PSILI AND VARIA,DASIA AND VARIA,PSILI AND OXIA,DASIA AND OXIA,PSILI AND PERISPOMENI,
DASIA AND PERISPOMENI;7952:GREEK SMALL LETTER EPSILON WITH :PSILI,DASIA,PSILI AND VARIA,
DASIA AND VARIA,PSILI AND OXIA,DASIA AND OXIA;7960:GREEK CAPITAL LETTER EPSILON WITH :PSILI,DASIA,
PSILI AND VARIA,DASIA AND VARIA,PSILI AND OXIA,DASIA AND OXIA;7968:GREEK SMALL LETTER ETA WITH :
PSILI,DASIA,PSILI AND VARIA,DASIA AND VARIA,PSILI AND OXIA,DASIA AND OXIA,PSILI AND PERISPOMENI,
DASIA AND PERISPOMENI;7976:GREEK CAPITAL LETTER ETA WITH :PSILI,DASIA,PSILI AND VARIA,
DASIA AND VARIA,PSILI AND OXIA,DASIA AND OXIA,PSILI AND PERISPOMENI,DASIA AND PERISPOMENI;7984:
GREEK SMALL LETTER IOTA WITH :PSILI,DASIA,PSILI AND VARIA,DASIA AND VARIA,PSILI AND OXIA,
DASIA AND OXIA,PSILI AND PERISPOMENI,DASIA AND PERISPOMENI;7992:GREEK CAPITAL LETTER IOTA WITH :
PSILI,DASIA,PSILI AND VARIA,DASIA AND VARIA,PSILI AND OXIA,DASIA AND OXIA,PSILI AND PERISPOMENI,
DASIA AND PERISPOMENI;8000:GREEK SMALL LETTER OMICRON WITH :PSILI,DASIA,PSILI AND VARIA,
DASIA AND VARIA,PSILI AND OXIA,DASIA AND OXIA;8008:GREEK CAPITAL LETTER OMICRON WITH :PSILI,DASIA,
PSILI AND VARIA,DASIA AND VARIA,PSILI AND OXIA,DASIA AND OXIA;8016:
GREEK SMALL LETTER UPSILON WITH :PSILI,DASIA,PSILI AND VARIA,DASIA AND VARIA,PSILI AND OXIA,
DASIA AND OXIA,PSILI AND PERISPOMENI,DASIA AND PERISPOMENI;8025:
GREEK CAPITAL LETTER UPSILON WITH :DASIA,,DASIA AND VARIA,,DASIA AND OXIA,,DASIA AND PERISPOMENI;
8032:GREEK SMALL LETTER OMEGA WITH :PSILI,DASIA,PSILI AND VARIA,DASIA AND VARIA,PSILI AND OXIA,
DASIA AND OXIA,PSILI AND PERISPOMENI,DASIA AND PERISPOMENI;8040:GREEK CAPITAL LETTER OMEGA WITH :
PSILI,DASIA,PSILI AND VARIA,DASIA AND VARIA,PSILI AND OXIA,DASIA AND OXIA,PSILI AND PERISPOMENI,
DASIA AND PERISPOMENI;8048:GREEK SMALL LETTER :ALPHA WITH VARIA,ALPHA WITH OXIA,
EPSILON WITH VARIA,EPSILON WITH OXIA,ETA WITH VARIA,ETA WITH OXIA,IOTA WITH VARIA,IOTA WITH OXIA,
OMICRON WITH VARIA,OMICRON WITH OXIA,UPSILON WITH VARIA,UPSILON WITH OXIA,OMEGA WITH VARIA,
OMEGA WITH OXIA;8064:GREEK SMALL LETTER ALPHA WITH :PSILI AND YPOGEGRAMMENI,
DASIA AND YPOGEGRAMMENI,PSILI AND VARIA AND YPOGEGRAMMENI,DASIA AND VARIA AND YPOGEGRAMMENI,
PSILI AND OXIA AND YPOGEGRAMMENI,DASIA AND OXIA AND YPOGEGRAMMENI,
PSILI AND PERISPOMENI AND YPOGEGRAMMENI,DASIA AND PERISPOMENI AND YPOGEGRAMMENI;8072:
GREEK CAPITAL LETTER ALPHA WITH :PSILI AND PROSGEGRAMMENI,DASIA AND PROSGEGRAMMENI,
PSILI AND VARIA AND PROSGEGRAMMENI,DASIA AND VARIA AND PROSGEGRAMMENI,
PSILI AND OXIA AND PROSGEGRAMMENI,DASIA AND OXIA AND PROSGEGRAMMENI,
PSILI AND PERISPOMENI AND PROSGEGRAMMENI,DASIA AND PERISPOMENI AND PROSGEGRAMMENI;8080:
GREEK SMALL LETTER ETA WITH :PSILI AND YPOGEGRAMMENI,DASIA AND YPOGEGRAMMENI,
PSILI AND VARIA AND YPOGEGRAMMENI,DASIA AND VARIA AND YPOGEGRAMMENI,
PSILI AND OXIA AND YPOGEGRAMMENI,DASIA AND OXIA AND YPOGEGRAMMENI,
PSILI AND PERISPOMENI AND YPOGEGRAMMENI,DASIA AND PERISPOMENI AND YPOGEGRAMMENI;8088:
GREEK CAPITAL LETTER ETA WITH :PSILI AND PROSGEGRAMMENI,DASIA AND PROSGEGRAMMENI,
PSILI AND VARIA AND PROSGEGRAMMENI,DASIA AND VARIA AND PROSGEGRAMMENI,
PSILI AND OXIA AND PROSGEGRAMMENI,DASIA AND OXIA AND PROSGEGRAMMENI,
PSILI AND PERISPOMENI AND PROSGEGRAMMENI,DASIA AND PERISPOMENI AND PROSGEGRAMMENI;8096:
GREEK SMALL LETTER OMEGA WITH :PSILI AND YPOGEGRAMMENI,DASIA AND YPOGEGRAMMENI,
PSILI AND VARIA AND YPOGEGRAMMENI,DASIA AND VARIA AND YPOGEGRAMMENI,
PSILI AND OXIA AND YPOGEGRAMMENI,DASIA AND OXIA AND YPOGEGRAMMENI,
PSILI AND PERISPOMENI AND YPOGEGRAMMENI,DASIA AND PERISPOMENI AND YPOGEGRAMMENI;8104:
GREEK CAPITAL LETTER OMEGA WITH :PSILI AND PROSGEGRAMMENI,DASIA AND PROSGEGRAMMENI,
PSILI AND VARIA AND PROSGEGRAMMENI,DASIA AND VARIA AND PROSGEGRAMMENI,
PSILI AND OXIA AND PROSGEGRAMMENI,DASIA AND OXIA AND PROSGEGRAMMENI,
PSILI AND PERISPOMENI AND PROSGEGRAMMENI,DASIA AND PERISPOMENI AND PROSGEGRAMMENI;8112:
GREEK SMALL LETTER ALPHA WITH :VRACHY,MACRON,VARIA AND YPOGEGRAMMENI,YPOGEGRAMMENI,
OXIA AND YPOGEGRAMMENI,,PERISPOMENI,PERISPOMENI AND YPOGEGRAMMENI;8120:
GREEK CAPITAL LETTER ALPHA WITH :VRACHY,MACRON,VARIA,OXIA,PROSGEGRAMMENI;8125:GREEK :KORONIS,
PROSGEGRAMMENI,PSILI,PERISPOMENI,DIALYTIKA AND PERISPOMENI;8130:GREEK SMALL LETTER ETA WITH :
VARIA AND YPOGEGRAMMENI,YPOGEGRAMMENI,OXIA AND YPOGEGRAMMENI,,PERISPOMENI,
PERISPOMENI AND YPOGEGRAMMENI;8136:GREEK CAPITAL LETTER EPSILON WITH :VARIA,OXIA;8138:
GREEK CAPITAL LETTER ETA WITH :VARIA,OXIA,PROSGEGRAMMENI;8141:GREEK PSILI AND :VARIA,OXIA,
PERISPOMENI;8144:GREEK SMALL LETTER IOTA WITH :VRACHY,MACRON,DIALYTIKA AND VARIA,
DIALYTIKA AND OXIA,,,PERISPOMENI,DIALYTIKA AND PERISPOMENI;8152:GREEK CAPITAL LETTER IOTA WITH :
VRACHY,MACRON,VARIA,OXIA;8157:GREEK DASIA AND :VARIA,OXIA,PERISPOMENI;8160:
GREEK SMALL LETTER UPSILON WITH :VRACHY,MACRON,DIALYTIKA AND VARIA,DIALYTIKA AND OXIA;8164:
GREEK SMALL LETTER :RHO WITH PSILI,RHO WITH DASIA,UPSILON WITH PERISPOMENI,
UPSILON WITH DIALYTIKA AND PERISPOMENI;8168:GREEK CAPITAL LETTER UPSILON WITH :VRACHY,MACRON,
VARIA,OXIA;8172:GREEK :CAPITAL LETTER RHO WITH DASIA,DIALYTIKA AND VARIA,DIALYTIKA AND OXIA,VARIA;
8178:GREEK SMALL LETTER OMEGA WITH :VARIA AND YPOGEGRAMMENI,YPOGEGRAMMENI,OXIA AND YPOGEGRAMMENI,,
PERISPOMENI,PERISPOMENI AND YPOGEGRAMMENI;8184:GREEK CAPITAL LETTER OMICRON WITH :VARIA,OXIA;8186:
GREEK CAPITAL LETTER OMEGA WITH :VARIA,OXIA,PROSGEGRAMMENI;8189::GREEK OXIA,GREEK DASIA,,EN QUAD;
8193::EM QUAD,EN SPACE,EM SPACE,THREE-PER-EM SPACE,FOUR-PER-EM SPACE;8198::SIX-PER-EM SPACE,
FIGURE SPACE,PUNCTUATION SPACE,THIN SPACE,HAIR SPACE;8203:ZERO WIDTH :SPACE,NON-JOINER,JOINER;
8206::LEFT-TO-RIGHT MARK,RIGHT-TO-LEFT MARK,HYPHEN,NON-BREAKING HYPHEN;8210::FIGURE DASH,EN DASH,
EM DASH,HORIZONTAL BAR,DOUBLE VERTICAL LINE;8215::DOUBLE LOW LINE,LEFT SINGLE QUOTATION MARK,
RIGHT SINGLE QUOTATION MARK,SINGLE LOW-9 QUOTATION MARK,SINGLE HIGH-REVERSED-9 QUOTATION MARK;
8220::LEFT DOUBLE QUOTATION MARK,RIGHT DOUBLE QUOTATION MARK,DOUBLE LOW-9 QUOTATION MARK,
DOUBLE HIGH-REVERSED-9 QUOTATION MARK,DAGGER;8225::DOUBLE DAGGER,BULLET,TRIANGULAR BULLET,
ONE DOT LEADER,TWO DOT LEADER;8230::HORIZONTAL ELLIPSIS,HYPHENATION POINT,LINE SEPARATOR,
PARAGRAPH SEPARATOR,LEFT-TO-RIGHT EMBEDDING;8235::RIGHT-TO-LEFT EMBEDDING,
POP DIRECTIONAL FORMATTING,LEFT-TO-RIGHT OVERRIDE,RIGHT-TO-LEFT OVERRIDE,NARROW NO-BREAK SPACE;
8240::PER MILLE SIGN,PER TEN THOUSAND SIGN,PRIME,DOUBLE PRIME,TRIPLE PRIME;8245:REVERSED :PRIME,
DOUBLE PRIME,TRIPLE PRIME;8248::CARET,SINGLE LEFT-POINTING ANGLE QUOTATION MARK,
SINGLE RIGHT-POINTING ANGLE QUOTATION MARK,REFERENCE MARK,DOUBLE EXCLAMATION MARK;8253::
INTERROBANG,OVERLINE,UNDERTIE,CHARACTER TIE,CARET INSERTION POINT;8258::ASTERISM,HYPHEN BULLET,
FRACTION SLASH,LEFT SQUARE BRACKET WITH QUILL,RIGHT SQUARE BRACKET WITH QUILL;8263::
DOUBLE QUESTION MARK,QUESTION EXCLAMATION MARK,EXCLAMATION QUESTION MARK,TIRONIAN SIGN ET,
REVERSED PILCROW SIGN;8268:BLACK :LEFTWARDS BULLET,RIGHTWARDS BULLET;8270::LOW ASTERISK,
REVERSED SEMICOLON,CLOSE UP,TWO ASTERISKS ALIGNED VERTICALLY,COMMERCIAL MINUS SIGN;8275::
SWUNG DASH,INVERTED UNDERTIE,FLOWER PUNCTUATION MARK,THREE DOT PUNCTUATION,QUADRUPLE PRIME;8280::
FOUR DOT PUNCTUATION,FIVE DOT PUNCTUATION,TWO DOT PUNCTUATION,FOUR DOT MARK,DOTTED CROSS;8285::
TRICOLON,VERTICAL FOUR DOTS,MEDIUM MATHEMATICAL SPACE,WORD JOINER,FUNCTION APPLICATION;8290:
INVISIBLE :TIMES,SEPARATOR,PLUS;8294::LEFT-TO-RIGHT ISOLATE,RIGHT-TO-LEFT ISOLATE,
FIRST STRONG ISOLATE,POP DIRECTIONAL ISOLATE,INHIBIT SYMMETRIC SWAPPING;8299::
ACTIVATE SYMMETRIC SWAPPING,INHIBIT ARABIC FORM SHAPING,ACTIVATE ARABIC FORM SHAPING,
NATIONAL DIGIT SHAPES,NOMINAL DIGIT SHAPES;8304:SUPERSCRIPT :ZERO,LATIN SMALL LETTER I,,,FOUR,
FIVE,SIX,SEVEN,EIGHT,NINE,PLUS SIGN,MINUS,EQUALS SIGN,LEFT PARENTHESIS,RIGHT PARENTHESIS,
LATIN SMALL LETTER N;8320:SUBSCRIPT :ZERO,ONE,TWO,THREE,FOUR,FIVE,SIX,SEVEN,EIGHT,NINE,PLUS SIGN,
MINUS,EQUALS SIGN,LEFT PARENTHESIS,RIGHT PARENTHESIS;8336:LATIN SUBSCRIPT SMALL LETTER :A,E,O,X,
SCHWA,H,K,L,M,N,P,S,T;8352::EURO-CURRENCY SIGN,COLON SIGN,CRUZEIRO SIGN;8355::FRENCH FRANC SIGN,
LIRA SIGN,MILL SIGN,NAIRA SIGN,PESETA SIGN;8360::RUPEE SIGN,WON SIGN,NEW SHEQEL SIGN,DONG SIGN,
EURO SIGN;8365::KIP SIGN,TUGRIK SIGN,DRACHMA SIGN,GERMAN PENNY SIGN,PESO SIGN;8370::GUARANI SIGN,
AUSTRAL SIGN,HRYVNIA SIGN,CEDI SIGN,LIVRE TOURNOIS SIGN;8375::SPESMILO SIGN,TENGE SIGN,
INDIAN RUPEE SIGN,TURKISH LIRA SIGN,NORDIC MARK SIGN;8380::MANAT SIGN,RUBLE SIGN,LARI SIGN,
BITCOIN SIGN,SOM SIGN;8400:COMBINING :LEFT HARPOON ABOVE,RIGHT HARPOON ABOVE,
LONG VERTICAL LINE OVERLAY,SHORT VERTICAL LINE OVERLAY,ANTICLOCKWISE ARROW ABOVE,
CLOCKWISE ARROW ABOVE,LEFT ARROW ABOVE,RIGHT ARROW ABOVE,RING OVERLAY,CLOCKWISE RING OVERLAY,
ANTICLOCKWISE RING OVERLAY,THREE DOTS ABOVE,FOUR DOTS ABOVE,ENCLOSING CIRCLE,ENCLOSING SQUARE,
ENCLOSING DIAMOND,ENCLOSING CIRCLE BACKSLASH,LEFT RIGHT ARROW ABOVE,ENCLOSING SCREEN,
ENCLOSING KEYCAP,ENCLOSING UPWARD POINTING TRIANGLE,REVERSE SOLIDUS OVERLAY,
DOUBLE VERTICAL STROKE OVERLAY,ANNUITY SYMBOL,TRIPLE UNDERDOT,WIDE BRIDGE ABOVE,
LEFTWARDS ARROW OVERLAY,LONG DOUBLE SOLIDUS OVERLAY,RIGHTWARDS HARPOON WITH BARB DOWNWARDS,
LEFTWARDS HARPOON WITH BARB DOWNWARDS,LEFT ARROW BELOW,RIGHT ARROW BELOW,ASTERISK ABOVE;8448::
ACCOUNT OF,ADDRESSED TO THE SUBJECT,DOUBLE-STRUCK CAPITAL C,DEGREE CELSIUS,CENTRE LINE SYMBOL;
8453::CARE OF,CADA UNA,EULER CONSTANT,SCRUPLE,DEGREE FAHRENHEIT;8458::SCRIPT SMALL G,
SCRIPT CAPITAL H,BLACK-LETTER CAPITAL H,DOUBLE-STRUCK CAPITAL H,PLANCK CONSTANT;8463::
PLANCK CONSTANT OVER TWO PI,SCRIPT CAPITAL I,BLACK-LETTER CAPITAL I,SCRIPT CAPITAL L,
SCRIPT SMALL L;8468::L B BAR SYMBOL,DOUBLE-STRUCK CAPITAL N,NUMERO SIGN,SOUND RECORDING COPYRIGHT,
SCRIPT CAPITAL P;8473:DOUBLE-STRUCK CAPITAL :P,Q;8475::SCRIPT CAPITAL R,BLACK-LETTER CAPITAL R,
DOUBLE-STRUCK CAPITAL R,PRESCRIPTION TAKE,RESPONSE;8480::SERVICE MARK,TELEPHONE SIGN,
TRADE MARK SIGN,VERSICLE,DOUBLE-STRUCK CAPITAL Z;8485::OUNCE SIGN,OHM SIGN,INVERTED OHM SIGN,
BLACK-LETTER CAPITAL Z,TURNED GREEK SMALL LETTER IOTA;8490::KELVIN SIGN,ANGSTROM SIGN,
SCRIPT CAPITAL B,BLACK-LETTER CAPITAL C,ESTIMATED SYMBOL;8495:SCRIPT :SMALL E,CAPITAL E,CAPITAL F;
8498::TURNED CAPITAL F,SCRIPT CAPITAL M,SCRIPT SMALL O,ALEF SYMBOL,BET SYMBOL;8503::GIMEL SYMBOL,
DALET SYMBOL,INFORMATION SOURCE,ROTATED CAPITAL Q,FACSIMILE SIGN;8508:DOUBLE-STRUCK :SMALL PI,
SMALL GAMMA,CAPITAL GAMMA,CAPITAL PI,N-ARY SUMMATION;8513:TURNED SANS-SERIF CAPITAL :G,L;8515::
REVERSED SANS-SERIF CAPITAL L,TURNED SANS-SERIF CAPITAL Y;8517:DOUBLE-STRUCK ITALIC :CAPITAL D,
SMALL D,SMALL E,SMALL I,SMALL J;8522::PROPERTY LINE;8523::TURNED AMPERSAND,PER SIGN,AKTIESELSKAB,
TURNED SMALL F,SYMBOL FOR SAMARITAN SOURCE;8528:VULGAR FRACTION :ONE SEVENTH,ONE NINTH,ONE TENTH,
ONE THIRD,TWO THIRDS,ONE FIFTH,TWO FIFTHS,THREE FIFTHS,FOUR FIFTHS,ONE SIXTH,FIVE SIXTHS,
ONE EIGHTH,THREE EIGHTHS,FIVE EIGHTHS,SEVEN EIGHTHS;8543::FRACTION NUMERATOR ONE;8544:
ROMAN NUMERAL :ONE,TWO,THREE,FOUR,FIVE,SIX,SEVEN,EIGHT,NINE,TEN,ELEVEN,TWELVE,FIFTY,ONE HUNDRED,
FIVE HUNDRED,ONE THOUSAND;8560:SMALL ROMAN NUMERAL :ONE,TWO,THREE,FOUR,FIVE,SIX,SEVEN,EIGHT,NINE,
TEN,ELEVEN,TWELVE,FIFTY,ONE HUNDRED,FIVE HUNDRED,ONE THOUSAND;8576:ROMAN NUMERAL :
ONE THOUSAND C D,FIVE THOUSAND,TEN THOUSAND,REVERSED ONE HUNDRED;8580::
LATIN SMALL LETTER REVERSED C;8581:ROMAN NUMERAL :SIX LATE FORM,FIFTY EARLY FORM,FIFTY THOUSAND,
ONE HUNDRED THOUSAND;8585::VULGAR FRACTION ZERO THIRDS;8586:TURNED DIGIT :TWO,THREE;8592::
LEFTWARDS ARROW,UPWARDS ARROW,RIGHTWARDS ARROW,DOWNWARDS ARROW;8596::LEFT RIGHT ARROW,
UP DOWN ARROW,NORTH WEST ARROW,NORTH EAST ARROW,SOUTH EAST ARROW;8601::SOUTH WEST ARROW,
LEFTWARDS ARROW WITH STROKE,RIGHTWARDS ARROW WITH STROKE,LEFTWARDS WAVE ARROW,
RIGHTWARDS WAVE ARROW;8606::LEFTWARDS TWO HEADED ARROW,UPWARDS TWO HEADED ARROW,
RIGHTWARDS TWO HEADED ARROW,DOWNWARDS TWO HEADED ARROW,LEFTWARDS ARROW WITH TAIL;8611::
RIGHTWARDS ARROW WITH TAIL,LEFTWARDS ARROW FROM BAR,UPWARDS ARROW FROM BAR,
RIGHTWARDS ARROW FROM BAR,DOWNWARDS ARROW FROM BAR;8616::UP DOWN ARROW WITH BASE,
LEFTWARDS ARROW WITH HOOK,RIGHTWARDS ARROW WITH HOOK,LEFTWARDS ARROW WITH LOOP,
RIGHTWARDS ARROW WITH LOOP;8621:LEFT RIGHT :WAVE ARROW,ARROW WITH STROKE;8623::
DOWNWARDS ZIGZAG ARROW;8624:UPWARDS ARROW WITH TIP :LEFTWARDS,RIGHTWARDS;8626:
DOWNWARDS ARROW WITH TIP :LEFTWARDS,RIGHTWARDS;8628::RIGHTWARDS ARROW WITH CORNER DOWNWARDS,
DOWNWARDS ARROW WITH CORNER LEFTWARDS,ANTICLOCKWISE TOP SEMICIRCLE ARROW;8631::
CLOCKWISE TOP SEMICIRCLE ARROW,NORTH WEST ARROW TO LONG BAR,
LEFTWARDS ARROW TO BAR OVER RIGHTWARDS ARROW TO BAR,ANTICLOCKWISE OPEN CIRCLE ARROW,
CLOCKWISE OPEN CIRCLE ARROW;8636:LEFTWARDS HARPOON WITH BARB :UPWARDS,DOWNWARDS;8638:
UPWARDS HARPOON WITH BARB :RIGHTWARDS,LEFTWARDS;8640:RIGHTWARDS HARPOON WITH BARB :UPWARDS,
DOWNWARDS;8642:DOWNWARDS HARPOON WITH BARB :RIGHTWARDS,LEFTWARDS;8644::
RIGHTWARDS ARROW OVER LEFTWARDS ARROW,UPWARDS ARROW LEFTWARDS OF DOWNWARDS ARROW;8646:LEFTWARDS :
ARROW OVER RIGHTWARDS ARROW,PAIRED ARROWS;8648::UPWARDS PAIRED ARROWS,RIGHTWARDS PAIRED ARROWS,
DOWNWARDS PAIRED ARROWS,LEFTWARDS HARPOON OVER RIGHTWARDS HARPOON;8652::
RIGHTWARDS HARPOON OVER LEFTWARDS HARPOON,LEFTWARDS DOUBLE ARROW WITH STROKE,
LEFT RIGHT DOUBLE ARROW WITH STROKE,RIGHTWARDS DOUBLE ARROW WITH STROKE,LEFTWARDS DOUBLE ARROW;
8657::UPWARDS DOUBLE ARROW,RIGHTWARDS DOUBLE ARROW,DOWNWARDS DOUBLE ARROW,LEFT RIGHT DOUBLE ARROW,
UP DOWN DOUBLE ARROW;8662::NORTH WEST DOUBLE ARROW,NORTH EAST DOUBLE ARROW,
SOUTH EAST DOUBLE ARROW,SOUTH WEST DOUBLE ARROW,LEFTWARDS TRIPLE ARROW;8667::
RIGHTWARDS TRIPLE ARROW,LEFTWARDS SQUIGGLE ARROW,RIGHTWARDS SQUIGGLE ARROW,
UPWARDS ARROW WITH DOUBLE STROKE,DOWNWARDS ARROW WITH DOUBLE STROKE;8672::LEFTWARDS DASHED ARROW,
UPWARDS DASHED ARROW,RIGHTWARDS DASHED ARROW,DOWNWARDS DASHED ARROW,LEFTWARDS ARROW TO BAR;8677::
RIGHTWARDS ARROW TO BAR,LEFTWARDS WHITE ARROW,UPWARDS WHITE ARROW,RIGHTWARDS WHITE ARROW,
DOWNWARDS WHITE ARROW;8682:UPWARDS WHITE ARROW :FROM BAR,ON PEDESTAL,
ON PEDESTAL WITH HORIZONTAL BAR,ON PEDESTAL WITH VERTICAL BAR;8686:UPWARDS WHITE DOUBLE :ARROW,
ARROW ON PEDESTAL;8688::RIGHTWARDS WHITE ARROW FROM WALL,NORTH WEST ARROW TO CORNER,
SOUTH EAST ARROW TO CORNER,UP DOWN WHITE ARROW,RIGHT ARROW WITH SMALL CIRCLE;8693::
DOWNWARDS ARROW LEFTWARDS OF UPWARDS ARROW,THREE RIGHTWARDS ARROWS,
LEFTWARDS ARROW WITH VERTICAL STROKE,RIGHTWARDS ARROW WITH VERTICAL STROKE,
LEFT RIGHT ARROW WITH VERTICAL STROKE;8698::LEFTWARDS ARROW WITH DOUBLE VERTICAL STROKE,
RIGHTWARDS ARROW WITH DOUBLE VERTICAL STROKE,LEFT RIGHT ARROW WITH DOUBLE VERTICAL STROKE,
LEFTWARDS OPEN-HEADED ARROW,RIGHTWARDS OPEN-HEADED ARROW;8703::LEFT RIGHT OPEN-HEADED ARROW,
FOR ALL,COMPLEMENT,PARTIAL DIFFERENTIAL,THERE EXISTS;8708::THERE DOES NOT EXIST,EMPTY SET,
INCREMENT,NABLA,ELEMENT OF;8713::NOT AN ELEMENT OF,SMALL ELEMENT OF,CONTAINS AS MEMBER,
DOES NOT CONTAIN AS MEMBER,SMALL CONTAINS AS MEMBER;8718::END OF PROOF,N-ARY PRODUCT,
N-ARY COPRODUCT,N-ARY SUMMATION,MINUS SIGN;8723::MINUS-OR-PLUS SIGN,DOT PLUS,DIVISION SLASH,
SET MINUS,ASTERISK OPERATOR;8728::RING OPERATOR,BULLET OPERATOR,SQUARE ROOT,CUBE ROOT,FOURTH ROOT;
8733::PROPORTIONAL TO,INFINITY,RIGHT ANGLE,ANGLE,MEASURED ANGLE;8738::SPHERICAL ANGLE,DIVIDES,
DOES NOT DIVIDE,PARALLEL TO,NOT PARALLEL TO;8743::LOGICAL AND,LOGICAL OR,INTERSECTION,UNION,
INTEGRAL;8748::DOUBLE INTEGRAL,TRIPLE INTEGRAL,CONTOUR INTEGRAL,SURFACE INTEGRAL,VOLUME INTEGRAL;
8753:CLOCKWISE :INTEGRAL,CONTOUR INTEGRAL;8755::ANTICLOCKWISE CONTOUR INTEGRAL,THEREFORE,BECAUSE;
8758::RATIO,PROPORTION,DOT MINUS,EXCESS,GEOMETRIC PROPORTION;8763::HOMOTHETIC,TILDE OPERATOR,
REVERSED TILDE,INVERTED LAZY S,SINE WAVE;8768::WREATH PRODUCT,NOT TILDE,MINUS TILDE,
ASYMPTOTICALLY EQUAL TO,NOT ASYMPTOTICALLY EQUAL TO;8773:APPROXIMATELY :EQUAL TO,
BUT NOT ACTUALLY EQUAL TO;8775::NEITHER APPROXIMATELY NOR ACTUALLY EQUAL TO,ALMOST EQUAL TO,
NOT ALMOST EQUAL TO,ALMOST EQUAL OR EQUAL TO,TRIPLE TILDE;8780::ALL EQUAL TO,EQUIVALENT TO,
GEOMETRICALLY EQUIVALENT TO,DIFFERENCE BETWEEN,APPROACHES THE LIMIT;8785::GEOMETRICALLY EQUAL TO,
APPROXIMATELY EQUAL TO OR THE IMAGE OF,IMAGE OF OR APPROXIMATELY EQUAL TO,COLON EQUALS,
EQUALS COLON;8790::RING IN EQUAL TO,RING EQUAL TO,CORRESPONDS TO,ESTIMATES,EQUIANGULAR TO;8795::
STAR EQUALS,DELTA EQUAL TO,EQUAL TO BY DEFINITION,MEASURED BY,QUESTIONED EQUAL TO;8800::
NOT EQUAL TO,IDENTICAL TO,NOT IDENTICAL TO,STRICTLY EQUIVALENT TO,LESS-THAN OR EQUAL TO;8805::
GREATER-THAN OR EQUAL TO,LESS-THAN OVER EQUAL TO,GREATER-THAN OVER EQUAL TO,
LESS-THAN BUT NOT EQUAL TO,GREATER-THAN BUT NOT EQUAL TO;8810::MUCH LESS-THAN,MUCH GREATER-THAN,
BETWEEN,NOT EQUIVALENT TO,NOT LESS-THAN;8815::NOT GREATER-THAN,NEITHER LESS-THAN NOR EQUAL TO,
NEITHER GREATER-THAN NOR EQUAL TO,LESS-THAN OR EQUIVALENT TO,GREATER-THAN OR EQUIVALENT TO;8820::
NEITHER LESS-THAN NOR EQUIVALENT TO,NEITHER GREATER-THAN NOR EQUIVALENT TO,
LESS-THAN OR GREATER-THAN,GREATER-THAN OR LESS-THAN,NEITHER LESS-THAN NOR GREATER-THAN;8825::
NEITHER GREATER-THAN NOR LESS-THAN,PRECEDES,SUCCEEDS,PRECEDES OR EQUAL TO,SUCCEEDS OR EQUAL TO;
8830::PRECEDES OR EQUIVALENT TO,SUCCEEDS OR EQUIVALENT TO,DOES NOT PRECEDE,DOES NOT SUCCEED,
SUBSET OF;8835::SUPERSET OF,NOT A SUBSET OF,NOT A SUPERSET OF,SUBSET OF OR EQUAL TO,
SUPERSET OF OR EQUAL TO;8840:NEITHER A :SUBSET OF NOR EQUAL TO,SUPERSET OF NOR EQUAL TO;8842::
SUBSET OF WITH NOT EQUAL TO,SUPERSET OF WITH NOT EQUAL TO,MULTISET,MULTISET MULTIPLICATION,
MULTISET UNION;8847:SQUARE :IMAGE OF,ORIGINAL OF,IMAGE OF OR EQUAL TO,ORIGINAL OF OR EQUAL TO,CAP,
CUP;8853:CIRCLED :PLUS,MINUS,TIMES,DIVISION SLASH,DOT OPERATOR,RING OPERATOR,ASTERISK OPERATOR,
EQUALS,DASH;8862:SQUARED :PLUS,MINUS,TIMES,DOT OPERATOR;8866::RIGHT TACK,LEFT TACK,DOWN TACK,
UP TACK,ASSERTION;8871::MODELS,TRUE,FORCES,TRIPLE VERTICAL BAR RIGHT TURNSTILE,
DOUBLE VERTICAL BAR DOUBLE RIGHT TURNSTILE;8876::DOES NOT PROVE,NOT TRUE,DOES NOT FORCE,
NEGATED DOUBLE VERTICAL BAR DOUBLE RIGHT TURNSTILE,PRECEDES UNDER RELATION;8881::
SUCCEEDS UNDER RELATION,NORMAL SUBGROUP OF,CONTAINS AS NORMAL SUBGROUP,
NORMAL SUBGROUP OF OR EQUAL TO,CONTAINS AS NORMAL SUBGROUP OR EQUAL TO;8886::ORIGINAL OF,IMAGE OF,
MULTIMAP,HERMITIAN CONJUGATE MATRIX,INTERCALATE;8891::XOR,NAND,NOR,RIGHT ANGLE WITH ARC,
RIGHT TRIANGLE;8896:N-ARY :LOGICAL AND,LOGICAL OR,INTERSECTION,UNION;8900::DIAMOND OPERATOR,
DOT OPERATOR,STAR OPERATOR,DIVISION TIMES,BOWTIE;8905::LEFT NORMAL FACTOR SEMIDIRECT PRODUCT,
RIGHT NORMAL FACTOR SEMIDIRECT PRODUCT,LEFT SEMIDIRECT PRODUCT,RIGHT SEMIDIRECT PRODUCT,
REVERSED TILDE EQUALS;8910:CURLY LOGICAL :OR,AND;8912:DOUBLE :SUBSET,SUPERSET,INTERSECTION,UNION;
8916::PITCHFORK,EQUAL AND PARALLEL TO,LESS-THAN WITH DOT,GREATER-THAN WITH DOT;8920:VERY MUCH :
LESS-THAN,GREATER-THAN;8922::LESS-THAN EQUAL TO OR GREATER-THAN,
GREATER-THAN EQUAL TO OR LESS-THAN;8924:EQUAL TO OR :LESS-THAN,GREATER-THAN,PRECEDES,SUCCEEDS;
8928:DOES NOT :PRECEDE OR EQUAL,SUCCEED OR EQUAL;8930:NOT SQUARE :IMAGE OF OR EQUAL TO,
ORIGINAL OF OR EQUAL TO;8932::SQUARE IMAGE OF OR NOT EQUAL TO,SQUARE ORIGINAL OF OR NOT EQUAL TO,
LESS-THAN BUT NOT EQUIVALENT TO,GREATER-THAN BUT NOT EQUIVALENT TO;8936::
PRECEDES BUT NOT EQUIVALENT TO,SUCCEEDS BUT NOT EQUIVALENT TO,NOT NORMAL SUBGROUP OF,
DOES NOT CONTAIN AS NORMAL SUBGROUP,NOT NORMAL SUBGROUP OF OR EQUAL TO;8941::
DOES NOT CONTAIN AS NORMAL SUBGROUP OR EQUAL,VERTICAL ELLIPSIS,MIDLINE HORIZONTAL ELLIPSIS,
UP RIGHT DIAGONAL ELLIPSIS,DOWN RIGHT DIAGONAL ELLIPSIS;8946:ELEMENT OF WITH :
LONG HORIZONTAL STROKE,VERTICAL BAR AT END OF HORIZONTAL STROKE;8948::
SMALL ELEMENT OF WITH VERTICAL BAR AT END OF HORIZONTAL STROKE,ELEMENT OF WITH DOT ABOVE,
ELEMENT OF WITH OVERBAR,SMALL ELEMENT OF WITH OVERBAR;8952:ELEMENT OF WITH :UNDERBAR,
TWO HORIZONTAL STROKES;8954:CONTAINS WITH :LONG HORIZONTAL STROKE,
VERTICAL BAR AT END OF HORIZONTAL STROKE;8956::
SMALL CONTAINS WITH VERTICAL BAR AT END OF HORIZONTAL STROKE,CONTAINS WITH OVERBAR,
SMALL CONTAINS WITH OVERBAR;8959::Z NOTATION BAG MEMBERSHIP,DIAMETER SIGN,ELECTRIC ARROW,HOUSE,
UP ARROWHEAD;8964::DOWN ARROWHEAD,PROJECTIVE,PERSPECTIVE,WAVY LINE,LEFT CEILING;8969::
RIGHT CEILING,LEFT FLOOR,RIGHT FLOOR,BOTTOM RIGHT CROP,BOTTOM LEFT CROP;8974::TOP RIGHT CROP,
TOP LEFT CROP,REVERSED NOT SIGN,SQUARE LOZENGE,ARC;8979::SEGMENT,SECTOR,TELEPHONE RECORDER,
POSITION INDICATOR,VIEWDATA SQUARE;8984::PLACE OF INTEREST SIGN,TURNED NOT SIGN,WATCH,HOURGLASS,
TOP LEFT CORNER;8989::TOP RIGHT CORNER,BOTTOM LEFT CORNER,BOTTOM RIGHT CORNER,TOP HALF INTEGRAL,
BOTTOM HALF INTEGRAL;8994::FROWN,SMILE,UP ARROWHEAD BETWEEN TWO HORIZONTAL BARS,OPTION KEY,
ERASE TO THE RIGHT;8999::X IN A RECTANGLE BOX,KEYBOARD,LEFT-POINTING ANGLE BRACKET,
RIGHT-POINTING ANGLE BRACKET,ERASE TO THE LEFT;9004::BENZENE RING,CYLINDRICITY,ALL AROUND-PROFILE,
SYMMETRY,TOTAL RUNOUT;9009::DIMENSION ORIGIN,CONICAL TAPER,SLOPE,COUNTERBORE,COUNTERSINK;9014:
APL FUNCTIONAL SYMBOL :I-BEAM,SQUISH QUAD,QUAD EQUAL,QUAD DIVIDE,QUAD DIAMOND,QUAD JOT,
QUAD CIRCLE,CIRCLE STILE,CIRCLE JOT,SLASH BAR,BACKSLASH BAR,QUAD SLASH,QUAD BACKSLASH,
QUAD LESS-THAN,QUAD GREATER-THAN,LEFTWARDS VANE,RIGHTWARDS VANE,QUAD LEFTWARDS ARROW,
QUAD RIGHTWARDS ARROW,CIRCLE BACKSLASH,DOWN TACK UNDERBAR,DELTA STILE,QUAD DOWN CARET,QUAD DELTA,
DOWN TACK JOT,UPWARDS VANE,QUAD UPWARDS ARROW,UP TACK OVERBAR,DEL STILE,QUAD UP CARET,QUAD DEL,
UP TACK JOT,DOWNWARDS VANE,QUAD DOWNWARDS ARROW,QUOTE UNDERBAR,DELTA UNDERBAR,DIAMOND UNDERBAR,
JOT UNDERBAR,CIRCLE UNDERBAR,UP SHOE JOT,QUOTE QUAD,CIRCLE STAR,QUAD COLON,UP TACK DIAERESIS,
DEL DIAERESIS,STAR DIAERESIS,JOT DIAERESIS,CIRCLE DIAERESIS,DOWN SHOE STILE,LEFT SHOE STILE,
TILDE DIAERESIS,GREATER-THAN DIAERESIS,COMMA BAR,DEL TILDE,ZILDE,STILE TILDE,SEMICOLON UNDERBAR,
QUAD NOT EQUAL,QUAD QUESTION,DOWN CARET TILDE,UP CARET TILDE,IOTA,RHO,OMEGA,ALPHA UNDERBAR,
EPSILON UNDERBAR,IOTA UNDERBAR,OMEGA UNDERBAR,ALPHA;9083::NOT CHECK MARK,
RIGHT ANGLE WITH DOWNWARDS ZIGZAG ARROW,SHOULDERED OPEN BOX,BELL SYMBOL,
VERTICAL LINE WITH MIDDLE DOT;9088::INSERTION SYMBOL,CONTINUOUS UNDERLINE SYMBOL,
DISCONTINUOUS UNDERLINE SYMBOL,EMPHASIS SYMBOL,COMPOSITION SYMBOL;9093::
WHITE SQUARE WITH CENTRE VERTICAL LINE,ENTER SYMBOL,ALTERNATIVE KEY SYMBOL,HELM SYMBOL,
CIRCLED HORIZONTAL BAR WITH NOTCH;9098::CIRCLED TRIANGLE DOWN,BROKEN CIRCLE WITH NORTHWEST ARROW,
UNDO SYMBOL,MONOSTABLE SYMBOL,HYSTERESIS SYMBOL;9103:OPEN-CIRCUIT-OUTPUT :H-TYPE SYMBOL,
L-TYPE SYMBOL;9105:PASSIVE-PULL-:DOWN-OUTPUT SYMBOL,UP-OUTPUT SYMBOL;9107::
DIRECT CURRENT SYMBOL FORM TWO,SOFTWARE-FUNCTION SYMBOL,APL FUNCTIONAL SYMBOL QUAD;9110::
DECIMAL SEPARATOR KEY SYMBOL,PREVIOUS PAGE,NEXT PAGE,PRINT SCREEN SYMBOL,CLEAR SCREEN SYMBOL;9115:
LEFT PARENTHESIS :UPPER HOOK,EXTENSION,LOWER HOOK;9118:RIGHT PARENTHESIS :UPPER HOOK,EXTENSION,
LOWER HOOK;9121:LEFT SQUARE BRACKET :UPPER CORNER,EXTENSION,LOWER CORNER;9124:
RIGHT SQUARE BRACKET :UPPER CORNER,EXTENSION,LOWER CORNER;9127:LEFT CURLY BRACKET :UPPER HOOK,
MIDDLE PIECE,LOWER HOOK;9130::CURLY BRACKET EXTENSION;9131:RIGHT CURLY BRACKET :UPPER HOOK,
MIDDLE PIECE,LOWER HOOK;9134::INTEGRAL EXTENSION,HORIZONTAL LINE EXTENSION,
UPPER LEFT OR LOWER RIGHT CURLY BRACKET SECTION,UPPER RIGHT OR LOWER LEFT CURLY BRACKET SECTION;
9138:SUMMATION :TOP,BOTTOM;9140::TOP SQUARE BRACKET;9141:BOTTOM SQUARE :BRACKET,
BRACKET OVER TOP SQUARE BRACKET;9143::RADICAL SYMBOL BOTTOM,LEFT VERTICAL BOX LINE,
RIGHT VERTICAL BOX LINE;9146:HORIZONTAL SCAN LINE-:1,3,7,9;9150:DENTISTRY SYMBOL LIGHT :
VERTICAL AND TOP RIGHT,VERTICAL AND BOTTOM RIGHT,VERTICAL WITH CIRCLE,
DOWN AND HORIZONTAL WITH CIRCLE,UP AND HORIZONTAL WITH CIRCLE,VERTICAL WITH TRIANGLE,
DOWN AND HORIZONTAL WITH TRIANGLE,UP AND HORIZONTAL WITH TRIANGLE,VERTICAL AND WAVE,
DOWN AND HORIZONTAL WITH WAVE,UP AND HORIZONTAL WITH WAVE,DOWN AND HORIZONTAL,UP AND HORIZONTAL,
VERTICAL AND TOP LEFT,VERTICAL AND BOTTOM LEFT;9165::SQUARE FOOT,RETURN SYMBOL,EJECT SYMBOL,
VERTICAL LINE EXTENSION;9169:METRICAL :BREVE,LONG OVER SHORT,SHORT OVER LONG,LONG OVER TWO SHORTS,
TWO SHORTS OVER LONG,TWO SHORTS JOINED,TRISEME,TETRASEME,PENTASEME;9178::EARTH GROUND,FUSE,
TOP PARENTHESIS,BOTTOM PARENTHESIS,TOP CURLY BRACKET;9183::BOTTOM CURLY BRACKET,
TOP TORTOISE SHELL BRACKET,BOTTOM TORTOISE SHELL BRACKET,WHITE TRAPEZIUM,BENZENE RING WITH CIRCLE;
9188::STRAIGHTNESS,FLATNESS,AC CURRENT,ELECTRICAL INTERSECTION,DECIMAL EXPONENT SYMBOL;9193:
BLACK :RIGHT-POINTING DOUBLE TRIANGLE,LEFT-POINTING DOUBLE TRIANGLE,UP-POINTING DOUBLE TRIANGLE,
DOWN-POINTING DOUBLE TRIANGLE,RIGHT-POINTING DOUBLE TRIANGLE WITH VERTICAL BAR,
LEFT-POINTING DOUBLE TRIANGLE WITH VERTICAL BAR,RIGHT-POINTING TRIANGLE WITH DOUBLE VERTICAL BAR;
9200::ALARM CLOCK,STOPWATCH,TIMER CLOCK,HOURGLASS WITH FLOWING SAND;9204:BLACK MEDIUM :
LEFT-POINTING TRIANGLE,RIGHT-POINTING TRIANGLE,UP-POINTING TRIANGLE,DOWN-POINTING TRIANGLE;9208::
DOUBLE VERTICAL BAR,BLACK SQUARE FOR STOP,BLACK CIRCLE FOR RECORD;9211:POWER :SYMBOL,
ON-OFF SYMBOL,ON SYMBOL,SLEEP SYMBOL;9215::OBSERVER EYE SYMBOL;9216:SYMBOL FOR :NULL,
START OF HEADING,START OF TEXT,END OF TEXT,END OF TRANSMISSION,ENQUIRY,ACKNOWLEDGE,BELL,BACKSPACE,
HORIZONTAL TABULATION,LINE FEED,VERTICAL TABULATION,FORM FEED,CARRIAGE RETURN,SHIFT OUT,SHIFT IN,
DATA LINK ESCAPE;9233:SYMBOL FOR DEVICE CONTROL :ONE,TWO,THREE,FOUR;9237:SYMBOL FOR :
NEGATIVE ACKNOWLEDGE,SYNCHRONOUS IDLE,END OF TRANSMISSION BLOCK,CANCEL,END OF MEDIUM,SUBSTITUTE,
ESCAPE,FILE SEPARATOR,GROUP SEPARATOR,RECORD SEPARATOR,UNIT SEPARATOR,SPACE,DELETE;9250::
BLANK SYMBOL,OPEN BOX;9252:SYMBOL FOR :NEWLINE,DELETE FORM TWO,SUBSTITUTE FORM TWO;9280:OCR :HOOK,
CHAIR,FORK,INVERTED FORK,BELT BUCKLE,BOW TIE,BRANCH BANK IDENTIFICATION,AMOUNT OF CHECK,DASH,
CUSTOMER ACCOUNT NUMBER,DOUBLE BACKSLASH;9312:CIRCLED DIGIT :ONE,TWO,THREE,FOUR,FIVE,SIX,SEVEN,
EIGHT,NINE;9321:CIRCLED NUMBER :TEN,ELEVEN,TWELVE,THIRTEEN,FOURTEEN,FIFTEEN,SIXTEEN,SEVENTEEN,
EIGHTEEN,NINETEEN,TWENTY;9332:PARENTHESIZED DIGIT :ONE,TWO,THREE,FOUR,FIVE,SIX,SEVEN,EIGHT,NINE;
9341:PARENTHESIZED NUMBER :TEN,ELEVEN,TWELVE,THIRTEEN,FOURTEEN,FIFTEEN,SIXTEEN,SEVENTEEN,EIGHTEEN,
NINETEEN,TWENTY;9352:DIGIT :ONE FULL STOP,TWO FULL STOP,THREE FULL STOP,FOUR FULL STOP,
FIVE FULL STOP,SIX FULL STOP,SEVEN FULL STOP,EIGHT FULL STOP,NINE FULL STOP;9361:NUMBER :
TEN FULL STOP,ELEVEN FULL STOP,TWELVE FULL STOP,THIRTEEN FULL STOP,FOURTEEN FULL STOP,
FIFTEEN FULL STOP,SIXTEEN FULL STOP,SEVENTEEN FULL STOP,EIGHTEEN FULL STOP,NINETEEN FULL STOP,
TWENTY FULL STOP;9372:PARENTHESIZED LATIN SMALL LETTER :A,B,C,D,E,F,G,H,I,J,K,L,M,N,O,P,Q,R,S,T,U,
V,W,X,Y,Z;9398:CIRCLED LATIN CAPITAL LETTER :A,B,C,D,E,F,G,H,I,J,K,L,M,N,O,P,Q,R,S,T,U,V,W,X,Y,Z;
9424:CIRCLED LATIN SMALL LETTER :A,B,C,D,E,F,G,H,I,J,K,L,M,N,O,P,Q,R,S,T,U,V,W,X,Y,Z;9450::
CIRCLED DIGIT ZERO;9451:NEGATIVE CIRCLED NUMBER :ELEVEN,TWELVE,THIRTEEN,FOURTEEN,FIFTEEN,SIXTEEN,
SEVENTEEN,EIGHTEEN,NINETEEN,TWENTY;9461:DOUBLE CIRCLED DIGIT :ONE,TWO,THREE,FOUR,FIVE,SIX,SEVEN,
EIGHT,NINE;9470::DOUBLE CIRCLED NUMBER TEN,NEGATIVE CIRCLED DIGIT ZERO;9472:BOX DRAWINGS :
LIGHT HORIZONTAL,HEAVY HORIZONTAL,LIGHT VERTICAL,HEAVY VERTICAL,LIGHT TRIPLE DASH HORIZONTAL,
HEAVY TRIPLE DASH HORIZONTAL,LIGHT TRIPLE DASH VERTICAL,HEAVY TRIPLE DASH VERTICAL,
LIGHT QUADRUPLE DASH HORIZONTAL,HEAVY QUADRUPLE DASH HORIZONTAL,LIGHT QUADRUPLE DASH VERTICAL,
HEAVY QUADRUPLE DASH VERTICAL,LIGHT DOWN AND RIGHT,DOWN LIGHT AND RIGHT HEAVY,
DOWN HEAVY AND RIGHT LIGHT,HEAVY DOWN AND RIGHT,LIGHT DOWN AND LEFT,DOWN LIGHT AND LEFT HEAVY,
DOWN HEAVY AND LEFT LIGHT,HEAVY DOWN AND LEFT,LIGHT UP AND RIGHT,UP LIGHT AND RIGHT HEAVY,
UP HEAVY AND RIGHT LIGHT,HEAVY UP AND RIGHT,LIGHT UP AND LEFT,UP LIGHT AND LEFT HEAVY,
UP HEAVY AND LEFT LIGHT,HEAVY UP AND LEFT,LIGHT VERTICAL AND RIGHT,VERTICAL LIGHT AND RIGHT HEAVY,
UP HEAVY AND RIGHT DOWN LIGHT,DOWN HEAVY AND RIGHT UP LIGHT,VERTICAL HEAVY AND RIGHT LIGHT,
DOWN LIGHT AND RIGHT UP HEAVY,UP LIGHT AND RIGHT DOWN HEAVY,HEAVY VERTICAL AND RIGHT,
LIGHT VERTICAL AND LEFT,VERTICAL LIGHT AND LEFT HEAVY,UP HEAVY AND LEFT DOWN LIGHT,
DOWN HEAVY AND LEFT UP LIGHT,VERTICAL HEAVY AND LEFT LIGHT,DOWN LIGHT AND LEFT UP HEAVY,
UP LIGHT AND LEFT DOWN HEAVY,HEAVY VERTICAL AND LEFT,LIGHT DOWN AND HORIZONTAL,
LEFT HEAVY AND RIGHT DOWN LIGHT,RIGHT HEAVY AND LEFT DOWN LIGHT,DOWN LIGHT AND HORIZONTAL HEAVY,
DOWN HEAVY AND HORIZONTAL LIGHT,RIGHT LIGHT AND LEFT DOWN HEAVY,LEFT LIGHT AND RIGHT DOWN HEAVY,
HEAVY DOWN AND HORIZONTAL,LIGHT UP AND HORIZONTAL,LEFT HEAVY AND RIGHT UP LIGHT,
RIGHT HEAVY AND LEFT UP LIGHT,UP LIGHT AND HORIZONTAL HEAVY,UP HEAVY AND HORIZONTAL LIGHT,
RIGHT LIGHT AND LEFT UP HEAVY,LEFT LIGHT AND RIGHT UP HEAVY,HEAVY UP AND HORIZONTAL,
LIGHT VERTICAL AND HORIZONTAL,LEFT HEAVY AND RIGHT VERTICAL LIGHT,
RIGHT HEAVY AND LEFT VERTICAL LIGHT,VERTICAL LIGHT AND HORIZONTAL HEAVY,
UP HEAVY AND DOWN HORIZONTAL LIGHT,DOWN HEAVY AND UP HORIZONTAL LIGHT,
VERTICAL HEAVY AND HORIZONTAL LIGHT,LEFT UP HEAVY AND RIGHT DOWN LIGHT,
RIGHT UP HEAVY AND LEFT DOWN LIGHT,LEFT DOWN HEAVY AND RIGHT UP LIGHT,
RIGHT DOWN HEAVY AND LEFT UP LIGHT,DOWN LIGHT AND UP HORIZONTAL HEAVY,
UP LIGHT AND DOWN HORIZONTAL HEAVY,RIGHT LIGHT AND LEFT VERTICAL HEAVY,
LEFT LIGHT AND RIGHT VERTICAL HEAVY,HEAVY VERTICAL AND HORIZONTAL,LIGHT DOUBLE DASH HORIZONTAL,
HEAVY DOUBLE DASH HORIZONTAL,LIGHT DOUBLE DASH VERTICAL,HEAVY DOUBLE DASH VERTICAL,
DOUBLE HORIZONTAL,DOUBLE VERTICAL,DOWN SINGLE AND RIGHT DOUBLE,DOWN DOUBLE AND RIGHT SINGLE,
DOUBLE DOWN AND RIGHT,DOWN SINGLE AND LEFT DOUBLE,DOWN DOUBLE AND LEFT SINGLE,
DOUBLE DOWN AND LEFT,UP SINGLE AND RIGHT DOUBLE,UP DOUBLE AND RIGHT SINGLE,DOUBLE UP AND RIGHT,
UP SINGLE AND LEFT DOUBLE,UP DOUBLE AND LEFT SINGLE,DOUBLE UP AND LEFT,
VERTICAL SINGLE AND RIGHT DOUBLE,VERTICAL DOUBLE AND RIGHT SINGLE,DOUBLE VERTICAL AND RIGHT,
VERTICAL SINGLE AND LEFT DOUBLE,VERTICAL DOUBLE AND LEFT SINGLE,DOUBLE VERTICAL AND LEFT,
DOWN SINGLE AND HORIZONTAL DOUBLE,DOWN DOUBLE AND HORIZONTAL SINGLE,DOUBLE DOWN AND HORIZONTAL,
UP SINGLE AND HORIZONTAL DOUBLE,UP DOUBLE AND HORIZONTAL SINGLE,DOUBLE UP AND HORIZONTAL,
VERTICAL SINGLE AND HORIZONTAL DOUBLE,VERTICAL DOUBLE AND HORIZONTAL SINGLE,
DOUBLE VERTICAL AND HORIZONTAL;9581:BOX DRAWINGS LIGHT :ARC DOWN AND RIGHT,ARC DOWN AND LEFT,
ARC UP AND LEFT,ARC UP AND RIGHT,DIAGONAL UPPER RIGHT TO LOWER LEFT,
DIAGONAL UPPER LEFT TO LOWER RIGHT,DIAGONAL CROSS,LEFT,UP,RIGHT,DOWN;9592:BOX DRAWINGS :
HEAVY LEFT,HEAVY UP,HEAVY RIGHT,HEAVY DOWN,LIGHT LEFT AND HEAVY RIGHT,LIGHT UP AND HEAVY DOWN,
HEAVY LEFT AND LIGHT RIGHT,HEAVY UP AND LIGHT DOWN;9600::UPPER HALF BLOCK;9601:LOWER :
ONE EIGHTH BLOCK,ONE QUARTER BLOCK,THREE EIGHTHS BLOCK,HALF BLOCK,FIVE EIGHTHS BLOCK,
THREE QUARTERS BLOCK,SEVEN EIGHTHS BLOCK;9608::FULL BLOCK;9609:LEFT :SEVEN EIGHTHS BLOCK,
THREE QUARTERS BLOCK,FIVE EIGHTHS BLOCK,HALF BLOCK,THREE EIGHTHS BLOCK,ONE QUARTER BLOCK,
ONE EIGHTH BLOCK;9616::RIGHT HALF BLOCK;9617::LIGHT SHADE,MEDIUM SHADE,DARK SHADE,
UPPER ONE EIGHTH BLOCK,RIGHT ONE EIGHTH BLOCK;9622:QUADRANT LOWER :LEFT,RIGHT;9624:
QUADRANT UPPER :LEFT,LEFT AND LOWER LEFT AND LOWER RIGHT,LEFT AND LOWER RIGHT,
LEFT AND UPPER RIGHT AND LOWER LEFT,LEFT AND UPPER RIGHT AND LOWER RIGHT,RIGHT,
RIGHT AND LOWER LEFT,RIGHT AND LOWER LEFT AND LOWER RIGHT;9632::BLACK SQUARE,WHITE SQUARE;9634:
WHITE SQUARE :WITH ROUNDED CORNERS,CONTAINING BLACK SMALL SQUARE;9636:SQUARE WITH :
HORIZONTAL FILL,VERTICAL FILL,ORTHOGONAL CROSSHATCH FILL,UPPER LEFT TO LOWER RIGHT FILL,
UPPER RIGHT TO LOWER LEFT FILL,DIAGONAL CROSSHATCH FILL;9642::BLACK SMALL SQUARE,
WHITE SMALL SQUARE,BLACK RECTANGLE;9645::WHITE RECTANGLE,BLACK VERTICAL RECTANGLE,
WHITE VERTICAL RECTANGLE,BLACK PARALLELOGRAM,WHITE PARALLELOGRAM;9650::BLACK UP-POINTING TRIANGLE,
WHITE UP-POINTING TRIANGLE,BLACK UP-POINTING SMALL TRIANGLE,WHITE UP-POINTING SMALL TRIANGLE,
BLACK RIGHT-POINTING TRIANGLE;9655::WHITE RIGHT-POINTING TRIANGLE,
BLACK RIGHT-POINTING SMALL TRIANGLE,WHITE RIGHT-POINTING SMALL TRIANGLE,
BLACK RIGHT-POINTING POINTER,WHITE RIGHT-POINTING POINTER;9660::BLACK DOWN-POINTING TRIANGLE,
WHITE DOWN-POINTING TRIANGLE,BLACK DOWN-POINTING SMALL TRIANGLE,
WHITE DOWN-POINTING SMALL TRIANGLE,BLACK LEFT-POINTING TRIANGLE;9665::
WHITE LEFT-POINTING TRIANGLE,BLACK LEFT-POINTING SMALL TRIANGLE,
WHITE LEFT-POINTING SMALL TRIANGLE,BLACK LEFT-POINTING POINTER,WHITE LEFT-POINTING POINTER;9670::
BLACK DIAMOND,WHITE DIAMOND,WHITE DIAMOND CONTAINING BLACK SMALL DIAMOND,FISHEYE,LOZENGE;9675::
WHITE CIRCLE,DOTTED CIRCLE,CIRCLE WITH VERTICAL FILL,BULLSEYE,BLACK CIRCLE;9680:CIRCLE WITH :
LEFT HALF BLACK,RIGHT HALF BLACK,LOWER HALF BLACK,UPPER HALF BLACK,UPPER RIGHT QUADRANT BLACK,
ALL BUT UPPER LEFT QUADRANT BLACK;9686::LEFT HALF BLACK CIRCLE,RIGHT HALF BLACK CIRCLE;9688::
INVERSE BULLET,INVERSE WHITE CIRCLE,UPPER HALF INVERSE WHITE CIRCLE,
LOWER HALF INVERSE WHITE CIRCLE,UPPER LEFT QUADRANT CIRCULAR ARC;9693::
UPPER RIGHT QUADRANT CIRCULAR ARC,LOWER RIGHT QUADRANT CIRCULAR ARC,
LOWER LEFT QUADRANT CIRCULAR ARC,UPPER HALF CIRCLE,LOWER HALF CIRCLE;9698:BLACK :
LOWER RIGHT TRIANGLE,LOWER LEFT TRIANGLE,UPPER LEFT TRIANGLE,UPPER RIGHT TRIANGLE;9702::
WHITE BULLET;9703:SQUARE WITH :LEFT HALF BLACK,RIGHT HALF BLACK,UPPER LEFT DIAGONAL HALF BLACK,
LOWER RIGHT DIAGONAL HALF BLACK;9707:WHITE :SQUARE WITH VERTICAL BISECTING LINE,
UP-POINTING TRIANGLE WITH DOT;9709:UP-POINTING TRIANGLE WITH :LEFT HALF BLACK,RIGHT HALF BLACK;
9711::LARGE CIRCLE;9712:WHITE SQUARE WITH :UPPER LEFT QUADRANT,LOWER LEFT QUADRANT,
LOWER RIGHT QUADRANT,UPPER RIGHT QUADRANT;9716:WHITE CIRCLE WITH :UPPER LEFT QUADRANT,
LOWER LEFT QUADRANT,LOWER RIGHT QUADRANT,UPPER RIGHT QUADRANT;9720::UPPER LEFT TRIANGLE,
UPPER RIGHT TRIANGLE,LOWER LEFT TRIANGLE,WHITE MEDIUM SQUARE,BLACK MEDIUM SQUARE;9725::
WHITE MEDIUM SMALL SQUARE,BLACK MEDIUM SMALL SQUARE,LOWER RIGHT TRIANGLE,BLACK SUN WITH RAYS,
CLOUD;9730::UMBRELLA,SNOWMAN,COMET,BLACK STAR,WHITE STAR;9735::LIGHTNING,THUNDERSTORM,SUN,
ASCENDING NODE,DESCENDING NODE;9740::CONJUNCTION,OPPOSITION,BLACK TELEPHONE,WHITE TELEPHONE,
BALLOT BOX;9745:BALLOT BOX WITH :CHECK,X;9747::SALTIRE,UMBRELLA WITH RAIN DROPS,HOT BEVERAGE,
WHITE SHOGI PIECE;9751::BLACK SHOGI PIECE,SHAMROCK,REVERSED ROTATED FLORAL HEART BULLET,
BLACK LEFT POINTING INDEX,BLACK RIGHT POINTING INDEX;9756:WHITE :LEFT POINTING INDEX,
UP POINTING INDEX,RIGHT POINTING INDEX,DOWN POINTING INDEX;9760::SKULL AND CROSSBONES;9761::
CAUTION SIGN,RADIOACTIVE SIGN,BIOHAZARD SIGN,CADUCEUS,ANKH;9766::ORTHODOX CROSS,CHI RHO,
CROSS OF LORRAINE,CROSS OF JERUSALEM,STAR AND CRESCENT;9771::FARSI SYMBOL,ADI SHAKTI,
HAMMER AND SICKLE,PEACE SYMBOL,YIN YANG;9776:TRIGRAM FOR :HEAVEN,LAKE,FIRE,THUNDER,WIND,WATER,
MOUNTAIN,EARTH;9784::WHEEL OF DHARMA,WHITE FROWNING FACE,WHITE SMILING FACE;9787::
BLACK SMILING FACE,WHITE SUN WITH RAYS,FIRST QUARTER MOON,LAST QUARTER MOON,MERCURY;9792::
FEMALE SIGN,EARTH,MALE SIGN,JUPITER,SATURN;9797::URANUS,NEPTUNE,PLUTO,ARIES,TAURUS;9802::GEMINI,
CANCER,LEO,VIRGO,LIBRA;9807::SCORPIUS,SAGITTARIUS,CAPRICORN,AQUARIUS,PISCES;9812:WHITE CHESS :
KING,QUEEN,ROOK,BISHOP,KNIGHT,PAWN;9818:BLACK CHESS :KING,QUEEN,ROOK,BISHOP,KNIGHT,PAWN;9824::
BLACK SPADE SUIT,WHITE HEART SUIT,WHITE DIAMOND SUIT,BLACK CLUB SUIT,WHITE SPADE SUIT;9829:BLACK :
HEART SUIT,DIAMOND SUIT;9831::WHITE CLUB SUIT,HOT SPRINGS,QUARTER NOTE,EIGHTH NOTE;9835:BEAMED :
EIGHTH NOTES,SIXTEENTH NOTES;9837:MUSIC :FLAT SIGN,NATURAL SIGN,SHARP SIGN;9840::
WEST SYRIAC CROSS,EAST SYRIAC CROSS,UNIVERSAL RECYCLING SYMBOL;9843:RECYCLING SYMBOL FOR :
TYPE-1 PLASTICS,TYPE-2 PLASTICS,TYPE-3 PLASTICS,TYPE-4 PLASTICS,TYPE-5 PLASTICS,TYPE-6 PLASTICS,
TYPE-7 PLASTICS,GENERIC MATERIALS;9851::BLACK UNIVERSAL RECYCLING SYMBOL,RECYCLED PAPER SYMBOL,
PARTIALLY-RECYCLED PAPER SYMBOL,PERMANENT PAPER SIGN,WHEELCHAIR SYMBOL;9856:DIE FACE-:1,2,3,4,5,6;
9862:WHITE CIRCLE WITH :DOT RIGHT,TWO DOTS;9864:BLACK CIRCLE WITH :WHITE DOT RIGHT,TWO WHITE DOTS;
9866:MONOGRAM FOR :YANG,YIN;9868:DIGRAM FOR :GREATER YANG,LESSER YIN,LESSER YANG,GREATER YIN;9872:
:WHITE FLAG,BLACK FLAG,HAMMER AND PICK,ANCHOR;9876::CROSSED SWORDS,STAFF OF AESCULAPIUS,SCALES,
ALEMBIC,FLOWER;9881::GEAR,STAFF OF HERMES,ATOM SYMBOL,FLEUR-DE-LIS,OUTLINED WHITE STAR;9886:
THREE LINES CONVERGING :RIGHT,LEFT;9888::WARNING SIGN,HIGH VOLTAGE SIGN,DOUBLED FEMALE SIGN,
DOUBLED MALE SIGN,INTERLOCKED FEMALE AND MALE SIGN;9893:MALE :AND FEMALE SIGN,WITH STROKE SIGN,
WITH STROKE AND MALE AND FEMALE SIGN;9896::VERTICAL MALE WITH STROKE SIGN,
HORIZONTAL MALE WITH STROKE SIGN;9898:MEDIUM :WHITE CIRCLE,BLACK CIRCLE,SMALL WHITE CIRCLE;9901::
MARRIAGE SYMBOL,DIVORCE SYMBOL,UNMARRIED PARTNERSHIP SYMBOL,COFFIN;9905::FUNERAL URN,NEUTER,CERES,
PALLAS,JUNO;9910::VESTA,CHIRON,BLACK MOON LILITH,SEXTILE,SEMISEXTILE;9915::QUINCUNX,
SESQUIQUADRATE,SOCCER BALL,BASEBALL,SQUARED KEY;9920:WHITE DRAUGHTS :MAN,KING;9922:
BLACK DRAUGHTS :MAN,KING;9924::SNOWMAN WITHOUT SNOW,SUN BEHIND CLOUD,RAIN;9927::BLACK SNOWMAN,
THUNDER CLOUD AND RAIN,TURNED WHITE SHOGI PIECE,TURNED BLACK SHOGI PIECE,WHITE DIAMOND IN SQUARE;
9932::CROSSING LANES,DISABLED CAR,OPHIUCHUS,PICK,CAR SLIDING;9937::HELMET WITH WHITE CROSS,
CIRCLED CROSSING LANES,CHAINS,NO ENTRY,ALTERNATE ONE-WAY LEFT WAY TRAFFIC;9942::
BLACK TWO-WAY LEFT WAY TRAFFIC,WHITE TWO-WAY LEFT WAY TRAFFIC,BLACK LEFT LANE MERGE,
WHITE LEFT LANE MERGE,DRIVE SLOW SIGN;9947::HEAVY WHITE DOWN-POINTING TRIANGLE,LEFT CLOSED ENTRY,
SQUARED SALTIRE,FALLING DIAGONAL IN WHITE CIRCLE IN BLACK SQUARE,BLACK TRUCK;9952:
RESTRICTED LEFT ENTRY-:1,2;9954::ASTRONOMICAL SYMBOL FOR URANUS,
HEAVY CIRCLE WITH STROKE AND TWO DOTS ABOVE,PENTAGRAM,RIGHT-HANDED INTERLACED PENTAGRAM,
LEFT-HANDED INTERLACED PENTAGRAM;9959::INVERTED PENTAGRAM,BLACK CROSS ON SHIELD,SHINTO SHRINE,
CHURCH,CASTLE;9964::HISTORIC SITE,GEAR WITHOUT HUB,GEAR WITH HANDLES,MAP SYMBOL FOR LIGHTHOUSE,
MOUNTAIN;9969::UMBRELLA ON GROUND,FOUNTAIN,FLAG IN HOLE,FERRY,SAILBOAT;9974::SQUARE FOUR CORNERS,
SKIER,ICE SKATE,PERSON WITH BALL,TENT;9979::JAPANESE BANK SYMBOL,HEADSTONE GRAVEYARD SYMBOL,
FUEL PUMP,CUP ON BLACK SQUARE,WHITE FLAG WITH HORIZONTAL MIDDLE BLACK STRIPE;9984::
BLACK SAFETY SCISSORS,UPPER BLADE SCISSORS,BLACK SCISSORS,LOWER BLADE SCISSORS,WHITE SCISSORS;
9989::WHITE HEAVY CHECK MARK,TELEPHONE LOCATION SIGN,TAPE DRIVE,AIRPLANE,ENVELOPE;9994:RAISED :
FIST,HAND;9996::VICTORY HAND,WRITING HAND,LOWER RIGHT PENCIL,PENCIL,UPPER RIGHT PENCIL;10001::
WHITE NIB,BLACK NIB,CHECK MARK,HEAVY CHECK MARK,MULTIPLICATION X;10006::HEAVY MULTIPLICATION X,
BALLOT X,HEAVY BALLOT X,OUTLINED GREEK CROSS,HEAVY GREEK CROSS;10011::OPEN CENTRE CROSS,
HEAVY OPEN CENTRE CROSS,LATIN CROSS,SHADOWED WHITE LATIN CROSS,OUTLINED LATIN CROSS;10016::
MALTESE CROSS,STAR OF DAVID,FOUR TEARDROP-SPOKED ASTERISK,FOUR BALLOON-SPOKED ASTERISK,
HEAVY FOUR BALLOON-SPOKED ASTERISK;10021::FOUR CLUB-SPOKED ASTERISK,BLACK FOUR POINTED STAR,
WHITE FOUR POINTED STAR,SPARKLES,STRESS OUTLINED WHITE STAR;10026::CIRCLED WHITE STAR,
OPEN CENTRE BLACK STAR,BLACK CENTRE WHITE STAR,OUTLINED BLACK STAR,HEAVY OUTLINED BLACK STAR;
10031::PINWHEEL STAR,SHADOWED WHITE STAR,HEAVY ASTERISK,OPEN CENTRE ASTERISK,
EIGHT SPOKED ASTERISK;10036:EIGHT POINTED :BLACK STAR,PINWHEEL STAR;10038::SIX POINTED BLACK STAR,
EIGHT POINTED RECTILINEAR BLACK STAR,HEAVY EIGHT POINTED RECTILINEAR BLACK STAR,
TWELVE POINTED BLACK STAR,SIXTEEN POINTED ASTERISK;10043::TEARDROP-SPOKED ASTERISK,
OPEN CENTRE TEARDROP-SPOKED ASTERISK,HEAVY TEARDROP-SPOKED ASTERISK,
SIX PETALLED BLACK AND WHITE FLORETTE,BLACK FLORETTE;10048::WHITE FLORETTE,
EIGHT PETALLED OUTLINED BLACK FLORETTE,CIRCLED OPEN CENTRE EIGHT POINTED STAR,
HEAVY TEARDROP-SPOKED PINWHEEL ASTERISK,SNOWFLAKE;10053::TIGHT TRIFOLIATE SNOWFLAKE,
HEAVY CHEVRON SNOWFLAKE,SPARKLE,HEAVY SPARKLE,BALLOON-SPOKED ASTERISK;10058::
EIGHT TEARDROP-SPOKED PROPELLER ASTERISK,HEAVY EIGHT TEARDROP-SPOKED PROPELLER ASTERISK,
CROSS MARK,SHADOWED WHITE CIRCLE,NEGATIVE SQUARED CROSS MARK;10063::
LOWER RIGHT DROP-SHADOWED WHITE SQUARE,UPPER RIGHT DROP-SHADOWED WHITE SQUARE,
LOWER RIGHT SHADOWED WHITE SQUARE,UPPER RIGHT SHADOWED WHITE SQUARE,BLACK QUESTION MARK ORNAMENT;
10068:WHITE :QUESTION MARK ORNAMENT,EXCLAMATION MARK ORNAMENT;10070::BLACK DIAMOND MINUS WHITE X,
HEAVY EXCLAMATION MARK SYMBOL,LIGHT VERTICAL BAR,MEDIUM VERTICAL BAR;10074:HEAVY :VERTICAL BAR,
SINGLE TURNED COMMA QUOTATION MARK ORNAMENT,SINGLE COMMA QUOTATION MARK ORNAMENT,
DOUBLE TURNED COMMA QUOTATION MARK ORNAMENT,DOUBLE COMMA QUOTATION MARK ORNAMENT,
LOW SINGLE COMMA QUOTATION MARK ORNAMENT,LOW DOUBLE COMMA QUOTATION MARK ORNAMENT;10081::
CURVED STEM PARAGRAPH SIGN ORNAMENT;10082:HEAVY :EXCLAMATION MARK ORNAMENT,
HEART EXCLAMATION MARK ORNAMENT,BLACK HEART;10085::ROTATED HEAVY BLACK HEART BULLET,FLORAL HEART,
ROTATED FLORAL HEART BULLET;10088:MEDIUM :LEFT PARENTHESIS ORNAMENT,RIGHT PARENTHESIS ORNAMENT,
FLATTENED LEFT PARENTHESIS ORNAMENT,FLATTENED RIGHT PARENTHESIS ORNAMENT,
LEFT-POINTING ANGLE BRACKET ORNAMENT,RIGHT-POINTING ANGLE BRACKET ORNAMENT;10094:HEAVY :
LEFT-POINTING ANGLE QUOTATION MARK ORNAMENT,RIGHT-POINTING ANGLE QUOTATION MARK ORNAMENT,
LEFT-POINTING ANGLE BRACKET ORNAMENT,RIGHT-POINTING ANGLE BRACKET ORNAMENT;10098:LIGHT :
LEFT TORTOISE SHELL BRACKET ORNAMENT,RIGHT TORTOISE SHELL BRACKET ORNAMENT;10100:MEDIUM :
LEFT CURLY BRACKET ORNAMENT,RIGHT CURLY BRACKET ORNAMENT;10102:DINGBAT NEGATIVE CIRCLED DIGIT :
ONE,TWO,THREE,FOUR,FIVE,SIX,SEVEN,EIGHT,NINE;10111::DINGBAT NEGATIVE CIRCLED NUMBER TEN;10112:
DINGBAT CIRCLED SANS-SERIF DIGIT :ONE,TWO,THREE,FOUR,FIVE,SIX,SEVEN,EIGHT,NINE;10121::
DINGBAT CIRCLED SANS-SERIF NUMBER TEN;10122:DINGBAT NEGATIVE CIRCLED SANS-SERIF DIGIT :ONE,TWO,
THREE,FOUR,FIVE,SIX,SEVEN,EIGHT,NINE;10131::DINGBAT NEGATIVE CIRCLED SANS-SERIF NUMBER TEN;10132:
HEAVY :WIDE-HEADED RIGHTWARDS ARROW,PLUS SIGN,MINUS SIGN,DIVISION SIGN,SOUTH EAST ARROW,
RIGHTWARDS ARROW,NORTH EAST ARROW;10139::DRAFTING POINT RIGHTWARDS ARROW,
HEAVY ROUND-TIPPED RIGHTWARDS ARROW,TRIANGLE-HEADED RIGHTWARDS ARROW,
HEAVY TRIANGLE-HEADED RIGHTWARDS ARROW,DASHED TRIANGLE-HEADED RIGHTWARDS ARROW;10144::
HEAVY DASHED TRIANGLE-HEADED RIGHTWARDS ARROW,BLACK RIGHTWARDS ARROW,
THREE-D TOP-LIGHTED RIGHTWARDS ARROWHEAD,THREE-D BOTTOM-LIGHTED RIGHTWARDS ARROWHEAD,
BLACK RIGHTWARDS ARROWHEAD;10149:HEAVY BLACK CURVED :DOWNWARDS AND RIGHTWARDS ARROW,
UPWARDS AND RIGHTWARDS ARROW;10151::SQUAT BLACK RIGHTWARDS ARROW,
HEAVY CONCAVE-POINTED BLACK RIGHTWARDS ARROW,RIGHT-SHADED WHITE RIGHTWARDS ARROW;10154::
LEFT-SHADED WHITE RIGHTWARDS ARROW,BACK-TILTED SHADOWED WHITE RIGHTWARDS ARROW,
FRONT-TILTED SHADOWED WHITE RIGHTWARDS ARROW,HEAVY LOWER RIGHT-SHADOWED WHITE RIGHTWARDS ARROW,
HEAVY UPPER RIGHT-SHADOWED WHITE RIGHTWARDS ARROW;10159::
NOTCHED LOWER RIGHT-SHADOWED WHITE RIGHTWARDS ARROW,CURLY LOOP,
NOTCHED UPPER RIGHT-SHADOWED WHITE RIGHTWARDS ARROW,CIRCLED HEAVY WHITE RIGHTWARDS ARROW,
WHITE-FEATHERED RIGHTWARDS ARROW;10164:BLACK-FEATHERED :SOUTH EAST ARROW,RIGHTWARDS ARROW,
NORTH EAST ARROW;10167:HEAVY BLACK-FEATHERED :SOUTH EAST ARROW,RIGHTWARDS ARROW,NORTH EAST ARROW;
10170::TEARDROP-BARBED RIGHTWARDS ARROW,HEAVY TEARDROP-SHANKED RIGHTWARDS ARROW,
WEDGE-TAILED RIGHTWARDS ARROW,HEAVY WEDGE-TAILED RIGHTWARDS ARROW,OPEN-OUTLINED RIGHTWARDS ARROW;
10175::DOUBLE CURLY LOOP,THREE DIMENSIONAL ANGLE,WHITE TRIANGLE CONTAINING SMALL WHITE TRIANGLE,
PERPENDICULAR,OPEN SUBSET;10180::OPEN SUPERSET,LEFT S-SHAPED BAG DELIMITER,
RIGHT S-SHAPED BAG DELIMITER,OR WITH DOT INSIDE,REVERSE SOLIDUS PRECEDING SUBSET;10185::
SUPERSET PRECEDING SOLIDUS,VERTICAL BAR WITH HORIZONTAL STROKE,MATHEMATICAL RISING DIAGONAL,
LONG DIVISION,MATHEMATICAL FALLING DIAGONAL;10190:SQUARED LOGICAL :AND,OR;10192::
WHITE DIAMOND WITH CENTRED DOT,AND WITH DOT,ELEMENT OF OPENING UPWARDS,
LOWER RIGHT CORNER WITH DOT,UPPER LEFT CORNER WITH DOT;10197::LEFT OUTER JOIN,RIGHT OUTER JOIN,
FULL OUTER JOIN,LARGE UP TACK,LARGE DOWN TACK;10202:LEFT AND RIGHT :DOUBLE TURNSTILE,TACK;10204::
LEFT MULTIMAP,LONG RIGHT TACK,LONG LEFT TACK,UP TACK WITH CIRCLE ABOVE,
LOZENGE DIVIDED BY HORIZONTAL RULE;10209:WHITE CONCAVE-SIDED :DIAMOND,DIAMOND WITH LEFTWARDS TICK,
DIAMOND WITH RIGHTWARDS TICK;10212:WHITE SQUARE WITH :LEFTWARDS TICK,RIGHTWARDS TICK;10214:
MATHEMATICAL :LEFT WHITE SQUARE BRACKET,RIGHT WHITE SQUARE BRACKET,LEFT ANGLE BRACKET,
RIGHT ANGLE BRACKET,LEFT DOUBLE ANGLE BRACKET,RIGHT DOUBLE ANGLE BRACKET,
LEFT WHITE TORTOISE SHELL BRACKET,RIGHT WHITE TORTOISE SHELL BRACKET,LEFT FLATTENED PARENTHESIS,
RIGHT FLATTENED PARENTHESIS;10224::UPWARDS QUADRUPLE ARROW,DOWNWARDS QUADRUPLE ARROW,
ANTICLOCKWISE GAPPED CIRCLE ARROW,CLOCKWISE GAPPED CIRCLE ARROW,RIGHT ARROW WITH CIRCLED PLUS;
10229:LONG :LEFTWARDS ARROW,RIGHTWARDS ARROW,LEFT RIGHT ARROW,LEFTWARDS DOUBLE ARROW,
RIGHTWARDS DOUBLE ARROW,LEFT RIGHT DOUBLE ARROW,LEFTWARDS ARROW FROM BAR,
RIGHTWARDS ARROW FROM BAR,LEFTWARDS DOUBLE ARROW FROM BAR,RIGHTWARDS DOUBLE ARROW FROM BAR,
RIGHTWARDS SQUIGGLE ARROW;10240::BRAILLE PATTERN BLANK;10241:BRAILLE PATTERN DOTS-:1,2,12,3,13,23,
123,4,14,24,124,34,134,234,1234,5,15,25,125,35,135,235,1235,45,145,245,1245,345,1345,2345,12345,6,
16,26,126,36,136,236,1236,46,146,246,1246,346,1346,2346,12346,56,156,256,1256,356,1356,2356,12356,
456,1456,2456,12456,3456,13456,23456,123456,7,17,27,127,37,137,237,1237,47,147,247,1247,347,1347,
2347,12347,57,157,257,1257,357,1357,2357,12357,457,1457,2457,12457,3457,13457,23457,123457,67,167,
267,1267,367,1367,2367,12367,467,1467,2467,12467,3467,13467,23467,123467,567,1567,2567,12567,3567,
13567,23567,123567,4567,14567,24567,124567,34567,134567,234567,1234567,8,18,28,128,38,138,238,
1238,48,148,248,1248,348,1348,2348,12348,58,158,258,1258,358,1358,2358,12358,458,1458,2458,12458,
3458,13458,23458,123458,68,168,268,1268,368,1368,2368,12368,468,1468,2468,12468,3468,13468,23468,
123468,568,1568,2568,12568,3568,13568,23568,123568,4568,14568,24568,124568,34568,134568,234568,
1234568,78,178,278,1278,378,1378,2378,12378,478,1478,2478,12478,3478,13478,23478,123478,578,1578,
2578,12578,3578,13578,23578,123578,4578,14578,24578,124578,34578,134578,234578,1234578,678,1678,
2678,12678,3678,13678,23678,123678,4678,14678,24678,124678,34678,134678,234678,1234678,5678,15678,
25678,125678,35678,135678,235678,1235678,45678,145678,245678,1245678,345678,1345678,2345678,
12345678;10496:RIGHTWARDS TWO-HEADED ARROW WITH :VERTICAL STROKE,DOUBLE VERTICAL STROKE;10498::
LEFTWARDS DOUBLE ARROW WITH VERTICAL STROKE,RIGHTWARDS DOUBLE ARROW WITH VERTICAL STROKE,
LEFT RIGHT DOUBLE ARROW WITH VERTICAL STROKE;10501::RIGHTWARDS TWO-HEADED ARROW FROM BAR,
LEFTWARDS DOUBLE ARROW FROM BAR,RIGHTWARDS DOUBLE ARROW FROM BAR,
DOWNWARDS ARROW WITH HORIZONTAL STROKE,UPWARDS ARROW WITH HORIZONTAL STROKE;10506::
UPWARDS TRIPLE ARROW,DOWNWARDS TRIPLE ARROW,LEFTWARDS DOUBLE DASH ARROW,
RIGHTWARDS DOUBLE DASH ARROW,LEFTWARDS TRIPLE DASH ARROW;10511:RIGHTWARDS :TRIPLE DASH ARROW,
TWO-HEADED TRIPLE DASH ARROW,ARROW WITH DOTTED STEM;10514::UPWARDS ARROW TO BAR,
DOWNWARDS ARROW TO BAR;10516:RIGHTWARDS ARROW WITH TAIL WITH :VERTICAL STROKE,
DOUBLE VERTICAL STROKE;10518:RIGHTWARDS TWO-HEADED ARROW WITH :TAIL,TAIL WITH VERTICAL STROKE,
TAIL WITH DOUBLE VERTICAL STROKE;10521::LEFTWARDS ARROW-TAIL,RIGHTWARDS ARROW-TAIL,
LEFTWARDS DOUBLE ARROW-TAIL;10524::RIGHTWARDS DOUBLE ARROW-TAIL,LEFTWARDS ARROW TO BLACK DIAMOND,
RIGHTWARDS ARROW TO BLACK DIAMOND,LEFTWARDS ARROW FROM BAR TO BLACK DIAMOND,
RIGHTWARDS ARROW FROM BAR TO BLACK DIAMOND;10529:NORTH :WEST AND SOUTH EAST ARROW,
EAST AND SOUTH WEST ARROW,WEST ARROW WITH HOOK,EAST ARROW WITH HOOK;10533::
SOUTH EAST ARROW WITH HOOK,SOUTH WEST ARROW WITH HOOK,NORTH WEST ARROW AND NORTH EAST ARROW,
NORTH EAST ARROW AND SOUTH EAST ARROW,SOUTH EAST ARROW AND SOUTH WEST ARROW;10538::
SOUTH WEST ARROW AND NORTH WEST ARROW,RISING DIAGONAL CROSSING FALLING DIAGONAL,
FALLING DIAGONAL CROSSING RISING DIAGONAL,SOUTH EAST ARROW CROSSING NORTH EAST ARROW,
NORTH EAST ARROW CROSSING SOUTH EAST ARROW;10543::FALLING DIAGONAL CROSSING NORTH EAST ARROW,
RISING DIAGONAL CROSSING SOUTH EAST ARROW,NORTH EAST ARROW CROSSING NORTH WEST ARROW,
NORTH WEST ARROW CROSSING NORTH EAST ARROW,WAVE ARROW POINTING DIRECTLY RIGHT;10548:
ARROW POINTING RIGHTWARDS THEN CURVING :UPWARDS,DOWNWARDS;10550:
ARROW POINTING DOWNWARDS THEN CURVING :LEFTWARDS,RIGHTWARDS;10552::RIGHT-SIDE ARC CLOCKWISE ARROW,
LEFT-SIDE ARC ANTICLOCKWISE ARROW,TOP ARC ANTICLOCKWISE ARROW,BOTTOM ARC ANTICLOCKWISE ARROW;
10556:TOP ARC :CLOCKWISE ARROW WITH MINUS,ANTICLOCKWISE ARROW WITH PLUS;10558:LOWER :
RIGHT SEMICIRCULAR CLOCKWISE ARROW,LEFT SEMICIRCULAR ANTICLOCKWISE ARROW;10560::
ANTICLOCKWISE CLOSED CIRCLE ARROW,CLOCKWISE CLOSED CIRCLE ARROW,
RIGHTWARDS ARROW ABOVE SHORT LEFTWARDS ARROW,LEFTWARDS ARROW ABOVE SHORT RIGHTWARDS ARROW,
SHORT RIGHTWARDS ARROW ABOVE LEFTWARDS ARROW;10565::RIGHTWARDS ARROW WITH PLUS BELOW,
LEFTWARDS ARROW WITH PLUS BELOW,RIGHTWARDS ARROW THROUGH X,LEFT RIGHT ARROW THROUGH SMALL CIRCLE,
UPWARDS TWO-HEADED ARROW FROM SMALL CIRCLE;10570:LEFT BARB :UP RIGHT BARB DOWN HARPOON,
DOWN RIGHT BARB UP HARPOON;10572:UP BARB :RIGHT DOWN BARB LEFT HARPOON,
LEFT DOWN BARB RIGHT HARPOON;10574::LEFT BARB UP RIGHT BARB UP HARPOON,
UP BARB RIGHT DOWN BARB RIGHT HARPOON,LEFT BARB DOWN RIGHT BARB DOWN HARPOON,
UP BARB LEFT DOWN BARB LEFT HARPOON;10578::LEFTWARDS HARPOON WITH BARB UP TO BAR,
RIGHTWARDS HARPOON WITH BARB UP TO BAR,UPWARDS HARPOON WITH BARB RIGHT TO BAR,
DOWNWARDS HARPOON WITH BARB RIGHT TO BAR,LEFTWARDS HARPOON WITH BARB DOWN TO BAR;10583::
RIGHTWARDS HARPOON WITH BARB DOWN TO BAR,UPWARDS HARPOON WITH BARB LEFT TO BAR,
DOWNWARDS HARPOON WITH BARB LEFT TO BAR,LEFTWARDS HARPOON WITH BARB UP FROM BAR,
RIGHTWARDS HARPOON WITH BARB UP FROM BAR;10588::UPWARDS HARPOON WITH BARB RIGHT FROM BAR,
DOWNWARDS HARPOON WITH BARB RIGHT FROM BAR,LEFTWARDS HARPOON WITH BARB DOWN FROM BAR,
RIGHTWARDS HARPOON WITH BARB DOWN FROM BAR,UPWARDS HARPOON WITH BARB LEFT FROM BAR;10593::
DOWNWARDS HARPOON WITH BARB LEFT FROM BAR,
LEFTWARDS HARPOON WITH BARB UP ABOVE LEFTWARDS HARPOON WITH BARB DOWN,
UPWARDS HARPOON WITH BARB LEFT BESIDE UPWARDS HARPOON WITH BARB RIGHT,
RIGHTWARDS HARPOON WITH BARB UP ABOVE RIGHTWARDS HARPOON WITH BARB DOWN,
DOWNWARDS HARPOON WITH BARB LEFT BESIDE DOWNWARDS HARPOON WITH BARB RIGHT;10598:
LEFTWARDS HARPOON WITH BARB :UP ABOVE RIGHTWARDS HARPOON WITH BARB UP,
DOWN ABOVE RIGHTWARDS HARPOON WITH BARB DOWN;10600:RIGHTWARDS HARPOON WITH BARB :
UP ABOVE LEFTWARDS HARPOON WITH BARB UP,DOWN ABOVE LEFTWARDS HARPOON WITH BARB DOWN;10602:
LEFTWARDS HARPOON WITH BARB :UP ABOVE LONG DASH,DOWN BELOW LONG DASH;10604:
RIGHTWARDS HARPOON WITH BARB :UP ABOVE LONG DASH,DOWN BELOW LONG DASH;10606::
UPWARDS HARPOON WITH BARB LEFT BESIDE DOWNWARDS HARPOON WITH BARB RIGHT;10607::
DOWNWARDS HARPOON WITH BARB LEFT BESIDE UPWARDS HARPOON WITH BARB RIGHT,
RIGHT DOUBLE ARROW WITH ROUNDED HEAD,EQUALS SIGN ABOVE RIGHTWARDS ARROW,
TILDE OPERATOR ABOVE RIGHTWARDS ARROW,LEFTWARDS ARROW ABOVE TILDE OPERATOR;10612:
RIGHTWARDS ARROW ABOVE :TILDE OPERATOR,ALMOST EQUAL TO;10614::LESS-THAN ABOVE LEFTWARDS ARROW;
10615::LEFTWARDS ARROW THROUGH LESS-THAN,GREATER-THAN ABOVE RIGHTWARDS ARROW,
SUBSET ABOVE RIGHTWARDS ARROW,LEFTWARDS ARROW THROUGH SUBSET,SUPERSET ABOVE LEFTWARDS ARROW;10620:
:LEFT FISH TAIL,RIGHT FISH TAIL,UP FISH TAIL,DOWN FISH TAIL,TRIPLE VERTICAL BAR DELIMITER;10625:
Z NOTATION :SPOT,TYPE COLON;10627::LEFT WHITE CURLY BRACKET,RIGHT WHITE CURLY BRACKET,
LEFT WHITE PARENTHESIS,RIGHT WHITE PARENTHESIS;10631:Z NOTATION :LEFT IMAGE BRACKET,
RIGHT IMAGE BRACKET,LEFT BINDING BRACKET,RIGHT BINDING BRACKET;10635::
LEFT SQUARE BRACKET WITH UNDERBAR,RIGHT SQUARE BRACKET WITH UNDERBAR,
LEFT SQUARE BRACKET WITH TICK IN TOP CORNER,RIGHT SQUARE BRACKET WITH TICK IN BOTTOM CORNER,
LEFT SQUARE BRACKET WITH TICK IN BOTTOM CORNER;10640::
RIGHT SQUARE BRACKET WITH TICK IN TOP CORNER,LEFT ANGLE BRACKET WITH DOT,
RIGHT ANGLE BRACKET WITH DOT,LEFT ARC LESS-THAN BRACKET,RIGHT ARC GREATER-THAN BRACKET;10645:
DOUBLE :LEFT ARC GREATER-THAN BRACKET,RIGHT ARC LESS-THAN BRACKET;10647::
LEFT BLACK TORTOISE SHELL BRACKET,RIGHT BLACK TORTOISE SHELL BRACKET,DOTTED FENCE,
VERTICAL ZIGZAG LINE;10651::MEASURED ANGLE OPENING LEFT,RIGHT ANGLE VARIANT WITH SQUARE,
MEASURED RIGHT ANGLE WITH DOT,ANGLE WITH S INSIDE,ACUTE ANGLE;10656:SPHERICAL ANGLE OPENING :LEFT,
UP;10658::TURNED ANGLE,REVERSED ANGLE,ANGLE WITH UNDERBAR,REVERSED ANGLE WITH UNDERBAR;10662:
OBLIQUE ANGLE OPENING :UP,DOWN;10664:MEASURED ANGLE WITH OPEN ARM ENDING IN ARROW POINTING :
UP AND RIGHT,UP AND LEFT,DOWN AND RIGHT,DOWN AND LEFT,RIGHT AND UP,LEFT AND UP,RIGHT AND DOWN,
LEFT AND DOWN;10672::REVERSED EMPTY SET;10673:EMPTY SET WITH :OVERBAR,SMALL CIRCLE ABOVE,
RIGHT ARROW ABOVE,LEFT ARROW ABOVE;10677::CIRCLE WITH HORIZONTAL BAR;10678:CIRCLED :VERTICAL BAR,
PARALLEL,REVERSE SOLIDUS,PERPENDICULAR;10682::
CIRCLE DIVIDED BY HORIZONTAL BAR AND TOP HALF DIVIDED BY VERTICAL BAR,CIRCLE WITH SUPERIMPOSED X,
CIRCLED ANTICLOCKWISE-ROTATED DIVISION SIGN,UP ARROW THROUGH CIRCLE;10686:CIRCLED :WHITE BULLET,
BULLET,LESS-THAN,GREATER-THAN;10690:CIRCLE WITH :SMALL CIRCLE TO THE RIGHT,
TWO HORIZONTAL STROKES TO THE RIGHT;10692:SQUARED :RISING DIAGONAL SLASH,FALLING DIAGONAL SLASH,
ASTERISK,SMALL CIRCLE,SQUARE;10697::TWO JOINED SQUARES;10698:TRIANGLE WITH :DOT ABOVE,UNDERBAR;
10700::S IN TRIANGLE,TRIANGLE WITH SERIFS AT BOTTOM,RIGHT TRIANGLE ABOVE LEFT TRIANGLE,
LEFT TRIANGLE BESIDE VERTICAL BAR,VERTICAL BAR BESIDE RIGHT TRIANGLE;10705:BOWTIE WITH :
LEFT HALF BLACK,RIGHT HALF BLACK;10707::BLACK BOWTIE;10708:TIMES WITH :LEFT HALF BLACK,
RIGHT HALF BLACK;10710::WHITE HOURGLASS,BLACK HOURGLASS,LEFT WIGGLY FENCE;10713::
RIGHT WIGGLY FENCE,LEFT DOUBLE WIGGLY FENCE,RIGHT DOUBLE WIGGLY FENCE,INCOMPLETE INFINITY,
TIE OVER INFINITY;10718::INFINITY NEGATED WITH VERTICAL BAR,DOUBLE-ENDED MULTIMAP,
SQUARE WITH CONTOURED OUTLINE,INCREASES AS,SHUFFLE PRODUCT;10723:EQUALS SIGN AND SLANTED :
PARALLEL,PARALLEL WITH TILDE ABOVE;10725::IDENTICAL TO AND SLANTED PARALLEL,GLEICH STARK,
THERMODYNAMIC;10728:DOWN-POINTING TRIANGLE WITH :LEFT HALF BLACK,RIGHT HALF BLACK;10730::
BLACK DIAMOND WITH DOWN ARROW,BLACK LOZENGE,WHITE CIRCLE WITH DOWN ARROW,
BLACK CIRCLE WITH DOWN ARROW;10734:ERROR-BARRED :WHITE SQUARE,BLACK SQUARE,WHITE DIAMOND,
BLACK DIAMOND,WHITE CIRCLE,BLACK CIRCLE;10740::RULE-DELAYED,REVERSE SOLIDUS OPERATOR;10742::
SOLIDUS WITH OVERBAR,REVERSE SOLIDUS WITH HORIZONTAL STROKE,BIG SOLIDUS,BIG REVERSE SOLIDUS,
DOUBLE PLUS;10747::TRIPLE PLUS,LEFT-POINTING CURVED ANGLE BRACKET,
RIGHT-POINTING CURVED ANGLE BRACKET,TINY,MINY;10752:N-ARY CIRCLED :DOT OPERATOR,PLUS OPERATOR,
TIMES OPERATOR;10755:N-ARY UNION OPERATOR WITH :DOT,PLUS;10757:N-ARY SQUARE :
INTERSECTION OPERATOR,UNION OPERATOR;10759:TWO LOGICAL :AND OPERATOR,OR OPERATOR;10761::
N-ARY TIMES OPERATOR,MODULO TWO SUM,SUMMATION WITH INTEGRAL,QUADRUPLE INTEGRAL OPERATOR;10765::
FINITE PART INTEGRAL,INTEGRAL WITH DOUBLE STROKE,INTEGRAL AVERAGE WITH SLASH,CIRCULATION FUNCTION,
ANTICLOCKWISE INTEGRATION;10770:LINE INTEGRATION :WITH RECTANGULAR PATH AROUND POLE,
WITH SEMICIRCULAR PATH AROUND POLE,NOT INCLUDING THE POLE;10773::INTEGRAL AROUND A POINT OPERATOR,
QUATERNION INTEGRAL OPERATOR;10775:INTEGRAL WITH :LEFTWARDS ARROW WITH HOOK,TIMES SIGN,
INTERSECTION,UNION,OVERBAR,UNDERBAR;10781::JOIN,LARGE LEFT TRIANGLE OPERATOR;10783:
Z NOTATION SCHEMA :COMPOSITION,PIPING,PROJECTION;10786:PLUS SIGN WITH :SMALL CIRCLE ABOVE,
CIRCUMFLEX ACCENT ABOVE,TILDE ABOVE,DOT BELOW,TILDE BELOW,SUBSCRIPT TWO,BLACK TRIANGLE;10793:
MINUS SIGN WITH :COMMA ABOVE,DOT BELOW,FALLING DOTS,RISING DOTS;10797:PLUS SIGN IN :
LEFT HALF CIRCLE,RIGHT HALF CIRCLE;10799::VECTOR OR CROSS PRODUCT;10800:MULTIPLICATION SIGN WITH :
DOT ABOVE,UNDERBAR;10802::SEMIDIRECT PRODUCT WITH BOTTOM CLOSED,SMASH PRODUCT;10804:
MULTIPLICATION SIGN IN :LEFT HALF CIRCLE,RIGHT HALF CIRCLE;10806::
CIRCLED MULTIPLICATION SIGN WITH CIRCUMFLEX ACCENT;10807::MULTIPLICATION SIGN IN DOUBLE CIRCLE,
CIRCLED DIVISION SIGN,PLUS SIGN IN TRIANGLE,MINUS SIGN IN TRIANGLE,
MULTIPLICATION SIGN IN TRIANGLE;10812::INTERIOR PRODUCT,RIGHTHAND INTERIOR PRODUCT,
Z NOTATION RELATIONAL COMPOSITION,AMALGAMATION OR COPRODUCT,INTERSECTION WITH DOT;10817:
UNION WITH :MINUS SIGN,OVERBAR;10819:INTERSECTION WITH :OVERBAR,LOGICAL AND;10821:UNION :
WITH LOGICAL OR,ABOVE INTERSECTION;10823::INTERSECTION ABOVE UNION,
UNION ABOVE BAR ABOVE INTERSECTION,INTERSECTION ABOVE BAR ABOVE UNION,
UNION BESIDE AND JOINED WITH UNION,INTERSECTION BESIDE AND JOINED WITH INTERSECTION;10828:CLOSED :
UNION WITH SERIFS,INTERSECTION WITH SERIFS;10830:DOUBLE SQUARE :INTERSECTION,UNION;10832::
CLOSED UNION WITH SERIFS AND SMASH PRODUCT,LOGICAL AND WITH DOT ABOVE,LOGICAL OR WITH DOT ABOVE;
10835:DOUBLE LOGICAL :AND,OR;10837:TWO INTERSECTING LOGICAL :AND,OR;10839:SLOPING LARGE :OR,AND;
10841:LOGICAL :OR OVERLAPPING LOGICAL AND,AND WITH MIDDLE STEM,OR WITH MIDDLE STEM,
AND WITH HORIZONTAL DASH,OR WITH HORIZONTAL DASH;10846:LOGICAL AND WITH :DOUBLE OVERBAR,UNDERBAR,
DOUBLE UNDERBAR;10849::SMALL VEE WITH UNDERBAR;10850:LOGICAL OR WITH DOUBLE :OVERBAR,UNDERBAR;
10852:Z NOTATION :DOMAIN ANTIRESTRICTION,RANGE ANTIRESTRICTION;10854::EQUALS SIGN WITH DOT BELOW,
IDENTICAL WITH DOT ABOVE;10856:TRIPLE HORIZONTAL BAR WITH :DOUBLE VERTICAL STROKE,
TRIPLE VERTICAL STROKE;10858:TILDE OPERATOR WITH :DOT ABOVE,RISING DOTS;10860::
SIMILAR MINUS SIMILAR;10861::CONGRUENT WITH DOT ABOVE,EQUALS WITH ASTERISK,
ALMOST EQUAL TO WITH CIRCUMFLEX ACCENT,APPROXIMATELY EQUAL OR EQUAL TO,
EQUALS SIGN ABOVE PLUS SIGN;10866::PLUS SIGN ABOVE EQUALS SIGN,EQUALS SIGN ABOVE TILDE OPERATOR,
DOUBLE COLON EQUAL,TWO CONSECUTIVE EQUALS SIGNS,THREE CONSECUTIVE EQUALS SIGNS;10871::
EQUALS SIGN WITH TWO DOTS ABOVE AND TWO DOTS BELOW,EQUIVALENT WITH FOUR DOTS ABOVE,
LESS-THAN WITH CIRCLE INSIDE,GREATER-THAN WITH CIRCLE INSIDE,LESS-THAN WITH QUESTION MARK ABOVE;
10876::GREATER-THAN WITH QUESTION MARK ABOVE,LESS-THAN OR SLANTED EQUAL TO,
GREATER-THAN OR SLANTED EQUAL TO,LESS-THAN OR SLANTED EQUAL TO WITH DOT INSIDE,
GREATER-THAN OR SLANTED EQUAL TO WITH DOT INSIDE;10881::
LESS-THAN OR SLANTED EQUAL TO WITH DOT ABOVE,GREATER-THAN OR SLANTED EQUAL TO WITH DOT ABOVE,
LESS-THAN OR SLANTED EQUAL TO WITH DOT ABOVE RIGHT,
GREATER-THAN OR SLANTED EQUAL TO WITH DOT ABOVE LEFT,LESS-THAN OR APPROXIMATE;10886::
GREATER-THAN OR APPROXIMATE,LESS-THAN AND SINGLE-LINE NOT EQUAL TO,
GREATER-THAN AND SINGLE-LINE NOT EQUAL TO,LESS-THAN AND NOT APPROXIMATE,
GREATER-THAN AND NOT APPROXIMATE;10891::LESS-THAN ABOVE DOUBLE-LINE EQUAL ABOVE GREATER-THAN,
GREATER-THAN ABOVE DOUBLE-LINE EQUAL ABOVE LESS-THAN,LESS-THAN ABOVE SIMILAR OR EQUAL,
GREATER-THAN ABOVE SIMILAR OR EQUAL,LESS-THAN ABOVE SIMILAR ABOVE GREATER-THAN;10896::
GREATER-THAN ABOVE SIMILAR ABOVE LESS-THAN,LESS-THAN ABOVE GREATER-THAN ABOVE DOUBLE-LINE EQUAL,
GREATER-THAN ABOVE LESS-THAN ABOVE DOUBLE-LINE EQUAL,
LESS-THAN ABOVE SLANTED EQUAL ABOVE GREATER-THAN ABOVE SLANTED EQUAL,
GREATER-THAN ABOVE SLANTED EQUAL ABOVE LESS-THAN ABOVE SLANTED EQUAL;10901:SLANTED EQUAL TO OR :
LESS-THAN,GREATER-THAN,LESS-THAN WITH DOT INSIDE,GREATER-THAN WITH DOT INSIDE;10905:
DOUBLE-LINE EQUAL TO OR :LESS-THAN,GREATER-THAN;10907:DOUBLE-LINE SLANTED EQUAL TO OR :LESS-THAN,
GREATER-THAN;10909:SIMILAR :OR LESS-THAN,OR GREATER-THAN,ABOVE LESS-THAN ABOVE EQUALS SIGN,
ABOVE GREATER-THAN ABOVE EQUALS SIGN;10913:DOUBLE NESTED :LESS-THAN,GREATER-THAN,
LESS-THAN WITH UNDERBAR;10916:GREATER-THAN :OVERLAPPING LESS-THAN,BESIDE LESS-THAN;10918::
LESS-THAN CLOSED BY CURVE,GREATER-THAN CLOSED BY CURVE,
LESS-THAN CLOSED BY CURVE ABOVE SLANTED EQUAL,GREATER-THAN CLOSED BY CURVE ABOVE SLANTED EQUAL;
10922::SMALLER THAN,LARGER THAN,SMALLER THAN OR EQUAL TO,LARGER THAN OR EQUAL TO,
EQUALS SIGN WITH BUMPY ABOVE;10927::PRECEDES ABOVE SINGLE-LINE EQUALS SIGN,
SUCCEEDS ABOVE SINGLE-LINE EQUALS SIGN,PRECEDES ABOVE SINGLE-LINE NOT EQUAL TO,
SUCCEEDS ABOVE SINGLE-LINE NOT EQUAL TO,PRECEDES ABOVE EQUALS SIGN;10932::
SUCCEEDS ABOVE EQUALS SIGN,PRECEDES ABOVE NOT EQUAL TO,SUCCEEDS ABOVE NOT EQUAL TO,
PRECEDES ABOVE ALMOST EQUAL TO,SUCCEEDS ABOVE ALMOST EQUAL TO;10937::
PRECEDES ABOVE NOT ALMOST EQUAL TO,SUCCEEDS ABOVE NOT ALMOST EQUAL TO,DOUBLE PRECEDES,
DOUBLE SUCCEEDS,SUBSET WITH DOT;10942::SUPERSET WITH DOT,SUBSET WITH PLUS SIGN BELOW,
SUPERSET WITH PLUS SIGN BELOW,SUBSET WITH MULTIPLICATION SIGN BELOW,
SUPERSET WITH MULTIPLICATION SIGN BELOW;10947::SUBSET OF OR EQUAL TO WITH DOT ABOVE,
SUPERSET OF OR EQUAL TO WITH DOT ABOVE,SUBSET OF ABOVE EQUALS SIGN,SUPERSET OF ABOVE EQUALS SIGN,
SUBSET OF ABOVE TILDE OPERATOR;10952::SUPERSET OF ABOVE TILDE OPERATOR,
SUBSET OF ABOVE ALMOST EQUAL TO,SUPERSET OF ABOVE ALMOST EQUAL TO,SUBSET OF ABOVE NOT EQUAL TO,
SUPERSET OF ABOVE NOT EQUAL TO;10957:SQUARE :LEFT OPEN BOX OPERATOR,RIGHT OPEN BOX OPERATOR;10959:
CLOSED :SUBSET,SUPERSET,SUBSET OR EQUAL TO,SUPERSET OR EQUAL TO;10963::SUBSET ABOVE SUPERSET,
SUPERSET ABOVE SUBSET,SUBSET ABOVE SUBSET;10966:SUPERSET :ABOVE SUPERSET,BESIDE SUBSET,
BESIDE AND JOINED BY DASH WITH SUBSET;10969::ELEMENT OF OPENING DOWNWARDS,PITCHFORK WITH TEE TOP,
TRANSVERSAL INTERSECTION,FORKING,NONFORKING;10974:SHORT :LEFT TACK,DOWN TACK,UP TACK;10977::
PERPENDICULAR WITH S,VERTICAL BAR TRIPLE RIGHT TURNSTILE;10979::
DOUBLE VERTICAL BAR LEFT TURNSTILE,VERTICAL BAR DOUBLE LEFT TURNSTILE,
DOUBLE VERTICAL BAR DOUBLE LEFT TURNSTILE,LONG DASH FROM LEFT MEMBER OF DOUBLE VERTICAL,
SHORT DOWN TACK WITH OVERBAR;10984:SHORT UP TACK :WITH UNDERBAR,ABOVE SHORT DOWN TACK;10986:
DOUBLE :DOWN TACK,UP TACK,STROKE NOT SIGN;10989::REVERSED DOUBLE STROKE NOT SIGN,
DOES NOT DIVIDE WITH REVERSED NEGATION SLASH;10991:VERTICAL LINE WITH CIRCLE :ABOVE,BELOW;10993::
DOWN TACK WITH CIRCLE BELOW;10994:PARALLEL WITH :HORIZONTAL STROKE,TILDE OPERATOR;10996:TRIPLE :
VERTICAL BAR BINARY RELATION,VERTICAL BAR WITH HORIZONTAL STROKE,COLON OPERATOR,NESTED LESS-THAN,
NESTED GREATER-THAN;11001:DOUBLE-LINE SLANTED :LESS-THAN OR EQUAL TO,GREATER-THAN OR EQUAL TO;
11003::TRIPLE SOLIDUS BINARY RELATION,LARGE TRIPLE VERTICAL BAR OPERATOR,DOUBLE SOLIDUS OPERATOR,
WHITE VERTICAL BAR,N-ARY WHITE VERTICAL BAR;11008:NORTH :EAST WHITE ARROW,WEST WHITE ARROW;11010:
SOUTH :EAST WHITE ARROW,WEST WHITE ARROW;11012::LEFT RIGHT WHITE ARROW,LEFTWARDS BLACK ARROW,
UPWARDS BLACK ARROW,DOWNWARDS BLACK ARROW,NORTH EAST BLACK ARROW;11017::NORTH WEST BLACK ARROW,
SOUTH EAST BLACK ARROW,SOUTH WEST BLACK ARROW,LEFT RIGHT BLACK ARROW,UP DOWN BLACK ARROW;11022:
RIGHTWARDS ARROW WITH TIP :DOWNWARDS,UPWARDS;11024:LEFTWARDS ARROW WITH TIP :DOWNWARDS,UPWARDS;
11026:SQUARE WITH :TOP HALF BLACK,BOTTOM HALF BLACK,UPPER RIGHT DIAGONAL HALF BLACK,
LOWER LEFT DIAGONAL HALF BLACK;11030:DIAMOND WITH :LEFT HALF BLACK,RIGHT HALF BLACK,
TOP HALF BLACK,BOTTOM HALF BLACK;11034::DOTTED SQUARE,BLACK LARGE SQUARE,WHITE LARGE SQUARE,
BLACK VERY SMALL SQUARE,WHITE VERY SMALL SQUARE;11039::BLACK PENTAGON,WHITE PENTAGON,
WHITE HEXAGON,BLACK HEXAGON,HORIZONTAL BLACK HEXAGON;11044::BLACK LARGE CIRCLE,
BLACK MEDIUM DIAMOND,WHITE MEDIUM DIAMOND,BLACK MEDIUM LOZENGE,WHITE MEDIUM LOZENGE;11049:
BLACK SMALL :DIAMOND,LOZENGE;11051::WHITE SMALL LOZENGE,BLACK HORIZONTAL ELLIPSE,
WHITE HORIZONTAL ELLIPSE,BLACK VERTICAL ELLIPSE;11055::WHITE VERTICAL ELLIPSE,
LEFT ARROW WITH SMALL CIRCLE,THREE LEFTWARDS ARROWS,LEFT ARROW WITH CIRCLED PLUS,
LONG LEFTWARDS SQUIGGLE ARROW;11060:LEFTWARDS TWO-HEADED :ARROW WITH VERTICAL STROKE,
ARROW WITH DOUBLE VERTICAL STROKE,ARROW FROM BAR,TRIPLE DASH ARROW;11064:LEFTWARDS ARROW WITH :
DOTTED STEM,TAIL WITH VERTICAL STROKE,TAIL WITH DOUBLE VERTICAL STROKE;11067:
LEFTWARDS TWO-HEADED ARROW WITH :TAIL,TAIL WITH VERTICAL STROKE,TAIL WITH DOUBLE VERTICAL STROKE;
11070::LEFTWARDS ARROW THROUGH X,WAVE ARROW POINTING DIRECTLY LEFT,
EQUALS SIGN ABOVE LEFTWARDS ARROW,REVERSE TILDE OPERATOR ABOVE LEFTWARDS ARROW,
LEFTWARDS ARROW ABOVE REVERSE ALMOST EQUAL TO;11075:RIGHTWARDS ARROW THROUGH :GREATER-THAN,
SUPERSET;11077::LEFTWARDS QUADRUPLE ARROW,RIGHTWARDS QUADRUPLE ARROW,
REVERSE TILDE OPERATOR ABOVE RIGHTWARDS ARROW,RIGHTWARDS ARROW ABOVE REVERSE ALMOST EQUAL TO,
TILDE OPERATOR ABOVE LEFTWARDS ARROW;11082:LEFTWARDS ARROW ABOVE :ALMOST EQUAL TO,
REVERSE TILDE OPERATOR;11084::RIGHTWARDS ARROW ABOVE REVERSE TILDE OPERATOR,
DOWNWARDS TRIANGLE-HEADED ZIGZAG ARROW,SHORT SLANTED NORTH ARROW,SHORT BACKSLANTED SOUTH ARROW;
11088::WHITE MEDIUM STAR,BLACK SMALL STAR,WHITE SMALL STAR,BLACK RIGHT-POINTING PENTAGON,
WHITE RIGHT-POINTING PENTAGON;11093:HEAVY :LARGE CIRCLE,OVAL WITH OVAL INSIDE,
CIRCLE WITH CIRCLE INSIDE,CIRCLE,CIRCLED SALTIRE;11098::SLANTED NORTH ARROW WITH HOOKED HEAD,
BACKSLANTED SOUTH ARROW WITH HOOKED TAIL,SLANTED NORTH ARROW WITH HORIZONTAL TAIL,
BACKSLANTED SOUTH ARROW WITH HORIZONTAL TAIL;11102::BENT ARROW POINTING DOWNWARDS THEN NORTH EAST,
SHORT BENT ARROW POINTING DOWNWARDS THEN NORTH EAST,LEFTWARDS TRIANGLE-HEADED ARROW,
UPWARDS TRIANGLE-HEADED ARROW,RIGHTWARDS TRIANGLE-HEADED ARROW;11107::
DOWNWARDS TRIANGLE-HEADED ARROW,LEFT RIGHT TRIANGLE-HEADED ARROW,UP DOWN TRIANGLE-HEADED ARROW,
NORTH WEST TRIANGLE-HEADED ARROW,NORTH EAST TRIANGLE-HEADED ARROW;11112:SOUTH :
EAST TRIANGLE-HEADED ARROW,WEST TRIANGLE-HEADED ARROW;11114::
LEFTWARDS TRIANGLE-HEADED DASHED ARROW,UPWARDS TRIANGLE-HEADED DASHED ARROW,
RIGHTWARDS TRIANGLE-HEADED DASHED ARROW,DOWNWARDS TRIANGLE-HEADED DASHED ARROW,
CLOCKWISE TRIANGLE-HEADED OPEN CIRCLE ARROW;11119::
ANTICLOCKWISE TRIANGLE-HEADED OPEN CIRCLE ARROW,LEFTWARDS TRIANGLE-HEADED ARROW TO BAR,
UPWARDS TRIANGLE-HEADED ARROW TO BAR,RIGHTWARDS TRIANGLE-HEADED ARROW TO BAR,
DOWNWARDS TRIANGLE-HEADED ARROW TO BAR;11126:NORTH :WEST TRIANGLE-HEADED ARROW TO BAR,
EAST TRIANGLE-HEADED ARROW TO BAR;11128::SOUTH EAST TRIANGLE-HEADED ARROW TO BAR,
SOUTH WEST TRIANGLE-HEADED ARROW TO BAR,
LEFTWARDS TRIANGLE-HEADED ARROW WITH DOUBLE HORIZONTAL STROKE,
UPWARDS TRIANGLE-HEADED ARROW WITH DOUBLE HORIZONTAL STROKE,
RIGHTWARDS TRIANGLE-HEADED ARROW WITH DOUBLE HORIZONTAL STROKE;11133::
DOWNWARDS TRIANGLE-HEADED ARROW WITH DOUBLE HORIZONTAL STROKE,HORIZONTAL TAB KEY,VERTICAL TAB KEY,
LEFTWARDS TRIANGLE-HEADED ARROW OVER RIGHTWARDS TRIANGLE-HEADED ARROW,
UPWARDS TRIANGLE-HEADED ARROW LEFTWARDS OF DOWNWARDS TRIANGLE-HEADED ARROW;11138::
RIGHTWARDS TRIANGLE-HEADED ARROW OVER LEFTWARDS TRIANGLE-HEADED ARROW,
DOWNWARDS TRIANGLE-HEADED ARROW LEFTWARDS OF UPWARDS TRIANGLE-HEADED ARROW,
LEFTWARDS TRIANGLE-HEADED PAIRED ARROWS,UPWARDS TRIANGLE-HEADED PAIRED ARROWS,
RIGHTWARDS TRIANGLE-HEADED PAIRED ARROWS;11143::DOWNWARDS TRIANGLE-HEADED PAIRED ARROWS,
LEFTWARDS BLACK CIRCLED WHITE ARROW,UPWARDS BLACK CIRCLED WHITE ARROW,
RIGHTWARDS BLACK CIRCLED WHITE ARROW,DOWNWARDS BLACK CIRCLED WHITE ARROW;11148:
ANTICLOCKWISE TRIANGLE-HEADED :RIGHT U-SHAPED ARROW,BOTTOM U-SHAPED ARROW,LEFT U-SHAPED ARROW,
TOP U-SHAPED ARROW;11152:RETURN :LEFT,RIGHT;11154::NEWLINE LEFT,NEWLINE RIGHT,
FOUR CORNER ARROWS CIRCLING ANTICLOCKWISE,RIGHTWARDS BLACK ARROW,,SYMBOL FOR TYPE A ELECTRONICS;
11160:THREE-D :TOP-LIGHTED LEFTWARDS EQUILATERAL ARROWHEAD,
RIGHT-LIGHTED UPWARDS EQUILATERAL ARROWHEAD,TOP-LIGHTED RIGHTWARDS EQUILATERAL ARROWHEAD,
LEFT-LIGHTED DOWNWARDS EQUILATERAL ARROWHEAD;11164:BLACK :LEFTWARDS EQUILATERAL ARROWHEAD,
UPWARDS EQUILATERAL ARROWHEAD,RIGHTWARDS EQUILATERAL ARROWHEAD,DOWNWARDS EQUILATERAL ARROWHEAD;
11168:DOWNWARDS TRIANGLE-HEADED ARROW WITH LONG TIP :LEFTWARDS,RIGHTWARDS;11170:
UPWARDS TRIANGLE-HEADED ARROW WITH LONG TIP :LEFTWARDS,RIGHTWARDS;11172::
LEFTWARDS TRIANGLE-HEADED ARROW WITH LONG TIP UPWARDS,
RIGHTWARDS TRIANGLE-HEADED ARROW WITH LONG TIP UPWARDS,
LEFTWARDS TRIANGLE-HEADED ARROW WITH LONG TIP DOWNWARDS,
RIGHTWARDS TRIANGLE-HEADED ARROW WITH LONG TIP DOWNWARDS;11176:BLACK CURVED :
DOWNWARDS AND LEFTWARDS ARROW,DOWNWARDS AND RIGHTWARDS ARROW,UPWARDS AND LEFTWARDS ARROW,
UPWARDS AND RIGHTWARDS ARROW,LEFTWARDS AND UPWARDS ARROW,RIGHTWARDS AND UPWARDS ARROW,
LEFTWARDS AND DOWNWARDS ARROW,RIGHTWARDS AND DOWNWARDS ARROW;11184:RIBBON ARROW :DOWN LEFT,
DOWN RIGHT,UP LEFT,UP RIGHT,LEFT UP,RIGHT UP,LEFT DOWN,RIGHT DOWN;11192::
UPWARDS WHITE ARROW FROM BAR WITH HORIZONTAL BAR,UP ARROWHEAD IN A RECTANGLE BOX;11194:
OVERLAPPING :WHITE SQUARES,WHITE AND BLACK SQUARES,BLACK SQUARES;11197::BALLOT BOX WITH LIGHT X,
CIRCLED X,CIRCLED BOLD X;11200::BLACK SQUARE CENTRED,BLACK DIAMOND CENTRED,TURNED BLACK PENTAGON,
HORIZONTAL BLACK OCTAGON,BLACK OCTAGON;11205:BLACK MEDIUM :UP-POINTING TRIANGLE CENTRED,
DOWN-POINTING TRIANGLE CENTRED,LEFT-POINTING TRIANGLE CENTRED,RIGHT-POINTING TRIANGLE CENTRED;
11209::NEPTUNE FORM TWO,TOP HALF BLACK CIRCLE,BOTTOM HALF BLACK CIRCLE,
LIGHT FOUR POINTED BLACK CUSP,ROTATED LIGHT FOUR POINTED BLACK CUSP;11214::
WHITE FOUR POINTED CUSP,ROTATED WHITE FOUR POINTED CUSP,SQUARE POSITION INDICATOR,
UNCERTAINTY SIGN,GROUP MARK;11219:PLUTO FORM :TWO,THREE,FOUR,FIVE;11223::TRANSPLUTO,PROSERPINA,
ASTRAEA,HYGIEA;11227::PHOLUS,NESSUS,WHITE MOON SELENA,BLACK DIAMOND ON CROSS,TRUE LIGHT MOON ARTA;
11232::CUPIDO,HADES,ZEUS,KRONOS,APOLLON;11237::ADMETOS,VULCANUS,POSEIDON,LEFT HALF BLACK STAR,
RIGHT HALF BLACK STAR;11242:STAR WITH :LEFT HALF BLACK,RIGHT HALF BLACK;11244::
LEFTWARDS TWO-HEADED ARROW WITH TRIANGLE ARROWHEADS,
UPWARDS TWO-HEADED ARROW WITH TRIANGLE ARROWHEADS,
RIGHTWARDS TWO-HEADED ARROW WITH TRIANGLE ARROWHEADS,
DOWNWARDS TWO-HEADED ARROW WITH TRIANGLE ARROWHEADS;11248:ERIS FORM :ONE,TWO;11250::SEDNA;11251:
RUSSIAN ASTROLOGICAL SYMBOL :VIGINTILE,NOVILE,QUINTILE,BINOVILE,SENTAGON,TREDECILE;11257::
EQUALS SIGN WITH INFINITY BELOW,UNITED SYMBOL;11259::SEPARATED SYMBOL,DOUBLED SYMBOL,
PASSED SYMBOL,REVERSED RIGHT ANGLE,HELLSCHREIBER PAUSE SYMBOL;11264:GLAGOLITIC CAPITAL LETTER :
AZU,BUKY,VEDE,GLAGOLI,DOBRO,YESTU,ZHIVETE,DZELO,ZEMLJA,IZHE,INITIAL IZHE,I,DJERVI,KAKO,LJUDIJE,
MYSLITE,NASHI,ONU,POKOJI,RITSI,SLOVO,TVRIDO,UKU,FRITU,HERU,OTU,PE,SHTA,TSI,CHRIVI,SHA,YERU,YERI,
YATI,SPIDERY HA,YU,SMALL YUS,SMALL YUS WITH TAIL,YO,IOTATED SMALL YUS,BIG YUS,IOTATED BIG YUS,
FITA,IZHITSA,SHTAPIC,TROKUTASTI A,LATINATE MYSLITE,CAUDATE CHRIVI;11312:GLAGOLITIC SMALL LETTER :
AZU,BUKY,VEDE,GLAGOLI,DOBRO,YESTU,ZHIVETE,DZELO,ZEMLJA,IZHE,INITIAL IZHE,I,DJERVI,KAKO,LJUDIJE,
MYSLITE,NASHI,ONU,POKOJI,RITSI,SLOVO,TVRIDO,UKU,FRITU,HERU,OTU,PE,SHTA,TSI,CHRIVI,SHA,YERU,YERI,
YATI,SPIDERY HA,YU,SMALL YUS,SMALL YUS WITH TAIL,YO,IOTATED SMALL YUS,BIG YUS,IOTATED BIG YUS,
FITA,IZHITSA,SHTAPIC,TROKUTASTI A,LATINATE MYSLITE,CAUDATE CHRIVI;11360:LATIN :
CAPITAL LETTER L WITH DOUBLE BAR,SMALL LETTER L WITH DOUBLE BAR,
CAPITAL LETTER L WITH MIDDLE TILDE,CAPITAL LETTER P WITH STROKE,CAPITAL LETTER R WITH TAIL,
SMALL LETTER A WITH STROKE,SMALL LETTER T WITH DIAGONAL STROKE,CAPITAL LETTER H WITH DESCENDER,
SMALL LETTER H WITH DESCENDER,CAPITAL LETTER K WITH DESCENDER,SMALL LETTER K WITH DESCENDER,
CAPITAL LETTER Z WITH DESCENDER,SMALL LETTER Z WITH DESCENDER;11373:LATIN CAPITAL LETTER :ALPHA,
M WITH HOOK,TURNED A,TURNED ALPHA;11377:LATIN :SMALL LETTER V WITH RIGHT HOOK,
CAPITAL LETTER W WITH HOOK,SMALL LETTER W WITH HOOK,SMALL LETTER V WITH CURL,
CAPITAL LETTER HALF H;11382:LATIN SMALL LETTER :HALF H,TAILLESS PHI,E WITH NOTCH,
TURNED R WITH TAIL,O WITH LOW RING INSIDE;11387::LATIN LETTER SMALL CAPITAL TURNED E,
LATIN SUBSCRIPT SMALL LETTER J,MODIFIER LETTER CAPITAL V;11390:LATIN CAPITAL LETTER :
S WITH SWASH TAIL,Z WITH SWASH TAIL;11392:COPTIC :CAPITAL LETTER ALFA,SMALL LETTER ALFA,
CAPITAL LETTER VIDA,SMALL LETTER VIDA,CAPITAL LETTER GAMMA,SMALL LETTER GAMMA,
CAPITAL LETTER DALDA,SMALL LETTER DALDA,CAPITAL LETTER EIE,SMALL LETTER EIE,CAPITAL LETTER SOU,
SMALL LETTER SOU,CAPITAL LETTER ZATA,SMALL LETTER ZATA,CAPITAL LETTER HATE,SMALL LETTER HATE,
CAPITAL LETTER THETHE,SMALL LETTER THETHE,CAPITAL LETTER IAUDA,SMALL LETTER IAUDA,
CAPITAL LETTER KAPA,SMALL LETTER KAPA,CAPITAL LETTER LAULA,SMALL LETTER LAULA,CAPITAL LETTER MI,
SMALL LETTER MI,CAPITAL LETTER NI,SMALL LETTER NI,CAPITAL LETTER KSI,SMALL LETTER KSI,
CAPITAL LETTER O,SMALL LETTER O,CAPITAL LETTER PI,SMALL LETTER PI,CAPITAL LETTER RO,
SMALL LETTER RO,CAPITAL LETTER SIMA,SMALL LETTER SIMA,CAPITAL LETTER TAU,SMALL LETTER TAU,
CAPITAL LETTER UA,SMALL LETTER UA,CAPITAL LETTER FI,SMALL LETTER FI,CAPITAL LETTER KHI,
SMALL LETTER KHI,CAPITAL LETTER PSI,SMALL LETTER PSI,CAPITAL LETTER OOU,SMALL LETTER OOU,
CAPITAL LETTER DIALECT-P ALEF,SMALL LETTER DIALECT-P ALEF,CAPITAL LETTER OLD COPTIC AIN,
SMALL LETTER OLD COPTIC AIN,CAPITAL LETTER CRYPTOGRAMMIC EIE,SMALL LETTER CRYPTOGRAMMIC EIE,
CAPITAL LETTER DIALECT-P KAPA,SMALL LETTER DIALECT-P KAPA,CAPITAL LETTER DIALECT-P NI,
SMALL LETTER DIALECT-P NI,CAPITAL LETTER CRYPTOGRAMMIC NI,SMALL LETTER CRYPTOGRAMMIC NI,
CAPITAL LETTER OLD COPTIC OOU,SMALL LETTER OLD COPTIC OOU,CAPITAL LETTER SAMPI,SMALL LETTER SAMPI,
CAPITAL LETTER CROSSED SHEI,SMALL LETTER CROSSED SHEI,CAPITAL LETTER OLD COPTIC SHEI,
SMALL LETTER OLD COPTIC SHEI,CAPITAL LETTER OLD COPTIC ESH,SMALL LETTER OLD COPTIC ESH,
CAPITAL LETTER AKHMIMIC KHEI,SMALL LETTER AKHMIMIC KHEI,CAPITAL LETTER DIALECT-P HORI,
SMALL LETTER DIALECT-P HORI,CAPITAL LETTER OLD COPTIC HORI,SMALL LETTER OLD COPTIC HORI,
CAPITAL LETTER OLD COPTIC HA,SMALL LETTER OLD COPTIC HA,CAPITAL LETTER L-SHAPED HA,
SMALL LETTER L-SHAPED HA,CAPITAL LETTER OLD COPTIC HEI,SMALL LETTER OLD COPTIC HEI,
CAPITAL LETTER OLD COPTIC HAT,SMALL LETTER OLD COPTIC HAT,CAPITAL LETTER OLD COPTIC GANGIA,
SMALL LETTER OLD COPTIC GANGIA,CAPITAL LETTER OLD COPTIC DJA,SMALL LETTER OLD COPTIC DJA,
CAPITAL LETTER OLD COPTIC SHIMA,SMALL LETTER OLD COPTIC SHIMA,CAPITAL LETTER OLD NUBIAN SHIMA,
SMALL LETTER OLD NUBIAN SHIMA,CAPITAL LETTER OLD NUBIAN NGI,SMALL LETTER OLD NUBIAN NGI,
CAPITAL LETTER OLD NUBIAN NYI,SMALL LETTER OLD NUBIAN NYI,CAPITAL LETTER OLD NUBIAN WAU,
SMALL LETTER OLD NUBIAN WAU;11492:COPTIC SYMBOL :KAI,MI RO,PI RO,STAUROS,TAU RO,KHI RO,SHIMA SIMA;
11499:COPTIC :CAPITAL LETTER CRYPTOGRAMMIC SHEI,SMALL LETTER CRYPTOGRAMMIC SHEI,
CAPITAL LETTER CRYPTOGRAMMIC GANGIA,SMALL LETTER CRYPTOGRAMMIC GANGIA,COMBINING NI ABOVE,
COMBINING SPIRITUS ASPER,COMBINING SPIRITUS LENIS,CAPITAL LETTER BOHAIRIC KHEI,
SMALL LETTER BOHAIRIC KHEI;11513:COPTIC OLD NUBIAN :FULL STOP,DIRECT QUESTION MARK,
INDIRECT QUESTION MARK,VERSE DIVIDER;11517:COPTIC :FRACTION ONE HALF,FULL STOP,
MORPHOLOGICAL DIVIDER;11520:GEORGIAN SMALL LETTER :AN,BAN,GAN,DON,EN,VIN,ZEN,TAN,IN,KAN,LAS,MAN,
NAR,ON,PAR,ZHAR,RAE,SAN,TAR,UN,PHAR,KHAR,GHAN,QAR,SHIN,CHIN,CAN,JIL,CIL,CHAR,XAN,JHAN,HAE,HE,HIE,
WE,HAR,HOE,,YN,,,,,,AEN;11568:TIFINAGH LETTER :YA,YAB,YABH,YAG,YAGHH,BERBER ACADEMY YAJ,YAJ,YAD,
YADH,YADD,YADDH,YEY,YAF,YAK,TUAREG YAK,YAKHH,YAH,BERBER ACADEMY YAH,TUAREG YAH,YAHH,YAA,YAKH,
TUAREG YAKH,YAQ,TUAREG YAQ,YI,YAZH,AHAGGAR YAZH,TUAREG YAZH,YAL,YAM,YAN,TUAREG YAGN,TUAREG YANG,
YAP,YU,YAR,YARR,YAGH,TUAREG YAGH,AYER YAGH,YAS,YASS,YASH,YAT,YATH,YACH,YATT,YAV,YAW,YAY,YAZ,
TAWELLEMET YAZ,YAZZ,YE,YO;11631:TIFINAGH :MODIFIER LETTER LABIALIZATION MARK,SEPARATOR MARK;11647:
:TIFINAGH CONSONANT JOINER;11648:ETHIOPIC SYLLABLE :LOA,MOA,ROA,SOA,SHOA,BOA,TOA,COA,NOA,NYOA,
GLOTTAL OA,ZOA,DOA,DDOA,JOA,THOA,CHOA,PHOA,POA,GGWA,GGWI,GGWEE,GGWE;11680:ETHIOPIC SYLLABLE :SSA,
SSU,SSI,SSAA,SSEE,SSE,SSO,,CCA,CCU,CCI,CCAA,CCEE,CCE,CCO,,ZZA,ZZU,ZZI,ZZAA,ZZEE,ZZE,ZZO,,CCHA,
CCHU,CCHI,CCHAA,CCHEE,CCHE,CCHO,,QYA,QYU,QYI,QYAA,QYEE,QYE,QYO,,KYA,KYU,KYI,KYAA,KYEE,KYE,KYO,,
XYA,XYU,XYI,XYAA,XYEE,XYE,XYO,,GYA,GYU,GYI,GYAA,GYEE,GYE,GYO;11744:COMBINING CYRILLIC LETTER :BE,
VE,GHE,DE,ZHE,ZE,KA,EL,EM,EN,O,PE,ER,ES,TE,HA,TSE,CHE,SHA,SHCHA,FITA,ES-TE,A,IE,DJERV,
MONOGRAPH UK,YAT,YU,IOTIFIED A,LITTLE YUS,BIG YUS,IOTIFIED BIG YUS;"

end Promptuary.Text.CharacterName
