import Promptuary.Text.CharacterName.Western
import Promptuary.Text.CharacterName.Southern
import Promptuary.Text.CharacterName.Signs
import Promptuary.Text.CharacterName.Eastern
import Promptuary.Text.CharacterName.Modern
import Promptuary.Text.CharacterName.Ancient
import Promptuary.Text.CharacterName.Carved
import Promptuary.Text.CharacterName.Formal
import Promptuary.Text.CharacterName.Pictures
import Promptuary.Text.CodeRange

/-!
Characters by name. Most names are listed in tables, some are made of the number of the character,
and those of the Korean syllables of the names of their sounds. Capitals and small letters are the
same in a listed name.
-/

namespace Promptuary.Text.CharacterName

/-- Further names, written like the others: of controls, of what is known by an abbreviation, and of
characters whose first name is mistaken. -/
def further : String :=
"0::NUL;0::NULL;1::SOH;1::START OF HEADING;2::START OF TEXT;2::STX;3::END OF TEXT;3::ETX;
4::END OF TRANSMISSION;4::EOT;5::ENQ;5::ENQUIRY;6::ACK;6::ACKNOWLEDGE;7::ALERT;7::BEL;
8::BACKSPACE;8::BS;9::CHARACTER TABULATION;9::HORIZONTAL TABULATION;9::HT;9::TAB;10::END OF LINE;
10::EOL;10::LF;10::LINE FEED;10::NEW LINE;10::NL;11::LINE TABULATION;11::VERTICAL TABULATION;
11::VT;12::FF;12::FORM FEED;13::CARRIAGE RETURN;13::CR;14::LOCKING-SHIFT ONE;14::SHIFT OUT;14::SO;
15::LOCKING-SHIFT ZERO;15::SHIFT IN;15::SI;16::DATA LINK ESCAPE;16::DLE;17::DC1;
17::DEVICE CONTROL ONE;18::DC2;18::DEVICE CONTROL TWO;19::DC3;19::DEVICE CONTROL THREE;20::DC4;
20::DEVICE CONTROL FOUR;21::NAK;21::NEGATIVE ACKNOWLEDGE;22::SYN;22::SYNCHRONOUS IDLE;
23::END OF TRANSMISSION BLOCK;23::ETB;24::CAN;24::CANCEL;25::END OF MEDIUM;25::EOM;25::EOM;
26::SUB;26::SUBSTITUTE;27::ESC;27::ESCAPE;28::FILE SEPARATOR;28::FS;
28::INFORMATION SEPARATOR FOUR;29::GROUP SEPARATOR;29::GS;29::INFORMATION SEPARATOR THREE;
30::INFORMATION SEPARATOR TWO;30::RECORD SEPARATOR;30::RS;31::INFORMATION SEPARATOR ONE;
31::UNIT SEPARATOR;31::US;32::SP;127::DEL;127::DELETE;128::PAD;128::PADDING CHARACTER;
129::HIGH OCTET PRESET;129::HOP;130::BPH;130::BREAK PERMITTED HERE;131::NBH;131::NO BREAK HERE;
132::IND;132::INDEX;133::NEL;133::NEXT LINE;134::SSA;134::START OF SELECTED AREA;
135::END OF SELECTED AREA;135::ESA;136::CHARACTER TABULATION SET;136::HORIZONTAL TABULATION SET;
136::HTS;137::CHARACTER TABULATION WITH JUSTIFICATION;
137::HORIZONTAL TABULATION WITH JUSTIFICATION;137::HTJ;138::LINE TABULATION SET;
138::VERTICAL TABULATION SET;138::VTS;139::PARTIAL LINE DOWN;139::PARTIAL LINE FORWARD;139::PLD;
140::PARTIAL LINE BACKWARD;140::PARTIAL LINE UP;140::PLU;141::REVERSE INDEX;
141::REVERSE LINE FEED;141::RI;142::SINGLE SHIFT TWO;142::SINGLE-SHIFT-2;142::SS2;
143::SINGLE SHIFT THREE;143::SINGLE-SHIFT-3;143::SS3;144::DCS;144::DEVICE CONTROL STRING;
145::PRIVATE USE ONE;145::PRIVATE USE-1;145::PU1;146::PRIVATE USE TWO;146::PRIVATE USE-2;146::PU2;
147::SET TRANSMIT STATE;147::STS;148::CANCEL CHARACTER;148::CCH;149::MESSAGE WAITING;149::MW;
150::SPA;150::START OF GUARDED AREA;150::START OF PROTECTED AREA;151::END OF GUARDED AREA;
151::END OF PROTECTED AREA;151::EPA;152::SOS;152::START OF STRING;153::SGC;
153::SINGLE GRAPHIC CHARACTER INTRODUCER;154::SCI;154::SINGLE CHARACTER INTRODUCER;
155::CONTROL SEQUENCE INTRODUCER;155::CSI;156::ST;156::STRING TERMINATOR;
157::OPERATING SYSTEM COMMAND;157::OSC;158::PM;158::PRIVACY MESSAGE;159::APC;
159::APPLICATION PROGRAM COMMAND;160::NBSP;173::SHY;418::LATIN CAPITAL LETTER GHA;
419::LATIN SMALL LETTER GHA;847::CGJ;1564::ALM;1801::SYRIAC SUBLINEAR COLON SKEWED LEFT;
3294::KANNADA LETTER LLLA;3741::LAO LETTER FO FON;3743::LAO LETTER FO FAY;3747::LAO LETTER RO;
3749::LAO LETTER LO;4048::TIBETAN MARK BKA- SHOG GI MGO RGYAN;
4588::HANGUL JONGSEONG YESIEUNG-KIYEOK;4589::HANGUL JONGSEONG YESIEUNG-SSANGKIYEOK;
4590::HANGUL JONGSEONG SSANGYESIEUNG;4591::HANGUL JONGSEONG YESIEUNG-KHIEUKH;6155::FVS1;
6156::FVS2;6157::FVS3;6158::MVS;6159::FVS4;8203::ZWSP;8204::ZWNJ;8205::ZWJ;8206::LRM;8207::RLM;
8234::LRE;8235::RLE;8236::PDF;8237::LRO;8238::RLO;8239::NNBSP;8287::MMSP;8288::WJ;8294::LRI;
8295::RLI;8296::FSI;8297::PDI;8472::WEIERSTRASS ELLIPTIC FUNCTION;9288::MICR ON US SYMBOL;
9289::MICR DASH SYMBOL;11130::LEFTWARDS TRIANGLE-HEADED ARROW WITH DOUBLE VERTICAL STROKE;
11132::RIGHTWARDS TRIANGLE-HEADED ARROW WITH DOUBLE VERTICAL STROKE;
40981::YI SYLLABLE ITERATION MARK;43630::MYANMAR LETTER KHAMTI LLA;
65048::PRESENTATION FORM FOR VERTICAL RIGHT WHITE LENTICULAR BRACKET;65279::BOM;
65279::BYTE ORDER MARK;65279::ZWNBSP;74452::CUNEIFORM SIGN NU11 TENU;
74453::CUNEIFORM SIGN NU11 OVER NU11 BUR OVER BUR;93782::MEDEFAIDRIN CAPITAL LETTER H;
93783::MEDEFAIDRIN CAPITAL LETTER NG;93814::MEDEFAIDRIN SMALL LETTER H;
93815::MEDEFAIDRIN SMALL LETTER NG;110593::HENTAIGANA LETTER E-1;
118981::BYZANTINE MUSICAL SYMBOL FTHORA SKLIRON CHROMA VASIS;65024:VS:1,2,3,4,5,6,7,8,9,10,11,12,
13,14,15,16;917760:VS:17,18,19,20,21,22,23,24,25,26,27,28,29,30,31,32,33,34,35,36,37,38,39,40,41,
42,43,44,45,46,47,48,49,50,51,52,53,54,55,56,57,58,59,60,61,62,63,64,65,66,67,68,69,70,71,72,73,
74,75,76,77,78,79,80,81,82,83,84,85,86,87,88,89,90,91,92,93,94,95,96,97,98,99,100,101,102,103,104,
105,106,107,108,109,110,111,112,113,114,115,116,117,118,119,120,121,122,123,124,125,126,127,128,
129,130,131,132,133,134,135,136,137,138,139,140,141,142,143,144,145,146,147,148,149,150,151,152,
153,154,155,156,157,158,159,160,161,162,163,164,165,166,167,168,169,170,171,172,173,174,175,176,
177,178,179,180,181,182,183,184,185,186,187,188,189,190,191,192,193,194,195,196,197,198,199,200,
201,202,203,204,205,206,207,208,209,210,211,212,213,214,215,216,217,218,219,220,221,222,223,224,
225,226,227,228,229,230,231,232,233,234,235,236,237,238,239,240,241,242,243,244,245,246,247,248,
249,250,251,252,253,254,255,256;"

/-! ### Listed names -/

/-- The tables of names. -/
def tables : List String :=
  [western, southern, signs, eastern, modern, ancient, carved, formal, pictures, further]

/-- A part of a table without the line break that may stand in front of it. -/
def unbroken (s : String) : List Char := s.toList.dropWhile (· = '\n')

/-- The number that decimal digits denote. -/
def number (digits : List Char) : Nat := digits.foldl (fun n c => 10 * n + (c.toNat - 48)) 0

/-- The character of a name in one run of a table. -/
def inRun? (name : List Char) (run : String) : Option Char :=
  match run.splitOn ":" with
  | [first, beginning, endings] => do
    let beginning := unbroken beginning
    if !beginning.isPrefixOf name || name.length = beginning.length then none
    let ending := name.drop beginning.length
    let i ← (endings.splitOn ",").findIdx? (unbroken · = ending)
    return Char.ofNat (number (unbroken first) + i)
  | _ => none

/-- The character of a name in a table. -/
def inTable? (name : List Char) (table : String) : Option Char :=
  (table.splitOn ";").findSome? (inRun? name)

/-! ### Names with a number -/

/-- What follows a beginning. -/
def after? (beginning : String) (name : List Char) : Option (List Char) :=
  if beginning.toList.isPrefixOf name then some (name.drop beginning.length) else none

/-- A number of four or five digits to base sixteen, in capitals. -/
def hexNumber? (cs : List Char) : Option Nat :=
  let digit (c : Char) : Bool := c.isDigit || ('A' ≤ c && c ≤ 'F')
  if (cs.length = 4 || cs.length = 5) && cs.all digit then
    some (cs.foldl (fun n c => 16 * n + if c.isDigit then c.toNat - 48 else c.toNat - 55) 0)
  else none

/-- The character with a number, if a range holds it. -/
def within? (ranges : CodeRanges) (n : Nat) : Option Char :=
  let c := Char.ofNat n
  if ranges.contains c then some c else none

/-- The ideographs in use in eastern Asia. -/
def ideographRanges : CodeRanges := #[
  (13312, 19903), (19968, 40959), (131072, 173791), (173824, 177976),
  (177984, 178205), (178208, 183969), (183984, 191456), (196608, 201546)]

/-- The ideographs that are kept only to agree with other sets of characters. -/
def compatibilityRanges : CodeRanges := #[(63744, 64109), (64112, 64217), (194560, 195101)]

/-- The characters of Nushu. -/
def nushuRanges : CodeRanges := #[(110960, 111355)]

/-- The characters of the small script of Khitan. -/
def khitanRanges : CodeRanges := #[(101120, 101589)]

/-- The character named by its number after a beginning. -/
def numbered? (beginning : String) (ranges : CodeRanges) (name : List Char) : Option Char := do
  let digits ← after? beginning name
  if digits.length = 5 && digits.head? = some '0' then none
  within? ranges (← hexNumber? digits)

/-! ### Korean syllables -/

/-- The names of the first sounds of a syllable. -/
def firstSounds : List String :=
  ["G", "GG", "N", "D", "DD", "R", "M", "B", "BB", "S", "SS", "", "J", "JJ", "C", "K", "T", "P",
   "H"]

/-- The names of the middle sounds of a syllable. -/
def middleSounds : List String :=
  ["A", "AE", "YA", "YAE", "EO", "E", "YEO", "YE", "O", "WA", "WAE", "OE", "YO", "U", "WEO",
   "WE", "WI", "YU", "EU", "YI", "I"]

/-- The names of the last sounds of a syllable. -/
def lastSounds : List String :=
  ["", "G", "GG", "GS", "N", "NJ", "NH", "D", "L", "LG", "LM", "LB", "LS", "LT", "LP", "LH", "M",
   "B", "BS", "S", "SS", "NG", "J", "C", "K", "T", "P", "H"]

/-- The longest of several sounds that a name begins with, by its place, and what follows it. -/
def takeSound? (sounds : List String) (name : List Char) : Option (Nat × List Char) :=
  (sounds.zipIdx.foldl (fun longest (sound, i) =>
    match after? sound name, longest with
    | some _, some (_, length) => if length < sound.length then some (i, sound.length) else longest
    | some _, none => some (i, sound.length)
    | none, _ => longest) none).map fun (i, length) => (i, name.drop length)

/-- The syllable of three sounds. -/
def syllable? (name : List Char) : Option Char := do
  let (first, name) ← takeSound? firstSounds name
  let (middle, name) ← takeSound? middleSounds name
  let (last, name) ← takeSound? lastSounds name
  if name.isEmpty then some (Char.ofNat (44032 + (first * 21 + middle) * 28 + last)) else none

/-! ### All names -/

/-- The character of a name. -/
def find? (name : String) : Option Char :=
  match after? "HANGUL SYLLABLE " name.toList, after? "CJK UNIFIED IDEOGRAPH-" name.toList with
  | some sounds, _ => syllable? sounds
  | none, some digits => hexNumber? digits >>= within? ideographRanges
  | none, none =>
    let name := name.toList.map Char.toUpper
    tables.findSome? (inTable? name)
      <|> numbered? "CJK COMPATIBILITY IDEOGRAPH-" compatibilityRanges name
      <|> numbered? "NUSHU CHARACTER-" nushuRanges name
      <|> numbered? "KHITAN SMALL SCRIPT CHARACTER-" khitanRanges name

end Promptuary.Text.CharacterName
