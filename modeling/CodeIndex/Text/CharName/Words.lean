/-! The words that names of characters are made of, from the most frequent on. A dot stands for the
empty word, and a word that starts with a hyphen follows the word before it directly. -/
namespace CodeIndex.CharName

/-- Part 1 of the words. -/
def words1 : List String :=
  [
    "WITH LETTER SMALL FORM CAPITAL SIGN AND ARROW RIGHT LEFT ABOVE U A TWO O DOUBLE ONE E BELOW",
    "FINAL I MARK DOT THREE SELECTOR VARIATION BLACK TO ISOLATED OF WHITE FOUR HOOK STROKE SYMBOL",
    "FIVE INITIAL RIGHTWARDS UP HEAVY MIDDLE TRIANGLE R VERTICAL S SIX L EIGHT DOWN TIMES MEEM",
    "BAR PLUS LEFTWARDS HALF SEVEN WEST HA HUNDRED NINE BRACKET KA N FACE SQUARE PA CIRCLE RA -2",
    "DOTS -THAN YEH OVER THOUSAND YA MA NA LA ALEF INDEX M EQUAL VOWEL -CREE HORIZONTAL LIGHT SA",
    "TA DIGIT LOWER TILDE Y C LOW RING DA DOWNWARDS T G K V H TONE GA ACUTE BARB MEDIUM UPWARDS D",
    "ZERO HAH OPEN BA MEDIAL AA LONG UPPER -HEADED -3 Z OR P THUMB X JEEM TEN TURNED -1 HIGH B",
    "CIRCUMFLEX W AI II J SINGLE DASIA REVERSED DIAERESIS PSILI WA LINE AU NGA ARROWHEAD SHA STOP",
    "UU JA GRAVE POINTING CA LARGE -POINTING F MACRON -4 CHA MAKSURA NYA INVERTED KHA NUMBER ON",
    "BLOCK EAST ROTATED OXIA VARIA COMMA GREATER LESS SHORT THA NOT Q -5 STAR VOCALIC BREVE",
    "CENTRE LITTLE HARPOON IN PHA TAIL CIRCLED KHAH OLD VA ANGLE DEGREES GUNU ORNAMENT FULL LATIN",
    "ANUSVARA TTA DDA EN GHA DHA NORTH OO ZA NUN PE TWENTY ASTERISK CROSS TRIPLE -6 ASH CARON",
    "DIAGONAL NNA NO TOP BHA OPERATOR PERISPOMENI SOUTH HE PUNCTUATION DASH EE PARENTHESIS PI",
    "RETROFLEX TENU TTHA DOTTED FA SSA VIRAMA YU ACCENT COMBINING DDHA DESCENDER DIAMOND MU OE RR",
    "WAW NOON FOR NINETY OMEGA TE THE YPOGEGRAMMENI END LAM YO HAMZA JHA VISARGA CLOSED EQUALS LL",
    "POINTED SHE SQUARED -SIOS AN BOTTOM HORN NI SEVENTY TACK AIN ALPHA FIFTY LIGATURE NU QUARTER",
    "-7 AE CHESS CORNER HAND MODIFIER CANDRABINDU COLON CROSSING FROM HEART HITTING IOTA ME NE",
    "REH SEPARATOR BENT DANDA HI KAF KNIGHT MI QUOTATION SHIN TSA BOLD CEDILLA HEH ORKHON PALATAL",
    "QUESTION YI YUS -FIST DIGRAPH GLOTTAL LLA PROSGEGRAMMENI RO TAH THIRTY UPSILON VERY YENISEI",
    "-KIYEOK BOX EIGHTH GAR HO NEO RHO SEEN WE -PIEUP CURLY EPSILON EXCLAMATION IGI KO MOON QAF",
    "RAISED SIDE SIGMA SO SUBSET TU ARABIC COPTIC GREEK NUKTA PHI THETA UNDERBAR WO AT CHE CHI",
    "EQUILATERAL FINGERS LU SCRIPT SECTION SHELL SI SOLIDUS STRAIGHT SUPERSET -HIEUH ALTERNATE",
    "CONSONANT DAGESH DISH FEH MO OVERLAY RU SAD SANS SE UE WI -SERIF -WALLPLANE CROSSED CURL DE",
    "EL GAMMA GI KE KI LEAF NEUTRAL REVERSE SHAFT SLANTED SPACE SU TRIANGULAR VARIANT WAVE ZE ZHA",
    "-CIRCLE -FLOORPLANE DO ETA EYES FORTY KU MAN MEM MOUTH SIXTY AS BEH DELTA HEAD LO NOTE QA",
    "RRA TEH -HINGE -TIKEUT ANTICLOCKWISE ARCHAIC ARCHAION BAD BETA BU CONJOINED DAD DI FRACTION",
    "INSIDE INTEGRAL NG RE SHEEN TI TONOS UD -8 -SIMPLIFIED -VAS ABBREVIATION ALTERNATING CURVE",
    "EM ESH FORWARD GAN2 GHE INSULAR KAPPA KING LI LOOP MINUS MOVEMENT OMICRON PO REST RI SPOKED",
    "TAU TORTOISE -LINE ALEPH BETH BETWEEN GHAIN GIMEL HEARTS IE INTERSECTION KUR LEG PSI SMILING",
    "SOUND UNION . ALMOST ARC ARROWS AVAGRAHA CHARACTER DU GISH GU HINGED HYPHEN IOTIFIED KAPH",
    "KOMI LENGTH NEGATIVE OUT PAP PERSON PIEUP QUEEN RIEUL SAMEKH SHAD SLASH SYLLABLE TAK4 TAW",
    "THO VE YE ZHE -00 -01 -02 -03 -04 -05 -06 -CIEUC BACK BE BI CAN CANDRA EIGHTHS EIGHTY",
    "EQUIVALENT ER ES HETH HU IDEOGRAPHIC IEUNG KOET LAMEDH LE OBLIQUE OGONEK QUADRANT QUARTERS",
    "RESH ROC SADHE SHADE TSHA TWELVE WORD XA XI YODH ZAIN ZAYIN -9 -O BIG BULLET CLUBS CYRILLIC",
    "DAL DIALYTIKA DIAMONDS DOTLESS EARTH FILL KIYEOK LAMDA MGO MIEUM NIEUN NYI QUAD SHU SOFT",
    "SPADES THIRD THROUGH TIP TSE -SHAPED AYIN CIRCLES CLOCKWISE DASHED DZA ELEVEN ET FLAG GO GUD",
    "ICHOS KASRA LOGICAL LOZENGE MAI MULTIPLE OM OVERBAR POINT PRECEDES PRODUCT PU RED RISING",
    "ROUND SHADOWED SIOS SPREAD SUCCEEDS SUPERSCRIPT TIKEUT U2 WATER ZETA -A -MIEUM -TAIL AH ANG",
    "AY BALL BISHOP BO BY CAT CHECK CO ENG FATHA FE FINGER FRONT JE KASKAL KRYZHEM LAGAB MUSICAL",
    "NOTEHEAD OCLOCK PAWN PHIEUPH POVYSHE PRIME ROOK RTAGS SEMICOLON SUN TABULATION TEDUNG",
    "TELEPHONE THEH WRIST YANG ZO ZU -ANGLE -THIEUTH -THIRTY -U AL BELT CARRIER CIEUC CLICK",
    "CURVED DALETH EU FI FIFTEEN FIRE FO ITALIC JO KATAKANA MULTIPLICATION MURDA NOR PHO",
    "QUADRUPLE SALTIRE SET SHAN SHO SIMALUNGUN TSHEG WALL WIND WU YERU ZAH -I -PILLA -RIEUL",
    "-SPOKED -STRUCK ALPAPRAANA AM ASH2 BARRED BESIDE BIRGA BUR BUT CARET DAMMA DOES EF EH",
    "ELEMENT FILLER FISH FLEX FLOOR GE HARD HIEUH INVERSE ITERATION LAL LUNATE MAHAAPRAANA",
    "NASKAPI NORMAL NUMERAL ROTATION ROUNDED SALT SCHWA SHAR2 SIXTEEN SVARITA TETH TEXT TICK TREE",
    "TWELFTHS VO VOICED WAVY YIG YOD ZI -FIVE -INDIC -P -PANSIOS -STEM -TO AB APOSTROPHE BAMBOOS",
    "BUBBLE CE CEILING CHARACTERS CHIEUCH CHO CONTROL CRYPTOGRAMMIC EI EIGHTEEN ENVELOPE ESH2 EYE",
    "EZH FIRST FU GAD GESH2 HAA HANDS HANGUL HHA HORSE IM IMAGE KAREN KEY LARGEST LUM MADDA MEN",
    "MID NOTCHED NUBIAN NYO PAGE PEE PINWHEEL RHA SAL SAYISI SIDEWAYS STEM SUIT TAB TAI TEARDROP",
    "TH THIRDS UNDER VI VINE YAT YIN -CHIEUCH -FACING -KHIEUKH -PHIEUPH -TWIG ABKHASIAN AMPERSAND",
    "ANO BACKHAND BEGIN BLUE BUD CAR CENTRED COMPRESSED CONTAINS CRESCENTS DIALECT DIVISION",
    "DODEKATA DRAGON DZ DZE ELLIPSIS ETH EXTENDED EXTENSION FOURTEEN GREEN ICE INDEPENDENT",
    "INDICATOR IS JI JOT KAK KHIEUKH LENTICULAR LHA LONSUM MAHAPRANA MALE MARKER MOUNTAIN MUSH",
    "NINETEEN NIZKO NJE NOTATION OPPOSING OU OVERLINE PAIRED PALI PARALLEL PARTIAL PIECE QOPH",
    "SASAK SECANT SEE SEVENTEEN SHEI SHESHIG STAFF START STATERS SUBGROUP SUBUNIT SVETLAYA",
    "THIEUTH THIRTEEN THORN THOUSANDS TUG2 TURNSTILE UN USH VEE WOMAN ZAPYATAYA ZIGZAG -11 -NIEUN",
    "AIRPLANE ALI BACKSLASH BALLOT BBA CHEST CLEF CONTAINING DIPLI DOLLAR EMPTY EXTRA FALLING",
    "FARSI FEE FISHHOOK FITA FOLDER GAL GALI GAN HAIR HAT HEEL IDEOGRAPH JAPANESE JOINER JU KATO",
    "KET KHO KLYUCHEVAYA LAGAR LIPS LLLA MALO MASH MFON MILLIONS MON MOUSE NGO ODD ORE OUTLINED",
    "PLACE PLASTICS POWERS RAIN RECTANGLE RUPEE SAG SECOND SH SHIMA SHOE SHU2 SIDDHAM SIMILAR",
    "SIXTEENTH SLOAN SPEECH SUBSCRIPT SUKUN TAA TALENTS TAM TAMIL TAR TET THAL THEN THI TONGUE",
    "TSI TUAREG UR VERTICALLY VU WIDE WIDTH WITHIN WRINKLED YESIEUNG -10 -12 -13 -14 -CUP -SHADED",
    "AD AEN ANTIMONY AR AREA ATTACHED AV BABY BALLOON BARLINE BEE BELL BET BOOK BOW BRIDGE BROKEN",
    "BUTTON CLOUD CONTACT COPPER CORNERS CRESCENT CUPPED DAGGER DEE DEVICE DIFFERENTIAL DIGA",
    "DIGAMMA DIVIDER DOG DUG EAR ECH EK ENT ENY EO EQUIHOPPER ERIN2 EVEN EXTREMELY FATHATAN FEED",
    "FEMALE FILE FLAT GAF GANGIA GGA GIR2 GLASS GREAT HAR HIRAGANA HOLDING HOOKED HORI HUMP",
    "INFINITY INFORMATION IOTATED IZHE IZHITSA JEE JIHVAMULIYA KAI KAN KAVYKA KEHEH KHEI KHOKHLOM",
    "KOPPA KU3 LAK LOO LU3 MATHEMATICAL MBAA MEASURE MONGOLIAN MONOGRAM NAA NABLA NARROW NDA NEW",
    "NHA NOSE ORANGE PAA PAD PEH PEN PWO RAE RAYS SAMPI SAN SAR SCISSORS SHADDA SHARP SHI SHIR",
    "SHWE SSANGSIOS STILE SUBJOINED SUBSTITUTION SUM SUNG SWASH TEE THAN THESPIAN TIE TOO UA UK",
    "UPADHMANIYA US VAV VOLAPUK VRACHY VYSOKO WIGGLY XE YAA YEE YN ZAPYATOY -15 -16 -18 -ARY",
    "-BRANCH -EO -HOOK -LIGHTED -SHADOWED -TILTED -YA -YEO AB2 ALAYHE ALL ANUDATTA APPROXIMATELY",
    "AQ ARM ARMENIAN BAN2 BASSA BBE BOARD BREATHY BUILDING BURU CARD CHARIOT CHRIVI CIM CIRCULAR",
    "CJK CLOSING COMMERCIAL COW CUBED CUP CURRENCY DAMMATAN DEL DHE DIM DISK DRUM DUB DZHA E2 EC",
    "EZ FENCE FIGURE FLOURISH FLOWER FREE FTHORA GAA GAP GEE GEMINATION GEORGIAN GESHU GORAZDO",
    "HAL HENG HIE HIP HOO HOT HOUSE IDEOGRAM INTERROBANG IU JACK JIL JJA JOINED KASRATAN KEN",
    "KENTIMATA KEYBOARD KHAMTI KIRGHIZ KISIM5 KNIFE KOO KPA KSSA KUSHU2 LAA LOGOGRAM LU2 MANCHU",
    "MAP MBA MEASURED MEDAL MONKEY MV MYSLITE NAME NAR NEITHER NEPOSTOYANNAYA NGGA NJEE NJI NN",
    "NNNA NOTES NU11 OA OH OI OJIBWAY ONCOMING OPENING ORIGINAL OW PALM PARAGRAPH PENTAGON",
    "PERCENT PII POINTER POLE POO PWA QAR QI QU RAA REE REPEAT RETURN RICE ROCKET ROMAN ROOT",
    "ROTUNDA SANDHI SCREEN SEMICIRCLE SEMIDIRECT SHARU SHIFT SII SOO SSANGCIEUC SUBLIMATE TAG",
    "TALL THAA THEE TINY TRAFFIC TTE TUR TURTLE TWE TYPE UM UMBRELLA UNIT URUDA VEDIC VOS WAA WAY",
    "WITHOUT WOO YAE YELLOW YEN YEO YER YOT ZEE ZEN -17 -23 -24 -BEI -BUON -E -EM -EU -HIRAGANA",
    "-LETTER -LOW -MINUS -MUOY -OVAL -PII -RIGHT -SALAAM -YE AC ACE ACKNOWLEDGE ADEG AG AK ALAYHI",
    "ALTA ANGLED AO APLI APPROXIMATE AROUND ARROWHEADS BAA BAG BAL BALAG BAN BARREE BARS BASE",
    "BEND BHE BIRD BONE BOTTLE CANCEL CANCELLATION CAP CENTRALIZATION CHAR CHART CHECKER CHEE",
    "CHIN CHU CI CIL CLOCK CLUB CROP CUATRILLO CUSP DAG DALET DDDA DEGREE DELIMITER DEZH DISC DJE",
    "DLA DON DOUBLED DUN3 DYO DZELO EAT EGYPTOLOGICAL EIE EKFONITIKON ELECTRIC ELLIPSE ENC ENTRY",
    "EP ERR ESCAPE ETHIOPIC EX FAA FEATHER FLATTENED FLOPPY FLORETTE FOOD FOOT FORK FOURTH",
    "FROWNING GA2 GBE GHAN GHUNNA GI4 GOAL GOLD GROMNAYA GROMOPOVODNAYA GUR HAE HAMMER HEADED",
    "HEAVEN HEE HELMET HOE HOURGLASS HP HV IA IDENTICAL IR IRON ISOLATE ISOSCELES JHAN JOIN JOKER",
    "KAA KAD3 KANG KAPA KENTIMA KHAR KHI KISS KK KLASMA KM KNUCKLE KPO KRYZH KSI KUT KWAA KWE KWI",
    "KYEE LAI LAING LAMED LAS LEE LENGTHENER LIGHTNING LJE LOCK LOQ LOTUS LUGAL MBE MBEE MCHU",
    "MEAT MEMBER MIM MIN MM MOBILE MONOCULAR MWA MWI NAGA NDAA NDE NDU NGAA NGI NIGHT NIKOLSBURG",
    "NON NOW NTAP NTEUM NWA NYAM NYIS OBOLS OHM OIL OK OOU OT OX PANSIOS PAPER PAR PARENTHESIZED",
    "PATAH PENCIL PENTAGRAM PERFECTA PHAR PIG PLA POLICE POSITION POSTAL POT POUND POVODNAYA",
    "PROSTAYA PWI QAMATS QE QO QUILL RADICAL RAFE RAILWAY RAM RAT RDEL RECEIVER RELATION REN REPA",
    "RIBBON RII RUDIMENTA RUM SAA SANYAKA SATANGA SEBATBEIT SEQUENTIAL SERIFS SHA3 SHAKING SHEE",
    "SHHA SHID SHII SHOGI SHOULDER SILHOUETTE SIMPLIFIED SIN SIXTEENTHS SNAKE SPIRAL SQUARES",
    "SQUIGGLE SS SSANGKIYEOK SSANGPIEUP SSANGTIKEUT ST STICK SUMMATION SUR SUU SVASTI SWEAT",
    "SYRIAC TAN TATWEEL TCHEH TELEGRAPH TESH THAM THIN TIGER TIKHAYA TILTING TITLO TOGETHER TOOTH",
    "TOPBAR TRANSMISSION TRESVETLAYA TRIDENT TROMIKON TSO TSU TTHO TUM UC UDATTA UI VANE VIN WALK",
    "WEE WESTERN WHEEL WINE WYNN XAN YAH YERI YFESIS YOO YUT YYA ZAL ZATA ZHAR ZHEE ZZA -123 -124",
    "-125 -126 -134 -136 -145 -146 -156 -19 -234 -235 -236 -238 -245 -25 -256 -26 -36 -45 -AYIN",
    "-CLAW -CURLICUE -D -FLAT -HIGH -KAPYEOUNPIEUP -LEFT -POST -SHIFT -SSANGKIYEOK -SSANGSIOS",
    "-WELSH -YAE -YO A2 AELA AFRICAN AIR AITON ALIF ALLO ALTERNATIVE AMAR ANGER ANJI ANSHE ARAEA",
    "ASHGAB AW AXE AYB AZU BACKSLANTED BAHAR2 BAMBOO BANK BAT BAYANNA BEI BEN BILABIAL BINDU",
    "BLACKFOOT BOLT BOWL BOWTIE BRANCH BRICK BROWN BRUSH BUBBLES BUKY BULUG BUON BUS BZHI CAA",
    "CAKE CALENDAR CALL CAMERA CANADIAN CASTLE CCHE CHICK CHILD CHRISTMAS CHROMA CHRONON CLIFF",
    "CLOSE CLOTH CLOTHES CLUSTER CM COLD COMPLETION COMPOSITION COMPUTER CONSTRUCTION CONTAIN",
    "CONTOUR COO COVER COVERING CREDIT CRYING CU CUBE CURRENT CURVING CUT CWA CWAA CWI DANG",
    "DANTAJA DAP DAY DAYANNA DDAYANNA DDO DECIMAL DEER DELETE DENTAL DEPARTING DESCENDING",
    "DEVANAGARI DIATONIKI DIE DIM2 DIN DIRECT DIVIDE DIVIDED DJERV DJERVI DKAR DOBRO DOCUMENT",
    "DRACHMA DROP DRY DUN DVOECHELNAYA DWE EA EB ELEPHANT ENCLOSURE ENN EPIDAUREAN ETERNITY EURO",
    "EV EW EXO EZEN FACTOR FAX FENG FIFTH FIFTHS FIST FLEURON FLORAL FLY FLYING FOM FOO FRITU",
    "FROG FUNCTION GABA GATHERING GAYANNA GAYANUKITTA GBA GBU GGE GHHA GHOST GIM GJE GLAGOLI",
    "GORGON GRANTHA GRINNING GROUP GSUM GTER HALANTA HAN HEADSTROKE HERMIONIAN HERU HEXAGON HLI",
    "HNA HON HUB2 HUMAN HUNDREDS HWE IB IC ICON IH IMIN IMPERFECTA INCREASE ING INI INSERTION",
    "INTRODUCER IO IQ ISH ISON IT IY JAYANNA JEGOGAN JOY KAKO KAL KAPYEOUNMIEUM KAPYEOUNPHIEUPH",
    "KAPYEOUNPIEUP KARO KATHAKA KAY KEE KEH KETTI KHE KID KIN KISSING KKA KNUCKLES KOI KOMBUVA",
    "KOREAN KORONIS KUOP KW KWA KXA KYA LAAM LAKH LAP LAST LAZY LEADER LEATHER LEERAEWA LET",
    "LETTERS LEVEL LEZH LH LINK LIP LISH LJUDIJE LOCATION LONGA LOVE LUH LUL LWA LY MAA MACHINE",
    "MAEM MAEMBA MANDAILING MAPIQ MARBUTA MASK MB MBI MBIT MBO MBOO MBU MEE MEEEE MEGA MES MEUT",
    "MILITARY MIT MNAS MONEY MONOGRAPH MONTH MOO MOOD MRACHNAYA MUCH MUG MULTIMAP MUOY MUURDHAJA",
    "MW MWAA MWE MYA MYANMAR NAG NAH NASALIZATION NASHI NDAP NDEE NDI NDO NEE NEN NET NGGE NGGEN",
    "NGGO NGGOO NGGU NGOM NIN NINDA2 NJAEM NJU NOO NRA NSHA NSHUT NTEE NULL NUNG NV NWAA NYE NYET",
    "NYU NZA OCR OFFICE ONU OP OPPOSITION OQ OTTAVA OUTER OVAL OVERLAID OVERLAP OVERLAPPING OY",
    "PADA PALAUNG PAN PARAGRAPHOS PARAKALESMA PARAKLITIKI PARENTHESES PART PARTY PATH PEACE PER",
    "PERPENDICULAR PEUX PHE PHONE PICTURE PING PIWR PLACEHOLDER POKOJI POLISH POMMEE PON POP POST",
    "POUTING POWER PRAM PRESENTATION PRISHTHAMATRA PRIVATE PUAE PURPLE PUSHPIN PUT PWAA PWE QAA",
    "QAAF QOF QUO QUU RANGE RAP RATHA RECORD RECYCLING REFORMED REGULUS REPETITION REUX RGYAN",
    "RISH RITSI ROG ROSETTE RUNNING SAFETY SAM SARA SAT SAW SAYANNA SCHOOL SEAL SEGMENT SEGOL",
    "SEMI SEMICIRCULAR SEUX SGAW SHADED SHCHA SHEEP SHESH SHIELD SHIP SHITA SHOG SHOO SHOQ SHORTS",
    "SHTA SHWA SHY SIG4 SILK SIMA SIXTH SKEWED SKLIRON SKULL SLEEPING SLIGHTLY SLOVO SMILE SNOW",
    "SNOWFLAKE SNOWMAN SOGDIAN SOT SOURCE SPACING SPEAKER SPIRIT SPOON SSANGIEUNG SSANGNIEUN",
    "SSANGRIEUL SSI SSO SSU STEP STIGMA STOCK STONE STRANNO STRELA STRESS STRETCHED STRING",
    "STROKES SUA SUBLINEAR SUBSTITUTE SULFUR SUPRALINEAR SUSPENSION SV SWA SWAA SWIRL SYLLABICS",
    "SYMBOLS TABLE TAE TARGET TAV TEARS TENS TENSE TENT TENTH TESSERA THII THOO THOUGHT THREAD",
    "THU THUNDER THWA THWAA TIGHT TIL TILE TIME TIR TLA TLE TLHA TLI TLO TLU TODO TONAL TRA",
    "TRANSPOSITION TREND TROEZENIAN TRUCK TRUE TS TSADI TSATA TT TTEH TTHAA TTO TURN TVRIDO TWA",
    "TWAA UH UKRAINIAN UKU UNIFIED UPTURN UR2 USE UUE VEDE VERSE VEW VULGAR VY WAE WAITING WASLA",
    "WAU WAVES WEDGE WEO WHEAT WHEELCHAIR WHOLE WOMANS WON WOOD WORK WUE XEH XW YAGH YAJ",
    "YAJURVEDIC YAK YATI YAZH YEORINHIEUH YESTU YIT YIWN YOQ YUQ YWA YWAA YY ZEMLJA ZHI ZHIVETE",
    "ZHO ZHU - -050 -079 -081 -102 -127 -128 -130 -135 -137 -138 -142 -147 -148 -157 -158 -167",
    "-168 -178 -20 -21 -210 -219 -220 -225 -228 -237 -246 -247 -248 -27 -34 -345 -346 -347 -348",
    "-35 -356 -37 -38 -39 -456 -457 -46 -47 -48 -50 -51 -52 -53 -54 -56 -ACUTE -AE -AND -BREAK",
    "-EVIL -FEATHERED -FOURTH -GRAVE -HUNDRED -KHYIL -MACRON -NO -ONE -OUTPUT -PER -RESH",
    "-REVERSED -SECOND -TWO -VOICED -WAY -YEORINHIEUH -YR A001 A002 A003 A004 A005 A006 A007 A008",
    "A009 A010 A011 A012 A013 A014 A015 A016 A017 A018 A019 A020 A021 A022 A023 A024 A025 A026",
    "A027 A028 A029 A030 A031 A032 A033 A034 A035 A036 A037 A038 A039 A040 A041 A042 A043 A044",
    "A045 A045A A046 A047 A048 A049 A050 A051 A052 A053 A054 A055 A056 A057 A058 A059 A060 A061",
    "A062 A063 A064 A065 A066 A067 A068 A069 A070 A100 A301 A302 A303 A304 A305 A306 A307 A308",
    "A309A A310 A311 A312 A314 A315 A316 A317 A318 A319 A320 A321 A322 A323 A324 A325 A326 A327",
    "A328 A329 A330 A331 A333 A334 A335 A336 A337 A338 A339 A340 A341 A342 A343 A344 A345 A346",
    "A347 A348 A349 A350 A351 A352 A353 A354 A355 A356 A357 A358 A359 A360 A361 A362 A363 A364",
    "A365 A366 A367 A368 A369 A370 A371 A400 A401 A402 A403 A404 A405 A406 A407 A408 A409 A410",
    "A411 A412 A413 A414 A415 A416 A417 A418 A501 A502 A503 A504 A505 A506 A508 A509 A510 A511",
    "A512 A513 A515 A516 A520 A521 A523 A524 A525 A526 A527 A528 A529 A530 AAI AAN AAY ACADEMY",
    "ACCOUNT ACTIVATE ACTUALLY ADULT AEB AEDA AEE AEG AEK AESC AET AEY AKHMIMIC ALAPH ALEMBIC",
    "ALEUT ALFA ALIEN ALLAAH ALLI ALLIANCE ALVEOLAR AMB ANCHOR ANCORA ANGLICANA ANNOTATION",
    "ANTARGOMUKHA ANTENNA ANTIMONIATE ANTIRESTRICTION AP APESO APL APLOUN APODERMA APOSTROFOI",
    "APOSTROFOS APPLE APPLICATION ARABIAN ARCH ARDHAVISARGA ARGI ARGOSYNTHETON ARISTERA ARTS",
    "ASCENDING ASHES ASPIRATION ASSYRIAN ASTROLOGICAL ASYMPTOTICALLY ATHAPASCAN ATIU AUE",
    "AUTOMOBILE AWAY AWX AX AYAH AYN AZ B001 B002 B003 B004 B005 B006 B007 B008 B009 BACKSPACE",
    "BADGER BALUDA BAMUM BASELINE BASHKIR BATH BATHTUB BATTERY BBI BBO BBU BBUT BCAD BEAM BEAMED",
    "BEAR BEAT BEAVER BEEH BEER BEETLE BEHEH BEHIND BENZENE BERBER BEVERAGE BHETH BHO BICYCLIST",
    "BINARY BINDI BINDING BINOCULAR BIT BITING BKA BLACKLETTER BLADE BLANK BLENDED BLOOD BLOSSOM",
    "BLOWING BOAR BOAT BODY BOHAIRIC BOO BOOKMARK BOOMERANG BOOT BOPOMOFO BOTH BOUQUET BRA",
    "BRACKETED BRDA BREAD BREAK BREATH BREVIS BRIGHTNESS BROAD BUILDINGS BWA BWEE BWI",
    "BYELORUSSIAN BZUNG CADUCEUS CAKRA CAMEL CANNON CARPENTRY CARRIAGE CART CAUDATE CAULDRON",
    "CAYANNA CAYN CC CD CECAK CEE CENT CENTRELINE CER CH CHAA CHAIR CHASHKA CHAT CHEEKS CHEH",
    "CHELYUSTKA CHEROKEE CHEVRON CHILLU CHINESE CHOREVMA CHOSEONG CHRONOU CHURCH CIP CIRCLING",
    "CITY CITYSCAPE CLAN CLINKING COAT COMMAND COMPONENT CON CONCAVE CONGRATULATION CONJOINING",
    "CONSECUTIVE CONSTANT COOKIE COPRODUCT COPYRIGHT CREAM CRICKET CROCUS CROSSBAR CROSSBONES",
    "CROSSHATCH CROWN CULTIVATION CUM CUOP CURLICUE CWE CWII CWO CWOO CY CYA CYP CYT DAA DAALI",
    "DAHAL DALATH DALDA DAR DARA3 DARK DARKENING DAT DATA DATE DB DCHE DDAA DDAHAL DDAL DDDHA DDE",
    "DDHAA DDHO DDI DDU DDUR DEATH DECORATION DECREASE DEI DEMESTVENNY DENE DENOMINATOR DEPARTURE",
    "DERET DESKTOP DEXIA DEYTEROS DH DHO DIB DIESIS DIFONIAS DIGRAM DIGRAMMOS DIMINUTION DINGBAT",
    "DIRECTION DIRECTIONAL DIRECTLY DISAPPOINTED DISIMOU DIVINATION DIZZY DJA DLE DOACHASHMEE DOI",
    "DOLLS DONG DOO DOOR DOVE DRACHMAS DRAM DRAUGHTS DRAWINGS DRESS DRINK DRIVE DROPLET DUL DUNG",
    "DV DVOECHELNOPOVODNAYA DYEH DZEE DZHE DZI DZJE DZO DZU DZWE DZZE DZZHE EAGLE EARS EASTERN",
    "ECS ED EG EGG EGY EHCHA EHKA EHPA EHTA EHTSA EIGHTIETHS EIN EJ ELAMITE ELIFI ELY EMBEDDING",
    "EMOJI EMP EMPHASIS ENCLOSING ENCLOSURES ENGINE ENQUIRY ENTER ENTERPRISE EPENTHETIC",
    "EPIGRAPHIC ERA ERASE EREN ESHE3 ESZ ETERON ETY EUROPEAN EWE EYEBROWS EYN EZS FACING FAMILY",
    "FAN FATHER FEI FEMININE FERMATA FF FIELD FILM FINANCIAL FIXED FLAME FLATBREAD FLEXUS FLICK",
    "FLIP FLUTE FLUTTERING FOLLOWING FON FONT FOOTBALL FOOTNOTE FORKED FORMEE FORTIETH FOUNTAIN",
    "FOX FRAKTUR FRAME FRENCH FRETBOARD FROWN FUE FULLWIDTH FUNCTIONAL FUR FWA FWAA FWEE FWI",
    "GAETTA GAH GAME GAPPED GARSHUNI GATE GAY GBEE GBI GBO GBOO GCIG GEAR GENERAL GEOMETRICALLY",
    "GEP GERESH GERSHAYIM GESHTIN GESTURE GGI GGO GGOP GGU GGUO GHAA GHAD GHEUAE GHO GIBBOUS",
    "GLAGOLITIC GLOBE GNYIS GONDI GORGI GOT GRACE GRAM GRASS GROMOKRYZHEVAYA GROUND GU2 GUARD",
    "GUARDED GUEH GUL GUM GUR7 GURAGE GV GWA GWE GWEE GWI GYAS GYON HALFWIDTH HANDLE HANGZHOU",
    "HASANTA HATE HAU HAVE HEADING HEADSTONE HEBREW HEI HEN HENTAIGANA HERE HET HETA HG HHAA HHWA",
    "HIEROGLYPH HII HIN HINGE HIRIQ HIT HIYO HLA HMO HMONG HOCKEY HOLAM HOLE HOLO HOMOTHETIC HOP",
    "HORNS HORR HOTEL HOUR HTA HUGGING HUN HWAIR HXIT HXOP HXUO HYA HYPHENATION HZ IAN IAUDA",
    "ICHIMATOS IDENTIFICATION IDIM IDLE IG IJ IJE ILIMMU INDIC INHIBIT INNER INTEGRATION INTERIOR",
    "INTERLACED INTERPOLATION ISSHAR IX IYEK JAA JADE JAR JAW JEH JHEH JIIM JJI JJIE JJO JJU JJUT",
    "JJY JNYA JONGSEONG JOO JUNGSEONG JUSTIFICATION JWA KA2 KAAF KAB KABA KAD2 KAD5 KAH KAP",
    "KAPYEOUNRIEUL KAPYEOUNSSANGPIEUP KASHMIRI KAYAH KAYANNA KEEPING KEMPLI KEMPUL KESH2 KEUM",
    "KEUX KEYCAP KG KHAA KHAI KHAKASSIAN KHAPH KHHA KHHO KHMER KHUEN KINNA KIP KIT KJE KLYUCH"
  ]

/-- Part 2 of the words. -/
def words2 : List String :=
  [
    "KLYUCHENEPOSTOYANNAYA KOK KON KONTEVMA KORANIC KOTO KP KPE KPEE KPI KPOO KPU KRYUKOVAYA KUL",
    "KUN KVA KWEE KWII KWO KWOO LABIAL LABOR LAE LAKE LAME LAMP LAN LANE LANES LANTANG LARGER",
    "LATERAL LATINATE LAULA LAW LAYANNA LCE LEEEE LEGETOS LEIMMA LEK LENGA LENIS LESH LEU LHAA",
    "LHI LHO LID LIE LIMMU LINEAR LINES LING LIQUID LIRA LISU LITTER LIWN LJ LOCKING LOCOMOTIVE",
    "LOM LOOT LOWERED LS LUE LUGGAGE LV LWAA LWE LWI LWII LWO LWOO LYR LZ M001 M002 M003 M004",
    "M005 M006 M007 M008 M009 M010 M011 M012 M013 M014 M015 M016 M017 M018 M019 M020 M021 M022",
    "M023 M024 M025 M026 M027 M028 M029 M030 M031 M032 M033 M034 M035 M036 M037 M038 M039 M040",
    "M041 M042 M043 M044 MADDAH MAE MAESI MAGNIFYING MAH MAILBOX MALAYALAM MANDARIN MAQ MAR",
    "MARTYRIA MASH2 MAY MAYEK MBANYI MBEN MBEUM MC MCHAN MDUN MEDIEVAL MEEJ MEET MEETEI MELON",
    "MERCURY MERGE MESH MESO MESSAGE METAL MEUN MGBA MHA MICR MICROPHONE MIDLINE MIEE MIG MIIM",
    "MILLE MINIMA MIRROR MLA MONOFONIAS MONOGRAMMOS MONOSPACE MOP MORTAR MOTHER MOTOR MOUND MOVE",
    "MPA MUAE MUAN MUCAAD MUSH3 MUSIC MVOP MWEE MWII MWO MWOO MY NA2 NAASIKYAYA NAE NAKAARA NAM",
    "NAM2 NANA NAQ NASAL NATIONAL NATURAL NAYANNA NBIE NDAM NDOLE NDOO NECK NEGATED NEL NENOE",
    "NEPTUNE NEQUDAA NEST NESTED NEWLINE NEWSPAPER NEXT NGAS NGE NGEN NGGAAM NGGEE NGGEUAET NGGI",
    "NGHA NGKA NGKUE NGKWAEN NGOEH NGON NGOP NGOU NIB NII NJ NJA NJAEMLI NJAM NJEUX NJO NJOO",
    "NJUAE NJUEQ NKAARAE NODE NORTHERN NOTCH NOZHKA NSHIEE NSIEE NTAA NTOG NTUU NUAE NUENG",
    "NUMERATOR NUMERIC NUNUZ NUT NUTILLU NWE NWI NWII NWO NWOO NY NYAA NYEE NYEH NYHA NYIN NYIP",
    "NYIT NYOP NZUP OAY OCTAGON OEE OEK OIN OKTO OL OLDER OLIGON OLIVE OMET OMISSION ONG ONN OOE",
    "OPTICAL ORDINAL OS OTU OUNCE OV OVERLONG OVERRIDE OXEIA OYRANISMA PAAM PAGES PAHLAVI PAKPAK",
    "PALOCHKA PAMADA PAMPHYLIAN PAMUDPOD PANGOLAT PANTI PARA PARALLELOGRAM PARAPHRASE",
    "PARESTIGMENON PARTNERSHIP PATTERN PAW PAYANNA PAYEROK PEAKS PEDAL PEDESTAL PEDESTRIAN PEHEH",
    "PELASTON PENNANT PENTASEME PEOPLE PEPET PEPPER PERCUSSIVE PERMIC PERSIAN PERSONAL PESH2 PESO",
    "PETALLED PHAA PHARYNGEAL PHRASE PHUR PIASMA PICK PIE PILCROW PIN PIP PIPAEMBA PIPAEMGBIEE",
    "PIRIG PISELEH PIT PITCHFORK PLAGIOS PLANE PLAYING PLOPHU PLUTA PLUTO PM PNEUMATA PODCHASHIE",
    "POLI POLLU POSSESSION POTATO PRECEDE PRECEDING PREFIXED PREGNANT PREPONDERANCE PRINT PRINTER",
    "PROLATIONE PROLONGED PROPELLER PROPORTION PROTECTED PROTOS PSIFISTON PU2 PUE PUP PWEE PWII",
    "PWOO PYT QAI QATAN QII QITSA QOO QOT QUA QUE QUI QUILT QUOTE QUV QWE QWEE QWI RABBIT RACING",
    "RACQUET RAD RADI RADIO RAISING RAMS RANA RAY RDO REACH RECTANGULAR RECTILINEAR REDUPLICATION",
    "RELAXED RELIEVED REPLACEMENT RERENGGAN RESOURCE RESPONSE REVOLVING RGYA RGYINGS RIEE RIKRIK",
    "RINGS RJE RNAM RNOON RNYING ROCK ROHINGYA ROLLER ROLLING ROMANIAN ROO ROTATIONS RRE RREH RRO",
    "RUB RULE RULER RUMAI RWA RWAA RY SADE SAFHA SAH SALLA SALLALLAHOU SALTILLO SAMARITAN SAMBA",
    "SANDAL SAP SARI SATELLITE SAY SCANDICUS SCOOTER SCOTS SEGNO SEH SEISMA SELECTED SELF",
    "SEMIBREVIS SEMIMINIMA SEMISOFT SEMKATH SERIF SESAME SEXTULA SGAB SHA6 SHAA SHANG SHAPES",
    "SHAPING SHAT SHELF SHET SHEUX SHIM SHIQ SHOP SHOPPING SHOY SHRI SHRIMP SHTAPIC SHUR SHWAA",
    "SHWI SHWII SHWO SHWOO SIBE SIG SIGMOID SIGNS SIK2 SILA3 SINHALA SINNYIIYHE SIXTHS SIYAQ SIZE",
    "SJE SKAMEYTSA SKATE SKI SLICE SLOW SLUR SMALLER SMASH SMOKING SNOUT SOAP SOCIETY SOF SOLDIER",
    "SOM SOROCHYA SOS SOU SOUTHERN SP SPA SPADE SPARKLE SPEAR SPECIAL SPHERICAL SPIDERY SPLAYED",
    "SPLIT SQUAT SQUEEZE SQUIRREL SREDNE SSANGHIEUH SSE SSUU STAMPED STANDARD STATYA STAVROS",
    "STEAM STICKING STOPITSA STORE STRATUM STRONG STUDY SUBJOINER SUCCEED SUCKED SUE SUHUR SUKU",
    "SUNDANESE SUNGLASSES SUNRISE SUPERVISE SURANG SURFACE SURROUND SW SWAPPING SWE SWEET SWI",
    "SWII SWO SWOO SYMMETRIC SYNAGMA SYNCHRONOUS TAALUJA TAILED TALING TALLY TAMING TANGENT",
    "TANGUT TANNED TAPE TAT TAXI TAYANNA TC TCHE TCHEHEH TEAR TEHEH TELEIA TELISHA TELOUS TENNIS",
    "TERMINATOR TETARTIMORION TETARTOS TETRASEME TETRASIMOU TEUAEN TEUAEQ THEMA THERMOMETER",
    "THESEOS THETHE THONG THUMBS TIBETAN TIGHTLY TIKHY TIRONIAN TIT TITA TIWN TJE TLHE TLHI TLHO",
    "TLV TOQ TORCULUS TORSO TOT TOTAL TOUCHING TOUCHTONE TOWARDS TRACK TRAIN TRAVEL TRAY TREMOLO",
    "TRESILLO TRICOLON TRIGRAMMOS TRISEME TRISIMOU TRITIMORION TROKUTASTI TROPICAL TRUNK TSEE",
    "TSHE TSHES TSHOOK TSSE TSV TSWE TTAA TTAYANNA TTEHEH TTHE TTHI TTI TTTA TTUDDAAG TUK TUOT",
    "TUP TURBAN TWENTIETH TWENTIETHS TWI TWII TWOO TZ UB UBADAMA UEX UEZ UIGHUR ULU UMUM",
    "UNDERLINE UNDERTIE UNIVERSAL UNK UNN UO UPWARD URANUS URU USED UY VAA VAH VAREIA VASIS VEH",
    "VEND VEP VICTORY VIDA VIDEO VIET VINEGAR VISIGOTHIC VIYO VOICING VOO VOU VUR WANING WAP",
    "WASALLAM WATCH WAVING WAX WAXING WC WEARY WEI WEIGHT WHALE WII WINDOW WINDU WINKING WOLOSO",
    "WOODS WOOL WRENCH WRINKLES WRITING WUO WV XO XVA XYA XYE YAKH YAM YAN YAP YAQ YAR YAWN YAY",
    "YAZ YEAR YHE YIDDISH YIE YOGH YR YUJ YUM YUOP YUWOQ YV YWE YWI YWII YWO YWOO ZA7 ZAA",
    "ZADERZHKA ZAYN ZEMLYA ZHWE ZIDA ZIZ2 ZJE ZLA ZOO ZOT ZU5 ZUP ZUR ZWJ ZY ZZE ZZI ZZIET ZZO",
    "ZZU -003 -020 -021 -025 -030 -051 -062 -080 -092 -100 -101 -103 -104 -105 -106 -107 -108",
    "-109 -110 -111 -112 -113 -114 -115 -116 -117 -118 -119 -120 -121 -122 -1234 -12345 -12346",
    "-1235 -12356 -1236 -1245 -12456 -1246 -1256 -129 -131 -132 -133 -1345 -13456 -1346 -1356",
    "-1358 -139 -140 -141 -143 -144 -1456 -149 -150 -151 -152 -153 -154 -155 -159 -160 -161 -162",
    "-163 -164 -165 -166 -169 -170 -171 -172 -173 -174 -175 -176 -177 -179 -180 -181 -182 -183",
    "-184 -185 -186 -187 -188 -189 -190 -191 -192 -193 -194 -195 -196 -197 -198 -199 -200 -201",
    "-202 -203 -204 -205 -206 -207 -208 -209 -211 -212 -213 -214 -215 -216 -217 -218 -22 -221",
    "-222 -223 -224 -226 -227 -229 -230 -231 -232 -233 -2345 -23456 -2346 -2356 -239 -240 -241",
    "-242 -243 -244 -2456 -249 -250 -251 -252 -253 -254 -255 -257 -258 -265 -266 -267 -268 -278",
    "-28 -29 -30 -32 -343 -3456 -357 -358 -367 -368 -378 -383 -384 -390 -40 -42 -43 -441 -449",
    "-450 -458 -467 -468 -470 -478 -483 -49 -490 -492 -493 -495 -4E09 -4E8C -550 -567 -568 -57",
    "-578 -58 -608 -617 -6253 -636 -648 -668 -67 -678 -68 -724 -749 -78 -AR -B -BISHOP -CLOSED",
    "-DALETH -DOWN -DZUD -EIGHTH -FALLING -FORM -FOUR -GOAT -HAGALL -HAND -HANDED -IEUNG -INITIAL",
    "-LEGGED -LEVEL -LINED -MADR -MOUTH -OFF -OSS -PRAM -QOPH -QUEEN -ROL -ROOK -SIDE -SIXTIETH",
    "-SOL -SSANGPIEUP -STACCATO -STRING -TAILED -TE -THREE -TYPE -UKRAINIAN -UP -WA A005A A006A",
    "A006B A010A A014A A017A A026A A028B A032A A039A A040A A041A A042A A043A A046A A046B A066A",
    "A066B A066C A071 A072 A073 A074 A075 A076 A077 A078 A079 A080 A081 A082 A083 A084 A085 A086",
    "A087 A088 A089 A090 A091 A092 A093 A094 A095 A096 A097 A097A A098 A098A A099 A100A A101",
    "A101A A102 A102A A103 A104 A104A A104B A104C A105 A105A A105B A106 A107 A107A A107B A107C",
    "A108 A109 A110 A110A A110B A111 A112 A113 A114 A115 A115A A116 A117 A118 A119 A120 A120B",
    "A121 A122 A123 A124 A125 A125A A126 A127 A128 A129 A130 A131 A131C A132 A133 A134 A135 A135A",
    "A136 A137 A138 A139 A140 A141 A142 A143 A144 A145 A146 A147 A148 A149 A150 A151 A152 A153",
    "A154 A155 A156 A157 A158 A159 A160 A161 A162 A163 A164 A165 A166 A167 A168 A169 A170 A171",
    "A172 A173 A174 A175 A176 A177 A178 A179 A180 A181 A182 A183 A184 A185 A186 A187 A188 A189",
    "A190 A191 A192 A193 A194 A195 A196 A197 A198 A199 A200 A201 A202 A202A A202B A203 A204 A205",
    "A206 A207 A207A A208 A209 A209A A210 A211 A212 A213 A214 A215 A215A A216 A216A A217 A218",
    "A219 A220 A221 A222 A223 A224 A225 A226 A227 A227A A228 A229 A230 A231 A232 A233 A234 A235",
    "A236 A237 A238 A239 A240 A241 A242 A243 A244 A245 A246 A247 A248 A249 A250 A251 A252 A253",
    "A254 A255 A256 A257 A258 A259 A260 A261 A262 A263 A264 A265 A266 A267 A267A A268 A269 A270",
    "A271 A272 A273 A274 A275 A276 A277 A278 A279 A280 A281 A282 A283 A284 A285 A286 A287 A288",
    "A289 A289A A290 A291 A292 A293 A294 A294A A295 A296 A297 A298 A299 A299A A3 A300 A309 A309B",
    "A309C A313 A313A A313B A313C A329A A332 A332A A332B A332C A336A A336B A336C A359A A364A",
    "A368A A371A A372 A373 A374 A375 A376 A377 A378 A379 A380 A381 A381A A382 A383 A383A A384",
    "A385 A386 A386A A387 A388 A389 A390 A391 A392 A393 A394 A395 A396 A397 A398 A399 A410A A419",
    "A420 A421 A422 A423 A424 A425 A426 A427 A428 A429 A430 A431 A432 A433 A434 A435 A436 A437",
    "A438 A439 A440 A441 A442 A443 A444 A445 A446 A447 A448 A449 A450 A450A A451 A452 A453 A454",
    "A455 A456 A457 A457A A458 A459 A460 A461 A462 A463 A464 A465 A466 A467 A468 A469 A470 A471",
    "A472 A473 A474 A475 A476 A477 A478 A479 A480 A481 A482 A483 A484 A485 A486 A487 A488 A489",
    "A490 A491 A492 A493 A494 A495 A496 A497 A507 A514 A517 A518 A519 A522 A531 A532 A534 A535",
    "A536 A537 A538 A539 A540 A541 A542 A545 A547 A548 A549 A550 A551 A552 A553 A554 A555 A556",
    "A557 A559 A563 A564 A565 A566 A568 A569 A570 A571 A572 A573 A574 A575 A576 A577 A578 A579",
    "A580 A581 A582 A583 A584 A585 A586 A587 A588 A589 A591 A592 A594 A595 A596 A598 A600 A601",
    "A602 A603 A604 A606 A608 A609 A610 A611 A612 A613 A614 A615 A616 A617 A618 A619 A620 A621",
    "A622 A623 A624 A626 A627 A628 A629 A634 A637 A638 A640 A642 A643 A644 A645 A646 A648 A649",
    "A651 A652 A653 A654 A655 A656 A657 A658 A659 A660 A661 A662 A663 A664 A701 A702 A703 A704",
    "A705 A706 A707 A708 A709 A710 A711 A712 A713 A714 A715 A717 A726 A732 A800 A801 A802 A803",
    "A804 A805 A806 A807 AA001 AA002 AA003 AA004 AA005 AA006 AA007 AA007A AA007B AA008 AA009",
    "AA010 AA011 AA012 AA013 AA014 AA015 AA016 AA017 AA018 AA019 AA020 AA021 AA022 AA023 AA024",
    "AA025 AA026 AA027 AA028 AA029 AA030 AA031 AA032 AABAAFILI AAJ AAK AAM AANG AAO AARU AAU AAW",
    "AAYANNA AAYIN AAZHAAKKU AB001 AB002 AB003 AB004 AB005 AB006 AB007 AB008 AB009 AB010 AB011",
    "AB013 AB016 AB017 AB020 AB021 AB021F AB021M AB022 AB022F AB022M AB023 AB023M AB024 AB026",
    "AB027 AB028 AB029 AB030 AB031 AB034 AB037 AB038 AB039 AB040 AB041 AB044 AB045 AB046 AB047",
    "AB048 AB049 AB050 AB051 AB053 AB054 AB055 AB056 AB057 AB058 AB059 AB060 AB061 AB065 AB066",
    "AB067 AB069 AB070 AB073 AB074 AB076 AB077 AB078 AB079 AB080 AB081 AB082 AB085 AB086 AB087",
    "AB118 AB120 AB122 AB123 AB131A AB131B AB164 AB171 AB180 AB188 AB191 ABACUS ABAFILI ABB",
    "ABUNDANCE ABYSMAL ACCEPT ACCOMMODATION ACCORDION ACCUMULATION ACK ACROPHONIC ADAK ADDAK",
    "ADDRESS ADDRESSED ADHESIVE ADI ADLAM ADMETOS ADMISSION ADO ADVANCE ADVANTAGE AED AEEYANNA",
    "AEGEAN AEL AENG AER AERIAL AES AESCULAPIUS AEYANNA AFFIX AFFRICATION AFGHANI AFOREMENTIONED",
    "AFSAAQ AFTER AGAIN AGAINST AGE AGGRAVATED AGGRAVATION AGOGI AGUNG AHAD AHAGGAR AHANG AHH",
    "AHOM AHSA AHSDA AID AIHVUS AIKARA AILM AINN AINU AIVA AIVILIK AIYANNA AKARA AKBAR AKSA",
    "AKTIESELSKAB AKURU ALAF ALAN ALARM ALAYHAA ALAYHIM ALAYHIMAA ALAYNAA ALBANIAN ALCHEMICAL",
    "ALERT ALF ALGIZ ALIFU ALIGNED ALKALI ALLAAHU ALLAH ALLAHOU ALM ALPA ALPAPRANA ALT",
    "ALTERNATION ALUM AMALGAM AMALGAMATION AMBA AMBULANCE AMERICAN AMERICAS AMOUNT AMPHORA AMPS",
    "AMULET ANAP ANATOLIAN ANATOMICAL ANATRICHISMA ANDAP ANGED ANGEL ANGKA ANGKHANKHU ANGRY",
    "ANGSTROM ANGUISHED ANGULAR ANH ANHAA ANHU ANHUM ANHUMAA ANHUNNA ANIMAL ANKH ANN ANNAAU",
    "ANNUITY ANPEA ANSUZ ANT ANTIFONIA ANTIKENOKYLISMA ANTIKENOMA ANUSVARAYA AOR AOU APAATO APART",
    "APC APIN APODEXIA APOLLON APOTHEMA APOTHES APPROACH APPROACHES APRIL APUN AQUA AQUAFORTIS",
    "AQUARIUS ARAD ARAEAE ARAMAIC ARDHACANDRA ARE AREPA ARGON ARGOTERI ARIES ARKAANU ARKAB",
    "ARKTIKO ARLAUG ARMOUR ARMS ARMY AROURA AROUSING ARPEGGIATO ARRAY ARRIVE ARRIVING ARSENIC",
    "ARSEOS ARTA ARTABE ARTICULATED ARTIST ARUHUA ASAL2 ASAT ASCENT ASCIA ASH3 ASH9 ASIA ASPER",
    "ASPIRATED ASSALLAM ASSERTION ASTERISCUS ASTERISKS ASTERISM ASTONISHED ASTRAEA ASTRONOMICAL",
    "ASYURA ASZ ATH ATHARVAVEDIC ATHLETIC ATIKRAMA ATIYA ATMAAU ATNAH ATOM ATT ATTACHING ATTAK",
    "ATTENTION ATTHACAN ATTIC AUBERGINE AUGMENTATION AUGUST AUNN AURAMAZDAA AURAMAZDAAHA",
    "AURIPIGMENT AUSTRAL AUTO AUTOMATED AUTUMN AUYANNA AVAKRAHASANYA AVERAGE AVESTAN AVOCADO AWC",
    "AWE AWQ AWZ AYANNA AYER AZZA B005A B010 B011 B012 B013 B014 B015 B016 B017 B018 B019 B020",
    "B021 B022 B023 B024 B025 B026 B027 B028 B029 B030 B031 B032 B033 B034 B036 B037 B038 B039",
    "B040 B041 B042 B043 B044 B045 B046 B047 B048 B049 B050 B051 B052 B053 B054 B055 B056 B057",
    "B058 B059 B060 B061 B062 B063 B064 B065 B066 B067 B068 B069 B070 B071 B072 B073 B074 B075",
    "B076 B077 B078 B079 B080 B081 B082 B083 B085 B086 B087 B089 B090 B091 B100 B102 B104 B105",
    "B105F B105M B106F B106M B107F B107M B108F B108M B109F B109M B120 B121 B122 B123 B125 B127",
    "B128 B130 B131 B132 B133 B135 B140 B141 B142 B145 B146 B150 B151 B152 B153 B154 B155 B156",
    "B157 B158 B159 B160 B161 B162 B163 B164 B165 B166 B167 B168 B169 B170 B171 B172 B173 B174",
    "B176 B177 B178 B179 B180 B181 B182 B183 B184 B185 B189 B190 B191 B200 B201 B202 B203 B204",
    "B205 B206 B207 B208 B209 B210 B211 B212 B213 B214 B215 B216 B217 B218 B219 B220 B221 B222",
    "B225 B226 B227 B228 B229 B230 B231 B232 B233 B234 B236 B240 B241 B242 B243 B245 B246 B247",
    "B248 B249 B250 B251 B252 B253 B254 B255 B256 B257 B258 B259 B305 BAARERU BACKWARD BACON",
    "BACTRIAN BADGE BADMINTON BAG3 BAGA BAGEL BAGGAGE BAGS BAGUETTE BAH BAHIRGOMUKHA BAHT BAIMAI",
    "BAIRKAN BALD BALINESE BALLET BALLPOINT BANANA BAND BANDAGE BANG BANJO BANKNOTE BANTOC BAP",
    "BARA2 BARBER BARIYOOSAN BARLEY BARREKH BARRIER BASEBALL BASH BASKET BASKETBALL BATAK",
    "BATHAMASAT BAU BAX BB BBAA BBAP BBAT BBAX BBEE BBEP BBEX BBIE BBIEP BBIET BBIEX BBIP BBIT",
    "BBIX BBOP BBOT BBOX BBUO BBUOP BBUOX BBUP BBUR BBURX BBUX BBY BBYP BBYT BBYX BEACH BEADS",
    "BEAN BEANS BEARDED BEATING BECAUSE BED BEEHIVE BEETA BEFORE BEGINNER BEGINNING BEITH BEL",
    "BELGTHOR BELLHOP BENDE BENGALI BENTO BEORC BEP BERKANAN BEX BEYYAL BH BHAA BHAIKSUKI BHAM",
    "BHATTIPROLU BHEE BHI BHOO BHU BIB BIBLE BICEPS BICYCLE BICYCLES BIDENTAL BIE BIEP BIET BIEX",
    "BIKINI BILLED BILLIARDS BILLIONS BINOVILE BIOHAZARD BIP BIRTHDAY BIRU BISAH BISECTING",
    "BISMILLAH BISMUTH BISON BITCOIN BITE BITTER BIX BJARKAN BLA BLINK BLOND BLOW BLOWFISH",
    "BLUEBERRIES BOA BOM BOMB BOOKS BOOTS BOP BORAX BORUTO BORZAYA BORZY BOT BOUNDARY BOWING",
    "BOWLING BOXING BOY BOYS BPH BQ BRACE BRACKETS BRAHMI BRAILLE BRAIN BRAKCET BRANCHES",
    "BRANCHING BREAKTHROUGH BREAST BRI BRIDE BRIEFCASE BRIEFS BRISTLE BROCCOLI BRONZE BROOM BS",
    "BSDUS BSKA BSKUR BSTAR BUCKET BUCKLE BUFFALO BUG BUGINESE BUHID BULB BULL BULLHORN BULLS",
    "BULLSEYE BUMPY BUNG BUNNY BUO BUOP BUOX BUOY BUP BUR2 BURRITO BURX BUSINESS BUSSYERU BUST",
    "BUSTS BUTTER BUTTERFLY BUUMISH BUX BWE BXG BYP BYR BYRX BYT BYTE BYX BYZANTINE C001 C002",
    "C002A C002B C002C C003 C004 C005 C006 C007 C008 C009 C010 C010A C011 C012 C013 C014 C015",
    "C016 C017 C018 C019 C020 C021 C022 C023 C024 CAAI CAANG CABBAGE CABINET CABLEWAY CACTUS CADA",
    "CAESURA CAH CAI CAL CALC CALCULATOR CALX CALYA CAMNUC CAMPING CANCER CANDLE CANDY CANE CANG",
    "CANNED CANOE CANTILLATION CAPITULUM CAPO CAPPED CAPRICORN CAPTIVE CAPUT CARDS CARE CARIAN",
    "CARIK CAROUSEL CARP CARROT CARS CARTRIDGE CARTWHEEL CARYSTIAN CASKET CATAWA CAU CAUCASIAN",
    "CAUDA CAUTION CAVE CAX CCA CCAA CCE CCEE CCH CCHA CCHAA CCHEE CCHHA CCHHAA CCHHE CCHHEE",
    "CCHHI CCHHO CCHHU CCHI CCHO CCHU CCI CCO CCU CEALC CECEK CEDI CEEB CEEV CEIRT CELEBRATION",
    "CELSIUS CELTIC CEN CENTURIAL CEONGCHIEUMCHIEUCH CEONGCHIEUMCIEUC CEONGCHIEUMSIOS",
    "CEONGCHIEUMSSANGCIEUC CEONGCHIEUMSSANGSIOS CEP CEREK CEREMONY CERES CEVITU CEX CGJ CHAD",
    "CHADA CHAINS CHAKMA CHAM CHAMILI CHAMILON CHAMKO CHAN CHANG CHANGE CHAP CHAPTER CHATTAWA",
    "CHAU CHAVIYANI CHAX CHEEK CHEEM CHEERING CHEESE CHEIKHAN CHEIKHEI CHEINAP CHELNU CHEN CHEP",
    "CHEQUERED CHERRIES CHERRY CHERY CHESTNUT CHET CHEX CHHA CHHIM CHICKEN CHIKI CHIL CHILDREN",
    "CHIM CHIME CHING CHINOOK CHIPMUNK CHIRET CHIRON CHITUEUMCHIEUCH CHITUEUMCIEUC CHITUEUMSIOS",
    "CHITUEUMSSANGCIEUC CHITUEUMSSANGSIOS CHOA CHOCOLATE CHOE CHOKE CHOP CHOPSTICKS CHORASMIAN",
    "CHOT CHOX CHOY CHROA CHRYSANTHEMUM CHULA CHUO CHUOP CHUOT CHUOX CHUP CHUR CHURX CHUX CHWA",
    "CHWV CHY CHYP CHYR CHYRX CHYT CHYX CIE CIEP CIET CIEX CII CIN CINEMA CINNABAR CIRCULATION",
    "CIRCUS CIT CITATION CITI CIVILIAN CIX CL CLAIM CLAMSHELL CLAPPER CLAPPING CLASSICAL CLAW",
    "CLEAR CLEAVER CLIMACUS CLIMBING CLINGING CLIPBOARD CLIVIS CLOSENESS CLOSET CLOSURE CLOVER",
    "CLOWN CM001 CM002 CM004 CM005 CM006 CM007 CM008 CM009 CM010 CM011 CM012 CM012B CM013 CM015",
    "CM017 CM019 CM021 CM023 CM024 CM025 CM026 CM027 CM028 CM029 CM030 CM033 CM034 CM035 CM036",
    "CM037 CM038 CM039 CM040 CM041 CM044 CM046 CM047 CM049 CM050 CM051 CM052 CM053 CM054 CM055",
    "CM056 CM058 CM059 CM060 CM061 CM062 CM063 CM064 CM066 CM067 CM068 CM069 CM070 CM071 CM072",
    "CM073 CM074 CM075 CM075B CM076 CM078 CM079 CM080 CM081 CM082 CM083 CM084 CM085 CM086 CM087",
    "CM088 CM089 CM090 CM091 CM092 CM094 CM095 CM096 CM097 CM098 CM099 CM100 CM101 CM102 CM103",
    "CM104 CM105 CM107 CM108 CM109 CM110 CM112 CM114 CM301 CM302 COA COASTER COCKROACH COCKTAIL",
    "COCONUT CODA COENG COFFIN COIN COLL COLLISION COLOR COLUMN COMB COMBINATION COMBINED COMET",
    "COMING COMMON COMPARE COMPASS COMPLEMENT COMPLETED COMPLIANCE COMPRESSION COMPUTERS CONFETTI",
    "CONFLICT CONFOUNDED CONFUSED CONGRUENT CONICAL CONJUGATE CONJUNCTION CONSTANCY CONTEMPLATION",
    "CONTENTION CONTINUATION CONTINUING CONTINUOUS CONTOURED CONTRACTION CONTRARIETY CONVENIENCE",
    "CONVERGING COOKED COOKING COOL COP COPY COPYLEFT CORAL CORK CORNISH CORONIS CORPORATION",
    "CORPSE CORRECT CORRESPONDS COT COUCH COUNCIL COUNTERBORE COUNTERSINK COUNTING COUPLE COWBOY",
    "COX CR CRAB CRACKER CRAYON CREATIVE CRESCENDO CROCODILE CROISSANT CROIX CRUCIBLE CRUCIFORM",
    "CRUTCH CRUZEIRO CRYSTAL CSI CUAM CUCUMBER CUNEIFORM CUO CUOX CUPCAKE CUPIDO CUR CURLED",
    "CURLING CURRY CURSIVE CURX CUSTARD CUSTOMER CUSTOMS CUX CWEORTH CYAW CYAY CYCLONE",
    "CYLINDRICITY CYPERUS CYPRIOT CYPRO CYR CYRENAIC CYRX CYX D001 D002 D003 D004 D005 D006 D007",
    "D008 D008A D009 D010 D011 D012 D013 D014 D015 D016 D017 D018 D019 D020 D021 D022 D023 D024",
    "D025 D026 D027 D027A D028 D029 D030 D031 D031A D032 D033 D034 D034A D035 D036 D037 D038 D039",
    "D040 D041 D042 D043 D044 D045 D046 D046A D047 D048 D048A D049 D050 D050A D050B D050C D050D",
    "D050E D050F D050G D050H D050I D051 D052 D052A D053 D054 D054A D055 D056 D057 D058 D059 D060",
    "D061 D062 D063 D064 D065 D066 D067 D067A D067B D067C D067D D067E D067F D067G D067H D2 DAADHU",
    "DAASU DAEG DAENG DAG3 DAGALGA DAGAZ DAGBASINNA DAGS DAH DAHYAAUSH DAI DAING DAIR DALAT DAM",
    "DAMARU DAMP DANCER DANCING DANGO DANTAYALAN DARA4 DARGA DART DASEIA DAVID DAVIYANI DAWB DAX",
    "DC1 DC2 DC3 DC4 DCS DD DDAP DDAT DDAX DDEE DDEP DDEX DDHE DDHEE DDHI DDHU DDIE DDIEP DDIEX",
    "DDIP DDIT DDIX DDOA DDOP DDOT DDOX DDUO DDUOP DDUOX DDUP DDURX DDUT DDUX DDWA DEAD DEAF"
  ]

/-- Part 3 of the words. -/
def words3 : List String :=
  [
    "DEBIT DECAYED DECEMBER DECIDUOUS DECISIVENESS DECORATIVE DECRESCENDO DEEL DEEPLY",
    "DEFECTIVENESS DEFINITION DEHI DEK DEKA DELETION DELICIOUS DELIVERANCE DELIVERY DELPHIC DELT",
    "DENARIUS DENG DENNEN DENTISTRY DEP DEPARTMENT DEPTH DERBITSA DERELICT DESCRIPTION DESERET",
    "DESERT DESI DESIGN DESK DEUNG DEVELOPMENT DEX DEYTEROU DHAA DHAALU DHADHE DHAL DHALATH",
    "DHALETH DHAMEDH DHARMA DHEE DHHA DHHE DHHEE DHHI DHHO DHHOO DHHU DHI DHII DHOO DHOU DHU",
    "DIAERESIZED DIAMETER DIARGON DIASTOLI DIATONON DIEP DIESEL DIEX DIFAT DIFFERENCE",
    "DIFFICULTIES DIFFICULTY DIFTOGGOS DIGITS DIGORGON DIGRAMMA DIL DIMENSION DIMENSIONAL DIMIDIA",
    "DIMINISHMENT DIMMING DING DIP DIPLOUN DIPPER DIPTE DIRGA DISABLED DISCONTINUOUS DISGUISED",
    "DISPERSION DISPUTED DISSOLVE DISTILL DISTINGUISH DISTORTION DIT DITTO DIVERGENCE DIVES",
    "DIVIDERS DIVIDES DIVING DIVORCE DIX DIYA DJ DL DLEE DLHA DLHYA DLI DLO DLU DM DNA DOA DODO",
    "DOGRA DOING DOIT DOKMAI DOLIUM DOLPHIN DOMAIN DOMINO DOONG DOP DOROME DORU DOUBT DOUGHNUT",
    "DOWNSCALING DOWNWARD DOX DRAFTING DREAMY DRIL DROMEDARY DROOLING DROPS DRUMSTICKS DUB2 DUCK",
    "DUDA DUGUD DUH DUM DUMPLING DUN4 DUO DUOX DUP DUPLOYAN DUPONDIUS DUR DUR2 DURATION DURX",
    "DUSHENNA DUSK DUT DUTIES DUX DVA DVD DVISVARA DVOECHELNOKRYZHEVAYA DVOETOCHIE DVUMYA DWA DWO",
    "DYAN DYNAMIC DZAA DZAY DZHOI DZITA DZYAY DZYI DZZA E001 E002 E003 E004 E005 E006 E007 E008",
    "E008A E009 E009A E010 E011 E012 E013 E014 E015 E016 E016A E017 E017A E018 E019 E020 E020A",
    "E021 E022 E023 E024 E025 E026 E027 E028 E028A E029 E030 E031 E032 E033 E034 E034A E036 E037",
    "E038 EABHADH EADHADH EAMHANCHOLL EARLY EARTHLY EASE EBEFILI EDD EDIN EDITORIAL EEBEEFILI EEH",
    "EEKAA EEN EEYANNA EGGS EGIR EGYPTIAN EHWAZ EIGHTIETH EIS EJECT EKAM EKARA EKS EKSTREPTON",
    "ELAFRON ELBASAN ELECTRICAL ELECTRONICS ELEVATOR ELEVATUS ELF ELIF ELLIPTIC ELT ELYMAIC",
    "EMBELLISHMENT EMBLEM EMBROIDERY EMPHATIC ENARMONIOS ENARXIS ENCOUNTERS ENDEAVOUR ENDEP",
    "ENDING ENDOFONON ENLARGEMENT ENNI ENOS ENQ ENTERING ENTHUSIASM ENUMERATION EOH EOL EOLHX EOM",
    "EOT EPA EPACT EPEGERMA EPOCH EQ EQUIANGULAR EQUID ERG ERIS ERROR ERS ESA ESASA ESC ESH16",
    "ESH21 ESO ESS ESTIMATED ESTIMATES ESUKUUDO ETB ETHEL ETNAHTA ETX EULER EUROPE EVENING",
    "EVERGREEN EVERY EXCELLENT EXCESS EXCHANGE EXCITEMENT EXHALE EXHAUSTION EXIST EXISTS",
    "EXPLODING EXPONENT EXPRESSIONLESS EXTINGUISHER EXTRATERRESTRIAL EYANNA EYBEYFILI EYEBROW",
    "EYEGAZE EYEGLASSES EYELASHES EYYY F001 F001A F002 F003 F004 F005 F006 F007 F008 F009 F010",
    "F011 F012 F013 F013A F014 F015 F016 F017 F018 F019 F020 F021 F021A F022 F023 F024 F025 F026",
    "F027 F028 F029 F030 F031 F031A F032 F033 F034 F035 F036 F037 F037A F038 F038A F039 F040 F041",
    "F042 F043 F044 F045 F045A F046 F046A F047 F047A F048 F049 F050 F051 F051A F051B F051C F052",
    "F053 FAAFU FAAI FAAMAE FACINGS FACSIMILE FACTORY FAHRENHEIT FAIB FAIHU FAILURE FAIRY FAJ",
    "FALAFEL FALLEN FAM FANEROSIS FANG FAP FAQ FAR FAST FAT FATIGUE FAY FAYANNA FEAR FEARFUL",
    "FEARN FEBRUARY FEEM FEENG FEHU FELLOWSHIP FENCER FEOH FERRIS FERRY FESTIVAL FETH FEUFEUAET",
    "FEUX FFI FFL FHTORA FIGHT FII FILLED FINGERED FINGERNAILS FINITE FIP FIRECRACKER FIREWORK",
    "FIREWORKS FIRI FISHEYE FISHING FISTED FIT FITZPATRICK FIX FL FLA FLAGS FLAMINGO FLASH",
    "FLATNESS FLEUR FLEXED FLIGHT FLOORPLANE FLOWERS FLOWING FLUSHED FM FOG FOGGY FOLDED FOLLY",
    "FONDUE FONGMAN FOOL FOOTPRINTS FOOTSTOOL FOP FORCE FORCES FOREHEAD FORKING FORMAT FORMATTING",
    "FORMS FORTE FORTUNE FOSTERING FRAGMENT FRAGRANT FRAMES FRANC FRANKS FREEZING FRICATIVE FRIED",
    "FRIES FS FSI FUA FUEL FUET FUJI FULLNESS FUNERAL FUP FURX FUSA FUSE FUT FUX FVS1 FVS2 FVS3",
    "FVS4 FWE FY FYA FYP FYT FYX G001 G002 G003 G004 G005 G006 G006A G007 G007A G007B G008 G009",
    "G010 G011 G011A G012 G013 G014 G015 G016 G017 G018 G019 G020 G020A G021 G022 G023 G024 G025",
    "G026 G026A G027 G028 G029 G030 G031 G032 G033 G034 G035 G036 G036A G037 G037A G038 G039 G040",
    "G041 G042 G043 G043A G044 G045 G045A G046 G047 G048 G049 G050 G051 G052 G053 G054 G2 GAAFU",
    "GAAHLAA GADOL GAG GAI GALAM GAM GAMAL GAMAN GAML GAMLA GANDA GANMA GAR3 GARDEN GARLIC",
    "GARMENT GARON GASHAN GAT GAUNTLET GAX GB GBAKURUNEN GBAYI GBEN GBET GBEUX GBIEE GBON GCAN",
    "GDAN GE22 GEBA GEBO GEDE GEDOLA GEEM GEM GEMINATE GEMINI GEN GENERIC GENIE GENIKI GENITIVE",
    "GENTLE GEOMETRIC GER GERMAN GET GETA GEX GG GGAA GGAP GGAT GGAX GGEE GGEP GGET GGEX GGIE",
    "GGIEP GGIEX GGIT GGIX GGOT GGOX GGUOP GGUOT GGUOX GGUP GGUR GGURX GGUT GGUX GGWA GGWAA GGWE",
    "GGWEE GGWI GH GHAAMAE GHAINU GHAMAL GHAMMA GHAP GHARAE GHAYN GHEE GHET GHEUAEGHEUAE",
    "GHEUAERAE GHEUGHEN GHEUGHEUAEM GHEUN GHEUX GHEYS GHI GHIMEL GHOM GHOU GHU GHWA GHZ GIBA",
    "GIDIM GIE GIEP GIET GIEX GIFT GIG GIGA GINII GIP GIR3 GIRAFFE GIRL GIRLS GIRUDAA GISAL GIT",
    "GIX GLA GLASSES GLEICH GLISSANDO GLOVE GLOVES GLOWING GN GNAVIYANI GOA GOAT GOBLIN GOGGLES",
    "GOING GOK GOLFER GOLUBCHIK GONG GOO GOOD GOP GORA GORGOSYNTHETON GORGOTERI GORILLA GORT",
    "GORTHMIKON GOTHIC GOX GPA GRADUAL GRADUATION GRAF GRAIN GRAMMA GRAPES GRAPHEME GRAPHIC GRASP",
    "GRATER GRAVEYARD GREATNESS GREGORIAN GRIMACING GRONTHISMATA GROWING GRU GS GUA GUAN GUARANI",
    "GUARDEDNESS GUARDSMAN GUEI GUG GUIDE GUITAR GUJARATI GUNJALA GUO GUOP GUOT GUOX GUP GURAMU",
    "GURAMUTON GURMUKHI GURUN GURUSH GURX GUT GUX GVANG GW GWAA GWU GY GYA GYAA GYAN GYE GYEE",
    "GYFU GYI GYO GYU H001 H002 H003 H004 H005 H006 H006A H007 H008 HAAM HAARU HADES HAEGL HAFUKH",
    "HAFUKHA HAGL HAGLAZ HAI HAIRCUT HAIS HAITU HALBERD HALO HALQA HAM HAMBURGER HAMSA HAMSTER",
    "HANDBAG HANDBALL HANDLES HANDSHAKE HANG HANIFI HANUNOO HAO HAP HAPPY HARBAHAY HARDNESS",
    "HARKLEAN HARMONIC HASER HATAF HATCHING HATHI HATRAN HAUPTSTIMME HAWJ HAX HAY HAYANNA HBASA",
    "HC HDR HEADPHONE HEADSCARF HEAR HEARING HEAVENLY HEDGEHOG HEEI HEIGHT HEISEI HEKUTAARU",
    "HELICOPTER HELIX HELLSCHREIBER HELM HEMP HEP HERAEUM HERB HERMES HERMITIAN HERUTU HEX",
    "HEXAGRAM HEXIFORM HEYT HHE HHEE HHI HHO HHU HHWE HHWEE HHWI HHYA HHYAA HHYE HHYEE HHYI HHYO",
    "HHYU HIBISCUS HIDE HIDET HIDING HIEROGLYPHIC HIEX HIKING HINDU HIPPOPOTAMUS HISTORIC HIZB HK",
    "HL HLAP HLAT HLAU HLAX HLE HLEP HLEX HLIE HLIEP HLIEX HLIP HLIT HLIX HLO HLOP HLOX HLU HLUO",
    "HLUOP HLUOX HLUP HLUR HLURX HLUT HLUX HLY HLYP HLYR HLYRX HLYT HLYX HM HMA HMAP HMAT HMAX",
    "HME HMI HMIE HMIEP HMIEX HMIP HMIT HMIX HMOP HMOT HMOX HMU HMUO HMUOP HMUOX HMUP HMUR HMURX",
    "HMUT HMUX HMY HMYP HMYR HMYRX HMYX HNAP HNAT HNAU HNAX HNE HNEP HNEX HNI HNIE HNIEP HNIET",
    "HNIEX HNIP HNIT HNIX HNOP HNOT HNOX HNUB HNUO HNUOX HNUT HOA HOCHO HOI HOKA HOLLOW HOM HONEY",
    "HONEYBEE HOON HOOP HOORU HOOU HORA HORIZONTALLY HOSPITAL HOTA HOX HOY HPA HPWG HRYVNIA HT",
    "HTJ HTS HTTA HUAN HUARADDO HUB HUIITO HUK HUL2 HUNG HUNGARIAN HUO HUOP HUOT HUOX HURAN HUSH",
    "HUSHED HUT HUVA HWA HWAH HWEE HWI HWO HWU HXA HXAP HXAT HXAX HXE HXEP HXEX HXI HXIE HXIEP",
    "HXIET HXIEX HXIP HXIX HXO HXOT HXOX HXUOP HXUOT HXUOX HXWG HYGIEA HYGIEIA HYPODIASTOLE",
    "HYSTERESIS HZG HZT HZW HZWG HZZ HZZP HZZZ HZZZG I001 I002 I003 I004 I005 I005A I006 I007",
    "I008 I009 I009A I010 I010A I011 I011A I012 I013 I014 I015 IANG IBIFILI ICELANDIC ICHADIN",
    "ICHOU ID IEP IET IEX IF IFIN IGGWS IIYANNA IKARA IL IL2 ILIMMU3 ILIMMU4 ILUT ILUUYANNA ILUY",
    "ILUYANNA IMAALA IMIDIARGON IMIFONON IMIFTHORA IMIFTHORON IMIN3 IMISEOS IMN IMP IMPERFECTUM",
    "IMPERIAL INAP INBOX INCH INCLUDING INCOMING INCOMPLETE INCREASES INCREMENT IND INDIAN",
    "INDICTION INDIRECT INDUSTRIAL INFLUENCE INGWAZ INHALE INHERENT ININGU INK INN INNN INNOCENCE",
    "INPUT INSCRIPTIONAL INSECT INSERT INSTRUMENTAL INTERCALATE INTEREST INTERLINEAR INTERLOCKED",
    "INTERSECTING INTERSYLLABIC INTI INVERTEBRATE INVISIBLE INY INYA IODHADH IONG IOR IP IRB IRI",
    "IRUUYANNA IRUYANNA ISAKIA ISAZ ISEN ISHMAAM ISLAND ISS ITEM ITS IUJA IWAZ IWN IYANNA IZ",
    "IZAKAYA JACKS JAH JAIN JALL JALLAJALALOUHOU JANUARY JAPAN JAVANESE JAVIYANI JAYIN JAYN JEANS",
    "JER JERA JERAN JERUSALEM JEU JHAA JHAM JHAYIN JHO JHOX JIA JIE JIEP JIET JIEX JIGSAW JIP JIT",
    "JIX JJE JJEE JJIEP JJIET JJIEX JJIP JJIT JJIX JJOP JJOT JJOX JJUO JJUOP JJUOX JJUP JJUR",
    "JJURX JJUX JJYP JJYT JJYX JOA JOINTS JONA JONG JOP JOVE JOX JOYOUS JOYSTICK JUDEO JUDGE",
    "JUDUL JUEUI JUGGLING JULY JUNE JUNO JUO JUOP JUOT JUOX JUP JUPITER JUR JURX JUT JUU JUX JY",
    "JYP JYR JYRX JYT JYX K001 K002 K003 K004 K005 K006 K007 K008 K2 KAAB KAABA KAACU KAAFU KAAI",
    "KAAN KAANKUU KAAV KACHKA KAD KAD4 KAFA KAIB KAIRI KAITHI KAIV KAKABAT KAM KAM2 KAM4 KANA",
    "KANAKO KANGAROO KANGXI KANNADA KANTAJA KAPAL KAPO KAQ KAR KARAN KARATTO KAROR KARORAN",
    "KARORII KARSHANA KAT KATAVA KATAVASMA KATHISTI KAUB KAUN KAUNA KAUV KAV KAWB KAWI KAWV KAX",
    "KAZAKH KB KCAL KEAAE KEB KEEB KEENG KEESU KEEV KEFULA KELVIN KEMBANG KEMPHRENG KENAT KEOW",
    "KEP KERET KES KEUAE KEUAEM KEUAERI KEUAETMEUN KEUKAQ KEUKEUTNDA KEUOT KEUP KEUPUQ KEUSEUX",
    "KEUSHEUAEP KEUYEUX KEV KEX KHAB KHAF KHAMILO KHAN KHANDA KHANG KHAROSHTHI KHAV KHEE KHETH",
    "KHIT KHITAN KHMU KHOJKI KHOMUT KHON KHONNA KHOT KHOU KHU KHUAT KHUDAM KHUDAWADI KHWAI KHZ",
    "KIAB KIAV KIB KICK KIE KIEEM KIEP KIEVAN KIEX KIH KII KIIZH KIKAKUI KILLER KIMONO",
    "KINDERGARTEN KINSHIP KIQ KIRO KIROGURAMU KIROMEETORU KIROWATTO KISAL KISH KITE KIV KIW",
    "KIWIFRUIT KIX KKE KKEE KKI KKO KKU KL KLA KLITON KLYUCHENEPOSTOYANNY KLYUCHEPOVODNAYA",
    "KLYUCHEPOVODNY KLYUCHEVOY KNEELING KNOBS KNOT KOA KOALA KOB KOBYLA KOGHOM KOH KOINI KOKE",
    "KOKO KOMBU KOOB KOOMUUT KOOPO KOOV KOP KOQNDON KORON KORUNA KOT KOUFISMA KOV KOVUU KOX KPAH",
    "KPAN KPARAQ KPEN KPEUX KPOQ KRA KRATIMA KRATIMATA KRATIMOKOUFISMA KRATIMOYPORROON KREMASTI",
    "KRONOS KRYUK KRYZHEVAYA KT KU4 KU7 KUA KUAB KUAV KUB KUET KUFISMA KUG KUNDDALIYA KUNG KUO",
    "KUOM KUOQ KUOX KUP KUPNAYA KUQ KUROONE KURT KURUNI KURUZEIRO KURX KUSMA KUUH KUV KUX KUZHI",
    "KV KWAET KWAY KWB KWM KWU318 KWV KXAA KXE KXEE KXI KXO KXU KXWA KXWAA KXWE KXWEE KXWI KYAA",
    "KYATHOS KYE KYI KYLISMA KYO KYU KYURII L001 L002 L002A L003 L004 L005 L006 L006A L007 L008",
    "L2 L3 L4 L6 LAAI LAAMU LAAN LAANAE LAB LABAT LABEL LABIALIZATION LABOURING LACA LACK",
    "LACROSSE LADDER LADY LAEV LAGU LAGUS LAH LAHSHU LAJANYALAN LAKHAN LAKKHANGYAO LAMADH LAMBDA",
    "LAMD LAND LANGUAGE LANTERN LAO LAPAQ LAQ LARI LARYNGEAL LAT LATE LATIK LAU LAUGHING LAUJ",
    "LAUKAZ LAX LAY LAYAR LCI LD LD2 LDAN LEAD LEADING LEAFY LEANING LEDGER LEEK LEGION LEGS LEI",
    "LELET LEMOI LEMON LEO LEOPARD LEP LEPCHA LESSER LEUAEM LEUAEP LEUM LEVITATING LEX LF LHAG",
    "LHAVIYANI LHE LHEE LHII LHOO LHU LHYA LIABILITY LIBERTY LIBRA LICKING LIEE LIEP LIET LIEX",
    "LIFE LIFTER LIGATING LIGHTHOUSE LII LIL LILITH LILY LIMB LIMBS LIMBU LIME LIMIT LIMITATION",
    "LIMITED LIMMU2 LIMMU4 LINGSA LINKED LINKING LION LIPSTICK LIQ LIS LIT LITH LITRA LIVRE LIX",
    "LIZARD LLAMA LLE LLHA LLL LM LN LOA LOBSTER LOCATIVE LODESTONE LOG LOGOTYPE LOGR LOLL",
    "LOLLIPOP LOMKA LOMMAE LOOK LOON LOOPED LOP LORRAINE LORRY LOS LOSSLESS LOT LOTION LOUDLY",
    "LOUDSPEAKER LOURE LOX LRE LRI LRM LRO LUAEP LUB LUHUR LUIS LUNGS LUNGSI LUO LUOP LUOT LUOX",
    "LUP LUR LURX LUS LUT LUX LX LYA LYCIAN LYDIAN LYGISMA LYING LYIT LYP LYRX LYT LYX LYY M001A",
    "M001B M003A M010A M012A M012B M012C M012D M012E M012F M012G M012H M015A M016A M017A M022A",
    "M024A M028A M031A M033A M033B M040A M045 M046 M047 M048 M049 M050 M051 M052 M053 M054 M055",
    "M056 M057 M058 M059 M060 M061 M062 M063 M064 M065 M066 M067 M068 M069 M070 M071 M072 M073",
    "M074 M075 M076 M077 M078 M079 M080 M081 M082 M083 M084 M085 M086 M087 M088 M089 M090 M091",
    "M092 M093 M094 M095 M096 M097 M098 M099 M100 M101 M102 M103 M104 M105 M106 M107 M108 M109",
    "M110 M111 M112 M113 M114 M115 M116 M117 M118 M119 M120 M121 M122 M123 M124 M125 M126 M127",
    "M128 M129 M130 M131 M132 M133 M134 M135 M136 M137 M138 M139 M140 M141 M142 M143 M144 M145",
    "M146 M147 M148 M149 M150 M151 M152 M153 M154 M155 M156 M157 M158 M159 M160 M161 M162 M163",
    "M164 M165 M166 M167 M168 M169 M170 M171 M172 M173 M174 M175 M176 M177 M178 M179 M180 M181",
    "M182 M183 M184 M185 M186 M187 M188 M189 M190 M191 M192 M193 M194 M195 M196 M197 MA2 MAAI",
    "MAAYYAA MADU MADYA MAEKEUP MAELEE MAEMBGBIEE MAEMGBIEE MAEMKPEN MAEMVEUX MAENJET MAENYI MAGE",
    "MAGIC MAGNET MAHAJANI MAHAPAKH MAHHA MAHJONG MAIDEN MAIKURO MAIMALAI MAIMUAN MAIRU MAITAIKHU",
    "MAIYAMOK MAIZE MAKASAR MALAKON MALEERI MALTESE MAMMOTH MANACLES MANAT MANDAIC MANGALAM MANGO",
    "MANICHAEAN MANNA MANNAZ MANS MANSUAE MANSYON MANTELPIECE MANUAL MAO MAPLE MAQAF MARCASITE",
    "MARCATO MARCH MARCHEN MARE MARKS MARRATAN MARRIAGE MARRYING MARTIAL MARUKU MARWARI MARY",
    "MASARAM MASCULINE MASHFAAT MASORA MASSAGE MASSING MASU MAT MATE MATERIALS MATRIX MATTOCK MAU",
    "MAX MAXIMA MAXIMIZE MAYAN MAYANNA MB2 MB3 MB4 MBAAKET MBAARAE MBAQ MBEEKEET MBERAE MBEURI",
    "MBEUX MBIRIEEN MBUAE MBUAEM MBUE MBUO MBUOQ MBUU MD MECHANICAL MECHIK MED MEDEFAIDRIN",
    "MEDICAL MEDICINE MEEMU MEETORU MEGALI MEGAPHONE MEGATON MEIZI MELIK MELODIC MELTING",
    "MEMBERSHIP MEMO MENDE MENDUT MENOE MENORAH MENS MERI MERIDIANS MERKHA MEROITIC MERPERSON",
    "MESI MESSENIAN META METEG METEK METOBELUS METRETES METRIA METRICAL METRO MEUNJOMNDEUQ MEUQ",
    "MEX MEZZO MFAA MFEUAE MFEUQ MFEUT MFIEE MFIYAQ MFO MG MGA MGAP MGAT MGAX MGBASA MGBASAQ MGBE",
    "MGBEE MGBEN MGBEUN MGBI MGBIEE MGBO MGBOFUM MGBOO MGBU MGE MGEP MGEX MGIE MGIEX MGOP MGOT",
    "MGOX MGU MGUO MGUOP MGUOX MGUP MGUR MGURX MGUT MGUX MH MHZ MIAO MICRO MICROBE MICROSCOPE MIE",
    "MIEP MIEX MII MIIN MIKRI MIKRON MIKURON MIL MILK MILKY MILL MILLET MIME MINIBUS MINIDISC",
    "MINIMIZE MINISTER MINNAN MINY MIP MIRED MIRI MIRIBAARU MISRA MIX MKPARAQ ML MMSP MNYAM MOA",
    "MODE MODEL MODELS MODEM MODERN MODESTY MODI MODULO MOHAMMAD MOKHASSAS MOL MONGKEUAEQ MONI",
    "MONOCLE MONORAIL MONOSTABLE MONSTER MONTIEEN MOOMEUT MOOMPUQ MOOSE MORNING MORPHOLOGICAL",
    "MORTUUM MOSQUE MOSQUITO MOT MOTORCYCLE MOTORIZED MOTORWAY MOUNT MOUNTAINS MOVED MOVES MOVIE",
    "MOX MOYAI MQ MR MRACHNO MRACHNOTIKHAYA MRACHNY MRO MS MTAVRULI MUAS MUE MUEN MUGS MUIN MUKHA",
    "MUKKURUNI MUKPHRENG MULTANI MULTI MULTIOCULAR MULTISET MUM MUN MUNAH MUNSUB MUO MUOMAE MUOP",
    "MUOT MUOX MUP MUQDAM MUR MURE MURGU2 MURX MUS MUSHROOM MUT MUTHALIYA MUUSIKATOAN MUUVUZHAKKU",
    "MUX MVEUAENGAM MVI MVS MX MYP MYT MYX MZ N001 N002 N003 N004 N005 N006 N007 N008 N009 N010",
    "N011 N012 N013 N014 N015 N016 N017 N018 N018A N018B N019 N020 N021 N022 N023 N024 N025 N025A",
    "N026 N027 N028 N029 N030 N031 N032 N033 N033A N034 N034A N035 N035A N036 N037 N037A N038",
    "N039 N040 N041 N042 NA4 NAAI NAAKSIKYAYA NABATAEAN NAGAR NAGRI NAIL NAIRA NAK NAN NAND",
    "NANDINAGARI NANGMONTHO NANO NANSANAQ NAOS NAP NASALIZED NATTILIK NAU NAUD NAUDIZ NAUSEATED",
    "NAUTHS NAX NAXIAN NAY NAZAR NBA NBAP NBAT NBAX NBH NBI NBIEP NBIEX NBIP NBIT NBIX NBO NBOP",
    "NBOT NBOX NBSP NBU NBUP NBUR NBURX NBUT NBUX NBY NBYP NBYR NBYRX NBYT NBYX NCA NCHAU ND",
    "NDAANGGEUAET NDAT NDAX NDEP NDEUAEREE NDEUT NDEUX NDEX NDIAQ NDIDA NDIE NDIEX NDIP NDIQ NDIT",
    "NDIX NDOMBU NDON NDOP NDOT NDOX NDUN NDUP NDUR NDURX NDUT NDUX NEBENSTIMME NECKTIE NEEDLE",
    "NEGATION NEMKA NENANO NEP NERD NESSUS NESTING NETWORKED NEUME NEUTER NEWA NEX NF NGAAI NGAH",
    "NGAI NGAN NGANGU NGAP NGAQ NGAT NGAX NGEADAL NGEP NGEUREUT NGEX NGG NGGAA NGGAAMAE NGGAP",
    "NGGEEEE NGGEET NGGEU NGGEUAE NGGEUX NGGUA NGGUAEN NGGUAESHAE NGGUEET NGGUM NGGUOM NGGUON",
    "NGGUOQ NGGUP NGGURAE NGGWAEN NGIE NGIEP NGIEX NGII NGKAAMI NGKAP NGKAQ NGKEUAEM NGKEUAEQ",
    "NGKEURI NGKEUX NGKIEE NGKINDI NGKUENZEUM NGKUM NGKUN NGKUP NGKYEE NGOO NGOQ NGOT NGOX NGU",
    "NGUAE NGUAET NGUAN NGUE NGUN NGUO NGUOT NGUOX NGVE NGYE NH NHAY NHJA NHUE NI2 NIA NIE NIEP",
    "NIEX NIGGAHITA NIGIDAESH NIGIDAMIN NIHSHVASA NIKA NIKAHIT NIKHAHIT NIM NIN9 NINJA NINTH NION",
    "NIP NIRUGU NISAG NIT NITRE NIX NJAA NJAP NJAQ NJEEEE NJEUAEM NJEUAENA NJEUT NJIE NJIEE NJIEP",
    "NJIET NJIEX NJIP NJIT NJIX NJOP NJOT NJOX NJUO NJUOX NJUP NJUQA NJUR NJURX NJUX NJY NJYP",
    "NJYR NJYRX NJYT NJYX NKA NKAU NKINDI NKO NKOM NL NL001 NL002 NL003 NL004 NL005 NL005A NL006",
    "NL007 NL008 NL009 NL010 NL011 NL012 NL013 NL014 NL015 NL016 NL017 NL017A NL018 NL019 NL020",
    "NLAU NM NNAA NNBSP NNE NNG NNGA NNGAA NNGI NNGII NNGO NNGOO NNHA NNO NNYA NOA NOKHUK NOMINAL",
    "NOMISMA NONFORKING NOONU NOP NORDIC NORTHEAST NORTHWEST NOTEBOOK NOTTO NOVEMBER NOVILE NOWC",
    "NOX NOY NPA NPLA NQA NQIG NRAP NRAT NRAX NRE NREP NRES NRET NREX NRO NROP NROX NRU NRUA NRUP",
    "NRUR NRURX NRUT NRUX NRY NRYP NRYR NRYRX NRYT NRYX NS NSA NSEN NSEUAEN NSHAQ NSHEE NSHUE",
    "NSHUET NSHUOP NSIEEP NSIEET NSOM NSUM NSUN NSUOT NTA NTEN NTEUNGBA NTHAU NTIEE NTOQPEN NTSA",
    "NTSAU NTU NTUJ NTUM NTXA NTXIV NU001 NU002 NU003 NU004 NU005 NU006 NU007 NU008 NU009 NU010",
    "NU010A NU011 NU011A NU012 NU013 NU014 NU015 NU016 NU017 NU018 NU018A NU019 NU020 NU021 NU022",
    "NU022A NUE NUL NUM NUMBERS NUMERO NUNAVIK NUNAVUT NUO NUOP NUOX NUP NUR NURX NUSHU NUUN NUX",
    "NW NYAEMAE NYAH NYAJ NYAN NYCA NYD NYEN NYIAKENG NYIE NYIEP NYIET NYIEX NYIR NYIX NYJA NYOA",
    "NYON NYOO NYOT NYOX NYUE NYUN NYUO NYUOP NYUOX NYUP NYUT NYUX NYWA NZAP NZAQ NZAT NZAX NZE",
    "NZEUM NZEX NZI NZIE NZIEP NZIEX NZIP NZIT NZIX NZOP NZOX NZU NZUN NZUO NZUOX NZUQ NZUR NZURX",
    "NZUX NZY NZYP NZYR NZYRX NZYT NZYX O001 O001A O002 O003 O004 O005 O005A O006 O006A O006B",
    "O006C O006D O006E O006F O007 O008 O009 O010 O010A O010B O010C O011 O012 O013 O014 O015 O016",
    "O017 O018 O019 O019A O020 O020A O021 O022 O023 O024 O024A O025 O025A O026 O027 O028 O029",
    "O029A O030 O030A O031 O032 O033 O033A O034 O035 O036 O036A O036B O036C O036D O037 O038 O039",
    "O040 O041 O042 O043 O044 O045 O046 O047 O048 O049 O050 O050A O050B O051 OABOAFILI OAK OB",
    "OBELOS OBELUS OBJECT OBLACHKO OBLAKO OBOFILI OBOL OBSERVER OBSTRUCTION OC OCCLUSION OCHKOM",
    "OCTAGONAL OCTET OCTOBER OCTOPUS ODEN OER OEY OFF OFFICER OG OGHAM OGRE OJEON OKARA OLE",
    "OMALON ONAP ONESELF ONION ONKAR ONSU OOBOOFILI OOH OOMU OON OOYANNA OOZE OPERATING OPHIUCHUS",
    "OPPOSE OPPRESSION OPTION ORANGUTAN ORCHID ORDER ORIGIN ORIYA ORNAMENTS ORNATE ORTHODOX",
    "ORTHOGONAL OSAGE OSC OSMANYA OSOKA OTHAL OTHALAN OTHER OTHERS OTSECHKA OTT OTTER OTTOMAN",
    "OUNKIA OUTBOX OUTLINE OVERHEATED OVERSTRUCK OWL OXEIAI OYANNA OYSTER OZ P001 P001A P002 P003",
    "P003A P004 P005 P006 P007 P008 P009 P010 P011 P2 PAAI PAARAE PAARAM PAASENTO PAATU PACKAGE",
    "PACKING PADDING PADDLE PADMA PAGER PAGODA PAH PAHAWH PAINTBRUSH PAIRTHRA PAIYANNOI",
    "PALATALIZATION PALATALIZED PALETTE PALKA PALLAS PALLAWA PALMS PALMYRENE PALUTA PAMAAEH",
    "PAMENENG PAMEPET PAMINGKAL PAMSHAE PAMUNGKAH PANAELAENG PANAM PANCAKES PANDA PANEULEUNG PANG",
    "PANGHULU PANGKAT PANGKON PANGLAYAR PANGLONG PANGRANGKEP PANGWISAD PANOLONG PANONGONAN",
    "PANYAKRA PANYANGGA PANYECEK PANYIKU PANYUKU PAO PAPERCLIP PAPERCLIPS PAPYRUS PARACHUTE",
    "PARAGRAPHUS PARAKLIT PAREREN PARICHON PARK PARROT PARTHIAN PARTIALLY PARUM PASANGAN PASEQ",
    "PASHAE PASHTA PASSED PASSENGER PASSIMBANG PASSIVE PASSPORT PASUQ PAT PATAK PATHAKKU"
  ]

/-- Part 4 of the words. -/
def words4 : List String :=
  [
    "PATHAMASAT PATTY PAU PAUK PAUSE PAVIYANI PAX PAY PAZER PC PD PDF PDI PEACH PEACOCK PEANUTS",
    "PEAR PEDESTRIANS PEEI PEEKING PEEM PEEP PEESHI PEEZI PEITH PENETRATION PENGKAL PENGUIN",
    "PENIHI PENNY PENSIVE PENSU PENTATHLON PEORTH PEREVODKA PERFECTUM PERFORMING PERMANENT",
    "PERMITTED PERNIN PERSEVERING PERSPECTIVE PERTHO PES PESETA PET PETASMA PETASTI",
    "PETASTOKOUFISMA PETRI PEUT PEUTAE PF PG PH PHAARKAA PHAB PHAGS PHAISTOS PHAM PHAN PHASE PHEE",
    "PHILIPPINE PHILOSOPHERS PHINTHU PHNAEK PHOA PHOENICIAN PHOLUS PHONES PHU PHUNG PHUTHAO PHWA",
    "PIANO PIASTRE PIASUTORU PICKET PICKUP PIEEQ PIEET PIEP PIET PIEX PIKO PIKURU PILE PILL",
    "PINARBORAS PINATA PINCHED PINCHING PINE PINEAPPLE PIPING PIR2 PIRACY PIRIEEN PISCES PISTOL",
    "PIX PIZZA PIZZICATO PLACARD PLAK PLANCK PLANET PLANT PLATE PLAYGROUND PLD PLEADING PLETHRON",
    "PLHAU PLOW PLU PLUG PLUK PLUM PLUMED PLUNGER PLURAL POA POCKET PODATUS PODCHASHIEM PODVERTKA",
    "POETIC POETRY POINTO POINTS POKRYTIE POLKULIZMY POLNAYA POLO POLUPOVODNAYA PONDO POODLE POON",
    "POPCORN POPPER POPPING PORRECTUS PORTABLE POSEIDON POSITIONS POSTBOX POSTPOSITION POTABLE",
    "POTTED POUCH POULTRY POURING POVODNY POWDER POWDERED POX POY PPA PPM PPV PR PRAYER PRECEDED",
    "PRECIPITATE PREFACE PRENKHA PRESCRIPTION PRESENT PRESET PRESSED PRETZEL PREVIOUS PRINCE",
    "PRINCESS PRINTS PRIVACY PRIZNAK PROBING PROFOUND PROGRAM PROGRESS PROHIBITED PROJECTION",
    "PROJECTIVE PROJECTOR PROOF PROPERTY PROPORTIONAL PROSERPINA PROTOVARYS PROVE PS PSALTER",
    "PSIFISTOLYGISMA PSIFISTOPARAKALESMA PSIFISTOSYNAGMA PSILON PTE PTHAHA PU1 PUACHUE PUAQ PUB",
    "PUBLIC PUCK PUFFED PUM PUMP PUNCTUS PUNG PUNGAAM PUO PUOP PUOX PUQ PUR PURIFY PURITY PURNAMA",
    "PURSE PURX PUSHING PUSHPIKA PUTNAYA PUTREFACTION PUUT PUX PUZZLE PV PW PWOY PY PYP PYR PYRX",
    "PYX PZ Q001 Q002 Q003 Q004 Q005 Q006 Q007 QAAFU QAAI QADMA QAIRTHRA QALA QAPH QAQ QARNEY QAU",
    "QAY QEE QETANA QGA QHA QHAA QHAU QHE QHEE QHI QHO QHOPH QHU QHWA QHWAA QHWE QHWEE QHWI QIE",
    "QIEP QIET QIEX QIF QIP QIT QIX QN QOA QOP QOPA QOX QP QUADCOLON QUANTITY QUATERNION QUBUTS",
    "QUDDISA QUESTIONED QUF QUICK QUINARIUS QUINCUNX QUINDICESIMA QUINTESSENCE QUINTILE QUK QUOP",
    "QUOT QUOX QUP QUR QURX QUSHSHAYA QUT QUUV QUX QWA QWAA QY QYA QYAA QYE QYEE QYI QYO QYP QYR",
    "QYRX QYT QYU QYX R001 R002 R002A R003 R003A R003B R004 R005 R006 R007 R008 R009 R010 R010A",
    "R011 R012 R013 R014 R015 R016 R016A R017 R018 R019 R020 R021 R022 R023 R024 R025 R026 R027",
    "R028 R029 RA2 RA3 RAAI RAB RACCOON RADIOACTIVE RAEM RAH RAHIMAHU RAHIMAHUM RAHMATULLAH RAI",
    "RAIDA RAIDO RAIL RAINBOW RAKHANG RAMBAT RAN RAPISMA RAQ RASHA RASOUL RASWADI RATA RATIO RAU",
    "RAVNO RAX RAYANNA RAZOR RAZSEKA RBASA READING REAHMUK REALGAR RECEIPT RECEPTIVE RECITATIVE",
    "RECORDER RECORDING RECREATIONAL RECYCLED REFERENCE REGIA REGIONAL REGISTERED REI REID REIWA",
    "REJANG RELAA RELATIONAL RELEASE RELIGION REMEDY REMINDER REMU RENTOGEN REP REPEATED REPH",
    "REPHA REPRESENT REREKAN RESIDENCE RESISTANCE RESOLUTION RESTRICTED RESTROOM RESUPINUS RETORT",
    "RETREAT REU REVIA REVMA REVOLUTION REX RH RHINOCEROS RHOTIC RIAL RICEM RICKSHAW RIEL RIFLE",
    "RIGHTHAND RIGVEDIC RIM RIMGBA RIN RINFORZANDO RINGED RINGING RIP RIPPLE RIRA RITTORU RITUAL",
    "RIVER RJES RLE RLI RLM RLO RMT RO2 ROA ROAR ROASTED ROBAT ROBOT ROD ROGOM ROLL ROLLED ROM",
    "ROOF ROOM ROOSTER ROP ROSE ROSH ROT ROWBOAT ROX RRAX RREP RRET RREX RROP RROT RROX RRRA RRU",
    "RRUO RRUOX RRUP RRUR RRURX RRUT RRUX RRY RRYP RRYR RRYRX RRYT RRYX RS RTE RTHANG RUA RUBLE",
    "RUE RUGBY RUIS RUKKAKHA RULAI RUMI RUN RUNIC RUNNER RUNOUT RUO RUOP RUOX RUP RUPII RUR RURX",
    "RUSI RUSSIAN RUT RUUBURU RUX RWAHA RWE RWEE RWI RWII RWO RWOO RYA RYP RYR RYRX RYT RYX RYY",
    "S001 S002 S002A S003 S004 S005 S006 S006A S007 S008 S009 S010 S011 S012 S013 S014 S014A",
    "S014B S015 S016 S017 S017A S018 S019 S020 S021 S022 S023 S024 S025 S026 S026A S026B S027",
    "S028 S029 S030 S031 S032 S033 S034 S035 S035A S036 S037 S038 S039 S040 S041 S042 S043 S044",
    "S045 S046 SAADHU SAAI SACRIFICIAL SAGA SAGITTARIUS SAIKURU SAIL SAILBOAT SAJDAH SAKE SAKEUAE",
    "SAKHA SAKIN SAKOT SAKTA SALA SALAAMUHU SALAD SALAM SALLALLAAHU SALLALLAHU SALUTING SAMKA",
    "SAMPHAO SAMVAT SAMYOK SANAH SAND SANDWICH SANGA2 SANNYA SANSKRIT SANTIIMU SANYOOGA SAPA SAQ",
    "SASH SATCHEL SATKAAN SATKAANKUU SATURN SAUCER SAUIL SAURASHTRA SAUROPOD SAVOURING SAWAN SAX",
    "SAXIMATA SAXOPHONE SBRUL SBUB SCALES SCAN SCARF SCEPTER SCHEMA SCHOLAR SCHROEDER SCI SCORE",
    "SCORPION SCORPIUS SCREAMING SCREWDRIVER SCROLL SCRUPLE SCWA SD SDONG SEAGULL SEAT SECRET",
    "SECTOR SEDNA SEEDLING SEENU SEEV SEGMENTED SELENA SELFIE SEMISEXTILE SEMIVOWEL SEMK SEMUNCIA",
    "SENTAGON SENTI SENTO SEP SEPARATED SEPTEMBER SEPTUPLE SEQUENCE SERIOUS SERVICE",
    "SESQUIQUADRATE SESTERTIUS SETFON SEUAEQ SEUNYAM SEVENTH SEVERANCE SEWING SEX SEXTANS SEXTANT",
    "SEXTILE SEYK SG SGC SGOR SGRA SH2 SHAB6 SHAK SHAKER SHAKTI SHALLOW SHALSHELET SHAMROCK SHAP",
    "SHAPE SHARA SHARADA SHARK SHAVED SHAVIAN SHAVIYANI SHAX SHAY SHCHOOI SHEENU SHEG9 SHEN SHEP",
    "SHEQEL SHESH2 SHESHLAM SHEUAE SHEUAEQ SHEUAEQTU SHEUOQ SHEVA SHEX SHIIN SHINDA SHINIG SHINTO",
    "SHIRAE SHIRT SHIYYAALAA SHOA SHOCKED SHOES SHOOI SHOOT SHOOTING SHORTCAKE SHORTENER",
    "SHORTHAND SHOT SHOU SHOULDERED SHOWER SHOX SHRA SHRAA SHRII SHRINE SHRO SHROO SHRUG SHUANGXI",
    "SHUBUR SHUENSHUET SHUEQ SHUFFLE SHUL SHUM SHUO SHUOP SHUOX SHUP SHURX SHUT SHUTTLECOCK SHUX",
    "SHV SHWOY SHYA SHYE SHYP SHYR SHYRX SHYT SHYX SIA SICKLE SICKNESS SIDDHI SIE SIEE SIEP SIEX",
    "SIGEL SIGNWRITING SIKI SILIQUA SILVER SIMANSIS SIMULTANEOUS SINDHI SINE SINGAAT SINKING",
    "SINOLOGICAL SINUSOID SIP SIRINGU SIRRAH SISA SIT SITE SK SKATEBOARD SKIER SKIN SKOBA SKUNK",
    "SKW SKWA SLAVE SLAVONIC SLED SLEEP SLEEPY SLEUTH SLIDE SLIDER SLIDING SLING SLOPE SLOPING",
    "SLOT SLOTH SLOWLY SLOZHITIE SMEAR SMIRKING SNA SNAIL SNAP SNEEZING SNOWBOARDER SOA SOCCER",
    "SOCKS SOFTBALL SOFTNESS SOFTWARE SOH SOLID SOMPENG SON SONG SONJAM SOON SOP SOQ SORA SORI",
    "SOUNAP SOW SOWILO SOX SOY SOYOMBO SPAGHETTI SPARKLER SPARKLES SPARKLING SPATHI SPE SPEAK",
    "SPEAKING SPEEDBOAT SPENT SPESMILO SPI SPICE SPIDER SPINE SPIRANT SPIRITUS SPLASHING",
    "SPLITTING SPO SPONGE SPOOL SPORTS SPOT SPOUTING SPRECHGESANG SPRING SPRINGS SPROUT SPUNGS",
    "SPWA SPY SQUEEZED SQUID SQUISH SR SS2 SS3 SSAA SSANGARAEA SSANGMIEUM SSANGTHIEUTH",
    "SSANGYEORINHIEUH SSANGYESIEUNG SSAP SSAT SSAX SSEE SSEP SSEX SSHE SSHIN SSIE SSIEP SSIEX",
    "SSIP SSIT SSIX SSOP SSOT SSOX SSUP SSUT SSUX SSY SSYP SSYR SSYRX SSYT SSYX ST2 STACCATISSIMO",
    "STACCATO STACKED STADIUM STALLION STAN STAND STANDING STANDSTILL STARK STARRED STARS",
    "STARTING STATE STATION STATUE STAUROS STAVROU STEAMING STEAMY STENOGRAPHIC STEREO",
    "STETHOSCOPE STILL STIMME STIRRUP STOPPAGE STOPPING STOPWATCH STOVE STRAGGISMATA STRAIF",
    "STRAIGHTNESS STRAINER STRATIAN STRAW STRAWBERRY STREAMER STRENGTH STRETCH STRICTLY STRIDE",
    "STRIKE STRIKETHROUGH STRIPE STS STUCK STUDIO STUFFED STUPA STWA STX SUAB SUAE SUAEN SUAET",
    "SUAM SUB SUBHAANAHU SUBITO SUBJECT SUBLIMATION SUBPUNCTIS SUCK SUCKING SUD SUD2 SUITABLE",
    "SUMASH SUMMER SUNFLOWER SUNSET SUO SUOP SUOX SUP SUPER SUPERFIXED SUPERHERO SUPERIMPOSED",
    "SUPERVILLAIN SUR9 SURE SURFER SURX SURYA SUSHI SUT SUTRA SUX SVETLO SVETLY SWAN SWG SWIMMER",
    "SWIMMING SWIMSUIT SWORD SWORDS SWUNG SWZ SY SYA SYI SYLOTI SYMMETRY SYN SYNAFI SYNAGOGUE",
    "SYNDESMOS SYNEVMA SYOUWA SYP SYR SYRINGE SYRMA SYRMATIKI SYRX SYSTEM SYT SYX SZ SZA SZAA SZE",
    "SZEE SZI SZO SZU SZWA SZWG SZZ T001 T002 T003 T003A T004 T005 T006 T007 T007A T008 T008A",
    "T009 T009A T010 T011 T011A T012 T013 T014 T015 T016 T016A T017 T018 T019 T020 T021 T022 T023",
    "T024 T025 T026 T027 T028 T029 T030 T031 T032 T032A T033 T033A T034 T035 T036 TA2 TAAALAA",
    "TAAF TAAI TAAM TAAQ TAASHAE TABAARAKA TABS TACO TAEN TAGALOG TAGBANWA TAHALA TAILLESS",
    "TAISYOU TAK TAKE TAKEOUT TAKHALLUS TAKRI TALENT TAMALE TAMAN TANA TANABATA TANG TANGERINE",
    "TANGSA TAO TAP TAPER TAQ TARTAR TARUNG TAS TASHEEL TASSI TATTOOED TAUM TAURUS TAVIYANI TAWA",
    "TAWELLEMET TAX TAY TEA TEACUP TEAPOT TEDDY TEEEE TEENS TEETH TEGEH TEIWS TEK TELESCOPE",
    "TELEVISION TELLER TELU TELUGU TEMPLE TEMPUS TENGE TENUTO TEP TERMINAL TESSARON TEST",
    "TETRAFONIAS TETRAGRAM TETRAPLI TEU TEUN TEUT TEUTEUWEN TEUTEUX TEVIR TEX THAALU THAANA",
    "THAHAN THAI THAJ THAMEDH THANNA THANTHAKHAT THAW THEA THEMATISMOS THERE THEREFORE",
    "THERMODYNAMIC THES THETH THEY THIAB THICK THIGH THING THINKING THITA THIUTH THOA THOJ THOM",
    "THOU THROWING THUNDERSTORM THUNG THURISAZ THURS THWE THWEE THWI THWII THWO THWOO THYOOM THZ",
    "TI2 TIARA TICKET TICKETS TIEP TIEX TIFINAGH TII TILES TILT TIMER TIN TINAGMA TINCTURE TING",
    "TINNE TIPEHA TIPPI TIRED TIRHUTA TIRTA TIRYAK TITUAEP TIWAZ TIWR TIX TLEE TLHEE TLHOO TLHU",
    "TLHWE TLHYA TN TOA TOANDAKHIAT TOCHKA TOILET TOKYO TOLONG TOMATO TOMPI TON TONG TOOLBOX TOON",
    "TOOTHBRUSH TORCH TORNADO TOS TOTO TOUCH TOUCHES TOURNOIS TOV TOWER TOX TR TRACKBALL TRACTOR",
    "TRADE TRADITIONAL TRAILING TRAM TRAMWAY TRANSMIT TRANSPLUTO TRANSVERSAL TRAP TRAPEZIUM",
    "TREADING TREDECILE TRESVETLO TRESVETLY TRI TRIA TRIFOLIATE TRIFONIAS TRIGORGON TRIGRAM",
    "TRIISAP TRILL TRILLIONS TRION TRIPLI TRIPOD TRITOS TRIUMPH TROLL TROLLEY TROLLEYBUS",
    "TROMIKOLYGISMA TROMIKOPARAKALESMA TROMIKOPSIFISTON TROMIKOSYNAGMA TROPHY TRUMP TRUMPET",
    "TRUNCATED TRUTH TRYASKA TRYASOGLASNAYA TRYASOPOVODNAYA TRYASOSTRELNAYA TRYBLION TSAA TSAADIY",
    "TSAB TSEEB TSERE TSHAB TSHEEJ TSHOOJ TSHUGS TSIU TSOV TSSA TSWA TSWB TT2 TTEE TTH TTHEE",
    "TTHOO TTHU TTHWE TTSA TTSE TTSEE TTSI TTSO TTSU TTTHA TTU TTUDDAG TUAE TUAEP TUB TUBE TUGRIK",
    "TUKWENTIS TULIP TUMAE TUMBLER TUMETES TUNNY TUO TUOP TUOX TUPNI TURKEY TURKIC TURKISH TURO2",
    "TURU TURX TUT TUTEYASAT TUTTY TUUMU TUX TUXEDO TVIMADUR TWELFTH TWISTED TWISTING TXA TXHEEJ",
    "TXWV TYA TYAY TYE TYI TYO TYR TZA TZAA TZE TZEE TZI TZIR TZO TZOA TZU U001 U002 U003 U004",
    "U005 U006 U006A U006B U007 U008 U009 U010 U011 U012 U013 U014 U015 U016 U017 U018 U019 U020",
    "U021 U022 U023 U023A U024 U025 U026 U027 U028 U029 U029A U030 U031 U032 U032A U033 U034 U035",
    "U036 U037 U038 U039 U040 U041 U042 UAN UANG UATH UBHAYATO UBUFILI UDAAT UDARKA UDUG UEA UEC",
    "UEE UEI UEN UEQ UEY UGARITIC UHD UIC UILLEANN UIQ UIUC UIUQ UIUX UIUZ UIX UIZ UKARA UMBIN",
    "UNA UNAMUSED UNAP UNASPIRATED UNBLENDED UNCERTAINTY UNCIA UNDERDOT UNDO UNEVEN UNG UNICORN",
    "UNIFORM UNITED UNITY UNKNOWN UNMARRIED UOG UON UOP UOX UPRIGHT UPSIDE UQ UR4 URA URI URI3",
    "URINE URN URUS URUZ USH2 USHENNA USHUMX USHX USSU USSU3 UTUKI UUU UUU2 UUU3 UUUU UUYANNA UWU",
    "UX UYANNA UYGHUR UZ UZ3 UZHAKKU UZU V001 V001A V001B V001C V001D V001E V001F V001G V001H",
    "V001I V002 V002A V003 V004 V005 V006 V007 V007A V007B V008 V009 V010 V011 V011A V011B V011C",
    "V012 V012A V012B V013 V014 V015 V016 V017 V018 V019 V020 V020A V020B V020C V020D V020E V020F",
    "V020G V020H V020I V020J V020K V020L V021 V022 V023 V023A V024 V025 V026 V027 V028 V028A V029",
    "V029A V030 V030A V031 V031A V032 V033 V033A V034 V035 V036 V037 V037A V038 V039 V040 V040A",
    "VAAVU VAI VAJ VAKAIYARAA VALLEY VAMAGOMUKHA VAMPIRE VAP VAPOURS VARAAKAN VAREIAI VARIKA",
    "VARYS VASTNESS VAT VATHY VAU VAX VAYANNA VC VECTOR VEHICLE VEIL VELI VER VERDIGRIS VERGE",
    "VERSICLE VESSEL VEST VESTA VEUAE VEUAEPEN VEUM VEUX VEX VEYZ VFA VHA VIBRATION VIDEOCASSETTE",
    "VIDJ VIE VIEP VIETNAMESE VIEWDATA VIEWER VIEWING VIEX VIGINTILE VILLAGE VIOLIN VIP VIRGA",
    "VIRGO VIRIAM VISARGAYA VIT VITAE VITHKUQI VITRIOL VIX VOCAL VOCALIZATION VOD VOICELESS VOID",
    "VOIDED VOLCANO VOLLEYBALL VOLTAGE VOLUME VOM VOMITING VOOI VOP VOT VOW VOX VQ VRAKHIYA VS",
    "VS1 VS10 VS100 VS101 VS102 VS103 VS104 VS105 VS106 VS107 VS108 VS109 VS11 VS110 VS111 VS112",
    "VS113 VS114 VS115 VS116 VS117 VS118 VS119 VS12 VS120 VS121 VS122 VS123 VS124 VS125 VS126",
    "VS127 VS128 VS129 VS13 VS130 VS131 VS132 VS133 VS134 VS135 VS136 VS137 VS138 VS139 VS14",
    "VS140 VS141 VS142 VS143 VS144 VS145 VS146 VS147 VS148 VS149 VS15 VS150 VS151 VS152 VS153",
    "VS154 VS155 VS156 VS157 VS158 VS159 VS16 VS160 VS161 VS162 VS163 VS164 VS165 VS166 VS167",
    "VS168 VS169 VS17 VS170 VS171 VS172 VS173 VS174 VS175 VS176 VS177 VS178 VS179 VS18 VS180",
    "VS181 VS182 VS183 VS184 VS185 VS186 VS187 VS188 VS189 VS19 VS190 VS191 VS192 VS193 VS194",
    "VS195 VS196 VS197 VS198 VS199 VS2 VS20 VS200 VS201 VS202 VS203 VS204 VS205 VS206 VS207 VS208",
    "VS209 VS21 VS210 VS211 VS212 VS213 VS214 VS215 VS216 VS217 VS218 VS219 VS22 VS220 VS221",
    "VS222 VS223 VS224 VS225 VS226 VS227 VS228 VS229 VS23 VS230 VS231 VS232 VS233 VS234 VS235",
    "VS236 VS237 VS238 VS239 VS24 VS240 VS241 VS242 VS243 VS244 VS245 VS246 VS247 VS248 VS249",
    "VS25 VS250 VS251 VS252 VS253 VS254 VS255 VS256 VS26 VS27 VS28 VS29 VS3 VS30 VS31 VS32 VS33",
    "VS34 VS35 VS36 VS37 VS38 VS39 VS4 VS40 VS41 VS42 VS43 VS44 VS45 VS46 VS47 VS48 VS49 VS5 VS50",
    "VS51 VS52 VS53 VS54 VS55 VS56 VS57 VS58 VS59 VS6 VS60 VS61 VS62 VS63 VS64 VS65 VS66 VS67",
    "VS68 VS69 VS7 VS70 VS71 VS72 VS73 VS74 VS75 VS76 VS77 VS78 VS79 VS8 VS80 VS81 VS82 VS83 VS84",
    "VS85 VS86 VS87 VS88 VS89 VS9 VS90 VS91 VS92 VS93 VS94 VS95 VS96 VS97 VS98 VS99 VT VTS VUEQ",
    "VULCANUS VUP VURX VUT VUX VW VWA VWJ VX VYP VYR VYRX VYT VYX VZ VZMET W001 W002 W003 W003A",
    "W004 W005 W006 W007 W008 W009 W009A W010 W010A W011 W012 W013 W014 W014A W015 W016 W017",
    "W017A W018 W018A W019 W020 W021 W022 W023 W024 W024A W025 WAAALIHEE WAAJIB WAAVU WADDA WAEN",
    "WAFFLE WAI WAIST WALLPLANE WAN WANCHO WAND WANDERER WANGKUOQ WAQFA WARANG WARNING WAS",
    "WASSALLAM WASTEBASKET WASTING WAT WATERMELON WATTO WB WEAPON WEB WEDDING WEEN WEIERSTRASS",
    "WELL WEN WEP WET WEUX WEX WG WH WHEELED WIANG WIANGWAAK WIDENING WIGGLES WIGNYAN WILTED WIN",
    "WINGS WINJA WINK WINTER WIRED WJ WOA WOE WOLF WOMEN WOMENS WOON WOP WORDSPACE WORKER WORLD",
    "WORM WORRIED WORSHIP WOW WOX WRAP WRAPPED WREATH WRESTLERS WRONG WRY WUAEN WUAET WUI WULU",
    "WUN WUNJO WUOP WUOX WUP WVA WVE WVI WZ X001 X002 X003 X004 X004A X004B X005 X006 X006A X007",
    "X008 X008A XAA XAPH XAU XAUS XEE XESTES XEYN XG XHEYN XIAB XIANGQI XIE XIEP XIET XIEX XIP",
    "XIRON XIT XIX XOA XOP XOPH XOR XOT XOX XSHAAYATHIYA XU XUO XUOX XVE XWA XWAA XWE XWEE XWI XY",
    "XYAA XYEE XYEEM XYI XYO XYOO XYOOJ XYP XYR XYRX XYT XYU XYX Y001 Y001A Y002 Y003 Y004 Y005",
    "Y006 Y007 Y008 YAADO YAAI YAARU YAB YABH YACH YAD YADD YADDH YADH YAEMMAE YAF YAFU YAG YAGHH",
    "YAGN YAHH YAKASH YAKHH YAL YAMAKKAN YAMOK YARN YARR YAS YASH YASS YATH YATT YAU YAV YAW",
    "YAWNING YAYANNA YAYD YAZZ YEA YEEG YEIN YENAP YERAH YETIV YEUAE YEUAET YEUM YEUQ YEURAE YEUX",
    "YEW YEY YEZIDI YFEN YHA YIEE YIEP YIET YIEX YIH YII YING YIP YIX YIZET YOA YOMO YOP YORI YOU",
    "YOUTHFUL YOUTHFULNESS YOWD YOX YOY YPOKRISIS YPORROI YPSILI YRY YUAEN YUAN YUDH YUE YUEQ YUI",
    "YUN YUO YUOM YUOT YUOX YUP YUR YURX YUUKALEAPINTU YUX YYAA YYE YYP YYR YYRX YYT YYX Z001",
    "Z002 Z002A Z002B Z002C Z002D Z003 Z003A Z003B Z004 Z004A Z005 Z005A Z006 Z007 Z008 Z009 Z010",
    "Z011 Z012 Z013 Z014 Z015 Z015A Z015B Z015C Z015D Z015E Z015F Z015G Z015H Z015I Z016 Z016A",
    "Z016B Z016C Z016D Z016E Z016F Z016G Z016H ZAEF ZAG ZAI ZAKRYTAYA ZAKRYTOE ZAMX ZANABAZAR",
    "ZANOZHEK ZAP ZAPYATYMI ZAQEF ZARL ZARQA ZAT ZAVIYANI ZAX ZE2 ZEBRA ZELO ZEP ZEUS ZEVOK ZEX",
    "ZH ZHAA ZHAIN ZHAP ZHAT ZHAX ZHAYIN ZHEP ZHET ZHEX ZHIL ZHOI ZHOO ZHOP ZHOT ZHOX ZHUO ZHUOP",
    "ZHUOX ZHUP ZHUR ZHURX ZHUT ZHUX ZHWA ZHY ZHYP ZHYR ZHYRX ZHYT ZHYX ZI3 ZIB ZIE ZIEP ZIEX ZIG",
    "ZILDE ZINOR ZIP ZIPPER ZIQAA ZIT ZIX ZLAMA ZMEYTSA ZNAMENNY ZOA ZOMBIE ZOP ZOX ZQAPHA ZRA",
    "ZSA ZSHA ZUBUR ZUM ZUO ZUOP ZUOX ZURX ZUT ZUX ZWA ZWARAKAY ZWNBSP ZWNJ ZWSP ZYGOS ZYP ZYR",
    "ZYRX ZYT ZYX ZZAA ZZAP ZZAT ZZAX ZZEE ZZEP ZZEX ZZIE ZZIEP ZZIEX ZZIP ZZIT ZZIX ZZOP ZZOX",
    "ZZSA ZZSYA ZZUP ZZUR ZZURX ZZUX ZZY ZZYA ZZYP ZZYR ZZYRX ZZYT ZZYX -001 -002 -004 -005 -006",
    "-007 -008 -009 -010 -011 -012 -013 -014 -015 -016 -017 -018 -019 -022 -023 -024 -026 -027",
    "-028 -029 -031 -032 -033 -034 -035 -036 -037 -038 -039 -040 -041 -042 -043 -044 -045 -046",
    "-047 -048 -049 -052 -053 -054 -055 -056 -057 -058 -059 -060 -061 -063 -064 -065 -066 -067",
    "-068 -069 -070 -071 -072 -073 -074 -075 -076 -077 -078 -082 -083 -084 -085 -086 -087 -088",
    "-089 -090 -091 -093 -094 -095 -096 -097 -098 -099 -123456 -1234567 -12345678 -1234568",
    "-123457 -1234578 -123458 -123467 -1234678 -123468 -12347 -123478 -12348 -123567 -1235678",
    "-123568 -12357 -123578 -12358 -12367 -123678 -12368 -1237 -12378 -1238 -124567 -1245678",
    "-124568 -12457 -124578 -12458 -12467 -124678 -12468 -1247 -12478 -1248 -12567 -125678 -12568",
    "-1257 -12578 -1258 -1267 -12678 -1268 -1278 -134567 -1345678 -134568 -13457 -134578 -13458",
    "-13467 -134678 -13468 -1347 -13478 -1348 -13567 -135678 -13568 -1357 -13578 -1367 -13678",
    "-1368 -1378 -14567 -145678 -14568 -1457 -14578 -1458 -1467 -14678 -1468 -1478 -1567 -15678",
    "-1568 -1578 -1678 -234567 -2345678 -234568 -23457 -234578 -23458 -23467 -234678 -23468 -2347",
    "-23478 -2348 -23567 -235678 -23568 -2357 -23578 -2358 -2367 -23678 -2368 -2378 -24567",
    "-245678 -24568 -2457 -24578 -2458 -2467 -24678 -2468 -2478 -2567 -25678 -2568 -2578 -259",
    "-260 -261 -262 -263 -264 -2678 -269 -270 -271 -272 -273 -274 -275 -276 -277 -279 -280 -281",
    "-282 -283 -284 -285 -286 -287 -288 -289 -290 -291 -292 -293 -294 -295 -296 -297 -298 -299",
    "-300 -301 -302 -303 -304 -305 -306 -307 -308 -309 -31 -310 -311 -312 -313 -314 -315 -316",
    "-317 -318 -319 -320 -321 -322 -323 -324 -325 -326 -327 -328 -329 -33 -330 -331 -332 -333",
    "-334 -335 -336 -337 -338 -339 -340 -341 -342 -344 -34567 -345678 -34568 -3457 -34578 -3458",
    "-3467 -34678 -3468 -3478 -349 -350 -351 -352 -353 -354 -355 -3567 -35678 -3568 -3578 -359",
    "-360 -361 -362 -363 -364 -365 -366 -3678 -369 -370 -371 -372 -373 -374 -375 -376 -377 -379",
    "-380 -381 -382 -385 -386 -387 -388 -389 -391 -392 -393 -394 -395 -396 -397 -398 -399 -400",
    "-401 -402 -403 -404 -405 -406 -407 -408 -409 -41 -410 -411 -412 -413 -414 -415 -416 -417",
    "-418 -419 -420 -421 -422 -423 -424 -425 -426 -427 -428 -429 -430 -431 -432 -433 -434 -435",
    "-436 -437 -438 -439 -44 -440 -442 -443 -444 -445 -446 -447 -448 -451 -452 -453 -454 -455",
    "-4567 -45678 -4568 -4578 -459 -460 -461 -462 -463 -464 -465 -466 -4678 -469 -471 -472 -473",
    "-474 -475 -476 -477 -479 -480 -481 -482 -484 -485 -486 -487 -488 -489 -491 -494 -496 -497",
    "-498 -499 -4E00 -4E2D -4EA4 -500 -501 -502 -503 -504 -505 -506 -507 -508 -509 -510 -511 -512",
    "-513 -514 -515 -516 -517 -518 -518D -519 -520 -521 -521D -522 -523 -524 -524D -525 -526 -527",
    "-5272 -528 -529 -52DD -530 -531 -532 -533 -534 -535 -536 -537 -538 -539 -53CC -53F3 -540",
    "-5408 -541 -542 -543 -5439 -544 -545 -546 -547 -548 -549 -55 -551 -552 -553 -554 -555 -556",
    "-557 -558 -559 -55B6 -560 -561 -562 -563 -564 -565 -566 -5678 -569 -570 -571 -572 -573 -574",
    "-575 -576 -577 -579 -580 -581 -582 -583 -584 -585 -586 -587 -588 -589 -58F0 -59 -590 -591"
  ]

/-- Part 5 of the words. -/
def words5 : List String :=
  [
    "-591A -592 -5929 -593 -594 -595 -596 -597 -598 -599 -5B57 -5B89 -5DE6 -5F8C -60 -600 -601",
    "-602 -603 -604 -605 -606 -607 -609 -61 -610 -611 -612 -613 -614 -615 -616 -618 -619 -62 -620",
    "-621 -622 -623 -624 -624B -625 -626 -627 -628 -629 -6295 -63 -630 -6307 -631 -632 -633 -634",
    "-635 -6355 -637 -638 -639 -64 -640 -641 -642 -643 -644 -645 -646 -647 -649 -65 -650 -651",
    "-652 -653 -654 -655 -6557 -656 -657 -658 -659 -6599 -65B0 -66 -660 -661 -662 -6620 -663 -664",
    "-665 -666 -667 -669 -670 -6708 -6709 -671 -672 -672C -673 -674 -675 -676 -677 -679 -680 -681",
    "-682 -683 -684 -685 -686 -687 -688 -689 -69 -690 -691 -692 -693 -694 -695 -696 -697 -698",
    "-699 -6E80 -6F14 -70 -700 -701 -702 -703 -704 -705 -706 -707 -708 -709 -70B9 -71 -710 -711",
    "-712 -7121 -713 -714 -715 -716 -717 -718 -719 -72 -720 -721 -722 -723 -725 -726 -727 -728",
    "-729 -73 -730 -731 -732 -733 -734 -735 -736 -737 -738 -739 -74 -740 -741 -742 -743 -744 -745",
    "-746 -747 -748 -75 -750 -751 -751F -752 -753 -7533 -754 -755 -756 -757 -758 -759 -76 -760",
    "-761 -762 -763 -764 -765 -766 -767 -768 -76D7 -77 -79 -7981 -7A7A -7D42 -80 -81 -82 -83 -84",
    "-85 -86 -87 -88 -89 -89E3 -8CA9 -8D70 -90 -904A -91 -914D -92 -93 -94 -95 -96 -97 -98 -99",
    "-AALIH -AFRICA -AKAT -ALAF -AMMONIAC -ARAEA -AUSTRALIA -BANDAGE -BARBED -BARRED -BEAM",
    "-BJARKAN -BREAKING -BREVE -C -CARRIER -CHAL -CHAR -CIRCUIT -COPPER -CURRENCY -DE -DELAYED",
    "-DIAGONAL -DO -DOT -EIGHT -ENDED -ESASA -F -FEEDING -FINAL -FOURTHS -FUNCTION -G -GAAHLAA",
    "-HA -HEELED -HETH -HIDET -ISEN -J -JOINER -JUZ -KARA -KE -KHYUD -KI -KO -L -LAKUNA -LANTERN",
    "-LIS -LUE -M -MA -MAIL -MID -MINOAN -MO -MU -N -NAUD -NIGHT -NINE -NISF -OR -OUT -OUTLINED",
    "-PA -PHRU -PIECE -PLUS -POINTED -POTABLE -PROFILE -PULL -QUARTER -RA -RAHEEM -RAHMAN -RAY",
    "-RECYCLED -RES -REX -RING -ROTATED -ROUND -RUB -S -SAJDA -SALAATU -SALLAM -SCHWA -SEVEN",
    "-SHANKED -SHIRT -SIDED -SIX -SLAVEY -SPANISH -SPEED -SSANGNIEUN -SSANGTIKEUT -STAGE -TAAALAA",
    "-THALATHA -TIPPED -TREE -TWENTIETH -TYR -UM -V -W -WO -X -YESIEUNG -YODH -YU"
  ]

end CodeIndex.CharName
