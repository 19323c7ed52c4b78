/-! Names of characters from U+1B000 on. -/
namespace CardPress.Text

/-- Each name behind the code of its character, which is left out if it is one more than the last,
and behind the number of words that it begins with like the name before it. -/
def pictureNames : String :=
  String.join [
    "=1b000 0KATAKANA LETTER ARCHAIC E,0HIRAGANA LETTER ARCHAIC YE,=1b001 0HENTAIGANA LETTER E-1,",
    "2A-1,2A-2,2A-3,2A-WO,2I-1,2I-2,2I-3,2I-4,2U-1,2U-2,2U-3,2U-4,2U-5,2E-2,2E-3,2E-4,2E-5,2E-6,2",
    "O-1,2O-2,2O-3,2KA-1,2KA-2,2KA-3,2KA-4,2KA-5,2KA-6,2KA-7,2KA-8,2KA-9,2KA-10,2KA-11,2KA-KE,2KI",
    "-1,2KI-2,2KI-3,2KI-4,2KI-5,2KI-6,2KI-7,2KI-8,2KU-1,2KU-2,2KU-3,2KU-4,2KU-5,2KU-6,2KU-7,2KE-1",
    ",2KE-2,2KE-3,2KE-4,2KE-5,2KE-6,2KO-1,2KO-2,2KO-3,2KO-KI,2SA-1,2SA-2,2SA-3,2SA-4,2SA-5,2SA-6,",
    "2SA-7,2SA-8,2SI-1,2SI-2,2SI-3,2SI-4,2SI-5,2SI-6,2SU-1,2SU-2,2SU-3,2SU-4,2SU-5,2SU-6,2SU-7,2S",
    "U-8,2SE-1,2SE-2,2SE-3,2SE-4,2SE-5,2SO-1,2SO-2,2SO-3,2SO-4,2SO-5,2SO-6,2SO-7,2TA-1,2TA-2,2TA-",
    "3,2TA-4,2TI-1,2TI-2,2TI-3,2TI-4,2TI-5,2TI-6,2TI-7,2TU-1,2TU-2,2TU-3,2TU-4,2TU-TO,2TE-1,2TE-2",
    ",2TE-3,2TE-4,2TE-5,2TE-6,2TE-7,2TE-8,2TE-9,2TO-1,2TO-2,2TO-3,2TO-4,2TO-5,2TO-6,2TO-RA,2NA-1,",
    "2NA-2,2NA-3,2NA-4,2NA-5,2NA-6,2NA-7,2NA-8,2NA-9,2NI-1,2NI-2,2NI-3,2NI-4,2NI-5,2NI-6,2NI-7,2N",
    "I-TE,2NU-1,2NU-2,2NU-3,2NE-1,2NE-2,2NE-3,2NE-4,2NE-5,2NE-6,2NE-KO,2NO-1,2NO-2,2NO-3,2NO-4,2N",
    "O-5,2HA-1,2HA-2,2HA-3,2HA-4,2HA-5,2HA-6,2HA-7,2HA-8,2HA-9,2HA-10,2HA-11,2HI-1,2HI-2,2HI-3,2H",
    "I-4,2HI-5,2HI-6,2HI-7,2HU-1,2HU-2,2HU-3,2HE-1,2HE-2,2HE-3,2HE-4,2HE-5,2HE-6,2HE-7,2HO-1,2HO-",
    "2,2HO-3,2HO-4,2HO-5,2HO-6,2HO-7,2HO-8,2MA-1,2MA-2,2MA-3,2MA-4,2MA-5,2MA-6,2MA-7,2MI-1,2MI-2,",
    "2MI-3,2MI-4,2MI-5,2MI-6,2MI-7,2MU-1,2MU-2,2MU-3,2MU-4,2ME-1,2ME-2,2ME-MA,2MO-1,2MO-2,2MO-3,2",
    "MO-4,2MO-5,2MO-6,2YA-1,2YA-2,2YA-3,2YA-4,2YA-5,2YA-YO,2YU-1,2YU-2,2YU-3,2YU-4,2YO-1,2YO-2,2Y",
    "O-3,2YO-4,2YO-5,2YO-6,2RA-1,2RA-2,2RA-3,2RA-4,2RI-1,2RI-2,2RI-3,2RI-4,2RI-5,2RI-6,2RI-7,2RU-",
    "1,2RU-2,2RU-3,2RU-4,2RU-5,2RU-6,2RE-1,2RE-2,2RE-3,2RE-4,2RO-1,2RO-2,2RO-3,2RO-4,2RO-5,2RO-6,",
    "2WA-1,2WA-2,2WA-3,2WA-4,2WA-5,2WI-1,2WI-2,2WI-3,2WI-4,2WI-5,2WE-1,2WE-2,2WE-3,2WE-4,2WO-1,2W",
    "O-2,2WO-3,2WO-4,2WO-5,2WO-6,2WO-7,2N-MU-MO-1,2N-MU-MO-2,0HIRAGANA LETTER ARCHAIC WU,0KATAKAN",
    "A LETTER ARCHAIC YI,3YE,3WU,=1b150 0HIRAGANA LETTER SMALL WI,3WE,3WO,=1b164 0KATAKANA LETTE",
    "R SMALL WI,3WE,3WO,3N,=1bc00 0DUPLOYAN LETTER H,2X,2P,2T,2F,2K,2L,2B,2D,2V,2G,2R,2P N,2D S,2",
    "F N,2K M,2R S,2TH,2SLOAN DH,2DH,2KK,2SLOAN J,2HL,2LH,2RH,2M,2N,2J,2S,2M N,2N M,2J M,2S J,2M ",
    "WITH DOT,2N WITH DOT,2J WITH DOT,4DOTS INSIDE AND ABOVE,2S WITH DOT,5BELOW,2M S,2N S,2J S,2",
    "S S,2M N S,2N M S,2J M S,2S J S,2J S WITH DOT,3N,4S,2S T,4R,3P,4R,2T S,3R S,2W,2WH,2W R,2S N",
    ",3M,2K R S,2G R S,2S K,4R,2A,2SLOAN OW,2OA,2O,2AOU,2I,2E,2IE,2SHORT I,2UI,2EE,2SLOAN EH,2ROM",
    "ANIAN I,2SLOAN EE,2LONG I,2YE,2U,2EU,2XW,2U N,2LONG U,2ROMANIAN U,2UH,2SLOAN U,2OOH,2OW,2OU,",
    "2WA,2WO,2WI,2WEI,2WOW,2NASAL U,3O,3I,3A,2PERNIN AN,3AM,2SLOAN EN,3AN,3ON,2VOCALIC M,=1bc70 1",
    "AFFIX LEFT HORIZONTAL SECANT,2MID HORIZONTAL SECANT,2RIGHT HORIZONTAL SECANT,2LOW VERTICAL S",
    "ECANT,2MID VERTICAL SECANT,2HIGH VERTICAL SECANT,2ATTACHED SECANT,3LEFT-TO-RIGHT SECANT,3TAN",
    "GENT,3TAIL,3E HOOK,3I HOOK,3TANGENT HOOK,=1bc80 2HIGH ACUTE,3TIGHT ACUTE,3GRAVE,3LONG GRAVE,",
    "3DOT,3CIRCLE,3LINE,3WAVE,3VERTICAL,=1bc90 2LOW ACUTE,3TIGHT ACUTE,3GRAVE,3LONG GRAVE,3DOT,3C",
    "IRCLE,3LINE,3WAVE,3VERTICAL,3ARROW,=1bc9c 1SIGN O WITH CROSS,1THICK LETTER SELECTOR,1DOUBLE ",
    "MARK,1PUNCTUATION CHINOOK FULL STOP,0SHORTHAND FORMAT LETTER OVERLAP,2CONTINUING OVERLAP,2DO",
    "WN STEP,2UP STEP,=1cf00 0ZNAMENNY COMBINING MARK GORAZDO NIZKO S KRYZHEM ON LEFT,3NIZKO S KR",
    "YZHEM ON LEFT,3TSATA ON LEFT,3GORAZDO NIZKO ON LEFT,3NIZKO ON LEFT,3SREDNE ON LEFT,3MALO POV",
    "YSHE ON LEFT,3POVYSHE ON LEFT,3VYSOKO ON LEFT,3MALO POVYSHE S KHOKHLOM ON LEFT,3POVYSHE S KH",
    "OKHLOM ON LEFT,3VYSOKO S KHOKHLOM ON LEFT,3GORAZDO NIZKO S KRYZHEM ON RIGHT,3NIZKO S KRYZHE",
    "M ON RIGHT,3TSATA ON RIGHT,3GORAZDO NIZKO ON RIGHT,3NIZKO ON RIGHT,3SREDNE ON RIGHT,3MALO PO",
    "VYSHE ON RIGHT,3POVYSHE ON RIGHT,3VYSOKO ON RIGHT,3MALO POVYSHE S KHOKHLOM ON RIGHT,3POVYSH",
    "E S KHOKHLOM ON RIGHT,3VYSOKO S KHOKHLOM ON RIGHT,3TSATA S KRYZHEM,3MALO POVYSHE S KRYZHEM,3",
    "STRANNO MALO POVYSHE,3POVYSHE S KRYZHEM,4STRANNO,3VYSOKO S KRYZHEM,3MALO POVYSHE STRANNO,3GO",
    "RAZDO VYSOKO,3ZELO,3ON,3RAVNO,3TIKHAYA,3BORZAYA,3UDARKA,3PODVERTKA,3LOMKA,3KUPNAYA,3KACHKA,3",
    "ZEVOK,3SKOBA,3RAZSEKA,3KRYZH ON LEFT,=1cf30 2TONAL RANGE MARK MRACHNO,5SVETLO,5TRESVETLO,2MA",
    "RK ZADERZHKA,3DEMESTVENNY ZADERZHKA,3OTSECHKA,3PODCHASHIE,4WITH VERTICAL STROKE,3CHASHKA,4PO",
    "LNAYA,3OBLACHKO,3SOROCHYA NOZHKA,3TOCHKA,3DVOETOCHIE,2ATTACHING VERTICAL OMET,2MARK CURVED O",
    "MET,3KRYZH,2LOWER TONAL RANGE INDICATOR,1PRIZNAK MODIFIER LEVEL-2,3LEVEL-3,3DIRECTION FLIP,3",
    "KRYZH,3ROG,=1cf50 1NEUME KRYUK,3TIKHY,2PARAKLIT,2DVA V CHELNU,2KLYUCH,2ZANOZHEK,2STOPITSA,3",
    "S OCHKOM,2PEREVODKA,3NEPOSTOYANNAYA,2STOPITSA WITH SOROCHYA NOZHKA,2CHELYUSTKA,2PALKA,2ZAPYA",
    "TAYA,2GOLUBCHIK BORZY,3TIKHY,3MRACHNY,3SVETLY,3TRESVETLY,2VRAKHIYA PROSTAYA,3MRACHNAYA,3SVET",
    "LAYA,3TRESVETLAYA,3KLYUCHEVAYA PROSTAYA,4MRACHNAYA,4SVETLAYA,4TRESVETLAYA,2DOUBLE ZAPYATAYA,",
    "2REVERSED CHELYUSTKA,2DERBITSA,2KHAMILO,2CHASHKA,2PODCHASHIE,2SKAMEYTSA MRACHNAYA,3SVETLAYA,",
    "3TRESVETLAYA,3TIKHAYA,2DEMESTVENNY KLYUCH,2SKAMEYTSA KLYUCHEVAYA SVETLAYA,3KLYUCHENEPOSTOYAN",
    "NAYA,3KLYUCHEVAYA TIKHAYA,3DVOECHELNAYA PROSTAYA,4SVETLAYA,4NEPOSTOYANNAYA,4KLYUCHEVAYA,2SLO",
    "ZHITIE,3S ZAPYATOY,3ZAKRYTOE,3S KRYZHEM,2KRYZH,2ROG,2FITA,2KOBYLA,2ZMEYTSA,2STATYA,3S ZAPYAT",
    "OY,4KRYZHEM,4ZAPYATOY I KRYZHEM,4KRYZHEM I ZAPYATOY,3ZAKRYTAYA,4S ZAPYATOY,3S ROGOM,4DVUMYA ",
    "ZAPYATYMI,4ZAPYATOY I PODCHASHIEM,2POLKULIZMY,2STATYA NEPOSTOYANNAYA,2STRELA PROSTAYA,3MRACH",
    "NOTIKHAYA,3KRYZHEVAYA,3POLUPOVODNAYA,3POVODNAYA,3NEPOSTOYANNAYA,3KLYUCHEPOVODNAYA,3KLYUCHENE",
    "POSTOYANNAYA,3TIKHAYA PUTNAYA,3DVOECHELNAYA,3DVOECHELNOKRYZHEVAYA,3DVOECHELNOPOVODNAYA,3DVOE",
    "CHELNAYA KLYUCHEVAYA,3DVOECHELNOPOVODNAYA KLYUCHEVAYA,3GROMNAYA WITH SINGLE ZAPYATAYA,3GROMO",
    "POVODNAYA WITH SINGLE ZAPYATAYA,3GROMNAYA,3GROMOPOVODNAYA,4WITH DOUBLE ZAPYATAYA,3GROMOKRYZH",
    "EVAYA,4POVODNAYA,2MECHIK,3POVODNY,3KLYUCHEVOY,3KLYUCHEPOVODNY,3KLYUCHENEPOSTOYANNY,2STRELA T",
    "RYASOGLASNAYA,3TRYASOPOVODNAYA,3TRYASOSTRELNAYA,2OSOKA,3SVETLAYA,3TRESVETLAYA,3KRYUKOVAYA SV",
    "ETLAYA,3KLYUCHEVAYA SVETLAYA,4NEPOSTOYANNAYA,2STRELA KRYUKOVAYA,4POVODNAYA,4GROMNAYA WITH SI",
    "NGLE ZAPYATAYA,4GROMOPOVODNAYA WITH SINGLE ZAPYATAYA,4GROMNAYA,4GROMOPOVODNAYA,5WITH DOUBLE ",
    "ZAPYATAYA,4GROMOKRYZHEVAYA,5POVODNAYA,4TRYASKA,2KUFISMA,2OBLAKO,2DUDA,2NEMKA,2PAUK,=1d000 0B",
    "YZANTINE MUSICAL SYMBOL PSILI,3DASEIA,3PERISPOMENI,3OXEIA EKFONITIKON,4DIPLI,3VAREIA EKFONIT",
    "IKON,4DIPLI,3KATHISTI,3SYRMATIKI,3PARAKLITIKI,3YPOKRISIS,4DIPLI,3KREMASTI,3APESO EKFONITIKON",
    ",3EXO EKFONITIKON,3TELEIA,3KENTIMATA,3APOSTROFOS,4DIPLI,3SYNEVMA,3THITA,3OLIGON ARCHAION,3GO",
    "RGON ARCHAION,3PSILON,3CHAMILON,3VATHY,3ISON ARCHAION,3KENTIMA ARCHAION,3KENTIMATA ARCHAION,",
    "3SAXIMATA,3PARICHON,3STAVROS APODEXIA,3OXEIAI ARCHAION,3VAREIAI ARCHAION,3APODERMA ARCHAION,",
    "3APOTHEMA,3KLASMA,3REVMA,3PIASMA ARCHAION,3TINAGMA,3ANATRICHISMA,3SEISMA,3SYNAGMA ARCHAION,4",
    "META STAVROU,3OYRANISMA ARCHAION,3THEMA,3LEMOI,3DYO,3TRIA,3TESSERA,3KRATIMATA,3APESO EXO NEO",
    ",3FTHORA ARCHAION,3IMIFTHORA,3TROMIKON ARCHAION,3KATAVA TROMIKON,3PELASTON,3PSIFISTON,3KONTE",
    "VMA,3CHOREVMA ARCHAION,3RAPISMA,3PARAKALESMA ARCHAION,3PARAKLITIKI ARCHAION,3ICHADIN,3NANA,3",
    "PETASMA,3KONTEVMA ALLO,3TROMIKON ALLO,3STRAGGISMATA,3GRONTHISMATA,3ISON NEO,3OLIGON NEO,3OXE",
    "IA NEO,3PETASTI,3KOUFISMA,3PETASTOKOUFISMA,3KRATIMOKOUFISMA,3PELASTON NEO,3KENTIMATA NEO ANO",
    ",3KENTIMA NEO ANO,3YPSILI,3APOSTROFOS NEO,3APOSTROFOI SYNDESMOS NEO,3YPORROI,3KRATIMOYPORROO",
    "N,3ELAFRON,3CHAMILI,3MIKRON ISON,3VAREIA NEO,3PIASMA NEO,3PSIFISTON NEO,3OMALON,3ANTIKENOMA,",
    "3LYGISMA,3PARAKLITIKI NEO,3PARAKALESMA NEO,3ETERON PARAKALESMA,3KYLISMA,3ANTIKENOKYLISMA,3TR",
    "OMIKON NEO,3EKSTREPTON,3SYNAGMA NEO,3SYRMA,3CHOREVMA NEO,3EPEGERMA,3SEISMA NEO,3XIRON KLASMA",
    ",3TROMIKOPSIFISTON,3PSIFISTOLYGISMA,3TROMIKOLYGISMA,3TROMIKOPARAKALESMA,3PSIFISTOPARAKALESMA",
    ",3TROMIKOSYNAGMA,3PSIFISTOSYNAGMA,3GORGOSYNTHETON,3ARGOSYNTHETON,3ETERON ARGOSYNTHETON,3OYRA",
    "NISMA NEO,3THEMATISMOS ESO,4EXO,3THEMA APLOUN,3THES KAI APOTHES,3KATAVASMA,3ENDOFONON,3YFEN ",
    "KATO,4ANO,3STAVROS,3KLASMA ANO,3DIPLI ARCHAION,3KRATIMA ARCHAION,4ALLO,4NEO,3APODERMA NEO,3A",
    "PLI,3DIPLI,3TRIPLI,3TETRAPLI,3KORONIS,3LEIMMA ENOS CHRONOU,4DYO CHRONON,4TRION CHRONON,4TESS",
    "ARON CHRONON,4IMISEOS CHRONOU,3GORGON NEO ANO,4PARESTIGMENON ARISTERA,5DEXIA,3DIGORGON,4PARE",
    "STIGMENON ARISTERA KATO,6ANO,5DEXIA,3TRIGORGON,3ARGON,3IMIDIARGON,3DIARGON,3AGOGI POLI ARGI,",
    "4ARGOTERI,4ARGI,4METRIA,4MESI,4GORGI,4GORGOTERI,4POLI GORGI,3MARTYRIA PROTOS ICHOS,4ALLI PRO",
    "TOS ICHOS,4DEYTEROS ICHOS,4ALLI DEYTEROS ICHOS,4TRITOS ICHOS,4TRIFONIAS,4TETARTOS ICHOS,5LEG",
    "ETOS ICHOS,4LEGETOS ICHOS,4PLAGIOS ICHOS,3ISAKIA TELOUS ICHIMATOS,3APOSTROFOI TELOUS ICHIMAT",
    "OS,3FANEROSIS TETRAFONIAS,4MONOFONIAS,4DIFONIAS,3MARTYRIA VARYS ICHOS,4PROTOVARYS ICHOS,4PLA",
    "GIOS TETARTOS ICHOS,3GORTHMIKON N APLOUN,5DIPLOUN,3ENARXIS KAI FTHORA VOU,3IMIFONON,3IMIFTHO",
    "RON,3FTHORA ARCHAION DEYTEROU ICHOU,4DIATONIKI PA,5NANA,4NAOS ICHOS,4DIATONIKI DI,4SKLIRON D",
    "IATONON DI,4DIATONIKI KE,5ZO,5NI KATO,6ANO,4MALAKON CHROMA DIFONIAS,6MONOFONIAS,3FHTORA SKLI",
    "RON CHROMA VASIS,=1d0c5 3FTHORA SKLIRON CHROMA VASIS,6SYNAFI,4NENANO,3CHROA ZYGOS,4KLITON,4S",
    "PATHI,3FTHORA I YFESIS TETARTIMORION,4ENARMONIOS ANTIFONIA,3YFESIS TRITIMORION,3DIESIS TRITI",
    "MORION,4TETARTIMORION,4APLI DYO DODEKATA,4MONOGRAMMOS TESSERA DODEKATA,4DIGRAMMOS EX DODEKAT",
    "A,4TRIGRAMMOS OKTO DODEKATA,3YFESIS APLI DYO DODEKATA,4MONOGRAMMOS TESSERA DODEKATA,4DIGRAMM",
    "OS EX DODEKATA,4TRIGRAMMOS OKTO DODEKATA,3GENIKI DIESIS,4YFESIS,3DIASTOLI APLI MIKRI,5MEGALI",
    ",4DIPLI,4THESEOS,3SIMANSIS THESEOS,5DISIMOU,5TRISIMOU,5TETRASIMOU,4ARSEOS,5DISIMOU,5TRISIMOU",
    ",5TETRASIMOU,3DIGRAMMA GG,3DIFTOGGOS OU,3STIGMA,3ARKTIKO PA,4VOU,4GA,4DI,4KE,4ZO,4NI,3KENTIM",
    "ATA NEO MESO,3KENTIMA NEO MESO,3KENTIMATA NEO KATO,3KENTIMA NEO KATO,3KLASMA KATO,3GORGON NE",
    "O KATO,=1d100 0MUSICAL SYMBOL SINGLE BARLINE,2DOUBLE BARLINE,2FINAL BARLINE,2REVERSE FINAL B",
    "ARLINE,2DASHED BARLINE,2SHORT BARLINE,2LEFT REPEAT SIGN,2RIGHT REPEAT SIGN,2REPEAT DOTS,2DA",
    "L SEGNO,2DA CAPO,2SEGNO,2CODA,2REPEATED FIGURE-1,3FIGURE-2,3FIGURE-3,2FERMATA,3BELOW,2BREAT",
    "H MARK,2CAESURA,2BRACE,2BRACKET,2ONE-LINE STAFF,2TWO-LINE STAFF,2THREE-LINE STAFF,2FOUR-LIN",
    "E STAFF,2FIVE-LINE STAFF,2SIX-LINE STAFF,2SIX-STRING FRETBOARD,2FOUR-STRING FRETBOARD,2G CLE",
    "F,4OTTAVA ALTA,5BASSA,2C CLEF,2F CLEF,4OTTAVA ALTA,5BASSA,2DRUM CLEF-1,3CLEF-2,=1d129 2MULTI",
    "PLE MEASURE REST,2DOUBLE SHARP,3FLAT,2FLAT UP,3DOWN,2NATURAL UP,3DOWN,2SHARP UP,3DOWN,2QUART",
    "ER TONE SHARP,4FLAT,2COMMON TIME,2CUT TIME,2OTTAVA ALTA,3BASSA,2QUINDICESIMA ALTA,3BASSA,2MU",
    "LTI REST,2WHOLE REST,2HALF REST,2QUARTER REST,2EIGHTH REST,2SIXTEENTH REST,2THIRTY-SECOND RE",
    "ST,2SIXTY-FOURTH REST,2ONE HUNDRED TWENTY-EIGHTH REST,2X NOTEHEAD,2PLUS NOTEHEAD,2CIRCLE X N",
    "OTEHEAD,2SQUARE NOTEHEAD WHITE,4BLACK,2TRIANGLE NOTEHEAD UP WHITE,5BLACK,4LEFT WHITE,5BLACK,",
    "4RIGHT WHITE,5BLACK,4DOWN WHITE,5BLACK,4UP RIGHT WHITE,6BLACK,2MOON NOTEHEAD WHITE,4BLACK,2T",
    "RIANGLE-ROUND NOTEHEAD DOWN WHITE,5BLACK,2PARENTHESIS NOTEHEAD,2VOID NOTEHEAD,2NOTEHEAD BLAC",
    "K,2NULL NOTEHEAD,2CLUSTER NOTEHEAD WHITE,4BLACK,2BREVE,2WHOLE NOTE,2HALF NOTE,2QUARTER NOTE,",
    "2EIGHTH NOTE,2SIXTEENTH NOTE,2THIRTY-SECOND NOTE,2SIXTY-FOURTH NOTE,2ONE HUNDRED TWENTY-EIGH",
    "TH NOTE,2COMBINING STEM,3SPRECHGESANG STEM,3TREMOLO-1,3TREMOLO-2,3TREMOLO-3,2FINGERED TREMOL",
    "O-1,3TREMOLO-2,3TREMOLO-3,2COMBINING AUGMENTATION DOT,3FLAG-1,3FLAG-2,3FLAG-3,3FLAG-4,3FLAG-",
    "5,2BEGIN BEAM,2END BEAM,2BEGIN TIE,2END TIE,2BEGIN SLUR,2END SLUR,2BEGIN PHRASE,2END PHRASE,",
    "2COMBINING ACCENT,3STACCATO,3TENUTO,3STACCATISSIMO,3MARCATO,3MARCATO-STACCATO,3ACCENT-STACCA",
    "TO,3LOURE,2ARPEGGIATO UP,3DOWN,2COMBINING DOIT,3RIP,3FLIP,3SMEAR,3BEND,3DOUBLE TONGUE,3TRIPL",
    "E TONGUE,2RINFORZANDO,2SUBITO,2Z,2PIANO,2MEZZO,2FORTE,2CRESCENDO,2DECRESCENDO,2GRACE NOTE SL",
    "ASH,4NO SLASH,2TR,2TURN,2INVERTED TURN,2TURN SLASH,3UP,2ORNAMENT STROKE-1,3STROKE-2,3STROKE-",
    "3,3STROKE-4,3STROKE-5,3STROKE-6,3STROKE-7,3STROKE-8,3STROKE-9,3STROKE-10,3STROKE-11,2HAUPTST",
    "IMME,2NEBENSTIMME,2END OF STIMME,2DEGREE SLASH,2COMBINING DOWN BOW,3UP BOW,3HARMONIC,3SNAP P",
    "IZZICATO,2PEDAL MARK,3UP MARK,2HALF PEDAL MARK,2GLISSANDO UP,3DOWN,2WITH FINGERNAILS,2DAMP,3",
    "ALL,2MAXIMA,2LONGA,2BREVIS,2SEMIBREVIS WHITE,3BLACK,2MINIMA,3BLACK,2SEMIMINIMA WHITE,3BLACK,",
    "2FUSA WHITE,3BLACK,2LONGA PERFECTA REST,3IMPERFECTA REST,2BREVIS REST,2SEMIBREVIS REST,2MINI",
    "MA REST,2SEMIMINIMA REST,2TEMPUS PERFECTUM CUM PROLATIONE PERFECTA,6IMPERFECTA,6PERFECTA DIM",
    "INUTION-1,3IMPERFECTUM CUM PROLATIONE PERFECTA,6IMPERFECTA,7DIMINUTION-1,7DIMINUTION-2,7DIMI",
    "NUTION-3,2CROIX,2GREGORIAN C CLEF,3F CLEF,2SQUARE B,2VIRGA,2PODATUS,2CLIVIS,2SCANDICUS,2CLIM",
    "ACUS,2TORCULUS,2PORRECTUS,3FLEXUS,2SCANDICUS FLEXUS,2TORCULUS RESUPINUS,2PES SUBPUNCTIS,2KIE",
    "VAN C CLEF,3END OF PIECE,3FINAL NOTE,3RECITATIVE MARK,3WHOLE NOTE,3HALF NOTE,3QUARTER NOTE S",
    "TEM DOWN,6UP,3EIGHTH NOTE STEM DOWN,6UP,3FLAT SIGN,2SORI,2KORON,=1d200 0GREEK VOCAL NOTATIO",
    "N SYMBOL-1,3SYMBOL-2,3SYMBOL-3,3SYMBOL-4,3SYMBOL-5,3SYMBOL-6,3SYMBOL-7,3SYMBOL-8,3SYMBOL-9,3",
    "SYMBOL-10,3SYMBOL-11,3SYMBOL-12,3SYMBOL-13,3SYMBOL-14,3SYMBOL-15,3SYMBOL-16,3SYMBOL-17,3SYMB",
    "OL-18,3SYMBOL-19,3SYMBOL-20,3SYMBOL-21,3SYMBOL-22,3SYMBOL-23,3SYMBOL-24,3SYMBOL-50,3SYMBOL-5",
    "1,3SYMBOL-52,3SYMBOL-53,3SYMBOL-54,1INSTRUMENTAL NOTATION SYMBOL-1,3SYMBOL-2,3SYMBOL-4,3SYMB",
    "OL-5,3SYMBOL-7,3SYMBOL-8,3SYMBOL-11,3SYMBOL-12,3SYMBOL-13,3SYMBOL-14,3SYMBOL-17,3SYMBOL-18,3",
    "SYMBOL-19,3SYMBOL-23,3SYMBOL-24,3SYMBOL-25,3SYMBOL-26,3SYMBOL-27,3SYMBOL-29,3SYMBOL-30,3SYMB",
    "OL-32,3SYMBOL-36,3SYMBOL-37,3SYMBOL-38,3SYMBOL-39,3SYMBOL-40,3SYMBOL-42,3SYMBOL-43,3SYMBOL-4",
    "5,3SYMBOL-47,3SYMBOL-48,3SYMBOL-49,3SYMBOL-50,3SYMBOL-51,3SYMBOL-52,3SYMBOL-53,3SYMBOL-54,0C",
    "OMBINING GREEK MUSICAL TRISEME,3TETRASEME,3PENTASEME,0GREEK MUSICAL LEIMMA,=1d2e0 0MAYAN NUM",
    "ERAL ZERO,2ONE,2TWO,2THREE,2FOUR,2FIVE,2SIX,2SEVEN,2EIGHT,2NINE,2TEN,2ELEVEN,2TWELVE,2THIRTE",
    "EN,2FOURTEEN,2FIFTEEN,2SIXTEEN,2SEVENTEEN,2EIGHTEEN,2NINETEEN,=1d300 0MONOGRAM FOR EARTH,0DI",
    "GRAM FOR HEAVENLY EARTH,2HUMAN EARTH,2EARTHLY HEAVEN,3HUMAN,2EARTH,0TETRAGRAM FOR CENTRE,2FU",
    "LL CIRCLE,2MIRED,2BARRIER,2KEEPING SMALL,2CONTRARIETY,2ASCENT,2OPPOSITION,2BRANCHING OUT,2DE",
    "FECTIVENESS OR DISTORTION,2DIVERGENCE,2YOUTHFULNESS,2INCREASE,2PENETRATION,2REACH,2CONTACT,2",
    "HOLDING BACK,2WAITING,2FOLLOWING,2ADVANCE,2RELEASE,2RESISTANCE,2EASE,2JOY,2CONTENTION,2ENDEA",
    "VOUR,2DUTIES,2CHANGE,2DECISIVENESS,2BOLD RESOLUTION,2PACKING,2LEGION,2CLOSENESS,2KINSHIP,2GA",
    "THERING,2STRENGTH,2PURITY,2FULLNESS,2RESIDENCE,2LAW OR MODEL,2RESPONSE,2GOING TO MEET,2ENCOU",
    "NTERS,2STOVE,2GREATNESS,2ENLARGEMENT,2PATTERN,2RITUAL,2FLIGHT,2VASTNESS OR WASTING,2CONSTANC",
    "Y,2MEASURE,2ETERNITY,2UNITY,2DIMINISHMENT,2CLOSED MOUTH,2GUARDEDNESS,2GATHERING IN,2MASSING,",
    "2ACCUMULATION,2EMBELLISHMENT,2DOUBT,2WATCH,2SINKING,2INNER,2DEPARTURE,2DARKENING,2DIMMING,2E",
    "XHAUSTION,2SEVERANCE,2STOPPAGE,2HARDNESS,2COMPLETION,2CLOSURE,2FAILURE,2AGGRAVATION,2COMPLIA",
    "NCE,2ON THE VERGE,2DIFFICULTIES,2LABOURING,2FOSTERING,=1d360 0COUNTING ROD UNIT DIGIT ONE,4T",
    "WO,4THREE,4FOUR,4FIVE,4SIX,4SEVEN,4EIGHT,4NINE,2TENS DIGIT ONE,4TWO,4THREE,4FOUR,4FIVE,4SIX,",
    "4SEVEN,4EIGHT,4NINE,0IDEOGRAPHIC TALLY MARK ONE,3TWO,3THREE,3FOUR,3FIVE,0TALLY MARK ONE,2FIV",
    "E,=1d400 0MATHEMATICAL BOLD CAPITAL A,3B,3C,3D,3E,3F,3G,3H,3I,3J,3K,3L,3M,3N,3O,3P,3Q,3R,3S,",
    "3T,3U,3V,3W,3X,3Y,3Z,2SMALL A,3B,3C,3D,3E,3F,3G,3H,3I,3J,3K,3L,3M,3N,3O,3P,3Q,3R,3S,3T,3U,3V",
    ",3W,3X,3Y,3Z,1ITALIC CAPITAL A,3B,3C,3D,3E,3F,3G,3H,3I,3J,3K,3L,3M,3N,3O,3P,3Q,3R,3S,3T,3U,3",
    "V,3W,3X,3Y,3Z,2SMALL A,3B,3C,3D,3E,3F,3G,=1d456 3I,3J,3K,3L,3M,3N,3O,3P,3Q,3R,3S,3T,3U,3V,3W",
    ",3X,3Y,3Z,1BOLD ITALIC CAPITAL A,4B,4C,4D,4E,4F,4G,4H,4I,4J,4K,4L,4M,4N,4O,4P,4Q,4R,4S,4T,4U",
    ",4V,4W,4X,4Y,4Z,3SMALL A,4B,4C,4D,4E,4F,4G,4H,4I,4J,4K,4L,4M,4N,4O,4P,4Q,4R,4S,4T,4U,4V,4W,4",
    "X,4Y,4Z,1SCRIPT CAPITAL A,=1d49e 3C,3D,=1d4a2 3G,=1d4a5 3J,3K,=1d4a9 3N,3O,3P,3Q,=1d4ae 3S,3",
    "T,3U,3V,3W,3X,3Y,3Z,2SMALL A,3B,3C,3D,=1d4bb 3F,=1d4bd 3H,3I,3J,3K,3L,3M,3N,=1d4c5 3P,3Q,3R,",
    "3S,3T,3U,3V,3W,3X,3Y,3Z,1BOLD SCRIPT CAPITAL A,4B,4C,4D,4E,4F,4G,4H,4I,4J,4K,4L,4M,4N,4O,4P,",
    "4Q,4R,4S,4T,4U,4V,4W,4X,4Y,4Z,3SMALL A,4B,4C,4D,4E,4F,4G,4H,4I,4J,4K,4L,4M,4N,4O,4P,4Q,4R,4S",
    ",4T,4U,4V,4W,4X,4Y,4Z,1FRAKTUR CAPITAL A,3B,=1d507 3D,3E,3F,3G,=1d50d 3J,3K,3L,3M,3N,3O,3P,3",
    "Q,=1d516 3S,3T,3U,3V,3W,3X,3Y,=1d51e 2SMALL A,3B,3C,3D,3E,3F,3G,3H,3I,3J,3K,3L,3M,3N,3O,3P,3",
    "Q,3R,3S,3T,3U,3V,3W,3X,3Y,3Z,1DOUBLE-STRUCK CAPITAL A,3B,=1d53b 3D,3E,3F,3G,=1d540 3I,3J,3K,",
    "3L,3M,=1d546 3O,=1d54a 3S,3T,3U,3V,3W,3X,3Y,=1d552 2SMALL A,3B,3C,3D,3E,3F,3G,3H,3I,3J,3K,3L",
    ",3M,3N,3O,3P,3Q,3R,3S,3T,3U,3V,3W,3X,3Y,3Z,1BOLD FRAKTUR CAPITAL A,4B,4C,4D,4E,4F,4G,4H,4I,4",
    "J,4K,4L,4M,4N,4O,4P,4Q,4R,4S,4T,4U,4V,4W,4X,4Y,4Z,3SMALL A,4B,4C,4D,4E,4F,4G,4H,4I,4J,4K,4L,",
    "4M,4N,4O,4P,4Q,4R,4S,4T,4U,4V,4W,4X,4Y,4Z,1SANS-SERIF CAPITAL A,3B,3C,3D,3E,3F,3G,3H,3I,3J,3",
    "K,3L,3M,3N,3O,3P,3Q,3R,3S,3T,3U,3V,3W,3X,3Y,3Z,2SMALL A,3B,3C,3D,3E,3F,3G,3H,3I,3J,3K,3L,3M,",
    "3N,3O,3P,3Q,3R,3S,3T,3U,3V,3W,3X,3Y,3Z,2BOLD CAPITAL A,4B,4C,4D,4E,4F,4G,4H,4I,4J,4K,4L,4M,4",
    "N,4O,4P,4Q,4R,4S,4T,4U,4V,4W,4X,4Y,4Z,3SMALL A,4B,4C,4D,4E,4F,4G,4H,4I,4J,4K,4L,4M,4N,4O,4P,",
    "4Q,4R,4S,4T,4U,4V,4W,4X,4Y,4Z,2ITALIC CAPITAL A,4B,4C,4D,4E,4F,4G,4H,4I,4J,4K,4L,4M,4N,4O,4P",
    ",4Q,4R,4S,4T,4U,4V,4W,4X,4Y,4Z,3SMALL A,4B,4C,4D,4E,4F,4G,4H,4I,4J,4K,4L,4M,4N,4O,4P,4Q,4R,4",
    "S,4T,4U,4V,4W,4X,4Y,4Z,2BOLD ITALIC CAPITAL A,5B,5C,5D,5E,5F,5G,5H,5I,5J,5K,5L,5M,5N,5O,5P,5",
    "Q,5R,5S,5T,5U,5V,5W,5X,5Y,5Z,4SMALL A,5B,5C,5D,5E,5F,5G,5H,5I,5J,5K,5L,5M,5N,5O,5P,5Q,5R,5S,",
    "5T,5U,5V,5W,5X,5Y,5Z,1MONOSPACE CAPITAL A,3B,3C,3D,3E,3F,3G,3H,3I,3J,3K,3L,3M,3N,3O,3P,3Q,3R",
    ",3S,3T,3U,3V,3W,3X,3Y,3Z,2SMALL A,3B,3C,3D,3E,3F,3G,3H,3I,3J,3K,3L,3M,3N,3O,3P,3Q,3R,3S,3T,3",
    "U,3V,3W,3X,3Y,3Z,1ITALIC SMALL DOTLESS I,4J,=1d6a8 1BOLD CAPITAL ALPHA,3BETA,3GAMMA,3DELTA,3",
    "EPSILON,3ZETA,3ETA,3THETA,3IOTA,3KAPPA,3LAMDA,3MU,3NU,3XI,3OMICRON,3PI,3RHO,3THETA SYMBOL,3S",
    "IGMA,3TAU,3UPSILON,3PHI,3CHI,3PSI,3OMEGA,2NABLA,2SMALL ALPHA,3BETA,3GAMMA,3DELTA,3EPSILON,3Z",
    "ETA,3ETA,3THETA,3IOTA,3KAPPA,3LAMDA,3MU,3NU,3XI,3OMICRON,3PI,3RHO,3FINAL SIGMA,3SIGMA,3TAU,3",
    "UPSILON,3PHI,3CHI,3PSI,3OMEGA,2PARTIAL DIFFERENTIAL,2EPSILON SYMBOL,2THETA SYMBOL,2KAPPA SYM",
    "BOL,2PHI SYMBOL,2RHO SYMBOL,2PI SYMBOL,1ITALIC CAPITAL ALPHA,3BETA,3GAMMA,3DELTA,3EPSILON,3Z",
    "ETA,3ETA,3THETA,3IOTA,3KAPPA,3LAMDA,3MU,3NU,3XI,3OMICRON,3PI,3RHO,3THETA SYMBOL,3SIGMA,3TAU,",
    "3UPSILON,3PHI,3CHI,3PSI,3OMEGA,2NABLA,2SMALL ALPHA,3BETA,3GAMMA,3DELTA,3EPSILON,3ZETA,3ETA,3",
    "THETA,3IOTA,3KAPPA,3LAMDA,3MU,3NU,3XI,3OMICRON,3PI,3RHO,3FINAL SIGMA,3SIGMA,3TAU,3UPSILON,3P",
    "HI,3CHI,3PSI,3OMEGA,2PARTIAL DIFFERENTIAL,2EPSILON SYMBOL,2THETA SYMBOL,2KAPPA SYMBOL,2PHI S",
    "YMBOL,2RHO SYMBOL,2PI SYMBOL,1BOLD ITALIC CAPITAL ALPHA,4BETA,4GAMMA,4DELTA,4EPSILON,4ZETA,4",
    "ETA,4THETA,4IOTA,4KAPPA,4LAMDA,4MU,4NU,4XI,4OMICRON,4PI,4RHO,4THETA SYMBOL,4SIGMA,4TAU,4UPSI",
    "LON,4PHI,4CHI,4PSI,4OMEGA,3NABLA,3SMALL ALPHA,4BETA,4GAMMA,4DELTA,4EPSILON,4ZETA,4ETA,4THETA",
    ",4IOTA,4KAPPA,4LAMDA,4MU,4NU,4XI,4OMICRON,4PI,4RHO,4FINAL SIGMA,4SIGMA,4TAU,4UPSILON,4PHI,4C",
    "HI,4PSI,4OMEGA,3PARTIAL DIFFERENTIAL,3EPSILON SYMBOL,3THETA SYMBOL,3KAPPA SYMBOL,3PHI SYMBOL",
    ",3RHO SYMBOL,3PI SYMBOL,1SANS-SERIF BOLD CAPITAL ALPHA,4BETA,4GAMMA,4DELTA,4EPSILON,4ZETA,4E",
    "TA,4THETA,4IOTA,4KAPPA,4LAMDA,4MU,4NU,4XI,4OMICRON,4PI,4RHO,4THETA SYMBOL,4SIGMA,4TAU,4UPSIL",
    "ON,4PHI,4CHI,4PSI,4OMEGA,3NABLA,3SMALL ALPHA,4BETA,4GAMMA,4DELTA,4EPSILON,4ZETA,4ETA,4THETA,",
    "4IOTA,4KAPPA,4LAMDA,4MU,4NU,4XI,4OMICRON,4PI,4RHO,4FINAL SIGMA,4SIGMA,4TAU,4UPSILON,4PHI,4CH",
    "I,4PSI,4OMEGA,3PARTIAL DIFFERENTIAL,3EPSILON SYMBOL,3THETA SYMBOL,3KAPPA SYMBOL,3PHI SYMBOL,",
    "3RHO SYMBOL,3PI SYMBOL,3ITALIC CAPITAL ALPHA,5BETA,5GAMMA,5DELTA,5EPSILON,5ZETA,5ETA,5THETA,",
    "5IOTA,5KAPPA,5LAMDA,5MU,5NU,5XI,5OMICRON,5PI,5RHO,5THETA SYMBOL,5SIGMA,5TAU,5UPSILON,5PHI,5C",
    "HI,5PSI,5OMEGA,4NABLA,4SMALL ALPHA,5BETA,5GAMMA,5DELTA,5EPSILON,5ZETA,5ETA,5THETA,5IOTA,5KAP",
    "PA,5LAMDA,5MU,5NU,5XI,5OMICRON,5PI,5RHO,5FINAL SIGMA,5SIGMA,5TAU,5UPSILON,5PHI,5CHI,5PSI,5OM",
    "EGA,4PARTIAL DIFFERENTIAL,4EPSILON SYMBOL,4THETA SYMBOL,4KAPPA SYMBOL,4PHI SYMBOL,4RHO SYMBO",
    "L,4PI SYMBOL,1BOLD CAPITAL DIGAMMA,2SMALL DIGAMMA,=1d7ce 2DIGIT ZERO,3ONE,3TWO,3THREE,3FOUR,",
    "3FIVE,3SIX,3SEVEN,3EIGHT,3NINE,1DOUBLE-STRUCK DIGIT ZERO,3ONE,3TWO,3THREE,3FOUR,3FIVE,3SIX,3",
    "SEVEN,3EIGHT,3NINE,1SANS-SERIF DIGIT ZERO,3ONE,3TWO,3THREE,3FOUR,3FIVE,3SIX,3SEVEN,3EIGHT,3N",
    "INE,2BOLD DIGIT ZERO,4ONE,4TWO,4THREE,4FOUR,4FIVE,4SIX,4SEVEN,4EIGHT,4NINE,1MONOSPACE DIGIT ",
    "ZERO,3ONE,3TWO,3THREE,3FOUR,3FIVE,3SIX,3SEVEN,3EIGHT,3NINE,0SIGNWRITING HAND-FIST INDEX,1HAN",
    "D-CIRCLE INDEX,1HAND-CUP INDEX,1HAND-OVAL INDEX,1HAND-HINGE INDEX,1HAND-ANGLE INDEX,1HAND-FI",
    "ST INDEX BENT,1HAND-CIRCLE INDEX BENT,1HAND-FIST THUMB UNDER INDEX BENT,2INDEX RAISED KNUCKL",
    "E,3CUPPED,3HINGED,4LOW,1HAND-CIRCLE INDEX HINGE,1HAND-FIST INDEX MIDDLE,1HAND-CIRCLE INDEX M",
    "IDDLE,1HAND-FIST INDEX MIDDLE BENT,4RAISED KNUCKLES,4HINGED,3UP MIDDLE HINGED,3HINGED MIDDL",
    "E UP,3MIDDLE CONJOINED,5INDEX BENT,5MIDDLE BENT,5CUPPED,5HINGED,4CROSSED,1HAND-CIRCLE INDEX ",
    "MIDDLE CROSSED,1HAND-FIST MIDDLE BENT OVER INDEX,2INDEX BENT OVER MIDDLE,3MIDDLE THUMB,1HAND",
    "-CIRCLE INDEX MIDDLE THUMB,1HAND-FIST INDEX MIDDLE STRAIGHT THUMB BENT,4BENT THUMB STRAIGHT,",
    "4THUMB BENT,4HINGED SPREAD THUMB SIDE,3UP MIDDLE HINGED THUMB SIDE,7CONJOINED,3HINGED MIDDL",
    "E UP THUMB SIDE,3MIDDLE UP SPREAD THUMB FORWARD,4THUMB CUPPED,5CIRCLED,5HOOKED,5HINGED,2THUM",
    "B BETWEEN INDEX MIDDLE STRAIGHT,2INDEX MIDDLE CONJOINED THUMB SIDE,7CONJOINED,7BENT,2MIDDLE ",
    "THUMB HOOKED INDEX UP,2INDEX THUMB HOOKED MIDDLE UP,3MIDDLE CONJOINED HINGED THUMB SIDE,4CRO",
    "SSED THUMB SIDE,4CONJOINED THUMB FORWARD,5CUPPED THUMB FORWARD,2MIDDLE THUMB CUPPED INDEX UP",
    ",2INDEX THUMB CUPPED MIDDLE UP,2MIDDLE THUMB CIRCLED INDEX UP,6HINGED,2INDEX THUMB ANGLED OU",
    "T MIDDLE UP,5IN MIDDLE UP,4CIRCLED MIDDLE UP,3MIDDLE THUMB CONJOINED HINGED,5ANGLED OUT,6,2M",
    "IDDLE THUMB ANGLED OUT INDEX UP,7CROSSED,5INDEX UP,2INDEX THUMB HOOKED MIDDLE HINGED,1HAND-F",
    "LAT FOUR FINGERS,4BENT,4HINGED,4CONJOINED,5SPLIT,1HAND-CLAW FOUR FINGERS CONJOINED,1HAND-FIS",
    "T FOUR FINGERS CONJOINED BENT,1HAND-HINGE FOUR FINGERS CONJOINED,1HAND-FLAT FIVE FINGERS SPR",
    "EAD,2HEEL FIVE FINGERS SPREAD,2FIVE FINGERS SPREAD FOUR BENT,2HEEL FIVE FINGERS SPREAD FOUR ",
    "BENT,2FIVE FINGERS SPREAD BENT,2HEEL FIVE FINGERS SPREAD BENT,2FIVE FINGERS SPREAD THUMB FOR",
    "WARD,1HAND-CUP FIVE FINGERS SPREAD,5OPEN,1HAND-HINGE FIVE FINGERS SPREAD OPEN,1HAND-OVAL FIV",
    "E FINGERS SPREAD,1HAND-FLAT FIVE FINGERS SPREAD HINGED,6THUMB SIDE,6NO THUMB,2,2BETWEEN PAL",
    "M FACINGS,2HEEL,2THUMB SIDE,2HEEL THUMB SIDE,2THUMB BENT,3FORWARD,2SPLIT INDEX THUMB SIDE,3C",
    "ENTRE,4THUMB SIDE,6BENT,3LITTLE,1HAND-CLAW,2THUMB SIDE,2NO THUMB,2THUMB FORWARD,1HAND-HOOK C",
    "URLICUE,2,1HAND-CUP OPEN,2,2OPEN THUMB SIDE,2THUMB SIDE,2OPEN NO THUMB,2NO THUMB,2OPEN THUM",
    "B FORWARD,2THUMB FORWARD,1HAND-CURLICUE OPEN,2,1HAND-CIRCLE,1HAND-OVAL,2THUMB SIDE,2NO THUMB",
    ",2THUMB FORWARD,1HAND-HINGE OPEN,3THUMB FORWARD,2,2SMALL,2OPEN THUMB SIDE,2THUMB SIDE,2OPEN ",
    "NO THUMB,2NO THUMB,2THUMB SIDE TOUCHING INDEX,3BETWEEN MIDDLE RING,1HAND-ANGLE,1HAND-FIST IN",
    "DEX MIDDLE RING,1HAND-CIRCLE INDEX MIDDLE RING,1HAND-HINGE INDEX MIDDLE RING,1HAND-ANGLE IND",
    "EX MIDDLE RING,1HAND-HINGE LITTLE,1HAND-FIST INDEX MIDDLE RING BENT,5CONJOINED,1HAND-HINGE I",
    "NDEX MIDDLE RING CONJOINED,1HAND-FIST LITTLE DOWN,4RIPPLE STRAIGHT,5CURVED,4OTHERS CIRCLED,3",
    "UP,2THUMB UNDER LITTLE UP,1HAND-CIRCLE LITTLE UP,1HAND-OVAL LITTLE UP,1HAND-ANGLE LITTLE UP,",
    "1HAND-FIST LITTLE RAISED KNUCKLE,3BENT,3TOUCHES THUMB,3THUMB,1HAND-HINGE LITTLE THUMB,1HAND-",
    "FIST LITTLE INDEX THUMB,1HAND-HINGE LITTLE INDEX THUMB,1HAND-ANGLE LITTLE INDEX THUMB INDEX ",
    "THUMB OUT,7,1HAND-FIST LITTLE INDEX,1HAND-CIRCLE LITTLE INDEX,1HAND-HINGE LITTLE INDEX,1HAND",
    "-ANGLE LITTLE INDEX,1HAND-FIST INDEX MIDDLE LITTLE,1HAND-CIRCLE INDEX MIDDLE LITTLE,1HAND-HI",
    "NGE INDEX MIDDLE LITTLE,2RING,1HAND-ANGLE INDEX MIDDLE LITTLE,1HAND-FIST INDEX MIDDLE CROSS ",
    "LITTLE,1HAND-CIRCLE INDEX MIDDLE CROSS LITTLE,1HAND-FIST RING DOWN,1HAND-HINGE RING DOWN IND",
    "EX THUMB HOOK MIDDLE,1HAND-ANGLE RING DOWN MIDDLE THUMB INDEX CROSS,1HAND-FIST RING UP,3RAIS",
    "ED KNUCKLE,3LITTLE,1HAND-CIRCLE RING LITTLE,1HAND-OVAL RING LITTLE,1HAND-ANGLE RING LITTLE,1",
    "HAND-FIST RING MIDDLE,4CONJOINED,4RAISED KNUCKLES,3INDEX,3THUMB,1HAND-HOOK RING THUMB,1HAND-",
    "FIST INDEX RING LITTLE,1HAND-CIRCLE INDEX RING LITTLE,1HAND-CURLICUE INDEX RING LITTLE ON,1H",
    "AND-HOOK INDEX RING LITTLE OUT,5IN,5UNDER,1HAND-CUP INDEX RING LITTLE,1HAND-HINGE INDEX RIN",
    "G LITTLE,1HAND-ANGLE INDEX RING LITTLE OUT,5,1HAND-FIST MIDDLE DOWN,1HAND-HINGE MIDDLE,1HAND",
    "-FIST MIDDLE UP,1HAND-CIRCLE MIDDLE UP,1HAND-FIST MIDDLE RAISED KNUCKLE,3UP THUMB SIDE,1HAND",
    "-HOOK MIDDLE THUMB,1HAND-FIST MIDDLE THUMB LITTLE,3LITTLE,3RING LITTLE,1HAND-CIRCLE MIDDLE R",
    "ING LITTLE,1HAND-CURLICUE MIDDLE RING LITTLE ON,1HAND-CUP MIDDLE RING LITTLE,1HAND-HINGE MID",
    "DLE RING LITTLE,1HAND-ANGLE MIDDLE RING LITTLE OUT,5IN,5,1HAND-CIRCLE MIDDLE RING LITTLE BEN",
    "T,1HAND-CLAW MIDDLE RING LITTLE CONJOINED,6SIDE,1HAND-HOOK MIDDLE RING LITTLE CONJOINED OUT,",
    "6IN,6,1HAND-HINGE INDEX HINGED,1HAND-FIST INDEX THUMB SIDE,1HAND-HINGE INDEX THUMB SIDE,1HAN",
    "D-FIST INDEX THUMB SIDE THUMB DIAGONAL,6CONJOINED,6BENT,5INDEX BENT,5BOTH BENT,5INDEX HINGE,",
    "4FORWARD INDEX STRAIGHT,6BENT,4HOOK,4CURLICUE,4CURVE THUMB INSIDE,1HAND-CLAW INDEX THUMB CUR",
    "VE THUMB INSIDE,1HAND-FIST INDEX THUMB CURVE THUMB UNDER,4CIRCLE,1HAND-CUP INDEX THUMB,4OPEN",
    ",1HAND-HINGE INDEX THUMB OPEN,4LARGE,4,4SMALL,1HAND-ANGLE INDEX THUMB OUT,4IN,4,1HAND-FIST T",
    "HUMB,3HEEL,3SIDE DIAGONAL,4CONJOINED,4BENT,3FORWARD,3BETWEEN INDEX MIDDLE,4MIDDLE RING,4RIN",
    "G LITTLE,3UNDER TWO FINGERS,3OVER TWO FINGERS,3UNDER THREE FINGERS,4FOUR FINGERS,3OVER FOUR ",
    "RAISED KNUCKLES,2,2HEEL,1TOUCH SINGLE,2MULTIPLE,2BETWEEN,1GRASP SINGLE,2MULTIPLE,2BETWEEN,1S",
    "TRIKE SINGLE,2MULTIPLE,2BETWEEN,1BRUSH SINGLE,2MULTIPLE,2BETWEEN,1RUB SINGLE,2MULTIPLE,2BETW",
    "EEN,1SURFACE SYMBOLS,2BETWEEN,1SQUEEZE LARGE SINGLE,2SMALL SINGLE,2LARGE MULTIPLE,2SMALL MUL",
    "TIPLE,2SEQUENTIAL,1FLICK LARGE SINGLE,2SMALL SINGLE,2LARGE MULTIPLE,2SMALL MULTIPLE,2SEQUENT",
    "IAL,1SQUEEZE FLICK ALTERNATING,1MOVEMENT-HINGE UP DOWN LARGE,4SMALL,3SEQUENTIAL,2DOWN SEQUEN",
    "TIAL,2UP DOWN ALTERNATING LARGE,5SMALL,2SIDE TO SIDE SCISSORS,1MOVEMENT-WALLPLANE FINGER CON",
    "TACT,1MOVEMENT-FLOORPLANE FINGER CONTACT,1MOVEMENT-WALLPLANE SINGLE STRAIGHT SMALL,4MEDIUM,4",
    "LARGE,4LARGEST,3WRIST FLEX,2DOUBLE STRAIGHT,3WRIST FLEX,3ALTERNATING,4WRIST FLEX,2CROSS,2TRI",
    "PLE STRAIGHT MOVEMENT,3WRIST FLEX,3ALTERNATING,4WRIST FLEX,2BEND SMALL,3MEDIUM,3LARGE,2CORNE",
    "R SMALL,3MEDIUM,3LARGE,3ROTATION,2CHECK SMALL,3MEDIUM,3LARGE,2BOX SMALL,3MEDIUM,3LARGE,2ZIGZ",
    "AG SMALL,3MEDIUM,3LARGE,2PEAKS SMALL,3MEDIUM,3LARGE,1TRAVEL-WALLPLANE ROTATION-WALLPLANE SIN",
    "GLE,3DOUBLE,3ALTERNATING,2ROTATION-FLOORPLANE SINGLE,3DOUBLE,3ALTERNATING,2SHAKING,2ARM SPIR",
    "AL SINGLE,4DOUBLE,4TRIPLE,1MOVEMENT-DIAGONAL AWAY SMALL,3MEDIUM,3LARGE,3LARGEST,2TOWARDS SMA",
    "LL,3MEDIUM,3LARGE,3LARGEST,2BETWEEN AWAY SMALL,4MEDIUM,4LARGE,4LARGEST,3TOWARDS SMALL,4MEDIU",
    "M,4LARGE,4LARGEST,1MOVEMENT-FLOORPLANE SINGLE STRAIGHT SMALL,4MEDIUM,4LARGE,4LARGEST,3WRIST ",
    "FLEX,2DOUBLE STRAIGHT,3WRIST FLEX,3ALTERNATING,4WRIST FLEX,2CROSS,2TRIPLE STRAIGHT MOVEMENT,",
    "3WRIST FLEX,3ALTERNATING MOVEMENT,4WRIST FLEX,2BEND,2CORNER SMALL,3MEDIUM,3LARGE,2CHECK,2BO",
    "X SMALL,3MEDIUM,3LARGE,2ZIGZAG SMALL,3MEDIUM,3LARGE,2PEAKS SMALL,3MEDIUM,3LARGE,1TRAVEL-FLOO",
    "RPLANE ROTATION-FLOORPLANE SINGLE,3DOUBLE,3ALTERNATING,2ROTATION-WALLPLANE SINGLE,3DOUBLE,3A",
    "LTERNATING,2SHAKING,1MOVEMENT-WALLPLANE CURVE QUARTER SMALL,4MEDIUM,4LARGE,4LARGEST,3HALF-CI",
    "RCLE SMALL,4MEDIUM,4LARGE,4LARGEST,3THREE-QUARTER CIRCLE SMALL,5MEDIUM,2HUMP SMALL,3MEDIUM,3",
    "LARGE,2LOOP SMALL,3MEDIUM,3LARGE,3SMALL DOUBLE,2WAVE CURVE DOUBLE SMALL,5MEDIUM,5LARGE,4TRIP",
    "LE SMALL,5MEDIUM,5LARGE,2CURVE THEN STRAIGHT,2CURVED CROSS SMALL,4MEDIUM,1ROTATION-WALLPLAN",
    "E SINGLE,2DOUBLE,2ALTERNATE,1MOVEMENT-WALLPLANE SHAKING,2CURVE HITTING FRONT WALL,2HUMP HITT",
    "ING FRONT WALL,2LOOP HITTING FRONT WALL,2WAVE HITTING FRONT WALL,1ROTATION-WALLPLANE SINGLE ",
    "HITTING FRONT WALL,2DOUBLE HITTING FRONT WALL,2ALTERNATING HITTING FRONT WALL,1MOVEMENT-WALL",
    "PLANE CURVE HITTING CHEST,2HUMP HITTING CHEST,2LOOP HITTING CHEST,2WAVE HITTING CHEST,1ROTAT",
    "ION-WALLPLANE SINGLE HITTING CHEST,2DOUBLE HITTING CHEST,2ALTERNATING HITTING CHEST,1MOVEMEN",
    "T-WALLPLANE WAVE DIAGONAL PATH SMALL,5MEDIUM,5LARGE,1MOVEMENT-FLOORPLANE CURVE HITTING CEILI",
    "NG SMALL,5LARGE,2HUMP HITTING CEILING SMALL DOUBLE,5LARGE DOUBLE,5SMALL TRIPLE,5LARGE TRIPLE",
    ",2LOOP HITTING CEILING SMALL SINGLE,5LARGE SINGLE,5SMALL DOUBLE,5LARGE DOUBLE,2WAVE HITTING ",
    "CEILING SMALL,5LARGE,1ROTATION-FLOORPLANE SINGLE HITTING CEILING,2DOUBLE HITTING CEILING,2AL",
    "TERNATING HITTING CEILING,1MOVEMENT-FLOORPLANE CURVE HITTING FLOOR SMALL,5LARGE,2HUMP HITTIN",
    "G FLOOR SMALL DOUBLE,5LARGE DOUBLE,5TRIPLE SMALL TRIPLE,6LARGE TRIPLE,2LOOP HITTING FLOOR SM",
    "ALL SINGLE,5LARGE SINGLE,5SMALL DOUBLE,5LARGE DOUBLE,2WAVE HITTING FLOOR SMALL,5LARGE,1ROTAT",
    "ION-FLOORPLANE SINGLE HITTING FLOOR,2DOUBLE HITTING FLOOR,2ALTERNATING HITTING FLOOR,1MOVEME",
    "NT-FLOORPLANE CURVE SMALL,3MEDIUM,3LARGE,3LARGEST,3COMBINED,2HUMP SMALL,2LOOP SMALL,2WAVE SN",
    "AKE,3SMALL,3LARGE,1ROTATION-FLOORPLANE SINGLE,2DOUBLE,2ALTERNATING,1MOVEMENT-FLOORPLANE SHAK",
    "ING PARALLEL,1MOVEMENT-WALLPLANE ARM CIRCLE SMALL SINGLE,4MEDIUM SINGLE,4SMALL DOUBLE,4MEDIU",
    "M DOUBLE,1MOVEMENT-FLOORPLANE ARM CIRCLE HITTING WALL SMALL SINGLE,6MEDIUM SINGLE,6LARGE SIN",
    "GLE,6SMALL DOUBLE,6MEDIUM DOUBLE,6LARGE DOUBLE,1MOVEMENT-WALLPLANE WRIST CIRCLE FRONT SINGLE",
    ",5DOUBLE,1MOVEMENT-FLOORPLANE WRIST CIRCLE HITTING WALL SINGLE,6DOUBLE,1MOVEMENT-WALLPLANE F",
    "INGER CIRCLES SINGLE,4DOUBLE,1MOVEMENT-FLOORPLANE FINGER CIRCLES HITTING WALL SINGLE,6DOUBLE",
    ",1DYNAMIC ARROWHEAD SMALL,3LARGE,2FAST,2SLOW,2TENSE,2RELAXED,2SIMULTANEOUS,3ALTERNATING,2EVE",
    "RY OTHER TIME,2GRADUAL,1HEAD,2RIM,2MOVEMENT-WALLPLANE STRAIGHT,3TILT,2MOVEMENT-FLOORPLANE ST",
    "RAIGHT,2MOVEMENT-WALLPLANE CURVE,2MOVEMENT-FLOORPLANE CURVE,2MOVEMENT CIRCLE,1FACE DIRECTIO",
    "N POSITION NOSE FORWARD TILTING,5UP OR DOWN,8TILTING,1EYEBROWS STRAIGHT UP,3NEUTRAL,3DOWN,1D",
    "REAMY EYEBROWS NEUTRAL DOWN,3DOWN NEUTRAL,3UP NEUTRAL,3NEUTRAL UP,1FOREHEAD NEUTRAL,2CONTACT",
    ",2WRINKLED,1EYES OPEN,2SQUEEZED,2CLOSED,1EYE BLINK SINGLE,3MULTIPLE,1EYES HALF OPEN,2WIDE OP",
    "EN,2HALF CLOSED,2WIDENING MOVEMENT,1EYE WINK,1EYELASHES UP,2DOWN,2FLUTTERING,1EYEGAZE-WALLPL",
    "ANE STRAIGHT,3DOUBLE,3ALTERNATING,1EYEGAZE-FLOORPLANE STRAIGHT,3DOUBLE,3ALTERNATING,1EYEGAZE",
    "-WALLPLANE CURVED,1EYEGAZE-FLOORPLANE CURVED,1EYEGAZE-WALLPLANE CIRCLING,1CHEEKS PUFFED,2NEU",
    "TRAL,2SUCKED,1TENSE CHEEKS HIGH,3MIDDLE,3LOW,1EARS,1NOSE NEUTRAL,2CONTACT,2WRINKLES,2WIGGLES",
    ",1AIR BLOWING OUT,2SUCKING IN,2BLOW SMALL ROTATIONS,2SUCK SMALL ROTATIONS,1BREATH INHALE,2EX",
    "HALE,1MOUTH CLOSED NEUTRAL,3FORWARD,3CONTACT,2SMILE,3WRINKLED,3OPEN,2FROWN,3WRINKLED,3OPEN,2",
    "OPEN CIRCLE,3FORWARD,3WRINKLED,3OVAL,4WRINKLED,4YAWN,3RECTANGLE,4WRINKLED,4YAWN,2KISS,3FORWA",
    "RD,3WRINKLED,2TENSE,3FORWARD,3SUCKED,1LIPS PRESSED TOGETHER,1LIP LOWER OVER UPPER,2UPPER OVE",
    "R LOWER,1MOUTH CORNERS,2WRINKLES SINGLE,3DOUBLE,1TONGUE STICKING OUT FAR,2LICKING LIPS,2TIP ",
    "BETWEEN LIPS,3TOUCHING INSIDE MOUTH,2INSIDE MOUTH RELAXED,2MOVES AGAINST CHEEK,2CENTRE STICK",
    "ING OUT,3INSIDE MOUTH,1TEETH,2MOVEMENT,2ON TONGUE,4MOVEMENT,3LIPS,4MOVEMENT,2BITE LIPS,1MOVE",
    "MENT-WALLPLANE JAW,1MOVEMENT-FLOORPLANE JAW,1NECK,1HAIR,1EXCITEMENT,1SHOULDER HIP SPINE,3POS",
    "ITIONS,1WALLPLANE SHOULDER HIP MOVE,1FLOORPLANE SHOULDER HIP MOVE,1SHOULDER TILTING FROM WAI",
    "ST,1TORSO-WALLPLANE STRAIGHT STRETCH,2CURVED BEND,1TORSO-FLOORPLANE TWISTING,1UPPER BODY TIL",
    "TING FROM HIP JOINTS,1LIMB COMBINATION,2LENGTH-1,2LENGTH-2,2LENGTH-3,2LENGTH-4,2LENGTH-5,2LE",
    "NGTH-6,2LENGTH-7,1FINGER,1LOCATION-WALLPLANE SPACE,1LOCATION-FLOORPLANE SPACE,1LOCATION HEIG",
    "HT,2WIDTH,2DEPTH,2HEAD NECK,2TORSO,2LIMBS DIGITS,1COMMA,1FULL STOP,1SEMICOLON,1COLON,1PARENT",
    "HESIS,=1da9b 1FILL MODIFIER-2,2MODIFIER-3,2MODIFIER-4,2MODIFIER-5,2MODIFIER-6,=1daa1 1ROTATI",
    "ON MODIFIER-2,2MODIFIER-3,2MODIFIER-4,2MODIFIER-5,2MODIFIER-6,2MODIFIER-7,2MODIFIER-8,2MODIF",
    "IER-9,2MODIFIER-10,2MODIFIER-11,2MODIFIER-12,2MODIFIER-13,2MODIFIER-14,2MODIFIER-15,2MODIFIE",
    "R-16,=1df00 0LATIN SMALL LETTER FENG DIGRAPH WITH TRILL,3REVERSED SCRIPT G,1LETTER SMALL CAP",
    "ITAL TURNED G,1SMALL LETTER REVERSED K,1LETTER SMALL CAPITAL L WITH BELT,1SMALL LETTER LEZH ",
    "WITH RETROFLEX HOOK,3TURNED Y WITH BELT,3REVERSED ENG,3TURNED R WITH LONG LEG AND RETROFLEX ",
    "HOOK,3T WITH HOOK AND RETROFLEX HOOK,1LETTER RETROFLEX CLICK WITH RETROFLEX HOOK,1SMALL LETT",
    "ER ESH WITH DOUBLE BAR,7AND CURL,3TURNED T WITH CURL,1LETTER INVERTED GLOTTAL STOP WITH CURL",
    ",2STRETCHED C WITH CURL,2SMALL CAPITAL TURNED K,1SMALL LETTER L WITH FISHHOOK,3DEZH DIGRAPH ",
    "WITH PALATAL HOOK,3L WITH BELT AND PALATAL HOOK,3ENG WITH PALATAL HOOK,3TURNED R WITH PALATA",
    "L HOOK,3R WITH FISHHOOK AND PALATAL HOOK,3TESH DIGRAPH WITH PALATAL HOOK,3EZH WITH PALATAL H",
    "OOK,3DEZH DIGRAPH WITH RETROFLEX HOOK,3I WITH STROKE AND RETROFLEX HOOK,3O WITH RETROFLEX HO",
    "OK,3TESH DIGRAPH WITH RETROFLEX HOOK,3C WITH RETROFLEX HOOK,3S WITH CURL,=1e000 0COMBINING G",
    "LAGOLITIC LETTER AZU,3BUKY,3VEDE,3GLAGOLI,3DOBRO,3YESTU,3ZHIVETE,=1e008 3ZEMLJA,3IZHE,3INITI",
    "AL IZHE,3I,3DJERVI,3KAKO,3LJUDIJE,3MYSLITE,3NASHI,3ONU,3POKOJI,3RITSI,3SLOVO,3TVRIDO,3UKU,3F",
    "RITU,3HERU,=1e01b 3SHTA,3TSI,3CHRIVI,3SHA,3YERU,3YERI,3YATI,=1e023 3YU,3SMALL YUS,=1e026 3YO",
    ",3IOTATED SMALL YUS,3BIG YUS,3IOTATED BIG YUS,3FITA,=1e100 0NYIAKENG PUACHUE HMONG LETTER MA",
    ",4TSA,4NTA,4TA,4HA,4NA,4XA,4NKA,4CA,4LA,4SA,4ZA,4NCA,4NTSA,4KA,4DA,4NYA,4NRA,4VA,4NTXA,4TXA,",
    "4FA,4RA,4QA,4YA,4NQA,4PA,4XYA,4NPA,4DLA,4NPLA,4HAH,4MLA,4PLA,4GA,4RRA,4A,4AA,4I,4U,4O,4OO,4E",
    ",4EE,4W,=1e130 3TONE-B,3TONE-M,3TONE-J,3TONE-V,3TONE-S,3TONE-G,3TONE-D,3SIGN FOR PERSON,5THI",
    "NG,5LOCATION,5ANIMAL,5INVERTEBRATE,4XW XW,3SYLLABLE LENGTHENER,=1e140 3DIGIT ZERO,4ONE,4TWO,",
    "4THREE,4FOUR,4FIVE,4SIX,4SEVEN,4EIGHT,4NINE,=1e14e 3LOGOGRAM NYAJ,3CIRCLED CA,=1e290 0TOTO L",
    "ETTER PA,2BA,2TA,2DA,2KA,2GA,2MA,2NA,2NGA,2SA,2CHA,2YA,2WA,2JA,2HA,2RA,2LA,2I,2BREATHY I,2IU",
    ",2BREATHY IU,2U,2E,2BREATHY E,2EO,2BREATHY EO,2O,2AE,2BREATHY AE,2A,1SIGN RISING TONE,=1e2c",
    "0 0WANCHO LETTER AA,2A,2BA,2CA,2DA,2GA,2YA,2PHA,2LA,2NA,2PA,2TA,2THA,2FA,2SA,2SHA,2JA,2ZA,2W",
    "A,2VA,2KA,2O,2AU,2RA,2MA,2KHA,2HA,2E,2I,2NGA,2U,2LLHA,2TSA,2TRA,2ONG,2AANG,2ANG,2ING,2ON,2EN",
    ",2AAN,2NYA,2UEN,2YIH,1TONE TUP,2TUPNI,2KOI,2KOINI,1DIGIT ZERO,2ONE,2TWO,2THREE,2FOUR,2FIVE,2",
    "SIX,2SEVEN,2EIGHT,2NINE,=1e2ff 1NGUN SIGN,=1e7e0 0ETHIOPIC SYLLABLE HHYA,2HHYU,2HHYI,2HHYAA,",
    "2HHYEE,2HHYE,2HHYO,=1e7e8 2GURAGE HHWA,2HHWI,2HHWEE,2HHWE,=1e7ed 2GURAGE MWI,3MWEE,=1e7f0 3Q",
    "WI,3QWEE,3QWE,3BWI,3BWEE,3KWI,3KWEE,3KWE,3GWI,3GWEE,3GWE,3FWI,3FWEE,3PWI,3PWEE,=1e800 0MEND",
    "E KIKAKUI SYLLABLE M001 KI,3M002 KA,3M003 KU,3M065 KEE,3M095 KE,3M076 KOO,3M048 KO,3M179 KUA",
    ",3M004 WI,3M005 WA,3M006 WU,3M126 WEE,3M118 WE,3M114 WOO,3M045 WO,3M194 WUI,3M143 WEI,3M061 ",
    "WVI,3M049 WVA,3M139 WVE,3M007 MIN,3M008 MAN,3M009 MUN,3M059 MEN,3M094 MON,3M154 MUAN,3M189 M",
    "UEN,3M010 BI,3M011 BA,3M012 BU,3M150 BEE,3M097 BE,3M103 BOO,3M138 BO,3M013 I,3M014 A,3M015 U",
    ",3M163 EE,3M100 E,3M165 OO,3M147 O,3M137 EI,3M131 IN,3M135 IN,3M195 AN,3M178 EN,3M019 SI,3M0",
    "20 SA,3M021 SU,3M162 SEE,3M116 SE,3M136 SOO,3M079 SO,3M196 SIA,3M025 LI,3M026 LA,3M027 LU,3M",
    "084 LEE,3M073 LE,3M054 LOO,3M153 LO,3M110 LONG LE,3M016 DI,3M017 DA,3M018 DU,3M089 DEE,3M18",
    "0 DOO,3M181 DO,3M022 TI,3M023 TA,3M024 TU,3M091 TEE,3M055 TE,3M104 TOO,3M069 TO,3M028 JI,3M0",
    "29 JA,3M030 JU,3M157 JEE,3M113 JE,3M160 JOO,3M063 JO,3M175 LONG JO,3M031 YI,3M032 YA,3M033 Y",
    "U,3M109 YEE,3M080 YE,3M141 YOO,3M121 YO,3M034 FI,3M035 FA,3M036 FU,3M078 FEE,3M075 FE,3M133 ",
    "FOO,3M088 FO,3M197 FUA,3M101 FAN,3M037 NIN,3M038 NAN,3M039 NUN,3M117 NEN,3M169 NON,3M176 HI,",
    "3M041 HA,3M186 HU,3M040 HEE,3M096 HE,3M042 HOO,3M140 HO,3M083 HEEI,3M128 HOOU,3M053 HIN,3M13",
    "0 HAN,3M087 HUN,3M052 HEN,3M193 HON,3M046 HUAN,3M090 NGGI,3M043 NGGA,3M082 NGGU,3M115 NGGEE,",
    "3M146 NGGE,3M156 NGGOO,3M120 NGGO,3M159 NGGAA,3M127 NGGUA,3M086 LONG NGGE,3M106 LONG NGGOO,3",
    "M183 LONG NGGO,3M155 GI,3M111 GA,3M168 GU,3M190 GEE,3M166 GUEI,3M167 GUAN,3M184 NGEN,3M057 N",
    "GON,3M177 NGUAN,3M068 PI,3M099 PA,3M050 PU,3M081 PEE,3M051 PE,3M102 POO,3M066 PO,3M145 MBI,3",
    "M062 MBA,3M122 MBU,3M047 MBEE,3M188 MBEE,3M072 MBE,3M172 MBOO,3M174 MBO,3M187 MBUU,3M161 LON",
    "G MBE,3M105 LONG MBOO,3M142 LONG MBO,3M132 KPI,3M092 KPA,3M074 KPU,3M044 KPEE,3M108 KPE,3M11",
    "2 KPOO,3M158 KPO,3M124 GBI,3M056 GBA,3M148 GBU,3M093 GBEE,3M107 GBE,3M071 GBOO,3M070 GBO,3M1",
    "71 RA,3M123 NDI,3M129 NDA,3M125 NDU,3M191 NDEE,3M119 NDE,3M067 NDOO,3M064 NDO,3M152 NJA,3M19",
    "2 NJU,3M149 NJEE,3M134 NJOO,3M182 VI,3M185 VA,3M151 VU,3M173 VEE,3M085 VE,3M144 VOO,3M077 VO",
    ",3M164 NYIN,3M058 NYAN,3M170 NYUN,3M098 NYEN,3M060 NYON,=1e8c7 2DIGIT ONE,3TWO,3THREE,3FOUR,",
    "3FIVE,3SIX,3SEVEN,3EIGHT,3NINE,2COMBINING NUMBER TEENS,4TENS,4HUNDREDS,4THOUSANDS,4TEN THOUS",
    "ANDS,4HUNDRED THOUSANDS,4MILLIONS,=1e900 0ADLAM CAPITAL LETTER ALIF,3DAALI,3LAAM,3MIIM,3BA,3",
    "SINNYIIYHE,3PE,3BHE,3RA,3E,3FA,3I,3O,3DHA,3YHE,3WAW,3NUN,3KAF,3YA,3U,3JIIM,3CHI,3HA,3QAAF,3G",
    "A,3NYA,3TU,3NHA,3VA,3KHA,3GBE,3ZAL,3KPO,3SHA,1SMALL LETTER ALIF,3DAALI,3LAAM,3MIIM,3BA,3SINN",
    "YIIYHE,3PE,3BHE,3RA,3E,3FA,3I,3O,3DHA,3YHE,3WAW,3NUN,3KAF,3YA,3U,3JIIM,3CHI,3HA,3QAAF,3GA,3N",
    "YA,3TU,3NHA,3VA,3KHA,3GBE,3ZAL,3KPO,3SHA,1ALIF LENGTHENER,1VOWEL LENGTHENER,1GEMINATION MARK",
    ",1HAMZA,1CONSONANT MODIFIER,1GEMINATE CONSONANT MODIFIER,1NUKTA,1NASALIZATION MARK,=1e950 1D",
    "IGIT ZERO,2ONE,2TWO,2THREE,2FOUR,2FIVE,2SIX,2SEVEN,2EIGHT,2NINE,=1e95e 1INITIAL EXCLAMATION ",
    "MARK,2QUESTION MARK,=1ec71 0INDIC SIYAQ NUMBER ONE,3TWO,3THREE,3FOUR,3FIVE,3SIX,3SEVEN,3EIGH",
    "T,3NINE,3TEN,3TWENTY,3THIRTY,3FORTY,3FIFTY,3SIXTY,3SEVENTY,3EIGHTY,3NINETY,3ONE HUNDRED,3TW",
    "O HUNDRED,3THREE HUNDRED,3FOUR HUNDRED,3FIVE HUNDRED,3SIX HUNDRED,3SEVEN HUNDRED,3EIGHT HUND",
    "RED,3NINE HUNDRED,3ONE THOUSAND,3TWO THOUSAND,3THREE THOUSAND,3FOUR THOUSAND,3FIVE THOUSAND,",
    "3SIX THOUSAND,3SEVEN THOUSAND,3EIGHT THOUSAND,3NINE THOUSAND,3TEN THOUSAND,3TWENTY THOUSAND,",
    "3THIRTY THOUSAND,3FORTY THOUSAND,3FIFTY THOUSAND,3SIXTY THOUSAND,3SEVENTY THOUSAND,3EIGHTY T",
    "HOUSAND,3NINETY THOUSAND,3LAKH,3LAKHAN,2LAKH MARK,2NUMBER KAROR,3KARORAN,3PREFIXED ONE,4TWO,",
    "4THREE,4FOUR,4FIVE,4SIX,4SEVEN,4EIGHT,4NINE,2PLACEHOLDER,2FRACTION ONE QUARTER,4HALF,3THREE ",
    "QUARTERS,2RUPEE MARK,2NUMBER ALTERNATE ONE,4TWO,4TEN THOUSAND,2ALTERNATE LAKH MARK,=1ed01 0O",
    "TTOMAN SIYAQ NUMBER ONE,3TWO,3THREE,3FOUR,3FIVE,3SIX,3SEVEN,3EIGHT,3NINE,3TEN,3TWENTY,3THIRT",
    "Y,3FORTY,3FIFTY,3SIXTY,3SEVENTY,3EIGHTY,3NINETY,3ONE HUNDRED,3TWO HUNDRED,3THREE HUNDRED,3FO",
    "UR HUNDRED,3FIVE HUNDRED,3SIX HUNDRED,3SEVEN HUNDRED,3EIGHT HUNDRED,3NINE HUNDRED,3ONE THOUS",
    "AND,3TWO THOUSAND,3THREE THOUSAND,3FOUR THOUSAND,3FIVE THOUSAND,3SIX THOUSAND,3SEVEN THOUSAN",
    "D,3EIGHT THOUSAND,3NINE THOUSAND,3TEN THOUSAND,3TWENTY THOUSAND,3THIRTY THOUSAND,3FORTY THOU",
    "SAND,3FIFTY THOUSAND,3SIXTY THOUSAND,3SEVENTY THOUSAND,3EIGHTY THOUSAND,3NINETY THOUSAND,2MA",
    "RRATAN,2ALTERNATE NUMBER TWO,4THREE,4FOUR,4FIVE,4SIX,4SEVEN,4EIGHT,4NINE,4TEN,4FOUR HUNDRED,",
    "4SIX HUNDRED,4TWO THOUSAND,4TEN THOUSAND,2FRACTION ONE HALF,4SIXTH,=1ee00 0ARABIC MATHEMATIC",
    "AL ALEF,2BEH,2JEEM,2DAL,=1ee05 2WAW,2ZAIN,2HAH,2TAH,2YEH,2KAF,2LAM,2MEEM,2NOON,2SEEN,2AIN,2F",
    "EH,2SAD,2QAF,2REH,2SHEEN,2TEH,2THEH,2KHAH,2THAL,2DAD,2ZAH,2GHAIN,2DOTLESS BEH,3NOON,3FEH,3QA",
    "F,=1ee21 2INITIAL BEH,3JEEM,=1ee24 3HEH,=1ee27 3HAH,=1ee29 3YEH,3KAF,3LAM,3MEEM,3NOON,3SEEN,",
    "3AIN,3FEH,3SAD,3QAF,=1ee34 3SHEEN,3TEH,3THEH,3KHAH,=1ee39 3DAD,=1ee3b 3GHAIN,=1ee42 2TAILED ",
    "JEEM,=1ee47 3HAH,=1ee49 3YEH,=1ee4b 3LAM,=1ee4d 3NOON,3SEEN,3AIN,=1ee51 3SAD,3QAF,=1ee54 3SH",
    "EEN,=1ee57 3KHAH,=1ee59 3DAD,=1ee5b 3GHAIN,=1ee5d 3DOTLESS NOON,=1ee5f 4QAF,=1ee61 2STRETCHE",
    "D BEH,3JEEM,=1ee64 3HEH,=1ee67 3HAH,3TAH,3YEH,3KAF,=1ee6c 3MEEM,3NOON,3SEEN,3AIN,3FEH,3SAD,3",
    "QAF,=1ee74 3SHEEN,3TEH,3THEH,3KHAH,=1ee79 3DAD,3ZAH,3GHAIN,3DOTLESS BEH,=1ee7e 4FEH,=1ee80 2",
    "LOOPED ALEF,3BEH,3JEEM,3DAL,3HEH,3WAW,3ZAIN,3HAH,3TAH,3YEH,=1ee8b 3LAM,3MEEM,3NOON,3SEEN,3AI",
    "N,3FEH,3SAD,3QAF,3REH,3SHEEN,3TEH,3THEH,3KHAH,3THAL,3DAD,3ZAH,3GHAIN,=1eea1 2DOUBLE-STRUCK B",
    "EH,3JEEM,3DAL,=1eea5 3WAW,3ZAIN,3HAH,3TAH,3YEH,=1eeab 3LAM,3MEEM,3NOON,3SEEN,3AIN,3FEH,3SAD,",
    "3QAF,3REH,3SHEEN,3TEH,3THEH,3KHAH,3THAL,3DAD,3ZAH,3GHAIN,=1eef0 2OPERATOR MEEM WITH HAH WIT",
    "H TATWEEL,3HAH WITH DAL,=1f000 0MAHJONG TILE EAST WIND,2SOUTH WIND,2WEST WIND,2NORTH WIND,2R",
    "ED DRAGON,2GREEN DRAGON,2WHITE DRAGON,2ONE OF CHARACTERS,2TWO OF CHARACTERS,2THREE OF CHARAC",
    "TERS,2FOUR OF CHARACTERS,2FIVE OF CHARACTERS,2SIX OF CHARACTERS,2SEVEN OF CHARACTERS,2EIGHT ",
    "OF CHARACTERS,2NINE OF CHARACTERS,2ONE OF BAMBOOS,2TWO OF BAMBOOS,2THREE OF BAMBOOS,2FOUR O",
    "F BAMBOOS,2FIVE OF BAMBOOS,2SIX OF BAMBOOS,2SEVEN OF BAMBOOS,2EIGHT OF BAMBOOS,2NINE OF BAMB",
    "OOS,2ONE OF CIRCLES,2TWO OF CIRCLES,2THREE OF CIRCLES,2FOUR OF CIRCLES,2FIVE OF CIRCLES,2SI",
    "X OF CIRCLES,2SEVEN OF CIRCLES,2EIGHT OF CIRCLES,2NINE OF CIRCLES,2PLUM,2ORCHID,2BAMBOO,2CHR",
    "YSANTHEMUM,2SPRING,2SUMMER,2AUTUMN,2WINTER,2JOKER,2BACK,=1f030 0DOMINO TILE HORIZONTAL BACK,",
    "2HORIZONTAL-00-00,2HORIZONTAL-00-01,2HORIZONTAL-00-02,2HORIZONTAL-00-03,2HORIZONTAL-00-04,2H",
    "ORIZONTAL-00-05,2HORIZONTAL-00-06,2HORIZONTAL-01-00,2HORIZONTAL-01-01,2HORIZONTAL-01-02,2HOR",
    "IZONTAL-01-03,2HORIZONTAL-01-04,2HORIZONTAL-01-05,2HORIZONTAL-01-06,2HORIZONTAL-02-00,2HORIZ",
    "ONTAL-02-01,2HORIZONTAL-02-02,2HORIZONTAL-02-03,2HORIZONTAL-02-04,2HORIZONTAL-02-05,2HORIZON",
    "TAL-02-06,2HORIZONTAL-03-00,2HORIZONTAL-03-01,2HORIZONTAL-03-02,2HORIZONTAL-03-03,2HORIZONTA",
    "L-03-04,2HORIZONTAL-03-05,2HORIZONTAL-03-06,2HORIZONTAL-04-00,2HORIZONTAL-04-01,2HORIZONTAL-",
    "04-02,2HORIZONTAL-04-03,2HORIZONTAL-04-04,2HORIZONTAL-04-05,2HORIZONTAL-04-06,2HORIZONTAL-05",
    "-00,2HORIZONTAL-05-01,2HORIZONTAL-05-02,2HORIZONTAL-05-03,2HORIZONTAL-05-04,2HORIZONTAL-05-0",
    "5,2HORIZONTAL-05-06,2HORIZONTAL-06-00,2HORIZONTAL-06-01,2HORIZONTAL-06-02,2HORIZONTAL-06-03,",
    "2HORIZONTAL-06-04,2HORIZONTAL-06-05,2HORIZONTAL-06-06,2VERTICAL BACK,2VERTICAL-00-00,2VERTIC",
    "AL-00-01,2VERTICAL-00-02,2VERTICAL-00-03,2VERTICAL-00-04,2VERTICAL-00-05,2VERTICAL-00-06,2VE",
    "RTICAL-01-00,2VERTICAL-01-01,2VERTICAL-01-02,2VERTICAL-01-03,2VERTICAL-01-04,2VERTICAL-01-05",
    ",2VERTICAL-01-06,2VERTICAL-02-00,2VERTICAL-02-01,2VERTICAL-02-02,2VERTICAL-02-03,2VERTICAL-0",
    "2-04,2VERTICAL-02-05,2VERTICAL-02-06,2VERTICAL-03-00,2VERTICAL-03-01,2VERTICAL-03-02,2VERTIC",
    "AL-03-03,2VERTICAL-03-04,2VERTICAL-03-05,2VERTICAL-03-06,2VERTICAL-04-00,2VERTICAL-04-01,2VE",
    "RTICAL-04-02,2VERTICAL-04-03,2VERTICAL-04-04,2VERTICAL-04-05,2VERTICAL-04-06,2VERTICAL-05-00",
    ",2VERTICAL-05-01,2VERTICAL-05-02,2VERTICAL-05-03,2VERTICAL-05-04,2VERTICAL-05-05,2VERTICAL-0",
    "5-06,2VERTICAL-06-00,2VERTICAL-06-01,2VERTICAL-06-02,2VERTICAL-06-03,2VERTICAL-06-04,2VERTIC",
    "AL-06-05,2VERTICAL-06-06,=1f0a0 0PLAYING CARD BACK,2ACE OF SPADES,2TWO OF SPADES,2THREE OF S",
    "PADES,2FOUR OF SPADES,2FIVE OF SPADES,2SIX OF SPADES,2SEVEN OF SPADES,2EIGHT OF SPADES,2NIN",
    "E OF SPADES,2TEN OF SPADES,2JACK OF SPADES,2KNIGHT OF SPADES,2QUEEN OF SPADES,2KING OF SPADE",
    "S,=1f0b1 2ACE OF HEARTS,2TWO OF HEARTS,2THREE OF HEARTS,2FOUR OF HEARTS,2FIVE OF HEARTS,2SI",
    "X OF HEARTS,2SEVEN OF HEARTS,2EIGHT OF HEARTS,2NINE OF HEARTS,2TEN OF HEARTS,2JACK OF HEARTS",
    ",2KNIGHT OF HEARTS,2QUEEN OF HEARTS,2KING OF HEARTS,2RED JOKER,=1f0c1 2ACE OF DIAMONDS,2TWO ",
    "OF DIAMONDS,2THREE OF DIAMONDS,2FOUR OF DIAMONDS,2FIVE OF DIAMONDS,2SIX OF DIAMONDS,2SEVEN O",
    "F DIAMONDS,2EIGHT OF DIAMONDS,2NINE OF DIAMONDS,2TEN OF DIAMONDS,2JACK OF DIAMONDS,2KNIGHT O",
    "F DIAMONDS,2QUEEN OF DIAMONDS,2KING OF DIAMONDS,2BLACK JOKER,=1f0d1 2ACE OF CLUBS,2TWO OF CL",
    "UBS,2THREE OF CLUBS,2FOUR OF CLUBS,2FIVE OF CLUBS,2SIX OF CLUBS,2SEVEN OF CLUBS,2EIGHT OF CL",
    "UBS,2NINE OF CLUBS,2TEN OF CLUBS,2JACK OF CLUBS,2KNIGHT OF CLUBS,2QUEEN OF CLUBS,2KING OF CL",
    "UBS,2WHITE JOKER,2FOOL,2TRUMP-1,2TRUMP-2,2TRUMP-3,2TRUMP-4,2TRUMP-5,2TRUMP-6,2TRUMP-7,2TRUMP",
    "-8,2TRUMP-9,2TRUMP-10,2TRUMP-11,2TRUMP-12,2TRUMP-13,2TRUMP-14,2TRUMP-15,2TRUMP-16,2TRUMP-17,",
    "2TRUMP-18,2TRUMP-19,2TRUMP-20,2TRUMP-21,=1f100 0DIGIT ZERO FULL STOP,2COMMA,1ONE COMMA,1TWO ",
    "COMMA,1THREE COMMA,1FOUR COMMA,1FIVE COMMA,1SIX COMMA,1SEVEN COMMA,1EIGHT COMMA,1NINE COMMA,",
    "0DINGBAT CIRCLED SANS-SERIF DIGIT ZERO,1NEGATIVE CIRCLED SANS-SERIF DIGIT ZERO,0CIRCLED ZER",
    "O WITH SLASH,1ANTICLOCKWISE ARROW,1DOLLAR SIGN WITH OVERLAID BACKSLASH,0PARENTHESIZED LATIN ",
    "CAPITAL LETTER A,4B,4C,4D,4E,4F,4G,4H,4I,4J,4K,4L,4M,4N,4O,4P,4Q,4R,4S,4T,4U,4V,4W,4X,4Y,4Z,",
    "0TORTOISE SHELL BRACKETED LATIN CAPITAL LETTER S,0CIRCLED ITALIC LATIN CAPITAL LETTER C,5R,1",
    "CD,1WZ,0COPYLEFT SYMBOL,0SQUARED LATIN CAPITAL LETTER A,4B,4C,4D,4E,4F,4G,4H,4I,4J,4K,4L,4M,",
    "4N,4O,4P,4Q,4R,4S,4T,4U,4V,4W,4X,4Y,4Z,1HV,1MV,1SD,1SS,1PPV,1WC,0NEGATIVE CIRCLED LATIN CAPI",
    "TAL LETTER A,5B,5C,5D,5E,5F,5G,5H,5I,5J,5K,5L,5M,5N,5O,5P,5Q,5R,5S,5T,5U,5V,5W,5X,5Y,5Z,0RAI",
    "SED MC SIGN,1MD SIGN,1MR SIGN,0CIRCLED CC,1C WITH OVERLAID BACKSLASH,1HUMAN FIGURE,0NEGATIV",
    "E SQUARED LATIN CAPITAL LETTER A,5B,5C,5D,5E,5F,5G,5H,5I,5J,5K,5L,5M,5N,5O,5P,5Q,5R,5S,5T,5U",
    ",5V,5W,5X,5Y,5Z,0CROSSED NEGATIVE SQUARED LATIN CAPITAL LETTER P,0NEGATIVE SQUARED IC,2PA,2S",
    "A,2AB,2WC,0SQUARE DJ,0SQUARED CL,1COOL,1FREE,1ID,1NEW,1NG,1OK,1SOS,1UP WITH EXCLAMATION MARK",
    ",1VS,1THREE D,1SECOND SCREEN,1TWO K,1FOUR K,1EIGHT K,1FIVE POINT ONE,1SEVEN POINT ONE,1TWENT",
    "Y-TWO POINT TWO,1SIXTY P,1ONE HUNDRED TWENTY P,1LATIN SMALL LETTER D,1HC,1HDR,1HI-RES,1LOSSL",
    "ESS,1SHV,1UHD,1VOD,0MASK WORK SYMBOL,=1f1e6 0REGIONAL INDICATOR SYMBOL LETTER A,4B,4C,4D,4E,",
    "4F,4G,4H,4I,4J,4K,4L,4M,4N,4O,4P,4Q,4R,4S,4T,4U,4V,4W,4X,4Y,4Z,0SQUARE HIRAGANA HOKA,0SQUARE",
    "D KATAKANA KOKO,2SA,=1f210 1CJK UNIFIED IDEOGRAPH-624B,3IDEOGRAPH-5B57,3IDEOGRAPH-53CC,1KATA",
    "KANA DE,1CJK UNIFIED IDEOGRAPH-4E8C,3IDEOGRAPH-591A,3IDEOGRAPH-89E3,3IDEOGRAPH-5929,3IDEOGRA",
    "PH-4EA4,3IDEOGRAPH-6620,3IDEOGRAPH-7121,3IDEOGRAPH-6599,3IDEOGRAPH-524D,3IDEOGRAPH-5F8C,3IDE",
    "OGRAPH-518D,3IDEOGRAPH-65B0,3IDEOGRAPH-521D,3IDEOGRAPH-7D42,3IDEOGRAPH-751F,3IDEOGRAPH-8CA9,",
    "3IDEOGRAPH-58F0,3IDEOGRAPH-5439,3IDEOGRAPH-6F14,3IDEOGRAPH-6295,3IDEOGRAPH-6355,3IDEOGRAPH-4",
    "E00,3IDEOGRAPH-4E09,3IDEOGRAPH-904A,3IDEOGRAPH-5DE6,3IDEOGRAPH-4E2D,3IDEOGRAPH-53F3,3IDEOGRA",
    "PH-6307,3IDEOGRAPH-8D70,3IDEOGRAPH-6253,3IDEOGRAPH-7981,3IDEOGRAPH-7A7A,3IDEOGRAPH-5408,3IDE",
    "OGRAPH-6E80,3IDEOGRAPH-6709,3IDEOGRAPH-6708,3IDEOGRAPH-7533,3IDEOGRAPH-5272,3IDEOGRAPH-55B6,",
    "3IDEOGRAPH-914D,=1f240 0TORTOISE SHELL BRACKETED CJK UNIFIED IDEOGRAPH-672C,5IDEOGRAPH-4E09,",
    "5IDEOGRAPH-4E8C,5IDEOGRAPH-5B89,5IDEOGRAPH-70B9,5IDEOGRAPH-6253,5IDEOGRAPH-76D7,5IDEOGRAPH-5",
    "2DD,5IDEOGRAPH-6557,=1f250 0CIRCLED IDEOGRAPH ADVANTAGE,2ACCEPT,=1f260 0ROUNDED SYMBOL FOR F",
    "U,3LU,3SHOU,3XI,3SHUANGXI,3CAI,=1f300 0CYCLONE,0FOGGY,0CLOSED UMBRELLA,0NIGHT WITH STARS,0SU",
    "NRISE OVER MOUNTAINS,1,0CITYSCAPE AT DUSK,0SUNSET OVER BUILDINGS,0RAINBOW,0BRIDGE AT NIGHT,0",
    "WATER WAVE,0VOLCANO,0MILKY WAY,0EARTH GLOBE EUROPE-AFRICA,2AMERICAS,2ASIA-AUSTRALIA,0GLOBE W",
    "ITH MERIDIANS,0NEW MOON SYMBOL,0WAXING CRESCENT MOON SYMBOL,0FIRST QUARTER MOON SYMBOL,0WAXI",
    "NG GIBBOUS MOON SYMBOL,0FULL MOON SYMBOL,0WANING GIBBOUS MOON SYMBOL,0LAST QUARTER MOON SYMB",
    "OL,0WANING CRESCENT MOON SYMBOL,0CRESCENT MOON,0NEW MOON WITH FACE,0FIRST QUARTER MOON WITH ",
    "FACE,0LAST QUARTER MOON WITH FACE,0FULL MOON WITH FACE,0SUN WITH FACE,0GLOWING STAR,0SHOOTIN",
    "G STAR,0THERMOMETER,0BLACK DROPLET,0WHITE SUN,2WITH SMALL CLOUD,2BEHIND CLOUD,4WITH RAIN,0CL",
    "OUD WITH RAIN,2SNOW,2LIGHTNING,2TORNADO,0FOG,0WIND BLOWING FACE,0HOT DOG,0TACO,0BURRITO,0CHE",
    "STNUT,0SEEDLING,0EVERGREEN TREE,0DECIDUOUS TREE,0PALM TREE,0CACTUS,0HOT PEPPER,0TULIP,0CHERR",
    "Y BLOSSOM,0ROSE,0HIBISCUS,0SUNFLOWER,0BLOSSOM,0EAR OF MAIZE,2RICE,0HERB,0FOUR LEAF CLOVER,0M",
    "APLE LEAF,0FALLEN LEAF,0LEAF FLUTTERING IN WIND,0MUSHROOM,0TOMATO,0AUBERGINE,0GRAPES,0MELON,",
    "0WATERMELON,0TANGERINE,0LEMON,0BANANA,0PINEAPPLE,0RED APPLE,0GREEN APPLE,0PEAR,0PEACH,0CHERR",
    "IES,0STRAWBERRY,0HAMBURGER,0SLICE OF PIZZA,0MEAT ON BONE,0POULTRY LEG,0RICE CRACKER,1BALL,0C",
    "OOKED RICE,0CURRY AND RICE,0STEAMING BOWL,0SPAGHETTI,0BREAD,0FRENCH FRIES,0ROASTED SWEET POT",
    "ATO,0DANGO,0ODEN,0SUSHI,0FRIED SHRIMP,0FISH CAKE WITH SWIRL DESIGN,0SOFT ICE CREAM,0SHAVED I",
    "CE,0ICE CREAM,0DOUGHNUT,0COOKIE,0CHOCOLATE BAR,0CANDY,0LOLLIPOP,0CUSTARD,0HONEY POT,0SHORTCA",
    "KE,0BENTO BOX,0POT OF FOOD,0COOKING,0FORK AND KNIFE,0TEACUP WITHOUT HANDLE,0SAKE BOTTLE AND ",
    "CUP,0WINE GLASS,0COCKTAIL GLASS,0TROPICAL DRINK,0BEER MUG,0CLINKING BEER MUGS,0BABY BOTTLE,0",
    "FORK AND KNIFE WITH PLATE,0BOTTLE WITH POPPING CORK,0POPCORN,0RIBBON,0WRAPPED PRESENT,0BIRTH",
    "DAY CAKE,0JACK-O-LANTERN,0CHRISTMAS TREE,0FATHER CHRISTMAS,0FIREWORKS,0FIREWORK SPARKLER,0BA",
    "LLOON,0PARTY POPPER,0CONFETTI BALL,0TANABATA TREE,0CROSSED FLAGS,0PINE DECORATION,0JAPANESE ",
    "DOLLS,0CARP STREAMER,0WIND CHIME,0MOON VIEWING CEREMONY,0SCHOOL SATCHEL,0GRADUATION CAP,0HEA",
    "RT WITH TIP ON THE LEFT,0BOUQUET OF FLOWERS,0MILITARY MEDAL,0REMINDER RIBBON,0MUSICAL KEYBOA",
    "RD WITH JACKS,0STUDIO MICROPHONE,0LEVEL SLIDER,0CONTROL KNOBS,0BEAMED ASCENDING MUSICAL NOTE",
    "S,1DESCENDING MUSICAL NOTES,0FILM FRAMES,0ADMISSION TICKETS,0CAROUSEL HORSE,0FERRIS WHEEL,0R",
    "OLLER COASTER,0FISHING POLE AND FISH,0MICROPHONE,0MOVIE CAMERA,0CINEMA,0HEADPHONE,0ARTIST PA",
    "LETTE,0TOP HAT,0CIRCUS TENT,0TICKET,0CLAPPER BOARD,0PERFORMING ARTS,0VIDEO GAME,0DIRECT HIT,",
    "0SLOT MACHINE,0BILLIARDS,0GAME DIE,0BOWLING,0FLOWER PLAYING CARDS,0MUSICAL NOTE,0MULTIPLE MU",
    "SICAL NOTES,0SAXOPHONE,0GUITAR,0MUSICAL KEYBOARD,0TRUMPET,0VIOLIN,0MUSICAL SCORE,0RUNNING SH",
    "IRT WITH SASH,0TENNIS RACQUET AND BALL,0SKI AND SKI BOOT,0BASKETBALL AND HOOP,0CHEQUERED FLA",
    "G,0SNOWBOARDER,0RUNNER,0SURFER,0SPORTS MEDAL,0TROPHY,0HORSE RACING,0AMERICAN FOOTBALL,0RUGB",
    "Y FOOTBALL,0SWIMMER,0WEIGHT LIFTER,0GOLFER,0RACING MOTORCYCLE,1CAR,0CRICKET BAT AND BALL,0VO",
    "LLEYBALL,0FIELD HOCKEY STICK AND BALL,0ICE HOCKEY STICK AND PUCK,0TABLE TENNIS PADDLE AND BA",
    "LL,0SNOW CAPPED MOUNTAIN,0CAMPING,0BEACH WITH UMBRELLA,0BUILDING CONSTRUCTION,0HOUSE BUILDIN",
    "GS,0CITYSCAPE,0DERELICT HOUSE BUILDING,0CLASSICAL BUILDING,0DESERT,1ISLAND,0NATIONAL PARK,0S",
    "TADIUM,0HOUSE BUILDING,1WITH GARDEN,0OFFICE BUILDING,0JAPANESE POST OFFICE,0EUROPEAN POST OF",
    "FICE,0HOSPITAL,0BANK,0AUTOMATED TELLER MACHINE,0HOTEL,0LOVE HOTEL,0CONVENIENCE STORE,0SCHOOL",
    ",0DEPARTMENT STORE,0FACTORY,0IZAKAYA LANTERN,0JAPANESE CASTLE,0EUROPEAN CASTLE,0WHITE PENNAN",
    "T,0BLACK PENNANT,0WAVING WHITE FLAG,1BLACK FLAG,0ROSETTE,0BLACK ROSETTE,0LABEL,0BADMINTON RA",
    "CQUET AND SHUTTLECOCK,0BOW AND ARROW,0AMPHORA,0EMOJI MODIFIER FITZPATRICK TYPE-1-2,3TYPE-3,3",
    "TYPE-4,3TYPE-5,3TYPE-6,0RAT,0MOUSE,0OX,0WATER BUFFALO,0COW,0TIGER,0LEOPARD,0RABBIT,0CAT,0DRA",
    "GON,0CROCODILE,0WHALE,0SNAIL,0SNAKE,0HORSE,0RAM,0GOAT,0SHEEP,0MONKEY,0ROOSTER,0CHICKEN,0DOG,",
    "0PIG,0BOAR,0ELEPHANT,0OCTOPUS,0SPIRAL SHELL,0BUG,0ANT,0HONEYBEE,0LADY BEETLE,0FISH,0TROPICA",
    "L FISH,0BLOWFISH,0TURTLE,0HATCHING CHICK,0BABY CHICK,0FRONT-FACING BABY CHICK,0BIRD,0PENGUIN",
    ",0KOALA,0POODLE,0DROMEDARY CAMEL,0BACTRIAN CAMEL,0DOLPHIN,0MOUSE FACE,0COW FACE,0TIGER FACE,",
    "0RABBIT FACE,0CAT FACE,0DRAGON FACE,0SPOUTING WHALE,0HORSE FACE,0MONKEY FACE,0DOG FACE,0PIG ",
    "FACE,0FROG FACE,0HAMSTER FACE,0WOLF FACE,0BEAR FACE,0PANDA FACE,0PIG NOSE,0PAW PRINTS,0CHIPM",
    "UNK,0EYES,0EYE,0EAR,0NOSE,0MOUTH,0TONGUE,0WHITE UP POINTING BACKHAND INDEX,1DOWN POINTING BA",
    "CKHAND INDEX,1LEFT POINTING BACKHAND INDEX,1RIGHT POINTING BACKHAND INDEX,0FISTED HAND SIGN,",
    "0WAVING HAND SIGN,0OK HAND SIGN,0THUMBS UP SIGN,1DOWN SIGN,0CLAPPING HANDS SIGN,0OPEN HANDS ",
    "SIGN,0CROWN,0WOMANS HAT,0EYEGLASSES,0NECKTIE,0T-SHIRT,0JEANS,0DRESS,0KIMONO,0BIKINI,0WOMANS ",
    "CLOTHES,0PURSE,0HANDBAG,0POUCH,0MANS SHOE,0ATHLETIC SHOE,0HIGH-HEELED SHOE,0WOMANS SANDAL,1B",
    "OOTS,0FOOTPRINTS,0BUST IN SILHOUETTE,0BUSTS IN SILHOUETTE,0BOY,0GIRL,0MAN,0WOMAN,0FAMILY,0MA",
    "N AND WOMAN HOLDING HANDS,0TWO MEN HOLDING HANDS,1WOMEN HOLDING HANDS,0POLICE OFFICER,0WOMA",
    "N WITH BUNNY EARS,0BRIDE WITH VEIL,0PERSON WITH BLOND HAIR,0MAN WITH GUA PI MAO,2TURBAN,0OLD",
    "ER MAN,1WOMAN,0BABY,0CONSTRUCTION WORKER,0PRINCESS,0JAPANESE OGRE,1GOBLIN,0GHOST,0BABY ANGEL",
    ",0EXTRATERRESTRIAL ALIEN,0ALIEN MONSTER,0IMP,0SKULL,0INFORMATION DESK PERSON,0GUARDSMAN,0DAN",
    "CER,0LIPSTICK,0NAIL POLISH,0FACE MASSAGE,0HAIRCUT,0BARBER POLE,0SYRINGE,0PILL,0KISS MARK,0LO",
    "VE LETTER,0RING,0GEM STONE,0KISS,0BOUQUET,0COUPLE WITH HEART,0WEDDING,0BEATING HEART,0BROKE",
    "N HEART,0TWO HEARTS,0SPARKLING HEART,0GROWING HEART,0HEART WITH ARROW,0BLUE HEART,0GREEN HEA",
    "RT,0YELLOW HEART,0PURPLE HEART,0HEART WITH RIBBON,0REVOLVING HEARTS,0HEART DECORATION,0DIAMO",
    "ND SHAPE WITH A DOT INSIDE,0ELECTRIC LIGHT BULB,0ANGER SYMBOL,0BOMB,0SLEEPING SYMBOL,0COLLIS",
    "ION SYMBOL,0SPLASHING SWEAT SYMBOL,0DROPLET,0DASH SYMBOL,0PILE OF POO,0FLEXED BICEPS,0DIZZY ",
    "SYMBOL,0SPEECH BALLOON,0THOUGHT BALLOON,0WHITE FLOWER,0HUNDRED POINTS SYMBOL,0MONEY BAG,0CUR",
    "RENCY EXCHANGE,0HEAVY DOLLAR SIGN,0CREDIT CARD,0BANKNOTE WITH YEN SIGN,2DOLLAR SIGN,2EURO SI",
    "GN,2POUND SIGN,0MONEY WITH WINGS,0CHART WITH UPWARDS TREND AND YEN SIGN,0SEAT,0PERSONAL COMP",
    "UTER,0BRIEFCASE,0MINIDISC,0FLOPPY DISK,0OPTICAL DISC,0DVD,0FILE FOLDER,0OPEN FILE FOLDER,0PA",
    "GE WITH CURL,1FACING UP,0CALENDAR,0TEAR-OFF CALENDAR,0CARD INDEX,0CHART WITH UPWARDS TREND,2",
    "DOWNWARDS TREND,0BAR CHART,0CLIPBOARD,0PUSHPIN,0ROUND PUSHPIN,0PAPERCLIP,0STRAIGHT RULER,0TR",
    "IANGULAR RULER,0BOOKMARK TABS,0LEDGER,0NOTEBOOK,1WITH DECORATIVE COVER,0CLOSED BOOK,0OPEN BO",
    "OK,0GREEN BOOK,0BLUE BOOK,0ORANGE BOOK,0BOOKS,0NAME BADGE,0SCROLL,0MEMO,0TELEPHONE RECEIVER,",
    "0PAGER,0FAX MACHINE,0SATELLITE ANTENNA,0PUBLIC ADDRESS LOUDSPEAKER,0CHEERING MEGAPHONE,0OUTB",
    "OX TRAY,0INBOX TRAY,0PACKAGE,0E-MAIL SYMBOL,0INCOMING ENVELOPE,0ENVELOPE WITH DOWNWARDS ARRO",
    "W ABOVE,0CLOSED MAILBOX WITH LOWERED FLAG,3RAISED FLAG,0OPEN MAILBOX WITH RAISED FLAG,3LOWER",
    "ED FLAG,0POSTBOX,0POSTAL HORN,0NEWSPAPER,0MOBILE PHONE,2WITH RIGHTWARDS ARROW AT LEFT,0VIBRA",
    "TION MODE,0MOBILE PHONE OFF,0NO MOBILE PHONES,0ANTENNA WITH BARS,0CAMERA,1WITH FLASH,0VIDEO ",
    "CAMERA,0TELEVISION,0RADIO,0VIDEOCASSETTE,0FILM PROJECTOR,0PORTABLE STEREO,0PRAYER BEADS,0TWI",
    "STED RIGHTWARDS ARROWS,0CLOCKWISE RIGHTWARDS AND LEFTWARDS OPEN CIRCLE ARROWS,7WITH CIRCLED ",
    "ONE OVERLAY,1DOWNWARDS AND UPWARDS OPEN CIRCLE ARROWS,0ANTICLOCKWISE DOWNWARDS AND UPWARDS O",
    "PEN CIRCLE ARROWS,0LOW BRIGHTNESS SYMBOL,0HIGH BRIGHTNESS SYMBOL,0SPEAKER WITH CANCELLATION ",
    "STROKE,1,1WITH ONE SOUND WAVE,2THREE SOUND WAVES,0BATTERY,0ELECTRIC PLUG,0LEFT-POINTING MAGN",
    "IFYING GLASS,0RIGHT-POINTING MAGNIFYING GLASS,0LOCK WITH INK PEN,0CLOSED LOCK WITH KEY,0KEY,",
    "0LOCK,0OPEN LOCK,0BELL,1WITH CANCELLATION STROKE,0BOOKMARK,0LINK SYMBOL,0RADIO BUTTON,0BACK ",
    "WITH LEFTWARDS ARROW ABOVE,0END WITH LEFTWARDS ARROW ABOVE,0ON WITH EXCLAMATION MARK WITH LE",
    "FT RIGHT ARROW ABOVE,0SOON WITH RIGHTWARDS ARROW ABOVE,0TOP WITH UPWARDS ARROW ABOVE,0NO ON",
    "E UNDER EIGHTEEN SYMBOL,0KEYCAP TEN,0INPUT SYMBOL FOR LATIN CAPITAL LETTERS,4SMALL LETTERS,3",
    "NUMBERS,3SYMBOLS,3LATIN LETTERS,0FIRE,0ELECTRIC TORCH,0WRENCH,0HAMMER,0NUT AND BOLT,0HOCHO,0",
    "PISTOL,0MICROSCOPE,0TELESCOPE,0CRYSTAL BALL,0SIX POINTED STAR WITH MIDDLE DOT,0JAPANESE SYMB",
    "OL FOR BEGINNER,0TRIDENT EMBLEM,0BLACK SQUARE BUTTON,0WHITE SQUARE BUTTON,0LARGE RED CIRCLE,",
    "1BLUE CIRCLE,1ORANGE DIAMOND,1BLUE DIAMOND,0SMALL ORANGE DIAMOND,1BLUE DIAMOND,0UP-POINTING ",
    "RED TRIANGLE,0DOWN-POINTING RED TRIANGLE,0UP-POINTING SMALL RED TRIANGLE,0DOWN-POINTING SMAL",
    "L RED TRIANGLE,0LOWER RIGHT SHADOWED WHITE CIRCLE,0UPPER RIGHT SHADOWED WHITE CIRCLE,0CIRCLE",
    "D CROSS POMMEE,0CROSS POMMEE WITH HALF-CIRCLE BELOW,2,0NOTCHED LEFT SEMICIRCLE WITH THREE DO",
    "TS,1RIGHT SEMICIRCLE WITH THREE DOTS,0SYMBOL FOR MARKS CHAPTER,0WHITE LATIN CROSS,0HEAVY LAT",
    "IN CROSS,0CELTIC CROSS,0OM SYMBOL,0DOVE OF PEACE,0KAABA,0MOSQUE,0SYNAGOGUE,0MENORAH WITH NIN",
    "E BRANCHES,0BOWL OF HYGIEIA,0CLOCK FACE ONE OCLOCK,2TWO OCLOCK,2THREE OCLOCK,2FOUR OCLOCK,2F",
    "IVE OCLOCK,2SIX OCLOCK,2SEVEN OCLOCK,2EIGHT OCLOCK,2NINE OCLOCK,2TEN OCLOCK,2ELEVEN OCLOCK,2",
    "TWELVE OCLOCK,2ONE-THIRTY,2TWO-THIRTY,2THREE-THIRTY,2FOUR-THIRTY,2FIVE-THIRTY,2SIX-THIRTY,2S",
    "EVEN-THIRTY,2EIGHT-THIRTY,2NINE-THIRTY,2TEN-THIRTY,2ELEVEN-THIRTY,2TWELVE-THIRTY,0RIGHT SPEA",
    "KER,2WITH ONE SOUND WAVE,3THREE SOUND WAVES,0BULLHORN,1WITH SOUND WAVES,0RINGING BELL,0BOOK,",
    "0CANDLE,0MANTELPIECE CLOCK,0BLACK SKULL AND CROSSBONES,0NO PIRACY,0HOLE,0MAN IN BUSINESS SUI",
    "T LEVITATING,0SLEUTH OR SPY,0DARK SUNGLASSES,0SPIDER,1WEB,0JOYSTICK,0MAN DANCING,0LEFT HAND ",
    "TELEPHONE RECEIVER,0TELEPHONE RECEIVER WITH PAGE,0RIGHT HAND TELEPHONE RECEIVER,0WHITE TOUCH",
    "TONE TELEPHONE,0BLACK TOUCHTONE TELEPHONE,0TELEPHONE ON TOP OF MODEM,0CLAMSHELL MOBILE PHONE",
    ",0BACK OF ENVELOPE,0STAMPED ENVELOPE,0ENVELOPE WITH LIGHTNING,0FLYING ENVELOPE,0PEN OVER STA",
    "MPED ENVELOPE,0LINKED PAPERCLIPS,0BLACK PUSHPIN,0LOWER LEFT PENCIL,2BALLPOINT PEN,2FOUNTAIN ",
    "PEN,2PAINTBRUSH,2CRAYON,0LEFT WRITING HAND,0TURNED OK HAND SIGN,0RAISED HAND WITH FINGERS SP",
    "LAYED,0REVERSED RAISED HAND WITH FINGERS SPLAYED,1THUMBS UP SIGN,2DOWN SIGN,1VICTORY HAND,1H",
    "AND WITH MIDDLE FINGER EXTENDED,0RAISED HAND WITH PART BETWEEN MIDDLE AND RING FINGERS,0WHIT",
    "E DOWN POINTING LEFT HAND INDEX,0SIDEWAYS WHITE LEFT POINTING INDEX,2RIGHT POINTING INDEX,1B",
    "LACK LEFT POINTING INDEX,2RIGHT POINTING INDEX,0BLACK LEFT POINTING BACKHAND INDEX,1RIGHT PO",
    "INTING BACKHAND INDEX,0SIDEWAYS WHITE UP POINTING INDEX,2DOWN POINTING INDEX,1BLACK UP POINT",
    "ING INDEX,2DOWN POINTING INDEX,0BLACK UP POINTING BACKHAND INDEX,1DOWN POINTING BACKHAND IND",
    "EX,1HEART,0DESKTOP COMPUTER,0KEYBOARD AND MOUSE,0THREE NETWORKED COMPUTERS,0PRINTER,0POCKET ",
    "CALCULATOR,0BLACK HARD SHELL FLOPPY DISK,0WHITE HARD SHELL FLOPPY DISK,0SOFT SHELL FLOPPY DI",
    "SK,0TAPE CARTRIDGE,0WIRED KEYBOARD,0ONE BUTTON MOUSE,0TWO BUTTON MOUSE,0THREE BUTTON MOUSE,0",
    "TRACKBALL,0OLD PERSONAL COMPUTER,0HARD DISK,0SCREEN,0PRINTER ICON,0FAX ICON,0OPTICAL DISC IC",
    "ON,0DOCUMENT WITH TEXT,3AND PICTURE,2PICTURE,0FRAME WITH PICTURE,2TILES,2AN X,0BLACK FOLDER,",
    "0FOLDER,0OPEN FOLDER,0CARD INDEX DIVIDERS,1FILE BOX,0FILE CABINET,0EMPTY NOTE,2PAGE,2PAD,0NO",
    "TE,1PAGE,1PAD,0EMPTY DOCUMENT,1PAGE,1PAGES,0DOCUMENT,0PAGE,0PAGES,0WASTEBASKET,0SPIRAL NOTE ",
    "PAD,1CALENDAR PAD,0DESKTOP WINDOW,0MINIMIZE,0MAXIMIZE,0OVERLAP,0CLOCKWISE RIGHT AND LEFT SEM",
    "ICIRCLE ARROWS,0CANCELLATION X,0INCREASE FONT SIZE SYMBOL,0DECREASE FONT SIZE SYMBOL,0COMPRE",
    "SSION,0OLD KEY,0ROLLED-UP NEWSPAPER,0PAGE WITH CIRCLED TEXT,0STOCK CHART,0DAGGER KNIFE,0LIPS",
    ",0SPEAKING HEAD IN SILHOUETTE,0THREE RAYS ABOVE,2BELOW,2LEFT,2RIGHT,0LEFT SPEECH BUBBLE,0RIG",
    "HT SPEECH BUBBLE,0TWO SPEECH BUBBLES,0THREE SPEECH BUBBLES,0LEFT THOUGHT BUBBLE,0RIGHT THOUG",
    "HT BUBBLE,0LEFT ANGER BUBBLE,0RIGHT ANGER BUBBLE,0MOOD BUBBLE,0LIGHTNING MOOD BUBBLE,2,0BALL",
    "OT BOX WITH BALLOT,1SCRIPT X,1BOX WITH SCRIPT X,1BOLD SCRIPT X,1BOX WITH BOLD SCRIPT X,0LIGH",
    "T CHECK MARK,0BALLOT BOX WITH BOLD CHECK,0WORLD MAP,0MOUNT FUJI,0TOKYO TOWER,0STATUE OF LIBE",
    "RTY,0SILHOUETTE OF JAPAN,0MOYAI,0GRINNING FACE,2WITH SMILING EYES,0FACE WITH TEARS OF JOY,0S",
    "MILING FACE WITH OPEN MOUTH,5AND SMILING EYES,6COLD SWEAT,6TIGHTLY-CLOSED EYES,3HALO,3HORNS,",
    "0WINKING FACE,0SMILING FACE WITH SMILING EYES,0FACE SAVOURING DELICIOUS FOOD,0RELIEVED FACE,",
    "0SMILING FACE WITH HEART-SHAPED EYES,3SUNGLASSES,0SMIRKING FACE,0NEUTRAL FACE,0EXPRESSIONLES",
    "S FACE,0UNAMUSED FACE,0FACE WITH COLD SWEAT,0PENSIVE FACE,0CONFUSED FACE,0CONFOUNDED FACE,0K",
    "ISSING FACE,0FACE THROWING A KISS,0KISSING FACE WITH SMILING EYES,3CLOSED EYES,0FACE WITH ST",
    "UCK-OUT TONGUE,4AND WINKING EYE,5TIGHTLY-CLOSED EYES,0DISAPPOINTED FACE,0WORRIED FACE,0ANGR",
    "Y FACE,0POUTING FACE,0CRYING FACE,0PERSEVERING FACE,0FACE WITH LOOK OF TRIUMPH,0DISAPPOINTE",
    "D BUT RELIEVED FACE,0FROWNING FACE WITH OPEN MOUTH,0ANGUISHED FACE,0FEARFUL FACE,0WEARY FACE",
    ",0SLEEPY FACE,0TIRED FACE,0GRIMACING FACE,0LOUDLY CRYING FACE,0FACE WITH OPEN MOUTH,0HUSHED ",
    "FACE,0FACE WITH OPEN MOUTH AND COLD SWEAT,1SCREAMING IN FEAR,0ASTONISHED FACE,0FLUSHED FACE,",
    "0SLEEPING FACE,0DIZZY FACE,0FACE WITHOUT MOUTH,1WITH MEDICAL MASK,0GRINNING CAT FACE WITH SM",
    "ILING EYES,0CAT FACE WITH TEARS OF JOY,0SMILING CAT FACE WITH OPEN MOUTH,4HEART-SHAPED EYES,",
    "0CAT FACE WITH WRY SMILE,0KISSING CAT FACE WITH CLOSED EYES,0POUTING CAT FACE,0CRYING CAT FA",
    "CE,0WEARY CAT FACE,0SLIGHTLY FROWNING FACE,1SMILING FACE,0UPSIDE-DOWN FACE,0FACE WITH ROLLIN",
    "G EYES,2NO GOOD GESTURE,2OK GESTURE,0PERSON BOWING DEEPLY,0SEE-NO-EVIL MONKEY,0HEAR-NO-EVIL ",
    "MONKEY,0SPEAK-NO-EVIL MONKEY,0HAPPY PERSON RAISING ONE HAND,0PERSON RAISING BOTH HANDS IN CE",
    "LEBRATION,1FROWNING,1WITH POUTING FACE,2FOLDED HANDS,0NORTH WEST POINTING LEAF,0SOUTH WEST P",
    "OINTING LEAF,0NORTH EAST POINTING LEAF,0SOUTH EAST POINTING LEAF,0TURNED NORTH WEST POINTIN",
    "G LEAF,1SOUTH WEST POINTING LEAF,1NORTH EAST POINTING LEAF,1SOUTH EAST POINTING LEAF,0NORTH ",
    "WEST POINTING VINE LEAF,0SOUTH WEST POINTING VINE LEAF,0NORTH EAST POINTING VINE LEAF,0SOUT",
    "H EAST POINTING VINE LEAF,0HEAVY NORTH WEST POINTING VINE LEAF,1SOUTH WEST POINTING VINE LEA",
    "F,1NORTH EAST POINTING VINE LEAF,1SOUTH EAST POINTING VINE LEAF,0NORTH WEST POINTING BUD,0SO",
    "UTH WEST POINTING BUD,0NORTH EAST POINTING BUD,0SOUTH EAST POINTING BUD,0HEAVY NORTH WEST PO",
    "INTING BUD,1SOUTH WEST POINTING BUD,1NORTH EAST POINTING BUD,1SOUTH EAST POINTING BUD,0HOLLO",
    "W QUILT SQUARE ORNAMENT,4IN BLACK SQUARE,0SOLID QUILT SQUARE ORNAMENT,4IN BLACK SQUARE,0LEFT",
    "WARDS ROCKET,0UPWARDS ROCKET,0RIGHTWARDS ROCKET,0DOWNWARDS ROCKET,0SCRIPT LIGATURE ET ORNAME",
    "NT,0HEAVY SCRIPT LIGATURE ET ORNAMENT,0LIGATURE OPEN ET ORNAMENT,0HEAVY LIGATURE OPEN ET ORN",
    "AMENT,1AMPERSAND ORNAMENT,0SWASH AMPERSAND ORNAMENT,0SANS-SERIF HEAVY DOUBLE TURNED COMMA QU",
    "OTATION MARK ORNAMENT,3COMMA QUOTATION MARK ORNAMENT,2LOW DOUBLE COMMA QUOTATION MARK ORNAME",
    "NT,0HEAVY INTERROBANG ORNAMENT,0SANS-SERIF INTERROBANG ORNAMENT,0HEAVY SANS-SERIF INTERROBAN",
    "G ORNAMENT,0VERY HEAVY SOLIDUS,2REVERSE SOLIDUS,0CHECKER BOARD,0REVERSE CHECKER BOARD,0ROCKE",
    "T,0HELICOPTER,0STEAM LOCOMOTIVE,0RAILWAY CAR,0HIGH-SPEED TRAIN,2WITH BULLET NOSE,0TRAIN,0MET",
    "RO,0LIGHT RAIL,0STATION,0TRAM,1CAR,0BUS,0ONCOMING BUS,0TROLLEYBUS,0BUS STOP,0MINIBUS,0AMBULA",
    "NCE,0FIRE ENGINE,0POLICE CAR,0ONCOMING POLICE CAR,0TAXI,0ONCOMING TAXI,0AUTOMOBILE,0ONCOMIN",
    "G AUTOMOBILE,0RECREATIONAL VEHICLE,0DELIVERY TRUCK,0ARTICULATED LORRY,0TRACTOR,0MONORAIL,0MO",
    "UNTAIN RAILWAY,0SUSPENSION RAILWAY,0MOUNTAIN CABLEWAY,0AERIAL TRAMWAY,0SHIP,0ROWBOAT,0SPEEDB",
    "OAT,0HORIZONTAL TRAFFIC LIGHT,0VERTICAL TRAFFIC LIGHT,0CONSTRUCTION SIGN,0POLICE CARS REVOLV",
    "ING LIGHT,0TRIANGULAR FLAG ON POST,0DOOR,0NO ENTRY SIGN,0SMOKING SYMBOL,0NO SMOKING SYMBOL,0",
    "PUT LITTER IN ITS PLACE SYMBOL,0DO NOT LITTER SYMBOL,0POTABLE WATER SYMBOL,0NON-POTABLE WATE",
    "R SYMBOL,0BICYCLE,0NO BICYCLES,0BICYCLIST,0MOUNTAIN BICYCLIST,0PEDESTRIAN,0NO PEDESTRIANS,0C",
    "HILDREN CROSSING,0MENS SYMBOL,0WOMENS SYMBOL,0RESTROOM,0BABY SYMBOL,0TOILET,0WATER CLOSET,0S",
    "HOWER,0BATH,0BATHTUB,0PASSPORT CONTROL,0CUSTOMS,0BAGGAGE CLAIM,0LEFT LUGGAGE,0TRIANGLE WITH ",
    "ROUNDED CORNERS,0PROHIBITED SIGN,0CIRCLED INFORMATION SOURCE,0BOYS SYMBOL,0GIRLS SYMBOL,0COU",
    "CH AND LAMP,0SLEEPING ACCOMMODATION,0SHOPPING BAGS,0BELLHOP BELL,0BED,0PLACE OF WORSHIP,0OCT",
    "AGONAL SIGN,0SHOPPING TROLLEY,0STUPA,0PAGODA,0HINDU TEMPLE,0HUT,0ELEVATOR,=1f6dd 0PLAYGROUN",
    "D SLIDE,0WHEEL,0RING BUOY,0HAMMER AND WRENCH,0SHIELD,0OIL DRUM,0MOTORWAY,0RAILWAY TRACK,0MOT",
    "OR BOAT,0UP-POINTING MILITARY AIRPLANE,1AIRPLANE,1SMALL AIRPLANE,0SMALL AIRPLANE,0NORTHEAST-",
    "POINTING AIRPLANE,0AIRPLANE DEPARTURE,1ARRIVING,=1f6f0 0SATELLITE,0ONCOMING FIRE ENGINE,0DIE",
    "SEL LOCOMOTIVE,0PASSENGER SHIP,0SCOOTER,0MOTOR SCOOTER,0CANOE,0SLED,0FLYING SAUCER,0SKATEBOA",
    "RD,0AUTO RICKSHAW,0PICKUP TRUCK,0ROLLER SKATE,=1f700 0ALCHEMICAL SYMBOL FOR QUINTESSENCE,3AI",
    "R,3FIRE,3EARTH,3WATER,3AQUAFORTIS,3AQUA REGIA,4REGIA-2,4VITAE,4VITAE-2,3VINEGAR,3VINEGAR-2,3",
    "VINEGAR-3,3SULFUR,3PHILOSOPHERS SULFUR,3BLACK SULFUR,3MERCURY SUBLIMATE,4SUBLIMATE-2,4SUBLIM",
    "ATE-3,3CINNABAR,3SALT,3NITRE,3VITRIOL,3VITRIOL-2,3ROCK SALT,4SALT-2,3GOLD,3SILVER,3IRON ORE,",
    "4ORE-2,3CROCUS OF IRON,3REGULUS OF IRON,3COPPER ORE,3IRON-COPPER ORE,3SUBLIMATE OF COPPER,3C",
    "ROCUS OF COPPER,5COPPER-2,3COPPER ANTIMONIATE,3SALT OF COPPER ANTIMONIATE,3SUBLIMATE OF SAL",
    "T OF COPPER,3VERDIGRIS,3TIN ORE,3LEAD ORE,3ANTIMONY ORE,3SUBLIMATE OF ANTIMONY,3SALT OF ANTI",
    "MONY,3SUBLIMATE OF SALT OF ANTIMONY,3VINEGAR OF ANTIMONY,3REGULUS OF ANTIMONY,5ANTIMONY-2,4,",
    "3REGULUS-2,3REGULUS-3,3REGULUS-4,3ALKALI,3ALKALI-2,3MARCASITE,3SAL-AMMONIAC,3ARSENIC,3REALGA",
    "R,3REALGAR-2,3AURIPIGMENT,3BISMUTH ORE,3TARTAR,3TARTAR-2,3QUICK LIME,3BORAX,3BORAX-2,3BORAX-",
    "3,3ALUM,3OIL,3SPIRIT,3TINCTURE,3GUM,3WAX,3POWDER,3CALX,3TUTTY,3CAPUT MORTUUM,3SCEPTER OF JOV",
    "E,3CADUCEUS,3TRIDENT,3STARRED TRIDENT,3LODESTONE,3SOAP,3URINE,3HORSE DUNG,3ASHES,3POT ASHES,",
    "3BRICK,3POWDERED BRICK,3AMALGAM,3STRATUM SUPER STRATUM,5STRATUM-2,3SUBLIMATION,3PRECIPITATE,",
    "3DISTILL,3DISSOLVE,3DISSOLVE-2,3PURIFY,3PUTREFACTION,3CRUCIBLE,3CRUCIBLE-2,3CRUCIBLE-3,3CRUC",
    "IBLE-4,3CRUCIBLE-5,3ALEMBIC,3BATH OF MARY,5VAPOURS,3RETORT,3HOUR,3NIGHT,3DAY-NIGHT,3MONTH,3H",
    "ALF DRAM,4OUNCE,=1f780 0BLACK LEFT-POINTING ISOSCELES RIGHT TRIANGLE,1UP-POINTING ISOSCELES ",
    "RIGHT TRIANGLE,1RIGHT-POINTING ISOSCELES RIGHT TRIANGLE,1DOWN-POINTING ISOSCELES RIGHT TRIAN",
    "GLE,1SLIGHTLY SMALL CIRCLE,0MEDIUM BOLD WHITE CIRCLE,0BOLD WHITE CIRCLE,0HEAVY WHITE CIRCLE,",
    "0VERY HEAVY WHITE CIRCLE,0EXTREMELY HEAVY WHITE CIRCLE,0WHITE CIRCLE CONTAINING BLACK SMALL ",
    "CIRCLE,0ROUND TARGET,0BLACK TINY SQUARE,1SLIGHTLY SMALL SQUARE,0LIGHT WHITE SQUARE,0MEDIUM W",
    "HITE SQUARE,0BOLD WHITE SQUARE,0HEAVY WHITE SQUARE,0VERY HEAVY WHITE SQUARE,0EXTREMELY HEAV",
    "Y WHITE SQUARE,0WHITE SQUARE CONTAINING BLACK VERY SMALL SQUARE,4MEDIUM SQUARE,0SQUARE TARGE",
    "T,0BLACK TINY DIAMOND,1VERY SMALL DIAMOND,1MEDIUM SMALL DIAMOND,0WHITE DIAMOND CONTAINING BL",
    "ACK VERY SMALL DIAMOND,4MEDIUM DIAMOND,0DIAMOND TARGET,0BLACK TINY LOZENGE,1VERY SMALL LOZEN",
    "GE,1MEDIUM SMALL LOZENGE,0WHITE LOZENGE CONTAINING BLACK SMALL LOZENGE,0THIN GREEK CROSS,0LI",
    "GHT GREEK CROSS,0MEDIUM GREEK CROSS,0BOLD GREEK CROSS,0VERY BOLD GREEK CROSS,1HEAVY GREEK CR",
    "OSS,0EXTREMELY HEAVY GREEK CROSS,0THIN SALTIRE,0LIGHT SALTIRE,0MEDIUM SALTIRE,0BOLD SALTIRE,",
    "0HEAVY SALTIRE,0VERY HEAVY SALTIRE,0EXTREMELY HEAVY SALTIRE,0LIGHT FIVE SPOKED ASTERISK,0MED",
    "IUM FIVE SPOKED ASTERISK,0BOLD FIVE SPOKED ASTERISK,0HEAVY FIVE SPOKED ASTERISK,0VERY HEAVY ",
    "FIVE SPOKED ASTERISK,0EXTREMELY HEAVY FIVE SPOKED ASTERISK,0LIGHT SIX SPOKED ASTERISK,0MEDIU",
    "M SIX SPOKED ASTERISK,0BOLD SIX SPOKED ASTERISK,0HEAVY SIX SPOKED ASTERISK,0VERY HEAVY SIX S",
    "POKED ASTERISK,0EXTREMELY HEAVY SIX SPOKED ASTERISK,0LIGHT EIGHT SPOKED ASTERISK,0MEDIUM EIG",
    "HT SPOKED ASTERISK,0BOLD EIGHT SPOKED ASTERISK,0HEAVY EIGHT SPOKED ASTERISK,0VERY HEAVY EIGH",
    "T SPOKED ASTERISK,0LIGHT THREE POINTED BLACK STAR,0MEDIUM THREE POINTED BLACK STAR,0THREE PO",
    "INTED BLACK STAR,0MEDIUM THREE POINTED PINWHEEL STAR,0LIGHT FOUR POINTED BLACK STAR,0MEDIUM ",
    "FOUR POINTED BLACK STAR,0FOUR POINTED BLACK STAR,0MEDIUM FOUR POINTED PINWHEEL STAR,0REVERS",
    "E LIGHT FOUR POINTED PINWHEEL STAR,0LIGHT FIVE POINTED BLACK STAR,0HEAVY FIVE POINTED BLACK ",
    "STAR,0MEDIUM SIX POINTED BLACK STAR,0HEAVY SIX POINTED BLACK STAR,0SIX POINTED PINWHEEL STAR",
    ",0MEDIUM EIGHT POINTED BLACK STAR,0HEAVY EIGHT POINTED BLACK STAR,0VERY HEAVY EIGHT POINTED ",
    "BLACK STAR,0HEAVY EIGHT POINTED PINWHEEL STAR,0LIGHT TWELVE POINTED BLACK STAR,0HEAVY TWELV",
    "E POINTED BLACK STAR,3PINWHEEL STAR,0CIRCLED TRIANGLE,0NEGATIVE CIRCLED TRIANGLE,0CIRCLED SQ",
    "UARE,0NEGATIVE CIRCLED SQUARE,=1f7e0 0LARGE ORANGE CIRCLE,1YELLOW CIRCLE,1GREEN CIRCLE,1PURP",
    "LE CIRCLE,1BROWN CIRCLE,1RED SQUARE,1BLUE SQUARE,1ORANGE SQUARE,1YELLOW SQUARE,1GREEN SQUARE",
    ",1PURPLE SQUARE,1BROWN SQUARE,=1f7f0 0HEAVY EQUALS SIGN,=1f800 0LEFTWARDS ARROW WITH SMALL T",
    "RIANGLE ARROWHEAD,0UPWARDS ARROW WITH SMALL TRIANGLE ARROWHEAD,0RIGHTWARDS ARROW WITH SMALL ",
    "TRIANGLE ARROWHEAD,0DOWNWARDS ARROW WITH SMALL TRIANGLE ARROWHEAD,0LEFTWARDS ARROW WITH MEDI",
    "UM TRIANGLE ARROWHEAD,0UPWARDS ARROW WITH MEDIUM TRIANGLE ARROWHEAD,0RIGHTWARDS ARROW WITH M",
    "EDIUM TRIANGLE ARROWHEAD,0DOWNWARDS ARROW WITH MEDIUM TRIANGLE ARROWHEAD,0LEFTWARDS ARROW WI",
    "TH LARGE TRIANGLE ARROWHEAD,0UPWARDS ARROW WITH LARGE TRIANGLE ARROWHEAD,0RIGHTWARDS ARROW W",
    "ITH LARGE TRIANGLE ARROWHEAD,0DOWNWARDS ARROW WITH LARGE TRIANGLE ARROWHEAD,=1f810 0LEFTWARD",
    "S ARROW WITH SMALL EQUILATERAL ARROWHEAD,0UPWARDS ARROW WITH SMALL EQUILATERAL ARROWHEAD,0RI",
    "GHTWARDS ARROW WITH SMALL EQUILATERAL ARROWHEAD,0DOWNWARDS ARROW WITH SMALL EQUILATERAL ARRO",
    "WHEAD,0LEFTWARDS ARROW WITH EQUILATERAL ARROWHEAD,0UPWARDS ARROW WITH EQUILATERAL ARROWHEAD,",
    "0RIGHTWARDS ARROW WITH EQUILATERAL ARROWHEAD,0DOWNWARDS ARROW WITH EQUILATERAL ARROWHEAD,0HE",
    "AVY LEFTWARDS ARROW WITH EQUILATERAL ARROWHEAD,1UPWARDS ARROW WITH EQUILATERAL ARROWHEAD,1RI",
    "GHTWARDS ARROW WITH EQUILATERAL ARROWHEAD,1DOWNWARDS ARROW WITH EQUILATERAL ARROWHEAD,1LEFTW",
    "ARDS ARROW WITH LARGE EQUILATERAL ARROWHEAD,1UPWARDS ARROW WITH LARGE EQUILATERAL ARROWHEAD,",
    "1RIGHTWARDS ARROW WITH LARGE EQUILATERAL ARROWHEAD,1DOWNWARDS ARROW WITH LARGE EQUILATERAL A",
    "RROWHEAD,0LEFTWARDS TRIANGLE-HEADED ARROW WITH NARROW SHAFT,0UPWARDS TRIANGLE-HEADED ARROW W",
    "ITH NARROW SHAFT,0RIGHTWARDS TRIANGLE-HEADED ARROW WITH NARROW SHAFT,0DOWNWARDS TRIANGLE-HEA",
    "DED ARROW WITH NARROW SHAFT,0LEFTWARDS TRIANGLE-HEADED ARROW WITH MEDIUM SHAFT,0UPWARDS TRIA",
    "NGLE-HEADED ARROW WITH MEDIUM SHAFT,0RIGHTWARDS TRIANGLE-HEADED ARROW WITH MEDIUM SHAFT,0DOW",
    "NWARDS TRIANGLE-HEADED ARROW WITH MEDIUM SHAFT,0LEFTWARDS TRIANGLE-HEADED ARROW WITH BOLD SH",
    "AFT,0UPWARDS TRIANGLE-HEADED ARROW WITH BOLD SHAFT,0RIGHTWARDS TRIANGLE-HEADED ARROW WITH BO",
    "LD SHAFT,0DOWNWARDS TRIANGLE-HEADED ARROW WITH BOLD SHAFT,0LEFTWARDS TRIANGLE-HEADED ARROW W",
    "ITH HEAVY SHAFT,0UPWARDS TRIANGLE-HEADED ARROW WITH HEAVY SHAFT,0RIGHTWARDS TRIANGLE-HEADED ",
    "ARROW WITH HEAVY SHAFT,0DOWNWARDS TRIANGLE-HEADED ARROW WITH HEAVY SHAFT,0LEFTWARDS TRIANGLE",
    "-HEADED ARROW WITH VERY HEAVY SHAFT,0UPWARDS TRIANGLE-HEADED ARROW WITH VERY HEAVY SHAFT,0RI",
    "GHTWARDS TRIANGLE-HEADED ARROW WITH VERY HEAVY SHAFT,0DOWNWARDS TRIANGLE-HEADED ARROW WITH V",
    "ERY HEAVY SHAFT,0LEFTWARDS FINGER-POST ARROW,0UPWARDS FINGER-POST ARROW,0RIGHTWARDS FINGER-P",
    "OST ARROW,0DOWNWARDS FINGER-POST ARROW,0LEFTWARDS SQUARED ARROW,0UPWARDS SQUARED ARROW,0RIGH",
    "TWARDS SQUARED ARROW,0DOWNWARDS SQUARED ARROW,0LEFTWARDS COMPRESSED ARROW,0UPWARDS COMPRESSE",
    "D ARROW,0RIGHTWARDS COMPRESSED ARROW,0DOWNWARDS COMPRESSED ARROW,0LEFTWARDS HEAVY COMPRESSE",
    "D ARROW,0UPWARDS HEAVY COMPRESSED ARROW,0RIGHTWARDS HEAVY COMPRESSED ARROW,0DOWNWARDS HEAVY ",
    "COMPRESSED ARROW,0LEFTWARDS HEAVY ARROW,0UPWARDS HEAVY ARROW,0RIGHTWARDS HEAVY ARROW,0DOWNWA",
    "RDS HEAVY ARROW,=1f850 0LEFTWARDS SANS-SERIF ARROW,0UPWARDS SANS-SERIF ARROW,0RIGHTWARDS SAN",
    "S-SERIF ARROW,0DOWNWARDS SANS-SERIF ARROW,0NORTH WEST SANS-SERIF ARROW,1EAST SANS-SERIF ARRO",
    "W,0SOUTH EAST SANS-SERIF ARROW,1WEST SANS-SERIF ARROW,0LEFT RIGHT SANS-SERIF ARROW,0UP DOWN ",
    "SANS-SERIF ARROW,=1f860 0WIDE-HEADED LEFTWARDS LIGHT BARB ARROW,1UPWARDS LIGHT BARB ARROW,1R",
    "IGHTWARDS LIGHT BARB ARROW,1DOWNWARDS LIGHT BARB ARROW,1NORTH WEST LIGHT BARB ARROW,2EAST LI",
    "GHT BARB ARROW,1SOUTH EAST LIGHT BARB ARROW,2WEST LIGHT BARB ARROW,1LEFTWARDS BARB ARROW,1UP",
    "WARDS BARB ARROW,1RIGHTWARDS BARB ARROW,1DOWNWARDS BARB ARROW,1NORTH WEST BARB ARROW,2EAST B",
    "ARB ARROW,1SOUTH EAST BARB ARROW,2WEST BARB ARROW,1LEFTWARDS MEDIUM BARB ARROW,1UPWARDS MEDI",
    "UM BARB ARROW,1RIGHTWARDS MEDIUM BARB ARROW,1DOWNWARDS MEDIUM BARB ARROW,1NORTH WEST MEDIUM ",
    "BARB ARROW,2EAST MEDIUM BARB ARROW,1SOUTH EAST MEDIUM BARB ARROW,2WEST MEDIUM BARB ARROW,1LE",
    "FTWARDS HEAVY BARB ARROW,1UPWARDS HEAVY BARB ARROW,1RIGHTWARDS HEAVY BARB ARROW,1DOWNWARDS H",
    "EAVY BARB ARROW,1NORTH WEST HEAVY BARB ARROW,2EAST HEAVY BARB ARROW,1SOUTH EAST HEAVY BARB A",
    "RROW,2WEST HEAVY BARB ARROW,1LEFTWARDS VERY HEAVY BARB ARROW,1UPWARDS VERY HEAVY BARB ARROW,",
    "1RIGHTWARDS VERY HEAVY BARB ARROW,1DOWNWARDS VERY HEAVY BARB ARROW,1NORTH WEST VERY HEAVY BA",
    "RB ARROW,2EAST VERY HEAVY BARB ARROW,1SOUTH EAST VERY HEAVY BARB ARROW,2WEST VERY HEAVY BAR",
    "B ARROW,=1f890 0LEFTWARDS TRIANGLE ARROWHEAD,0UPWARDS TRIANGLE ARROWHEAD,0RIGHTWARDS TRIANGL",
    "E ARROWHEAD,0DOWNWARDS TRIANGLE ARROWHEAD,0LEFTWARDS WHITE ARROW WITHIN TRIANGLE ARROWHEAD,0",
    "UPWARDS WHITE ARROW WITHIN TRIANGLE ARROWHEAD,0RIGHTWARDS WHITE ARROW WITHIN TRIANGLE ARROWH",
    "EAD,0DOWNWARDS WHITE ARROW WITHIN TRIANGLE ARROWHEAD,0LEFTWARDS ARROW WITH NOTCHED TAIL,0UPW",
    "ARDS ARROW WITH NOTCHED TAIL,0RIGHTWARDS ARROW WITH NOTCHED TAIL,0DOWNWARDS ARROW WITH NOTCH",
    "ED TAIL,0HEAVY ARROW SHAFT WIDTH ONE,4TWO THIRDS,4ONE HALF,5THIRD,0LEFTWARDS BOTTOM-SHADED W",
    "HITE ARROW,0RIGHTWARDS BOTTOM SHADED WHITE ARROW,0LEFTWARDS TOP SHADED WHITE ARROW,0RIGHTWAR",
    "DS TOP SHADED WHITE ARROW,0LEFTWARDS LEFT-SHADED WHITE ARROW,0RIGHTWARDS RIGHT-SHADED WHITE ",
    "ARROW,0LEFTWARDS RIGHT-SHADED WHITE ARROW,0RIGHTWARDS LEFT-SHADED WHITE ARROW,0LEFTWARDS BAC",
    "K-TILTED SHADOWED WHITE ARROW,0RIGHTWARDS BACK-TILTED SHADOWED WHITE ARROW,0LEFTWARDS FRONT-",
    "TILTED SHADOWED WHITE ARROW,0RIGHTWARDS FRONT-TILTED SHADOWED WHITE ARROW,0WHITE ARROW SHAF",
    "T WIDTH ONE,4TWO THIRDS,=1f8b0 0ARROW POINTING UPWARDS THEN NORTH WEST,2RIGHTWARDS THEN CURV",
    "ING SOUTH WEST,=1f900 0CIRCLED CROSS FORMEE WITH FOUR DOTS,4TWO DOTS,3,0LEFT HALF CIRCLE WIT",
    "H FOUR DOTS,4THREE DOTS,4TWO DOTS,4DOT,3,0DOWNWARD FACING HOOK,2NOTCHED HOOK,2HOOK WITH DOT,",
    "2NOTCHED HOOK WITH DOT,0PINCHED FINGERS,0WHITE HEART,0BROWN HEART,0PINCHING HAND,0ZIPPER-MOU",
    "TH FACE,0MONEY-MOUTH FACE,0FACE WITH THERMOMETER,0NERD FACE,0THINKING FACE,0FACE WITH HEAD-B",
    "ANDAGE,0ROBOT FACE,0HUGGING FACE,0SIGN OF THE HORNS,0CALL ME HAND,0RAISED BACK OF HAND,0LEFT",
    "-FACING FIST,0RIGHT-FACING FIST,0HANDSHAKE,0HAND WITH INDEX AND MIDDLE FINGERS CROSSED,0I LO",
    "VE YOU HAND SIGN,0FACE WITH COWBOY HAT,0CLOWN FACE,0NAUSEATED FACE,0ROLLING ON THE FLOOR LAU",
    "GHING,0DROOLING FACE,0LYING FACE,0FACE PALM,0SNEEZING FACE,0FACE WITH ONE EYEBROW RAISED,0GR",
    "INNING FACE WITH STAR EYES,3ONE LARGE AND ONE SMALL EYE,0FACE WITH FINGER COVERING CLOSED LI",
    "PS,0SERIOUS FACE WITH SYMBOLS COVERING MOUTH,0SMILING FACE WITH SMILING EYES AND HAND COVERI",
    "NG MOUTH,0FACE WITH OPEN MOUTH VOMITING,0SHOCKED FACE WITH EXPLODING HEAD,0PREGNANT WOMAN,0B",
    "REAST-FEEDING,0PALMS UP TOGETHER,0SELFIE,0PRINCE,0MAN IN TUXEDO,0MOTHER CHRISTMAS,0SHRUG,0PE",
    "RSON DOING CARTWHEEL,0JUGGLING,0FENCER,0MODERN PENTATHLON,0WRESTLERS,0WATER POLO,0HANDBALL,0",
    "DIVING MASK,0WILTED FLOWER,0DRUM WITH DRUMSTICKS,0CLINKING GLASSES,0TUMBLER GLASS,0SPOON,0GO",
    "AL NET,0RIFLE,0FIRST PLACE MEDAL,0SECOND PLACE MEDAL,0THIRD PLACE MEDAL,0BOXING GLOVE,0MARTI",
    "AL ARTS UNIFORM,0CURLING STONE,0LACROSSE STICK AND BALL,0SOFTBALL,0FLYING DISC,0CROISSANT,0A",
    "VOCADO,0CUCUMBER,0BACON,0POTATO,0CARROT,0BAGUETTE BREAD,0GREEN SALAD,0SHALLOW PAN OF FOOD,0S",
    "TUFFED FLATBREAD,0EGG,0GLASS OF MILK,0PEANUTS,0KIWIFRUIT,0PANCAKES,0DUMPLING,0FORTUNE COOKIE",
    ",0TAKEOUT BOX,0CHOPSTICKS,0BOWL WITH SPOON,0CUP WITH STRAW,0COCONUT,0BROCCOLI,0PIE,0PRETZEL,",
    "0CUT OF MEAT,0SANDWICH,0CANNED FOOD,0LEAFY GREEN,0MANGO,0MOON CAKE,0BAGEL,0SMILING FACE WIT",
    "H SMILING EYES AND THREE HEARTS,0YAWNING FACE,0SMILING FACE WITH TEAR,0FACE WITH PARTY HORN ",
    "AND PARTY HAT,2UNEVEN EYES AND WAVY MOUTH,0OVERHEATED FACE,0FREEZING FACE,0NINJA,0DISGUISED ",
    "FACE,0FACE HOLDING BACK TEARS,1WITH PLEADING EYES,0SARI,0LAB COAT,0GOGGLES,0HIKING BOOT,0FLA",
    "T SHOE,0CRAB,0LION FACE,0SCORPION,0TURKEY,0UNICORN FACE,0EAGLE,0DUCK,0BAT,0SHARK,0OWL,0FOX F",
    "ACE,0BUTTERFLY,0DEER,0GORILLA,0LIZARD,0RHINOCEROS,0SHRIMP,0SQUID,0GIRAFFE FACE,0ZEBRA FACE,0",
    "HEDGEHOG,0SAUROPOD,0T-REX,0CRICKET,0KANGAROO,0LLAMA,0PEACOCK,0HIPPOPOTAMUS,0PARROT,0RACCOON,",
    "0LOBSTER,0MOSQUITO,0MICROBE,0BADGER,0SWAN,0MAMMOTH,0DODO,0SLOTH,0OTTER,0ORANGUTAN,0SKUNK,0FL",
    "AMINGO,0OYSTER,0BEAVER,0BISON,0SEAL,0GUIDE DOG,0PROBING CANE,0EMOJI COMPONENT RED HAIR,2CURL",
    "Y HAIR,2BALD,2WHITE HAIR,0BONE,0LEG,0FOOT,0TOOTH,0SUPERHERO,0SUPERVILLAIN,0SAFETY VEST,0EAR ",
    "WITH HEARING AID,0MOTORIZED WHEELCHAIR,0MANUAL WHEELCHAIR,0MECHANICAL ARM,1LEG,0CHEESE WEDGE",
    ",0CUPCAKE,0SALT SHAKER,0BEVERAGE BOX,0GARLIC,0ONION,0FALAFEL,0WAFFLE,0BUTTER,0MATE DRINK,0IC",
    "E CUBE,0BUBBLE TEA,0TROLL,0STANDING PERSON,0KNEELING PERSON,0DEAF PERSON,0FACE WITH MONOCLE,",
    "0ADULT,0CHILD,0OLDER ADULT,0BEARDED PERSON,0PERSON WITH HEADSCARF,1IN STEAMY ROOM,1CLIMBING,",
    "1IN LOTUS POSITION,0MAGE,0FAIRY,0VAMPIRE,0MERPERSON,0ELF,0GENIE,0ZOMBIE,0BRAIN,0ORANGE HEART",
    ",0BILLED CAP,0SCARF,0GLOVES,0COAT,0SOCKS,0RED GIFT ENVELOPE,0FIRECRACKER,0JIGSAW PUZZLE PIEC",
    "E,0TEST TUBE,0PETRI DISH,0DNA DOUBLE HELIX,0COMPASS,0ABACUS,0FIRE EXTINGUISHER,0TOOLBOX,0BRI",
    "CK,0MAGNET,0LUGGAGE,0LOTION BOTTLE,0SPOOL OF THREAD,0BALL OF YARN,0SAFETY PIN,0TEDDY BEAR,0B",
    "ROOM,0BASKET,0ROLL OF PAPER,0BAR OF SOAP,0SPONGE,0RECEIPT,0NAZAR AMULET,0NEUTRAL CHESS KING,",
    "2QUEEN,2ROOK,2BISHOP,2KNIGHT,2PAWN,0WHITE CHESS KNIGHT ROTATED FORTY-FIVE DEGREES,0BLACK CHE",
    "SS KNIGHT ROTATED FORTY-FIVE DEGREES,0NEUTRAL CHESS KNIGHT ROTATED FORTY-FIVE DEGREES,0WHIT",
    "E CHESS KING ROTATED NINETY DEGREES,2QUEEN ROTATED NINETY DEGREES,2ROOK ROTATED NINETY DEGRE",
    "ES,2BISHOP ROTATED NINETY DEGREES,2KNIGHT ROTATED NINETY DEGREES,2PAWN ROTATED NINETY DEGREE",
    "S,0BLACK CHESS KING ROTATED NINETY DEGREES,2QUEEN ROTATED NINETY DEGREES,2ROOK ROTATED NINET",
    "Y DEGREES,2BISHOP ROTATED NINETY DEGREES,2KNIGHT ROTATED NINETY DEGREES,2PAWN ROTATED NINET",
    "Y DEGREES,0NEUTRAL CHESS KING ROTATED NINETY DEGREES,2QUEEN ROTATED NINETY DEGREES,2ROOK ROT",
    "ATED NINETY DEGREES,2BISHOP ROTATED NINETY DEGREES,2KNIGHT ROTATED NINETY DEGREES,2PAWN ROTA",
    "TED NINETY DEGREES,0WHITE CHESS KNIGHT ROTATED ONE HUNDRED THIRTY-FIVE DEGREES,0BLACK CHESS ",
    "KNIGHT ROTATED ONE HUNDRED THIRTY-FIVE DEGREES,0NEUTRAL CHESS KNIGHT ROTATED ONE HUNDRED THI",
    "RTY-FIVE DEGREES,0WHITE CHESS TURNED KING,3QUEEN,3ROOK,3BISHOP,3KNIGHT,3PAWN,0BLACK CHESS TU",
    "RNED KING,3QUEEN,3ROOK,3BISHOP,3KNIGHT,3PAWN,0NEUTRAL CHESS TURNED KING,3QUEEN,3ROOK,3BISHOP",
    ",3KNIGHT,3PAWN,0WHITE CHESS KNIGHT ROTATED TWO HUNDRED TWENTY-FIVE DEGREES,0BLACK CHESS KNIG",
    "HT ROTATED TWO HUNDRED TWENTY-FIVE DEGREES,0NEUTRAL CHESS KNIGHT ROTATED TWO HUNDRED TWENTY-",
    "FIVE DEGREES,0WHITE CHESS KING ROTATED TWO HUNDRED SEVENTY DEGREES,2QUEEN ROTATED TWO HUNDRE",
    "D SEVENTY DEGREES,2ROOK ROTATED TWO HUNDRED SEVENTY DEGREES,2BISHOP ROTATED TWO HUNDRED SEVE",
    "NTY DEGREES,2KNIGHT ROTATED TWO HUNDRED SEVENTY DEGREES,2PAWN ROTATED TWO HUNDRED SEVENTY DE",
    "GREES,0BLACK CHESS KING ROTATED TWO HUNDRED SEVENTY DEGREES,2QUEEN ROTATED TWO HUNDRED SEVEN",
    "TY DEGREES,2ROOK ROTATED TWO HUNDRED SEVENTY DEGREES,2BISHOP ROTATED TWO HUNDRED SEVENTY DEG",
    "REES,2KNIGHT ROTATED TWO HUNDRED SEVENTY DEGREES,2PAWN ROTATED TWO HUNDRED SEVENTY DEGREES,0",
    "NEUTRAL CHESS KING ROTATED TWO HUNDRED SEVENTY DEGREES,2QUEEN ROTATED TWO HUNDRED SEVENTY DE",
    "GREES,2ROOK ROTATED TWO HUNDRED SEVENTY DEGREES,2BISHOP ROTATED TWO HUNDRED SEVENTY DEGREES,",
    "2KNIGHT ROTATED TWO HUNDRED SEVENTY DEGREES,2PAWN ROTATED TWO HUNDRED SEVENTY DEGREES,0WHIT",
    "E CHESS KNIGHT ROTATED THREE HUNDRED FIFTEEN DEGREES,0BLACK CHESS KNIGHT ROTATED THREE HUNDR",
    "ED FIFTEEN DEGREES,0NEUTRAL CHESS KNIGHT ROTATED THREE HUNDRED FIFTEEN DEGREES,0WHITE CHESS ",
    "EQUIHOPPER,0BLACK CHESS EQUIHOPPER,0NEUTRAL CHESS EQUIHOPPER,0WHITE CHESS EQUIHOPPER ROTATE",
    "D NINETY DEGREES,0BLACK CHESS EQUIHOPPER ROTATED NINETY DEGREES,0NEUTRAL CHESS EQUIHOPPER RO",
    "TATED NINETY DEGREES,0WHITE CHESS KNIGHT-QUEEN,2KNIGHT-ROOK,2KNIGHT-BISHOP,0BLACK CHESS KNIG",
    "HT-QUEEN,2KNIGHT-ROOK,2KNIGHT-BISHOP,=1fa60 0XIANGQI RED GENERAL,2MANDARIN,2ELEPHANT,2HORSE,",
    "2CHARIOT,2CANNON,2SOLDIER,1BLACK GENERAL,2MANDARIN,2ELEPHANT,2HORSE,2CHARIOT,2CANNON,2SOLDIE",
    "R,=1fa70 0BALLET SHOES,0ONE-PIECE SWIMSUIT,0BRIEFS,0SHORTS,0THONG SANDAL,=1fa78 0DROP OF BLO",
    "OD,0ADHESIVE BANDAGE,0STETHOSCOPE,0X-RAY,0CRUTCH,=1fa80 0YO-YO,0KITE,0PARACHUTE,0BOOMERANG,0",
    "MAGIC WAND,0PINATA,0NESTING DOLLS,=1fa90 0RINGED PLANET,0CHAIR,0RAZOR,0AXE,0DIYA LAMP,0BANJO",
    ",0MILITARY HELMET,0ACCORDION,0LONG DRUM,0COIN,0CARPENTRY SAW,0SCREWDRIVER,0LADDER,0HOOK,0MIR",
    "ROR,0WINDOW,0PLUNGER,0SEWING NEEDLE,0KNOT,0BUCKET,0MOUSE TRAP,0TOOTHBRUSH,0HEADSTONE,0PLACAR",
    "D,0ROCK,0MIRROR BALL,0IDENTIFICATION CARD,0LOW BATTERY,0HAMSA,=1fab0 0FLY,0WORM,0BEETLE,0COC",
    "KROACH,0POTTED PLANT,0WOOD,0FEATHER,0LOTUS,0CORAL,0EMPTY NEST,0NEST WITH EGGS,=1fac0 0ANATOM",
    "ICAL HEART,0LUNGS,0PEOPLE HUGGING,0PREGNANT MAN,1PERSON,0PERSON WITH CROWN,=1fad0 0BLUEBERRI",
    "ES,0BELL PEPPER,0OLIVE,0FLATBREAD,0TAMALE,0FONDUE,0TEAPOT,0POURING LIQUID,0BEANS,0JAR,=1fae",
    "0 0MELTING FACE,0SALUTING FACE,0FACE WITH OPEN EYES AND HAND OVER MOUTH,2PEEKING EYE,2DIAGON",
    "AL MOUTH,0DOTTED LINE FACE,0BITING LIP,0BUBBLES,=1faf0 0HAND WITH INDEX FINGER AND THUMB CRO",
    "SSED,0RIGHTWARDS HAND,0LEFTWARDS HAND,0PALM DOWN HAND,1UP HAND,0INDEX POINTING AT THE VIEWER",
    ",0HEART HANDS,=1fb00 0BLOCK SEXTANT-1,1SEXTANT-2,1SEXTANT-12,1SEXTANT-3,1SEXTANT-13,1SEXTANT",
    "-23,1SEXTANT-123,1SEXTANT-4,1SEXTANT-14,1SEXTANT-24,1SEXTANT-124,1SEXTANT-34,1SEXTANT-134,1S",
    "EXTANT-234,1SEXTANT-1234,1SEXTANT-5,1SEXTANT-15,1SEXTANT-25,1SEXTANT-125,1SEXTANT-35,1SEXTAN",
    "T-235,1SEXTANT-1235,1SEXTANT-45,1SEXTANT-145,1SEXTANT-245,1SEXTANT-1245,1SEXTANT-345,1SEXTAN",
    "T-1345,1SEXTANT-2345,1SEXTANT-12345,1SEXTANT-6,1SEXTANT-16,1SEXTANT-26,1SEXTANT-126,1SEXTANT",
    "-36,1SEXTANT-136,1SEXTANT-236,1SEXTANT-1236,1SEXTANT-46,1SEXTANT-146,1SEXTANT-1246,1SEXTANT-",
    "346,1SEXTANT-1346,1SEXTANT-2346,1SEXTANT-12346,1SEXTANT-56,1SEXTANT-156,1SEXTANT-256,1SEXTAN",
    "T-1256,1SEXTANT-356,1SEXTANT-1356,1SEXTANT-2356,1SEXTANT-12356,1SEXTANT-456,1SEXTANT-1456,1S",
    "EXTANT-2456,1SEXTANT-12456,1SEXTANT-3456,1SEXTANT-13456,1SEXTANT-23456,0LOWER LEFT BLOCK DIA",
    "GONAL LOWER MIDDLE LEFT TO LOWER CENTRE,9RIGHT,4UPPER MIDDLE LEFT TO LOWER CENTRE,9RIGHT,5LE",
    "FT TO LOWER CENTRE,1RIGHT BLOCK DIAGONAL UPPER MIDDLE LEFT TO UPPER CENTRE,9RIGHT,4LOWER MID",
    "DLE LEFT TO UPPER CENTRE,9RIGHT,5LEFT TO UPPER CENTRE,5MIDDLE LEFT TO UPPER MIDDLE RIGHT,5CE",
    "NTRE TO LOWER MIDDLE RIGHT,5LEFT TO LOWER MIDDLE RIGHT,5CENTRE TO UPPER MIDDLE RIGHT,5LEFT T",
    "O UPPER MIDDLE RIGHT,5CENTRE TO UPPER RIGHT,1LEFT BLOCK DIAGONAL UPPER CENTRE TO UPPER MIDDL",
    "E RIGHT,5LEFT TO UPPER MIDDLE RIGHT,5CENTRE TO LOWER MIDDLE RIGHT,5LEFT TO LOWER MIDDLE RIGH",
    "T,5CENTRE TO LOWER RIGHT,5MIDDLE LEFT TO LOWER MIDDLE RIGHT,0UPPER RIGHT BLOCK DIAGONAL LOWE",
    "R MIDDLE LEFT TO LOWER CENTRE,9RIGHT,4UPPER MIDDLE LEFT TO LOWER CENTRE,9RIGHT,5LEFT TO LOWE",
    "R CENTRE,1LEFT BLOCK DIAGONAL UPPER MIDDLE LEFT TO UPPER CENTRE,9RIGHT,4LOWER MIDDLE LEFT T",
    "O UPPER CENTRE,9RIGHT,5LEFT TO UPPER CENTRE,5MIDDLE LEFT TO UPPER MIDDLE RIGHT,5CENTRE TO LO",
    "WER MIDDLE RIGHT,5LEFT TO LOWER MIDDLE RIGHT,5CENTRE TO UPPER MIDDLE RIGHT,5LEFT TO UPPER MI",
    "DDLE RIGHT,5CENTRE TO UPPER RIGHT,1RIGHT BLOCK DIAGONAL UPPER CENTRE TO UPPER MIDDLE RIGHT,5",
    "LEFT TO UPPER MIDDLE RIGHT,5CENTRE TO LOWER MIDDLE RIGHT,5LEFT TO LOWER MIDDLE RIGHT,5CENTR",
    "E TO LOWER RIGHT,5MIDDLE LEFT TO LOWER MIDDLE RIGHT,1AND RIGHT AND LOWER TRIANGULAR THREE QU",
    "ARTERS BLOCK,0LEFT AND LOWER AND RIGHT TRIANGULAR THREE QUARTERS BLOCK,0UPPER AND LEFT AND L",
    "OWER TRIANGULAR THREE QUARTERS BLOCK,0LEFT AND UPPER AND RIGHT TRIANGULAR THREE QUARTERS BLO",
    "CK,1TRIANGULAR ONE QUARTER BLOCK,0UPPER TRIANGULAR ONE QUARTER BLOCK,0RIGHT TRIANGULAR ONE Q",
    "UARTER BLOCK,0LOWER TRIANGULAR ONE QUARTER BLOCK,0VERTICAL ONE EIGHTH BLOCK-2,3BLOCK-3,3BLOC",
    "K-4,3BLOCK-5,3BLOCK-6,3BLOCK-7,0HORIZONTAL ONE EIGHTH BLOCK-2,3BLOCK-3,3BLOCK-4,3BLOCK-5,3BL",
    "OCK-6,3BLOCK-7,0LEFT AND LOWER ONE EIGHTH BLOCK,2UPPER ONE EIGHTH BLOCK,0RIGHT AND UPPER ON",
    "E EIGHTH BLOCK,2LOWER ONE EIGHTH BLOCK,0UPPER AND LOWER ONE EIGHTH BLOCK,0HORIZONTAL ONE EIG",
    "HTH BLOCK-1358,0UPPER ONE QUARTER BLOCK,1THREE EIGHTHS BLOCK,1FIVE EIGHTHS BLOCK,1THREE QUAR",
    "TERS BLOCK,1SEVEN EIGHTHS BLOCK,0RIGHT ONE QUARTER BLOCK,1THREE EIGHTHS BLOCK,1FIVE EIGHTHS ",
    "BLOCK,1THREE QUARTERS BLOCK,1SEVEN EIGHTHS BLOCK,0LEFT HALF MEDIUM SHADE,0RIGHT HALF MEDIUM ",
    "SHADE,0UPPER HALF MEDIUM SHADE,0LOWER HALF MEDIUM SHADE,0INVERSE MEDIUM SHADE,0UPPER HALF BL",
    "OCK AND LOWER HALF INVERSE MEDIUM SHADE,2INVERSE MEDIUM SHADE AND LOWER HALF BLOCK,=1fb94 0L",
    "EFT HALF INVERSE MEDIUM SHADE AND RIGHT HALF BLOCK,0CHECKER BOARD FILL,0INVERSE CHECKER BOAR",
    "D FILL,0HEAVY HORIZONTAL FILL,0UPPER LEFT TO LOWER RIGHT FILL,1RIGHT TO LOWER LEFT FILL,1AN",
    "D LOWER TRIANGULAR HALF BLOCK,0LEFT AND RIGHT TRIANGULAR HALF BLOCK,0UPPER LEFT TRIANGULAR M",
    "EDIUM SHADE,1RIGHT TRIANGULAR MEDIUM SHADE,0LOWER RIGHT TRIANGULAR MEDIUM SHADE,1LEFT TRIANG",
    "ULAR MEDIUM SHADE,0BOX DRAWINGS LIGHT DIAGONAL UPPER CENTRE TO MIDDLE LEFT,8RIGHT,4MIDDLE LE",
    "FT TO LOWER CENTRE,5RIGHT TO LOWER CENTRE,4UPPER CENTRE TO MIDDLE LEFT TO LOWER CENTRE,8RIGH",
    "T TO LOWER CENTRE,4MIDDLE LEFT TO LOWER CENTRE TO MIDDLE RIGHT,7UPPER CENTRE TO MIDDLE RIGHT",
    ",4UPPER CENTRE TO MIDDLE LEFT AND MIDDLE RIGHT TO LOWER CENTRE,8RIGHT AND MIDDLE LEFT TO LOW",
    "ER CENTRE,9TO LOWER CENTRE TO MIDDLE LEFT,8LEFT TO LOWER CENTRE TO MIDDLE RIGHT,4MIDDLE LEF",
    "T TO UPPER CENTRE TO MIDDLE RIGHT TO LOWER CENTRE,5RIGHT TO UPPER CENTRE TO MIDDLE LEFT TO L",
    "OWER CENTRE,4DIAMOND,3HORIZONTAL WITH VERTICAL STROKE,0ARROWHEAD-SHAPED POINTER,0INVERSE CHE",
    "CK MARK,0LEFT HALF RUNNING MAN,0RIGHT HALF RUNNING MAN,0INVERSE DOWNWARDS ARROW WITH TIP LEF",
    "TWARDS,0LEFTWARDS ARROW AND UPPER AND LOWER ONE EIGHTH BLOCK,0RIGHTWARDS ARROW AND UPPER AN",
    "D LOWER ONE EIGHTH BLOCK,0DOWNWARDS ARROW AND RIGHT ONE EIGHTH BLOCK,0UPWARDS ARROW AND RIGH",
    "T ONE EIGHTH BLOCK,0LEFT HALF FOLDER,0RIGHT HALF FOLDER,0VOIDED GREEK CROSS,0RIGHT OPEN SQUA",
    "RED DOT,0NEGATIVE DIAGONAL CROSS,2MIDDLE RIGHT TO LOWER CENTRE,2DIAMOND,0WHITE HEAVY SALTIR",
    "E WITH ROUNDED CORNERS,0LEFT THIRD WHITE RIGHT POINTING INDEX,0MIDDLE THIRD WHITE RIGHT POIN",
    "TING INDEX,0RIGHT THIRD WHITE RIGHT POINTING INDEX,0NEGATIVE SQUARED QUESTION MARK,0STICK FI",
    "GURE,2WITH ARMS RAISED,2LEANING LEFT,3RIGHT,2WITH DRESS,0WHITE UP-POINTING CHEVRON,=1fbf0 0S",
    "EGMENTED DIGIT ZERO,2ONE,2TWO,2THREE,2FOUR,2FIVE,2SIX,2SEVEN,2EIGHT,2NINE,=e0001 0LANGUAGE T",
    "AG,=e0020 0TAG SPACE,1EXCLAMATION MARK,1QUOTATION MARK,1NUMBER SIGN,1DOLLAR SIGN,1PERCENT SI",
    "GN,1AMPERSAND,1APOSTROPHE,1LEFT PARENTHESIS,1RIGHT PARENTHESIS,1ASTERISK,1PLUS SIGN,1COMMA,1",
    "HYPHEN-MINUS,1FULL STOP,1SOLIDUS,1DIGIT ZERO,2ONE,2TWO,2THREE,2FOUR,2FIVE,2SIX,2SEVEN,2EIGHT",
    ",2NINE,1COLON,1SEMICOLON,1LESS-THAN SIGN,1EQUALS SIGN,1GREATER-THAN SIGN,1QUESTION MARK,1COM",
    "MERCIAL AT,1LATIN CAPITAL LETTER A,4B,4C,4D,4E,4F,4G,4H,4I,4J,4K,4L,4M,4N,4O,4P,4Q,4R,4S,4T,",
    "4U,4V,4W,4X,4Y,4Z,1LEFT SQUARE BRACKET,1REVERSE SOLIDUS,1RIGHT SQUARE BRACKET,1CIRCUMFLEX AC",
    "CENT,1LOW LINE,1GRAVE ACCENT,1LATIN SMALL LETTER A,4B,4C,4D,4E,4F,4G,4H,4I,4J,4K,4L,4M,4N,4O",
    ",4P,4Q,4R,4S,4T,4U,4V,4W,4X,4Y,4Z,1LEFT CURLY BRACKET,1VERTICAL LINE,1RIGHT CURLY BRACKET,1T",
    "ILDE,0CANCEL TAG,=e0100 0VARIATION SELECTOR-17,=e0100 0VS17,0VARIATION SELECTOR-18,=e0101 0V",
    "S18,0VARIATION SELECTOR-19,=e0102 0VS19,0VARIATION SELECTOR-20,=e0103 0VS20,0VARIATION SELEC",
    "TOR-21,=e0104 0VS21,0VARIATION SELECTOR-22,=e0105 0VS22,0VARIATION SELECTOR-23,=e0106 0VS23,",
    "0VARIATION SELECTOR-24,=e0107 0VS24,0VARIATION SELECTOR-25,=e0108 0VS25,0VARIATION SELECTOR-",
    "26,=e0109 0VS26,0VARIATION SELECTOR-27,=e010a 0VS27,0VARIATION SELECTOR-28,=e010b 0VS28,0VAR",
    "IATION SELECTOR-29,=e010c 0VS29,0VARIATION SELECTOR-30,=e010d 0VS30,0VARIATION SELECTOR-31,=",
    "e010e 0VS31,0VARIATION SELECTOR-32,=e010f 0VS32,0VARIATION SELECTOR-33,=e0110 0VS33,0VARIATI",
    "ON SELECTOR-34,=e0111 0VS34,0VARIATION SELECTOR-35,=e0112 0VS35,0VARIATION SELECTOR-36,=e011",
    "3 0VS36,0VARIATION SELECTOR-37,=e0114 0VS37,0VARIATION SELECTOR-38,=e0115 0VS38,0VARIATION S",
    "ELECTOR-39,=e0116 0VS39,0VARIATION SELECTOR-40,=e0117 0VS40,0VARIATION SELECTOR-41,=e0118 0V",
    "S41,0VARIATION SELECTOR-42,=e0119 0VS42,0VARIATION SELECTOR-43,=e011a 0VS43,0VARIATION SELEC",
    "TOR-44,=e011b 0VS44,0VARIATION SELECTOR-45,=e011c 0VS45,0VARIATION SELECTOR-46,=e011d 0VS46,",
    "0VARIATION SELECTOR-47,=e011e 0VS47,0VARIATION SELECTOR-48,=e011f 0VS48,0VARIATION SELECTOR-",
    "49,=e0120 0VS49,0VARIATION SELECTOR-50,=e0121 0VS50,0VARIATION SELECTOR-51,=e0122 0VS51,0VAR",
    "IATION SELECTOR-52,=e0123 0VS52,0VARIATION SELECTOR-53,=e0124 0VS53,0VARIATION SELECTOR-54,=",
    "e0125 0VS54,0VARIATION SELECTOR-55,=e0126 0VS55,0VARIATION SELECTOR-56,=e0127 0VS56,0VARIATI",
    "ON SELECTOR-57,=e0128 0VS57,0VARIATION SELECTOR-58,=e0129 0VS58,0VARIATION SELECTOR-59,=e012",
    "a 0VS59,0VARIATION SELECTOR-60,=e012b 0VS60,0VARIATION SELECTOR-61,=e012c 0VS61,0VARIATION S",
    "ELECTOR-62,=e012d 0VS62,0VARIATION SELECTOR-63,=e012e 0VS63,0VARIATION SELECTOR-64,=e012f 0V",
    "S64,0VARIATION SELECTOR-65,=e0130 0VS65,0VARIATION SELECTOR-66,=e0131 0VS66,0VARIATION SELEC",
    "TOR-67,=e0132 0VS67,0VARIATION SELECTOR-68,=e0133 0VS68,0VARIATION SELECTOR-69,=e0134 0VS69,",
    "0VARIATION SELECTOR-70,=e0135 0VS70,0VARIATION SELECTOR-71,=e0136 0VS71,0VARIATION SELECTOR-",
    "72,=e0137 0VS72,0VARIATION SELECTOR-73,=e0138 0VS73,0VARIATION SELECTOR-74,=e0139 0VS74,0VAR",
    "IATION SELECTOR-75,=e013a 0VS75,0VARIATION SELECTOR-76,=e013b 0VS76,0VARIATION SELECTOR-77,=",
    "e013c 0VS77,0VARIATION SELECTOR-78,=e013d 0VS78,0VARIATION SELECTOR-79,=e013e 0VS79,0VARIATI",
    "ON SELECTOR-80,=e013f 0VS80,0VARIATION SELECTOR-81,=e0140 0VS81,0VARIATION SELECTOR-82,=e014",
    "1 0VS82,0VARIATION SELECTOR-83,=e0142 0VS83,0VARIATION SELECTOR-84,=e0143 0VS84,0VARIATION S",
    "ELECTOR-85,=e0144 0VS85,0VARIATION SELECTOR-86,=e0145 0VS86,0VARIATION SELECTOR-87,=e0146 0V",
    "S87,0VARIATION SELECTOR-88,=e0147 0VS88,0VARIATION SELECTOR-89,=e0148 0VS89,0VARIATION SELEC",
    "TOR-90,=e0149 0VS90,0VARIATION SELECTOR-91,=e014a 0VS91,0VARIATION SELECTOR-92,=e014b 0VS92,",
    "0VARIATION SELECTOR-93,=e014c 0VS93,0VARIATION SELECTOR-94,=e014d 0VS94,0VARIATION SELECTOR-",
    "95,=e014e 0VS95,0VARIATION SELECTOR-96,=e014f 0VS96,0VARIATION SELECTOR-97,=e0150 0VS97,0VAR",
    "IATION SELECTOR-98,=e0151 0VS98,0VARIATION SELECTOR-99,=e0152 0VS99,0VARIATION SELECTOR-100,",
    "=e0153 0VS100,0VARIATION SELECTOR-101,=e0154 0VS101,0VARIATION SELECTOR-102,=e0155 0VS102,0V",
    "ARIATION SELECTOR-103,=e0156 0VS103,0VARIATION SELECTOR-104,=e0157 0VS104,0VARIATION SELECTO",
    "R-105,=e0158 0VS105,0VARIATION SELECTOR-106,=e0159 0VS106,0VARIATION SELECTOR-107,=e015a 0VS",
    "107,0VARIATION SELECTOR-108,=e015b 0VS108,0VARIATION SELECTOR-109,=e015c 0VS109,0VARIATION S",
    "ELECTOR-110,=e015d 0VS110,0VARIATION SELECTOR-111,=e015e 0VS111,0VARIATION SELECTOR-112,=e01",
    "5f 0VS112,0VARIATION SELECTOR-113,=e0160 0VS113,0VARIATION SELECTOR-114,=e0161 0VS114,0VARIA",
    "TION SELECTOR-115,=e0162 0VS115,0VARIATION SELECTOR-116,=e0163 0VS116,0VARIATION SELECTOR-11",
    "7,=e0164 0VS117,0VARIATION SELECTOR-118,=e0165 0VS118,0VARIATION SELECTOR-119,=e0166 0VS119,",
    "0VARIATION SELECTOR-120,=e0167 0VS120,0VARIATION SELECTOR-121,=e0168 0VS121,0VARIATION SELEC",
    "TOR-122,=e0169 0VS122,0VARIATION SELECTOR-123,=e016a 0VS123,0VARIATION SELECTOR-124,=e016b 0",
    "VS124,0VARIATION SELECTOR-125,=e016c 0VS125,0VARIATION SELECTOR-126,=e016d 0VS126,0VARIATIO",
    "N SELECTOR-127,=e016e 0VS127,0VARIATION SELECTOR-128,=e016f 0VS128,0VARIATION SELECTOR-129,=",
    "e0170 0VS129,0VARIATION SELECTOR-130,=e0171 0VS130,0VARIATION SELECTOR-131,=e0172 0VS131,0VA",
    "RIATION SELECTOR-132,=e0173 0VS132,0VARIATION SELECTOR-133,=e0174 0VS133,0VARIATION SELECTOR",
    "-134,=e0175 0VS134,0VARIATION SELECTOR-135,=e0176 0VS135,0VARIATION SELECTOR-136,=e0177 0VS1",
    "36,0VARIATION SELECTOR-137,=e0178 0VS137,0VARIATION SELECTOR-138,=e0179 0VS138,0VARIATION SE",
    "LECTOR-139,=e017a 0VS139,0VARIATION SELECTOR-140,=e017b 0VS140,0VARIATION SELECTOR-141,=e017",
    "c 0VS141,0VARIATION SELECTOR-142,=e017d 0VS142,0VARIATION SELECTOR-143,=e017e 0VS143,0VARIAT",
    "ION SELECTOR-144,=e017f 0VS144,0VARIATION SELECTOR-145,=e0180 0VS145,0VARIATION SELECTOR-146",
    ",=e0181 0VS146,0VARIATION SELECTOR-147,=e0182 0VS147,0VARIATION SELECTOR-148,=e0183 0VS148,0",
    "VARIATION SELECTOR-149,=e0184 0VS149,0VARIATION SELECTOR-150,=e0185 0VS150,0VARIATION SELECT",
    "OR-151,=e0186 0VS151,0VARIATION SELECTOR-152,=e0187 0VS152,0VARIATION SELECTOR-153,=e0188 0V",
    "S153,0VARIATION SELECTOR-154,=e0189 0VS154,0VARIATION SELECTOR-155,=e018a 0VS155,0VARIATION ",
    "SELECTOR-156,=e018b 0VS156,0VARIATION SELECTOR-157,=e018c 0VS157,0VARIATION SELECTOR-158,=e0",
    "18d 0VS158,0VARIATION SELECTOR-159,=e018e 0VS159,0VARIATION SELECTOR-160,=e018f 0VS160,0VARI",
    "ATION SELECTOR-161,=e0190 0VS161,0VARIATION SELECTOR-162,=e0191 0VS162,0VARIATION SELECTOR-1",
    "63,=e0192 0VS163,0VARIATION SELECTOR-164,=e0193 0VS164,0VARIATION SELECTOR-165,=e0194 0VS165",
    ",0VARIATION SELECTOR-166,=e0195 0VS166,0VARIATION SELECTOR-167,=e0196 0VS167,0VARIATION SELE",
    "CTOR-168,=e0197 0VS168,0VARIATION SELECTOR-169,=e0198 0VS169,0VARIATION SELECTOR-170,=e0199 ",
    "0VS170,0VARIATION SELECTOR-171,=e019a 0VS171,0VARIATION SELECTOR-172,=e019b 0VS172,0VARIATIO",
    "N SELECTOR-173,=e019c 0VS173,0VARIATION SELECTOR-174,=e019d 0VS174,0VARIATION SELECTOR-175,=",
    "e019e 0VS175,0VARIATION SELECTOR-176,=e019f 0VS176,0VARIATION SELECTOR-177,=e01a0 0VS177,0VA",
    "RIATION SELECTOR-178,=e01a1 0VS178,0VARIATION SELECTOR-179,=e01a2 0VS179,0VARIATION SELECTOR",
    "-180,=e01a3 0VS180,0VARIATION SELECTOR-181,=e01a4 0VS181,0VARIATION SELECTOR-182,=e01a5 0VS1",
    "82,0VARIATION SELECTOR-183,=e01a6 0VS183,0VARIATION SELECTOR-184,=e01a7 0VS184,0VARIATION SE",
    "LECTOR-185,=e01a8 0VS185,0VARIATION SELECTOR-186,=e01a9 0VS186,0VARIATION SELECTOR-187,=e01a",
    "a 0VS187,0VARIATION SELECTOR-188,=e01ab 0VS188,0VARIATION SELECTOR-189,=e01ac 0VS189,0VARIAT",
    "ION SELECTOR-190,=e01ad 0VS190,0VARIATION SELECTOR-191,=e01ae 0VS191,0VARIATION SELECTOR-192",
    ",=e01af 0VS192,0VARIATION SELECTOR-193,=e01b0 0VS193,0VARIATION SELECTOR-194,=e01b1 0VS194,0",
    "VARIATION SELECTOR-195,=e01b2 0VS195,0VARIATION SELECTOR-196,=e01b3 0VS196,0VARIATION SELECT",
    "OR-197,=e01b4 0VS197,0VARIATION SELECTOR-198,=e01b5 0VS198,0VARIATION SELECTOR-199,=e01b6 0V",
    "S199,0VARIATION SELECTOR-200,=e01b7 0VS200,0VARIATION SELECTOR-201,=e01b8 0VS201,0VARIATION ",
    "SELECTOR-202,=e01b9 0VS202,0VARIATION SELECTOR-203,=e01ba 0VS203,0VARIATION SELECTOR-204,=e0",
    "1bb 0VS204,0VARIATION SELECTOR-205,=e01bc 0VS205,0VARIATION SELECTOR-206,=e01bd 0VS206,0VARI",
    "ATION SELECTOR-207,=e01be 0VS207,0VARIATION SELECTOR-208,=e01bf 0VS208,0VARIATION SELECTOR-2",
    "09,=e01c0 0VS209,0VARIATION SELECTOR-210,=e01c1 0VS210,0VARIATION SELECTOR-211,=e01c2 0VS211",
    ",0VARIATION SELECTOR-212,=e01c3 0VS212,0VARIATION SELECTOR-213,=e01c4 0VS213,0VARIATION SELE",
    "CTOR-214,=e01c5 0VS214,0VARIATION SELECTOR-215,=e01c6 0VS215,0VARIATION SELECTOR-216,=e01c7 ",
    "0VS216,0VARIATION SELECTOR-217,=e01c8 0VS217,0VARIATION SELECTOR-218,=e01c9 0VS218,0VARIATIO",
    "N SELECTOR-219,=e01ca 0VS219,0VARIATION SELECTOR-220,=e01cb 0VS220,0VARIATION SELECTOR-221,=",
    "e01cc 0VS221,0VARIATION SELECTOR-222,=e01cd 0VS222,0VARIATION SELECTOR-223,=e01ce 0VS223,0VA",
    "RIATION SELECTOR-224,=e01cf 0VS224,0VARIATION SELECTOR-225,=e01d0 0VS225,0VARIATION SELECTOR",
    "-226,=e01d1 0VS226,0VARIATION SELECTOR-227,=e01d2 0VS227,0VARIATION SELECTOR-228,=e01d3 0VS2",
    "28,0VARIATION SELECTOR-229,=e01d4 0VS229,0VARIATION SELECTOR-230,=e01d5 0VS230,0VARIATION SE",
    "LECTOR-231,=e01d6 0VS231,0VARIATION SELECTOR-232,=e01d7 0VS232,0VARIATION SELECTOR-233,=e01d",
    "8 0VS233,0VARIATION SELECTOR-234,=e01d9 0VS234,0VARIATION SELECTOR-235,=e01da 0VS235,0VARIAT",
    "ION SELECTOR-236,=e01db 0VS236,0VARIATION SELECTOR-237,=e01dc 0VS237,0VARIATION SELECTOR-238",
    ",=e01dd 0VS238,0VARIATION SELECTOR-239,=e01de 0VS239,0VARIATION SELECTOR-240,=e01df 0VS240,0",
    "VARIATION SELECTOR-241,=e01e0 0VS241,0VARIATION SELECTOR-242,=e01e1 0VS242,0VARIATION SELECT",
    "OR-243,=e01e2 0VS243,0VARIATION SELECTOR-244,=e01e3 0VS244,0VARIATION SELECTOR-245,=e01e4 0V",
    "S245,0VARIATION SELECTOR-246,=e01e5 0VS246,0VARIATION SELECTOR-247,=e01e6 0VS247,0VARIATION ",
    "SELECTOR-248,=e01e7 0VS248,0VARIATION SELECTOR-249,=e01e8 0VS249,0VARIATION SELECTOR-250,=e0",
    "1e9 0VS250,0VARIATION SELECTOR-251,=e01ea 0VS251,0VARIATION SELECTOR-252,=e01eb 0VS252,0VARI",
    "ATION SELECTOR-253,=e01ec 0VS253,0VARIATION SELECTOR-254,=e01ed 0VS254,0VARIATION SELECTOR-2",
    "55,=e01ee 0VS255,0VARIATION SELECTOR-256,=e01ef 0VS256"]

end CardPress.Text
