import CardPress.Text.Case
import CardPress.Text.Letter

/-! Kinds of letters, and text with all differences of case taken out (Unicode 14). -/
namespace CardPress.Text

/-- Code points of numbers that are no letters. -/
def numberRanges : List (Nat × Nat) :=
  [(48, 57), (178, 179), (185, 185), (188, 190), (1632, 1641), (1776, 1785), (1984, 1993),
   (2406, 2415), (2534, 2543), (2548, 2553), (2662, 2671), (2790, 2799), (2918, 2927),
   (2930, 2935), (3046, 3058), (3174, 3183), (3192, 3198), (3302, 3311), (3416, 3422),
   (3430, 3448), (3558, 3567), (3664, 3673), (3792, 3801), (3872, 3891), (4160, 4169),
   (4240, 4249), (4969, 4988), (5870, 5872), (6112, 6121), (6128, 6137), (6160, 6169),
   (6470, 6479), (6608, 6618), (6784, 6793), (6800, 6809), (6992, 7001), (7088, 7097),
   (7232, 7241), (7248, 7257), (8304, 8304), (8308, 8313), (8320, 8329), (8528, 8578),
   (8581, 8585), (9312, 9371), (9450, 9471), (10102, 10131), (11517, 11517), (12295, 12295),
   (12321, 12329), (12344, 12346), (12690, 12693), (12832, 12841), (12872, 12879), (12881, 12895),
   (12928, 12937), (12977, 12991), (42528, 42537), (42726, 42735), (43056, 43061), (43216, 43225),
   (43264, 43273), (43472, 43481), (43504, 43513), (43600, 43609), (44016, 44025), (65296, 65305),
   (65799, 65843), (65856, 65912), (65930, 65931), (66273, 66299), (66336, 66339), (66369, 66369),
   (66378, 66378), (66513, 66517), (66720, 66729), (67672, 67679), (67705, 67711), (67751, 67759),
   (67835, 67839), (67862, 67867), (68028, 68029), (68032, 68047), (68050, 68095), (68160, 68168),
   (68221, 68222), (68253, 68255), (68331, 68335), (68440, 68447), (68472, 68479), (68521, 68527),
   (68858, 68863), (68912, 68921), (69216, 69246), (69405, 69414), (69457, 69460), (69573, 69579),
   (69714, 69743), (69872, 69881), (69942, 69951), (70096, 70105), (70113, 70132), (70384, 70393),
   (70736, 70745), (70864, 70873), (71248, 71257), (71360, 71369), (71472, 71483), (71904, 71922),
   (72016, 72025), (72784, 72812), (73040, 73049), (73120, 73129), (73664, 73684), (74752, 74862),
   (92768, 92777), (92864, 92873), (93008, 93017), (93019, 93025), (93824, 93846),
   (119520, 119539), (119648, 119672), (120782, 120831), (123200, 123209), (123632, 123641),
   (125127, 125135), (125264, 125273), (126065, 126123), (126125, 126127), (126129, 126132),
   (126209, 126253), (126255, 126269), (127232, 127244), (130032, 130041)]

/-- Letters that name a number. -/
def numberLetterRanges : List (Nat × Nat) :=
  [(13317, 13317), (13443, 13443), (14378, 14378), (15181, 15181), (19968, 19968), (19971, 19971),
   (19975, 19975), (19977, 19977), (20061, 20061), (20108, 20108), (20116, 20116), (20118, 20118),
   (20159, 20160), (20191, 20191), (20200, 20200), (20237, 20237), (20336, 20336), (20740, 20740),
   (20806, 20806), (20841, 20841), (20843, 20843), (20845, 20845), (21313, 21313), (21315, 21317),
   (21324, 21324), (21441, 21444), (22235, 22235), (22769, 22769), (22777, 22777), (24186, 24186),
   (24318, 24319), (24332, 24334), (24336, 24336), (25342, 25342), (25420, 25420), (26578, 26578),
   (28422, 28422), (29590, 29590), (30334, 30334), (32902, 32902), (33836, 33836), (36014, 36014),
   (36019, 36019), (36144, 36144), (38433, 38433), (38470, 38470), (38476, 38476), (38520, 38520),
   (38646, 38646), (63851, 63851), (63859, 63859), (63864, 63864), (63922, 63922), (63953, 63953),
   (63955, 63955), (63997, 63997), (131073, 131073), (131172, 131172), (131298, 131298),
   (131361, 131361), (133418, 133418), (133507, 133507), (133516, 133516), (133532, 133532),
   (133866, 133866), (133885, 133885), (133913, 133913), (140176, 140176), (141720, 141720),
   (146203, 146203), (156269, 156269), (194704, 194704)]

/-- Code points from `first` to `last` in steps of `step`. -/
def inRuns : List (Nat × Nat × Nat) → Nat → Bool
  | [], _ => false
  | (first, last, step) :: rest, n =>
    first ≤ n && (if n ≤ last then (n - first) % step = 0 else inRuns rest n)

def lowerLetterRuns : List (Nat × Nat × Nat) :=
  [(97, 122, 1), (170, 170, 1), (181, 181, 1), (186, 186, 1), (223, 246, 1), (248, 255, 1),
   (257, 311, 2), (312, 328, 2), (329, 375, 2), (378, 382, 2), (383, 384, 1), (387, 389, 2),
   (392, 392, 1), (396, 397, 1), (402, 402, 1), (405, 405, 1), (409, 411, 1), (414, 414, 1),
   (417, 421, 2), (424, 426, 2), (427, 429, 2), (432, 432, 1), (436, 438, 2), (441, 442, 1),
   (445, 447, 1), (454, 454, 1), (457, 457, 1), (460, 476, 2), (477, 495, 2), (496, 496, 1),
   (499, 501, 2), (505, 563, 2), (564, 569, 1), (572, 572, 1), (575, 576, 1), (578, 578, 1),
   (583, 591, 2), (592, 659, 1), (661, 696, 1), (704, 705, 1), (736, 740, 1), (837, 837, 1),
   (881, 883, 2), (887, 887, 1), (890, 893, 1), (912, 912, 1), (940, 974, 1), (976, 977, 1),
   (981, 983, 1), (985, 1007, 2), (1008, 1011, 1), (1013, 1013, 1), (1016, 1016, 1),
   (1019, 1020, 1), (1072, 1119, 1), (1121, 1153, 2), (1163, 1215, 2), (1218, 1230, 2),
   (1231, 1327, 2), (1376, 1416, 1), (4304, 4346, 1), (4349, 4351, 1), (5112, 5117, 1),
   (7296, 7304, 1), (7424, 7615, 1), (7681, 7829, 2), (7830, 7837, 1), (7839, 7935, 2),
   (7936, 7943, 1), (7952, 7957, 1), (7968, 7975, 1), (7984, 7991, 1), (8000, 8005, 1),
   (8016, 8023, 1), (8032, 8039, 1), (8048, 8061, 1), (8064, 8071, 1), (8080, 8087, 1),
   (8096, 8103, 1), (8112, 8116, 1), (8118, 8119, 1), (8126, 8126, 1), (8130, 8132, 1),
   (8134, 8135, 1), (8144, 8147, 1), (8150, 8151, 1), (8160, 8167, 1), (8178, 8180, 1),
   (8182, 8183, 1), (8305, 8305, 1), (8319, 8319, 1), (8336, 8348, 1), (8458, 8458, 1),
   (8462, 8463, 1), (8467, 8467, 1), (8495, 8495, 1), (8500, 8500, 1), (8505, 8505, 1),
   (8508, 8509, 1), (8518, 8521, 1), (8526, 8526, 1), (8560, 8575, 1), (8580, 8580, 1),
   (9424, 9449, 1), (11312, 11359, 1), (11361, 11361, 1), (11365, 11366, 1), (11368, 11372, 2),
   (11377, 11379, 2), (11380, 11382, 2), (11383, 11389, 1), (11393, 11491, 2), (11492, 11492, 1),
   (11500, 11502, 2), (11507, 11507, 1), (11520, 11557, 1), (11559, 11559, 1), (11565, 11565, 1),
   (42561, 42605, 2), (42625, 42651, 2), (42652, 42653, 1), (42787, 42799, 2), (42800, 42801, 1),
   (42803, 42863, 2), (42864, 42872, 1), (42874, 42876, 2), (42879, 42887, 2), (42892, 42894, 2),
   (42897, 42899, 2), (42900, 42901, 1), (42903, 42921, 2), (42927, 42927, 1), (42933, 42947, 2),
   (42952, 42954, 2), (42961, 42969, 2), (42998, 43000, 2), (43001, 43002, 1), (43824, 43866, 1),
   (43868, 43880, 1), (43888, 43967, 1), (64256, 64262, 1), (64275, 64279, 1), (65345, 65370, 1),
   (66600, 66639, 1), (66776, 66811, 1), (66967, 66977, 1), (66979, 66993, 1), (66995, 67001, 1),
   (67003, 67004, 1), (67456, 67456, 1), (67459, 67461, 1), (67463, 67504, 1), (67506, 67514, 1),
   (68800, 68850, 1), (71872, 71903, 1), (93792, 93823, 1), (119834, 119859, 1),
   (119886, 119892, 1), (119894, 119911, 1), (119938, 119963, 1), (119990, 119993, 1),
   (119995, 119997, 2), (119998, 120003, 1), (120005, 120015, 1), (120042, 120067, 1),
   (120094, 120119, 1), (120146, 120171, 1), (120198, 120223, 1), (120250, 120275, 1),
   (120302, 120327, 1), (120354, 120379, 1), (120406, 120431, 1), (120458, 120485, 1),
   (120514, 120538, 1), (120540, 120545, 1), (120572, 120596, 1), (120598, 120603, 1),
   (120630, 120654, 1), (120656, 120661, 1), (120688, 120712, 1), (120714, 120719, 1),
   (120746, 120770, 1), (120772, 120777, 1), (120779, 120779, 1), (122624, 122633, 1),
   (122635, 122654, 1), (125218, 125251, 1)]

def upperLetterRuns : List (Nat × Nat × Nat) :=
  [(65, 90, 1), (192, 214, 1), (216, 222, 1), (256, 310, 2), (313, 327, 2), (330, 376, 2),
   (377, 381, 2), (385, 386, 1), (388, 390, 2), (391, 393, 2), (394, 395, 1), (398, 401, 1),
   (403, 404, 1), (406, 408, 1), (412, 413, 1), (415, 416, 1), (418, 422, 2), (423, 425, 2),
   (428, 430, 2), (431, 433, 2), (434, 435, 1), (437, 439, 2), (440, 440, 1), (444, 444, 1),
   (452, 452, 1), (455, 455, 1), (458, 458, 1), (461, 475, 2), (478, 494, 2), (497, 497, 1),
   (500, 502, 2), (503, 504, 1), (506, 562, 2), (570, 571, 1), (573, 574, 1), (577, 579, 2),
   (580, 582, 1), (584, 590, 2), (880, 882, 2), (886, 886, 1), (895, 895, 1), (902, 904, 2),
   (905, 906, 1), (908, 910, 2), (911, 913, 2), (914, 929, 1), (931, 939, 1), (975, 975, 1),
   (978, 980, 1), (984, 1006, 2), (1012, 1012, 1), (1015, 1017, 2), (1018, 1018, 1),
   (1021, 1071, 1), (1120, 1152, 2), (1162, 1216, 2), (1217, 1229, 2), (1232, 1326, 2),
   (1329, 1366, 1), (4256, 4293, 1), (4295, 4295, 1), (4301, 4301, 1), (5024, 5109, 1),
   (7312, 7354, 1), (7357, 7359, 1), (7680, 7828, 2), (7838, 7934, 2), (7944, 7951, 1),
   (7960, 7965, 1), (7976, 7983, 1), (7992, 7999, 1), (8008, 8013, 1), (8025, 8031, 2),
   (8040, 8047, 1), (8120, 8123, 1), (8136, 8139, 1), (8152, 8155, 1), (8168, 8172, 1),
   (8184, 8187, 1), (8450, 8450, 1), (8455, 8455, 1), (8459, 8461, 1), (8464, 8466, 1),
   (8469, 8469, 1), (8473, 8477, 1), (8484, 8490, 2), (8491, 8493, 1), (8496, 8499, 1),
   (8510, 8511, 1), (8517, 8517, 1), (8544, 8559, 1), (8579, 8579, 1), (9398, 9423, 1),
   (11264, 11311, 1), (11360, 11362, 2), (11363, 11364, 1), (11367, 11373, 2), (11374, 11376, 1),
   (11378, 11378, 1), (11381, 11381, 1), (11390, 11392, 1), (11394, 11490, 2), (11499, 11501, 2),
   (11506, 11506, 1), (42560, 42604, 2), (42624, 42650, 2), (42786, 42798, 2), (42802, 42862, 2),
   (42873, 42877, 2), (42878, 42886, 2), (42891, 42893, 2), (42896, 42898, 2), (42902, 42922, 2),
   (42923, 42926, 1), (42928, 42932, 1), (42934, 42948, 2), (42949, 42951, 1), (42953, 42953, 1),
   (42960, 42960, 1), (42966, 42968, 2), (42997, 42997, 1), (65313, 65338, 1), (66560, 66599, 1),
   (66736, 66771, 1), (66928, 66938, 1), (66940, 66954, 1), (66956, 66962, 1), (66964, 66965, 1),
   (68736, 68786, 1), (71840, 71871, 1), (93760, 93791, 1), (119808, 119833, 1),
   (119860, 119885, 1), (119912, 119937, 1), (119964, 119966, 2), (119967, 119967, 1),
   (119970, 119970, 1), (119973, 119974, 1), (119977, 119980, 1), (119982, 119989, 1),
   (120016, 120041, 1), (120068, 120069, 1), (120071, 120074, 1), (120077, 120084, 1),
   (120086, 120092, 1), (120120, 120121, 1), (120123, 120126, 1), (120128, 120132, 1),
   (120134, 120134, 1), (120138, 120144, 1), (120172, 120197, 1), (120224, 120249, 1),
   (120276, 120301, 1), (120328, 120353, 1), (120380, 120405, 1), (120432, 120457, 1),
   (120488, 120512, 1), (120546, 120570, 1), (120604, 120628, 1), (120662, 120686, 1),
   (120720, 120744, 1), (120778, 120778, 1), (125184, 125217, 1), (127280, 127305, 1),
   (127312, 127337, 1), (127344, 127369, 1)]

/-- Letters of two parts of which only the first is a capital. -/
def titleLetterRanges : List (Nat × Nat) :=
  [(453, 453), (456, 456), (459, 459), (498, 498), (8072, 8079), (8088, 8095), (8104, 8111),
   (8124, 8124), (8140, 8140), (8188, 8188)]

/-- Folded forms of one character, where they are not the lower form. -/
def foldRuns : List CaseRun :=
  [(181, 181, 1, 775), (383, 383, 1, -268), (837, 837, 1, 116), (962, 962, 1, 1),
   (976, 976, 1, -30), (977, 977, 1, -25), (981, 981, 1, -15), (982, 982, 1, -22),
   (1008, 1008, 1, -54), (1009, 1009, 1, -48), (1013, 1013, 1, -64), (5024, 5109, 1, 0),
   (5112, 5117, 1, -8), (7296, 7296, 1, -6222), (7297, 7297, 1, -6221), (7298, 7298, 1, -6212),
   (7299, 7300, 1, -6210), (7301, 7301, 1, -6211), (7302, 7302, 1, -6204), (7303, 7303, 1, -6180),
   (7304, 7304, 1, 35267), (7835, 7835, 1, -58), (8126, 8126, 1, -7173),
   (43888, 43967, 1, -38864)]

/-- Folded forms of several characters. -/
def foldSpecials : List (Nat × List Nat) :=
  [(223, [115, 115]), (329, [700, 110]), (496, [106, 780]), (912, [953, 776, 769]),
   (944, [965, 776, 769]), (1415, [1381, 1410]), (7830, [104, 817]), (7831, [116, 776]),
   (7832, [119, 778]), (7833, [121, 778]), (7834, [97, 702]), (7838, [115, 115]),
   (8016, [965, 787]), (8018, [965, 787, 768]), (8020, [965, 787, 769]), (8022, [965, 787, 834]),
   (8064, [7936, 953]), (8065, [7937, 953]), (8066, [7938, 953]), (8067, [7939, 953]),
   (8068, [7940, 953]), (8069, [7941, 953]), (8070, [7942, 953]), (8071, [7943, 953]),
   (8072, [7936, 953]), (8073, [7937, 953]), (8074, [7938, 953]), (8075, [7939, 953]),
   (8076, [7940, 953]), (8077, [7941, 953]), (8078, [7942, 953]), (8079, [7943, 953]),
   (8080, [7968, 953]), (8081, [7969, 953]), (8082, [7970, 953]), (8083, [7971, 953]),
   (8084, [7972, 953]), (8085, [7973, 953]), (8086, [7974, 953]), (8087, [7975, 953]),
   (8088, [7968, 953]), (8089, [7969, 953]), (8090, [7970, 953]), (8091, [7971, 953]),
   (8092, [7972, 953]), (8093, [7973, 953]), (8094, [7974, 953]), (8095, [7975, 953]),
   (8096, [8032, 953]), (8097, [8033, 953]), (8098, [8034, 953]), (8099, [8035, 953]),
   (8100, [8036, 953]), (8101, [8037, 953]), (8102, [8038, 953]), (8103, [8039, 953]),
   (8104, [8032, 953]), (8105, [8033, 953]), (8106, [8034, 953]), (8107, [8035, 953]),
   (8108, [8036, 953]), (8109, [8037, 953]), (8110, [8038, 953]), (8111, [8039, 953]),
   (8114, [8048, 953]), (8115, [945, 953]), (8116, [940, 953]), (8118, [945, 834]),
   (8119, [945, 834, 953]), (8124, [945, 953]), (8130, [8052, 953]), (8131, [951, 953]),
   (8132, [942, 953]), (8134, [951, 834]), (8135, [951, 834, 953]), (8140, [951, 953]),
   (8146, [953, 776, 768]), (8147, [953, 776, 769]), (8150, [953, 834]), (8151, [953, 776, 834]),
   (8162, [965, 776, 768]), (8163, [965, 776, 769]), (8164, [961, 787]), (8166, [965, 834]),
   (8167, [965, 776, 834]), (8178, [8060, 953]), (8179, [969, 953]), (8180, [974, 953]),
   (8182, [969, 834]), (8183, [969, 834, 953]), (8188, [969, 953]), (64256, [102, 102]),
   (64257, [102, 105]), (64258, [102, 108]), (64259, [102, 102, 105]), (64260, [102, 102, 108]),
   (64261, [115, 116]), (64262, [115, 116]), (64275, [1396, 1398]), (64276, [1396, 1381]),
   (64277, [1396, 1387]), (64278, [1406, 1398]), (64279, [1396, 1389])]

def isLetter (c : Char) : Bool := isAlphanumeric c && !inRanges numberRanges c.toNat

def isNumeric (c : Char) : Bool :=
  inRanges numberRanges c.toNat || inRanges numberLetterRanges c.toNat

def isLowerLetter (c : Char) : Bool := inRuns lowerLetterRuns c.toNat

def isUpperLetter (c : Char) : Bool := inRuns upperLetterRuns c.toNat

def isTitleLetter (c : Char) : Bool := inRanges titleLetterRanges c.toNat

def isCased (c : Char) : Bool := inRanges casedRanges c.toNat

/-- Some letter with case, and no letter of another case. -/
def allLower (cs : List Char) : Bool :=
  cs.any isLowerLetter && !cs.any fun c => isUpperLetter c || isTitleLetter c

def allUpper (cs : List Char) : Bool :=
  cs.any isUpperLetter && !cs.any fun c => isLowerLetter c || isTitleLetter c

/-- Whether capitals stand just at the start of each run of letters with case; `inside` tells whether
such a letter came just before, `met` whether there was one at all. -/
def allTitle (inside met : Bool) : List Char → Bool
  | [] => met
  | c :: cs =>
    if isUpperLetter c || isTitleLetter c then !inside && allTitle true true cs
    else if isLowerLetter c then inside && allTitle true true cs
    else allTitle false met cs

def foldChar (c : Char) : List Char :=
  match foldSpecials.lookup c.toNat with
  | some cs => cs.map ofCode
  | none =>
    match caseImage? foldRuns c.toNat with
    | some n => [ofCode n]
    | none => lowerChar c

def foldCase (cs : List Char) : List Char := cs.flatMap foldChar

/-- Title form at the start of each run of letters with case and lower form inside it; `before` holds
the characters already passed, nearest first. -/
def titleFrom (before : List Char) : List Char → List Char
  | [] => []
  | c :: cs =>
    let inside := (before.head?.map isCased).getD false
    (if inside then lowerHere before c cs else titleChar c) ++ titleFrom (c :: before) cs

/-- Capitals in lower form and small letters in upper form. -/
def swapFrom (before : List Char) : List Char → List Char
  | [] => []
  | c :: cs =>
    let here :=
      if isUpperLetter c then lowerHere before c cs else if isLowerLetter c then upperChar c else [c]
    here ++ swapFrom (c :: before) cs

end CardPress.Text
