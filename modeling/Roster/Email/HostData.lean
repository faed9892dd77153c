namespace Roster.Email

/-- The code points above ASCII that may stand in a label, as themselves or after a mapping that
leaves no ASCII character but letters and digits. -/
def standing : List (Nat × Nat) :=
  [(161, 167), (169, 172), (174, 174), (176, 179), (181, 183), (185, 727), (734, 846), (848, 887),
   (891, 893), (895, 895), (902, 906), (908, 908), (910, 929), (931, 1327), (1329, 1366),
   (1369, 1418), (1421, 1423), (1425, 1479), (1488, 1514), (1519, 1524), (1542, 1563), (1565, 1756),
   (1758, 1805), (1808, 1866), (1869, 1969), (1984, 2042), (2045, 2093), (2096, 2110), (2112, 2139),
   (2142, 2142), (2144, 2154), (2160, 2191), (2199, 2273), (2275, 2435), (2437, 2444), (2447, 2448),
   (2451, 2472), (2474, 2480), (2482, 2482), (2486, 2489), (2492, 2500), (2503, 2504), (2507, 2510),
   (2519, 2519), (2524, 2525), (2527, 2531), (2534, 2558), (2561, 2563), (2565, 2570), (2575, 2576),
   (2579, 2600), (2602, 2608), (2610, 2611), (2613, 2614), (2616, 2617), (2620, 2620), (2622, 2626),
   (2631, 2632), (2635, 2637), (2641, 2641), (2649, 2652), (2654, 2654), (2662, 2678), (2689, 2691),
   (2693, 2701), (2703, 2705), (2707, 2728), (2730, 2736), (2738, 2739), (2741, 2745), (2748, 2757),
   (2759, 2761), (2763, 2765), (2768, 2768), (2784, 2787), (2790, 2801), (2809, 2815), (2817, 2819),
   (2821, 2828), (2831, 2832), (2835, 2856), (2858, 2864), (2866, 2867), (2869, 2873), (2876, 2884),
   (2887, 2888), (2891, 2893), (2901, 2903), (2908, 2909), (2911, 2915), (2918, 2935), (2946, 2947),
   (2949, 2954), (2958, 2960), (2962, 2965), (2969, 2970), (2972, 2972), (2974, 2975), (2979, 2980),
   (2984, 2986), (2990, 3001), (3006, 3010), (3014, 3016), (3018, 3021), (3024, 3024), (3031, 3031),
   (3046, 3066), (3072, 3084), (3086, 3088), (3090, 3112), (3114, 3129), (3132, 3140), (3142, 3144),
   (3146, 3149), (3157, 3158), (3160, 3162), (3164, 3165), (3168, 3171), (3174, 3183), (3191, 3212),
   (3214, 3216), (3218, 3240), (3242, 3251), (3253, 3257), (3260, 3268), (3270, 3272), (3274, 3277),
   (3285, 3286), (3292, 3294), (3296, 3299), (3302, 3311), (3313, 3315), (3328, 3340), (3342, 3344),
   (3346, 3396), (3398, 3400), (3402, 3407), (3412, 3427), (3430, 3455), (3457, 3459), (3461, 3478),
   (3482, 3505), (3507, 3515), (3517, 3517), (3520, 3526), (3530, 3530), (3535, 3540), (3542, 3542),
   (3544, 3551), (3558, 3567), (3570, 3572), (3585, 3642), (3647, 3675), (3713, 3714), (3716, 3716),
   (3718, 3722), (3724, 3747), (3749, 3749), (3751, 3773), (3776, 3780), (3782, 3782), (3784, 3790),
   (3792, 3801), (3804, 3807), (3840, 3911), (3913, 3948), (3953, 3991), (3993, 4028), (4030, 4044),
   (4046, 4058), (4096, 4293), (4295, 4295), (4301, 4301), (4304, 4446), (4449, 4680), (4682, 4685),
   (4688, 4694), (4696, 4696), (4698, 4701), (4704, 4744), (4746, 4749), (4752, 4784), (4786, 4789),
   (4792, 4798), (4800, 4800), (4802, 4805), (4808, 4822), (4824, 4880), (4882, 4885), (4888, 4954),
   (4957, 4988), (4992, 5017), (5024, 5109), (5112, 5117), (5120, 5759), (5761, 5788), (5792, 5880),
   (5888, 5909), (5919, 5942), (5952, 5971), (5984, 5996), (5998, 6000), (6002, 6003), (6016, 6067),
   (6070, 6109), (6112, 6121), (6128, 6137), (6144, 6154), (6160, 6169), (6176, 6264), (6272, 6314),
   (6320, 6389), (6400, 6430), (6432, 6443), (6448, 6459), (6464, 6464), (6468, 6509), (6512, 6516),
   (6528, 6571), (6576, 6601), (6608, 6618), (6622, 6683), (6686, 6750), (6752, 6780), (6783, 6793),
   (6800, 6809), (6816, 6829), (6832, 6877), (6880, 6891), (6912, 6988), (6990, 7155), (7164, 7223),
   (7227, 7241), (7245, 7306), (7312, 7354), (7357, 7367), (7376, 7418), (7424, 7957), (7960, 7965),
   (7968, 8005), (8008, 8013), (8016, 8023), (8025, 8025), (8027, 8027), (8029, 8029), (8031, 8061),
   (8064, 8116), (8118, 8124), (8126, 8126), (8130, 8132), (8134, 8140), (8144, 8147), (8150, 8155),
   (8160, 8172), (8178, 8180), (8182, 8188), (8204, 8205), (8208, 8214), (8216, 8227), (8231, 8231),
   (8240, 8251), (8253, 8253), (8255, 8262), (8266, 8286), (8304, 8305), (8308, 8313), (8315, 8315),
   (8319, 8329), (8331, 8331), (8336, 8348), (8352, 8385), (8400, 8432), (8450, 8452), (8455, 8587),
   (8592, 9257), (9280, 9290), (9312, 9331), (9398, 10867), (10871, 11123), (11126, 11507),
   (11513, 11557), (11559, 11559), (11565, 11565), (11568, 11623), (11631, 11632), (11647, 11670),
   (11680, 11686), (11688, 11694), (11696, 11702), (11704, 11710), (11712, 11718), (11720, 11726),
   (11728, 11734), (11736, 11742), (11744, 11869), (11904, 11929), (11931, 12019), (12032, 12245),
   (12289, 12289), (12291, 12351), (12353, 12438), (12441, 12442), (12445, 12543), (12549, 12591),
   (12593, 12643), (12645, 12686), (12688, 12773), (12784, 12799), (12868, 13249), (13251, 13254),
   (13256, 13271), (13273, 42124), (42128, 42182), (42192, 42539), (42560, 42743), (42752, 42972),
   (42993, 43052), (43056, 43065), (43072, 43127), (43136, 43205), (43214, 43225), (43232, 43347),
   (43359, 43388), (43392, 43469), (43471, 43481), (43486, 43518), (43520, 43574), (43584, 43597),
   (43600, 43609), (43612, 43714), (43739, 43766), (43777, 43782), (43785, 43790), (43793, 43798),
   (43808, 43814), (43816, 43822), (43824, 43883), (43888, 44013), (44016, 44025), (44032, 55203),
   (55216, 55238), (55243, 55291), (63744, 64109), (64112, 64217), (64256, 64262), (64275, 64279),
   (64285, 64296), (64298, 64310), (64312, 64316), (64318, 64318), (64320, 64321), (64323, 64324),
   (64326, 64605), (64612, 64975), (65008, 65017), (65020, 65023), (65041, 65041), (65047, 65048),
   (65056, 65071), (65073, 65074), (65081, 65094), (65105, 65105), (65112, 65112), (65117, 65118),
   (65137, 65137), (65139, 65139), (65143, 65143), (65145, 65145), (65147, 65147), (65149, 65149),
   (65151, 65276), (65296, 65305), (65313, 65338), (65345, 65370), (65375, 65376), (65378, 65439),
   (65441, 65470), (65474, 65479), (65482, 65487), (65490, 65495), (65498, 65500), (65504, 65506),
   (65508, 65510), (65512, 65518), (65536, 65547), (65549, 65574), (65576, 65594), (65596, 65597),
   (65599, 65613), (65616, 65629), (65664, 65786), (65792, 65794), (65799, 65843), (65847, 65934),
   (65936, 65948), (65952, 65952), (66000, 66045), (66176, 66204), (66208, 66256), (66272, 66299),
   (66304, 66339), (66349, 66378), (66384, 66426), (66432, 66461), (66463, 66499), (66504, 66517),
   (66560, 66717), (66720, 66729), (66736, 66771), (66776, 66811), (66816, 66855), (66864, 66915),
   (66927, 66938), (66940, 66954), (66956, 66962), (66964, 66965), (66967, 66977), (66979, 66993),
   (66995, 67001), (67003, 67004), (67008, 67059), (67072, 67382), (67392, 67413), (67424, 67431),
   (67456, 67461), (67463, 67504), (67506, 67514), (67584, 67589), (67592, 67592), (67594, 67637),
   (67639, 67640), (67644, 67644), (67647, 67669), (67671, 67742), (67751, 67759), (67808, 67826),
   (67828, 67829), (67835, 67867), (67871, 67897), (67903, 67929), (67968, 68023), (68028, 68047),
   (68050, 68099), (68101, 68102), (68108, 68115), (68117, 68119), (68121, 68149), (68152, 68154),
   (68159, 68168), (68176, 68184), (68192, 68255), (68288, 68326), (68331, 68342), (68352, 68405),
   (68409, 68437), (68440, 68466), (68472, 68497), (68505, 68508), (68521, 68527), (68608, 68680),
   (68736, 68786), (68800, 68850), (68858, 68903), (68912, 68921), (68928, 68965), (68969, 68997),
   (69006, 69007), (69216, 69246), (69248, 69289), (69291, 69293), (69296, 69297), (69314, 69319),
   (69328, 69336), (69370, 69415), (69424, 69465), (69488, 69513), (69552, 69579), (69600, 69622),
   (69632, 69709), (69714, 69749), (69759, 69820), (69822, 69826), (69840, 69864), (69872, 69881),
   (69888, 69940), (69942, 69959), (69968, 70006), (70016, 70111), (70113, 70132), (70144, 70161),
   (70163, 70209), (70272, 70278), (70280, 70280), (70282, 70285), (70287, 70301), (70303, 70313),
   (70320, 70378), (70384, 70393), (70400, 70403), (70405, 70412), (70415, 70416), (70419, 70440),
   (70442, 70448), (70450, 70451), (70453, 70457), (70459, 70468), (70471, 70472), (70475, 70477),
   (70480, 70480), (70487, 70487), (70493, 70499), (70502, 70508), (70512, 70516), (70528, 70537),
   (70539, 70539), (70542, 70542), (70544, 70581), (70583, 70592), (70594, 70594), (70597, 70597),
   (70599, 70602), (70604, 70613), (70615, 70616), (70625, 70626), (70656, 70747), (70749, 70753),
   (70784, 70855), (70864, 70873), (71040, 71093), (71096, 71133), (71168, 71236), (71248, 71257),
   (71264, 71276), (71296, 71353), (71360, 71369), (71376, 71395), (71424, 71450), (71453, 71467),
   (71472, 71494), (71680, 71739), (71840, 71922), (71935, 71942), (71945, 71945), (71948, 71955),
   (71957, 71958), (71960, 71989), (71991, 71992), (71995, 72006), (72016, 72025), (72096, 72103),
   (72106, 72151), (72154, 72164), (72192, 72263), (72272, 72354), (72368, 72440), (72448, 72457),
   (72544, 72551), (72640, 72673), (72688, 72697), (72704, 72712), (72714, 72758), (72760, 72773),
   (72784, 72812), (72816, 72847), (72850, 72871), (72873, 72886), (72960, 72966), (72968, 72969),
   (72971, 73014), (73018, 73018), (73020, 73021), (73023, 73031), (73040, 73049), (73056, 73061),
   (73063, 73064), (73066, 73102), (73104, 73105), (73107, 73112), (73120, 73129), (73136, 73179),
   (73184, 73193), (73440, 73464), (73472, 73488), (73490, 73530), (73534, 73562), (73648, 73648),
   (73664, 73713), (73727, 74649), (74752, 74862), (74864, 74868), (74880, 75075), (77712, 77810),
   (77824, 78895), (78912, 78933), (78944, 82938), (82944, 83526), (90368, 90425), (92160, 92728),
   (92736, 92766), (92768, 92777), (92782, 92862), (92864, 92873), (92880, 92909), (92912, 92917),
   (92928, 92997), (93008, 93017), (93019, 93025), (93027, 93047), (93053, 93071), (93504, 93561),
   (93760, 93850), (93856, 93880), (93883, 93907), (93952, 94026), (94031, 94087), (94095, 94111),
   (94176, 94180), (94192, 94198), (94208, 101589), (101631, 101662), (101760, 101874),
   (110576, 110579), (110581, 110587), (110589, 110590), (110592, 110882), (110898, 110898),
   (110928, 110930), (110933, 110933), (110948, 110951), (110960, 111355), (113664, 113770),
   (113776, 113788), (113792, 113800), (113808, 113817), (113820, 113823), (117760, 118012),
   (118016, 118451), (118458, 118480), (118496, 118512), (118528, 118573), (118576, 118598),
   (118608, 118723), (118784, 119029), (119040, 119078), (119081, 119154), (119163, 119274),
   (119296, 119365), (119488, 119507), (119520, 119539), (119552, 119638), (119648, 119672),
   (119808, 119892), (119894, 119964), (119966, 119967), (119970, 119970), (119973, 119974),
   (119977, 119980), (119982, 119993), (119995, 119995), (119997, 120003), (120005, 120069),
   (120071, 120074), (120077, 120084), (120086, 120092), (120094, 120121), (120123, 120126),
   (120128, 120132), (120134, 120134), (120138, 120144), (120146, 120485), (120488, 120779),
   (120782, 121483), (121499, 121503), (121505, 121519), (122624, 122654), (122661, 122666),
   (122880, 122886), (122888, 122904), (122907, 122913), (122915, 122916), (122918, 122922),
   (122928, 122989), (123023, 123023), (123136, 123180), (123184, 123197), (123200, 123209),
   (123214, 123215), (123536, 123566), (123584, 123641), (123647, 123647), (124112, 124153),
   (124368, 124410), (124415, 124415), (124608, 124638), (124640, 124661), (124670, 124671),
   (124896, 124902), (124904, 124907), (124909, 124910), (124912, 124926), (124928, 125124),
   (125127, 125142), (125184, 125259), (125264, 125273), (125278, 125279), (126065, 126132),
   (126209, 126269), (126464, 126467), (126469, 126495), (126497, 126498), (126500, 126500),
   (126503, 126503), (126505, 126514), (126516, 126519), (126521, 126521), (126523, 126523),
   (126530, 126530), (126535, 126535), (126537, 126537), (126539, 126539), (126541, 126543),
   (126545, 126546), (126548, 126548), (126551, 126551), (126553, 126553), (126555, 126555),
   (126557, 126557), (126559, 126559), (126561, 126562), (126564, 126564), (126567, 126570),
   (126572, 126578), (126580, 126583), (126585, 126588), (126590, 126590), (126592, 126601),
   (126603, 126619), (126625, 126627), (126629, 126633), (126635, 126651), (126704, 126705),
   (126976, 127019), (127024, 127123), (127136, 127150), (127153, 127167), (127169, 127183),
   (127185, 127221), (127243, 127247), (127274, 127405), (127462, 127490), (127504, 127547),
   (127552, 127560), (127568, 127569), (127584, 127589), (127744, 128728), (128732, 128748),
   (128752, 128764), (128768, 128985), (128992, 129003), (129008, 129008), (129024, 129035),
   (129040, 129095), (129104, 129113), (129120, 129159), (129168, 129197), (129200, 129211),
   (129216, 129217), (129232, 129240), (129280, 129623), (129632, 129645), (129648, 129660),
   (129664, 129674), (129678, 129734), (129736, 129736), (129741, 129756), (129759, 129770),
   (129775, 129784), (129792, 129938), (129940, 130042), (131072, 173791), (173824, 178205),
   (178208, 183981), (183984, 191456), (191472, 192093), (194560, 195101), (196608, 201546),
   (201552, 210041)]

def marks : List (Nat × Nat) :=
  [(768, 879), (1155, 1161), (1425, 1469), (1471, 1471), (1473, 1474), (1476, 1477), (1479, 1479),
   (1552, 1562), (1611, 1631), (1648, 1648), (1750, 1756), (1759, 1764), (1767, 1768), (1770, 1773),
   (1809, 1809), (1840, 1866), (1958, 1968), (2027, 2035), (2045, 2045), (2070, 2073), (2075, 2083),
   (2085, 2087), (2089, 2093), (2137, 2139), (2200, 2207), (2250, 2307), (2362, 2364), (2366, 2383),
   (2385, 2391), (2402, 2403), (2433, 2435), (2492, 2492), (2494, 2509), (2519, 2519), (2530, 2531),
   (2558, 2563), (2620, 2641), (2672, 2673), (2677, 2677), (2689, 2691), (2748, 2748), (2750, 2765),
   (2786, 2787), (2810, 2819), (2876, 2876), (2878, 2903), (2914, 2915), (2946, 2946), (3006, 3021),
   (3031, 3031), (3072, 3076), (3132, 3132), (3134, 3158), (3170, 3171), (3201, 3203), (3260, 3260),
   (3262, 3286), (3298, 3299), (3328, 3331), (3387, 3388), (3390, 3405), (3415, 3415), (3426, 3427),
   (3457, 3459), (3530, 3551), (3570, 3571), (3633, 3633), (3636, 3642), (3655, 3662), (3761, 3761),
   (3764, 3772), (3784, 3789), (3864, 3865), (3893, 3893), (3895, 3895), (3897, 3897), (3902, 3903),
   (3953, 3972), (3974, 3975), (3981, 4028), (4038, 4038), (4139, 4158), (4182, 4185), (4190, 4192),
   (4194, 4196), (4199, 4205), (4209, 4212), (4226, 4237), (4239, 4239), (4250, 4253), (4957, 4959),
   (5906, 5909), (5938, 5940), (5970, 5971), (6002, 6003), (6070, 6099), (6109, 6109), (6277, 6278),
   (6313, 6313), (6432, 6459), (6679, 6683), (6741, 6783), (6832, 6916), (6964, 6980), (7019, 7027),
   (7040, 7042), (7073, 7085), (7142, 7155), (7204, 7223), (7376, 7378), (7380, 7400), (7405, 7405),
   (7412, 7412), (7415, 7417), (7616, 7679), (8400, 8432), (11503, 11505), (11647, 11647),
   (11744, 11775), (12330, 12335), (12441, 12442), (42607, 42610), (42612, 42621), (42654, 42655),
   (42736, 42737), (43010, 43010), (43014, 43014), (43019, 43019), (43043, 43047), (43052, 43052),
   (43136, 43137), (43188, 43205), (43232, 43249), (43263, 43263), (43302, 43309), (43335, 43347),
   (43392, 43395), (43443, 43456), (43493, 43493), (43561, 43574), (43587, 43587), (43596, 43597),
   (43643, 43645), (43696, 43696), (43698, 43700), (43703, 43704), (43710, 43711), (43713, 43713),
   (43755, 43759), (43765, 43766), (44003, 44010), (44012, 44013), (64286, 64286), (65056, 65071),
   (66045, 66045), (66272, 66272), (66422, 66426), (68097, 68111), (68152, 68159), (68325, 68326),
   (68900, 68903), (69291, 69292), (69446, 69456), (69506, 69509), (69632, 69634), (69688, 69702),
   (69744, 69744), (69747, 69748), (69759, 69762), (69808, 69818), (69826, 69826), (69888, 69890),
   (69927, 69940), (69957, 69958), (70003, 70003), (70016, 70018), (70067, 70080), (70089, 70092),
   (70094, 70095), (70188, 70199), (70206, 70206), (70367, 70378), (70400, 70403), (70459, 70460),
   (70462, 70477), (70487, 70487), (70498, 70516), (70709, 70726), (70750, 70750), (70832, 70851),
   (71087, 71104), (71132, 71133), (71216, 71232), (71339, 71351), (71453, 71467), (71724, 71738),
   (71984, 71998), (72000, 72000), (72002, 72003), (72145, 72160), (72164, 72164), (72193, 72202),
   (72243, 72249), (72251, 72254), (72263, 72263), (72273, 72283), (72330, 72345), (72751, 72767),
   (72850, 72886), (73009, 73029), (73031, 73031), (73098, 73111), (73459, 73462), (92912, 92916),
   (92976, 92982), (94031, 94031), (94033, 94098), (94180, 94193), (113821, 113822),
   (118528, 118598), (119141, 119145), (119149, 119170), (119173, 119179), (119210, 119213),
   (119362, 119364), (121344, 121398), (121403, 121452), (121461, 121461), (121476, 121476),
   (121499, 121519), (122880, 122922), (123184, 123190), (123566, 123566), (123628, 123631),
   (125136, 125142), (125252, 125258)]

def rightToLeftLetters : List (Nat × Nat) :=
  [(1470, 1524), (1544, 1544), (1547, 1547), (1549, 1549), (1563, 1610), (1645, 1749), (1765, 1766),
   (1774, 1775), (1786, 2037), (2042, 2249), (64285, 64829), (64848, 64967), (65008, 65020),
   (65137, 65276), (67584, 67867), (67872, 68405), (68416, 68899), (69248, 69622), (124928, 126651)]

def arabicNumbers : List (Nat × Nat) :=
  [(1632, 1641), (1643, 1644), (68912, 69246)]

def europeanNumbers : List (Nat × Nat) :=
  [(178, 179), (185, 185), (1776, 1785), (8304, 8304), (8308, 8313), (8320, 8329), (65296, 65305),
   (66273, 66299), (120782, 120831), (130032, 130041)]

def neutrals : List (Nat × Nat) :=
  [(161, 169), (171, 177), (182, 183), (187, 191), (215, 215), (247, 247), (697, 698), (706, 719),
   (722, 735), (741, 749), (751, 767), (884, 885), (903, 903), (1014, 1014), (1418, 1423),
   (1542, 1543), (1545, 1546), (1548, 1548), (1550, 1551), (1642, 1642), (1758, 1758), (1769, 1769),
   (2038, 2041), (2546, 2547), (2555, 2555), (2801, 2801), (3059, 3066), (3192, 3198), (3647, 3647),
   (3898, 3901), (5008, 5017), (5120, 5120), (5787, 5788), (6107, 6107), (6128, 6154), (6464, 6469),
   (6622, 6655), (8204, 8286), (8315, 8315), (8331, 8331), (8352, 8384), (8451, 8452), (8456, 8457),
   (8468, 8468), (8470, 8472), (8478, 8483), (8485, 8485), (8487, 8487), (8489, 8489), (8494, 8494),
   (8506, 8507), (8512, 8516), (8522, 8525), (8528, 8543), (8585, 9013), (9083, 9108), (9110, 9331),
   (9450, 9899), (9901, 10239), (10496, 11263), (11493, 11498), (11513, 11519), (11776, 12292),
   (12296, 12320), (12336, 12336), (12342, 12343), (12349, 12351), (12448, 12448), (12539, 12539),
   (12736, 12771), (12880, 12895), (12924, 12926), (12977, 12991), (13004, 13007), (13175, 13178),
   (13278, 13279), (13311, 13311), (19904, 19967), (42128, 42182), (42509, 42511), (42611, 42611),
   (42622, 42623), (42752, 42785), (42888, 42888), (43048, 43051), (43064, 43065), (43124, 43127),
   (43882, 43883), (64830, 64847), (64975, 64975), (65021, 65048), (65073, 65118), (65375, 65381),
   (65504, 65518), (65793, 65793), (65856, 65932), (65936, 65952), (67871, 67871), (68409, 68415),
   (69714, 69733), (71264, 71276), (73685, 73713), (94178, 94178), (119273, 119361),
   (119365, 119365), (119552, 119638), (120539, 120539), (120597, 120597), (120655, 120655),
   (120713, 120713), (120771, 120771), (123647, 123647), (126704, 127247), (127279, 127279),
   (127338, 127343), (127405, 127405), (127584, 129994)]

def viramas : List (Nat × Nat) :=
  [(2381, 2381), (2509, 2509), (2637, 2637), (2765, 2765), (2893, 2893), (3021, 3021), (3149, 3149),
   (3277, 3277), (3387, 3388), (3405, 3405), (3530, 3530), (3642, 3642), (3770, 3770), (3972, 3972),
   (4153, 4154), (5908, 5909), (5940, 5940), (6098, 6098), (6752, 6752), (6980, 6980), (7082, 7083),
   (7154, 7155), (11647, 11647), (43014, 43014), (43052, 43052), (43204, 43204), (43347, 43347),
   (43456, 43456), (43766, 43766), (44013, 44013), (68159, 68159), (69702, 69702), (69744, 69744),
   (69759, 69759), (69817, 69817), (69939, 69940), (70080, 70080), (70197, 70197), (70378, 70378),
   (70477, 70477), (70722, 70722), (70850, 70850), (71103, 71103), (71231, 71231), (71350, 71350),
   (71467, 71467), (71737, 71737), (71997, 71998), (72160, 72160), (72244, 72244), (72263, 72263),
   (72345, 72345), (72767, 72767), (73028, 73029), (73111, 73111)]

def joiningNext : List (Nat × Nat) :=
  [(1568, 1568), (1574, 1574), (1576, 1576), (1578, 1582), (1587, 1599), (1601, 1607), (1609, 1610),
   (1646, 1647), (1656, 1671), (1690, 1727), (1729, 1730), (1740, 1740), (1742, 1742), (1744, 1745),
   (1786, 1788), (1791, 1791), (1810, 1812), (1818, 1821), (1823, 1831), (1833, 1833), (1835, 1835),
   (1837, 1838), (1870, 1880), (1884, 1898), (1901, 1904), (1906, 1906), (1909, 1911), (1914, 1919),
   (1994, 2026), (2113, 2117), (2120, 2120), (2122, 2131), (2133, 2133), (2144, 2144), (2146, 2149),
   (2152, 2152), (2182, 2182), (2185, 2189), (2208, 2217), (2223, 2224), (2227, 2232), (2234, 2248),
   (6151, 6151), (6176, 6264), (6279, 6314), (43072, 43122), (68288, 68292), (68301, 68301),
   (68307, 68316), (68318, 68320), (68331, 68334), (68480, 68480), (68482, 68482), (68486, 68488),
   (68490, 68491), (68493, 68493), (68496, 68496), (68525, 68526), (68864, 68897), (68899, 68899),
   (69424, 69426), (69428, 69444), (69457, 69459), (69488, 69491), (69494, 69505), (69552, 69552),
   (69554, 69555), (69560, 69560), (69563, 69564), (69566, 69567), (69569, 69569), (69572, 69572),
   (69578, 69579), (125184, 125251)]

def joiningPrevious : List (Nat × Nat) :=
  [(1568, 1568), (1570, 1599), (1601, 1610), (1646, 1651), (1653, 1747), (1749, 1749), (1774, 1775),
   (1786, 1788), (1791, 1791), (1808, 1919), (1994, 2026), (2112, 2136), (2144, 2144), (2146, 2149),
   (2151, 2178), (2182, 2182), (2185, 2220), (2222, 2248), (6151, 6151), (6176, 6264), (6279, 6314),
   (43072, 43121), (68288, 68293), (68295, 68295), (68297, 68298), (68302, 68310), (68312, 68321),
   (68324, 68335), (68480, 68497), (68521, 68526), (68865, 68899), (69424, 69444), (69457, 69460),
   (69488, 69505), (69552, 69552), (69554, 69558), (69560, 69567), (69569, 69572), (69577, 69578),
   (125184, 125251)]

end Roster.Email
