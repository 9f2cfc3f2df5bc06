import MathProg.Automaton.Action

/-!
# What stands on the stack in a state

All ways into a state spell the same symbols, as far down as the reductions made from there on can
reach. The table is in pages of 64 states, like the automaton's own.
-/

namespace MathProg.Automaton

/-- For each state, the symbols on top of the stack whenever the automaton is in it, the last one
first. -/
def trailPages : Array (Array (List Symbol)) := #[
  #[[], [], [], [118], [168], [116], [121], [122], [123], [127], [128], [120], [129], [130], [131],
    [132], [134], [119], [4], [42], [39], [37], [36], [35], [5], [33], [34], [28], [29], [30],
    [124], [9], [8], [7], [6], [2], [169, 118], [117], [138], [141], [119], [7], [6], [118, 168],
    [168, 168], [3, 4], [9, 42], [159, 39], [40], [159, 37], [32, 37], [151, 37], [154], [156],
    [51], [52], [72], [73], [77], [112], [111], [9], [49], [166]],
  #[[164], [161], [158], [80], [81], [82], [83], [84], [85], [86], [40], [167], [87], [88], [89],
    [90], [91], [92], [93], [94], [95], [96], [97], [98], [99], [100], [101], [102], [103], [104],
    [105], [106], [107], [108], [109], [110], [159, 36], [32, 36], [150, 36], [154], [155], [51],
    [52], [72], [73], [77], [159, 35], [32, 35], [150, 35], [3, 5], [124, 33], [124, 34], [124, 28],
    [31, 29], [31, 30], [32, 124], [111, 9], [159, 9], [124, 8], [124, 7], [124, 6], [3, 2],
    [169, 169], [9, 7]],
  #[[18, 7], [145, 7], [32], [9, 6], [169, 118, 168], [111, 9, 42], [135, 9, 42], [136, 9, 42],
    [159], [47], [43], [32, 159, 39], [133, 159, 39], [40, 159, 39], [129], [130], [131], [132],
    [160, 40], [9], [164], [150], [159], [32, 159, 37], [151, 159, 37], [151, 32, 37],
    [25, 151, 37], [38, 151, 37], [3, 151, 37], [174, 151, 37], [51, 151], [52, 151], [56, 151],
    [55, 151], [57, 151], [58, 151], [59, 151], [60, 151], [61, 151], [62, 151], [63, 151],
    [64, 151], [65, 151], [66, 151], [67, 151], [68, 151], [69, 151], [70, 151], [71, 151],
    [19, 151], [16, 151], [20, 151], [21, 151], [22, 151], [23, 151], [24, 151], [26, 151],
    [27, 151], [72, 151], [73, 151], [74, 151], [10], [151, 51], [151, 52]],
  #[[151, 72], [151, 73], [150, 77], [165, 9], [76, 9], [45], [150, 49], [76, 166], [159, 80],
    [159, 81], [159, 82], [159, 83], [159, 84], [159, 85], [159, 86], [162, 40], [41, 40], [163],
    [164], [150], [49, 167], [32, 159, 36], [150, 159, 36], [150, 32, 36], [3, 150, 36],
    [173, 150, 36], [51, 150], [52, 150], [56, 150], [55, 150], [57, 150], [58, 150], [59, 150],
    [60, 150], [61, 150], [62, 150], [63, 150], [64, 150], [65, 150], [66, 150], [67, 150],
    [68, 150], [69, 150], [70, 150], [71, 150], [19, 150], [16, 150], [20, 150], [21, 150],
    [22, 150], [23, 150], [24, 150], [25, 150], [26, 150], [27, 150], [72, 150], [73, 150],
    [74, 150], [10], [150, 51], [150, 52], [150, 72], [150, 73], [150, 77]],
  #[[32, 159, 35], [150, 159, 35], [150, 32, 35], [3, 150, 35], [32, 124, 33], [32, 124, 34],
    [32, 124, 28], [124, 31, 29], [124, 31, 30], [152, 32, 124], [154], [157], [51], [52], [77],
    [159, 111, 9], [3, 124, 8], [172, 124, 8], [125], [10], [126], [11], [12], [13], [14], [15],
    [16], [17], [18], [19], [20], [21], [22], [23], [24], [25], [26], [27], [3, 124, 7],
    [171, 124, 7], [125], [3, 124, 6], [170, 124, 6], [125], [18, 9, 7], [183, 9, 7], [10], [142],
    [17], [45], [146], [143], [144], [32], [54], [149], [112], [111], [113], [149, 18, 7],
    [3, 145, 7], [9, 32], [147, 9, 6], [181, 9, 6]],
  #[[10], [139], [17], [49], [146], [140], [144], [45], [135, 111, 9, 42], [136, 111, 9, 42],
    [3, 135, 9, 42], [3, 136, 9, 42], [47, 159], [179, 47], [153], [154], [155], [51], [52],
    [176, 43], [153], [133, 32, 159, 39], [40, 32, 159, 39], [175, 40, 159, 39], [133],
    [32, 160, 40], [41, 160, 40], [189, 160, 40], [10], [19, 9], [19, 164], [151, 32, 159, 37],
    [25, 151, 159, 37], [38, 151, 159, 37], [3, 151, 159, 37], [174, 151, 159, 37],
    [25, 151, 32, 37], [38, 151, 32, 37], [3, 151, 32, 37], [174, 151, 32, 37], [150, 25, 151, 37],
    [150, 38, 151, 37], [25, 174, 151, 37], [38, 174, 151, 37], [3, 174, 151, 37], [174, 174],
    [151, 51, 151], [151, 52, 151], [151, 56, 151], [151, 55, 151], [151, 57, 151], [151, 58, 151],
    [151, 59, 151], [151, 60, 151], [151, 61, 151], [151, 62, 151], [151, 63, 151], [151, 64, 151],
    [151, 65, 151], [151, 66, 151], [151, 67, 151], [151, 68, 151], [151, 69, 151], [151, 70, 151]],
  #[[151, 71, 151], [151, 19, 151], [151, 16, 151], [151, 20, 151], [151, 21, 151], [151, 22, 151],
    [151, 23, 151], [151, 24, 151], [151, 26, 151], [151, 27, 151], [19, 72, 151], [16, 72, 151],
    [19, 73, 151], [16, 73, 151], [151, 74, 151], [151, 10], [78, 150, 77], [76, 165, 9], [150, 45],
    [50, 150, 49], [190, 150, 49], [10], [150, 159, 80], [150, 159, 81], [150, 159, 82],
    [150, 159, 83], [150, 159, 84], [150, 159, 85], [150, 159, 86], [41, 162, 40], [10, 162],
    [150, 49, 167], [50, 49, 167], [150, 32, 159, 36], [3, 150, 159, 36], [173, 150, 159, 36],
    [3, 150, 32, 36], [173, 150, 32, 36], [3, 173, 150, 36], [173, 173], [150, 51, 150],
    [150, 52, 150], [150, 56, 150], [150, 55, 150], [150, 57, 150], [150, 58, 150], [150, 59, 150],
    [150, 60, 150], [150, 61, 150], [150, 62, 150], [150, 63, 150], [150, 64, 150], [150, 65, 150],
    [150, 66, 150], [150, 67, 150], [150, 68, 150], [150, 69, 150], [150, 70, 150], [150, 71, 150],
    [150, 19, 150], [150, 16, 150], [150, 20, 150], [150, 21, 150], [150, 22, 150]],
  #[[150, 23, 150], [150, 24, 150], [150, 25, 150], [150, 26, 150], [150, 27, 150], [19, 72, 150],
    [16, 72, 150], [19, 73, 150], [16, 73, 150], [150, 74, 150], [150, 10], [78, 150, 77],
    [150, 32, 159, 35], [3, 150, 159, 35], [3, 150, 32, 35], [152, 32, 124, 33], [152, 32, 124, 34],
    [152, 32, 124, 28], [32, 124, 31, 29], [32, 124, 31, 30], [10, 152, 32, 124],
    [22, 152, 32, 124], [21, 152, 32, 124], [24, 152, 32, 124], [51, 152], [52, 152], [56, 152],
    [55, 152], [57, 152], [58, 152], [59, 152], [60, 152], [61, 152], [152, 51], [152, 52],
    [150, 77], [3, 172, 124, 8], [172, 172], [126, 10], [112, 11], [150, 16], [150, 17], [150, 18],
    [150, 19], [150, 20], [150, 21], [150, 22], [150, 23], [150, 24], [150, 25], [150, 26],
    [150, 27], [3, 171, 124, 7], [171, 171], [3, 170, 124, 6], [170, 170], [149, 18, 9, 7],
    [3, 183, 9, 7], [183, 183], [142, 10], [148, 45], [149], [55], [10, 146]],
  #[[149, 146], [184, 144], [149], [32, 54], [145, 149, 18, 7], [32, 9, 32], [17, 9, 32],
    [186, 9, 32], [10], [149], [181, 147, 9, 6], [3, 181, 9, 6], [181, 181], [139, 10], [148, 49],
    [182, 144], [17], [51], [52], [149], [149, 45], [3, 135, 111, 9, 42], [3, 136, 111, 9, 42],
    [179, 47, 159], [32, 179, 47], [179, 179], [51, 153], [52, 153], [56, 153], [55, 153],
    [57, 153], [58, 153], [59, 153], [60, 153], [61, 153], [62, 153], [153, 51], [153, 52],
    [32, 176, 43], [176, 176], [175, 40, 32, 159, 39], [41, 175, 40, 159, 39], [175, 175],
    [150, 32, 160, 40], [32, 189, 160, 40], [41, 189, 160, 40], [189, 189], [160, 10], [150, 19, 9],
    [150, 19, 164], [25, 151, 32, 159, 37], [38, 151, 32, 159, 37], [3, 151, 32, 159, 37],
    [174, 151, 32, 159, 37], [150, 25, 151, 159, 37], [150, 38, 151, 159, 37],
    [25, 174, 151, 159, 37], [38, 174, 151, 159, 37], [3, 174, 151, 159, 37],
    [150, 25, 151, 32, 37], [150, 38, 151, 32, 37], [25, 174, 151, 32, 37], [38, 174, 151, 32, 37],
    [3, 174, 151, 32, 37]],
  #[[3, 150, 25, 151, 37], [3, 150, 38, 151, 37], [150, 25, 174, 151, 37], [150, 38, 174, 151, 37],
    [151, 19, 72, 151], [151, 16, 72, 151], [151, 19, 73, 151], [151, 16, 73, 151],
    [75, 151, 74, 151], [151, 78, 150, 77], [46, 150, 45], [191, 150, 45], [10], [76, 50, 150, 49],
    [50, 190, 150, 49], [190, 190], [150, 10], [163, 10, 162], [164], [150], [50, 150, 49, 167],
    [192, 150, 49, 167], [10], [3, 150, 32, 159, 36], [173, 150, 32, 159, 36],
    [3, 173, 150, 159, 36], [3, 173, 150, 32, 36], [150, 19, 72, 150], [150, 16, 72, 150],
    [150, 19, 73, 150], [150, 16, 73, 150], [75, 150, 74, 150], [150, 78, 150, 77],
    [3, 150, 32, 159, 35], [3, 152, 32, 124, 33], [3, 152, 32, 124, 34], [10, 152, 32, 124, 28],
    [22, 152, 32, 124, 28], [21, 152, 32, 124, 28], [24, 152, 32, 124, 28], [152, 32, 124, 31, 29],
    [152, 32, 124, 31, 30], [22, 10, 152, 32, 124], [21, 10, 152, 32, 124], [24, 10, 152, 32, 124],
    [152, 22, 152, 32, 124], [152, 21, 152, 32, 124], [152, 24, 152, 32, 124], [152, 51, 152],
    [152, 52, 152], [152, 56, 152], [152, 55, 152], [152, 57, 152], [152, 58, 152], [152, 59, 152],
    [152, 60, 152], [152, 61, 152], [78, 150, 77], [183, 149, 18, 9, 7], [46, 148, 45], [188, 149],
    [10], [188, 55], [149, 10, 146]],
  #[[17, 184, 144], [184, 184], [3, 145, 149, 18, 7], [9, 32, 9, 32], [146, 17, 9, 32],
    [17, 186, 9, 32], [186, 186], [149, 10], [3, 181, 147, 9, 6], [50, 148, 49], [182, 182],
    [46, 149, 45], [187, 149, 45], [10], [32, 179, 47, 159], [150, 32, 179, 47], [153, 51, 153],
    [153, 52, 153], [153, 56, 153], [153, 55, 153], [153, 57, 153], [153, 58, 153], [153, 59, 153],
    [153, 60, 153], [153, 61, 153], [153, 62, 153], [9, 32, 176, 43], [45, 32, 176, 43],
    [41, 175, 40, 32, 159, 39], [41, 150, 32, 160, 40], [150, 32, 189, 160, 40],
    [150, 25, 151, 32, 159, 37], [150, 38, 151, 32, 159, 37], [25, 174, 151, 32, 159, 37],
    [38, 174, 151, 32, 159, 37], [3, 174, 151, 32, 159, 37], [3, 150, 25, 151, 159, 37],
    [3, 150, 38, 151, 159, 37], [150, 25, 174, 151, 159, 37], [150, 38, 174, 151, 159, 37],
    [3, 150, 25, 151, 32, 37], [3, 150, 38, 151, 32, 37], [150, 25, 174, 151, 32, 37],
    [150, 38, 174, 151, 32, 37], [3, 150, 25, 174, 151, 37], [3, 150, 38, 174, 151, 37],
    [151, 75, 151, 74, 151], [79, 151, 78, 150, 77], [46, 191, 150, 45], [191, 191], [150, 10],
    [50, 192, 150, 49, 167], [192, 192], [150, 10], [3, 173, 150, 32, 159, 36],
    [150, 75, 150, 74, 150], [79, 150, 78, 150, 77], [22, 10, 152, 32, 124, 28],
    [21, 10, 152, 32, 124, 28], [24, 10, 152, 32, 124, 28], [152, 22, 152, 32, 124, 28],
    [152, 21, 152, 32, 124, 28], [152, 24, 152, 32, 124, 28], [10, 152, 32, 124, 31, 29]],
  #[[22, 152, 32, 124, 31, 29], [21, 152, 32, 124, 31, 29], [24, 152, 32, 124, 31, 29],
    [10, 152, 32, 124, 31, 30], [22, 152, 32, 124, 31, 30], [21, 152, 32, 124, 31, 30],
    [24, 152, 32, 124, 31, 30], [152, 22, 10, 152, 32, 124], [152, 21, 10, 152, 32, 124],
    [152, 24, 10, 152, 32, 124], [10, 152, 22, 152, 32, 124], [21, 152, 22, 152, 32, 124],
    [24, 152, 22, 152, 32, 124], [3, 152, 22, 152, 32, 124], [10, 152, 21, 152, 32, 124],
    [21, 152, 21, 152, 32, 124], [24, 152, 21, 152, 32, 124], [3, 152, 21, 152, 32, 124],
    [10, 152, 24, 152, 32, 124], [21, 152, 24, 152, 32, 124], [24, 152, 24, 152, 32, 124],
    [3, 152, 24, 152, 32, 124], [152, 78, 150, 77], [3, 183, 149, 18, 9, 7], [188, 188], [149, 10],
    [55, 10], [185, 17, 184, 144], [149], [53], [17, 9, 32, 9, 32], [186, 9, 32, 9, 32],
    [146, 17, 186, 9, 32], [46, 187, 149, 45], [187, 187], [149, 10], [150, 32, 179, 47, 159],
    [48, 150, 32, 179, 47], [180, 150, 32, 179, 47], [10], [44, 9, 32, 176, 43],
    [9, 45, 32, 176, 43], [41, 150, 32, 189, 160, 40], [3, 150, 25, 151, 32, 159, 37],
    [3, 150, 38, 151, 32, 159, 37], [150, 25, 174, 151, 32, 159, 37],
    [150, 38, 174, 151, 32, 159, 37], [3, 150, 25, 174, 151, 159, 37],
    [3, 150, 38, 174, 151, 159, 37], [3, 150, 25, 174, 151, 32, 37], [3, 150, 38, 174, 151, 32, 37],
    [151, 79, 151, 78, 150, 77], [150, 79, 150, 78, 150, 77], [152, 22, 10, 152, 32, 124, 28],
    [152, 21, 10, 152, 32, 124, 28], [152, 24, 10, 152, 32, 124, 28],
    [10, 152, 22, 152, 32, 124, 28], [21, 152, 22, 152, 32, 124, 28],
    [24, 152, 22, 152, 32, 124, 28], [3, 152, 22, 152, 32, 124, 28],
    [10, 152, 21, 152, 32, 124, 28], [21, 152, 21, 152, 32, 124, 28],
    [24, 152, 21, 152, 32, 124, 28], [3, 152, 21, 152, 32, 124, 28]],
  #[[10, 152, 24, 152, 32, 124, 28], [21, 152, 24, 152, 32, 124, 28],
    [24, 152, 24, 152, 32, 124, 28], [3, 152, 24, 152, 32, 124, 28], [22, 10, 152, 32, 124, 31, 29],
    [21, 10, 152, 32, 124, 31, 29], [24, 10, 152, 32, 124, 31, 29], [152, 22, 152, 32, 124, 31, 29],
    [152, 21, 152, 32, 124, 31, 29], [152, 24, 152, 32, 124, 31, 29],
    [22, 10, 152, 32, 124, 31, 30], [21, 10, 152, 32, 124, 31, 30], [24, 10, 152, 32, 124, 31, 30],
    [152, 22, 152, 32, 124, 31, 30], [152, 21, 152, 32, 124, 31, 30],
    [152, 24, 152, 32, 124, 31, 30], [10, 152, 22, 10, 152, 32, 124],
    [21, 152, 22, 10, 152, 32, 124], [24, 152, 22, 10, 152, 32, 124],
    [3, 152, 22, 10, 152, 32, 124], [10, 152, 21, 10, 152, 32, 124],
    [21, 152, 21, 10, 152, 32, 124], [24, 152, 21, 10, 152, 32, 124],
    [3, 152, 21, 10, 152, 32, 124], [10, 152, 24, 10, 152, 32, 124],
    [21, 152, 24, 10, 152, 32, 124], [24, 152, 24, 10, 152, 32, 124],
    [3, 152, 24, 10, 152, 32, 124], [21, 10, 152, 22, 152, 32, 124],
    [24, 10, 152, 22, 152, 32, 124], [152, 21, 152, 22, 152, 32, 124],
    [152, 24, 152, 22, 152, 32, 124], [21, 10, 152, 21, 152, 32, 124],
    [24, 10, 152, 21, 152, 32, 124], [152, 21, 152, 21, 152, 32, 124],
    [152, 24, 152, 21, 152, 32, 124], [21, 10, 152, 24, 152, 32, 124],
    [24, 10, 152, 24, 152, 32, 124], [152, 21, 152, 24, 152, 32, 124],
    [152, 24, 152, 24, 152, 32, 124], [79, 152, 78, 150, 77], [185, 185], [146, 17, 9, 32, 9, 32],
    [17, 186, 9, 32, 9, 32], [48, 150, 32, 179, 47, 159], [180, 150, 32, 179, 47, 159],
    [9, 48, 150, 32, 179, 47], [180, 180], [150, 10], [45, 44, 9, 32, 176, 43],
    [46, 9, 45, 32, 176, 43], [177, 9, 45, 32, 176, 43], [10], [3, 150, 25, 174, 151, 32, 159, 37],
    [3, 150, 38, 174, 151, 32, 159, 37], [10, 152, 22, 10, 152, 32, 124, 28],
    [21, 152, 22, 10, 152, 32, 124, 28], [24, 152, 22, 10, 152, 32, 124, 28],
    [3, 152, 22, 10, 152, 32, 124, 28], [10, 152, 21, 10, 152, 32, 124, 28],
    [21, 152, 21, 10, 152, 32, 124, 28], [24, 152, 21, 10, 152, 32, 124, 28],
    [3, 152, 21, 10, 152, 32, 124, 28], [10, 152, 24, 10, 152, 32, 124, 28]],
  #[[21, 152, 24, 10, 152, 32, 124, 28], [24, 152, 24, 10, 152, 32, 124, 28],
    [3, 152, 24, 10, 152, 32, 124, 28], [21, 10, 152, 22, 152, 32, 124, 28],
    [24, 10, 152, 22, 152, 32, 124, 28], [152, 21, 152, 22, 152, 32, 124, 28],
    [152, 24, 152, 22, 152, 32, 124, 28], [21, 10, 152, 21, 152, 32, 124, 28],
    [24, 10, 152, 21, 152, 32, 124, 28], [152, 21, 152, 21, 152, 32, 124, 28],
    [152, 24, 152, 21, 152, 32, 124, 28], [21, 10, 152, 24, 152, 32, 124, 28],
    [24, 10, 152, 24, 152, 32, 124, 28], [152, 21, 152, 24, 152, 32, 124, 28],
    [152, 24, 152, 24, 152, 32, 124, 28], [152, 22, 10, 152, 32, 124, 31, 29],
    [152, 21, 10, 152, 32, 124, 31, 29], [152, 24, 10, 152, 32, 124, 31, 29],
    [10, 152, 22, 152, 32, 124, 31, 29], [21, 152, 22, 152, 32, 124, 31, 29],
    [24, 152, 22, 152, 32, 124, 31, 29], [3, 152, 22, 152, 32, 124, 31, 29],
    [10, 152, 21, 152, 32, 124, 31, 29], [21, 152, 21, 152, 32, 124, 31, 29],
    [24, 152, 21, 152, 32, 124, 31, 29], [3, 152, 21, 152, 32, 124, 31, 29],
    [10, 152, 24, 152, 32, 124, 31, 29], [21, 152, 24, 152, 32, 124, 31, 29],
    [24, 152, 24, 152, 32, 124, 31, 29], [3, 152, 24, 152, 32, 124, 31, 29],
    [152, 22, 10, 152, 32, 124, 31, 30], [152, 21, 10, 152, 32, 124, 31, 30],
    [152, 24, 10, 152, 32, 124, 31, 30], [10, 152, 22, 152, 32, 124, 31, 30],
    [21, 152, 22, 152, 32, 124, 31, 30], [24, 152, 22, 152, 32, 124, 31, 30],
    [3, 152, 22, 152, 32, 124, 31, 30], [10, 152, 21, 152, 32, 124, 31, 30],
    [21, 152, 21, 152, 32, 124, 31, 30], [24, 152, 21, 152, 32, 124, 31, 30],
    [3, 152, 21, 152, 32, 124, 31, 30], [10, 152, 24, 152, 32, 124, 31, 30],
    [21, 152, 24, 152, 32, 124, 31, 30], [24, 152, 24, 152, 32, 124, 31, 30],
    [3, 152, 24, 152, 32, 124, 31, 30], [21, 10, 152, 22, 10, 152, 32, 124],
    [24, 10, 152, 22, 10, 152, 32, 124], [152, 21, 152, 22, 10, 152, 32, 124],
    [152, 24, 152, 22, 10, 152, 32, 124], [21, 10, 152, 21, 10, 152, 32, 124],
    [24, 10, 152, 21, 10, 152, 32, 124], [152, 21, 152, 21, 10, 152, 32, 124],
    [152, 24, 152, 21, 10, 152, 32, 124], [21, 10, 152, 24, 10, 152, 32, 124],
    [24, 10, 152, 24, 10, 152, 32, 124], [152, 21, 152, 24, 10, 152, 32, 124],
    [152, 24, 152, 24, 10, 152, 32, 124], [152, 21, 10, 152, 22, 152, 32, 124],
    [152, 24, 10, 152, 22, 152, 32, 124], [3, 152, 21, 152, 22, 152, 32, 124],
    [3, 152, 24, 152, 22, 152, 32, 124], [152, 21, 10, 152, 21, 152, 32, 124],
    [152, 24, 10, 152, 21, 152, 32, 124], [3, 152, 21, 152, 21, 152, 32, 124]],
  #[[3, 152, 24, 152, 21, 152, 32, 124], [152, 21, 10, 152, 24, 152, 32, 124],
    [152, 24, 10, 152, 24, 152, 32, 124], [3, 152, 21, 152, 24, 152, 32, 124],
    [3, 152, 24, 152, 24, 152, 32, 124], [152, 79, 152, 78, 150, 77], [146, 17, 186, 9, 32, 9, 32],
    [9, 48, 150, 32, 179, 47, 159], [180, 9, 48, 150, 32, 179, 47], [48, 150, 10],
    [9, 45, 44, 9, 32, 176, 43], [178, 46, 9, 45, 32, 176, 43], [10], [46, 177, 9, 45, 32, 176, 43],
    [177, 177], [9, 10], [21, 10, 152, 22, 10, 152, 32, 124, 28],
    [24, 10, 152, 22, 10, 152, 32, 124, 28], [152, 21, 152, 22, 10, 152, 32, 124, 28],
    [152, 24, 152, 22, 10, 152, 32, 124, 28], [21, 10, 152, 21, 10, 152, 32, 124, 28],
    [24, 10, 152, 21, 10, 152, 32, 124, 28], [152, 21, 152, 21, 10, 152, 32, 124, 28],
    [152, 24, 152, 21, 10, 152, 32, 124, 28], [21, 10, 152, 24, 10, 152, 32, 124, 28],
    [24, 10, 152, 24, 10, 152, 32, 124, 28], [152, 21, 152, 24, 10, 152, 32, 124, 28],
    [152, 24, 152, 24, 10, 152, 32, 124, 28], [152, 21, 10, 152, 22, 152, 32, 124, 28],
    [152, 24, 10, 152, 22, 152, 32, 124, 28], [3, 152, 21, 152, 22, 152, 32, 124, 28],
    [3, 152, 24, 152, 22, 152, 32, 124, 28], [152, 21, 10, 152, 21, 152, 32, 124, 28],
    [152, 24, 10, 152, 21, 152, 32, 124, 28], [3, 152, 21, 152, 21, 152, 32, 124, 28],
    [3, 152, 24, 152, 21, 152, 32, 124, 28], [152, 21, 10, 152, 24, 152, 32, 124, 28],
    [152, 24, 10, 152, 24, 152, 32, 124, 28], [3, 152, 21, 152, 24, 152, 32, 124, 28],
    [3, 152, 24, 152, 24, 152, 32, 124, 28], [10, 152, 22, 10, 152, 32, 124, 31, 29],
    [21, 152, 22, 10, 152, 32, 124, 31, 29], [24, 152, 22, 10, 152, 32, 124, 31, 29],
    [3, 152, 22, 10, 152, 32, 124, 31, 29], [10, 152, 21, 10, 152, 32, 124, 31, 29],
    [21, 152, 21, 10, 152, 32, 124, 31, 29], [24, 152, 21, 10, 152, 32, 124, 31, 29],
    [3, 152, 21, 10, 152, 32, 124, 31, 29], [10, 152, 24, 10, 152, 32, 124, 31, 29],
    [21, 152, 24, 10, 152, 32, 124, 31, 29], [24, 152, 24, 10, 152, 32, 124, 31, 29],
    [3, 152, 24, 10, 152, 32, 124, 31, 29], [21, 10, 152, 22, 152, 32, 124, 31, 29],
    [24, 10, 152, 22, 152, 32, 124, 31, 29], [152, 21, 152, 22, 152, 32, 124, 31, 29],
    [152, 24, 152, 22, 152, 32, 124, 31, 29], [21, 10, 152, 21, 152, 32, 124, 31, 29],
    [24, 10, 152, 21, 152, 32, 124, 31, 29], [152, 21, 152, 21, 152, 32, 124, 31, 29],
    [152, 24, 152, 21, 152, 32, 124, 31, 29], [21, 10, 152, 24, 152, 32, 124, 31, 29],
    [24, 10, 152, 24, 152, 32, 124, 31, 29], [152, 21, 152, 24, 152, 32, 124, 31, 29],
    [152, 24, 152, 24, 152, 32, 124, 31, 29]],
  #[[10, 152, 22, 10, 152, 32, 124, 31, 30], [21, 152, 22, 10, 152, 32, 124, 31, 30],
    [24, 152, 22, 10, 152, 32, 124, 31, 30], [3, 152, 22, 10, 152, 32, 124, 31, 30],
    [10, 152, 21, 10, 152, 32, 124, 31, 30], [21, 152, 21, 10, 152, 32, 124, 31, 30],
    [24, 152, 21, 10, 152, 32, 124, 31, 30], [3, 152, 21, 10, 152, 32, 124, 31, 30],
    [10, 152, 24, 10, 152, 32, 124, 31, 30], [21, 152, 24, 10, 152, 32, 124, 31, 30],
    [24, 152, 24, 10, 152, 32, 124, 31, 30], [3, 152, 24, 10, 152, 32, 124, 31, 30],
    [21, 10, 152, 22, 152, 32, 124, 31, 30], [24, 10, 152, 22, 152, 32, 124, 31, 30],
    [152, 21, 152, 22, 152, 32, 124, 31, 30], [152, 24, 152, 22, 152, 32, 124, 31, 30],
    [21, 10, 152, 21, 152, 32, 124, 31, 30], [24, 10, 152, 21, 152, 32, 124, 31, 30],
    [152, 21, 152, 21, 152, 32, 124, 31, 30], [152, 24, 152, 21, 152, 32, 124, 31, 30],
    [21, 10, 152, 24, 152, 32, 124, 31, 30], [24, 10, 152, 24, 152, 32, 124, 31, 30],
    [152, 21, 152, 24, 152, 32, 124, 31, 30], [152, 24, 152, 24, 152, 32, 124, 31, 30],
    [152, 21, 10, 152, 22, 10, 152, 32, 124], [152, 24, 10, 152, 22, 10, 152, 32, 124],
    [3, 152, 21, 152, 22, 10, 152, 32, 124], [3, 152, 24, 152, 22, 10, 152, 32, 124],
    [152, 21, 10, 152, 21, 10, 152, 32, 124], [152, 24, 10, 152, 21, 10, 152, 32, 124],
    [3, 152, 21, 152, 21, 10, 152, 32, 124], [3, 152, 24, 152, 21, 10, 152, 32, 124],
    [152, 21, 10, 152, 24, 10, 152, 32, 124], [152, 24, 10, 152, 24, 10, 152, 32, 124],
    [3, 152, 21, 152, 24, 10, 152, 32, 124], [3, 152, 24, 152, 24, 10, 152, 32, 124],
    [3, 152, 21, 10, 152, 22, 152, 32, 124], [3, 152, 24, 10, 152, 22, 152, 32, 124],
    [3, 152, 21, 10, 152, 21, 152, 32, 124], [3, 152, 24, 10, 152, 21, 152, 32, 124],
    [3, 152, 21, 10, 152, 24, 152, 32, 124], [3, 152, 24, 10, 152, 24, 152, 32, 124],
    [180, 9, 48, 150, 32, 179, 47, 159], [9, 48, 150, 10], [46, 9, 45, 44, 9, 32, 176, 43],
    [177, 9, 45, 44, 9, 32, 176, 43], [178, 178], [137, 10], [9],
    [178, 46, 177, 9, 45, 32, 176, 43], [152, 21, 10, 152, 22, 10, 152, 32, 124, 28],
    [152, 24, 10, 152, 22, 10, 152, 32, 124, 28], [3, 152, 21, 152, 22, 10, 152, 32, 124, 28],
    [3, 152, 24, 152, 22, 10, 152, 32, 124, 28], [152, 21, 10, 152, 21, 10, 152, 32, 124, 28],
    [152, 24, 10, 152, 21, 10, 152, 32, 124, 28], [3, 152, 21, 152, 21, 10, 152, 32, 124, 28],
    [3, 152, 24, 152, 21, 10, 152, 32, 124, 28], [152, 21, 10, 152, 24, 10, 152, 32, 124, 28],
    [152, 24, 10, 152, 24, 10, 152, 32, 124, 28], [3, 152, 21, 152, 24, 10, 152, 32, 124, 28],
    [3, 152, 24, 152, 24, 10, 152, 32, 124, 28], [3, 152, 21, 10, 152, 22, 152, 32, 124, 28],
    [3, 152, 24, 10, 152, 22, 152, 32, 124, 28]],
  #[[3, 152, 21, 10, 152, 21, 152, 32, 124, 28], [3, 152, 24, 10, 152, 21, 152, 32, 124, 28],
    [3, 152, 21, 10, 152, 24, 152, 32, 124, 28], [3, 152, 24, 10, 152, 24, 152, 32, 124, 28],
    [21, 10, 152, 22, 10, 152, 32, 124, 31, 29], [24, 10, 152, 22, 10, 152, 32, 124, 31, 29],
    [152, 21, 152, 22, 10, 152, 32, 124, 31, 29], [152, 24, 152, 22, 10, 152, 32, 124, 31, 29],
    [21, 10, 152, 21, 10, 152, 32, 124, 31, 29], [24, 10, 152, 21, 10, 152, 32, 124, 31, 29],
    [152, 21, 152, 21, 10, 152, 32, 124, 31, 29], [152, 24, 152, 21, 10, 152, 32, 124, 31, 29],
    [21, 10, 152, 24, 10, 152, 32, 124, 31, 29], [24, 10, 152, 24, 10, 152, 32, 124, 31, 29],
    [152, 21, 152, 24, 10, 152, 32, 124, 31, 29], [152, 24, 152, 24, 10, 152, 32, 124, 31, 29],
    [152, 21, 10, 152, 22, 152, 32, 124, 31, 29], [152, 24, 10, 152, 22, 152, 32, 124, 31, 29],
    [3, 152, 21, 152, 22, 152, 32, 124, 31, 29], [3, 152, 24, 152, 22, 152, 32, 124, 31, 29],
    [152, 21, 10, 152, 21, 152, 32, 124, 31, 29], [152, 24, 10, 152, 21, 152, 32, 124, 31, 29],
    [3, 152, 21, 152, 21, 152, 32, 124, 31, 29], [3, 152, 24, 152, 21, 152, 32, 124, 31, 29],
    [152, 21, 10, 152, 24, 152, 32, 124, 31, 29], [152, 24, 10, 152, 24, 152, 32, 124, 31, 29],
    [3, 152, 21, 152, 24, 152, 32, 124, 31, 29], [3, 152, 24, 152, 24, 152, 32, 124, 31, 29],
    [21, 10, 152, 22, 10, 152, 32, 124, 31, 30], [24, 10, 152, 22, 10, 152, 32, 124, 31, 30],
    [152, 21, 152, 22, 10, 152, 32, 124, 31, 30], [152, 24, 152, 22, 10, 152, 32, 124, 31, 30],
    [21, 10, 152, 21, 10, 152, 32, 124, 31, 30], [24, 10, 152, 21, 10, 152, 32, 124, 31, 30],
    [152, 21, 152, 21, 10, 152, 32, 124, 31, 30], [152, 24, 152, 21, 10, 152, 32, 124, 31, 30],
    [21, 10, 152, 24, 10, 152, 32, 124, 31, 30], [24, 10, 152, 24, 10, 152, 32, 124, 31, 30],
    [152, 21, 152, 24, 10, 152, 32, 124, 31, 30], [152, 24, 152, 24, 10, 152, 32, 124, 31, 30],
    [152, 21, 10, 152, 22, 152, 32, 124, 31, 30], [152, 24, 10, 152, 22, 152, 32, 124, 31, 30],
    [3, 152, 21, 152, 22, 152, 32, 124, 31, 30], [3, 152, 24, 152, 22, 152, 32, 124, 31, 30],
    [152, 21, 10, 152, 21, 152, 32, 124, 31, 30], [152, 24, 10, 152, 21, 152, 32, 124, 31, 30],
    [3, 152, 21, 152, 21, 152, 32, 124, 31, 30], [3, 152, 24, 152, 21, 152, 32, 124, 31, 30],
    [152, 21, 10, 152, 24, 152, 32, 124, 31, 30], [152, 24, 10, 152, 24, 152, 32, 124, 31, 30],
    [3, 152, 21, 152, 24, 152, 32, 124, 31, 30], [3, 152, 24, 152, 24, 152, 32, 124, 31, 30],
    [3, 152, 21, 10, 152, 22, 10, 152, 32, 124], [3, 152, 24, 10, 152, 22, 10, 152, 32, 124],
    [3, 152, 21, 10, 152, 21, 10, 152, 32, 124], [3, 152, 24, 10, 152, 21, 10, 152, 32, 124],
    [3, 152, 21, 10, 152, 24, 10, 152, 32, 124], [3, 152, 24, 10, 152, 24, 10, 152, 32, 124],
    [178, 46, 9, 45, 44, 9, 32, 176, 43], [46, 177, 9, 45, 44, 9, 32, 176, 43], [48, 9],
    [3, 152, 21, 10, 152, 22, 10, 152, 32, 124, 28],
    [3, 152, 24, 10, 152, 22, 10, 152, 32, 124, 28],
    [3, 152, 21, 10, 152, 21, 10, 152, 32, 124, 28]],
  #[[3, 152, 24, 10, 152, 21, 10, 152, 32, 124, 28],
    [3, 152, 21, 10, 152, 24, 10, 152, 32, 124, 28],
    [3, 152, 24, 10, 152, 24, 10, 152, 32, 124, 28],
    [152, 21, 10, 152, 22, 10, 152, 32, 124, 31, 29],
    [152, 24, 10, 152, 22, 10, 152, 32, 124, 31, 29],
    [3, 152, 21, 152, 22, 10, 152, 32, 124, 31, 29],
    [3, 152, 24, 152, 22, 10, 152, 32, 124, 31, 29],
    [152, 21, 10, 152, 21, 10, 152, 32, 124, 31, 29],
    [152, 24, 10, 152, 21, 10, 152, 32, 124, 31, 29],
    [3, 152, 21, 152, 21, 10, 152, 32, 124, 31, 29],
    [3, 152, 24, 152, 21, 10, 152, 32, 124, 31, 29],
    [152, 21, 10, 152, 24, 10, 152, 32, 124, 31, 29],
    [152, 24, 10, 152, 24, 10, 152, 32, 124, 31, 29],
    [3, 152, 21, 152, 24, 10, 152, 32, 124, 31, 29],
    [3, 152, 24, 152, 24, 10, 152, 32, 124, 31, 29],
    [3, 152, 21, 10, 152, 22, 152, 32, 124, 31, 29],
    [3, 152, 24, 10, 152, 22, 152, 32, 124, 31, 29],
    [3, 152, 21, 10, 152, 21, 152, 32, 124, 31, 29],
    [3, 152, 24, 10, 152, 21, 152, 32, 124, 31, 29],
    [3, 152, 21, 10, 152, 24, 152, 32, 124, 31, 29],
    [3, 152, 24, 10, 152, 24, 152, 32, 124, 31, 29],
    [152, 21, 10, 152, 22, 10, 152, 32, 124, 31, 30],
    [152, 24, 10, 152, 22, 10, 152, 32, 124, 31, 30],
    [3, 152, 21, 152, 22, 10, 152, 32, 124, 31, 30],
    [3, 152, 24, 152, 22, 10, 152, 32, 124, 31, 30],
    [152, 21, 10, 152, 21, 10, 152, 32, 124, 31, 30],
    [152, 24, 10, 152, 21, 10, 152, 32, 124, 31, 30],
    [3, 152, 21, 152, 21, 10, 152, 32, 124, 31, 30],
    [3, 152, 24, 152, 21, 10, 152, 32, 124, 31, 30],
    [152, 21, 10, 152, 24, 10, 152, 32, 124, 31, 30],
    [152, 24, 10, 152, 24, 10, 152, 32, 124, 31, 30],
    [3, 152, 21, 152, 24, 10, 152, 32, 124, 31, 30],
    [3, 152, 24, 152, 24, 10, 152, 32, 124, 31, 30],
    [3, 152, 21, 10, 152, 22, 152, 32, 124, 31, 30],
    [3, 152, 24, 10, 152, 22, 152, 32, 124, 31, 30],
    [3, 152, 21, 10, 152, 21, 152, 32, 124, 31, 30],
    [3, 152, 24, 10, 152, 21, 152, 32, 124, 31, 30],
    [3, 152, 21, 10, 152, 24, 152, 32, 124, 31, 30],
    [3, 152, 24, 10, 152, 24, 152, 32, 124, 31, 30], [178, 46, 177, 9, 45, 44, 9, 32, 176, 43],
    [9, 48, 9], [3, 152, 21, 10, 152, 22, 10, 152, 32, 124, 31, 29],
    [3, 152, 24, 10, 152, 22, 10, 152, 32, 124, 31, 29],
    [3, 152, 21, 10, 152, 21, 10, 152, 32, 124, 31, 29],
    [3, 152, 24, 10, 152, 21, 10, 152, 32, 124, 31, 29],
    [3, 152, 21, 10, 152, 24, 10, 152, 32, 124, 31, 29],
    [3, 152, 24, 10, 152, 24, 10, 152, 32, 124, 31, 29],
    [3, 152, 21, 10, 152, 22, 10, 152, 32, 124, 31, 30],
    [3, 152, 24, 10, 152, 22, 10, 152, 32, 124, 31, 30],
    [3, 152, 21, 10, 152, 21, 10, 152, 32, 124, 31, 30],
    [3, 152, 24, 10, 152, 21, 10, 152, 32, 124, 31, 30],
    [3, 152, 21, 10, 152, 24, 10, 152, 32, 124, 31, 30],
    [3, 152, 24, 10, 152, 24, 10, 152, 32, 124, 31, 30]]]

def trail (s : State) : List Symbol := ((trailPages[s / 64]?).bind (·[s % 64]?)).getD []

end MathProg.Automaton
