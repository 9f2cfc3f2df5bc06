import MathProg.Automaton.Basic

/-!
The states of the automaton, in pages of 64. A state's row tells the symbol that leads into it, the
mode in which it reads the next token, its reductions (a rule and the tokens that call for it), and
the states that follow it.
-/

namespace MathProg.Automaton

/-- States 0 to 63. -/
def page0 : Array Row := #[
  ⟨0, 0, [], []⟩,
  ⟨0, 1, [(0, 0)], [35, 18, 24, 34, 33, 32, 31, 27, 28, 29, 25, 26, 23, 22, 21, 20, 19, 2, 5, 3,
    17, 11, 6, 7, 8, 30, 9, 10, 12, 13, 14, 15, 16, 4]⟩,
  ⟨115, 2, [], []⟩,
  ⟨118, 3, [(1, 0)], [18, 42, 41, 37, 40, 38, 39, 36]⟩,
  ⟨168, 1, [(1, 0)], [35, 18, 24, 34, 33, 32, 31, 27, 28, 29, 25, 26, 23, 22, 21, 20, 19, 5, 43,
    17, 11, 6, 7, 8, 30, 9, 10, 12, 13, 14, 15, 16, 44]⟩,
  ⟨116, 1, [(2, 1)], []⟩,
  ⟨121, 1, [(3, 1)], []⟩,
  ⟨122, 1, [(3, 1)], []⟩,
  ⟨123, 1, [(3, 1)], []⟩,
  ⟨127, 1, [(3, 1)], []⟩,
  ⟨128, 1, [(3, 1)], []⟩,
  ⟨120, 1, [(3, 1)], []⟩,
  ⟨129, 1, [(3, 1)], []⟩,
  ⟨130, 1, [(3, 1)], []⟩,
  ⟨131, 1, [(3, 1)], []⟩,
  ⟨132, 1, [(3, 1)], []⟩,
  ⟨134, 1, [(3, 1)], []⟩,
  ⟨119, 1, [(3, 1)], []⟩,
  ⟨4, 4, [], [45]⟩,
  ⟨42, 5, [], [46]⟩,
  ⟨39, 6, [], [48, 47]⟩,
  ⟨37, 7, [], [61, 50, 74, 62, 54, 55, 56, 57, 58, 67, 68, 69, 70, 71, 72, 73, 76, 77, 78, 79, 80,
    81, 82, 83, 84, 85, 86, 87, 88, 89, 90, 91, 92, 93, 94, 95, 96, 97, 98, 99, 60, 59, 51, 52,
    53, 66, 49, 65, 64, 63, 75]⟩,
  ⟨36, 7, [], [61, 101, 74, 62, 105, 106, 107, 108, 109, 67, 68, 69, 70, 71, 72, 73, 76, 77, 78,
    79, 80, 81, 82, 83, 84, 85, 86, 87, 88, 89, 90, 91, 92, 93, 94, 95, 96, 97, 98, 99, 60, 59,
    102, 103, 104, 66, 100, 65, 64, 63, 75]⟩,
  ⟨35, 7, [], [61, 111, 74, 62, 105, 106, 107, 108, 109, 67, 68, 69, 70, 71, 72, 73, 76, 77, 78,
    79, 80, 81, 82, 83, 84, 85, 86, 87, 88, 89, 90, 91, 92, 93, 94, 95, 96, 97, 98, 99, 60, 59,
    112, 103, 104, 66, 110, 65, 64, 63, 75]⟩,
  ⟨5, 4, [], [113]⟩,
  ⟨33, 5, [], [31, 114]⟩,
  ⟨34, 5, [], [31, 115]⟩,
  ⟨28, 5, [], [31, 116]⟩,
  ⟨29, 8, [], [117]⟩,
  ⟨30, 8, [], [118]⟩,
  ⟨124, 9, [], [119]⟩,
  ⟨9, 10, [(4, 2)], [48, 120, 121]⟩,
  ⟨8, 5, [], [31, 122]⟩,
  ⟨7, 5, [], [31, 123]⟩,
  ⟨6, 5, [], [31, 124]⟩,
  ⟨2, 4, [], [125]⟩,
  ⟨169, 3, [(5, 0)], [18, 42, 41, 37, 40, 38, 39, 126]⟩,
  ⟨117, 3, [(6, 3)], []⟩,
  ⟨138, 3, [(7, 3)], []⟩,
  ⟨141, 3, [(7, 3)], []⟩,
  ⟨119, 3, [(7, 3)], []⟩,
  ⟨7, 11, [], [127, 128, 130, 129]⟩,
  ⟨6, 5, [], [131]⟩,
  ⟨118, 3, [(5, 0)], [18, 42, 41, 37, 40, 38, 39, 132]⟩,
  ⟨168, 1, [(8, 1)], [18, 24, 34, 33, 32, 31, 27, 28, 29, 25, 26, 23, 22, 21, 20, 19, 5, 17, 11,
    6, 7, 8, 30, 9, 10, 12, 13, 14, 15, 16, 44]⟩,
  ⟨3, 1, [(9, 1)], []⟩,
  ⟨9, 12, [], [48, 138, 137, 133, 134, 135, 136]⟩,
  ⟨159, 13, [], [139, 23, 22, 21, 20, 141, 142, 143, 144, 145, 140]⟩,
  ⟨40, 14, [], [147, 74, 62, 105, 106, 107, 108, 109, 67, 68, 69, 70, 71, 72, 73, 76, 77, 78, 79,
    80, 81, 82, 83, 84, 85, 86, 87, 88, 89, 90, 91, 92, 93, 94, 95, 96, 97, 98, 99, 60, 59, 149,
    103, 104, 66, 150, 146, 65, 148, 63, 75]⟩,
  ⟨159, 15, [(10, 4)], [61, 151, 74, 62, 54, 55, 56, 57, 58, 67, 68, 69, 70, 71, 72, 73, 76, 77,
    78, 79, 80, 81, 82, 83, 84, 85, 86, 87, 88, 89, 90, 91, 92, 93, 94, 95, 96, 97, 98, 99, 60,
    59, 152, 52, 53, 66, 150, 65, 64, 63, 75]⟩,
  ⟨32, 14, [], [61, 74, 62, 54, 55, 56, 57, 58, 67, 68, 69, 70, 71, 72, 73, 76, 77, 78, 79, 80,
    81, 82, 83, 84, 85, 86, 87, 88, 89, 90, 91, 92, 93, 94, 95, 96, 97, 98, 99, 60, 59, 153, 52,
    53, 66, 150, 65, 64, 63, 75]⟩,
  ⟨151, 16, [], [156, 189, 178, 177, 179, 180, 181, 182, 183, 154, 184, 185, 155, 158, 159, 161,
    160, 162, 163, 164, 165, 166, 167, 168, 169, 170, 171, 172, 173, 174, 175, 176, 186, 187, 188,
    157]⟩,
  ⟨154, 17, [(11, 5)], []⟩,
  ⟨156, 17, [(12, 5)], []⟩,
  ⟨51, 14, [], [61, 74, 62, 54, 55, 56, 57, 58, 67, 68, 69, 70, 71, 72, 73, 76, 77, 78, 79, 80,
    81, 82, 83, 84, 85, 86, 87, 88, 89, 90, 91, 92, 93, 94, 95, 96, 97, 98, 99, 60, 59, 190, 52,
    53, 66, 150, 65, 64, 63, 75]⟩,
  ⟨52, 14, [], [61, 74, 62, 54, 55, 56, 57, 58, 67, 68, 69, 70, 71, 72, 73, 76, 77, 78, 79, 80,
    81, 82, 83, 84, 85, 86, 87, 88, 89, 90, 91, 92, 93, 94, 95, 96, 97, 98, 99, 60, 59, 191, 52,
    53, 66, 150, 65, 64, 63, 75]⟩,
  ⟨72, 14, [], [61, 74, 62, 54, 55, 56, 57, 58, 67, 68, 69, 70, 71, 72, 73, 76, 77, 78, 79, 80,
    81, 82, 83, 84, 85, 86, 87, 88, 89, 90, 91, 92, 93, 94, 95, 96, 97, 98, 99, 60, 59, 192, 52,
    53, 66, 150, 65, 64, 63, 75]⟩,
  ⟨73, 14, [], [61, 74, 62, 54, 55, 56, 57, 58, 67, 68, 69, 70, 71, 72, 73, 76, 77, 78, 79, 80,
    81, 82, 83, 84, 85, 86, 87, 88, 89, 90, 91, 92, 93, 94, 95, 96, 97, 98, 99, 60, 59, 193, 52,
    53, 66, 150, 65, 64, 63, 75]⟩,
  ⟨77, 14, [], [61, 74, 62, 105, 106, 107, 108, 109, 67, 68, 69, 70, 71, 72, 73, 76, 77, 78, 79,
    80, 81, 82, 83, 84, 85, 86, 87, 88, 89, 90, 91, 92, 93, 94, 95, 96, 97, 98, 99, 60, 59, 194,
    103, 104, 66, 150, 65, 64, 63, 75]⟩,
  ⟨112, 18, [(10, 6)], []⟩,
  ⟨111, 18, [(10, 6)], []⟩,
  ⟨9, 19, [(10, 6)], [197, 196, 195]⟩,
  ⟨49, 14, [], [61, 74, 62, 105, 106, 107, 108, 109, 67, 68, 69, 70, 71, 72, 73, 76, 77, 78, 79,
    80, 81, 82, 83, 84, 85, 86, 87, 88, 89, 90, 91, 92, 93, 94, 95, 96, 97, 98, 99, 60, 59, 198,
    103, 104, 66, 150, 65, 64, 63, 75]⟩,
  ⟨166, 20, [(10, 6)], [199]⟩]

/-- States 64 to 127. -/
def page1 : Array Row := #[
  ⟨164, 18, [(10, 6)], []⟩,
  ⟨161, 18, [(10, 6)], []⟩,
  ⟨158, 18, [(10, 6)], []⟩,
  ⟨80, 6, [], [48, 200]⟩,
  ⟨81, 6, [], [48, 201]⟩,
  ⟨82, 21, [(13, 7)], [48, 202]⟩,
  ⟨83, 21, [(13, 7)], [48, 203]⟩,
  ⟨84, 6, [], [48, 204]⟩,
  ⟨85, 6, [], [48, 205]⟩,
  ⟨86, 6, [], [48, 206]⟩,
  ⟨40, 22, [], [147, 74, 208, 62, 105, 106, 107, 108, 109, 67, 68, 69, 70, 71, 72, 73, 76, 77, 78,
    79, 80, 81, 82, 83, 84, 85, 86, 87, 88, 89, 90, 91, 92, 93, 94, 95, 96, 97, 98, 99, 60, 59,
    211, 103, 104, 66, 150, 146, 65, 207, 209, 210, 63, 75]⟩,
  ⟨167, 23, [], [212]⟩,
  ⟨87, 23, [(13, 7)], []⟩,
  ⟨88, 23, [(13, 7)], []⟩,
  ⟨89, 23, [(13, 7)], []⟩,
  ⟨90, 23, [(13, 7)], []⟩,
  ⟨91, 23, [(13, 7)], []⟩,
  ⟨92, 23, [(13, 7)], []⟩,
  ⟨93, 23, [(13, 7)], []⟩,
  ⟨94, 23, [(13, 7)], []⟩,
  ⟨95, 23, [(13, 7)], []⟩,
  ⟨96, 23, [(13, 7)], []⟩,
  ⟨97, 23, [(13, 7)], []⟩,
  ⟨98, 23, [(13, 7)], []⟩,
  ⟨99, 23, [(13, 7)], []⟩,
  ⟨100, 23, [(13, 7)], []⟩,
  ⟨101, 23, [(13, 7)], []⟩,
  ⟨102, 23, [(13, 7)], []⟩,
  ⟨103, 23, [(13, 7)], []⟩,
  ⟨104, 23, [(13, 7)], []⟩,
  ⟨105, 23, [(13, 7)], []⟩,
  ⟨106, 23, [(13, 7)], []⟩,
  ⟨107, 23, [(13, 7)], []⟩,
  ⟨108, 23, [(13, 7)], []⟩,
  ⟨109, 23, [(13, 7)], []⟩,
  ⟨110, 23, [(13, 7)], []⟩,
  ⟨159, 24, [(10, 8)], [61, 213, 74, 62, 105, 106, 107, 108, 109, 67, 68, 69, 70, 71, 72, 73, 76,
    77, 78, 79, 80, 81, 82, 83, 84, 85, 86, 87, 88, 89, 90, 91, 92, 93, 94, 95, 96, 97, 98, 99,
    60, 59, 214, 103, 104, 66, 150, 65, 64, 63, 75]⟩,
  ⟨32, 14, [], [61, 74, 62, 105, 106, 107, 108, 109, 67, 68, 69, 70, 71, 72, 73, 76, 77, 78, 79,
    80, 81, 82, 83, 84, 85, 86, 87, 88, 89, 90, 91, 92, 93, 94, 95, 96, 97, 98, 99, 60, 59, 215,
    103, 104, 66, 150, 65, 64, 63, 75]⟩,
  ⟨150, 25, [], [216, 250, 238, 237, 239, 240, 241, 242, 243, 244, 245, 246, 218, 219, 221, 220,
    222, 223, 224, 225, 226, 227, 228, 229, 230, 231, 232, 233, 234, 235, 236, 247, 248, 249,
    217]⟩,
  ⟨154, 18, [(14, 6)], []⟩,
  ⟨155, 18, [(14, 6)], []⟩,
  ⟨51, 14, [], [61, 74, 62, 105, 106, 107, 108, 109, 67, 68, 69, 70, 71, 72, 73, 76, 77, 78, 79,
    80, 81, 82, 83, 84, 85, 86, 87, 88, 89, 90, 91, 92, 93, 94, 95, 96, 97, 98, 99, 60, 59, 251,
    103, 104, 66, 150, 65, 64, 63, 75]⟩,
  ⟨52, 14, [], [61, 74, 62, 105, 106, 107, 108, 109, 67, 68, 69, 70, 71, 72, 73, 76, 77, 78, 79,
    80, 81, 82, 83, 84, 85, 86, 87, 88, 89, 90, 91, 92, 93, 94, 95, 96, 97, 98, 99, 60, 59, 252,
    103, 104, 66, 150, 65, 64, 63, 75]⟩,
  ⟨72, 14, [], [61, 74, 62, 105, 106, 107, 108, 109, 67, 68, 69, 70, 71, 72, 73, 76, 77, 78, 79,
    80, 81, 82, 83, 84, 85, 86, 87, 88, 89, 90, 91, 92, 93, 94, 95, 96, 97, 98, 99, 60, 59, 253,
    103, 104, 66, 150, 65, 64, 63, 75]⟩,
  ⟨73, 14, [], [61, 74, 62, 105, 106, 107, 108, 109, 67, 68, 69, 70, 71, 72, 73, 76, 77, 78, 79,
    80, 81, 82, 83, 84, 85, 86, 87, 88, 89, 90, 91, 92, 93, 94, 95, 96, 97, 98, 99, 60, 59, 254,
    103, 104, 66, 150, 65, 64, 63, 75]⟩,
  ⟨77, 14, [], [61, 74, 62, 105, 106, 107, 108, 109, 67, 68, 69, 70, 71, 72, 73, 76, 77, 78, 79,
    80, 81, 82, 83, 84, 85, 86, 87, 88, 89, 90, 91, 92, 93, 94, 95, 96, 97, 98, 99, 60, 59, 255,
    103, 104, 66, 150, 65, 64, 63, 75]⟩,
  ⟨159, 26, [(10, 9)], [61, 256, 74, 62, 105, 106, 107, 108, 109, 67, 68, 69, 70, 71, 72, 73, 76,
    77, 78, 79, 80, 81, 82, 83, 84, 85, 86, 87, 88, 89, 90, 91, 92, 93, 94, 95, 96, 97, 98, 99,
    60, 59, 257, 103, 104, 66, 150, 65, 64, 63, 75]⟩,
  ⟨32, 14, [], [61, 74, 62, 105, 106, 107, 108, 109, 67, 68, 69, 70, 71, 72, 73, 76, 77, 78, 79,
    80, 81, 82, 83, 84, 85, 86, 87, 88, 89, 90, 91, 92, 93, 94, 95, 96, 97, 98, 99, 60, 59, 258,
    103, 104, 66, 150, 65, 64, 63, 75]⟩,
  ⟨150, 27, [], [259, 238, 237, 239, 240, 241, 242, 243, 244, 245, 246, 218, 219, 221, 220, 222,
    223, 224, 225, 226, 227, 228, 229, 230, 231, 232, 233, 234, 235, 236, 247, 248, 249]⟩,
  ⟨3, 1, [(15, 1)], []⟩,
  ⟨124, 9, [], [260]⟩,
  ⟨124, 9, [], [261]⟩,
  ⟨124, 9, [], [262]⟩,
  ⟨31, 5, [], [31, 263]⟩,
  ⟨31, 5, [], [31, 264]⟩,
  ⟨32, 28, [], [61, 74, 62, 268, 269, 270, 67, 68, 69, 70, 71, 72, 73, 76, 77, 78, 79, 80, 81, 82,
    83, 84, 85, 86, 87, 88, 89, 90, 91, 92, 93, 94, 95, 96, 97, 98, 99, 60, 59, 265, 266, 267, 66,
    150, 65, 64, 63, 75]⟩,
  ⟨111, 29, [(16, 2)], [48, 271]⟩,
  ⟨159, 30, [(17, 2)], []⟩,
  ⟨124, 31, [], [272, 275, 277, 278, 279, 280, 281, 282, 283, 284, 285, 286, 287, 288, 289, 290,
    291, 292, 293, 274, 276, 273]⟩,
  ⟨124, 31, [], [294, 275, 277, 278, 279, 280, 281, 282, 283, 284, 285, 286, 287, 288, 289, 290,
    291, 292, 293, 296, 276, 295]⟩,
  ⟨124, 31, [], [297, 275, 277, 278, 279, 280, 281, 282, 283, 284, 285, 286, 287, 288, 289, 290,
    291, 292, 293, 299, 276, 298]⟩,
  ⟨3, 3, [(18, 3)], []⟩,
  ⟨169, 3, [(19, 3)], [18, 42, 41, 37, 40, 38, 39, 126]⟩,
  ⟨9, 32, [], [302, 304, 300, 309, 305, 310, 313, 312, 314, 303, 307, 308, 306, 311, 301]⟩]

/-- States 128 to 191. -/
def page2 : Array Row := #[
  ⟨18, 33, [], [313, 312, 314, 315]⟩,
  ⟨145, 4, [], [316]⟩,
  ⟨32, 5, [], [317]⟩,
  ⟨9, 34, [], [320, 322, 309, 327, 323, 310, 313, 312, 314, 321, 325, 326, 324, 318, 311, 319]⟩,
  ⟨169, 3, [(20, 0)], [18, 42, 41, 37, 40, 38, 39, 126]⟩,
  ⟨111, 35, [], [48, 138, 137, 328, 329, 136]⟩,
  ⟨135, 4, [], [330]⟩,
  ⟨136, 4, [], [331]⟩,
  ⟨159, 36, [], [332]⟩,
  ⟨47, 28, [], [61, 74, 62, 337, 338, 109, 67, 68, 69, 70, 71, 72, 73, 76, 77, 78, 79, 80, 81, 82,
    83, 84, 85, 86, 87, 88, 89, 90, 91, 92, 93, 94, 95, 96, 97, 98, 99, 60, 59, 334, 335, 336, 66,
    150, 65, 64, 63, 75, 333]⟩,
  ⟨43, 28, [], [61, 74, 62, 337, 338, 109, 67, 68, 69, 70, 71, 72, 73, 76, 77, 78, 79, 80, 81, 82,
    83, 84, 85, 86, 87, 88, 89, 90, 91, 92, 93, 94, 95, 96, 97, 98, 99, 60, 59, 340, 335, 336, 66,
    150, 65, 64, 63, 75, 339]⟩,
  ⟨32, 37, [], [23, 22, 21, 20, 342, 142, 143, 144, 145, 341]⟩,
  ⟨133, 38, [(21, 10)], []⟩,
  ⟨40, 39, [], [23, 22, 21, 20, 142, 143, 144, 145, 344, 343]⟩,
  ⟨129, 38, [(22, 10)], []⟩,
  ⟨130, 38, [(22, 10)], []⟩,
  ⟨131, 38, [(22, 10)], []⟩,
  ⟨132, 38, [(22, 10)], []⟩,
  ⟨160, 40, [], [348, 345, 346, 347]⟩,
  ⟨9, 41, [(10, 11)], [349, 197, 196, 195]⟩,
  ⟨164, 42, [(10, 11)], [350]⟩,
  ⟨150, 42, [(23, 12)], [238, 237, 239, 240, 241, 242, 243, 244, 245, 246, 218, 219, 221, 220,
    222, 223, 224, 225, 226, 227, 228, 229, 230, 231, 232, 233, 234, 235, 236, 247, 248, 249]⟩,
  ⟨159, 18, [(10, 6)], []⟩,
  ⟨32, 14, [], [61, 74, 62, 54, 55, 56, 57, 58, 67, 68, 69, 70, 71, 72, 73, 76, 77, 78, 79, 80,
    81, 82, 83, 84, 85, 86, 87, 88, 89, 90, 91, 92, 93, 94, 95, 96, 97, 98, 99, 60, 59, 351, 52,
    53, 66, 150, 65, 64, 63, 75]⟩,
  ⟨151, 16, [], [354, 189, 178, 177, 179, 180, 181, 182, 183, 352, 184, 185, 353, 158, 159, 161,
    160, 162, 163, 164, 165, 166, 167, 168, 169, 170, 171, 172, 173, 174, 175, 176, 186, 187, 188,
    355]⟩,
  ⟨151, 16, [], [358, 189, 178, 177, 179, 180, 181, 182, 183, 356, 184, 185, 357, 158, 159, 161,
    160, 162, 163, 164, 165, 166, 167, 168, 169, 170, 171, 172, 173, 174, 175, 176, 186, 187, 188,
    359]⟩,
  ⟨25, 14, [], [61, 74, 62, 105, 106, 107, 108, 109, 67, 68, 69, 70, 71, 72, 73, 76, 77, 78, 79,
    80, 81, 82, 83, 84, 85, 86, 87, 88, 89, 90, 91, 92, 93, 94, 95, 96, 97, 98, 99, 60, 59, 360,
    103, 104, 66, 150, 65, 64, 63, 75]⟩,
  ⟨38, 14, [], [61, 74, 62, 105, 106, 107, 108, 109, 67, 68, 69, 70, 71, 72, 73, 76, 77, 78, 79,
    80, 81, 82, 83, 84, 85, 86, 87, 88, 89, 90, 91, 92, 93, 94, 95, 96, 97, 98, 99, 60, 59, 361,
    103, 104, 66, 150, 65, 64, 63, 75]⟩,
  ⟨3, 38, [(24, 10)], []⟩,
  ⟨174, 43, [], [364, 189, 362, 363, 365]⟩,
  ⟨51, 14, [], [61, 74, 62, 54, 55, 56, 57, 58, 67, 68, 69, 70, 71, 72, 73, 76, 77, 78, 79, 80,
    81, 82, 83, 84, 85, 86, 87, 88, 89, 90, 91, 92, 93, 94, 95, 96, 97, 98, 99, 60, 59, 366, 52,
    53, 66, 150, 65, 64, 63, 75]⟩,
  ⟨52, 14, [], [61, 74, 62, 54, 55, 56, 57, 58, 67, 68, 69, 70, 71, 72, 73, 76, 77, 78, 79, 80,
    81, 82, 83, 84, 85, 86, 87, 88, 89, 90, 91, 92, 93, 94, 95, 96, 97, 98, 99, 60, 59, 367, 52,
    53, 66, 150, 65, 64, 63, 75]⟩,
  ⟨56, 14, [], [61, 74, 62, 54, 55, 56, 57, 58, 67, 68, 69, 70, 71, 72, 73, 76, 77, 78, 79, 80,
    81, 82, 83, 84, 85, 86, 87, 88, 89, 90, 91, 92, 93, 94, 95, 96, 97, 98, 99, 60, 59, 368, 52,
    53, 66, 150, 65, 64, 63, 75]⟩,
  ⟨55, 14, [], [61, 74, 62, 54, 55, 56, 57, 58, 67, 68, 69, 70, 71, 72, 73, 76, 77, 78, 79, 80,
    81, 82, 83, 84, 85, 86, 87, 88, 89, 90, 91, 92, 93, 94, 95, 96, 97, 98, 99, 60, 59, 369, 52,
    53, 66, 150, 65, 64, 63, 75]⟩,
  ⟨57, 14, [], [61, 74, 62, 54, 55, 56, 57, 58, 67, 68, 69, 70, 71, 72, 73, 76, 77, 78, 79, 80,
    81, 82, 83, 84, 85, 86, 87, 88, 89, 90, 91, 92, 93, 94, 95, 96, 97, 98, 99, 60, 59, 370, 52,
    53, 66, 150, 65, 64, 63, 75]⟩,
  ⟨58, 14, [], [61, 74, 62, 54, 55, 56, 57, 58, 67, 68, 69, 70, 71, 72, 73, 76, 77, 78, 79, 80,
    81, 82, 83, 84, 85, 86, 87, 88, 89, 90, 91, 92, 93, 94, 95, 96, 97, 98, 99, 60, 59, 371, 52,
    53, 66, 150, 65, 64, 63, 75]⟩,
  ⟨59, 14, [], [61, 74, 62, 54, 55, 56, 57, 58, 67, 68, 69, 70, 71, 72, 73, 76, 77, 78, 79, 80,
    81, 82, 83, 84, 85, 86, 87, 88, 89, 90, 91, 92, 93, 94, 95, 96, 97, 98, 99, 60, 59, 372, 52,
    53, 66, 150, 65, 64, 63, 75]⟩,
  ⟨60, 14, [], [61, 74, 62, 54, 55, 56, 57, 58, 67, 68, 69, 70, 71, 72, 73, 76, 77, 78, 79, 80,
    81, 82, 83, 84, 85, 86, 87, 88, 89, 90, 91, 92, 93, 94, 95, 96, 97, 98, 99, 60, 59, 373, 52,
    53, 66, 150, 65, 64, 63, 75]⟩,
  ⟨61, 14, [], [61, 74, 62, 54, 55, 56, 57, 58, 67, 68, 69, 70, 71, 72, 73, 76, 77, 78, 79, 80,
    81, 82, 83, 84, 85, 86, 87, 88, 89, 90, 91, 92, 93, 94, 95, 96, 97, 98, 99, 60, 59, 374, 52,
    53, 66, 150, 65, 64, 63, 75]⟩,
  ⟨62, 14, [], [61, 74, 62, 54, 55, 56, 57, 58, 67, 68, 69, 70, 71, 72, 73, 76, 77, 78, 79, 80,
    81, 82, 83, 84, 85, 86, 87, 88, 89, 90, 91, 92, 93, 94, 95, 96, 97, 98, 99, 60, 59, 375, 52,
    53, 66, 150, 65, 64, 63, 75]⟩,
  ⟨63, 14, [], [61, 74, 62, 54, 55, 56, 57, 58, 67, 68, 69, 70, 71, 72, 73, 76, 77, 78, 79, 80,
    81, 82, 83, 84, 85, 86, 87, 88, 89, 90, 91, 92, 93, 94, 95, 96, 97, 98, 99, 60, 59, 376, 52,
    53, 66, 150, 65, 64, 63, 75]⟩,
  ⟨64, 14, [], [61, 74, 62, 54, 55, 56, 57, 58, 67, 68, 69, 70, 71, 72, 73, 76, 77, 78, 79, 80,
    81, 82, 83, 84, 85, 86, 87, 88, 89, 90, 91, 92, 93, 94, 95, 96, 97, 98, 99, 60, 59, 377, 52,
    53, 66, 150, 65, 64, 63, 75]⟩,
  ⟨65, 14, [], [61, 74, 62, 54, 55, 56, 57, 58, 67, 68, 69, 70, 71, 72, 73, 76, 77, 78, 79, 80,
    81, 82, 83, 84, 85, 86, 87, 88, 89, 90, 91, 92, 93, 94, 95, 96, 97, 98, 99, 60, 59, 378, 52,
    53, 66, 150, 65, 64, 63, 75]⟩,
  ⟨66, 14, [], [61, 74, 62, 54, 55, 56, 57, 58, 67, 68, 69, 70, 71, 72, 73, 76, 77, 78, 79, 80,
    81, 82, 83, 84, 85, 86, 87, 88, 89, 90, 91, 92, 93, 94, 95, 96, 97, 98, 99, 60, 59, 379, 52,
    53, 66, 150, 65, 64, 63, 75]⟩,
  ⟨67, 14, [], [61, 74, 62, 54, 55, 56, 57, 58, 67, 68, 69, 70, 71, 72, 73, 76, 77, 78, 79, 80,
    81, 82, 83, 84, 85, 86, 87, 88, 89, 90, 91, 92, 93, 94, 95, 96, 97, 98, 99, 60, 59, 380, 52,
    53, 66, 150, 65, 64, 63, 75]⟩,
  ⟨68, 14, [], [61, 74, 62, 54, 55, 56, 57, 58, 67, 68, 69, 70, 71, 72, 73, 76, 77, 78, 79, 80,
    81, 82, 83, 84, 85, 86, 87, 88, 89, 90, 91, 92, 93, 94, 95, 96, 97, 98, 99, 60, 59, 381, 52,
    53, 66, 150, 65, 64, 63, 75]⟩,
  ⟨69, 14, [], [61, 74, 62, 54, 55, 56, 57, 58, 67, 68, 69, 70, 71, 72, 73, 76, 77, 78, 79, 80,
    81, 82, 83, 84, 85, 86, 87, 88, 89, 90, 91, 92, 93, 94, 95, 96, 97, 98, 99, 60, 59, 382, 52,
    53, 66, 150, 65, 64, 63, 75]⟩,
  ⟨70, 14, [], [61, 74, 62, 54, 55, 56, 57, 58, 67, 68, 69, 70, 71, 72, 73, 76, 77, 78, 79, 80,
    81, 82, 83, 84, 85, 86, 87, 88, 89, 90, 91, 92, 93, 94, 95, 96, 97, 98, 99, 60, 59, 383, 52,
    53, 66, 150, 65, 64, 63, 75]⟩,
  ⟨71, 14, [], [61, 74, 62, 54, 55, 56, 57, 58, 67, 68, 69, 70, 71, 72, 73, 76, 77, 78, 79, 80,
    81, 82, 83, 84, 85, 86, 87, 88, 89, 90, 91, 92, 93, 94, 95, 96, 97, 98, 99, 60, 59, 384, 52,
    53, 66, 150, 65, 64, 63, 75]⟩,
  ⟨19, 14, [], [61, 74, 62, 54, 55, 56, 57, 58, 67, 68, 69, 70, 71, 72, 73, 76, 77, 78, 79, 80,
    81, 82, 83, 84, 85, 86, 87, 88, 89, 90, 91, 92, 93, 94, 95, 96, 97, 98, 99, 60, 59, 385, 52,
    53, 66, 150, 65, 64, 63, 75]⟩,
  ⟨16, 14, [], [61, 74, 62, 54, 55, 56, 57, 58, 67, 68, 69, 70, 71, 72, 73, 76, 77, 78, 79, 80,
    81, 82, 83, 84, 85, 86, 87, 88, 89, 90, 91, 92, 93, 94, 95, 96, 97, 98, 99, 60, 59, 386, 52,
    53, 66, 150, 65, 64, 63, 75]⟩,
  ⟨20, 14, [], [61, 74, 62, 54, 55, 56, 57, 58, 67, 68, 69, 70, 71, 72, 73, 76, 77, 78, 79, 80,
    81, 82, 83, 84, 85, 86, 87, 88, 89, 90, 91, 92, 93, 94, 95, 96, 97, 98, 99, 60, 59, 387, 52,
    53, 66, 150, 65, 64, 63, 75]⟩,
  ⟨21, 14, [], [61, 74, 62, 54, 55, 56, 57, 58, 67, 68, 69, 70, 71, 72, 73, 76, 77, 78, 79, 80,
    81, 82, 83, 84, 85, 86, 87, 88, 89, 90, 91, 92, 93, 94, 95, 96, 97, 98, 99, 60, 59, 388, 52,
    53, 66, 150, 65, 64, 63, 75]⟩,
  ⟨22, 14, [], [61, 74, 62, 54, 55, 56, 57, 58, 67, 68, 69, 70, 71, 72, 73, 76, 77, 78, 79, 80,
    81, 82, 83, 84, 85, 86, 87, 88, 89, 90, 91, 92, 93, 94, 95, 96, 97, 98, 99, 60, 59, 389, 52,
    53, 66, 150, 65, 64, 63, 75]⟩,
  ⟨23, 14, [], [61, 74, 62, 54, 55, 56, 57, 58, 67, 68, 69, 70, 71, 72, 73, 76, 77, 78, 79, 80,
    81, 82, 83, 84, 85, 86, 87, 88, 89, 90, 91, 92, 93, 94, 95, 96, 97, 98, 99, 60, 59, 390, 52,
    53, 66, 150, 65, 64, 63, 75]⟩,
  ⟨24, 14, [], [61, 74, 62, 54, 55, 56, 57, 58, 67, 68, 69, 70, 71, 72, 73, 76, 77, 78, 79, 80,
    81, 82, 83, 84, 85, 86, 87, 88, 89, 90, 91, 92, 93, 94, 95, 96, 97, 98, 99, 60, 59, 391, 52,
    53, 66, 150, 65, 64, 63, 75]⟩,
  ⟨26, 14, [], [61, 74, 62, 54, 55, 56, 57, 58, 67, 68, 69, 70, 71, 72, 73, 76, 77, 78, 79, 80,
    81, 82, 83, 84, 85, 86, 87, 88, 89, 90, 91, 92, 93, 94, 95, 96, 97, 98, 99, 60, 59, 392, 52,
    53, 66, 150, 65, 64, 63, 75]⟩,
  ⟨27, 14, [], [61, 74, 62, 54, 55, 56, 57, 58, 67, 68, 69, 70, 71, 72, 73, 76, 77, 78, 79, 80,
    81, 82, 83, 84, 85, 86, 87, 88, 89, 90, 91, 92, 93, 94, 95, 96, 97, 98, 99, 60, 59, 393, 52,
    53, 66, 150, 65, 64, 63, 75]⟩,
  ⟨72, 44, [], [395, 394]⟩,
  ⟨73, 44, [], [397, 396]⟩,
  ⟨74, 14, [], [61, 74, 62, 54, 55, 56, 57, 58, 67, 68, 69, 70, 71, 72, 73, 76, 77, 78, 79, 80,
    81, 82, 83, 84, 85, 86, 87, 88, 89, 90, 91, 92, 93, 94, 95, 96, 97, 98, 99, 60, 59, 398, 52,
    53, 66, 150, 65, 64, 63, 75]⟩,
  ⟨10, 14, [], [61, 74, 62, 54, 55, 56, 57, 58, 67, 68, 69, 70, 71, 72, 73, 76, 77, 78, 79, 80,
    81, 82, 83, 84, 85, 86, 87, 88, 89, 90, 91, 92, 93, 94, 95, 96, 97, 98, 99, 60, 59, 399, 52,
    53, 66, 150, 65, 64, 63, 75]⟩,
  ⟨151, 17, [(25, 13)], [165, 166]⟩,
  ⟨151, 17, [(25, 13)], [165, 166]⟩]

/-- States 192 to 255. -/
def page3 : Array Row := #[
  ⟨151, 17, [(25, 14)], [158, 159, 161, 160, 162, 163, 164, 165, 166, 167, 168, 169, 170, 171,
    172, 188]⟩,
  ⟨151, 17, [(25, 14)], [158, 159, 161, 160, 162, 163, 164, 165, 166, 167, 168, 169, 170, 171,
    172, 188]⟩,
  ⟨150, 45, [], [238, 237, 239, 240, 241, 242, 243, 244, 245, 246, 218, 219, 221, 220, 222, 223,
    224, 225, 226, 227, 228, 229, 230, 231, 232, 233, 234, 235, 236, 247, 248, 249, 400]⟩,
  ⟨165, 20, [(26, 6)], [401]⟩,
  ⟨76, 18, [(26, 6)], []⟩,
  ⟨45, 14, [], [61, 74, 62, 105, 106, 107, 108, 109, 67, 68, 69, 70, 71, 72, 73, 76, 77, 78, 79,
    80, 81, 82, 83, 84, 85, 86, 87, 88, 89, 90, 91, 92, 93, 94, 95, 96, 97, 98, 99, 60, 59, 402,
    103, 104, 66, 150, 65, 64, 63, 75]⟩,
  ⟨150, 46, [], [405, 238, 237, 239, 240, 241, 242, 243, 244, 245, 246, 403, 218, 219, 221, 220,
    222, 223, 224, 225, 226, 227, 228, 229, 230, 231, 232, 233, 234, 235, 236, 247, 248, 249,
    404]⟩,
  ⟨76, 18, [(26, 6)], []⟩,
  ⟨159, 14, [], [61, 74, 62, 105, 106, 107, 108, 109, 67, 68, 69, 70, 71, 72, 73, 76, 77, 78, 79,
    80, 81, 82, 83, 84, 85, 86, 87, 88, 89, 90, 91, 92, 93, 94, 95, 96, 97, 98, 99, 60, 59, 406,
    103, 104, 66, 150, 65, 64, 63, 75]⟩,
  ⟨159, 14, [], [61, 74, 62, 105, 106, 107, 108, 109, 67, 68, 69, 70, 71, 72, 73, 76, 77, 78, 79,
    80, 81, 82, 83, 84, 85, 86, 87, 88, 89, 90, 91, 92, 93, 94, 95, 96, 97, 98, 99, 60, 59, 407,
    103, 104, 66, 150, 65, 64, 63, 75]⟩,
  ⟨159, 14, [], [61, 74, 62, 105, 106, 107, 108, 109, 67, 68, 69, 70, 71, 72, 73, 76, 77, 78, 79,
    80, 81, 82, 83, 84, 85, 86, 87, 88, 89, 90, 91, 92, 93, 94, 95, 96, 97, 98, 99, 60, 59, 408,
    103, 104, 66, 150, 65, 64, 63, 75]⟩,
  ⟨159, 14, [], [61, 74, 62, 105, 106, 107, 108, 109, 67, 68, 69, 70, 71, 72, 73, 76, 77, 78, 79,
    80, 81, 82, 83, 84, 85, 86, 87, 88, 89, 90, 91, 92, 93, 94, 95, 96, 97, 98, 99, 60, 59, 409,
    103, 104, 66, 150, 65, 64, 63, 75]⟩,
  ⟨159, 14, [], [61, 74, 62, 105, 106, 107, 108, 109, 67, 68, 69, 70, 71, 72, 73, 76, 77, 78, 79,
    80, 81, 82, 83, 84, 85, 86, 87, 88, 89, 90, 91, 92, 93, 94, 95, 96, 97, 98, 99, 60, 59, 410,
    103, 104, 66, 150, 65, 64, 63, 75]⟩,
  ⟨159, 14, [], [61, 74, 62, 105, 106, 107, 108, 109, 67, 68, 69, 70, 71, 72, 73, 76, 77, 78, 79,
    80, 81, 82, 83, 84, 85, 86, 87, 88, 89, 90, 91, 92, 93, 94, 95, 96, 97, 98, 99, 60, 59, 411,
    103, 104, 66, 150, 65, 64, 63, 75]⟩,
  ⟨159, 14, [], [61, 74, 62, 105, 106, 107, 108, 109, 67, 68, 69, 70, 71, 72, 73, 76, 77, 78, 79,
    80, 81, 82, 83, 84, 85, 86, 87, 88, 89, 90, 91, 92, 93, 94, 95, 96, 97, 98, 99, 60, 59, 412,
    103, 104, 66, 150, 65, 64, 63, 75]⟩,
  ⟨162, 47, [], [414, 413]⟩,
  ⟨41, 18, [(27, 6)], []⟩,
  ⟨163, 47, [(28, 15)], []⟩,
  ⟨164, 42, [(29, 15), (10, 16)], [350]⟩,
  ⟨150, 42, [(29, 15), (23, 17)], [238, 237, 239, 240, 241, 242, 243, 244, 245, 246, 218, 219,
    221, 220, 222, 223, 224, 225, 226, 227, 228, 229, 230, 231, 232, 233, 234, 235, 236, 247, 248,
    249]⟩,
  ⟨49, 48, [], [61, 74, 62, 416, 105, 106, 107, 108, 109, 67, 68, 69, 70, 71, 72, 73, 76, 77, 78,
    79, 80, 81, 82, 83, 84, 85, 86, 87, 88, 89, 90, 91, 92, 93, 94, 95, 96, 97, 98, 99, 60, 59,
    415, 103, 104, 66, 150, 65, 64, 63, 75]⟩,
  ⟨32, 14, [], [61, 74, 62, 105, 106, 107, 108, 109, 67, 68, 69, 70, 71, 72, 73, 76, 77, 78, 79,
    80, 81, 82, 83, 84, 85, 86, 87, 88, 89, 90, 91, 92, 93, 94, 95, 96, 97, 98, 99, 60, 59, 417,
    103, 104, 66, 150, 65, 64, 63, 75]⟩,
  ⟨150, 25, [], [418, 250, 238, 237, 239, 240, 241, 242, 243, 244, 245, 246, 218, 219, 221, 220,
    222, 223, 224, 225, 226, 227, 228, 229, 230, 231, 232, 233, 234, 235, 236, 247, 248, 249,
    419]⟩,
  ⟨150, 25, [], [420, 250, 238, 237, 239, 240, 241, 242, 243, 244, 245, 246, 218, 219, 221, 220,
    222, 223, 224, 225, 226, 227, 228, 229, 230, 231, 232, 233, 234, 235, 236, 247, 248, 249,
    421]⟩,
  ⟨3, 38, [(30, 10)], []⟩,
  ⟨173, 49, [], [422, 250, 423]⟩,
  ⟨51, 14, [], [61, 74, 62, 105, 106, 107, 108, 109, 67, 68, 69, 70, 71, 72, 73, 76, 77, 78, 79,
    80, 81, 82, 83, 84, 85, 86, 87, 88, 89, 90, 91, 92, 93, 94, 95, 96, 97, 98, 99, 60, 59, 424,
    103, 104, 66, 150, 65, 64, 63, 75]⟩,
  ⟨52, 14, [], [61, 74, 62, 105, 106, 107, 108, 109, 67, 68, 69, 70, 71, 72, 73, 76, 77, 78, 79,
    80, 81, 82, 83, 84, 85, 86, 87, 88, 89, 90, 91, 92, 93, 94, 95, 96, 97, 98, 99, 60, 59, 425,
    103, 104, 66, 150, 65, 64, 63, 75]⟩,
  ⟨56, 14, [], [61, 74, 62, 105, 106, 107, 108, 109, 67, 68, 69, 70, 71, 72, 73, 76, 77, 78, 79,
    80, 81, 82, 83, 84, 85, 86, 87, 88, 89, 90, 91, 92, 93, 94, 95, 96, 97, 98, 99, 60, 59, 426,
    103, 104, 66, 150, 65, 64, 63, 75]⟩,
  ⟨55, 14, [], [61, 74, 62, 105, 106, 107, 108, 109, 67, 68, 69, 70, 71, 72, 73, 76, 77, 78, 79,
    80, 81, 82, 83, 84, 85, 86, 87, 88, 89, 90, 91, 92, 93, 94, 95, 96, 97, 98, 99, 60, 59, 427,
    103, 104, 66, 150, 65, 64, 63, 75]⟩,
  ⟨57, 14, [], [61, 74, 62, 105, 106, 107, 108, 109, 67, 68, 69, 70, 71, 72, 73, 76, 77, 78, 79,
    80, 81, 82, 83, 84, 85, 86, 87, 88, 89, 90, 91, 92, 93, 94, 95, 96, 97, 98, 99, 60, 59, 428,
    103, 104, 66, 150, 65, 64, 63, 75]⟩,
  ⟨58, 14, [], [61, 74, 62, 105, 106, 107, 108, 109, 67, 68, 69, 70, 71, 72, 73, 76, 77, 78, 79,
    80, 81, 82, 83, 84, 85, 86, 87, 88, 89, 90, 91, 92, 93, 94, 95, 96, 97, 98, 99, 60, 59, 429,
    103, 104, 66, 150, 65, 64, 63, 75]⟩,
  ⟨59, 14, [], [61, 74, 62, 105, 106, 107, 108, 109, 67, 68, 69, 70, 71, 72, 73, 76, 77, 78, 79,
    80, 81, 82, 83, 84, 85, 86, 87, 88, 89, 90, 91, 92, 93, 94, 95, 96, 97, 98, 99, 60, 59, 430,
    103, 104, 66, 150, 65, 64, 63, 75]⟩,
  ⟨60, 14, [], [61, 74, 62, 105, 106, 107, 108, 109, 67, 68, 69, 70, 71, 72, 73, 76, 77, 78, 79,
    80, 81, 82, 83, 84, 85, 86, 87, 88, 89, 90, 91, 92, 93, 94, 95, 96, 97, 98, 99, 60, 59, 431,
    103, 104, 66, 150, 65, 64, 63, 75]⟩,
  ⟨61, 14, [], [61, 74, 62, 105, 106, 107, 108, 109, 67, 68, 69, 70, 71, 72, 73, 76, 77, 78, 79,
    80, 81, 82, 83, 84, 85, 86, 87, 88, 89, 90, 91, 92, 93, 94, 95, 96, 97, 98, 99, 60, 59, 432,
    103, 104, 66, 150, 65, 64, 63, 75]⟩,
  ⟨62, 14, [], [61, 74, 62, 105, 106, 107, 108, 109, 67, 68, 69, 70, 71, 72, 73, 76, 77, 78, 79,
    80, 81, 82, 83, 84, 85, 86, 87, 88, 89, 90, 91, 92, 93, 94, 95, 96, 97, 98, 99, 60, 59, 433,
    103, 104, 66, 150, 65, 64, 63, 75]⟩,
  ⟨63, 14, [], [61, 74, 62, 105, 106, 107, 108, 109, 67, 68, 69, 70, 71, 72, 73, 76, 77, 78, 79,
    80, 81, 82, 83, 84, 85, 86, 87, 88, 89, 90, 91, 92, 93, 94, 95, 96, 97, 98, 99, 60, 59, 434,
    103, 104, 66, 150, 65, 64, 63, 75]⟩,
  ⟨64, 14, [], [61, 74, 62, 105, 106, 107, 108, 109, 67, 68, 69, 70, 71, 72, 73, 76, 77, 78, 79,
    80, 81, 82, 83, 84, 85, 86, 87, 88, 89, 90, 91, 92, 93, 94, 95, 96, 97, 98, 99, 60, 59, 435,
    103, 104, 66, 150, 65, 64, 63, 75]⟩,
  ⟨65, 14, [], [61, 74, 62, 105, 106, 107, 108, 109, 67, 68, 69, 70, 71, 72, 73, 76, 77, 78, 79,
    80, 81, 82, 83, 84, 85, 86, 87, 88, 89, 90, 91, 92, 93, 94, 95, 96, 97, 98, 99, 60, 59, 436,
    103, 104, 66, 150, 65, 64, 63, 75]⟩,
  ⟨66, 14, [], [61, 74, 62, 105, 106, 107, 108, 109, 67, 68, 69, 70, 71, 72, 73, 76, 77, 78, 79,
    80, 81, 82, 83, 84, 85, 86, 87, 88, 89, 90, 91, 92, 93, 94, 95, 96, 97, 98, 99, 60, 59, 437,
    103, 104, 66, 150, 65, 64, 63, 75]⟩,
  ⟨67, 14, [], [61, 74, 62, 105, 106, 107, 108, 109, 67, 68, 69, 70, 71, 72, 73, 76, 77, 78, 79,
    80, 81, 82, 83, 84, 85, 86, 87, 88, 89, 90, 91, 92, 93, 94, 95, 96, 97, 98, 99, 60, 59, 438,
    103, 104, 66, 150, 65, 64, 63, 75]⟩,
  ⟨68, 14, [], [61, 74, 62, 105, 106, 107, 108, 109, 67, 68, 69, 70, 71, 72, 73, 76, 77, 78, 79,
    80, 81, 82, 83, 84, 85, 86, 87, 88, 89, 90, 91, 92, 93, 94, 95, 96, 97, 98, 99, 60, 59, 439,
    103, 104, 66, 150, 65, 64, 63, 75]⟩,
  ⟨69, 14, [], [61, 74, 62, 105, 106, 107, 108, 109, 67, 68, 69, 70, 71, 72, 73, 76, 77, 78, 79,
    80, 81, 82, 83, 84, 85, 86, 87, 88, 89, 90, 91, 92, 93, 94, 95, 96, 97, 98, 99, 60, 59, 440,
    103, 104, 66, 150, 65, 64, 63, 75]⟩,
  ⟨70, 14, [], [61, 74, 62, 105, 106, 107, 108, 109, 67, 68, 69, 70, 71, 72, 73, 76, 77, 78, 79,
    80, 81, 82, 83, 84, 85, 86, 87, 88, 89, 90, 91, 92, 93, 94, 95, 96, 97, 98, 99, 60, 59, 441,
    103, 104, 66, 150, 65, 64, 63, 75]⟩,
  ⟨71, 14, [], [61, 74, 62, 105, 106, 107, 108, 109, 67, 68, 69, 70, 71, 72, 73, 76, 77, 78, 79,
    80, 81, 82, 83, 84, 85, 86, 87, 88, 89, 90, 91, 92, 93, 94, 95, 96, 97, 98, 99, 60, 59, 442,
    103, 104, 66, 150, 65, 64, 63, 75]⟩,
  ⟨19, 14, [], [61, 74, 62, 105, 106, 107, 108, 109, 67, 68, 69, 70, 71, 72, 73, 76, 77, 78, 79,
    80, 81, 82, 83, 84, 85, 86, 87, 88, 89, 90, 91, 92, 93, 94, 95, 96, 97, 98, 99, 60, 59, 443,
    103, 104, 66, 150, 65, 64, 63, 75]⟩,
  ⟨16, 14, [], [61, 74, 62, 105, 106, 107, 108, 109, 67, 68, 69, 70, 71, 72, 73, 76, 77, 78, 79,
    80, 81, 82, 83, 84, 85, 86, 87, 88, 89, 90, 91, 92, 93, 94, 95, 96, 97, 98, 99, 60, 59, 444,
    103, 104, 66, 150, 65, 64, 63, 75]⟩,
  ⟨20, 14, [], [61, 74, 62, 105, 106, 107, 108, 109, 67, 68, 69, 70, 71, 72, 73, 76, 77, 78, 79,
    80, 81, 82, 83, 84, 85, 86, 87, 88, 89, 90, 91, 92, 93, 94, 95, 96, 97, 98, 99, 60, 59, 445,
    103, 104, 66, 150, 65, 64, 63, 75]⟩,
  ⟨21, 14, [], [61, 74, 62, 105, 106, 107, 108, 109, 67, 68, 69, 70, 71, 72, 73, 76, 77, 78, 79,
    80, 81, 82, 83, 84, 85, 86, 87, 88, 89, 90, 91, 92, 93, 94, 95, 96, 97, 98, 99, 60, 59, 446,
    103, 104, 66, 150, 65, 64, 63, 75]⟩,
  ⟨22, 14, [], [61, 74, 62, 105, 106, 107, 108, 109, 67, 68, 69, 70, 71, 72, 73, 76, 77, 78, 79,
    80, 81, 82, 83, 84, 85, 86, 87, 88, 89, 90, 91, 92, 93, 94, 95, 96, 97, 98, 99, 60, 59, 447,
    103, 104, 66, 150, 65, 64, 63, 75]⟩,
  ⟨23, 14, [], [61, 74, 62, 105, 106, 107, 108, 109, 67, 68, 69, 70, 71, 72, 73, 76, 77, 78, 79,
    80, 81, 82, 83, 84, 85, 86, 87, 88, 89, 90, 91, 92, 93, 94, 95, 96, 97, 98, 99, 60, 59, 448,
    103, 104, 66, 150, 65, 64, 63, 75]⟩,
  ⟨24, 14, [], [61, 74, 62, 105, 106, 107, 108, 109, 67, 68, 69, 70, 71, 72, 73, 76, 77, 78, 79,
    80, 81, 82, 83, 84, 85, 86, 87, 88, 89, 90, 91, 92, 93, 94, 95, 96, 97, 98, 99, 60, 59, 449,
    103, 104, 66, 150, 65, 64, 63, 75]⟩,
  ⟨25, 14, [], [61, 74, 62, 105, 106, 107, 108, 109, 67, 68, 69, 70, 71, 72, 73, 76, 77, 78, 79,
    80, 81, 82, 83, 84, 85, 86, 87, 88, 89, 90, 91, 92, 93, 94, 95, 96, 97, 98, 99, 60, 59, 450,
    103, 104, 66, 150, 65, 64, 63, 75]⟩,
  ⟨26, 14, [], [61, 74, 62, 105, 106, 107, 108, 109, 67, 68, 69, 70, 71, 72, 73, 76, 77, 78, 79,
    80, 81, 82, 83, 84, 85, 86, 87, 88, 89, 90, 91, 92, 93, 94, 95, 96, 97, 98, 99, 60, 59, 451,
    103, 104, 66, 150, 65, 64, 63, 75]⟩,
  ⟨27, 14, [], [61, 74, 62, 105, 106, 107, 108, 109, 67, 68, 69, 70, 71, 72, 73, 76, 77, 78, 79,
    80, 81, 82, 83, 84, 85, 86, 87, 88, 89, 90, 91, 92, 93, 94, 95, 96, 97, 98, 99, 60, 59, 452,
    103, 104, 66, 150, 65, 64, 63, 75]⟩,
  ⟨72, 44, [], [454, 453]⟩,
  ⟨73, 44, [], [456, 455]⟩,
  ⟨74, 14, [], [61, 74, 62, 105, 106, 107, 108, 109, 67, 68, 69, 70, 71, 72, 73, 76, 77, 78, 79,
    80, 81, 82, 83, 84, 85, 86, 87, 88, 89, 90, 91, 92, 93, 94, 95, 96, 97, 98, 99, 60, 59, 457,
    103, 104, 66, 150, 65, 64, 63, 75]⟩,
  ⟨10, 14, [], [61, 74, 62, 105, 106, 107, 108, 109, 67, 68, 69, 70, 71, 72, 73, 76, 77, 78, 79,
    80, 81, 82, 83, 84, 85, 86, 87, 88, 89, 90, 91, 92, 93, 94, 95, 96, 97, 98, 99, 60, 59, 458,
    103, 104, 66, 150, 65, 64, 63, 75]⟩,
  ⟨150, 18, [(31, 18)], [225, 226]⟩,
  ⟨150, 18, [(31, 18)], [225, 226]⟩,
  ⟨150, 18, [(31, 19)], [218, 219, 221, 220, 222, 223, 224, 225, 226, 227, 228, 229, 230, 231,
    232, 249]⟩,
  ⟨150, 18, [(31, 19)], [218, 219, 221, 220, 222, 223, 224, 225, 226, 227, 228, 229, 230, 231,
    232, 249]⟩,
  ⟨150, 45, [], [238, 237, 239, 240, 241, 242, 243, 244, 245, 246, 218, 219, 221, 220, 222, 223,
    224, 225, 226, 227, 228, 229, 230, 231, 232, 233, 234, 235, 236, 247, 248, 249, 459]⟩]

/-- States 256 to 319. -/
def page4 : Array Row := #[
  ⟨32, 14, [], [61, 74, 62, 105, 106, 107, 108, 109, 67, 68, 69, 70, 71, 72, 73, 76, 77, 78, 79,
    80, 81, 82, 83, 84, 85, 86, 87, 88, 89, 90, 91, 92, 93, 94, 95, 96, 97, 98, 99, 60, 59, 460,
    103, 104, 66, 150, 65, 64, 63, 75]⟩,
  ⟨150, 27, [], [461, 238, 237, 239, 240, 241, 242, 243, 244, 245, 246, 218, 219, 221, 220, 222,
    223, 224, 225, 226, 227, 228, 229, 230, 231, 232, 233, 234, 235, 236, 247, 248, 249]⟩,
  ⟨150, 27, [], [462, 238, 237, 239, 240, 241, 242, 243, 244, 245, 246, 218, 219, 221, 220, 222,
    223, 224, 225, 226, 227, 228, 229, 230, 231, 232, 233, 234, 235, 236, 247, 248, 249]⟩,
  ⟨3, 38, [(32, 10)], []⟩,
  ⟨32, 28, [], [61, 74, 62, 268, 269, 270, 67, 68, 69, 70, 71, 72, 73, 76, 77, 78, 79, 80, 81, 82,
    83, 84, 85, 86, 87, 88, 89, 90, 91, 92, 93, 94, 95, 96, 97, 98, 99, 60, 59, 463, 266, 267, 66,
    150, 65, 64, 63, 75]⟩,
  ⟨32, 28, [], [61, 74, 62, 268, 269, 270, 67, 68, 69, 70, 71, 72, 73, 76, 77, 78, 79, 80, 81, 82,
    83, 84, 85, 86, 87, 88, 89, 90, 91, 92, 93, 94, 95, 96, 97, 98, 99, 60, 59, 464, 266, 267, 66,
    150, 65, 64, 63, 75]⟩,
  ⟨32, 28, [], [61, 74, 62, 268, 269, 270, 67, 68, 69, 70, 71, 72, 73, 76, 77, 78, 79, 80, 81, 82,
    83, 84, 85, 86, 87, 88, 89, 90, 91, 92, 93, 94, 95, 96, 97, 98, 99, 60, 59, 465, 266, 267, 66,
    150, 65, 64, 63, 75]⟩,
  ⟨124, 9, [], [466]⟩,
  ⟨124, 9, [], [467]⟩,
  ⟨152, 50, [], [468, 470, 469, 471, 472, 473, 475, 474, 476, 477, 478, 479, 480]⟩,
  ⟨154, 51, [(33, 20)], []⟩,
  ⟨157, 51, [(34, 20)], []⟩,
  ⟨51, 28, [], [61, 74, 62, 268, 269, 270, 67, 68, 69, 70, 71, 72, 73, 76, 77, 78, 79, 80, 81, 82,
    83, 84, 85, 86, 87, 88, 89, 90, 91, 92, 93, 94, 95, 96, 97, 98, 99, 60, 59, 481, 266, 267, 66,
    150, 65, 64, 63, 75]⟩,
  ⟨52, 28, [], [61, 74, 62, 268, 269, 270, 67, 68, 69, 70, 71, 72, 73, 76, 77, 78, 79, 80, 81, 82,
    83, 84, 85, 86, 87, 88, 89, 90, 91, 92, 93, 94, 95, 96, 97, 98, 99, 60, 59, 482, 266, 267, 66,
    150, 65, 64, 63, 75]⟩,
  ⟨77, 14, [], [61, 74, 62, 105, 106, 107, 108, 109, 67, 68, 69, 70, 71, 72, 73, 76, 77, 78, 79,
    80, 81, 82, 83, 84, 85, 86, 87, 88, 89, 90, 91, 92, 93, 94, 95, 96, 97, 98, 99, 60, 59, 483,
    103, 104, 66, 150, 65, 64, 63, 75]⟩,
  ⟨159, 30, [(35, 2)], []⟩,
  ⟨3, 1, [(36, 1)], []⟩,
  ⟨172, 31, [], [484, 275, 277, 278, 279, 280, 281, 282, 283, 284, 285, 286, 287, 288, 289, 290,
    291, 292, 293, 274, 276, 485]⟩,
  ⟨125, 31, [(37, 21)], []⟩,
  ⟨10, 52, [], [277, 278, 279, 280, 281, 282, 283, 284, 285, 286, 287, 288, 289, 290, 291, 292,
    293, 486]⟩,
  ⟨126, 31, [(38, 21)], []⟩,
  ⟨11, 53, [], [487]⟩,
  ⟨12, 31, [(39, 21)], []⟩,
  ⟨13, 31, [(39, 21)], []⟩,
  ⟨14, 31, [(39, 21)], []⟩,
  ⟨15, 31, [(39, 21)], []⟩,
  ⟨16, 14, [], [61, 74, 62, 105, 106, 107, 108, 109, 67, 68, 69, 70, 71, 72, 73, 76, 77, 78, 79,
    80, 81, 82, 83, 84, 85, 86, 87, 88, 89, 90, 91, 92, 93, 94, 95, 96, 97, 98, 99, 60, 59, 488,
    103, 104, 66, 150, 65, 64, 63, 75]⟩,
  ⟨17, 14, [], [61, 74, 62, 105, 106, 107, 108, 109, 67, 68, 69, 70, 71, 72, 73, 76, 77, 78, 79,
    80, 81, 82, 83, 84, 85, 86, 87, 88, 89, 90, 91, 92, 93, 94, 95, 96, 97, 98, 99, 60, 59, 489,
    103, 104, 66, 150, 65, 64, 63, 75]⟩,
  ⟨18, 14, [], [61, 74, 62, 105, 106, 107, 108, 109, 67, 68, 69, 70, 71, 72, 73, 76, 77, 78, 79,
    80, 81, 82, 83, 84, 85, 86, 87, 88, 89, 90, 91, 92, 93, 94, 95, 96, 97, 98, 99, 60, 59, 490,
    103, 104, 66, 150, 65, 64, 63, 75]⟩,
  ⟨19, 14, [], [61, 74, 62, 105, 106, 107, 108, 109, 67, 68, 69, 70, 71, 72, 73, 76, 77, 78, 79,
    80, 81, 82, 83, 84, 85, 86, 87, 88, 89, 90, 91, 92, 93, 94, 95, 96, 97, 98, 99, 60, 59, 491,
    103, 104, 66, 150, 65, 64, 63, 75]⟩,
  ⟨20, 14, [], [61, 74, 62, 105, 106, 107, 108, 109, 67, 68, 69, 70, 71, 72, 73, 76, 77, 78, 79,
    80, 81, 82, 83, 84, 85, 86, 87, 88, 89, 90, 91, 92, 93, 94, 95, 96, 97, 98, 99, 60, 59, 492,
    103, 104, 66, 150, 65, 64, 63, 75]⟩,
  ⟨21, 14, [], [61, 74, 62, 105, 106, 107, 108, 109, 67, 68, 69, 70, 71, 72, 73, 76, 77, 78, 79,
    80, 81, 82, 83, 84, 85, 86, 87, 88, 89, 90, 91, 92, 93, 94, 95, 96, 97, 98, 99, 60, 59, 493,
    103, 104, 66, 150, 65, 64, 63, 75]⟩,
  ⟨22, 14, [], [61, 74, 62, 105, 106, 107, 108, 109, 67, 68, 69, 70, 71, 72, 73, 76, 77, 78, 79,
    80, 81, 82, 83, 84, 85, 86, 87, 88, 89, 90, 91, 92, 93, 94, 95, 96, 97, 98, 99, 60, 59, 494,
    103, 104, 66, 150, 65, 64, 63, 75]⟩,
  ⟨23, 14, [], [61, 74, 62, 105, 106, 107, 108, 109, 67, 68, 69, 70, 71, 72, 73, 76, 77, 78, 79,
    80, 81, 82, 83, 84, 85, 86, 87, 88, 89, 90, 91, 92, 93, 94, 95, 96, 97, 98, 99, 60, 59, 495,
    103, 104, 66, 150, 65, 64, 63, 75]⟩,
  ⟨24, 14, [], [61, 74, 62, 105, 106, 107, 108, 109, 67, 68, 69, 70, 71, 72, 73, 76, 77, 78, 79,
    80, 81, 82, 83, 84, 85, 86, 87, 88, 89, 90, 91, 92, 93, 94, 95, 96, 97, 98, 99, 60, 59, 496,
    103, 104, 66, 150, 65, 64, 63, 75]⟩,
  ⟨25, 14, [], [61, 74, 62, 105, 106, 107, 108, 109, 67, 68, 69, 70, 71, 72, 73, 76, 77, 78, 79,
    80, 81, 82, 83, 84, 85, 86, 87, 88, 89, 90, 91, 92, 93, 94, 95, 96, 97, 98, 99, 60, 59, 497,
    103, 104, 66, 150, 65, 64, 63, 75]⟩,
  ⟨26, 14, [], [61, 74, 62, 105, 106, 107, 108, 109, 67, 68, 69, 70, 71, 72, 73, 76, 77, 78, 79,
    80, 81, 82, 83, 84, 85, 86, 87, 88, 89, 90, 91, 92, 93, 94, 95, 96, 97, 98, 99, 60, 59, 498,
    103, 104, 66, 150, 65, 64, 63, 75]⟩,
  ⟨27, 14, [], [61, 74, 62, 105, 106, 107, 108, 109, 67, 68, 69, 70, 71, 72, 73, 76, 77, 78, 79,
    80, 81, 82, 83, 84, 85, 86, 87, 88, 89, 90, 91, 92, 93, 94, 95, 96, 97, 98, 99, 60, 59, 499,
    103, 104, 66, 150, 65, 64, 63, 75]⟩,
  ⟨3, 1, [(40, 1)], []⟩,
  ⟨171, 31, [], [500, 275, 277, 278, 279, 280, 281, 282, 283, 284, 285, 286, 287, 288, 289, 290,
    291, 292, 293, 296, 276, 501]⟩,
  ⟨125, 31, [(41, 21)], []⟩,
  ⟨3, 1, [(42, 1)], []⟩,
  ⟨170, 31, [], [502, 275, 277, 278, 279, 280, 281, 282, 283, 284, 285, 286, 287, 288, 289, 290,
    291, 292, 293, 299, 276, 503]⟩,
  ⟨125, 31, [(43, 21)], []⟩,
  ⟨18, 33, [], [313, 312, 314, 504]⟩,
  ⟨183, 54, [], [505, 302, 304, 309, 305, 310, 313, 312, 314, 303, 307, 308, 306, 311, 506]⟩,
  ⟨10, 55, [], [304, 309, 305, 310, 313, 312, 314, 507, 307, 308, 306, 311]⟩,
  ⟨142, 54, [(44, 22)], []⟩,
  ⟨17, 54, [(45, 22)], []⟩,
  ⟨45, 56, [], [510, 313, 312, 314, 508, 509]⟩,
  ⟨146, 54, [(45, 23)], [511, 313, 312, 314, 512]⟩,
  ⟨143, 54, [(45, 22)], []⟩,
  ⟨144, 33, [], [313, 312, 314, 514, 513]⟩,
  ⟨32, 57, [(46, 24)], []⟩,
  ⟨54, 58, [(46, 24)], [515]⟩,
  ⟨149, 59, [(47, 25)], []⟩,
  ⟨112, 60, [(48, 26)], []⟩,
  ⟨111, 60, [(48, 26)], []⟩,
  ⟨113, 60, [(48, 26)], []⟩,
  ⟨149, 9, [], [130, 516]⟩,
  ⟨3, 3, [(49, 3)], []⟩,
  ⟨9, 61, [], [520, 518, 517, 313, 312, 314, 521, 519]⟩,
  ⟨147, 62, [], [320, 322, 309, 323, 310, 313, 312, 314, 321, 325, 326, 324, 311, 522]⟩,
  ⟨181, 63, [], [523, 320, 322, 309, 323, 310, 313, 312, 314, 321, 325, 326, 324, 311, 524]⟩]

/-- States 320 to 383. -/
def page5 : Array Row := #[
  ⟨10, 64, [], [322, 309, 323, 310, 313, 312, 314, 525, 325, 326, 324, 311]⟩,
  ⟨139, 63, [(50, 27)], []⟩,
  ⟨17, 63, [(51, 27)], []⟩,
  ⟨49, 56, [], [510, 313, 312, 314, 526, 509]⟩,
  ⟨146, 63, [(51, 28)], [511, 313, 312, 314, 512]⟩,
  ⟨140, 63, [(51, 27)], []⟩,
  ⟨144, 57, [], [528, 529, 530, 313, 312, 314, 531, 527]⟩,
  ⟨45, 33, [], [313, 312, 314, 532]⟩,
  ⟨135, 4, [], [533]⟩,
  ⟨136, 4, [], [534]⟩,
  ⟨3, 1, [(52, 1)], []⟩,
  ⟨3, 1, [(52, 1)], []⟩,
  ⟨47, 28, [], [61, 74, 62, 337, 338, 109, 67, 68, 69, 70, 71, 72, 73, 76, 77, 78, 79, 80, 81, 82,
    83, 84, 85, 86, 87, 88, 89, 90, 91, 92, 93, 94, 95, 96, 97, 98, 99, 60, 59, 334, 335, 336, 66,
    150, 65, 64, 63, 75, 535]⟩,
  ⟨179, 65, [], [61, 536, 74, 62, 337, 338, 109, 67, 68, 69, 70, 71, 72, 73, 76, 77, 78, 79, 80,
    81, 82, 83, 84, 85, 86, 87, 88, 89, 90, 91, 92, 93, 94, 95, 96, 97, 98, 99, 60, 59, 334, 335,
    336, 66, 150, 65, 64, 63, 75, 537]⟩,
  ⟨153, 66, [(53, 29)], [538, 539, 541, 540, 542, 543, 544, 545, 546, 547]⟩,
  ⟨154, 66, [(54, 30)], []⟩,
  ⟨155, 66, [(54, 30)], []⟩,
  ⟨51, 28, [], [61, 74, 62, 337, 338, 109, 67, 68, 69, 70, 71, 72, 73, 76, 77, 78, 79, 80, 81, 82,
    83, 84, 85, 86, 87, 88, 89, 90, 91, 92, 93, 94, 95, 96, 97, 98, 99, 60, 59, 548, 335, 336, 66,
    150, 65, 64, 63, 75]⟩,
  ⟨52, 28, [], [61, 74, 62, 337, 338, 109, 67, 68, 69, 70, 71, 72, 73, 76, 77, 78, 79, 80, 81, 82,
    83, 84, 85, 86, 87, 88, 89, 90, 91, 92, 93, 94, 95, 96, 97, 98, 99, 60, 59, 549, 335, 336, 66,
    150, 65, 64, 63, 75]⟩,
  ⟨176, 65, [], [61, 550, 74, 62, 337, 338, 109, 67, 68, 69, 70, 71, 72, 73, 76, 77, 78, 79, 80,
    81, 82, 83, 84, 85, 86, 87, 88, 89, 90, 91, 92, 93, 94, 95, 96, 97, 98, 99, 60, 59, 340, 335,
    336, 66, 150, 65, 64, 63, 75, 551]⟩,
  ⟨153, 66, [(55, 29)], [538, 539, 541, 540, 542, 543, 544, 545, 546, 547]⟩,
  ⟨133, 38, [(56, 10)], []⟩,
  ⟨40, 39, [], [23, 22, 21, 20, 142, 143, 144, 145, 344, 552]⟩,
  ⟨175, 67, [], [23, 22, 21, 20, 553, 142, 143, 144, 145, 344, 554]⟩,
  ⟨133, 67, [(57, 31)], []⟩,
  ⟨32, 14, [], [61, 74, 62, 105, 106, 107, 108, 109, 67, 68, 69, 70, 71, 72, 73, 76, 77, 78, 79,
    80, 81, 82, 83, 84, 85, 86, 87, 88, 89, 90, 91, 92, 93, 94, 95, 96, 97, 98, 99, 60, 59, 555,
    103, 104, 66, 150, 65, 64, 63, 75]⟩,
  ⟨41, 68, [(58, 32)], []⟩,
  ⟨189, 40, [], [348, 556, 557, 558]⟩,
  ⟨10, 14, [], [147, 74, 62, 105, 106, 107, 108, 109, 67, 68, 69, 70, 71, 72, 73, 76, 77, 78, 79,
    80, 81, 82, 83, 84, 85, 86, 87, 88, 89, 90, 91, 92, 93, 94, 95, 96, 97, 98, 99, 60, 59, 149,
    103, 104, 66, 150, 559, 65, 148, 63, 75]⟩,
  ⟨19, 14, [], [61, 74, 62, 105, 106, 107, 108, 109, 67, 68, 69, 70, 71, 72, 73, 76, 77, 78, 79,
    80, 81, 82, 83, 84, 85, 86, 87, 88, 89, 90, 91, 92, 93, 94, 95, 96, 97, 98, 99, 60, 59, 560,
    103, 104, 66, 150, 65, 64, 63, 75]⟩,
  ⟨19, 14, [], [61, 74, 62, 105, 106, 107, 108, 109, 67, 68, 69, 70, 71, 72, 73, 76, 77, 78, 79,
    80, 81, 82, 83, 84, 85, 86, 87, 88, 89, 90, 91, 92, 93, 94, 95, 96, 97, 98, 99, 60, 59, 561,
    103, 104, 66, 150, 65, 64, 63, 75]⟩,
  ⟨151, 16, [], [564, 189, 178, 177, 179, 180, 181, 182, 183, 562, 184, 185, 563, 158, 159, 161,
    160, 162, 163, 164, 165, 166, 167, 168, 169, 170, 171, 172, 173, 174, 175, 176, 186, 187, 188,
    565]⟩,
  ⟨25, 14, [], [61, 74, 62, 105, 106, 107, 108, 109, 67, 68, 69, 70, 71, 72, 73, 76, 77, 78, 79,
    80, 81, 82, 83, 84, 85, 86, 87, 88, 89, 90, 91, 92, 93, 94, 95, 96, 97, 98, 99, 60, 59, 566,
    103, 104, 66, 150, 65, 64, 63, 75]⟩,
  ⟨38, 14, [], [61, 74, 62, 105, 106, 107, 108, 109, 67, 68, 69, 70, 71, 72, 73, 76, 77, 78, 79,
    80, 81, 82, 83, 84, 85, 86, 87, 88, 89, 90, 91, 92, 93, 94, 95, 96, 97, 98, 99, 60, 59, 567,
    103, 104, 66, 150, 65, 64, 63, 75]⟩,
  ⟨3, 38, [(59, 10)], []⟩,
  ⟨174, 43, [], [570, 189, 568, 569, 365]⟩,
  ⟨25, 14, [], [61, 74, 62, 105, 106, 107, 108, 109, 67, 68, 69, 70, 71, 72, 73, 76, 77, 78, 79,
    80, 81, 82, 83, 84, 85, 86, 87, 88, 89, 90, 91, 92, 93, 94, 95, 96, 97, 98, 99, 60, 59, 571,
    103, 104, 66, 150, 65, 64, 63, 75]⟩,
  ⟨38, 14, [], [61, 74, 62, 105, 106, 107, 108, 109, 67, 68, 69, 70, 71, 72, 73, 76, 77, 78, 79,
    80, 81, 82, 83, 84, 85, 86, 87, 88, 89, 90, 91, 92, 93, 94, 95, 96, 97, 98, 99, 60, 59, 572,
    103, 104, 66, 150, 65, 64, 63, 75]⟩,
  ⟨3, 38, [(59, 10)], []⟩,
  ⟨174, 43, [], [575, 189, 573, 574, 365]⟩,
  ⟨150, 27, [], [576, 238, 237, 239, 240, 241, 242, 243, 244, 245, 246, 218, 219, 221, 220, 222,
    223, 224, 225, 226, 227, 228, 229, 230, 231, 232, 233, 234, 235, 236, 247, 248, 249]⟩,
  ⟨150, 27, [], [577, 238, 237, 239, 240, 241, 242, 243, 244, 245, 246, 218, 219, 221, 220, 222,
    223, 224, 225, 226, 227, 228, 229, 230, 231, 232, 233, 234, 235, 236, 247, 248, 249]⟩,
  ⟨25, 14, [], [61, 74, 62, 105, 106, 107, 108, 109, 67, 68, 69, 70, 71, 72, 73, 76, 77, 78, 79,
    80, 81, 82, 83, 84, 85, 86, 87, 88, 89, 90, 91, 92, 93, 94, 95, 96, 97, 98, 99, 60, 59, 578,
    103, 104, 66, 150, 65, 64, 63, 75]⟩,
  ⟨38, 14, [], [61, 74, 62, 105, 106, 107, 108, 109, 67, 68, 69, 70, 71, 72, 73, 76, 77, 78, 79,
    80, 81, 82, 83, 84, 85, 86, 87, 88, 89, 90, 91, 92, 93, 94, 95, 96, 97, 98, 99, 60, 59, 579,
    103, 104, 66, 150, 65, 64, 63, 75]⟩,
  ⟨3, 38, [(60, 10)], []⟩,
  ⟨174, 43, [(61, 33)], [189, 365]⟩,
  ⟨151, 17, [(62, 34)], [161, 162, 163, 164, 165, 166]⟩,
  ⟨151, 17, [(62, 34)], [161, 162, 163, 164, 165, 166]⟩,
  ⟨151, 17, [(62, 34)], [161, 162, 163, 164, 165, 166]⟩,
  ⟨151, 17, [(62, 13)], [165, 166]⟩,
  ⟨151, 17, [(62, 13)], [165, 166]⟩,
  ⟨151, 17, [(62, 13)], [165, 166]⟩,
  ⟨151, 17, [(62, 13)], [165, 166]⟩,
  ⟨151, 17, [(62, 13)], [165, 166]⟩,
  ⟨151, 17, [(62, 13)], [165, 166]⟩,
  ⟨151, 17, [(62, 35)], [158, 159, 161, 160, 162, 163, 164, 165, 166]⟩,
  ⟨151, 17, [(62, 36)], [158, 159, 161, 160, 162, 163, 164, 165, 166, 167, 171, 172, 188]⟩,
  ⟨151, 17, [(62, 36)], [158, 159, 161, 160, 162, 163, 164, 165, 166, 167, 171, 172, 188]⟩,
  ⟨151, 17, [(62, 36)], [158, 159, 161, 160, 162, 163, 164, 165, 166, 167, 171, 172, 188]⟩,
  ⟨151, 17, [(62, 37)], [158, 159, 161, 160, 162, 163, 164, 165, 166, 167, 172, 188]⟩,
  ⟨151, 17, [(62, 38)], [158, 159, 161, 160, 162, 163, 164, 165, 166, 167, 188]⟩,
  ⟨151, 17, [(62, 39)], [178, 177, 179, 180, 181, 182, 183, 184, 185, 158, 159, 161, 160, 162,
    163, 164, 165, 166, 167, 168, 169, 170, 171, 172, 175, 176, 186, 187, 188]⟩,
  ⟨151, 17, [(62, 39)], [178, 177, 179, 180, 181, 182, 183, 184, 185, 158, 159, 161, 160, 162,
    163, 164, 165, 166, 167, 168, 169, 170, 171, 172, 175, 176, 186, 187, 188]⟩,
  ⟨151, 17, [(62, 40)], [178, 177, 179, 180, 181, 182, 183, 184, 185, 158, 159, 161, 160, 162,
    163, 164, 165, 166, 167, 168, 169, 170, 171, 172, 186, 187, 188]⟩]

/-- States 384 to 447. -/
def page6 : Array Row := #[
  ⟨151, 17, [(62, 40)], [178, 177, 179, 180, 181, 182, 183, 184, 185, 158, 159, 161, 160, 162,
    163, 164, 165, 166, 167, 168, 169, 170, 171, 172, 186, 187, 188]⟩,
  ⟨151, 17, [(62, 14)], [158, 159, 161, 160, 162, 163, 164, 165, 166, 167, 168, 169, 170, 171,
    172, 188]⟩,
  ⟨151, 17, [(62, 14)], [158, 159, 161, 160, 162, 163, 164, 165, 166, 167, 168, 169, 170, 171,
    172, 188]⟩,
  ⟨151, 17, [(62, 41)], [178, 177, 158, 159, 161, 160, 162, 163, 164, 165, 166, 167, 168, 169,
    170, 171, 172, 186, 187, 188]⟩,
  ⟨151, 17, [(62, 41)], [178, 177, 158, 159, 161, 160, 162, 163, 164, 165, 166, 167, 168, 169,
    170, 171, 172, 186, 187, 188]⟩,
  ⟨151, 17, [(62, 41)], [178, 177, 158, 159, 161, 160, 162, 163, 164, 165, 166, 167, 168, 169,
    170, 171, 172, 186, 187, 188]⟩,
  ⟨151, 17, [(62, 41)], [178, 177, 158, 159, 161, 160, 162, 163, 164, 165, 166, 167, 168, 169,
    170, 171, 172, 186, 187, 188]⟩,
  ⟨151, 17, [(62, 41)], [178, 177, 158, 159, 161, 160, 162, 163, 164, 165, 166, 167, 168, 169,
    170, 171, 172, 186, 187, 188]⟩,
  ⟨151, 17, [(62, 41)], [178, 177, 158, 159, 161, 160, 162, 163, 164, 165, 166, 167, 168, 169,
    170, 171, 172, 186, 187, 188]⟩,
  ⟨151, 17, [(62, 41)], [178, 177, 158, 159, 161, 160, 162, 163, 164, 165, 166, 167, 168, 169,
    170, 171, 172, 186, 187, 188]⟩,
  ⟨19, 14, [], [61, 74, 62, 54, 55, 56, 57, 58, 67, 68, 69, 70, 71, 72, 73, 76, 77, 78, 79, 80,
    81, 82, 83, 84, 85, 86, 87, 88, 89, 90, 91, 92, 93, 94, 95, 96, 97, 98, 99, 60, 59, 580, 52,
    53, 66, 150, 65, 64, 63, 75]⟩,
  ⟨16, 14, [], [61, 74, 62, 54, 55, 56, 57, 58, 67, 68, 69, 70, 71, 72, 73, 76, 77, 78, 79, 80,
    81, 82, 83, 84, 85, 86, 87, 88, 89, 90, 91, 92, 93, 94, 95, 96, 97, 98, 99, 60, 59, 581, 52,
    53, 66, 150, 65, 64, 63, 75]⟩,
  ⟨19, 14, [], [61, 74, 62, 54, 55, 56, 57, 58, 67, 68, 69, 70, 71, 72, 73, 76, 77, 78, 79, 80,
    81, 82, 83, 84, 85, 86, 87, 88, 89, 90, 91, 92, 93, 94, 95, 96, 97, 98, 99, 60, 59, 582, 52,
    53, 66, 150, 65, 64, 63, 75]⟩,
  ⟨16, 14, [], [61, 74, 62, 54, 55, 56, 57, 58, 67, 68, 69, 70, 71, 72, 73, 76, 77, 78, 79, 80,
    81, 82, 83, 84, 85, 86, 87, 88, 89, 90, 91, 92, 93, 94, 95, 96, 97, 98, 99, 60, 59, 583, 52,
    53, 66, 150, 65, 64, 63, 75]⟩,
  ⟨151, 17, [(63, 42)], [158, 159, 161, 160, 162, 163, 164, 165, 166, 167, 188, 584]⟩,
  ⟨151, 16, [(64, 33)], [178, 177, 179, 180, 181, 182, 183, 184, 185, 158, 159, 161, 160, 162,
    163, 164, 165, 166, 167, 168, 169, 170, 171, 172, 173, 174, 175, 176, 186, 187, 188]⟩,
  ⟨78, 14, [], [61, 74, 62, 54, 55, 56, 57, 58, 67, 68, 69, 70, 71, 72, 73, 76, 77, 78, 79, 80,
    81, 82, 83, 84, 85, 86, 87, 88, 89, 90, 91, 92, 93, 94, 95, 96, 97, 98, 99, 60, 59, 585, 52,
    53, 66, 150, 65, 64, 63, 75]⟩,
  ⟨76, 18, [(65, 6)], []⟩,
  ⟨150, 69, [], [588, 238, 237, 239, 240, 241, 242, 243, 244, 245, 246, 586, 218, 219, 221, 220,
    222, 223, 224, 225, 226, 227, 228, 229, 230, 231, 232, 233, 234, 235, 236, 247, 248, 249,
    587]⟩,
  ⟨50, 20, [(65, 6)], [589]⟩,
  ⟨190, 70, [], [405, 590, 591]⟩,
  ⟨10, 14, [], [61, 74, 62, 105, 106, 107, 108, 109, 67, 68, 69, 70, 71, 72, 73, 76, 77, 78, 79,
    80, 81, 82, 83, 84, 85, 86, 87, 88, 89, 90, 91, 92, 93, 94, 95, 96, 97, 98, 99, 60, 59, 592,
    103, 104, 66, 150, 65, 64, 63, 75]⟩,
  ⟨150, 18, [(66, 43)], [221, 222, 223, 224, 225, 226]⟩,
  ⟨150, 18, [(66, 43)], [221, 222, 223, 224, 225, 226]⟩,
  ⟨150, 18, [(66, 43)], [221, 222, 223, 224, 225, 226]⟩,
  ⟨150, 18, [(66, 43)], [221, 222, 223, 224, 225, 226]⟩,
  ⟨150, 18, [(66, 44)], [238, 237, 239, 240, 241, 242, 243, 244, 245, 246, 218, 219, 221, 220,
    222, 223, 224, 225, 226, 227, 228, 229, 230, 231, 232, 235, 236, 247, 248, 249]⟩,
  ⟨150, 18, [(66, 44)], [238, 237, 239, 240, 241, 242, 243, 244, 245, 246, 218, 219, 221, 220,
    222, 223, 224, 225, 226, 227, 228, 229, 230, 231, 232, 235, 236, 247, 248, 249]⟩,
  ⟨150, 18, [(66, 45)], [218, 219, 221, 220, 222, 223, 224, 225, 226]⟩,
  ⟨41, 18, [(67, 6)], []⟩,
  ⟨10, 14, [], [61, 74, 62, 105, 106, 107, 108, 109, 67, 68, 69, 70, 71, 72, 73, 76, 77, 78, 79,
    80, 81, 82, 83, 84, 85, 86, 87, 88, 89, 90, 91, 92, 93, 94, 95, 96, 97, 98, 99, 60, 59, 595,
    103, 104, 66, 150, 65, 593, 594, 63, 75]⟩,
  ⟨150, 46, [], [598, 238, 237, 239, 240, 241, 242, 243, 244, 245, 246, 596, 218, 219, 221, 220,
    222, 223, 224, 225, 226, 227, 228, 229, 230, 231, 232, 233, 234, 235, 236, 247, 248, 249,
    597]⟩,
  ⟨50, 20, [(68, 46)], []⟩,
  ⟨150, 25, [], [599, 250, 238, 237, 239, 240, 241, 242, 243, 244, 245, 246, 218, 219, 221, 220,
    222, 223, 224, 225, 226, 227, 228, 229, 230, 231, 232, 233, 234, 235, 236, 247, 248, 249,
    600]⟩,
  ⟨3, 38, [(69, 10)], []⟩,
  ⟨173, 49, [], [601, 250, 423]⟩,
  ⟨3, 38, [(69, 10)], []⟩,
  ⟨173, 49, [], [602, 250, 423]⟩,
  ⟨3, 38, [(69, 10)], []⟩,
  ⟨173, 49, [(70, 47)], [250, 423]⟩,
  ⟨150, 18, [(71, 43)], [221, 222, 223, 224, 225, 226]⟩,
  ⟨150, 18, [(71, 43)], [221, 222, 223, 224, 225, 226]⟩,
  ⟨150, 18, [(71, 43)], [221, 222, 223, 224, 225, 226]⟩,
  ⟨150, 18, [(71, 18)], [225, 226]⟩,
  ⟨150, 18, [(71, 18)], [225, 226]⟩,
  ⟨150, 18, [(71, 18)], [225, 226]⟩,
  ⟨150, 18, [(71, 18)], [225, 226]⟩,
  ⟨150, 18, [(71, 18)], [225, 226]⟩,
  ⟨150, 18, [(71, 18)], [225, 226]⟩,
  ⟨150, 18, [(71, 45)], [218, 219, 221, 220, 222, 223, 224, 225, 226]⟩,
  ⟨150, 18, [(71, 48)], [218, 219, 221, 220, 222, 223, 224, 225, 226, 227, 231, 232, 249]⟩,
  ⟨150, 18, [(71, 48)], [218, 219, 221, 220, 222, 223, 224, 225, 226, 227, 231, 232, 249]⟩,
  ⟨150, 18, [(71, 48)], [218, 219, 221, 220, 222, 223, 224, 225, 226, 227, 231, 232, 249]⟩,
  ⟨150, 18, [(71, 49)], [218, 219, 221, 220, 222, 223, 224, 225, 226, 227, 232, 249]⟩,
  ⟨150, 18, [(71, 50)], [218, 219, 221, 220, 222, 223, 224, 225, 226, 227, 249]⟩,
  ⟨150, 18, [(71, 44)], [238, 237, 239, 240, 241, 242, 243, 244, 245, 246, 218, 219, 221, 220,
    222, 223, 224, 225, 226, 227, 228, 229, 230, 231, 232, 235, 236, 247, 248, 249]⟩,
  ⟨150, 18, [(71, 44)], [238, 237, 239, 240, 241, 242, 243, 244, 245, 246, 218, 219, 221, 220,
    222, 223, 224, 225, 226, 227, 228, 229, 230, 231, 232, 235, 236, 247, 248, 249]⟩,
  ⟨150, 18, [(71, 51)], [238, 237, 239, 240, 241, 242, 243, 244, 245, 246, 218, 219, 221, 220,
    222, 223, 224, 225, 226, 227, 228, 229, 230, 231, 232, 247, 248, 249]⟩,
  ⟨150, 18, [(71, 51)], [238, 237, 239, 240, 241, 242, 243, 244, 245, 246, 218, 219, 221, 220,
    222, 223, 224, 225, 226, 227, 228, 229, 230, 231, 232, 247, 248, 249]⟩,
  ⟨150, 18, [(71, 19)], [218, 219, 221, 220, 222, 223, 224, 225, 226, 227, 228, 229, 230, 231,
    232, 249]⟩,
  ⟨150, 18, [(71, 19)], [218, 219, 221, 220, 222, 223, 224, 225, 226, 227, 228, 229, 230, 231,
    232, 249]⟩,
  ⟨150, 18, [(71, 52)], [238, 237, 218, 219, 221, 220, 222, 223, 224, 225, 226, 227, 228, 229,
    230, 231, 232, 247, 248, 249]⟩,
  ⟨150, 18, [(71, 52)], [238, 237, 218, 219, 221, 220, 222, 223, 224, 225, 226, 227, 228, 229,
    230, 231, 232, 247, 248, 249]⟩,
  ⟨150, 18, [(71, 52)], [238, 237, 218, 219, 221, 220, 222, 223, 224, 225, 226, 227, 228, 229,
    230, 231, 232, 247, 248, 249]⟩]

/-- States 448 to 511. -/
def page7 : Array Row := #[
  ⟨150, 18, [(71, 52)], [238, 237, 218, 219, 221, 220, 222, 223, 224, 225, 226, 227, 228, 229,
    230, 231, 232, 247, 248, 249]⟩,
  ⟨150, 18, [(71, 52)], [238, 237, 218, 219, 221, 220, 222, 223, 224, 225, 226, 227, 228, 229,
    230, 231, 232, 247, 248, 249]⟩,
  ⟨150, 18, [(71, 52)], [238, 237, 218, 219, 221, 220, 222, 223, 224, 225, 226, 227, 228, 229,
    230, 231, 232, 247, 248, 249]⟩,
  ⟨150, 18, [(71, 52)], [238, 237, 218, 219, 221, 220, 222, 223, 224, 225, 226, 227, 228, 229,
    230, 231, 232, 247, 248, 249]⟩,
  ⟨150, 18, [(71, 52)], [238, 237, 218, 219, 221, 220, 222, 223, 224, 225, 226, 227, 228, 229,
    230, 231, 232, 247, 248, 249]⟩,
  ⟨19, 14, [], [61, 74, 62, 105, 106, 107, 108, 109, 67, 68, 69, 70, 71, 72, 73, 76, 77, 78, 79,
    80, 81, 82, 83, 84, 85, 86, 87, 88, 89, 90, 91, 92, 93, 94, 95, 96, 97, 98, 99, 60, 59, 603,
    103, 104, 66, 150, 65, 64, 63, 75]⟩,
  ⟨16, 14, [], [61, 74, 62, 105, 106, 107, 108, 109, 67, 68, 69, 70, 71, 72, 73, 76, 77, 78, 79,
    80, 81, 82, 83, 84, 85, 86, 87, 88, 89, 90, 91, 92, 93, 94, 95, 96, 97, 98, 99, 60, 59, 604,
    103, 104, 66, 150, 65, 64, 63, 75]⟩,
  ⟨19, 14, [], [61, 74, 62, 105, 106, 107, 108, 109, 67, 68, 69, 70, 71, 72, 73, 76, 77, 78, 79,
    80, 81, 82, 83, 84, 85, 86, 87, 88, 89, 90, 91, 92, 93, 94, 95, 96, 97, 98, 99, 60, 59, 605,
    103, 104, 66, 150, 65, 64, 63, 75]⟩,
  ⟨16, 14, [], [61, 74, 62, 105, 106, 107, 108, 109, 67, 68, 69, 70, 71, 72, 73, 76, 77, 78, 79,
    80, 81, 82, 83, 84, 85, 86, 87, 88, 89, 90, 91, 92, 93, 94, 95, 96, 97, 98, 99, 60, 59, 606,
    103, 104, 66, 150, 65, 64, 63, 75]⟩,
  ⟨150, 18, [(72, 53)], [218, 219, 221, 220, 222, 223, 224, 225, 226, 227, 249, 607]⟩,
  ⟨150, 25, [(70, 47)], [238, 237, 239, 240, 241, 242, 243, 244, 245, 246, 218, 219, 221, 220,
    222, 223, 224, 225, 226, 227, 228, 229, 230, 231, 232, 233, 234, 235, 236, 247, 248, 249]⟩,
  ⟨78, 14, [], [61, 74, 62, 105, 106, 107, 108, 109, 67, 68, 69, 70, 71, 72, 73, 76, 77, 78, 79,
    80, 81, 82, 83, 84, 85, 86, 87, 88, 89, 90, 91, 92, 93, 94, 95, 96, 97, 98, 99, 60, 59, 608,
    103, 104, 66, 150, 65, 64, 63, 75]⟩,
  ⟨150, 27, [], [609, 238, 237, 239, 240, 241, 242, 243, 244, 245, 246, 218, 219, 221, 220, 222,
    223, 224, 225, 226, 227, 228, 229, 230, 231, 232, 233, 234, 235, 236, 247, 248, 249]⟩,
  ⟨3, 38, [(73, 10)], []⟩,
  ⟨3, 38, [(73, 10)], []⟩,
  ⟨152, 71, [], [610, 472, 473, 475, 474, 476, 477, 478, 479, 480]⟩,
  ⟨152, 71, [], [611, 472, 473, 475, 474, 476, 477, 478, 479, 480]⟩,
  ⟨152, 50, [], [612, 614, 613, 615, 472, 473, 475, 474, 476, 477, 478, 479, 480]⟩,
  ⟨32, 28, [], [61, 74, 62, 268, 269, 270, 67, 68, 69, 70, 71, 72, 73, 76, 77, 78, 79, 80, 81, 82,
    83, 84, 85, 86, 87, 88, 89, 90, 91, 92, 93, 94, 95, 96, 97, 98, 99, 60, 59, 616, 266, 267, 66,
    150, 65, 64, 63, 75]⟩,
  ⟨32, 28, [], [61, 74, 62, 268, 269, 270, 67, 68, 69, 70, 71, 72, 73, 76, 77, 78, 79, 80, 81, 82,
    83, 84, 85, 86, 87, 88, 89, 90, 91, 92, 93, 94, 95, 96, 97, 98, 99, 60, 59, 617, 266, 267, 66,
    150, 65, 64, 63, 75]⟩,
  ⟨10, 72, [], [619, 618, 620]⟩,
  ⟨22, 28, [], [61, 74, 62, 268, 269, 270, 67, 68, 69, 70, 71, 72, 73, 76, 77, 78, 79, 80, 81, 82,
    83, 84, 85, 86, 87, 88, 89, 90, 91, 92, 93, 94, 95, 96, 97, 98, 99, 60, 59, 621, 266, 267, 66,
    150, 65, 64, 63, 75]⟩,
  ⟨21, 28, [], [61, 74, 62, 268, 269, 270, 67, 68, 69, 70, 71, 72, 73, 76, 77, 78, 79, 80, 81, 82,
    83, 84, 85, 86, 87, 88, 89, 90, 91, 92, 93, 94, 95, 96, 97, 98, 99, 60, 59, 622, 266, 267, 66,
    150, 65, 64, 63, 75]⟩,
  ⟨24, 28, [], [61, 74, 62, 268, 269, 270, 67, 68, 69, 70, 71, 72, 73, 76, 77, 78, 79, 80, 81, 82,
    83, 84, 85, 86, 87, 88, 89, 90, 91, 92, 93, 94, 95, 96, 97, 98, 99, 60, 59, 623, 266, 267, 66,
    150, 65, 64, 63, 75]⟩,
  ⟨51, 28, [], [61, 74, 62, 268, 269, 270, 67, 68, 69, 70, 71, 72, 73, 76, 77, 78, 79, 80, 81, 82,
    83, 84, 85, 86, 87, 88, 89, 90, 91, 92, 93, 94, 95, 96, 97, 98, 99, 60, 59, 624, 266, 267, 66,
    150, 65, 64, 63, 75]⟩,
  ⟨52, 28, [], [61, 74, 62, 268, 269, 270, 67, 68, 69, 70, 71, 72, 73, 76, 77, 78, 79, 80, 81, 82,
    83, 84, 85, 86, 87, 88, 89, 90, 91, 92, 93, 94, 95, 96, 97, 98, 99, 60, 59, 625, 266, 267, 66,
    150, 65, 64, 63, 75]⟩,
  ⟨56, 28, [], [61, 74, 62, 268, 269, 270, 67, 68, 69, 70, 71, 72, 73, 76, 77, 78, 79, 80, 81, 82,
    83, 84, 85, 86, 87, 88, 89, 90, 91, 92, 93, 94, 95, 96, 97, 98, 99, 60, 59, 626, 266, 267, 66,
    150, 65, 64, 63, 75]⟩,
  ⟨55, 28, [], [61, 74, 62, 268, 269, 270, 67, 68, 69, 70, 71, 72, 73, 76, 77, 78, 79, 80, 81, 82,
    83, 84, 85, 86, 87, 88, 89, 90, 91, 92, 93, 94, 95, 96, 97, 98, 99, 60, 59, 627, 266, 267, 66,
    150, 65, 64, 63, 75]⟩,
  ⟨57, 28, [], [61, 74, 62, 268, 269, 270, 67, 68, 69, 70, 71, 72, 73, 76, 77, 78, 79, 80, 81, 82,
    83, 84, 85, 86, 87, 88, 89, 90, 91, 92, 93, 94, 95, 96, 97, 98, 99, 60, 59, 628, 266, 267, 66,
    150, 65, 64, 63, 75]⟩,
  ⟨58, 28, [], [61, 74, 62, 268, 269, 270, 67, 68, 69, 70, 71, 72, 73, 76, 77, 78, 79, 80, 81, 82,
    83, 84, 85, 86, 87, 88, 89, 90, 91, 92, 93, 94, 95, 96, 97, 98, 99, 60, 59, 629, 266, 267, 66,
    150, 65, 64, 63, 75]⟩,
  ⟨59, 28, [], [61, 74, 62, 268, 269, 270, 67, 68, 69, 70, 71, 72, 73, 76, 77, 78, 79, 80, 81, 82,
    83, 84, 85, 86, 87, 88, 89, 90, 91, 92, 93, 94, 95, 96, 97, 98, 99, 60, 59, 630, 266, 267, 66,
    150, 65, 64, 63, 75]⟩,
  ⟨60, 28, [], [61, 74, 62, 268, 269, 270, 67, 68, 69, 70, 71, 72, 73, 76, 77, 78, 79, 80, 81, 82,
    83, 84, 85, 86, 87, 88, 89, 90, 91, 92, 93, 94, 95, 96, 97, 98, 99, 60, 59, 631, 266, 267, 66,
    150, 65, 64, 63, 75]⟩,
  ⟨61, 28, [], [61, 74, 62, 268, 269, 270, 67, 68, 69, 70, 71, 72, 73, 76, 77, 78, 79, 80, 81, 82,
    83, 84, 85, 86, 87, 88, 89, 90, 91, 92, 93, 94, 95, 96, 97, 98, 99, 60, 59, 632, 266, 267, 66,
    150, 65, 64, 63, 75]⟩,
  ⟨152, 51, [(74, 54)], [479, 480]⟩,
  ⟨152, 51, [(74, 54)], [479, 480]⟩,
  ⟨150, 45, [], [238, 237, 239, 240, 241, 242, 243, 244, 245, 246, 218, 219, 221, 220, 222, 223,
    224, 225, 226, 227, 228, 229, 230, 231, 232, 233, 234, 235, 236, 247, 248, 249, 633]⟩,
  ⟨3, 1, [(75, 1)], []⟩,
  ⟨172, 31, [(76, 21)], [275, 277, 278, 279, 280, 281, 282, 283, 284, 285, 286, 287, 288, 289,
    290, 291, 292, 293, 274, 276, 485]⟩,
  ⟨126, 31, [(77, 21)], []⟩,
  ⟨112, 31, [(78, 21)], []⟩,
  ⟨150, 73, [(78, 21)], [218, 219, 221, 220, 222, 223, 224, 225, 226, 227, 228, 229, 230, 231,
    232, 233, 234, 235, 236, 247, 248, 249]⟩,
  ⟨150, 73, [(78, 21)], [218, 219, 221, 220, 222, 223, 224, 225, 226, 227, 228, 229, 230, 231,
    232, 233, 234, 235, 236, 247, 248, 249]⟩,
  ⟨150, 73, [(78, 21)], [218, 219, 221, 220, 222, 223, 224, 225, 226, 227, 228, 229, 230, 231,
    232, 233, 234, 235, 236, 247, 248, 249]⟩,
  ⟨150, 73, [(78, 21)], [218, 219, 221, 220, 222, 223, 224, 225, 226, 227, 228, 229, 230, 231,
    232, 233, 234, 235, 236, 247, 248, 249]⟩,
  ⟨150, 73, [(79, 21)], [218, 219, 221, 220, 222, 223, 224, 225, 226, 227, 228, 229, 230, 231,
    232, 233, 234, 235, 236, 247, 248, 249]⟩,
  ⟨150, 73, [(79, 21)], [218, 219, 221, 220, 222, 223, 224, 225, 226, 227, 228, 229, 230, 231,
    232, 233, 234, 235, 236, 247, 248, 249]⟩,
  ⟨150, 73, [(79, 21)], [218, 219, 221, 220, 222, 223, 224, 225, 226, 227, 228, 229, 230, 231,
    232, 233, 234, 235, 236, 247, 248, 249]⟩,
  ⟨150, 73, [(79, 21)], [218, 219, 221, 220, 222, 223, 224, 225, 226, 227, 228, 229, 230, 231,
    232, 233, 234, 235, 236, 247, 248, 249]⟩,
  ⟨150, 73, [(79, 21)], [218, 219, 221, 220, 222, 223, 224, 225, 226, 227, 228, 229, 230, 231,
    232, 233, 234, 235, 236, 247, 248, 249]⟩,
  ⟨150, 73, [(79, 21)], [218, 219, 221, 220, 222, 223, 224, 225, 226, 227, 228, 229, 230, 231,
    232, 233, 234, 235, 236, 247, 248, 249]⟩,
  ⟨150, 73, [(79, 21)], [218, 219, 221, 220, 222, 223, 224, 225, 226, 227, 228, 229, 230, 231,
    232, 233, 234, 235, 236, 247, 248, 249]⟩,
  ⟨150, 73, [(79, 21)], [218, 219, 221, 220, 222, 223, 224, 225, 226, 227, 228, 229, 230, 231,
    232, 233, 234, 235, 236, 247, 248, 249]⟩,
  ⟨3, 1, [(80, 1)], []⟩,
  ⟨171, 31, [(81, 21)], [275, 277, 278, 279, 280, 281, 282, 283, 284, 285, 286, 287, 288, 289,
    290, 291, 292, 293, 296, 276, 501]⟩,
  ⟨3, 1, [(82, 1)], []⟩,
  ⟨170, 31, [(83, 21)], [275, 277, 278, 279, 280, 281, 282, 283, 284, 285, 286, 287, 288, 289,
    290, 291, 292, 293, 299, 276, 503]⟩,
  ⟨149, 74, [], [302, 304, 309, 305, 310, 313, 312, 314, 303, 307, 308, 306, 311, 634]⟩,
  ⟨3, 3, [(84, 3)], []⟩,
  ⟨183, 54, [(85, 22)], [302, 304, 309, 305, 310, 313, 312, 314, 303, 307, 308, 306, 311, 506]⟩,
  ⟨142, 54, [(86, 22)], []⟩,
  ⟨148, 75, [], [635]⟩,
  ⟨149, 76, [(87, 55)], [637, 636]⟩,
  ⟨55, 76, [(87, 55)], [637, 638]⟩,
  ⟨10, 33, [], [313, 312, 314, 639]⟩]

/-- States 512 to 575. -/
def page8 : Array Row := #[
  ⟨149, 59, [(88, 25)], []⟩,
  ⟨184, 77, [], [640, 313, 312, 314, 514, 641]⟩,
  ⟨149, 77, [(89, 56)], []⟩,
  ⟨32, 57, [(90, 24)], []⟩,
  ⟨145, 4, [], [642]⟩,
  ⟨32, 5, [], [643]⟩,
  ⟨17, 33, [], [313, 312, 314, 644, 311]⟩,
  ⟨186, 78, [], [520, 645, 313, 312, 314, 521, 646]⟩,
  ⟨10, 33, [], [313, 312, 314, 647]⟩,
  ⟨149, 78, [(91, 57)], []⟩,
  ⟨181, 63, [], [648, 320, 322, 309, 323, 310, 313, 312, 314, 321, 325, 326, 324, 311, 524]⟩,
  ⟨3, 3, [(92, 3)], []⟩,
  ⟨181, 63, [(93, 27)], [320, 322, 309, 323, 310, 313, 312, 314, 321, 325, 326, 324, 311, 524]⟩,
  ⟨139, 63, [(94, 27)], []⟩,
  ⟨148, 79, [], [649]⟩,
  ⟨182, 80, [(95, 58)], [528, 529, 530, 313, 312, 314, 531, 650]⟩,
  ⟨17, 80, [(96, 59)], []⟩,
  ⟨51, 80, [(96, 59)], []⟩,
  ⟨52, 80, [(96, 59)], []⟩,
  ⟨149, 80, [(96, 59)], []⟩,
  ⟨149, 81, [], [653, 651, 652]⟩,
  ⟨3, 1, [(97, 1)], []⟩,
  ⟨3, 1, [(97, 1)], []⟩,
  ⟨179, 65, [], [61, 654, 74, 62, 337, 338, 109, 67, 68, 69, 70, 71, 72, 73, 76, 77, 78, 79, 80,
    81, 82, 83, 84, 85, 86, 87, 88, 89, 90, 91, 92, 93, 94, 95, 96, 97, 98, 99, 60, 59, 334, 335,
    336, 66, 150, 65, 64, 63, 75, 537]⟩,
  ⟨32, 14, [], [61, 74, 62, 105, 106, 107, 108, 109, 67, 68, 69, 70, 71, 72, 73, 76, 77, 78, 79,
    80, 81, 82, 83, 84, 85, 86, 87, 88, 89, 90, 91, 92, 93, 94, 95, 96, 97, 98, 99, 60, 59, 655,
    103, 104, 66, 150, 65, 64, 63, 75]⟩,
  ⟨179, 65, [(98, 60)], [61, 74, 62, 337, 338, 109, 67, 68, 69, 70, 71, 72, 73, 76, 77, 78, 79,
    80, 81, 82, 83, 84, 85, 86, 87, 88, 89, 90, 91, 92, 93, 94, 95, 96, 97, 98, 99, 60, 59, 334,
    335, 336, 66, 150, 65, 64, 63, 75, 537]⟩,
  ⟨51, 28, [], [61, 74, 62, 337, 338, 109, 67, 68, 69, 70, 71, 72, 73, 76, 77, 78, 79, 80, 81, 82,
    83, 84, 85, 86, 87, 88, 89, 90, 91, 92, 93, 94, 95, 96, 97, 98, 99, 60, 59, 656, 335, 336, 66,
    150, 65, 64, 63, 75]⟩,
  ⟨52, 28, [], [61, 74, 62, 337, 338, 109, 67, 68, 69, 70, 71, 72, 73, 76, 77, 78, 79, 80, 81, 82,
    83, 84, 85, 86, 87, 88, 89, 90, 91, 92, 93, 94, 95, 96, 97, 98, 99, 60, 59, 657, 335, 336, 66,
    150, 65, 64, 63, 75]⟩,
  ⟨56, 28, [], [61, 74, 62, 337, 338, 109, 67, 68, 69, 70, 71, 72, 73, 76, 77, 78, 79, 80, 81, 82,
    83, 84, 85, 86, 87, 88, 89, 90, 91, 92, 93, 94, 95, 96, 97, 98, 99, 60, 59, 658, 335, 336, 66,
    150, 65, 64, 63, 75]⟩,
  ⟨55, 28, [], [61, 74, 62, 337, 338, 109, 67, 68, 69, 70, 71, 72, 73, 76, 77, 78, 79, 80, 81, 82,
    83, 84, 85, 86, 87, 88, 89, 90, 91, 92, 93, 94, 95, 96, 97, 98, 99, 60, 59, 659, 335, 336, 66,
    150, 65, 64, 63, 75]⟩,
  ⟨57, 28, [], [61, 74, 62, 337, 338, 109, 67, 68, 69, 70, 71, 72, 73, 76, 77, 78, 79, 80, 81, 82,
    83, 84, 85, 86, 87, 88, 89, 90, 91, 92, 93, 94, 95, 96, 97, 98, 99, 60, 59, 660, 335, 336, 66,
    150, 65, 64, 63, 75]⟩,
  ⟨58, 28, [], [61, 74, 62, 337, 338, 109, 67, 68, 69, 70, 71, 72, 73, 76, 77, 78, 79, 80, 81, 82,
    83, 84, 85, 86, 87, 88, 89, 90, 91, 92, 93, 94, 95, 96, 97, 98, 99, 60, 59, 661, 335, 336, 66,
    150, 65, 64, 63, 75]⟩,
  ⟨59, 28, [], [61, 74, 62, 337, 338, 109, 67, 68, 69, 70, 71, 72, 73, 76, 77, 78, 79, 80, 81, 82,
    83, 84, 85, 86, 87, 88, 89, 90, 91, 92, 93, 94, 95, 96, 97, 98, 99, 60, 59, 662, 335, 336, 66,
    150, 65, 64, 63, 75]⟩,
  ⟨60, 28, [], [61, 74, 62, 337, 338, 109, 67, 68, 69, 70, 71, 72, 73, 76, 77, 78, 79, 80, 81, 82,
    83, 84, 85, 86, 87, 88, 89, 90, 91, 92, 93, 94, 95, 96, 97, 98, 99, 60, 59, 663, 335, 336, 66,
    150, 65, 64, 63, 75]⟩,
  ⟨61, 28, [], [61, 74, 62, 337, 338, 109, 67, 68, 69, 70, 71, 72, 73, 76, 77, 78, 79, 80, 81, 82,
    83, 84, 85, 86, 87, 88, 89, 90, 91, 92, 93, 94, 95, 96, 97, 98, 99, 60, 59, 664, 335, 336, 66,
    150, 65, 64, 63, 75]⟩,
  ⟨62, 28, [], [61, 74, 62, 337, 338, 109, 67, 68, 69, 70, 71, 72, 73, 76, 77, 78, 79, 80, 81, 82,
    83, 84, 85, 86, 87, 88, 89, 90, 91, 92, 93, 94, 95, 96, 97, 98, 99, 60, 59, 665, 335, 336, 66,
    150, 65, 64, 63, 75]⟩,
  ⟨153, 66, [(99, 61)], [545, 546]⟩,
  ⟨153, 66, [(99, 61)], [545, 546]⟩,
  ⟨32, 82, [], [666, 667]⟩,
  ⟨176, 65, [(100, 60)], [61, 74, 62, 337, 338, 109, 67, 68, 69, 70, 71, 72, 73, 76, 77, 78, 79,
    80, 81, 82, 83, 84, 85, 86, 87, 88, 89, 90, 91, 92, 93, 94, 95, 96, 97, 98, 99, 60, 59, 340,
    335, 336, 66, 150, 65, 64, 63, 75, 551]⟩,
  ⟨175, 67, [], [23, 22, 21, 20, 668, 142, 143, 144, 145, 344, 554]⟩,
  ⟨41, 38, [(101, 10)], []⟩,
  ⟨175, 67, [(102, 31)], [23, 22, 21, 20, 142, 143, 144, 145, 344, 554]⟩,
  ⟨150, 83, [], [238, 237, 239, 240, 241, 242, 243, 244, 245, 246, 669, 218, 219, 221, 220, 222,
    223, 224, 225, 226, 227, 228, 229, 230, 231, 232, 233, 234, 235, 236, 247, 248, 249]⟩,
  ⟨32, 14, [], [61, 74, 62, 105, 106, 107, 108, 109, 67, 68, 69, 70, 71, 72, 73, 76, 77, 78, 79,
    80, 81, 82, 83, 84, 85, 86, 87, 88, 89, 90, 91, 92, 93, 94, 95, 96, 97, 98, 99, 60, 59, 670,
    103, 104, 66, 150, 65, 64, 63, 75]⟩,
  ⟨41, 68, [(103, 32)], []⟩,
  ⟨189, 40, [(104, 12)], [348, 558]⟩,
  ⟨160, 40, [(104, 12)], []⟩,
  ⟨150, 42, [(105, 12)], [238, 237, 239, 240, 241, 242, 243, 244, 245, 246, 218, 219, 221, 220,
    222, 223, 224, 225, 226, 227, 228, 229, 230, 231, 232, 233, 234, 235, 236, 247, 248, 249]⟩,
  ⟨150, 42, [(105, 12)], [238, 237, 239, 240, 241, 242, 243, 244, 245, 246, 218, 219, 221, 220,
    222, 223, 224, 225, 226, 227, 228, 229, 230, 231, 232, 233, 234, 235, 236, 247, 248, 249]⟩,
  ⟨25, 14, [], [61, 74, 62, 105, 106, 107, 108, 109, 67, 68, 69, 70, 71, 72, 73, 76, 77, 78, 79,
    80, 81, 82, 83, 84, 85, 86, 87, 88, 89, 90, 91, 92, 93, 94, 95, 96, 97, 98, 99, 60, 59, 671,
    103, 104, 66, 150, 65, 64, 63, 75]⟩,
  ⟨38, 14, [], [61, 74, 62, 105, 106, 107, 108, 109, 67, 68, 69, 70, 71, 72, 73, 76, 77, 78, 79,
    80, 81, 82, 83, 84, 85, 86, 87, 88, 89, 90, 91, 92, 93, 94, 95, 96, 97, 98, 99, 60, 59, 672,
    103, 104, 66, 150, 65, 64, 63, 75]⟩,
  ⟨3, 38, [(106, 10)], []⟩,
  ⟨174, 43, [], [675, 189, 673, 674, 365]⟩,
  ⟨150, 27, [], [676, 238, 237, 239, 240, 241, 242, 243, 244, 245, 246, 218, 219, 221, 220, 222,
    223, 224, 225, 226, 227, 228, 229, 230, 231, 232, 233, 234, 235, 236, 247, 248, 249]⟩,
  ⟨150, 27, [], [677, 238, 237, 239, 240, 241, 242, 243, 244, 245, 246, 218, 219, 221, 220, 222,
    223, 224, 225, 226, 227, 228, 229, 230, 231, 232, 233, 234, 235, 236, 247, 248, 249]⟩,
  ⟨25, 14, [], [61, 74, 62, 105, 106, 107, 108, 109, 67, 68, 69, 70, 71, 72, 73, 76, 77, 78, 79,
    80, 81, 82, 83, 84, 85, 86, 87, 88, 89, 90, 91, 92, 93, 94, 95, 96, 97, 98, 99, 60, 59, 678,
    103, 104, 66, 150, 65, 64, 63, 75]⟩,
  ⟨38, 14, [], [61, 74, 62, 105, 106, 107, 108, 109, 67, 68, 69, 70, 71, 72, 73, 76, 77, 78, 79,
    80, 81, 82, 83, 84, 85, 86, 87, 88, 89, 90, 91, 92, 93, 94, 95, 96, 97, 98, 99, 60, 59, 679,
    103, 104, 66, 150, 65, 64, 63, 75]⟩,
  ⟨3, 38, [(107, 10)], []⟩,
  ⟨150, 27, [], [680, 238, 237, 239, 240, 241, 242, 243, 244, 245, 246, 218, 219, 221, 220, 222,
    223, 224, 225, 226, 227, 228, 229, 230, 231, 232, 233, 234, 235, 236, 247, 248, 249]⟩,
  ⟨150, 27, [], [681, 238, 237, 239, 240, 241, 242, 243, 244, 245, 246, 218, 219, 221, 220, 222,
    223, 224, 225, 226, 227, 228, 229, 230, 231, 232, 233, 234, 235, 236, 247, 248, 249]⟩,
  ⟨25, 14, [], [61, 74, 62, 105, 106, 107, 108, 109, 67, 68, 69, 70, 71, 72, 73, 76, 77, 78, 79,
    80, 81, 82, 83, 84, 85, 86, 87, 88, 89, 90, 91, 92, 93, 94, 95, 96, 97, 98, 99, 60, 59, 682,
    103, 104, 66, 150, 65, 64, 63, 75]⟩,
  ⟨38, 14, [], [61, 74, 62, 105, 106, 107, 108, 109, 67, 68, 69, 70, 71, 72, 73, 76, 77, 78, 79,
    80, 81, 82, 83, 84, 85, 86, 87, 88, 89, 90, 91, 92, 93, 94, 95, 96, 97, 98, 99, 60, 59, 683,
    103, 104, 66, 150, 65, 64, 63, 75]⟩,
  ⟨3, 38, [(107, 10)], []⟩]

/-- States 576 to 639. -/
def page9 : Array Row := #[
  ⟨3, 38, [(108, 10)], []⟩,
  ⟨3, 38, [(108, 10)], []⟩,
  ⟨150, 27, [], [684, 238, 237, 239, 240, 241, 242, 243, 244, 245, 246, 218, 219, 221, 220, 222,
    223, 224, 225, 226, 227, 228, 229, 230, 231, 232, 233, 234, 235, 236, 247, 248, 249]⟩,
  ⟨150, 27, [], [685, 238, 237, 239, 240, 241, 242, 243, 244, 245, 246, 218, 219, 221, 220, 222,
    223, 224, 225, 226, 227, 228, 229, 230, 231, 232, 233, 234, 235, 236, 247, 248, 249]⟩,
  ⟨151, 17, [(109, 14)], [158, 159, 161, 160, 162, 163, 164, 165, 166, 167, 168, 169, 170, 171,
    172, 188]⟩,
  ⟨151, 17, [(109, 14)], [158, 159, 161, 160, 162, 163, 164, 165, 166, 167, 168, 169, 170, 171,
    172, 188]⟩,
  ⟨151, 17, [(109, 14)], [158, 159, 161, 160, 162, 163, 164, 165, 166, 167, 168, 169, 170, 171,
    172, 188]⟩,
  ⟨151, 17, [(109, 14)], [158, 159, 161, 160, 162, 163, 164, 165, 166, 167, 168, 169, 170, 171,
    172, 188]⟩,
  ⟨75, 14, [], [61, 74, 62, 54, 55, 56, 57, 58, 67, 68, 69, 70, 71, 72, 73, 76, 77, 78, 79, 80,
    81, 82, 83, 84, 85, 86, 87, 88, 89, 90, 91, 92, 93, 94, 95, 96, 97, 98, 99, 60, 59, 686, 52,
    53, 66, 150, 65, 64, 63, 75]⟩,
  ⟨151, 17, [(110, 62)], [178, 177, 179, 180, 181, 182, 183, 184, 185, 158, 159, 161, 160, 162,
    163, 164, 165, 166, 167, 168, 169, 170, 171, 172, 173, 174, 175, 176, 186, 187, 188, 687]⟩,
  ⟨46, 20, [(111, 46)], []⟩,
  ⟨191, 81, [], [588, 688, 689]⟩,
  ⟨10, 14, [], [61, 74, 62, 105, 106, 107, 108, 109, 67, 68, 69, 70, 71, 72, 73, 76, 77, 78, 79,
    80, 81, 82, 83, 84, 85, 86, 87, 88, 89, 90, 91, 92, 93, 94, 95, 96, 97, 98, 99, 60, 59, 690,
    103, 104, 66, 150, 65, 64, 63, 75]⟩,
  ⟨76, 18, [(112, 6)], []⟩,
  ⟨50, 18, [(113, 6)], []⟩,
  ⟨190, 70, [(114, 63)], [405, 591]⟩,
  ⟨150, 46, [(114, 63)], [238, 237, 239, 240, 241, 242, 243, 244, 245, 246, 218, 219, 221, 220,
    222, 223, 224, 225, 226, 227, 228, 229, 230, 231, 232, 233, 234, 235, 236, 247, 248, 249]⟩,
  ⟨163, 47, [(115, 15)], []⟩,
  ⟨164, 84, [(29, 15), (10, 64)], []⟩,
  ⟨150, 84, [(29, 15)], [238, 237, 239, 240, 241, 242, 243, 244, 245, 246, 218, 219, 221, 220,
    222, 223, 224, 225, 226, 227, 228, 229, 230, 231, 232, 233, 234, 235, 236, 247, 248, 249]⟩,
  ⟨50, 20, [(116, 46)], []⟩,
  ⟨192, 70, [], [598, 691, 692]⟩,
  ⟨10, 14, [], [61, 74, 62, 105, 106, 107, 108, 109, 67, 68, 69, 70, 71, 72, 73, 76, 77, 78, 79,
    80, 81, 82, 83, 84, 85, 86, 87, 88, 89, 90, 91, 92, 93, 94, 95, 96, 97, 98, 99, 60, 59, 693,
    103, 104, 66, 150, 65, 64, 63, 75]⟩,
  ⟨3, 38, [(117, 10)], []⟩,
  ⟨173, 49, [], [694, 250, 423]⟩,
  ⟨3, 38, [(117, 10)], []⟩,
  ⟨3, 38, [(117, 10)], []⟩,
  ⟨150, 18, [(118, 19)], [218, 219, 221, 220, 222, 223, 224, 225, 226, 227, 228, 229, 230, 231,
    232, 249]⟩,
  ⟨150, 18, [(118, 19)], [218, 219, 221, 220, 222, 223, 224, 225, 226, 227, 228, 229, 230, 231,
    232, 249]⟩,
  ⟨150, 18, [(118, 19)], [218, 219, 221, 220, 222, 223, 224, 225, 226, 227, 228, 229, 230, 231,
    232, 249]⟩,
  ⟨150, 18, [(118, 19)], [218, 219, 221, 220, 222, 223, 224, 225, 226, 227, 228, 229, 230, 231,
    232, 249]⟩,
  ⟨75, 14, [], [61, 74, 62, 105, 106, 107, 108, 109, 67, 68, 69, 70, 71, 72, 73, 76, 77, 78, 79,
    80, 81, 82, 83, 84, 85, 86, 87, 88, 89, 90, 91, 92, 93, 94, 95, 96, 97, 98, 99, 60, 59, 695,
    103, 104, 66, 150, 65, 64, 63, 75]⟩,
  ⟨150, 18, [(119, 65)], [238, 237, 239, 240, 241, 242, 243, 244, 245, 246, 218, 219, 221, 220,
    222, 223, 224, 225, 226, 227, 228, 229, 230, 231, 232, 233, 234, 235, 236, 247, 248, 249,
    696]⟩,
  ⟨3, 38, [(120, 10)], []⟩,
  ⟨3, 1, [(121, 1)], []⟩,
  ⟨3, 1, [(121, 1)], []⟩,
  ⟨10, 72, [], [698, 697, 699]⟩,
  ⟨22, 28, [], [61, 74, 62, 268, 269, 270, 67, 68, 69, 70, 71, 72, 73, 76, 77, 78, 79, 80, 81, 82,
    83, 84, 85, 86, 87, 88, 89, 90, 91, 92, 93, 94, 95, 96, 97, 98, 99, 60, 59, 700, 266, 267, 66,
    150, 65, 64, 63, 75]⟩,
  ⟨21, 28, [], [61, 74, 62, 268, 269, 270, 67, 68, 69, 70, 71, 72, 73, 76, 77, 78, 79, 80, 81, 82,
    83, 84, 85, 86, 87, 88, 89, 90, 91, 92, 93, 94, 95, 96, 97, 98, 99, 60, 59, 701, 266, 267, 66,
    150, 65, 64, 63, 75]⟩,
  ⟨24, 28, [], [61, 74, 62, 268, 269, 270, 67, 68, 69, 70, 71, 72, 73, 76, 77, 78, 79, 80, 81, 82,
    83, 84, 85, 86, 87, 88, 89, 90, 91, 92, 93, 94, 95, 96, 97, 98, 99, 60, 59, 702, 266, 267, 66,
    150, 65, 64, 63, 75]⟩,
  ⟨152, 50, [], [703, 705, 704, 706, 472, 473, 475, 474, 476, 477, 478, 479, 480]⟩,
  ⟨152, 50, [], [707, 709, 708, 710, 472, 473, 475, 474, 476, 477, 478, 479, 480]⟩,
  ⟨22, 28, [], [61, 74, 62, 268, 269, 270, 67, 68, 69, 70, 71, 72, 73, 76, 77, 78, 79, 80, 81, 82,
    83, 84, 85, 86, 87, 88, 89, 90, 91, 92, 93, 94, 95, 96, 97, 98, 99, 60, 59, 711, 266, 267, 66,
    150, 65, 64, 63, 75]⟩,
  ⟨21, 28, [], [61, 74, 62, 268, 269, 270, 67, 68, 69, 70, 71, 72, 73, 76, 77, 78, 79, 80, 81, 82,
    83, 84, 85, 86, 87, 88, 89, 90, 91, 92, 93, 94, 95, 96, 97, 98, 99, 60, 59, 712, 266, 267, 66,
    150, 65, 64, 63, 75]⟩,
  ⟨24, 28, [], [61, 74, 62, 268, 269, 270, 67, 68, 69, 70, 71, 72, 73, 76, 77, 78, 79, 80, 81, 82,
    83, 84, 85, 86, 87, 88, 89, 90, 91, 92, 93, 94, 95, 96, 97, 98, 99, 60, 59, 713, 266, 267, 66,
    150, 65, 64, 63, 75]⟩,
  ⟨152, 85, [], [717, 714, 715, 716, 472, 473, 475, 474, 476, 477, 478, 479, 480]⟩,
  ⟨152, 85, [], [721, 718, 719, 720, 472, 473, 475, 474, 476, 477, 478, 479, 480]⟩,
  ⟨152, 85, [], [725, 722, 723, 724, 472, 473, 475, 474, 476, 477, 478, 479, 480]⟩,
  ⟨152, 51, [(122, 66)], [475, 476, 477, 478, 479, 480]⟩,
  ⟨152, 51, [(122, 66)], [475, 476, 477, 478, 479, 480]⟩,
  ⟨152, 51, [(122, 66)], [475, 476, 477, 478, 479, 480]⟩,
  ⟨152, 51, [(122, 54)], [479, 480]⟩,
  ⟨152, 51, [(122, 54)], [479, 480]⟩,
  ⟨152, 51, [(122, 54)], [479, 480]⟩,
  ⟨152, 51, [(122, 54)], [479, 480]⟩,
  ⟨152, 51, [(122, 54)], [479, 480]⟩,
  ⟨152, 51, [(122, 54)], [479, 480]⟩,
  ⟨78, 28, [], [61, 74, 62, 268, 269, 270, 67, 68, 69, 70, 71, 72, 73, 76, 77, 78, 79, 80, 81, 82,
    83, 84, 85, 86, 87, 88, 89, 90, 91, 92, 93, 94, 95, 96, 97, 98, 99, 60, 59, 726, 266, 267, 66,
    150, 65, 64, 63, 75]⟩,
  ⟨183, 54, [], [727, 302, 304, 309, 305, 310, 313, 312, 314, 303, 307, 308, 306, 311, 506]⟩,
  ⟨46, 54, [(123, 22)], []⟩,
  ⟨188, 76, [(124, 55)], [637, 728]⟩,
  ⟨10, 56, [], [730, 313, 312, 314, 729]⟩,
  ⟨188, 76, [(124, 55)], [637, 728]⟩,
  ⟨149, 59, [(125, 25)], []⟩]

/-- States 640 to 703. -/
def page10 : Array Row := #[
  ⟨17, 86, [(126, 67)], [733, 313, 312, 314, 732, 731]⟩,
  ⟨184, 77, [(127, 56)], [313, 312, 314, 514, 641]⟩,
  ⟨3, 3, [(128, 3)], []⟩,
  ⟨9, 78, [], [520, 734, 313, 312, 314, 521, 735]⟩,
  ⟨146, 87, [(129, 68)], [511, 313, 312, 314, 512]⟩,
  ⟨17, 33, [], [313, 312, 314, 736, 311]⟩,
  ⟨186, 78, [(130, 57)], [520, 313, 312, 314, 521, 646]⟩,
  ⟨149, 78, [(130, 57)], []⟩,
  ⟨3, 3, [(131, 3)], []⟩,
  ⟨50, 63, [(132, 27)], []⟩,
  ⟨182, 80, [(133, 59)], [528, 529, 530, 313, 312, 314, 531, 650]⟩,
  ⟨46, 62, [(134, 69)], []⟩,
  ⟨187, 81, [], [653, 737, 738]⟩,
  ⟨10, 33, [], [313, 312, 314, 739]⟩,
  ⟨32, 14, [], [61, 74, 62, 105, 106, 107, 108, 109, 67, 68, 69, 70, 71, 72, 73, 76, 77, 78, 79,
    80, 81, 82, 83, 84, 85, 86, 87, 88, 89, 90, 91, 92, 93, 94, 95, 96, 97, 98, 99, 60, 59, 740,
    103, 104, 66, 150, 65, 64, 63, 75]⟩,
  ⟨150, 88, [(135, 68)], [743, 238, 237, 239, 240, 241, 242, 243, 244, 245, 246, 741, 218, 219,
    221, 220, 222, 223, 224, 225, 226, 227, 228, 229, 230, 231, 232, 233, 234, 235, 236, 247, 248,
    249, 742]⟩,
  ⟨153, 66, [(136, 70)], [541, 542, 543, 544, 545, 546]⟩,
  ⟨153, 66, [(136, 70)], [541, 542, 543, 544, 545, 546]⟩,
  ⟨153, 66, [(136, 70)], [541, 542, 543, 544, 545, 546]⟩,
  ⟨153, 66, [(136, 61)], [545, 546]⟩,
  ⟨153, 66, [(136, 61)], [545, 546]⟩,
  ⟨153, 66, [(136, 61)], [545, 546]⟩,
  ⟨153, 66, [(136, 61)], [545, 546]⟩,
  ⟨153, 66, [(136, 61)], [545, 546]⟩,
  ⟨153, 66, [(136, 61)], [545, 546]⟩,
  ⟨153, 66, [(136, 71)], [538, 539, 541, 540, 542, 543, 544, 545, 546]⟩,
  ⟨9, 89, [], [744]⟩,
  ⟨45, 5, [], [745]⟩,
  ⟨41, 38, [(137, 10)], []⟩,
  ⟨41, 68, [(138, 32)], []⟩,
  ⟨150, 83, [], [238, 237, 239, 240, 241, 242, 243, 244, 245, 246, 746, 218, 219, 221, 220, 222,
    223, 224, 225, 226, 227, 228, 229, 230, 231, 232, 233, 234, 235, 236, 247, 248, 249]⟩,
  ⟨150, 27, [], [747, 238, 237, 239, 240, 241, 242, 243, 244, 245, 246, 218, 219, 221, 220, 222,
    223, 224, 225, 226, 227, 228, 229, 230, 231, 232, 233, 234, 235, 236, 247, 248, 249]⟩,
  ⟨150, 27, [], [748, 238, 237, 239, 240, 241, 242, 243, 244, 245, 246, 218, 219, 221, 220, 222,
    223, 224, 225, 226, 227, 228, 229, 230, 231, 232, 233, 234, 235, 236, 247, 248, 249]⟩,
  ⟨25, 14, [], [61, 74, 62, 105, 106, 107, 108, 109, 67, 68, 69, 70, 71, 72, 73, 76, 77, 78, 79,
    80, 81, 82, 83, 84, 85, 86, 87, 88, 89, 90, 91, 92, 93, 94, 95, 96, 97, 98, 99, 60, 59, 749,
    103, 104, 66, 150, 65, 64, 63, 75]⟩,
  ⟨38, 14, [], [61, 74, 62, 105, 106, 107, 108, 109, 67, 68, 69, 70, 71, 72, 73, 76, 77, 78, 79,
    80, 81, 82, 83, 84, 85, 86, 87, 88, 89, 90, 91, 92, 93, 94, 95, 96, 97, 98, 99, 60, 59, 750,
    103, 104, 66, 150, 65, 64, 63, 75]⟩,
  ⟨3, 38, [(139, 10)], []⟩,
  ⟨3, 38, [(140, 10)], []⟩,
  ⟨3, 38, [(140, 10)], []⟩,
  ⟨150, 27, [], [751, 238, 237, 239, 240, 241, 242, 243, 244, 245, 246, 218, 219, 221, 220, 222,
    223, 224, 225, 226, 227, 228, 229, 230, 231, 232, 233, 234, 235, 236, 247, 248, 249]⟩,
  ⟨150, 27, [], [752, 238, 237, 239, 240, 241, 242, 243, 244, 245, 246, 218, 219, 221, 220, 222,
    223, 224, 225, 226, 227, 228, 229, 230, 231, 232, 233, 234, 235, 236, 247, 248, 249]⟩,
  ⟨3, 38, [(140, 10)], []⟩,
  ⟨3, 38, [(140, 10)], []⟩,
  ⟨150, 27, [], [753, 238, 237, 239, 240, 241, 242, 243, 244, 245, 246, 218, 219, 221, 220, 222,
    223, 224, 225, 226, 227, 228, 229, 230, 231, 232, 233, 234, 235, 236, 247, 248, 249]⟩,
  ⟨150, 27, [], [754, 238, 237, 239, 240, 241, 242, 243, 244, 245, 246, 218, 219, 221, 220, 222,
    223, 224, 225, 226, 227, 228, 229, 230, 231, 232, 233, 234, 235, 236, 247, 248, 249]⟩,
  ⟨3, 38, [(141, 10)], []⟩,
  ⟨3, 38, [(141, 10)], []⟩,
  ⟨151, 17, [(142, 38)], [158, 159, 161, 160, 162, 163, 164, 165, 166, 167, 188]⟩,
  ⟨79, 14, [], [61, 74, 62, 54, 55, 56, 57, 58, 67, 68, 69, 70, 71, 72, 73, 76, 77, 78, 79, 80,
    81, 82, 83, 84, 85, 86, 87, 88, 89, 90, 91, 92, 93, 94, 95, 96, 97, 98, 99, 60, 59, 755, 52,
    53, 66, 150, 65, 64, 63, 75]⟩,
  ⟨46, 20, [(143, 46)], []⟩,
  ⟨191, 81, [(144, 72)], [588, 689]⟩,
  ⟨150, 69, [(144, 72)], [238, 237, 239, 240, 241, 242, 243, 244, 245, 246, 218, 219, 221, 220,
    222, 223, 224, 225, 226, 227, 228, 229, 230, 231, 232, 233, 234, 235, 236, 247, 248, 249]⟩,
  ⟨50, 20, [(145, 46)], []⟩,
  ⟨192, 70, [(146, 63)], [598, 692]⟩,
  ⟨150, 46, [(146, 63)], [238, 237, 239, 240, 241, 242, 243, 244, 245, 246, 218, 219, 221, 220,
    222, 223, 224, 225, 226, 227, 228, 229, 230, 231, 232, 233, 234, 235, 236, 247, 248, 249]⟩,
  ⟨3, 38, [(147, 10)], []⟩,
  ⟨150, 18, [(148, 50)], [218, 219, 221, 220, 222, 223, 224, 225, 226, 227, 249]⟩,
  ⟨79, 14, [], [61, 74, 62, 105, 106, 107, 108, 109, 67, 68, 69, 70, 71, 72, 73, 76, 77, 78, 79,
    80, 81, 82, 83, 84, 85, 86, 87, 88, 89, 90, 91, 92, 93, 94, 95, 96, 97, 98, 99, 60, 59, 756,
    103, 104, 66, 150, 65, 64, 63, 75]⟩,
  ⟨22, 28, [], [61, 74, 62, 268, 269, 270, 67, 68, 69, 70, 71, 72, 73, 76, 77, 78, 79, 80, 81, 82,
    83, 84, 85, 86, 87, 88, 89, 90, 91, 92, 93, 94, 95, 96, 97, 98, 99, 60, 59, 757, 266, 267, 66,
    150, 65, 64, 63, 75]⟩,
  ⟨21, 28, [], [61, 74, 62, 268, 269, 270, 67, 68, 69, 70, 71, 72, 73, 76, 77, 78, 79, 80, 81, 82,
    83, 84, 85, 86, 87, 88, 89, 90, 91, 92, 93, 94, 95, 96, 97, 98, 99, 60, 59, 758, 266, 267, 66,
    150, 65, 64, 63, 75]⟩,
  ⟨24, 28, [], [61, 74, 62, 268, 269, 270, 67, 68, 69, 70, 71, 72, 73, 76, 77, 78, 79, 80, 81, 82,
    83, 84, 85, 86, 87, 88, 89, 90, 91, 92, 93, 94, 95, 96, 97, 98, 99, 60, 59, 759, 266, 267, 66,
    150, 65, 64, 63, 75]⟩,
  ⟨152, 85, [], [763, 760, 761, 762, 472, 473, 475, 474, 476, 477, 478, 479, 480]⟩,
  ⟨152, 85, [], [767, 764, 765, 766, 472, 473, 475, 474, 476, 477, 478, 479, 480]⟩,
  ⟨152, 85, [], [771, 768, 769, 770, 472, 473, 475, 474, 476, 477, 478, 479, 480]⟩,
  ⟨10, 72, [], [773, 772, 774]⟩]

/-- States 704 to 767. -/
def page11 : Array Row := #[
  ⟨22, 28, [], [61, 74, 62, 268, 269, 270, 67, 68, 69, 70, 71, 72, 73, 76, 77, 78, 79, 80, 81, 82,
    83, 84, 85, 86, 87, 88, 89, 90, 91, 92, 93, 94, 95, 96, 97, 98, 99, 60, 59, 775, 266, 267, 66,
    150, 65, 64, 63, 75]⟩,
  ⟨21, 28, [], [61, 74, 62, 268, 269, 270, 67, 68, 69, 70, 71, 72, 73, 76, 77, 78, 79, 80, 81, 82,
    83, 84, 85, 86, 87, 88, 89, 90, 91, 92, 93, 94, 95, 96, 97, 98, 99, 60, 59, 776, 266, 267, 66,
    150, 65, 64, 63, 75]⟩,
  ⟨24, 28, [], [61, 74, 62, 268, 269, 270, 67, 68, 69, 70, 71, 72, 73, 76, 77, 78, 79, 80, 81, 82,
    83, 84, 85, 86, 87, 88, 89, 90, 91, 92, 93, 94, 95, 96, 97, 98, 99, 60, 59, 777, 266, 267, 66,
    150, 65, 64, 63, 75]⟩,
  ⟨10, 72, [], [779, 778, 780]⟩,
  ⟨22, 28, [], [61, 74, 62, 268, 269, 270, 67, 68, 69, 70, 71, 72, 73, 76, 77, 78, 79, 80, 81, 82,
    83, 84, 85, 86, 87, 88, 89, 90, 91, 92, 93, 94, 95, 96, 97, 98, 99, 60, 59, 781, 266, 267, 66,
    150, 65, 64, 63, 75]⟩,
  ⟨21, 28, [], [61, 74, 62, 268, 269, 270, 67, 68, 69, 70, 71, 72, 73, 76, 77, 78, 79, 80, 81, 82,
    83, 84, 85, 86, 87, 88, 89, 90, 91, 92, 93, 94, 95, 96, 97, 98, 99, 60, 59, 782, 266, 267, 66,
    150, 65, 64, 63, 75]⟩,
  ⟨24, 28, [], [61, 74, 62, 268, 269, 270, 67, 68, 69, 70, 71, 72, 73, 76, 77, 78, 79, 80, 81, 82,
    83, 84, 85, 86, 87, 88, 89, 90, 91, 92, 93, 94, 95, 96, 97, 98, 99, 60, 59, 783, 266, 267, 66,
    150, 65, 64, 63, 75]⟩,
  ⟨152, 85, [], [787, 784, 785, 786, 472, 473, 475, 474, 476, 477, 478, 479, 480]⟩,
  ⟨152, 85, [], [791, 788, 789, 790, 472, 473, 475, 474, 476, 477, 478, 479, 480]⟩,
  ⟨152, 85, [], [795, 792, 793, 794, 472, 473, 475, 474, 476, 477, 478, 479, 480]⟩,
  ⟨10, 90, [], [796, 797]⟩,
  ⟨21, 28, [], [61, 74, 62, 268, 269, 270, 67, 68, 69, 70, 71, 72, 73, 76, 77, 78, 79, 80, 81, 82,
    83, 84, 85, 86, 87, 88, 89, 90, 91, 92, 93, 94, 95, 96, 97, 98, 99, 60, 59, 798, 266, 267, 66,
    150, 65, 64, 63, 75]⟩,
  ⟨24, 28, [], [61, 74, 62, 268, 269, 270, 67, 68, 69, 70, 71, 72, 73, 76, 77, 78, 79, 80, 81, 82,
    83, 84, 85, 86, 87, 88, 89, 90, 91, 92, 93, 94, 95, 96, 97, 98, 99, 60, 59, 799, 266, 267, 66,
    150, 65, 64, 63, 75]⟩,
  ⟨3, 1, [(149, 1)], []⟩,
  ⟨10, 90, [], [800, 801]⟩,
  ⟨21, 28, [], [61, 74, 62, 268, 269, 270, 67, 68, 69, 70, 71, 72, 73, 76, 77, 78, 79, 80, 81, 82,
    83, 84, 85, 86, 87, 88, 89, 90, 91, 92, 93, 94, 95, 96, 97, 98, 99, 60, 59, 802, 266, 267, 66,
    150, 65, 64, 63, 75]⟩,
  ⟨24, 28, [], [61, 74, 62, 268, 269, 270, 67, 68, 69, 70, 71, 72, 73, 76, 77, 78, 79, 80, 81, 82,
    83, 84, 85, 86, 87, 88, 89, 90, 91, 92, 93, 94, 95, 96, 97, 98, 99, 60, 59, 803, 266, 267, 66,
    150, 65, 64, 63, 75]⟩,
  ⟨3, 1, [(149, 1)], []⟩,
  ⟨10, 90, [], [804, 805]⟩,
  ⟨21, 28, [], [61, 74, 62, 268, 269, 270, 67, 68, 69, 70, 71, 72, 73, 76, 77, 78, 79, 80, 81, 82,
    83, 84, 85, 86, 87, 88, 89, 90, 91, 92, 93, 94, 95, 96, 97, 98, 99, 60, 59, 806, 266, 267, 66,
    150, 65, 64, 63, 75]⟩,
  ⟨24, 28, [], [61, 74, 62, 268, 269, 270, 67, 68, 69, 70, 71, 72, 73, 76, 77, 78, 79, 80, 81, 82,
    83, 84, 85, 86, 87, 88, 89, 90, 91, 92, 93, 94, 95, 96, 97, 98, 99, 60, 59, 807, 266, 267, 66,
    150, 65, 64, 63, 75]⟩,
  ⟨3, 1, [(149, 1)], []⟩,
  ⟨152, 51, [(150, 73)], [472, 473, 475, 474, 476, 477, 478, 479, 480, 808]⟩,
  ⟨3, 3, [(151, 3)], []⟩,
  ⟨188, 76, [(152, 74)], [637, 728]⟩,
  ⟨149, 76, [(152, 74)], []⟩,
  ⟨55, 76, [(152, 74)], []⟩,
  ⟨185, 86, [(153, 67)], [733, 313, 312, 314, 732, 809]⟩,
  ⟨149, 86, [(154, 75)], []⟩,
  ⟨53, 86, [(154, 75)], []⟩,
  ⟨17, 33, [], [313, 312, 314, 810, 311]⟩,
  ⟨186, 78, [], [520, 811, 313, 312, 314, 521, 646]⟩,
  ⟨146, 87, [(155, 68)], [511, 313, 312, 314, 512]⟩,
  ⟨46, 62, [(156, 69)], []⟩,
  ⟨187, 81, [(157, 72)], [653, 738]⟩,
  ⟨149, 81, [(157, 72)], []⟩,
  ⟨150, 88, [(158, 68)], [743, 238, 237, 239, 240, 241, 242, 243, 244, 245, 246, 812, 218, 219,
    221, 220, 222, 223, 224, 225, 226, 227, 228, 229, 230, 231, 232, 233, 234, 235, 236, 247, 248,
    249, 813]⟩,
  ⟨48, 5, [], [814]⟩,
  ⟨180, 49, [(158, 68)], [743, 815]⟩,
  ⟨10, 14, [], [61, 74, 62, 105, 106, 107, 108, 109, 67, 68, 69, 70, 71, 72, 73, 76, 77, 78, 79,
    80, 81, 82, 83, 84, 85, 86, 87, 88, 89, 90, 91, 92, 93, 94, 95, 96, 97, 98, 99, 60, 59, 816,
    103, 104, 66, 150, 65, 64, 63, 75]⟩,
  ⟨44, 91, [], [817]⟩,
  ⟨9, 81, [], [820, 818, 819]⟩,
  ⟨41, 68, [(159, 32)], []⟩,
  ⟨3, 38, [(160, 10)], []⟩,
  ⟨3, 38, [(160, 10)], []⟩,
  ⟨150, 27, [], [821, 238, 237, 239, 240, 241, 242, 243, 244, 245, 246, 218, 219, 221, 220, 222,
    223, 224, 225, 226, 227, 228, 229, 230, 231, 232, 233, 234, 235, 236, 247, 248, 249]⟩,
  ⟨150, 27, [], [822, 238, 237, 239, 240, 241, 242, 243, 244, 245, 246, 218, 219, 221, 220, 222,
    223, 224, 225, 226, 227, 228, 229, 230, 231, 232, 233, 234, 235, 236, 247, 248, 249]⟩,
  ⟨3, 38, [(161, 10)], []⟩,
  ⟨3, 38, [(161, 10)], []⟩,
  ⟨3, 38, [(161, 10)], []⟩,
  ⟨3, 38, [(161, 10)], []⟩,
  ⟨151, 17, [(162, 76)], [178, 177, 179, 180, 181, 182, 183, 184, 185, 158, 159, 161, 160, 162,
    163, 164, 165, 166, 167, 168, 169, 170, 171, 172, 173, 174, 175, 176, 186, 187, 188]⟩,
  ⟨150, 18, [(163, 77)], [238, 237, 239, 240, 241, 242, 243, 244, 245, 246, 218, 219, 221, 220,
    222, 223, 224, 225, 226, 227, 228, 229, 230, 231, 232, 233, 234, 235, 236, 247, 248, 249]⟩,
  ⟨152, 85, [], [826, 823, 824, 825, 472, 473, 475, 474, 476, 477, 478, 479, 480]⟩,
  ⟨152, 85, [], [830, 827, 828, 829, 472, 473, 475, 474, 476, 477, 478, 479, 480]⟩,
  ⟨152, 85, [], [834, 831, 832, 833, 472, 473, 475, 474, 476, 477, 478, 479, 480]⟩,
  ⟨10, 90, [], [835, 836]⟩,
  ⟨21, 28, [], [61, 74, 62, 268, 269, 270, 67, 68, 69, 70, 71, 72, 73, 76, 77, 78, 79, 80, 81, 82,
    83, 84, 85, 86, 87, 88, 89, 90, 91, 92, 93, 94, 95, 96, 97, 98, 99, 60, 59, 837, 266, 267, 66,
    150, 65, 64, 63, 75]⟩,
  ⟨24, 28, [], [61, 74, 62, 268, 269, 270, 67, 68, 69, 70, 71, 72, 73, 76, 77, 78, 79, 80, 81, 82,
    83, 84, 85, 86, 87, 88, 89, 90, 91, 92, 93, 94, 95, 96, 97, 98, 99, 60, 59, 838, 266, 267, 66,
    150, 65, 64, 63, 75]⟩,
  ⟨3, 1, [(164, 1)], []⟩,
  ⟨10, 90, [], [839, 840]⟩,
  ⟨21, 28, [], [61, 74, 62, 268, 269, 270, 67, 68, 69, 70, 71, 72, 73, 76, 77, 78, 79, 80, 81, 82,
    83, 84, 85, 86, 87, 88, 89, 90, 91, 92, 93, 94, 95, 96, 97, 98, 99, 60, 59, 841, 266, 267, 66,
    150, 65, 64, 63, 75]⟩,
  ⟨24, 28, [], [61, 74, 62, 268, 269, 270, 67, 68, 69, 70, 71, 72, 73, 76, 77, 78, 79, 80, 81, 82,
    83, 84, 85, 86, 87, 88, 89, 90, 91, 92, 93, 94, 95, 96, 97, 98, 99, 60, 59, 842, 266, 267, 66,
    150, 65, 64, 63, 75]⟩,
  ⟨3, 1, [(164, 1)], []⟩]

/-- States 768 to 831. -/
def page12 : Array Row := #[
  ⟨10, 90, [], [843, 844]⟩,
  ⟨21, 28, [], [61, 74, 62, 268, 269, 270, 67, 68, 69, 70, 71, 72, 73, 76, 77, 78, 79, 80, 81, 82,
    83, 84, 85, 86, 87, 88, 89, 90, 91, 92, 93, 94, 95, 96, 97, 98, 99, 60, 59, 845, 266, 267, 66,
    150, 65, 64, 63, 75]⟩,
  ⟨24, 28, [], [61, 74, 62, 268, 269, 270, 67, 68, 69, 70, 71, 72, 73, 76, 77, 78, 79, 80, 81, 82,
    83, 84, 85, 86, 87, 88, 89, 90, 91, 92, 93, 94, 95, 96, 97, 98, 99, 60, 59, 846, 266, 267, 66,
    150, 65, 64, 63, 75]⟩,
  ⟨3, 1, [(164, 1)], []⟩,
  ⟨22, 28, [], [61, 74, 62, 268, 269, 270, 67, 68, 69, 70, 71, 72, 73, 76, 77, 78, 79, 80, 81, 82,
    83, 84, 85, 86, 87, 88, 89, 90, 91, 92, 93, 94, 95, 96, 97, 98, 99, 60, 59, 847, 266, 267, 66,
    150, 65, 64, 63, 75]⟩,
  ⟨21, 28, [], [61, 74, 62, 268, 269, 270, 67, 68, 69, 70, 71, 72, 73, 76, 77, 78, 79, 80, 81, 82,
    83, 84, 85, 86, 87, 88, 89, 90, 91, 92, 93, 94, 95, 96, 97, 98, 99, 60, 59, 848, 266, 267, 66,
    150, 65, 64, 63, 75]⟩,
  ⟨24, 28, [], [61, 74, 62, 268, 269, 270, 67, 68, 69, 70, 71, 72, 73, 76, 77, 78, 79, 80, 81, 82,
    83, 84, 85, 86, 87, 88, 89, 90, 91, 92, 93, 94, 95, 96, 97, 98, 99, 60, 59, 849, 266, 267, 66,
    150, 65, 64, 63, 75]⟩,
  ⟨152, 85, [], [853, 850, 851, 852, 472, 473, 475, 474, 476, 477, 478, 479, 480]⟩,
  ⟨152, 85, [], [857, 854, 855, 856, 472, 473, 475, 474, 476, 477, 478, 479, 480]⟩,
  ⟨152, 85, [], [861, 858, 859, 860, 472, 473, 475, 474, 476, 477, 478, 479, 480]⟩,
  ⟨22, 28, [], [61, 74, 62, 268, 269, 270, 67, 68, 69, 70, 71, 72, 73, 76, 77, 78, 79, 80, 81, 82,
    83, 84, 85, 86, 87, 88, 89, 90, 91, 92, 93, 94, 95, 96, 97, 98, 99, 60, 59, 862, 266, 267, 66,
    150, 65, 64, 63, 75]⟩,
  ⟨21, 28, [], [61, 74, 62, 268, 269, 270, 67, 68, 69, 70, 71, 72, 73, 76, 77, 78, 79, 80, 81, 82,
    83, 84, 85, 86, 87, 88, 89, 90, 91, 92, 93, 94, 95, 96, 97, 98, 99, 60, 59, 863, 266, 267, 66,
    150, 65, 64, 63, 75]⟩,
  ⟨24, 28, [], [61, 74, 62, 268, 269, 270, 67, 68, 69, 70, 71, 72, 73, 76, 77, 78, 79, 80, 81, 82,
    83, 84, 85, 86, 87, 88, 89, 90, 91, 92, 93, 94, 95, 96, 97, 98, 99, 60, 59, 864, 266, 267, 66,
    150, 65, 64, 63, 75]⟩,
  ⟨152, 85, [], [868, 865, 866, 867, 472, 473, 475, 474, 476, 477, 478, 479, 480]⟩,
  ⟨152, 85, [], [872, 869, 870, 871, 472, 473, 475, 474, 476, 477, 478, 479, 480]⟩,
  ⟨152, 85, [], [876, 873, 874, 875, 472, 473, 475, 474, 476, 477, 478, 479, 480]⟩,
  ⟨10, 90, [], [877, 878]⟩,
  ⟨21, 28, [], [61, 74, 62, 268, 269, 270, 67, 68, 69, 70, 71, 72, 73, 76, 77, 78, 79, 80, 81, 82,
    83, 84, 85, 86, 87, 88, 89, 90, 91, 92, 93, 94, 95, 96, 97, 98, 99, 60, 59, 879, 266, 267, 66,
    150, 65, 64, 63, 75]⟩,
  ⟨24, 28, [], [61, 74, 62, 268, 269, 270, 67, 68, 69, 70, 71, 72, 73, 76, 77, 78, 79, 80, 81, 82,
    83, 84, 85, 86, 87, 88, 89, 90, 91, 92, 93, 94, 95, 96, 97, 98, 99, 60, 59, 880, 266, 267, 66,
    150, 65, 64, 63, 75]⟩,
  ⟨3, 1, [(164, 1)], []⟩,
  ⟨10, 90, [], [881, 882]⟩,
  ⟨21, 28, [], [61, 74, 62, 268, 269, 270, 67, 68, 69, 70, 71, 72, 73, 76, 77, 78, 79, 80, 81, 82,
    83, 84, 85, 86, 87, 88, 89, 90, 91, 92, 93, 94, 95, 96, 97, 98, 99, 60, 59, 883, 266, 267, 66,
    150, 65, 64, 63, 75]⟩,
  ⟨24, 28, [], [61, 74, 62, 268, 269, 270, 67, 68, 69, 70, 71, 72, 73, 76, 77, 78, 79, 80, 81, 82,
    83, 84, 85, 86, 87, 88, 89, 90, 91, 92, 93, 94, 95, 96, 97, 98, 99, 60, 59, 884, 266, 267, 66,
    150, 65, 64, 63, 75]⟩,
  ⟨3, 1, [(164, 1)], []⟩,
  ⟨10, 90, [], [885, 886]⟩,
  ⟨21, 28, [], [61, 74, 62, 268, 269, 270, 67, 68, 69, 70, 71, 72, 73, 76, 77, 78, 79, 80, 81, 82,
    83, 84, 85, 86, 87, 88, 89, 90, 91, 92, 93, 94, 95, 96, 97, 98, 99, 60, 59, 887, 266, 267, 66,
    150, 65, 64, 63, 75]⟩,
  ⟨24, 28, [], [61, 74, 62, 268, 269, 270, 67, 68, 69, 70, 71, 72, 73, 76, 77, 78, 79, 80, 81, 82,
    83, 84, 85, 86, 87, 88, 89, 90, 91, 92, 93, 94, 95, 96, 97, 98, 99, 60, 59, 888, 266, 267, 66,
    150, 65, 64, 63, 75]⟩,
  ⟨3, 1, [(164, 1)], []⟩,
  ⟨21, 28, [], [61, 74, 62, 268, 269, 270, 67, 68, 69, 70, 71, 72, 73, 76, 77, 78, 79, 80, 81, 82,
    83, 84, 85, 86, 87, 88, 89, 90, 91, 92, 93, 94, 95, 96, 97, 98, 99, 60, 59, 889, 266, 267, 66,
    150, 65, 64, 63, 75]⟩,
  ⟨24, 28, [], [61, 74, 62, 268, 269, 270, 67, 68, 69, 70, 71, 72, 73, 76, 77, 78, 79, 80, 81, 82,
    83, 84, 85, 86, 87, 88, 89, 90, 91, 92, 93, 94, 95, 96, 97, 98, 99, 60, 59, 890, 266, 267, 66,
    150, 65, 64, 63, 75]⟩,
  ⟨152, 71, [], [891, 472, 473, 475, 474, 476, 477, 478, 479, 480]⟩,
  ⟨152, 71, [], [892, 472, 473, 475, 474, 476, 477, 478, 479, 480]⟩,
  ⟨21, 28, [], [61, 74, 62, 268, 269, 270, 67, 68, 69, 70, 71, 72, 73, 76, 77, 78, 79, 80, 81, 82,
    83, 84, 85, 86, 87, 88, 89, 90, 91, 92, 93, 94, 95, 96, 97, 98, 99, 60, 59, 893, 266, 267, 66,
    150, 65, 64, 63, 75]⟩,
  ⟨24, 28, [], [61, 74, 62, 268, 269, 270, 67, 68, 69, 70, 71, 72, 73, 76, 77, 78, 79, 80, 81, 82,
    83, 84, 85, 86, 87, 88, 89, 90, 91, 92, 93, 94, 95, 96, 97, 98, 99, 60, 59, 894, 266, 267, 66,
    150, 65, 64, 63, 75]⟩,
  ⟨152, 71, [], [895, 472, 473, 475, 474, 476, 477, 478, 479, 480]⟩,
  ⟨152, 71, [], [896, 472, 473, 475, 474, 476, 477, 478, 479, 480]⟩,
  ⟨21, 28, [], [61, 74, 62, 268, 269, 270, 67, 68, 69, 70, 71, 72, 73, 76, 77, 78, 79, 80, 81, 82,
    83, 84, 85, 86, 87, 88, 89, 90, 91, 92, 93, 94, 95, 96, 97, 98, 99, 60, 59, 897, 266, 267, 66,
    150, 65, 64, 63, 75]⟩,
  ⟨24, 28, [], [61, 74, 62, 268, 269, 270, 67, 68, 69, 70, 71, 72, 73, 76, 77, 78, 79, 80, 81, 82,
    83, 84, 85, 86, 87, 88, 89, 90, 91, 92, 93, 94, 95, 96, 97, 98, 99, 60, 59, 898, 266, 267, 66,
    150, 65, 64, 63, 75]⟩,
  ⟨152, 71, [], [899, 472, 473, 475, 474, 476, 477, 478, 479, 480]⟩,
  ⟨152, 71, [], [900, 472, 473, 475, 474, 476, 477, 478, 479, 480]⟩,
  ⟨79, 28, [], [61, 74, 62, 268, 269, 270, 67, 68, 69, 70, 71, 72, 73, 76, 77, 78, 79, 80, 81, 82,
    83, 84, 85, 86, 87, 88, 89, 90, 91, 92, 93, 94, 95, 96, 97, 98, 99, 60, 59, 901, 266, 267, 66,
    150, 65, 64, 63, 75]⟩,
  ⟨185, 86, [(165, 75)], [733, 313, 312, 314, 732, 809]⟩,
  ⟨146, 87, [(166, 68)], [511, 313, 312, 314, 512]⟩,
  ⟨17, 33, [], [313, 312, 314, 902, 311]⟩,
  ⟨48, 5, [], [903]⟩,
  ⟨180, 49, [(167, 68)], [743, 815]⟩,
  ⟨9, 49, [(167, 68)], [743, 904]⟩,
  ⟨180, 49, [(168, 47)], [743, 815]⟩,
  ⟨150, 88, [(168, 47)], [238, 237, 239, 240, 241, 242, 243, 244, 245, 246, 905, 218, 219, 221,
    220, 222, 223, 224, 225, 226, 227, 228, 229, 230, 231, 232, 233, 234, 235, 236, 247, 248,
    249]⟩,
  ⟨45, 5, [], [906]⟩,
  ⟨46, 49, [(169, 68)], [908, 907]⟩,
  ⟨177, 81, [], [820, 909, 910]⟩,
  ⟨10, 5, [], [911]⟩,
  ⟨3, 38, [(170, 10)], []⟩,
  ⟨3, 38, [(170, 10)], []⟩,
  ⟨10, 90, [], [912, 913]⟩,
  ⟨21, 28, [], [61, 74, 62, 268, 269, 270, 67, 68, 69, 70, 71, 72, 73, 76, 77, 78, 79, 80, 81, 82,
    83, 84, 85, 86, 87, 88, 89, 90, 91, 92, 93, 94, 95, 96, 97, 98, 99, 60, 59, 914, 266, 267, 66,
    150, 65, 64, 63, 75]⟩,
  ⟨24, 28, [], [61, 74, 62, 268, 269, 270, 67, 68, 69, 70, 71, 72, 73, 76, 77, 78, 79, 80, 81, 82,
    83, 84, 85, 86, 87, 88, 89, 90, 91, 92, 93, 94, 95, 96, 97, 98, 99, 60, 59, 915, 266, 267, 66,
    150, 65, 64, 63, 75]⟩,
  ⟨3, 1, [(171, 1)], []⟩,
  ⟨10, 90, [], [916, 917]⟩,
  ⟨21, 28, [], [61, 74, 62, 268, 269, 270, 67, 68, 69, 70, 71, 72, 73, 76, 77, 78, 79, 80, 81, 82,
    83, 84, 85, 86, 87, 88, 89, 90, 91, 92, 93, 94, 95, 96, 97, 98, 99, 60, 59, 918, 266, 267, 66,
    150, 65, 64, 63, 75]⟩,
  ⟨24, 28, [], [61, 74, 62, 268, 269, 270, 67, 68, 69, 70, 71, 72, 73, 76, 77, 78, 79, 80, 81, 82,
    83, 84, 85, 86, 87, 88, 89, 90, 91, 92, 93, 94, 95, 96, 97, 98, 99, 60, 59, 919, 266, 267, 66,
    150, 65, 64, 63, 75]⟩,
  ⟨3, 1, [(171, 1)], []⟩,
  ⟨10, 90, [], [920, 921]⟩]

/-- States 832 to 895. -/
def page13 : Array Row := #[
  ⟨21, 28, [], [61, 74, 62, 268, 269, 270, 67, 68, 69, 70, 71, 72, 73, 76, 77, 78, 79, 80, 81, 82,
    83, 84, 85, 86, 87, 88, 89, 90, 91, 92, 93, 94, 95, 96, 97, 98, 99, 60, 59, 922, 266, 267, 66,
    150, 65, 64, 63, 75]⟩,
  ⟨24, 28, [], [61, 74, 62, 268, 269, 270, 67, 68, 69, 70, 71, 72, 73, 76, 77, 78, 79, 80, 81, 82,
    83, 84, 85, 86, 87, 88, 89, 90, 91, 92, 93, 94, 95, 96, 97, 98, 99, 60, 59, 923, 266, 267, 66,
    150, 65, 64, 63, 75]⟩,
  ⟨3, 1, [(171, 1)], []⟩,
  ⟨21, 28, [], [61, 74, 62, 268, 269, 270, 67, 68, 69, 70, 71, 72, 73, 76, 77, 78, 79, 80, 81, 82,
    83, 84, 85, 86, 87, 88, 89, 90, 91, 92, 93, 94, 95, 96, 97, 98, 99, 60, 59, 924, 266, 267, 66,
    150, 65, 64, 63, 75]⟩,
  ⟨24, 28, [], [61, 74, 62, 268, 269, 270, 67, 68, 69, 70, 71, 72, 73, 76, 77, 78, 79, 80, 81, 82,
    83, 84, 85, 86, 87, 88, 89, 90, 91, 92, 93, 94, 95, 96, 97, 98, 99, 60, 59, 925, 266, 267, 66,
    150, 65, 64, 63, 75]⟩,
  ⟨152, 71, [], [926, 472, 473, 475, 474, 476, 477, 478, 479, 480]⟩,
  ⟨152, 71, [], [927, 472, 473, 475, 474, 476, 477, 478, 479, 480]⟩,
  ⟨21, 28, [], [61, 74, 62, 268, 269, 270, 67, 68, 69, 70, 71, 72, 73, 76, 77, 78, 79, 80, 81, 82,
    83, 84, 85, 86, 87, 88, 89, 90, 91, 92, 93, 94, 95, 96, 97, 98, 99, 60, 59, 928, 266, 267, 66,
    150, 65, 64, 63, 75]⟩,
  ⟨24, 28, [], [61, 74, 62, 268, 269, 270, 67, 68, 69, 70, 71, 72, 73, 76, 77, 78, 79, 80, 81, 82,
    83, 84, 85, 86, 87, 88, 89, 90, 91, 92, 93, 94, 95, 96, 97, 98, 99, 60, 59, 929, 266, 267, 66,
    150, 65, 64, 63, 75]⟩,
  ⟨152, 71, [], [930, 472, 473, 475, 474, 476, 477, 478, 479, 480]⟩,
  ⟨152, 71, [], [931, 472, 473, 475, 474, 476, 477, 478, 479, 480]⟩,
  ⟨21, 28, [], [61, 74, 62, 268, 269, 270, 67, 68, 69, 70, 71, 72, 73, 76, 77, 78, 79, 80, 81, 82,
    83, 84, 85, 86, 87, 88, 89, 90, 91, 92, 93, 94, 95, 96, 97, 98, 99, 60, 59, 932, 266, 267, 66,
    150, 65, 64, 63, 75]⟩,
  ⟨24, 28, [], [61, 74, 62, 268, 269, 270, 67, 68, 69, 70, 71, 72, 73, 76, 77, 78, 79, 80, 81, 82,
    83, 84, 85, 86, 87, 88, 89, 90, 91, 92, 93, 94, 95, 96, 97, 98, 99, 60, 59, 933, 266, 267, 66,
    150, 65, 64, 63, 75]⟩,
  ⟨152, 71, [], [934, 472, 473, 475, 474, 476, 477, 478, 479, 480]⟩,
  ⟨152, 71, [], [935, 472, 473, 475, 474, 476, 477, 478, 479, 480]⟩,
  ⟨152, 85, [], [939, 936, 937, 938, 472, 473, 475, 474, 476, 477, 478, 479, 480]⟩,
  ⟨152, 85, [], [943, 940, 941, 942, 472, 473, 475, 474, 476, 477, 478, 479, 480]⟩,
  ⟨152, 85, [], [947, 944, 945, 946, 472, 473, 475, 474, 476, 477, 478, 479, 480]⟩,
  ⟨10, 90, [], [948, 949]⟩,
  ⟨21, 28, [], [61, 74, 62, 268, 269, 270, 67, 68, 69, 70, 71, 72, 73, 76, 77, 78, 79, 80, 81, 82,
    83, 84, 85, 86, 87, 88, 89, 90, 91, 92, 93, 94, 95, 96, 97, 98, 99, 60, 59, 950, 266, 267, 66,
    150, 65, 64, 63, 75]⟩,
  ⟨24, 28, [], [61, 74, 62, 268, 269, 270, 67, 68, 69, 70, 71, 72, 73, 76, 77, 78, 79, 80, 81, 82,
    83, 84, 85, 86, 87, 88, 89, 90, 91, 92, 93, 94, 95, 96, 97, 98, 99, 60, 59, 951, 266, 267, 66,
    150, 65, 64, 63, 75]⟩,
  ⟨3, 1, [(171, 1)], []⟩,
  ⟨10, 90, [], [952, 953]⟩,
  ⟨21, 28, [], [61, 74, 62, 268, 269, 270, 67, 68, 69, 70, 71, 72, 73, 76, 77, 78, 79, 80, 81, 82,
    83, 84, 85, 86, 87, 88, 89, 90, 91, 92, 93, 94, 95, 96, 97, 98, 99, 60, 59, 954, 266, 267, 66,
    150, 65, 64, 63, 75]⟩,
  ⟨24, 28, [], [61, 74, 62, 268, 269, 270, 67, 68, 69, 70, 71, 72, 73, 76, 77, 78, 79, 80, 81, 82,
    83, 84, 85, 86, 87, 88, 89, 90, 91, 92, 93, 94, 95, 96, 97, 98, 99, 60, 59, 955, 266, 267, 66,
    150, 65, 64, 63, 75]⟩,
  ⟨3, 1, [(171, 1)], []⟩,
  ⟨10, 90, [], [956, 957]⟩,
  ⟨21, 28, [], [61, 74, 62, 268, 269, 270, 67, 68, 69, 70, 71, 72, 73, 76, 77, 78, 79, 80, 81, 82,
    83, 84, 85, 86, 87, 88, 89, 90, 91, 92, 93, 94, 95, 96, 97, 98, 99, 60, 59, 958, 266, 267, 66,
    150, 65, 64, 63, 75]⟩,
  ⟨24, 28, [], [61, 74, 62, 268, 269, 270, 67, 68, 69, 70, 71, 72, 73, 76, 77, 78, 79, 80, 81, 82,
    83, 84, 85, 86, 87, 88, 89, 90, 91, 92, 93, 94, 95, 96, 97, 98, 99, 60, 59, 959, 266, 267, 66,
    150, 65, 64, 63, 75]⟩,
  ⟨3, 1, [(171, 1)], []⟩,
  ⟨152, 85, [], [963, 960, 961, 962, 472, 473, 475, 474, 476, 477, 478, 479, 480]⟩,
  ⟨152, 85, [], [967, 964, 965, 966, 472, 473, 475, 474, 476, 477, 478, 479, 480]⟩,
  ⟨152, 85, [], [971, 968, 969, 970, 472, 473, 475, 474, 476, 477, 478, 479, 480]⟩,
  ⟨10, 90, [], [972, 973]⟩,
  ⟨21, 28, [], [61, 74, 62, 268, 269, 270, 67, 68, 69, 70, 71, 72, 73, 76, 77, 78, 79, 80, 81, 82,
    83, 84, 85, 86, 87, 88, 89, 90, 91, 92, 93, 94, 95, 96, 97, 98, 99, 60, 59, 974, 266, 267, 66,
    150, 65, 64, 63, 75]⟩,
  ⟨24, 28, [], [61, 74, 62, 268, 269, 270, 67, 68, 69, 70, 71, 72, 73, 76, 77, 78, 79, 80, 81, 82,
    83, 84, 85, 86, 87, 88, 89, 90, 91, 92, 93, 94, 95, 96, 97, 98, 99, 60, 59, 975, 266, 267, 66,
    150, 65, 64, 63, 75]⟩,
  ⟨3, 1, [(171, 1)], []⟩,
  ⟨10, 90, [], [976, 977]⟩,
  ⟨21, 28, [], [61, 74, 62, 268, 269, 270, 67, 68, 69, 70, 71, 72, 73, 76, 77, 78, 79, 80, 81, 82,
    83, 84, 85, 86, 87, 88, 89, 90, 91, 92, 93, 94, 95, 96, 97, 98, 99, 60, 59, 978, 266, 267, 66,
    150, 65, 64, 63, 75]⟩,
  ⟨24, 28, [], [61, 74, 62, 268, 269, 270, 67, 68, 69, 70, 71, 72, 73, 76, 77, 78, 79, 80, 81, 82,
    83, 84, 85, 86, 87, 88, 89, 90, 91, 92, 93, 94, 95, 96, 97, 98, 99, 60, 59, 979, 266, 267, 66,
    150, 65, 64, 63, 75]⟩,
  ⟨3, 1, [(171, 1)], []⟩,
  ⟨10, 90, [], [980, 981]⟩,
  ⟨21, 28, [], [61, 74, 62, 268, 269, 270, 67, 68, 69, 70, 71, 72, 73, 76, 77, 78, 79, 80, 81, 82,
    83, 84, 85, 86, 87, 88, 89, 90, 91, 92, 93, 94, 95, 96, 97, 98, 99, 60, 59, 982, 266, 267, 66,
    150, 65, 64, 63, 75]⟩,
  ⟨24, 28, [], [61, 74, 62, 268, 269, 270, 67, 68, 69, 70, 71, 72, 73, 76, 77, 78, 79, 80, 81, 82,
    83, 84, 85, 86, 87, 88, 89, 90, 91, 92, 93, 94, 95, 96, 97, 98, 99, 60, 59, 983, 266, 267, 66,
    150, 65, 64, 63, 75]⟩,
  ⟨3, 1, [(171, 1)], []⟩,
  ⟨21, 28, [], [61, 74, 62, 268, 269, 270, 67, 68, 69, 70, 71, 72, 73, 76, 77, 78, 79, 80, 81, 82,
    83, 84, 85, 86, 87, 88, 89, 90, 91, 92, 93, 94, 95, 96, 97, 98, 99, 60, 59, 984, 266, 267, 66,
    150, 65, 64, 63, 75]⟩,
  ⟨24, 28, [], [61, 74, 62, 268, 269, 270, 67, 68, 69, 70, 71, 72, 73, 76, 77, 78, 79, 80, 81, 82,
    83, 84, 85, 86, 87, 88, 89, 90, 91, 92, 93, 94, 95, 96, 97, 98, 99, 60, 59, 985, 266, 267, 66,
    150, 65, 64, 63, 75]⟩,
  ⟨152, 71, [], [986, 472, 473, 475, 474, 476, 477, 478, 479, 480]⟩,
  ⟨152, 71, [], [987, 472, 473, 475, 474, 476, 477, 478, 479, 480]⟩,
  ⟨21, 28, [], [61, 74, 62, 268, 269, 270, 67, 68, 69, 70, 71, 72, 73, 76, 77, 78, 79, 80, 81, 82,
    83, 84, 85, 86, 87, 88, 89, 90, 91, 92, 93, 94, 95, 96, 97, 98, 99, 60, 59, 988, 266, 267, 66,
    150, 65, 64, 63, 75]⟩,
  ⟨24, 28, [], [61, 74, 62, 268, 269, 270, 67, 68, 69, 70, 71, 72, 73, 76, 77, 78, 79, 80, 81, 82,
    83, 84, 85, 86, 87, 88, 89, 90, 91, 92, 93, 94, 95, 96, 97, 98, 99, 60, 59, 989, 266, 267, 66,
    150, 65, 64, 63, 75]⟩,
  ⟨152, 71, [], [990, 472, 473, 475, 474, 476, 477, 478, 479, 480]⟩,
  ⟨152, 71, [], [991, 472, 473, 475, 474, 476, 477, 478, 479, 480]⟩,
  ⟨21, 28, [], [61, 74, 62, 268, 269, 270, 67, 68, 69, 70, 71, 72, 73, 76, 77, 78, 79, 80, 81, 82,
    83, 84, 85, 86, 87, 88, 89, 90, 91, 92, 93, 94, 95, 96, 97, 98, 99, 60, 59, 992, 266, 267, 66,
    150, 65, 64, 63, 75]⟩,
  ⟨24, 28, [], [61, 74, 62, 268, 269, 270, 67, 68, 69, 70, 71, 72, 73, 76, 77, 78, 79, 80, 81, 82,
    83, 84, 85, 86, 87, 88, 89, 90, 91, 92, 93, 94, 95, 96, 97, 98, 99, 60, 59, 993, 266, 267, 66,
    150, 65, 64, 63, 75]⟩,
  ⟨152, 71, [], [994, 472, 473, 475, 474, 476, 477, 478, 479, 480]⟩,
  ⟨152, 71, [], [995, 472, 473, 475, 474, 476, 477, 478, 479, 480]⟩,
  ⟨152, 71, [], [996, 472, 473, 475, 474, 476, 477, 478, 479, 480]⟩,
  ⟨152, 71, [], [997, 472, 473, 475, 474, 476, 477, 478, 479, 480]⟩,
  ⟨3, 1, [(172, 1)], []⟩,
  ⟨3, 1, [(172, 1)], []⟩,
  ⟨152, 71, [], [998, 472, 473, 475, 474, 476, 477, 478, 479, 480]⟩,
  ⟨152, 71, [], [999, 472, 473, 475, 474, 476, 477, 478, 479, 480]⟩,
  ⟨3, 1, [(172, 1)], []⟩]

/-- States 896 to 959. -/
def page14 : Array Row := #[
  ⟨3, 1, [(172, 1)], []⟩,
  ⟨152, 71, [], [1000, 472, 473, 475, 474, 476, 477, 478, 479, 480]⟩,
  ⟨152, 71, [], [1001, 472, 473, 475, 474, 476, 477, 478, 479, 480]⟩,
  ⟨3, 1, [(172, 1)], []⟩,
  ⟨3, 1, [(172, 1)], []⟩,
  ⟨152, 51, [(173, 78)], [472, 473, 475, 474, 476, 477, 478, 479, 480]⟩,
  ⟨146, 87, [(174, 68)], [511, 313, 312, 314, 512]⟩,
  ⟨9, 49, [(175, 68)], [743, 1002]⟩,
  ⟨180, 49, [(175, 68)], [743, 815]⟩,
  ⟨48, 5, [], [1003]⟩,
  ⟨9, 81, [], [820, 1004, 1005]⟩,
  ⟨178, 49, [(176, 68)], [908, 1006]⟩,
  ⟨10, 5, [], [1008, 1007]⟩,
  ⟨46, 49, [(176, 68)], [908, 1009]⟩,
  ⟨177, 81, [(177, 72)], [820, 910]⟩,
  ⟨9, 81, [(177, 72)], []⟩,
  ⟨21, 28, [], [61, 74, 62, 268, 269, 270, 67, 68, 69, 70, 71, 72, 73, 76, 77, 78, 79, 80, 81, 82,
    83, 84, 85, 86, 87, 88, 89, 90, 91, 92, 93, 94, 95, 96, 97, 98, 99, 60, 59, 1010, 266, 267,
    66, 150, 65, 64, 63, 75]⟩,
  ⟨24, 28, [], [61, 74, 62, 268, 269, 270, 67, 68, 69, 70, 71, 72, 73, 76, 77, 78, 79, 80, 81, 82,
    83, 84, 85, 86, 87, 88, 89, 90, 91, 92, 93, 94, 95, 96, 97, 98, 99, 60, 59, 1011, 266, 267,
    66, 150, 65, 64, 63, 75]⟩,
  ⟨152, 71, [], [1012, 472, 473, 475, 474, 476, 477, 478, 479, 480]⟩,
  ⟨152, 71, [], [1013, 472, 473, 475, 474, 476, 477, 478, 479, 480]⟩,
  ⟨21, 28, [], [61, 74, 62, 268, 269, 270, 67, 68, 69, 70, 71, 72, 73, 76, 77, 78, 79, 80, 81, 82,
    83, 84, 85, 86, 87, 88, 89, 90, 91, 92, 93, 94, 95, 96, 97, 98, 99, 60, 59, 1014, 266, 267,
    66, 150, 65, 64, 63, 75]⟩,
  ⟨24, 28, [], [61, 74, 62, 268, 269, 270, 67, 68, 69, 70, 71, 72, 73, 76, 77, 78, 79, 80, 81, 82,
    83, 84, 85, 86, 87, 88, 89, 90, 91, 92, 93, 94, 95, 96, 97, 98, 99, 60, 59, 1015, 266, 267,
    66, 150, 65, 64, 63, 75]⟩,
  ⟨152, 71, [], [1016, 472, 473, 475, 474, 476, 477, 478, 479, 480]⟩,
  ⟨152, 71, [], [1017, 472, 473, 475, 474, 476, 477, 478, 479, 480]⟩,
  ⟨21, 28, [], [61, 74, 62, 268, 269, 270, 67, 68, 69, 70, 71, 72, 73, 76, 77, 78, 79, 80, 81, 82,
    83, 84, 85, 86, 87, 88, 89, 90, 91, 92, 93, 94, 95, 96, 97, 98, 99, 60, 59, 1018, 266, 267,
    66, 150, 65, 64, 63, 75]⟩,
  ⟨24, 28, [], [61, 74, 62, 268, 269, 270, 67, 68, 69, 70, 71, 72, 73, 76, 77, 78, 79, 80, 81, 82,
    83, 84, 85, 86, 87, 88, 89, 90, 91, 92, 93, 94, 95, 96, 97, 98, 99, 60, 59, 1019, 266, 267,
    66, 150, 65, 64, 63, 75]⟩,
  ⟨152, 71, [], [1020, 472, 473, 475, 474, 476, 477, 478, 479, 480]⟩,
  ⟨152, 71, [], [1021, 472, 473, 475, 474, 476, 477, 478, 479, 480]⟩,
  ⟨152, 71, [], [1022, 472, 473, 475, 474, 476, 477, 478, 479, 480]⟩,
  ⟨152, 71, [], [1023, 472, 473, 475, 474, 476, 477, 478, 479, 480]⟩,
  ⟨3, 1, [(178, 1)], []⟩,
  ⟨3, 1, [(178, 1)], []⟩,
  ⟨152, 71, [], [1024, 472, 473, 475, 474, 476, 477, 478, 479, 480]⟩,
  ⟨152, 71, [], [1025, 472, 473, 475, 474, 476, 477, 478, 479, 480]⟩,
  ⟨3, 1, [(178, 1)], []⟩,
  ⟨3, 1, [(178, 1)], []⟩,
  ⟨152, 71, [], [1026, 472, 473, 475, 474, 476, 477, 478, 479, 480]⟩,
  ⟨152, 71, [], [1027, 472, 473, 475, 474, 476, 477, 478, 479, 480]⟩,
  ⟨3, 1, [(178, 1)], []⟩,
  ⟨3, 1, [(178, 1)], []⟩,
  ⟨10, 90, [], [1028, 1029]⟩,
  ⟨21, 28, [], [61, 74, 62, 268, 269, 270, 67, 68, 69, 70, 71, 72, 73, 76, 77, 78, 79, 80, 81, 82,
    83, 84, 85, 86, 87, 88, 89, 90, 91, 92, 93, 94, 95, 96, 97, 98, 99, 60, 59, 1030, 266, 267,
    66, 150, 65, 64, 63, 75]⟩,
  ⟨24, 28, [], [61, 74, 62, 268, 269, 270, 67, 68, 69, 70, 71, 72, 73, 76, 77, 78, 79, 80, 81, 82,
    83, 84, 85, 86, 87, 88, 89, 90, 91, 92, 93, 94, 95, 96, 97, 98, 99, 60, 59, 1031, 266, 267,
    66, 150, 65, 64, 63, 75]⟩,
  ⟨3, 1, [(179, 1)], []⟩,
  ⟨10, 90, [], [1032, 1033]⟩,
  ⟨21, 28, [], [61, 74, 62, 268, 269, 270, 67, 68, 69, 70, 71, 72, 73, 76, 77, 78, 79, 80, 81, 82,
    83, 84, 85, 86, 87, 88, 89, 90, 91, 92, 93, 94, 95, 96, 97, 98, 99, 60, 59, 1034, 266, 267,
    66, 150, 65, 64, 63, 75]⟩,
  ⟨24, 28, [], [61, 74, 62, 268, 269, 270, 67, 68, 69, 70, 71, 72, 73, 76, 77, 78, 79, 80, 81, 82,
    83, 84, 85, 86, 87, 88, 89, 90, 91, 92, 93, 94, 95, 96, 97, 98, 99, 60, 59, 1035, 266, 267,
    66, 150, 65, 64, 63, 75]⟩,
  ⟨3, 1, [(179, 1)], []⟩,
  ⟨10, 90, [], [1036, 1037]⟩,
  ⟨21, 28, [], [61, 74, 62, 268, 269, 270, 67, 68, 69, 70, 71, 72, 73, 76, 77, 78, 79, 80, 81, 82,
    83, 84, 85, 86, 87, 88, 89, 90, 91, 92, 93, 94, 95, 96, 97, 98, 99, 60, 59, 1038, 266, 267,
    66, 150, 65, 64, 63, 75]⟩,
  ⟨24, 28, [], [61, 74, 62, 268, 269, 270, 67, 68, 69, 70, 71, 72, 73, 76, 77, 78, 79, 80, 81, 82,
    83, 84, 85, 86, 87, 88, 89, 90, 91, 92, 93, 94, 95, 96, 97, 98, 99, 60, 59, 1039, 266, 267,
    66, 150, 65, 64, 63, 75]⟩,
  ⟨3, 1, [(179, 1)], []⟩,
  ⟨21, 28, [], [61, 74, 62, 268, 269, 270, 67, 68, 69, 70, 71, 72, 73, 76, 77, 78, 79, 80, 81, 82,
    83, 84, 85, 86, 87, 88, 89, 90, 91, 92, 93, 94, 95, 96, 97, 98, 99, 60, 59, 1040, 266, 267,
    66, 150, 65, 64, 63, 75]⟩,
  ⟨24, 28, [], [61, 74, 62, 268, 269, 270, 67, 68, 69, 70, 71, 72, 73, 76, 77, 78, 79, 80, 81, 82,
    83, 84, 85, 86, 87, 88, 89, 90, 91, 92, 93, 94, 95, 96, 97, 98, 99, 60, 59, 1041, 266, 267,
    66, 150, 65, 64, 63, 75]⟩,
  ⟨152, 71, [], [1042, 472, 473, 475, 474, 476, 477, 478, 479, 480]⟩,
  ⟨152, 71, [], [1043, 472, 473, 475, 474, 476, 477, 478, 479, 480]⟩,
  ⟨21, 28, [], [61, 74, 62, 268, 269, 270, 67, 68, 69, 70, 71, 72, 73, 76, 77, 78, 79, 80, 81, 82,
    83, 84, 85, 86, 87, 88, 89, 90, 91, 92, 93, 94, 95, 96, 97, 98, 99, 60, 59, 1044, 266, 267,
    66, 150, 65, 64, 63, 75]⟩,
  ⟨24, 28, [], [61, 74, 62, 268, 269, 270, 67, 68, 69, 70, 71, 72, 73, 76, 77, 78, 79, 80, 81, 82,
    83, 84, 85, 86, 87, 88, 89, 90, 91, 92, 93, 94, 95, 96, 97, 98, 99, 60, 59, 1045, 266, 267,
    66, 150, 65, 64, 63, 75]⟩,
  ⟨152, 71, [], [1046, 472, 473, 475, 474, 476, 477, 478, 479, 480]⟩,
  ⟨152, 71, [], [1047, 472, 473, 475, 474, 476, 477, 478, 479, 480]⟩,
  ⟨21, 28, [], [61, 74, 62, 268, 269, 270, 67, 68, 69, 70, 71, 72, 73, 76, 77, 78, 79, 80, 81, 82,
    83, 84, 85, 86, 87, 88, 89, 90, 91, 92, 93, 94, 95, 96, 97, 98, 99, 60, 59, 1048, 266, 267,
    66, 150, 65, 64, 63, 75]⟩,
  ⟨24, 28, [], [61, 74, 62, 268, 269, 270, 67, 68, 69, 70, 71, 72, 73, 76, 77, 78, 79, 80, 81, 82,
    83, 84, 85, 86, 87, 88, 89, 90, 91, 92, 93, 94, 95, 96, 97, 98, 99, 60, 59, 1049, 266, 267,
    66, 150, 65, 64, 63, 75]⟩,
  ⟨152, 71, [], [1050, 472, 473, 475, 474, 476, 477, 478, 479, 480]⟩,
  ⟨152, 71, [], [1051, 472, 473, 475, 474, 476, 477, 478, 479, 480]⟩]

/-- States 960 to 1023. -/
def page15 : Array Row := #[
  ⟨10, 90, [], [1052, 1053]⟩,
  ⟨21, 28, [], [61, 74, 62, 268, 269, 270, 67, 68, 69, 70, 71, 72, 73, 76, 77, 78, 79, 80, 81, 82,
    83, 84, 85, 86, 87, 88, 89, 90, 91, 92, 93, 94, 95, 96, 97, 98, 99, 60, 59, 1054, 266, 267,
    66, 150, 65, 64, 63, 75]⟩,
  ⟨24, 28, [], [61, 74, 62, 268, 269, 270, 67, 68, 69, 70, 71, 72, 73, 76, 77, 78, 79, 80, 81, 82,
    83, 84, 85, 86, 87, 88, 89, 90, 91, 92, 93, 94, 95, 96, 97, 98, 99, 60, 59, 1055, 266, 267,
    66, 150, 65, 64, 63, 75]⟩,
  ⟨3, 1, [(179, 1)], []⟩,
  ⟨10, 90, [], [1056, 1057]⟩,
  ⟨21, 28, [], [61, 74, 62, 268, 269, 270, 67, 68, 69, 70, 71, 72, 73, 76, 77, 78, 79, 80, 81, 82,
    83, 84, 85, 86, 87, 88, 89, 90, 91, 92, 93, 94, 95, 96, 97, 98, 99, 60, 59, 1058, 266, 267,
    66, 150, 65, 64, 63, 75]⟩,
  ⟨24, 28, [], [61, 74, 62, 268, 269, 270, 67, 68, 69, 70, 71, 72, 73, 76, 77, 78, 79, 80, 81, 82,
    83, 84, 85, 86, 87, 88, 89, 90, 91, 92, 93, 94, 95, 96, 97, 98, 99, 60, 59, 1059, 266, 267,
    66, 150, 65, 64, 63, 75]⟩,
  ⟨3, 1, [(179, 1)], []⟩,
  ⟨10, 90, [], [1060, 1061]⟩,
  ⟨21, 28, [], [61, 74, 62, 268, 269, 270, 67, 68, 69, 70, 71, 72, 73, 76, 77, 78, 79, 80, 81, 82,
    83, 84, 85, 86, 87, 88, 89, 90, 91, 92, 93, 94, 95, 96, 97, 98, 99, 60, 59, 1062, 266, 267,
    66, 150, 65, 64, 63, 75]⟩,
  ⟨24, 28, [], [61, 74, 62, 268, 269, 270, 67, 68, 69, 70, 71, 72, 73, 76, 77, 78, 79, 80, 81, 82,
    83, 84, 85, 86, 87, 88, 89, 90, 91, 92, 93, 94, 95, 96, 97, 98, 99, 60, 59, 1063, 266, 267,
    66, 150, 65, 64, 63, 75]⟩,
  ⟨3, 1, [(179, 1)], []⟩,
  ⟨21, 28, [], [61, 74, 62, 268, 269, 270, 67, 68, 69, 70, 71, 72, 73, 76, 77, 78, 79, 80, 81, 82,
    83, 84, 85, 86, 87, 88, 89, 90, 91, 92, 93, 94, 95, 96, 97, 98, 99, 60, 59, 1064, 266, 267,
    66, 150, 65, 64, 63, 75]⟩,
  ⟨24, 28, [], [61, 74, 62, 268, 269, 270, 67, 68, 69, 70, 71, 72, 73, 76, 77, 78, 79, 80, 81, 82,
    83, 84, 85, 86, 87, 88, 89, 90, 91, 92, 93, 94, 95, 96, 97, 98, 99, 60, 59, 1065, 266, 267,
    66, 150, 65, 64, 63, 75]⟩,
  ⟨152, 71, [], [1066, 472, 473, 475, 474, 476, 477, 478, 479, 480]⟩,
  ⟨152, 71, [], [1067, 472, 473, 475, 474, 476, 477, 478, 479, 480]⟩,
  ⟨21, 28, [], [61, 74, 62, 268, 269, 270, 67, 68, 69, 70, 71, 72, 73, 76, 77, 78, 79, 80, 81, 82,
    83, 84, 85, 86, 87, 88, 89, 90, 91, 92, 93, 94, 95, 96, 97, 98, 99, 60, 59, 1068, 266, 267,
    66, 150, 65, 64, 63, 75]⟩,
  ⟨24, 28, [], [61, 74, 62, 268, 269, 270, 67, 68, 69, 70, 71, 72, 73, 76, 77, 78, 79, 80, 81, 82,
    83, 84, 85, 86, 87, 88, 89, 90, 91, 92, 93, 94, 95, 96, 97, 98, 99, 60, 59, 1069, 266, 267,
    66, 150, 65, 64, 63, 75]⟩,
  ⟨152, 71, [], [1070, 472, 473, 475, 474, 476, 477, 478, 479, 480]⟩,
  ⟨152, 71, [], [1071, 472, 473, 475, 474, 476, 477, 478, 479, 480]⟩,
  ⟨21, 28, [], [61, 74, 62, 268, 269, 270, 67, 68, 69, 70, 71, 72, 73, 76, 77, 78, 79, 80, 81, 82,
    83, 84, 85, 86, 87, 88, 89, 90, 91, 92, 93, 94, 95, 96, 97, 98, 99, 60, 59, 1072, 266, 267,
    66, 150, 65, 64, 63, 75]⟩,
  ⟨24, 28, [], [61, 74, 62, 268, 269, 270, 67, 68, 69, 70, 71, 72, 73, 76, 77, 78, 79, 80, 81, 82,
    83, 84, 85, 86, 87, 88, 89, 90, 91, 92, 93, 94, 95, 96, 97, 98, 99, 60, 59, 1073, 266, 267,
    66, 150, 65, 64, 63, 75]⟩,
  ⟨152, 71, [], [1074, 472, 473, 475, 474, 476, 477, 478, 479, 480]⟩,
  ⟨152, 71, [], [1075, 472, 473, 475, 474, 476, 477, 478, 479, 480]⟩,
  ⟨152, 71, [], [1076, 472, 473, 475, 474, 476, 477, 478, 479, 480]⟩,
  ⟨152, 71, [], [1077, 472, 473, 475, 474, 476, 477, 478, 479, 480]⟩,
  ⟨3, 1, [(178, 1)], []⟩,
  ⟨3, 1, [(178, 1)], []⟩,
  ⟨152, 71, [], [1078, 472, 473, 475, 474, 476, 477, 478, 479, 480]⟩,
  ⟨152, 71, [], [1079, 472, 473, 475, 474, 476, 477, 478, 479, 480]⟩,
  ⟨3, 1, [(178, 1)], []⟩,
  ⟨3, 1, [(178, 1)], []⟩,
  ⟨152, 71, [], [1080, 472, 473, 475, 474, 476, 477, 478, 479, 480]⟩,
  ⟨152, 71, [], [1081, 472, 473, 475, 474, 476, 477, 478, 479, 480]⟩,
  ⟨3, 1, [(178, 1)], []⟩,
  ⟨3, 1, [(178, 1)], []⟩,
  ⟨3, 1, [(180, 1)], []⟩,
  ⟨3, 1, [(180, 1)], []⟩,
  ⟨3, 1, [(180, 1)], []⟩,
  ⟨3, 1, [(180, 1)], []⟩,
  ⟨3, 1, [(180, 1)], []⟩,
  ⟨3, 1, [(180, 1)], []⟩,
  ⟨180, 49, [(181, 68)], [743, 815]⟩,
  ⟨9, 49, [(182, 47)], []⟩,
  ⟨46, 49, [(183, 68)], [908, 1082]⟩,
  ⟨177, 81, [], [820, 1083, 910]⟩,
  ⟨178, 49, [(184, 47)], [908, 1006]⟩,
  ⟨137, 49, [(184, 47)], []⟩,
  ⟨9, 92, [(185, 47)], [1084]⟩,
  ⟨178, 49, [(183, 68)], [908, 1006]⟩,
  ⟨152, 71, [], [1085, 472, 473, 475, 474, 476, 477, 478, 479, 480]⟩,
  ⟨152, 71, [], [1086, 472, 473, 475, 474, 476, 477, 478, 479, 480]⟩,
  ⟨3, 1, [(186, 1)], []⟩,
  ⟨3, 1, [(186, 1)], []⟩,
  ⟨152, 71, [], [1087, 472, 473, 475, 474, 476, 477, 478, 479, 480]⟩,
  ⟨152, 71, [], [1088, 472, 473, 475, 474, 476, 477, 478, 479, 480]⟩,
  ⟨3, 1, [(186, 1)], []⟩,
  ⟨3, 1, [(186, 1)], []⟩,
  ⟨152, 71, [], [1089, 472, 473, 475, 474, 476, 477, 478, 479, 480]⟩,
  ⟨152, 71, [], [1090, 472, 473, 475, 474, 476, 477, 478, 479, 480]⟩,
  ⟨3, 1, [(186, 1)], []⟩,
  ⟨3, 1, [(186, 1)], []⟩,
  ⟨3, 1, [(187, 1)], []⟩,
  ⟨3, 1, [(187, 1)], []⟩]

/-- States 1024 to 1087. -/
def page16 : Array Row := #[
  ⟨3, 1, [(187, 1)], []⟩,
  ⟨3, 1, [(187, 1)], []⟩,
  ⟨3, 1, [(187, 1)], []⟩,
  ⟨3, 1, [(187, 1)], []⟩,
  ⟨21, 28, [], [61, 74, 62, 268, 269, 270, 67, 68, 69, 70, 71, 72, 73, 76, 77, 78, 79, 80, 81, 82,
    83, 84, 85, 86, 87, 88, 89, 90, 91, 92, 93, 94, 95, 96, 97, 98, 99, 60, 59, 1091, 266, 267,
    66, 150, 65, 64, 63, 75]⟩,
  ⟨24, 28, [], [61, 74, 62, 268, 269, 270, 67, 68, 69, 70, 71, 72, 73, 76, 77, 78, 79, 80, 81, 82,
    83, 84, 85, 86, 87, 88, 89, 90, 91, 92, 93, 94, 95, 96, 97, 98, 99, 60, 59, 1092, 266, 267,
    66, 150, 65, 64, 63, 75]⟩,
  ⟨152, 71, [], [1093, 472, 473, 475, 474, 476, 477, 478, 479, 480]⟩,
  ⟨152, 71, [], [1094, 472, 473, 475, 474, 476, 477, 478, 479, 480]⟩,
  ⟨21, 28, [], [61, 74, 62, 268, 269, 270, 67, 68, 69, 70, 71, 72, 73, 76, 77, 78, 79, 80, 81, 82,
    83, 84, 85, 86, 87, 88, 89, 90, 91, 92, 93, 94, 95, 96, 97, 98, 99, 60, 59, 1095, 266, 267,
    66, 150, 65, 64, 63, 75]⟩,
  ⟨24, 28, [], [61, 74, 62, 268, 269, 270, 67, 68, 69, 70, 71, 72, 73, 76, 77, 78, 79, 80, 81, 82,
    83, 84, 85, 86, 87, 88, 89, 90, 91, 92, 93, 94, 95, 96, 97, 98, 99, 60, 59, 1096, 266, 267,
    66, 150, 65, 64, 63, 75]⟩,
  ⟨152, 71, [], [1097, 472, 473, 475, 474, 476, 477, 478, 479, 480]⟩,
  ⟨152, 71, [], [1098, 472, 473, 475, 474, 476, 477, 478, 479, 480]⟩,
  ⟨21, 28, [], [61, 74, 62, 268, 269, 270, 67, 68, 69, 70, 71, 72, 73, 76, 77, 78, 79, 80, 81, 82,
    83, 84, 85, 86, 87, 88, 89, 90, 91, 92, 93, 94, 95, 96, 97, 98, 99, 60, 59, 1099, 266, 267,
    66, 150, 65, 64, 63, 75]⟩,
  ⟨24, 28, [], [61, 74, 62, 268, 269, 270, 67, 68, 69, 70, 71, 72, 73, 76, 77, 78, 79, 80, 81, 82,
    83, 84, 85, 86, 87, 88, 89, 90, 91, 92, 93, 94, 95, 96, 97, 98, 99, 60, 59, 1100, 266, 267,
    66, 150, 65, 64, 63, 75]⟩,
  ⟨152, 71, [], [1101, 472, 473, 475, 474, 476, 477, 478, 479, 480]⟩,
  ⟨152, 71, [], [1102, 472, 473, 475, 474, 476, 477, 478, 479, 480]⟩,
  ⟨152, 71, [], [1103, 472, 473, 475, 474, 476, 477, 478, 479, 480]⟩,
  ⟨152, 71, [], [1104, 472, 473, 475, 474, 476, 477, 478, 479, 480]⟩,
  ⟨3, 1, [(186, 1)], []⟩,
  ⟨3, 1, [(186, 1)], []⟩,
  ⟨152, 71, [], [1105, 472, 473, 475, 474, 476, 477, 478, 479, 480]⟩,
  ⟨152, 71, [], [1106, 472, 473, 475, 474, 476, 477, 478, 479, 480]⟩,
  ⟨3, 1, [(186, 1)], []⟩,
  ⟨3, 1, [(186, 1)], []⟩,
  ⟨152, 71, [], [1107, 472, 473, 475, 474, 476, 477, 478, 479, 480]⟩,
  ⟨152, 71, [], [1108, 472, 473, 475, 474, 476, 477, 478, 479, 480]⟩,
  ⟨3, 1, [(186, 1)], []⟩,
  ⟨3, 1, [(186, 1)], []⟩,
  ⟨21, 28, [], [61, 74, 62, 268, 269, 270, 67, 68, 69, 70, 71, 72, 73, 76, 77, 78, 79, 80, 81, 82,
    83, 84, 85, 86, 87, 88, 89, 90, 91, 92, 93, 94, 95, 96, 97, 98, 99, 60, 59, 1109, 266, 267,
    66, 150, 65, 64, 63, 75]⟩,
  ⟨24, 28, [], [61, 74, 62, 268, 269, 270, 67, 68, 69, 70, 71, 72, 73, 76, 77, 78, 79, 80, 81, 82,
    83, 84, 85, 86, 87, 88, 89, 90, 91, 92, 93, 94, 95, 96, 97, 98, 99, 60, 59, 1110, 266, 267,
    66, 150, 65, 64, 63, 75]⟩,
  ⟨152, 71, [], [1111, 472, 473, 475, 474, 476, 477, 478, 479, 480]⟩,
  ⟨152, 71, [], [1112, 472, 473, 475, 474, 476, 477, 478, 479, 480]⟩,
  ⟨21, 28, [], [61, 74, 62, 268, 269, 270, 67, 68, 69, 70, 71, 72, 73, 76, 77, 78, 79, 80, 81, 82,
    83, 84, 85, 86, 87, 88, 89, 90, 91, 92, 93, 94, 95, 96, 97, 98, 99, 60, 59, 1113, 266, 267,
    66, 150, 65, 64, 63, 75]⟩,
  ⟨24, 28, [], [61, 74, 62, 268, 269, 270, 67, 68, 69, 70, 71, 72, 73, 76, 77, 78, 79, 80, 81, 82,
    83, 84, 85, 86, 87, 88, 89, 90, 91, 92, 93, 94, 95, 96, 97, 98, 99, 60, 59, 1114, 266, 267,
    66, 150, 65, 64, 63, 75]⟩,
  ⟨152, 71, [], [1115, 472, 473, 475, 474, 476, 477, 478, 479, 480]⟩,
  ⟨152, 71, [], [1116, 472, 473, 475, 474, 476, 477, 478, 479, 480]⟩,
  ⟨21, 28, [], [61, 74, 62, 268, 269, 270, 67, 68, 69, 70, 71, 72, 73, 76, 77, 78, 79, 80, 81, 82,
    83, 84, 85, 86, 87, 88, 89, 90, 91, 92, 93, 94, 95, 96, 97, 98, 99, 60, 59, 1117, 266, 267,
    66, 150, 65, 64, 63, 75]⟩,
  ⟨24, 28, [], [61, 74, 62, 268, 269, 270, 67, 68, 69, 70, 71, 72, 73, 76, 77, 78, 79, 80, 81, 82,
    83, 84, 85, 86, 87, 88, 89, 90, 91, 92, 93, 94, 95, 96, 97, 98, 99, 60, 59, 1118, 266, 267,
    66, 150, 65, 64, 63, 75]⟩,
  ⟨152, 71, [], [1119, 472, 473, 475, 474, 476, 477, 478, 479, 480]⟩,
  ⟨152, 71, [], [1120, 472, 473, 475, 474, 476, 477, 478, 479, 480]⟩,
  ⟨152, 71, [], [1121, 472, 473, 475, 474, 476, 477, 478, 479, 480]⟩,
  ⟨152, 71, [], [1122, 472, 473, 475, 474, 476, 477, 478, 479, 480]⟩,
  ⟨3, 1, [(186, 1)], []⟩,
  ⟨3, 1, [(186, 1)], []⟩,
  ⟨152, 71, [], [1123, 472, 473, 475, 474, 476, 477, 478, 479, 480]⟩,
  ⟨152, 71, [], [1124, 472, 473, 475, 474, 476, 477, 478, 479, 480]⟩,
  ⟨3, 1, [(186, 1)], []⟩,
  ⟨3, 1, [(186, 1)], []⟩,
  ⟨152, 71, [], [1125, 472, 473, 475, 474, 476, 477, 478, 479, 480]⟩,
  ⟨152, 71, [], [1126, 472, 473, 475, 474, 476, 477, 478, 479, 480]⟩,
  ⟨3, 1, [(186, 1)], []⟩,
  ⟨3, 1, [(186, 1)], []⟩,
  ⟨3, 1, [(187, 1)], []⟩,
  ⟨3, 1, [(187, 1)], []⟩,
  ⟨3, 1, [(187, 1)], []⟩,
  ⟨3, 1, [(187, 1)], []⟩,
  ⟨3, 1, [(187, 1)], []⟩,
  ⟨3, 1, [(187, 1)], []⟩,
  ⟨178, 49, [(188, 68)], [908, 1006]⟩,
  ⟨46, 49, [(188, 68)], [908, 1127]⟩,
  ⟨48, 5, [], [1128]⟩,
  ⟨3, 1, [(189, 1)], []⟩,
  ⟨3, 1, [(189, 1)], []⟩,
  ⟨3, 1, [(189, 1)], []⟩]

/-- States 1088 to 1140. -/
def page17 : Array Row := #[
  ⟨3, 1, [(189, 1)], []⟩,
  ⟨3, 1, [(189, 1)], []⟩,
  ⟨3, 1, [(189, 1)], []⟩,
  ⟨152, 71, [], [1129, 472, 473, 475, 474, 476, 477, 478, 479, 480]⟩,
  ⟨152, 71, [], [1130, 472, 473, 475, 474, 476, 477, 478, 479, 480]⟩,
  ⟨3, 1, [(190, 1)], []⟩,
  ⟨3, 1, [(190, 1)], []⟩,
  ⟨152, 71, [], [1131, 472, 473, 475, 474, 476, 477, 478, 479, 480]⟩,
  ⟨152, 71, [], [1132, 472, 473, 475, 474, 476, 477, 478, 479, 480]⟩,
  ⟨3, 1, [(190, 1)], []⟩,
  ⟨3, 1, [(190, 1)], []⟩,
  ⟨152, 71, [], [1133, 472, 473, 475, 474, 476, 477, 478, 479, 480]⟩,
  ⟨152, 71, [], [1134, 472, 473, 475, 474, 476, 477, 478, 479, 480]⟩,
  ⟨3, 1, [(190, 1)], []⟩,
  ⟨3, 1, [(190, 1)], []⟩,
  ⟨3, 1, [(189, 1)], []⟩,
  ⟨3, 1, [(189, 1)], []⟩,
  ⟨3, 1, [(189, 1)], []⟩,
  ⟨3, 1, [(189, 1)], []⟩,
  ⟨3, 1, [(189, 1)], []⟩,
  ⟨3, 1, [(189, 1)], []⟩,
  ⟨152, 71, [], [1135, 472, 473, 475, 474, 476, 477, 478, 479, 480]⟩,
  ⟨152, 71, [], [1136, 472, 473, 475, 474, 476, 477, 478, 479, 480]⟩,
  ⟨3, 1, [(190, 1)], []⟩,
  ⟨3, 1, [(190, 1)], []⟩,
  ⟨152, 71, [], [1137, 472, 473, 475, 474, 476, 477, 478, 479, 480]⟩,
  ⟨152, 71, [], [1138, 472, 473, 475, 474, 476, 477, 478, 479, 480]⟩,
  ⟨3, 1, [(190, 1)], []⟩,
  ⟨3, 1, [(190, 1)], []⟩,
  ⟨152, 71, [], [1139, 472, 473, 475, 474, 476, 477, 478, 479, 480]⟩,
  ⟨152, 71, [], [1140, 472, 473, 475, 474, 476, 477, 478, 479, 480]⟩,
  ⟨3, 1, [(190, 1)], []⟩,
  ⟨3, 1, [(190, 1)], []⟩,
  ⟨3, 1, [(189, 1)], []⟩,
  ⟨3, 1, [(189, 1)], []⟩,
  ⟨3, 1, [(189, 1)], []⟩,
  ⟨3, 1, [(189, 1)], []⟩,
  ⟨3, 1, [(189, 1)], []⟩,
  ⟨3, 1, [(189, 1)], []⟩,
  ⟨178, 49, [(191, 68)], [908, 1006]⟩,
  ⟨9, 49, [(192, 47)], []⟩,
  ⟨3, 1, [(193, 1)], []⟩,
  ⟨3, 1, [(193, 1)], []⟩,
  ⟨3, 1, [(193, 1)], []⟩,
  ⟨3, 1, [(193, 1)], []⟩,
  ⟨3, 1, [(193, 1)], []⟩,
  ⟨3, 1, [(193, 1)], []⟩,
  ⟨3, 1, [(193, 1)], []⟩,
  ⟨3, 1, [(193, 1)], []⟩,
  ⟨3, 1, [(193, 1)], []⟩,
  ⟨3, 1, [(193, 1)], []⟩,
  ⟨3, 1, [(193, 1)], []⟩,
  ⟨3, 1, [(193, 1)], []⟩]

/-- All states. -/
def pages : Array (Array Row) := #[
  page0, page1, page2, page3, page4, page5, page6, page7, page8, page9, page10, page11, page12,
  page13, page14, page15, page16, page17]

end MathProg.Automaton
