import MathProg.Token.Mode

/-!
The token sets that the parser reads with, one for each way a state of the automaton looks at the
text.
-/

namespace MathProg.Mode

/-- The first mode knows every token; it is the one that errors are read with. -/
def table : Array Mode := #[
  ⟨.everything, [0, 1, 2, 3, 4, 5, 6, 7, 8, 9, 10, 11, 12, 13, 14, 15, 16, 17, 18, 19, 20, 21, 22,
  23, 24, 25, 26, 27, 28, 29, 30, 31, 32, 33, 34, 35, 36, 37, 38, 39, 40, 41, 42, 43, 44, 45, 46,
  47, 48, 49, 50, 51, 52, 53, 54, 55, 56, 57, 58, 59, 60, 61, 62, 63, 64, 65, 66, 67, 68, 69, 70,
  71, 72, 73, 74, 75, 76, 77, 78, 79, 80, 81, 82, 83, 84, 85, 86, 87, 88, 89, 90, 91, 92, 93, 94,
  95, 96, 97, 98, 99, 100, 101, 102, 103, 104, 105, 106, 107, 108, 109, 110]⟩,
  ⟨.nothing, [0, 1, 2, 4, 5, 6, 7, 8, 9, 28, 29, 30, 33, 34, 35, 36, 37, 39, 42]⟩,
  ⟨.nothing, [0, 1]⟩,
  ⟨.nothing, [0, 1, 4, 6, 7]⟩,
  ⟨.nothing, [0, 1, 3]⟩,
  ⟨.nothing, [0, 1, 9]⟩,
  ⟨.nothing, [0, 1, 40]⟩,
  ⟨.stringOrNumber, [0, 1, 9, 32, 40, 49, 51, 52, 72, 73, 77, 80, 81, 82, 83, 84, 85, 86, 87, 88,
  89, 90, 91, 92, 93, 94, 95, 96, 97, 98, 99, 100, 101, 102, 103, 104, 105, 106, 107, 108, 109,
  110]⟩,
  ⟨.nothing, [0, 1, 31]⟩,
  ⟨.nothing, [0, 1, 32]⟩,
  ⟨.stringOnly, [0, 1, 3, 10, 11, 12, 13, 14, 15, 16, 17, 18, 19, 20, 21, 22, 23, 24, 25, 26, 27,
  32, 40]⟩,
  ⟨.nothing, [0, 1, 9, 18, 32]⟩,
  ⟨.stringOnly, [0, 1, 40, 43, 47]⟩,
  ⟨.nothing, [0, 1, 32, 35, 36, 37, 39, 40]⟩,
  ⟨.stringOrNumber, [0, 1, 9, 40, 49, 51, 52, 72, 73, 77, 80, 81, 82, 83, 84, 85, 86, 87, 88, 89,
  90, 91, 92, 93, 94, 95, 96, 97, 98, 99, 100, 101, 102, 103, 104, 105, 106, 107, 108, 109, 110]⟩,
  ⟨.stringOrNumber, [0, 1, 3, 9, 10, 16, 19, 20, 21, 22, 23, 24, 25, 26, 27, 32, 38, 40, 49, 51,
  52, 55, 56, 57, 58, 59, 60, 61, 62, 63, 64, 65, 66, 67, 68, 69, 70, 71, 72, 73, 74, 77, 80, 81,
  82, 83, 84, 85, 86, 87, 88, 89, 90, 91, 92, 93, 94, 95, 96, 97, 98, 99, 100, 101, 102, 103, 104,
  105, 106, 107, 108, 109, 110]⟩,
  ⟨.nothing, [0, 1, 3, 10, 16, 19, 20, 21, 22, 23, 24, 25, 26, 27, 38, 51, 52, 55, 56, 57, 58, 59,
  60, 61, 62, 63, 64, 65, 66, 67, 68, 69, 70, 71, 72, 73, 74]⟩,
  ⟨.nothing, [0, 1, 3, 10, 16, 19, 20, 21, 22, 23, 24, 25, 26, 27, 38, 51, 52, 55, 56, 57, 58, 59,
  60, 61, 62, 63, 64, 65, 66, 67, 68, 69, 70, 71, 72, 73, 74, 75, 79]⟩,
  ⟨.stringOrNumber, [0, 1, 3, 9, 10, 11, 12, 13, 14, 15, 16, 17, 18, 19, 20, 21, 22, 23, 24, 25,
  26, 27, 32, 38, 40, 41, 46, 48, 49, 50, 51, 52, 55, 56, 57, 58, 59, 60, 61, 62, 63, 64, 65, 66,
  67, 68, 69, 70, 71, 72, 73, 74, 75, 77, 78, 79, 80, 81, 82, 83, 84, 85, 86, 87, 88, 89, 90, 91,
  92, 93, 94, 95, 96, 97, 98, 99, 100, 101, 102, 103, 104, 105, 106, 107, 108, 109, 110]⟩,
  ⟨.stringOrNumber, [0, 1, 3, 9, 10, 11, 12, 13, 14, 15, 16, 17, 18, 19, 20, 21, 22, 23, 24, 25,
  26, 27, 32, 38, 40, 41, 45, 46, 48, 49, 50, 51, 52, 55, 56, 57, 58, 59, 60, 61, 62, 63, 64, 65,
  66, 67, 68, 69, 70, 71, 72, 73, 74, 75, 76, 77, 78, 79, 80, 81, 82, 83, 84, 85, 86, 87, 88, 89,
  90, 91, 92, 93, 94, 95, 96, 97, 98, 99, 100, 101, 102, 103, 104, 105, 106, 107, 108, 109, 110]⟩,
  ⟨.stringOrNumber, [0, 1, 3, 9, 10, 11, 12, 13, 14, 15, 16, 17, 18, 19, 20, 21, 22, 23, 24, 25,
  26, 27, 32, 38, 40, 41, 46, 48, 49, 50, 51, 52, 55, 56, 57, 58, 59, 60, 61, 62, 63, 64, 65, 66,
  67, 68, 69, 70, 71, 72, 73, 74, 75, 76, 77, 78, 79, 80, 81, 82, 83, 84, 85, 86, 87, 88, 89, 90,
  91, 92, 93, 94, 95, 96, 97, 98, 99, 100, 101, 102, 103, 104, 105, 106, 107, 108, 109, 110]⟩,
  ⟨.nothing, [0, 1, 40, 49]⟩,
  ⟨.stringOrNumber, [0, 1, 9, 40, 41, 49, 51, 52, 72, 73, 77, 80, 81, 82, 83, 84, 85, 86, 87, 88,
  89, 90, 91, 92, 93, 94, 95, 96, 97, 98, 99, 100, 101, 102, 103, 104, 105, 106, 107, 108, 109,
  110]⟩,
  ⟨.nothing, [0, 1, 49]⟩,
  ⟨.stringOrNumber, [0, 1, 3, 9, 10, 16, 19, 20, 21, 22, 23, 24, 25, 26, 27, 32, 40, 49, 51, 52,
  55, 56, 57, 58, 59, 60, 61, 62, 63, 64, 65, 66, 67, 68, 69, 70, 71, 72, 73, 74, 77, 80, 81, 82,
  83, 84, 85, 86, 87, 88, 89, 90, 91, 92, 93, 94, 95, 96, 97, 98, 99, 100, 101, 102, 103, 104,
  105, 106, 107, 108, 109, 110]⟩,
  ⟨.nothing, [0, 1, 3, 10, 16, 19, 20, 21, 22, 23, 24, 25, 26, 27, 51, 52, 55, 56, 57, 58, 59, 60,
  61, 62, 63, 64, 65, 66, 67, 68, 69, 70, 71, 72, 73, 74]⟩,
  ⟨.stringOrNumber, [0, 1, 3, 9, 16, 19, 20, 21, 22, 23, 24, 25, 26, 27, 32, 40, 49, 51, 52, 55,
  56, 57, 58, 59, 60, 61, 62, 63, 64, 65, 66, 67, 68, 69, 70, 71, 72, 73, 74, 77, 80, 81, 82, 83,
  84, 85, 86, 87, 88, 89, 90, 91, 92, 93, 94, 95, 96, 97, 98, 99, 100, 101, 102, 103, 104, 105,
  106, 107, 108, 109, 110]⟩,
  ⟨.nothing, [0, 1, 3, 16, 19, 20, 21, 22, 23, 24, 25, 26, 27, 51, 52, 55, 56, 57, 58, 59, 60, 61,
  62, 63, 64, 65, 66, 67, 68, 69, 70, 71, 72, 73, 74]⟩,
  ⟨.stringOrNumber, [0, 1, 9, 40, 49, 51, 52, 77, 80, 81, 82, 83, 84, 85, 86, 87, 88, 89, 90, 91,
  92, 93, 94, 95, 96, 97, 98, 99, 100, 101, 102, 103, 104, 105, 106, 107, 108, 109, 110]⟩,
  ⟨.nothing, [0, 1, 3, 10, 11, 12, 13, 14, 15, 16, 17, 18, 19, 20, 21, 22, 23, 24, 25, 26, 27, 32,
  40]⟩,
  ⟨.nothing, [0, 1, 3, 10, 11, 12, 13, 14, 15, 16, 17, 18, 19, 20, 21, 22, 23, 24, 25, 26, 27,
  32]⟩,
  ⟨.nothing, [0, 1, 3, 10, 11, 12, 13, 14, 15, 16, 17, 18, 19, 20, 21, 22, 23, 24, 25, 26, 27]⟩,
  ⟨.data, [0, 1, 10, 17, 18, 32, 45, 54]⟩,
  ⟨.data, [0, 1]⟩,
  ⟨.data, [0, 1, 10, 17, 32, 45, 49, 54]⟩,
  ⟨.nothing, [0, 1, 40, 43, 47]⟩,
  ⟨.nothing, [0, 1, 47]⟩,
  ⟨.nothing, [0, 1, 35, 36, 37, 39, 40]⟩,
  ⟨.nothing, [0, 1, 2, 4, 5, 6, 7, 8, 9, 28, 29, 30, 33, 34, 35, 36, 37, 39, 41, 42]⟩,
  ⟨.nothing, [0, 1, 35, 36, 37, 39]⟩,
  ⟨.nothing, [0, 1, 10, 32, 41]⟩,
  ⟨.nothing, [0, 1, 10, 16, 19, 20, 21, 22, 23, 24, 25, 26, 27, 32, 41, 45, 51, 52, 55, 56, 57,
  58, 59, 60, 61, 62, 63, 64, 65, 66, 67, 68, 69, 70, 71, 72, 73, 74, 76]⟩,
  ⟨.nothing, [0, 1, 10, 16, 19, 20, 21, 22, 23, 24, 25, 26, 27, 32, 41, 51, 52, 55, 56, 57, 58,
  59, 60, 61, 62, 63, 64, 65, 66, 67, 68, 69, 70, 71, 72, 73, 74]⟩,
  ⟨.nothing, [0, 1, 3, 10, 25, 38]⟩,
  ⟨.nothing, [0, 1, 16, 19]⟩,
  ⟨.nothing, [0, 1, 16, 19, 20, 21, 22, 23, 24, 25, 26, 27, 51, 52, 55, 56, 57, 58, 59, 60, 61,
  62, 63, 64, 65, 66, 67, 68, 69, 70, 71, 72, 73, 74, 78]⟩,
  ⟨.nothing, [0, 1, 10, 16, 19, 20, 21, 22, 23, 24, 25, 26, 27, 50, 51, 52, 55, 56, 57, 58, 59,
  60, 61, 62, 63, 64, 65, 66, 67, 68, 69, 70, 71, 72, 73, 74]⟩,
  ⟨.nothing, [0, 1, 10, 41]⟩,
  ⟨.stringOrNumber, [0, 1, 9, 40, 49, 50, 51, 52, 72, 73, 77, 80, 81, 82, 83, 84, 85, 86, 87, 88,
  89, 90, 91, 92, 93, 94, 95, 96, 97, 98, 99, 100, 101, 102, 103, 104, 105, 106, 107, 108, 109,
  110]⟩,
  ⟨.nothing, [0, 1, 3, 10]⟩,
  ⟨.nothing, [0, 1, 10, 21, 22, 24, 51, 52, 55, 56, 57, 58, 59, 60, 61]⟩,
  ⟨.nothing, [0, 1, 3, 10, 21, 22, 24, 51, 52, 55, 56, 57, 58, 59, 60, 61, 79]⟩,
  ⟨.nothing, [0, 1, 11, 12, 13, 14, 15, 16, 17, 18, 19, 20, 21, 22, 23, 24, 25, 26, 27]⟩,
  ⟨.numberOnly, [0, 1]⟩,
  ⟨.data, [0, 1, 3, 10, 17, 32, 45, 54]⟩,
  ⟨.data, [0, 1, 17, 32, 45, 54]⟩,
  ⟨.data, [0, 1, 55]⟩,
  ⟨.data, [0, 1, 17, 51, 52]⟩,
  ⟨.data, [0, 1, 17, 32, 51, 52]⟩,
  ⟨.data, [0, 1, 3, 10, 17, 32, 45, 49, 54]⟩,
  ⟨.data, [0, 1, 3, 10, 17, 32, 45, 46, 49, 50, 51, 52, 53, 54]⟩,
  ⟨.data, [0, 1, 10, 17, 32]⟩,
  ⟨.data, [0, 1, 10, 17, 32, 49, 54]⟩,
  ⟨.data, [0, 1, 3, 10, 17, 32, 49, 54]⟩,
  ⟨.data, [0, 1, 17, 32, 49, 54]⟩,
  ⟨.stringOrNumber, [0, 1, 9, 32, 40, 49, 51, 52, 77, 80, 81, 82, 83, 84, 85, 86, 87, 88, 89, 90,
  91, 92, 93, 94, 95, 96, 97, 98, 99, 100, 101, 102, 103, 104, 105, 106, 107, 108, 109, 110]⟩,
  ⟨.stringOrNumber, [0, 1, 9, 32, 40, 49, 51, 52, 55, 56, 57, 58, 59, 60, 61, 62, 77, 80, 81, 82,
  83, 84, 85, 86, 87, 88, 89, 90, 91, 92, 93, 94, 95, 96, 97, 98, 99, 100, 101, 102, 103, 104,
  105, 106, 107, 108, 109, 110]⟩,
  ⟨.nothing, [0, 1, 35, 36, 37, 39, 41]⟩,
  ⟨.stringOrNumber, [0, 1, 3, 9, 10, 11, 12, 13, 14, 15, 16, 17, 18, 19, 20, 21, 22, 23, 24, 25,
  26, 27, 32, 35, 36, 37, 38, 39, 40, 41, 46, 47, 48, 49, 50, 51, 52, 55, 56, 57, 58, 59, 60, 61,
  62, 63, 64, 65, 66, 67, 68, 69, 70, 71, 72, 73, 74, 75, 77, 78, 79, 80, 81, 82, 83, 84, 85, 86,
  87, 88, 89, 90, 91, 92, 93, 94, 95, 96, 97, 98, 99, 100, 101, 102, 103, 104, 105, 106, 107, 108,
  109, 110]⟩,
  ⟨.nothing, [0, 1, 10, 16, 19, 20, 21, 22, 23, 24, 25, 26, 27, 46, 51, 52, 55, 56, 57, 58, 59,
  60, 61, 62, 63, 64, 65, 66, 67, 68, 69, 70, 71, 72, 73, 74]⟩,
  ⟨.nothing, [0, 1, 10, 50]⟩,
  ⟨.nothing, [0, 1, 3, 51, 52, 55, 56, 57, 58, 59, 60, 61]⟩,
  ⟨.nothing, [0, 1, 21, 22, 24]⟩,
  ⟨.nothing, [0, 1, 3, 10, 11, 12, 13, 14, 15, 16, 17, 18, 19, 20, 21, 22, 23, 24, 25, 26, 27, 51,
  52, 55, 56, 57, 58, 59, 60, 61, 62, 63, 64, 65, 66, 67, 68, 69, 70, 71, 72, 73, 74]⟩,
  ⟨.data, [0, 1, 10, 17, 32, 45, 54]⟩,
  ⟨.nothing, [0, 1, 46]⟩,
  ⟨.nothing, [0, 1, 10, 46, 50]⟩,
  ⟨.data, [0, 1, 17]⟩,
  ⟨.data, [0, 1, 10, 17]⟩,
  ⟨.nothing, [0, 1, 50]⟩,
  ⟨.data, [0, 1, 3, 10, 17, 32, 49, 51, 52, 54]⟩,
  ⟨.nothing, [0, 1, 10, 46]⟩,
  ⟨.nothing, [0, 1, 9, 45]⟩,
  ⟨.nothing, [0, 1, 16, 19, 20, 21, 22, 23, 24, 25, 26, 27, 41, 51, 52, 55, 56, 57, 58, 59, 60,
  61, 62, 63, 64, 65, 66, 67, 68, 69, 70, 71, 72, 73, 74]⟩,
  ⟨.nothing, [0, 1, 10, 16, 19, 20, 21, 22, 23, 24, 25, 26, 27, 41, 51, 52, 55, 56, 57, 58, 59,
  60, 61, 62, 63, 64, 65, 66, 67, 68, 69, 70, 71, 72, 73, 74]⟩,
  ⟨.nothing, [0, 1, 3, 10, 21, 24, 51, 52, 55, 56, 57, 58, 59, 60, 61]⟩,
  ⟨.data, [0, 1, 3, 10, 17, 32, 45, 53, 54]⟩,
  ⟨.data, [0, 1, 3, 10]⟩,
  ⟨.nothing, [0, 1, 3, 10, 16, 19, 20, 21, 22, 23, 24, 25, 26, 27, 48, 51, 52, 55, 56, 57, 58, 59,
  60, 61, 62, 63, 64, 65, 66, 67, 68, 69, 70, 71, 72, 73, 74]⟩,
  ⟨.nothing, [0, 1, 44]⟩,
  ⟨.nothing, [0, 1, 21, 24]⟩,
  ⟨.nothing, [0, 1, 45]⟩,
  ⟨.nothing, [0, 1, 3, 10, 48]⟩]

end MathProg.Mode
