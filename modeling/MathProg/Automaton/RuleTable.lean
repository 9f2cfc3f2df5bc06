import MathProg.Automaton.Basic

/-!
The shapes of the reductions and the sets of tokens on which they are made.
-/

namespace MathProg.Automaton

/-- Every reduction's symbol, number of children and aliases. -/
def rules : Array Rule := #[
  ⟨115, 0, []⟩, ⟨115, 1, []⟩, ⟨168, 1, []⟩, ⟨116, 1, []⟩, ⟨124, 1, [(0, 193)]⟩, ⟨115, 2, []⟩,
  ⟨169, 1, []⟩, ⟨117, 1, []⟩, ⟨168, 2, []⟩, ⟨119, 2, []⟩, ⟨154, 1, []⟩, ⟨151, 1, []⟩,
  ⟨151, 1, [(0, 155)]⟩, ⟨167, 1, []⟩, ⟨150, 1, []⟩, ⟨120, 2, []⟩, ⟨124, 2, [(0, 193), (1, 194)]⟩,
  ⟨124, 2, [(0, 193)]⟩, ⟨118, 2, []⟩, ⟨169, 2, []⟩, ⟨115, 3, []⟩, ⟨132, 3, []⟩, ⟨133, 1, []⟩,
  ⟨160, 1, []⟩, ⟨131, 3, [(1, 150)]⟩, ⟨151, 2, [(0, 195), (1, 150)]⟩, ⟨154, 2, []⟩, ⟨161, 2, []⟩,
  ⟨162, 1, []⟩, ⟨163, 1, []⟩, ⟨130, 3, []⟩, ⟨150, 2, [(0, 195)]⟩, ⟨129, 3, []⟩, ⟨152, 1, []⟩,
  ⟨152, 1, [(0, 155)]⟩, ⟨124, 3, [(0, 193), (1, 194)]⟩, ⟨123, 3, []⟩, ⟨172, 1, []⟩, ⟨125, 1, []⟩,
  ⟨126, 1, []⟩, ⟨122, 3, []⟩, ⟨171, 1, []⟩, ⟨121, 3, []⟩, ⟨170, 1, []⟩, ⟨183, 1, [(0, 196)]⟩,
  ⟨142, 1, []⟩, ⟨144, 1, []⟩, ⟨146, 1, []⟩, ⟨149, 1, []⟩, ⟨141, 3, []⟩, ⟨181, 1, [(0, 196)]⟩,
  ⟨139, 1, []⟩, ⟨134, 4, []⟩, ⟨179, 1, []⟩, ⟨153, 1, []⟩, ⟨176, 1, []⟩, ⟨132, 4, []⟩,
  ⟨175, 1, []⟩, ⟨159, 3, []⟩, ⟨131, 4, [(2, 150)]⟩, ⟨131, 4, [(1, 150)]⟩, ⟨174, 2, []⟩,
  ⟨151, 3, [(0, 150), (1, 195), (2, 150)]⟩, ⟨151, 3, [(0, 150), (2, 150)]⟩, ⟨174, 2, [(1, 150)]⟩,
  ⟨154, 3, []⟩, ⟨158, 3, [(0, 195)]⟩, ⟨161, 3, []⟩, ⟨166, 3, []⟩, ⟨130, 4, []⟩, ⟨173, 2, []⟩,
  ⟨150, 3, [(1, 195)]⟩, ⟨150, 3, []⟩, ⟨129, 4, []⟩, ⟨152, 2, [(0, 195), (1, 150)]⟩, ⟨123, 4, []⟩,
  ⟨172, 2, []⟩, ⟨125, 2, []⟩, ⟨126, 2, []⟩, ⟨126, 2, [(0, 195)]⟩, ⟨122, 4, []⟩, ⟨171, 2, []⟩,
  ⟨121, 4, []⟩, ⟨170, 2, []⟩, ⟨141, 4, [(1, 193)]⟩, ⟨183, 2, []⟩, ⟨183, 2, [(1, 196)]⟩,
  ⟨148, 1, []⟩, ⟨146, 2, []⟩, ⟨184, 1, []⟩, ⟨144, 2, []⟩, ⟨186, 1, []⟩, ⟨138, 4, [(1, 193)]⟩,
  ⟨181, 2, []⟩, ⟨181, 2, [(1, 196)]⟩, ⟨140, 2, []⟩, ⟨182, 1, []⟩, ⟨134, 5, [(2, 194)]⟩,
  ⟨179, 2, []⟩, ⟨153, 2, [(0, 195), (1, 150)]⟩, ⟨176, 2, []⟩, ⟨132, 5, []⟩, ⟨175, 2, []⟩,
  ⟨159, 4, []⟩, ⟨189, 2, []⟩, ⟨160, 3, [(1, 195)]⟩, ⟨131, 5, [(3, 150)]⟩, ⟨131, 5, [(2, 150)]⟩,
  ⟨131, 5, [(1, 150), (2, 195)]⟩, ⟨151, 4, [(0, 150), (1, 195), (2, 195), (3, 150)]⟩,
  ⟨156, 4, [(3, 150)]⟩, ⟨165, 3, []⟩, ⟨154, 4, []⟩, ⟨164, 4, []⟩, ⟨190, 2, []⟩, ⟨162, 3, []⟩,
  ⟨166, 4, []⟩, ⟨130, 5, []⟩, ⟨150, 4, [(1, 195), (2, 195)]⟩, ⟨155, 4, []⟩, ⟨129, 5, []⟩,
  ⟨128, 5, []⟩, ⟨152, 3, [(0, 150), (1, 195), (2, 150)]⟩, ⟨142, 3, []⟩, ⟨148, 2, []⟩,
  ⟨146, 3, []⟩, ⟨143, 3, []⟩, ⟨184, 2, []⟩, ⟨141, 5, []⟩, ⟨145, 4, []⟩, ⟨186, 2, []⟩,
  ⟨138, 5, [(1, 193), (2, 165)]⟩, ⟨139, 3, []⟩, ⟨182, 2, []⟩, ⟨147, 3, []⟩, ⟨136, 4, []⟩,
  ⟨153, 3, [(0, 150), (1, 195), (2, 150)]⟩, ⟨132, 6, []⟩, ⟨159, 5, []⟩, ⟨131, 6, [(3, 150)]⟩,
  ⟨131, 6, [(2, 150), (3, 195)]⟩, ⟨131, 6, [(1, 150), (3, 195)]⟩,
  ⟨151, 5, [(0, 150), (2, 150), (4, 150)]⟩, ⟨165, 4, []⟩, ⟨191, 2, []⟩, ⟨166, 5, []⟩,
  ⟨192, 2, []⟩, ⟨130, 6, []⟩, ⟨150, 5, []⟩, ⟨127, 6, [(3, 195)]⟩, ⟨157, 4, []⟩,
  ⟨141, 6, [(1, 193)]⟩, ⟨188, 2, []⟩, ⟨143, 4, []⟩, ⟨185, 1, []⟩, ⟨145, 5, []⟩, ⟨147, 4, []⟩,
  ⟨187, 2, []⟩, ⟨136, 5, []⟩, ⟨159, 6, []⟩, ⟨131, 7, [(3, 150), (4, 195)]⟩,
  ⟨131, 7, [(2, 150), (4, 195)]⟩, ⟨156, 6, [(3, 150), (5, 150)]⟩, ⟨155, 6, []⟩,
  ⟨127, 7, [(4, 195)]⟩, ⟨185, 2, []⟩, ⟨145, 6, []⟩, ⟨136, 6, []⟩, ⟨180, 2, []⟩, ⟨135, 6, []⟩,
  ⟨131, 8, [(3, 150), (5, 195)]⟩, ⟨127, 8, [(5, 195)]⟩, ⟨127, 8, [(3, 195), (5, 195)]⟩,
  ⟨157, 6, []⟩, ⟨145, 7, []⟩, ⟨136, 7, []⟩, ⟨135, 7, []⟩, ⟨177, 2, []⟩,
  ⟨127, 9, [(4, 195), (6, 195)]⟩, ⟨127, 9, [(6, 195)]⟩, ⟨127, 9, [(3, 195), (6, 195)]⟩,
  ⟨136, 8, []⟩, ⟨180, 4, []⟩, ⟨135, 8, []⟩, ⟨178, 2, []⟩, ⟨137, 1, []⟩,
  ⟨127, 10, [(5, 195), (7, 195)]⟩, ⟨127, 10, [(4, 195), (7, 195)]⟩, ⟨135, 9, []⟩,
  ⟨127, 11, [(5, 195), (8, 195)]⟩, ⟨127, 11, [(6, 195), (8, 195)]⟩, ⟨135, 10, []⟩, ⟨137, 3, []⟩,
  ⟨127, 12, [(6, 195), (9, 195)]⟩]

/-- The sets of tokens that call for a reduction. -/
def lookaheads : Array (List Symbol) := #[
  [0],
  [0, 2, 4, 5, 6, 7, 8, 9, 28, 29, 30, 33, 34, 35, 36, 37, 39, 42],
  [3, 10, 11, 12, 13, 14, 15, 16, 17, 18, 19, 20, 21, 22, 23, 24, 25, 26, 27, 32],
  [0, 4, 6, 7],
  [3, 10, 16, 19, 20, 21, 22, 23, 24, 25, 26, 27, 38, 55, 56, 57, 58, 59, 60, 61, 62, 63, 64, 65,
  66, 67, 68, 69, 70, 71, 74],
  [3, 10, 16, 19, 20, 21, 22, 23, 24, 25, 26, 27, 38, 51, 52, 55, 56, 57, 58, 59, 60, 61, 62, 63,
  64, 65, 66, 67, 68, 69, 70, 71, 72, 73, 74, 75, 79],
  [3, 9, 10, 11, 12, 13, 14, 15, 16, 17, 18, 19, 20, 21, 22, 23, 24, 25, 26, 27, 32, 38, 40, 41,
  46, 48, 49, 50, 51, 52, 55, 56, 57, 58, 59, 60, 61, 62, 63, 64, 65, 66, 67, 68, 69, 70, 71, 72,
  73, 74, 75, 77, 78, 79, 80, 81, 82, 83, 84, 85, 86, 87, 88, 89, 90, 91, 92, 93, 94, 95, 96, 97,
  98, 99, 100, 101, 102, 103, 104, 105, 106, 107, 108, 109, 110, 111, 112],
  [49],
  [3, 10, 16, 19, 20, 21, 22, 23, 24, 25, 26, 27, 55, 56, 57, 58, 59, 60, 61, 62, 63, 64, 65, 66,
  67, 68, 69, 70, 71, 74],
  [3, 16, 19, 20, 21, 22, 23, 24, 25, 26, 27, 55, 56, 57, 58, 59, 60, 61, 62, 63, 64, 65, 66, 67,
  68, 69, 70, 71, 74],
  [0, 2, 4, 5, 6, 7, 8, 9, 28, 29, 30, 33, 34, 35, 36, 37, 39, 41, 42],
  [10, 16, 20, 21, 22, 23, 24, 25, 26, 27, 32, 41, 51, 52, 55, 56, 57, 58, 59, 60, 61, 62, 63, 64,
  65, 66, 67, 68, 69, 70, 71, 72, 73, 74],
  [10, 32, 41],
  [3, 10, 16, 19, 20, 21, 22, 23, 24, 25, 26, 27, 38, 51, 52, 55, 56, 57, 58, 59, 62, 63, 64, 65,
  66, 67, 68, 69, 70, 71, 72, 73, 74, 75, 79],
  [3, 10, 16, 19, 20, 21, 22, 23, 24, 25, 26, 27, 38, 68, 69, 70, 71, 72, 73, 75, 79],
  [10, 41],
  [16, 20, 21, 22, 23, 24, 25, 26, 27, 32, 51, 52, 55, 56, 57, 58, 59, 60, 61, 62, 63, 64, 65, 66,
  67, 68, 69, 70, 71, 72, 73, 74],
  [32],
  [3, 9, 10, 11, 12, 13, 14, 15, 16, 17, 18, 19, 20, 21, 22, 23, 24, 25, 26, 27, 32, 38, 40, 41,
  46, 48, 49, 50, 51, 52, 55, 56, 57, 58, 59, 62, 63, 64, 65, 66, 67, 68, 69, 70, 71, 72, 73, 74,
  75, 77, 78, 79, 80, 81, 82, 83, 84, 85, 86, 87, 88, 89, 90, 91, 92, 93, 94, 95, 96, 97, 98, 99,
  100, 101, 102, 103, 104, 105, 106, 107, 108, 109, 110, 111, 112],
  [3, 9, 10, 11, 12, 13, 14, 15, 16, 17, 18, 19, 20, 21, 22, 23, 24, 25, 26, 27, 32, 38, 40, 41,
  46, 48, 49, 50, 68, 69, 70, 71, 72, 73, 75, 77, 78, 79, 80, 81, 82, 83, 84, 85, 86, 87, 88, 89,
  90, 91, 92, 93, 94, 95, 96, 97, 98, 99, 100, 101, 102, 103, 104, 105, 106, 107, 108, 109, 110,
  111, 112],
  [3, 10, 21, 22, 24, 51, 52, 55, 56, 57, 58, 59, 60, 61, 79],
  [3, 10, 11, 12, 13, 14, 15, 16, 17, 18, 19, 20, 21, 22, 23, 24, 25, 26, 27],
  [3, 10, 17, 32, 45, 54, 111, 112, 113],
  [3, 17, 32, 45, 54],
  [17, 51, 52, 111, 112, 113],
  [3, 10, 17, 32, 45, 49, 54, 111, 112, 113],
  [3, 10, 17, 32, 45, 46, 49, 50, 51, 52, 53, 54, 111, 112, 113],
  [3, 10, 17, 32, 49, 54, 111, 112, 113],
  [3, 17, 32, 49, 54],
  [9, 32, 40, 49, 77, 80, 81, 82, 83, 84, 85, 86, 87, 88, 89, 90, 91, 92, 93, 94, 95, 96, 97, 98,
  99, 100, 101, 102, 103, 104, 105, 106, 107, 108, 109, 110, 111, 112],
  [9, 32, 40, 49, 51, 52, 55, 56, 57, 58, 59, 60, 61, 62, 77, 80, 81, 82, 83, 84, 85, 86, 87, 88,
  89, 90, 91, 92, 93, 94, 95, 96, 97, 98, 99, 100, 101, 102, 103, 104, 105, 106, 107, 108, 109,
  110, 111, 112],
  [35, 36, 37, 39, 41],
  [3, 9, 10, 11, 12, 13, 14, 15, 16, 17, 18, 19, 20, 21, 22, 23, 24, 25, 26, 27, 32, 35, 36, 37,
  38, 39, 40, 41, 46, 47, 48, 49, 50, 51, 52, 55, 56, 57, 58, 59, 60, 61, 62, 63, 64, 65, 66, 67,
  68, 69, 70, 71, 72, 73, 74, 75, 77, 78, 79, 80, 81, 82, 83, 84, 85, 86, 87, 88, 89, 90, 91, 92,
  93, 94, 95, 96, 97, 98, 99, 100, 101, 102, 103, 104, 105, 106, 107, 108, 109, 110, 111, 112],
  [3, 10, 25, 38],
  [3, 10, 16, 19, 20, 21, 22, 23, 24, 25, 26, 27, 38, 51, 52, 56, 62, 63, 64, 65, 66, 67, 68, 69,
  70, 71, 72, 73, 74, 75, 79],
  [3, 10, 16, 19, 20, 21, 22, 23, 24, 25, 26, 27, 38, 62, 63, 64, 65, 66, 67, 68, 69, 70, 71, 72,
  73, 74, 75, 79],
  [3, 10, 16, 19, 20, 21, 22, 23, 24, 25, 26, 27, 38, 63, 64, 65, 68, 69, 70, 71, 72, 73, 75, 79],
  [3, 10, 16, 19, 20, 21, 22, 23, 24, 25, 26, 27, 38, 63, 64, 65, 66, 68, 69, 70, 71, 72, 73, 75,
  79],
  [3, 10, 16, 19, 20, 21, 22, 23, 24, 25, 26, 27, 38, 63, 64, 65, 66, 67, 68, 69, 70, 71, 72, 73,
  75, 79],
  [3, 10, 25, 38, 68, 69, 75, 79],
  [3, 10, 25, 38, 68, 69, 70, 71, 75, 79],
  [3, 10, 20, 21, 22, 23, 24, 25, 26, 27, 38, 68, 69, 70, 71, 75, 79],
  [3, 10, 16, 19, 20, 21, 22, 23, 24, 25, 26, 27, 38, 63, 64, 65, 66, 67, 68, 69, 70, 71, 72, 73,
  79],
  [3, 9, 10, 11, 12, 13, 14, 15, 16, 17, 18, 19, 20, 21, 22, 23, 24, 25, 26, 27, 32, 38, 40, 41,
  46, 48, 49, 50, 51, 52, 56, 62, 63, 64, 65, 66, 67, 68, 69, 70, 71, 72, 73, 74, 75, 77, 78, 79,
  80, 81, 82, 83, 84, 85, 86, 87, 88, 89, 90, 91, 92, 93, 94, 95, 96, 97, 98, 99, 100, 101, 102,
  103, 104, 105, 106, 107, 108, 109, 110, 111, 112],
  [3, 9, 10, 11, 12, 13, 14, 15, 17, 18, 32, 38, 40, 41, 46, 48, 49, 50, 68, 69, 75, 77, 78, 79,
  80, 81, 82, 83, 84, 85, 86, 87, 88, 89, 90, 91, 92, 93, 94, 95, 96, 97, 98, 99, 100, 101, 102,
  103, 104, 105, 106, 107, 108, 109, 110, 111, 112],
  [3, 9, 10, 11, 12, 13, 14, 15, 16, 17, 18, 19, 20, 21, 22, 23, 24, 25, 26, 27, 32, 38, 40, 41,
  46, 48, 49, 50, 62, 63, 64, 65, 66, 67, 68, 69, 70, 71, 72, 73, 74, 75, 77, 78, 79, 80, 81, 82,
  83, 84, 85, 86, 87, 88, 89, 90, 91, 92, 93, 94, 95, 96, 97, 98, 99, 100, 101, 102, 103, 104,
  105, 106, 107, 108, 109, 110, 111, 112],
  [3, 9, 10, 11, 12, 13, 14, 15, 16, 17, 18, 19, 20, 21, 22, 23, 24, 25, 26, 27, 32, 38, 40, 41,
  46, 48, 49, 50, 51, 52, 55, 56, 57, 58, 59, 60, 61, 62, 63, 64, 65, 66, 67, 68, 69, 70, 71, 72,
  73, 74, 75, 76, 77, 78, 79, 80, 81, 82, 83, 84, 85, 86, 87, 88, 89, 90, 91, 92, 93, 94, 95, 96,
  97, 98, 99, 100, 101, 102, 103, 104, 105, 106, 107, 108, 109, 110, 111, 112],
  [3, 10],
  [3, 9, 10, 11, 12, 13, 14, 15, 16, 17, 18, 19, 20, 21, 22, 23, 24, 25, 26, 27, 32, 38, 40, 41,
  46, 48, 49, 50, 63, 64, 65, 68, 69, 70, 71, 72, 73, 75, 77, 78, 79, 80, 81, 82, 83, 84, 85, 86,
  87, 88, 89, 90, 91, 92, 93, 94, 95, 96, 97, 98, 99, 100, 101, 102, 103, 104, 105, 106, 107, 108,
  109, 110, 111, 112],
  [3, 9, 10, 11, 12, 13, 14, 15, 16, 17, 18, 19, 20, 21, 22, 23, 24, 25, 26, 27, 32, 38, 40, 41,
  46, 48, 49, 50, 63, 64, 65, 66, 68, 69, 70, 71, 72, 73, 75, 77, 78, 79, 80, 81, 82, 83, 84, 85,
  86, 87, 88, 89, 90, 91, 92, 93, 94, 95, 96, 97, 98, 99, 100, 101, 102, 103, 104, 105, 106, 107,
  108, 109, 110, 111, 112],
  [3, 9, 10, 11, 12, 13, 14, 15, 16, 17, 18, 19, 20, 21, 22, 23, 24, 25, 26, 27, 32, 38, 40, 41,
  46, 48, 49, 50, 63, 64, 65, 66, 67, 68, 69, 70, 71, 72, 73, 75, 77, 78, 79, 80, 81, 82, 83, 84,
  85, 86, 87, 88, 89, 90, 91, 92, 93, 94, 95, 96, 97, 98, 99, 100, 101, 102, 103, 104, 105, 106,
  107, 108, 109, 110, 111, 112],
  [3, 9, 10, 11, 12, 13, 14, 15, 17, 18, 32, 38, 40, 41, 46, 48, 49, 50, 68, 69, 70, 71, 75, 77,
  78, 79, 80, 81, 82, 83, 84, 85, 86, 87, 88, 89, 90, 91, 92, 93, 94, 95, 96, 97, 98, 99, 100,
  101, 102, 103, 104, 105, 106, 107, 108, 109, 110, 111, 112],
  [3, 9, 10, 11, 12, 13, 14, 15, 17, 18, 20, 21, 22, 23, 24, 25, 26, 27, 32, 38, 40, 41, 46, 48,
  49, 50, 68, 69, 70, 71, 75, 77, 78, 79, 80, 81, 82, 83, 84, 85, 86, 87, 88, 89, 90, 91, 92, 93,
  94, 95, 96, 97, 98, 99, 100, 101, 102, 103, 104, 105, 106, 107, 108, 109, 110, 111, 112],
  [3, 9, 10, 11, 12, 13, 14, 15, 16, 17, 18, 19, 20, 21, 22, 23, 24, 25, 26, 27, 32, 38, 40, 41,
  46, 48, 49, 50, 63, 64, 65, 66, 67, 68, 69, 70, 71, 72, 73, 77, 78, 79, 80, 81, 82, 83, 84, 85,
  86, 87, 88, 89, 90, 91, 92, 93, 94, 95, 96, 97, 98, 99, 100, 101, 102, 103, 104, 105, 106, 107,
  108, 109, 110, 111, 112],
  [3, 10, 21, 22, 24, 51, 52, 55, 56, 57, 58, 59, 79],
  [46, 50],
  [17, 111, 112, 113],
  [10, 17, 111, 112, 113],
  [3, 10, 32, 49, 54],
  [3, 10, 17, 32, 49, 51, 52, 54, 111, 112, 113],
  [9, 32, 40, 49, 51, 52, 77, 80, 81, 82, 83, 84, 85, 86, 87, 88, 89, 90, 91, 92, 93, 94, 95, 96,
  97, 98, 99, 100, 101, 102, 103, 104, 105, 106, 107, 108, 109, 110, 111, 112],
  [9, 32, 40, 49, 51, 52, 55, 56, 57, 58, 59, 62, 77, 80, 81, 82, 83, 84, 85, 86, 87, 88, 89, 90,
  91, 92, 93, 94, 95, 96, 97, 98, 99, 100, 101, 102, 103, 104, 105, 106, 107, 108, 109, 110, 111,
  112],
  [3, 10, 25, 38, 75],
  [10, 50],
  [16, 19, 20, 21, 22, 23, 24, 25, 26, 27, 51, 52, 55, 56, 57, 58, 59, 60, 61, 62, 63, 64, 65, 66,
  67, 68, 69, 70, 71, 72, 73, 74],
  [3, 9, 10, 11, 12, 13, 14, 15, 17, 18, 32, 38, 40, 41, 46, 48, 49, 50, 75, 77, 78, 80, 81, 82,
  83, 84, 85, 86, 87, 88, 89, 90, 91, 92, 93, 94, 95, 96, 97, 98, 99, 100, 101, 102, 103, 104,
  105, 106, 107, 108, 109, 110, 111, 112],
  [3, 10, 21, 22, 24, 51, 52, 56, 79],
  [3, 10, 17, 32, 45, 54],
  [3],
  [10, 17, 32, 49, 54, 111, 112, 113],
  [9, 32, 40, 49, 51, 52, 56, 62, 77, 80, 81, 82, 83, 84, 85, 86, 87, 88, 89, 90, 91, 92, 93, 94,
  95, 96, 97, 98, 99, 100, 101, 102, 103, 104, 105, 106, 107, 108, 109, 110, 111, 112],
  [9, 32, 40, 49, 62, 77, 80, 81, 82, 83, 84, 85, 86, 87, 88, 89, 90, 91, 92, 93, 94, 95, 96, 97,
  98, 99, 100, 101, 102, 103, 104, 105, 106, 107, 108, 109, 110, 111, 112],
  [10, 46],
  [3, 10, 21, 22, 24],
  [10, 46, 50],
  [3, 10, 17, 32, 45, 53, 54, 111, 112, 113],
  [3, 10, 25, 38, 75, 79],
  [3, 9, 10, 11, 12, 13, 14, 15, 17, 18, 32, 38, 40, 41, 46, 48, 49, 50, 75, 77, 78, 79, 80, 81,
  82, 83, 84, 85, 86, 87, 88, 89, 90, 91, 92, 93, 94, 95, 96, 97, 98, 99, 100, 101, 102, 103, 104,
  105, 106, 107, 108, 109, 110, 111, 112],
  [3, 10, 21, 22, 24, 79]]

end MathProg.Automaton
