import MathProg.Automaton.Action

/-!
# What a state has begun

The nodes that are being made in a state: every way back from the state tells how many of their
children stand on the stack. Only nodes that some reduction further on makes are listed. The table is
in pages of 64 states, like the automaton's own.
-/

namespace MathProg.Automaton

/-- For each state, the symbols that are being made there, each with the number of its children that
stand on the stack. -/
def begunPages : Array (Array (List (Symbol × Nat))) := #[
  #[[], [], [], [(115, 1)], [(115, 1), (168, 1)], [(168, 1)], [(116, 1)], [(116, 1)], [(116, 1)],
    [(116, 1)], [(116, 1)], [(116, 1)], [(116, 1)], [(116, 1)], [(116, 1)], [(116, 1)], [(116, 1)],
    [(116, 1)], [(119, 1)], [(134, 1)], [(132, 1)], [(131, 1)], [(130, 1)], [(129, 1)], [(120, 1)],
    [(128, 1)], [(128, 1)], [(127, 1)], [(127, 1)], [(127, 1)], [(127, 1)], [(124, 1)], [(123, 1)],
    [(122, 1)], [(121, 1)], [(118, 1)], [(115, 2), (169, 1)], [(169, 1)], [(117, 1)], [(117, 1)],
    [(117, 1)], [(141, 1)], [(138, 1)], [(115, 2)], [(168, 1), (168, 2)], [(119, 2)], [(134, 2)],
    [(132, 2)], [(159, 1)], [(131, 2), (154, 1)], [(131, 2)], [(131, 2), (151, 1)], [(151, 1)],
    [(151, 1)], [(151, 1)], [(151, 1)], [(151, 1)], [(151, 1)], [(156, 1)], [(154, 1)], [(154, 1)],
    [(154, 1)], [(154, 1), (164, 1)], [(154, 1)]],
  #[[(154, 1)], [(154, 1)], [(154, 1)], [(158, 1)], [(158, 1)], [(158, 1), (167, 1)],
    [(158, 1), (167, 1)], [(158, 1)], [(158, 1)], [(158, 1)], [(159, 1), (161, 1)], [(166, 1)],
    [(167, 1)], [(167, 1)], [(167, 1)], [(167, 1)], [(167, 1)], [(167, 1)], [(167, 1)], [(167, 1)],
    [(167, 1)], [(167, 1)], [(167, 1)], [(167, 1)], [(167, 1)], [(167, 1)], [(167, 1)], [(167, 1)],
    [(167, 1)], [(167, 1)], [(167, 1)], [(167, 1)], [(167, 1)], [(167, 1)], [(167, 1)], [(167, 1)],
    [(130, 2), (154, 1)], [(130, 2)], [(130, 2), (150, 1)], [(150, 1)], [(150, 1)], [(150, 1)],
    [(150, 1)], [(150, 1)], [(150, 1)], [(155, 1)], [(129, 2), (154, 1)], [(129, 2)],
    [(129, 2), (150, 1)], [(120, 2)], [(128, 2)], [(128, 2)], [(127, 2)], [(127, 2)], [(127, 2)],
    [(127, 2)], [(124, 2)], [(124, 2)], [(123, 2)], [(122, 2)], [(121, 2)], [(118, 2)],
    [(169, 1), (169, 2)], [(141, 2)]],
  #[[(141, 2)], [(141, 2)], [(145, 1)], [(138, 2)], [(115, 3), (169, 1)], [(134, 3)], [(134, 3)],
    [(134, 3)], [(136, 1)], [(136, 1)], [(135, 1)], [(132, 3)], [(132, 3)], [(132, 3)], [(133, 1)],
    [(133, 1)], [(133, 1)], [(133, 1)], [(159, 2)], [(154, 1), (160, 1)], [(154, 1), (160, 1)],
    [(150, 1), (160, 1)], [(154, 1)], [(131, 3)], [(131, 3), (151, 1)], [(131, 3), (151, 1)],
    [(131, 3)], [(131, 3)], [(131, 3)], [(131, 3), (174, 1)], [(151, 2)], [(151, 2)], [(151, 2)],
    [(151, 2)], [(151, 2)], [(151, 2)], [(151, 2)], [(151, 2)], [(151, 2)], [(151, 2)], [(151, 2)],
    [(151, 2)], [(151, 2)], [(151, 2)], [(151, 2)], [(151, 2)], [(151, 2)], [(151, 2)], [(151, 2)],
    [(151, 2)], [(151, 2)], [(151, 2)], [(151, 2)], [(151, 2)], [(151, 2)], [(151, 2)], [(151, 2)],
    [(151, 2)], [(151, 2)], [(151, 2)], [(151, 2)], [(174, 1)], [(151, 1), (151, 2)],
    [(151, 1), (151, 2)]],
  #[[(151, 1), (151, 2)], [(151, 1), (151, 2)], [(150, 1), (156, 2)], [(154, 2)], [(154, 2)],
    [(165, 1)], [(150, 1), (154, 2), (164, 2)], [(154, 2)], [(158, 2)], [(158, 2)], [(158, 2)],
    [(158, 2)], [(158, 2)], [(158, 2)], [(158, 2)], [(161, 2), (162, 1)], [(161, 2)], [(162, 1)],
    [(154, 1), (160, 1), (163, 1)], [(150, 1), (160, 1), (163, 1)], [(166, 2)], [(130, 3)],
    [(130, 3), (150, 1)], [(130, 3), (150, 1)], [(130, 3)], [(130, 3), (173, 1)], [(150, 2)],
    [(150, 2)], [(150, 2)], [(150, 2)], [(150, 2)], [(150, 2)], [(150, 2)], [(150, 2)], [(150, 2)],
    [(150, 2)], [(150, 2)], [(150, 2)], [(150, 2)], [(150, 2)], [(150, 2)], [(150, 2)], [(150, 2)],
    [(150, 2)], [(150, 2)], [(150, 2)], [(150, 2)], [(150, 2)], [(150, 2)], [(150, 2)], [(150, 2)],
    [(150, 2)], [(150, 2)], [(150, 2)], [(150, 2)], [(150, 2)], [(150, 2)], [(150, 2)], [(173, 1)],
    [(150, 1), (150, 2)], [(150, 1), (150, 2)], [(150, 1), (150, 2)], [(150, 1), (150, 2)],
    [(150, 1), (155, 2)]],
  #[[(129, 3)], [(129, 3), (150, 1)], [(129, 3), (150, 1)], [(129, 3)], [(128, 3)], [(128, 3)],
    [(127, 3)], [(127, 3)], [(127, 3)], [(127, 3), (152, 1)], [(152, 1)], [(152, 1)], [(152, 1)],
    [(152, 1)], [(157, 1)], [(124, 3)], [(123, 3)], [(123, 3), (172, 1)], [(172, 1)], [(125, 1)],
    [(125, 1)], [(126, 1)], [(126, 1)], [(126, 1)], [(126, 1)], [(126, 1)], [(126, 1)], [(126, 1)],
    [(126, 1)], [(126, 1)], [(126, 1)], [(126, 1)], [(126, 1)], [(126, 1)], [(126, 1)], [(126, 1)],
    [(126, 1)], [(126, 1)], [(122, 3)], [(122, 3), (171, 1)], [(171, 1)], [(121, 3)],
    [(121, 3), (170, 1)], [(170, 1)], [(141, 3)], [(141, 3), (183, 1)], [(183, 1)], [(183, 1)],
    [(142, 1)], [(142, 1)], [(142, 1), (146, 1)], [(142, 1)], [(143, 1)], [(144, 1)], [(144, 1)],
    [(146, 1)], [(149, 1)], [(149, 1)], [(149, 1)], [(141, 3)], [(141, 3)], [(145, 2)], [(138, 3)],
    [(138, 3), (181, 1)]],
  #[[(181, 1)], [(181, 1)], [(139, 1)], [(139, 1)], [(139, 1), (146, 1)], [(139, 1)], [(140, 1)],
    [(147, 1)], [(134, 4)], [(134, 4)], [(134, 4)], [(134, 4)], [(136, 2)], [(136, 2), (179, 1)],
    [(153, 1), (179, 1)], [(153, 1)], [(153, 1)], [(153, 1)], [(153, 1)], [(135, 2), (176, 1)],
    [(153, 1), (176, 1)], [(132, 4)], [(132, 4)], [(132, 4), (175, 1)], [(175, 1)], [(159, 3)],
    [(159, 3)], [(159, 3), (189, 1)], [(189, 1)], [(160, 2)], [(160, 2)], [(131, 4), (151, 1)],
    [(131, 4)], [(131, 4)], [(131, 4)], [(131, 4), (174, 1)], [(131, 4)], [(131, 4)], [(131, 4)],
    [(131, 4), (174, 1)], [(131, 4), (150, 1)], [(131, 4), (150, 1)], [(131, 4)], [(131, 4)],
    [(131, 4)], [(174, 1), (174, 2)], [(151, 1), (151, 3)], [(151, 1), (151, 3)],
    [(151, 1), (151, 3)], [(151, 1), (151, 3)], [(151, 1), (151, 3)], [(151, 1), (151, 3)],
    [(151, 1), (151, 3)], [(151, 1), (151, 3)], [(151, 1), (151, 3)], [(151, 1), (151, 3)],
    [(151, 1), (151, 3)], [(151, 1), (151, 3)], [(151, 1), (151, 3)], [(151, 1), (151, 3)],
    [(151, 1), (151, 3)], [(151, 1), (151, 3)], [(151, 1), (151, 3)], [(151, 1), (151, 3)]],
  #[[(151, 1), (151, 3)], [(151, 1), (151, 3)], [(151, 1), (151, 3)], [(151, 1), (151, 3)],
    [(151, 1), (151, 3)], [(151, 1), (151, 3)], [(151, 1), (151, 3)], [(151, 1), (151, 3)],
    [(151, 1), (151, 3)], [(151, 1), (151, 3)], [(151, 3)], [(151, 3)], [(151, 3)], [(151, 3)],
    [(151, 1), (151, 3)], [(151, 1), (174, 2)], [(156, 3)], [(154, 3)], [(150, 1), (165, 2)],
    [(154, 3)], [(164, 3), (190, 1)], [(190, 1)], [(150, 1), (158, 3)], [(150, 1), (158, 3)],
    [(150, 1), (158, 3)], [(150, 1), (158, 3)], [(150, 1), (158, 3)], [(150, 1), (158, 3)],
    [(150, 1), (158, 3)], [(161, 3)], [(162, 2)], [(150, 1), (166, 3)], [(166, 3)],
    [(130, 4), (150, 1)], [(130, 4)], [(130, 4), (173, 1)], [(130, 4)], [(130, 4), (173, 1)],
    [(130, 4)], [(173, 1), (173, 2)], [(150, 1), (150, 3)], [(150, 1), (150, 3)],
    [(150, 1), (150, 3)], [(150, 1), (150, 3)], [(150, 1), (150, 3)], [(150, 1), (150, 3)],
    [(150, 1), (150, 3)], [(150, 1), (150, 3)], [(150, 1), (150, 3)], [(150, 1), (150, 3)],
    [(150, 1), (150, 3)], [(150, 1), (150, 3)], [(150, 1), (150, 3)], [(150, 1), (150, 3)],
    [(150, 1), (150, 3)], [(150, 1), (150, 3)], [(150, 1), (150, 3)], [(150, 1), (150, 3)],
    [(150, 1), (150, 3)], [(150, 1), (150, 3)], [(150, 1), (150, 3)], [(150, 1), (150, 3)],
    [(150, 1), (150, 3)], [(150, 1), (150, 3)]],
  #[[(150, 1), (150, 3)], [(150, 1), (150, 3)], [(150, 1), (150, 3)], [(150, 1), (150, 3)],
    [(150, 1), (150, 3)], [(150, 3)], [(150, 3)], [(150, 3)], [(150, 3)], [(150, 1), (150, 3)],
    [(150, 1), (173, 2)], [(155, 3)], [(129, 4), (150, 1)], [(129, 4)], [(129, 4)],
    [(128, 4), (152, 1)], [(128, 4), (152, 1)], [(127, 4), (152, 1)], [(127, 4)], [(127, 4)],
    [(127, 4)], [(127, 4)], [(127, 4)], [(127, 4)], [(152, 2)], [(152, 2)], [(152, 2)], [(152, 2)],
    [(152, 2)], [(152, 2)], [(152, 2)], [(152, 2)], [(152, 2)], [(152, 1), (152, 2)],
    [(152, 1), (152, 2)], [(150, 1), (157, 2)], [(123, 4)], [(172, 1), (172, 2)], [(125, 2)],
    [(126, 2)], [(126, 2), (150, 1)], [(126, 2), (150, 1)], [(126, 2), (150, 1)],
    [(126, 2), (150, 1)], [(126, 2), (150, 1)], [(126, 2), (150, 1)], [(126, 2), (150, 1)],
    [(126, 2), (150, 1)], [(126, 2), (150, 1)], [(126, 2), (150, 1)], [(126, 2), (150, 1)],
    [(126, 2), (150, 1)], [(122, 4)], [(171, 1), (171, 2)], [(121, 4)], [(170, 1), (170, 2)],
    [(141, 4)], [(141, 4)], [(183, 1), (183, 2)], [(183, 2)], [(142, 2)], [(148, 1)], [(148, 1)],
    [(146, 2)]],
  #[[(146, 2)], [(143, 2), (184, 1)], [(184, 1)], [(144, 2)], [(141, 4)], [(145, 3)], [(145, 3)],
    [(145, 3), (186, 1)], [(186, 1)], [(186, 1)], [(138, 4), (181, 1)], [(138, 4)],
    [(181, 1), (181, 2)], [(181, 2)], [(139, 2)], [(140, 2), (182, 1)], [(182, 1)], [(182, 1)],
    [(182, 1)], [(182, 1)], [(147, 2)], [(134, 5)], [(134, 5)], [(136, 3), (179, 1)], [(136, 3)],
    [(179, 1), (179, 2)], [(153, 2)], [(153, 2)], [(153, 2)], [(153, 2)], [(153, 2)], [(153, 2)],
    [(153, 2)], [(153, 2)], [(153, 2)], [(153, 2)], [(153, 1), (153, 2)], [(153, 1), (153, 2)],
    [(135, 3)], [(176, 1), (176, 2)], [(132, 5), (175, 1)], [(132, 5)], [(175, 1), (175, 2)],
    [(150, 1), (159, 4)], [(159, 4)], [(159, 4)], [(189, 1), (189, 2)], [(189, 2)],
    [(150, 1), (160, 3)], [(150, 1), (160, 3)], [(131, 5)], [(131, 5)], [(131, 5)],
    [(131, 5), (174, 1)], [(131, 5), (150, 1)], [(131, 5), (150, 1)], [(131, 5)], [(131, 5)],
    [(131, 5)], [(131, 5), (150, 1)], [(131, 5), (150, 1)], [(131, 5)], [(131, 5)], [(131, 5)]],
  #[[(131, 5)], [(131, 5)], [(131, 5), (150, 1)], [(131, 5), (150, 1)], [(151, 1), (151, 4)],
    [(151, 1), (151, 4)], [(151, 1), (151, 4)], [(151, 1), (151, 4)], [(151, 4)],
    [(151, 1), (156, 4)], [(165, 3)], [(165, 3), (191, 1)], [(191, 1)], [(154, 4)], [(164, 4)],
    [(190, 1), (190, 2)], [(150, 1), (190, 2)], [(162, 3)], [(154, 1), (163, 1)],
    [(150, 1), (163, 1)], [(166, 4)], [(166, 4), (192, 1)], [(192, 1)], [(130, 5)],
    [(130, 5), (173, 1)], [(130, 5)], [(130, 5)], [(150, 1), (150, 4)], [(150, 1), (150, 4)],
    [(150, 1), (150, 4)], [(150, 1), (150, 4)], [(150, 4)], [(150, 1), (155, 4)], [(129, 5)],
    [(128, 5)], [(128, 5)], [(127, 5)], [(127, 5)], [(127, 5)], [(127, 5)], [(127, 5), (152, 1)],
    [(127, 5), (152, 1)], [(127, 5)], [(127, 5)], [(127, 5)], [(127, 5), (152, 1)],
    [(127, 5), (152, 1)], [(127, 5), (152, 1)], [(152, 1), (152, 3)], [(152, 1), (152, 3)],
    [(152, 1), (152, 3)], [(152, 1), (152, 3)], [(152, 1), (152, 3)], [(152, 1), (152, 3)],
    [(152, 1), (152, 3)], [(152, 1), (152, 3)], [(152, 1), (152, 3)], [(157, 3)],
    [(141, 5), (183, 1)], [(142, 3)], [(148, 2), (188, 1)], [(188, 1)], [(148, 2), (188, 1)],
    [(146, 3)]],
  #[[(143, 3)], [(184, 1), (184, 2)], [(141, 5)], [(145, 4)], [(145, 4), (146, 1)], [(145, 4)],
    [(186, 1), (186, 2)], [(186, 2)], [(138, 5)], [(139, 3)], [(182, 1), (182, 2)], [(147, 3)],
    [(147, 3), (187, 1)], [(187, 1)], [(136, 4)], [(136, 4), (150, 1)], [(153, 1), (153, 3)],
    [(153, 1), (153, 3)], [(153, 1), (153, 3)], [(153, 1), (153, 3)], [(153, 1), (153, 3)],
    [(153, 1), (153, 3)], [(153, 1), (153, 3)], [(153, 1), (153, 3)], [(153, 1), (153, 3)],
    [(153, 1), (153, 3)], [(135, 4)], [(135, 4)], [(132, 6)], [(159, 5)], [(150, 1), (159, 5)],
    [(131, 6), (150, 1)], [(131, 6), (150, 1)], [(131, 6)], [(131, 6)], [(131, 6)], [(131, 6)],
    [(131, 6)], [(131, 6), (150, 1)], [(131, 6), (150, 1)], [(131, 6)], [(131, 6)],
    [(131, 6), (150, 1)], [(131, 6), (150, 1)], [(131, 6)], [(131, 6)], [(151, 1), (151, 5)],
    [(156, 5)], [(165, 4)], [(191, 1), (191, 2)], [(150, 1), (191, 2)], [(166, 5)],
    [(192, 1), (192, 2)], [(150, 1), (192, 2)], [(130, 6)], [(150, 1), (150, 5)], [(155, 5)],
    [(127, 6)], [(127, 6)], [(127, 6)], [(127, 6), (152, 1)], [(127, 6), (152, 1)],
    [(127, 6), (152, 1)], [(127, 6)]],
  #[[(127, 6)], [(127, 6)], [(127, 6)], [(127, 6)], [(127, 6)], [(127, 6)], [(127, 6)],
    [(127, 6), (152, 1)], [(127, 6), (152, 1)], [(127, 6), (152, 1)], [(127, 6)], [(127, 6)],
    [(127, 6)], [(127, 6)], [(127, 6)], [(127, 6)], [(127, 6)], [(127, 6)], [(127, 6)], [(127, 6)],
    [(127, 6)], [(127, 6)], [(152, 1), (157, 4)], [(141, 6)], [(188, 1), (188, 2)], [(188, 2)],
    [(188, 2)], [(143, 4), (185, 1)], [(185, 1)], [(185, 1)], [(145, 5)], [(145, 5), (186, 1)],
    [(145, 5), (146, 1)], [(147, 4)], [(187, 1), (187, 2)], [(187, 2)], [(136, 5), (150, 1)],
    [(136, 5)], [(136, 5), (180, 1)], [(180, 1)], [(135, 5)], [(135, 5)], [(159, 6)], [(131, 7)],
    [(131, 7)], [(131, 7), (150, 1)], [(131, 7), (150, 1)], [(131, 7)], [(131, 7)], [(131, 7)],
    [(131, 7)], [(151, 1), (156, 6)], [(150, 1), (155, 6)], [(127, 7), (152, 1)],
    [(127, 7), (152, 1)], [(127, 7), (152, 1)], [(127, 7)], [(127, 7)], [(127, 7)], [(127, 7)],
    [(127, 7)], [(127, 7)], [(127, 7)], [(127, 7)]],
  #[[(127, 7)], [(127, 7)], [(127, 7)], [(127, 7)], [(127, 7)], [(127, 7)], [(127, 7)],
    [(127, 7), (152, 1)], [(127, 7), (152, 1)], [(127, 7), (152, 1)], [(127, 7)], [(127, 7)],
    [(127, 7)], [(127, 7), (152, 1)], [(127, 7), (152, 1)], [(127, 7), (152, 1)], [(127, 7)],
    [(127, 7)], [(127, 7)], [(127, 7)], [(127, 7)], [(127, 7)], [(127, 7)], [(127, 7)], [(127, 7)],
    [(127, 7)], [(127, 7)], [(127, 7)], [(127, 7)], [(127, 7)], [(127, 7), (152, 1)],
    [(127, 7), (152, 1)], [(127, 7)], [(127, 7)], [(127, 7), (152, 1)], [(127, 7), (152, 1)],
    [(127, 7)], [(127, 7)], [(127, 7), (152, 1)], [(127, 7), (152, 1)], [(157, 5)],
    [(185, 1), (185, 2)], [(145, 6), (146, 1)], [(145, 6)], [(136, 6)], [(136, 6), (180, 1)],
    [(136, 6)], [(180, 1), (180, 2)], [(150, 1), (180, 2)], [(135, 6)], [(135, 6)],
    [(135, 6), (177, 1)], [(177, 1)], [(131, 8)], [(131, 8)], [(127, 8)], [(127, 8)], [(127, 8)],
    [(127, 8)], [(127, 8)], [(127, 8)], [(127, 8)], [(127, 8)], [(127, 8)]],
  #[[(127, 8)], [(127, 8)], [(127, 8)], [(127, 8)], [(127, 8)], [(127, 8), (152, 1)],
    [(127, 8), (152, 1)], [(127, 8)], [(127, 8)], [(127, 8), (152, 1)], [(127, 8), (152, 1)],
    [(127, 8)], [(127, 8)], [(127, 8), (152, 1)], [(127, 8), (152, 1)], [(127, 8), (152, 1)],
    [(127, 8), (152, 1)], [(127, 8), (152, 1)], [(127, 8)], [(127, 8)], [(127, 8)], [(127, 8)],
    [(127, 8)], [(127, 8)], [(127, 8)], [(127, 8)], [(127, 8)], [(127, 8)], [(127, 8)], [(127, 8)],
    [(127, 8), (152, 1)], [(127, 8), (152, 1)], [(127, 8), (152, 1)], [(127, 8)], [(127, 8)],
    [(127, 8)], [(127, 8)], [(127, 8)], [(127, 8)], [(127, 8)], [(127, 8)], [(127, 8)], [(127, 8)],
    [(127, 8)], [(127, 8)], [(127, 8)], [(127, 8)], [(127, 8), (152, 1)], [(127, 8), (152, 1)],
    [(127, 8)], [(127, 8)], [(127, 8), (152, 1)], [(127, 8), (152, 1)], [(127, 8)], [(127, 8)],
    [(127, 8), (152, 1)], [(127, 8), (152, 1)], [(127, 8), (152, 1)], [(127, 8), (152, 1)],
    [(127, 8)], [(127, 8)], [(127, 8), (152, 1)], [(127, 8), (152, 1)], [(127, 8)]],
  #[[(127, 8)], [(127, 8), (152, 1)], [(127, 8), (152, 1)], [(127, 8)], [(127, 8)],
    [(152, 1), (157, 6)], [(145, 7), (146, 1)], [(136, 7)], [(136, 7), (180, 1)], [(180, 3)],
    [(135, 7)], [(135, 7), (178, 1)], [(178, 1)], [(135, 7)], [(177, 1), (177, 2)], [(177, 2)],
    [(127, 9)], [(127, 9)], [(127, 9), (152, 1)], [(127, 9), (152, 1)], [(127, 9)], [(127, 9)],
    [(127, 9), (152, 1)], [(127, 9), (152, 1)], [(127, 9)], [(127, 9)], [(127, 9), (152, 1)],
    [(127, 9), (152, 1)], [(127, 9), (152, 1)], [(127, 9), (152, 1)], [(127, 9)], [(127, 9)],
    [(127, 9), (152, 1)], [(127, 9), (152, 1)], [(127, 9)], [(127, 9)], [(127, 9), (152, 1)],
    [(127, 9), (152, 1)], [(127, 9)], [(127, 9)], [(127, 9)], [(127, 9)], [(127, 9)], [(127, 9)],
    [(127, 9)], [(127, 9)], [(127, 9)], [(127, 9)], [(127, 9)], [(127, 9)], [(127, 9)], [(127, 9)],
    [(127, 9)], [(127, 9)], [(127, 9), (152, 1)], [(127, 9), (152, 1)], [(127, 9)], [(127, 9)],
    [(127, 9), (152, 1)], [(127, 9), (152, 1)], [(127, 9)], [(127, 9)], [(127, 9), (152, 1)],
    [(127, 9), (152, 1)]],
  #[[(127, 9)], [(127, 9)], [(127, 9)], [(127, 9)], [(127, 9)], [(127, 9)], [(127, 9)], [(127, 9)],
    [(127, 9)], [(127, 9)], [(127, 9)], [(127, 9)], [(127, 9)], [(127, 9)], [(127, 9), (152, 1)],
    [(127, 9), (152, 1)], [(127, 9)], [(127, 9)], [(127, 9), (152, 1)], [(127, 9), (152, 1)],
    [(127, 9)], [(127, 9)], [(127, 9), (152, 1)], [(127, 9), (152, 1)], [(127, 9), (152, 1)],
    [(127, 9), (152, 1)], [(127, 9)], [(127, 9)], [(127, 9), (152, 1)], [(127, 9), (152, 1)],
    [(127, 9)], [(127, 9)], [(127, 9), (152, 1)], [(127, 9), (152, 1)], [(127, 9)], [(127, 9)],
    [(127, 9)], [(127, 9)], [(127, 9)], [(127, 9)], [(127, 9)], [(127, 9)], [(136, 8), (180, 1)],
    [(180, 4)], [(135, 8)], [(135, 8), (177, 1)], [(178, 1), (178, 2)], [(178, 2)], [(137, 1)],
    [(135, 8), (178, 1)], [(127, 10), (152, 1)], [(127, 10), (152, 1)], [(127, 10)], [(127, 10)],
    [(127, 10), (152, 1)], [(127, 10), (152, 1)], [(127, 10)], [(127, 10)], [(127, 10), (152, 1)],
    [(127, 10), (152, 1)], [(127, 10)], [(127, 10)], [(127, 10)], [(127, 10)]],
  #[[(127, 10)], [(127, 10)], [(127, 10)], [(127, 10)], [(127, 10)], [(127, 10)],
    [(127, 10), (152, 1)], [(127, 10), (152, 1)], [(127, 10)], [(127, 10)], [(127, 10), (152, 1)],
    [(127, 10), (152, 1)], [(127, 10)], [(127, 10)], [(127, 10), (152, 1)], [(127, 10), (152, 1)],
    [(127, 10), (152, 1)], [(127, 10), (152, 1)], [(127, 10)], [(127, 10)], [(127, 10), (152, 1)],
    [(127, 10), (152, 1)], [(127, 10)], [(127, 10)], [(127, 10), (152, 1)], [(127, 10), (152, 1)],
    [(127, 10)], [(127, 10)], [(127, 10)], [(127, 10)], [(127, 10), (152, 1)],
    [(127, 10), (152, 1)], [(127, 10)], [(127, 10)], [(127, 10), (152, 1)], [(127, 10), (152, 1)],
    [(127, 10)], [(127, 10)], [(127, 10), (152, 1)], [(127, 10), (152, 1)], [(127, 10), (152, 1)],
    [(127, 10), (152, 1)], [(127, 10)], [(127, 10)], [(127, 10), (152, 1)], [(127, 10), (152, 1)],
    [(127, 10)], [(127, 10)], [(127, 10), (152, 1)], [(127, 10), (152, 1)], [(127, 10)],
    [(127, 10)], [(127, 10)], [(127, 10)], [(127, 10)], [(127, 10)], [(127, 10)], [(127, 10)],
    [(135, 9), (178, 1)], [(135, 9)], [(137, 2)], [(127, 11)], [(127, 11)], [(127, 11)]],
  #[[(127, 11)], [(127, 11)], [(127, 11)], [(127, 11), (152, 1)], [(127, 11), (152, 1)],
    [(127, 11)], [(127, 11)], [(127, 11), (152, 1)], [(127, 11), (152, 1)], [(127, 11)],
    [(127, 11)], [(127, 11), (152, 1)], [(127, 11), (152, 1)], [(127, 11)], [(127, 11)],
    [(127, 11)], [(127, 11)], [(127, 11)], [(127, 11)], [(127, 11)], [(127, 11)],
    [(127, 11), (152, 1)], [(127, 11), (152, 1)], [(127, 11)], [(127, 11)], [(127, 11), (152, 1)],
    [(127, 11), (152, 1)], [(127, 11)], [(127, 11)], [(127, 11), (152, 1)], [(127, 11), (152, 1)],
    [(127, 11)], [(127, 11)], [(127, 11)], [(127, 11)], [(127, 11)], [(127, 11)], [(127, 11)],
    [(127, 11)], [(135, 10), (178, 1)], [(137, 3)], [(127, 12)], [(127, 12)], [(127, 12)],
    [(127, 12)], [(127, 12)], [(127, 12)], [(127, 12)], [(127, 12)], [(127, 12)], [(127, 12)],
    [(127, 12)], [(127, 12)]]]

end MathProg.Automaton
