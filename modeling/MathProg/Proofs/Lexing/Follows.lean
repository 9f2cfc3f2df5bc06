import MathProg.Proofs.Lexing.Keywords

/-!
# Values in another context

A value is read in the same way in another context, if what follows it begins in the same way and then
ends or goes on with a blank or a comment. Only the words that may begin a data statement look at more than
that.
-/

namespace MathProg

/-- Where a token may be cut off: before a blank or a comment, and at the end of the text. -/
def Cut (cs : List Char) : Prop := ∀ c ∈ cs.head?, isBlank c = true ∨ c = '/'

theorem Ends.cut {cs : List Char} (h : Ends cs) : Cut cs := fun c hc => Or.inl (h c hc)

theorem isNameChar_of_cut {c : Char} (h : isBlank c = true ∨ c = '/') : isNameChar c = false := by
  rcases h with hb | rfl
  · by_contra hn
    rw [isBlank_of_isNameChar (by simpa using hn)] at hb
    cases hb
  · decide

/-- Two texts with the same beginning, behind which the second one is cut off. A single point in common is
not followed by another point, so that no range is cut. -/
inductive Follows : List Char → List Char → Prop
  | mk (common : List Char) {tail tail' : List Char} (hcut : Cut tail')
      (hpoint : tail.head? = some '.' → common ≠ ['.']) : Follows (common ++ tail) (common ++ tail')

namespace Follows

variable {rest rest' : List Char}

theorem refl (rest : List Char) : Follows rest rest := by
  have h : Follows (rest ++ []) (rest ++ []) :=
    .mk rest (fun c hc => absurd hc (Option.not_mem_none _)) (fun h => by cases h)
  rwa [List.append_nil] at h

/-- A stretch that ends before the first text ends before the second one. -/
theorem stops {p : Char → Bool} (h : Follows rest rest')
    (hp : ∀ c, isBlank c = true ∨ c = '/' → p c = false) (hs : Value.Stops p rest) :
    Value.Stops p rest' := by
  obtain ⟨common, hcut, -⟩ := h
  cases common with
  | nil => exact fun c hc => hp c (hcut c hc)
  | cons c common => exact hs

/-- A beginning of the second text that has no blanks and no slashes is a beginning of the first one. -/
theorem prefix_append {v w : List Char} (h : Follows rest rest')
    (hv : ∀ c ∈ v, isBlank c = false ∧ c ≠ '/') (hw : v <+: w ++ rest') : v <+: w ++ rest := by
  obtain ⟨common, hcut, -⟩ := h
  rw [← List.append_assoc] at hw ⊢
  refine (prefix_of_not_mem (fun c hc hmem => ?_) hw).trans (List.prefix_append _ _)
  obtain ⟨hblank, hslash⟩ := hv c hc
  exact Bool.false_ne_true (hblank.symm.trans ((hcut c hmem).resolve_right hslash))

theorem head_ne_point (h : Follows rest rest') (hr : rest.head? ≠ some '.') : rest'.head? ≠ some '.' := by
  obtain ⟨common, hcut, -⟩ := h
  cases common with
  | nil => exact fun hp => absurd (hcut '.' hp) (by decide)
  | cons c common => exact hr

end Follows

namespace Value

variable {p : Char → Bool} {w rest rest' : List Char}

theorem stops_of_takeWhile (h : rest.takeWhile p = []) : Stops p rest := by
  intro c hc
  obtain ⟨tail, rfl⟩ := List.head?_eq_some_iff.mp hc
  by_contra hp
  rw [List.takeWhile_cons_of_pos (by simpa using hp)] at h
  cases h

/-- A stretch of characters ends at the same place. -/
theorem takeWhile_follows (hs : Stops p rest → Stops p rest')
    (hle : ((w ++ rest).takeWhile p).length ≤ w.length) :
    (w ++ rest').takeWhile p = (w ++ rest).takeWhile p := by
  induction w with
  | nil =>
    have hnil : rest.takeWhile p = [] := List.eq_nil_of_length_eq_zero (Nat.le_zero.mp hle)
    rw [List.nil_append, List.nil_append, hnil, takeWhile_of_stops (hs (stops_of_takeWhile hnil))]
  | cons c w ih =>
    rw [List.cons_append, List.cons_append]
    by_cases hc : p c = true
    · rw [List.cons_append, List.takeWhile_cons_of_pos hc, List.length_cons, List.length_cons,
        Nat.succ_le_succ_iff] at hle
      rw [List.takeWhile_cons_of_pos hc, List.takeWhile_cons_of_pos hc, ih hle]
    · rw [List.takeWhile_cons_of_neg hc, List.takeWhile_cons_of_neg hc]

theorem stringRest_pos {q : Char} {cs : List Char} {n : Nat} (h : stringRest q cs = some n) : n ≠ 0 := by
  rintro rfl
  obtain ⟨⟨body, hb⟩, -⟩ := Lexeme.stringRest_some h
  rw [List.take_zero] at hb
  exact absurd hb.symm (List.append_ne_nil_of_right_ne_nil _ (List.cons_ne_nil _ _))

theorem stringRest_follows {q : Char} (hq : rest'.head? = some q → rest.head? = some q) :
    ∀ w : List Char, stringRest q (w ++ rest) = some w.length →
      stringRest q (w ++ rest') = some w.length
  | [], h => absurd rfl (stringRest_pos h)
  | [c], h => by
    by_cases hc : c = q
    · have hrest : rest.head? ≠ some q := by
        rintro hhead
        obtain ⟨tail, rfl⟩ := List.head?_eq_some_iff.mp hhead
        rw [List.singleton_append, stringRest, if_pos hc, if_pos rfl] at h
        obtain ⟨n, -, hn⟩ := Option.map_eq_some_iff.mp h
        cases hn
      cases hrest' : rest' with
      | nil => rw [List.append_nil, stringRest, if_pos hc]; rfl
      | cons d tail =>
        have hd : d ≠ q := fun hd => hrest (hq (by rw [hrest', hd]; rfl))
        rw [List.singleton_append, stringRest, if_pos hc, if_neg hd]
        rfl
    · -- a string does not end at another character
      cases hrest : rest with
      | nil =>
        rw [hrest, List.append_nil, stringRest, if_neg hc] at h
        cases h
      | cons d tail =>
        rw [hrest, List.singleton_append, stringRest, if_neg hc] at h
        obtain ⟨n, hn, hone⟩ := Option.map_eq_some_iff.mp h
        exact absurd (Nat.succ.inj hone) (stringRest_pos hn)
  | c :: d :: w, h => by
    rw [List.cons_append, List.cons_append, stringRest] at h ⊢
    split at h
    · rename_i hc
      rw [if_pos hc]
      split at h
      · rename_i hd
        obtain ⟨n, hn, he⟩ := Option.map_eq_some_iff.mp h
        obtain rfl : n = w.length := Nat.succ.inj (Nat.succ.inj he)
        rw [if_pos hd, stringRest_follows hq w hn]
        rfl
      · cases h
    · rename_i hc
      obtain ⟨n, hn, he⟩ := Option.map_eq_some_iff.mp h
      obtain rfl : n = (d :: w).length := Nat.succ.inj he
      have ih := stringRest_follows hq (d :: w) hn
      rw [List.cons_append] at ih
      rw [if_neg hc, ih]
      rfl

theorem string?_follows {q : Char} (h : Follows rest rest') (hq : q = '\'' ∨ q = '"')
    (hw : string? (q :: (w ++ rest)) = some (w.length + 1)) :
    string? (q :: (w ++ rest')) = some (w.length + 1) := by
  obtain ⟨n, hn, he⟩ := Option.map_eq_some_iff.mp hw
  obtain rfl : n = w.length := Nat.succ.inj he
  have hhead : rest'.head? = some q → rest.head? = some q := by
    obtain ⟨common, hcut, -⟩ := h
    cases common with
    | nil =>
      intro hx
      have hno := hcut q hx
      rcases hq with rfl | rfl
      · exact absurd hno (by decide)
      · exact absurd hno (by decide)
    | cons c common => exact id
  rw [string?, stringRest_follows hhead w hn]
  rfl

open Lexeme (IsDigits IsSign)

theorem isDigit_of_cut {c : Char} (h : isBlank c = true ∨ c = '/') : c.isDigit = false := by
  rcases h with hb | rfl
  · exact isDigit_of_isBlank hb
  · decide

theorem exponent_cut (h : Cut rest) : exponent rest = 0 := by
  cases rest with
  | nil => rfl
  | cons c rest =>
    have hno := h c rfl
    refine if_neg fun hc => ?_
    simp only [Bool.or_eq_true, decide_eq_true_eq] at hc
    rcases hc with rfl | rfl
    · exact absurd hno (by decide)
    · exact absurd hno (by decide)

theorem digits_follows (h : Follows rest rest') (hle : digits (w ++ rest) ≤ w.length) :
    digits (w ++ rest') = digits (w ++ rest) := by
  unfold digits at hle ⊢
  rw [takeWhile_follows (h.stops fun _ => isDigit_of_cut) hle]

/-- A marker, perhaps a sign, and digits, and what follows is no digit. -/
theorem exponent_cons {c : Char} {sign d : List Char} (hc : c = 'e' ∨ c = 'E') (hs : IsSign sign)
    (hd : IsDigits d) (hne : d ≠ []) :
    exponent (c :: (sign ++ (d ++ rest))) = 1 + sign.length + digits (d ++ rest) := by
  have hsign : signLength (sign ++ (d ++ rest)) = sign.length := signLength_append hs hd hne
  have hdigits : digits (d ++ rest) ≠ 0 := by
    obtain ⟨x, d, rfl⟩ := List.exists_cons_of_ne_nil hne
    rw [digits, List.cons_append, List.takeWhile_cons_of_pos (hd x List.mem_cons_self)]
    exact Nat.succ_ne_zero _
  rw [exponent, if_pos (by simpa using hc), hsign]
  dsimp only
  rw [List.drop_left, if_neg hdigits]

theorem exponent_follows (h : Follows rest rest') (hw : exponent (w ++ rest) = w.length) :
    exponent (w ++ rest') = w.length := by
  have hlex := (Lexeme.exponent_some (w ++ rest)).1
  rw [hw, List.take_left] at hlex
  obtain rfl | ⟨c, sign, d, hc, hs, hne, hd, rfl⟩ := hlex
  · -- what would be read in the second text is in the first one as well
    rw [List.nil_append] at hw ⊢
    by_contra hzero
    obtain ⟨hexp, hle⟩ := Lexeme.exponent_some rest'
    have hblank : ∀ c ∈ rest'.take (exponent rest'), isBlank c = false ∧ c ≠ '/' := by
      obtain hnil | ⟨c, sign, d, hc, hs, hne, hd, hcs⟩ := hexp
      · rw [hnil]
        exact fun c hc => absurd hc List.not_mem_nil
      · rw [hcs]
        refine List.forall_mem_cons.mpr ⟨?_, List.forall_mem_append.mpr ⟨?_, fun x hx => ?_⟩⟩
        · rcases hc with rfl | rfl <;> decide
        · rcases hs with rfl | rfl | rfl <;> simp [isBlank]
        · have hdigit := hd x hx
          constructor
          · by_contra hb
            rw [isDigit_of_isBlank (by simpa using hb)] at hdigit
            cases hdigit
          · rintro rfl
            cases hdigit
    obtain ⟨tail, htail⟩ := h.prefix_append (w := []) hblank (List.take_prefix _ _)
    rw [List.nil_append] at htail
    obtain hnil | ⟨c, sign, d, hc, hs, hne, hd, hcs⟩ := hexp
    · have hlen := congrArg List.length hnil
      rw [List.length_take_of_le hle] at hlen
      exact hzero hlen
    · rw [hcs, List.cons_append, List.append_assoc] at htail
      rw [← htail, exponent_cons hc hs hd hne] at hw
      simp at hw
  · rw [List.cons_append, List.append_assoc, exponent_cons hc hs hd hne] at hw ⊢
    rw [List.length_cons, List.length_append] at hw ⊢
    have hdigits : digits (d ++ rest) = d.length := by omega
    rw [digits_follows h (Nat.le_of_eq hdigits), hdigits]
    omega

/-- The length of a number by what stands behind its first digits. -/
def numberFrom (whole : Nat) : List Char → Option Nat
  | '.' :: r =>
    if r.head? = some '.' then if whole = 0 then none else some whole
    else if whole = 0 && digits r = 0 then none
    else some (whole + 1 + digits r + exponent (r.drop (digits r)))
  | r => if whole = 0 then none else some (whole + exponent r)

theorem numberFrom_point (whole : Nat) {r : List Char} (hr : r.head? ≠ some '.') :
    numberFrom whole ('.' :: r) = if whole = 0 && digits r = 0 then none
      else some (whole + 1 + digits r + exponent (r.drop (digits r))) := if_neg hr

theorem numberFrom_other (whole : Nat) {r : List Char} (hr : r.head? ≠ some '.') :
    numberFrom whole r = if whole = 0 then none else some (whole + exponent r) := by
  unfold numberFrom
  split
  · exact absurd rfl hr
  · rfl

theorem not_range {r : List Char} (hr : r.head? ≠ some '.') : ['.'].isPrefixOf r = false := by
  cases r with
  | nil => rfl
  | cons c r =>
    have hc : c ≠ '.' := fun h => hr (congrArg some h)
    simp [List.isPrefixOf, Ne.symm hc]

theorem number?_eq (cs : List Char) : number? cs = numberFrom (digits cs) (cs.drop (digits cs)) := by
  have hdrop : ∀ k, cs.drop (digits cs + k) = (cs.drop (digits cs)).drop k := fun k => by
    rw [List.drop_drop]
  unfold number? mantissa beginsRange
  dsimp only
  generalize hwhole : cs.drop (digits cs) = x at hdrop ⊢
  by_cases hx : x.head? = some '.'
  · obtain ⟨r, rfl⟩ := List.head?_eq_some_iff.mp hx
    by_cases hr : r.head? = some '.'
    · obtain ⟨tail, rfl⟩ := List.head?_eq_some_iff.mp hr
      have hrange : ['.', '.'].isPrefixOf ('.' :: '.' :: tail) = true := rfl
      simp only [numberFrom, if_pos hr, hrange, if_true]
      split <;> rfl
    · have hrange : ['.', '.'].isPrefixOf ('.' :: r) = false := not_range hr
      simp only [numberFrom_point _ hr, if_neg hr, hrange, Bool.false_eq_true, if_false]
      split
      · rfl
      · rw [Option.map_some, Nat.add_assoc _ 1, hdrop, Nat.add_comm 1, List.drop_succ_cons]
  · have hrange : ['.', '.'].isPrefixOf x = false := by
      cases x with
      | nil => rfl
      | cons c x =>
        have hc : c ≠ '.' := fun h => hx (congrArg some h)
        simp [List.isPrefixOf, Ne.symm hc]
    simp only [numberFrom_other _ hx, hrange, Bool.false_eq_true, if_false]
    split
    · exact absurd (List.head?_cons) hx
    · split
      · rfl
      · rw [Option.map_some, hwhole]

theorem le_numberFrom {whole n : Nat} {r : List Char} (h : numberFrom whole r = some n) : whole ≤ n := by
  unfold numberFrom at h
  split at h
  · split at h
    · split at h
      · cases h
      · cases h
        exact Nat.le_refl _
    · split at h
      · cases h
      · cases h
        omega
  · split at h
    · cases h
    · cases h
      exact Nat.le_add_right _ _

/-- Digits with no point behind them, and perhaps an exponent. -/
theorem numberFrom_other_follows {whole : Nat} {b : List Char} (h : Follows rest rest')
    (hr : (b ++ rest).head? ≠ some '.') (hr' : (b ++ rest').head? ≠ some '.')
    (hb : numberFrom whole (b ++ rest) = some (whole + b.length)) :
    numberFrom whole (b ++ rest') = some (whole + b.length) := by
  rw [numberFrom_other _ hr] at hb
  rw [numberFrom_other _ hr']
  split at hb
  · cases hb
  · rename_i hzero
    have hexp := Nat.add_left_cancel (Option.some.inj hb)
    rw [if_neg hzero, exponent_follows h hexp]

/-- Digits before a range, which may go if it goes as a whole. -/
theorem numberFrom_range_follows {whole : Nat} (h : Follows rest rest') (hrest : rest.head? = some '.')
    (hb : numberFrom whole rest = some whole) : numberFrom whole rest' = some whole := by
  obtain ⟨r, hx⟩ := List.head?_eq_some_iff.mp hrest
  rw [hx] at hb
  have hr : r.head? = some '.' := by
    by_contra hr
    rw [numberFrom_point _ hr] at hb
    split at hb
    · cases hb
    · have := Option.some.inj hb
      omega
  rw [numberFrom, if_pos hr] at hb
  obtain ⟨common, hcut, hpoint⟩ := h
  cases common with
  | nil =>
    -- the range has gone, and the digits stand alone
    rename_i tail tail'
    have hblank : tail'.head? ≠ some '.' := fun hp => absurd (hcut '.' hp) (by decide)
    rw [List.nil_append, numberFrom_other _ hblank, exponent_cut hcut]
    split at hb
    · cases hb
    · rename_i hzero
      rw [if_neg hzero]
      rfl
  | cons c common =>
    obtain ⟨rfl, hcommon⟩ := List.cons.inj hx
    cases common with
    | nil => exact absurd rfl (hpoint (by rw [← hr, ← hcommon]; rfl))
    | cons d common =>
      have hd : ∀ y, ((d :: common) ++ y).head? = some '.' := fun y => by
        rw [← hr, ← hcommon]
        rfl
      rw [List.cons_append, numberFrom, if_pos (hd _)]
      exact hb

/-- Digits with a point behind them, and perhaps a fraction and an exponent. -/
theorem numberFrom_point_follows {whole : Nat} {b : List Char} (h : Follows rest rest')
    (hb : numberFrom whole ('.' :: (b ++ rest)) = some (whole + (b.length + 1))) :
    numberFrom whole ('.' :: (b ++ rest')) = some (whole + (b.length + 1)) := by
  have hr : (b ++ rest).head? ≠ some '.' := by
    intro hr
    rw [numberFrom, if_pos hr] at hb
    split at hb
    · cases hb
    · have := Option.some.inj hb
      omega
  have hr' : (b ++ rest').head? ≠ some '.' := by
    cases b with
    | nil => exact h.head_ne_point hr
    | cons d b => exact hr
  rw [numberFrom_point _ hr] at hb
  rw [numberFrom_point _ hr']
  split at hb
  · cases hb
  · rename_i hzero
    have hlen := Option.some.inj hb
    have hle : digits (b ++ rest) ≤ b.length := by omega
    have hdrop : ∀ y, (b ++ y).drop (digits (b ++ rest)) = b.drop (digits (b ++ rest)) ++ y :=
      fun y => List.drop_append_of_le_length hle
    have hexp : exponent (b.drop (digits (b ++ rest)) ++ rest) =
        (b.drop (digits (b ++ rest))).length := by
      rw [hdrop] at hlen
      rw [List.length_drop]
      omega
    rw [digits_follows h hle, if_neg hzero, hdrop, exponent_follows h hexp, ← hexp, ← hdrop, hb]

theorem numberFrom_follows {whole : Nat} {b : List Char} (h : Follows rest rest')
    (hb : numberFrom whole (b ++ rest) = some (whole + b.length)) :
    numberFrom whole (b ++ rest') = some (whole + b.length) := by
  cases b with
  | nil =>
    by_cases hrest : rest.head? = some '.'
    · exact numberFrom_range_follows h hrest hb
    · exact numberFrom_other_follows h hrest (h.head_ne_point hrest) hb
  | cons c b =>
    by_cases hc : c = '.'
    · subst hc
      exact numberFrom_point_follows h hb
    · have hr : ∀ y, ((c :: b) ++ y).head? ≠ some '.' := fun y hy => hc (Option.some.inj hy)
      exact numberFrom_other_follows h (hr _) (hr _) hb

theorem number?_follows (h : Follows rest rest') (hw : number? (w ++ rest) = some w.length) :
    number? (w ++ rest') = some w.length := by
  rw [number?_eq] at hw ⊢
  have hle := le_numberFrom hw
  have hlen : w.length = digits (w ++ rest) + (w.drop (digits (w ++ rest))).length := by
    rw [List.length_drop]
    omega
  rw [digits_follows h hle, List.drop_append_of_le_length hle]
  rw [List.drop_append_of_le_length hle] at hw
  conv_rhs at hw => rw [hlen]
  conv_rhs => rw [hlen]
  exact numberFrom_follows h hw

theorem numberFrom_zero (hzero : digits rest = 0 ∨ rest.head? = some '.') :
    numberFrom 0 ('.' :: rest) = none := by
  by_cases hr : rest.head? = some '.'
  · rw [numberFrom, if_pos hr]
    rfl
  · rw [numberFrom_point _ hr, hzero.resolve_right hr]
    rfl

theorem whole_of_numberFrom {whole : Nat} (h : numberFrom whole rest = none) : whole = 0 := by
  by_contra hne
  unfold numberFrom at h
  simp only [hne, decide_false, Bool.false_and, Bool.false_eq_true, if_false] at h
  split at h
  · split at h <;> cases h
  · cases h

/-- Where no number is read, none is read in another context. -/
theorem number?_follows_none {c : Char} (h : Follows rest rest')
    (hnone : number? (c :: (w ++ rest)) = none) : number? (c :: (w ++ rest')) = none := by
  rw [number?_eq] at hnone ⊢
  have hzero : digits ((c :: w) ++ rest) = 0 := whole_of_numberFrom hnone
  have hzero' := digits_follows h (by rw [hzero]; exact Nat.zero_le _)
  rw [hzero] at hzero'
  rw [List.cons_append] at hzero hzero'
  rw [hzero, List.drop_zero] at hnone
  rw [hzero', List.drop_zero]
  by_cases hc : c = '.'
  · subst hc
    refine numberFrom_zero ?_
    by_cases hr : (w ++ rest).head? = some '.'
    · cases w with
      | nil =>
        obtain ⟨common, hcut, -⟩ := h
        cases common with
        | nil =>
          refine Or.inl ?_
          rw [digits, List.nil_append, List.nil_append,
            takeWhile_of_stops fun c hc => isDigit_of_cut (hcut c hc)]
          rfl
        | cons d common => exact Or.inr hr
      | cons d w => exact Or.inr hr
    · rw [numberFrom_point _ hr] at hnone
      split at hnone
      · rename_i hdigits
        have hr : digits (w ++ rest) = 0 := by simpa using hdigits
        exact Or.inl ((digits_follows h (by rw [hr]; exact Nat.zero_le _)).trans hr)
      · cases hnone
  · have hother : ((c :: (w ++ rest'))).head? ≠ some '.' := fun h => hc (Option.some.inj h)
    rw [numberFrom_other _ hother, if_pos rfl]

/-- The first character of a text that is not blank. -/
def firstVisible (cs : List Char) : Option Char := (cs.dropWhile isBlank).head?

theorem firstVisible_append (w : List Char) (h : firstVisible rest' = firstVisible rest) :
    firstVisible (w ++ rest') = firstVisible (w ++ rest) := by
  induction w with
  | nil => exact h
  | cons c w ih =>
    unfold firstVisible at ih ⊢
    by_cases hc : isBlank c = true
    · rw [List.cons_append, List.cons_append, List.dropWhile_cons_of_pos hc,
        List.dropWhile_cons_of_pos hc, ih]
    · rw [List.cons_append, List.cons_append, List.dropWhile_cons_of_neg hc,
        List.dropWhile_cons_of_neg hc]
      rfl

theorem isWordChar_of_cut {c : Char} (h : isBlank c = true ∨ c = '/') : isWordChar c = false := by
  rw [isWordChar, isNameChar_of_cut h]
  rcases h with hb | rfl
  · by_contra hc
    simp only [Bool.false_or, Bool.not_eq_false, Bool.or_eq_true, beq_iff_eq] at hc
    rcases hc with (rfl | rfl) | rfl
    all_goals cases hb
  · decide

/-- The word that a text begins with begins a statement in both contexts or in none. -/
def Alike (w rest rest' : List Char) : Prop := ∀ word ahead, w = word ++ ahead → word ≠ [] →
  (w ++ rest).takeWhile isWordChar = word →
    beginsStatement word (ahead ++ rest') = beginsStatement word (ahead ++ rest)

theorem alike_of_visible (h : (∃ c ∈ w.head?, isWordChar c = true) → firstVisible rest' = firstVisible rest) :
    Alike w rest rest' := by
  rintro word ahead rfl hne hword
  obtain ⟨c, word, rfl⟩ := List.exists_cons_of_ne_nil hne
  have hc : isWordChar c = true :=
    List.mem_takeWhile_imp (p := isWordChar) (l := c :: word ++ ahead ++ rest) (by rw [hword]; exact List.mem_cons_self)
  have hvisible := firstVisible_append ahead (h ⟨c, rfl, hc⟩)
  unfold beginsStatement
  rw [← firstVisible, ← firstVisible, hvisible]

theorem word?_follows (h : Follows rest rest')
    (hle : ((w ++ rest).takeWhile isWordChar).length ≤ w.length) (halike : Alike w rest rest') :
    word? (w ++ rest') = word? (w ++ rest) := by
  have hword := takeWhile_follows (h.stops fun _ => isWordChar_of_cut) hle
  unfold word?
  rw [hword]
  by_cases hne : (w ++ rest).takeWhile isWordChar = []
  · rw [hne]
    rfl
  · -- the word is a beginning of what the texts have in common
    obtain ⟨ahead, hw⟩ : (w ++ rest).takeWhile isWordChar <+: w :=
      List.prefix_of_prefix_length_le (List.takeWhile_prefix _) (List.prefix_append _ _) hle
    have hdrop : ∀ v : List Char, v ++ ahead = w → ∀ y, (w ++ y).drop v.length = ahead ++ y := by
      rintro v rfl y
      rw [List.append_assoc, List.drop_left]
    dsimp only
    rw [hdrop _ hw, hdrop _ hw, halike _ ahead hw.symm hne rfl]

end Value

namespace ValueSet

variable {valid : ValueSet} {t : Symbol} {w rest rest' : List Char}

/-- A value is read in another context as well. -/
theorem read_follows (h : Follows rest rest')
    (hnext : valid.bareword = true → Value.Alike w rest rest') (hne : w ≠ [])
    (hread : valid.read (w ++ rest) = some (t, w.length)) :
    valid.read (w ++ rest') = some (t, w.length) := by
  obtain ⟨q, w, rfl⟩ := List.exists_cons_of_ne_nil hne
  unfold read at hread ⊢
  rw [List.cons_append] at hread ⊢
  dsimp only [List.head?_cons] at hread ⊢
  split at hread
  · rename_i hquote
    rw [if_pos hquote]
    obtain ⟨n, hn, he⟩ := Option.map_eq_some_iff.mp hread
    obtain ⟨rfl, rfl⟩ := Prod.mk.inj he
    have hq : q = '\'' ∨ q = '"' := by
      simp only [Bool.and_eq_true, Bool.or_eq_true, beq_iff_eq, Option.some.injEq] at hquote
      exact hquote.1
    rw [Value.string?_follows h hq hn]
    rfl
  · rename_i hquote
    rw [if_neg hquote]
    split at hread
    · rename_i hword
      have hlen := (Lexeme.word_some hread).1
      rw [if_pos hword]
      exact (Value.word?_follows (w := q :: w) h (Nat.le_of_eq hlen.symm)
        (hnext (Bool.and_eq_true_iff.mp hword).1)).trans hread
    · rename_i hword
      rw [if_neg hword]
      split at hread
      · rename_i hnumber
        obtain ⟨n, hn, he⟩ := Option.map_eq_some_iff.mp hread
        obtain ⟨rfl, rfl⟩ := Prod.mk.inj he
        have hfollows := Value.number?_follows (w := q :: w) h hn
        rw [List.cons_append] at hfollows
        rw [if_pos hnumber, hfollows]
        rfl
      · cases hread

end ValueSet

end MathProg
