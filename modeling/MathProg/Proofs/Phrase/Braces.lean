import MathProg.Proofs.Expression.Display
import MathProg.Proofs.Phrase.Attributes

/-!
# Literal sets and indexing expressions

Braces around expressions are an indexing expression if the first of them is a membership of a name or a
tuple, and a literal set if not. A membership that is read as an entry is grouped anew: all that stands
behind its `in` is one expression.
-/

namespace MathProg

open Automaton Straight
open Expression (Level Operator Sign)

namespace Phrase

variable {e i m : Phrase} {es : List Phrase} {j k : Site} {t : Symbol}

/-- Where an expression ends, it ends as well at another site of the same rule, if it is no dummy there. -/
theorem ends_moved (hd : j.dialect = k.dialect) (he : e.isEntry = false)
    (hdummy : k.takesDummies = true → e.isDummy = true → t ≠ Token.inWord) (h : e.ends j t = true) :
    e.ends k t = true := by
  induction e using rightInduction with
  | closed e hc =>
    cases e with
    | quantified | choice | choiceElse | signed | binary | stepped => cases hc
    | entry => cases he
    | name text suffix? =>
      cases suffix? with
      | none => cases hk : k.takesDummies <;> simp_all [ends, isDummy]
      | some => simp [ends]
    | tuple es => cases hk : k.takesDummies <;> simp_all [ends, isDummy]
    | _ => rfl
  | fill f x _ =>
    rw [Edge.ends_fill, hd] at h
    rw [Edge.ends_fill]
    exact h

/-- The dummy and the range of a membership: what is behind the `in` is put together again. -/
def member? : Phrase → Option (Phrase × Phrase)
  | binary o l r =>
    if o.token = Token.inWord ∧ l.isDummy = true then some (l, r)
    else l.member?.map fun (i, m) => (i, binary o m r)
  | stepped l r s => l.member?.map fun (i, m) => (i, stepped m r s)
  | _ => none

theorem member_none {o : Operator} {l r : Phrase} (h : (binary o l r).member? = none) :
    (l.isDummy = true → o.token ≠ Token.inWord) ∧ l.member? = none := by
  rw [member?] at h
  split at h
  · cases h
  · rename_i hne
    exact ⟨fun hl ho => hne ⟨ho, hl⟩, Option.map_eq_none_iff.mp h⟩

/-- An expression stands as well at another site of the same rule that binds it to nothing before it, if
it is no membership there. -/
theorem stands_moved {e : Phrase} (hd : j.dialect = k.dialect) (hj : j.takesDummies = false)
    (hopen : ∀ t, k.closes t = false) (hindex : k.takesIndex = false)
    (hmember : k.takesDummies = true → e.member? = none) (h : e.stands j = true) : e.stands k = true := by
  match e with
  | number _ | string _ | name _ _ | indexed _ _ _ | group _ _ | call _ _ _ | tuple _ | literal _ => exact h
  | index es =>
    simp only [stands, Bool.and_eq_true] at h ⊢
    exact ⟨⟨by rw [hindex]; rfl, h.1.2⟩, h.2⟩
  | filtered es c =>
    simp only [stands, Bool.and_eq_true] at h ⊢
    exact ⟨⟨⟨by rw [hindex]; rfl, h.1.1.2⟩, h.1.2⟩, h.2⟩
  | entry i m =>
    rw [stands, hj] at h
    cases h
  | quantified _ _ _ | choice _ _ | choiceElse _ _ _ | signed _ _ =>
    simpa only [stands, hd] using h
  | binary o l r =>
    simp only [stands, Bool.and_eq_true, hd] at h ⊢
    obtain ⟨⟨ho, ⟨hl, hend⟩, -⟩, hr⟩ := h
    have hnone := fun hk => member_none (hmember hk)
    refine ⟨⟨ho, ⟨stands_moved hd hj hopen hindex (fun hk => (hnone hk).2) hl, ?_⟩, ?_⟩, hr⟩
    · exact ends_moved hd (isEntry_of_stands hl hj) (fun hk => (hnone hk).1) hend
    · rw [hopen]
      rfl
  | stepped l r s =>
    simp only [stands, Bool.and_eq_true, hd] at h ⊢
    obtain ⟨⟨⟨ho, ⟨hl, hend⟩, -⟩, hr⟩, hs⟩ := h
    have hnone : k.takesDummies = true → l.member? = none := fun hk =>
      Option.map_eq_none_iff.mp (hmember hk)
    refine ⟨⟨⟨ho, ⟨stands_moved hd hj hopen hindex hnone hl, ?_⟩, ?_⟩, hr⟩, hs⟩
    · exact ends_moved hd (isEntry_of_stands hl hj) (fun _ _ => by decide) hend
    · rw [hopen]
      rfl

/-- Whether a phrase is an expression that may stand in parentheses. -/
def isWhole (e : Phrase) : Bool := e.fits (.listed .group false) Token.closeParen

/-- Whether the words of an expression are a name or a tuple, then `in` and an expression. -/
def IsMembership (e : Phrase) : Prop :=
  ∃ i m : Phrase, i.isDummy = true ∧ i.isWhole = true ∧ m.isWhole = true ∧
    e.words = i.words ++ .token Token.inWord :: m.words

theorem in_checked : ∀ o ∈ operatorTokens, o.2.headD Token.comma = Token.inWord → o.2 = [Token.inWord] := by
  decide

theorem words_member {e i m : Phrase} (h : e.member? = some (i, m)) :
    e.words = i.words ++ .token Token.inWord :: m.words := by
  match e with
  | binary o l r =>
    rw [member?] at h
    split at h
    · rename_i hin
      cases h
      have htokens : o.tokens = [Token.inWord] := in_checked _ o.mem_tokens hin.1
      rw [words, htokens]
      rfl
    · obtain ⟨⟨i', m'⟩, hl, he⟩ := Option.map_eq_some_iff.mp h
      cases he
      rw [words, words_member hl, words, List.append_assoc, List.cons_append]
  | stepped l r s =>
    obtain ⟨⟨i', m'⟩, hl, he⟩ := Option.map_eq_some_iff.mp h
    cases he
    rw [words, words_member hl, words, List.append_assoc, List.cons_append]

/-- The range of a membership ends where the membership does. -/
theorem ends_member (h : e.member? = some (i, m)) (hd : j.dialect = .full) (he : e.stands j = true)
    (hend : e.ends j t = true) : m.ends (.listed .group false) t = true := by
  match e with
  | binary o l r =>
    rw [member?] at h
    simp only [stands, Bool.and_eq_true] at he
    split at h
    · cases h
      simp only [ends, hd, Bool.and_eq_true] at hend
      refine ends_moved (j := .right .full o.level o.tokens) rfl ?_ (fun hk => by cases hk) hend.1
      exact isEntry_of_stands he.2 rfl
    · obtain ⟨⟨i', m'⟩, hl, hm⟩ := Option.map_eq_some_iff.mp h
      cases hm
      rwa [ends, hd] at hend
  | stepped l r s =>
    obtain ⟨⟨i', m'⟩, hl, hm⟩ := Option.map_eq_some_iff.mp h
    cases hm
    rwa [ends, hd] at hend

theorem stands_member {e i m : Phrase} (h : e.member? = some (i, m)) (hd : j.dialect = .full)
    (he : e.stands j = true) :
    i.isDummy = true ∧ i.stands (.listed .group false) = true ∧ m.stands (.listed .group false) = true := by
  match e with
  | binary o l r =>
    rw [member?] at h
    simp only [stands, hd, Bool.and_eq_true] at he
    obtain ⟨⟨ho, ⟨hl, hend⟩, -⟩, hr⟩ := he
    split at h
    · rename_i hin
      cases h
      refine ⟨hin.2, ?_, ?_⟩
      · cases i with
        | name | tuple => exact hl
        | _ => cases hin.2
      · exact stands_moved (j := .right .full o.level o.tokens) rfl rfl (fun _ => rfl) rfl
          (fun hk => by cases hk) hr
    · obtain ⟨⟨i', m'⟩, hl', hm⟩ := Option.map_eq_some_iff.mp h
      cases hm
      obtain ⟨hi, his, hms⟩ := stands_member hl' hd hl
      refine ⟨hi, his, ?_⟩
      simp only [stands, Bool.and_eq_true]
      exact ⟨⟨ho, ⟨hms, ends_member hl' hd hl hend⟩, rfl⟩, hr⟩
  | stepped l r s =>
    obtain ⟨⟨i', m'⟩, hl', hm⟩ := Option.map_eq_some_iff.mp h
    cases hm
    simp only [stands, hd, Bool.and_eq_true] at he
    obtain ⟨⟨⟨ho, ⟨hl, hend⟩, -⟩, hr⟩, hs⟩ := he
    obtain ⟨hi, his, hms⟩ := stands_member hl' hd hl
    refine ⟨hi, his, ?_⟩
    simp only [stands, Bool.and_eq_true]
    exact ⟨⟨⟨ho, ⟨hms, ends_member hl' hd hl hend⟩, rfl⟩, hr⟩, hs⟩

theorem isWhole_eq (e : Phrase) : e.isWhole = e.stands (.listed .group false) := by
  cases h : e.stands (.listed .group false) with
  | false => rw [isWhole, fits, h, Bool.false_and]
  | true => rw [isWhole, fits, h, ends_of_stop (by simp [stops]) h rfl, Bool.and_true]

theorem isMembership_of_member (he : e.isWhole = true) (h : e.member? = some (i, m)) : e.IsMembership := by
  rw [isWhole_eq] at he
  obtain ⟨hi, his, hms⟩ := stands_member h rfl he
  exact ⟨i, m, hi, by rw [isWhole_eq, his], by rw [isWhole_eq, hms], words_member h⟩

/-- Whether a phrase is what an expression is as an entry of an index: an entry with a dummy if it is a
membership, and else the expression itself. -/
def IsEntryOf (b e : Phrase) : Prop :=
  (∃ i m : Phrase, i.isDummy = true ∧ i.isWhole = true ∧ m.isWhole = true ∧
    e.words = i.words ++ .token Token.inWord :: m.words ∧ b = entry i m) ∨
  ¬e.IsMembership ∧ b = e

/-- Whether a phrase is read as it stands wherever it may be an entry. -/
def FitsIndex (b : Phrase) : Prop :=
  ∀ k : Site, k.takesDummies = true → ∀ t ∈ [Token.comma, Token.colon, Token.closeBrace], b.fits k t = true

theorem takesDummies_cases (hk : k.takesDummies = true) :
    k = .listed .set false ∨ k = .listed .index false ∨ k = .listed .index true := by
  cases k with
  | listed b later => cases b <;> cases later <;> simp_all [Site.takesDummies]
  | _ => cases hk

theorem range_ends_checked :
    ∀ t ∈ [Token.comma, Token.colon, Token.closeBrace], t ∈ stops ∧ t ≠ Token.inWord := by
  decide

theorem fitsIndex_entry (hi : i.isDummy = true) (his : i.isWhole = true) (hm : m.isWhole = true) :
    (entry i m).FitsIndex := by
  intro k hk t ht
  rw [isWhole_eq] at his hm
  have hrange : m.stands (.range i.isTuple) = true :=
    stands_moved (j := .listed .group false) rfl rfl (fun _ => rfl) rfl (fun h => by cases h) hm
  have hend : m.ends (.range i.isTuple) t = true := ends_of_stop (range_ends_checked t ht).1 hrange rfl
  rw [fits, stands, ends, hk, hi, his, hrange, hend]
  exact List.contains_iff_mem.mpr ht

theorem fitsIndex_plain (he : e.isWhole = true) (hno : ¬e.IsMembership) : e.FitsIndex := by
  intro k hk t ht
  have hnone : e.member? = none := by
    cases h : e.member? with
    | none => rfl
    | some p => exact absurd (isMembership_of_member he h) hno
  rw [isWhole_eq] at he
  obtain ⟨hstop, hne⟩ := range_ends_checked t ht
  have hend : e.ends (.listed .group false) t = true := ends_of_stop hstop he rfl
  have hentry := isEntry_of_stands he rfl
  rw [fits, Bool.and_eq_true]
  rcases takesDummies_cases hk with rfl | rfl | rfl
  all_goals
    exact ⟨stands_moved (j := .listed .group false) rfl rfl (fun _ => rfl) rfl (fun _ => hnone) he,
      ends_moved (j := .listed .group false) rfl hentry (fun _ _ => hne) hend⟩

theorem exists_entry (he : e.isWhole = true) : ∃ b, IsEntryOf b e ∧ b.words = e.words ∧ b.FitsIndex := by
  by_cases h : e.IsMembership
  · obtain ⟨i, m, hi, his, hm, hwords⟩ := h
    exact ⟨entry i m, Or.inl ⟨i, m, hi, his, hm, hwords, rfl⟩, by rw [words, hwords],
      fitsIndex_entry hi his hm⟩
  · exact ⟨e, Or.inr ⟨h, rfl⟩, rfl, fitsIndex_plain he h⟩

theorem exists_entries (h : ∀ e ∈ es, e.isWhole = true) :
    ∃ bs, List.Forall₂ IsEntryOf bs es ∧ bs.map words = es.map words ∧ ∀ b ∈ bs, b.FitsIndex := by
  induction es with
  | nil => exact ⟨[], .nil, rfl, fun _ h => by cases h⟩
  | cons e es ih =>
    obtain ⟨bs, hbs, hwords, hfits⟩ := ih fun x hx => h x (List.mem_cons_of_mem _ hx)
    obtain ⟨b, hb, hword, hfit⟩ := exists_entry (h e List.mem_cons_self)
    exact ⟨b :: bs, .cons hb hbs, by rw [List.map_cons, hword, hwords, List.map_cons],
      List.forall_mem_cons.mpr ⟨hfit, hfits⟩⟩

theorem standAll_entries {bs : List Phrase} (h : ∀ b ∈ bs, b.FitsIndex)
    (ht : t = Token.colon ∨ t = Token.closeBrace) :
    standAll bs (.listed .set false) (.listed .index true) t = true := by
  have hends : ∀ u ∈ [Token.comma, t], u ∈ [Token.comma, Token.colon, Token.closeBrace] := by
    rcases ht with rfl | rfl <;> decide
  exact standAll_of_fits (fun b hb u hu => h b (List.mem_of_mem_head? hb) _ rfl u (hends u hu))
    fun b hb u hu => h b (List.mem_of_mem_tail hb) _ rfl u (hends u hu)

/-- Expressions are elements of a literal set, if the first of them is no membership. -/
theorem standAll_elements (h : ∀ x ∈ e :: es, x.isWhole = true) (hno : ¬e.IsMembership) :
    standAll (e :: es) (.listed .set false) (.listed .set true) Token.closeBrace = true := by
  apply standAll_of_fits
  · intro x hx u hu
    obtain rfl : e = x := Option.some.inj hx
    have hu : u ∈ [Token.comma, Token.colon, Token.closeBrace] := by
      simp only [List.mem_cons] at hu ⊢
      tauto
    exact fitsIndex_plain (h e List.mem_cons_self) hno _ rfl u hu
  · intro x hx u hu
    have hwhole := h x (List.mem_cons_of_mem _ hx)
    rw [isWhole_eq] at hwhole
    have hstands : x.stands (.listed .set true) = true :=
      stands_moved (j := .listed .group false) rfl rfl (fun _ => rfl) rfl (fun h => by cases h) hwhole
    have hu : u ∈ stops := by
      simp only [List.mem_cons, List.not_mem_nil, or_false] at hu
      rcases hu with rfl | rfl <;> decide
    rw [fits, hstands, ends_of_stop hu hstands rfl]
    rfl

/-- Expressions in braces, and perhaps a condition behind them. -/
def bracedWords (es : List Phrase) (condition? : Option Phrase) : List Word :=
  .token Token.openBrace :: (separated (.token Token.comma) (es.map words) ++
    ((condition?.map fun c => .token Token.colon :: c.words).getD [] ++ [.token Token.closeBrace]))

def isIndex : Phrase → Bool
  | index _ | filtered _ _ => true
  | _ => false

/-- Whether the parser reads some words as an operand: without errors and as one tree wherever they stand as
one, and in particular where they stand alone in an attribute. In front of the expressions of a statement
an index is no operand, but belongs to the statement. -/
structure IsOperand (ws : List Word) (b : Phrase) : Prop where
  reaches : ∀ k ∈ sites, (k.takesIndex && b.isIndex) = false →
    ∀ (source : List Char) (c : Straight.Config) (rest : List Word), stateOf c.frames = k.state →
      c.Awaits source (ws ++ rest) → ahead Symbol.endOfText rest ∈ k.followers →
      ∃ c' fs, Reaches source c c' ∧ c'.frames = fs ++ c.frames ∧ c'.Awaits source rest ∧
        Shown source [⟨k.full, .node k.dialect.symbol (b.parts k.dialect)⟩] fs c.position c'.position
  parse : ∀ (c : Declaration) (opener : Symbol) (z source : List Char), opener ∈ attributeTokens →
    Writes (.token c.keyword :: ⟨Symbol.symbolicName, z⟩ :: .token opener ::
      (ws ++ [.token Token.semicolon])) source →
    ∃ tree, MathProg.parse source = some tree ∧ tree.hasError = false ∧
      (Node.ofTree tree).sketch source = .node Symbol.model [.node c.symbol [Token.leaf c.keyword,
        .leaf modelObject z, .node Grammar.declarationAttribute [Attribute.head opener,
          .node Grammar.expr (b.parts .full)], Token.leaf Token.semicolon]]

/-- What stands and ends everywhere is read as an operand. -/
theorem isOperand_of_stands {b : Phrase} (hplain : b.isEntry = false) (htuple : b.isTuple = false)
    (hstands : ∀ k : Site, (k.takesIndex && b.isIndex) = false → b.stands k = true)
    (hends : ∀ (k : Site) (t : Symbol), b.ends k t = true) : IsOperand b.words b := by
  have hfits : ∀ (k : Site) (t : Symbol), (k.takesIndex && b.isIndex) = false → b.fits k t = true := by
    intro k t hk
    rw [fits, hstands k hk, hends]
    rfl
  constructor
  · intro k hk hindex source c rest hstate hawaits hfollower
    have hreads := reads_phrase hk hfollower (hfits k _ hindex)
    rw [item_of_plain hplain (by simp [isBare, htuple])] at hreads
    obtain ⟨c', fs, hreach, hframes, hshown, hrest⟩ := hreads.reaches hstate hawaits rfl
    exact ⟨c', fs, hreach, hframes, hrest, hshown⟩
  · intro c opener z source hopener hw
    have hone : Attribute.fits [⟨false, opener, hopener, b⟩] = true := by
      simp [Attribute.fits, hfits, Site.takesIndex]
    have hresult := @parse_declaration z source c _ (List.cons_ne_nil _ _) hone
    simp only [List.flatMap_cons, List.flatMap_nil, Attribute.words, Attribute.parts,
      Attribute.sketch] at hresult
    exact hresult (by simpa using hw)

theorem isOperand_literal (h : ∀ x ∈ e :: es, x.isWhole = true) (hno : ¬e.IsMembership) :
    IsOperand (bracedWords (e :: es) none) (literal (e :: es)) := by
  have hplain : e.isEntry = false := by
    have hwhole := h e List.mem_cons_self
    rw [isWhole_eq] at hwhole
    exact isEntry_of_stands hwhole rfl
  have hoperand : IsOperand (literal (e :: es)).words (literal (e :: es)) := by
    refine isOperand_of_stands rfl rfl (fun k _ => ?_) fun _ _ => rfl
    rw [stands, standAll_elements h hno]
    simp [hplain]
  rw [words, wordsAll_eq] at hoperand
  exact hoperand

theorem isOperand_index {b : Phrase} {bs : List Phrase} (hfits : ∀ x ∈ b :: bs, x.FitsIndex)
    (hentry : b.isEntry = true) (hwords : (b :: bs).map words = es.map words) :
    IsOperand (bracedWords es none) (index (b :: bs)) := by
  have hoperand : IsOperand (index (b :: bs)).words (index (b :: bs)) := by
    refine isOperand_of_stands rfl rfl (fun k hk => ?_) fun _ _ => rfl
    rw [isIndex, Bool.and_true] at hk
    rw [stands, standAll_entries hfits (Or.inr rfl), hk]
    simp [hentry]
  rw [words, wordsAll_eq, hwords] at hoperand
  exact hoperand

theorem isOperand_filtered {b c : Phrase} (hfits : b.FitsIndex) (hword : b.words = e.words)
    (hc : c.isWhole = true) : IsOperand (bracedWords [e] (some c)) (filtered [b] c) := by
  rw [isWhole_eq] at hc
  have hcondition : c.stands (.filter false) = true :=
    stands_moved (j := .listed .group false) rfl rfl (fun _ => rfl) rfl (fun h => by cases h) hc
  have hend : c.ends (.filter false) Token.closeBrace = true :=
    ends_of_stop (by simp [stops]) hcondition rfl
  have hoperand : IsOperand (filtered [b] c).words (filtered [b] c) := by
    refine isOperand_of_stands rfl rfl (fun k hk => ?_) fun _ _ => rfl
    rw [isIndex, Bool.and_true] at hk
    have hall := standAll_entries (List.forall_mem_singleton.mpr hfits) (Or.inl rfl)
    rw [stands, hall, hk]
    simp [hcondition, hend]
  rw [words, wordsAll_eq] at hoperand
  simpa [bracedWords, hword] using hoperand

/-- Braces around expressions are an indexing expression, with a dummy in each entry that is a membership,
if the first one is a membership, and a literal set of the expressions if it is not. An expression with a
condition behind it is always an indexing expression. -/
theorem braces (e : Phrase) (es : List Phrase) (h : ∀ x ∈ e :: es, x.isWhole = true) :
    (e.IsMembership → ∃ bs, List.Forall₂ IsEntryOf bs (e :: es) ∧
      IsOperand (bracedWords (e :: es) none) (index bs)) ∧
    (¬e.IsMembership → IsOperand (bracedWords (e :: es) none) (literal (e :: es))) ∧
    ∀ c : Phrase, c.isWhole = true →
      ∃ b, IsEntryOf b e ∧ IsOperand (bracedWords [e] (some c)) (filtered [b] c) := by
  refine ⟨?_, isOperand_literal h, ?_⟩
  · intro hmember
    obtain ⟨bs, hbs, hwords, hfits⟩ := exists_entries h
    cases hbs with
    | @cons b _ bs _ hb hrest =>
      have hentry : b.isEntry = true := by
        rcases hb with ⟨i, m, -, -, -, -, rfl⟩ | ⟨hno, -⟩
        · rfl
        · exact absurd hmember hno
      exact ⟨b :: bs, .cons hb hrest, isOperand_index hfits hentry hwords⟩
  · intro c hc
    obtain ⟨b, hb, hword, hfits⟩ := exists_entry (h e List.mem_cons_self)
    exact ⟨b, hb, isOperand_filtered hfits hword hc⟩

def membership : Phrase := binary Expression.membership (name ['i'] none) (name ['I'] none)

theorem isMembership_membership : membership.IsMembership :=
  ⟨name ['i'] none, name ['I'] none, rfl, rfl, rfl, rfl⟩

theorem not_isMembership_name (text : List Char) : ¬(name text none).IsMembership := by
  intro ⟨i, m, hi, _, _, hwords⟩
  have hlength := congrArg List.length hwords
  cases i with
  | name => simp [words, suffixWords] at hlength
  | tuple => simp [words, suffixWords] at hlength
  | _ => cases hi

/-- Whether a text is parsed without errors as a set `S` with some operand behind its `:=`. -/
def IsSetOf (source : List Char) (b : Phrase) : Prop :=
  ∃ tree, MathProg.parse source = some tree ∧ tree.hasError = false ∧
    (Node.ofTree tree).sketch source = .node Symbol.model [.node Grammar.set [Token.leaf Token.set,
      .leaf modelObject ['S'], .node Grammar.declarationAttribute [Attribute.head Token.assign,
        .node Grammar.expr (b.parts .full)], Token.leaf Token.semicolon]]

/-- A membership before a name makes an index of the braces, behind a name it does not, and with a condition
it does on its own. -/
theorem braces_around_membership :
    (∃ bs, IsSetOf "set S := {i in I, a};".toList (index bs)) ∧
    IsSetOf "set S := {a, i in I};".toList (literal [name ['a'] none, membership]) ∧
    ∃ b, IsSetOf "set S := {i in I : a};".toList (filtered [b] (name ['a'] none)) := by
  have hmembership : membership.isWhole = true := by decide +kernel
  have hname : (name ['a'] none).isWhole = true := rfl
  refine ⟨?_, ?_, ?_⟩
  · obtain ⟨bs, -, hoperand⟩ := (braces membership [name ['a'] none]
      (List.forall_mem_cons.mpr ⟨hmembership, List.forall_mem_singleton.mpr hname⟩)).1
      isMembership_membership
    exact ⟨bs, hoperand.parse .set Token.assign ['S'] _ (by decide) (by decide +kernel)⟩
  · have hoperand := (braces (name ['a'] none) [membership]
      (List.forall_mem_cons.mpr ⟨hname, List.forall_mem_singleton.mpr hmembership⟩)).2.1
      (not_isMembership_name ['a'])
    exact hoperand.parse .set Token.assign ['S'] _ (by decide) (by decide +kernel)
  · obtain ⟨b, -, hoperand⟩ :=
      (braces membership [] (List.forall_mem_singleton.mpr hmembership)).2.2 _ hname
    exact ⟨b, hoperand.parse .set Token.assign ['S'] _ (by decide) (by decide +kernel)⟩

end Phrase

end MathProg
