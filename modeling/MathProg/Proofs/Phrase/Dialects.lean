import MathProg.Proofs.Node.Layout
import MathProg.Proofs.Phrase.Statements

/-!
# The rules for expressions agree

What all three rules for expressions allow, a display, a printf and an objective show in the same way:
the same kinds, over the same places.
-/

namespace MathProg

open Automaton Straight
open Expression (Level Operator Sign)

@[simp] theorem text_token (t : Symbol) : (Word.token t).text = t.text := rfl

namespace Phrase

variable {e : Phrase} {d : Dialect} {ws : List Word}

@[simp] theorem texts_leaf (t : Symbol) : (Token.leaf t).texts = [t.text] := rfl

@[simp] theorem texts_operator (t : Symbol) : (Token.operator t).texts = [t.text] := rfl

theorem texts_placed (b : Bracket) (e : Phrase) (ps : List Sketch) :
    (placed b e ps).flatMap Sketch.texts = ps.flatMap Sketch.texts := by
  cases b <;> cases e <;> simp [placed, Sketch.texts, Sketch.textsAll_eq]

/-- Parts with commas between them have the texts of words with commas between them. -/
theorem texts_separated {ps : List (List Sketch)} {ws : List (List Word)}
    (h : ps.map (·.flatMap Sketch.texts) = ws.map (·.map (·.text))) :
    (separated (Token.leaf Token.comma) ps).flatMap Sketch.texts =
      (separated (.token Token.comma) ws).map (·.text) := by
  have htail : ∀ {ps : List (List Sketch)} {ws : List (List Word)},
      ps.map (·.flatMap Sketch.texts) = ws.map (·.map (·.text)) →
      (ps.flatMap (Token.leaf Token.comma :: ·)).flatMap Sketch.texts =
        (ws.flatMap (Word.token Token.comma :: ·)).map (·.text) := by
    intro ps ws h
    induction ps generalizing ws with
    | nil =>
      obtain rfl := List.map_eq_nil_iff.mp h.symm
      rfl
    | cons p ps ih =>
      obtain ⟨w, ws, rfl, hp, hrest⟩ := List.map_eq_cons_iff.mp h.symm
      simp [ih hrest.symm, hp]
  cases ps with
  | nil =>
    obtain rfl := List.map_eq_nil_iff.mp h.symm
    rfl
  | cons p ps =>
    obtain ⟨w, ws, rfl, hp, hrest⟩ := List.map_eq_cons_iff.mp h.symm
    rw [separated, separated, List.flatMap_append, List.map_append, htail hrest.symm, hp]

theorem texts_suffix (suffix? : Option (List Char)) :
    (suffixParts suffix?).flatMap Sketch.texts = (suffixWords suffix?).map (·.text) := by
  cases suffix? <;> rfl

mutual

/-- An expression shows the texts of its words. -/
theorem texts_parts : ∀ (e : Phrase) (d : Dialect), (e.parts d).flatMap Sketch.texts = e.words.map (·.text)
  | number _, _ | string _, _ => rfl
  | name _ suffix?, _ => by simp [parts, words, Sketch.texts, texts_suffix]
  | indexed _ es suffix?, _ => by
    simp [parts, words, bracketed, Sketch.texts, Sketch.textsAll_eq, texts_suffix,
      texts_separated (texts_partsAll es _)]
  | group e suffix?, _ => by
    simp [parts, words, Sketch.texts, Sketch.textsAll_eq, texts_suffix, texts_parts e]
  | call f es suffix?, _ => by
    simp [parts, words, bracketed, Sketch.texts, Sketch.textsAll_eq, texts_suffix,
      texts_separated (texts_partsAll es _)]
  | tuple es, _ | literal es, _ | index es, _ => by
    simp [parts, words, bracketed, Sketch.texts, Sketch.textsAll_eq, texts_separated (texts_partsAll es _)]
  | filtered es c, _ => by
    simp [parts, words, Sketch.texts, Sketch.textsAll_eq, texts_separated (texts_partsAll es _),
      texts_parts c]
  | entry i m, _ => by
    simp [parts, words, Sketch.texts, Sketch.textsAll_eq, texts_parts i, texts_parts m]
  | quantified q i b, _ => by
    simp [parts, words, Sketch.texts, Sketch.textsAll_eq, texts_parts i, texts_parts b]
  | choice c y, d => by
    simp [parts, words, Sketch.texts, Sketch.textsAll_eq, texts_parts c, texts_parts y d]
  | choiceElse c y n, d => by
    simp [parts, words, Sketch.texts, Sketch.textsAll_eq, texts_parts c, texts_parts y d, texts_parts n d]
  | signed s x, d => by
    simp [parts, words, Sketch.texts, Sketch.textsAll_eq, texts_parts x d]
  | binary o l r, d => by
    have htokens :
        (o.tokens.map fun t => if t = Token.points then Token.leaf t else Token.operator t).flatMap
          Sketch.texts = o.tokens.map Symbol.text := by
      induction o.tokens with
      | nil => rfl
      | cons t ts ih => rw [List.map_cons, List.flatMap_cons, ih]; split <;> rfl
    have hwords : (o.tokens.map Word.token).map (·.text) = o.tokens.map Symbol.text := by
      rw [List.map_map]
      rfl
    rw [parts, words, List.flatMap_cons, List.flatMap_append, htokens, List.map_append, List.map_append,
      hwords]
    simp [Sketch.texts, Sketch.textsAll_eq, texts_parts l d, texts_parts r d]
  | stepped l r s, d => by
    simp [parts, words, Sketch.texts, Sketch.textsAll_eq, texts_parts l d, texts_parts r d, texts_parts s d]

theorem texts_partsAll : ∀ (es : List Phrase) (b : Bracket),
    (partsAll es b).map (·.flatMap Sketch.texts) = (wordsAll es).map (·.map (·.text))
  | [], _ => rfl
  | e :: es, b => by
    rw [partsAll, List.map_cons, texts_placed, texts_parts e, texts_partsAll es b, wordsAll, List.map_cons]

end

/-- Apart from the name of linear expressions, the rules show the same. -/
theorem plain_parts (e : Phrase) (d : Dialect) :
    (e.parts d).map Sketch.plain = (e.parts .full).map Sketch.plain := by
  have hbranch : plainKind d.branch = plainKind Dialect.full.branch := by cases d <;> rfl
  cases e with
  | number | string | name | indexed | group | call | tuple | literal | index | filtered | entry | quantified =>
    rfl
  | choice c y => simp [parts, Sketch.plain, Sketch.plainAll_eq, plain_parts y d, hbranch]
  | choiceElse c y n =>
    simp [parts, Sketch.plain, Sketch.plainAll_eq, plain_parts y d, plain_parts n d, hbranch]
  | signed s x => simp [parts, Sketch.plain, Sketch.plainAll_eq, plain_parts x d]
  | binary o l r => simp [parts, Sketch.plain, Sketch.plainAll_eq, plain_parts l d, plain_parts r d]
  | stepped l r s =>
    simp [parts, Sketch.plain, Sketch.plainAll_eq, plain_parts l d, plain_parts r d, plain_parts s d]

/-- The words of what all three rules for expressions allow. -/
inductive Common : List Word → Prop where
  | name (text : List Char) (suffix? : Option (List Char)) :
    Common (⟨Symbol.symbolicName, text⟩ :: suffixWords suffix?)
  | number (text : List Char) : Common [⟨Symbol.number, text⟩]
  | indexed (text : List Char) (suffix? : Option (List Char)) {subscripts : List (List Word)}
    (hne : subscripts ≠ []) (h : ∀ ws ∈ subscripts, Common ws) :
    Common (⟨Symbol.symbolicName, text⟩ :: .token Token.openBracket ::
      (separated (.token Token.comma) subscripts ++ .token Token.closeBracket :: suffixWords suffix?))
  | group (suffix? : Option (List Char)) {ws : List Word} (h : Common ws) :
    Common (.token Token.openParen :: (ws ++ .token Token.closeParen :: suffixWords suffix?))
  | call (f : Function) (suffix? : Option (List Char)) {arguments : List (List Word)}
    (h : ∀ ws ∈ arguments, Common ws) :
    Common (.token f.token :: .token Token.openParen ::
      (separated (.token Token.comma) arguments ++ .token Token.closeParen :: suffixWords suffix?))
  | signed (s : Sign) (hs : (s.level, s.token) ∈ Dialect.linear.signs) {ws : List Word} (h : Common ws) :
    Common (.token s.token :: ws)
  | binary (o : Operator) (ho : (o.level, o.tokens) ∈ Dialect.linear.operators) {ws vs : List Word}
    (h : Common ws) (h' : Common vs) : Common (ws ++ (o.tokens.map Word.token ++ vs))
  | quantified (q : Quantifier) {i : Phrase} (hi : i.standsBehind = true) {ws : List Word} (h : Common ws) :
    Common (.token q.token :: (i.words ++ ws))
  /-- A conditional on a comparison. -/
  | choice (o : Operator) (ho : o.token ∈ relationTokens) {ws vs yes no : List Word} (h : Common ws)
    (h' : Common vs) (hyes : Common yes) (hno : Common no) :
    Common (.token Token.ifWord :: (ws ++ (o.tokens.map Word.token ++ vs) ++
      .token Token.thenWord :: (yes ++ .token Token.elseWord :: no)))

theorem IsChain.mono {ds ds' : List Dialect} (h : e.IsChain ds) (hsub : ∀ d ∈ ds', d ∈ ds) :
    e.IsChain ds' := by
  induction e using leftInduction with
  | first e he =>
    refine (isChain_first he).mpr fun k hd hk => ?_
    exact (isChain_first he).mp h k (hsub _ hd) hk
  | link o l r ih => exact ⟨ih h.1, h.2.1, fun d hd => h.2.2 d (hsub d hd)⟩

theorem exists_chains {ds : List Dialect} {wss : List (List Word)}
    (h : ∀ ws ∈ wss, ∃ e : Phrase, e.words = ws ∧ e.IsChain ds) :
    ∃ es : List Phrase, wordsAll es = wss ∧ ∀ e ∈ es, e.IsChain ds := by
  induction wss with
  | nil => exact ⟨[], rfl, fun _ h => by cases h⟩
  | cons ws wss ih =>
    obtain ⟨e, he, hchain⟩ := h ws List.mem_cons_self
    obtain ⟨es, hes, hchains⟩ := ih fun ws hws => h ws (List.mem_cons_of_mem _ hws)
    refine ⟨e :: es, by rw [wordsAll, he, hes], ?_⟩
    intro x hx
    rcases List.mem_cons.mp hx with rfl | hx
    · exact hchain
    · exact hchains x hx

/-- What is common to the rules is one expression in each of them. -/
theorem Common.exists_chain (h : Common ws) : ∃ e : Phrase, e.words = ws ∧ e.IsChain dialects := by
  have hfull : Dialect.full ∈ dialects := mem_dialects _
  induction h with
  | name text suffix? => exact ⟨.name text suffix?, rfl, fun _ _ _ => rfl⟩
  | number text => exact ⟨.number text, rfl, fun _ _ _ => rfl⟩
  | indexed text suffix? hne h ih =>
    obtain ⟨es, rfl, hes⟩ := exists_chains ih
    have hne' : es ≠ [] := by
      intro hnil
      rw [hnil] at hne
      exact hne rfl
    exact ⟨.indexed text es suffix?, by rw [words], standsIn_indexed text hne' hfull hes suffix? _⟩
  | group suffix? h ih =>
    obtain ⟨e, rfl, he⟩ := ih
    exact ⟨.group e suffix?, by rw [words], he.group hfull suffix? _⟩
  | call f suffix? h ih =>
    obtain ⟨es, rfl, hes⟩ := exists_chains ih
    exact ⟨.call f es suffix?, by rw [words], standsIn_call f hfull hes suffix? _⟩
  | signed s hs h ih =>
    obtain ⟨e, rfl, he⟩ := ih
    have hwords : ∀ u, (Phrase.signed s u).words = [.token s.token] ++ u.words := fun _ => rfl
    exact ⟨e.rebase (.signed s), words_rebase hwords e, he.signed hfull (arithmetic_checked.2 _ hs)⟩
  | binary o ho h h' ih ih' =>
    obtain ⟨l, rfl, hl⟩ := ih
    obtain ⟨r, rfl, hr⟩ := ih'
    exact ⟨r.rebase (l.attach o), words_binary l r o, hl.binary hr hfull (arithmetic_checked.1 _ ho)⟩
  | @quantified q i hi ws h ih =>
    obtain ⟨e, rfl, he⟩ := ih
    have hwords : ∀ u, (Phrase.quantified q i u).words = (.token q.token :: i.words) ++ u.words :=
      fun _ => rfl
    exact ⟨e.rebase (.quantified q i), words_rebase hwords e, he.quantified hfull hi⟩
  | choice o ho h h' hyes hno ih ih' ihyes ihno =>
    obtain ⟨l, rfl, hl⟩ := ih
    obtain ⟨r, rfl, hr⟩ := ih'
    obtain ⟨y, rfl, hy⟩ := ihyes
    obtain ⟨n, rfl, hn⟩ := ihno
    -- the comparison is read by the full rule in all three
    have honly : ∀ d ∈ [Dialect.full], d ∈ dialects := fun d _ => mem_dialects d
    have hcompared : (r.rebase (l.attach o)).IsChain [.full] :=
      (hl.mono honly).binary (hr.mono honly) List.mem_cons_self fun d hd =>
        List.mem_singleton.mp hd ▸ o.mem_tokens
    have htest : ∀ d ∈ dialects, (r.rebase (l.attach o)).fits (.test d) Token.thenWord = true := fun d _ =>
      hcompared.fits List.mem_cons_self rfl (by simp [stops])
    have hopen : (Phrase.choice (r.rebase (l.attach o)) y).leavesOpen = true := rfl
    rw [← isSome_otherwise _ n] at hopen
    obtain ⟨e, he⟩ := Option.isSome_iff_exists.mp hopen
    refine ⟨e, ?_, hy.choiceElse hn hfull htest he⟩
    rw [words_otherwise he, words, words_binary]
    simp

end Phrase

theorem blankLength_visible {g w cs : List Char} (hg : ∀ c ∈ g, isBlank c = true)
    (hw : ∃ c ∈ w.head?, isBlank c = false) : blankLength (g ++ (w ++ cs)) = g.length := by
  obtain ⟨c, hc, hblank⟩ := hw
  obtain ⟨v, rfl⟩ := List.head?_eq_some_iff.mp hc
  rw [blankLength, List.takeWhile_append_of_pos hg, List.cons_append,
    List.takeWhile_cons_of_neg (by rw [hblank]; exact Bool.false_ne_true), List.append_nil]

theorem Symbol.Plain.visible {w : List Char} (h : Symbol.Plain w) : ∃ c ∈ w.head?, isBlank c = false := by
  obtain ⟨hblankless, c, cs, rfl, -⟩ := h
  exact ⟨c, rfl, hblankless c List.mem_cons_self⟩

theorem reach_visible {g t cs : List Char} (hg : ∀ c ∈ g, isBlank c = true)
    (ht : ∃ c ∈ t.head?, isBlank c = false) (ts : List (List Char)) :
    Node.reach (t :: ts) (g ++ (t ++ cs)) = g.length + t.length + Node.reach ts cs := by
  have hdrop : (g ++ (t ++ cs)).drop (g.length + t.length) = cs := by
    rw [← List.append_assoc, ← List.length_append, List.drop_left]
  rw [Node.reach, blankLength_visible hg ht, hdrop]

/-- A plain word before a blank, or before something that it does not run into. -/
theorem writes_plain {w : Word} {g common tail : List Char} (hplain : Symbol.Plain w.text)
    (hg : ∀ c ∈ g, isBlank c = true) (hsuffix : w.symbol ≠ Symbol.suffix)
    (hread : Mode.model.token? 0 (w.text ++ common) = some (w.symbol, w.text.length))
    (hstar : common.head? ≠ some '*') (hends : Ends tail) (hrest : Writes ws (common ++ tail)) :
    Writes (w :: ws) (g ++ (w.text ++ (common ++ tail))) := by
  have hblank : blankLength (g ++ (w.text ++ (common ++ tail))) = g.length :=
    blankLength_visible hg hplain.visible
  obtain ⟨-, c, cs, htext, -, -, -, -, hhash, -⟩ := hplain
  have hcontext : Mode.Context Mode.model Mode.model 0 g.length w.symbol w.text common
      (common ++ tail) := by
    constructor
    · have hfollows : Follows (common ++ []) (common ++ tail) := .mk common hends.cut fun h => by cases h
      rwa [List.append_nil] at hfollows
    · constructor
      · intro h
        rw [htext] at h
        exact absurd (Option.some.inj h) hhash
      · intro _
        exact hstar
    · intro h
      cases h
    · rfl
    · intro u hu
      exact Or.inl (Mode.mem_tokens_of_candidates hu)
    · intro hfixed
      have hmem : w.symbol ∈ Mode.model.tokens := by
        rcases List.mem_cons.mp (Mode.mem_of_model hread) with h | h
        · rw [h] at hfixed
          exact absurd hfixed (Nat.lt_irrefl _)
        · rcases List.mem_cons.mp h with h | h
          · rw [h] at hfixed
            exact absurd hfixed (by decide)
          · exact h
      rw [Mode.candidates]
      split
      · exact hmem
      · exact List.mem_filter.mpr ⟨hmem, bne_iff_ne.mpr hsuffix⟩
  have hne : w.text ≠ [] := by
    rw [htext]
    exact List.cons_ne_nil _ _
  have hnext := Mode.token?_follows hcontext Mode.plain_model Mode.plain_model hne hread
  rw [Writes, hblank, List.drop_left, List.take_left, List.drop_left]
  exact ⟨hnext, rfl, hrest⟩

/-- Words of a text begin with no blank. -/
theorem Writes.visible_first (h : Writes ws cs) : ∀ w ∈ ws, ∃ c ∈ w.text.head?, isBlank c = false := by
  induction ws generalizing cs with
  | nil =>
    intro w hw
    cases hw
  | cons w ws ih =>
    intro v hv
    obtain ⟨g, rest, -, -, hblank, htoken, hrest⟩ := h.first
    rcases List.mem_cons.mp hv with rfl | hv
    · obtain ⟨⟨hlexeme, -⟩, -, hbound, -⟩ := Mode.token_lexeme Mode.plain_model htoken
      rw [List.take_left] at hlexeme
      obtain ⟨c, u, hu⟩ := List.exists_cons_of_ne_nil (hlexeme.ne_nil hbound h.visible.2)
      rw [hu] at hblank ⊢
      exact ⟨c, rfl, hblank c rfl⟩
    · exact ih hrest v hv

namespace Dialect

/-- What is written in front of the expression. -/
def openingText (d : Dialect) (z : List Char) : List Char :=
  match d with
  | full => "display".toList
  | output => "printf".toList
  | linear => "minimize ".toList ++ (z ++ [':'])

theorem first_openingText (d : Dialect) (z : List Char) :
    ∃ c cs, d.openingText z = c :: cs ∧ c ≠ byteOrderMark := by
  cases d with
  | full => exact ⟨'d', _, rfl, by decide⟩
  | output => exact ⟨'p', _, rfl, by decide⟩
  | linear => exact ⟨'m', _, rfl, by decide⟩

/-- Whether a text is read as a name before a colon. -/
def IsName (z : List Char) : Prop := Mode.model.token? 0 (z ++ [':']) = some (Symbol.symbolicName, z.length)

instance (z : List Char) : Decidable (IsName z) := inferInstanceAs (Decidable (_ = _))

theorem plain_of_isName {z : List Char} (hz : IsName z) : Symbol.Plain z := by
  obtain ⟨⟨hlexeme, -⟩, -⟩ := Mode.token_lexeme Mode.plain_model hz
  rw [List.take_left] at hlexeme
  exact Symbol.plain_name hlexeme

theorem words_checked :
    (Token.display.text = "display".toList ∧ Token.printf.text = "printf".toList ∧
      Token.minimize.text = "minimize".toList ∧ Token.colon.text = [':']) ∧
    ∀ t ∈ [Token.display, Token.printf, Token.minimize, Token.colon],
      t.IsLiteral ∧ t ≠ Symbol.suffix ∧ Mode.model.token? 0 t.text = some (t, t.text.length) := by
  decide +kernel

theorem openingText_eq (d : Dialect) (z : List Char) : d.openingText z =
    match d with
    | full => Token.display.text
    | output => Token.printf.text
    | linear => Token.minimize.text ++ ([' '] ++ (z ++ Token.colon.text)) := by
  obtain ⟨⟨hdisplay, hprintf, hminimize, hcolon⟩, -⟩ := words_checked
  cases d with
  | full => exact hdisplay.symm
  | output => exact hprintf.symm
  | linear =>
    rw [hminimize, hcolon]
    rfl

theorem plain_word {t : Symbol} (ht : t ∈ [Token.display, Token.printf, Token.minimize, Token.colon]) :
    Symbol.Plain t.text :=
  Symbol.plain_text (words_checked.2 t ht).1

theorem writes_word {t : Symbol} (ht : t ∈ [Token.display, Token.printf, Token.minimize, Token.colon])
    {tail : List Char} (hends : Ends tail) (hrest : Writes ws tail) :
    Writes (.token t :: ws) (t.text ++ tail) := by
  obtain ⟨-, hsuffix, hread⟩ := words_checked.2 t ht
  have hread : Mode.model.token? 0 (t.text ++ []) = some (t, t.text.length) := by rwa [List.append_nil]
  have hrest' : Writes ws ([] ++ tail) := hrest
  have h := writes_plain (w := .token t) (g := []) (plain_word ht) (fun _ h => by cases h) hsuffix hread
    (by simp) hends hrest'
  rwa [List.nil_append, List.nil_append, text_token] at h

theorem writes_opening (d : Dialect) {z tail : List Char} (hz : IsName z) (hends : Ends tail)
    (hrest : Writes ws tail) : Writes (d.opening z ++ ws) (d.openingText z ++ tail) := by
  rw [openingText_eq]
  cases d with
  | full => exact writes_word (by simp) hends hrest
  | output => exact writes_word (by simp) hends hrest
  | linear =>
    have hcolon : Writes (.token Token.colon :: ws) (Token.colon.text ++ tail) :=
      writes_word (by simp) hends hrest
    rw [words_checked.1.2.2.2] at hcolon ⊢
    have hsuffix : Symbol.symbolicName ≠ Symbol.suffix := by decide
    have hname : Writes (⟨Symbol.symbolicName, z⟩ :: .token Token.colon :: ws)
        ([' '] ++ (z ++ ([':'] ++ tail))) :=
      writes_plain (plain_of_isName hz) (by simp [isBlank]) hsuffix hz (by simp) hends hcolon
    have hall := writes_word (t := Token.minimize) (by simp) (fun c hc => by cases hc; rfl) hname
    simpa only [List.append_assoc, opening, List.cons_append, List.nil_append] using hall

theorem reach_word {t : Symbol} (ht : t ∈ [Token.display, Token.printf, Token.minimize, Token.colon])
    (ts : List (List Char)) (cs : List Char) :
    Node.reach (t.text :: ts) (t.text ++ cs) = t.text.length + Node.reach ts cs := by
  have h : Node.reach (t.text :: ts) ([] ++ (t.text ++ cs)) = _ :=
    reach_visible (fun _ h => by cases h) (plain_word ht).visible ts
  rwa [List.nil_append, List.length_nil, Nat.zero_add] at h

theorem texts_opening (d : Dialect) (z : List Char) :
    (d.openingParts z).flatMap Sketch.texts = (d.opening z).map (·.text) := by
  cases d <;> simp [openingParts, opening, Sketch.texts]

theorem reach_opening (d : Dialect) {z : List Char} (hz : IsName z) (tail : List Char) :
    Node.reach ((d.openingParts z).flatMap Sketch.texts) (d.openingText z ++ tail) =
      (d.openingText z).length := by
  rw [openingText_eq, texts_opening]
  cases d with
  | full =>
    simp only [opening, List.map_cons, List.map_nil, text_token]
    rw [reach_word (by simp), Node.reach, Nat.add_zero]
  | output =>
    simp only [opening, List.map_cons, List.map_nil, text_token]
    rw [reach_word (by simp), Node.reach, Nat.add_zero]
  | linear =>
    have hcolon : Node.reach [Token.colon.text] (Token.colon.text ++ tail) = _ :=
      reach_word (by simp) [] tail
    have hname : Node.reach [z, Token.colon.text] ([' '] ++ (z ++ (Token.colon.text ++ tail))) = _ :=
      reach_visible (by simp [isBlank]) (plain_of_isName hz).visible _
    simp only [opening, List.map_cons, List.map_nil, text_token, List.append_assoc]
    rw [reach_word (by simp), hname, hcolon, Node.reach]
    simp only [List.length_append]
    omega

end Dialect

open Phrase (texts_parts plain_parts Common)

theorem texts_node (e : Phrase) (d : Dialect) (x : Symbol) :
    (Sketch.node x (e.parts d)).texts = e.words.map (·.text) := by
  rw [Sketch.texts, Sketch.textsAll_eq, texts_parts]

theorem plain_node (e : Phrase) (d : Dialect) :
    (Sketch.node d.branch (e.parts d)).plain = .node Grammar.expr ((e.parts .full).map Sketch.plain) := by
  have hbranch : plainKind d.branch = Grammar.expr := by cases d <;> rfl
  rw [Sketch.plain, Sketch.plainAll_eq, plain_parts, hbranch]

/-- What all rules for expressions allow is parsed without errors in a display, a printf and an objective,
and the three expressions lie alike: of the same kinds, with the same children, at the same places counted
from where the expression begins. -/
theorem parse_common {ws : List Word} (h : Common ws) {z text : List Char} (hz : Dialect.IsName z)
    (hw : Writes (ws ++ [.token Token.semicolon]) (' ' :: text)) :
    ∃ (e : Phrase) (layout : Layout), e.words = ws ∧ ∀ d : Dialect, ∃ tree n,
      MathProg.parse (d.openingText z ++ ' ' :: text) = some tree ∧ tree.hasError = false ∧
      (Node.ofTree tree).descend [0, (d.openingParts z).length] = .ok n ∧
      n.sketch (d.openingText z ++ ' ' :: text) = .node d.branch (e.parts d) ∧
      n.layout n.start.chars = layout := by
  obtain ⟨e, rfl, he⟩ := h.exists_chain
  refine ⟨e, (Sketch.node Grammar.expr ((e.parts .full).map Sketch.plain)).lay
    ((Node.places 0 (e.words.map (·.text)) (' ' :: text)).map fun r =>
      (r.1 - blankLength (' ' :: text), r.2 - blankLength (' ' :: text))), rfl, ?_⟩
  intro d
  have hends : Ends (' ' :: text) := by
    intro c hc
    cases hc
    rfl
  have hall := d.writes_opening hz hends hw
  obtain ⟨tree, htree, herror, hsketch⟩ := he.shows (mem_dialects d) z _ hall
  have hmark : (d.openingText z ++ ' ' :: text).head? ≠ some byteOrderMark := by
    obtain ⟨c, cs, hcs, hc⟩ := d.first_openingText z
    rw [hcs]
    exact fun h => hc (Option.some.inj h)
  have htexts : ((Node.ofTree tree).sketch (d.openingText z ++ ' ' :: text)).texts =
      (d.opening z ++ (e.words ++ [Word.token Token.semicolon])).map Word.text := by
    rw [hsketch]
    simp [Sketch.texts, Sketch.textsAll_eq, d.texts_opening z, texts_parts]
  have hfirst : ∀ t ∈ ((Node.ofTree tree).sketch (d.openingText z ++ ' ' :: text)).texts,
      ∃ c ∈ t.head?, isBlank c = false := by
    intro t ht
    rw [htexts] at ht
    obtain ⟨w, hmem, rfl⟩ := List.mem_map.mp ht
    exact hall.visible_first w hmem
  obtain ⟨n, hdescend, hn, hlayout⟩ :=
    Node.layout_of_parse htree hmark hsketch hfirst (d.reach_opening hz (' ' :: text))
  refine ⟨tree, n, htree, herror, hdescend, hn, ?_⟩
  rw [hlayout, plain_node, texts_node]

def less : Operator := ⟨⟨6, false⟩, ["<"], by decide⟩

/-- A sum with a conditional in its body. -/
theorem parse_sum_of_conditional : ∃ (e : Phrase) (layout : Layout), ∀ d : Dialect, ∃ tree n,
    MathProg.parse (d.openingText ['z'] ++ " sum {i in I} if a < 1 then b[i] else c + d;".toList) =
      some tree ∧
      tree.hasError = false ∧
      (Node.ofTree tree).descend [0, (d.openingParts ['z']).length] = .ok n ∧
      n.sketch (d.openingText ['z'] ++ " sum {i in I} if a < 1 then b[i] else c + d;".toList) =
        .node d.branch (e.parts d) ∧
      n.layout n.start.chars = layout := by
  have hbranch := @Common.indexed ['b'] none [[⟨Symbol.symbolicName, ['i']⟩]] (by simp) fun ws hws => by
    rw [List.mem_singleton.mp hws]
    exact .name ['i'] none
  have hother := Common.binary Phrase.plus (by decide +kernel) (.name ['c'] none) (.name ['d'] none)
  have hbody := Common.choice less (by decide +kernel) (.name ['a'] none) (.number ['1']) hbranch hother
  have hsum := @Common.quantified Phrase.sum Phrase.smallIndex rfl _ hbody
  obtain ⟨e, layout, -, hall⟩ := @parse_common _ hsum ['z']
    "sum {i in I} if a < 1 then b[i] else c + d;".toList (by decide +kernel) (by decide +kernel)
  exact ⟨e, layout, hall⟩

end MathProg
