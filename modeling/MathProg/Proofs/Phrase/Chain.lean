import MathProg.Proofs.Phrase.Edge

/-!
# Chains of operands

Operands and operators in a row make one expression, a chain: each operator goes to what is open for it
at the right edge of all before it. Whatever is written with operators, signs, quantifiers and
conditionals in front of it is a chain again.
-/

namespace MathProg

open Expression (Level Operator Sign)

namespace Phrase

variable {e x n : Phrase} {o : Operator} {k : Site} {t : Symbol} {ds : List Dialect}

/-- Whether an expression may stand anywhere in some dialects, but where it may be a dummy. -/
def StandsIn (e : Phrase) (ds : List Dialect) : Prop :=
  ∀ k : Site, k.dialect ∈ ds → k.takesDummies = false → e.stands k = true

/-- Whether an expression is a chain: something that may stand anywhere, and behind it operators with
their operands, each behind all that ends there. -/
def IsChain (ds : List Dialect) : Phrase → Prop
  | binary o l r => l.IsChain ds ∧ l.ends (.statement .full) o.token = true ∧ r.Follows o ds
  | e => e.StandsIn ds

/-- Whether an expression is an operator with the operands on both of its sides. -/
def isLink : Phrase → Bool
  | binary _ _ _ => true
  | _ => false

/-- Along the left edge. -/
@[elab_as_elim]
theorem leftInduction {motive : Phrase → Prop} (first : ∀ e, e.isLink = false → motive e)
    (link : ∀ o l r, motive l → motive (binary o l r)) (e : Phrase) : motive e := by
  match e with
  | binary o l r => exact link o l r (leftInduction first link l)
  | number _ | string _ | name _ _ | indexed _ _ _ | group _ _ | call _ _ _ | tuple _ | literal _ | index _
  | filtered _ _ | entry _ _ | quantified _ _ _ | choice _ _ | choiceElse _ _ _ | signed _ _
  | stepped _ _ _ =>
    exact first _ rfl

theorem isChain_first (h : e.isLink = false) : e.IsChain ds ↔ e.StandsIn ds := by
  cases e with
  | binary => cases h
  | _ => exact Iff.rfl

/-- A chain stands where none of its operators ends what is before it. -/
theorem IsChain.stands (h : e.IsChain ds) (hd : k.dialect ∈ ds) (hk : k.takesDummies = false)
    (hopen : ∀ o : Operator, (∀ d ∈ ds, (o.level, o.tokens) ∈ d.operators) → k.closes o.token = false) :
    e.stands k = true := by
  induction e using leftInduction with
  | first e he => exact (isChain_first he).mp h k hd hk
  | link o l r ih =>
    obtain ⟨hl, hend, hr⟩ := h
    rw [← ends_operator (hr _ hd).1 hk] at hend
    exact stands_binary hr hd (ih hl) hend (hopen o fun d hd => (hr d hd).1)

/-- A chain is read whole where an expression is not yet bound by anything. -/
theorem IsChain.fits (h : e.IsChain ds) (hd : k.dialect ∈ ds) (hk : k.isUnbound = true) (ht : t ∈ stops) :
    e.fits k t = true := by
  have hdummies : k.takesDummies = false := Site.takesDummies_of_isUnbound hk
  have hstands := h.stands hd hdummies fun o ho => Site.closes_of_isUnbound hk (ho _ hd)
  rw [Phrase.fits, hstands, ends_of_stop ht hstands hdummies]
  rfl

/-- A chain with one operand more. -/
theorem IsChain.attach (hfull : .full ∈ ds) (h : e.IsChain ds) (hx : x.Follows o ds) :
    (e.attach o x).IsChain ds := by
  induction e using rightInduction with
  | closed e hc =>
    rw [attach_closed hc]
    have hstands : e.StandsIn ds := (isChain_first (by cases e <;> first | rfl | cases hc)).mp h
    exact ⟨h, ends_closed hc (isEntry_of_stands (hstands (.statement .full) hfull rfl) rfl) rfl, hx⟩
  | fill f e ih =>
    rcases attach_cases (o := o) (x := x) f e with ⟨hends, hattach⟩ | ⟨hends, hattach⟩
    · rw [hattach]
      exact ⟨h, hends, hx⟩
    · have hopen : ∀ k : Site, k.dialect ∈ ds → k.takesDummies = false →
          ((f.fill e).ends k o.token && k.closes o.token) = false := by
        intro k hd hk
        rw [ends_operator (hx _ hd).1 hk, hends]
        rfl
      by_cases hlink : (f.fill e).isLink = true
      · cases f with
        | left p l =>
          obtain ⟨hl, hlend, hr⟩ := h
          rw [hattach]
          refine ⟨hl, hlend, fun d hd => ⟨(hr d hd).1, ?_⟩⟩
          refine stands_attach hfull hx hd rfl (hr d hd).2 ?_
          rw [← ends_operator (k := .statement d) (hx d hd).1 rfl] at hends
          exact hends
        | _ => cases hlink
      · rw [Bool.not_eq_true] at hlink
        have hstands := (isChain_first hlink).mp h
        have hlink' : ((f.fill e).attach o x).isLink = false := by
          rw [hattach]
          cases f <;> first | rfl | cases hlink
        refine (isChain_first hlink').mpr fun k hd hk => ?_
        exact stands_attach hfull hx hd hk (hstands k hd hk) (hopen k hd hk)

/-- Changes what a chain begins with, and puts behind it what stands behind it. -/
def rebase (g : Phrase → Phrase) : Phrase → Phrase
  | binary o l r => (l.rebase g).attach o r
  | e => g e

theorem rebase_first {g : Phrase → Phrase} (h : e.isLink = false) : e.rebase g = g e := by
  cases e with
  | binary => cases h
  | _ => rfl

theorem words_rebase {g : Phrase → Phrase} {ws : List Word} (hg : ∀ u, (g u).words = ws ++ u.words)
    (e : Phrase) :
    (e.rebase g).words = ws ++ e.words := by
  induction e using leftInduction with
  | first e he => rw [rebase_first he, hg]
  | link o l r ih => rw [rebase, words_attach, ih, words, List.append_assoc]

theorem IsChain.rebase (hfull : .full ∈ ds) {g : Phrase → Phrase}
    (hg : ∀ u, u.StandsIn ds → (g u).IsChain ds)
    (h : e.IsChain ds) : (e.rebase g).IsChain ds := by
  induction e using leftInduction with
  | first e he =>
    rw [rebase_first he]
    exact hg e ((isChain_first he).mp h)
  | link o l r ih => exact (ih h.1).attach hfull h.2.2

variable {c y : Phrase} {s : Sign} {q : Quantifier} {es : List Phrase}

theorem IsChain.group (h : e.IsChain ds) (hfull : .full ∈ ds) (suffix? : Option (List Char))
    (ds' : List Dialect) :
    (group e suffix?).StandsIn ds' := by
  intro k _ _
  exact h.fits (k := .listed .group false) hfull rfl (by simp [stops])

theorem standAll_of_fits {later : Site} (hfirst : ∀ e ∈ es.head?, ∀ u ∈ [Token.comma, t], e.fits k u = true)
    (hlater : ∀ e ∈ es.tail, ∀ u ∈ [Token.comma, t], e.fits later u = true) :
    standAll es k later t = true := by
  induction es generalizing k with
  | nil => rfl
  | cons e es ih =>
    rw [standAll, Bool.and_eq_true]
    constructor
    · apply hfirst e rfl
      split <;> simp
    · exact ih (fun x hx => hlater x (List.mem_of_mem_head? hx)) fun x hx =>
        hlater x (List.mem_of_mem_tail hx)

theorem standAll_of_chains {b : Bracket} (hb : ∀ later, (Site.listed b later).takesDummies = false)
    (ht : t ∈ stops) (hfull : .full ∈ ds) (h : ∀ e ∈ es, e.IsChain ds) :
    standAll es (.listed b false) (.listed b true) t = true := by
  have hfits : ∀ later, ∀ e ∈ es, ∀ u ∈ [Token.comma, t], e.fits (.listed b later) u = true := by
    intro later e he u hu
    refine (h e he).fits hfull (by simp [Site.isUnbound, hb]) ?_
    rcases List.mem_cons.mp hu with rfl | hu
    · simp [stops]
    · exact List.mem_singleton.mp hu ▸ ht
  exact standAll_of_fits (fun e he => hfits false e (List.mem_of_mem_head? he))
    fun e he => hfits true e (List.mem_of_mem_tail he)

theorem standsIn_call (f : Function) (hfull : .full ∈ ds) (h : ∀ e ∈ es, e.IsChain ds)
    (suffix? : Option (List Char)) (ds' : List Dialect) : (call f es suffix?).StandsIn ds' :=
  fun _ _ _ => standAll_of_chains (b := .call) (fun _ => rfl) (by simp [stops]) hfull h

theorem standsIn_indexed (text : List Char) (hne : es ≠ []) (hfull : .full ∈ ds)
    (h : ∀ e ∈ es, e.IsChain ds)
    (suffix? : Option (List Char)) (ds' : List Dialect) : (indexed text es suffix?).StandsIn ds' := by
  intro k _ _
  rw [Phrase.stands, Bool.and_eq_true]
  exact ⟨by simp [hne], standAll_of_chains (b := .subscript) (fun _ => rfl) (by simp [stops]) hfull h⟩

theorem IsChain.signed (h : e.IsChain ds) (hfull : .full ∈ ds)
    (hs : ∀ d ∈ ds, (s.level, s.token) ∈ d.signs) :
    (e.rebase (signed s)).IsChain ds := by
  refine h.rebase hfull fun u hu => ?_
  intro k hd _
  rw [Phrase.stands, Bool.and_eq_true]
  exact ⟨List.contains_iff_mem.mpr (hs _ hd), hu _ hd rfl⟩

theorem IsChain.quantified (h : e.IsChain ds) (hfull : .full ∈ ds) {i : Phrase}
    (hi : i.standsBehind = true) :
    (e.rebase (quantified q i)).IsChain ds := by
  refine h.rebase hfull fun u hu => ?_
  intro k _ _
  rw [Phrase.stands, Bool.and_eq_true]
  exact ⟨hi, hu _ hfull rfl⟩

theorem IsChain.binary (h : e.IsChain ds) (hx : x.IsChain ds) (hfull : .full ∈ ds)
    (ho : ∀ d ∈ ds, (o.level, o.tokens) ∈ d.operators) : (x.rebase (e.attach o)).IsChain ds :=
  hx.rebase hfull fun _ hu => h.attach hfull fun d hd => ⟨ho d hd, hu _ hd rfl⟩

theorem IsChain.branch (h : e.IsChain ds) {d : Dialect} (hd : d ∈ ds) :
    e.stands (.branch d) = true ∧ e.stands (.other d) = true :=
  ⟨h.stands hd rfl fun _ ho => Site.closes_of_isUnbound rfl (ho _ hd),
    h.stands hd rfl fun _ ho => Site.closes_of_isUnbound rfl (ho _ hd)⟩

theorem IsChain.choice (h : e.IsChain ds) (hc : ∀ d ∈ ds, c.fits (.test d) Token.thenWord = true) :
    (choice c e).StandsIn ds := by
  intro k hd _
  rw [Phrase.stands, Bool.and_eq_true]
  exact ⟨hc _ hd, (h.branch hd).1⟩

/-- An `else` behind a conditional makes a conditional again. -/
theorem IsChain.choiceElse (h : e.IsChain ds) (hn : n.IsChain ds) (hfull : .full ∈ ds)
    (hc : ∀ d ∈ ds, c.fits (.test d) Token.thenWord = true) {e' : Phrase}
    (he : (Phrase.choice c e).otherwise n = some e') : e'.IsChain ds := by
  have hlink : e'.isLink = false := by
    rcases otherwise_cases (f := .branch c) he with ⟨x, -, rfl⟩ | ⟨-, -, -, rfl⟩ <;> rfl
  refine (isChain_first hlink).mpr fun k hd hk => ?_
  exact stands_otherwise hfull (fun d hd => (hn.branch hd).2) hd (h.choice hc k hd hk) he

theorem words_binary (e x : Phrase) (o : Operator) :
    (x.rebase (e.attach o)).words = e.words ++ (o.tokens.map Word.token ++ x.words) := by
  rw [← List.append_assoc]
  apply words_rebase
  intro u
  rw [words_attach, List.append_assoc]

theorem arithmetic_checked : (∀ o ∈ Dialect.linear.operators, ∀ d ∈ dialects, o ∈ d.operators) ∧
    ∀ s ∈ Dialect.linear.signs, ∀ d ∈ dialects, s ∈ d.signs := by
  decide +kernel

def plus : Operator := ⟨⟨15, false⟩, ["+"], by decide⟩

def sum : Quantifier := ⟨⟨16, false⟩, 80, by decide⟩

/-- An index with one dummy. -/
def smallIndex : Phrase := index [entry (name ['i'] none) (name ['I'] none)]

end Phrase

end MathProg
