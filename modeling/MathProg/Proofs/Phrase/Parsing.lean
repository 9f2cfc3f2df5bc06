import MathProg.Proofs.Phrase.Operands

/-!
# Reading expressions

An expression that ends before a token is read as it stands, at every site: the automaton makes of its
words the node that shows its parts. There is one lemma for each form; what ends in an operand is made when
the site of that operand closes.
-/

namespace MathProg

open Automaton Straight Phrase
open Expression (Level Operator Sign follow)

variable {s u : State} {k : Site} {t x : Symbol} {ws : List Word} {items : List Item} {b : Bracket}
  {e : Phrase} {es : List Phrase} {ps : List Sketch} {n : Nat}

/-- Behind the condition of an index. -/
def filteredState (more : Bool) : State := follow (Site.filter more).full [Token.closeBrace]

theorem filters_checked :
    Takes (Bracket.behind .index) Token.colon (Site.filter false).state ∧
    Takes (Bracket.repeated .index) Token.colon (Site.filter true).state ∧
    ∀ more ∈ [false, true], Takes (Site.filter more).full Token.closeBrace (filteredState more) ∧
      ∀ t ∈ Bracket.index.before, action? (filteredState more) t =
        some (.reduce (plainRule Grammar.indexingExpression (if more then 6 else 5))) := by
  decide +kernel

/-- The node of an index, which stands behind a quantifier or for itself. -/
theorem reads_index (hb : Bracket.StartsAt .index k) (hs : Takes s Token.openBrace k.state)
    (hes : ∀ e ∈ es, e.Read) (hne : es ≠ [])
    (hstands : standAll es k (.listed .index true) Token.closeBrace = true)
    (hfirst : k = .listed .set false → es.head?.any isEntry = true) (ht : t ∈ Bracket.index.before)
    (hu : successor? s Grammar.indexingExpression = some u) :
    Reads s (index es).words t [⟨u, .node Grammar.indexingExpression (index es).inner⟩] := by
  obtain ⟨v, items, hread, hends, hflat⟩ := reads_bracket hb hs hne hes hstands (fun h => by cases h)
    (fun h _ => hfirst h) (fun h => by cases h) ht
  exact reads_whole hread hends (by simp [Bracket.around]) hu hflat (List.cons_ne_nil _ _)

theorem reads_filtered {c : Phrase} (hb : Bracket.StartsAt .index k) (hs : Takes s Token.openBrace k.state)
    (hes : ∀ e ∈ es, e.Read) (hc : c.Read) (hne : es ≠ [])
    (hstands : standAll es k (.listed .index true) Token.colon = true)
    (hfirst : k = .listed .set false → es.head?.any isEntry = true ∨ es.length = 1)
    (hcs : c.stands (.filter (es.length != 1)) = true)
    (hce : c.ends (.filter (es.length != 1)) Token.closeBrace = true) (ht : t ∈ Bracket.index.before)
    (hu : successor? s Grammar.indexingExpression = some u) :
    Reads s (filtered es c).words t [⟨u, .node Grammar.indexingExpression (filtered es c).inner⟩] := by
  obtain ⟨items, hg, hmembers, hflat, hcount⟩ := reads_members hb hne hes
    (by simp [Bracket.closers]) hstands
    (fun h => by cases h) fun hk _ => (hfirst hk).imp_right fun h => ⟨h, rfl⟩
  obtain ⟨hone, hmore, hclose⟩ := filters_checked
  -- the colon
  have hcolon : Takes (topOf k.state items) Token.colon (Site.filter (es.length != 1)).state := by
    have hlen := hcount (by simp)
    cases hg with
    | one v =>
      have hsingle : es.length = 1 := by
        by_contra hno
        rw [if_neg hno] at hlen
        cases hlen
      rw [hsingle]
      exact hone
    | more _ v qs =>
      have hmany : es.length ≠ 1 := by
        intro h
        rw [if_pos h] at hlen
        cases hlen
      rw [bne_iff_ne.mpr hmany]
      exact hmore
  -- the condition
  have hcondition := hc _ (Site.filter_mem _) Token.closeBrace
    (Dialect.mem_followers_of_stop (d := .full) (by decide)) hcs hce
  rw [item_of_plain (isEntry_of_stands hcs rfl) (by simp [isBare, Site.takesTuples])] at hcondition
  obtain ⟨htake, hends⟩ := hclose (es.length != 1) (by cases es.length != 1 <;> simp)
  have hread := (Takes.reads (w := .token Token.openBrace) hs _).append
    (hmembers.append ((Takes.reads (w := .token Token.colon) hcolon _).append
      (hcondition.append (Takes.reads (w := .token Token.closeBrace) htake t) rfl) rfl) rfl) rfl
  have hlen : (if (es.length != 1) = true then 6 else 5) = items.length + 4 := by
    rw [hcount (by simp)]
    by_cases h : es.length = 1 <;> simp [h]
  refine reads_whole hread (hends t ht) (by simpa using hlen) hu ?_ (List.cons_ne_nil _ _)
  simp only [Phrase.inner, flat_append, flat_cons, flat_nil, hflat, View.under_word, List.nil_append,
    List.append_assoc,
    List.cons_append, Site.dialect, Dialect.symbol, under_expr]

theorem under_index (ps : List Sketch) :
    (View.node Grammar.indexingExpression ps).under none = [.node Grammar.indexingExpression ps] :=
  View.under_visible (visible_checked _ (by simp)) ps

theorem index_before (ht : t ∈ k.followers) : t ∈ Bracket.index.before :=
  List.mem_append_left _ (Site.follower_full ht)

theorem index_operand (hk : k ∈ sites) (ht : t ∈ k.followers)
    (h : Reads k.state ws t [⟨Site.indexState, .node Grammar.indexingExpression ps⟩]) :
    Reads k.state ws t [⟨k.full, .node k.dialect.symbol [.node Grammar.indexingExpression ps]⟩] :=
  reads_operand hk ht h (sets_checked.2.2.2 t (Site.follower_full ht)) rfl
    ((flat_one _).trans (under_index _)) (List.cons_ne_nil _ _)

/-- An index is an operand where the statement has no use for it. -/
theorem read_index (hes : ∀ e ∈ es, e.Read) : (index es).Read := by
  intro k hk t ht hstands _
  simp only [Phrase.stands, Bool.and_eq_true, Bool.not_eq_true'] at hstands
  obtain ⟨⟨hplain, hfirst⟩, hall⟩ := hstands
  have hne : es ≠ [] := by
    rintro rfl
    cases hfirst
  have hread := reads_index (Or.inr ⟨rfl, rfl⟩) (Site.takes_start hk (by decide)) hes hne hall
    (fun _ => hfirst)
    (index_before ht) (Site.goes_index hk hplain)
  rw [item_of_plain rfl rfl]
  exact index_operand hk ht hread

theorem read_filtered {c : Phrase} (hes : ∀ e ∈ es, e.Read) (hc : c.Read) : (filtered es c).Read := by
  intro k hk t ht hstands _
  simp only [Phrase.stands, Bool.and_eq_true, Bool.or_eq_true, Bool.not_eq_true', beq_iff_eq] at hstands
  obtain ⟨⟨⟨hplain, hfirst⟩, hall⟩, hcs, hce⟩ := hstands
  have hne : es ≠ [] := by
    rintro rfl
    rcases hfirst with h | h <;> cases h
  have hread := reads_filtered (Or.inr ⟨rfl, rfl⟩) (Site.takes_start hk (by decide)) hes hc hne hall
    (fun _ => hfirst.symm) hcs hce (index_before ht) (Site.goes_index hk hplain)
  rw [item_of_plain rfl rfl]
  exact index_operand hk ht hread

theorem quantifiers_checked : ∀ q ∈ quantifiers, q.2 ∈ starters ∧
    Takes (outside [q.2]) Token.openBrace (Site.listed .index false).state ∧
    successor? (outside [q.2]) Grammar.indexingExpression = some (Site.body q.1 q.2).state := by
  decide +kernel

/-- Read as the braces behind a quantifier. -/
def Phrase.ReadBehind (e : Phrase) : Prop :=
  ∀ q : Quantifier, ∀ t ∈ openers, e.standsBehind = true →
    Reads (outside [q.token]) e.words t
      [⟨(Site.body q.level q.token).state, .node Grammar.indexingExpression e.inner⟩]

theorem readBehind_index (hes : ∀ e ∈ es, e.Read) : (index es).ReadBehind := by
  intro q t ht hstands
  simp only [standsBehind, Bool.and_eq_true, Bool.not_eq_true', List.isEmpty_eq_false_iff] at hstands
  obtain ⟨-, htake, hgo⟩ := quantifiers_checked _ q.known
  exact reads_index (Or.inl rfl) htake hes hstands.1 hstands.2 (fun h => by cases h)
    (List.mem_append_right _ ht) hgo

theorem readBehind_filtered {c : Phrase} (hes : ∀ e ∈ es, e.Read) (hc : c.Read) :
    (filtered es c).ReadBehind := by
  intro q t ht hstands
  simp only [standsBehind, Bool.and_eq_true, Bool.not_eq_true', List.isEmpty_eq_false_iff] at hstands
  obtain ⟨⟨hne, hall⟩, hcs, hce⟩ := hstands
  obtain ⟨-, htake, hgo⟩ := quantifiers_checked _ q.known
  exact reads_filtered (Or.inl rfl) htake hes hc hne hall (fun h => by cases h) hcs hce
    (List.mem_append_right _ ht) hgo

/-- Read as a tuple of its own, wherever it ends. -/
def Phrase.ReadTuple (e : Phrase) : Prop :=
  e.isTuple = true → ∀ k ∈ sites, ∀ t ∈ Dialect.full.followers, e.stands k = true →
    Reads k.state e.words t [⟨k.tupelState, .node Grammar.tupel e.inner⟩]

theorem ranges_checked : ∀ k ∈ [Site.listed .set false, .listed .index false, .listed .index true],
    Takes k.nameState Token.inWord (Site.range false).state ∧
    Takes k.tupelState Token.inWord (Site.range true).state ∧
    successor? k.state Grammar.indexingEntry = some (follow k.state [Grammar.indexingEntry]) ∧
    ∀ tuple ∈ [false, true], ∀ t ∈ [Token.comma, Token.colon, Token.closeBrace],
      action? (Site.range tuple).full t =
        some (.reduce ⟨Grammar.indexingEntry, 3, Tree.namedFrom 0 [none, some Grammar.operator,
          none]⟩) := by
  decide +kernel

-- Before an `in` a name is a dummy or an operand, as the site has it.
example : Site.nameState (.listed .set false) ≠ Site.nameState (.listed .set true) := by decide +kernel

/-- The dummy of an entry. -/
theorem reads_dummy {i : Phrase} (hi : i.ReadTuple)
    (hk : k ∈ [Site.listed .set false, .listed .index false, .listed .index true])
    (hdummy : i.isDummy = true)
    (hstands : i.stands (.listed .group false) = true) :
    ∃ (u : State) (v : View), Reads k.state i.words Token.inWord [⟨u, v⟩] ∧
      Takes u Token.inWord (Site.range i.isTuple).state ∧ v.under none = i.parts .full := by
  obtain ⟨hname, htuple, -⟩ := ranges_checked k hk
  have hmem : k ∈ sites := by
    simp only [List.mem_cons, List.not_mem_nil, or_false] at hk
    rcases hk with rfl | rfl | rfl <;> exact Site.listed_mem _ _
  cases i with
  | name text suffix? =>
    cases suffix? with
    | none => exact ⟨_, _, Takes.reads (w := ⟨Symbol.symbolicName, text⟩) (Site.takes_name hmem) _,
      hname, rfl⟩
    | some _ => cases hdummy
  | tuple es =>
    have hread := hi rfl k hmem Token.inWord (by decide) hstands
    exact ⟨_, _, hread, htuple, under_tupel _⟩
  | _ => cases hdummy

theorem read_entry {i m : Phrase} (hi : i.ReadTuple) (hm : m.Read) : (entry i m).Read := by
  intro k hk t ht hstands hends
  simp only [Phrase.stands, Bool.and_eq_true] at hstands
  obtain ⟨⟨⟨hdummies, hdummy⟩, his⟩, hms⟩ := hstands
  simp only [Phrase.ends, Bool.and_eq_true, List.contains_iff_mem] at hends
  obtain ⟨hme, hclose⟩ := hends
  have hmember : k ∈ [Site.listed .set false, .listed .index false, .listed .index true] := by
    have hmem := Site.mem_memberSites (Or.inl hdummies)
    simp only [memberSites, List.mem_cons, List.not_mem_nil, or_false] at hmem ⊢
    rcases hmem with rfl | rfl | rfl | rfl
    · exact Or.inl rfl
    · cases hdummies
    · exact Or.inr (Or.inl rfl)
    · exact Or.inr (Or.inr rfl)
  obtain ⟨-, -, hgo, hreduce⟩ := ranges_checked k hmember
  obtain ⟨u, v, hread, htake, hshown⟩ := reads_dummy hi hmember hdummy his
  have hrange := hm (.range i.isTuple) (Site.range_mem _) t (Site.follower_full ht) hms hme
  rw [item_of_plain (isEntry_of_stands hms rfl) (by simp [isBare, Site.takesTuples])] at hrange
  have hall := hread.append ((Takes.reads (w := .token Token.inWord) htake _).append hrange rfl) rfl
  have hparts : View.named [none, some Grammar.operator, none] (views
      ([⟨(Site.range i.isTuple).full, .node Grammar.expr (m.parts .full)⟩] ++
        [⟨(Site.range i.isTuple).state, .token (.token Token.inWord)⟩] ++ [⟨u, v⟩])) =
      (entry i m).parts .full := by
    simp [views, hshown, Phrase.parts]
  exact reads_named hall (hreduce _ (by cases i.isTuple <;> simp) t hclose) rfl rfl hgo hparts
    (parts_ne_nil _ _)

theorem under_operand (d : Dialect) (ps : List Sketch) :
    (View.node d.symbol ps).under d.operand? = [.node Grammar.expr ps] := by
  cases d with
  | full => exact under_expr ps
  | output | linear => rfl

theorem read_signed (g : Sign) (he : e.Read) : (signed g e).Read := by
  intro k hk t ht hstands hends
  simp only [Phrase.stands, Bool.and_eq_true, List.contains_iff_mem] at hstands
  simp only [Phrase.ends, Bool.and_eq_true] at hends
  obtain ⟨hsign, hs⟩ := hstands
  obtain ⟨hinner, hclose⟩ := hends
  have hmem := Site.under_mem hsign
  have ht' : t ∈ k.dialect.followers := Site.follower_of_dialect ht
  have hoperand := he _ hmem t ht' hs hinner
  rw [item_of_plain (isEntry_of_stands hs rfl) (by simp [isBare, Site.takesTuples])] at hoperand
  have hall := (Takes.reads (w := .token g.token) (Site.takes_sign hk hsign) _).append hoperand rfl
  rw [item_of_plain rfl rfl]
  have hparts : View.named [some Grammar.operator, k.dialect.operand?] (views
      ([⟨(Site.under k.dialect g.level g.token).full, .node k.dialect.symbol (e.parts k.dialect)⟩] ++
        [⟨(Site.under k.dialect g.level g.token).state, .token (.token g.token)⟩])) =
      (signed g e).parts k.dialect := by
    simp [views, Phrase.parts, under_operand]
  exact reads_named hall (Site.reduces hmem ht' hclose) rfl rfl (Site.goes_full hk) hparts
    (parts_ne_nil _ _)

/-- The name under which a token of an operator shows, if it is not its own. -/
def operatorName? (t : Symbol) : Option Symbol := if t = Token.points then none else some Grammar.operator

theorem tokens_checked : ∀ d ∈ dialects, ∀ o ∈ d.operators,
    (o.2.length = 1 ∨ o.2.length = 2) ∧
    (∀ t ∈ o.2.head?, t ∉ [Token.comma, Token.colon, Token.closeBrace] ∧
      ∀ v ∈ o.2[1]?, Takes (follow d.behind [t]) v (follow d.behind [t, v])) := by
  decide +kernel

theorem operator_follower {o : Level × List Symbol} (ho : o ∈ k.dialect.operators) (ht : t ∈ o.2.head?) :
    t ∈ k.followers := by
  have hmem : ∀ os : List (Level × List Symbol), o ∈ os → t ∈ os.filterMap (·.2.head?) :=
    fun os h => List.mem_filterMap.mpr ⟨o, h, ht⟩
  cases k with
  | listed b later =>
    cases b with
    | set => cases later <;> exact List.mem_append_left _ (hmem _ ho)
    | group | subscript | call | index => exact List.mem_append_left _ (hmem _ ho)
  | _ => exact List.mem_append_left _ (hmem _ ho)

/-- Before an operator neither an entry ends nor does a tuple stand for itself. -/
theorem item_before_operator {o : Level × List Symbol} (ho : o ∈ k.dialect.operators) (ht : t ∈ o.2.head?)
    (hends : e.ends k t = true) : e.item k t = ⟨k.full, .node k.dialect.symbol (e.parts k.dialect)⟩ := by
  obtain ⟨-, hplain⟩ := tokens_checked _ (mem_dialects _) o ho
  have hnot := (hplain t ht).1
  apply item_of_plain
  · cases e with
    | entry i m =>
      simp only [Phrase.ends, Bool.and_eq_true, List.contains_iff_mem] at hends
      exact absurd hends.2 hnot
    | _ => rfl
  · have hbare : [Token.comma, Token.closeBrace].contains t = false := by
      rw [Bool.eq_false_iff, ne_eq, List.contains_iff_mem]
      intro h
      apply hnot
      simp only [List.mem_cons, List.not_mem_nil, or_false] at h ⊢
      exact h.elim Or.inl fun h => Or.inr (Or.inr h)
    rw [isBare, hbare, Bool.and_false]

/-- The words of an operator. -/
theorem reads_operator {d : Dialect} {p : Level} {ts : List Symbol} (ho : (p, ts) ∈ d.operators)
    (hs : Takes s (ts.headD Token.comma) (follow d.behind [ts.headD Token.comma])) (t : Symbol) :
    ∃ items, Reads s (ts.map Word.token) t items ∧ topOf s items = (Site.right d p ts).state ∧
      items.length = ts.length ∧
      View.named (ts.map operatorName?) (views items) =
        ts.map fun t => if t = Token.points then Token.leaf t else Token.operator t := by
  have hshown : ∀ t : Symbol, (View.token (.token t)).under (operatorName? t) =
      [if t = Token.points then Token.leaf t else Token.operator t] := by
    intro t
    unfold operatorName?
    split <;> rfl
  obtain ⟨hlen, hfirst⟩ := tokens_checked d (mem_dialects d) _ ho
  cases ts with
  | nil => simp at hlen
  | cons t₁ ts =>
    cases ts with
    | nil =>
      refine ⟨_, Takes.reads (w := .token t₁) hs t, rfl, rfl, ?_⟩
      simp [views, hshown]
    | cons t₂ ts =>
      obtain rfl : ts = [] := by simpa using hlen
      have htake := (hfirst t₁ rfl).2 t₂ rfl
      refine ⟨_, (Takes.reads (w := .token t₁) hs t₂).append (Takes.reads (w := .token t₂) htake t) rfl,
        rfl,
        rfl, ?_⟩
      simp [views, hshown]

/-- The site of an operand that does not close takes in an operator. -/
theorem takes_operator {p : Level} {ts : List Symbol} (hk : k ∈ sites) (ho : (p, ts) ∈ k.dialect.operators)
    (hopen : k.closes (ts.headD Token.comma) = false) :
    Takes k.full (ts.headD Token.comma) (follow k.dialect.behind [ts.headD Token.comma]) := by
  have hhead : ts.headD Token.comma ∈ ts.head? := by
    obtain ⟨hlen, -⟩ := tokens_checked _ (mem_dialects _) _ ho
    cases ts with
    | nil => simp at hlen
    | cons t ts => rfl
  obtain ⟨hlevel, -⟩ := operators_checked _ (mem_dialects _) _ ho _ hhead
  exact Site.continues hk (operator_follower ho hhead) hopen (by rw [hlevel]; rfl)

theorem ahead_operator (o : Operator) (t : Symbol) (ws : List Word) :
    ahead t (o.tokens.map Word.token ++ ws) = o.token := by
  have hhead := o.head
  unfold Operator.token at hhead ⊢
  cases hts : o.tokens with
  | nil =>
    rw [hts] at hhead
    cases hhead
  | cons u us => rfl

theorem read_binary (o : Operator) {l r : Phrase} (hl : l.Read) (hr : r.Read) : (binary o l r).Read := by
  intro k hk t ht hstands hends
  simp only [Phrase.stands, Bool.and_eq_true, List.contains_iff_mem, Bool.not_eq_true'] at hstands
  simp only [Phrase.ends, Bool.and_eq_true] at hends
  obtain ⟨⟨ho, ⟨hls, hle⟩, hopen⟩, hrs⟩ := hstands
  obtain ⟨hre, hclose⟩ := hends
  have hmem := Site.right_mem ho
  have hfirst := operator_follower ho o.head
  have ht' : t ∈ k.dialect.followers := Site.follower_of_dialect ht
  -- the left operand and the operator
  have hleft := hl k hk o.token hfirst hls hle
  rw [item_before_operator ho o.head hle] at hleft
  obtain ⟨items, hread, htop, hlen, hnamed⟩ :=
    reads_operator ho (takes_operator hk ho hopen) (ahead t r.words)
  -- the right operand
  have hright := hr _ hmem t ht' hrs hre
  rw [item_of_plain (isEntry_of_stands hrs rfl) (by simp [isBare, Site.takesTuples]), ← htop] at hright
  have hall := hleft.append (hread.append hright rfl) (ahead_operator o _ _)
  rw [item_of_plain rfl rfl]
  have hparts : View.named (k.dialect.operand? :: (o.tokens.map operatorName? ++ [k.dialect.operand?]))
      (views (([⟨(Site.right k.dialect o.level o.tokens).full,
        .node k.dialect.symbol (r.parts k.dialect)⟩] ++
        items) ++ [⟨k.full, .node k.dialect.symbol (l.parts k.dialect)⟩])) =
      (binary o l r).parts k.dialect := by
    have hviews : ∀ i j : Item, views ([i] ++ items ++ [j]) = j.view :: (views items ++ [i.view]) := by
      simp [views]
    rw [hviews, View.named_cons, under_operand, View.named_append (by simp [views, hlen]), hnamed,
      View.named_cons,
      under_operand]
    rfl
  exact reads_named hall (Site.reduces hmem ht' hclose) (by simp [Site.names, hlen])
    (by simp [Site.names, hlen]) (Site.goes_full hk) hparts (parts_ne_nil _ _)

theorem steps_checked : ∀ d ∈ dialects, (Operator.range.level, [Token.points]) ∈ d.operators →
    Token.byWord ∈ d.followers ∧
      Takes (Site.right d Operator.range.level [Token.points]).full Token.byWord (Site.step d).state := by
  decide +kernel

theorem read_stepped {l r g : Phrase} (hl : l.Read) (hr : r.Read) (hg : g.Read) : (stepped l r g).Read := by
  intro k hk t ht hstands hends
  simp only [Phrase.stands, Bool.and_eq_true, List.contains_iff_mem, Bool.not_eq_true'] at hstands
  simp only [Phrase.ends, Bool.and_eq_true] at hends
  obtain ⟨⟨⟨ho, ⟨hls, hle⟩, hopen⟩, hrs, hre⟩, hgs⟩ := hstands
  obtain ⟨hge, hclose⟩ := hends
  have hmem := Site.step_mem ho
  have ht' : t ∈ k.dialect.followers := Site.follower_of_dialect ht
  obtain ⟨hby, hstep⟩ := steps_checked _ (mem_dialects _) ho
  -- the range
  have hleft := hl k hk Token.points (operator_follower ho rfl) hls hle
  rw [item_before_operator ho rfl hle] at hleft
  have hright := hr _ (Site.right_mem ho) Token.byWord hby hrs hre
  rw [item_of_plain (isEntry_of_stands hrs rfl) (by simp [isBare, Site.takesTuples])] at hright
  -- the step
  have hlast := hg _ hmem t ht' hgs hge
  rw [item_of_plain (isEntry_of_stands hgs rfl) (by simp [isBare, Site.takesTuples])] at hlast
  have hall := hleft.append ((Takes.reads (w := .token Token.points) (takes_operator hk ho hopen) _).append
    (hright.append ((Takes.reads (w := .token Token.byWord) hstep _).append hlast rfl) rfl) rfl) rfl
  rw [item_of_plain rfl rfl]
  have hparts : ∀ u₁ u₂ u₃ u₄ u₅ : State, View.named
      [k.dialect.operand?, none, k.dialect.operand?, none, k.dialect.operand?]
      (views [⟨u₁, .node k.dialect.symbol (g.parts k.dialect)⟩, ⟨u₂, .token (.token Token.byWord)⟩,
        ⟨u₃, .node k.dialect.symbol (r.parts k.dialect)⟩, ⟨u₄, .token (.token Token.points)⟩,
        ⟨u₅, .node k.dialect.symbol (l.parts k.dialect)⟩]) = (stepped l r g).parts k.dialect := by
    intro u₁ u₂ u₃ u₄ u₅
    simp [views, Phrase.parts, under_operand]
  exact reads_named hall (Site.reduces hmem ht' hclose) rfl rfl (Site.goes_full hk) (hparts _ _ _ _ _)
    (parts_ne_nil _ _)

theorem conditionals_checked : ∀ d ∈ dialects,
    Takes (Site.test d).full Token.thenWord (Site.branch d).state ∧
    Takes (Site.branch d).full Token.elseWord (Site.other d).state ∧ Token.elseWord ∈ d.followers := by
  decide +kernel

theorem under_conditional (d : Dialect) (ps : List Sketch) :
    (View.node d.conditional ps).under d.conditional? = [.node Grammar.conditionalExpression ps] := by
  cases d with
  | full => exact View.under_visible (visible_checked Grammar.conditionalExpression (by simp)) ps
  | output | linear => rfl

theorem under_branch (d : Dialect) (ps : List Sketch) :
    (View.node d.symbol ps).under d.branch? = [.node d.branch ps] := by
  cases d with
  | full => exact under_expr ps
  | output => rfl
  | linear => exact View.under_visible (visible_checked Grammar.linearExpression (by simp)) ps

theorem conditional_operand (hk : k ∈ sites) (ht : t ∈ k.followers)
    (h : Reads k.state ws t [⟨follow k.dialect.first [k.dialect.conditional],
      .node k.dialect.conditional ps⟩]) :
    Reads k.state ws t [⟨k.full, .node k.dialect.symbol [.node Grammar.conditionalExpression ps]⟩] := by
  have hends := (only_checked _ (mem_dialects _) t (Site.follower_of_dialect ht)).2
  refine reads_named h hends rfl rfl (Site.goes_full hk) ?_ (List.cons_ne_nil _ _)
  simp [views, under_conditional]

/-- The condition, with the words around it. -/
theorem reads_condition {c : Phrase} (hc : c.Read) (hk : k ∈ sites)
    (hs : c.stands (.test k.dialect) = true) (he : c.ends (.test k.dialect) Token.thenWord = true)
    (t : Symbol) :
    Reads k.state (.token Token.ifWord :: (c.words ++ [.token Token.thenWord])) t
      [⟨(Site.branch k.dialect).state, .token (.token Token.thenWord)⟩,
        ⟨(Site.test k.dialect).full, .node Grammar.expr (c.parts .full)⟩,
        ⟨(Site.test k.dialect).state, .token (.token Token.ifWord)⟩] := by
  obtain ⟨hthen, -⟩ := conditionals_checked _ (mem_dialects k.dialect)
  have hcondition := hc _ (Site.test_mem k.dialect) Token.thenWord
    (Dialect.mem_followers_of_stop (d := .full) (by decide)) hs he
  rw [item_of_plain (isEntry_of_stands hs rfl) (by simp [isBare, Site.takesTuples])] at hcondition
  exact (Takes.reads (w := .token Token.ifWord) (Site.takes_if hk) _).append
    (hcondition.append (Takes.reads (w := .token Token.thenWord) hthen t) rfl) rfl

theorem read_choice {c y : Phrase} (hc : c.Read) (hy : y.Read) : (choice c y).Read := by
  intro k hk t ht hstands hends
  simp only [Phrase.stands, Bool.and_eq_true] at hstands
  simp only [Phrase.ends, Bool.and_eq_true] at hends
  obtain ⟨⟨hcs, hce⟩, hys⟩ := hstands
  obtain ⟨hye, hclose⟩ := hends
  have ht' : t ∈ k.dialect.followers := Site.follower_of_dialect ht
  have hyes := hy _ (Site.branch_mem k.dialect) t ht' hys hye
  rw [item_of_plain (isEntry_of_stands hys rfl) (by simp [isBare, Site.takesTuples])] at hyes
  have hall := (reads_condition hc hk hcs hce _).append hyes rfl
  have hparts : ∀ u₁ u₂ u₃ u₄ : State, View.named [none, none, none, k.dialect.branch?]
      (views [⟨u₁, .node k.dialect.symbol (y.parts k.dialect)⟩, ⟨u₂, .token (.token Token.thenWord)⟩,
        ⟨u₃, .node Grammar.expr (c.parts .full)⟩, ⟨u₄, .token (.token Token.ifWord)⟩]) =
      [Token.leaf Token.ifWord, .node Grammar.expr (c.parts .full), Token.leaf Token.thenWord,
        .node k.dialect.branch (y.parts k.dialect)] := by
    intro u₁ u₂ u₃ u₄
    simp [views, under_branch]
  have hmade := reads_named hall (Site.reduces (Site.branch_mem _) ht' hclose) rfl rfl
    (Site.goes_primary hk (List.mem_cons_of_mem _ List.mem_cons_self)) (hparts _ _ _ _)
      (List.cons_ne_nil _ _)
  rw [item_of_plain rfl rfl, Phrase.words, Phrase.parts]
  have hall := conditional_operand hk ht hmade
  rwa [List.cons_append, List.append_assoc, List.singleton_append] at hall

theorem read_choiceElse {c y n : Phrase} (hc : c.Read) (hy : y.Read) (hn : n.Read) :
    (choiceElse c y n).Read := by
  intro k hk t ht hstands hends
  simp only [Phrase.stands, Bool.and_eq_true] at hstands
  simp only [Phrase.ends, Bool.and_eq_true] at hends
  obtain ⟨⟨⟨hcs, hce⟩, hys, hye⟩, hns⟩ := hstands
  obtain ⟨hne, hclose⟩ := hends
  have ht' : t ∈ k.dialect.followers := Site.follower_of_dialect ht
  obtain ⟨-, helse, hfollower⟩ := conditionals_checked _ (mem_dialects k.dialect)
  have hyes := hy _ (Site.branch_mem k.dialect) Token.elseWord hfollower hys hye
  rw [item_of_plain (isEntry_of_stands hys rfl) (by simp [isBare, Site.takesTuples])] at hyes
  have hno := hn _ (Site.other_mem k.dialect) t ht' hns hne
  rw [item_of_plain (isEntry_of_stands hns rfl) (by simp [isBare, Site.takesTuples])] at hno
  have hall := (reads_condition hc hk hcs hce _).append
    (hyes.append ((Takes.reads (w := .token Token.elseWord) helse _).append hno rfl) rfl) rfl
  have hparts : ∀ u₁ u₂ u₃ u₄ u₅ u₆ : State,
      View.named [none, none, none, k.dialect.branch?, none, k.dialect.branch?]
      (views [⟨u₁, .node k.dialect.symbol (n.parts k.dialect)⟩, ⟨u₂, .token (.token Token.elseWord)⟩,
        ⟨u₃, .node k.dialect.symbol (y.parts k.dialect)⟩, ⟨u₄, .token (.token Token.thenWord)⟩,
        ⟨u₅, .node Grammar.expr (c.parts .full)⟩, ⟨u₆, .token (.token Token.ifWord)⟩]) =
      [Token.leaf Token.ifWord, .node Grammar.expr (c.parts .full), Token.leaf Token.thenWord,
        .node k.dialect.branch (y.parts k.dialect), Token.leaf Token.elseWord,
        .node k.dialect.branch (n.parts k.dialect)] := by
    intro u₁ u₂ u₃ u₄ u₅ u₆
    simp [views, under_branch]
  have hmade := reads_named hall (Site.reduces (Site.other_mem _) ht' hclose) rfl rfl
    (Site.goes_primary hk (List.mem_cons_of_mem _ List.mem_cons_self)) (hparts _ _ _ _ _ _)
    (List.cons_ne_nil _ _)
  rw [item_of_plain rfl rfl, Phrase.words, Phrase.parts]
  have hall := conditional_operand hk ht hmade
  rwa [List.cons_append, List.append_assoc, List.singleton_append, List.singleton_append] at hall

theorem opener_starter (ht : t ∈ starters) : t ∈ openers :=
  List.mem_cons_of_mem _ (List.mem_cons_of_mem _ (List.mem_append_left _ ht))

theorem openers_checked : ∀ t ∈ [Symbol.number, Symbol.string, Token.openParen, Token.openBrace],
    t ∈ starters := by
  decide

/-- What a phrase begins with. -/
theorem ahead_words (e : Phrase) (t : Symbol) : ahead t e.words ∈ openers := by
  have hcons : ∀ (w : Word) (ws : List Word), w.symbol ∈ openers → ahead t (w :: ws) ∈ openers :=
    fun _ _ h => h
  have hstart : ∀ (w : Word) (ws : List Word),
      w.symbol ∈ [Symbol.number, Symbol.string, Token.openParen, Token.openBrace] →
      ahead t (w :: ws) ∈ openers :=
    fun w _ h => opener_starter (openers_checked w.symbol h)
  match e with
  | number _ | string _ | group _ _ | tuple _ | literal _ | index _ | filtered _ _ =>
    rw [Phrase.words]
    exact hstart _ _ (by simp [Word.token])
  | name _ _ | indexed _ _ _ =>
    rw [Phrase.words]
    exact hcons _ _ List.mem_cons_self
  | call f _ _ =>
    rw [Phrase.words]
    exact hcons _ _ (opener_starter (by simp [starters, f.known, Word.token]))
  | entry i m =>
    rw [Phrase.words, ahead_append]
    exact ahead_words i _
  | quantified q _ _ =>
    rw [Phrase.words]
    exact hcons _ _ (opener_starter (quantifiers_checked _ q.known).1)
  | choice _ _ | choiceElse _ _ _ =>
    rw [Phrase.words]
    exact hcons _ _ (List.mem_cons_of_mem _ List.mem_cons_self)
  | signed g _ =>
    rw [Phrase.words]
    exact hcons _ _ (List.mem_cons_of_mem _ (List.mem_cons_of_mem _
      (List.mem_append_right _ (List.mem_map.mpr ⟨_, g.mem_tokens, rfl⟩))))
  | binary o l r =>
    rw [Phrase.words, ahead_append]
    exact ahead_words l _
  | stepped l r g =>
    rw [Phrase.words, ahead_append]
    exact ahead_words l _

theorem iterated_checked : Finishes (outside [Grammar.iteratedExpression])
    (plainRule Grammar.primary 1) := by
  decide +kernel

theorem read_quantified (q : Quantifier) {i b : Phrase} (hi : i.ReadBehind) (hb : b.Read) :
    (quantified q i b).Read := by
  intro k hk t ht hstands hends
  simp only [Phrase.stands, Bool.and_eq_true] at hstands
  simp only [Phrase.ends, Bool.and_eq_true] at hends
  obtain ⟨his, hbs⟩ := hstands
  obtain ⟨hbe, hclose⟩ := hends
  have ht' := Site.follower_full ht
  have hbody := hb _ (Site.body_mem q) t ht' hbs hbe
  rw [item_of_plain (isEntry_of_stands hbs rfl) (by simp [isBare, Site.takesTuples])] at hbody
  have hall := (Takes.reads (w := .token q.token) (Site.takes_start hk
    (quantifiers_checked _ q.known).1) _).append
    ((hi q _ (ahead_words b t) his).append hbody rfl) rfl
  have hparts : ∀ u₁ u₂ u₃ : State, View.named [some Grammar.operator, none, none]
      (views [⟨u₁, .node Grammar.expr (b.parts .full)⟩, ⟨u₂, .node Grammar.indexingExpression i.inner⟩,
        ⟨u₃, .token (.token q.token)⟩]) =
      Token.operator q.token :: (i.parts .full ++ [.node Grammar.expr (b.parts .full)]) := by
    intro u₁ u₂ u₃
    have hindex : i.parts .full = [.node Grammar.indexingExpression i.inner] := by
      cases i <;> first | rfl | cases his
    simp [views, under_index, hindex]
  have hmade := reads_named hall (Site.reduces (Site.body_mem q) ht' hclose) rfl rfl
    (Site.goes_operand hk (by decide)) (hparts _ _ _) (List.cons_ne_nil _ _)
  rw [item_of_plain rfl rfl, Phrase.parts]
  exact reads_operand hk ht hmade (iterated_checked t ht') rfl
    ((flat_one _).trans (View.under_visible (visible_checked _ (by simp)) _)) (List.cons_ne_nil _ _)

/-- What is known of how a phrase is read: at a site, as a tuple and behind a quantifier. -/
structure Phrase.Known (e : Phrase) : Prop where
  read : e.Read
  tuple : e.ReadTuple
  behind : e.ReadBehind

theorem known_of_read (h : e.Read) (ht : e.isTuple = false) (hb : e.standsBehind = false) : e.Known := by
  refine ⟨h, ?_, ?_⟩
  · intro h
    rw [ht] at h
    cases h
  · intro q t _ h
    rw [hb] at h
    cases h

theorem known_tuple (hes : ∀ e ∈ es, e.Read) : (tuple es).Known :=
  ⟨read_tuple hes, fun _ _ hk _ ht hs => reads_tupel hk hes hs ht, fun _ _ _ h => by cases h⟩

theorem known_index (hes : ∀ e ∈ es, e.Read) : (index es).Known :=
  ⟨read_index hes, fun h => (by cases h), readBehind_index hes⟩

theorem known_filtered {c : Phrase} (hes : ∀ e ∈ es, e.Read) (hc : c.Read) : (filtered es c).Known :=
  ⟨read_filtered hes hc, fun h => (by cases h), readBehind_filtered hes hc⟩

mutual

theorem known : ∀ e : Phrase, e.Known
  | number t => known_of_read (read_number t) rfl rfl
  | string t => known_of_read (read_string t) rfl rfl
  | name t suffix? => known_of_read (read_name t suffix?) rfl rfl
  | indexed t es suffix? => known_of_read (read_indexed t suffix? (readAll es)) rfl rfl
  | group e suffix? => known_of_read (read_group suffix? (known e).read) rfl rfl
  | call f es suffix? => known_of_read (read_call f suffix? (readAll es)) rfl rfl
  | tuple es => known_tuple (readAll es)
  | literal es => known_of_read (read_literal (readAll es)) rfl rfl
  | index es => known_index (readAll es)
  | filtered es c => known_filtered (readAll es) (known c).read
  | entry i m => known_of_read (read_entry (known i).tuple (known m).read) rfl rfl
  | quantified q i b => known_of_read (read_quantified q (known i).behind (known b).read) rfl rfl
  | choice c y => known_of_read (read_choice (known c).read (known y).read) rfl rfl
  | choiceElse c y n => known_of_read (read_choiceElse (known c).read (known y).read (known n).read) rfl rfl
  | signed g e => known_of_read (read_signed g (known e).read) rfl rfl
  | binary o l r => known_of_read (read_binary o (known l).read (known r).read) rfl rfl
  | stepped l r g => known_of_read (read_stepped (known l).read (known r).read (known g).read) rfl rfl

theorem readAll : ∀ es : List Phrase, ∀ e ∈ es, e.Read
  | [], _, h => by cases h
  | e :: es, x, h => (List.mem_cons.mp h).elim (fun hx => hx ▸ (known e).read) (readAll es x)

end

/-- An expression is read as it stands, at every site and before every token at which it ends. -/
theorem reads_phrase (hk : k ∈ sites) (ht : t ∈ k.followers) (h : e.fits k t = true) :
    Reads k.state e.words t [e.item k t] := by
  rw [fits, Bool.and_eq_true] at h
  exact (known e).read k hk t ht h.1 h.2

end MathProg
