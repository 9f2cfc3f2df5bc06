import MathProg.Node.Sexp
import MathProg.Proofs.Node.Outline
import MathProg.Session

/-!
# Nested lists

A nested list can be read back: what it begins with ends where a bracket or a blank follows, names in
quotes and shown characters included. Read back, the list of a node is the node's outline, so that it is
nested as the JSON form is.
-/

namespace MathProg

/-- What a list begins with: the kind of a node, the name of a token that is missing, or a character as
it is shown where reading gave up. -/
inductive Heading where
  | kind (name : List Char)
  | missing (named : Bool) (name : List Char)
  | unexpected (shown : List Char)
  deriving DecidableEq

namespace Heading

def missingMark : List Char := ['M', 'I', 'S', 'S', 'I', 'N', 'G', ' ']

def unexpectedMark : List Char := ['U', 'N', 'E', 'X', 'P', 'E', 'C', 'T', 'E', 'D', ' ']

def write : Heading → List Char
  | kind name => name
  | missing named name => missingMark ++ if named then name else '"' :: (name ++ ['"'])
  | unexpected shown => unexpectedMark ++ shown

def readMissing : List Char → Heading × List Char
  | '"' :: cs => (missing false (cs.takeWhile (· != '"')), (cs.dropWhile (· != '"')).tail)
  | cs => (missing true (cs.takeWhile isNameChar), cs.dropWhile isNameChar)

def readUnexpected : List Char → Heading × List Char
  | '\'' :: '\\' :: c :: '\'' :: cs => (unexpected ['\'', '\\', c, '\''], cs)
  | '\'' :: c :: '\'' :: cs => (unexpected ['\'', c, '\''], cs)
  | cs => (unexpected (cs.takeWhile isNameChar), cs.dropWhile isNameChar)

/-- The heading that a text begins with, and the rest of the text. -/
def read : List Char → Heading × List Char
  | 'M' :: cs => readMissing (cs.drop 7)
  | 'U' :: cs => readUnexpected (cs.drop 10)
  | cs => (kind (cs.takeWhile isNameChar), cs.dropWhile isNameChar)

/-- What a heading can be that is written for a node. -/
def Readable : Heading → Prop
  | kind name => name.all isNameChar = true ∧ ∀ c ∈ name.head?, c ≠ 'M' ∧ c ≠ 'U'
  | missing true name => name.all isNameChar = true
  | missing false name => '"' ∉ name
  | unexpected shown => ∃ c, shown = (Node.showChar c).toList

/-- What comes behind a heading: the next list, or the end of this one. -/
def Closes (rest : List Char) : Prop := ∃ cs, rest = ' ' :: cs ∨ rest = ')' :: cs

variable {rest : List Char}

/-- A word ends where a heading does. -/
theorem takeWhile_word {name : List Char} (h : name.all isNameChar = true) (hrest : Closes rest) :
    (name ++ rest).takeWhile isNameChar = name ∧ (name ++ rest).dropWhile isNameChar = rest := by
  rw [List.takeWhile_append_of_pos (List.all_eq_true.mp h),
    List.dropWhile_append_of_pos (List.all_eq_true.mp h)]
  obtain ⟨cs, rfl | rfl⟩ := hrest
  · exact ⟨List.append_nil _, rfl⟩
  · exact ⟨List.append_nil _, rfl⟩

theorem read_kind {name : List Char} (h : (kind name).Readable) (hrest : Closes rest) :
    read (name ++ rest) = (kind name, rest) := by
  obtain ⟨htake, hdrop⟩ := takeWhile_word h.1 hrest
  have hword : read (name ++ rest) =
      (kind ((name ++ rest).takeWhile isNameChar), (name ++ rest).dropWhile isNameChar) := by
    cases name with
    | nil => obtain ⟨cs, rfl | rfl⟩ := hrest <;> rfl
    | cons c name =>
      obtain ⟨hm, hu⟩ := h.2 c rfl
      rw [List.cons_append, read.eq_3]
      · intro cs hcs
        exact hm (List.cons.inj hcs).1
      · intro cs hcs
        exact hu (List.cons.inj hcs).1
  rw [hword, htake, hdrop]

theorem readMissing_named {name : List Char} (h : name.all isNameChar = true) (hrest : Closes rest) :
    readMissing (name ++ rest) = (missing true name, rest) := by
  obtain ⟨htake, hdrop⟩ := takeWhile_word h hrest
  have hword : readMissing (name ++ rest) =
      (missing true ((name ++ rest).takeWhile isNameChar), (name ++ rest).dropWhile isNameChar) := by
    refine readMissing.eq_2 _ fun cs hcs => ?_
    cases name with
    | nil => obtain ⟨ds, rfl | rfl⟩ := hrest <;> cases hcs
    | cons c name =>
      obtain ⟨rfl, -⟩ := List.cons.inj hcs
      exact absurd (List.all_eq_true.mp h _ List.mem_cons_self) (by decide)
  rw [hword, htake, hdrop]

theorem readMissing_quoted {name : List Char} (h : '"' ∉ name) :
    readMissing ('"' :: (name ++ '"' :: rest)) = (missing false name, rest) := by
  have hall : ∀ c ∈ name, (c != '"') = true := by
    intro c hc
    rw [bne_iff_ne]
    rintro rfl
    exact h hc
  rw [readMissing, List.takeWhile_append_of_pos hall, List.dropWhile_append_of_pos hall]
  exact congrArg (fun n => (missing false n, rest)) (List.append_nil _)

/-- A character is shown in quotes, after a backslash or not, or by its number. -/
theorem showChar_cases (c : Char) :
    (∃ e, (Node.showChar c).toList = ['\'', '\\', e, '\'']) ∨
      (∃ e, (Node.showChar c).toList = ['\'', e, '\'']) ∨
      (Node.showChar c).toList.all isNameChar = true := by
  unfold Node.showChar
  split
  · exact .inl ⟨'0', rfl⟩
  · split
    · exact .inl ⟨'n', rfl⟩
    · split
      · exact .inl ⟨'t', rfl⟩
      · split
        · exact .inl ⟨'r', rfl⟩
        · split
          · refine .inr (.inl ⟨c, ?_⟩)
            rw [String.toList_append, String.toList_append, Char.toString_eq_singleton,
              String.toList_singleton]
            rfl
          · refine .inr (.inr (List.all_eq_true.mpr fun d hd => ?_))
            rw [show toString c.toNat = c.toNat.repr from rfl, Nat.toList_repr] at hd
            have hdigit := Nat.isDigit_of_mem_toDigits (by decide) (by decide) hd
            rw [isNameChar, Char.isAlphanum, hdigit, Bool.or_true, Bool.true_or]

theorem readUnexpected_shown {shown : List Char} (h : (unexpected shown).Readable)
    (hrest : Closes rest) : readUnexpected (shown ++ rest) = (unexpected shown, rest) := by
  obtain ⟨c, rfl⟩ := h
  obtain ⟨e, he⟩ | ⟨e, he⟩ | hword := showChar_cases c
  · rw [he]
    rfl
  · rw [he]
    -- The closing quote is no escaped one, since another would have to follow.
    refine readUnexpected.eq_2 e rest fun ds _ hds => ?_
    obtain ⟨cs, rfl | rfl⟩ := hrest <;> cases hds
  · obtain ⟨htake, hdrop⟩ := takeWhile_word hword hrest
    have hquote : ∀ cs, (Node.showChar c).toList ++ rest ≠ '\'' :: cs := by
      intro cs hcs
      cases hshown : (Node.showChar c).toList with
      | nil =>
        rw [hshown] at hcs
        obtain ⟨ds, rfl | rfl⟩ := hrest <;> cases hcs
      | cons d ds =>
        rw [hshown] at hcs hword
        obtain ⟨rfl, -⟩ := List.cons.inj hcs
        exact absurd (List.all_eq_true.mp hword _ List.mem_cons_self) (by decide)
    rw [readUnexpected.eq_3, htake, hdrop]
    · exact fun d ds => hquote _
    · exact fun d ds => hquote _

theorem read_missing (cs : List Char) : read (missingMark ++ cs) = readMissing cs := by
  rw [missingMark, List.cons_append, read]
  rfl

theorem read_unexpected (cs : List Char) : read (unexpectedMark ++ cs) = readUnexpected cs := by
  rw [unexpectedMark, List.cons_append, read]
  rfl

/-- A heading that is written can be read back. -/
theorem read_write {h : Heading} (hh : h.Readable) (hrest : Closes rest) :
    read (h.write ++ rest) = (h, rest) := by
  cases h with
  | kind name => exact read_kind hh hrest
  | missing named name =>
    rw [write, List.append_assoc, read_missing]
    cases named with
    | true => exact readMissing_named hh hrest
    | false =>
      rw [if_neg Bool.false_ne_true, List.cons_append, List.append_assoc]
      exact readMissing_quoted hh
  | unexpected shown =>
    rw [write, List.append_assoc, read_unexpected]
    exact readUnexpected_shown hh hrest

end Heading

namespace Outline

mutual

def write : Outline Heading → List Char
  | mk h os => '(' :: (h.write ++ (writeAll os ++ [')']))

def writeAll : List (Outline Heading) → List Char
  | [] => []
  | o :: os => ' ' :: (write o ++ writeAll os)

end

mutual

/-- Reads a nested list, with a bound on its depth and its length. -/
def readList : Nat → List Char → Option (Outline Heading × List Char)
  | k + 1, '(' :: cs => do
    let (h, cs) := Heading.read cs
    let (os, cs) ← readLists k cs
    some (mk h os, cs)
  | _, _ => none

/-- Reads lists up to the bracket that closes the list they stand in. -/
def readLists : Nat → List Char → Option (List (Outline Heading) × List Char)
  | _, ')' :: cs => some ([], cs)
  | k + 1, ' ' :: cs => do
    let (o, cs) ← readList k cs
    let (os, cs) ← readLists k cs
    some (o :: os, cs)
  | _, _ => none

end

/-- The tree that a nested list describes, if a text is a nested list. -/
def read? (s : String) : Option (Outline Heading) :=
  match readList s.length s.toList with
  | some (o, []) => some o
  | _ => none

theorem closes_writeAll (rest : List Char) (os : List (Outline Heading)) :
    Heading.Closes (writeAll os ++ ')' :: rest) := by
  cases os with
  | nil => exact ⟨rest, .inr rfl⟩
  | cons o os => exact ⟨_, .inl rfl⟩

mutual

/-- A nested list that is written can be read back, whatever comes behind it. -/
theorem readList_write : ∀ (o : Outline Heading) {k : Nat} {rest : List Char},
    (∀ h ∈ o.entries, h.Readable) → o.write.length ≤ k →
    readList k (o.write ++ rest) = some (o, rest)
  | mk h os, 0, _, _, hk => absurd hk (Nat.not_succ_le_zero _)
  | mk h os, k + 1, rest, hr, hk => by
    have hlength : (writeAll os).length + 1 ≤ k := by
      simp only [write, List.length_cons, List.length_append, List.length_nil] at hk
      omega
    have hread := Heading.read_write (hr h List.mem_cons_self) (closes_writeAll rest os)
    have hos : readLists k (writeAll os ++ ')' :: rest) = some (os, rest) :=
      readLists_write os (fun g hg => hr g (List.mem_cons_of_mem _ hg)) hlength
    rw [write, List.cons_append, List.append_assoc, List.append_assoc, readList, List.singleton_append,
      hread]
    exact Option.bind_eq_some_iff.mpr ⟨_, hos, rfl⟩

theorem readLists_write : ∀ (os : List (Outline Heading)) {k : Nat} {rest : List Char},
    (∀ h ∈ entriesAll os, h.Readable) → (writeAll os).length + 1 ≤ k →
    readLists k (writeAll os ++ ')' :: rest) = some (os, rest)
  | [], k, rest, _, _ => by
    rw [writeAll, List.nil_append, readLists]
  | o :: os, 0, _, _, hk => absurd hk (Nat.not_succ_le_zero _)
  | o :: os, k + 1, rest, hr, hk => by
    have hlength : o.write.length ≤ k ∧ (writeAll os).length + 1 ≤ k := by
      have hpos : 0 < o.write.length := by
        cases o
        exact Nat.succ_pos _
      simp only [writeAll, List.length_cons, List.length_append] at hk
      omega
    have ho : readList k (o.write ++ (writeAll os ++ ')' :: rest)) =
        some (o, writeAll os ++ ')' :: rest) :=
      readList_write o (fun g hg => hr g (List.mem_append_left _ hg)) hlength.1
    have hos : readLists k (writeAll os ++ ')' :: rest) = some (os, rest) :=
      readLists_write os (fun g hg => hr g (List.mem_append_right _ hg)) hlength.2
    rw [writeAll, List.cons_append, List.append_assoc, readLists]
    exact Option.bind_eq_some_iff.mpr ⟨_, ho, Option.bind_eq_some_iff.mpr ⟨_, hos, rfl⟩⟩

end

theorem read_write {s : String} {o : Outline Heading} (hs : s.toList = o.write)
    (h : ∀ g ∈ o.entries, g.Readable) : read? s = some o := by
  have hlength : o.write.length ≤ s.length := by
    rw [← hs]
    exact Nat.le_of_eq String.length_toList
  have hread : readList s.length (o.write ++ []) = some (o, []) := readList_write o h hlength
  rw [List.append_nil] at hread
  rw [read?, hs, hread]

end Outline

namespace Symbol

def Entry.readable (e : Entry) : Bool :=
  !e.name.toList.contains '"' && (!e.form.isNamed ||
    (e.name.toList.all isNameChar && e.name.toList.head?.all fun c => c != 'M' && c != 'U'))

theorem entries_readable : table.toList.all Entry.readable = true := by decide +kernel

theorem readable_of_lookup {s : Symbol} {e : Entry} (h : lookup? s = some e) : e.readable = true := by
  rw [lookup?] at h
  split at h
  · cases h
    decide
  · split at h
    · cases h
      decide
    · exact List.all_eq_true.mp entries_readable e (Array.mem_toList_iff.mpr (Array.mem_of_getElem? h))

/-- No name has a quote in it, and the name of a named symbol is a word. -/
theorem name_readable (s : Symbol) : '"' ∉ (name s).toList ∧
    (isNamed s = true → (Heading.kind (name s).toList).Readable) := by
  rw [name, isNamed]
  cases h : lookup? s with
  | none => exact ⟨List.not_mem_nil, fun hno => absurd hno Bool.false_ne_true⟩
  | some e =>
    have he := readable_of_lookup h
    rw [Entry.readable, Bool.and_eq_true, Bool.not_eq_true', Bool.or_eq_true, Bool.not_eq_true',
      Bool.and_eq_true, Option.all_eq_true] at he
    refine ⟨fun hquote => ?_, fun hnamed => ?_⟩
    · have hyes : e.name.toList.contains '"' = true := List.contains_iff_mem.mpr hquote
      exact Bool.false_ne_true (he.1.symm.trans hyes)
    · obtain ⟨hword, hhead⟩ := he.2.resolve_left fun hno => Bool.false_ne_true (hno.symm.trans hnamed)
      refine ⟨hword, fun c hc => ?_⟩
      have hc := hhead c hc
      rw [Bool.and_eq_true, bne_iff_ne, bne_iff_ne] at hc
      exact hc

end Symbol

namespace Node

/-- What the list of a node is to begin with. An error that has text and no children says where reading
gave up. -/
def heading (n : Node) : Heading :=
  if n.isError && n.children.isEmpty && n.start.bytes < n.stop.bytes then
    .unexpected (showChar (n.info.stopped.getD '\x00')).toList
  else if n.isMissing then .missing n.isNamed n.kind.toList
  else .kind n.kind.toList

theorem readable_heading {n : Node} (h : n.isListed = true) : n.heading.Readable := by
  have hname := Symbol.name_readable n.symbol
  rw [heading]
  split
  · exact ⟨_, rfl⟩
  · split
    · cases hnamed : n.isNamed with
      | true => exact (hname.2 hnamed).1
      | false => exact hname.1
    · rename_i hmissing
      rw [isListed, Bool.or_eq_true] at h
      exact hname.2 (h.resolve_left hmissing)

/-- Where an error has text and no children, reading gave up at a character. -/
theorem Formed.opening {n : Node} (h : n.Formed) : n.opening.toList = '(' :: n.heading.write := by
  have hstopped : (n.isError && n.children.isEmpty && n.info.stopped.isSome &&
      decide (n.start.bytes < n.stop.bytes)) =
      (n.isError && n.children.isEmpty && decide (n.start.bytes < n.stop.bytes)) := by
    rw [Bool.and_right_comm, Bool.and_eq_left_iff_imp]
    intro htext
    rw [Bool.and_eq_true, Bool.and_eq_true, List.isEmpty_iff, decide_eq_true_eq] at htext
    exact h.unread htext.1.2 htext.2 htext.1.1
  rw [Node.opening, hstopped, heading]
  split
  · rw [String.toList_append]
    rfl
  · split
    · cases hnamed : n.isNamed
      · rw [if_neg Bool.false_ne_true, String.toList_append, String.toList_append, String.toList_append]
        rfl
      · rw [if_pos rfl, String.toList_append]
        rfl
    · rw [String.toList_append]
      rfl

mutual

/-- The list of a node is that of its outline. -/
theorem sexp_eq_write : ∀ n : Node, (∀ m ∈ n.preorder, m.Formed) →
    n.sexp.toList = (n.outline.map heading).write
  | mk i cs, h => by
    have hcs := sexpAll_eq_writeAll cs fun m hm => h m (List.mem_cons_of_mem _ hm)
    rw [sexp, String.toList_append, String.toList_append, (h _ List.mem_cons_self).opening, hcs,
      List.cons_append, List.cons_append, List.append_assoc]
    rfl

theorem sexpAll_eq_writeAll : ∀ ns : List Node, (∀ m ∈ preorderAll ns, m.Formed) →
    (sexpAll ns).toList = Outline.writeAll (Outline.mapAll heading (outlineAll ns))
  | [], _ => rfl
  | n :: ns, h => by
    have hn := sexp_eq_write n fun m hm => h m (List.mem_append_left _ hm)
    have hns := sexpAll_eq_writeAll ns fun m hm => h m (List.mem_append_right _ hm)
    rw [sexpAll, outlineAll, String.toList_append, hns]
    split
    · rw [String.toList_append, hn]
      rfl
    · rename_i hlisted
      have hself : n.Formed := h n (List.mem_append_left _ n.self_mem_preorder)
      rw [eq_of_unlisted hself.literal (Bool.not_eq_true _ ▸ hlisted)]
      rfl

end

end Node

/-- The views of a tree agree, whatever the text. There is one tree, of the named and the missing nodes
and no others, in the order in which a walk meets them. The JSON form describes it, with kinds, places
and marks; and the nested list describes it, with `UNEXPECTED` for an error that has text but no
children. -/
theorem Document.views_agree {source : List Char} {d : Document}
    (h : Document.ofText? source = some d) :
    ∃ o : Outline Node, o.entries = d.root.preorder.filter (fun n => n.isNamed || n.isMissing) ∧
      d.root.toJson.toOutline? = some (o.map Node.listing) ∧
      Outline.read? d.root.sexp = some (o.map Node.heading) := by
  obtain ⟨t, ht, rfl⟩ := Option.map_eq_some_iff.mp h
  have hwhole := parse_whole ht
  have hformed := Node.formed_of_whole hwhole
  have hroot : (Node.ofTree t).isListed = true := by
    rw [Node.isListed, Node.root_named hwhole, Bool.or_true]
  have hentries := Node.entries_outline (Node.ofTree t) (fun n hn => (hformed n hn).literal) hroot
  refine ⟨(Node.ofTree t).outline, ?_, Node.toOutline_toJson _, ?_⟩
  · rw [hentries]
    exact List.filter_congr fun n _ => Bool.or_comm _ _
  · refine Outline.read_write (Node.sexp_eq_write _ hformed) fun g hg => ?_
    rw [Outline.entries_map, hentries] at hg
    obtain ⟨n, hn, rfl⟩ := List.mem_map.mp hg
    exact Node.readable_heading (List.mem_filter.mp hn).2

theorem Document.views_agree_broken :
    ∃ d, Document.ofText? "set é; display (1 ;".toList = some d ∧ d.root.hasError = true ∧
      ∃ o : Outline Node, o.entries = d.root.preorder.filter (fun n => n.isNamed || n.isMissing) ∧
        d.root.toJson.toOutline? = some (o.map Node.listing) ∧
        Outline.read? d.root.sexp = some (o.map Node.heading) := by
  have h : (Document.ofText? "set é; display (1 ;".toList).any (·.root.hasError) = true := by
    decide +kernel
  obtain ⟨d, hd, herror⟩ := (Option.any_eq_true _ _).mp h
  exact ⟨d, hd, herror, views_agree hd⟩

end MathProg
