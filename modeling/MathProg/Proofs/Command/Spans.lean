import MathProg.Proofs.Command.Findings
import MathProg.Proofs.Node.Highlights

/-!
# The list of spans

The lines that are printed of a text's highlights can be read again, whatever characters the tokens hold:
every character of a line shows, and reading the quotation gives back the bytes of the text. So the list
tells which spans there are and what they say.
-/

namespace MathProg

namespace Quoted

/-- The digit of a code, in either half of the hexadecimal digits. -/
def digitValue (c : Char) : Nat := if c.isDigit then c.toNat - '0'.toNat else c.toNat - 'a'.toNat + 10

/-- What stands for a character of its own behind a backslash. -/
def unescape? : Char → Option Char
  | '0' => some '\x00'
  | 't' => some '\t'
  | 'r' => some '\r'
  | 'n' => some '\n'
  | '\\' => some '\\'
  | '"' => some '"'
  | _ => none

/-- Reads up to the quote that ends the text, and gives what is behind it. Inside of a code there is the
number that its digits made so far. -/
def read? : Option Nat → List Char → Option (List Char × List Char)
  | none, '"' :: rest => some ([], rest)
  | none, '\\' :: 'u' :: '\x7b' :: rest => read? (some 0) rest
  | none, '\\' :: c :: rest => do
    let x ← unescape? c
    let (text, after) ← read? none rest
    return (x :: text, after)
  | none, c :: rest => do
    let (text, after) ← read? none rest
    return (c :: text, after)
  | some n, '\x7d' :: rest => do
    let (text, after) ← read? none rest
    return (Char.ofNat n :: text, after)
  | some n, c :: rest => read? (some (16 * n + digitValue c)) rest
  | _, [] => none

/-- The digits of a number are those that are written for the numbers below the base. -/
theorem exists_digitChar {b : Nat} (hb : 1 < b) (n : Nat) :
    ∀ c ∈ Nat.toDigits b n, ∃ k < b, c = Nat.digitChar k := by
  induction n using Nat.strongRecOn with
  | ind n ih =>
    intro c hc
    rw [Nat.toDigits_eq_if hb] at hc
    split at hc
    · rename_i hsmall
      exact ⟨n, hsmall, List.mem_singleton.mp hc⟩
    · rename_i hlarge
      rcases List.mem_append.mp hc with hc | hc
      · exact ih (n / b) (Nat.div_lt_self (by omega) hb) c hc
      · exact ⟨n % b, Nat.mod_lt _ (by omega), List.mem_singleton.mp hc⟩

theorem digitValue_digitChar : ∀ k < 16, digitValue (Nat.digitChar k) = k := by decide

theorem foldl_hex (n : Nat) : (hex n).foldl (fun m c => 16 * m + digitValue c) 0 = n := by
  induction n using Nat.strongRecOn with
  | ind n ih =>
    rw [hex, Nat.toDigits_eq_if (by decide)]
    split
    · rename_i hsmall
      simpa using digitValue_digitChar n hsmall
    · have hhigh : (Nat.toDigits 16 (n / 16)).foldl (fun m c => 16 * m + digitValue c) 0 = n / 16 :=
        ih (n / 16) (by omega)
      rw [List.foldl_append, hhigh, List.foldl_cons, List.foldl_nil,
        digitValue_digitChar _ (Nat.mod_lt _ (by decide))]
      omega

theorem read?_digit {c : Char} (hc : c ≠ '\x7d') (n : Nat) (rest : List Char) :
    read? (some n) (c :: rest) = read? (some (16 * n + digitValue c)) rest := by
  rw [read?]
  exact hc

/-- The digits of a code are read to its end. -/
theorem read?_code {digits : List Char} (hdigits : '\x7d' ∉ digits) (n : Nat) (rest : List Char) :
    read? (some n) (digits ++ '\x7d' :: rest) =
      read? (some (digits.foldl (fun m c => 16 * m + digitValue c) n)) ('\x7d' :: rest) := by
  induction digits generalizing n with
  | nil => rfl
  | cons c digits ih =>
    rw [List.mem_cons, not_or] at hdigits
    rw [List.cons_append, read?_digit (Ne.symm hdigits.1), ih hdigits.2]
    rfl

theorem not_mem_hex (n : Nat) : '\x7d' ∉ hex n := by
  intro hmem
  obtain ⟨k, hk, heq⟩ := exists_digitChar (by decide) n _ hmem
  have hno : ∀ k < 16, '\x7d' ≠ Nat.digitChar k := by decide
  exact hno k hk heq

/-- A character is read as it was written. -/
theorem read?_escape (c : Char) (rest : List Char) :
    read? none (escape c ++ rest) = (read? none rest).map fun p => (c :: p.1, p.2) := by
  have hmap : ∀ x : Char, (read? none rest).map (fun p => (x :: p.1, p.2)) =
      (read? none rest).bind fun p => some (x :: p.1, p.2) := fun _ => Option.map_eq_bind
  rw [escape, hmap]
  by_cases hnul : c = '\x00'
  · subst hnul; rfl
  by_cases htab : c = '\t'
  · subst htab; rfl
  by_cases hreturn : c = '\r'
  · subst hreturn; rfl
  by_cases hfeed : c = '\n'
  · subst hfeed; rfl
  by_cases hbackslash : c = '\\'
  · subst hbackslash; rfl
  by_cases hquote : c = '"'
  · subst hquote; rfl
  rw [if_neg hnul, if_neg htab, if_neg hreturn, if_neg hfeed, if_neg hbackslash, if_neg hquote]
  split
  · rw [List.singleton_append, read?]
    · rfl
    · exact hquote
    · exact fun _ h _ => hbackslash h
    · exact fun _ _ h _ => hbackslash h
  · have hcode : read? (some 0) (hex c.toNat ++ '\x7d' :: rest) = read? (some c.toNat) ('\x7d' :: rest) := by
      rw [read?_code (not_mem_hex _), foldl_hex]
    calc read? none (['\\', 'u', '\x7b'] ++ hex c.toNat ++ ['\x7d'] ++ rest)
        = read? (some 0) (hex c.toNat ++ '\x7d' :: rest) := by
          rw [List.append_assoc, List.append_assoc]
          rfl
      _ = (read? none rest).bind fun p => some (Char.ofNat c.toNat :: p.1, p.2) := hcode
      _ = (read? none rest).bind fun p => some (c :: p.1, p.2) := by rw [Char.ofNat_toNat]

theorem read?_quote (text rest : List Char) :
    read? none (text.flatMap escape ++ '"' :: rest) = some (text, rest) := by
  induction text with
  | nil => rfl
  | cons c text ih => rw [List.flatMap_cons, List.append_assoc, read?_escape, ih]; rfl

theorem isShown_digitChar : ∀ k < 16, isShown (Nat.digitChar k) = true := by decide

theorem isShown_toDigits {b : Nat} (hb : 1 < b) (hle : b ≤ 16) (n : Nat) :
    ∀ c ∈ Nat.toDigits b n, isShown c = true := by
  intro c hc
  obtain ⟨k, hk, rfl⟩ := exists_digitChar hb n c hc
  exact isShown_digitChar k (by omega)

/-- Whatever a character is, it is written in characters that show. -/
theorem isShown_escape (c : Char) : ∀ x ∈ escape c, isShown x = true := by
  rw [escape]
  iterate 6
    split
    · exact List.all_eq_true.mp (by decide)
  split
  · rename_i hshown
    exact List.forall_mem_singleton.mpr hshown
  · have hhex : ∀ x ∈ hex c.toNat, isShown x = true := isShown_toDigits (by decide) (by decide) c.toNat
    exact List.forall_mem_append.mpr ⟨List.forall_mem_append.mpr ⟨List.all_eq_true.mp (by decide), hhex⟩,
      List.all_eq_true.mp (by decide)⟩

theorem isShown_quote (text : List Char) : ∀ c ∈ quote text, isShown c = true := by
  refine List.forall_mem_cons.mpr ⟨by decide, List.forall_mem_append.mpr ⟨?_, List.all_eq_true.mp (by decide)⟩⟩
  intro c hc
  obtain ⟨x, -, hc⟩ := List.mem_flatMap.mp hc
  exact isShown_escape x c hc

end Quoted

namespace Command

/-- What a line says of a span. -/
structure SpanLine where
  start : Nat
  stop : Nat
  scope : String
  text : List Char
  deriving DecidableEq, Repr

namespace SpanLine

/-- What is behind a word that a text has to begin with. -/
def after? (word s : List Char) : Option (List Char) :=
  if word.isPrefixOf s then some (s.drop word.length) else none

/-- The number that a text begins with, and what is behind it. -/
def number (s : List Char) : Nat × List Char :=
  (Nat.ofDigitChars 10 (s.takeWhile Char.isDigit) 0, s.dropWhile Char.isDigit)

/-- Reads a line without the line feed. -/
def read? (line : List Char) : Option SpanLine := do
  let (start, s) := number line
  let s ← after? ['.', '.'] s
  let (stop, s) := number s
  let s ← after? [' '] s
  let scope := s.takeWhile (· != ' ')
  let s ← after? [' ', '"'] (s.drop scope.length)
  let (text, s) ← Quoted.read? none s
  if s.isEmpty then some ⟨start, stop, String.ofList scope, text⟩ else none

/-- Reads a list of lines, each of which ends in a line feed. -/
def readAll? (output : String) : Option (List SpanLine) :=
  (output.toList.splitOn '\n').dropLast.mapM read?

/-- The line for a highlight, without the line feed. -/
def chars (h : Highlight) : List Char :=
  Nat.toDigits 10 h.start ++ '.' :: '.' :: (Nat.toDigits 10 h.stop ++ ' ' :: (h.scope.name.toList ++
    ' ' :: Quoted.quote h.text))

def ofHighlight (h : Highlight) : SpanLine := ⟨h.start, h.stop, h.scope.name, h.text⟩

theorem toList_highlightLine (h : Highlight) : (highlightLine h).toList = chars h ++ ['\n'] := by
  simp [highlightLine, chars]

theorem after?_append (word s : List Char) : after? word (word ++ s) = some s := by
  simp [after?]

theorem number_append (n : Nat) {s : List Char} (hs : ∀ c ∈ s.head?, c.isDigit = false) :
    number (Nat.toDigits 10 n ++ s) = (n, s) := by
  have hdigits : ∀ c ∈ Nat.toDigits 10 n, c.isDigit = true :=
    fun _ hc => Nat.isDigit_of_mem_toDigits (by decide) (by decide) hc
  have htake : s.takeWhile Char.isDigit = [] := by
    cases s with
    | nil => rfl
    | cons c s => rw [List.takeWhile_cons, hs c rfl]; rfl
  have hdrop : s.dropWhile Char.isDigit = s := by
    cases s with
    | nil => rfl
    | cons c s => rw [List.dropWhile_cons, hs c rfl]; rfl
  rw [number, List.takeWhile_append_of_pos hdigits, List.dropWhile_append_of_pos hdigits, htake, hdrop,
    List.append_nil, Nat.ofDigitChars_toDigits (by decide) (by decide)]

theorem shown_name (s : Scope) : ∀ c ∈ s.name.toList, (isShown c && c != ' ') = true :=
  List.all_eq_true.mp (by cases s <;> decide)

/-- No two scopes have the same name. -/
theorem name_injective : Function.Injective Scope.name := by
  intro s t h
  cases s <;> cases t <;> first | rfl | exact absurd h (by decide)

/-- The name of a scope has dots in it, but it ends at the first space. -/
theorem scope_append (s : Scope) (rest : List Char) :
    (s.name.toList ++ ' ' :: rest).takeWhile (· != ' ') = s.name.toList := by
  rw [List.takeWhile_append_of_pos fun c hc => (Bool.and_eq_true_iff.mp (shown_name s c hc)).2]
  simp

/-- A line is read as it was written. -/
theorem read?_chars (h : Highlight) : read? (chars h) = some (ofHighlight h) := by
  have hstart : number (chars h) = (h.start, _) := number_append h.start (by simp)
  have hdots : ∀ s, after? ['.', '.'] ('.' :: '.' :: s) = some s := after?_append ['.', '.']
  have hstop : ∀ s, number (Nat.toDigits 10 h.stop ++ ' ' :: s) = (h.stop, ' ' :: s) :=
    fun s => number_append h.stop (by simp)
  have hspace : ∀ s, after? [' '] (' ' :: s) = some s := after?_append [' ']
  have hopen : after? [' ', '"'] (' ' :: Quoted.quote h.text) =
      some (h.text.flatMap Quoted.escape ++ ['"']) := after?_append [' ', '"'] _
  have htext : Quoted.read? none (h.text.flatMap Quoted.escape ++ ['"']) = some (h.text, []) :=
    Quoted.read?_quote h.text []
  simp [read?, hstart, hdots, hstop, hspace, scope_append, hopen, htext, ofHighlight]

theorem chars_shown (h : Highlight) : ∀ c ∈ chars h, isShown c = true := by
  simp only [chars, List.forall_mem_append, List.forall_mem_cons]
  have hdigits : ∀ n, ∀ c ∈ Nat.toDigits 10 n, isShown c = true :=
    Quoted.isShown_toDigits (by decide) (by decide)
  have hname : ∀ c ∈ h.scope.name.toList, isShown c = true :=
    fun c hc => (Bool.and_eq_true_iff.mp (shown_name _ c hc)).1
  exact ⟨hdigits _, by decide, by decide, hdigits _, by decide, hname, by decide, Quoted.isShown_quote _⟩

theorem not_mem_chars (h : Highlight) : '\n' ∉ chars h :=
  fun hmem => absurd (chars_shown h _ hmem) (by decide)

theorem splitOn_lines {lines : List (List Char)} (h : ∀ line ∈ lines, '\n' ∉ line) :
    (lines.flatMap (· ++ ['\n'])).splitOn '\n' = lines ++ [[]] := by
  have hjoin : lines.flatMap (· ++ ['\n']) = ['\n'].intercalate (lines ++ [[]]) := by
    induction lines with
    | nil => rfl
    | cons line lines ih =>
      rw [List.flatMap_cons, ih fun l hl => h l (List.mem_cons_of_mem _ hl)]
      cases lines <;> simp [List.intercalate]
  rw [hjoin, List.splitOn_intercalate '\n' _ (by simp)]
  exact List.forall_mem_append.mpr ⟨h, by simp⟩

theorem toList_join_highlightLine (spans : List Highlight) :
    (String.join (spans.map highlightLine)).toList = (spans.map chars).flatMap (· ++ ['\n']) := by
  rw [String.toList_join, List.flatMap_map, List.flatMap_map]
  exact List.flatMap_congr fun h _ => toList_highlightLine h

theorem readAll?_join (spans : List Highlight) :
    readAll? (String.join (spans.map highlightLine)) = some (spans.map ofHighlight) := by
  have hlines : ∀ line ∈ spans.map chars, '\n' ∉ line := List.forall_mem_map.mpr fun h _ => not_mem_chars h
  rw [readAll?, toList_join_highlightLine, splitOn_lines hlines, List.dropLast_concat]
  induction spans with
  | nil => rfl
  | cons h spans ih =>
    rw [List.map_cons, List.mapM_cons, read?_chars, ih fun line hl => hlines line (List.mem_cons_of_mem _ hl)]
    rfl

theorem ofHighlight_injective : Function.Injective ofHighlight := by
  rintro ⟨start, stop, scope, text⟩ ⟨start', stop', scope', text'⟩ h
  simp only [ofHighlight, SpanLine.mk.injEq] at h
  obtain ⟨rfl, rfl, hscope, rfl⟩ := h
  rw [name_injective hscope]

end SpanLine

/-- The highlights of a text. -/
def spansOf (source : List Char) : List Highlight :=
  (Document.ofText? source).elim [] Document.highlights

/-- What is printed of some spans of a text can be read: there is a line for each of them, in which every
character shows, and it says where the span is, its scope and its bytes. -/
structure Legible (source : List Char) (spans : List Highlight) (output : String)
    (lines : List (List Char)) : Prop where
  output : output.toList = lines.flatMap (· ++ ['\n'])
  shown : ∀ line ∈ lines, '\n' ∉ line ∧ ∀ c ∈ line, isShown c = true
  read : lines.map SpanLine.read? =
    spans.map fun s => some ⟨s.start, s.stop, s.scope.name, s.text⟩
  /-- The bytes of the quoted text are those of the source from the start to the end. -/
  bytes : ∀ s ∈ spans, s.start < s.stop ∧ s.stop ≤ (utf8 source).length ∧
    utf8 s.text = ((utf8 source).drop s.start).take (s.stop - s.start)

theorem bytes_of_mem_spansOf {source : List Char} : ∀ s ∈ spansOf source,
    s.start < s.stop ∧ s.stop ≤ (utf8 source).length ∧
      utf8 s.text = ((utf8 source).drop s.start).take (s.stop - s.start) := by
  intro s hs
  rw [spansOf] at hs
  cases hd : Document.ofText? source with
  | none => simp [hd] at hs
  | some d =>
    rw [hd] at hs
    obtain ⟨hlt, hslice⟩ := Document.slice_of_highlight hd hs
    exact ⟨hlt, hslice.bytes⟩

variable {read : Reader} {args : List String} {file : String} {source : List Char}

/-- Whatever the text, its spans are printed. -/
theorem run_highlight (hargs : Task.ofArgs args = .ok (.highlight file)) (hread : read file = .ok source) :
    (run read args).output = String.join ((spansOf source).map highlightLine) := by
  obtain ⟨s, hready, hs⟩ := exists_ready
  -- an error as a whole has no tokens
  have hspans : spansOf source =
      ((Document.ofText? source).getD ⟨source, Runtime.errorRoot source⟩).highlights := by
    rw [spansOf]
    cases Document.ofText? source <;> rfl
  have hfile := parseFile_ok (h := ⟨read, .builtIn⟩) hs hread (Runtime.document?_builtIn source)
  rw [run, runOn, hargs, hspans]
  simp [Task.run, overFiles, hready, goThrough, hfile, highlightBlock, Except.map]

/-- Whatever the text, valid or broken, there is a line for each span of it, and nothing else; what a
token holds does not break its line, and the line is read in one way only, in which the quotation stands for
the bytes of the span. So the whole list is read in one way only: two texts for which the same is printed
have the same spans, with the same scopes and texts. -/
theorem highlight_lines (hargs : Task.ofArgs args = .ok (.highlight file))
    (hread : read file = .ok source) :
    (∃ lines, Legible source (spansOf source) (run read args).output lines) ∧
    SpanLine.readAll? (run read args).output =
      some ((spansOf source).map fun s => ⟨s.start, s.stop, s.scope.name, s.text⟩) ∧
    ∀ read' args' file' source', Task.ofArgs args' = .ok (.highlight file') → read' file' = .ok source' →
      (run read' args').output = (run read args).output → spansOf source' = spansOf source := by
  have houtput := run_highlight hargs hread
  have hall := SpanLine.readAll?_join (spansOf source)
  refine ⟨⟨(spansOf source).map SpanLine.chars, ?_⟩, houtput ▸ hall, ?_⟩
  · constructor
    · rw [houtput, SpanLine.toList_join_highlightLine]
    · exact List.forall_mem_map.mpr fun s _ => ⟨SpanLine.not_mem_chars s, SpanLine.chars_shown s⟩
    · rw [List.map_map]
      exact List.map_congr_left fun s _ => SpanLine.read?_chars s
    · exact bytes_of_mem_spansOf
  · intro read' args' file' source' hargs' hread' hsame
    have hall' := SpanLine.readAll?_join (spansOf source')
    rw [← run_highlight hargs' hread', hsame, houtput, hall] at hall'
    exact SpanLine.ofHighlight_injective.list_map (Option.some.inj hall').symm

/-- A comment over two lines, and a string with a bell and a quote in it, in a broken model. -/
def belledModel : Reader := fun _ => .ok "/* a\n*/ set 'I\x07\"'; )".toList

theorem highlight_lines_belled :
    SpanLine.readAll? (run belledModel ["highlight", "m.mod"]).output =
      some [⟨0, 7, "comment", "/* a\n*/".toList⟩, ⟨8, 11, "keyword", "set".toList⟩,
        ⟨12, 17, "string", "'I\x07\"'".toList⟩, ⟨17, 18, "punctuation.delimiter", ";".toList⟩,
        ⟨19, 20, "punctuation.bracket", ")".toList⟩] ∧
      ∃ lines, Legible "/* a\n*/ set 'I\x07\"'; )".toList (spansOf "/* a\n*/ set 'I\x07\"'; )".toList)
        (run belledModel ["highlight", "m.mod"]).output lines := by
  have hargs : Task.ofArgs ["highlight", "m.mod"] = .ok (.highlight "m.mod") := by decide +kernel
  have hread : belledModel "m.mod" = .ok "/* a\n*/ set 'I\x07\"'; )".toList := rfl
  obtain ⟨hlegible, hall, -⟩ := highlight_lines hargs hread
  refine ⟨hall.trans ?_, hlegible⟩
  decide +kernel

end Command

end MathProg
