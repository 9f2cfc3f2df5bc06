import MathProg.Command.Run
import MathProg.Proofs.Session
import Mathlib.Data.List.Forall2

/-!
# Lists of files

A task prints for each file a block of its own, in the order of the files, up to the first one that
cannot be read. The block is made of the file's name and text. One parser reads all files, and what it has
read before leaves no trace.
-/

namespace MathProg.Command

/-- What is printed of a list of files. -/
inductive Listing where
  | sexp
  | json
  | check

namespace Listing

def task (files : List String) : Listing → Task
  | sexp => .parse files .sexp
  | json => .parse files .json
  | check => .check files

/-- What is printed of a document. -/
def documentBlock (several : Bool) : Listing → String → Document → String
  | sexp => sexpBlock several
  | json => jsonBlock
  | check => checkBlock

/-- What is printed of a text. -/
def block (rt : Runtime) (several : Bool) (l : Listing) (file : String) (text : List Char) : String :=
  (rt.document? text).elim "" (l.documentBlock several file)

/-- Whether a document lets the program end well. -/
def isGood : Listing → Document → Bool
  | sexp | json => fun _ => true
  | check => (·.errors.isEmpty)

theorem run_task (l : Listing) (h : Host) (files : List String) :
    (l.task files).run h = overFiles h (l.documentBlock (files.length > 1)) l.isGood files := by
  cases l <;> rfl

end Listing

/-- The files can be read, and have these texts. -/
def Readable (read : Reader) : List String → List (List Char) → Prop :=
  List.Forall₂ fun file text => read file = .ok text

variable {h : Host} {s s' : Session} {files before after : List String} {texts : List (List Char)}
  {file : String} {block : String → Document → String} {isGood : Document → Bool}

theorem parseFile_ok {text : List Char} {d : Document} (hs : s.language.isSome = true)
    (hfile : h.files file = .ok text) (hd : h.runtime.document? text = some d) :
    parseFile h s file = ({ s with last := some d }, .ok d) := by
  rw [parseFile, hfile]
  simp only [Session.read_eq, if_pos hs, hd]
  rfl

theorem parseFile_unreadable {e : ReadError} (hfile : h.files file = .error e) :
    parseFile h s file = (s, .error (.unreadable file e)) := by
  rw [parseFile, hfile]

/-- Two parsers with a grammar do the same with a file, whatever they have read before. -/
theorem parseFile_congr (hs : s.language.isSome = true) (hs' : s'.language.isSome = true) :
    (parseFile h s file).2 = (parseFile h s' file).2 ∧
      (parseFile h s file).1.language = s.language := by
  rw [parseFile, parseFile]
  cases h.files file with
  | error e => exact ⟨rfl, rfl⟩
  | ok text =>
    simp only [Session.read_eq, if_pos hs, if_pos hs']
    cases h.runtime.document? text with
    | none => exact ⟨rfl, rfl⟩
    | some d => exact ⟨rfl, rfl⟩

/-- What a parser has read before a list of files does not matter for it. -/
theorem goThrough_congr (hs : s.language.isSome = true) (hs' : s'.language.isSome = true) :
    goThrough h block isGood s files = goThrough h block isGood s' files := by
  induction files generalizing s s' with
  | nil => rfl
  | cons file files ih =>
    obtain ⟨hsame, hkeeps⟩ := @parseFile_congr h s s' file hs hs'
    obtain ⟨-, hkeeps'⟩ := @parseFile_congr h s' s file hs' hs
    rw [goThrough, goThrough]
    generalize parseFile h s file = x at hsame hkeeps ⊢
    generalize parseFile h s' file = y at hsame hkeeps' ⊢
    obtain ⟨t, d⟩ := x
    obtain ⟨t', d'⟩ := y
    obtain rfl : d = d' := hsame
    cases d with
    | error e => rfl
    | ok d =>
      have hrest := ih (show t.language.isSome = true by rw [hkeeps, hs])
        (show t'.language.isSome = true by rw [hkeeps', hs'])
      simp only [hrest]

/-- Files that can be read are dealt with one after the other, and then the rest is. -/
theorem goThrough_append (hrt : h.runtime.NeverFails) (hs : s.language.isSome = true)
    (hread : Readable h.files before texts) (rest : List String) :
    goThrough h block isGood s (before ++ rest) =
      ⟨String.join (List.zipWith (fun file text => (h.runtime.document? text).elim "" (block file))
          before texts) ++ (goThrough h block isGood s rest).printed,
        (goThrough h block isGood s rest).result.map
          (texts.all (fun text => (h.runtime.document? text).all isGood) && ·)⟩ := by
  induction hread generalizing s with
  | nil =>
    cases hrest : goThrough h block isGood s rest with
    | mk printed result => cases result <;> simp [hrest, String.join, Except.map]
  | cons hfile _ ih =>
    obtain ⟨d, hd⟩ := hrt.exists_document _
    rw [List.cons_append, goThrough, parseFile_ok hs hfile hd]
    have hnext : ({ s with last := some d } : Session).language.isSome = true := hs
    simp only [ih hnext, goThrough_congr hnext hs]
    cases hrest : goThrough h block isGood s rest with
    | mk printed result =>
      cases result <;> simp [hd, String.append_assoc, Except.map, Bool.and_assoc]

theorem exists_ready : ∃ s : Session, Session.ready = .ok s ∧ s.language.isSome = true :=
  ⟨⟨some Language.mathprog, none⟩, rfl, rfl⟩

/-- All files are read: each has its block. -/
theorem runOn_readable (l : Listing) {args : List String}
    (hargs : Task.ofArgs args = .ok (l.task files)) (hrt : h.runtime.NeverFails)
    (hread : Readable h.files files texts) :
    runOn h args = ⟨if texts.all fun text => (h.runtime.document? text).all l.isGood then 0 else 1,
      String.join (List.zipWith (l.block h.runtime (files.length > 1)) files texts), none⟩ := by
  obtain ⟨s, hready, hs⟩ := exists_ready
  have hall : goThrough h (l.documentBlock (files.length > 1)) l.isGood s (files ++ []) = _ :=
    goThrough_append hrt hs hread []
  rw [List.append_nil] at hall
  rw [runOn, hargs]
  simp only [l.run_task, overFiles, hready, hall, goThrough, Except.map, Bool.and_true,
    String.append_empty]
  rfl

/-- A file cannot be read: those before it have their blocks, and it is named. -/
theorem runOn_unreadable (l : Listing) {args : List String} {e : ReadError}
    (hargs : Task.ofArgs args = .ok (l.task (before ++ file :: after))) (hrt : h.runtime.NeverFails)
    (hread : Readable h.files before texts) (hfile : h.files file = .error e) :
    runOn h args =
      ⟨1, String.join
          (List.zipWith (l.block h.runtime ((before ++ file :: after).length > 1)) before texts),
        some ("Error: failed to read " ++ file ++ "\n\nCaused by:\n    " ++ e.message)⟩ := by
  obtain ⟨s, hready, hs⟩ := exists_ready
  have hstop : goThrough h (l.documentBlock ((before ++ file :: after).length > 1)) l.isGood s
      (file :: after) = ⟨"", .error (.unreadable file e)⟩ := by
    rw [goThrough, parseFile_unreadable hfile]
  rw [runOn, hargs]
  simp only [l.run_task, overFiles, hready, goThrough_append hrt hs hread, hstop, String.append_empty]
  rfl

/-- A list of files is printed block by block up to the first file that cannot be read. That file is
named and makes the exit code 1, whatever was found before; nothing is printed of it or of the files
behind it. A block is made of the name and the text of its file, and for the nested lists of whether
there are several files. What the parser has read before a list of files does not matter for it. -/
theorem files_apart (l : Listing) {h : Host} (hrt : h.runtime.NeverFails) :
    (∀ args files texts, Task.ofArgs args = .ok (l.task files) → Readable h.files files texts →
      (runOn h args).output =
          String.join (List.zipWith (l.block h.runtime (files.length > 1)) files texts) ∧
        (runOn h args).message = none) ∧
    (∀ args before file after texts e,
      Task.ofArgs args = .ok (l.task (before ++ file :: after)) → Readable h.files before texts →
      h.files file = .error e →
      (runOn h args).output = String.join
          (List.zipWith (l.block h.runtime ((before ++ file :: after).length > 1)) before texts) ∧
        (runOn h args).message =
          some ("Error: failed to read " ++ file ++ "\n\nCaused by:\n    " ++ e.message) ∧
        (runOn h args).code = 1) ∧
    (l = .sexp ∨ l.block h.runtime true = l.block h.runtime false) ∧
    ∀ (several : Bool) (files : List String) (s s' : Session), s.language.isSome = true →
      s'.language.isSome = true →
      goThrough h (l.documentBlock several) l.isGood s files =
        goThrough h (l.documentBlock several) l.isGood s' files := by
  refine ⟨?_, ?_, ?_, ?_⟩
  · intro args files texts hargs hread
    rw [runOn_readable l hargs hrt hread]
    exact ⟨rfl, rfl⟩
  · intro args before file after texts e hargs hread hfile
    rw [runOn_unreadable l hargs hrt hread hfile]
    exact ⟨rfl, rfl, rfl⟩
  · cases l
    · exact Or.inl rfl
    · exact Or.inr rfl
    · exact Or.inr rfl
  · intro several files s s' hs hs'
    exact goThrough_congr hs hs'

/-- A folder with one broken model. -/
def brokenModel : Host where
  files := fun file => if file = "a.mod" then .ok "set".toList else .error .missing
  runtime := .builtIn

/-- What was found in the first file does not change that the second one is missing. -/
theorem files_apart_missing :
    (runOn brokenModel ["check", "a.mod", "b.mod"]).message = some
        "Error: failed to read b.mod\n\nCaused by:\n    No such file or directory (os error 2)" ∧
      (runOn brokenModel ["check", "a.mod", "b.mod"]).code = 1 := by
  have hargs : Task.ofArgs ["check", "a.mod", "b.mod"] =
      .ok (Listing.check.task (["a.mod"] ++ "b.mod" :: [])) := by decide +kernel
  have hread : Readable brokenModel.files ["a.mod"] ["set".toList] := .cons rfl .nil
  have hmissing : brokenModel.files "b.mod" = .error .missing := by decide +kernel
  obtain ⟨-, hstop, -⟩ := files_apart .check (h := brokenModel) Runtime.neverFails_builtIn
  obtain ⟨-, hmessage, hcode⟩ := hstop _ ["a.mod"] "b.mod" [] _ _ hargs hread hmissing
  exact ⟨hmessage, hcode⟩

end MathProg.Command
