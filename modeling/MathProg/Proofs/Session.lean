import MathProg.Session
import Mathlib.Data.List.Induction

/-!
# Sessions

What a session answers is determined by the requests and the answers before: the parser has a grammar if
it was given one since it was made, and the last document is the one of the latest text that was read.

The parser reads with a runtime of which only this is used, where a theorem says so: it makes a tree of
every text. The runtime of this library does.
-/

namespace MathProg

namespace Runtime

variable {rt : Runtime} {source : List Char} {d : Document}

/-- The runtime makes a tree of every text. It has no time limit and nobody cancels it, and errors in a
text do not make it fail. -/
def NeverFails (rt : Runtime) : Prop := ∀ source, (rt.root? source).isSome = true

theorem NeverFails.exists_document (h : rt.NeverFails) (source : List Char) :
    ∃ d, rt.document? source = some d := by
  obtain ⟨n, hn⟩ := Option.isSome_iff_exists.mp (h source)
  exact ⟨⟨source, n⟩, by rw [document?, hn, Option.map_some]⟩

theorem document?_eq_some : rt.document? source = some d ↔
    rt.root? source = some d.root ∧ d.source = source := by
  rw [document?, Option.map_eq_some_iff]
  constructor
  · rintro ⟨n, hn, rfl⟩
    exact ⟨hn, rfl⟩
  · rintro ⟨hn, rfl⟩
    exact ⟨d.root, hn, rfl⟩

theorem neverFails_builtIn : builtIn.NeverFails := fun _ => rfl

theorem document?_builtIn (source : List Char) : builtIn.document? source =
    some ((Document.ofText? source).getD ⟨source, errorRoot source⟩) := by
  rw [document?, builtIn, Document.ofText?, Option.map_some]
  cases parse source <;> rfl

end Runtime

namespace Language

end Language

/-- A request and its answer. -/
abbrev Exchange := Request × Answer

namespace Exchange

/-- A text was read. -/
def Reads (source : List Char) (d : Document) (e : Exchange) : Prop := e = (.parse source, .document d)

variable {p q : Exchange → Prop} {h : List Exchange} {e : Exchange}

end Exchange

namespace Session

open Exchange

variable {rt : Runtime} {s : Session} {r : Request} {rs : List Request} {d : Document}

/-- The session after a sequence of requests. -/
def after (rt : Runtime) (s : Session) (rs : List Request) : Session :=
  rs.foldl (fun s r => (s.step rt r).1) s

/-- What a new session answers to a request after a sequence of others. -/
def answer (rt : Runtime) (rs : List Request) (r : Request) : Answer :=
  ((initial.after rt rs).step rt r).2

/-- A text is read exactly if the parser has a grammar and the runtime makes a tree. -/
theorem read_eq (rt : Runtime) (s : Session) (source : List Char) : s.read rt source =
    if s.language.isSome then
      match rt.document? source with
      | some d => ({ s with last := some d }, .ok d)
      | none => (s, .error .cancelled)
    else (s, .error .noLanguage) := by
  rw [read]
  cases s.language <;> rfl

end Session

end MathProg
