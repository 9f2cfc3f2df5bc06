import MathProg.Proofs.Command.Files
import MathProg.Proofs.Node.Printed

/-!
# Findings

The lines that are printed of the errors in some files are those that their printed JSON documents list:
one for each error, and none where the printed tree has neither errors nor supplied tokens.
-/

namespace MathProg

namespace Runtime

/-- The trees that a runtime makes are regular. -/
def MakesRegular (rt : Runtime) : Prop := ∀ source root, rt.root? source = some root → root.Regular

theorem regular_errorRoot (source : List Char) : (errorRoot source).Regular where
  named := show Symbol.isNamed Symbol.error = true by decide
  marked := ⟨rfl, Or.inl rfl⟩
  error := by
    intro n hn
    obtain rfl := List.mem_singleton.mp hn
    exact iff_of_true rfl rfl
  literal := by
    intro n hn hname
    obtain rfl := List.mem_singleton.mp hn
    rfl

theorem makesRegular_builtIn : builtIn.MakesRegular := by
  intro source root h
  obtain rfl := Option.some.inj h
  cases ht : parse source with
  | none => exact regular_errorRoot source
  | some t => exact Node.regular_of_whole (parse_whole ht)

end Runtime

namespace Command

variable {h : Host} {files : List String} {texts : List (List Char)} {file : String} {d : Document}

/-- The JSON document that is printed of a file. -/
def printedJson (file : String) (d : Document) : Json :=
  (Json.object [("file", .string file), ("root", d.root.toJson),
    ("errors", .array (d.errors.map SyntaxError.toJson))]).sorted

/-- The errors that a printed document lists. -/
def findings (j : Json) : List Json := (j.itemsAt? "errors").getD []

/-- The line for an error that is listed. Lines and columns are counted from one. -/
def findingLine? (file : String) (entry : Json) : Option String := do
  let start ← entry.member? "start"
  let row ← start.numberAt? "row"
  let column ← start.numberAt? "column"
  let message ← entry.stringAt? "message"
  some (file ++ ":" ++ toString (row + 1) ++ ":" ++ toString (column + 1) ++ ": " ++ message ++ "\n")

/-- Whether a printed node is an error, or a token that the text lacks. -/
def IsFault (v : Json) : Prop :=
  v.member? "kind" = some (.string "ERROR") ∨ v.member? "missing" = some (.bool true)

theorem member?_printedJson (file : String) (d : Document) (key : String) :
    (printedJson file d).member? key =
      ([("file", Json.string file), ("root", d.root.toJson),
        ("errors", .array (d.errors.map SyntaxError.toJson))].lookup key).map Json.sorted :=
  Json.member?_sorted (show ["file", "root", "errors"].Nodup by decide)

theorem file_printedJson (file : String) (d : Document) :
    (printedJson file d).stringAt? "file" = some file := by
  rw [Json.stringAt?, member?_printedJson]
  rfl

theorem root_printedJson (file : String) (d : Document) :
    (printedJson file d).member? "root" = some d.root.toJson.sorted := by
  rw [member?_printedJson]
  rfl

theorem findings_printedJson (file : String) (d : Document) :
    findings (printedJson file d) = d.errors.map fun e => e.toJson.sorted := by
  have herrors : (printedJson file d).member? "errors" =
      some (.array (Json.sortedItems (d.errors.map SyntaxError.toJson))) := by
    rw [member?_printedJson]
    rfl
  simp [findings, Json.itemsAt?, herrors, Json.sortedItems_eq]

theorem findingLine?_toJson (file : String) (e : SyntaxError) :
    findingLine? file e.toJson.sorted = some (errorLine file e) := by
  simp [findingLine?, e.start_toJson, e.message_toJson, e.point.row_toJson, e.point.column_toJson,
    errorLine, SyntaxError.location, String.append_assoc]

theorem count_lineFeed_toDigits (n : Nat) : (Nat.toDigits 10 n).count '\n' = 0 := by
  rw [List.count_eq_zero]
  intro h
  exact absurd (Nat.isDigit_of_mem_toDigits (by decide) (by decide) h) (by decide)

/-- Apart from the file's name, a line has one line feed. -/
theorem count_errorLine {e : SyntaxError} (he : '\n' ∉ e.message.toList) :
    (errorLine file e).toList.count '\n' = file.toList.count '\n' + 1 := by
  simp [errorLine, SyntaxError.location, count_lineFeed_toDigits, List.count_eq_zero.mpr he]

/-- The errors of a tree: their messages, and whether there are any. -/
theorem errors_of_regular (h : d.root.Regular) : (∀ e ∈ d.errors, '\n' ∉ e.message.toList) ∧
    (d.errors = [] ↔ ¬ ∃ v, Json.Below v d.root.toJson.sorted ∧ IsFault v) := by
  have hall : d.errors = SyntaxError.reportAll d.source d.root :=
    SyntaxError.ofRoot_eq_reportAll d.source h.marked
  constructor
  · intro e he
    rw [hall] at he
    exact SyntaxError.message_reportAll d.source _ e he
  · rw [hall, SyntaxError.reportAll_eq_nil]
    unfold IsFault
    rw [h.below_fault, Bool.not_eq_true]

/-- Files that can be read, with their documents. -/
theorem exists_documents (hrt : h.runtime.NeverFails) (hregular : h.runtime.MakesRegular)
    (hread : Readable h.files files texts) :
    ∃ ps : List (String × Document), files = ps.map Prod.fst ∧ (∀ p ∈ ps, p.2.root.Regular) ∧
      (∀ (l : Listing) (several : Bool), List.zipWith (l.block h.runtime several) files texts =
        ps.map fun p => l.documentBlock several p.1 p.2) ∧
      ∀ l : Listing, (texts.all fun text => (h.runtime.document? text).all l.isGood) =
        ps.all fun p => l.isGood p.2 := by
  induction hread with
  | nil => exact ⟨[], rfl, by simp, fun _ _ => rfl, fun _ => rfl⟩
  | @cons file text files texts _ _ ih =>
    obtain ⟨ps, rfl, hps, hblock, hgood⟩ := ih
    obtain ⟨d, hd⟩ := hrt.exists_document text
    refine ⟨(file, d) :: ps, rfl, ?_, ?_, ?_⟩
    · intro p hp
      rcases List.mem_cons.mp hp with rfl | hp
      · exact hregular text d.root (Runtime.document?_eq_some.mp hd).1
      · exact hps p hp
    · intro l several
      simp [Listing.block, hd, hblock]
    · intro l
      simp [hd, hgood]

section

variable (ps : List (String × Document))

theorem join_jsonBlock : ps.map (fun p => jsonBlock p.1 p.2) =
    (ps.map fun p => printedJson p.1 p.2).map fun j => j.pretty 0 ++ "\n" := by
  rw [List.map_map]
  rfl

theorem join_checkBlock : String.join (ps.map fun p => checkBlock p.1 p.2) =
    String.join (ps.flatMap fun p => p.2.errors.map (errorLine p.1)) := by
  induction ps with
  | nil => rfl
  | cons p ps ih =>
    rw [List.map_cons, String.join_cons, List.flatMap_cons, String.join_append, ih]
    rfl

theorem findingLine?_printedJson : (ps.flatMap fun p => p.2.errors.map (errorLine p.1)).map some =
    ((ps.map Prod.fst).zip (ps.map fun p => printedJson p.1 p.2)).flatMap
      fun p => (findings p.2).map (findingLine? p.1) := by
  induction ps with
  | nil => rfl
  | cons p ps ih =>
    have hfirst : (p.2.errors.map (errorLine p.1)).map some =
        (findings (printedJson p.1 p.2)).map (findingLine? p.1) := by
      simp [findings_printedJson, findingLine?_toJson]
    simp only [List.flatMap_cons, List.map_append, List.map_cons, List.zip_cons_cons, ih, hfirst]

/-- There are as many lines as errors, and a line ends with the only line feed that is not in its file's
name. -/
theorem count_lines (hps : ∀ p ∈ ps, p.2.root.Regular) :
    (String.join (ps.flatMap fun p => p.2.errors.map (errorLine p.1))).toList.count '\n' =
      (((ps.map Prod.fst).zip (ps.map fun p => printedJson p.1 p.2)).map fun p =>
        (findings p.2).length * (p.1.toList.count '\n' + 1)).sum := by
  induction ps with
  | nil => rfl
  | cons p ps ih =>
    obtain ⟨hp, hps⟩ := List.forall_mem_cons.mp hps
    have hline : ∀ line ∈ p.2.errors.map (errorLine p.1),
        (List.count '\n' ∘ String.toList) line = p.1.toList.count '\n' + 1 := by
      intro line hline
      obtain ⟨e, he, rfl⟩ := List.mem_map.mp hline
      exact count_errorLine ((errors_of_regular hp).1 e he)
    rw [String.toList_join, List.count_flatMap] at ih ⊢
    rw [List.flatMap_cons, List.map_append, List.sum_append, ih hps, List.map_congr_left hline,
      List.map_const', List.sum_replicate_nat, List.length_map]
    simp [findings_printedJson]

theorem length_lines : (ps.flatMap fun p => p.2.errors.map (errorLine p.1)).length =
    ((ps.map fun p => printedJson p.1 p.2).map fun j => (findings j).length).sum := by
  simp [List.length_flatMap, findings_printedJson, Function.comp_def]

end

/-- What `check` prints and how it ends agrees with the documents that `parse` prints. -/
structure Agree (files : List String) (parsed checked : Exit) (docs : List Json)
    (lines : List String) : Prop where
  named : List.Forall₂ (fun file j => j.stringAt? "file" = some file) files docs
  /-- The documents are what `parse` prints. -/
  printed : parsed = ⟨0, String.join (docs.map fun j => j.pretty 0 ++ "\n"), none⟩
  output : checked.output = String.join lines
  message : checked.message = none
  /-- There is a line for each error that a document lists, file by file in their order. -/
  listed : lines.map some =
    (files.zip docs).flatMap fun p => (findings p.2).map (findingLine? p.1)
  unbroken : ∀ j ∈ docs, ∀ e ∈ findings j,
    ∃ message, e.stringAt? "message" = some message ∧ '\n' ∉ message.toList
  counted : lines.length = (docs.map fun j => (findings j).length).sum
  /-- Apart from those in a file's name, there is one line feed in each line. -/
  broken : checked.output.toList.count '\n' =
    ((files.zip docs).map fun p => (findings p.2).length * (p.1.toList.count '\n' + 1)).sum
  code : checked.code = 0 ∨ checked.code = 1
  clean : checked.code = 0 ↔ ∀ j ∈ docs, findings j = []
  /-- The printed trees have neither errors nor supplied tokens in them. -/
  faultless : checked.code = 0 ↔ ∀ j ∈ docs, ∃ root, j.member? "root" = some root ∧
    ¬ ∃ v, Json.Below v root ∧ IsFault v

/-- The lines of `check` are the errors that are listed in the documents that `parse` prints as JSON, in
their order, and no message breaks its line. The exit code tells whether there are any, and so do the
printed trees. -/
theorem check_findings (hrt : h.runtime.NeverFails) (hregular : h.runtime.MakesRegular)
    {checkArgs parseArgs : List String} (hcheck : Task.ofArgs checkArgs = .ok (.check files))
    (hparse : Task.ofArgs parseArgs = .ok (.parse files .json)) (hread : Readable h.files files texts) :
    ∃ docs lines, Agree files (runOn h parseArgs) (runOn h checkArgs) docs lines := by
  obtain ⟨ps, rfl, hps, hblock, hgood⟩ := exists_documents hrt hregular hread
  have hparsed := runOn_readable .json hparse hrt hread
  have hchecked := runOn_readable .check hcheck hrt hread
  rw [hblock, hgood] at hparsed hchecked
  have hcode : (runOn h checkArgs).code = 0 ↔ ∀ p ∈ ps, p.2.errors = [] := by
    have hall : (ps.all fun p => Listing.check.isGood p.2) = true ↔ ∀ p ∈ ps, p.2.errors = [] := by
      simp only [List.all_eq_true, Listing.isGood, List.isEmpty_iff]
    rw [hchecked, ← hall]
    dsimp only
    split
    · rename_i hgood
      exact iff_of_true rfl hgood
    · rename_i hgood
      exact iff_of_false Nat.one_ne_zero hgood
  refine ⟨ps.map fun p => printedJson p.1 p.2, ps.flatMap fun p => p.2.errors.map (errorLine p.1), ?_⟩
  constructor
  · rw [List.forall₂_map_left_iff, List.forall₂_map_right_iff, List.forall₂_same]
    exact fun p _ => file_printedJson p.1 p.2
  · rw [hparsed, ← join_jsonBlock]
    simp [Listing.isGood, Listing.documentBlock]
  · rw [hchecked, ← join_checkBlock]
    rfl
  · rw [hchecked]
  · exact findingLine?_printedJson ps
  · intro j hj e he
    obtain ⟨p, hp, rfl⟩ := List.mem_map.mp hj
    rw [findings_printedJson] at he
    obtain ⟨e', he', rfl⟩ := List.mem_map.mp he
    exact ⟨e'.message, e'.message_toJson, (errors_of_regular (hps p hp)).1 e' he'⟩
  · exact length_lines ps
  · rw [← count_lines ps hps, ← join_checkBlock, hchecked]
    rfl
  · rw [hchecked]
    dsimp only
    split
    · exact Or.inl rfl
    · exact Or.inr rfl
  · rw [hcode, List.forall_mem_map]
    refine forall₂_congr fun p hp => ?_
    rw [findings_printedJson, List.map_eq_nil_iff]
  · rw [hcode, List.forall_mem_map]
    refine forall₂_congr fun p hp => ?_
    rw [(errors_of_regular (hps p hp)).2, root_printedJson]
    simp

/-- Two files, the first one with an error in it. -/
def twoModels : Host where
  files := fun file => .ok (if file = "a.mod" then "set I".toList else "solve;".toList)
  runtime := .builtIn

/-- The line for the error in the first file is listed for it. -/
theorem check_findings_twoModels : ∃ docs lines,
    Agree ["a.mod", "b.mod"] (runOn twoModels ["parse", "-f", "json", "a.mod", "b.mod"])
      (runOn twoModels ["check", "a.mod", "b.mod"]) docs lines := by
  have hcheck : Task.ofArgs ["check", "a.mod", "b.mod"] = .ok (.check ["a.mod", "b.mod"]) := by
    decide +kernel
  have hparse : Task.ofArgs ["parse", "-f", "json", "a.mod", "b.mod"] =
      .ok (.parse ["a.mod", "b.mod"] .json) := by
    decide +kernel
  have hread : Readable twoModels.files ["a.mod", "b.mod"] ["set I".toList, "solve;".toList] :=
    .cons rfl (.cons rfl .nil)
  exact check_findings Runtime.neverFails_builtIn Runtime.makesRegular_builtIn hcheck hparse hread

end Command

end MathProg
