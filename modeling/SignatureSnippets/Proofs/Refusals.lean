import SignatureSnippets.Proofs.ErrorLines
import SignatureSnippets.Proofs.Policies

/-!
# Structure errors on the command line

A structure error that stops a command (`Task.raised?`) ought to be shown behind the word
`Error:`, and the command ought to end with code one. Two of the three commands that can
be stopped do so. A batch does not look out for the error: under the strict policy the
first malformed signature of its file ends the program at once, with nothing shown but
what was logged until then.

The program looks at the settings before the command if it is not verbose and after it
otherwise. Where the settings hold, the two ways differ only in what is logged, which
`rawReport_of_task?` says once; after that only the command itself is looked at.
-/

namespace SignatureSnippets

/-! ## What stops a computation -/

/-- The structure error that stops a computation, if one does. -/
def Logged.error? {α : Type} (x : Logged α) : Option StructureError :=
  match x.result with
  | .ok _ => none
  | .error error => some error

theorem Logged.error?_eq_some_iff {α : Type} {x : Logged α} {error : StructureError} :
    x.error? = some error ↔ x.result = .error error := by
  rw [error?]
  cases x.result <;> simp

theorem Signature.notices_readType_of_error {signature : String} {error : StructureError}
    (h : (Signature.readType signature).result = .error error) :
    (Signature.readType signature).notices = [] := by
  rw [readType] at h ⊢
  cases hparse : parse signature with
  | error e => rfl
  | ok s =>
      rw [hparse] at h
      cases h

namespace Expander

variable {e : Expander} {error : StructureError}

/-- A strict expander that stops at a signature logs nothing of it. -/
theorem notices_expand_of_error {signature name : String}
    (h : (e.expand signature name).result = .error error) :
    (e.expand signature name).notices = [] := by
  have hstop := e.result_expand (name, signature)
  rw [h, eq_comm, Logged.unlessStopped_eq_error_iff, stop?_eq_some_iff] at hstop
  obtain ⟨hstrict, hparse⟩ := hstop
  rw [expand, hparse]
  dsimp only
  rw [if_pos hstrict]

theorem strict_of_expandAll {items : List (String × String)}
    (h : (e.expandAll items).result = .error error) : e.strict = true := by
  rw [result_expandAll, Logged.unlessStopped_eq_error_iff] at h
  obtain ⟨item, _, hitem⟩ := List.exists_of_findSome?_eq_some h
  exact (stop?_eq_some_iff.mp hitem).1

theorem under_strict (h : e.strict = true) : e.under true = e := by
  rw [under, ← h]

end Expander

namespace Command

/-! ## Commands that come to run -/

/-- A command that comes to run: its settings hold. -/
structure Task where
  verbose : Bool
  settings : Settings
  command : Command
  deriving DecidableEq, Repr

/-- The command that a command line brings to run, if it does. -/
def task? (s : Surroundings) (args : List String) : Option Task := do
  let (verbose, kind, rest) ← line? args
  let settings ← s.settings.toOption
  let command ← ofArguments? kind s.files rest
  return { verbose, settings, command }

namespace Task

/-- What the command knows. -/
def context (t : Task) (terminalWidth : Nat) : Context where
  verbose := t.verbose
  level := if t.verbose then .debug else t.settings.logLevel
  settings := .ok t.settings
  terminalWidth := terminalWidth

/-- The structure error that stops the service while the command runs, if one does. -/
def raised? (t : Task) : Option StructureError :=
  match t.command with
  | .expand signature name style _ =>
    ((Expander.ofSettings t.settings style).expand signature name).error?
  | .parse signature _ => (Signature.readType signature).error?
  | .batch file style _ =>
    match Completions.ofBytes file with
    | .ok items => ((Expander.ofSettings t.settings style).expandAll items).error?
    | .error _ => none
  | .batchNowhere => none
  | .serve .. => none

/-- Whether the command expands the completions of a file. -/
def isBatch (t : Task) : Bool :=
  match t.command with
  | .batch .. => true
  | _ => false

end Task

theorem rawReport_of_task? {s : Surroundings} {args : List String} {t : Task}
    (h : task? s args = some t) :
    rawReport s args = run (t.context s.terminalWidth) s.hasServer t.command := by
  rw [task?] at h
  cases hline : line? args with
  | none => simp [hline] at h
  | some line =>
      obtain ⟨verbose, kind, rest⟩ := line
      cases hsettings : s.settings with
      | error fault => simp [hline, hsettings, Except.toOption] at h
      | ok settings =>
          cases hcommand : ofArguments? kind s.files rest with
          | none => simp [hline, hsettings, hcommand, Except.toOption] at h
          | some command =>
              simp only [hline, hsettings, hcommand, Except.toOption, Option.bind_eq_bind,
                Option.bind_some, Option.pure_def, Option.some.injEq] at h
              subst h
              rw [rawReport, hline]
              cases verbose <;> simp only [hsettings, hcommand] <;> rfl

theorem report_eq_rawReport {s : Surroundings} {args : List String}
    (h : (rawReport s args).output = "") : report s args = rawReport s args := by
  rw [report, h]
  cases hraw : rawReport s args
  rw [hraw] at h
  cases h
  rfl

/-! ## What is shown -/

/-- What a command leads to that shows a structure error and ends with code one. -/
def shown (terminalWidth : Nat) (verbose : Bool) (error : StructureError) : Report :=
  { ending := .exit 1
    remarks := Context.errorLine terminalWidth error.message ++
      if verbose then "\n--- Traceback (verbose mode) ---" else "" }

theorem shown_front {terminalWidth : Nat} (h : "Error: ".length ≤ terminalWidth)
    (verbose : Bool) (error : StructureError) :
    "Error: ".toList <+: (shown terminalWidth verbose error).remarks.toList := by
  rw [shown, String.toList_append]
  exact (Context.errorLine_front h error.message).trans (List.prefix_append _ _)

theorem refused_nil (c : Context) (error : StructureError) :
    refused c error [] = shown c.terminalWidth c.verbose error := by
  have hlog : c.log [] = "" := rfl
  rw [refused, hlog, String.empty_append]
  rfl

namespace Task

variable {t : Task} {error : StructureError}

theorem run_of_raised (h : t.raised? = some error) (hbatch : t.isBatch = false)
    (terminalWidth : Nat) (hasServer : Bool) :
    run (t.context terminalWidth) hasServer t.command
      = shown terminalWidth t.verbose error := by
  obtain ⟨verbose, settings, command⟩ := t
  rw [raised?] at h
  cases command with
  | expand signature name style json =>
      rw [Logged.error?_eq_some_iff] at h
      change runExpand _ settings signature name style json = _
      rw [runExpand, h]
      dsimp only
      rw [Expander.notices_expand_of_error h]
      exact refused_nil _ error
  | parse signature json =>
      rw [Logged.error?_eq_some_iff] at h
      change runParse _ signature json = _
      rw [runParse, h]
      dsimp only
      rw [Signature.notices_readType_of_error h]
      exact refused_nil _ error
  | batch file style json => cases hbatch
  | batchNowhere => cases h
  | serve host port reload => cases h

theorem run_batch_of_raised (h : t.raised? = some error) (hbatch : t.isBatch = true)
    (terminalWidth : Nat) (hasServer : Bool) :
    t.settings.strict = true ∧ ∃ notices, Notice.warnings notices = []
      ∧ run (t.context terminalWidth) hasServer t.command
          = aborted (.malformed error) ((t.context terminalWidth).log notices) := by
  obtain ⟨verbose, settings, command⟩ := t
  rw [raised?] at h
  cases command with
  | batch file style json =>
      dsimp only at h
      cases hfile : Completions.ofBytes file with
      | error fault => simp [hfile] at h
      | ok items =>
          rw [hfile, Logged.error?_eq_some_iff] at h
          have hstrict := Expander.strict_of_expandAll h
          refine ⟨hstrict, ((Expander.ofSettings settings style).expandAll items).notices, ?_, ?_⟩
          · have hsilent := Expander.notices_expandAll_strict
              (Expander.ofSettings settings style) items
            rwa [Expander.under_strict hstrict] at hsilent
          · change run _ hasServer (.batch file style json) = _
            rw [run, hfile]
            change runCompletions _ settings items style json = _
            rw [runCompletions, h]
  | expand signature name style json => cases hbatch
  | parse signature json => cases hbatch
  | batchNowhere => cases hbatch
  | serve host port reload => cases hbatch

end Task

/-- Every command but a batch shows the structure error that stops it and ends with code
one. The line begins with `Error:`, unless the terminal has no room for the word. A batch is
ended by the error, and shows none. -/
theorem report_of_raised {s : Surroundings} {args : List String} {t : Task}
    {error : StructureError} (ht : task? s args = some t) (h : t.raised? = some error) :
    (t.isBatch = false → report s args = shown s.terminalWidth t.verbose error
      ∧ ("Error: ".length ≤ s.terminalWidth →
        "Error: ".toList <+: (report s args).remarks.toList)) ∧
    (t.isBatch = true → t.settings.strict = true ∧
      ∃ notices, Notice.warnings notices = [] ∧ report s args
        = aborted (.malformed error) ((t.context s.terminalWidth).log notices)) := by
  have hraw := rawReport_of_task? ht
  refine ⟨fun hbatch => ?_, fun hbatch => ?_⟩
  · rw [Task.run_of_raised h hbatch] at hraw
    rw [report_eq_rawReport (by rw [hraw]; rfl), hraw]
    exact ⟨rfl, fun hwidth => shown_front hwidth t.verbose error⟩
  · obtain ⟨hstrict, notices, hsilent, hrun⟩ :=
      Task.run_batch_of_raised h hbatch s.terminalWidth s.hasServer
    rw [hrun] at hraw
    refine ⟨hstrict, notices, hsilent, ?_⟩
    rw [report_eq_rawReport (by rw [hraw]; rfl), hraw]

/-- A strict expansion of a malformed signature, as it is told of. -/
theorem report_expand_unbalanced :
    let s : Surroundings := { environment := [("TERNEXPAND_STRICT", "true")] }
    let r := report s ["expand", "fn(a)) x"]
    r = shown s.terminalWidth false (.unbalanced (.name "x") 4)
      ∧ "Error: ".toList <+: r.remarks.toList := by
  intro s r
  let t : Task := ⟨false, { strict := true }, .expand "fn(a)) x" "" none false⟩
  have ht : task? s ["expand", "fn(a)) x"] = some t := by decide +kernel
  have h : t.raised? = some (.unbalanced (.name "x") 4) := by decide +kernel
  obtain ⟨hshown, hfront⟩ := (report_of_raised ht h).1 rfl
  exact ⟨hshown, hfront (by decide)⟩

/-- The completions of a file: one, with a malformed signature. -/
def malformedFile : List UInt8 :=
  "[\x7b\"name\": \"f\", \"type\": \"fn(a)) x\"\x7d]".toUTF8.data.toList

/-- A batch does not tell of the structure error that stops it. -/
theorem not_report_batch_unbalanced :
    let s : Surroundings :=
      { environment := [("TERNEXPAND_STRICT", "true")], files := [("c.json", malformedFile)] }
    let t : Task := ⟨false, { strict := true }, .batch malformedFile none false⟩
    task? s ["batch", "c.json"] = some t ∧ t.raised? = some (.unbalanced (.name "x") 4)
      ∧ report s ["batch", "c.json"] ≠ shown s.terminalWidth false (.unbalanced (.name "x") 4)
      ∧ report s ["batch", "c.json"]
          = { ending := .abort (.malformed (.unbalanced (.name "x") 4)) } :=
  ⟨by decide +kernel, by decide +kernel, by decide +kernel, by decide +kernel⟩

end Command

end SignatureSnippets
