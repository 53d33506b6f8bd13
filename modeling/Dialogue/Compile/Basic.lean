import Dialogue.Compile.Machine

/-!
# Compiling a script

A script is compiled line by line, and compiling never looks back: blank lines are
skipped, every other line goes through the line machine. Settings are read when they are
needed, so that an observer who changes them is heard; only the limits on what is kept
and the first tag are fixed at the start. Lines are texts: what would come of one that holds
half of a surrogate pair is left out.
-/

namespace Dialogue

open Script Text

namespace Run

variable {σ : Type} (observer : Observer σ)

/-- A compile before its first line, about which the observer has been told. -/
def start (config : Config) (state : σ) : Run σ :=
  tell observer ⟨.start config, config, state⟩ (.event (.started config))

/-- Read one raw line: its end is trimmed, a blank line only counts. -/
def readLine (run : Run σ) (raw : String) : Run σ × Option Fault :=
  let run := { run with session := { run.session with line := run.session.line + 1 } }
  let line := trimLineEnd raw.toList
  if isBlankLine line then (run, none)
  else
    feed observer run (String.ofList (dedent line))
      (lineKind run.config.indentThreshold line)

/-- Read lines in order, up to the first that fails. -/
def readAll (run : Run σ) : List String → Run σ × Option Fault
  | [] => (run, none)
  | raw :: rest =>
    match readLine observer run raw with
    | (run, some fault) => (run, some fault)
    | (run, none) => readAll run rest

@[simp] theorem readAll_nil (run : Run σ) : readAll observer run [] = (run, none) := rfl

/-- Reading goes on behind a line that was read without a fault. -/
theorem readAll_cons {run next : Run σ} {raw : String} (rest : List String)
    (read : readLine observer run raw = (next, none)) :
    readAll observer run (raw :: rest) = readAll observer next rest := by
  simp [readAll, read]

/-- Lines are read one part after the other. -/
theorem readAll_append {run next : Run σ} {lines : List String} (rest : List String)
    (read : readAll observer run lines = (next, none)) :
    readAll observer run (lines ++ rest) = readAll observer next rest := by
  induction lines generalizing run with
  | nil =>
    simp only [readAll_nil, Prod.mk.injEq, and_true] at read
    rw [read, List.nil_append]
  | cons raw lines ih =>
    simp only [readAll, List.cons_append] at read ⊢
    split at read
    · simp at read
    · exact ih read

/-- The end of a script: close what is open, or say that it is left out. -/
def close (run : Run σ) : Run σ × Option Fault :=
  if run.config.flushAtEnd then settle observer run
  else if run.session.phase = .idle then (run, none)
  else (tell observer run (.discarded run.session.phase), none)

/-- The graph compiled so far, and the run after the observer was told that it is the
result. -/
def result (run : Run σ) : Run σ × Graph :=
  let graph := run.session.assembly.graph
  (tell observer run (.event (.finished graph run.session.dropped)), graph)

/-- Compile lines under the eyes of an observer. -/
def compile (config : Config) (state : σ) (lines : List String) :
    Run σ × Except Fault Graph :=
  match readAll observer (start observer config state) lines with
  | (run, some fault) => (run, .error fault)
  | (run, none) =>
    match close observer run with
    | (run, some fault) => (run, .error fault)
    | (run, none) =>
      let (run, graph) := result observer run
      (run, .ok graph)

end Run

/-- The lines of a script. -/
def scriptLines (script : String) : List String :=
  (splitLines script.toList).map String.ofList

/-- Compile lines, with nobody watching. -/
def compileLines (config : Config) (lines : List String) : Except Fault Graph :=
  (Run.compile .silent config () lines).2

/-- Compile a script, with nobody watching. -/
def compile (config : Config) (script : String) : Except Fault Graph :=
  compileLines config (scriptLines script)

end Dialogue
