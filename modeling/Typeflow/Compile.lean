import Typeflow.Config
import Typeflow.Document.Build
import Typeflow.Infer.Pass
import Typeflow.Narrow.Pass

set_option autoImplicit false

namespace Typeflow

inductive CompileError where
  | canceled
  | unknownPlugin (name : String)
  | inference (why : Infer.Failure)
  | warningsAsErrors (path : String) (count : Nat)

def CompileError.message : CompileError → String
  | .canceled => "context canceled"
  | .unknownPlugin name => Infer.unknownPluginMessage name
  | .inference why => why.message
  | .warningsAsErrors path count =>
    path ++ ": " ++ toString count ++ " warning(s): warnings treated as errors"

structure Stage where
  file : SourceFile
  parents : Parents
  notes : Annotations
  fresh : NodeId
  bag : Bag
  trace : Trace
  facts : Option (List Narrow.Fact)
  fault : Option Narrow.Fault

structure Result where
  file : SourceFile
  -- A unit that was never looked at has no parent table.
  parents : Option Parents
  notes : Annotations
  bag : Bag
  facts : Option (List Narrow.Fact)
  trace : Trace
  failure : Option CompileError
  fault : Option Narrow.Fault

namespace Stage

def start (u : Document.Built) : Stage :=
  let parents := Parents.link (.file u.file)
  ⟨u.file, parents, u.annotations, u.fresh, [], [.linked parents.size], none, none⟩

def record (st : Stage) (e : Event) : Stage := { st with trace := st.trace ++ [e] }

def infer (chain : Infer.Chain) (st : Stage) : Option Infer.Failure × Stage :=
  let ctx := Infer.Context.ofFile st.file st.parents
  let (outcome, p) := (Infer.inferFile ctx chain).run.run ⟨st.notes, st.bag, st.trace⟩
  let st := { st with notes := p.notes, bag := p.bag, trace := p.trace }
  match outcome with
  | .ok () => (none, st)
  | .error why => (some why, st)

def narrowed (st : Stage) (file : SourceFile) (p : Narrow.Progress) : Stage :=
  let facts := p.findings
  let st := { st with
    file := file
    parents := p.parents
    notes := p.notes
    fresh := p.fresh
    trace := st.trace ++ p.trace }
  match p.outcome with
  | some why => { st with fault := some why }
  | none =>
    { st with
      trace := st.trace ++ [.narrowed facts.length (Narrow.castCount facts)]
      facts := some facts }

def narrow (st : Stage) : Stage :=
  let nodes := st.file.nodes
  let pass := Narrow.narrowFile (fun id => nodes.find? (·.id == id)) st.file
  let (file, p) := pass.run (Narrow.start st.fresh st.parents st.notes)
  st.narrowed file p

def prepared (config : Config) (st : Stage) : Stage :=
  if config.narrowing && config.beforeInference then st.narrow else st

def concluded (config : Config) (st : Stage) : Stage :=
  if config.narrowing && !config.beforeInference then st.narrow else st

def result (st : Stage) (failure : Option CompileError) : Result :=
  ⟨st.file, some st.parents, st.notes, st.bag, st.facts, st.trace, failure, st.fault⟩

end Stage

def Stage.finish (config : Config) (st : Stage) : Result :=
  let st := st.record .diagnostics
  let warnings := st.bag.warnings.length
  if config.warningsAsErrors && 0 < warnings then
    st.result (some (.warningsAsErrors st.file.path warnings))
  else st.result none

-- The outcome of the passes that are switched on. What narrowing found is dropped when
-- inference fails.
def runPasses (config : Config) (chain : Infer.Chain) (u : Document.Built) : Result :=
  let st := (Stage.start u).prepared config
  if st.fault.isSome then st.result none
  else
    match st.infer chain with
    | (some why, st) => { st with facts := none }.result (some (.inference why))
    | (none, st) =>
      let st := st.concluded config
      if st.fault.isSome then st.result none else st.finish config

def Result.untouched (u : Document.Built) (why : CompileError) : Result :=
  ⟨u.file, none, u.annotations, [], none, [], some why, none⟩

def compile (config : Config) (canceled : Bool) (u : Document.Built) : Result :=
  if canceled then .untouched u .canceled
  else
    match config.chain with
    | .error name => .untouched u (.unknownPlugin name)
    | .ok chain => runPasses config chain u

namespace Result

def failed (r : Result) : Bool := r.failure.isSome || r.fault.isSome

def casts (r : Result) : Nat := (r.facts.map Narrow.castCount).getD 0

def summary (r : Result) : String :=
  r.file.path ++ ": " ++ (if r.failed then "failed" else "ok") ++ ", " ++ r.bag.summary ++ ", " ++
    toString r.casts ++ " cast(s)"

def program (r : Result) : String := r.file.text r.notes.ofLocal

def diagnostics (r : Result) : String := Diagnostic.render false r.bag

def traceText (r : Result) : List String := r.trace.map (Event.text r.file.path)

end Result

-- Every unit gets a result; the failure of the whole is that of the first unit that failed.
def compileAll (config : Config) (units : List Document.Built) : List Result :=
  units.map (compile config false)

def firstFailure? (results : List Result) : Option CompileError :=
  results.findSome? Result.failure

end Typeflow
