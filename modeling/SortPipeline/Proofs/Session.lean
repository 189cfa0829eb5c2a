import Mathlib.Data.List.Induction
import SortPipeline.Compiler

namespace SortPipeline

namespace Call

def applied? : Call → Option Registry
  | .apply registry => some registry
  | .compile .. | .compileValue .. | .run .. => none

def lastApplied? (calls : List Call) : Option Registry := calls.reverse.findSome? applied?

@[simp] theorem lastApplied?_concat (calls : List Call) (call : Call) :
    lastApplied? (calls ++ [call]) = call.applied?.or (lastApplied? calls) := by
  simp only [lastApplied?, List.reverse_append, List.reverse_singleton, List.singleton_append,
    List.findSome?_cons]
  cases call.applied? <;> rfl

theorem lastApplied?_eq_none_iff {calls : List Call} :
    lastApplied? calls = none ↔ ∀ call ∈ calls, call.applied? = none := by
  simp [lastApplied?]

def history (calls : List Call) : List (List Call × Call) := go [] calls
where
  go (before : List Call) : List Call → List (List Call × Call)
    | [] => []
    | call :: rest => (before, call) :: go (before ++ [call]) rest

@[simp] theorem history_concat (calls : List Call) (call : Call) :
    history (calls ++ [call]) = history calls ++ [(calls, call)] := by
  have hgo : ∀ before, history.go before (calls ++ [call]) =
      history.go before calls ++ [(before ++ calls, call)] := by
    induction calls with
    | nil => simp [history.go]
    | cons c rest ih => simp [history.go, ih]
  exact hgo []

end Call

namespace Compiler

def fresh (registry : Option Registry) : Compiler := { registry := registry }

def compilation? (c : Compiler) : Call → Option (CompileOptions × Except CompileFault Pipeline)
  | .apply _ => none
  | .compile directive options => some (options, c.compile directive options)
  | .compileValue directive options | .run directive options _ =>
    some (options, c.compileValue directive options)

def traced? (c : Compiler) (call : Call) : Option Pipeline :=
  (c.compilation? call).bind fun (options, result) =>
    if options.trace then result.toOption else none

def answer (c : Compiler) (call : Call) : Answer := (c.step call).2

theorem registry_trace (c : Compiler) (options : CompileOptions)
    (result : Except CompileFault Pipeline) : (c.trace options result).registry = c.registry := by
  unfold trace
  split
  · split <;> rfl
  · rfl

@[simp] theorem registry_step (c : Compiler) (call : Call) :
    (c.step call).1.registry = call.applied?.or c.registry := by
  cases call with
  | apply registry => rfl
  | compile directive options => exact registry_trace ..
  | compileValue directive options => exact registry_trace ..
  | run directive options documents => exact registry_trace ..

theorem sink_trace {c : Compiler} {pipelines : List Pipeline}
    (h : c.sink = .recording pipelines) (options : CompileOptions)
    (result : Except CompileFault Pipeline) :
    (c.trace options result).sink =
      .recording (pipelines ++ (if options.trace then result.toOption else none).toList) := by
  cases result with
  | error fault => simpa [trace, Except.toOption] using h
  | ok p => cases htrace : options.trace <;>
      simp [trace, htrace, h, TraceSink.receive, Except.toOption]

theorem sink_step {c : Compiler} {pipelines : List Pipeline}
    (h : c.sink = .recording pipelines) (call : Call) :
    (c.step call).1.sink = .recording (pipelines ++ (c.traced? call).toList) := by
  cases call with
  | apply registry => simpa [step, apply, traced?, compilation?] using h
  | compile directive options => exact sink_trace h ..
  | compileValue directive options => exact sink_trace h ..
  | run directive options documents => exact sink_trace h ..

theorem answer_eq_of_registry_eq {c c' : Compiler} (h : c.registry = c'.registry) (call : Call) :
    c.answer call = c'.answer call := by
  obtain ⟨registry, sink⟩ := c
  obtain ⟨_, sink'⟩ := c'
  cases h
  cases call <;> rfl

theorem traced?_eq_of_registry_eq {c c' : Compiler} (h : c.registry = c'.registry) (call : Call) :
    c.traced? call = c'.traced? call := by
  obtain ⟨registry, sink⟩ := c
  obtain ⟨_, sink'⟩ := c'
  cases h
  cases call <;> rfl

theorem answer_fresh_none {call : Call} (h : call.applied? = none) :
    (fresh none).answer call = .notCompiled .notConfigured := by
  have hvalue : ∀ directive options,
      (fresh none).compileValue directive options = .error .notConfigured := by
    intro directive options
    unfold compileValue
    split <;> rfl
  cases call with
  | apply registry => cases h
  | compile directive options => rfl
  | compileValue directive options => simp only [answer, step, hvalue, step.answer]
  | run directive options documents => simp only [answer, step, hvalue, step.runAnswer]

theorem steps_concat (c : Compiler) (calls : List Call) (call : Call) :
    c.steps (calls ++ [call]) =
      (((c.steps calls).1.step call).1,
        (c.steps calls).2 ++ [(c.steps calls).1.answer call]) := by
  induction calls generalizing c with
  | nil => rfl
  | cons first rest ih => simp only [List.cons_append, steps, ih]

theorem registry_steps (c : Compiler) (calls : List Call) :
    (c.steps calls).1.registry = (Call.lastApplied? calls).or c.registry := by
  induction calls using List.reverseRecOn with
  | nil => rfl
  | append_singleton calls call ih =>
    rw [steps_concat, Call.lastApplied?_concat, Option.or_assoc, ← ih]
    exact registry_step _ call

def unconfigured : Compiler := { sink := .recording [] }

theorem registry_steps_unconfigured (calls : List Call) :
    (unconfigured.steps calls).1.registry = (fresh (Call.lastApplied? calls)).registry :=
  (registry_steps unconfigured calls).trans Option.or_none

theorem sink_steps_unconfigured (calls : List Call) :
    (unconfigured.steps calls).1.sink =
      .recording ((Call.history calls).filterMap fun (before, call) =>
        (fresh (Call.lastApplied? before)).traced? call) := by
  induction calls using List.reverseRecOn with
  | nil => rfl
  | append_singleton calls call ih =>
    rw [steps_concat, Call.history_concat, List.filterMap_append]
    refine (sink_step ih call).trans ?_
    rw [traced?_eq_of_registry_eq (registry_steps_unconfigured calls)]
    cases htraced : (fresh (Call.lastApplied? calls)).traced? call <;> simp [htraced]

theorem answers_steps_unconfigured (calls : List Call) :
    (unconfigured.steps calls).2 = (Call.history calls).map fun (before, call) =>
      (fresh (Call.lastApplied? before)).answer call := by
  induction calls using List.reverseRecOn with
  | nil => rfl
  | append_singleton calls call ih =>
    rw [steps_concat, Call.history_concat, List.map_append, ← ih,
      answer_eq_of_registry_eq (registry_steps_unconfigured calls)]
    rfl

theorem compileValue_of_not_text (c : Compiler) {v : Value} (hnull : v ≠ .null)
    (htext : ∀ text, v ≠ .string text) (options : CompileOptions) :
    c.compileValue (some v) options =
      .error (if c.isConfigured then .directiveNotText (.ofValue v) else .notConfigured) := by
  obtain ⟨registry, sink⟩ := c
  cases v with
  | null => exact absurd rfl hnull
  | string text => exact absurd rfl (htext text)
  | bool | number | array | object => cases registry <;> rfl

/-- The registry is the one applied last, the sink has the traced pipelines in the order of their
calls, and each call is answered as by a compiler made for it. A session that is broken off is a
session, so all this holds at every point. -/
theorem session_eq_history (calls : List Call) :
    let final := unconfigured.steps calls
    final.1.registry = Call.lastApplied? calls ∧
    final.1.sink = .recording ((Call.history calls).filterMap fun (before, call) =>
      (fresh (Call.lastApplied? before)).traced? call) ∧
    final.2 = ((Call.history calls).map fun (before, call) =>
      (fresh (Call.lastApplied? before)).answer call) ∧
    (∀ before call, (before, call) ∈ Call.history calls →
      (∀ earlier ∈ before, earlier.applied? = none) → call.applied? = none →
      (fresh (Call.lastApplied? before)).answer call = .notCompiled .notConfigured) ∧
    (∀ (c : Compiler) call, call.applied? = none → (c.step call).1.registry = c.registry) ∧
    ∀ (c : Compiler) options,
      (∀ text, c.compileValue (some (.string text)) options = c.compile (some text) options) ∧
      c.compileValue (some .null) options = c.compile none options ∧
      c.compileValue none options = c.compile none options ∧
      ∀ v, v ≠ .null → (∀ text, v ≠ .string text) →
        c.compileValue (some v) options =
          .error (if c.isConfigured then .directiveNotText (.ofValue v) else .notConfigured) := by
  refine ⟨registry_steps_unconfigured calls, sink_steps_unconfigured calls,
    answers_steps_unconfigured calls, ?_, ?_, fun c options => ⟨fun _ => rfl, rfl, rfl, fun v hnull htext => ?_⟩⟩
  · intro before call _ hbefore hcall
    rw [Call.lastApplied?_eq_none_iff.2 hbefore]
    exact answer_fresh_none hcall
  · intro c call hcall
    rw [registry_step, hcall, Option.none_or]
  · exact compileValue_of_not_text c hnull htext options

end Compiler

end SortPipeline
