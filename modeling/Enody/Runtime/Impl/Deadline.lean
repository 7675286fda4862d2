import Enody.Runtime.Impl.Dispatch
import Enody.Time

/-!
This module contains `execute_command_with_timeout_until` with its timeout. The deadline is computed after the
registration has been pushed and before the command is sent, without an await point in between. When the
addition is not representable the call panics there: its future is dropped and its registration stays.

`additions` is a history variable: the additions of the deadlines.
-/

namespace Enody
namespace Runtime

open Message (Duration)

structure CommandRequest where
  command : CommandMessage
  timeout : Duration
  isTerminal : IsTerminal

inductive CallDeadline where
  | notComputed
  | computed (deadline : Instant)
  | panicked

structure TimedRuntime where
  inner : RemoteRuntimeInner
  requests : CallId → Option CommandRequest
  deadlines : CallId → CallDeadline
  additions : List (Instant × Duration)

inductive TimedLabel where
  | call (i : CallId) (request : CommandRequest)
  | deadline (i : CallId) (now : Instant)
  | task (i : CallId) (label : CallLabel)
  | dispatch (label : DispatchLabel)
  | nextMessage
  | enableLogging

namespace TimedRuntime

def new : TimedRuntime where
  inner := .new
  requests := fun _ => none
  deadlines := fun _ => .notComputed
  additions := []

def isTerminal (s : TimedRuntime) : CallId → IsTerminal :=
  fun i =>
    match s.requests i with
    | none => fun _ _ => true
    | some request => request.isTerminal

def stepInner (s : TimedRuntime) (label : RuntimeLabel) : Option TimedRuntime :=
  (s.inner.step s.isTerminal label).map fun inner => { s with inner := inner }

def call (s : TimedRuntime) (i : CallId) (request : CommandRequest) : Option TimedRuntime :=
  (s.inner.startCall i request.command).map fun inner =>
    { s with
      inner := inner
      requests := Function.update s.requests i (some request)
      deadlines := Function.update s.deadlines i .notComputed }

def deadline (s : TimedRuntime) (i : CallId) (now : Instant) : Option TimedRuntime :=
  match s.requests i, s.inner.calls i, s.deadlines i with
  | some request, some call, .notComputed =>
    let s := { s with additions := s.additions ++ [(now, request.timeout)] }
    match now.checkedAdd request.timeout with
    | some deadline => some { s with deadlines := Function.update s.deadlines i (.computed deadline) }
    | none =>
      some
        { s with
          inner := s.inner.setCall i { call with phase := .cancelled }
          deadlines := Function.update s.deadlines i .panicked }
  | _, _, _ => none

/-
A call has no await point before its deadline is computed.
-/
def step (s : TimedRuntime) (label : TimedLabel) : Option TimedRuntime :=
  match label with
  | .call i request => s.call i request
  | .deadline i now => s.deadline i now
  | .task i label =>
    match s.deadlines i with
    | .computed _ => s.stepInner (.task i label)
    | _ => none
  | .dispatch label => s.stepInner (.dispatch label)
  | .nextMessage => s.stepInner .nextMessage
  | .enableLogging => s.stepInner .enableLogging

end TimedRuntime

end Runtime
end Enody
