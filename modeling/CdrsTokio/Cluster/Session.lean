import CdrsTokio.Cluster.Prog

/-!
# Preparing and executing statements

`session.rs`'s statement calls as `Prog` programs: `prepare_raw_tw` sends a PREPARE and reads
the reply as a prepared result; `prepare_tw` wraps it into a `PreparedQuery`;
`exec_with_params_tw` sends an EXECUTE with the id it reads under the lock and, when the server
answers UNPREPARED (`0x2500`), prepares the text again, stores the new id and executes once
more. The other `exec*` calls only choose the parameters and flags.

A call reaches the `PreparedQuery` through the effects for its id and through `query`, its text,
which nothing writes.

## Main definitions

* `prepareRawTw`, `prepareTw`: preparing a statement
* `execWithParamsTw`: executing one, with the reprepare on UNPREPARED
* `execWithParams`, `execWithValuesTw`, `execWithValues`, `execTw`, `exec`: its wrappers

## Main results

* `isUnprepared_iff`, `toPrepared_eq_ok_iff`: the two tests of `exec_with_params_tw`, by the
  shape of the reply
* `prepareTw_run`: `prepare_tw` sends one PREPARE and builds the query from its reply
* `execWithParamsTw_run`: everything one `exec_with_params_tw` call does when it runs alone, by
  the shape of the replies it gets
-/

namespace CdrsTokio

open Prog

/-- `prepare_flags`: the flags a request asks for. -/
def prepareFlags (withTracing withWarnings : Bool) : Flags := ⟨withTracing, withWarnings⟩

/-- The `and_then` chain of `prepare_raw_tw`: the reply's body, read as a prepared result. -/
def toPrepared (response : Reply) : Except Error BodyResResultPrepared :=
  (response.bind Response.body).bind fun body =>
    match body.intoPrepared with
    | some prepared => .ok prepared
    | none => .error (.general "CDRS BUG: cannot convert frame into prepared")

/-- `Session::prepare_raw_tw`. -/
def prepareRawTw (query : Str) (withTracing withWarnings : Bool) :
    Prog (Except Error BodyResResultPrepared) := do
  let flags := prepareFlags withTracing withWarnings
  let queryFrame := Request.prepare query flags
  let response ← send queryFrame false
  return toPrepared response

/-- `Session::prepare_raw`. -/
def prepareRaw (query : Str) : Prog (Except Error BodyResResultPrepared) :=
  prepareRawTw query false false

/-- `Session::prepare_tw`. -/
def prepareTw (query : Str) (withTracing withWarnings : Bool) :
    Prog (Except Error PreparedQuery) := do
  let s := query
  let prepared ← prepareRawTw query withTracing withWarnings
  return prepared.map fun x => ⟨x.id, s⟩

/-- `Session::prepare`. -/
def prepare (query : Str) : Prog (Except Error PreparedQuery) := prepareTw query false false

/-- The test of `exec_with_params_tw`:
`if let Err(error::Error::Server(error)) = &result { if error.error_code == 0x2500 {`. -/
def isUnprepared : Reply → Bool
  | .error (.server error) => error.errorCode == 0x2500
  | _ => false

/-- The test holds of exactly the server errors with code `0x2500`, UNPREPARED. -/
theorem isUnprepared_iff (result : Reply) :
    isUnprepared result = true ↔
      ∃ error, result = .error (.server error) ∧ error.errorCode = 0x2500 := by
  rcases result with (_ | _ | _ | error) | _ <;> simp [isUnprepared]

/-- The chain yields a prepared result exactly for an `Ok` frame whose body is one. -/
theorem toPrepared_eq_ok_iff (response : Reply) (prepared : BodyResResultPrepared) :
    toPrepared response = .ok prepared ↔ response = .ok ⟨.ok (.resultPrepared prepared)⟩ := by
  rcases response with _ | ⟨_ | _ | _⟩ <;>
    simp [toPrepared, ResponseBody.intoPrepared, Except.bind, Response.mk.injEq]

/-- `Session::exec_with_params_tw`. -/
def execWithParamsTw (query : Str) (queryParameters : QueryParams)
    (withTracing withWarnings : Bool) : Prog Reply := do
  let flags := prepareFlags withTracing withWarnings
  let id ← read
  let optionsFrame := Request.execute id queryParameters flags
  let result ← send optionsFrame queryParameters.isIdempotent
  if isUnprepared result then
    match ← prepareRaw query with
    | .ok new =>
      write new.id
      let flags := prepareFlags withTracing withWarnings
      let optionsFrame := Request.execute new.id queryParameters flags
      send optionsFrame queryParameters.isIdempotent
    | .error _ => return result
  else
    return result

/-- `Session::exec_with_params`. -/
def execWithParams (query : Str) (queryParameters : QueryParams) : Prog Reply :=
  execWithParamsTw query queryParameters false false

section Builder

/-! The parameters `QueryParamsBuilder` builds are not among these sources: `defaultParams` is
`QueryParamsBuilder::new().finalize()`, and `valuesParams v` is the same with `.values(v)`. -/

variable {QueryValues : Type} (defaultParams : QueryParams)
  (valuesParams : QueryValues → QueryParams)

/-- `Session::exec_with_values_tw`. -/
def execWithValuesTw (query : Str) (values : QueryValues) (withTracing withWarnings : Bool) :
    Prog Reply :=
  execWithParamsTw query (valuesParams values) withTracing withWarnings

/-- `Session::exec_with_values`. -/
def execWithValues (query : Str) (values : QueryValues) : Prog Reply :=
  execWithValuesTw valuesParams query values false false

/-- `Session::exec_tw`. -/
def execTw (query : Str) (withTracing withWarnings : Bool) : Prog Reply :=
  execWithParamsTw query defaultParams withTracing withWarnings

/-- `Session::exec`. -/
def exec (query : Str) : Prog Reply := execTw defaultParams query false false

end Builder

/-! ## A call run alone -/

/-- `prepare_tw` sends one PREPARE of the text and, when the reply is a prepared result, returns
the query with its id and that text. -/
theorem prepareTw_run (query : Str) (withTracing withWarnings : Bool) (replies : Nat → Reply)
    (w : World) :
    (prepareTw query withTracing withWarnings).run replies w =
      ((toPrepared (replies 0)).map fun x => ⟨x.id, query⟩,
        ⟨w.prepared, w.log ++ [⟨.prepare query (prepareFlags withTracing withWarnings), false,
          replies 0⟩]⟩) := rfl

/-- `exec_with_params_tw` run alone, through its own tests: the first reply sent to
`isUnprepared`, the PREPARE's reply to `toPrepared`. -/
theorem run_execWithParamsTw (queryParameters : QueryParams) (withTracing withWarnings : Bool)
    (replies : Nat → Reply) (w : World) :
    (execWithParamsTw w.prepared.query queryParameters withTracing withWarnings).run replies w =
      let flags := prepareFlags withTracing withWarnings
      let first : Exchange :=
        ⟨.execute w.prepared.id queryParameters flags, queryParameters.isIdempotent, replies 0⟩
      if isUnprepared (replies 0) then
        let reprepare : Exchange :=
          ⟨.prepare w.prepared.query (prepareFlags false false), false, replies 1⟩
        match toPrepared (replies 1) with
        | .ok new =>
          (replies 2, ⟨{ w.prepared with id := new.id }, w.log ++ [first, reprepare,
            ⟨.execute new.id queryParameters flags, queryParameters.isIdempotent, replies 2⟩]⟩)
        | .error _ => (replies 0, ⟨w.prepared, w.log ++ [first, reprepare]⟩)
      else (replies 0, ⟨w.prepared, w.log ++ [first]⟩) := by
  simp only [execWithParamsTw, prepareRaw, prepareRawTw, Prog.read, Prog.send, Prog.write,
    Bind.bind, Prog.bind, Pure.pure, Prog.run]
  split
  · split <;> simp_all [Prog.run, Prog.bind]
  · simp [Prog.run]

/-- **One call of `exec_with_params_tw`, alone**, by the shape of the replies `send_frame` gives
it. On the world's `PreparedQuery` it sends an EXECUTE with the current id. If that reply is a
server error with code `0x2500` (UNPREPARED), it sends a PREPARE of the query's text; if that
reply is a prepared result with id `i`, it stores `i`, sends one more EXECUTE with `i` and the
same parameters and flags, and returns that reply. Any other reply to the PREPARE, and any other
first reply, ends the call with the first reply and the id as it was. -/
theorem execWithParamsTw_run (queryParameters : QueryParams) (withTracing withWarnings : Bool)
    (replies : Nat → Reply) (w : World) :
    let flags := prepareFlags withTracing withWarnings
    let first : Exchange :=
      ⟨.execute w.prepared.id queryParameters flags, queryParameters.isIdempotent, replies 0⟩
    let reprepare : Exchange :=
      ⟨.prepare w.prepared.query (prepareFlags false false), false, replies 1⟩
    (∀ error, replies 0 = .error (.server error) → error.errorCode = 0x2500 →
      ∀ i, replies 1 = .ok ⟨.ok (.resultPrepared ⟨i⟩)⟩ →
        (execWithParamsTw w.prepared.query queryParameters withTracing withWarnings).run
            replies w =
          (replies 2, ⟨{ w.prepared with id := i }, w.log ++ [first, reprepare,
            ⟨.execute i queryParameters flags, queryParameters.isIdempotent, replies 2⟩]⟩)) ∧
    (∀ error, replies 0 = .error (.server error) → error.errorCode = 0x2500 →
      (∀ i, replies 1 ≠ .ok ⟨.ok (.resultPrepared ⟨i⟩)⟩) →
        (execWithParamsTw w.prepared.query queryParameters withTracing withWarnings).run
            replies w =
          (replies 0, ⟨w.prepared, w.log ++ [first, reprepare]⟩)) ∧
    ((∀ error, replies 0 = .error (.server error) → error.errorCode ≠ 0x2500) →
      (execWithParamsTw w.prepared.query queryParameters withTracing withWarnings).run replies w =
        (replies 0, ⟨w.prepared, w.log ++ [first]⟩)) := by
  intro flags first reprepare
  have run := run_execWithParamsTw queryParameters withTracing withWarnings replies w
  refine ⟨fun error h0 hcode i h1 => ?_, fun error h0 hcode h1 => ?_, fun h0 => ?_⟩
  · rw [run, if_pos ((isUnprepared_iff _).mpr ⟨error, h0, hcode⟩),
      (toPrepared_eq_ok_iff _ _).mpr h1]
  · rw [run, if_pos ((isUnprepared_iff _).mpr ⟨error, h0, hcode⟩)]
    split
    · rename_i new hnew
      exact absurd ((toPrepared_eq_ok_iff _ _).mp hnew) (h1 new.id)
    · rfl
  · have prepared : ¬isUnprepared (replies 0) = true := fun h =>
      let ⟨error, h, hcode⟩ := (isUnprepared_iff _).mp h
      h0 error h hcode
    rw [run, if_neg prepared]

end CdrsTokio
