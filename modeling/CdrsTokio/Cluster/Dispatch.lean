import CdrsTokio.Cluster.Session
import CdrsTokio.Cluster.LoadBalancing

/-!
# Sending a frame over the balanced connection

`send_frame`, which `session.rs` imports from `query::utils`, takes its transport from
`load_balanced_connection` and exchanges the frame over it (the spec's §4.6, steps 2 and 3). The
two halves of `session.rs` meet there: every `send_frame` effect of a call waits on the
balancer's loop, which has no bound, and the core sets no per-request timeout.

`Prog.runVia` runs a call alone with each `send_frame` made that way, the balancer's state
threaded from one to the next; `none` is a call that has not returned. Over a fair balancer
whose nodes all refuse, a call of `exec_with_params_tw` never gets past its first `send_frame`.

## Main definitions

* `Session.sendFrame`: `send_frame`'s first attempt, through `load_balanced_connection`
* `Prog.runVia`: a call run alone against a session

## Main results

* `Session.execWithParamsTw_refused_forever`: over fair nodes that all refuse, a call of
  `exec_with_params_tw` never returns
-/

namespace CdrsTokio

namespace Prog

variable {σ : Type} (send : σ → Request → Option (Reply × σ))

/-- A call run alone against a session: each `send_frame` is `send` from the balancer's state,
which it moves on; `none` when one of them has not returned. -/
def runVia {α : Type} : Prog α → σ → World → Option (α × σ × World)
  | .pure a, st, w => some (a, st, w)
  | .readId k, st, w => runVia (k w.prepared.id) st w
  | .writeId id k, st, w => runVia k st ⟨{ w.prepared with id }, w.log⟩
  | .sendFrame frame b k, st, w =>
    (send st frame).bind fun (r, st) => runVia (k r) st ⟨w.prepared, w.log ++ [⟨frame, b, r⟩]⟩

end Prog

namespace Session

variable {σ CM T : Type} (s : Session σ CM T)

/-- Modelled from the spec: the first attempt of `send_frame`, whose code is not among these
sources. It asks `load_balanced_connection`, its loop given `fuel` attempts, for a transport and
exchanges the frame over it with `exchange`. A `Some(Err(e))` from the call is the reply `e`, and
a `None` the reply `noConnection`, an error these sources do not fix. What the retry policy does
after a failed exchange (step 5) is left out. -/
def sendFrame (noConnection : Error) (exchange : T → Request → Reply) (fuel : Nat) (st : σ)
    (frame : Request) : Option (Reply × σ) :=
  (s.loadBalancedConnection fuel st).map fun (connection, st) =>
    match connection with
    | some (.ok transport) => (exchange transport frame, st)
    | some (.error e) => (.error e, st)
    | none => (.error noConnection, st)

/-- **A call over refusing nodes never returns.** Over `n ≥ 2` distinct nodes, each handed out
within any `n` consecutive calls of `next()`, that all refuse under `NEVER_RECONNECTION_POLICY`:
a call of `exec_with_params_tw` run against the session, whatever its query, parameters and
flags, the world, the balancer's state and what the transports would reply, has not returned
for any bound on the loop's attempts. It waits in its first `send_frame`. -/
theorem execWithParamsTw_refused_forever (nodes : List CM) (hnodup : nodes.Nodup)
    (hsize : s.loadBalancing.size = nodes.length) (htwo : 2 ≤ nodes.length)
    (hfair : s.loadBalancing.Fair nodes)
    (hall : ∀ cm ∈ nodes, ∃ e, s.connection cm .never = .error e) (noConnection : Error)
    (exchange : T → Request → Reply) (query : Str) (queryParameters : QueryParams)
    (withTracing withWarnings : Bool) (st : σ) (w : World) (fuel : Nat) :
    (execWithParamsTw query queryParameters withTracing withWarnings).runVia
      (s.sendFrame noConnection exchange fuel) st w = none := by
  have waits st frame : s.sendFrame noConnection exchange fuel st frame = none := by
    rw [sendFrame, s.loadBalancedConnection_of_two_le (hsize ▸ htwo),
      s.connectLoop_fair_refused hfair hnodup (by omega) hall, Option.map_none']
  simp only [execWithParamsTw, Prog.read, Prog.send, Bind.bind, Prog.bind, Prog.runVia, waits,
    Option.none_bind]

/-- Two nodes in round-robin, both refusing: a call of `exec_with_params_tw` never returns. -/
theorem execWithParamsTw_refused_forever_twoDown :
    [0, 1].Nodup ∧ (roundRobin [0, 1]).size = [0, 1].length ∧ 2 ≤ [0, 1].length ∧
      (roundRobin [0, 1]).Fair [0, 1] ∧
      ∀ fuel, (execWithParamsTw (.ofString "q") ⟨true, []⟩ false false).runVia
        ((Session.mk (roundRobin [0, 1]) fun _ _ => .error .io : Session Nat Nat Unit).sendFrame
          .io (fun _ _ => .error .io) fuel) 0 ⟨⟨[1], .ofString "q"⟩, []⟩ = none :=
  ⟨by decide, rfl, by decide, roundRobin_fair _, execWithParamsTw_refused_forever
    (Session.mk (roundRobin [0, 1]) fun _ _ => .error .io) [0, 1] (by decide) rfl (by decide)
    (roundRobin_fair _) (fun _ _ => ⟨.io, rfl⟩) .io (fun _ _ => .error .io) _ _ false false 0 _⟩

end Session

end CdrsTokio
