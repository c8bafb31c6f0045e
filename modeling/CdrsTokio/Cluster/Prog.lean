import CdrsTokio.Frame.Startup

/-!
# The session's effects

A call on a shared `PreparedQuery` does three kinds of things besides computing: it reads the
statement id under the query's `RwLock`, it writes it, and it calls `send_frame`, which sends one
request and waits for its reply. `Prog α` is such a call as a tree of these effects, ending with a
value of `α`; its continuations take what the effect returned. The session's functions are
written in it with `do` blocks that follow the Rust bodies line by line.

Two semantics read the same trees. `Prog.run` runs one call alone, `send_frame` answering from
a stream of replies. `Prog.Step` is one atomic effect against the shared `World`, a `send_frame`
among them one that has returned, with any reply; the module `CdrsTokio.Cluster.Concurrent`
interleaves the steps of many calls. Whether a `send_frame` returns at all is up to
`load_balanced_connection`: `CdrsTokio.Cluster.Dispatch` runs a call through it.

## Main definitions

* `Request`, `Response`, `Reply`: the frames a call sends and what `send_frame` returns
* `Prog`: a call as a tree of effects, with its `Monad` instance
* `World`: the shared `PreparedQuery` and the log of every exchange
* `Prog.Step`, `Prog.run`: one effect, and a whole call run alone

## Main results

* `Prog.run_steps`: a call run alone is a sequence of steps, so the two semantics agree
-/

namespace CdrsTokio

/-- `QueryParams`: the session reads whether the query is idempotent, and carries the other
parameters into the EXECUTE frame as `QueryParams::serialize` writes them. -/
structure QueryParams where
  isIdempotent : Bool
  encoded : List UInt8
deriving DecidableEq

/-- A request frame, by the constructor that builds it: `Frame::new_req_execute` or
`Frame::new_req_prepare`. -/
inductive Request
  | execute (id : List UInt8) (params : QueryParams) (flags : Flags)
  | prepare (query : Str) (flags : Flags)
deriving DecidableEq

/-- `BodyResResultPrepared`, reduced to the statement id the session reads. -/
structure BodyResResultPrepared where
  id : List UInt8
deriving DecidableEq

/-- What `Frame::body` parses a response into, as far as the session tells bodies apart: a
prepared result, or any other body. -/
inductive ResponseBody
  | resultPrepared (prepared : BodyResResultPrepared)
  | other
deriving DecidableEq

/-- `ResponseBody::into_prepared`. -/
def ResponseBody.intoPrepared : ResponseBody → Option BodyResResultPrepared
  | .resultPrepared prepared => some prepared
  | .other => none

/-- A response frame, reduced to what `Frame::body` returns for it. -/
structure Response where
  body : Except Error ResponseBody

/-- What `send_frame` returns. -/
abbrev Reply := Except Error Response

/-- `PreparedQuery`: the statement id, behind its `RwLock`, and the text it was prepared from. -/
structure PreparedQuery where
  id : List UInt8
  query : Str

/-- A session call on one shared `PreparedQuery`, as a tree of effects. -/
inductive Prog (α : Type) where
  | pure (a : α)
  | readId (k : List UInt8 → Prog α)
  | writeId (id : List UInt8) (k : Prog α)
  | sendFrame (frame : Request) (isIdempotent : Bool) (k : Reply → Prog α)

namespace Prog

/-- Sequencing: graft `f` at every leaf. -/
def bind {α β : Type} : Prog α → (α → Prog β) → Prog β
  | .pure a, f => f a
  | .readId k, f => .readId fun id => (k id).bind f
  | .writeId id k, f => .writeId id (k.bind f)
  | .sendFrame frame b k, f => .sendFrame frame b fun r => (k r).bind f

instance : Monad Prog where
  pure := .pure
  bind := bind

/-- `prepared.id.read()`. -/
def read : Prog (List UInt8) := .readId .pure

/-- `*prepared.id.write() = id`. -/
def write (id : List UInt8) : Prog Unit := .writeId id (.pure ())

/-- `send_frame(self, frame, is_idempotent)`. -/
def send (frame : Request) (isIdempotent : Bool) : Prog Reply := .sendFrame frame isIdempotent .pure

end Prog

/-- One `send_frame` call: the frame, the idempotence passed with it, and the reply. -/
structure Exchange where
  frame : Request
  isIdempotent : Bool
  reply : Reply

/-- What the calls share: the `PreparedQuery`, and the log of every exchange so far, oldest
first. -/
structure World where
  prepared : PreparedQuery
  log : List Exchange

namespace Prog

/-- One atomic effect of a call against the world; a `send_frame` that returns may get any
reply. -/
inductive Step {α : Type} : Prog α × World → Prog α × World → Prop
  | readId (k : List UInt8 → Prog α) (w : World) : Step (.readId k, w) (k w.prepared.id, w)
  | writeId (id : List UInt8) (k : Prog α) (w : World) :
      Step (.writeId id k, w) (k, ⟨{ w.prepared with id }, w.log⟩)
  | sendFrame (frame : Request) (b : Bool) (k : Reply → Prog α) (w : World) (r : Reply) :
      Step (.sendFrame frame b k, w) (k r, ⟨w.prepared, w.log ++ [⟨frame, b, r⟩]⟩)

/-- A call run alone: the `n`-th `send_frame` of the run gets `replies n`. -/
def run {α : Type} : Prog α → (Nat → Reply) → World → α × World
  | .pure a, _, w => (a, w)
  | .readId k, replies, w => run (k w.prepared.id) replies w
  | .writeId id k, replies, w => run k replies ⟨{ w.prepared with id }, w.log⟩
  | .sendFrame frame b k, replies, w =>
    run (k (replies 0)) (fun n => replies (n + 1)) ⟨w.prepared, w.log ++ [⟨frame, b, replies 0⟩]⟩

/-- A run alone is a sequence of steps. -/
theorem run_steps {α : Type} (p : Prog α) (replies : Nat → Reply) (w : World) :
    Relation.ReflTransGen Step (p, w) (.pure (p.run replies w).1, (p.run replies w).2) := by
  induction p generalizing replies w with
  | pure a => exact .refl
  | readId k ih => exact .head (.readId k w) (ih _ replies w)
  | writeId id k ih => exact .head (.writeId id k w) (ih replies _)
  | sendFrame frame b k ih => exact .head (.sendFrame frame b k w _) (ih _ _ _)

end Prog

end CdrsTokio
