import CdrsTokio.Cluster.Session

/-!
# Calls on a shared `PreparedQuery`, interleaved

Any number of tasks call `exec_with_params_tw` on one `PreparedQuery` obtained from
`prepare_tw`, each call starting at any moment; every read and every write of the id under its
`RwLock`, and every `send_frame`, is one atomic step, and the server may answer anything. In every
reachable configuration the query's text is the one prepared, its id came back from a PREPARE of
that text, and every EXECUTE sent so far carried an id that had come back from a PREPARE of that
text before it was sent.

The argument is a judgment on call programs, `Safe query ok p`: every id the program will put in
an EXECUTE or store in the cell satisfies `ok`, where `ok` grows after each reply by the ids that
reply prepared for `query`. Every call of `exec_with_params_tw` is safe for any `ok`, the steps
keep every call in flight safe for "prepared for `query` in the log", and the invariant follows.

## Main definitions

* `PreparedFor query log id`: a reply in `log` to a PREPARE of `query` prepared `id`
* `Safe`: the judgment on call programs
* `Config`, `Step`: the interleaving of the calls in flight

## Main results

* `Step.of_run`: a call run alone is a run of the interleaving
* `safe_execWithParamsTw`: every call of `exec_with_params_tw` is safe
* `Inv.step`: one step keeps the invariant
* `exec_prepared_for_query`: the invariant in every configuration reachable after `prepare_tw`
-/

namespace CdrsTokio

/-- `id` is the prepared id of a reply, in `log`, to a PREPARE of `query`. -/
def PreparedFor (query : Str) (log : List Exchange) (id : List UInt8) : Prop :=
  ∃ e ∈ log, ∃ flags new, e.frame = .prepare query flags ∧ toPrepared e.reply = .ok new ∧
    new.id = id

theorem PreparedFor.append_left {query : Str} {log : List Exchange} {id : List UInt8}
    (h : PreparedFor query log id) (l : List Exchange) : PreparedFor query (log ++ l) id := by
  obtain ⟨e, he, rest⟩ := h
  exact ⟨e, List.mem_append_left l he, rest⟩

theorem preparedFor_append {query : Str} {log l : List Exchange} {id : List UInt8} :
    PreparedFor query (log ++ l) id ↔ PreparedFor query log id ∨ PreparedFor query l id := by
  simp only [PreparedFor, List.mem_append, or_and_right, exists_or]

/-- Every EXECUTE in `log` carries an id prepared for `query` by an earlier exchange. -/
def ExecutesPrepared (query : Str) (log : List Exchange) : Prop :=
  ∀ pre e post, log = pre ++ e :: post →
    ∀ id params flags, e.frame = .execute id params flags → PreparedFor query pre id

theorem ExecutesPrepared.append {query : Str} {log : List Exchange} {e : Exchange}
    (h : ExecutesPrepared query log)
    (he : ∀ id params flags, e.frame = .execute id params flags → PreparedFor query log id) :
    ExecutesPrepared query (log ++ [e]) := by
  intro pre e' post hlog
  rcases List.eq_nil_or_concat post with rfl | ⟨post, x, rfl⟩
  · obtain ⟨rfl, hx⟩ := List.append_inj' hlog rfl
    cases List.singleton_inj.mp hx
    exact he
  · rw [List.concat_eq_append, ← List.cons_append, ← List.append_assoc] at hlog
    exact h pre e' post (List.append_inj' hlog rfl).1

/-! ## The judgment on calls -/

/-- `Safe query ok p`: every id `p` puts in an EXECUTE or stores satisfies `ok`, where `ok` grows
by the id each read returns and, after each reply, by the ids it prepared for `query`. A read may
add its id because the cell only ever holds ids that satisfy `ok`. -/
inductive Safe {α : Type} (query : Str) : (List UInt8 → Prop) → Prog α → Prop
  | pure {ok : List UInt8 → Prop} (a : α) : Safe query ok (.pure a)
  | readId {ok : List UInt8 → Prop} {k : List UInt8 → Prog α} :
      (∀ id, Safe query (fun i => ok i ∨ i = id) (k id)) → Safe query ok (.readId k)
  | writeId {ok : List UInt8 → Prop} {id : List UInt8} {k : Prog α} :
      ok id → Safe query ok k → Safe query ok (.writeId id k)
  | sendFrame {ok : List UInt8 → Prop} {frame : Request} {b : Bool} {k : Reply → Prog α} :
      (∀ id params flags, frame = .execute id params flags → ok id) →
      (∀ r, Safe query (fun id => ok id ∨ PreparedFor query [⟨frame, b, r⟩] id) (k r)) →
      Safe query ok (.sendFrame frame b k)

theorem Safe.mono {α : Type} {query : Str} {ok ok' : List UInt8 → Prop} {p : Prog α}
    (h : Safe query ok p) (hok : ∀ id, ok id → ok' id) : Safe query ok' p := by
  induction h generalizing ok' with
  | pure a => exact .pure a
  | readId _ ih => exact .readId fun id => ih id fun i => Or.imp_left (hok i)
  | writeId hid _ ih => exact .writeId (hok _ hid) (ih hok)
  | sendFrame hexec _ ih =>
    exact .sendFrame (fun id params flags h => hok id (hexec id params flags h))
      fun r => ih r fun id => Or.imp_left (hok id)

/-- **Every call of `exec_with_params_tw` is safe**: the first EXECUTE carries the id read under
the lock, and the second one the id the reprepare's reply just returned for the same text. -/
theorem safe_execWithParamsTw (query : Str) (queryParameters : QueryParams)
    (withTracing withWarnings : Bool) (ok : List UInt8 → Prop) :
    Safe query ok (execWithParamsTw query queryParameters withTracing withWarnings) := by
  simp only [execWithParamsTw, prepareRaw, prepareRawTw, Prog.read, Prog.send, Prog.write,
    Bind.bind, Prog.bind, Pure.pure]
  refine .readId fun id => .sendFrame (fun _ _ _ h => by cases h; exact .inr rfl) fun r => ?_
  split
  · refine .sendFrame (fun _ _ _ h => by cases h) fun r' => ?_
    split
    · rename_i new hnew
      have fresh :
          PreparedFor query [⟨.prepare query (prepareFlags false false), false, r'⟩] new.id :=
        ⟨_, List.mem_singleton_self _, _, new, rfl, hnew, rfl⟩
      exact .writeId (.inr fresh) (.sendFrame (fun _ _ _ h => by cases h; exact .inr fresh)
        fun _ => .pure _)
    · exact .pure _
  · exact .pure _

/-! ## The interleaving -/

/-- The world and the calls in flight. -/
structure Config where
  world : World
  calls : List (Prog Reply)

/-- One step: a task starts a call of `exec_with_params_tw` on the query, with any parameters
and flags, or a call in flight performs one atomic effect. -/
inductive Step : Config → Config → Prop
  | call (c : Config) (queryParameters : QueryParams) (withTracing withWarnings : Bool) :
      Step c ⟨c.world, c.calls ++
        [execWithParamsTw c.world.prepared.query queryParameters withTracing withWarnings]⟩
  | effect {w w' : World} {p p' : Prog Reply} (pre post : List (Prog Reply)) :
      Prog.Step (p, w) (p', w') → Step ⟨w, pre ++ p :: post⟩ ⟨w', pre ++ p' :: post⟩

/-- A call run alone, carried into the interleaving: the other calls in flight wait while it
performs all its effects. -/
theorem Step.of_run (pre post : List (Prog Reply)) (p : Prog Reply) (replies : Nat → Reply)
    (w : World) :
    Relation.ReflTransGen Step ⟨w, pre ++ p :: post⟩
      ⟨(p.run replies w).2, pre ++ .pure (p.run replies w).1 :: post⟩ :=
  (p.run_steps replies w).lift (fun pw : Prog Reply × World => (⟨pw.2, pre ++ pw.1 :: post⟩ : Config))
    fun _ _ hs => .effect pre post hs

/-- The invariant of the interleaving, for the text `query`. -/
structure Inv (query : Str) (c : Config) : Prop where
  query_eq : c.world.prepared.query = query
  id_prepared : PreparedFor query c.world.log c.world.prepared.id
  executes : ExecutesPrepared query c.world.log
  calls_safe : ∀ p ∈ c.calls, Safe query (PreparedFor query c.world.log) p

theorem mem_insert_middle {p p' q : Prog Reply} {pre post : List (Prog Reply)}
    (h : q ∈ pre ++ p' :: post) : q = p' ∨ q ∈ pre ++ p :: post := by
  simp only [List.mem_append, List.mem_cons] at h ⊢
  tauto

/-- What holds of every call in flight still holds after one of them steps to `p'`, if it holds
of `p'`. -/
theorem forall_mem_insert_middle {P : Prog Reply → Prop} {p p' : Prog Reply}
    {pre post : List (Prog Reply)} (hp' : P p') (h : ∀ q ∈ pre ++ p :: post, P q) :
    ∀ q ∈ pre ++ p' :: post, P q :=
  fun q hq => (mem_insert_middle hq).elim (· ▸ hp') (h q)

/-- The effect of one call keeps the invariant. -/
theorem Inv.effect {query : Str} {w w' : World} {p p' : Prog Reply} {pre post : List (Prog Reply)}
    (h : Inv query ⟨w, pre ++ p :: post⟩) (hs : Prog.Step (p, w) (p', w')) :
    Inv query ⟨w', pre ++ p' :: post⟩ := by
  have hp := h.calls_safe p (by simp)
  cases hs with
  | readId k =>
    cases hp with
    | readId hk =>
      exact ⟨h.query_eq, h.id_prepared, h.executes, forall_mem_insert_middle
        ((hk _).mono fun i => Or.rec id fun hi => hi ▸ h.id_prepared) h.calls_safe⟩
  | writeId id k =>
    cases hp with
    | writeId hid hk =>
      exact ⟨h.query_eq, hid, h.executes, forall_mem_insert_middle hk h.calls_safe⟩
  | sendFrame frame b k _ r =>
    cases hp with
    | sendFrame hexec hk =>
      exact ⟨h.query_eq, h.id_prepared.append_left _, h.executes.append hexec,
        forall_mem_insert_middle ((hk r).mono fun i => preparedFor_append.mpr)
          fun q hq => (h.calls_safe q hq).mono fun i hi => hi.append_left _⟩

/-- **One step keeps the invariant.** -/
theorem Inv.step {query : Str} {c c' : Config} (h : Inv query c) (hs : Step c c') :
    Inv query c' := by
  cases hs with
  | call c queryParameters withTracing withWarnings =>
    refine ⟨h.query_eq, h.id_prepared, h.executes, fun q hq => ?_⟩
    rcases List.mem_append.mp hq with hq | hq
    · exact h.calls_safe q hq
    · rw [List.mem_singleton.mp hq, h.query_eq]
      exact safe_execWithParamsTw _ _ _ _ _
  | effect pre post hs => exact h.effect hs

theorem Inv.reachable {query : Str} {c c' : Config} (h : Inv query c)
    (hr : Relation.ReflTransGen Step c c') : Inv query c' := by
  induction hr with
  | refl => exact h
  | tail _ hs ih => exact ih.step hs

/-- The configuration right after `prepare_tw` returned: its one exchange, no call yet. -/
theorem Inv.init {query : Str} {flags : Flags} {r : Reply} {x : BodyResResultPrepared}
    (hx : toPrepared r = .ok x) :
    Inv query ⟨⟨⟨x.id, query⟩, [⟨.prepare query flags, false, r⟩]⟩, []⟩ := by
  refine ⟨rfl, ⟨_, List.mem_singleton_self _, flags, x, rfl, hx, rfl⟩, ?_, fun _ h => by cases h⟩
  intro pre e post hlog id params flags' he
  have he' : e ∈ [⟨.prepare query flags, false, r⟩] := by
    rw [show [_] = pre ++ e :: post from hlog]
    exact List.mem_append_right pre (List.mem_cons_self e post)
  rw [List.mem_singleton] at he'
  subst he'
  cases he

/-- **Calls on a shared `PreparedQuery` only ever use ids prepared for its text.** Let `prepare_tw`
return `p` for the text `query`. In every configuration reachable by any interleaving of any
number of `exec_with_params_tw` calls on `p`, started at any moments, with any replies: `p`'s text
is `query`; its id is the id of a reply to a PREPARE of exactly `query` (the one `prepare_tw`
received, or a reprepare's); and every EXECUTE sent so far carried the id of such a reply
received before it was sent. -/
theorem exec_prepared_for_query (query : Str) (withTracing withWarnings : Bool)
    (replies : Nat → Reply) (p₀ p : PreparedQuery) (w : World)
    (hprepare : (prepareTw query withTracing withWarnings).run replies ⟨p₀, []⟩ = (.ok p, w))
    (c : Config) (hreach : Relation.ReflTransGen Step ⟨⟨p, w.log⟩, []⟩ c) :
    c.world.prepared.query = query ∧ PreparedFor query c.world.log c.world.prepared.id ∧
      ExecutesPrepared query c.world.log := by
  rw [prepareTw_run] at hprepare
  obtain ⟨hp, rfl⟩ := Prod.mk.inj hprepare
  obtain ⟨x, hx, rfl⟩ := except_map_eq_ok hp
  have h := (Inv.init hx).reachable hreach
  exact ⟨h.query_eq, h.id_prepared, h.executes⟩

/-- Scenario C of the spec: `SELECT v FROM t WHERE k=?` prepared with the id `CA FE BA BE`.
Then one call starts, its EXECUTE gets UNPREPARED, the reprepare gets the id `07`, and the call
stores it and executes again: after the four exchanges the id is `07`, prepared for the text. -/
theorem exec_prepared_for_query_scenario :
    (prepareTw (.ofString "SELECT v FROM t WHERE k=?") false false).run
        (fun _ => .ok ⟨.ok (.resultPrepared ⟨[0xCA, 0xFE, 0xBA, 0xBE]⟩)⟩)
        ⟨⟨[], .ofString "SELECT v FROM t WHERE k=?"⟩, []⟩ =
      (.ok ⟨[0xCA, 0xFE, 0xBA, 0xBE], .ofString "SELECT v FROM t WHERE k=?"⟩,
        ⟨⟨[], .ofString "SELECT v FROM t WHERE k=?"⟩,
          [⟨.prepare (.ofString "SELECT v FROM t WHERE k=?") (prepareFlags false false), false,
            .ok ⟨.ok (.resultPrepared ⟨[0xCA, 0xFE, 0xBA, 0xBE]⟩)⟩⟩]⟩) ∧
    ∃ c : Config, Relation.ReflTransGen Step
        ⟨⟨⟨[0xCA, 0xFE, 0xBA, 0xBE], .ofString "SELECT v FROM t WHERE k=?"⟩,
          [⟨.prepare (.ofString "SELECT v FROM t WHERE k=?") (prepareFlags false false), false,
            .ok ⟨.ok (.resultPrepared ⟨[0xCA, 0xFE, 0xBA, 0xBE]⟩)⟩⟩]⟩, []⟩ c ∧
      c.world.prepared.id = [0x07] ∧ c.world.log.length = 4 ∧
      (c.world.prepared.query = .ofString "SELECT v FROM t WHERE k=?" ∧
        PreparedFor (.ofString "SELECT v FROM t WHERE k=?") c.world.log c.world.prepared.id ∧
        ExecutesPrepared (.ofString "SELECT v FROM t WHERE k=?") c.world.log) :=
  have hprepare := rfl
  have hreach := Relation.ReflTransGen.head (Step.call ⟨_, []⟩ ⟨false, []⟩ false false)
    (Step.of_run [] [] _ (fun
      | 0 => .error (.server ⟨0x2500⟩)
      | 1 => .ok ⟨.ok (.resultPrepared ⟨[0x07]⟩)⟩
      | _ => .ok ⟨.ok .other⟩) _)
  ⟨hprepare, _, hreach, rfl, rfl, exec_prepared_for_query _ _ _ _ _ _ _ hprepare _ hreach⟩

end CdrsTokio
