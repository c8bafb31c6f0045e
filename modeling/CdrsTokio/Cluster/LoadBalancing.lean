import CdrsTokio.Types.Wire

/-!
# Choosing a connection

`Session::load_balanced_connection` asks the load balancer for a connection manager. With fewer
than two nodes it takes what `next()` gives and connects under the session's reconnection policy.
With two or more it loops: take the next manager, try to connect under `NEVER_RECONNECTION_POLICY`,
return the first connection made, and give up only when `next()` returns `None`.

A fair balancer never returns `None`. So when some node connects the loop stops at the first one
in `next()` order, within as many attempts as there are nodes; when every node refuses, it never
stops. The loop is modelled with a bound on its attempts: `none` is "has not returned yet", and a
call that never returns is one that gives `none` for every bound.

## Main definitions

* `LoadBalancing`: the strategy's `next` and `size`, over a state of its own
* `LoadBalancing.Fair`: every node handed out within any `n` consecutive calls
* `Session.loadBalancedConnection`: the function, its loop given `fuel` attempts
* `roundRobin`: the spec's default strategy

## Main results

* `LoadBalancing.Fair.nth_mem`: a fair balancer hands out a node at every call
* `roundRobin_fair`: round-robin is fair
* `Session.connectLoop_result`: the loop returns a connection or `None`, never a refusal
* `Session.loadBalancedConnection_fair`: the first node that connects is returned within `n`
  attempts, and the call never returns when every node refuses
-/

namespace CdrsTokio

/-- `LoadBalancingStrategy<CM>`, over a state of its own: `next` hands out a connection manager,
or none, and moves the state; `size` counts the managers it was given. -/
structure LoadBalancing (σ CM : Type) where
  next : σ → Option CM × σ
  size : Nat

namespace LoadBalancing

variable {σ CM : Type} (lb : LoadBalancing σ CM)

/-- The state after `k` calls of `next` from `st`. -/
def after : Nat → σ → σ
  | 0, st => st
  | k + 1, st => after k (lb.next st).2

/-- What the `k`-th call of `next` from `st` hands out, counting from `0`. -/
def nth (k : Nat) (st : σ) : Option CM := (lb.next (lb.after k st)).1

@[simp] theorem after_zero (st : σ) : lb.after 0 st = st := rfl

theorem after_succ (k : Nat) (st : σ) : lb.after (k + 1) st = lb.after k (lb.next st).2 := rfl

@[simp] theorem nth_zero (st : σ) : lb.nth 0 st = (lb.next st).1 := rfl

/-- `next` is fair over `nodes`: from any state, each node is handed out within `nodes.length`
consecutive calls. -/
def Fair (nodes : List CM) : Prop :=
  ∀ st, ∀ cm ∈ nodes, ∃ k < nodes.length, lb.nth k st = some cm

section Fair

variable {lb} {nodes : List CM} (hfair : lb.Fair nodes) (hnodup : nodes.Nodup)
include hfair hnodup

/-- `n` consecutive calls of a fair balancer over `n` distinct nodes hand out each node once:
all `n` nodes come, and there is no room for anything else. -/
theorem Fair.perm (st : σ) :
    List.Perm ((List.range nodes.length).map fun k => lb.nth k st) (nodes.map some) := by
  have covered : nodes.map some ⊆ (List.range nodes.length).map fun k => lb.nth k st := by
    intro x hx
    obtain ⟨cm, hcm, rfl⟩ := List.mem_map.mp hx
    obtain ⟨k, hk, hnth⟩ := hfair st cm hcm
    exact List.mem_map.mpr ⟨k, List.mem_range.mpr hk, hnth⟩
  exact ((List.subperm_of_subset (hnodup.map (Option.some_injective _)) covered).perm_of_length_le
    (by simp)).symm

/-- **A fair balancer hands out a node at every call.** -/
theorem Fair.nth_mem (st : σ) {k : Nat} (hk : k < nodes.length) :
    ∃ cm ∈ nodes, lb.nth k st = some cm := by
  obtain ⟨cm, hcm, h⟩ := List.mem_map.mp
    ((hfair.perm hnodup st).subset (List.mem_map.mpr ⟨k, List.mem_range.mpr hk, rfl⟩))
  exact ⟨cm, hcm, h.symm⟩

end Fair

end LoadBalancing

/-! ## The default strategy -/

section RoundRobin

variable {CM : Type} (nodes : List CM)

/-- Modelled from the spec: the default round-robin strategy, whose code is not among these
sources. Its state is the counter; each call hands out the node at the counter, modulo their
number, and moves the counter on. -/
def roundRobin : LoadBalancing Nat CM where
  next counter := (nodes[counter % nodes.length]?, counter + 1)
  size := nodes.length

theorem roundRobin_after (k counter : Nat) : (roundRobin nodes).after k counter = counter + k := by
  induction k generalizing counter with
  | zero => rfl
  | succ k ih => rw [LoadBalancing.after_succ, ih, roundRobin, Nat.add_right_comm, Nat.add_assoc]

theorem roundRobin_nth (k counter : Nat) :
    (roundRobin nodes).nth k counter = nodes[(counter + k) % nodes.length]? := by
  rw [LoadBalancing.nth, roundRobin_after, roundRobin]

/-- Round-robin is fair: from counter `i`, the node at index `j` comes after
`(j + n - i % n) % n` calls. -/
theorem roundRobin_fair : (roundRobin nodes).Fair nodes := by
  intro counter cm hcm
  obtain ⟨j, hj, rfl⟩ := List.getElem_of_mem hcm
  have hn : 0 < nodes.length := by omega
  refine ⟨(j + nodes.length - counter % nodes.length) % nodes.length, Nat.mod_lt _ hn, ?_⟩
  have hsum : counter + (j + nodes.length - counter % nodes.length) =
      j + nodes.length * (counter / nodes.length + 1) := by
    have := Nat.mod_add_div counter nodes.length
    have := Nat.mod_lt counter hn
    rw [Nat.mul_succ]
    omega
  rw [roundRobin_nth, Nat.add_mod_mod, hsum, Nat.add_mul_mod_self_left, Nat.mod_eq_of_lt hj,
    List.getElem?_eq_getElem hj]

end RoundRobin

/-- The reconnection policy a `connection` call is given: the session's own, or
`NEVER_RECONNECTION_POLICY`. -/
inductive ReconnectionPolicy
  | session
  | never

/-- What `load_balanced_connection` reads of a session: its load balancer, and the outcome of
`cm.connection(policy)` for each manager and policy, a transport or the error it gave up with. -/
structure Session (σ CM T : Type) where
  loadBalancing : LoadBalancing σ CM
  connection : CM → ReconnectionPolicy → Except Error T

namespace Session

variable {σ CM T : Type} (s : Session σ CM T)

/-- The `loop` of `load_balanced_connection`, given `fuel` attempts: `none` when it has not
returned after them, else what it returns and the balancer's state. -/
def connectLoop : Nat → σ → Option (Option (Except Error T) × σ)
  | 0, _ => none
  | fuel + 1, st =>
    match s.loadBalancing.next st with
    | (none, st) => some (none, st)
    | (some connectionManager, st) =>
      match s.connection connectionManager .never with
      | .ok connection => some (some (.ok connection), st)
      | .error _ => connectLoop fuel st

/-- `Session::load_balanced_connection`, its loop given `fuel` attempts. -/
def loadBalancedConnection (fuel : Nat) (st : σ) : Option (Option (Except Error T) × σ) :=
  let (connectionManager, st) :=
    if s.loadBalancing.size < 2 then s.loadBalancing.next st else (none, st)
  match connectionManager with
  | some connectionManager => some (some (s.connection connectionManager .session), st)
  | none => s.connectLoop fuel st

theorem loadBalancedConnection_of_two_le {fuel : Nat} {st : σ} (h : 2 ≤ s.loadBalancing.size) :
    s.loadBalancedConnection fuel st = s.connectLoop fuel st := by
  simp [loadBalancedConnection, Nat.not_lt.mpr h]

/-! ## One attempt of the loop -/

section Attempt

variable {fuel : Nat} {st : σ} {cm : CM}

theorem connectLoop_exhausted (hnext : (s.loadBalancing.next st).1 = none) :
    s.connectLoop (fuel + 1) st = some (none, (s.loadBalancing.next st).2) := by
  rcases hn : s.loadBalancing.next st with ⟨_ | _, _⟩ <;> simp_all [connectLoop]

theorem connectLoop_connect {c : T} (hnext : (s.loadBalancing.next st).1 = some cm)
    (hconn : s.connection cm .never = .ok c) :
    s.connectLoop (fuel + 1) st = some (some (.ok c), (s.loadBalancing.next st).2) := by
  rcases hn : s.loadBalancing.next st with ⟨_ | _, _⟩ <;> simp_all [connectLoop]

theorem connectLoop_refuse {e : Error} (hnext : (s.loadBalancing.next st).1 = some cm)
    (hconn : s.connection cm .never = .error e) :
    s.connectLoop (fuel + 1) st = s.connectLoop fuel (s.loadBalancing.next st).2 := by
  rcases hn : s.loadBalancing.next st with ⟨_ | _, _⟩ <;> simp_all [connectLoop]

end Attempt

/-! ## Whole runs of the loop -/

/-- When every manager handed out refuses, the loop never returns. -/
theorem connectLoop_refused
    (h : ∀ st, ∃ cm e, (s.loadBalancing.next st).1 = some cm ∧ s.connection cm .never = .error e)
    (fuel : Nat) (st : σ) : s.connectLoop fuel st = none := by
  induction fuel generalizing st with
  | zero => rfl
  | succ fuel ih =>
    obtain ⟨cm, e, hnext, hconn⟩ := h st
    rw [connectLoop_refuse s hnext hconn, ih]

/-- When the first `k` managers handed out refuse and the next one connects, the loop returns
that connection once it is given more than `k` attempts. -/
theorem connectLoop_first {k : Nat} {st : σ} {cm : CM} {c : T}
    (hrefused : ∀ j < k, ∃ cm' e, s.loadBalancing.nth j st = some cm' ∧
      s.connection cm' .never = .error e)
    (hnth : s.loadBalancing.nth k st = some cm) (hconn : s.connection cm .never = .ok c)
    {fuel : Nat} (hfuel : k < fuel) :
    s.connectLoop fuel st = some (some (.ok c), s.loadBalancing.after (k + 1) st) := by
  obtain ⟨fuel, rfl⟩ : ∃ f, fuel = f + 1 := ⟨fuel - 1, by omega⟩
  induction k generalizing st fuel with
  | zero => exact connectLoop_connect s hnth hconn
  | succ k ih =>
    obtain ⟨cm', e, hnth', hconn'⟩ := hrefused 0 (by omega)
    obtain ⟨fuel, rfl⟩ : ∃ f, fuel = f + 1 := ⟨fuel - 1, by omega⟩
    rw [LoadBalancing.nth_zero] at hnth'
    rw [connectLoop_refuse s hnth' hconn']
    exact ih (fun j hj => hrefused (j + 1) (by omega)) hnth fuel (by omega)

/-- The loop's only results are a connection and `None`: a refusal is never returned. -/
theorem connectLoop_result {fuel : Nat} {st st' : σ} {r : Option (Except Error T)}
    (h : s.connectLoop fuel st = some (r, st')) : r = none ∨ ∃ c, r = some (.ok c) := by
  induction fuel generalizing st with
  | zero => cases h
  | succ fuel ih =>
    rcases hn : s.loadBalancing.next st with ⟨_ | cm, st''⟩
    · rw [connectLoop_exhausted s (by simp [hn])] at h
      exact .inl (Prod.mk.inj (Option.some.inj h)).1.symm
    · rcases hconn : s.connection cm .never with e | c
      · rw [connectLoop_refuse s (by simp [hn]) hconn] at h
        exact ih h
      · rw [connectLoop_connect s (by simp [hn]) hconn] at h
        exact .inr ⟨c, (Prod.mk.inj (Option.some.inj h)).1.symm⟩

/-- Two nodes in round-robin, the first refusing: the loop passes it and returns the second's
connection at the second attempt. -/
theorem connectLoop_result_second :
    (Session.mk (roundRobin [0, 1]) fun cm _ => if cm = 1 then .ok () else .error .io :
        Session Nat Nat Unit).connectLoop 2 0 = some (some (.ok ()), 2) ∧
      ((some (.ok ()) : Option (Except Error Unit)) = none ∨
        ∃ c : Unit, (some (.ok ()) : Option (Except Error Unit)) = some (.ok c)) :=
  have h : (Session.mk (roundRobin [0, 1]) fun cm _ => if cm = 1 then .ok () else .error .io :
      Session Nat Nat Unit).connectLoop 2 0 = some (some (.ok ()), 2) := rfl
  ⟨h, connectLoop_result _ h⟩

/-- What the loop's result says of the calls of `next` it made: it stopped at the `k`-th, which
handed out no manager, or a manager whose attempt under `NEVER_RECONNECTION_POLICY` connected. -/
theorem connectLoop_sound {fuel : Nat} {st st' : σ} {r : Option (Except Error T)}
    (h : s.connectLoop fuel st = some (r, st')) :
    ∃ k, st' = s.loadBalancing.after (k + 1) st ∧
      ((r = none ∧ s.loadBalancing.nth k st = none) ∨
        ∃ cm c, r = some (.ok c) ∧ s.loadBalancing.nth k st = some cm ∧
          s.connection cm .never = .ok c) := by
  induction fuel generalizing st with
  | zero => cases h
  | succ fuel ih =>
    rcases hn : s.loadBalancing.next st with ⟨_ | cm, st''⟩
    · rw [connectLoop_exhausted s (by simp [hn])] at h
      obtain ⟨rfl, rfl⟩ := Prod.mk.inj (Option.some.inj h)
      exact ⟨0, rfl, .inl ⟨rfl, by simp [hn]⟩⟩
    · rcases hconn : s.connection cm .never with e | c
      · rw [connectLoop_refuse s (by simp [hn]) hconn] at h
        obtain ⟨k, rfl, hr⟩ := ih h
        exact ⟨k + 1, rfl, hr⟩
      · rw [connectLoop_connect s (by simp [hn]) hconn] at h
        obtain ⟨rfl, rfl⟩ := Prod.mk.inj (Option.some.inj h)
        exact ⟨0, rfl, .inr ⟨cm, c, rfl, by simp [hn], hconn⟩⟩

/-- **What each result of `load_balanced_connection` means.** Whatever the balancer, the
outcomes of the attempts and the bound on the loop: an error comes only from the path for fewer
than two nodes, as the session policy's outcome for the manager `next()` handed out; `None` comes
only after a call of `next()` handed out none; and a connection comes from a manager that a call
of `next()` handed out and that connected under `NEVER_RECONNECTION_POLICY` or, with fewer than
two nodes, under the session's policy. In every case the balancer has moved past that call. -/
theorem loadBalancedConnection_sound {fuel : Nat} {st st' : σ} {r : Option (Except Error T)}
    (h : s.loadBalancedConnection fuel st = some (r, st')) :
    (∀ e, r = some (.error e) → s.loadBalancing.size < 2 ∧
      ∃ cm, s.loadBalancing.next st = (some cm, st') ∧ s.connection cm .session = .error e) ∧
    (r = none → ∃ k, s.loadBalancing.nth k st = none ∧ st' = s.loadBalancing.after (k + 1) st) ∧
    (∀ c, r = some (.ok c) → ∃ k cm, s.loadBalancing.nth k st = some cm ∧
      st' = s.loadBalancing.after (k + 1) st ∧
      (s.connection cm .never = .ok c ∨
        s.loadBalancing.size < 2 ∧ s.connection cm .session = .ok c)) := by
  by_cases hsize : s.loadBalancing.size < 2
  · simp only [loadBalancedConnection, if_pos hsize] at h
    rcases hn : s.loadBalancing.next st with ⟨_ | cm, st₁⟩
    · simp only [hn] at h
      obtain ⟨k, rfl, hr⟩ := s.connectLoop_sound h
      have hnth : ∀ k, s.loadBalancing.nth (k + 1) st = s.loadBalancing.nth k st₁ := by
        simp [LoadBalancing.nth, LoadBalancing.after_succ, hn]
      have hafter : s.loadBalancing.after (k + 1 + 1) st = s.loadBalancing.after (k + 1) st₁ := by
        simp [LoadBalancing.after_succ, hn]
      rcases hr with ⟨rfl, hk⟩ | ⟨cm, c, rfl, hk, hc⟩
      · exact ⟨by simp, fun _ => ⟨k + 1, by rw [hnth, hk], hafter.symm⟩, by simp⟩
      · refine ⟨by simp, by simp, ?_⟩
        rintro c' ⟨⟩
        exact ⟨k + 1, cm, by rw [hnth, hk], hafter.symm, .inl hc⟩
    · simp only [hn, Option.some.injEq, Prod.mk.injEq] at h
      obtain ⟨rfl, rfl⟩ := h
      refine ⟨fun e he => ⟨hsize, cm, rfl, Option.some.inj he⟩, by simp, fun c hc => ?_⟩
      exact ⟨0, cm, by simp [hn], by simp [LoadBalancing.after_succ, hn],
        .inr ⟨hsize, Option.some.inj hc⟩⟩
  · rw [loadBalancedConnection_of_two_le s (by omega)] at h
    obtain ⟨k, rfl, hr⟩ := s.connectLoop_sound h
    rcases hr with ⟨rfl, hk⟩ | ⟨cm, c, rfl, hk, hc⟩
    · exact ⟨by simp, fun _ => ⟨k, hk, rfl⟩, by simp⟩
    · refine ⟨by simp, by simp, ?_⟩
      rintro c' ⟨⟩
      exact ⟨k, cm, hk, rfl, .inl hc⟩

/-- One node, refusing under the session's policy: the call surfaces its error. -/
theorem loadBalancedConnection_sound_single :
    (Session.mk (roundRobin [0]) fun _ _ => .error .io :
        Session Nat Nat Unit).loadBalancedConnection 0 0 = some (some (.error .io), 1) ∧
      (roundRobin [0]).size < 2 ∧ ∃ cm, (roundRobin [0]).next 0 = (some cm, 1) ∧
        (Session.mk (roundRobin [0]) fun _ _ => .error .io :
          Session Nat Nat Unit).connection cm .session = .error .io :=
  have h : (Session.mk (roundRobin [0]) fun _ _ => .error .io :
      Session Nat Nat Unit).loadBalancedConnection 0 0 = some (some (.error .io), 1) := rfl
  ⟨h, (loadBalancedConnection_sound _ h).1 _ rfl⟩

section Fair

variable {nodes : List CM} (hfair : s.loadBalancing.Fair nodes) (hnodup : nodes.Nodup)
include hfair hnodup

/-- Over a fair balancer, the loop never returns when every node refuses. -/
theorem connectLoop_fair_refused (hne : 0 < nodes.length)
    (hall : ∀ cm ∈ nodes, ∃ e, s.connection cm .never = .error e) (fuel : Nat) (st : σ) :
    s.connectLoop fuel st = none := by
  refine s.connectLoop_refused (fun st => ?_) fuel st
  obtain ⟨cm, hcm, hnth⟩ := hfair.nth_mem hnodup st hne
  obtain ⟨e, he⟩ := hall cm hcm
  exact ⟨cm, e, hnth, he⟩

/-- Over a fair balancer, when some node connects, the first one in `next()` order comes within
`nodes.length` calls, and the loop returns its connection. -/
theorem connectLoop_fair_first (hsome : ∃ cm ∈ nodes, ∃ c, s.connection cm .never = .ok c)
    (st : σ) :
    ∃ k < nodes.length, ∃ cm c, s.loadBalancing.nth k st = some cm ∧
      s.connection cm .never = .ok c ∧
      (∀ j < k, ∃ cm' e, s.loadBalancing.nth j st = some cm' ∧
        s.connection cm' .never = .error e) ∧
      ∀ fuel, k < fuel →
        s.connectLoop fuel st = some (some (.ok c), s.loadBalancing.after (k + 1) st) := by
  classical
  let Connects k := k < nodes.length ∧
    ∃ cm c, s.loadBalancing.nth k st = some cm ∧ s.connection cm .never = .ok c
  have hex : ∃ k, Connects k := by
    obtain ⟨cm, hcm, c, hc⟩ := hsome
    obtain ⟨k, hk, hnth⟩ := hfair st cm hcm
    exact ⟨k, hk, cm, c, hnth, hc⟩
  obtain ⟨hk, cm, c, hnth, hconn⟩ := Nat.find_spec hex
  have hrefused : ∀ j < Nat.find hex, ∃ cm' e, s.loadBalancing.nth j st = some cm' ∧
      s.connection cm' .never = .error e := by
    intro j hj
    obtain ⟨cm', -, hnth'⟩ := hfair.nth_mem hnodup st (hj.trans hk)
    rcases hconn' : s.connection cm' .never with e | c'
    · exact ⟨cm', e, hnth', hconn'⟩
    · exact absurd ⟨hj.trans hk, cm', c', hnth', hconn'⟩ (Nat.find_min hex hj)
  exact ⟨_, hk, cm, c, hnth, hconn, hrefused, fun _ => s.connectLoop_first hrefused hnth hconn⟩

end Fair

/-- **`load_balanced_connection` over a fair balancer.** Over `n ≥ 2` distinct nodes, each
handed out within any `n` consecutive calls: when some node connects under the `Never` policy,
the call returns `Some(Ok(c))` from the first such node in `next()` order, the `k`-th with
`k < n`, once the loop is given its `k + 1` attempts; when every node refuses, the call never
returns. -/
theorem loadBalancedConnection_fair (s : Session σ CM T) (nodes : List CM) (hnodup : nodes.Nodup)
    (hsize : s.loadBalancing.size = nodes.length) (htwo : 2 ≤ nodes.length)
    (hfair : s.loadBalancing.Fair nodes) (st : σ) :
    ((∃ cm ∈ nodes, ∃ c, s.connection cm .never = .ok c) →
      ∃ k < nodes.length, ∃ cm c, s.loadBalancing.nth k st = some cm ∧
        s.connection cm .never = .ok c ∧
        (∀ j < k, ∃ cm' e, s.loadBalancing.nth j st = some cm' ∧
          s.connection cm' .never = .error e) ∧
        ∀ fuel, k < fuel → s.loadBalancedConnection fuel st =
          some (some (.ok c), s.loadBalancing.after (k + 1) st)) ∧
    ((∀ cm ∈ nodes, ∃ e, s.connection cm .never = .error e) →
      ∀ fuel, s.loadBalancedConnection fuel st = none) := by
  have hloop fuel : s.loadBalancedConnection fuel st = s.connectLoop fuel st :=
    s.loadBalancedConnection_of_two_le (hsize ▸ htwo)
  simp only [hloop]
  exact ⟨fun hsome => s.connectLoop_fair_first hfair hnodup hsome st,
    fun hall fuel => s.connectLoop_fair_refused hfair hnodup (by omega) hall fuel st⟩

/-- Three nodes in round-robin, of which only the last accepts: the call returns its connection
within three attempts. -/
theorem loadBalancedConnection_fair_lastUp :
    [0, 1, 2].Nodup ∧ (roundRobin [0, 1, 2]).Fair [0, 1, 2] ∧
      ∃ k < 3, ∀ fuel, k < fuel →
        (Session.mk (roundRobin [0, 1, 2]) fun cm _ => if cm = 2 then .ok () else .error .io :
          Session Nat Nat Unit).loadBalancedConnection fuel 0 =
          some (some (.ok ()), (roundRobin [0, 1, 2]).after (k + 1) 0) := by
  obtain ⟨k, hk, -, ⟨⟩, -, -, -, hrun⟩ := (loadBalancedConnection_fair
    (Session.mk (roundRobin [0, 1, 2]) fun cm _ => if cm = 2 then .ok () else .error .io)
    [0, 1, 2] (by decide) rfl (by decide) (roundRobin_fair _) 0).1 ⟨2, by decide, (), if_pos rfl⟩
  exact ⟨by decide, roundRobin_fair _, k, hk, hrun⟩

/-- Two nodes in round-robin, both refusing: the balancer is fair, and the call never returns,
from any counter. -/
theorem loadBalancedConnection_refused_forever :
    [0, 1].Nodup ∧ (roundRobin [0, 1]).Fair [0, 1] ∧
      ∀ fuel counter, (Session.mk (roundRobin [0, 1]) fun _ _ => .error .io :
        Session Nat Nat Unit).loadBalancedConnection fuel counter = none := by
  refine ⟨by decide, roundRobin_fair _, fun fuel counter => ?_⟩
  rw [loadBalancedConnection_of_two_le _ (by decide)]
  exact connectLoop_fair_refused _ (roundRobin_fair _) (by decide) (by decide)
    (fun _ _ => ⟨.io, rfl⟩) fuel counter

end Session

end CdrsTokio
