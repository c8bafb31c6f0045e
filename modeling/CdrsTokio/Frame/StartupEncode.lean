import CdrsTokio.Frame.Startup

/-!
# The STARTUP body on the wire

The spec's `[string map]` is "2-byte count then that many `[string][string]` pairs", with
`[string]` a `[short]`-prefixed UTF-8 string. `Spec.IsStringMap l bytes` says that `bytes`
encodes the listing `l` so: every length field spells, big-endian, the number it stands for.
`serialize` writes such an encoding of the map for any order the map iterates in, once the count
and every string fit a signed `[short]`; below that bound the casts to `CIntShort` lose nothing.

## Main definitions

* `Spec.IsShort`, `Spec.IsString`, `Spec.IsPairs`, `Spec.IsStringMap`: the spec's layouts
* `Spec.IsStringMapOf m`: a `[string map]` of some listing of the map `m`

## Main results

* `BodyReqStartup.serialize_eq`: the bytes `serialize` appends, in iteration order
* `BodyReqStartup.serializeToVec_stringMap`: every iteration of every map within the bound is
  serialized as a `[string map]` of it, of the expected length, and the STARTUP frame's body is
  the `[string map]` of `CQL_VERSION` and the compression option
-/

namespace CdrsTokio

namespace Spec

/-- `[short]` of `n`: two bytes, most significant first, whose value is `n`. -/
def IsShort (n : Nat) (bytes : List UInt8) : Prop :=
  bytes.length = 2 ∧ beNat bytes = n

/-- `[string]` of `s`: a `[short]` of its byte length, then its UTF-8 bytes. -/
def IsString (s : Str) (bytes : List UInt8) : Prop :=
  IsShort s.len (bytes.take 2) ∧ bytes.drop 2 = s.bytes

/-- The pairs of a `[string map]` listing `l`: each entry's key `[string]`, then its value's. -/
inductive IsPairs : List (Σ _ : Str, Str) → List UInt8 → Prop
  | nil : IsPairs [] []
  | cons {e : Σ _ : Str, Str} {l : List (Σ _ : Str, Str)} {k v rest : List UInt8} :
      IsString e.1 k → IsString e.2 v → IsPairs l rest → IsPairs (e :: l) (k ++ v ++ rest)

/-- `[string map]` listing `l`: a `[short]` count, then the pairs. -/
def IsStringMap (l : List (Σ _ : Str, Str)) (bytes : List UInt8) : Prop :=
  IsShort l.length (bytes.take 2) ∧ IsPairs l (bytes.drop 2)

/-- A `[string map]` of the map `m`: of a listing of its entries, each once. -/
def IsStringMapOf (m : StringMap) (bytes : List UInt8) : Prop :=
  ∃ l : List (Σ _ : Str, Str), (l : Multiset _) = m.entries ∧ IsStringMap l bytes

end Spec

/-- The bytes `serialize_str` appends for `s`. -/
def strBytes (s : Str) : List UInt8 := UInt8.ofNat (s.len / 256) :: UInt8.ofNat s.len :: s.bytes

theorem strBytes_length (s : Str) : (strBytes s).length = s.len + 2 := by
  simp [strBytes, Str.len]

theorem isShort_of_lt {n : Nat} (h : n < 2 ^ 16) :
    Spec.IsShort n [UInt8.ofNat (n / 256), UInt8.ofNat n] :=
  ⟨rfl, by rw [beNat_short, Nat.mod_eq_of_lt h]⟩

theorem isString_strBytes {s : Str} (h : s.len < 2 ^ 16) : Spec.IsString s (strBytes s) :=
  ⟨isShort_of_lt h, rfl⟩

/-- The bytes the loop of `serialize` appends for the listing `l`. -/
def pairBytes (l : List (Σ _ : Str, Str)) : List UInt8 :=
  l.flatMap fun e => strBytes e.1 ++ strBytes e.2

@[simp] theorem pairBytes_nil : pairBytes [] = [] := rfl

@[simp] theorem pairBytes_cons (e : Σ _ : Str, Str) (l : List (Σ _ : Str, Str)) :
    pairBytes (e :: l) = strBytes e.1 ++ strBytes e.2 ++ pairBytes l := by
  simp [pairBytes]

theorem isPairs_pairBytes {l : List (Σ _ : Str, Str)}
    (h : ∀ e ∈ l, e.1.len < 2 ^ 16 ∧ e.2.len < 2 ^ 16) : Spec.IsPairs l (pairBytes l) := by
  induction l with
  | nil => exact .nil
  | cons e l ih =>
    have he := h e (List.mem_cons_self _ _)
    exact .cons (isString_strBytes he.1) (isString_strBytes he.2)
      (ih fun e' h' => h e' (List.mem_cons_of_mem _ h'))

theorem pairBytes_length (l : List (Σ _ : Str, Str)) :
    (pairBytes l).length = (l.map fun e => 4 + e.1.len + e.2.len).sum := by
  induction l with
  | nil => rfl
  | cons e l ih =>
    rw [pairBytes_cons, List.length_append, List.length_append, strBytes_length, strBytes_length,
      ih, List.map_cons, List.sum_cons]
    omega

namespace BodyReqStartup

open Startup

theorem foldl_serializeStr (l : List (Σ _ : Str, Str)) (cursor : List UInt8) :
    l.foldl (fun cursor e => serializeStr (serializeStr cursor e.1) e.2) cursor =
      cursor ++ pairBytes l := by
  induction l generalizing cursor with
  | nil => simp [pairBytes]
  | cons e l ih =>
    rw [List.foldl_cons, ih, pairBytes_cons]
    simp [serializeStr_eq, strBytes]

/-- What `serialize` appends: the count's two bytes, then key and value of each entry in
iteration order. -/
theorem serialize_eq (b : BodyReqStartup) (it : StringMap.Iter b.map) (cursor : List UInt8) :
    b.serialize it cursor =
      cursor ++ [UInt8.ofNat (b.map.len / 256), UInt8.ofNat b.map.len] ++ pairBytes it.toList := by
  rw [serialize, foldl_serializeStr, CIntShort.serialize_ofUsize, CIntShort.serialize]

/-- Scenario A of the spec: the 22-byte body of a session without compression. -/
example : (new none).serializeToVec ⟨_, rfl⟩ = [0, 1, 0, 11, 0x43, 0x51, 0x4C, 0x5F, 0x56, 0x45,
    0x52, 0x53, 0x49, 0x4F, 0x4E, 0, 5, 0x33, 0x2E, 0x30, 0x2E, 0x30] := by decide

theorem mem_iter {m : StringMap} (it : StringMap.Iter m) {e : Σ _ : Str, Str} :
    e ∈ it.toList ↔ e ∈ m.entries := by
  rw [← it.perm, Multiset.mem_coe]

theorem serializeToVec_isStringMap (b : BodyReqStartup) (it : StringMap.Iter b.map)
    (hlen : b.map.len ≤ 32767) (hstr : ∀ e ∈ b.map.entries, e.1.len ≤ 32767 ∧ e.2.len ≤ 32767) :
    Spec.IsStringMap it.toList (b.serializeToVec it) := by
  simp only [serializeToVec, serialize_eq, List.nil_append, Spec.IsStringMap, it.length,
    List.cons_append, List.take_succ_cons, List.take_zero, List.drop_succ_cons, List.drop_zero]
  refine ⟨isShort_of_lt (by omega), isPairs_pairBytes fun e he => ?_⟩
  have := hstr e ((mem_iter it).mp he)
  omega

theorem serializeToVec_length (b : BodyReqStartup) (it : StringMap.Iter b.map) :
    (b.serializeToVec it).length = 2 + (it.toList.map fun e => 4 + e.1.len + e.2.len).sum := by
  rw [serializeToVec, serialize_eq, List.nil_append, List.length_append, pairBytes_length]
  rfl

theorem new_entries_some (c : Str) :
    (new (some c)).map.entries = ⟨compression, c⟩ ::ₘ {⟨cqlVersion, cqlVersionVal⟩} := by
  rw [new_some, Finmap.insert_entries_of_neg]
  · rfl
  · simp [Finmap.mem_insert, cqlVersion_ne_compression.symm, Finmap.not_mem_empty]

theorem new_bounds (c : Option Str) (hc : ∀ c' ∈ c, c'.len ≤ 32767) :
    (new c).map.len ≤ 32767 ∧
      ∀ e ∈ (new c).map.entries, e.1.len ≤ 32767 ∧ e.2.len ≤ 32767 := by
  cases c with
  | none => exact ⟨by decide, by decide⟩
  | some c =>
    have h := hc c rfl
    refine ⟨by rw [StringMap.len, new_entries_some]; simp, fun e he => ?_⟩
    rw [new_entries_some, Multiset.mem_cons, Multiset.mem_singleton] at he
    rcases he with rfl | rfl
    · exact ⟨(by decide : compression.len ≤ 32767), h⟩
    · decide

theorem new_lookup (c : Option Str) :
    (new c).map.lookup cqlVersion = some cqlVersionVal ∧ (new c).map.lookup compression = c ∧
      ∀ k ∈ (new c).map, k = cqlVersion ∨ k = compression := by
  cases c with
  | none =>
    simp [Finmap.lookup_insert_of_ne _ cqlVersion_ne_compression.symm, Finmap.mem_insert,
      Finmap.not_mem_empty]
  | some c =>
    simp only [new_some, Finmap.lookup_insert, Finmap.mem_insert, Finmap.not_mem_empty,
      Finmap.lookup_insert_of_ne _ cqlVersion_ne_compression, or_false, true_and]
    exact fun k hk => hk.symm

/-- **The STARTUP body is the spec's `[string map]`.** For every body whose map has at most
32767 entries and strings of at most 32767 bytes, and every order its map iterates in,
`serialize_to_vec` writes a `[string map]` listing each entry of the map exactly once, of
`2 + Σ (4 + |k| + |v|)` bytes. So the body of every STARTUP frame is the `[string map]` of
`CQL_VERSION ↦ 3.0.0`, with `COMPRESSION ↦ c'` exactly when the option is `some c'`. -/
theorem serializeToVec_stringMap :
    (∀ (b : BodyReqStartup) (it : StringMap.Iter b.map), b.map.len ≤ 32767 →
      (∀ e ∈ b.map.entries, e.1.len ≤ 32767 ∧ e.2.len ≤ 32767) →
      (it.toList : Multiset _) = b.map.entries ∧ Spec.IsStringMap it.toList (b.serializeToVec it) ∧
      (b.serializeToVec it).length = 2 + (it.toList.map fun e => 4 + e.1.len + e.2.len).sum) ∧
    (∀ (c : Option Str) (v : Version) (it : StringMap.Iter (new c).map),
      (∀ c' ∈ c, c'.len ≤ 32767) →
      ∃ m, Spec.IsStringMapOf m (Frame.newReqStartup c v it).body ∧
        m.lookup cqlVersion = some cqlVersionVal ∧ m.lookup compression = c ∧
        ∀ k ∈ m, k = cqlVersion ∨ k = compression) := by
  refine ⟨fun b it hlen hstr =>
    ⟨it.perm, serializeToVec_isStringMap b it hlen hstr, serializeToVec_length b it⟩,
    fun c v it hc => ⟨(new c).map, ⟨it.toList, it.perm, ?_⟩, new_lookup c⟩⟩
  obtain ⟨hlen, hstr⟩ := new_bounds c hc
  exact serializeToVec_isStringMap _ it hlen hstr

/-- The body without compression, and the frame of a session compressing with `lz4`, its map
iterated `COMPRESSION` first. -/
theorem serializeToVec_stringMap_lz4 :
    ((new none).map.len ≤ 32767 ∧
      (∀ e ∈ (new none).map.entries, e.1.len ≤ 32767 ∧ e.2.len ≤ 32767) ∧
      Spec.IsStringMap [⟨cqlVersion, cqlVersionVal⟩] ((new none).serializeToVec ⟨_, rfl⟩)) ∧
    (∀ c' ∈ some (Str.ofString "lz4"), c'.len ≤ 32767) ∧
      ∃ m, Spec.IsStringMapOf m (Frame.newReqStartup (some (.ofString "lz4")) .v4
        ⟨[⟨compression, .ofString "lz4"⟩, ⟨cqlVersion, cqlVersionVal⟩],
          (new_entries_some _).symm⟩).body ∧
        m.lookup compression = some (.ofString "lz4") :=
  have h₁ : (new none).map.len ≤ 32767 := by decide
  have h₂ : ∀ e ∈ (new none).map.entries, e.1.len ≤ 32767 ∧ e.2.len ≤ 32767 := by decide
  have h₃ : ∀ c' ∈ some (Str.ofString "lz4"), c'.len ≤ 32767 := by decide
  have frame := serializeToVec_stringMap.2 _ .v4
    ⟨[⟨compression, .ofString "lz4"⟩, ⟨cqlVersion, cqlVersionVal⟩], (new_entries_some _).symm⟩ h₃
  ⟨⟨h₁, h₂, (serializeToVec_stringMap.1 _ ⟨_, rfl⟩ h₁ h₂).2.1⟩, h₃,
    frame.imp fun _ h => ⟨h.1, h.2.2.1⟩⟩

end BodyReqStartup

end CdrsTokio
