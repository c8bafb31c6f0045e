import CdrsTokio.Frame.StartupEncode

/-!
# Decoding a STARTUP body

`from_cursor` reads the entry count with `CInt::from_cursor`, four bytes, where `serialize`
writes, and the spec's `[string map]` prescribes, the two bytes of a `CIntShort`. Every entry
costs at least four bytes, so the count it reads, the two count bytes followed by the first key's
length, asks for more entries than the rest of the body can hold: the decoder never reads back
what the encoder wrote. Read with the spec's two-byte count, the same loop gives every body back.

The count also sizes the table before any entry is read. `num as usize` wraps a negative count
to more than `2 ^ 63` entries, which no allocator of a 64-bit target reserves: the program stops.

## Main definitions

* `BodyReqStartup.fromCursorShort`: the spec's reading, the count as a `[short]`

## Main results

* `BodyReqStartup.readEntries_length`: each entry the loop reads consumes at least four bytes
* `BodyReqStartup.fromCursor_serializeToVec_ne_ok`: `from_cursor` fails on every body `serialize`
  writes
* `BodyReqStartup.fromCursorShort_serializeToVec`: the spec's reading round-trips every body
* `BodyReqStartup.fromCursor_negative_count`: a count with its sign bit set stops the program
* `BodyReqStartup.fromCursor_ok_count`: any accepted count fits the bytes that follow it
-/

namespace CdrsTokio

namespace BodyReqStartup

open Startup

/-! ## The loop -/

/-- Each entry the loop reads consumes its two strings' length bytes at least. -/
theorem readEntries_length {n : Nat} {m m' : StringMap} {cursor rest : List UInt8}
    (h : readEntries n m cursor = some (.ok (m', rest))) :
    rest.length + 4 * n ≤ cursor.length := by
  induction n generalizing m cursor with
  | zero =>
    cases h
    omega
  | succ n ih =>
    obtain ⟨⟨_, after⟩, hkey, h⟩ := tryBind_eq_some_ok h
    obtain ⟨⟨_, after'⟩, hval, h⟩ := tryBind_eq_some_ok h
    have := fromCursorStr_length hkey
    have := fromCursorStr_length hval
    have := ih h
    omega

theorem serializeStr_nil (s : Str) : serializeStr [] s = strBytes s := by
  rw [serializeStr_eq, List.nil_append, strBytes]

/-- The loop reads back the pairs `serialize` writes, inserting them in order. -/
theorem readEntries_pairBytes (l : List (Σ _ : Str, Str)) (m : StringMap) (rest : List UInt8)
    (h : ∀ e ∈ l, e.1.len < 2 ^ 15 ∧ e.2.len < 2 ^ 15) :
    readEntries l.length m (pairBytes l ++ rest) = some (.ok (m.insertAll l, rest)) := by
  induction l generalizing m with
  | nil => rfl
  | cons e l ih =>
    have he := h e (List.mem_cons_self _ _)
    have key := fromCursorStr_serializeStr e.1 (strBytes e.2 ++ (pairBytes l ++ rest)) he.1
    have val := fromCursorStr_serializeStr e.2 (pairBytes l ++ rest) he.2
    rw [serializeStr_nil] at key val
    rw [pairBytes_cons, List.append_assoc, List.append_assoc, List.length_cons, readEntries]
    simp only [List.append_assoc, key, val, tryBind_ok]
    exact ih (m.insert e.1 e.2) fun e' h' => h e' (List.mem_cons_of_mem _ h')

/-- What a successful `from_cursor` did: read a count, reserve the table, read that many
entries. -/
theorem fromCursor_eq_some_ok {limit : Nat} {cursor : List UInt8}
    {r : BodyReqStartup × List UInt8} (h : fromCursor limit cursor = some (.ok r)) :
    ∃ num after map, CInt.fromCursor cursor = .ok (num, after) ∧
      StringMap.withCapacity limit (asUsize num) = some map ∧
      readEntries num.toNat map after = some (.ok (r.1.map, r.2)) := by
  unfold fromCursor at h
  split at h
  · cases h
  · rename_i num after hread
    obtain ⟨map, hcap, hmap⟩ := Option.bind_eq_some.mp h
    obtain ⟨⟨m', rest⟩, hentries, hr⟩ := tryBind_eq_some_ok hmap
    cases hr
    exact ⟨num, after, map, hread, hcap, hentries⟩

/-! ## The count `from_cursor` reads -/

theorem beNat_quad (a b c d : UInt8) :
    beNat [a, b, c, d] = a.toNat * 2 ^ 24 + b.toNat * 2 ^ 16 + c.toNat * 2 ^ 8 + d.toNat := by
  simp only [beNat, List.foldl]
  omega

/-- `from_cursor`'s count over a serialized non-empty map: the count `c` shifted past the first
key's length `k`. -/
theorem ofBeBytes_header {c k : Nat} (hc : c < 2 ^ 15) (hk : k < 2 ^ 16) :
    CInt.ofBeBytes [UInt8.ofNat (c / 256), UInt8.ofNat c, UInt8.ofNat (k / 256), UInt8.ofNat k] =
      c * 2 ^ 16 + k := by
  have h : beNat [UInt8.ofNat (c / 256), UInt8.ofNat c, UInt8.ofNat (k / 256), UInt8.ofNat k] =
      c * 2 ^ 16 + k := by
    rw [beNat_quad]
    show c / 256 % 256 * 2 ^ 24 + c % 256 * 2 ^ 16 + k / 256 % 256 * 2 ^ 8 + k % 256 = _
    omega
  rw [CInt.ofBeBytes, h, if_pos (by omega)]
  omega

theorem pairBytes_length_le {l : List (Σ _ : Str, Str)}
    (h : ∀ e ∈ l, e.1.len ≤ 32767 ∧ e.2.len ≤ 32767) : (pairBytes l).length ≤ l.length * 65538 := by
  induction l with
  | nil => simp [pairBytes]
  | cons e l ih =>
    have he := h e (List.mem_cons_self _ _)
    have hl := ih fun e' h' => h e' (List.mem_cons_of_mem _ h')
    simp only [pairBytes, List.flatMap_cons, List.length_append, strBytes_length,
      List.length_cons] at hl ⊢
    omega

/-- **`from_cursor` never reads back what `serialize` writes.** On the bytes of every body within
the `[short]` bounds, in every iteration order and for every allocator, `from_cursor` returns an
error or stops the program; it never returns a body. -/
theorem fromCursor_serializeToVec_ne_ok (limit : Nat) (b : BodyReqStartup)
    (it : StringMap.Iter b.map) (hlen : b.map.len ≤ 32767)
    (hstr : ∀ e ∈ b.map.entries, e.1.len ≤ 32767 ∧ e.2.len ≤ 32767)
    (r : BodyReqStartup × List UInt8) :
    fromCursor limit (b.serializeToVec it) ≠ some (.ok r) := by
  have bounds : ∀ e ∈ it.toList, e.1.len ≤ 32767 ∧ e.2.len ≤ 32767 :=
    fun e he => hstr e ((mem_iter it).mp he)
  have count := it.length
  rw [serializeToVec, serialize_eq, List.nil_append]
  generalize it.toList = l at bounds count
  intro h
  obtain ⟨num, after, map, hread, -, hentries⟩ := fromCursor_eq_some_ok h
  have consumed := readEntries_length hentries
  cases l with
  | nil =>
    rw [pairBytes_nil, List.append_nil, CInt.fromCursor, readExact_of_lt (by simp)] at hread
    cases hread
  | cons e l =>
    have he := bounds e (List.mem_cons_self _ _)
    have hl := pairBytes_length_le fun e' h' => bounds e' (List.mem_cons_of_mem _ h')
    simp only [pairBytes_cons, strBytes, List.cons_append, List.nil_append, List.append_assoc,
      CInt.fromCursor_quad, ofBeBytes_header (by omega : b.map.len < 2 ^ 15)
        (by omega : e.1.len < 2 ^ 16), Except.ok.injEq, Prod.mk.injEq] at hread
    obtain ⟨rfl, rfl⟩ := hread
    simp only [List.length_append, List.length_cons, Int.toNat_ofNat] at consumed count
    rw [← count] at consumed
    have : e.1.bytes.length = e.1.len := rfl
    have : e.2.bytes.length = e.2.len := rfl
    omega

/-- The 22 bytes of a body without compression: the count `00 01 00 0B` is `65547`, and the
first key's length is read from `CQ` as `17233`, past the 16 bytes left: the slice panics. -/
example : fromCursor 65547 ((new none).serializeToVec ⟨_, rfl⟩) = none := by rfl

/-- The body of a session without compression, with an allocator that reserves the count. -/
theorem fromCursor_serializeToVec_startup :
    (new none).map.len ≤ 32767 ∧
      (∀ e ∈ (new none).map.entries, e.1.len ≤ 32767 ∧ e.2.len ≤ 32767) ∧
      ∀ r, fromCursor 65547 ((new none).serializeToVec ⟨_, rfl⟩) ≠ some (.ok r) :=
  have h₁ : (new none).map.len ≤ 32767 := by decide
  have h₂ : ∀ e ∈ (new none).map.entries, e.1.len ≤ 32767 ∧ e.2.len ≤ 32767 := by decide
  ⟨h₁, h₂, fromCursor_serializeToVec_ne_ok 65547 _ ⟨_, rfl⟩ h₁ h₂⟩

/-! ## The spec's reading -/

/-- The spec's reading of a STARTUP body: `from_cursor` with the count read as the two-byte
`[short]` that `serialize` writes and the spec's `[string map]` prescribes. -/
def fromCursorShort (limit : Nat) (cursor : List UInt8) :
    Option (Except Error (BodyReqStartup × List UInt8)) :=
  match readExact 2 cursor with
  | .error e => some (.error e)
  | .ok (bytes, cursor) =>
    (StringMap.withCapacity limit (beNat bytes)).bind fun map =>
      tryBind (readEntries (beNat bytes) map cursor) fun (map, cursor) => some (.ok (⟨map⟩, cursor))

/-- **The spec's reading round-trips.** Read with a two-byte count, every body within the bounds
comes back whole from its bytes, in every iteration order, and exactly its bytes are consumed. -/
theorem fromCursorShort_serializeToVec (limit : Nat) (b : BodyReqStartup)
    (it : StringMap.Iter b.map) (rest : List UInt8) (hlen : b.map.len ≤ 32767)
    (hstr : ∀ e ∈ b.map.entries, e.1.len ≤ 32767 ∧ e.2.len ≤ 32767) (hlimit : b.map.len ≤ limit) :
    fromCursorShort limit (b.serializeToVec it ++ rest) = some (.ok (b, rest)) := by
  have entries := readEntries_pairBytes it.toList ∅ rest fun e he => by
    have := hstr e ((mem_iter it).mp he)
    omega
  rw [it.length, StringMap.eq_foldl_insert] at entries
  rw [serializeToVec, serialize_eq, List.nil_append, List.append_assoc, List.cons_append,
    List.cons_append, List.nil_append, fromCursorShort, readExact_two]
  simp only [beNat_short, Nat.mod_eq_of_lt (by omega : b.map.len < 2 ^ 16),
    StringMap.withCapacity_of_le hlimit, Option.some_bind, entries, tryBind_ok]

/-- The body of `BodyReqStartup::new(None)`, read with a two-byte count and an allocator that
reserves one entry, comes back whole. -/
theorem fromCursorShort_serializeToVec_startup :
    (new none).map.len ≤ 32767 ∧
      (∀ e ∈ (new none).map.entries, e.1.len ≤ 32767 ∧ e.2.len ≤ 32767) ∧ (new none).map.len ≤ 1 ∧
      fromCursorShort 1 ((new none).serializeToVec ⟨_, rfl⟩ ++ []) = some (.ok (new none, [])) :=
  ⟨by decide, by decide, by decide,
    fromCursorShort_serializeToVec 1 _ _ [] (by decide) (by decide) (by decide)⟩

/-! ## The reserved table -/

/-- **A count with its sign bit set stops the program.** `num as usize` wraps the negative count
to more than `2 ^ 63` entries, beyond what any allocator of a 64-bit target reserves, and
`HashMap::with_capacity` panics or aborts before a single entry is read, whatever follows. -/
theorem fromCursor_negative_count (limit : Nat) (a b c d : UInt8) (rest : List UInt8)
    (hsign : 0x80 ≤ a.toNat) (hlimit : limit < 2 ^ 63) :
    fromCursor limit (a :: b :: c :: d :: rest) = none := by
  have ha := byte_lt a
  have hb := byte_lt b
  have hc := byte_lt c
  have hd := byte_lt d
  have count : limit < asUsize (CInt.ofBeBytes [a, b, c, d]) := by
    rw [asUsize, CInt.ofBeBytes, beNat_quad, if_neg (by omega)]
    omega
  simp [fromCursor, CInt.fromCursor_quad, StringMap.withCapacity_of_lt count]

/-- Four bytes `ff`: the count is `-1`, and nothing follows it. -/
theorem fromCursor_negative_count_ff :
    0x80 ≤ (0xFF : UInt8).toNat ∧ 2 ^ 62 < 2 ^ 63 ∧
      fromCursor (2 ^ 62) [0xFF, 0xFF, 0xFF, 0xFF] = none :=
  ⟨by decide, by decide, fromCursor_negative_count _ _ _ _ _ [] (by decide) (by decide)⟩

/-- Any count `from_cursor` accepts is at most a quarter of the bytes that follow it. -/
theorem fromCursor_ok_count {limit : Nat} {cursor : List UInt8} {r : BodyReqStartup × List UInt8}
    (h : fromCursor limit cursor = some (.ok r)) :
    ∃ num after, CInt.fromCursor cursor = .ok (num, after) ∧
      r.2.length + 4 * num.toNat ≤ after.length := by
  obtain ⟨num, after, _, hread, -, hentries⟩ := fromCursor_eq_some_ok h
  exact ⟨num, after, hread, readEntries_length hentries⟩

/-- A count of one and the pair `a ↦ b`: the map of that pair, and the count fits the six bytes
after it. -/
theorem fromCursor_ok_count_one :
    fromCursor 1 [0, 0, 0, 1, 0, 1, 0x61, 0, 1, 0x62] =
        some (.ok (⟨(∅ : StringMap).insert (.ofString "a") (.ofString "b")⟩, [])) ∧
      ∃ num after, CInt.fromCursor [0, 0, 0, 1, 0, 1, 0x61, 0, 1, 0x62] = .ok (num, after) ∧
        ([] : List UInt8).length + 4 * num.toNat ≤ after.length :=
  have h : fromCursor 1 [0, 0, 0, 1, 0, 1, 0x61, 0, 1, 0x62] =
      some (.ok (⟨(∅ : StringMap).insert (.ofString "a") (.ofString "b")⟩, [])) := by rfl
  ⟨h, fromCursor_ok_count h⟩

end BodyReqStartup

end CdrsTokio
