import CdrsTokio.Types.Wire
import Mathlib.Data.Finmap

/-!
# `HashMap<String, String>`

The map of a STARTUP body. Its equality is that of finite maps, as the derived `PartialEq` of
`BodyReqStartup` compares maps; its iteration order is fixed by the hasher's random state, which
the sources never see, so an iteration is any listing of the entries.

## Main definitions

* `StringMap`: the map, a `Finmap` from `Str` to `Str`
* `StringMap.Iter`: an order `&map` may iterate in
* `StringMap.withCapacity`: `HashMap::with_capacity`, which can stop the program

## Main results

* `StringMap.entries_foldl_insert`: inserting listed entries with distinct, fresh keys adds
  exactly them
* `StringMap.eq_foldl_insert`: inserting the entries of any iteration of `m` into an empty map
  gives back `m`
-/

namespace CdrsTokio

/-- `HashMap<String, String>`. -/
abbrev StringMap := Finmap fun _ : Str => Str

namespace StringMap

/-- `HashMap::len`. -/
def len (m : StringMap) : Nat := m.entries.card

/-- An order `&map` may iterate in: every entry once, in some order. -/
structure Iter (m : StringMap) where
  toList : List (Σ _ : Str, Str)
  perm : (toList : Multiset (Σ _ : Str, Str)) = m.entries

theorem Iter.length {m : StringMap} (it : Iter m) : it.toList.length = m.len := by
  rw [len, ← it.perm, Multiset.coe_card]

theorem Iter.nodupKeys {m : StringMap} (it : Iter m) : it.toList.NodupKeys :=
  Multiset.coe_nodupKeys.mp (it.perm ▸ m.nodupKeys)

/-- Insert `l`'s entries one after the other, as a decoding loop does. -/
def insertAll (m : StringMap) (l : List (Σ _ : Str, Str)) : StringMap :=
  l.foldl (fun m e => m.insert e.1 e.2) m

@[simp] theorem insertAll_cons (m : StringMap) (e : Σ _ : Str, Str) (l : List (Σ _ : Str, Str)) :
    insertAll m (e :: l) = insertAll (m.insert e.1 e.2) l := rfl

theorem entries_foldl_insert (l : List (Σ _ : Str, Str)) (m : StringMap) (hl : l.NodupKeys)
    (hm : ∀ e ∈ l, e.1 ∉ m) : (insertAll m l).entries = ↑l + m.entries := by
  induction l generalizing m with
  | nil => simp [insertAll]
  | cons e l ih =>
    obtain ⟨he, hl⟩ := List.nodupKeys_cons.mp hl
    have fresh : ∀ e' ∈ l, e'.1 ∉ m.insert e.1 e.2 := fun e' h' => by
      rw [Finmap.mem_insert, not_or]
      exact ⟨fun h => he (h ▸ List.mem_keys_of_mem h'), hm e' (List.mem_cons_of_mem _ h')⟩
    rw [insertAll_cons, ih (m.insert e.1 e.2) hl fresh,
      Finmap.insert_entries_of_neg (hm e (List.mem_cons_self _ _)), ← Multiset.cons_coe,
      Multiset.cons_add, Multiset.add_cons]

/-- **Rebuilding a map from an iteration**: whatever order `m` is listed in, inserting its
entries into an empty map gives `m` back. -/
theorem eq_foldl_insert {m : StringMap} (it : Iter m) : insertAll ∅ it.toList = m :=
  Finmap.ext <| by
    rw [entries_foldl_insert _ _ it.nodupKeys (fun _ _ => Finmap.not_mem_empty), it.perm]
    exact add_zero _

/-- `HashMap::with_capacity`: an empty map whose table has room for `capacity` entries,
allocated at once. `limit` is the most the allocator can give; past it the call panics
(`capacity overflow`, past `isize::MAX` bytes) or the allocation aborts, and the program stops:
`none`. -/
def withCapacity (limit capacity : Nat) : Option StringMap :=
  if capacity ≤ limit then some ∅ else none

theorem withCapacity_of_le {limit capacity : Nat} (h : capacity ≤ limit) :
    withCapacity limit capacity = some ∅ := if_pos h

theorem withCapacity_of_lt {limit capacity : Nat} (h : limit < capacity) :
    withCapacity limit capacity = none := if_neg (Nat.not_le.mpr h)

end StringMap

end CdrsTokio
