import Mathlib

/-!
# Wire primitives of the CQL codec

The byte-level pieces `frame_startup.rs` calls: the big-endian `[short]` and `[int]`, the
`[string]`, the read cursor, Rust's `String`, and the crate's error type. They live in the
crate's `types` and `error` modules, which are not among these sources; each is modelled from
the spec's §4.1 ("Serialization primitives, all big-endian ... `[string]` = `[short]`-prefixed
UTF-8").

A read cursor (`Cursor<&[u8]>`) is the list of bytes it has left, so a decoder returns what it
read together with the rest. A write cursor over a fresh `Vec`, as `serialize_to_vec` makes it,
is the list of bytes written so far: every write appends.

`from_cursor_str` reads its length as the crate's `CIntShort`, an `i16`, and cuts the string out
of the buffer with a slice that checks no bound: a negative length, or one that runs past the
input, panics. A decoder that can panic returns an `Option`, `none` when the program stopped, and
`tryBind` is Rust's `?` inside it.

## Main definitions

* `Str`: a Rust `String`, its UTF-8 bytes with their well-formedness
* `readExact`, `CInt.fromCursor`, `fromCursorStr`: the decoders
* `tryBind`: `?` in a decoder that can stop the program
* `CIntShort.serialize`, `serializeStr`: the encoders

## Main results

* `fromCursorStr_serializeStr`: a `[string]` shorter than `2 ^ 15` bytes reads back as written
* `fromCursorStr_length`: reading a `[string]` consumes at least its two length bytes
-/

namespace CdrsTokio

/-- `CDRSError`, the body of a server ERROR frame, reduced to the code the session reads. -/
structure CdrsError where
  errorCode : Int
deriving DecidableEq, Repr

/-- `error::Error`, with the variants these sources raise or inspect: a cursor that ran out
(`Io`, `UnexpectedEof`), bytes that are not UTF-8, a message of the driver's own, and an
ERROR frame from the server. -/
inductive Error
  | io
  | utf8
  | general (msg : String)
  | server (error : CdrsError)
deriving DecidableEq, Repr

/-! ## UTF-8 and `String` -/

namespace Utf8

/-- A continuation byte, `80..BF`. -/
def cont (c : UInt8) : Bool := 0x80 ≤ c && c ≤ 0xBF

/-- The second byte of a three- or four-byte sequence: Table 3-7 narrows it after `E0`, `ED`,
`F0` and `F4`, which excludes overlong forms, surrogates and code points past `10FFFF`. -/
def second (b c : UInt8) : Bool :=
  if b = 0xE0 then 0xA0 ≤ c && c ≤ 0xBF
  else if b = 0xED then 0x80 ≤ c && c ≤ 0x9F
  else if b = 0xF0 then 0x90 ≤ c && c ≤ 0xBF
  else if b = 0xF4 then 0x80 ≤ c && c ≤ 0x8F
  else cont c

/-- Unicode's Table 3-7, the well-formed UTF-8 byte sequences: what `str::from_utf8` accepts. -/
def wellFormed : List UInt8 → Bool
  | [] => true
  | b :: r =>
    if b < 0x80 then wellFormed r else
    match r with
    | [] => false
    | c₁ :: r₁ =>
      if 0xC2 ≤ b && b ≤ 0xDF then cont c₁ && wellFormed r₁ else
      match r₁ with
      | [] => false
      | c₂ :: r₂ =>
        if 0xE0 ≤ b && b ≤ 0xEF then second b c₁ && cont c₂ && wellFormed r₂ else
        match r₂ with
        | [] => false
        | c₃ :: r₃ =>
          0xF0 ≤ b && b ≤ 0xF4 && second b c₁ && cont c₂ && cont c₃ && wellFormed r₃

end Utf8

/-- A Rust `String`: its UTF-8 bytes, well formed by construction. -/
structure Str where
  bytes : List UInt8
  wellFormed : Utf8.wellFormed bytes = true
deriving DecidableEq

/-- `String::len`, in bytes. -/
def Str.len (s : Str) : Nat := s.bytes.length

/-- A string constant of the sources, such as `"CQL_VERSION"`. -/
def Str.ofString (s : String) (h : Utf8.wellFormed s.toUTF8.data.toList = true := by decide) :
    Str :=
  ⟨s.toUTF8.data.toList, h⟩

/-! ## Numbers -/

theorem byte_lt (b : UInt8) : b.toNat < 256 := b.toBitVec.isLt

/-- The number the bytes spell, most significant first. -/
def beNat (bytes : List UInt8) : Nat := bytes.foldl (fun acc b => acc * 256 + b.toNat) 0

theorem beNat_pair (x y : UInt8) : beNat [x, y] = x.toNat * 256 + y.toNat := by
  simp [beNat]

/-- `i32::from_be_bytes`: the four bytes read as a two's complement `[int]`. -/
def CInt.ofBeBytes (bytes : List UInt8) : Int :=
  if beNat bytes < 2 ^ 31 then beNat bytes else beNat bytes - 2 ^ 32

/-- `i16::from_be_bytes`: the two bytes read as a two's complement `CIntShort`. -/
def CIntShort.ofBeBytes (bytes : List UInt8) : Int :=
  if beNat bytes < 2 ^ 15 then beNat bytes else beNat bytes - 2 ^ 16

/-- `x as CIntShort` for an unsigned `x`: the low 16 bits, which is all its two bytes keep. -/
def CIntShort.ofUsize (n : Nat) : Nat := n % 2 ^ 16

/-- `CIntShort::serialize`: the two big-endian bytes of a 16-bit pattern. -/
def CIntShort.serialize (num : Nat) (cursor : List UInt8) : List UInt8 :=
  cursor ++ [UInt8.ofNat (num / 256), UInt8.ofNat num]

theorem beNat_short (n : Nat) :
    beNat [UInt8.ofNat (n / 256), UInt8.ofNat n] = n % 2 ^ 16 := by
  rw [beNat_pair]
  show n / 256 % 256 * 256 + n % 256 = n % 2 ^ 16
  omega

/-! ## The read cursor -/

/-- `Read::read_exact` on a `Cursor<&[u8]>`: the next `n` bytes, or `UnexpectedEof`. -/
def readExact (n : Nat) (cursor : List UInt8) : Except Error (List UInt8 × List UInt8) :=
  if n ≤ cursor.length then .ok (cursor.take n, cursor.drop n) else .error .io

theorem readExact_append {n : Nat} (bytes rest : List UInt8) (h : bytes.length = n) :
    readExact n (bytes ++ rest) = .ok (bytes, rest) := by
  subst h
  simp [readExact, List.take_left, List.drop_left]

theorem readExact_two (x y : UInt8) (rest : List UInt8) :
    readExact 2 (x :: y :: rest) = .ok ([x, y], rest) :=
  readExact_append [x, y] rest rfl

theorem readExact_quad (a b c d : UInt8) (rest : List UInt8) :
    readExact 4 (a :: b :: c :: d :: rest) = .ok ([a, b, c, d], rest) :=
  readExact_append [a, b, c, d] rest rfl

theorem readExact_of_lt {n : Nat} {cursor : List UInt8} (h : cursor.length < n) :
    readExact n cursor = .error .io := by
  simp [readExact, Nat.not_le.mpr h]

theorem readExact_eq_ok {n : Nat} {cursor bytes rest : List UInt8}
    (h : readExact n cursor = .ok (bytes, rest)) :
    bytes.length = n ∧ cursor = bytes ++ rest := by
  unfold readExact at h
  split at h
  · cases h
    exact ⟨List.length_take_of_le ‹_›, by simp⟩
  · cases h

/-- `CInt::from_cursor`: a four-byte `[int]`. -/
def CInt.fromCursor (cursor : List UInt8) : Except Error (Int × List UInt8) := do
  let (bytes, cursor) ← readExact 4 cursor
  pure (CInt.ofBeBytes bytes, cursor)

theorem CInt.fromCursor_quad (a b c d : UInt8) (rest : List UInt8) :
    CInt.fromCursor (a :: b :: c :: d :: rest) = .ok (CInt.ofBeBytes [a, b, c, d], rest) := by
  simp [CInt.fromCursor, readExact_quad, bind, Except.bind, pure, Except.pure]

theorem except_map_eq_ok {ε α β : Type} {f : α → β} {x : Except ε α} {y : β}
    (h : x.map f = .ok y) : ∃ a, x = .ok a ∧ f a = y := by
  cases x with
  | error e => cases h
  | ok a => exact ⟨a, rfl, Except.ok.inj h⟩

/-- Rust's `?` in code that can also panic: an error returns early, and a stopped program
(`none`) stays stopped. -/
def tryBind {α β : Type} (x : Option (Except Error α)) (f : α → Option (Except Error β)) :
    Option (Except Error β) :=
  match x with
  | some (.ok a) => f a
  | some (.error e) => some (.error e)
  | none => none

@[simp] theorem tryBind_ok {α β : Type} (a : α) (f : α → Option (Except Error β)) :
    tryBind (some (.ok a)) f = f a := rfl

@[simp] theorem tryBind_error {α β : Type} (e : Error) (f : α → Option (Except Error β)) :
    tryBind (some (.error e)) f = some (.error e) := rfl

@[simp] theorem tryBind_none {α β : Type} (f : α → Option (Except Error β)) :
    tryBind none f = none := rfl

theorem tryBind_eq_some_ok {α β : Type} {x : Option (Except Error α)}
    {f : α → Option (Except Error β)} {y : β} (h : tryBind x f = some (.ok y)) :
    ∃ a, x = some (.ok a) ∧ f a = some (.ok y) := by
  match x, h with
  | some (.ok a), h => exact ⟨a, rfl, h⟩

/-! ## `[string]` -/

/-- `from_cursor_str`, whose code is not among these sources, as the crate has it: the `[short]`
length read as a `CIntShort`, the `len as u64` bytes after it sliced out of the buffer with no
bound checked, and `str::from_utf8` of them. Fewer than two bytes left is `UnexpectedEof`; a
negative length, or one past the input, makes the slice panic and the program stop. -/
def fromCursorStr (cursor : List UInt8) : Option (Except Error (Str × List UInt8)) :=
  tryBind (some (readExact 2 cursor)) fun (lenBytes, cursor) =>
    let len := CIntShort.ofBeBytes lenBytes
    if len < 0 ∨ cursor.length < len.toNat then none
    else
      let body := cursor.take len.toNat
      if h : Utf8.wellFormed body then some (.ok (⟨body, h⟩, cursor.drop len.toNat))
      else some (.error .utf8)

/-- `serialize_str`: the length `as CIntShort`, then the bytes. -/
def serializeStr (cursor : List UInt8) (value : Str) : List UInt8 :=
  CIntShort.serialize (CIntShort.ofUsize value.len) cursor ++ value.bytes

theorem ofNat_eq_of_mod {a b : Nat} (h : a % 256 = b % 256) : UInt8.ofNat a = UInt8.ofNat b :=
  UInt8.eq_of_toBitVec_eq (BitVec.eq_of_toNat_eq h)

/-- The cast to `CIntShort` is invisible in the two bytes written. -/
theorem CIntShort.serialize_ofUsize (n : Nat) (cursor : List UInt8) :
    CIntShort.serialize (CIntShort.ofUsize n) cursor = CIntShort.serialize n cursor := by
  simp only [CIntShort.serialize, CIntShort.ofUsize, List.append_cancel_left_eq, List.cons.injEq,
    and_true]
  exact ⟨ofNat_eq_of_mod (by omega), ofNat_eq_of_mod (by omega)⟩

theorem serializeStr_eq (cursor : List UInt8) (value : Str) :
    serializeStr cursor value =
      cursor ++ UInt8.ofNat (value.len / 256) :: UInt8.ofNat value.len :: value.bytes := by
  rw [serializeStr, CIntShort.serialize_ofUsize]
  simp [CIntShort.serialize]

/-- The length bytes `serialize_str` writes read back as the length, below `2 ^ 15`. -/
theorem ofBeBytes_short {n : Nat} (h : n < 2 ^ 15) :
    CIntShort.ofBeBytes [UInt8.ofNat (n / 256), UInt8.ofNat n] = n := by
  rw [CIntShort.ofBeBytes, beNat_short, Nat.mod_eq_of_lt (by omega), if_pos h]

/-- `from_cursor_str` after a length `n` that fits: the string is the next `n` bytes. -/
theorem fromCursorStr_of_le {n : Nat} (h : n < 2 ^ 15) {cursor : List UInt8}
    (hn : n ≤ cursor.length) :
    fromCursorStr (UInt8.ofNat (n / 256) :: UInt8.ofNat n :: cursor) =
      if h : Utf8.wellFormed (cursor.take n) then some (.ok (⟨_, h⟩, cursor.drop n))
      else some (.error .utf8) := by
  simp only [fromCursorStr, readExact_two, tryBind_ok, ofBeBytes_short h, Int.toNat_ofNat]
  rw [if_neg (by omega)]

/-- **Round trip of one `[string]`**: below `2 ^ 15` bytes, the length is a non-negative
`CIntShort` and the string reads back as written. -/
theorem fromCursorStr_serializeStr (s : Str) (rest : List UInt8) (h : s.len < 2 ^ 15) :
    fromCursorStr (serializeStr [] s ++ rest) = some (.ok (s, rest)) := by
  have hlen : s.len = s.bytes.length := rfl
  rw [serializeStr_eq, List.nil_append, List.cons_append, List.cons_append,
    fromCursorStr_of_le h (by simp [hlen])]
  simp [hlen, s.wellFormed]

/-- Reading a `[string]` consumes its two length bytes and its body. -/
theorem fromCursorStr_length {cursor rest : List UInt8} {s : Str}
    (h : fromCursorStr cursor = some (.ok (s, rest))) : rest.length + 2 ≤ cursor.length := by
  obtain ⟨⟨lenBytes, after⟩, hlen, hbody⟩ := tryBind_eq_some_ok h
  obtain ⟨hl, rfl⟩ := readExact_eq_ok (Option.some.inj hlen)
  dsimp only at hbody
  split_ifs at hbody <;> cases hbody
  simp only [List.length_append, List.length_drop, hl]
  omega

end CdrsTokio
