import CdrsTokio.Types.StringMap

/-!
# The STARTUP request body

`frame_startup.rs`: the body a client sends first on a new connection, a map of options with
`CQL_VERSION` and, when the session compresses, `COMPRESSION`; its encoder, its decoder, and
the frame that carries it.

The encoder iterates the map in whatever order the hasher gives, so it takes that order as an
argument (`StringMap.Iter`). The decoder reserves a table of the size it reads before it reads
any entry; that reservation can stop the program (`StringMap.withCapacity`), and so can a
`[string]` whose length is negative or runs past the input (`fromCursorStr`). The decoder's result
is an `Option`, `none` when the program stopped.

## Main definitions

* `BodyReqStartup.new`, `BodyReqStartup.serialize`, `BodyReqStartup.fromCursor`
* `Frame.newReqStartup`: the STARTUP frame
-/

namespace CdrsTokio

/-! ## The frame -/

/-- The protocol versions. -/
inductive Version
  | v3 | v4 | v5
deriving DecidableEq, Repr

/-- Whether a frame goes to the server or comes from it. -/
inductive Direction
  | request | response
deriving DecidableEq, Repr

/-- The header flags a request chooses: tracing and warnings. -/
structure Flags where
  tracing : Bool
  warning : Bool
deriving DecidableEq, Repr

/-- `Flags::empty()`. -/
def Flags.empty : Flags := ⟨false, false⟩

/-- The opcodes of the spec's §3. -/
inductive Opcode
  | error | startup | ready | authenticate | options | supported | query | result | prepare
  | execute | register | event | batch | authChallenge | authResponse | authSuccess
deriving DecidableEq, Repr

/-- A frame as `Frame::new` builds it. -/
structure Frame where
  version : Version
  direction : Direction
  flags : Flags
  opcode : Opcode
  body : List UInt8
  tracingId : Option (List UInt8)
  warnings : List Str

/-! ## The body -/

namespace Startup

/-- `CQL_VERSION`. -/
def cqlVersion : Str := .ofString "CQL_VERSION"

/-- `CQL_VERSION_VAL`. -/
def cqlVersionVal : Str := .ofString "3.0.0"

/-- `COMPRESSION`. -/
def compression : Str := .ofString "COMPRESSION"

theorem cqlVersion_ne_compression : cqlVersion ≠ compression := by decide

end Startup

/-- `BodyReqStartup`. -/
structure BodyReqStartup where
  map : StringMap
deriving DecidableEq

namespace BodyReqStartup

open Startup

/-- `BodyReqStartup::new`. -/
def new (compression : Option Str) : BodyReqStartup :=
  let map := (∅ : StringMap).insert cqlVersion cqlVersionVal
  { map := match compression with
      | some c => map.insert Startup.compression c
      | none => map }

/-- `<BodyReqStartup as Serialize>::serialize`, the map iterated in the order `it`. -/
def serialize (self : BodyReqStartup) (it : StringMap.Iter self.map) (cursor : List UInt8) :
    List UInt8 :=
  let num := CIntShort.ofUsize self.map.len
  it.toList.foldl (fun cursor e => serializeStr (serializeStr cursor e.1) e.2)
    (CIntShort.serialize num cursor)

/-- `Serialize::serialize_to_vec`: `serialize` into a fresh `Vec`. -/
def serializeToVec (self : BodyReqStartup) (it : StringMap.Iter self.map) : List UInt8 :=
  self.serialize it []

/-- `num as usize` for an `i32` on a 64-bit target: a negative count wraps to a huge one. -/
def asUsize (num : Int) : Nat := (num % 2 ^ 64).toNat

/-- The loop of `from_cursor`: `n` times, a key and then a value `[string]`, inserted. -/
def readEntries : Nat → StringMap → List UInt8 → Option (Except Error (StringMap × List UInt8))
  | 0, map, cursor => some (.ok (map, cursor))
  | n + 1, map, cursor =>
    tryBind (fromCursorStr cursor) fun (key, cursor) =>
    tryBind (fromCursorStr cursor) fun (val, cursor) =>
    readEntries n (map.insert key val) cursor

/-- `<BodyReqStartup as FromCursor>::from_cursor`: an `[int]` count `num`, a table reserved for
`num as usize` entries, then `for _ in 0..num` the entries, which runs `num.toNat` times. -/
def fromCursor (limit : Nat) (cursor : List UInt8) :
    Option (Except Error (BodyReqStartup × List UInt8)) :=
  match CInt.fromCursor cursor with
  | .error e => some (.error e)
  | .ok (num, cursor) =>
    (StringMap.withCapacity limit (asUsize num)).bind fun map =>
      tryBind (readEntries num.toNat map cursor) fun (map, cursor) => some (.ok (⟨map⟩, cursor))

@[simp] theorem new_none : (new none).map = (∅ : StringMap).insert cqlVersion cqlVersionVal :=
  rfl

@[simp] theorem new_some (c : Str) :
    (new (some c)).map = ((∅ : StringMap).insert cqlVersion cqlVersionVal).insert compression c :=
  rfl

end BodyReqStartup

/-- `Frame::new_req_startup`, the body's map iterated in the order `it`. -/
def Frame.newReqStartup (compression : Option Str) (version : Version)
    (it : StringMap.Iter (BodyReqStartup.new compression).map) : Frame :=
  let direction := Direction.request
  let opcode := Opcode.startup
  let body := BodyReqStartup.new compression
  ⟨version, direction, Flags.empty, opcode, body.serializeToVec it, none, []⟩

end CdrsTokio
