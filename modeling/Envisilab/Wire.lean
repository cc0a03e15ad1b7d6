import Envisilab.Basic

/-!
# The wire codec

The binary layouts of `core/message.go` and `core/location.go`, written with
`encoding/binary` in big-endian order: the 24-byte `Header` (`serialize`) and the 32-byte
`Location` (`Serialize`). Words go through `Nat`: `beBytes w x` is the `w` big-endian bytes of
`x`, and `beNat` reads them back (`beNat_beBytes`).

Reading follows `binary.Read` on a `bytes.Buffer`: a field takes its bytes with `io.ReadFull`
(`readFull`), and when fewer are left the field is not written and the buffer is drained.
`Location.deserialize_serialize` is the round trip of `Deserialize` over `Serialize`, at every
bit pattern of every field, as the model decodes them: each field takes the bits of its word. Go
decodes a `float32` field through a `float64` (`Location.decode`), which may quiet a signalling
NaN.
-/

namespace Envisilab

/-- A byte string. -/
abbrev Bytes := List UInt8

/-! ## Big-endian words -/

/-- The `w` bytes of `x` modulo `256 ^ w`, most significant first, as
`binary.Write(buf, binary.BigEndian, x)` lays out a `w`-byte word. -/
def beBytes : Nat → Nat → Bytes
  | 0, _ => []
  | w + 1, x => beBytes w (x / 256) ++ [UInt8.ofNat (x % 256)]

/-- The number whose big-endian bytes `b` are. -/
def beNat (b : Bytes) : Nat := b.foldl (fun acc y => acc * 256 + y.toNat) 0

@[simp] lemma length_beBytes (w x : Nat) : (beBytes w x).length = w := by
  induction w generalizing x with
  | zero => rfl
  | succ w ih => simp [beBytes, ih]

@[simp] lemma beNat_append_singleton (b : Bytes) (y : UInt8) :
    beNat (b ++ [y]) = beNat b * 256 + y.toNat := by
  simp [beNat, List.foldl_append]

/-- A byte holds its number modulo 256. -/
lemma toNat_ofNat_mod (x : Nat) : (UInt8.ofNat (x % 256)).toNat = x % 256 :=
  UInt8.toNat_ofNat_of_lt (Nat.mod_lt x (by decide))

/-- Reading back a word gives the number modulo `256 ^ w`. -/
theorem beNat_beBytes (w x : Nat) : beNat (beBytes w x) = x % 256 ^ w := by
  induction w generalizing x with
  | zero => simp [beBytes, beNat, Nat.mod_one]
  | succ w ih =>
    rw [beBytes, beNat_append_singleton, ih, toNat_ofNat_mod, Nat.pow_succ', Nat.mod_mul]
    omega

@[simp] lemma uInt32_beNat_beBytes (u : UInt32) :
    UInt32.ofNat (beNat (beBytes 4 u.toNat)) = u := by
  have h : u.toNat < 256 ^ 4 := u.toNat_lt_size
  refine UInt32.toNat.inj ?_
  rw [beNat_beBytes, Nat.mod_eq_of_lt h, UInt32.toNat_ofNat_of_lt u.toNat_lt_size]

@[simp] lemma uInt64_beNat_beBytes (u : UInt64) :
    UInt64.ofNat (beNat (beBytes 8 u.toNat)) = u := by
  have h : u.toNat < 256 ^ 8 := u.toNat_lt_size
  refine UInt64.toNat.inj ?_
  rw [beNat_beBytes, Nat.mod_eq_of_lt h, UInt64.toNat_ofNat_of_lt u.toNat_lt_size]

/-! ## Reading a buffer -/

/-- `io.ReadFull` on a `bytes.Buffer`: the next `n` bytes and the rest, or nothing and an
empty buffer when fewer than `n` are left. -/
def readFull (n : Nat) (buf : Bytes) : Option Bytes × Bytes :=
  if n ≤ buf.length then (some (buf.take n), buf.drop n) else (none, [])

@[simp] lemma readFull_append {n : Nat} {b : Bytes} (h : b.length = n) (rest : Bytes) :
    readFull n (b ++ rest) = (some b, rest) := by
  subst h
  simp [readFull]

/-- `binary.Read` of a fixed-size value from a buffer: decode its `n` bytes, or leave the old
value when the buffer is short. -/
def readField {α : Type} (n : Nat) (decode : Bytes → α) (old : α) (buf : Bytes) : α × Bytes :=
  match readFull n buf with
  | (some b, rest) => (decode b, rest)
  | (none, rest) => (old, rest)

@[simp] lemma readField_append {α : Type} {n : Nat} {decode : Bytes → α} {b : Bytes}
    (h : b.length = n) (old : α) (rest : Bytes) :
    readField n decode old (b ++ rest) = (decode b, rest) := by
  simp [readField, readFull_append h]

/-! ## UUIDs -/

/-- A `uuid.UUID`: sixteen bytes. -/
structure UUID where
  bytes : Bytes
  length_bytes : bytes.length = 16
deriving DecidableEq

/-- The UUID of the first sixteen bytes of `b`, padded with zeros. -/
def UUID.ofBytes (b : Bytes) : UUID := ⟨(b ++ List.replicate 16 0).take 16, by simp⟩

/-- `uuid.UUID{}`: sixteen zero bytes. -/
def UUID.nil : UUID := ⟨List.replicate 16 0, rfl⟩

@[simp] lemma UUID.ofBytes_bytes (u : UUID) : UUID.ofBytes u.bytes = u := by
  obtain ⟨b, hb⟩ := u
  simp [UUID.ofBytes, List.take_left' hb]

/-- `binary.Read` of a `uuid.UUID` reads back its bytes. -/
@[simp] lemma UUID.readField_bytes (old u : UUID) (rest : Bytes) :
    readField 16 UUID.ofBytes old (u.bytes ++ rest) = (u, rest) := by
  simp [readField_append u.length_bytes]

/-! ## The header -/

/-- A `Header`: `Magic`, `Version`, `MsgType`, `UserAgent`, `UUID` and the payload `Length`. -/
structure Header where
  magic : UInt8
  version : UInt8
  msgType : UInt8
  userAgent : UInt8
  uuid : UUID
  length : UInt32
deriving DecidableEq

/-- `serialize`: the header's 24 bytes. -/
def Header.encode (h : Header) : Bytes :=
  [h.magic, h.version, h.msgType, h.userAgent] ++ h.uuid.bytes ++ beBytes 4 h.length.toNat

/-- `binary.Read` of a `Header` from its 24 bytes. -/
def Header.decode (b : Bytes) : Header :=
  { magic := b.getD 0 0
    version := b.getD 1 0
    msgType := b.getD 2 0
    userAgent := b.getD 3 0
    uuid := UUID.ofBytes ((b.drop 4).take 16)
    length := UInt32.ofNat (beNat ((b.drop 20).take 4)) }

@[simp] lemma Header.length_encode (h : Header) : h.encode.length = 24 := by
  simp [Header.encode, h.uuid.length_bytes]

/-- The header's layout reads back. -/
@[simp] theorem Header.decode_encode (h : Header) : Header.decode h.encode = h := by
  obtain ⟨ma, ve, ty, ua, u, len⟩ := h
  simp [Header.decode, Header.encode, List.drop_append_eq_append_drop,
    List.take_append_eq_append_take, List.take_of_length_le, List.drop_eq_nil_of_le,
    u.length_bytes]

/-! ## Locations -/

/-- `Serialize`: a location's 32 bytes. -/
def Location.encode (l : Location) : Bytes :=
  beBytes 8 l.lat.toNat ++ beBytes 8 l.lng.toNat ++ beBytes 4 l.alt.toNat ++
    beBytes 4 l.heading.toNat ++ beBytes 8 l.timestamp.toNat

/-- A location from its 32 bytes, each field taking the bits of its word. `binary.Read` sets a
`float32` field through `reflect.Value.SetFloat`, that is from a `float64` the bits are first
widened to; where that widening quiets a signalling NaN, `Alt` or `Heading` then holds the quiet
NaN, which this model does not follow. -/
def Location.decode (b : Bytes) : Location :=
  { lat := UInt64.ofNat (beNat (b.take 8))
    lng := UInt64.ofNat (beNat ((b.drop 8).take 8))
    alt := UInt32.ofNat (beNat ((b.drop 16).take 4))
    heading := UInt32.ofNat (beNat ((b.drop 20).take 4))
    timestamp := UInt64.ofNat (beNat ((b.drop 24).take 8)) }

/-- `Deserialize`: `binary.Read` of a `Location` from a buffer. -/
def Location.deserialize (old : Location) (buf : Bytes) : Location × Bytes :=
  readField 32 Location.decode old buf

@[simp] lemma Location.length_encode (l : Location) : l.encode.length = 32 := by
  simp [Location.encode]

@[simp] lemma Location.decode_encode (l : Location) : Location.decode l.encode = l := by
  obtain ⟨la, ln, al, he, ti⟩ := l
  simp [Location.decode, Location.encode, List.drop_append_eq_append_drop,
    List.take_append_eq_append_take, List.take_of_length_le, List.drop_eq_nil_of_le]

/-- `Deserialize(Serialize(L)) = L`, for every bit pattern of every field, whatever follows
in the buffer and whatever the receiving location held. -/
theorem Location.deserialize_serialize (old l : Location) (rest : Bytes) :
    Location.deserialize old (l.encode ++ rest) = (l, rest) := by
  simp [Location.deserialize]

@[simp] lemma Location.deserialize_encode (old l : Location) :
    old.deserialize l.encode = (l, []) := by
  simpa using Location.deserialize_serialize old l []

end Envisilab
